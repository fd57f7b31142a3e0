/-
**The command line.**

Runs the scenarios of a file and prints a report.  The exit code is zero iff the file could be read
and all its scenarios passed.

Main definitions:

* `CommandLine.files` — the files of the machine;
* `main` — the program.
-/

import AccountLedger.Suite

set_option relaxedAutoImplicit false
set_option autoImplicit false

namespace AccountLedger

namespace CommandLine

/-- Can a path be opened? -/
def isThere (path : String) : IO Bool :=
  try
    let _ ← IO.FS.Handle.mk path .read
    return true
  catch _ => return false

/-- The bytes of a file, if it can be read. -/
def read? (path : String) : IO (Option Bytes) :=
  try
    let bytes ← IO.FS.readBinFile path
    return some bytes.toList
  catch _ => return none

/-- The files of the machine. -/
def files : Suite.Files IO := ⟨isThere, read?⟩

/-- Prints the report for the arguments; the exit code says whether all scenarios passed. -/
def run (args : List String) : IO UInt32 := do
  match ← Suite.run files args with
  | .error e =>
      IO.eprintln ("Error: " ++ e.message)
      return 1
  | .ok (text, passed) =>
      IO.print text
      return if passed then 0 else 1

end CommandLine

end AccountLedger

/-- The program: its first argument is the file to run. -/
def main (args : List String) : IO UInt32 := AccountLedger.CommandLine.run args
