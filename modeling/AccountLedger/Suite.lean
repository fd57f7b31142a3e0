/-
**Suites of scenarios.**

A file holds a row of scenarios.  They are run one after the other, and a line is printed for each
that passes, and one for each difference in those that do not.

Main definitions:

* `Suite.Files` — where files come from;
* `Suite.ofFile?` — the scenarios of a file;
* `Suite.report` — what is printed, and whether all passed;
* `Suite.run` — the report for the arguments of a command line.
-/

import AccountLedger.Document.Scenario
import AccountLedger.Json.Parser
import AccountLedger.Text.Utf8

set_option relaxedAutoImplicit false
set_option autoImplicit false

namespace AccountLedger

namespace Suite

/-! ### Reports -/

/-- The scenarios that a text holds. -/
def ofText? (text : String) : Option (List Scenario) :=
  (Json.parse text).bind (Json.asList? (Scenario.ofJson? 1))

/-- The scenarios of a file's bytes. -/
def ofFile? (file : Bytes) : Option (List Scenario) := (Utf8.decode? file).bind ofText?

/-- A row of lines, each ended. -/
def lines (ls : List String) : String := String.join (ls.map fun l => l ++ "\n")

/-- The lines on one scenario. -/
def reportLines (r : Report) : List String :=
  if r.passed then ["[PASS] " ++ r.name ++ ": hash=" ++ r.hash]
  else ("[FAIL] " ++ r.name ++ ":") :: r.mismatches.map fun m => "  " ++ m.message

/-- **What is printed on the scenarios of a file, and whether all passed.** -/
def report (path : String) (scenarios : List Scenario) : String × Bool :=
  let reports := scenarios.map Scenario.run
  let count := scenarios.length
  let passed := (reports.filter Report.passed).length
  let text := lines (
    ["Loaded " ++ Decimal.ofNat count ++ " scenarios from: " ++ path]
      ++ reports.flatMap reportLines
      ++ ["", "===========================================",
        "Results: " ++ Decimal.ofNat passed ++ "/" ++ Decimal.ofNat count ++ " passed",
        if passed = count then "[OK] All scenarios PASSED." else "[FAIL] Some scenarios failed."])
  (text, passed = count)

/-! ### Command lines -/

/-- Where files come from. -/
structure Files (m : Type → Type) where
  /-- Is there a file? -/
  isThere : String → m Bool
  /-- The bytes of a file, if it can be read. -/
  read? : String → m (Option Bytes)

/-- Why nothing is run. -/
inductive SuiteError
  | noFile
  | unreadable (path : String)
  | malformed (path : String)
  deriving DecidableEq, Repr

/-- The wording of a failure. -/
def SuiteError.message : SuiteError → String
  | noFile => "no scenario file given and none found at the usual places"
  | unreadable path => "cannot read " ++ path
  | malformed path => "no scenarios in " ++ path

/-- The files that are looked for if none is given, in this order. -/
def defaultPaths : List String :=
  ["tests/fixtures/scenarios.json", "ledger_engine/tests/fixtures/scenarios.json"]

variable {m : Type → Type} [Monad m]

/-- The file that is run: the first argument, or the first that is there of those looked for. -/
def path? (files : Files m) : List String → m (Option String)
  | path :: _ => return some path
  | [] => defaultPaths.findM? files.isThere

/-- **The report for the arguments of a command line.** -/
def run (files : Files m) (args : List String) : m (Except SuiteError (String × Bool)) := do
  match ← path? files args with
  | none => return .error .noFile
  | some path =>
      match ← files.read? path with
      | none => return .error (.unreadable path)
      | some file =>
          match ofFile? file with
          | none => return .error (.malformed path)
          | some scenarios => return .ok (report path scenarios)

end Suite

end AccountLedger
