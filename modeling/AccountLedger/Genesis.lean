/-
**Genesis documents.**

A genesis document is the full text of a ledger, laid out with lines.  It is restored only if the
ledger passes its check.

Main definitions:

* `Genesis.encode`, `Genesis.decode` — a ledger as a document, and back;
* `Genesis.restore`, `Genesis.hash` — the checked ledger of a document, and its state hash;
* `Genesis.fromFile`, `Genesis.toFile` — the same from and to the bytes of a file.
-/

import AccountLedger.Json.Parser
import AccountLedger.Ledger.Canonical
import AccountLedger.Ledger.Check

set_option relaxedAutoImplicit false
set_option autoImplicit false

namespace AccountLedger

/-- Why a genesis document yields no ledger. -/
inductive GenesisError
  /-- The text is no document of a ledger. -/
  | malformed
  | violation (v : Violation)
  /-- There is no file, or it is not text. -/
  | unreadable
  deriving DecidableEq

/-- The wording of a genesis failure. -/
def GenesisError.message : GenesisError → String
  | malformed => "deserialization failed"
  | violation v => "genesis violates ledger invariants: " ++ v.message
  | unreadable => "genesis file I/O failed"

namespace Genesis

/-- The document of a ledger. -/
def encode (l : Ledger) : String := l.toJson.pretty

/-- The ledger of a document, unchecked. -/
def decode (document : String) : Except GenesisError Ledger :=
  match (Json.parse document).bind Ledger.ofJson? with
  | none => .error .malformed
  | some l => .ok l

/-- The ledger of a document, checked. -/
def restore (document : String) : Except GenesisError Ledger := do
  let l ← decode document
  l.check.mapError .violation
  return l

/-- The state hash of a checked document. -/
def hash (document : String) : Except GenesisError String :=
  (restore document).map Ledger.stateHash

/-- The checked ledger of a file's bytes, if there is a file. -/
def fromFile (file : Option Bytes) : Except GenesisError Ledger :=
  match file.bind Utf8.decode? with
  | none => .error .unreadable
  | some document => restore document

/-- The bytes of the file that a ledger is exported to. -/
def toFile (l : Ledger) : Bytes := Utf8.encode (encode l)

end Genesis

end AccountLedger
