/-
**Scenarios.**

A scenario is a ledger with a row of contracts, each with the time it runs at and what is expected of
it.  A run applies the contracts one after the other and reports where reality differs.

Main definitions:

* `Verdict`, `Step`, `Scenario` — what is expected, and of what;
* `Mismatch` — a difference, and its wording;
* `Scenario.run` — the report of a run.
-/

import AccountLedger.Engine.Run
import AccountLedger.Ledger.Canonical
import AccountLedger.Ledger.Check

set_option relaxedAutoImplicit false
set_option autoImplicit false

namespace AccountLedger

/-! ### Expectations -/

/-- What becomes of a contract. -/
inductive Verdict
  | success
  | rejected
  | failed
  deriving DecidableEq, Repr

/-- The word for a verdict. -/
def Verdict.name : Verdict → String
  | success => "Success"
  | rejected => "Rejected"
  | failed => "Failed"

/-- A contract with its time, the expected verdict, and the expected fee if it matters. -/
structure Step where
  now : Int64
  contract : Contract
  expect : Verdict
  fee : Option Int64
  deriving DecidableEq, Repr

/-- A ledger, a row of contracts, and the expected state hash if it matters. -/
structure Scenario where
  name : String
  genesis : Ledger
  policy : Policy
  steps : List Step
  expectedHash : Option String

/-! ### Differences -/

/-- A difference between what is expected and what is. -/
inductive Mismatch
  | genesis (v : Violation)
  | verdict (index : Nat) (kind : Kind) (expected actual : Verdict)
  | fee (index : Nat) (kind : Kind) (expected actual : Int64)
  | notCommitted (index : Nat) (kind : Kind) (e : StoreError)
  | final (v : Violation)
  | hash (expected actual : String)

/-- The heading of a difference at a step. -/
def Mismatch.heading (index : Nat) (kind : Kind) : String :=
  "step " ++ Decimal.ofNat index ++ " (" ++ kind.messageName ++ "): "

/-- The wording of a difference. -/
def Mismatch.message : Mismatch → String
  | genesis v => "genesis: " ++ v.message
  | verdict index kind expected actual =>
      heading index kind ++ "expected " ++ expected.name ++ ", got " ++ actual.name
  | fee index kind expected actual =>
      heading index kind ++ "expected fee " ++ Decimal.ofInt64 expected ++ ", got "
        ++ Decimal.ofInt64 actual
  | notCommitted index kind e => heading index kind ++ "commit failed: " ++ e.message
  | final v => "final state: " ++ v.message
  | hash expected actual => "hash mismatch: expected " ++ expected ++ ", got " ++ actual

/-! ### Runs -/

/-- Applies the contract of a step. -/
def Step.run (s : Step) (policy : Policy) (l : Ledger) : Except Failure Receipt × Ledger :=
  Engine.apply s.contract ⟨s.now, policy⟩ l

/-- The differences in the verdict and in the fee, as far as there is one. -/
def Step.compare (s : Step) (index : Nat) (actual : Verdict) (fee : Option Int64) :
    List Mismatch :=
  let kind := s.contract.kind
  (if actual = s.expect then [] else [.verdict index kind s.expect actual])
    ++ match s.fee, fee with
      | some expected, some fee => if fee = expected then [] else [.fee index kind expected fee]
      | _, _ => []

/-- The differences at a step, given what became of its contract. -/
def Step.mismatches (s : Step) (index : Nat) : Except Failure Receipt → List Mismatch
  | .ok receipt => s.compare index .success (some receipt.fee)
  | .error (.rejected _) => s.compare index .rejected none
  | .error (.failed receipt _) => s.compare index .failed (some receipt.fee)
  | .error (.notCommitted e) => [.notCommitted index s.contract.kind e]

namespace Scenario

/-- The differences at a row of steps, the first of which has a given index, and the ledger after
them. -/
def runSteps (policy : Policy) : Nat → Ledger → List Step → List Mismatch × Ledger
  | _, l, [] => ([], l)
  | index, l, s :: rest =>
      let (result, l) := s.run policy l
      let (mismatches, l) := runSteps policy (index + 1) l rest
      (s.mismatches index result ++ mismatches, l)

end Scenario

/-- What comes of a run: the name of the scenario, the ledger after it and its state hash, and the
differences that were found. -/
structure Report where
  name : String
  ledger : Ledger
  hash : String
  mismatches : List Mismatch

/-- Did a run go as expected? -/
def Report.passed (r : Report) : Bool := r.mismatches.isEmpty

namespace Scenario

/-- The violation of a ledger, if there is one, as a difference. -/
def violations (of : Violation → Mismatch) (l : Ledger) : List Mismatch :=
  match l.check with
  | .ok () => []
  | .error v => [of v]

/-- The difference in the state hash, if one is expected. -/
def hashMismatches (expected : Option String) (actual : String) : List Mismatch :=
  match expected with
  | none => []
  | some h => if h = actual then [] else [.hash h actual]

/-- **Runs a scenario.** -/
def run (s : Scenario) : Report :=
  let (mismatches, l) := runSteps s.policy 0 s.genesis s.steps
  let hash := l.stateHash
  ⟨s.name, l, hash, violations .genesis s.genesis ++ mismatches ++ violations .final l
    ++ hashMismatches s.expectedHash hash⟩

end Scenario

end AccountLedger
