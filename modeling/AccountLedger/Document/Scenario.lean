/-
**Scenarios as documents.**

Main definitions:

* `Step.toJson`, `Step.ofJson?` — a step as a record;
* `Scenario.toJson`, `Scenario.ofJson?` — a scenario as a record.
-/

import AccountLedger.Document.Contract
import AccountLedger.Document.Ledger
import AccountLedger.Document.Policy
import AccountLedger.Scenario

set_option relaxedAutoImplicit false
set_option autoImplicit false

namespace AccountLedger

open Json (asInt64? asText? asList? asVariant? asOption?)

/-! ### Steps -/

/-- The names of the verdicts in documents. -/
def Verdict.variants : List (String × Verdict) :=
  [("success", .success), ("rejected", .rejected), ("failed", .failed)]

/-- The name of a verdict in documents. -/
def Verdict.key : Verdict → String
  | success => "success"
  | rejected => "rejected"
  | failed => "failed"

/-- A value that may be absent. -/
def Json.optional {α : Type} (write : α → Json) : Option α → Json
  | none => .null
  | some a => write a

/-- A step as a record. -/
def Step.toJson (s : Step) : Json :=
  .record [
    ("now", .int64 s.now),
    ("contract", s.contract.toJson),
    ("expect", .text s.expect.key),
    ("fee", .optional .int64 s.fee)]

/-- A step from a record that stands in `depth` other containers. -/
def Step.ofJson? (depth : Nat) (j : Json) : Option Step := do
  match ← j.fields? ["now", "contract", "expect", "fee"] .refused with
  | [now, contract, expect, fee] => do
      return {
        now := ← Field.required asInt64? now
        contract := ← Field.required (Contract.ofJson? (depth + 1)) contract
        expect := ← Field.required (asVariant? Verdict.variants) expect
        fee := ← Field.orElse (asOption? asInt64?) none fee }
  | _ => none

/-! ### Scenarios -/

/-- A scenario as a record. -/
def Scenario.toJson (s : Scenario) : Json :=
  .record [
    ("name", .text s.name),
    ("genesis", s.genesis.toJson),
    ("config", s.policy.toJson),
    ("steps", .array (s.steps.map Step.toJson)),
    ("expected_hash", .optional .text s.expectedHash)]

/-- A scenario from a record that stands in `depth` other containers. -/
def Scenario.ofJson? (depth : Nat) (j : Json) : Option Scenario := do
  match ← j.fields? ["name", "genesis", "config", "steps", "expected_hash"] .refused with
  | [name, genesis, policy, steps, expectedHash] => do
      return {
        name := ← Field.required asText? name
        genesis := ← Field.required Ledger.ofJson? genesis
        policy := ← Field.orElse Policy.ofJson? {} policy
        steps := ← Field.required (asList? (Step.ofJson? (depth + 2))) steps
        expectedHash := ← Field.orElse (asOption? asText?) none expectedHash }
  | _ => none

end AccountLedger
