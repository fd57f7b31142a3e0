/-
**The steps that checks and executions are made of.**

A check reads a ledger and stops at the first rule that is broken.  An execution is an update that
may stop with a fault.

Main definitions:

* `Context` — the time and the policy under which a contract runs;
* `Check` and its steps — reading addresses, names and accounts out of a payload;
* `Execution` and its steps — the same for an execution.
-/

import AccountLedger.Engine.Outcome
import AccountLedger.Policy
import AccountLedger.Requirement
import AccountLedger.Text.Utf8

set_option relaxedAutoImplicit false
set_option autoImplicit false

namespace AccountLedger

/-- What a contract runs under: the time, read once, and the policy. -/
structure Context where
  now : Int64
  policy : Policy
  deriving DecidableEq, Repr

/-- The fee of one kind of contract. -/
def Context.fee (ctx : Context) (k : Kind) : Int64 := ctx.policy.fees.fee k

/-! ### Checks -/

/-- A check yields what it read, or the rule that is broken. -/
abbrev Check := Except Rejection

namespace Check

/-- An arithmetic result. -/
def compute {α : Type} (x : Except ArithmeticError α) : Check α := x.mapError .arithmetic

/-- The address that a payload names for a role. -/
def address (role : Role) (bs : Bytes) : Check Address :=
  (Address.ofBytes bs).mapError (.invalidAddress role)

/-- The account that plays a role. -/
def account (l : Ledger) (role : Role) (a : Address) : Check Account :=
  match l.account? a with
  | none => .error (.accountNotFound role a)
  | some r => .ok r

/-- The asset of a name. -/
def asset (l : Ledger) (name : String) : Check Asset :=
  match l.asset? name with
  | none => .error (.assetNotFound name)
  | some r => .ok r

/-- An asset name is well-formed text and not empty. -/
def assetName (bs : Bytes) : Check String := do
  require (bs ≠ []) (.refused .emptyAssetName)
  match Utf8.decode? bs with
  | none => throw (.refused .assetNameNotUtf8)
  | some s => return s

/-- A page address is well-formed text of at least one and at most `maxUrlLength` bytes. -/
def url (bs : Bytes) : Check String := do
  require (bs ≠ [] ∧ bs.length ≤ maxUrlLength) (.refused .urlLength)
  match Utf8.decode? bs with
  | none => throw (.refused .urlNotUtf8)
  | some s => return s

/-- A quantity is positive. -/
def positive (q : Quantity) (amount : Int64) : Check Unit :=
  require (0 < amount) (.nonPositive q)

/-- A balance covers what is required of it. -/
def covered (required available : Int64) : Check Unit :=
  require (required ≤ available) (.insufficientBalance required available)

end Check

/-! ### Executions -/

/-- An update that may stop with a fault. -/
abbrev Execution := ExceptT Fault Update

namespace Execution

/-- An arithmetic result. -/
def compute {α : Type} (x : Except ArithmeticError α) : Execution α :=
  ExceptT.mk (pure (x.mapError .arithmetic))

/-- A step of storage. -/
def perform {α : Type} (x : ExceptT StoreError Update α) : Execution α := x.adapt Fault.store

/-- A step that only reads or writes. -/
def step {α : Type} (u : Update α) : Execution α := ExceptT.lift u

/-- The address in a payload. -/
def address (bs : Bytes) : Execution Address :=
  ExceptT.mk (pure ((Address.ofBytes bs).mapError .address))

/-- The account that plays a role, as it is at this point of the execution. -/
def account (role : Role) (a : Address) : Execution Account := do
  match ← step (Update.account? a) with
  | none => throw (.missingAccount role a)
  | some r => return r

/-- Stores an account. -/
def put (r : Account) : Execution Unit := step (Update.putAccount r)

/-- Changes a balance. -/
def adjust (a : Address) (delta : Int64) : Execution Unit := perform (Update.adjustBalance a delta)

/-- Moves a fee into the sink. -/
def charge (owner : Address) (fee : Int64) : Execution Unit := perform (Update.chargeFee owner fee)

end Execution

end AccountLedger
