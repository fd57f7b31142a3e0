/-
**Updates: reads and writes as data.**

What a contract does to the ledger is a series of reads and writes in which a later step may depend
on what an earlier one read.  An `Update` is such a series, free of any storage; the same update can
be carried out directly on a ledger (`Update.runOn`) or on an overlay that only buffers the writes
(`AccountLedger.Ledger.Overlay`).

Main definitions:

* `Update` — a series of reads and writes that ends in an answer;
* `Update.runOn` — carrying it out on a ledger, each write at once;
* `StoreError` — what storage reports, and its wording;
* `Update.adjustBalance` — changing one balance, never below zero;
* `Update.chargeFee` — moving a fee into the sink.

Main results:

* `Update.runOn_bind` — an update after another runs on the ledger the first leaves.
-/

import AccountLedger.Ledger.Basic

set_option relaxedAutoImplicit false
set_option autoImplicit false

namespace AccountLedger

/-- A series of reads and writes that ends in an answer. -/
inductive Update (α : Type) : Type
  | done (answer : α)
  | readAccount (a : Address) (next : Option Account → Update α)
  | readAsset (name : String) (next : Option Asset → Update α)
  | readWitness (a : Address) (next : Option Witness → Update α)
  | readParameters (next : Parameters → Update α)
  | readSink (next : Address → Update α)
  | writeAccount (r : Account) (next : Update α)
  | writeAsset (r : Asset) (next : Update α)
  | writeWitness (r : Witness) (next : Update α)

namespace Update

variable {α β : Type}

/-- One update after another. -/
def andThen : Update α → (α → Update β) → Update β
  | done a, f => f a
  | readAccount a next, f => readAccount a fun r => (next r).andThen f
  | readAsset n next, f => readAsset n fun r => (next r).andThen f
  | readWitness a next, f => readWitness a fun r => (next r).andThen f
  | readParameters next, f => readParameters fun r => (next r).andThen f
  | readSink next, f => readSink fun r => (next r).andThen f
  | writeAccount r next, f => writeAccount r (next.andThen f)
  | writeAsset r next, f => writeAsset r (next.andThen f)
  | writeWitness r next, f => writeWitness r (next.andThen f)

instance : Monad Update where
  pure := done
  bind := andThen

/-! ### Single steps -/

/-- Reads the account under an address. -/
def account? (a : Address) : Update (Option Account) := readAccount a done

/-- Reads the asset of a name. -/
def asset? (name : String) : Update (Option Asset) := readAsset name done

/-- Reads the witness under an address. -/
def witness? (a : Address) : Update (Option Witness) := readWitness a done

/-- Reads the network parameters. -/
def parameters : Update Parameters := readParameters done

/-- Reads the address of the sink. -/
def sink : Update Address := readSink done

/-- Stores an account under its own address. -/
def putAccount (r : Account) : Update Unit := writeAccount r (done ())

/-- Registers an asset under its own name. -/
def putAsset (r : Asset) : Update Unit := writeAsset r (done ())

/-- Registers a witness under its own address. -/
def putWitness (r : Witness) : Update Unit := writeWitness r (done ())

/-! ### Carrying out an update directly -/

/-- Carries out an update on a ledger; every write takes effect at once. -/
def runOn : Update α → Ledger → α × Ledger
  | done a, l => (a, l)
  | readAccount a next, l => (next (l.account? a)).runOn l
  | readAsset n next, l => (next (l.asset? n)).runOn l
  | readWitness a next, l => (next (l.witness? a)).runOn l
  | readParameters next, l => (next l.parameters).runOn l
  | readSink next, l => (next l.sink).runOn l
  | writeAccount r next, l => next.runOn (l.putAccount r)
  | writeAsset r next, l => next.runOn (l.putAsset r)
  | writeWitness r next, l => next.runOn (l.putWitness r)

@[simp] theorem runOn_pure (a : α) (l : Ledger) : (pure a : Update α).runOn l = (a, l) := rfl

/-- **An update after another runs on the ledger the first leaves.** -/
@[simp] theorem runOn_bind (u : Update α) (f : α → Update β) (l : Ledger) :
    (u >>= f).runOn l = (f (u.runOn l).1).runOn (u.runOn l).2 := by
  show (u.andThen f).runOn l = _
  induction u generalizing l with
  | done a => rfl
  | readAccount a next ih => exact ih _ l
  | readAsset n next ih => exact ih _ l
  | readWitness a next ih => exact ih _ l
  | readParameters next ih => exact ih _ l
  | readSink next ih => exact ih _ l
  | writeAccount r next ih => exact ih _
  | writeAsset r next ih => exact ih _
  | writeWitness r next ih => exact ih _

@[simp] theorem runOn_account? (a : Address) (l : Ledger) :
    (account? a).runOn l = (l.account? a, l) := rfl

@[simp] theorem runOn_asset? (n : String) (l : Ledger) :
    (asset? n).runOn l = (l.asset? n, l) := rfl

@[simp] theorem runOn_witness? (a : Address) (l : Ledger) :
    (witness? a).runOn l = (l.witness? a, l) := rfl

@[simp] theorem runOn_parameters (l : Ledger) : parameters.runOn l = (l.parameters, l) := rfl

@[simp] theorem runOn_sink (l : Ledger) : sink.runOn l = (l.sink, l) := rfl

@[simp] theorem runOn_putAccount (r : Account) (l : Ledger) :
    (putAccount r).runOn l = ((), l.putAccount r) := rfl

@[simp] theorem runOn_putAsset (r : Asset) (l : Ledger) :
    (putAsset r).runOn l = ((), l.putAsset r) := rfl

@[simp] theorem runOn_putWitness (r : Witness) (l : Ledger) :
    (putWitness r).runOn l = ((), l.putWitness r) := rfl

end Update

/-! ### Balances and fees -/

/-- What storage reports. -/
inductive StoreError
  | accountNotFound (a : Address)
  /-- The balance would fall below zero. -/
  | insufficientBalance (a : Address) (balance delta : Int64)
  | arithmetic (e : ArithmeticError)
  /-- The storage itself failed, with its own words for it. -/
  | backend (reason : String)
  deriving DecidableEq

/-- The wording of a storage failure. -/
def StoreError.message : StoreError → String
  | accountNotFound a => "account " ++ a.hex ++ " not found"
  | insufficientBalance a balance delta =>
      "account " ++ a.hex ++ " has insufficient balance " ++ Decimal.ofInt64 balance
        ++ " for delta " ++ Decimal.ofInt64 delta
  | arithmetic e => e.message
  | backend reason => "storage backend failure: " ++ reason

namespace Update

/-- Adds `delta` to the balance of an existing account.  A balance that would overflow or fall
below zero is refused, and nothing is written then. -/
def adjustBalance (a : Address) (delta : Int64) : ExceptT StoreError Update Unit := do
  match ← (account? a : Update _) with
  | none => throw (.accountNotFound a)
  | some account =>
      let balance ← ExceptT.mk (pure ((Amount.add account.balance delta).mapError .arithmetic))
      if balance < 0 then throw (.insufficientBalance a account.balance delta)
      (putAccount { account with balance := balance } : Update _)

/-- Moves a fee from its owner into the sink; a fee of zero moves nothing. -/
def chargeFee (owner : Address) (fee : Int64) : ExceptT StoreError Update Unit := do
  if fee = 0 then return
  adjustBalance owner (-fee)
  adjustBalance (← (sink : Update _)) fee

end Update

end AccountLedger
