/-
**Ledgers.**

A ledger is a complete snapshot: the fee sink, the network parameters, and the accounts, assets and
witnesses, each kept under a key.

Main definitions:

* `Ledger` — the snapshot, with its readers and writers;
* `Ledger.opened` — the ledger that holds nothing but an empty sink account;
* `Ledger.totalNative` — the native units of all accounts, if their running total fits;
* `Ledger.nativeUnits`, `Ledger.holdingUnits` — exact totals of native units and of one asset;
* `Ledger.KeyedByRecord` — every record is stored under its own address or name.
-/

import AccountLedger.Account
import AccountLedger.Registry

set_option relaxedAutoImplicit false
set_option autoImplicit false

namespace AccountLedger

/-- A complete snapshot of the ledger. -/
structure Ledger where
  /-- The account that absorbs collected fees. -/
  sink : Address
  parameters : Parameters
  accounts : SortedMap Address Account
  assets : SortedMap String Asset
  witnesses : SortedMap Address Witness
  deriving DecidableEq

namespace Ledger

/-- The ledger with an empty sink account and nothing else. -/
def opened (sink : Address) (parameters : Parameters) : Ledger where
  sink := sink
  parameters := parameters
  accounts := SortedMap.empty.insert sink (.opened sink .normal 0)
  assets := .empty
  witnesses := .empty

/-! ### Reading -/

/-- The account stored under an address. -/
def account? (l : Ledger) (a : Address) : Option Account := l.accounts.get? a

/-- The asset registered under a name. -/
def asset? (l : Ledger) (name : String) : Option Asset := l.assets.get? name

/-- The witness registered under an address. -/
def witness? (l : Ledger) (a : Address) : Option Witness := l.witnesses.get? a

/-- Is there an account under the address? -/
def hasAccount (l : Ledger) (a : Address) : Bool := l.accounts.contains a

/-- Is there an asset of that name? -/
def hasAsset (l : Ledger) (name : String) : Bool := l.assets.contains name

/-- Is there a witness under the address? -/
def hasWitness (l : Ledger) (a : Address) : Bool := l.witnesses.contains a

/-- The spendable balance under an address. -/
def balance? (l : Ledger) (a : Address) : Option Int64 := (l.account? a).map (·.balance)

/-! ### Writing -/

/-- Stores an account under its own address. -/
def putAccount (l : Ledger) (a : Account) : Ledger :=
  { l with accounts := l.accounts.insert a.address a }

/-- Registers an asset under its own name. -/
def putAsset (l : Ledger) (a : Asset) : Ledger :=
  { l with assets := l.assets.insert a.name a }

/-- Registers a witness under its own address. -/
def putWitness (l : Ledger) (w : Witness) : Ledger :=
  { l with witnesses := l.witnesses.insert w.address w }

/-! ### Totals -/

/-- A running total with one account's native units added: its balance, its locks together, and
its allowance, in this order. -/
def addNative (total : Int64) (a : Account) : Except ArithmeticError Int64 := do
  let locked ← a.locked
  let total ← Amount.add total a.balance
  let total ← Amount.add total locked
  Amount.add total a.allowance

/-- The native units of all accounts, in address order; `none` once a running total overflows. -/
def totalNative (l : Ledger) : Option Int64 :=
  (l.accounts.values.foldlM addNative 0).toOption

/-- The native units of all accounts as an exact integer. -/
def nativeUnits (l : Ledger) : Int :=
  Amount.total (l.accounts.values.map (·.nativeUnits))

/-- The tokens of one asset that all accounts hold together, as an exact integer. -/
def holdingUnits (l : Ledger) (asset : String) : Int :=
  Amount.total (l.accounts.values.map fun a => (a.holding asset).toInt)

/-! ### Keys -/

/-- Every record is stored under its own address or name. -/
structure KeyedByRecord (l : Ledger) : Prop where
  account : ∀ a r, l.account? a = some r → r.address = a
  asset : ∀ n r, l.asset? n = some r → r.name = n
  witness : ∀ a r, l.witness? a = some r → r.address = a

end Ledger

end AccountLedger
