/-
**Accounts.**

An account holds a spendable balance, at most a few stake locks, an accrued allowance, token
holdings and the votes it has cast.

Main definitions:

* `Lock`, `AccountType`, `Account` — the record;
* `Account.opened` — a new account with nothing in it;
* `Account.locked`, `Account.votingPower` — checked totals of one account;
* `Account.credit`, `Account.debit` — adding and taking tokens;
* `Account.nativeUnits` — balance, locks and allowance as an exact integer.
-/

import AccountLedger.Address
import AccountLedger.Amount
import AccountLedger.SortedMap

set_option relaxedAutoImplicit false
set_option autoImplicit false

namespace AccountLedger

/-! ### The record -/

/-- What kind of party an account belongs to. -/
inductive AccountType
  | normal
  | assetIssue
  | contract
  deriving DecidableEq, Repr

/-- A stake lock: `amount` cannot be spent before `expiry`, a time in milliseconds. -/
structure Lock where
  amount : Int64
  expiry : Int64
  deriving DecidableEq, Repr

/-- One account. -/
structure Account where
  address : Address
  name : Bytes
  type : AccountType
  balance : Int64
  /-- The stake locks; freezing again merges into the one there is. -/
  locks : List Lock
  bandwidth : Int64
  /-- Accrued reward, to be withdrawn. -/
  allowance : Int64
  latestWithdrawal : Int64
  /-- Held tokens by asset name. -/
  holdings : SortedMap String Int64
  /-- Cast votes by witness; a later vote replaces them all. -/
  votes : SortedMap Address Int64
  isWitness : Bool
  createTime : Int64
  deriving DecidableEq

namespace Account

/-- A new account at `address`, opened at `time`, with nothing in it. -/
def opened (address : Address) (type : AccountType) (time : Int64) : Account where
  address := address
  name := []
  type := type
  balance := 0
  locks := []
  bandwidth := 0
  allowance := 0
  latestWithdrawal := 0
  holdings := .empty
  votes := .empty
  isWitness := false
  createTime := time

/-! ### Totals -/

/-- The locked amounts together. -/
def locked (a : Account) : Except ArithmeticError Int64 :=
  Amount.sum (a.locks.map (·.amount))

/-- What votes are weighed against: the balance and the locked stake. -/
def votingPower (a : Account) : Except ArithmeticError Int64 := do
  Amount.add a.balance (← a.locked)

/-- The native units of an account as an exact integer: balance, locks and allowance. -/
def nativeUnits (a : Account) : Int :=
  a.balance.toInt + Amount.total (a.locks.map (·.amount.toInt)) + a.allowance.toInt

/-! ### Holdings -/

/-- The held amount of an asset, zero where there is none. -/
def holding (a : Account) (asset : String) : Int64 :=
  (a.holdings.get? asset).getD 0

/-- The account with `amount` more tokens of an asset. -/
def credit (a : Account) (asset : String) (amount : Int64) : Except ArithmeticError Account := do
  let held ← Amount.add (a.holding asset) amount
  return { a with holdings := a.holdings.insert asset held }

/-- The account with `amount` fewer tokens of an asset, or `none` if it does not hold a positive
amount of that size.  An emptied holding stays listed at zero. -/
def debit (a : Account) (asset : String) (amount : Int64) :
    Except ArithmeticError (Option Account) :=
  match a.holdings.get? asset with
  | none => return none
  | some held =>
      if amount ≤ 0 ∨ held < amount then return none
      else do
        let rest ← Amount.sub held amount
        return some { a with holdings := a.holdings.insert asset rest }

end Account

end AccountLedger
