/-
**Freezing and releasing stake.**

An account holds at most one lock.  Freezing again merges into it: the amounts add up and the lock
takes the new expiry.

Main definitions:

* `FreezeBalance.check`, `FreezeBalance.execute` — locking stake in exchange for bandwidth;
* `Account.released` — the amounts of the expired locks together;
* `UnfreezeBalance.check`, `UnfreezeBalance.execute` — releasing every expired lock.
-/

import AccountLedger.Engine.Steps

set_option relaxedAutoImplicit false
set_option autoImplicit false

namespace AccountLedger

/-! ### Freezing -/

namespace FreezeBalance

/-- The bandwidth that freezing earns: amount times days times the rate. -/
def credit (c : FreezeBalance) (rate : Int64) : Except ArithmeticError Int64 := do
  Amount.mul (← Amount.mul c.amount c.days) rate

/-- The amount and the duration are within the network's bounds, amount and fee are covered, there
is at most one lock, and neither bandwidth nor lock overflows. -/
def check (c : FreezeBalance) (ctx : Context) (l : Ledger) : Check Unit := do
  let p := l.parameters
  let owner ← Check.address .owner c.owner
  let account ← Check.account l .owner owner
  Check.positive .frozenBalance c.amount
  require (p.minFrozenBalance ≤ c.amount) (.refused (.freezeTooSmall p.minFrozenBalance))
  let required ← Check.compute (Amount.add c.amount (ctx.fee .freezeBalance))
  Check.covered required account.balance
  require (p.minFrozenTime ≤ c.days ∧ c.days ≤ p.maxFrozenTime)
    (.refused (.freezeDuration p.minFrozenTime p.maxFrozenTime))
  require (account.locks.length ≤ 1) (.refused (.severalLocks owner))
  let credit ← Check.compute (c.credit p.bandwidthPerCoinDay)
  discard (Check.compute (Amount.add account.bandwidth credit))
  match account.locks with
  | [] => return
  | lock :: _ => discard (Check.compute (Amount.add lock.amount c.amount))

/-- The locks of an account after `amount` more is frozen until `expiry`. -/
def merged (owner : Address) (locks : List Lock) (amount expiry : Int64) :
    Execution (List Lock) := do
  match locks with
  | [] => return [⟨amount, expiry⟩]
  | [lock] => return [⟨← Execution.compute (Amount.add lock.amount amount), expiry⟩]
  | several => throw (.inconsistent (.severalLocks owner several.length))

/-- Takes the amount out of the balance, merges it into the lock, credits the bandwidth, and
charges the fee. -/
def execute (c : FreezeBalance) (ctx : Context) : Execution Unit := do
  let owner ← Execution.address c.owner
  let rate := (← Execution.step Update.parameters).bandwidthPerCoinDay
  Execution.adjust owner (-c.amount)
  -- Read after the amount has left, so that the record stored below does not bring it back.
  let account ← Execution.account .owner owner
  let duration ← Execution.compute (Amount.millisOfDays c.days)
  let expiry ← Execution.compute (Amount.add ctx.now duration)
  let locks ← merged owner account.locks c.amount expiry
  let credit ← Execution.compute (c.credit rate)
  let bandwidth ← Execution.compute (Amount.add account.bandwidth credit)
  Execution.put { account with locks := locks, bandwidth := bandwidth }
  Execution.charge owner (ctx.fee .freezeBalance)

end FreezeBalance

/-! ### Releasing -/

/-- Has the lock expired at `now`? -/
def Lock.isExpired (k : Lock) (now : Int64) : Bool := k.expiry ≤ now

/-- The amounts of the expired locks together. -/
def Account.released (a : Account) (now : Int64) : Except ArithmeticError Int64 :=
  Amount.sum ((a.locks.filter (·.isExpired now)).map (·.amount))

namespace UnfreezeBalance

/-- Some lock has expired, and balance and released stake cover the fee. -/
def check (c : UnfreezeBalance) (ctx : Context) (l : Ledger) : Check Unit := do
  let owner ← Check.address .owner c.owner
  let account ← Check.account l .owner owner
  require (account.locks ≠ []) (.refused .nothingFrozen)
  require (account.locks.any (·.isExpired ctx.now)) (.refused .nothingExpired)
  let released ← Check.compute (account.released ctx.now)
  let balance ← Check.compute (Amount.add account.balance released)
  Check.covered (ctx.fee .unfreezeBalance) balance

/-- Moves the expired locks into the balance and charges the fee. -/
def execute (c : UnfreezeBalance) (ctx : Context) : Execution Unit := do
  let owner ← Execution.address c.owner
  let account ← Execution.account .owner owner
  let released ← Execution.compute (account.released ctx.now)
  let balance ← Execution.compute (Amount.add account.balance released)
  Execution.put { account with
    balance := balance
    locks := account.locks.filter fun k => !k.isExpired ctx.now }
  Execution.charge owner (ctx.fee .unfreezeBalance)

end UnfreezeBalance

end AccountLedger
