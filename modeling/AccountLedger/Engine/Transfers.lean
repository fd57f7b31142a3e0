/-
**Native transfers and account names.**

Main definitions:

* `Transfer.check`, `Transfer.execute` — moving native units, opening the recipient's account where
  it does not exist and the amount is large enough;
* `AccountUpdate.check`, `AccountUpdate.execute` — naming an account.
-/

import AccountLedger.Engine.Steps

set_option relaxedAutoImplicit false
set_option autoImplicit false

namespace AccountLedger

/-! ### Transfers -/

namespace Transfer

/-- Owner and recipient differ, the owner can pay amount and fee, and the recipient either can take
the amount or is opened by a large enough one. -/
def check (c : Transfer) (ctx : Context) (l : Ledger) : Check Unit := do
  let fee := ctx.fee .transfer
  let owner ← Check.address .owner c.owner
  let recipient ← Check.address .recipient c.recipient
  require (owner ≠ recipient) .sameAccount
  let account ← Check.account l .owner owner
  Check.covered fee account.balance
  Check.positive .amount c.amount
  let required ← Check.compute (Amount.add c.amount fee)
  Check.covered required account.balance
  match l.account? recipient with
  | none =>
      let least := l.parameters.openingTransferMin
      require (least ≤ c.amount) (.refused (.openingTransferTooSmall least))
  | some r => discard (Check.compute (Amount.add r.balance c.amount))

/-- Opens the recipient's account if there is none, takes amount and fee from the owner in one
step, and gives the amount to the recipient and a positive fee to the sink. -/
def execute (c : Transfer) (ctx : Context) : Execution Unit := do
  let fee := ctx.fee .transfer
  let owner ← Execution.address c.owner
  let recipient ← Execution.address c.recipient
  if (← Execution.step (Update.account? recipient)).isNone then
    Execution.put (.opened recipient .normal ctx.now)
  -- Amount and fee leave the owner together: the balance is never seen with only one of them gone.
  let total ← Execution.compute (Amount.add c.amount fee)
  Execution.adjust owner (-total)
  Execution.adjust recipient c.amount
  if 0 < fee then
    Execution.adjust (← Execution.step Update.sink) fee

end Transfer

/-! ### Account names -/

namespace AccountUpdate

/-- The name is not empty, the account exists or not as the rule demands, and the fee is covered;
an account still to be opened covers nothing. -/
def check (c : AccountUpdate) (ctx : Context) (l : Ledger) : Check Unit := do
  require (c.name ≠ []) (.refused .emptyAccountName)
  let owner ← Check.address .owner c.owner
  let balance ←
    match ctx.policy.accountUpdate, l.account? owner with
    | .requireExisting, some account => .ok account.balance
    | .requireExisting, none => .error (.accountNotFound .owner owner)
    | .rejectExisting, some _ => .error (.refused (.accountExists owner))
    | .rejectExisting, none => .ok 0
  Check.covered (ctx.fee .accountUpdate) balance

/-- Renames the account, or opens it under the name, and charges the fee. -/
def execute (c : AccountUpdate) (ctx : Context) : Execution Unit := do
  let owner ← Execution.address c.owner
  let account ←
    match ctx.policy.accountUpdate with
    | .requireExisting => Execution.account .owner owner
    | .rejectExisting => pure (.opened owner .normal ctx.now)
  Execution.put { account with name := c.name }
  Execution.charge owner (ctx.fee .accountUpdate)

end AccountUpdate

end AccountLedger
