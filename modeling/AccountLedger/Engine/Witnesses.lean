/-
**Witnesses, votes and rewards.**

Main definitions:

* `WitnessCreate.check`, `WitnessCreate.execute` — becoming a witness;
* `WitnessUpdate.check`, `WitnessUpdate.execute` — changing a witness's page address;
* `VoteWitness.tally` — the votes of a contract, added up by target;
* `VoteWitness.check`, `VoteWitness.execute` — replacing all votes of an account;
* `WithdrawBalance.check`, `WithdrawBalance.execute` — withdrawing accrued reward.
-/

import AccountLedger.Engine.Steps

set_option relaxedAutoImplicit false
set_option autoImplicit false

namespace AccountLedger

/-! ### Becoming a witness -/

namespace WitnessCreate

/-- The page address is well-formed, the owner is no witness yet, and the upgrade cost and the fee
are covered. -/
def check (c : WitnessCreate) (ctx : Context) (l : Ledger) : Check Unit := do
  let owner ← Check.address .owner c.owner
  discard (Check.url c.url)
  let account ← Check.account l .owner owner
  require (l.hasWitness owner = false) (.witnessExists owner)
  let required ← Check.compute
    (Amount.add l.parameters.accountUpgradeCost (ctx.fee .witnessCreate))
  Check.covered required account.balance

/-- Registers the witness, marks the account, and moves the cost and the fee into the sink. -/
def execute (c : WitnessCreate) (ctx : Context) : Execution Unit := do
  let owner ← Execution.address c.owner
  let cost := (← Execution.step Update.parameters).accountUpgradeCost
  Execution.step (Update.putWitness ⟨owner, Utf8.repair c.url, 0⟩)
  let account ← Execution.account .owner owner
  Execution.put { account with isWitness := true }
  let total ← Execution.compute (Amount.add cost (ctx.fee .witnessCreate))
  Execution.charge owner total

end WitnessCreate

namespace WitnessUpdate

/-- The owner is a witness, the page address is well-formed, and the fee is covered. -/
def check (c : WitnessUpdate) (ctx : Context) (l : Ledger) : Check Unit := do
  let owner ← Check.address .owner c.owner
  let account ← Check.account l .owner owner
  require (l.hasWitness owner) (.witnessNotFound owner)
  discard (Check.url c.url)
  Check.covered (ctx.fee .witnessUpdate) account.balance

/-- Changes the page address and charges the fee. -/
def execute (c : WitnessUpdate) (ctx : Context) : Execution Unit := do
  let owner ← Execution.address c.owner
  let witness ←
    match ← Execution.step (Update.witness? owner) with
    | none => throw (.inconsistent (.witnessVanished owner))
    | some witness => pure witness
  Execution.step (Update.putWitness { witness with url := Utf8.repair c.url })
  Execution.charge owner (ctx.fee .witnessUpdate)

end WitnessUpdate

/-! ### Voting -/

namespace VoteWitness

/-- One vote added to the counts so far. -/
def addVote (counts : SortedMap Address Int64) (v : Vote) : Check (SortedMap Address Int64) := do
  let target ← Check.address .voteTarget v.target
  Check.positive .voteCount v.count
  let count ← Check.compute (Amount.add ((counts.get? target).getD 0) v.count)
  return counts.insert target count

/-- The votes of a contract by target; repeated targets are added up. -/
def tally (votes : List Vote) : Check (SortedMap Address Int64) :=
  votes.foldlM addVote .empty

/-- Every target is a witness with an account, there are not too many votes, their weight does not
exceed the voting power, and the fee is covered. -/
def check (c : VoteWitness) (ctx : Context) (l : Ledger) : Check Unit := do
  let owner ← Check.address .owner c.owner
  require (c.votes ≠ []) (.refused .emptyVoteList)
  let counts ← tally c.votes
  -- Targets are examined in address order, and before the number of votes is.
  counts.keys.forM fun target => do
    discard (Check.account l .voteTarget target)
    require (l.hasWitness target) (.witnessNotFound target)
  let account ← Check.account l .owner owner
  let greatest := l.parameters.maxVoteNumber
  require (c.votes.length ≤ greatest.toNat) (.refused (.tooManyVotes c.votes.length greatest))
  let total ← Check.compute (Amount.sum counts.values)
  let weight ← Check.compute (Amount.mul total l.parameters.voteUnit)
  let power ← Check.compute account.votingPower
  require (weight ≤ power) (.refused (.voteWeight weight power))
  Check.covered (ctx.fee .voteWitness) account.balance

/-- Replaces the votes of the account and charges the fee. -/
def execute (c : VoteWitness) (ctx : Context) : Execution Unit := do
  let owner ← Execution.address c.owner
  let counts ←
    match tally c.votes with
    | .error reason => throw (.inconsistent (.votes reason))
    | .ok counts => pure counts
  let account ← Execution.account .owner owner
  Execution.put { account with votes := counts }
  Execution.charge owner (ctx.fee .voteWitness)

end VoteWitness

/-! ### Withdrawing rewards -/

namespace WithdrawBalance

/-- The owner is a witness, the cooldown has passed, there is something to withdraw, and the
balance then covers the fee. -/
def check (c : WithdrawBalance) (ctx : Context) (l : Ledger) : Check Unit := do
  let owner ← Check.address .owner c.owner
  let account ← Check.account l .owner owner
  require (l.hasWitness owner) (.witnessNotFound owner)
  let cooldown ← Check.compute (Amount.millisOfDays l.parameters.withdrawalCooldown)
  let elapsed ← Check.compute (Amount.sub ctx.now account.latestWithdrawal)
  require (cooldown ≤ elapsed) (.refused (.withdrawalCooldown elapsed cooldown))
  Check.positive .allowance account.allowance
  let balance ← Check.compute (Amount.add account.balance account.allowance)
  Check.covered (ctx.fee .withdrawBalance) balance

/-- Moves the allowance into the balance, notes the time, and charges the fee. -/
def execute (c : WithdrawBalance) (ctx : Context) : Execution Unit := do
  let owner ← Execution.address c.owner
  let account ← Execution.account .owner owner
  let balance ← Execution.compute (Amount.add account.balance account.allowance)
  Execution.put { account with
    balance := balance
    allowance := 0
    latestWithdrawal := ctx.now }
  Execution.charge owner (ctx.fee .withdrawBalance)

end WithdrawBalance

end AccountLedger
