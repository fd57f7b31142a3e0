/-
**When a contract is admissible.**

A check passes or names the first rule that is broken.  For each kind of contract this module states
what the rules demand of a ledger together, with every amount taken as an exact integer.

Main definitions:

* `Transfer.Admissible`, …, `WithdrawBalance.Admissible` — what each kind demands;
* `Contract.Admissible` — what a contract demands.

Main results:

* `Check.forM_eq_ok_iff` — a row of checks passes iff each of them does;
* `Contract.check_eq_ok_iff` — **a check passes exactly for the admissible contracts.**
-/

import AccountLedger.Engine.Run
import AccountLedger.Proofs.Execution

set_option relaxedAutoImplicit false
set_option autoImplicit false

namespace AccountLedger

/-! ### The steps of checks -/

namespace Check

section

variable {ε α β : Type}

theorem bind_eq_ok_iff {x : Except ε α} {f : α → Except ε β} {b : β} :
    (x >>= f) = .ok b ↔ ∃ a, x = .ok a ∧ f a = .ok b := by
  cases x with
  | error e => exact ⟨nofun, nofun⟩
  | ok a =>
      constructor
      · intro h
        exact ⟨a, rfl, h⟩
      · rintro ⟨_, ⟨⟩, h⟩
        exact h

/-- What follows a check without an answer is reached iff the check passes. -/
theorem unit_bind_eq_ok_iff {x : Except ε Unit} {f : Unit → Except ε β} {b : β} :
    (x >>= f) = .ok b ↔ x = .ok () ∧ f () = .ok b := by
  cases x with
  | error e => exact ⟨nofun, nofun⟩
  | ok a => exact ⟨fun h => ⟨rfl, h⟩, fun h => h.2⟩

theorem pure_eq_ok_iff {a b : α} : (pure a : Except ε α) = .ok b ↔ a = b :=
  ⟨Except.ok.inj, congrArg Except.ok⟩

theorem discard_eq_ok_iff {x : Except ε α} {u : Unit} : discard x = .ok u ↔ ∃ a, x = .ok a := by
  cases x with
  | error e => exact ⟨nofun, nofun⟩
  | ok a => exact ⟨fun _ => ⟨a, rfl⟩, fun _ => rfl⟩

/-- A row of checks passes iff each of them does. -/
theorem forM_eq_ok_iff {xs : List α} {f : α → Except ε Unit} {u : Unit} :
    xs.forM f = .ok u ↔ ∀ x ∈ xs, f x = .ok () := by
  induction xs with
  | nil => exact ⟨nofun, fun _ => rfl⟩
  | cons x xs ih =>
      rw [show (x :: xs).forM f = f x >>= fun _ => xs.forM f from rfl, unit_bind_eq_ok_iff,
        List.forall_mem_cons, ← ih]

theorem compute_eq_ok_iff {x : Except ArithmeticError α} {a : α} :
    compute x = .ok a ↔ x = .ok a := Execution.ok_of_mapError

end

theorem discard_add_eq_ok_iff {a b : Int64} {u : Unit} :
    discard (compute (Amount.add a b)) = .ok u ↔ Amount.Fits (a.toInt + b.toInt) := by
  simp only [discard_eq_ok_iff, compute_eq_ok_iff, Amount.add_eq_ok_iff,
    Amount.exists_toInt_eq_iff]

theorem address_eq_ok_iff {role : Role} {bs : Bytes} {a : Address} :
    address role bs = .ok a ↔ a.bytes = bs :=
  Execution.ok_of_mapError.trans Address.ofBytes_eq_ok_iff

theorem account_eq_ok_iff {l : Ledger} {role : Role} {a : Address} {r : Account} :
    account l role a = .ok r ↔ l.account? a = some r := by
  rw [account]
  split
  · next h => simp only [h, reduceCtorEq]
  · next h => simp only [h, Except.ok.injEq, Option.some.injEq]

theorem asset_eq_ok_iff {l : Ledger} {name : String} {s : Asset} :
    asset l name = .ok s ↔ l.asset? name = some s := by
  rw [asset]
  split
  · next h => simp only [h, reduceCtorEq]
  · next h => simp only [h, Except.ok.injEq, Option.some.injEq]

theorem assetName_eq_ok_iff {bs : Bytes} {s : String} :
    assetName bs = .ok s ↔ bs ≠ [] ∧ Utf8.decode? bs = some s := by
  rw [assetName, require_bind_eq_ok_iff]
  refine and_congr_right fun _ => ?_
  split
  · next h => simp only [h, reduceCtorEq]
  · next h => simp only [h, pure_eq_ok_iff, Option.some.injEq]

theorem url_eq_ok_iff {bs : Bytes} {s : String} :
    url bs = .ok s ↔ (bs ≠ [] ∧ bs.length ≤ maxUrlLength) ∧ Utf8.decode? bs = some s := by
  rw [url, require_bind_eq_ok_iff]
  refine and_congr_right fun _ => ?_
  split
  · next h => simp only [h, reduceCtorEq]
  · next h => simp only [h, pure_eq_ok_iff, Option.some.injEq]

theorem positive_eq_ok_iff {q : Quantity} {amount : Int64} {u : Unit} :
    positive q amount = .ok u ↔ 0 < amount.toInt := by
  rw [positive, require_eq_ok_iff, Int64.lt_iff_toInt_lt, Amount.toInt_zero]

theorem covered_eq_ok_iff {required available : Int64} {u : Unit} :
    covered required available = .ok u ↔ required.toInt ≤ available.toInt := by
  rw [covered, require_eq_ok_iff, Int64.le_iff_toInt_le]

end Check

/-! ### Transfers and account names -/

/-- The owner covers amount and fee, and the recipient can take the amount or is opened by it. -/
inductive Transfer.Admissible (c : Transfer) (ctx : Context) (l : Ledger) : Prop
  | intro (owner recipient : Address) (account : Account) (required : Int64)
      (owner_eq : owner.bytes = c.owner) (recipient_eq : recipient.bytes = c.recipient)
      (ne : owner ≠ recipient) (found : l.account? owner = some account)
      (fee_le : (ctx.fee .transfer).toInt ≤ account.balance.toInt)
      (positive : 0 < c.amount.toInt)
      (required_eq : required.toInt = c.amount.toInt + (ctx.fee .transfer).toInt)
      (covered : required.toInt ≤ account.balance.toInt)
      (opens : l.account? recipient = none → l.parameters.openingTransferMin.toInt ≤ c.amount.toInt)
      (takes : ∀ r, l.account? recipient = some r →
        Amount.Fits (r.balance.toInt + c.amount.toInt))

/-- The account is there or not, as the policy says, and covers the fee; an account that is not there
covers nothing. -/
inductive AccountUpdate.Admissible (c : AccountUpdate) (ctx : Context) (l : Ledger) : Prop
  | renamed (owner : Address) (account : Account)
      (rule : ctx.policy.accountUpdate = .requireExisting)
      (name_ne : c.name ≠ []) (owner_eq : owner.bytes = c.owner)
      (found : l.account? owner = some account)
      (covered : (ctx.fee .accountUpdate).toInt ≤ account.balance.toInt)
  | opened (owner : Address) (rule : ctx.policy.accountUpdate = .rejectExisting)
      (name_ne : c.name ≠ []) (owner_eq : owner.bytes = c.owner)
      (absent : l.account? owner = none)
      (covered : (ctx.fee .accountUpdate).toInt ≤ 0)

/-! ### Assets -/

/-- The terms are positive, the name is new, and the fee is covered. -/
inductive AssetIssue.Admissible (c : AssetIssue) (ctx : Context) (l : Ledger) : Prop
  | intro (owner : Address) (name : String) (account : Account)
      (owner_eq : owner.bytes = c.owner)
      (name_ne : c.name ≠ []) (name_eq : Utf8.decode? c.name = some name)
      (supply : 0 < c.totalSupply.toInt) (units : 0 < c.priceUnits.toInt)
      (tokens : 0 < c.priceTokens.toInt) (sale : c.startTime.toInt < c.endTime.toInt)
      (found : l.account? owner = some account) (new : l.hasAsset name = false)
      (covered : (ctx.fee .assetIssue).toInt ≤ account.balance.toInt)

/-- The owner holds the amount and covers the fee, and the recipient can take the amount. -/
inductive TransferAsset.Admissible (c : TransferAsset) (ctx : Context) (l : Ledger) : Prop
  | intro (owner recipient : Address) (name : String) (account receiver : Account)
      (owner_eq : owner.bytes = c.owner) (recipient_eq : recipient.bytes = c.recipient)
      (name_ne : c.asset ≠ []) (name_eq : Utf8.decode? c.asset = some name)
      (positive : 0 < c.amount.toInt) (ne : owner ≠ recipient)
      (found : l.account? owner = some account) (registered : l.hasAsset name = true)
      (covered : (ctx.fee .transferAsset).toInt ≤ account.balance.toInt)
      (held : 0 < account.holding name ∧ c.amount ≤ account.holding name)
      (receiving : l.account? recipient = some receiver)
      (takes : Amount.Fits ((receiver.holding name).toInt + c.amount.toInt))

/-- The issuer sells the asset now and holds what the amount buys, the buyer covers amount and fee,
and both can take what they get. -/
inductive ParticipateAssetIssue.Admissible (c : ParticipateAssetIssue) (ctx : Context)
    (l : Ledger) : Prop
  | intro (owner issuer : Address) (name : String) (buyer seller : Account) (required : Int64)
      (asset : Asset) (tokens : Int64)
      (owner_eq : owner.bytes = c.owner) (issuer_eq : issuer.bytes = c.issuer)
      (name_ne : c.asset ≠ []) (name_eq : Utf8.decode? c.asset = some name)
      (positive : 0 < c.amount.toInt) (ne : owner ≠ issuer)
      (buying : l.account? owner = some buyer)
      (required_eq : required.toInt = c.amount.toInt + (ctx.fee .participateAssetIssue).toInt)
      (covered : required.toInt ≤ buyer.balance.toInt)
      (registered : l.asset? name = some asset) (issued : asset.issuer = issuer)
      (onSale : asset.isOpenAt ctx.now = true)
      (priced : asset.exchange c.amount = .ok tokens) (some_tokens : 0 < tokens.toInt)
      (selling : l.account? issuer = some seller)
      (held : tokens ≤ seller.holding name)
      (buyer_takes : Amount.Fits ((buyer.holding name).toInt + tokens.toInt))
      (seller_takes : Amount.Fits (seller.balance.toInt + c.amount.toInt))

/-! ### Stake -/

/-- Amount and duration are within bounds, amount and fee are covered, and neither bandwidth nor lock
overflows. -/
inductive FreezeBalance.Admissible (c : FreezeBalance) (ctx : Context) (l : Ledger) : Prop
  | intro (owner : Address) (account : Account) (required credit : Int64)
      (owner_eq : owner.bytes = c.owner) (found : l.account? owner = some account)
      (positive : 0 < c.amount.toInt)
      (enough : l.parameters.minFrozenBalance.toInt ≤ c.amount.toInt)
      (required_eq : required.toInt = c.amount.toInt + (ctx.fee .freezeBalance).toInt)
      (covered : required.toInt ≤ account.balance.toInt)
      (days_ge : l.parameters.minFrozenTime.toInt ≤ c.days.toInt)
      (days_le : c.days.toInt ≤ l.parameters.maxFrozenTime.toInt)
      (one : account.locks.length ≤ 1)
      (earned : c.credit l.parameters.bandwidthPerCoinDay = .ok credit)
      (bandwidth : Amount.Fits (account.bandwidth.toInt + credit.toInt))
      (merges : ∀ lock ∈ account.locks, Amount.Fits (lock.amount.toInt + c.amount.toInt))

/-- Some lock has expired, and balance and released stake cover the fee. -/
inductive UnfreezeBalance.Admissible (c : UnfreezeBalance) (ctx : Context) (l : Ledger) : Prop
  | intro (owner : Address) (account : Account) (released balance : Int64)
      (owner_eq : owner.bytes = c.owner) (found : l.account? owner = some account)
      (frozen : account.locks ≠ [])
      (expired : account.locks.any (·.isExpired ctx.now) = true)
      (released_eq : account.released ctx.now = .ok released)
      (balance_eq : balance.toInt = account.balance.toInt + released.toInt)
      (covered : (ctx.fee .unfreezeBalance).toInt ≤ balance.toInt)

/-! ### Witnesses, votes and rewards -/

/-- The owner is no witness yet and covers cost and fee. -/
inductive WitnessCreate.Admissible (c : WitnessCreate) (ctx : Context) (l : Ledger) : Prop
  | intro (owner : Address) (url : String) (account : Account) (required : Int64)
      (owner_eq : owner.bytes = c.owner)
      (url_length : c.url ≠ [] ∧ c.url.length ≤ maxUrlLength)
      (url_eq : Utf8.decode? c.url = some url)
      (found : l.account? owner = some account) (new : l.hasWitness owner = false)
      (required_eq : required.toInt
        = l.parameters.accountUpgradeCost.toInt + (ctx.fee .witnessCreate).toInt)
      (covered : required.toInt ≤ account.balance.toInt)

/-- The owner is a witness and covers the fee. -/
inductive WitnessUpdate.Admissible (c : WitnessUpdate) (ctx : Context) (l : Ledger) : Prop
  | intro (owner : Address) (url : String) (account : Account)
      (owner_eq : owner.bytes = c.owner) (found : l.account? owner = some account)
      (registered : l.hasWitness owner = true)
      (url_length : c.url ≠ [] ∧ c.url.length ≤ maxUrlLength)
      (url_eq : Utf8.decode? c.url = some url)
      (covered : (ctx.fee .witnessUpdate).toInt ≤ account.balance.toInt)

/-- Every target is a witness with an account, and the voting power covers the weight of the votes. -/
inductive VoteWitness.Admissible (c : VoteWitness) (ctx : Context) (l : Ledger) : Prop
  | intro (owner : Address) (counts : SortedMap Address Int64) (account : Account)
      (total weight power : Int64)
      (owner_eq : owner.bytes = c.owner) (votes_ne : c.votes ≠ [])
      (tallied : VoteWitness.tally c.votes = .ok counts)
      (targets : ∀ a ∈ counts.keys, (∃ r, l.account? a = some r) ∧ l.hasWitness a = true)
      (found : l.account? owner = some account)
      (few : c.votes.length ≤ l.parameters.maxVoteNumber.toNat)
      (total_eq : Amount.sum counts.values = .ok total)
      (weight_eq : weight.toInt = total.toInt * l.parameters.voteUnit.toInt)
      (power_eq : account.votingPower = .ok power)
      (weight_le : weight.toInt ≤ power.toInt)
      (covered : (ctx.fee .voteWitness).toInt ≤ account.balance.toInt)

/-- The owner is a witness, the cooldown has passed, and the balance then covers the fee. -/
inductive WithdrawBalance.Admissible (c : WithdrawBalance) (ctx : Context) (l : Ledger) : Prop
  | intro (owner : Address) (account : Account) (cooldown elapsed balance : Int64)
      (owner_eq : owner.bytes = c.owner) (found : l.account? owner = some account)
      (registered : l.hasWitness owner = true)
      (cooldown_eq : Amount.millisOfDays l.parameters.withdrawalCooldown = .ok cooldown)
      (elapsed_eq : elapsed.toInt = ctx.now.toInt - account.latestWithdrawal.toInt)
      (cooled : cooldown.toInt ≤ elapsed.toInt)
      (positive : 0 < account.allowance.toInt)
      (balance_eq : balance.toInt = account.balance.toInt + account.allowance.toInt)
      (covered : (ctx.fee .withdrawBalance).toInt ≤ balance.toInt)

/-- What a contract demands of a ledger. -/
def Contract.Admissible (c : Contract) (ctx : Context) (l : Ledger) : Prop :=
  match c with
  | .transfer c => c.Admissible ctx l
  | .transferAsset c => c.Admissible ctx l
  | .assetIssue c => c.Admissible ctx l
  | .participateAssetIssue c => c.Admissible ctx l
  | .freezeBalance c => c.Admissible ctx l
  | .unfreezeBalance c => c.Admissible ctx l
  | .witnessCreate c => c.Admissible ctx l
  | .witnessUpdate c => c.Admissible ctx l
  | .accountUpdate c => c.Admissible ctx l
  | .voteWitness c => c.Admissible ctx l
  | .withdrawBalance c => c.Admissible ctx l

/-! ### Checks pass exactly for admissible contracts -/

section

open Check

variable {ctx : Context} {l : Ledger} {u : Unit}

theorem Transfer.check_eq_ok_iff {c : Transfer} :
    c.check ctx l = .ok u ↔ c.Admissible ctx l := by
  simp only [Transfer.check, bind_eq_ok_iff, address_eq_ok_iff, account_eq_ok_iff,
    require_eq_ok_iff, covered_eq_ok_iff, positive_eq_ok_iff, compute_eq_ok_iff,
    Amount.add_eq_ok_iff, exists_and_left, exists_const]
  constructor
  · rintro ⟨owner, howner, recipient, hrecipient, hne, account, hfound, hfee, hpositive, required,
      hrequired, hcovered, h⟩
    refine .intro owner recipient account required howner hrecipient hne hfound hfee hpositive
      hrequired hcovered ?_ ?_
    · intro hnone
      rw [hnone] at h
      exact Int64.le_iff_toInt_le.1 (require_eq_ok_iff.1 h)
    · intro r hr
      rw [hr] at h
      exact discard_add_eq_ok_iff.1 h
  · rintro ⟨owner, recipient, account, required, howner, hrecipient, hne, hfound, hfee, hpositive,
      hrequired, hcovered, hopens, htakes⟩
    refine ⟨owner, howner, recipient, hrecipient, hne, account, hfound, hfee, hpositive, required,
      hrequired, hcovered, ?_⟩
    cases hr : l.account? recipient with
    | none => exact require_eq_ok_iff.2 (Int64.le_iff_toInt_le.2 (hopens hr))
    | some r => exact discard_add_eq_ok_iff.2 (htakes r hr)

theorem AccountUpdate.check_eq_ok_iff {c : AccountUpdate} :
    c.check ctx l = .ok u ↔ c.Admissible ctx l := by
  simp only [AccountUpdate.check, bind_eq_ok_iff, address_eq_ok_iff, require_eq_ok_iff,
    exists_and_left, exists_const]
  constructor
  · rintro ⟨hname, owner, howner, h⟩
    split at h
    · next account hrule hfound =>
        exact .renamed owner account hrule hname howner hfound (covered_eq_ok_iff.1 h)
    · cases h
    · cases h
    · next hrule habsent =>
        exact .opened owner hrule hname howner habsent (covered_eq_ok_iff.1 h)
  · intro h
    cases h with
    | renamed owner account rule name_ne owner_eq found covered =>
        refine ⟨name_ne, owner, owner_eq, ?_⟩
        rw [rule, found]
        exact covered_eq_ok_iff.2 covered
    | opened owner rule name_ne owner_eq absent covered =>
        refine ⟨name_ne, owner, owner_eq, ?_⟩
        rw [rule, absent]
        exact covered_eq_ok_iff.2 covered

theorem AssetIssue.check_eq_ok_iff {c : AssetIssue} :
    c.check ctx l = .ok u ↔ c.Admissible ctx l := by
  simp only [AssetIssue.check, bind_eq_ok_iff, address_eq_ok_iff, assetName_eq_ok_iff,
    account_eq_ok_iff, require_eq_ok_iff, covered_eq_ok_iff, positive_eq_ok_iff,
    Int32.lt_iff_toInt_lt, Int64.lt_iff_toInt_lt, and_assoc, exists_and_left, exists_const]
  constructor
  · rintro ⟨owner, howner, hne, name, hname, hsupply, hunits, htokens, hsale, account, hfound, hnew,
      hcovered⟩
    exact .intro owner name account howner hne hname hsupply hunits htokens hsale hfound hnew
      hcovered
  · rintro ⟨owner, name, account, howner, hne, hname, hsupply, hunits, htokens, hsale, hfound, hnew,
      hcovered⟩
    exact ⟨owner, howner, hne, name, hname, hsupply, hunits, htokens, hsale, account, hfound, hnew,
      hcovered⟩

theorem TransferAsset.check_eq_ok_iff {c : TransferAsset} :
    c.check ctx l = .ok u ↔ c.Admissible ctx l := by
  simp only [TransferAsset.check, bind_eq_ok_iff, address_eq_ok_iff, assetName_eq_ok_iff,
    account_eq_ok_iff, require_eq_ok_iff, covered_eq_ok_iff, positive_eq_ok_iff,
    discard_add_eq_ok_iff, and_assoc, exists_and_left, exists_const]
  constructor
  · rintro ⟨owner, howner, recipient, hrecipient, hne, name, hname, hpositive, hdiffer, account,
      hfound, hregistered, hcovered, hsome, hheld, receiver, hreceiving, htakes⟩
    exact .intro owner recipient name account receiver howner hrecipient hne hname hpositive hdiffer
      hfound hregistered hcovered ⟨hsome, hheld⟩ hreceiving htakes
  · rintro ⟨owner, recipient, name, account, receiver, howner, hrecipient, hne, hname, hpositive,
      hdiffer, hfound, hregistered, hcovered, ⟨hsome, hheld⟩, hreceiving, htakes⟩
    exact ⟨owner, howner, recipient, hrecipient, hne, name, hname, hpositive, hdiffer, account,
      hfound, hregistered, hcovered, hsome, hheld, receiver, hreceiving, htakes⟩

theorem ParticipateAssetIssue.check_eq_ok_iff {c : ParticipateAssetIssue} :
    c.check ctx l = .ok u ↔ c.Admissible ctx l := by
  simp only [ParticipateAssetIssue.check, bind_eq_ok_iff, address_eq_ok_iff, assetName_eq_ok_iff,
    account_eq_ok_iff, asset_eq_ok_iff, require_eq_ok_iff, covered_eq_ok_iff, positive_eq_ok_iff,
    discard_add_eq_ok_iff, compute_eq_ok_iff, Amount.add_eq_ok_iff, and_assoc, exists_and_left,
    exists_const]
  constructor
  · rintro ⟨owner, howner, issuer, hissuer, hne, name, hname, hpositive, hdiffer, buyer, hbuying,
      required, hrequired, hcovered, asset, hregistered, hissued, hsale, tokens, hpriced, hsome,
      seller, hselling, hheld, hbuyer, hseller⟩
    exact .intro owner issuer name buyer seller required asset tokens howner hissuer hne hname
      hpositive hdiffer hbuying hrequired hcovered hregistered hissued hsale hpriced hsome hselling
      hheld hbuyer hseller
  · rintro ⟨owner, issuer, name, buyer, seller, required, asset, tokens, howner, hissuer, hne, hname,
      hpositive, hdiffer, hbuying, hrequired, hcovered, hregistered, hissued, hsale, hpriced, hsome,
      hselling, hheld, hbuyer, hseller⟩
    exact ⟨owner, howner, issuer, hissuer, hne, name, hname, hpositive, hdiffer, buyer, hbuying,
      required, hrequired, hcovered, asset, hregistered, hissued, hsale, tokens, hpriced, hsome,
      seller, hselling, hheld, hbuyer, hseller⟩

theorem FreezeBalance.check_eq_ok_iff {c : FreezeBalance} :
    c.check ctx l = .ok u ↔ c.Admissible ctx l := by
  simp only [FreezeBalance.check, bind_eq_ok_iff, address_eq_ok_iff, account_eq_ok_iff,
    require_eq_ok_iff, covered_eq_ok_iff, positive_eq_ok_iff, discard_add_eq_ok_iff,
    compute_eq_ok_iff, Amount.add_eq_ok_iff, Int64.le_iff_toInt_le, and_assoc, exists_and_left,
    exists_const]
  constructor
  · rintro ⟨owner, howner, account, hfound, hpositive, henough, required, hrequired, hcovered, hmin,
      hmax, hone, credit, hearned, hbandwidth, h⟩
    refine .intro owner account required credit howner hfound hpositive henough hrequired hcovered
      hmin hmax hone hearned hbandwidth fun lock hlock => ?_
    split at h
    · next hlocks =>
        rw [hlocks] at hlock
        cases hlock
    · next first rest hlocks =>
        -- There is one lock at most, so the first is all there is to merge into.
        rw [hlocks] at hone hlock
        obtain rfl : rest = [] := List.length_eq_zero_iff.1 (by simpa using hone)
        obtain rfl := List.mem_singleton.1 hlock
        exact discard_add_eq_ok_iff.1 h
  · rintro ⟨owner, account, required, credit, howner, hfound, hpositive, henough, hrequired,
      hcovered, hmin, hmax, hone, hearned, hbandwidth, hmerges⟩
    refine ⟨owner, howner, account, hfound, hpositive, henough, required, hrequired, hcovered, hmin,
      hmax, hone, credit, hearned, hbandwidth, ?_⟩
    cases hlocks : account.locks with
    | nil => rfl
    | cons first rest =>
        exact discard_add_eq_ok_iff.2 (hmerges first (hlocks ▸ List.mem_cons_self))

theorem UnfreezeBalance.check_eq_ok_iff {c : UnfreezeBalance} :
    c.check ctx l = .ok u ↔ c.Admissible ctx l := by
  simp only [UnfreezeBalance.check, bind_eq_ok_iff, address_eq_ok_iff, account_eq_ok_iff,
    require_eq_ok_iff, covered_eq_ok_iff, compute_eq_ok_iff, Amount.add_eq_ok_iff, exists_and_left,
    exists_const]
  constructor
  · rintro ⟨owner, howner, account, hfound, hfrozen, hexpired, released, hreleased, balance,
      hbalance, hcovered⟩
    exact .intro owner account released balance howner hfound hfrozen hexpired hreleased hbalance
      hcovered
  · rintro ⟨owner, account, released, balance, howner, hfound, hfrozen, hexpired, hreleased,
      hbalance, hcovered⟩
    exact ⟨owner, howner, account, hfound, hfrozen, hexpired, released, hreleased, balance,
      hbalance, hcovered⟩

theorem WitnessCreate.check_eq_ok_iff {c : WitnessCreate} :
    c.check ctx l = .ok u ↔ c.Admissible ctx l := by
  simp only [WitnessCreate.check, bind_eq_ok_iff, address_eq_ok_iff, account_eq_ok_iff,
    discard_eq_ok_iff, url_eq_ok_iff, require_eq_ok_iff, covered_eq_ok_iff, compute_eq_ok_iff,
    Amount.add_eq_ok_iff, exists_and_left, exists_const]
  constructor
  · rintro ⟨owner, howner, ⟨hlength, url, hurl⟩, account, hfound, hnew, required, hrequired,
      hcovered⟩
    exact .intro owner url account required howner hlength hurl hfound hnew hrequired hcovered
  · rintro ⟨owner, url, account, required, howner, hlength, hurl, hfound, hnew, hrequired, hcovered⟩
    exact ⟨owner, howner, ⟨hlength, url, hurl⟩, account, hfound, hnew, required, hrequired,
      hcovered⟩

theorem WitnessUpdate.check_eq_ok_iff {c : WitnessUpdate} :
    c.check ctx l = .ok u ↔ c.Admissible ctx l := by
  simp only [WitnessUpdate.check, bind_eq_ok_iff, address_eq_ok_iff, account_eq_ok_iff,
    discard_eq_ok_iff, url_eq_ok_iff, require_eq_ok_iff, covered_eq_ok_iff, exists_and_left,
    exists_const]
  constructor
  · rintro ⟨owner, howner, account, hfound, hregistered, ⟨hlength, url, hurl⟩, hcovered⟩
    exact .intro owner url account howner hfound hregistered hlength hurl hcovered
  · rintro ⟨owner, url, account, howner, hfound, hregistered, hlength, hurl, hcovered⟩
    exact ⟨owner, howner, account, hfound, hregistered, ⟨hlength, url, hurl⟩, hcovered⟩

theorem VoteWitness.check_eq_ok_iff {c : VoteWitness} :
    c.check ctx l = .ok u ↔ c.Admissible ctx l := by
  simp only [VoteWitness.check, bind_eq_ok_iff, address_eq_ok_iff, account_eq_ok_iff,
    forM_eq_ok_iff, discard_eq_ok_iff, require_eq_ok_iff, covered_eq_ok_iff, compute_eq_ok_iff,
    Amount.mul_eq_ok_iff, Int64.le_iff_toInt_le, exists_and_left, exists_const]
  constructor
  · rintro ⟨owner, howner, hvotes, counts, htallied, htargets, account, hfound, hfew, total, htotal,
      weight, hweight, power, hpower, hle, hcovered⟩
    exact .intro owner counts account total weight power howner hvotes htallied htargets hfound hfew
      htotal hweight hpower hle hcovered
  · rintro ⟨owner, counts, account, total, weight, power, howner, hvotes, htallied, htargets, hfound,
      hfew, htotal, hweight, hpower, hle, hcovered⟩
    exact ⟨owner, howner, hvotes, counts, htallied, htargets, account, hfound, hfew, total, htotal,
      weight, hweight, power, hpower, hle, hcovered⟩

theorem WithdrawBalance.check_eq_ok_iff {c : WithdrawBalance} :
    c.check ctx l = .ok u ↔ c.Admissible ctx l := by
  simp only [WithdrawBalance.check, bind_eq_ok_iff, address_eq_ok_iff, account_eq_ok_iff,
    require_eq_ok_iff, covered_eq_ok_iff, positive_eq_ok_iff, compute_eq_ok_iff,
    Amount.add_eq_ok_iff, Amount.sub_eq_ok_iff, Int64.le_iff_toInt_le, exists_and_left,
    exists_const]
  constructor
  · rintro ⟨owner, howner, account, hfound, hregistered, cooldown, hcooldown, elapsed, helapsed,
      hcooled, hpositive, balance, hbalance, hcovered⟩
    exact .intro owner account cooldown elapsed balance howner hfound hregistered hcooldown helapsed
      hcooled hpositive hbalance hcovered
  · rintro ⟨owner, account, cooldown, elapsed, balance, howner, hfound, hregistered, hcooldown,
      helapsed, hcooled, hpositive, hbalance, hcovered⟩
    exact ⟨owner, howner, account, hfound, hregistered, cooldown, hcooldown, elapsed, helapsed,
      hcooled, hpositive, balance, hbalance, hcovered⟩

/-- **A check passes exactly for the admissible contracts.** -/
theorem Contract.check_eq_ok_iff {c : Contract} :
    c.check ctx l = .ok u ↔ c.Admissible ctx l := by
  cases c with
  | transfer c => exact c.check_eq_ok_iff
  | transferAsset c => exact c.check_eq_ok_iff
  | assetIssue c => exact c.check_eq_ok_iff
  | participateAssetIssue c => exact c.check_eq_ok_iff
  | freezeBalance c => exact c.check_eq_ok_iff
  | unfreezeBalance c => exact c.check_eq_ok_iff
  | witnessCreate c => exact c.check_eq_ok_iff
  | witnessUpdate c => exact c.check_eq_ok_iff
  | accountUpdate c => exact c.check_eq_ok_iff
  | voteWitness c => exact c.check_eq_ok_iff
  | withdrawBalance c => exact c.check_eq_ok_iff

end

end AccountLedger
