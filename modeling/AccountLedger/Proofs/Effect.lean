/-
**What a contract does to a ledger.**

For each kind of contract, the relation between a ledger and what a successful execution leaves of it:
which records are read, what is computed from them, and which records and balances are written, in
their order.  Later modules reason about contracts through these relations only.

Main definitions:

* `Transfer.Effect`, …, `WithdrawBalance.Effect` — the effect of each kind;
* `Contract.Effect` — the effect of a contract.

Main results:

* `Contract.yields_execute_iff` — **an execution succeeds exactly with the effect of its contract.**
-/

import AccountLedger.Engine.Run
import AccountLedger.Proofs.Execution

set_option relaxedAutoImplicit false
set_option autoImplicit false

namespace AccountLedger

open Execution

/-! ### Transfers and account names -/

/-- The ledger with an account under `a`, opened at `now` if there was none. -/
def Ledger.opening (l : Ledger) (a : Address) (now : Int64) : Ledger :=
  if (l.account? a).isNone then l.putAccount (.opened a .normal now) else l

/-- The recipient's account is opened if need be, amount and fee are taken together, the amount is
given, and a positive fee goes to the sink. -/
inductive Transfer.Effect (c : Transfer) (ctx : Context) (l l' : Ledger) : Prop
  | intro (owner recipient : Address) (total : Int64) (m n : Ledger)
      (owner_eq : owner.bytes = c.owner) (recipient_eq : recipient.bytes = c.recipient)
      (total_eq : total.toInt = c.amount.toInt + (ctx.fee .transfer).toInt)
      (paid : (l.opening recipient ctx.now).Pays owner total m)
      (received : m.Adjusts recipient c.amount.toInt n)
      (collected :
        if 0 < ctx.fee .transfer then n.Adjusts n.sink (ctx.fee .transfer).toInt l' else l' = n)

/-- The account is renamed, or opened under the name, as the policy says. -/
inductive AccountUpdate.Effect (c : AccountUpdate) (ctx : Context) (l l' : Ledger) : Prop
  | renamed (owner : Address) (account : Account)
      (rule : ctx.policy.accountUpdate = .requireExisting)
      (owner_eq : owner.bytes = c.owner) (found : l.account? owner = some account)
      (charged : (l.putAccount { account with name := c.name }).Charges owner
        (ctx.fee .accountUpdate) l')
  | opened (owner : Address) (rule : ctx.policy.accountUpdate = .rejectExisting)
      (owner_eq : owner.bytes = c.owner)
      (charged : (l.putAccount { Account.opened owner .normal ctx.now with name := c.name }).Charges
        owner (ctx.fee .accountUpdate) l')

/-! ### Assets -/

/-- The asset that an issue registers. -/
def AssetIssue.asset (c : AssetIssue) (issuer : Address) : Asset where
  name := Utf8.repair c.name
  issuer := issuer
  totalSupply := c.totalSupply
  priceUnits := c.priceUnits
  priceTokens := c.priceTokens
  startTime := c.startTime
  endTime := c.endTime
  description := Utf8.repair c.description
  url := Utf8.repair c.url

/-- The asset is registered, the fee is charged, and the supply is credited to the issuer. -/
inductive AssetIssue.Effect (c : AssetIssue) (ctx : Context) (l l' : Ledger) : Prop
  | intro (owner : Address) (m : Ledger) (account credited : Account)
      (owner_eq : owner.bytes = c.owner)
      (charged : (l.putAsset (c.asset owner)).Charges owner (ctx.fee .assetIssue) m)
      (found : m.account? owner = some account)
      (given : account.credit (Utf8.repair c.name) c.totalSupply = .ok credited)
      (stored : l' = m.putAccount credited)

/-- Tokens leave the owner's holding and enter the recipient's. -/
inductive TransferAsset.Effect (c : TransferAsset) (ctx : Context) (l l' : Ledger) : Prop
  | intro (owner recipient : Address) (account debited receiver credited : Account)
      (owner_eq : owner.bytes = c.owner) (recipient_eq : recipient.bytes = c.recipient)
      (found : l.account? owner = some account)
      (taken : account.debit (Utf8.repair c.asset) c.amount = .ok (some debited))
      (receiving : (l.putAccount debited).account? recipient = some receiver)
      (given : receiver.credit (Utf8.repair c.asset) c.amount = .ok credited)
      (charged : ((l.putAccount debited).putAccount credited).Charges owner
        (ctx.fee .transferAsset) l')

/-- The price goes from the buyer to the issuer and the tokens go the other way. -/
inductive ParticipateAssetIssue.Effect (c : ParticipateAssetIssue) (ctx : Context)
    (l l' : Ledger) : Prop
  | intro (owner issuer : Address) (asset : Asset) (tokens : Int64) (m n : Ledger)
      (buyer bought seller sold : Account)
      (owner_eq : owner.bytes = c.owner) (issuer_eq : issuer.bytes = c.issuer)
      (registered : l.asset? (Utf8.repair c.asset) = some asset)
      (priced : asset.exchange c.amount = .ok tokens)
      (paid : l.Pays owner c.amount m)
      (buying : m.account? owner = some buyer)
      (given : buyer.credit (Utf8.repair c.asset) tokens = .ok bought)
      (received : (m.putAccount bought).Adjusts issuer c.amount.toInt n)
      (selling : n.account? issuer = some seller)
      (taken : seller.debit (Utf8.repair c.asset) tokens = .ok (some sold))
      (charged : (n.putAccount sold).Charges owner (ctx.fee .participateAssetIssue) l')

/-! ### Stake -/

/-- The locks after one more amount is frozen until `expiry`: a first lock, or the one there was with
the sum in it. -/
inductive FreezeBalance.Merges (amount expiry : Int64) : List Lock → List Lock → Prop
  | first : Merges amount expiry [] [⟨amount, expiry⟩]
  | again (lock : Lock) (sum : Int64) (exact : sum.toInt = lock.amount.toInt + amount.toInt) :
      Merges amount expiry [lock] [⟨sum, expiry⟩]

/-- The amount leaves the balance for the lock, and bandwidth is earned. -/
inductive FreezeBalance.Effect (c : FreezeBalance) (ctx : Context) (l l' : Ledger) : Prop
  | intro (owner : Address) (m : Ledger) (account : Account)
      (duration expiry credit bandwidth : Int64) (locks : List Lock)
      (owner_eq : owner.bytes = c.owner)
      (paid : l.Pays owner c.amount m)
      (found : m.account? owner = some account)
      (duration_eq : Amount.millisOfDays c.days = .ok duration)
      (expiry_eq : Amount.add ctx.now duration = .ok expiry)
      (merged : Merges c.amount expiry account.locks locks)
      (earned : c.credit l.parameters.bandwidthPerCoinDay = .ok credit)
      (bandwidth_eq : bandwidth.toInt = account.bandwidth.toInt + credit.toInt)
      (charged : (m.putAccount { account with locks := locks, bandwidth := bandwidth }).Charges owner
        (ctx.fee .freezeBalance) l')

/-- Every expired lock goes back into the balance. -/
inductive UnfreezeBalance.Effect (c : UnfreezeBalance) (ctx : Context) (l l' : Ledger) : Prop
  | intro (owner : Address) (account : Account) (released balance : Int64)
      (owner_eq : owner.bytes = c.owner)
      (found : l.account? owner = some account)
      (released_eq : account.released ctx.now = .ok released)
      (balance_eq : balance.toInt = account.balance.toInt + released.toInt)
      (charged : (l.putAccount { account with
          balance := balance
          locks := account.locks.filter fun k => !k.isExpired ctx.now }).Charges owner
        (ctx.fee .unfreezeBalance) l')

/-! ### Witnesses, votes and rewards -/

/-- The witness is registered, the account is marked, and cost and fee are charged together. -/
inductive WitnessCreate.Effect (c : WitnessCreate) (ctx : Context) (l l' : Ledger) : Prop
  | intro (owner : Address) (account : Account) (total : Int64)
      (owner_eq : owner.bytes = c.owner)
      (found : l.account? owner = some account)
      (total_eq : total.toInt
        = l.parameters.accountUpgradeCost.toInt + (ctx.fee .witnessCreate).toInt)
      (charged : ((l.putWitness ⟨owner, Utf8.repair c.url, 0⟩).putAccount
        { account with isWitness := true }).Charges owner total l')

/-- The page address of the witness is replaced. -/
inductive WitnessUpdate.Effect (c : WitnessUpdate) (ctx : Context) (l l' : Ledger) : Prop
  | intro (owner : Address) (witness : Witness)
      (owner_eq : owner.bytes = c.owner)
      (found : l.witness? owner = some witness)
      (charged : (l.putWitness { witness with url := Utf8.repair c.url }).Charges owner
        (ctx.fee .witnessUpdate) l')

/-- The votes of the account are replaced. -/
inductive VoteWitness.Effect (c : VoteWitness) (ctx : Context) (l l' : Ledger) : Prop
  | intro (owner : Address) (counts : SortedMap Address Int64) (account : Account)
      (owner_eq : owner.bytes = c.owner)
      (tallied : VoteWitness.tally c.votes = .ok counts)
      (found : l.account? owner = some account)
      (charged : (l.putAccount { account with votes := counts }).Charges owner
        (ctx.fee .voteWitness) l')

/-- The allowance goes into the balance, and the time is noted. -/
inductive WithdrawBalance.Effect (c : WithdrawBalance) (ctx : Context) (l l' : Ledger) : Prop
  | intro (owner : Address) (account : Account) (balance : Int64)
      (owner_eq : owner.bytes = c.owner)
      (found : l.account? owner = some account)
      (balance_eq : balance.toInt = account.balance.toInt + account.allowance.toInt)
      (charged : (l.putAccount { account with
          balance := balance
          allowance := 0
          latestWithdrawal := ctx.now }).Charges owner (ctx.fee .withdrawBalance) l')

/-- What a contract does to a ledger. -/
def Contract.Effect (c : Contract) (ctx : Context) (l l' : Ledger) : Prop :=
  match c with
  | .transfer c => c.Effect ctx l l'
  | .transferAsset c => c.Effect ctx l l'
  | .assetIssue c => c.Effect ctx l l'
  | .participateAssetIssue c => c.Effect ctx l l'
  | .freezeBalance c => c.Effect ctx l l'
  | .unfreezeBalance c => c.Effect ctx l l'
  | .witnessCreate c => c.Effect ctx l l'
  | .witnessUpdate c => c.Effect ctx l l'
  | .accountUpdate c => c.Effect ctx l l'
  | .voteWitness c => c.Effect ctx l l'
  | .withdrawBalance c => c.Effect ctx l l'

/-! ### Executions succeed exactly with their effect -/

section

variable {ctx : Context} {l l' : Ledger} {u : Unit}

/-- What follows the opening of an account runs on the ledger that has it. -/
theorem yields_opening_iff {a : Address} {rest : Execution Unit} :
    Yields (if (l.account? a).isNone then put (.opened a .normal ctx.now) >>= fun _ => rest
      else rest) l u l' ↔ Yields rest (l.opening a ctx.now) u l' := by
  unfold Ledger.opening
  split
  · simp only [yields_bind, yields_put, exists_eq_left, exists_const]
  · exact Iff.rfl

/-- A positive fee goes to the sink. -/
theorem yields_collect_iff {fee : Int64} :
    Yields (if 0 < fee then step Update.sink >>= fun a => adjust a fee else pure ()) l u l' ↔
      if 0 < fee then l.Adjusts l.sink fee.toInt l' else l' = l := by
  split
  · simp only [yields_bind, yields_step, Update.runOn_sink, Prod.mk.injEq, yields_adjust,
      and_assoc, exists_and_left, exists_eq_left']
  · rw [yields_pure]
    exact and_iff_right rfl

theorem Transfer.yields_execute_iff {c : Transfer} :
    Yields (c.execute ctx) l u l' ↔ c.Effect ctx l l' := by
  simp only [Transfer.execute, yields_bind, yields_address, yields_step, Update.runOn_account?,
    Prod.mk.injEq, and_assoc, exists_and_left, exists_eq_left, exists_eq_left']
  constructor
  · rintro ⟨owner, howner, recipient, hrecipient, h⟩
    have h := yields_opening_iff.1 h
    simp only [yields_bind, yields_compute, yields_adjust_neg, yields_collect_iff, and_assoc,
      exists_and_left, exists_eq_left, exists_const] at h
    obtain ⟨total, htotal, m, hpaid, _, n, hreceived, hcollected⟩ := h
    exact .intro owner recipient total m n howner hrecipient (Amount.add_eq_ok_iff.1 htotal) hpaid
      (yields_adjust.1 hreceived) hcollected
  · rintro ⟨owner, recipient, total, m, n, howner, hrecipient, htotal, hpaid, hreceived,
      hcollected⟩
    refine ⟨owner, howner, recipient, hrecipient, yields_opening_iff.2 ?_⟩
    simp only [yields_bind, yields_compute, yields_adjust_neg, yields_collect_iff, and_assoc,
      exists_and_left, exists_eq_left, exists_const]
    exact ⟨total, Amount.add_eq_ok_iff.2 htotal, m, hpaid, (), n, yields_adjust.2 hreceived,
      hcollected⟩

theorem AccountUpdate.yields_execute_iff {c : AccountUpdate} :
    Yields (c.execute ctx) l u l' ↔ c.Effect ctx l l' := by
  simp only [AccountUpdate.execute, yields_bind, yields_address, and_assoc, exists_and_left,
    exists_eq_left]
  constructor
  · rintro ⟨owner, howner, h⟩
    split at h
    · next hrule =>
        simp only [yields_bind, yields_account, yields_put, yields_charge, and_assoc,
          exists_and_left, exists_eq_left, exists_const] at h
        obtain ⟨account, hfound, hcharged⟩ := h
        exact .renamed owner account hrule howner hfound hcharged
    · next hrule =>
        simp only [yields_bind, yields_pure, yields_put, yields_charge, and_assoc,
          exists_and_left, exists_eq_left, exists_const] at h
        exact .opened owner hrule howner h
  · intro h
    cases h with
    | renamed owner account hrule howner hfound hcharged =>
        refine ⟨owner, howner, ?_⟩
        rw [hrule]
        simp only [yields_bind, yields_account, yields_put, yields_charge, and_assoc,
          exists_and_left, exists_eq_left, exists_const]
        exact ⟨account, hfound, hcharged⟩
    | opened owner hrule howner hcharged =>
        refine ⟨owner, howner, ?_⟩
        rw [hrule]
        simp only [yields_bind, yields_pure, yields_put, yields_charge, and_assoc,
          exists_and_left, exists_eq_left, exists_const]
        exact hcharged

theorem AssetIssue.yields_execute_iff {c : AssetIssue} :
    Yields (c.execute ctx) l u l' ↔ c.Effect ctx l l' := by
  simp only [AssetIssue.execute, yields_bind, yields_address, yields_step, Update.runOn_putAsset,
    yields_charge, yields_account, yields_compute, yields_put, Prod.mk.injEq, and_assoc,
    exists_and_left, exists_eq_left, exists_eq_left', exists_const, true_and]
  constructor
  · rintro ⟨owner, howner, m, hcharged, account, hfound, credited, hgiven, hstored⟩
    exact .intro owner m account credited howner hcharged hfound hgiven hstored
  · rintro ⟨owner, m, account, credited, howner, hcharged, hfound, hgiven, hstored⟩
    exact ⟨owner, howner, m, hcharged, account, hfound, credited, hgiven, hstored⟩

theorem TransferAsset.yields_execute_iff {c : TransferAsset} :
    Yields (c.execute ctx) l u l' ↔ c.Effect ctx l l' := by
  simp only [TransferAsset.execute, yields_bind, yields_address, yields_account, yields_compute,
    and_assoc, exists_and_left, exists_eq_left]
  constructor
  · rintro ⟨owner, howner, recipient, hrecipient, account, hfound, taken, htaken, h⟩
    split at h
    · exact absurd h not_yields_throw_bind
    · next debited =>
        simp only [yields_bind, yields_put, yields_account, yields_compute, yields_charge, and_assoc,
          exists_and_left, exists_eq_left, exists_const] at h
        obtain ⟨receiver, hreceiving, credited, hgiven, hcharged⟩ := h
        exact .intro owner recipient account debited receiver credited howner hrecipient hfound
          htaken hreceiving hgiven hcharged
  · rintro ⟨owner, recipient, account, debited, receiver, credited, howner, hrecipient, hfound,
      htaken, hreceiving, hgiven, hcharged⟩
    refine ⟨owner, howner, recipient, hrecipient, account, hfound, some debited, htaken, ?_⟩
    simp only [yields_bind, yields_put, yields_account, yields_compute, yields_charge, and_assoc,
      exists_and_left, exists_eq_left, exists_const]
    exact ⟨receiver, hreceiving, credited, hgiven, hcharged⟩

theorem ParticipateAssetIssue.yields_execute_iff {c : ParticipateAssetIssue} :
    Yields (c.execute ctx) l u l' ↔ c.Effect ctx l l' := by
  simp only [ParticipateAssetIssue.execute, yields_bind, yields_address, yields_step,
    Update.runOn_asset?, Prod.mk.injEq, and_assoc, exists_and_left, exists_eq_left, exists_eq_left']
  constructor
  · rintro ⟨owner, howner, issuer, hissuer, h⟩
    split at h
    · exact absurd h not_yields_throw_bind
    · next asset hregistered =>
        simp only [yields_bind, yields_pure, yields_compute, yields_adjust_neg, yields_account,
          yields_put, and_assoc, exists_and_left, exists_eq_left, exists_const] at h
        obtain ⟨tokens, hpriced, m, hpaid, buyer, hbuying, bought, hgiven, _, n, hreceived,
          seller, hselling, taken, htaken, h⟩ := h
        split at h
        · exact absurd h not_yields_throw_bind
        · next sold =>
            simp only [yields_bind, yields_put, yields_charge, exists_eq_left, exists_const] at h
            exact .intro owner issuer asset tokens m n buyer bought seller sold howner hissuer
              hregistered hpriced hpaid hbuying hgiven (yields_adjust.1 hreceived) hselling htaken h
  · rintro ⟨owner, issuer, asset, tokens, m, n, buyer, bought, seller, sold, howner, hissuer,
      hregistered, hpriced, hpaid, hbuying, hgiven, hreceived, hselling, htaken, hcharged⟩
    refine ⟨owner, howner, issuer, hissuer, ?_⟩
    simp only [hregistered, yields_bind, yields_pure, yields_compute, yields_adjust_neg,
      yields_account, yields_put, and_assoc, exists_and_left, exists_eq_left,
      exists_const]
    refine ⟨tokens, hpriced, m, hpaid, buyer, hbuying, bought, hgiven, (), n,
      yields_adjust.2 hreceived, seller, hselling, some sold, htaken, ?_⟩
    simp only [yields_bind, yields_put, yields_charge, exists_eq_left, exists_const]
    exact hcharged

theorem FreezeBalance.yields_merged_iff {owner : Address} {before locks : List Lock}
    {amount expiry : Int64} :
    Yields (merged owner before amount expiry) l locks l' ↔
      Merges amount expiry before locks ∧ l' = l := by
  unfold merged
  split
  · rw [yields_pure]
    constructor
    · rintro ⟨rfl, rfl⟩
      exact ⟨.first, rfl⟩
    · rintro ⟨h, rfl⟩
      cases h
      exact ⟨rfl, rfl⟩
  · next lock =>
      simp only [yields_bind, yields_compute, yields_pure, and_assoc, exists_and_left,
        exists_eq_left, Amount.add_eq_ok_iff]
      constructor
      · rintro ⟨sum, hsum, rfl, rfl⟩
        exact ⟨.again lock sum hsum, rfl⟩
      · rintro ⟨h, rfl⟩
        cases h with
        | again _ sum hsum => exact ⟨sum, hsum, rfl, rfl⟩
  · next hnil hone =>
      constructor
      · intro h
        exact absurd h not_yields_throw
      · rintro ⟨h, -⟩
        cases h with
        | first => exact absurd rfl hnil
        | again lock sum hsum => exact absurd rfl (hone lock)

theorem FreezeBalance.yields_execute_iff {c : FreezeBalance} :
    Yields (c.execute ctx) l u l' ↔ c.Effect ctx l l' := by
  simp only [FreezeBalance.execute, yields_bind, yields_address, yields_step,
    Update.runOn_parameters, yields_adjust_neg, yields_account, yields_compute, yields_merged_iff,
    yields_put, yields_charge, Prod.mk.injEq, and_assoc, exists_and_left, exists_eq_left,
    exists_eq_left', exists_const]
  constructor
  · rintro ⟨owner, howner, m, hpaid, account, hfound, duration, hduration, expiry, hexpiry, locks,
      hmerged, credit, hearned, bandwidth, hbandwidth, hcharged⟩
    exact .intro owner m account duration expiry credit bandwidth locks howner hpaid hfound
      hduration hexpiry hmerged hearned (Amount.add_eq_ok_iff.1 hbandwidth) hcharged
  · rintro ⟨owner, m, account, duration, expiry, credit, bandwidth, locks, howner, hpaid, hfound,
      hduration, hexpiry, hmerged, hearned, hbandwidth, hcharged⟩
    exact ⟨owner, howner, m, hpaid, account, hfound, duration, hduration, expiry, hexpiry, locks,
      hmerged, credit, hearned, bandwidth, Amount.add_eq_ok_iff.2 hbandwidth, hcharged⟩

theorem UnfreezeBalance.yields_execute_iff {c : UnfreezeBalance} :
    Yields (c.execute ctx) l u l' ↔ c.Effect ctx l l' := by
  simp only [UnfreezeBalance.execute, yields_bind, yields_address, yields_account, yields_compute,
    yields_put, yields_charge, and_assoc, exists_and_left, exists_eq_left, exists_const]
  constructor
  · rintro ⟨owner, howner, account, hfound, released, hreleased, balance, hbalance, hcharged⟩
    exact .intro owner account released balance howner hfound hreleased
      (Amount.add_eq_ok_iff.1 hbalance) hcharged
  · rintro ⟨owner, account, released, balance, howner, hfound, hreleased, hbalance, hcharged⟩
    exact ⟨owner, howner, account, hfound, released, hreleased, balance,
      Amount.add_eq_ok_iff.2 hbalance, hcharged⟩

theorem WitnessCreate.yields_execute_iff {c : WitnessCreate} :
    Yields (c.execute ctx) l u l' ↔ c.Effect ctx l l' := by
  simp only [WitnessCreate.execute, yields_bind, yields_address, yields_step,
    Update.runOn_parameters, Update.runOn_putWitness, yields_account, yields_compute, yields_put,
    yields_charge, Prod.mk.injEq, and_assoc, exists_and_left, exists_eq_left, exists_eq_left',
    exists_const, true_and]
  constructor
  · rintro ⟨owner, howner, account, hfound, total, htotal, hcharged⟩
    exact .intro owner account total howner hfound (Amount.add_eq_ok_iff.1 htotal) hcharged
  · rintro ⟨owner, account, total, howner, hfound, htotal, hcharged⟩
    exact ⟨owner, howner, account, hfound, total, Amount.add_eq_ok_iff.2 htotal, hcharged⟩

theorem WitnessUpdate.yields_execute_iff {c : WitnessUpdate} :
    Yields (c.execute ctx) l u l' ↔ c.Effect ctx l l' := by
  simp only [WitnessUpdate.execute, yields_bind, yields_address, yields_step,
    Update.runOn_witness?, Prod.mk.injEq, and_assoc, exists_and_left, exists_eq_left,
    exists_eq_left']
  constructor
  · rintro ⟨owner, howner, h⟩
    split at h
    · exact absurd h not_yields_throw_bind
    · next witness hfound =>
        simp only [yields_bind, yields_pure, yields_step, Update.runOn_putWitness, yields_charge,
          Prod.mk.injEq, and_assoc, exists_and_left, exists_eq_left, exists_eq_left',
          exists_const, true_and] at h
        exact .intro owner witness howner hfound h
  · rintro ⟨owner, witness, howner, hfound, hcharged⟩
    refine ⟨owner, howner, ?_⟩
    simp only [hfound, yields_bind, yields_pure, yields_step, Update.runOn_putWitness,
      yields_charge, Prod.mk.injEq, and_assoc, exists_and_left, exists_eq_left, exists_eq_left',
      exists_const, true_and]
    exact hcharged

theorem VoteWitness.yields_execute_iff {c : VoteWitness} :
    Yields (c.execute ctx) l u l' ↔ c.Effect ctx l l' := by
  simp only [VoteWitness.execute, yields_bind, yields_address, and_assoc, exists_and_left,
    exists_eq_left]
  constructor
  · rintro ⟨owner, howner, h⟩
    split at h
    · exact absurd h not_yields_throw_bind
    · next counts htallied =>
        simp only [yields_bind, yields_pure, yields_account, yields_put, yields_charge, and_assoc,
          exists_and_left, exists_eq_left, exists_const] at h
        obtain ⟨account, hfound, hcharged⟩ := h
        exact .intro owner counts account howner htallied hfound hcharged
  · rintro ⟨owner, counts, account, howner, htallied, hfound, hcharged⟩
    refine ⟨owner, howner, ?_⟩
    simp only [htallied, yields_bind, yields_pure, yields_account, yields_put, yields_charge,
      and_assoc, exists_and_left, exists_eq_left, exists_const]
    exact ⟨account, hfound, hcharged⟩

theorem WithdrawBalance.yields_execute_iff {c : WithdrawBalance} :
    Yields (c.execute ctx) l u l' ↔ c.Effect ctx l l' := by
  simp only [WithdrawBalance.execute, yields_bind, yields_address, yields_account, yields_compute,
    yields_put, yields_charge, and_assoc, exists_and_left, exists_eq_left, exists_const]
  constructor
  · rintro ⟨owner, howner, account, hfound, balance, hbalance, hcharged⟩
    exact .intro owner account balance howner hfound (Amount.add_eq_ok_iff.1 hbalance) hcharged
  · rintro ⟨owner, account, balance, howner, hfound, hbalance, hcharged⟩
    exact ⟨owner, howner, account, hfound, balance, Amount.add_eq_ok_iff.2 hbalance, hcharged⟩

/-- **An execution succeeds exactly with the effect of its contract.** -/
theorem Contract.yields_execute_iff {c : Contract} :
    Yields (c.execute ctx) l u l' ↔ c.Effect ctx l l' := by
  cases c with
  | transfer c => exact c.yields_execute_iff
  | transferAsset c => exact c.yields_execute_iff
  | assetIssue c => exact c.yields_execute_iff
  | participateAssetIssue c => exact c.yields_execute_iff
  | freezeBalance c => exact c.yields_execute_iff
  | unfreezeBalance c => exact c.yields_execute_iff
  | witnessCreate c => exact c.yields_execute_iff
  | witnessUpdate c => exact c.yields_execute_iff
  | accountUpdate c => exact c.yields_execute_iff
  | voteWitness c => exact c.yields_execute_iff
  | withdrawBalance c => exact c.yields_execute_iff

end

end AccountLedger
