/-
**What a contract looks at.**

A contract looks at the records under the addresses that it names, at the asset that it names, at the
parameters, and at nothing else but the room in the sink's balance, which a solvent ledger always has.
So on two such ledgers that agree on this it comes to the same: the same answer, the same records as
far as it looks, and the same gain of the sink.

Main definitions:

* `Contract.parties` — the raw bytes of all addresses that a contract names;
* `Contract.Agree` — two ledgers that are the same as far as a contract looks;
* `Contract.verdict` — the answer that an admissible contract gets;
* `Engine.Alike` — two runs of a contract that come to the same.

Main results:

* `Contract.Agree.check` — a check answers the same on ledgers that agree;
* `Contract.Agree.effect`, `Contract.Agree.charges` — effects, and the collections of a fee, leave
  ledgers that agree;
* `Engine.verdict_apply` — the answer depends on the contract, the time and the policy only;
* `Engine.alike_apply` — **a contract comes to the same on ledgers that agree.**
-/

import AccountLedger.Proofs.Authority
import AccountLedger.Proofs.Progress

set_option relaxedAutoImplicit false
set_option autoImplicit false

namespace AccountLedger

/-! ### What a contract looks at -/

/-- The raw bytes of all addresses that the contract names: its owner's, the other party's, and those
that it votes for. -/
def Contract.parties (c : Contract) : List Bytes :=
  c.owner :: (c.counterparty?.toList ++
    match c with
    | .voteWitness c => c.votes.map (·.target)
    | _ => [])

/-- The two ledgers are the same as far as the contract looks: the records under the addresses that it
names, the asset that it names, the sink's address, and the parameters. -/
structure Contract.Agree (c : Contract) (l m : Ledger) : Prop where
  sink : m.sink = l.sink
  parameters : m.parameters = l.parameters
  account : ∀ a : Address, a.bytes ∈ c.parties → m.account? a = l.account? a
  witness : ∀ a : Address, a.bytes ∈ c.parties → m.witness? a = l.witness? a
  asset : ∀ bs name, c.assetName? = some bs → Utf8.decode? bs = some name →
    m.asset? name = l.asset? name

namespace Contract

variable {c : Contract}

theorem owner_mem_parties : c.owner ∈ c.parties := List.mem_cons_self

theorem mem_parties_of_counterparty? {bs : Bytes} (h : c.counterparty? = some bs) :
    bs ∈ c.parties := by
  refine List.mem_cons_of_mem _ (List.mem_append_left _ ?_)
  rw [h]
  exact List.mem_singleton_self bs

theorem ne_owner_of_not_mem {bs : Bytes} (h : bs ∉ c.parties) : bs ≠ c.owner :=
  fun heq => h (heq ▸ owner_mem_parties)

theorem counterparty?_ne_of_not_mem {bs : Bytes} (h : bs ∉ c.parties) :
    c.counterparty? ≠ some bs := fun heq => h (mem_parties_of_counterparty? heq)

end Contract

/-! ### Checks -/

namespace Check

variable {α β : Type}

/-- What follows a check matters only for what the check can answer. -/
theorem bind_congr {x : Check α} {f g : α → Check β} (h : ∀ a, x = .ok a → f a = g a) :
    (x >>= f) = (x >>= g) := by
  cases x with
  | error e => rfl
  | ok a => exact h a rfl

/-- A row of checks matters only for the items that are in it. -/
theorem forM_congr {xs : List α} {f g : α → Check Unit} (h : ∀ a ∈ xs, f a = g a) :
    xs.forM f = xs.forM g := by
  induction xs with
  | nil => rfl
  | cons x xs ih =>
      obtain ⟨hx, hxs⟩ := List.forall_mem_cons.1 h
      rw [show (x :: xs).forM f = f x >>= fun _ => xs.forM f from rfl, hx, ih hxs]
      rfl

end Check

namespace Contract.Agree

variable {c : Contract} {ctx : Context} {l m : Ledger}

theorem owner_account (h : c.Agree l m) {a : Address} (ha : a.bytes = c.owner) :
    m.account? a = l.account? a := h.account a (ha ▸ owner_mem_parties)

theorem party_account (h : c.Agree l m) {a : Address} (ha : c.counterparty? = some a.bytes) :
    m.account? a = l.account? a := h.account a (mem_parties_of_counterparty? ha)

theorem hasWitness (h : c.Agree l m) {a : Address} (ha : a.bytes ∈ c.parties) :
    m.hasWitness a = l.hasWitness a := congrArg Option.isSome (h.witness a ha)

theorem owner_hasWitness (h : c.Agree l m) {a : Address} (ha : a.bytes = c.owner) :
    m.hasWitness a = l.hasWitness a := h.hasWitness (ha ▸ owner_mem_parties)

theorem hasAsset (h : c.Agree l m) {bs : Bytes} {name : String} (hbs : c.assetName? = some bs)
    (hname : Utf8.decode? bs = some name) : m.hasAsset name = l.hasAsset name :=
  congrArg Option.isSome (h.asset bs name hbs hname)

/-- **A check answers the same on ledgers that agree.** -/
theorem check (h : c.Agree l m) : c.check ctx m = c.check ctx l := by
  cases c with
  | transfer c =>
      refine Check.bind_congr fun owner howner => Check.bind_congr fun recipient hrecipient => ?_
      rw [Check.address_eq_ok_iff] at howner hrecipient
      have hparty := h.party_account (congrArg some hrecipient.symm)
      simp only [Check.account, h.owner_account howner, hparty, h.parameters]
  | transferAsset c =>
      refine Check.bind_congr fun owner howner => Check.bind_congr fun recipient hrecipient =>
        Check.bind_congr fun name hname => ?_
      rw [Check.address_eq_ok_iff] at howner hrecipient
      rw [Check.assetName_eq_ok_iff] at hname
      have hparty := h.party_account (congrArg some hrecipient.symm)
      simp only [Check.account, h.owner_account howner, hparty, h.hasAsset rfl hname.2]
  | assetIssue c =>
      refine Check.bind_congr fun owner howner => Check.bind_congr fun name hname => ?_
      rw [Check.address_eq_ok_iff] at howner
      rw [Check.assetName_eq_ok_iff] at hname
      simp only [Check.account, h.owner_account howner, h.hasAsset rfl hname.2]
  | participateAssetIssue c =>
      refine Check.bind_congr fun owner howner => Check.bind_congr fun issuer hissuer =>
        Check.bind_congr fun name hname => ?_
      rw [Check.address_eq_ok_iff] at howner hissuer
      rw [Check.assetName_eq_ok_iff] at hname
      have hparty := h.party_account (congrArg some hissuer.symm)
      simp only [Check.account, Check.asset, h.owner_account howner, hparty, h.asset _ _ rfl hname.2]
  | freezeBalance c =>
      simp only [Contract.check, FreezeBalance.check, h.parameters]
      refine Check.bind_congr fun owner howner => ?_
      rw [Check.address_eq_ok_iff] at howner
      simp only [Check.account, h.owner_account howner]
  | unfreezeBalance c =>
      refine Check.bind_congr fun owner howner => ?_
      rw [Check.address_eq_ok_iff] at howner
      simp only [Check.account, h.owner_account howner]
  | witnessCreate c =>
      refine Check.bind_congr fun owner howner => ?_
      rw [Check.address_eq_ok_iff] at howner
      simp only [Check.account, h.owner_account howner, h.owner_hasWitness howner, h.parameters]
  | witnessUpdate c =>
      refine Check.bind_congr fun owner howner => ?_
      rw [Check.address_eq_ok_iff] at howner
      simp only [Check.account, h.owner_account howner, h.owner_hasWitness howner]
  | accountUpdate c =>
      refine Check.bind_congr fun _ _ => Check.bind_congr fun owner howner => ?_
      rw [Check.address_eq_ok_iff] at howner
      simp only [h.owner_account howner]
  | voteWitness c =>
      refine Check.bind_congr fun owner howner => Check.bind_congr fun _ _ =>
        Check.bind_congr fun counts hcounts => ?_
      rw [Check.address_eq_ok_iff] at howner
      have htargets (target : Address) (htarget : target ∈ counts.keys) :
          target.bytes ∈ (Contract.voteWitness c).parties :=
        List.mem_cons_of_mem _ ((VoteWitness.counted_of_tally hcounts).mem_keys_iff.1 htarget)
      have hrow : (counts.keys.forM fun target => (do
            discard (Check.account m .voteTarget target)
            require (m.hasWitness target) (.witnessNotFound target) : Check Unit))
          = counts.keys.forM fun target => (do
            discard (Check.account l .voteTarget target)
            require (l.hasWitness target) (.witnessNotFound target) : Check Unit) := by
        refine Check.forM_congr fun target htarget => ?_
        have hparty := htargets target htarget
        simp only [Check.account, h.account target hparty, h.hasWitness hparty]
      rw [hrow]
      simp only [Check.account, h.owner_account howner, h.parameters]
  | withdrawBalance c =>
      refine Check.bind_congr fun owner howner => ?_
      rw [Check.address_eq_ok_iff] at howner
      simp only [Check.account, h.owner_account howner, h.owner_hasWitness howner, h.parameters]

end Contract.Agree

/-! ### Records that a contract makes -/

/-- A merge leaves one row of locks. -/
theorem FreezeBalance.Merges.unique {amount expiry : Int64} {before locks locks' : List Lock}
    (h : Merges amount expiry before locks) (h' : Merges amount expiry before locks') :
    locks' = locks := by
  cases h with
  | first =>
      cases h'
      rfl
  | again lock sum exact =>
      cases h' with
      | again _ sum' exact' => rw [Int64.toInt_inj.1 (exact'.trans exact.symm)]

theorem Account.SameButFunds.symm {r s : Account} (h : r.SameButFunds s) : s.SameButFunds r := by
  cases h with
  | intro balance holdings => exact .intro r.balance r.holdings

namespace Contract

variable {c : Contract} {ctx : Context} {p : Parameters} {a : Address} {r e e' : Account}

/-- A contract makes one record of its owner's. -/
theorem Edits.unique (h : c.Edits ctx p r e) (h' : c.Edits ctx p r e') : e' = e := by
  cases c with
  | freezeBalance c =>
      obtain ⟨duration, expiry, credit, bandwidth, locks, hduration, hexpiry, merged, hcredit,
        hbandwidth, rfl⟩ := h
      obtain ⟨duration', expiry', credit', bandwidth', locks', hduration', hexpiry', merged',
        hcredit', hbandwidth', rfl⟩ := h'
      cases hduration.symm.trans hduration'
      cases hexpiry.symm.trans hexpiry'
      cases hcredit.symm.trans hcredit'
      rw [merged.unique merged', Int64.toInt_inj.1 (hbandwidth'.trans hbandwidth.symm)]
  | voteWitness c =>
      obtain ⟨counts, hcounts, rfl⟩ := h
      obtain ⟨counts', hcounts', rfl⟩ := h'
      cases hcounts.symm.trans hcounts'
      rfl
  | _ => exact h'.trans h.symm

/-- And it opens an account under one record. -/
theorem Opens.unique (h : c.Opens ctx a e) (h' : c.Opens ctx a e') : e' = e := by
  cases c with
  | transfer c => exact h'.2.trans h.2.symm
  | accountUpdate c => exact h'.2.2.trans h.2.2.symm
  | _ => cases h

/-- What becomes of a record is decided by the record, but for funds, if an account that can be opened
is opened. -/
theorem Rewrites.unique {before after after' : Option Account} (h : c.Rewrites ctx p a before after)
    (h' : c.Rewrites ctx p a before after')
    (hopened : ∀ e, c.Opens ctx a e → after ≠ none ∧ after' ≠ none) :
    (after = none ∧ after' = none) ∨
      ∃ r r', after = some r ∧ after' = some r' ∧ r.SameButFunds r' := by
  cases h with
  | absent =>
      cases h' with
      | absent => exact .inl ⟨rfl, rfl⟩
      | opened e r' new same => exact absurd rfl (hopened e new).1
  | opened e r new same =>
      cases h' with
      | absent => exact absurd rfl (hopened e new).2
      | opened e' r' new' same' =>
          obtain rfl := new.unique new'
          exact .inr ⟨r, r', rfl, rfl, same.symm.trans same'⟩
  | owner r e s owner_eq edit same =>
      cases h' with
      | owner _ e' s' _ edit' same' =>
          obtain rfl := edit.unique edit'
          exact .inr ⟨s, s', rfl, rfl, same.symm.trans same'⟩
      | other _ s' owner_ne same' => exact absurd owner_eq owner_ne
  | other r s owner_ne same =>
      cases h' with
      | owner _ e' s' owner_eq edit' same' => exact absurd owner_eq owner_ne
      | other _ s' _ same' => exact .inr ⟨s, s', rfl, rfl, same.symm.trans same'⟩

end Contract

section

variable {c : Contract} {ctx : Context} {l l' : Ledger}

open Ledger

/-- An account that is to be opened is there in the end. -/
theorem Contract.Effect.opens (h : c.Effect ctx l l') (hl : l.AccountsKeyed) {a : Address}
    {e : Account} (hnew : c.Opens ctx a e) : l'.account? a ≠ none := by
  -- Once it is there, changes of balances keep it.
  have hkept {m : Ledger} {r : Account} (hsame : SameButBalances m l')
      (hr : m.account? a = some r) : l'.account? a ≠ none := by
    obtain ⟨b, hb⟩ := hsame.account a r hr
    rw [hb]
    exact Option.some_ne_none _
  cases c with
  | transfer c =>
      obtain ⟨owner, recipient, total, m, n, -, recipient_eq, -, paid, received, collected⟩ := h
      obtain rfl := Address.ext (recipient_eq.trans hnew.1.symm)
      have hm : m.AccountsKeyed := paid.adjusts.accountsKeyed hl.opening
      obtain ⟨_, b, -, hn, -, -⟩ := received.account?_self hm
      split at collected
      · exact hkept (collected.sameButBalances (received.accountsKeyed hm)) hn
      · rw [collected, hn]
        exact Option.some_ne_none _
  | accountUpdate c =>
      obtain ⟨owner_eq, rule, -⟩ := hnew
      cases h with
      | renamed owner account rule' owner_eq' found charged =>
          rw [rule] at rule'
          cases rule'
      | opened owner rule' owner_eq' charged =>
          obtain rfl := Address.ext (owner_eq'.trans owner_eq.symm)
          exact hkept (charged.sameButBalances (hl.putAccount _)) (account?_putAccount_self l
            { Account.opened owner .normal ctx.now with name := c.name })
  | _ => cases hnew

end

/-! ### Effects on ledgers that agree -/

section

variable {c : Contract} {ctx : Context} {l m l' m' : Ledger} {a : Address}

open Ledger

theorem Ledger.balanceOf_congr (h : m.account? a = l.account? a) :
    m.balanceOf a = l.balanceOf a := by
  rw [balanceOf, h, balanceOf]

theorem Ledger.holdingsOf_congr (h : m.account? a = l.account? a) :
    m.holdingsOf a = l.holdingsOf a := by
  rw [holdingsOf, h, holdingsOf]

/-- Records that differ in funds at most are the same where the ledgers say the same about funds. -/
theorem Ledger.account?_eq_of_funds
    (h : (l.account? a = none ∧ m.account? a = none) ∨
      ∃ r s, l.account? a = some r ∧ m.account? a = some s ∧ r.SameButFunds s)
    (hbalance : m.balanceOf a = l.balanceOf a) (hholdings : m.holdingsOf a = l.holdingsOf a) :
    m.account? a = l.account? a := by
  rcases h with ⟨hr, hs⟩ | ⟨r, s, hr, hs, hsame⟩
  · rw [hr, hs]
  · rw [holdingsOf_eq hr, holdingsOf_eq hs] at hholdings
    simp only [balanceOf, hr, hs, Option.elim_some] at hbalance
    rw [hr, hs, hsame.eq_of_funds hbalance hholdings]

namespace Contract.Agree

/-- A contract moves the same amounts on ledgers that agree. -/
theorem flow (h : c.Agree l m) (ha : a.bytes ∈ c.parties) : c.flow ctx m a = c.flow ctx l a := by
  have hunlocked : c.unlocked ctx.now m a = c.unlocked ctx.now l a := by
    cases c with
    | unfreezeBalance c => simp only [unlocked, expiredOf, h.account a ha]
    | _ => rfl
  have hwithdrawn : c.withdrawn m a = c.withdrawn l a := by
    cases c with
    | withdrawBalance c => simp only [withdrawn, allowanceOf, h.account a ha]
    | _ => rfl
  rw [Contract.flow, Contract.flow, hunlocked, hwithdrawn, h.sink, h.parameters]

/-- And the same tokens. -/
theorem gain? (h : c.Agree l m) (hc : c.Admissible ctx l) : c.gain? m a = c.gain? l a := by
  cases c with
  | participateAssetIssue c =>
      obtain ⟨-, -, name, -, -, -, -, -, -, -, -, name_eq, -⟩ := hc
      have hasset := h.asset c.asset name rfl name_eq
      rw [← Utf8.repair_eq_of_decode? name_eq] at hasset
      simp only [Contract.gain?, hasset]
  | _ => rfl

/-- **Effects on ledgers that agree leave ledgers that agree.** -/
theorem effect (h : c.Agree l m) (hdone : c.Effect ctx l l') (hdone' : c.Effect ctx m m')
    (hc : c.Admissible ctx l) (hc' : c.Admissible ctx m) (hl : l.KeyedByRecord)
    (hm : m.KeyedByRecord) (hfee : 0 ≤ (ctx.fee .transfer).toInt) : c.Agree l' m' where
  sink := by rw [(Leaves.effect m' hdone').fixed.1, (Leaves.effect l' hdone).fixed.1, h.sink]
  parameters := by
    rw [(Leaves.effect m' hdone').fixed.2, (Leaves.effect l' hdone).fixed.2, h.parameters]
  account a ha := by
    have hsame := h.account a ha
    have hrewrites := hdone.rewrites hl.account hc.not_reopens a
    have hrewrites' := hdone'.rewrites hm.account hc'.not_reopens a
    rw [hsame, h.parameters] at hrewrites'
    refine account?_eq_of_funds (hrewrites.unique hrewrites' fun e hnew => ?_) ?_ ?_
    · exact ⟨hdone.opens hl.account hnew, hdone'.opens hm.account hnew⟩
    · rw [hdone.balanceOf hl.account hfee hc.not_reopens,
        hdone'.balanceOf hm.account hfee hc'.not_reopens, h.flow ha, balanceOf_congr hsame]
    · have hgains := hdone'.gains hc' hm.account a
      rw [h.gain? hc, holdingsOf_congr hsame] at hgains
      exact hgains.unique (hdone.gains hc hl.account a)
  witness a ha := by rw [hdone.witness? hl, hdone'.witness? hm, h.witness a ha]
  asset bs name hbs hname := by
    rw [hdone.asset? hl.account hc.not_reopens, hdone'.asset? hm.account hc'.not_reopens,
      h.asset bs name hbs hname]

/-- **And so do the collections of a fee.** -/
theorem charges (h : c.Agree l m) {payer : Address} {x : Int64} (hdone : l.Charges payer x l')
    (hdone' : m.Charges payer x m') (hl : l.AccountsKeyed) (hm : m.AccountsKeyed) :
    c.Agree l' m' where
  sink := by rw [(hdone'.sameButBalances hm).sink, (hdone.sameButBalances hl).sink, h.sink]
  parameters := by
    rw [(hdone'.sameButBalances hm).parameters, (hdone.sameButBalances hl).parameters, h.parameters]
  account a ha := by
    have hsame := h.account a ha
    refine account?_eq_of_funds ?_ ?_ ?_
    · cases hr : l.account? a with
      | none =>
          rw [hr] at hsame
          exact .inl ⟨(hdone.sameButBalances hl).noAccount a hr,
            (hdone'.sameButBalances hm).noAccount a hsame⟩
      | some r =>
          rw [hr] at hsame
          obtain ⟨b, hb⟩ := (hdone.sameButBalances hl).account a r hr
          obtain ⟨b', hb'⟩ := (hdone'.sameButBalances hm).account a r hsame
          exact .inr ⟨_, _, hb, hb', .intro b' r.holdings⟩
    · rw [hdone.balanceOf hl, hdone'.balanceOf hm, h.sink, balanceOf_congr hsame]
    · rw [hdone.holdingsOf hl, hdone'.holdingsOf hm, holdingsOf_congr hsame]
  witness a ha :=
    (congrArg (·.get? a) hdone'.witnesses).trans
      ((h.witness a ha).trans (congrArg (·.get? a) hdone.witnesses).symm)
  asset bs name hbs hname := by
    rw [(hdone.sameTokens hl).asset?, (hdone'.sameTokens hm).asset?, h.asset bs name hbs hname]

end Contract.Agree

/-! ### What the sink gains -/

/-- A sink that the contract does not name gains the toll. -/
theorem Contract.Effect.balanceOf_sink (h : c.Effect ctx l l') (hc : c.Admissible ctx l)
    (hl : l.AccountsKeyed) (hfee : 0 ≤ (ctx.fee .transfer).toInt)
    (hsink : l.sink.bytes ∉ c.parties) :
    l'.balanceOf l.sink = l.balanceOf l.sink + c.toll ctx l.parameters := by
  rw [h.balanceOf hl hfee hc.not_reopens, flow_of_ne (ne_owner_of_not_mem hsink),
    paid_of_ne (counterparty?_ne_of_not_mem hsink), if_pos rfl, Int.zero_add]

/-- Or the fee alone, if this is all that is collected. -/
theorem Ledger.Charges.balanceOf_sink {payer : Address} {x : Int64} (h : l.Charges payer x l')
    (hl : l.AccountsKeyed) (hne : l.sink ≠ payer) :
    l'.balanceOf l.sink = l.balanceOf l.sink + x.toInt := by
  rw [h.balanceOf hl, if_neg hne, if_pos rfl, Int.sub_zero]

/-- A fee of zero changes nothing. -/
theorem Ledger.Charges.eq_of_zero {payer : Address} {x : Int64} (h : l.Charges payer x l')
    (hx : x = 0) : l' = l := by
  cases h with
  | free zero => rfl
  | taken m _ ne_zero paid received => exact absurd hx ne_zero

end

/-! ### Whatever becomes of a contract -/

/-- The answer that an admissible contract gets: it succeeds, unless it is a freeze whose expiry is
not there. -/
def Contract.verdict (c : Contract) (ctx : Context) : Except Failure Receipt :=
  match c with
  | .freezeBalance f =>
      match f.expiry ctx.now with
      | .error e => .error (.failed ⟨ctx.fee .freezeBalance, .failed⟩ (.arithmetic e))
      | .ok _ => .ok ⟨ctx.fee .freezeBalance, .success⟩
  | c => .ok ⟨c.fee ctx, .success⟩

theorem Contract.verdict_of_fits {c : Contract} {ctx : Context} (h : c.ExpiryFits ctx.now) :
    c.verdict ctx = .ok ⟨c.fee ctx, .success⟩ := by
  cases c with
  | freezeBalance f =>
      obtain ⟨t, ht⟩ := FreezeBalance.exists_expiry_iff.2 (h f rfl)
      simp only [verdict, ht]
      rfl
  | _ => rfl

namespace Engine

variable {c : Contract} {ctx : Context} {l m : Ledger}

/-- **The answer that an admissible contract gets** depends on the contract, the time and the policy
only. -/
theorem verdict_apply (hc : c.Admissible ctx l) (hl : l.Bears c.owner)
    (hcost : 0 ≤ l.parameters.accountUpgradeCost.toInt) (hfees : ∀ k, 0 ≤ (ctx.fee k).toInt) :
    (apply c ctx l).1 = c.verdict ctx := by
  rw [apply_of_admissible hc]
  by_cases hexpiry : c.ExpiryFits ctx.now
  · obtain ⟨l', hdone, -⟩ := hc.exists_solvent_effect hl hcost hfees hexpiry
    rw [run_of_yields (Contract.yields_execute_iff.2 hdone), Contract.verdict_of_fits hexpiry]
  · obtain ⟨f, e, rfl, he⟩ := Contract.exists_expiry_error hexpiry
    have hsolvent := hl.toSolvent
    rw [run_of_fails (c := .freezeBalance f)
      (FreezeBalance.Admissible.fails_of_solvent hc hsolvent (hfees _) he)]
    have hreceipt : (settle l (.freezeBalance f) ctx).1 = ⟨ctx.fee .freezeBalance, .failed⟩ := by
      cases hrule : ctx.policy.failedFee with
      | recordOnly =>
          rw [settle_of_recorded (.inl hrule)]
          rfl
      | charge =>
          obtain ⟨owner, l', howner, hcharged⟩ :=
            FreezeBalance.Admissible.exists_charges_of_solvent hc hsolvent (hfees _)
          rw [settle_of_charges (c := .freezeBalance f) hrule howner hcharged]
          rfl
    simp only [hreceipt, Contract.verdict, he]

/-- Two runs of a contract that come to the same: the same answer, the same records as far as the
contract looks, and the same gain of the sink. -/
structure Alike (c : Contract) (l m : Ledger) (p q : Except Failure Receipt × Ledger) : Prop where
  answer : q.1 = p.1
  agree : c.Agree p.2 q.2
  gain : q.2.balanceOf m.sink - m.balanceOf m.sink = p.2.balanceOf l.sink - l.balanceOf l.sink

/-- On ledgers that agree, runs with the same answer come to the same. -/
theorem Applies.alike {p q : Except Failure Receipt × Ledger} (h : Applies c ctx l p)
    (h' : Applies c ctx m q) (hanswer : q.1 = p.1) (hagree : c.Agree l m) (hl : l.KeyedByRecord)
    (hm : m.KeyedByRecord) (hsink : l.sink.bytes ∉ c.parties)
    (hfees : ∀ k, 0 ≤ (ctx.fee k).toInt) : Alike c l m p q := by
  have hsink' : m.sink.bytes ∉ c.parties := hagree.sink ▸ hsink
  cases h with
  | rejected reason =>
      cases h' with
      | rejected reason' => exact ⟨hanswer, hagree, by simp only [Int.sub_self]⟩
      | _ => cases hanswer
  | succeeded l' admissible done =>
      cases h' with
      | succeeded m' admissible' done' =>
          refine ⟨hanswer,
            hagree.effect done done' admissible admissible' hl hm (hfees .transfer), ?_⟩
          rw [done.balanceOf_sink admissible hl.account (hfees .transfer) hsink,
            done'.balanceOf_sink admissible' hm.account (hfees .transfer) hsink', hagree.parameters]
          omega
      | _ => cases hanswer
  | unpaid receipt fault recorded =>
      cases h' with
      | unpaid receipt' fault' recorded' => exact ⟨hanswer, hagree, by simp only [Int.sub_self]⟩
      | paid a fault' m' rule owner_eq charged =>
          -- What is paid is no more than what is recorded without being paid: nothing.
          cases hanswer
          rw [rule] at recorded
          obtain rfl := charged.eq_of_zero (recorded.resolve_left nofun)
          exact ⟨rfl, hagree, by simp only [Int.sub_self]⟩
      | _ => cases hanswer
  | paid a fault l' rule owner_eq charged =>
      cases h' with
      | unpaid receipt' fault' recorded' =>
          cases hanswer
          rw [rule] at recorded'
          obtain rfl := charged.eq_of_zero (recorded'.resolve_left nofun)
          exact ⟨rfl, hagree, by simp only [Int.sub_self]⟩
      | paid a' fault' m' rule' owner_eq' charged' =>
          obtain rfl := Address.ext (owner_eq'.trans owner_eq.symm)
          have hne : l.sink ≠ a' := fun heq =>
            Contract.ne_owner_of_not_mem hsink (heq ▸ owner_eq)
          have hne' : m.sink ≠ a' := hagree.sink ▸ hne
          refine ⟨hanswer, hagree.charges charged charged' hl.account hm.account, ?_⟩
          rw [charged.balanceOf_sink hl.account hne, charged'.balanceOf_sink hm.account hne']
          omega
      | _ => cases hanswer

/-- **A contract comes to the same on ledgers that agree**, if both bear it and it does not name the
sink. -/
theorem alike_apply (h : c.Agree l m) (hl : l.Bears c.owner) (hm : m.Bears c.owner)
    (hkeyed : l.KeyedByRecord) (hkeyed' : m.KeyedByRecord)
    (hsink : l.sink.bytes ∉ c.parties) (hcost : 0 ≤ l.parameters.accountUpgradeCost.toInt)
    (hfees : ∀ k, 0 ≤ (ctx.fee k).toInt) : Alike c l m (apply c ctx l) (apply c ctx m) := by
  have hanswer : (apply c ctx m).1 = (apply c ctx l).1 := by
    cases hcheck : c.check ctx l with
    | error reason =>
        rw [apply_eq_rejected_iff.2 hcheck, apply_eq_rejected_iff.2 (h.check.trans hcheck)]
    | ok _ =>
        have hc := Contract.check_eq_ok_iff.1 hcheck
        have hc' := Contract.check_eq_ok_iff.1 (h.check.trans hcheck)
        rw [verdict_apply hc hl hcost hfees, verdict_apply hc' hm (h.parameters ▸ hcost) hfees]
  exact (applies_apply c ctx l).alike (applies_apply c ctx m) hanswer h hkeyed hkeyed' hsink hfees

end Engine

end AccountLedger
