/-
**Where native units go.**

What the effect of a contract does to every balance is a sum of few contributions: the owner pays, its
locks or its allowance pay into its balance, another account is paid, and the sink takes a toll.
Owner, payee and sink may be the same account, which then gets the contributions of each.

Main definitions:

* `Ledger.balanceOf`, `Ledger.lockedOf` — what is in the balance and in the locks under an address;
* `Contract.paid`, `Contract.payee`, `Contract.toll` — what goes to another account and to the sink;
* `Contract.unlocked`, `Contract.withdrawn` — what comes from the owner's locks and its allowance;
* `Contract.flow` — the contributions to one balance together.

Main results:

* `Contract.Effect.balanceOf` — **what becomes of every balance**;
* `Contract.Effect.lockedOf` — and of every lock.
-/

import AccountLedger.Proofs.Records

set_option relaxedAutoImplicit false
set_option autoImplicit false

namespace AccountLedger

/-! ### Balances of a ledger -/

namespace Ledger

/-- The balance under an address, zero where there is no account. -/
def balanceOf (l : Ledger) (a : Address) : Int := (l.account? a).elim 0 (·.balance.toInt)

/-- What is locked under an address, zero where there is no account. -/
def lockedOf (l : Ledger) (a : Address) : Int := (l.account? a).elim 0 (·.lockedUnits)

/-- What is in the expired locks under an address, zero where there is no account. -/
def expiredOf (l : Ledger) (now : Int64) (a : Address) : Int :=
  (l.account? a).elim 0 fun r =>
    Amount.total ((r.locks.filter (·.isExpired now)).map (·.amount.toInt))

/-- The allowance under an address, zero where there is no account. -/
def allowanceOf (l : Ledger) (a : Address) : Int := (l.account? a).elim 0 (·.allowance.toInt)

variable {l l' : Ledger} {a owner : Address} {r s : Account} {x : Int64}

theorem balanceOf_putAccount (l : Ledger) (s : Account) (b : Address) :
    (l.putAccount s).balanceOf b = if b = s.address then s.balance.toInt else l.balanceOf b := by
  rw [balanceOf, account?_putAccount]
  split
  · rfl
  · rfl

/-- A record put back over the one found at an address changes its balance only. -/
theorem AccountsKeyed.balanceOf_putAccount (h : l.AccountsKeyed) (hr : l.account? a = some r)
    (hs : s.address = r.address) (b : Address) :
    (l.putAccount s).balanceOf b
      = l.balanceOf b + if b = a then s.balance.toInt - r.balance.toInt else 0 := by
  rw [Ledger.balanceOf_putAccount, hs, h a r hr]
  split
  · next hb =>
      rw [hb, balanceOf, hr, Option.elim_some]
      omega
  · rw [Int.add_zero]

/-- Tokens are no part of a balance. -/
theorem AccountsKeyed.balanceOf_putAccount_credit (h : l.AccountsKeyed) {name : String} {n : Int64}
    (hr : l.account? a = some r) (hgiven : r.credit name n = .ok s) (b : Address) :
    (l.putAccount s).balanceOf b = l.balanceOf b := by
  obtain ⟨haddress, hbalance, -⟩ := Account.frame_of_credit hgiven
  rw [h.balanceOf_putAccount hr haddress, hbalance, Int.sub_self, ite_self, Int.add_zero]

theorem AccountsKeyed.balanceOf_putAccount_debit (h : l.AccountsKeyed) {name : String} {n : Int64}
    (hr : l.account? a = some r) (htaken : r.debit name n = .ok (some s)) (b : Address) :
    (l.putAccount s).balanceOf b = l.balanceOf b := by
  obtain ⟨haddress, hbalance, -⟩ := Account.frame_of_debit htaken
  rw [h.balanceOf_putAccount hr haddress, hbalance, Int.sub_self, ite_self, Int.add_zero]

/-- A new account has an empty balance. -/
theorem balanceOf_putAccount_new (habsent : l.account? s.address = none)
    (hs : s.balance.toInt = 0) (b : Address) : (l.putAccount s).balanceOf b = l.balanceOf b := by
  rw [balanceOf_putAccount]
  split
  · next hb => rw [hb, hs, balanceOf, habsent, Option.elim_none]
  · rfl

theorem balanceOf_opening (l : Ledger) (a : Address) (now : Int64) (b : Address) :
    (l.opening a now).balanceOf b = l.balanceOf b := by
  unfold opening
  split
  · next habsent => exact balanceOf_putAccount_new (Option.isNone_iff_eq_none.1 habsent) rfl b
  · rfl

@[simp] theorem sink_opening (l : Ledger) (a : Address) (now : Int64) :
    (l.opening a now).sink = l.sink := by
  unfold opening
  split
  · rfl
  · rfl

theorem Adjusts.balanceOf {d : Int} (h : l.Adjusts a d l') (hl : l.AccountsKeyed) (b : Address) :
    l'.balanceOf b = l.balanceOf b + if b = a then d else 0 := by
  cases h with
  | intro r balance found exact nonneg =>
      have haddress : ({ r with balance := balance } : Account).address = r.address := rfl
      rw [hl.balanceOf_putAccount found haddress b, exact]
      split
      · omega
      · rfl

/-- A fee goes from its payer to the sink. -/
theorem Charges.balanceOf (h : l.Charges a x l') (hl : l.AccountsKeyed) (b : Address) :
    l'.balanceOf b = l.balanceOf b - (if b = a then x.toInt else 0)
      + if b = l.sink then x.toInt else 0 := by
  cases h with
  | free zero =>
      simp only [zero, Amount.toInt_zero, ite_self]
      omega
  | taken m _ ne_zero paid received =>
      have hreceived := received.balanceOf (paid.adjusts.accountsKeyed hl) b
      have hpaid := paid.adjusts.balanceOf hl b
      rw [(paid.adjusts.sameButBalances hl).sink] at hreceived
      rw [hreceived, hpaid]
      split
      · omega
      · omega

/-- The record that is put back for the payer of a fee is found with that much less in its balance, if
the payer is not the sink. -/
theorem Charges.account?_of_put (h : (l.putAccount s).Charges a x l') (hl : l.AccountsKeyed)
    (hr : l.account? a = some r) (hs : s.address = r.address) :
    ∃ b : Int64, l'.account? a = some { s with balance := b } ∧
      b.toInt = s.balance.toInt - x.toInt + if a = l.sink then x.toInt else 0 := by
  have hput : (l.putAccount s).account? a = some s := hl.account?_putAccount hr hs
  obtain ⟨b, hb⟩ := (h.sameButBalances (hl.putAccount s)).account a s hput
  have hbalance := h.balanceOf (hl.putAccount s) a
  rw [if_pos rfl, Ledger.balanceOf, Ledger.balanceOf, hb, hput] at hbalance
  exact ⟨b, hb, hbalance⟩

end Ledger

/-! ### Contributions -/

namespace Contract

/-- What the contract pays to another account. -/
def paid : Contract → Int
  | .transfer c => c.amount.toInt
  | .participateAssetIssue c => c.amount.toInt
  | _ => 0

/-- The raw bytes of the address that is paid; there are none where nobody is. -/
def payee : Contract → Bytes
  | .transfer c => c.recipient
  | .participateAssetIssue c => c.issuer
  | _ => []

/-- What the contract pays into the sink: its fee, and the price of becoming a witness. -/
def toll (c : Contract) (ctx : Context) (p : Parameters) : Int :=
  (c.fee ctx).toInt +
    match c with
    | .witnessCreate _ => p.accountUpgradeCost.toInt
    | _ => 0

/-- What the contract moves from the locks under `a`, its owner, into the balance; a freeze moves its
amount the other way. -/
def unlocked (c : Contract) (now : Int64) (l : Ledger) (a : Address) : Int :=
  match c with
  | .freezeBalance c => -c.amount.toInt
  | .unfreezeBalance _ => l.expiredOf now a
  | _ => 0

/-- What the contract moves from the allowance under `a`, its owner, into the balance. -/
def withdrawn (c : Contract) (l : Ledger) (a : Address) : Int :=
  match c with
  | .withdrawBalance _ => l.allowanceOf a
  | _ => 0

/-- What the contract adds to the balance under `a`: as that of its owner, of its payee, and of the
sink. -/
def flow (c : Contract) (ctx : Context) (l : Ledger) (a : Address) : Int :=
  (if a.bytes = c.owner then
    c.unlocked ctx.now l a + c.withdrawn l a - c.paid - c.toll ctx l.parameters
  else 0)
    + (if a.bytes = c.payee then c.paid else 0)
    + if a = l.sink then c.toll ctx l.parameters else 0

end Contract

theorem Address.bytes_eq_iff {a b : Address} {bs : Bytes} (h : b.bytes = bs) :
    a.bytes = bs ↔ a = b :=
  ⟨fun ha => Address.ext (ha.trans h.symm), fun ha => ha ▸ h⟩

section

variable {c : Contract} {ctx : Context} {l l' m : Ledger} {owner : Address} {r s : Account}
  {x : Int64}

open Ledger

/-- The contributions where nobody is paid. -/
theorem Contract.flow_eq (howner : owner.bytes = c.owner) (hpaid : c.paid = 0) (a : Address) :
    c.flow ctx l a
      = (if a = owner then
          c.unlocked ctx.now l owner + c.withdrawn l owner - c.toll ctx l.parameters
        else 0)
        + if a = l.sink then c.toll ctx l.parameters else 0 := by
  simp only [flow, Address.bytes_eq_iff howner, hpaid, ite_self, Int.add_zero, Int.sub_zero]
  split
  · next ha => rw [ha]
  · rfl

/-- Balances are what they were, and the toll goes from the owner, who gains nothing, to the sink. -/
theorem Ledger.Charges.balanceOf_eq_flow (charged : m.Charges owner x l') (hm : m.AccountsKeyed)
    (hbalances : ∀ a, m.balanceOf a = l.balanceOf a) (hsink : m.sink = l.sink)
    (howner : owner.bytes = c.owner) (hpaid : c.paid = 0)
    (hgain : c.unlocked ctx.now l owner + c.withdrawn l owner = 0)
    (htoll : x.toInt = c.toll ctx l.parameters) (a : Address) :
    l'.balanceOf a = l.balanceOf a + c.flow ctx l a := by
  rw [charged.balanceOf hm, hbalances, hsink, Contract.flow_eq howner hpaid, hgain, htoll]
  split
  · omega
  · omega

/-- The owner's record is put back with what it gains, and the toll is charged. -/
theorem Ledger.Charges.balanceOf_eq_flow_of_put (charged : (l.putAccount s).Charges owner x l')
    (hl : l.AccountsKeyed) (found : l.account? owner = some r) (haddress : s.address = r.address)
    (howner : owner.bytes = c.owner) (hpaid : c.paid = 0)
    (hgain : s.balance.toInt
      = r.balance.toInt + (c.unlocked ctx.now l owner + c.withdrawn l owner))
    (htoll : x.toInt = c.toll ctx l.parameters) (a : Address) :
    l'.balanceOf a = l.balanceOf a + c.flow ctx l a := by
  rw [charged.balanceOf (hl.putAccount s), hl.balanceOf_putAccount found haddress,
    Contract.flow_eq howner hpaid, hgain, htoll, show (l.putAccount s).sink = l.sink from rfl]
  split
  · omega
  · omega

end

/-! ### The effect of each kind -/

section

variable {ctx : Context} {l l' : Ledger}

open Ledger

theorem Transfer.Effect.balanceOf {c : Transfer} (h : c.Effect ctx l l') (hl : l.AccountsKeyed)
    (hfee : 0 ≤ (ctx.fee .transfer).toInt) (a : Address) :
    l'.balanceOf a = l.balanceOf a + (Contract.transfer c).flow ctx l a := by
  obtain ⟨owner, recipient, total, m, n, owner_eq, recipient_eq, total_eq, paid, received,
    collected⟩ := h
  have hopening : (l.opening recipient ctx.now).AccountsKeyed := hl.opening
  have hm := paid.adjusts.accountsKeyed hopening
  have hsink : n.sink = l.sink := by
    rw [(received.sameButBalances hm).sink, (paid.adjusts.sameButBalances hopening).sink,
      sink_opening]
  have hcollected : l'.balanceOf a
      = n.balanceOf a + if a = l.sink then (ctx.fee .transfer).toInt else 0 := by
    split at collected
    · rw [collected.balanceOf (received.accountsKeyed hm), hsink]
    · next hzero =>
        -- A fee that is not positive is zero.
        rw [Int64.lt_iff_toInt_lt, Amount.toInt_zero] at hzero
        have hnothing : (ctx.fee .transfer).toInt = 0 := by omega
        rw [collected, hnothing, ite_self, Int.add_zero]
  have hflow : (Contract.transfer c).flow ctx l a = (if a = owner then -total.toInt else 0)
      + (if a = recipient then c.amount.toInt else 0)
      + if a = l.sink then (ctx.fee .transfer).toInt else 0 := by
    simp only [Contract.flow, Contract.owner, Contract.payee, Contract.paid, Contract.toll,
      Contract.unlocked, Contract.withdrawn, Contract.fee, Contract.kind, Int.add_zero,
      Address.bytes_eq_iff owner_eq, Address.bytes_eq_iff recipient_eq]
    split
    · omega
    · omega
  rw [hcollected, received.balanceOf hm, paid.adjusts.balanceOf hopening, balanceOf_opening, hflow]
  omega

theorem AccountUpdate.Effect.balanceOf {c : AccountUpdate} (h : c.Effect ctx l l')
    (hl : l.AccountsKeyed)
    (hopen : ctx.policy.accountUpdate = .rejectExisting → ∀ a, a.bytes = c.owner →
      l.account? a = none) (a : Address) :
    l'.balanceOf a = l.balanceOf a + (Contract.accountUpdate c).flow ctx l a := by
  cases h with
  | renamed owner account rule owner_eq found charged =>
      exact charged.balanceOf_eq_flow_of_put (c := .accountUpdate c) hl found rfl owner_eq rfl
        (Int.add_zero _).symm (Int.add_zero _).symm a
  | opened owner rule owner_eq charged =>
      have hnew := balanceOf_putAccount_new (l := l)
        (s := { Account.opened owner .normal ctx.now with name := c.name })
        (hopen rule owner owner_eq) rfl
      exact charged.balanceOf_eq_flow (c := .accountUpdate c) (hl.putAccount _) hnew rfl owner_eq rfl
        rfl (Int.add_zero _).symm a

theorem AssetIssue.Effect.balanceOf {c : AssetIssue} (h : c.Effect ctx l l')
    (hl : l.AccountsKeyed) (a : Address) :
    l'.balanceOf a = l.balanceOf a + (Contract.assetIssue c).flow ctx l a := by
  obtain ⟨owner, m, account, credited, owner_eq, charged, found, given, rfl⟩ := h
  have hasset : (l.putAsset (c.asset owner)).AccountsKeyed := hl.putAsset _
  have hcredited : (m.putAccount credited).balanceOf a = m.balanceOf a :=
    (charged.accountsKeyed hasset).balanceOf_putAccount_credit found given a
  rw [hcredited]
  exact charged.balanceOf_eq_flow (c := .assetIssue c) hasset (fun _ => rfl) rfl owner_eq rfl rfl
    (Int.add_zero _).symm a

theorem TransferAsset.Effect.balanceOf {c : TransferAsset} (h : c.Effect ctx l l')
    (hl : l.AccountsKeyed) (a : Address) :
    l'.balanceOf a = l.balanceOf a + (Contract.transferAsset c).flow ctx l a := by
  obtain ⟨owner, recipient, account, debited, receiver, credited, owner_eq, -, found, taken,
    receiving, given, charged⟩ := h
  have hput := hl.putAccount debited
  have hmoved (b : Address) :
      ((l.putAccount debited).putAccount credited).balanceOf b = l.balanceOf b := by
    rw [hput.balanceOf_putAccount_credit receiving given, hl.balanceOf_putAccount_debit found taken]
  exact charged.balanceOf_eq_flow (c := .transferAsset c) (hput.putAccount credited) hmoved rfl
    owner_eq rfl rfl (Int.add_zero _).symm a

theorem ParticipateAssetIssue.Effect.balanceOf {c : ParticipateAssetIssue}
    (h : c.Effect ctx l l') (hl : l.AccountsKeyed) (a : Address) :
    l'.balanceOf a = l.balanceOf a + (Contract.participateAssetIssue c).flow ctx l a := by
  obtain ⟨owner, issuer, asset, tokens, m, n, buyer, bought, seller, sold, owner_eq, issuer_eq, -, -,
    paid, buying, given, received, selling, taken, charged⟩ := h
  have hm := paid.adjusts.accountsKeyed hl
  have hput := hm.putAccount bought
  have hn := received.accountsKeyed hput
  have hsink : n.sink = l.sink := by
    rw [(received.sameButBalances hput).sink]
    exact (paid.adjusts.sameButBalances hl).sink
  have hcharged := charged.balanceOf (hn.putAccount sold) a
  rw [show (n.putAccount sold).sink = n.sink from rfl, hsink,
    hn.balanceOf_putAccount_debit selling taken, received.balanceOf hput,
    hm.balanceOf_putAccount_credit buying given, paid.adjusts.balanceOf hl] at hcharged
  simp only [Contract.flow, Contract.owner, Contract.payee, Contract.paid, Contract.toll,
    Contract.unlocked, Contract.withdrawn, Contract.fee, Contract.kind, Int.add_zero,
    Address.bytes_eq_iff owner_eq, Address.bytes_eq_iff issuer_eq]
  rw [hcharged]
  split
  · omega
  · omega

theorem FreezeBalance.Effect.balanceOf {c : FreezeBalance} (h : c.Effect ctx l l')
    (hl : l.AccountsKeyed) (a : Address) :
    l'.balanceOf a = l.balanceOf a + (Contract.freezeBalance c).flow ctx l a := by
  obtain ⟨owner, m, account, duration, expiry, credit, bandwidth, locks, owner_eq, paid, found, -, -,
    -, -, -, charged⟩ := h
  have hm := paid.adjusts.accountsKeyed hl
  have hlocked (b : Address) : (m.putAccount
      { account with locks := locks, bandwidth := bandwidth }).balanceOf b = m.balanceOf b := by
    have haddress : ({ account with locks := locks, bandwidth := bandwidth } : Account).address
      = account.address := rfl
    rw [hm.balanceOf_putAccount found haddress, Int.sub_self, ite_self, Int.add_zero]
  have hcharged := charged.balanceOf (hm.putAccount _) a
  rw [hlocked, paid.adjusts.balanceOf hl] at hcharged
  have hsink : m.sink = l.sink := (paid.adjusts.sameButBalances hl).sink
  simp only [Contract.flow, Contract.owner, Contract.payee, Contract.paid, Contract.toll,
    Contract.unlocked, Contract.withdrawn, Contract.fee, Contract.kind, Int.add_zero,
    Address.bytes_eq_iff owner_eq, ← hsink]
  rw [hcharged, show (m.putAccount { account with locks := locks, bandwidth := bandwidth }).sink
    = m.sink from rfl]
  split
  · omega
  · omega

theorem UnfreezeBalance.Effect.balanceOf {c : UnfreezeBalance} (h : c.Effect ctx l l')
    (hl : l.AccountsKeyed) (a : Address) :
    l'.balanceOf a = l.balanceOf a + (Contract.unfreezeBalance c).flow ctx l a := by
  obtain ⟨owner, account, released, balance, owner_eq, found, released_eq, balance_eq, charged⟩ := h
  have hreleased : released.toInt = l.expiredOf ctx.now owner := by
    rw [Amount.toInt_of_sum released_eq, List.map_map, expiredOf, found, Option.elim_some]
    rfl
  refine charged.balanceOf_eq_flow_of_put (c := .unfreezeBalance c) hl found rfl owner_eq rfl ?_
    (Int.add_zero _).symm a
  show balance.toInt = account.balance.toInt + (l.expiredOf ctx.now owner + 0)
  omega

theorem WitnessCreate.Effect.balanceOf {c : WitnessCreate} (h : c.Effect ctx l l')
    (hl : l.AccountsKeyed) (a : Address) :
    l'.balanceOf a = l.balanceOf a + (Contract.witnessCreate c).flow ctx l a := by
  obtain ⟨owner, account, total, owner_eq, found, total_eq, charged⟩ := h
  have htoll : total.toInt = (Contract.witnessCreate c).toll ctx l.parameters :=
    total_eq.trans (Int.add_comm _ _)
  have hput := hl.putWitness ⟨owner, Utf8.repair c.url, 0⟩
  exact charged.balanceOf_eq_flow_of_put (c := .witnessCreate c) hput found rfl owner_eq rfl
    (Int.add_zero _).symm htoll a

theorem WitnessUpdate.Effect.balanceOf {c : WitnessUpdate} (h : c.Effect ctx l l')
    (hl : l.AccountsKeyed) (a : Address) :
    l'.balanceOf a = l.balanceOf a + (Contract.witnessUpdate c).flow ctx l a := by
  obtain ⟨owner, witness, owner_eq, -, charged⟩ := h
  exact charged.balanceOf_eq_flow (c := .witnessUpdate c) (hl.putWitness _) (fun _ => rfl) rfl
    owner_eq rfl rfl (Int.add_zero _).symm a

theorem VoteWitness.Effect.balanceOf {c : VoteWitness} (h : c.Effect ctx l l')
    (hl : l.AccountsKeyed) (a : Address) :
    l'.balanceOf a = l.balanceOf a + (Contract.voteWitness c).flow ctx l a := by
  obtain ⟨owner, counts, account, owner_eq, -, found, charged⟩ := h
  exact charged.balanceOf_eq_flow_of_put (c := .voteWitness c) hl found rfl owner_eq rfl
    (Int.add_zero _).symm (Int.add_zero _).symm a

theorem WithdrawBalance.Effect.balanceOf {c : WithdrawBalance} (h : c.Effect ctx l l')
    (hl : l.AccountsKeyed) (a : Address) :
    l'.balanceOf a = l.balanceOf a + (Contract.withdrawBalance c).flow ctx l a := by
  obtain ⟨owner, account, balance, owner_eq, found, balance_eq, charged⟩ := h
  have hallowance : l.allowanceOf owner = account.allowance.toInt := by
    rw [allowanceOf, found, Option.elim_some]
  refine charged.balanceOf_eq_flow_of_put (c := .withdrawBalance c) hl found rfl owner_eq rfl ?_
    (Int.add_zero _).symm a
  show balance.toInt = account.balance.toInt + (0 + l.allowanceOf owner)
  omega

end

/-! ### Any contract -/

section

variable {c : Contract} {ctx : Context} {p : Parameters} {l l' : Ledger} {r e : Account}

/-- **What becomes of every balance** under the effect of a contract. -/
theorem Contract.Effect.balanceOf (h : c.Effect ctx l l') (hl : l.AccountsKeyed)
    (hfee : 0 ≤ (ctx.fee .transfer).toInt) (hopen : ¬ c.Reopens ctx l) (a : Address) :
    l'.balanceOf a = l.balanceOf a + c.flow ctx l a := by
  cases c with
  | transfer c => exact Transfer.Effect.balanceOf h hl hfee a
  | transferAsset c => exact TransferAsset.Effect.balanceOf h hl a
  | assetIssue c => exact AssetIssue.Effect.balanceOf h hl a
  | participateAssetIssue c => exact ParticipateAssetIssue.Effect.balanceOf h hl a
  | freezeBalance c => exact FreezeBalance.Effect.balanceOf h hl a
  | unfreezeBalance c => exact UnfreezeBalance.Effect.balanceOf h hl a
  | witnessCreate c => exact WitnessCreate.Effect.balanceOf h hl a
  | witnessUpdate c => exact WitnessUpdate.Effect.balanceOf h hl a
  | accountUpdate c => exact AccountUpdate.Effect.balanceOf h hl (absent_of_not_reopens hopen) a
  | voteWitness c => exact VoteWitness.Effect.balanceOf h hl a
  | withdrawBalance c => exact WithdrawBalance.Effect.balanceOf h hl a

/-- What an edit takes out of the locks. -/
theorem Contract.Edits.lockedUnits (h : c.Edits ctx p r e) {a : Address}
    (hr : l.account? a = some r) :
    e.lockedUnits = r.lockedUnits - c.unlocked ctx.now l a := by
  cases c with
  | freezeBalance c =>
      obtain ⟨-, expiry, -, -, locks, -, -, merged, -, -, rfl⟩ := h
      have htotal := merged.total
      simp only [Account.lockedUnits, unlocked]
      omega
  | unfreezeBalance c =>
      obtain rfl := h
      have hsplit := Amount.total_filter (·.amount.toInt) (·.isExpired ctx.now) r.locks
      simp only [Account.lockedUnits, unlocked, Ledger.expiredOf, hr, Option.elim_some]
      omega
  | voteWitness c =>
      obtain ⟨counts, -, rfl⟩ := h
      exact (Int.sub_zero _).symm
  | _ =>
      obtain rfl := h
      exact (Int.sub_zero _).symm

/-- An admissible contract unlocks nothing where there is no account. -/
theorem Contract.Admissible.unlocked_of_absent (h : c.Admissible ctx l) {a : Address}
    (howner : a.bytes = c.owner) (habsent : l.account? a = none) : c.unlocked ctx.now l a = 0 := by
  cases c with
  | freezeBalance c =>
      obtain ⟨owner, account, -, -, owner_eq, found, -⟩ := h
      obtain rfl := Address.ext (owner_eq.trans howner.symm)
      rw [habsent] at found
      cases found
  | unfreezeBalance c =>
      show l.expiredOf ctx.now a = 0
      rw [Ledger.expiredOf, habsent, Option.elim_none]
  | _ => rfl

/-- **What becomes of the locks** under the effect of an admissible contract: only those of its owner
change, by what goes into the balance. -/
theorem Contract.Effect.lockedOf (h : c.Effect ctx l l') (hc : c.Admissible ctx l)
    (hl : l.AccountsKeyed) (a : Address) :
    l'.lockedOf a = l.lockedOf a - if a.bytes = c.owner then c.unlocked ctx.now l a else 0 := by
  have hrewrites := h.rewrites hl hc.not_reopens a
  rw [Ledger.lockedOf, Ledger.lockedOf]
  generalize hr : l.account? a = before, l'.account? a = after at hrewrites ⊢
  have hnothing (hr : l.account? a = none) :
      (if a.bytes = c.owner then c.unlocked ctx.now l a else 0) = 0 := by
    split
    · next howner => exact hc.unlocked_of_absent howner hr
    · rfl
  cases hrewrites with
  | absent =>
      rw [hnothing hr]
      rfl
  | opened e r' new same =>
      rw [hnothing hr, Option.elim_some, same.lockedUnits, Account.lockedUnits, new.nothing.1]
      rfl
  | owner r e r' owner_eq edit same =>
      rw [if_pos owner_eq, Option.elim_some, Option.elim_some, same.lockedUnits, edit.lockedUnits hr]
  | other r r' owner_ne same =>
      rw [if_neg owner_ne, Option.elim_some, Option.elim_some, same.lockedUnits, Int.sub_zero]

end

end AccountLedger
