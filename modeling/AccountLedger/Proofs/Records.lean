/-
**What a contract makes of single accounts.**

Balances and holdings aside, a contract rewrites one record, that of its owner, or opens one account.
Whatever else an account is made of (its locks, votes, allowance, bandwidth, name) changes in no other
way, so each of these has its own short list of contracts that touch it.

Main definitions:

* `Account.SameButFunds`, `Ledger.SameRecords` — records, and ledgers, that differ in balances and
  holdings at most;
* `Contract.Edits`, `Contract.Opens` — the record that a contract makes of its owner's, and the one
  under which it opens an account;
* `Contract.Rewrites` — what can become of the record under an address.

Main results:

* `Ledger.Charges.sameRecords` — a fee rewrites no record;
* `Contract.Effect.rewrites` — **what becomes of every record**;
* `Contract.Effect.reads_owner`, `Contract.Effect.reads_other` — and of what is read off it;
* `Contract.Edits.locks_eq`, `Contract.Edits.votes_eq` — who touches locks, and who touches votes.
-/

import AccountLedger.Proofs.Conservation

set_option relaxedAutoImplicit false
set_option autoImplicit false

namespace AccountLedger

/-! ### Records that differ in funds -/

/-- Two records that differ in balance and holdings at most. -/
inductive Account.SameButFunds (r : Account) : Account → Prop
  | intro (balance : Int64) (holdings : SortedMap String Int64) :
      SameButFunds r { r with balance := balance, holdings := holdings }

namespace Account.SameButFunds

variable {r s t : Account} {name : String} {n : Int64}

theorem refl (r : Account) : r.SameButFunds r := .intro r.balance r.holdings

theorem trans (h : r.SameButFunds s) (h' : s.SameButFunds t) : r.SameButFunds t := by
  cases h
  cases h' with
  | intro balance holdings => exact .intro balance holdings

/-- What depends on no funds is the same. -/
theorem keeps {α : Type} {f : Account → α} (h : r.SameButFunds s)
    (hf : ∀ balance holdings, f { r with balance := balance, holdings := holdings } = f r) :
    f s = f r := by
  cases h with
  | intro balance holdings => exact hf balance holdings

theorem address (h : r.SameButFunds s) : s.address = r.address := by
  cases h
  rfl

theorem locks (h : r.SameButFunds s) : s.locks = r.locks := by
  cases h
  rfl

theorem votes (h : r.SameButFunds s) : s.votes = r.votes := by
  cases h
  rfl

theorem lockedUnits (h : r.SameButFunds s) : s.lockedUnits = r.lockedUnits := by
  cases h
  rfl

theorem of_credit (h : r.credit name n = .ok s) : r.SameButFunds s := by
  obtain ⟨held, -, rfl⟩ := credit_eq_ok_iff.1 h
  exact .intro r.balance _

theorem of_debit (h : r.debit name n = .ok (some s)) : r.SameButFunds s := by
  obtain ⟨held, rest, -, -, -, -, rfl⟩ := debit_eq_ok_iff.1 h
  exact .intro r.balance _

end Account.SameButFunds

namespace Ledger

/-- Two ledgers with the same accounts, the records of which differ in balance and holdings at most. -/
structure SameRecords (l l' : Ledger) : Prop where
  account : ∀ a r, l.account? a = some r → ∃ r', l'.account? a = some r' ∧ r.SameButFunds r'
  noAccount : ∀ a, l.account? a = none → l'.account? a = none

variable {l l' m : Ledger} {a : Address} {r s : Account} {x : Int64}

namespace SameRecords

theorem refl (l : Ledger) : SameRecords l l where
  account _ r hr := ⟨r, hr, .refl r⟩
  noAccount _ h := h

theorem trans (h : SameRecords l m) (h' : SameRecords m l') : SameRecords l l' where
  account a r hr := by
    obtain ⟨s, hs, hsame⟩ := h.account a r hr
    obtain ⟨r', hr', hsame'⟩ := h'.account a s hs
    exact ⟨r', hr', hsame.trans hsame'⟩
  noAccount a hr := h'.noAccount a (h.noAccount a hr)

/-- Where a record is in the second ledger, there was one in the first. -/
theorem account_before (h : SameRecords l l') (hs : l'.account? a = some s) :
    ∃ r, l.account? a = some r ∧ r.SameButFunds s := by
  cases hr : l.account? a with
  | none =>
      rw [h.noAccount a hr] at hs
      cases hs
  | some r =>
      obtain ⟨s', hs', hsame⟩ := h.account a r hr
      cases hs.symm.trans hs'
      exact ⟨r, rfl, hsame⟩

/-- What depends on no funds is the same under every address. -/
theorem elim_account?_eq {α : Type} {absent : α} (h : SameRecords l l') {f : Account → α}
    (hf : ∀ r s, r.SameButFunds s → f s = f r) (a : Address) :
    (l'.account? a).elim absent f = (l.account? a).elim absent f := by
  cases hr : l.account? a with
  | none => rw [h.noAccount a hr]
  | some r =>
      obtain ⟨r', hr', hsame⟩ := h.account a r hr
      rw [hr', Option.elim_some, Option.elim_some, hf r r' hsame]

end SameRecords

/-- A record is put back with other funds. -/
theorem AccountsKeyed.sameRecords_putAccount (h : l.AccountsKeyed) (hr : l.account? a = some r)
    (hs : r.SameButFunds s) : SameRecords l (l.putAccount s) := by
  have haddress : s.address = a := hs.address.trans (h a r hr)
  refine ⟨fun x t ht => ?_, fun x hx => ?_⟩
  · rw [Ledger.account?_putAccount, haddress]
    split
    · next hxa =>
        rw [hxa, hr] at ht
        cases ht
        exact ⟨s, rfl, hs⟩
    · exact ⟨t, ht, .refl t⟩
  · have hxa : x ≠ a := by
      rintro rfl
      rw [hr] at hx
      cases hx
    rw [Ledger.account?_putAccount, haddress, if_neg hxa, hx]

/-- Where balances alone differ, records differ in funds at most. -/
theorem SameButBalances.sameRecords (h : SameButBalances l l') : SameRecords l l' where
  account a r hr := by
    obtain ⟨balance, hr'⟩ := h.account a r hr
    exact ⟨_, hr', .intro balance r.holdings⟩
  noAccount := h.noAccount

theorem Adjusts.sameRecords {d : Int} (h : l.Adjusts a d l') (hl : l.AccountsKeyed) :
    SameRecords l l' := (h.sameButBalances hl).sameRecords

/-- A fee rewrites no record. -/
theorem Charges.sameRecords (h : l.Charges a x l') (hl : l.AccountsKeyed) : SameRecords l l' :=
  (h.sameButBalances hl).sameRecords

end Ledger

/-! ### The record of the owner -/

/-- The record `e` that the contract makes of its owner's record `r`, funds aside. -/
def Contract.Edits (c : Contract) (ctx : Context) (p : Parameters) (r e : Account) : Prop :=
  match c with
  | .freezeBalance c => ∃ (duration expiry credit bandwidth : Int64) (locks : List Lock),
      Amount.millisOfDays c.days = .ok duration ∧ Amount.add ctx.now duration = .ok expiry ∧
      FreezeBalance.Merges c.amount expiry r.locks locks ∧
      c.credit p.bandwidthPerCoinDay = .ok credit ∧
      bandwidth.toInt = r.bandwidth.toInt + credit.toInt ∧
      e = { r with locks := locks, bandwidth := bandwidth }
  | .unfreezeBalance _ => e = { r with locks := r.locks.filter fun k => !k.isExpired ctx.now }
  | .witnessCreate _ => e = { r with isWitness := true }
  | .accountUpdate c => e = { r with name := c.name }
  | .voteWitness c => ∃ counts, VoteWitness.tally c.votes = .ok counts ∧
      e = { r with votes := counts }
  | .withdrawBalance _ => e = { r with allowance := 0, latestWithdrawal := ctx.now }
  | .transfer _ | .transferAsset _ | .assetIssue _ | .participateAssetIssue _
  | .witnessUpdate _ => e = r

/-- The record `e` under which the contract opens an account at `x`, funds aside. -/
def Contract.Opens (c : Contract) (ctx : Context) (x : Address) (e : Account) : Prop :=
  match c with
  | .transfer c => x.bytes = c.recipient ∧ e = .opened x .normal ctx.now
  | .accountUpdate c => x.bytes = c.owner ∧ ctx.policy.accountUpdate = .rejectExisting ∧
      e = { Account.opened x .normal ctx.now with name := c.name }
  | _ => False

/-- What can become of the record under `x`, if there is one: only the owner's is edited, and only
some contracts open an account where there is none. -/
inductive Contract.Rewrites (c : Contract) (ctx : Context) (p : Parameters) (x : Address) :
    Option Account → Option Account → Prop
  | absent : Rewrites c ctx p x none none
  | opened (e r' : Account) (new : c.Opens ctx x e) (same : e.SameButFunds r') :
      Rewrites c ctx p x none (some r')
  | owner (r e r' : Account) (owner_eq : x.bytes = c.owner) (edit : c.Edits ctx p r e)
      (same : e.SameButFunds r') : Rewrites c ctx p x (some r) (some r')
  | other (r r' : Account) (owner_ne : x.bytes ≠ c.owner) (same : r.SameButFunds r') :
      Rewrites c ctx p x (some r) (some r')

namespace Contract.Edits

variable {c : Contract} {ctx : Context} {p : Parameters} {r e : Account}

/-- An edit keeps whatever does not depend on what its kind of contract sets. -/
theorem keeps {α : Type} {f : Account → α} (h : c.Edits ctx p r e)
    (hfreeze : c.kind = .freezeBalance →
      ∀ locks bandwidth, f { r with locks := locks, bandwidth := bandwidth } = f r)
    (hrelease : c.kind = .unfreezeBalance → ∀ locks, f { r with locks := locks } = f r)
    (hcreate : c.kind = .witnessCreate → f { r with isWitness := true } = f r)
    (hname : c.kind = .accountUpdate → ∀ name, f { r with name := name } = f r)
    (hvote : c.kind = .voteWitness → ∀ votes, f { r with votes := votes } = f r)
    (hwithdraw : c.kind = .withdrawBalance →
      ∀ time, f { r with allowance := 0, latestWithdrawal := time } = f r) : f e = f r := by
  cases c with
  | freezeBalance c =>
      obtain ⟨-, -, -, bandwidth, locks, -, -, -, -, -, rfl⟩ := h
      exact hfreeze rfl locks bandwidth
  | unfreezeBalance c =>
      obtain rfl := h
      exact hrelease rfl _
  | witnessCreate c =>
      obtain rfl := h
      exact hcreate rfl
  | accountUpdate c =>
      obtain rfl := h
      exact hname rfl c.name
  | voteWitness c =>
      obtain ⟨counts, -, rfl⟩ := h
      exact hvote rfl counts
  | withdrawBalance c =>
      obtain rfl := h
      exact hwithdraw rfl ctx.now
  | _ => exact congrArg f h

/-- Only freezing and releasing touch the locks. -/
theorem locks_eq (h : c.Edits ctx p r e) (hfreeze : c.kind ≠ .freezeBalance)
    (hrelease : c.kind ≠ .unfreezeBalance) : e.locks = r.locks :=
  h.keeps (fun hkind => absurd hkind hfreeze) (fun hkind => absurd hkind hrelease) (fun _ => rfl)
    (fun _ _ => rfl) (fun _ _ => rfl) fun _ _ => rfl

/-- Only a vote touches the votes. -/
theorem votes_eq (h : c.Edits ctx p r e) (hvote : c.kind ≠ .voteWitness) : e.votes = r.votes :=
  h.keeps (fun _ _ _ => rfl) (fun _ _ => rfl) (fun _ => rfl) (fun _ _ => rfl)
    (fun hkind => absurd hkind hvote) fun _ _ => rfl

end Contract.Edits

/-- A new account has nothing but its name. -/
theorem Contract.Opens.exists_name {c : Contract} {ctx : Context} {x : Address} {e : Account}
    (h : c.Opens ctx x e) : ∃ name, e = { Account.opened x .normal ctx.now with name := name } := by
  cases c with
  | transfer c => exact ⟨[], h.2⟩
  | accountUpdate c => exact ⟨c.name, h.2.2⟩
  | _ => cases h

/-- A new account has no locks and no votes. -/
theorem Contract.Opens.nothing {c : Contract} {ctx : Context} {x : Address} {e : Account}
    (h : c.Opens ctx x e) : e.locks = [] ∧ e.votes = .empty := by
  obtain ⟨name, rfl⟩ := h.exists_name
  exact ⟨rfl, rfl⟩

/-! ### From the records of an effect -/

section

variable {c : Contract} {ctx : Context} {p : Parameters} {l l' m : Ledger} {owner : Address}
  {s e : Account} {x : Int64}

open Ledger

/-- The record under `a` is there as before but for its funds, if an edit may leave it so. -/
theorem Contract.Rewrites.of_same {a : Address} {before after : Option Account}
    (hsome : ∀ r, before = some r → ∃ r', after = some r' ∧ r.SameButFunds r')
    (hnone : before = none → after = none) (hedit : a.bytes = c.owner → ∀ r, c.Edits ctx p r r) :
    c.Rewrites ctx p a before after := by
  cases hbefore : before with
  | none =>
      rw [hnone hbefore]
      exact .absent
  | some r =>
      obtain ⟨r', rfl, hsame⟩ := hsome r hbefore
      by_cases howner : a.bytes = c.owner
      · exact .owner r r r' howner (hedit howner r) hsame
      · exact .other r r' howner hsame

/-- Nothing but funds changes, and the contract edits nothing. -/
theorem Ledger.SameRecords.rewrites (h : SameRecords l l') (hedit : ∀ r, c.Edits ctx p r r)
    (a : Address) : c.Rewrites ctx p a (l.account? a) (l'.account? a) :=
  .of_same (h.account a) (h.noAccount a) fun _ => hedit

/-- An account is opened, and nothing but funds changes after that. -/
theorem Ledger.SameRecords.rewrites_of_open (after : SameRecords (l.putAccount e) l')
    (habsent : l.account? e.address = none) (hnew : c.Opens ctx e.address e)
    (hedit : ∀ a, a ≠ e.address → a.bytes = c.owner → ∀ r, c.Edits ctx p r r) (a : Address) :
    c.Rewrites ctx p a (l.account? a) (l'.account? a) := by
  by_cases ha : a = e.address
  · obtain ⟨r', hr', hsame⟩ := after.account e.address e (account?_putAccount_self l e)
    rw [ha, habsent, hr']
    exact .opened e r' hnew hsame
  · have hput : (l.putAccount e).account? a = l.account? a := account?_putAccount_of_ne ha
    exact .of_same (fun r hr => after.account a r (hput.trans hr))
      (fun hr => after.noAccount a (hput.trans hr)) (hedit a ha)

/-- The owner's record is edited, and nothing but funds changes before and after. -/
theorem Ledger.SameRecords.rewrites_of_put (before : SameRecords l m)
    (after : SameRecords (m.putAccount e) l') (hm : m.AccountsKeyed)
    (found : m.account? owner = some s) (haddress : e.address = s.address)
    (howner : owner.bytes = c.owner)
    (hedit : ∀ r, r.SameButFunds s → ∃ e', c.Edits ctx p r e' ∧ e'.SameButFunds e) (a : Address) :
    c.Rewrites ctx p a (l.account? a) (l'.account? a) := by
  by_cases ha : a = owner
  · obtain ⟨r, hr, hsame⟩ := before.account_before found
    obtain ⟨r', hr', hsame'⟩ := after.account owner e (hm.account?_putAccount found haddress)
    obtain ⟨e', hedits, hsame''⟩ := hedit r hsame
    rw [ha, hr, hr']
    exact .owner r e' r' howner hedits (hsame''.trans hsame')
  · have hput : (m.putAccount e).account? a = m.account? a :=
      account?_putAccount_of_ne fun hae => ha (hae.trans (haddress.trans (hm owner s found)))
    refine .of_same (fun r hr => ?_) (fun hr => ?_)
      fun hbytes => absurd (Address.ext (hbytes.trans howner.symm)) ha
    · obtain ⟨t, ht, hsame⟩ := before.account a r hr
      obtain ⟨r', hr', hsame'⟩ := after.account a t (hput.trans ht)
      exact ⟨r', hr', hsame.trans hsame'⟩
    · exact after.noAccount a (hput.trans (before.noAccount a hr))

/-- The owner's record is edited as it is found, and a fee is charged. -/
theorem Ledger.Charges.rewrites_of_put (charged : (l.putAccount e).Charges owner x l')
    (hl : l.AccountsKeyed) (found : l.account? owner = some s) (haddress : e.address = s.address)
    (howner : owner.bytes = c.owner)
    (hedit : ∀ r, r.SameButFunds s → ∃ e', c.Edits ctx p r e' ∧ e'.SameButFunds e) (a : Address) :
    c.Rewrites ctx p a (l.account? a) (l'.account? a) :=
  (SameRecords.refl l).rewrites_of_put (charged.sameRecords (hl.putAccount e)) hl found haddress
    howner hedit a

end

/-! ### The effect of each kind -/

section

variable {ctx : Context} {p : Parameters} {l l' : Ledger}

open Ledger

theorem Transfer.Effect.rewrites {c : Transfer} (h : c.Effect ctx l l') (hl : l.AccountsKeyed)
    (a : Address) :
    (Contract.transfer c).Rewrites ctx p a (l.account? a) (l'.account? a) := by
  obtain ⟨owner, recipient, total, m, n, -, recipient_eq, -, paid, received, collected⟩ := h
  have hopening : (l.opening recipient ctx.now).AccountsKeyed := hl.opening
  have hm := paid.adjusts.accountsKeyed hopening
  have hmoved : SameRecords (l.opening recipient ctx.now) n :=
    (paid.adjusts.sameRecords hopening).trans (received.sameRecords hm)
  have hafter : SameRecords (l.opening recipient ctx.now) l' := by
    split at collected
    · exact hmoved.trans (collected.sameRecords (received.accountsKeyed hm))
    · rw [collected]
      exact hmoved
  unfold opening at hafter
  split at hafter
  · next habsent =>
      exact hafter.rewrites_of_open (c := .transfer c) (Option.isNone_iff_eq_none.1 habsent)
        ⟨recipient_eq, rfl⟩ (fun _ _ _ _ => rfl) a
  · exact hafter.rewrites (c := .transfer c) (fun _ => rfl) a

theorem AccountUpdate.Effect.rewrites {c : AccountUpdate} (h : c.Effect ctx l l')
    (hl : l.AccountsKeyed)
    (hopen : ctx.policy.accountUpdate = .rejectExisting → ∀ a, a.bytes = c.owner →
      l.account? a = none) (a : Address) :
    (Contract.accountUpdate c).Rewrites ctx p a (l.account? a) (l'.account? a) := by
  cases h with
  | renamed owner account rule owner_eq found charged =>
      refine charged.rewrites_of_put (c := .accountUpdate c) hl found rfl owner_eq ?_ a
      rintro r ⟨balance, holdings⟩
      exact ⟨_, rfl, .intro balance holdings⟩
  | opened owner rule owner_eq charged =>
      refine (charged.sameRecords (hl.putAccount _)).rewrites_of_open (c := .accountUpdate c)
        (hopen rule owner owner_eq) ⟨owner_eq, rule, rfl⟩ ?_ a
      -- No other address than the new one is the owner's.
      intro b hb hbytes
      exact absurd (Address.ext (hbytes.trans owner_eq.symm)) hb

theorem AssetIssue.Effect.sameRecords {c : AssetIssue} (h : c.Effect ctx l l')
    (hl : l.AccountsKeyed) : SameRecords l l' := by
  obtain ⟨owner, m, account, credited, -, charged, found, given, rfl⟩ := h
  have hasset : (l.putAsset (c.asset owner)).AccountsKeyed := hl.putAsset _
  have hcharged : SameRecords l m := ⟨(charged.sameRecords hasset).account,
    (charged.sameRecords hasset).noAccount⟩
  exact hcharged.trans
    ((charged.accountsKeyed hasset).sameRecords_putAccount found (.of_credit given))

theorem TransferAsset.Effect.sameRecords {c : TransferAsset} (h : c.Effect ctx l l')
    (hl : l.AccountsKeyed) : SameRecords l l' := by
  obtain ⟨owner, recipient, account, debited, receiver, credited, -, -, found, taken, receiving,
    given, charged⟩ := h
  have hput := hl.putAccount debited
  have hmoved := (hl.sameRecords_putAccount found (.of_debit taken)).trans
    (hput.sameRecords_putAccount receiving (.of_credit given))
  exact hmoved.trans (charged.sameRecords (hput.putAccount credited))

theorem ParticipateAssetIssue.Effect.sameRecords {c : ParticipateAssetIssue}
    (h : c.Effect ctx l l') (hl : l.AccountsKeyed) : SameRecords l l' := by
  obtain ⟨owner, issuer, asset, tokens, m, n, buyer, bought, seller, sold, -, -, -, -, paid, buying,
    given, received, selling, taken, charged⟩ := h
  have hm := paid.adjusts.accountsKeyed hl
  have hput := hm.putAccount bought
  have hn := received.accountsKeyed hput
  have hbought := (paid.adjusts.sameRecords hl).trans
    (hm.sameRecords_putAccount buying (.of_credit given))
  have hsold := (received.sameRecords hput).trans
    (hn.sameRecords_putAccount selling (.of_debit taken))
  exact (hbought.trans hsold).trans (charged.sameRecords (hn.putAccount sold))

theorem FreezeBalance.Effect.rewrites {c : FreezeBalance} (h : c.Effect ctx l l')
    (hl : l.AccountsKeyed) (a : Address) :
    (Contract.freezeBalance c).Rewrites ctx l.parameters a (l.account? a) (l'.account? a) := by
  obtain ⟨owner, m, account, duration, expiry, credit, bandwidth, locks, owner_eq, paid, found,
    duration_eq, expiry_eq, merged, earned, bandwidth_eq, charged⟩ := h
  have hm := paid.adjusts.accountsKeyed hl
  refine (paid.adjusts.sameRecords hl).rewrites_of_put (c := .freezeBalance c)
    (charged.sameRecords (hm.putAccount _)) hm found rfl owner_eq ?_ a
  rintro r ⟨balance, holdings⟩
  exact ⟨_, ⟨duration, expiry, credit, bandwidth, locks, duration_eq, expiry_eq, merged, earned,
    bandwidth_eq, rfl⟩, .intro balance holdings⟩

theorem UnfreezeBalance.Effect.rewrites {c : UnfreezeBalance} (h : c.Effect ctx l l')
    (hl : l.AccountsKeyed) (a : Address) :
    (Contract.unfreezeBalance c).Rewrites ctx p a (l.account? a) (l'.account? a) := by
  obtain ⟨owner, account, released, balance, owner_eq, found, -, -, charged⟩ := h
  refine charged.rewrites_of_put (c := .unfreezeBalance c) hl found rfl owner_eq ?_ a
  rintro r ⟨-, holdings⟩
  exact ⟨_, rfl, .intro balance holdings⟩

theorem WitnessCreate.Effect.rewrites {c : WitnessCreate} (h : c.Effect ctx l l')
    (hl : l.AccountsKeyed) (a : Address) :
    (Contract.witnessCreate c).Rewrites ctx p a (l.account? a) (l'.account? a) := by
  obtain ⟨owner, account, total, owner_eq, found, -, charged⟩ := h
  have hput := hl.putWitness ⟨owner, Utf8.repair c.url, 0⟩
  refine charged.rewrites_of_put (c := .witnessCreate c) hput found rfl owner_eq ?_ a
  rintro r ⟨balance, holdings⟩
  exact ⟨_, rfl, .intro balance holdings⟩

theorem WitnessUpdate.Effect.sameRecords {c : WitnessUpdate} (h : c.Effect ctx l l')
    (hl : l.AccountsKeyed) : SameRecords l l' := by
  obtain ⟨owner, witness, -, -, charged⟩ := h
  have hcharged := charged.sameRecords (hl.putWitness _)
  exact ⟨hcharged.account, hcharged.noAccount⟩

theorem VoteWitness.Effect.rewrites {c : VoteWitness} (h : c.Effect ctx l l')
    (hl : l.AccountsKeyed) (a : Address) :
    (Contract.voteWitness c).Rewrites ctx p a (l.account? a) (l'.account? a) := by
  obtain ⟨owner, counts, account, owner_eq, tallied, found, charged⟩ := h
  refine charged.rewrites_of_put (c := .voteWitness c) hl found rfl owner_eq ?_ a
  rintro r ⟨balance, holdings⟩
  exact ⟨_, ⟨counts, tallied, rfl⟩, .intro balance holdings⟩

theorem WithdrawBalance.Effect.rewrites {c : WithdrawBalance} (h : c.Effect ctx l l')
    (hl : l.AccountsKeyed) (a : Address) :
    (Contract.withdrawBalance c).Rewrites ctx p a (l.account? a) (l'.account? a) := by
  obtain ⟨owner, account, balance, owner_eq, found, -, charged⟩ := h
  refine charged.rewrites_of_put (c := .withdrawBalance c) hl found rfl owner_eq ?_ a
  rintro r ⟨-, holdings⟩
  exact ⟨_, rfl, .intro balance holdings⟩

end

/-! ### Any contract -/

section

variable {c : Contract} {ctx : Context} {l l' : Ledger}

/-- **What becomes of every record** under the effect of a contract. -/
theorem Contract.Effect.rewrites (h : c.Effect ctx l l') (hl : l.AccountsKeyed)
    (hopen : ¬ c.Reopens ctx l) (a : Address) :
    c.Rewrites ctx l.parameters a (l.account? a) (l'.account? a) := by
  cases c with
  | transfer c => exact Transfer.Effect.rewrites h hl a
  | transferAsset c =>
      exact (TransferAsset.Effect.sameRecords h hl).rewrites (c := .transferAsset c)
        (fun _ => rfl) a
  | assetIssue c =>
      exact (AssetIssue.Effect.sameRecords h hl).rewrites (c := .assetIssue c) (fun _ => rfl) a
  | participateAssetIssue c =>
      exact (ParticipateAssetIssue.Effect.sameRecords h hl).rewrites
        (c := .participateAssetIssue c) (fun _ => rfl) a
  | freezeBalance c => exact FreezeBalance.Effect.rewrites h hl a
  | unfreezeBalance c => exact UnfreezeBalance.Effect.rewrites h hl a
  | witnessCreate c => exact WitnessCreate.Effect.rewrites h hl a
  | witnessUpdate c =>
      exact (WitnessUpdate.Effect.sameRecords h hl).rewrites (c := .witnessUpdate c)
        (fun _ => rfl) a
  | accountUpdate c => exact AccountUpdate.Effect.rewrites h hl (absent_of_not_reopens hopen) a
  | voteWitness c => exact VoteWitness.Effect.rewrites h hl a
  | withdrawBalance c => exact WithdrawBalance.Effect.rewrites h hl a

/-- No effect removes an account. -/
theorem Contract.Effect.hasAccount (h : c.Effect ctx l l') (hl : l.AccountsKeyed)
    (hopen : ¬ c.Reopens ctx l) {a : Address} (ha : l.hasAccount a = true) :
    l'.hasAccount a = true := by
  obtain ⟨r, hr⟩ := Ledger.hasAccount_iff.1 ha
  have hrewrites := h.rewrites hl hopen a
  rw [hr] at hrewrites
  generalize hr' : l'.account? a = after at hrewrites
  cases hrewrites with
  | owner r e r' owner_eq edit same => exact Ledger.hasAccount_iff.2 ⟨r', hr'⟩
  | other r r' owner_ne same => exact Ledger.hasAccount_iff.2 ⟨r', hr'⟩

/-- The owner of an admissible contract has an account, unless it is opened by the contract. -/
theorem Contract.Admissible.exists_owner (h : c.Admissible ctx l) : ∃ owner : Address,
    owner.bytes = c.owner ∧ ((∃ r, l.account? owner = some r) ∨ ∃ u, c = .accountUpdate u) := by
  cases c with
  | transfer c =>
      obtain ⟨owner, -, account, -, owner_eq, -, -, found, -⟩ := h
      exact ⟨owner, owner_eq, .inl ⟨account, found⟩⟩
  | transferAsset c =>
      obtain ⟨owner, -, -, account, -, owner_eq, -, -, -, -, -, found, -⟩ := h
      exact ⟨owner, owner_eq, .inl ⟨account, found⟩⟩
  | assetIssue c =>
      obtain ⟨owner, -, account, owner_eq, -, -, -, -, -, -, found, -⟩ := h
      exact ⟨owner, owner_eq, .inl ⟨account, found⟩⟩
  | participateAssetIssue c =>
      obtain ⟨owner, -, -, account, -, -, -, -, owner_eq, -, -, -, -, -, found, -⟩ := h
      exact ⟨owner, owner_eq, .inl ⟨account, found⟩⟩
  | freezeBalance c =>
      obtain ⟨owner, account, -, -, owner_eq, found, -⟩ := h
      exact ⟨owner, owner_eq, .inl ⟨account, found⟩⟩
  | unfreezeBalance c =>
      obtain ⟨owner, account, -, -, owner_eq, found, -⟩ := h
      exact ⟨owner, owner_eq, .inl ⟨account, found⟩⟩
  | witnessCreate c =>
      obtain ⟨owner, -, account, -, owner_eq, -, -, found, -⟩ := h
      exact ⟨owner, owner_eq, .inl ⟨account, found⟩⟩
  | witnessUpdate c =>
      obtain ⟨owner, -, account, owner_eq, found, -⟩ := h
      exact ⟨owner, owner_eq, .inl ⟨account, found⟩⟩
  | accountUpdate c =>
      cases h with
      | renamed owner _ _ _ owner_eq _ _ => exact ⟨owner, owner_eq, .inr ⟨c, rfl⟩⟩
      | opened owner _ _ owner_eq _ _ => exact ⟨owner, owner_eq, .inr ⟨c, rfl⟩⟩
  | voteWitness c =>
      obtain ⟨owner, -, account, -, -, -, owner_eq, -, -, -, found, -⟩ := h
      exact ⟨owner, owner_eq, .inl ⟨account, found⟩⟩
  | withdrawBalance c =>
      obtain ⟨owner, account, -, -, -, owner_eq, found, -⟩ := h
      exact ⟨owner, owner_eq, .inl ⟨account, found⟩⟩

/-- What is read off the owner's record, where it depends on no funds and new accounts have nothing of it,
changes as the edits of the contract change it. -/
theorem Contract.Effect.reads_owner {α : Type} {absent : α} {f : Account → α} {R : α → α → Prop}
    (h : c.Effect ctx l l') (hc : c.Admissible ctx l) (hl : l.AccountsKeyed)
    (hfunds : ∀ r s, r.SameButFunds s → f s = f r) (hnew : ∀ a e, c.Opens ctx a e → f e = absent)
    (hedit : ∀ r e, c.Edits ctx l.parameters r e → R (f r) (f e))
    (hnone : ∀ u, c = .accountUpdate u → R absent absent) {a : Address} (howner : a.bytes = c.owner) :
    R ((l.account? a).elim absent f) ((l'.account? a).elim absent f) := by
  have hrewrites := h.rewrites hl hc.not_reopens a
  obtain ⟨owner, owner_eq, hfound⟩ := hc.exists_owner
  obtain rfl := Address.ext (owner_eq.trans howner.symm)
  have habsent (hr : l.account? owner = none) : R absent absent := by
    rcases hfound with ⟨r, hr'⟩ | ⟨u, hu⟩
    · rw [hr] at hr'
      cases hr'
    · exact hnone u hu
  generalize hr : l.account? owner = before, l'.account? owner = after at hrewrites ⊢
  cases hrewrites with
  | absent => exact habsent hr
  | opened e r' new same =>
      rw [Option.elim_some, hfunds e r' same, hnew owner e new]
      exact habsent hr
  | owner r e r' _ edit same =>
      rw [Option.elim_some, Option.elim_some, hfunds e r' same]
      exact hedit r e edit
  | other r r' owner_ne same => exact absurd howner owner_ne

/-- And of all other records it stays. -/
theorem Contract.Effect.reads_other {α : Type} {absent : α} {f : Account → α}
    (h : c.Effect ctx l l') (hc : c.Admissible ctx l) (hl : l.AccountsKeyed)
    (hfunds : ∀ r s, r.SameButFunds s → f s = f r) (hnew : ∀ a e, c.Opens ctx a e → f e = absent)
    {a : Address} (hne : a.bytes ≠ c.owner) :
    (l'.account? a).elim absent f = (l.account? a).elim absent f := by
  have hrewrites := h.rewrites hl hc.not_reopens a
  generalize l.account? a = before, l'.account? a = after at hrewrites ⊢
  cases hrewrites with
  | absent => rfl
  | opened e r' new same => exact (hfunds e r' same).trans (hnew a e new)
  | owner r e r' owner_eq edit same => exact absurd owner_eq hne
  | other r r' owner_ne same => exact hfunds r r' same

end

end AccountLedger
