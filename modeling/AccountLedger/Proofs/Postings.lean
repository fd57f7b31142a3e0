/-
**Contracts as postings.**

A contract that succeeds can be entered in books as a few postings, each of which adds one amount to
the balance of one account.  The accounts that a contract names may coincide with each other and with
the sink, wherever its check allows it; a balance gets all postings that name it, and no other.

Main definitions:

* `Posting`, `Posting.total` — an entry in the books, and what entries add to one balance;
* `Contract.postings` — the postings of each kind of contract;
* `Contract.Relocks`, `Contract.allowanceLeft` — what becomes of the locks and the allowance of the
  owner;
* `Contract.Booked` — a ledger before and after all this.

Main results:

* `Contract.total_postings` — the postings to a balance are the contributions to it;
* `Contract.Effect.booked` — an effect is what the postings say;
* `Engine.succeeded_as_booked` — **so is every contract that succeeds on a consistent ledger.**
-/

import AccountLedger.Proofs.Stakes
import AccountLedger.Proofs.Withdrawals

set_option relaxedAutoImplicit false
set_option autoImplicit false

namespace AccountLedger

/-! ### Postings -/

/-- An amount that is added to the balance of the account with these raw bytes for its address. -/
structure Posting where
  account : Bytes
  units : Int
  deriving DecidableEq, Repr

/-- What the postings that name `a` add to its balance together. -/
def Posting.total (postings : List Posting) (a : Address) : Int :=
  Amount.total ((postings.filter fun p => a.bytes = p.account).map (·.units))

namespace Posting

variable {p : Posting} {postings : List Posting} {a : Address}

@[simp] theorem total_nil : total [] a = 0 := rfl

@[simp] theorem total_cons :
    total (p :: postings) a = (if a.bytes = p.account then p.units else 0) + total postings a := by
  by_cases ha : a.bytes = p.account
  · simp only [total, List.filter_cons, ha, decide_true, if_true, List.map_cons, Amount.total_cons]
  · simp only [total, List.filter_cons, ha, decide_false, Bool.false_eq_true, if_false, Int.zero_add]

end Posting

/-! ### The postings of a contract -/

namespace Contract

/-- The postings of a contract of `owner` that succeeds on a ledger.  Everyone pays the fee to the sink.
A transfer and a purchase also pay the recipient or the issuer; a freeze, a release and a withdrawal
exchange units with the locks and the allowance of the owner, which are no balances; and who becomes a
witness pays the price of that along with the fee. -/
def postings (c : Contract) (ctx : Context) (l : Ledger) (owner : Address) : List Posting :=
  let fee := (c.fee ctx).toInt
  match c with
  | .transfer t =>
      [⟨t.owner, -(t.amount.toInt + fee)⟩, ⟨t.recipient, t.amount.toInt⟩, ⟨l.sink.bytes, fee⟩]
  | .participateAssetIssue t =>
      [⟨t.owner, -(t.amount.toInt + fee)⟩, ⟨t.issuer, t.amount.toInt⟩, ⟨l.sink.bytes, fee⟩]
  | .freezeBalance f => [⟨f.owner, -(f.amount.toInt + fee)⟩, ⟨l.sink.bytes, fee⟩]
  | .unfreezeBalance u => [⟨u.owner, l.expiredOf ctx.now owner - fee⟩, ⟨l.sink.bytes, fee⟩]
  | .withdrawBalance w => [⟨w.owner, l.allowanceOf owner - fee⟩, ⟨l.sink.bytes, fee⟩]
  | .witnessCreate w =>
      [⟨w.owner, -(l.parameters.accountUpgradeCost.toInt + fee)⟩,
        ⟨l.sink.bytes, l.parameters.accountUpgradeCost.toInt + fee⟩]
  | _ => [⟨c.owner, -fee⟩, ⟨l.sink.bytes, fee⟩]

/-- What becomes of the locks of the owner: a freeze adds its amount to what is locked, and a release
removes exactly the expired locks. -/
def Relocks (c : Contract) (now : Int64) (before after : List Lock) : Prop :=
  match c with
  | .freezeBalance f => Amount.total (after.map (·.amount.toInt))
      = Amount.total (before.map (·.amount.toInt)) + f.amount.toInt
  | .unfreezeBalance _ => after = before.filter fun k => !k.isExpired now
  | _ => after = before

/-- What is left of an allowance of the owner. -/
def allowanceLeft (c : Contract) (allowance : Int) : Int :=
  match c with
  | .withdrawBalance _ => 0
  | _ => allowance

/-- What a contract of `owner` makes of the balances, the locks and the allowances of a ledger. -/
structure Booked (c : Contract) (ctx : Context) (l : Ledger) (owner : Address) (l' : Ledger) :
    Prop where
  account : ∀ a, l.hasAccount a = true → l'.hasAccount a = true
  balance : ∀ a, l'.balanceOf a = l.balanceOf a + Posting.total (c.postings ctx l owner) a
  locks : c.Relocks ctx.now (l.locksOf owner) (l'.locksOf owner)
  allowance : l'.allowanceOf owner = c.allowanceLeft (l.allowanceOf owner)
  others : ∀ a, a ≠ owner → l'.locksOf a = l.locksOf a ∧ l'.allowanceOf a = l.allowanceOf a

section

variable {c : Contract} {ctx : Context} {p : Parameters} {l l' : Ledger} {owner : Address}
  {r e : Account}

/-- An entry to the owner and one to the sink, where nobody else is paid. -/
theorem total_pair (howner : owner.bytes = c.owner) (hpaid : c.paid = 0) {x y : Int}
    (hx : x = c.unlocked ctx.now l owner + c.withdrawn l owner - c.toll ctx l.parameters)
    (hy : y = c.toll ctx l.parameters) (a : Address) :
    Posting.total [⟨c.owner, x⟩, ⟨l.sink.bytes, y⟩] a = c.flow ctx l a := by
  rw [flow_eq howner hpaid, Posting.total_cons, Posting.total_cons, Posting.total_nil, Int.add_zero,
    hx, hy]
  simp only [Address.bytes_eq_iff howner, Address.bytes_eq_iff (rfl : l.sink.bytes = l.sink.bytes)]

/-- An entry each to the owner, to who is paid, and to the sink. -/
theorem total_triple {x : Int} (hx : x = -(c.paid + c.toll ctx l.parameters))
    (hgain : ∀ a, c.unlocked ctx.now l a + c.withdrawn l a = 0) (a : Address) :
    Posting.total [⟨c.owner, x⟩, ⟨c.payee, c.paid⟩, ⟨l.sink.bytes, c.toll ctx l.parameters⟩] a
      = c.flow ctx l a := by
  have hgain := hgain a
  simp only [Posting.total_cons, Posting.total_nil, flow, hx,
    Address.bytes_eq_iff (rfl : l.sink.bytes = l.sink.bytes)]
  split
  · omega
  · omega

/-- **The postings to a balance are the contributions to it**, whichever accounts coincide. -/
theorem total_postings (howner : owner.bytes = c.owner) (a : Address) :
    Posting.total (c.postings ctx l owner) a = c.flow ctx l a := by
  cases c with
  | transfer t =>
      refine (congrArg (Posting.total · a) ?_).trans (total_triple rfl (fun _ => rfl) a)
      simp only [postings, paid, payee, toll, Contract.owner, Int.add_zero]
  | participateAssetIssue t =>
      refine (congrArg (Posting.total · a) ?_).trans (total_triple rfl (fun _ => rfl) a)
      simp only [postings, paid, payee, toll, Contract.owner, Int.add_zero]
  | witnessCreate w =>
      refine total_pair howner rfl ?_ (Int.add_comm _ _) a
      simp only [unlocked, withdrawn, toll]
      omega
  | _ =>
      refine total_pair howner rfl ?_ (Int.add_zero _).symm a
      simp only [unlocked, withdrawn, toll]
      omega

/-! ### Locks and allowance of the owner -/

/-- What an edit makes of the locks. -/
theorem Edits.relocks (h : c.Edits ctx p r e) : c.Relocks ctx.now r.locks e.locks := by
  cases c with
  | freezeBalance f =>
      obtain ⟨-, expiry, -, -, locks, -, -, merged, -, -, rfl⟩ := h
      exact merged.total
  | unfreezeBalance u =>
      obtain rfl := h
      rfl
  | _ => exact Edits.locks_eq h nofun nofun

/-- What an edit makes of the allowance. -/
theorem Edits.allowance (h : c.Edits ctx p r e) :
    e.allowance.toInt = c.allowanceLeft r.allowance.toInt := by
  cases c with
  | withdrawBalance w =>
      obtain rfl := h
      rfl
  | _ => exact congrArg (fun x => x.1.toInt) (Edits.accrued_eq h nofun)

/-- **An effect is what the postings say.** -/
theorem Effect.booked (h : c.Effect ctx l l') (hc : c.Admissible ctx l) (hl : l.AccountsKeyed)
    (hfee : 0 ≤ (ctx.fee .transfer).toInt) (howner : owner.bytes = c.owner) :
    c.Booked ctx l owner l' := by
  have hlocks (r s : Account) (hsame : r.SameButFunds s) : s.locks = r.locks := hsame.locks
  have hallowance (r s : Account) (hsame : r.SameButFunds s) :
      s.allowance.toInt = r.allowance.toInt :=
    congrArg (fun x => x.1.toInt) hsame.accrued_eq
  have hopened (a : Address) (e : Account) (hnew : c.Opens ctx a e) :
      e.locks = [] ∧ e.allowance.toInt = 0 := by
    obtain ⟨name, rfl⟩ := hnew.exists_name
    exact ⟨rfl, rfl⟩
  refine ⟨fun a => h.hasAccount hl hc.not_reopens, fun a => ?_, ?_, ?_, fun a ha => ?_⟩
  · rw [total_postings howner]
    exact h.balanceOf hl hfee hc.not_reopens a
  · refine h.reads_owner (R := c.Relocks ctx.now) hc hl hlocks (fun a e hnew => (hopened a e hnew).1)
      (fun r e => Edits.relocks) ?_ howner
    rintro u rfl
    rfl
  · refine h.reads_owner (R := fun before after => after = c.allowanceLeft before) hc hl hallowance
      (fun a e hnew => (hopened a e hnew).2) (fun r e => Edits.allowance) ?_ howner
    rintro u rfl
    rfl
  · have hne : a.bytes ≠ c.owner := fun heq => ha (Address.ext (heq.trans howner.symm))
    exact ⟨h.reads_other hc hl hlocks (fun a e hnew => (hopened a e hnew).1) hne,
      h.reads_other hc hl hallowance (fun a e hnew => (hopened a e hnew).2) hne⟩

end

end Contract

/-! ### Contracts that succeed -/

namespace Engine

/-- **A contract that succeeds is booked as its postings.**  On a consistent ledger, under any policy
whose transfers do not cost less than nothing, and whichever of the accounts it names coincide: no account
goes, every balance changes by the postings that name it, the locks and the allowance of the owner change
as the contract says, and all other locks and allowances stay as they are. -/
theorem succeeded_as_booked {policy : Policy} (hfee : 0 ≤ policy.fees.transfer) {l l' : Ledger}
    (hl : l.check = .ok ()) {c : Contract} {now : Int64} {receipt : Receipt}
    (happly : apply c ⟨now, policy⟩ l = (.ok receipt, l')) :
    receipt.fee = policy.fees.fee c.kind ∧
      ∃ owner : Address, owner.bytes = c.owner ∧ c.Booked ⟨now, policy⟩ l owner l' := by
  obtain ⟨rfl, admissible, done⟩ := effect_of_apply happly
  obtain ⟨owner, owner_eq, -⟩ := admissible.exists_owner
  have hkeyed := (Ledger.check_eq_ok_iff.1 hl).accountsKeyed
  exact ⟨rfl, owner, owner_eq,
    done.booked admissible hkeyed (Int64.le_iff_toInt_le.1 hfee) owner_eq⟩

/-- A transfer to the sink: it gets amount and fee, and the owner pays both. -/
theorem succeeded_as_booked_small : ∃ (c : Contract) (policy : Policy) (l' : Ledger),
    0 ≤ policy.fees.transfer ∧ Ledger.small.check = .ok () ∧
    apply c ⟨0, policy⟩ Ledger.small = (.ok ⟨7, .success⟩, l') ∧
    l'.balanceOf (.repeating 0) = Ledger.small.balanceOf (.repeating 0) + 47 ∧
    l'.balanceOf (.repeating 1) = Ledger.small.balanceOf (.repeating 1) - 47 ∧
    l'.balanceOf (.repeating 2) = Ledger.small.balanceOf (.repeating 2) := by
  let c : Contract := .transfer ⟨(Address.repeating 1).bytes, (Address.repeating 0).bytes, 40⟩
  let policy : Policy := { fees := { transfer := 7 } }
  obtain ⟨l', happly⟩ : ∃ l', apply c ⟨0, policy⟩ Ledger.small = (.ok ⟨7, .success⟩, l') :=
    exists_ok_of_toOption (by decide +kernel)
  obtain ⟨-, owner, owner_eq, hbooked⟩ := succeeded_as_booked (by decide) Ledger.check_small happly
  obtain rfl : owner = .repeating 1 := Address.ext owner_eq
  have hposted (a : Address) (n : Int)
      (hn : Posting.total (c.postings ⟨0, policy⟩ Ledger.small (.repeating 1)) a = n) :
      l'.balanceOf a = Ledger.small.balanceOf a + n := hn ▸ hbooked.balance a
  exact ⟨c, policy, l', by decide, Ledger.check_small, happly, hposted _ 47 (by decide +kernel),
    hposted _ (-47) (by decide +kernel), (hposted _ 0 (by decide +kernel)).trans (Int.add_zero _)⟩

end Engine

end AccountLedger
