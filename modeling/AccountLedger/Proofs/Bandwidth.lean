/-
**Bandwidth is earned by freezing.**

A freeze that succeeds earns its owner its amount for each of its days, at the rate of the network, and
nothing else touches the bandwidth of an account.  The parameters are not checked, and a rate or a
duration below zero makes the earnings negative; so bandwidth never falls where no duration that a freeze
may have earns less than nothing, and it does fall below zero elsewhere.

Main definitions:

* `Contract.earned` — what a contract earns its owner;
* `Ledger.earning`, `Ledger.earnings` — what a step and a history earn an account;
* `Parameters.Rewarding` — no duration that is allowed costs bandwidth.

Main results:

* `Engine.bandwidthOf_apply` — a step changes bandwidth by what it earns;
* `Ledger.bandwidthOf_after` — so does a history;
* `Ledger.bandwidth_never_falls` — **where freezing is rewarded, bandwidth never falls**;
* `Ledger.bandwidth_falls` — and it does elsewhere.
-/

import AccountLedger.Proofs.Documents
import AccountLedger.Proofs.History
import AccountLedger.Proofs.Records
import AccountLedger.Proofs.Soundness

set_option relaxedAutoImplicit false
set_option autoImplicit false

namespace AccountLedger

/-! ### Earnings -/

/-- The bandwidth that a contract earns its owner: a freeze earns its amount for each of its days, at the
rate of the network. -/
def Contract.earned (c : Contract) (p : Parameters) : Int :=
  match c with
  | .freezeBalance f => f.amount.toInt * f.days.toInt * p.bandwidthPerCoinDay.toInt
  | _ => 0

/-- No duration that a freeze may have costs bandwidth. -/
def Parameters.Rewarding (p : Parameters) : Prop :=
  ∀ days : Int64, p.minFrozenTime ≤ days → days ≤ p.maxFrozenTime →
    0 ≤ days.toInt * p.bandwidthPerCoinDay.toInt

/-- Such are all parameters with neither a rate nor a duration below zero. -/
theorem Parameters.rewarding_of_nonneg {p : Parameters} (hrate : 0 ≤ p.bandwidthPerCoinDay)
    (htime : 0 ≤ p.minFrozenTime) : p.Rewarding := by
  intro days hdays _
  have hdays : 0 ≤ days.toInt := Int64.le_iff_toInt_le.1 (Int64.le_trans htime hdays)
  exact Int.mul_nonneg hdays (Int64.le_iff_toInt_le.1 hrate)

namespace Ledger

/-- The bandwidth under an address, zero where there is no account. -/
def bandwidthOf (l : Ledger) (a : Address) : Int := (l.account? a).elim 0 (·.bandwidth.toInt)

/-- What an entry earns the account under `a`: anything only if it is a contract of `a` that succeeds. -/
def earning (l : Ledger) (policy : Policy) (a : Address) (e : Entry) : Int :=
  if a.bytes = e.contract.owner ∧ (Engine.apply e.contract ⟨e.now, policy⟩ l).1.isOk = true then
    e.contract.earned l.parameters
  else 0

/-- What a history earns the account under `a`. -/
def earnings (policy : Policy) (a : Address) : Ledger → List Entry → Int
  | _, [] => 0
  | l, e :: history =>
      l.earning policy a e + earnings policy a (Engine.apply e.contract ⟨e.now, policy⟩ l).2 history

end Ledger

/-! ### One contract -/

section

variable {c : Contract} {ctx : Context} {p : Parameters} {l l' : Ledger} {r e : Account}

open Ledger

/-- Only a freeze edits the bandwidth, by what it earns. -/
theorem Contract.Edits.bandwidth (h : c.Edits ctx p r e) :
    e.bandwidth.toInt = r.bandwidth.toInt + c.earned p := by
  cases c with
  | freezeBalance f =>
      obtain ⟨-, -, credit, bandwidth, -, -, -, -, earned, exact, rfl⟩ := h
      rw [Contract.earned, ← FreezeBalance.toInt_of_credit earned]
      exact exact
  | _ =>
      have hsame := Contract.Edits.keeps (f := (·.bandwidth.toInt)) h nofun (fun _ _ => rfl)
        (fun _ => rfl) (fun _ _ => rfl) (fun _ _ => rfl) fun _ _ => rfl
      exact hsame.trans (Int.add_zero _).symm

/-- An admissible contract earns its owner no less than nothing where freezing is rewarded. -/
theorem Contract.Admissible.earned_nonneg (h : c.Admissible ctx l) (hp : l.parameters.Rewarding) :
    0 ≤ c.earned l.parameters := by
  cases c with
  | freezeBalance f =>
      obtain ⟨-, -, -, -, -, -, positive, -, -, -, days_ge, days_le, -⟩ := h
      rw [Contract.earned, Int.mul_assoc]
      exact Int.mul_nonneg (Int.le_of_lt positive)
        (hp f.days (Int64.le_iff_toInt_le.2 days_ge) (Int64.le_iff_toInt_le.2 days_le))
  | _ => exact Int.le_refl 0

/-- **What becomes of bandwidth** under the effect of an admissible contract. -/
theorem Contract.Effect.bandwidthOf (h : c.Effect ctx l l') (hc : c.Admissible ctx l)
    (hl : l.AccountsKeyed) (a : Address) : l'.bandwidthOf a
      = l.bandwidthOf a + if a.bytes = c.owner then c.earned l.parameters else 0 := by
  have hfunds (r s : Account) (hsame : r.SameButFunds s) : s.bandwidth.toInt = r.bandwidth.toInt :=
    hsame.keeps (f := (·.bandwidth.toInt)) fun _ _ => rfl
  have hnew (a : Address) (e : Account) (hopened : c.Opens ctx a e) : e.bandwidth.toInt = 0 := by
    obtain ⟨name, rfl⟩ := hopened.exists_name
    rfl
  split
  · next howner =>
      refine h.reads_owner (R := fun before after => after = before + c.earned l.parameters) hc hl
        hfunds hnew (fun r e => Contract.Edits.bandwidth) ?_ howner
      rintro u rfl
      rfl
  · next howner => exact (h.reads_other hc hl hfunds hnew howner).trans (Int.add_zero _).symm

/-- **A step changes bandwidth by what it earns**, whatever becomes of its contract. -/
theorem Engine.bandwidthOf_apply (hl : l.AccountsKeyed) (policy : Policy) (e : Entry) (a : Address) :
    (apply e.contract ⟨e.now, policy⟩ l).2.bandwidthOf a
      = l.bandwidthOf a + l.earning policy a e := by
  rw [earning]
  rcases succeeds_or_not hl e.contract ⟨e.now, policy⟩ with ⟨hok, admissible, done⟩ | ⟨hok, hsame⟩
  · simp only [hok, and_true]
    exact done.bandwidthOf admissible hl a
  · rw [if_neg fun h => Bool.false_ne_true (hok.symm.trans h.2), Int.add_zero]
    exact hsame.sameRecords.elim_account?_eq
      (fun r s hsame => hsame.keeps (f := (·.bandwidth.toInt)) fun _ _ => rfl) a

/-- No step removes an account. -/
theorem Engine.hasAccount_apply (hl : l.AccountsKeyed) {a : Address} (ha : l.hasAccount a = true) :
    (apply c ctx l).2.hasAccount a = true := by
  rcases succeeds_or_not hl c ctx with ⟨-, admissible, done⟩ | ⟨-, hsame⟩
  · exact done.hasAccount hl admissible.not_reopens ha
  · rw [hsame.hasAccount a]
    exact ha

/-- Where freezing is rewarded, a step earns no less than nothing. -/
theorem Ledger.earning_nonneg {policy : Policy} {e : Entry} (hl : l.AccountsKeyed)
    (hp : l.parameters.Rewarding) (a : Address) : 0 ≤ l.earning policy a e := by
  rw [earning]
  split
  · next hsucceeds =>
      rcases Engine.succeeds_or_not hl e.contract ⟨e.now, policy⟩ with
        ⟨-, admissible, -⟩ | ⟨hfailed, -⟩
      · exact admissible.earned_nonneg hp
      · exact absurd (hfailed.symm.trans hsucceeds.2) Bool.false_ne_true
  · exact Int.le_refl 0

end

/-! ### Histories -/

namespace Ledger

variable {l : Ledger} {policy : Policy}

/-- **A history changes bandwidth by what it earns.** -/
theorem bandwidthOf_after (hl : l.AccountsKeyed) (policy : Policy) (a : Address)
    (history : List Entry) :
    (l.after policy history).bandwidthOf a = l.bandwidthOf a + earnings policy a l history := by
  induction history generalizing l with
  | nil => exact (Int.add_zero _).symm
  | cons e history ih =>
      have hstep := Engine.bandwidthOf_apply hl policy e a
      have hkeyed : (Engine.apply e.contract ⟨e.now, policy⟩ l).2.AccountsKeyed :=
        Engine.accountsKeyed_apply hl
      rw [earnings, ← Int.add_assoc, ← hstep]
      exact ih hkeyed

/-- Where freezing is rewarded, no history earns less than nothing. -/
theorem earnings_nonneg (hl : l.AccountsKeyed) (hp : l.parameters.Rewarding) (policy : Policy)
    (a : Address) (history : List Entry) : 0 ≤ earnings policy a l history := by
  induction history generalizing l with
  | nil => exact Int.le_refl 0
  | cons e history ih =>
      refine Int.add_nonneg (earning_nonneg hl hp a) (ih (Engine.accountsKeyed_apply hl) ?_)
      rw [Engine.fixed_apply.2]
      exact hp

/-- **Bandwidth is what was there and what was earned since.**  After every history of checked contracts
on a consistent ledger, under any policy and any parameters, whatever becomes of each contract.  Where no
duration that a freeze may have costs bandwidth, no bandwidth is below zero then, and whatever contract is
carried out next, at whatever time, lowers no bandwidth and removes no account. -/
theorem bandwidth_never_falls (hl : l.check = .ok ()) (policy : Policy) (history : List Entry)
    {m : Ledger} (hm : l.after policy history = m) :
    (∀ a, m.bandwidthOf a = l.bandwidthOf a + earnings policy a l history) ∧
    (l.parameters.Rewarding → ∀ a r, m.account? a = some r →
      0 ≤ r.bandwidth ∧ ∀ e : Entry, ∃ r',
        (Engine.apply e.contract ⟨e.now, policy⟩ m).2.account? a = some r' ∧
        r.bandwidth ≤ r'.bandwidth) := by
  subst hm
  have hconsistent := check_eq_ok_iff.1 hl
  have hkeyed := accountsKeyed_after hconsistent.accountsKeyed policy history
  have hafter (a : Address) := bandwidthOf_after hconsistent.accountsKeyed policy a history
  refine ⟨hafter, fun hp a r hr => ⟨?_, fun e => ?_⟩⟩
  · have hbefore : 0 ≤ l.bandwidthOf a := by
      rw [bandwidthOf]
      cases hr : l.account? a with
      | none => exact Int.le_refl 0
      | some s => exact (hconsistent.accounts a s hr).bandwidth
    have hearned := earnings_nonneg hconsistent.accountsKeyed hp policy a history
    have hexact := hafter a
    rw [bandwidthOf, hr, Option.elim_some] at hexact
    rw [Int64.le_iff_toInt_le, hexact]
    exact Int.add_nonneg hbefore hearned
  · have hkept : (Engine.apply e.contract ⟨e.now, policy⟩ (l.after policy history)).2.hasAccount a
        = true := Engine.hasAccount_apply hkeyed (hasAccount_iff.2 ⟨r, hr⟩)
    obtain ⟨r', hr'⟩ := hasAccount_iff.1 hkept
    have hstep := Engine.bandwidthOf_apply hkeyed policy e a
    have hearned : 0 ≤ (l.after policy history).earning policy a e := by
      refine earning_nonneg hkeyed ?_ a
      rw [parameters_after]
      exact hp
    rw [bandwidthOf, bandwidthOf, hr, hr', Option.elim_some, Option.elim_some] at hstep
    refine ⟨r', hr', Int64.le_iff_toInt_le.2 ?_⟩
    omega

/-- An account that freezes a million units for three days earns three million, which it keeps. -/
theorem bandwidth_never_falls_small : ∃ (f : FreezeBalance) (m : Ledger) (r : Account),
    small.check = .ok () ∧ small.parameters.Rewarding ∧
    small.after {} [⟨0, .freezeBalance f⟩] = m ∧ m.account? (.repeating 1) = some r ∧
    m.bandwidthOf (.repeating 1) = small.bandwidthOf (.repeating 1) + 3000000 ∧ 0 ≤ r.bandwidth ∧
    ∀ e : Entry, ∃ r', (Engine.apply e.contract ⟨e.now, {}⟩ m).2.account? (.repeating 1) = some r' ∧
      r.bandwidth ≤ r'.bandwidth := by
  let f : FreezeBalance := ⟨(Address.repeating 1).bytes, 1000000, 3⟩
  have hrewarding : small.parameters.Rewarding :=
    Parameters.rewarding_of_nonneg (by decide) (by decide)
  have hearned : earnings {} (.repeating 1) small [⟨0, .freezeBalance f⟩] = 3000000 := by
    decide +kernel
  obtain ⟨hexact, hkept⟩ := bandwidth_never_falls check_small {} [⟨0, .freezeBalance f⟩] rfl
  have hsome : ((small.after {} [⟨0, .freezeBalance f⟩]).account? (.repeating 1)).isSome = true := by
    decide +kernel
  obtain ⟨r, hr⟩ := Option.isSome_iff_exists.1 hsome
  exact ⟨f, _, r, check_small, hrewarding, rfl, hr, hearned ▸ hexact (.repeating 1),
    hkept hrewarding (.repeating 1) r hr⟩

/-- The small ledger, at a rate below zero. -/
def draining : Ledger := { small with parameters := { bandwidthPerCoinDay := -1 } }

/-- **A freeze at a negative rate drains bandwidth**: the ledger can be restored from a document, and what
a freeze leaves of it does not pass the check. -/
theorem bandwidth_falls : ∃ (f : FreezeBalance) (l' : Ledger) (r r' : Account),
    Genesis.restore (Genesis.encode draining) = .ok draining ∧
    Engine.apply (.freezeBalance f) ⟨0, {}⟩ draining = (.ok ⟨0, .success⟩, l') ∧
    draining.account? (.repeating 1) = some r ∧ l'.account? (.repeating 1) = some r' ∧
    r'.bandwidth < r.bandwidth ∧
    l'.check = .error (.negative (.repeating 1) .bandwidth (-3000000)) := by
  have hcheck : draining.check = .ok () := rfl
  have hrestore : Genesis.restore (Genesis.encode draining) = .ok draining := by
    rw [Genesis.restore_encode, hcheck]
    rfl
  exact ⟨⟨(Address.repeating 1).bytes, 1000000, 3⟩, _, _, _, hrestore, Prod.ext rfl rfl, rfl, rfl,
    by decide, rfl⟩

end Ledger

end AccountLedger
