/-
**The examinations are exact.**

A ledger is examined record by record, and the first violation ends the examination.  Whether one is
found can be said without any of this: a ledger passes iff each of its records is in order, what it
refers to is there, and the exact sum of all native units fits.  The sum is formed step by step, with an
overflow at any step a violation.  By then no amount is negative, so no sum on the way is larger than the
last, and the steps may come in any order.

Main results:

* `Ledger.foldlM_addNative_perm` — **a running total over the accounts in any order** is the exact total;
* `Ledger.totalNative_eq_none_iff` — and overflows only where that does;
* `Ledger.check_exact` — **the examinations are exact.**
-/

import AccountLedger.Proofs.Consistency

set_option relaxedAutoImplicit false
set_option autoImplicit false

namespace AccountLedger

namespace Ledger

/-! ### Running totals in any order -/

section

variable {l : Ledger} (h : ∀ a r, l.account? a = some r → r.Nonneg)

include h

theorem nonneg_of_mem_perm {rs : List Account} (hrs : rs.Perm l.accounts.values) :
    ∀ r ∈ rs, r.Nonneg := by
  intro r hr
  obtain ⟨a, ha⟩ := SortedMap.mem_values_iff.1 (hrs.mem_iff.1 hr)
  exact h a r ha

/-- **A running total over the accounts in any order is the exact total**, and stops only where that is
too large. -/
theorem foldlM_addNative_perm {rs : List Account} (hrs : rs.Perm l.accounts.values) :
    (∀ n, rs.foldlM addNative 0 = .ok n ↔ n.toInt = l.nativeUnits) ∧
      ((∃ e, rs.foldlM addNative 0 = .error e) ↔ 9223372036854775807 < l.nativeUnits) := by
  have hnonneg := nonneg_of_mem_perm h hrs
  have htotal : Amount.total (rs.map (·.nativeUnits)) = l.nativeUnits :=
    Amount.total_perm (hrs.map _)
  have hends := exists_foldlM_addNative_iff hnonneg
  rw [htotal] at hends
  refine ⟨fun n => (foldlM_addNative_eq_ok_iff hnonneg).trans (by rw [htotal]), ?_⟩
  cases hfold : rs.foldlM addNative 0 with
  | ok n =>
      have hfits := hends.1 ⟨n, hfold⟩
      exact ⟨nofun, fun hlarge => by omega⟩
  | error e =>
      have hlarge : ¬ l.nativeUnits < 9223372036854775808 := fun hfits => by
        obtain ⟨n, hn⟩ := hends.2 hfits
        rw [hfold] at hn
        cases hn
      exact ⟨fun _ => by omega, fun _ => ⟨e, rfl⟩⟩

/-- The checked total is missing only where the exact total is too large. -/
theorem totalNative_eq_none_iff : l.totalNative = none ↔ 9223372036854775807 < l.nativeUnits := by
  rw [← (foldlM_addNative_perm h (.refl _)).2, totalNative]
  cases l.accounts.values.foldlM addNative 0 with
  | ok n => exact ⟨nofun, nofun⟩
  | error e => exact ⟨fun _ => ⟨e, rfl⟩, fun _ => rfl⟩

end

/-! ### Exactness -/

/-- **The examinations are exact.**  They pass iff the sink has an account, every record is stored under
its own address or name, no balance, allowance, bandwidth or holding is negative, no account has a second
lock or one without a positive amount, what is held and voted for is registered, votes have positive
counts, assets have positive terms and an issuer with an account, witnesses have accounts, and the exact
sum of all balances, locks and allowances fits.  And where no native units are negative, the running
total overflows iff that sum does, in whatever order it takes the accounts. -/
theorem check_exact (l : Ledger) :
    (l.check = .ok () ↔
      l.hasAccount l.sink = true ∧
      (∀ a r, l.account? a = some r → r.address = a) ∧
      (∀ name s, l.asset? name = some s → s.name = name) ∧
      (∀ a w, l.witness? a = some w → w.address = a) ∧
      (∀ a r, l.account? a = some r →
        0 ≤ r.balance.toInt ∧ 0 ≤ r.allowance.toInt ∧ 0 ≤ r.bandwidth.toInt ∧
        r.locks.length ≤ 1 ∧ (∀ k ∈ r.locks, 0 < k.amount.toInt) ∧
        (∀ name n, r.holdings.get? name = some n → 0 ≤ n.toInt ∧ l.hasAsset name = true) ∧
        ∀ b n, r.votes.get? b = some n → l.hasWitness b = true ∧ 0 < n.toInt) ∧
      (∀ name s, l.asset? name = some s →
        0 < s.totalSupply.toInt ∧ 0 < s.priceUnits.toInt ∧ 0 < s.priceTokens.toInt ∧
        l.hasAccount s.issuer = true) ∧
      (∀ a w, l.witness? a = some w → l.hasAccount a = true) ∧
      Amount.total (l.accounts.values.map fun r =>
        r.balance.toInt + Amount.total (r.locks.map (·.amount.toInt)) + r.allowance.toInt)
          ≤ 9223372036854775807) ∧
    ((∀ a r, l.account? a = some r → r.Nonneg) →
      (l.totalNative = none ↔ 9223372036854775807 < l.nativeUnits) ∧
      ∀ rs : List Account, rs.Perm l.accounts.values →
        (∀ n, rs.foldlM addNative 0 = .ok n ↔ n.toInt = l.nativeUnits) ∧
        ((∃ e, rs.foldlM addNative 0 = .error e) ↔ 9223372036854775807 < l.nativeUnits)) := by
  refine ⟨⟨fun hcheck => ?_, ?_⟩, fun h => ⟨totalNative_eq_none_iff h, fun rs hrs =>
    foldlM_addNative_perm h hrs⟩⟩
  · have h := check_eq_ok_iff.1 hcheck
    refine ⟨h.sink, h.keyed.account, h.keyed.asset, h.keyed.witness, fun a r hr => ?_,
      fun name s hs => ?_, h.witnesses, Int.le_of_lt_add_one h.supply⟩
    · have hr := h.accounts a r hr
      exact ⟨hr.balance, hr.allowance, hr.bandwidth, hr.oneLock, hr.locks, hr.holdings, hr.votes⟩
    · have hs := h.assets name s hs
      exact ⟨hs.totalSupply, hs.priceUnits, hs.priceTokens, hs.issuer⟩
  · rintro ⟨hsink, hkeys, hnames, hwitnessKeys, haccounts, hassets, hwitnesses, hsupply⟩
    refine check_eq_ok_iff.2 ⟨⟨hsink, ⟨hkeys, hnames, hwitnessKeys⟩, fun a r hr => ?_,
      fun name s hs => ?_, hwitnesses⟩, Int.lt_add_one_of_le hsupply⟩
    · obtain ⟨hbalance, hallowance, hbandwidth, hone, hlocks, hholdings, hvotes⟩ := haccounts a r hr
      exact ⟨hbalance, hallowance, hbandwidth, hone, hlocks, hholdings, hvotes⟩
    · obtain ⟨hsupply, hunits, htokens, hissuer⟩ := hassets name s hs
      exact ⟨hsupply, hunits, htokens, hissuer⟩

/-- The small ledger, with as many units as fit in one more account. -/
def overfull : Ledger :=
  small.putAccount { Account.opened (.repeating 3) .normal 0 with balance := Int64.maxValue }

/-- All of its records are in order, but the sum of its units is not, from either end. -/
theorem check_exact_small : (∀ a r, overfull.account? a = some r → r.Nonneg) ∧
    overfull.nativeUnits = 9223372036864776307 ∧ overfull.totalNative = none ∧
    (∃ e, overfull.accounts.values.reverse.foldlM addNative 0 = .error e) ∧
    overfull.check ≠ .ok () ∧ small.check = .ok () ∧ small.nativeUnits ≤ 9223372036854775807 := by
  have hamounts : ∀ r ∈ overfull.accounts.values,
      0 ≤ r.balance.toInt ∧ (∀ k ∈ r.locks, 0 ≤ k.amount.toInt) ∧ 0 ≤ r.allowance.toInt := by
    decide +kernel
  have hnonneg (a : Address) (r : Account) (hr : overfull.account? a = some r) : r.Nonneg := by
    obtain ⟨hbalance, hlocks, hallowance⟩ := hamounts r (SortedMap.mem_values_iff.2 ⟨a, hr⟩)
    exact ⟨hbalance, hlocks, hallowance⟩
  have hunits : overfull.nativeUnits = 9223372036864776307 := by decide +kernel
  have hlarge : 9223372036854775807 < overfull.nativeUnits := by omega
  obtain ⟨hpasses, hruns⟩ := check_exact overfull
  obtain ⟨hmissing, horders⟩ := hruns hnonneg
  have hfails : overfull.check ≠ .ok () := by
    intro hcheck
    obtain ⟨-, -, -, -, -, -, -, hsum⟩ := hpasses.1 hcheck
    exact absurd hlarge (Int.not_lt.2 hsum)
  obtain ⟨-, -, -, -, -, -, -, hfits⟩ := (check_exact small).1.1 check_small
  exact ⟨hnonneg, hunits, hmissing.2 hlarge, (horders _ (List.reverse_perm _)).2.2 hlarge, hfails,
    check_small, hfits⟩

end Ledger

end AccountLedger
