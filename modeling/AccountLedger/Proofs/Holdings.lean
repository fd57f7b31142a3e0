/-
**Tokens in and out of an account.**

Main results:

* `Account.credit_eq_ok_iff`, `Account.debit_eq_ok_iff` — what a credit and a debit of tokens leave,
  with the new holding as an exact integer;
* `Account.exists_credit`, `Account.exists_debit` — when there is one.
-/

import AccountLedger.Account
import AccountLedger.Proofs.Amount

set_option relaxedAutoImplicit false
set_option autoImplicit false

namespace AccountLedger

namespace Account

variable {r s : Account} {name : String} {n : Int64}

theorem credit_eq_ok_iff : r.credit name n = .ok s ↔
    ∃ held : Int64, held.toInt = (r.holding name).toInt + n.toInt ∧
      s = { r with holdings := r.holdings.insert name held } := by
  unfold credit
  constructor
  · intro h
    cases hadd : Amount.add (r.holding name) n with
    | error e => rw [hadd] at h; cases h
    | ok held =>
        rw [hadd] at h
        cases h
        exact ⟨held, Amount.add_eq_ok_iff.1 hadd, rfl⟩
  · rintro ⟨held, hheld, rfl⟩
    rw [Amount.add_eq_ok_iff.2 hheld]
    rfl

/-- Tokens can be taken only from a listed holding, and only a positive amount that it covers. -/
theorem debit_eq_ok_iff : r.debit name n = .ok (some s) ↔
    ∃ held rest : Int64, r.holdings.get? name = some held ∧ 0 < n.toInt ∧
      n.toInt ≤ held.toInt ∧ rest.toInt = held.toInt - n.toInt ∧
      s = { r with holdings := r.holdings.insert name rest } := by
  unfold debit
  cases hheld : r.holdings.get? name with
  | none =>
      constructor
      · intro h; cases h
      · rintro ⟨_, _, h, -⟩; cases h
  | some held =>
      simp only [Int64.le_iff_toInt_le, Int64.lt_iff_toInt_lt, Amount.toInt_zero]
      constructor
      · intro h
        split at h
        · cases h
        · cases hsub : Amount.sub held n with
          | error e => rw [hsub] at h; cases h
          | ok rest =>
              rw [hsub] at h
              cases h
              exact ⟨held, rest, rfl, by omega, by omega, Amount.sub_eq_ok_iff.1 hsub, rfl⟩
      · rintro ⟨_, rest, ⟨⟩, hpositive, hle, hrest, rfl⟩
        rw [if_neg (by omega), Amount.sub_eq_ok_iff.2 hrest]
        rfl

/-- Tokens can be credited if the new holding fits. -/
theorem exists_credit (h : Amount.Fits ((r.holding name).toInt + n.toInt)) :
    ∃ s, r.credit name n = .ok s := by
  obtain ⟨held, hheld⟩ := Amount.exists_toInt_eq_iff.2 h
  exact ⟨_, credit_eq_ok_iff.2 ⟨held, hheld, rfl⟩⟩

/-- A positive amount that is held can be taken. -/
theorem exists_debit (hpositive : 0 < n.toInt) (hle : n.toInt ≤ (r.holding name).toInt) :
    ∃ s, r.debit name n = .ok (some s) := by
  have hlisted : r.holdings.get? name = some (r.holding name) := by
    rw [holding] at hle ⊢
    cases hget : r.holdings.get? name with
    | none =>
        rw [hget, Option.getD_none, Amount.toInt_zero] at hle
        omega
    | some held => rfl
  have hfits := Amount.fits_toInt (r.holding name)
  obtain ⟨rest, hrest⟩ := Amount.exists_toInt_eq_iff.2
    (⟨by omega, by have := hfits.2; omega⟩ : Amount.Fits ((r.holding name).toInt - n.toInt))
  exact ⟨_, debit_eq_ok_iff.2 ⟨r.holding name, rest, hlisted, hpositive, hle, hrest, rfl⟩⟩

end Account

end AccountLedger
