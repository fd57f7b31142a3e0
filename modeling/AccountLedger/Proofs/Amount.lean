/-
**The exact values of amounts.**

Checked operations accept a result exactly if it denotes the exact value.  This module says which
exact values are denoted by amounts, when the opposite of an amount is exact although it is formed
without a check, that a checked sum is the exact sum, and which quotients there are.

Main definitions:

* `Amount.Fits` — an exact value that some amount denotes.

Main results:

* `Amount.exists_toInt_eq_iff` — the amounts denote exactly the values that fit;
* `Amount.toInt_neg_of_ne` — **only the least amount has no exact opposite**;
* `Amount.toInt_of_sum` — a checked sum is exact;
* `Amount.exists_sum_iff` — without negative terms, a checked sum fails iff the exact sum is too
  large;
* `Amount.floorDiv_eq_ok_iff`, `Amount.floorDiv_eq_error_iff` — **quotients are rounded down, and all
  but two divisions have one.**
-/

import AccountLedger.Amount

set_option relaxedAutoImplicit false
set_option autoImplicit false

namespace AccountLedger

namespace Amount

/-! ### Values that fit -/

/-- The exact value `x` is denoted by an amount. -/
def Fits (x : Int) : Prop := -9223372036854775808 ≤ x ∧ x < 9223372036854775808

instance (x : Int) : Decidable (Fits x) := inferInstanceAs (Decidable (_ ∧ _))

theorem fits_toInt (a : Int64) : Fits a.toInt := ⟨Int64.le_toInt a, Int64.toInt_lt a⟩

/-- The amounts denote exactly the values that fit. -/
theorem exists_toInt_eq_iff {x : Int} : (∃ a : Int64, a.toInt = x) ↔ Fits x := by
  constructor
  · rintro ⟨a, rfl⟩
    exact fits_toInt a
  · intro h
    exact ⟨Int64.ofInt x, Int64.toInt_ofInt_of_le h.1 h.2⟩

@[simp] theorem toInt_zero : (0 : Int64).toInt = 0 := rfl

/-! ### Opposites -/

/-- The least value has no opposite: formed without a check, it is itself. -/
theorem toInt_neg_least {a : Int64} (h : a.toInt = -9223372036854775808) :
    (-a).toInt = -9223372036854775808 := by
  rw [Int64.toInt_neg, h]
  decide

/-- **Only the least amount has no exact opposite.** -/
theorem toInt_neg_of_ne {a : Int64} (h : a.toInt ≠ -9223372036854775808) :
    (-a).toInt = -a.toInt := by
  have hlow := Int64.le_toInt a
  have hhigh := Int64.toInt_lt a
  rw [Int64.toInt_neg, Int.bmod_def]
  split <;> omega

/-! ### Sums -/

/-- A running total that adds the weight of one item at each step ends at the exact sum. -/
theorem toInt_of_foldlM {α ε : Type} {f : Int64 → α → Except ε Int64} {w : α → Int}
    (hf : ∀ t a n, f t a = .ok n → n.toInt = t.toInt + w a) {items : List α} {start s : Int64}
    (h : items.foldlM f start = .ok s) : s.toInt = start.toInt + total (items.map w) := by
  induction items generalizing start with
  | nil => cases h; simp
  | cons a items ih =>
      rw [List.foldlM_cons] at h
      cases hadd : f start a with
      | error e => rw [hadd] at h; cases h
      | ok next =>
          rw [hadd] at h
          rw [ih h, hf start a next hadd, List.map_cons, total_cons, Int.add_assoc]

theorem toInt_of_add (a b c : Int64) (h : add a b = .ok c) : c.toInt = a.toInt + b.toInt :=
  add_eq_ok_iff.1 h

/-- A checked sum is exact. -/
theorem toInt_of_sum {amounts : List Int64} {s : Int64} (h : sum amounts = .ok s) :
    s.toInt = total (amounts.map (·.toInt)) := by
  rw [toInt_of_foldlM toInt_of_add h, toInt_zero, Int.zero_add]

/-- A total does not depend on the order. -/
theorem total_perm {amounts others : List Int} (h : amounts.Perm others) :
    total amounts = total others := by
  induction h with
  | nil => rfl
  | cons a _ ih => rw [total_cons, total_cons, ih]
  | swap a b amounts =>
      simp only [total_cons]
      omega
  | trans _ _ ih ih' => exact ih.trans ih'

theorem total_nonneg {amounts : List Int} (h : ∀ a ∈ amounts, 0 ≤ a) : 0 ≤ total amounts := by
  induction amounts with
  | nil => simp
  | cons a amounts ih =>
      have hhead := h a List.mem_cons_self
      have htail := ih fun b hb => h b (List.mem_cons_of_mem _ hb)
      rw [total_cons]
      omega

theorem le_total_of_mem {amounts : List Int} (h : ∀ a ∈ amounts, 0 ≤ a) {a : Int}
    (ha : a ∈ amounts) : a ≤ total amounts := by
  induction amounts with
  | nil => cases ha
  | cons b amounts ih =>
      have htail : ∀ c ∈ amounts, 0 ≤ c := fun c hc => h c (List.mem_cons_of_mem _ hc)
      rw [total_cons]
      rcases List.mem_cons.1 ha with rfl | ha
      · have := total_nonneg htail
        omega
      · have := ih htail ha
        have := h b List.mem_cons_self
        omega

/-- A running total of weights at or above zero never stops, if it starts at or above zero, the exact
sum fits, and no step stops below it: no running total on the way is larger than the last. -/
theorem exists_foldlM {α ε : Type} {f : Int64 → α → Except ε Int64} {w : α → Int}
    (hf : ∀ t a n, f t a = .ok n → n.toInt = t.toInt + w a) {items : List α}
    (hw : ∀ a ∈ items, 0 ≤ w a)
    (hstep : ∀ t, ∀ a ∈ items, 0 ≤ t.toInt → t.toInt + w a < 9223372036854775808 →
      ∃ n, f t a = .ok n)
    {start : Int64} (hstart : 0 ≤ start.toInt)
    (hfits : start.toInt + total (items.map w) < 9223372036854775808) :
    ∃ s, items.foldlM f start = .ok s := by
  induction items generalizing start with
  | nil => exact ⟨start, rfl⟩
  | cons a items ih =>
      have ha := hw a List.mem_cons_self
      have htail : ∀ b ∈ items, 0 ≤ w b := fun b hb => hw b (List.mem_cons_of_mem _ hb)
      have hrest : 0 ≤ total (items.map w) := total_nonneg fun x hx => by
        obtain ⟨b, hb, rfl⟩ := List.mem_map.1 hx
        exact htail b hb
      rw [List.map_cons, total_cons] at hfits
      obtain ⟨next, hnext⟩ := hstep start a List.mem_cons_self hstart (by omega)
      have hexact := hf start a next hnext
      rw [List.foldlM_cons, hnext]
      exact ih htail (fun t b hb => hstep t b (List.mem_cons_of_mem _ hb)) (by omega) (by omega)

/-- Without negative terms, a checked sum has a result iff the exact sum is not too large. -/
theorem exists_sum_iff {amounts : List Int64} (h : ∀ a ∈ amounts, 0 ≤ a.toInt) :
    (∃ s, sum amounts = .ok s) ↔ total (amounts.map (·.toInt)) < 9223372036854775808 := by
  constructor
  · rintro ⟨s, hs⟩
    rw [← toInt_of_sum hs]
    exact Int64.toInt_lt s
  · intro hfits
    refine exists_foldlM toInt_of_add h ?_ (by simp) (by simpa using hfits)
    intro t a ha ht hnext
    have := h a ha
    simp only [add_eq_ok_iff]
    exact exists_toInt_eq_iff.2 ⟨by omega, hnext⟩

/-! ### Quotients -/

section

variable {a b : Int}

/-- The rest of a division that rounds towards zero is smaller than the divisor. -/
theorem tmod_within (a : Int) (hb : b ≠ 0) :
    (0 < b ∧ -b < a.tmod b ∧ a.tmod b < b) ∨ (b < 0 ∧ b < a.tmod b ∧ a.tmod b < -b) := by
  rcases Int.lt_or_gt_of_ne hb with h | h
  · have hlow := Int.lt_tmod_of_pos a (Int.neg_pos_of_neg h)
    have hhigh := Int.tmod_lt_of_pos a (Int.neg_pos_of_neg h)
    rw [Int.tmod_neg] at hlow hhigh
    exact .inr ⟨h, by omega, hhigh⟩
  · exact .inl ⟨h, Int.lt_tmod_of_pos a h, Int.tmod_lt_of_pos a h⟩

/-- Its quotient is one too large where there is a rest whose sign is not that of the divisor. -/
theorem fdiv_eq_tdiv_sub (hb : b ≠ 0) :
    a.fdiv b = if a.tmod b ≠ 0 ∧ ¬ (a.tmod b < 0 ↔ b < 0) then a.tdiv b - 1 else a.tdiv b := by
  have hexact := Int.mul_tdiv_add_tmod a b
  have hless : b * (a.tdiv b - 1) = b * a.tdiv b - b := by rw [Int.mul_sub, Int.mul_one]
  split
  · next hsigns =>
      rcases tmod_within a hb with ⟨h, hlow, hhigh⟩ | ⟨h, hlow, hhigh⟩
      · exact ((Int.fdiv_fmod_unique (r := a.tmod b + b) h).2 ⟨by omega, by omega, by omega⟩).1
      · exact ((Int.fdiv_fmod_unique' (r := a.tmod b + b) h).2 ⟨by omega, by omega, by omega⟩).1
  · next hsigns =>
      rcases tmod_within a hb with ⟨h, hlow, hhigh⟩ | ⟨h, hlow, hhigh⟩
      · exact ((Int.fdiv_fmod_unique (r := a.tmod b) h).2 ⟨by omega, by omega, by omega⟩).1
      · exact ((Int.fdiv_fmod_unique' (r := a.tmod b) h).2 ⟨by omega, by omega, by omega⟩).1

end

section

variable {a b q : Int64}

theorem toInt_ne_zero (hb : b ≠ 0) : b.toInt ≠ 0 := fun h => hb (Int64.toInt_inj.1 h)

/-- Only the least amount divided by minus one has a quotient that does not fit. -/
theorem fits_tdiv_iff (hb : b ≠ 0) :
    Fits (a.toInt.tdiv b.toInt) ↔ ¬ (a = Int64.minValue ∧ b = -1) := by
  constructor
  · rintro hfits ⟨rfl, rfl⟩
    revert hfits
    decide
  · intro hleast
    have hexact := Int.mul_tdiv_add_tmod a.toInt b.toInt
    have hsize := Int.natAbs_tdiv_le_natAbs a.toInt b.toInt
    have hrest := tmod_within a.toInt (toInt_ne_zero hb)
    obtain ⟨hlow, hhigh⟩ := fits_toInt a
    by_cases hq : a.toInt.tdiv b.toInt = 9223372036854775808
    · rw [hq] at hexact
      refine absurd ⟨Int64.toInt_inj.1 ?_, Int64.toInt_inj.1 ?_⟩ hleast
      · show a.toInt = -9223372036854775808
        omega
      · show b.toInt = -1
        omega
    · exact ⟨by omega, by omega⟩

/-- A quotient with a rest is not the least amount. -/
theorem tdiv_ne_least (hb : b ≠ 0) (hrest : a.toInt.tmod b.toInt ≠ 0) :
    a.toInt.tdiv b.toInt ≠ -9223372036854775808 := by
  intro hq
  have hexact := Int.mul_tdiv_add_tmod a.toInt b.toInt
  have hwithin := tmod_within a.toInt (toInt_ne_zero hb)
  obtain ⟨hlow, hhigh⟩ := fits_toInt a
  rw [hq] at hexact
  omega

/-- One less is formed without a check, and exact but for the least amount. -/
theorem toInt_sub_one (hq : q.toInt ≠ -9223372036854775808) : (q - 1).toInt = q.toInt - 1 := by
  obtain ⟨hlow, hhigh⟩ := fits_toInt q
  rw [Int64.toInt_sub, show (1 : Int64).toInt = 1 from rfl, Int.bmod_def]
  split <;> omega

/-- The correction of the quotient never wraps, and makes it the one that is rounded down. -/
theorem toInt_corrected (hb : b ≠ 0) (hq : q.toInt = a.toInt.tdiv b.toInt) :
    (if a % b ≠ 0 ∧ ¬ (a % b < 0 ↔ b < 0) then q - 1 else q).toInt = a.toInt.fdiv b.toInt := by
  have hzero : a % b = 0 ↔ a.toInt.tmod b.toInt = 0 := by
    rw [← Int64.toInt_inj, Int64.toInt_mod]
    exact Iff.rfl
  have hsign : a % b < 0 ↔ a.toInt.tmod b.toInt < 0 := by
    rw [Int64.lt_iff_toInt_lt, Int64.toInt_mod]
    exact Iff.rfl
  rw [fdiv_eq_tdiv_sub (toInt_ne_zero hb), ← hq]
  simp only [ne_eq, hzero, hsign, Int64.lt_iff_toInt_lt, toInt_zero]
  split
  · next hsigns => exact toInt_sub_one (hq ▸ tdiv_ne_least hb hsigns.1)
  · rfl

/-- The three ways a division can go. -/
theorem floorDiv_cases (a b : Int64) :
    (b = 0 ∧ floorDiv a b = .error (.divisionByZero a)) ∨
    ((a = Int64.minValue ∧ b = -1) ∧ floorDiv a b = .error (.overflow .div a b)) ∨
    ((b ≠ 0 ∧ ¬ (a = Int64.minValue ∧ b = -1)) ∧
      ∃ q, floorDiv a b = .ok q ∧ q.toInt = a.toInt.fdiv b.toInt) := by
  unfold floorDiv
  by_cases hb : b = 0
  · exact .inl ⟨hb, if_pos hb⟩
  · rw [if_neg hb]
    cases hquotient : exactly .div a b (a.toInt.tdiv b.toInt) with
    | error e =>
        obtain ⟨hrange, rfl⟩ := exactly_eq_error_iff.1 hquotient
        exact .inr (.inl ⟨Decidable.not_not.1 (mt (fits_tdiv_iff hb).2 hrange), rfl⟩)
    | ok quotient =>
        have hexact := exactly_eq_ok_iff.1 hquotient
        have hfits : Fits (a.toInt.tdiv b.toInt) := hexact ▸ fits_toInt quotient
        exact .inr (.inr ⟨⟨hb, (fits_tdiv_iff hb).1 hfits⟩, _, rfl, toInt_corrected hb hexact⟩)

/-- **Where there is a quotient, it is rounded down.** -/
theorem floorDiv_eq_ok_iff : floorDiv a b = .ok q ↔
    (b ≠ 0 ∧ ¬ (a = Int64.minValue ∧ b = -1)) ∧ q.toInt = a.toInt.fdiv b.toInt := by
  rcases floorDiv_cases a b with ⟨rfl, h⟩ | ⟨hleast, h⟩ | ⟨hdefined, q', h, hexact⟩
  · rw [h]
    exact ⟨nofun, fun h => absurd rfl h.1.1⟩
  · rw [h]
    exact ⟨nofun, fun h => absurd hleast h.1.2⟩
  · rw [h, Except.ok.injEq, ← hexact, Int64.toInt_inj]
    exact ⟨fun hq => ⟨hdefined, hq.symm⟩, fun hq => hq.2.symm⟩

/-- **Where there is none, the divisor is zero, or the least amount is divided by minus one.** -/
theorem floorDiv_eq_error_iff {e : ArithmeticError} : floorDiv a b = .error e ↔
    (b = 0 ∧ e = .divisionByZero a) ∨
      ((a = Int64.minValue ∧ b = -1) ∧ e = .overflow .div a b) := by
  rcases floorDiv_cases a b with ⟨hzero, h⟩ | ⟨hleast, h⟩ | ⟨hdefined, q', h, -⟩
  · rw [h, Except.error.injEq]
    refine ⟨fun he => .inl ⟨hzero, he.symm⟩, ?_⟩
    rintro (⟨-, rfl⟩ | ⟨⟨-, rfl⟩, -⟩)
    · rfl
    · cases hzero
  · rw [h, Except.error.injEq]
    refine ⟨fun he => .inr ⟨hleast, he.symm⟩, ?_⟩
    rintro (⟨rfl, -⟩ | ⟨-, rfl⟩)
    · cases hleast.2
    · rfl
  · rw [h]
    refine ⟨nofun, ?_⟩
    rintro (⟨hzero, -⟩ | ⟨hleast, -⟩)
    · exact absurd hzero hdefined.1
    · exact absurd hleast hdefined.2

/-- A positive divisor is neither of the two that may have no quotient. -/
theorem divides_of_pos (hb : 0 < b.toInt) : b ≠ 0 ∧ ¬ (a = Int64.minValue ∧ b = -1) := by
  refine ⟨?_, ?_⟩
  · rintro rfl
    exact absurd hb (by decide)
  · rintro ⟨-, rfl⟩
    exact absurd hb (by decide)

/-- So it always has one, -/
theorem exists_floorDiv_of_pos (hb : 0 < b.toInt) : ∃ q, floorDiv a b = .ok q := by
  rcases floorDiv_cases a b with ⟨hzero, -⟩ | ⟨hleast, -⟩ | ⟨-, q, h, -⟩
  · exact absurd hzero (divides_of_pos (a := a) hb).1
  · exact absurd hleast (divides_of_pos hb).2
  · exact ⟨q, h⟩

/-- the greatest whose product with the divisor is not too large. -/
theorem floorDiv_eq_ok_iff_of_pos (hb : 0 < b.toInt) : floorDiv a b = .ok q ↔
    q.toInt * b.toInt ≤ a.toInt ∧ a.toInt < (q.toInt + 1) * b.toInt := by
  rw [floorDiv_eq_ok_iff, and_iff_right (divides_of_pos hb),
    Int.fdiv_eq_ediv_of_nonneg _ (Int.le_of_lt hb), ← Int.le_ediv_iff_mul_le hb,
    ← Int.ediv_lt_iff_lt_mul hb]
  omega

end

end Amount

end AccountLedger
