/-
**Integers in decimal.**

Numbers are written with the fewest digits and a leading minus sign where they are negative.

Main definitions:

* `Decimal.digits` — the decimal digits of a natural number, most significant first;
* `Decimal.ofInt`, `Decimal.ofInt64`, `Decimal.ofUInt64` — the text of an integer;
* `Decimal.value` — the number a row of digits denotes.

Main results:

* `Decimal.value_digits` — the digits of a number denote it;
* `Decimal.eq_zero_of_head?_digits` — only zero is written with a zero in front.
-/

set_option relaxedAutoImplicit false
set_option autoImplicit false

namespace AccountLedger

namespace Decimal

/-- The character of a decimal digit. -/
def digitChar (d : Nat) : Char := Char.ofNat (48 + d)

/-- The decimal digits of `n`, most significant first; zero is written `0`. -/
def digits (n : Nat) : List Char :=
  if n < 10 then [digitChar n] else digits (n / 10) ++ [digitChar (n % 10)]
termination_by n

/-- The digits of an integer behind its sign. -/
def intDigits (i : Int) : List Char :=
  if i < 0 then '-' :: digits i.natAbs else digits i.natAbs

/-- The text of an integer. -/
def ofInt (i : Int) : String := String.ofList (intDigits i)

/-- The text of a natural number. -/
def ofNat (n : Nat) : String := String.ofList (digits n)

/-- The text of a signed 64-bit integer. -/
def ofInt64 (i : Int64) : String := ofInt i.toInt

/-- The text of a signed 32-bit integer. -/
def ofInt32 (i : Int32) : String := ofInt i.toInt

/-- The text of an unsigned 64-bit integer. -/
def ofUInt64 (i : UInt64) : String := ofNat i.toNat

/-! ### Reading digits -/

/-- The value of a decimal digit. -/
def digitValue (c : Char) : Nat := c.toNat - 48

/-- The number that a row of digits denotes. -/
def value (cs : List Char) : Nat := cs.foldl (fun n c => 10 * n + digitValue c) 0

theorem digitValue_digitChar {d : Nat} (h : d < 10) : digitValue (digitChar d) = d := by
  have : ∀ d : Fin 10, digitValue (digitChar d.val) = d.val := by decide
  exact this ⟨d, h⟩

theorem isDigit_digitChar {d : Nat} (h : d < 10) : (digitChar d).isDigit = true := by
  have : ∀ d : Fin 10, (digitChar d.val).isDigit = true := by decide
  exact this ⟨d, h⟩

theorem digits_of_lt {n : Nat} (h : n < 10) : digits n = [digitChar n] := by
  rw [digits, if_pos h]

theorem digits_of_le {n : Nat} (h : 10 ≤ n) :
    digits n = digits (n / 10) ++ [digitChar (n % 10)] := by
  rw [digits, if_neg (by omega)]

theorem digits_ne_nil (n : Nat) : digits n ≠ [] := by
  rw [digits]
  split <;> simp

theorem isDigit_of_mem_digits {n : Nat} {c : Char} (h : c ∈ digits n) : c.isDigit = true := by
  induction n using Nat.strongRecOn with
  | ind n ih =>
      by_cases hn : n < 10
      · rw [digits_of_lt hn] at h
        rw [List.mem_singleton.1 h]
        exact isDigit_digitChar hn
      · rw [digits_of_le (by omega)] at h
        rcases List.mem_append.1 h with h | h
        · exact ih (n / 10) (by omega) h
        · rw [List.mem_singleton.1 h]
          exact isDigit_digitChar (Nat.mod_lt _ (by omega))

/-- **Only zero is written with a zero in front.** -/
theorem eq_zero_of_head?_digits {n : Nat} (h : (digits n).head? = some '0') : n = 0 := by
  induction n using Nat.strongRecOn with
  | ind n ih =>
      by_cases hn : n < 10
      · rw [digits_of_lt hn, List.head?_cons, Option.some.injEq] at h
        have hvalue := digitValue_digitChar hn
        rw [h] at hvalue
        exact hvalue.symm
      · have hhead : (digits n).head? = (digits (n / 10)).head? := by
          obtain ⟨c, cs, hcs⟩ := List.exists_cons_of_ne_nil (digits_ne_nil (n / 10))
          rw [digits_of_le (by omega), hcs]
          rfl
        have := ih (n / 10) (by omega) (hhead ▸ h)
        omega

/-- **The digits of a number denote it.** -/
theorem value_digits (n : Nat) : value (digits n) = n := by
  induction n using Nat.strongRecOn with
  | ind n ih =>
      by_cases hn : n < 10
      · rw [digits_of_lt hn]
        simp [value, digitValue_digitChar hn]
      · have h := ih (n / 10) (by omega)
        rw [digits_of_le (by omega), value, List.foldl_append, ← value, h]
        simp only [List.foldl_cons, List.foldl_nil,
          digitValue_digitChar (Nat.mod_lt n (by omega : 0 < 10))]
        omega

end Decimal

end AccountLedger
