/-
**Hexadecimal text.**

Bytes are written as two lowercase hexadecimal digits each; reading takes digits of either case and
refuses an odd number of them.

Main definitions:

* `Hex.encode` — bytes as lowercase digits;
* `Hex.decode?` — the bytes that a row of digits denotes;
* `Hex.ofNat` — a number in hexadecimal without leading zeros.

Main results:

* `Hex.decodeChars?_encodeChars` — what is written reads back.
-/

import AccountLedger.Bytes

set_option relaxedAutoImplicit false
set_option autoImplicit false

namespace AccountLedger

namespace Hex

/-- The lowercase digit of a number below sixteen. -/
def digitChar (d : Nat) : Char :=
  if d < 10 then Char.ofNat (48 + d) else Char.ofNat (87 + d)

/-- The value of a hexadecimal digit of either case. -/
def digitValue? (c : Char) : Option Nat :=
  if '0' ≤ c ∧ c ≤ '9' then some (c.toNat - 48)
  else if 'a' ≤ c ∧ c ≤ 'f' then some (c.toNat - 87)
  else if 'A' ≤ c ∧ c ≤ 'F' then some (c.toNat - 55)
  else none

theorem digitValue?_digitChar {d : Nat} (h : d < 16) : digitValue? (digitChar d) = some d := by
  have : ∀ d : Fin 16, digitValue? (digitChar d.val) = some d.val := by decide
  exact this ⟨d, h⟩

/-! ### Bytes -/

/-- The digits of a row of bytes. -/
def encodeChars : Bytes → List Char
  | [] => []
  | b :: bs => digitChar (b.toNat / 16) :: digitChar (b.toNat % 16) :: encodeChars bs

/-- The bytes that a row of digits denotes, two digits each. -/
def decodeChars? : List Char → Option Bytes
  | [] => some []
  | [_] => none
  | h :: l :: rest => do
      let high ← digitValue? h
      let low ← digitValue? l
      let bytes ← decodeChars? rest
      return UInt8.ofNat (16 * high + low) :: bytes

/-- Bytes as lowercase hexadecimal digits. -/
def encode (bs : Bytes) : String := String.ofList (encodeChars bs)

/-- The bytes that hexadecimal digits of either case denote. -/
def decode? (s : String) : Option Bytes := decodeChars? s.toList

/-- **What is written reads back.** -/
theorem decodeChars?_encodeChars (bs : Bytes) : decodeChars? (encodeChars bs) = some bs := by
  induction bs with
  | nil => rfl
  | cons b bs ih =>
      have hb : b.toNat < 256 := b.toNat_lt
      have he : UInt8.ofNat (16 * (b.toNat / 16) + b.toNat % 16) = b := by
        rw [Nat.div_add_mod, UInt8.ofNat_toNat]
      have hh := digitValue?_digitChar (d := b.toNat / 16) (by omega)
      have hl := digitValue?_digitChar (d := b.toNat % 16) (by omega)
      simp only [encodeChars, decodeChars?, ih, hh, hl, bind, Option.bind, pure, he]

@[simp] theorem decode?_encode (bs : Bytes) : decode? (encode bs) = some bs := by
  rw [decode?, encode, String.toList_ofList, decodeChars?_encodeChars]

/-! ### Numbers -/

/-- The hexadecimal digits of a number, without leading zeros. -/
def digits (n : Nat) : List Char :=
  if n < 16 then [digitChar n] else digits (n / 16) ++ [digitChar (n % 16)]
termination_by n

/-- A number in hexadecimal, without leading zeros. -/
def ofNat (n : Nat) : String := String.ofList (digits n)

end Hex

end AccountLedger
