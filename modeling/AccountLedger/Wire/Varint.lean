/-
**Base-128 numbers.**

A number is written in groups of seven bits, the lowest first; every byte but the last has its high
bit set.  Readers admit leading groups of zeros, but no more than ten bytes and no value beyond 64
bits.

Main definitions:

* `Varint.encode` — the bytes of a number;
* `Varint.decode?` — the 64-bit number at the start of a row of bytes, and the bytes after it.

Main results:

* `Varint.decode?_encode` — what is written reads back, whatever follows it;
* `Varint.length_lt_of_decode?` — reading consumes at least one byte.
-/

import AccountLedger.Bytes

set_option relaxedAutoImplicit false
set_option autoImplicit false

namespace AccountLedger

namespace Varint

/-! ### Writing -/

/-- The bytes of a number. -/
def encode (n : Nat) : Bytes :=
  if n < 128 then [UInt8.ofNat n] else UInt8.ofNat (n % 128 + 128) :: encode (n / 128)
termination_by n

/-! ### Reading -/

/-- A number of at most `count` bytes, of which the last one of the full count carries a single
bit. -/
def read? : Nat → Bytes → Option (Nat × Bytes)
  | 0, _ => none
  | _ + 1, [] => none
  | count + 1, b :: bs =>
      if b.toNat < 128 then
        if count = 0 ∧ 1 < b.toNat then none else some (b.toNat, bs)
      else
        match read? count bs with
        | none => none
        | some (n, rest) => some (b.toNat - 128 + 128 * n, rest)

/-- The 64-bit number at the start of a row of bytes, and the bytes after it. -/
def decode? (bs : Bytes) : Option (UInt64 × Bytes) :=
  (read? 10 bs).map fun (n, rest) => (UInt64.ofNat n, rest)

theorem toNat_byte {n : Nat} (h : n < 256) : (UInt8.ofNat n).toNat = n :=
  UInt8.toNat_ofNat_of_lt' h

/-- One more than the greatest number that fits into `count` full bytes and a single bit. -/
def capacity : Nat → Nat
  | 0 => 2
  | count + 1 => 128 * capacity count

/-- A number that fits reads back, whatever follows it. -/
theorem read?_encode {count n : Nat} (h : n < capacity count) (rest : Bytes) :
    read? (count + 1) (encode n ++ rest) = some (n, rest) := by
  induction count generalizing n with
  | zero =>
      have hn : n < 2 := h
      have hb : (UInt8.ofNat n).toNat = n := toNat_byte (by omega)
      rw [encode, if_pos (by omega), List.cons_append, read?, hb, if_pos (by omega),
        if_neg (by omega), List.nil_append]
  | succ count ih =>
      rw [encode]
      split
      · next hn =>
          have hb : (UInt8.ofNat n).toNat = n := toNat_byte (by omega)
          rw [List.cons_append, read?, hb, if_pos hn, if_neg (by omega), List.nil_append]
      · next hn =>
          have hb : (UInt8.ofNat (n % 128 + 128)).toNat = n % 128 + 128 :=
            toNat_byte (by omega)
          -- What is left of the number fits into one byte less.
          have hlt : n / 128 < capacity count := by
            rw [capacity] at h
            omega
          rw [List.cons_append, read?, hb, if_neg (by omega), ih hlt]
          simp only [Option.some.injEq, Prod.mk.injEq, and_true]
          omega

/-- **What is written reads back, whatever follows it.** -/
theorem decode?_encode (n : UInt64) (rest : Bytes) :
    decode? (encode n.toNat ++ rest) = some (n, rest) := by
  have h : n.toNat < capacity 9 := n.toNat_lt
  rw [decode?, read?_encode h]
  simp

theorem length_lt_of_read? {count : Nat} {bs rest : Bytes} {n : Nat}
    (h : read? count bs = some (n, rest)) : rest.length < bs.length := by
  induction count generalizing bs n with
  | zero => cases h
  | succ count ih =>
      cases bs with
      | nil => cases h
      | cons b bs =>
          rw [read?] at h
          split at h
          · split at h
            · cases h
            · cases h
              exact Nat.lt_succ_self _
          · split at h
            · cases h
            · next m r hr =>
                cases h
                exact Nat.lt_succ_of_lt (ih hr)

/-- **Reading consumes at least one byte.** -/
theorem length_lt_of_decode? {bs rest : Bytes} {n : UInt64} (h : decode? bs = some (n, rest)) :
    rest.length < bs.length := by
  unfold decode? at h
  cases hr : read? 10 bs with
  | none => rw [hr] at h; cases h
  | some p =>
      rw [hr] at h
      cases h
      exact length_lt_of_read? hr

end Varint

end AccountLedger
