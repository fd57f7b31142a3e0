/-
**Bloom filters.**

A filter is a set of positions.  A key sets the positions that its digest selects, and is reported
if all of them are set: a key that was inserted always is, another one with a small probability.

Main definitions:

* `Bloom` — a filter: its dimensions and the positions that are set;
* `Bloom.positions` — the positions of a key;
* `Bloom.insert`, `Bloom.contains` — one more key, and the question for one.

Main results:

* `Bloom.lt_of_mem_positions` — positions lie within the filter;
* `Bloom.contains_iff` — a key is reported iff all its positions are set.
-/

import AccountLedger.Digest.Sha256
import AccountLedger.Filter.BitSet
import AccountLedger.Filter.Sizing

set_option relaxedAutoImplicit false
set_option autoImplicit false

namespace AccountLedger

/-- A filter: its dimensions, and the positions that are set. -/
structure Bloom where
  size : Dimensions
  marks : BitSet
  deriving DecidableEq, Repr

namespace Bloom

/-- The filter of given dimensions without keys. -/
def empty (size : Dimensions) : Bloom := ⟨size, .empty⟩

/-- The positions of a key: an arithmetic progression of 64-bit words, whose start and odd step are
the first words of the key's digest, reduced to the size of the filter. -/
def positions (size : Dimensions) (key : Bytes) : List Nat :=
  let digest := Sha256.digest key
  let start := UInt64.ofNat (Bytes.littleEndian (digest.take 8))
  let step := UInt64.ofNat (Bytes.littleEndian ((digest.drop 8).take 8)) ||| 1
  (List.range size.hashes).map fun i => (start + UInt64.ofNat i * step).toNat % size.bits

/-- The filter with one more key. -/
def insert (b : Bloom) (key : Bytes) : Bloom :=
  { b with marks := b.marks.insertAll (positions b.size key) }

/-- Is a key reported? -/
def contains (b : Bloom) (key : Bytes) : Bool := (positions b.size key).all b.marks.mem

/-- **Positions lie within the filter.** -/
theorem lt_of_mem_positions {size : Dimensions} {key : Bytes} {n : Nat}
    (h : n ∈ positions size key) : n < size.bits := by
  obtain ⟨i, _, rfl⟩ := List.mem_map.1 h
  exact Nat.mod_lt _ (Nat.lt_of_lt_of_le (by decide) size.bits_ge)

/-- **A key is reported iff all its positions are set.** -/
theorem contains_iff {b : Bloom} {key : Bytes} :
    b.contains key = true ↔ ∀ n ∈ positions b.size key, b.marks.mem n = true :=
  List.all_eq_true

@[simp] theorem size_insert (b : Bloom) (key : Bytes) : (b.insert key).size = b.size := rfl

theorem mem_marks_insert (b : Bloom) (key : Bytes) (n : Nat) :
    (b.insert key).marks.mem n = true ↔ n ∈ positions b.size key ∨ b.marks.mem n = true := by
  rw [insert, BitSet.mem_insertAll, Bool.or_eq_true, List.contains_iff_mem]

end Bloom

end AccountLedger
