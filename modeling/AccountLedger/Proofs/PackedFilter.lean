/-
**Filters as they lie in memory.**

A filter of `n` bits is an array of 64-bit words, just as many as are needed; the last one may be used
in part.  A position selects a word by its quotient and a bit of it by its remainder.  Reading or
setting a bit whose word is not in the array is a failure.  This module proves that there is no such
failure, and that the packed filters answer as the sets of positions do.

Main definitions:

* `PackedBloom`, `PackedBloom.insert?`, `PackedBloom.contains?` — a filter as an array of words;
* `PackedGenerations` — two of them that take turns;
* `PackedBloom.Packs`, `PackedGenerations.Packs` — a packed filter has the bits of a set of positions.

Main results:

* `PackedBloom.testBit?_setBit?` — **setting a bit sets that bit, and no other**;
* `PackedBloom.Packs.insert`, `PackedBloom.Packs.contains?_eq` — no key fails, and the answers agree;
* `PackedGenerations.Packs.insert`, `PackedGenerations.Packs.rotate` — nor do two generations.
-/

import AccountLedger.Filter.Generations

set_option relaxedAutoImplicit false
set_option autoImplicit false

namespace AccountLedger

/-- A filter: its dimensions, and its bits in words. -/
structure PackedBloom where
  size : Dimensions
  words : Array UInt64
  deriving DecidableEq

namespace PackedBloom

/-! ### Bits in words -/

/-- The number of words that hold a number of bits. -/
def wordCount (bits : Nat) : Nat := (bits + 63) / 64

/-- The word that has the bit of a position and no other. -/
def mask (n : Nat) : UInt64 := 1 <<< UInt64.ofNat (n % 64)

/-- Is the bit of a position set?  A position outside of the array has no answer. -/
def testBit? (words : Array UInt64) (n : Nat) : Option Bool :=
  words[n / 64]?.map fun w => decide (w &&& mask n ≠ 0)

/-- Sets the bit of a position, which must not be outside of the array. -/
def setBit? (words : Array UInt64) (n : Nat) : Option (Array UInt64) :=
  if h : n / 64 < words.size then some (words.set (n / 64) (words[n / 64] ||| mask n) h) else none

variable {words : Array UInt64} {n k : Nat}

theorem toBitVec_mask (n : Nat) : (mask n).toBitVec = BitVec.twoPow 64 (n % 64) := by
  have hamount : (UInt64.ofNat (n % 64)).toBitVec.toNat % 64 = n % 64 := by
    show (UInt64.ofNat (n % 64)).toNat % 64 = n % 64
    rw [UInt64.toNat_ofNat', Nat.mod_mod_of_dvd _ (by decide), Nat.mod_mod]
  rw [mask, UInt64.toBitVec_shiftLeft, BitVec.twoPow_eq, BitVec.shiftLeft_eq', BitVec.toNat_umod]
  rw [show (64 : BitVec 64).toNat = 64 from rfl, hamount]
  rfl

/-- A word has a bit in common with the mask of a position iff it has the bit of the position. -/
theorem and_mask_ne_zero_iff (w : UInt64) (n : Nat) :
    w &&& mask n ≠ 0 ↔ w.toBitVec.getLsbD (n % 64) = true := by
  have hlt : n % 64 < 64 := Nat.mod_lt n (by decide)
  rw [ne_eq, ← UInt64.toBitVec_inj, UInt64.toBitVec_and, toBitVec_mask, BitVec.and_twoPow]
  split
  · next hbit =>
      refine iff_of_true (fun hzero => ?_) hbit
      have hone := congrArg (fun v : BitVec 64 => v.getLsbD (n % 64)) hzero
      simp [hlt] at hone
  · next hbit => exact iff_of_false (fun h => h rfl) hbit

/-- With the mask of a position added, a word has that bit as well, and no other. -/
theorem or_mask_and_mask_ne_zero_iff (w : UInt64) (hword : k / 64 = n / 64) :
    (w ||| mask n) &&& mask k ≠ 0 ↔ k = n ∨ w &&& mask k ≠ 0 := by
  have hlt : n % 64 < 64 := Nat.mod_lt n (by decide)
  have hsame : n % 64 = k % 64 ↔ k = n := by omega
  rw [and_mask_ne_zero_iff, and_mask_ne_zero_iff, UInt64.toBitVec_or, BitVec.getLsbD_or,
    toBitVec_mask, BitVec.getLsbD_twoPow]
  simp [hlt, hsame, or_comm]

theorem size_of_setBit? {words' : Array UInt64} (h : setBit? words n = some words') :
    words'.size = words.size := by
  unfold setBit? at h
  split at h
  · cases h
    exact Array.size_set _
  · cases h

/-- **Setting a bit sets that bit, and no other.** -/
theorem testBit?_setBit? {words' : Array UInt64} (h : setBit? words n = some words') (k : Nat) :
    testBit? words' k = (testBit? words k).map fun b => k == n || b := by
  unfold setBit? at h
  split at h
  · next hword =>
      cases h
      unfold testBit?
      rw [Array.getElem?_set]
      split
      · next heq =>
          rw [← heq, Array.getElem?_eq_getElem hword]
          simp only [Option.map_some, or_mask_and_mask_ne_zero_iff _ heq.symm, Bool.decide_or]
          rfl
      · next hne =>
          have hother : (k == n) = false := by
            rw [beq_eq_false_iff_ne]
            rintro rfl
            exact hne rfl
          cases words[k / 64]? <;> simp [hother]
  · cases h

/-- A position within the filter has its word in the array. -/
theorem div_lt_wordCount {bits : Nat} (h : n < bits) : n / 64 < wordCount bits := by
  unfold wordCount
  omega

theorem exists_setBit? (h : n / 64 < words.size) : ∃ words', setBit? words n = some words' :=
  ⟨_, dif_pos h⟩

/-- Bits can be set one after another, if their words are all in the array. -/
theorem exists_foldlM_setBit? {ns : List Nat} (h : ∀ n ∈ ns, n / 64 < words.size) :
    ∃ words', ns.foldlM setBit? words = some words' ∧ words'.size = words.size ∧
      ∀ k, testBit? words' k = (testBit? words k).map fun b => ns.contains k || b := by
  induction ns generalizing words with
  | nil =>
      refine ⟨words, rfl, rfl, fun k => ?_⟩
      cases testBit? words k <;> rfl
  | cons n ns ih =>
      obtain ⟨hn, hrest⟩ := List.forall_mem_cons.1 h
      obtain ⟨first, hfirst⟩ := exists_setBit? hn
      have hsize := size_of_setBit? hfirst
      have hrest (m : Nat) (hm : m ∈ ns) : m / 64 < first.size := hsize ▸ hrest m hm
      obtain ⟨last, hlast, hlastSize, hbits⟩ := ih hrest
      refine ⟨last, ?_, hlastSize.trans hsize, fun k => ?_⟩
      · rw [List.foldlM_cons, hfirst]
        exact hlast
      · rw [hbits, testBit?_setBit? hfirst, Option.map_map, List.contains_cons]
        congr 1
        funext b
        show (ns.contains k || (k == n || b)) = (k == n || ns.contains k || b)
        rw [← Bool.or_assoc, Bool.or_comm (ns.contains k)]

/-! ### Packed filters -/

/-- The packed filter of given dimensions without keys. -/
def empty (size : Dimensions) : PackedBloom := ⟨size, Array.replicate (wordCount size.bits) 0⟩

/-- The packed filter of the same length without keys. -/
def cleared (p : PackedBloom) : PackedBloom := { p with words := Array.replicate p.words.size 0 }

/-- The packed filter with one more key. -/
def insert? (p : PackedBloom) (key : Bytes) : Option PackedBloom := do
  let words ← (Bloom.positions p.size key).foldlM setBit? p.words
  return { p with words := words }

/-- Is a key reported?  The first position that is not set decides. -/
def contains? (p : PackedBloom) (key : Bytes) : Option Bool :=
  (Bloom.positions p.size key).allM (testBit? p.words)

/-- The packed filter has the dimensions of a filter, as many words as it takes, and in them the bits
of the positions that are set. -/
structure Packs (p : PackedBloom) (b : Bloom) : Prop where
  size : p.size = b.size
  words : p.words.size = wordCount b.size.bits
  bits : ∀ n < b.size.bits, testBit? p.words n = some (b.marks.mem n)

/-- No bit is set in words that are zero. -/
theorem testBit?_replicate {count : Nat} (h : n / 64 < count) :
    testBit? (Array.replicate count 0) n = some false := by
  rw [testBit?, Array.getElem?_replicate, if_pos h, Option.map_some, UInt64.zero_and]
  rfl

theorem allM_eq_some {ns : List Nat} {p : Nat → Option Bool} {q : Nat → Bool}
    (h : ∀ n ∈ ns, p n = some (q n)) : ns.allM p = some (ns.all q) := by
  induction ns with
  | nil => rfl
  | cons n ns ih =>
      obtain ⟨hn, hrest⟩ := List.forall_mem_cons.1 h
      rw [List.allM, hn, List.all_cons]
      cases q n with
      | false => rfl
      | true => exact ih hrest

namespace Packs

variable {p : PackedBloom} {b : Bloom} {key : Bytes}

theorem empty (size : Dimensions) : (empty size).Packs (.empty size) where
  size := rfl
  words := Array.size_replicate
  bits _ hn := testBit?_replicate (div_lt_wordCount hn)

theorem cleared (h : p.Packs b) : p.cleared.Packs (.empty b.size) where
  size := h.size
  words := Array.size_replicate.trans h.words
  bits _ hn := testBit?_replicate (h.words ▸ div_lt_wordCount hn)

/-- **A key is inserted without a failure**, and the bits stay those of the positions that are set. -/
theorem insert (h : p.Packs b) (key : Bytes) : ∃ p', p.insert? key = some p' ∧
    p'.Packs (b.insert key) := by
  have hwords (n : Nat) (hn : n ∈ Bloom.positions b.size key) : n / 64 < p.words.size :=
    h.words ▸ div_lt_wordCount (Bloom.lt_of_mem_positions hn)
  obtain ⟨words', hfold, hsize, hbits⟩ := exists_foldlM_setBit? hwords
  refine ⟨{ p with words := words' }, ?_, h.size, hsize.trans h.words, fun n hn => ?_⟩
  · rw [insert?, h.size, hfold]
    rfl
  · show testBit? words' n = some ((b.marks.insertAll (Bloom.positions b.size key)).mem n)
    rw [hbits, h.bits n hn, BitSet.mem_insertAll, Option.map_some]

/-- **A key is looked up without a failure**, and the answer is that of the set of positions. -/
theorem contains?_eq (h : p.Packs b) (key : Bytes) : p.contains? key = some (b.contains key) := by
  rw [contains?, h.size]
  exact allM_eq_some fun n hn => h.bits n (Bloom.lt_of_mem_positions hn)

end Packs

end PackedBloom

/-! ### Two generations -/

/-- The packed filters of the current and of the previous cycle. -/
structure PackedGenerations where
  current : PackedBloom
  previous : PackedBloom
  deriving DecidableEq

namespace PackedGenerations

/-- Two packed filters without keys. -/
def empty (size : Dimensions) : PackedGenerations := ⟨.empty size, .empty size⟩

/-- Remembers a key. -/
def insert? (g : PackedGenerations) (key : Bytes) : Option PackedGenerations := do
  let current ← g.current.insert? key
  return { g with current := current }

/-- Is a key reported by one of the filters?  The previous one is asked only if the current one does
not report it. -/
def contains? (g : PackedGenerations) (key : Bytes) : Option Bool := do
  if ← g.current.contains? key then return true
  g.previous.contains? key

/-- Begins a new cycle. -/
def rotate (g : PackedGenerations) : PackedGenerations := ⟨g.current.cleared, g.current⟩

/-- Both packed filters have the bits of their filters. -/
structure Packs (p : PackedGenerations) (g : Generations) : Prop where
  current : p.current.Packs g.current
  previous : p.previous.Packs g.previous

namespace Packs

variable {p : PackedGenerations} {g : Generations}

theorem empty (size : Dimensions) : (empty size).Packs (.empty size) := ⟨.empty size, .empty size⟩

theorem insert (h : p.Packs g) (key : Bytes) : ∃ p', p.insert? key = some p' ∧
    p'.Packs (g.insert key) := by
  obtain ⟨current, hinsert, hpacks⟩ := h.current.insert key
  refine ⟨{ p with current := current }, ?_, hpacks, h.previous⟩
  rw [insert?, hinsert]
  rfl

theorem rotate (h : p.Packs g) : p.rotate.Packs g.rotate := ⟨h.current.cleared, h.current⟩

theorem contains?_eq (h : p.Packs g) (key : Bytes) : p.contains? key = some (g.contains key) := by
  rw [contains?, h.current.contains?_eq, Generations.contains]
  cases g.current.contains key with
  | true => rfl
  | false => exact h.previous.contains?_eq key

end Packs

end PackedGenerations

end AccountLedger
