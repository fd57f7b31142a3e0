/-
**Two generations report the keys of two cycles.**

What the filters report after any row of calls depends on few of them: on the keys put since the last
rotation, and on those put in the cycle before it.  A key is reported iff each of its positions is one
of a key of the former, or each is one of a key of the latter.

Main definitions:

* `Generations.Call`, `Generations.after` — putting a key or rotating, and the filters after a row of
  such calls;
* `Generations.PutAgo` — a key was put, and a number of rotations followed;
* `Bloom.Covers` — all positions of a key are positions of other keys.

Main results:

* `Generations.mem_generation_after` — the positions that are set in either filter;
* `Generations.contains_after_iff` — **the keys that are reported**;
* `PackedGenerations.Packs.after` — packed filters go through any row of calls without a failure;
* `Generations.reports_two_cycles` — and what follows for putting, repeating and forgetting keys.
-/

import AccountLedger.Proofs.PackedFilter

set_option relaxedAutoImplicit false
set_option autoImplicit false

namespace AccountLedger

/-- All positions of a key are positions of some of the keys. -/
def Bloom.Covers (size : Dimensions) (keys : Bytes → Prop) (key : Bytes) : Prop :=
  ∀ n ∈ positions size key, ∃ k, keys k ∧ n ∈ positions size k

/-- A key covers itself. -/
theorem Bloom.Covers.self {size : Dimensions} {keys : Bytes → Prop} {key : Bytes} (h : keys key) :
    Covers size keys key := fun _ hn => ⟨key, h, hn⟩

namespace Generations

/-! ### Rows of calls -/

/-- What changes the filters: a key is put, or a new cycle begins. -/
inductive Call
  | put (key : Bytes)
  | rotate
  deriving DecidableEq, Repr

/-- The filters after a call. -/
def afterCall (g : Generations) : Call → Generations
  | .put key => g.insert key
  | .rotate => g.rotate

/-- The filters after a row of calls. -/
def after (g : Generations) (calls : List Call) : Generations := calls.foldl afterCall g

/-- The key was put, and so many rotations followed: none since the last rotation, one in the cycle
before it. -/
def PutAgo (calls : List Call) (rotations : Nat) (key : Bytes) : Prop :=
  ∃ before later, calls = before ++ .put key :: later ∧ later.count .rotate = rotations

section

variable {calls : List Call} {rotations : Nat} {key : Bytes}

theorem not_putAgo_nil : ¬ PutAgo [] rotations key := by
  rintro ⟨before, later, h, -⟩
  exact List.append_ne_nil_of_right_ne_nil before (List.cons_ne_nil _ later) h.symm

theorem putAgo_put_cons_iff {k : Bytes} : PutAgo (.put k :: calls) rotations key ↔
    (key = k ∧ calls.count .rotate = rotations) ∨ PutAgo calls rotations key := by
  constructor
  · rintro ⟨before, later, h, hcount⟩
    rcases List.cons_eq_append_iff.1 h with ⟨-, hlater⟩ | ⟨before', -, hcalls⟩
    · cases hlater
      exact .inl ⟨rfl, hcount⟩
    · exact .inr ⟨before', later, hcalls, hcount⟩
  · rintro (⟨rfl, hcount⟩ | ⟨before, later, rfl, hcount⟩)
    · exact ⟨[], calls, rfl, hcount⟩
    · exact ⟨.put k :: before, later, rfl, hcount⟩

theorem putAgo_rotate_cons_iff :
    PutAgo (.rotate :: calls) rotations key ↔ PutAgo calls rotations key := by
  constructor
  · rintro ⟨before, later, h, hcount⟩
    rcases List.cons_eq_append_iff.1 h with ⟨-, hlater⟩ | ⟨before', -, hcalls⟩
    · cases hlater
    · exact ⟨before', later, hcalls, hcount⟩
  · rintro ⟨before, later, rfl, hcount⟩
    exact ⟨.rotate :: before, later, rfl, hcount⟩

/-- What was put before some calls was put by as many rotations longer ago. -/
theorem putAgo_append_iff {older : List Call} : PutAgo (older ++ calls) rotations key ↔
    PutAgo calls rotations key ∨
      ∃ earlier, PutAgo older earlier key ∧ earlier + calls.count .rotate = rotations := by
  induction older with
  | nil => simp [not_putAgo_nil]
  | cons call older ih =>
      cases call with
      | put k =>
          simp only [List.cons_append, putAgo_put_cons_iff, ih, List.count_append]
          constructor
          · rintro (⟨rfl, hcount⟩ | hput | ⟨earlier, hput, hcount⟩)
            · exact .inr ⟨_, .inl ⟨rfl, rfl⟩, hcount⟩
            · exact .inl hput
            · exact .inr ⟨earlier, .inr hput, hcount⟩
          · rintro (hput | ⟨earlier, ⟨rfl, rfl⟩ | hput, hcount⟩)
            · exact .inr (.inl hput)
            · exact .inl ⟨rfl, hcount⟩
            · exact .inr (.inr ⟨earlier, hput, hcount⟩)
      | rotate => simp only [List.cons_append, putAgo_rotate_cons_iff, ih]

end

/-! ### The positions that are set -/

/-- The filter of the keys put so many rotations ago, up to one. -/
def generation (g : Generations) : Nat → Bloom
  | 0 => g.current
  | _ + 1 => g.previous

variable {g : Generations}

theorem size_insert (g : Generations) (key : Bytes) :
    (g.insert key).current.size = g.current.size := rfl

theorem size_rotate (g : Generations) : g.rotate.current.size = g.current.size := rfl

theorem size_current_after (g : Generations) (calls : List Call) :
    (g.after calls).current.size = g.current.size := by
  induction calls generalizing g with
  | nil => rfl
  | cons call calls ih =>
      refine (ih (g.afterCall call)).trans ?_
      cases call <;> rfl

theorem size_previous_after (h : g.previous.size = g.current.size) (calls : List Call) :
    (g.after calls).previous.size = g.current.size := by
  induction calls generalizing g with
  | nil => exact h
  | cons call calls ih =>
      cases call with
      | put key => exact ih (g := g.insert key) h
      | rotate => exact ih (g := g.rotate) rfl

/-- Putting a key sets its positions in the current filter. -/
theorem mem_generation_insert (key : Bytes) (age n : Nat) :
    ((g.insert key).generation age).marks.mem n = true ↔
      (age = 0 ∧ n ∈ Bloom.positions g.current.size key) ∨
        (g.generation age).marks.mem n = true := by
  cases age with
  | zero => simp [generation, insert, Bloom.mem_marks_insert]
  | succ age => simp [generation, insert]

/-- A rotation empties the current filter and passes its positions on. -/
theorem mem_generation_rotate {age : Nat} (hage : age < 2) (n : Nat) :
    (g.rotate.generation age).marks.mem n = true ↔
      age = 1 ∧ (g.generation 0).marks.mem n = true := by
  match age, hage with
  | 0, _ => simp [generation, rotate, Bloom.empty]
  | 1, _ => simp [generation, rotate]

/-- **The positions that are set in either filter** after a row of calls: those of the keys put as long
ago as the filter is for, and those that were set as much earlier. -/
theorem mem_generation_after (g : Generations) (calls : List Call) {age : Nat} (hage : age < 2)
    (n : Nat) : ((g.after calls).generation age).marks.mem n = true ↔
      (∃ key, PutAgo calls age key ∧ n ∈ Bloom.positions g.current.size key) ∨
        ∃ earlier, earlier + calls.count .rotate = age ∧
          (g.generation earlier).marks.mem n = true := by
  induction calls generalizing g with
  | nil => simp [after, not_putAgo_nil]
  | cons call calls ih =>
      cases call with
      | put k =>
          have hcount : (Call.put k :: calls).count .rotate = calls.count .rotate :=
            List.count_cons_of_ne (show Call.put k ≠ .rotate from nofun)
          rw [show g.after (.put k :: calls) = (g.insert k).after calls from rfl, ih, size_insert,
            hcount]
          simp only [putAgo_put_cons_iff, mem_generation_insert]
          constructor
          · rintro (⟨key, hput, hn⟩ | ⟨earlier, hage, ⟨rfl, hn⟩ | hn⟩)
            · exact .inl ⟨key, .inr hput, hn⟩
            · exact .inl ⟨k, .inl ⟨rfl, by omega⟩, hn⟩
            · exact .inr ⟨earlier, hage, hn⟩
          · rintro (⟨key, ⟨rfl, hage⟩ | hput, hn⟩ | ⟨earlier, hage, hn⟩)
            · exact .inr ⟨0, by omega, .inl ⟨rfl, hn⟩⟩
            · exact .inl ⟨key, hput, hn⟩
            · exact .inr ⟨earlier, hage, .inr hn⟩
      | rotate =>
          have hcount : (Call.rotate :: calls).count .rotate = calls.count .rotate + 1 :=
            List.count_cons_self
          rw [show g.after (.rotate :: calls) = g.rotate.after calls from rfl, ih, size_rotate,
            hcount]
          simp only [putAgo_rotate_cons_iff]
          refine or_congr_right ⟨?_, ?_⟩
          · rintro ⟨earlier, hsum, hn⟩
            obtain ⟨rfl, hn⟩ := (mem_generation_rotate (by omega) n).1 hn
            exact ⟨0, by omega, hn⟩
          · rintro ⟨earlier, hsum, hn⟩
            -- One more rotation is still to count, so these are the positions of the current filter.
            obtain rfl : earlier = 0 := by omega
            exact ⟨1, by omega, (mem_generation_rotate (by omega) n).2 ⟨rfl, hn⟩⟩

/-! ### The keys that are reported -/

section

variable {size : Dimensions} {calls : List Call}

/-- From filters without keys, the positions that are set are those of the keys put as long ago as the
filter is for. -/
theorem mem_generation_after_empty (size : Dimensions) (calls : List Call) {age : Nat}
    (hage : age < 2) (n : Nat) : (((empty size).after calls).generation age).marks.mem n = true ↔
      ∃ key, PutAgo calls age key ∧ n ∈ Bloom.positions size key := by
  have hnothing (earlier : Nat) : ((empty size).generation earlier).marks.mem n = false := by
    cases earlier <;> rfl
  rw [mem_generation_after (empty size) calls hage]
  simp only [hnothing, Bool.false_eq_true, and_false, exists_false, or_false]
  exact Iff.rfl

/-- **A key is reported iff it is covered by the keys put since the last rotation, or by those put in the
cycle before it.** -/
theorem contains_after_iff (size : Dimensions) (calls : List Call) (key : Bytes) :
    ((empty size).after calls).contains key = true ↔
      Bloom.Covers size (PutAgo calls 0) key ∨ Bloom.Covers size (PutAgo calls 1) key := by
  have hcurrent : ((empty size).after calls).current.size = size :=
    size_current_after (empty size) calls
  have hprevious : ((empty size).after calls).previous.size = size :=
    size_previous_after (g := empty size) rfl calls
  rw [contains, Bool.or_eq_true, Bloom.contains_iff, Bloom.contains_iff, hcurrent, hprevious]
  refine or_congr (forall₂_congr fun n _ => ?_) (forall₂_congr fun n _ => ?_)
  · exact mem_generation_after_empty size calls Nat.zero_lt_two n
  · exact mem_generation_after_empty size calls Nat.one_lt_two n

/-- Where the same keys were put in each of two cycles, the same keys are reported. -/
theorem contains_after_congr {others : List Call}
    (h : ∀ rotations < 2, ∀ key, PutAgo calls rotations key ↔ PutAgo others rotations key)
    (key : Bytes) : ((empty size).after calls).contains key
      = ((empty size).after others).contains key := by
  have hcurrent : PutAgo calls 0 = PutAgo others 0 :=
    funext fun key => propext (h 0 Nat.zero_lt_two key)
  have hprevious : PutAgo calls 1 = PutAgo others 1 :=
    funext fun key => propext (h 1 Nat.one_lt_two key)
  rw [Bool.eq_iff_iff, contains_after_iff, contains_after_iff, hcurrent, hprevious]

/-- What was put before the last two rotations is in neither of the last two cycles. -/
theorem putAgo_append_of_forgotten {older : List Call} (hrotations : 2 ≤ calls.count .rotate)
    {rotations : Nat} (hfew : rotations < 2) {key : Bytes} :
    PutAgo (older ++ calls) rotations key ↔ PutAgo calls rotations key := by
  rw [putAgo_append_iff]
  refine or_iff_left ?_
  rintro ⟨earlier, -, hsum⟩
  omega

end

end Generations

/-! ### Packed filters -/

namespace PackedGenerations

/-- The packed filters after a call. -/
def afterCall? (p : PackedGenerations) : Generations.Call → Option PackedGenerations
  | .put key => p.insert? key
  | .rotate => some p.rotate

/-- The packed filters after a row of calls. -/
def after? (p : PackedGenerations) (calls : List Generations.Call) : Option PackedGenerations :=
  calls.foldlM afterCall? p

variable {p : PackedGenerations} {g : Generations}

theorem Packs.afterCall (h : p.Packs g) (call : Generations.Call) :
    ∃ p', p.afterCall? call = some p' ∧ p'.Packs (g.afterCall call) := by
  cases call with
  | put key => exact h.insert key
  | rotate => exact ⟨p.rotate, rfl, h.rotate⟩

/-- **Packed filters go through any row of calls without a failure.** -/
theorem Packs.after (h : p.Packs g) (calls : List Generations.Call) :
    ∃ p', p.after? calls = some p' ∧ p'.Packs (g.after calls) := by
  induction calls generalizing p g with
  | nil => exact ⟨p, rfl, h⟩
  | cons call calls ih =>
      obtain ⟨first, hfirst, hpacks⟩ := h.afterCall call
      obtain ⟨last, hlast, hpacks⟩ := ih hpacks
      refine ⟨last, ?_, hpacks⟩
      rw [after?, List.foldlM_cons, hfirst]
      exact hlast

end PackedGenerations

namespace Generations

/-- **Two generations report the keys of two cycles.**  Filters of any dimensions, after any row of
calls: a key is reported iff each of its positions is one of a key put since the last rotation, or each
is one of a key put in the cycle before it.  So a key that was put is reported until its second
following rotation at least; only which keys were put in each of the two cycles matters, neither their
order nor how often; and what came before the last two rotations does not matter at all.  No position is
outside of the filter: with its bits packed into words, every call finds the words it needs, and the
answers are the same. -/
theorem reports_two_cycles (size : Dimensions) (calls : List Call) :
    (∀ key, ((empty size).after calls).contains key = true ↔
      Bloom.Covers size (PutAgo calls 0) key ∨ Bloom.Covers size (PutAgo calls 1) key) ∧
    (∀ rotations < 2, ∀ key, PutAgo calls rotations key →
      ((empty size).after calls).contains key = true) ∧
    (∀ others : List Call,
      (∀ rotations < 2, ∀ key, PutAgo calls rotations key ↔ PutAgo others rotations key) →
      ∀ key, ((empty size).after calls).contains key
        = ((empty size).after others).contains key) ∧
    (2 ≤ calls.count .rotate → ∀ (older : List Call) (key : Bytes),
      ((empty size).after (older ++ calls)).contains key
        = ((empty size).after calls).contains key) ∧
    (∀ key, ∀ n ∈ Bloom.positions size key, n < size.bits) ∧
    ∃ p, (PackedGenerations.empty size).after? calls = some p ∧
      ∀ key, p.contains? key = some (((empty size).after calls).contains key) := by
  refine ⟨contains_after_iff size calls, fun rotations hfew key hput => ?_,
    fun others h => contains_after_congr h, fun hrotations older => contains_after_congr ?_,
    fun key n => Bloom.lt_of_mem_positions, ?_⟩
  · rw [contains_after_iff]
    match rotations, hfew with
    | 0, _ => exact .inl (Bloom.Covers.self hput)
    | 1, _ => exact .inr (Bloom.Covers.self hput)
  · exact fun rotations hfew key => putAgo_append_of_forgotten hrotations hfew
  · obtain ⟨p, hafter, hpacks⟩ := (PackedGenerations.Packs.empty size).after calls
    exact ⟨p, hafter, hpacks.contains?_eq⟩

/-- A key is put, and another one in each of the two cycles after it: the first is forgotten, and the
others are reported. -/
theorem reports_two_cycles_small : ∃ (size : Dimensions) (older calls : List Call),
    PutAgo (older ++ calls) 2 [1] ∧ PutAgo calls 1 [2] ∧ PutAgo calls 0 [3] ∧
    2 ≤ calls.count .rotate ∧
    ((empty size).after (older ++ calls)).contains [1] = false ∧
    ((empty size).after calls).contains [2] = true ∧
    ((empty size).after calls).contains [3] = true := by
  let size : Dimensions := ⟨100, 3, by decide, by decide⟩
  let calls : List Call := [.rotate, .put [2], .rotate, .put [3]]
  have hfirst : PutAgo ([.put [1]] ++ calls) 2 [1] := ⟨[], calls, rfl, rfl⟩
  have hprevious : PutAgo calls 1 [2] := ⟨[.rotate], [.rotate, .put [3]], rfl, rfl⟩
  have hcurrent : PutAgo calls 0 [3] := ⟨[.rotate, .put [2], .rotate], [], rfl, rfl⟩
  have hunknown : ((empty size).after calls).contains [1] = false := by decide +kernel
  obtain ⟨-, hreported, -, hforgotten, -⟩ := reports_two_cycles size calls
  exact ⟨size, [.put [1]], calls, hfirst, hprevious, hcurrent, by decide,
    (hforgotten (by decide) [.put [1]] [1]).trans hunknown,
    hreported 1 (by decide) [2] hprevious, hreported 0 (by decide) [3] hcurrent⟩

end Generations

end AccountLedger
