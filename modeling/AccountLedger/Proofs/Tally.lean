/-
**Votes are counted by target.**

A tally adds the votes of a contract one after another to the counts of their targets.  It stops at the
first vote that names no address, has no positive count, or makes a sum too large.  Since no count is
negative, no sum on the way is larger than the last: where the tally stops depends on the order of the
votes, but not whether it does, nor what it yields.

Main definitions:

* `VoteWitness.castFor` — the counts that are listed for a target, added up exactly;
* `VoteWitness.Counted` — counts by target that are those of a row of votes.

Main results:

* `VoteWitness.tally_eq_ok_iff` — **a tally yields exactly the counts of its votes**;
* `VoteWitness.exists_tally_iff` — when it yields any;
* `VoteWitness.Counted.perm`, `VoteWitness.Counted.unique` — the order of the votes does not matter,
  and there is one way to count them;
* `VoteWitness.total_of_tally` — no vote is lost.
-/

import AccountLedger.Proofs.Admission
import AccountLedger.Proofs.Totals
import Mathlib.Data.List.Induction

set_option relaxedAutoImplicit false
set_option autoImplicit false

namespace AccountLedger

namespace VoteWitness

variable {votes others : List Vote} {v : Vote} {a : Address} {n : Int64}
  {counts counts' : SortedMap Address Int64}

/-! ### What is listed for a target -/

/-- The counts that are listed for a target, added up exactly. -/
def castFor (votes : List Vote) (a : Address) : Int :=
  Amount.total ((votes.filter fun v => v.target = a.bytes).map (·.count.toInt))

theorem castFor_concat (votes : List Vote) (v : Vote) (a : Address) :
    castFor (votes ++ [v]) a
      = castFor votes a + if v.target = a.bytes then v.count.toInt else 0 := by
  rw [castFor, List.filter_append, List.map_append, Amount.total_append, castFor]
  split
  · next h => simp [h]
  · next h => simp [h]

theorem castFor_of_not_listed (h : a.bytes ∉ votes.map (·.target)) : castFor votes a = 0 := by
  have hnone : (votes.filter fun v => v.target = a.bytes) = [] := by
    refine List.filter_eq_nil_iff.2 fun v hv heq => h ?_
    exact List.mem_map.2 ⟨v, hv, of_decide_eq_true heq⟩
  rw [castFor, hnone, List.map_nil, Amount.total_nil]

theorem castFor_perm (h : votes.Perm others) (a : Address) : castFor votes a = castFor others a :=
  Amount.total_perm ((h.filter _).map _)

section

variable (hpositive : ∀ v ∈ votes, 0 < v.count.toInt)

include hpositive

theorem castFor_nonneg (a : Address) : 0 ≤ castFor votes a := by
  refine Amount.total_nonneg fun x hx => ?_
  obtain ⟨v, hv, rfl⟩ := List.mem_map.1 hx
  exact Int.le_of_lt (hpositive v (List.mem_filter.1 hv).1)

theorem castFor_pos (h : a.bytes ∈ votes.map (·.target)) : 0 < castFor votes a := by
  obtain ⟨v, hv, htarget⟩ := List.mem_map.1 h
  have hlisted : v ∈ votes.filter fun v => v.target = a.bytes :=
    List.mem_filter.2 ⟨hv, decide_eq_true htarget⟩
  refine Int.lt_of_lt_of_le (hpositive v hv)
    (Amount.le_total_of_mem (fun x hx => ?_) (List.mem_map.2 ⟨v, hlisted, rfl⟩))
  obtain ⟨u, hu, rfl⟩ := List.mem_map.1 hx
  exact Int.le_of_lt (hpositive u (List.mem_filter.1 hu).1)

end

/-! ### Counted votes -/

/-- The counts are those of the votes: every vote has a positive count, the keys are the listed targets,
and each has what is listed for it. -/
structure Counted (votes : List Vote) (counts : SortedMap Address Int64) : Prop where
  positive : ∀ v ∈ votes, 0 < v.count.toInt
  targets : ∀ bs : Bytes, bs ∈ counts.keys.map (·.bytes) ↔ bs ∈ votes.map (·.target)
  sums : ∀ a n, counts.get? a = some n → n.toInt = castFor votes a

namespace Counted

theorem nil : Counted [] .empty := ⟨nofun, fun _ => Iff.rfl, nofun⟩

theorem mem_keys_iff (h : Counted votes counts) :
    a ∈ counts.keys ↔ a.bytes ∈ votes.map (·.target) := by
  rw [← h.targets, List.mem_map]
  constructor
  · intro ha
    exact ⟨a, ha, rfl⟩
  · rintro ⟨b, hb, heq⟩
    exact Address.ext heq ▸ hb

/-- Every count is positive. -/
theorem pos (h : Counted votes counts) (hn : counts.get? a = some n) : 0 < n.toInt := by
  have hkey : a ∈ counts.keys := SortedMap.mem_keys_iff.2 ⟨n, hn⟩
  rw [h.sums a n hn]
  exact castFor_pos h.positive (h.mem_keys_iff.1 hkey)

/-- What has no count has nothing listed for it. -/
theorem toInt_getD (h : Counted votes counts) (a : Address) :
    ((counts.get? a).getD 0).toInt = castFor votes a := by
  cases hget : counts.get? a with
  | some n => exact h.sums a n hget
  | none =>
      refine (castFor_of_not_listed fun hlisted => ?_).symm
      obtain ⟨n, hn⟩ := SortedMap.mem_keys_iff.1 (h.mem_keys_iff.2 hlisted)
      rw [hget] at hn
      cases hn

/-- One more vote. -/
theorem concat (h : Counted votes counts) (ha : a.bytes = v.target) (hv : 0 < v.count.toInt)
    (hn : n.toInt = castFor votes a + v.count.toInt) :
    Counted (votes ++ [v]) (counts.insert a n) where
  positive := List.forall_mem_append.2 ⟨h.positive, List.forall_mem_singleton.2 hv⟩
  targets bs := by
    rw [List.map_append, List.mem_append, ← h.targets bs, List.mem_map, List.mem_map]
    simp only [SortedMap.mem_keys_insert, List.map_cons, List.map_nil, List.mem_singleton, ← ha]
    constructor
    · rintro ⟨b, rfl | hb, rfl⟩
      · exact .inr rfl
      · exact .inl ⟨b, hb, rfl⟩
    · rintro (⟨b, hb, rfl⟩ | rfl)
      · exact ⟨b, .inr hb, rfl⟩
      · exact ⟨a, .inl rfl, rfl⟩
  sums b m hm := by
    rw [SortedMap.get?_insert] at hm
    rw [castFor_concat]
    split at hm
    · next hb =>
        cases hm
        rw [hb, if_pos ha.symm, hn]
    · next hb =>
        have hother : v.target ≠ b.bytes := fun heq => hb (Address.ext (ha.trans heq).symm)
        rw [if_neg hother, Int.add_zero]
        exact h.sums b m hm

/-- The order of the votes does not matter, -/
theorem perm (h : Counted votes counts) (hvotes : votes.Perm others) : Counted others counts where
  positive v hv := h.positive v (hvotes.mem_iff.2 hv)
  targets bs := (h.targets bs).trans (hvotes.map _).mem_iff
  sums a n hn := (h.sums a n hn).trans (castFor_perm hvotes a)

/-- and there is one way to count them. -/
theorem unique (h : Counted votes counts) (h' : Counted votes counts') : counts = counts' := by
  refine SortedMap.ext fun a => ?_
  have hkeys : (∃ n, counts.get? a = some n) ↔ ∃ n, counts'.get? a = some n := by
    rw [← SortedMap.mem_keys_iff, ← SortedMap.mem_keys_iff, h.mem_keys_iff, h'.mem_keys_iff]
  cases hget : counts.get? a with
  | none =>
      cases hget' : counts'.get? a with
      | none => rfl
      | some n =>
          obtain ⟨m, hm⟩ := hkeys.2 ⟨n, hget'⟩
          rw [hget] at hm
          cases hm
  | some n =>
      obtain ⟨m, hm⟩ := hkeys.1 ⟨n, hget⟩
      have hexact : n.toInt = m.toInt := (h.sums a n hget).trans (h'.sums a m hm).symm
      rw [hm, Int64.toInt_inj.1 hexact]

end Counted

/-! ### Tallies -/

theorem addVote_eq_ok_iff : addVote counts v = .ok counts' ↔
    ∃ (a : Address) (n : Int64), a.bytes = v.target ∧ 0 < v.count.toInt ∧
      n.toInt = ((counts.get? a).getD 0).toInt + v.count.toInt ∧ counts.insert a n = counts' := by
  simp only [addVote, Check.bind_eq_ok_iff, Check.address_eq_ok_iff, Check.positive_eq_ok_iff,
    Check.compute_eq_ok_iff, Amount.add_eq_ok_iff, Check.pure_eq_ok_iff, exists_const,
    exists_and_left]

theorem tally_concat (votes : List Vote) (v : Vote) :
    tally (votes ++ [v]) = tally votes >>= fun counts => addVote counts v := by
  simp only [tally, List.foldlM_append, List.foldlM_cons, List.foldlM_nil, bind_pure]

/-- A tally that comes to an end has counted its votes. -/
theorem counted_of_tally (h : tally votes = .ok counts) : Counted votes counts := by
  -- From the right: the last vote is added to the counts of those before it.
  induction votes using List.reverseRecOn generalizing counts with
  | nil =>
      cases h
      exact .nil
  | append_singleton votes v ih =>
      rw [tally_concat, Check.bind_eq_ok_iff] at h
      obtain ⟨before, hbefore, hadd⟩ := h
      obtain ⟨a, n, ha, hv, hn, rfl⟩ := addVote_eq_ok_iff.1 hadd
      rw [(ih hbefore).toInt_getD] at hn
      exact (ih hbefore).concat ha hv hn

/-- **When a tally comes to an end**: all counts are positive, all targets are addresses, and what is
listed for each of them fits. -/
theorem exists_tally_iff : (∃ counts, tally votes = .ok counts) ↔
    ∀ v ∈ votes, 0 < v.count.toInt ∧
      ∃ a : Address, a.bytes = v.target ∧ Amount.Fits (castFor votes a) := by
  constructor
  · rintro ⟨counts, h⟩ v hv
    have hcounted := counted_of_tally h
    obtain ⟨a, ha, heq⟩ := List.mem_map.1 ((hcounted.targets v.target).2 (List.mem_map_of_mem hv))
    obtain ⟨n, hn⟩ := SortedMap.mem_keys_iff.1 ha
    exact ⟨hcounted.positive v hv, a, heq, hcounted.sums a n hn ▸ Amount.fits_toInt n⟩
  · intro h
    induction votes using List.reverseRecOn with
    | nil => exact ⟨.empty, rfl⟩
    | append_singleton votes v ih =>
        obtain ⟨hrest, hlast⟩ := List.forall_mem_append.1 h
        obtain ⟨hv, a, ha, hfits⟩ := List.forall_mem_singleton.1 hlast
        have hpositive : ∀ u ∈ votes, 0 < u.count.toInt := fun u hu => (hrest u hu).1
        -- What is listed before the last vote is no more than what is listed with it.
        have hbefore : ∀ u ∈ votes, 0 < u.count.toInt ∧
            ∃ b : Address, b.bytes = u.target ∧ Amount.Fits (castFor votes b) := by
          intro u hu
          obtain ⟨hcount, b, hb, hsum⟩ := hrest u hu
          have hnonneg := castFor_nonneg hpositive b
          refine ⟨hcount, b, hb, ?_⟩
          rw [castFor_concat] at hsum
          unfold Amount.Fits at hsum ⊢
          split at hsum <;> omega
        obtain ⟨counts, hcounts⟩ := ih hbefore
        rw [castFor_concat, if_pos ha.symm] at hfits
        obtain ⟨n, hn⟩ := Amount.exists_toInt_eq_iff.2 hfits
        rw [← (counted_of_tally hcounts).toInt_getD] at hn
        refine ⟨counts.insert a n, ?_⟩
        rw [tally_concat, hcounts]
        exact addVote_eq_ok_iff.2 ⟨a, n, ha, hv, hn, rfl⟩

/-- **A tally yields exactly the counts of its votes.** -/
theorem tally_eq_ok_iff : tally votes = .ok counts ↔ Counted votes counts := by
  constructor
  · exact counted_of_tally
  · intro h
    obtain ⟨counts', hcounts'⟩ := exists_tally_iff.2 fun v hv => by
      obtain ⟨a, ha, heq⟩ := List.mem_map.1 ((h.targets v.target).2 (List.mem_map_of_mem hv))
      obtain ⟨n, hn⟩ := SortedMap.mem_keys_iff.1 ha
      exact ⟨h.positive v hv, a, heq, h.sums a n hn ▸ Amount.fits_toInt n⟩
    rw [hcounts', (counted_of_tally hcounts').unique h]

/-- Whether there are counts, and which, does not depend on the order of the votes. -/
theorem tally_perm (hvotes : votes.Perm others) (h : tally votes = .ok counts) :
    tally others = .ok counts :=
  tally_eq_ok_iff.2 ((tally_eq_ok_iff.1 h).perm hvotes)

/-- No vote is lost. -/
theorem total_of_tally (h : tally votes = .ok counts) :
    Amount.total (counts.values.map (·.toInt)) = Amount.total (votes.map (·.count.toInt)) := by
  induction votes using List.reverseRecOn generalizing counts with
  | nil =>
      cases h
      rfl
  | append_singleton votes v ih =>
      rw [tally_concat, Check.bind_eq_ok_iff] at h
      obtain ⟨before, hbefore, hadd⟩ := h
      obtain ⟨a, n, -, -, hn, rfl⟩ := addVote_eq_ok_iff.1 hadd
      have hinsert := SortedMap.total_values_insert (·.toInt) before a n
      have hreplaced : (before.get? a).elim 0 (·.toInt) = ((before.get? a).getD 0).toInt := by
        cases before.get? a with
        | none => rfl
        | some m => rfl
      rw [ih hbefore, hreplaced, hn] at hinsert
      rw [List.map_append, Amount.total_append, List.map_singleton, Amount.total_cons,
        Amount.total_nil]
      omega

end VoteWitness

end AccountLedger
