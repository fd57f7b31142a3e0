/-
**Totals over the records of a ledger.**

A total adds up one number for each record of a map.  Storing a record changes a total by the number
of the new record less that of the one it replaces.

Main results:

* `SortedMap.total_values_insert` — **what an insertion does to a total**;
* `SortedMap.le_total_values` — a single number is at most the total, if none is negative;
* `Ledger.nativeUnits_putAccount`, `Ledger.holdingUnits_putAccount` — what storing an account does to
  the native units and to the tokens of an asset.
-/

import AccountLedger.Ledger.Basic
import AccountLedger.Proofs.Amount

set_option relaxedAutoImplicit false
set_option autoImplicit false

namespace AccountLedger

namespace SortedMap

variable {κ υ : Type} [Ord κ]

/-! ### Maps -/

/-- What placing a binding in a row of entries does to a total. -/
theorem total_place (f : υ → Int) (k : κ) (v : υ) {es : List (κ × υ)}
    (hes : es.Pairwise fun a b => compare a.1 b.1 = .lt) :
    Amount.total ((place k v es).map fun e => f e.2) + (find k es).elim 0 f
      = Amount.total (es.map fun e => f e.2) + f v := by
  induction es with
  | nil => simp [place, find]
  | cons e es ih =>
      obtain ⟨k', v'⟩ := e
      have hrest := (List.pairwise_cons.1 hes).2
      rw [place, find]
      split
      · simp only [List.map_cons, Amount.total_cons, Option.elim_none]
        omega
      · simp only [List.map_cons, Amount.total_cons, Option.elim_some]
        omega
      · have := ih hrest
        simp only [List.map_cons, Amount.total_cons]
        omega

variable [Std.TransOrd κ]

/-- **What an insertion does to a total**: it adds the number of the new value and takes that of the
one it replaces. -/
theorem total_values_insert (f : υ → Int) (m : SortedMap κ υ) (k : κ) (v : υ) :
    Amount.total ((m.insert k v).values.map f) + (m.get? k).elim 0 f
      = Amount.total (m.values.map f) + f v := by
  simp only [values, List.map_map]
  exact total_place f k v m.increasing

variable [Std.LawfulEqOrd κ]

theorem mem_values_iff {m : SortedMap κ υ} {v : υ} : v ∈ m.values ↔ ∃ k, m.get? k = some v := by
  constructor
  · intro h
    obtain ⟨⟨k, w⟩, hw, rfl⟩ := List.mem_map.1 h
    exact ⟨k, mem_entries_iff.1 hw⟩
  · rintro ⟨k, hk⟩
    exact List.mem_map.2 ⟨(k, v), mem_entries_iff.2 hk, rfl⟩

theorem mem_keys_iff {m : SortedMap κ υ} {k : κ} : k ∈ m.keys ↔ ∃ v, m.get? k = some v := by
  constructor
  · intro h
    obtain ⟨⟨j, v⟩, hv, rfl⟩ := List.mem_map.1 h
    exact ⟨v, mem_entries_iff.1 hv⟩
  · rintro ⟨v, hv⟩
    exact List.mem_map.2 ⟨(k, v), mem_entries_iff.2 hv, rfl⟩

theorem mem_keys_insert [DecidableEq κ] {m : SortedMap κ υ} {k j : κ} {v : υ} :
    j ∈ (m.insert k v).keys ↔ j = k ∨ j ∈ m.keys := by
  rw [mem_keys_iff, mem_keys_iff, get?_insert]
  split
  · next h => exact ⟨fun _ => .inl h, fun _ => ⟨v, rfl⟩⟩
  · next h => exact ⟨.inr, fun hj => hj.resolve_left h⟩

/-- The number of one value is at most the total, if no number is negative. -/
theorem le_total_values {f : υ → Int} {m : SortedMap κ υ} (h : ∀ k v, m.get? k = some v → 0 ≤ f v)
    {k : κ} {v : υ} (hk : m.get? k = some v) : f v ≤ Amount.total (m.values.map f) := by
  refine Amount.le_total_of_mem ?_ (List.mem_map.2 ⟨v, mem_values_iff.2 ⟨k, hk⟩, rfl⟩)
  intro x hx
  obtain ⟨w, hw, rfl⟩ := List.mem_map.1 hx
  obtain ⟨j, hj⟩ := mem_values_iff.1 hw
  exact h j w hj

end SortedMap

namespace Ledger

/-! ### Ledgers -/

/-- Storing an account adds its native units and takes those of the account it replaces. -/
theorem nativeUnits_putAccount (l : Ledger) (r : Account) :
    (l.putAccount r).nativeUnits + (l.account? r.address).elim 0 (·.nativeUnits)
      = l.nativeUnits + r.nativeUnits :=
  SortedMap.total_values_insert _ l.accounts r.address r

/-- Storing an account adds its holding of an asset and takes that of the account it replaces. -/
theorem holdingUnits_putAccount (l : Ledger) (r : Account) (asset : String) :
    (l.putAccount r).holdingUnits asset
        + (l.account? r.address).elim 0 (fun a => (a.holding asset).toInt)
      = l.holdingUnits asset + (r.holding asset).toInt :=
  SortedMap.total_values_insert _ l.accounts r.address r

end Ledger

end AccountLedger
