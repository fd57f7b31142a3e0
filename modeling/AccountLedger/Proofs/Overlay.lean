/-
**An overlay is the ledger it looks like.**

An update carried out on an overlay reads and writes through the buffered batch.  This module proves
that nobody can tell: every answer is the one that the same update gives on the ledger that the
overlay looks like, and what the overlay looks like afterwards is that ledger after the update.

Main results:

* `Overlay.view_on`, `Overlay.view_putAccount` and its companions — the ledger an overlay looks like,
  at first and after a write;
* `Update.runOver_view` — **carrying out an update on an overlay and on the ledger it looks like
  gives the same answer and the same ledger.**
-/

import AccountLedger.Ledger.Overlay

set_option relaxedAutoImplicit false
set_option autoImplicit false

namespace AccountLedger

/-! ### Unions of maps -/

namespace SortedMap

variable {κ υ : Type} [Ord κ] [Std.TransOrd κ] [Std.LawfulEqOrd κ]

/-- A binding inserted on the right of a union is inserted into the union. -/
theorem union_insert [DecidableEq κ] (m n : SortedMap κ υ) (k : κ) (v : υ) :
    m.union (n.insert k v) = (m.union n).insert k v := by
  refine ext fun j => ?_
  rw [get?_union, get?_insert, get?_insert, get?_union]
  split <;> rfl

end SortedMap

/-! ### What an overlay looks like -/

namespace Overlay

/-- Without writes, an overlay looks like the ledger beneath. -/
@[simp] theorem view_on (l : Ledger) : (on l).view = l := rfl

theorem account?_view (o : Overlay) (a : Address) : o.view.account? a = o.account? a :=
  SortedMap.get?_union o.base.accounts o.batch.accounts a

theorem asset?_view (o : Overlay) (name : String) : o.view.asset? name = o.asset? name :=
  SortedMap.get?_union o.base.assets o.batch.assets name

theorem witness?_view (o : Overlay) (a : Address) : o.view.witness? a = o.witness? a :=
  SortedMap.get?_union o.base.witnesses o.batch.witnesses a

theorem view_putAccount (o : Overlay) (r : Account) :
    (o.putAccount r).view = o.view.putAccount r := by
  simp only [view, putAccount, Ledger.commit, Ledger.putAccount, SortedMap.union_insert]

theorem view_putAsset (o : Overlay) (r : Asset) : (o.putAsset r).view = o.view.putAsset r := by
  simp only [view, putAsset, Ledger.commit, Ledger.putAsset, SortedMap.union_insert]

theorem view_putWitness (o : Overlay) (r : Witness) :
    (o.putWitness r).view = o.view.putWitness r := by
  simp only [view, putWitness, Ledger.commit, Ledger.putWitness, SortedMap.union_insert]

end Overlay

/-! ### Updates -/

namespace Update

variable {α : Type}

/-- **Carrying out an update on an overlay and on the ledger it looks like gives the same answer and
the same ledger.** -/
theorem runOver_view (u : Update α) (o : Overlay) :
    (u.runOver o).1 = (u.runOn o.view).1 ∧ (u.runOver o).2.view = (u.runOn o.view).2 := by
  -- Each read is answered alike, and each write leaves overlay and ledger looking alike.
  induction u generalizing o with
  | done a => exact ⟨rfl, rfl⟩
  | readAccount a next ih =>
      rw [runOver, runOn, Overlay.account?_view]
      exact ih _ o
  | readAsset n next ih =>
      rw [runOver, runOn, Overlay.asset?_view]
      exact ih _ o
  | readWitness a next ih =>
      rw [runOver, runOn, Overlay.witness?_view]
      exact ih _ o
  | readParameters next ih => exact ih _ o
  | readSink next ih => exact ih _ o
  | writeAccount r next ih =>
      rw [runOver, runOn, ← Overlay.view_putAccount]
      exact ih _
  | writeAsset r next ih =>
      rw [runOver, runOn, ← Overlay.view_putAsset]
      exact ih _
  | writeWitness r next ih =>
      rw [runOver, runOn, ← Overlay.view_putWitness]
      exact ih _

/-- An update that is buffered over a ledger and then committed is carried out on the ledger. -/
theorem runOver_on (u : Update α) (l : Ledger) :
    (u.runOver (.on l)).1 = (u.runOn l).1 ∧
      l.commit (u.runOver (.on l)).2.batch = (u.runOn l).2 := by
  obtain ⟨hanswer, hview⟩ := runOver_view u (.on l)
  refine ⟨hanswer, ?_⟩
  rw [Overlay.view, runOver_base] at hview
  exact hview

end Update

end AccountLedger
