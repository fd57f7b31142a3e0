/-
**Staged calls and direct calls.**

A caller of a store reads records, asks whether they exist, writes records and changes balances.  On
an overlay every write is only buffered; on a ledger it takes effect at once.  This module proves that
a caller cannot tell the two apart, however many calls it makes and whatever the records are stored
under: it gets the same replies, and the batch left at the end, once committed, leaves the ledger of
the direct calls.

Main definitions:

* `StoreCall`, `StoreReply` — the calls on a store and their replies;
* `Overlay.call`, `Ledger.call` — one call on an overlay and one on a ledger;
* `Overlay.calls`, `Ledger.calls` — calls one after another, with all their replies.

Main results:

* `Overlay.call_view`, `Overlay.calls_view` — **an overlay and the ledger it looks like reply alike,
  and look alike afterwards**;
* `Overlay.call_of_refused`, `Ledger.call_of_refused` — a refused change of a balance writes nothing;
* `Overlay.calls_refine_direct` — **the buffered calls, committed, are the direct calls.**
-/

import AccountLedger.Proofs.Consistency
import AccountLedger.Proofs.Execution
import AccountLedger.Proofs.Overlay

set_option relaxedAutoImplicit false
set_option autoImplicit false

namespace AccountLedger

/-! ### Calls on a store -/

/-- A call on a store: a read, a question, a write, or a change of one balance. -/
inductive StoreCall
  | account (a : Address)
  | asset (name : String)
  | witness (a : Address)
  | hasAccount (a : Address)
  | hasAsset (name : String)
  | hasWitness (a : Address)
  | parameters
  | sink
  | putAccount (r : Account)
  | putAsset (r : Asset)
  | putWitness (r : Witness)
  | adjustBalance (a : Address) (delta : Int64)

/-- What a store replies. -/
inductive StoreReply
  | account (found : Option Account)
  | asset (found : Option Asset)
  | witness (found : Option Witness)
  | exists (answer : Bool)
  | parameters (p : Parameters)
  | sink (a : Address)
  | written
  | adjusted (outcome : Except StoreError Unit)

/-- A call on an overlay; a write is buffered. -/
def Overlay.call (o : Overlay) : StoreCall → StoreReply × Overlay
  | .account a => (.account (o.account? a), o)
  | .asset name => (.asset (o.asset? name), o)
  | .witness a => (.witness (o.witness? a), o)
  | .hasAccount a => (.exists (o.account? a).isSome, o)
  | .hasAsset name => (.exists (o.asset? name).isSome, o)
  | .hasWitness a => (.exists (o.witness? a).isSome, o)
  | .parameters => (.parameters o.base.parameters, o)
  | .sink => (.sink o.base.sink, o)
  | .putAccount r => (.written, o.putAccount r)
  | .putAsset r => (.written, o.putAsset r)
  | .putWitness r => (.written, o.putWitness r)
  | .adjustBalance a delta =>
      let (outcome, o') := (Update.adjustBalance a delta).run.runOver o
      (.adjusted outcome, o')

/-- A call on a ledger; a write takes effect at once. -/
def Ledger.call (l : Ledger) : StoreCall → StoreReply × Ledger
  | .account a => (.account (l.account? a), l)
  | .asset name => (.asset (l.asset? name), l)
  | .witness a => (.witness (l.witness? a), l)
  | .hasAccount a => (.exists (l.hasAccount a), l)
  | .hasAsset name => (.exists (l.hasAsset name), l)
  | .hasWitness a => (.exists (l.hasWitness a), l)
  | .parameters => (.parameters l.parameters, l)
  | .sink => (.sink l.sink, l)
  | .putAccount r => (.written, l.putAccount r)
  | .putAsset r => (.written, l.putAsset r)
  | .putWitness r => (.written, l.putWitness r)
  | .adjustBalance a delta =>
      let (outcome, l') := (Update.adjustBalance a delta).run.runOn l
      (.adjusted outcome, l')

/-- Calls on an overlay, one after another: all replies, and the overlay that is left. -/
def Overlay.calls (o : Overlay) : List StoreCall → List StoreReply × Overlay
  | [] => ([], o)
  | c :: cs =>
      let (reply, o') := o.call c
      let (replies, o'') := o'.calls cs
      (reply :: replies, o'')

/-- Calls on a ledger, one after another: all replies, and the ledger that is left. -/
def Ledger.calls (l : Ledger) : List StoreCall → List StoreReply × Ledger
  | [] => ([], l)
  | c :: cs =>
      let (reply, l') := l.call c
      let (replies, l'') := l'.calls cs
      (reply :: replies, l'')

/-! ### One call -/

namespace Overlay

/-- **A call on an overlay gets the reply of the ledger that the overlay looks like.  The ledger
beneath stays, and the overlay looks like that ledger after the call.** -/
theorem call_view (o : Overlay) (c : StoreCall) :
    (o.call c).1 = (o.view.call c).1 ∧ (o.call c).2.view = (o.view.call c).2 ∧
      (o.call c).2.base = o.base := by
  cases c with
  | account a => exact ⟨congrArg _ (o.account?_view a).symm, rfl, rfl⟩
  | asset name => exact ⟨congrArg _ (o.asset?_view name).symm, rfl, rfl⟩
  | witness a => exact ⟨congrArg _ (o.witness?_view a).symm, rfl, rfl⟩
  | hasAccount a =>
      refine ⟨congrArg StoreReply.exists ?_, rfl, rfl⟩
      rw [← o.account?_view a]
      rfl
  | hasAsset name =>
      refine ⟨congrArg StoreReply.exists ?_, rfl, rfl⟩
      rw [← o.asset?_view name]
      rfl
  | hasWitness a =>
      refine ⟨congrArg StoreReply.exists ?_, rfl, rfl⟩
      rw [← o.witness?_view a]
      rfl
  | parameters => exact ⟨rfl, rfl, rfl⟩
  | sink => exact ⟨rfl, rfl, rfl⟩
  | putAccount r => exact ⟨rfl, o.view_putAccount r, rfl⟩
  | putAsset r => exact ⟨rfl, o.view_putAsset r, rfl⟩
  | putWitness r => exact ⟨rfl, o.view_putWitness r, rfl⟩
  | adjustBalance a delta =>
      obtain ⟨houtcome, hview⟩ := Update.runOver_view (Update.adjustBalance a delta).run o
      exact ⟨congrArg _ houtcome, hview, Update.runOver_base _ o⟩

end Overlay

/-! ### A refused change of a balance -/

/-- A change of a balance that is refused on an overlay buffers nothing. -/
theorem Overlay.call_of_refused {o : Overlay} {a : Address} {d : Int64} {e : StoreError}
    (h : (o.call (.adjustBalance a d)).1 = .adjusted (.error e)) :
    (o.call (.adjustBalance a d)).2 = o := by
  rw [Overlay.call, Update.run_adjustBalance] at h ⊢
  simp only [Update.runOver] at h ⊢
  cases hfound : o.account? a with
  | none => rfl
  | some r =>
      simp only [hfound] at h ⊢
      cases hadd : Amount.add r.balance d with
      | error e => rfl
      | ok b =>
          simp only [hadd] at h ⊢
          by_cases hneg : b < 0
          · rw [if_pos hneg]
            rfl
          · rw [if_neg hneg] at h
            cases h

/-- A change of a balance that is refused on a ledger writes nothing. -/
theorem Ledger.call_of_refused {l : Ledger} {a : Address} {d : Int64} {e : StoreError}
    (h : (l.call (.adjustBalance a d)).1 = .adjusted (.error e)) :
    (l.call (.adjustBalance a d)).2 = l := by
  obtain ⟨hreply, hview, -⟩ := (Overlay.on l).call_view (.adjustBalance a d)
  rw [Overlay.view_on] at hreply hview
  rw [← hview, Overlay.call_of_refused (hreply.trans h), Overlay.view_on]

/-! ### Calls one after another -/

/-- **A series of calls on an overlay gets the replies of the ledger that the overlay looks like.  The
ledger beneath stays, and the overlay looks like that ledger after the calls.** -/
theorem Overlay.calls_view (o : Overlay) (cs : List StoreCall) :
    (o.calls cs).1 = (o.view.calls cs).1 ∧ (o.calls cs).2.view = (o.view.calls cs).2 ∧
      (o.calls cs).2.base = o.base := by
  -- Each call leaves an overlay that looks like the ledger after the call, so the next one is a
  -- call on the same pair again.
  induction cs generalizing o with
  | nil => exact ⟨rfl, rfl, rfl⟩
  | cons c cs ih =>
      obtain ⟨hreply, hview, hbase⟩ := o.call_view c
      obtain ⟨hreplies, hviews, hbases⟩ := ih (o.call c).2
      rw [hview] at hreplies hviews
      refine ⟨?_, hviews, hbases.trans hbase⟩
      show (o.call c).1 :: ((o.call c).2.calls cs).1
        = (o.view.call c).1 :: ((o.view.call c).2.calls cs).1
      rw [hreply, hreplies]

/-- **Calls that are buffered over a ledger get the replies of the same calls made on the ledger
directly.  The ledger beneath stays as it is, and committing the batch to it leaves the ledger of the
direct calls.  A change of a balance that is refused after them leaves both sides as they are.** -/
theorem Overlay.calls_refine_direct (l : Ledger) (cs : List StoreCall) :
    ((Overlay.on l).calls cs).1 = (l.calls cs).1 ∧
      ((Overlay.on l).calls cs).2.base = l ∧
      Backing.commit l ((Overlay.on l).calls cs).2.batch = (.ok (), (l.calls cs).2) ∧
      ∀ a d e, (((Overlay.on l).calls cs).2.call (.adjustBalance a d)).1 = .adjusted (.error e) →
        (((Overlay.on l).calls cs).2.call (.adjustBalance a d)).2 = ((Overlay.on l).calls cs).2 ∧
          ((l.calls cs).2.call (.adjustBalance a d)).1 = .adjusted (.error e) ∧
          ((l.calls cs).2.call (.adjustBalance a d)).2 = (l.calls cs).2 := by
  obtain ⟨hreplies, hview, hbase⟩ := (Overlay.on l).calls_view cs
  rw [view_on] at hreplies hview
  refine ⟨hreplies, hbase, ?_, fun a d e h => ?_⟩
  · rw [Overlay.view, hbase] at hview
    exact congrArg (Prod.mk _) hview
  · obtain ⟨hreply, -, -⟩ := ((Overlay.on l).calls cs).2.call_view (.adjustBalance a d)
    rw [hview, h] at hreply
    exact ⟨Overlay.call_of_refused h, hreply.symm, Ledger.call_of_refused hreply.symm⟩

/-- Two accounts change their balance, the second twice, and then a third change is refused. -/
theorem Overlay.calls_refine_direct_small :
    let cs : List StoreCall := [.adjustBalance (.repeating 1) (-400),
      .adjustBalance (.repeating 2) 400, .hasAccount (.repeating 3),
      .adjustBalance (.repeating 2) (-100), .account (.repeating 2)]
    let o := ((Overlay.on .small).calls cs).2
    Backing.commit Ledger.small o.batch = (.ok (), (Ledger.small.calls cs).2) ∧
      (o.call (.adjustBalance (.repeating 2) (-801))).1
        = .adjusted (.error (.insufficientBalance (.repeating 2) 800 (-801))) ∧
      (o.call (.adjustBalance (.repeating 2) (-801))).2 = o := by
  intro cs o
  obtain ⟨-, -, hcommit, hrefused⟩ := Overlay.calls_refine_direct .small cs
  have hreply : (o.call (.adjustBalance (.repeating 2) (-801))).1
      = .adjusted (.error (.insufficientBalance (.repeating 2) 800 (-801))) := rfl
  exact ⟨hcommit, hreply, (hrefused _ _ _ hreply).1⟩

end AccountLedger
