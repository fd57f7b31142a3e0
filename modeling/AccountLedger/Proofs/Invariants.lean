/-
**What every history keeps.**

A consistent ledger stays consistent through every history of checked contracts, whatever becomes of
each of them, and the native units never change.

Main definitions:

* `Ledger.Regular` — consistent, with parameters under which freezing earns no negative bandwidth.

Main results:

* `Ledger.Regular.apply`, `Ledger.Regular.after` — one checked contract, and a history of them, keep a
  ledger regular;
* `Ledger.check_after` — **every history of contracts, calls or replayed transactions ends in a
  consistent ledger**;
* `Ledger.nativeUnits_conserved` — **no contract changes the native units, and the checked total is
  the same after every history.**
-/

import AccountLedger.Proofs.Conservation
import AccountLedger.Proofs.History
import AccountLedger.Proofs.Soundness

set_option relaxedAutoImplicit false
set_option autoImplicit false

namespace AccountLedger

namespace Ledger

/-- The ledger is consistent, and freezing for an allowed time earns no negative bandwidth. -/
structure Regular (l : Ledger) : Prop extends Consistent l where
  rate : 0 ≤ l.parameters.bandwidthPerCoinDay.toInt
  time : 0 ≤ l.parameters.minFrozenTime.toInt

variable {l : Ledger} {policy : Policy}

theorem regular_of_check (hl : l.check = .ok ()) (hrate : 0 ≤ l.parameters.bandwidthPerCoinDay)
    (htime : 0 ≤ l.parameters.minFrozenTime) : l.Regular :=
  ⟨check_eq_ok_iff.1 hl, Int64.le_iff_toInt_le.1 hrate, Int64.le_iff_toInt_le.1 htime⟩

/-- One checked contract keeps a ledger regular. -/
theorem Regular.apply (h : l.Regular) (hfee : 0 ≤ policy.fees.transfer.toInt) (now : Int64)
    (c : Contract) : (Engine.apply c ⟨now, policy⟩ l).2.Regular := by
  obtain ⟨-, hparameters⟩ := @Engine.fixed_apply c ⟨now, policy⟩ l
  have hunits : (Engine.apply c ⟨now, policy⟩ l).2.nativeUnits = l.nativeUnits :=
    Engine.nativeUnits_apply h.accountsKeyed hfee
  refine ⟨⟨Engine.structured_apply h.toStructured h.rate h.time, ?_⟩, ?_, ?_⟩
  · rw [hunits]
    exact h.supply
  · rw [hparameters]
    exact h.rate
  · rw [hparameters]
    exact h.time

/-- A history of contracts keeps a ledger regular and its native units what they were. -/
theorem Regular.after (h : l.Regular) (hfee : 0 ≤ policy.fees.transfer.toInt)
    (history : List Entry) :
    (l.after policy history).Regular ∧ (l.after policy history).nativeUnits = l.nativeUnits := by
  have hstep (m : Ledger) (now : Int64) (c : Contract)
      (hm : m.Regular ∧ m.nativeUnits = l.nativeUnits) :
      (Engine.apply c ⟨now, policy⟩ m).2.Regular ∧
        (Engine.apply c ⟨now, policy⟩ m).2.nativeUnits = l.nativeUnits := by
    have hunits : (Engine.apply c ⟨now, policy⟩ m).2.nativeUnits = m.nativeUnits :=
      Engine.nativeUnits_apply hm.1.accountsKeyed hfee
    exact ⟨hm.1.apply hfee now c, hunits.trans hm.2⟩
  exact after_induction (P := fun m => m.Regular ∧ m.nativeUnits = l.nativeUnits) hstep ⟨h, rfl⟩
    history

/-- **Every history ends in a consistent ledger**, whatever becomes of each contract on the way: a
history of contracts, of calls of a processor, or of transactions that are replayed. -/
theorem check_after (hl : l.check = .ok ()) (hrate : 0 ≤ l.parameters.bandwidthPerCoinDay)
    (htime : 0 ≤ l.parameters.minFrozenTime) (hfee : 0 ≤ policy.fees.transfer) :
    (∀ history : List Entry, (l.after policy history).check = .ok ()) ∧
    (∀ (seen : Generations) (calls : List Processor.Call),
      (Processor.after ⟨policy, l, seen⟩ calls).ledger.check = .ok ()) ∧
    (∀ (log : List Bytes) (l' : Ledger) (hash : String),
      rebuildState l policy log = .ok (l', hash) → l'.check = .ok ()) := by
  have hregular := regular_of_check hl hrate htime
  have hfee := Int64.le_iff_toInt_le.1 hfee
  have hstep (m : Ledger) (now : Int64) (c : Contract) (hm : m.Regular) :
      (Engine.apply c ⟨now, policy⟩ m).2.Regular := hm.apply hfee now c
  refine ⟨fun history => ?_, fun seen calls => ?_, fun log l' hash h => ?_⟩
  · exact check_eq_ok_iff.2 (hregular.after hfee history).1.toConsistent
  · exact check_eq_ok_iff.2
      (Processor.after_induction hstep (p := ⟨policy, l, seen⟩) rfl hregular calls).toConsistent
  · have hrebuilt := (rebuildState_eq_ok_iff.1 h).1
    exact check_eq_ok_iff.2 (rebuild_induction hstep hregular hrebuilt).toConsistent

/-- The small ledger, with no fees. -/
theorem check_after_small :
    small.check = .ok () ∧ 0 ≤ small.parameters.bandwidthPerCoinDay ∧
      0 ≤ small.parameters.minFrozenTime ∧ 0 ≤ ({} : Policy).fees.transfer ∧
      ∀ history : List Entry, (small.after {} history).check = .ok () :=
  ⟨check_small, by decide, by decide, by decide,
    (check_after check_small (by decide) (by decide) (by decide)).1⟩

/-- **No contract changes the native units**, whatever becomes of it.  Nor does one that is not
checked first, unless it opens an account over an existing one.  So the checked total of a consistent
ledger is the same after every history. -/
theorem nativeUnits_conserved (hfee : 0 ≤ policy.fees.transfer) :
    (∀ l : Ledger, l.AccountsKeyed → ∀ (now : Int64) (c : Contract),
      (Engine.apply c ⟨now, policy⟩ l).2.nativeUnits = l.nativeUnits ∧
      (¬ c.Reopens ⟨now, policy⟩ l →
        (Engine.run c ⟨now, policy⟩ l).2.nativeUnits = l.nativeUnits)) ∧
    (∀ l : Ledger, l.check = .ok () → 0 ≤ l.parameters.bandwidthPerCoinDay →
      0 ≤ l.parameters.minFrozenTime → ∃ n : Int64, n.toInt = l.nativeUnits ∧
        ∀ history : List Entry, (l.after policy history).totalNative = some n) := by
  have hfee := Int64.le_iff_toInt_le.1 hfee
  refine ⟨fun l hl now c => ⟨Engine.nativeUnits_apply hl hfee, fun hopen => ?_⟩,
    fun l hl hrate htime => ?_⟩
  · exact Engine.leaves_run.nativeUnits hl hfee hopen
  · have hregular := regular_of_check hl hrate htime
    obtain ⟨n, hn⟩ := Option.isSome_iff_exists.1 (hregular.isSome_totalNative_iff.2 hregular.supply)
    have hexact := hregular.totalNative_eq_some_iff.1 hn
    refine ⟨n, hexact, fun history => ?_⟩
    obtain ⟨hafter, hunits⟩ := hregular.after hfee history
    exact hafter.totalNative_eq_some_iff.2 (hexact.trans hunits.symm)

/-- A transfer of a negative amount that is not checked goes through, and moves its amount back. -/
theorem nativeUnits_conserved_small :
    0 ≤ ({} : Policy).fees.transfer ∧ small.AccountsKeyed ∧
      (Engine.run (.transfer ⟨(Address.repeating 1).bytes, (Address.repeating 2).bytes, -5⟩)
        ⟨0, {}⟩ small).1 = .ok ⟨0, .success⟩ ∧
      (Engine.run (.transfer ⟨(Address.repeating 1).bytes, (Address.repeating 2).bytes, -5⟩)
        ⟨0, {}⟩ small).2.nativeUnits = small.nativeUnits :=
  have hkeyed := (check_eq_ok_iff.1 check_small).accountsKeyed
  ⟨by decide, hkeyed, rfl, ((nativeUnits_conserved (by decide)).1 small hkeyed 0 _).2 nofun⟩

end Ledger

end AccountLedger
