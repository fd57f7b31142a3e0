/-
**Histories.**

A ledger has a history of contracts, each checked and carried out at its own time; a processor has a
history of calls.  What every single checked contract keeps is kept by every history of either kind.

Main definitions:

* `Entry`, `Ledger.after` — a contract at its time, and a ledger after a history of them;
* `Processor.Call`, `Processor.after` — a call of a processor, and a processor after a history of
  calls.

Main results:

* `Ledger.after_induction` — **what every checked contract keeps holds after every history**;
* `Ledger.sink_after`, `Ledger.parameters_after`, `Ledger.keyedByRecord_after` — such are the sink, the
  parameters and the keys;
* `Processor.after_induction`, `rebuild_induction` — and of the ledger of a processor, whatever bytes
  it is given, live or replayed.
-/

import AccountLedger.Processor
import AccountLedger.Proofs.Settlement

set_option relaxedAutoImplicit false
set_option autoImplicit false

namespace AccountLedger

/-! ### Histories of a ledger -/

/-- A contract and the time it is carried out at. -/
structure Entry where
  now : Int64
  contract : Contract
  deriving DecidableEq, Repr

namespace Ledger

/-- The ledger after a history of contracts, whatever becomes of each. -/
def after (l : Ledger) (policy : Policy) (history : List Entry) : Ledger :=
  history.foldl (fun l e => (Engine.apply e.contract ⟨e.now, policy⟩ l).2) l

/-- **What every checked contract keeps holds after every history.** -/
theorem after_induction {P : Ledger → Prop} {policy : Policy}
    (hstep : ∀ l now c, P l → P (Engine.apply c ⟨now, policy⟩ l).2) {l : Ledger} (hl : P l)
    (history : List Entry) : P (l.after policy history) := by
  induction history generalizing l with
  | nil => exact hl
  | cons e history ih => exact ih (hstep l e.now e.contract hl)

/-- No history changes the sink. -/
theorem sink_after (l : Ledger) (policy : Policy) (history : List Entry) :
    (l.after policy history).sink = l.sink :=
  after_induction (P := fun m => m.sink = l.sink)
    (fun _ _ _ h => Engine.fixed_apply.1.trans h) rfl history

/-- Nor the parameters. -/
theorem parameters_after (l : Ledger) (policy : Policy) (history : List Entry) :
    (l.after policy history).parameters = l.parameters :=
  after_induction (P := fun m => m.parameters = l.parameters)
    (fun _ _ _ h => Engine.fixed_apply.2.trans h) rfl history

/-- Every history keeps accounts under their own address. -/
theorem accountsKeyed_after {l : Ledger} (hl : l.AccountsKeyed) (policy : Policy)
    (history : List Entry) : (l.after policy history).AccountsKeyed :=
  after_induction (fun _ _ _ hm => Engine.accountsKeyed_apply hm) hl history

/-- And every record under its own key. -/
theorem keyedByRecord_after {l : Ledger} (hl : l.KeyedByRecord) (policy : Policy)
    (history : List Entry) : (l.after policy history).KeyedByRecord :=
  after_induction (fun _ _ _ hm => Engine.keyedByRecord_apply hm) hl history

end Ledger

/-! ### Histories of a processor -/

namespace Processor

/-- What a processor can be asked for. -/
inductive Call
  | process (now : Int64) (bytes : Bytes)
  | rotate
  deriving DecidableEq, Repr

/-- The processor after a call. -/
def afterCall (p : Processor) : Call → Processor
  | .process now bytes => (p.process now bytes).2
  | .rotate => p.rotate

/-- The processor after a history of calls. -/
def after (p : Processor) (history : List Call) : Processor := history.foldl afterCall p

/-- A transaction keeps the policy, and leaves the ledger as it is or as one checked contract does. -/
theorem submit_cases (p : Processor) (now : Int64) (t : Transaction) :
    (p.submit now t).2.policy = p.policy ∧ ((p.submit now t).2.ledger = p.ledger ∨
      ∃ c, (p.submit now t).2.ledger = (Engine.apply c ⟨now, p.policy⟩ p.ledger).2) := by
  unfold submit
  split
  · exact ⟨rfl, .inl rfl⟩
  · split
    · exact ⟨rfl, .inl rfl⟩
    · split
      · exact ⟨rfl, .inl rfl⟩
      · next c _ => exact ⟨rfl, .inr ⟨c, rfl⟩⟩

section

variable {P : Ledger → Prop} {policy : Policy}
  (hstep : ∀ l now c, P l → P (Engine.apply c ⟨now, policy⟩ l).2)

include hstep

/-- One transaction, whatever becomes of it. -/
theorem submit_step {p : Processor} (hpolicy : p.policy = policy) (hp : P p.ledger) (now : Int64)
    (t : Transaction) : (p.submit now t).2.policy = policy ∧ P (p.submit now t).2.ledger := by
  obtain ⟨hsame, hledger⟩ := p.submit_cases now t
  refine ⟨hsame.trans hpolicy, ?_⟩
  rcases hledger with h | ⟨c, h⟩
  · rw [h]
    exact hp
  · rw [h, hpolicy]
    exact hstep p.ledger now c hp

/-- **What every checked contract keeps holds of a processor's ledger** after every history of
calls. -/
theorem after_induction {p : Processor} (hpolicy : p.policy = policy) (hp : P p.ledger)
    (history : List Call) : P (p.after history).ledger := by
  induction history generalizing p with
  | nil => exact hp
  | cons call history ih =>
      cases call with
      | rotate => exact ih (p := p.rotate) hpolicy hp
      | process now bytes =>
          have hnext : (p.process now bytes).2.policy = policy ∧
              P (p.process now bytes).2.ledger := by
            unfold process
            split
            · exact ⟨hpolicy, hp⟩
            · exact submit_step hstep hpolicy hp now _
          exact ih hnext.1 hnext.2

/-- The same of a row of transactions that is replayed. -/
theorem replay_induction {p : Processor} (hpolicy : p.policy = policy) (hp : P p.ledger)
    (log : List Bytes) : P (log.foldl replay p).ledger := by
  induction log generalizing p with
  | nil => exact hp
  | cons bytes log ih =>
      have hnext : (p.replay bytes).policy = policy ∧ P (p.replay bytes).ledger := by
        unfold replay
        split
        · exact ⟨hpolicy, hp⟩
        · exact submit_step hstep hpolicy hp _ _
      exact ih hnext.1 hnext.2

end

end Processor

/-- **What every checked contract keeps holds of a ledger that is rebuilt from a row of
transactions.** -/
theorem rebuild_induction {P : Ledger → Prop} {policy : Policy}
    (hstep : ∀ l now c, P l → P (Engine.apply c ⟨now, policy⟩ l).2) {genesis l : Ledger}
    (hgenesis : P genesis) {log : List Bytes} (h : rebuild genesis policy log = .ok l) : P l := by
  unfold rebuild at h
  cases hseen : Generations.ofSizing (.ofLog log.length) with
  | error e => rw [hseen] at h; cases h
  | ok seen =>
      rw [hseen] at h
      cases h
      exact Processor.replay_induction hstep rfl hgenesis log

/-- What is rebuilt comes with its state hash. -/
theorem rebuildState_eq_ok_iff {genesis l : Ledger} {policy : Policy} {log : List Bytes}
    {hash : String} :
    rebuildState genesis policy log = .ok (l, hash) ↔
      rebuild genesis policy log = .ok l ∧ hash = l.stateHash := by
  unfold rebuildState
  cases rebuild genesis policy log with
  | error e => exact ⟨nofun, nofun⟩
  | ok m =>
      constructor
      · intro h
        cases h
        exact ⟨rfl, rfl⟩
      · rintro ⟨h, rfl⟩
        cases h
        rfl

end AccountLedger
