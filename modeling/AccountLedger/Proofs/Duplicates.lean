/-
**A transaction is admitted once in two cycles.**

An admitted transaction is remembered by the name of what is signed in it.  The name stays in the
filters until the second following rotation, so whatever decodes to the same signed data is refused
as a duplicate until then.  A transaction that is refused, for whatever reason, leaves no trace.

Main definitions:

* `Generations.Remembers` — where a key still is, a number of rotations after it was inserted;
* `Processor.wasAdmitted` — the answers after which a transaction is remembered.

Main results:

* `Processor.eq_of_refused` — **a refused transaction leaves the processor as it is**;
* `Processor.process_of_admitted` — an admitted one was new, and is remembered;
* `Processor.remembers_after` — a history keeps a name in the filters for two rotations;
* `Processor.admitted_once` — **two admissions of the same signed data are two rotations apart.**
-/

import AccountLedger.Proofs.Consistency
import AccountLedger.Proofs.History
import AccountLedger.Proofs.Settlement

set_option relaxedAutoImplicit false
set_option autoImplicit false

namespace AccountLedger

/-! ### Filters -/

namespace Bloom

/-- An inserted key is reported. -/
theorem contains_insert_self (b : Bloom) (key : Bytes) : (b.insert key).contains key = true :=
  contains_iff.2 fun n hn => (mem_marks_insert b key n).2 (.inl hn)

/-- And so is every key that was reported before. -/
theorem contains_insert {b : Bloom} {key : Bytes} (h : b.contains key = true) (other : Bytes) :
    (b.insert other).contains key = true :=
  contains_iff.2 fun n hn => (mem_marks_insert b other n).2 (.inr (contains_iff.1 h n hn))

end Bloom

namespace Generations

variable {g : Generations} {key : Bytes}

/-- Where a key still is, a number of rotations after it was inserted: in the current filter, then in
the previous one, then nowhere for sure. -/
def Remembers (g : Generations) (key : Bytes) : Nat → Prop
  | 0 => g.current.contains key = true
  | 1 => g.previous.contains key = true
  | _ + 2 => True

theorem remembers_insert_self (g : Generations) (key : Bytes) :
    (g.insert key).Remembers key 0 := g.current.contains_insert_self key

theorem Remembers.insert {rotations : Nat} (h : g.Remembers key rotations) (other : Bytes) :
    (g.insert other).Remembers key rotations := by
  match rotations, h with
  | 0, h => exact Bloom.contains_insert h other
  | 1, h => exact h
  | _ + 2, _ => exact trivial

theorem Remembers.rotate {rotations : Nat} (h : g.Remembers key rotations) :
    g.rotate.Remembers key (rotations + 1) := by
  match rotations, h with
  | 0, h => exact h
  | _ + 1, _ => exact trivial

/-- A key is reported until the second following rotation. -/
theorem Remembers.contains {rotations : Nat} (h : g.Remembers key rotations)
    (hlt : rotations < 2) : g.contains key = true := by
  rw [Generations.contains, Bool.or_eq_true]
  match rotations, h with
  | 0, h => exact .inl h
  | 1, h => exact .inr h

end Generations

/-! ### Contracts that are not admitted -/

/-- A contract that is neither carried out nor failed leaves the ledger as it is. -/
theorem Engine.eq_of_not_admitted {c : Contract} {ctx : Context} {l : Ledger}
    (h : Processor.isAdmitted (apply c ctx l).1 = false) : (apply c ctx l).2 = l := by
  by_cases hc : c.Admissible ctx l
  · rw [apply_of_admissible hc] at h ⊢
    have hruns := runs_run c ctx l
    revert h hruns
    rcases run c ctx l with ⟨result, l'⟩
    intro h hruns
    cases hruns with
    | succeeded _ done => cases h
    | notCommitted e m done => rfl
    | failed fault stopped => cases h
  · obtain ⟨reason, hrejected⟩ := apply_of_not_admissible hc
    rw [hrejected]

namespace Processor

/-! ### One transaction -/

/-- Is this the answer to a transaction that was admitted, whether its contract succeeded or
failed? -/
def wasAdmitted : Except Refused Admission → Bool
  | .ok _ => true
  | .error (.contract (.failed _ _)) => true
  | .error _ => false

variable {p : Processor} {now : Int64}

theorem wasAdmitted_carryOut {id : Bytes} {c : Contract} :
    wasAdmitted (p.carryOut now id c).1 = isAdmitted (Engine.apply c ⟨now, p.policy⟩ p.ledger).1 := by
  unfold carryOut
  rcases Engine.apply c ⟨now, p.policy⟩ p.ledger with ⟨result, l⟩
  rcases result with (reason | ⟨receipt, fault⟩ | e) | receipt <;> rfl

theorem carryOut_of_refused {id : Bytes} {c : Contract}
    (h : wasAdmitted (p.carryOut now id c).1 = false) : (p.carryOut now id c).2 = p := by
  rw [wasAdmitted_carryOut] at h
  have hledger := Engine.eq_of_not_admitted h
  simp only [carryOut, h, hledger, Bool.false_eq_true, if_false]

theorem carryOut_of_admitted {id : Bytes} {c : Contract}
    (h : wasAdmitted (p.carryOut now id c).1 = true) :
    (p.carryOut now id c).2.seen = p.seen.insert id := by
  rw [wasAdmitted_carryOut] at h
  simp only [carryOut, h, if_true]

/-- What can become of a transaction: it is refused and leaves the processor as it is, or it carries
one contract under a name that is not reported, and the contract is run. -/
theorem submit_eq_or (p : Processor) (now : Int64) (t : Transaction) :
    (wasAdmitted (p.submit now t).1 = false ∧ (p.submit now t).2 = p) ∨
    ∃ (raw : RawData) (e : Envelope) (c : Contract), t.rawData = some raw ∧ raw.contracts = [e] ∧
      p.seen.contains raw.id = false ∧ p.submit now t = p.carryOut now raw.id c := by
  unfold submit
  split
  · next e he =>
      refine .inl ⟨?_, rfl⟩
      -- The causes that `single` names are not admissions.
      unfold single at he
      split at he
      · cases he
        rfl
      · split at he
        · cases he
        · cases he
          rfl
  · next raw e he =>
      obtain ⟨hraw, hone⟩ : t.rawData = some raw ∧ raw.contracts = [e] := by
        unfold single at he
        split at he
        · cases he
        · next hraw =>
            split at he
            · next hone =>
                cases he
                exact ⟨hraw, hone⟩
            · cases he
      split
      · exact .inl ⟨rfl, rfl⟩
      · next hnew =>
          split
          · exact .inl ⟨rfl, rfl⟩
          · next c _ => exact .inr ⟨raw, e, c, hraw, hone, Bool.eq_false_iff.2 hnew, rfl⟩

variable {bytes : Bytes} {t : Transaction}

theorem process_of_decode? (h : Message.decode? bytes = some t) :
    p.process now bytes = p.submit now t := by
  rw [process, h]

/-- **A refused transaction leaves the processor as it is**, whatever the reason. -/
theorem eq_of_refused (h : wasAdmitted (p.process now bytes).1 = false) :
    (p.process now bytes).2 = p := by
  cases hdecode : (Message.decode? bytes : Option Transaction) with
  | none => rw [process, hdecode]
  | some t =>
      rw [process_of_decode? hdecode] at h ⊢
      rcases p.submit_eq_or now t with ⟨-, hsame⟩ | ⟨raw, e, c, -, -, -, hrun⟩
      · exact hsame
      · rw [hrun] at h ⊢
        exact carryOut_of_refused h

/-- An admitted transaction carries one contract under a name that was not reported, and the name is
remembered. -/
theorem process_of_admitted (hdecode : Message.decode? bytes = some t)
    (h : wasAdmitted (p.process now bytes).1 = true) :
    ∃ (raw : RawData) (e : Envelope), t.rawData = some raw ∧ raw.contracts = [e] ∧
      p.seen.contains raw.id = false ∧ (p.process now bytes).2.seen = p.seen.insert raw.id := by
  rw [process_of_decode? hdecode] at h ⊢
  rcases p.submit_eq_or now t with ⟨hrefused, -⟩ | ⟨raw, e, c, hraw, hone, hnew, hrun⟩
  · rw [hrefused] at h
    cases h
  · rw [hrun] at h ⊢
    exact ⟨raw, e, hraw, hone, hnew, carryOut_of_admitted h⟩

/-- A transaction whose name is reported is a duplicate. -/
theorem process_of_seen {raw : RawData} {e : Envelope} (hdecode : Message.decode? bytes = some t)
    (hraw : t.rawData = some raw) (hone : raw.contracts = [e])
    (hseen : p.seen.contains raw.id = true) :
    p.process now bytes = (.error (.duplicate raw.id), p) := by
  have hsingle : single t = .ok (raw, e) := by
    simp only [single, hraw, hone]
  rw [process_of_decode? hdecode, submit, hsingle]
  simp only [hseen, if_true]

/-! ### Histories -/

/-- A call keeps a name where it is; a rotation moves it on. -/
theorem remembers_afterCall {key : Bytes} {rotations : Nat}
    (h : p.seen.Remembers key rotations) (call : Call) :
    (p.afterCall call).seen.Remembers key (rotations + [call].count .rotate) := by
  cases call with
  | rotate => exact h.rotate
  | process now bytes =>
      show (p.process now bytes).2.seen.Remembers key rotations
      cases hadmitted : wasAdmitted (p.process now bytes).1 with
      | false =>
          rw [eq_of_refused hadmitted]
          exact h
      | true =>
          cases hdecode : (Message.decode? bytes : Option Transaction) with
          | none =>
              rw [process, hdecode] at hadmitted
              cases hadmitted
          | some t =>
              obtain ⟨raw, e, -, -, -, hseen⟩ := process_of_admitted hdecode hadmitted
              rw [hseen]
              exact h.insert raw.id

/-- **A history moves a name on by its rotations**, whatever is processed between them. -/
theorem remembers_after {key : Bytes} {rotations : Nat} (h : p.seen.Remembers key rotations)
    (history : List Call) :
    (p.after history).seen.Remembers key (rotations + history.count .rotate) := by
  induction history generalizing p rotations with
  | nil => exact h
  | cons call history ih =>
      have hnext := ih (remembers_afterCall h call)
      rw [Nat.add_assoc, ← List.count_append, List.singleton_append] at hnext
      exact hnext

/-- A processor of the small ledger, with filters of a single word. -/
def small : Processor := ⟨{}, Ledger.small, .empty ⟨64, 1, by decide, by decide⟩⟩

/-- A transfer within the small ledger. -/
def sample : Transaction :=
  .wrap (.transfer ⟨(Address.repeating 1).bytes, (Address.repeating 2).bytes, 5⟩) 0 0

/-- **At most once in two cycles.**  Any processor, whatever it has been through: a transaction that
is refused leaves it as it is, its ledger and its filters.  Once a transaction is admitted, whatever
decodes to the same signed data is refused as a duplicate until there have been two rotations, no
matter what else is processed meanwhile. -/
theorem admitted_once (p : Processor) :
    (∀ (now : Int64) (bytes : Bytes), wasAdmitted (p.process now bytes).1 = false →
      (p.process now bytes).2 = p) ∧
    (∀ (now later : Int64) (bytes again : Bytes) (t t' : Transaction) (between : List Call),
      Message.decode? bytes = some t → Message.decode? again = some t' →
      t'.rawData = t.rawData → wasAdmitted (p.process now bytes).1 = true →
      (between.count .rotate < 2 → ∃ raw, t.rawData = some raw ∧
        ((p.process now bytes).2.after between).process later again
          = (.error (.duplicate raw.id), (p.process now bytes).2.after between)) ∧
      (wasAdmitted (((p.process now bytes).2.after between).process later again).1 = true →
        2 ≤ between.count .rotate)) := by
  refine ⟨fun now bytes h => eq_of_refused h, ?_⟩
  intro now later bytes again t t' between hdecode hagain hsame hadmitted
  obtain ⟨raw, e, hraw, hone, -, hseen⟩ := process_of_admitted hdecode hadmitted
  have hinserted : (p.process now bytes).2.seen.Remembers raw.id 0 := by
    rw [hseen]
    exact Generations.remembers_insert_self p.seen raw.id
  have hremembered := remembers_after hinserted between
  rw [Nat.zero_add] at hremembered
  have hduplicate (hfew : between.count .rotate < 2) :
      ((p.process now bytes).2.after between).process later again
        = (.error (.duplicate raw.id), (p.process now bytes).2.after between) :=
    process_of_seen hagain (hsame.trans hraw) hone (hremembered.contains hfew)
  refine ⟨fun hfew => ⟨raw, hraw, hduplicate hfew⟩, fun hsecond => ?_⟩
  rcases Nat.lt_or_ge (between.count .rotate) 2 with hfew | hmany
  · rw [hduplicate hfew] at hsecond
    cases hsecond
  · exact hmany

/-- A transfer is carried out; with a signature added it is a duplicate one rotation later. -/
theorem admitted_once_small : ∃ (p : Processor) (t signed : Transaction),
    Message.decode? (Message.encode t) = some t ∧
    Message.decode? (Message.encode signed) = some signed ∧
    signed ≠ t ∧ signed.rawData = t.rawData ∧
    wasAdmitted (p.process 0 (Message.encode t)).1 = true ∧
    ∃ raw, t.rawData = some raw ∧
      ((p.process 0 (Message.encode t)).2.after [.rotate]).process 1 (Message.encode signed)
        = (.error (.duplicate raw.id), (p.process 0 (Message.encode t)).2.after [.rotate]) := by
  have hdecode : Message.decode? (Message.encode sample) = some sample := by decide +kernel
  have hsigned : Message.decode? (Message.encode { sample with signatures := [[7]] })
      = some { sample with signatures := [[7]] } := by decide +kernel
  have hadmitted : wasAdmitted (small.process 0 (Message.encode sample)).1 = true := by
    decide +kernel
  have hne : { sample with signatures := [[7]] } ≠ sample := by
    intro h
    cases congrArg Transaction.signatures h
  refine ⟨small, sample, _, hdecode, hsigned, hne, rfl, hadmitted, ?_⟩
  exact ((admitted_once small).2 0 1 _ _ sample _ [.rotate] hdecode hsigned rfl hadmitted).1
    (by decide)

end Processor

end AccountLedger
