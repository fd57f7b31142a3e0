/-
**Replaying reproduces what was processed live.**

A processor that runs live forgets names by rotating its filters; a replay has a filter of another
size and never rotates.  The two answer alike as long as neither filter reports a transaction that
was never admitted: what is refused leaves no trace, and what is admitted is admitted by both.  For
the same reason refused transactions can be left out of what is replayed.

Main definitions:

* `Processor.Call.looksUp?`, `Processor.admissions` — the signed data whose name a call looks up, and
  the signed data that a history admits;
* `Processor.NoFalseReport` — whatever is reported during a history was admitted before;
* `Processor.Shortens` — a history without its rotations and without some of what is refused in it;
* `Processor.start` — a processor that has seen nothing.

Main results:

* `Processor.process_congr` — two processors that agree on a name answer alike;
* `Processor.Shortens.ledger_eq` — **a shortened history ends in the same ledger**;
* `Processor.rebuild_reproduces` — **a replay ends in the ledger of the live run**, and so does one
  of a shortened log.
-/

import AccountLedger.Ledger.Canonical
import AccountLedger.Proofs.Duplicates

set_option relaxedAutoImplicit false
set_option autoImplicit false

namespace AccountLedger

namespace Processor

/-! ### What calls look up and admit -/

/-- The signed data of a transaction that is given as bytes. -/
def signed? (bytes : Bytes) : Option RawData :=
  (Message.decode? bytes : Option Transaction).bind Transaction.rawData

namespace Call

/-- The signed data whose name a call looks up: there is one if it comes with a single contract. -/
def looksUp? : Call → Option RawData
  | .process _ bytes =>
      (Message.decode? bytes : Option Transaction).bind fun t =>
        (single t).toOption.map Prod.fst
  | .rotate => none

/-- The bytes that a call submits. -/
def bytes? : Call → Option Bytes
  | .process _ bytes => some bytes
  | .rotate => none

/-- The call submits a transaction at the time that this states, if it states one. -/
def OnTime : Call → Prop
  | .process now bytes => ∀ raw ∈ signed? bytes, now = raw.timestamp
  | .rotate => True

instance : DecidablePred OnTime
  | .process now bytes => inferInstanceAs (Decidable (∀ raw ∈ signed? bytes, now = raw.timestamp))
  | .rotate => inferInstanceAs (Decidable True)

/-- The call that submits a transaction at the time it states. -/
def stated (bytes : Bytes) : Call :=
  .process ((signed? bytes).elim 0 RawData.timestamp) bytes

end Call

/-- The signed data that a call admits. -/
def admitted? (p : Processor) : Call → Option RawData
  | .process now bytes => if wasAdmitted (p.process now bytes).1 then signed? bytes else none
  | .rotate => none

/-- The signed data that a history admits, in order. -/
def admissions (p : Processor) : List Call → List RawData
  | [] => []
  | call :: history => (p.admitted? call).toList ++ (p.afterCall call).admissions history

/-- Throughout a history nothing is reported that is not `known` and was not admitted before.  A
report of anything else is a false one, be it that the positions of two names coincide or the names
of two rows of signed data. -/
def NoFalseReport (p : Processor) (known : List RawData) : List Call → Prop
  | [] => True
  | call :: history =>
      (∀ raw ∈ call.looksUp?, p.seen.contains raw.id = true → raw ∈ known) ∧
        (p.afterCall call).NoFalseReport (known ++ (p.admitted? call).toList) history

instance decidableNoFalseReport (p : Processor) (known : List RawData) :
    (history : List Call) → Decidable (p.NoFalseReport known history)
  | [] => inferInstanceAs (Decidable True)
  | call :: history =>
      have := decidableNoFalseReport (p.afterCall call) (known ++ (p.admitted? call).toList) history
      inferInstanceAs (Decidable (_ ∧ _))

/-! ### One transaction in two processors -/

variable {p r : Processor} {now : Int64} {bytes : Bytes}

theorem signed?_of_looksUp? {raw : RawData} (h : (Call.process now bytes).looksUp? = some raw) :
    signed? bytes = some raw := by
  obtain ⟨t, hdecode, hsingle⟩ := Option.bind_eq_some_iff.1 h
  rw [signed?, hdecode, Option.bind_some]
  unfold single at hsingle
  split at hsingle
  · cases hsingle
  · next hraw =>
      split at hsingle
      · cases hsingle
        exact hraw
      · cases hsingle

/-- A call that looks up nothing admits nothing. -/
theorem wasAdmitted_of_looksUp?_eq_none (h : (Call.process now bytes).looksUp? = none) :
    wasAdmitted (p.process now bytes).1 = false := by
  cases hdecode : (Message.decode? bytes : Option Transaction) with
  | none => rw [process, hdecode]; rfl
  | some t =>
      rw [process_of_decode? hdecode]
      rcases p.submit_eq_or now t with ⟨hrefused, -⟩ | ⟨raw, e, c, hraw, hone, -, -⟩
      · exact hrefused
      · rw [Call.looksUp?, hdecode, Option.bind_some, single, hraw] at h
        simp only [hone] at h
        cases h

theorem policy_process (p : Processor) (now : Int64) (bytes : Bytes) :
    (p.process now bytes).2.policy = p.policy := by
  unfold process
  split
  · rfl
  · exact (p.submit_cases now _).1

/-- **Two processors that agree on a name answer alike**, and their ledgers stay the same. -/
theorem process_congr (hpolicy : p.policy = r.policy) (hledger : p.ledger = r.ledger)
    (hseen : ∀ raw ∈ (Call.process now bytes).looksUp?,
      p.seen.contains raw.id = r.seen.contains raw.id) :
    (p.process now bytes).1 = (r.process now bytes).1 ∧
      (p.process now bytes).2.ledger = (r.process now bytes).2.ledger := by
  unfold process
  cases hdecode : (Message.decode? bytes : Option Transaction) with
  | none => exact ⟨rfl, hledger⟩
  | some t =>
      simp only [submit]
      cases hsingle : single t with
      | error e => exact ⟨rfl, hledger⟩
      | ok found =>
          obtain ⟨raw, e⟩ := found
          have hsame : p.seen.contains raw.id = r.seen.contains raw.id := by
            refine hseen raw ?_
            rw [Call.looksUp?, hdecode, Option.bind_some, hsingle]
            rfl
          simp only [hsame]
          split
          · exact ⟨rfl, hledger⟩
          · cases e.unpack with
            | error reason => exact ⟨rfl, hledger⟩
            | ok c =>
                simp only [carryOut, hpolicy, hledger, and_self]

/-- What is admitted is reported from then on, until there is a rotation. -/
theorem contains_of_admitted? {raw : RawData}
    (h : p.admitted? (.process now bytes) = some raw) :
    (p.process now bytes).2.seen.current.contains raw.id = true := by
  rw [admitted?] at h
  split at h
  · next hadmitted =>
      obtain ⟨t, hdecode, hraw⟩ := Option.bind_eq_some_iff.1 h
      obtain ⟨raw', e, hraw', -, -, hseen⟩ := process_of_admitted hdecode hadmitted
      cases hraw.symm.trans hraw'
      rw [hseen]
      exact Generations.remembers_insert_self p.seen raw.id
  · cases h

/-- What is admitted was not reported. -/
theorem not_contains_of_admitted? {raw : RawData}
    (h : p.admitted? (.process now bytes) = some raw) : p.seen.contains raw.id = false := by
  rw [admitted?] at h
  split at h
  · next hadmitted =>
      obtain ⟨t, hdecode, hraw⟩ := Option.bind_eq_some_iff.1 h
      obtain ⟨raw', e, hraw', -, hnew, -⟩ := process_of_admitted hdecode hadmitted
      cases hraw.symm.trans hraw'
      exact hnew
  · cases h

/-- What the current filter reports stays reported, and what a call admits is reported too. -/
theorem contains_afterCall {known : List RawData}
    (hknown : ∀ raw ∈ known, p.seen.current.contains raw.id = true) :
    ∀ raw ∈ known ++ (p.admitted? (.process now bytes)).toList,
      (p.process now bytes).2.seen.current.contains raw.id = true := by
  intro raw hraw
  rcases List.mem_append.1 hraw with hraw | hraw
  · have hreported : p.seen.Remembers raw.id 0 := hknown raw hraw
    exact remembers_afterCall hreported (.process now bytes)
  · exact contains_of_admitted? (Option.mem_toList.1 hraw)

/-- **Two processors with the same ledger do the same with a transaction**, however their filters
differ, if neither makes a false report and the first does not admit what it has admitted before. -/
theorem process_agrees {known : List RawData} {later : Int64} (hpolicy : p.policy = r.policy)
    (hledger : p.ledger = r.ledger)
    (hknown : ∀ raw ∈ known, r.seen.current.contains raw.id = true)
    (htime : ∀ raw ∈ signed? bytes, now = later)
    (hp : ∀ raw ∈ (Call.process now bytes).looksUp?, p.seen.contains raw.id = true → raw ∈ known)
    (hr : ∀ raw ∈ (Call.process now bytes).looksUp?, r.seen.contains raw.id = true → raw ∈ known)
    (honce : ∀ raw ∈ p.admitted? (.process now bytes), raw ∉ known) :
    p.admitted? (.process now bytes) = r.admitted? (.process later bytes) ∧
      (p.process now bytes).2.ledger = (r.process later bytes).2.ledger := by
  -- Where both refuse, nothing happens on either side.
  have hrefused (h₁ : wasAdmitted (p.process now bytes).1 = false)
      (h₂ : wasAdmitted (r.process later bytes).1 = false) :
      p.admitted? (.process now bytes) = r.admitted? (.process later bytes) ∧
        (p.process now bytes).2.ledger = (r.process later bytes).2.ledger := by
    rw [eq_of_refused h₁, eq_of_refused h₂, admitted?, admitted?, h₁, h₂]
    exact ⟨rfl, hledger⟩
  cases hlook : (Call.process now bytes).looksUp? with
  | none =>
      exact hrefused (wasAdmitted_of_looksUp?_eq_none hlook)
        (wasAdmitted_of_looksUp?_eq_none hlook)
  | some raw =>
      have hsigned := signed?_of_looksUp? hlook
      obtain rfl := htime raw hsigned
      by_cases hmem : raw ∈ known
      · refine hrefused (Bool.eq_false_iff.2 fun h => ?_) (Bool.eq_false_iff.2 fun h => ?_)
        · refine honce raw ?_ hmem
          rw [admitted?, if_pos h]
          exact hsigned
        · have hnew : r.seen.contains raw.id = false :=
            not_contains_of_admitted? (by rw [admitted?, if_pos h]; exact hsigned)
          rw [Generations.contains, hknown raw hmem] at hnew
          cases hnew
      · have hnew (q : Processor) (hq : ∀ raw ∈ (Call.process now bytes).looksUp?,
            q.seen.contains raw.id = true → raw ∈ known) : q.seen.contains raw.id = false :=
          Bool.eq_false_iff.2 fun h => hmem (hq raw hlook h)
        have hseen : ∀ raw ∈ (Call.process now bytes).looksUp?,
            p.seen.contains raw.id = r.seen.contains raw.id := by
          intro found h
          cases hlook.symm.trans h
          rw [hnew p hp, hnew r hr]
        have hsame := process_congr hpolicy hledger hseen
        rw [admitted?, admitted?, hsame.1]
        exact ⟨rfl, hsame.2⟩

/-! ### Histories that differ in what is refused -/

/-- A history without its rotations, and without some of what is refused in it.  A transaction that
is kept is submitted at the same time; the time of what is no transaction does not matter. -/
inductive Shortens : Processor → List Call → List Call → Prop
  | nil (p : Processor) : Shortens p [] []
  | rotated {p : Processor} {history kept : List Call} (rest : Shortens p.rotate history kept) :
      Shortens p (.rotate :: history) kept
  | kept {p : Processor} {now later : Int64} {bytes : Bytes} {history kept : List Call}
      (time : ∀ raw ∈ signed? bytes, now = later)
      (rest : Shortens (p.process now bytes).2 history kept) :
      Shortens p (.process now bytes :: history) (.process later bytes :: kept)
  | deleted {p : Processor} {now : Int64} {bytes : Bytes} {history kept : List Call}
      (refused : wasAdmitted (p.process now bytes).1 = false)
      (rest : Shortens (p.process now bytes).2 history kept) :
      Shortens p (.process now bytes :: history) kept

/-- **A shortened history ends in the same ledger**, if neither run makes a false report and the
longer one admits nothing twice. -/
theorem Shortens.ledger_eq {known : List RawData} {history kept : List Call}
    (h : Shortens p history kept) (hpolicy : p.policy = r.policy) (hledger : p.ledger = r.ledger)
    (hknown : ∀ raw ∈ known, r.seen.current.contains raw.id = true)
    (hp : p.NoFalseReport known history) (hr : r.NoFalseReport known kept)
    (honce : (known ++ p.admissions history).Nodup) :
    (p.after history).ledger = (r.after kept).ledger := by
  induction h generalizing r known with
  | nil p => exact hledger
  | @rotated p history kept rest ih =>
      refine ih hpolicy hledger hknown ?_ hr honce
      have hlater := hp.2
      rw [admitted?, Option.toList_none, List.append_nil] at hlater
      exact hlater
  | @kept p now later bytes history kept time rest ih =>
      have honce' : ((known ++ (p.admitted? (.process now bytes)).toList)
          ++ (p.process now bytes).2.admissions history).Nodup := by
        rw [List.append_assoc]
        exact honce
      have hnew : ∀ raw ∈ p.admitted? (.process now bytes), raw ∉ known := fun raw hraw hmem =>
        (List.nodup_append.1 (List.nodup_append.1 honce').1).2.2 raw hmem raw
          (Option.mem_toList.2 hraw) rfl
      obtain ⟨hadmitted, hsame⟩ := process_agrees hpolicy hledger hknown time hp.1 hr.1 hnew
      have hpolicies := (policy_process p now bytes).trans
        (hpolicy.trans (policy_process r later bytes).symm)
      refine ih hpolicies hsame ?_ hp.2 ?_ honce'
      · rw [hadmitted]
        exact contains_afterCall hknown
      · rw [hadmitted]
        exact hr.2
  | @deleted p now bytes history kept refused rest ih =>
      have hsame := eq_of_refused refused
      have hnothing : p.admitted? (.process now bytes) = none := by rw [admitted?, refused]; rfl
      have hlater := hp.2
      rw [admissions, afterCall, hnothing, Option.toList_none, List.nil_append] at honce
      rw [hnothing, Option.toList_none, List.append_nil] at hlater
      refine ih ?_ ?_ hknown hlater hr honce
      · rw [hsame]
        exact hpolicy
      · rw [hsame]
        exact hledger

/-- Without rotations nothing is admitted twice. -/
theorem nodup_admissions {known : List RawData} {history : List Call}
    (hrotate : Call.rotate ∉ history)
    (hknown : ∀ raw ∈ known, p.seen.current.contains raw.id = true) (hnodup : known.Nodup) :
    (known ++ p.admissions history).Nodup := by
  induction history generalizing p known with
  | nil => rwa [admissions, List.append_nil]
  | cons call history ih =>
      rw [List.mem_cons, not_or] at hrotate
      obtain ⟨hcall, hrest⟩ := hrotate
      cases call with
      | rotate => exact absurd rfl hcall
      | process now bytes =>
          rw [admissions, ← List.append_assoc]
          refine ih hrest (contains_afterCall hknown) ?_
          cases hadmitted : p.admitted? (.process now bytes) with
          | none => rwa [Option.toList_none, List.append_nil]
          | some raw =>
              refine List.nodup_append.2 ⟨hnodup, List.pairwise_singleton _ raw, ?_⟩
              rintro other hother found hfound rfl
              cases List.mem_singleton.1 hfound
              have hnew := not_contains_of_admitted? hadmitted
              rw [Generations.contains, hknown _ hother] at hnew
              cases hnew

/-! ### Replays -/

/-- A processor of a genesis that has seen nothing, with filters of the size that is asked for. -/
def start (genesis : Ledger) (policy : Policy) (sizing : Sizing) :
    Except SizingError Processor := do
  return ⟨policy, genesis, ← Generations.ofSizing sizing⟩

theorem start_eq_ok_iff {genesis : Ledger} {policy : Policy} {sizing : Sizing} :
    start genesis policy sizing = .ok p ↔
      ∃ seen, Generations.ofSizing sizing = .ok seen ∧ p = ⟨policy, genesis, seen⟩ := by
  unfold start
  cases Generations.ofSizing sizing with
  | error e => simp [bind, Except.bind]
  | ok seen => simp [bind, Except.bind, pure, Except.pure, eq_comm]

/-- A replay submits every transaction at the time it states. -/
theorem replay_eq (p : Processor) (bytes : Bytes) :
    p.replay bytes = p.afterCall (.stated bytes) := by
  rw [replay, Call.stated, afterCall, process, signed?]
  cases (Message.decode? bytes : Option Transaction) with
  | none => rfl
  | some t => rfl

theorem foldl_replay (p : Processor) (log : List Bytes) :
    log.foldl replay p = p.after (log.map Call.stated) := by
  rw [after, List.foldl_map]
  exact congrArg (fun f => log.foldl f p) (funext fun q => funext fun bytes => q.replay_eq bytes)

/-- A rebuilt ledger is that of a processor that has seen nothing, after the whole log. -/
theorem rebuildState_of_start {genesis : Ledger} {policy : Policy} {log : List Bytes}
    (h : start genesis policy (.ofLog log.length) = .ok r) :
    rebuildState genesis policy log
      = .ok ((r.after (log.map Call.stated)).ledger,
          (r.after (log.map Call.stated)).ledger.stateHash) := by
  obtain ⟨seen, hseen, rfl⟩ := start_eq_ok_iff.1 h
  refine rebuildState_eq_ok_iff.2 ⟨?_, rfl⟩
  rw [rebuild, hseen, ← foldl_replay]
  rfl

/-- A live history shortens to the calls of a replay of what it submits. -/
theorem shortens_stated {history : List Call} (htimes : ∀ call ∈ history, call.OnTime) :
    Shortens p history ((history.filterMap Call.bytes?).map Call.stated) := by
  induction history generalizing p with
  | nil => exact .nil p
  | cons call history ih =>
      have hrest {q : Processor} := ih (p := q) fun c hc => htimes c (List.mem_cons_of_mem _ hc)
      cases call with
      | rotate => exact .rotated hrest
      | process now bytes =>
          refine .kept (fun raw hraw => ?_) hrest
          rw [htimes _ List.mem_cons_self raw hraw, hraw]
          rfl

/-- **A replay reproduces the live run.**  A row of transactions that is accepted for replay, and a
processor that starts from the same genesis with filters of any size, is given the same bytes in
order, each transaction at the time it states, and rotates its filters at any points: if neither
makes a false report and the live run admits nothing twice, the replay returns the ledger of the live
run and its state hash.  Leaving out of the replay what it refuses changes nothing. -/
theorem rebuild_reproduces {genesis : Ledger} {policy : Policy} {log : List Bytes}
    (hreplay : start genesis policy (.ofLog log.length) = .ok r)
    (hfaithful : r.NoFalseReport [] (log.map Call.stated)) :
    (∀ (sizing : Sizing) (live : Processor) (history : List Call),
      start genesis policy sizing = .ok live → history.filterMap Call.bytes? = log →
      (∀ call ∈ history, call.OnTime) → live.NoFalseReport [] history →
      (live.admissions history).Nodup →
      rebuildState genesis policy log
        = .ok ((live.after history).ledger, (live.after history).ledger.stateHash)) ∧
    (∀ (kept : List Bytes) (r' : Processor),
      Shortens r (log.map Call.stated) (kept.map Call.stated) →
      start genesis policy (.ofLog kept.length) = .ok r' →
      r'.NoFalseReport [] (kept.map Call.stated) →
      rebuildState genesis policy kept = rebuildState genesis policy log) := by
  have hrebuild := rebuildState_of_start hreplay
  obtain ⟨seen, -, rfl⟩ := start_eq_ok_iff.1 hreplay
  have hnone (g : Generations) : ∀ raw ∈ ([] : List RawData), g.current.contains raw.id = true :=
    fun raw h => absurd h List.not_mem_nil
  refine ⟨?_, ?_⟩
  · intro sizing live history hlive hlog htimes hlive' honce
    obtain ⟨seen', -, rfl⟩ := start_eq_ok_iff.1 hlive
    have hshort := shortens_stated (p := ⟨policy, genesis, seen'⟩) htimes
    rw [hlog] at hshort
    have hsame := hshort.ledger_eq (r := ⟨policy, genesis, seen⟩) rfl rfl (hnone seen) hlive'
      hfaithful honce
    rw [hrebuild, ← hsame]
  · intro kept r' hshort hstart hkept
    rw [rebuildState_of_start hstart, hrebuild]
    obtain ⟨seen', -, rfl⟩ := start_eq_ok_iff.1 hstart
    have hrotate : Call.rotate ∉ log.map Call.stated := by simp [Call.stated]
    have honce := nodup_admissions (p := ⟨policy, genesis, seen⟩) hrotate (hnone seen) .nil
    have hsame := hshort.ledger_eq (r := ⟨policy, genesis, seen'⟩) rfl rfl (hnone seen') hfaithful
      hkept honce
    rw [hsame]

/-- A transfer, some garbage and the transfer again, with a rotation between them: the replay of all
three ends like the live run, and so does that of the transfer alone. -/
theorem rebuild_reproduces_small :
    ∃ (log kept : List Bytes) (sizing : Sizing) (r r' live : Processor) (history : List Call),
      start Ledger.small {} (.ofLog log.length) = .ok r ∧
      r.NoFalseReport [] (log.map Call.stated) ∧
      start Ledger.small {} sizing = .ok live ∧ history.filterMap Call.bytes? = log ∧
      (∀ call ∈ history, call.OnTime) ∧ live.NoFalseReport [] history ∧
      live.admissions history = sample.rawData.toList ∧
      Shortens r (log.map Call.stated) (kept.map Call.stated) ∧ kept.length < log.length ∧
      start Ledger.small {} (.ofLog kept.length) = .ok r' ∧
      r'.NoFalseReport [] (kept.map Call.stated) ∧
      rebuildState Ledger.small {} log
        = .ok ((live.after history).ledger, (live.after history).ledger.stateHash) ∧
      rebuildState Ledger.small {} kept = rebuildState Ledger.small {} log := by
  let sent : Bytes := Message.encode sample
  let live : Processor := ⟨{}, Ledger.small, .empty ⟨959, 7, by decide, by decide⟩⟩
  let r : Processor := ⟨{}, Ledger.small, .empty ⟨87, 20, by decide, by decide⟩⟩
  let r' : Processor := ⟨{}, Ledger.small, .empty ⟨64, 30, by decide, by decide⟩⟩
  let history : List Call :=
    [.process 0 sent, .rotate, .process 7 [255], .process 0 sent]
  have hlive : start Ledger.small {} ⟨10, 10, 0.01⟩ = .ok live :=
    start_eq_ok_iff.2 ⟨_, eq_ok_of_toOption (by decide +kernel), rfl⟩
  have hr : start Ledger.small {} (.ofLog [sent, [255], sent].length) = .ok r :=
    start_eq_ok_iff.2 ⟨_, eq_ok_of_toOption (by decide +kernel), rfl⟩
  have hr' : start Ledger.small {} (.ofLog [sent].length) = .ok r' :=
    start_eq_ok_iff.2 ⟨_, eq_ok_of_toOption (by decide +kernel), rfl⟩
  have hfaithful : r.NoFalseReport [] ([sent, [255], sent].map Call.stated) := by decide +kernel
  have htimes : ∀ call ∈ history, call.OnTime := by decide +kernel
  have hlive' : live.NoFalseReport [] history := by decide +kernel
  have honce : live.admissions history = sample.rawData.toList := by decide +kernel
  have hshort : Shortens r ([sent, [255], sent].map Call.stated) ([sent].map Call.stated) :=
    .kept (fun _ _ => rfl) (.deleted (by decide +kernel) (.deleted (by decide +kernel) (.nil _)))
  have hkept : r'.NoFalseReport [] ([sent].map Call.stated) := by decide +kernel
  have hboth := rebuild_reproduces hr hfaithful
  refine ⟨[sent, [255], sent], [sent], _, r, r', live, history, hr, hfaithful, hlive, rfl, htimes,
    hlive', honce, hshort, by decide, hr', hkept, ?_, ?_⟩
  · exact hboth.1 _ live history hlive rfl htimes hlive'
      (by rw [honce]; exact List.pairwise_singleton _ _)
  · exact hboth.2 [sent] r' hshort hr' hkept

end Processor

end AccountLedger
