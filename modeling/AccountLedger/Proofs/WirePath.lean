/-
**A scenario over the wire.**

A scenario applies its contracts to its ledger directly, each at the time of its step.  The same
contracts can be wrapped into transactions that state these times, written as bytes and replayed: each
is read, its name looked up, its contract unpacked and only then applied.  This module proves that both
ways end in the same ledger, whatever becomes of the single contracts.

Main definitions:

* `Entry.wrap`, `Entry.signed` — the transaction of a contract at its time, and what is signed in it;
* `Scenario.entries`, `Scenario.transactions`, `Scenario.log` — the contracts of a scenario, the
  transactions that wrap them, and these as bytes.

Main results:

* `Scenario.ledger_run` — the ledger of a run is the genesis after the contracts of all steps;
* `Processor.process_wrap` — a transaction whose name is not reported runs the contract it wraps;
* `Processor.after_wrapped` — **distinct transactions leave the ledger of their contracts**;
* `Scenario.rebuild_log` — **replaying the transactions of a scenario ends in the ledger of its run.**
-/

import AccountLedger.Proofs.Replay
import AccountLedger.Proofs.WireForm
import AccountLedger.Scenario

set_option relaxedAutoImplicit false
set_option autoImplicit false

namespace AccountLedger

open Message

/-! ### Contracts as transactions -/

namespace Entry

/-- The transaction of a contract that states the time it is carried out at. -/
def wrap (e : Entry) (expiration : Int64) : Transaction := .wrap e.contract e.now expiration

/-- What is signed in this transaction. -/
def signed (e : Entry) (expiration : Int64) : RawData := ⟨expiration, [e.contract.pack], e.now⟩

variable {e : Entry} {expiration : Int64}

theorem signed?_wrap (h : (encode (e.wrap expiration)).length < UInt64.size) :
    Processor.signed? (encode (e.wrap expiration)) = some (e.signed expiration) := by
  rw [Processor.signed?, decode?_encode h]
  rfl

theorem stated_wrap (h : (encode (e.wrap expiration)).length < UInt64.size) :
    Processor.Call.stated (encode (e.wrap expiration))
      = .process e.now (encode (e.wrap expiration)) := by
  rw [Processor.Call.stated, signed?_wrap h]
  rfl

theorem looksUp?_wrap {now : Int64} (h : (encode (e.wrap expiration)).length < UInt64.size) :
    (Processor.Call.process now (encode (e.wrap expiration))).looksUp?
      = some (e.signed expiration) := by
  rw [Processor.Call.looksUp?, decode?_encode h]
  rfl

end Entry

namespace Scenario

/-- The contracts of a scenario, each at the time of its step. -/
def entries (s : Scenario) : List Entry := s.steps.map fun step => ⟨step.now, step.contract⟩

/-- The transactions that wrap the contracts of a scenario, each with an expiration of its own. -/
def transactions (s : Scenario) (expirations : List Int64) : List Transaction :=
  s.entries.zipWith Entry.wrap expirations

/-- These transactions as bytes. -/
def log (s : Scenario) (expirations : List Int64) : List Bytes :=
  (s.transactions expirations).map encode

/-! ### Runs of a scenario -/

theorem ledger_runSteps (policy : Policy) (index : Nat) (l : Ledger) (steps : List Step) :
    (runSteps policy index l steps).2
      = l.after policy (steps.map fun step => ⟨step.now, step.contract⟩) := by
  induction steps generalizing index l with
  | nil => rfl
  | cons step steps ih => exact ih (index + 1) (step.run policy l).2

/-- **The ledger of a run is the genesis after the contracts of all steps**, whatever was expected of
them. -/
theorem ledger_run (s : Scenario) : s.run.ledger = s.genesis.after s.policy s.entries :=
  ledger_runSteps s.policy 0 s.genesis s.steps

end Scenario

/-! ### Transactions one after another -/

namespace Processor

variable {p : Processor} {e : Entry} {expiration : Int64}

/-- **A transaction whose name is not reported runs the contract it wraps.** -/
theorem process_wrap (h : (encode (e.wrap expiration)).length < UInt64.size)
    (hnew : p.seen.contains (e.signed expiration).id = false) :
    p.process e.now (encode (e.wrap expiration))
      = p.carryOut e.now (e.signed expiration).id e.contract := by
  have hsingle : single (e.wrap expiration) = .ok (e.signed expiration, e.contract.pack) := rfl
  rw [process_of_decode? (decode?_encode h), submit, hsingle]
  simp only [hnew, Bool.false_eq_true, if_false,
    Contract.unpack_pack (Contract.length_encodePayload_lt h)]

/-- **Transactions that sign different data leave the ledger of their contracts**, if no name is
reported whose data was not admitted. -/
theorem after_wrapped {known : List RawData} {entries : List Entry} {expirations : List Int64}
    (hlength : expirations.length = entries.length)
    (hcounted : ∀ bytes ∈ (entries.zipWith Entry.wrap expirations).map encode,
      bytes.length < UInt64.size)
    (hdistinct : (known ++ entries.zipWith Entry.signed expirations).Nodup)
    (hfaithful : p.NoFalseReport known
      (((entries.zipWith Entry.wrap expirations).map encode).map Call.stated)) :
    (p.after (((entries.zipWith Entry.wrap expirations).map encode).map Call.stated)).ledger
      = p.ledger.after p.policy entries := by
  -- No transaction signs what is known already, so none is reported, and each runs its contract.
  induction entries generalizing p known expirations with
  | nil => rfl
  | cons e entries ih =>
      obtain ⟨expiration, expirations, rfl⟩ := List.exists_cons_of_length_eq_add_one hlength
      have hcount : (encode (e.wrap expiration)).length < UInt64.size :=
        hcounted _ List.mem_cons_self
      have hrest : ((known ++ [e.signed expiration])
          ++ entries.zipWith Entry.signed expirations).Nodup := by
        rw [List.append_assoc]
        exact hdistinct
      obtain ⟨hreports, hlater⟩ := hfaithful
      rw [Entry.stated_wrap hcount, Entry.looksUp?_wrap hcount] at hreports
      have hnew : p.seen.contains (e.signed expiration).id = false := by
        refine Bool.eq_false_iff.2 fun hseen => ?_
        have hmem := hreports _ rfl hseen
        exact (List.nodup_append.1 (List.nodup_append.1 hrest).1).2.2 _ hmem _
          (List.mem_singleton_self _) rfl
      have hstep : (p.process e.now (encode (e.wrap expiration))).2.ledger
          = (Engine.apply e.contract ⟨e.now, p.policy⟩ p.ledger).2 := by
        rw [process_wrap hcount hnew]
        rfl
      rw [Entry.stated_wrap hcount] at hlater
      -- What is admitted by this call is known from now on, and is nothing but what it signs.
      have hdistinct' : ((known ++ (p.admitted? (.process e.now (encode (e.wrap expiration)))).toList)
          ++ entries.zipWith Entry.signed expirations).Nodup := by
        rw [admitted?, Entry.signed?_wrap hcount]
        split
        · exact hrest
        · rw [Option.toList_none, List.append_nil]
          refine List.Nodup.sublist (List.Sublist.append_left ?_ known) hdistinct
          exact List.sublist_cons_self _ _
      have hafter := ih (Nat.succ.inj hlength) (fun bytes h => hcounted bytes (List.mem_cons_of_mem _ h))
        hdistinct' hlater
      rw [afterCall, policy_process, hstep] at hafter
      show ((p.afterCall (.stated (encode (e.wrap expiration)))).after _).ledger = _
      rw [Entry.stated_wrap hcount]
      exact hafter

end Processor

/-! ### Both ways -/

/-- **The direct way and the wire agree.**  The contracts of a scenario are wrapped into transactions
that state the times of their steps and any expirations, and no two of them sign the same data.  If the
row of transactions is accepted for replay and the filter makes no false report, the replay returns the
ledger of the run and its hash, whether the contracts succeed, are rejected or fail.  All that is
asked of the messages is that their bytes can be counted in 64 bits. -/
theorem Scenario.rebuild_log {s : Scenario} {expirations : List Int64} {p : Processor}
    (hlength : expirations.length = s.steps.length)
    (hcounted : ∀ bytes ∈ s.log expirations, bytes.length < UInt64.size)
    (hdistinct : ((s.transactions expirations).map Transaction.rawData).Nodup)
    (haccepted : Processor.start s.genesis s.policy (.ofLog (s.log expirations).length) = .ok p)
    (hfaithful : p.NoFalseReport [] ((s.log expirations).map Processor.Call.stated)) :
    rebuildState s.genesis s.policy (s.log expirations) = .ok (s.run.ledger, s.run.hash) := by
  have hsigned : ([] ++ s.entries.zipWith Entry.signed expirations).Nodup := by
    have hsome : ((s.entries.zipWith Entry.signed expirations).map some).Nodup := by
      rw [transactions, List.map_zipWith] at hdistinct
      rw [List.map_zipWith]
      exact hdistinct
    exact List.Pairwise.of_map some (fun _ _ hne hsame => hne (congrArg some hsame)) hsome
  have hentries : expirations.length = s.entries.length := by
    rw [hlength, entries, List.length_map]
  have hsame : (p.after ((s.log expirations).map Processor.Call.stated)).ledger = s.run.ledger := by
    have hledger := Processor.after_wrapped hentries hcounted hsigned hfaithful
    obtain ⟨seen, -, rfl⟩ := Processor.start_eq_ok_iff.1 haccepted
    exact hledger.trans s.ledger_run.symm
  rw [Processor.rebuildState_of_start haccepted, hsame]
  rfl

/-- A transfer, one of a negative amount to a recipient without an address, and a freeze at the end of
time: the first succeeds, the second is rejected, the third fails. -/
theorem Scenario.rebuild_log_small :
    ∃ (s : Scenario) (expirations : List Int64) (p : Processor),
      s.steps.map (·.expect) = [.success, .rejected, .failed] ∧ s.run.passed = true ∧
      expirations.length = s.steps.length ∧
      (∀ bytes ∈ s.log expirations, bytes.length < UInt64.size) ∧
      ((s.transactions expirations).map Transaction.rawData).Nodup ∧
      Processor.start s.genesis s.policy (.ofLog (s.log expirations).length) = .ok p ∧
      p.NoFalseReport [] ((s.log expirations).map Processor.Call.stated) ∧
      rebuildState s.genesis s.policy (s.log expirations) = .ok (s.run.ledger, s.run.hash) := by
  let owner : Bytes := (Address.repeating 1).bytes
  let s : Scenario :=
    { name := "three verdicts"
      genesis := .small
      policy := {}
      steps := [⟨0, .transfer ⟨owner, (Address.repeating 2).bytes, 5⟩, .success, some 0⟩,
        ⟨1, .transfer ⟨owner, [], -5⟩, .rejected, none⟩,
        ⟨Int64.maxValue, .freezeBalance ⟨owner, 1000000, 3⟩, .failed, some 0⟩]
      expectedHash := none }
  let p : Processor := ⟨{}, .small, .empty ⟨87, 20, by decide, by decide⟩⟩
  have hcounted : ∀ bytes ∈ s.log [0, -1, 0], bytes.length < UInt64.size := by decide +kernel
  have hdistinct : ((s.transactions [0, -1, 0]).map Transaction.rawData).Nodup := by decide +kernel
  have hstart : Processor.start s.genesis s.policy (.ofLog (s.log [0, -1, 0]).length) = .ok p :=
    Processor.start_eq_ok_iff.2 ⟨_, eq_ok_of_toOption (by decide +kernel), rfl⟩
  have hfaithful : p.NoFalseReport [] ((s.log [0, -1, 0]).map Processor.Call.stated) := by
    decide +kernel
  exact ⟨s, [0, -1, 0], p, rfl, by decide +kernel, rfl, hcounted, hdistinct, hstart, hfaithful,
    Scenario.rebuild_log rfl hcounted hdistinct hstart hfaithful⟩

end AccountLedger
