/-
**What a run leaves behind.**

A store that accepts batches whole or not at all ends up, after a run, in one of few ways: it holds
what the execution yields, or what the collection of the fee alone yields, or it is untouched.

Main definitions:

* `Backing.Atomic` — a store accepts the whole batch or changes nothing;
* `Engine.Uncollectable` — the fee of a failed contract cannot be collected;
* `Engine.Runs` — what a run can come to;
* `Contract.Leaves` — what a run on a ledger can leave;
* `Engine.Applies` — what a contract that is checked first can come to.

Main results:

* `Engine.settle_of_recorded`, `Engine.settle_of_uncollectable`, `Engine.settle_of_collectable` — a
  fee is recorded, or not collected at all, or charged and nothing else is written;
* `Engine.runs_run` — what a run on any such store comes to;
* `Engine.run_of_yields`, `Engine.run_of_fails` — **a run on a ledger is decided by what the execution
  yields**;
* `Engine.leaves_run`, `Engine.leaves_apply` — what it leaves, unchecked and checked;
* `Engine.applies_apply`, `Engine.succeeds_or_not` — what a checked contract comes to, its answer
  included.
-/

import AccountLedger.Proofs.Consistency
import AccountLedger.Proofs.Effect
import AccountLedger.Proofs.Overlay

set_option relaxedAutoImplicit false
set_option autoImplicit false

namespace AccountLedger

/-! ### Stores -/

/-- A store accepts a batch as a whole, or refuses it and stays as it is. -/
class Backing.Atomic (σ : Type) [Backing σ] : Prop where
  ledger_of_ok : ∀ (s s' : σ) (b : Batch), Backing.commit s b = (.ok (), s') →
    Backing.ledger s' = (Backing.ledger s).commit b
  eq_of_error : ∀ (s s' : σ) (b : Batch) (e : StoreError), Backing.commit s b = (.error e, s') →
    s' = s

/-- A ledger in memory accepts every batch as a whole. -/
instance : Backing.Atomic Ledger where
  ledger_of_ok _ _ _ h := by cases h; rfl
  eq_of_error _ _ _ _ h := by cases h

/-- A store that refuses every batch stays as it is. -/
instance : Backing.Atomic Refusing where
  ledger_of_ok _ _ _ h := by cases h
  eq_of_error _ _ _ _ h := by cases h; rfl

namespace Engine

variable {σ : Type} [Backing σ]

/-! ### Buffered executions -/

section

variable {ε α : Type} {e : ExceptT ε Update α} {s : σ}

/-- An execution that is buffered over a store answers as it does on the store's ledger. -/
theorem runOver_eq_ok_iff {a : α} :
    (e.run.runOver (.on (Backing.ledger s))).1 = .ok a ↔ ∃ m, Yields e (Backing.ledger s) a m := by
  rw [(Update.runOver_on e.run (Backing.ledger s)).1]
  constructor
  · intro h
    exact ⟨_, Prod.ext h rfl⟩
  · rintro ⟨m, h⟩
    rw [h]

theorem runOver_eq_error_iff {f : ε} :
    (e.run.runOver (.on (Backing.ledger s))).1 = .error f ↔ Fails e (Backing.ledger s) f := by
  rw [(Update.runOver_on e.run (Backing.ledger s)).1]
  exact Iff.rfl

/-- A buffered execution that is committed as a whole has been carried out. -/
theorem yields_of_commit [Backing.Atomic σ] {a : α} {o : Overlay} {s' : σ}
    (h : e.run.runOver (.on (Backing.ledger s)) = (.ok a, o))
    (hcommit : Backing.commit s o.batch = (.ok (), s')) :
    Yields e (Backing.ledger s) a (Backing.ledger s') := by
  obtain ⟨hanswer, hledger⟩ := Update.runOver_on e.run (Backing.ledger s)
  rw [h] at hanswer hledger
  rw [Backing.Atomic.ledger_of_ok s s' o.batch hcommit]
  exact Prod.ext hanswer.symm hledger.symm

end

/-! ### Collecting a fee -/

/-- The fee cannot be collected: the owner is no address, or the fee cannot be charged to what is
there, or the store refuses the charge. -/
inductive Uncollectable (s : σ) (owner : Bytes) (fee : Int64) : Prop
  | noAddress (reason : AddressError) (unread : Address.ofBytes owner = .error reason)
  | notCharged (a : Address) (e : StoreError) (owner_eq : a.bytes = owner)
      (stopped : Fails (Update.chargeFee a fee) (Backing.ledger s) e)
  | notCommitted (a : Address) (e : StoreError) (o : Overlay) (owner_eq : a.bytes = owner)
      (charged : (Update.chargeFee a fee).run.runOver (.on (Backing.ledger s)) = (.ok (), o))
      (refused : (Backing.commit s o.batch).1 = .error e)

variable [Backing.Atomic σ] {s : σ} {owner : Bytes} {fee : Int64}

/-- A fee that cannot be collected leaves the store as it is. -/
theorem collectFee_eq_of_uncollectable (h : Uncollectable s owner fee) :
    collectFee s owner fee = (false, s) := by
  unfold collectFee
  cases h with
  | noAddress reason unread => rw [unread]
  | notCharged a e owner_eq stopped =>
      rw [Address.ofBytes_eq_ok_iff.2 owner_eq]
      have hanswer := runOver_eq_error_iff.2 stopped
      rcases hrun : (Update.chargeFee a fee).run.runOver (.on (Backing.ledger s)) with ⟨x, o⟩
      rw [hrun] at hanswer
      cases hanswer
      simp only [hrun]
  | notCommitted a e o owner_eq charged refused =>
      rw [Address.ofBytes_eq_ok_iff.2 owner_eq]
      simp only [charged]
      rcases hcommit : Backing.commit s o.batch with ⟨x, s'⟩
      rw [hcommit] at refused
      cases refused
      rw [Backing.Atomic.eq_of_error s s' o.batch e hcommit]

/-- A fee that can be collected leaves the store with what the charge alone yields. -/
theorem collectFee_eq_of_collectable (h : ¬ Uncollectable s owner fee) :
    ∃ (a : Address) (s' : σ), a.bytes = owner ∧
      Yields (Update.chargeFee a fee) (Backing.ledger s) () (Backing.ledger s') ∧
      collectFee s owner fee = (true, s') := by
  unfold collectFee
  cases howner : Address.ofBytes owner with
  | error reason => exact absurd (.noAddress reason howner) h
  | ok a =>
      have ha := Address.ofBytes_eq_ok_iff.1 howner
      rcases hrun : (Update.chargeFee a fee).run.runOver (.on (Backing.ledger s)) with ⟨e | _, o⟩
      · exact absurd (.notCharged a e ha (runOver_eq_error_iff.1 (congrArg Prod.fst hrun))) h
      · rcases hcommit : Backing.commit s o.batch with ⟨e | _, s'⟩
        · exact absurd (.notCommitted a e o ha hrun (congrArg Prod.fst hcommit)) h
        · refine ⟨a, s', ha, yields_of_commit hrun hcommit, ?_⟩
          simp only [hrun, hcommit]

/-! ### Settling the fee of a failed contract -/

variable {c : Contract} {ctx : Context}

omit [Backing.Atomic σ] in
/-- A fee that is not to be collected, or is nothing, is recorded and no more. -/
theorem settle_of_recorded (h : ctx.policy.failedFee = .recordOnly ∨ c.fee ctx = 0) :
    settle s c ctx = (⟨c.fee ctx, .failed⟩, s) := by
  rw [settle, if_pos h]

/-- A fee that is to be collected and cannot be is reported as zero. -/
theorem settle_of_uncollectable (h : ¬ (ctx.policy.failedFee = .recordOnly ∨ c.fee ctx = 0))
    (hfee : Uncollectable s c.owner (c.fee ctx)) : settle s c ctx = (⟨0, .failed⟩, s) := by
  rw [settle, if_neg h, collectFee_eq_of_uncollectable hfee]
  rfl

/-- A fee that is to be collected and can be is charged, and nothing else is written. -/
theorem settle_of_collectable (h : ¬ (ctx.policy.failedFee = .recordOnly ∨ c.fee ctx = 0))
    (hfee : ¬ Uncollectable s c.owner (c.fee ctx)) :
    ∃ (a : Address) (s' : σ), a.bytes = c.owner ∧
      Yields (Update.chargeFee a (c.fee ctx)) (Backing.ledger s) () (Backing.ledger s') ∧
      settle s c ctx = (⟨c.fee ctx, .failed⟩, s') := by
  obtain ⟨a, s', ha, hcharged, heq⟩ := collectFee_eq_of_collectable hfee
  refine ⟨a, s', ha, hcharged, ?_⟩
  rw [settle, if_neg h, heq]
  rfl

/-- What the receipt of a failed contract says is true of the store: its fee is recorded and nothing
is written, or it cannot be collected and nothing is written, or it is charged and nothing else is
written.  On a ledger with its accounts under their own address a fee that is charged has moved from
the owner to the sink. -/
structure Settled (c : Contract) (ctx : Context) (s : σ) (receipt : Receipt) (s' : σ) : Prop where
  status : receipt.status = .failed
  recorded : ctx.policy.failedFee = .recordOnly ∨ c.fee ctx = 0 →
    s' = s ∧ receipt.fee = c.fee ctx
  collected : ctx.policy.failedFee = .charge → c.fee ctx ≠ 0 →
    (Uncollectable s c.owner (c.fee ctx) ∧ s' = s ∧ receipt.fee = 0) ∨
    (¬ Uncollectable s c.owner (c.fee ctx) ∧ receipt.fee = c.fee ctx ∧
      ∃ a : Address, a.bytes = c.owner ∧ Yields (Update.chargeFee a (c.fee ctx))
        (Backing.ledger s) () (Backing.ledger s') ∧
        ((Backing.ledger s).AccountsKeyed → (Backing.ledger s).Moves a (Backing.ledger s).sink
          (c.fee ctx).toInt (Backing.ledger s')))

theorem settled_settle : Settled c ctx s (settle s c ctx).1 (settle s c ctx).2 := by
  by_cases h : ctx.policy.failedFee = .recordOnly ∨ c.fee ctx = 0
  · rw [settle_of_recorded h]
    refine ⟨rfl, fun _ => ⟨rfl, rfl⟩, fun hrule hfee => ?_⟩
    rcases h with h | h
    · rw [hrule] at h
      cases h
    · exact absurd h hfee
  · by_cases hfee : Uncollectable s c.owner (c.fee ctx)
    · rw [settle_of_uncollectable h hfee]
      exact ⟨rfl, fun hrecorded => absurd hrecorded h, fun _ _ => .inl ⟨hfee, rfl, rfl⟩⟩
    · obtain ⟨a, s', ha, hcharged, heq⟩ := settle_of_collectable h hfee
      rw [heq]
      exact ⟨rfl, fun hrecorded => absurd hrecorded h, fun _ _ =>
        .inr ⟨hfee, rfl, a, ha, hcharged, (yields_chargeFee.1 hcharged).moves⟩⟩

/-! ### Runs -/

/-- What a run can come to: the execution yields a ledger that is committed or not, or it fails and
its fee is settled on the store as it was. -/
inductive Runs (c : Contract) (ctx : Context) (s : σ) : Except Failure Receipt × σ → Prop
  | succeeded (s' : σ) (done : Yields (c.execute ctx) (Backing.ledger s) () (Backing.ledger s')) :
      Runs c ctx s (.ok ⟨c.fee ctx, .success⟩, s')
  | notCommitted (e : StoreError) (m : Ledger)
      (done : Yields (c.execute ctx) (Backing.ledger s) () m) :
      Runs c ctx s (.error (.notCommitted e), s)
  | failed (fault : Fault) (stopped : Fails (c.execute ctx) (Backing.ledger s) fault) :
      Runs c ctx s (.error (.failed (settle s c ctx).1 fault), (settle s c ctx).2)

theorem runs_run (c : Contract) (ctx : Context) (s : σ) : Runs c ctx s (run c ctx s) := by
  unfold run
  rcases hrun : (c.execute ctx).run.runOver (.on (Backing.ledger s)) with ⟨fault | _, o⟩
  · exact .failed fault (runOver_eq_error_iff.1 (congrArg Prod.fst hrun))
  · rcases hcommit : Backing.commit s o.batch with ⟨e | _, s'⟩
    · obtain ⟨m, hm⟩ := runOver_eq_ok_iff.1 (congrArg Prod.fst hrun)
      simp only [hcommit]
      rw [Backing.Atomic.eq_of_error s s' o.batch e hcommit]
      exact .notCommitted e m hm
    · simp only [hcommit]
      exact .succeeded s' (yields_of_commit hrun hcommit)

omit [Backing.Atomic σ] in
/-- A contract that is checked first and fails was rejected by its check, or its run fails. -/
theorem run_of_apply {s' : σ} {failure : Failure} (h : apply c ctx s = (.error failure, s')) :
    (∃ reason, failure = .rejected reason ∧ s' = s) ∨ run c ctx s = (.error failure, s') := by
  unfold apply at h
  split at h
  · next reason _ =>
      cases h
      exact .inl ⟨reason, rfl, rfl⟩
  · exact .inr h

/-- **A contract that fails leaves nothing of its execution behind**, checked first or not: rejected
or not committed, it leaves the store as it is; failed, it leaves what its receipt says. -/
theorem failure_leaves_nothing {s' : σ} {failure : Failure}
    (h : run c ctx s = (.error failure, s') ∨ apply c ctx s = (.error failure, s')) :
    match failure with
    | .rejected _ | .notCommitted _ => s' = s
    | .failed receipt _ => Settled c ctx s receipt s' := by
  have hcases : (∃ reason, failure = .rejected reason ∧ s' = s) ∨
      run c ctx s = (.error failure, s') := by
    rcases h with h | h
    · exact .inr h
    · exact run_of_apply h
  rcases hcases with ⟨reason, rfl, rfl⟩ | hrun
  · rfl
  · have hruns := runs_run c ctx s
    rw [hrun] at hruns
    cases hruns with
    | notCommitted e m done => rfl
    | failed fault stopped => exact settled_settle

/-- A freeze that would expire past the last time there is fails, and its receipt bears the fee, which
has moved to the sink.  On a store that refuses every batch a transfer is not committed. -/
theorem failure_leaves_nothing_small :
    (∃ (c : Contract) (ctx : Context) (fault : Fault),
      ctx.policy.failedFee = .charge ∧ c.fee ctx = 7 ∧
      (run c ctx Ledger.small).1 = .error (.failed ⟨7, .failed⟩ fault) ∧
      Settled c ctx Ledger.small ⟨7, .failed⟩ (run c ctx Ledger.small).2 ∧
      Ledger.Moves Ledger.small (.repeating 1) Ledger.small.sink 7 (run c ctx Ledger.small).2) ∧
    ∃ (c : Contract) (s : Refusing) (e : StoreError),
      (apply c ⟨0, {}⟩ s).1 = .error (.notCommitted e) ∧ (apply c ⟨0, {}⟩ s).2 = s := by
  refine ⟨⟨.freezeBalance ⟨(Address.repeating 1).bytes, 1000000, 3⟩,
    ⟨9223372036854775807, { fees := { freezeBalance := 7 } }⟩,
    .arithmetic (.overflow .add 9223372036854775807 259200000), rfl, rfl, rfl, ?_⟩,
    .transfer ⟨(Address.repeating 1).bytes, (Address.repeating 2).bytes, 5⟩,
    ⟨Ledger.small, "read only"⟩, .backend "read only", rfl, ?_⟩
  · have hsettled := @failure_leaves_nothing Ledger _ _ Ledger.small
      (.freezeBalance ⟨(Address.repeating 1).bytes, 1000000, 3⟩)
      ⟨9223372036854775807, { fees := { freezeBalance := 7 } }⟩ _ (.failed ⟨7, .failed⟩ _)
      (.inl (Prod.ext rfl rfl))
    have hkeyed := (Ledger.check_eq_ok_iff.1 Ledger.check_small).accountsKeyed
    refine ⟨hsettled, ?_⟩
    rcases hsettled.collected rfl (by decide) with ⟨-, -, hzero⟩ | ⟨-, -, a, howner, -, hmoves⟩
    · cases hzero
    · obtain rfl : a = .repeating 1 := Address.ext howner
      exact hmoves hkeyed
  · exact @failure_leaves_nothing Refusing _ _ _ _ _ _ (.notCommitted (.backend "read only"))
      (.inr (Prod.ext rfl rfl))

/-! ### Runs on a ledger -/

variable {l l' : Ledger}

/-- **What an execution yields on a ledger is what a run leaves.** -/
theorem run_of_yields (h : Yields (c.execute ctx) l () l') :
    run c ctx l = (.ok ⟨c.fee ctx, .success⟩, l') := by
  obtain ⟨hanswer, hledger⟩ := Update.runOver_on (c.execute ctx).run l
  rw [h] at hanswer hledger
  unfold run
  rcases hrun : (c.execute ctx).run.runOver (.on l) with ⟨x, o⟩
  rw [hrun] at hanswer hledger
  cases hanswer
  show (_, l.commit o.batch) = _
  rw [hledger]

theorem run_of_fails {fault : Fault} (h : Fails (c.execute ctx) l fault) :
    run c ctx l = (.error (.failed (settle l c ctx).1 fault), (settle l c ctx).2) := by
  obtain ⟨hanswer, -⟩ := Update.runOver_on (c.execute ctx).run l
  rw [h] at hanswer
  unfold run
  rcases hrun : (c.execute ctx).run.runOver (.on l) with ⟨x, o⟩
  rw [hrun] at hanswer
  cases hanswer
  rfl

/-- A fee that can be charged can be collected. -/
theorem collectable_of_charges {a : Address} {fee : Int64} (h : l.Charges a fee l') :
    ¬ Uncollectable l a.bytes fee := by
  have hyields : Yields (Update.chargeFee a fee) l () l' := yields_chargeFee.2 h
  intro hfee
  cases hfee with
  | noAddress reason unread =>
      rw [Address.ofBytes_bytes] at unread
      cases unread
  | notCharged b e owner_eq stopped =>
      obtain rfl := Address.ext owner_eq
      exact hyields.not_fails stopped
  | notCommitted b e o owner_eq charged refused => cases refused

/-- A fee that is to be collected and can be charged is on the receipt and in the sink. -/
theorem settle_of_charges {a : Address} (hrule : ctx.policy.failedFee = .charge)
    (ha : a.bytes = c.owner) (h : l.Charges a (c.fee ctx) l') :
    settle l c ctx = (⟨c.fee ctx, .failed⟩, l') := by
  by_cases hfee : c.fee ctx = 0
  · rw [settle_of_recorded (.inr hfee)]
    cases h with
    | free zero => rfl
    | taken m _ ne_zero paid received => exact absurd hfee ne_zero
  · have hcollected : ¬ (ctx.policy.failedFee = .recordOnly ∨ c.fee ctx = 0) := by
      rintro (h | h)
      · rw [hrule] at h
        cases h
      · exact hfee h
    obtain ⟨b, m, hb, hcharged, heq⟩ :=
      settle_of_collectable hcollected (ha ▸ collectable_of_charges h)
    obtain rfl := Address.ext (hb.trans ha.symm)
    have hyields : Yields (Update.chargeFee b (c.fee ctx)) l () l' := yields_chargeFee.2 h
    have hledger : m = l' := hcharged.unique hyields
    rw [heq, hledger]

end Engine

/-! ### What a run leaves -/

/-- What a run of a contract can leave of a ledger: nothing new, or the effect of the contract, or its
fee in the sink and nothing else. -/
inductive Contract.Leaves (c : Contract) (ctx : Context) (l : Ledger) : Ledger → Prop
  | same : Leaves c ctx l l
  | effect (l' : Ledger) (done : c.Effect ctx l l') : Leaves c ctx l l'
  | charge (a : Address) (l' : Ledger) (owner_eq : a.bytes = c.owner)
      (charged : l.Charges a (c.fee ctx) l') : Leaves c ctx l l'

namespace Engine

variable {c : Contract} {ctx : Context} {l : Ledger}

theorem leaves_settle : c.Leaves ctx l (settle l c ctx).2 := by
  by_cases h : ctx.policy.failedFee = .recordOnly ∨ c.fee ctx = 0
  · rw [settle_of_recorded h]
    exact .same
  · by_cases hfee : Uncollectable l c.owner (c.fee ctx)
    · rw [settle_of_uncollectable h hfee]
      exact .same
    · obtain ⟨a, l', ha, hcharged, heq⟩ := settle_of_collectable h hfee
      rw [heq]
      exact .charge a l' ha (yields_chargeFee.1 hcharged)

/-- **What a run leaves of a ledger.** -/
theorem leaves_run : c.Leaves ctx l (run c ctx l).2 := by
  rcases yields_or_fails (c.execute ctx) l with ⟨_, l', h⟩ | ⟨fault, h⟩
  · rw [run_of_yields h]
    exact .effect l' (Contract.yields_execute_iff.1 h)
  · rw [run_of_fails h]
    exact leaves_settle

end Engine

/-- No run changes the sink or the parameters. -/
theorem Contract.Leaves.fixed {c : Contract} {ctx : Context} {l l' : Ledger}
    (h : c.Leaves ctx l l') : l'.sink = l.sink ∧ l'.parameters = l.parameters := by
  cases h with
  | same => exact ⟨rfl, rfl⟩
  | effect _ done =>
      have hdone : Yields (c.execute ctx) l () l' := Contract.yields_execute_iff.2 done
      exact hdone.fixed
  | charge a _ owner_eq charged =>
      have hcharged : Yields (Update.chargeFee a (c.fee ctx)) l () l' := yields_chargeFee.2 charged
      exact hcharged.fixed

/-- Every run keeps accounts under their own address. -/
theorem Contract.Leaves.accountsKeyed {c : Contract} {ctx : Context} {l l' : Ledger}
    (h : c.Leaves ctx l l') (hl : l.AccountsKeyed) : l'.AccountsKeyed := by
  cases h with
  | same => exact hl
  | effect _ done =>
      have hdone : Yields (c.execute ctx) l () l' := Contract.yields_execute_iff.2 done
      exact hdone.accountsKeyed hl
  | charge a _ owner_eq charged => exact charged.accountsKeyed hl

/-- And every record under its own key. -/
theorem Contract.Leaves.keyedByRecord {c : Contract} {ctx : Context} {l l' : Ledger}
    (h : c.Leaves ctx l l') (hl : l.KeyedByRecord) : l'.KeyedByRecord := by
  cases h with
  | same => exact hl
  | effect _ done =>
      have hdone : Yields (c.execute ctx) l () l' := Contract.yields_execute_iff.2 done
      exact hdone.keyedByRecord hl
  | charge a _ owner_eq charged =>
      have hcharged : Yields (Update.chargeFee a (c.fee ctx)) l () l' := yields_chargeFee.2 charged
      exact hcharged.keyedByRecord hl

/-! ### Contracts that are checked first -/

namespace Engine

variable {c : Contract} {ctx : Context} {l : Ledger}

/-- An admissible contract is run. -/
theorem apply_of_admissible (h : c.Admissible ctx l) : apply c ctx l = run c ctx l := by
  have hcheck : validate c ctx l = .ok () := Contract.check_eq_ok_iff.2 h
  rw [apply, hcheck]

/-- A contract that is not admissible is rejected, and the ledger stays as it is. -/
theorem apply_of_not_admissible (h : ¬ c.Admissible ctx l) :
    ∃ reason, apply c ctx l = (.error (.rejected reason), l) := by
  cases hcheck : validate c ctx l with
  | error reason => exact ⟨reason, by rw [apply, hcheck]⟩
  | ok _ => exact absurd (Contract.check_eq_ok_iff.1 hcheck) h

/-- What a checked run leaves: nothing new unless the contract is admissible. -/
theorem leaves_apply :
    (apply c ctx l).2 = l ∨ c.Admissible ctx l ∧ c.Leaves ctx l (apply c ctx l).2 := by
  by_cases h : c.Admissible ctx l
  · rw [apply_of_admissible h]
    exact .inr ⟨h, leaves_run⟩
  · obtain ⟨reason, hrejected⟩ := apply_of_not_admissible h
    rw [hrejected]
    exact .inl rfl

/-- What a contract that is checked first can come to on a ledger: it is rejected, or it succeeds with
its effect, or it fails and nothing but its fee is taken, if that. -/
inductive Applies (c : Contract) (ctx : Context) (l : Ledger) :
    Except Failure Receipt × Ledger → Prop
  | rejected (reason : Rejection) : Applies c ctx l (.error (.rejected reason), l)
  | succeeded (l' : Ledger) (admissible : c.Admissible ctx l) (done : c.Effect ctx l l') :
      Applies c ctx l (.ok ⟨c.fee ctx, .success⟩, l')
  | unpaid (receipt : Receipt) (fault : Fault)
      (recorded : ctx.policy.failedFee = .recordOnly ∨ receipt.fee = 0) :
      Applies c ctx l (.error (.failed receipt fault), l)
  | paid (a : Address) (fault : Fault) (l' : Ledger) (rule : ctx.policy.failedFee = .charge)
      (owner_eq : a.bytes = c.owner) (charged : l.Charges a (c.fee ctx) l') :
      Applies c ctx l (.error (.failed ⟨c.fee ctx, .failed⟩ fault), l')

/-- **What becomes of a contract that is checked first.** -/
theorem applies_apply (c : Contract) (ctx : Context) (l : Ledger) :
    Applies c ctx l (apply c ctx l) := by
  by_cases hc : c.Admissible ctx l
  · rw [apply_of_admissible hc]
    rcases yields_or_fails (c.execute ctx) l with ⟨_, l', h⟩ | ⟨fault, h⟩
    · rw [run_of_yields h]
      exact .succeeded l' hc (Contract.yields_execute_iff.1 h)
    · rw [run_of_fails h]
      by_cases hrecorded : ctx.policy.failedFee = .recordOnly ∨ c.fee ctx = 0
      · rw [settle_of_recorded hrecorded]
        exact .unpaid _ fault hrecorded
      · by_cases hfee : Uncollectable l c.owner (c.fee ctx)
        · rw [settle_of_uncollectable hrecorded hfee]
          exact .unpaid _ fault (.inr rfl)
        · obtain ⟨a, l', ha, hcharged, heq⟩ := settle_of_collectable hrecorded hfee
          have hrule : ctx.policy.failedFee = .charge := by
            cases hrule : ctx.policy.failedFee with
            | charge => rfl
            | recordOnly => exact absurd (.inl hrule) hrecorded
          rw [heq]
          exact .paid a fault l' hrule ha (yields_chargeFee.1 hcharged)
  · obtain ⟨reason, hrejected⟩ := apply_of_not_admissible hc
    rw [hrejected]
    exact .rejected reason

/-- In short: the contract succeeds with its effect, or it does not and moves its fee at most. -/
theorem succeeds_or_not (hl : l.AccountsKeyed) (c : Contract) (ctx : Context) :
    ((apply c ctx l).1.isOk = true ∧ c.Admissible ctx l ∧ c.Effect ctx l (apply c ctx l).2) ∨
      ((apply c ctx l).1.isOk = false ∧ Ledger.SameButBalances l (apply c ctx l).2) := by
  have happlies := applies_apply c ctx l
  generalize apply c ctx l = outcome at happlies ⊢
  cases happlies with
  | rejected reason => exact .inr ⟨rfl, .refl l⟩
  | succeeded l' admissible done => exact .inl ⟨rfl, admissible, done⟩
  | unpaid receipt fault recorded => exact .inr ⟨rfl, .refl l⟩
  | paid a fault l' rule owner_eq charged => exact .inr ⟨rfl, charged.sameButBalances hl⟩

/-- A contract that succeeds is admissible, costs its fee and leaves its effect. -/
theorem effect_of_apply {receipt : Receipt} {l' : Ledger} (h : apply c ctx l = (.ok receipt, l')) :
    receipt = ⟨c.fee ctx, .success⟩ ∧ c.Admissible ctx l ∧ c.Effect ctx l l' := by
  have happlies := applies_apply c ctx l
  rw [h] at happlies
  cases happlies with
  | succeeded _ admissible done => exact ⟨rfl, admissible, done⟩

/-- No checked run changes the sink or the parameters. -/
theorem fixed_apply :
    (apply c ctx l).2.sink = l.sink ∧ (apply c ctx l).2.parameters = l.parameters := by
  rcases leaves_apply with h | ⟨-, h⟩
  · rw [h]
    exact ⟨rfl, rfl⟩
  · exact h.fixed

theorem accountsKeyed_apply (hl : l.AccountsKeyed) : (apply c ctx l).2.AccountsKeyed := by
  rcases leaves_apply with h | ⟨-, h⟩
  · rw [h]
    exact hl
  · exact h.accountsKeyed hl

theorem keyedByRecord_apply (hl : l.KeyedByRecord) : (apply c ctx l).2.KeyedByRecord := by
  rcases leaves_apply with h | ⟨-, h⟩
  · rw [h]
    exact hl
  · exact h.keyedByRecord hl

end Engine

end AccountLedger
