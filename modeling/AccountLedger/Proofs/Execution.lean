/-
**What an execution yields.**

An execution that is carried out directly on a ledger either yields an answer and a ledger or fails.
Both are decided step by step: this module has one law for each way of composing executions and one
for each of their steps.

Main definitions:

* `Yields`, `Fails` — the two outcomes of an execution on a ledger.

Main results:

* `yields_bind`, `fails_bind` — an execution after another;
* `yields_adjustBalance`, `yields_adjustBalance_neg`, `yields_chargeFee` — **the balance steps yield
  exactly what `Ledger.Adjusts`, `Ledger.Pays` and `Ledger.Charges` relate.**
-/

import AccountLedger.Engine.Steps
import AccountLedger.Proofs.Movement

set_option relaxedAutoImplicit false
set_option autoImplicit false

namespace AccountLedger

variable {ε α β : Type}

/-! ### Carrying out one step after another -/

theorem runOn_run_bind (e : ExceptT ε Update α) (f : α → ExceptT ε Update β) (l : Ledger) :
    (e >>= f).run.runOn l =
      match e.run.runOn l with
      | (.ok a, m) => (f a).run.runOn m
      | (.error x, m) => (.error x, m) := by
  rw [ExceptT.run_bind, Update.runOn_bind]
  rcases e.run.runOn l with ⟨x | a, m⟩
  · rfl
  · rfl

theorem runOn_run_lift (u : Update α) (l : Ledger) :
    (liftM u : ExceptT ε Update α).run.runOn l = (.ok (u.runOn l).1, (u.runOn l).2) :=
  Update.runOn_bind u (fun a => pure (Except.ok a)) l

theorem runOn_run_mk (x : Except ε α) (l : Ledger) :
    (ExceptT.mk (pure x) : ExceptT ε Update α).run.runOn l = (x, l) := rfl

theorem runOn_run_adapt {ε' : Type} (e : ExceptT ε Update α) (f : ε → ε') (l : Ledger) :
    (e.adapt f).run.runOn l = ((e.run.runOn l).1.mapError f, (e.run.runOn l).2) :=
  Update.runOn_bind e.run (fun x => pure (x.mapError f)) l

/-- No update changes the sink or the parameters. -/
theorem Update.fixed_runOn (u : Update α) (l : Ledger) :
    (u.runOn l).2.sink = l.sink ∧ (u.runOn l).2.parameters = l.parameters := by
  induction u generalizing l with
  | done a => exact ⟨rfl, rfl⟩
  | readAccount a next ih => exact ih _ l
  | readAsset n next ih => exact ih _ l
  | readWitness a next ih => exact ih _ l
  | readParameters next ih => exact ih _ l
  | readSink next ih => exact ih _ l
  | writeAccount r next ih => exact ih (l.putAccount r)
  | writeAsset r next ih => exact ih (l.putAsset r)
  | writeWitness r next ih => exact ih (l.putWitness r)

/-- Every update keeps accounts under their own address. -/
theorem Update.accountsKeyed_runOn (u : Update α) {l : Ledger} (hl : l.AccountsKeyed) :
    (u.runOn l).2.AccountsKeyed := by
  induction u generalizing l with
  | done a => exact hl
  | readAccount a next ih => exact ih _ hl
  | readAsset n next ih => exact ih _ hl
  | readWitness a next ih => exact ih _ hl
  | readParameters next ih => exact ih _ hl
  | readSink next ih => exact ih _ hl
  | writeAccount r next ih => exact ih (hl.putAccount r)
  | writeAsset r next ih => exact ih (hl.putAsset r)
  | writeWitness r next ih => exact ih (hl.putWitness r)

/-- And every record under its own key. -/
theorem Update.keyedByRecord_runOn (u : Update α) {l : Ledger} (hl : l.KeyedByRecord) :
    (u.runOn l).2.KeyedByRecord := by
  induction u generalizing l with
  | done a => exact hl
  | readAccount a next ih => exact ih _ hl
  | readAsset n next ih => exact ih _ hl
  | readWitness a next ih => exact ih _ hl
  | readParameters next ih => exact ih _ hl
  | readSink next ih => exact ih _ hl
  | writeAccount r next ih => exact ih (hl.putAccount r)
  | writeAsset r next ih => exact ih (hl.putAsset r)
  | writeWitness r next ih => exact ih (hl.putWitness r)

/-- A change of one balance, as the series of reads and writes that it is. -/
theorem Update.run_adjustBalance (a : Address) (d : Int64) :
    (Update.adjustBalance a d).run = .readAccount a fun found =>
      match found with
      | none => .done (.error (.accountNotFound a))
      | some r =>
          match Amount.add r.balance d with
          | .error e => .done (.error (.arithmetic e))
          | .ok b =>
              if b < 0 then .done (.error (.insufficientBalance a r.balance d))
              else .writeAccount { r with balance := b } (.done (.ok ())) := by
  refine congrArg (Update.readAccount a) (funext fun found => ?_)
  cases found with
  | none => rfl
  | some r =>
      show Update.andThen (Update.andThen (.done (some r)) _) _ = _
      simp only [Update.andThen, Function.comp, ExceptT.bindCont]
      cases Amount.add r.balance d with
      | error e => rfl
      | ok b =>
          by_cases hneg : b < 0
          · simp only [if_pos hneg]
            exact if_pos hneg
          · simp only [if_neg hneg]
            exact if_neg hneg

/-- What a change of one balance answers and leaves. -/
theorem runOn_adjustBalance (a : Address) (d : Int64) (l : Ledger) :
    (Update.adjustBalance a d).run.runOn l =
      match l.account? a with
      | none => (.error (.accountNotFound a), l)
      | some r =>
          match Amount.add r.balance d with
          | .error e => (.error (.arithmetic e), l)
          | .ok b =>
              if b < 0 then (.error (.insufficientBalance a r.balance d), l)
              else (.ok (), l.putAccount { r with balance := b }) := by
  rw [Update.run_adjustBalance, Update.runOn]
  cases l.account? a with
  | none => rfl
  | some r =>
      simp only
      cases Amount.add r.balance d with
      | error e => rfl
      | ok b =>
          simp only
          split
          · rfl
          · rfl

/-! ### Outcomes -/

/-- Carried out on `l`, the execution succeeds with the answer `a` and leaves the ledger `l'`. -/
def Yields (e : ExceptT ε Update α) (l : Ledger) (a : α) (l' : Ledger) : Prop :=
  e.run.runOn l = (.ok a, l')

/-- Carried out on `l`, the execution stops with the error `f`. -/
def Fails (e : ExceptT ε Update α) (l : Ledger) (f : ε) : Prop := (e.run.runOn l).1 = .error f

/-- An execution yields something or fails. -/
theorem yields_or_fails (e : ExceptT ε Update α) (l : Ledger) :
    (∃ a l', Yields e l a l') ∨ ∃ f, Fails e l f := by
  unfold Yields Fails
  rcases e.run.runOn l with ⟨f | a, l'⟩
  · exact .inr ⟨f, rfl⟩
  · exact .inl ⟨a, l', rfl⟩

/-- An execution yields one ledger at most. -/
theorem Yields.unique {e : ExceptT ε Update α} {a b : α} {l l' m : Ledger} (h : Yields e l a l')
    (h' : Yields e l b m) : l' = m := congrArg Prod.snd (h.symm.trans h')

/-- An execution that yields something does not fail. -/
theorem Yields.not_fails {e : ExceptT ε Update α} {a : α} {f : ε} {l l' : Ledger}
    (h : Yields e l a l') : ¬ Fails e l f := by
  intro hf
  cases (congrArg Prod.fst h).symm.trans hf

theorem Yields.fixed {e : ExceptT ε Update α} {a : α} {l l' : Ledger} (h : Yields e l a l') :
    l'.sink = l.sink ∧ l'.parameters = l.parameters := by
  have hfixed := Update.fixed_runOn e.run l
  rwa [h] at hfixed

theorem Yields.accountsKeyed {e : ExceptT ε Update α} {a : α} {l l' : Ledger}
    (h : Yields e l a l') (hl : l.AccountsKeyed) : l'.AccountsKeyed := by
  have hkeyed := Update.accountsKeyed_runOn e.run hl
  rwa [h] at hkeyed

theorem Yields.keyedByRecord {e : ExceptT ε Update α} {a : α} {l l' : Ledger}
    (h : Yields e l a l') (hl : l.KeyedByRecord) : l'.KeyedByRecord := by
  have hkeyed := Update.keyedByRecord_runOn e.run hl
  rwa [h] at hkeyed

theorem yields_pure {a b : α} {l l' : Ledger} :
    Yields (pure b : ExceptT ε Update α) l a l' ↔ a = b ∧ l' = l := by
  constructor
  · intro h
    cases h
    exact ⟨rfl, rfl⟩
  · rintro ⟨rfl, rfl⟩
    rfl

theorem not_yields_throw {a : α} {f : ε} {l l' : Ledger} :
    ¬ Yields (throw f : ExceptT ε Update α) l a l' := nofun

/-- A result that is there already. -/
theorem yields_mk {x : Except ε α} {a : α} {l l' : Ledger} :
    Yields (ExceptT.mk (pure x)) l a l' ↔ x = .ok a ∧ l' = l := by
  rw [Yields, runOn_run_mk, Prod.mk.injEq]
  exact and_congr_right fun _ => eq_comm

/-- An execution after another succeeds iff both do, the second on what the first leaves. -/
theorem yields_bind {e : ExceptT ε Update α} {f : α → ExceptT ε Update β} {l l'' : Ledger} {b : β} :
    Yields (e >>= f) l b l'' ↔ ∃ a l', Yields e l a l' ∧ Yields (f a) l' b l'' := by
  simp only [Yields, runOn_run_bind]
  rcases e.run.runOn l with ⟨x | a, m⟩
  · constructor
    · intro h; cases h
    · rintro ⟨a, l', h, -⟩; cases h
  · constructor
    · intro h
      exact ⟨a, m, rfl, h⟩
    · rintro ⟨a', l', h, h'⟩
      cases h
      exact h'

theorem not_yields_throw_bind {f : ε} {rest : α → ExceptT ε Update β} {b : β} {l l' : Ledger} :
    ¬ Yields (throw f >>= rest) l b l' := by
  intro h
  obtain ⟨_, _, h, -⟩ := yields_bind.1 h
  exact not_yields_throw h

/-- An execution after another fails iff the first does, or the second on what the first leaves. -/
theorem fails_bind {e : ExceptT ε Update α} {f : α → ExceptT ε Update β} {l : Ledger} {x : ε} :
    Fails (e >>= f) l x ↔ Fails e l x ∨ ∃ a l', Yields e l a l' ∧ Fails (f a) l' x := by
  simp only [Yields, Fails, runOn_run_bind]
  rcases e.run.runOn l with ⟨y | a, m⟩
  · constructor
    · intro h
      cases h
      exact .inl rfl
    · rintro (h | ⟨a, l', h, -⟩)
      · cases h
        rfl
      · cases h
  · constructor
    · intro h
      exact .inr ⟨a, m, rfl, h⟩
    · rintro (h | ⟨a', l', h, h'⟩)
      · cases h
      · cases h
        exact h'

/-! ### Balance steps -/

theorem yields_adjustBalance {a : Address} {d : Int64} {u : Unit} {l l' : Ledger} :
    Yields (Update.adjustBalance a d) l u l' ↔ l.Adjusts a d.toInt l' := by
  rw [Yields, runOn_adjustBalance]
  constructor
  · intro h
    split at h
    · cases h
    · next r hr =>
        split at h
        · cases h
        · next b hb =>
            split at h
            · cases h
            · next hneg =>
                cases h
                rw [Int64.lt_iff_toInt_lt, Amount.toInt_zero, Int.not_lt] at hneg
                exact .intro r b hr (Amount.add_eq_ok_iff.1 hb) hneg
  · intro h
    cases h with
    | intro r b found exact nonneg =>
        have hneg : ¬ b < 0 := by
          rw [Int64.lt_iff_toInt_lt, Amount.toInt_zero]
          omega
        simp only [found, Amount.add_eq_ok_iff.2 exact, if_neg hneg]

/-- An amount is taken by adding its opposite.  Where there is no opposite the step fails, since no
balance is large enough. -/
theorem yields_adjustBalance_neg {a : Address} {x : Int64} {u : Unit} {l l' : Ledger} :
    Yields (Update.adjustBalance a (-x)) l u l' ↔ l.Pays a x l' := by
  rw [yields_adjustBalance]
  constructor
  · intro h
    have hne : x.toInt ≠ -9223372036854775808 := by
      intro hx
      rw [Amount.toInt_neg_least hx] at h
      cases h with
      | intro r b found exact nonneg =>
          have := Int64.toInt_lt r.balance
          omega
    rw [Amount.toInt_neg_of_ne hne] at h
    exact ⟨hne, h⟩
  · rintro ⟨hne, h⟩
    rwa [Amount.toInt_neg_of_ne hne]

theorem yields_chargeFee {a : Address} {x : Int64} {u : Unit} {l l' : Ledger} :
    Yields (Update.chargeFee a x) l u l' ↔ l.Charges a x l' := by
  unfold Update.chargeFee
  split
  · next hx =>
      rw [yields_pure]
      constructor
      · rintro ⟨-, rfl⟩
        exact .free hx
      · intro h
        cases h with
        | free zero => exact ⟨rfl, rfl⟩
        | taken m _ ne_zero paid received => exact absurd hx ne_zero
  · next hx =>
      simp only [yields_bind, yields_adjustBalance_neg]
      constructor
      · rintro ⟨-, m, hpaid, s, m', hread, h⟩
        cases hread
        exact .taken m l' hx hpaid (yields_adjustBalance.1 h)
      · intro h
        cases h with
        | free zero => exact absurd zero hx
        | taken m _ ne_zero paid received =>
            exact ⟨(), m, paid, m.sink, m, rfl, yields_adjustBalance.2 received⟩

/-! ### The steps of executions -/

namespace Execution

theorem ok_of_mapError {ε' : Type} {x : Except ε α} {f : ε → ε'} {a : α} :
    x.mapError f = .ok a ↔ x = .ok a := by
  cases x with
  | error e => exact ⟨nofun, nofun⟩
  | ok b =>
      constructor
      · rintro ⟨⟩
        rfl
      · rintro ⟨⟩
        rfl

theorem yields_compute {x : Except ArithmeticError α} {a : α} {l l' : Ledger} :
    Yields (compute x) l a l' ↔ x = .ok a ∧ l' = l := by
  rw [compute, yields_mk, ok_of_mapError]

theorem fails_compute {x : Except ArithmeticError α} {l : Ledger} {e : ArithmeticError}
    (h : x = .error e) : Fails (compute x) l (.arithmetic e) := by
  rw [h]
  rfl

theorem yields_address {bs : Bytes} {a : Address} {l l' : Ledger} :
    Yields (address bs) l a l' ↔ a.bytes = bs ∧ l' = l := by
  rw [address, yields_mk, ok_of_mapError, Address.ofBytes_eq_ok_iff]

theorem yields_step {u : Update α} {a : α} {l l' : Ledger} :
    Yields (step u) l a l' ↔ u.runOn l = (a, l') := by
  rw [Yields, step, show ExceptT.lift u = (liftM u : Execution α) from rfl, runOn_run_lift]
  rcases u.runOn l with ⟨b, m⟩
  simp only [Prod.mk.injEq, Except.ok.injEq]

theorem yields_account {role : Role} {a : Address} {r : Account} {l l' : Ledger} :
    Yields (account role a) l r l' ↔ l.account? a = some r ∧ l' = l := by
  rw [account, yields_bind]
  constructor
  · rintro ⟨found, m, hread, h⟩
    cases yields_step.1 hread
    split at h
    · exact absurd h not_yields_throw
    · next s hs =>
        obtain ⟨rfl, rfl⟩ := yields_pure.1 h
        exact ⟨hs, rfl⟩
  · rintro ⟨hr, rfl⟩
    refine ⟨some r, l', ?_, yields_pure.2 ⟨rfl, rfl⟩⟩
    rw [yields_step, Update.runOn_account?, hr]

theorem yields_put {r : Account} {u : Unit} {l l' : Ledger} :
    Yields (put r) l u l' ↔ l' = l.putAccount r := by
  rw [put, yields_step, Update.runOn_putAccount, Prod.mk.injEq]
  exact ⟨fun h => h.2.symm, fun h => ⟨rfl, h.symm⟩⟩

theorem yields_perform {x : ExceptT StoreError Update α} {a : α} {l l' : Ledger} :
    Yields (perform x) l a l' ↔ Yields x l a l' := by
  rw [Yields, perform, runOn_run_adapt, Yields]
  rcases x.run.runOn l with ⟨e | b, m⟩
  · exact ⟨nofun, nofun⟩
  · constructor
    · rintro ⟨⟩
      rfl
    · rintro ⟨⟩
      rfl

theorem yields_adjust {a : Address} {d : Int64} {u : Unit} {l l' : Ledger} :
    Yields (adjust a d) l u l' ↔ l.Adjusts a d.toInt l' := by
  rw [adjust, yields_perform, yields_adjustBalance]

theorem yields_adjust_neg {a : Address} {x : Int64} {u : Unit} {l l' : Ledger} :
    Yields (adjust a (-x)) l u l' ↔ l.Pays a x l' := by
  rw [adjust, yields_perform, yields_adjustBalance_neg]

theorem yields_charge {a : Address} {x : Int64} {u : Unit} {l l' : Ledger} :
    Yields (charge a x) l u l' ↔ l.Charges a x l' := by
  rw [charge, yields_perform, yields_chargeFee]

end Execution

end AccountLedger
