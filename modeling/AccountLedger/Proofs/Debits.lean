/-
**What executions take from balances.**

An execution lowers a balance by adding an opposite that is formed without a check.  Which amounts
these are is a short table for each contract; that the table leaves nothing out is read off the records
that an execution writes.

Main definitions:

* `Update.drops` — by how much the records that an update writes lower balances;
* `Lowers` — they are lowered by amounts of a row only;
* `Contract.debits` — the amounts that a contract takes by their opposites.

Main results:

* `lowers_bind` — an execution after another;
* `Contract.Admissible.lowers` — **an admissible contract lowers balances by its debits only**, and so
  does the collection of its fee (`Contract.lowers_chargeFee`);
* `Contract.Admissible.debits_nonneg` — none of which is negative.
-/

import AccountLedger.Proofs.Balances
import AccountLedger.Proofs.Soundness

set_option relaxedAutoImplicit false
set_option autoImplicit false

namespace AccountLedger

/-! ### Lowered balances -/

/-- By how much the records that an update writes lower balances, record by record. -/
def Update.drops {α : Type} : Update α → Ledger → List Int
  | done _, _ => []
  | readAccount a next, l => (next (l.account? a)).drops l
  | readAsset n next, l => (next (l.asset? n)).drops l
  | readWitness a next, l => (next (l.witness? a)).drops l
  | readParameters next, l => (next l.parameters).drops l
  | readSink next, l => (next l.sink).drops l
  | writeAccount r next, l =>
      let lost := l.balanceOf r.address - r.balance.toInt
      (if 0 < lost then [lost] else []) ++ next.drops (l.putAccount r)
  | writeAsset r next, l => next.drops (l.putAsset r)
  | writeWitness r next, l => next.drops (l.putWitness r)

/-- An update after another drops what both drop, the second from the ledger the first leaves. -/
theorem Update.drops_bind {α β : Type} (u : Update α) (f : α → Update β) (l : Ledger) :
    (u >>= f).drops l = u.drops l ++ (f (u.runOn l).1).drops (u.runOn l).2 := by
  show (u.andThen f).drops l = _
  induction u generalizing l with
  | done a => rfl
  | readAccount a next ih => exact ih _ l
  | readAsset n next ih => exact ih _ l
  | readWitness a next ih => exact ih _ l
  | readParameters next ih => exact ih _ l
  | readSink next ih => exact ih _ l
  | writeAccount r next ih =>
      simp only [andThen, drops, runOn, List.append_assoc, ih]
  | writeAsset r next ih => exact ih _
  | writeWitness r next ih => exact ih _

/-- Where a record that the execution writes lowers a balance, it does so by an amount of a row. -/
def Lowers {ε α : Type} (xs : List Int64) (e : ExceptT ε Update α) (l : Ledger) : Prop :=
  ∀ d ∈ e.run.drops l, ∃ x ∈ xs, x.toInt = d

section

variable {ε α β : Type} {xs : List Int64} {l : Ledger}

theorem lowers_of_drops_eq_nil {e : ExceptT ε Update α} (h : e.run.drops l = []) :
    Lowers xs e l := by
  intro d hd
  rw [h] at hd
  cases hd

/-- An execution after another lowers what both lower, the second on what the first leaves. -/
theorem lowers_bind {e : ExceptT ε Update α} {f : α → ExceptT ε Update β} :
    Lowers xs (e >>= f) l ↔ Lowers xs e l ∧ ∀ a m, Yields e l a m → Lowers xs (f a) m := by
  unfold Lowers Yields
  rw [ExceptT.run_bind, Update.drops_bind]
  rcases e.run.runOn l with ⟨x | a, m⟩
  · constructor
    · intro h
      exact ⟨fun d hd => h d (List.mem_append_left _ hd), nofun⟩
    · rintro ⟨h, -⟩ d hd
      rcases List.mem_append.1 hd with hd | hd
      · exact h d hd
      · cases hd
  · constructor
    · intro h
      refine ⟨fun d hd => h d (List.mem_append_left _ hd), fun b n hyields d hd => ?_⟩
      cases hyields
      exact h d (List.mem_append_right _ hd)
    · rintro ⟨h, hrest⟩ d hd
      rcases List.mem_append.1 hd with hd | hd
      · exact h d hd
      · exact hrest a m rfl d hd

theorem lowers_unit_bind {e : ExceptT ε Update Unit} {f : Unit → ExceptT ε Update β} :
    Lowers xs (e >>= f) l ↔ Lowers xs e l ∧ ∀ m, Yields e l () m → Lowers xs (f ()) m := by
  rw [lowers_bind]
  exact and_congr_right fun _ => ⟨fun h => h (), fun h _ => h⟩

theorem lowers_throw_bind {f : ε} {rest : α → ExceptT ε Update β} :
    Lowers xs (throw f >>= rest) l := lowers_of_drops_eq_nil rfl

/-- A change of one balance lowers it by the opposite of the change, if at all. -/
theorem lowers_adjustBalance (hl : l.AccountsKeyed) {a : Address} {d : Int64}
    (hd : d.toInt < 0 → ∃ x ∈ xs, x.toInt = -d.toInt) : Lowers xs (Update.adjustBalance a d) l := by
  unfold Lowers
  rw [Update.run_adjustBalance, Update.drops]
  cases hr : l.account? a with
  | none => exact List.forall_mem_nil _
  | some r =>
      simp only
      cases hb : Amount.add r.balance d with
      | error e => exact List.forall_mem_nil _
      | ok b =>
          simp only
          by_cases hneg : b < 0
          · rw [if_pos hneg]
            exact List.forall_mem_nil _
          · have hexact := Amount.add_eq_ok_iff.1 hb
            have hbefore : l.balanceOf r.address = r.balance.toInt := by
              rw [Ledger.balanceOf, hl a r hr, hr, Option.elim_some]
            simp only [if_neg hneg, Update.drops, List.append_nil, hbefore]
            split
            · next hlost =>
                intro x hx
                obtain rfl := List.mem_singleton.1 hx
                obtain ⟨y, hy, hexact'⟩ := hd (by omega)
                exact ⟨y, hy, by omega⟩
            · exact List.forall_mem_nil _

/-- What is taken by adding the opposite of an amount that is not negative. -/
theorem lowers_adjustBalance_neg (hl : l.AccountsKeyed) {a : Address} {x : Int64} (hx : x ∈ xs)
    (hnonneg : 0 ≤ x.toInt) : Lowers xs (Update.adjustBalance a (-x)) l := by
  have hopposite : (-x).toInt = -x.toInt := Amount.toInt_neg_of_ne (by omega)
  exact lowers_adjustBalance hl fun _ => ⟨x, hx, by omega⟩

theorem lowers_chargeFee (hl : l.AccountsKeyed) {a : Address} {x : Int64} (hx : x ∈ xs)
    (hnonneg : 0 ≤ x.toInt) : Lowers xs (Update.chargeFee a x) l := by
  unfold Update.chargeFee
  split
  · exact lowers_of_drops_eq_nil rfl
  · refine lowers_bind.2 ⟨lowers_adjustBalance_neg hl hx hnonneg, fun _ m hm => ?_⟩
    refine lowers_bind.2 ⟨lowers_of_drops_eq_nil rfl, fun s n hn => ?_⟩
    have hkeyed := Yields.accountsKeyed hn (Yields.accountsKeyed hm hl)
    exact lowers_adjustBalance hkeyed fun hneg => absurd hneg (Int.not_lt.2 hnonneg)

end

/-! ### The steps of executions -/

namespace Execution

variable {α β : Type} {xs : List Int64} {l : Ledger}

theorem lowers_address_bind {bs : Bytes} {rest : Address → Execution β} :
    Lowers xs (address bs >>= rest) l ↔ ∀ a, a.bytes = bs → Lowers xs (rest a) l := by
  rw [lowers_bind, and_iff_right (lowers_of_drops_eq_nil rfl)]
  simp only [yields_address, and_imp, forall_eq_apply_imp_iff]

theorem lowers_compute_bind {x : Except ArithmeticError α} {rest : α → Execution β} :
    Lowers xs (compute x >>= rest) l ↔ ∀ a, x = .ok a → Lowers xs (rest a) l := by
  rw [lowers_bind, and_iff_right (lowers_of_drops_eq_nil rfl)]
  simp only [yields_compute, and_imp, forall_eq_apply_imp_iff]

/-- A step that writes no account. -/
theorem lowers_step_bind {u : Update α} (hu : u.drops l = []) {rest : α → Execution β} :
    Lowers xs (step u >>= rest) l ↔ Lowers xs (rest (u.runOn l).1) (u.runOn l).2 := by
  have hnone : Lowers xs (step u) l := by
    refine lowers_of_drops_eq_nil ?_
    have hdrops := Update.drops_bind u (fun a => pure (Except.ok (ε := Fault) a)) l
    rw [hu] at hdrops
    exact hdrops
  rw [lowers_bind, and_iff_right hnone]
  simp only [yields_step]
  constructor
  · intro h
    exact h _ _ rfl
  · rintro h a m hrun
    rw [hrun] at h
    exact h

theorem lowers_account_bind {role : Role} {a : Address} {rest : Account → Execution β} :
    Lowers xs (account role a >>= rest) l ↔ ∀ r, l.account? a = some r → Lowers xs (rest r) l := by
  have hnone : Lowers xs (account role a) l := by
    rw [account, lowers_step_bind (u := Update.account? a) rfl, Update.runOn_account?]
    cases l.account? a with
    | none => exact lowers_of_drops_eq_nil rfl
    | some r => exact lowers_of_drops_eq_nil rfl
  rw [lowers_bind, and_iff_right hnone]
  simp only [yields_account, and_imp, forall_eq_apply_imp_iff]

/-- A record that is stored with a balance that is not lower. -/
theorem lowers_put {r : Account} (h : l.balanceOf r.address ≤ r.balance.toInt) :
    Lowers xs (put r) l := by
  refine lowers_of_drops_eq_nil ?_
  show (if 0 < l.balanceOf r.address - r.balance.toInt then _ else []) ++ [] = []
  rw [if_neg (by omega), List.append_nil]

/-- A record that is put back over the one found at an address, with a balance that is not lower. -/
theorem lowers_putBack (hl : l.AccountsKeyed) {a : Address} {r s : Account}
    (hr : l.account? a = some r) (hs : s.address = r.address)
    (hle : r.balance.toInt ≤ s.balance.toInt) : Lowers xs (put s) l := by
  refine lowers_put ?_
  rw [hs, hl a r hr, Ledger.balanceOf, hr, Option.elim_some]
  exact hle

/-- Tokens are no part of a balance. -/
theorem lowers_put_credit (hl : l.AccountsKeyed) {a : Address} {r s : Account} {name : String}
    {n : Int64} (hr : l.account? a = some r) (hgiven : r.credit name n = .ok s) :
    Lowers xs (put s) l := by
  obtain ⟨haddress, hbalance, -⟩ := Account.frame_of_credit hgiven
  exact lowers_putBack hl hr haddress (Int.le_of_eq (congrArg Int64.toInt hbalance.symm))

theorem lowers_put_debit (hl : l.AccountsKeyed) {a : Address} {r s : Account} {name : String}
    {n : Int64} (hr : l.account? a = some r) (htaken : r.debit name n = .ok (some s)) :
    Lowers xs (put s) l := by
  obtain ⟨haddress, hbalance, -⟩ := Account.frame_of_debit htaken
  exact lowers_putBack hl hr haddress (Int.le_of_eq (congrArg Int64.toInt hbalance.symm))

theorem lowers_put_bind {r : Account} {rest : Unit → Execution β} :
    Lowers xs (put r >>= rest) l ↔ Lowers xs (put r) l ∧ Lowers xs (rest ()) (l.putAccount r) := by
  simp only [lowers_unit_bind, yields_put, forall_eq]

theorem lowers_perform {e : ExceptT StoreError Update α} (h : Lowers xs e l) :
    Lowers xs (perform e) l := by
  have hdrops : (perform e).run.drops l = e.run.drops l := by
    have hafter := Update.drops_bind e.run (fun x => pure (x.mapError Fault.store)) l
    exact hafter.trans (List.append_nil _)
  unfold Lowers
  rw [hdrops]
  exact h

theorem lowers_adjust (hl : l.AccountsKeyed) {a : Address} {d : Int64} (hd : 0 ≤ d.toInt) :
    Lowers xs (adjust a d) l :=
  lowers_perform (lowers_adjustBalance hl fun hneg => absurd hneg (Int.not_lt.2 hd))

theorem lowers_adjust_neg (hl : l.AccountsKeyed) {a : Address} {x : Int64} (hx : x ∈ xs)
    (hnonneg : 0 ≤ x.toInt) : Lowers xs (adjust a (-x)) l :=
  lowers_perform (lowers_adjustBalance_neg hl hx hnonneg)

theorem lowers_adjust_bind {a : Address} {d : Int64} {rest : Unit → Execution β} :
    Lowers xs (adjust a d >>= rest) l ↔
      Lowers xs (adjust a d) l ∧ ∀ m, l.Adjusts a d.toInt m → Lowers xs (rest ()) m := by
  simp only [lowers_unit_bind, yields_adjust]

theorem lowers_charge (hl : l.AccountsKeyed) {a : Address} {x : Int64} (hx : x ∈ xs)
    (hnonneg : 0 ≤ x.toInt) : Lowers xs (charge a x) l :=
  lowers_perform (lowers_chargeFee hl hx hnonneg)

theorem lowers_charge_bind {a : Address} {x : Int64} {rest : Unit → Execution β} :
    Lowers xs (charge a x >>= rest) l ↔
      Lowers xs (charge a x) l ∧ ∀ m, l.Charges a x m → Lowers xs (rest ()) m := by
  simp only [lowers_unit_bind, yields_charge]

/-- A record that is put back, and a fee after it. -/
theorem lowers_putBack_charge (hl : l.AccountsKeyed) {a payer : Address} {r s : Account} {x : Int64}
    (hr : l.account? a = some r) (hs : s.address = r.address)
    (hle : r.balance.toInt ≤ s.balance.toInt) (hx : x ∈ xs) (hnonneg : 0 ≤ x.toInt) :
    Lowers xs (put s >>= fun _ => charge payer x) l := by
  refine lowers_put_bind.2 ⟨lowers_putBack hl hr hs hle, ?_⟩
  exact lowers_charge (hl.putAccount s) hx hnonneg

/-- What follows the opening of an account runs on the ledger that has it. -/
theorem lowers_opening_iff {a : Address} {now : Int64} {rest : Execution Unit} :
    Lowers xs (if (l.account? a).isNone then put (.opened a .normal now) >>= fun _ => rest
      else rest) l ↔ Lowers xs rest (l.opening a now) := by
  unfold Ledger.opening
  split
  · next habsent =>
      have hnothing : l.balanceOf a = 0 := by
        rw [Ledger.balanceOf, Option.isNone_iff_eq_none.1 habsent, Option.elim_none]
      rw [lowers_put_bind, and_iff_right]
      exact lowers_put (Int.le_of_eq hnothing)
  · exact Iff.rfl

end Execution

/-! ### The debits of a contract -/

namespace Contract

variable {ctx : Context} {l : Ledger} {c : Contract}

/-- The amounts that an execution, or the collection of a fee, takes from a balance by adding the
opposite, which is formed without a check. -/
def debits (c : Contract) (ctx : Context) (l : Ledger) : List Int64 :=
  c.fee ctx :: match c with
    | .transfer c => (Amount.add c.amount (ctx.fee .transfer)).toOption.toList
    | .participateAssetIssue c => [c.amount]
    | .freezeBalance c => [c.amount]
    | .witnessCreate _ =>
        (Amount.add l.parameters.accountUpgradeCost (ctx.fee .witnessCreate)).toOption.toList
    | _ => []

theorem mem_toList_iff {x : Except ArithmeticError Int64} {n : Int64} :
    n ∈ x.toOption.toList ↔ x = .ok n := by
  cases x with
  | error e => exact ⟨nofun, nofun⟩
  | ok m =>
      rw [Except.ok.injEq, eq_comm]
      exact List.mem_singleton

/-- No admissible contract takes a negative amount. -/
theorem Admissible.debits_nonneg (h : c.Admissible ctx l)
    (hcost : 0 ≤ l.parameters.accountUpgradeCost.toInt) (hfees : ∀ k, 0 ≤ (ctx.fee k).toInt) :
    ∀ x ∈ c.debits ctx l, 0 ≤ x.toInt := by
  intro x hx
  rcases List.mem_cons.1 hx with rfl | hx
  · exact hfees _
  · cases c with
    | transfer c =>
        obtain ⟨-, -, -, -, -, -, -, -, -, hpositive, -, -, -, -⟩ := h
        have hfee := hfees .transfer
        have hsum := Amount.add_eq_ok_iff.1 (mem_toList_iff.1 hx)
        omega
    | participateAssetIssue c =>
        obtain ⟨-, -, -, -, -, -, -, -, -, -, -, -, hpositive, -⟩ := h
        obtain rfl := List.mem_singleton.1 hx
        exact Int.le_of_lt hpositive
    | freezeBalance c =>
        obtain ⟨-, -, -, -, -, -, hpositive, -⟩ := h
        obtain rfl := List.mem_singleton.1 hx
        exact Int.le_of_lt hpositive
    | witnessCreate c =>
        have hfee := hfees .witnessCreate
        have hsum := Amount.add_eq_ok_iff.1 (mem_toList_iff.1 hx)
        omega
    | _ => cases hx

end Contract

/-! ### The kinds of contracts

Each execution is walked through once, from its first step to its last.  Amounts are taken only by the
opposites of debits, and a record that is put back has no lower balance than the one that was read. -/

section

open Execution

variable {ctx : Context} {l : Ledger}

theorem Transfer.Admissible.lowers {c : Transfer} (h : c.Admissible ctx l) (hl : l.AccountsKeyed)
    (hnonneg : ∀ x ∈ (Contract.transfer c).debits ctx l, 0 ≤ x.toInt) :
    Lowers ((Contract.transfer c).debits ctx l) (c.execute ctx) l := by
  obtain ⟨-, -, -, -, -, -, -, -, -, hpositive, -, -, -, -⟩ := h
  unfold Transfer.execute
  refine lowers_address_bind.2 fun owner _ => lowers_address_bind.2 fun recipient _ => ?_
  rw [lowers_step_bind (u := Update.account? recipient) rfl]
  refine lowers_opening_iff.2 (lowers_compute_bind.2 fun total htotal => ?_)
  have hopened : (l.opening recipient ctx.now).AccountsKeyed := hl.opening
  have hmem : total ∈ (Contract.transfer c).debits ctx l :=
    List.mem_cons_of_mem _ (Contract.mem_toList_iff.2 htotal)
  refine lowers_adjust_bind.2 ⟨lowers_adjust_neg hopened hmem (hnonneg total hmem), fun m hm => ?_⟩
  have hpaid := hm.accountsKeyed hopened
  refine lowers_adjust_bind.2 ⟨lowers_adjust hpaid (Int.le_of_lt hpositive), fun n hn => ?_⟩
  split
  · rw [lowers_step_bind (u := Update.sink) rfl]
    exact lowers_adjust (hn.accountsKeyed hpaid) (hnonneg _ List.mem_cons_self)
  · exact lowers_of_drops_eq_nil rfl

theorem AccountUpdate.Admissible.lowers {c : AccountUpdate} (h : c.Admissible ctx l)
    (hl : l.AccountsKeyed) (hfee : 0 ≤ (ctx.fee .accountUpdate).toInt) :
    Lowers ((Contract.accountUpdate c).debits ctx l) (c.execute ctx) l := by
  unfold AccountUpdate.execute
  refine lowers_address_bind.2 fun owner howner => ?_
  cases h with
  | renamed _ _ rule _ _ _ _ =>
      rw [rule]
      refine lowers_account_bind.2 fun account hfound => ?_
      exact lowers_putBack_charge hl hfound rfl (Int.le_refl _) List.mem_cons_self hfee
  | opened owner' rule _ owner_eq absent _ =>
      obtain rfl := Address.ext (owner_eq.trans howner.symm)
      have hnothing : l.balanceOf owner' = 0 := by
        rw [Ledger.balanceOf, absent, Option.elim_none]
      rw [rule]
      refine lowers_put_bind.2 ⟨lowers_put (Int.le_of_eq hnothing), ?_⟩
      exact lowers_charge (hl.putAccount _) List.mem_cons_self hfee

theorem AssetIssue.lowers {c : AssetIssue} (hl : l.AccountsKeyed)
    (hfee : 0 ≤ (ctx.fee .assetIssue).toInt) :
    Lowers ((Contract.assetIssue c).debits ctx l) (c.execute ctx) l := by
  unfold AssetIssue.execute
  refine lowers_address_bind.2 fun owner _ => ?_
  rw [lowers_step_bind (u := Update.putAsset _) rfl]
  have hput : (l.putAsset (c.asset owner)).AccountsKeyed := hl
  refine lowers_charge_bind.2 ⟨lowers_charge hput List.mem_cons_self hfee, fun m hm => ?_⟩
  refine lowers_account_bind.2 fun account hfound => lowers_compute_bind.2 fun credited hgiven => ?_
  exact lowers_put_credit (hm.accountsKeyed hput) hfound hgiven

theorem TransferAsset.lowers {c : TransferAsset} (hl : l.AccountsKeyed)
    (hfee : 0 ≤ (ctx.fee .transferAsset).toInt) :
    Lowers ((Contract.transferAsset c).debits ctx l) (c.execute ctx) l := by
  unfold TransferAsset.execute
  refine lowers_address_bind.2 fun owner _ => lowers_address_bind.2 fun recipient _ => ?_
  refine lowers_account_bind.2 fun account hfound => lowers_compute_bind.2 fun taken htaken => ?_
  cases taken with
  | none => exact lowers_throw_bind
  | some debited =>
      have hput := hl.putAccount debited
      refine lowers_put_bind.2 ⟨lowers_put_debit hl hfound htaken, ?_⟩
      refine lowers_account_bind.2 fun receiver hreceiving =>
        lowers_compute_bind.2 fun credited hgiven => ?_
      refine lowers_put_bind.2 ⟨lowers_put_credit hput hreceiving hgiven, ?_⟩
      exact lowers_charge (hput.putAccount credited) List.mem_cons_self hfee

theorem ParticipateAssetIssue.Admissible.lowers {c : ParticipateAssetIssue}
    (h : c.Admissible ctx l) (hl : l.AccountsKeyed)
    (hfee : 0 ≤ (ctx.fee .participateAssetIssue).toInt) :
    Lowers ((Contract.participateAssetIssue c).debits ctx l) (c.execute ctx) l := by
  obtain ⟨-, -, -, -, -, -, -, -, -, -, -, -, hpositive, -⟩ := h
  have hamount : 0 ≤ c.amount.toInt := Int.le_of_lt hpositive
  have hmem : c.amount ∈ (Contract.participateAssetIssue c).debits ctx l :=
    List.mem_cons_of_mem _ (List.mem_singleton_self c.amount)
  unfold ParticipateAssetIssue.execute
  refine lowers_address_bind.2 fun owner _ => lowers_address_bind.2 fun issuer _ => ?_
  rw [lowers_step_bind (u := Update.asset? _) rfl, Update.runOn_asset?]
  cases l.asset? (Utf8.repair c.asset) with
  | none => exact lowers_throw_bind
  | some asset =>
      refine lowers_compute_bind.2 fun tokens _ => ?_
      refine lowers_adjust_bind.2 ⟨lowers_adjust_neg hl hmem hamount, fun m hm => ?_⟩
      have hpaid := hm.accountsKeyed hl
      refine lowers_account_bind.2 fun buyer hbuying =>
        lowers_compute_bind.2 fun bought hgiven => ?_
      refine lowers_put_bind.2 ⟨lowers_put_credit hpaid hbuying hgiven, ?_⟩
      have hput := hpaid.putAccount bought
      refine lowers_adjust_bind.2 ⟨lowers_adjust hput hamount, fun n hn => ?_⟩
      have hreceived := hn.accountsKeyed hput
      refine lowers_account_bind.2 fun seller hselling =>
        lowers_compute_bind.2 fun taken htaken => ?_
      cases taken with
      | none => exact lowers_throw_bind
      | some sold =>
          refine lowers_put_bind.2 ⟨lowers_put_debit hreceived hselling htaken, ?_⟩
          exact lowers_charge (hreceived.putAccount sold) List.mem_cons_self hfee

/-- Merging locks reads and writes nothing. -/
theorem FreezeBalance.lowers_merged {owner : Address} {locks : List Lock} {amount expiry : Int64}
    {xs : List Int64} : Lowers xs (merged owner locks amount expiry) l := by
  unfold merged
  split
  · exact lowers_of_drops_eq_nil rfl
  · exact lowers_compute_bind.2 fun _ _ => lowers_of_drops_eq_nil rfl
  · exact lowers_of_drops_eq_nil rfl

theorem FreezeBalance.Admissible.lowers {c : FreezeBalance} (h : c.Admissible ctx l)
    (hl : l.AccountsKeyed) (hfee : 0 ≤ (ctx.fee .freezeBalance).toInt) :
    Lowers ((Contract.freezeBalance c).debits ctx l) (c.execute ctx) l := by
  obtain ⟨-, -, -, -, -, -, hpositive, -⟩ := h
  have hmem : c.amount ∈ (Contract.freezeBalance c).debits ctx l :=
    List.mem_cons_of_mem _ (List.mem_singleton_self c.amount)
  unfold FreezeBalance.execute
  refine lowers_address_bind.2 fun owner _ => ?_
  rw [lowers_step_bind (u := Update.parameters) rfl]
  refine lowers_adjust_bind.2 ⟨lowers_adjust_neg hl hmem (Int.le_of_lt hpositive), fun m hm => ?_⟩
  have hpaid := hm.accountsKeyed hl
  refine lowers_account_bind.2 fun account hfound => lowers_compute_bind.2 fun duration _ => ?_
  refine lowers_compute_bind.2 fun expiry _ => lowers_bind.2 ⟨lowers_merged, fun locks n hn => ?_⟩
  obtain ⟨-, rfl⟩ := yields_merged_iff.1 hn
  refine lowers_compute_bind.2 fun credit _ => lowers_compute_bind.2 fun bandwidth _ => ?_
  exact lowers_putBack_charge hpaid hfound rfl (Int.le_refl _) List.mem_cons_self hfee

/-- What is released comes back into the balance, and on a sound record it is not negative. -/
theorem UnfreezeBalance.lowers {c : UnfreezeBalance} (hl : l.AccountsKeyed)
    (hsound : ∀ a r, l.account? a = some r → r.Sound l)
    (hfee : 0 ≤ (ctx.fee .unfreezeBalance).toInt) :
    Lowers ((Contract.unfreezeBalance c).debits ctx l) (c.execute ctx) l := by
  unfold UnfreezeBalance.execute
  refine lowers_address_bind.2 fun owner _ => lowers_account_bind.2 fun account hfound => ?_
  refine lowers_compute_bind.2 fun released hreleased => lowers_compute_bind.2 fun b hb => ?_
  have hnonneg := (hsound owner account hfound).released_nonneg hreleased
  have hexact := Amount.add_eq_ok_iff.1 hb
  have hle : account.balance.toInt ≤ b.toInt := by omega
  exact lowers_putBack_charge hl hfound rfl hle List.mem_cons_self hfee

theorem WitnessCreate.lowers {c : WitnessCreate} (hl : l.AccountsKeyed)
    (hnonneg : ∀ x ∈ (Contract.witnessCreate c).debits ctx l, 0 ≤ x.toInt) :
    Lowers ((Contract.witnessCreate c).debits ctx l) (c.execute ctx) l := by
  unfold WitnessCreate.execute
  refine lowers_address_bind.2 fun owner _ => ?_
  rw [lowers_step_bind (u := Update.parameters) rfl, lowers_step_bind (u := Update.putWitness _) rfl]
  have hput : (l.putWitness ⟨owner, Utf8.repair c.url, 0⟩).AccountsKeyed := hl
  refine lowers_account_bind.2 fun account hfound => lowers_put_bind.2 ⟨?_, ?_⟩
  · exact lowers_putBack hput hfound rfl (Int.le_refl _)
  · refine lowers_compute_bind.2 fun total htotal => ?_
    have hmem : total ∈ (Contract.witnessCreate c).debits ctx l :=
      List.mem_cons_of_mem _ (Contract.mem_toList_iff.2 htotal)
    exact lowers_charge (hput.putAccount _) hmem (hnonneg total hmem)

theorem WitnessUpdate.lowers {c : WitnessUpdate} (hl : l.AccountsKeyed)
    (hfee : 0 ≤ (ctx.fee .witnessUpdate).toInt) :
    Lowers ((Contract.witnessUpdate c).debits ctx l) (c.execute ctx) l := by
  unfold WitnessUpdate.execute
  refine lowers_address_bind.2 fun owner _ => ?_
  rw [lowers_step_bind (u := Update.witness? owner) rfl, Update.runOn_witness?]
  cases l.witness? owner with
  | none => exact lowers_throw_bind
  | some w =>
      have hput : (l.putWitness { w with url := Utf8.repair c.url }).AccountsKeyed := hl
      exact (lowers_step_bind (u := Update.putWitness _) rfl).2
        (lowers_charge hput List.mem_cons_self hfee)

theorem VoteWitness.lowers {c : VoteWitness} (hl : l.AccountsKeyed)
    (hfee : 0 ≤ (ctx.fee .voteWitness).toInt) :
    Lowers ((Contract.voteWitness c).debits ctx l) (c.execute ctx) l := by
  unfold VoteWitness.execute
  refine lowers_address_bind.2 fun owner _ => ?_
  cases tally c.votes with
  | error reason => exact lowers_throw_bind
  | ok counts =>
      refine lowers_account_bind.2 fun account hfound => ?_
      exact lowers_putBack_charge hl hfound rfl (Int.le_refl _) List.mem_cons_self hfee

theorem WithdrawBalance.lowers {c : WithdrawBalance} (hl : l.AccountsKeyed)
    (hsound : ∀ a r, l.account? a = some r → r.Sound l)
    (hfee : 0 ≤ (ctx.fee .withdrawBalance).toInt) :
    Lowers ((Contract.withdrawBalance c).debits ctx l) (c.execute ctx) l := by
  unfold WithdrawBalance.execute
  refine lowers_address_bind.2 fun owner _ => lowers_account_bind.2 fun account hfound => ?_
  refine lowers_compute_bind.2 fun b hb => ?_
  have hallowance := (hsound owner account hfound).allowance
  have hexact := Amount.add_eq_ok_iff.1 hb
  have hle : account.balance.toInt ≤ b.toInt := by omega
  exact lowers_putBack_charge hl hfound rfl hle List.mem_cons_self hfee

end

/-! ### Any contract -/

namespace Contract

variable {ctx : Context} {l : Ledger} {c : Contract}

/-- **An admissible contract lowers balances by its debits only.** -/
theorem Admissible.lowers (h : c.Admissible ctx l) (hl : l.Consistent)
    (hcost : 0 ≤ l.parameters.accountUpgradeCost.toInt) (hfees : ∀ k, 0 ≤ (ctx.fee k).toInt) :
    Lowers (c.debits ctx l) (c.execute ctx) l := by
  have hnonneg := h.debits_nonneg hcost hfees
  have hkeyed := hl.accountsKeyed
  cases c with
  | transfer c => exact Transfer.Admissible.lowers h hkeyed hnonneg
  | transferAsset c => exact TransferAsset.lowers hkeyed (hfees _)
  | assetIssue c => exact AssetIssue.lowers hkeyed (hfees _)
  | participateAssetIssue c => exact ParticipateAssetIssue.Admissible.lowers h hkeyed (hfees _)
  | freezeBalance c => exact FreezeBalance.Admissible.lowers h hkeyed (hfees _)
  | unfreezeBalance c => exact UnfreezeBalance.lowers hkeyed hl.accounts (hfees _)
  | witnessCreate c => exact WitnessCreate.lowers hkeyed hnonneg
  | witnessUpdate c => exact WitnessUpdate.lowers hkeyed (hfees _)
  | accountUpdate c => exact AccountUpdate.Admissible.lowers h hkeyed (hfees _)
  | voteWitness c => exact VoteWitness.lowers hkeyed (hfees _)
  | withdrawBalance c => exact WithdrawBalance.lowers hkeyed hl.accounts (hfees _)

/-- And so does the collection of its fee, after a failure or within the execution. -/
theorem lowers_chargeFee (hl : l.AccountsKeyed) (hfee : 0 ≤ (c.fee ctx).toInt) (a : Address) :
    Lowers (c.debits ctx l) (Update.chargeFee a (c.fee ctx)) l :=
  AccountLedger.lowers_chargeFee hl List.mem_cons_self hfee

end Contract

end AccountLedger
