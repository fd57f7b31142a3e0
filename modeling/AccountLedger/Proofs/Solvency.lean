/-
**What a balance step relies on.**

A balance step fails if a balance would end below zero or no longer fit.  Where nobody's native units
are negative and all of them together fit, a single balance fits as well, so what is covered can be
taken and what has been taken can be given.

Main definitions:

* `Account.Solvent`, `Ledger.Solvent` — no native units are negative, and together they fit.

Main results:

* `Ledger.Solvent.exists_pays` — an amount that is covered can be taken;
* `Ledger.Solvent.exists_charges` — **a fee that is covered can be charged.**
-/

import AccountLedger.Proofs.Movement

set_option relaxedAutoImplicit false
set_option autoImplicit false

namespace AccountLedger

namespace Account

/-! ### Solvent accounts -/

/-- The locked amounts of an account, exactly. -/
def lockedUnits (r : Account) : Int := Amount.total (r.locks.map (·.amount.toInt))

theorem nativeUnits_eq (r : Account) :
    r.nativeUnits = r.balance.toInt + r.lockedUnits + r.allowance.toInt := rfl

theorem toInt_of_locked {r : Account} {n : Int64} (h : r.locked = .ok n) :
    n.toInt = r.lockedUnits := by
  rw [Amount.toInt_of_sum h, List.map_map]
  rfl

/-- No part of the account's native units is negative. -/
structure Solvent (r : Account) : Prop where
  balance : 0 ≤ r.balance.toInt
  locked : 0 ≤ r.lockedUnits
  allowance : 0 ≤ r.allowance.toInt

theorem Solvent.nativeUnits_nonneg {r : Account} (h : r.Solvent) : 0 ≤ r.nativeUnits := by
  have := h.balance
  have := h.locked
  have := h.allowance
  rw [nativeUnits_eq]
  omega

end Account

namespace Ledger

/-! ### Solvent ledgers -/

/-- Nobody's native units are negative, all together they fit, and the sink has an account: what a
balance step relies on. -/
structure Solvent (l : Ledger) : Prop where
  sink : l.hasAccount l.sink = true
  keyed : l.AccountsKeyed
  accounts : ∀ a r, l.account? a = some r → r.Solvent
  supply : l.nativeUnits < 9223372036854775808

namespace Solvent

variable {l l' : Ledger} {a : Address} {r s : Account}

theorem balance_le (h : l.Solvent) (hr : l.account? a = some r) :
    r.balance.toInt ≤ l.nativeUnits := by
  have hle : r.nativeUnits ≤ l.nativeUnits :=
    SortedMap.le_total_values (fun b s hs => (h.accounts b s hs).nativeUnits_nonneg) hr
  have hlocked := (h.accounts a r hr).locked
  have hallowance := (h.accounts a r hr).allowance
  rw [Account.nativeUnits_eq] at hle
  omega

/-- A solvent account can be stored as long as all native units fit. -/
theorem putAccount (h : l.Solvent) (hs : s.Solvent)
    (hsupply : (l.putAccount s).nativeUnits < 9223372036854775808) :
    (l.putAccount s).Solvent := by
  refine ⟨hasAccount_putAccount h.sink s, h.keyed.putAccount s, fun a r hr => ?_, hsupply⟩
  rw [account?_putAccount] at hr
  split at hr
  · cases hr
    exact hs
  · exact h.accounts a r hr

/-- Assets and witnesses have nothing to do with it. -/
theorem putAsset (h : l.Solvent) (s : Asset) : (l.putAsset s).Solvent :=
  ⟨h.sink, h.keyed, h.accounts, h.supply⟩

theorem putWitness (h : l.Solvent) (w : Witness) : (l.putWitness w).Solvent :=
  ⟨h.sink, h.keyed, h.accounts, h.supply⟩

theorem adjusts (h : l.Solvent) {d : Int} (hstep : l.Adjusts a d l')
    (hhigh : l.nativeUnits + d < 9223372036854775808) : l'.Solvent := by
  have hunits := hstep.nativeUnits h.keyed
  cases hstep with
  | intro r b found exact nonneg =>
      have hr := h.accounts a r found
      exact h.putAccount ⟨nonneg, hr.locked, hr.allowance⟩ (by omega)

/-- A balance can be adjusted if neither it ends below zero nor all native units too large. -/
theorem exists_adjusts (h : l.Solvent) {d : Int} (hr : l.account? a = some r)
    (hlow : 0 ≤ r.balance.toInt + d) (hhigh : l.nativeUnits + d < 9223372036854775808) :
    ∃ l', l.Adjusts a d l' := by
  have hle := h.balance_le hr
  exact Adjusts.exists_of_account hr hlow (by omega)

/-- An amount that is covered can be taken. -/
theorem exists_pays (h : l.Solvent) {x : Int64} (hr : l.account? a = some r) (hnonneg : 0 ≤ x.toInt)
    (hle : x.toInt ≤ r.balance.toInt) : ∃ l', l.Pays a x l' := by
  have hsupply := h.supply
  obtain ⟨l', hl'⟩ := h.exists_adjusts hr (d := -x.toInt) (by omega) (by omega)
  exact ⟨l', by omega, hl'⟩

/-- **A fee that is covered can be charged**: what leaves one balance has room in that of the sink. -/
theorem exists_charges (h : l.Solvent) {x : Int64} (hr : l.account? a = some r)
    (hnonneg : 0 ≤ x.toInt) (hle : x.toInt ≤ r.balance.toInt) : ∃ l', l.Charges a x l' := by
  by_cases hx : x = 0
  · exact ⟨l, .free hx⟩
  · have hsupply := h.supply
    obtain ⟨m, hm⟩ := h.exists_pays hr hnonneg hle
    have hunits := hm.adjusts.nativeUnits h.keyed
    have hms := h.adjusts hm.adjusts (by omega)
    obtain ⟨s, hs⟩ := hasAccount_iff.1 hms.sink
    have hbalance := (hms.accounts m.sink s hs).balance
    obtain ⟨l', hl'⟩ := hms.exists_adjusts hs (d := x.toInt) (by omega) (by omega)
    exact ⟨l', .taken m l' hx hm hl'⟩

/-- A fee that is charged leaves as many native units as there were, and none of them negative. -/
theorem charges (h : l.Solvent) {x : Int64} (hstep : l.Charges a x l') (hnonneg : 0 ≤ x.toInt) :
    l'.Solvent := by
  cases hstep with
  | free zero => exact h
  | taken m _ ne_zero paid received =>
      have hsupply := h.supply
      have hunits := paid.adjusts.nativeUnits h.keyed
      have hm := h.adjusts paid.adjusts (by omega)
      exact hm.adjusts received (by omega)

end Solvent

end Ledger

end AccountLedger
