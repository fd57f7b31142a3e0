/-
**Movements of native units.**

The balance steps of an execution, as relations between the ledger before and the ledger after: one
balance changes by an exact amount, an amount is taken from a balance, a fee moves into the sink.
Each step changes balances only, and what it does to the total of native units can be read off it.

Main definitions:

* `Ledger.AccountsKeyed` — every account is stored under its own address;
* `Ledger.Adjusts`, `Ledger.Pays`, `Ledger.Charges` — the three steps;
* `Ledger.SameButBalances` — two ledgers that differ in balances only;
* `Ledger.Moves` — and do so by one amount that has moved.

Main results:

* `Ledger.Adjusts.nativeUnits` — an adjustment changes the native units by its amount;
* `Ledger.Charges.nativeUnits` — **a fee that moves into the sink leaves the native units alone**;
* `Ledger.Charges.moves` — and changes nothing but the balances of its payer and the sink.
-/

import AccountLedger.Proofs.Totals

set_option relaxedAutoImplicit false
set_option autoImplicit false

namespace AccountLedger

namespace Ledger

/-! ### Looking up what was stored -/

theorem account?_putAccount (l : Ledger) (r : Account) (a : Address) :
    (l.putAccount r).account? a = if a = r.address then some r else l.account? a :=
  SortedMap.get?_insert l.accounts r.address a r

@[simp] theorem account?_putAccount_self (l : Ledger) (r : Account) :
    (l.putAccount r).account? r.address = some r := by
  rw [account?_putAccount, if_pos rfl]

theorem account?_putAccount_of_ne {l : Ledger} {r : Account} {a : Address} (h : a ≠ r.address) :
    (l.putAccount r).account? a = l.account? a := by
  rw [account?_putAccount, if_neg h]

theorem asset?_putAsset (l : Ledger) (s : Asset) (name : String) :
    (l.putAsset s).asset? name = if name = s.name then some s else l.asset? name :=
  SortedMap.get?_insert l.assets s.name name s

@[simp] theorem asset?_putAsset_self (l : Ledger) (s : Asset) :
    (l.putAsset s).asset? s.name = some s := by
  rw [asset?_putAsset, if_pos rfl]

theorem witness?_putWitness (l : Ledger) (w : Witness) (a : Address) :
    (l.putWitness w).witness? a = if a = w.address then some w else l.witness? a :=
  SortedMap.get?_insert l.witnesses w.address a w

@[simp] theorem asset?_putAccount (l : Ledger) (r : Account) (name : String) :
    (l.putAccount r).asset? name = l.asset? name := rfl

@[simp] theorem witness?_putAccount (l : Ledger) (r : Account) (a : Address) :
    (l.putAccount r).witness? a = l.witness? a := rfl

@[simp] theorem account?_putAsset (l : Ledger) (s : Asset) (a : Address) :
    (l.putAsset s).account? a = l.account? a := rfl

@[simp] theorem witness?_putAsset (l : Ledger) (s : Asset) (a : Address) :
    (l.putAsset s).witness? a = l.witness? a := rfl

@[simp] theorem account?_putWitness (l : Ledger) (w : Witness) (a : Address) :
    (l.putWitness w).account? a = l.account? a := rfl

@[simp] theorem asset?_putWitness (l : Ledger) (w : Witness) (name : String) :
    (l.putWitness w).asset? name = l.asset? name := rfl

@[simp] theorem nativeUnits_putAsset (l : Ledger) (s : Asset) :
    (l.putAsset s).nativeUnits = l.nativeUnits := rfl

@[simp] theorem nativeUnits_putWitness (l : Ledger) (w : Witness) :
    (l.putWitness w).nativeUnits = l.nativeUnits := rfl

theorem hasAccount_iff {l : Ledger} {a : Address} :
    l.hasAccount a = true ↔ ∃ r, l.account? a = some r := Option.isSome_iff_exists

theorem hasAsset_iff {l : Ledger} {name : String} :
    l.hasAsset name = true ↔ ∃ s, l.asset? name = some s := Option.isSome_iff_exists

theorem hasWitness_iff {l : Ledger} {a : Address} :
    l.hasWitness a = true ↔ ∃ w, l.witness? a = some w := Option.isSome_iff_exists

/-- Storing a record removes none. -/
theorem hasAccount_putAccount {l : Ledger} {a : Address} (h : l.hasAccount a = true)
    (r : Account) : (l.putAccount r).hasAccount a = true := by
  obtain ⟨s, hs⟩ := hasAccount_iff.1 h
  rw [hasAccount_iff, account?_putAccount]
  split
  · exact ⟨r, rfl⟩
  · exact ⟨s, hs⟩

theorem hasAsset_putAsset {l : Ledger} {name : String} (h : l.hasAsset name = true)
    (s : Asset) : (l.putAsset s).hasAsset name = true := by
  obtain ⟨t, ht⟩ := hasAsset_iff.1 h
  rw [hasAsset_iff, asset?_putAsset]
  split
  · exact ⟨s, rfl⟩
  · exact ⟨t, ht⟩

theorem hasWitness_putWitness {l : Ledger} {a : Address} (h : l.hasWitness a = true)
    (w : Witness) : (l.putWitness w).hasWitness a = true := by
  obtain ⟨v, hv⟩ := hasWitness_iff.1 h
  rw [hasWitness_iff, witness?_putWitness]
  split
  · exact ⟨w, rfl⟩
  · exact ⟨v, hv⟩

/-- Ledgers are the same if everything that is looked up in them is. -/
theorem eq_of_lookups {m n : Ledger} (hsink : m.sink = n.sink) (hparameters : m.parameters = n.parameters)
    (haccounts : ∀ a, m.account? a = n.account? a) (hassets : ∀ name, m.asset? name = n.asset? name)
    (hwitnesses : ∀ a, m.witness? a = n.witness? a) : m = n := by
  obtain ⟨sink, parameters, accounts, assets, witnesses⟩ := m
  obtain ⟨sink', parameters', accounts', assets', witnesses'⟩ := n
  obtain rfl : sink = sink' := hsink
  obtain rfl : parameters = parameters' := hparameters
  obtain rfl : accounts = accounts' := SortedMap.ext haccounts
  obtain rfl : assets = assets' := SortedMap.ext hassets
  obtain rfl : witnesses = witnesses' := SortedMap.ext hwitnesses
  rfl

/-! ### Accounts under their own address -/

/-- Every account is stored under its own address. -/
def AccountsKeyed (l : Ledger) : Prop := ∀ a r, l.account? a = some r → r.address = a

namespace AccountsKeyed

variable {l : Ledger}

theorem putAccount (h : l.AccountsKeyed) (r : Account) : (l.putAccount r).AccountsKeyed := by
  intro a s hs
  rw [account?_putAccount] at hs
  split at hs
  · next ha =>
      cases hs
      exact ha.symm
  · exact h a s hs

theorem putAsset (h : l.AccountsKeyed) (s : Asset) : (l.putAsset s).AccountsKeyed := h

theorem putWitness (h : l.AccountsKeyed) (w : Witness) : (l.putWitness w).AccountsKeyed := h

/-- Where accounts are stored under their own address, a record put back over the one found at an
address is found there. -/
theorem account?_putAccount (h : l.AccountsKeyed) {a : Address} {r s : Account}
    (hr : l.account? a = some r) (hs : s.address = r.address) :
    (l.putAccount s).account? a = some s := by
  rw [Ledger.account?_putAccount, if_pos (hs.trans (h a r hr)).symm]

/-- And it changes the native units by the difference. -/
theorem nativeUnits_putAccount (h : l.AccountsKeyed) {a : Address} {r s : Account}
    (hr : l.account? a = some r) (hs : s.address = r.address) :
    (l.putAccount s).nativeUnits = l.nativeUnits - r.nativeUnits + s.nativeUnits := by
  have hput := Ledger.nativeUnits_putAccount l s
  rw [hs, h a r hr, hr, Option.elim_some] at hput
  omega

end AccountsKeyed

namespace KeyedByRecord

variable {l : Ledger}

/-- A record of any sort is stored under its own key. -/
theorem putAccount (h : l.KeyedByRecord) (r : Account) : (l.putAccount r).KeyedByRecord :=
  ⟨AccountsKeyed.putAccount h.account r, h.asset, h.witness⟩

theorem putAsset (h : l.KeyedByRecord) (s : Asset) : (l.putAsset s).KeyedByRecord := by
  refine ⟨h.account, fun name t ht => ?_, h.witness⟩
  rw [asset?_putAsset] at ht
  split at ht
  · next hname =>
      cases ht
      exact hname.symm
  · exact h.asset name t ht

theorem putWitness (h : l.KeyedByRecord) (w : Witness) : (l.putWitness w).KeyedByRecord := by
  refine ⟨h.account, h.asset, fun a v hv => ?_⟩
  rw [witness?_putWitness] at hv
  split at hv
  · next ha =>
      cases hv
      exact ha.symm
  · exact h.witness a v hv

end KeyedByRecord

/-! ### Steps -/

/-- The balance under `a` changes by exactly `d` and does not end below zero. -/
inductive Adjusts (l : Ledger) (a : Address) (d : Int) : Ledger → Prop
  | intro (r : Account) (b : Int64) (found : l.account? a = some r)
      (exact : b.toInt = r.balance.toInt + d) (nonneg : 0 ≤ b.toInt) :
      Adjusts l a d (l.putAccount { r with balance := b })

/-- The amount `x` is taken from the balance under `a`.  Its opposite is formed without a check; the
one amount that has no opposite cannot be taken. -/
structure Pays (l : Ledger) (a : Address) (x : Int64) (l' : Ledger) : Prop where
  ne_least : x.toInt ≠ -9223372036854775808
  adjusts : l.Adjusts a (-x.toInt) l'

/-- The fee `x` moves from the balance under `a` into that of the sink. -/
inductive Charges (l : Ledger) (a : Address) (x : Int64) : Ledger → Prop
  | free (zero : x = 0) : Charges l a x l
  | taken (m l' : Ledger) (ne_zero : x ≠ 0) (paid : l.Pays a x m)
      (received : m.Adjusts m.sink x.toInt l') : Charges l a x l'

/-! ### What steps leave alone -/

/-- Two ledgers that differ in balances only. -/
structure SameButBalances (l l' : Ledger) : Prop where
  sink : l'.sink = l.sink
  parameters : l'.parameters = l.parameters
  assets : l'.assets = l.assets
  witnesses : l'.witnesses = l.witnesses
  account : ∀ a r, l.account? a = some r → ∃ b, l'.account? a = some { r with balance := b }
  noAccount : ∀ a, l.account? a = none → l'.account? a = none

namespace SameButBalances

theorem refl (l : Ledger) : SameButBalances l l where
  sink := rfl
  parameters := rfl
  assets := rfl
  witnesses := rfl
  account _ r hr := ⟨r.balance, hr⟩
  noAccount _ h := h

theorem trans {l m n : Ledger} (h : SameButBalances l m) (h' : SameButBalances m n) :
    SameButBalances l n where
  sink := h'.sink.trans h.sink
  parameters := h'.parameters.trans h.parameters
  assets := h'.assets.trans h.assets
  witnesses := h'.witnesses.trans h.witnesses
  account a r hr := by
    obtain ⟨b, hb⟩ := h.account a r hr
    obtain ⟨c, hc⟩ := h'.account a _ hb
    exact ⟨c, hc⟩
  noAccount a hr := h'.noAccount a (h.noAccount a hr)

variable {l l' : Ledger}

theorem hasAccount (h : SameButBalances l l') (a : Address) :
    l'.hasAccount a = l.hasAccount a := by
  cases hr : l.account? a with
  | none => exact congrArg Option.isSome ((h.noAccount a hr).trans hr.symm)
  | some r =>
      obtain ⟨b, hb⟩ := h.account a r hr
      rw [hasAccount_iff.2 ⟨_, hb⟩, hasAccount_iff.2 ⟨_, hr⟩]

end SameButBalances

/-- The amount `x` moves from the balance of one account to that of another, and nothing else changes;
nothing changes at all if they are the same account. -/
structure Moves (l : Ledger) (payer payee : Address) (x : Int) (l' : Ledger) : Prop
    extends SameButBalances l l' where
  balance : ∀ a r r', l.account? a = some r → l'.account? a = some r' →
    r'.balance.toInt
      = r.balance.toInt - (if a = payer then x else 0) + (if a = payee then x else 0)

namespace Adjusts

variable {l l' : Ledger} {a : Address} {d : Int}

theorem accountsKeyed (h : l.Adjusts a d l') (hl : l.AccountsKeyed) : l'.AccountsKeyed := by
  cases h with
  | intro r b found exact nonneg => exact hl.putAccount _

/-- An adjustment changes the native units by its amount. -/
theorem nativeUnits (h : l.Adjusts a d l') (hl : l.AccountsKeyed) :
    l'.nativeUnits = l.nativeUnits + d := by
  cases h with
  | intro r b found exact nonneg =>
      have hput : (l.putAccount { r with balance := b }).nativeUnits = _ :=
        hl.nativeUnits_putAccount found rfl
      rw [hput]
      simp only [Account.nativeUnits]
      omega

/-- The adjusted account, before and after. -/
theorem account?_self (h : l.Adjusts a d l') (hl : l.AccountsKeyed) :
    ∃ r b, l.account? a = some r ∧ l'.account? a = some { r with balance := b } ∧
      b.toInt = r.balance.toInt + d ∧ 0 ≤ b.toInt := by
  cases h with
  | intro r b found exact nonneg =>
      exact ⟨r, b, found, hl.account?_putAccount found rfl, exact, nonneg⟩

theorem account?_of_ne (h : l.Adjusts a d l') (hl : l.AccountsKeyed) {x : Address} (hx : x ≠ a) :
    l'.account? x = l.account? x := by
  cases h with
  | intro r b found exact nonneg =>
      exact account?_putAccount_of_ne fun hxr => hx (hxr.trans (hl a r found))

theorem sameButBalances (h : l.Adjusts a d l') (hl : l.AccountsKeyed) : SameButBalances l l' := by
  have hself := h.account?_self hl
  have hother := @account?_of_ne l l' a d h hl
  cases h with
  | intro r b found exact nonneg =>
      refine ⟨rfl, rfl, rfl, rfl, ?_, ?_⟩
      · intro x s hs
        by_cases hx : x = a
        · subst hx
          obtain ⟨r', b', hr', hb', -⟩ := hself
          rw [hs] at hr'
          cases hr'
          exact ⟨b', hb'⟩
        · exact ⟨s.balance, (hother hx).trans hs⟩
      · intro x hs
        have hx : x ≠ a := by
          rintro rfl
          rw [found] at hs
          cases hs
        exact (hother hx).trans hs

/-- Every balance after an adjustment. -/
theorem balance_eq (h : l.Adjusts a d l') (hl : l.AccountsKeyed) {x : Address} {r r' : Account}
    (hr : l.account? x = some r) (hr' : l'.account? x = some r') :
    r'.balance.toInt = r.balance.toInt + if x = a then d else 0 := by
  split
  · next hx =>
      subst hx
      obtain ⟨s, b, hs, hb, hexact, -⟩ := h.account?_self hl
      cases hs.symm.trans hr
      cases hb.symm.trans hr'
      exact hexact
  · next hx =>
      cases ((h.account?_of_ne hl hx).symm.trans hr').symm.trans hr
      rw [Int.add_zero]

/-- A balance can be adjusted as long as the result is neither negative nor too large. -/
theorem exists_of_account {r : Account} (hr : l.account? a = some r)
    (hlow : 0 ≤ r.balance.toInt + d) (hhigh : r.balance.toInt + d < 9223372036854775808) :
    ∃ l', l.Adjusts a d l' := by
  obtain ⟨b, hb⟩ := Amount.exists_toInt_eq_iff.2 (⟨by omega, hhigh⟩ : Amount.Fits _)
  exact ⟨_, .intro r b hr hb (hb ▸ hlow)⟩

end Adjusts

namespace Charges

variable {l l' : Ledger} {a : Address} {x : Int64}

theorem accountsKeyed (h : l.Charges a x l') (hl : l.AccountsKeyed) : l'.AccountsKeyed := by
  cases h with
  | free zero => exact hl
  | taken m _ ne_zero paid received =>
      exact received.accountsKeyed (paid.adjusts.accountsKeyed hl)

/-- **A fee that moves into the sink leaves the native units alone.** -/
theorem nativeUnits (h : l.Charges a x l') (hl : l.AccountsKeyed) :
    l'.nativeUnits = l.nativeUnits := by
  cases h with
  | free zero => rfl
  | taken m _ ne_zero paid received =>
      rw [received.nativeUnits (paid.adjusts.accountsKeyed hl), paid.adjusts.nativeUnits hl]
      omega

/-- A fee that moves changes nothing but balances. -/
theorem sameButBalances (h : l.Charges a x l') (hl : l.AccountsKeyed) : SameButBalances l l' := by
  cases h with
  | free zero => exact .refl l
  | taken m _ ne_zero paid received =>
      have hm := paid.adjusts.accountsKeyed hl
      exact (paid.adjusts.sameButBalances hl).trans (received.sameButBalances hm)

/-- **A fee moves from its payer to the sink, and nothing else changes.** -/
theorem moves (h : l.Charges a x l') (hl : l.AccountsKeyed) : l.Moves a l.sink x.toInt l' := by
  refine ⟨h.sameButBalances hl, fun b r r' hr hr' => ?_⟩
  cases h with
  | free zero =>
      cases hr.symm.trans hr'
      simp only [zero, Amount.toInt_zero, ite_self]
      omega
  | taken m _ ne_zero paid received =>
      have hm := paid.adjusts.accountsKeyed hl
      have hsame := paid.adjusts.sameButBalances hl
      obtain ⟨balance, hmiddle⟩ := hsame.account b r hr
      have hpaid := paid.adjusts.balance_eq hl hr hmiddle
      have hreceived := received.balance_eq hm hmiddle hr'
      rw [hsame.sink] at hreceived
      rw [hreceived, hpaid]
      split <;> split <;> omega

end Charges

end Ledger

end AccountLedger
