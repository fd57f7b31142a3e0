/-
**Consistent ledgers.**

The examinations of `Ledger.check` pass exactly for the ledgers that are consistent: every record is
sound and refers to records that are there, and the native units fit.  Soundness is kept by storing
sound records and by the balance steps of executions.

Main definitions:

* `Account.Sound`, `Asset.Sound` — what is demanded of single records;
* `Account.Nonneg` — no native units of an account are negative, which is all that running totals need;
* `Ledger.Structured` — every record is sound and stored under its own key;
* `Ledger.Consistent` — and the native units fit.

Main results:

* `Ledger.foldlM_addNative_eq_ok_iff`, `Ledger.exists_foldlM_addNative_iff` — a running total is the
  exact total, and fails only where that is too large;
* `Ledger.check_eq_ok_iff` — **the examinations pass exactly for consistent ledgers**;
* `Ledger.Structured.totalNative_eq_some_iff` — the checked total is the exact total;
* `Ledger.Structured.putAccount`, `Ledger.Structured.adjusts`, `Ledger.Structured.charges` — what
  keeps a ledger structured.
-/

import AccountLedger.Ledger.Check
import AccountLedger.Proofs.Admission
import AccountLedger.Proofs.Solvency

set_option relaxedAutoImplicit false
set_option autoImplicit false

namespace AccountLedger

/-! ### Sound records -/

/-- No amount of the account is negative, it has at most one lock, and what it holds and votes for is
registered. -/
structure Account.Sound (r : Account) (l : Ledger) : Prop where
  balance : 0 ≤ r.balance.toInt
  allowance : 0 ≤ r.allowance.toInt
  bandwidth : 0 ≤ r.bandwidth.toInt
  oneLock : r.locks.length ≤ 1
  locks : ∀ k ∈ r.locks, 0 < k.amount.toInt
  holdings : ∀ name n, r.holdings.get? name = some n → 0 ≤ n.toInt ∧ l.hasAsset name = true
  votes : ∀ a n, r.votes.get? a = some n → l.hasWitness a = true ∧ 0 < n.toInt

/-- The terms of the asset are positive, and its issuer has an account. -/
structure Asset.Sound (s : Asset) (l : Ledger) : Prop where
  totalSupply : 0 < s.totalSupply.toInt
  priceUnits : 0 < s.priceUnits.toInt
  priceTokens : 0 < s.priceTokens.toInt
  issuer : l.hasAccount s.issuer = true

/-- An asset stays sound in a ledger that has opened more accounts. -/
theorem Asset.Sound.mono {s : Asset} {l m : Ledger} (h : s.Sound l)
    (haccounts : ∀ a, l.hasAccount a = true → m.hasAccount a = true) : s.Sound m where
  totalSupply := h.totalSupply
  priceUnits := h.priceUnits
  priceTokens := h.priceTokens
  issuer := haccounts _ h.issuer

namespace Account

/-- An account stays sound in a ledger that has registered more. -/
theorem Sound.mono {r : Account} {l m : Ledger} (h : r.Sound l)
    (hassets : ∀ name, l.hasAsset name = true → m.hasAsset name = true)
    (hwitnesses : ∀ a, l.hasWitness a = true → m.hasWitness a = true) : r.Sound m where
  balance := h.balance
  allowance := h.allowance
  bandwidth := h.bandwidth
  oneLock := h.oneLock
  locks := h.locks
  holdings name n hn := ⟨(h.holdings name n hn).1, hassets name (h.holdings name n hn).2⟩
  votes a n hn := ⟨hwitnesses a (h.votes a n hn).1, (h.votes a n hn).2⟩

/-- A new account is sound in any ledger. -/
theorem sound_opened (a : Address) (type : AccountType) (now : Int64) (l : Ledger) :
    (opened a type now).Sound l where
  balance := Int.le_refl 0
  allowance := Int.le_refl 0
  bandwidth := Int.le_refl 0
  oneLock := Nat.zero_le 1
  locks := nofun
  holdings := nofun
  votes := nofun

/-- A new balance that is not negative keeps an account sound. -/
theorem Sound.withBalance {r : Account} {l : Ledger} (h : r.Sound l) {b : Int64}
    (hb : 0 ≤ b.toInt) : ({ r with balance := b } : Account).Sound l where
  balance := hb
  allowance := h.allowance
  bandwidth := h.bandwidth
  oneLock := h.oneLock
  locks := h.locks
  holdings := h.holdings
  votes := h.votes

/-- A new holding that is not negative, of a registered asset, keeps an account sound. -/
theorem Sound.withHolding {r : Account} {l : Ledger} (h : r.Sound l) {name : String} {n : Int64}
    (hn : 0 ≤ n.toInt) (hname : l.hasAsset name = true) :
    ({ r with holdings := r.holdings.insert name n } : Account).Sound l where
  balance := h.balance
  allowance := h.allowance
  bandwidth := h.bandwidth
  oneLock := h.oneLock
  locks := h.locks
  holdings other k hk := by
    rw [SortedMap.get?_insert] at hk
    split at hk
    · next hother =>
        cases hk
        exact ⟨hn, hother ▸ hname⟩
    · exact h.holdings other k hk
  votes := h.votes

theorem Sound.holding_nonneg {r : Account} {l : Ledger} (h : r.Sound l) (name : String) :
    0 ≤ (r.holding name).toInt := by
  rw [holding]
  cases hn : r.holdings.get? name with
  | none => exact Int.le_refl 0
  | some n => exact (h.holdings name n hn).1

/-! ### Amounts that are not negative -/

/-- No amount among the native units of the account is negative. -/
structure Nonneg (r : Account) : Prop where
  balance : 0 ≤ r.balance.toInt
  locks : ∀ k ∈ r.locks, 0 ≤ k.amount.toInt
  allowance : 0 ≤ r.allowance.toInt

theorem Nonneg.solvent {r : Account} (h : r.Nonneg) : r.Solvent := by
  refine ⟨h.balance, Amount.total_nonneg fun x hx => ?_, h.allowance⟩
  obtain ⟨k, hk, rfl⟩ := List.mem_map.1 hx
  exact h.locks k hk

/-- The locked amounts can be added up if their exact sum fits. -/
theorem Nonneg.exists_locked {r : Account} (h : r.Nonneg)
    (hfits : r.lockedUnits < 9223372036854775808) : ∃ n, r.locked = .ok n := by
  refine (Amount.exists_sum_iff fun a ha => ?_).2 ?_
  · obtain ⟨k, hk, rfl⟩ := List.mem_map.1 ha
    exact h.locks k hk
  · rw [List.map_map]
    exact hfits

theorem Sound.nonneg {r : Account} {l : Ledger} (h : r.Sound l) : r.Nonneg where
  balance := h.balance
  locks k hk := Int.le_of_lt (h.locks k hk)
  allowance := h.allowance

theorem Sound.solvent {r : Account} {l : Ledger} (h : r.Sound l) : r.Solvent := h.nonneg.solvent

end Account

namespace Ledger

/-! ### Running totals -/

/-- A running total with an account in it is exact. -/
theorem toInt_of_addNative (t : Int64) (r : Account) (n : Int64) (h : addNative t r = .ok n) :
    n.toInt = t.toInt + r.nativeUnits := by
  simp only [addNative, Check.bind_eq_ok_iff, Amount.add_eq_ok_iff] at h
  obtain ⟨locked, hlocked, t₁, ht₁, t₂, ht₂, hn⟩ := h
  have := Account.toInt_of_locked hlocked
  rw [Account.nativeUnits_eq]
  omega

/-- An account without negative amounts can be added to a running total at or above zero if the sum
fits. -/
theorem exists_addNative {t : Int64} {r : Account} (h : r.Nonneg) (ht : 0 ≤ t.toInt)
    (hfits : t.toInt + r.nativeUnits < 9223372036854775808) : ∃ n, addNative t r = .ok n := by
  have hbalance := h.balance
  have hlocked := h.solvent.locked
  have hallowance := h.allowance
  rw [Account.nativeUnits_eq] at hfits
  obtain ⟨locked, hsum⟩ := h.exists_locked (by omega)
  have hexact := Account.toInt_of_locked hsum
  obtain ⟨t₁, ht₁⟩ : ∃ n : Int64, n.toInt = t.toInt + r.balance.toInt :=
    Amount.exists_toInt_eq_iff.2 ⟨by omega, by omega⟩
  obtain ⟨t₂, ht₂⟩ : ∃ n : Int64, n.toInt = t₁.toInt + locked.toInt :=
    Amount.exists_toInt_eq_iff.2 ⟨by omega, by omega⟩
  obtain ⟨t₃, ht₃⟩ : ∃ n : Int64, n.toInt = t₂.toInt + r.allowance.toInt :=
    Amount.exists_toInt_eq_iff.2 ⟨by omega, by omega⟩
  refine ⟨t₃, ?_⟩
  simp only [addNative, Check.bind_eq_ok_iff, Amount.add_eq_ok_iff]
  exact ⟨locked, hsum, t₁, ht₁, t₂, ht₂, ht₃⟩

section

variable {rs : List Account} (h : ∀ r ∈ rs, r.Nonneg)

include h

/-- **The running total of accounts without negative amounts is their exact total.** -/
theorem foldlM_addNative_eq_ok_iff {n : Int64} :
    rs.foldlM addNative 0 = .ok n ↔ n.toInt = Amount.total (rs.map (·.nativeUnits)) := by
  have hexact (m : Int64) (hm : rs.foldlM addNative 0 = .ok m) :
      m.toInt = Amount.total (rs.map (·.nativeUnits)) := by
    rw [Amount.toInt_of_foldlM toInt_of_addNative hm, Amount.toInt_zero, Int.zero_add]
  constructor
  · exact hexact n
  · intro hn
    have hzero : 0 ≤ (0 : Int64).toInt := Int.le_refl 0
    have hfits : (0 : Int64).toInt + Amount.total (rs.map (·.nativeUnits)) < 9223372036854775808 := by
      rw [← hn, Amount.toInt_zero, Int.zero_add]
      exact Int64.toInt_lt n
    obtain ⟨m, hm⟩ := Amount.exists_foldlM toInt_of_addNative
      (fun r hr => (h r hr).solvent.nativeUnits_nonneg)
      (fun t r hr ht hlt => exists_addNative (h r hr) ht hlt) hzero hfits
    rw [hm, Int64.toInt_inj.1 ((hexact m hm).trans hn.symm)]

/-- It fails only where that is too large. -/
theorem exists_foldlM_addNative_iff : (∃ n, rs.foldlM addNative 0 = .ok n) ↔
    Amount.total (rs.map (·.nativeUnits)) < 9223372036854775808 := by
  have hnonneg : 0 ≤ Amount.total (rs.map (·.nativeUnits)) := Amount.total_nonneg fun x hx => by
    obtain ⟨r, hr, rfl⟩ := List.mem_map.1 hx
    exact (h r hr).solvent.nativeUnits_nonneg
  simp only [foldlM_addNative_eq_ok_iff h, Amount.exists_toInt_eq_iff]
  unfold Amount.Fits
  omega

end

/-- The checked total is there iff the running total comes to an end. -/
theorem totalNative_eq_some {l : Ledger} {n : Int64} :
    l.totalNative = some n ↔ l.accounts.values.foldlM addNative 0 = .ok n := by
  unfold totalNative
  constructor
  · exact eq_ok_of_toOption
  · intro h
    rw [h]
    rfl

/-! ### Structured and consistent ledgers -/

/-- The sink has an account, every record is sound and stored under its own key, and every witness has
an account. -/
structure Structured (l : Ledger) : Prop where
  sink : l.hasAccount l.sink = true
  keyed : l.KeyedByRecord
  accounts : ∀ a r, l.account? a = some r → r.Sound l
  assets : ∀ name s, l.asset? name = some s → s.Sound l
  witnesses : ∀ a w, l.witness? a = some w → l.hasAccount a = true

/-- The ledger is structured, and its native units fit. -/
structure Consistent (l : Ledger) : Prop extends Structured l where
  supply : l.nativeUnits < 9223372036854775808

namespace Structured

variable {l l' : Ledger}

theorem accountsKeyed (h : l.Structured) : l.AccountsKeyed := h.keyed.account

theorem nonneg_of_mem (h : l.Structured) : ∀ r ∈ l.accounts.values, r.Nonneg := by
  intro r hr
  obtain ⟨a, ha⟩ := SortedMap.mem_values_iff.1 hr
  exact (h.accounts a r ha).nonneg

/-- **The checked total of a structured ledger is the exact total.** -/
theorem totalNative_eq_some_iff (h : l.Structured) {n : Int64} :
    l.totalNative = some n ↔ n.toInt = l.nativeUnits :=
  totalNative_eq_some.trans (foldlM_addNative_eq_ok_iff h.nonneg_of_mem)

theorem isSome_totalNative_iff (h : l.Structured) :
    l.totalNative.isSome = true ↔ l.nativeUnits < 9223372036854775808 := by
  rw [Option.isSome_iff_exists]
  simp only [totalNative_eq_some]
  exact exists_foldlM_addNative_iff h.nonneg_of_mem

end Structured

/-! ### The examinations -/

section

variable {l : Ledger} {κ υ : Type} [Ord κ] [Std.TransOrd κ] [Std.LawfulEqOrd κ]
  {m : SortedMap κ υ} {u : Unit}

/-- An examination of every entry of a map. -/
theorem forM_entries_eq_ok_iff {f : κ × υ → Except Violation Unit} :
    m.entries.forM f = .ok u ↔ ∀ k v, m.get? k = some v → f (k, v) = .ok () := by
  rw [Check.forM_eq_ok_iff]
  exact ⟨fun h k v hk => h (k, v) (SortedMap.mem_entries_iff.2 hk),
    fun h e he => h e.1 e.2 (SortedMap.mem_entries_iff.1 he)⟩

/-- An examination of every value of a map. -/
theorem forM_values_eq_ok_iff {f : υ → Except Violation Unit} :
    m.values.forM f = .ok u ↔ ∀ k v, m.get? k = some v → f v = .ok () := by
  rw [Check.forM_eq_ok_iff]
  constructor
  · intro h k v hk
    exact h v (SortedMap.mem_values_iff.2 ⟨k, hk⟩)
  · intro h v hv
    obtain ⟨k, hk⟩ := SortedMap.mem_values_iff.1 hv
    exact h k v hk

/-- An examination of every key of a map. -/
theorem forM_keys_eq_ok_iff {f : κ → Except Violation Unit} :
    m.keys.forM f = .ok u ↔ ∀ k v, m.get? k = some v → f k = .ok () := by
  rw [Check.forM_eq_ok_iff, SortedMap.keys, List.forall_mem_map]
  exact ⟨fun h k v hk => h (k, v) (SortedMap.mem_entries_iff.2 hk),
    fun h e he => h e.1 e.2 (SortedMap.mem_entries_iff.1 he)⟩

theorem checkKeys_eq_ok_iff : l.checkKeys = .ok u ↔ l.KeyedByRecord := by
  simp only [checkKeys, Check.unit_bind_eq_ok_iff, forM_entries_eq_ok_iff, require_eq_ok_iff]
  constructor
  · rintro ⟨haccounts, hassets, hwitnesses⟩
    exact ⟨fun a r hr => (haccounts a r hr).symm, fun n s hs => (hassets n s hs).symm,
      fun a w hw => (hwitnesses a w hw).symm⟩
  · intro h
    exact ⟨fun a r hr => (h.account a r hr).symm, fun n s hs => (h.asset n s hs).symm,
      fun a w hw => (h.witness a w hw).symm⟩

/-- The four examinations of accounts together. -/
theorem checkAccounts_eq_ok_iff :
    (l.checkAmounts = .ok () ∧ l.checkLocks = .ok () ∧ l.checkHoldings = .ok () ∧
      l.checkVotes = .ok ()) ↔ ∀ a r, l.account? a = some r → r.Sound l := by
  simp only [checkAmounts, checkLocks, checkHoldings, checkVotes, forM_values_eq_ok_iff,
    forM_entries_eq_ok_iff, Check.unit_bind_eq_ok_iff, require_eq_ok_iff, Int64.le_iff_toInt_le,
    Int64.lt_iff_toInt_lt, Amount.toInt_zero]
  -- Locks are in a list and not in a map.
  simp only [Check.forM_eq_ok_iff, require_eq_ok_iff]
  constructor
  · rintro ⟨hamounts, hlocks, hholdings, hvotes⟩ a r hr
    obtain ⟨hbalance, hallowance, hbandwidth⟩ := hamounts a r hr
    obtain ⟨hone, hpositive⟩ := hlocks a r hr
    exact ⟨hbalance, hallowance, hbandwidth, hone, hpositive, hholdings a r hr, hvotes a r hr⟩
  · intro h
    exact ⟨fun a r hr => ⟨(h a r hr).balance, (h a r hr).allowance, (h a r hr).bandwidth⟩,
      fun a r hr => ⟨(h a r hr).oneLock, (h a r hr).locks⟩, fun a r hr => (h a r hr).holdings,
      fun a r hr => (h a r hr).votes⟩

theorem checkAssets_eq_ok_iff :
    l.checkAssets = .ok u ↔ ∀ name s, l.asset? name = some s → s.Sound l := by
  simp only [checkAssets, forM_values_eq_ok_iff, Check.unit_bind_eq_ok_iff, require_eq_ok_iff,
    Int64.lt_iff_toInt_lt, Int32.lt_iff_toInt_lt]
  constructor
  · intro h name s hs
    obtain ⟨⟨hsupply, hunits, htokens⟩, hissuer⟩ := h name s hs
    exact ⟨hsupply, hunits, htokens, hissuer⟩
  · intro h name s hs
    exact ⟨⟨(h name s hs).totalSupply, (h name s hs).priceUnits, (h name s hs).priceTokens⟩,
      (h name s hs).issuer⟩

/-- **The examinations pass exactly for consistent ledgers.** -/
theorem check_eq_ok_iff : l.check = .ok u ↔ l.Consistent := by
  simp only [check, Check.unit_bind_eq_ok_iff, checkSink, checkWitnesses, checkSupply,
    forM_keys_eq_ok_iff, require_eq_ok_iff, checkKeys_eq_ok_iff, checkAssets_eq_ok_iff]
  constructor
  · rintro ⟨hsink, hkeyed, hamounts, hlocks, hholdings, hassets, hvotes, hwitnesses, hsupply⟩
    have hstructured : l.Structured :=
      ⟨hsink, hkeyed, checkAccounts_eq_ok_iff.1 ⟨hamounts, hlocks, hholdings, hvotes⟩, hassets,
        hwitnesses⟩
    exact ⟨hstructured, hstructured.isSome_totalNative_iff.1 hsupply⟩
  · intro h
    obtain ⟨hamounts, hlocks, hholdings, hvotes⟩ := checkAccounts_eq_ok_iff.2 h.accounts
    exact ⟨h.sink, h.keyed, hamounts, hlocks, hholdings, h.assets, hvotes, h.witnesses,
      h.isSome_totalNative_iff.2 h.supply⟩

end

/-! ### What keeps a ledger structured -/

namespace Structured

variable {l l' : Ledger}

theorem putAccount (h : l.Structured) {r : Account} (hr : r.Sound l) :
    (l.putAccount r).Structured := by
  refine ⟨hasAccount_putAccount h.sink r, h.keyed.putAccount r, ?_, ?_,
    fun a w hw => hasAccount_putAccount (h.witnesses a w hw) r⟩
  · intro a s hs
    rw [account?_putAccount] at hs
    split at hs
    · cases hs
      exact hr.mono (fun _ => id) (fun _ => id)
    · exact (h.accounts a s hs).mono (fun _ => id) (fun _ => id)
  · intro name s hs
    exact (h.assets name s hs).mono fun _ ha => hasAccount_putAccount ha r

theorem putAsset (h : l.Structured) {s : Asset} (hs : s.Sound l) : (l.putAsset s).Structured := by
  refine ⟨h.sink, h.keyed.putAsset s,
    fun a r hr => (h.accounts a r hr).mono (fun _ hn => hasAsset_putAsset hn s) (fun _ => id),
    fun name t ht => ?_, h.witnesses⟩
  rw [asset?_putAsset] at ht
  split at ht
  · cases ht
    exact hs.mono fun _ => id
  · exact (h.assets name t ht).mono fun _ => id

theorem putWitness (h : l.Structured) {w : Witness} (hw : l.hasAccount w.address = true) :
    (l.putWitness w).Structured := by
  refine ⟨h.sink, h.keyed.putWitness w,
    fun a r hr => (h.accounts a r hr).mono (fun _ => id) fun _ ha => hasWitness_putWitness ha w,
    fun name s hs => (h.assets name s hs).mono fun _ => id, fun a v hv => ?_⟩
  rw [witness?_putWitness] at hv
  split at hv
  · next ha => exact ha ▸ hw
  · exact h.witnesses a v hv

theorem adjusts (h : l.Structured) {a : Address} {d : Int} (hstep : l.Adjusts a d l') :
    l'.Structured := by
  cases hstep with
  | intro r b found exact nonneg => exact h.putAccount ((h.accounts a r found).withBalance nonneg)

theorem charges (h : l.Structured) {a : Address} {x : Int64} (hstep : l.Charges a x l') :
    l'.Structured := by
  cases hstep with
  | free zero => exact h
  | taken m _ ne_zero paid received => exact (h.adjusts paid.adjusts).adjusts received

end Structured

/-- A consistent ledger is solvent. -/
theorem Consistent.solvent {l : Ledger} (h : l.Consistent) : l.Solvent :=
  ⟨h.sink, h.accountsKeyed, fun a r hr => (h.accounts a r hr).solvent, h.supply⟩

end Ledger

/-! ### A small ledger -/

/-- The address that repeats one byte. -/
def Address.repeating (b : UInt8) : Address := ⟨networkByte :: List.replicate 20 b, rfl, rfl⟩

/-- An empty sink and two accounts with balances, under the usual parameters. -/
def Ledger.small : Ledger :=
  ((Ledger.opened (.repeating 0) {}).putAccount
    { Account.opened (.repeating 1) .normal 0 with balance := 10000000 }).putAccount
      { Account.opened (.repeating 2) .normal 0 with balance := 500 }

theorem Ledger.check_small : Ledger.small.check = .ok () := rfl

end AccountLedger
