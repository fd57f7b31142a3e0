/-
**Native units are moved and never made.**

Every execution moves native units between balances, locks, allowances and the sink.  Whatever its
payload, and whichever of its parties coincide, it leaves their exact total alone; the one exception
is an account that is opened again over an existing one.

Main definitions:

* `Contract.Reopens` — the exception.

Main results:

* `Contract.Effect.nativeUnits` — **an effect leaves the native units alone**;
* `Contract.Leaves.nativeUnits` — and so does whatever else a run can leave.
-/

import AccountLedger.Proofs.Effect
import AccountLedger.Proofs.Holdings
import AccountLedger.Proofs.Settlement

set_option relaxedAutoImplicit false
set_option autoImplicit false

namespace AccountLedger

/-! ### Opening an account -/

namespace Ledger

variable {l : Ledger} {a : Address} {now : Int64}

theorem AccountsKeyed.opening (h : l.AccountsKeyed) : (l.opening a now).AccountsKeyed := by
  unfold Ledger.opening
  split
  · exact h.putAccount _
  · exact h

theorem account?_opening_of_ne {b : Address} (hne : b ≠ a) :
    (l.opening a now).account? b = l.account? b := by
  unfold opening
  split
  · exact account?_putAccount_of_ne hne
  · rfl

theorem exists_account?_opening (now : Int64) : ∃ r, (l.opening a now).account? a = some r := by
  unfold opening
  split
  · exact ⟨_, account?_putAccount_self l (.opened a .normal now)⟩
  · next h =>
      rw [Option.isNone_iff_eq_none] at h
      exact Option.ne_none_iff_exists'.1 h

/-- A new account has no native units. -/
theorem nativeUnits_putAccount_opened {r : Account} (habsent : l.account? r.address = none)
    (hr : r.nativeUnits = 0) : (l.putAccount r).nativeUnits = l.nativeUnits := by
  have hput := nativeUnits_putAccount l r
  rw [habsent, Option.elim_none] at hput
  omega

theorem nativeUnits_opening : (l.opening a now).nativeUnits = l.nativeUnits := by
  unfold Ledger.opening
  split
  · next habsent => exact nativeUnits_putAccount_opened (Option.isNone_iff_eq_none.1 habsent) rfl
  · rfl

/-- A record put back over the one found at an address, with the same native units. -/
theorem AccountsKeyed.nativeUnits_putAccount_eq (h : l.AccountsKeyed) {r s : Account}
    (hr : l.account? a = some r) (haddress : s.address = r.address)
    (hunits : s.nativeUnits = r.nativeUnits) : (l.putAccount s).nativeUnits = l.nativeUnits := by
  rw [h.nativeUnits_putAccount hr haddress, hunits]
  omega

end Ledger

namespace Account

variable {r s : Account} {name : String} {n : Int64}

/-- Tokens are no native units. -/
theorem frame_of_credit (h : r.credit name n = .ok s) :
    s.address = r.address ∧ s.balance = r.balance ∧ s.nativeUnits = r.nativeUnits := by
  obtain ⟨held, -, rfl⟩ := credit_eq_ok_iff.1 h
  exact ⟨rfl, rfl, rfl⟩

theorem frame_of_debit (h : r.debit name n = .ok (some s)) :
    s.address = r.address ∧ s.balance = r.balance ∧ s.nativeUnits = r.nativeUnits := by
  obtain ⟨held, rest, -, -, -, -, rfl⟩ := debit_eq_ok_iff.1 h
  exact ⟨rfl, rfl, rfl⟩

end Account

/-! ### Locks -/

/-- What is kept of a list and what is taken out of it add up to all of it. -/
theorem Amount.total_filter {α : Type} (w : α → Int) (p : α → Bool) (items : List α) :
    total ((items.filter p).map w) + total ((items.filter fun a => !p a).map w)
      = total (items.map w) := by
  induction items with
  | nil => rfl
  | cons a items ih =>
      rw [List.filter_cons, List.filter_cons, List.map_cons, total_cons]
      cases p a with
      | false =>
          simp only [Bool.false_eq_true, if_false, Bool.not_false, if_true, List.map_cons,
            total_cons]
          omega
      | true =>
          simp only [Bool.not_true, Bool.false_eq_true, if_false, if_true, List.map_cons,
            total_cons]
          omega

/-- The expired and the other locks of an account are all its locks. -/
theorem Account.toInt_of_released {r : Account} {now n : Int64} (h : r.released now = .ok n) :
    n.toInt + Amount.total ((r.locks.filter fun k => !k.isExpired now).map (·.amount.toInt))
      = r.lockedUnits := by
  rw [Amount.toInt_of_sum h, List.map_map]
  exact Amount.total_filter (·.amount.toInt) (·.isExpired now) r.locks

/-- What is released from the locks is in the balance. -/
theorem Account.nativeUnits_unfrozen {r : Account} {now released balance : Int64}
    (hreleased : r.released now = .ok released)
    (hbalance : balance.toInt = r.balance.toInt + released.toInt) :
    ({ r with
      balance := balance
      locks := r.locks.filter fun k => !k.isExpired now } : Account).nativeUnits
      = r.nativeUnits := by
  have hlocked := toInt_of_released hreleased
  simp only [lockedUnits] at hlocked
  simp only [nativeUnits]
  omega

/-- What was the allowance is in the balance. -/
theorem Account.nativeUnits_withdrawn {r : Account} {balance : Int64} (now : Int64)
    (hbalance : balance.toInt = r.balance.toInt + r.allowance.toInt) :
    ({ r with balance := balance, allowance := 0, latestWithdrawal := now } : Account).nativeUnits
      = r.nativeUnits := by
  simp only [nativeUnits, Amount.toInt_zero]
  omega

/-- A merge adds the amount to what is locked. -/
theorem FreezeBalance.Merges.total {amount expiry : Int64} {before locks : List Lock}
    (h : Merges amount expiry before locks) :
    Amount.total (locks.map (·.amount.toInt))
      = Amount.total (before.map (·.amount.toInt)) + amount.toInt := by
  cases h with
  | first =>
      simp only [List.map_cons, List.map_nil, Amount.total_cons, Amount.total_nil]
      omega
  | again lock sum exact =>
      simp only [List.map_cons, List.map_nil, Amount.total_cons, Amount.total_nil]
      omega

/-- What is frozen is in the locks. -/
theorem Ledger.AccountsKeyed.nativeUnits_putAccount_frozen {l : Ledger} (h : l.AccountsKeyed)
    {a : Address} {r : Account} {amount expiry bandwidth : Int64} {locks : List Lock}
    (hr : l.account? a = some r) (hlocks : FreezeBalance.Merges amount expiry r.locks locks) :
    (l.putAccount { r with locks := locks, bandwidth := bandwidth }).nativeUnits
      = l.nativeUnits + amount.toInt := by
  have hput := h.nativeUnits_putAccount hr
    (show ({ r with locks := locks, bandwidth := bandwidth } : Account).address = r.address from rfl)
  have htotal := hlocks.total
  rw [hput]
  simp only [Account.nativeUnits]
  omega

/-! ### The effect of each kind -/

section

variable {ctx : Context} {l l' : Ledger} {a owner : Address} {r s : Account} {x : Int64}

/-- A record is put back with the same native units, and a fee is charged. -/
theorem Ledger.Charges.nativeUnits_of_put
    (charged : (l.putAccount s).Charges owner x l') (hl : l.AccountsKeyed)
    (found : l.account? a = some r) (haddress : s.address = r.address)
    (hunits : s.nativeUnits = r.nativeUnits) : l'.nativeUnits = l.nativeUnits := by
  rw [charged.nativeUnits (hl.putAccount s), hl.nativeUnits_putAccount_eq found haddress hunits]

/-- A fee below zero is taken from nobody: what the owner pays less is made. -/
theorem Transfer.Effect.nativeUnits_eq {c : Transfer} (h : c.Effect ctx l l')
    (hl : l.AccountsKeyed) :
    l'.nativeUnits = l.nativeUnits + max 0 (-(ctx.fee .transfer).toInt) := by
  obtain ⟨owner, recipient, total, m, n, -, -, htotal, hpaid, hreceived, hcollected⟩ := h
  have hopening : (l.opening recipient ctx.now).AccountsKeyed := hl.opening
  have hm := hpaid.adjusts.accountsKeyed hopening
  have hpaid := hpaid.adjusts.nativeUnits hopening
  rw [Ledger.nativeUnits_opening] at hpaid
  have hn := hreceived.accountsKeyed hm
  have hreceived := hreceived.nativeUnits hm
  split at hcollected
  · next hpositive =>
      rw [Int64.lt_iff_toInt_lt, Amount.toInt_zero] at hpositive
      have hcollected := hcollected.nativeUnits hn
      omega
  · next hpositive =>
      rw [Int64.lt_iff_toInt_lt, Amount.toInt_zero] at hpositive
      rw [hcollected]
      omega

theorem Transfer.Effect.nativeUnits {c : Transfer} (h : c.Effect ctx l l') (hl : l.AccountsKeyed)
    (hfee : 0 ≤ (ctx.fee .transfer).toInt) : l'.nativeUnits = l.nativeUnits := by
  rw [h.nativeUnits_eq hl]
  omega

theorem AccountUpdate.Effect.nativeUnits {c : AccountUpdate} (h : c.Effect ctx l l')
    (hl : l.AccountsKeyed)
    (hopen : ctx.policy.accountUpdate = .rejectExisting → ∀ a, a.bytes = c.owner →
      l.account? a = none) : l'.nativeUnits = l.nativeUnits := by
  cases h with
  | renamed owner account rule owner_eq found charged =>
      exact charged.nativeUnits_of_put hl found rfl rfl
  | opened owner rule owner_eq charged =>
      have habsent := hopen rule owner owner_eq
      rw [charged.nativeUnits (hl.putAccount _)]
      exact Ledger.nativeUnits_putAccount_opened habsent rfl

theorem AssetIssue.Effect.nativeUnits {c : AssetIssue} (h : c.Effect ctx l l')
    (hl : l.AccountsKeyed) : l'.nativeUnits = l.nativeUnits := by
  obtain ⟨owner, m, account, credited, -, charged, found, given, rfl⟩ := h
  have hasset : (l.putAsset (c.asset owner)).AccountsKeyed := hl.putAsset _
  obtain ⟨haddress, -, hunits⟩ := Account.frame_of_credit given
  rw [(charged.accountsKeyed hasset).nativeUnits_putAccount_eq found haddress hunits,
    charged.nativeUnits hasset, Ledger.nativeUnits_putAsset]

theorem TransferAsset.Effect.nativeUnits {c : TransferAsset} (h : c.Effect ctx l l')
    (hl : l.AccountsKeyed) : l'.nativeUnits = l.nativeUnits := by
  obtain ⟨owner, recipient, account, debited, receiver, credited, -, -, found, taken, receiving,
    given, charged⟩ := h
  obtain ⟨hfrom, -, hdebited⟩ := Account.frame_of_debit taken
  obtain ⟨hto, -, hcredited⟩ := Account.frame_of_credit given
  rw [charged.nativeUnits_of_put (hl.putAccount debited) receiving hto hcredited,
    hl.nativeUnits_putAccount_eq found hfrom hdebited]

theorem ParticipateAssetIssue.Effect.nativeUnits {c : ParticipateAssetIssue}
    (h : c.Effect ctx l l') (hl : l.AccountsKeyed) : l'.nativeUnits = l.nativeUnits := by
  obtain ⟨owner, issuer, asset, tokens, m, n, buyer, bought, seller, sold, -, -, -, -, paid, buying,
    given, received, selling, taken, charged⟩ := h
  obtain ⟨hto, -, hbought⟩ := Account.frame_of_credit given
  obtain ⟨hfrom, -, hsold⟩ := Account.frame_of_debit taken
  have hm := paid.adjusts.accountsKeyed hl
  have hput := hm.putAccount bought
  have hpaid := paid.adjusts.nativeUnits hl
  have hbuying := hm.nativeUnits_putAccount_eq buying hto hbought
  have hreceived := received.nativeUnits hput
  rw [charged.nativeUnits_of_put (received.accountsKeyed hput) selling hfrom hsold]
  omega

theorem FreezeBalance.Effect.nativeUnits {c : FreezeBalance} (h : c.Effect ctx l l')
    (hl : l.AccountsKeyed) : l'.nativeUnits = l.nativeUnits := by
  obtain ⟨owner, m, account, duration, expiry, credit, bandwidth, locks, -, paid, found, -, -, merged,
    -, -, charged⟩ := h
  have hm := paid.adjusts.accountsKeyed hl
  have hpaid := paid.adjusts.nativeUnits hl
  -- What has left the balance is in the lock.
  rw [charged.nativeUnits (hm.putAccount _), hm.nativeUnits_putAccount_frozen found merged]
  omega

theorem UnfreezeBalance.Effect.nativeUnits {c : UnfreezeBalance} (h : c.Effect ctx l l')
    (hl : l.AccountsKeyed) : l'.nativeUnits = l.nativeUnits := by
  obtain ⟨owner, account, released, balance, -, found, released_eq, balance_eq, charged⟩ := h
  exact charged.nativeUnits_of_put hl found rfl (Account.nativeUnits_unfrozen released_eq balance_eq)

theorem WitnessCreate.Effect.nativeUnits {c : WitnessCreate} (h : c.Effect ctx l l')
    (hl : l.AccountsKeyed) : l'.nativeUnits = l.nativeUnits := by
  obtain ⟨owner, account, total, -, found, -, charged⟩ := h
  exact charged.nativeUnits_of_put (hl.putWitness _) found rfl rfl

theorem WitnessUpdate.Effect.nativeUnits {c : WitnessUpdate} (h : c.Effect ctx l l')
    (hl : l.AccountsKeyed) : l'.nativeUnits = l.nativeUnits := by
  obtain ⟨owner, witness, -, -, charged⟩ := h
  exact charged.nativeUnits (hl.putWitness _)

theorem VoteWitness.Effect.nativeUnits {c : VoteWitness} (h : c.Effect ctx l l')
    (hl : l.AccountsKeyed) : l'.nativeUnits = l.nativeUnits := by
  obtain ⟨owner, counts, account, -, -, found, charged⟩ := h
  exact charged.nativeUnits_of_put hl found rfl rfl

theorem WithdrawBalance.Effect.nativeUnits {c : WithdrawBalance} (h : c.Effect ctx l l')
    (hl : l.AccountsKeyed) : l'.nativeUnits = l.nativeUnits := by
  obtain ⟨owner, account, balance, -, found, balance_eq, charged⟩ := h
  exact charged.nativeUnits_of_put hl found rfl (Account.nativeUnits_withdrawn _ balance_eq)

end

/-! ### Any contract -/

/-- The contract opens an account over the one that is there: an account update that is to be rejected
for an existing account meets one. -/
def Contract.Reopens (c : Contract) (ctx : Context) (l : Ledger) : Prop :=
  ∃ (u : AccountUpdate) (a : Address) (r : Account), c = .accountUpdate u ∧
    ctx.policy.accountUpdate = .rejectExisting ∧ a.bytes = u.owner ∧ l.account? a = some r

/-- Where no account is opened over an existing one, an account update that opens one meets none. -/
theorem Contract.absent_of_not_reopens {u : AccountUpdate} {ctx : Context} {l : Ledger}
    (hopen : ¬ (Contract.accountUpdate u).Reopens ctx l)
    (hrule : ctx.policy.accountUpdate = .rejectExisting) (a : Address) (ha : a.bytes = u.owner) :
    l.account? a = none := by
  cases hr : l.account? a with
  | none => rfl
  | some r => exact absurd ⟨u, a, r, rfl, hrule, ha, hr⟩ hopen

section

variable {c : Contract} {ctx : Context} {l l' : Ledger}

/-- **An effect leaves the native units alone.** -/
theorem Contract.Effect.nativeUnits (h : c.Effect ctx l l') (hl : l.AccountsKeyed)
    (hfee : 0 ≤ (ctx.fee .transfer).toInt) (hopen : ¬ c.Reopens ctx l) :
    l'.nativeUnits = l.nativeUnits := by
  cases c with
  | transfer c => exact Transfer.Effect.nativeUnits h hl hfee
  | transferAsset c => exact TransferAsset.Effect.nativeUnits h hl
  | assetIssue c => exact AssetIssue.Effect.nativeUnits h hl
  | participateAssetIssue c => exact ParticipateAssetIssue.Effect.nativeUnits h hl
  | freezeBalance c => exact FreezeBalance.Effect.nativeUnits h hl
  | unfreezeBalance c => exact UnfreezeBalance.Effect.nativeUnits h hl
  | witnessCreate c => exact WitnessCreate.Effect.nativeUnits h hl
  | witnessUpdate c => exact WitnessUpdate.Effect.nativeUnits h hl
  | accountUpdate c => exact AccountUpdate.Effect.nativeUnits h hl (absent_of_not_reopens hopen)
  | voteWitness c => exact VoteWitness.Effect.nativeUnits h hl
  | withdrawBalance c => exact WithdrawBalance.Effect.nativeUnits h hl

/-- Whatever a run leaves has the native units that were there. -/
theorem Contract.Leaves.nativeUnits (h : c.Leaves ctx l l') (hl : l.AccountsKeyed)
    (hfee : 0 ≤ (ctx.fee .transfer).toInt) (hopen : ¬ c.Reopens ctx l) :
    l'.nativeUnits = l.nativeUnits := by
  cases h with
  | same => rfl
  | effect _ done => exact done.nativeUnits hl hfee hopen
  | charge a _ owner_eq charged => exact charged.nativeUnits hl

/-- An admissible contract opens no account over an existing one. -/
theorem Contract.Admissible.not_reopens (h : c.Admissible ctx l) : ¬ c.Reopens ctx l := by
  rintro ⟨u, a, r, rfl, hrule, ha, hr⟩
  cases h with
  | renamed owner account rule name_ne owner_eq found covered =>
      rw [hrule] at rule
      cases rule
  | opened owner rule name_ne owner_eq absent covered =>
      obtain rfl := Address.ext (owner_eq.trans ha.symm)
      rw [absent] at hr
      cases hr

/-- What becomes of a contract that is checked first leaves the native units alone. -/
theorem Engine.nativeUnits_apply (hl : l.AccountsKeyed) (hfee : 0 ≤ (ctx.fee .transfer).toInt) :
    (Engine.apply c ctx l).2.nativeUnits = l.nativeUnits := by
  rcases leaves_apply with h | ⟨hc, h⟩
  · rw [h]
  · exact h.nativeUnits hl hfee hc.not_reopens

end

end AccountLedger
