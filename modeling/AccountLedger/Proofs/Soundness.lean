/-
**Executions keep a ledger structured.**

What an execution writes is sound again: the records it stores, and the balances it changes.  Most
kinds need nothing but a structured ledger for that; issuing, freezing and voting rely on what their
checks have established.

Main results:

* `Contract.Effect.structured` — **the effect of an admissible contract keeps a ledger structured**;
* `Engine.structured_apply` — and so does whatever else a checked run leaves.
-/

import AccountLedger.Proofs.Consistency
import AccountLedger.Proofs.Effect
import AccountLedger.Proofs.Holdings
import AccountLedger.Proofs.Settlement
import AccountLedger.Proofs.Tally

set_option relaxedAutoImplicit false
set_option autoImplicit false

namespace AccountLedger

/-! ### Records that are stored -/

namespace Account.Sound

variable {r s : Account} {l : Ledger} {name : String} {n : Int64}

/-- Tokens can be credited if the holding does not end below zero. -/
theorem credit (h : r.Sound l) (hname : l.hasAsset name = true) (hn : 0 ≤ n.toInt)
    (hgiven : r.credit name n = .ok s) : s.Sound l := by
  obtain ⟨held, hheld, rfl⟩ := credit_eq_ok_iff.1 hgiven
  have := h.holding_nonneg name
  exact h.withHolding (by omega) hname

/-- Tokens that can be taken are of a registered asset, and their number is positive. -/
theorem debit (h : r.Sound l) (htaken : r.debit name n = .ok (some s)) :
    s.Sound l ∧ l.hasAsset name = true ∧ 0 < n.toInt := by
  obtain ⟨held, rest, hget, hpositive, hle, hrest, rfl⟩ := debit_eq_ok_iff.1 htaken
  have hname := (h.holdings name held hget).2
  exact ⟨h.withHolding (by omega) hname, hname, hpositive⟩

theorem renamed (h : r.Sound l) (name : Bytes) : ({ r with name := name } : Account).Sound l :=
  ⟨h.balance, h.allowance, h.bandwidth, h.oneLock, h.locks, h.holdings, h.votes⟩

theorem elected (h : r.Sound l) : ({ r with isWitness := true } : Account).Sound l :=
  ⟨h.balance, h.allowance, h.bandwidth, h.oneLock, h.locks, h.holdings, h.votes⟩

/-- Votes with positive counts can be cast for witnesses. -/
theorem voting (h : r.Sound l) {votes : SortedMap Address Int64}
    (hvotes : ∀ a n, votes.get? a = some n → l.hasWitness a = true ∧ 0 < n.toInt) :
    ({ r with votes := votes } : Account).Sound l :=
  ⟨h.balance, h.allowance, h.bandwidth, h.oneLock, h.locks, h.holdings, hvotes⟩

/-- A positive lock can take the place of what was locked, with bandwidth that is not negative. -/
theorem frozen (h : r.Sound l) {locks : List Lock} {bandwidth : Int64} (hone : locks.length ≤ 1)
    (hlocks : ∀ k ∈ locks, 0 < k.amount.toInt) (hbandwidth : 0 ≤ bandwidth.toInt) :
    ({ r with locks := locks, bandwidth := bandwidth } : Account).Sound l :=
  ⟨h.balance, h.allowance, hbandwidth, hone, hlocks, h.holdings, h.votes⟩

/-- What is released is not negative. -/
theorem released_nonneg (h : r.Sound l) {now released : Int64}
    (hreleased : r.released now = .ok released) : 0 ≤ released.toInt := by
  rw [Amount.toInt_of_sum hreleased, List.map_map]
  refine Amount.total_nonneg fun x hx => ?_
  obtain ⟨k, hk, rfl⟩ := List.mem_map.1 hx
  exact Int.le_of_lt (h.locks k (List.mem_filter.1 hk).1)

/-- And what stays locked is sound. -/
theorem unfrozen (h : r.Sound l) {now released balance : Int64}
    (hreleased : r.released now = .ok released)
    (hbalance : balance.toInt = r.balance.toInt + released.toInt) :
    ({ r with
      balance := balance
      locks := r.locks.filter fun k => !k.isExpired now } : Account).Sound l := by
  have hbefore := h.balance
  have hnonneg := h.released_nonneg hreleased
  have hafter : 0 ≤ balance.toInt := by omega
  exact ⟨hafter, h.allowance, h.bandwidth, Nat.le_trans (List.length_filter_le _ _) h.oneLock,
    fun k hk => h.locks k (List.mem_filter.1 hk).1, h.holdings, h.votes⟩

/-- The allowance can go into the balance. -/
theorem withdrawn (h : r.Sound l) {balance : Int64} (now : Int64)
    (hbalance : balance.toInt = r.balance.toInt + r.allowance.toInt) :
    ({ r with balance := balance, allowance := 0, latestWithdrawal := now } : Account).Sound l := by
  have hbefore := h.balance
  have hallowance := h.allowance
  have hafter : 0 ≤ balance.toInt := by omega
  exact ⟨hafter, Int.le_refl 0, h.bandwidth, h.oneLock, h.locks, h.holdings, h.votes⟩

end Account.Sound

theorem Ledger.Structured.opening {l : Ledger} (h : l.Structured) (a : Address) (now : Int64) :
    (l.opening a now).Structured := by
  unfold Ledger.opening
  split
  · exact h.putAccount (Account.sound_opened a .normal now l)
  · exact h

/-! ### Votes and bandwidth -/

/-- Votes that are counted and whose targets are witnesses are sound. -/
theorem VoteWitness.tally_sound {votes : List Vote} {counts : SortedMap Address Int64} {l : Ledger}
    (h : tally votes = .ok counts) (htargets : ∀ a ∈ counts.keys, l.hasWitness a = true) :
    ∀ a n, counts.get? a = some n → l.hasWitness a = true ∧ 0 < n.toInt := by
  intro a n hn
  exact ⟨htargets a (SortedMap.mem_keys_iff.2 ⟨n, hn⟩), (counted_of_tally h).pos hn⟩

/-- What is earned is exact. -/
theorem FreezeBalance.toInt_of_credit {c : FreezeBalance} {rate n : Int64}
    (h : c.credit rate = .ok n) : n.toInt = c.amount.toInt * c.days.toInt * rate.toInt := by
  simp only [credit, Check.bind_eq_ok_iff, Amount.mul_eq_ok_iff] at h
  obtain ⟨product, hproduct, hn⟩ := h
  rw [hn, hproduct]

/-- What is frozen for some days earns no negative bandwidth. -/
theorem FreezeBalance.credit_nonneg {c : FreezeBalance} {rate n : Int64}
    (hcredit : c.credit rate = .ok n) (hamount : 0 ≤ c.amount.toInt) (hdays : 0 ≤ c.days.toInt)
    (hrate : 0 ≤ rate.toInt) : 0 ≤ n.toInt := by
  rw [toInt_of_credit hcredit]
  exact Int.mul_nonneg (Int.mul_nonneg hamount hdays) hrate

/-- A merged lock is the only one, and its amount is positive. -/
theorem FreezeBalance.Merges.sound {amount expiry : Int64} {before locks : List Lock}
    (h : Merges amount expiry before locks) (hamount : 0 < amount.toInt)
    (hbefore : ∀ k ∈ before, 0 < k.amount.toInt) :
    locks.length ≤ 1 ∧ ∀ k ∈ locks, 0 < k.amount.toInt := by
  cases h with
  | first =>
      refine ⟨Nat.le_refl 1, fun k hk => ?_⟩
      obtain rfl := List.mem_singleton.1 hk
      exact hamount
  | again lock sum exact =>
      refine ⟨Nat.le_refl 1, fun k hk => ?_⟩
      obtain rfl := List.mem_singleton.1 hk
      have := hbefore lock List.mem_cons_self
      show 0 < sum.toInt
      omega

/-! ### The effect of each kind -/

section

variable {ctx : Context} {l l' : Ledger} {owner : Address} {r : Account} {x : Int64}

/-- A sound record is stored, and a fee is charged. -/
theorem Ledger.Charges.structured_of_put (charged : (l.putAccount r).Charges owner x l')
    (hl : l.Structured) (hr : r.Sound l) : l'.Structured := (hl.putAccount hr).charges charged

theorem Transfer.Effect.structured {c : Transfer} (h : c.Effect ctx l l') (hl : l.Structured) :
    l'.Structured := by
  obtain ⟨owner, recipient, total, m, n, -, -, -, hpaid, hreceived, hcollected⟩ := h
  have hn := ((hl.opening recipient ctx.now).adjusts hpaid.adjusts).adjusts hreceived
  split at hcollected
  · exact hn.adjusts hcollected
  · exact hcollected ▸ hn

theorem AccountUpdate.Effect.structured {c : AccountUpdate} (h : c.Effect ctx l l')
    (hl : l.Structured) : l'.Structured := by
  cases h with
  | renamed owner account rule owner_eq found charged =>
      exact charged.structured_of_put hl ((hl.accounts owner account found).renamed c.name)
  | opened owner rule owner_eq charged =>
      have hsound := Account.sound_opened owner .normal ctx.now l
      exact charged.structured_of_put hl (hsound.renamed c.name)

theorem AssetIssue.Effect.structured {c : AssetIssue} (h : c.Effect ctx l l')
    (hc : c.Admissible ctx l) (hl : l.Structured) : l'.Structured := by
  obtain ⟨owner, m, account, credited, owner_eq, charged, found, given, rfl⟩ := h
  obtain ⟨owner', name, issuer, owner_eq', -, -, supply, units, tokens, -, there, -, -⟩ := hc
  obtain rfl := Address.ext (owner_eq.trans owner_eq'.symm)
  have hasset : (c.asset owner).Sound l :=
    ⟨supply, units, tokens, Ledger.hasAccount_iff.2 ⟨issuer, there⟩⟩
  have hput := hl.putAsset hasset
  have hm := hput.charges charged
  -- The fee leaves the assets alone, so the new one is there when its supply is credited.
  have hname : m.hasAsset (Utf8.repair c.name) = true := by
    rw [Ledger.hasAsset, (charged.sameButBalances hput.accountsKeyed).assets]
    exact Ledger.hasAsset_iff.2 ⟨_, Ledger.asset?_putAsset_self l (c.asset owner)⟩
  exact hm.putAccount ((hm.accounts owner account found).credit hname (Int.le_of_lt supply) given)

theorem TransferAsset.Effect.structured {c : TransferAsset} (h : c.Effect ctx l l')
    (hl : l.Structured) : l'.Structured := by
  obtain ⟨owner, recipient, account, debited, receiver, credited, -, -, found, taken, receiving,
    given, charged⟩ := h
  obtain ⟨hdebited, hname, hpositive⟩ := (hl.accounts owner account found).debit taken
  have hput := hl.putAccount hdebited
  have hreceiver := hput.accounts recipient receiver receiving
  exact charged.structured_of_put hput (hreceiver.credit hname (Int.le_of_lt hpositive) given)

theorem ParticipateAssetIssue.Effect.structured {c : ParticipateAssetIssue}
    (h : c.Effect ctx l l') (hl : l.Structured) : l'.Structured := by
  obtain ⟨owner, issuer, asset, tokens, m, n, buyer, bought, seller, sold, -, -, registered, -, paid,
    buying, given, received, selling, taken, charged⟩ := h
  have hm := hl.adjusts paid.adjusts
  have hname : m.hasAsset (Utf8.repair c.asset) = true := by
    rw [Ledger.hasAsset, (paid.adjusts.sameButBalances hl.accountsKeyed).assets]
    exact Ledger.hasAsset_iff.2 ⟨asset, registered⟩
  -- The tokens are positive because the issuer can be relieved of them.
  obtain ⟨-, -, -, hpositive, -⟩ := Account.debit_eq_ok_iff.1 taken
  have hbought := (hm.accounts owner buyer buying).credit hname (Int.le_of_lt hpositive) given
  have hn := (hm.putAccount hbought).adjusts received
  exact charged.structured_of_put hn ((hn.accounts issuer seller selling).debit taken).1

theorem FreezeBalance.Effect.structured {c : FreezeBalance} (h : c.Effect ctx l l')
    (hc : c.Admissible ctx l) (hl : l.Structured)
    (hrate : 0 ≤ l.parameters.bandwidthPerCoinDay.toInt)
    (htime : 0 ≤ l.parameters.minFrozenTime.toInt) : l'.Structured := by
  obtain ⟨owner, m, account, duration, expiry, credit, bandwidth, locks, -, paid, found, -, -, merged,
    earned, bandwidth_eq, charged⟩ := h
  obtain ⟨-, -, -, -, -, -, positive, -, -, -, days_ge, -, -, -, -, -⟩ := hc
  have hm := hl.adjusts paid.adjusts
  have hsound := hm.accounts owner account found
  have hearned := credit_nonneg earned (Int.le_of_lt positive) (by omega) hrate
  have hbefore := hsound.bandwidth
  have hbandwidth : 0 ≤ bandwidth.toInt := by omega
  obtain ⟨hone, hlocks⟩ := merged.sound positive hsound.locks
  exact charged.structured_of_put hm (hsound.frozen hone hlocks hbandwidth)

theorem UnfreezeBalance.Effect.structured {c : UnfreezeBalance} (h : c.Effect ctx l l')
    (hl : l.Structured) : l'.Structured := by
  obtain ⟨owner, account, released, balance, -, found, released_eq, balance_eq, charged⟩ := h
  have hsound := hl.accounts owner account found
  exact charged.structured_of_put hl (hsound.unfrozen released_eq balance_eq)

theorem WitnessCreate.Effect.structured {c : WitnessCreate} (h : c.Effect ctx l l')
    (hl : l.Structured) : l'.Structured := by
  obtain ⟨owner, account, total, -, found, -, charged⟩ := h
  have hput : (l.putWitness ⟨owner, Utf8.repair c.url, 0⟩).Structured :=
    hl.putWitness (Ledger.hasAccount_iff.2 ⟨account, found⟩)
  exact charged.structured_of_put hput (hput.accounts owner account found).elected

theorem WitnessUpdate.Effect.structured {c : WitnessUpdate} (h : c.Effect ctx l l')
    (hl : l.Structured) : l'.Structured := by
  obtain ⟨owner, witness, -, found, charged⟩ := h
  refine (hl.putWitness ?_).charges charged
  show l.hasAccount witness.address = true
  rw [hl.keyed.witness owner witness found]
  exact hl.witnesses owner witness found

theorem VoteWitness.Effect.structured {c : VoteWitness} (h : c.Effect ctx l l')
    (hc : c.Admissible ctx l) (hl : l.Structured) : l'.Structured := by
  obtain ⟨owner, counts, account, -, tallied, found, charged⟩ := h
  obtain ⟨-, counts', -, -, -, -, -, -, tallied', targets, -, -, -, -, -, -, -⟩ := hc
  obtain rfl := Except.ok.inj (tallied.symm.trans tallied')
  exact charged.structured_of_put hl
    ((hl.accounts owner account found).voting (tally_sound tallied fun a ha => (targets a ha).2))

theorem WithdrawBalance.Effect.structured {c : WithdrawBalance} (h : c.Effect ctx l l')
    (hl : l.Structured) : l'.Structured := by
  obtain ⟨owner, account, balance, -, found, balance_eq, charged⟩ := h
  exact charged.structured_of_put hl ((hl.accounts owner account found).withdrawn _ balance_eq)

end

/-! ### Any contract -/

section

variable {c : Contract} {ctx : Context} {l l' : Ledger}

/-- **The effect of an admissible contract keeps a ledger structured.** -/
theorem Contract.Effect.structured (h : c.Effect ctx l l') (hc : c.Admissible ctx l)
    (hl : l.Structured) (hrate : 0 ≤ l.parameters.bandwidthPerCoinDay.toInt)
    (htime : 0 ≤ l.parameters.minFrozenTime.toInt) : l'.Structured := by
  cases c with
  | transfer c => exact Transfer.Effect.structured h hl
  | transferAsset c => exact TransferAsset.Effect.structured h hl
  | assetIssue c => exact AssetIssue.Effect.structured h hc hl
  | participateAssetIssue c => exact ParticipateAssetIssue.Effect.structured h hl
  | freezeBalance c => exact FreezeBalance.Effect.structured h hc hl hrate htime
  | unfreezeBalance c => exact UnfreezeBalance.Effect.structured h hl
  | witnessCreate c => exact WitnessCreate.Effect.structured h hl
  | witnessUpdate c => exact WitnessUpdate.Effect.structured h hl
  | accountUpdate c => exact AccountUpdate.Effect.structured h hl
  | voteWitness c => exact VoteWitness.Effect.structured h hc hl
  | withdrawBalance c => exact WithdrawBalance.Effect.structured h hl

/-- Whatever a run of an admissible contract leaves is structured. -/
theorem Contract.Leaves.structured (h : c.Leaves ctx l l') (hc : c.Admissible ctx l)
    (hl : l.Structured) (hrate : 0 ≤ l.parameters.bandwidthPerCoinDay.toInt)
    (htime : 0 ≤ l.parameters.minFrozenTime.toInt) : l'.Structured := by
  cases h with
  | same => exact hl
  | effect _ done => exact done.structured hc hl hrate htime
  | charge a _ owner_eq charged => exact hl.charges charged

/-- What becomes of a contract that is checked first keeps a ledger structured. -/
theorem Engine.structured_apply (hl : l.Structured)
    (hrate : 0 ≤ l.parameters.bandwidthPerCoinDay.toInt)
    (htime : 0 ≤ l.parameters.minFrozenTime.toInt) : (Engine.apply c ctx l).2.Structured := by
  rcases leaves_apply with h | ⟨hc, h⟩
  · exact h.symm ▸ hl
  · exact h.structured hc hl hrate htime

end

end AccountLedger
