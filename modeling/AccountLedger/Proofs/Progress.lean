/-
**Admissible contracts succeed.**

What a check looks at, together with the consistency of the ledger, is enough for the execution:
no balance step and no sum on the way can fail.  The one thing that is not looked at is the expiry of
a freeze, which may not fit; such a freeze fails, and its fee is still covered.

Main definitions:

* `Ledger.Bears` — what an execution relies on beside its check: the ledger's sums fit and the record of
  the owner is sound;
* `FreezeBalance.expiry`, `Contract.ExpiryFits` — the time until which a freeze locks its amount.

Main results:

* `Contract.Admissible.exists_solvent_effect` — **an admissible contract has an effect**, unless it is a
  freeze whose expiry does not fit, and the sums still fit after it;
* `Engine.validate_predicts_apply` — **the check predicts what becomes of a contract.**
-/

import AccountLedger.Proofs.Debits
import AccountLedger.Proofs.Invariants

set_option relaxedAutoImplicit false
set_option autoImplicit false

namespace AccountLedger

/-! ### Records that are put back -/

namespace Account.Solvent

variable {r s : Account} {name : String} {n : Int64}

theorem credit (h : r.Solvent) (hgiven : r.credit name n = .ok s) : s.Solvent := by
  obtain ⟨held, -, rfl⟩ := credit_eq_ok_iff.1 hgiven
  exact ⟨h.balance, h.locked, h.allowance⟩

theorem debit (h : r.Solvent) (htaken : r.debit name n = .ok (some s)) : s.Solvent := by
  obtain ⟨held, rest, -, -, -, -, rfl⟩ := debit_eq_ok_iff.1 htaken
  exact ⟨h.balance, h.locked, h.allowance⟩

theorem frozen (h : r.Solvent) {amount expiry bandwidth : Int64} {locks : List Lock}
    (hlocks : FreezeBalance.Merges amount expiry r.locks locks) (hamount : 0 ≤ amount.toInt) :
    ({ r with locks := locks, bandwidth := bandwidth } : Account).Solvent := by
  refine ⟨h.balance, ?_, h.allowance⟩
  have hbefore := h.locked
  have htotal := hlocks.total
  simp only [lockedUnits] at hbefore ⊢
  omega

end Account.Solvent

namespace Ledger

variable {l l' : Ledger} {a : Address} {r s : Account} {x : Int64}

/-- A record can be put back with the same native units. -/
theorem Solvent.putBack (h : l.Solvent) (hr : l.account? a = some r) (hs : s.Solvent)
    (haddress : s.address = r.address) (hunits : s.nativeUnits = r.nativeUnits) :
    (l.putAccount s).Solvent := by
  refine h.putAccount hs ?_
  rw [h.keyed.nativeUnits_putAccount_eq hr haddress hunits]
  exact h.supply

/-- And a fee that its balance covers can be charged then. -/
theorem Solvent.exists_charges_of_put (h : l.Solvent) (hr : l.account? a = some r)
    (hs : s.Solvent) (haddress : s.address = r.address) (hunits : s.nativeUnits = r.nativeUnits)
    (hnonneg : 0 ≤ x.toInt) (hle : x.toInt ≤ s.balance.toInt) :
    ∃ l', (l.putAccount s).Charges a x l' ∧ l'.Solvent := by
  have hfound := h.keyed.account?_putAccount hr haddress
  have hput := h.putBack hr hs haddress hunits
  obtain ⟨l', hl'⟩ := hput.exists_charges hfound hnonneg hle
  exact ⟨l', hl', hput.charges hl' hnonneg⟩

theorem Solvent.opening (h : l.Solvent) (a : Address) (now : Int64) :
    (l.opening a now).Solvent := by
  have hsupply : (l.opening a now).nativeUnits < 9223372036854775808 := by
    rw [nativeUnits_opening]
    exact h.supply
  unfold Ledger.opening at hsupply ⊢
  split
  · next habsent =>
      rw [if_pos habsent] at hsupply
      exact h.putAccount (Account.sound_opened a .normal now l).solvent hsupply
  · exact h

end Ledger

/-! ### What an execution relies on -/

/-- The ledger is solvent, and the record under these bytes is sound: what the execution of a contract
of this owner relies on, beside what its check has established. -/
structure Ledger.Bears (l : Ledger) (owner : Bytes) : Prop extends Ledger.Solvent l where
  owner : ∀ a r, a.bytes = owner → l.account? a = some r → r.Sound l

/-- A consistent ledger bears the contracts of every owner. -/
theorem Ledger.Consistent.bears {l : Ledger} (h : l.Consistent) (owner : Bytes) : l.Bears owner :=
  ⟨h.solvent, fun a r _ hr => h.accounts a r hr⟩

/-! ### The effect of each kind -/

section

variable {ctx : Context} {l : Ledger}

theorem Transfer.Admissible.exists_effect {c : Transfer} (h : c.Admissible ctx l)
    (hl : l.Bears c.owner) (hfee : 0 ≤ (ctx.fee .transfer).toInt) :
    ∃ l', c.Effect ctx l l' ∧ l'.Solvent := by
  obtain ⟨owner, recipient, account, total, howner, hrecipient, hne, hfound, -, hpositive, htotal,
    hcovered, -, -⟩ := h
  have hsupply := hl.supply
  have hopening := hl.toSolvent.opening recipient ctx.now
  have hunits := @Ledger.nativeUnits_opening l recipient ctx.now
  have hpayer : (l.opening recipient ctx.now).account? owner = some account := by
    rw [Ledger.account?_opening_of_ne hne, hfound]
  obtain ⟨m, hm⟩ := hopening.exists_pays (x := total) hpayer (by omega) hcovered
  have hmunits := hm.adjusts.nativeUnits hopening.keyed
  have hmsolvent := hopening.adjusts hm.adjusts (by omega)
  -- The recipient's account is there, opened or not, and its balance has room for the amount.
  obtain ⟨r, hr⟩ : ∃ r, m.account? recipient = some r := by
    obtain ⟨r, hr⟩ := @Ledger.exists_account?_opening l recipient ctx.now
    obtain ⟨b, hb⟩ := (hm.adjusts.sameButBalances hopening.keyed).account recipient r hr
    exact ⟨_, hb⟩
  have hrbalance := (hmsolvent.accounts recipient r hr).balance
  obtain ⟨n, hn⟩ := hmsolvent.exists_adjusts hr (d := c.amount.toInt) (by omega) (by omega)
  have hnunits := hn.nativeUnits hmsolvent.keyed
  have hnsolvent := hmsolvent.adjusts hn (by omega)
  by_cases hzero : 0 < ctx.fee .transfer
  · obtain ⟨s, hs⟩ := Ledger.hasAccount_iff.1 hnsolvent.sink
    have hsbalance := (hnsolvent.accounts n.sink s hs).balance
    obtain ⟨l', hl'⟩ := hnsolvent.exists_adjusts hs (d := (ctx.fee .transfer).toInt) (by omega)
      (by omega)
    refine ⟨l', .intro owner recipient total m n howner hrecipient htotal hm hn ?_,
      hnsolvent.adjusts hl' (by omega)⟩
    rwa [if_pos hzero]
  · refine ⟨n, .intro owner recipient total m n howner hrecipient htotal hm hn ?_, hnsolvent⟩
    rw [if_neg hzero]

theorem AccountUpdate.Admissible.exists_effect {c : AccountUpdate} (h : c.Admissible ctx l)
    (hl : l.Bears c.owner) (hfee : 0 ≤ (ctx.fee .accountUpdate).toInt) :
    ∃ l', c.Effect ctx l l' ∧ l'.Solvent := by
  cases h with
  | renamed owner account rule name_ne owner_eq found covered =>
      have hsolvent := hl.toSolvent.accounts owner account found
      obtain ⟨l', hl', hafter⟩ := hl.toSolvent.exists_charges_of_put
        (s := { account with name := c.name }) found
        ⟨hsolvent.balance, hsolvent.locked, hsolvent.allowance⟩ rfl rfl hfee covered
      exact ⟨l', .renamed owner account rule owner_eq found hl', hafter⟩
  | opened owner rule name_ne owner_eq absent covered =>
      -- A new account covers nothing, so there is no fee.
      have hzero : ctx.fee .accountUpdate = 0 := Int64.toInt_inj.1 (Int.le_antisymm covered hfee)
      refine ⟨_, .opened owner rule owner_eq (.free hzero), hl.toSolvent.putAccount ?_ ?_⟩
      · exact ⟨Int.le_refl 0, Int.le_refl 0, Int.le_refl 0⟩
      · rw [Ledger.nativeUnits_putAccount_opened absent rfl]
        exact hl.supply

theorem AssetIssue.Admissible.exists_effect {c : AssetIssue} (h : c.Admissible ctx l)
    (hl : l.Bears c.owner) (hfee : 0 ≤ (ctx.fee .assetIssue).toInt) :
    ∃ l', c.Effect ctx l l' ∧ l'.Solvent := by
  obtain ⟨owner, name, account, howner, -, hname, -, -, -, -, hfound, hnew, hcovered⟩ := h
  obtain rfl := Utf8.repair_eq_of_decode? hname
  have hput := hl.toSolvent.putAsset (c.asset owner)
  obtain ⟨m, hm⟩ := hput.exists_charges (r := account) hfound hfee hcovered
  obtain ⟨b, hb⟩ := (hm.sameButBalances hput.keyed).account owner account hfound
  -- Nobody holds an asset that is not registered, so the supply is all there will be.
  have hnone : account.holding (Utf8.repair c.name) = 0 := by
    rw [Account.holding]
    cases hget : account.holdings.get? (Utf8.repair c.name) with
    | none => rfl
    | some n =>
        have hregistered := ((hl.owner owner account howner hfound).holdings _ n hget).2
        rw [hnew] at hregistered
        cases hregistered
  have hissued : Amount.Fits ((({ account with balance := b } : Account).holding
      (Utf8.repair c.name)).toInt + c.totalSupply.toInt) := by
    show Amount.Fits ((account.holding (Utf8.repair c.name)).toInt + _)
    rw [hnone, Amount.toInt_zero, Int.zero_add]
    exact Amount.fits_toInt c.totalSupply
  obtain ⟨credited, hgiven⟩ := Account.exists_credit hissued
  obtain ⟨haddress, -, hunits⟩ := Account.frame_of_credit hgiven
  have hmsolvent := hput.charges hm hfee
  exact ⟨_, .intro owner m _ credited howner hm hb hgiven rfl,
    hmsolvent.putBack hb ((hmsolvent.accounts owner _ hb).credit hgiven) haddress hunits⟩

theorem TransferAsset.Admissible.exists_effect {c : TransferAsset} (h : c.Admissible ctx l)
    (hl : l.Bears c.owner) (hfee : 0 ≤ (ctx.fee .transferAsset).toInt) :
    ∃ l', c.Effect ctx l l' ∧ l'.Solvent := by
  obtain ⟨owner, recipient, name, account, receiver, howner, hrecipient, -, hname, hpositive, hne,
    hfound, -, hcovered, ⟨-, hheld⟩, hreceiving, htakes⟩ := h
  obtain rfl := Utf8.repair_eq_of_decode? hname
  have hsolvent := hl.toSolvent
  obtain ⟨debited, htaken⟩ := Account.exists_debit hpositive (Int64.le_iff_toInt_le.1 hheld)
  obtain ⟨hfrom, hbalance, hfromUnits⟩ := Account.frame_of_debit htaken
  have hfromOwner : debited.address = owner := hfrom.trans (hsolvent.keyed owner account hfound)
  have hput := hsolvent.putBack hfound ((hsolvent.accounts owner account hfound).debit htaken)
    hfrom hfromUnits
  have hthere : (l.putAccount debited).account? recipient = some receiver := by
    rw [Ledger.account?_putAccount_of_ne fun heq => hne (heq.trans hfromOwner).symm, hreceiving]
  obtain ⟨credited, hgiven⟩ := Account.exists_credit htakes
  obtain ⟨hto, -, htoUnits⟩ := Account.frame_of_credit hgiven
  have htoRecipient := hto.trans (hput.keyed recipient receiver hthere)
  have hfinal := hput.putBack hthere ((hput.accounts recipient receiver hthere).credit hgiven) hto
    htoUnits
  -- The second record is of another account, so the owner's is the one that was debited.
  have hpayer : ((l.putAccount debited).putAccount credited).account? owner = some debited := by
    rw [Ledger.account?_putAccount_of_ne fun heq => hne (heq.trans htoRecipient), ← hfromOwner,
      Ledger.account?_putAccount_self]
  obtain ⟨l', hl'⟩ := hfinal.exists_charges hpayer hfee (by rwa [hbalance])
  exact ⟨l', .intro owner recipient account debited receiver credited howner hrecipient hfound htaken
    hthere hgiven hl', hfinal.charges hl' hfee⟩

theorem ParticipateAssetIssue.Admissible.exists_effect {c : ParticipateAssetIssue}
    (h : c.Admissible ctx l) (hl : l.Bears c.owner)
    (hfee : 0 ≤ (ctx.fee .participateAssetIssue).toInt) : ∃ l', c.Effect ctx l l' ∧ l'.Solvent := by
  obtain ⟨owner, issuer, name, buyer, seller, required, asset, tokens, howner, hissuer, -, hname,
    hpositive, hne, hbuying, hrequired, hcovered, hregistered, -, -, hpriced, hsome, hselling, hheld,
    hbuyerTakes, -⟩ := h
  obtain rfl := Utf8.repair_eq_of_decode? hname
  have hsolvent := hl.toSolvent
  have hsupply := hl.supply
  -- The amount leaves the buyer.
  obtain ⟨m, hm⟩ := hsolvent.exists_pays (x := c.amount) hbuying (by omega) (by omega)
  have hmunits := hm.adjusts.nativeUnits hsolvent.keyed
  have hmsolvent := hsolvent.adjusts hm.adjusts (by omega)
  obtain ⟨_, b, hbuyer, hpaid, hb, -⟩ := hm.adjusts.account?_self hsolvent.keyed
  cases hbuying.symm.trans hbuyer
  -- The tokens reach the buyer.
  obtain ⟨bought, hgiven⟩ := Account.exists_credit (r := { buyer with balance := b }) hbuyerTakes
  obtain ⟨hto, hbalance, htoUnits⟩ := Account.frame_of_credit hgiven
  have htoOwner : bought.address = owner := hto.trans (hmsolvent.keyed owner _ hpaid)
  have hput := hmsolvent.putBack hpaid ((hmsolvent.accounts owner _ hpaid).credit hgiven) hto
    htoUnits
  have hputUnits := hmsolvent.keyed.nativeUnits_putAccount_eq hpaid hto htoUnits
  -- The amount reaches the issuer.
  have hthere : (m.putAccount bought).account? issuer = some seller := by
    rw [Ledger.account?_putAccount_of_ne fun heq => hne (heq.trans htoOwner).symm,
      hm.adjusts.account?_of_ne hsolvent.keyed hne.symm, hselling]
  have hsellerBalance := (hput.accounts issuer seller hthere).balance
  obtain ⟨n, hn⟩ := hput.exists_adjusts hthere (d := c.amount.toInt) (by omega) (by omega)
  have hnsolvent := hput.adjusts hn (by omega)
  obtain ⟨_, b', hseller, hreceived, -, -⟩ := hn.account?_self hput.keyed
  cases hthere.symm.trans hseller
  -- The tokens leave the issuer.
  obtain ⟨sold, htaken⟩ := Account.exists_debit (r := { seller with balance := b' }) hsome
    (Int64.le_iff_toInt_le.1 hheld)
  obtain ⟨hfrom, -, hfromUnits⟩ := Account.frame_of_debit htaken
  have hfromIssuer : sold.address = issuer := hfrom.trans (hnsolvent.keyed issuer _ hreceived)
  have hfinal := hnsolvent.putBack hreceived ((hnsolvent.accounts issuer _ hreceived).debit htaken)
    hfrom hfromUnits
  have hpayer : (n.putAccount sold).account? owner = some bought := by
    rw [Ledger.account?_putAccount_of_ne fun heq => hne (heq.trans hfromIssuer),
      hn.account?_of_ne hput.keyed hne, ← htoOwner, Ledger.account?_putAccount_self]
  have hleft : (ctx.fee .participateAssetIssue).toInt ≤ bought.balance.toInt := by
    rw [hbalance]
    show _ ≤ b.toInt
    omega
  obtain ⟨l', hl'⟩ := hfinal.exists_charges hpayer hfee hleft
  exact ⟨l', .intro owner issuer asset tokens m n _ bought _ sold howner hissuer hregistered hpriced
    hm hpaid hgiven hn hreceived htaken hl', hfinal.charges hl' hfee⟩

theorem UnfreezeBalance.Admissible.exists_effect {c : UnfreezeBalance} (h : c.Admissible ctx l)
    (hl : l.Bears c.owner) (hfee : 0 ≤ (ctx.fee .unfreezeBalance).toInt) :
    ∃ l', c.Effect ctx l l' ∧ l'.Solvent := by
  obtain ⟨owner, account, released, balance, howner, hfound, -, -, hreleased, hbalance, hcovered⟩ := h
  have hsound := (hl.owner owner account howner hfound).unfrozen hreleased hbalance
  have hunits := Account.nativeUnits_unfrozen hreleased hbalance
  obtain ⟨l', hl', hafter⟩ :=
    hl.toSolvent.exists_charges_of_put hfound hsound.solvent rfl hunits hfee hcovered
  exact ⟨l', .intro owner account released balance howner hfound hreleased hbalance hl', hafter⟩

theorem WitnessCreate.Admissible.exists_effect {c : WitnessCreate} (h : c.Admissible ctx l)
    (hl : l.Bears c.owner) (hcost : 0 ≤ l.parameters.accountUpgradeCost.toInt)
    (hfee : 0 ≤ (ctx.fee .witnessCreate).toInt) : ∃ l', c.Effect ctx l l' ∧ l'.Solvent := by
  obtain ⟨owner, url, account, total, howner, -, -, hfound, -, htotal, hcovered⟩ := h
  have hput := hl.toSolvent.putWitness ⟨owner, Utf8.repair c.url, 0⟩
  have hsolvent := hl.toSolvent.accounts owner account hfound
  obtain ⟨l', hl', hafter⟩ := hput.exists_charges_of_put
    (s := { account with isWitness := true }) hfound
    ⟨hsolvent.balance, hsolvent.locked, hsolvent.allowance⟩ rfl rfl (by omega) hcovered
  exact ⟨l', .intro owner account total howner hfound htotal hl', hafter⟩

theorem WitnessUpdate.Admissible.exists_effect {c : WitnessUpdate} (h : c.Admissible ctx l)
    (hl : l.Bears c.owner) (hfee : 0 ≤ (ctx.fee .witnessUpdate).toInt) :
    ∃ l', c.Effect ctx l l' ∧ l'.Solvent := by
  obtain ⟨owner, url, account, howner, hfound, hregistered, -, -, hcovered⟩ := h
  obtain ⟨w, hw⟩ := Ledger.hasWitness_iff.1 hregistered
  have hput := hl.toSolvent.putWitness { w with url := Utf8.repair c.url }
  obtain ⟨l', hl'⟩ := hput.exists_charges (r := account) hfound hfee hcovered
  exact ⟨l', .intro owner w howner hw hl', hput.charges hl' hfee⟩

theorem VoteWitness.Admissible.exists_effect {c : VoteWitness} (h : c.Admissible ctx l)
    (hl : l.Bears c.owner) (hfee : 0 ≤ (ctx.fee .voteWitness).toInt) :
    ∃ l', c.Effect ctx l l' ∧ l'.Solvent := by
  obtain ⟨owner, counts, account, -, -, -, howner, -, htallied, -, hfound, -, -, -, -, -,
    hcovered⟩ := h
  have hsolvent := hl.toSolvent.accounts owner account hfound
  obtain ⟨l', hl', hafter⟩ := hl.toSolvent.exists_charges_of_put
    (s := { account with votes := counts }) hfound
    ⟨hsolvent.balance, hsolvent.locked, hsolvent.allowance⟩ rfl rfl hfee hcovered
  exact ⟨l', .intro owner counts account howner htallied hfound hl', hafter⟩

theorem WithdrawBalance.Admissible.exists_effect {c : WithdrawBalance} (h : c.Admissible ctx l)
    (hl : l.Bears c.owner) (hfee : 0 ≤ (ctx.fee .withdrawBalance).toInt) :
    ∃ l', c.Effect ctx l l' ∧ l'.Solvent := by
  obtain ⟨owner, account, -, -, balance, howner, hfound, -, -, -, -, -, hbalance, hcovered⟩ := h
  have hsound := (hl.owner owner account howner hfound).withdrawn ctx.now hbalance
  have hunits := Account.nativeUnits_withdrawn ctx.now hbalance
  obtain ⟨l', hl', hafter⟩ :=
    hl.toSolvent.exists_charges_of_put hfound hsound.solvent rfl hunits hfee hcovered
  exact ⟨l', .intro owner account balance howner hfound hbalance hl', hafter⟩

end

/-! ### Freezing -/

namespace FreezeBalance

variable {ctx : Context} {l : Ledger} {c : FreezeBalance}

/-- The time until which a freeze locks its amount, computed as its execution does. -/
def expiry (c : FreezeBalance) (now : Int64) : Except ArithmeticError Int64 := do
  Amount.add now (← Amount.millisOfDays c.days)

/-- The expiry is there iff the duration and the end fit. -/
theorem exists_expiry_iff {now : Int64} : (∃ t, c.expiry now = .ok t) ↔
    Amount.Fits (c.days.toInt * 86400000) ∧
      Amount.Fits (now.toInt + c.days.toInt * 86400000) := by
  have hday : Amount.millisPerDay.toInt = 86400000 := rfl
  simp only [expiry, Check.bind_eq_ok_iff, Amount.millisOfDays, Amount.mul_eq_ok_iff,
    Amount.add_eq_ok_iff, hday]
  constructor
  · rintro ⟨t, duration, hduration, ht⟩
    rw [← hduration, ← ht]
    exact ⟨Amount.fits_toInt duration, Amount.fits_toInt t⟩
  · rintro ⟨hduration, ht⟩
    obtain ⟨duration, hduration⟩ := Amount.exists_toInt_eq_iff.2 hduration
    rw [← hduration] at ht
    obtain ⟨t, ht⟩ := Amount.exists_toInt_eq_iff.2 ht
    exact ⟨t, duration, hduration, ht⟩

/-- One lock at most can be merged into, if the sum fits. -/
theorem exists_merges {amount : Int64} {before : List Lock} (hone : before.length ≤ 1)
    (hfits : ∀ k ∈ before, Amount.Fits (k.amount.toInt + amount.toInt)) (expiry : Int64) :
    ∃ locks, Merges amount expiry before locks := by
  match before, hone, hfits with
  | [], _, _ => exact ⟨_, .first⟩
  | [lock], _, hfits =>
      obtain ⟨sum, hsum⟩ := Amount.exists_toInt_eq_iff.2 (hfits lock List.mem_cons_self)
      exact ⟨_, .again lock sum hsum⟩

/-- The amount can leave the balance, and what is left covers the fee. -/
theorem Admissible.exists_pays (h : c.Admissible ctx l) (hl : l.Solvent)
    (hfee : 0 ≤ (ctx.fee .freezeBalance).toInt) :
    ∃ (owner : Address) (account : Account) (b : Int64) (m : Ledger), owner.bytes = c.owner ∧
      l.account? owner = some account ∧ l.Pays owner c.amount m ∧
      m.account? owner = some { account with balance := b } ∧
      (ctx.fee .freezeBalance).toInt ≤ b.toInt ∧
      b.toInt = account.balance.toInt - c.amount.toInt := by
  obtain ⟨owner, account, required, -, howner, hfound, hpositive, -, hrequired, hcovered, -, -, -, -,
    -, -⟩ := h
  obtain ⟨m, hm⟩ := hl.exists_pays (x := c.amount) hfound (by omega) (by omega)
  obtain ⟨_, b, hbefore, hpaid, hb, -⟩ := hm.adjusts.account?_self hl.keyed
  cases hfound.symm.trans hbefore
  exact ⟨owner, account, b, m, howner, hfound, hm, hpaid, by omega, by omega⟩

/-- The fee alone is covered, too. -/
theorem Admissible.exists_charges_of_solvent (h : c.Admissible ctx l) (hl : l.Solvent)
    (hfee : 0 ≤ (ctx.fee .freezeBalance).toInt) :
    ∃ (owner : Address) (l' : Ledger), owner.bytes = c.owner ∧
      l.Charges owner (ctx.fee .freezeBalance) l' := by
  obtain ⟨owner, account, required, -, howner, hfound, hpositive, -, hrequired, hcovered, -, -, -, -,
    -, -⟩ := h
  obtain ⟨l', hl'⟩ := hl.exists_charges (x := ctx.fee .freezeBalance) hfound hfee (by omega)
  exact ⟨owner, l', howner, hl'⟩

theorem Admissible.exists_effect (h : c.Admissible ctx l) (hl : l.Solvent)
    (hfee : 0 ≤ (ctx.fee .freezeBalance).toInt) {t : Int64} (ht : c.expiry ctx.now = .ok t) :
    ∃ l', c.Effect ctx l l' ∧ l'.Solvent := by
  obtain ⟨owner, account, b, m, howner, hfound, hm, hpaid, hleft, hb⟩ := h.exists_pays hl hfee
  obtain ⟨owner', _, -, credit, howner', hfound', hpositive, -, -, -, -, -, hone, hearned, hbandwidth,
    hmerges⟩ := h
  obtain rfl := Address.ext (howner.trans howner'.symm)
  cases hfound.symm.trans hfound'
  obtain ⟨duration, hduration, hexpiry⟩ := Check.bind_eq_ok_iff.1 ht
  obtain ⟨locks, hlocks⟩ := exists_merges hone hmerges t
  obtain ⟨bandwidth, hbandwidth⟩ := Amount.exists_toInt_eq_iff.2 hbandwidth
  have hsupply := hl.supply
  have hmunits := hm.adjusts.nativeUnits hl.keyed
  have hmsolvent := hl.adjusts hm.adjusts (by omega)
  -- What has left the balance is in the lock, so together the native units fit as before.
  have hsupply : (m.putAccount { account with
      balance := b, locks := locks, bandwidth := bandwidth }).nativeUnits
        < 9223372036854775808 := by
    rw [hmsolvent.keyed.nativeUnits_putAccount_frozen hpaid hlocks]
    omega
  have hput := hmsolvent.putAccount
    ((hmsolvent.accounts owner _ hpaid).frozen hlocks (Int.le_of_lt hpositive)) hsupply
  have hthere := hmsolvent.keyed.account?_putAccount hpaid
    (s := { account with balance := b, locks := locks, bandwidth := bandwidth }) rfl
  obtain ⟨l', hl'⟩ := hput.exists_charges hthere hfee hleft
  exact ⟨l', .intro owner m _ duration t credit bandwidth locks howner hm hpaid hduration hexpiry
    hlocks hearned hbandwidth hl', hput.charges hl' hfee⟩

/-- A freeze whose expiry is not there fails with the arithmetic that fails. -/
theorem Admissible.fails_of_solvent (h : c.Admissible ctx l) (hl : l.Solvent)
    (hfee : 0 ≤ (ctx.fee .freezeBalance).toInt) {e : ArithmeticError}
    (he : c.expiry ctx.now = .error e) : Fails (c.execute ctx) l (.arithmetic e) := by
  obtain ⟨owner, account, b, m, howner, -, hm, hpaid, -, -⟩ := h.exists_pays hl hfee
  unfold execute
  refine fails_bind.2 (.inr ⟨owner, l, Execution.yields_address.2 ⟨howner, rfl⟩, ?_⟩)
  refine fails_bind.2 (.inr ⟨l.parameters, l, Execution.yields_step.2 rfl, ?_⟩)
  refine fails_bind.2 (.inr ⟨(), m, Execution.yields_adjust_neg.2 hm, ?_⟩)
  refine fails_bind.2 (.inr ⟨_, m, Execution.yields_account.2 ⟨hpaid, rfl⟩, ?_⟩)
  cases hduration : Amount.millisOfDays c.days with
  | error e' =>
      rw [expiry, hduration] at he
      cases he
      exact fails_bind.2 (.inl (Execution.fails_compute rfl))
  | ok duration =>
      rw [expiry, hduration] at he
      refine fails_bind.2 (.inr ⟨duration, m, Execution.yields_compute.2 ⟨rfl, rfl⟩, ?_⟩)
      exact fails_bind.2 (.inl (Execution.fails_compute he))

/-- On a consistent ledger, in particular. -/
theorem Admissible.exists_charges (h : c.Admissible ctx l) (hl : l.Consistent)
    (hfee : 0 ≤ (ctx.fee .freezeBalance).toInt) :
    ∃ (owner : Address) (l' : Ledger), owner.bytes = c.owner ∧
      l.Charges owner (ctx.fee .freezeBalance) l' := h.exists_charges_of_solvent hl.solvent hfee

theorem Admissible.fails (h : c.Admissible ctx l) (hl : l.Consistent)
    (hfee : 0 ≤ (ctx.fee .freezeBalance).toInt) {e : ArithmeticError}
    (he : c.expiry ctx.now = .error e) : Fails (c.execute ctx) l (.arithmetic e) :=
  h.fails_of_solvent hl.solvent hfee he

end FreezeBalance

/-! ### Any contract -/

namespace Contract

variable {ctx : Context} {l : Ledger} {c : Contract}

/-- If the contract is a freeze, its duration and its expiry fit. -/
def ExpiryFits (c : Contract) (now : Int64) : Prop :=
  ∀ f : FreezeBalance, c = .freezeBalance f → Amount.Fits (f.days.toInt * 86400000) ∧
    Amount.Fits (now.toInt + f.days.toInt * 86400000)

/-- Only a freeze has an expiry that does not fit. -/
theorem exists_expiry_error {now : Int64} (h : ¬ c.ExpiryFits now) :
    ∃ (f : FreezeBalance) (e : ArithmeticError), c = .freezeBalance f ∧
      f.expiry now = .error e := by
  cases c with
  | freezeBalance f =>
      cases he : f.expiry now with
      | error e => exact ⟨f, e, rfl, he⟩
      | ok t =>
          have hfits := FreezeBalance.exists_expiry_iff.1 ⟨t, he⟩
          refine absurd (fun g hg => ?_) h
          cases hg
          exact hfits
  | _ => exact absurd nofun h

/-- **An admissible contract has an effect that leaves a solvent ledger**, if it is no freeze whose
expiry does not fit. -/
theorem Admissible.exists_solvent_effect (h : c.Admissible ctx l) (hl : l.Bears c.owner)
    (hcost : 0 ≤ l.parameters.accountUpgradeCost.toInt) (hfees : ∀ k, 0 ≤ (ctx.fee k).toInt)
    (hexpiry : c.ExpiryFits ctx.now) : ∃ l', c.Effect ctx l l' ∧ l'.Solvent := by
  cases c with
  | transfer c => exact Transfer.Admissible.exists_effect h hl (hfees _)
  | transferAsset c => exact TransferAsset.Admissible.exists_effect h hl (hfees _)
  | assetIssue c => exact AssetIssue.Admissible.exists_effect h hl (hfees _)
  | participateAssetIssue c => exact ParticipateAssetIssue.Admissible.exists_effect h hl (hfees _)
  | freezeBalance c =>
      obtain ⟨t, ht⟩ := FreezeBalance.exists_expiry_iff.2 (hexpiry c rfl)
      exact FreezeBalance.Admissible.exists_effect h hl.toSolvent (hfees _) ht
  | unfreezeBalance c => exact UnfreezeBalance.Admissible.exists_effect h hl (hfees _)
  | witnessCreate c => exact WitnessCreate.Admissible.exists_effect h hl hcost (hfees _)
  | witnessUpdate c => exact WitnessUpdate.Admissible.exists_effect h hl (hfees _)
  | accountUpdate c => exact AccountUpdate.Admissible.exists_effect h hl (hfees _)
  | voteWitness c => exact VoteWitness.Admissible.exists_effect h hl (hfees _)
  | withdrawBalance c => exact WithdrawBalance.Admissible.exists_effect h hl (hfees _)

/-- **An admissible contract has an effect** on a consistent ledger, if it is no freeze whose expiry
does not fit. -/
theorem Admissible.exists_effect (h : c.Admissible ctx l) (hl : l.Consistent)
    (hcost : 0 ≤ l.parameters.accountUpgradeCost.toInt) (hfees : ∀ k, 0 ≤ (ctx.fee k).toInt)
    (hexpiry : c.ExpiryFits ctx.now) : ∃ l', c.Effect ctx l l' := by
  obtain ⟨l', heffect, -⟩ := h.exists_solvent_effect (hl.bears c.owner) hcost hfees hexpiry
  exact ⟨l', heffect⟩

/-- What has an effect has an expiry that fits. -/
theorem Effect.expiryFits {l' : Ledger} (h : c.Effect ctx l l') : c.ExpiryFits ctx.now := by
  rintro f rfl
  obtain ⟨owner, m, account, duration, expiry, -, -, -, -, -, -, duration_eq, expiry_eq, -⟩ := h
  exact FreezeBalance.exists_expiry_iff.1
    ⟨expiry, Check.bind_eq_ok_iff.2 ⟨duration, duration_eq, expiry_eq⟩⟩

/-- **The effect of an admissible contract leaves a solvent ledger.** -/
theorem Effect.solvent {l' : Ledger} (h : c.Effect ctx l l') (hc : c.Admissible ctx l)
    (hl : l.Bears c.owner) (hcost : 0 ≤ l.parameters.accountUpgradeCost.toInt)
    (hfees : ∀ k, 0 ≤ (ctx.fee k).toInt) : l'.Solvent := by
  obtain ⟨m, hm, hsolvent⟩ := hc.exists_solvent_effect hl hcost hfees h.expiryFits
  -- An execution yields one ledger, so this is the one.
  have hdone : Yields (c.execute ctx) l () l' := yields_execute_iff.2 h
  have hdone' : Yields (c.execute ctx) l () m := yields_execute_iff.2 hm
  rwa [hdone.unique hdone']

end Contract

/-! ### What the check predicts -/

namespace Engine

variable {ctx : Context} {l : Ledger} {c : Contract}

/-- Only a check rejects. -/
theorem apply_eq_rejected_iff {reason : Rejection} :
    (apply c ctx l).1 = .error (.rejected reason) ↔ validate c ctx l = .error reason := by
  unfold apply
  cases hcheck : validate c ctx l with
  | error e =>
      simp only [Except.error.injEq, Failure.rejected.injEq]
  | ok _ =>
      constructor
      · intro h
        have hruns := runs_run c ctx l
        rcases hrun : run c ctx l with ⟨x, l'⟩
        rw [hrun] at h hruns
        cases h
        cases hruns
      · intro h
        cases h

/-- Whatever becomes of a contract, a ledger that bears it stays solvent. -/
theorem solvent_apply (hl : l.Bears c.owner) (hcost : 0 ≤ l.parameters.accountUpgradeCost.toInt)
    (hfees : ∀ k, 0 ≤ (ctx.fee k).toInt) : (apply c ctx l).2.Solvent := by
  rcases leaves_apply with h | ⟨hc, h⟩
  · rw [h]
    exact hl.toSolvent
  · generalize (apply c ctx l).2 = l' at h ⊢
    cases h with
    | same => exact hl.toSolvent
    | effect _ done => exact done.solvent hc hl hcost hfees
    | charge a _ owner_eq charged => exact hl.toSolvent.charges charged (hfees c.kind)

/-- **The check predicts what becomes of a contract.**  A contract is rejected iff its check says so.
One that passes succeeds with the fee of its kind, unless it is a freeze whose expiry does not fit:
that one fails with the arithmetic that fails, and a fee that is to be collected has moved to the
sink.  Every opposite that is formed on the way is exact: those are the opposites of the debits, as
`Contract.Admissible.lowers` has it. -/
theorem validate_predicts_apply {policy : Policy} (hl : l.check = .ok ())
    (hcost : 0 ≤ l.parameters.accountUpgradeCost) (hfees : ∀ k, 0 ≤ policy.fees.fee k)
    (now : Int64) (c : Contract) :
    (∀ reason, (apply c ⟨now, policy⟩ l).1 = .error (.rejected reason) ↔
      validate c ⟨now, policy⟩ l = .error reason) ∧
    (validate c ⟨now, policy⟩ l = .ok () →
      (c.ExpiryFits now →
        (apply c ⟨now, policy⟩ l).1 = .ok ⟨c.fee ⟨now, policy⟩, .success⟩) ∧
      (¬ c.ExpiryFits now → ∃ (f : FreezeBalance) (e : ArithmeticError) (receipt : Receipt),
        c = .freezeBalance f ∧ f.expiry now = .error e ∧
        (apply c ⟨now, policy⟩ l).1 = .error (.failed receipt (.arithmetic e)) ∧
        (policy.failedFee = .charge → receipt = ⟨c.fee ⟨now, policy⟩, .failed⟩ ∧
          ∃ owner : Address, owner.bytes = c.owner ∧
            l.Moves owner l.sink (c.fee ⟨now, policy⟩).toInt (apply c ⟨now, policy⟩ l).2)) ∧
      ∀ x ∈ c.debits ⟨now, policy⟩ l, (-x).toInt = -x.toInt) := by
  have hconsistent := Ledger.check_eq_ok_iff.1 hl
  have hcost : 0 ≤ l.parameters.accountUpgradeCost.toInt := Int64.le_iff_toInt_le.1 hcost
  have hfees : ∀ k, 0 ≤ (Context.fee ⟨now, policy⟩ k).toInt :=
    fun k => Int64.le_iff_toInt_le.1 (hfees k)
  refine ⟨fun reason => apply_eq_rejected_iff, fun hvalid => ?_⟩
  have hadmissible : c.Admissible ⟨now, policy⟩ l := Contract.check_eq_ok_iff.1 hvalid
  rw [apply_of_admissible hadmissible]
  refine ⟨fun hexpiry => ?_, fun hexpiry => ?_, fun x hx => ?_⟩
  · obtain ⟨l', heffect⟩ := hadmissible.exists_effect hconsistent hcost hfees hexpiry
    rw [run_of_yields (Contract.yields_execute_iff.2 heffect)]
  · obtain ⟨f, e, rfl, he⟩ := Contract.exists_expiry_error hexpiry
    have hfails := FreezeBalance.Admissible.fails hadmissible hconsistent (hfees _) he
    have hrun := run_of_fails (c := .freezeBalance f) hfails
    refine ⟨f, e, _, rfl, he, congrArg Prod.fst hrun, fun hrule => ?_⟩
    obtain ⟨owner, l', howner, hcharged⟩ :=
      FreezeBalance.Admissible.exists_charges hadmissible hconsistent (hfees _)
    have hsettle := settle_of_charges (c := .freezeBalance f) hrule howner hcharged
    rw [hrun, hsettle]
    exact ⟨rfl, owner, howner, hcharged.moves hconsistent.accountsKeyed⟩
  · have hnonneg := hadmissible.debits_nonneg hcost hfees x hx
    exact Amount.toInt_neg_of_ne (by omega)

/-- One freeze twice: now it succeeds, and at the end of time its expiry does not fit, so that it fails
and only its fee moves to the sink. -/
theorem validate_predicts_apply_small :
    Ledger.small.check = .ok () ∧ 0 ≤ Ledger.small.parameters.accountUpgradeCost ∧
      (∀ k, 0 ≤ ({ fees := { freezeBalance := 7 } } : Policy).fees.fee k) ∧
      ∃ c : Contract, (validate c ⟨0, { fees := { freezeBalance := 7 } }⟩ Ledger.small = .ok () ∧
        c.ExpiryFits 0 ∧
        (apply c ⟨0, { fees := { freezeBalance := 7 } }⟩ Ledger.small).1 = .ok ⟨7, .success⟩) ∧
      validate c ⟨9223372036854775807, { fees := { freezeBalance := 7 } }⟩ Ledger.small = .ok () ∧
      ¬ c.ExpiryFits 9223372036854775807 ∧
      ∃ e : ArithmeticError,
        (apply c ⟨9223372036854775807, { fees := { freezeBalance := 7 } }⟩ Ledger.small).1
          = .error (.failed ⟨7, .failed⟩ (.arithmetic e)) ∧
        Ledger.small.Moves (Address.repeating 1) Ledger.small.sink 7
          (apply c ⟨9223372036854775807, { fees := { freezeBalance := 7 } }⟩ Ledger.small).2 := by
  have hfees : ∀ k, 0 ≤ ({ fees := { freezeBalance := 7 } } : Policy).fees.fee k := by
    intro k
    cases k <;> decide
  have hcost : 0 ≤ Ledger.small.parameters.accountUpgradeCost := by decide
  have hvalid : validate (.freezeBalance ⟨(Address.repeating 1).bytes, 1000000, 3⟩)
      ⟨0, { fees := { freezeBalance := 7 } }⟩ Ledger.small = .ok () := rfl
  have hfits : (Contract.freezeBalance ⟨(Address.repeating 1).bytes, 1000000, 3⟩).ExpiryFits 0 := by
    intro f hf
    cases hf
    decide
  have hvalidLate : validate (.freezeBalance ⟨(Address.repeating 1).bytes, 1000000, 3⟩)
      ⟨9223372036854775807, { fees := { freezeBalance := 7 } }⟩ Ledger.small = .ok () := rfl
  have hlate : ¬ (Contract.freezeBalance ⟨(Address.repeating 1).bytes, 1000000, 3⟩).ExpiryFits
      9223372036854775807 := by
    intro h
    exact absurd (h _ rfl).2 (by decide)
  obtain ⟨_, e, receipt, _, -, hfailed, hcollected⟩ := ((validate_predicts_apply Ledger.check_small
    hcost hfees 9223372036854775807 _).2 hvalidLate).2.1 hlate
  obtain ⟨rfl, owner, howner, hmoves⟩ := hcollected rfl
  obtain rfl : owner = Address.repeating 1 := Address.ext howner
  exact ⟨Ledger.check_small, hcost, hfees, _, ⟨hvalid, hfits,
    ((validate_predicts_apply Ledger.check_small hcost hfees 0 _).2 hvalid).1 hfits⟩,
    hvalidLate, hlate, e, hfailed, hmoves⟩

end Engine

end AccountLedger
