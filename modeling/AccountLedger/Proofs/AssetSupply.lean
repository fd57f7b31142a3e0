/-
**Tokens are issued once and moved from then on.**

Tokens move between two records by two separate writes, with native units moving between the same
records.  Whichever of the parties coincide, all accounts together hold as many tokens of each asset
as before.  An issue is the exception: it registers a new asset, and its owner gets the whole supply.

Main definitions:

* `Ledger.SameTokens` — two ledgers with the same assets, held to the same totals;
* `AssetIssue.Registers` — what an issue does to the assets and the totals;
* `Contract.Issues` — the asset that a contract issues under a name;
* `Engine.Supplied` — what a step may do to the tokens;
* `Ledger.FullyHeld` — of every registered asset the accounts hold the total supply.

Main results:

* `Contract.Effect.sameTokens` — the effect of a contract that is no issue leaves the tokens alone;
* `AssetIssue.Effect.registers` — the effect of an issue;
* `Engine.supplied_apply` — **what every checked contract does to the tokens**;
* `Ledger.supply_conserved` — **no step makes or loses tokens but the one that issues them, no
  registered asset is changed, and what was fully held stays so after every history.**
-/

import AccountLedger.Proofs.Invariants

set_option relaxedAutoImplicit false
set_option autoImplicit false

namespace AccountLedger

/-! ### Holdings of single accounts -/

namespace Account

variable {r s : Account} {name : String} {n : Int64}

/-- One holding is set, and the others stay. -/
theorem holding_insert (r : Account) (name other : String) (held : Int64) :
    ({ r with holdings := r.holdings.insert name held } : Account).holding other
      = if other = name then held else r.holding other := by
  simp only [holding, SortedMap.get?_insert]
  split
  · rfl
  · rfl

/-- A credit adds the amount to one holding. -/
theorem toInt_holding_of_credit (h : r.credit name n = .ok s) (other : String) :
    (s.holding other).toInt = (r.holding other).toInt + if other = name then n.toInt else 0 := by
  obtain ⟨held, hheld, rfl⟩ := credit_eq_ok_iff.1 h
  rw [holding_insert]
  split
  · next hname => rw [hname, hheld]
  · rw [Int.add_zero]

/-- A debit takes the amount from one holding. -/
theorem toInt_holding_of_debit (h : r.debit name n = .ok (some s)) (other : String) :
    (s.holding other).toInt = (r.holding other).toInt - if other = name then n.toInt else 0 := by
  obtain ⟨held, rest, hget, -, -, hrest, rfl⟩ := debit_eq_ok_iff.1 h
  rw [holding_insert]
  split
  · next hname => rw [hname, hrest, holding, hget, Option.getD_some]
  · rw [Int.sub_zero]

end Account

/-! ### Totals of tokens -/

theorem Amount.total_eq_zero {amounts : List Int} (h : ∀ a ∈ amounts, a = 0) :
    total amounts = 0 := by
  induction amounts with
  | nil => rfl
  | cons a amounts ih =>
      obtain ⟨ha, hrest⟩ := List.forall_mem_cons.1 h
      rw [total_cons, ha, ih hrest, Int.zero_add]

namespace Ledger

theorem asset?_eq_none {l : Ledger} {name : String} (h : l.hasAsset name = false) :
    l.asset? name = none := Option.not_isSome_iff_eq_none.1 (Bool.eq_false_iff.1 h)

variable {l l' m : Ledger} {a owner : Address} {r s : Account} {name : String} {n x : Int64}

/-- A record put back over the one found at an address changes a total by the difference. -/
theorem AccountsKeyed.holdingUnits_putAccount (h : l.AccountsKeyed) (hr : l.account? a = some r)
    (hs : s.address = r.address) (name : String) :
    (l.putAccount s).holdingUnits name
      = l.holdingUnits name - (r.holding name).toInt + (s.holding name).toInt := by
  have hput := Ledger.holdingUnits_putAccount l s name
  rw [hs, h a r hr, hr, Option.elim_some] at hput
  omega

/-- A credit adds to the total of one asset. -/
theorem AccountsKeyed.holdingUnits_credit (h : l.AccountsKeyed) (hr : l.account? a = some r)
    (hgiven : r.credit name n = .ok s) (other : String) :
    (l.putAccount s).holdingUnits other
      = l.holdingUnits other + if other = name then n.toInt else 0 := by
  have hholding := Account.toInt_holding_of_credit hgiven other
  rw [h.holdingUnits_putAccount hr (Account.frame_of_credit hgiven).1]
  omega

/-- A debit takes from the total of one asset. -/
theorem AccountsKeyed.holdingUnits_debit (h : l.AccountsKeyed) (hr : l.account? a = some r)
    (htaken : r.debit name n = .ok (some s)) (other : String) :
    (l.putAccount s).holdingUnits other
      = l.holdingUnits other - if other = name then n.toInt else 0 := by
  have hholding := Account.toInt_holding_of_debit htaken other
  rw [h.holdingUnits_putAccount hr (Account.frame_of_debit htaken).1]
  omega

/-- Nothing is held of an asset that is not registered. -/
theorem Structured.holdingUnits_eq_zero (h : l.Structured) (hname : l.asset? name = none) :
    l.holdingUnits name = 0 := by
  refine Amount.total_eq_zero fun x hx => ?_
  obtain ⟨r, hr, rfl⟩ := List.mem_map.1 hx
  obtain ⟨a, ha⟩ := SortedMap.mem_values_iff.1 hr
  show ((r.holdings.get? name).getD 0).toInt = 0
  cases hheld : r.holdings.get? name with
  | none => rfl
  | some held =>
      -- A listed holding is of a registered asset, even if it is empty.
      obtain ⟨s, hs⟩ := hasAsset_iff.1 ((h.accounts a r ha).holdings name held hheld).2
      rw [hname] at hs
      cases hs

/-! ### Ledgers with the same tokens -/

/-- Two ledgers with the same assets, of each of which all accounts together hold the same. -/
structure SameTokens (l l' : Ledger) : Prop where
  assets : l'.assets = l.assets
  held : ∀ name, l'.holdingUnits name = l.holdingUnits name

namespace SameTokens

theorem refl (l : Ledger) : SameTokens l l := ⟨rfl, fun _ => rfl⟩

theorem trans (h : SameTokens l m) (h' : SameTokens m l') : SameTokens l l' :=
  ⟨h'.assets.trans h.assets, fun name => (h'.held name).trans (h.held name)⟩

theorem asset? (h : SameTokens l l') (name : String) : l'.asset? name = l.asset? name :=
  congrArg (·.get? name) h.assets

end SameTokens

/-- A record is put back with the same holdings. -/
theorem AccountsKeyed.sameTokens_putAccount (h : l.AccountsKeyed) (hr : l.account? a = some r)
    (haddress : s.address = r.address) (hholdings : s.holdings = r.holdings) :
    SameTokens l (l.putAccount s) := by
  refine ⟨rfl, fun name => ?_⟩
  have hholding : s.holding name = r.holding name := congrArg (fun m => (m.get? name).getD 0) hholdings
  rw [h.holdingUnits_putAccount hr haddress, hholding]
  omega

/-- A new account holds nothing. -/
theorem sameTokens_putAccount_new (habsent : l.account? r.address = none)
    (hholdings : r.holdings = .empty) : SameTokens l (l.putAccount r) := by
  refine ⟨rfl, fun name => ?_⟩
  have hput := Ledger.holdingUnits_putAccount l r name
  have hnothing : (r.holding name).toInt = 0 := by
    rw [Account.holding, hholdings]
    rfl
  rw [habsent, Option.elim_none, hnothing] at hput
  omega

theorem sameTokens_opening (l : Ledger) (a : Address) (now : Int64) :
    SameTokens l (l.opening a now) := by
  unfold opening
  split
  · next habsent => exact sameTokens_putAccount_new (Option.isNone_iff_eq_none.1 habsent) rfl
  · exact .refl l

theorem sameTokens_putWitness (l : Ledger) (w : Witness) : SameTokens l (l.putWitness w) :=
  ⟨rfl, fun _ => rfl⟩

theorem Adjusts.sameTokens {d : Int} (h : l.Adjusts a d l') (hl : l.AccountsKeyed) :
    SameTokens l l' := by
  cases h with
  | intro r b found exact nonneg => exact hl.sameTokens_putAccount found rfl rfl

theorem Charges.sameTokens (h : l.Charges a x l') (hl : l.AccountsKeyed) : SameTokens l l' := by
  cases h with
  | free zero => exact .refl l
  | taken m _ ne_zero paid received =>
      exact (paid.adjusts.sameTokens hl).trans
        (received.sameTokens (paid.adjusts.accountsKeyed hl))

/-- A record is put back with the same holdings, and a fee is charged. -/
theorem Charges.sameTokens_of_put (charged : (l.putAccount s).Charges owner x l')
    (hl : l.AccountsKeyed) (found : l.account? a = some r) (haddress : s.address = r.address)
    (hholdings : s.holdings = r.holdings) : SameTokens l l' :=
  (hl.sameTokens_putAccount found haddress hholdings).trans (charged.sameTokens (hl.putAccount s))

end Ledger

/-! ### The effect of each kind -/

section

variable {ctx : Context} {l l' : Ledger}

open Ledger

theorem Transfer.Effect.sameTokens {c : Transfer} (h : c.Effect ctx l l') (hl : l.AccountsKeyed) :
    SameTokens l l' := by
  obtain ⟨owner, recipient, total, m, n, -, -, -, paid, received, collected⟩ := h
  have hopening : (l.opening recipient ctx.now).AccountsKeyed := hl.opening
  have hm := paid.adjusts.accountsKeyed hopening
  have hn := received.accountsKeyed hm
  have hmoved : SameTokens l n :=
    ((sameTokens_opening l recipient ctx.now).trans (paid.adjusts.sameTokens hopening)).trans
      (received.sameTokens hm)
  split at collected
  · exact hmoved.trans (collected.sameTokens hn)
  · rw [collected]
    exact hmoved

theorem AccountUpdate.Effect.sameTokens {c : AccountUpdate} (h : c.Effect ctx l l')
    (hl : l.AccountsKeyed)
    (hopen : ctx.policy.accountUpdate = .rejectExisting → ∀ a, a.bytes = c.owner →
      l.account? a = none) : SameTokens l l' := by
  cases h with
  | renamed owner account rule owner_eq found charged =>
      exact charged.sameTokens_of_put hl found rfl rfl
  | opened owner rule owner_eq charged =>
      exact (sameTokens_putAccount_new (hopen rule owner owner_eq) rfl).trans
        (charged.sameTokens (hl.putAccount _))

theorem TransferAsset.Effect.sameTokens {c : TransferAsset} (h : c.Effect ctx l l')
    (hl : l.AccountsKeyed) : SameTokens l l' := by
  obtain ⟨owner, recipient, account, debited, receiver, credited, -, -, found, taken, receiving,
    given, charged⟩ := h
  have hput := hl.putAccount debited
  have hcharged := charged.sameTokens (hput.putAccount credited)
  refine ⟨hcharged.assets, fun name => ?_⟩
  -- The receiver is read after the debit, so a transfer to oneself would come out even as well.
  rw [hcharged.held, hput.holdingUnits_credit receiving given, hl.holdingUnits_debit found taken]
  omega

theorem ParticipateAssetIssue.Effect.sameTokens {c : ParticipateAssetIssue}
    (h : c.Effect ctx l l') (hl : l.AccountsKeyed) : SameTokens l l' := by
  obtain ⟨owner, issuer, asset, tokens, m, n, buyer, bought, seller, sold, -, -, -, -, paid, buying,
    given, received, selling, taken, charged⟩ := h
  have hm := paid.adjusts.accountsKeyed hl
  have hput := hm.putAccount bought
  have hn := received.accountsKeyed hput
  have hpaid := paid.adjusts.sameTokens hl
  have hreceived := received.sameTokens hput
  have hcharged := charged.sameTokens (hn.putAccount sold)
  refine ⟨hcharged.assets.trans (hreceived.assets.trans hpaid.assets), fun name => ?_⟩
  rw [hcharged.held, hn.holdingUnits_debit selling taken, hreceived.held,
    hm.holdingUnits_credit buying given, hpaid.held]
  omega

theorem FreezeBalance.Effect.sameTokens {c : FreezeBalance} (h : c.Effect ctx l l')
    (hl : l.AccountsKeyed) : SameTokens l l' := by
  obtain ⟨owner, m, account, duration, expiry, credit, bandwidth, locks, -, paid, found, -, -, -,
    -, -, charged⟩ := h
  exact (paid.adjusts.sameTokens hl).trans
    (charged.sameTokens_of_put (paid.adjusts.accountsKeyed hl) found rfl rfl)

/-- What an issue does: its asset is registered, the other assets stay, and all accounts together hold
the supply more of it. -/
structure AssetIssue.Registers (c : AssetIssue) (owner : Address) (l l' : Ledger) : Prop where
  owner_eq : owner.bytes = c.owner
  asset? : ∀ name, l'.asset? name
    = if name = (c.asset owner).name then some (c.asset owner) else l.asset? name
  held : ∀ name, l'.holdingUnits name
    = l.holdingUnits name + if name = (c.asset owner).name then c.totalSupply.toInt else 0

/-- The effect of an issue. -/
theorem AssetIssue.Effect.registers {c : AssetIssue} (h : c.Effect ctx l l')
    (hl : l.AccountsKeyed) : ∃ owner, c.Registers owner l l' := by
  obtain ⟨owner, m, account, credited, owner_eq, charged, found, given, rfl⟩ := h
  have hasset : (l.putAsset (c.asset owner)).AccountsKeyed := hl.putAsset _
  have hcharged := charged.sameTokens hasset
  refine ⟨owner, owner_eq, fun name => ?_, fun name => ?_⟩
  · rw [asset?_putAccount, hcharged.asset?, asset?_putAsset]
  · rw [(charged.accountsKeyed hasset).holdingUnits_credit found given, hcharged.held]
    rfl

end

/-! ### Any contract -/

section

variable {c : Contract} {ctx : Context} {l l' : Ledger}

open Ledger

/-- **The effect of a contract that is no issue leaves the tokens alone.** -/
theorem Contract.Effect.sameTokens (h : c.Effect ctx l l') (hl : l.AccountsKeyed)
    (hopen : ¬ c.Reopens ctx l) (hkind : c.kind ≠ .assetIssue) : SameTokens l l' := by
  cases c with
  | transfer c => exact Transfer.Effect.sameTokens h hl
  | transferAsset c => exact TransferAsset.Effect.sameTokens h hl
  | assetIssue c => exact absurd rfl hkind
  | participateAssetIssue c => exact ParticipateAssetIssue.Effect.sameTokens h hl
  | freezeBalance c => exact FreezeBalance.Effect.sameTokens h hl
  | unfreezeBalance c =>
      obtain ⟨owner, account, released, balance, -, found, -, -, charged⟩ := h
      exact charged.sameTokens_of_put hl found rfl rfl
  | witnessCreate c =>
      obtain ⟨owner, account, total, -, found, -, charged⟩ := h
      have hput := hl.putWitness ⟨owner, Utf8.repair c.url, 0⟩
      exact (sameTokens_putWitness l _).trans (charged.sameTokens_of_put hput found rfl rfl)
  | witnessUpdate c =>
      obtain ⟨owner, witness, -, -, charged⟩ := h
      exact (sameTokens_putWitness l _).trans (charged.sameTokens (hl.putWitness _))
  | accountUpdate c => exact AccountUpdate.Effect.sameTokens h hl (absent_of_not_reopens hopen)
  | voteWitness c =>
      obtain ⟨owner, counts, account, -, -, found, charged⟩ := h
      exact charged.sameTokens_of_put hl found rfl rfl
  | withdrawBalance c =>
      obtain ⟨owner, account, balance, -, found, -, charged⟩ := h
      exact charged.sameTokens_of_put hl found rfl rfl

/-- The contract issues `s` as the asset of this name. -/
def Contract.Issues (c : Contract) (name : String) (s : Asset) : Prop :=
  ∃ (i : AssetIssue) (owner : Address), c = .assetIssue i ∧ Utf8.decode? i.name = some name ∧
    owner.bytes = i.owner ∧ s = i.asset owner

/-- What a step with this result does to the tokens: registered assets are kept, an issue that succeeds
registers a new asset of which nothing was held before and everything is held then, and whatever is
not issued stays as it is. -/
structure Engine.Supplied (c : Contract) (l : Ledger) (result : Except Failure Receipt)
    (l' : Ledger) : Prop where
  kept : ∀ name s, l.asset? name = some s → l'.asset? name = some s
  other : ∀ name, (∀ s receipt, c.Issues name s → result ≠ .ok receipt) →
    l'.asset? name = l.asset? name ∧ l'.holdingUnits name = l.holdingUnits name
  issued : ∀ name s receipt, c.Issues name s → result = .ok receipt →
    l.asset? name = none ∧ l.holdingUnits name = 0 ∧
      l'.asset? name = some s ∧ l'.holdingUnits name = s.totalSupply.toInt

/-- A step that issues nothing leaves the tokens alone. -/
theorem Engine.Supplied.of_sameTokens {result : Except Failure Receipt} (h : SameTokens l l')
    (hnone : ∀ name s receipt, c.Issues name s → result ≠ .ok receipt) :
    Supplied c l result l' where
  kept name _ hs := (h.asset? name).trans hs
  other name _ := ⟨h.asset? name, h.held name⟩
  issued name _ receipt hissues hresult := absurd hresult (hnone name _ receipt hissues)

/-- A step that registers an asset under a new name changes nothing under other names. -/
theorem Engine.Supplied.of_registers {i : AssetIssue} {owner : Address} {name : String}
    {receipt : Receipt} (h : i.Registers owner l l') (hname : Utf8.decode? i.name = some name)
    (hnew : l.asset? name = none) (hzero : l.holdingUnits name = 0) :
    Supplied (.assetIssue i) l (.ok receipt) l' := by
  have hrepair : (i.asset owner).name = name := Utf8.repair_eq_of_decode? hname
  have hasset := h.asset?
  have hheld := h.held
  rw [hrepair] at hasset hheld
  refine ⟨fun other s hs => ?_, fun other hother => ?_, fun other _ receipt hissues _ => ?_⟩
  · have hne : other ≠ name := by
      rintro rfl
      rw [hnew] at hs
      cases hs
    rw [hasset, if_neg hne, hs]
  · have hne : other ≠ name := by
      rintro rfl
      exact hother (i.asset owner) receipt ⟨i, owner, rfl, hname, h.owner_eq, rfl⟩ rfl
    rw [hasset, hheld, if_neg hne, if_neg hne, Int.add_zero]
    exact ⟨rfl, rfl⟩
  · -- The contract bears one name and one owner, so the asset it issues is the registered one.
    obtain ⟨j, issuer, hcontract, hother, hissuer, rfl⟩ := hissues
    cases hcontract
    obtain rfl := Address.ext (hissuer.trans h.owner_eq.symm)
    obtain rfl := Option.some.inj (hname.symm.trans hother)
    rw [hasset, hheld, if_pos rfl, if_pos rfl, hzero, Int.zero_add]
    exact ⟨hnew, rfl, rfl, rfl⟩

/-- **What every checked contract does to the tokens of a structured ledger.** -/
theorem Engine.supplied_apply (c : Contract) (ctx : Context) (hl : l.Structured) :
    Supplied c l (apply c ctx l).1 (apply c ctx l).2 := by
  have happlies := applies_apply c ctx l
  revert happlies
  generalize apply c ctx l = outcome
  intro happlies
  cases happlies with
  | rejected reason => exact .of_sameTokens (.refl l) nofun
  | unpaid receipt fault recorded => exact .of_sameTokens (.refl l) nofun
  | paid a fault l' rule owner_eq charged =>
      exact .of_sameTokens (charged.sameTokens hl.accountsKeyed) nofun
  | succeeded l' admissible done =>
      by_cases hkind : c.kind = .assetIssue
      · cases c with
        | assetIssue i =>
            obtain ⟨owner, registers⟩ := AssetIssue.Effect.registers done hl.accountsKeyed
            obtain ⟨-, name, -, -, -, name_eq, -, -, -, -, -, new, -⟩ := admissible
            have habsent := asset?_eq_none new
            exact .of_registers registers name_eq habsent (hl.holdingUnits_eq_zero habsent)
        | _ => cases hkind
      · refine .of_sameTokens (done.sameTokens hl.accountsKeyed admissible.not_reopens hkind) ?_
        rintro name s receipt ⟨i, owner, rfl, -⟩
        exact absurd rfl hkind

end

/-! ### Histories -/

namespace Ledger

/-- Of every registered asset, all accounts together hold the total supply. -/
def FullyHeld (l : Ledger) : Prop :=
  ∀ name s, l.asset? name = some s → l.holdingUnits name = s.totalSupply.toInt

/-- A step keeps the assets fully held. -/
theorem FullyHeld.step {l l' : Ledger} {c : Contract} {result : Except Failure Receipt}
    (h : l.FullyHeld) (hstep : Engine.Supplied c l result l') : l'.FullyHeld := by
  intro name s hs
  by_cases hissued : ∃ s receipt, c.Issues name s ∧ result = .ok receipt
  · obtain ⟨t, receipt, hissues, hresult⟩ := hissued
    obtain ⟨-, -, hregistered, hheld⟩ := hstep.issued name t receipt hissues hresult
    obtain rfl := Option.some.inj (hregistered.symm.trans hs)
    exact hheld
  · obtain ⟨hasset, hheld⟩ := hstep.other name fun s receipt hissues hresult =>
      hissued ⟨s, receipt, hissues, hresult⟩
    rw [hheld]
    exact h name s (hasset.symm.trans hs)

/-- **Tokens are issued once and moved from then on.**  Under any policy, a step on a consistent ledger
changes no registered asset and no total of tokens, but for an issue that succeeds: its name was not
registered and nothing was held under it, and then the asset is registered and its whole supply held.
So what is fully held at the start is fully held after every history. -/
theorem supply_conserved (policy : Policy) :
    (∀ l : Ledger, l.check = .ok () → ∀ (now : Int64) (c : Contract),
      Engine.Supplied c l (Engine.apply c ⟨now, policy⟩ l).1 (Engine.apply c ⟨now, policy⟩ l).2) ∧
    (∀ l : Ledger, l.check = .ok () → 0 ≤ l.parameters.bandwidthPerCoinDay →
      0 ≤ l.parameters.minFrozenTime → 0 ≤ policy.fees.transfer → l.FullyHeld →
      ∀ history : List Entry, (l.after policy history).FullyHeld) := by
  refine ⟨fun l hl now c => ?_, fun l hl hrate htime hfee hheld history => ?_⟩
  · exact Engine.supplied_apply c _ (check_eq_ok_iff.1 hl).toStructured
  · have hfee := Int64.le_iff_toInt_le.1 hfee
    have hstep (m : Ledger) (now : Int64) (c : Contract) (hm : m.Regular ∧ m.FullyHeld) :
        (Engine.apply c ⟨now, policy⟩ m).2.Regular ∧
          (Engine.apply c ⟨now, policy⟩ m).2.FullyHeld :=
      ⟨hm.1.apply hfee now c, hm.2.step (Engine.supplied_apply c _ hm.1.toStructured)⟩
    exact (after_induction (P := fun m => m.Regular ∧ m.FullyHeld) hstep
      ⟨regular_of_check hl hrate htime, hheld⟩ history).2

/-- An issue within the small ledger. -/
def goldIssue : AssetIssue :=
  ⟨(Address.repeating 1).bytes, [103, 111, 108, 100], 1000, 1, 1, 5, 9, [], []⟩

/-- The issue succeeds, and its supply is held then; and every history from the small ledger ends with
all assets fully held. -/
theorem supply_conserved_small : ∃ (policy : Policy) (s : Asset) (l : Ledger),
    small.check = .ok () ∧ Contract.Issues (.assetIssue goldIssue) "gold" s ∧
    s.totalSupply = 1000 ∧
    Engine.apply (.assetIssue goldIssue) ⟨0, policy⟩ small = (.ok ⟨0, .success⟩, l) ∧
    small.holdingUnits "gold" = 0 ∧ l.asset? "gold" = some s ∧ l.holdingUnits "gold" = 1000 ∧
    small.FullyHeld ∧ ∀ history : List Entry, (small.after policy history).FullyHeld := by
  have hissues : Contract.Issues (.assetIssue goldIssue) "gold" (goldIssue.asset (.repeating 1)) :=
    ⟨goldIssue, .repeating 1, rfl, by decide +kernel, rfl, rfl⟩
  have hresult : (Engine.apply (.assetIssue goldIssue)
      ⟨0, { fees := { assetIssue := 0 } }⟩ small).1 = .ok ⟨0, .success⟩ :=
    eq_ok_of_toOption (by decide +kernel)
  have hheld : small.FullyHeld := nofun
  have hsupply := supply_conserved { fees := { assetIssue := 0 } }
  obtain ⟨-, hzero, hregistered, htotal⟩ :=
    (hsupply.1 small check_small 0 (.assetIssue goldIssue)).issued "gold" _ _ hissues hresult
  exact ⟨_, _, _, check_small, hissues, rfl, Prod.ext hresult rfl, hzero, hregistered, htotal, hheld,
    hsupply.2 small check_small (by decide) (by decide) (by decide) hheld⟩

end Ledger

end AccountLedger
