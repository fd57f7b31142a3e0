/-
**Independent contracts commute.**

Two contracts whose addresses are apart, none of them the sink's, have nothing in common but the sink,
which takes both tolls, and the registries.  Each leaves alone what the other looks at, so it makes no
difference which of them comes first: the answers are the same, and so is the ledger in the end.

Main definitions:

* `Contract.Independent` — contracts with their addresses and asset names apart;
* `Contract.Spares` — what a step leaves alone.

Main results:

* `Engine.spares_apply` — a checked contract leaves alone what it does not name;
* `Contract.Spares.agree` — and so all that an independent contract looks at;
* `Ledger.eq_of_spares` — two orders in which steps spare each other end in one ledger;
* `Engine.independent_commute` — **independent contracts commute.**
-/

import AccountLedger.Proofs.Agreement

set_option relaxedAutoImplicit false
set_option autoImplicit false

namespace AccountLedger

/-! ### Contracts that are apart -/

/-- No address is named by both contracts, the sink's by neither, and if one of them is an issue, the
names of their assets differ where both have one. -/
structure Contract.Independent (c d : Contract) (sink : Address) : Prop where
  apart : ∀ a : Address, a.bytes ∈ c.parties → a.bytes ∉ d.parties
  sink_left : sink.bytes ∉ c.parties
  sink_right : sink.bytes ∉ d.parties
  names : c.kind = .assetIssue ∨ d.kind = .assetIssue →
    ∀ bs, c.assetName? = some bs → d.assetName? ≠ some bs

/-- What a step of the contract leaves alone: the accounts that it does not name, the balance of the
sink aside, their witnesses, and the assets that it does not issue. -/
structure Contract.Spares (c : Contract) (l l' : Ledger) : Prop where
  sink : l'.sink = l.sink
  parameters : l'.parameters = l.parameters
  account : ∀ a : Address, a.bytes ∉ c.parties → a ≠ l.sink → l'.account? a = l.account? a
  sinkAccount : l.sink.bytes ∉ c.parties → ∀ r, l.account? l.sink = some r →
    ∃ b, l'.account? l.sink = some { r with balance := b }
  witness : ∀ a : Address, a.bytes ∉ c.parties → l'.witness? a = l.witness? a
  asset : ∀ name, (∀ s, ¬ c.Issues name s) → l'.asset? name = l.asset? name

namespace Contract

variable {c d : Contract} {ctx : Context} {l l' : Ledger} {sink : Address}

/-- An issue names the asset that it issues. -/
theorem Issues.assetName? {name : String} {s : Asset} (h : c.Issues name s) :
    c.kind = .assetIssue ∧ ∃ bs, c.assetName? = some bs ∧ Utf8.decode? bs = some name := by
  obtain ⟨i, owner, rfl, hname, -⟩ := h
  exact ⟨rfl, i.name, rfl, hname⟩

namespace Independent

theorem symm (h : c.Independent d sink) : d.Independent c sink where
  apart a ha ha' := h.apart a ha' ha
  sink_left := h.sink_right
  sink_right := h.sink_left
  names hissue bs hbs hbs' := h.names hissue.symm bs hbs' hbs

/-- What one contract issues the other does not name: different bytes are different names. -/
theorem not_issues (h : c.Independent d sink) {bs : Bytes} {name : String}
    (hbs : d.assetName? = some bs) (hname : Utf8.decode? bs = some name) (s : Asset) :
    ¬ c.Issues name s := by
  intro hissues
  obtain ⟨hkind, other, hother, hname'⟩ := hissues.assetName?
  obtain rfl := Utf8.decode?_injective hname hname'
  exact h.names (.inl hkind) bs hother hbs

theorem ne_sink_left (h : c.Independent d sink) {a : Address} (ha : a.bytes ∈ c.parties) :
    a ≠ sink := fun heq => h.sink_left (heq ▸ ha)

end Independent

/-! ### What a step leaves alone -/

theorem attests_of_ne {a : Address} (howner : a.bytes ≠ c.owner) (w? : Option Witness) :
    c.attests a w? = w? := by
  cases c with
  | witnessCreate c => exact if_neg howner
  | witnessUpdate c => exact if_neg howner
  | _ => rfl

theorem Admissible.registers_of_not_issues (h : c.Admissible ctx l) {name : String}
    (hname : ∀ s, ¬ c.Issues name s) (s? : Option Asset) : c.registers name s? = s? := by
  cases c with
  | assetIssue i =>
      obtain ⟨owner, name', -, owner_eq, -, name_eq, -⟩ := h
      refine if_neg fun heq => hname (i.asset owner) ⟨i, owner, rfl, ?_, owner_eq, rfl⟩
      rw [name_eq, heq, Utf8.repair_eq_of_decode? name_eq]
  | _ => rfl

theorem Spares.refl (c : Contract) (l : Ledger) : c.Spares l l where
  sink := rfl
  parameters := rfl
  account _ _ _ := rfl
  sinkAccount _ r hr := ⟨r.balance, hr⟩
  witness _ _ := rfl
  asset _ _ := rfl

/-- **An effect leaves alone what its contract does not name.** -/
theorem Effect.spares (h : c.Effect ctx l l') (hc : c.Admissible ctx l) (hl : l.KeyedByRecord)
    (hfee : 0 ≤ (ctx.fee .transfer).toInt) : c.Spares l l' where
  sink := (Leaves.effect l' h).fixed.1
  parameters := (Leaves.effect l' h).fixed.2
  account a ha := h.account?_of_foreign hc hl.account hfee (ne_owner_of_not_mem ha)
    (counterparty?_ne_of_not_mem ha)
  sinkAccount hsink := (h.foreign hc hl.account (ne_owner_of_not_mem hsink)
    (counterparty?_ne_of_not_mem hsink)).2
  witness a ha := by rw [h.witness? hl, attests_of_ne (ne_owner_of_not_mem ha)]
  asset name hname := by
    rw [h.asset? hl.account hc.not_reopens, hc.registers_of_not_issues hname]

end Contract

/-- **So does the collection of a fee.** -/
theorem Ledger.Charges.spares {c : Contract} {l l' : Ledger} {payer : Address} {x : Int64}
    (h : l.Charges payer x l') (hl : l.AccountsKeyed) (howner : payer.bytes = c.owner)
    (hx : 0 ≤ x.toInt) : c.Spares l l' where
  sink := (h.sameButBalances hl).sink
  parameters := (h.sameButBalances hl).parameters
  account a ha hsink := by
    have hconfined : c.Confined ⟨0, {}⟩ l l' := h.confined hl howner hx
    exact hconfined.untouched a (Contract.ne_owner_of_not_mem ha)
      (Contract.counterparty?_ne_of_not_mem ha) hsink
  sinkAccount _ r hr := (h.sameButBalances hl).account l.sink r hr
  witness a _ := congrArg (·.get? a) h.witnesses
  asset name _ := (h.sameTokens hl).asset? name

/-- **A checked contract leaves alone what it does not name**, whatever becomes of it. -/
theorem Engine.spares_apply {c : Contract} {ctx : Context} {l : Ledger} (hl : l.KeyedByRecord)
    (hfees : ∀ k, 0 ≤ (ctx.fee k).toInt) : c.Spares l (apply c ctx l).2 := by
  rcases @leaves_apply c ctx l with h | ⟨hc, h⟩
  · rw [h]
    exact .refl c l
  · generalize (apply c ctx l).2 = l' at h ⊢
    cases h with
    | same => exact .refl c l
    | effect _ done => exact done.spares hc hl (hfees .transfer)
    | charge a _ owner_eq charged => exact charged.spares hl.account owner_eq (hfees c.kind)

/-! ### What an independent contract meets -/

section

variable {c d : Contract} {ctx : Context} {l m m' n n' : Ledger}

/-- **An independent contract meets all that it looks at as it was.** -/
theorem Contract.Spares.agree (h : c.Spares l m) (hi : c.Independent d l.sink) : d.Agree l m where
  sink := h.sink
  parameters := h.parameters
  account a ha := h.account a (hi.symm.apart a ha) (hi.symm.ne_sink_left ha)
  witness a ha := h.witness a (hi.symm.apart a ha)
  asset _ name hbs hname := h.asset name (hi.not_issues hbs hname)

/-- After two contracts that do not name the sink nothing but the sink's balance has changed in its
account. -/
theorem Contract.Spares.sink_after (h : c.Spares l m) (h' : d.Spares m m')
    (hleft : l.sink.bytes ∉ c.parties) (hright : l.sink.bytes ∉ d.parties) {r : Account}
    (hr : l.account? l.sink = some r) : ∃ b, m'.account? l.sink = some { r with balance := b } := by
  obtain ⟨b, hb⟩ := h.sinkAccount hleft r hr
  rw [← h.sink] at hright hb
  obtain ⟨b', hb'⟩ := h'.sinkAccount hright _ hb
  rw [h.sink] at hb'
  exact ⟨b', hb'⟩

/-- **A consistent ledger still bears the second of two independent contracts** after the first. -/
theorem Engine.bears_apply (hl : l.Consistent) (hi : c.Independent d l.sink)
    (hcost : 0 ≤ l.parameters.accountUpgradeCost.toInt) (hfees : ∀ k, 0 ≤ (ctx.fee k).toInt) :
    (apply c ctx l).2.Bears d.owner := by
  refine ⟨solvent_apply (hl.bears c.owner) hcost hfees, fun a r ha hr => ?_⟩
  have hagree := (spares_apply (c := c) hl.keyed hfees).agree hi
  have hconfined := confined_apply hl.toStructured hcost hfees c
  rw [hagree.owner_account ha] at hr
  refine (hl.accounts a r hr).mono (fun name hname => ?_) (fun b hb => ?_)
  · obtain ⟨s, hs⟩ := Ledger.hasAsset_iff.1 hname
    exact Ledger.hasAsset_iff.2 ⟨s, hconfined.asset name s hs⟩
  · obtain ⟨w, hw⟩ := Ledger.hasWitness_iff.1 hb
    rcases hconfined.witness b w hw with hkept | ⟨u, url, -, -, hupdated⟩
    · exact Ledger.hasWitness_iff.2 ⟨w, hkept⟩
    · exact Ledger.hasWitness_iff.2 ⟨_, hupdated⟩

/-! ### Two orders -/

/-- **Two orders in which steps spare each other end in one ledger**: `m` and then `m'` with the first
contract before the second, and `n` and then `n'` the other way round. -/
theorem Ledger.eq_of_spares (hi : c.Independent d l.sink) (hl : l.hasAccount l.sink = true)
    (hc : c.Spares l m) (hd : d.Spares m m') (hd' : d.Spares l n) (hc' : c.Spares n n')
    (hagree : d.Agree n m') (hagree' : c.Agree m n')
    (hbalance : m'.balanceOf l.sink = n'.balanceOf l.sink) : m' = n' := by
  have hsink : m'.sink = n'.sink := by rw [hd.sink, hc.sink, hc'.sink, hd'.sink]
  refine eq_of_lookups hsink ?_ (fun a => ?_) (fun name => ?_) (fun a => ?_)
  · rw [hd.parameters, hc.parameters, hc'.parameters, hd'.parameters]
  · by_cases hfirst : a.bytes ∈ c.parties
    · have hne : a ≠ m.sink := hc.sink ▸ hi.ne_sink_left hfirst
      rw [hd.account a (hi.apart a hfirst) hne, hagree'.account a hfirst]
    by_cases hsecond : a.bytes ∈ d.parties
    · have hne : a ≠ n.sink := hd'.sink ▸ hi.symm.ne_sink_left hsecond
      rw [hc'.account a (hi.symm.apart a hsecond) hne, hagree.account a hsecond]
    by_cases ha : a = l.sink
    · -- The sink takes something from both, and nothing but its balance changes.
      obtain ⟨r, hr⟩ := hasAccount_iff.1 hl
      obtain ⟨b, hb⟩ := hc.sink_after hd hi.sink_left hi.sink_right hr
      obtain ⟨b', hb'⟩ := hd'.sink_after hc' hi.sink_right hi.sink_left hr
      simp only [balanceOf, hb, hb', Option.elim_some] at hbalance
      rw [ha, hb, hb', Int64.toInt_inj.1 hbalance]
    · rw [hd.account a hsecond (hc.sink ▸ ha), hc.account a hfirst ha,
        hc'.account a hfirst (hd'.sink ▸ ha), hd'.account a hsecond ha]
  · by_cases hfirst : ∃ s, c.Issues name s
    · obtain ⟨s, hs⟩ := hfirst
      obtain ⟨-, bs, hbs, hname⟩ := hs.assetName?
      rw [hd.asset name (hi.symm.not_issues hbs hname), hagree'.asset bs name hbs hname]
    by_cases hsecond : ∃ s, d.Issues name s
    · obtain ⟨s, hs⟩ := hsecond
      obtain ⟨-, bs, hbs, hname⟩ := hs.assetName?
      rw [hc'.asset name (hi.not_issues hbs hname), hagree.asset bs name hbs hname]
    rw [not_exists] at hfirst hsecond
    rw [hd.asset name hsecond, hc.asset name hfirst, hc'.asset name hfirst, hd'.asset name hsecond]
  · by_cases hfirst : a.bytes ∈ c.parties
    · rw [hd.witness a (hi.apart a hfirst), hagree'.witness a hfirst]
    by_cases hsecond : a.bytes ∈ d.parties
    · rw [hc'.witness a (hi.symm.apart a hsecond), hagree.witness a hsecond]
    rw [hd.witness a hsecond, hc.witness a hfirst, hc'.witness a hfirst, hd'.witness a hsecond]

end

namespace Engine

variable {l : Ledger}

/-- What a checked contract comes to after an independent one is what it comes to without it. -/
theorem alike_after {c d : Contract} (hl : l.Consistent) (hi : c.Independent d l.sink)
    (hcost : 0 ≤ l.parameters.accountUpgradeCost.toInt) {ctx ctx' : Context}
    (hfees : ∀ k, 0 ≤ (ctx.fee k).toInt) (hfees' : ∀ k, 0 ≤ (ctx'.fee k).toInt) :
    Alike d l (apply c ctx l).2 (apply d ctx' l) (apply d ctx' (apply c ctx l).2) :=
  alike_apply ((spares_apply hl.keyed hfees).agree hi) (hl.bears d.owner)
    (bears_apply hl hi hcost hfees) hl.keyed (keyedByRecord_apply hl.keyed) hi.sink_right hcost hfees'

/-- **Independent contracts commute.**  On a consistent ledger, under any policy without negative
fees, take two contracts at two times, with no address in common, neither naming the sink, and with
different asset names if one of them is an issue.  In either order they leave the same ledger, and each
of them gets the same answer. -/
theorem independent_commute {policy : Policy} (hl : l.check = .ok ())
    (hcost : 0 ≤ l.parameters.accountUpgradeCost) (hfees : ∀ k, 0 ≤ policy.fees.fee k)
    {c d : Contract} (hi : c.Independent d l.sink) (t u : Int64) :
    (apply d ⟨u, policy⟩ (apply c ⟨t, policy⟩ l).2).2
        = (apply c ⟨t, policy⟩ (apply d ⟨u, policy⟩ l).2).2 ∧
      (apply d ⟨u, policy⟩ (apply c ⟨t, policy⟩ l).2).1 = (apply d ⟨u, policy⟩ l).1 ∧
      (apply c ⟨t, policy⟩ (apply d ⟨u, policy⟩ l).2).1 = (apply c ⟨t, policy⟩ l).1 := by
  have hconsistent := Ledger.check_eq_ok_iff.1 hl
  have hcost := Int64.le_iff_toInt_le.1 hcost
  have hfees (now : Int64) (k : Kind) : 0 ≤ (Context.fee ⟨now, policy⟩ k).toInt :=
    Int64.le_iff_toInt_le.1 (hfees k)
  have hkeyed := hconsistent.keyed
  have hsecond := alike_after hconsistent hi hcost (hfees t) (hfees u)
  have hfirst := alike_after hconsistent hi.symm hcost (hfees u) (hfees t)
  refine ⟨?_, hsecond.answer, hfirst.answer⟩
  have hc : c.Spares l (apply c ⟨t, policy⟩ l).2 := spares_apply hkeyed (hfees t)
  have hd : d.Spares l (apply d ⟨u, policy⟩ l).2 := spares_apply hkeyed (hfees u)
  -- The sink gains in the two steps of each order what it gains in the single steps.
  have hgain := hsecond.gain
  have hgain' := hfirst.gain
  rw [hc.sink] at hgain
  rw [hd.sink] at hgain'
  exact Ledger.eq_of_spares hi hconsistent.sink hc
    (spares_apply (keyedByRecord_apply hkeyed) (hfees u)) hd
    (spares_apply (keyedByRecord_apply hkeyed) (hfees t)) hsecond.agree hfirst.agree (by omega)

/-- Two issues of different assets by different owners: both succeed in either order, and the sink has
both fees in the end. -/
theorem independent_commute_small : ∃ (policy : Policy) (c d : Contract) (l : Ledger),
    Ledger.small.check = .ok () ∧ 0 ≤ Ledger.small.parameters.accountUpgradeCost ∧
      (∀ k, 0 ≤ policy.fees.fee k) ∧ c.Independent d Ledger.small.sink ∧
      c.kind = .assetIssue ∧ d.kind = .assetIssue ∧
      apply d ⟨1, policy⟩ (apply c ⟨0, policy⟩ Ledger.small).2 = (.ok ⟨7, .success⟩, l) ∧
      apply c ⟨0, policy⟩ (apply d ⟨1, policy⟩ Ledger.small).2 = (.ok ⟨7, .success⟩, l) ∧
      l.balanceOf l.sink = 14 := by
  let policy : Policy := { fees := { assetIssue := 7 } }
  let c : Contract := .assetIssue Ledger.goldIssue
  let d : Contract := .assetIssue
    { Ledger.goldIssue with owner := (Address.repeating 2).bytes, name := [105, 114, 111, 110] }
  have hcost : 0 ≤ Ledger.small.parameters.accountUpgradeCost := by decide
  have hfees : ∀ k, 0 ≤ policy.fees.fee k := by
    intro k
    cases k <;> decide
  have hi : c.Independent d Ledger.small.sink := by
    refine ⟨fun a ha ha' => ?_, by decide, by decide, fun _ bs hbs hbs' => ?_⟩
    · have hsame := (List.mem_singleton.1 ha).symm.trans (List.mem_singleton.1 ha')
      exact absurd hsame (by decide)
    · exact absurd (hbs.trans hbs'.symm) (by decide)
  obtain ⟨hledger, hsecond, hfirst⟩ :=
    independent_commute Ledger.check_small hcost hfees hi 0 1
  have hc : (apply c ⟨0, policy⟩ Ledger.small).1 = .ok ⟨7, .success⟩ :=
    eq_ok_of_toOption (by decide +kernel)
  have hd : (apply d ⟨1, policy⟩ Ledger.small).1 = .ok ⟨7, .success⟩ :=
    eq_ok_of_toOption (by decide +kernel)
  exact ⟨policy, c, d, _, Ledger.check_small, hcost, hfees, hi, rfl, rfl,
    Prod.ext (hsecond.trans hd) rfl, Prod.ext (hfirst.trans hc) hledger.symm, by decide +kernel⟩

end Engine

end AccountLedger
