/-
**Whose accounts a contract may touch.**

A contract speaks for its owner.  Whatever becomes of it, it leaves the network as it is, removes
nothing, and changes no account but those of its owner, of the one other party that it names, and of
the sink.  The other party and the sink can only gain, but for the issuer that sells its tokens.

Main definitions:

* `Contract.counterparty?`, `Contract.assetName?` — the other party and the asset that are named;
* `Contract.registers`, `Contract.attests` — what becomes of the asset of a name and of the witness
  under an address;
* `Contract.Touches`, `Contract.Creates` — what may become of an account that is not the owner's, and
  the accounts that may be new;
* `Contract.Confined` — all that a step may change.

Main results:

* `Contract.Effect.asset?`, `Contract.Effect.witness?` — what becomes of every asset and witness;
* `Contract.Effect.confined`, `Ledger.Charges.confined` — an effect, and the collection of a fee, keep
  to this;
* `Engine.keeps_to_parties` — **so does every checked contract, whatever becomes of it.**
-/

import AccountLedger.Proofs.AssetSupply
import AccountLedger.Proofs.Tokens
import AccountLedger.Proofs.VotingPower

set_option relaxedAutoImplicit false
set_option autoImplicit false

namespace AccountLedger

/-! ### What a contract names -/

namespace Contract

/-- The raw bytes of the address of the other party, beside the owner, that takes part. -/
def counterparty? : Contract → Option Bytes
  | .transfer c => some c.recipient
  | .transferAsset c => some c.recipient
  | .participateAssetIssue c => some c.issuer
  | _ => none

/-- The raw bytes of the name of the asset that the contract is about. -/
def assetName? : Contract → Option Bytes
  | .transferAsset c => some c.asset
  | .assetIssue c => some c.name
  | .participateAssetIssue c => some c.asset
  | _ => none

/-- What the contract makes of the asset of this name, if there is one. -/
def registers (c : Contract) (name : String) (s? : Option Asset) : Option Asset :=
  match c with
  | .assetIssue c =>
      if name = Utf8.repair c.name then (Address.ofBytes c.owner).toOption.map c.asset else s?
  | _ => s?

/-- What the contract makes of the witness under `a`, if there is one. -/
def attests (c : Contract) (a : Address) (w? : Option Witness) : Option Witness :=
  match c with
  | .witnessCreate c => if a.bytes = c.owner then some ⟨a, Utf8.repair c.url, 0⟩ else w?
  | .witnessUpdate c =>
      if a.bytes = c.owner then w?.map fun w => { w with url := Utf8.repair c.url } else w?
  | _ => w?

end Contract

/-! ### Witnesses -/

namespace Ledger

variable {l l' m : Ledger} {a owner : Address} {x : Int64}

theorem Adjusts.witnesses {d : Int} (h : l.Adjusts a d l') : l'.witnesses = l.witnesses := by
  cases h
  rfl

theorem Charges.witnesses (h : l.Charges a x l') : l'.witnesses = l.witnesses := by
  cases h with
  | free zero => rfl
  | taken m _ ne_zero paid received => exact received.witnesses.trans paid.adjusts.witnesses

theorem witnesses_opening (l : Ledger) (a : Address) (now : Int64) :
    (l.opening a now).witnesses = l.witnesses := by
  unfold opening
  split
  · rfl
  · rfl

end Ledger

section

variable {c : Contract} {ctx : Context} {l l' : Ledger}

open Ledger

/-- An effect that is not about witnesses leaves them alone. -/
theorem Contract.Effect.witnesses (h : c.Effect ctx l l') (hcreate : c.kind ≠ .witnessCreate)
    (hupdate : c.kind ≠ .witnessUpdate) : l'.witnesses = l.witnesses := by
  cases c with
  | transfer c =>
      obtain ⟨owner, recipient, total, m, n, -, -, -, paid, received, collected⟩ := h
      have hn : n.witnesses = l.witnesses := by
        rw [received.witnesses, paid.adjusts.witnesses, witnesses_opening]
      split at collected
      · rw [collected.witnesses, hn]
      · rw [collected, hn]
  | transferAsset c =>
      obtain ⟨owner, recipient, account, debited, receiver, credited, -, -, -, -, -, -, charged⟩ := h
      exact charged.witnesses
  | assetIssue c =>
      obtain ⟨owner, m, account, credited, -, charged, -, -, rfl⟩ := h
      exact charged.witnesses
  | participateAssetIssue c =>
      obtain ⟨owner, issuer, asset, tokens, m, n, buyer, bought, seller, sold, -, -, -, -, paid, -, -,
        received, -, -, charged⟩ := h
      exact charged.witnesses.trans (received.witnesses.trans paid.adjusts.witnesses)
  | freezeBalance c =>
      obtain ⟨owner, m, account, duration, expiry, credit, bandwidth, locks, -, paid, -, -, -, -, -,
        -, charged⟩ := h
      exact charged.witnesses.trans paid.adjusts.witnesses
  | unfreezeBalance c =>
      obtain ⟨owner, account, released, balance, -, -, -, -, charged⟩ := h
      exact charged.witnesses
  | witnessCreate c => exact absurd rfl hcreate
  | witnessUpdate c => exact absurd rfl hupdate
  | accountUpdate c =>
      cases h with
      | renamed owner account rule owner_eq found charged => exact charged.witnesses
      | opened owner rule owner_eq charged => exact charged.witnesses
  | voteWitness c =>
      obtain ⟨owner, counts, account, -, -, -, charged⟩ := h
      exact charged.witnesses
  | withdrawBalance c =>
      obtain ⟨owner, account, balance, -, -, -, charged⟩ := h
      exact charged.witnesses

/-- **What becomes of every witness** under the effect of a contract. -/
theorem Contract.Effect.witness? (h : c.Effect ctx l l') (hl : l.KeyedByRecord) (a : Address) :
    l'.witness? a = c.attests a (l.witness? a) := by
  have of_same (hsame : l'.witnesses = l.witnesses) : l'.witness? a = l.witness? a :=
    congrArg (·.get? a) hsame
  cases c with
  | witnessCreate c =>
      obtain ⟨owner, account, total, owner_eq, found, -, charged⟩ := h
      have hafter : l'.witness? a = _ := congrArg (·.get? a) charged.witnesses
      rw [hafter]
      show ((l.putWitness ⟨owner, Utf8.repair c.url, 0⟩).putAccount _).witness? a = _
      rw [witness?_putAccount, witness?_putWitness]
      simp only [attests, Address.bytes_eq_iff owner_eq]
      split
      · next ha => rw [ha]
      · rfl
  | witnessUpdate c =>
      obtain ⟨owner, witness, owner_eq, found, charged⟩ := h
      have hafter : l'.witness? a = _ := congrArg (·.get? a) charged.witnesses
      have haddress : ({ witness with url := Utf8.repair c.url } : Witness).address = owner :=
        hl.witness owner witness found
      rw [hafter]
      show (l.putWitness { witness with url := Utf8.repair c.url }).witness? a = _
      simp only [attests, Address.bytes_eq_iff owner_eq]
      by_cases ha : a = owner
      · rw [witness?_putWitness, if_pos (ha.trans haddress.symm), if_pos ha, ha, found]
        rfl
      · rw [witness?_putWitness, if_neg fun heq => ha (heq.trans haddress), if_neg ha]
  | _ => exact of_same (h.witnesses nofun nofun)

end

/-! ### Assets -/

section

variable {c : Contract} {ctx : Context} {l l' : Ledger} {name : String}

/-- **What becomes of every asset** under the effect of a contract. -/
theorem Contract.Effect.asset? (h : c.Effect ctx l l') (hl : l.AccountsKeyed)
    (hopen : ¬ c.Reopens ctx l) (name : String) :
    l'.asset? name = c.registers name (l.asset? name) := by
  by_cases hkind : c.kind = .assetIssue
  · cases c with
    | assetIssue i =>
        obtain ⟨owner, owner_eq, hasset, -⟩ := AssetIssue.Effect.registers h hl
        rw [hasset, registers, Address.ofBytes_eq_ok_iff.2 owner_eq]
        rfl
    | _ => cases hkind
  · rw [(h.sameTokens hl hopen hkind).asset?]
    cases c with
    | assetIssue i => exact absurd rfl hkind
    | _ => rfl

/-- No admissible contract registers an asset over another. -/
theorem Contract.Admissible.registers_of_registered (h : c.Admissible ctx l) {s : Asset}
    (hs : l.asset? name = some s) : c.registers name (some s) = some s := by
  cases c with
  | assetIssue i =>
      obtain ⟨-, name', -, -, -, name_eq, -, -, -, -, -, new, -⟩ := h
      refine if_neg fun heq => ?_
      rw [Utf8.repair_eq_of_decode? name_eq] at heq
      rw [heq, Ledger.asset?_eq_none new] at hs
      cases hs
  | _ => rfl

end

/-! ### What a step may change -/

/-- What may become of the record `r` under `a`, an address that is not the owner's: its balance may
grow, and the holding of the named asset may change if `a` is the other party's, growing unless this
is the issuer that sells it. -/
structure Contract.Touches (c : Contract) (a : Address) (r r' : Account) : Prop where
  same : r.SameButFunds r'
  balance : r.balance ≤ r'.balance
  holdings : ∀ name, r'.holdings.get? name ≠ r.holdings.get? name →
    c.counterparty? = some a.bytes ∧ ∃ bs, c.assetName? = some bs ∧ Utf8.decode? bs = some name
  lowered : ∀ name, r'.holding name < r.holding name → ∃ p, c = .participateAssetIssue p ∧
    a.bytes = p.issuer ∧ Utf8.decode? p.asset = some name

/-- The accounts that a step may open, each with nothing in it but what the contract sets. -/
inductive Contract.Creates (c : Contract) (ctx : Context) (a : Address) : Account → Prop
  | recipient (t : Transfer) (kind : c = .transfer t) (recipient_eq : a.bytes = t.recipient) :
      Creates c ctx a { Account.opened a .normal ctx.now with balance := t.amount }
  | owner (u : AccountUpdate) (kind : c = .accountUpdate u) (owner_eq : a.bytes = u.owner)
      (rule : ctx.policy.accountUpdate = .rejectExisting) :
      Creates c ctx a { Account.opened a .normal ctx.now with name := u.name }

/-- All that a step may change. -/
structure Contract.Confined (c : Contract) (ctx : Context) (l l' : Ledger) : Prop where
  sink : l'.sink = l.sink
  parameters : l'.parameters = l.parameters
  asset : ∀ name s, l.asset? name = some s → l'.asset? name = some s
  witness : ∀ a w, l.witness? a = some w → l'.witness? a = some w ∨
    ∃ u url, c = .witnessUpdate u ∧ a.bytes = u.owner ∧ l'.witness? a = some { w with url := url }
  account : ∀ a r, l.account? a = some r → ∃ r', l'.account? a = some r' ∧
    r'.address = r.address ∧ r'.createTime = r.createTime ∧ r'.type = r.type
  untouched : ∀ a : Address, a.bytes ≠ c.owner → c.counterparty? ≠ some a.bytes → a ≠ l.sink →
    l'.account? a = l.account? a
  touched : ∀ (a : Address) r r', a.bytes ≠ c.owner → l.account? a = some r →
    l'.account? a = some r' → c.Touches a r r'
  created : ∀ a r', l.account? a = none → l'.account? a = some r' → c.Creates ctx a r'

/-! ### Records -/

namespace Account.SameButFunds

variable {r s : Account}

theorem identity (h : r.SameButFunds s) :
    s.address = r.address ∧ s.createTime = r.createTime ∧ s.type = r.type := by
  cases h
  exact ⟨rfl, rfl, rfl⟩

/-- Records with the same funds are the same. -/
theorem eq_of_funds (h : r.SameButFunds s) (hbalance : s.balance.toInt = r.balance.toInt)
    (hholdings : s.holdings = r.holdings) : s = r := by
  cases h with
  | intro balance holdings =>
      obtain rfl : balance = r.balance := Int64.toInt_inj.1 hbalance
      obtain rfl : holdings = r.holdings := hholdings
      rfl

end Account.SameButFunds

/-- No edit gives a record another address, type or time of creation. -/
theorem Contract.Edits.identity {c : Contract} {ctx : Context} {p : Parameters} {r e : Account}
    (h : c.Edits ctx p r e) :
    e.address = r.address ∧ e.createTime = r.createTime ∧ e.type = r.type := by
  have hsame := h.keeps (f := fun r => (r.address, r.createTime, r.type)) (fun _ _ _ => rfl)
    (fun _ _ => rfl) (fun _ => rfl) (fun _ _ => rfl) (fun _ _ => rfl) fun _ _ => rfl
  simpa only [Prod.mk.injEq] using hsame

/-- The contributions to the balance of an account that is not the owner's. -/
theorem Contract.flow_of_ne {c : Contract} {ctx : Context} {l : Ledger} {a : Address}
    (howner : a.bytes ≠ c.owner) : c.flow ctx l a = (if a.bytes = c.payee then c.paid else 0)
      + if a = l.sink then c.toll ctx l.parameters else 0 := by
  rw [flow, if_neg howner, Int.zero_add]

/-- Only the other party is paid. -/
theorem Contract.paid_of_ne {c : Contract} {a : Address} (h : c.counterparty? ≠ some a.bytes) :
    (if a.bytes = c.payee then c.paid else 0) = 0 := by
  split
  · next hpayee =>
      cases c with
      | transfer c => exact absurd (congrArg some hpayee.symm) h
      | participateAssetIssue c => exact absurd (congrArg some hpayee.symm) h
      | _ => rfl
  · rfl

/-- An account that gains or loses tokens and is not the owner's is that of the other party, and it
loses them only as the issuer that sells them. -/
theorem Contract.Admissible.gain_of_ne {c : Contract} {ctx : Context} {l : Ledger} {a : Address}
    {name : String} {n : Int} (hc : c.Admissible ctx l) (howner : a.bytes ≠ c.owner)
    (h : c.gain? l a = some (name, n)) :
    c.counterparty? = some a.bytes ∧ (∃ bs, c.assetName? = some bs ∧ Utf8.decode? bs = some name) ∧
      (n < 0 → ∃ p, c = .participateAssetIssue p ∧ a.bytes = p.issuer ∧
        Utf8.decode? p.asset = some name) := by
  cases c with
  | transferAsset c =>
      obtain ⟨-, -, name', -, -, -, -, -, name_eq, positive, -⟩ := hc
      have howner : a.bytes ≠ c.owner := howner
      simp only [gain?, if_neg howner] at h
      split at h
      · next hrecipient =>
          cases h
          rw [Utf8.repair_eq_of_decode? name_eq]
          exact ⟨congrArg some hrecipient.symm, ⟨_, rfl, name_eq⟩, fun hneg => by omega⟩
      · cases h
  | assetIssue c =>
      have howner : a.bytes ≠ c.owner := howner
      simp only [gain?, if_neg howner] at h
      cases h
  | participateAssetIssue c =>
      obtain ⟨-, -, name', -, -, -, asset, tokens, -, -, -, name_eq, -, -, -, -, -, registered, -, -,
        priced, -⟩ := hc
      have howner : a.bytes ≠ c.owner := howner
      rw [← Utf8.repair_eq_of_decode? name_eq] at registered
      simp only [gain?, registered, Option.bind_eq_bind, Option.bind_some, priced, Except.toOption,
        if_neg howner] at h
      split at h
      · next hissuer =>
          cases h
          rw [Utf8.repair_eq_of_decode? name_eq]
          exact ⟨congrArg some hissuer.symm, ⟨_, rfl, name_eq⟩, fun _ => ⟨c, rfl, hissuer, name_eq⟩⟩
      · cases h
  | _ => cases h

/-- Who is neither the owner nor the other party gains no tokens. -/
theorem Contract.Admissible.gain?_of_foreign {c : Contract} {ctx : Context} {l : Ledger}
    {a : Address} (hc : c.Admissible ctx l) (howner : a.bytes ≠ c.owner)
    (hparty : c.counterparty? ≠ some a.bytes) : c.gain? l a = none := by
  cases hgain : c.gain? l a with
  | none => rfl
  | some g => exact absurd (hc.gain_of_ne howner hgain).1 hparty

/-! ### Effects -/

section

variable {c : Contract} {ctx : Context} {l l' : Ledger}

open Ledger

/-- What the effect of a contract makes of an account that is not its owner's. -/
theorem Contract.Effect.touches (h : c.Effect ctx l l') (hc : c.Admissible ctx l)
    (hl : l.AccountsKeyed) (hcost : 0 ≤ l.parameters.accountUpgradeCost.toInt)
    (hfees : ∀ k, 0 ≤ (ctx.fee k).toInt) {a : Address} {r r' : Account}
    (howner : a.bytes ≠ c.owner) (hr : l.account? a = some r) (hr' : l'.account? a = some r') :
    c.Touches a r r' := by
  have hrewrites := h.rewrites hl hc.not_reopens a
  have hbalance := h.balanceOf hl (hfees .transfer) hc.not_reopens a
  have hgains := h.gains hc hl a
  have hpaid := hc.paid_nonneg
  have htoll := toll_nonneg (c := c) (p := l.parameters) hfees hcost
  rw [flow_of_ne howner] at hbalance
  simp only [Ledger.balanceOf, hr, hr', Option.elim_some] at hbalance
  rw [holdingsOf_eq hr, holdingsOf_eq hr'] at hgains
  rw [hr, hr'] at hrewrites
  have hsame : r.SameButFunds r' := by
    cases hrewrites with
    | owner r e r' owner_eq edit same => exact absurd owner_eq howner
    | other r r' owner_ne same => exact same
  refine ⟨hsame, Int64.le_iff_toInt_le.2 ?_, fun name hname => ?_, fun name hname => ?_⟩
  · split at hbalance <;> split at hbalance <;> omega
  · rcases hgains.get? name with hkept | ⟨n, held, hgain, -⟩
    · exact absurd hkept hname
    · obtain ⟨hparty, hasset, -⟩ := hc.gain_of_ne howner hgain
      exact ⟨hparty, hasset⟩
  · rw [Int64.lt_iff_toInt_lt, Account.holding, Account.holding] at hname
    rcases hgains.get? name with hkept | ⟨n, held, hgain, hheld, hexact⟩
    · rw [hkept] at hname
      omega
    · rw [hheld, Option.getD_some] at hname
      exact (hc.gain_of_ne howner hgain).2.2 (by omega)

/-- Of an account that is neither its owner's nor the other party's only the balance may change. -/
theorem Contract.Effect.foreign (h : c.Effect ctx l l') (hc : c.Admissible ctx l)
    (hl : l.AccountsKeyed) {a : Address} (howner : a.bytes ≠ c.owner)
    (hparty : c.counterparty? ≠ some a.bytes) :
    (l.account? a = none → l'.account? a = none) ∧
      ∀ r, l.account? a = some r → ∃ b, l'.account? a = some { r with balance := b } := by
  have hrewrites := h.rewrites hl hc.not_reopens a
  have hgains := h.gains hc hl a
  rw [hc.gain?_of_foreign howner hparty] at hgains
  generalize hr : l.account? a = before, hr' : l'.account? a = after at hrewrites ⊢
  cases hrewrites with
  | absent => exact ⟨fun _ => rfl, nofun⟩
  | opened e r' new same =>
      cases c with
      | transfer c => exact absurd (congrArg some new.1.symm) hparty
      | accountUpdate c => exact absurd new.1 howner
      | _ => cases new
  | owner r e r' owner_eq edit same => exact absurd owner_eq howner
  | other r r' owner_ne same =>
      rw [holdingsOf_eq hr, holdingsOf_eq hr'] at hgains
      refine ⟨nofun, fun s hs => ?_⟩
      cases hs
      cases same with
      | intro balance holdings =>
          obtain rfl : holdings = r.holdings := hgains.unique .nothing
          exact ⟨balance, rfl⟩

/-- And it changes no account at all but those of its owner, the other party and the sink. -/
theorem Contract.Effect.account?_of_foreign (h : c.Effect ctx l l') (hc : c.Admissible ctx l)
    (hl : l.AccountsKeyed) (hfee : 0 ≤ (ctx.fee .transfer).toInt) {a : Address}
    (howner : a.bytes ≠ c.owner) (hparty : c.counterparty? ≠ some a.bytes) (hsink : a ≠ l.sink) :
    l'.account? a = l.account? a := by
  obtain ⟨hnone, hsome⟩ := h.foreign hc hl howner hparty
  have hbalance := h.balanceOf hl hfee hc.not_reopens a
  rw [flow_of_ne howner, paid_of_ne hparty, if_neg hsink] at hbalance
  cases hr : l.account? a with
  | none => exact hnone hr
  | some r =>
      obtain ⟨b, hb⟩ := hsome r hr
      simp only [Ledger.balanceOf, hr, hb, Option.elim_some] at hbalance
      obtain rfl : b = r.balance := Int64.toInt_inj.1 (by omega)
      exact hb

/-- An account that is opened has nothing in it but what the contract sets. -/
theorem Contract.Effect.creates (h : c.Effect ctx l l') (hc : c.Admissible ctx l)
    (hl : l.AccountsKeyed) (hsink : l.hasAccount l.sink = true)
    (hfees : ∀ k, 0 ≤ (ctx.fee k).toInt) {a : Address} {r' : Account} (hr : l.account? a = none)
    (hr' : l'.account? a = some r') : c.Creates ctx a r' := by
  have hrewrites := h.rewrites hl hc.not_reopens a
  have hbalance := h.balanceOf hl (hfees .transfer) hc.not_reopens a
  have hgains := h.gains hc hl a
  have hne : a ≠ l.sink := by
    rintro rfl
    obtain ⟨s, hs⟩ := hasAccount_iff.1 hsink
    rw [hr] at hs
    cases hs
  simp only [Ledger.balanceOf, hr, hr', Option.elim_none, Option.elim_some, Int.zero_add] at hbalance
  rw [holdingsOf_eq hr', Ledger.holdingsOf, hr, Option.elim_none] at hgains
  rw [hr, hr'] at hrewrites
  cases hrewrites with
  | opened e r' new same =>
      cases c with
      | transfer c =>
          obtain ⟨recipient_eq, rfl⟩ := new
          obtain ⟨owner, recipient, account, -, owner_eq, recipient_eq', ne, found, -⟩ := hc
          obtain rfl := Address.ext (recipient_eq'.trans recipient_eq.symm)
          have howner : recipient.bytes ≠ (Contract.transfer c).owner := fun heq =>
            ne (Address.ext (owner_eq.trans heq.symm))
          have hpayee : recipient.bytes = (Contract.transfer c).payee := recipient_eq
          rw [flow_of_ne howner, if_pos hpayee, if_neg hne, Int.add_zero] at hbalance
          cases same with
          | intro balance holdings =>
              obtain rfl : balance = c.amount := Int64.toInt_inj.1 hbalance
              obtain rfl := hgains.unique .nothing
              exact .recipient c rfl recipient_eq
      | accountUpdate c =>
          obtain ⟨owner_eq, rule, rfl⟩ := new
          have hfee := hfees .accountUpdate
          have hnone : (ctx.fee .accountUpdate).toInt = 0 := by
            cases hc with
            | renamed _ _ rule' => rw [rule] at rule'; cases rule'
            | opened _ _ _ _ _ covered => omega
          cases same with
          | intro balance holdings =>
              have hflow : (Contract.accountUpdate c).flow ctx l a = 0 := by
                simp only [flow, unlocked, withdrawn, paid, toll, fee, kind, hnone, Int.add_zero,
                  Int.sub_zero, ite_self]
              obtain rfl : balance = 0 := Int64.toInt_inj.1 (hbalance.trans hflow)
              obtain rfl := hgains.unique .nothing
              exact .owner c rfl owner_eq rule
      | _ => cases new

/-- No account is removed, and none becomes another. -/
theorem Contract.Effect.keeps (h : c.Effect ctx l l') (hc : c.Admissible ctx l)
    (hl : l.AccountsKeyed) {a : Address} {r : Account} (hr : l.account? a = some r) :
    ∃ r', l'.account? a = some r' ∧ r'.address = r.address ∧ r'.createTime = r.createTime ∧
      r'.type = r.type := by
  have hrewrites := h.rewrites hl hc.not_reopens a
  rw [hr] at hrewrites
  generalize l'.account? a = after at hrewrites ⊢
  cases hrewrites with
  | owner r e r' owner_eq edit same =>
      obtain ⟨haddress, htime, htype⟩ := edit.identity
      obtain ⟨haddress', htime', htype'⟩ := same.identity
      exact ⟨r', rfl, haddress'.trans haddress, htime'.trans htime, htype'.trans htype⟩
  | other r r' owner_ne same => exact ⟨r', rfl, same.identity⟩

/-- A registered witness changes its page address at most, by its own update. -/
theorem Contract.Effect.witness_kept (h : c.Effect ctx l l') (hc : c.Admissible ctx l)
    (hl : l.KeyedByRecord) {a : Address} {w : Witness} (hw : l.witness? a = some w) :
    l'.witness? a = some w ∨ ∃ u url, c = .witnessUpdate u ∧ a.bytes = u.owner ∧
      l'.witness? a = some { w with url := url } := by
  rw [h.witness? hl, hw]
  cases c with
  | witnessCreate c =>
      -- Who creates a witness is none yet.
      obtain ⟨owner, -, -, -, owner_eq, -, -, -, new, -⟩ := hc
      simp only [attests, Address.bytes_eq_iff owner_eq]
      split
      · next ha =>
          rw [ha] at hw
          rw [hasWitness_iff.2 ⟨w, hw⟩] at new
          cases new
      · exact .inl rfl
  | witnessUpdate c =>
      simp only [attests]
      split
      · next ha => exact .inr ⟨c, _, rfl, ha, rfl⟩
      · exact .inl rfl
  | _ => exact .inl rfl

/-- **The effect of a contract keeps to what it may change.** -/
theorem Contract.Effect.confined (h : c.Effect ctx l l') (hc : c.Admissible ctx l)
    (hl : l.Structured) (hcost : 0 ≤ l.parameters.accountUpgradeCost.toInt)
    (hfees : ∀ k, 0 ≤ (ctx.fee k).toInt) : c.Confined ctx l l' where
  sink := (Leaves.effect l' h).fixed.1
  parameters := (Leaves.effect l' h).fixed.2
  asset name s hs := by
    rw [h.asset? hl.accountsKeyed hc.not_reopens, hs, hc.registers_of_registered hs]
  witness a w hw := h.witness_kept hc hl.keyed hw
  account a r hr := h.keeps hc hl.accountsKeyed hr
  untouched a := h.account?_of_foreign hc hl.accountsKeyed (hfees .transfer)
  touched a r r' := h.touches hc hl.accountsKeyed hcost hfees
  created a r' := h.creates hc hl.accountsKeyed hl.sink hfees

end

/-! ### Whatever becomes of a contract -/

section

variable {c : Contract} {ctx : Context} {l l' : Ledger}

open Ledger

/-- A ledger that stays as it is keeps to everything. -/
theorem Contract.Confined.refl (c : Contract) (ctx : Context) (l : Ledger) :
    c.Confined ctx l l where
  sink := rfl
  parameters := rfl
  asset _ _ hs := hs
  witness _ _ hw := .inl hw
  account _ r hr := ⟨r, hr, rfl, rfl, rfl⟩
  untouched _ _ _ _ := rfl
  touched a r r' _ hr hr' := by
    cases hr.symm.trans hr'
    exact ⟨.refl r, Int64.le_refl _, fun _ hname => absurd rfl hname,
      fun _ hname => absurd hname Int64.lt_irrefl⟩
  created a r' hr hr' := by
    rw [hr] at hr'
    cases hr'

/-- **The collection of a fee keeps to what the contract may change.** -/
theorem Ledger.Charges.confined {payer : Address} {x : Int64} (h : l.Charges payer x l')
    (hl : l.AccountsKeyed) (howner : payer.bytes = c.owner) (hx : 0 ≤ x.toInt) :
    c.Confined ctx l l' := by
  have hsame := h.sameButBalances hl
  -- Where the payer is left aside, the sink's balance grows and no other changes.
  have hforeign (a : Address) (r : Account) (ha : a.bytes ≠ c.owner) (hr : l.account? a = some r) :
      ∃ b, l'.account? a = some { r with balance := b } ∧
        b.toInt = r.balance.toInt + if a = l.sink then x.toInt else 0 := by
    obtain ⟨b, hb⟩ := hsame.account a r hr
    have hne : a ≠ payer := fun heq => ha (heq ▸ howner)
    have hbalance := h.balanceOf hl a
    rw [if_neg hne, Int.sub_zero, Ledger.balanceOf, hb, Ledger.balanceOf, hr] at hbalance
    exact ⟨b, hb, hbalance⟩
  refine ⟨hsame.sink, hsame.parameters, fun name s hs => ?_, fun a w hw => .inl ?_, fun a r hr => ?_,
    fun a ha _ hsink => ?_, fun a r r' ha hr hr' => ?_, fun a r' hr hr' => ?_⟩
  · exact (congrArg (·.get? name) hsame.assets).trans hs
  · exact (congrArg (·.get? a) hsame.witnesses).trans hw
  · obtain ⟨b, hb⟩ := hsame.account a r hr
    exact ⟨_, hb, rfl, rfl, rfl⟩
  · cases hr : l.account? a with
    | none => exact hsame.noAccount a hr
    | some r =>
        obtain ⟨b, hb, hexact⟩ := hforeign a r ha hr
        rw [if_neg hsink, Int.add_zero] at hexact
        obtain rfl : b = r.balance := Int64.toInt_inj.1 hexact
        exact hb
  · obtain ⟨b, hb, hexact⟩ := hforeign a r ha hr
    cases hb.symm.trans hr'
    refine ⟨.intro b r.holdings, Int64.le_iff_toInt_le.2 ?_, fun _ hname => absurd rfl hname,
      fun _ hname => absurd hname Int64.lt_irrefl⟩
    show r.balance.toInt ≤ b.toInt
    split at hexact <;> omega
  · rw [hsame.noAccount a hr] at hr'
    cases hr'

end

namespace Engine

variable {l : Ledger}

/-- What a checked contract leaves of a structured ledger keeps to what the contract may change. -/
theorem confined_apply {ctx : Context} (hl : l.Structured)
    (hcost : 0 ≤ l.parameters.accountUpgradeCost.toInt) (hfees : ∀ k, 0 ≤ (ctx.fee k).toInt)
    (c : Contract) : c.Confined ctx l (apply c ctx l).2 := by
  rcases @leaves_apply c ctx l with h | ⟨hc, h⟩
  · rw [h]
    exact .refl c ctx l
  · generalize (apply c ctx l).2 = l' at h ⊢
    cases h with
    | same => exact .refl c ctx l
    | effect _ done => exact done.confined hc hl hcost hfees
    | charge a _ owner_eq charged =>
        exact charged.confined hl.accountsKeyed owner_eq (hfees c.kind)

/-- **A contract keeps to its parties.**  On a consistent ledger, under any policy without negative
fees and whatever becomes of it, a checked contract changes neither the sink nor the parameters, and
removes nothing.  Registered assets and witnesses stay, but for the page address that a witness
replaces itself.  No account changes but those of the owner, of the other party that is named, and of
the sink; no account gets another address, type or time of creation.  Of an account that is not the
owner's only the balance changes, which never falls, and the holding of the named asset, which falls
only for the issuer that sells it.  An account that is new is the recipient of a transfer, or the owner
of an account update that is to open one, with nothing in it but what the contract sets. -/
theorem keeps_to_parties {policy : Policy} (hl : l.check = .ok ())
    (hcost : 0 ≤ l.parameters.accountUpgradeCost) (hfees : ∀ k, 0 ≤ policy.fees.fee k)
    (now : Int64) (c : Contract) :
    c.Confined ⟨now, policy⟩ l (apply c ⟨now, policy⟩ l).2 := by
  have hfees : ∀ k, 0 ≤ (Context.fee ⟨now, policy⟩ k).toInt :=
    fun k => Int64.le_iff_toInt_le.1 (hfees k)
  exact confined_apply (Ledger.check_eq_ok_iff.1 hl).toStructured
    (Int64.le_iff_toInt_le.1 hcost) hfees c

/-- A transfer opens the account of its recipient and leaves that of a third party alone. -/
theorem keeps_to_parties_small :
    Ledger.small.check = .ok () ∧ 0 ≤ Ledger.small.parameters.accountUpgradeCost ∧
      (∀ k, 0 ≤ ({ fees := { transfer := 7 } } : Policy).fees.fee k) ∧
      ∃ (c : Contract) (l : Ledger) (r : Account),
        apply c ⟨3, { fees := { transfer := 7 } }⟩ Ledger.small = (.ok ⟨7, .success⟩, l) ∧
        l.account? (.repeating 3) = some r ∧
        c.Creates ⟨3, { fees := { transfer := 7 } }⟩ (.repeating 3) r ∧
        l.account? (.repeating 2) = Ledger.small.account? (.repeating 2) := by
  have hfees : ∀ k, 0 ≤ ({ fees := { transfer := 7 } } : Policy).fees.fee k := by
    intro k
    cases k <;> decide
  have hcost : 0 ≤ Ledger.small.parameters.accountUpgradeCost := by decide
  let c : Contract := .transfer ⟨(Address.repeating 1).bytes, (Address.repeating 3).bytes, 1000000⟩
  have hconfined := keeps_to_parties Ledger.check_small hcost hfees 3 c
  have hresult : (apply c ⟨3, { fees := { transfer := 7 } }⟩ Ledger.small).1
      = .ok ⟨7, .success⟩ := rfl
  have hnew : (apply c ⟨3, { fees := { transfer := 7 } }⟩ Ledger.small).2.account? (.repeating 3)
      = some { Account.opened (.repeating 3) .normal 3 with balance := 1000000 } := by
    decide +kernel
  exact ⟨Ledger.check_small, hcost, hfees, c, _, _, Prod.ext hresult rfl, hnew,
    hconfined.created _ _ rfl hnew, hconfined.untouched _ (by decide) (by decide) (by decide)⟩

end Engine

end AccountLedger
