/-
**Marked accounts and registered witnesses.**

That an account is a witness is noted twice: by a mark in its record and by an entry in the registry.
Becoming a witness writes both, and no other contract writes a mark or adds an entry.  An account that
is opened is not marked, and its address has no entry either, since every witness has an account.

Main definitions:

* `Ledger.FlagsAgree` — the accounts that are marked are the registered ones;
* `Contract.Enrols` — what a step can make of the witness under an address.

Main results:

* `Contract.Effect.flagsAgree`, `Engine.flagsAgree_apply` — an effect, and a checked contract, keep
  marks and registry in agreement;
* `Engine.enrols_apply` — what becomes of every witness, whatever becomes of the contract;
* `Ledger.witness_flags_agree` — **marks and registry agree after every history, and a registered
  witness only ever changes its page address.**
-/

import AccountLedger.Proofs.Authority
import AccountLedger.Proofs.Invariants

set_option relaxedAutoImplicit false
set_option autoImplicit false

namespace AccountLedger

/-! ### Marks -/

namespace Ledger

/-- An account is marked as a witness iff its address is registered as one. -/
def FlagsAgree (l : Ledger) : Prop :=
  ∀ a r, l.account? a = some r → r.isWitness = l.hasWitness a

instance (l : Ledger) : Decidable l.FlagsAgree :=
  decidable_of_iff (∀ e ∈ l.accounts.entries, e.2.isWitness = l.hasWitness e.1)
    ⟨fun h a r hr => h (a, r) (SortedMap.mem_entries_iff.2 hr),
      fun h e he => h e.1 e.2 (SortedMap.mem_entries_iff.1 he)⟩

/-- Where only balances differ, marks and registry agree as before. -/
theorem SameButBalances.flagsAgree {l l' : Ledger} (h : SameButBalances l l')
    (hl : l.FlagsAgree) : l'.FlagsAgree := by
  intro a r' hr'
  obtain ⟨r, hr, hsame⟩ := h.sameRecords.account_before hr'
  have hmark : r'.isWitness = r.isWitness := hsame.keeps fun _ _ => rfl
  have hwitness : l'.hasWitness a = l.hasWitness a := congrArg (·.contains a) h.witnesses
  rw [hmark, hwitness, hl a r hr]

end Ledger

namespace Contract

variable {c : Contract} {ctx : Context} {p : Parameters} {a : Address} {r e : Account}

/-- Only becoming a witness marks an account. -/
theorem Edits.isWitness_eq (h : c.Edits ctx p r e) (hcreate : c.kind ≠ .witnessCreate) :
    e.isWitness = r.isWitness :=
  h.keeps (fun _ _ _ => rfl) (fun _ _ => rfl) (fun hkind => absurd hkind hcreate) (fun _ _ => rfl)
    (fun _ _ => rfl) fun _ _ => rfl

/-- Only becoming a witness, by the owner of the address, registers one. -/
theorem isSome_attests (w? : Option Witness) (h : c.kind = .witnessCreate → a.bytes ≠ c.owner) :
    (c.attests a w?).isSome = w?.isSome := by
  cases c with
  | witnessCreate u =>
      have howner : a.bytes ≠ u.owner := h rfl
      rw [attests, if_neg howner]
  | witnessUpdate u =>
      rw [attests]
      split
      · exact Option.isSome_map
      · rfl
  | _ => rfl

/-- Who becomes a witness opens no account. -/
theorem Opens.not_witnessCreate (h : c.Opens ctx a e) : c.kind ≠ .witnessCreate := by
  rintro hkind
  cases c with
  | witnessCreate u => cases h
  | _ => cases hkind

end Contract

section

variable {c : Contract} {ctx : Context} {l l' : Ledger}

open Ledger

/-- **The effect of a contract keeps marks and registry in agreement.** -/
theorem Contract.Effect.flagsAgree (h : c.Effect ctx l l') (hc : c.Admissible ctx l)
    (hl : l.Structured) (hflags : l.FlagsAgree) : l'.FlagsAgree := by
  intro a r' hr'
  have hrewrites := h.rewrites hl.accountsKeyed hc.not_reopens a
  have hwitness : l'.hasWitness a = (c.attests a (l.witness? a)).isSome :=
    congrArg Option.isSome (h.witness? hl.keyed a)
  rw [hr'] at hrewrites
  generalize hr : l.account? a = before at hrewrites
  cases hrewrites with
  | opened e _ new same =>
      -- Every witness has an account, so there is none under a new address.
      have hnone : l.witness? a = none := by
        refine Option.eq_none_iff_forall_not_mem.2 fun w hw => ?_
        obtain ⟨r, hfound⟩ := hasAccount_iff.1 (hl.witnesses a w hw)
        rw [hr] at hfound
        cases hfound
      have hmark : r'.isWitness = e.isWitness := same.keeps fun _ _ => rfl
      obtain ⟨name, rfl⟩ := new.exists_name
      rw [hmark, hwitness, hnone, isSome_attests none fun hkind => absurd hkind new.not_witnessCreate]
      rfl
  | owner r e _ owner_eq edit same =>
      have hmark : r'.isWitness = e.isWitness := same.keeps fun _ _ => rfl
      rw [hmark, hwitness]
      by_cases hkind : c.kind = .witnessCreate
      · cases c with
        | witnessCreate u =>
            obtain rfl := edit
            have howner : a.bytes = u.owner := owner_eq
            rw [Contract.attests, if_pos howner]
            rfl
        | _ => cases hkind
      · rw [edit.isWitness_eq hkind, isSome_attests _ fun h => absurd h hkind]
        exact hflags a r hr
  | other r _ owner_ne same =>
      have hmark : r'.isWitness = r.isWitness := same.keeps fun _ _ => rfl
      rw [hmark, hwitness, isSome_attests _ fun _ => owner_ne]
      exact hflags a r hr

/-- So does a checked contract, whatever becomes of it. -/
theorem Engine.flagsAgree_apply (hl : l.Structured) (hflags : l.FlagsAgree) :
    (apply c ctx l).2.FlagsAgree := by
  rcases succeeds_or_not hl.accountsKeyed c ctx with ⟨-, admissible, done⟩ | ⟨-, hsame⟩
  · exact done.flagsAgree admissible hl hflags
  · exact hsame.flagsAgree hflags

end

/-! ### The registry -/

/-- What a contract that `succeeds` or not can make of the witness under `a`, if there is one: it is
registered with the page address that the contract has, where there was none, or its page address is
replaced by that of the contract, or all stays as it was. -/
inductive Contract.Enrols (c : Contract) (succeeds : Bool) (a : Address) :
    Option Witness → Option Witness → Prop
  | created (u : WitnessCreate) (url : String) (done : succeeds = true)
      (kind : c = .witnessCreate u) (owner_eq : a.bytes = u.owner)
      (url_eq : Utf8.encode url = u.url) (length : 1 ≤ u.url.length ∧ u.url.length ≤ 256) :
      Enrols c succeeds a none (some ⟨a, url, 0⟩)
  | updated (u : WitnessUpdate) (w : Witness) (url : String) (done : succeeds = true)
      (kind : c = .witnessUpdate u) (owner_eq : a.bytes = u.owner)
      (url_eq : Utf8.encode url = u.url) (length : 1 ≤ u.url.length ∧ u.url.length ≤ 256) :
      Enrols c succeeds a (some w) (some { w with url := url })
  | kept (w? : Option Witness)
      (other : succeeds = true → a.bytes = c.owner →
        c.kind ≠ .witnessCreate ∧ c.kind ≠ .witnessUpdate) :
      Enrols c succeeds a w? w?

section

variable {c : Contract} {ctx : Context} {l l' : Ledger} {a : Address} {w : Witness}

open Ledger

/-- A page address that is admissible is written as it is. -/
theorem Utf8.encode_repair_of_url {bs : Bytes} {url : String}
    (hlength : bs ≠ [] ∧ bs.length ≤ maxUrlLength) (hurl : decode? bs = some url) :
    encode (repair bs) = bs ∧ 1 ≤ bs.length ∧ bs.length ≤ 256 := by
  rw [repair_eq_of_decode? hurl]
  exact ⟨encode_of_decode? hurl, List.length_pos_iff.2 hlength.1, hlength.2⟩

/-- A witness that there was is still there, with another page address at most. -/
theorem Contract.Enrols.of_some {succeeds : Bool} {after : Option Witness}
    (h : c.Enrols succeeds a (some w) after) : ∃ url, after = some { w with url := url } := by
  cases h with
  | updated u w url done kind owner_eq url_eq length => exact ⟨url, rfl⟩
  | kept w? other => exact ⟨w.url, rfl⟩

/-- Nobody becomes a witness twice. -/
theorem Contract.Enrols.not_created {u : WitnessCreate} {after : Option Witness}
    (howner : a.bytes = u.owner) : ¬ (Contract.witnessCreate u).Enrols true a (some w) after := by
  rintro (_ | ⟨_, _, _, _, kind, _⟩ | ⟨_, other⟩)
  · cases kind
  · exact (other rfl howner).1 rfl

/-- What the effect of an admissible contract makes of the witness under an address. -/
theorem Contract.Effect.enrols (h : c.Effect ctx l l') (hc : c.Admissible ctx l)
    (hl : l.KeyedByRecord) (a : Address) : c.Enrols true a (l.witness? a) (l'.witness? a) := by
  rw [h.witness? hl]
  cases c with
  | witnessCreate u =>
      obtain ⟨owner, url, -, -, owner_eq, url_length, url_eq, -, new, -⟩ := hc
      rw [attests]
      split
      · next ha =>
          obtain rfl := Address.ext (owner_eq.trans ha.symm)
          have hnone : l.witness? owner = none :=
            Option.not_isSome_iff_eq_none.1 (Bool.eq_false_iff.1 new)
          obtain ⟨hurl, hlength⟩ := Utf8.encode_repair_of_url url_length url_eq
          rw [hnone]
          exact .created u _ rfl rfl owner_eq hurl hlength
      · next ha => exact .kept _ fun _ howner => absurd howner ha
  | witnessUpdate u =>
      obtain ⟨owner, url, -, owner_eq, -, registered, url_length, url_eq, -⟩ := hc
      rw [attests]
      split
      · next ha =>
          obtain rfl := Address.ext (owner_eq.trans ha.symm)
          obtain ⟨w, hw⟩ := hasWitness_iff.1 registered
          obtain ⟨hurl, hlength⟩ := Utf8.encode_repair_of_url url_length url_eq
          rw [hw]
          exact .updated u w _ rfl rfl owner_eq hurl hlength
      · next ha => exact .kept _ fun _ howner => absurd howner ha
  | _ =>
      refine .kept _ fun _ _ => ⟨fun hkind => ?_, fun hkind => ?_⟩
      · cases hkind
      · cases hkind

/-- **What becomes of every witness**, whatever becomes of the contract. -/
theorem Engine.enrols_apply (hl : l.KeyedByRecord) (a : Address) :
    c.Enrols (apply c ctx l).1.isOk a (l.witness? a) ((apply c ctx l).2.witness? a) := by
  rcases succeeds_or_not hl.account c ctx with ⟨hok, admissible, done⟩ | ⟨hok, hsame⟩
  · rw [hok]
    exact done.enrols admissible hl a
  · have hwitness : (apply c ctx l).2.witness? a = l.witness? a :=
      congrArg (·.get? a) hsame.witnesses
    rw [hok, hwitness]
    exact .kept _ nofun

end

/-! ### Histories -/

namespace Ledger

variable {l : Ledger} {policy : Policy} {a : Address} {w : Witness}

/-- A registered witness stays registered, and changes its page address at most. -/
theorem witness?_after (hl : l.KeyedByRecord) (hw : l.witness? a = some w)
    (history : List Entry) :
    ∃ url, (l.after policy history).witness? a = some { w with url := url } := by
  have hstep (m : Ledger) (now : Int64) (c : Contract)
      (hm : m.KeyedByRecord ∧ ∃ url, m.witness? a = some { w with url := url }) :
      (Engine.apply c ⟨now, policy⟩ m).2.KeyedByRecord ∧
        ∃ url, (Engine.apply c ⟨now, policy⟩ m).2.witness? a = some { w with url := url } := by
    obtain ⟨hkeyed, url, hurl⟩ := hm
    have henrols := @Engine.enrols_apply c ⟨now, policy⟩ m hkeyed a
    rw [hurl] at henrols
    exact ⟨Engine.keyedByRecord_apply hkeyed, henrols.of_some⟩
  exact (after_induction (P := fun m => m.KeyedByRecord ∧
    ∃ url, m.witness? a = some { w with url := url }) hstep ⟨hl, w.url, hw⟩ history).2

/-- No registered witness is registered once more. -/
theorem not_registered_twice (hl : l.KeyedByRecord) (hw : l.witness? a = some w) (now : Int64)
    {u : WitnessCreate} (howner : a.bytes = u.owner) (receipt : Receipt) :
    (Engine.apply (.witnessCreate u) ⟨now, policy⟩ l).1 ≠ .ok receipt := by
  intro hok
  have henrols := @Engine.enrols_apply (.witnessCreate u) ⟨now, policy⟩ l hl a
  rw [hok, hw] at henrols
  exact henrols.not_created howner

/-- Marks and registry agree after every history that starts where they do. -/
theorem Regular.flagsAgree_after (h : l.Regular) (hfee : 0 ≤ policy.fees.transfer.toInt)
    (hflags : l.FlagsAgree) (history : List Entry) : (l.after policy history).FlagsAgree :=
  (after_induction (P := fun m => m.Regular ∧ m.FlagsAgree)
    (fun _ now c hm => ⟨hm.1.apply hfee now c, Engine.flagsAgree_apply hm.1.toStructured hm.2⟩)
    ⟨h, hflags⟩ history).2

/-- **Marks and registry agree after every history** of checked contracts, whatever becomes of each,
that starts on a consistent ledger where they do.  From there every step registers a witness where
there was none, or replaces a page address, or leaves a witness as it is, and what it writes are the
bytes of the contract, at least one and at most 256.  However the history goes on, a registered witness
stays registered, with its vote count, and is not registered once more. -/
theorem witness_flags_agree (hl : l.check = .ok ())
    (hrate : 0 ≤ l.parameters.bandwidthPerCoinDay) (htime : 0 ≤ l.parameters.minFrozenTime)
    (hfee : 0 ≤ policy.fees.transfer) (hflags : l.FlagsAgree) (history : List Entry) {m : Ledger}
    (hm : l.after policy history = m) :
    m.FlagsAgree ∧
    (∀ (e : Entry) (a : Address),
      e.contract.Enrols (Engine.apply e.contract ⟨e.now, policy⟩ m).1.isOk a (m.witness? a)
        ((Engine.apply e.contract ⟨e.now, policy⟩ m).2.witness? a)) ∧
    (∀ (later : List Entry) (a : Address) (w : Witness), m.witness? a = some w →
      (∃ url, (m.after policy later).witness? a = some { w with url := url }) ∧
      ∀ (u : WitnessCreate) (now : Int64) (receipt : Receipt), a.bytes = u.owner →
        (Engine.apply (.witnessCreate u) ⟨now, policy⟩ (m.after policy later)).1 ≠ .ok receipt) := by
  subst hm
  have hregular := regular_of_check hl hrate htime
  have hkeyed := keyedByRecord_after hregular.keyed policy history
  refine ⟨hregular.flagsAgree_after (Int64.le_iff_toInt_le.1 hfee) hflags history,
    fun e a => Engine.enrols_apply hkeyed a, fun later a w hw => ?_⟩
  obtain ⟨url, hurl⟩ : ∃ url, ((l.after policy history).after policy later).witness? a
      = some { w with url := url } := witness?_after hkeyed hw later
  exact ⟨⟨url, hurl⟩, fun u now receipt howner =>
    not_registered_twice (keyedByRecord_after hkeyed policy later) hurl now howner receipt⟩

/-- The small ledger, with witnesses for little. -/
def affordable : Ledger := { small with parameters := { accountUpgradeCost := 5 } }

/-- An account becomes a witness and is marked; nobody becomes a witness for the same address again. -/
theorem witness_flags_agree_small : ∃ (u : WitnessCreate) (m : Ledger) (r : Account),
    affordable.check = .ok () ∧ 0 ≤ affordable.parameters.bandwidthPerCoinDay ∧
    0 ≤ affordable.parameters.minFrozenTime ∧ 0 ≤ ({} : Policy).fees.transfer ∧
    affordable.FlagsAgree ∧ affordable.after {} [⟨0, .witnessCreate u⟩] = m ∧
    m.account? (.repeating 1) = some r ∧ m.witness? (.repeating 1) = some ⟨.repeating 1, "a", 0⟩ ∧
    r.isWitness = true ∧
    ∀ (v : WitnessCreate) (now : Int64) (receipt : Receipt), v.owner = u.owner →
      (Engine.apply (.witnessCreate v) ⟨now, {}⟩ m).1 ≠ .ok receipt := by
  have hcheck : affordable.check = .ok () := rfl
  have hflags : affordable.FlagsAgree := by decide +kernel
  have hfee : 0 ≤ ({} : Policy).fees.transfer := by decide
  let u : WitnessCreate := ⟨(Address.repeating 1).bytes, [97]⟩
  obtain ⟨hagree, -, hlater⟩ := witness_flags_agree hcheck (by decide) (by decide) hfee hflags
    [⟨0, .witnessCreate u⟩] rfl
  have hwitness : (affordable.after {} [⟨0, .witnessCreate u⟩]).witness? (.repeating 1)
      = some ⟨.repeating 1, "a", 0⟩ := by decide +kernel
  obtain ⟨r, hr⟩ := Option.isSome_iff_exists.1
    (by decide +kernel : ((affordable.after {} [⟨0, .witnessCreate u⟩]).account? (.repeating 1)).isSome)
  refine ⟨u, _, r, hcheck, by decide, by decide, hfee, hflags, rfl, hr, hwitness, ?_,
    fun v now receipt howner => (hlater [] _ _ hwitness).2 v now receipt howner.symm⟩
  rw [hagree _ r hr]
  exact hasWitness_iff.2 ⟨_, hwitness⟩

end Ledger

end AccountLedger
