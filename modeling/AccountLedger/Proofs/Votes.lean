/-
**Votes are what was cast.**

A vote that succeeds leaves its owner with the counts of its own list and with nothing of earlier votes.
Neither its acceptance nor what becomes of it depends on the order of the list: a check that reads the
list from another end may name another reason, but it rejects no other vote.

Main results:

* `VoteWitness.Admissible.perm` — **acceptance does not depend on the order of the votes**;
* `Engine.run_congr`, `Engine.apply_votes_perm` — nor does what becomes of an accepted vote;
* `VoteWitness.Effect.counted` — a vote that succeeds leaves the counts of its list;
* `VoteWitness.Admissible.weight_le` — the list weighs no more than the voting power;
* `Ledger.votes_as_cast` — **votes are a matter of the list alone.**
-/

import AccountLedger.Proofs.Authority
import AccountLedger.Proofs.Tally

set_option relaxedAutoImplicit false
set_option autoImplicit false

namespace AccountLedger

/-! ### The order of the votes -/

/-- **Acceptance does not depend on the order of the votes**, nor on the time. -/
theorem VoteWitness.Admissible.perm {v w : VoteWitness} {ctx later : Context} {l : Ledger}
    (h : v.Admissible ctx l) (howner : v.owner = w.owner) (hvotes : v.votes.Perm w.votes)
    (hpolicy : ctx.policy = later.policy) : w.Admissible later l := by
  obtain ⟨owner, counts, account, total, weight, power, owner_eq, votes_ne, tallied, targets, found,
    few, total_eq, weight_eq, power_eq, weight_le, covered⟩ := h
  have hfee : ctx.fee .voteWitness = later.fee .voteWitness := by
    rw [Context.fee, Context.fee, hpolicy]
  have hne : w.votes ≠ [] := fun hnil => votes_ne (hnil ▸ hvotes).eq_nil
  exact .intro owner counts account total weight power (owner_eq.trans howner) hne
    (tally_perm hvotes tallied) targets found (hvotes.length_eq ▸ few) total_eq weight_eq power_eq
    weight_le (hfee ▸ covered)

namespace Engine

variable {σ : Type} [Backing σ]

/-- A run is decided by the execution, the owner, the kind and the policy. -/
theorem run_congr {c d : Contract} {ctx later : Context} (hexecute : c.execute ctx = d.execute later)
    (howner : c.owner = d.owner) (hkind : c.kind = d.kind) (hpolicy : ctx.policy = later.policy)
    (s : σ) : run c ctx s = run d later s := by
  have hfee : c.fee ctx = d.fee later := by
    rw [Contract.fee, Contract.fee, Context.fee, Context.fee, hkind, hpolicy]
  have hsettle : settle s c ctx = settle s d later := by
    simp only [settle, hfee, howner, hpolicy]
  simp only [run, hexecute, hfee, hsettle]

/-- **What becomes of an accepted vote does not depend on the order of its list**, nor on the time. -/
theorem apply_votes_perm {v w : VoteWitness} {ctx later : Context} {l : Ledger}
    (h : v.Admissible ctx l) (howner : v.owner = w.owner) (hvotes : v.votes.Perm w.votes)
    (hpolicy : ctx.policy = later.policy) :
    apply (.voteWitness v) ctx l = apply (.voteWitness w) later l := by
  have htally : VoteWitness.tally v.votes = VoteWitness.tally w.votes := by
    obtain ⟨-, counts, -, -, -, -, -, -, tallied, -⟩ := h
    rw [tallied, VoteWitness.tally_perm hvotes tallied]
  have hfee : ctx.fee .voteWitness = later.fee .voteWitness := by
    rw [Context.fee, Context.fee, hpolicy]
  have hexecute : v.execute ctx = w.execute later := by
    rw [VoteWitness.execute, VoteWitness.execute, howner, htally, hfee]
  rw [apply_of_admissible (c := .voteWitness v) h,
    apply_of_admissible (c := .voteWitness w) (h.perm howner hvotes hpolicy)]
  exact run_congr (c := .voteWitness v) (d := .voteWitness w) hexecute howner rfl hpolicy l

end Engine

/-! ### What a vote leaves -/

namespace VoteWitness

variable {v : VoteWitness} {ctx : Context} {l l' : Ledger} {a : Address} {r : Account}
  {counts : SortedMap Address Int64}

/-- A vote that succeeds leaves its owner with the counts of its list. -/
theorem Effect.counted (h : v.Effect ctx l l') (hl : l.AccountsKeyed) :
    ∃ (owner : Address) (r r' : Account), owner.bytes = v.owner ∧ l.account? owner = some r ∧
      l'.account? owner = some r' ∧ tally v.votes = .ok r'.votes := by
  obtain ⟨owner, counts, account, owner_eq, tallied, found, charged⟩ := h
  obtain ⟨b, hb, -⟩ := charged.account?_of_put hl found rfl
  exact ⟨owner, account, _, owner_eq, found, hb, tallied⟩

/-- All of them are for witnesses with an account. -/
theorem Effect.targets (h : v.Effect ctx l l') (hc : v.Admissible ctx l) (hl : l.AccountsKeyed)
    (hcounts : tally v.votes = .ok counts) (ha : a ∈ counts.keys) :
    l'.hasWitness a = true ∧ l'.hasAccount a = true := by
  have hwitnesses : l'.witnesses = l.witnesses :=
    Contract.Effect.witnesses (c := .voteWitness v) h nofun nofun
  have hopen := Contract.Admissible.not_reopens (c := .voteWitness v) hc
  obtain ⟨-, counts', -, -, -, -, -, -, tallied, targets, -⟩ := hc
  obtain rfl := Except.ok.inj (tallied.symm.trans hcounts)
  obtain ⟨haccount, hwitness⟩ := targets a ha
  refine ⟨?_, Contract.Effect.hasAccount (c := .voteWitness v) h hl hopen
    (Ledger.hasAccount_iff.2 haccount)⟩
  rw [Ledger.hasWitness, hwitnesses]
  exact hwitness

/-- The list weighs no more than the voting power of its owner. -/
theorem Admissible.weight_le (hc : v.Admissible ctx l) (howner : a.bytes = v.owner)
    (hr : l.account? a = some r) :
    Amount.total (v.votes.map (·.count.toInt)) * l.parameters.voteUnit.toInt ≤ r.power := by
  obtain ⟨owner, counts, account, total, weight, power, owner_eq, -, tallied, -, found, -, total_eq,
    weight_eq, power_eq, weight_le, -⟩ := hc
  obtain rfl := Address.ext (owner_eq.trans howner.symm)
  obtain rfl := Option.some.inj (found.symm.trans hr)
  have htotal : total.toInt = Amount.total (v.votes.map (·.count.toInt)) :=
    (Amount.toInt_of_sum total_eq).trans (total_of_tally tallied)
  rw [← htotal, ← weight_eq, ← Account.toInt_of_votingPower power_eq]
  exact weight_le

end VoteWitness

/-! ### Votes and lists -/

namespace Ledger

/-- **Votes are a matter of the list alone.**  Two votes of one owner that list the same in any order are
both accepted or both rejected, and if they are accepted the same becomes of them, whenever they are cast.
A vote that succeeds leaves its owner with the counts of its list, whatever the votes before it: its keys
are the listed targets, each has the exact sum of the counts that are listed for it, and all of them are
positive and for witnesses with an account.  At the exact total the list weighs no more than the balance
and the locks before the vote. -/
theorem votes_as_cast {policy : Policy} {l : Ledger} (hl : l.AccountsKeyed) {v w : VoteWitness}
    (howner : v.owner = w.owner) (hvotes : v.votes.Perm w.votes) (now later : Int64) :
    (Engine.validate (.voteWitness v) ⟨now, policy⟩ l = .ok () ↔
      Engine.validate (.voteWitness w) ⟨later, policy⟩ l = .ok ()) ∧
    (Engine.validate (.voteWitness v) ⟨now, policy⟩ l = .ok () →
      Engine.apply (.voteWitness v) ⟨now, policy⟩ l
        = Engine.apply (.voteWitness w) ⟨later, policy⟩ l) ∧
    ∀ (receipt : Receipt) (l' : Ledger),
      Engine.apply (.voteWitness v) ⟨now, policy⟩ l = (.ok receipt, l') →
      ∃ (owner : Address) (r r' : Account), owner.bytes = v.owner ∧
        l.account? owner = some r ∧ l'.account? owner = some r' ∧
        VoteWitness.tally v.votes = .ok r'.votes ∧ VoteWitness.Counted v.votes r'.votes ∧
        (∀ a n, r'.votes.get? a = some n →
          0 < n.toInt ∧ l'.hasWitness a = true ∧ l'.hasAccount a = true) ∧
        Amount.total (v.votes.map (·.count.toInt)) * l.parameters.voteUnit.toInt
          ≤ r.balance.toInt + Amount.total (r.locks.map (·.amount.toInt)) := by
  have haccepted (u : VoteWitness) (ctx : Context) :
      Engine.validate (.voteWitness u) ctx l = .ok () ↔ u.Admissible ctx l := u.check_eq_ok_iff
  refine ⟨?_, fun hv => ?_, fun receipt l' happly => ?_⟩
  · rw [haccepted, haccepted]
    exact ⟨fun h => h.perm howner hvotes rfl, fun h => h.perm howner.symm hvotes.symm rfl⟩
  · exact Engine.apply_votes_perm ((haccepted v _).1 hv) howner hvotes rfl
  · obtain ⟨-, admissible, done⟩ := Engine.effect_of_apply happly
    obtain ⟨owner, r, r', owner_eq, hr, hr', tallied⟩ := VoteWitness.Effect.counted done hl
    have hcounted := VoteWitness.counted_of_tally tallied
    refine ⟨owner, r, r', owner_eq, hr, hr', tallied, hcounted, fun a n hn => ?_,
      VoteWitness.Admissible.weight_le admissible owner_eq hr⟩
    have hkey : a ∈ r'.votes.keys := SortedMap.mem_keys_iff.2 ⟨n, hn⟩
    exact ⟨hcounted.pos hn, VoteWitness.Effect.targets done admissible hl tallied hkey⟩

/-- Ten votes are replaced by three and four for the same witness, listed in either order. -/
theorem votes_as_cast_small : ∃ (v w : VoteWitness) (l' : Ledger) (r r' : Account),
    voted.AccountsKeyed ∧ v.owner = w.owner ∧ v.votes ≠ w.votes ∧ v.votes.Perm w.votes ∧
    Engine.validate (.voteWitness v) ⟨0, {}⟩ voted = .ok () ∧
    Engine.validate (.voteWitness w) ⟨9, {}⟩ voted = .ok () ∧
    Engine.apply (.voteWitness v) ⟨0, {}⟩ voted = (.ok ⟨0, .success⟩, l') ∧
    Engine.apply (.voteWitness w) ⟨9, {}⟩ voted = (.ok ⟨0, .success⟩, l') ∧
    voted.account? (.repeating 1) = some r ∧ r.votes.get? (.repeating 2) = some 10 ∧
    l'.account? (.repeating 1) = some r' ∧ r'.votes.get? (.repeating 2) = some 7 ∧
    (∀ a, a ∈ r'.votes.keys ↔ a = .repeating 2) ∧ 7 * 1000000 ≤ r.power := by
  let v : VoteWitness :=
    ⟨(Address.repeating 1).bytes, [⟨(Address.repeating 2).bytes, 3⟩, ⟨(Address.repeating 2).bytes, 4⟩]⟩
  let w : VoteWitness :=
    ⟨(Address.repeating 1).bytes, [⟨(Address.repeating 2).bytes, 4⟩, ⟨(Address.repeating 2).bytes, 3⟩]⟩
  have hkeyed : voted.AccountsKeyed :=
    (check_eq_ok_iff.1 (rfl : voted.check = .ok ())).accountsKeyed
  have hperm : v.votes.Perm w.votes := .swap _ _ _
  have hvalid : Engine.validate (.voteWitness v) ⟨0, {}⟩ voted = .ok () :=
    eq_ok_of_toOption (by decide +kernel)
  obtain ⟨l', happly⟩ : ∃ l', Engine.apply (.voteWitness v) ⟨0, {}⟩ voted
      = (.ok ⟨0, .success⟩, l') := exists_ok_of_toOption (by decide +kernel)
  obtain ⟨haccepted, hsame, hcast⟩ := @votes_as_cast {} voted hkeyed v w rfl hperm 0 9
  obtain ⟨owner, r, r', howner, hr, hr', -, hcounted, -, hweight⟩ := hcast _ l' happly
  obtain rfl : owner = .repeating 1 := Address.ext howner
  have hkeys (a : Address) : a ∈ r'.votes.keys ↔ a = .repeating 2 := by
    rw [hcounted.mem_keys_iff]
    constructor
    · intro ha
      have htarget : ∀ u ∈ v.votes, u.target = (Address.repeating 2).bytes := by decide
      obtain ⟨u, hu, heq⟩ := List.mem_map.1 ha
      exact Address.ext (heq.symm.trans (htarget u hu))
    · rintro rfl
      exact List.mem_cons_self
  obtain ⟨n, hn⟩ := SortedMap.mem_keys_iff.1 ((hkeys _).2 rfl)
  obtain rfl : n = 7 := Int64.toInt_inj.1 (hcounted.sums _ n hn)
  have hbefore : ((voted.account? (.repeating 1)).bind (·.votes.get? (.repeating 2))) = some 10 := by
    decide +kernel
  rw [hr] at hbefore
  exact ⟨v, w, l', r, r', hkeyed, rfl, by decide, hperm, hvalid, haccepted.1 hvalid, happly,
    (hsame hvalid).symm.trans happly, hr, hbefore, hr', hn, hkeys, hweight⟩

end Ledger

end AccountLedger
