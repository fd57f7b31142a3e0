/-
**Votes are weighed when they are cast.**

A vote is admissible if the balance and the locks of the voter cover its weight.  Nothing weighs the
votes again: what is spent later, the fee of the vote itself included, is spent with the votes left
as they are.  So votes are covered by what the voter has and what it has spent since it voted, less
what has come back to it.  What others do costs it nothing, unless it is the sink and the price of
becoming a witness is negative.

Main definitions:

* `Account.power`, `Account.voteWeight` — the voting power of an account and the weight of its votes;
* `Engine.outlay` — what a step costs an account in voting power, on balance;
* `Engine.casts` — whether a step casts the votes under an address anew;
* `Ledger.spent` — what has been spent since the last vote, on balance;
* `Ledger.Covered` — votes that are covered by the voting power and an amount spent.

Main results:

* `Contract.Effect.powerOf` — **what becomes of the voting power**;
* `Engine.powerOf_apply` — **a step takes exactly its outlay**;
* `VoteWitness.Effect.weightOf_le` — **a vote is covered when it is cast**;
* `Ledger.Covered.apply` — what one contract does to covered votes;
* `Ledger.votes_covered` — **votes are covered by the voting power and what was spent since**;
* `Ledger.votes_uncovered` — and not by the voting power alone.
-/

import AccountLedger.Proofs.Balances
import AccountLedger.Proofs.History

set_option relaxedAutoImplicit false
set_option autoImplicit false

namespace AccountLedger

/-! ### Power and weight -/

namespace Account

/-- The voting power as an exact integer: the balance and the locked stake. -/
def power (r : Account) : Int := r.balance.toInt + r.lockedUnits

/-- The weight of the votes as an exact integer, at a number of native units per vote. -/
def voteWeight (r : Account) (unit : Int64) : Int :=
  Amount.total (r.votes.values.map (·.toInt)) * unit.toInt

variable {r s : Account}

/-- The checked voting power is exact. -/
theorem toInt_of_votingPower {n : Int64} (h : r.votingPower = .ok n) : n.toInt = r.power := by
  simp only [votingPower, Check.bind_eq_ok_iff, Amount.add_eq_ok_iff] at h
  obtain ⟨locked, hlocked, hn⟩ := h
  rw [hn, toInt_of_locked hlocked, power]

theorem voteWeight_of_votes_eq (h : s.votes = r.votes) (unit : Int64) :
    s.voteWeight unit = r.voteWeight unit := by
  rw [voteWeight, voteWeight, h]

end Account

namespace Ledger

/-- The voting power under an address, zero where there is no account. -/
def powerOf (l : Ledger) (a : Address) : Int := l.balanceOf a + l.lockedOf a

/-- The weight of the votes that are cast under an address. -/
def weightOf (l : Ledger) (a : Address) : Int :=
  (l.account? a).elim 0 (·.voteWeight l.parameters.voteUnit)

variable {l : Ledger} {a : Address} {r : Account}

theorem powerOf_eq (hr : l.account? a = some r) : l.powerOf a = r.power := by
  rw [powerOf, balanceOf, lockedOf, hr]
  rfl

theorem weightOf_eq (hr : l.account? a = some r) :
    l.weightOf a = r.voteWeight l.parameters.voteUnit := by
  rw [weightOf, hr, Option.elim_some]

end Ledger

/-! ### What a step costs -/

/-- What a step costs the account under `a` in voting power, on balance.  A contract that succeeds costs
its owner what it pays to others and to the sink, less the allowance that it withdraws; whom it pays,
and the sink, gain by it.  A contract that fails costs its owner the fee that is collected. -/
def Engine.outlay (c : Contract) (ctx : Context) (l : Ledger) (a : Address) : Int :=
  match (apply c ctx l).1 with
  | .ok _ =>
      (if a.bytes = c.owner then c.paid + c.toll ctx l.parameters - c.withdrawn l a else 0)
        - (if a.bytes = c.payee then c.paid else 0)
        - if a = l.sink then c.toll ctx l.parameters else 0
  | .error (.failed receipt _) =>
      if ctx.policy.failedFee = .charge then
        (if a.bytes = c.owner then receipt.fee.toInt else 0)
          - if a = l.sink then receipt.fee.toInt else 0
      else 0
  | .error _ => 0

section

variable {c : Contract} {ctx : Context} {l l' : Ledger} {a : Address}

namespace Contract

/-- An admissible contract pays no negative amount. -/
theorem Admissible.paid_nonneg (h : c.Admissible ctx l) : 0 ≤ c.paid := by
  cases c with
  | transfer c =>
      obtain ⟨-, -, -, -, -, -, -, -, -, positive, -, -, -, -⟩ := h
      exact Int.le_of_lt positive
  | participateAssetIssue c =>
      obtain ⟨-, -, -, -, -, -, -, -, -, -, -, -, positive, -⟩ := h
      exact Int.le_of_lt positive
  | _ => exact Int.le_refl 0

/-- The toll is not negative if neither the fees nor the price of becoming a witness is. -/
theorem toll_nonneg {p : Parameters} (hfees : ∀ k, 0 ≤ (ctx.fee k).toInt)
    (hcost : 0 ≤ p.accountUpgradeCost.toInt) : 0 ≤ c.toll ctx p := by
  have hfee : 0 ≤ (c.fee ctx).toInt := hfees c.kind
  unfold toll
  split
  · exact Int.add_nonneg hfee hcost
  · exact Int.add_nonneg hfee (Int.le_refl 0)

/-- **What becomes of the voting power**: what goes from the locks into the balance is no change. -/
theorem Effect.powerOf (h : c.Effect ctx l l') (hc : c.Admissible ctx l) (hl : l.AccountsKeyed)
    (hfee : 0 ≤ (ctx.fee .transfer).toInt) (a : Address) :
    l'.powerOf a = l.powerOf a
      + (if a.bytes = c.owner then c.withdrawn l a - c.paid - c.toll ctx l.parameters else 0)
      + (if a.bytes = c.payee then c.paid else 0)
      + if a = l.sink then c.toll ctx l.parameters else 0 := by
  have hbalance := h.balanceOf hl hfee hc.not_reopens a
  have hlocked := h.lockedOf hc hl a
  unfold flow at hbalance
  rw [Ledger.powerOf, Ledger.powerOf, hbalance, hlocked]
  split
  · omega
  · omega

/-- Only a vote changes the weight of votes, that of its owner's. -/
theorem Effect.weightOf (h : c.Effect ctx l l') (hc : c.Admissible ctx l) (hl : l.AccountsKeyed)
    (hvote : a.bytes = c.owner → c.kind ≠ .voteWitness) : l'.weightOf a = l.weightOf a := by
  have hparameters : l'.parameters = l.parameters := (Leaves.effect l' h).fixed.2
  have hrewrites := h.rewrites hl hc.not_reopens a
  rw [Ledger.weightOf, Ledger.weightOf, hparameters]
  generalize l.account? a = before, l'.account? a = after at hrewrites ⊢
  cases hrewrites with
  | absent => rfl
  | opened e r' new same =>
      have hvotes : r'.votes = .empty := same.votes.trans new.nothing.2
      rw [Option.elim_none, Option.elim_some, Account.voteWeight, hvotes]
      exact Int.zero_mul _
  | owner r e r' owner_eq edit same =>
      rw [Option.elim_some, Option.elim_some]
      exact Account.voteWeight_of_votes_eq (same.votes.trans (edit.votes_eq (hvote owner_eq))) _
  | other r r' owner_ne same =>
      rw [Option.elim_some, Option.elim_some]
      exact Account.voteWeight_of_votes_eq same.votes _

end Contract

/-- **A vote is covered when it is cast**: by the voting power before its fee is taken. -/
theorem VoteWitness.Effect.weightOf_le {v : VoteWitness} (h : v.Effect ctx l l')
    (hc : v.Admissible ctx l) (hl : l.AccountsKeyed) (howner : a.bytes = v.owner) :
    l'.weightOf a ≤ l.powerOf a := by
  have hparameters : l'.parameters = l.parameters :=
    (Contract.Leaves.effect (c := .voteWitness v) l' h).fixed.2
  have hrewrites := Contract.Effect.rewrites (c := .voteWitness v) h hl
    (Contract.Admissible.not_reopens (c := .voteWitness v) hc) a
  obtain ⟨owner, counts, account, total, weight, power, owner_eq, -, tallied, -, found, -, total_eq,
    weight_eq, power_eq, weight_le, -⟩ := hc
  obtain rfl := Address.ext (owner_eq.trans howner.symm)
  rw [found] at hrewrites
  rw [Ledger.powerOf_eq found, ← Account.toInt_of_votingPower power_eq]
  rw [Ledger.weightOf, hparameters]
  generalize l'.account? owner = after at hrewrites ⊢
  cases hrewrites with
  | other _ r' owner_ne same => exact absurd howner owner_ne
  | owner _ e r' _ edit same =>
      obtain ⟨counts', tallied', rfl⟩ := edit
      obtain rfl := Except.ok.inj (tallied.symm.trans tallied')
      have hweight : r'.voteWeight l.parameters.voteUnit = weight.toInt := by
        rw [Account.voteWeight, same.votes, weight_eq, Amount.toInt_of_sum total_eq]
      rw [Option.elim_some, hweight]
      exact weight_le

end

/-! ### One contract -/

/-- A fee changes the voting power of its payer and of the sink. -/
theorem Ledger.Charges.powerOf {l l' : Ledger} {payer : Address} {x : Int64}
    (h : l.Charges payer x l') (hl : l.AccountsKeyed) (a : Address) :
    l'.powerOf a = l.powerOf a - (if a = payer then x.toInt else 0)
      + if a = l.sink then x.toInt else 0 := by
  have hlocked : l'.lockedOf a = l.lockedOf a :=
    (h.sameRecords hl).elim_account?_eq (fun _ _ hsame => hsame.lockedUnits) a
  rw [Ledger.powerOf, Ledger.powerOf, h.balanceOf hl, hlocked]
  omega

/-- And it changes no votes. -/
theorem Ledger.Charges.weightOf {l l' : Ledger} {payer : Address} {x : Int64}
    (h : l.Charges payer x l') (hl : l.AccountsKeyed) (a : Address) :
    l'.weightOf a = l.weightOf a := by
  rw [Ledger.weightOf, Ledger.weightOf, (h.sameButBalances hl).parameters]
  exact (h.sameRecords hl).elim_account?_eq
    (fun _ _ hsame => Account.voteWeight_of_votes_eq hsame.votes _) a

namespace Engine

variable {c : Contract} {ctx : Context} {l : Ledger} {a : Address}

/-- Does the step cast the votes under `a` anew? -/
def casts (c : Contract) (ctx : Context) (l : Ledger) (a : Address) : Bool :=
  c.kind = .voteWitness && a.bytes = c.owner && (apply c ctx l).1.isOk

/-- **A step takes exactly its outlay from the voting power.** -/
theorem powerOf_apply (hl : l.AccountsKeyed) (hfee : 0 ≤ (ctx.fee .transfer).toInt) :
    (apply c ctx l).2.powerOf a = l.powerOf a - outlay c ctx l a := by
  have happlies := applies_apply c ctx l
  unfold outlay
  generalize apply c ctx l = outcome at happlies ⊢
  cases happlies with
  | rejected reason => exact (Int.sub_zero _).symm
  | unpaid receipt fault recorded =>
      simp only
      split
      · next hrule =>
          -- A fee is to be collected, so the receipt of one that is not bears none.
          have hzero := recorded.resolve_left fun hrecord => nomatch hrule.symm.trans hrecord
          simp only [hzero, Amount.toInt_zero, ite_self, Int.sub_zero]
      · exact (Int.sub_zero _).symm
  | paid b fault l' rule owner_eq charged =>
      simp only [rule, if_true, charged.powerOf hl, Address.bytes_eq_iff owner_eq]
      omega
  | succeeded l' admissible done =>
      simp only [done.powerOf admissible hl hfee a]
      split
      · omega
      · omega

/-- A step costs nobody but its owner anything, if the sink takes no negative toll. -/
theorem outlay_nonpos (howner : a.bytes ≠ c.owner) (hfees : ∀ k, 0 ≤ (ctx.fee k).toInt)
    (htoll : 0 ≤ c.toll ctx l.parameters) : outlay c ctx l a ≤ 0 := by
  have happlies := applies_apply c ctx l
  have hfee : 0 ≤ (c.fee ctx).toInt := hfees c.kind
  unfold outlay
  generalize apply c ctx l = outcome at happlies ⊢
  cases happlies with
  | rejected reason => exact Int.le_refl 0
  | unpaid receipt fault recorded =>
      simp only [if_neg howner]
      split
      · next hrule =>
          have hzero := recorded.resolve_left fun hrecord => nomatch hrule.symm.trans hrecord
          simp only [hzero, Amount.toInt_zero, ite_self, Int.sub_zero, Int.le_refl]
      · exact Int.le_refl 0
  | paid b fault l' rule owner_eq charged =>
      simp only [if_neg howner, rule, if_true]
      split
      · omega
      · omega
  | succeeded l' admissible done =>
      have hpaid := admissible.paid_nonneg
      simp only [if_neg howner]
      split <;> split <;> omega

/-- **A step changes the weight of votes only by casting them anew**, and then the voting power before
it covers them. -/
theorem weightOf_apply (hl : l.AccountsKeyed) :
    (casts c ctx l a = false ∧ (apply c ctx l).2.weightOf a = l.weightOf a) ∨
      (casts c ctx l a = true ∧ (apply c ctx l).2.weightOf a ≤ l.powerOf a) := by
  have happlies := applies_apply c ctx l
  unfold casts
  generalize apply c ctx l = outcome at happlies ⊢
  cases happlies with
  | rejected reason => exact .inl ⟨Bool.and_false _, rfl⟩
  | unpaid receipt fault recorded => exact .inl ⟨Bool.and_false _, rfl⟩
  | paid b fault l' rule owner_eq charged => exact .inl ⟨Bool.and_false _, charged.weightOf hl a⟩
  | succeeded l' admissible done =>
      by_cases hcast : c.kind = .voteWitness ∧ a.bytes = c.owner
      · obtain ⟨hkind, howner⟩ := hcast
        cases c with
        | voteWitness v =>
            refine .inr ⟨?_, VoteWitness.Effect.weightOf_le done admissible hl howner⟩
            simp [howner, hkind, Except.isOk, Except.toBool]
        | _ => cases hkind
      · refine .inl ⟨?_, done.weightOf admissible hl fun howner hkind => hcast ⟨hkind, howner⟩⟩
        simp only [Bool.and_eq_false_iff, decide_eq_false_iff_not]
        exact .inl (Decidable.not_and_iff_not_or_not.1 hcast)

end Engine

/-! ### Histories -/

namespace Ledger

variable {l : Ledger} {policy : Policy} {a : Address}

/-- What has been spent under `a` since its votes were last cast, less what has come back: the outlays of
the steps since, that of the vote included; `start` is what had been spent before the history. -/
def spent (policy : Policy) (a : Address) (start : Int) : Ledger → List Entry → Int
  | _, [] => start
  | l, e :: history =>
      let ctx : Context := ⟨e.now, policy⟩
      spent policy a
        ((if Engine.casts e.contract ctx l a then 0 else start)
          + Engine.outlay e.contract ctx l a)
        (Engine.apply e.contract ctx l).2 history

/-- The votes under `a` are covered by its voting power and what it has spent since. -/
def Covered (l : Ledger) (a : Address) (spent : Int) : Prop :=
  l.weightOf a ≤ l.powerOf a + spent

/-- One contract keeps votes covered. -/
theorem Covered.apply {start : Int} (h : l.Covered a start) (hl : l.AccountsKeyed)
    {c : Contract} {ctx : Context} (hfee : 0 ≤ (ctx.fee .transfer).toInt) :
    (Engine.apply c ctx l).2.Covered a
      ((if Engine.casts c ctx l a then 0 else start) + Engine.outlay c ctx l a) := by
  have hpower := @Engine.powerOf_apply c ctx l a hl hfee
  have hweight := @Engine.weightOf_apply c ctx l a hl
  unfold Covered at h ⊢
  rcases hweight with ⟨hcast, hweight⟩ | ⟨hcast, hweight⟩
  · rw [hcast, if_neg Bool.false_ne_true]
    omega
  · rw [hcast, if_pos rfl]
    omega

/-- **A history keeps votes covered.** -/
theorem Covered.after {start : Int} (h : l.Covered a start) (hl : l.AccountsKeyed)
    (hfee : 0 ≤ policy.fees.transfer.toInt) (history : List Entry) :
    (l.after policy history).Covered a (spent policy a start l history) := by
  induction history generalizing l start with
  | nil => exact h
  | cons e history ih =>
      have hfee : 0 ≤ (Context.fee ⟨e.now, policy⟩ .transfer).toInt := hfee
      exact ih (h.apply hl hfee) (Engine.accountsKeyed_apply hl)

/-- While all contracts are those of others, nothing is spent. -/
theorem spent_nonpos {history : List Entry} {start : Int} (hstart : start ≤ 0)
    (hfees : ∀ k, 0 ≤ (policy.fees.fee k).toInt)
    (hcost : 0 ≤ l.parameters.accountUpgradeCost.toInt)
    (hother : ∀ e ∈ history, a.bytes ≠ e.contract.owner) :
    spent policy a start l history ≤ 0 := by
  induction history generalizing l start with
  | nil => exact hstart
  | cons e history ih =>
      obtain ⟨he, hrest⟩ := List.forall_mem_cons.1 hother
      obtain ⟨-, hparameters⟩ := @Engine.fixed_apply e.contract ⟨e.now, policy⟩ l
      have htoll : 0 ≤ e.contract.toll ⟨e.now, policy⟩ l.parameters :=
        Contract.toll_nonneg hfees hcost
      have houtlay : Engine.outlay e.contract ⟨e.now, policy⟩ l a ≤ 0 :=
        Engine.outlay_nonpos he hfees htoll
      refine ih ?_ (hparameters ▸ hcost) hrest
      split
      · omega
      · omega

/-- Whether votes are covered can be checked record by record. -/
theorem backed_of_values
    (h : ∀ r ∈ l.accounts.values, r.voteWeight l.parameters.voteUnit ≤ r.power) (a : Address)
    (r : Account) (hr : l.account? a = some r) : r.voteWeight l.parameters.voteUnit ≤ r.power :=
  h r (SortedMap.mem_values_iff.2 ⟨a, hr⟩)

/-- The small ledger, with one of its accounts a witness. -/
def electing : Ledger := small.putWitness ⟨.repeating 2, "", 0⟩

/-- The other account votes with all it has, and then pays one unit. -/
def voteAndPay : List Entry :=
  [⟨0, .voteWitness ⟨(Address.repeating 1).bytes, [⟨(Address.repeating 2).bytes, 10⟩]⟩⟩,
    ⟨0, .transfer ⟨(Address.repeating 1).bytes, (Address.repeating 2).bytes, 1⟩⟩]

/-- The ledger in which it has just voted. -/
def voted : Ledger := electing.after {} (voteAndPay.take 1)

/-- Another account pays the voter. -/
def payVoter : List Entry :=
  [⟨0, .transfer ⟨(Address.repeating 2).bytes, (Address.repeating 1).bytes, 1⟩⟩]

/-- **Votes are covered by the voting power and what has been spent since they were cast.**  If the votes
under an address are covered at the start, then after every history, under fees that are not negative,
they weigh at most the voting power and what has been spent since the last vote, less what has come
back.  What others do costs nothing: without a contract of its own an account keeps its votes covered
by its voting power alone, if becoming a witness has no negative price. -/
theorem votes_covered (hl : l.check = .ok ()) (hfees : ∀ k, 0 ≤ policy.fees.fee k)
    (hbacked : ∀ r, l.account? a = some r → r.voteWeight l.parameters.voteUnit ≤ r.power)
    (history : List Entry) {r : Account} (hr : (l.after policy history).account? a = some r) :
    r.voteWeight l.parameters.voteUnit ≤ r.power + spent policy a 0 l history ∧
      (0 ≤ l.parameters.accountUpgradeCost → (∀ e ∈ history, a.bytes ≠ e.contract.owner) →
        r.voteWeight l.parameters.voteUnit ≤ r.power) := by
  have hfees (k : Kind) : 0 ≤ (policy.fees.fee k).toInt := Int64.le_iff_toInt_le.1 (hfees k)
  have hstart : l.Covered a 0 := by
    unfold Covered
    rw [Int.add_zero]
    cases hfound : l.account? a with
    | none =>
        simp only [weightOf, powerOf, balanceOf, lockedOf, hfound, Option.elim_none, Int.add_zero,
          Int.le_refl]
    | some s =>
        rw [weightOf_eq hfound, powerOf_eq hfound]
        exact hbacked s hfound
  have hcovered := hstart.after (check_eq_ok_iff.1 hl).accountsKeyed (hfees .transfer) history
  unfold Covered at hcovered
  rw [weightOf_eq hr, powerOf_eq hr, parameters_after] at hcovered
  refine ⟨hcovered, fun hcost hother => ?_⟩
  have hspent := spent_nonpos (a := a) (Int.le_refl 0) hfees (Int64.le_iff_toInt_le.1 hcost) hother
  omega

/-- What the votes lack is what was paid after them, until it is paid back; and what others pay costs
nothing. -/
theorem votes_covered_small : electing.check = .ok () ∧ (∀ k, 0 ≤ ({} : Policy).fees.fee k) ∧
    (∃ r, (electing.after {} voteAndPay).account? (.repeating 1) = some r ∧
      spent {} (.repeating 1) 0 electing voteAndPay = 1 ∧
      r.voteWeight electing.parameters.voteUnit ≤ r.power + 1) ∧
    (∃ r, (electing.after {} (voteAndPay ++ payVoter)).account? (.repeating 1) = some r ∧
      spent {} (.repeating 1) 0 electing (voteAndPay ++ payVoter) = 0 ∧
      r.voteWeight electing.parameters.voteUnit ≤ r.power) ∧
    voted.check = .ok () ∧ 0 ≤ voted.parameters.accountUpgradeCost ∧
    ∃ r, (voted.after {} payVoter).account? (.repeating 1) = some r ∧
      0 < r.voteWeight voted.parameters.voteUnit ∧
      r.voteWeight voted.parameters.voteUnit ≤ r.power := by
  have hfees : ∀ k, 0 ≤ ({} : Policy).fees.fee k := by
    intro k
    cases k <;> decide
  have hcheck : electing.check = .ok () := rfl
  have hspent : spent {} (.repeating 1) 0 electing voteAndPay = 1 := by decide +kernel
  have hcovered := votes_covered hcheck hfees
    (backed_of_values (by decide +kernel) (.repeating 1)) voteAndPay rfl
  rw [hspent] at hcovered
  have hback : spent {} (.repeating 1) 0 electing (voteAndPay ++ payVoter) = 0 := by decide +kernel
  have hpaid := votes_covered hcheck hfees
    (backed_of_values (by decide +kernel) (.repeating 1)) (voteAndPay ++ payVoter) rfl
  rw [hback, Int.add_zero] at hpaid
  have hvoted : voted.check = .ok () := rfl
  have hcost : 0 ≤ voted.parameters.accountUpgradeCost := by decide
  have hother : ∀ e ∈ payVoter, (Address.repeating 1).bytes ≠ e.contract.owner := by decide
  have hkept := votes_covered hvoted hfees
    (backed_of_values (by decide +kernel) (.repeating 1)) payVoter rfl
  exact ⟨hcheck, hfees, ⟨_, rfl, hspent, hcovered.1⟩, ⟨_, rfl, hback, hpaid.1⟩, hvoted, hcost, _,
    rfl, by decide +kernel, hkept.2 hcost hother⟩

/-- **Votes outlast the voting power they were cast with.** -/
theorem votes_uncovered : ∃ (l : Ledger) (policy : Policy) (history : List Entry) (a : Address)
    (r : Account), l.check = .ok () ∧ 0 < l.parameters.voteUnit ∧
    (∀ k, 0 ≤ policy.fees.fee k) ∧
    (∀ a r, l.account? a = some r → r.voteWeight l.parameters.voteUnit ≤ r.power) ∧
    (l.after policy history).account? a = some r ∧
    ¬ r.voteWeight l.parameters.voteUnit ≤ r.power := by
  refine ⟨electing, {}, voteAndPay, .repeating 1, _, rfl, by decide, ?_,
    backed_of_values (by decide +kernel), rfl, ?_⟩
  · intro k
    cases k <;> decide
  · decide +kernel

end Ledger

end AccountLedger
