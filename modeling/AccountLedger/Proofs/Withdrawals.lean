/-
**Withdrawals keep their distance.**

A witness withdraws its whole allowance at once, and then only after the cooldown has passed since its
last withdrawal.  The time of that withdrawal is noted in its account, where nothing but its next
withdrawal replaces it: no other contract of anybody, and no reward that accrues in between.

Main definitions:

* `Event`, `Ledger.afterEvents` — a contract or an accrual of reward, and a ledger after a row of them;
* `Ledger.Withdraws`, `Ledger.NoWithdrawal` — a withdrawal of an account that succeeds, and a row of
  events without one.

Main results:

* `Ledger.Withdraws.exists_record` — what a withdrawal makes of its account, and that it is cooled down;
* `Ledger.accrued_apply` — no other contract touches allowances and withdrawal times;
* `Ledger.NoWithdrawal.latestWithdrawal` — nor does any row of events without a withdrawal touch the
  latter;
* `Ledger.withdrawals_apart` — **two withdrawals of one account are a cooldown apart.**
-/

import AccountLedger.Proofs.Balances
import AccountLedger.Proofs.Consistency
import AccountLedger.Proofs.History

set_option relaxedAutoImplicit false
set_option autoImplicit false

namespace AccountLedger

/-! ### Rows of contracts and accruals -/

/-- What changes a ledger: a contract, or reward that accrues, or is corrected, from outside. -/
inductive Event
  | contract (e : Entry)
  | accrual (a : Address) (allowance : Int64)
  deriving DecidableEq

namespace Ledger

/-- The ledger with another allowance under an address, if there is an account. -/
def accrue (l : Ledger) (a : Address) (allowance : Int64) : Ledger :=
  match l.account? a with
  | none => l
  | some r => l.putAccount { r with allowance := allowance }

/-- The ledger after an event. -/
def afterEvent (l : Ledger) (policy : Policy) : Event → Ledger
  | .contract e => (Engine.apply e.contract ⟨e.now, policy⟩ l).2
  | .accrual a allowance => l.accrue a allowance

/-- The ledger after a row of events. -/
def afterEvents (l : Ledger) (policy : Policy) (events : List Event) : Ledger :=
  events.foldl (·.afterEvent policy) l

/-- The entry is a withdrawal by the account under `a`, and it succeeds on the ledger. -/
def Withdraws (policy : Policy) (a : Address) (l : Ledger) (e : Entry) : Prop :=
  ∃ w, e.contract = .withdrawBalance w ∧ a.bytes = w.owner ∧
    (Engine.apply e.contract ⟨e.now, policy⟩ l).1.isOk = true

/-- In the row of events from a ledger, no withdrawal by the account under `a` succeeds. -/
def NoWithdrawal (policy : Policy) (a : Address) : Ledger → List Event → Prop
  | _, [] => True
  | l, e :: events =>
      (∀ entry, e = .contract entry → ¬ Withdraws policy a l entry) ∧
        NoWithdrawal policy a (l.afterEvent policy e) events

variable {l : Ledger} {policy : Policy} {a b : Address} {r : Account}

/-! ### Accruals -/

theorem AccountsKeyed.accrue (hl : l.AccountsKeyed) (b : Address) (allowance : Int64) :
    (l.accrue b allowance).AccountsKeyed := by
  unfold Ledger.accrue
  split
  · exact hl
  · exact hl.putAccount _

/-- An accrual keeps every record but for its allowance. -/
theorem AccountsKeyed.account?_accrue (hl : l.AccountsKeyed) (hr : l.account? a = some r)
    (b : Address) (allowance : Int64) :
    ∃ n, (l.accrue b allowance).account? a = some { r with allowance := n } := by
  unfold Ledger.accrue
  split
  · exact ⟨r.allowance, hr⟩
  · next s hs =>
      by_cases hab : a = b
      · rw [hab, hs] at hr
        cases hr
        exact ⟨allowance, hab ▸ hl.account?_putAccount hs rfl⟩
      · have hne : a ≠ ({ s with allowance := allowance } : Account).address :=
          fun h => hab (h.trans (hl b s hs))
        exact ⟨r.allowance, (account?_putAccount_of_ne hne).trans hr⟩

theorem fixed_accrue (l : Ledger) (b : Address) (allowance : Int64) :
    (l.accrue b allowance).sink = l.sink ∧ (l.accrue b allowance).parameters = l.parameters := by
  unfold accrue
  split
  · exact ⟨rfl, rfl⟩
  · exact ⟨rfl, rfl⟩

/-! ### Any event -/

theorem AccountsKeyed.afterEvent (hl : l.AccountsKeyed) (e : Event) :
    (l.afterEvent policy e).AccountsKeyed := by
  cases e with
  | contract e => exact Engine.accountsKeyed_apply hl
  | accrual b allowance => exact hl.accrue b allowance

theorem AccountsKeyed.afterEvents (hl : l.AccountsKeyed) (events : List Event) :
    (l.afterEvents policy events).AccountsKeyed := by
  induction events generalizing l with
  | nil => exact hl
  | cons e events ih => exact ih (hl.afterEvent e)

/-- No row of events changes the sink or the parameters. -/
theorem fixed_afterEvents (l : Ledger) (policy : Policy) (events : List Event) :
    (l.afterEvents policy events).sink = l.sink ∧
      (l.afterEvents policy events).parameters = l.parameters := by
  induction events generalizing l with
  | nil => exact ⟨rfl, rfl⟩
  | cons e events ih =>
      have hstep : (l.afterEvent policy e).sink = l.sink ∧
          (l.afterEvent policy e).parameters = l.parameters := by
        cases e with
        | contract e => exact Engine.fixed_apply
        | accrual b allowance => exact fixed_accrue l b allowance
      obtain ⟨hsink, hparameters⟩ := ih (l.afterEvent policy e)
      exact ⟨hsink.trans hstep.1, hparameters.trans hstep.2⟩

end Ledger

/-! ### Who touches allowances and withdrawal times -/

/-- Only a withdrawal edits the allowance and the time of the last withdrawal. -/
theorem Contract.Edits.accrued_eq {c : Contract} {ctx : Context} {p : Parameters} {r e : Account}
    (h : c.Edits ctx p r e) (hkind : c.kind ≠ .withdrawBalance) :
    (e.allowance, e.latestWithdrawal) = (r.allowance, r.latestWithdrawal) :=
  h.keeps (f := fun r => (r.allowance, r.latestWithdrawal)) (fun _ _ _ => rfl) (fun _ _ => rfl)
    (fun _ => rfl) (fun _ _ => rfl) (fun _ _ => rfl) fun h => absurd h hkind

/-- Nor is either of them a fund. -/
theorem Account.SameButFunds.accrued_eq {r s : Account} (h : r.SameButFunds s) :
    (s.allowance, s.latestWithdrawal) = (r.allowance, r.latestWithdrawal) :=
  h.keeps (f := fun r => (r.allowance, r.latestWithdrawal)) fun _ _ => rfl

namespace Ledger

variable {l : Ledger} {policy : Policy} {a : Address} {r : Account} {e : Entry}

theorem withdraws_of_kind (hkind : e.contract.kind = .withdrawBalance)
    (howner : a.bytes = e.contract.owner)
    (hok : (Engine.apply e.contract ⟨e.now, policy⟩ l).1.isOk = true) : Withdraws policy a l e := by
  obtain ⟨now, c⟩ := e
  cases c with
  | withdrawBalance w => exact ⟨w, rfl, howner, hok⟩
  | _ => cases hkind

/-- What a withdrawal finds: an account that is cooled down.  What it leaves: the same account with its
whole allowance moved into its balance, from which the fee is taken, and with the time noted. -/
theorem Withdraws.exists_record (h : Withdraws policy a l e) (hl : l.AccountsKeyed) :
    ∃ (r : Account) (b : Int64), l.account? a = some r ∧
      l.parameters.withdrawalCooldown.toInt * 86400000
        ≤ e.now.toInt - r.latestWithdrawal.toInt ∧
      (l.afterEvent policy (.contract e)).account? a
        = some { r with balance := b, allowance := 0, latestWithdrawal := e.now } ∧
      b.toInt = r.balance.toInt + r.allowance.toInt - (policy.fees.fee .withdrawBalance).toInt
        + if a = l.sink then (policy.fees.fee .withdrawBalance).toInt else 0 := by
  obtain ⟨now, c⟩ := e
  obtain ⟨w, hkind, howner, hok⟩ := h
  obtain rfl : c = .withdrawBalance w := hkind
  rcases Engine.succeeds_or_not hl (.withdrawBalance w) ⟨now, policy⟩ with
    ⟨-, admissible, done⟩ | ⟨hfailed, -⟩
  · obtain ⟨owner, r, cooldown, elapsed, -, owner_eq, found, -, cooldown_eq, elapsed_eq, cooled, -⟩ :=
      admissible
    obtain ⟨owner', r', balance, owner_eq', found', balance_eq, charged⟩ := done
    obtain rfl := Address.ext (owner_eq.trans howner.symm)
    obtain rfl := Address.ext (owner_eq'.trans howner.symm)
    obtain rfl := Option.some.inj (found'.symm.trans found)
    obtain ⟨b, hb, hexact⟩ := charged.account?_of_put hl found rfl
    have hcooldown := Amount.mul_eq_ok_iff.1 cooldown_eq
    rw [show Amount.millisPerDay.toInt = 86400000 from rfl] at hcooldown
    refine ⟨r', b, found, ?_, hb, ?_⟩
    · rw [← hcooldown]
      exact elapsed_eq ▸ cooled
    · rw [hexact, balance_eq]
      rfl
  · have hok : (Engine.apply (.withdrawBalance w) ⟨now, policy⟩ l).1.isOk = true := hok
    rw [hok] at hfailed
    cases hfailed

/-- **No other contract touches the allowance or the withdrawal time** of an account that there is. -/
theorem accrued_apply (hl : l.AccountsKeyed) (hr : l.account? a = some r)
    (hother : ¬ Withdraws policy a l e) :
    ∃ r', (l.afterEvent policy (.contract e)).account? a = some r' ∧ r'.allowance = r.allowance ∧
      r'.latestWithdrawal = r.latestWithdrawal := by
  rcases Engine.succeeds_or_not hl e.contract ⟨e.now, policy⟩ with
    ⟨hok, admissible, done⟩ | ⟨-, hsame⟩
  · have hrewrites := done.rewrites hl admissible.not_reopens a
    rw [hr] at hrewrites
    rw [afterEvent]
    generalize (Engine.apply e.contract ⟨e.now, policy⟩ l).2.account? a = after at hrewrites ⊢
    cases hrewrites with
    | other r r' owner_ne same =>
        obtain ⟨hallowance, htime⟩ := Prod.mk.inj same.accrued_eq
        exact ⟨r', rfl, hallowance, htime⟩
    | owner r s r' owner_eq edit same =>
        have hkind : e.contract.kind ≠ .withdrawBalance := fun hkind =>
          hother (withdraws_of_kind hkind owner_eq hok)
        obtain ⟨hallowance, htime⟩ := Prod.mk.inj (same.accrued_eq.trans (edit.accrued_eq hkind))
        exact ⟨r', rfl, hallowance, htime⟩
  · obtain ⟨b, hb⟩ := hsame.account a r hr
    exact ⟨_, hb, rfl, rfl⟩

/-- The time of the last withdrawal is kept by every row of events without another. -/
theorem NoWithdrawal.latestWithdrawal {events : List Event} (h : NoWithdrawal policy a l events)
    (hl : l.AccountsKeyed) (hr : l.account? a = some r) :
    ∃ r', (l.afterEvents policy events).account? a = some r' ∧
      r'.latestWithdrawal = r.latestWithdrawal := by
  induction events generalizing l r with
  | nil => exact ⟨r, hr, rfl⟩
  | cons e events ih =>
      obtain ⟨hfirst, hrest⟩ := h
      obtain ⟨s, hs, hsame⟩ : ∃ s, (l.afterEvent policy e).account? a = some s ∧
          s.latestWithdrawal = r.latestWithdrawal := by
        cases e with
        | contract e =>
            obtain ⟨s, hs, -, htime⟩ := accrued_apply hl hr (hfirst e rfl)
            exact ⟨s, hs, htime⟩
        | accrual b allowance =>
            obtain ⟨n, hn⟩ := hl.account?_accrue hr b allowance
            exact ⟨_, hn, rfl⟩
      obtain ⟨r', hr', htime⟩ := ih hrest (hl.afterEvent e) hs
      exact ⟨r', hr', htime.trans hsame⟩

/-- **Two withdrawals of one account are a cooldown apart**, however many contracts of whomsoever and
accruals there are between them, at whatever times, if no other withdrawal of it succeeds there.  Each
moves the whole allowance into the balance, from which the fee is taken, and notes its time; every
other contract leaves the allowances and withdrawal times of all accounts as they are. -/
theorem withdrawals_apart (hl : l.AccountsKeyed) (policy : Policy) (before : List Event) {m : Ledger}
    (hm : l.afterEvents policy before = m) :
    (∀ (a : Address) (first second : Entry) (between : List Event),
      Withdraws policy a m first →
      NoWithdrawal policy a (m.afterEvent policy (.contract first)) between →
      Withdraws policy a ((m.afterEvent policy (.contract first)).afterEvents policy between) second →
      l.parameters.withdrawalCooldown.toInt * 86400000 ≤ second.now.toInt - first.now.toInt) ∧
    (∀ (a : Address) (e : Entry), Withdraws policy a m e → ∃ (r : Account) (b : Int64),
      m.account? a = some r ∧
      (m.afterEvent policy (.contract e)).account? a
        = some { r with balance := b, allowance := 0, latestWithdrawal := e.now } ∧
      b.toInt = r.balance.toInt + r.allowance.toInt - (policy.fees.fee .withdrawBalance).toInt
        + if a = l.sink then (policy.fees.fee .withdrawBalance).toInt else 0) ∧
    (∀ (a : Address) (r : Account) (e : Entry), m.account? a = some r → ¬ Withdraws policy a m e →
      ∃ r', (m.afterEvent policy (.contract e)).account? a = some r' ∧
        r'.allowance = r.allowance ∧ r'.latestWithdrawal = r.latestWithdrawal) := by
  have hkeyed : (l.afterEvents policy before).AccountsKeyed := hl.afterEvents before
  have hbefore := fixed_afterEvents l policy before
  rw [hm] at hkeyed hbefore
  refine ⟨fun a first second between hfirst hnone hsecond => ?_, fun a e h => ?_,
    fun a r e hr hother => accrued_apply hkeyed hr hother⟩
  · have hnext : (m.afterEvent policy (.contract first)).AccountsKeyed :=
      hkeyed.afterEvent (.contract first)
    obtain ⟨s, b, -, -, hnoted, -⟩ := hfirst.exists_record hkeyed
    obtain ⟨r, hr, htime⟩ := hnone.latestWithdrawal hnext hnoted
    obtain ⟨t, -, ht, hcooled, -⟩ := hsecond.exists_record (hnext.afterEvents between)
    -- The second withdrawal finds the time that the first one noted.
    obtain rfl := Option.some.inj (ht.symm.trans hr)
    have hfixed := fixed_afterEvents m policy (.contract first :: between)
    have hcooldown : ((m.afterEvent policy (.contract first)).afterEvents policy between).parameters
        = l.parameters := hfixed.2.trans hbefore.2
    rw [hcooldown, htime] at hcooled
    exact hcooled
  · obtain ⟨r, b, hr, -, hafter, hexact⟩ := h.exists_record hkeyed
    rw [hbefore.1] at hexact
    exact ⟨r, b, hr, hafter, hexact⟩

/-- The small ledger, with a witness that has an allowance of seven. -/
def rewarding : Ledger :=
  (small.accrue (.repeating 2) 7).putWitness ⟨.repeating 2, "", 0⟩

/-- A witness withdraws, is paid and withdraws again just a day later, but not before that. -/
theorem withdrawals_apart_small : ∃ (first second : Entry) (between : List Event),
    rewarding.AccountsKeyed ∧ Withdraws {} (.repeating 2) rewarding first ∧
    NoWithdrawal {} (.repeating 2) (rewarding.afterEvent {} (.contract first)) between ∧
    Withdraws {} (.repeating 2)
      ((rewarding.afterEvent {} (.contract first)).afterEvents {} between) second ∧
    86400000 ≤ second.now.toInt - first.now.toInt := by
  let w : Contract := .withdrawBalance ⟨(Address.repeating 2).bytes⟩
  let first : Entry := ⟨86400000, w⟩
  let second : Entry := ⟨172800000, w⟩
  let between : List Event := [.accrual (.repeating 2) 5, .contract ⟨172799999, w⟩]
  have hkeyed : rewarding.AccountsKeyed :=
    ((check_eq_ok_iff.1 check_small).accountsKeyed.accrue (.repeating 2) 7).putWitness _
  have hfirst : Withdraws {} (.repeating 2) rewarding first := ⟨_, rfl, rfl, by decide +kernel⟩
  have hnone : NoWithdrawal {} (.repeating 2) (rewarding.afterEvent {} (.contract first)) between := by
    refine ⟨nofun, ?_, trivial⟩
    intro entry hentry
    cases hentry
    rintro ⟨_, -, -, hok⟩
    revert hok
    decide +kernel
  have hsecond : Withdraws {} (.repeating 2)
      ((rewarding.afterEvent {} (.contract first)).afterEvents {} between) second :=
    ⟨_, rfl, rfl, by decide +kernel⟩
  exact ⟨first, second, between, hkeyed, hfirst, hnone, hsecond,
    (withdrawals_apart hkeyed {} [] rfl).1 _ first second between hfirst hnone hsecond⟩

end Ledger

end AccountLedger
