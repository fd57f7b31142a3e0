/-
**Locked stake stays locked.**

A freeze locks its amount until the time it promises.  No contract but a freeze or a release of the
same owner touches the lock, and a release is not admissible before the lock expires.  A further
freeze, though, moves the whole lock to the time that it promises itself.  So the first promise is kept
as long as no later freeze promises less, which the network's bounds rule out if they are equal.

Main definitions:

* `FreezeBalance.promise` — the time until which a freeze promises to lock its amount;
* `Account.LockedUntil`, `Ledger.LockedUntil` — something is locked, and none of it expires earlier;
* `Ledger.FreezesReach` — no freeze in a history promises less.

Main results:

* `UnfreezeBalance.Admissible.expired` — **nothing is released before a lock expires**;
* `Ledger.LockedUntil.apply`, `Ledger.LockedUntil.after` — what one contract, and a history, keep locked;
* `Ledger.locked_until_promise` — **a freeze keeps its promise unless a later one promises less**;
* `Ledger.promise_broken` — and not otherwise.
-/

import AccountLedger.Proofs.History
import AccountLedger.Proofs.Records

set_option relaxedAutoImplicit false
set_option autoImplicit false

namespace AccountLedger

/-! ### Promises -/

/-- The time until which a freeze at `now` promises to lock its amount, as an exact integer. -/
def FreezeBalance.promise (c : FreezeBalance) (now : Int64) : Int :=
  now.toInt + c.days.toInt * 86400000

/-- Something is locked in the account, and none of it expires before `t`. -/
structure Account.LockedUntil (r : Account) (t : Int) : Prop where
  locked : r.locks ≠ []
  le_expiry : ∀ k ∈ r.locks, t ≤ k.expiry.toInt

/-- Something is locked in the account under `a`, and none of it expires before `t`. -/
def Ledger.LockedUntil (l : Ledger) (a : Address) (t : Int) : Prop :=
  ∃ r, l.account? a = some r ∧ r.LockedUntil t

namespace Account.LockedUntil

variable {r s : Account} {t : Int}

theorem mono (h : r.LockedUntil t) {t' : Int} (ht : t' ≤ t) : r.LockedUntil t' :=
  ⟨h.locked, fun k hk => Int.le_trans ht (h.le_expiry k hk)⟩

theorem of_locks_eq (h : r.LockedUntil t) (hs : s.locks = r.locks) : s.LockedUntil t :=
  ⟨hs ▸ h.locked, hs ▸ h.le_expiry⟩

/-- No lock has expired before the time they all last until. -/
theorem not_expired (h : r.LockedUntil t) {now : Int64} (hnow : now.toInt < t) :
    r.locks.any (·.isExpired now) = false := by
  refine List.any_eq_false.2 fun k hk hexpired => ?_
  have hexpiry := Int64.le_iff_toInt_le.1 (of_decide_eq_true hexpired)
  have := h.le_expiry k hk
  omega

end Account.LockedUntil

/-! ### One contract -/

section

variable {c : Contract} {ctx : Context} {p : Parameters} {a : Address} {r e : Account} {t : Int}

/-- A merge leaves one lock, with the new expiry. -/
theorem FreezeBalance.Merges.expiry {amount expiry : Int64} {before locks : List Lock}
    (h : Merges amount expiry before locks) :
    locks ≠ [] ∧ ∀ k ∈ locks, k.expiry = expiry := by
  cases h with
  | first => exact ⟨List.cons_ne_nil _ _, List.forall_mem_singleton.2 rfl⟩
  | again lock sum exact => exact ⟨List.cons_ne_nil _ _, List.forall_mem_singleton.2 rfl⟩

/-- The expiry that a freeze computes is the time that it promises. -/
theorem FreezeBalance.toInt_expiry {f : FreezeBalance} {now duration expiry : Int64}
    (hduration : Amount.millisOfDays f.days = .ok duration)
    (hexpiry : Amount.add now duration = .ok expiry) : expiry.toInt = f.promise now := by
  have hday : Amount.millisPerDay.toInt = 86400000 := rfl
  rw [promise, Amount.add_eq_ok_iff.1 hexpiry, Amount.mul_eq_ok_iff.1 hduration, hday]

/-- The lock that a freeze merges into takes the time that the freeze promises. -/
theorem FreezeBalance.lockedUntil {f : FreezeBalance}
    (h : (Contract.freezeBalance f).Edits ctx p r e) : e.LockedUntil (f.promise ctx.now) := by
  obtain ⟨duration, expiry, credit, bandwidth, locks, hduration, hexpiry, hmerged, -, -, rfl⟩ := h
  obtain ⟨hlocked, hexpiries⟩ := hmerged.expiry
  refine ⟨hlocked, fun k hk => ?_⟩
  have hreach := congrArg Int64.toInt (hexpiries k hk)
  exact Int.le_of_eq (hreach.trans (toInt_expiry hduration hexpiry)).symm

/-- What is locked stays locked until `t`, if its owner releases nothing and freezes nothing for
less. -/
theorem Contract.Rewrites.lockedUntil {after : Option Account} (h : c.Rewrites ctx p a (some r) after)
    (hr : r.LockedUntil t) (hrelease : a.bytes = c.owner → c.kind ≠ .unfreezeBalance)
    (hfreeze : ∀ f, c = .freezeBalance f → a.bytes = f.owner → t ≤ f.promise ctx.now) :
    ∃ r', after = some r' ∧ r'.LockedUntil t := by
  cases h with
  | other _ r' owner_ne same => exact ⟨r', rfl, hr.of_locks_eq same.locks⟩
  | owner _ e r' owner_eq edit same =>
      refine ⟨r', rfl, Account.LockedUntil.of_locks_eq ?_ same.locks⟩
      by_cases hkind : c.kind = .freezeBalance
      · cases c with
        | freezeBalance f => exact (FreezeBalance.lockedUntil edit).mono (hfreeze f rfl owner_eq)
        | _ => cases hkind
      · exact hr.of_locks_eq (edit.locks_eq hkind (hrelease owner_eq))

/-- **Nothing is released before a lock expires.** -/
theorem UnfreezeBalance.Admissible.expired {u : UnfreezeBalance} {l : Ledger}
    (h : u.Admissible ctx l) (howner : a.bytes = u.owner) (hl : l.LockedUntil a t) :
    t ≤ ctx.now.toInt := by
  obtain ⟨owner, account, released, balance, owner_eq, found, -, expired, -, -, -⟩ := h
  obtain ⟨r, hr, hlocked⟩ := hl
  obtain rfl := Address.ext (owner_eq.trans howner.symm)
  obtain rfl := Option.some.inj (found.symm.trans hr)
  refine Int.not_lt.1 fun hnow => ?_
  rw [hlocked.not_expired hnow] at expired
  cases expired

namespace Ledger

variable {l : Ledger} {policy : Policy} {now : Int64}

/-- A release before the time that a lock lasts until does not succeed. -/
theorem LockedUntil.not_released (h : l.LockedUntil a t) (hnow : now.toInt < t)
    {u : UnfreezeBalance} (howner : a.bytes = u.owner) (receipt : Receipt) :
    (Engine.apply (.unfreezeBalance u) ⟨now, policy⟩ l).1 ≠ .ok receipt := by
  have happlies := Engine.applies_apply (.unfreezeBalance u) ⟨now, policy⟩ l
  generalize Engine.apply (.unfreezeBalance u) ⟨now, policy⟩ l = outcome at happlies ⊢
  cases happlies with
  | succeeded l' admissible done =>
      exact absurd (UnfreezeBalance.Admissible.expired admissible howner h) (Int.not_le.2 hnow)
  | _ => exact nofun

/-- One contract, whatever becomes of it, keeps locked what is to be locked for longer, if it is no
freeze that succeeds and promises less. -/
theorem LockedUntil.apply (h : l.LockedUntil a t) (hl : l.AccountsKeyed) (hnow : now.toInt < t)
    (hfreeze : ∀ f receipt, c = .freezeBalance f → a.bytes = f.owner →
      (Engine.apply c ⟨now, policy⟩ l).1 = .ok receipt → t ≤ f.promise now) :
    (Engine.apply c ⟨now, policy⟩ l).2.LockedUntil a t := by
  have happlies := Engine.applies_apply c ⟨now, policy⟩ l
  generalize Engine.apply c ⟨now, policy⟩ l = outcome at happlies hfreeze ⊢
  cases happlies with
  | rejected reason => exact h
  | unpaid receipt fault recorded => exact h
  | paid b fault l' rule owner_eq charged =>
      obtain ⟨r, hr, hlocked⟩ := h
      obtain ⟨r', hr', hsame⟩ := (charged.sameRecords hl).account a r hr
      exact ⟨r', hr', hlocked.of_locks_eq hsame.locks⟩
  | succeeded l' admissible done =>
      have hrewrites := done.rewrites hl admissible.not_reopens a
      have hrelease : a.bytes = c.owner → c.kind ≠ .unfreezeBalance := by
        intro howner hkind
        cases c with
        | unfreezeBalance u =>
            exact absurd (UnfreezeBalance.Admissible.expired admissible howner h)
              (Int.not_le.2 hnow)
        | _ => cases hkind
      obtain ⟨r, hr, hlocked⟩ := h
      rw [hr] at hrewrites
      exact hrewrites.lockedUntil hlocked hrelease fun f hf howner => hfreeze f _ hf howner rfl

/-- A freeze that succeeds locks until the time it promises. -/
theorem lockedUntil_of_freeze {f : FreezeBalance} {receipt : Receipt} {l' : Ledger}
    (hl : l.AccountsKeyed) (howner : a.bytes = f.owner)
    (h : Engine.apply (.freezeBalance f) ⟨now, policy⟩ l = (.ok receipt, l')) :
    l'.LockedUntil a (f.promise now) ∧
      l.parameters.minFrozenTime.toInt ≤ f.days.toInt ∧
      f.days.toInt ≤ l.parameters.maxFrozenTime.toInt := by
  have happlies := Engine.applies_apply (.freezeBalance f) ⟨now, policy⟩ l
  rw [h] at happlies
  cases happlies with
  | succeeded _ admissible done =>
      have hrewrites := done.rewrites hl admissible.not_reopens a
      obtain ⟨owner, account, -, -, owner_eq, found, -, -, -, -, days_ge, days_le, -, -, -, -⟩ :=
        admissible
      obtain rfl := Address.ext (owner_eq.trans howner.symm)
      refine ⟨?_, days_ge, days_le⟩
      rw [found] at hrewrites
      generalize hr' : l'.account? owner = after at hrewrites
      cases hrewrites with
      | owner _ e r' _ edit same =>
          exact ⟨r', hr', (FreezeBalance.lockedUntil edit).of_locks_eq same.locks⟩
      | other _ r' owner_ne same => exact absurd howner owner_ne

end Ledger

end

/-! ### Histories -/

namespace Ledger

variable {l : Ledger} {policy : Policy} {a : Address} {t : Int}

/-- In the history from a ledger, every freeze of `a` that succeeds promises to lock until `t` at
least. -/
def FreezesReach (policy : Policy) (a : Address) (t : Int) : Ledger → List Entry → Prop
  | _, [] => True
  | l, e :: history =>
      (∀ f receipt, e.contract = .freezeBalance f → a.bytes = f.owner →
        (Engine.apply e.contract ⟨e.now, policy⟩ l).1 = .ok receipt → t ≤ f.promise e.now) ∧
      FreezesReach policy a t (Engine.apply e.contract ⟨e.now, policy⟩ l).2 history

/-- Every freeze reaches as far as the least duration that the network allows. -/
theorem freezesReach_of_least {history : List Entry}
    (h : ∀ e ∈ history, t ≤ e.now.toInt + l.parameters.minFrozenTime.toInt * 86400000)
    (hl : l.AccountsKeyed) : FreezesReach policy a t l history := by
  induction history generalizing l with
  | nil => exact trivial
  | cons e history ih =>
      obtain ⟨he, hrest⟩ := List.forall_mem_cons.1 h
      obtain ⟨-, hparameters⟩ := @Engine.fixed_apply e.contract ⟨e.now, policy⟩ l
      refine ⟨?_, ih (hparameters ▸ hrest) (Engine.accountsKeyed_apply hl)⟩
      intro f receipt hf howner hok
      rw [hf] at hok
      obtain ⟨-, hdays, -⟩ := lockedUntil_of_freeze hl howner (Prod.ext hok rfl)
      unfold FreezeBalance.promise
      omega

/-- **A history keeps locked** what is to be locked for longer, if no freeze in it promises less. -/
theorem LockedUntil.after (h : l.LockedUntil a t) (hl : l.AccountsKeyed) {history : List Entry}
    (hnow : ∀ e ∈ history, e.now.toInt < t) (hreach : FreezesReach policy a t l history) :
    (l.after policy history).LockedUntil a t := by
  induction history generalizing l with
  | nil => exact h
  | cons e history ih =>
      obtain ⟨he, hrest⟩ := List.forall_mem_cons.1 hnow
      exact ih (h.apply hl he hreach.1) (Engine.accountsKeyed_apply hl) hrest hreach.2

/-- **A freeze keeps its promise unless a later one promises less.**  After a freeze that succeeds, on
any ledger with its accounts under their own address, and whatever is carried out between it and a time
before the promised one, the lock is there and lasts until the promised time at least, and no release
succeeds.  The condition on later freezes holds by itself where the network allows for one duration
only. -/
theorem locked_until_promise {f : FreezeBalance} {time n : Int64} {receipt : Receipt} {l' : Ledger}
    (hl : l.AccountsKeyed) (howner : a.bytes = f.owner)
    (hfreeze : Engine.apply (.freezeBalance f) ⟨time, policy⟩ l = (.ok receipt, l'))
    (between : List Entry)
    (hclock : ∀ e ∈ between, time.toInt ≤ e.now.toInt ∧ e.now.toInt ≤ n.toInt)
    (hn : n.toInt < f.promise time)
    (hagain : FreezesReach policy a (f.promise time) l' between ∨
      l.parameters.minFrozenTime = l.parameters.maxFrozenTime) :
    (l'.after policy between).LockedUntil a (f.promise time) ∧
      ∀ u receipt, a.bytes = u.owner →
        (Engine.apply (.unfreezeBalance u) ⟨n, policy⟩ (l'.after policy between)).1
          ≠ .ok receipt := by
  have hkeyed : l'.AccountsKeyed := by
    have := @Engine.accountsKeyed_apply (.freezeBalance f) ⟨time, policy⟩ l hl
    rwa [hfreeze] at this
  have hparameters : l'.parameters = l.parameters := by
    have := (@Engine.fixed_apply (.freezeBalance f) ⟨time, policy⟩ l).2
    rwa [hfreeze] at this
  obtain ⟨hlocked, hmin, hmax⟩ := lockedUntil_of_freeze hl howner hfreeze
  have hreach : FreezesReach policy a (f.promise time) l' between := by
    rcases hagain with hreach | hequal
    · exact hreach
    · -- All freezes last equally long, and the later ones start no earlier.
      refine freezesReach_of_least (fun e he => ?_) hkeyed
      have hafter := (hclock e he).1
      rw [← hequal] at hmax
      rw [hparameters]
      unfold FreezeBalance.promise
      omega
  have hbefore (e : Entry) (he : e ∈ between) : e.now.toInt < f.promise time :=
    Int.lt_of_le_of_lt (hclock e he).2 hn
  have hafter := hlocked.after hkeyed hbefore hreach
  exact ⟨hafter, fun u receipt howner => hafter.not_released hn howner receipt⟩

/-- An account freezes for three days, and again a little later; nothing is released on the next day. -/
theorem locked_until_promise_small : ∃ (f : FreezeBalance) (u : UnfreezeBalance) (l' : Ledger),
    small.AccountsKeyed ∧ f.promise 0 = 259200000 ∧ u.owner = f.owner ∧
    Engine.apply (.freezeBalance f) ⟨0, {}⟩ small = (.ok ⟨0, .success⟩, l') ∧
    ∀ receipt, (Engine.apply (.unfreezeBalance u) ⟨86400000, {}⟩
      (l'.after {} [⟨5, .freezeBalance f⟩])).1 ≠ .ok receipt := by
  have hkeyed := (check_eq_ok_iff.1 check_small).accountsKeyed
  have hfreeze : (Engine.apply (.freezeBalance ⟨(Address.repeating 1).bytes, 1000000, 3⟩)
      ⟨0, {}⟩ small).1 = .ok ⟨0, .success⟩ := rfl
  have hlocked := locked_until_promise hkeyed rfl (Prod.ext hfreeze rfl)
    [⟨5, .freezeBalance ⟨(Address.repeating 1).bytes, 1000000, 3⟩⟩] (n := 86400000)
    (by decide) (by decide) (.inr rfl)
  exact ⟨_, ⟨(Address.repeating 1).bytes⟩, _, hkeyed, rfl, rfl, Prod.ext hfreeze rfl,
    fun receipt => hlocked.2 _ receipt rfl⟩

/-- The small ledger, with freezes for three to ten days. -/
def lenient : Ledger := { small with parameters := { maxFrozenTime := 10 } }

/-- **A later freeze for less breaks the promise**: an account freezes for ten days and then again for
three, and everything is released after three days. -/
theorem promise_broken : ∃ (f g : FreezeBalance) (u : UnfreezeBalance) (n : Int64) (l l' l'' : Ledger),
    lenient.check = .ok () ∧ 0 ≤ lenient.parameters.minFrozenTime ∧
    lenient.parameters.minFrozenTime ≤ lenient.parameters.maxFrozenTime ∧
    g.owner = f.owner ∧ u.owner = f.owner ∧
    Engine.apply (.freezeBalance f) ⟨0, {}⟩ lenient = (.ok ⟨0, .success⟩, l) ∧
    Engine.apply (.freezeBalance g) ⟨0, {}⟩ l = (.ok ⟨0, .success⟩, l') ∧
    Engine.apply (.unfreezeBalance u) ⟨n, {}⟩ l' = (.ok ⟨0, .success⟩, l'') ∧
    n.toInt < f.promise 0 ∧ l''.balance? (.repeating 1) = lenient.balance? (.repeating 1) :=
  ⟨⟨(Address.repeating 1).bytes, 1000000, 10⟩, ⟨(Address.repeating 1).bytes, 1000000, 3⟩,
    ⟨(Address.repeating 1).bytes⟩, 259200000, _, _, _, rfl, by decide, by decide, rfl, rfl,
    Prod.ext rfl rfl, Prod.ext rfl rfl, Prod.ext rfl rfl, by decide, rfl⟩

end Ledger

end AccountLedger
