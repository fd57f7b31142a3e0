/-
**What is locked is what was frozen.**

An account has one lock at most, into which every freeze is merged.  The lock forgets the single
freezes, so this module remembers them beside the ledger: every freeze that succeeds adds a stake, and a
release that succeeds takes all stakes.  The lock is then the stakes together, and lasts as long as the
last of them.

Main definitions:

* `Stake`, `Stake.total` — an amount that is frozen until a time, and the amounts of a row of stakes;
* `Stake.Merged` — a row of stakes as the locks of an account;
* `Ledger.restake`, `Ledger.standing` — the stakes of an account after one contract, and after a
  history.

Main results:

* `Contract.Effect.merged`, `Engine.merged_apply` — an effect, and a checked contract, keep locks and
  stakes together;
* `Ledger.merged_after` — so does a history;
* `Ledger.locks_are_stakes` — **the lock is what was frozen since the last release, and a release pays
  out exactly that.**
-/

import AccountLedger.Proofs.Balances
import AccountLedger.Proofs.Consistency
import AccountLedger.Proofs.Lockup

set_option relaxedAutoImplicit false
set_option autoImplicit false

namespace AccountLedger

/-! ### Stakes -/

/-- An amount that is frozen until a time, both as exact integers. -/
structure Stake where
  amount : Int
  expiry : Int
  deriving DecidableEq, Repr

namespace Stake

/-- What is in a lock, as a stake. -/
def ofLock (k : Lock) : Stake := ⟨k.amount.toInt, k.expiry.toInt⟩

/-- The amounts of the stakes together. -/
def total (stakes : List Stake) : Int := Amount.total (stakes.map (·.amount))

/-- The stakes of an account as its locks: no stakes are no lock, and others are one lock over their
amounts together, with the expiry of the last. -/
inductive Merged : List Stake → List Lock → Prop
  | none : Merged [] []
  | one (earlier : List Stake) (last : Stake) (lock : Lock)
      (amount : lock.amount.toInt = total (earlier ++ [last]))
      (expiry : lock.expiry.toInt = last.expiry) : Merged (earlier ++ [last]) [lock]

theorem total_concat (stakes : List Stake) (s : Stake) :
    total (stakes ++ [s]) = total stakes + s.amount := by
  simp only [total, List.map_append, List.map_cons, List.map_nil, Amount.total_append,
    Amount.total_cons, Amount.total_nil, Int.add_zero]

/-- One lock at most is the stake that is in it. -/
theorem merged_ofLock {locks : List Lock} (h : locks.length ≤ 1) :
    Merged (locks.map ofLock) locks := by
  match locks, h with
  | [], _ => exact .none
  | [k], _ => exact .one [] (ofLock k) k (Int.add_zero _).symm rfl

namespace Merged

variable {stakes : List Stake} {locks locks' : List Lock} {amount expiry now : Int64}

/-- A freeze adds one stake, which is the last one then. -/
theorem freeze (h : Merged stakes locks) (hmerged : FreezeBalance.Merges amount expiry locks locks') :
    Merged (stakes ++ [⟨amount.toInt, expiry.toInt⟩]) locks' := by
  cases hmerged with
  | first =>
      cases h with
      | none => exact .one [] _ ⟨amount, expiry⟩ (Int.add_zero _).symm rfl
  | again lock sum exact =>
      have hamount : lock.amount.toInt = total stakes := by
        cases h with
        | one earlier last _ amount _ => exact amount
      refine .one stakes _ ⟨sum, expiry⟩ ?_ rfl
      rw [total_concat, ← hamount]
      exact exact

/-- Where a lock has expired, it is the only one, with all stakes in it. -/
theorem of_expired (h : Merged stakes locks) (hexpired : locks.any (·.isExpired now) = true) :
    ∃ lock, locks = [lock] ∧ lock.isExpired now = true ∧ lock.amount.toInt = total stakes := by
  cases h with
  | none => cases hexpired
  | one earlier last lock amount _ =>
      rw [List.any_cons, List.any_nil, Bool.or_false] at hexpired
      exact ⟨lock, rfl, hexpired, amount⟩

/-- So there is no other that has not. -/
theorem filter_of_expired (h : Merged stakes locks)
    (hexpired : locks.any (·.isExpired now) = true) :
    locks.filter (fun k => !k.isExpired now) = [] := by
  obtain ⟨lock, rfl, hlock, -⟩ := h.of_expired hexpired
  refine List.filter_cons_of_neg ?_
  rw [hlock]
  exact Bool.false_ne_true

end Merged

end Stake

/-! ### The stakes of an account -/

/-- What a contract of its owner that succeeds makes of the stakes: a freeze adds one, and a release
takes all. -/
def Contract.restakes (c : Contract) (now : Int64) (stakes : List Stake) : List Stake :=
  match c with
  | .freezeBalance f => stakes ++ [⟨f.amount.toInt, f.promise now⟩]
  | .unfreezeBalance _ => []
  | _ => stakes

namespace Ledger

/-- The locks under an address, none where there is no account. -/
def locksOf (l : Ledger) (a : Address) : List Lock := (l.account? a).elim [] (·.locks)

/-- The stakes of `a` after an entry: others only if it is a contract of `a` that succeeds. -/
def restake (l : Ledger) (policy : Policy) (a : Address) (e : Entry) (stakes : List Stake) :
    List Stake :=
  if a.bytes = e.contract.owner ∧ (Engine.apply e.contract ⟨e.now, policy⟩ l).1.isOk = true then
    e.contract.restakes e.now stakes
  else stakes

/-- The stakes of `a` after a history from a ledger, if these stakes are there before it. -/
def standing (policy : Policy) (a : Address) : Ledger → List Stake → List Entry → List Stake
  | _, stakes, [] => stakes
  | l, stakes, e :: history =>
      standing policy a (Engine.apply e.contract ⟨e.now, policy⟩ l).2
        (l.restake policy a e stakes) history

/-- What is locked in a consistent ledger is one stake at most. -/
theorem Structured.merged {l : Ledger} (h : l.Structured) (a : Address) :
    Stake.Merged ((l.locksOf a).map .ofLock) (l.locksOf a) := by
  refine Stake.merged_ofLock ?_
  rw [locksOf]
  cases hr : l.account? a with
  | none => exact Nat.zero_le 1
  | some r => exact (h.accounts a r hr).oneLock

end Ledger

/-! ### One contract -/

section

variable {c : Contract} {ctx : Context} {l l' : Ledger} {a : Address} {stakes : List Stake}

open Ledger

/-- Only who has an account freezes or releases. -/
theorem Contract.Admissible.restakes_of_absent (h : c.Admissible ctx l) (howner : a.bytes = c.owner)
    (habsent : l.account? a = none) : c.restakes ctx.now stakes = stakes := by
  cases c with
  | freezeBalance f =>
      obtain ⟨owner, account, -, -, owner_eq, found, -⟩ := h
      obtain rfl := Address.ext (owner_eq.trans howner.symm)
      rw [habsent] at found
      cases found
  | unfreezeBalance u =>
      obtain ⟨owner, account, -, -, owner_eq, found, -⟩ := h
      obtain rfl := Address.ext (owner_eq.trans howner.symm)
      rw [habsent] at found
      cases found
  | _ => rfl

/-- What the owner's edit makes of its locks is what its contract makes of its stakes. -/
theorem Contract.Edits.merged {p : Parameters} {r e : Account} (h : c.Edits ctx p r e)
    (hc : c.Admissible ctx l) (howner : a.bytes = c.owner) (hr : l.account? a = some r)
    (hstakes : Stake.Merged stakes r.locks) : Stake.Merged (c.restakes ctx.now stakes) e.locks := by
  cases c with
  | freezeBalance f =>
      obtain ⟨duration, expiry, -, -, locks, hduration, hexpiry, hmerged, -, -, rfl⟩ := h
      rw [Contract.restakes, ← FreezeBalance.toInt_expiry hduration hexpiry]
      exact hstakes.freeze hmerged
  | unfreezeBalance u =>
      obtain rfl := h
      obtain ⟨owner, account, -, -, owner_eq, found, -, expired, -⟩ := hc
      obtain rfl := Address.ext (owner_eq.trans howner.symm)
      obtain rfl := Option.some.inj (found.symm.trans hr)
      show Stake.Merged [] (account.locks.filter fun k => !k.isExpired ctx.now)
      rw [hstakes.filter_of_expired expired]
      exact .none
  | _ =>
      rw [h.locks_eq nofun nofun]
      exact hstakes

/-- What becomes of the record of `a` keeps its locks and stakes together. -/
theorem Contract.Effect.merged (h : c.Effect ctx l l') (hc : c.Admissible ctx l)
    (hl : l.AccountsKeyed) (hstakes : Stake.Merged stakes (l.locksOf a)) :
    Stake.Merged (if a.bytes = c.owner then c.restakes ctx.now stakes else stakes)
      (l'.locksOf a) := by
  have hrewrites := h.rewrites hl hc.not_reopens a
  rw [locksOf] at hstakes ⊢
  generalize hr : l.account? a = before at hrewrites hstakes
  generalize l'.account? a = after at hrewrites ⊢
  have habsent (hr : l.account? a = none) :
      (if a.bytes = c.owner then c.restakes ctx.now stakes else stakes) = stakes := by
    split
    · next howner => exact hc.restakes_of_absent howner hr
    · rfl
  cases hrewrites with
  | absent =>
      rw [habsent hr]
      exact hstakes
  | opened e r' new same =>
      rw [habsent hr, Option.elim_some, same.locks, new.nothing.1]
      exact hstakes
  | owner r e r' owner_eq edit same =>
      rw [if_pos owner_eq, Option.elim_some, same.locks]
      exact edit.merged hc owner_eq hr hstakes
  | other r r' owner_ne same =>
      rw [if_neg owner_ne, Option.elim_some, same.locks]
      exact hstakes

/-- **A checked contract keeps locks and stakes together**, whatever becomes of it. -/
theorem Engine.merged_apply {policy : Policy} {e : Entry} (hl : l.AccountsKeyed)
    (hstakes : Stake.Merged stakes (l.locksOf a)) :
    Stake.Merged (l.restake policy a e stakes)
      ((apply e.contract ⟨e.now, policy⟩ l).2.locksOf a) := by
  rw [restake]
  rcases succeeds_or_not hl e.contract ⟨e.now, policy⟩ with
    ⟨hok, admissible, done⟩ | ⟨hok, hsame⟩
  · simp only [hok, and_true]
    exact done.merged admissible hl hstakes
  · have hlocks : (apply e.contract ⟨e.now, policy⟩ l).2.locksOf a = l.locksOf a :=
      hsame.sameRecords.elim_account?_eq (fun _ _ hsame => hsame.locks) a
    rw [hlocks, if_neg fun h => Bool.false_ne_true (hok.symm.trans h.2)]
    exact hstakes

end

/-! ### Histories -/

namespace Ledger

variable {l : Ledger} {policy : Policy} {a : Address} {stakes : List Stake}

/-- **A history keeps locks and stakes together.** -/
theorem merged_after (hl : l.AccountsKeyed) (policy : Policy)
    (hstakes : Stake.Merged stakes (l.locksOf a)) (history : List Entry) :
    Stake.Merged (standing policy a l stakes history) ((l.after policy history).locksOf a) := by
  induction history generalizing l stakes with
  | nil => exact hstakes
  | cons e history ih =>
      exact ih (Engine.accountsKeyed_apply hl) (Engine.merged_apply hl hstakes)

/-- What a release finds: a lock that has expired.  What it leaves: the same account, bandwidth and all,
with the stakes in its balance, from which the fee is taken, and without a lock. -/
theorem exists_released {u : UnfreezeBalance} {now : Int64} (hl : l.AccountsKeyed)
    (hstakes : Stake.Merged stakes (l.locksOf a)) (howner : a.bytes = u.owner)
    (hok : (Engine.apply (.unfreezeBalance u) ⟨now, policy⟩ l).1.isOk = true) :
    ∃ (r : Account) (lock : Lock) (b : Int64),
      l.account? a = some r ∧ r.locks = [lock] ∧ lock.expiry ≤ now ∧
      (Engine.apply (.unfreezeBalance u) ⟨now, policy⟩ l).2.account? a
        = some { r with balance := b, locks := [] } ∧
      b.toInt = r.balance.toInt + Stake.total stakes - (policy.fees.fee .unfreezeBalance).toInt
        + if a = l.sink then (policy.fees.fee .unfreezeBalance).toInt else 0 := by
  rcases Engine.succeeds_or_not hl (.unfreezeBalance u) ⟨now, policy⟩ with
    ⟨-, admissible, done⟩ | ⟨hfailed, -⟩
  · obtain ⟨owner, r, -, -, owner_eq, found, -, expired, -⟩ := admissible
    obtain ⟨owner', r', released, balance, owner_eq', found', released_eq, balance_eq, charged⟩ :=
      done
    obtain rfl := Address.ext (owner_eq.trans howner.symm)
    obtain rfl := Address.ext (owner_eq'.trans howner.symm)
    obtain rfl := Option.some.inj (found'.symm.trans found)
    rw [locksOf, found, Option.elim_some] at hstakes
    obtain ⟨lock, hlocks, hexpired, hamount⟩ := hstakes.of_expired expired
    have hnone := hstakes.filter_of_expired expired
    have hreleased : released.toInt = Stake.total stakes := by
      have htotal := Account.toInt_of_released released_eq
      rw [hnone, Account.lockedUnits, hlocks] at htotal
      exact (Int.add_zero _).symm.trans (htotal.trans ((Int.add_zero _).trans hamount))
    obtain ⟨b, hb, hexact⟩ := charged.account?_of_put hl found rfl
    rw [hnone] at hb
    refine ⟨r', lock, b, found, hlocks, of_decide_eq_true hexpired, hb, ?_⟩
    rw [hexact, balance_eq, hreleased]
    rfl
  · rw [hok] at hfailed
    cases hfailed

/-- **The lock is what was frozen since the last release.**  After every history of checked contracts,
whatever becomes of each, on a consistent ledger: there is a lock iff stakes are standing, those that
were there at first or were frozen later and are not released yet; its amount is theirs together, and
its expiry is that of the last.  A release succeeds only once the lock has expired.  It pays out exactly
the stakes, takes the fee, and leaves no lock, and all else in the account as it was. -/
theorem locks_are_stakes (hl : l.check = .ok ()) (policy : Policy) (history : List Entry)
    (a : Address) {m : Ledger} (hm : l.after policy history = m) {stakes : List Stake}
    (hstakes : standing policy a l ((l.locksOf a).map .ofLock) history = stakes) :
    Stake.Merged stakes (m.locksOf a) ∧
    ∀ (u : UnfreezeBalance) (now : Int64), a.bytes = u.owner →
      (Engine.apply (.unfreezeBalance u) ⟨now, policy⟩ m).1.isOk = true →
      ∃ (r : Account) (lock : Lock) (b : Int64),
        m.account? a = some r ∧ r.locks = [lock] ∧ lock.expiry ≤ now ∧
        (Engine.apply (.unfreezeBalance u) ⟨now, policy⟩ m).2.account? a
          = some { r with balance := b, locks := [] } ∧
        b.toInt = r.balance.toInt + Stake.total stakes - (policy.fees.fee .unfreezeBalance).toInt
          + if a = l.sink then (policy.fees.fee .unfreezeBalance).toInt else 0 := by
  subst hm hstakes
  have hstructured := (check_eq_ok_iff.1 hl).toStructured
  have hkeyed := accountsKeyed_after hstructured.accountsKeyed policy history
  have hmerged := merged_after hstructured.accountsKeyed policy (hstructured.merged a) history
  refine ⟨hmerged, fun u now howner hok => ?_⟩
  have hreleased := exists_released hkeyed hmerged howner hok
  rw [sink_after] at hreleased
  exact hreleased

/-- An account freezes twice.  Nothing is released before the second freeze has expired, and then both
amounts are. -/
theorem locks_are_stakes_small : ∃ (f : FreezeBalance) (u : UnfreezeBalance) (m : Ledger)
    (r : Account) (b : Int64),
    small.check = .ok () ∧
    small.after {} [⟨0, .freezeBalance f⟩, ⟨5, .freezeBalance f⟩] = m ∧
    standing {} (.repeating 1) small ((small.locksOf (.repeating 1)).map .ofLock)
        [⟨0, .freezeBalance f⟩, ⟨5, .freezeBalance f⟩]
      = [⟨1000000, 259200000⟩, ⟨1000000, 259200005⟩] ∧
    (Engine.apply (.unfreezeBalance u) ⟨259200004, {}⟩ m).1.isOk = false ∧
    m.account? (.repeating 1) = some r ∧
    (Engine.apply (.unfreezeBalance u) ⟨259200005, {}⟩ m).2.account? (.repeating 1)
      = some { r with balance := b, locks := [] } ∧
    b.toInt = r.balance.toInt + 2000000 := by
  let f : FreezeBalance := ⟨(Address.repeating 1).bytes, 1000000, 3⟩
  have hstakes : standing {} (.repeating 1) small ((small.locksOf (.repeating 1)).map .ofLock)
      [⟨0, .freezeBalance f⟩, ⟨5, .freezeBalance f⟩]
        = [⟨1000000, 259200000⟩, ⟨1000000, 259200005⟩] := by decide +kernel
  obtain ⟨-, hrelease⟩ := locks_are_stakes check_small {} _ _ rfl hstakes
  obtain ⟨r, lock, b, hr, -, -, hafter, hexact⟩ :=
    hrelease ⟨(Address.repeating 1).bytes⟩ 259200005 rfl (by decide +kernel)
  refine ⟨f, _, _, r, b, check_small, rfl, hstakes, by decide +kernel, hr, hafter, ?_⟩
  have htotal : Stake.total [⟨1000000, 259200000⟩, ⟨1000000, 259200005⟩] = 2000000 := rfl
  have hfee : (({} : Policy).fees.fee .unfreezeBalance).toInt = 0 := rfl
  rw [htotal, hfee, ite_self] at hexact
  omega

end Ledger

end AccountLedger
