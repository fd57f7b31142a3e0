/-
**The fee of a transfer.**

A transfer takes amount and fee from its owner in one step, and gives the sink the fee if that is
positive; every other contract leaves both to the one step that moves fees.  For fees that are not
negative the two are the same: a step can be taken in two, and steps on different accounts can be taken
in either order.  A fee below zero is given to the owner and taken from nobody.

Main definitions:

* `Transfer.executeApart` — a transfer of the amount, and then the fee as for any other contract;
* `Transfer.Apart` — what that does to a ledger.

Main results:

* `Ledger.Adjusts.exists_split`, `Ledger.Adjusts.trans`, `Ledger.Adjusts.swap` — balance steps in
  another order;
* `Transfer.Effect.apart_iff` — **what both ways have in common**;
* `Engine.transfer_fee_collected` — **they agree for every fee that is not negative**;
* `Engine.negative_fee_makes_units` — and not for a fee below zero.
-/

import AccountLedger.Proofs.Balances
import AccountLedger.Proofs.Soundness
import AccountLedger.Settings

set_option relaxedAutoImplicit false
set_option autoImplicit false

namespace AccountLedger

/-! ### Balance steps in another order -/

namespace Ledger

variable {l m n k : Ledger} {a b : Address} {d e : Int} {r s : Account}

/-- The later of two records under one address is kept. -/
theorem putAccount_putAccount (h : s.address = r.address) :
    (l.putAccount r).putAccount s = l.putAccount s := by
  refine eq_of_lookups rfl rfl (fun b => ?_) (fun _ => rfl) fun _ => rfl
  rw [account?_putAccount, account?_putAccount, account?_putAccount, h]
  split
  · rfl
  · rfl

/-- Records under two addresses are kept in either order. -/
theorem putAccount_comm (h : r.address ≠ s.address) :
    (l.putAccount r).putAccount s = (l.putAccount s).putAccount r := by
  refine eq_of_lookups rfl rfl (fun b => ?_) (fun _ => rfl) fun _ => rfl
  simp only [account?_putAccount]
  split
  · next hb => rw [if_neg (hb ▸ h.symm)]
  · rfl

namespace Adjusts

/-- An adjustment leaves one ledger at most. -/
theorem unique (h : l.Adjusts a d m) (h' : l.Adjusts a d n) : m = n := by
  cases h with
  | intro r b found exact nonneg =>
      cases h' with
      | intro r' b' found' exact' nonneg' =>
          cases found.symm.trans found'
          rw [Int64.toInt_inj.1 (exact.trans exact'.symm)]

/-- What is taken from a balance was there. -/
theorem covered {x : Int} (h : l.Adjusts a (-x) m) : x ≤ l.balanceOf a := by
  cases h with
  | intro r b found exact nonneg =>
      rw [Ledger.balanceOf, found, Option.elim_some]
      omega

/-- The least amount is too much to be taken from any balance. -/
theorem ne_least (h : l.Adjusts a d m) : d ≠ -9223372036854775808 := by
  cases h with
  | intro r b found exact nonneg =>
      have := Int64.toInt_lt r.balance
      omega

/-- Two adjustments of one balance are one. -/
theorem trans (h : l.Adjusts a d m) (h' : m.Adjusts a e n) (hl : l.AccountsKeyed) :
    l.Adjusts a (d + e) n := by
  cases h with
  | intro r b found exact nonneg =>
      cases h' with
      | intro r' b' found' exact' nonneg' =>
          have hput := hl.account?_putAccount found (s := { r with balance := b }) rfl
          cases hput.symm.trans found'
          have hlast : ((l.putAccount { r with balance := b }).putAccount
              { r with balance := b' }) = l.putAccount { r with balance := b' } :=
            putAccount_putAccount rfl
          have hsum : b'.toInt = r.balance.toInt + (d + e) := by
            rw [← Int.add_assoc, ← exact]
            exact exact'
          exact hlast ▸ .intro r b' found hsum nonneg'

/-- One adjustment can be made in two, if the first of them can be made. -/
theorem exists_split (h : l.Adjusts a (d + e) n) (hl : l.AccountsKeyed)
    (hlow : 0 ≤ l.balanceOf a + d) (hhigh : l.balanceOf a + d < 9223372036854775808) :
    ∃ m, l.Adjusts a d m ∧ m.Adjusts a e n := by
  obtain ⟨r, b, found, -, exact, nonneg⟩ := h.account?_self hl
  rw [Ledger.balanceOf, found, Option.elim_some] at hlow hhigh
  obtain ⟨m, hm⟩ := exists_of_account found hlow hhigh
  obtain ⟨r', b', found', hafter, exact', -⟩ := hm.account?_self hl
  cases found.symm.trans found'
  have hb := Int64.toInt_lt b
  obtain ⟨k, hk⟩ := exists_of_account hafter (d := e) (by rw [exact']; omega) (by rw [exact']; omega)
  refine ⟨m, hm, ?_⟩
  rw [h.unique (hm.trans hk hl)]
  exact hk

/-- Two balances can be adjusted in either order. -/
theorem swap (h : l.Adjusts a d m) (h' : m.Adjusts b e n) (hne : a ≠ b) (hl : l.AccountsKeyed) :
    ∃ m', l.Adjusts b e m' ∧ m'.Adjusts a d n := by
  have hother : m.account? b = l.account? b := h.account?_of_ne hl hne.symm
  cases h with
  | intro r x found exact nonneg =>
      cases h' with
      | intro s y found' exact' nonneg' =>
          have hs : l.account? b = some s := hother.symm.trans found'
          have second : l.Adjusts b e (l.putAccount { s with balance := y }) :=
            .intro s y hs exact' nonneg'
          have hr : (l.putAccount { s with balance := y }).account? a = some r :=
            (second.account?_of_ne hl hne).trans found
          have haddress : r.address ≠ s.address := by
            rw [hl a r found, hl b s hs]
            exact hne
          have hcomm : (l.putAccount { r with balance := x }).putAccount { s with balance := y }
              = (l.putAccount { s with balance := y }).putAccount { r with balance := x } :=
            putAccount_comm haddress
          exact ⟨_, second, hcomm ▸ .intro r x hr exact nonneg⟩

end Adjusts

/-- **Two amounts leave a balance together, before one of them goes to another account, or apart, one
before that and one after it.** -/
theorem adjusts_apart_iff {x y : Int} (hx : 0 ≤ x) (hne : a ≠ b) (hl : l.AccountsKeyed) :
    (∃ m k, l.Adjusts a (-x) m ∧ m.Adjusts b x k ∧ k.Adjusts a (-y) n) ↔
      (∃ m, l.Adjusts a (-(x + y)) m ∧ m.Adjusts b x n) ∧ x ≤ l.balanceOf a := by
  rw [Int.neg_add]
  constructor
  · rintro ⟨m, k, hpaid, hreceived, hcharged⟩
    -- The second amount is taken before the gift, and then both amounts are one.
    obtain ⟨m', hcharged, hreceived⟩ :=
      hreceived.swap hcharged hne.symm (hpaid.accountsKeyed hl)
    exact ⟨⟨m', hpaid.trans hcharged hl, hreceived⟩, hpaid.covered⟩
  · rintro ⟨⟨m, htogether, hreceived⟩, hcovered⟩
    have hhigh : l.balanceOf a < 9223372036854775808 := by
      obtain ⟨r, -, found, -⟩ := htogether.account?_self hl
      rw [balanceOf, found, Option.elim_some]
      exact Int64.toInt_lt r.balance
    obtain ⟨k, hpaid, hcharged⟩ := htogether.exists_split hl (by omega) (by omega)
    obtain ⟨m', hreceived, hcharged⟩ := hcharged.swap hreceived hne (hpaid.accountsKeyed hl)
    exact ⟨k, m', hpaid, hreceived, hcharged⟩

/-- A fee can be charged after the gift where the amount is covered by itself; it ends in the sink. -/
theorem charges_apart_iff {x y : Int64} (hx : 0 ≤ x.toInt) (hne : a ≠ b) (hl : l.AccountsKeyed)
    (htogether : l.Adjusts a (-(x.toInt + y.toInt)) m) (hreceived : m.Adjusts b x.toInt n) :
    (∃ m' n', l.Pays a x m' ∧ m'.Adjusts b x.toInt n' ∧ n'.Charges a y k) ↔
      x.toInt ≤ l.balanceOf a ∧ if y.toInt = 0 then k = n else n.Adjusts n.sink y.toInt k := by
  have hleast : x.toInt ≠ -9223372036854775808 := by omega
  split
  · next zero =>
      have free : y = 0 := Int64.toInt_inj.1 zero
      rw [zero, Int.add_zero] at htogether
      constructor
      · rintro ⟨m', n', hpaid, hgiven, hcharged⟩
        obtain rfl := hpaid.adjusts.unique htogether
        obtain rfl := hgiven.unique hreceived
        cases hcharged with
        | free _ => exact ⟨htogether.covered, rfl⟩
        | taken _ _ ne_zero _ _ => exact absurd free ne_zero
      · rintro ⟨-, rfl⟩
        exact ⟨m, k, ⟨hleast, htogether⟩, hreceived, .free free⟩
  · next hy =>
      have ne_zero : y ≠ 0 := fun zero => hy (Int64.toInt_inj.2 zero)
      constructor
      · rintro ⟨m', n', hpaid, hgiven, hcharged⟩
        cases hcharged with
        | free zero => exact absurd zero ne_zero
        | taken q _ _ paid received =>
            obtain ⟨⟨m'', htogether', hreceived'⟩, hcovered⟩ :=
              (adjusts_apart_iff hx hne hl).1 ⟨m', n', hpaid.adjusts, hgiven, paid.adjusts⟩
            obtain rfl := htogether'.unique htogether
            obtain rfl := hreceived'.unique hreceived
            exact ⟨hcovered, received⟩
      · rintro ⟨hcovered, hcollected⟩
        obtain ⟨m', n', hpaid, hgiven, hcharged⟩ :=
          (adjusts_apart_iff hx hne hl).2 ⟨⟨m, htogether, hreceived⟩, hcovered⟩
        have hfee : n'.Pays a y n := ⟨hcollected.ne_least, hcharged⟩
        exact ⟨m', n', ⟨hleast, hpaid⟩, hgiven, .taken n k ne_zero hfee hcollected⟩

end Ledger

/-! ### A transfer, and the fee after it -/

/-- Opens the recipient's account if there is none, moves the amount, and charges the fee in the one
way in which every other contract does. -/
def Transfer.executeApart (c : Transfer) (ctx : Context) : Execution Unit := do
  let owner ← Execution.address c.owner
  let recipient ← Execution.address c.recipient
  if (← Execution.step (Update.account? recipient)).isNone then
    Execution.put (.opened recipient .normal ctx.now)
  Execution.adjust owner (-c.amount)
  Execution.adjust recipient c.amount
  Execution.charge owner (ctx.fee .transfer)

/-- The recipient's account is opened if need be, the amount is taken and given, and then the fee
moves. -/
inductive Transfer.Apart (c : Transfer) (ctx : Context) (l l' : Ledger) : Prop
  | intro (owner recipient : Address) (m n : Ledger)
      (owner_eq : owner.bytes = c.owner) (recipient_eq : recipient.bytes = c.recipient)
      (paid : (l.opening recipient ctx.now).Pays owner c.amount m)
      (received : m.Adjusts recipient c.amount.toInt n)
      (charged : n.Charges owner (ctx.fee .transfer) l')

namespace Transfer

open Execution

variable {c : Transfer} {ctx : Context} {l l' k : Ledger} {u : Unit} {owner recipient : Address}

theorem yields_executeApart_iff : Yields (c.executeApart ctx) l u l' ↔ c.Apart ctx l l' := by
  simp only [executeApart, yields_bind, yields_address, yields_step, Update.runOn_account?,
    Prod.mk.injEq, and_assoc, exists_and_left, exists_eq_left, exists_eq_left']
  constructor
  · rintro ⟨owner, howner, recipient, hrecipient, h⟩
    have h := yields_opening_iff.1 h
    simp only [yields_bind, yields_adjust_neg, yields_charge, exists_const] at h
    obtain ⟨m, hpaid, _, n, hreceived, hcharged⟩ := h
    exact .intro owner recipient m n howner hrecipient hpaid (yields_adjust.1 hreceived) hcharged
  · rintro ⟨owner, recipient, m, n, howner, hrecipient, hpaid, hreceived, hcharged⟩
    refine ⟨owner, howner, recipient, hrecipient, yields_opening_iff.2 ?_⟩
    simp only [yields_bind, yields_adjust_neg, yields_charge, exists_const]
    exact ⟨m, hpaid, (), n, yields_adjust.2 hreceived, hcharged⟩

/-- The addresses of a transfer are those in its payload. -/
theorem apart_iff (howner : owner.bytes = c.owner) (hrecipient : recipient.bytes = c.recipient) :
    c.Apart ctx l k ↔ ∃ m n, (l.opening recipient ctx.now).Pays owner c.amount m ∧
      m.Adjusts recipient c.amount.toInt n ∧ n.Charges owner (ctx.fee .transfer) k := by
  constructor
  · rintro ⟨a, b, m, n, ha, hb, hpaid, hreceived, hcharged⟩
    obtain rfl := Address.ext (ha.trans howner.symm)
    obtain rfl := Address.ext (hb.trans hrecipient.symm)
    exact ⟨m, n, hpaid, hreceived, hcharged⟩
  · rintro ⟨m, n, hpaid, hreceived, hcharged⟩
    exact .intro owner recipient m n howner hrecipient hpaid hreceived hcharged

/-- **What both ways have in common.**  For a fee that is not negative they leave the same ledger.  For
a fee below zero the second way asks more, that the owner has the amount before the fee is there and the
sink has the fee, and then it also takes the fee from the sink. -/
theorem Effect.apart_iff (h : c.Effect ctx l l') (hc : c.Admissible ctx l) (hl : l.AccountsKeyed)
    (howner : owner.bytes = c.owner) :
    c.Apart ctx l k ↔
      if 0 ≤ (ctx.fee .transfer).toInt then k = l'
      else c.amount.toInt ≤ l.balanceOf owner ∧
        l'.Adjusts l'.sink (ctx.fee .transfer).toInt k := by
  obtain ⟨a, recipient, total, m, n, ha, hrecipient, htotal, hpaid, hreceived, hcollected⟩ := h
  obtain ⟨a', b, account, required, ha', hb, hne, hfound, -, hpositive, hrequired, hcovered, -,
    -⟩ := hc
  obtain rfl := Address.ext (ha.trans howner.symm)
  obtain rfl := Address.ext (ha'.trans howner.symm)
  obtain rfl := Address.ext (hb.trans hrecipient.symm)
  have htogether := htotal ▸ hpaid.adjusts
  have hbalance : l.balanceOf a' = account.balance.toInt := by
    rw [Ledger.balanceOf, hfound, Option.elim_some]
  rw [Transfer.apart_iff howner hrecipient,
    Ledger.charges_apart_iff (Int.le_of_lt hpositive) hne hl.opening htogether hreceived,
    Ledger.balanceOf_opening]
  simp only [Int64.lt_iff_toInt_lt, Amount.toInt_zero] at hcollected
  -- Without a fee nothing is left to do, and with one of either sign only the sink's share is.
  rcases Int.lt_trichotomy (ctx.fee .transfer).toInt 0 with hfee | hfee | hfee
  · rw [if_neg (by omega)] at hcollected
    rw [if_neg (by omega), if_neg (by omega), hcollected]
  · rw [if_neg (by omega)] at hcollected
    rw [if_pos hfee, if_pos (by omega), hcollected, hbalance]
    exact and_iff_right (by omega)
  · rw [if_pos hfee] at hcollected
    rw [if_neg (by omega), if_pos (by omega), hbalance, and_iff_right (by omega)]
    constructor
    · intro hk
      exact hk.unique hcollected
    · rintro rfl
      exact hcollected

end Transfer

/-! ### Transfers that succeed -/

/-- The small ledger, with a hundred units in the sink. -/
def Ledger.endowed : Ledger :=
  small.putAccount { Account.opened (.repeating 0) .normal 0 with balance := 100 }

namespace Engine

open Ledger

/-- **The fee of a transfer is charged like any other if it is not negative.**  On a consistent ledger,
a transfer that succeeds then leaves the ledger that the amount and after it the shared fee step leave,
and the total that was there.  A fee below zero is given to the owner, and the total grows by it.  The
shared step would take it from the sink, and carries out the transfer only where the owner has the
amount before and the sink has the fee. -/
theorem transfer_fee_collected {c : Transfer} {now : Int64} {policy : Policy} {l l' : Ledger}
    {receipt : Receipt} {owner : Address} (hl : l.check = .ok ()) (howner : owner.bytes = c.owner)
    (happly : apply (.transfer c) ⟨now, policy⟩ l = (.ok receipt, l')) :
    (0 ≤ policy.fees.transfer →
      Yields (c.executeApart ⟨now, policy⟩) l () l' ∧ l'.totalNative = l.totalNative) ∧
    (policy.fees.transfer < 0 → ∀ k, Yields (c.executeApart ⟨now, policy⟩) l () k ↔
      c.amount.toInt ≤ l.balanceOf owner ∧ l'.Adjusts l'.sink policy.fees.transfer.toInt k) ∧
    (∀ n, l'.totalNative = some n ↔
      n.toInt = l.nativeUnits + max 0 (-policy.fees.transfer.toInt)) := by
  have hconsistent := check_eq_ok_iff.1 hl
  have hkeyed := hconsistent.accountsKeyed
  obtain ⟨-, admissible, done⟩ : _ ∧ c.Admissible ⟨now, policy⟩ l ∧ c.Effect ⟨now, policy⟩ l l' :=
    effect_of_apply happly
  have hfee : Context.fee ⟨now, policy⟩ .transfer = policy.fees.transfer := rfl
  have hapart (k : Ledger) := done.apart_iff (k := k) admissible hkeyed howner
  have hunits := done.nativeUnits_eq hkeyed
  have hstructured := done.structured hconsistent.toStructured
  simp only [hfee] at hapart hunits
  simp only [Int64.le_iff_toInt_le, Int64.lt_iff_toInt_lt, Amount.toInt_zero,
    Transfer.yields_executeApart_iff]
  refine ⟨fun hnonneg => ⟨?_, ?_⟩, fun hneg k => ?_, fun n => ?_⟩
  · rw [hapart, if_pos hnonneg]
  · refine Option.ext fun n => ?_
    rw [hstructured.totalNative_eq_some_iff, hconsistent.totalNative_eq_some_iff, hunits]
    omega
  · rw [hapart, if_neg (by omega)]
  · rw [hstructured.totalNative_eq_some_iff, hunits]

/-- The sink is the recipient of a transfer of 40 at a fee of 7, and gets one after the other. -/
theorem transfer_fee_collected_small : ∃ (c : Transfer) (policy : Policy) (l' : Ledger),
    small.check = .ok () ∧ 0 ≤ policy.fees.transfer ∧ c.recipient = small.sink.bytes ∧
    apply (.transfer c) ⟨0, policy⟩ small = (.ok ⟨7, .success⟩, l') ∧
    Yields (c.executeApart ⟨0, policy⟩) small () l' ∧ l'.totalNative = some 10000500 := by
  let c : Transfer := ⟨(Address.repeating 1).bytes, (Address.repeating 0).bytes, 40⟩
  let policy : Policy := { fees := { transfer := 7 } }
  obtain ⟨l', happly⟩ : ∃ l', apply (.transfer c) ⟨0, policy⟩ small = (.ok ⟨7, .success⟩, l') :=
    exists_ok_of_toOption (by decide +kernel)
  have howner : (Address.repeating 1).bytes = c.owner := rfl
  obtain ⟨hcollected, -⟩ := transfer_fee_collected check_small howner happly
  obtain ⟨hyields, htotal⟩ := hcollected (by decide)
  have hbefore : small.totalNative = some 10000500 := by decide +kernel
  exact ⟨c, policy, l', check_small, by decide, rfl, happly, hyields, htotal.trans hbefore⟩

/-- **A transfer at a fee below zero makes units**: settings with such a fee load, the transfer succeeds
both ways, and only the shared step leaves the total that was there. -/
theorem negative_fee_makes_units :
    ∃ (s : Settings) (policy : Policy) (c : Transfer) (l' k : Ledger),
      Settings.ofText "[engine.fees]\ntransfer = -7\n" = .ok s ∧ s.policy = policy ∧
      endowed.check = .ok () ∧
      apply (.transfer c) ⟨0, policy⟩ endowed = (.ok ⟨-7, .success⟩, l') ∧
      Yields (c.executeApart ⟨0, policy⟩) endowed () k ∧
      endowed.totalNative = some 10000600 ∧ k.totalNative = some 10000600 ∧
      l'.totalNative = some 10000607 := by
  let c : Transfer := ⟨(Address.repeating 1).bytes, (Address.repeating 2).bytes, 40⟩
  let policy : Policy := { fees := { transfer := -7 } }
  have hread : (Settings.ofText "[engine.fees]\ntransfer = -7\n").toOption.map (·.policy)
      = some policy := by decide +kernel
  obtain ⟨s, hs, hpolicy⟩ := Option.map_eq_some_iff.1 hread
  have hmade : (apply (.transfer c) ⟨0, policy⟩ endowed).2.totalNative = some 10000607 := by
    decide +kernel
  obtain ⟨l', happly⟩ : ∃ l', apply (.transfer c) ⟨0, policy⟩ endowed
      = (.ok ⟨-7, .success⟩, l') := exists_ok_of_toOption (by decide +kernel)
  rw [happly] at hmade
  have hkept : ((c.executeApart ⟨0, policy⟩).run.runOn endowed).2.totalNative = some 10000600 := by
    decide +kernel
  obtain ⟨k, hrun⟩ : ∃ k, (c.executeApart ⟨0, policy⟩).run.runOn endowed = (.ok (), k) :=
    exists_ok_of_toOption (by decide +kernel)
  rw [hrun] at hkept
  exact ⟨s, policy, c, l', k, eq_ok_of_toOption hs, hpolicy, rfl, happly, hrun, by decide +kernel,
    hkept, hmade⟩

end Engine

end AccountLedger
