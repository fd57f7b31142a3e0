/-
**Where tokens go.**

A contract changes at most one holding of an account: that of the asset it issues, transfers or sells,
in the accounts of its owner and of the other party.  All other holdings stay listed as they were,
those of amount zero included.

Main definitions:

* `Ledger.holdingsOf` — the holdings under an address;
* `Contract.gain?` — the asset of which an account gains tokens, and how many; a loss counts below
  zero;
* `Gains` — holdings before and after such a gain.

Main results:

* `Contract.Effect.gains` — **what becomes of all holdings.**
-/

import AccountLedger.Proofs.Balances

set_option relaxedAutoImplicit false
set_option autoImplicit false

namespace AccountLedger

/-! ### Holdings of a ledger -/

namespace Ledger

/-- The holdings under an address, none where there is no account. -/
def holdingsOf (l : Ledger) (a : Address) : SortedMap String Int64 :=
  (l.account? a).elim .empty (·.holdings)

variable {l l' m : Ledger} {a owner : Address} {r s : Account} {x : Int64}

theorem holdingsOf_eq (hr : l.account? a = some r) : l.holdingsOf a = r.holdings := by
  rw [holdingsOf, hr, Option.elim_some]

theorem holdingsOf_putAccount (l : Ledger) (s : Account) (b : Address) :
    (l.putAccount s).holdingsOf b = if b = s.address then s.holdings else l.holdingsOf b := by
  rw [holdingsOf, account?_putAccount]
  split
  · rfl
  · rfl

/-- A record put back over the one found at an address changes its holdings only. -/
theorem AccountsKeyed.holdingsOf_putAccount (h : l.AccountsKeyed) (hr : l.account? a = some r)
    (hs : s.address = r.address) (b : Address) :
    (l.putAccount s).holdingsOf b = if b = a then s.holdings else l.holdingsOf b := by
  rw [Ledger.holdingsOf_putAccount, hs, h a r hr]

/-- A record put back with the same holdings. -/
theorem AccountsKeyed.holdingsOf_putAccount_eq (h : l.AccountsKeyed) (hr : l.account? a = some r)
    (hs : s.address = r.address) (hsame : s.holdings = r.holdings) (b : Address) :
    (l.putAccount s).holdingsOf b = l.holdingsOf b := by
  rw [h.holdingsOf_putAccount hr hs]
  split
  · next hb => rw [hb, hsame, holdingsOf_eq hr]
  · rfl

/-- A new account holds nothing. -/
theorem holdingsOf_putAccount_new (habsent : l.account? s.address = none)
    (hs : s.holdings = .empty) (b : Address) : (l.putAccount s).holdingsOf b = l.holdingsOf b := by
  rw [holdingsOf_putAccount]
  split
  · next hb => rw [hb, hs, holdingsOf, habsent, Option.elim_none]
  · rfl

theorem holdingsOf_opening (l : Ledger) (a : Address) (now : Int64) (b : Address) :
    (l.opening a now).holdingsOf b = l.holdingsOf b := by
  unfold opening
  split
  · next habsent => exact holdingsOf_putAccount_new (Option.isNone_iff_eq_none.1 habsent) rfl b
  · rfl

theorem SameButBalances.holdingsOf (h : SameButBalances l l') (b : Address) :
    l'.holdingsOf b = l.holdingsOf b := by
  cases hr : l.account? b with
  | none => rw [Ledger.holdingsOf, h.noAccount b hr, Ledger.holdingsOf, hr]
  | some r =>
      obtain ⟨balance, hr'⟩ := h.account b r hr
      rw [holdingsOf_eq hr', holdingsOf_eq hr]

theorem Adjusts.holdingsOf {d : Int} (h : l.Adjusts a d l') (hl : l.AccountsKeyed) (b : Address) :
    l'.holdingsOf b = l.holdingsOf b := (h.sameButBalances hl).holdingsOf b

theorem Charges.holdingsOf (h : l.Charges a x l') (hl : l.AccountsKeyed) (b : Address) :
    l'.holdingsOf b = l.holdingsOf b := (h.sameButBalances hl).holdingsOf b

/-- A record is put back with the same holdings, and a fee is charged. -/
theorem Charges.holdingsOf_of_put (charged : (l.putAccount s).Charges owner x l')
    (hl : l.AccountsKeyed) (found : l.account? a = some r) (haddress : s.address = r.address)
    (hsame : s.holdings = r.holdings) (b : Address) : l'.holdingsOf b = l.holdingsOf b :=
  (charged.holdingsOf (hl.putAccount s) b).trans
    (hl.holdingsOf_putAccount_eq found haddress hsame b)

end Ledger

/-! ### Gains -/

/-- Holdings before and after a gain: nothing changes where there is none, and otherwise one amount,
listed from then on. -/
inductive Gains (before : SortedMap String Int64) :
    Option (String × Int) → SortedMap String Int64 → Prop
  | nothing : Gains before none before
  | gain (name : String) (n : Int) (held : Int64)
      (exact : held.toInt = ((before.get? name).getD 0).toInt + n) :
      Gains before (some (name, n)) (before.insert name held)

/-- A gain leaves one row of holdings. -/
theorem Gains.unique {before after after' : SortedMap String Int64} {gain? : Option (String × Int)}
    (h : Gains before gain? after) (h' : Gains before gain? after') : after = after' := by
  cases h with
  | nothing =>
      cases h'
      rfl
  | gain name n held exact =>
      cases h' with
      | gain name n held' exact' =>
          rw [Int64.toInt_inj.1 (exact.trans exact'.symm)]

/-- Every amount after a gain. -/
theorem Gains.get? {before after : SortedMap String Int64} {gain? : Option (String × Int)}
    (h : Gains before gain? after) (name : String) :
    after.get? name = before.get? name ∨ ∃ n held, gain? = some (name, n) ∧
      after.get? name = some held ∧ held.toInt = ((before.get? name).getD 0).toInt + n := by
  cases h with
  | nothing => exact .inl rfl
  | gain other n held exact =>
      rw [SortedMap.get?_insert]
      split
      · next hname => exact .inr ⟨n, held, by rw [hname], rfl, hname ▸ exact⟩
      · exact .inl rfl

namespace Account

variable {r s : Account} {name : String} {n : Int64}

theorem gains_of_credit (h : r.credit name n = .ok s) :
    Gains r.holdings (some (name, n.toInt)) s.holdings := by
  obtain ⟨held, hheld, rfl⟩ := credit_eq_ok_iff.1 h
  exact .gain name n.toInt held hheld

theorem gains_of_debit (h : r.debit name n = .ok (some s)) :
    Gains r.holdings (some (name, -n.toInt)) s.holdings := by
  obtain ⟨held, rest, hget, -, -, hrest, rfl⟩ := debit_eq_ok_iff.1 h
  refine .gain name (-n.toInt) rest ?_
  rw [hget, Option.getD_some]
  omega

end Account

/-- The asset of which the account under `a` gains tokens by the contract, and how many.  Both parties
of a contract name the asset by the same bytes, which are repaired where they are ill-formed. -/
def Contract.gain? (c : Contract) (l : Ledger) (a : Address) : Option (String × Int) :=
  match c with
  | .transferAsset c =>
      if a.bytes = c.owner then some (Utf8.repair c.asset, -c.amount.toInt)
      else if a.bytes = c.recipient then some (Utf8.repair c.asset, c.amount.toInt)
      else none
  | .assetIssue c =>
      if a.bytes = c.owner then some (Utf8.repair c.name, c.totalSupply.toInt) else none
  | .participateAssetIssue c => do
      let asset ← l.asset? (Utf8.repair c.asset)
      let tokens ← (asset.exchange c.amount).toOption
      if a.bytes = c.owner then some (Utf8.repair c.asset, tokens.toInt)
      else if a.bytes = c.issuer then some (Utf8.repair c.asset, -tokens.toInt)
      else none
  | _ => none

/-! ### The effect of each kind -/

section

variable {ctx : Context} {l l' : Ledger}

open Ledger

theorem Transfer.Effect.holdingsOf {c : Transfer} (h : c.Effect ctx l l') (hl : l.AccountsKeyed)
    (a : Address) : l'.holdingsOf a = l.holdingsOf a := by
  obtain ⟨owner, recipient, total, m, n, -, -, -, paid, received, collected⟩ := h
  have hopening : (l.opening recipient ctx.now).AccountsKeyed := hl.opening
  have hm := paid.adjusts.accountsKeyed hopening
  have hmoved : n.holdingsOf a = l.holdingsOf a := by
    rw [received.holdingsOf hm, paid.adjusts.holdingsOf hopening, holdingsOf_opening]
  split at collected
  · rw [collected.holdingsOf (received.accountsKeyed hm), hmoved]
  · rw [collected, hmoved]

theorem AccountUpdate.Effect.holdingsOf {c : AccountUpdate} (h : c.Effect ctx l l')
    (hl : l.AccountsKeyed)
    (hopen : ctx.policy.accountUpdate = .rejectExisting → ∀ a, a.bytes = c.owner →
      l.account? a = none) (a : Address) : l'.holdingsOf a = l.holdingsOf a := by
  cases h with
  | renamed owner account rule owner_eq found charged =>
      exact charged.holdingsOf_of_put hl found rfl rfl a
  | opened owner rule owner_eq charged =>
      rw [charged.holdingsOf (hl.putAccount _)]
      exact holdingsOf_putAccount_new (hopen rule owner owner_eq) rfl a

theorem AssetIssue.Effect.gains {c : AssetIssue} (h : c.Effect ctx l l') (hl : l.AccountsKeyed)
    (a : Address) :
    Gains (l.holdingsOf a) ((Contract.assetIssue c).gain? l a) (l'.holdingsOf a) := by
  obtain ⟨owner, m, account, credited, owner_eq, charged, found, given, rfl⟩ := h
  have hasset : (l.putAsset (c.asset owner)).AccountsKeyed := hl.putAsset _
  have hm : m.holdingsOf a = l.holdingsOf a := charged.holdingsOf hasset a
  have hafter := (charged.accountsKeyed hasset).holdingsOf_putAccount found
    (Account.frame_of_credit given).1 a
  simp only [Contract.gain?, Address.bytes_eq_iff owner_eq, hafter, ← hm]
  split
  · next ha =>
      rw [ha, holdingsOf_eq found]
      exact Account.gains_of_credit given
  · exact .nothing

/-- Two parties gain, and nobody else does. -/
theorem gains_of_parties {first second : Address} {bs bs' : Bytes}
    {gain gain' : Option (String × Int)} (hfirst : first.bytes = bs) (hsecond : second.bytes = bs')
    (hgain : Gains (l.holdingsOf first) gain (l'.holdingsOf first))
    (hgain' : Gains (l.holdingsOf second) gain' (l'.holdingsOf second))
    (hother : ∀ a, a ≠ first → a ≠ second → l'.holdingsOf a = l.holdingsOf a) (a : Address) :
    Gains (l.holdingsOf a) (if a.bytes = bs then gain else if a.bytes = bs' then gain' else none)
      (l'.holdingsOf a) := by
  simp only [Address.bytes_eq_iff hfirst, Address.bytes_eq_iff hsecond]
  split
  · next ha => rwa [ha]
  · next ha =>
      split
      · next ha' => rwa [ha']
      · next ha' =>
          rw [hother a ha ha']
          exact .nothing

theorem TransferAsset.Effect.gains {c : TransferAsset} (h : c.Effect ctx l l')
    (hl : l.AccountsKeyed) (hne : c.owner ≠ c.recipient) (a : Address) :
    Gains (l.holdingsOf a) ((Contract.transferAsset c).gain? l a) (l'.holdingsOf a) := by
  obtain ⟨owner, recipient, account, debited, receiver, credited, owner_eq, recipient_eq, found,
    taken, receiving, given, charged⟩ := h
  have hput := hl.putAccount debited
  have haddress : debited.address = owner :=
    (Account.frame_of_debit taken).1.trans (hl owner account found)
  have hafter (b : Address) : l'.holdingsOf b = if b = recipient then credited.holdings
      else if b = owner then debited.holdings else l.holdingsOf b := by
    rw [charged.holdingsOf (hput.putAccount credited),
      hput.holdingsOf_putAccount receiving (Account.frame_of_credit given).1,
      holdingsOf_putAccount, haddress]
  have hparties : owner ≠ recipient := by
    rintro rfl
    exact hne (owner_eq.symm.trans recipient_eq)
  have hreceiver : l.account? recipient = some receiver := by
    rwa [account?_putAccount_of_ne fun heq => hparties (heq.trans haddress).symm] at receiving
  refine gains_of_parties owner_eq recipient_eq ?_ ?_ (fun b howner hrecipient => ?_) a
  · rw [hafter, if_neg hparties, if_pos rfl, holdingsOf_eq found]
    exact Account.gains_of_debit taken
  · rw [hafter, if_pos rfl, holdingsOf_eq hreceiver]
    exact Account.gains_of_credit given
  · rw [hafter, if_neg hrecipient, if_neg howner]

theorem ParticipateAssetIssue.Effect.gains {c : ParticipateAssetIssue} (h : c.Effect ctx l l')
    (hl : l.AccountsKeyed) (hne : c.owner ≠ c.issuer) (a : Address) :
    Gains (l.holdingsOf a) ((Contract.participateAssetIssue c).gain? l a) (l'.holdingsOf a) := by
  obtain ⟨owner, issuer, asset, tokens, m, n, buyer, bought, seller, sold, owner_eq, issuer_eq,
    registered, priced, paid, buying, given, received, selling, taken, charged⟩ := h
  have hm := paid.adjusts.accountsKeyed hl
  have hput := hm.putAccount bought
  have hn := received.accountsKeyed hput
  have haddress : bought.address = owner :=
    (Account.frame_of_credit given).1.trans (hm owner buyer buying)
  have hbefore (b : Address) : m.holdingsOf b = l.holdingsOf b := paid.adjusts.holdingsOf hl b
  have hbetween (b : Address) :
      n.holdingsOf b = if b = owner then bought.holdings else l.holdingsOf b := by
    rw [received.holdingsOf hput, holdingsOf_putAccount, haddress, hbefore]
  have hafter (b : Address) : l'.holdingsOf b = if b = issuer then sold.holdings
      else if b = owner then bought.holdings else l.holdingsOf b := by
    rw [charged.holdingsOf (hn.putAccount sold),
      hn.holdingsOf_putAccount selling (Account.frame_of_debit taken).1, hbetween]
  have hparties : owner ≠ issuer := by
    rintro rfl
    exact hne (owner_eq.symm.trans issuer_eq)
  have hgain : (Contract.participateAssetIssue c).gain? l a =
      if a.bytes = c.owner then some (Utf8.repair c.asset, tokens.toInt)
      else if a.bytes = c.issuer then some (Utf8.repair c.asset, -tokens.toInt)
      else none := by
    simp only [Contract.gain?, registered, Option.bind_eq_bind, Option.bind_some, priced,
      Except.toOption]
  rw [hgain]
  refine gains_of_parties owner_eq issuer_eq ?_ ?_ (fun b howner hissuer => ?_) a
  · rw [hafter, if_neg hparties, if_pos rfl, ← hbefore, holdingsOf_eq buying]
    exact Account.gains_of_credit given
  · have hseller := hbetween issuer
    rw [if_neg hparties.symm, holdingsOf_eq selling] at hseller
    rw [hafter, if_pos rfl, ← hseller]
    exact Account.gains_of_debit taken
  · rw [hafter, if_neg hissuer, if_neg howner]

theorem FreezeBalance.Effect.holdingsOf {c : FreezeBalance} (h : c.Effect ctx l l')
    (hl : l.AccountsKeyed) (a : Address) : l'.holdingsOf a = l.holdingsOf a := by
  obtain ⟨owner, m, account, duration, expiry, credit, bandwidth, locks, -, paid, found, -, -, -,
    -, -, charged⟩ := h
  rw [charged.holdingsOf_of_put (paid.adjusts.accountsKeyed hl) found rfl rfl,
    paid.adjusts.holdingsOf hl]

end

/-! ### Any contract -/

section

variable {c : Contract} {ctx : Context} {l l' : Ledger}

open Ledger

/-- **What becomes of all holdings** under the effect of an admissible contract. -/
theorem Contract.Effect.gains (h : c.Effect ctx l l') (hc : c.Admissible ctx l)
    (hl : l.AccountsKeyed) (a : Address) :
    Gains (l.holdingsOf a) (c.gain? l a) (l'.holdingsOf a) := by
  have of_same (hsame : l'.holdingsOf a = l.holdingsOf a) :
      Gains (l.holdingsOf a) none (l'.holdingsOf a) := hsame ▸ .nothing
  cases c with
  | transfer c => exact of_same (Transfer.Effect.holdingsOf h hl a)
  | transferAsset c =>
      obtain ⟨owner, recipient, -, -, -, owner_eq, recipient_eq, -, -, -, ne, -⟩ := hc
      refine TransferAsset.Effect.gains h hl (fun heq => ne ?_) a
      exact Address.ext (owner_eq.trans (heq.trans recipient_eq.symm))
  | assetIssue c => exact AssetIssue.Effect.gains h hl a
  | participateAssetIssue c =>
      obtain ⟨owner, issuer, -, -, -, -, -, -, owner_eq, issuer_eq, -, -, -, ne, -⟩ := hc
      refine ParticipateAssetIssue.Effect.gains h hl (fun heq => ne ?_) a
      exact Address.ext (owner_eq.trans (heq.trans issuer_eq.symm))
  | freezeBalance c => exact of_same (FreezeBalance.Effect.holdingsOf h hl a)
  | unfreezeBalance c =>
      obtain ⟨owner, account, released, balance, -, found, -, -, charged⟩ := h
      exact of_same (charged.holdingsOf_of_put hl found rfl rfl a)
  | witnessCreate c =>
      obtain ⟨owner, account, total, -, found, -, charged⟩ := h
      have hput := hl.putWitness ⟨owner, Utf8.repair c.url, 0⟩
      exact of_same (charged.holdingsOf_of_put hput found rfl rfl a)
  | witnessUpdate c =>
      obtain ⟨owner, witness, -, -, charged⟩ := h
      exact of_same (charged.holdingsOf (hl.putWitness _) a)
  | accountUpdate c =>
      exact of_same (AccountUpdate.Effect.holdingsOf h hl
        (absent_of_not_reopens (Contract.Admissible.not_reopens (c := .accountUpdate c) hc)) a)
  | voteWitness c =>
      obtain ⟨owner, counts, account, -, -, found, charged⟩ := h
      exact of_same (charged.holdingsOf_of_put hl found rfl rfl a)
  | withdrawBalance c =>
      obtain ⟨owner, account, balance, -, found, -, charged⟩ := h
      exact of_same (charged.holdingsOf_of_put hl found rfl rfl a)

end

end AccountLedger
