/-
**The price of an asset.**

Native units buy tokens of an asset at the ratio of its terms, and what they buy is rounded down.  So
nobody gets a token that is not paid for in full, and who splits a purchase gets no more for it.

Main definitions:

* `Ledger.Sold` — tokens that have moved from the issuer of an asset to a buyer.

Main results:

* `floor_div_eq_fdiv` — rounding a quotient down, in the rationals and in the integers;
* `Asset.exchange_eq_ok_iff` — the tokens that an amount buys, as exact integers;
* `Asset.exchange_split` — **the parts of an amount buy no more than the whole**;
* `ParticipateAssetIssue.Effect.sold` — the tokens that a purchase moves;
* `Ledger.sale_price_exact` — **the price is exact, and splitting does not lower it.**
-/

import AccountLedger.Proofs.Consistency
import AccountLedger.Proofs.Tokens
import Mathlib.Data.Rat.Floor

set_option relaxedAutoImplicit false
set_option autoImplicit false

namespace AccountLedger

/-! ### Rounding down -/

/-- What a division that rounds down leaves of a unit is at least nothing and less than all of it. -/
theorem fmod_div_within (a : ℤ) {b : ℤ} (hb : b ≠ 0) :
    0 ≤ (a.fmod b : ℚ) / b ∧ (a.fmod b : ℚ) / b < 1 := by
  rcases Int.lt_or_gt_of_ne hb with hb | hb
  · obtain ⟨-, hlow, hhigh⟩ := (Int.fdiv_fmod_unique' hb).1 ⟨rfl, rfl⟩
    have hb : (b : ℚ) < 0 := Int.cast_lt_zero.2 hb
    exact ⟨div_nonneg_of_nonpos (Int.cast_nonpos.2 hhigh) hb.le,
      (div_lt_one_of_neg hb).2 (Int.cast_lt.2 hlow)⟩
  · obtain ⟨-, hlow, hhigh⟩ := (Int.fdiv_fmod_unique hb).1 ⟨rfl, rfl⟩
    have hb : (0 : ℚ) < b := Int.cast_pos.2 hb
    exact ⟨div_nonneg (Int.cast_nonneg hlow) hb.le, (div_lt_one hb).2 (Int.cast_lt.2 hhigh)⟩

/-- The floor of a rational quotient is the integer quotient that is rounded down; both are zero where
the divisor is. -/
theorem floor_div_eq_fdiv (a b : ℤ) : ⌊(a : ℚ) / b⌋ = a.fdiv b := by
  rcases eq_or_ne b 0 with rfl | hb
  · rw [Int.cast_zero, div_zero, Int.floor_zero, Int.fdiv_zero]
  · have hexact : (a : ℚ) = (b * a.fdiv b + a.fmod b : ℤ) := by rw [Int.mul_fdiv_add_fmod]
    rw [hexact, Int.cast_add, Int.cast_mul, add_div, mul_div_cancel_left₀ _ (Int.cast_ne_zero.2 hb),
      Int.floor_intCast_add, Int.floor_eq_zero_iff.2 (fmod_div_within a hb), add_zero]

/-! ### Tokens for an amount -/

namespace Asset

variable {s : Asset} {p q : Int64}

/-- **The tokens that an amount buys**, as exact integers, where tokens have a price: all that the amount
pays for in full and no more, as long as the product that is divided fits. -/
theorem exchange_eq_ok_iff (hunits : 0 < s.priceUnits.toInt) : s.exchange p = .ok q ↔
    Amount.Fits (p.toInt * s.priceTokens.toInt) ∧
      q.toInt * s.priceUnits.toInt ≤ p.toInt * s.priceTokens.toInt ∧
      p.toInt * s.priceTokens.toInt < (q.toInt + 1) * s.priceUnits.toInt := by
  have hdivisor : 0 < s.priceUnits.toInt64.toInt := by rwa [Int32.toInt_toInt64]
  simp only [exchange, Check.bind_eq_ok_iff, Amount.mul_eq_ok_iff,
    Amount.floorDiv_eq_ok_iff_of_pos hdivisor, Int32.toInt_toInt64]
  constructor
  · rintro ⟨m, hm, hq⟩
    rw [hm] at hq
    exact ⟨hm ▸ Amount.fits_toInt m, hq⟩
  · rintro ⟨hfits, hq⟩
    obtain ⟨m, hm⟩ := Amount.exists_toInt_eq_iff.2 hfits
    exact ⟨m, hm, hm ▸ hq⟩

/-- Whether an amount buys tokens depends on that product only. -/
theorem exists_exchange (hunits : 0 < s.priceUnits.toInt)
    (hfits : Amount.Fits (p.toInt * s.priceTokens.toInt)) : ∃ q, s.exchange p = .ok q := by
  have hdivisor : 0 < s.priceUnits.toInt64.toInt := by rwa [Int32.toInt_toInt64]
  obtain ⟨m, hm⟩ := Amount.exists_toInt_eq_iff.2 hfits
  obtain ⟨q, hq⟩ := Amount.exists_floorDiv_of_pos (a := m) hdivisor
  refine ⟨q, ?_⟩
  simp only [exchange, Check.bind_eq_ok_iff, Amount.mul_eq_ok_iff, Int32.toInt_toInt64]
  exact ⟨m, hm, hq⟩

/-! ### Splitting a purchase -/

/-- What the parts of an amount buy costs no more than the amount. -/
theorem exchange_parts (hunits : 0 < s.priceUnits.toInt) (htokens : 0 < s.priceTokens.toInt)
    {parts : List Int64} (hparts : ∀ p ∈ parts, 0 < p.toInt)
    (hfits : Amount.total (parts.map (·.toInt)) * s.priceTokens.toInt < 9223372036854775808) :
    ∃ each, parts.mapM s.exchange = .ok each ∧
      Amount.total (each.map (·.toInt)) * s.priceUnits.toInt
        ≤ Amount.total (parts.map (·.toInt)) * s.priceTokens.toInt := by
  induction parts with
  | nil => exact ⟨[], rfl, by simp⟩
  | cons p parts ih =>
      obtain ⟨hp, hrest⟩ := List.forall_mem_cons.1 hparts
      have htotal : 0 ≤ Amount.total (parts.map (·.toInt)) := Amount.total_nonneg fun x hx => by
        obtain ⟨p', hp', rfl⟩ := List.mem_map.1 hx
        exact Int.le_of_lt (hrest p' hp')
      have hpays : 0 ≤ p.toInt * s.priceTokens.toInt :=
        Int.mul_nonneg (Int.le_of_lt hp) (Int.le_of_lt htokens)
      have hrestPays : 0 ≤ Amount.total (parts.map (·.toInt)) * s.priceTokens.toInt :=
        Int.mul_nonneg htotal (Int.le_of_lt htokens)
      rw [List.map_cons, Amount.total_cons, Int.add_mul] at hfits ⊢
      obtain ⟨q, hq⟩ := exists_exchange hunits (p := p) ⟨by omega, by omega⟩
      obtain ⟨-, hprice, -⟩ := (exchange_eq_ok_iff hunits).1 hq
      obtain ⟨each, heach, hcost⟩ := ih hrest (by omega)
      refine ⟨q :: each, ?_, ?_⟩
      · rw [List.mapM_cons, hq, heach]
        rfl
      · rw [List.map_cons, Amount.total_cons, Int.add_mul]
        exact Int.add_le_add hprice hcost

/-- **The parts of an amount buy no more than the whole**, and each of them buys what it is worth. -/
theorem exchange_split (hunits : 0 < s.priceUnits.toInt) (htokens : 0 < s.priceTokens.toInt)
    {parts : List Int64} (hparts : ∀ p ∈ parts, 0 < p.toInt) {whole bought : Int64}
    (hwhole : whole.toInt = Amount.total (parts.map (·.toInt)))
    (hbought : s.exchange whole = .ok bought) :
    ∃ each, parts.mapM s.exchange = .ok each ∧
      Amount.total (each.map (·.toInt)) ≤ bought.toInt := by
  obtain ⟨hfits, -, hprice⟩ := (exchange_eq_ok_iff hunits).1 hbought
  rw [hwhole] at hfits hprice
  obtain ⟨each, heach, hcost⟩ := exchange_parts hunits htokens hparts hfits.2
  have hless := Int.lt_of_mul_lt_mul_right (Int.lt_of_le_of_lt hcost hprice) (Int.le_of_lt hunits)
  exact ⟨each, heach, Int.le_of_lt_add_one hless⟩

end Asset

/-! ### Purchases -/

namespace Ledger

/-- So many tokens of an asset move from its issuer to a buyer, and no other holding changes. -/
structure Sold (l : Ledger) (buyer issuer : Address) (name : String) (tokens : Int) (l' : Ledger) :
    Prop where
  bought : Gains (l.holdingsOf buyer) (some (name, tokens)) (l'.holdingsOf buyer)
  sold : Gains (l.holdingsOf issuer) (some (name, -tokens)) (l'.holdingsOf issuer)
  others : ∀ a, a ≠ buyer → a ≠ issuer → l'.holdingsOf a = l.holdingsOf a

end Ledger

section

variable {c : ParticipateAssetIssue} {ctx : Context} {l l' : Ledger}

/-- What an account gains by a purchase. -/
theorem ParticipateAssetIssue.gain?_eq {name : String} {s : Asset} {tokens : Int64}
    (hname : Utf8.repair c.asset = name) (hs : l.asset? name = some s)
    (hpriced : s.exchange c.amount = .ok tokens) (a : Address) :
    (Contract.participateAssetIssue c).gain? l a =
      if a.bytes = c.owner then some (name, tokens.toInt)
      else if a.bytes = c.issuer then some (name, -tokens.toInt) else none := by
  simp only [Contract.gain?, hname, hs, Option.bind_eq_bind, Option.bind_some, hpriced,
    Except.toOption]

/-- **The tokens that a purchase moves.** -/
theorem ParticipateAssetIssue.Effect.sold (h : c.Effect ctx l l') (hc : c.Admissible ctx l)
    (hl : l.AccountsKeyed) : ∃ (buyer issuer : Address) (name : String) (s : Asset) (tokens : Int64),
      buyer.bytes = c.owner ∧ issuer.bytes = c.issuer ∧ Utf8.decode? c.asset = some name ∧
      l.asset? name = some s ∧ s.issuer = issuer ∧ s.exchange c.amount = .ok tokens ∧
      0 < tokens.toInt ∧ l.Sold buyer issuer name tokens.toInt l' := by
  have hgains := Contract.Effect.gains (c := .participateAssetIssue c) h hc hl
  obtain ⟨owner, issuer, name, -, -, -, s, tokens, owner_eq, issuer_eq, -, name_eq, -, ne, -, -, -,
    registered, issued, -, priced, some_tokens, -⟩ := hc
  simp only [gain?_eq (Utf8.repair_eq_of_decode? name_eq) registered priced,
    Address.bytes_eq_iff owner_eq, Address.bytes_eq_iff issuer_eq] at hgains
  refine ⟨owner, issuer, name, s, tokens, owner_eq, issuer_eq, name_eq, registered, issued, priced,
    some_tokens, ?_, ?_, fun a howner hissuer => ?_⟩
  · have hbuyer := hgains owner
    rwa [if_pos rfl] at hbuyer
  · have hissuer := hgains issuer
    rwa [if_neg ne.symm, if_pos rfl] at hissuer
  · have hother := hgains a
    rw [if_neg howner, if_neg hissuer] at hother
    exact hother.unique .nothing

end

/-! ### Prices -/

namespace Ledger

/-- **Prices are exact, and splitting a purchase does not pay.**  Quotients are rounded down as rational
numbers, and only a division by zero and that of the least amount by minus one have none.  A purchase that
succeeds on a consistent ledger moves at least one token from the issuer to the buyer, and as many as its
amount pays for in full at the ratio of the asset.  And where an amount buys tokens at positive terms, each
of its parts does, however it is split, and they buy no more together. -/
theorem sale_price_exact :
    (∀ a b : Int64,
      (∀ q, Amount.floorDiv a b = .ok q ↔ (b ≠ 0 ∧ ¬ (a = Int64.minValue ∧ b = -1)) ∧
        q.toInt = ⌊(a.toInt : ℚ) / b.toInt⌋) ∧
      (∀ e, Amount.floorDiv a b = .error e ↔ (b = 0 ∧ e = .divisionByZero a) ∨
        ((a = Int64.minValue ∧ b = -1) ∧ e = .overflow .div a b))) ∧
    (∀ (l l' : Ledger) (policy : Policy) (now : Int64) (c : ParticipateAssetIssue) (receipt : Receipt),
      l.check = .ok () →
      Engine.apply (.participateAssetIssue c) ⟨now, policy⟩ l = (.ok receipt, l') →
      ∃ (buyer issuer : Address) (name : String) (s : Asset) (tokens : Int64),
        buyer.bytes = c.owner ∧ issuer.bytes = c.issuer ∧ Utf8.decode? c.asset = some name ∧
        l.asset? name = some s ∧ s.issuer = issuer ∧ l.Sold buyer issuer name tokens.toInt l' ∧
        1 ≤ tokens.toInt ∧
        tokens.toInt * s.priceUnits.toInt ≤ c.amount.toInt * s.priceTokens.toInt ∧
        c.amount.toInt * s.priceTokens.toInt < (tokens.toInt + 1) * s.priceUnits.toInt) ∧
    (∀ (s : Asset) (parts : List Int64) (whole bought : Int64), 0 < s.priceUnits.toInt →
      0 < s.priceTokens.toInt → (∀ p ∈ parts, 0 < p.toInt) →
      whole.toInt = Amount.total (parts.map (·.toInt)) → s.exchange whole = .ok bought →
      ∃ each, parts.mapM s.exchange = .ok each ∧
        Amount.total (each.map (·.toInt)) ≤ bought.toInt) := by
  refine ⟨fun a b => ⟨fun q => ?_, fun e => Amount.floorDiv_eq_error_iff⟩,
    fun l l' policy now c receipt hl happly => ?_,
    fun s parts whole bought hunits htokens hparts hwhole hbought =>
      s.exchange_split hunits htokens hparts hwhole hbought⟩
  · rw [floor_div_eq_fdiv]
    exact Amount.floorDiv_eq_ok_iff
  · have hconsistent := check_eq_ok_iff.1 hl
    obtain ⟨-, admissible, done⟩ := Engine.effect_of_apply happly
    obtain ⟨buyer, issuer, name, s, tokens, owner_eq, issuer_eq, name_eq, hs, issued, priced,
      some_tokens, hsold⟩ :=
      ParticipateAssetIssue.Effect.sold done admissible hconsistent.accountsKeyed
    have hunits := (hconsistent.assets name s hs).priceUnits
    obtain ⟨-, hprice⟩ := (Asset.exchange_eq_ok_iff hunits).1 priced
    exact ⟨buyer, issuer, name, s, tokens, owner_eq, issuer_eq, name_eq, hs, issued, hsold,
      some_tokens, hprice⟩

/-- The small ledger, in which the first account sells gold, two tokens for three units. -/
def selling : Ledger :=
  (small.putAsset ⟨"gold", .repeating 1, 1000, 3, 2, 5, 9, "", ""⟩).putAccount
    { Account.opened (.repeating 1) .normal 0 with
      balance := 10000000, holdings := SortedMap.empty.insert "gold" 1000 }

/-- Ten units buy six tokens, and five if they are spent in parts that do not come out even. -/
theorem sale_price_exact_small : ∃ (c : ParticipateAssetIssue) (s : Asset) (l' : Ledger)
    (each : List Int64),
    (-4 : Int64).toInt = ⌊((-7 : Int64).toInt : ℚ) / (2 : Int64).toInt⌋ ∧
    selling.check = .ok () ∧ c.amount = 10 ∧
    Engine.apply (.participateAssetIssue c) ⟨5, {}⟩ selling = (.ok ⟨0, .success⟩, l') ∧
    selling.Sold (.repeating 2) (.repeating 1) "gold" 6 l' ∧
    selling.asset? "gold" = some s ∧ s.exchange 10 = .ok 6 ∧
    [4, 4, 2].mapM s.exchange = .ok each ∧ each = [2, 2, 1] ∧
    Amount.total (each.map (·.toInt)) ≤ 6 := by
  let c : ParticipateAssetIssue :=
    ⟨(Address.repeating 2).bytes, (Address.repeating 1).bytes, [103, 111, 108, 100], 10⟩
  let gold : Asset := ⟨"gold", .repeating 1, 1000, 3, 2, 5, 9, "", ""⟩
  have hcheck : selling.check = .ok () := eq_ok_of_toOption (by decide +kernel)
  have hgold : selling.asset? "gold" = some gold := by decide +kernel
  obtain ⟨l', happly⟩ : ∃ l', Engine.apply (.participateAssetIssue c) ⟨5, {}⟩ selling
      = (.ok ⟨0, .success⟩, l') := exists_ok_of_toOption (by decide +kernel)
  obtain ⟨hfloor, hpurchase, hsplit⟩ := sale_price_exact
  obtain ⟨buyer, issuer, name, s, tokens, hbuyer, hissuer, hname, hs, -, hsold, -, hlow, hhigh⟩ :=
    hpurchase selling l' {} 5 c ⟨0, .success⟩ hcheck happly
  obtain rfl : buyer = .repeating 2 := Address.ext hbuyer
  obtain rfl : issuer = .repeating 1 := Address.ext hissuer
  obtain rfl : "gold" = name := Option.some.inj ((by decide +kernel : _ = some "gold").symm.trans hname)
  obtain rfl : gold = s := Option.some.inj (hgold.symm.trans hs)
  have htokens : tokens.toInt = 6 := by
    change tokens.toInt * 3 ≤ 20 at hlow
    change 20 < (tokens.toInt + 1) * 3 at hhigh
    omega
  have hwhole : gold.exchange 10 = .ok 6 := eq_ok_of_toOption (by decide +kernel)
  have hpositive : ∀ p ∈ [(4 : Int64), 4, 2], 0 < p.toInt := by
    simp only [List.forall_mem_cons, List.not_mem_nil, false_implies, implies_true, and_true]
    decide
  obtain ⟨each, heach, htotal⟩ :=
    hsplit gold [4, 4, 2] 10 6 (by decide) (by decide) hpositive rfl hwhole
  have hparts : [4, 4, 2].mapM gold.exchange = .ok [2, 2, 1] := eq_ok_of_toOption (by decide +kernel)
  exact ⟨c, gold, l', each, (((hfloor (-7) 2).1 (-4)).1 (eq_ok_of_toOption (by decide +kernel))).2,
    hcheck, rfl, happly, htokens ▸ hsold, hgold, hwhole, heach,
    Except.ok.inj (heach.symm.trans hparts), htotal⟩

end Ledger

end AccountLedger
