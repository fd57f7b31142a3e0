/-
**Issuing, moving and buying assets.**

Main definitions:

* `AssetIssue.check`, `AssetIssue.execute` — registering an asset, its supply going to the issuer;
* `TransferAsset.check`, `TransferAsset.execute` — moving tokens between accounts;
* `ParticipateAssetIssue.check`, `ParticipateAssetIssue.execute` — buying tokens from the issuer.
-/

import AccountLedger.Engine.Steps

set_option relaxedAutoImplicit false
set_option autoImplicit false

namespace AccountLedger

/-! ### Issuing -/

namespace AssetIssue

/-- The terms are positive, the sale ends after it starts, the name is new, and the fee is
covered. -/
def check (c : AssetIssue) (ctx : Context) (l : Ledger) : Check Unit := do
  let owner ← Check.address .owner c.owner
  let name ← Check.assetName c.name
  Check.positive .totalSupply c.totalSupply
  require (0 < c.priceUnits) (.nonPositive .priceUnits)
  require (0 < c.priceTokens) (.nonPositive .priceTokens)
  require (c.startTime < c.endTime) (.refused .saleEndsBeforeStart)
  let account ← Check.account l .owner owner
  require (l.hasAsset name = false) (.assetExists name)
  Check.covered (ctx.fee .assetIssue) account.balance

/-- Registers the asset, charges the fee, and credits the whole supply to the owner. -/
def execute (c : AssetIssue) (ctx : Context) : Execution Unit := do
  let owner ← Execution.address c.owner
  let name := Utf8.repair c.name
  Execution.step <| Update.putAsset {
    name := name
    issuer := owner
    totalSupply := c.totalSupply
    priceUnits := c.priceUnits
    priceTokens := c.priceTokens
    startTime := c.startTime
    endTime := c.endTime
    description := Utf8.repair c.description
    url := Utf8.repair c.url }
  Execution.charge owner (ctx.fee .assetIssue)
  -- Read after the fee has left, so that the record stored below does not bring it back.
  let account ← Execution.account .owner owner
  Execution.put (← Execution.compute (account.credit name c.totalSupply))

end AssetIssue

/-! ### Moving tokens -/

namespace TransferAsset

/-- Owner and recipient differ and have accounts, the asset exists, and the owner holds the amount
and covers the fee. -/
def check (c : TransferAsset) (ctx : Context) (l : Ledger) : Check Unit := do
  let fee := ctx.fee .transferAsset
  let owner ← Check.address .owner c.owner
  let recipient ← Check.address .recipient c.recipient
  let asset ← Check.assetName c.asset
  Check.positive .amount c.amount
  require (owner ≠ recipient) .sameAccount
  let account ← Check.account l .owner owner
  require (l.hasAsset asset) (.assetNotFound asset)
  Check.covered fee account.balance
  let held := account.holding asset
  require (0 < held ∧ c.amount ≤ held) (.insufficientAsset asset c.amount held)
  let receiver ← Check.account l .recipient recipient
  discard (Check.compute (Amount.add (receiver.holding asset) c.amount))

/-- Takes the tokens from the owner, gives them to the recipient, and charges the fee. -/
def execute (c : TransferAsset) (ctx : Context) : Execution Unit := do
  let owner ← Execution.address c.owner
  let recipient ← Execution.address c.recipient
  let asset := Utf8.repair c.asset
  let account ← Execution.account .owner owner
  match ← Execution.compute (account.debit asset c.amount) with
  | none => throw (.assetReduction owner asset c.amount)
  | some debited => Execution.put debited
  let receiver ← Execution.account .recipient recipient
  Execution.put (← Execution.compute (receiver.credit asset c.amount))
  Execution.charge owner (ctx.fee .transferAsset)

end TransferAsset

/-! ### Buying tokens -/

namespace ParticipateAssetIssue

/-- The named issuer sells the asset now, the buyer can pay amount and fee, and the issuer holds
the tokens that the amount buys, at least one. -/
def check (c : ParticipateAssetIssue) (ctx : Context) (l : Ledger) : Check Unit := do
  let owner ← Check.address .owner c.owner
  let issuer ← Check.address .recipient c.issuer
  let name ← Check.assetName c.asset
  Check.positive .amount c.amount
  require (owner ≠ issuer) .sameAccount
  let buyer ← Check.account l .owner owner
  let required ← Check.compute (Amount.add c.amount (ctx.fee .participateAssetIssue))
  Check.covered required buyer.balance
  let asset ← Check.asset l name
  require (asset.issuer = issuer) (.refused (.notIssuedBy name issuer))
  require (asset.isOpenAt ctx.now) (.refused (.notOnSale name ctx.now))
  let tokens ← Check.compute (asset.exchange c.amount)
  Check.positive .exchange tokens
  let seller ← Check.account l .recipient issuer
  let held := seller.holding name
  require (tokens ≤ held) (.insufficientAsset name tokens held)
  discard (Check.compute (Amount.add (buyer.holding name) tokens))
  discard (Check.compute (Amount.add seller.balance c.amount))

/-- Moves the amount from the buyer to the issuer and the tokens the other way, and charges the
fee. -/
def execute (c : ParticipateAssetIssue) (ctx : Context) : Execution Unit := do
  let owner ← Execution.address c.owner
  let issuer ← Execution.address c.issuer
  let name := Utf8.repair c.asset
  let asset ←
    match ← Execution.step (Update.asset? name) with
    | none => throw (.inconsistent (.assetVanished name))
    | some asset => pure asset
  let tokens ← Execution.compute (asset.exchange c.amount)
  -- Buyer, issuer and sink may coincide here, so every record is read after the last write to it.
  Execution.adjust owner (-c.amount)
  let buyer ← Execution.account .owner owner
  Execution.put (← Execution.compute (buyer.credit name tokens))
  Execution.adjust issuer c.amount
  let seller ← Execution.account .recipient issuer
  match ← Execution.compute (seller.debit name tokens) with
  | none => throw (.assetReduction issuer name tokens)
  | some debited => Execution.put debited
  Execution.charge owner (ctx.fee .participateAssetIssue)

end ParticipateAssetIssue

end AccountLedger
