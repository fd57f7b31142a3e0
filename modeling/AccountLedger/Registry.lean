/-
**Registered assets, witnesses and network parameters.**

Main definitions:

* `Asset`, `Asset.isOpenAt` — an issued asset and its sale window;
* `Asset.exchange` — the tokens that native units buy;
* `Witness` — a block-producer candidate;
* `Parameters` — the tunable limits of the network, with their usual values.
-/

import AccountLedger.Address
import AccountLedger.Amount

set_option relaxedAutoImplicit false
set_option autoImplicit false

namespace AccountLedger

/-! ### Assets -/

/-- An issued asset.  `priceUnits` native units buy `priceTokens` tokens while the sale is open. -/
structure Asset where
  name : String
  issuer : Address
  totalSupply : Int64
  priceUnits : Int32
  priceTokens : Int32
  startTime : Int64
  endTime : Int64
  description : String
  url : String
  deriving DecidableEq

namespace Asset

/-- The sale is open from the start time until just before the end time. -/
def isOpenAt (a : Asset) (now : Int64) : Bool := a.startTime ≤ now && now < a.endTime

/-- The tokens that `amount` native units buy, rounded down. -/
def exchange (a : Asset) (amount : Int64) : Except ArithmeticError Int64 := do
  Amount.floorDiv (← Amount.mul amount a.priceTokens.toInt64) a.priceUnits.toInt64

end Asset

/-! ### Witnesses -/

/-- A block-producer candidate.  Its vote count is kept by an external tally. -/
structure Witness where
  address : Address
  url : String
  voteCount : Int64
  deriving DecidableEq

/-! ### Parameters -/

/-- The tunable limits of the network. -/
structure Parameters where
  /-- The least stake of a freeze. -/
  minFrozenBalance : Int64 := 1000000
  /-- The least duration of a freeze, in days. -/
  minFrozenTime : Int64 := 3
  /-- The greatest duration of a freeze, in days. -/
  maxFrozenTime : Int64 := 3
  maxVoteNumber : UInt64 := 30
  /-- The cooldown between withdrawals, in days. -/
  withdrawalCooldown : Int64 := 1
  accountUpgradeCost : Int64 := 9999000000
  /-- The bandwidth earned by one unit frozen for one day. -/
  bandwidthPerCoinDay : Int64 := 1
  /-- The least amount of a transfer that opens its recipient's account. -/
  openingTransferMin : Int64 := 1000000
  /-- Native units per vote. -/
  voteUnit : Int64 := 1000000
  deriving DecidableEq, Repr

end AccountLedger
