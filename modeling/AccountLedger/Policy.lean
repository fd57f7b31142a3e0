/-
**Fees and policies.**

Main definitions:

* `FeeSchedule`, `FeeSchedule.fee` — the fixed fee of each kind of contract;
* `AccountUpdateRule`, `FailedFeeRule` — two choices an operator makes;
* `Policy` — all of them together, with their usual values.
-/

import AccountLedger.Contract

set_option relaxedAutoImplicit false
set_option autoImplicit false

namespace AccountLedger

/-- The fixed fee of each kind of contract. -/
structure FeeSchedule where
  transfer : Int64 := 0
  transferAsset : Int64 := 0
  assetIssue : Int64 := 1024000000
  participateAssetIssue : Int64 := 0
  freezeBalance : Int64 := 0
  unfreezeBalance : Int64 := 0
  witnessCreate : Int64 := 0
  witnessUpdate : Int64 := 0
  accountUpdate : Int64 := 0
  voteWitness : Int64 := 0
  withdrawBalance : Int64 := 0
  deriving DecidableEq, Repr

/-- The fee of one kind. -/
def FeeSchedule.fee (s : FeeSchedule) : Kind → Int64
  | .transfer => s.transfer
  | .transferAsset => s.transferAsset
  | .assetIssue => s.assetIssue
  | .participateAssetIssue => s.participateAssetIssue
  | .freezeBalance => s.freezeBalance
  | .unfreezeBalance => s.unfreezeBalance
  | .witnessCreate => s.witnessCreate
  | .witnessUpdate => s.witnessUpdate
  | .accountUpdate => s.accountUpdate
  | .voteWitness => s.voteWitness
  | .withdrawBalance => s.withdrawBalance

/-- Whose account an account update names. -/
inductive AccountUpdateRule
  /-- An account that exists; it is renamed. -/
  | requireExisting
  /-- An account that does not exist; it is opened under the name. -/
  | rejectExisting
  deriving DecidableEq, Repr

/-- What becomes of the fee of a contract that failed. -/
inductive FailedFeeRule
  /-- It is collected after the contract's writes are discarded. -/
  | charge
  /-- It is reported but not collected. -/
  | recordOnly
  deriving DecidableEq, Repr

/-- What an operator may configure. -/
structure Policy where
  fees : FeeSchedule := {}
  accountUpdate : AccountUpdateRule := .requireExisting
  failedFee : FailedFeeRule := .charge
  deriving DecidableEq, Repr

end AccountLedger
