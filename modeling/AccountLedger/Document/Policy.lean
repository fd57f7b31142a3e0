/-
**Fees and policies as documents.**

Main definitions:

* `FeeSchedule.toJson`, `FeeSchedule.read?` — the fees as a record;
* `Policy.toJson`, `Policy.read?` — the whole policy as a record;
* `Policy.ofJson?` — a policy from a JSON value.
-/

import AccountLedger.Document.Source
import AccountLedger.Policy

set_option relaxedAutoImplicit false
set_option autoImplicit false

namespace AccountLedger

open Source (asInt64? asVariant?)

/-! ### Fees -/

/-- The names of the fees in documents. -/
def FeeSchedule.names : List String :=
  ["transfer", "transfer_asset", "asset_issue", "participate_asset_issue", "freeze_balance",
    "unfreeze_balance", "witness_create", "witness_update", "account_update", "vote_witness",
    "withdraw_balance"]

/-- The fees as a record. -/
def FeeSchedule.toJson (s : FeeSchedule) : Json :=
  .record [
    ("transfer", .int64 s.transfer),
    ("transfer_asset", .int64 s.transferAsset),
    ("asset_issue", .int64 s.assetIssue),
    ("participate_asset_issue", .int64 s.participateAssetIssue),
    ("freeze_balance", .int64 s.freezeBalance),
    ("unfreeze_balance", .int64 s.unfreezeBalance),
    ("witness_create", .int64 s.witnessCreate),
    ("witness_update", .int64 s.witnessUpdate),
    ("account_update", .int64 s.accountUpdate),
    ("vote_witness", .int64 s.voteWitness),
    ("withdraw_balance", .int64 s.withdrawBalance)]

/-- The fees from a record; every one has a usual value. -/
def FeeSchedule.read? {δ : Type} [Source δ] (d : δ) : Option FeeSchedule := do
  let usual : FeeSchedule := {}
  match ← Source.fields? FeeSchedule.names d with
  | [transfer, transferAsset, assetIssue, participateAssetIssue, freezeBalance, unfreezeBalance,
      witnessCreate, witnessUpdate, accountUpdate, voteWitness, withdrawBalance] => do
      return {
        transfer := ← Field.orElse asInt64? usual.transfer transfer
        transferAsset := ← Field.orElse asInt64? usual.transferAsset transferAsset
        assetIssue := ← Field.orElse asInt64? usual.assetIssue assetIssue
        participateAssetIssue :=
          ← Field.orElse asInt64? usual.participateAssetIssue participateAssetIssue
        freezeBalance := ← Field.orElse asInt64? usual.freezeBalance freezeBalance
        unfreezeBalance := ← Field.orElse asInt64? usual.unfreezeBalance unfreezeBalance
        witnessCreate := ← Field.orElse asInt64? usual.witnessCreate witnessCreate
        witnessUpdate := ← Field.orElse asInt64? usual.witnessUpdate witnessUpdate
        accountUpdate := ← Field.orElse asInt64? usual.accountUpdate accountUpdate
        voteWitness := ← Field.orElse asInt64? usual.voteWitness voteWitness
        withdrawBalance := ← Field.orElse asInt64? usual.withdrawBalance withdrawBalance }
  | _ => none

/-! ### Rules -/

/-- The names of the account update rules in documents. -/
def AccountUpdateRule.variants : List (String × AccountUpdateRule) :=
  [("require_existing", .requireExisting), ("reject_existing", .rejectExisting)]

/-- The name of an account update rule in documents. -/
def AccountUpdateRule.name : AccountUpdateRule → String
  | requireExisting => "require_existing"
  | rejectExisting => "reject_existing"

/-- The names of the failed fee rules in documents. -/
def FailedFeeRule.variants : List (String × FailedFeeRule) :=
  [("charge", .charge), ("record_only", .recordOnly)]

/-- The name of a failed fee rule in documents. -/
def FailedFeeRule.name : FailedFeeRule → String
  | charge => "charge"
  | recordOnly => "record_only"

/-! ### Policies -/

/-- The names of a policy's fields in documents. -/
def Policy.names : List String := ["fees", "update_account_policy", "failed_fee_policy"]

/-- A policy as a record. -/
def Policy.toJson (p : Policy) : Json :=
  .record [
    ("fees", p.fees.toJson),
    ("update_account_policy", .text p.accountUpdate.name),
    ("failed_fee_policy", .text p.failedFee.name)]

/-- A policy from a record; every field has a usual value. -/
def Policy.read? {δ : Type} [Source δ] (d : δ) : Option Policy := do
  match ← Source.fields? Policy.names d with
  | [fees, accountUpdate, failedFee] => do
      return {
        fees := ← Field.orElse FeeSchedule.read? {} fees
        accountUpdate :=
          ← Field.orElse (asVariant? AccountUpdateRule.variants) .requireExisting accountUpdate
        failedFee := ← Field.orElse (asVariant? FailedFeeRule.variants) .charge failedFee }
  | _ => none

/-- A policy from a JSON value. -/
def Policy.ofJson? (j : Json) : Option Policy := Policy.read? j

end AccountLedger
