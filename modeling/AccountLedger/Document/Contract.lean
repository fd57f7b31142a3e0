/-
**Contracts as documents.**

A contract names its kind under `type` and carries its payload under `parameter`; both may also
stand in an array, the kind first.  Fields beside these two, and fields that a payload does not
have, are ignored.  A payload that stands before its kind has to be set aside until the kind is
known, so nothing in it may be ill-formed, not even where it would be ignored.

Main definitions:

* `Contract.toJson`, `Contract.ofJson?` — contracts as records.
-/

import AccountLedger.Contract
import AccountLedger.Json.Reader

set_option relaxedAutoImplicit false
set_option autoImplicit false

namespace AccountLedger

open Json (asInt64? asInt32? asBytes? asList?)

/-- Bytes as digits. -/
def Json.bytes (bs : Bytes) : Json := .text (Hex.encode bs)

/-! ### Payloads -/

/-- A transfer as a record. -/
def Transfer.toJson (c : Transfer) : Json :=
  .record [("owner_address", .bytes c.owner), ("to_address", .bytes c.recipient),
    ("amount", .int64 c.amount)]

/-- A transfer from a record. -/
def Transfer.ofJson? (j : Json) : Option Transfer := do
  match ← j.fields? ["owner_address", "to_address", "amount"] .ignored with
  | [owner, recipient, amount] => do
      return {
        owner := ← Field.required asBytes? owner
        recipient := ← Field.required asBytes? recipient
        amount := ← Field.required asInt64? amount }
  | _ => none

/-- An asset transfer as a record. -/
def TransferAsset.toJson (c : TransferAsset) : Json :=
  .record [("asset_name", .bytes c.asset), ("owner_address", .bytes c.owner),
    ("to_address", .bytes c.recipient), ("amount", .int64 c.amount)]

/-- An asset transfer from a record. -/
def TransferAsset.ofJson? (j : Json) : Option TransferAsset := do
  match ← j.fields? ["asset_name", "owner_address", "to_address", "amount"] .ignored with
  | [asset, owner, recipient, amount] => do
      return {
        asset := ← Field.required asBytes? asset
        owner := ← Field.required asBytes? owner
        recipient := ← Field.required asBytes? recipient
        amount := ← Field.required asInt64? amount }
  | _ => none

/-- An asset issue as a record. -/
def AssetIssue.toJson (c : AssetIssue) : Json :=
  .record [("owner_address", .bytes c.owner), ("name", .bytes c.name),
    ("total_supply", .int64 c.totalSupply), ("trx_num", .int c.priceUnits.toInt),
    ("num", .int c.priceTokens.toInt), ("start_time", .int64 c.startTime),
    ("end_time", .int64 c.endTime), ("description", .bytes c.description), ("url", .bytes c.url)]

/-- An asset issue from a record. -/
def AssetIssue.ofJson? (j : Json) : Option AssetIssue := do
  match ← j.fields? ["owner_address", "name", "total_supply", "trx_num", "num", "start_time",
      "end_time", "description", "url"] .ignored with
  | [owner, name, totalSupply, priceUnits, priceTokens, startTime, endTime, description, url] => do
      return {
        owner := ← Field.required asBytes? owner
        name := ← Field.required asBytes? name
        totalSupply := ← Field.required asInt64? totalSupply
        priceUnits := ← Field.required asInt32? priceUnits
        priceTokens := ← Field.required asInt32? priceTokens
        startTime := ← Field.required asInt64? startTime
        endTime := ← Field.required asInt64? endTime
        description := ← Field.orElse asBytes? [] description
        url := ← Field.orElse asBytes? [] url }
  | _ => none

/-- A purchase as a record. -/
def ParticipateAssetIssue.toJson (c : ParticipateAssetIssue) : Json :=
  .record [("owner_address", .bytes c.owner), ("to_address", .bytes c.issuer),
    ("asset_name", .bytes c.asset), ("amount", .int64 c.amount)]

/-- A purchase from a record. -/
def ParticipateAssetIssue.ofJson? (j : Json) : Option ParticipateAssetIssue := do
  match ← j.fields? ["owner_address", "to_address", "asset_name", "amount"] .ignored with
  | [owner, issuer, asset, amount] => do
      return {
        owner := ← Field.required asBytes? owner
        issuer := ← Field.required asBytes? issuer
        asset := ← Field.required asBytes? asset
        amount := ← Field.required asInt64? amount }
  | _ => none

/-- A freeze as a record. -/
def FreezeBalance.toJson (c : FreezeBalance) : Json :=
  .record [("owner_address", .bytes c.owner), ("frozen_balance", .int64 c.amount),
    ("frozen_duration", .int64 c.days)]

/-- A freeze from a record. -/
def FreezeBalance.ofJson? (j : Json) : Option FreezeBalance := do
  match ← j.fields? ["owner_address", "frozen_balance", "frozen_duration"] .ignored with
  | [owner, amount, days] => do
      return {
        owner := ← Field.required asBytes? owner
        amount := ← Field.required asInt64? amount
        days := ← Field.required asInt64? days }
  | _ => none

/-- A release as a record. -/
def UnfreezeBalance.toJson (c : UnfreezeBalance) : Json :=
  .record [("owner_address", .bytes c.owner)]

/-- A release from a record. -/
def UnfreezeBalance.ofJson? (j : Json) : Option UnfreezeBalance := do
  match ← j.fields? ["owner_address"] .ignored with
  | [owner] => return { owner := ← Field.required asBytes? owner }
  | _ => none

/-- A witness registration as a record. -/
def WitnessCreate.toJson (c : WitnessCreate) : Json :=
  .record [("owner_address", .bytes c.owner), ("url", .bytes c.url)]

/-- A witness registration from a record. -/
def WitnessCreate.ofJson? (j : Json) : Option WitnessCreate := do
  match ← j.fields? ["owner_address", "url"] .ignored with
  | [owner, url] => do
      return {
        owner := ← Field.required asBytes? owner
        url := ← Field.required asBytes? url }
  | _ => none

/-- A witness update as a record. -/
def WitnessUpdate.toJson (c : WitnessUpdate) : Json :=
  .record [("owner_address", .bytes c.owner), ("update_url", .bytes c.url)]

/-- A witness update from a record. -/
def WitnessUpdate.ofJson? (j : Json) : Option WitnessUpdate := do
  match ← j.fields? ["owner_address", "update_url"] .ignored with
  | [owner, url] => do
      return {
        owner := ← Field.required asBytes? owner
        url := ← Field.required asBytes? url }
  | _ => none

/-- An account update as a record. -/
def AccountUpdate.toJson (c : AccountUpdate) : Json :=
  .record [("account_name", .bytes c.name), ("owner_address", .bytes c.owner)]

/-- An account update from a record. -/
def AccountUpdate.ofJson? (j : Json) : Option AccountUpdate := do
  match ← j.fields? ["account_name", "owner_address"] .ignored with
  | [name, owner] => do
      return {
        name := ← Field.required asBytes? name
        owner := ← Field.required asBytes? owner }
  | _ => none

/-- A vote as a record. -/
def Vote.toJson (v : Vote) : Json :=
  .record [("vote_address", .bytes v.target), ("vote_count", .int64 v.count)]

/-- A vote from a record. -/
def Vote.ofJson? (j : Json) : Option Vote := do
  match ← j.fields? ["vote_address", "vote_count"] .ignored with
  | [target, count] => do
      return {
        target := ← Field.required asBytes? target
        count := ← Field.required asInt64? count }
  | _ => none

/-- A ballot as a record. -/
def VoteWitness.toJson (c : VoteWitness) : Json :=
  .record [("owner_address", .bytes c.owner), ("votes", .array (c.votes.map Vote.toJson))]

/-- A ballot from a record. -/
def VoteWitness.ofJson? (j : Json) : Option VoteWitness := do
  match ← j.fields? ["owner_address", "votes"] .ignored with
  | [owner, votes] => do
      return {
        owner := ← Field.required asBytes? owner
        votes := ← Field.required (asList? Vote.ofJson?) votes }
  | _ => none

/-- A withdrawal as a record. -/
def WithdrawBalance.toJson (c : WithdrawBalance) : Json :=
  .record [("owner_address", .bytes c.owner)]

/-- A withdrawal from a record. -/
def WithdrawBalance.ofJson? (j : Json) : Option WithdrawBalance := do
  match ← j.fields? ["owner_address"] .ignored with
  | [owner] => return { owner := ← Field.required asBytes? owner }
  | _ => none

/-! ### Contracts -/

namespace Contract

/-- The payload of a contract as a record. -/
def payloadJson : Contract → Json
  | transfer c => c.toJson
  | transferAsset c => c.toJson
  | assetIssue c => c.toJson
  | participateAssetIssue c => c.toJson
  | freezeBalance c => c.toJson
  | unfreezeBalance c => c.toJson
  | witnessCreate c => c.toJson
  | witnessUpdate c => c.toJson
  | accountUpdate c => c.toJson
  | voteWitness c => c.toJson
  | withdrawBalance c => c.toJson

/-- A contract as a record. -/
def toJson (c : Contract) : Json :=
  .record [("type", .text c.kind.name), ("parameter", c.payloadJson)]

/-- The contract of a kind with a given payload. -/
def ofPayload? (k : Kind) (j : Json) : Option Contract :=
  match k with
  | .transfer => (Transfer.ofJson? j).map transfer
  | .transferAsset => (TransferAsset.ofJson? j).map transferAsset
  | .assetIssue => (AssetIssue.ofJson? j).map assetIssue
  | .participateAssetIssue => (ParticipateAssetIssue.ofJson? j).map participateAssetIssue
  | .freezeBalance => (FreezeBalance.ofJson? j).map freezeBalance
  | .unfreezeBalance => (UnfreezeBalance.ofJson? j).map unfreezeBalance
  | .witnessCreate => (WitnessCreate.ofJson? j).map witnessCreate
  | .witnessUpdate => (WitnessUpdate.ofJson? j).map witnessUpdate
  | .accountUpdate => (AccountUpdate.ofJson? j).map accountUpdate
  | .voteWitness => (VoteWitness.ofJson? j).map voteWitness
  | .withdrawBalance => (WithdrawBalance.ofJson? j).map withdrawBalance

/-- The greatest number of containers that may enclose one another in a value that is set aside,
counted from the whole document. -/
def maxNesting : Nat := 127

/-- **A contract from a record** that stands in `depth` other containers.  Kind and payload appear
once each; a payload that comes first is set aside until the kind is known. -/
def ofJson? (depth : Nat) (j : Json) : Option Contract := do
  match j with
  | .array [type, parameter] => do
      let kind ← type.asVariant? (Kind.all.map fun k => (k.name, k))
      ofPayload? kind parameter
  | .object members => do
      match ← Json.knownMembers? ["type", "parameter"] .ignored members with
      | [("type", type), ("parameter", parameter)] => do
          let kind ← type.asVariant? (Kind.all.map fun k => (k.name, k))
          ofPayload? kind parameter
      | [("parameter", parameter), ("type", type)] => do
          -- The payload stands one level below the record.
          if !parameter.isBounded (maxNesting - (depth + 1)) then none
          let kind ← type.asVariant? (Kind.all.map fun k => (k.name, k))
          ofPayload? kind parameter
      | _ => none
  | _ => none

end Contract

end AccountLedger
