/-
**Ledgers as documents.**

A ledger is written as an object with all its records in full; reading fills in usual values where
fields are absent and refuses fields it does not know.

Main definitions:

* `Account.toJson`, `Account.ofJson?`, and the same for assets, witnesses and parameters;
* `Ledger.toJson`, `Ledger.ofJson?` — whole ledgers.
-/

import AccountLedger.Json.Reader
import AccountLedger.Ledger.Basic

set_option relaxedAutoImplicit false
set_option autoImplicit false

namespace AccountLedger

open Json (asInt64? asInt32? asUInt64? asText? asBytes? asBool? asList? asMap? asVariant?)

/-! ### Addresses -/

/-- An address is written as its digits. -/
def Address.toJson (a : Address) : Json := .text a.hex

/-- The address that digits of either case denote. -/
def Address.ofText? (s : String) : Option Address := (Address.parse s).toOption

/-- An address from its digits. -/
def Address.ofJson? (j : Json) : Option Address := j.asText?.bind Address.ofText?

/-! ### Accounts -/

/-- The names of the account types in documents. -/
def AccountType.variants : List (String × AccountType) :=
  [("Normal", .normal), ("AssetIssue", .assetIssue), ("Contract", .contract)]

/-- The name of an account type in documents. -/
def AccountType.name : AccountType → String
  | normal => "Normal"
  | assetIssue => "AssetIssue"
  | contract => "Contract"

/-- A lock as a record. -/
def Lock.toJson (k : Lock) : Json :=
  .record [("frozen_balance", .int64 k.amount), ("expire_time", .int64 k.expiry)]

/-- A lock from a record. -/
def Lock.ofJson? (j : Json) : Option Lock := do
  match ← j.fields? ["frozen_balance", "expire_time"] .refused with
  | [amount, expiry] =>
      return ⟨← Field.required asInt64? amount, ← Field.required asInt64? expiry⟩
  | _ => none

/-- A map with text keys. -/
def SortedMap.toJson {κ υ : Type} [Ord κ] (writeKey : κ → String) (writeValue : υ → Json)
    (m : SortedMap κ υ) : Json :=
  .record (m.entries.map fun e => (writeKey e.1, writeValue e.2))

/-- An account as a record. -/
def Account.toJson (a : Account) : Json :=
  .record [
    ("address", a.address.toJson),
    ("account_name", .text (Hex.encode a.name)),
    ("account_type", .text a.type.name),
    ("balance", .int64 a.balance),
    ("frozen", .array (a.locks.map Lock.toJson)),
    ("bandwidth", .int64 a.bandwidth),
    ("allowance", .int64 a.allowance),
    ("latest_withdraw_time", .int64 a.latestWithdrawal),
    ("asset", a.holdings.toJson id Json.int64),
    ("votes", a.votes.toJson Address.hex Json.int64),
    ("is_witness", .bool a.isWitness),
    ("create_time", .int64 a.createTime)]

/-- An account from a record; only address and balance have no usual value. -/
def Account.ofJson? (j : Json) : Option Account := do
  match ← j.fields? ["address", "account_name", "account_type", "balance", "frozen", "bandwidth",
      "allowance", "latest_withdraw_time", "asset", "votes", "is_witness", "create_time"]
      .refused with
  | [address, name, type, balance, locks, bandwidth, allowance, latestWithdrawal, holdings, votes,
      isWitness, createTime] => do
      return {
        address := ← Field.required Address.ofJson? address
        name := ← Field.orElse asBytes? [] name
        type := ← Field.orElse (asVariant? AccountType.variants) .normal type
        balance := ← Field.required asInt64? balance
        locks := ← Field.orElse (asList? Lock.ofJson?) [] locks
        bandwidth := ← Field.orElse asInt64? 0 bandwidth
        allowance := ← Field.orElse asInt64? 0 allowance
        latestWithdrawal := ← Field.orElse asInt64? 0 latestWithdrawal
        holdings := ← Field.orElse (asMap? some asInt64?) .empty holdings
        votes := ← Field.orElse (asMap? Address.ofText? asInt64?) .empty votes
        isWitness := ← Field.orElse asBool? false isWitness
        createTime := ← Field.orElse asInt64? 0 createTime }
  | _ => none

/-! ### Assets, witnesses and parameters -/

/-- An asset as a record. -/
def Asset.toJson (a : Asset) : Json :=
  .record [
    ("name", .text a.name),
    ("owner_address", a.issuer.toJson),
    ("total_supply", .int64 a.totalSupply),
    ("trx_num", .int a.priceUnits.toInt),
    ("num", .int a.priceTokens.toInt),
    ("start_time", .int64 a.startTime),
    ("end_time", .int64 a.endTime),
    ("description", .text a.description),
    ("url", .text a.url)]

/-- An asset from a record; description and page address are usually empty. -/
def Asset.ofJson? (j : Json) : Option Asset := do
  match ← j.fields? ["name", "owner_address", "total_supply", "trx_num", "num", "start_time",
      "end_time", "description", "url"] .refused with
  | [name, issuer, totalSupply, priceUnits, priceTokens, startTime, endTime, description, url] => do
      return {
        name := ← Field.required asText? name
        issuer := ← Field.required Address.ofJson? issuer
        totalSupply := ← Field.required asInt64? totalSupply
        priceUnits := ← Field.required asInt32? priceUnits
        priceTokens := ← Field.required asInt32? priceTokens
        startTime := ← Field.required asInt64? startTime
        endTime := ← Field.required asInt64? endTime
        description := ← Field.orElse asText? "" description
        url := ← Field.orElse asText? "" url }
  | _ => none

/-- A witness as a record. -/
def Witness.toJson (w : Witness) : Json :=
  .record [
    ("address", w.address.toJson),
    ("url", .text w.url),
    ("vote_count", .int64 w.voteCount)]

/-- A witness from a record; the vote count is usually zero. -/
def Witness.ofJson? (j : Json) : Option Witness := do
  match ← j.fields? ["address", "url", "vote_count"] .refused with
  | [address, url, voteCount] => do
      return {
        address := ← Field.required Address.ofJson? address
        url := ← Field.required asText? url
        voteCount := ← Field.orElse asInt64? 0 voteCount }
  | _ => none

/-- Parameters as a record. -/
def Parameters.toJson (p : Parameters) : Json :=
  .record [
    ("min_frozen_balance", .int64 p.minFrozenBalance),
    ("min_frozen_time", .int64 p.minFrozenTime),
    ("max_frozen_time", .int64 p.maxFrozenTime),
    ("max_vote_number", .int p.maxVoteNumber.toNat),
    ("witness_allowance_frozen_time", .int64 p.withdrawalCooldown),
    ("account_upgrade_cost", .int64 p.accountUpgradeCost),
    ("bandwidth_per_coinday", .int64 p.bandwidthPerCoinDay),
    ("non_existent_account_transfer_min", .int64 p.openingTransferMin),
    ("vote_unit", .int64 p.voteUnit)]

/-- Parameters from a record; every one has a usual value. -/
def Parameters.ofJson? (j : Json) : Option Parameters := do
  let usual : Parameters := {}
  match ← j.fields? ["min_frozen_balance", "min_frozen_time", "max_frozen_time", "max_vote_number",
      "witness_allowance_frozen_time", "account_upgrade_cost", "bandwidth_per_coinday",
      "non_existent_account_transfer_min", "vote_unit"] .refused with
  | [minFrozenBalance, minFrozenTime, maxFrozenTime, maxVoteNumber, withdrawalCooldown,
      accountUpgradeCost, bandwidthPerCoinDay, openingTransferMin, voteUnit] => do
      return {
        minFrozenBalance := ← Field.orElse asInt64? usual.minFrozenBalance minFrozenBalance
        minFrozenTime := ← Field.orElse asInt64? usual.minFrozenTime minFrozenTime
        maxFrozenTime := ← Field.orElse asInt64? usual.maxFrozenTime maxFrozenTime
        maxVoteNumber := ← Field.orElse asUInt64? usual.maxVoteNumber maxVoteNumber
        withdrawalCooldown := ← Field.orElse asInt64? usual.withdrawalCooldown withdrawalCooldown
        accountUpgradeCost := ← Field.orElse asInt64? usual.accountUpgradeCost accountUpgradeCost
        bandwidthPerCoinDay := ← Field.orElse asInt64? usual.bandwidthPerCoinDay bandwidthPerCoinDay
        openingTransferMin := ← Field.orElse asInt64? usual.openingTransferMin openingTransferMin
        voteUnit := ← Field.orElse asInt64? usual.voteUnit voteUnit }
  | _ => none

/-! ### Ledgers -/

/-- A ledger as a record. -/
def Ledger.toJson (l : Ledger) : Json :=
  .record [
    ("blackhole", l.sink.toJson),
    ("parameters", l.parameters.toJson),
    ("accounts", l.accounts.toJson Address.hex Account.toJson),
    ("assets", l.assets.toJson id Asset.toJson),
    ("witnesses", l.witnesses.toJson Address.hex Witness.toJson)]

/-- A ledger from a record; only the sink has no usual value. -/
def Ledger.ofJson? (j : Json) : Option Ledger := do
  match ← j.fields? ["blackhole", "parameters", "accounts", "assets", "witnesses"] .refused with
  | [sink, parameters, accounts, assets, witnesses] => do
      return {
        sink := ← Field.required Address.ofJson? sink
        parameters := ← Field.orElse Parameters.ofJson? {} parameters
        accounts := ← Field.orElse (asMap? Address.ofText? Account.ofJson?) .empty accounts
        assets := ← Field.orElse (asMap? some Asset.ofJson?) .empty assets
        witnesses := ← Field.orElse (asMap? Address.ofText? Witness.ofJson?) .empty witnesses }
  | _ => none

end AccountLedger
