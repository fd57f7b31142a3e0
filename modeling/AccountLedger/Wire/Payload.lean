/-
**The payloads of contracts as messages.**

Each kind of contract has a message of its own, which holds the fields of its payload under fixed
numbers.

Main definitions:

* the `Message` instances of the payload structures;
* `Contract.encodePayload` — the bytes of a contract's payload;
* `Contract.decodePayload?` — the contract of a kind that a row of bytes denotes.
-/

import AccountLedger.Contract
import AccountLedger.Wire.Message

set_option relaxedAutoImplicit false
set_option autoImplicit false

namespace AccountLedger

open Message
open Record (bytes int64 int32)

/-! ### Balances and accounts -/

instance : Message Transfer where
  blank := ⟨[], [], 0⟩
  records c := bytes 1 c.owner ++ bytes 2 c.recipient ++ int64 3 c.amount
  merge? _ c r :=
    match r.number with
    | 1 => r.payload.asBytes?.map fun v => { c with owner := v }
    | 2 => r.payload.asBytes?.map fun v => { c with recipient := v }
    | 3 => r.payload.asInt64?.map fun v => { c with amount := v }
    | _ => some c

instance : Message FreezeBalance where
  blank := ⟨[], 0, 0⟩
  records c := bytes 1 c.owner ++ int64 2 c.amount ++ int64 3 c.days
  merge? _ c r :=
    match r.number with
    | 1 => r.payload.asBytes?.map fun v => { c with owner := v }
    | 2 => r.payload.asInt64?.map fun v => { c with amount := v }
    | 3 => r.payload.asInt64?.map fun v => { c with days := v }
    | _ => some c

instance : Message UnfreezeBalance where
  blank := ⟨[]⟩
  records c := bytes 1 c.owner
  merge? _ c r :=
    match r.number with
    | 1 => r.payload.asBytes?.map fun v => { c with owner := v }
    | _ => some c

instance : Message WithdrawBalance where
  blank := ⟨[]⟩
  records c := bytes 1 c.owner
  merge? _ c r :=
    match r.number with
    | 1 => r.payload.asBytes?.map fun v => { c with owner := v }
    | _ => some c

instance : Message AccountUpdate where
  blank := ⟨[], []⟩
  records c := bytes 1 c.name ++ bytes 2 c.owner
  merge? _ c r :=
    match r.number with
    | 1 => r.payload.asBytes?.map fun v => { c with name := v }
    | 2 => r.payload.asBytes?.map fun v => { c with owner := v }
    | _ => some c

/-! ### Assets -/

instance : Message TransferAsset where
  blank := ⟨[], [], [], 0⟩
  records c :=
    bytes 1 c.asset ++ bytes 2 c.owner ++ bytes 3 c.recipient ++ int64 4 c.amount
  merge? _ c r :=
    match r.number with
    | 1 => r.payload.asBytes?.map fun v => { c with asset := v }
    | 2 => r.payload.asBytes?.map fun v => { c with owner := v }
    | 3 => r.payload.asBytes?.map fun v => { c with recipient := v }
    | 4 => r.payload.asInt64?.map fun v => { c with amount := v }
    | _ => some c

instance : Message AssetIssue where
  blank := ⟨[], [], 0, 0, 0, 0, 0, [], []⟩
  records c :=
    bytes 1 c.owner ++ bytes 2 c.name ++ int64 4 c.totalSupply ++ int32 6 c.priceUnits
      ++ int32 8 c.priceTokens ++ int64 9 c.startTime ++ int64 10 c.endTime
      ++ bytes 20 c.description ++ bytes 21 c.url
  merge? _ c r :=
    match r.number with
    | 1 => r.payload.asBytes?.map fun v => { c with owner := v }
    | 2 => r.payload.asBytes?.map fun v => { c with name := v }
    | 4 => r.payload.asInt64?.map fun v => { c with totalSupply := v }
    | 6 => r.payload.asInt32?.map fun v => { c with priceUnits := v }
    | 8 => r.payload.asInt32?.map fun v => { c with priceTokens := v }
    | 9 => r.payload.asInt64?.map fun v => { c with startTime := v }
    | 10 => r.payload.asInt64?.map fun v => { c with endTime := v }
    | 20 => r.payload.asBytes?.map fun v => { c with description := v }
    | 21 => r.payload.asBytes?.map fun v => { c with url := v }
    | _ => some c

instance : Message ParticipateAssetIssue where
  blank := ⟨[], [], [], 0⟩
  records c :=
    bytes 1 c.owner ++ bytes 2 c.issuer ++ bytes 3 c.asset ++ int64 4 c.amount
  merge? _ c r :=
    match r.number with
    | 1 => r.payload.asBytes?.map fun v => { c with owner := v }
    | 2 => r.payload.asBytes?.map fun v => { c with issuer := v }
    | 3 => r.payload.asBytes?.map fun v => { c with asset := v }
    | 4 => r.payload.asInt64?.map fun v => { c with amount := v }
    | _ => some c

/-! ### Witnesses and votes -/

instance : Message WitnessCreate where
  blank := ⟨[], []⟩
  records c := bytes 1 c.owner ++ bytes 2 c.url
  merge? _ c r :=
    match r.number with
    | 1 => r.payload.asBytes?.map fun v => { c with owner := v }
    | 2 => r.payload.asBytes?.map fun v => { c with url := v }
    | _ => some c

instance : Message WitnessUpdate where
  blank := ⟨[], []⟩
  records c := bytes 1 c.owner ++ bytes 12 c.url
  merge? _ c r :=
    match r.number with
    | 1 => r.payload.asBytes?.map fun v => { c with owner := v }
    | 12 => r.payload.asBytes?.map fun v => { c with url := v }
    | _ => some c

instance : Message Vote where
  blank := ⟨[], 0⟩
  records v := bytes 1 v.target ++ int64 2 v.count
  merge? _ c r :=
    match r.number with
    | 1 => r.payload.asBytes?.map fun v => { c with target := v }
    | 2 => r.payload.asInt64?.map fun v => { c with count := v }
    | _ => some c

instance : Message VoteWitness where
  blank := ⟨[], []⟩
  records c := bytes 1 c.owner ++ c.votes.map (nested 2)
  merge? depth c r :=
    match r.number with
    | 1 => r.payload.asBytes?.map fun v => { c with owner := v }
    | 2 => (mergeNested? depth blank r.payload).map fun v => { c with votes := c.votes ++ [v] }
    | _ => some c

/-! ### Contracts -/

namespace Contract

/-- The bytes of a contract's payload. -/
def encodePayload : Contract → Bytes
  | transfer c => encode c
  | transferAsset c => encode c
  | assetIssue c => encode c
  | participateAssetIssue c => encode c
  | freezeBalance c => encode c
  | unfreezeBalance c => encode c
  | witnessCreate c => encode c
  | witnessUpdate c => encode c
  | accountUpdate c => encode c
  | voteWitness c => encode c
  | withdrawBalance c => encode c

/-- The contract of a kind whose payload a row of bytes denotes. -/
def decodePayload? (kind : Kind) (bs : Bytes) : Option Contract :=
  match kind with
  | .transfer => (decode? bs).map transfer
  | .transferAsset => (decode? bs).map transferAsset
  | .assetIssue => (decode? bs).map assetIssue
  | .participateAssetIssue => (decode? bs).map participateAssetIssue
  | .freezeBalance => (decode? bs).map freezeBalance
  | .unfreezeBalance => (decode? bs).map unfreezeBalance
  | .witnessCreate => (decode? bs).map witnessCreate
  | .witnessUpdate => (decode? bs).map witnessUpdate
  | .accountUpdate => (decode? bs).map accountUpdate
  | .voteWitness => (decode? bs).map voteWitness
  | .withdrawBalance => (decode? bs).map withdrawBalance

end Contract

end AccountLedger
