/-
**Contracts.**

A contract says what its owner wants done.  It carries addresses, names and texts as raw bytes;
whether they are well-formed is judged when the contract is checked against a ledger.

Main definitions:

* `Kind` — the eleven kinds of contract, with their wire tags and message names;
* `Contract` — one payload for each kind;
* `Contract.kind`, `Contract.owner` — what the kinds have in common.

Main results:

* `Kind.ofTag?_tag` — a kind is found by its tag.
-/

import AccountLedger.Bytes

set_option relaxedAutoImplicit false
set_option autoImplicit false

namespace AccountLedger

/-! ### Kinds -/

/-- The kinds of contract. -/
inductive Kind
  | transfer
  | transferAsset
  | voteWitness
  | witnessCreate
  | assetIssue
  | witnessUpdate
  | participateAssetIssue
  | accountUpdate
  | freezeBalance
  | unfreezeBalance
  | withdrawBalance
  deriving DecidableEq, Repr

namespace Kind

/-- All kinds, in the order of their tags. -/
def all : List Kind :=
  [transfer, transferAsset, voteWitness, witnessCreate, assetIssue, witnessUpdate,
    participateAssetIssue, accountUpdate, freezeBalance, unfreezeBalance, withdrawBalance]

/-- The number of a kind on the wire. -/
def tag : Kind → Int32
  | transfer => 1
  | transferAsset => 2
  | voteWitness => 4
  | witnessCreate => 5
  | assetIssue => 6
  | witnessUpdate => 8
  | participateAssetIssue => 9
  | accountUpdate => 10
  | freezeBalance => 11
  | unfreezeBalance => 12
  | withdrawBalance => 13

/-- The kind with a given tag; some numbers belong to kinds that are not supported. -/
def ofTag? (n : Int32) : Option Kind := all.find? fun k => k.tag == n

/-- **A kind is found by its tag.** -/
@[simp] theorem ofTag?_tag (k : Kind) : ofTag? k.tag = some k := by
  cases k <;> decide

/-- The name of a kind in documents. -/
def name : Kind → String
  | transfer => "Transfer"
  | transferAsset => "TransferAsset"
  | voteWitness => "VoteWitness"
  | witnessCreate => "WitnessCreate"
  | assetIssue => "AssetIssue"
  | witnessUpdate => "WitnessUpdate"
  | participateAssetIssue => "ParticipateAssetIssue"
  | accountUpdate => "AccountUpdate"
  | freezeBalance => "FreezeBalance"
  | unfreezeBalance => "UnfreezeBalance"
  | withdrawBalance => "WithdrawBalance"

/-- The name of a kind's payload message. -/
def messageName (k : Kind) : String := k.name ++ "Contract"

end Kind

/-! ### Payloads -/

/-- Moves native units from the owner to a recipient, whose account it may open. -/
structure Transfer where
  owner : Bytes
  recipient : Bytes
  amount : Int64
  deriving DecidableEq, Repr

/-- Moves tokens of an asset between two accounts. -/
structure TransferAsset where
  asset : Bytes
  owner : Bytes
  recipient : Bytes
  amount : Int64
  deriving DecidableEq, Repr

/-- Registers an asset and credits its whole supply to the owner. -/
structure AssetIssue where
  owner : Bytes
  name : Bytes
  totalSupply : Int64
  priceUnits : Int32
  priceTokens : Int32
  startTime : Int64
  endTime : Int64
  description : Bytes
  url : Bytes
  deriving DecidableEq, Repr

/-- Buys tokens of an asset from its issuer for `amount` native units. -/
structure ParticipateAssetIssue where
  owner : Bytes
  issuer : Bytes
  asset : Bytes
  amount : Int64
  deriving DecidableEq, Repr

/-- Locks part of the balance for a number of days, in exchange for bandwidth. -/
structure FreezeBalance where
  owner : Bytes
  amount : Int64
  days : Int64
  deriving DecidableEq, Repr

/-- Releases every expired lock into the balance. -/
structure UnfreezeBalance where
  owner : Bytes
  deriving DecidableEq, Repr

/-- Registers the owner as a witness. -/
structure WitnessCreate where
  owner : Bytes
  url : Bytes
  deriving DecidableEq, Repr

/-- Changes the address of the owner's witness page. -/
structure WitnessUpdate where
  owner : Bytes
  url : Bytes
  deriving DecidableEq, Repr

/-- Names the owner's account. -/
structure AccountUpdate where
  name : Bytes
  owner : Bytes
  deriving DecidableEq, Repr

/-- A number of votes for one witness. -/
structure Vote where
  target : Bytes
  count : Int64
  deriving DecidableEq, Repr

/-- Replaces all votes of the owner. -/
structure VoteWitness where
  owner : Bytes
  votes : List Vote
  deriving DecidableEq, Repr

/-- Moves the accrued allowance into the balance. -/
structure WithdrawBalance where
  owner : Bytes
  deriving DecidableEq, Repr

/-! ### Contracts -/

/-- A contract of one of the eleven kinds. -/
inductive Contract
  | transfer (c : Transfer)
  | transferAsset (c : TransferAsset)
  | assetIssue (c : AssetIssue)
  | participateAssetIssue (c : ParticipateAssetIssue)
  | freezeBalance (c : FreezeBalance)
  | unfreezeBalance (c : UnfreezeBalance)
  | witnessCreate (c : WitnessCreate)
  | witnessUpdate (c : WitnessUpdate)
  | accountUpdate (c : AccountUpdate)
  | voteWitness (c : VoteWitness)
  | withdrawBalance (c : WithdrawBalance)
  deriving DecidableEq, Repr

namespace Contract

/-- The kind of a contract. -/
def kind : Contract → Kind
  | transfer _ => .transfer
  | transferAsset _ => .transferAsset
  | assetIssue _ => .assetIssue
  | participateAssetIssue _ => .participateAssetIssue
  | freezeBalance _ => .freezeBalance
  | unfreezeBalance _ => .unfreezeBalance
  | witnessCreate _ => .witnessCreate
  | witnessUpdate _ => .witnessUpdate
  | accountUpdate _ => .accountUpdate
  | voteWitness _ => .voteWitness
  | withdrawBalance _ => .withdrawBalance

/-- The raw bytes of the owner's address. -/
def owner : Contract → Bytes
  | transfer c => c.owner
  | transferAsset c => c.owner
  | assetIssue c => c.owner
  | participateAssetIssue c => c.owner
  | freezeBalance c => c.owner
  | unfreezeBalance c => c.owner
  | witnessCreate c => c.owner
  | witnessUpdate c => c.owner
  | accountUpdate c => c.owner
  | voteWitness c => c.owner
  | withdrawBalance c => c.owner

end Contract

end AccountLedger
