/-
**What can become of a contract.**

A contract is rejected before anything is written, or its execution fails and its writes are
discarded, or its writes cannot be committed, or it succeeds and yields a receipt.

Main definitions:

* `Rejection` — why a contract is inadmissible;
* `Fault` — why an admissible contract could not be carried out;
* `Receipt`, `Failure` — the record of a fee and a status, and the three ways to fail.
-/

import AccountLedger.Contract
import AccountLedger.Ledger.Update
import AccountLedger.Text.Quoted

set_option relaxedAutoImplicit false
set_option autoImplicit false

namespace AccountLedger

/-! ### The vocabulary of messages -/

/-- The part an account plays in a contract. -/
inductive Role
  | owner
  | recipient
  | voteTarget
  deriving DecidableEq, Repr

/-- The word for a role. -/
def Role.name : Role → String
  | owner => "owner"
  | recipient => "to"
  | voteTarget => "vote"

/-- The quantities that have to be positive. -/
inductive Quantity
  | amount
  | totalSupply
  | priceUnits
  | priceTokens
  | exchange
  | frozenBalance
  | voteCount
  | allowance
  deriving DecidableEq, Repr

/-- The word for a quantity. -/
def Quantity.name : Quantity → String
  | amount => "amount"
  | totalSupply => "total_supply"
  | priceUnits => "trx_num"
  | priceTokens => "num"
  | exchange => "exchange amount"
  | frozenBalance => "frozen_balance"
  | voteCount => "vote_count"
  | allowance => "allowance"

/-- The greatest length of a witness page address, in bytes. -/
def maxUrlLength : Nat := 256

/-! ### Rejections -/

/-- The rules of single kinds of contract that a contract may break. -/
inductive Refusal
  | emptyAssetName
  | assetNameNotUtf8
  | urlLength
  | urlNotUtf8
  | openingTransferTooSmall (least : Int64)
  | saleEndsBeforeStart
  | notIssuedBy (asset : String) (issuer : Address)
  | notOnSale (asset : String) (now : Int64)
  | freezeTooSmall (least : Int64)
  | freezeDuration (least greatest : Int64)
  | severalLocks (account : Address)
  | nothingFrozen
  | nothingExpired
  | emptyAccountName
  | accountExists (account : Address)
  | emptyVoteList
  | tooManyVotes (count : Nat) (greatest : UInt64)
  | voteWeight (weight power : Int64)
  | withdrawalCooldown (elapsed cooldown : Int64)
  deriving DecidableEq

/-- The wording of a refusal. -/
def Refusal.message : Refusal → String
  | emptyAssetName => "asset name must not be empty"
  | assetNameNotUtf8 => "asset name must be valid UTF-8"
  | urlLength => "invalid url: length must be between 1 and " ++ Decimal.ofNat maxUrlLength
      ++ " bytes"
  | urlNotUtf8 => "invalid url: must be valid UTF-8"
  | openingTransferTooSmall least =>
      "for a non-existent account transfer, the minimum amount is " ++ Decimal.ofInt64 least
  | saleEndsBeforeStart => "start time must be earlier than end time"
  | notIssuedBy asset issuer =>
      "asset " ++ Quoted.quote asset ++ " is not issued by " ++ issuer.hex
  | notOnSale asset now =>
      "asset " ++ Quoted.quote asset ++ " is not on sale at " ++ Decimal.ofInt64 now
  | freezeTooSmall least => "frozen balance must be at least " ++ Decimal.ofInt64 least
  | freezeDuration least greatest =>
      "frozen duration must be between " ++ Decimal.ofInt64 least ++ " and "
        ++ Decimal.ofInt64 greatest ++ " days"
  | severalLocks account => "account " ++ account.hex ++ " holds more than one frozen slot"
  | nothingFrozen => "no frozen balance"
  | nothingExpired => "it is not time to unfreeze"
  | emptyAccountName => "account name must not be empty"
  | accountExists account => "account " ++ account.hex ++ " already exists"
  | emptyVoteList => "vote list must not be empty"
  | tooManyVotes count greatest =>
      "vote count " ++ Decimal.ofNat count ++ " exceeds the maximum of "
        ++ Decimal.ofUInt64 greatest
  | voteWeight weight power =>
      "vote weight " ++ Decimal.ofInt64 weight ++ " exceeds voting power "
        ++ Decimal.ofInt64 power
  | withdrawalCooldown elapsed cooldown =>
      "last withdrawal was " ++ Decimal.ofInt64 elapsed ++ " ms ago, cooldown is "
        ++ Decimal.ofInt64 cooldown ++ " ms"

/-- Why the payload of a wire contract could not be unpacked. -/
inductive UnpackError
  | missingParameter
  | typeUrl (actual expected : String)
  | malformed
  deriving DecidableEq, Repr

/-- The wording of an unpacking failure. -/
def UnpackError.message : UnpackError → String
  | missingParameter => "missing parameter"
  | typeUrl actual expected =>
      "type_url " ++ Quoted.quote actual ++ " does not match " ++ Quoted.quote expected
  | malformed => "malformed payload"

/-- Why a contract is inadmissible. -/
inductive Rejection
  | unpack (expected : Kind) (reason : UnpackError)
  | unsupportedKind (tag : Int32)
  | invalidAddress (role : Role) (reason : AddressError)
  | sameAccount
  | accountNotFound (role : Role) (account : Address)
  | witnessNotFound (witness : Address)
  | witnessExists (witness : Address)
  | assetNotFound (asset : String)
  | assetExists (asset : String)
  | nonPositive (quantity : Quantity)
  | insufficientBalance (required available : Int64)
  | insufficientAsset (asset : String) (required available : Int64)
  | arithmetic (e : ArithmeticError)
  | refused (reason : Refusal)
  deriving DecidableEq

/-- The wording of a rejection. -/
def Rejection.message : Rejection → String
  | unpack expected reason =>
      "contract type error, expected type [" ++ expected.messageName ++ "]: " ++ reason.message
  | unsupportedKind tag => "unsupported contract type " ++ Decimal.ofInt32 tag
  | invalidAddress role reason => "invalid " ++ role.name ++ " address: " ++ reason.message
  | sameAccount => "owner and recipient must be different accounts"
  | accountNotFound role account =>
      role.name ++ " account " ++ account.hex ++ " does not exist"
  | witnessNotFound witness => "witness " ++ witness.hex ++ " does not exist"
  | witnessExists witness => "witness " ++ witness.hex ++ " already exists"
  | assetNotFound asset => "asset " ++ Quoted.quote asset ++ " does not exist"
  | assetExists asset => "asset " ++ Quoted.quote asset ++ " already exists"
  | nonPositive quantity => quantity.name ++ " must be greater than 0"
  | insufficientBalance required available =>
      "insufficient balance: required " ++ Decimal.ofInt64 required ++ ", available "
        ++ Decimal.ofInt64 available
  | insufficientAsset asset required available =>
      "insufficient asset " ++ Quoted.quote asset ++ ": required " ++ Decimal.ofInt64 required
        ++ ", available " ++ Decimal.ofInt64 available
  | arithmetic e => e.message
  | refused reason => reason.message

/-! ### Faults -/

/-- A state of the ledger that an admissible contract cannot meet. -/
inductive Inconsistency
  | assetVanished (asset : String)
  | witnessVanished (witness : Address)
  | severalLocks (account : Address) (count : Nat)
  | votes (reason : Rejection)
  deriving DecidableEq

/-- The wording of an inconsistency. -/
def Inconsistency.message : Inconsistency → String
  | assetVanished asset => "asset " ++ Quoted.quote asset ++ " vanished"
  | witnessVanished witness => "witness " ++ witness.hex ++ " vanished"
  | severalLocks account count =>
      "account " ++ account.hex ++ " holds " ++ Decimal.ofNat count ++ " frozen slots"
  | votes reason => reason.message

/-- Why an admissible contract could not be carried out. -/
inductive Fault
  | arithmetic (e : ArithmeticError)
  | store (e : StoreError)
  | address (e : AddressError)
  | missingAccount (role : Role) (account : Address)
  | assetReduction (account : Address) (asset : String) (amount : Int64)
  | inconsistent (what : Inconsistency)
  deriving DecidableEq

/-- The wording of a fault. -/
def Fault.message : Fault → String
  | arithmetic e => e.message
  | store e => e.message
  | address e => "invalid address in validated contract: " ++ e.message
  | missingAccount role account =>
      role.name ++ " account " ++ account.hex ++ " disappeared before execution"
  | assetReduction account asset amount =>
      "asset " ++ Quoted.quote asset ++ " balance of " ++ account.hex ++ " cannot be reduced by "
        ++ Decimal.ofInt64 amount
  | inconsistent what => "inconsistent ledger state: " ++ what.message

/-! ### Receipts and failures -/

/-- Whether a contract was carried out. -/
inductive Status
  | success
  | failed
  deriving DecidableEq, Repr

/-- The fee taken for a contract and whether it was carried out. -/
structure Receipt where
  fee : Int64
  status : Status
  deriving DecidableEq, Repr

/-- The ways a contract can fail. -/
inductive Failure
  | rejected (reason : Rejection)
  | failed (receipt : Receipt) (fault : Fault)
  | notCommitted (e : StoreError)
  deriving DecidableEq

/-- The wording of a failure. -/
def Failure.message : Failure → String
  | rejected reason => "validation failed: " ++ reason.message
  | failed _ fault => "execution failed: " ++ fault.message
  | notCommitted e => "commit failed: " ++ e.message

/-- The receipt of a contract that got as far as being carried out. -/
def Failure.receipt? : Failure → Option Receipt
  | failed receipt _ => some receipt
  | _ => none

end AccountLedger
