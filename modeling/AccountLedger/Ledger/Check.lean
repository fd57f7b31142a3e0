/-
**Checking a whole ledger.**

Nine conditions make a ledger consistent.  They are examined in a fixed order, each over the records
in key order, and the first violation found is the one reported.

Main definitions:

* `Violation`, `Violation.message` — what can be wrong, and the wording;
* `Ledger.check` — the nine examinations, one after another.
-/

import AccountLedger.Ledger.Basic
import AccountLedger.Requirement
import AccountLedger.Text.Quoted

set_option relaxedAutoImplicit false
set_option autoImplicit false

namespace AccountLedger

/-! ### Violations -/

/-- The amounts of an account that are never negative. -/
inductive AccountAmount
  | balance
  | allowance
  | bandwidth
  deriving DecidableEq, Repr

/-- The word for an amount of an account. -/
def AccountAmount.name : AccountAmount → String
  | balance => "balance"
  | allowance => "allowance"
  | bandwidth => "bandwidth"

/-- What makes a ledger inconsistent. -/
inductive Violation
  | noSinkAccount (sink : Address)
  | accountKey (key actual : Address)
  | assetKey (key actual : String)
  | witnessKey (key actual : Address)
  | negative (account : Address) (amount : AccountAmount) (value : Int64)
  | severalLocks (account : Address) (count : Nat)
  | lockAmount (account : Address) (amount : Int64)
  | negativeHolding (account : Address) (asset : String) (held : Int64)
  | unregisteredHolding (account : Address) (asset : String)
  | assetTerms (name : String) (totalSupply : Int64) (priceUnits priceTokens : Int32)
  | noIssuerAccount (name : String) (issuer : Address)
  | voteTarget (account target : Address)
  | voteCount (account target : Address) (count : Int64)
  | noWitnessAccount (witness : Address)
  | nativeSupply
  deriving DecidableEq

/-- The wording of a violation, headed by the name of the examination that found it. -/
def Violation.message : Violation → String
  | noSinkAccount sink =>
      "[INVARIANT:sink_account] Sink account " ++ sink.hex ++ " does not exist"
  | accountKey key actual =>
      "[INVARIANT:record_keys] Account stored under " ++ key.hex ++ " has address " ++ actual.hex
  | assetKey key actual =>
      "[INVARIANT:record_keys] Asset stored under " ++ Quoted.quote key ++ " is named "
        ++ Quoted.quote actual
  | witnessKey key actual =>
      "[INVARIANT:record_keys] Witness stored under " ++ key.hex ++ " has address " ++ actual.hex
  | negative account amount value =>
      "[INVARIANT:non_negative] Account " ++ account.hex ++ " has " ++ amount.name ++ " "
        ++ Decimal.ofInt64 value
  | severalLocks account count =>
      "[INVARIANT:frozen_slot] Account " ++ account.hex ++ " holds " ++ Decimal.ofNat count
        ++ " frozen slots, at most 1 allowed"
  | lockAmount account amount =>
      "[INVARIANT:frozen_slot] Account " ++ account.hex ++ " has a frozen slot of "
        ++ Decimal.ofInt64 amount
  | negativeHolding account asset held =>
      "[INVARIANT:asset_holdings] Account " ++ account.hex ++ " holds " ++ Decimal.ofInt64 held
        ++ " of asset " ++ Quoted.quote asset
  | unregisteredHolding account asset =>
      "[INVARIANT:asset_holdings] Account " ++ account.hex ++ " holds unregistered asset "
        ++ Quoted.quote asset
  | assetTerms name totalSupply priceUnits priceTokens =>
      "[INVARIANT:asset_registry] Asset " ++ Quoted.quote name
        ++ " has non-positive terms (total_supply=" ++ Decimal.ofInt64 totalSupply ++ ", trx_num="
        ++ Decimal.ofInt32 priceUnits ++ ", num=" ++ Decimal.ofInt32 priceTokens ++ ")"
  | noIssuerAccount name issuer =>
      "[INVARIANT:asset_registry] Asset " ++ Quoted.quote name ++ " issuer " ++ issuer.hex
        ++ " has no account"
  | voteTarget account target =>
      "[INVARIANT:vote_targets] Account " ++ account.hex ++ " votes for " ++ target.hex
        ++ ", which is not a witness"
  | voteCount account target count =>
      "[INVARIANT:vote_targets] Account " ++ account.hex ++ " casts " ++ Decimal.ofInt64 count
        ++ " votes for " ++ target.hex
  | noWitnessAccount witness =>
      "[INVARIANT:witness_accounts] Witness " ++ witness.hex ++ " has no account"
  | nativeSupply => "[INVARIANT:native_supply] Total native supply overflows i64"

/-! ### Examinations -/

namespace Ledger

/-- The sink has an account. -/
def checkSink (l : Ledger) : Except Violation Unit :=
  require (l.hasAccount l.sink) (.noSinkAccount l.sink)

/-- Accounts, assets and witnesses are stored under their own address or name. -/
def checkKeys (l : Ledger) : Except Violation Unit := do
  l.accounts.entries.forM fun e => require (e.1 = e.2.address) (.accountKey e.1 e.2.address)
  l.assets.entries.forM fun e => require (e.1 = e.2.name) (.assetKey e.1 e.2.name)
  l.witnesses.entries.forM fun e => require (e.1 = e.2.address) (.witnessKey e.1 e.2.address)

/-- Balance, allowance and bandwidth are not negative. -/
def checkAmounts (l : Ledger) : Except Violation Unit :=
  l.accounts.values.forM fun a => do
    require (0 ≤ a.balance) (.negative a.address .balance a.balance)
    require (0 ≤ a.allowance) (.negative a.address .allowance a.allowance)
    require (0 ≤ a.bandwidth) (.negative a.address .bandwidth a.bandwidth)

/-- An account has at most one lock, and it holds a positive amount. -/
def checkLocks (l : Ledger) : Except Violation Unit :=
  l.accounts.values.forM fun a => do
    require (a.locks.length ≤ 1) (.severalLocks a.address a.locks.length)
    a.locks.forM fun k => require (0 < k.amount) (.lockAmount a.address k.amount)

/-- Holdings are not negative and are of registered assets. -/
def checkHoldings (l : Ledger) : Except Violation Unit :=
  l.accounts.values.forM fun a =>
    a.holdings.entries.forM fun h => do
      require (0 ≤ h.2) (.negativeHolding a.address h.1 h.2)
      require (l.hasAsset h.1) (.unregisteredHolding a.address h.1)

/-- Registered assets have positive terms and an issuer with an account. -/
def checkAssets (l : Ledger) : Except Violation Unit :=
  l.assets.values.forM fun a => do
    require (0 < a.totalSupply ∧ 0 < a.priceUnits ∧ 0 < a.priceTokens)
      (.assetTerms a.name a.totalSupply a.priceUnits a.priceTokens)
    require (l.hasAccount a.issuer) (.noIssuerAccount a.name a.issuer)

/-- Votes target registered witnesses and have positive counts. -/
def checkVotes (l : Ledger) : Except Violation Unit :=
  l.accounts.values.forM fun a =>
    a.votes.entries.forM fun v => do
      require (l.hasWitness v.1) (.voteTarget a.address v.1)
      require (0 < v.2) (.voteCount a.address v.1 v.2)

/-- Every witness has an account. -/
def checkWitnesses (l : Ledger) : Except Violation Unit :=
  l.witnesses.keys.forM fun w => require (l.hasAccount w) (.noWitnessAccount w)

/-- The native units of all accounts fit into 64 bits. -/
def checkSupply (l : Ledger) : Except Violation Unit :=
  require l.totalNative.isSome .nativeSupply

/-- **The nine examinations, in their fixed order.** -/
def check (l : Ledger) : Except Violation Unit := do
  l.checkSink
  l.checkKeys
  l.checkAmounts
  l.checkLocks
  l.checkHoldings
  l.checkAssets
  l.checkVotes
  l.checkWitnesses
  l.checkSupply

end Ledger

end AccountLedger
