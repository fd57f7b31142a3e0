/-
**The canonical text of a ledger and its hash.**

The canonical text writes the whole ledger in one way only: records in key order, fields in a fixed
order, no blanks.  Records appear without the keys they are stored under.

Main definitions:

* `Ledger.canonicalJson`, `Ledger.canonical` — the canonical value and its text;
* `Ledger.stateHash` — the digest of the text, as digits.
-/

import AccountLedger.Digest.Sha256
import AccountLedger.Document.Ledger
import AccountLedger.Json.Printer
import AccountLedger.Text.Utf8

set_option relaxedAutoImplicit false
set_option autoImplicit false

namespace AccountLedger

/-- The version of the canonical text. -/
def canonicalVersion : Nat := 1

/-- The name of an account type in the canonical text. -/
def AccountType.canonicalName : AccountType → String
  | normal => "normal"
  | assetIssue => "asset_issue"
  | contract => "contract"

/-- An account in the canonical text. -/
def Account.canonicalJson (a : Account) : Json :=
  .record [
    ("address", a.address.toJson),
    ("account_name", .text (Hex.encode a.name)),
    ("account_type", .text a.type.canonicalName),
    ("balance", .int64 a.balance),
    ("frozen", .array (a.locks.map Lock.toJson)),
    ("bandwidth", .int64 a.bandwidth),
    ("allowance", .int64 a.allowance),
    ("latest_withdraw_time", .int64 a.latestWithdrawal),
    ("asset", a.holdings.toJson id Json.int64),
    ("votes", a.votes.toJson Address.hex Json.int64),
    ("is_witness", .bool a.isWitness),
    ("create_time", .int64 a.createTime)]

namespace Ledger

/-- The canonical value of a ledger. -/
def canonicalJson (l : Ledger) : Json :=
  .record [
    ("engine_version", .int canonicalVersion),
    ("blackhole", l.sink.toJson),
    ("parameters", l.parameters.toJson),
    ("accounts", .array (l.accounts.values.map Account.canonicalJson)),
    ("assets", .array (l.assets.values.map Asset.toJson)),
    ("witnesses", .array (l.witnesses.values.map Witness.toJson))]

/-- **The canonical text of a ledger.** -/
def canonical (l : Ledger) : String := l.canonicalJson.compact

/-- **The hash of a ledger**: the digest of its canonical text, as digits. -/
def stateHash (l : Ledger) : String := Hex.encode (Sha256.digest (Utf8.encode l.canonical))

end Ledger

end AccountLedger
