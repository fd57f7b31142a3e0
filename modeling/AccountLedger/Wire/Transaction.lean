/-
**Transactions.**

A contract travels packed: its kind as a number, and its payload with the name of its message.  A
transaction carries packed contracts with a time stamp and a time of expiry, and signatures over
them.  It is known by the digest of what is signed.

Main definitions:

* `Packed`, `Envelope` — a payload with its name, and a packed contract;
* `RawData`, `Transaction` — what is signed, and the transaction;
* `Contract.pack`, `Envelope.unpack` — from contracts to packed ones and back;
* `Transaction.wrap` — the unsigned transaction of one contract;
* `RawData.id` — the name of a transaction.
-/

import AccountLedger.Digest.Sha256
import AccountLedger.Engine.Outcome
import AccountLedger.Wire.Payload

set_option relaxedAutoImplicit false
set_option autoImplicit false

namespace AccountLedger

open Message
open Record (bytes int64 int32 text)

/-! ### Packed contracts -/

/-- The bytes of a message together with the name of its type. -/
structure Packed where
  typeUrl : String
  value : Bytes
  deriving DecidableEq, Repr

instance : Message Packed where
  blank := ⟨"", []⟩
  records p := text 1 p.typeUrl ++ bytes 2 p.value
  merge? _ p r :=
    match r.number with
    | 1 => r.payload.asText?.map fun v => { p with typeUrl := v }
    | 2 => r.payload.asBytes?.map fun v => { p with value := v }
    | _ => some p

/-- A contract as it travels: the number of its kind, and its payload. -/
structure Envelope where
  tag : Int32
  parameter : Option Packed
  deriving DecidableEq, Repr

instance : Message Envelope where
  blank := ⟨0, none⟩
  records e := int32 1 e.tag ++ e.parameter.toList.map (nested 2)
  merge? depth e r :=
    match r.number with
    | 1 => r.payload.asInt32?.map fun v => { e with tag := v }
    | 2 =>
        (mergeNested? depth (e.parameter.getD blank) r.payload).map fun v =>
          { e with parameter := some v }
    | _ => some e

/-- The name of a payload's type. -/
def Kind.typeUrl (k : Kind) : String := "type.googleapis.com/protocol." ++ k.messageName

/-- Packs a contract. -/
def Contract.pack (c : Contract) : Envelope :=
  ⟨c.kind.tag, some ⟨c.kind.typeUrl, c.encodePayload⟩⟩

namespace Kind

/-- The kind of a number, if it is supported. -/
def resolve (tag : Int32) : Except Rejection Kind :=
  match ofTag? tag with
  | none => .error (.unsupportedKind tag)
  | some k => .ok k

end Kind

namespace Envelope

/-- The contract of a kind that a payload denotes under the name of its type. -/
def unpackParameter (k : Kind) : Option Packed → Except UnpackError Contract
  | none => .error .missingParameter
  | some p =>
      if p.typeUrl ≠ k.typeUrl then .error (.typeUrl p.typeUrl k.typeUrl)
      else
        match Contract.decodePayload? k p.value with
        | none => .error .malformed
        | some c => .ok c

/-- **The contract that an envelope holds.** -/
def unpack (e : Envelope) : Except Rejection Contract := do
  let k ← Kind.resolve e.tag
  (unpackParameter k e.parameter).mapError (.unpack k)

end Envelope

/-! ### Transactions -/

/-- What is signed of a transaction. -/
structure RawData where
  expiration : Int64
  contracts : List Envelope
  timestamp : Int64
  deriving DecidableEq, Repr

instance : Message RawData where
  blank := ⟨0, [], 0⟩
  records d := int64 8 d.expiration ++ d.contracts.map (nested 11) ++ int64 14 d.timestamp
  merge? depth d r :=
    match r.number with
    | 8 => r.payload.asInt64?.map fun v => { d with expiration := v }
    | 11 =>
        (mergeNested? depth blank r.payload).map fun v =>
          { d with contracts := d.contracts ++ [v] }
    | 14 => r.payload.asInt64?.map fun v => { d with timestamp := v }
    | _ => some d

/-- A transaction. -/
structure Transaction where
  rawData : Option RawData
  signatures : List Bytes
  deriving DecidableEq, Repr

instance : Message Transaction where
  blank := ⟨none, []⟩
  records t :=
    t.rawData.toList.map (nested 1) ++ t.signatures.map fun s => ⟨2, .delimited s⟩
  merge? depth t r :=
    match r.number with
    | 1 =>
        (mergeNested? depth (t.rawData.getD blank) r.payload).map fun v =>
          { t with rawData := some v }
    | 2 => r.payload.asBytes?.map fun v => { t with signatures := t.signatures ++ [v] }
    | _ => some t

/-- The name of a transaction: the digest of what is signed, as it is written here. -/
def RawData.id (d : RawData) : Bytes := Sha256.digest (encode d)

/-- The unsigned transaction of one contract. -/
def Transaction.wrap (c : Contract) (timestamp expiration : Int64) : Transaction :=
  ⟨some ⟨expiration, [c.pack], timestamp⟩, []⟩

end AccountLedger
