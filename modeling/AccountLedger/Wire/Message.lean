/-
**Messages.**

The value of a message is built up record by record from a blank one: of a repeated field the last
record counts, records of a nested message are merged, and records of unknown fields are passed
over.  Fields that have their usual value, zero or no bytes, are not written.

Main definitions:

* `Message` — what makes a type a message;
* `Message.encode`, `Message.decode?` — the bytes of a message;
* `Record.bytes`, `Record.int64`, `Record.int32`, `Record.text` — the records of a single field;
* `Payload.asBytes?`, `Payload.asInt64?`, … — what a record says about a field.
-/

import AccountLedger.Text.Utf8
import AccountLedger.Wire.Record

set_option relaxedAutoImplicit false
set_option autoImplicit false

namespace AccountLedger

/-! ### Single fields -/

namespace Record

/-- A field of bytes. -/
def bytes (number : Nat) (bs : Bytes) : List Record :=
  if bs = [] then [] else [⟨number, .delimited bs⟩]

/-- A field of text. -/
def text (number : Nat) (s : String) : List Record := bytes number (Utf8.encode s)

/-- A field of a signed 64-bit integer. -/
def int64 (number : Nat) (i : Int64) : List Record :=
  if i = 0 then [] else [⟨number, .varint i.toUInt64⟩]

/-- A field of a signed 32-bit integer, widened to 64 bits. -/
def int32 (number : Nat) (i : Int32) : List Record :=
  if i = 0 then [] else [⟨number, .varint i.toInt64.toUInt64⟩]

end Record

namespace Payload

/-- A row of bytes. -/
def asBytes? : Payload → Option Bytes
  | delimited bs => some bs
  | _ => none

/-- A text. -/
def asText? (p : Payload) : Option String := p.asBytes?.bind Utf8.decode?

/-- A signed 64-bit integer. -/
def asInt64? : Payload → Option Int64
  | varint n => some n.toInt64
  | _ => none

/-- A signed 32-bit integer; higher bits do not count. -/
def asInt32? : Payload → Option Int32
  | varint n => some n.toUInt32.toInt32
  | _ => none

end Payload

/-! ### Messages -/

/-- What makes a type a message. -/
class Message (α : Type) where
  /-- The value of a message without records. -/
  blank : α
  /-- The records of a value, in the order of their numbers. -/
  records : α → List Record
  /-- The value after one more record, if that is well-formed; messages inside it nest less than
  `depth` deep. -/
  merge? (depth : Nat) : α → Record → Option α

namespace Message

variable {α : Type} [Message α]

/-- The greatest depth of messages and groups inside each other. -/
def maxDepth : Nat := 100

/-- The bytes of a message. -/
def encode (m : α) : Bytes := Record.encodeAll (records m)

/-- The value of a message after the records in a row of bytes. -/
def mergeBytes? (depth : Nat) (m : α) (bs : Bytes) : Option α :=
  match Record.decodeAll? depth bs with
  | none => none
  | some rs => rs.foldlM (merge? depth) m

/-- The message that a row of bytes denotes. -/
def decode? (bs : Bytes) : Option α := mergeBytes? maxDepth blank bs

/-- The value of a nested message after one more record of it. -/
def mergeNested? (depth : Nat) (m : α) (p : Payload) : Option α :=
  p.asBytes?.bind (mergeBytes? (depth - 1) m)

/-- The record of a nested message, which is there even if the message is blank. -/
def nested (number : Nat) (m : α) : Record := ⟨number, .delimited (encode m)⟩

end Message

end AccountLedger
