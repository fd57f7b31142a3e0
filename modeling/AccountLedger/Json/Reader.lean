/-
**Reading JSON values as typed data.**

A record is written as an object with named fields or as an array of its fields in order.  A field
may be absent where it has a usual value, but never repeated.

Main definitions:

* `Json.asInt64?`, `Json.asText?`, … — the simple types;
* `Json.fields?` — the values of a record's fields, in order, whichever way it is written;
* `Field.required`, `Field.orElse` — one field, with and without a usual value;
* `Json.asMap?` — a map with text keys, the last of repeated keys counting;
* `Json.asVariant?` — one of a set of names.
-/

import AccountLedger.Json.Value
import AccountLedger.SortedMap
import AccountLedger.Text.Hex

set_option relaxedAutoImplicit false
set_option autoImplicit false

namespace AccountLedger

namespace Json

/-! ### Simple types -/

/-- A truth value. -/
def asBool? : Json → Option Bool
  | bool b => some b
  | _ => none

/-- A text. -/
def asText? : Json → Option String
  | string s => s
  | _ => none

/-- An integer literal with a value between the bounds. -/
def asIntWithin? (least greatest : Int) : Json → Option Int
  | number n => n.int?.filter fun i => least ≤ i && i ≤ greatest
  | _ => none

/-- A signed 64-bit integer. -/
def asInt64? (j : Json) : Option Int64 :=
  (j.asIntWithin? (-9223372036854775808) 9223372036854775807).map Int64.ofInt

/-- A signed 32-bit integer. -/
def asInt32? (j : Json) : Option Int32 :=
  (j.asIntWithin? (-2147483648) 2147483647).map Int32.ofInt

/-- An unsigned 64-bit integer. -/
def asUInt64? (j : Json) : Option UInt64 :=
  (j.asIntWithin? 0 18446744073709551615).map fun i => UInt64.ofNat i.toNat

/-- A floating-point number, also from an integer literal. -/
def asFloat? : Json → Option Float
  | number n => n.float?
  | _ => none

/-- Bytes, written as hexadecimal digits. -/
def asBytes? (j : Json) : Option Bytes := j.asText?.bind Hex.decode?

/-- An array whose items all read. -/
def asList? {α : Type} (readItem : Json → Option α) : Json → Option (List α)
  | array items => items.mapM readItem
  | _ => none

/-- Nothing, or a value that reads. -/
def asOption? {α : Type} (readSome : Json → Option α) : Json → Option (Option α)
  | null => some none
  | j => (readSome j).map some

/-! ### Records -/

/-- What becomes of a field that a record does not have. -/
inductive Unknown
  | refused
  | ignored
  deriving DecidableEq, Repr

/-- The members of a record that carry its own fields; none if a key is not text, or if a key is
unknown and that is refused. -/
def knownMembers? (names : List String) (unknown : Unknown) :
    List (Option String × Json) → Option (List (String × Json))
  | [] => some []
  | (none, _) :: _ => none
  | (some key, value) :: rest =>
      if key ∈ names then (knownMembers? names unknown rest).map ((key, value) :: ·)
      else if unknown = .ignored then knownMembers? names unknown rest
      else none

/-- **The values of a record's fields, in the order of their names**; a field is `none` where it is
absent.  An array gives the fields in order and may leave off the last ones. -/
def fields? (names : List String) (unknown : Unknown) : Json → Option (List (Option Json))
  | object members => do
      let known ← knownMembers? names unknown members
      if (known.map (·.1)).Nodup then return names.map fun n => known.lookup n else none
  | array items =>
      if items.length ≤ names.length then
        some (items.map some ++ List.replicate (names.length - items.length) none)
      else none
  | _ => none

/-! ### Maps and variants -/

/-- A map; the last of several equal keys counts, but every value has to read. -/
def asMap? {κ υ : Type} [Ord κ] [Std.TransOrd κ] (readKey : String → Option κ)
    (readValue : Json → Option υ) : Json → Option (SortedMap κ υ)
  | object members => do
      let entries ← members.mapM fun m => do
        let key ← m.1.bind readKey
        let value ← readValue m.2
        return (key, value)
      return .ofList entries
  | _ => none

/-- One of a set of names: the name alone, or an object that binds it to null. -/
def asVariant? {α : Type} (variants : List (String × α)) : Json → Option α
  | string (some name) => variants.lookup name
  | object [(some name, null)] => variants.lookup name
  | _ => none

end Json

namespace Field

/-- A field that has to be there. -/
def required {δ α : Type} (read : δ → Option α) (field : Option δ) : Option α :=
  field.bind read

/-- A field with a usual value. -/
def orElse {δ α : Type} (read : δ → Option α) (usual : α) (field : Option δ) : Option α :=
  match field with
  | none => some usual
  | some d => read d

end Field

end AccountLedger
