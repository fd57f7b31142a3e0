/-
**Sources of settings.**

Settings are read from documents of more than one form.  What they need of a form is little: numbers,
names out of a fixed set, and records.

Main definitions:

* `Source` — a form of document;
* the instance for JSON values.
-/

import AccountLedger.Json.Reader

set_option relaxedAutoImplicit false
set_option autoImplicit false

namespace AccountLedger

/-- A form of document that settings are read from. -/
class Source (δ : Type) where
  /-- A signed 64-bit integer. -/
  asInt64? : δ → Option Int64
  /-- An unsigned 64-bit integer. -/
  asUInt64? : δ → Option UInt64
  /-- A floating-point number, which may be written as an integer. -/
  asFloat? : δ → Option Float
  /-- One of a set of names. -/
  asVariant? {α : Type} : List (String × α) → δ → Option α
  /-- The values of a record's fields, in the order of their names, where a field that is absent has
  none; fields of other names are refused. -/
  fields? : List String → δ → Option (List (Option δ))

instance : Source Json where
  asInt64? := Json.asInt64?
  asUInt64? := Json.asUInt64?
  asFloat? := Json.asFloat?
  asVariant? := Json.asVariant?
  fields? names j := j.fields? names .refused

end AccountLedger
