/-
**TOML as a source of settings.**

A record is a table, or an array that gives its fields in order and may leave off the last ones; an
item behind the last field does not count.  A name is a string, or a table that binds it to an empty
table or array.

Main definitions:

* the instance `Source Toml`.
-/

import AccountLedger.Document.Source
import AccountLedger.Toml.Value

set_option relaxedAutoImplicit false
set_option autoImplicit false

namespace AccountLedger

namespace Toml

/-- Is a value an empty table or array? -/
def isEmpty : Toml → Bool
  | array items => items.isEmpty
  | table _ es => es.isEmpty
  | rows tables => tables.isEmpty
  | _ => false

/-- The first values as those of a row of fields. -/
def positional (names : List String) (items : List Toml) : List (Option Toml) :=
  ((items.take names.length).map some) ++ List.replicate (names.length - items.length) none

end Toml

instance : Source Toml where
  asInt64?
    | .integer i => some i
    | _ => none
  asUInt64?
    | .integer i => if 0 ≤ i then some i.toUInt64 else none
    | _ => none
  asFloat?
    | .float f => some f
    | .integer i => some i.toFloat
    | _ => none
  asVariant? variants
    | .text s => variants.lookup s
    | .table _ [(name, value)] => if value.isEmpty then variants.lookup name else none
    | _ => none
  fields? names
    | .table _ es =>
        if es.all fun e => names.contains e.1 then some (names.map fun n => es.lookup n) else none
    | .array items => some (Toml.positional names items)
    | .rows tables => some (Toml.positional names (tables.map (.table .header)))
    | _ => none

end AccountLedger
