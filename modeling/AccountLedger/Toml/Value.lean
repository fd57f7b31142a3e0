/-
**TOML values and the tables of a document.**

A document binds keys to values statement by statement.  A key may have several parts, which lead
through tables; whether a table may still be extended depends on how it came to be.

Main definitions:

* `Toml`, `Toml.Origin` — a value, and how a table came to be;
* `Toml.within` — a change to the table at the end of a path;
* `Toml.bind`, `Toml.openTable`, `Toml.openRow` — the three kinds of statement.
-/

import AccountLedger.Toml.Moment

set_option relaxedAutoImplicit false
set_option autoImplicit false

namespace AccountLedger

/-- How a table came to be. -/
inductive Toml.Origin
  /-- As a part of a header that names a table inside it. -/
  | implied
  /-- As a part of a key in front of a value. -/
  | dotted
  /-- By a header of its own. -/
  | header
  /-- Between braces. -/
  | inline
  deriving DecidableEq, Repr

/-- A value. -/
inductive Toml
  | bool (b : Bool)
  | integer (i : Int64)
  | float (f : Float)
  | text (s : String)
  | moment (m : Toml.Moment)
  | array (items : List Toml)
  | table (origin : Toml.Origin) (entries : List (String × Toml))
  /-- An array of tables, one for each header in double brackets. -/
  | rows (tables : List (List (String × Toml)))

namespace Toml

/-- The entries of a table. -/
abbrev Entries : Type := List (String × Toml)

/-- The entries with a new value under a key that is there. -/
def replace (key : String) (value : Toml) (es : Entries) : Entries :=
  es.map fun e => if e.1 = key then (key, value) else e

/-- Changes the table at the end of a path that starts in a table of a given origin.  Tables that
are missing on the way come to be by a key in front of a value if `dotted` holds, or else as implied
by a header.  A path leads into the last row of an array of tables, but neither into a table between
braces nor, in front of a value, into one that has a header of its own. -/
def within (dotted : Bool) (change : Origin → Entries → Option Entries) :
    List String → Origin → Entries → Option Entries
  | [], origin, es => change origin es
  | key :: path, _, es =>
      match es.lookup key with
      | none => do
          let origin := if dotted then Origin.dotted else .implied
          let inner ← within dotted change path origin []
          return es ++ [(key, .table origin inner)]
      | some (.table origin inner) => do
          if origin = .inline ∨ (dotted = true ∧ origin = .header) then none
          let inner ← within dotted change path origin inner
          return replace key (.table origin inner) es
      | some (.rows tables) => do
          let inner ← within dotted change path .header (← tables.getLast?)
          return replace key (.rows (tables.dropLast ++ [inner])) es
      | some _ => none

/-- Binds a key of one or more parts to a value.  No key is bound twice, and a table that a key leads
into has come to be by such keys. -/
def bind (path : List String) (key : String) (value : Toml) (origin : Origin) (es : Entries) :
    Option Entries :=
  within true (fun origin es =>
    if (origin = .dotted ↔ path = []) ∨ (es.lookup key).isSome then none
    else some (es ++ [(key, value)])) path origin es

/-- Opens the table that a header names.  It is new or has only been implied. -/
def openTable (path : List String) (key : String) (es : Entries) : Option Entries :=
  within false (fun _ es =>
    match es.lookup key with
    | none => some (es ++ [(key, .table .header [])])
    | some (.table .implied inner) => some (replace key (.table .header inner) es)
    | some _ => none) path .header es

/-- Opens a row of the array of tables that a header in double brackets names. -/
def openRow (path : List String) (key : String) (es : Entries) : Option Entries :=
  within false (fun _ es =>
    match es.lookup key with
    | none => some (es ++ [(key, .rows [[]])])
    | some (.rows tables) => some (replace key (.rows (tables ++ [[]])) es)
    | some _ => none) path .header es

end Toml

end AccountLedger
