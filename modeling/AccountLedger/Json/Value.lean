/-
**JSON values as they are written.**

A document keeps everything its text says: the digits of a number, repeated members of an object,
and whether the escapes of a string make text at all.  What a document means is decided by the
reader of the type it is read as.

Main definitions:

* `Numeral` — a number literal, digit by digit;
* `Numeral.int?`, `Numeral.float?` — the integer and the floating-point number it denotes;
* `Json` — a value;
* `Json.isBounded` — what a value has to satisfy to be set aside before its type is known.
-/

import AccountLedger.Text.Decimal

set_option relaxedAutoImplicit false
set_option autoImplicit false

namespace AccountLedger

/-! ### Numbers -/

/-- A number literal.  `fraction` holds the digits behind the point, none if there is no point;
`exponent` holds a sign (true for minus) and digits. -/
structure Numeral where
  negative : Bool
  whole : List Char
  fraction : List Char
  exponent : Option (Bool × List Char)
  deriving DecidableEq, Repr

namespace Numeral

/-- The literal of an integer. -/
def ofInt (i : Int) : Numeral := ⟨i < 0, Decimal.digits i.natAbs, [], none⟩

/-- The integer that a literal without point and exponent denotes.  Minus zero is not an integer:
it only exists as a floating-point number. -/
def int? (n : Numeral) : Option Int :=
  if n.fraction ≠ [] ∨ n.exponent ≠ none then none
  else
    let magnitude := Decimal.value n.whole
    if n.negative then (if magnitude = 0 then none else some (-(magnitude : Int)))
    else some magnitude

/-! ### Floating-point values -/

/-- Takes digits behind `significand` as long as the number they make fits into 64 bits; the rest is
returned. -/
def accumulate (significand : Nat) : List Char → Nat × List Char
  | [] => (significand, [])
  | c :: cs =>
      let next := 10 * significand + Decimal.digitValue c
      if next < 18446744073709551616 then accumulate next cs else (significand, c :: cs)

/-- Divides by a power of ten, in steps of at most 308. -/
def divideByPower (f : Float) (e : Nat) : Float :=
  if e ≤ 308 then f / Float.ofScientific 1 false e
  else if f == 0 then f
  else divideByPower (f / Float.ofScientific 1 false 308) (e - 308)
termination_by e

/-- The value `significand * 10 ^ exponent`, by one multiplication or by divisions; none if it is
too large. -/
def scale (significand : Nat) (exponent : Int) : Option Float :=
  let f := significand.toUInt64.toFloat
  if exponent < 0 then some (divideByPower f exponent.natAbs)
  else if f == 0 then some f
  -- No power of ten above this one is a finite floating-point number.
  else if exponent ≤ 308 then
    let product := f * Float.ofScientific 1 false exponent.natAbs
    if product.isInf then none else some product
  else none

/-- The value of an exponent, zero if there is none. -/
def exponentValue : Option (Bool × List Char) → Int
  | none => 0
  | some (true, ds) => -(Decimal.value ds : Int)
  | some (false, ds) => Decimal.value ds

/-- **The floating-point number that a literal denotes.**  Of its digits those are used that fit
into 64 bits; a whole digit left out counts as a power of ten, a fraction digit left out does not
count.  A literal beyond the largest finite number denotes nothing. -/
def float? (n : Numeral) : Option Float :=
  let (high, dropped) := accumulate 0 n.whole
  let (significand, ignored) := accumulate high n.fraction
  let used := n.fraction.length - ignored.length
  let exponent := (dropped.length : Int) - used + exponentValue n.exponent
  (scale significand exponent).map fun f => if n.negative then -f else f

end Numeral

/-! ### Values -/

/-- A JSON value.  A string is `none` if its escapes leave one half of a surrogate pair alone, so
that it is not text; members of objects keep their order and may repeat. -/
inductive Json
  | null
  | bool (b : Bool)
  | number (n : Numeral)
  | string (s : Option String)
  | array (items : List Json)
  | object (members : List (Option String × Json))

namespace Json

/-- The value of a text. -/
def text (s : String) : Json := string (some s)

/-- The value of an integer. -/
def int (i : Int) : Json := number (.ofInt i)

/-- The value of a signed 64-bit integer. -/
def int64 (i : Int64) : Json := int i.toInt

/-- An object with text keys. -/
def record (members : List (String × Json)) : Json :=
  object (members.map fun m => (some m.1, m.2))

mutual

/-- Is every string of a value text, every number finite, and nothing nested more than `depth`
deep? -/
def isBounded (depth : Nat) : Json → Bool
  | null => true
  | bool _ => true
  | number n => n.float?.isSome
  | string s => s.isSome
  | array items =>
      match depth with
      | 0 => false
      | depth + 1 => areBounded depth items
  | object members =>
      match depth with
      | 0 => false
      | depth + 1 => membersAreBounded depth members

/-- The same for the items of an array. -/
def areBounded (depth : Nat) : List Json → Bool
  | [] => true
  | item :: items => isBounded depth item && areBounded depth items

/-- The same for the members of an object. -/
def membersAreBounded (depth : Nat) : List (Option String × Json) → Bool
  | [] => true
  | member :: members => memberIsBounded depth member && membersAreBounded depth members

/-- The same for one member. -/
def memberIsBounded (depth : Nat) : Option String × Json → Bool
  | (key, value) => key.isSome && isBounded depth value

end

end Json

end AccountLedger
