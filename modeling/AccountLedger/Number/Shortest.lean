/-
**The shortest decimal that reads back.**

The real numbers that read as one and the same floating-point number fill an interval around it.
Of the decimals in that interval the shortest is a multiple of the greatest power of ten; the two
multiples next to the number are the candidates, and the nearer one wins.

Main definitions:

* `Shortest.Interval` — the interval of a number, in quarters of its last binary place;
* `Shortest.onGrid?` — the multiple of a power of ten that reads back and is nearest;
* `Shortest.text` — a floating-point number in positional notation.
-/

import AccountLedger.Number.Binary
import AccountLedger.Text.Decimal

set_option relaxedAutoImplicit false
set_option autoImplicit false

namespace AccountLedger

namespace Shortest

/-- A number with the bounds of the interval that reads as it, all to be multiplied by
`2 ^ exponent`. -/
structure Interval where
  low : Nat
  value : Nat
  high : Nat
  exponent : Int
  /-- Do the bounds themselves read as the number? -/
  closed : Bool
  deriving DecidableEq, Repr

/-- The interval of a number.  Below a power of two the numbers lie twice as close. -/
def Interval.of (b : Binary) : Interval where
  low := if b.mantissa = 1 <<< 52 ∧ b.exponent ≠ -1074 then 4 * b.mantissa - 1 else 4 * b.mantissa - 2
  value := 4 * b.mantissa
  high := 4 * b.mantissa + 2
  exponent := b.exponent - 2
  closed := b.mantissa % 2 == 0

/-- Does `n` lie between the bounds, if these count units of a given size? -/
def Interval.contains (i : Interval) (unit n : Nat) : Bool :=
  if i.closed then i.low * unit ≤ n && n ≤ i.high * unit
  else i.low * unit < n && n < i.high * unit

/-- The numerator and the denominator of a power. -/
def power (base : Nat) : Int → Nat × Nat
  | .ofNat e => (base.pow e, 1)
  | .negSucc e => (1, base.pow (e + 1))

/-- The multiple of `10 ^ place` that reads back and is nearest, as a factor; of two equally near
ones the greater. -/
def onGrid? (i : Interval) (place : Int) : Option Nat :=
  -- One of the two factors of each fraction is 1, so that all of them have a common denominator.
  let (unit, unitDenominator) := power 2 i.exponent
  let (grid, gridDenominator) := power 10 place
  let scaled := i.value * unit * gridDenominator
  let step := grid * unitDenominator
  let below := scaled / step
  let reads (c : Nat) : Bool := i.contains (unit * gridDenominator) (c * step)
  match reads below, reads (below + 1) with
  | false, false => none
  | true, false => some below
  | false, true => some (below + 1)
  | true, true => some (if 2 * (scaled % step) < step then below else below + 1)

/-- The first power of ten downwards from `place`, of `count` many, with a multiple that reads back:
the factor and the power. -/
def search (i : Interval) : (count : Nat) → (place : Int) → Nat × Int
  | 0, place => (0, place)
  | count + 1, place =>
      match onGrid? i place with
      | some c => (c, place)
      | none => search i count (place - 1)

/-- The shortest decimal `factor * 10 ^ place` that reads as a number. -/
def decimal (b : Binary) : Nat × Int := search (.of b) 640 309

/-- The number `factor * 10 ^ place` in positional notation. -/
def positional (factor : Nat) : Int → List Char
  | .ofNat e => Decimal.digits factor ++ List.replicate e '0'
  | .negSucc e =>
      let ds := Decimal.digits factor
      let ds := List.replicate (e + 2 - ds.length) '0' ++ ds
      ds.take (ds.length - (e + 1)) ++ '.' :: ds.drop (ds.length - (e + 1))

/-- A floating-point number in positional notation, with the fewest digits that read back. -/
def text (f : Float) : String :=
  if f.isNaN then "NaN"
  else
    let sign := if f.toBits.toNat >>> 63 = 1 then "-" else ""
    if f.isInf then sign ++ "inf"
    else if f == 0 then sign ++ "0"
    else
      let (factor, place) := decimal (.ofFloat f)
      sign ++ String.ofList (positional factor place)

end Shortest

end AccountLedger
