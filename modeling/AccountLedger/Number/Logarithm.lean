/-
**The logarithm of a probability.**

The logarithm is computed as a fixed-point number with so many digits that rounding it gives the
nearest floating-point number.  A number between one and two has the logarithm
`2 * artanh ((x - 1) / (x + 1))`, for which the series converges by more than three bits a term.

Main definitions:

* `Logarithm.artanh` — the inverse hyperbolic tangent as a fixed-point number;
* `Logarithm.negLn` — the negated natural logarithm of a number between zero and one.
-/

import AccountLedger.Number.Binary

set_option relaxedAutoImplicit false
set_option autoImplicit false

namespace AccountLedger

namespace Logarithm

/-- The number of binary digits behind the point of a fixed-point number. -/
def places : Nat := 320

/-- The number of terms of the series. -/
def terms : Nat := 110

/-- The sum of `count` terms of the series from the power `odd` on; `power` is the argument to that
power, and `square` its square. -/
def series (square : Nat) : (count odd power : Nat) → Nat
  | 0, _, _ => 0
  | count + 1, odd, power =>
      power / odd + series square count (odd + 2) ((power * square) >>> places)

/-- The inverse hyperbolic tangent of `a / b`, which is at most one third, as a fixed-point
number. -/
def artanh (a b : Nat) : Nat :=
  let argument := (a <<< places) / b
  series ((argument * argument) >>> places) terms 1 argument

/-- The logarithm of two as a fixed-point number. -/
def two : Nat := 2 * artanh 1 3

/-- The negated natural logarithm of a number strictly between zero and one. -/
def negLn (f : Float) : Float :=
  -- The number is `m / unit`, which lies between one and two, halved `halvings` times.
  let ⟨m, e⟩ := Binary.ofFloat f
  let unit := 1 <<< m.log2
  let halvings := (-(m.log2 + e)).toNat
  Binary.nearest (halvings * two - 2 * artanh (m - unit) (m + unit)) places

end Logarithm

end AccountLedger
