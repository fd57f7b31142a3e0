/-
**Binary fractions.**

A finite floating-point number is a natural number times a power of two, with a sign.  Rounding it
to an integer, and rounding a fraction to the nearest floating-point number, are then matters of
integer arithmetic.

Main definitions:

* `Binary` — a number `mantissa * 2 ^ exponent`;
* `Binary.ofFloat` — the magnitude of a floating-point number;
* `Binary.ceil`, `Binary.round` — the integers next to it;
* `Binary.nearest` — the floating-point number nearest to a fraction.
-/

set_option relaxedAutoImplicit false
set_option autoImplicit false

namespace AccountLedger

/-- The number `mantissa * 2 ^ exponent`. -/
structure Binary where
  mantissa : Nat
  exponent : Int
  deriving DecidableEq, Repr

namespace Binary

/-- The magnitude of a finite floating-point number. -/
def ofFloat (f : Float) : Binary :=
  let bits : Nat := f.toBits.toNat
  let fraction : Nat := bits % (1 <<< 52)
  let field : Nat := (bits >>> 52) % 2048
  if field = 0 then ⟨fraction, -1074⟩ else ⟨(1 <<< 52) + fraction, (field : Int) - 1075⟩

/-- The least integer that is not below a number. -/
def ceil : Binary → Nat
  | ⟨m, .ofNat e⟩ => m <<< e
  | ⟨m, .negSucc e⟩ => (m + ((1 <<< (e + 1)) - 1)) >>> (e + 1)

/-- The integer nearest to a number; halves go up. -/
def round : Binary → Nat
  | ⟨m, .ofNat e⟩ => m <<< e
  | ⟨m, .negSucc e⟩ => (m + (1 <<< e)) >>> (e + 1)

/-- The floating-point number nearest to `numerator / 2 ^ shift`.  The numerator has more than
fifty-three bits, and the fraction is neither too small nor too large to keep all its digits. -/
def nearest (numerator shift : Nat) : Float :=
  let dropped := numerator.log2 - 52
  let rounded := (numerator + (1 <<< (dropped - 1))) >>> dropped
  let field := 1075 + dropped - shift
  -- The first of the fifty-three bits is not stored.  If rounding carries beyond them, the sum
  -- turns the carry into the next exponent.
  Float.ofBits (UInt64.ofNat (rounded - (1 <<< 52) + (field <<< 52)))

end Binary

end AccountLedger
