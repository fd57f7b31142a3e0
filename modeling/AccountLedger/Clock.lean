/-
**A settable clock.**

Main definitions:

* `Clock.set`, `Clock.advance` — moving the clock; it runs around at 64 bits.
-/

set_option relaxedAutoImplicit false
set_option autoImplicit false

namespace AccountLedger

/-- A clock, in milliseconds. -/
structure Clock where
  now : Int64
  deriving DecidableEq, Repr

namespace Clock

/-- The clock at another time. -/
def set (_ : Clock) (now : Int64) : Clock := ⟨now⟩

/-- The clock moved by a number of milliseconds, around at 64 bits. -/
def advance (c : Clock) (millis : Int64) : Clock := ⟨c.now + millis⟩

end Clock

end AccountLedger
