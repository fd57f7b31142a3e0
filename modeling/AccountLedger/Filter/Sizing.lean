/-
**The size of a filter.**

A filter that is to hold `n` keys and to take a foreign key for one of its own with probability `p`
needs `-n * ln p / (ln 2) ^ 2` bits, and checks `bits / n * ln 2` of them for every key.

Main definitions:

* `Sizing` — how many keys a filter has to hold, and the rate of false answers;
* `SizingError` — why there is no such filter, and its wording;
* `Dimensions` — the number of bits, and of those that a key sets;
* `Dimensions.forRate`, `Sizing.dimensions` — the dimensions that a sizing asks for.
-/

import AccountLedger.Number.Logarithm
import AccountLedger.Number.Shortest
import AccountLedger.Requirement

set_option relaxedAutoImplicit false
set_option autoImplicit false

namespace AccountLedger

/-! ### What is asked for -/

/-- What a filter has to hold: the keys of one cycle, and the rate of false answers. -/
structure Sizing where
  tps : UInt64 := 1000
  cycleSeconds : UInt64 := 172800
  rate : Float := 0.01

/-- The greatest number of keys. -/
def maxItems : Nat := 2147483648

/-- The greatest number of bits. -/
def maxBits : Nat := 17179869184

/-- Why there is no filter of a given size. -/
inductive SizingError
  | capacityOverflow (tps cycleSeconds : UInt64)
  | zeroCapacity
  | capacityTooLarge (items : Nat)
  | invalidRate (rate : Float)
  | tooManyBits (bits : Nat)

/-- The wording of a sizing failure. -/
def SizingError.message : SizingError → String
  | capacityOverflow tps cycleSeconds =>
      "tps " ++ Decimal.ofUInt64 tps ++ " * cycle_secs " ++ Decimal.ofUInt64 cycleSeconds
        ++ " overflows"
  | zeroCapacity => "filter must be sized for at least one key"
  | capacityTooLarge items =>
      "filter sized for " ++ Decimal.ofNat items ++ " keys, at most " ++ Decimal.ofNat maxItems
        ++ " allowed"
  | invalidRate rate =>
      "false_positive_rate must be strictly between 0 and 1, got " ++ Shortest.text rate
  | tooManyBits bits =>
      "filter needs " ++ Decimal.ofNat bits ++ " bits, at most " ++ Decimal.ofNat maxBits
        ++ " allowed"

/-- Is there a filter for a number of keys? -/
def checkItems (items : Nat) : Except SizingError Unit := do
  require (items ≠ 0) .zeroCapacity
  require (items ≤ maxItems) (.capacityTooLarge items)

/-- The number of keys of one cycle. -/
def Sizing.items (s : Sizing) : Except SizingError Nat := do
  let items := s.tps.toNat * s.cycleSeconds.toNat
  require (items < UInt64.size) (.capacityOverflow s.tps s.cycleSeconds)
  checkItems items
  return items

/-! ### What it takes -/

/-- The number of bits of a filter, and of those that a key sets. -/
structure Dimensions where
  bits : Nat
  hashes : Nat
  bits_ge : 64 ≤ bits
  hashes_pos : 1 ≤ hashes
  deriving DecidableEq, Repr

namespace Dimensions

/-- The logarithm of two. -/
def ln2 : Float := 0.6931471805599453

/-- The number of bits for a number of keys, at least one word. -/
def bitsFor (items : Nat) (rate : Float) : Nat :=
  let n := items.toUInt64.toFloat
  max 64 (Binary.ofFloat (n * Logarithm.negLn rate / (ln2 * ln2))).ceil

/-- The number of bits that a key sets, at least one and at most thirty. -/
def hashesFor (items bits : Nat) : Nat :=
  let n := items.toUInt64.toFloat
  min 30 (max 1 (Binary.ofFloat (bits.toUInt64.toFloat / n * ln2)).round)

theorem le_bitsFor (items : Nat) (rate : Float) : 64 ≤ bitsFor items rate :=
  Nat.le_max_left _ _

theorem le_hashesFor (items bits : Nat) : 1 ≤ hashesFor items bits :=
  Nat.le_min.2 ⟨by decide, Nat.le_max_left _ _⟩

/-- The dimensions for a number of keys and a rate of false answers. -/
def forRate (items : Nat) (rate : Float) : Except SizingError Dimensions := do
  require (0 < rate ∧ rate < 1) (.invalidRate rate)
  checkItems items
  let bits := bitsFor items rate
  require (bits ≤ maxBits) (.tooManyBits bits)
  return ⟨bits, hashesFor items bits, le_bitsFor items rate, le_hashesFor items bits⟩

end Dimensions

/-- The dimensions that a sizing asks for. -/
def Sizing.dimensions (s : Sizing) : Except SizingError Dimensions := do
  let items ← s.items
  Dimensions.forRate items s.rate

end AccountLedger
