/-
**Amounts: 64-bit integers that never wrap silently.**

Every quantity of the ledger is a signed 64-bit integer in the smallest unit.  Sums, differences,
products and quotients are formed exactly and accepted only if the exact value fits into 64 bits;
otherwise the operation and its two operands are reported.

Main definitions:

* `ArithmeticError` — what can go wrong, and its wording;
* `Amount.add`, `Amount.sub`, `Amount.mul`, `Amount.floorDiv` — the exact operations;
* `Amount.sum` — a sum from left to right that fails at the first overflow;
* `Amount.total` — the exact sum;
* `Amount.millisOfDays` — a duration in days as milliseconds.

Main results:

* `Amount.exactly_eq_ok_iff` — an exact value is accepted iff the result denotes it;
* `Amount.add_eq_ok_iff`, `Amount.sub_eq_ok_iff`, `Amount.mul_eq_ok_iff` — its three uses.
-/

import AccountLedger.Text.Decimal

set_option relaxedAutoImplicit false
set_option autoImplicit false

namespace AccountLedger

/-! ### Failures of arithmetic -/

/-- The checked operations, as they are named in messages. -/
inductive Operation
  | add
  | sub
  | mul
  | div
  deriving DecidableEq, Repr

/-- The word for an operation. -/
def Operation.name : Operation → String
  | add => "add"
  | sub => "sub"
  | mul => "mul"
  | div => "div"

/-- Why an arithmetic operation has no result. -/
inductive ArithmeticError
  /-- The exact result does not fit into 64 bits. -/
  | overflow (op : Operation) (left right : Int64)
  /-- The divisor is zero. -/
  | divisionByZero (left : Int64)
  deriving DecidableEq, Repr

/-- The wording of an arithmetic failure. -/
def ArithmeticError.message : ArithmeticError → String
  | overflow op left right =>
      "arithmetic overflow: " ++ Decimal.ofInt64 left ++ " " ++ op.name ++ " "
        ++ Decimal.ofInt64 right
  | divisionByZero left => "division by zero: " ++ Decimal.ofInt64 left ++ " / 0"

namespace Amount

/-! ### Exact operations -/

/-- The 64-bit integer with the value `exact`, if there is one; else `op` overflowed on its two
operands. -/
def exactly (op : Operation) (left right : Int64) (exact : Int) : Except ArithmeticError Int64 :=
  if -9223372036854775808 ≤ exact ∧ exact < 9223372036854775808 then .ok (Int64.ofInt exact)
  else .error (.overflow op left right)

/-- **An exact value is accepted iff the result denotes it.** -/
theorem exactly_eq_ok_iff {op : Operation} {left right : Int64} {exact : Int} {c : Int64} :
    exactly op left right exact = .ok c ↔ c.toInt = exact := by
  unfold exactly
  constructor
  · intro h
    split at h
    · next hr =>
        cases h
        exact Int64.toInt_ofInt_of_le hr.1 hr.2
    · cases h
  · intro h
    subst h
    rw [if_pos ⟨Int64.le_toInt c, Int64.toInt_lt c⟩, Int64.ofInt_toInt]

/-- A refused value is outside the 64-bit range, and the failure names the operands. -/
theorem exactly_eq_error_iff {op : Operation} {left right : Int64} {exact : Int}
    {e : ArithmeticError} :
    exactly op left right exact = .error e ↔
      ¬ (-9223372036854775808 ≤ exact ∧ exact < 9223372036854775808) ∧ e = .overflow op left right := by
  unfold exactly
  split
  · next h => exact ⟨fun h' => (nomatch h'), fun h' => absurd h h'.1⟩
  · next h => exact ⟨fun h' => (by cases h'; exact ⟨h, rfl⟩), fun h' => (by rw [h'.2])⟩

/-- The exact sum. -/
def add (a b : Int64) : Except ArithmeticError Int64 :=
  exactly .add a b (a.toInt + b.toInt)

/-- The exact difference. -/
def sub (a b : Int64) : Except ArithmeticError Int64 :=
  exactly .sub a b (a.toInt - b.toInt)

/-- The exact product. -/
def mul (a b : Int64) : Except ArithmeticError Int64 :=
  exactly .mul a b (a.toInt * b.toInt)

/-- The quotient rounded towards negative infinity: the quotient that is rounded towards zero, less one
where there is a rest whose sign is not that of the divisor.  Only division by zero and the one quotient
that is too large, the least integer by minus one, have no result. -/
def floorDiv (a b : Int64) : Except ArithmeticError Int64 :=
  if b = 0 then .error (.divisionByZero a)
  else do
    let quotient ← exactly .div a b (a.toInt.tdiv b.toInt)
    let rest := a % b
    return if rest ≠ 0 ∧ ¬ (rest < 0 ↔ b < 0) then quotient - 1 else quotient

theorem add_eq_ok_iff {a b c : Int64} : add a b = .ok c ↔ c.toInt = a.toInt + b.toInt :=
  exactly_eq_ok_iff

theorem sub_eq_ok_iff {a b c : Int64} : sub a b = .ok c ↔ c.toInt = a.toInt - b.toInt :=
  exactly_eq_ok_iff

theorem mul_eq_ok_iff {a b c : Int64} : mul a b = .ok c ↔ c.toInt = a.toInt * b.toInt :=
  exactly_eq_ok_iff

/-! ### Sums and durations -/

/-- The sum of a list, added up from the left; the first partial sum that does not fit is the
one reported. -/
def sum (amounts : List Int64) : Except ArithmeticError Int64 :=
  amounts.foldlM add 0

/-- The exact sum of a list. -/
def total : List Int → Int
  | [] => 0
  | a :: amounts => a + total amounts

@[simp] theorem total_nil : total [] = 0 := rfl

@[simp] theorem total_cons (a : Int) (amounts : List Int) :
    total (a :: amounts) = a + total amounts := rfl

@[simp] theorem total_append (amounts others : List Int) :
    total (amounts ++ others) = total amounts + total others := by
  induction amounts with
  | nil => simp
  | cons a amounts ih => simp [ih, Int.add_assoc]

/-- Milliseconds in one day. -/
def millisPerDay : Int64 := 86400000

/-- A duration in days as milliseconds. -/
def millisOfDays (days : Int64) : Except ArithmeticError Int64 :=
  mul days millisPerDay

end Amount

end AccountLedger
