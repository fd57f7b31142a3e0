/-
**Dates and times.**

A moment is a date, a time of day, or a date with a time, which may also say how far the clock it is
read from is ahead of universal time.  Every number in it has a fixed count of digits and has to lie
in its range; the last minute of a day may have a leap second.

Main definitions:

* `Toml.Date`, `Toml.Time`, `Toml.Moment` — dates, times of day, and what is written of them;
* `Toml.Date.daysIn` — the length of a month;
* `Toml.Moment.read?` — the moment at the head of a row of characters.
-/

import AccountLedger.Text.Decimal

set_option relaxedAutoImplicit false
set_option autoImplicit false

namespace AccountLedger

namespace Toml

/-! ### Numbers of a fixed count of digits -/

/-- The number that two digits at the head of a row of characters denote, if it lies between the
bounds. -/
def readPairOfDigits? (least greatest : Nat) : List Char → Option (Nat × List Char)
  | a :: b :: rest =>
      let n := Decimal.value [a, b]
      if a.isDigit ∧ b.isDigit ∧ least ≤ n ∧ n ≤ greatest then some (n, rest) else none
  | _ => none

/-- What follows a character at the head of a row of characters. -/
def readMark? (mark : Char) : List Char → Option (List Char)
  | c :: rest => if c = mark then some rest else none
  | [] => none

/-! ### Dates -/

/-- A date. -/
structure Date where
  year : Nat
  month : Nat
  day : Nat
  deriving DecidableEq, Repr

namespace Date

/-- Does a year have a 29th of February? -/
def isLeap (year : Nat) : Bool := year % 4 = 0 && (year % 100 ≠ 0 || year % 400 = 0)

/-- The number of days of a month. -/
def daysIn (year month : Nat) : Nat :=
  if month = 2 then if isLeap year then 29 else 28
  else if month ∈ [4, 6, 9, 11] then 30
  else 31

/-- A year of four digits. -/
def readYear? : List Char → Option (Nat × List Char)
  | a :: b :: c :: d :: rest =>
      if [a, b, c, d].all Char.isDigit then some (Decimal.value [a, b, c, d], rest) else none
  | _ => none

/-- A date: year, month and day. -/
def read? (cs : List Char) : Option (Date × List Char) := do
  let (year, rest) ← readYear? cs
  let rest ← readMark? '-' rest
  let (month, rest) ← readPairOfDigits? 1 12 rest
  let rest ← readMark? '-' rest
  let (day, rest) ← readPairOfDigits? 1 (daysIn year month) rest
  return (⟨year, month, day⟩, rest)

end Date

/-! ### Times of day -/

/-- A time of day.  `fraction` holds the digits behind the seconds, none if there is no point. -/
structure Time where
  hour : Nat
  minute : Nat
  second : Nat
  fraction : List Char
  deriving DecidableEq, Repr

namespace Time

/-- The digits behind the seconds, if there are any, and what follows. -/
def readFraction : List Char → List Char × List Char
  | '.' :: rest =>
      match rest.takeWhile Char.isDigit with
      | [] => ([], '.' :: rest)
      | ds => (ds, rest.dropWhile Char.isDigit)
  | cs => ([], cs)

/-- A time of day: hour, minute and second. -/
def read? (cs : List Char) : Option (Time × List Char) := do
  let (hour, rest) ← readPairOfDigits? 0 23 cs
  let rest ← readMark? ':' rest
  let (minute, rest) ← readPairOfDigits? 0 59 rest
  let rest ← readMark? ':' rest
  let (second, rest) ← readPairOfDigits? 0 60 rest
  let (fraction, rest) := readFraction rest
  return (⟨hour, minute, second, fraction⟩, rest)

end Time

/-! ### Moments -/

/-- What is written of a point in time.  An offset counts the minutes that a clock is ahead of
universal time. -/
inductive Moment
  | date (d : Date)
  | time (t : Time)
  | both (d : Date) (t : Time) (offset : Option Int)
  deriving DecidableEq, Repr

namespace Moment

/-- Hours and minutes of an offset. -/
def readMinutes? (cs : List Char) : Option (Nat × List Char) := do
  let (hours, rest) ← readPairOfDigits? 0 23 cs
  let rest ← readMark? ':' rest
  let (minutes, rest) ← readPairOfDigits? 0 59 rest
  return (60 * hours + minutes, rest)

/-- An offset. -/
def readOffset? : List Char → Option (Int × List Char)
  | 'Z' :: rest => some (0, rest)
  | 'z' :: rest => some (0, rest)
  | '+' :: rest => (readMinutes? rest).map fun (n, rest) => ((n : Int), rest)
  | '-' :: rest => (readMinutes? rest).map fun (n, rest) => (-(n : Int), rest)
  | _ => none

/-- The time behind a date and the mark that divides them. -/
def readTimeOfDate? : List Char → Option (Time × List Char)
  | c :: rest => if c = 'T' ∨ c = 't' ∨ c = ' ' then Time.read? rest else none
  | [] => none

/-- **The moment at the head of a row of characters.** -/
def read? (cs : List Char) : Option (Moment × List Char) :=
  match Date.read? cs with
  | none => (Time.read? cs).map fun (t, rest) => (time t, rest)
  | some (d, rest) =>
      match readTimeOfDate? rest with
      | none => some (date d, rest)
      | some (t, rest) =>
          match readOffset? rest with
          | none => some (both d t none, rest)
          | some (offset, rest) => some (both d t (some offset), rest)

end Moment

end Toml

end AccountLedger
