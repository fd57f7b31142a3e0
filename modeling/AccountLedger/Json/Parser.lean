/-
**Reading JSON.**

The grammar is the strict one: no comments, no trailing commas, no leading zeros, no raw control
characters in strings, nothing behind the value but blanks.

Main definitions:

* `Json.readString`, `Json.readNumeral` — the tokens with content;
* `Json.read` — the value at the head of a row of characters;
* `Json.parse` — the value that a whole text denotes.
-/

import AccountLedger.Json.Value
import AccountLedger.Text.Hex

set_option relaxedAutoImplicit false
set_option autoImplicit false

namespace AccountLedger

namespace Json

/-! ### Blanks -/

/-- The characters that may stand between tokens. -/
def isBlank (c : Char) : Bool := c = ' ' || c = '\n' || c = '\t' || c = '\r'

/-- The characters from the first that is no blank on. -/
def skipBlanks (cs : List Char) : List Char := cs.dropWhile isBlank

/-! ### Strings -/

/-- The number that four hexadecimal digits at the head of a row of characters denote. -/
def readUnit : List Char → Option (Nat × List Char)
  | a :: b :: c :: d :: rest => do
      let a ← Hex.digitValue? a
      let b ← Hex.digitValue? b
      let c ← Hex.digitValue? c
      let d ← Hex.digitValue? d
      return (((16 * a + b) * 16 + c) * 16 + d, rest)
  | _ => none

/-- Is `n` the first half of a surrogate pair? -/
def isHighHalf (n : Nat) : Bool := 0xD800 ≤ n && n ≤ 0xDBFF

/-- Is `n` the second half of a surrogate pair? -/
def isLowHalf (n : Nat) : Bool := 0xDC00 ≤ n && n ≤ 0xDFFF

/-- The second half of a surrogate pair at the head of a row of characters. -/
def readLowHalf : List Char → Option (Nat × List Char)
  | '\\' :: 'u' :: rest => (readUnit rest).filter fun r => isLowHalf r.1
  | _ => none

/-- The character of an escape by a single letter. -/
def letterEscape? (c : Char) : Option Char :=
  if c = '"' ∨ c = '\\' ∨ c = '/' then some c
  else if c = 'b' then some '\x08'
  else if c = 'f' then some '\x0c'
  else if c = 'n' then some '\n'
  else if c = 'r' then some '\r'
  else if c = 't' then some '\t'
  else none

/-- The character that an escape denotes, read behind its backslash; `none` inside if it is one half
of a surrogate pair alone. -/
def readEscape : List Char → Option (Option Char × List Char)
  | 'u' :: rest => do
      let (n, rest) ← readUnit rest
      if isHighHalf n then
        match readLowHalf rest with
        | some (m, rest) =>
            return (some (Char.ofNat (0x10000 + (n - 0xD800) * 0x400 + (m - 0xDC00))), rest)
        | none => return (none, rest)
      else if isLowHalf n then return (none, rest)
      else return (some (Char.ofNat n), rest)
  | c :: rest => (letterEscape? c).map fun c => (some c, rest)
  | [] => none

/-- A character in front of the contents of a string, if both are text. -/
def consChar (c : Option Char) (cs : Option (List Char)) : Option (List Char) :=
  match c, cs with
  | some c, some cs => some (c :: cs)
  | _, _ => none

/-- The contents of a string, read behind its opening quotation mark, with `fuel` characters at
most; `none` inside if they are not text. -/
def readStringBody : Nat → List Char → Option (Option (List Char) × List Char)
  | 0, _ => none
  | _ + 1, [] => none
  | fuel + 1, c :: rest =>
      if c = '"' then some (some [], rest)
      else if c = '\\' then do
        let (c, rest) ← readEscape rest
        let (cs, rest) ← readStringBody fuel rest
        return (consChar c cs, rest)
      else if c.toNat < 0x20 then none
      else do
        let (cs, rest) ← readStringBody fuel rest
        return (consChar (some c) cs, rest)

/-- A string, read behind its opening quotation mark. -/
def readString (cs : List Char) : Option (Option String × List Char) := do
  let (contents, rest) ← readStringBody cs.length cs
  return (contents.map String.ofList, rest)

/-! ### Numbers -/

/-- The digits at the head of a row of characters, at least one, and what follows. -/
def readDigits (cs : List Char) : Option (List Char × List Char) :=
  match cs.takeWhile Char.isDigit with
  | [] => none
  | ds => some (ds, cs.dropWhile Char.isDigit)

/-- The whole digits of a number: a single zero, or digits that do not start with zero. -/
def readWhole (cs : List Char) : Option (List Char × List Char) := do
  let (ds, rest) ← readDigits cs
  if ds.head? = some '0' ∧ 1 < ds.length then none else some (ds, rest)

/-- The digits behind a decimal point, if there is one. -/
def readFraction : List Char → Option (List Char × List Char)
  | '.' :: rest => readDigits rest
  | cs => some ([], cs)

/-- The sign and the digits of an exponent, behind its letter. -/
def readExponentBody : List Char → Option ((Bool × List Char) × List Char)
  | '-' :: rest => do
      let (ds, rest) ← readDigits rest
      return ((true, ds), rest)
  | '+' :: rest => do
      let (ds, rest) ← readDigits rest
      return ((false, ds), rest)
  | cs => do
      let (ds, rest) ← readDigits cs
      return ((false, ds), rest)

/-- The exponent of a number, if there is one. -/
def readExponent (cs : List Char) : Option (Option (Bool × List Char) × List Char) :=
  match cs with
  | c :: rest =>
      if c = 'e' ∨ c = 'E' then (readExponentBody rest).map fun r => (some r.1, r.2)
      else some (none, cs)
  | [] => some (none, [])

/-- A number without its sign. -/
def readUnsigned (negative : Bool) (cs : List Char) : Option (Numeral × List Char) := do
  let (whole, rest) ← readWhole cs
  let (fraction, rest) ← readFraction rest
  let (exponent, rest) ← readExponent rest
  return (⟨negative, whole, fraction, exponent⟩, rest)

/-- A number. -/
def readNumeral : List Char → Option (Numeral × List Char)
  | '-' :: rest => readUnsigned true rest
  | cs => readUnsigned false cs

/-! ### Values -/

mutual

/-- The value at the head of a row of characters and what follows it, with `fuel` bounding the
number of steps. -/
def readValue : Nat → List Char → Option (Json × List Char)
  | 0, _ => none
  | fuel + 1, cs =>
      match skipBlanks cs with
      | 'n' :: 'u' :: 'l' :: 'l' :: rest => some (null, rest)
      | 't' :: 'r' :: 'u' :: 'e' :: rest => some (bool true, rest)
      | 'f' :: 'a' :: 'l' :: 's' :: 'e' :: rest => some (bool false, rest)
      | '"' :: rest => (readString rest).map fun r => (string r.1, r.2)
      | '[' :: rest =>
          match skipBlanks rest with
          | ']' :: rest => some (array [], rest)
          | _ => (readItems fuel rest).map fun r => (array r.1, r.2)
      | '\x7b' :: rest =>
          match skipBlanks rest with
          | '\x7d' :: rest => some (object [], rest)
          | _ => (readMembers fuel rest).map fun r => (object r.1, r.2)
      | cs => (readNumeral cs).map fun r => (number r.1, r.2)

/-- The items of an array, at least one, up to its closing bracket. -/
def readItems : Nat → List Char → Option (List Json × List Char)
  | 0, _ => none
  | fuel + 1, cs => do
      let (item, rest) ← readValue fuel cs
      match skipBlanks rest with
      | ',' :: rest => do
          let (items, rest) ← readItems fuel rest
          return (item :: items, rest)
      | ']' :: rest => return ([item], rest)
      | _ => none

/-- The members of an object, at least one, up to its closing brace. -/
def readMembers : Nat → List Char → Option (List (Option String × Json) × List Char)
  | 0, _ => none
  | fuel + 1, cs => do
      let (member, rest) ← readMember fuel cs
      match skipBlanks rest with
      | ',' :: rest => do
          let (members, rest) ← readMembers fuel rest
          return (member :: members, rest)
      | '\x7d' :: rest => return ([member], rest)
      | _ => none

/-- One member of an object. -/
def readMember : Nat → List Char → Option ((Option String × Json) × List Char)
  | 0, _ => none
  | fuel + 1, cs =>
      match skipBlanks cs with
      | '"' :: rest => do
          let (key, rest) ← readString rest
          match skipBlanks rest with
          | ':' :: rest => do
              let (value, rest) ← readValue fuel rest
              return ((key, value), rest)
          | _ => none
      | _ => none

end

/-- The value at the head of a row of characters; each character pays for at most three steps. -/
def read (cs : List Char) : Option (Json × List Char) := readValue (3 * cs.length + 1) cs

/-- **The value that a text denotes.** -/
def parse (s : String) : Option Json := do
  let (j, rest) ← read s.toList
  if skipBlanks rest = [] then some j else none

end Json

end AccountLedger
