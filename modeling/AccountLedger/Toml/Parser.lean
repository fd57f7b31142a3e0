/-
**Reading TOML.**

A document is a row of lines, each blank, a header or a key with its value; comments run to the end
of a line.

Main definitions:

* `Toml.readText?` — the four kinds of strings;
* `Toml.readNumber` — integers and floating-point numbers;
* `Toml.readValue` — the value at the head of a row of characters;
* `Toml.parse` — the table that a whole text denotes.
-/

import AccountLedger.Text.Decimal
import AccountLedger.Text.Hex
import AccountLedger.Toml.Value

set_option relaxedAutoImplicit false
set_option autoImplicit false

namespace AccountLedger

namespace Toml

/-! ### Blanks and lines -/

/-- The characters that may stand between tokens of a line. -/
def isBlank (c : Char) : Bool := c = ' ' || c = '\t'

/-- The characters from the first that is no blank on. -/
def skipBlanks (cs : List Char) : List Char := cs.dropWhile isBlank

/-- May a character stand in a comment or a string as it is?  Control characters other than the
tabulator may not. -/
def isPlain (c : Char) : Bool := c = '\t' || (0x20 ≤ c.toNat && c.toNat ≠ 0x7F)

/-- What follows the end of a line. -/
def readLineEnd : List Char → Option (List Char)
  | '\n' :: rest => some rest
  | '\r' :: '\n' :: rest => some rest
  | _ => none

/-- What follows a comment, if there is one. -/
def skipComment : List Char → List Char
  | '#' :: rest => rest.dropWhile isPlain
  | cs => cs

/-- What follows a line of which nothing is left but blanks and a comment. -/
def readRestOfLine (cs : List Char) : Option (List Char) :=
  match skipComment (skipBlanks cs) with
  | [] => some []
  | cs => readLineEnd cs

/-- What follows blanks, comments and ends of lines, with `fuel` bounding the number of lines. -/
def skipLines : Nat → List Char → List Char
  | 0, cs => skipBlanks cs
  | fuel + 1, cs =>
      match readLineEnd (skipComment (skipBlanks cs)) with
      | some rest => skipLines fuel rest
      | none => skipBlanks cs

/-! ### Strings -/

/-- The number that `count` hexadecimal digits denote behind `acc`. -/
def readHex : Nat → Nat → List Char → Option (Nat × List Char)
  | 0, acc, cs => some (acc, cs)
  | _ + 1, _, [] => none
  | count + 1, acc, c :: rest => do
      let d ← Hex.digitValue? c
      readHex count (16 * acc + d) rest

/-- The character of an escape by its code. -/
def readCode (count : Nat) (cs : List Char) : Option (Char × List Char) := do
  let (n, rest) ← readHex count 0 cs
  if n.isValidChar then some (Char.ofNat n, rest) else none

/-- The character that an escape denotes, read behind its backslash. -/
def readEscape : List Char → Option (Char × List Char)
  | 'b' :: rest => some ('\x08', rest)
  | 't' :: rest => some ('\t', rest)
  | 'n' :: rest => some ('\n', rest)
  | 'f' :: rest => some ('\x0c', rest)
  | 'r' :: rest => some ('\r', rest)
  | '"' :: rest => some ('"', rest)
  | '\\' :: rest => some ('\\', rest)
  | 'u' :: rest => readCode 4 rest
  | 'U' :: rest => readCode 8 rest
  | _ => none

/-- A character in front of what was read. -/
def before (c : Char) (r : Option (List Char × List Char)) : Option (List Char × List Char) :=
  r.map fun (cs, rest) => (c :: cs, rest)

/-- The contents of a string on one line, read behind its opening quotation mark. -/
def readBasic : Nat → List Char → Option (List Char × List Char)
  | 0, _ => none
  | _ + 1, [] => none
  | fuel + 1, c :: rest =>
      if c = '"' then some ([], rest)
      else if c = '\\' then do
        let (c, rest) ← readEscape rest
        before c (readBasic fuel rest)
      else if isPlain c then before c (readBasic fuel rest)
      else none

/-- The contents of a literal string on one line, read behind its opening quotation mark. -/
def readLiteral : List Char → Option (List Char × List Char)
  | [] => none
  | c :: rest =>
      if c = '\'' then some ([], rest)
      else if isPlain c then before c (readLiteral rest)
      else none

/-- Up to two quotation marks that belong to the contents, behind the three that end a string. -/
def readExtraMarks (mark : Char) : List Char → List Char × List Char
  | c :: d :: rest =>
      if c = mark then if d = mark then ([c, d], rest) else ([c], d :: rest)
      else ([], c :: d :: rest)
  | [c] => if c = mark then ([c], []) else ([], [c])
  | [] => ([], [])

/-- What follows blanks and ends of lines. -/
def skipBlankLines : List Char → List Char
  | '\r' :: '\n' :: rest => skipBlankLines rest
  | c :: rest => if isBlank c || c = '\n' then skipBlankLines rest else c :: rest
  | [] => []

/-- What follows a backslash at the end of a line: the blanks and the ends of lines behind it are
left out. -/
def readFoldedLine (cs : List Char) : Option (List Char) :=
  (readLineEnd (skipBlanks cs)).map skipBlankLines

/-- The contents of a string of several lines, read behind its opening quotation marks. -/
def readLongBasic : Nat → List Char → Option (List Char × List Char)
  | 0, _ => none
  | _ + 1, [] => none
  | _ + 1, '"' :: '"' :: '"' :: rest => some (readExtraMarks '"' rest)
  | fuel + 1, '\\' :: rest =>
      match readFoldedLine rest with
      | some rest => readLongBasic fuel rest
      | none => do
          let (c, rest) ← readEscape rest
          before c (readLongBasic fuel rest)
  | fuel + 1, c :: rest =>
      match readLineEnd (c :: rest) with
      | some rest => before '\n' (readLongBasic fuel rest)
      | none => if isPlain c then before c (readLongBasic fuel rest) else none

/-- The contents of a literal string of several lines, read behind its opening quotation marks. -/
def readLongLiteral : Nat → List Char → Option (List Char × List Char)
  | 0, _ => none
  | _ + 1, [] => none
  | _ + 1, '\'' :: '\'' :: '\'' :: rest => some (readExtraMarks '\'' rest)
  | fuel + 1, c :: rest =>
      match readLineEnd (c :: rest) with
      | some rest => before '\n' (readLongLiteral fuel rest)
      | none => if isPlain c then before c (readLongLiteral fuel rest) else none

/-- What follows the end of a line right behind the quotation marks that open a string of several
lines. -/
def skipFirstLineEnd (cs : List Char) : List Char := (readLineEnd cs).getD cs

/-- The contents of a string of any kind. -/
def readContents : List Char → Option (List Char × List Char)
  | '"' :: '"' :: '"' :: rest => readLongBasic (rest.length + 1) (skipFirstLineEnd rest)
  | '"' :: rest => readBasic rest.length rest
  | '\'' :: '\'' :: '\'' :: rest => readLongLiteral (rest.length + 1) (skipFirstLineEnd rest)
  | '\'' :: rest => readLiteral rest
  | _ => none

/-- A string of any kind. -/
def readText? (cs : List Char) : Option (Toml × List Char) :=
  (readContents cs).map fun (contents, rest) => (.text (String.ofList contents), rest)

/-! ### Keys -/

/-- The greatest number of parts of a key, and of arrays and tables inside each other. -/
def maxDepth : Nat := 79

/-- May a character stand in a key without quotation marks? -/
def isBare (c : Char) : Bool := c.isAlphanum || c = '-' || c = '_'

/-- One part of a key. -/
def readPart : List Char → Option (String × List Char)
  | '"' :: rest => (readBasic rest.length rest).map fun (cs, rest) => (String.ofList cs, rest)
  | '\'' :: rest => (readLiteral rest).map fun (cs, rest) => (String.ofList cs, rest)
  | cs =>
      match cs.takeWhile isBare with
      | [] => none
      | part => some (String.ofList part, cs.dropWhile isBare)

/-- The parts of a key but the last, and the last, with `fuel` bounding their number. -/
def readKey : Nat → List Char → Option ((List String × String) × List Char)
  | 0, _ => none
  | fuel + 1, cs => do
      let (part, rest) ← readPart (skipBlanks cs)
      match skipBlanks rest with
      | '.' :: rest => do
          let ((path, last), rest) ← readKey fuel rest
          return ((part :: path, last), rest)
      | rest => return (([], part), rest)

/-! ### Numbers -/

/-- Digits behind a first one; an underscore may stand between two of them. -/
def readDigitsTail (isDigit : Char → Bool) : List Char → Option (List Char × List Char)
  | [] => some ([], [])
  | ['_'] => none
  | '_' :: c :: rest => if isDigit c then before c (readDigitsTail isDigit rest) else none
  | c :: rest =>
      if isDigit c then before c (readDigitsTail isDigit rest) else some ([], c :: rest)

/-- One or more digits; an underscore may stand between two of them. -/
def readDigits (isDigit : Char → Bool) : List Char → Option (List Char × List Char)
  | [] => none
  | c :: rest => if isDigit c then before c (readDigitsTail isDigit rest) else none

/-- The whole digits of a number: a single zero, or digits that do not start with zero. -/
def readWhole : List Char → Option (List Char × List Char)
  | '0' :: rest => some (['0'], rest)
  | cs => readDigits Char.isDigit cs

/-- An integer that fits into 64 bits. -/
def integer? (i : Int) : Option Toml :=
  if -9223372036854775808 ≤ i ∧ i < 9223372036854775808 then some (.integer (Int64.ofInt i))
  else none

/-- An integer to a base other than ten, read behind its heading. -/
def readBased (base : Nat) (cs : List Char) : Option (Toml × List Char) := do
  let isDigit (c : Char) : Bool := ((Hex.digitValue? c).filter (· < base)).isSome
  let (ds, rest) ← readDigits isDigit cs
  let value := ds.foldl (fun n c => base * n + (Hex.digitValue? c).getD 0) 0
  return (← integer? value, rest)

/-- The floating-point number nearest to `significand * 10 ^ exponent`.  Numbers out of reach are
settled by the number of their digits. -/
def nearest (significand : Nat) (exponent : Int) : Float :=
  let digits := (Decimal.digits significand).length
  if significand = 0 then 0
  else if 310 < digits + exponent then 1 / 0
  else if digits + exponent < -330 then 0
  else Float.ofScientific significand (exponent < 0) exponent.natAbs

/-- The digits behind a decimal point, if there is one. -/
def readFraction : List Char → Option (List Char × List Char)
  | '.' :: rest => readDigits Char.isDigit rest
  | cs => some ([], cs)

/-- The sign of a number, true for minus. -/
def readSign : List Char → Bool × List Char
  | '-' :: rest => (true, rest)
  | '+' :: rest => (false, rest)
  | cs => (false, cs)

/-- The exponent of a number, if there is one. -/
def readExponent : List Char → Option (Option Int × List Char)
  | [] => some (none, [])
  | c :: rest =>
      if c = 'e' ∨ c = 'E' then do
        let (negative, rest) := readSign rest
        let (ds, rest) ← readDigits Char.isDigit rest
        let e : Int := Decimal.value ds
        return (some (if negative then -e else e), rest)
      else some (none, c :: rest)

/-- A number to the base ten, read behind its sign.  A positive number may not be too large. -/
def readDecimal (negative : Bool) (cs : List Char) : Option (Toml × List Char) := do
  let (whole, rest) ← readWhole cs
  let (fraction, rest) ← readFraction rest
  let (exponent, rest) ← readExponent rest
  if fraction = [] ∧ exponent = none then
    let magnitude : Int := Decimal.value whole
    return (← integer? (if negative then -magnitude else magnitude), rest)
  else
    let f := nearest (Decimal.value (whole ++ fraction)) (exponent.getD 0 - fraction.length)
    if negative then return (.float (-f), rest)
    else if f.isInf then none
    else return (.float f, rest)

/-- A number. -/
def readNumber (cs : List Char) : Option (Toml × List Char) :=
  match cs with
  | '0' :: 'x' :: rest => readBased 16 rest
  | '0' :: 'o' :: rest => readBased 8 rest
  | '0' :: 'b' :: rest => readBased 2 rest
  | _ =>
      let (negative, rest) := readSign cs
      match rest with
      | 'i' :: 'n' :: 'f' :: rest => some (.float (if negative then -1 / 0 else 1 / 0), rest)
      | 'n' :: 'a' :: 'n' :: rest => some (.float (0 / 0), rest)
      | rest => readDecimal negative rest

/-! ### Values -/

/-- The items of an array up to its closing bracket. -/
def readItems (item : List Char → Option (Toml × List Char)) :
    Nat → List Char → Option (List Toml × List Char)
  | 0, _ => none
  | fuel + 1, cs =>
      match skipLines cs.length cs with
      | ']' :: rest => some ([], rest)
      | cs => do
          let (value, rest) ← item cs
          match skipLines rest.length rest with
          | ',' :: rest => do
              let (values, rest) ← readItems item fuel rest
              return (value :: values, rest)
          | ']' :: rest => return ([value], rest)
          | _ => none

/-- A key with its value. -/
def readPair (item : List Char → Option (Toml × List Char)) (cs : List Char) :
    Option ((List String × String × Toml) × List Char) := do
  let ((path, last), rest) ← readKey maxDepth cs
  match rest with
  | '=' :: rest => do
      let (value, rest) ← item (skipBlanks rest)
      return ((path, last, value), rest)
  | _ => none

/-- The keys and values of a table between braces, at least one, up to the closing brace, added to
its entries. -/
def readPairs (item : List Char → Option (Toml × List Char)) :
    Nat → Entries → List Char → Option (Entries × List Char)
  | 0, _, _ => none
  | fuel + 1, es, cs => do
      let ((path, last, value), rest) ← readPair item cs
      let es ← bind path last value .inline es
      match skipBlanks rest with
      | ',' :: rest => readPairs item fuel es rest
      | '\x7d' :: rest => return (es, rest)
      | _ => none

/-- A date, a time or a number. -/
def readMomentOrNumber (cs : List Char) : Option (Toml × List Char) :=
  match Moment.read? cs with
  | some (m, rest) => some (.moment m, rest)
  | none => readNumber cs

/-- The value at the head of a row of characters.  Arrays and tables nest at most `depth` deep. -/
def readValue : Nat → List Char → Option (Toml × List Char)
  | _, 't' :: 'r' :: 'u' :: 'e' :: rest => some (.bool true, rest)
  | _, 'f' :: 'a' :: 'l' :: 's' :: 'e' :: rest => some (.bool false, rest)
  | _, '"' :: rest => readText? ('"' :: rest)
  | _, '\'' :: rest => readText? ('\'' :: rest)
  | 0, '[' :: _ => none
  | 0, '\x7b' :: _ => none
  | depth + 1, '[' :: rest =>
      (readItems (readValue depth) (rest.length + 1) rest).map fun (items, rest) =>
        (.array items, rest)
  | depth + 1, '\x7b' :: rest =>
      match skipBlanks rest with
      | '\x7d' :: rest => some (.table .inline [], rest)
      | rest =>
          (readPairs (readValue depth) rest.length [] rest).map fun (es, rest) =>
            (.table .inline es, rest)
  | _, cs => readMomentOrNumber cs

/-! ### Documents -/

/-- What has been read of a document: its entries, and the table that keys belong to now. -/
structure State where
  entries : Entries
  current : List String

/-- A header behind its opening bracket. -/
def readHeader (s : State) (cs : List Char) : Option (State × List Char) := do
  let ((path, last), rest) ← readKey maxDepth cs
  match rest with
  | ']' :: rest => return (⟨← openTable path last s.entries, path ++ [last]⟩, rest)
  | _ => none

/-- A header behind its two opening brackets. -/
def readRowHeader (s : State) (cs : List Char) : Option (State × List Char) := do
  let ((path, last), rest) ← readKey maxDepth cs
  match rest with
  | ']' :: ']' :: rest => return (⟨← openRow path last s.entries, path ++ [last]⟩, rest)
  | _ => none

/-- A key with its value, bound in the table that keys belong to. -/
def readBinding (s : State) (cs : List Char) : Option (State × List Char) := do
  let ((path, last, value), rest) ← readPair (readValue maxDepth) cs
  let entries ← within false (bind path last value) s.current .header s.entries
  return (⟨entries, s.current⟩, rest)

/-- One statement. -/
def readStatement (s : State) : List Char → Option (State × List Char)
  | '[' :: '[' :: rest => readRowHeader s rest
  | '[' :: rest => readHeader s rest
  | cs => readBinding s cs

/-- The statements of a document, with `fuel` bounding the number of lines. -/
def readStatements : Nat → State → List Char → Option Entries
  | 0, _, _ => none
  | fuel + 1, s, cs =>
      match skipBlanks cs with
      | [] => some s.entries
      | cs =>
          match readRestOfLine cs with
          | some rest => readStatements fuel s rest
          | none => do
              let (s, rest) ← readStatement s cs
              let rest ← readRestOfLine rest
              readStatements fuel s rest

/-- **The table that a text denotes.**  A mark of the byte order in front of it does not count. -/
def parse (s : String) : Option Toml :=
  let cs := match s.toList with
    | '\ufeff' :: rest => rest
    | cs => cs
  (readStatements (cs.length + 1) ⟨[], []⟩ cs).map (.table .header)

end Toml

end AccountLedger
