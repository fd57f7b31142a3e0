/-
**Writing JSON.**

There are two layouts: one without any blanks, and one with a line for every item, indented by two
spaces for each level.

Main definitions:

* `Json.quoted` — a text between quotation marks, with its escapes;
* `Json.compact` — the layout without blanks;
* `Json.pretty` — the layout with lines.
-/

import AccountLedger.Json.Value
import AccountLedger.Text.Hex

set_option relaxedAutoImplicit false
set_option autoImplicit false

namespace AccountLedger

/-! ### Numbers and texts -/

/-- The text of a number literal. -/
def Numeral.chars (n : Numeral) : List Char :=
  (if n.negative then ['-'] else []) ++ n.whole
    ++ (if n.fraction = [] then [] else '.' :: n.fraction)
    ++ (match n.exponent with
        | none => []
        | some (true, ds) => 'e' :: '-' :: ds
        | some (false, ds) => 'e' :: ds)

namespace Json

/-- The written form of a character: quotation marks, backslashes and controls are escaped. -/
def escape (c : Char) : List Char :=
  if c = '"' then ['\\', '"']
  else if c = '\\' then ['\\', '\\']
  else if c = '\n' then ['\\', 'n']
  else if c = '\r' then ['\\', 'r']
  else if c = '\t' then ['\\', 't']
  else if c = '\x08' then ['\\', 'b']
  else if c = '\x0c' then ['\\', 'f']
  else if c.toNat < 0x20 then
    ['\\', 'u', '0', '0', Hex.digitChar (c.toNat / 16), Hex.digitChar (c.toNat % 16)]
  else [c]

/-- A text between quotation marks. -/
def quoted (s : String) : List Char := '"' :: s.toList.flatMap escape ++ ['"']

/-- A string; one that is not text is written empty. -/
def stringChars (s : Option String) : List Char := quoted (s.getD "")

/-! ### Without blanks -/

mutual

/-- The layout without blanks. -/
def compactChars : Json → List Char
  | null => ['n', 'u', 'l', 'l']
  | bool true => ['t', 'r', 'u', 'e']
  | bool false => ['f', 'a', 'l', 's', 'e']
  | number n => n.chars
  | string s => stringChars s
  | array items => '[' :: compactItems items
  | object members => '\x7b' :: compactMembers members

/-- The items of an array and its closing bracket. -/
def compactItems : List Json → List Char
  | [] => [']']
  | [item] => compactChars item ++ [']']
  | item :: items => compactChars item ++ ',' :: compactItems items

/-- The members of an object and its closing brace. -/
def compactMembers : List (Option String × Json) → List Char
  | [] => ['\x7d']
  | [member] => compactMember member ++ ['\x7d']
  | member :: members => compactMember member ++ ',' :: compactMembers members

/-- One member of an object. -/
def compactMember : Option String × Json → List Char
  | (key, value) => stringChars key ++ ':' :: compactChars value

end

/-- **A value without blanks.** -/
def compact (j : Json) : String := String.ofList j.compactChars

/-! ### With lines -/

/-- A new line and its indentation. -/
def newline (level : Nat) : List Char := '\n' :: List.replicate (2 * level) ' '

mutual

/-- The layout with lines, of a value at a level. -/
def prettyChars (level : Nat) : Json → List Char
  | null => ['n', 'u', 'l', 'l']
  | bool true => ['t', 'r', 'u', 'e']
  | bool false => ['f', 'a', 'l', 's', 'e']
  | number n => n.chars
  | string s => stringChars s
  | array [] => ['[', ']']
  | array items => '[' :: prettyItems level items
  | object [] => ['\x7b', '\x7d']
  | object members => '\x7b' :: prettyMembers level members

/-- The items of an array at a level, each on a line of its own, and the closing bracket. -/
def prettyItems (level : Nat) : List Json → List Char
  | [] => newline level ++ [']']
  | [item] => newline (level + 1) ++ prettyChars (level + 1) item ++ newline level ++ [']']
  | item :: items =>
      newline (level + 1) ++ prettyChars (level + 1) item ++ ',' :: prettyItems level items

/-- The members of an object at a level, each on a line of its own, and the closing brace. -/
def prettyMembers (level : Nat) : List (Option String × Json) → List Char
  | [] => newline level ++ ['\x7d']
  | [member] => newline (level + 1) ++ prettyMember level member ++ newline level ++ ['\x7d']
  | member :: members =>
      newline (level + 1) ++ prettyMember level member ++ ',' :: prettyMembers level members

/-- One member of an object at a level. -/
def prettyMember (level : Nat) : Option String × Json → List Char
  | (key, value) => stringChars key ++ ':' :: ' ' :: prettyChars (level + 1) value

end

/-- **A value with a line for every item.** -/
def pretty (j : Json) : String := String.ofList (j.prettyChars 0)

end Json

end AccountLedger
