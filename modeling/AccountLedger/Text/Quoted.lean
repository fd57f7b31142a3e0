/-
**Quoted names in messages.**

Names chosen by other parties are quoted where a message mentions them: quotation marks and
backslashes get a backslash, a few controls have letters of their own, and every other character
that cannot be seen, or that would attach to the one before it, is written as its code point.

Main definitions:

* `Quoted.escape` — the written form of one character;
* `Quoted.quote` — a text between quotation marks.
-/

import AccountLedger.Text.Hex
import AccountLedger.Text.Unicode

set_option relaxedAutoImplicit false
set_option autoImplicit false

namespace AccountLedger

namespace Quoted

/-- The written form of a character inside quotation marks. -/
def escape (c : Char) : List Char :=
  if c = '"' then ['\\', '"']
  else if c = '\\' then ['\\', '\\']
  else if c = '\t' then ['\\', 't']
  else if c = '\n' then ['\\', 'n']
  else if c = '\r' then ['\\', 'r']
  else if c.toNat = 0 then ['\\', '0']
  else if Unicode.isExtender c || Unicode.isInvisible c then
    ['\\', 'u', '\x7b'] ++ Hex.digits c.toNat ++ ['\x7d']
  else [c]

/-- A text between quotation marks. -/
def quote (s : String) : String :=
  String.ofList ('"' :: s.toList.flatMap escape ++ ['"'])

end Quoted

end AccountLedger
