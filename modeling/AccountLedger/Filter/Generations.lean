/-
**Keys seen lately.**

Two filters of one size take turns.  Keys go into the current one; a rotation makes it the previous
one and forgets the one before.  A key is thus remembered until its second following rotation.

Main definitions:

* `Generations` — the two filters;
* `Generations.insert`, `Generations.contains`, `Generations.rotate` — what one does with them;
* `Generations.ofSizing` — two filters of the size that a sizing asks for.
-/

import AccountLedger.Filter.Bloom

set_option relaxedAutoImplicit false
set_option autoImplicit false

namespace AccountLedger

/-- The filters of the current and of the previous cycle. -/
structure Generations where
  current : Bloom
  previous : Bloom
  deriving DecidableEq, Repr

namespace Generations

/-- Two filters without keys. -/
def empty (size : Dimensions) : Generations := ⟨.empty size, .empty size⟩

/-- Two filters of the size that a sizing asks for. -/
def ofSizing (s : Sizing) : Except SizingError Generations := do
  let size ← s.dimensions
  return empty size

/-- Remembers a key. -/
def insert (g : Generations) (key : Bytes) : Generations :=
  { g with current := g.current.insert key }

/-- Is a key reported by one of the filters? -/
def contains (g : Generations) (key : Bytes) : Bool :=
  g.current.contains key || g.previous.contains key

/-- Begins a new cycle. -/
def rotate (g : Generations) : Generations := ⟨.empty g.current.size, g.current⟩

end Generations

end AccountLedger
