/-
**Byte strings.**

Payload fields, addresses and encoded messages are rows of bytes.  Hashing and the duplicate filter
read them as words: eight bytes little-endian, four bytes big-endian.

Main definitions:

* `Bytes` — a row of bytes, ordered bytewise;
* `Bytes.littleEndian` — the number a row of bytes denotes, least significant byte first.
-/

set_option relaxedAutoImplicit false
set_option autoImplicit false

namespace AccountLedger

/-- A row of bytes. -/
abbrev Bytes := List UInt8

/-- The number that a row of bytes denotes, least significant byte first. -/
def Bytes.littleEndian (bs : Bytes) : Nat :=
  bs.foldr (fun b n => b.toNat + 256 * n) 0

end AccountLedger
