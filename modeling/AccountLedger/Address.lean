/-
**Account addresses.**

An address is a row of 21 bytes headed by the network byte 0x41.  It is written as 42 hexadecimal
digits, and addresses are ordered by their bytes.

Main definitions:

* `Address` — a well-formed address;
* `AddressError` — why bytes or digits are no address, and the wording;
* `Address.ofBytes`, `Address.parse` — reading bytes and digits;
* `Address.hex` — the written form.

Main results:

* `Address.ofBytes_eq_ok_iff` — exactly the well-formed rows of bytes are read;
* `Address.parse_hex` — what is written reads back.
-/

import AccountLedger.Text.Hex
import AccountLedger.Text.Decimal

set_option relaxedAutoImplicit false
set_option autoImplicit false

namespace AccountLedger

/-! ### Addresses and their order -/

/-- The number of bytes of an address. -/
def addressSize : Nat := 21

/-- The byte that heads every address of the network. -/
def networkByte : UInt8 := 0x41

/-- Twenty-one bytes headed by the network byte. -/
structure Address where
  bytes : Bytes
  length_eq : bytes.length = addressSize
  head_eq : bytes.head? = some networkByte
  deriving DecidableEq

namespace Address

theorem ext {a b : Address} (h : a.bytes = b.bytes) : a = b := by
  cases a
  cases b
  cases h
  rfl

/-- Addresses are ordered by their bytes. -/
instance : Ord Address := ⟨fun a b => compare a.bytes b.bytes⟩

instance : Std.TransOrd Address where
  eq_swap {a b} := Std.OrientedCmp.eq_swap (a := a.bytes) (b := b.bytes)
  isLE_trans {a b c} hab hbc :=
    Std.TransCmp.isLE_trans (a := a.bytes) (b := b.bytes) (c := c.bytes) hab hbc

instance : Std.LawfulEqOrd Address where
  compare_self {a} := Std.ReflCmp.compare_self (a := a.bytes)
  eq_of_compare h := ext (Std.LawfulEqCmp.eq_of_compare h)

/-! ### The written form -/

/-- The forty-two lowercase digits of an address. -/
def hex (a : Address) : String := Hex.encode a.bytes

end Address

/-! ### Reading -/

/-- Why bytes or digits are no address. -/
inductive AddressError
  | wrongLength (actual : Nat)
  | wrongHead (actual : UInt8)
  | notHex
  deriving DecidableEq, Repr

/-- A byte as `0x` and two digits. -/
def hexByte (b : UInt8) : String := "0x" ++ Hex.encode [b]

/-- The wording of an address failure. -/
def AddressError.message : AddressError → String
  | wrongLength n => "address must be " ++ Decimal.ofNat addressSize ++ " bytes, got "
      ++ Decimal.ofNat n
  | wrongHead b => "address prefix must be " ++ hexByte networkByte ++ ", got " ++ hexByte b
  | notHex => "address is not valid hex"

namespace Address

/-- Reads raw bytes: the length is judged before the first byte. -/
def ofBytes (bs : Bytes) : Except AddressError Address :=
  if h : bs.length = addressSize then
    if h' : bs.head? = some networkByte then .ok ⟨bs, h, h'⟩
    else .error (.wrongHead (bs.headD 0))
  else .error (.wrongLength bs.length)

/-- Reads hexadecimal digits of either case. -/
def parse (s : String) : Except AddressError Address :=
  match Hex.decode? s with
  | none => .error .notHex
  | some bs => ofBytes bs

/-- **Exactly the well-formed rows of bytes are read.** -/
theorem ofBytes_eq_ok_iff {bs : Bytes} {a : Address} : ofBytes bs = .ok a ↔ a.bytes = bs := by
  unfold ofBytes
  constructor
  · intro h
    split at h
    · split at h
      · cases h; rfl
      · cases h
    · cases h
  · rintro rfl
    rw [dif_pos a.length_eq, dif_pos a.head_eq]

@[simp] theorem ofBytes_bytes (a : Address) : ofBytes a.bytes = .ok a :=
  ofBytes_eq_ok_iff.2 rfl

/-- **What is written reads back.** -/
@[simp] theorem parse_hex (a : Address) : parse a.hex = .ok a := by
  simp [parse, hex]

end Address

end AccountLedger
