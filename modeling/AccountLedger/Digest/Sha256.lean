/-
**SHA-256.**

The message is padded to blocks of sixteen 32-bit words; each block is expanded to sixty-four words
and mixed into a state of eight words in as many rounds.

Main definitions:

* `Sha256.padded`, `Sha256.blocks` — the message as blocks of words;
* `Sha256.schedule`, `Sha256.compress` — the expansion of a block, and its rounds;
* `Sha256.digest` — the thirty-two bytes of the digest;
* `Sha256.Collide` — different messages of one digest.
-/

import AccountLedger.Bytes

set_option relaxedAutoImplicit false
set_option autoImplicit false

namespace AccountLedger

namespace Sha256

/-! ### Words -/

/-- A word rotated to the right by `n` bits, `0 < n < 32`. -/
def rotate (x : UInt32) (n : UInt32) : UInt32 := (x >>> n) ||| (x <<< (32 - n))

/-- The word of four bytes, most significant first. -/
def word (a b c d : UInt8) : UInt32 :=
  (a.toUInt32 <<< 24) ||| (b.toUInt32 <<< 16) ||| (c.toUInt32 <<< 8) ||| d.toUInt32

/-- The four bytes of a word, most significant first. -/
def wordBytes (x : UInt32) : Bytes :=
  [(x >>> 24).toUInt8, (x >>> 16).toUInt8, (x >>> 8).toUInt8, x.toUInt8]

/-- The words of a row of bytes; a rest of fewer than four bytes is left out. -/
def words : Bytes → List UInt32
  | a :: b :: c :: d :: rest => word a b c d :: words rest
  | _ => []

/-! ### Blocks -/

/-- The bits of a message length as eight bytes. -/
def lengthBytes (length : Nat) : Bytes :=
  let bits : UInt64 := UInt64.ofNat (8 * length)
  [(bits >>> 56).toUInt8, (bits >>> 48).toUInt8, (bits >>> 40).toUInt8, (bits >>> 32).toUInt8,
    (bits >>> 24).toUInt8, (bits >>> 16).toUInt8, (bits >>> 8).toUInt8, bits.toUInt8]

/-- A message with a one bit, as many zero bits as fill the last block, and its length. -/
def padded (message : Bytes) : Bytes :=
  let zeros := (119 - message.length % 64) % 64
  message ++ 0x80 :: (List.replicate zeros 0 ++ lengthBytes message.length)

/-- The blocks of a row of words, with `count` bounding their number. -/
def blocks : Nat → List UInt32 → List (List UInt32)
  | 0, _ => []
  | count + 1, ws => ws.take 16 :: blocks count (ws.drop 16)

/-! ### Rounds -/

/-- The round constants. -/
def constants : List UInt32 :=
  [0x428a2f98, 0x71374491, 0xb5c0fbcf, 0xe9b5dba5, 0x3956c25b, 0x59f111f1, 0x923f82a4, 0xab1c5ed5,
    0xd807aa98, 0x12835b01, 0x243185be, 0x550c7dc3, 0x72be5d74, 0x80deb1fe, 0x9bdc06a7, 0xc19bf174,
    0xe49b69c1, 0xefbe4786, 0x0fc19dc6, 0x240ca1cc, 0x2de92c6f, 0x4a7484aa, 0x5cb0a9dc, 0x76f988da,
    0x983e5152, 0xa831c66d, 0xb00327c8, 0xbf597fc7, 0xc6e00bf3, 0xd5a79147, 0x06ca6351, 0x14292967,
    0x27b70a85, 0x2e1b2138, 0x4d2c6dfc, 0x53380d13, 0x650a7354, 0x766a0abb, 0x81c2c92e, 0x92722c85,
    0xa2bfe8a1, 0xa81a664b, 0xc24b8b70, 0xc76c51a3, 0xd192e819, 0xd6990624, 0xf40e3585, 0x106aa070,
    0x19a4c116, 0x1e376c08, 0x2748774c, 0x34b0bcb5, 0x391c0cb3, 0x4ed8aa4a, 0x5b9cca4f, 0x682e6ff3,
    0x748f82ee, 0x78a5636f, 0x84c87814, 0x8cc70208, 0x90befffa, 0xa4506ceb, 0xbef9a3f7, 0xc67178f2]

/-- The eight words that a digest is made of. -/
structure State where
  a : UInt32
  b : UInt32
  c : UInt32
  d : UInt32
  e : UInt32
  f : UInt32
  g : UInt32
  h : UInt32
  deriving DecidableEq, Repr

/-- The state before the first block. -/
def initial : State :=
  ⟨0x6a09e667, 0xbb67ae85, 0x3c6ef372, 0xa54ff53a, 0x510e527f, 0x9b05688c, 0x1f83d9ab, 0x5be0cd19⟩

/-- A window of sixteen words and `count` further ones.  Each further word is mixed from four of the
sixteen before it, after which the window moves on by one. -/
def expand : Nat → List UInt32 → List UInt32
  | count + 1, window@(w0 :: w1 :: rest) =>
      match rest.drop 7, rest.drop 12 with
      | w9 :: _, w14 :: _ =>
          let s0 := rotate w1 7 ^^^ rotate w1 18 ^^^ (w1 >>> 3)
          let s1 := rotate w14 17 ^^^ rotate w14 19 ^^^ (w14 >>> 10)
          w0 :: expand count (w1 :: rest ++ [w0 + s0 + w9 + s1])
      | _, _ => window
  | _, window => window

/-- The sixty-four words of a block. -/
def schedule (block : List UInt32) : List UInt32 := expand 48 block

/-- One round with a constant and a word of the schedule. -/
def round (s : State) (k w : UInt32) : State :=
  let s1 := rotate s.e 6 ^^^ rotate s.e 11 ^^^ rotate s.e 25
  let choice := (s.e &&& s.f) ^^^ ((~~~s.e) &&& s.g)
  let t1 := s.h + s1 + choice + k + w
  let s0 := rotate s.a 2 ^^^ rotate s.a 13 ^^^ rotate s.a 22
  let majority := (s.a &&& s.b) ^^^ (s.a &&& s.c) ^^^ (s.b &&& s.c)
  ⟨t1 + (s0 + majority), s.a, s.b, s.c, s.d + t1, s.e, s.f, s.g⟩

/-- The rounds of one row of constants and words. -/
def rounds : State → List UInt32 → List UInt32 → State
  | s, k :: ks, w :: ws => rounds (round s k w) ks ws
  | s, _, _ => s

/-- The state after one more block. -/
def compress (s : State) (block : List UInt32) : State :=
  let t := rounds s constants (schedule block)
  ⟨s.a + t.a, s.b + t.b, s.c + t.c, s.d + t.d, s.e + t.e, s.f + t.f, s.g + t.g, s.h + t.h⟩

/-- **The digest of a message.** -/
def digest (message : Bytes) : Bytes :=
  let ws := words (padded message)
  let s := (blocks (ws.length / 16) ws).foldl compress initial
  [s.a, s.b, s.c, s.d, s.e, s.f, s.g, s.h].flatMap wordBytes

/-- Two different messages with the same digest. -/
def Collide (a b : Bytes) : Prop := a ≠ b ∧ digest a = digest b

theorem eq_or_collide {a b : Bytes} (h : digest a = digest b) : a = b ∨ Collide a b :=
  (Decidable.em (a = b)).imp_right fun hne => ⟨hne, h⟩

end Sha256

end AccountLedger
