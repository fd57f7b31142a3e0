/-
**UTF-8.**

A row of bytes is cut into pieces: characters, and the longest runs of bytes that could have begun a
character but do not.  Strict reading refuses any ill-formed piece; repairing puts U+FFFD in place
of each.

Main definitions:

* `Utf8.encodeChar`, `Utf8.encode` — a character and a text as bytes;
* `Utf8.pieces` — the cut of a row of bytes;
* `Utf8.decode?` — the text that well-formed bytes denote;
* `Utf8.repair` — the text of any bytes.

Main results:

* `Utf8.decode?_encode` — what is written reads back;
* `Utf8.encode_of_decode?` — what is read was so written, so no text has two forms;
* `Utf8.repair_eq_of_decode?` — repairing changes nothing in well-formed bytes.
-/

import AccountLedger.Bytes

set_option relaxedAutoImplicit false
set_option autoImplicit false

namespace AccountLedger

namespace Utf8

/-! ### Writing -/

/-- The bytes of a character. -/
def encodeChar (c : Char) : Bytes :=
  let n := c.toNat
  if n < 0x80 then [UInt8.ofNat n]
  else if n < 0x800 then [UInt8.ofNat (0xC0 + n / 0x40), UInt8.ofNat (0x80 + n % 0x40)]
  else if n < 0x10000 then
    [UInt8.ofNat (0xE0 + n / 0x1000), UInt8.ofNat (0x80 + n / 0x40 % 0x40),
      UInt8.ofNat (0x80 + n % 0x40)]
  else
    [UInt8.ofNat (0xF0 + n / 0x40000), UInt8.ofNat (0x80 + n / 0x1000 % 0x40),
      UInt8.ofNat (0x80 + n / 0x40 % 0x40), UInt8.ofNat (0x80 + n % 0x40)]

/-- The bytes of a row of characters. -/
def encodeChars (cs : List Char) : Bytes := cs.flatMap encodeChar

/-- The bytes of a text. -/
def encode (s : String) : Bytes := encodeChars s.toList

/-! ### Reading -/

/-- Is `b` between `low` and `high`? -/
def within (low high : Nat) (b : UInt8) : Bool := low ≤ b.toNat && b.toNat ≤ high

theorem within_eq_true_iff {low high : Nat} {b : UInt8} :
    within low high b = true ↔ low ≤ b.toNat ∧ b.toNat ≤ high := by
  rw [within, Bool.and_eq_true, decide_eq_true_eq, decide_eq_true_eq]

/-- The bytes that may follow a leading byte, as bounds on the second byte, and the number of
further bytes after it.  A byte that leads no character of several bytes has none. -/
def lead? (b : UInt8) : Option (Nat × Nat × Nat) :=
  let n := b.toNat
  if n < 0xC2 then none
  else if n < 0xE0 then some (0x80, 0xBF, 0)
  else if n = 0xE0 then some (0xA0, 0xBF, 1)
  else if n = 0xED then some (0x80, 0x9F, 1)
  else if n < 0xF0 then some (0x80, 0xBF, 1)
  else if n = 0xF0 then some (0x90, 0xBF, 2)
  else if n < 0xF4 then some (0x80, 0xBF, 2)
  else if n = 0xF4 then some (0x80, 0x8F, 2)
  else none

/-- The payload bits of a leading byte of a character with `k` bytes after the second one. -/
def leadBits (b : UInt8) (k : Nat) : Nat :=
  match k with
  | 0 => b.toNat % 0x20
  | 1 => b.toNat % 0x10
  | _ => b.toNat % 0x08

/-- Up to `k` continuation bytes: the number their payload bits make behind `acc`, or `none` if
one is missing, and the bytes after those consumed. -/
def continuation : Nat → Nat → Bytes → Option Nat × Bytes
  | 0, acc, bs => (some acc, bs)
  | _ + 1, _, [] => (none, [])
  | k + 1, acc, b :: bs =>
      if within 0x80 0xBF b then continuation k (0x40 * acc + b.toNat % 0x40) bs
      else (none, b :: bs)

theorem length_continuation_le (k acc : Nat) (bs : Bytes) :
    (continuation k acc bs).2.length ≤ bs.length := by
  induction k generalizing acc bs with
  | zero => exact Nat.le_refl _
  | succ k ih =>
      cases bs with
      | nil => exact Nat.le_refl _
      | cons b bs =>
          rw [continuation]
          split
          · exact Nat.le_succ_of_le (ih _ _)
          · exact Nat.le_refl _

/-- The first piece of the row `b :: bs`, a character or (as `none`) an ill-formed run, and the
bytes after it. -/
def first (b : UInt8) (bs : Bytes) : Option Char × Bytes :=
  if b.toNat < 0x80 then (some (Char.ofNat b.toNat), bs)
  else
    match lead? b, bs with
    | some (low, high, k), b' :: bs' =>
        if within low high b' then
          let (code, rest) := continuation k (0x40 * leadBits b k + b'.toNat % 0x40) bs'
          (code.map Char.ofNat, rest)
        else (none, bs)
    | _, _ => (none, bs)

theorem length_first_le (b : UInt8) (bs : Bytes) : (first b bs).2.length ≤ bs.length := by
  unfold first
  split
  · exact Nat.le_refl _
  · split
    · split
      · exact Nat.le_succ_of_le (length_continuation_le _ _ _)
      · exact Nat.le_refl _
    · exact Nat.le_refl _

/-- The cut of a row of bytes into characters and ill-formed runs (`none`). -/
def pieces : Bytes → List (Option Char)
  | [] => []
  | b :: bs => (first b bs).1 :: pieces (first b bs).2
termination_by bs => bs.length
decreasing_by exact Nat.lt_succ_of_le (length_first_le b bs)

/-- All of a row of pieces, if each is a character. -/
def wellFormed? : List (Option Char) → Option (List Char)
  | [] => some []
  | none :: _ => none
  | some c :: ps => (wellFormed? ps).map (c :: ·)

/-- The characters that well-formed bytes denote. -/
def decodeChars? (bs : Bytes) : Option (List Char) := wellFormed? (pieces bs)

/-- The text that well-formed bytes denote. -/
def decode? (bs : Bytes) : Option String := (decodeChars? bs).map String.ofList

/-- The replacement character. -/
def replacement : Char := '\uFFFD'

/-- The text of any bytes, with U+FFFD in place of each ill-formed run. -/
def repair (bs : Bytes) : String := String.ofList ((pieces bs).map (·.getD replacement))

/-! ### Reading what was written -/

/-- A byte with the mark of a continuation is one, and carries the six bits it was made of. -/
theorem continuation_cons (k acc n : Nat) (bs : Bytes) :
    continuation (k + 1) acc (UInt8.ofNat (0x80 + n % 0x40) :: bs)
      = continuation k (0x40 * acc + n % 0x40) bs := by
  have hb : (UInt8.ofNat (0x80 + n % 0x40)).toNat = 0x80 + n % 0x40 :=
    UInt8.toNat_ofNat_of_lt' (show 0x80 + n % 0x40 < 256 by omega)
  have hwithin : within 0x80 0xBF (UInt8.ofNat (0x80 + n % 0x40)) = true :=
    within_eq_true_iff.2 (by omega)
  have hbits : (0x80 + n % 0x40) % 0x40 = n % 0x40 := by omega
  rw [continuation, if_pos hwithin, hb, hbits]

/-- A leading byte of several, and a second byte within its bounds. -/
theorem first_of_lead? {b b' : UInt8} {low high k : Nat} (hb : 0x80 ≤ b.toNat)
    (hlead : lead? b = some (low, high, k)) (hlow : low ≤ b'.toNat) (hhigh : b'.toNat ≤ high)
    (bs : Bytes) :
    first b (b' :: bs) =
      ((continuation k (0x40 * leadBits b k + b'.toNat % 0x40) bs).1.map Char.ofNat,
        (continuation k (0x40 * leadBits b k + b'.toNat % 0x40) bs).2) := by
  have hwithin : within low high b' = true := within_eq_true_iff.2 ⟨hlow, hhigh⟩
  unfold first
  rw [if_neg (by omega)]
  simp only [hlead, hwithin, if_true]

theorem first_two {n : Nat} (h : 0x80 ≤ n) (h' : n < 0x800) (rest : Bytes) :
    first (UInt8.ofNat (0xC0 + n / 0x40)) (UInt8.ofNat (0x80 + n % 0x40) :: rest)
      = (some (Char.ofNat n), rest) := by
  have hb : (UInt8.ofNat (0xC0 + n / 0x40)).toNat = 0xC0 + n / 0x40 :=
    UInt8.toNat_ofNat_of_lt' (show 0xC0 + n / 0x40 < 256 by omega)
  have hb' : (UInt8.ofNat (0x80 + n % 0x40)).toNat = 0x80 + n % 0x40 :=
    UInt8.toNat_ofNat_of_lt' (show 0x80 + n % 0x40 < 256 by omega)
  have hlead : lead? (UInt8.ofNat (0xC0 + n / 0x40)) = some (0x80, 0xBF, 0) := by
    simp only [lead?, hb]
    rw [if_neg (by omega), if_pos (by omega)]
  have hcode : 0x40 * ((0xC0 + n / 0x40) % 0x20) + (0x80 + n % 0x40) % 0x40 = n := by omega
  rw [first_of_lead? (by omega) hlead (by omega) (by omega), leadBits, hb, hb', hcode]
  rfl

/-- The second of three bytes keeps within bounds that leave out the halves of surrogate pairs. -/
theorem first_three {n : Nat} (h : 0x800 ≤ n) (h' : n < 0x10000)
    (hhalf : n < 0xD800 ∨ 0xE000 ≤ n) (rest : Bytes) :
    first (UInt8.ofNat (0xE0 + n / 0x1000))
        (UInt8.ofNat (0x80 + n / 0x40 % 0x40) :: UInt8.ofNat (0x80 + n % 0x40) :: rest)
      = (some (Char.ofNat n), rest) := by
  have hb : (UInt8.ofNat (0xE0 + n / 0x1000)).toNat = 0xE0 + n / 0x1000 :=
    UInt8.toNat_ofNat_of_lt' (show 0xE0 + n / 0x1000 < 256 by omega)
  have hb' : (UInt8.ofNat (0x80 + n / 0x40 % 0x40)).toNat = 0x80 + n / 0x40 % 0x40 :=
    UInt8.toNat_ofNat_of_lt' (show 0x80 + n / 0x40 % 0x40 < 256 by omega)
  have hlead : ∃ low high, lead? (UInt8.ofNat (0xE0 + n / 0x1000)) = some (low, high, 1) ∧
      low ≤ 0x80 + n / 0x40 % 0x40 ∧ 0x80 + n / 0x40 % 0x40 ≤ high := by
    simp only [lead?, hb]
    rw [if_neg (by omega), if_neg (by omega)]
    split
    · exact ⟨_, _, rfl, by omega, by omega⟩
    · split
      · exact ⟨_, _, rfl, by omega, by omega⟩
      · rw [if_pos (by omega)]
        exact ⟨_, _, rfl, by omega, by omega⟩
  obtain ⟨low, high, hlead, hlow, hhigh⟩ := hlead
  have hcode : 0x40 * (0x40 * ((0xE0 + n / 0x1000) % 0x10) + (0x80 + n / 0x40 % 0x40) % 0x40)
      + n % 0x40 = n := by omega
  rw [first_of_lead? (by omega) hlead (by omega) (by omega), leadBits, hb, hb', continuation_cons,
    hcode]
  rfl

theorem first_four {n : Nat} (h : 0x10000 ≤ n) (h' : n < 0x110000) (rest : Bytes) :
    first (UInt8.ofNat (0xF0 + n / 0x40000))
        (UInt8.ofNat (0x80 + n / 0x1000 % 0x40) :: UInt8.ofNat (0x80 + n / 0x40 % 0x40)
          :: UInt8.ofNat (0x80 + n % 0x40) :: rest)
      = (some (Char.ofNat n), rest) := by
  have hb : (UInt8.ofNat (0xF0 + n / 0x40000)).toNat = 0xF0 + n / 0x40000 :=
    UInt8.toNat_ofNat_of_lt' (show 0xF0 + n / 0x40000 < 256 by omega)
  have hb' : (UInt8.ofNat (0x80 + n / 0x1000 % 0x40)).toNat = 0x80 + n / 0x1000 % 0x40 :=
    UInt8.toNat_ofNat_of_lt' (show 0x80 + n / 0x1000 % 0x40 < 256 by omega)
  have hlead : ∃ low high, lead? (UInt8.ofNat (0xF0 + n / 0x40000)) = some (low, high, 2) ∧
      low ≤ 0x80 + n / 0x1000 % 0x40 ∧ 0x80 + n / 0x1000 % 0x40 ≤ high := by
    simp only [lead?, hb]
    rw [if_neg (by omega), if_neg (by omega), if_neg (by omega), if_neg (by omega),
      if_neg (by omega)]
    split
    · exact ⟨_, _, rfl, by omega, by omega⟩
    · split
      · exact ⟨_, _, rfl, by omega, by omega⟩
      · rw [if_pos (by omega)]
        exact ⟨_, _, rfl, by omega, by omega⟩
  obtain ⟨low, high, hlead, hlow, hhigh⟩ := hlead
  have hcode : 0x40 * (0x40 * (0x40 * ((0xF0 + n / 0x40000) % 0x08)
      + (0x80 + n / 0x1000 % 0x40) % 0x40) + n / 0x40 % 0x40) + n % 0x40 = n := by omega
  rw [first_of_lead? (by omega) hlead (by omega) (by omega), leadBits, hb, hb', continuation_cons,
    continuation_cons, hcode]
  · rfl
  · exact nofun
  · exact nofun

/-- A written character is the first piece, whatever follows it. -/
theorem pieces_encodeChar (c : Char) (rest : Bytes) :
    pieces (encodeChar c ++ rest) = some c :: pieces rest := by
  have hvalid := c.valid
  have hcons {b : UInt8} {bs : Bytes} (h : first b bs = (some (Char.ofNat c.toNat), rest)) :
      pieces (b :: bs) = some c :: pieces rest := by
    rw [pieces, h, Char.ofNat_toNat]
  simp only [encodeChar]
  split
  · next h =>
      refine hcons ?_
      have hb : (UInt8.ofNat c.toNat).toNat = c.toNat :=
        UInt8.toNat_ofNat_of_lt' (show c.toNat < 256 by omega)
      show first (UInt8.ofNat c.toNat) rest = _
      unfold first
      rw [hb, if_pos h]
  · next h =>
      split
      · next h' => exact hcons (first_two (by omega) h' rest)
      · next h' =>
          have hcode : c.toNat < 0xD800 ∨ 0xE000 ≤ c.toNat ∧ c.toNat < 0x110000 := by
            rcases hvalid with hlow | ⟨hlow, hhigh⟩
            · exact .inl hlow
            · exact .inr ⟨hlow, hhigh⟩
          split
          · next h'' => exact hcons (first_three (by omega) h'' (by omega) rest)
          · next h'' => exact hcons (first_four (by omega) (by omega) rest)

theorem decodeChars?_encodeChars (cs : List Char) : decodeChars? (encodeChars cs) = some cs := by
  induction cs with
  | nil =>
      rw [encodeChars, List.flatMap_nil, decodeChars?, pieces]
      rfl
  | cons c cs ih =>
      rw [decodeChars?] at ih
      rw [encodeChars, List.flatMap_cons, ← encodeChars, decodeChars?, pieces_encodeChar, wellFormed?,
        ih]
      rfl

/-- **What is written reads back.** -/
@[simp] theorem decode?_encode (s : String) : decode? (encode s) = some s := by
  rw [decode?, encode, decodeChars?_encodeChars, Option.map_some, String.ofList_toList]

/-- Different texts have different bytes. -/
theorem encode_injective {s t : String} (h : encode s = encode t) : s = t := by
  have hdecode := congrArg decode? h
  rw [decode?_encode, decode?_encode] at hdecode
  exact Option.some.inj hdecode

/-! ### Writing what was read -/

/-- A byte is known by its number. -/
theorem ofNat_eq {b : UInt8} {n : Nat} (h : n = b.toNat) : UInt8.ofNat n = b := by
  rw [h, UInt8.ofNat_toNat]

theorem toNat_ofNat {n : Nat} (h : n < 0xD800 ∨ 0xE000 ≤ n ∧ n < 0x110000) :
    (Char.ofNat n).toNat = n := by
  have hvalid : n.isValidChar := by
    rcases h with h | ⟨hlow, hhigh⟩
    · exact .inl h
    · exact .inr ⟨by omega, hhigh⟩
  rw [Char.ofNat, dif_pos hvalid]
  rfl

/-- A continuation that is there begins with a byte that has the mark of one. -/
theorem exists_of_continuation {k acc n : Nat} {bs rest : Bytes}
    (h : continuation (k + 1) acc bs = (some n, rest)) :
    ∃ b bs₁, bs = b :: bs₁ ∧ 0x80 ≤ b.toNat ∧ b.toNat ≤ 0xBF ∧
      continuation k (0x40 * acc + b.toNat % 0x40) bs₁ = (some n, rest) := by
  cases bs with
  | nil => cases h
  | cons b bs =>
      rw [continuation] at h
      split at h
      · next hwithin =>
          obtain ⟨hlow, hhigh⟩ := within_eq_true_iff.1 hwithin
          exact ⟨b, bs, rfl, hlow, hhigh, h⟩
      · cases h

/-- The bounds that a leading byte sets, which leave out all that has a shorter form, the halves of
surrogate pairs, and what is past the last character. -/
theorem lead?_cases {b : UInt8} {low high k : Nat} (h : lead? b = some (low, high, k)) :
    0x80 ≤ low ∧ high ≤ 0xBF ∧
      (k = 0 ∧ 0xC2 ≤ b.toNat ∧ b.toNat < 0xE0 ∨
        k = 1 ∧ 0xE0 ≤ b.toNat ∧ b.toNat < 0xF0 ∧ (b.toNat = 0xE0 → 0xA0 ≤ low) ∧
          (b.toNat = 0xED → high ≤ 0x9F) ∨
        k = 2 ∧ 0xF0 ≤ b.toNat ∧ b.toNat ≤ 0xF4 ∧ (b.toNat = 0xF0 → 0x90 ≤ low) ∧
          (b.toNat = 0xF4 → high ≤ 0x8F)) := by
  simp only [lead?] at h
  repeat' split at h
  all_goals cases h
  all_goals omega

theorem encodeChar_two {b b₁ : UInt8} (hb : 0xC2 ≤ b.toNat ∧ b.toNat < 0xE0)
    (hb₁ : 0x80 ≤ b₁.toNat ∧ b₁.toNat ≤ 0xBF) :
    encodeChar (Char.ofNat (0x40 * (b.toNat % 0x20) + b₁.toNat % 0x40)) = [b, b₁] := by
  generalize hn : 0x40 * (b.toNat % 0x20) + b₁.toNat % 0x40 = n
  simp only [encodeChar, toNat_ofNat (n := n) (by omega)]
  rw [if_neg (by omega), if_pos (by omega), ofNat_eq (b := b) (by omega),
    ofNat_eq (b := b₁) (by omega)]

theorem encodeChar_three {b b₁ b₂ : UInt8} (hb : 0xE0 ≤ b.toNat ∧ b.toNat < 0xF0)
    (hb₁ : 0x80 ≤ b₁.toNat ∧ b₁.toNat ≤ 0xBF) (hb₂ : 0x80 ≤ b₂.toNat ∧ b₂.toNat ≤ 0xBF)
    (hshort : b.toNat = 0xE0 → 0xA0 ≤ b₁.toNat) (hhalf : b.toNat = 0xED → b₁.toNat ≤ 0x9F) :
    encodeChar (Char.ofNat (0x40 * (0x40 * (b.toNat % 0x10) + b₁.toNat % 0x40)
      + b₂.toNat % 0x40)) = [b, b₁, b₂] := by
  generalize hn : 0x40 * (0x40 * (b.toNat % 0x10) + b₁.toNat % 0x40) + b₂.toNat % 0x40 = n
  simp only [encodeChar, toNat_ofNat (n := n) (by omega)]
  rw [if_neg (by omega), if_neg (by omega), if_pos (by omega), ofNat_eq (b := b) (by omega),
    ofNat_eq (b := b₁) (by omega), ofNat_eq (b := b₂) (by omega)]

theorem encodeChar_four {b b₁ b₂ b₃ : UInt8} (hb : 0xF0 ≤ b.toNat ∧ b.toNat ≤ 0xF4)
    (hb₁ : 0x80 ≤ b₁.toNat ∧ b₁.toNat ≤ 0xBF) (hb₂ : 0x80 ≤ b₂.toNat ∧ b₂.toNat ≤ 0xBF)
    (hb₃ : 0x80 ≤ b₃.toNat ∧ b₃.toNat ≤ 0xBF)
    (hshort : b.toNat = 0xF0 → 0x90 ≤ b₁.toNat) (hlast : b.toNat = 0xF4 → b₁.toNat ≤ 0x8F) :
    encodeChar (Char.ofNat (0x40 * (0x40 * (0x40 * (b.toNat % 0x08) + b₁.toNat % 0x40)
      + b₂.toNat % 0x40) + b₃.toNat % 0x40)) = [b, b₁, b₂, b₃] := by
  generalize hn : 0x40 * (0x40 * (0x40 * (b.toNat % 0x08) + b₁.toNat % 0x40) + b₂.toNat % 0x40)
    + b₃.toNat % 0x40 = n
  simp only [encodeChar, toNat_ofNat (n := n) (by omega)]
  rw [if_neg (by omega), if_neg (by omega), if_neg (by omega), ofNat_eq (b := b) (by omega),
    ofNat_eq (b := b₁) (by omega), ofNat_eq (b := b₂) (by omega), ofNat_eq (b := b₃) (by omega)]

/-- A character that is read is what the bytes before the rest write. -/
theorem encodeChar_of_first {b : UInt8} {bs rest : Bytes} {c : Char}
    (h : first b bs = (some c, rest)) : encodeChar c ++ rest = b :: bs := by
  unfold first at h
  split at h
  · next hb =>
      cases h
      simp only [encodeChar, toNat_ofNat (n := b.toNat) (by omega)]
      rw [if_pos hb, UInt8.ofNat_toNat, List.singleton_append]
  · split at h
    · next low high k b₁ bs₁ hlead =>
        split at h
        · next hwithin =>
            obtain ⟨hlow, hhigh⟩ := within_eq_true_iff.1 hwithin
            obtain ⟨hlow₁, hhigh₁, hlength⟩ := lead?_cases hlead
            simp only [Prod.mk.injEq, Option.map_eq_some_iff] at h
            obtain ⟨⟨n, hn, rfl⟩, hrest⟩ := h
            have hcode : continuation k (0x40 * leadBits b k + b₁.toNat % 0x40) bs₁
                = (some n, rest) := Prod.ext hn hrest
            rcases hlength with ⟨rfl, hb⟩ | ⟨rfl, hb, hhigh₀, hshort, hhalf⟩ |
              ⟨rfl, hb, hhigh₀, hshort, hlast⟩
            · cases hcode
              rw [leadBits, encodeChar_two hb ⟨by omega, by omega⟩]
              rfl
            · obtain ⟨b₂, bs₂, rfl, hb₂, hhigh₂, hcode⟩ := exists_of_continuation hcode
              cases hcode
              rw [leadBits, encodeChar_three ⟨hb, hhigh₀⟩ ⟨by omega, by omega⟩ ⟨hb₂, hhigh₂⟩
                (fun he => Nat.le_trans (hshort he) hlow)
                (fun he => Nat.le_trans hhigh (hhalf he))]
              rfl
            · obtain ⟨b₂, bs₂, rfl, hb₂, hhigh₂, hcode⟩ := exists_of_continuation hcode
              obtain ⟨b₃, bs₃, rfl, hb₃, hhigh₃, hcode⟩ := exists_of_continuation hcode
              cases hcode
              have hbits : leadBits b 2 = b.toNat % 0x08 := rfl
              rw [hbits, encodeChar_four ⟨hb, hhigh₀⟩ ⟨by omega, by omega⟩ ⟨hb₂, hhigh₂⟩
                ⟨hb₃, hhigh₃⟩
                (fun he => Nat.le_trans (hshort he) hlow)
                (fun he => Nat.le_trans hhigh (hlast he))]
              rfl
        · cases h
    · cases h

theorem encodeChars_of_wellFormed? {bs : Bytes} {cs : List Char}
    (h : wellFormed? (pieces bs) = some cs) : encodeChars cs = bs := by
  induction bs using pieces.induct generalizing cs with
  | case1 =>
      rw [pieces] at h
      cases h
      rfl
  | case2 b bs ih =>
      rw [pieces] at h
      rcases hfirst : first b bs with ⟨piece?, rest⟩
      rw [hfirst] at h ih
      cases piece? with
      | none => cases h
      | some c =>
          obtain ⟨cs', hcs', rfl⟩ := Option.map_eq_some_iff.1 h
          rw [encodeChars, List.flatMap_cons, ← encodeChars, ih hcs', encodeChar_of_first hfirst]

/-- **What is read was so written**: no text has two forms. -/
theorem encode_of_decode? {bs : Bytes} {s : String} (h : decode? bs = some s) : encode s = bs := by
  obtain ⟨cs, hcs, rfl⟩ := Option.map_eq_some_iff.1 h
  rw [encode, String.toList_ofList, encodeChars_of_wellFormed? hcs]

/-- Different bytes denote different texts. -/
theorem decode?_injective {bs bs₁ : Bytes} {s : String} (h : decode? bs = some s)
    (h' : decode? bs₁ = some s) : bs = bs₁ :=
  (encode_of_decode? h).symm.trans (encode_of_decode? h')

/-! ### Repairing well-formed bytes -/

theorem map_getD_of_wellFormed? {ps : List (Option Char)} {cs : List Char}
    (h : wellFormed? ps = some cs) : ps.map (·.getD replacement) = cs := by
  induction ps generalizing cs with
  | nil => cases h; rfl
  | cons p ps ih =>
      cases p with
      | none => cases h
      | some c =>
          obtain ⟨cs', h', rfl⟩ := Option.map_eq_some_iff.1 h
          simp [ih h']

/-- **Repairing changes nothing in well-formed bytes.** -/
theorem repair_eq_of_decode? {bs : Bytes} {s : String} (h : decode? bs = some s) :
    repair bs = s := by
  obtain ⟨cs, hcs, rfl⟩ := Option.map_eq_some_iff.1 h
  rw [repair, map_getD_of_wellFormed? hcs]

end Utf8

end AccountLedger
