/-
**Records on the wire.**

A message is a row of records.  Each begins with a key, which holds the number of a field and the
form of what follows: a base-128 number, a row of bytes with its length, or one of the forms that no
message here uses.  Those are recognised so that they can be passed over: words of eight and of four
bytes, and groups of records between a starting and an ending key of one number.

Main definitions:

* `Payload`, `Record` — what a record carries, and the record;
* `Record.encode`, `Record.encodeAll` — the bytes of records;
* `Record.read?`, `Record.decodeAll?` — the records that a row of bytes consists of.

Main results:

* `Record.length_lt_of_read?` — reading a record consumes at least one byte;
* `Record.decodeAll?_encodeAll` — records that are written read back.
-/

import AccountLedger.Wire.Varint

set_option relaxedAutoImplicit false
set_option autoImplicit false

namespace AccountLedger

/-- What a record carries. -/
inductive Payload
  | varint (n : UInt64)
  | delimited (bytes : Bytes)
  /-- Something of a form that no message uses. -/
  | skipped
  deriving DecidableEq, Repr

/-- One record of a message. -/
structure Record where
  number : Nat
  payload : Payload
  deriving DecidableEq, Repr

namespace Record

/-! ### Writing -/

/-- The key of a field: its number, and the form of what follows. -/
def key (number form : Nat) : Bytes := Varint.encode (8 * number + form)

/-- The bytes of a record.  What was passed over is not written again. -/
def encode : Record → Bytes
  | ⟨number, .varint n⟩ => key number 0 ++ Varint.encode n.toNat
  | ⟨number, .delimited bs⟩ => key number 2 ++ (Varint.encode bs.length ++ bs)
  | ⟨_, .skipped⟩ => []

/-- The bytes of a row of records. -/
def encodeAll (rs : List Record) : Bytes := rs.flatMap encode

/-! ### Reading -/

/-- The number and the form of a key, and the bytes after it.  A key fits into 32 bits and its
number is not zero. -/
def key? (bs : Bytes) : Option (Nat × Nat × Bytes) :=
  match Varint.decode? bs with
  | none => none
  | some (n, rest) =>
      if 8 ≤ n.toNat ∧ n.toNat < UInt32.size then some (n.toNat / 8, n.toNat % 8, rest) else none

/-- The first `count` bytes, and the bytes after them. -/
def take? (count : Nat) (bs : Bytes) : Option (Bytes × Bytes) :=
  if count ≤ bs.length then some (bs.take count, bs.drop count) else none

/-- What follows a key of a form other than a group, and the bytes after it. -/
def simple? (form : Nat) (bs : Bytes) : Option (Payload × Bytes) :=
  match form with
  | 0 => (Varint.decode? bs).map fun (n, rest) => (.varint n, rest)
  | 1 => (take? 8 bs).map fun (_, rest) => (.skipped, rest)
  | 2 =>
      match Varint.decode? bs with
      | none => none
      | some (length, rest) =>
          (take? length.toNat rest).map fun (taken, rest) => (.delimited taken, rest)
  | 5 => (take? 4 bs).map fun (_, rest) => (.skipped, rest)
  | _ => none

theorem length_lt_of_key? {bs rest : Bytes} {number form : Nat}
    (h : key? bs = some (number, form, rest)) : rest.length < bs.length := by
  unfold key? at h
  split at h
  · cases h
  · next hd =>
      split at h
      · cases h
        exact Varint.length_lt_of_decode? hd
      · cases h

theorem length_le_of_take? {count : Nat} {bs taken rest : Bytes}
    (h : take? count bs = some (taken, rest)) : rest.length ≤ bs.length := by
  unfold take? at h
  split at h
  · cases h
    rw [List.length_drop]
    exact Nat.sub_le _ _
  · cases h

theorem length_le_of_simple? {form : Nat} {bs rest : Bytes} {p : Payload}
    (h : simple? form bs = some (p, rest)) : rest.length ≤ bs.length := by
  unfold simple? at h
  split at h
  · obtain ⟨⟨n, r⟩, hd, he⟩ := Option.map_eq_some_iff.1 h
    cases he
    exact Nat.le_of_lt (Varint.length_lt_of_decode? hd)
  · obtain ⟨⟨t, r⟩, hd, he⟩ := Option.map_eq_some_iff.1 h
    cases he
    exact length_le_of_take? hd
  · split at h
    · cases h
    · next hv =>
        obtain ⟨⟨t, r⟩, hd, he⟩ := Option.map_eq_some_iff.1 h
        cases he
        exact Nat.le_trans (length_le_of_take? hd) (Nat.le_of_lt (Varint.length_lt_of_decode? hv))
  · obtain ⟨⟨t, r⟩, hd, he⟩ := Option.map_eq_some_iff.1 h
    cases he
    exact length_le_of_take? hd
  · cases h

/-- Passes over groups: `pending` holds the numbers of those that have started and not ended, the
innermost first.  A record may lie in fewer than `depth` groups. -/
def skipGroups (depth : Nat) (pending : List Nat) (bs : Bytes) : Option Bytes :=
  match pending with
  | [] => some bs
  | number :: outer =>
      match hk : key? bs with
      | none => none
      | some (n, form, rest) =>
          have := length_lt_of_key? hk
          -- An ending key ends the innermost group, and has to carry its number.
          if form = 4 then if n = number then skipGroups depth outer rest else none
          else if depth ≤ outer.length + 1 then none
          else if form = 3 then skipGroups depth (n :: number :: outer) rest
          else
            match hs : simple? form rest with
            | none => none
            | some (_, rest') =>
                have := length_le_of_simple? hs
                skipGroups depth (number :: outer) rest'
termination_by bs.length

theorem length_le_of_skipGroups {depth : Nat} {pending : List Nat} {bs rest : Bytes}
    (h : skipGroups depth pending bs = some rest) : rest.length ≤ bs.length := by
  fun_induction skipGroups depth pending bs with
  | case1 => cases h; exact Nat.le_refl _
  | case2 => cases h
  | case3 _ _ _ _ _ hlt ih => exact Nat.le_trans (ih h) (Nat.le_of_lt hlt)
  | case4 => cases h
  | case5 => cases h
  | case6 _ _ _ _ _ _ _ hlt _ ih => exact Nat.le_trans (ih h) (Nat.le_of_lt hlt)
  | case7 => cases h
  | case8 _ _ _ _ _ _ _ hlt _ _ _ _ _ _ hle ih =>
      exact Nat.le_trans (ih h) (Nat.le_trans hle (Nat.le_of_lt hlt))

/-- The record at the start of a row of bytes, and the bytes after it.  What is inside a group lies
in fewer than `depth` of them. -/
def read? (depth : Nat) (bs : Bytes) : Option (Record × Bytes) :=
  match key? bs with
  | none => none
  | some (number, form, rest) =>
      if form = 3 then (skipGroups depth [number] rest).map fun rest => (⟨number, .skipped⟩, rest)
      else (simple? form rest).map fun (payload, rest) => (⟨number, payload⟩, rest)

/-- **Reading a record consumes at least one byte.** -/
theorem length_lt_of_read? {depth : Nat} {bs rest : Bytes} {r : Record}
    (h : read? depth bs = some (r, rest)) : rest.length < bs.length := by
  unfold read? at h
  split at h
  · cases h
  · next hk =>
      have hlt := length_lt_of_key? hk
      split at h
      · obtain ⟨s, hs, he⟩ := Option.map_eq_some_iff.1 h
        cases he
        exact Nat.lt_of_le_of_lt (length_le_of_skipGroups hs) hlt
      · obtain ⟨⟨p, s⟩, hs, he⟩ := Option.map_eq_some_iff.1 h
        cases he
        exact Nat.lt_of_le_of_lt (length_le_of_simple? hs) hlt

/-- The records that a row of bytes consists of. -/
def decodeAll? (depth : Nat) (bs : Bytes) : Option (List Record) :=
  if bs = [] then some []
  else
    match hr : read? depth bs with
    | none => none
    | some (r, rest) =>
        have := length_lt_of_read? hr
        (decodeAll? depth rest).map (r :: ·)
termination_by bs.length

/-! ### Reading what was written -/

/-- Can a record be written so that it reads back?  Its number fits into a key, and its bytes can be
counted in 64 bits. -/
def IsWritable (r : Record) : Prop :=
  0 < r.number ∧ 8 * r.number + 7 < UInt32.size ∧
    match r.payload with
    | .varint _ => True
    | .delimited bs => bs.length < UInt64.size
    | .skipped => False

theorem key?_key {number form : Nat} (h₀ : 0 < number) (h₁ : 8 * number + 7 < UInt32.size) (hf : form < 8)
    (rest : Bytes) : key? (key number form ++ rest) = some (number, form, rest) := by
  have hn : (UInt64.ofNat (8 * number + form)).toNat = 8 * number + form :=
    UInt64.toNat_ofNat_of_lt' (Nat.lt_trans (by omega : _ < UInt32.size) (by decide))
  have hd := Varint.decode?_encode (UInt64.ofNat (8 * number + form)) rest
  rw [hn] at hd
  rw [key?, key, hd]
  simp only [hn]
  rw [if_pos (by omega)]
  simp only [Option.some.injEq, Prod.mk.injEq, and_true]
  omega

/-- A record that is written reads back, whatever follows it. -/
theorem read?_encode {r : Record} (h : r.IsWritable) (depth : Nat) (rest : Bytes) :
    read? depth (r.encode ++ rest) = some (r, rest) := by
  obtain ⟨number, payload⟩ := r
  obtain ⟨h₀, h₁, hp⟩ := h
  cases payload with
  | varint n =>
      rw [read?, encode, List.append_assoc, key?_key h₀ h₁ (by decide)]
      simp only [simple?, Varint.decode?_encode]
      rfl
  | delimited bs =>
      have hl : (UInt64.ofNat bs.length).toNat = bs.length := UInt64.toNat_ofNat_of_lt' hp
      have hd := Varint.decode?_encode (UInt64.ofNat bs.length) (bs ++ rest)
      rw [hl] at hd
      have ht : take? bs.length (bs ++ rest) = some (bs, rest) := by
        rw [take?, if_pos (by rw [List.length_append]; omega), List.take_left, List.drop_left]
      rw [read?, encode, List.append_assoc, List.append_assoc, key?_key h₀ h₁ (by decide)]
      simp only [simple?, hd, hl, ht]
      rfl
  | skipped => cases hp

theorem encode_ne_nil {r : Record} (h : r.IsWritable) : r.encode ≠ [] := by
  intro he
  have := length_lt_of_read? (read?_encode h 0 [])
  rw [he] at this
  exact Nat.not_lt_zero _ this

/-- **Records that are written read back.** -/
theorem decodeAll?_encodeAll {rs : List Record} (h : ∀ r ∈ rs, r.IsWritable) (depth : Nat) :
    decodeAll? depth (encodeAll rs) = some rs := by
  induction rs with
  | nil => rw [encodeAll, List.flatMap_nil, decodeAll?, if_pos rfl]
  | cons r rs ih =>
      have hr := h r List.mem_cons_self
      have ih := ih fun s hs => h s (List.mem_cons_of_mem _ hs)
      rw [encodeAll, List.flatMap_cons, ← encodeAll, decodeAll?,
        if_neg (by simp [encode_ne_nil hr])]
      split
      · next hn =>
          rw [read?_encode hr] at hn
          cases hn
      · next hs =>
          rw [read?_encode hr] at hs
          cases hs
          rw [ih]
          rfl

end Record

end AccountLedger
