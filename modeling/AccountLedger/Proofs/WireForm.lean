/-
**Contracts on the wire.**

Contracts survive the way over the wire, and transactions of different signed data have different
bytes.  Fields of their usual value are left out, integers are written as 64 bits wide, and records of
unknown fields are passed over.

Main results:

* `Record.int32_eq_int64`, `Record.toNat_toUInt64`, `Record.length_encode_of_neg` — how integers are
  written;
* `Contract.unpack_pack` — what was packed unpacks;
* `RawData.eq_or_collide` — a name is shared only by a collision;
* `Transaction.carried_intact` — **contracts survive the wire, and signed data has one written form.**
-/

import AccountLedger.Proofs.UnknownFields
import Mathlib.Algebra.Group.Nat.Defs

set_option relaxedAutoImplicit false
set_option autoImplicit false

namespace AccountLedger

open Message Record

/-! ### What is written of a field -/

/-- A number takes a byte for every seven bits that it has begun. -/
theorem Varint.length_encode {count n : Nat} (hle : 128 ^ count ≤ n) (hlt : n < 128 ^ (count + 1)) :
    (encode n).length = count + 1 := by
  induction count generalizing n with
  | zero =>
      rw [encode, if_pos (by omega)]
      rfl
  | succ count ih =>
      have hpos : 1 ≤ 128 ^ count := Nat.one_le_pow _ _ (by decide)
      rw [Nat.pow_succ] at hle hlt
      rw [encode, if_neg (by omega), List.length_cons, ih (by omega) (by omega)]

namespace Record

variable {number : Nat}

theorem bytes_eq_nil_iff {bs : Bytes} : bytes number bs = [] ↔ bs = [] := by
  simp [bytes]

theorem text_eq_nil_iff {s : String} : text number s = [] ↔ s = "" := by
  rw [text, bytes_eq_nil_iff]
  constructor
  · intro h
    exact Utf8.encode_injective h
  · rintro rfl
    rfl

theorem int64_eq_nil_iff {i : Int64} : int64 number i = [] ↔ i = 0 := by
  simp [int64]

/-- A 32-bit integer is written as the 64-bit one of its value. -/
theorem int32_eq_int64 (number : Nat) (i : Int32) : int32 number i = int64 number i.toInt64 := by
  have hzero : i.toInt64 = 0 ↔ i = 0 := by
    rw [← Int64.toInt_inj, ← Int32.toInt_inj, Int32.toInt_toInt64]
    rfl
  simp only [int32, int64, hzero]

/-- An integer is written as the number of 64 bits that it is in two's complement. -/
theorem toNat_toUInt64 (i : Int64) :
    (i.toUInt64.toNat : Int) = i.toInt % 18446744073709551616 := by
  have hlt := i.toUInt64.toNat_lt
  have hbits : i.toInt = if 2 * i.toUInt64.toNat < 2 ^ 64 then (i.toUInt64.toNat : Int)
      else (i.toUInt64.toNat : Int) - (2 ^ 64 : Nat) := BitVec.toInt_eq_toNat_cond i.toBitVec
  split at hbits
  · omega
  · omega

/-- A negative one takes ten bytes. -/
theorem length_encode_of_neg {i : Int64} (h : i.toInt < 0) :
    (Varint.encode i.toUInt64.toNat).length = 10 := by
  have hexact := toNat_toUInt64 i
  have hleast := Int64.le_toInt i
  exact Varint.length_encode (by omega) (by omega)

end Record

/-! ### Contracts and transactions -/

namespace Contract

variable {c : Contract}

theorem decodePayload?_encodePayload (h : c.encodePayload.length < UInt64.size) :
    decodePayload? c.kind c.encodePayload = some c := by
  cases c <;> exact congrArg (Option.map _) (decode?_encode h)

/-- **What was packed unpacks.** -/
theorem unpack_pack (h : c.encodePayload.length < UInt64.size) : c.pack.unpack = .ok c := by
  have hparameter : Envelope.unpackParameter c.kind (some ⟨c.kind.typeUrl, c.encodePayload⟩)
      = .ok c := by
    rw [Envelope.unpackParameter, if_neg (not_not_intro rfl), decodePayload?_encodePayload h]
  rw [Envelope.unpack, pack, Kind.resolve, Kind.ofTag?_tag]
  exact congrArg (Except.mapError _) hparameter

/-- The payload is shorter than the transaction that carries it. -/
theorem length_encodePayload_lt {timestamp expiration : Int64}
    (h : (encode (Transaction.wrap c timestamp expiration)).length < UInt64.size) :
    c.encodePayload.length < UInt64.size := by
  have hraw : (encode (⟨expiration, [c.pack], timestamp⟩ : RawData)).length < UInt64.size :=
    length_encode_lt_of_nested (List.mem_append_left _ List.mem_cons_self) h
  have henvelope : (encode c.pack).length < UInt64.size :=
    length_encode_lt_of_nested
      (List.mem_append_left _ (List.mem_append_right _ List.mem_cons_self)) hraw
  have hpacked : (encode (⟨c.kind.typeUrl, c.encodePayload⟩ : Packed)).length < UInt64.size :=
    length_encode_lt_of_nested (List.mem_append_right _ List.mem_cons_self) henvelope
  by_cases hempty : c.encodePayload = []
  · rw [hempty]
    decide
  · have hmem : ⟨2, .delimited c.encodePayload⟩ ∈ bytes 2 c.encodePayload := by
      rw [bytes, if_neg hempty]
      exact List.mem_cons_self
    exact Nat.lt_of_le_of_lt (length_le_of_delimited_mem (List.mem_append_right _ hmem)) hpacked

end Contract

/-- Transactions of one name sign the same data, or their bytes collide. -/
theorem RawData.eq_or_collide {a b : RawData} (ha : (encode a).length < UInt64.size)
    (h : a.id = b.id) : a = b ∨ Sha256.Collide (encode a) (encode b) :=
  (Sha256.eq_or_collide h).imp_left (encode_injective ha)

namespace Transaction

/-- **Contracts survive the wire, and signed data has one written form.**  A contract of any kind
unpacks from what it was packed to.  The bytes of the transaction that wraps it denote that
transaction, whose single contract unpacks to it, and they do so as well with records of unknown
fields between its own; so it is with every message, at every level.  Signed data is determined by its
bytes; two transactions are known by one name only if they sign the same data or their bytes collide
under the digest.  Fields of their usual value are left out, an integer of 32 bits is written as one of
64, and a negative one takes ten bytes.  All that is asked of the messages is that their bytes can be
counted in 64 bits, as those of every row of bytes in memory can. -/
theorem carried_intact :
    (∀ c : Contract, c.encodePayload.length < UInt64.size → c.pack.unpack = .ok c) ∧
    (∀ (c : Contract) (timestamp expiration : Int64),
      (encode (wrap c timestamp expiration)).length < UInt64.size →
        decode? (encode (wrap c timestamp expiration)) = some (wrap c timestamp expiration) ∧
        ∃ d e, (wrap c timestamp expiration).rawData = some d ∧ d.contracts = [e] ∧
          d.timestamp = timestamp ∧ d.expiration = expiration ∧ e.unpack = .ok c) ∧
    (∀ (t : Transaction) (bs : Bytes) (rs : List Record), (encode t).length < UInt64.size →
      decodeAll? maxDepth bs = some rs →
      rs.filter (fun r => r.number = 1 ∨ r.number = 2) = records t → decode? bs = some t) ∧
    (∀ (α : Type) [Message α] [Fields α] [Lawful α] (depth : Nat) (bs : Bytes) (m : α),
      (encode m).length < UInt64.size → Spells depth bs m → mergeBytes? depth blank bs = some m) ∧
    (∀ a b : RawData, (encode a).length < UInt64.size →
      (encode a = encode b → a = b) ∧
      (a.id = b.id → a = b ∨ Sha256.Collide (encode a) (encode b))) ∧
    (∀ (number : Nat) (bs : Bytes) (s : String) (i : Int64),
      (bytes number bs = [] ↔ bs = []) ∧ (text number s = [] ↔ s = "") ∧
      (int64 number i = [] ↔ i = 0)) ∧
    (∀ (α : Type) [Message α] [Lawful α] (m : α), encode m = [] ↔ m = blank) ∧
    (∀ (number : Nat) (i : Int32), int32 number i = int64 number i.toInt64) ∧
    ∀ i : Int64, (i.toUInt64.toNat : Int) = i.toInt % 18446744073709551616 ∧
      (i.toInt < 0 → (Varint.encode i.toUInt64.toNat).length = 10) := by
  refine ⟨fun c => Contract.unpack_pack, fun c timestamp expiration h => ⟨decode?_encode h, ?_⟩,
    fun t bs rs h hread hknown => ?_, fun α _ _ _ depth bs m h hspelled => hspelled.mergeBytes?_blank h,
    fun a b h => ⟨encode_injective h, RawData.eq_or_collide h⟩,
    fun number bs s i => ⟨bytes_eq_nil_iff, text_eq_nil_iff, int64_eq_nil_iff⟩,
    fun α _ _ m => encode_eq_nil_iff, int32_eq_int64,
    fun i => ⟨toNat_toUInt64 i, length_encode_of_neg⟩⟩
  · exact ⟨_, _, rfl, rfl, rfl, rfl, Contract.unpack_pack (Contract.length_encodePayload_lt h)⟩
  · refine (spells_of_filter hread ?_).mergeBytes?_blank h
    rw [← hknown]
    exact List.filter_congr fun r _ => by simp [Fields.numbers]

/-- A vote of a negative number for a witness without an address, sent with an empty group under an
unknown number in front of it; and a vote with a number of an unknown field behind it, inside the
payload. -/
theorem carried_intact_small :
    let v : Vote := ⟨[], -5⟩
    let c : Contract := .voteWitness ⟨[0x41, 7], [v, ⟨[0x41], 3⟩, ⟨[], 0⟩]⟩
    let t := wrap c (-1) 0
    c.pack.unpack = .ok c ∧ decode? (encode t) = some t ∧
      decode? ([0x1b, 0x1c] ++ encode t) = some t ∧
      decode? ([0x0a, 2, 0x41, 7, 0x12, 13] ++ (encode v ++ [0x18, 1]))
        = some (⟨[0x41, 7], [v]⟩ : VoteWitness) ∧
      ∀ d e : RawData, t.rawData = some d → encode d = encode e → d = e := by
  intro v c t
  have hlength : (encode t).length < UInt64.size := by decide +kernel
  have hskip : decodeAll? maxDepth ([0x1b, 0x1c] ++ encode t)
      = some (⟨3, .skipped⟩ :: records t) := by
    decide +kernel
  have hread : decodeAll? (maxDepth - 1) (encode v ++ [0x18, 1])
      = some (records v ++ [⟨3, .varint 1⟩]) := by
    decide +kernel
  have hvote : Spells (maxDepth - 1) (encode v ++ [0x18, 1]) v :=
    spells_of_filter hread (by decide +kernel)
  have hpayload : Spells maxDepth ([0x0a, 2, 0x41, 7, 0x12, 13] ++ (encode v ++ [0x18, 1]))
      (⟨[0x41, 7], [v]⟩ : VoteWitness) :=
    ⟨[⟨1, .delimited [0x41, 7]⟩, ⟨2, .delimited (encode v ++ [0x18, 1])⟩], by decide +kernel,
      .cons (.same _) (.cons (.nested _ v hvote) .nil)⟩
  refine ⟨carried_intact.1 c (by decide +kernel), (carried_intact.2.1 c (-1) 0 hlength).1,
    carried_intact.2.2.1 t _ _ hlength hskip (by decide +kernel),
    carried_intact.2.2.2.1 VoteWitness maxDepth _ _ (by decide +kernel) hpayload, fun d e hd => ?_⟩
  cases hd
  exact (carried_intact.2.2.2.2.1 _ e (by decide +kernel)).1

end Transaction

end AccountLedger
