/-
**Messages read back.**

A message whose bytes can be counted in 64 bits is denoted by them: its records read back, and merged
one after another into a blank message they make the message again.  Fields that are left out have
their usual value in the blank message already.

Main definitions:

* `Record.HasForm` — a record of a form and a number that can be written;
* `Message.Lawful` — merging the records of a message into a blank one makes the message.

Main results:

* `Message.decode?_encode` — **a lawful message reads back**;
* `Message.encode_eq_nil_iff` — and only the blank one has no bytes;
* the `Message.Lawful` instances of payloads, envelopes and transactions.
-/

import AccountLedger.Wire.Transaction

set_option relaxedAutoImplicit false
set_option autoImplicit false

namespace AccountLedger

/-! ### Records that can be written -/

namespace Record

/-- The record is of a form that is written, and its number fits into a key. -/
structure HasForm (r : Record) : Prop where
  pos : 0 < r.number
  lt : 8 * r.number + 7 < UInt32.size
  form : r.payload ≠ .skipped

/-- All of a row of records are of a form that is written. -/
def HaveForm (rs : List Record) : Prop := ∀ r ∈ rs, r.HasForm

theorem HaveForm.append {rs ss : List Record} (hr : HaveForm rs) (hs : HaveForm ss) :
    HaveForm (rs ++ ss) := List.forall_mem_append.2 ⟨hr, hs⟩

theorem length_encode_le_of_mem {r : Record} {rs : List Record} (h : r ∈ rs) :
    r.encode.length ≤ (encodeAll rs).length := by
  induction rs with
  | nil => cases h
  | cons s rs ih =>
      rw [encodeAll, List.flatMap_cons, ← encodeAll, List.length_append]
      rcases List.mem_cons.1 h with rfl | h
      · exact Nat.le_add_right _ _
      · exact Nat.le_trans (ih h) (Nat.le_add_left _ _)

theorem length_le_of_delimited_mem {number : Nat} {bs : Bytes} {rs : List Record}
    (h : ⟨number, .delimited bs⟩ ∈ rs) : bs.length ≤ (encodeAll rs).length := by
  refine Nat.le_trans ?_ (length_encode_le_of_mem h)
  rw [encode, List.length_append, List.length_append]
  omega

/-- What is carried by a record is shorter than all records together. -/
theorem isWritable_of_mem {r : Record} {rs : List Record} (hr : r ∈ rs) (h : r.HasForm)
    (hlength : (encodeAll rs).length < UInt64.size) : r.IsWritable := by
  obtain ⟨number, payload⟩ := r
  refine ⟨h.pos, h.lt, ?_⟩
  cases payload with
  | varint n => exact trivial
  | delimited bs => exact Nat.lt_of_le_of_lt (length_le_of_delimited_mem hr) hlength
  | skipped => exact h.form rfl

section

variable {number : Nat} (hnumber : 0 < number ∧ 8 * number + 7 < UInt32.size)

include hnumber

/-- The record of a field that is left out under a condition; every single field is one. -/
theorem haveForm_optional {c : Prop} [Decidable c] {p : Payload} (hp : p ≠ .skipped) :
    HaveForm (if c then [] else [⟨number, p⟩]) := by
  intro r hr
  split at hr
  · cases hr
  · cases List.mem_singleton.1 hr
    exact ⟨hnumber.1, hnumber.2, hp⟩

theorem haveForm_bytes (bs : Bytes) : HaveForm (bytes number bs) :=
  haveForm_optional hnumber nofun

theorem haveForm_int64 (i : Int64) : HaveForm (int64 number i) :=
  haveForm_optional hnumber nofun

theorem haveForm_int32 (i : Int32) : HaveForm (int32 number i) :=
  haveForm_optional hnumber nofun

theorem haveForm_delimited {γ : Type} (write : γ → Bytes) (xs : List γ) :
    HaveForm (xs.map fun x => ⟨number, .delimited (write x)⟩) := by
  intro r hr
  obtain ⟨x, -, rfl⟩ := List.mem_map.1 hr
  exact ⟨hnumber.1, hnumber.2, nofun⟩

end

end Record

/-! ### Merging the records of fields -/

namespace Message

open Record (bytes int64 int32 text)

section

variable {α : Type} {f : α → Record → Option α} {m m' m'' : α} {number : Nat}

theorem foldlM_append {rs ss : List Record} (hr : rs.foldlM f m = some m')
    (hs : ss.foldlM f m' = some m'') : (rs ++ ss).foldlM f m = some m'' := by
  rw [List.foldlM_append, hr]
  exact hs

/-- A field is set by its record, and has its usual value where that is left out. -/
theorem foldlM_field {γ : Type} [DecidableEq γ] {usual : γ} {payload : γ → Payload} {set : γ → α}
    (hset : ∀ v, f (set usual) ⟨number, payload v⟩ = some (set v)) (v : γ) :
    (if v = usual then [] else [(⟨number, payload v⟩ : Record)]).foldlM f (set usual)
      = some (set v) := by
  split
  · next h =>
      rw [h]
      rfl
  · rw [List.foldlM_cons, hset]
    rfl

theorem foldlM_bytes {bs : Bytes} (set : Bytes → α)
    (hset : ∀ v, f (set []) ⟨number, .delimited v⟩ = some (set v)) :
    (bytes number bs).foldlM f (set []) = some (set bs) :=
  foldlM_field hset bs

theorem foldlM_int64 {i : Int64} (set : Int64 → α)
    (hset : ∀ v, f (set 0) ⟨number, .varint v.toUInt64⟩ = some (set v)) :
    (int64 number i).foldlM f (set 0) = some (set i) :=
  foldlM_field hset i

theorem foldlM_int32 {i : Int32} (set : Int32 → α)
    (hset : ∀ v, f (set 0) ⟨number, .varint v.toInt64.toUInt64⟩ = some (set v)) :
    (int32 number i).foldlM f (set 0) = some (set i) :=
  foldlM_field hset i

theorem foldlM_text {t : String} (set : String → α)
    (hset : ∀ v, f (set "") ⟨number, .delimited (Utf8.encode v)⟩ = some (set v)) :
    (text number t).foldlM f (set "") = some (set t) := by
  unfold text
  by_cases h : t = ""
  · subst h
    rfl
  · have hbytes : Utf8.encode t ≠ [] := fun he => h (Utf8.encode_injective he)
    rw [bytes, if_neg hbytes, List.foldlM_cons, hset]
    rfl

/-- The record of an optional field is there if the field is. -/
theorem foldlM_optional {γ : Type} {write : γ → Record} {o : Option γ} (place : Option γ → α)
    (h : ∀ x ∈ o, f (place none) (write x) = some (place (some x))) :
    (o.toList.map write).foldlM f (place none) = some (place o) := by
  cases o with
  | none => rfl
  | some x =>
      rw [Option.toList_some, List.map_singleton, List.foldlM_cons, h x rfl]
      rfl

/-- The records of a repeated field are placed one behind another. -/
theorem foldlM_repeated {γ : Type} {write : γ → Record} {xs : List γ} (place : List γ → α)
    (h : ∀ done, ∀ x ∈ xs, f (place done) (write x) = some (place (done ++ [x])))
    (done : List γ) : (xs.map write).foldlM f (place done) = some (place (done ++ xs)) := by
  induction xs generalizing done with
  | nil => rw [List.append_nil]; rfl
  | cons x xs ih =>
      rw [List.map_cons, List.foldlM_cons, h done x List.mem_cons_self]
      have hrest := ih (fun done y hy => h done y (List.mem_cons_of_mem _ hy)) (done ++ [x])
      rw [List.append_assoc, List.singleton_append] at hrest
      exact hrest

end

/-- Widened to 64 bits and cut off again, a 32-bit integer is what it was. -/
theorem asInt32?_varint (i : Int32) : (Payload.varint i.toInt64.toUInt64).asInt32? = some i := by
  rw [Payload.asInt32?, Option.some.injEq]
  apply Int32.toBitVec_inj.1
  rw [UInt32.toBitVec_toInt32, UInt64.toBitVec_toUInt32, Int64.toBitVec_toUInt64,
    Int32.toBitVec_toInt64]
  ext j hj
  rw [BitVec.getElem_setWidth, BitVec.getLsbD_signExtend]
  simp [hj]
  omega

theorem map_asInt32?_varint {β : Type} (g : Int32 → β) (i : Int32) :
    (Payload.varint i.toInt64.toUInt64).asInt32?.map g = some (g i) :=
  congrArg (Option.map g) (asInt32?_varint i)

/-! ### Lawful messages -/

/-- A blank message has no records.  Those of a message can be written, and merged into a blank one they
make it again, if what they carry can be counted. -/
class Lawful (α : Type) [Message α] : Prop where
  records_blank : records (blank : α) = [] := by rfl
  haveForm : ∀ m : α, Record.HaveForm (records m)
  foldlM_records : ∀ (m : α) (depth : Nat), (encode m).length < UInt64.size →
    (records m).foldlM (merge? depth) blank = some m

section

variable {α : Type} [Message α] [Lawful α] {m : α}

theorem isWritable_of_mem_records (h : (encode m).length < UInt64.size) :
    ∀ r ∈ records m, r.IsWritable := fun r hr =>
  Record.isWritable_of_mem hr (Lawful.haveForm m r hr) h

theorem mergeBytes?_encode (h : (encode m).length < UInt64.size) (depth : Nat) :
    mergeBytes? depth blank (encode m) = some m := by
  rw [mergeBytes?, encode, Record.decodeAll?_encodeAll (isWritable_of_mem_records h)]
  exact Lawful.foldlM_records m depth h

/-- **A lawful message reads back**, if its bytes can be counted in 64 bits. -/
theorem decode?_encode (h : (encode m).length < UInt64.size) : decode? (encode m) = some m :=
  mergeBytes?_encode h maxDepth

/-- A nested message reads back too. -/
theorem mergeNested?_encode (h : (encode m).length < UInt64.size) (depth : Nat) :
    mergeNested? depth blank (.delimited (encode m)) = some m := by
  rw [mergeNested?, Payload.asBytes?, Option.bind_some]
  exact mergeBytes?_encode h (depth - 1)

/-- **Different messages have different bytes.** -/
theorem encode_injective {n : α} (h : (encode m).length < UInt64.size) (heq : encode m = encode n) :
    m = n := by
  have hm := decode?_encode h
  have hn := decode?_encode (heq ▸ h)
  rw [heq, hn] at hm
  exact (Option.some.inj hm).symm

/-- **Only a blank message has no bytes.** -/
theorem encode_eq_nil_iff : encode m = [] ↔ m = blank := by
  have hblank : encode (blank : α) = [] := by
    rw [encode, Lawful.records_blank]
    rfl
  constructor
  · intro h
    exact encode_injective (h ▸ by decide) (h.trans hblank.symm)
  · rintro rfl
    exact hblank

end

/-- A nested message is shorter than the one that it is part of. -/
theorem length_encode_lt_of_nested {α β : Type} [Message α] [Message β] {m : α} {outer : β}
    {number : Nat} (hmem : nested number m ∈ records outer)
    (h : (encode outer).length < UInt64.size) : (encode m).length < UInt64.size :=
  Nat.lt_of_le_of_lt (Record.length_le_of_delimited_mem hmem) h

/-- What becomes of a field when its nested message reads back. -/
theorem map_mergeNested?_nested {α β γ : Type} [Message α] [Lawful α] [Message β] {m : α}
    {outer : β} {number : Nat} (hmem : nested number m ∈ records outer)
    (h : (encode outer).length < UInt64.size) (depth : Nat) (set : α → γ) :
    (mergeNested? depth blank (nested number m).payload).map set = some (set m) :=
  congrArg (Option.map set) (mergeNested?_encode (length_encode_lt_of_nested hmem h) depth)

end Message

open Message Record

/-! ### Balances and accounts -/

instance : Lawful Transfer where
  haveForm _ :=
    (haveForm_bytes (by decide) _)
      |>.append (haveForm_bytes (by decide) _)
      |>.append (haveForm_int64 (by decide) _)
  foldlM_records m _ _ := by
    refine foldlM_append ?_ (foldlM_int64 (Transfer.mk m.owner m.recipient) fun _ => rfl)
    refine foldlM_append ?_ (foldlM_bytes (Transfer.mk m.owner · 0) fun _ => rfl)
    exact foldlM_bytes (Transfer.mk · [] 0) fun _ => rfl

instance : Lawful FreezeBalance where
  haveForm _ :=
    (haveForm_bytes (by decide) _)
      |>.append (haveForm_int64 (by decide) _)
      |>.append (haveForm_int64 (by decide) _)
  foldlM_records m _ _ := by
    refine foldlM_append ?_ (foldlM_int64 (FreezeBalance.mk m.owner m.amount) fun _ => rfl)
    refine foldlM_append ?_ (foldlM_int64 (FreezeBalance.mk m.owner · 0) fun _ => rfl)
    exact foldlM_bytes (FreezeBalance.mk · 0 0) fun _ => rfl

instance : Lawful UnfreezeBalance where
  haveForm _ := haveForm_bytes (by decide) _
  foldlM_records _ _ _ := foldlM_bytes UnfreezeBalance.mk fun _ => rfl

instance : Lawful WithdrawBalance where
  haveForm _ := haveForm_bytes (by decide) _
  foldlM_records _ _ _ := foldlM_bytes WithdrawBalance.mk fun _ => rfl

instance : Lawful AccountUpdate where
  haveForm _ :=
    (haveForm_bytes (by decide) _)
      |>.append (haveForm_bytes (by decide) _)
  foldlM_records m _ _ := by
    refine foldlM_append ?_ (foldlM_bytes (AccountUpdate.mk m.name) fun _ => rfl)
    exact foldlM_bytes (AccountUpdate.mk · []) fun _ => rfl

/-! ### Assets -/

instance : Lawful TransferAsset where
  haveForm _ :=
    (haveForm_bytes (by decide) _)
      |>.append (haveForm_bytes (by decide) _)
      |>.append (haveForm_bytes (by decide) _)
      |>.append (haveForm_int64 (by decide) _)
  foldlM_records m _ _ := by
    refine foldlM_append ?_ (foldlM_int64 (TransferAsset.mk m.asset m.owner m.recipient)
      fun _ => rfl)
    refine foldlM_append ?_ (foldlM_bytes (TransferAsset.mk m.asset m.owner · 0) fun _ => rfl)
    refine foldlM_append ?_ (foldlM_bytes (TransferAsset.mk m.asset · [] 0) fun _ => rfl)
    exact foldlM_bytes (TransferAsset.mk · [] [] 0) fun _ => rfl

instance : Lawful AssetIssue where
  haveForm _ :=
    (haveForm_bytes (by decide) _)
      |>.append (haveForm_bytes (by decide) _)
      |>.append (haveForm_int64 (by decide) _)
      |>.append (haveForm_int32 (by decide) _)
      |>.append (haveForm_int32 (by decide) _)
      |>.append (haveForm_int64 (by decide) _)
      |>.append (haveForm_int64 (by decide) _)
      |>.append (haveForm_bytes (by decide) _)
      |>.append (haveForm_bytes (by decide) _)
  foldlM_records m _ _ := by
    obtain ⟨owner, name, supply, units, tokens, start, finish, description, url⟩ := m
    -- From the last field to the first: the fields before it are set, those behind it are not.
    refine foldlM_append ?_ (foldlM_bytes
      (AssetIssue.mk owner name supply units tokens start finish description) fun _ => rfl)
    refine foldlM_append ?_ (foldlM_bytes
      (AssetIssue.mk owner name supply units tokens start finish · []) fun _ => rfl)
    refine foldlM_append ?_ (foldlM_int64
      (AssetIssue.mk owner name supply units tokens start · [] []) fun _ => rfl)
    refine foldlM_append ?_ (foldlM_int64
      (AssetIssue.mk owner name supply units tokens · 0 [] []) fun _ => rfl)
    refine foldlM_append ?_ (foldlM_int32
      (AssetIssue.mk owner name supply units · 0 0 [] []) (map_asInt32?_varint _))
    refine foldlM_append ?_ (foldlM_int32
      (AssetIssue.mk owner name supply · 0 0 0 [] []) (map_asInt32?_varint _))
    refine foldlM_append ?_ (foldlM_int64 (AssetIssue.mk owner name · 0 0 0 0 [] []) fun _ => rfl)
    refine foldlM_append ?_ (foldlM_bytes (AssetIssue.mk owner · 0 0 0 0 0 [] []) fun _ => rfl)
    exact foldlM_bytes (AssetIssue.mk · [] 0 0 0 0 0 [] []) fun _ => rfl

instance : Lawful ParticipateAssetIssue where
  haveForm _ :=
    (haveForm_bytes (by decide) _)
      |>.append (haveForm_bytes (by decide) _)
      |>.append (haveForm_bytes (by decide) _)
      |>.append (haveForm_int64 (by decide) _)
  foldlM_records m _ _ := by
    refine foldlM_append ?_ (foldlM_int64 (ParticipateAssetIssue.mk m.owner m.issuer m.asset)
      fun _ => rfl)
    refine foldlM_append ?_ (foldlM_bytes (ParticipateAssetIssue.mk m.owner m.issuer · 0)
      fun _ => rfl)
    refine foldlM_append ?_ (foldlM_bytes (ParticipateAssetIssue.mk m.owner · [] 0) fun _ => rfl)
    exact foldlM_bytes (ParticipateAssetIssue.mk · [] [] 0) fun _ => rfl

/-! ### Witnesses and votes -/

instance : Lawful WitnessCreate where
  haveForm _ :=
    (haveForm_bytes (by decide) _)
      |>.append (haveForm_bytes (by decide) _)
  foldlM_records m _ _ := by
    refine foldlM_append ?_ (foldlM_bytes (WitnessCreate.mk m.owner) fun _ => rfl)
    exact foldlM_bytes (WitnessCreate.mk · []) fun _ => rfl

instance : Lawful WitnessUpdate where
  haveForm _ :=
    (haveForm_bytes (by decide) _)
      |>.append (haveForm_bytes (by decide) _)
  foldlM_records m _ _ := by
    refine foldlM_append ?_ (foldlM_bytes (WitnessUpdate.mk m.owner) fun _ => rfl)
    exact foldlM_bytes (WitnessUpdate.mk · []) fun _ => rfl

instance : Lawful Vote where
  haveForm _ :=
    (haveForm_bytes (by decide) _)
      |>.append (haveForm_int64 (by decide) _)
  foldlM_records m _ _ := by
    refine foldlM_append ?_ (foldlM_int64 (Vote.mk m.target) fun _ => rfl)
    exact foldlM_bytes (Vote.mk · 0) fun _ => rfl

instance : Lawful VoteWitness where
  haveForm m :=
    (haveForm_bytes (by decide) _).append
      (haveForm_delimited (by decide) Message.encode m.votes)
  foldlM_records m depth h := by
    refine foldlM_append (foldlM_bytes (VoteWitness.mk · []) fun _ => rfl)
      (foldlM_repeated (VoteWitness.mk m.owner) (fun done v hv => ?_) [])
    have hmem : nested 2 v ∈ records m :=
      List.mem_append_right _ (List.mem_map_of_mem hv)
    exact map_mergeNested?_nested hmem h depth _

/-! ### Packed contracts and transactions -/

instance : Lawful Packed where
  haveForm p :=
    (haveForm_bytes (by decide) (Utf8.encode p.typeUrl)).append (haveForm_bytes (by decide) _)
  foldlM_records p _ _ := by
    refine foldlM_append ?_ (foldlM_bytes (Packed.mk p.typeUrl) fun _ => rfl)
    refine foldlM_text (Packed.mk · []) fun v => ?_
    exact congrArg (Option.map (Packed.mk · [])) (Utf8.decode?_encode v)

instance : Lawful Envelope where
  haveForm e :=
    (haveForm_int32 (by decide) _).append
      (haveForm_delimited (by decide) Message.encode e.parameter.toList)
  foldlM_records e depth h := by
    refine foldlM_append (foldlM_int32 (Envelope.mk · none) (map_asInt32?_varint _))
      (foldlM_optional (Envelope.mk e.tag) fun p hp => ?_)
    have hmem : nested 2 p ∈ records e :=
      List.mem_append_right _ (List.mem_map_of_mem (Option.mem_toList.2 hp))
    exact map_mergeNested?_nested hmem h depth _

instance : Lawful RawData where
  haveForm d :=
    (haveForm_int64 (by decide) _).append
      (haveForm_delimited (by decide) Message.encode d.contracts)
      |>.append (haveForm_int64 (by decide) _)
  foldlM_records d depth h := by
    refine foldlM_append ?_ (foldlM_int64 (RawData.mk d.expiration d.contracts) fun _ => rfl)
    refine foldlM_append (foldlM_int64 (RawData.mk · [] 0) fun _ => rfl)
      (foldlM_repeated (RawData.mk d.expiration · 0) (fun done e he => ?_) [])
    have hmem : nested 11 e ∈ records d :=
      List.mem_append_left _ (List.mem_append_right _ (List.mem_map_of_mem he))
    exact map_mergeNested?_nested hmem h depth _

instance : Lawful Transaction where
  haveForm t :=
    (haveForm_delimited (by decide) Message.encode t.rawData.toList).append
      (haveForm_delimited (by decide) id t.signatures)
  foldlM_records t depth h := by
    refine foldlM_append (foldlM_optional (Transaction.mk · []) fun d hd => ?_)
      (foldlM_repeated (Transaction.mk t.rawData) (fun _ _ _ => rfl) [])
    have hmem : nested 1 d ∈ records t :=
      List.mem_append_left _ (List.mem_map_of_mem (Option.mem_toList.2 hd))
    exact map_mergeNested?_nested hmem h depth _

end AccountLedger
