/-
**Unknown fields are passed over.**

Other writers may put records of other numbers between those of a message, and into the messages that
are nested in it.  Such bytes do not read back as they are, but they denote the message all the same.

Main definitions:

* `Message.Fields` — the numbers of the fields of a message, and which records may stand for others;
* `Message.Spells` — bytes that spell a message, up to records of unknown fields at every level.

Main results:

* `Message.Spells.mergeBytes?` — **bytes that spell a message do what its written form does**;
* the `Message.Fields` instances of payloads, envelopes and transactions.
-/

import AccountLedger.Proofs.Messages
import Mathlib.Data.List.Forall2

set_option relaxedAutoImplicit false
set_option autoImplicit false

namespace AccountLedger

namespace Message

/-! ### Known and unknown fields -/

/-- The fields of a message.  A record of another number changes no value, and a record that may stand
for another does what that one does. -/
class Fields (α : Type) [Message α] where
  /-- The numbers of the fields. -/
  numbers : List Nat
  /-- May the first record stand where the second is written, this deep? -/
  Stands : Nat → Record → Record → Prop
  refl : ∀ depth r, Stands depth r r
  merge?_of_not_mem : ∀ (depth : Nat) (m : α) (r : Record), r.number ∉ numbers →
    merge? depth m r = some m
  merge?_of_stands : ∀ (depth : Nat) (m : α) (r s : Record), Stands depth r s → s.IsWritable →
    merge? depth m r = merge? depth m s

section

variable {α : Type} [Message α] [Fields α] {m : α} {bs : Bytes} {depth : Nat}

/-- The bytes spell the message: of their records, those of its fields stand for the records of the
message, one by one. -/
def Spells (depth : Nat) (bs : Bytes) (m : α) : Prop :=
  ∃ rs, Record.decodeAll? depth bs = some rs ∧
    List.Forall₂ (Fields.Stands α depth) (rs.filter fun r => r.number ∈ Fields.numbers α) (records m)

/-- Records of other numbers change nothing. -/
theorem foldlM_filter_numbers (rs : List Record) (n : α) :
    (rs.filter fun r => r.number ∈ Fields.numbers α).foldlM (merge? depth) n
      = rs.foldlM (merge? depth) n := by
  induction rs generalizing n with
  | nil => rfl
  | cons r rs ih =>
      by_cases hr : r.number ∈ Fields.numbers α
      · rw [List.filter_cons_of_pos (by simpa using hr), List.foldlM_cons, List.foldlM_cons]
        exact bind_congr ih
      · rw [List.filter_cons_of_neg (by simpa using hr), List.foldlM_cons,
          Fields.merge?_of_not_mem depth n r hr]
        exact ih n

/-- Records that stand for others do what those do. -/
theorem foldlM_of_stands {rs ss : List Record} (h : List.Forall₂ (Fields.Stands α depth) rs ss)
    (hss : ∀ s ∈ ss, s.IsWritable) (n : α) :
    rs.foldlM (merge? depth) n = ss.foldlM (merge? depth) n := by
  induction h generalizing n with
  | nil => rfl
  | cons hstands _ ih =>
      obtain ⟨hs, hss⟩ := List.forall_mem_cons.1 hss
      rw [List.foldlM_cons, List.foldlM_cons, Fields.merge?_of_stands depth n _ _ hstands hs]
      exact bind_congr (ih hss)

/-- **Bytes that spell a message do what its written form does**, whatever they are merged into. -/
theorem Spells.mergeBytes? [Lawful α] (h : Spells depth bs m) (hm : (encode m).length < UInt64.size)
    (n : α) : mergeBytes? depth n bs = mergeBytes? depth n (encode m) := by
  obtain ⟨rs, hread, hstands⟩ := h
  have hwritable := isWritable_of_mem_records hm
  rw [Message.mergeBytes?, hread, Message.mergeBytes?, encode, Record.decodeAll?_encodeAll hwritable]
  exact (foldlM_filter_numbers rs n).symm.trans (foldlM_of_stands hstands hwritable n)

/-- So they denote it. -/
theorem Spells.mergeBytes?_blank [Lawful α] (h : Spells depth bs m)
    (hm : (encode m).length < UInt64.size) : Message.mergeBytes? depth blank bs = some m :=
  (h.mergeBytes? hm blank).trans (mergeBytes?_encode hm depth)

/-- Bytes with records of unknown fields at the outermost level only. -/
theorem spells_of_filter {rs : List Record} (hread : Record.decodeAll? depth bs = some rs)
    (hknown : rs.filter (fun r => r.number ∈ Fields.numbers α) = records m) : Spells depth bs m := by
  refine ⟨rs, hread, ?_⟩
  rw [hknown]
  exact List.forall₂_same.2 fun r _ => Fields.refl depth r

end

/-- A message of single fields: no record stands but for itself. -/
abbrev Fields.plain {α : Type} [Message α] (numbers : List Nat)
    (h : ∀ (depth : Nat) (m : α) (r : Record), r.number ∉ numbers → merge? depth m r = some m) :
    Fields α where
  numbers := numbers
  Stands _ := Eq
  refl _ _ := rfl
  merge?_of_not_mem := h
  merge?_of_stands depth m _ _ hrs _ := congrArg (merge? depth m) hrs

/-- A record stands for itself, and one whose bytes spell a nested message, a level deeper, for the record
of that message. -/
inductive StandsNested (β : Type) [Message β] [Fields β] (number depth : Nat) :
    Record → Record → Prop
  | same (r : Record) : StandsNested β number depth r r
  | nested (bs : Bytes) (m : β) (spelled : Spells (depth - 1) bs m) :
      StandsNested β number depth ⟨number, .delimited bs⟩ (nested number m)

/-- A message with a field of nested ones: its records are merged into some value of theirs, and the value
that this makes is set. -/
abbrev Fields.nesting {α : Type} (β : Type) [Message α] [Message β] [Fields β] [Lawful β]
    (numbers : List Nat) (number : Nat)
    (h : ∀ (depth : Nat) (m : α) (r : Record), r.number ∉ numbers → merge? depth m r = some m)
    (start : α → β) (set : α → β → α)
    (hset : ∀ (depth : Nat) (m : α) (bs : Bytes), merge? depth m ⟨number, .delimited bs⟩
      = (mergeBytes? (depth - 1) (start m) bs).map (set m)) : Fields α where
  numbers := numbers
  Stands depth := StandsNested β number depth
  refl _ := .same
  merge?_of_not_mem := h
  merge?_of_stands depth m r s hrs hs := by
    cases hrs with
    | same => rfl
    | nested bs n spelled =>
        obtain ⟨-, -, hlength⟩ := hs
        rw [nested, hset, hset, spelled.mergeBytes? hlength]

end Message

open Message

/-! ### Payloads -/

instance : Fields Transfer := .plain [1, 2, 3] fun _ _ _ h => by
  simp only [merge?]
  split <;> simp_all

instance : Fields FreezeBalance := .plain [1, 2, 3] fun _ _ _ h => by
  simp only [merge?]
  split <;> simp_all

instance : Fields UnfreezeBalance := .plain [1] fun _ _ _ h => by
  simp only [merge?]
  split <;> simp_all

instance : Fields WithdrawBalance := .plain [1] fun _ _ _ h => by
  simp only [merge?]
  split <;> simp_all

instance : Fields AccountUpdate := .plain [1, 2] fun _ _ _ h => by
  simp only [merge?]
  split <;> simp_all

instance : Fields TransferAsset := .plain [1, 2, 3, 4] fun _ _ _ h => by
  simp only [merge?]
  split <;> simp_all

instance : Fields AssetIssue := .plain [1, 2, 4, 6, 8, 9, 10, 20, 21] fun _ _ _ h => by
  simp only [merge?]
  split <;> simp_all

instance : Fields ParticipateAssetIssue := .plain [1, 2, 3, 4] fun _ _ _ h => by
  simp only [merge?]
  split <;> simp_all

instance : Fields WitnessCreate := .plain [1, 2] fun _ _ _ h => by
  simp only [merge?]
  split <;> simp_all

instance : Fields WitnessUpdate := .plain [1, 12] fun _ _ _ h => by
  simp only [merge?]
  split <;> simp_all

instance : Fields Vote := .plain [1, 2] fun _ _ _ h => by
  simp only [merge?]
  split <;> simp_all

instance : Fields VoteWitness := .nesting Vote [1, 2] 2
  (fun _ _ _ h => by
    simp only [merge?]
    split <;> simp_all)
  (fun _ => blank) (fun c v => { c with votes := c.votes ++ [v] }) fun _ _ _ => rfl

/-! ### Packed contracts and transactions -/

instance : Fields Packed := .plain [1, 2] fun _ _ _ h => by
  simp only [merge?]
  split <;> simp_all

instance : Fields Envelope := .nesting Packed [1, 2] 2
  (fun _ _ _ h => by
    simp only [merge?]
    split <;> simp_all)
  (fun e => e.parameter.getD blank) (fun e v => { e with parameter := some v }) fun _ _ _ => rfl

instance : Fields RawData := .nesting Envelope [8, 11, 14] 11
  (fun _ _ _ h => by
    simp only [merge?]
    split <;> simp_all)
  (fun _ => blank) (fun d v => { d with contracts := d.contracts ++ [v] }) fun _ _ _ => rfl

instance : Fields Transaction := .nesting RawData [1, 2] 1
  (fun _ _ _ h => by
    simp only [merge?]
    split <;> simp_all)
  (fun t => t.rawData.getD blank) (fun t v => { t with rawData := some v }) fun _ _ _ => rfl

end AccountLedger
