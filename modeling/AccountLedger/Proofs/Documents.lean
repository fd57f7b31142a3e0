/-
**Documents read back.**

What is written as a record is read with the value of each of its fields, so a type whose fields read
back reads back itself: from the integers, texts and addresses up to the whole ledger.

Main definitions:

* `Json.ReadsBack` — a reader gives the value that a writer wrote.

Main results:

* `Json.fields?_record` — the fields of a record are its values, in order;
* `SortedMap.readsBack` — maps read back, if keys and values do;
* `Account.readsBack`, `Asset.readsBack`, … — so do the records of a ledger;
* `Ledger.readsBack`, `Ledger.isPlain_toJson` — **a ledger reads back**, and its record is printed;
* `Genesis.document_faithful` — **genesis documents give back the ledger they were made of.**
-/

import AccountLedger.Genesis
import AccountLedger.Proofs.Consistency
import AccountLedger.Proofs.JsonText

set_option relaxedAutoImplicit false
set_option autoImplicit false

namespace AccountLedger

/-! ### Simple types -/

theorem Numeral.int?_ofInt (i : Int) : (Numeral.ofInt i).int? = some i := by
  have hmagnitude : Decimal.value (Decimal.digits i.natAbs) = i.natAbs := Decimal.value_digits _
  by_cases hi : i < 0
  · simp only [int?, ofInt, hmagnitude, hi, decide_true, ne_eq, not_true_eq_false, or_self,
      if_false, if_true]
    rw [if_neg (by omega), Option.some.injEq]
    omega
  · simp only [int?, ofInt, hmagnitude, hi, decide_false, ne_eq, not_true_eq_false, or_self,
      if_false, Bool.false_eq_true, Option.some.injEq]
    omega

namespace Json

/-- The reader gives every value that the writer wrote. -/
def ReadsBack {α β : Type} (read : β → Option α) (write : α → β) : Prop :=
  ∀ a, read (write a) = some a

theorem ReadsBack.injective {α β : Type} {read : β → Option α} {write : α → β}
    (h : ReadsBack read write) {a b : α} (heq : write a = write b) : a = b := by
  have ha := h a
  rw [heq, h b] at ha
  exact (Option.some.inj ha).symm

theorem readsBack_some : ReadsBack some (id : String → String) := fun _ => rfl

theorem readsBack_bool : ReadsBack asBool? bool := fun _ => rfl

theorem readsBack_text : ReadsBack asText? text := fun _ => rfl

theorem asIntWithin?_int {least greatest i : Int} (h : least ≤ i ∧ i ≤ greatest) :
    (int i).asIntWithin? least greatest = some i := by
  rw [int, asIntWithin?, Numeral.int?_ofInt, Option.filter_some_pos]
  simp [h.1, h.2]

theorem readsBack_int64 : ReadsBack asInt64? int64 := fun i => by
  have := i.le_toInt
  have := i.toInt_lt
  rw [int64, asInt64?, asIntWithin?_int (by omega), Option.map_some, Int64.ofInt_toInt]

theorem readsBack_int32 : ReadsBack asInt32? fun i => int i.toInt := fun i => by
  have := i.le_toInt
  have := i.toInt_lt
  rw [asInt32?, asIntWithin?_int (by omega), Option.map_some, Int32.ofInt_toInt]

theorem readsBack_uint64 : ReadsBack asUInt64? fun i => int i.toNat := fun i => by
  have := i.toNat_lt
  rw [asUInt64?, asIntWithin?_int (by omega), Option.map_some, Int.toNat_natCast,
    UInt64.ofNat_toNat]

theorem readsBack_bytes : ReadsBack asBytes? fun bs => text (Hex.encode bs) :=
  fun bs => Hex.decode?_encode bs

theorem mapM_map_of_readsBack {α β : Type} {read : β → Option α} {write : α → β}
    (h : ReadsBack read write) (as : List α) : (as.map write).mapM read = some as := by
  rw [List.mapM_map, show read ∘ write = pure from funext h]
  exact (List.mapM_pure (f := id)).trans (congrArg some (List.map_id as))

theorem readsBack_list {α : Type} {read : Json → Option α} {write : α → Json}
    (h : ReadsBack read write) : ReadsBack (asList? read) fun as => array (as.map write) :=
  mapM_map_of_readsBack h

theorem isPlain_list {α : Type} {write : α → Json} (h : ∀ a, (write a).IsPlain) (as : List α) :
    (array (as.map write)).IsPlain := by
  refine .array fun j hj => ?_
  obtain ⟨a, -, rfl⟩ := List.mem_map.1 hj
  exact h a

/-! ### Records -/

theorem knownMembers?_record {names : List String} (unknown : Unknown)
    {members : List (String × Json)} (h : ∀ m ∈ members, m.1 ∈ names) :
    knownMembers? names unknown (members.map fun m => (some m.1, m.2)) = some members := by
  induction members with
  | nil => rfl
  | cons m members ih =>
      rw [List.map_cons, knownMembers?, if_pos (h m List.mem_cons_self),
        ih fun n hn => h n (List.mem_cons_of_mem _ hn)]
      rfl

theorem map_lookup_of_nodup {members : List (String × Json)} (h : (members.map (·.1)).Nodup) :
    (members.map (·.1)).map (fun n => members.lookup n) = members.map fun m => some m.2 := by
  induction members with
  | nil => rfl
  | cons m members ih =>
      obtain ⟨hm, hmembers⟩ := List.nodup_cons.1 h
      rw [List.map_cons, List.map_cons, List.map_cons, ← ih hmembers, List.lookup_cons_self]
      refine congrArg _ (List.map_congr_left fun n hn => ?_)
      have hne : n ≠ m.1 := by
        rintro rfl
        exact hm hn
      rw [List.lookup_cons, beq_eq_false_iff_ne.2 hne]

/-- **The fields of a record are its values, in order.** -/
theorem fields?_record {names : List String} {members : List (String × Json)} (unknown : Unknown)
    (hnames : members.map (·.1) = names) (h : names.Nodup) :
    (record members).fields? names unknown = some (members.map fun m => some m.2) := by
  subst hnames
  rw [record, fields?, knownMembers?_record unknown fun m => List.mem_map_of_mem]
  change (if (members.map (·.1)).Nodup then _ else _) = _
  rw [if_pos h, ← map_lookup_of_nodup h]
  rfl

end Json

open Json

@[simp] theorem Field.required_some {δ α : Type} (read : δ → Option α) (d : δ) :
    Field.required read (some d) = read d := rfl

@[simp] theorem Field.orElse_some {δ α : Type} (read : δ → Option α) (usual : α) (d : δ) :
    Field.orElse read usual (some d) = read d := rfl

/-! ### Maps -/

namespace SortedMap

variable {κ υ : Type} [Ord κ] {writeKey : κ → String} {writeValue : υ → Json}

/-- **Maps read back**, if keys and values do. -/
theorem readsBack [Std.TransOrd κ] [Std.LawfulEqOrd κ] {readKey : String → Option κ}
    {readValue : Json → Option υ} (hkey : ReadsBack readKey writeKey)
    (hvalue : ReadsBack readValue writeValue) :
    ReadsBack (asMap? readKey readValue) (SortedMap.toJson writeKey writeValue) := fun m => by
  have hentry : ReadsBack
      (fun e : Option String × Json => do
        let key ← e.1.bind readKey
        let value ← readValue e.2
        return (key, value))
      (fun e : κ × υ => (some (writeKey e.1), writeValue e.2)) := fun e => by
    simp [hkey e.1, hvalue e.2]
  rw [SortedMap.toJson, record, asMap?, List.map_map]
  change Option.bind (List.mapM _ (m.entries.map fun e => (some (writeKey e.1), writeValue e.2))) _
    = _
  rw [mapM_map_of_readsBack hentry]
  exact congrArg some (ofList_entries m)

theorem isPlain_toJson (h : ∀ v, (writeValue v).IsPlain) (m : SortedMap κ υ) :
    (m.toJson writeKey writeValue).IsPlain := by
  refine .record fun e he => ?_
  obtain ⟨e, -, rfl⟩ := List.mem_map.1 he
  exact h e.2

end SortedMap

/-! ### Addresses and locks -/

theorem Address.readsBack_hex : ReadsBack Address.ofText? Address.hex := fun a => by
  rw [ofText?, parse_hex]
  rfl

theorem Address.readsBack : ReadsBack Address.ofJson? Address.toJson := readsBack_hex

theorem Lock.readsBack : ReadsBack Lock.ofJson? Lock.toJson := fun k => by
  rw [ofJson?, toJson, fields?_record .refused ?names ?nodup]
  case names => rfl
  case nodup => decide
  simp [readsBack_int64 _]

theorem Lock.isPlain_toJson (k : Lock) : k.toJson.IsPlain := by
  refine .record ?_
  simp only [List.forall_mem_cons]
  exact ⟨.int _, .int _, nofun⟩

/-! ### Accounts -/

theorem AccountType.readsBack :
    ReadsBack (asVariant? AccountType.variants) fun t => text t.name := by
  intro t
  cases t <;> rfl

/-- **Accounts read back.** -/
theorem Account.readsBack : ReadsBack Account.ofJson? Account.toJson := fun a => by
  rw [ofJson?, toJson, fields?_record .refused ?names ?nodup]
  case names => rfl
  case nodup => decide
  simp [Address.readsBack _, readsBack_bytes _, AccountType.readsBack _, readsBack_int64 _,
    readsBack_list Lock.readsBack _, readsBack_bool _,
    SortedMap.readsBack readsBack_some readsBack_int64 a.holdings,
    SortedMap.readsBack Address.readsBack_hex readsBack_int64 a.votes]

theorem Account.isPlain_toJson (a : Account) : a.toJson.IsPlain := by
  refine .record ?_
  simp only [List.forall_mem_cons]
  exact ⟨.text _, .text _, .text _, .int _, isPlain_list Lock.isPlain_toJson _, .int _, .int _,
    .int _, SortedMap.isPlain_toJson (fun _ => .int _) _, SortedMap.isPlain_toJson (fun _ => .int _) _,
    .bool _, .int _, nofun⟩

/-! ### Assets, witnesses and parameters -/

/-- **Assets read back.** -/
theorem Asset.readsBack : ReadsBack Asset.ofJson? Asset.toJson := fun a => by
  rw [ofJson?, toJson, fields?_record .refused ?names ?nodup]
  case names => rfl
  case nodup => decide
  simp [Address.readsBack _, readsBack_text _, readsBack_int64 _, readsBack_int32 _]

theorem Asset.isPlain_toJson (a : Asset) : a.toJson.IsPlain := by
  refine .record ?_
  simp only [List.forall_mem_cons]
  exact ⟨.text _, .text _, .int _, .int _, .int _, .int _, .int _, .text _, .text _, nofun⟩

/-- **Witnesses read back.** -/
theorem Witness.readsBack : ReadsBack Witness.ofJson? Witness.toJson := fun w => by
  rw [ofJson?, toJson, fields?_record .refused ?names ?nodup]
  case names => rfl
  case nodup => decide
  simp [Address.readsBack _, readsBack_text _, readsBack_int64 _]

theorem Witness.isPlain_toJson (w : Witness) : w.toJson.IsPlain := by
  refine .record ?_
  simp only [List.forall_mem_cons]
  exact ⟨.text _, .text _, .int _, nofun⟩

/-- **Parameters read back.** -/
theorem Parameters.readsBack : ReadsBack Parameters.ofJson? Parameters.toJson := fun p => by
  rw [ofJson?, toJson, fields?_record .refused ?names ?nodup]
  case names => rfl
  case nodup => decide
  simp [readsBack_int64 _, readsBack_uint64 _]

theorem Parameters.isPlain_toJson (p : Parameters) : p.toJson.IsPlain := by
  refine .record ?_
  simp only [List.forall_mem_cons]
  exact ⟨.int _, .int _, .int _, .int _, .int _, .int _, .int _, .int _, .int _, nofun⟩

/-! ### Ledgers -/

namespace Ledger

/-- **A ledger reads back**, with records under matching keys or not. -/
theorem readsBack : ReadsBack Ledger.ofJson? Ledger.toJson := fun l => by
  rw [ofJson?, toJson, fields?_record .refused ?names ?nodup]
  case names => rfl
  case nodup => decide
  simp [Address.readsBack _, Parameters.readsBack _,
    SortedMap.readsBack Address.readsBack_hex Account.readsBack l.accounts,
    SortedMap.readsBack readsBack_some Asset.readsBack l.assets,
    SortedMap.readsBack Address.readsBack_hex Witness.readsBack l.witnesses]

theorem isPlain_toJson (l : Ledger) : l.toJson.IsPlain := by
  refine .record ?_
  simp only [List.forall_mem_cons]
  exact ⟨.text _, l.parameters.isPlain_toJson,
    SortedMap.isPlain_toJson Account.isPlain_toJson _,
    SortedMap.isPlain_toJson Asset.isPlain_toJson _,
    SortedMap.isPlain_toJson Witness.isPlain_toJson _, nofun⟩

end Ledger

/-! ### Genesis documents -/

namespace Genesis

/-- The document of a ledger denotes it. -/
theorem decode_encode (l : Ledger) : decode (encode l) = .ok l := by
  have hread : (Json.parse (encode l)).bind Ledger.ofJson? = some l := by
    rw [encode, parse_pretty l.isPlain_toJson, Option.bind_some, Ledger.readsBack l]
  rw [decode, hread]

theorem restore_encode (l : Ledger) :
    restore (encode l) = (l.check.mapError .violation).map fun _ => l := by
  rw [restore, decode_encode]
  change (l.check.mapError GenesisError.violation).bind (fun _ => .ok l) = _
  cases l.check <;> rfl

/-- **Genesis documents give back the ledger they were made of**, whatever texts and integers are in
it and under whatever keys its records are stored.  A ledger that passes its check is restored, and
the document has its state hash; any other is refused with the violation that the check found, in the
check's own words. -/
theorem document_faithful (l : Ledger) :
    decode (encode l) = .ok l ∧
    (l.check = .ok () → restore (encode l) = .ok l ∧ hash (encode l) = .ok l.stateHash) ∧
    ∀ v, l.check = .error v → restore (encode l) = .error (.violation v) ∧
      hash (encode l) = .error (.violation v) ∧
      (GenesisError.violation v).message
        = "genesis violates ledger invariants: " ++ v.message := by
  refine ⟨decode_encode l, fun hcheck => ?_, fun v hcheck => ?_⟩
  · have hrestore : restore (encode l) = .ok l := by
      rw [restore_encode, hcheck]
      rfl
    exact ⟨hrestore, by rw [hash, hrestore]; rfl⟩
  · have hrestore : restore (encode l) = .error (.violation v) := by
      rw [restore_encode, hcheck]
      rfl
    exact ⟨hrestore, by rw [hash, hrestore]; rfl, rfl⟩

/-- A consistent ledger, and one with an asset under a name that is not its own and needs escapes. -/
theorem document_faithful_small :
    let issued : Asset := ⟨"\x01\"", .repeating 1, 5, 1, 1, -1, 9, "", "\\ \n é"⟩
    let misplaced : Ledger :=
      { Ledger.small with assets := SortedMap.empty.insert "\x7b\"" issued }
    restore (encode Ledger.small) = .ok Ledger.small ∧
      hash (encode Ledger.small) = .ok Ledger.small.stateHash ∧
      decode (encode misplaced) = .ok misplaced ∧
      restore (encode misplaced) = .error (.violation (.assetKey "\x7b\"" "\x01\"")) := by
  intro issued misplaced
  have hsmall := (document_faithful Ledger.small).2.1 Ledger.check_small
  have hmisplaced : misplaced.check = .error (.assetKey "\x7b\"" "\x01\"") := by rfl
  exact ⟨hsmall.1, hsmall.2, (document_faithful misplaced).1,
    ((document_faithful misplaced).2.2 _ hmisplaced).1⟩

end Genesis

end AccountLedger
