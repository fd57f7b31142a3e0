/-
**One canonical text for each ledger.**

The canonical text leaves out the keys that records are stored under, but where each record is stored
under its own address or name nothing is lost: the text determines the value that was printed, and
the value determines every field of every record.

Main results:

* `Account.canonicalJson_injective` — different accounts have different canonical values;
* `Ledger.canonicalJson_injective` — so have different ledgers with records under their own keys;
* `Ledger.canonical_determines` — **equal canonical bytes mean equal ledgers**, and equal state
  hashes do so up to collisions of the digest.
-/

import AccountLedger.Proofs.Documents

set_option relaxedAutoImplicit false
set_option autoImplicit false

namespace AccountLedger

open Json

/-! ### Values determine what was written -/

theorem Json.record_injective {ms ns : List (String × Json)} (h : record ms = record ns) :
    ms = ns := by
  refine (List.map_inj_right fun m n hmn => ?_).1 (object.inj h)
  obtain ⟨hkey, hvalue⟩ := Prod.mk.inj hmn
  exact Prod.ext (Option.some.inj hkey) hvalue

theorem Json.array_map_injective {α : Type} {write : α → Json} {as bs : List α}
    (hwrite : ∀ a b, write a = write b → a = b)
    (h : array (as.map write) = array (bs.map write)) : as = bs :=
  (List.map_inj_right hwrite).1 (array.inj h)

theorem AccountType.canonicalName_injective {s t : AccountType}
    (h : s.canonicalName = t.canonicalName) : s = t := by
  cases s <;> cases t <;> first | rfl | exact absurd h (by decide)

/-- **Different accounts have different canonical values.** -/
theorem Account.canonicalJson_injective (a b : Account)
    (h : a.canonicalJson = b.canonicalJson) : a = b := by
  have hfields := record_injective h
  simp only [List.cons.injEq, Prod.mk.injEq, true_and, and_true] at hfields
  obtain ⟨address, name, type, balance, locks, bandwidth, allowance, latestWithdrawal, holdings,
    votes, isWitness, createTime⟩ := hfields
  have haddress := Address.readsBack.injective address
  have hname := readsBack_bytes.injective name
  have htype := AccountType.canonicalName_injective (readsBack_text.injective type)
  have hbalance := readsBack_int64.injective balance
  have hlocks := (readsBack_list Lock.readsBack).injective locks
  have hbandwidth := readsBack_int64.injective bandwidth
  have hallowance := readsBack_int64.injective allowance
  have hwithdrawal := readsBack_int64.injective latestWithdrawal
  have hholdings := (SortedMap.readsBack readsBack_some readsBack_int64).injective holdings
  have hvotes := (SortedMap.readsBack Address.readsBack_hex readsBack_int64).injective votes
  have hwitness := readsBack_bool.injective isWitness
  have hcreated := readsBack_int64.injective createTime
  cases a
  cases b
  simp_all only

theorem Account.isPlain_canonicalJson (a : Account) : a.canonicalJson.IsPlain := by
  refine .record ?_
  simp only [List.forall_mem_cons]
  exact ⟨.text _, .text _, .text _, .int _, isPlain_list Lock.isPlain_toJson _, .int _, .int _,
    .int _, SortedMap.isPlain_toJson (fun _ => .int _) _, SortedMap.isPlain_toJson (fun _ => .int _) _,
    .bool _, .int _, nofun⟩

namespace Ledger

variable {l₁ l₂ : Ledger}

/-- **Different ledgers have different canonical values**, if their records are stored under their
own addresses and names. -/
theorem canonicalJson_injective (h₁ : l₁.KeyedByRecord) (h₂ : l₂.KeyedByRecord)
    (h : l₁.canonicalJson = l₂.canonicalJson) : l₁ = l₂ := by
  have hfields := record_injective h
  simp only [List.cons.injEq, Prod.mk.injEq, true_and, and_true] at hfields
  obtain ⟨sink, parameters, accounts, assets, witnesses⟩ := hfields
  have hsink := Address.readsBack.injective sink
  have hparameters := Parameters.readsBack.injective parameters
  have haccounts := SortedMap.eq_of_values_eq h₁.account h₂.account
    (array_map_injective Account.canonicalJson_injective accounts)
  have hassets := SortedMap.eq_of_values_eq h₁.asset h₂.asset
    (array_map_injective (fun _ _ => Asset.readsBack.injective) assets)
  have hwitnesses := SortedMap.eq_of_values_eq h₁.witness h₂.witness
    (array_map_injective (fun _ _ => Witness.readsBack.injective) witnesses)
  cases l₁
  cases l₂
  simp_all only

theorem isPlain_canonicalJson (l : Ledger) : l.canonicalJson.IsPlain := by
  refine .record ?_
  simp only [List.forall_mem_cons]
  exact ⟨.int _, .text _, l.parameters.isPlain_toJson,
    isPlain_list Account.isPlain_canonicalJson _, isPlain_list Asset.isPlain_toJson _,
    isPlain_list Witness.isPlain_toJson _, nofun⟩

/-- **Different ledgers have different canonical texts**, if their records are stored under their own
addresses and names. -/
theorem canonical_injective (h₁ : l₁.KeyedByRecord) (h₂ : l₂.KeyedByRecord)
    (h : l₁.canonical = l₂.canonical) : l₁ = l₂ :=
  canonicalJson_injective h₁ h₂
    (compact_injective l₁.isPlain_canonicalJson l₂.isPlain_canonicalJson h)

/-- **Equal canonical bytes mean equal ledgers**, if every record is stored under its own address or
name: the sink, the parameters and every field of every record are determined, whatever texts the
records hold.  So ledgers of one state hash are equal, or their canonical bytes collide under the
digest. -/
theorem canonical_determines (h₁ : l₁.KeyedByRecord) (h₂ : l₂.KeyedByRecord) :
    (Utf8.encode l₁.canonical = Utf8.encode l₂.canonical → l₁ = l₂) ∧
    (l₁.stateHash = l₂.stateHash →
      l₁ = l₂ ∨ Sha256.Collide (Utf8.encode l₁.canonical) (Utf8.encode l₂.canonical)) := by
  have hbytes : Utf8.encode l₁.canonical = Utf8.encode l₂.canonical → l₁ = l₂ := fun h =>
    canonical_injective h₁ h₂ (Utf8.encode_injective h)
  refine ⟨hbytes, fun h => ?_⟩
  have hdigest : Sha256.digest (Utf8.encode l₁.canonical)
      = Sha256.digest (Utf8.encode l₂.canonical) :=
    readsBack_bytes.injective (congrArg text h)
  exact (Sha256.eq_or_collide hdigest).imp_left hbytes

/-- Two ledgers that differ in one asset; the description of the one looks like the end of a text and
a page address behind it, which is what the other has. -/
theorem canonical_determines_small :
    let quoting := small.putAsset ⟨"a", .repeating 1, 5, 1, 1, 0, 9, "b\",\"url\":\"c", ""⟩
    let plain := small.putAsset ⟨"a", .repeating 1, 5, 1, 1, 0, 9, "b", "c"⟩
    quoting.KeyedByRecord ∧ plain.KeyedByRecord ∧
      Utf8.encode quoting.canonical ≠ Utf8.encode plain.canonical := by
  intro quoting plain
  have hquoting : quoting.KeyedByRecord :=
    checkKeys_eq_ok_iff.1 (show quoting.checkKeys = .ok () from rfl)
  have hplain : plain.KeyedByRecord :=
    checkKeys_eq_ok_iff.1 (show plain.checkKeys = .ok () from rfl)
  have hne : quoting ≠ plain := by decide +kernel
  exact ⟨hquoting, hplain, fun h => hne ((canonical_determines hquoting hplain).1 h)⟩

end Ledger

end AccountLedger
