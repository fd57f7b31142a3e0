/-
**JSON text reads back.**

The values that are printed are made of truth values, integers, texts, arrays and records.  Both
layouts write them by one grammar, which leaves open where blanks stand; and what the grammar allows
for a value is read as that value.

Main definitions:

* `Json.IsPlain` — the values that are printed;
* `Json.Written` — the texts of a value, with blanks between its tokens.

Main results:

* `Json.readString_quoted`, `Json.readNumeral_ofInt` — texts and integers read back;
* `Json.readValue_written` — **a text of a value is read as that value**;
* `Json.parse_compact`, `Json.parse_pretty` — both layouts read back;
* `Json.compact_injective` — different values have different texts without blanks.
-/

import AccountLedger.Json.Parser
import AccountLedger.Json.Printer

set_option relaxedAutoImplicit false
set_option autoImplicit false

namespace AccountLedger

namespace Json

/-! ### Blanks -/

/-- Are all characters blanks? -/
def Blank (ws : List Char) : Prop := ∀ c ∈ ws, isBlank c = true

theorem blank_nil : Blank [] := nofun

theorem blank_space : Blank [' '] := by
  intro c hc
  cases List.mem_singleton.1 hc
  rfl

theorem blank_newline (level : Nat) : Blank (newline level) := by
  intro c hc
  rcases List.mem_cons.1 hc with rfl | hc
  · rfl
  · rw [(List.mem_replicate.1 hc).2]
    rfl

theorem skipBlanks_append {ws : List Char} (h : Blank ws) (cs : List Char) :
    skipBlanks (ws ++ cs) = skipBlanks cs :=
  List.dropWhile_append_of_pos h

theorem skipBlanks_cons {c : Char} (h : isBlank c = false) (cs : List Char) :
    skipBlanks (c :: cs) = c :: cs :=
  List.dropWhile_cons_of_neg (by simp [h])

/-- Blanks in front of a token are passed over. -/
theorem skipBlanks_token {ws : List Char} (hws : Blank ws) {c : Char} (hc : isBlank c = false)
    (cs : List Char) : skipBlanks (ws ++ c :: cs) = c :: cs := by
  rw [skipBlanks_append hws, skipBlanks_cons hc]

/-! ### Strings -/

/-- The two last digits of a control character's code point. -/
theorem readUnit_control {n : Nat} (h : n < 0x20) (rest : List Char) :
    readUnit ('0' :: '0' :: Hex.digitChar (n / 16) :: Hex.digitChar (n % 16) :: rest)
      = some (n, rest) := by
  have hzero : Hex.digitValue? '0' = some 0 := by decide
  have hhigh := Hex.digitValue?_digitChar (d := n / 16) (by omega)
  have hlow := Hex.digitValue?_digitChar (d := n % 16) (by omega)
  simp only [readUnit, hzero, hhigh, hlow, bind, Option.bind, pure, Option.some.injEq,
    Prod.mk.injEq, and_true]
  omega

theorem readEscape_control {c : Char} (h : c.toNat < 0x20) (rest : List Char) :
    readEscape ('u' :: '0' :: '0' :: Hex.digitChar (c.toNat / 16) :: Hex.digitChar (c.toNat % 16)
      :: rest) = some (some c, rest) := by
  have hhigh : isHighHalf c.toNat = false := by
    simp only [isHighHalf, Bool.and_eq_false_iff, decide_eq_false_iff_not]
    omega
  have hlow : isLowHalf c.toNat = false := by
    simp only [isLowHalf, Bool.and_eq_false_iff, decide_eq_false_iff_not]
    omega
  simp only [readEscape, readUnit_control h, hhigh, hlow, bind, Option.bind, pure,
    Char.ofNat_toNat]
  rfl

/-- A character that is written behind a backslash. -/
theorem readStringBody_escaped (cs : List Char) {more : List Char} {c : Char} (fuel : Nat)
    (h : readEscape (cs ++ more) = some (some c, more)) :
    readStringBody (fuel + 1) ('\\' :: cs ++ more)
      = (readStringBody fuel more).map fun r => (consChar (some c) r.1, r.2) := by
  rw [List.cons_append, readStringBody, if_neg (by decide), if_pos rfl, h]
  change (readStringBody fuel more).bind _ = _
  cases readStringBody fuel more <;> rfl

/-- **A character reads back** from its written form. -/
theorem readStringBody_escape (c : Char) (fuel : Nat) (more : List Char) :
    readStringBody (fuel + 1) (escape c ++ more)
      = (readStringBody fuel more).map fun r => (consChar (some c) r.1, r.2) := by
  unfold escape
  split
  · next h => subst h; exact readStringBody_escaped ['"'] fuel rfl
  split
  · next h => subst h; exact readStringBody_escaped ['\\'] fuel rfl
  split
  · next h => subst h; exact readStringBody_escaped ['n'] fuel rfl
  split
  · next h => subst h; exact readStringBody_escaped ['r'] fuel rfl
  split
  · next h => subst h; exact readStringBody_escaped ['t'] fuel rfl
  split
  · next h => subst h; exact readStringBody_escaped ['b'] fuel rfl
  split
  · next h => subst h; exact readStringBody_escaped ['f'] fuel rfl
  split
  · next h => exact readStringBody_escaped _ fuel (readEscape_control h more)
  · next hquote hbackslash _ _ _ _ _ hcontrol =>
      rw [List.singleton_append, readStringBody, if_neg hquote, if_neg hbackslash,
        if_neg hcontrol]
      cases readStringBody fuel more <;> rfl

theorem readStringBody_flatMap {cs : List Char} {fuel : Nat} (h : cs.length < fuel)
    (rest : List Char) :
    readStringBody fuel (cs.flatMap escape ++ '"' :: rest) = some (some cs, rest) := by
  induction cs generalizing fuel with
  | nil =>
      obtain ⟨fuel, rfl⟩ := Nat.exists_eq_add_one_of_ne_zero (Nat.ne_of_gt h)
      rfl
  | cons c cs ih =>
      obtain ⟨fuel, rfl⟩ := Nat.exists_eq_add_one_of_ne_zero (Nat.ne_of_gt (Nat.zero_lt_of_lt h))
      rw [List.flatMap_cons, List.append_assoc, readStringBody_escape,
        ih (Nat.lt_of_succ_lt_succ h)]
      rfl

theorem escape_ne_nil (c : Char) : escape c ≠ [] := by
  unfold escape
  repeat' split
  all_goals exact List.cons_ne_nil _ _

theorem length_le_length_flatMap_escape (cs : List Char) :
    cs.length ≤ (cs.flatMap escape).length := by
  induction cs with
  | nil => exact Nat.le_refl 0
  | cons c cs ih =>
      have := List.length_pos_iff.2 (escape_ne_nil c)
      rw [List.flatMap_cons, List.length_append, List.length_cons]
      omega

/-- **A text reads back**, behind its opening quotation mark. -/
theorem readString_quoted (s : String) (rest : List Char) :
    readString (s.toList.flatMap escape ++ '"' :: rest) = some (some s, rest) := by
  have hlength := length_le_length_flatMap_escape s.toList
  rw [readString, readStringBody_flatMap (by
    rw [List.length_append, List.length_cons]
    omega)]
  exact congrArg (fun t => some (some t, rest)) (String.ofList_toList)

theorem quoted_append (s : String) (rest : List Char) :
    quoted s ++ rest = '"' :: (s.toList.flatMap escape ++ '"' :: rest) := by
  simp [quoted]

/-! ### Integers -/

/-- Can no number go on with these characters? -/
def Stops (rest : List Char) : Prop :=
  ∀ c ∈ rest.head?, c.isDigit = false ∧ c ≠ '.' ∧ c ≠ 'e' ∧ c ≠ 'E'

theorem stops_nil : Stops [] := nofun

theorem stops_cons {c : Char} (h : c.isDigit = false ∧ c ≠ '.' ∧ c ≠ 'e' ∧ c ≠ 'E')
    (rest : List Char) : Stops (c :: rest) := by
  intro d hd
  cases Option.mem_some_iff.1 hd
  exact h

theorem stops_of_isBlank {c : Char} (h : isBlank c = true) (rest : List Char) :
    Stops (c :: rest) := by
  refine stops_cons ?_ rest
  simp only [isBlank, Bool.or_eq_true, decide_eq_true_eq] at h
  rcases h with ((rfl | rfl) | rfl) | rfl <;> decide

theorem Stops.append {rest : List Char} (h : Stops rest) {ws : List Char} (hws : Blank ws) :
    Stops (ws ++ rest) := by
  cases ws with
  | nil => exact h
  | cons c ws => exact stops_of_isBlank (hws c List.mem_cons_self) _

theorem readDigits_digits (n : Nat) {rest : List Char} (h : Stops rest) :
    readDigits (Decimal.digits n ++ rest) = some (Decimal.digits n, rest) := by
  have hdigits : ∀ c ∈ Decimal.digits n, c.isDigit = true := fun c =>
    Decimal.isDigit_of_mem_digits
  have hrest : rest.takeWhile Char.isDigit = [] ∧ rest.dropWhile Char.isDigit = rest := by
    cases rest with
    | nil => exact ⟨rfl, rfl⟩
    | cons c cs =>
        have hc : ¬ c.isDigit = true := by simp [(h c rfl).1]
        exact ⟨List.takeWhile_cons_of_neg hc, List.dropWhile_cons_of_neg hc⟩
  rw [readDigits, List.takeWhile_append_of_pos hdigits, hrest.1, List.append_nil,
    List.dropWhile_append_of_pos hdigits, hrest.2]
  split
  · next hnil => exact absurd hnil (Decimal.digits_ne_nil n)
  · rfl

theorem readWhole_digits (n : Nat) {rest : List Char} (h : Stops rest) :
    readWhole (Decimal.digits n ++ rest) = some (Decimal.digits n, rest) := by
  have hzero : ¬ ((Decimal.digits n).head? = some '0' ∧ 1 < (Decimal.digits n).length) := by
    rintro ⟨hhead, hlength⟩
    rw [Decimal.eq_zero_of_head?_digits hhead, Decimal.digits_of_lt (by decide)] at hlength
    exact Nat.lt_irrefl 1 hlength
  rw [readWhole, readDigits_digits n h]
  exact if_neg hzero

theorem readFraction_stops {rest : List Char} (h : Stops rest) :
    readFraction rest = some ([], rest) := by
  unfold readFraction
  split
  · exact absurd rfl (h _ rfl).2.1
  · rfl

theorem readExponent_stops {rest : List Char} (h : Stops rest) :
    readExponent rest = some (none, rest) := by
  cases rest with
  | nil => rfl
  | cons c cs =>
      have hc : ¬ (c = 'e' ∨ c = 'E') := by
        rintro (he | he)
        · exact (h c rfl).2.2.1 he
        · exact (h c rfl).2.2.2 he
      exact if_neg hc

theorem readUnsigned_digits (negative : Bool) (n : Nat) {rest : List Char} (h : Stops rest) :
    readUnsigned negative (Decimal.digits n ++ rest)
      = some (⟨negative, Decimal.digits n, [], none⟩, rest) := by
  rw [readUnsigned, readWhole_digits n h]
  change (readFraction rest).bind _ = _
  rw [readFraction_stops h]
  change (readExponent rest).bind _ = _
  rw [readExponent_stops h]
  rfl

theorem chars_ofInt (i : Int) :
    (Numeral.ofInt i).chars = (if i < 0 then ['-'] else []) ++ Decimal.digits i.natAbs := by
  simp [Numeral.chars, Numeral.ofInt]

/-- **An integer reads back**, if the number cannot go on behind it. -/
theorem readNumeral_ofInt (i : Int) {rest : List Char} (h : Stops rest) :
    readNumeral ((Numeral.ofInt i).chars ++ rest) = some (.ofInt i, rest) := by
  rw [chars_ofInt, Numeral.ofInt, List.append_assoc]
  by_cases hi : i < 0
  · rw [if_pos hi, decide_eq_true hi]
    exact readUnsigned_digits true i.natAbs h
  · rw [if_neg hi, decide_eq_false hi, List.nil_append, ← readUnsigned_digits false i.natAbs h]
    unfold readNumeral
    split
    · next hminus =>
        -- A digit stands where the sign would.
        obtain ⟨c, cs, hcs⟩ := List.exists_cons_of_ne_nil (Decimal.digits_ne_nil i.natAbs)
        have hc := Decimal.isDigit_of_mem_digits (hcs ▸ List.mem_cons_self)
        rw [hcs] at hminus
        cases hminus
        exact absurd hc (by decide)
    · rfl

/-! ### The grammar -/

mutual

/-- The texts of a value, from its first character to its last. -/
inductive Written : Json → List Char → Prop
  | isTrue : Written (bool true) ['t', 'r', 'u', 'e']
  | isFalse : Written (bool false) ['f', 'a', 'l', 's', 'e']
  | int (i : Int) : Written (int i) (Numeral.ofInt i).chars
  | text (s : String) : Written (text s) (quoted s)
  | emptyArray : Written (array []) ['[', ']']
  | array {items : List Json} {cs : List Char} (h : WrittenItems items cs) :
      Written (array items) ('[' :: cs)
  | emptyRecord : Written (record []) ['\x7b', '\x7d']
  | record {members : List (String × Json)} {cs : List Char} (h : WrittenMembers members cs) :
      Written (record members) ('\x7b' :: cs)

/-- The texts of the items of an array, with its closing bracket. -/
inductive WrittenItems : List Json → List Char → Prop
  | last {item : Json} {ws cs ws' : List Char} (hws : Blank ws) (h : Written item cs)
      (hws' : Blank ws') : WrittenItems [item] (ws ++ (cs ++ (ws' ++ [']'])))
  | cons {item : Json} {items : List Json} {ws cs ws' ds : List Char} (hws : Blank ws)
      (h : Written item cs) (hws' : Blank ws') (hitems : WrittenItems items ds) :
      WrittenItems (item :: items) (ws ++ (cs ++ (ws' ++ ',' :: ds)))

/-- The texts of the members of a record, with its closing brace. -/
inductive WrittenMembers : List (String × Json) → List Char → Prop
  | last {member : String × Json} {ws cs ws' : List Char} (hws : Blank ws)
      (h : WrittenMember member cs) (hws' : Blank ws') :
      WrittenMembers [member] (ws ++ (cs ++ (ws' ++ ['\x7d'])))
  | cons {member : String × Json} {members : List (String × Json)} {ws cs ws' ds : List Char}
      (hws : Blank ws) (h : WrittenMember member cs) (hws' : Blank ws')
      (hmembers : WrittenMembers members ds) :
      WrittenMembers (member :: members) (ws ++ (cs ++ (ws' ++ ',' :: ds)))

/-- The texts of one member, from the first character of its key to the last of its value. -/
inductive WrittenMember : String × Json → List Char → Prop
  | intro (key : String) {value : Json} {ws ws' cs : List Char} (hws : Blank ws)
      (hws' : Blank ws') (h : Written value cs) :
      WrittenMember (key, value) (quoted key ++ (ws ++ ':' :: (ws' ++ cs)))

end

theorem chars_ofInt_eq_cons (i : Int) : ∃ c cs, (Numeral.ofInt i).chars = c :: cs ∧
    (c = '-' ∨ c.isDigit = true) := by
  rw [chars_ofInt]
  split
  · exact ⟨'-', _, rfl, .inl rfl⟩
  · obtain ⟨c, cs, hcs⟩ := List.exists_cons_of_ne_nil (Decimal.digits_ne_nil i.natAbs)
    exact ⟨c, cs, hcs, .inr (Decimal.isDigit_of_mem_digits (hcs ▸ List.mem_cons_self))⟩

theorem isBlank_of_numeral {c : Char} (h : c = '-' ∨ c.isDigit = true) : isBlank c = false := by
  rw [Bool.eq_false_iff]
  intro hc
  simp only [isBlank, Bool.or_eq_true, decide_eq_true_eq] at hc
  rcases hc with ((rfl | rfl) | rfl) | rfl <;> revert h <;> decide

/-- A value starts with a character that is neither a blank nor a closing bracket. -/
theorem Written.eq_cons {j : Json} {cs : List Char} (h : Written j cs) :
    ∃ c ds, cs = c :: ds ∧ isBlank c = false ∧ c ≠ ']' := by
  cases h with
  | isTrue => exact ⟨_, _, rfl, by decide, by decide⟩
  | isFalse => exact ⟨_, _, rfl, by decide, by decide⟩
  | int i =>
      obtain ⟨c, ds, hcs, hc⟩ := chars_ofInt_eq_cons i
      refine ⟨c, ds, hcs, isBlank_of_numeral hc, ?_⟩
      rintro rfl
      revert hc
      decide
  | text s => exact ⟨'"', _, quoted_append s [] ▸ (List.append_nil _).symm, by decide, by decide⟩
  | emptyArray => exact ⟨_, _, rfl, by decide, by decide⟩
  | array => exact ⟨_, _, rfl, by decide, by decide⟩
  | emptyRecord => exact ⟨_, _, rfl, by decide, by decide⟩
  | record => exact ⟨_, _, rfl, by decide, by decide⟩

/-! ### Reading values -/

section

variable {fuel : Nat} {rest : List Char}

/-- Blanks in front of a value are passed over. -/
theorem readValue_blanks {ws cs : List Char} (h : Blank ws) :
    readValue fuel (ws ++ cs) = readValue fuel cs := by
  cases fuel with
  | zero => rfl
  | succ fuel => rw [readValue, readValue, skipBlanks_append h]

theorem readValue_ofInt (i : Int) (h : Stops rest) :
    readValue (fuel + 1) ((Numeral.ofInt i).chars ++ rest) = some (int i, rest) := by
  have hread := readNumeral_ofInt i h
  obtain ⟨c, cs, hcs, hc⟩ := chars_ofInt_eq_cons i
  rw [hcs, List.cons_append] at hread ⊢
  rw [readValue, skipBlanks_cons (isBlank_of_numeral hc)]
  -- The other forms of a value start with a letter, a quotation mark, a bracket or a brace.
  split
  case h_7 => rw [hread]; rfl
  all_goals
    next heq =>
      rw [(List.cons.inj heq).1] at hc
      exact absurd hc (by decide)

theorem readValue_quoted (s : String) :
    readValue (fuel + 1) (quoted s ++ rest) = some (text s, rest) := by
  rw [quoted_append, readValue, skipBlanks_cons (by decide)]
  change (readString _).map _ = _
  rw [readString_quoted]
  rfl

/-- What follows the opening bracket of an array with items. -/
theorem readValue_array {items : List Json} {cs : List Char} (h : WrittenItems items cs)
    (hread : readItems fuel (cs ++ rest) = some (items, rest)) :
    readValue (fuel + 1) ('[' :: cs ++ rest) = some (array items, rest) := by
  have hitem : ∃ c ds, skipBlanks (cs ++ rest) = c :: ds ∧ c ≠ ']' := by
    cases h with
    | last hws hitem _ =>
        obtain ⟨c, ds, rfl, hblank, hc⟩ := hitem.eq_cons
        exact ⟨c, _, by rw [List.append_assoc]; exact skipBlanks_token hws hblank _, hc⟩
    | cons hws hitem _ _ =>
        obtain ⟨c, ds, rfl, hblank, hc⟩ := hitem.eq_cons
        exact ⟨c, _, by rw [List.append_assoc]; exact skipBlanks_token hws hblank _, hc⟩
  obtain ⟨c, ds, hskip, hc⟩ := hitem
  rw [List.cons_append, readValue, skipBlanks_cons (by decide)]
  simp only [hskip]
  split
  · next heq =>
      cases heq
      exact absurd rfl hc
  · rw [hread]
    rfl

/-- What follows the opening brace of a record with members. -/
theorem readValue_record {members : List (String × Json)} {cs : List Char}
    (h : WrittenMembers members cs)
    (hread : readMembers fuel (cs ++ rest)
      = some (members.map fun m => (some m.1, m.2), rest)) :
    readValue (fuel + 1) ('\x7b' :: cs ++ rest) = some (record members, rest) := by
  have hmember : ∃ ds, skipBlanks (cs ++ rest) = '"' :: ds := by
    cases h with
    | last hws hmember _ =>
        obtain ⟨key, _, _, _⟩ := hmember
        exact ⟨_, by
          rw [List.append_assoc, List.append_assoc, List.append_assoc, quoted_append]
          exact skipBlanks_token hws (by decide) _⟩
    | cons hws hmember _ _ =>
        obtain ⟨key, _, _, _⟩ := hmember
        exact ⟨_, by
          rw [List.append_assoc, List.append_assoc, List.append_assoc, quoted_append]
          exact skipBlanks_token hws (by decide) _⟩
  obtain ⟨ds, hskip⟩ := hmember
  rw [List.cons_append, readValue, skipBlanks_cons (by decide)]
  simp only [hskip, hread]
  rfl

/-- The last item of an array. -/
theorem readItems_last {item : Json} {ws cs ws' : List Char} (hws : Blank ws) (hws' : Blank ws')
    (hread : ∀ rest, Stops rest → readValue fuel (cs ++ rest) = some (item, rest)) :
    readItems (fuel + 1) (ws ++ (cs ++ (ws' ++ [']'])) ++ rest) = some ([item], rest) := by
  have hstops : Stops (ws' ++ ']' :: rest) := (stops_cons (by decide) rest).append hws'
  have hskip : skipBlanks (ws' ++ ']' :: rest) = ']' :: rest := skipBlanks_token hws' rfl rest
  simp only [List.append_assoc, List.singleton_append]
  rw [readItems, readValue_blanks hws, hread _ hstops]
  simp only [Option.bind_eq_bind, Option.bind_some, hskip]
  rfl

/-- An item of an array with others behind it. -/
theorem readItems_cons {item : Json} {items : List Json} {ws cs ws' ds : List Char}
    (hws : Blank ws) (hws' : Blank ws')
    (hread : ∀ rest, Stops rest → readValue fuel (cs ++ rest) = some (item, rest))
    (hitems : readItems fuel (ds ++ rest) = some (items, rest)) :
    readItems (fuel + 1) (ws ++ (cs ++ (ws' ++ ',' :: ds)) ++ rest)
      = some (item :: items, rest) := by
  have hstops : Stops (ws' ++ ',' :: (ds ++ rest)) := (stops_cons (by decide) _).append hws'
  have hskip : skipBlanks (ws' ++ ',' :: (ds ++ rest)) = ',' :: (ds ++ rest) :=
    skipBlanks_token hws' rfl _
  simp only [List.append_assoc, List.cons_append]
  rw [readItems, readValue_blanks hws, hread _ hstops]
  simp only [Option.bind_eq_bind, Option.bind_some, hskip, hitems]
  rfl

theorem readMember_blanks {ws cs : List Char} (h : Blank ws) :
    readMember fuel (ws ++ cs) = readMember fuel cs := by
  cases fuel with
  | zero => rfl
  | succ fuel => rw [readMember, readMember, skipBlanks_append h]

/-- The last member of a record. -/
theorem readMembers_last {member : Option String × Json} {ws cs ws' : List Char} (hws : Blank ws)
    (hws' : Blank ws')
    (hread : ∀ rest, Stops rest → readMember fuel (cs ++ rest) = some (member, rest)) :
    readMembers (fuel + 1) (ws ++ (cs ++ (ws' ++ ['\x7d'])) ++ rest) = some ([member], rest) := by
  have hstops : Stops (ws' ++ '\x7d' :: rest) := (stops_cons (by decide) rest).append hws'
  have hskip : skipBlanks (ws' ++ '\x7d' :: rest) = '\x7d' :: rest :=
    skipBlanks_token hws' rfl rest
  simp only [List.append_assoc, List.singleton_append]
  rw [readMembers, readMember_blanks hws, hread _ hstops]
  simp only [Option.bind_eq_bind, Option.bind_some, hskip]
  rfl

/-- A member of a record with others behind it. -/
theorem readMembers_cons {member : Option String × Json} {members : List (Option String × Json)}
    {ws cs ws' ds : List Char} (hws : Blank ws) (hws' : Blank ws')
    (hread : ∀ rest, Stops rest → readMember fuel (cs ++ rest) = some (member, rest))
    (hmembers : readMembers fuel (ds ++ rest) = some (members, rest)) :
    readMembers (fuel + 1) (ws ++ (cs ++ (ws' ++ ',' :: ds)) ++ rest)
      = some (member :: members, rest) := by
  have hstops : Stops (ws' ++ ',' :: (ds ++ rest)) := (stops_cons (by decide) _).append hws'
  have hskip : skipBlanks (ws' ++ ',' :: (ds ++ rest)) = ',' :: (ds ++ rest) :=
    skipBlanks_token hws' rfl _
  simp only [List.append_assoc, List.cons_append]
  rw [readMembers, readMember_blanks hws, hread _ hstops]
  simp only [Option.bind_eq_bind, Option.bind_some, hskip, hmembers]
  rfl

/-- One member of a record. -/
theorem readMember_intro (key : String) {value : Json} {ws ws' cs : List Char} (hws : Blank ws)
    (hws' : Blank ws') (hread : readValue fuel (cs ++ rest) = some (value, rest)) :
    readMember (fuel + 1) (quoted key ++ (ws ++ ':' :: (ws' ++ cs)) ++ rest)
      = some ((some key, value), rest) := by
  have hskip : skipBlanks (ws ++ ':' :: (ws' ++ (cs ++ rest))) = ':' :: (ws' ++ (cs ++ rest)) :=
    skipBlanks_token hws rfl _
  simp only [List.append_assoc, List.cons_append]
  rw [quoted_append, readMember, skipBlanks_cons (by decide)]
  simp only [readString_quoted, Option.bind_eq_bind, Option.bind_some, hskip,
    readValue_blanks hws', hread]
  rfl

end

mutual

/-- **A text of a value is read as that value**, if a number cannot go on behind it. -/
theorem readValue_written {j : Json} {cs : List Char} (h : Written j cs) {fuel : Nat}
    {rest : List Char} (hfuel : 3 * cs.length < fuel) (hrest : Stops rest) :
    readValue fuel (cs ++ rest) = some (j, rest) := by
  obtain ⟨fuel, rfl⟩ := Nat.exists_eq_add_one_of_ne_zero (Nat.ne_zero_of_lt hfuel)
  match h with
  | .isTrue => rfl
  | .isFalse => rfl
  | .int i => exact readValue_ofInt i hrest
  | .text s => exact readValue_quoted s
  | .emptyArray => rfl
  | .array hitems =>
      refine readValue_array hitems (readItems_written hitems ?_)
      rw [List.length_cons] at hfuel
      omega
  | .emptyRecord => rfl
  | .record hmembers =>
      refine readValue_record hmembers (readMembers_written hmembers ?_)
      rw [List.length_cons] at hfuel
      omega

/-- The items of an array. -/
theorem readItems_written {items : List Json} {cs : List Char} (h : WrittenItems items cs)
    {fuel : Nat} {rest : List Char} (hfuel : 3 * cs.length < fuel) :
    readItems fuel (cs ++ rest) = some (items, rest) := by
  obtain ⟨fuel, rfl⟩ := Nat.exists_eq_add_one_of_ne_zero (Nat.ne_zero_of_lt hfuel)
  match h with
  | .last hws hitem hws' =>
      simp only [List.length_append, List.length_cons] at hfuel
      exact readItems_last hws hws' fun _ => readValue_written hitem (by omega)
  | .cons hws hitem hws' hitems =>
      simp only [List.length_append, List.length_cons] at hfuel
      exact readItems_cons hws hws' (fun _ => readValue_written hitem (by omega))
        (readItems_written hitems (by omega))

/-- The members of a record. -/
theorem readMembers_written {members : List (String × Json)} {cs : List Char}
    (h : WrittenMembers members cs) {fuel : Nat} {rest : List Char}
    (hfuel : 3 * cs.length < fuel) :
    readMembers fuel (cs ++ rest) = some (members.map fun m => (some m.1, m.2), rest) := by
  obtain ⟨fuel, rfl⟩ := Nat.exists_eq_add_one_of_ne_zero (Nat.ne_zero_of_lt hfuel)
  match h with
  | .last hws hmember hws' =>
      simp only [List.length_append, List.length_cons] at hfuel
      exact readMembers_last hws hws' fun _ => readMember_written hmember (by omega)
  | .cons hws hmember hws' hmembers =>
      simp only [List.length_append, List.length_cons] at hfuel
      exact readMembers_cons hws hws' (fun _ => readMember_written hmember (by omega))
        (readMembers_written hmembers (by omega))

/-- One member of a record. -/
theorem readMember_written {member : String × Json} {cs : List Char} (h : WrittenMember member cs)
    {fuel : Nat} {rest : List Char} (hfuel : 3 * cs.length < fuel) (hrest : Stops rest) :
    readMember fuel (cs ++ rest) = some ((some member.1, member.2), rest) := by
  obtain ⟨fuel, rfl⟩ := Nat.exists_eq_add_one_of_ne_zero (Nat.ne_zero_of_lt hfuel)
  match h with
  | .intro key hws hws' hvalue =>
      simp only [List.length_append, List.length_cons] at hfuel
      exact readMember_intro key hws hws' (readValue_written hvalue (by omega) hrest)

end

/-- A whole text of a value denotes it. -/
theorem parse_ofList_written {j : Json} {cs : List Char} (h : Written j cs) :
    parse (String.ofList cs) = some j := by
  have hread : readValue (3 * cs.length + 1) (cs ++ []) = some (j, []) :=
    readValue_written h (Nat.lt_succ_self _) stops_nil
  rw [List.append_nil] at hread
  rw [parse, String.toList_ofList, read, hread]
  rfl

/-! ### Layouts -/

/-- The values that are printed: truth values, integers, texts, and arrays and records of them. -/
inductive IsPlain : Json → Prop
  | bool (b : Bool) : IsPlain (bool b)
  | int (i : Int) : IsPlain (int i)
  | text (s : String) : IsPlain (text s)
  | array {items : List Json} (h : ∀ item ∈ items, IsPlain item) : IsPlain (array items)
  | record {members : List (String × Json)} (h : ∀ m ∈ members, IsPlain m.2) :
      IsPlain (record members)

/-- Items without blanks between them follow the grammar. -/
theorem compactItems_written {item : Json} {items : List Json}
    (h : ∀ j ∈ item :: items, Written j j.compactChars) :
    WrittenItems (item :: items) (compactItems (item :: items)) := by
  induction items generalizing item with
  | nil => exact .last blank_nil (h item List.mem_cons_self) blank_nil
  | cons next items ih =>
      exact .cons blank_nil (h item List.mem_cons_self) blank_nil
        (ih fun j hj => h j (List.mem_cons_of_mem _ hj))

/-- Members without blanks between them follow the grammar. -/
theorem compactMembers_written {member : String × Json} {members : List (String × Json)}
    (h : ∀ m ∈ member :: members, Written m.2 m.2.compactChars) :
    WrittenMembers (member :: members)
      (compactMembers ((member :: members).map fun m => (some m.1, m.2))) := by
  have hmember (m : String × Json) (hm : Written m.2 m.2.compactChars) :
      WrittenMember m (compactMember (some m.1, m.2)) := .intro m.1 blank_nil blank_nil hm
  induction members generalizing member with
  | nil => exact .last blank_nil (hmember member (h member List.mem_cons_self)) blank_nil
  | cons next members ih =>
      exact .cons blank_nil (hmember member (h member List.mem_cons_self)) blank_nil
        (ih fun m hm => h m (List.mem_cons_of_mem _ hm))

/-- The layout without blanks follows the grammar. -/
theorem IsPlain.compactChars_written {j : Json} (h : j.IsPlain) : Written j j.compactChars := by
  induction h with
  | bool b => cases b <;> constructor
  | int i => exact .int i
  | text s => exact .text s
  | @array items _ ih =>
      cases items with
      | nil => exact .emptyArray
      | cons item items => exact .array (compactItems_written ih)
  | @record members _ ih =>
      cases members with
      | nil => exact .emptyRecord
      | cons member members => exact .record (compactMembers_written ih)

/-- Items on lines of their own follow the grammar. -/
theorem prettyItems_written {level : Nat} {item : Json} {items : List Json}
    (h : ∀ j ∈ item :: items, ∀ level, Written j (j.prettyChars level)) :
    WrittenItems (item :: items) (prettyItems level (item :: items)) := by
  induction items generalizing item with
  | nil =>
      have := WrittenItems.last (blank_newline (level + 1)) (h item List.mem_cons_self (level + 1))
        (blank_newline level)
      simpa only [prettyItems, List.append_assoc] using this
  | cons next items ih =>
      have := WrittenItems.cons (blank_newline (level + 1)) (h item List.mem_cons_self (level + 1))
        blank_nil (ih fun j hj => h j (List.mem_cons_of_mem _ hj))
      simpa only [prettyItems, List.append_assoc, List.nil_append] using this

/-- Members on lines of their own follow the grammar. -/
theorem prettyMembers_written {level : Nat} {member : String × Json}
    {members : List (String × Json)}
    (h : ∀ m ∈ member :: members, ∀ level, Written m.2 (m.2.prettyChars level)) :
    WrittenMembers (member :: members)
      (prettyMembers level ((member :: members).map fun m => (some m.1, m.2))) := by
  have hmember (m : String × Json) (hm : ∀ level, Written m.2 (m.2.prettyChars level)) :
      WrittenMember m (prettyMember level (some m.1, m.2)) :=
    .intro m.1 blank_nil blank_space (hm (level + 1))
  induction members generalizing member with
  | nil =>
      have := WrittenMembers.last (blank_newline (level + 1))
        (hmember member (h member List.mem_cons_self)) (blank_newline level)
      simpa only [List.map_cons, List.map_nil, prettyMembers, List.append_assoc] using this
  | cons next members ih =>
      have := WrittenMembers.cons (blank_newline (level + 1))
        (hmember member (h member List.mem_cons_self)) blank_nil
        (ih fun m hm => h m (List.mem_cons_of_mem _ hm))
      simpa only [List.map_cons, prettyMembers, List.append_assoc, List.nil_append] using this

/-- The layout with lines follows the grammar, at any level. -/
theorem IsPlain.prettyChars_written {j : Json} (h : j.IsPlain) (level : Nat) :
    Written j (j.prettyChars level) := by
  induction h generalizing level with
  | bool b => cases b <;> constructor
  | int i => exact .int i
  | text s => exact .text s
  | @array items _ ih =>
      cases items with
      | nil => exact .emptyArray
      | cons item items => exact .array (prettyItems_written ih)
  | @record members _ ih =>
      cases members with
      | nil => exact .emptyRecord
      | cons member members => exact .record (prettyMembers_written ih)

/-- **What is written without blanks reads back.** -/
theorem parse_compact {j : Json} (h : j.IsPlain) : parse j.compact = some j :=
  parse_ofList_written h.compactChars_written

/-- **What is written with lines reads back.** -/
theorem parse_pretty {j : Json} (h : j.IsPlain) : parse j.pretty = some j :=
  parse_ofList_written (h.prettyChars_written 0)

/-- **Different values have different texts without blanks.** -/
theorem compact_injective {i j : Json} (hi : i.IsPlain) (hj : j.IsPlain)
    (h : i.compact = j.compact) : i = j := by
  have hparse := parse_compact hi
  rw [h, parse_compact hj] at hparse
  exact (Option.some.inj hparse).symm

end Json

end AccountLedger
