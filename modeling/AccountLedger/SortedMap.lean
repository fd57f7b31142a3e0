/-
**Finite maps in key order.**

A `SortedMap κ υ` is a row of entries whose keys strictly increase.  It has one representation for
each finite map, so two maps with the same bindings are equal, and it is listed in key order by
construction.

Main definitions:

* `SortedMap`, `SortedMap.empty`, `SortedMap.ofList` — the type and its makers;
* `SortedMap.get?`, `SortedMap.contains` — reading;
* `SortedMap.insert`, `SortedMap.union` — writing one binding, or all bindings of another map;
* `SortedMap.keys`, `SortedMap.values` — the two columns, in key order.

Main results:

* `SortedMap.get?_insert` — an insertion changes the binding of its key only;
* `SortedMap.get?_union` — the right-hand map wins;
* `SortedMap.mem_entries_iff` — the entries are the bindings;
* `SortedMap.ext` — maps with the same bindings are equal;
* `SortedMap.ofList_entries` — a map is made again from its entries;
* `SortedMap.eq_of_values_eq` — where values tell their keys, they determine the map.
-/

set_option relaxedAutoImplicit false
set_option autoImplicit false

namespace AccountLedger

/-- A finite map, as its entries in strictly increasing key order. -/
structure SortedMap (κ υ : Type) [Ord κ] where
  entries : List (κ × υ)
  increasing : entries.Pairwise fun a b => compare a.1 b.1 = .lt

namespace SortedMap

variable {κ υ : Type} [Ord κ]

instance [DecidableEq κ] [DecidableEq υ] : DecidableEq (SortedMap κ υ) := fun m n =>
  if h : m.entries = n.entries then
    isTrue (by cases m; cases n; cases h; rfl)
  else
    isFalse fun e => h (by rw [e])

/-- The map without bindings. -/
def empty : SortedMap κ υ := ⟨[], .nil⟩

instance : Inhabited (SortedMap κ υ) := ⟨empty⟩

/-- No key is bound. -/
def isEmpty (m : SortedMap κ υ) : Bool := m.entries.isEmpty

/-- The number of bindings. -/
def size (m : SortedMap κ υ) : Nat := m.entries.length

/-- The keys, in increasing order. -/
def keys (m : SortedMap κ υ) : List κ := m.entries.map (·.1)

/-- The values, in the order of their keys. -/
def values (m : SortedMap κ υ) : List υ := m.entries.map (·.2)

/-! ### Reading -/

/-- The value bound to `k` in a row of entries; the search stops at the first larger key. -/
def find (k : κ) : List (κ × υ) → Option υ
  | [] => none
  | (k', v) :: rest =>
      match compare k k' with
      | .lt => none
      | .eq => some v
      | .gt => find k rest

/-- The value bound to `k`. -/
def get? (m : SortedMap κ υ) (k : κ) : Option υ := find k m.entries

/-- Is `k` bound? -/
def contains (m : SortedMap κ υ) (k : κ) : Bool := (m.get? k).isSome

/-! ### Writing -/

/-- Puts one binding into its place in a row of entries, over an earlier one of the same key. -/
def place (k : κ) (v : υ) : List (κ × υ) → List (κ × υ)
  | [] => [(k, v)]
  | (k', v') :: rest =>
      match compare k k' with
      | .lt => (k, v) :: (k', v') :: rest
      | .eq => (k, v) :: rest
      | .gt => (k', v') :: place k v rest

@[simp] theorem get?_empty (k : κ) : (empty : SortedMap κ υ).get? k = none := rfl

theorem le_of_mem_place {k : κ} {v : υ} {e : κ × υ} {es : List (κ × υ)}
    (h : e ∈ place k v es) : e = (k, v) ∨ e ∈ es := by
  induction es with
  | nil => exact .inl (List.mem_singleton.1 h)
  | cons e' es ih =>
      obtain ⟨k', v'⟩ := e'
      rw [place] at h
      split at h
      · rcases List.mem_cons.1 h with h | h
        · exact .inl h
        · exact .inr h
      · rcases List.mem_cons.1 h with h | h
        · exact .inl h
        · exact .inr (List.mem_cons_of_mem _ h)
      · rcases List.mem_cons.1 h with h | h
        · exact .inr (h ▸ List.mem_cons_self)
        · exact (ih h).imp id (List.mem_cons_of_mem _)

theorem compare_self [Std.LawfulEqOrd κ] (k : κ) : compare k k = .eq :=
  Std.ReflCmp.compare_self

theorem find_place_self [Std.LawfulEqOrd κ] (k : κ) (v : υ) (es : List (κ × υ)) :
    find k (place k v es) = some v := by
  induction es with
  | nil => simp [place, find]
  | cons e es ih =>
      obtain ⟨k', v'⟩ := e
      rw [place]
      split
      · simp [find]
      · simp [find]
      · next hk => simp [find, hk, ih]

theorem find_eq_none_of_lt {k : κ} {es : List (κ × υ)}
    (h : ∀ e ∈ es, compare k e.1 = .lt) : find k es = none := by
  cases es with
  | nil => rfl
  | cons e es => rw [find, h e List.mem_cons_self]

variable [Std.TransOrd κ]

theorem increasing_place (k : κ) (v : υ) {es : List (κ × υ)}
    (h : es.Pairwise fun a b => compare a.1 b.1 = .lt) :
    (place k v es).Pairwise fun a b => compare a.1 b.1 = .lt := by
  induction es with
  | nil => exact List.pairwise_singleton _ _
  | cons e es ih =>
      obtain ⟨k', v'⟩ := e
      have hes := List.pairwise_cons.1 h
      rw [place]
      split
      · next hk =>
          refine List.pairwise_cons.2 ⟨fun e he => ?_, h⟩
          rcases List.mem_cons.1 he with rfl | he
          · exact hk
          · exact Std.TransCmp.lt_trans hk (hes.1 e he)
      · next hk =>
          exact List.pairwise_cons.2
            ⟨fun e he => Std.TransCmp.lt_of_eq_of_lt hk (hes.1 e he), hes.2⟩
      · next hk =>
          refine List.pairwise_cons.2 ⟨fun e he => ?_, ih hes.2⟩
          rcases le_of_mem_place he with rfl | he
          · exact Std.OrientedCmp.lt_of_gt hk
          · exact hes.1 e he

/-- The map with `k` bound to `v`. -/
def insert (m : SortedMap κ υ) (k : κ) (v : υ) : SortedMap κ υ :=
  ⟨place k v m.entries, increasing_place k v m.increasing⟩

/-- The map of a row of bindings, later ones over earlier ones. -/
def ofList (es : List (κ × υ)) : SortedMap κ υ :=
  es.foldl (fun m e => m.insert e.1 e.2) empty

/-- The bindings of both maps, those of `n` over those of `m`. -/
def union (m n : SortedMap κ υ) : SortedMap κ υ :=
  n.entries.foldl (fun m e => m.insert e.1 e.2) m

/-! ### Laws of reading and writing -/

theorem find_place_of_ne [Std.LawfulEqOrd κ] {k j : κ} (h : j ≠ k) (v : υ) (es : List (κ × υ))
    (hes : es.Pairwise fun a b => compare a.1 b.1 = .lt) :
    find j (place k v es) = find j es := by
  induction es with
  | nil =>
      simp only [place, find]
      split <;> first | rfl | (next hk => exact absurd (Std.LawfulEqCmp.eq_of_compare hk) h)
  | cons e es ih =>
      obtain ⟨k', v'⟩ := e
      have hes' := List.pairwise_cons.1 hes
      rw [place]
      split
      · next hk =>
          rw [find]
          split
          · next hj => rw [find, Std.TransCmp.lt_trans hj hk]
          · next hj => exact absurd (Std.LawfulEqCmp.eq_of_compare hj) h
          · rfl
      · next hk =>
          have hkk := Std.LawfulEqCmp.eq_of_compare hk
          subst hkk
          rw [find, find]
          split
          · rfl
          · next hj => exact absurd (Std.LawfulEqCmp.eq_of_compare hj) h
          · rfl
      · next hk =>
          rw [find, find]
          split
          · rfl
          · rfl
          · exact ih hes'.2

/-- **An insertion changes the binding of its key only.** -/
theorem get?_insert [Std.LawfulEqOrd κ] [DecidableEq κ] (m : SortedMap κ υ) (k j : κ) (v : υ) :
    (m.insert k v).get? j = if j = k then some v else m.get? j := by
  split
  · next h => subst h; exact find_place_self j v m.entries
  · next h => exact find_place_of_ne h v m.entries m.increasing

@[simp] theorem get?_insert_self [Std.LawfulEqOrd κ] (m : SortedMap κ υ) (k : κ) (v : υ) :
    (m.insert k v).get? k = some v :=
  find_place_self k v m.entries

theorem get?_insert_of_ne [Std.LawfulEqOrd κ] (m : SortedMap κ υ) {k j : κ} (h : j ≠ k) (v : υ) :
    (m.insert k v).get? j = m.get? j :=
  find_place_of_ne h v m.entries m.increasing

theorem mem_iff_find_eq_some [Std.LawfulEqOrd κ] {es : List (κ × υ)}
    (hes : es.Pairwise fun a b => compare a.1 b.1 = .lt) {k : κ} {v : υ} :
    (k, v) ∈ es ↔ find k es = some v := by
  induction es with
  | nil => simp [find]
  | cons e es ih =>
      obtain ⟨k', v'⟩ := e
      have hes' := List.pairwise_cons.1 hes
      rw [find, List.mem_cons]
      split
      · next hk =>
          constructor
          · rintro (h | h)
            · cases h
              rw [compare_self] at hk
              cases hk
            · have := Std.TransCmp.lt_trans hk (hes'.1 _ h)
              rw [compare_self] at this
              cases this
          · intro h; cases h
      · next hk =>
          have hkk := Std.LawfulEqCmp.eq_of_compare hk
          subst hkk
          constructor
          · rintro (h | h)
            · cases h; rfl
            · have := hes'.1 _ h
              rw [compare_self] at this
              cases this
          · intro h; cases h; exact .inl rfl
      · next hk =>
          rw [← ih hes'.2]
          constructor
          · rintro (h | h)
            · cases h
              rw [compare_self] at hk
              cases hk
            · exact h
          · exact .inr

/-- **The entries are the bindings.** -/
theorem mem_entries_iff [Std.LawfulEqOrd κ] {m : SortedMap κ υ} {k : κ} {v : υ} :
    (k, v) ∈ m.entries ↔ m.get? k = some v :=
  mem_iff_find_eq_some m.increasing

theorem entries_eq_of_find_eq [Std.LawfulEqOrd κ] :
    ∀ {es fs : List (κ × υ)}, (es.Pairwise fun a b => compare a.1 b.1 = .lt) →
      (fs.Pairwise fun a b => compare a.1 b.1 = .lt) → (∀ k, find k es = find k fs) → es = fs
  | [], [], _, _, _ => rfl
  | [], (k, v) :: fs, _, _, h => by
      have := h k
      simp [find] at this
  | (k, v) :: es, [], _, _, h => by
      have := h k
      simp [find] at this
  | (k, v) :: es, (k', v') :: fs, hes, hfs, h => by
      have hes' := List.pairwise_cons.1 hes
      have hfs' := List.pairwise_cons.1 hfs
      -- Each head is the least key of its list, and both lists have the same keys.
      have hk : k = k' := by
        have h₁ := h k
        have h₂ := h k'
        simp only [find, compare_self] at h₁ h₂
        cases hc : compare k k' with
        | lt => rw [hc] at h₁; cases h₁
        | eq => exact Std.LawfulEqCmp.eq_of_compare hc
        | gt => rw [Std.OrientedCmp.lt_of_gt hc] at h₂; cases h₂
      subst hk
      have hv : v = v' := by
        have := h k
        simpa [find] using this
      subst hv
      have hrest : es = fs := by
        refine entries_eq_of_find_eq hes'.2 hfs'.2 fun j => ?_
        have := h j
        simp only [find] at this
        cases hc : compare j k with
        | lt =>
            rw [find_eq_none_of_lt fun e he => Std.TransCmp.lt_trans hc (hes'.1 e he),
              find_eq_none_of_lt fun e he => Std.TransCmp.lt_trans hc (hfs'.1 e he)]
        | eq =>
            have hj := Std.LawfulEqCmp.eq_of_compare hc
            subst hj
            -- The common head is found in neither rest.
            rw [find_eq_none_of_lt hes'.1, find_eq_none_of_lt hfs'.1]
        | gt => rw [hc] at this; exact this
      rw [hrest]

/-- **Maps with the same bindings are equal.** -/
theorem ext [Std.LawfulEqOrd κ] {m n : SortedMap κ υ} (h : ∀ k, m.get? k = n.get? k) :
    m = n := by
  cases m
  cases n
  congr 1
  exact entries_eq_of_find_eq ‹_› ‹_› h

theorem get?_foldl_insert [Std.LawfulEqOrd κ] (es : List (κ × υ))
    (hes : es.Pairwise fun a b => compare a.1 b.1 = .lt) (m : SortedMap κ υ) (k : κ) :
    (es.foldl (fun m e => m.insert e.1 e.2) m).get? k = (find k es).or (m.get? k) := by
  induction es generalizing m with
  | nil => simp [find]
  | cons e es ih =>
      obtain ⟨k', v'⟩ := e
      have hes' := List.pairwise_cons.1 hes
      rw [List.foldl_cons, ih hes'.2, find]
      cases hc : compare k k' with
      | lt =>
          have hne : k ≠ k' := by
            rintro rfl
            rw [compare_self] at hc
            cases hc
          rw [find_eq_none_of_lt fun e he => Std.TransCmp.lt_trans hc (hes'.1 e he),
            get?_insert_of_ne m hne]
      | eq =>
          have hk := Std.LawfulEqCmp.eq_of_compare hc
          subst hk
          rw [find_eq_none_of_lt hes'.1, get?_insert_self]
          rfl
      | gt =>
          have hne : k ≠ k' := by
            rintro rfl
            rw [compare_self] at hc
            cases hc
          rw [get?_insert_of_ne m hne]

/-- **In a union the right-hand map wins.** -/
theorem get?_union [Std.LawfulEqOrd κ] (m n : SortedMap κ υ) (k : κ) :
    (m.union n).get? k = (n.get? k).or (m.get? k) :=
  get?_foldl_insert n.entries n.increasing m k

/-- **A map is made again from its entries.** -/
@[simp] theorem ofList_entries [Std.LawfulEqOrd κ] (m : SortedMap κ υ) :
    ofList m.entries = m := by
  refine ext fun k => ?_
  rw [ofList, get?_foldl_insert m.entries m.increasing, get?_empty, Option.or_none]
  rfl

/-- Values that tell their keys are stored as these keys say. -/
theorem entries_eq_map_values [Std.LawfulEqOrd κ] {m : SortedMap κ υ} {key : υ → κ}
    (h : ∀ k v, m.get? k = some v → key v = k) :
    m.entries = m.values.map fun v => (key v, v) := by
  rw [values, List.map_map]
  refine (List.map_id m.entries).symm.trans (List.map_congr_left fun e he => ?_)
  exact Prod.ext (h e.1 e.2 (mem_entries_iff.1 he)).symm rfl

/-- **Where values tell their keys, they determine the map.** -/
theorem eq_of_values_eq [Std.LawfulEqOrd κ] {m n : SortedMap κ υ} {key : υ → κ}
    (hm : ∀ k v, m.get? k = some v → key v = k) (hn : ∀ k v, n.get? k = some v → key v = k)
    (h : m.values = n.values) : m = n := by
  have hentries : m.entries = n.entries := by
    rw [entries_eq_map_values hm, entries_eq_map_values hn, h]
  rw [← ofList_entries m, hentries, ofList_entries]

end SortedMap

end AccountLedger
