import Mathlib.Data.List.Nodup

/-!
# Keyed tables

A table is a list of keyed rows with pairwise distinct keys. Rows keep their
insertion order, and an update leaves a row in its place. `lookup` is the view
the rest of the development reasons with: `lookup_insert`, `lookup_mapRows` and
`lookup_filterRows` say what each primitive does to it, and `mem_rows_iff` ties
it back to the listed rows.
-/

set_option autoImplicit false

namespace LittleOrgans.Library

universe u v w

/-- A list of rows whose keys are pairwise distinct. -/
structure Table (κ : Type u) (ρ : Type v) where
  rows : List (κ × ρ)
  nodup : (rows.map Prod.fst).Nodup

namespace Table

variable {κ : Type u} {ρ : Type v}

/-- The table without rows. -/
def empty : Table κ ρ := ⟨[], List.nodup_nil⟩

instance : Inhabited (Table κ ρ) := ⟨empty⟩

@[ext]
theorem ext {t t' : Table κ ρ} (h : t.rows = t'.rows) : t = t' := by
  cases t
  cases t'
  cases h
  rfl

/-- Rewrites every row in place; keys stay as they are. -/
def mapRows (f : κ → ρ → ρ) (t : Table κ ρ) : Table κ ρ where
  rows := t.rows.map fun row => (row.1, f row.1 row.2)
  nodup := by
    have h := t.nodup
    rwa [List.map_map]

/-- Keeps the rows that satisfy `p`. -/
def filterRows (p : κ → ρ → Bool) (t : Table κ ρ) : Table κ ρ where
  rows := t.rows.filter fun row => p row.1 row.2
  nodup := t.nodup.sublist (List.filter_sublist.map Prod.fst)

variable [DecidableEq κ]

/-- The row stored under `k`. -/
def lookup (t : Table κ ρ) (k : κ) : Option ρ := t.rows.lookup k

/-- Whether a row is stored under `k`. -/
def contains (t : Table κ ρ) (k : κ) : Bool := (t.lookup k).isSome

/-- Rewrites the row stored under `k`. -/
def modify (k : κ) (f : ρ → ρ) (t : Table κ ρ) : Table κ ρ :=
  t.mapRows fun k' r => if k' = k then f r else r

/-- Removes the row stored under `k`. -/
def erase (k : κ) (t : Table κ ρ) : Table κ ρ :=
  t.filterRows fun k' _ => decide (k' ≠ k)

theorem lookup_eq_none_iff {t : Table κ ρ} {k : κ} :
    t.lookup k = none ↔ k ∉ t.rows.map Prod.fst := by
  rw [lookup, List.lookup_eq_none_iff]
  constructor
  · intro h hk
    obtain ⟨row, hrow, rfl⟩ := List.mem_map.mp hk
    simpa using h row hrow
  · intro h row hrow
    have hne : k ≠ row.1 := fun e => h (List.mem_map.mpr ⟨row, hrow, e.symm⟩)
    simpa using hne

/-- Adds a row at the end. A stored key is left alone: the primary key admits
one row. -/
def insert (k : κ) (r : ρ) (t : Table κ ρ) : Table κ ρ :=
  if h : t.lookup k = none then
    { rows := t.rows ++ [(k, r)]
      nodup := by
        have hk : k ∉ t.rows.map Prod.fst := lookup_eq_none_iff.mp h
        rw [List.map_append, List.map_cons, List.map_nil, List.nodup_append]
        refine ⟨t.nodup, List.nodup_singleton k, ?_⟩
        intro a ha b hb
        rw [List.mem_singleton] at hb
        intro hab
        rw [hab, hb] at ha
        exact hk ha }
  else t

/-- An insert adds one row at most to a count. -/
theorem countP_insert_le (P : κ × ρ → Prop) [DecidablePred P] (t : Table κ ρ) (k : κ) (r : ρ) :
    (t.insert k r).rows.countP P ≤ t.rows.countP P + if P (k, r) then 1 else 0 := by
  rw [insert]
  split
  · rw [List.countP_append, List.countP_singleton]
    simp
  · exact Nat.le_add_right _ _

/-- Adds a row, or rewrites the one already stored under the key. -/
def upsert (k : κ) (r : ρ) (t : Table κ ρ) : Table κ ρ :=
  if t.lookup k = none then t.insert k r else t.modify k fun _ => r

/-! ## The lookup view of each primitive -/

@[simp]
theorem lookup_empty (k : κ) : (empty : Table κ ρ).lookup k = none := rfl

theorem lookup_insert_self {t : Table κ ρ} {k : κ} (h : t.lookup k = none) (r : ρ) :
    (t.insert k r).lookup k = some r := by
  have h' : t.rows.lookup k = none := h
  rw [insert, dif_pos h, lookup, List.lookup_append, h']
  simp

theorem lookup_insert_ne {t : Table κ ρ} {k k' : κ} (hne : k' ≠ k) (r : ρ) :
    (t.insert k r).lookup k' = t.lookup k' := by
  by_cases h : t.lookup k = none
  · rw [insert, dif_pos h, lookup, List.lookup_append, lookup]
    have hk : (k' == k) = false := by simpa using hne
    simp [List.lookup_cons, hk]
  · rw [insert, dif_neg h]

theorem lookup_insert {t : Table κ ρ} {k : κ} (h : t.lookup k = none) (r : ρ) (k' : κ) :
    (t.insert k r).lookup k' = if k' = k then some r else t.lookup k' := by
  by_cases hk : k' = k
  · subst hk
    rw [if_pos rfl, lookup_insert_self h]
  · rw [if_neg hk, lookup_insert_ne hk]

theorem insert_of_lookup {t : Table κ ρ} {k : κ} {r' : ρ} (h : t.lookup k = some r') (r : ρ) :
    t.insert k r = t := by
  rw [insert, dif_neg]
  rw [h]
  exact Option.some_ne_none r'

@[simp]
theorem lookup_mapRows (f : κ → ρ → ρ) (t : Table κ ρ) (k : κ) :
    (t.mapRows f).lookup k = (t.lookup k).map (f k) := by
  have aux : ∀ rows : List (κ × ρ),
      (rows.map fun row => (row.1, f row.1 row.2)).lookup k = (rows.lookup k).map (f k) := by
    intro rows
    induction rows with
    | nil => rfl
    | cons row rows ih =>
        obtain ⟨k', r⟩ := row
        rw [List.map_cons, List.lookup_cons, List.lookup_cons, ih]
        by_cases h : k = k'
        · subst h
          simp
        · have hk : (k == k') = false := by simpa using h
          simp [hk]
  exact aux t.rows

theorem lookup_modify (t : Table κ ρ) (k : κ) (f : ρ → ρ) (k' : κ) :
    (t.modify k f).lookup k' = if k' = k then (t.lookup k).map f else t.lookup k' := by
  rw [modify, lookup_mapRows]
  by_cases h : k' = k
  · subst h
    simp
  · simp [h]

@[simp]
theorem lookup_filterRows (p : κ → ρ → Bool) (t : Table κ ρ) (k : κ) :
    (t.filterRows p).lookup k = (t.lookup k).filter (p k) := by
  have aux : ∀ rows : List (κ × ρ), (rows.map Prod.fst).Nodup →
      (rows.filter fun row => p row.1 row.2).lookup k = (rows.lookup k).filter (p k) := by
    intro rows
    induction rows with
    | nil => intro _; rfl
    | cons row rows ih =>
        obtain ⟨k', r⟩ := row
        intro hnodup
        rw [List.map_cons, List.nodup_cons] at hnodup
        have ih := ih hnodup.2
        rw [List.filter_cons, List.lookup_cons]
        by_cases h : k = k'
        · subst h
          have hnone : rows.lookup k = none := by
            rw [List.lookup_eq_none_iff]
            intro row hrow
            have hne : k ≠ row.1 := fun e => hnodup.1 (List.mem_map.mpr ⟨row, hrow, e.symm⟩)
            simpa using hne
          cases hp : p k r <;> simp [Option.filter_some, hp, ih, hnone]
        · have hk : (k == k') = false := by simpa using h
          cases p k' r <;> simp [List.lookup_cons, hk, ih]
  exact aux t.rows t.nodup

theorem lookup_erase (t : Table κ ρ) (k k' : κ) :
    (t.erase k).lookup k' = if k' = k then none else t.lookup k' := by
  rw [erase, lookup_filterRows]
  by_cases h : k' = k
  · simp [h]
  · cases t.lookup k' <;> simp [h]

theorem lookup_upsert (t : Table κ ρ) (k : κ) (r : ρ) (k' : κ) :
    (t.upsert k r).lookup k' = if k' = k then some r else t.lookup k' := by
  cases h : t.lookup k with
  | none => rw [upsert, if_pos h, lookup_insert h]
  | some old =>
      rw [upsert, if_neg (by simp [h]), lookup_modify, h]
      rfl

theorem contains_iff {t : Table κ ρ} {k : κ} : t.contains k = true ↔ ∃ r, t.lookup k = some r := by
  rw [contains, Option.isSome_iff_exists]

/-- The listed rows are the looked-up ones: keys are distinct. -/
theorem mem_rows_iff {t : Table κ ρ} {k : κ} {r : ρ} :
    (k, r) ∈ t.rows ↔ t.lookup k = some r := by
  have aux : ∀ rows : List (κ × ρ), (rows.map Prod.fst).Nodup →
      ((k, r) ∈ rows ↔ rows.lookup k = some r) := by
    intro rows
    induction rows with
    | nil => intro _; simp
    | cons row rows ih =>
        obtain ⟨k', r'⟩ := row
        intro hnodup
        rw [List.map_cons, List.nodup_cons] at hnodup
        have ih := ih hnodup.2
        rw [List.lookup_cons, List.mem_cons]
        by_cases h : k = k'
        · subst h
          have hnot : (k, r) ∉ rows := fun hmem => hnodup.1 (List.mem_map.mpr ⟨_, hmem, rfl⟩)
          simp [hnot, eq_comm]
        · have hk : (k == k') = false := by simpa using h
          simp [h, hk, ih]
  exact aux t.rows t.nodup

/-- What is said of every row is decided row by row. -/
instance decidableForallLookup (t : Table κ ρ) (P : κ → ρ → Prop) [∀ k r, Decidable (P k r)] :
    Decidable (∀ k r, t.lookup k = some r → P k r) :=
  decidable_of_iff (∀ row ∈ t.rows, P row.1 row.2)
    ⟨fun h k r hrow => h (k, r) (mem_rows_iff.mpr hrow),
      fun h _ hrow => h _ _ (mem_rows_iff.mp hrow)⟩

/-! ## Tables that stay the same -/

omit [DecidableEq κ] in
theorem mapRows_mapRows (f g : κ → ρ → ρ) (t : Table κ ρ) :
    (t.mapRows f).mapRows g = t.mapRows fun k r => g k (f k r) := by
  ext1
  simp [mapRows]

omit [DecidableEq κ] in
theorem mapRows_congr {f g : κ → ρ → ρ} {t : Table κ ρ}
    (h : ∀ k r, (k, r) ∈ t.rows → f k r = g k r) : t.mapRows f = t.mapRows g := by
  ext1
  refine List.map_congr_left fun row hrow => ?_
  rw [h row.1 row.2 hrow]

omit [DecidableEq κ] in
theorem mapRows_self {f : κ → ρ → ρ} {t : Table κ ρ}
    (h : ∀ k r, (k, r) ∈ t.rows → f k r = r) : t.mapRows f = t := by
  ext1
  refine (List.map_congr_left fun row hrow => ?_).trans (List.map_id _)
  rw [h row.1 row.2 hrow]
  rfl

omit [DecidableEq κ] in
theorem filterRows_filterRows (p q : κ → ρ → Bool) (t : Table κ ρ) :
    (t.filterRows p).filterRows q = t.filterRows fun k r => q k r && p k r := by
  ext1
  exact List.filter_filter

omit [DecidableEq κ] in
theorem filterRows_self {p : κ → ρ → Bool} {t : Table κ ρ}
    (h : ∀ k r, (k, r) ∈ t.rows → p k r = true) : t.filterRows p = t := by
  ext1
  exact List.filter_eq_self.mpr fun row hrow => h row.1 row.2 hrow

omit [DecidableEq κ] in
theorem filterRows_congr {p q : κ → ρ → Bool} {t : Table κ ρ}
    (h : ∀ k r, (k, r) ∈ t.rows → p k r = q k r) : t.filterRows p = t.filterRows q := by
  ext1
  exact List.filter_congr fun row hrow => h row.1 row.2 hrow

theorem mapRows_insert (f : κ → ρ → ρ) (t : Table κ ρ) (k : κ) (r : ρ) :
    (t.insert k r).mapRows f = (t.mapRows f).insert k (f k r) := by
  ext1
  rw [insert, insert]
  by_cases h : t.lookup k = none
  · have h' : (t.mapRows f).lookup k = none := by rw [lookup_mapRows, h, Option.map_none]
    rw [dif_pos h, dif_pos h']
    simp [mapRows]
  · have h' : (t.mapRows f).lookup k ≠ none := by
      rw [lookup_mapRows]
      simpa using h
    rw [dif_neg h, dif_neg h']

/-- The row is rewritten to what it is. -/
theorem modify_of_lookup {t : Table κ ρ} {k : κ} {f : ρ → ρ}
    (h : ∀ r, t.lookup k = some r → f r = r) : t.modify k f = t := by
  refine mapRows_self fun k' r hrow => ?_
  by_cases hk : k' = k
  · subst hk
    rw [if_pos rfl]
    exact h r (mem_rows_iff.mp hrow)
  · rw [if_neg hk]

/-- There is no row to remove. -/
theorem erase_of_lookup {t : Table κ ρ} {k : κ} (h : t.lookup k = none) : t.erase k = t := by
  ext1
  refine List.filter_eq_self.mpr fun row hrow => ?_
  rw [decide_eq_true_eq]
  rintro rfl
  rw [lookup_eq_none_iff] at h
  exact h (List.mem_map.mpr ⟨row, hrow, rfl⟩)

end Table

end LittleOrgans.Library
