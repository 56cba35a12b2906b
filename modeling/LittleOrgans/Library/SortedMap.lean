import Mathlib.Order.Lattice
import Mathlib.Tactic.SplitIfs

/-!
# Maps kept in the order of their keys

A list of rows that is sorted by key, as a `BTreeMap` lists it. `insert` puts a row in its
place and replaces the row of the same key; `ofList` inserts one row after the other. A sorted
list is its own map (`ofList_of_sorted`), and the rows of two keys may be inserted in either
order (`insert_comm`).
-/

set_option autoImplicit false

namespace LittleOrgans.Library.SortedMap

universe u v

variable {κ : Type u} {ρ : Type v}

/-- The keys increase. -/
def Sorted [LT κ] (rows : List (κ × ρ)) : Prop := rows.Pairwise fun row row' => row.1 < row'.1

variable [LinearOrder κ]

/-- Adds a row, or replaces the one with its key. -/
def insert (k : κ) (r : ρ) : List (κ × ρ) → List (κ × ρ)
  | [] => [(k, r)]
  | row :: rows =>
      if k < row.1 then (k, r) :: row :: rows
      else if k = row.1 then (k, r) :: rows
      else row :: insert k r rows

/-- The map of a list of rows, of which the last one with a key counts. -/
def ofList (rows : List (κ × ρ)) : List (κ × ρ) :=
  rows.foldl (fun map row => insert row.1 row.2 map) []

variable {k k' : κ} {r r' : ρ} {rows rows' map : List (κ × ρ)}

/-! ## Inserting a row -/

theorem mem_of_mem_insert {row : κ × ρ} (h : row ∈ insert k r rows) :
    row = (k, r) ∨ row ∈ rows := by
  induction rows with
  | nil => exact .inl (List.mem_singleton.mp h)
  | cons row' rows ih =>
      rw [insert] at h
      split_ifs at h with hlt heq
      · exact List.mem_cons.mp h
      · rcases List.mem_cons.mp h with hnew | hold
        · exact .inl hnew
        · exact .inr (List.mem_cons_of_mem row' hold)
      · rcases List.mem_cons.mp h with rfl | hrest
        · exact .inr List.mem_cons_self
        · exact (ih hrest).imp id (List.mem_cons_of_mem row')

theorem Sorted.insert (h : Sorted rows) : Sorted (insert k r rows) := by
  induction rows with
  | nil => exact List.pairwise_singleton _ _
  | cons row rows ih =>
      obtain ⟨hfirst, hrest⟩ := List.pairwise_cons.mp h
      rw [SortedMap.insert]
      split_ifs with hlt heq
      · refine List.pairwise_cons.mpr ⟨?_, h⟩
        intro row' hrow'
        rcases List.mem_cons.mp hrow' with rfl | hmem
        · exact hlt
        · exact lt_trans hlt (hfirst row' hmem)
      · refine List.pairwise_cons.mpr ⟨?_, hrest⟩
        intro row' hmem
        rw [heq]
        exact hfirst row' hmem
      · refine List.pairwise_cons.mpr ⟨?_, ih hrest⟩
        intro row' hmem
        rcases mem_of_mem_insert hmem with rfl | hold
        · exact lt_of_le_of_ne (not_lt.mp hlt) (Ne.symm heq)
        · exact hfirst row' hold

/-- A row behind all others goes to the end. -/
theorem insert_of_forall_lt (h : ∀ row ∈ rows, row.1 < k) : insert k r rows = rows ++ [(k, r)] := by
  induction rows with
  | nil => rfl
  | cons row rows ih =>
      have hlt : row.1 < k := h row List.mem_cons_self
      rw [insert, if_neg (lt_asymm hlt), if_neg (ne_of_gt hlt),
        ih fun row' hrow' => h row' (List.mem_cons_of_mem row hrow')]
      rfl

theorem lookup_insert_self : (insert k r rows).lookup k = some r := by
  induction rows with
  | nil => simp [insert]
  | cons row rows ih =>
      rw [insert]
      split_ifs with hlt heq
      · simp
      · simp
      · rw [List.lookup_cons, beq_false_of_ne heq]
        exact ih

theorem lookup_insert_ne (h : k' ≠ k) : (insert k r rows).lookup k' = rows.lookup k' := by
  have hbeq : (k' == k) = false := beq_false_of_ne h
  induction rows with
  | nil => rw [insert, List.lookup_cons, hbeq]
  | cons row rows ih =>
      rw [insert]
      split_ifs with hlt heq
      · rw [List.lookup_cons, hbeq]
      · rw [List.lookup_cons, List.lookup_cons, ← heq, hbeq]
      · rw [List.lookup_cons, List.lookup_cons, ih]

/-- Without the key, nothing was inserted. -/
theorem filter_insert : (insert k r rows).filter (fun row => decide (row.1 ≠ k)) =
    rows.filter fun row => decide (row.1 ≠ k) := by
  induction rows with
  | nil => simp [insert]
  | cons row rows ih =>
      rw [insert]
      split_ifs with hlt heq
      · simp
      · simp [heq]
      · rw [List.filter_cons, List.filter_cons, ih]

/-- Of two rows with one key the later one stays. -/
theorem insert_insert : insert k r (insert k r' rows) = insert k r rows := by
  induction rows with
  | nil => simp [insert]
  | cons row rows ih =>
      by_cases hlt : k < row.1
      · simp [insert, hlt]
      by_cases heq : k = row.1
      · subst heq
        simp [insert]
      · simp [insert, hlt, heq, ih]

theorem insert_comm_of_lt (h : k < k') :
    insert k r (insert k' r' rows) = insert k' r' (insert k r rows) := by
  have hne : k ≠ k' := ne_of_lt h
  have hnlt : ¬k' < k := lt_asymm h
  induction rows with
  | nil => simp [insert, h, hnlt, hne.symm]
  | cons row rows ih =>
      rcases lt_trichotomy k row.1 with hlt | rfl | hgt
      · -- the smaller key goes before the row, wherever the other one goes
        by_cases hlt' : k' < row.1
        · simp [insert, h, hlt, hlt', hnlt, hne.symm]
        by_cases heq' : k' = row.1
        · subst heq'
          simp [insert, h, hnlt, hne.symm]
        · simp [insert, hlt, hlt', heq', hnlt, hne.symm]
      · -- it replaces the row
        simp [insert, hnlt, hne.symm]
      · -- both go behind the row
        have hgt' : row.1 < k' := lt_trans hgt h
        simp [insert, lt_asymm hgt, lt_asymm hgt', ne_of_gt hgt, ne_of_gt hgt', ih]

/-- The rows of two keys may be inserted in either order. -/
theorem insert_comm (h : k ≠ k') :
    insert k r (insert k' r' rows) = insert k' r' (insert k r rows) := by
  rcases lt_or_gt_of_ne h with hlt | hgt
  · exact insert_comm_of_lt hlt
  · exact (insert_comm_of_lt hgt).symm

/-! ## Inserting a list of rows -/

theorem Sorted.foldl_insert (h : Sorted map) :
    Sorted (rows.foldl (fun map row => SortedMap.insert row.1 row.2 map) map) := by
  induction rows generalizing map with
  | nil => exact h
  | cons row rows ih => exact ih h.insert

theorem ofList_concat : ofList (rows ++ [(k, r)]) = insert k r (ofList rows) := by
  rw [ofList, List.foldl_append]
  rfl

theorem sorted_ofList : Sorted (ofList rows) := Sorted.foldl_insert .nil

/-- Rows of a map that is inserted into come first, or from the list. -/
theorem mem_of_mem_foldl_insert {row : κ × ρ}
    (h : row ∈ rows.foldl (fun map row => insert row.1 row.2 map) map) :
    row ∈ map ∨ row ∈ rows := by
  induction rows generalizing map with
  | nil => exact .inl h
  | cons row' rows ih =>
      rcases ih h with hmap | hrows
      · rcases mem_of_mem_insert hmap with rfl | hold
        · exact .inr List.mem_cons_self
        · exact .inl hold
      · exact .inr (List.mem_cons_of_mem row' hrows)

theorem mem_of_mem_ofList {row : κ × ρ} (h : row ∈ ofList rows) : row ∈ rows :=
  (mem_of_mem_foldl_insert h).resolve_left List.not_mem_nil

theorem foldl_insert_of_sorted (h : Sorted (map ++ rows)) :
    rows.foldl (fun map row => insert row.1 row.2 map) map = map ++ rows := by
  induction rows generalizing map with
  | nil => rw [List.append_nil, List.foldl_nil]
  | cons row rows ih =>
      have hlt : ∀ row' ∈ map, row'.1 < row.1 := fun row' hrow' =>
        (List.pairwise_append.mp h).2.2 row' hrow' row List.mem_cons_self
      rw [List.foldl_cons, insert_of_forall_lt hlt, ih, List.append_assoc, List.singleton_append]
      rwa [List.append_assoc, List.singleton_append]

/-- A sorted list is its own map. -/
theorem ofList_of_sorted (h : Sorted rows) : ofList rows = rows := foldl_insert_of_sorted h

/-- A row whose key is not in the list may be inserted before the list or after it. -/
theorem foldl_insert_insert (h : ∀ row ∈ rows, row.1 ≠ k) :
    rows.foldl (fun map row => insert row.1 row.2 map) (insert k r map) =
      insert k r (rows.foldl (fun map row => insert row.1 row.2 map) map) := by
  induction rows generalizing map with
  | nil => rfl
  | cons row rows ih =>
      have hne : row.1 ≠ k := h row List.mem_cons_self
      rw [List.foldl_cons, insert_comm hne, ih fun row' hrow' =>
        h row' (List.mem_cons_of_mem row hrow')]
      rfl

/-- What is inserted before a sorted list stays, unless the list has its key. -/
theorem ofList_cons (hsorted : Sorted rows) (h : ∀ row ∈ rows, row.1 ≠ k) :
    ofList ((k, r) :: rows) = insert k r rows := by
  have hfold : ofList ((k, r) :: rows) = insert k r (ofList rows) := foldl_insert_insert h
  rw [hfold, ofList_of_sorted hsorted]

end LittleOrgans.Library.SortedMap
