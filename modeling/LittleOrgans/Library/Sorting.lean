import Mathlib.Data.List.Sort

/-!
# Sorting in two orders

A list that one order sorts is sorted in another one when the second contains the first on its
elements (`pairwise_iff_of_pairwise`). Two sorts of the same elements then give the same list
under the same condition (`insertionSort_eq_insertionSort_iff`).
-/

set_option autoImplicit false

namespace LittleOrgans.Library

universe u

variable {α : Type u} {r s : α → α → Prop}

/-- Elements that `r` leaves in either order must be ordered by `s` both ways. -/
theorem pairwise_iff_of_pairwise {l : List α} (h : l.Pairwise r)
    (hboth : ∀ a b, r a b → r b a → s a b) :
    l.Pairwise s ↔ ∀ a ∈ l, ∀ b ∈ l, r a b → s a b := by
  constructor
  · intro hs
    induction l with
    | nil =>
        intro a ha
        cases ha
    | cons x l ih =>
        obtain ⟨hr, h⟩ := List.pairwise_cons.mp h
        obtain ⟨hs, hrest⟩ := List.pairwise_cons.mp hs
        intro a ha b hb hab
        rcases List.mem_cons.mp ha with hax | hal
        · rcases List.mem_cons.mp hb with hbx | hbl
          · rw [hbx, ← hax] at hab ⊢
            exact hboth a a hab hab
          · rw [hax]
            exact hs b hbl
        · rcases List.mem_cons.mp hb with hbx | hbl
          · -- the later element is no greater than the earlier one
            rw [hbx] at hab ⊢
            exact hboth a x hab (hr a hal)
          · exact ih h hrest a hal b hbl hab
  · intro hs
    refine h.imp_of_mem ?_
    intro a b ha hb hab
    exact hs a ha b hb hab

/-- Two sorts of one list agree where the orders do; `s` must tell its elements apart. -/
theorem insertionSort_eq_insertionSort_iff [DecidableRel r] [DecidableRel s] [Std.Total r]
    [IsTrans α r] [Std.Total s] [IsTrans α s] {l l' : List α} (hperm : l'.Perm l)
    (hboth : ∀ a b, r a b → r b a → s a b)
    (hantisymm : ∀ a ∈ l, ∀ b ∈ l, s a b → s b a → a = b) :
    l'.insertionSort s = l.insertionSort r ↔ ∀ a ∈ l, ∀ b ∈ l, r a b → s a b := by
  have hsorted := List.pairwise_insertionSort r l
  have hiff := pairwise_iff_of_pairwise hsorted hboth
  simp only [List.mem_insertionSort] at hiff
  rw [← hiff]
  constructor
  · intro heq
    rw [← heq]
    exact List.pairwise_insertionSort s l'
  · intro hs
    have hsame : (l'.insertionSort s).Perm (l.insertionSort r) :=
      ((List.perm_insertionSort s l').trans hperm).trans (List.perm_insertionSort r l).symm
    refine hsame.eq_of_pairwise ?_ (List.pairwise_insertionSort s l') hs
    intro a b ha hb
    exact hantisymm a (hperm.subset ((List.mem_insertionSort s).mp ha)) b
      ((List.mem_insertionSort r).mp hb)

end LittleOrgans.Library
