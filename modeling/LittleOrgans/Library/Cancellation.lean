import Mathlib.Data.List.Induction
import Mathlib.Logic.Relation

/-!
# Words whose letters cancel

A letter of a word is a name, stands for nothing, or takes back the name before it. One
rewriting step (`Cancels`) drops a letter that stands for nothing, drops a name together with
the letter behind it that takes it back, or drops such a letter from the front of the word,
where there is nothing to take back. A word of names only is normal.

Every word cancels to exactly one normal word, whatever the order of the steps
(`cancelsTo_iff_eq_resolve`): the one that a single pass with a stack computes (`resolve`).
-/

set_option autoImplicit false

namespace LittleOrgans.Library

/-- What a letter does to the names before it. -/
inductive LetterKind where
  | name
  | nothing
  | back
  deriving DecidableEq

section Words

variable {α : Type} (kind : α → LetterKind)

/-- One step of cancellation. -/
inductive Cancels : List α → List α → Prop where
  | nothing {a : α} (before after : List α) (ha : kind a = .nothing) :
      Cancels (before ++ a :: after) (before ++ after)
  | back {a b : α} (before after : List α) (ha : kind a = .name) (hb : kind b = .back) :
      Cancels (before ++ a :: b :: after) (before ++ after)
  | front {b : α} (after : List α) (hb : kind b = .back) : Cancels (b :: after) after

/-- A word of names. -/
def IsNormal (word : List α) : Prop := ∀ a ∈ word, kind a = .name

/-- What is left of a word when nothing more cancels. -/
def CancelsTo (word rest : List α) : Prop :=
  Relation.ReflTransGen (Cancels kind) word rest ∧ IsNormal kind rest

/-- A letter on a stack of names. -/
def pushLetter (names : List α) (a : α) : List α :=
  match kind a with
  | .name => names ++ [a]
  | .nothing => names
  | .back => names.dropLast

/-- One pass over a word. -/
def resolve (word : List α) : List α := word.foldl (pushLetter kind) []

variable {kind} {word rest names : List α} {a : α}

theorem isNormal_nil : IsNormal kind [] := nofun

theorem isNormal_pushLetter (h : IsNormal kind names) (a : α) :
    IsNormal kind (pushLetter kind names a) := by
  rw [pushLetter]
  cases ha : kind a with
  | nothing => exact h
  | back => exact fun b hb => h b (List.dropLast_subset _ hb)
  | name =>
      intro b hb
      rcases List.mem_append.mp hb with hbefore | hlast
      · exact h b hbefore
      · rw [List.mem_singleton.mp hlast, ha]

theorem isNormal_foldl_pushLetter (h : IsNormal kind names) :
    IsNormal kind (word.foldl (pushLetter kind) names) := by
  induction word generalizing names with
  | nil => exact h
  | cons a word ih => exact ih (isNormal_pushLetter h a)

theorem isNormal_resolve (word : List α) : IsNormal kind (resolve kind word) :=
  isNormal_foldl_pushLetter isNormal_nil

/-- A pass over names only pushes them. -/
theorem foldl_pushLetter_of_isNormal (h : IsNormal kind word) (names : List α) :
    word.foldl (pushLetter kind) names = names ++ word := by
  induction word generalizing names with
  | nil => rw [List.foldl_nil, List.append_nil]
  | cons a word ih =>
      have ha : pushLetter kind names a = names ++ [a] := by
        rw [pushLetter, h a List.mem_cons_self]
      rw [List.foldl_cons, ha, ih fun b hb => h b (List.mem_cons_of_mem a hb),
        List.append_assoc, List.singleton_append]

theorem resolve_of_isNormal (h : IsNormal kind word) : resolve kind word = word :=
  foldl_pushLetter_of_isNormal h []

/-- A pass goes over a step of cancellation without a trace. -/
theorem Cancels.resolve_eq (h : Cancels kind word rest) :
    resolve kind rest = resolve kind word := by
  cases h with
  | nothing before after ha =>
      rw [resolve, resolve, List.foldl_append, List.foldl_append, List.foldl_cons, pushLetter, ha]
  | back before after ha hb =>
      rw [resolve, resolve, List.foldl_append, List.foldl_append, List.foldl_cons,
        List.foldl_cons]
      simp only [pushLetter, ha, hb, List.dropLast_concat]
  | front after hb =>
      rw [resolve, resolve, List.foldl_cons, pushLetter, hb]
      rfl

theorem resolve_eq_of_cancels (h : Relation.ReflTransGen (Cancels kind) word rest) :
    resolve kind rest = resolve kind word := by
  induction h with
  | refl => rfl
  | tail _ hstep ih => exact hstep.resolve_eq.trans ih

/-- Behind names, one letter cancels to what the stack makes of it. -/
theorem cancels_pushLetter (h : IsNormal kind names) (a : α) (after : List α) :
    Relation.ReflTransGen (Cancels kind) (names ++ a :: after)
      (pushLetter kind names a ++ after) := by
  rw [pushLetter]
  cases ha : kind a with
  | name =>
      rw [List.append_assoc, List.singleton_append]
  | nothing => exact .single (.nothing names after ha)
  | back =>
      induction names using List.reverseRecOn with
      | nil => exact .single (.front after ha)
      | append_singleton names b _ =>
          have hb : kind b = .name := h b (List.mem_append_right _ List.mem_cons_self)
          rw [List.dropLast_concat, List.append_assoc, List.singleton_append]
          exact .single (.back names after hb ha)

theorem cancels_foldl_pushLetter (h : IsNormal kind names) :
    Relation.ReflTransGen (Cancels kind) (names ++ word)
      (word.foldl (pushLetter kind) names) := by
  induction word generalizing names with
  | nil => rw [List.append_nil, List.foldl_nil]
  | cons a word ih => exact (cancels_pushLetter h a word).trans (ih (isNormal_pushLetter h a))

/-- A word cancels to what one pass over it computes, and nothing else. -/
theorem cancelsTo_iff_eq_resolve : CancelsTo kind word rest ↔ rest = resolve kind word := by
  constructor
  · rintro ⟨hcancels, hnormal⟩
    rw [← resolve_eq_of_cancels hcancels, resolve_of_isNormal hnormal]
  · rintro rfl
    exact ⟨cancels_foldl_pushLetter isNormal_nil, isNormal_resolve word⟩

end Words

end LittleOrgans.Library
