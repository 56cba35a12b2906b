import Mathlib.Data.List.Forall2

/-!
# Computations that may fail

Inversion of `Except` sequences: a sequence of two computations succeeds exactly
when each of them does (`bind_eq_ok`), and so does a computation run over a list
(`mapM_eq_ok`, `mapM_isOk`).
-/

set_option autoImplicit false

namespace LittleOrgans.Library.Except

universe u v w

variable {ε : Type u} {α : Type v} {β : Type v}

theorem bind_eq_ok {x : Except ε α} {f : α → Except ε β} {b : β} :
    (x >>= f) = .ok b ↔ ∃ a, x = .ok a ∧ f a = .ok b := by
  cases x with
  | error e =>
      constructor
      · intro h
        cases h
      · rintro ⟨a, ha, -⟩
        cases ha
  | ok a =>
      constructor
      · intro h
        exact ⟨a, rfl, h⟩
      · rintro ⟨a', ha', hf⟩
        cases ha'
        exact hf

variable {γ : Type v}

theorem mapM_eq_ok {f : α → Except ε γ} {as : List α} {bs : List γ} :
    as.mapM f = .ok bs ↔ List.Forall₂ (fun a b => f a = .ok b) as bs := by
  induction as generalizing bs with
  | nil =>
      rw [List.mapM_nil, List.forall₂_nil_left_iff]
      constructor
      · intro h
        cases h
        rfl
      · rintro rfl
        rfl
  | cons a as ih =>
      rw [List.mapM_cons, List.forall₂_cons_left_iff, bind_eq_ok]
      constructor
      · rintro ⟨b, hb, hrest⟩
        obtain ⟨bs', hbs', hpure⟩ := bind_eq_ok.mp hrest
        cases hpure
        exact ⟨b, bs', hb, ih.mp hbs', rfl⟩
      · rintro ⟨b, bs', hb, hbs', rfl⟩
        exact ⟨b, hb, bind_eq_ok.mpr ⟨bs', ih.mpr hbs', rfl⟩⟩

theorem mem_of_mapM_eq_ok {f : α → Except ε γ} {as : List α} {bs : List γ}
    (h : as.mapM f = .ok bs) {b : γ} : b ∈ bs ↔ ∃ a ∈ as, f a = .ok b := by
  induction as generalizing bs with
  | nil =>
      cases h
      simp
  | cons a as ih =>
      obtain ⟨b', bs', hb', hbs', rfl⟩ := List.forall₂_cons_left_iff.mp (mapM_eq_ok.mp h)
      rw [List.mem_cons, List.exists_mem_cons_iff, hb', ih (mapM_eq_ok.mpr hbs')]
      constructor
      · rintro (rfl | hrest)
        · exact .inl rfl
        · exact .inr hrest
      · rintro (hfirst | hrest)
        · cases hfirst
          exact .inl rfl
        · exact .inr hrest

/-- A computation succeeds on a list when it does on each element. -/
theorem mapM_isOk {f : α → Except ε γ} {as : List α} :
    (∃ bs, as.mapM f = .ok bs) ↔ ∀ a ∈ as, ∃ b, f a = .ok b := by
  induction as with
  | nil => exact iff_of_true ⟨[], rfl⟩ fun _ h => absurd h List.not_mem_nil
  | cons a as ih =>
      rw [List.forall_mem_cons, ← ih]
      constructor
      · rintro ⟨bs, h⟩
        obtain ⟨b, bs', hb, hbs', -⟩ := List.forall₂_cons_left_iff.mp (mapM_eq_ok.mp h)
        exact ⟨⟨b, hb⟩, bs', mapM_eq_ok.mpr hbs'⟩
      · rintro ⟨⟨b, hb⟩, bs, hbs⟩
        exact ⟨b :: bs, mapM_eq_ok.mpr (.cons hb (mapM_eq_ok.mp hbs))⟩

end LittleOrgans.Library.Except
