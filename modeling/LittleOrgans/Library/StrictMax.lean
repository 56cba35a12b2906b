import Mathlib.Data.List.Perm.Basic
import Mathlib.Data.List.Nodup
import Mathlib.Tactic.ByContra

/-!
# The strict maximum of a list in one pass

A pass over a list that keeps the best element so far and fails at an element that
ties with it. What it returns is the strict maximum (`strictMax_eq_ok`), so two
orders of one list never return different elements. But whether it fails depends on
the order: a tie that comes before a better element is fatal, behind it is passed
over. All orders agree exactly where no two elements tie, or there is no strict
maximum (`strictMax_perm_iff`).
-/

set_option autoImplicit false

namespace LittleOrgans.Library

universe u

variable {α : Type u} (f : α → Nat)

/-- The pass, with the best element so far; an error is a tie with it. -/
def strictMax : Option α → List α → Except (α × α) (Option α)
  | best, [] => .ok best
  | none, a :: rest => strictMax (some a) rest
  | some best, a :: rest =>
      if f best < f a then strictMax (some a) rest
      else if f a = f best then .error (best, a)
      else strictMax (some best) rest

/-- Every other element of the list is smaller than `m`. -/
def IsStrictMax (m : α) (xs : List α) : Prop :=
  ∃ others, List.Perm (m :: others) xs ∧ ∀ a ∈ others, f a < f m

variable {f}

theorem IsStrictMax.perm {m : α} {xs ys : List α} (h : IsStrictMax f m xs)
    (hperm : List.Perm xs ys) : IsStrictMax f m ys := by
  obtain ⟨others, hothers, hlt⟩ := h
  exact ⟨others, hothers.trans hperm, hlt⟩

theorem IsStrictMax.mem {m : α} {xs : List α} (h : IsStrictMax f m xs) : m ∈ xs := by
  obtain ⟨others, hothers, -⟩ := h
  exact hothers.mem_iff.mp List.mem_cons_self

/-- Any element is the strict maximum or smaller. -/
theorem IsStrictMax.eq_or_lt {m a : α} {xs : List α} (h : IsStrictMax f m xs) (ha : a ∈ xs) :
    a = m ∨ f a < f m := by
  obtain ⟨others, hothers, hlt⟩ := h
  exact (List.mem_cons.mp (hothers.mem_iff.mpr ha)).imp_right (hlt a)

theorem IsStrictMax.unique {m m' : α} {xs : List α} (h : IsStrictMax f m xs)
    (h' : IsStrictMax f m' xs) : m = m' := by
  rcases h'.eq_or_lt h.mem with heq | hlt
  · exact heq
  · exact ((h.eq_or_lt h'.mem).resolve_right (Nat.lt_asymm hlt)).symm

/-- A pass that has a best element and succeeds returns the strict maximum. -/
theorem strictMax_some_eq_ok {best : α} {xs : List α} {r : Option α}
    (h : strictMax f (some best) xs = .ok r) : ∃ m, r = some m ∧ IsStrictMax f m (best :: xs) := by
  induction xs generalizing best with
  | nil =>
      cases h
      exact ⟨best, rfl, [], List.Perm.refl _, by simp⟩
  | cons a rest ih =>
      rw [strictMax] at h
      split at h
      · next hlt =>
          obtain ⟨m, rfl, hmax⟩ := ih h
          refine ⟨m, rfl, ?_⟩
          obtain ⟨others, hothers, hsmaller⟩ := hmax
          refine ⟨best :: others, ?_, ?_⟩
          · exact (List.Perm.swap best m others).trans (hothers.cons best)
          · rw [List.forall_mem_cons]
            refine ⟨?_, hsmaller⟩
            rcases List.mem_cons.mp (hothers.mem_iff.mpr List.mem_cons_self) with heq | hmem
            · exact heq ▸ hlt
            · exact Nat.lt_trans hlt (hsmaller a hmem)
      · next hle =>
          split at h
          · cases h
          · next hne =>
              obtain ⟨m, rfl, hmax⟩ := ih h
              refine ⟨m, rfl, ?_⟩
              obtain ⟨others, hothers, hsmaller⟩ := hmax
              have ha : f a < f best := Nat.lt_of_le_of_ne (Nat.not_lt.mp hle) hne
              refine ⟨a :: others, ?_, ?_⟩
              · exact ((List.Perm.swap a m others).trans (hothers.cons a)).trans
                  (List.Perm.swap best a rest)
              · rw [List.forall_mem_cons]
                refine ⟨?_, hsmaller⟩
                rcases List.mem_cons.mp (hothers.mem_iff.mpr List.mem_cons_self) with heq | hmem
                · exact heq ▸ ha
                · exact Nat.lt_trans ha (hsmaller best hmem)

/-- What a whole pass returns: nothing of an empty list, else the strict maximum. -/
theorem strictMax_eq_ok {xs : List α} {r : Option α} (h : strictMax f none xs = .ok r) :
    (xs = [] ∧ r = none) ∨ ∃ m, r = some m ∧ IsStrictMax f m xs := by
  cases xs with
  | nil =>
      cases h
      exact .inl ⟨rfl, rfl⟩
  | cons a rest => exact .inr (strictMax_some_eq_ok h)

/-- Behind the strict maximum, nothing is fatal. -/
theorem strictMax_of_lt {m : α} {xs : List α} (h : ∀ a ∈ xs, f a < f m) :
    strictMax f (some m) xs = .ok (some m) := by
  induction xs with
  | nil => rfl
  | cons a rest ih =>
      rw [List.forall_mem_cons] at h
      rw [strictMax, if_neg (Nat.lt_asymm h.1), if_neg (Nat.ne_of_lt h.1), ih h.2]

/-- Without a tie, no order fails. -/
theorem strictMax_of_nodup {best : α} {xs : List α} (h : ((best :: xs).map f).Nodup) :
    ∃ r, strictMax f (some best) xs = .ok r := by
  induction xs generalizing best with
  | nil => exact ⟨some best, rfl⟩
  | cons a rest ih =>
      rw [List.map_cons, List.map_cons, List.nodup_cons, List.mem_cons, not_or] at h
      obtain ⟨⟨hne, hbest⟩, hrest⟩ := h
      rw [strictMax]
      split
      · exact ih hrest
      · rw [if_neg (Ne.symm hne)]
        refine ih ?_
        rw [List.map_cons, List.nodup_cons]
        exact ⟨hbest, (List.nodup_cons.mp hrest).2⟩

/-- Two elements that tie can be put first. -/
theorem exists_perm_tie {xs : List α} (h : ¬(xs.map f).Nodup) :
    ∃ a b rest, List.Perm (a :: b :: rest) xs ∧ f b = f a := by
  induction xs with
  | nil => exact absurd List.nodup_nil h
  | cons x xs ih =>
      rw [List.map_cons, List.nodup_cons, not_and_or, not_not] at h
      rcases h with hmem | hrest
      · obtain ⟨b, hb, heq⟩ := List.mem_map.mp hmem
        obtain ⟨front, back, rfl⟩ := List.append_of_mem hb
        exact ⟨x, b, front ++ back, List.perm_middle.symm.cons x, heq⟩
      · obtain ⟨a, b, rest, hperm, heq⟩ := ih hrest
        refine ⟨a, b, x :: rest, ?_, heq⟩
        exact (((List.Perm.swap x b rest).cons a).trans (List.Perm.swap x a _)).trans
          (hperm.cons x)

/-- There a tie is fatal. -/
theorem strictMax_of_tie {a b : α} (h : f b = f a) (rest : List α) :
    strictMax f none (a :: b :: rest) = .error (a, b) := by
  rw [strictMax, strictMax, if_neg (Nat.not_lt.mpr (Nat.le_of_eq h)), if_pos h]

/-- Two outcomes of the pass agree: both fail, or both return the same. -/
def SameOutcome (r r' : Except (α × α) (Option α)) : Prop :=
  (∃ tie tie', r = .error tie ∧ r' = .error tie') ∨ ∃ m, r = .ok m ∧ r' = .ok m

/-- Orders that both succeed return the same. -/
theorem strictMax_perm {xs ys : List α} {r r' : Option α} (hperm : List.Perm xs ys)
    (h : strictMax f none xs = .ok r) (h' : strictMax f none ys = .ok r') : r = r' := by
  rcases strictMax_eq_ok h with ⟨rfl, rfl⟩ | ⟨m, rfl, hmax⟩
  · rw [hperm.nil_eq.symm] at h'
    exact Except.ok.inj h'
  · rcases strictMax_eq_ok h' with ⟨rfl, rfl⟩ | ⟨m', rfl, hmax'⟩
    · rw [hperm.eq_nil] at hmax
      exact absurd hmax.mem List.not_mem_nil
    · rw [(hmax.perm hperm).unique hmax']

/-- Where no two elements tie, or none is the strict maximum, an order succeeds if
another does. -/
theorem exists_strictMax_ok {xs ys zs : List α} {r : Option α}
    (hcond : (xs.map f).Nodup ∨ ¬∃ m, IsStrictMax f m xs) (hys : List.Perm ys xs)
    (hzs : List.Perm zs xs) (h : strictMax f none ys = .ok r) :
    ∃ r', strictMax f none zs = .ok r' := by
  rcases hcond with hnodup | hmax
  · have hnodup := ((hzs.map f).nodup_iff).mpr hnodup
    cases zs with
    | nil => exact ⟨none, rfl⟩
    | cons a rest => exact strictMax_of_nodup hnodup
  · rcases strictMax_eq_ok h with ⟨rfl, -⟩ | ⟨m, -, hm⟩
    · rw [(hys.trans hzs.symm).nil_eq.symm]
      exact ⟨none, rfl⟩
    · exact absurd ⟨m, hm.perm hys⟩ hmax

/-- All orders of a list have the same outcome exactly where no two elements tie,
or none is the strict maximum. -/
theorem strictMax_perm_iff {xs : List α} :
    (∀ ys zs, List.Perm ys xs → List.Perm zs xs →
        SameOutcome (strictMax f none ys) (strictMax f none zs)) ↔
      (xs.map f).Nodup ∨ ¬∃ m, IsStrictMax f m xs := by
  constructor
  · intro h
    by_contra hcond
    rw [not_or, not_not] at hcond
    obtain ⟨htie, m, others, hothers, hlt⟩ := hcond
    obtain ⟨a, b, rest, hperm, heq⟩ := exists_perm_tie htie
    rcases h _ _ hothers hperm with ⟨tie, tie', hfail, -⟩ | ⟨r, -, hok⟩
    · rw [strictMax, strictMax_of_lt hlt] at hfail
      cases hfail
    · rw [strictMax_of_tie heq] at hok
      cases hok
  · intro hcond ys zs hys hzs
    cases hy : strictMax f none ys with
    | error tie =>
        cases hz : strictMax f none zs with
        | error tie' => exact .inl ⟨tie, tie', rfl, rfl⟩
        | ok r =>
            obtain ⟨r', hr'⟩ := exists_strictMax_ok hcond hzs hys hz
            rw [hy] at hr'
            cases hr'
    | ok r =>
        obtain ⟨r', hz⟩ := exists_strictMax_ok hcond hys hzs hy
        have heq := strictMax_perm (hys.trans hzs.symm) hy hz
        exact .inr ⟨r, rfl, heq ▸ hz⟩

/-! ## Lists without a strict maximum -/

theorem exists_max {xs : List α} (h : xs ≠ []) : ∃ m ∈ xs, ∀ a ∈ xs, f a ≤ f m := by
  induction xs with
  | nil => exact absurd rfl h
  | cons x xs ih =>
      by_cases hnil : xs = []
      · subst hnil
        exact ⟨x, List.mem_cons_self, by simp⟩
      · obtain ⟨m, hm, hmax⟩ := ih hnil
        by_cases hle : f x ≤ f m
        · refine ⟨m, List.mem_cons_of_mem x hm, ?_⟩
          rw [List.forall_mem_cons]
          exact ⟨hle, hmax⟩
        · have hlt := Nat.lt_of_not_le hle
          refine ⟨x, List.mem_cons_self, ?_⟩
          rw [List.forall_mem_cons]
          exact ⟨Nat.le_refl _, fun a ha => Nat.le_of_lt (Nat.lt_of_le_of_lt (hmax a ha) hlt)⟩

/-- No element is the strict maximum exactly where the greatest value is taken twice. -/
theorem not_exists_isStrictMax_iff {xs : List α} (h : xs ≠ []) :
    (¬∃ m, IsStrictMax f m xs) ↔
      ∃ value ∈ xs.map f, (∀ other ∈ xs.map f, other ≤ value) ∧ 2 ≤ (xs.map f).count value := by
  constructor
  · intro hmax
    obtain ⟨m, hm, hle⟩ := exists_max h
    refine ⟨f m, List.mem_map_of_mem hm, ?_, ?_⟩
    · intro other hother
      obtain ⟨a, ha, rfl⟩ := List.mem_map.mp hother
      exact hle a ha
    · obtain ⟨front, back, rfl⟩ := List.append_of_mem hm
      have hperm : List.Perm (m :: (front ++ back)) (front ++ m :: back) :=
        List.perm_middle.symm
      by_contra hcount
      refine hmax ⟨m, front ++ back, hperm, fun a ha => ?_⟩
      refine Nat.lt_of_le_of_ne (hle a (hperm.mem_iff.mp (List.mem_cons_of_mem m ha))) ?_
      intro heq
      have hmem : f m ∈ (front ++ back).map f := heq ▸ List.mem_map_of_mem ha
      rw [← (hperm.map f).count_eq, List.map_cons, List.count_cons_self] at hcount
      have hpos := List.count_pos_iff.mpr hmem
      omega
  · rintro ⟨value, hvalue, hle, hcount⟩ ⟨m, others, hothers, hlt⟩
    have hm : f m ≤ value :=
      hle _ (List.mem_map_of_mem (hothers.mem_iff.mp List.mem_cons_self))
    rw [← (hothers.map f).count_eq, List.map_cons] at hcount
    have hzero : (others.map f).count value = 0 := by
      rw [List.count_eq_zero]
      intro hmem
      obtain ⟨a, ha, heq⟩ := List.mem_map.mp hmem
      have halt := hlt a ha
      omega
    rw [List.count_cons, hzero] at hcount
    split at hcount <;> omega

end LittleOrgans.Library
