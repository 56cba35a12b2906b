import Mathlib.Logic.Basic

/-!
# Step systems

A state and the actions that change it; an action that cannot happen in a state
gives `none`. `Reaches C` is reachability along runs whose actions all meet the
condition `C` in the states they happen in, and `Reaches.invariant` is its
induction rule. A run given as a list of actions is followed by `follow`.
`follow_filterMap` compares a run with the one in which some of its actions are
replaced and the others left out.
-/

set_option autoImplicit false

namespace LittleOrgans.Library

universe u v

structure StepSystem (State : Type u) (Action : Type v) where
  step : State → Action → Option State

namespace StepSystem

variable {State : Type u} {Action : Type v} {M : StepSystem State Action}

/-- Runs whose actions all meet a condition. -/
inductive Reaches (M : StepSystem State Action) (C : State → Action → Prop) (s₀ : State) :
    State → Prop where
  | refl : Reaches M C s₀ s₀
  | step {s s' : State} {a : Action} (h : Reaches M C s₀ s) (hcond : C s a)
      (hstep : M.step s a = some s') : Reaches M C s₀ s'

/-- Follows a list of actions. -/
def follow (M : StepSystem State Action) : State → List Action → Option State
  | s, [] => some s
  | s, a :: actions => (M.step s a).bind fun s' => M.follow s' actions

section Reaches

variable {C D : State → Action → Prop} {s₀ s s' : State}

/-- What holds at the start and survives each step holds of every reachable state. -/
theorem Reaches.invariant {I : State → Prop} (hstart : I s₀)
    (hstep : ∀ s a s', I s → C s a → M.step s a = some s' → I s') (h : M.Reaches C s₀ s) :
    I s := by
  induction h with
  | refl => exact hstart
  | step _ hcond hnext ih => exact hstep _ _ _ ih hcond hnext

theorem Reaches.mono (hcond : ∀ s a, C s a → D s a) (h : M.Reaches C s₀ s) :
    M.Reaches D s₀ s := by
  induction h with
  | refl => exact .refl
  | step _ hC hnext ih => exact ih.step (hcond _ _ hC) hnext

theorem Reaches.trans (h : M.Reaches C s₀ s) (h' : M.Reaches C s s') : M.Reaches C s₀ s' := by
  induction h' with
  | refl => exact h
  | step _ hcond hnext ih => exact ih.step hcond hnext

theorem reaches_of_follow {actions : List Action} (h : M.follow s₀ actions = some s)
    (hcond : ∀ s, ∀ a ∈ actions, C s a) : M.Reaches C s₀ s := by
  induction actions generalizing s₀ with
  | nil =>
      cases h
      exact .refl
  | cons a actions ih =>
      obtain ⟨s₁, hstep, hrest⟩ := Option.bind_eq_some_iff.mp h
      have hfirst : M.Reaches C s₀ s₁ := .step .refl (hcond _ a List.mem_cons_self) hstep
      exact hfirst.trans (ih hrest fun s b hb => hcond s b (List.mem_cons_of_mem a hb))

theorem follow_append {actions more : List Action} (h : M.follow s₀ actions = some s) :
    M.follow s₀ (actions ++ more) = M.follow s more := by
  induction actions generalizing s₀ with
  | nil =>
      cases h
      rfl
  | cons a actions ih =>
      obtain ⟨s₁, hstep, hrest⟩ := Option.bind_eq_some_iff.mp h
      rw [List.cons_append, follow, hstep, Option.bind_some]
      exact ih hrest

end Reaches

/-! ## Runs with some actions left out -/

/-- Each action of the list meets the condition where it happens. -/
def Meets (M : StepSystem State Action) (C : State → Action → Prop) : State → List Action → Prop
  | _, [] => True
  | s, a :: actions => C s a ∧ ∀ s', M.step s a = some s' → M.Meets C s' actions

instance decidableMeets {C : State → Action → Prop} [∀ s a, Decidable (C s a)] (s : State) :
    (actions : List Action) → Decidable (M.Meets C s actions)
  | [] => isTrue trivial
  | a :: actions =>
      match hstep : M.step s a with
      | none =>
          decidable_of_iff (C s a)
            ⟨fun h => ⟨h, fun s' h' => absurd (hstep.symm.trans h') (Option.some_ne_none s').symm⟩,
              And.left⟩
      | some s' =>
          have : Decidable (M.Meets C s' actions) := decidableMeets s' actions
          decidable_of_iff (C s a ∧ M.Meets C s' actions)
            ⟨fun h => ⟨h.1, fun _ h' => Option.some.inj (hstep.symm.trans h') ▸ h.2⟩,
              fun h => ⟨h.1, h.2 s' hstep⟩⟩

theorem reaches_of_meets {C : State → Action → Prop} {s₀ s : State} {actions : List Action}
    (hmeets : M.Meets C s₀ actions) (h : M.follow s₀ actions = some s) : M.Reaches C s₀ s := by
  induction actions generalizing s₀ with
  | nil =>
      cases h
      exact .refl
  | cons a actions ih =>
      obtain ⟨s₁, hstep, hrest⟩ := Option.bind_eq_some_iff.mp h
      have hfirst : M.Reaches C s₀ s₁ := .step .refl hmeets.1 hstep
      exact hfirst.trans (ih (hmeets.2 s₁ hstep) hrest)

/-- A relation that survives each action, done in both runs or left out in the
second one, relates the ends of the two runs. -/
theorem follow_filterMap {C : State → Action → Prop} {R : State → State → Prop}
    {erase : Action → Option Action}
    (hkept : ∀ {s t s' a b}, R s t → C s a → erase a = some b → M.step s a = some s' →
      ∃ t', M.step t b = some t' ∧ R s' t')
    (hleft : ∀ {s t s' a}, R s t → C s a → erase a = none → M.step s a = some s' → R s' t)
    {s t s' : State} {actions : List Action} (hR : R s t) (hmeets : M.Meets C s actions)
    (h : M.follow s actions = some s') :
    ∃ t', M.follow t (actions.filterMap erase) = some t' ∧ R s' t' := by
  induction actions generalizing s t with
  | nil =>
      cases h
      exact ⟨t, rfl, hR⟩
  | cons a actions ih =>
      obtain ⟨s₁, hstep, hrest⟩ := Option.bind_eq_some_iff.mp h
      have hmeets₁ := hmeets.2 s₁ hstep
      cases herase : erase a with
      | none =>
          rw [List.filterMap_cons_none herase]
          exact ih (hleft hR hmeets.1 herase hstep) hmeets₁ hrest
      | some b =>
          obtain ⟨t₁, hstep', hR₁⟩ := hkept hR hmeets.1 herase hstep
          obtain ⟨t', hrest', hR'⟩ := ih hR₁ hmeets₁ hrest
          refine ⟨t', ?_, hR'⟩
          rw [List.filterMap_cons_some herase, follow, hstep', Option.bind_some]
          exact hrest'

end StepSystem

end LittleOrgans.Library
