import Mathlib.Logic.Basic

/-!
# Computations that change a state and may fail

A method that takes its object by mutable reference and returns early with an
error is an `EStateM` computation: a failure keeps the changes made before it.
A sequence succeeds when both parts do (`run_bind_eq_ok`). `Keeps` says that a
computation leaves a reading of the state alone, whether it succeeds or fails.
-/

set_option autoImplicit false

namespace LittleOrgans.Library.Stateful

universe u

variable {ε σ α β γ : Type u}

/-- The state a computation ends in. -/
def endState : EStateM.Result ε σ α → σ
  | .ok _ s => s
  | .error _ s => s

@[simp]
theorem endState_ok (a : α) (s : σ) : endState (.ok a s : EStateM.Result ε σ α) = s := rfl

@[simp]
theorem endState_error (e : ε) (s : σ) : endState (.error e s : EStateM.Result ε σ α) = s := rfl

theorem run_bind_eq_ok {x : EStateM ε σ α} {f : α → EStateM ε σ β} {s s' : σ} {b : β} :
    (x >>= f).run s = .ok b s' ↔ ∃ a s₁, x.run s = .ok a s₁ ∧ (f a).run s₁ = .ok b s' := by
  rw [EStateM.run_bind]
  cases h : x.run s with
  | ok a s₁ =>
      constructor
      · exact fun hf => ⟨a, s₁, rfl, hf⟩
      · rintro ⟨a', s₁', ha, hf⟩
        cases ha
        exact hf
  | error e s₁ =>
      constructor
      · intro hf
        cases hf
      · rintro ⟨a', s₁', ha, -⟩
        cases ha

/-- The reading `f` is the same before and after. -/
def Keeps (x : EStateM ε σ α) (f : σ → γ) : Prop := ∀ s, f (endState (x.run s)) = f s

section Keeps

variable {x : EStateM ε σ α} {f : σ → γ}

theorem Keeps.of_ok (h : Keeps x f) {s s' : σ} {a : α} (hx : x.run s = .ok a s') :
    f s' = f s := by
  have := h s
  rwa [hx] at this

theorem Keeps.of_error (h : Keeps x f) {s s' : σ} {e : ε} (hx : x.run s = .error e s') :
    f s' = f s := by
  have := h s
  rwa [hx] at this

theorem keeps_pure (a : α) : Keeps (pure a : EStateM ε σ α) f := fun _ => rfl

theorem keeps_get : Keeps (get : EStateM ε σ σ) f := fun _ => rfl

theorem keeps_throw (e : ε) : Keeps (throw e : EStateM ε σ α) f := fun _ => rfl

theorem keeps_modify {g : σ → σ} (h : ∀ s, f (g s) = f s) :
    Keeps (modify g : EStateM ε σ PUnit) f := h

theorem Keeps.bind (hx : Keeps x f) {k : α → EStateM ε σ β} (hk : ∀ a, Keeps (k a) f) :
    Keeps (x >>= k) f := by
  intro s
  rw [EStateM.run_bind]
  cases h : x.run s with
  | ok a s₁ => exact (hk a s₁).trans (hx.of_ok h)
  | error e s₁ => exact hx.of_error h

end Keeps

end LittleOrgans.Library.Stateful
