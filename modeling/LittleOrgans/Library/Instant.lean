import Mathlib.Logic.Basic

/-!
# Instants and durations

Points of a monotonic clock, in nanoseconds from its origin. The clock has a last instant,
which depends on the platform; adding a duration that would leave its range panics.
-/

set_option autoImplicit false

namespace LittleOrgans.Library

universe u

/-- What a computation that may panic comes to. -/
inductive Outcome (α : Type u) where
  | returned (value : α)
  | panicked
  deriving DecidableEq

/-- A duration, in nanoseconds. -/
abbrev Duration := Nat

def Duration.fromSecs (secs : Nat) : Duration := 1000000000 * secs

def Duration.fromMillis (millis : Nat) : Duration := 1000000 * millis

/-- An instant of a clock with this last one. -/
structure Instant (last : Nat) where
  nanos : Nat
  le_last : nanos ≤ last
  deriving DecidableEq

namespace Instant

variable {last : Nat}

/-- `instant + duration`. -/
def add (instant : Instant last) (duration : Duration) : Outcome (Instant last) :=
  if h : instant.nanos + duration ≤ last then .returned ⟨instant.nanos + duration, h⟩
  else .panicked

theorem add_of_le {instant : Instant last} {duration : Duration}
    (h : instant.nanos + duration ≤ last) :
    instant.add duration = .returned ⟨instant.nanos + duration, h⟩ := dif_pos h

theorem nanos_of_add {instant next : Instant last} {duration : Duration}
    (h : instant.add duration = .returned next) : next.nanos = instant.nanos + duration := by
  rw [add] at h
  split at h
  · cases h
    rfl
  · cases h

@[simp]
theorem add_eq_panicked {instant : Instant last} {duration : Duration} :
    instant.add duration = .panicked ↔ last < instant.nanos + duration := by
  rw [add]
  split <;> simp <;> omega

theorem add_zero (instant : Instant last) : instant.add 0 = .returned instant :=
  dif_pos instant.le_last

end Instant

end LittleOrgans.Library
