import LittleOrgans.Library.Instant
import LittleOrgans.Library.Numbers
import Mathlib.Order.Bounds.Basic
import Mathlib.Tactic.Ring

/-!
# The deadlines of the reconciler

`ReconcileConfig::from_env` and the deadlines of `run_periodic_with_config`. The loop of
`advance_deadline` is run with fuel; `none` says that the fuel did not suffice.

`advanceDeadline_iff` says when the loop ends at the first tick that lies ahead: the interval
is positive, the deadline is due and the clock can represent that tick. The environment may
set the interval to zero; then the loop does not end on a due deadline (`spins_of_zero`).
-/

set_option autoImplicit false

namespace LittleOrgans.Runtime

open LittleOrgans.Library

/-! ## Configuration -/

/-- `PROBE_SWEEP_INTERVAL`. -/
def probeSweepInterval : Duration := .fromSecs 30

/-- `RESUME_POLL_INTERVAL`. -/
def resumePollInterval : Duration := .fromSecs 1

/-- `RESUME_GAP_THRESHOLD`, in milliseconds. -/
def resumeGapThreshold : Int := 3000

/-- `duration_env`; `value` is the variable as a text, if it is set. -/
def durationEnv (name : String) (value : Option (List Char)) (default : Duration) :
    Except String Duration :=
  match value with
  | none => .ok default
  | some value =>
      match parseUnsigned u64Max value with
      | .ok millis => .ok (.fromMillis millis)
      | .error error => .error (name ++ " must be milliseconds: " ++ error.text)

/-- `chrono_duration_env`, in milliseconds; `chrono` refuses the least `i64`. -/
def chronoDurationEnv (name : String) (value : Option (List Char)) (default : Int) :
    Except String Int :=
  match value with
  | none => .ok default
  | some value =>
      match parseSigned i64Max value with
      | .ok millis =>
          if millis < -(i64Max : Int) then .error "TimeDelta::milliseconds out of bounds"
          else .ok millis
      | .error error => .error (name ++ " must be milliseconds: " ++ error.text)

structure ReconcileConfig where
  sweepInterval : Duration
  resumePollInterval : Duration
  resumeGapThreshold : Int
  deriving DecidableEq

/-- `ReconcileConfig::from_env`. -/
def ReconcileConfig.fromEnv (vars : String → Option (List Char)) :
    Except String ReconcileConfig := do
  let sweep ← durationEnv "LILO_PROBE_SWEEP_INTERVAL_MS" (vars "LILO_PROBE_SWEEP_INTERVAL_MS")
    probeSweepInterval
  let poll ← durationEnv "LILO_RESUME_POLL_INTERVAL_MS" (vars "LILO_RESUME_POLL_INTERVAL_MS")
    Runtime.resumePollInterval
  let gap ← chronoDurationEnv "LILO_RESUME_GAP_THRESHOLD_MS" (vars "LILO_RESUME_GAP_THRESHOLD_MS")
    Runtime.resumeGapThreshold
  pure ⟨sweep, poll, gap⟩

/-! ## Advancing the deadline -/

section

variable {last : Nat}

/-- The loop of `advance_deadline`, with fuel. -/
def advanceLoop (interval : Duration) (now : Instant last) :
    Nat → Instant last → Option (Outcome (Instant last))
  | 0, _ => none
  | fuel + 1, deadline =>
      if deadline.nanos ≤ now.nanos then
        match deadline.add interval with
        | .returned next => advanceLoop interval now fuel next
        | .panicked => some .panicked
      else some (.returned deadline)

/-- `advance_deadline`, with fuel. -/
def advanceDeadline (fuel : Nat) (deadline : Instant last) (interval : Duration)
    (now : Instant last) : Option (Outcome (Instant last)) :=
  match deadline.add interval with
  | .returned next => advanceLoop interval now fuel next
  | .panicked => some .panicked

/-- The deadline after a round of `run_periodic_with_config` that woke up at `now`: a due
deadline is advanced, a resumed machine is swept at once and starts a new interval. -/
def deadlineAfterRound (fuel : Nat) (config : ReconcileConfig) (deadline now : Instant last)
    (resumed : Bool) : Option (Outcome (Instant last)) :=
  if deadline.nanos ≤ now.nanos then advanceDeadline fuel deadline config.sweepInterval now
  else if resumed then some (now.add config.sweepInterval)
  else some (.returned deadline)

/-- The ticks after a time: whole intervals from the deadline. -/
def ticksAfter (deadline interval now : Nat) : Set Nat :=
  {time | ∃ k : Nat, time = deadline + k * interval ∧ now < time}

/-- The call ends and returns the first tick after now. -/
def AdvancesToFirstTick (deadline : Instant last) (interval : Duration) (now : Instant last) :
    Prop :=
  ∃ fuel next, advanceDeadline fuel deadline interval now = some (.returned next) ∧
    IsLeast (ticksAfter deadline.nanos interval now.nanos) next.nanos

variable {interval : Duration} {now : Instant last}

/-- Every returned deadline is a whole number of intervals ahead. -/
theorem advanceLoop_returned {fuel : Nat} {deadline next : Instant last}
    (h : advanceLoop interval now fuel deadline = some (.returned next)) :
    ∃ k : Nat, next.nanos = deadline.nanos + k * interval ∧ now.nanos < next.nanos ∧
      ∀ i < k, deadline.nanos + i * interval ≤ now.nanos := by
  induction fuel generalizing deadline with
  | zero => cases h
  | succ fuel ih =>
      rw [advanceLoop] at h
      split at h
      · next hdue =>
          split at h
          · next later hadd =>
              obtain ⟨k, hnext, hnow, hbefore⟩ := ih h
              rw [Instant.nanos_of_add hadd] at hnext hbefore
              refine ⟨k + 1, by rw [hnext]; ring, hnow, fun i hi => ?_⟩
              cases i with
              | zero => simpa using hdue
              | succ i =>
                  have := hbefore i (Nat.lt_of_succ_lt_succ hi)
                  rw [Nat.succ_mul]
                  omega
          · cases h
      · next hahead =>
          cases h
          exact ⟨0, by simp, by omega, fun i hi => absurd hi (Nat.not_lt_zero i)⟩

/-- With enough fuel the loop ends at the tick after `k` due ones. -/
theorem advanceLoop_of_due {k : Nat} {deadline : Instant last}
    (hdue : ∀ i < k, deadline.nanos + i * interval ≤ now.nanos)
    (hahead : now.nanos < deadline.nanos + k * interval)
    (hlast : deadline.nanos + k * interval ≤ last) :
    advanceLoop interval now (k + 1) deadline =
      some (.returned ⟨deadline.nanos + k * interval, hlast⟩) := by
  induction k generalizing deadline with
  | zero =>
      have hnow : ¬deadline.nanos ≤ now.nanos := by
        rw [Nat.zero_mul] at hahead
        omega
      rw [advanceLoop, if_neg hnow]
      simp
  | succ k ih =>
      have hfirst : deadline.nanos ≤ now.nanos := by simpa using hdue 0 (Nat.succ_pos k)
      have hadd : deadline.nanos + interval ≤ last := by
        rw [Nat.succ_mul] at hlast
        omega
      have hshift : ∀ i : Nat, deadline.nanos + interval + i * interval =
          deadline.nanos + (i + 1) * interval := fun i => by ring
      rw [advanceLoop, if_pos hfirst, Instant.add_of_le hadd]
      have hrest := @ih ⟨deadline.nanos + interval, hadd⟩
        (fun i hi => by
          show deadline.nanos + interval + i * interval ≤ now.nanos
          rw [hshift]
          exact hdue (i + 1) (Nat.succ_lt_succ hi))
        (by simpa only [hshift] using hahead) (by simpa only [hshift] using hlast)
      simpa only [hshift] using hrest

/-- The number of intervals to the first tick after now, from a due deadline. -/
theorem exists_first_tick {deadline : Nat} (hinterval : 0 < interval)
    (hdue : deadline ≤ now.nanos) :
    ∃ k, now.nanos < deadline + (k + 1) * interval ∧
      ∀ i ≤ k, deadline + i * interval ≤ now.nanos := by
  refine ⟨(now.nanos - deadline) / interval, ?_, fun i hi => ?_⟩
  · have := Nat.lt_div_mul_add hinterval (a := now.nanos - deadline)
    rw [Nat.succ_mul]
    omega
  · have hmul : i * interval ≤ (now.nanos - deadline) / interval * interval :=
      Nat.mul_le_mul_right interval hi
    have := Nat.div_mul_le_self (now.nanos - deadline) interval
    omega

/-- A due deadline advances when some tick ahead is in the range of the clock. -/
theorem advancesToFirstTick_of_due {deadline : Instant last} (hpos : 0 < interval)
    (hdue : deadline.nanos ≤ now.nanos) {j : Nat} (hj : now.nanos < deadline.nanos + j * interval)
    (hlast : deadline.nanos + j * interval ≤ last) :
    AdvancesToFirstTick deadline interval now := by
  obtain ⟨k, hahead, hbefore⟩ := exists_first_tick hpos hdue
  have hkj : k + 1 ≤ j := by
    by_contra hlt
    have := hbefore j (by omega)
    omega
  have hmul : (k + 1) * interval ≤ j * interval := Nat.mul_le_mul_right interval hkj
  have hfirst : deadline.nanos + (k + 1) * interval ≤ last := by omega
  have hadd : deadline.nanos + interval ≤ last := by
    rw [Nat.succ_mul] at hfirst
    omega
  have hshift : ∀ i : Nat, deadline.nanos + interval + i * interval =
      deadline.nanos + (i + 1) * interval := fun i => by ring
  have hrun := @advanceLoop_of_due last interval now k ⟨deadline.nanos + interval, hadd⟩
    (fun i hi => by
      show deadline.nanos + interval + i * interval ≤ now.nanos
      rw [hshift]
      exact hbefore (i + 1) hi)
    (by simpa only [hshift] using hahead) (by simpa only [hshift] using hfirst)
  refine ⟨k + 1, ⟨deadline.nanos + (k + 1) * interval, hfirst⟩, ?_, ⟨k + 1, rfl, hahead⟩, ?_⟩
  · rw [advanceDeadline, Instant.add_of_le hadd]
    simpa only [hshift] using hrun
  · rintro time ⟨i, rfl, htime⟩
    have hki : k + 1 ≤ i := by
      by_contra hlt
      have := hbefore i (by omega)
      omega
    have := Nat.mul_le_mul_right interval hki
    show deadline.nanos + (k + 1) * interval ≤ deadline.nanos + i * interval
    omega

/-- With a zero interval a due deadline stays due. -/
theorem spins_of_zero {deadline : Instant last} (hdue : deadline.nanos ≤ now.nanos) (fuel : Nat) :
    advanceDeadline fuel deadline 0 now = none := by
  have hloop : advanceLoop 0 now fuel deadline = none := by
    induction fuel with
    | zero => rfl
    | succ fuel ih => rw [advanceLoop, if_pos hdue, Instant.add_zero]; exact ih
  rw [advanceDeadline, Instant.add_zero]
  exact hloop

/-- The deadline advances to the first tick after now exactly when the interval is positive,
the deadline is due and the tick is in the range of the clock, or when the interval is zero
and the deadline lies ahead. -/
theorem advanceDeadline_iff (config : ReconcileConfig) (deadline now : Instant last) :
    AdvancesToFirstTick deadline config.sweepInterval now ↔
      (0 < config.sweepInterval ∧ deadline.nanos ≤ now.nanos ∧
          ∃ k, now.nanos < deadline.nanos + k * config.sweepInterval ∧
            deadline.nanos + k * config.sweepInterval ≤ last) ∨
        (config.sweepInterval = 0 ∧ now.nanos < deadline.nanos) := by
  generalize config.sweepInterval = interval
  constructor
  · rintro ⟨fuel, next, hrun, hmem, hleast⟩
    obtain ⟨k, hnext, hnow⟩ := hmem
    rcases Nat.eq_zero_or_pos interval with rfl | hpos
    · refine .inr ⟨rfl, ?_⟩
      rw [hnext] at hnow
      simpa using hnow
    · by_cases hdue : deadline.nanos ≤ now.nanos
      · exact .inl ⟨hpos, hdue, k, by omega, by rw [← hnext]; exact next.le_last⟩
      · -- the call skips a deadline that lies ahead
        have hfirst : next.nanos ≤ deadline.nanos := hleast ⟨0, by simp, by omega⟩
        rw [advanceDeadline] at hrun
        split at hrun
        · next later hadd =>
            obtain ⟨i, hi, -, -⟩ := advanceLoop_returned hrun
            rw [hi, Instant.nanos_of_add hadd] at hfirst
            exact absurd hfirst (by omega)
        · cases hrun
  · rintro (⟨hpos, hdue, j, hj, hlast⟩ | ⟨rfl, hahead⟩)
    · exact advancesToFirstTick_of_due hpos hdue hj hlast
    · refine ⟨1, deadline, ?_, ⟨0, by simp, hahead⟩, ?_⟩
      · rw [advanceDeadline, Instant.add_zero]
        exact if_neg (by omega)
      · rintro time ⟨i, rfl, -⟩
        exact Nat.le_add_right _ _

/-- With a positive interval that the clock can represent, every round ends with a deadline
ahead, and a due deadline is advanced to the first tick that is not due. -/
theorem deadlineAfterRound_ahead {config : ReconcileConfig} {deadline now : Instant last}
    (hpos : 0 < config.sweepInterval) (hlast : now.nanos + config.sweepInterval ≤ last)
    (resumed : Bool) :
    ∃ fuel next, deadlineAfterRound fuel config deadline now resumed = some (.returned next) ∧
      now.nanos < next.nanos ∧
      (deadline.nanos ≤ now.nanos →
        IsLeast (ticksAfter deadline.nanos config.sweepInterval now.nanos) next.nanos) := by
  by_cases hdue : deadline.nanos ≤ now.nanos
  · obtain ⟨k, hahead, hbefore⟩ := exists_first_tick hpos hdue
    have hlate := hbefore k (Nat.le_refl k)
    obtain ⟨fuel, next, hrun, hleast⟩ := advancesToFirstTick_of_due hpos hdue hahead
      (by rw [Nat.succ_mul]; omega)
    refine ⟨fuel, next, by rw [deadlineAfterRound, if_pos hdue]; exact hrun, ?_, fun _ => hleast⟩
    obtain ⟨-, -, hnow⟩ := hleast.1
    exact hnow
  · rcases resumed with _ | _
    · exact ⟨0, deadline, by simp [deadlineAfterRound, hdue], by omega, fun h => absurd h hdue⟩
    · refine ⟨0, ⟨now.nanos + config.sweepInterval, hlast⟩, ?_, by simpa using hpos,
        fun h => absurd h hdue⟩
      rw [deadlineAfterRound, if_neg hdue, Instant.add_of_le hlast]
      rfl

end

/-- The environment sets the interval to zero, and the loop goes on forever. -/
theorem advanceDeadline_zero_interval :
    ∃ config : ReconcileConfig,
      ReconcileConfig.fromEnv (fun name =>
        if name = "LILO_PROBE_SWEEP_INTERVAL_MS" then some "0".toList else none) = .ok config ∧
      (∀ fuel, advanceDeadline fuel (⟨5, by decide⟩ : Instant 100) config.sweepInterval
        ⟨7, by decide⟩ = none) ∧
      ¬AdvancesToFirstTick (⟨5, by decide⟩ : Instant 100) config.sweepInterval ⟨7, by decide⟩ := by
  have hspins : ∀ fuel, advanceDeadline fuel (⟨5, by decide⟩ : Instant 100) 0 ⟨7, by decide⟩ =
      none := fun fuel => spins_of_zero (by decide) fuel
  refine ⟨⟨0, resumePollInterval, resumeGapThreshold⟩, rfl, hspins, ?_⟩
  rintro ⟨fuel, next, hrun, -⟩
  rw [hspins fuel] at hrun
  cases hrun

end LittleOrgans.Runtime
