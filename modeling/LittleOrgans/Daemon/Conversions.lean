import LittleOrgans.Store.Lifecycles

/-!
# Lifecycles as events and exits

The runtime state of a session reaches the session daemon in three shapes: as a
runtime event (`event_channel.rs`), as a child exit (`conv.rs`) and as the
lifecycle itself. This module translates between them. `terminalChildExit`
reports a lost lifecycle as an exit without a code: the evidence of the loss does
not reach the child exit.
-/

set_option autoImplicit false

namespace LittleOrgans.Daemon

open LittleOrgans.Core
open LittleOrgans.Store

/-- An exit the driver reports to the session daemon. -/
structure ChildExit where
  sessionId : SessionId
  runtimePid : Pid
  exitCode : Option Int
  transcriptPath : Option String
  deriving DecidableEq

/-- The exit of a terminal lifecycle. -/
def terminalChildExit (lc : Lifecycle) : Option ChildExit :=
  let exit (exitCode : Option Int) : ChildExit :=
    { sessionId := lc.sessionId
      runtimePid := lc.runtimePid.getD 0
      exitCode := exitCode
      transcriptPath := lc.transcriptPath }
  match lc.state with
  | .forking => none
  | .running => none
  | .exited runtimeExit => some (exit runtimeExit.code)
  | .lost _ => some (exit none)

/-- `event_channel::running_event`. -/
def runningEvent (lc : Lifecycle) : Except DaemonError RuntimeEvent :=
  match lc.runtimePid with
  | none => .error (.io "running lifecycle missing runtime pid")
  | some runtimePid =>
      match lc.startTime with
      | none => .error (.io "running lifecycle missing start time")
      | some startTime => .ok (.running lc.sessionId runtimePid startTime)

/-- `event_channel::terminated_event`. -/
def terminatedEvent (lc : Lifecycle) (evidence : TerminationEvidence) : RuntimeEvent :=
  match lc.state with
  | .exited exit => .terminated lc.sessionId exit.code exit.signal evidence
  | _ => .terminated lc.sessionId none none evidence

/-- `event_channel::lost_event`. -/
def lostEvent (lc : Lifecycle) (evidence : LostEvidence) : RuntimeEvent :=
  .lost lc.sessionId evidence

/-- The event `finish_terminal` appends for its evidence. -/
def terminalEvent (lc : Lifecycle) : TerminationEvidence → RuntimeEvent
  | .lost lost => lostEvent lc lost
  | .shimExit => terminatedEvent lc .shimExit
  | .processExit => terminatedEvent lc .processExit

/-- The running event of the session daemon; a missing start time is replaced by
the time of the call. -/
def runningEventFromLifecycle (lc : Lifecycle) (now : DateTime) :
    Except DaemonError RuntimeEvent :=
  if lc.state ≠ .running then .error (.io "lifecycle is not running")
  else
    match lc.runtimePid with
    | none => .error (.io "running lifecycle missing runtime pid")
    | some runtimePid => .ok (.running lc.sessionId runtimePid (lc.startTime.getD now))

theorem terminalChildExit_eq_some {lc : Lifecycle} {exit : ChildExit}
    (h : terminalChildExit lc = some exit) :
    exit.sessionId = lc.sessionId ∧ lc.state.isTerminal = true := by
  rw [terminalChildExit] at h
  cases hstate : lc.state with
  | forking => simp [hstate] at h
  | running => simp [hstate] at h
  | exited runtimeExit =>
      rw [hstate] at h
      cases h
      exact ⟨rfl, rfl⟩
  | lost evidence =>
      rw [hstate] at h
      cases h
      exact ⟨rfl, rfl⟩

theorem terminalChildExit_eq_none_iff {lc : Lifecycle} :
    terminalChildExit lc = none ↔ lc.state.isTerminal = false := by
  rw [terminalChildExit]
  cases lc.state with
  | forking => simp [LifecycleState.isTerminal, LifecycleState.terminalKind]
  | running => simp [LifecycleState.isTerminal, LifecycleState.terminalKind]
  | exited runtimeExit => simp [LifecycleState.isTerminal, LifecycleState.terminalKind]
  | lost evidence => simp [LifecycleState.isTerminal, LifecycleState.terminalKind]

@[simp]
theorem sessionId_terminatedEvent (lc : Lifecycle) (evidence : TerminationEvidence) :
    (terminatedEvent lc evidence).sessionId = lc.sessionId := by
  rw [terminatedEvent]
  split <;> rfl

@[simp]
theorem sessionId_terminalEvent (lc : Lifecycle) (evidence : TerminationEvidence) :
    (terminalEvent lc evidence).sessionId = lc.sessionId := by
  cases evidence with
  | shimExit => exact sessionId_terminatedEvent lc _
  | processExit => exact sessionId_terminatedEvent lc _
  | lost lost => rfl

@[simp]
theorem isTerminal_terminalEvent (lc : Lifecycle) (evidence : TerminationEvidence) :
    (terminalEvent lc evidence).isTerminal = true := by
  have hterminated : ∀ evidence, (terminatedEvent lc evidence).isTerminal = true := by
    intro evidence
    rw [terminatedEvent]
    split <;> rfl
  cases evidence with
  | shimExit => exact hterminated _
  | processExit => exact hterminated _
  | lost lost => rfl

end LittleOrgans.Daemon
