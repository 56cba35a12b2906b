import Mathlib.Logic.Basic

/-!
# Runtime lifecycles

The data model of `lilo-rm-core`: session ids, isolation policies, spawn
requests, runtime lifecycles and runtime events. `markRunning`, `markExited` and
`markLost` are the three guarded transitions; a `&mut self` method that returns
a flag becomes a function that returns the flag and the new value. Their
inversion lemmas (`markRunning_eq_true`, `markExited_eq_true`,
`markLost_eq_true`) say that a transition that reports success left a state that
was not terminal.
-/

set_option autoImplicit false

namespace LittleOrgans.Core

/-- Wall-clock time, in microseconds since the epoch. -/
abbrev DateTime := Int

/-- Operating-system process id. -/
abbrev Pid := Nat

/-- A session id is a UUID. -/
structure SessionId where
  uuid : BitVec 128
  deriving DecidableEq, Inhabited

/-- Operation id of a spawn intent, a UUID. -/
structure IntentId where
  uuid : BitVec 128
  deriving DecidableEq, Inhabited

/-- Runtime kinds of the runtime daemon. -/
inductive RuntimeKind where
  | claude
  | codex
  | other (name : String)
  deriving DecidableEq, Inhabited

/-- A pane of tmux. -/
structure TmuxAddress where
  session : String
  window : Nat
  pane : Nat
  deriving DecidableEq

/-- Rendering as `session:window.pane`. -/
def TmuxAddress.toString (address : TmuxAddress) : String :=
  address.session ++ ":" ++ address.window.repr ++ "." ++ address.pane.repr

/-- A profile of Docker isolation. -/
structure IsolationProfile where
  name : Option String
  deriving DecidableEq

/-- How a runtime is isolated from the host. -/
inductive IsolationPolicy where
  | host
  | docker (profile : IsolationProfile)
  deriving DecidableEq, Inhabited

/-- Where a runtime is started. -/
inductive SpawnTarget where
  | tmux (address : TmuxAddress)
  | headless
  deriving DecidableEq

/-- The pane of a target. -/
def SpawnTarget.tmuxAddress : SpawnTarget → Option TmuxAddress
  | .tmux address => some address
  | .headless => none

/-- The fields of a runtime spawn request that the spawn path branches on. -/
structure RuntimeSpawnRequest where
  sessionId : SessionId
  runtime : RuntimeKind
  isolation : IsolationPolicy
  target : SpawnTarget
  force : Bool
  deriving DecidableEq

/-- How a process ended. -/
structure RuntimeExit where
  code : Option Int
  signal : Option Int
  deriving DecidableEq

/-- Why the runtime daemon believes a runtime process is gone. -/
inductive LostEvidence where
  | shimDiedBeforeReport
  | pidNotAlive
  | pidReuseDetected
  | unknown
  deriving DecidableEq

/-- All evidence of a loss, in the order of the source. -/
def LostEvidence.ALL : List LostEvidence :=
  [.shimDiedBeforeReport, .pidNotAlive, .pidReuseDetected, .unknown]

/-- The text of durable records, which is that of serde too. -/
def LostEvidence.asStr : LostEvidence → String
  | .shimDiedBeforeReport => "shim_died_before_report"
  | .pidNotAlive => "pid_not_alive"
  | .pidReuseDetected => "pid_reuse_detected"
  | .unknown => "unknown"

/-- A text that is not known is read as `unknown`. -/
def LostEvidence.fromText (text : String) : LostEvidence :=
  (ALL.find? fun evidence => evidence.asStr = text).getD .unknown

/-- Where a runtime is between its spawn and its end. -/
inductive LifecycleState where
  | forking
  | running
  | exited (exit : RuntimeExit)
  | lost (evidence : LostEvidence)
  deriving DecidableEq

/-- Where the output of a runtime can be found. -/
inductive LogAvailability where
  | headless (stdoutPath : String) (stderrPath : String)
  | tmuxPaneSnapshot
  | unavailable
  deriving DecidableEq

/-- A runtime session, as the runtime daemon keeps it. -/
structure Lifecycle where
  sessionId : SessionId
  runtime : RuntimeKind
  isolation : IsolationPolicy
  state : LifecycleState
  shimPid : Option Pid
  runtimePid : Option Pid
  startTime : Option DateTime
  tmuxPane : Option TmuxAddress
  logAvailability : Option LogAvailability
  deriving DecidableEq

/-- The report a shim sends once its runtime child runs. -/
structure ShimReady where
  sessionId : SessionId
  shimPid : Pid
  runtimePid : Pid
  startTime : DateTime
  tmuxPane : Option TmuxAddress
  deriving DecidableEq

/-- The report a shim sends once its runtime child has exited. -/
structure ShimExit where
  sessionId : SessionId
  exit : RuntimeExit
  deriving DecidableEq

/-- From what an end is known. -/
inductive TerminationEvidence where
  | shimExit
  | processExit
  | lost (evidence : LostEvidence)
  deriving DecidableEq

/-- The events of the runtime event log. -/
inductive RuntimeEvent where
  | running (sessionId : SessionId) (runtimePid : Pid) (startTime : DateTime)
  | terminated (sessionId : SessionId) (exitCode : Option Int) (signal : Option Int)
      (evidence : TerminationEvidence)
  | lost (sessionId : SessionId) (evidence : LostEvidence)
  deriving DecidableEq

/-- Session an event is about. -/
def RuntimeEvent.sessionId : RuntimeEvent → SessionId
  | .running id _ _ => id
  | .terminated id _ _ _ => id
  | .lost id _ => id

/-- Events that report the end of a runtime. -/
def RuntimeEvent.isTerminal : RuntimeEvent → Bool
  | .running _ _ _ => false
  | .terminated _ _ _ _ => true
  | .lost _ _ => true

/-! ## Terminal states -/

/-- The two ways a lifecycle ends. -/
inductive TerminalKind where
  | exited
  | lost
  deriving DecidableEq

/-- Terminal kind of a state; `none` while the runtime may still run. -/
def LifecycleState.terminalKind : LifecycleState → Option TerminalKind
  | .forking => none
  | .running => none
  | .exited _ => some .exited
  | .lost _ => some .lost

/-- Terminal states: `Exited` and `Lost`. -/
def LifecycleState.isTerminal (state : LifecycleState) : Bool := state.terminalKind.isSome

@[simp]
theorem LifecycleState.isTerminal_iff {state : LifecycleState} :
    state.isTerminal = true ↔ ∃ kind, state.terminalKind = some kind := by
  rw [isTerminal, Option.isSome_iff_exists]

namespace Lifecycle

/-- A fresh lifecycle: forking, host isolation, nothing known about processes. -/
def forking (sessionId : SessionId) (runtime : RuntimeKind) : Lifecycle where
  sessionId := sessionId
  runtime := runtime
  isolation := .host
  state := .forking
  shimPid := none
  runtimePid := none
  startTime := none
  tmuxPane := none
  logAvailability := none

/-- Forking to running, with the process facts of the shim's report. -/
def markRunning (lc : Lifecycle) (ready : ShimReady) : Bool × Lifecycle :=
  if lc.state ≠ .forking then (false, lc)
  else
    (true,
      { lc with
        state := .running
        shimPid := some ready.shimPid
        runtimePid := some ready.runtimePid
        startTime := some ready.startTime
        tmuxPane := ready.tmuxPane })

/-- Records an exit. A second exit report overwrites the stored code but reports
`false`; a lost lifecycle keeps its state. -/
def markExited (lc : Lifecycle) (exit : RuntimeExit) : Bool × Lifecycle :=
  match lc.state with
  | .forking => (true, { lc with state := .exited exit })
  | .running => (true, { lc with state := .exited exit })
  | .exited existing => (false, if existing ≠ exit then { lc with state := .exited exit } else lc)
  | .lost _ => (false, lc)

/-- Records a loss of a lifecycle that has not ended. -/
def markLost (lc : Lifecycle) (evidence : LostEvidence) : Bool × Lifecycle :=
  match lc.state with
  | .forking => (true, { lc with state := .lost evidence })
  | .running => (true, { lc with state := .lost evidence })
  | .exited _ => (false, lc)
  | .lost _ => (false, lc)

/-- Transcript of a headless runtime. -/
def transcriptPath (lc : Lifecycle) : Option String :=
  match lc.logAvailability with
  | some (.headless stdoutPath _) => some stdoutPath
  | some .tmuxPaneSnapshot => none
  | some .unavailable => none
  | none => none

theorem markRunning_eq_true {lc lc' : Lifecycle} {ready : ShimReady}
    (h : lc.markRunning ready = (true, lc')) :
    lc.state = .forking ∧
      lc' = { lc with
        state := .running
        shimPid := some ready.shimPid
        runtimePid := some ready.runtimePid
        startTime := some ready.startTime
        tmuxPane := ready.tmuxPane } := by
  rw [markRunning] at h
  split at h
  · cases h
  · next hstate =>
      cases h
      exact ⟨not_not.mp hstate, rfl⟩

/-- An exit is recorded only over a state that is not terminal. -/
theorem markExited_eq_true {lc lc' : Lifecycle} {exit : RuntimeExit}
    (h : lc.markExited exit = (true, lc')) :
    lc.state.terminalKind = none ∧ lc' = { lc with state := .exited exit } := by
  rw [markExited] at h
  cases hstate : lc.state with
  | forking =>
      rw [hstate] at h
      cases h
      exact ⟨rfl, rfl⟩
  | running =>
      rw [hstate] at h
      cases h
      exact ⟨rfl, rfl⟩
  | exited existing =>
      rw [hstate] at h
      cases h
  | lost evidence =>
      rw [hstate] at h
      cases h

/-- A loss is recorded only over a state that is not terminal. -/
theorem markLost_eq_true {lc lc' : Lifecycle} {evidence : LostEvidence}
    (h : lc.markLost evidence = (true, lc')) :
    lc.state.terminalKind = none ∧ lc' = { lc with state := .lost evidence } := by
  rw [markLost] at h
  cases hstate : lc.state with
  | forking =>
      rw [hstate] at h
      cases h
      exact ⟨rfl, rfl⟩
  | running =>
      rw [hstate] at h
      cases h
      exact ⟨rfl, rfl⟩
  | exited existing =>
      rw [hstate] at h
      cases h
  | lost existing =>
      rw [hstate] at h
      cases h

end Lifecycle

end LittleOrgans.Core
