import LittleOrgans.Concurrency.Operations

/-!
# Programs of the runtime daemon

The coordinators of the runtime daemon, each function as the sequence of
operations it awaits: the recorders of a terminal state, the exit watcher, the
kill path, the reconciler, and the spawn with its two ways of taking a shim's
ready report. A loop that polls until a deadline asks for the number of rounds
that fit before it.
-/

set_option autoImplicit false

namespace LittleOrgans.Concurrency

open LittleOrgans.Core
open LittleOrgans.Library
open LittleOrgans.Store
open LittleOrgans.Daemon

/-- An error is reported under the text of its call site. -/
def context {α : Type} (error : DaemonError) (p : DaemonProg α) : DaemonProg α :=
  p.mapError fun _ => error

/-! ## Terminal states -/

/-- `is_terminal`; a failed read counts as not terminal. -/
def isTerminal (id : SessionId) : DaemonProg Bool := do
  match ← (store (.getLifecycle id)).attempt with
  | .ok (some lc) => return lc.state.isTerminal
  | .ok none => return false
  | .error _ => return false

/-- `finish_terminal`. -/
def finishTerminal (id : SessionId) (lc : Lifecycle) (evidence : TerminationEvidence) :
    DaemonProg (Option RuntimeEvent) := do
  memory (.removeWatcher id)
  -- only the recorder that enters the key first appends the event
  if ← memory (.insertTerminatedEvent id) then
    let event ← log (.appendEvent (terminalEvent lc evidence))
    return some event
  else return none

/-- `record_terminal`; `mark` is the guarded transition of the row it has read. -/
def recordTerminal (id : SessionId) (evidence : TerminationEvidence)
    (mark : Lifecycle → Bool × Lifecycle) : DaemonProg (Option RuntimeEvent) := do
  match ← store (.getLifecycle id) with
  | none => .fail (.sessionNotFound id)
  | some lc =>
      -- the guard looks at the row that was read, the write does not
      if (mark lc).1 then
        store (.updateLifecycle (mark lc).2)
        finishTerminal id (mark lc).2 evidence
      else return none

/-- `record_exited`. -/
def recordExited (id : SessionId) (exit : RuntimeExit) (evidence : TerminationEvidence) :
    DaemonProg (Option RuntimeEvent) := do
  let result ← (recordTerminal id evidence fun lc => lc.markExited exit).attempt
  -- the shim is forgotten whether the row was written or not
  memory (.forgetShim id)
  Prog.ofExcept result

/-- `record_lost`. -/
def recordLost (id : SessionId) (evidence : LostEvidence) : DaemonProg (Option RuntimeEvent) := do
  let result ← (recordTerminal id (.lost evidence) fun lc => lc.markLost evidence).attempt
  memory (.forgetShim id)
  Prog.ofExcept result

/-- `record_shim_exit`. -/
def recordShimExit (exit : ShimExit) : DaemonProg (Option RuntimeEvent) :=
  recordExited exit.sessionId exit.exit .shimExit

/-- `watcher_evidence`. -/
def watcherEvidence (id : SessionId) : DaemonProg TerminationEvidence := do
  match ← store (.getLifecycle id) with
  | none => .fail (.io "session missing shim pid")
  | some lc =>
      match lc.shimPid with
      | none => .fail (.io "session missing shim pid")
      | some shimPid =>
          -- the shim outlives its child by the report it still owes
          if ← os (.pidAlive shimPid) then return .processExit
          else return .lost .shimDiedBeforeReport

/-- `record_watcher_exit`. -/
def recordWatcherExit (id : SessionId) : DaemonProg Unit := do
  if ← isTerminal id then return ()
  else
    match ← watcherEvidence id with
    | .lost lost =>
        let _ ← recordLost id lost
        return ()
    | .processExit =>
        let _ ← recordExited id ⟨none, none⟩ .processExit
        return ()
    -- `watcher_evidence` does not return this one
    | .shimExit => return ()

/-! ## Liveness of a host process -/

/-- `host_process_lost_evidence`. -/
def hostProcessLostEvidence (runtimePid : Pid) (storedStartTime : Option DateTime) :
    DaemonProg (Option LostEvidence) := do
  if ← os (.pidAlive runtimePid) then
    match storedStartTime with
    | none => return none
    | some storedStartTime =>
        match ← (os (.startTimeForPid runtimePid)).attempt with
        | .ok (.known startTime) =>
            if startTime = storedStartTime then return none else return some .pidReuseDetected
        -- no process has the pid any more
        | .ok .gone => return some .pidNotAlive
        | .ok .unsupported =>
            -- the platform cannot say: the pid is looked at once more
            if ← os (.pidAlive runtimePid) then return none else return some .pidNotAlive
        | .error e =>
            -- an error counts only while the process lives
            if ← os (.pidAlive runtimePid) then .fail e else return some .pidNotAlive
  else return some .pidNotAlive

/-! ## Kill -/

/-- A request to signal the runtime of a session. -/
structure KillRequest where
  sessionId : SessionId
  signal : RuntimeSignal

/-- What is signalled: a process of the host, or a container. -/
inductive KillTarget where
  | host (runtimePid : Pid)
  | docker (id : SessionId)

namespace KillTarget

/-- Sends the signal. -/
def sendSignal (signal : RuntimeSignal) : KillTarget → DaemonProg KillOutcome
  | host runtimePid => os (.sendSignal runtimePid signal)
  | docker id => os (.dockerKill id signal)

/-- A host process that is gone by then is an error. -/
def sendKill : KillTarget → DaemonProg Unit
  | host runtimePid => do
      match ← os (.sendSignal runtimePid .kill) with
      | .signalled => return ()
      -- by then the process may have ended by itself
      | .alreadyExited => .fail (.io "failed to send signal: process already exited")
  | docker id => do
      let _ ← os (.dockerKill id .kill)
      return ()

/-- The runtime is still there. -/
def isAlive : KillTarget → DaemonProg Bool
  | host runtimePid => os (.pidAlive runtimePid)
  | docker id => os (.dockerRunning id)

end KillTarget

/-- The polls of `run_kill_loop` before its deadline: whether one of them found the
runtime ended. -/
def killRounds (target : KillTarget) (id : SessionId) : Nat → DaemonProg Bool
  | 0 => return false
  | n + 1 => do
      -- one look at the row, one at the process
      if ← isTerminal id then return true
      else if ← target.isAlive then
        os .sleep
        killRounds target id n
      else return true

/-- `run_kill_loop`. -/
def runKillLoop (target : KillTarget) (id : SessionId) (signal : RuntimeSignal) :
    DaemonProg KillOutcome := do
  match ← target.sendSignal signal with
  | .alreadyExited => return .alreadyExited
  | .signalled =>
      let rounds ← os .rounds
      if ← killRounds target id rounds then return .signalled
      else if ← target.isAlive then
        if signal = .kill then return .signalled
        else
          -- only a weaker signal is followed by `SIGKILL`
          target.sendKill
          return .signalled
      else return .signalled

/-- `kill_runtime`. -/
def killRuntime (request : KillRequest) : DaemonProg KillOutcome := do
  match ← store (.getLifecycle request.sessionId) with
  | none => .fail (.sessionNotFound request.sessionId)
  | some lc =>
      match lc.isolation with
      | .host =>
          match lc.runtimePid with
          | none => .fail (.sessionNotFound request.sessionId)
          | some runtimePid =>
              match ← hostProcessLostEvidence runtimePid lc.startTime with
              -- the pid is another process's now: nothing is signalled
              | some .pidReuseDetected =>
                  let _ ← recordLost request.sessionId .pidReuseDetected
                  return .alreadyExited
              -- dead or not: the loop finds out by itself
              | _ => runKillLoop (.host runtimePid) request.sessionId request.signal
      | .docker _ => runKillLoop (.docker request.sessionId) request.sessionId request.signal

/-! ## Reconciliation -/

/-- `lost_evidence` of a running lifecycle. -/
def lostEvidence (lc : Lifecycle) : DaemonProg (Option LostEvidence) := do
  match lc.isolation with
  | .host =>
      match lc.runtimePid with
      | none => .fail (.io "running lifecycle missing runtime pid")
      | some runtimePid => hostProcessLostEvidence runtimePid lc.startTime
  | .docker _ =>
      if ← os (.dockerRunning lc.sessionId) then return none else return some .pidNotAlive

/-- One round of the loop of `reconcile_once`. -/
def reconcileRunning (lc : Lifecycle) : DaemonProg Unit := do
  match ← lostEvidence lc with
  | some evidence =>
      let _ ← recordLost lc.sessionId evidence
      return ()
  | none =>
      match lc.runtimePid with
      -- a running row without a pid fails the whole pass
      | none => .fail (.io "running lifecycle missing runtime pid")
      | some runtimePid => memory (.startExitWatcher lc.sessionId runtimePid)

/-- `reconcile_once` of the runtime daemon. -/
def reconcileOnce : DaemonProg Unit := do
  let running ← store .runningLifecycles
  Prog.forEach reconcileRunning running
  store .recordProbeSweep

/-! ## Spawn -/

/-- `validate_spawn_target`. -/
def validateSpawnTarget (target : SpawnTarget) : DaemonProg Unit := do
  match target.tmuxAddress with
  | none => return ()
  | some address =>
      if ← os (.isTmuxAlive address) then return () else .fail (.tmuxPaneDead address)

/-- `begin_ready_wait`. -/
def beginReadyWait (id : SessionId) : DaemonProg ChannelId := do
  let made ← memory (.insertPendingReady id)
  -- a channel of that session was there: this request gives its own back
  if made.2 then
    memory (.dropReceiver made.1)
    .fail (.protocolMismatch "session already has a pending shim")
  else return made.1

/-- Removes the sender of a pending ready, which drops it. -/
def dropPendingReady (id : SessionId) : DaemonProg Unit := do
  match ← memory (.removePendingReady id) with
  | some channel => memory (.dropSender channel)
  | none => return ()

/-- `cancel_spawn`; a failed delete is only logged. -/
def cancelSpawn (id : SessionId) : DaemonProg Unit := do
  let _ ← memory (.removePendingLaunch id)
  dropPendingReady id
  let _ ← (store (.deleteLifecycle id)).attempt
  return ()

/-- What `begin_spawn` hands on. -/
structure BeginSpawn where
  ready : ChannelId
  sessionBacked : Bool

/-- A forking row that the session daemon has prepared for this request. -/
def isSessionBackedForking (lc : Lifecycle) (request : RuntimeSpawnRequest) : Bool :=
  lc.state = .forking ∧ lc.runtime = request.runtime ∧ lc.isolation = request.isolation

/-- The row `begin_spawn` inserts when there is none. -/
def requestedLifecycle (request : RuntimeSpawnRequest) : Lifecycle :=
  { Lifecycle.forking request.sessionId request.runtime with isolation := request.isolation }

/-- Whether the spawn finds its forking row. -/
def sessionBacked (request : RuntimeSpawnRequest) : DaemonProg Bool := do
  match ← store (.getLifecycle request.sessionId) with
  | some lc =>
      if isSessionBackedForking lc request then return true
      -- any other row of the session is a conflict
      else .fail (.sessionAlreadyExists request.sessionId)
  | none => return false

/-- Inserts the forking row of a spawn that has none. -/
def ensureForking (request : RuntimeSpawnRequest) (backed : Bool) : DaemonProg Unit :=
  if backed then return () else store (.insertForking (requestedLifecycle request))

/-- `begin_spawn`. -/
def beginSpawn (request : RuntimeSpawnRequest) : DaemonProg BeginSpawn := do
  let backed ← sessionBacked request
  validateSpawnTarget request.target
  ensureForking request backed
  memory (.insertPendingLaunch request.sessionId)
  -- from here on a failure takes the launch and the row back
  match ← (beginReadyWait request.sessionId).attempt with
  | .ok ready => return ⟨ready, backed⟩
  | .error e =>
      cancelSpawn request.sessionId
      .fail e

/-- `take_launch_spec`. -/
def takeLaunchSpec (id : SessionId) : DaemonProg Unit := do
  if ← memory (.removePendingLaunch id) then return ()
  else .fail (.protocolMismatch "no pending launch for session")

/-- The row `record_running` writes over the one it has read. -/
def runningLifecycle (request : RuntimeSpawnRequest) (ready : ShimReady) (lc : Lifecycle)
    (logs : LogAvailability) : Lifecycle :=
  { (lc.markRunning ready).2 with
    tmuxPane := request.target.tmuxAddress
    logAvailability := some logs }

/-- `record_running` of the spawn coordinator. -/
def recordRunningRow (request : RuntimeSpawnRequest) (ready : ShimReady) (appendEvent : Bool) :
    DaemonProg (Lifecycle × RuntimeEvent) := do
  match ← store (.getLifecycle request.sessionId) with
  | none => .fail (.sessionNotFound request.sessionId)
  | some lc =>
      -- the row may have been replaced since the spawn began
      if lc.runtime ≠ request.runtime then
        .fail (.protocolMismatch "runtime mismatch for session")
      else if (lc.markRunning ready).1 then
        let logs ← os (.logAvailability { (lc.markRunning ready).2 with
          tmuxPane := request.target.tmuxAddress })
        let running := runningLifecycle request ready lc logs
        -- the row is not looked at again between the guard and this write
        store (.updateLifecycle running)
        let event ← Prog.ofExcept (runningEvent running)
        memory (.startExitWatcher request.sessionId ready.runtimePid)
        if appendEvent then
          let event ← log (.appendEvent event)
          return (running, event)
        else return (running, event)
      else .fail (.protocolMismatch "session is not waiting for ShimReady")

/-- `record_running` of the server state. -/
def recordRunning (request : RuntimeSpawnRequest) (ready : ShimReady) (appendEvent : Bool) :
    DaemonProg (Lifecycle × RuntimeEvent) := do
  let result ← recordRunningRow request ready appendEvent
  -- the shim is tracked after the row, without another look at it
  memory (.trackShim ready.sessionId ready.shimPid)
  return result

/-- `record_reconnected_ready`. -/
def recordReconnectedReady (ready : ShimReady) : DaemonProg Unit := do
  match ← store (.getLifecycle ready.sessionId) with
  | none => .fail (.sessionNotFound ready.sessionId)
  | some lc =>
      match lc.state with
      | .forking =>
          -- the pane is the one that the report names
          let running := (lc.markRunning ready).2
          store (.updateLifecycle running)
          let event ← Prog.ofExcept (runningEvent running)
          memory (.startExitWatcher lc.sessionId ready.runtimePid)
          let _ ← log (.appendEvent event)
          return ()
      -- the copy of a report that was handled
      | .running => memory (.startExitWatcher lc.sessionId ready.runtimePid)
      | .exited _ => .fail (.io "session is already terminal")
      | .lost _ => .fail (.io "session is already terminal")

/-- `complete_shim_ready`. -/
def completeShimReady (ready : ShimReady) : DaemonProg Unit := do
  match ← memory (.removePendingReady ready.sessionId) with
  | some channel =>
      -- the spawn that waits writes the row itself
      if ← memory (.sendReady channel ready) then return ()
      else .fail (.protocolMismatch "spawn waiter dropped for session")
  | none => recordReconnectedReady ready

/-- What a spawn of the runtime daemon returns. -/
inductive SpawnOutcome where
  | spawned (lifecycle : Lifecycle) (event : RuntimeEvent) (stdoutPath : Option String)
  | conflict (error : DaemonError) (lifecycle : Lifecycle)

/-- The pane of a spawn: an occupant is a conflict, unless the spawn is forced to
take the pane from it. -/
def checkOccupant (request : RuntimeSpawnRequest) : DaemonProg (Option SpawnOutcome) := do
  match request.target.tmuxAddress with
  | none => return none
  | some address =>
      match ← store (.runningTmuxOccupant address) with
      | none => return none
      | some occupant =>
          if request.force then
            -- the outcome of the kill is dropped
            let _ ← killRuntime ⟨occupant.sessionId, .term⟩
            return none
          else return some (.conflict .spawnConflictTmuxPaneOccupancy occupant)

/-- `spawn_preflight::check`. -/
def checkSpawn (request : RuntimeSpawnRequest) : DaemonProg (Option SpawnOutcome) := do
  os (.checkIsolation request)
  match ← store (.getLifecycle request.sessionId) with
  | some lc =>
      -- the session daemon has inserted the row before the runtime is asked
      if isSessionBackedForking lc request then checkOccupant request
      else return some (.conflict .spawnConflictSessionId lc)
  | none => checkOccupant request

/-- The end of the wait for a shim, as `spawn_domain` reports it. -/
def readyOrError : ReadyWait → DaemonProg ShimReady
  | .ready ready => return ready
  | .elapsed => .fail (.io "timed out waiting for ShimReady")
  | .closed => .fail (.io "shim ready channel closed")

/-- `spawn_domain`. -/
def spawnDomain (request : RuntimeSpawnRequest) : DaemonProg SpawnOutcome := do
  match ← checkSpawn request with
  | some conflict => return conflict
  | none =>
      os (.prepareLaunch request)
      let begin ← beginSpawn request
      match ← (os (.launchShim request)).attempt with
      | .error e =>
          -- the launch failed: the spawn is taken back
          cancelSpawn request.sessionId
          .fail e
      | .ok stdoutPath =>
          -- a failed wait leaves the row and the pending launch as they are
          let waited ← memory (.awaitReady begin.ready)
          let ready ← readyOrError waited
          -- a spawn of the session daemon gets its event with the commit
          let running ← recordRunning request ready (!begin.sessionBacked)
          return .spawned running.1 running.2 stdoutPath

end LittleOrgans.Concurrency
