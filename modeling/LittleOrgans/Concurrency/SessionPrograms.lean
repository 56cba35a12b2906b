import LittleOrgans.Concurrency.RuntimePrograms

/-!
# Programs of the session daemon

The driver's port to the runtime, the two-phase spawn with its abort and its
reconciliation at startup, the background tasks that carry the end of a runtime
into the session row, and the removal of a namespace from the catalog.
-/

set_option autoImplicit false

namespace LittleOrgans.Concurrency

open LittleOrgans.Core
open LittleOrgans.Library
open LittleOrgans.Store
open LittleOrgans.Daemon

/-! ## The driver -/

/-- `populate_log_availability_for`. -/
def populateLogs : List Lifecycle → DaemonProg (List Lifecycle)
  | [] => return []
  | lc :: rest => do
      let logs ← os (.logAvailability lc)
      let rest ← populateLogs rest
      return { lc with logAvailability := some logs } :: rest

/-- `status`; a failed read counts as no lifecycle. -/
def status (filter : StatusFilter) : DaemonProg (List Lifecycle) := do
  match ← (store (.listLifecycles filter)).attempt with
  | .ok rows => populateLogs rows
  | .error _ => return []

structure SpawnedProcess where
  lifecycle : Lifecycle
  runtimePid : Pid
  stdoutPath : Option String

/-- `spawn_outcome`. -/
def spawnOutcome : SpawnOutcome → Except DaemonError SpawnedProcess
  | .spawned lc _ stdoutPath =>
      match lc.runtimePid with
      | some runtimePid => .ok ⟨lc, runtimePid, stdoutPath⟩
      | none => .error (.io "runtime session has no runtime pid")
  | .conflict error _ => .error error

/-- `spawn` of the driver. -/
def runtimeSpawn (request : RuntimeSpawnRequest) : DaemonProg SpawnedProcess := do
  -- the session may have run before
  memory (.removeTerminalSession request.sessionId)
  let outcome ← spawnDomain request
  Prog.ofExcept (spawnOutcome outcome)

/-- The exit a status request reports for a session. -/
def reportedExit (id : SessionId) (lifecycles : List Lifecycle) : Option ChildExit :=
  (lifecycles.find? fun lc => lc.sessionId = id).bind terminalChildExit

/-- The polls of `wait_for_terminal`, `n` of them before the deadline. -/
def waitForTerminal (id : SessionId) : Nat → DaemonProg (Option ChildExit)
  -- one poll is made at the deadline itself
  | 0 => do
      let lifecycles ← status (.forSession id)
      return reportedExit id lifecycles
  | n + 1 => do
      let lifecycles ← status (.forSession id)
      match reportedExit id lifecycles with
      | some exit => return some exit
      | none => waitForTerminal id n

/-- `terminate`. -/
def terminate (id : SessionId) (signal : RuntimeSignal) : DaemonProg (Option ChildExit) := do
  let _ ← killRuntime ⟨id, signal⟩
  let rounds ← os .rounds
  match ← waitForTerminal id rounds with
  | some exit =>
      -- the reaper does not report this exit once more
      memory (.insertTerminalSession id)
      return some exit
  | none => return none

/-! ## Spawn -/

inductive OnCommitFailure where
  | abortRunning
  | leavePending

/-- `abort_spawn_intent`. -/
def abortSpawnIntent (id : SessionId) (reason : AbortReason) : DaemonProg Unit :=
  store (.abortSpawnIntent id reason)

/-- `abort_running_spawn`; a kill that fails is only logged. -/
def abortRunningSpawn (id : SessionId) (reason : AbortReason) : DaemonProg Unit := do
  let _ ← (terminate id .term).attempt
  abortSpawnIntent id reason

/-- The session of an intent whose runtime runs. -/
def sessionOfIntent (intent : PendingSpawnIntent) (lc : Lifecycle) (stdoutPath : Option String)
    (updatedAt : DateTime) : Except DaemonError Session :=
  (intent.sessionDraft.runningSession lc stdoutPath updatedAt).mapError DaemonError.intent

/-- What follows the second transaction. -/
def afterCommit (intent : PendingSpawnIntent) (session : Session) (event : RuntimeEvent)
    (onCommitFailure : OnCommitFailure) : Except DaemonError Unit → DaemonProg Session
  | .ok _ => do
      -- the session is stored, and the event is not: the caller sees an error
      let _ ← context (.io "failed to append runtime event after session commit")
        (log (.appendEvent event))
      return session
  | .error e =>
      match onCommitFailure with
      -- an error of the abort is dropped, that of the commit is returned
      | .abortRunning => do
          let _ ← (abortRunningSpawn intent.sessionId (.sessionCommitFailed e)).attempt
          .fail e
      | .leavePending => .fail e

/-- `complete_spawn_intent`. -/
def completeSpawnIntent (intent : PendingSpawnIntent) (lc : Lifecycle) (event : RuntimeEvent)
    (stdoutPath : Option String) (onCommitFailure : OnCommitFailure) : DaemonProg Session := do
  let updatedAt ← os .now
  let session ← Prog.ofExcept (sessionOfIntent intent lc stdoutPath updatedAt)
  if ← context (.store "failed to revalidate namespace before session commit")
      (store (.namespaceExists session.namespaceSlug)) then
    -- the connection of the second transaction is taken before it begins
    context (.store "failed to acquire session spawn Tx B connection") (store .beginTx)
    let committed ← (store (.commitSpawnIntent intent.sessionId session lc)).attempt
    afterCommit intent session event onCommitFailure committed
  -- the namespace was removed while the runtime started
  else
    abortRunningSpawn intent.sessionId .namespaceDeletedBeforeCommit
    .fail (.namespaceDeleted session.namespaceSlug)

/-- What follows the spawn of the runtime. -/
def afterRuntimeSpawn (intent : PendingSpawnIntent) :
    Except DaemonError SpawnedProcess → DaemonProg Session
  | .error e => do
      -- an error of the abort replaces the one of the spawn
      abortSpawnIntent intent.sessionId (.spawnFailure e)
      .fail (.runtimeSpawnFailed e)
  | .ok spawned => do
      let now ← os .now
      let event ← Prog.ofExcept (runningEventFromLifecycle spawned.lifecycle now)
      completeSpawnIntent intent spawned.lifecycle event spawned.stdoutPath .abortRunning

/-- `spawn`, from the check of the namespace on. -/
def spawn (intent : PendingSpawnIntent) : DaemonProg Session := do
  if ← context (.store "failed to validate namespace")
      (store (.namespaceExists intent.sessionDraft.namespaceSlug)) then
    store (.beginSpawnIntent intent)
    let spawned ← (runtimeSpawn intent.spawnRequest).attempt
    afterRuntimeSpawn intent spawned
  else .fail (.unknownNamespace intent.sessionDraft.namespaceSlug)

/-- `reconcile_pending_spawn_intent`. The in-process status request reports no
error. -/
def reconcilePendingSpawnIntent (intent : PendingSpawnIntent) : DaemonProg Unit := do
  let lifecycles ← status (.forSession intent.sessionId)
  match lifecycles.find? fun lc => lc.sessionId = intent.sessionId with
  -- the spawn had not reached the runtime, or the runtime has forgotten it
  | none => abortSpawnIntent intent.sessionId .runtimeLifecycleMissing
  | some lc =>
      if lc.state = .running then
        let now ← os .now
        let event ← Prog.ofExcept (runningEventFromLifecycle lc now)
        let _ ← completeSpawnIntent intent lc event none .leavePending
        return ()
      -- the runtime has ended since, or has never run
      else abortSpawnIntent intent.sessionId .runtimeLifecycleNotRunning

/-- One round of the loop of `reconcile_pending_spawn_intents`: an error is only
logged. -/
def reconcileLogged (intent : PendingSpawnIntent) : DaemonProg Unit := do
  let _ ← (reconcilePendingSpawnIntent intent).attempt
  return ()

/-- `reconcile_pending_spawn_intents`. -/
def reconcilePendingSpawnIntents : DaemonProg Unit := do
  let pending ← context (.store "failed to list pending spawn intents")
    (store .listPendingSpawnIntents)
  Prog.forEach reconcileLogged pending

/-- The daemon comes up: the runtime reconciles, the background tasks start, the
pending intents are reconciled, connections are accepted. -/
def boot : DaemonProg Unit := do
  reconcileOnce
  -- the background tasks run from here on
  memory (.enterStage .built)
  reconcilePendingSpawnIntents
  memory (.enterStage .listening)

/-! ## Background tasks -/

/-- `persist_child_exit`. -/
def persistChildExit (exit : ChildExit) : DaemonProg Unit := do
  match exit.transcriptPath with
  | some path =>
      store (.recordTranscriptPath exit.sessionId path)
      store (.markSessionTerminated exit.sessionId exit.exitCode)
  | none => store (.markSessionTerminated exit.sessionId exit.exitCode)

/-- `refresh_exits`. -/
def refreshExits : DaemonProg Unit := do
  let lifecycles ← status .empty
  -- the ids are remembered before any of the exits is stored
  let exits ← memory (.reapTerminal lifecycles)
  Prog.forEach persistChildExit exits

/-- The event loop loads its cursor; when that fails, the loop stops. -/
def startEventLoop : DaemonProg Unit := do
  let cursor ← store .eventCursor
  memory (.setLoop cursor)

/-- One round of the event loop; a batch that fails is polled again. -/
def eventLoopRound : DaemonProg Unit := do
  let cursor ← memory .loopCursor
  let page ← log (.pollEvents cursor)
  -- the events and the cursor are one transaction
  match ← (store (.applyRuntimeEventsAndCursor page.events page.cursor)).attempt with
  | .ok _ => memory (.setLoop (some page.cursor))
  | .error _ => memory (.setLoop cursor)

/-- `remove_namespace_catalog`. -/
def removeNamespaceCatalog (slug : String) : DaemonProg Unit := do
  -- the sessions are counted and deleted in two statements
  let active ← store (.activeSessionCountInNamespace slug)
  if 0 < active then .fail (.io "namespace delete raced with session spawn")
  else
    store (.deleteSessionsByNamespace slug)
    if ← store (.deleteNamespace slug) then return ()
    else .fail (.unknownNamespace slug)

end LittleOrgans.Concurrency
