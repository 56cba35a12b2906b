import LittleOrgans.Concurrency.SessionPrograms
import LittleOrgans.Library.Pool

/-!
# The daemon as a machine

What starts a program of the daemon, and what the shims and their runtimes do by
themselves. Requests are accepted once the daemon listens; the background tasks
run as soon as it is built, while the pending intents of the last run are still
being reconciled.
-/

set_option autoImplicit false

namespace LittleOrgans.Concurrency

open LittleOrgans.Core
open LittleOrgans.Library
open LittleOrgans.Store
open LittleOrgans.Daemon

/-- The intent of a request: its parts name one session, and its time is a
timestamp. -/
def wellFormedIntent (intent : PendingSpawnIntent) : Bool :=
  intent.spawnRequest.sessionId = intent.sessionId ∧
    intent.sessionDraft.id = intent.sessionId ∧
    timestampMillisMin ≤ intent.sessionDraft.createdAtMs ∧
    intent.sessionDraft.createdAtMs ≤ timestampMillisMax

/-- A spawn request, as the intent the handler builds from it. -/
structure SpawnCall where
  intent : PendingSpawnIntent
  wellFormed : wellFormedIntent intent = true

/-- What a program was started for. -/
inductive Origin where
  | boot
  | startEventLoop
  | eventLoopRound
  | refreshExits
  | reconcileOnce
  | removeNamespaceCatalog (slug : String)
  | spawn (call : SpawnCall)
  | kill (request : KillRequest)
  | shimLaunch (id : SessionId)
  | shimReady (ready : ShimReady)
  | shimExit (exit : ShimExit)
  | exitWatcher (id : SessionId)

/-- What happens outside the daemon. -/
inductive EnvEvent where
  | childStarts (id : SessionId) (runtimePid : Pid) (startTime : DateTime)
  | childEnds (id : SessionId) (exit : RuntimeExit)
  | shimDies (id : SessionId)

/-- What a program returns. -/
inductive Reply where
  | done
  | spawned (session : Session)

/-- The shim reports its runtime. -/
def Shim.reportsReady (shim : Shim) (ready : ShimReady) : Bool :=
  match shim.phase with
  | .requesting => false
  | .launched => false
  | .running pid startTime =>
      shim.alive ∧ ¬shim.readyAcked ∧ ready = ⟨ready.sessionId, shim.shimPid, pid, startTime, none⟩
  | .ended pid startTime _ =>
      shim.alive ∧ ¬shim.readyAcked ∧ ready = ⟨ready.sessionId, shim.shimPid, pid, startTime, none⟩

/-- The shim reports the exit of its runtime, after its ready report was
acknowledged. -/
def Shim.reportsExit (shim : Shim) (exit : RuntimeExit) : Bool :=
  match shim.phase with
  | .requesting => false
  | .launched => false
  | .running _ _ => false
  | .ended _ _ ended => shim.alive ∧ shim.readyAcked ∧ exit = ended

namespace World

/-- The watched process of a session is gone, and its watcher has not fired. -/
def watcherFires (w : World) (id : SessionId) : Bool :=
  match w.runtime.exitWatchers.lookup id with
  | some watcher =>
      !watcher.fired && !(w.shims.lookup id).any (Shim.runs watcher.runtimePid)
  | none => false

/-- `some w'` when `possible`. -/
def guarded (possible : Bool) (w' : World) : Option World := if possible then some w' else none

/-- What a request needs to start, and what its start does. -/
def start (w : World) : Origin → Option World
  | .boot => guarded (w.stage = .down) { w with stage := .booting }
  | .startEventLoop =>
      guarded (w.stage.isBuilt && w.loop = .unloaded) { w with loop := .busy none }
  | .eventLoopRound =>
      match w.loop with
      | .idle cursor => guarded w.stage.isBuilt { w with loop := .busy cursor }
      | .busy _ => none
      | .unloaded => none
  | .refreshExits => guarded w.stage.isBuilt w
  | .reconcileOnce => guarded w.stage.isBuilt w
  | .removeNamespaceCatalog _ => guarded (w.stage = .listening) w
  | .spawn call =>
      guarded (w.stage = .listening && call.intent.sessionId ∉ w.usedIds)
        { w with usedIds := call.intent.sessionId :: w.usedIds }
  | .kill _ => guarded (w.stage = .listening) w
  | .shimLaunch id =>
      guarded (w.stage = .listening && (w.shims.lookup id).any fun shim =>
        shim.alive && shim.phase = .requesting) w
  | .shimReady ready =>
      guarded (w.stage = .listening &&
        (w.shims.lookup ready.sessionId).any fun shim => shim.reportsReady ready) w
  | .shimExit exit =>
      guarded (w.stage = .listening &&
        (w.shims.lookup exit.sessionId).any fun shim => shim.reportsExit exit.exit) w
  | .exitWatcher id =>
      guarded (w.stage ≠ .down && w.watcherFires id)
        { w with
          runtime := { w.runtime with
            exitWatchers := w.runtime.exitWatchers.modify id fun watcher =>
              { watcher with fired := true } } }

/-- What happens outside the daemon, when it can. -/
def env (w : World) : EnvEvent → Option World
  | .childStarts id runtimePid startTime =>
      guarded (w.pidGone runtimePid && (w.shims.lookup id).any fun shim =>
        shim.alive && shim.phase = .launched)
        { w with
          shims := w.shims.modify id fun shim =>
            { shim with phase := .running runtimePid startTime } }
  | .childEnds id exit =>
      some { w with shims := w.shims.modify id (Shim.endRuntime exit) }
  | .shimDies id =>
      some { w with shims := w.shims.modify id fun shim => { shim with alive := false } }

end World

/-- A program that returns nothing. -/
def quiet {α : Type} (p : DaemonProg α) : DaemonProg Reply := do
  let _ ← p
  return .done

/-- A shim's request for its launch spec, and the reply. -/
def shimLaunch (id : SessionId) : DaemonProg Unit := do
  takeLaunchSpec id
  os (.deliverLaunch id)

/-- A shim's ready report, and the reply. -/
def shimReady (ready : ShimReady) : DaemonProg Unit := do
  completeShimReady ready
  os (.ackReady ready.sessionId)

/-- A spawn request. -/
def spawnRpc (intent : PendingSpawnIntent) : DaemonProg Reply := do
  let session ← spawn intent
  return .spawned session

/-- The program that handles a request. -/
def Origin.program : Origin → DaemonProg Reply
  | .boot => quiet Concurrency.boot
  | .startEventLoop => quiet Concurrency.startEventLoop
  | .eventLoopRound => quiet Concurrency.eventLoopRound
  | .refreshExits => quiet Concurrency.refreshExits
  | .reconcileOnce => quiet Concurrency.reconcileOnce
  | .removeNamespaceCatalog slug => quiet (Concurrency.removeNamespaceCatalog slug)
  | .spawn call => spawnRpc call.intent
  | .kill request => quiet (killRuntime request)
  | .shimLaunch id => quiet (Concurrency.shimLaunch id)
  | .shimReady ready => quiet (Concurrency.shimReady ready)
  | .shimExit exit => quiet (recordShimExit exit)
  | .exitWatcher id => quiet (recordWatcherExit id)

/-- The daemon, its shims and their runtimes. -/
abbrev daemon : Machine daemonOps DaemonError where
  Shared := World
  Choice := Choice
  Origin := Origin
  Env := EnvEvent
  Result := Reply
  exec := fun choice o w => o.exec choice w
  start := fun origin w => w.start origin
  program := Origin.program
  env := fun event w => w.env event
  crash := World.crashed

end LittleOrgans.Concurrency
