import LittleOrgans.Concurrency.DaemonMachine

/-!
# What a program knows

The monitor of the daemon's programs. A program gathers facts from the results of
its operations: the lifecycles it has read, the ready reports it was given, the
sessions whose runtime it has seen end, the spawn intents it has to settle. These
facts say which writes are allowed: an update of a lifecycle, for one, is based
on a read that found it alive, keeps to process facts from that read or from a
ready report, and records an end only of a runtime that was seen to end.

Nothing here looks at the world: that the facts are true is an invariant of the
machine, and that the programs keep to the rules is a property of each program by
itself.
-/

set_option autoImplicit false

namespace LittleOrgans.Concurrency

open LittleOrgans.Core
open LittleOrgans.Library
open LittleOrgans.Store
open LittleOrgans.Daemon

/-- What a task of the event loop is about to do. -/
inductive LoopTurn where
  | loading
  | round
  deriving DecidableEq

/-- What a program knows from its results so far. -/
structure Knowledge where
  /-- Lifecycles read from the store, the last one first. -/
  reads : List Lifecycle := []
  /-- Ready reports received for a session. -/
  readies : List (SessionId × ShimReady) := []
  /-- Sessions whose runtime was seen to end. -/
  ended : List SessionId := []
  /-- Sessions whose container took a signal. -/
  signalled : List SessionId := []
  /-- The intent this program was asked to begin. -/
  requested : Option PendingSpawnIntent := none
  /-- Pending intents this program has to settle. -/
  held : List PendingSpawnIntent := []
  /-- Sessions whose intent this program has resolved. -/
  committed : List SessionId := []
  /-- This program may still launch a shim. -/
  launchable : Bool := false
  /-- An operation failed whose failure the spawn returns without an abort. -/
  unhandled : Bool := false
  /-- Exits taken from the driver and not yet persisted. -/
  reported : List SessionId := []
  /-- Persisting an exit has failed. -/
  faulted : Bool := false
  /-- The turn of the event loop this program takes. -/
  turn : Option LoopTurn := none
  /-- The event loop's cursor, while this program runs the loop. -/
  cursor : Option (Option EventCursor) := none
  /-- The page of events in hand. -/
  page : Option EventLogPage := none
  /-- How far this program has brought the daemon up. -/
  booting : Option Stage := none
  /-- The namespace this program removes. -/
  removing : Option String := none

namespace Knowledge

/-- The last read of a session's lifecycle. -/
def lastRead (φ : Knowledge) (id : SessionId) : Option Lifecycle :=
  φ.reads.find? fun lc => lc.sessionId = id

/-- Sessions read with host isolation under a pid. -/
def hostSessions (φ : Knowledge) (pid : Pid) : List SessionId :=
  (φ.reads.filter fun lc => lc.isolation = .host ∧ lc.runtimePid = some pid).map
    Lifecycle.sessionId

/-- Sessions read with host isolation under a pid and with another start time. -/
def otherStartSessions (φ : Knowledge) (pid : Pid) (startTime : DateTime) : List SessionId :=
  (φ.reads.filter fun lc => lc.isolation = .host ∧ lc.runtimePid = some pid ∧
    lc.startTime.any (· ≠ startTime)).map Lifecycle.sessionId

/-- A pid that was reported for the session. -/
def KnowsPid (φ : Knowledge) (id : SessionId) (pid : Pid) : Prop :=
  (∃ lc ∈ φ.reads, lc.sessionId = id ∧ lc.runtimePid = some pid) ∨
    ∃ ready, (id, ready) ∈ φ.readies ∧ ready.runtimePid = pid

/-- The process facts of `lc` are those of `old`, or of a ready report. -/
def KnowsProcess (φ : Knowledge) (old lc : Lifecycle) : Prop :=
  (lc.runtimePid = old.runtimePid ∧ lc.startTime = old.startTime) ∨
    ∃ ready, (lc.sessionId, ready) ∈ φ.readies ∧ lc.runtimePid = some ready.runtimePid ∧
      lc.startTime = some ready.startTime

/-- The session was read with another isolation than the host's. -/
def KnowsDocker (φ : Knowledge) (id : SessionId) : Prop :=
  ∃ lc ∈ φ.reads, lc.sessionId = id ∧ lc.isolation ≠ .host

/-- The runtime of the session was reported to have started. -/
def knowsStarted (φ : Knowledge) (id : SessionId) : Bool :=
  φ.readies.any (fun entry => entry.1 = id) ||
    φ.reads.any fun lc => lc.sessionId = id && lc.runtimePid.isSome

/-- What justifies recording this state for a session. -/
def KnowsEnd (φ : Knowledge) (id : SessionId) : LifecycleState → Prop
  | .forking => True
  | .running => True
  | .exited _ => id ∈ φ.ended
  | .lost _ => id ∈ φ.ended ∨ φ.KnowsDocker id

/-- A lifecycle this program may write over the row it has read. -/
def MayWrite (φ : Knowledge) (lc : Lifecycle) : Prop :=
  ∃ old, φ.lastRead lc.sessionId = some old ∧ old.state.terminalKind = none ∧
    lc.isolation = old.isolation ∧ φ.KnowsProcess old lc ∧ φ.KnowsEnd lc.sessionId lc.state

/-- The intent of a session is this program's to settle. -/
def Holds (φ : Knowledge) (id : SessionId) : Prop := ∃ intent ∈ φ.held, intent.sessionId = id

/-- The second transaction of an intent this program holds. -/
def MayCommit (φ : Knowledge) (id : SessionId) (session : Session) (lc : Lifecycle) : Prop :=
  ∃ intent ∈ φ.held, intent.sessionId = id ∧ lc.sessionId = id ∧
    (∃ stdoutPath now, sessionOfIntent intent lc stdoutPath now = .ok session) ∧ φ.MayWrite lc

/-! ## The rules -/

/-- The store calls that are allowed to who knows this. -/
def allowsStore (φ : Knowledge) : StoreOp → Prop
  | .insertForking lc => ∃ intent ∈ φ.held, lc = Database.forkingLifecycle intent
  | .updateLifecycle lc => φ.MayWrite lc
  | .deleteLifecycle id => φ.Holds id
  | .beginSpawnIntent intent => φ.requested = some intent
  | .commitSpawnIntent id session lc => φ.MayCommit id session lc
  | .abortSpawnIntent id _ => φ.Holds id
  | .listPendingSpawnIntents => φ.booting = some .built ∧ φ.held = []
  | .eventCursor => φ.turn = some .loading
  | .applyRuntimeEventsAndCursor events nextCursor => φ.page = some ⟨events, nextCursor⟩
  | .deleteSessionsByNamespace slug => φ.removing = some slug
  | _ => True

/-- The accesses to the memory that are allowed. -/
def allowsMemory (φ : Knowledge) : MemoryOp → Prop
  | .sendReady channel ready => (channel.sessionId, ready) ∈ φ.readies
  | .startExitWatcher id runtimePid => φ.KnowsPid id runtimePid
  | .insertTerminalSession id => φ.Holds id
  | .loopCursor => φ.turn = some .round
  | .setLoop cursor => φ.cursor = some cursor
  | .enterStage .built => φ.booting = some .booting
  | .enterStage .listening => φ.booting = some .built
  | .enterStage _ => False
  | _ => True

/-- The operations on the event log that are allowed. -/
def allowsLog (φ : Knowledge) : LogOp → Prop
  | .appendEvent _ => True
  | .pollEvents since => φ.cursor = some since

/-- The questions to the machine that are allowed: a spawn launches one shim. -/
def allowsOs (φ : Knowledge) : OsOp → Prop
  | .launchShim request => φ.Holds request.sessionId ∧ φ.launchable = true
  | _ => True

/-- The operations that are allowed to who knows this. -/
def allows (φ : Knowledge) : Op → Prop
  | .store o => φ.allowsStore o
  | .memory o => φ.allowsMemory o
  | .log o => φ.allowsLog o
  | .os o => φ.allowsOs o

/-! ## What a result adds -/

/-- The intent of a session is settled. -/
def settle (φ : Knowledge) (id : SessionId) : Knowledge :=
  { φ with held := φ.held.filter fun intent => intent.sessionId ≠ id }

/-- What a store call that succeeded adds. -/
def afterStoreOk (φ : Knowledge) : (o : StoreOp) → o.Res → Knowledge
  | .getLifecycle _, found => { φ with reads := found.toList ++ φ.reads }
  | .listLifecycles _, lcs => { φ with reads := lcs ++ φ.reads }
  | .runningLifecycles, lcs => { φ with reads := lcs ++ φ.reads }
  | .runningTmuxOccupant _, found => { φ with reads := found.toList ++ φ.reads }
  | .deleteLifecycle _, _ => { φ with launchable := false }
  | .beginSpawnIntent intent, _ => { φ with requested := none, held := intent :: φ.held }
  | .commitSpawnIntent id _ _, _ => { φ.settle id with committed := id :: φ.committed }
  | .abortSpawnIntent id _, _ => φ.settle id
  | .listPendingSpawnIntents, intents => { φ with held := intents }
  | .eventCursor, cursor => { φ with cursor := some cursor }
  | .applyRuntimeEventsAndCursor _ nextCursor, _ =>
      { φ with cursor := some (some nextCursor), page := none }
  | .markSessionTerminated id _, _ =>
      { φ with reported := φ.reported.filter fun id' => id' ≠ id }
  | _, _ => φ

/-- What a store call that failed adds. -/
def afterStoreError (φ : Knowledge) : StoreOp → Knowledge
  | .deleteLifecycle _ => { φ with launchable := false }
  | .beginSpawnIntent _ => { φ with requested := none }
  | .namespaceExists _ => { φ with unhandled := φ.unhandled || !φ.held.isEmpty }
  | .beginTx => { φ with unhandled := true }
  | .abortSpawnIntent _ _ => { φ with unhandled := true }
  | .recordTranscriptPath _ _ => { φ with faulted := true }
  | .markSessionTerminated _ _ => { φ with faulted := true }
  | _ => φ

/-- What an access to the memory adds. -/
def afterMemory (φ : Knowledge) : (o : MemoryOp) → o.Res → Knowledge
  | .awaitReady channel, .ready ready =>
      { φ with readies := (channel.sessionId, ready) :: φ.readies }
  | .reapTerminal _, exits => { φ with reported := exits.map ChildExit.sessionId ++ φ.reported }
  | .loopCursor, cursor => { φ with cursor := some cursor }
  | .setLoop _, _ => { φ with cursor := none, turn := none }
  | .enterStage stage, _ => { φ with booting := some stage }
  | _, _ => φ

/-- What an operation on the event log adds. -/
def afterLogOk (φ : Knowledge) : (o : LogOp) → o.Res → Knowledge
  | .appendEvent _, _ => φ
  | .pollEvents _, page => { φ with page := some page }

/-- A spawn that has committed returns the error of an append. -/
def afterLogError (φ : Knowledge) : LogOp → Knowledge
  | .appendEvent _ => { φ with unhandled := φ.unhandled || !φ.committed.isEmpty }
  | .pollEvents _ => φ

/-- Runtimes were seen to end. -/
def seeEnded (φ : Knowledge) (ids : List SessionId) : Knowledge :=
  { φ with ended := ids ++ φ.ended }

/-- What the answer of the machine adds. -/
def afterOs (φ : Knowledge) : (o : OsOp) → o.Res → Knowledge
  | .launchShim _, _ => { φ with launchable := false }
  | .pidAlive pid, alive => if alive then φ else φ.seeEnded (φ.hostSessions pid)
  | .startTimeForPid pid, .known startTime => φ.seeEnded (φ.otherStartSessions pid startTime)
  | .startTimeForPid pid, .gone => φ.seeEnded (φ.hostSessions pid)
  | .sendSignal pid signal, outcome =>
      if outcome = .alreadyExited ∨ signal = .kill then φ.seeEnded (φ.hostSessions pid) else φ
  | .dockerKill id signal, .signalled =>
      let φ := if signal = .kill then φ.seeEnded [id] else φ
      { φ with signalled := id :: φ.signalled }
  | .dockerKill id _, .alreadyExited => if φ.knowsStarted id then φ.seeEnded [id] else φ
  | .dockerRunning id, running =>
      if running = false ∧ id ∈ φ.signalled then φ.seeEnded [id] else φ
  | _, _ => φ

/-- What the result of an operation adds. -/
def next (φ : Knowledge) : (o : Op) → Except DaemonError o.Res → Knowledge
  | .store o, .ok a => φ.afterStoreOk o a
  | .store o, .error _ => φ.afterStoreError o
  | .memory o, .ok a => φ.afterMemory o a
  | .memory _, .error _ => φ
  | .log o, .ok a => φ.afterLogOk o a
  | .log o, .error _ => φ.afterLogError o
  | .os o, .ok a => φ.afterOs o a
  | .os _, .error _ => φ

/-- What every result of an operation satisfies, whatever the world. -/
def returns : (o : Op) → Except DaemonError o.Res → Prop
  | .store (.getLifecycle id), .ok found => ∀ lc ∈ found, lc.sessionId = id
  | .store .runningLifecycles, .ok lcs => ∀ lc ∈ lcs, lc.state = .running
  | .store .listPendingSpawnIntents, .ok intents =>
      (intents.map PendingSpawnIntent.sessionId).Nodup
  | .memory (.insertPendingReady id), .ok made => made.1.sessionId = id
  | .memory (.removePendingReady id), .ok found => ∀ channel ∈ found, channel.sessionId = id
  | .os o, .error _ => o.infallible = false
  | _, _ => True

/-! ## Beginning and end -/

/-- What a program knows from what it was started for. -/
def first : Origin → Knowledge
  | .boot => { booting := some .booting }
  | .startEventLoop => { turn := some .loading }
  | .eventLoopRound => { turn := some .round }
  | .removeNamespaceCatalog slug => { removing := some slug }
  | .spawn call => { requested := some call.intent, launchable := true }
  | .shimReady ready => { readies := [(ready.sessionId, ready)] }
  | .shimExit exit => { ended := [exit.sessionId] }
  | .exitWatcher id => { ended := [id] }
  | _ => {}

/-- How a spawn ends: it has committed its intent and nothing else failed, or it
holds no intent, or a failure was returned without an abort. -/
def SpawnEnds (φ : Knowledge) (intent : PendingSpawnIntent) : Except DaemonError Reply → Prop
  | .ok _ => intent.sessionId ∈ φ.committed
  | .error _ => φ.unhandled = true ∨ (φ.held = [] ∧ φ.committed = [])

/-- What holds when a program has ended. -/
def post (origin : Origin) (result : Except DaemonError Reply) (φ : Knowledge) : Prop :=
  (φ.reported = [] ∨ φ.faulted = true) ∧
    match origin with
    | .spawn call => φ.SpawnEnds call.intent result
    | _ => True

end Knowledge

/-- The monitor of the daemon's programs. -/
abbrev knowing : Monitor daemonOps DaemonError where
  State := Knowledge
  allows := Knowledge.allows
  returns := Knowledge.returns
  next := Knowledge.next

end LittleOrgans.Concurrency
