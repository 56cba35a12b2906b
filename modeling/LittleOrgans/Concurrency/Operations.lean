import LittleOrgans.Concurrency.World
import LittleOrgans.Library.Program

/-!
# Operations between two awaits

What one step of a task can do to the world, grouped by what it touches: a store
statement or transaction (`StoreOp`), a locked map or set of the daemon
(`MemoryOp`), the event log (`LogOp`), the operating system (`OsOp`). A `Choice`
is what the environment decides about one operation: that it fails, what the
clock says, what a probe finds.

A probe may err on one side only: it never reports a runtime gone that runs, nor
another start time for it, and a runtime is dead once `SIGKILL` was delivered to
it. `docker inspect` may miss a container that runs, but not one that has taken a
signal. A store operation that fails has no effect.
-/

set_option autoImplicit false

namespace LittleOrgans.Concurrency

open LittleOrgans.Core
open LittleOrgans.Library
open LittleOrgans.Store
open LittleOrgans.Daemon

/-- `RuntimeSignal`. -/
inductive RuntimeSignal where
  | hup
  | int
  | term
  | kill
  deriving DecidableEq

/-- What became of a signal. -/
inductive KillOutcome where
  | signalled
  | alreadyExited
  deriving DecidableEq

/-- What a look at a process says of its start. -/
inductive ProcessStartTime where
  | known (startTime : DateTime)
  | gone
  | unsupported
  deriving DecidableEq

/-- What became of the wait for a shim. -/
inductive ReadyWait where
  | ready (ready : ShimReady)
  | elapsed
  | closed
  deriving DecidableEq

/-- What the environment decides about one operation. -/
inductive Choice where
  | run
  | fault (error : DaemonError)
  | appendFault (stage : AppendFault) (error : DaemonError)
  | elapsed
  | time (now : DateTime)
  | flag (answer : Bool)
  | count (n : Nat)
  | startTime (answer : ProcessStartTime)
  | kill (answer : KillOutcome)
  | launch (shimPid : Pid) (stdoutPath : Option String)
  | logs (answer : LogAvailability)

/-- An operation the environment has no say in. -/
def Choice.ran {α : Type} (choice : Choice) (a : α) : Option α :=
  match choice with
  | .run => some a
  | _ => none

/-- An operation that reads the clock. -/
def Choice.timed {α : Type} (choice : Choice) (f : DateTime → α) : Option α :=
  match choice with
  | .time now => some (f now)
  | _ => none

/-! ## Store -/

/-- The store calls of the daemon, each one statement or one transaction. -/
inductive StoreOp where
  | getLifecycle (id : SessionId)
  | listLifecycles (filter : StatusFilter)
  | runningLifecycles
  | runningTmuxOccupant (address : TmuxAddress)
  | insertForking (lifecycle : Lifecycle)
  | updateLifecycle (lifecycle : Lifecycle)
  | deleteLifecycle (id : SessionId)
  | recordProbeSweep
  | beginSpawnIntent (intent : PendingSpawnIntent)
  | namespaceExists (slug : String)
  | beginTx
  | commitSpawnIntent (id : SessionId) (session : Session) (lifecycle : Lifecycle)
  | abortSpawnIntent (id : SessionId) (reason : AbortReason)
  | listPendingSpawnIntents
  | eventCursor
  | applyRuntimeEventsAndCursor (events : List RuntimeEvent) (nextCursor : EventCursor)
  | recordTranscriptPath (id : SessionId) (path : String)
  | markSessionTerminated (id : SessionId) (exitCode : Option Int)
  | activeSessionCountInNamespace (slug : String)
  | deleteSessionsByNamespace (slug : String)
  | deleteNamespace (slug : String)

namespace StoreOp

/-- What a store call returns. -/
abbrev Res : StoreOp → Type
  | getLifecycle _ => Option Lifecycle
  | listLifecycles _ => List Lifecycle
  | runningLifecycles => List Lifecycle
  | runningTmuxOccupant _ => Option Lifecycle
  | insertForking _ => Unit
  | updateLifecycle _ => Unit
  | deleteLifecycle _ => Unit
  | recordProbeSweep => Unit
  | beginSpawnIntent _ => Unit
  | namespaceExists _ => Bool
  | beginTx => Unit
  | commitSpawnIntent _ _ _ => Unit
  | abortSpawnIntent _ _ => Unit
  | listPendingSpawnIntents => List PendingSpawnIntent
  | eventCursor => Option EventCursor
  | applyRuntimeEventsAndCursor _ _ => Unit
  | recordTranscriptPath _ _ => Unit
  | markSessionTerminated _ _ => Unit
  | activeSessionCountInNamespace _ => Nat
  | deleteSessionsByNamespace _ => Unit
  | deleteNamespace _ => Bool

/-- A transaction: its error leaves the store as it was. -/
def transact (db : Database) : Except DaemonError Database → Except DaemonError Unit × Database
  | .ok db' => (.ok (), db')
  | .error e => (.error e, db)

/-- The intent a row was inserted for. -/
def intentOfRow (row : SessionId × SpawnIntentRow) : PendingSpawnIntent where
  sessionId := row.1
  operationId := row.2.operationId
  spawnRequest := row.2.spawnRequest
  sessionDraft := row.2.sessionDraft
  createdAt := row.2.createdAt

/-- The statement itself. -/
def run (choice : Choice) (db : Database) :
    (o : StoreOp) → Option (Except DaemonError o.Res × Database)
  | getLifecycle id => choice.ran (.ok (db.getLifecycle id), db)
  | listLifecycles filter => choice.ran (.ok (db.listLifecycles filter), db)
  | runningLifecycles => choice.ran (.ok db.runningLifecycles, db)
  | runningTmuxOccupant address => choice.ran (.ok (db.runningTmuxOccupant address), db)
  | insertForking lc => choice.ran (transact db (db.insertForking lc))
  | updateLifecycle lc => choice.ran (transact db (db.updateLifecycle lc))
  | deleteLifecycle id => choice.ran (.ok (), db.deleteLifecycle id)
  | recordProbeSweep => choice.ran (.ok (), db)
  | beginSpawnIntent intent => choice.ran (transact db (db.beginSpawnIntent intent))
  | namespaceExists slug => choice.ran (.ok (db.namespaceExists slug), db)
  | beginTx => choice.ran (.ok (), db)
  | commitSpawnIntent id session lc =>
      choice.timed fun now => transact db (db.commitSpawnIntent id session lc now)
  | abortSpawnIntent id reason =>
      choice.timed fun now => (.ok (), db.abortSpawnIntent id reason now)
  | listPendingSpawnIntents =>
      choice.ran (.ok (db.listPendingSpawnIntents.map intentOfRow), db)
  | eventCursor => choice.ran (.ok db.eventCursor, db)
  | applyRuntimeEventsAndCursor events nextCursor =>
      choice.timed fun now => (.ok (), db.applyRuntimeEventsAndCursor events nextCursor now)
  | recordTranscriptPath id path =>
      choice.timed fun now => (.ok (), db.recordTranscriptPath id path now)
  | markSessionTerminated id exitCode =>
      choice.timed fun now => (.ok (), db.markSessionTerminated id exitCode now)
  | activeSessionCountInNamespace slug =>
      choice.ran (.ok (db.sessions.rows.countP fun row =>
        row.2.namespaceSlug = slug ∧ row.2.state.isActive), db)
  | deleteSessionsByNamespace slug => choice.ran (.ok (), db.deleteSessionsByNamespace slug)
  | deleteNamespace slug => choice.ran (.ok (db.namespaceExists slug), db.deleteNamespace slug)

/-- The statement, or a failure without effect. -/
def exec (choice : Choice) (o : StoreOp) (db : Database) :
    Option (Except DaemonError o.Res × Database) :=
  match choice with
  | .fault e => some (.error e, db)
  | choice => o.run choice db

end StoreOp

/-! ## Memory of the daemon -/

/-- The accesses to the memory of the runtime daemon, each under its lock. -/
inductive MemoryOp where
  | insertPendingLaunch (id : SessionId)
  | removePendingLaunch (id : SessionId)
  | insertPendingReady (id : SessionId)
  | removePendingReady (id : SessionId)
  | dropSender (channel : ChannelId)
  | dropReceiver (channel : ChannelId)
  | sendReady (channel : ChannelId) (ready : ShimReady)
  | awaitReady (channel : ChannelId)
  | startExitWatcher (id : SessionId) (runtimePid : Pid)
  | removeWatcher (id : SessionId)
  | insertTerminatedEvent (id : SessionId)
  | trackShim (id : SessionId) (shimPid : Pid)
  | forgetShim (id : SessionId)
  | removeTerminalSession (id : SessionId)
  | insertTerminalSession (id : SessionId)
  | reapTerminal (lifecycles : List Lifecycle)
  | loopCursor
  | setLoop (cursor : Option EventCursor)
  | enterStage (stage : Stage)

namespace MemoryOp

/-- What an access to the memory returns. -/
abbrev Res : MemoryOp → Type
  | insertPendingLaunch _ => Unit
  | removePendingLaunch _ => Bool
  | insertPendingReady _ => ChannelId × Bool
  | removePendingReady _ => Option ChannelId
  | dropSender _ => Unit
  | dropReceiver _ => Unit
  | sendReady _ _ => Bool
  | awaitReady _ => ReadyWait
  | startExitWatcher _ _ => Unit
  | removeWatcher _ => Unit
  | insertTerminatedEvent _ => Bool
  | trackShim _ _ => Unit
  | forgetShim _ => Unit
  | removeTerminalSession _ => Unit
  | insertTerminalSession _ => Unit
  | reapTerminal _ => List ChildExit
  | loopCursor => Option EventCursor
  | setLoop _ => Unit
  | enterStage _ => Unit

/-- A new channel for `id`; the sender it replaces is dropped. -/
def newChannel (m : RuntimeMemory) (id : SessionId) : (ChannelId × Bool) × RuntimeMemory :=
  let channel : ChannelId := ⟨id, m.nextSerial⟩
  let previous := m.pendingReady.lookup id
  let channels :=
    match previous with
    | some serial => m.channels.modify (ChannelId.mk id serial) ReadyChannel.dropSender
    | none => m.channels
  ((channel, previous.isSome),
    { m with
      channels := channels.upsert channel .waiting
      pendingReady := m.pendingReady.upsert id m.nextSerial
      nextSerial := m.nextSerial + 1 })

/-- What the receiver of a channel finds. -/
def waitFor (choice : Choice) (m : RuntimeMemory) (channel : ChannelId) :
    Option (ReadyWait × RuntimeMemory) :=
  match m.channels.lookup channel with
  | some (.sent ready) => choice.ran (.ready ready, m)
  | some .senderDropped => choice.ran (.closed, m)
  | some .waiting =>
      match choice with
      | .elapsed =>
          some (.elapsed,
            { m with channels := m.channels.modify channel fun _ => .receiverDropped })
      | _ => none
  | some .receiverDropped => none
  | none => none

/-- The operation on the memory of the runtime daemon, the driver's set, the
event loop and the stage. -/
def run (choice : Choice) (w : World) : (o : MemoryOp) → Option (o.Res × World)
  | insertPendingLaunch id =>
      choice.ran ((), { w with
        runtime := { w.runtime with
          pendingLaunches := id :: w.runtime.pendingLaunches.filter (· ≠ id) } })
  | removePendingLaunch id =>
      choice.ran (decide (id ∈ w.runtime.pendingLaunches), { w with
        runtime := { w.runtime with
          pendingLaunches := w.runtime.pendingLaunches.filter (· ≠ id) } })
  | insertPendingReady id =>
      let made := newChannel w.runtime id
      choice.ran (made.1, { w with runtime := made.2 })
  | removePendingReady id =>
      choice.ran ((w.runtime.pendingReady.lookup id).map (ChannelId.mk id), { w with
        runtime := { w.runtime with pendingReady := w.runtime.pendingReady.erase id } })
  | dropSender channel =>
      choice.ran ((), { w with
        runtime := { w.runtime with
          channels := w.runtime.channels.modify channel ReadyChannel.dropSender } })
  | dropReceiver channel =>
      choice.ran ((), { w with
        runtime := { w.runtime with
          channels := w.runtime.channels.modify channel fun _ => .receiverDropped } })
  | sendReady channel ready =>
      if w.runtime.channels.lookup channel = some .waiting then
        choice.ran (true, { w with
          runtime := { w.runtime with
            channels := w.runtime.channels.modify channel fun _ => .sent ready } })
      else choice.ran (false, w)
  | awaitReady channel =>
      (waitFor choice w.runtime channel).map fun found =>
        (found.1, { w with runtime := found.2 })
  | startExitWatcher id runtimePid =>
      if w.runtime.exitWatchers.contains id then choice.ran ((), w)
      else
        choice.ran ((), { w with
          runtime := { w.runtime with
            exitWatchers := w.runtime.exitWatchers.upsert id ⟨runtimePid, false⟩ } })
  | removeWatcher id =>
      choice.ran ((), { w with
        runtime := { w.runtime with exitWatchers := w.runtime.exitWatchers.erase id } })
  | insertTerminatedEvent id =>
      choice.ran (decide (id ∉ w.runtime.terminatedEvents), { w with
        runtime := { w.runtime with
          terminatedEvents := id :: w.runtime.terminatedEvents.filter (· ≠ id) } })
  | trackShim id shimPid =>
      choice.ran ((), { w with
        runtime := { w.runtime with shimPids := w.runtime.shimPids.upsert id shimPid } })
  | forgetShim id =>
      choice.ran ((), { w with
        runtime := { w.runtime with shimPids := w.runtime.shimPids.erase id } })
  | removeTerminalSession id =>
      choice.ran ((), { w with terminalSessions := w.terminalSessions.filter (· ≠ id) })
  | insertTerminalSession id =>
      choice.ran ((), { w with
        terminalSessions := id :: w.terminalSessions.filter (· ≠ id) })
  | reapTerminal lifecycles =>
      let reaped := Session.reapExited w.terminalSessions lifecycles
      choice.ran (reaped.1, { w with terminalSessions := reaped.2 })
  | loopCursor =>
      match w.loop with
      | .busy cursor => choice.ran (cursor, w)
      | .idle _ => none
      | .unloaded => none
  | setLoop cursor => choice.ran ((), { w with loop := .idle cursor })
  | enterStage stage => choice.ran ((), { w with stage := stage })

/-- The start of a watcher can fail; the other operations cannot. -/
def exec (choice : Choice) (o : MemoryOp) (w : World) :
    Option (Except DaemonError o.Res × World) :=
  match choice, o with
  | .fault e, startExitWatcher _ _ => some (.error e, w)
  | choice, o => (o.run choice w).map fun result => (.ok result.1, result.2)

end MemoryOp

/-! ## Event log -/

/-- The operations on the runtime event log. -/
inductive LogOp where
  | appendEvent (event : RuntimeEvent)
  | pollEvents (since : Option EventCursor)

namespace LogOp

/-- What an operation on the log returns. -/
abbrev Res : LogOp → Type
  | appendEvent _ => RuntimeEvent
  | pollEvents _ => EventLogPage

/-- An append or a poll, or the append that fails. -/
def exec (choice : Choice) (o : LogOp) (log : EventLog) :
    Option (Except DaemonError o.Res × EventLog) :=
  match o with
  | appendEvent event =>
      match choice with
      | .appendFault stage e =>
          (log.appendFailed event stage).map fun log' => (.error e, log')
      | choice => choice.ran (.ok event, log.append event)
  | pollEvents since => choice.ran (.ok (log.eventsSince since), log)

end LogOp

/-! ## Operating system -/

/-- What the daemon asks of the machine: time, processes, panes, containers, and its shims. -/
inductive OsOp where
  | now
  | rounds
  | sleep
  | checkIsolation (request : RuntimeSpawnRequest)
  | prepareLaunch (request : RuntimeSpawnRequest)
  | isTmuxAlive (address : TmuxAddress)
  | logAvailability (lifecycle : Lifecycle)
  | launchShim (request : RuntimeSpawnRequest)
  | pidAlive (pid : Pid)
  | startTimeForPid (pid : Pid)
  | sendSignal (pid : Pid) (signal : RuntimeSignal)
  | dockerRunning (id : SessionId)
  | dockerKill (id : SessionId) (signal : RuntimeSignal)
  | deliverLaunch (id : SessionId)
  | ackReady (id : SessionId)

namespace OsOp

/-- What the machine answers. -/
abbrev Res : OsOp → Type
  | now => DateTime
  | rounds => Nat
  | sleep => Unit
  | checkIsolation _ => Unit
  | prepareLaunch _ => Unit
  | isTmuxAlive _ => Bool
  | logAvailability _ => LogAvailability
  | launchShim _ => Option String
  | pidAlive _ => Bool
  | startTimeForPid _ => ProcessStartTime
  | sendSignal _ _ => KillOutcome
  | dockerRunning _ => Bool
  | dockerKill _ _ => KillOutcome
  | deliverLaunch _ => Unit
  | ackReady _ => Unit

/-- Exit of a process that `SIGKILL` ended. -/
def killedExit : RuntimeExit := ⟨none, some 9⟩

/-- The answer of a probe, when it is one the probe can give. -/
def answer {α : Type} (possible : Bool) (a : α) (w : World) : Option (α × World) :=
  if possible then some (a, w) else none

/-- A signal to the runtimes under a pid. -/
def signalPid (w : World) (pid : Pid) (signal : RuntimeSignal) : World :=
  if signal = .kill then
    { w with
      shims := w.shims.mapRows fun _ shim =>
        if shim.runs pid then shim.endRuntime killedExit else shim }
  else w

/-- A signal to the container of a session. -/
def signalContainer (w : World) (id : SessionId) (signal : RuntimeSignal) : World :=
  { w with
    shims := w.shims.modify id fun shim =>
      let shim := { shim with signalled := true }
      if signal = .kill then shim.endRuntime killedExit else shim }

/-- A shim starts and asks for its launch spec. -/
def newShim (shimPid : Pid) : Shim where
  shimPid := shimPid
  alive := true
  readyAcked := false
  signalled := false
  phase := .requesting

/-- A shim whose request was granted. -/
def grantLaunch (shim : Shim) : Shim :=
  if shim.phase = .requesting then { shim with phase := .launched } else shim

/-- An operation on the machine that goes through. -/
def run (choice : Choice) (w : World) : (o : OsOp) → Option (o.Res × World)
  | now => choice.timed fun t => (t, w)
  | rounds =>
      match choice with
      | .count n => some (n, w)
      | _ => none
  | sleep => choice.ran ((), w)
  | checkIsolation _ => choice.ran ((), w)
  | prepareLaunch _ => choice.ran ((), w)
  | isTmuxAlive _ =>
      match choice with
      | .flag b => some (b, w)
      | _ => none
  | logAvailability _ =>
      match choice with
      | .logs a => some (a, w)
      | _ => none
  | launchShim request =>
      match choice with
      | .launch shimPid stdoutPath =>
          if w.shims.contains request.sessionId then none
          else
            some (stdoutPath,
              { w with shims := w.shims.insert request.sessionId (newShim shimPid) })
      | _ => none
  | pidAlive pid =>
      match choice with
      | .flag b => answer (b || w.pidGone pid) b w
      | _ => none
  | startTimeForPid pid =>
      match choice with
      | .startTime (.known t) => answer (w.startedAt pid t) (.known t) w
      | .startTime .gone => answer (w.pidGone pid) .gone w
      | .startTime .unsupported => some (.unsupported, w)
      | _ => none
  | sendSignal pid signal =>
      match choice with
      | .kill .signalled => some (.signalled, signalPid w pid signal)
      | .kill .alreadyExited => answer (w.pidGone pid) .alreadyExited w
      | _ => none
  | dockerRunning id =>
      match choice with
      | .flag b =>
          answer (b || !(w.shims.lookup id).any fun shim => shim.isRunning && shim.signalled) b w
      | _ => none
  | dockerKill id signal =>
      match choice with
      | .kill .signalled =>
          if (w.shims.lookup id).any Shim.isRunning then
            some (.signalled, signalContainer w id signal)
          else none
      | .kill .alreadyExited =>
          answer (!(w.shims.lookup id).any Shim.isRunning) .alreadyExited w
      | _ => none
  | deliverLaunch id => choice.ran ((), { w with shims := w.shims.modify id grantLaunch })
  | ackReady id =>
      choice.ran ((), { w with
        shims := w.shims.modify id fun shim => { shim with readyAcked := true } })

/-- Operations of the operating system that report no error. -/
def infallible : OsOp → Bool
  | now => true
  | rounds => true
  | sleep => true
  | logAvailability _ => true
  | pidAlive _ => true
  | deliverLaunch _ => true
  | ackReady _ => true
  | _ => false

/-- An operation on the machine, which may fail unless it cannot. -/
def exec (choice : Choice) (o : OsOp) (w : World) :
    Option (Except DaemonError o.Res × World) :=
  match choice with
  | .fault e => if o.infallible then none else some (.error e, w)
  | choice => (o.run choice w).map fun result => (.ok result.1, result.2)

end OsOp

/-! ## All operations -/

/-- The operations of the daemon. -/
inductive Op where
  | store (o : StoreOp)
  | memory (o : MemoryOp)
  | log (o : LogOp)
  | os (o : OsOp)

/-- What an operation returns. -/
abbrev Op.Res : Op → Type
  | store o => o.Res
  | memory o => o.Res
  | log o => o.Res
  | os o => o.Res

/-- An operation, with what the environment answers. -/
def Op.exec (choice : Choice) (w : World) :
    (o : Op) → Option (Except DaemonError o.Res × World)
  | store o => (o.exec choice w.db).map fun result => (result.1, { w with db := result.2 })
  | memory o => o.exec choice w
  | log o => (o.exec choice w.log).map fun result => (result.1, { w with log := result.2 })
  | os o => o.exec choice w

/-- The operations of the daemon, as a signature for programs. -/
abbrev daemonOps : Signature := ⟨Op, Op.Res⟩

/-- Programs of the daemon. -/
abbrev DaemonProg (α : Type) := Prog daemonOps DaemonError α

/-- A store call of a program. -/
abbrev store (o : StoreOp) : DaemonProg o.Res := Prog.call (S := daemonOps) (.store o)

/-- An access of a program to the memory. -/
abbrev memory (o : MemoryOp) : DaemonProg o.Res := Prog.call (S := daemonOps) (.memory o)

/-- An operation of a program on the event log. -/
abbrev log (o : LogOp) : DaemonProg o.Res := Prog.call (S := daemonOps) (.log o)

/-- A question of a program to the machine. -/
abbrev os (o : OsOp) : DaemonProg o.Res := Prog.call (S := daemonOps) (.os o)

end LittleOrgans.Concurrency
