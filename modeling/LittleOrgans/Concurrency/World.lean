import LittleOrgans.Runtime.EventLog
import LittleOrgans.Session.Observers
import LittleOrgans.Store.SpawnIntents

/-!
# The state the daemon's tasks share

Everything a task of the daemon can read or write between two awaits: the store,
the memory of the runtime daemon, the runtime event log, the driver's set of
reported sessions, the cursor of the event loop, and the shims with their runtime
processes. The store, the event log and the shims outlive a crash of the daemon
(`World.crashed`).

Left out: the launch specs (a pending launch is its session id), the output of
runtimes, and of the event log its file, its retention and the largest sequence
number, which `LittleOrgans.Runtime.EventLog` has.
-/

set_option autoImplicit false

namespace LittleOrgans.Concurrency

open LittleOrgans.Core
open LittleOrgans.Library
open LittleOrgans.Store
open LittleOrgans.Daemon
open LittleOrgans.Runtime (EventLogKey)

/-! ## Memory of the runtime daemon -/

/-- A oneshot channel of a spawn that waits for its shim. -/
structure ChannelId where
  sessionId : SessionId
  serial : Nat
  deriving DecidableEq

/-- Where a oneshot channel is. -/
inductive ReadyChannel where
  | waiting
  | sent (ready : ShimReady)
  | senderDropped
  | receiverDropped
  deriving DecidableEq

/-- `ProcessExitWatcher`; it fires once. -/
structure ExitWatcher where
  runtimePid : Pid
  fired : Bool
  deriving DecidableEq

/-- The maps and sets of the runtime's coordinators. A pending ready is the
serial of its channel. -/
structure RuntimeMemory where
  pendingLaunches : List SessionId
  pendingReady : Table SessionId Nat
  channels : Table ChannelId ReadyChannel
  nextSerial : Nat
  terminatedEvents : List SessionId
  exitWatchers : Table SessionId ExitWatcher
  shimPids : Table SessionId Pid

/-- The memory of a daemon that comes up. -/
def RuntimeMemory.new : RuntimeMemory where
  pendingLaunches := []
  pendingReady := .empty
  channels := .empty
  nextSerial := 0
  terminatedEvents := []
  exitWatchers := .empty
  shimPids := .empty

/-- Drops the sender of a channel: a receiver that still waits is told. -/
def ReadyChannel.dropSender : ReadyChannel → ReadyChannel
  | .waiting => .senderDropped
  | .sent ready => .sent ready
  | .senderDropped => .senderDropped
  | .receiverDropped => .receiverDropped

/-! ## The runtime event log -/

/-- An entry of the event log, with its sequence number. -/
structure EventLogEntry where
  seq : EventCursor
  event : RuntimeEvent
  deriving DecidableEq

/-- The event log in memory. -/
structure EventLog where
  events : List EventLogEntry
  seenEventKeys : List EventLogKey
  nextSeq : EventCursor

/-- A page of the log: the events behind a cursor, and the cursor behind them. -/
structure EventLogPage where
  events : List RuntimeEvent
  cursor : EventCursor
  deriving DecidableEq

/-- Where an append fails: before it has touched the log, after it has taken its
key and its sequence number, or after the entry was recorded. -/
inductive AppendFault where
  | untouched
  | unwritten
  | recorded
  deriving DecidableEq

namespace EventLog

/-- Opens the log that holds `events`. -/
def openWith (events : List EventLogEntry) : EventLog where
  events := events
  seenEventKeys := events.map fun entry => .fromEvent entry.event
  nextSeq := events.getLast?.elim 1 fun entry => entry.seq + 1

/-- Appends an event; a known key is not appended again. -/
def append (log : EventLog) (event : RuntimeEvent) : EventLog :=
  if .fromEvent event ∈ log.seenEventKeys then log
  else
    { events := log.events ++ [⟨log.nextSeq, event⟩]
      seenEventKeys := .fromEvent event :: log.seenEventKeys
      nextSeq := log.nextSeq + 1 }

/-- What a failed append leaves. An append of a known key does not fail late. -/
def appendFailed (log : EventLog) (event : RuntimeEvent) : AppendFault → Option EventLog
  | .untouched => some log
  | .unwritten =>
      if .fromEvent event ∈ log.seenEventKeys then none
      else
        some { log with
          seenEventKeys := .fromEvent event :: log.seenEventKeys
          nextSeq := log.nextSeq + 1 }
  | .recorded => if .fromEvent event ∈ log.seenEventKeys then none else some (log.append event)

/-- The events behind a cursor. -/
def eventsSince (log : EventLog) (since : Option EventCursor) : EventLogPage :=
  let cursor := since.getD 0
  { events := (log.events.filter fun entry => cursor < entry.seq).map EventLogEntry.event
    cursor := log.events.getLast?.elim cursor EventLogEntry.seq }

end EventLog

/-! ## Shims and runtime processes -/

/-- How far a shim has come with its runtime. -/
inductive ShimPhase where
  | requesting
  | launched
  | running (runtimePid : Pid) (startTime : DateTime)
  | ended (runtimePid : Pid) (startTime : DateTime) (exit : RuntimeExit)
  deriving DecidableEq

/-- A shim and its runtime process. -/
structure Shim where
  shimPid : Pid
  alive : Bool
  readyAcked : Bool
  signalled : Bool
  phase : ShimPhase
  deriving DecidableEq

/-- The shim's runtime runs under this pid. -/
def Shim.runs (runtimePid : Pid) (shim : Shim) : Bool :=
  match shim.phase with
  | .requesting => false
  | .launched => false
  | .running pid _ => pid = runtimePid
  | .ended _ _ _ => false

/-- The shim's runtime runs. -/
def Shim.isRunning (shim : Shim) : Bool :=
  match shim.phase with
  | .requesting => false
  | .launched => false
  | .running _ _ => true
  | .ended _ _ _ => false

/-- The runtime of a shim ends. -/
def Shim.endRuntime (exit : RuntimeExit) (shim : Shim) : Shim :=
  match shim.phase with
  | .requesting => shim
  | .launched => shim
  | .running pid startTime => { shim with phase := .ended pid startTime exit }
  | .ended _ _ _ => shim

/-! ## The world -/

/-- Where the event loop is. -/
inductive LoopState where
  | unloaded
  | busy (cursor : Option EventCursor)
  | idle (cursor : Option EventCursor)
  deriving DecidableEq

/-- How far the daemon has come up: its runtime reconciles, its background tasks
run, it accepts connections. -/
inductive Stage where
  | down
  | booting
  | built
  | listening
  deriving DecidableEq

/-- The background tasks run. -/
def Stage.isBuilt : Stage → Bool
  | .down => false
  | .booting => false
  | .built => true
  | .listening => true

/-- What the tasks of the daemon share, with the shims. -/
structure World where
  db : Database
  runtime : RuntimeMemory
  log : EventLog
  terminalSessions : List SessionId
  loop : LoopState
  shims : Table SessionId Shim
  usedIds : List SessionId
  stage : Stage

namespace World

/-- A fresh store, no event log, no process. -/
def fresh (createdAt : DateTime) : World where
  db := .migrated createdAt
  runtime := .new
  log := .openWith []
  terminalSessions := []
  loop := .unloaded
  shims := .empty
  usedIds := []
  stage := .down

/-- What is left when the daemon is gone. -/
def crashed (w : World) : World :=
  { w with
    runtime := .new
    log := .openWith w.log.events
    terminalSessions := []
    loop := .unloaded
    stage := .down }

/-- No runtime runs under this pid. -/
def pidGone (w : World) (runtimePid : Pid) : Bool :=
  w.shims.rows.all fun row => !row.2.runs runtimePid

/-- The runtimes under this pid started at this time. -/
def startedAt (w : World) (runtimePid : Pid) (startTime : DateTime) : Bool :=
  w.shims.rows.all fun row => row.2.phase = .running runtimePid startTime || !row.2.runs runtimePid

end World

end LittleOrgans.Concurrency
