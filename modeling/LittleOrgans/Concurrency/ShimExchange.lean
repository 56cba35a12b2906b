import LittleOrgans.Concurrency.ShimProgress
import LittleOrgans.Library.StepSystem

/-!
# The exchange of a daemon with its shims

A shim sends its launch request, its ready report and its exit report again when
the connection drops before the reply. The exchange is the daemon together with
the copies: the first copy of a message is a thread of the daemon, every further
one is handled beside them, and a reply can be lost. A copy of a ready report can
start an exit watcher; while no thread has started it as well, it is handled
beside the threads too.

`once` leaves the copies out of a run and lets the first replies arrive; what the
environment would answer to a thread is part of the run, so that the rest of it
stays the same. The second half of the module says what one operation does in two
worlds that differ in what only copies have done: in what the shims know of their
replies (`informed`) and in the exit watchers (`withWatchers`).
-/

set_option autoImplicit false

namespace LittleOrgans.Concurrency

open LittleOrgans.Core
open LittleOrgans.Library
open LittleOrgans.Store
open LittleOrgans.Daemon

/-! ## The exchange -/

/-- The three messages of the shim of a session. -/
inductive ShimMessage where
  | launch (id : SessionId)
  | ready (id : SessionId)
  | exit (id : SessionId)
  deriving DecidableEq

/-- The message a program was started for. -/
def Origin.message : Origin → Option ShimMessage
  | .shimLaunch id => some (.launch id)
  | .shimReady ready => some (.ready ready.sessionId)
  | .shimExit exit => some (.exit exit.sessionId)
  | _ => none

/-- The daemon with the copies that its shims have sent. -/
structure Exchange where
  pool : Pool watched
  /-- Messages of which a first copy has come. -/
  received : List ShimMessage
  /-- Messages whose first copy has been answered. -/
  answered : List ShimMessage
  /-- The exit watchers as the threads alone have set them. -/
  watchers : Table SessionId ExitWatcher
  /-- The handlers of the other copies, and the watchers that only these have started. -/
  copies : List (Thread watched)

/-- What can happen in an exchange. -/
inductive ExchangeStep where
  | start (origin : Origin)
  | run (t : Nat) (answers : Op → Choice)
  | env (event : EnvEvent)
  | crash
  | loseReply (t : Nat)
  | resend (origin : Origin)
  | watch (id : SessionId)
  | copy (n : Nat) (answers : Op → Choice)

/-- The reply a thread is about to send to its shim. -/
def replyOf (thread : Thread watched) : Option ShimMessage :=
  match thread.prog with
  | .op (.os (.deliverLaunch id)) _ =>
      if thread.origin.message = some (.launch id) then some (.launch id) else none
  | .op (.os (.ackReady id)) _ =>
      if thread.origin.message = some (.ready id) then some (.ready id) else none
  | _ => none

/-- What handles a request from its beginning on. -/
def Origin.handler (origin : Origin) : Thread watched := ⟨origin, origin.program, .first origin⟩

/-- What an operation does to the exit watchers. -/
def Op.setWatchers (o : Op) (choice : Choice) (watchers : Table SessionId ExitWatcher) :
    Table SessionId ExitWatcher :=
  match o with
  | .memory (.startExitWatcher id runtimePid) =>
      match choice with
      | .run =>
          if watchers.contains id then watchers else watchers.upsert id ⟨runtimePid, false⟩
      | _ => watchers
  | .memory (.removeWatcher id) => watchers.erase id
  | _ => watchers

/-- The world with these exit watchers. -/
def World.withWatchers (w : World) (watchers : Table SessionId ExitWatcher) : World :=
  { w with runtime := { w.runtime with exitWatchers := watchers } }

namespace Exchange

/-- Nothing has been sent yet. -/
def initial (w : World) : Exchange := ⟨.initial watched w, [], [], w.runtime.exitWatchers, []⟩

/-- The world without the watchers that only copies have started. -/
def unaided (c : Exchange) : World := c.pool.shared.withWatchers c.watchers

/-- The daemon takes a step of its own. -/
def onPool (c : Exchange) (pool : Pool watched) : Exchange := { c with pool := pool }

/-- The first copy of a message, or any other request. A watcher that only copies
have started is none of them. -/
def startFirst (c : Exchange) (origin : Origin) : Option Exchange :=
  if origin.message.any fun m => m ∈ c.received then none
  else
    (c.unaided.start origin).bind fun unaided =>
      (c.pool.next (.start origin)).map fun pool =>
        { c with
          pool := pool
          received := origin.message.toList ++ c.received
          watchers := unaided.runtime.exitWatchers }

/-- The next operation of a thread; a thread that has ended stays as it is. -/
def runThread (c : Exchange) (t : Nat) (answers : Op → Choice) : Option Exchange :=
  (c.pool.threads t).bind fun thread =>
    match thread.prog with
    | .ret _ => some c
    | .fail _ => some c
    | .op o _ =>
        (c.pool.runThread t (answers o) thread).map fun pool =>
          { c with
            pool := pool
            answered := (replyOf thread).toList ++ c.answered
            watchers := o.setWatchers (answers o) c.watchers }

/-- A reply that does not reach its shim. -/
def loseReply (c : Exchange) (t : Nat) : Option Exchange :=
  (c.pool.threads t).bind fun thread =>
    if (replyOf thread).isSome then
      (c.pool.runThread t .run thread).map fun pool =>
        { c with
          pool := { pool with shared := c.pool.shared }
          answered := (replyOf thread).toList ++ c.answered }
    else none

/-- A further copy, from a shim that has had no reply. -/
def resend (c : Exchange) (origin : Origin) : Option Exchange :=
  if (origin.message.any fun m => m ∈ c.received) ∧ (c.pool.shared.start origin).isSome then
    some { c with copies := c.copies ++ [origin.handler] }
  else none

/-- A watcher fires that only copies have started. -/
def watch (c : Exchange) (id : SessionId) : Option Exchange :=
  if (c.unaided.start (.exitWatcher id)).isSome then none
  else
    (c.pool.shared.start (.exitWatcher id)).map fun w =>
      { c with
        pool := { c.pool with shared := w }
        copies := c.copies ++ [(Origin.exitWatcher id).handler] }

/-- The next operation of the handler of a copy. -/
def runCopy (c : Exchange) (n : Nat) (answers : Op → Choice) : Option Exchange :=
  (c.copies[n]?).bind fun copy =>
    match copy.prog with
    | .ret _ => none
    | .fail _ => none
    | .op o k =>
        (o.exec (answers o) c.pool.shared).map fun result =>
          { c with
            pool := { c.pool with shared := result.2 }
            copies := c.copies.set n ⟨copy.origin, k result.1, copy.know.next o result.1⟩ }

/-- One step of the exchange. -/
def step (c : Exchange) : ExchangeStep → Option Exchange
  | .start origin => c.startFirst origin
  | .run t answers => c.runThread t answers
  | .env event => (c.pool.next (.env event)).map c.onPool
  | .crash =>
      (c.pool.next .crash).map fun pool =>
        { c with pool := pool, watchers := .empty, copies := [] }
  | .loseReply t => c.loseReply t
  | .resend origin => c.resend origin
  | .watch id => c.watch id
  | .copy n answers => c.runCopy n answers

end Exchange

/-- The exchange as a system of steps. -/
def exchange : StepSystem Exchange ExchangeStep := ⟨Exchange.step⟩

/-- The step as it is when each message comes once and is answered. -/
def ExchangeStep.once : ExchangeStep → Option ExchangeStep
  | .start origin => some (.start origin)
  | .run t answers => some (.run t answers)
  | .env event => some (.env event)
  | .crash => some .crash
  | .loseReply t => some (.run t fun _ => .run)
  | .resend _ => none
  | .watch _ => none
  | .copy _ _ => none

/-! ## What is compared -/

/-- What the program of a thread has returned. -/
def Exchange.outcome (c : Exchange) (t : Nat) : Option (Except DaemonError Reply) :=
  (c.pool.threads t).bind fun thread =>
    match thread.prog with
    | .ret a => some (.ok a)
    | .fail e => some (.error e)
    | .op _ _ => none

/-- Rows, events and outcomes are the same. -/
structure SameResult (c d : Exchange) : Prop where
  rows : ∀ id, d.pool.shared.db.getLifecycle id = c.pool.shared.db.getLifecycle id
  events : d.pool.shared.log.events = c.pool.shared.log.events
  outcomes : ∀ t, d.outcome t = c.outcome t

/-- The shims have come equally far with their runtimes. -/
def SameShims (c d : Exchange) : Prop :=
  ∀ id, (d.pool.shared.shims.lookup id).map Shim.phase =
    (c.pool.shared.shims.lookup id).map Shim.phase

/-- No thread and no copy has anything left to do. -/
def Exchange.Final (c : Exchange) : Prop :=
  c.pool.Quiescent ∧ ∀ copy ∈ c.copies, copy.isDone = true

/-! ## Worlds in which the first replies have arrived -/

/-- A shim knows that its ready report was answered. -/
def ackedIn (answered : List ShimMessage) (id : SessionId) (shim : Shim) : Shim :=
  if .ready id ∈ answered then { shim with readyAcked := true } else shim

/-- The world once all answered shims know it, with these exit watchers. What is tracked
of the shims' pids, and the order in which sessions were entered, does not matter. -/
def World.informed (w : World) (answered : List ShimMessage)
    (watchers : Table SessionId ExitWatcher) (entered : List SessionId)
    (shimPids : Table SessionId Pid) : World :=
  { w with
    runtime := { w.runtime with
      terminatedEvents := entered
      exitWatchers := watchers
      shimPids := shimPids }
    shims := w.shims.mapRows (ackedIn answered) }

/-- The second world is the first one, once all answered shims know it. -/
def Informed (answered : List ShimMessage) (watchers : Table SessionId ExitWatcher)
    (w v : World) : Prop :=
  ∃ entered shimPids, v = w.informed answered watchers entered shimPids ∧
    ∀ id, id ∈ entered ↔ id ∈ w.runtime.terminatedEvents

section Shims

variable (answered : List ShimMessage) (id : SessionId) (shim : Shim)

@[simp]
theorem phase_ackedIn : (ackedIn answered id shim).phase = shim.phase := by
  rw [ackedIn]
  split <;> rfl

@[simp]
theorem alive_ackedIn : (ackedIn answered id shim).alive = shim.alive := by
  rw [ackedIn]
  split <;> rfl

@[simp]
theorem signalled_ackedIn : (ackedIn answered id shim).signalled = shim.signalled := by
  rw [ackedIn]
  split <;> rfl

@[simp]
theorem runs_ackedIn (pid : Pid) : (ackedIn answered id shim).runs pid = shim.runs pid := by
  rw [Shim.runs, phase_ackedIn, Shim.runs]

@[simp]
theorem isRunning_ackedIn : (ackedIn answered id shim).isRunning = shim.isRunning := by
  rw [Shim.isRunning, phase_ackedIn, Shim.isRunning]

theorem readyAcked_ackedIn (h : shim.readyAcked = true) :
    (ackedIn answered id shim).readyAcked = true := by
  rw [ackedIn]
  split
  · rfl
  · exact h

/-- What happens to a shim does not depend on what it knows of its report. -/
theorem endRuntime_ackedIn (exit : RuntimeExit) :
    (ackedIn answered id shim).endRuntime exit = ackedIn answered id (shim.endRuntime exit) := by
  obtain ⟨shimPid, alive, acked, signalled, phase⟩ := shim
  rw [ackedIn, ackedIn]
  split <;> cases phase <;> rfl

theorem grantLaunch_ackedIn :
    OsOp.grantLaunch (ackedIn answered id shim) = ackedIn answered id (OsOp.grantLaunch shim) := by
  obtain ⟨shimPid, alive, acked, signalled, phase⟩ := shim
  rw [ackedIn, ackedIn]
  split <;> cases phase <;> rfl

theorem ack_ackedIn :
    { ackedIn answered id shim with readyAcked := true } =
      ackedIn answered id { shim with readyAcked := true } := by
  rw [ackedIn, ackedIn]
  split <;> rfl

theorem signal_ackedIn :
    { ackedIn answered id shim with signalled := true } =
      ackedIn answered id { shim with signalled := true } := by
  rw [ackedIn, ackedIn]
  split <;> rfl

end Shims

section Worlds

variable {answered : List ShimMessage} {watchers : Table SessionId ExitWatcher}
  {w w' v : World} {choice : Choice}

/-- One shim changes, in both worlds. -/
theorem modify_informed (shims : Table SessionId Shim) (id : SessionId) {f : Shim → Shim}
    (hf : ∀ id' shim, f (ackedIn answered id' shim) = ackedIn answered id' (f shim)) :
    (shims.mapRows (ackedIn answered)).modify id f =
      (shims.modify id f).mapRows (ackedIn answered) := by
  rw [Table.modify, Table.modify, Table.mapRows_mapRows, Table.mapRows_mapRows]
  refine Table.mapRows_congr fun id' shim _ => ?_
  by_cases hid : id' = id
  · rw [if_pos hid, if_pos hid]
    exact hf id' shim
  · rw [if_neg hid, if_neg hid]

theorem pidGone_informed (entered : List SessionId) (shimPids : Table SessionId Pid) (pid : Pid) :
    (w.informed answered watchers entered shimPids).pidGone pid = w.pidGone pid := by
  show ((w.shims.rows.map fun row => (row.1, ackedIn answered row.1 row.2)).all _) = _
  rw [List.all_map]
  simp [World.pidGone, Function.comp_def]

theorem startedAt_informed (entered : List SessionId) (shimPids : Table SessionId Pid) (pid : Pid)
    (startTime : DateTime) :
    (w.informed answered watchers entered shimPids).startedAt pid startTime =
      w.startedAt pid startTime := by
  show ((w.shims.rows.map fun row => (row.1, ackedIn answered row.1 row.2)).all _) = _
  rw [List.all_map]
  simp [World.startedAt, Function.comp_def]

/-- A question about a shim that does not ask for its report. -/
theorem any_informed (entered : List SessionId) (shimPids : Table SessionId Pid) (id : SessionId)
    {p : Shim → Bool} (hp : ∀ id' shim, p (ackedIn answered id' shim) = p shim) :
    ((w.informed answered watchers entered shimPids).shims.lookup id).any p =
      (w.shims.lookup id).any p := by
  show ((w.shims.mapRows (ackedIn answered)).lookup id).any p = _
  rw [Table.lookup_mapRows]
  cases w.shims.lookup id with
  | none => rfl
  | some shim => exact hp id shim

theorem contains_informed (entered : List SessionId) (shimPids : Table SessionId Pid)
    (id : SessionId) : (w.informed answered watchers entered shimPids).shims.contains id =
      w.shims.contains id := by
  show ((w.shims.mapRows (ackedIn answered)).lookup id).isSome = _
  rw [Table.lookup_mapRows, Option.isSome_map]
  rfl

/-! ### Operations -/

theorem store_informed {o : StoreOp} {r : Except DaemonError o.Res}
    (hexec : Op.exec choice w (.store o) = some (r, w')) (h : Informed answered watchers w v) :
    ∃ v', Op.exec choice v (.store o) = some (r, v') ∧ Informed answered watchers w' v' := by
  obtain ⟨entered, shimPids, rfl, hmem⟩ := h
  obtain ⟨db, hrun, rfl⟩ := Op.exec_store hexec
  refine ⟨({ w with db := db } : World).informed answered watchers entered shimPids, ?_,
    entered, shimPids, rfl, hmem⟩
  show (o.exec choice w.db).map _ = _
  rw [hrun]
  rfl

theorem log_informed {o : LogOp} {r : Except DaemonError o.Res}
    (hexec : Op.exec choice w (.log o) = some (r, w')) (h : Informed answered watchers w v) :
    ∃ v', Op.exec choice v (.log o) = some (r, v') ∧ Informed answered watchers w' v' := by
  obtain ⟨entered, shimPids, rfl, hmem⟩ := h
  obtain ⟨log, hrun, rfl⟩ := Op.exec_log hexec
  refine ⟨({ w with log := log } : World).informed answered watchers entered shimPids, ?_,
    entered, shimPids, rfl, hmem⟩
  show (o.exec choice w.log).map _ = _
  rw [hrun]
  rfl

/-- What the receiver of a channel finds depends on the channel only. -/
theorem waitFor_informed {m m' : RuntimeMemory} {channel : ChannelId} {found : ReadyWait}
    (h : MemoryOp.waitFor choice m channel = some (found, m')) (entered : List SessionId)
    (shimPids : Table SessionId Pid) :
    m'.terminatedEvents = m.terminatedEvents ∧
      MemoryOp.waitFor choice
          { m with
            terminatedEvents := entered
            exitWatchers := watchers
            shimPids := shimPids } channel =
        some (found,
          { m' with
            terminatedEvents := entered
            exitWatchers := watchers
            shimPids := shimPids }) := by
  unfold MemoryOp.waitFor at h ⊢
  dsimp only at h ⊢
  cases hchannel : m.channels.lookup channel with
  | none =>
      rw [hchannel] at h
      cases h
  -- what a wait finds is in the channel, which both worlds share
  | some state =>
      rw [hchannel] at h
      cases state with
      | sent ready =>
          simp only [Choice.ran_eq_some, Prod.mk.injEq] at h ⊢
          obtain ⟨hrun, hfound, rfl⟩ := h
          exact ⟨rfl, hrun, hfound, rfl⟩
      | senderDropped =>
          simp only [Choice.ran_eq_some, Prod.mk.injEq] at h ⊢
          obtain ⟨hrun, hfound, rfl⟩ := h
          exact ⟨rfl, hrun, hfound, rfl⟩
      | receiverDropped => cases h
      | waiting =>
          cases choice with
          | elapsed =>
              cases h
              exact ⟨rfl, rfl⟩
          | _ => cases h

/-- The start of a watcher, in any table of them. -/
theorem startExitWatcher_run (choice : Choice) (w : World) (id : SessionId) (pid : Pid) :
    MemoryOp.run choice w (.startExitWatcher id pid) =
      choice.ran ((), w.withWatchers
        ((Op.memory (.startExitWatcher id pid)).setWatchers .run w.runtime.exitWatchers)) := by
  unfold MemoryOp.run Op.setWatchers
  dsimp only
  split <;> rfl

theorem memory_run_informed {o : MemoryOp} {a : o.Res} (hrun : o.run choice w = some (a, w'))
    (h : Informed answered watchers w v) :
    ∃ v', o.run choice v = some (a, v') ∧
      Informed answered ((Op.memory o).setWatchers choice watchers) w' v' := by
  obtain ⟨entered, shimPids, rfl, hmem⟩ := h
  cases o with
  | insertTerminatedEvent id =>
      simp only [MemoryOp.run, Choice.ran_eq_some, Prod.mk.injEq] at hrun ⊢
      obtain ⟨hchoice, rfl, rfl⟩ := hrun
      -- The sets differ in order; what is in them does not.
      refine ⟨_, ⟨hchoice, ?_, rfl⟩, id :: entered.filter (· ≠ id), shimPids, rfl, fun id' => ?_⟩
      · show decide (id ∉ entered) = _
        rw [decide_eq_decide, hmem]
      · show _ ↔ id' ∈ id :: w.runtime.terminatedEvents.filter (· ≠ id)
        rw [List.mem_cons, List.mem_cons, List.mem_filter, List.mem_filter, hmem]
  | trackShim id shimPid =>
      simp only [MemoryOp.run, Choice.ran_eq_some, Prod.mk.injEq] at hrun ⊢
      obtain ⟨hchoice, ha, rfl⟩ := hrun
      exact ⟨_, ⟨hchoice, ha, rfl⟩, entered, shimPids.upsert id shimPid, rfl, hmem⟩
  | forgetShim id =>
      simp only [MemoryOp.run, Choice.ran_eq_some, Prod.mk.injEq] at hrun ⊢
      obtain ⟨hchoice, ha, rfl⟩ := hrun
      exact ⟨_, ⟨hchoice, ha, rfl⟩, entered, shimPids.erase id, rfl, hmem⟩
  | startExitWatcher id pid =>
      rw [startExitWatcher_run] at hrun
      obtain ⟨rfl, heq⟩ := Choice.ran_eq_some.mp hrun
      cases heq
      refine ⟨_, ?_, entered, shimPids, rfl, hmem⟩
      rw [startExitWatcher_run]
      rfl
  | sendReady channel ready =>
      by_cases hwaiting : w.runtime.channels.lookup channel = some .waiting
      · rw [MemoryOp.run, if_pos hwaiting] at hrun
        obtain ⟨hchoice, heq⟩ := Choice.ran_eq_some.mp hrun
        cases heq
        refine ⟨_, ?_, entered, shimPids, rfl, hmem⟩
        rw [MemoryOp.run]
        exact (if_pos hwaiting).trans (Choice.ran_eq_some.mpr ⟨hchoice, rfl⟩)
      · rw [MemoryOp.run, if_neg hwaiting] at hrun
        obtain ⟨hchoice, heq⟩ := Choice.ran_eq_some.mp hrun
        cases heq
        refine ⟨w.informed answered watchers entered shimPids, ?_, entered, shimPids, rfl, hmem⟩
        rw [MemoryOp.run]
        exact (if_neg hwaiting).trans (Choice.ran_eq_some.mpr ⟨hchoice, rfl⟩)
  | awaitReady channel =>
      obtain ⟨⟨found, m⟩, hfound, hresult⟩ := Option.map_eq_some_iff.mp hrun
      cases hresult
      obtain ⟨hentered, hwait⟩ := waitFor_informed hfound entered shimPids
      refine ⟨_, Option.map_eq_some_iff.mpr ⟨_, hwait, rfl⟩, entered, shimPids, rfl, fun id => ?_⟩
      show _ ↔ id ∈ m.terminatedEvents
      rw [hentered]
      exact hmem id
  | loopCursor =>
      have hloop : (w.informed answered watchers entered shimPids).loop = w.loop := rfl
      rw [MemoryOp.run] at hrun
      cases hstate : w.loop with
      | unloaded =>
          rw [hstate] at hrun
          cases hrun
      | idle cursor =>
          rw [hstate] at hrun
          cases hrun
      | busy cursor =>
          rw [hstate] at hrun
          obtain ⟨hchoice, heq⟩ := Choice.ran_eq_some.mp hrun
          cases heq
          refine ⟨w.informed answered watchers entered shimPids, ?_, entered, shimPids, rfl, hmem⟩
          rw [MemoryOp.run, hloop, hstate]
          exact Choice.ran_eq_some.mpr ⟨hchoice, rfl⟩
  | _ =>
      simp only [MemoryOp.run, Choice.ran_eq_some, Prod.mk.injEq] at hrun ⊢
      obtain ⟨hchoice, ha, rfl⟩ := hrun
      exact ⟨_, ⟨hchoice, ha, rfl⟩, entered, shimPids, rfl, hmem⟩

theorem memory_informed {o : MemoryOp} {r : Except DaemonError o.Res}
    (hexec : Op.exec choice w (.memory o) = some (r, w')) (h : Informed answered watchers w v) :
    ∃ v', Op.exec choice v (.memory o) = some (r, v') ∧
      Informed answered ((Op.memory o).setWatchers choice watchers) w' v' := by
  cases r with
  | error e =>
      obtain ⟨rfl, id, pid, rfl⟩ := MemoryOp.exec_error hexec
      cases choice with
      | fault e' =>
          cases hexec
          exact ⟨v, rfl, h⟩
      | _ =>
          obtain ⟨result, -, hresult⟩ := Option.map_eq_some_iff.mp hexec
          cases hresult
  | ok a =>
      obtain ⟨v', hrun, hinformed⟩ := memory_run_informed (MemoryOp.exec_ok hexec) h
      refine ⟨v', ?_, hinformed⟩
      show o.exec choice v = _
      unfold MemoryOp.exec
      split
      · -- a watcher whose start fails returns no value
        cases hexec
      · rw [hrun]
        rfl

/-- The shims change in the same way in both worlds. -/
theorem withShims_informed {shims shims' : Table SessionId Shim} (entered : List SessionId)
    (shimPids : Table SessionId Pid) (h : shims' = shims.mapRows (ackedIn answered)) :
    { w.informed answered watchers entered shimPids with shims := shims' } =
      ({ w with shims := shims } : World).informed answered watchers entered shimPids := by
  rw [h]
  rfl

/-- A probe that gives the same answer in both worlds. -/
theorem answer_informed {α : Type} {possible possible' : Bool} {a b : α}
    (hrun : OsOp.answer possible a w = some (b, w')) (hsame : possible' = possible)
    (h : Informed answered watchers w v) :
    ∃ v', OsOp.answer possible' a v = some (b, v') ∧ Informed answered watchers w' v' := by
  obtain ⟨hpossible, rfl, rfl⟩ := OsOp.answer_eq_some.mp hrun
  exact ⟨v, OsOp.answer_eq_some.mpr ⟨hsame.trans hpossible, rfl, rfl⟩, h⟩

/-- The runtimes under a pid take a signal in both worlds. -/
theorem signalPid_informed (entered : List SessionId) (shimPids : Table SessionId Pid) (pid : Pid)
    (signal : RuntimeSignal) :
    OsOp.signalPid (w.informed answered watchers entered shimPids) pid signal =
      (OsOp.signalPid w pid signal).informed answered watchers entered shimPids := by
  unfold OsOp.signalPid
  split
  · refine withShims_informed entered shimPids ?_
    show (w.shims.mapRows (ackedIn answered)).mapRows _ = _
    rw [Table.mapRows_mapRows, Table.mapRows_mapRows]
    refine Table.mapRows_congr fun id shim _ => ?_
    rw [runs_ackedIn, endRuntime_ackedIn]
    split <;> rfl
  · rfl

theorem signalContainer_informed (entered : List SessionId) (shimPids : Table SessionId Pid)
    (id : SessionId) (signal : RuntimeSignal) :
    OsOp.signalContainer (w.informed answered watchers entered shimPids) id signal =
      (OsOp.signalContainer w id signal).informed answered watchers entered shimPids := by
  unfold OsOp.signalContainer
  refine withShims_informed entered shimPids (modify_informed w.shims id fun id' shim => ?_)
  dsimp only
  rw [signal_ackedIn]
  split
  · exact endRuntime_ackedIn answered id' _ OsOp.killedExit
  · rfl

theorem os_run_informed {o : OsOp} {a : o.Res} (hrun : o.run choice w = some (a, w'))
    (hpresent : ∀ id, .ready id ∈ answered → w.shims.contains id = true)
    (h : Informed answered watchers w v) :
    ∃ v', o.run choice v = some (a, v') ∧ Informed answered watchers w' v' := by
  cases o with
  | now =>
      obtain ⟨now, hchoice, heq⟩ := Choice.timed_eq_some.mp hrun
      cases heq
      exact ⟨v, Choice.timed_eq_some.mpr ⟨_, hchoice, rfl⟩, h⟩
  | sleep =>
      obtain ⟨hchoice, heq⟩ := Choice.ran_eq_some.mp hrun
      cases heq
      exact ⟨v, Choice.ran_eq_some.mpr ⟨hchoice, rfl⟩, h⟩
  | checkIsolation request =>
      obtain ⟨hchoice, heq⟩ := Choice.ran_eq_some.mp hrun
      cases heq
      exact ⟨v, Choice.ran_eq_some.mpr ⟨hchoice, rfl⟩, h⟩
  | prepareLaunch request =>
      obtain ⟨hchoice, heq⟩ := Choice.ran_eq_some.mp hrun
      cases heq
      exact ⟨v, Choice.ran_eq_some.mpr ⟨hchoice, rfl⟩, h⟩
  | rounds =>
      cases choice with
      | count n =>
          cases hrun
          exact ⟨v, rfl, h⟩
      | _ => cases hrun
  | isTmuxAlive address =>
      cases choice with
      | flag b =>
          cases hrun
          exact ⟨v, rfl, h⟩
      | _ => cases hrun
  | logAvailability lc =>
      cases choice with
      | logs answer =>
          cases hrun
          exact ⟨v, rfl, h⟩
      | _ => cases hrun
  | launchShim request =>
      cases choice with
      | launch shimPid stdoutPath =>
          obtain ⟨entered, shimPids, rfl, hmem⟩ := h
          rw [OsOp.run] at hrun
          split at hrun
          · cases hrun
          · next hnew =>
              cases hrun
              -- no report of a shim that is not there was answered
              have hunanswered : .ready request.sessionId ∉ answered :=
                fun hready => hnew (hpresent _ hready)
              have hshim : ackedIn answered request.sessionId (OsOp.newShim shimPid) =
                  OsOp.newShim shimPid := if_neg hunanswered
              have hnew' : ¬(w.informed answered watchers entered shimPids).shims.contains
                  request.sessionId = true := by
                rw [contains_informed]
                exact hnew
              refine ⟨_, ?_, entered, shimPids, rfl, hmem⟩
              rw [OsOp.run, if_neg hnew']
              congr 2
              refine withShims_informed entered shimPids ?_
              rw [Table.mapRows_insert, hshim]
              rfl
      | _ => cases hrun
  | pidAlive pid =>
      cases choice with
      | flag b =>
          refine answer_informed hrun ?_ h
          obtain ⟨entered, shimPids, rfl, hmem⟩ := h
          rw [pidGone_informed]
      | _ => cases hrun
  | startTimeForPid pid =>
      cases choice with
      | startTime answer =>
          cases answer with
          | known startTime =>
              refine answer_informed hrun ?_ h
              obtain ⟨entered, shimPids, rfl, hmem⟩ := h
              rw [startedAt_informed]
          | gone =>
              refine answer_informed hrun ?_ h
              obtain ⟨entered, shimPids, rfl, hmem⟩ := h
              rw [pidGone_informed]
          | unsupported =>
              cases hrun
              exact ⟨v, rfl, h⟩
      | _ => cases hrun
  | sendSignal pid signal =>
      cases choice with
      | kill answer =>
          cases answer with
          | alreadyExited =>
              refine answer_informed hrun ?_ h
              obtain ⟨entered, shimPids, rfl, hmem⟩ := h
              rw [pidGone_informed]
          | signalled =>
              obtain ⟨entered, shimPids, rfl, hmem⟩ := h
              cases hrun
              refine ⟨_, rfl, entered, shimPids, signalPid_informed entered shimPids pid signal, ?_⟩
              intro id
              rw [hmem]
              unfold OsOp.signalPid
              split <;> exact Iff.rfl
      | _ => cases hrun
  | dockerRunning id =>
      cases choice with
      | flag b =>
          refine answer_informed hrun ?_ h
          obtain ⟨entered, shimPids, rfl, hmem⟩ := h
          rw [any_informed]
          intro id' shim
          rw [isRunning_ackedIn, signalled_ackedIn]
      | _ => cases hrun
  | dockerKill id signal =>
      cases choice with
      | kill answer =>
          cases answer with
          | alreadyExited =>
              refine answer_informed hrun ?_ h
              obtain ⟨entered, shimPids, rfl, hmem⟩ := h
              rw [any_informed]
              exact fun id' shim => isRunning_ackedIn answered id' shim
          | signalled =>
              obtain ⟨entered, shimPids, rfl, hmem⟩ := h
              have hany : ((w.informed answered watchers entered shimPids).shims.lookup id).any
                  Shim.isRunning = (w.shims.lookup id).any Shim.isRunning :=
                any_informed entered shimPids id fun id' shim =>
                  isRunning_ackedIn answered id' shim
              rw [OsOp.run] at hrun
              split at hrun
              · next hrunning =>
                  cases hrun
                  refine ⟨_, ?_, entered, shimPids,
                    signalContainer_informed entered shimPids id signal, hmem⟩
                  rw [OsOp.run, if_pos (hany.trans hrunning)]
              · cases hrun
      | _ => cases hrun
  | deliverLaunch id =>
      obtain ⟨entered, shimPids, rfl, hmem⟩ := h
      obtain ⟨hchoice, heq⟩ := Choice.ran_eq_some.mp hrun
      cases heq
      refine ⟨_, Choice.ran_eq_some.mpr ⟨hchoice, rfl⟩, entered, shimPids, ?_, hmem⟩
      exact withShims_informed entered shimPids
        (modify_informed w.shims id fun id' shim => grantLaunch_ackedIn answered id' shim)
  | ackReady id =>
      obtain ⟨entered, shimPids, rfl, hmem⟩ := h
      obtain ⟨hchoice, heq⟩ := Choice.ran_eq_some.mp hrun
      cases heq
      refine ⟨_, Choice.ran_eq_some.mpr ⟨hchoice, rfl⟩, entered, shimPids, ?_, hmem⟩
      exact withShims_informed entered shimPids
        (modify_informed w.shims id fun id' shim => ack_ackedIn answered id' shim)

theorem os_informed {o : OsOp} {r : Except DaemonError o.Res}
    (hexec : Op.exec choice w (.os o) = some (r, w'))
    (hpresent : ∀ id, .ready id ∈ answered → w.shims.contains id = true)
    (h : Informed answered watchers w v) :
    ∃ v', Op.exec choice v (.os o) = some (r, v') ∧ Informed answered watchers w' v' := by
  cases r with
  | error e =>
      obtain ⟨rfl, hfallible⟩ := OsOp.exec_error hexec
      cases choice with
      | fault e' =>
          change (if o.infallible = true then none else some (Except.error e', w')) = _ at hexec
          refine ⟨v, ?_, h⟩
          show (if o.infallible = true then none else some (Except.error e', v)) = _
          rw [hfallible] at hexec ⊢
          cases hexec
          rfl
      | _ =>
          obtain ⟨result, -, hresult⟩ := Option.map_eq_some_iff.mp hexec
          cases hresult
  | ok a =>
      obtain ⟨v', hrun, hinformed⟩ := os_run_informed (OsOp.exec_ok hexec) hpresent h
      refine ⟨v', ?_, hinformed⟩
      show o.exec choice v = _
      cases choice with
      | fault e =>
          change (if o.infallible = true then none else some (Except.error e, w)) = _ at hexec
          split at hexec <;> cases hexec
      | _ =>
          show (o.run _ v).map _ = _
          rw [hrun]
          rfl

/-- One operation, in both worlds. -/
theorem exec_informed {o : Op} {r : Except DaemonError o.Res}
    (hexec : o.exec choice w = some (r, w'))
    (hpresent : ∀ id, .ready id ∈ answered → w.shims.contains id = true)
    (h : Informed answered watchers w v) :
    ∃ v', o.exec choice v = some (r, v') ∧
      Informed answered (o.setWatchers choice watchers) w' v' := by
  cases o with
  | store o => exact store_informed hexec h
  | memory o => exact memory_informed hexec h
  | log o => exact log_informed hexec h
  | os o => exact os_informed hexec hpresent h

/-! ### Starts and the environment -/

theorem guarded_informed {possible possible' : Bool} {w₁ v₁ : World}
    (h : World.guarded possible w₁ = some w') (hsame : possible = true → possible' = true)
    (hinformed : Informed answered w₁.runtime.exitWatchers w₁ v₁) :
    ∃ v', World.guarded possible' v₁ = some v' ∧
      Informed answered w'.runtime.exitWatchers w' v' := by
  obtain ⟨hpossible, rfl⟩ := World.guarded_eq_some.mp h
  exact ⟨v₁, World.guarded_eq_some.mpr ⟨hsame hpossible, rfl⟩, hinformed⟩

theorem start_informed {origin : Origin} (hstart : w.start origin = some w')
    (hnew : ∀ id, origin.message = some (.ready id) → .ready id ∉ answered)
    (h : Informed answered w.runtime.exitWatchers w v) :
    ∃ v', v.start origin = some v' ∧ Informed answered w'.runtime.exitWatchers w' v' := by
  obtain ⟨entered, shimPids, rfl, hmem⟩ := h
  have hself : Informed answered w.runtime.exitWatchers w
      (w.informed answered w.runtime.exitWatchers entered shimPids) :=
    ⟨entered, shimPids, rfl, hmem⟩
  cases origin with
  | boot => exact guarded_informed hstart id ⟨entered, shimPids, rfl, hmem⟩
  | startEventLoop => exact guarded_informed hstart id ⟨entered, shimPids, rfl, hmem⟩
  | eventLoopRound =>
      have hloop : (w.informed answered w.runtime.exitWatchers entered shimPids).loop = w.loop :=
        rfl
      rw [World.start] at hstart ⊢
      rw [hloop]
      cases hstate : w.loop with
      | unloaded =>
          rw [hstate] at hstart
          cases hstart
      | busy cursor =>
          rw [hstate] at hstart
          cases hstart
      | idle cursor =>
          rw [hstate] at hstart
          exact guarded_informed hstart id ⟨entered, shimPids, rfl, hmem⟩
  | refreshExits => exact guarded_informed hstart id hself
  | reconcileOnce => exact guarded_informed hstart id hself
  | removeNamespaceCatalog slug => exact guarded_informed hstart id hself
  | spawn call => exact guarded_informed hstart id ⟨entered, shimPids, rfl, hmem⟩
  | kill request => exact guarded_informed hstart id hself
  | shimLaunch id =>
      refine guarded_informed hstart (fun hpossible => ?_) hself
      rw [any_informed]
      · exact hpossible
      · intro id' shim
        rw [alive_ackedIn, phase_ackedIn]
  | shimReady ready =>
      refine guarded_informed hstart (fun hpossible => ?_) hself
      -- This shim was not answered, so it is the same in both exchanges.
      have hsame : (w.informed answered w.runtime.exitWatchers entered shimPids).shims.lookup
          ready.sessionId = w.shims.lookup ready.sessionId := by
        show (w.shims.mapRows (ackedIn answered)).lookup _ = _
        rw [Table.lookup_mapRows]
        cases w.shims.lookup ready.sessionId with
        | none => rfl
        | some shim => exact congrArg some (if_neg (hnew _ rfl))
      rw [hsame]
      exact hpossible
  | shimExit exit =>
      refine guarded_informed hstart (fun hpossible => ?_) hself
      rw [Bool.and_eq_true] at hpossible ⊢
      -- A shim that counts as acked reports what it reported.
      refine ⟨hpossible.1, ?_⟩
      have hreports := hpossible.2
      show ((w.shims.mapRows (ackedIn answered)).lookup _).any _ = true
      rw [Table.lookup_mapRows]
      cases hshim : w.shims.lookup exit.sessionId with
      | none =>
          rw [hshim] at hreports
          cases hreports
      | some shim =>
          rw [hshim] at hreports
          rw [Option.map_some, Option.any_some] at *
          rw [Shim.reportsExit, phase_ackedIn, alive_ackedIn]
          rw [Shim.reportsExit] at hreports
          cases hphase : shim.phase with
          | ended pid startTime ended =>
              rw [hphase] at hreports
              simp only [decide_eq_true_eq] at hreports ⊢
              exact ⟨hreports.1, readyAcked_ackedIn answered _ shim hreports.2.1, hreports.2.2⟩
          | _ =>
              rw [hphase] at hreports
              cases hreports
  | exitWatcher id =>
      refine guarded_informed hstart (fun hpossible => ?_) ⟨entered, shimPids, rfl, hmem⟩
      have hfires : (w.informed answered w.runtime.exitWatchers entered shimPids).watcherFires id =
          w.watcherFires id := by
        rw [World.watcherFires, World.watcherFires]
        have hwatchers : (w.informed answered w.runtime.exitWatchers entered
            shimPids).runtime.exitWatchers = w.runtime.exitWatchers := rfl
        rw [hwatchers]
        cases w.runtime.exitWatchers.lookup id with
        | none => rfl
        | some watcher =>
            dsimp only
            rw [any_informed]
            exact fun id' shim => runs_ackedIn answered id' shim _
      rw [hfires]
      exact hpossible

/-- A request starts in the same way with other exit watchers, when it starts. -/
theorem start_withWatchers {origin : Origin} {u : World} (hstart : w.start origin = some w')
    (hunaided : (w.withWatchers watchers).start origin = some u) :
    u = w'.withWatchers u.runtime.exitWatchers := by
  cases origin with
  | eventLoopRound =>
      have hloop : (w.withWatchers watchers).loop = w.loop := rfl
      rw [World.start] at hstart hunaided
      rw [hloop] at hunaided
      cases hstate : w.loop with
      | unloaded =>
          rw [hstate] at hstart
          cases hstart
      | busy cursor =>
          rw [hstate] at hstart
          cases hstart
      | idle cursor =>
          rw [hstate] at hstart hunaided
          rw [← (World.guarded_eq_some.mp hstart).2, ← (World.guarded_eq_some.mp hunaided).2]
          rfl
  | _ =>
      rw [← (World.guarded_eq_some.mp hstart).2, ← (World.guarded_eq_some.mp hunaided).2]
      rfl

theorem env_informed {event : EnvEvent} (henv : w.env event = some w')
    (h : Informed answered watchers w v) :
    ∃ v', v.env event = some v' ∧ Informed answered watchers w' v' := by
  obtain ⟨entered, shimPids, rfl, hmem⟩ := h
  -- the children run and end under the same shims in both worlds
  cases event with
  | childStarts id pid startTime =>
      obtain ⟨hpossible, rfl⟩ := World.guarded_eq_some.mp henv
      refine ⟨_, World.guarded_eq_some.mpr ⟨?_, rfl⟩, entered, shimPids, ?_, hmem⟩
      · rw [pidGone_informed, any_informed]
        · exact hpossible
        · intro id' shim
          rw [alive_ackedIn, phase_ackedIn]
      · refine withShims_informed entered shimPids (modify_informed w.shims id fun id' shim => ?_)
        rw [ackedIn, ackedIn]
        split <;> rfl
  | childEnds id exit =>
      cases henv
      exact ⟨_, rfl, entered, shimPids, withShims_informed entered shimPids
        (modify_informed w.shims id fun id' shim => endRuntime_ackedIn answered id' shim exit),
        hmem⟩
  | shimDies id =>
      cases henv
      refine ⟨_, rfl, entered, shimPids, withShims_informed entered shimPids
        (modify_informed w.shims id fun id' shim => ?_), hmem⟩
      rw [ackedIn, ackedIn]
      split <;> rfl

/-- Nothing is left of the memory after a crash. -/
theorem crash_informed (h : Informed answered watchers w v) :
    Informed answered .empty w.crashed v.crashed := by
  obtain ⟨entered, shimPids, rfl, hmem⟩ := h
  exact ⟨[], .empty, rfl, fun id => Iff.rfl⟩

end Worlds

end LittleOrgans.Concurrency
