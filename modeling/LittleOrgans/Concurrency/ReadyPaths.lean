import LittleOrgans.Concurrency.Effects

/-!
# The two ways of taking a ready report

A shim reports once that its runtime runs. The report goes to the spawn that waits
for it, which records the row (`record_running`); when no spawn waits, as after a
restart of the daemon, the handler of the report records it
(`record_reconnected_ready`).

Both write the same state, pids and start time. They do not leave the daemon in the
same state: only the first one tracks the shim, and the second one takes the pane
from the report, not from the spawn request (`ready_paths_differ`).
-/

set_option autoImplicit false

namespace LittleOrgans.Concurrency

open LittleOrgans.Core
open LittleOrgans.Library
open LittleOrgans.Store
open LittleOrgans.Daemon

/-! ## Programs that run alone -/

/-- What an operation can answer and leave, when nothing runs beside it. -/
def Answers (w : World) (o : Op) (r : Except DaemonError o.Res) (w' : World) : Prop :=
  ∃ choice, o.exec choice w = some (r, w')

section Answers

variable {w w' : World}

theorem answers_getLifecycle {id : SessionId} {found : Option Lifecycle} :
    Answers w (.store (.getLifecycle id)) (.ok found) w' ↔
      found = w.db.getLifecycle id ∧ w' = w := by
  constructor
  · rintro ⟨choice, h⟩
    obtain ⟨db, hexec, rfl⟩ := Op.exec_store h
    obtain ⟨rfl, rfl⟩ := StoreOp.exec_ok hexec
    exact ⟨rfl, rfl⟩
  · rintro ⟨rfl, rfl⟩
    exact ⟨.run, rfl⟩

theorem answers_updateLifecycle {lc : Lifecycle} {u : Unit} :
    Answers w (.store (.updateLifecycle lc)) (.ok u) w' ↔
      ∃ db, w.db.updateLifecycle lc = .ok db ∧ w' = { w with db := db } := by
  constructor
  · rintro ⟨choice, h⟩
    obtain ⟨db, hexec, rfl⟩ := Op.exec_store h
    exact ⟨db, StoreOp.exec_ok hexec, rfl⟩
  · rintro ⟨db, hupdate, rfl⟩
    refine ⟨.run, ?_⟩
    simp only [Op.exec, StoreOp.exec, StoreOp.run, Choice.ran, hupdate, StoreOp.transact,
      Option.map_some]

/-- A memory operation that succeeds. -/
theorem answers_memory {o : MemoryOp} {a : o.Res} (h : Answers w (.memory o) (.ok a) w') :
    ∃ choice, o.run choice w = some (a, w') := by
  obtain ⟨choice, hexec⟩ := h
  exact ⟨choice, MemoryOp.exec_ok hexec⟩

theorem answers_memory_of_run {o : MemoryOp} {a : o.Res} (h : o.run .run w = some (a, w')) :
    Answers w (.memory o) (.ok a) w' := by
  refine ⟨.run, ?_⟩
  simp only [Op.exec, MemoryOp.exec, h, Option.map_some]

theorem answers_log {o : LogOp} {r : Except DaemonError o.Res} (h : Answers w (.log o) r w') :
    ∃ log, w' = { w with log := log } := by
  obtain ⟨choice, hexec⟩ := h
  obtain ⟨log, -, rfl⟩ := Op.exec_log hexec
  exact ⟨log, rfl⟩

theorem answers_os {o : OsOp} {r : Except DaemonError o.Res} (h : Answers w (.os o) r w') :
    ∃ shims, w' = { w with shims := shims } := by
  obtain ⟨choice, hexec⟩ := h
  exact ⟨w'.shims, OsOp.frame hexec⟩

end Answers

/-! ## The two ways -/

/-- The report reaches the spawn that waits on the channel: the handler of the report, then
what is left of the spawn. -/
def readyForWaiter (request : RuntimeSpawnRequest) (channel : ChannelId) (appendEvent : Bool)
    (ready : ShimReady) : DaemonProg (Lifecycle × RuntimeEvent) := do
  completeShimReady ready
  let waited ← memory (.awaitReady channel)
  let reported ← readyOrError waited
  recordRunning request reported appendEvent

/-- The forking row of a launched spawn. -/
structure ForkingFor (db : Database) (request : RuntimeSpawnRequest) (lc : Lifecycle) : Prop where
  row : db.getLifecycle request.sessionId = some lc
  state : lc.state = .forking
  runtime : lc.runtime = request.runtime

/-- A spawn that waits for its shim on a channel of this serial. -/
structure WaitingSpawn (w : World) (request : RuntimeSpawnRequest) (lc : Lifecycle)
    (serial : Nat) : Prop where
  row : ForkingFor w.db request lc
  pending : w.runtime.pendingReady.lookup request.sessionId = some serial
  waiting : w.runtime.channels.lookup ⟨request.sessionId, serial⟩ = some .waiting

/-- No spawn waits for the shim of a forking row, and the daemon does not know the shim. -/
structure UnawaitedSpawn (w : World) (request : RuntimeSpawnRequest) (lc : Lifecycle) : Prop where
  row : ForkingFor w.db request lc
  unawaited : w.runtime.pendingReady.lookup request.sessionId = none
  untracked : w.runtime.shimPids.lookup request.sessionId = none

/-- What the report determines of a row, the pane apart. -/
structure SameProcess (lc lc' : Lifecycle) : Prop where
  state : lc.state = lc'.state
  shimPid : lc.shimPid = lc'.shimPid
  runtimePid : lc.runtimePid = lc'.runtimePid
  startTime : lc.startTime = lc'.startTime

/-- Both daemons have recorded the same row, and track the same shim for shutdown. -/
structure ReadyRecordedAlike (id : SessionId) (w₁ w₂ : World) : Prop where
  row : ∃ lc₁ lc₂, w₁.db.getLifecycle id = some lc₁ ∧ w₂.db.getLifecycle id = some lc₂ ∧
    SameProcess lc₁ lc₂ ∧ lc₁.tmuxPane = lc₂.tmuxPane
  tracked : w₁.runtime.shimPids.lookup id = w₂.runtime.shimPids.lookup id

/-! ## What each way leaves -/

theorem exists_updateLifecycle {db : Database} {lc old : Lifecycle}
    (h : db.getLifecycle lc.sessionId = some old) : ∃ db', db.updateLifecycle lc = .ok db' := by
  obtain ⟨row, hrow, -⟩ := Option.map_eq_some_iff.mp h
  rw [Database.updateLifecycle, if_pos (Table.contains_iff.mpr ⟨row, hrow⟩)]
  exact ⟨_, rfl⟩

/-- The start of a watcher leaves the tracked shims. -/
theorem shimPids_startExitWatcher {choice : Choice} {w w' : World} {id : SessionId}
    {runtimePid : Pid} {u : Unit}
    (h : (MemoryOp.startExitWatcher id runtimePid).run choice w = some (u, w')) :
    w'.db = w.db ∧ w'.runtime.shimPids = w.runtime.shimPids := by
  rw [MemoryOp.run] at h
  split at h <;> simp only [Choice.ran_eq_some, Prod.mk.injEq] at h <;> rw [← h.2.2] <;>
    exact ⟨rfl, rfl⟩

section Ways

variable {w w' : World} {request : RuntimeSpawnRequest} {ready : ShimReady} {lc : Lifecycle}

theorem markRunning_of_forking (h : lc.state = .forking) :
    lc.markRunning ready =
      (true, { lc with
        state := .running
        shimPid := some ready.shimPid
        runtimePid := some ready.runtimePid
        startTime := some ready.startTime
        tmuxPane := ready.tmuxPane }) := by
  rw [Lifecycle.markRunning, if_neg (not_not.mpr h)]

/-- `record_running` of the spawn coordinator writes the row of the report, with the pane of
the request. -/
theorem recordRunningRow_row {appendEvent : Bool} {result : Lifecycle × RuntimeEvent}
    (hrow : ForkingFor w.db request lc)
    (hrun : (recordRunningRow request ready appendEvent).Runs Answers w (.ok result) w') :
    ∃ logs, w'.db.getLifecycle request.sessionId =
      some (storedLifecycle (runningLifecycle request ready lc logs)) := by
  obtain ⟨found, w₁, hread, hrest⟩ := Prog.runs_bind_ok.mp hrun
  obtain ⟨rfl, rfl⟩ := answers_getLifecycle.mp (Prog.runs_call.mp hread)
  -- the row is forking and of the same runtime, so neither guard stops the program
  rw [hrow.row] at hrest
  have hmarked : (lc.markRunning ready).1 = true := by
    rw [markRunning_of_forking hrow.state]
  simp only [hrow.runtime, ne_eq, not_true_eq_false, if_false, hmarked, if_true] at hrest
  obtain ⟨logs, w₂, hlogs, hrest⟩ := Prog.runs_bind_ok.mp hrest
  obtain ⟨shims, rfl⟩ := answers_os (Prog.runs_call.mp hlogs)
  obtain ⟨⟨⟩, w₃, hwrite, hrest⟩ := Prog.runs_bind_ok.mp hrest
  obtain ⟨db, hupdate, rfl⟩ := answers_updateLifecycle.mp (Prog.runs_call.mp hwrite)
  -- behind the write: the event, the watcher, and the log where it is asked for
  obtain ⟨event, w₄, hevent, hrest⟩ := Prog.runs_bind_ok.mp hrest
  obtain ⟨-, rfl⟩ := Prog.runs_ofExcept.mp hevent
  obtain ⟨⟨⟩, w₅, hwatch, hrest⟩ := Prog.runs_bind_ok.mp hrest
  obtain ⟨choice, hstart⟩ := answers_memory (Prog.runs_call.mp hwatch)
  obtain ⟨hdb, -⟩ := shimPids_startExitWatcher hstart
  have hw' : w'.db = w₅.db := by
    cases appendEvent with
    | false => rw [hrest.2]
    | true =>
        obtain ⟨event, w₆, happend, hrest⟩ := Prog.runs_bind_ok.mp hrest
        obtain ⟨log, rfl⟩ := answers_log (Prog.runs_call.mp happend)
        rw [hrest.2]
  refine ⟨logs, ?_⟩
  have hid : (runningLifecycle request ready lc logs).sessionId = request.sessionId := by
    rw [runningLifecycle, markRunning_of_forking hrow.state]
    show lc.sessionId = request.sessionId
    exact Database.sessionId_of_getLifecycle hrow.row
  rw [hw', hdb, Database.getLifecycle_update hupdate, if_pos hid.symm]

/-- The waiting spawn tracks the shim at its end. -/
theorem recordRunning_leaves {appendEvent : Bool} {result : Lifecycle × RuntimeEvent}
    (hrun : (recordRunning request ready appendEvent).Runs Answers w (.ok result) w')
    (hrow : ForkingFor w.db request lc) :
    (∃ logs, w'.db.getLifecycle request.sessionId =
      some (storedLifecycle (runningLifecycle request ready lc logs))) ∧
      w'.runtime.shimPids.lookup ready.sessionId = some ready.shimPid := by
  obtain ⟨recorded, w₁, hrecord, hrest⟩ := Prog.runs_bind_ok.mp hrun
  obtain ⟨logs, hlogs⟩ := recordRunningRow_row hrow hrecord
  obtain ⟨⟨⟩, w₂, htrack, hrest⟩ := Prog.runs_bind_ok.mp hrest
  obtain ⟨choice, htracked⟩ := answers_memory (Prog.runs_call.mp htrack)
  simp only [MemoryOp.run, Choice.ran_eq_some, Prod.mk.injEq] at htracked
  obtain ⟨-, rfl⟩ := hrest
  rw [← htracked.2.2]
  exact ⟨⟨logs, hlogs⟩, by rw [Table.lookup_upsert, if_pos rfl]⟩

/-- The handler of a report that no spawn waits for writes the row of the report, and leaves
the tracked shims. -/
theorem recordReconnectedReady_leaves
    (hrun : (recordReconnectedReady ready).Runs Answers w (.ok ()) w')
    (hready : ready.sessionId = request.sessionId) (hrow : ForkingFor w.db request lc) :
    w'.db.getLifecycle request.sessionId = some (storedLifecycle (lc.markRunning ready).2) ∧
      w'.runtime.shimPids = w.runtime.shimPids := by
  obtain ⟨found, w₁, hread, hrest⟩ := Prog.runs_bind_ok.mp hrun
  obtain ⟨rfl, rfl⟩ := answers_getLifecycle.mp (Prog.runs_call.mp hread)
  rw [hready, hrow.row] at hrest
  simp only [hrow.state] at hrest
  obtain ⟨⟨⟩, w₂, hwrite, hrest⟩ := Prog.runs_bind_ok.mp hrest
  obtain ⟨db, hupdate, rfl⟩ := answers_updateLifecycle.mp (Prog.runs_call.mp hwrite)
  obtain ⟨event, w₃, hevent, hrest⟩ := Prog.runs_bind_ok.mp hrest
  obtain ⟨-, rfl⟩ := Prog.runs_ofExcept.mp hevent
  obtain ⟨⟨⟩, w₄, hwatch, hrest⟩ := Prog.runs_bind_ok.mp hrest
  obtain ⟨choice, hstart⟩ := answers_memory (Prog.runs_call.mp hwatch)
  obtain ⟨hdb, hshims⟩ := shimPids_startExitWatcher hstart
  obtain ⟨event', w₅, happend, hrest⟩ := Prog.runs_bind_ok.mp hrest
  obtain ⟨log, rfl⟩ := answers_log (Prog.runs_call.mp happend)
  obtain ⟨-, rfl⟩ := hrest
  have hid : (lc.markRunning ready).2.sessionId = request.sessionId := by
    rw [markRunning_of_forking hrow.state]
    show lc.sessionId = request.sessionId
    exact Database.sessionId_of_getLifecycle hrow.row
  refine ⟨?_, hshims⟩
  show w₄.db.getLifecycle request.sessionId = _
  rw [hdb, Database.getLifecycle_update hupdate, if_pos hid.symm]

/-- A report that a spawn waits for reaches it. -/
theorem readyForWaiter_leaves {serial : Nat} {appendEvent : Bool}
    {result : Lifecycle × RuntimeEvent} (hready : ready.sessionId = request.sessionId)
    (hwaits : WaitingSpawn w request lc serial)
    (hrun : (readyForWaiter request ⟨request.sessionId, serial⟩ appendEvent ready).Runs
      Answers w (.ok result) w') :
    (∃ logs, w'.db.getLifecycle request.sessionId =
      some (storedLifecycle (runningLifecycle request ready lc logs))) ∧
      w'.runtime.shimPids.lookup request.sessionId = some ready.shimPid := by
  obtain ⟨⟨⟩, w₁, hcomplete, hrest⟩ := Prog.runs_bind_ok.mp hrun
  obtain ⟨removed, w₂, hremove, hsend⟩ := Prog.runs_bind_ok.mp hcomplete
  obtain ⟨choice, hremoved⟩ := answers_memory (Prog.runs_call.mp hremove)
  simp only [MemoryOp.run, Choice.ran_eq_some, Prod.mk.injEq] at hremoved
  obtain ⟨-, rfl, rfl⟩ := hremoved
  rw [hready, hwaits.pending] at hsend
  obtain ⟨sent, w₃, hsend, hdone⟩ := Prog.runs_bind_ok.mp hsend
  obtain ⟨choice, hsent⟩ := answers_memory (Prog.runs_call.mp hsend)
  simp only [MemoryOp.run, hwaits.waiting, if_true, Choice.ran_eq_some, Prod.mk.injEq] at hsent
  obtain ⟨-, rfl, rfl⟩ := hsent
  obtain ⟨-, rfl⟩ := hdone
  obtain ⟨waited, w₄, hawait, hrest⟩ := Prog.runs_bind_ok.mp hrest
  obtain ⟨choice, hawaited⟩ := answers_memory (Prog.runs_call.mp hawait)
  simp only [MemoryOp.run, MemoryOp.waitFor, Table.lookup_modify, if_true, hwaits.waiting,
    Option.map_some, Option.map_eq_some_iff, Choice.ran_eq_some, Prod.mk.injEq] at hawaited
  obtain ⟨⟨found, m⟩, ⟨-, rfl, rfl⟩, rfl, rfl⟩ := hawaited
  obtain ⟨reported, w₅, hreported, hrecord⟩ := Prog.runs_bind_ok.mp hrest
  obtain ⟨⟨⟩, rfl⟩ := hreported
  have hleaves := recordRunning_leaves hrecord hwaits.row
  rw [hready] at hleaves
  exact hleaves

/-! ## Both ways can be gone -/

theorem runs_call_bind_ok {σ α : Type}
    {step : σ → (o : Op) → Except DaemonError o.Res → σ → Prop} {s s₁ s' : σ} {o : Op} {a : o.Res}
    {f : o.Res → DaemonProg α} {b : α} (h : step s o (.ok a) s₁)
    (hrest : (f a).Runs step s₁ (.ok b) s') :
    ((Prog.call (S := daemonOps) o : DaemonProg o.Res) >>= f).Runs step s (.ok b) s' :=
  Prog.runs_bind_ok.mpr ⟨a, s₁, Prog.runs_call.mpr h, hrest⟩

theorem answers_startExitWatcher (w : World) (id : SessionId) (runtimePid : Pid) :
    ∃ w', Answers w (.memory (.startExitWatcher id runtimePid)) (.ok ()) w' := by
  by_cases hwatched : w.runtime.exitWatchers.contains id = true
  · refine ⟨w, answers_memory_of_run ?_⟩
    rw [MemoryOp.run, if_pos hwatched]
    rfl
  · refine ⟨{ w with
      runtime := { w.runtime with
        exitWatchers := w.runtime.exitWatchers.upsert id ⟨runtimePid, false⟩ } },
      answers_memory_of_run ?_⟩
    rw [MemoryOp.run, if_neg hwatched]
    rfl

theorem answers_appendEvent (w : World) (event : RuntimeEvent) :
    Answers w (.log (.appendEvent event)) (.ok event) { w with log := w.log.append event } :=
  ⟨.run, rfl⟩

theorem answers_logAvailability (w : World) (lc : Lifecycle) (logs : LogAvailability) :
    Answers w (.os (.logAvailability lc)) (.ok logs) w :=
  ⟨.logs logs, rfl⟩

theorem answers_trackShim (w : World) (id : SessionId) (shimPid : Pid) :
    ∃ w', Answers w (.memory (.trackShim id shimPid)) (.ok ()) w' :=
  ⟨_, .run, rfl⟩

theorem recordRunningRow_succeeds (ready : ShimReady) (appendEvent : Bool)
    (hrow : ForkingFor w.db request lc) :
    ∃ result w', (recordRunningRow request ready appendEvent).Runs Answers w (.ok result) w' := by
  -- both guards let the program pass
  have hmarked : (lc.markRunning ready).1 = true := by
    rw [markRunning_of_forking hrow.state]
  have hevent : ∃ event,
      runningEvent (runningLifecycle request ready lc .unavailable) = .ok event := by
    rw [runningLifecycle, markRunning_of_forking hrow.state]
    exact ⟨_, rfl⟩
  have hold : w.db.getLifecycle (runningLifecycle request ready lc .unavailable).sessionId =
      some lc := by
    rw [runningLifecycle, markRunning_of_forking hrow.state,
      show _ = request.sessionId from Database.sessionId_of_getLifecycle hrow.row]
    exact hrow.row
  -- the states the program goes through
  obtain ⟨event, hevent⟩ := hevent
  obtain ⟨db, hdb⟩ := exists_updateLifecycle hold
  obtain ⟨w₁, hwatch⟩ :=
    answers_startExitWatcher { w with db := db } request.sessionId ready.runtimePid
  have htail : ∃ result w', (if appendEvent then do
      let event ← log (.appendEvent event)
      return (runningLifecycle request ready lc .unavailable, event)
    else return (runningLifecycle request ready lc .unavailable, event) :
      DaemonProg (Lifecycle × RuntimeEvent)).Runs Answers w₁ (.ok result) w' := by
    cases appendEvent with
    | false => exact ⟨_, w₁, rfl, rfl⟩
    | true => exact ⟨_, _, runs_call_bind_ok (answers_appendEvent w₁ event) ⟨rfl, rfl⟩⟩
  obtain ⟨result, w', htail⟩ := htail
  refine ⟨result, w', runs_call_bind_ok (answers_getLifecycle.mpr ⟨rfl, rfl⟩) ?_⟩
  rw [hrow.row]
  simp only [hrow.runtime, ne_eq, not_true_eq_false, if_false, hmarked, if_true]
  refine runs_call_bind_ok (answers_logAvailability w _ .unavailable) ?_
  refine runs_call_bind_ok ((answers_updateLifecycle (u := ())).mpr ⟨db, hdb, rfl⟩) ?_
  refine Prog.runs_bind_ok.mpr ⟨event, _, Prog.runs_ofExcept.mpr ⟨hevent.symm, rfl⟩, ?_⟩
  exact runs_call_bind_ok hwatch htail

theorem recordRunning_succeeds (ready : ShimReady) (appendEvent : Bool)
    (hrow : ForkingFor w.db request lc) :
    ∃ result w', (recordRunning request ready appendEvent).Runs Answers w (.ok result) w' := by
  obtain ⟨result, w₁, hrecord⟩ := recordRunningRow_succeeds ready appendEvent hrow
  obtain ⟨w', htrack⟩ := answers_trackShim w₁ ready.sessionId ready.shimPid
  exact ⟨result, w', Prog.runs_bind_ok.mpr ⟨result, w₁, hrecord,
    runs_call_bind_ok htrack ⟨rfl, rfl⟩⟩⟩

theorem recordReconnectedReady_succeeds (hready : ready.sessionId = request.sessionId)
    (hrow : ForkingFor w.db request lc) :
    ∃ w', (recordReconnectedReady ready).Runs Answers w (.ok ()) w' := by
  have hevent : ∃ event, runningEvent (lc.markRunning ready).2 = .ok event := by
    rw [markRunning_of_forking hrow.state]
    exact ⟨_, rfl⟩
  have hold : w.db.getLifecycle (lc.markRunning ready).2.sessionId = some lc := by
    rw [markRunning_of_forking hrow.state,
      show _ = request.sessionId from Database.sessionId_of_getLifecycle hrow.row]
    exact hrow.row
  obtain ⟨event, hevent⟩ := hevent
  obtain ⟨db, hdb⟩ := exists_updateLifecycle hold
  obtain ⟨w₁, hwatch⟩ := answers_startExitWatcher { w with db := db } lc.sessionId ready.runtimePid
  refine ⟨{ w₁ with log := w₁.log.append event },
    runs_call_bind_ok (answers_getLifecycle.mpr ⟨rfl, rfl⟩) ?_⟩
  rw [hready, hrow.row]
  simp only [hrow.state]
  refine runs_call_bind_ok ((answers_updateLifecycle (u := ())).mpr ⟨db, hdb, rfl⟩) ?_
  refine Prog.runs_bind_ok.mpr ⟨event, _, Prog.runs_ofExcept.mpr ⟨hevent.symm, rfl⟩, ?_⟩
  refine runs_call_bind_ok hwatch ?_
  exact runs_call_bind_ok (answers_appendEvent w₁ event) ⟨rfl, rfl⟩

/-- The waiter of a channel is sent the report. -/
theorem readyForWaiter_succeeds {serial : Nat} (appendEvent : Bool)
    (hready : ready.sessionId = request.sessionId) (hwaits : WaitingSpawn w request lc serial) :
    ∃ result w', (readyForWaiter request ⟨request.sessionId, serial⟩ appendEvent ready).Runs
      Answers w (.ok result) w' := by
  -- the channel is taken from the pending ones, and then holds the report
  let erased : World := { w with
    runtime := { w.runtime with pendingReady := w.runtime.pendingReady.erase request.sessionId } }
  let sent : World := { erased with
    runtime := { erased.runtime with
      channels := erased.runtime.channels.modify ⟨request.sessionId, serial⟩
        fun _ => .sent ready } }
  have hremove : Answers w (.memory (.removePendingReady ready.sessionId))
      (.ok (some ⟨request.sessionId, serial⟩)) erased := by
    refine answers_memory_of_run ?_
    simp only [MemoryOp.run, Choice.ran, hready, hwaits.pending, Option.map_some]
    rfl
  have hsend : Answers erased (.memory (.sendReady ⟨request.sessionId, serial⟩ ready))
      (.ok true) sent := by
    refine answers_memory_of_run ?_
    rw [MemoryOp.run, if_pos hwaits.waiting]
    rfl
  have hawait : Answers sent (.memory (.awaitReady ⟨request.sessionId, serial⟩))
      (.ok (.ready ready)) sent := by
    have hchannel : sent.runtime.channels.lookup ⟨request.sessionId, serial⟩ =
        some (.sent ready) := by
      show (w.runtime.channels.modify _ _).lookup _ = _
      rw [Table.lookup_modify, if_pos rfl, hwaits.waiting, Option.map_some]
    refine answers_memory_of_run ?_
    simp only [MemoryOp.run, MemoryOp.waitFor, hchannel, Choice.ran, Option.map_some]
  obtain ⟨result, w', hrecord⟩ := recordRunning_succeeds (w := sent) ready appendEvent hwaits.row
  refine ⟨result, w', Prog.runs_bind_ok.mpr ⟨(), sent, ?_, ?_⟩⟩
  · exact runs_call_bind_ok hremove (runs_call_bind_ok hsend ⟨rfl, rfl⟩)
  · exact runs_call_bind_ok hawait (Prog.runs_bind_ok.mpr ⟨ready, sent, ⟨rfl, rfl⟩, hrecord⟩)

/-- The handler of a report that no spawn waits for records it. -/
theorem completeShimReady_unawaited (hready : ready.sessionId = request.sessionId)
    (hnone : UnawaitedSpawn w request lc) :
    (∃ w', (completeShimReady ready).Runs Answers w (.ok ()) w') ∧
      ∀ w', (completeShimReady ready).Runs Answers w (.ok ()) w' →
        w'.db.getLifecycle request.sessionId = some (storedLifecycle (lc.markRunning ready).2) ∧
          w'.runtime.shimPids.lookup request.sessionId = none := by
  constructor
  · let erased : World := { w with
      runtime := { w.runtime with pendingReady := w.runtime.pendingReady.erase request.sessionId } }
    have hremove : Answers w (.memory (.removePendingReady ready.sessionId)) (.ok none) erased := by
      refine answers_memory_of_run ?_
      simp only [MemoryOp.run, Choice.ran, hready, hnone.unawaited, Option.map_none]
      rfl
    obtain ⟨w', hrecord⟩ := recordReconnectedReady_succeeds (w := erased) hready hnone.row
    exact ⟨w', runs_call_bind_ok hremove hrecord⟩
  · intro w' hrun
    obtain ⟨removed, w₁, hremove, hrecord⟩ := Prog.runs_bind_ok.mp hrun
    obtain ⟨choice, hremoved⟩ := answers_memory (Prog.runs_call.mp hremove)
    simp only [MemoryOp.run, Choice.ran_eq_some, Prod.mk.injEq] at hremoved
    obtain ⟨-, rfl, rfl⟩ := hremoved
    rw [hready, hnone.unawaited] at hrecord
    obtain ⟨hrow, hshims⟩ := recordReconnectedReady_leaves hrecord hready hnone.row
    refine ⟨hrow, ?_⟩
    rw [hshims]
    exact hnone.untracked

/-- For every launched spawn and every report, both ways can be gone; they write the same
state, pids and start time; the pane is the same if the report names the pane of the request;
and the shim is tracked if a spawn waited for it, and only then. -/
theorem ready_paths_differ {v : World} {serial : Nat} (appendEvent : Bool)
    (hwaits : WaitingSpawn w request lc serial) (hnone : UnawaitedSpawn v request lc)
    (hready : ready.sessionId = request.sessionId) :
    (∃ result w', (readyForWaiter request ⟨request.sessionId, serial⟩ appendEvent ready).Runs
        Answers w (.ok result) w') ∧
      (∃ v', (completeShimReady ready).Runs Answers v (.ok ()) v') ∧
      ∀ result w' v',
        (readyForWaiter request ⟨request.sessionId, serial⟩ appendEvent ready).Runs
          Answers w (.ok result) w' →
        (completeShimReady ready).Runs Answers v (.ok ()) v' →
        (∃ lc₁ lc₂, w'.db.getLifecycle request.sessionId = some lc₁ ∧
            v'.db.getLifecycle request.sessionId = some lc₂ ∧ SameProcess lc₁ lc₂ ∧
            (lc₁.tmuxPane = lc₂.tmuxPane ↔ request.target.tmuxAddress = ready.tmuxPane)) ∧
          w'.runtime.shimPids.lookup request.sessionId = some ready.shimPid ∧
          v'.runtime.shimPids.lookup request.sessionId = none ∧
          ¬ReadyRecordedAlike request.sessionId w' v' := by
  obtain ⟨hreconnects, hreconnected⟩ := completeShimReady_unawaited hready hnone
  refine ⟨readyForWaiter_succeeds appendEvent hready hwaits, hreconnects, ?_⟩
  intro result w' v' hwaited hlone
  obtain ⟨⟨logs, hrow₁⟩, htracked⟩ := readyForWaiter_leaves hready hwaits hwaited
  obtain ⟨hrow₂, huntracked⟩ := hreconnected v' hlone
  refine ⟨⟨_, _, hrow₁, hrow₂, ?_, ?_⟩, htracked, huntracked, fun halike => ?_⟩
  · rw [runningLifecycle, markRunning_of_forking hwaits.row.state]
    exact ⟨rfl, rfl, rfl, rfl⟩
  · rw [runningLifecycle, markRunning_of_forking hwaits.row.state]
    exact Iff.rfl
  · have := halike.tracked
    rw [htracked, huntracked] at this
    cases this

end Ways

/-! ## A spawn in a pane, before and after a restart -/

/-- The request for a runtime in pane 0 of a tmux session. -/
def paneRequest (id : SessionId) (force : Bool) : RuntimeSpawnRequest :=
  ⟨id, .claude, .host, .tmux ⟨"work", 0, 0⟩, force⟩

/-- The report of its shim, which names no pane. -/
def shimReport (id : SessionId) : ShimReady := ⟨id, 40, 41, 3, none⟩

/-- Its spawn waits for the shim. -/
def launchedWorld : World :=
  let fresh := World.fresh 0
  { fresh with
    db := { fresh.db with
      lifecycles := Table.empty.insert sampleId
        (lifecycleRow (requestedLifecycle (paneRequest sampleId false))) }
    runtime := { fresh.runtime with
      pendingReady := Table.empty.insert sampleId 0
      channels := Table.empty.insert ⟨sampleId, 0⟩ .waiting
      nextSerial := 1 } }

theorem waitingSpawn_launchedWorld :
    WaitingSpawn launchedWorld (paneRequest sampleId false)
      (requestedLifecycle (paneRequest sampleId false)) 0 :=
  ⟨⟨rfl, rfl, rfl⟩, rfl, rfl⟩

theorem unawaitedSpawn_crashed :
    UnawaitedSpawn launchedWorld.crashed (paneRequest sampleId false)
      (requestedLifecycle (paneRequest sampleId false)) :=
  ⟨⟨rfl, rfl, rfl⟩, rfl, rfl⟩

theorem ready_paths_differ_launchedWorld :
    ∃ result w' v',
      (readyForWaiter (paneRequest sampleId false) ⟨sampleId, 0⟩ true (shimReport sampleId)).Runs
        Answers launchedWorld (.ok result) w' ∧
      (completeShimReady (shimReport sampleId)).Runs Answers launchedWorld.crashed (.ok ()) v' ∧
        ¬ReadyRecordedAlike sampleId w' v' := by
  obtain ⟨⟨result, w', hwaited⟩, ⟨v', hlone⟩, hdiffer⟩ :=
    ready_paths_differ true waitingSpawn_launchedWorld unawaitedSpawn_crashed
      (show (shimReport sampleId).sessionId = sampleId from rfl)
  exact ⟨result, w', v', hwaited, hlone, (hdiffer result w' v' hwaited hlone).2.2.2⟩

/-- A spawn in a pane, and the same report after a restart of the daemon: the shim is not
tracked. -/
theorem restart_loses_shim :
    ¬∀ (w : World) (request : RuntimeSpawnRequest) (lc : Lifecycle) (serial : Nat)
      (ready : ShimReady) (result : Lifecycle × RuntimeEvent) (w' v' : World),
      WaitingSpawn w request lc serial → UnawaitedSpawn w.crashed request lc →
      ready.sessionId = request.sessionId →
      (readyForWaiter request ⟨request.sessionId, serial⟩ true ready).Runs
        Answers w (.ok result) w' →
      (completeShimReady ready).Runs Answers w.crashed (.ok ()) v' →
      ReadyRecordedAlike request.sessionId w' v' := by
  intro h
  have hreport : (shimReport sampleId).sessionId = sampleId := rfl
  obtain ⟨result, w', hwaited⟩ :=
    readyForWaiter_succeeds true hreport waitingSpawn_launchedWorld
  obtain ⟨⟨v', hlone⟩, hreconnected⟩ :=
    completeShimReady_unawaited hreport unawaitedSpawn_crashed
  obtain ⟨-, htracked⟩ := readyForWaiter_leaves rfl waitingSpawn_launchedWorld hwaited
  have halike := h launchedWorld (paneRequest sampleId false) _ 0 (shimReport sampleId) result w' v'
    waitingSpawn_launchedWorld unawaitedSpawn_crashed rfl hwaited hlone
  have := halike.tracked
  rw [htracked, (hreconnected v' hlone).2] at this
  cases this

end LittleOrgans.Concurrency
