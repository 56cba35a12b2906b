import LittleOrgans.Concurrency.EventKeys
import LittleOrgans.Concurrency.IntentAgreement
import LittleOrgans.Concurrency.SpawnRuns
import LittleOrgans.Daemon.SpawnHandler
import LittleOrgans.Store.IntentCodec

/-!
# A spawn completed at startup

A spawn whose daemon crashes between the record of the running lifecycle and the second
transaction is completed by `reconcile_pending_spawn_intent` of the next daemon. The spawn has
the lifecycle and the log path from the runtime's reply; the reconciliation reads the
lifecycle's row and computes its logs again from the configuration.

`recovery_completes_spawn` compares the two for a spawn that ran on: the session row is the
same, its time of update apart. `Resumable.of_other` says what the other threads of the daemon
can do in between.
-/

set_option autoImplicit false

namespace LittleOrgans.Concurrency

open LittleOrgans.Core
open LittleOrgans.Library
open LittleOrgans.Store
open LittleOrgans.Daemon
open LittleOrgans.Runtime (EventLogKey)

/-! ## The intents that are read -/

/-- What the reconciliation uses of an intent. -/
def SessionSpawnIntent.toPending (intent : SessionSpawnIntent) : PendingSpawnIntent where
  sessionId := intent.sessionId
  operationId := intent.operationId
  spawnRequest := intent.spawnRequest
  sessionDraft := intent.sessionDraft
  createdAt := intent.createdAt

/-- The programs get the intents that the columns hold, when the JSON of each reads back. -/
theorem listed_intents_of_columns {formats : TextFormats} {json : IntentJson} {db : Database}
    (hformats : formats.ReadsUuids)
    (hjson : ∀ row ∈ db.listPendingSpawnIntents, json.ReadsBack row.2) :
    ∃ intents, listPendingIntents formats json db = .ok intents ∧
      StoreOp.run .run db .listPendingSpawnIntents =
        some (.ok (intents.map SessionSpawnIntent.toPending), db) := by
  refine ⟨_, (listPendingIntents_eq_ok_iff hformats db).mpr hjson, ?_⟩
  have hsame : (db.listPendingSpawnIntents.map (storedIntent json)).map
      SessionSpawnIntent.toPending = db.listPendingSpawnIntents.map StoreOp.intentOfRow :=
    List.map_map
  rw [hsame]
  rfl

/-! ## The live path -/

/-- What `session_log_paths` makes of a session. -/
structure DaemonConfig where
  stdoutPath : SessionId → String
  stderrPath : SessionId → String

namespace DaemonConfig

variable (config : DaemonConfig)

/-- `populate_log_availability`; `alive` is what tmux says of the pane. -/
def logAvailability (alive : Bool) (lc : Lifecycle) : LogAvailability :=
  match lc.tmuxPane with
  | some _ => if alive then .tmuxPaneSnapshot else .unavailable
  | none => .headless (config.stdoutPath lc.sessionId) (config.stderrPath lc.sessionId)

/-- The log that `launch_shim` opens; a pane has none. -/
def launchedStdout (request : RuntimeSpawnRequest) : Option String :=
  match request.target.tmuxAddress with
  | some _ => none
  | none => some (config.stdoutPath request.sessionId)

/-- What a daemon of this configuration answers. -/
def answers : (o : Op) → Except DaemonError o.Res → Bool
  | .os (.logAvailability lc), .ok logs =>
      logs = config.logAvailability true lc || logs = config.logAvailability false lc
  | .os (.launchShim request), .ok stdoutPath => stdoutPath = config.launchedStdout request
  | _, _ => true

end DaemonConfig

/-- A step of a daemon that is not interrupted. Between two operations anything may happen
beside it. -/
def Live (config : DaemonConfig) (_ : World) (o : Op) (r : Except DaemonError o.Res)
    (w' : World) : Prop :=
  (∃ w₁, Answers w₁ o r w') ∧ config.answers o r = true

/-- The same with the operations that succeeded. -/
abbrev LiveCalls (config : DaemonConfig) (s : World × List Op) (o : Op)
    (r : Except DaemonError o.Res) (s' : World × List Op) : Prop :=
  Prog.Recorded (S := daemonOps) (Live config) s o r s'

/-- The lifecycle of an update. -/
def Op.updates : Op → Option Lifecycle
  | .store (.updateLifecycle lc) => some lc
  | _ => none

/-- The lifecycle `record_running` stores for a request. -/
structure RecordedFor (config : DaemonConfig) (request : RuntimeSpawnRequest)
    (running : Lifecycle) : Prop where
  sessionId : running.sessionId = request.sessionId
  state : running.state = .running
  startTime : running.startTime.isSome = true
  tmuxPane : running.tmuxPane = request.target.tmuxAddress
  logs : ∃ alive, running.logAvailability = some (config.logAvailability alive running)

section Live

variable {config : DaemonConfig} {s s' : World × List Op} {running : Lifecycle}

theorem exists_alive_of_answers {lc : Lifecycle} {logs : LogAvailability}
    (h : config.answers (.os (.logAvailability lc)) (.ok logs) = true) :
    ∃ alive, logs = config.logAvailability alive lc := by
  simp only [DaemonConfig.answers, Bool.or_eq_true, decide_eq_true_eq] at h
  rcases h with h | h
  · exact ⟨true, h⟩
  · exact ⟨false, h⟩

theorem recordedFor_of_recordsRunning {request : RuntimeSpawnRequest} {ready : ShimReady}
    (h : RecordsRunning (LiveCalls config) request ready running s s') :
    RecordedFor config request running ∧ s'.2.findSome? Op.updates = some running := by
  obtain ⟨lc, logs, s₁, s₂, s₃, s₄, s₅, ⟨⟨⟨w₁, hread⟩, -⟩, -⟩, hmarked, ⟨⟨-, hlogs⟩, -⟩, rfl,
    ⟨-, hwrite⟩, ⟨-, hwatch⟩, hlast, -, htrack⟩ := h
  have hid : lc.sessionId = request.sessionId :=
    Database.sessionId_of_getLifecycle (answers_getLifecycle.mp hread).1.symm
  obtain ⟨-, hrunning⟩ := markRunning_forking hmarked
  obtain ⟨alive, hlogs⟩ := exists_alive_of_answers hlogs
  -- the append of the event, when there is one, comes between the watcher and the shim
  have hstored : s₅.2.findSome? Op.updates =
      some (runningLifecycle request ready lc logs) := by
    have hwatched : s₄.2.findSome? Op.updates =
        some (runningLifecycle request ready lc logs) := by
      rw [hwatch, hwrite]
      rfl
    rcases hlast with rfl | ⟨event, appended, -, happend⟩
    · exact hwatched
    · rw [happend]
      exact hwatched
  refine ⟨⟨?_, ?_, ?_, rfl, alive, ?_⟩, ?_⟩
  · rw [runningLifecycle, hrunning]
    exact hid
  · rw [runningLifecycle, hrunning]
  · rw [runningLifecycle, hrunning]
    rfl
  · rw [runningLifecycle, hlogs]
    rfl
  · rw [htrack]
    exact hstored

/-- A live spawn commits the session of its draft and of the lifecycle that was stored last,
with the log that was opened for it. -/
theorem commits_of_live {intent : PendingSpawnIntent} {session : Session} {w w' : World}
    {calls : List Op}
    (hlive : (spawn intent).Runs (LiveCalls config) (w, []) (.ok session) (w', calls))
    (hstored : calls.findSome? Op.updates = some running) :
    RecordedFor config intent.spawnRequest running ∧
      .store (.commitSpawnIntent intent.sessionId session running) ∈ calls ∧
      ∃ updatedAt, sessionOfIntent intent running (config.launchedStdout intent.spawnRequest)
        updatedAt = .ok session := by
  obtain ⟨recorded, ready, event, stdoutPath, now, s₁, s₂, s₃, s₄, s₅, ⟨⟨-, hlaunched⟩, -⟩,
    hrecords, ⟨-, hnow⟩, updatedAt, appended, s₆, s₇, s₈, s₉, ⟨-, hclock⟩, hsession, ⟨-, hexists⟩,
    ⟨-, hbegin⟩, ⟨-, hcommit⟩, -, happend⟩ := completes_of_spawn hlive
  obtain ⟨hrecorded, hupdated⟩ := recordedFor_of_recordsRunning hrecords
  -- behind the record of the lifecycle no operation updates one
  have hcalls : calls = .log (.appendEvent event) ::
      .store (.commitSpawnIntent intent.sessionId session recorded) :: .store .beginTx ::
      .store (.namespaceExists session.namespaceSlug) :: .os .now :: .os .now :: s₄.2 := by
    rw [show calls = _ from happend, hcommit, hbegin, hexists, hclock, hnow]
  have hsame : recorded = running := by
    rw [hcalls] at hstored
    exact Option.some.inj (hupdated.symm.trans hstored)
  subst hsame
  refine ⟨hrecorded, ?_, updatedAt, ?_⟩
  · rw [hcalls]
    exact List.mem_cons_of_mem _ List.mem_cons_self
  · rw [← of_decide_eq_true hlaunched]
    exact hsession

end Live

/-! ## The session of a row that was read back -/

section ReadBack

variable {config : DaemonConfig} {request : RuntimeSpawnRequest} {running : Lifecycle}

/-- The lifecycle of a stored row, with the logs that the status finds for it. -/
def readBack (config : DaemonConfig) (alive : Bool) (lc : Lifecycle) : Lifecycle :=
  { storedLifecycle lc with
    logAvailability := some (config.logAvailability alive (storedLifecycle lc)) }

/-- The log of the configuration is the one the spawn was given. -/
theorem RecordedFor.transcriptPath (h : RecordedFor config request running) (alive : Bool) :
    (readBack config alive running).transcriptPath =
      (config.launchedStdout request).or running.transcriptPath := by
  obtain ⟨found, hlogs⟩ := h.logs
  -- a pane has no log file on either path, whether it is alive or not
  have hpane : ∀ alive lc, lc.tmuxPane = running.tmuxPane → lc.sessionId = running.sessionId →
      lc.logAvailability = some (config.logAvailability alive lc) →
        lc.transcriptPath = config.launchedStdout request := by
    intro alive lc htmux hid hlc
    rw [Lifecycle.transcriptPath, hlc, DaemonConfig.logAvailability, DaemonConfig.launchedStdout,
      htmux, h.tmuxPane, hid, h.sessionId]
    cases request.target.tmuxAddress with
    | none => rfl
    | some address => cases alive <;> rfl
  rw [hpane alive (readBack config alive running) rfl rfl rfl,
    hpane found running rfl rfl hlogs, Option.or_self]

/-- The row makes the session of the live path, its time of update apart. -/
theorem RecordedFor.sessionOfIntent (h : RecordedFor config request running)
    {intent : PendingSpawnIntent} {session : Session} {updatedAt : DateTime}
    (hsession : sessionOfIntent intent running (config.launchedStdout request) updatedAt =
      .ok session) (alive : Bool) (now : DateTime) :
    Concurrency.sessionOfIntent intent (readBack config alive running) none now =
      .ok { session with updatedAt := now } := by
  obtain ⟨startTime, hstart⟩ := Option.isSome_iff_exists.mp h.startTime
  obtain ⟨-, runtimePid, createdAt, hpid, hcreated, rfl⟩ :=
    runningSession_fields (sessionOfIntent_eq_ok.mp hsession)
  have hreadPid : (readBack config alive running).runtimePid = some runtimePid := hpid
  have hreadStart : (readBack config alive running).startTime = some startTime := hstart
  rw [Concurrency.sessionOfIntent, SessionDraft.runningSession,
    if_neg (not_not.mpr (show (readBack config alive running).state = .running from h.state)),
    hreadPid, hcreated, Option.none_or, h.transcriptPath alive, hreadStart, hstart]
  rfl

end ReadBack

/-! ## The reconciliation -/

/-- The operation is made to fail. -/
def Choice.isFault : Choice → Bool
  | .fault _ => true
  | .appendFault _ _ => true
  | _ => false

/-- A spawn whose second transaction is missing, with the row of its running lifecycle. -/
structure Resumable (intent : PendingSpawnIntent) (running : Lifecycle) (w : World) : Prop where
  waits : Waits w.db intent
  session : w.db.sessions.lookup intent.sessionId = none
  lifecycle : w.db.getLifecycle intent.sessionId = some (storedLifecycle running)
  namespaceExists : w.db.namespaceExists intent.sessionDraft.namespaceSlug = true
  events : w.log.RecordsOnce ⟨intent.sessionId, .running⟩

/-- What may happen beside the reconciliation: the spawn stays as it is until it is completed,
and no append of its running event fails half-way. -/
structure Unhindered (intent : PendingSpawnIntent) (running : Lifecycle) (w w' : World) :
    Prop where
  resumable : Resumable intent running w → Resumable intent running w'
  events : w.log.RecordsOnce ⟨intent.sessionId, .running⟩ →
    w'.log.RecordsOnce ⟨intent.sessionId, .running⟩

/-- A step of the reconciliation: what happens beside it, then one operation that is not made
to fail. -/
def Recovering (config : DaemonConfig) (intent : PendingSpawnIntent) (running : Lifecycle)
    (w : World) (o : Op) (r : Except DaemonError o.Res) (w' : World) : Prop :=
  ∃ w₁ choice, Unhindered intent running w w₁ ∧ choice.isFault = false ∧
    o.exec choice w₁ = some (r, w') ∧ config.answers o r = true

/-- The store behind the second transaction of a session. -/
structure SessionCommitted (intent : PendingSpawnIntent) (running : Lifecycle) (session : Session)
    (db : Database) : Prop where
  transaction : ∃ (before : Database) (lc : Lifecycle) (now : Int),
    before.commitSpawnIntent intent.sessionId session lc now = .ok db
  session : db.sessions.lookup intent.sessionId = some (sessionRow session)
  resolved : intentStatus db intent.sessionId = some .resolved
  lifecycle : db.getLifecycle intent.sessionId = some (storedLifecycle running)

/-- The end of a reconciliation: the second transaction of a session, then the append of its
running event, of which the log has one. -/
def CompletedAs (config : DaemonConfig) (intent : PendingSpawnIntent) (running : Lifecycle)
    (session : Session) (w' : World) : Prop :=
  ∃ committed event, SessionCommitted intent running session committed.db ∧
    Recovering config intent running committed (.log (.appendEvent event)) (.ok event) w' ∧
    w'.log.eventKeys.count ⟨intent.sessionId, .running⟩ = 1

section Recovery

variable {config : DaemonConfig} {intent : PendingSpawnIntent} {running : Lifecycle}
  {w w' : World}

theorem Unhindered.refl (intent : PendingSpawnIntent) (running : Lifecycle) (w : World) :
    Unhindered intent running w w :=
  ⟨id, id⟩

theorem Unhindered.trans {w₁ : World} (h : Unhindered intent running w w₁)
    (h' : Unhindered intent running w₁ w') : Unhindered intent running w w' :=
  ⟨fun hw => h'.resumable (h.resumable hw), fun hevents => h'.events (h.events hevents)⟩

/-! ### One operation -/

theorem recovering_store {o : StoreOp} {r : Except DaemonError o.Res}
    (h : Recovering config intent running w (.store o) r w') :
    ∃ w₁ choice db, Unhindered intent running w w₁ ∧ o.run choice w₁.db = some (r, db) ∧
      w' = { w₁ with db := db } := by
  obtain ⟨w₁, choice, hbeside, hfault, hexec, -⟩ := h
  obtain ⟨db, hrun, rfl⟩ := Op.exec_store hexec
  refine ⟨w₁, choice, db, hbeside, ?_, rfl⟩
  cases choice with
  | fault e => cases hfault
  | _ => exact hrun

theorem recovering_os {o : OsOp} {r : Except DaemonError o.Res}
    (h : Recovering config intent running w (.os o) r w') :
    ∃ w₁ choice a, Unhindered intent running w w₁ ∧ o.run choice w₁ = some (a, w') ∧ r = .ok a ∧
      config.answers (.os o) (.ok a) = true := by
  obtain ⟨w₁, choice, hbeside, hfault, hexec, hanswers⟩ := h
  cases r with
  | ok a => exact ⟨w₁, choice, a, hbeside, OsOp.exec_ok hexec, rfl, hanswers⟩
  | error e =>
      cases choice with
      | fault e => cases hfault
      | _ =>
          obtain ⟨result, -, hresult⟩ := Option.map_eq_some_iff.mp hexec
          cases hresult

theorem recovering_appendEvent {event : RuntimeEvent} {r : Except DaemonError RuntimeEvent}
    (h : Recovering config intent running w (.log (.appendEvent event)) r w') :
    ∃ w₁, Unhindered intent running w w₁ ∧ r = .ok event ∧
      w' = { w₁ with log := w₁.log.append event } := by
  obtain ⟨w₁, choice, hbeside, hfault, hexec, -⟩ := h
  obtain ⟨log, hlog, rfl⟩ := Op.exec_log hexec
  rcases LogOp.exec_appendEvent hlog with ⟨stage, e, rfl, -⟩ | ⟨rfl, rfl⟩
  · cases hfault
  · exact ⟨w₁, hbeside, rfl, rfl⟩

/-- A read that the environment has no say in. -/
theorem recovering_read {o : StoreOp} {r : Except DaemonError o.Res} {f : Database → o.Res}
    (hrun : ∀ choice db, o.run choice db = choice.ran (.ok (f db), db))
    (h : Recovering config intent running w (.store o) r w') :
    Unhindered intent running w w' ∧ r = .ok (f w'.db) := by
  obtain ⟨w₁, choice, db, hbeside, hexec, rfl⟩ := recovering_store h
  rw [hrun, Choice.ran_eq_some] at hexec
  obtain ⟨-, hresult⟩ := hexec
  cases hresult
  exact ⟨hbeside, rfl⟩

theorem recovering_now {r : Except DaemonError DateTime}
    (h : Recovering config intent running w (.os .now) r w') :
    Unhindered intent running w w' ∧ ∃ now, r = .ok now := by
  obtain ⟨w₁, choice, now, hbeside, hrun, rfl, -⟩ := recovering_os h
  have heffect : w' = w₁ := OsOp.run_ok hrun
  subst heffect
  exact ⟨hbeside, now, rfl⟩

theorem recovering_logAvailability {lc : Lifecycle} {r : Except DaemonError LogAvailability}
    (h : Recovering config intent running w (.os (.logAvailability lc)) r w') :
    Unhindered intent running w w' ∧ ∃ alive, r = .ok (config.logAvailability alive lc) := by
  obtain ⟨w₁, choice, logs, hbeside, hrun, rfl, hanswers⟩ := recovering_os h
  have heffect : w' = w₁ := OsOp.run_ok hrun
  subst heffect
  obtain ⟨alive, rfl⟩ := exists_alive_of_answers hanswers
  exact ⟨hbeside, alive, rfl⟩

/-! ### The second transaction -/

theorem exists_commit {session : Session} {lc : Lifecycle} (hw : Resumable intent running w)
    (hsession : session.id = intent.sessionId) (hlc : lc.sessionId = intent.sessionId)
    (now : Int) : ∃ db, w.db.commitSpawnIntent intent.sessionId session lc now = .ok db := by
  have hnew : ¬w.db.sessions.contains session.id = true := by
    rw [Table.contains, hsession, hw.session]
    exact Bool.false_ne_true
  obtain ⟨inserted, hinsert, hrow⟩ : ∃ inserted, w.db.insertSession session = .ok inserted ∧
      inserted.getLifecycle lc.sessionId = some (storedLifecycle running) :=
    ⟨_, if_neg hnew, hlc ▸ hw.lifecycle⟩
  obtain ⟨updated, hupdate⟩ := exists_updateLifecycle hrow
  exact ⟨_, Except.bind_eq_ok.mpr ⟨inserted, hinsert,
    Except.bind_eq_ok.mpr ⟨updated, hupdate, rfl⟩⟩⟩

theorem committed_of_commit {session : Session} {lc : Lifecycle} {db db' : Database} {now : Int}
    (hwaits : Waits db intent) (hsession : session.id = intent.sessionId)
    (hlc : lc.sessionId = intent.sessionId)
    (hstored : storedLifecycle lc = storedLifecycle running)
    (hcommit : db.commitSpawnIntent intent.sessionId session lc now = .ok db') :
    SessionCommitted intent running session db' := by
  have hlifecycle := Database.getLifecycle_commitSpawnIntent hcommit intent.sessionId
  obtain ⟨hnew, -, hdb⟩ := Database.commitSpawnIntent_eq_ok hcommit
  refine ⟨⟨db, lc, now, hcommit⟩, ?_, ?_, ?_⟩
  · rw [hdb, ← hsession]
    exact Table.lookup_insert_self hnew _
  · have hstatus := intentStatus_setStatus db intent.sessionId now .resolved intent.sessionId
    rw [if_pos rfl, hwaits.status] at hstatus
    rw [hdb]
    exact hstatus
  · rw [hlifecycle, if_pos hlc.symm, hstored]

/-- The second transaction goes through. -/
theorem recovering_commit {session : Session} {lc : Lifecycle} {r : Except DaemonError Unit}
    (hw : Resumable intent running w) (hsession : session.id = intent.sessionId)
    (hlc : lc.sessionId = intent.sessionId)
    (hstored : storedLifecycle lc = storedLifecycle running)
    (h : Recovering config intent running w
      (.store (.commitSpawnIntent intent.sessionId session lc)) r w') :
    r = .ok () ∧ SessionCommitted intent running session w'.db ∧
      w'.log.RecordsOnce ⟨intent.sessionId, .running⟩ := by
  obtain ⟨w₁, choice, db, hbeside, hexec, rfl⟩ := recovering_store h
  obtain ⟨now, -, htransact⟩ := Choice.timed_eq_some.mp hexec
  have hw₁ := hbeside.resumable hw
  obtain ⟨db', hcommit⟩ := exists_commit hw₁ hsession hlc now
  rw [hcommit] at htransact
  cases htransact
  exact ⟨rfl, committed_of_commit hw₁.waits hsession hlc hstored hcommit, hw₁.events⟩

/-- What follows the status: the session is committed and its event appended. -/
theorem completeSpawnIntent_recovers {session : Session} {lc : Lifecycle} {event : RuntimeEvent}
    {r : Except DaemonError Session} (hw : Resumable intent running w)
    (hsession : ∀ now, sessionOfIntent intent lc none now = .ok { session with updatedAt := now })
    (hid : session.id = intent.sessionId)
    (hnamespace : session.namespaceSlug = intent.sessionDraft.namespaceSlug)
    (hlc : lc.sessionId = intent.sessionId)
    (hstored : storedLifecycle lc = storedLifecycle running)
    (hevent : EventLogKey.fromEvent event = ⟨intent.sessionId, .running⟩)
    (h : (completeSpawnIntent intent lc event none .leavePending).Runs
      (Recovering config intent running) w r w') :
    ∃ updatedAt, r = .ok { session with updatedAt := updatedAt } ∧
      CompletedAs config intent running { session with updatedAt := updatedAt } w' := by
  obtain ⟨first, w₁, hnow, hrest⟩ := Prog.runs_bind.mp h
  obtain ⟨hbeside₁, updatedAt, rfl⟩ := recovering_now (Prog.runs_call.mp hnow)
  have hw₁ := hbeside₁.resumable hw
  -- the draft makes the session of the live path
  obtain ⟨built, w₁', hbuilt, hrest₁⟩ := Prog.runs_bind.mp hrest
  obtain ⟨rfl, rfl⟩ := Prog.runs_ofExcept.mp hbuilt
  rw [hsession updatedAt] at hrest₁
  obtain ⟨found, w₂, hexists, hrest₂⟩ := Prog.runs_bind.mp hrest₁
  obtain ⟨found, rfl, hexists₂⟩ := Prog.runs_mapError.mp hexists
  obtain ⟨hbeside₂, rfl⟩ := recovering_read (fun _ _ => rfl) (Prog.runs_call.mp hexists₂)
  have hw₂ := hbeside₂.resumable hw₁
  -- the namespace still exists, so the spawn is not aborted
  have hstays : w₂.db.namespaceExists session.namespaceSlug = true := by
    rw [hnamespace]
    exact hw₂.namespaceExists
  rw [hstays] at hrest₂
  obtain ⟨begun, w₃, hbegin, hrest₃⟩ := Prog.runs_bind.mp hrest₂
  obtain ⟨begun, rfl, hbegin₂⟩ := Prog.runs_mapError.mp hbegin
  obtain ⟨hbeside₃, rfl⟩ := recovering_read (fun _ _ => rfl) (Prog.runs_call.mp hbegin₂)
  obtain ⟨committed, w₄, hcommit, hrest₄⟩ := Prog.runs_attempt_bind.mp hrest₃
  -- from the second transaction on only the event is left
  have hid₄ : { session with updatedAt := updatedAt }.id = intent.sessionId := hid
  obtain ⟨rfl, hcommitted, hevents⟩ := recovering_commit (hbeside₃.resumable hw₂) hid₄ hlc
    hstored (Prog.runs_call.mp hcommit)
  obtain ⟨appended, w₅, happend, hrest₅⟩ := Prog.runs_bind.mp hrest₄
  obtain ⟨appended, rfl, happend₂⟩ := Prog.runs_mapError.mp happend
  have hlast := Prog.runs_call.mp happend₂
  obtain ⟨w₄', hbeside₄, rfl, hw'⟩ := recovering_appendEvent hlast
  obtain ⟨rfl, rfl⟩ := hrest₅
  refine ⟨updatedAt, rfl, w₄, event, hcommitted, hlast, ?_⟩
  rw [hw', ← hevent]
  exact EventLog.RecordsOnce.count_append (hevent ▸ hbeside₄.events hevents)

/-! ### The status -/

/-- A lifecycle with the logs that were found for it. -/
def Relogged (config : DaemonConfig) (lc lc' : Lifecycle) : Prop :=
  ∃ alive, lc' = { lc with logAvailability := some (config.logAvailability alive lc) }

theorem populateLogs_recovers {lcs : List Lifecycle} {r : Except DaemonError (List Lifecycle)}
    (h : (populateLogs lcs).Runs (Recovering config intent running) w r w') :
    Unhindered intent running w w' ∧
      ∃ found, r = .ok found ∧ List.Forall₂ (Relogged config) lcs found := by
  induction lcs generalizing w w' r with
  | nil =>
      obtain ⟨rfl, rfl⟩ := h
      exact ⟨.refl intent running w', [], rfl, .nil⟩
  | cons lc rest ih =>
      obtain ⟨logs, w₁, hlogs, hrest⟩ := Prog.runs_bind.mp h
      obtain ⟨hbeside₁, alive, rfl⟩ := recovering_logAvailability (Prog.runs_call.mp hlogs)
      obtain ⟨populated, w₂, hpopulated, hrest₂⟩ := Prog.runs_bind.mp hrest
      obtain ⟨hbeside₂, found, rfl, hfound⟩ := ih hpopulated
      obtain ⟨rfl, rfl⟩ := hrest₂
      exact ⟨hbeside₁.trans hbeside₂, _, rfl, .cons ⟨alive, rfl⟩ hfound⟩

/-- The lifecycle of a session among those that were found, when it has one row only. -/
theorem find_relogged {lcs found : List Lifecycle} {lc : Lifecycle}
    (h : List.Forall₂ (Relogged config) lcs found) (hlc : lc ∈ lcs)
    (honly : ∀ lc' ∈ lcs, lc'.sessionId = lc.sessionId → lc' = lc) :
    ∃ lc', Relogged config lc lc' ∧
      (found.find? fun lc' => lc'.sessionId = lc.sessionId) = some lc' := by
  induction h with
  | nil => cases hlc
  | @cons first first' rest rest' hfirst _ ih =>
      -- the logs change no id: the first of them is `lc`, or `lc` comes later
      by_cases hid : first'.sessionId = lc.sessionId
      · refine ⟨first', ?_, List.find?_cons_of_pos (decide_eq_true hid)⟩
        obtain ⟨alive, hfirst'⟩ := id hfirst
        rw [← honly first List.mem_cons_self (by rw [← hid, hfirst'])]
        exact hfirst
      · have hne : lc ≠ first := by
          rintro rfl
          obtain ⟨alive, rfl⟩ := hfirst
          exact hid rfl
        obtain ⟨lc', hlc', hfind⟩ := ih ((List.mem_cons.mp hlc).resolve_left hne)
          fun lc' hmem => honly lc' (List.mem_cons_of_mem _ hmem)
        refine ⟨lc', hlc', ?_⟩
        rw [List.find?_cons_of_neg (by simpa using hid)]
        exact hfind

/-- The status of a session finds its row. -/
theorem status_recovers {r : Except DaemonError (List Lifecycle)}
    (hw : Resumable intent running w) (hid : running.sessionId = intent.sessionId)
    (h : (status (.forSession intent.sessionId)).Runs (Recovering config intent running) w r w') :
    Resumable intent running w' ∧ ∃ lcs alive, r = .ok lcs ∧
      (lcs.find? fun lc => lc.sessionId = intent.sessionId) =
        some (readBack config alive running) := by
  obtain ⟨listed, w₁, hlist, hrest⟩ := Prog.runs_attempt_bind.mp h
  obtain ⟨hbeside₁, rfl⟩ := recovering_read (fun _ _ => rfl) (Prog.runs_call.mp hlist)
  have hw₁ := hbeside₁.resumable hw
  obtain ⟨hbeside₂, found, rfl, hfound⟩ := populateLogs_recovers hrest
  -- the filter selects the row of the session and no other
  have hmem : storedLifecycle running ∈ w₁.db.listLifecycles (.forSession intent.sessionId) := by
    refine Database.mem_listLifecycles.mpr ⟨?_, ?_⟩
    · simp [StatusFilter.selects, StatusFilter.forSession, storedLifecycle, hid]
    · rw [show (storedLifecycle running).sessionId = intent.sessionId from hid]
      exact hw₁.lifecycle
  have honly : ∀ lc ∈ w₁.db.listLifecycles (.forSession intent.sessionId),
      lc.sessionId = (storedLifecycle running).sessionId → lc = storedLifecycle running := by
    intro lc hlc hsame
    have hrow := (Database.mem_listLifecycles.mp hlc).2
    rw [hsame, show (storedLifecycle running).sessionId = intent.sessionId from hid,
      hw₁.lifecycle] at hrow
    exact (Option.some.inj hrow).symm
  obtain ⟨lc, ⟨alive, rfl⟩, hfind⟩ := find_relogged hfound hmem honly
  refine ⟨hbeside₂.resumable hw₁, found, alive, rfl, ?_⟩
  rw [← hid]
  exact hfind

/-! ### The whole reconciliation -/

/-- A spawn whose runtime was recorded, and the session its draft makes of it. -/
structure RecordedSpawn (config : DaemonConfig) (intent : PendingSpawnIntent) (running : Lifecycle)
    (session : Session) : Prop where
  request : intent.spawnRequest.sessionId = intent.sessionId
  draft : intent.sessionDraft.id = intent.sessionId
  recorded : RecordedFor config intent.spawnRequest running
  session : ∃ updatedAt, sessionOfIntent intent running
    (config.launchedStdout intent.spawnRequest) updatedAt = .ok session

theorem RecordedSpawn.sessionId {session : Session}
    (h : RecordedSpawn config intent running session) :
    running.sessionId = intent.sessionId :=
  h.recorded.sessionId.trans h.request

/-- The event of the row that was read back is the running event of the session. -/
theorem RecordedSpawn.runningEvent {session : Session}
    (h : RecordedSpawn config intent running session) (alive : Bool) (now : DateTime) :
    ∃ event, runningEventFromLifecycle (readBack config alive running) now = .ok event ∧
      EventLogKey.fromEvent event = ⟨intent.sessionId, .running⟩ := by
  obtain ⟨updatedAt, hsession⟩ := h.session
  obtain ⟨hstate, runtimePid, createdAt, hpid, -⟩ :=
    runningSession_fields (sessionOfIntent_eq_ok.mp hsession)
  have hreadPid : (readBack config alive running).runtimePid = some runtimePid := hpid
  rw [runningEventFromLifecycle,
    if_neg (not_not.mpr (show (readBack config alive running).state = .running from hstate)),
    hreadPid]
  exact ⟨_, rfl, congrArg (EventLogKey.mk · .running) h.sessionId⟩

theorem RecordedSpawn.draft_eq {session : Session}
    (h : RecordedSpawn config intent running session) :
    session.id = intent.sessionId ∧
      session.namespaceSlug = intent.sessionDraft.namespaceSlug := by
  obtain ⟨updatedAt, hsession⟩ := h.session
  obtain ⟨-, runtimePid, createdAt, -, -, rfl⟩ :=
    runningSession_fields (sessionOfIntent_eq_ok.mp hsession)
  exact ⟨h.draft, rfl⟩

theorem reconcile_recovers {session : Session} {r : Except DaemonError Unit}
    (hrecorded : RecordedSpawn config intent running session) (hw : Resumable intent running w)
    (h : (reconcilePendingSpawnIntent intent).Runs (Recovering config intent running) w r w') :
    r = .ok () ∧ ∃ updatedAt,
      CompletedAs config intent running { session with updatedAt := updatedAt } w' := by
  obtain ⟨found, w₁, hstatus, hrest⟩ := Prog.runs_bind.mp h
  obtain ⟨hw₁, lcs, alive, rfl, hfind⟩ := status_recovers hw hrecorded.sessionId hstatus
  rw [Prog.runsRest_ok, hfind] at hrest
  dsimp only at hrest
  rw [if_pos (show (readBack config alive running).state = .running from
    hrecorded.recorded.state)] at hrest
  obtain ⟨time, w₂, hnow, hrest₂⟩ := Prog.runs_bind.mp hrest
  obtain ⟨hbeside₂, now, rfl⟩ := recovering_now (Prog.runs_call.mp hnow)
  obtain ⟨event, hevent, hkey⟩ := hrecorded.runningEvent alive now
  obtain ⟨made, w₃, hmade, hrest₃⟩ := Prog.runs_bind.mp hrest₂
  obtain ⟨rfl, rfl⟩ := Prog.runs_ofExcept.mp hmade
  rw [hevent] at hrest₃
  obtain ⟨completed, w₄, hcomplete, hrest₄⟩ := Prog.runs_bind.mp hrest₃
  obtain ⟨updatedAt₀, hsession⟩ := hrecorded.session
  obtain ⟨hid, hnamespace⟩ := hrecorded.draft_eq
  obtain ⟨updatedAt, rfl, hcompleted⟩ := completeSpawnIntent_recovers (hbeside₂.resumable hw₁)
    (hrecorded.recorded.sessionOfIntent hsession alive) hid hnamespace hrecorded.sessionId rfl
    hkey hcomplete
  obtain ⟨rfl, rfl⟩ := hrest₄
  exact ⟨rfl, updatedAt, hcompleted⟩

/-! ### A reconciliation that nothing hinders -/

theorem recovering_of_exec {o : Op} {r : Except DaemonError o.Res} (choice : Choice)
    (hfault : choice.isFault = false) (hexec : o.exec choice w = some (r, w'))
    (hanswers : config.answers o r = true) : Recovering config intent running w o r w' :=
  ⟨w, choice, .refl intent running w, hfault, hexec, hanswers⟩

theorem exists_populateLogs (lcs : List Lifecycle) (w : World) :
    ∃ found, (populateLogs lcs).Runs (Recovering config intent running) w (.ok found) w := by
  induction lcs with
  | nil => exact ⟨[], rfl, rfl⟩
  | cons lc rest ih =>
      obtain ⟨found, hfound⟩ := ih
      have hlogs : config.answers (.os (.logAvailability lc))
          (.ok (config.logAvailability true lc)) = true := by
        simp [DaemonConfig.answers]
      have hlc : Recovering config intent running w (.os (.logAvailability lc))
          (.ok (config.logAvailability true lc)) w :=
        recovering_of_exec (.logs (config.logAvailability true lc)) rfl rfl hlogs
      refine ⟨{ lc with logAvailability := some (config.logAvailability true lc) } :: found,
        runs_call_bind_ok hlc ?_⟩
      exact Prog.runs_bind_ok.mpr ⟨found, w, hfound, rfl, rfl⟩

theorem exists_status (id : SessionId) (w : World) :
    ∃ lcs, (status (.forSession id)).Runs (Recovering config intent running) w (.ok lcs) w := by
  have hpopulate : ∃ lcs, (populateLogs (w.db.listLifecycles (.forSession id))).Runs
      (Recovering config intent running) w (.ok lcs) w := exists_populateLogs _ w
  obtain ⟨lcs, hlcs⟩ := hpopulate
  refine ⟨lcs, Prog.runs_attempt_bind.mpr
    ⟨.ok (w.db.listLifecycles (.forSession id)), w, Prog.runs_call.mpr ?_, hlcs⟩⟩
  exact recovering_of_exec .run rfl rfl rfl

theorem exists_completeSpawnIntent {session : Session} {lc : Lifecycle} (event : RuntimeEvent)
    (hw : Resumable intent running w)
    (hsession : ∀ now, sessionOfIntent intent lc none now = .ok { session with updatedAt := now })
    (hid : session.id = intent.sessionId)
    (hnamespace : session.namespaceSlug = intent.sessionDraft.namespaceSlug)
    (hlc : lc.sessionId = intent.sessionId) :
    ∃ completed w', (completeSpawnIntent intent lc event none .leavePending).Runs
      (Recovering config intent running) w (.ok completed) w' := by
  have hid' : { session with updatedAt := 0 }.id = intent.sessionId := hid
  obtain ⟨db, hcommit⟩ := exists_commit hw hid' hlc 0
  have hstays : w.db.namespaceExists session.namespaceSlug = true := by
    rw [hnamespace]
    exact hw.namespaceExists
  -- the second transaction commits, since the intent is pending and its namespace is there
  have hcommitted : Recovering config intent running w
      (.store (.commitSpawnIntent intent.sessionId { session with updatedAt := 0 } lc)) (.ok ())
      { w with db := db } := by
    refine recovering_of_exec (.time 0) rfl ?_ rfl
    simp [Op.exec, StoreOp.exec, StoreOp.run, Choice.timed, hcommit, StoreOp.transact]
  have hexists : Recovering config intent running w
      (.store (.namespaceExists session.namespaceSlug)) (.ok true) w := by
    refine recovering_of_exec .run rfl ?_ rfl
    simp [Op.exec, StoreOp.exec, StoreOp.run, Choice.ran, hstays]
  refine ⟨{ session with updatedAt := 0 }, { w with db := db, log := w.log.append event }, ?_⟩
  refine runs_call_bind_ok (recovering_of_exec (.time 0) rfl rfl rfl) ?_
  refine Prog.runs_bind_ok.mpr ⟨_, w, Prog.runs_ofExcept.mpr ⟨(hsession 0).symm, rfl⟩, ?_⟩
  refine runs_context_bind_ok (Prog.runs_call.mpr hexists) ?_
  refine runs_context_bind_ok (Prog.runs_call.mpr (recovering_of_exec .run rfl rfl rfl)) ?_
  refine Prog.runs_attempt_bind.mpr ⟨_, _, Prog.runs_call.mpr hcommitted, ?_⟩
  refine runs_context_bind_ok (Prog.runs_call.mpr (recovering_of_exec .run rfl rfl rfl)) ?_
  exact ⟨rfl, rfl⟩

theorem exists_reconcile {session : Session}
    (hrecorded : RecordedSpawn config intent running session) (hw : Resumable intent running w) :
    ∃ w', (reconcilePendingSpawnIntent intent).Runs (Recovering config intent running) w
      (.ok ()) w' := by
  have hstatus : ∃ lcs, (status (.forSession intent.sessionId)).Runs
      (Recovering config intent running) w (.ok lcs) w := exists_status intent.sessionId w
  obtain ⟨lcs, hstatus⟩ := hstatus
  obtain ⟨-, lcs', alive, hsame, hfind⟩ := status_recovers hw hrecorded.sessionId hstatus
  cases hsame
  obtain ⟨event, hevent, -⟩ := hrecorded.runningEvent alive 0
  obtain ⟨updatedAt, hsession⟩ := hrecorded.session
  obtain ⟨hid, hnamespace⟩ := hrecorded.draft_eq
  have hcomplete : ∃ completed w', (completeSpawnIntent intent (readBack config alive running)
      event none .leavePending).Runs (Recovering config intent running) w (.ok completed) w' :=
    exists_completeSpawnIntent event hw (hrecorded.recorded.sessionOfIntent hsession alive) hid
      hnamespace hrecorded.sessionId
  obtain ⟨completed, w', hcomplete⟩ := hcomplete
  refine ⟨w', Prog.runs_bind_ok.mpr ⟨lcs, w, hstatus, ?_⟩⟩
  rw [hfind]
  dsimp only
  rw [if_pos (show (readBack config alive running).state = .running from
    hrecorded.recorded.state)]
  refine runs_call_bind_ok (recovering_of_exec (.time 0) rfl rfl rfl) ?_
  refine Prog.runs_bind_ok.mpr ⟨event, w, Prog.runs_ofExcept.mpr ⟨hevent.symm, rfl⟩, ?_⟩
  exact Prog.runs_bind_ok.mpr ⟨completed, w', hcomplete, rfl, rfl⟩

end Recovery

/-! ## A spawn that crashed -/

/-- An intent that waits has no session: a session row means a resolved intent. -/
theorem session_of_waits {createdAt : DateTime} {c : Pool watched} {intent : PendingSpawnIntent}
    (hreach : Pool.Reaches (.none watched) (.initial watched (.fresh createdAt)) c)
    (hwaits : Waits c.shared.db intent) :
    c.shared.db.sessions.lookup intent.sessionId = none := by
  obtain ⟨-, -, hagreement⟩ := agreement_of_reaches hreach
  by_contra hsome
  obtain ⟨row, hrow⟩ := Option.ne_none_iff_exists'.mp hsome
  have hresolved := hagreement.tables.session intent.sessionId row hrow
  rw [hwaits.status] at hresolved
  cases hresolved

/-- The daemon that comes up behind a crash can resume every intent that waits with its
running lifecycle. -/
theorem resumable_crashed {createdAt : DateTime} {c : Pool watched} {intent : PendingSpawnIntent}
    {running : Lifecycle}
    (hreach : Pool.Reaches (.none watched) (.initial watched (.fresh createdAt)) c)
    (hwaits : Waits c.shared.db intent)
    (hlifecycle : c.shared.db.getLifecycle intent.sessionId = some (storedLifecycle running))
    (hnamespace : c.shared.db.namespaceExists intent.sessionDraft.namespaceSlug = true) :
    Resumable intent running c.shared.crashed where
  waits := hwaits
  session := session_of_waits hreach hwaits
  lifecycle := hlifecycle
  namespaceExists := hnamespace
  events := (keysOnce_of_reaches hreach).openWith _

/-- A thread that does not hold an intent leaves its row. -/
theorem lookup_intent_of_other {w : World} {minds : Minds} {db : Database} {t t' : Nat}
    {origin origin' : Origin} {φ φ' : Knowledge} {o : StoreOp} {a : o.Res} {id : SessionId}
    (h : Agreement w minds) (hmind : minds t = some (origin, φ)) (hholds : φ.Holds id)
    (hmind' : minds t' = some (origin', φ')) (hne : t' ≠ t) (hallows : φ'.allowsStore o)
    (heffect : o.Effect w.db db a) : db.spawnIntents.lookup id = w.db.spawnIntents.lookup id := by
  refine heffect.lookup_intent hallows (fun hholds' => ?_) ?_
  · exact hne (h.heldOnce t' t _ _ _ _ id hmind' hmind hholds' hholds)
  · rintro intent rfl
    obtain ⟨hnew, -, -⟩ := Database.beginSpawnIntent_eq_ok heffect
    -- the intent that begins has no row yet, the one that is held has
    rintro rfl
    have hpending := hholds.waits (h.duties t _ _ hmind)
    rw [intentStatus, hnew] at hpending
    cases hpending

/-- What runs beside a thread that holds an intent keeps it resumable, unless it changes the
lifecycle, removes the namespace or fails half-way in an append. -/
theorem Resumable.of_other {createdAt : DateTime} {c c' : Pool watched}
    {intent : PendingSpawnIntent} {running : Lifecycle} {t : Nat} {thread : Thread watched}
    {label : Label daemon} (h : Resumable intent running c.shared)
    (hreach : Pool.Reaches (.none watched) (.initial watched (.fresh createdAt)) c)
    (hthread : c.threads t = some thread) (hholds : thread.know.Holds intent.sessionId)
    (hother : ∀ choice, label ≠ .run t choice)
    (hfault : ∀ t' e, label ≠ .run t' (.appendFault .unwritten e))
    (hnext : c.next label = some c')
    (hlifecycle : c'.shared.db.getLifecycle intent.sessionId = some (storedLifecycle running))
    (hnamespace : c'.shared.db.namespaceExists intent.sessionDraft.namespaceSlug = true) :
    Resumable intent running c'.shared := by
  obtain ⟨hconforming, -, hagreement⟩ := agreement_of_reaches hreach
  have hmind : c.minds t = some (thread.origin, thread.know) := by
    rw [Pool.minds, hthread, Option.map_some]
  have hkept : c'.shared.db.spawnIntents.lookup intent.sessionId =
      c.shared.db.spawnIntents.lookup intent.sessionId ∧
        c'.shared.log.RecordsOnce ⟨intent.sessionId, .running⟩ := by
    -- no other step touches the intent: it is held by this thread
    cases label with
    | crash =>
        cases hnext
        exact ⟨rfl, (keysOnce_of_reaches hreach).openWith _⟩
    | env event =>
        obtain ⟨w', henv, rfl⟩ := Pool.next_env_eq_some hnext
        rw [World.env_frame henv]
        exact ⟨rfl, h.events⟩
    | start origin =>
        obtain ⟨w', hstart, rfl⟩ := Pool.next_start_eq_some hnext
        show w'.db.spawnIntents.lookup _ = _ ∧ w'.log.RecordsOnce _
        rw [World.start_frame hstart]
        exact ⟨rfl, h.events⟩
    | run t' choice =>
        obtain ⟨thread', o, k, r, w', hthread', hprog, hexec, rfl⟩ :=
          Pool.next_run_eq_some hnext
        show w'.db.spawnIntents.lookup _ = _ ∧ w'.log.RecordsOnce _
        have hallows := hconforming t' thread' hthread'
        rw [hprog] at hallows
        have hmind' : c.minds t' = some (thread'.origin, thread'.know) := by
          rw [Pool.minds, hthread', Option.map_some]
        have hne : t' ≠ t := by
          rintro rfl
          exact hother choice rfl
        cases o with
        | memory o =>
            rw [MemoryOp.frame hexec]
            exact ⟨rfl, h.events⟩
        | os o =>
            rw [OsOp.frame hexec]
            exact ⟨rfl, h.events⟩
        -- an event is appended once, and a failed append is excluded
        | log o =>
            obtain ⟨log, hlog, rfl⟩ := Op.exec_log hexec
            refine ⟨rfl, h.events.exec (fun e => ?_) hlog⟩
            rintro rfl
            exact hfault t' e rfl
        -- a statement of another thread is on another intent
        | store o =>
            obtain ⟨db, hrun, rfl⟩ := Op.exec_store hexec
            refine ⟨?_, h.events⟩
            cases r with
            | error e => rw [StoreOp.exec_error hrun]
            | ok a =>
                exact lookup_intent_of_other hagreement hmind hholds hmind' hne hallows.1
                  (StoreOp.exec_ok hrun)
  have hwaits : Waits c'.shared.db intent := h.waits.of_lookup hkept.1
  have hmeets : c.Meets (.none watched) label := by
    cases label with
    | run t' choice => exact fun _ _ _ _ _ => trivial
    | _ => trivial
  exact ⟨hwaits, session_of_waits (hreach.tail ⟨label, hmeets, hnext⟩) hwaits, hlifecycle,
    hnamespace, hkept.2⟩

/-- A spawn that crashed behind the record of its running lifecycle is completed as it would
have been: the session row is that of the live path, its time of update apart, the intent is
resolved and the log has one running event. Whether the pane of the spawn is still alive does
not matter for the row. -/
theorem recovery_completes_spawn {config : DaemonConfig} {call : SpawnCall} {running : Lifecycle}
    {session : Session} {w w₁ : World} {calls : List Op}
    (hlive : (spawn call.intent).Runs (LiveCalls config) (w, []) (.ok session) (w₁, calls))
    (hstored : calls.findSome? Op.updates = some running) {createdAt : DateTime}
    {c : Pool watched}
    (hreach : Pool.Reaches (.none watched) (.initial watched (.fresh createdAt)) c)
    (hwaits : Waits c.shared.db call.intent)
    (hlifecycle : c.shared.db.getLifecycle call.intent.sessionId = some (storedLifecycle running))
    (hnamespace :
      c.shared.db.namespaceExists call.intent.sessionDraft.namespaceSlug = true) :
    .store (.commitSpawnIntent call.intent.sessionId session running) ∈ calls ∧
      (∃ w', (reconcilePendingSpawnIntent call.intent).Runs
        (Recovering config call.intent running) c.shared.crashed (.ok ()) w') ∧
      ∀ r w', (reconcilePendingSpawnIntent call.intent).Runs
          (Recovering config call.intent running) c.shared.crashed r w' →
        r = .ok () ∧ ∃ updatedAt,
          CompletedAs config call.intent running { session with updatedAt := updatedAt } w' := by
  obtain ⟨hrecorded, hcommits, updatedAt, hsession⟩ := commits_of_live hlive hstored
  obtain ⟨hrequest, hdraft, -⟩ := of_decide_eq_true call.wellFormed
  have hspawn : RecordedSpawn config call.intent running session :=
    ⟨hrequest, hdraft, hrecorded, updatedAt, hsession⟩
  have hresumable := resumable_crashed hreach hwaits hlifecycle hnamespace
  exact ⟨hcommits, exists_reconcile hspawn hresumable,
    fun r w' hrun => reconcile_recovers hspawn hresumable hrun⟩

/-! ### A headless spawn -/

/-- Logs under the id of the session. -/
def logRoot : DaemonConfig where
  stdoutPath id := "/logs/" ++ String.ofList (uuidText id.uuid) ++ "/stdout.log"
  stderrPath id := "/logs/" ++ String.ofList (uuidText id.uuid) ++ "/stderr.log"

/-- One operation on a choice and on what happens before it. -/
def liveExec (config : DaemonConfig) (choice : (World → World) × Choice) (o : Op)
    (s : World × List Op) : Option (Except DaemonError o.Res × World × List Op) :=
  match o.exec choice.2 (choice.1 s.1) with
  | none => none
  | some (r, w') =>
      if config.answers o r then
        match r with
        | .ok a => some (.ok a, w', o :: s.2)
        | .error e => some (.error e, w', s.2)
      else none

theorem live_of_exec {config : DaemonConfig} {choice : (World → World) × Choice} {o : Op}
    {s s' : World × List Op} {r : Except DaemonError o.Res}
    (h : liveExec config choice o s = some (r, s')) : LiveCalls config s o r s' := by
  rw [liveExec] at h
  split at h
  · cases h
  · next r' w' hexec =>
      split at h
      · next hanswers =>
          cases r' with
          | ok a =>
              cases h
              exact ⟨⟨⟨_, _, hexec⟩, hanswers⟩, rfl⟩
          | error e =>
              cases h
              exact ⟨⟨⟨_, _, hexec⟩, hanswers⟩, rfl⟩
      · cases h

def headlessReady : ShimReady := ⟨sampleId, 40, 41, 3, none⟩

/-- The report of the shim reaches the spawn. -/
def reportReady (w : World) : World :=
  { w with
    runtime := { w.runtime with
      channels := w.runtime.channels.modify ⟨sampleId, 0⟩ fun _ => .sent headlessReady } }

/-- A spawn from its first operation to its last. -/
def spawnChoices : List ((World → World) × Choice) :=
  List.replicate 9 (id, .run) ++
    [(id, .launch 40 (logRoot.stdoutPath sampleId)), (reportReady, .run), (id, .run),
      (id, .logs (.headless (logRoot.stdoutPath sampleId) (logRoot.stderrPath sampleId))),
      (id, .run), (id, .run), (id, .run), (id, .time 5), (id, .time 6), (id, .run), (id, .run),
      (id, .time 7), (id, .run)]

def headlessRunning : Lifecycle :=
  { Lifecycle.forking sampleId .claude with
    state := .running
    shimPid := some 40
    runtimePid := some 41
    startTime := some 3
    logAvailability :=
      some (.headless (logRoot.stdoutPath sampleId) (logRoot.stderrPath sampleId)) }

theorem headless_live : ∃ session w₁ calls,
    (spawn sampleCall.intent).Runs (LiveCalls logRoot) (World.fresh 0, []) (.ok session)
        (w₁, calls) ∧
      calls.findSome? Op.updates = some headlessRunning := by
  have hreplay : ∃ session w₁ calls,
      (spawn sampleCall.intent).replay (liveExec logRoot) spawnChoices (World.fresh 0, []) =
          some (.ok session, w₁, calls) ∧
        calls.findSome? Op.updates = some headlessRunning :=
    ⟨_, _, _, rfl, rfl⟩
  obtain ⟨session, w₁, calls, hrun, hstored⟩ := hreplay
  exact ⟨session, w₁, calls, Prog.runs_of_replay live_of_exec hrun, hstored⟩

/-- The daemon crashes before the second transaction of the sample spawn. -/
theorem recovery_completes_spawn_headless : ∃ (session : Session) (c : Pool watched),
    intentStatus c.shared.db sampleId = some .pending ∧
      (∃ w', (reconcilePendingSpawnIntent sampleCall.intent).Runs
        (Recovering logRoot sampleCall.intent headlessRunning) c.shared.crashed (.ok ()) w') ∧
      ∀ r w', (reconcilePendingSpawnIntent sampleCall.intent).Runs
          (Recovering logRoot sampleCall.intent headlessRunning) c.shared.crashed r w' →
        r = .ok () ∧ ∃ updatedAt, CompletedAs logRoot sampleCall.intent headlessRunning
          { session with updatedAt := updatedAt } w' := by
  have hcrash : ∃ c, after (.none watched)
      (bootRun ++ launchRun ++ childRun ++ readyRun ++ beforeCommitRun) = some c ∧
      Waits c.shared.db sampleCall.intent ∧
      c.shared.db.getLifecycle sampleId = some (storedLifecycle headlessRunning) ∧
      c.shared.db.namespaceExists "default" = true :=
    ⟨_, rfl, ⟨_, rfl, rfl, rfl⟩, rfl, rfl⟩
  obtain ⟨c, hc, hwaits, hlifecycle, hnamespace⟩ := hcrash
  obtain ⟨session, w₁, calls, hlive, hstored⟩ := headless_live
  exact ⟨session, c, hwaits.status, (recovery_completes_spawn hlive hstored
    (Pool.reaches_of_follow hc) hwaits hlifecycle hnamespace).2⟩

end LittleOrgans.Concurrency
