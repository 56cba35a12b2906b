import LittleOrgans.Concurrency.IntentAgreement
import LittleOrgans.Concurrency.LateFaults
import LittleOrgans.Concurrency.ReadyPaths
import LittleOrgans.Concurrency.ShimDuties

/-!
# What a failed spawn leaves behind

A spawn request runs while shims, runtimes and the other tasks of the daemon go on:
between two of its operations they may do anything that leaves its intent and its rows
alone (`LeavesSpawn`). Any of its operations may fail, and a store call may fail although
it was applied. Some failures are handled: the intent is aborted, and a runtime that is
known to run is killed first. Six are not: the second check of the namespace, the start of
the second transaction and the append of the running event return their error as it is, a
runtime spawn that fails after its shim was launched is aborted without a kill, and each of
the two transactions is taken for undone when its commit fails, also if the commit was
applied (`unhandled`). A request leaves nothing behind exactly when none of these happens
(`failed_spawn_leaves_nothing_iff`).
-/

set_option autoImplicit false

namespace LittleOrgans.Concurrency

open LittleOrgans.Core
open LittleOrgans.Library
open LittleOrgans.Library.Monitor
open LittleOrgans.Library.Prog
open LittleOrgans.Store
open LittleOrgans.Daemon

/-! ## A spawn among other tasks -/

/-- The runtime of a session runs. -/
def World.runtimeRuns (w : World) (id : SessionId) : Bool :=
  (w.shims.lookup id).any Shim.isRunning

/-- The intent of a session stays as it is, its session row neither comes nor goes, and
neither a lifecycle nor a shim of it comes to be. -/
structure LeavesSpawn (id : SessionId) (w w' : World) : Prop where
  intent : w'.db.spawnIntents.lookup id = w.db.spawnIntents.lookup id
  session : w'.db.sessions.contains id = w.db.sessions.contains id
  lifecycle : w.db.lifecycles.lookup id = none → w'.db.lifecycles.lookup id = none
  shim : w.shims.lookup id = none → w'.shims.lookup id = none

theorem LeavesSpawn.refl (id : SessionId) (w : World) : LeavesSpawn id w w :=
  ⟨rfl, rfl, fun h => h, fun h => h⟩

/-- Aborts that come after a kill of the runtime. -/
def followsKill : AbortReason → Bool
  | .spawnFailure _ => false
  | .namespaceDeletedBeforeCommit => true
  | .sessionCommitFailed _ => true
  | .runtimeLifecycleMissing => false
  | .runtimeLifecycleNotRunning => false

/-- An abort succeeds, and the kill before it has ended the runtime. -/
def abortSucceeds (w : World) : (o : Op) → Except DaemonError o.Res → Bool
  | .store (.abortSpawnIntent id reason), .ok _ => !(followsKill reason && w.runtimeRuns id)
  | .store (.abortSpawnIntent _ _), .error _ => false
  | _, _ => true

/-- What a spawn does not make up for: a failed second check of the namespace, a failed
start of the second transaction, a failed append behind it, the abort of a failed runtime
spawn whose runtime runs, and a commit of either transaction that is applied and reported
as failed. -/
def unhandled (id : SessionId) (w : World) (late : Bool) :
    (o : Op) → Except DaemonError o.Res → Bool
  | .store (.beginSpawnIntent _), .error _ => late
  | .store (.namespaceExists _), .error _ => w.db.spawnIntents.contains id
  | .store .beginTx, .error _ => true
  | .store (.commitSpawnIntent _ _ _), .error _ => late
  | .log (.appendEvent _), .error _ => w.db.sessions.contains id
  | .store (.abortSpawnIntent _ reason), .ok _ => !followsKill reason && w.runtimeRuns id
  | _, _ => false

/-- The world, and whether something went unhandled so far. -/
structure SpawnRun where
  world : World
  unhandled : Bool

/-- An operation of a spawn of `id`, after the others have had their turn. -/
def SpawnAnswers (id : SessionId) (s : SpawnRun) (o : Op) (r : Except DaemonError o.Res)
    (s' : SpawnRun) : Prop :=
  ∃ w choice, LeavesSpawn id s.world w ∧ o.execLate choice w = some (r, s'.world) ∧
    abortSucceeds w o r = true ∧
    s'.unhandled = (s.unhandled || unhandled id w choice.isLate o r)

/-- Nothing is known of the session. -/
structure NewSession (id : SessionId) (w : World) : Prop where
  intent : w.db.spawnIntents.lookup id = none
  session : w.db.sessions.lookup id = none
  lifecycle : w.db.lifecycles.lookup id = none
  shim : w.shims.lookup id = none

/-- What a spawn request promises when it has returned: with a session, that the session
is stored and its intent resolved; with an error, that nothing of it is left but an
aborted intent. -/
def KeepsItsWord {α : Type} (id : SessionId) (w : World) : Except DaemonError α → Prop
  | .ok _ => intentStatus w.db id = some .resolved ∧ w.db.sessions.contains id = true
  | .error _ => w.db.sessions.lookup id = none ∧
      (intentStatus w.db id = none ∨ intentStatus w.db id = some .aborted) ∧
      w.db.getLifecycle id = none ∧ w.runtimeRuns id = false

/-! ## Programs that leave intents and sessions alone -/

/-- Operations that touch neither the intents nor the session rows, and launch at most a
shim. -/
def Op.leavesIntents : Op → Bool
  | .store (.insertForking _) => true
  | .store (.updateLifecycle _) => true
  | .store (.deleteLifecycle _) => true
  | .store o => o.isRead
  | .memory _ => true
  | .log _ => true
  | .os _ => true

/-- The monitor of programs that leave intents and sessions alone. -/
abbrev leaving : Monitor daemonOps DaemonError where
  State := Unit
  allows _ o := o.leavesIntents = true
  returns _ _ := True
  next _ _ _ := ()

/-- The program leaves intents and sessions alone. -/
abbrev Leaves {α : Type} (p : DaemonProg α) : Prop := leaving.Keeps (fun _ => True) p

theorem leavesIntents_of_isProbe {o : Op} (h : o.isProbe = true) : o.leavesIntents = true := by
  cases o with
  | store o => cases o <;> first | rfl | cases h
  | memory o => rfl
  | log o => rfl
  | os o => rfl

theorem leaves_call {o : Op} (h : o.leavesIntents = true) :
    Leaves (Prog.call (S := daemonOps) o : DaemonProg o.Res) :=
  keeps_call fun _ _ => ⟨h, fun _ _ => trivial⟩

theorem leaves_of_probes {α : Type} {p : DaemonProg α} (hp : Probes p) : Leaves p :=
  keeps_of_calls hp fun _ ho _ _ => ⟨leavesIntents_of_isProbe ho, fun _ => trivial⟩

theorem leaves_recordTerminal (id : SessionId) (evidence : TerminationEvidence)
    (mark : Lifecycle → Bool × Lifecycle) : Leaves (recordTerminal id evidence mark) := by
  refine keeps_bind (leaves_call rfl) fun found => ?_
  cases found with
  | none => exact keeps_fail _
  | some lc =>
      show Leaves (if (mark lc).1 = true then _ else _)
      split
      · refine keeps_bind (leaves_call rfl) fun _ => ?_
        refine keeps_bind (leaves_call rfl) fun _ => ?_
        refine keeps_bind (leaves_call rfl) fun entered => ?_
        cases entered with
        | false => exact keeps_ret none
        | true => exact keeps_bind (leaves_call rfl) fun _ => keeps_ret _
      · exact keeps_ret none

theorem leaves_killRuntime (request : KillRequest) : Leaves (killRuntime request) := by
  refine keeps_killRuntime (fun o ho _ _ =>
    ⟨leavesIntents_of_isProbe (isProbe_of_isLook ho), fun _ => trivial⟩) ?_
  exact keeps_bind (keeps_attempt (leaves_recordTerminal _ _ _)) fun result =>
    keeps_bind (leaves_call rfl) fun _ => keeps_ofExcept result

theorem leaves_terminate (id : SessionId) (signal : RuntimeSignal) :
    Leaves (terminate id signal) := by
  refine keeps_bind (leaves_killRuntime _) fun _ => ?_
  refine keeps_bind (leaves_call rfl) fun rounds => ?_
  refine keeps_bind (leaves_of_probes (looks_waitForTerminal id rounds).probes) fun found => ?_
  cases found with
  | none => exact keeps_ret none
  | some exit => exact keeps_bind (leaves_call rfl) fun _ => keeps_ret _

theorem leaves_checkSpawn (request : RuntimeSpawnRequest) : Leaves (checkSpawn request) := by
  have hoccupant : Leaves (checkOccupant request) := by
    unfold checkOccupant
    cases request.target.tmuxAddress with
    | none => exact keeps_ret none
    | some address =>
        refine keeps_bind (leaves_call rfl) fun found => ?_
        cases found with
        | none => exact keeps_ret none
        | some occupant =>
            show Leaves (if request.force = true then _ else _)
            split
            · exact keeps_bind (leaves_killRuntime _) fun _ => keeps_ret none
            · exact keeps_ret _
  refine keeps_bind (leaves_call rfl) fun _ => ?_
  refine keeps_bind (leaves_call rfl) fun found => ?_
  cases found with
  | none => exact hoccupant
  | some lc =>
      show Leaves (if isSessionBackedForking lc request = true then _ else _)
      split
      · exact hoccupant
      · exact keeps_ret _

theorem leaves_cancelSpawn (id : SessionId) : Leaves (cancelSpawn id) := by
  refine keeps_bind (leaves_call rfl) fun _ => ?_
  refine keeps_bind ?_ fun _ => keeps_bind (keeps_attempt (leaves_call rfl)) fun _ => keeps_ret ()
  refine keeps_bind (leaves_call rfl) fun found => ?_
  cases found with
  | none => exact keeps_ret ()
  | some channel => exact leaves_call rfl

theorem leaves_beginSpawn (request : RuntimeSpawnRequest) : Leaves (beginSpawn request) := by
  refine keeps_bind (leaves_of_probes (looks_sessionBacked request).probes) fun backed => ?_
  refine keeps_bind (leaves_of_probes (looks_validateSpawnTarget _).probes) fun _ => ?_
  refine keeps_bind ?_ fun _ => keeps_bind (leaves_call rfl) fun _ => ?_
  · cases backed with
    | true => exact keeps_ret ()
    | false => exact leaves_call rfl
  · have hwait : Leaves (beginReadyWait request.sessionId) := by
      refine keeps_bind (leaves_call rfl) fun made => ?_
      show Leaves (if made.2 = true then _ else _)
      split
      · exact keeps_bind (leaves_call rfl) fun _ => keeps_fail _
      · exact keeps_ret _
    refine keeps_bind (keeps_attempt hwait) fun waited => ?_
    cases waited with
    | ok ready => exact keeps_ret _
    | error e => exact keeps_bind (leaves_cancelSpawn _) fun _ => keeps_fail e

theorem leaves_recordRunning (request : RuntimeSpawnRequest) (ready : ShimReady)
    (appendEvent : Bool) : Leaves (recordRunning request ready appendEvent) := by
  refine keeps_bind ?_ fun _ => keeps_bind (leaves_call rfl) fun _ => keeps_ret _
  refine keeps_bind (leaves_call rfl) fun found => ?_
  cases found with
  | none => exact keeps_fail _
  | some lc =>
      show Leaves (if lc.runtime ≠ request.runtime then _ else if _ then _ else _)
      split
      · exact keeps_fail _
      · split
        · refine keeps_bind (leaves_call rfl) fun logs => ?_
          refine keeps_bind (leaves_call rfl) fun _ => ?_
          refine keeps_bind (keeps_ofExcept _) fun event => ?_
          refine keeps_bind (leaves_call rfl) fun _ => ?_
          cases appendEvent with
          | false => exact keeps_ret _
          | true => exact keeps_bind (leaves_call rfl) fun _ => keeps_ret _
        · exact keeps_fail _

theorem leaves_runtimeSpawn (request : RuntimeSpawnRequest) : Leaves (runtimeSpawn request) := by
  refine keeps_bind (leaves_call rfl) fun _ => keeps_bind ?_ fun _ => keeps_ofExcept _
  refine keeps_bind (leaves_checkSpawn request) fun refusal => ?_
  cases refusal with
  | some conflict => exact keeps_ret conflict
  | none =>
      refine keeps_bind (leaves_call rfl) fun _ => ?_
      refine keeps_bind (leaves_beginSpawn request) fun begin => ?_
      refine keeps_bind (keeps_attempt (leaves_call rfl)) fun launched => ?_
      cases launched with
      | error e => exact keeps_bind (leaves_cancelSpawn _) fun _ => keeps_fail e
      | ok stdoutPath =>
          refine keeps_bind (leaves_call rfl) fun waited => ?_
          have hready : Leaves (readyOrError waited) := by
            cases waited with
            | ready ready => exact keeps_ret ready
            | elapsed => exact keeps_fail _
            | closed => exact keeps_fail _
          refine keeps_bind hready fun ready => ?_
          exact keeps_bind (leaves_recordRunning request ready _) fun _ => keeps_ret _

/-! ## One operation of a spawn -/

section Steps

variable {id : SessionId} {w w' : World} {s s' : SpawnRun}

/-- The intent waits to be settled, and nothing went unhandled. -/
structure Underway (id : SessionId) (s : SpawnRun) : Prop where
  intent : intentStatus s.world.db id = some .pending
  session : s.world.db.sessions.lookup id = none
  handled : s.unhandled = false

/-- The session is stored, and nothing went unhandled. -/
structure Committed (id : SessionId) (s : SpawnRun) : Prop where
  intent : intentStatus s.world.db id = some .resolved
  session : s.world.db.sessions.contains id = true
  handled : s.unhandled = false

theorem intentStatus_of_leaves (h : LeavesSpawn id w w') :
    intentStatus w'.db id = intentStatus w.db id := by
  rw [intentStatus, h.intent, intentStatus]

theorem session_of_leaves (h : LeavesSpawn id w w') (hnone : w.db.sessions.lookup id = none) :
    w'.db.sessions.lookup id = none := by
  have hcontains := h.session
  rw [Table.contains, Table.contains, hnone] at hcontains
  exact Option.not_isSome_iff_eq_none.mp (Bool.eq_false_iff.mp hcontains)

theorem NewSession.of_leaves (h : NewSession id w) (hothers : LeavesSpawn id w w') :
    NewSession id w' where
  intent := hothers.intent.trans h.intent
  session := session_of_leaves hothers h.session
  lifecycle := hothers.lifecycle h.lifecycle
  shim := hothers.shim h.shim

/-- An operation that leaves intents and sessions alone. -/
theorem frame_of_leavesIntents {choice : LateChoice} {o : Op} {r : Except DaemonError o.Res}
    (hleaves : o.leavesIntents = true) (h : o.execLate choice w = some (r, w')) :
    w'.db.spawnIntents = w.db.spawnIntents ∧ w'.db.sessions = w.db.sessions := by
  cases o with
  | os o =>
      rw [OsOp.frame (Op.exec_of_execLate (fun _ h => by cases h) h)]
      exact ⟨rfl, rfl⟩
  | log o =>
      obtain ⟨log, -, rfl⟩ := Op.exec_log (Op.exec_of_execLate (fun _ h => by cases h) h)
      exact ⟨rfl, rfl⟩
  | memory o =>
      rw [MemoryOp.frame (Op.exec_of_execLate (fun _ h => by cases h) h)]
      exact ⟨rfl, rfl⟩
  | store o =>
      obtain ⟨db, rfl, rfl | ⟨a, heffect⟩⟩ := Op.execLate_store h
      · exact ⟨rfl, rfl⟩
      · refine ⟨heffect.intents ?_ ?_ ?_, (heffect.sessions ?_).1⟩
        · rintro intent rfl
          cases hleaves
        · rintro id' session lc rfl
          cases hleaves
        · rintro id' reason rfl
          cases hleaves
        · cases o <;> first | rfl | cases hleaves

theorem Underway.step {o : Op} {r : Except DaemonError o.Res} (h : Underway id s)
    (hleaves : o.leavesIntents = true) (hstep : SpawnAnswers id s o r s') : Underway id s' := by
  obtain ⟨w, choice, hothers, hexec, -, hunhandled⟩ := hstep
  obtain ⟨hintents, hsessions⟩ := frame_of_leavesIntents hleaves hexec
  have hsession := session_of_leaves hothers h.session
  refine ⟨?_, ?_, ?_⟩
  · rw [intentStatus, hintents]
    exact (intentStatus_of_leaves hothers).trans h.intent
  · rw [hsessions]
    exact hsession
  · rw [hunhandled, h.handled, Bool.false_or]
    cases o with
    | os o => rfl
    | memory o => rfl
    | store o =>
        cases r <;> cases o <;> first | rfl | cases hleaves
    | log o =>
        cases o with
        | pollEvents since => cases r <;> rfl
        | appendEvent event =>
            cases r with
            | ok a => rfl
            | error e =>
                show w.db.sessions.contains id = false
                rw [Table.contains, hsession]
                rfl

/-- A program that leaves intents and sessions alone leaves the spawn under way. -/
theorem Underway.of_runs {α : Type} {p : DaemonProg α} {r : Except DaemonError α}
    (hp : Leaves p) (h : Underway id s) (hrun : p.Runs (SpawnAnswers id) s r s') :
    Underway id s' := by
  obtain ⟨-, hunderway, -⟩ := (hp () trivial).of_runs (I := fun _ s => Underway id s) hrun
    (fun _ => trivial) (fun h hallows hstep => h.step hallows hstep) h
  exact hunderway

/-- The intent is aborted and its rows are gone; that the runtime runs, if it does, was not
handled. -/
structure Aborted (id : SessionId) (s : SpawnRun) : Prop where
  intent : intentStatus s.world.db id = some .aborted
  session : s.world.db.sessions.lookup id = none
  lifecycle : s.world.db.getLifecycle id = none
  runtime : s.unhandled = s.world.runtimeRuns id

theorem Aborted.keepsItsWord_iff {α : Type} (h : Aborted id s) (e : DaemonError) :
    KeepsItsWord (α := α) id s.world (.error e) ↔ s.unhandled = false := by
  rw [h.runtime]
  exact ⟨fun hword => hword.2.2.2, fun hruns => ⟨h.session, .inr h.intent, h.lifecycle, hruns⟩⟩

/-- The abort of an intent that is under way. -/
theorem Underway.abort {reason : AbortReason} {r : Except DaemonError Unit} (h : Underway id s)
    (hrun : (abortSpawnIntent id reason).Runs (SpawnAnswers id) s r s') :
    r = .ok () ∧ Aborted id s' := by
  obtain ⟨w, choice, hothers, hexec, hsucceeds, hunhandled⟩ := runs_call.mp hrun
  cases r with
  | error e => cases hsucceeds
  | ok u =>
      have hintent := (intentStatus_of_leaves hothers).trans h.intent
      obtain ⟨db, hstore, hworld⟩ := Op.exec_store (Op.exec_of_execLate_ok hexec)
      obtain ⟨now, rfl⟩ := StoreOp.exec_ok hstore
      have hstatus := intentStatus_setStatus w.db id now (.aborted reason) id
      rw [if_pos rfl, hintent] at hstatus
      refine ⟨rfl, ?_, ?_, ?_, ?_⟩
      · rw [hworld]
        exact hstatus
      · rw [hworld]
        show w.db.sessions.lookup id = none
        exact session_of_leaves hothers h.session
      · rw [hworld]
        exact (Database.getLifecycle_abortSpawnIntent w.db id reason now id).trans (if_pos rfl)
      · -- a kill before the abort has ended the runtime, and without one it counts
        have hruns : s'.world.runtimeRuns id = w.runtimeRuns id := by rw [hworld]; rfl
        rw [hunhandled, h.handled, Bool.false_or, hruns]
        have hkilled : (!(followsKill reason && w.runtimeRuns id)) = true := hsucceeds
        show (!followsKill reason && w.runtimeRuns id) = w.runtimeRuns id
        cases hfollows : followsKill reason with
        | false => rfl
        | true =>
            rw [hfollows] at hkilled
            cases hlives : w.runtimeRuns id with
            | false => rfl
            | true =>
                rw [hlives] at hkilled
                cases hkilled

theorem Underway.abortRunning {reason : AbortReason} {r : Except DaemonError Unit}
    (h : Underway id s) (hrun : (abortRunningSpawn id reason).Runs (SpawnAnswers id) s r s') :
    r = .ok () ∧ Aborted id s' := by
  obtain ⟨killed, s₁, hkill, habort⟩ := runs_attempt_bind.mp hrun
  exact (h.of_runs (leaves_terminate id .term) hkill).abort habort

/-- The session is stored, and the caller is going to be told otherwise. -/
structure Stranded (id : SessionId) (s : SpawnRun) : Prop where
  session : s.world.db.sessions.contains id = true
  unhandled : s.unhandled = true

/-- A session that is stored stays when its intent is aborted or something else is done that
leaves it alone. -/
theorem Stranded.step {o : Op} {r : Except DaemonError o.Res} (h : Stranded id s)
    (hstays : o.leavesIntents = true ∨ ∃ reason, o = .store (.abortSpawnIntent id reason))
    (hstep : SpawnAnswers id s o r s') : Stranded id s' := by
  obtain ⟨w, choice, hothers, hexec, -, hunhandled⟩ := hstep
  refine ⟨?_, by rw [hunhandled, h.unhandled, Bool.true_or]⟩
  suffices hsame : s'.world.db.sessions = w.db.sessions by
    rw [hsame]
    exact hothers.session.trans h.session
  rcases hstays with hleaves | ⟨reason, rfl⟩
  · exact (frame_of_leavesIntents hleaves hexec).2
  · obtain ⟨db, hworld, rfl | ⟨a, heffect⟩⟩ := Op.execLate_store hexec
    · rw [hworld]
    · rw [hworld]
      exact (heffect.sessions rfl).1

theorem Stranded.of_runs {α : Type} {p : DaemonProg α} {r : Except DaemonError α}
    (hp : Leaves p) (h : Stranded id s) (hrun : p.Runs (SpawnAnswers id) s r s') :
    Stranded id s' := by
  obtain ⟨-, hstranded, -⟩ := (hp () trivial).of_runs (I := fun _ s => Stranded id s) hrun
    (fun _ => trivial) (fun h hallows hstep => h.step (.inl hallows) hstep) h
  exact hstranded

theorem Stranded.abortRunning {reason : AbortReason} {r : Except DaemonError Unit}
    (h : Stranded id s) (hrun : (abortRunningSpawn id reason).Runs (SpawnAnswers id) s r s') :
    Stranded id s' := by
  obtain ⟨killed, s₁, hkill, habort⟩ := runs_attempt_bind.mp hrun
  have h₁ := h.of_runs (leaves_terminate id .term) hkill
  exact h₁.step (.inr ⟨reason, rfl⟩) (runs_call.mp habort)

theorem Stranded.wordIsHandled {α : Type} (h : Stranded id s) (e : DaemonError) :
    KeepsItsWord (α := α) id s.world (.error e) ↔ s.unhandled = false := by
  refine iff_of_false ?_ ?_
  · rintro ⟨hnone, -⟩
    have hsession := h.session
    rw [Table.contains, hnone] at hsession
    cases hsession
  · rw [h.unhandled]
    exact Bool.false_ne_true.symm

theorem Committed.of_commit {session : Session} {lc : Lifecycle} {w : World} {db : Database}
    {u : Unit} (hintent : intentStatus w.db id = some .pending) (hid : session.id = id)
    (heffect : (StoreOp.commitSpawnIntent id session lc).Effect w.db db u) :
    intentStatus db id = some .resolved ∧ db.sessions.contains id = true := by
  obtain ⟨now, hcommit⟩ := heffect
  obtain ⟨hnew, -, rfl⟩ := Database.commitSpawnIntent_eq_ok hcommit
  have hstatus := intentStatus_setStatus w.db id now .resolved id
  rw [if_pos rfl, hintent] at hstatus
  refine ⟨hstatus, Table.contains_iff.mpr ⟨sessionRow session, ?_⟩⟩
  rw [← hid]
  exact Table.lookup_insert_self hnew _

/-- The second transaction of an intent that is under way. A commit that is applied and
reported as failed leaves the session stranded. -/
theorem Underway.commit {session : Session} {lc : Lifecycle} {r : Except DaemonError Unit}
    (h : Underway id s) (hid : session.id = id)
    (hrun : (store (.commitSpawnIntent id session lc)).Runs (SpawnAnswers id) s r s') :
    match r with
    | .ok _ => Committed id s'
    | .error _ => Underway id s' ∨ Stranded id s' := by
  obtain ⟨w, choice, hothers, hexec, -, hunhandled⟩ := runs_call.mp hrun
  have hintent := (intentStatus_of_leaves hothers).trans h.intent
  have hsession := session_of_leaves hothers h.session
  rw [h.handled, Bool.false_or] at hunhandled
  cases r with
  | error e =>
      -- the commit failed without effect, or after it has taken effect
      cases choice with
      | plain choice =>
          have hplain : (Op.store (.commitSpawnIntent id session lc)).exec choice w = _ := hexec
          obtain ⟨db, hstore, hworld⟩ := Op.exec_store hplain
          rw [StoreOp.exec_error hstore] at hworld
          have hsame : s'.world = w := hworld
          exact .inl ⟨hsame ▸ hintent, hsame ▸ hsession, hunhandled⟩
      | late choice error =>
          cases StoreOp.lateEffect_of_execLate hexec with
          | mk o a error heffect hframe =>
              exact .inr ⟨(Committed.of_commit hintent hid heffect).2, hunhandled⟩
  | ok u =>
      obtain ⟨db, hstore, hworld⟩ := Op.exec_store (Op.exec_of_execLate_ok hexec)
      have hstored := Committed.of_commit hintent hid (StoreOp.exec_ok hstore)
      refine ⟨?_, ?_, hunhandled⟩
      · rw [hworld]
        exact hstored.1
      · rw [hworld]
        exact hstored.2

end Steps

/-! ## The request -/

section Requests

variable {call : SpawnCall} {w : World} {s s' : SpawnRun}

/-- The session id of a spawn request. -/
abbrev SpawnCall.id (call : SpawnCall) : SessionId := call.intent.sessionId

/-- The request keeps its word exactly when nothing went unhandled. -/
abbrev WordIsHandled {α : Type} (id : SessionId) (r : Except DaemonError α) (s : SpawnRun) :
    Prop :=
  KeepsItsWord id s.world r ↔ s.unhandled = false

/-- An intent that waits is no promise kept. -/
theorem wordIsHandled_of_pending {α : Type} {id : SessionId} {e : DaemonError}
    (hintent : intentStatus s.world.db id = some .pending) (hunhandled : s.unhandled = true) :
    WordIsHandled (α := α) id (.error e) s := by
  constructor
  · rintro ⟨-, hnone | haborted, -⟩
    · rw [hintent] at hnone
      cases hnone
    · rw [hintent] at haborted
      cases haborted
  · intro hhandled
    rw [hunhandled] at hhandled
    cases hhandled

/-- An operation of the store that leaves it alone. -/
theorem world_of_read {id : SessionId} {o : StoreOp} {r : Except DaemonError o.Res}
    (hleaves : ∀ {db db'} {a : o.Res}, o.Effect db db' a → db' = db)
    (hrun : (store o).Runs (SpawnAnswers id) s r s') :
    ∃ late, LeavesSpawn id s.world s'.world ∧
      s'.unhandled = (s.unhandled || unhandled id s'.world late (.store o) r) := by
  obtain ⟨w, choice, hothers, hexec, -, hunhandled⟩ := runs_call.mp hrun
  obtain ⟨db, hworld, heffect⟩ := Op.execLate_store hexec
  have hsame : s'.world = w := by
    rw [hworld]
    rcases heffect with rfl | ⟨a, heffect⟩
    · rfl
    · rw [hleaves heffect]
  rw [hsame]
  exact ⟨choice.isLate, hothers, hunhandled⟩

theorem Underway.of_leaves {id : SessionId} (h : Underway id s)
    (hothers : LeavesSpawn id s.world s'.world) (hhandled : s'.unhandled = false) :
    Underway id s' :=
  ⟨(intentStatus_of_leaves hothers).trans h.intent, session_of_leaves hothers h.session, hhandled⟩

/-- The running event behind the second transaction. -/
theorem Committed.append {id : SessionId} {event : RuntimeEvent} {session : Session}
    {intent : PendingSpawnIntent} {onCommitFailure : OnCommitFailure} {u : Unit}
    {r : Except DaemonError Session} (h : Committed id s)
    (hrun : (afterCommit intent session event onCommitFailure (.ok u)).Runs (SpawnAnswers id) s r
      s') : WordIsHandled id r s' := by
  obtain ⟨first, s₁, hfirst, hrest⟩ := runs_bind.mp hrun
  obtain ⟨inner, rfl, happend⟩ := runs_mapError.mp hfirst
  obtain ⟨w, choice, hothers, hexec, -, hunhandled⟩ := runs_call.mp happend
  obtain ⟨log, -, hworld⟩ := Op.exec_log (Op.exec_of_execLate (fun _ h => by cases h) hexec)
  have hsession : w.db.sessions.contains id = true := hothers.session.trans h.session
  cases inner with
  | ok appended =>
      obtain ⟨rfl, rfl⟩ := hrest
      have hintent := (intentStatus_of_leaves hothers).trans h.intent
      refine iff_of_true ?_ ?_
      · rw [hworld]
        exact ⟨hintent, hsession⟩
      · rw [hunhandled, h.handled]
        rfl
  | error e =>
      obtain ⟨rfl, rfl⟩ := hrest
      -- the session is stored, and the caller is told otherwise
      refine iff_of_false ?_ ?_
      · rintro ⟨hnone, -⟩
        rw [hworld] at hnone
        rw [Table.contains, hnone] at hsession
        cases hsession
      · rw [hunhandled, h.handled, Bool.false_or]
        show ¬w.db.sessions.contains id = false
        rw [hsession]
        exact Bool.false_ne_true.symm

/-- The second half of a spawn. -/
theorem Underway.complete {lc : Lifecycle} {event : RuntimeEvent} {stdoutPath : Option String}
    {r : Except DaemonError Session} (h : Underway call.id s)
    (hsession : ∀ now, ∃ session, sessionOfIntent call.intent lc stdoutPath now = .ok session)
    (hrun : (completeSpawnIntent call.intent lc event stdoutPath .abortRunning).Runs
      (SpawnAnswers call.id) s r s') : WordIsHandled call.id r s' := by
  obtain ⟨now, s₁, hnow, hbuilding⟩ := runs_bind.mp hrun
  have h₁ : Underway call.id s₁ := h.of_runs (leaves_call rfl) hnow
  cases now with
  | error e =>
      obtain ⟨w, choice, -, hexec, -⟩ := runs_call.mp hnow
      have hplain := Op.exec_of_execLate (fun _ h => by cases h) hexec
      have hfallible := (OsOp.exec_error hplain).2
      cases hfallible
  | ok now =>
  obtain ⟨session, hbuilt⟩ := hsession now
  obtain ⟨built, s₂, hbuild, hchecking⟩ := runs_bind.mp hbuilding
  obtain ⟨rfl, rfl⟩ := runs_ofExcept.mp hbuild
  rw [hbuilt] at hchecking
  have hid : session.id = call.id :=
    (sessionOfIntent_id hbuilt).1.trans (of_decide_eq_true call.wellFormed).2.1
  -- the second check of the namespace
  obtain ⟨first, s₃, hfirst, hrest⟩ := runs_bind.mp hchecking
  obtain ⟨checked, rfl, hcheck⟩ := runs_mapError.mp hfirst
  obtain ⟨late, hothers, hunhandled⟩ := world_of_read
    (o := .namespaceExists session.namespaceSlug) (fun heffect => heffect) hcheck
  rw [h₁.handled, Bool.false_or] at hunhandled
  cases checked with
  | error e =>
      obtain ⟨rfl, rfl⟩ := hrest
      have hintent := (intentStatus_of_leaves hothers).trans h₁.intent
      refine wordIsHandled_of_pending hintent (hunhandled.trans ?_)
      obtain ⟨row, hrow, -⟩ := Option.map_eq_some_iff.mp hintent
      exact Table.contains_iff.mpr ⟨row, hrow⟩
  | ok found =>
  have h₃ := h₁.of_leaves hothers hunhandled
  cases found with
  | false =>
      obtain ⟨aborted, s₄, habort, hdone⟩ := runs_bind.mp hrest
      obtain ⟨rfl, h₄⟩ := h₃.abortRunning habort
      obtain ⟨rfl, rfl⟩ := hdone
      exact h₄.keepsItsWord_iff _
  | true =>
  -- the second transaction
  obtain ⟨second, s₄, hsecond, hcommitting⟩ := runs_bind.mp hrest
  obtain ⟨begun, rfl, hbegin⟩ := runs_mapError.mp hsecond
  obtain ⟨late, hothers, hunhandled⟩ := world_of_read
    (o := .beginTx) (fun heffect => heffect) hbegin
  rw [h₃.handled, Bool.false_or] at hunhandled
  cases begun with
  | error e =>
      obtain ⟨rfl, rfl⟩ := hcommitting
      exact wordIsHandled_of_pending ((intentStatus_of_leaves hothers).trans h₃.intent) hunhandled
  | ok u =>
  have h₄ := h₃.of_leaves hothers hunhandled
  obtain ⟨committed, s₅, hcommit, hafter⟩ := runs_attempt_bind.mp hcommitting
  have h₅ := h₄.commit hid hcommit
  cases committed with
  | ok u => exact Committed.append h₅ hafter
  | error e =>
      obtain ⟨aborted, s₆, habort, hdone⟩ := runs_attempt_bind.mp hafter
      rcases h₅ with hunderway | hstranded
      · obtain ⟨-, h₆⟩ := hunderway.abortRunning habort
        obtain ⟨rfl, rfl⟩ := hdone
        exact h₆.keepsItsWord_iff _
      · have h₆ := hstranded.abortRunning habort
        obtain ⟨rfl, rfl⟩ := hdone
        exact h₆.wordIsHandled _

/-- What a spawned runtime reports is enough for a session and a running event. -/
theorem commitsTo_of_runs {spawned : SpawnedProcess}
    (hrun : (runtimeSpawn call.intent.spawnRequest).Runs (SpawnAnswers call.id) s (.ok spawned)
      s') : ∃ φ, CommitsTo call.intent.spawnRequest.sessionId spawned.lifecycle φ := by
  obtain ⟨φ, -, -, hcommits⟩ := (conforms_runtimeSpawn (serves_begun call) rfl).of_runs
    (I := fun _ _ => True) hrun
    (fun hstep => hstep.elim fun _ h => h.elim fun _ h => returns_of_execLate h.2.1)
    (fun _ _ _ => trivial) trivial
  exact ⟨φ, hcommits spawned rfl⟩

/-- What follows the spawn of the runtime. -/
theorem Underway.afterSpawn {spawned : Except DaemonError SpawnedProcess}
    {r : Except DaemonError Session} (h : Underway call.id s)
    (hcommits : ∀ process, spawned = .ok process →
      ∃ φ, CommitsTo call.intent.spawnRequest.sessionId process.lifecycle φ)
    (hrun : (afterRuntimeSpawn call.intent spawned).Runs (SpawnAnswers call.id) s r s') :
    WordIsHandled call.id r s' := by
  cases spawned with
  | error e =>
      obtain ⟨aborted, s₁, habort, hdone⟩ := runs_bind.mp hrun
      obtain ⟨rfl, h₁⟩ := h.abort habort
      obtain ⟨rfl, rfl⟩ := hdone
      exact h₁.keepsItsWord_iff _
  | ok process =>
      obtain ⟨φ, hlifecycle⟩ := hcommits process rfl
      obtain ⟨now, s₁, hnow, hevent⟩ := runs_bind.mp hrun
      have h₁ : Underway call.id s₁ := h.of_runs (leaves_call rfl) hnow
      cases now with
      | error e =>
          obtain ⟨w, choice, -, hexec, -⟩ := runs_call.mp hnow
          have hplain := Op.exec_of_execLate (fun _ h => by cases h) hexec
          have hfallible := (OsOp.exec_error hplain).2
          cases hfallible
      | ok now =>
          obtain ⟨event, hderived⟩ := runningEventFromLifecycle_ok hlifecycle now
          obtain ⟨derived, s₂, hderive, hcomplete⟩ := runs_bind.mp hevent
          obtain ⟨rfl, rfl⟩ := runs_ofExcept.mp hderive
          rw [hderived] at hcomplete
          exact h₁.complete (sessionOfIntent_ok hlifecycle process.stdoutPath) hcomplete

/-- A request that has stored nothing may return any error. -/
theorem NewSession.wordIsHandled {α : Type} {id : SessionId} (h : NewSession id s.world)
    (hhandled : s.unhandled = false) (e : DaemonError) :
    WordIsHandled (α := α) id (.error e) s := by
  refine iff_of_true ⟨h.session, .inl ?_, Database.getLifecycle_eq_none_iff.mpr h.lifecycle, ?_⟩
    hhandled
  · rw [intentStatus, h.intent, Option.map_none]
  · rw [World.runtimeRuns, h.shim]
    rfl

/-- The first transaction of a new session. A commit that is applied and reported as failed
leaves its intent behind. -/
theorem NewSession.begin {r : Except DaemonError Unit} (h : NewSession call.id s.world)
    (hhandled : s.unhandled = false)
    (hrun : (store (.beginSpawnIntent call.intent)).Runs (SpawnAnswers call.id) s r s') :
    match r with
    | .ok _ => Underway call.id s'
    | .error e => WordIsHandled (α := Session) call.id (.error e) s' := by
  obtain ⟨w, choice, hothers, hexec, -, hunhandled⟩ := runs_call.mp hrun
  have hnew := h.of_leaves hothers
  rw [hhandled, Bool.false_or] at hunhandled
  -- what the transaction leaves when it takes effect
  have hpending : ∀ {db : Database} {u : Unit},
      (StoreOp.beginSpawnIntent call.intent).Effect w.db db u →
      intentStatus db call.id = some .pending ∧ db.sessions = w.db.sessions := by
    intro db u heffect
    obtain ⟨hunknown, -, rfl⟩ := Database.beginSpawnIntent_eq_ok heffect
    exact ⟨congrArg (Option.map SpawnIntentRow.status) (Table.lookup_insert_self hunknown _), rfl⟩
  cases r with
  | error e =>
      -- a failure without effect leaves the new session as it was, a late one its pending intent
      cases choice with
      | plain choice =>
          have hplain : (Op.store (.beginSpawnIntent call.intent)).exec choice w = _ := hexec
          obtain ⟨db, hstore, hworld⟩ := Op.exec_store hplain
          rw [StoreOp.exec_error hstore] at hworld
          have hsame : s'.world = w := hworld
          exact NewSession.wordIsHandled (hsame ▸ hnew) hunhandled e
      | late choice error =>
          cases StoreOp.lateEffect_of_execLate hexec with
          | mk o a error heffect hframe =>
              exact wordIsHandled_of_pending (hpending heffect).1 hunhandled
  | ok u =>
      obtain ⟨db, hstore, hworld⟩ := Op.exec_store (Op.exec_of_execLate_ok hexec)
      obtain ⟨hintent, hsessions⟩ := hpending (StoreOp.exec_ok hstore)
      refine ⟨?_, ?_, hunhandled⟩
      · rw [hworld]
        exact hintent
      · rw [hworld]
        show db.sessions.lookup call.id = none
        rw [hsessions]
        exact hnew.session

theorem spawn_word {r : Except DaemonError Session} (hnew : NewSession call.id w)
    (hrun : (spawn call.intent).Runs (SpawnAnswers call.id) ⟨w, false⟩ r s') :
    WordIsHandled call.id r s' := by
  obtain ⟨first, s₁, hfirst, hrest⟩ := runs_bind.mp hrun
  -- the check of the namespace, before anything is written
  obtain ⟨checked, rfl, hcheck⟩ := runs_mapError.mp hfirst
  obtain ⟨late, hothers, hunhandled⟩ := world_of_read
    (o := .namespaceExists call.intent.sessionDraft.namespaceSlug) (fun heffect => heffect) hcheck
  have h₁ : NewSession call.id s₁.world := hnew.of_leaves hothers
  have hhandled : s₁.unhandled = false := by
    rw [hunhandled, Bool.false_or]
    cases checked with
    | ok found => rfl
    | error e =>
        show s₁.world.db.spawnIntents.contains call.id = false
        rw [Table.contains, h₁.intent]
        rfl
  cases checked with
  | error e =>
      obtain ⟨rfl, rfl⟩ := hrest
      exact h₁.wordIsHandled hhandled _
  | ok found =>
      cases found with
      | false =>
          obtain ⟨rfl, rfl⟩ := hrest
          exact h₁.wordIsHandled hhandled _
      | true =>
          -- from the first transaction on the intent is this spawn's, and others leave it
          obtain ⟨begun, s₂, hbegin, hspawning⟩ := runs_bind.mp hrest
          have h₂ := h₁.begin hhandled hbegin
          cases begun with
          | error e =>
              obtain ⟨rfl, rfl⟩ := hspawning
              exact h₂
          | ok u =>
              -- whatever the runtime answers
              obtain ⟨spawned, s₃, hspawn, hafter⟩ := runs_attempt_bind.mp hspawning
              have h₃ : Underway call.id s₃ := Underway.of_runs (leaves_runtimeSpawn _) h₂ hspawn
              refine h₃.afterSpawn (fun process hprocess => ?_) hafter
              subst hprocess
              exact commitsTo_of_runs hspawn

end Requests

/-! ## The other tasks of the daemon -/

section Others

variable {id : SessionId}

/-- Session rows come with a commit and go with their namespace. -/
theorem StoreOp.Effect.contains_session {db db' : Database} {o : StoreOp} {a : o.Res}
    (h : o.Effect db db' a)
    (hcommit : ∀ id' session lc, o = .commitSpawnIntent id' session lc → session.id ≠ id)
    (hdelete : ∀ slug, o ≠ .deleteSessionsByNamespace slug) :
    db'.sessions.contains id = db.sessions.contains id := by
  -- modifying a row neither adds nor removes one
  have hmodified : ∀ (id' : SessionId) (f : SessionRow → SessionRow),
      (db.sessions.modify id' f).contains id = db.sessions.contains id := by
    intro id' f
    rw [Table.contains, Table.lookup_modify]
    split
    · next hid => rw [Option.isSome_map, Table.contains, hid]
    · rfl
  by_cases hwrites : o.writesSessions = false
  · rw [(h.sessions hwrites).1]
  · cases o with
    | commitSpawnIntent id' session lc =>
        obtain ⟨now, h⟩ := h
        obtain ⟨-, -, rfl⟩ := Database.commitSpawnIntent_eq_ok h
        -- the row that the commit inserts is another session's
        have hne := hcommit id' session lc rfl
        show ((db.sessions.insert session.id (sessionRow session)).lookup id).isSome = _
        rw [Table.lookup_insert_ne hne.symm, Table.contains]
    | applyRuntimeEventsAndCursor events nextCursor =>
        obtain ⟨now, rfl⟩ := h
        rw [Table.contains, Database.lookup_sessions_applyRuntimeEventsAndCursor,
          Option.isSome_map, Table.contains]
    | recordTranscriptPath id' path =>
        obtain ⟨now, rfl⟩ := h
        exact hmodified id' _
    | markSessionTerminated id' exitCode =>
        obtain ⟨now, rfl⟩ := h
        exact hmodified id' _
    | deleteSessionsByNamespace slug => exact absurd rfl (hdelete slug)
    | _ => exact absurd rfl hwrites

/-- A shim comes with a launch. -/
theorem OsOp.Effect.no_shim {w w' : World} {o : OsOp} {a : o.Res} (h : o.Effect w w' a)
    (hlaunch : ∀ request, o = .launchShim request → request.sessionId ≠ id)
    (hnone : w.shims.lookup id = none) : w'.shims.lookup id = none := by
  -- a signal and an answer modify a shim, they add none
  have hmodified : ∀ (id' : SessionId) (f : Shim → Shim),
      (w.shims.modify id' f).lookup id = none := by
    intro id' f
    rw [Table.lookup_modify]
    split
    · next hid => rw [← hid, hnone, Option.map_none]
    · exact hnone
  cases o with
  | launchShim request =>
      obtain ⟨-, shimPid, rfl⟩ := h
      exact (Table.lookup_insert_ne (hlaunch request rfl).symm _).trans hnone
  | pidAlive pid => rw [h.1]; exact hnone
  | dockerRunning id' => rw [h.1]; exact hnone
  | startTimeForPid pid =>
      cases a with
      | known st => rw [h.1]; exact hnone
      | gone => rw [h.1]; exact hnone
      | unsupported => cases h; exact hnone
  | sendSignal pid signal =>
      cases a with
      | alreadyExited => rw [h.1]; exact hnone
      | signalled =>
          cases h
          show (OsOp.signalPid w pid signal).shims.lookup id = none
          rw [OsOp.signalPid]
          split
          · exact (Table.lookup_mapRows _ _ id).trans (by rw [hnone, Option.map_none])
          · exact hnone
  | dockerKill id' signal =>
      cases a with
      | alreadyExited => rw [h.1]; exact hnone
      | signalled => rw [h.2]; exact hmodified id' _
  | deliverLaunch id' => cases h; exact hmodified id' _
  | ackReady id' => cases h; exact hmodified id' _
  | _ => cases h; exact hnone

theorem World.no_shim_env {w w' : World} {event : EnvEvent} (h : w.env event = some w')
    (hnone : w.shims.lookup id = none) : w'.shims.lookup id = none := by
  have hmodified : ∀ (id' : SessionId) (f : Shim → Shim),
      (w.shims.modify id' f).lookup id = none := by
    intro id' f
    rw [Table.lookup_modify]
    split
    · next hid => rw [← hid, hnone, Option.map_none]
    · exact hnone
  cases event with
  | childStarts id' runtimePid startTime =>
      obtain ⟨-, rfl⟩ := World.guarded_eq_some.mp h
      exact hmodified id' _
  | childEnds id' exit => cases h; exact hmodified id' _
  | shimDies id' => cases h; exact hmodified id' _

/-- An operation of a program that neither requests nor holds the intent of `id`, and
removes no namespace. -/
theorem leavesSpawn_of_exec {w w' : World} {origin : Origin} {φ : Knowledge} {choice : Choice}
    {o : Op} {r : Except DaemonError o.Res} (htables : Tables w) (hduties : Duties w origin φ)
    (hrequested : ∀ intent, φ.requested = some intent → intent.sessionId ≠ id)
    (hholds : ¬φ.Holds id) (hremoving : φ.removing = none) (hallows : φ.allows o)
    (hexec : o.exec choice w = some (r, w')) : LeavesSpawn id w w' := by
  cases o with
  | log o =>
      obtain ⟨log, -, rfl⟩ := Op.exec_log hexec
      exact ⟨rfl, rfl, fun h => h, fun h => h⟩
  | memory o =>
      rw [MemoryOp.frame hexec]
      exact ⟨rfl, rfl, fun h => h, fun h => h⟩
  | os o =>
      cases r with
      | error e =>
          rw [(OsOp.exec_error hexec).1]
          exact .refl id w
      | ok a =>
          have heffect := OsOp.run_ok (OsOp.exec_ok hexec)
          have hdb : w'.db = w.db := by rw [heffect.frame]
          refine ⟨by rw [hdb], by rw [hdb], fun h => by rw [hdb, h], heffect.no_shim ?_⟩
          -- a shim is launched for an intent that is held, and this one is not
          rintro request rfl hid
          exact hholds (hid ▸ hallows.1)
  | store o =>
      obtain ⟨db, hstore, rfl⟩ := Op.exec_store hexec
      cases r with
      | error e =>
          rw [StoreOp.exec_error hstore]
          exact .refl id w
      | ok a =>
          have heffect := StoreOp.exec_ok hstore
          refine ⟨?_, heffect.contains_session ?_ ?_, fun hnone => ?_, fun h => h⟩
          · refine heffect.lookup_intent hallows hholds ?_
            rintro intent rfl
            exact hrequested intent hallows
          · rintro id' session lc rfl hid
            -- the session of a commit is the draft of the intent that is held
            obtain ⟨intent, hheld, -, -, ⟨stdoutPath, now, hsession⟩, -⟩ := hallows
            have hdraft := (hduties.held intent hheld).draft_id htables
            have hsame : intent.sessionId = id :=
              (hdraft.symm.trans (sessionOfIntent_id hsession).1.symm).trans hid
            exact hholds ⟨intent, hheld, hsame⟩
          · rintro slug rfl
            -- nothing is being removed
            have hslug : φ.removing = some slug := hallows
            rw [hremoving] at hslug
            cases hslug
          · show db.lifecycles.lookup id = none
            -- two statements insert a lifecycle row, each for an intent of its own
            by_contra hsome
            obtain ⟨row, hrow⟩ := Option.ne_none_iff_exists'.mp hsome
            cases o with
            | beginSpawnIntent intent =>
                obtain ⟨-, -, rfl⟩ := Database.beginSpawnIntent_eq_ok heffect
                have hlookup := Table.lookup_insert_ne (t := w.db.lifecycles)
                  (hrequested intent hallows).symm (lifecycleRow (Database.forkingLifecycle intent))
                exact hsome (hlookup.trans hnone)
            | insertForking lc =>
                obtain ⟨-, -, rfl⟩ := Database.insertForking_eq_ok heffect
                obtain ⟨intent, hheld, rfl⟩ := hallows
                have hne : id ≠ intent.sessionId := fun h => hholds ⟨intent, hheld, h.symm⟩
                exact hsome ((Table.lookup_insert_ne (t := w.db.lifecycles) hne _).trans hnone)
            | _ =>
                obtain ⟨row', hrow'⟩ := heffect.lifecycle_before (fun _ h => by cases h)
                  (fun _ h => by cases h) id hrow
                rw [hnone] at hrow'
                cases hrow'

/-- In the daemon, every step of another task leaves a spawn alone, as long as no
namespace is being removed: what the others do to the spawns of `SpawnAnswers` is no less
than what they do in the daemon. -/
theorem leavesSpawn_of_next {c c' : Pool watched} {label : Label daemon} {t : Nat}
    {thread : Thread watched} {call : SpawnCall} (hconforming : c.Conforming)
    (hstanding : Standing c.shared c.minds) (hagreement : Agreement c.shared c.minds)
    (hthread : c.threads t = some thread) (horigin : thread.origin = .spawn call)
    (hmine : intentStatus c.shared.db call.id = some .pending → thread.know.Holds call.id)
    (hother : ∀ choice, label ≠ .run t choice)
    (hremoving : ∀ t' thread' slug, c.threads t' = some thread' →
      thread'.origin ≠ .removeNamespaceCatalog slug)
    (hnext : c.next label = some c') : LeavesSpawn call.id c.shared c'.shared := by
  cases label with
  | crash =>
      cases hnext
      exact ⟨rfl, rfl, fun h => h, fun h => h⟩
  | env event =>
      obtain ⟨w', henv, rfl⟩ := Pool.next_env_eq_some hnext
      have hdb : w'.db = c.shared.db := by rw [World.env_frame henv]
      exact ⟨by rw [hdb], by rw [hdb], fun h => by rw [hdb, h], World.no_shim_env henv⟩
  | start origin =>
      obtain ⟨w', hstart, rfl⟩ := Pool.next_start_eq_some hnext
      show LeavesSpawn call.id c.shared w'
      rw [World.start_frame hstart]
      exact ⟨rfl, rfl, fun h => h, fun h => h⟩
  | run t' choice =>
      obtain ⟨thread', o, k, r, w', hthread', hprog, hexec, rfl⟩ := Pool.next_run_eq_some hnext
      have hallows := hconforming t' thread' hthread'
      rw [hprog] at hallows
      have hne : t' ≠ t := by
        rintro rfl
        exact hother choice rfl
      have hmind : c.minds t = some (.spawn call, thread.know) := by
        rw [Pool.minds, hthread, Option.map_some, horigin]
      have hmind' : c.minds t' = some (thread'.origin, thread'.know) := by
        rw [Pool.minds, hthread', Option.map_some]
      have hstands := hstanding.threads t' _ _ hmind'
      refine leavesSpawn_of_exec hagreement.tables (hagreement.duties t' _ _ hmind') ?_ ?_ ?_
        hallows.1 hexec
      · intro intent hrequested hid
        obtain ⟨call', horigin', rfl⟩ := hstands.requested intent hrequested
        rw [horigin'] at hmind'
        exact hne (hstanding.oneSpawn t' t call' call _ _ hmind' hmind hid)
      · -- whoever holds a pending intent is the only one
        intro hholds
        have hpending := hholds.waits (hagreement.duties t' _ _ hmind')
        exact hne (hagreement.heldOnce t' t _ _ _ _ call.id hmind' hmind hholds (hmine hpending))
      · by_contra hsome
        obtain ⟨slug, hslug⟩ := Option.ne_none_iff_exists'.mp hsome
        exact hremoving t' thread' slug hthread' (hstands.removing slug hslug)

end Others

/-! ## A spawn whose shim does not report, and one whose namespace check fails -/

/-- One operation of a spawn that runs alone. -/
def spawnExec (id : SessionId) (choice : LateChoice) (o : Op) (s : SpawnRun) :
    Option (Except DaemonError o.Res × SpawnRun) :=
  (o.execLate choice s.world).bind fun result =>
    if abortSucceeds s.world o result.1 then
      some (result.1,
        ⟨result.2, s.unhandled || unhandled id s.world choice.isLate o result.1⟩)
    else none

theorem spawnAnswers_of_exec {id : SessionId} {choice : LateChoice} {o : Op} {s s' : SpawnRun}
    {r : Except DaemonError o.Res} (h : spawnExec id choice o s = some (r, s')) :
    SpawnAnswers id s o r s' := by
  obtain ⟨⟨r₁, w₁⟩, hexec, hresult⟩ := Option.bind_eq_some_iff.mp h
  split at hresult
  · next hsucceeds =>
      cases hresult
      exact ⟨s.world, choice, .refl id s.world, hexec, hsucceeds, rfl⟩
  · cases hresult

/-- A fresh daemon that accepts requests. -/
def listeningWorld : World := { World.fresh 0 with stage := .listening }

/-- The shim is launched and does not report in time. -/
def elapsedRun : Option (Except DaemonError Reply × SpawnRun) :=
  (spawnRpc sampleCall.intent).replay (spawnExec sampleId)
    (List.replicate 9 (.plain .run) ++
      [.plain (.launch 40 (some "out")), .plain .elapsed, .plain (.time 5)])
    ⟨listeningWorld, false⟩

end LittleOrgans.Concurrency
