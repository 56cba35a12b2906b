import LittleOrgans.Concurrency.SessionConformance

/-!
# Effects of operations

One lemma for each kind of operation: what a statement that succeeded did to the
store (`StoreOp.exec_ok`), and which parts of the world an operation leaves alone
(`frame`). The watch over the daemon's programs (`watched`) is put together here.
-/

set_option autoImplicit false

namespace LittleOrgans.Concurrency

open LittleOrgans.Core
open LittleOrgans.Library
open LittleOrgans.Store
open LittleOrgans.Daemon

@[simp]
theorem Choice.ran_eq_some {α : Type} {choice : Choice} {a b : α} :
    choice.ran a = some b ↔ choice = .run ∧ a = b := by
  cases choice <;> simp [Choice.ran]

@[simp]
theorem Choice.timed_eq_some {α : Type} {choice : Choice} {f : DateTime → α} {b : α} :
    choice.timed f = some b ↔ ∃ now, choice = .time now ∧ f now = b := by
  cases choice <;> simp [Choice.timed]

/-! ## Store -/

namespace StoreOp

/-- What a statement that succeeded did. -/
def Effect (db db' : Database) : (o : StoreOp) → o.Res → Prop
  | getLifecycle id, found => db' = db ∧ found = db.getLifecycle id
  | listLifecycles filter, lcs => db' = db ∧ lcs = db.listLifecycles filter
  | runningLifecycles, lcs => db' = db ∧ lcs = db.runningLifecycles
  | runningTmuxOccupant address, found => db' = db ∧ found = db.runningTmuxOccupant address
  | insertForking lc, _ => db.insertForking lc = .ok db'
  | updateLifecycle lc, _ => db.updateLifecycle lc = .ok db'
  | deleteLifecycle id, _ => db' = db.deleteLifecycle id
  | recordProbeSweep, _ => db' = db
  | beginSpawnIntent intent, _ => db.beginSpawnIntent intent = .ok db'
  | namespaceExists _, _ => db' = db
  | beginTx, _ => db' = db
  | commitSpawnIntent id session lc, _ => ∃ now, db.commitSpawnIntent id session lc now = .ok db'
  | abortSpawnIntent id reason, _ => ∃ now, db' = db.abortSpawnIntent id reason now
  | listPendingSpawnIntents, intents =>
      db' = db ∧ intents = db.listPendingSpawnIntents.map intentOfRow
  | eventCursor, cursor => db' = db ∧ cursor = db.eventCursor
  | applyRuntimeEventsAndCursor events nextCursor, _ =>
      ∃ now, db' = db.applyRuntimeEventsAndCursor events nextCursor now
  | recordTranscriptPath id path, _ => ∃ now, db' = db.recordTranscriptPath id path now
  | markSessionTerminated id exitCode, _ => ∃ now, db' = db.markSessionTerminated id exitCode now
  | activeSessionCountInNamespace _, _ => db' = db
  | deleteSessionsByNamespace slug, _ => db' = db.deleteSessionsByNamespace slug
  | deleteNamespace slug, _ => db' = db.deleteNamespace slug

theorem transact_eq_ok {db db' : Database} {r : Except DaemonError Database} {u : Unit} :
    transact db r = (.ok u, db') ↔ r = .ok db' := by
  cases r <;> simp [transact]

theorem transact_eq_error {db db' : Database} {r : Except DaemonError Database}
    {e : DaemonError} (h : transact db r = (.error e, db')) : db' = db := by
  cases r with
  | ok db₁ => simp [transact] at h
  | error e' =>
      cases h
      rfl

theorem run_ok {choice : Choice} {db db' : Database} {o : StoreOp} {a : o.Res}
    (h : o.run choice db = some (.ok a, db')) : o.Effect db db' a := by
  cases o <;>
    simp only [run, Choice.ran_eq_some, Choice.timed_eq_some, transact_eq_ok, Prod.mk.injEq,
      Except.ok.injEq] at h <;>
    simp only [Effect] <;>
    grind

theorem run_error {choice : Choice} {db db' : Database} {o : StoreOp} {e : DaemonError}
    (h : o.run choice db = some (.error e, db')) : db' = db := by
  cases o <;>
    simp only [run, Choice.ran_eq_some, Choice.timed_eq_some, Prod.mk.injEq, reduceCtorEq,
      false_and, and_false, exists_false] at h <;>
    first
    | exact transact_eq_error h.2
    | exact (Exists.elim h fun _ h => transact_eq_error h.2)

/-- A statement that succeeds has its effect. -/
theorem exec_ok {choice : Choice} {db db' : Database} {o : StoreOp} {a : o.Res}
    (h : o.exec choice db = some (.ok a, db')) : o.Effect db db' a := by
  cases choice with
  | fault e => cases h
  | _ => exact run_ok h

/-- A statement that fails has none. -/
theorem exec_error {choice : Choice} {db db' : Database} {o : StoreOp} {e : DaemonError}
    (h : o.exec choice db = some (.error e, db')) : db' = db := by
  cases choice with
  | fault e =>
      cases h
      rfl
  | _ => exact run_error h

/-- Statements that write lifecycles or spawn intents. -/
def writesLifecycles : StoreOp → Bool
  | insertForking _ => true
  | updateLifecycle _ => true
  | deleteLifecycle _ => true
  | beginSpawnIntent _ => true
  | commitSpawnIntent _ _ _ => true
  | abortSpawnIntent _ _ => true
  | _ => false

/-- Statements that write session rows. -/
def writesSessions : StoreOp → Bool
  | commitSpawnIntent _ _ _ => true
  | applyRuntimeEventsAndCursor _ _ => true
  | recordTranscriptPath _ _ => true
  | markSessionTerminated _ _ => true
  | deleteSessionsByNamespace _ => true
  | _ => false

/-- The other statements leave both tables alone. -/
theorem Effect.lifecycles {db db' : Database} {o : StoreOp} {a : o.Res} (h : o.Effect db db' a)
    (hwrites : o.writesLifecycles = false) :
    db'.lifecycles = db.lifecycles ∧ db'.spawnIntents = db.spawnIntents := by
  cases o with
  -- statements on other tables: the frame of each says what it touches
  | applyRuntimeEventsAndCursor events nextCursor =>
      obtain ⟨now, rfl⟩ := h
      rw [Database.frame_applyRuntimeEventsAndCursor]
      exact ⟨rfl, rfl⟩
  | deleteSessionsByNamespace slug =>
      cases h
      rw [Database.frame_deleteSessionsByNamespace]
      exact ⟨rfl, rfl⟩
  | recordTranscriptPath id path =>
      obtain ⟨now, rfl⟩ := h
      exact ⟨rfl, rfl⟩
  | markSessionTerminated id exitCode =>
      obtain ⟨now, rfl⟩ := h
      exact ⟨rfl, rfl⟩
  | deleteNamespace slug =>
      cases h
      exact ⟨rfl, rfl⟩
  -- statements on these tables, which the hypothesis excludes
  | insertForking lc => cases hwrites
  | updateLifecycle lc => cases hwrites
  | deleteLifecycle id => cases hwrites
  | beginSpawnIntent intent => cases hwrites
  | commitSpawnIntent id session lc => cases hwrites
  | abortSpawnIntent id reason => cases hwrites
  -- reads
  | getLifecycle id => exact ⟨by rw [h.1], by rw [h.1]⟩
  | listLifecycles filter => exact ⟨by rw [h.1], by rw [h.1]⟩
  | runningLifecycles => exact ⟨by rw [h.1], by rw [h.1]⟩
  | runningTmuxOccupant address => exact ⟨by rw [h.1], by rw [h.1]⟩
  | listPendingSpawnIntents => exact ⟨by rw [h.1], by rw [h.1]⟩
  | eventCursor => exact ⟨by rw [h.1], by rw [h.1]⟩
  | _ =>
      cases h
      exact ⟨rfl, rfl⟩

theorem Effect.sessions {db db' : Database} {o : StoreOp} {a : o.Res} (h : o.Effect db db' a)
    (hwrites : o.writesSessions = false) :
    db'.sessions = db.sessions ∧ db'.labels = db.labels := by
  cases o with
  -- statements on these tables, which the hypothesis excludes
  | applyRuntimeEventsAndCursor events nextCursor => cases hwrites
  | deleteSessionsByNamespace slug => cases hwrites
  | recordTranscriptPath id path => cases hwrites
  | markSessionTerminated id exitCode => cases hwrites
  | commitSpawnIntent id session lc => cases hwrites
  -- statements on other tables
  | insertForking lc =>
      obtain ⟨-, -, rfl⟩ := Database.insertForking_eq_ok h
      exact ⟨rfl, rfl⟩
  | updateLifecycle lc =>
      obtain ⟨-, rfl⟩ := Database.updateLifecycle_eq_ok h
      exact ⟨rfl, rfl⟩
  | beginSpawnIntent intent =>
      obtain ⟨-, -, rfl⟩ := Database.beginSpawnIntent_eq_ok h
      exact ⟨rfl, rfl⟩
  | abortSpawnIntent id reason =>
      obtain ⟨now, rfl⟩ := h
      exact ⟨rfl, rfl⟩
  | deleteNamespace slug =>
      cases h
      exact ⟨rfl, rfl⟩
  | deleteLifecycle id =>
      cases h
      exact ⟨rfl, rfl⟩
  -- reads
  | getLifecycle id => exact ⟨by rw [h.1], by rw [h.1]⟩
  | listLifecycles filter => exact ⟨by rw [h.1], by rw [h.1]⟩
  | runningLifecycles => exact ⟨by rw [h.1], by rw [h.1]⟩
  | runningTmuxOccupant address => exact ⟨by rw [h.1], by rw [h.1]⟩
  | listPendingSpawnIntents => exact ⟨by rw [h.1], by rw [h.1]⟩
  | eventCursor => exact ⟨by rw [h.1], by rw [h.1]⟩
  | _ =>
      cases h
      exact ⟨rfl, rfl⟩

end StoreOp

/-! ## Memory, event log and operating system -/

namespace MemoryOp

theorem exec_ok {choice : Choice} {w w' : World} {o : MemoryOp} {a : o.Res}
    (h : o.exec choice w = some (.ok a, w')) : o.run choice w = some (a, w') := by
  unfold exec at h
  split at h
  · cases h
  · obtain ⟨⟨b, w₁⟩, hrun, hresult⟩ := Option.map_eq_some_iff.mp h
    cases hresult
    exact hrun

theorem exec_error {choice : Choice} {w w' : World} {o : MemoryOp} {e : DaemonError}
    (h : o.exec choice w = some (.error e, w')) :
    w' = w ∧ ∃ id runtimePid, o = startExitWatcher id runtimePid := by
  unfold exec at h
  split at h
  · cases h
    exact ⟨rfl, _, _, rfl⟩
  · obtain ⟨result, -, hresult⟩ := Option.map_eq_some_iff.mp h
    cases hresult

theorem run_frame {choice : Choice} {w w' : World} {o : MemoryOp} {a : o.Res}
    (h : o.run choice w = some (a, w')) :
    w' = { w with
      runtime := w'.runtime
      terminalSessions := w'.terminalSessions
      loop := w'.loop
      stage := w'.stage } := by
  cases o with
  | sendReady channel ready =>
      rw [run] at h
      split at h <;> simp only [Choice.ran_eq_some, Prod.mk.injEq] at h <;> rw [← h.2.2]
  | startExitWatcher id pid =>
      rw [run] at h
      split at h <;> simp only [Choice.ran_eq_some, Prod.mk.injEq] at h <;> rw [← h.2.2]
  | awaitReady channel =>
      obtain ⟨found, -, hfound⟩ := Option.map_eq_some_iff.mp h
      cases hfound
      rfl
  | loopCursor =>
      rw [run] at h
      split at h
      · simp only [Choice.ran_eq_some, Prod.mk.injEq] at h
        rw [← h.2.2]
      · cases h
      · cases h
  | _ =>
      simp only [run, Choice.ran_eq_some, Prod.mk.injEq] at h
      rw [← h.2.2]

/-- A memory operation touches the memory of the daemon only. -/
theorem frame {choice : Choice} {w w' : World} {o : MemoryOp} {r : Except DaemonError o.Res}
    (h : o.exec choice w = some (r, w')) :
    w' = { w with
      runtime := w'.runtime
      terminalSessions := w'.terminalSessions
      loop := w'.loop
      stage := w'.stage } := by
  cases r with
  | ok a => exact run_frame (exec_ok h)
  | error e => rw [(exec_error h).1]

/-- Only `enterStage` moves the stage. -/
theorem stage_exec {choice : Choice} {w w' : World} {o : MemoryOp} {r : Except DaemonError o.Res}
    (h : o.exec choice w = some (r, w')) (hstage : ∀ stage, o ≠ enterStage stage) :
    w'.stage = w.stage := by
  cases r with
  | error e => rw [(exec_error h).1]
  | ok a =>
      have hrun := exec_ok h
      cases o with
      -- the only operation that sets the stage
      | enterStage stage => exact absurd rfl (hstage stage)
      | sendReady channel ready =>
          rw [run] at hrun
          split at hrun <;> simp only [Choice.ran_eq_some, Prod.mk.injEq] at hrun <;>
            rw [← hrun.2.2]
      | startExitWatcher id pid =>
          rw [run] at hrun
          split at hrun <;> simp only [Choice.ran_eq_some, Prod.mk.injEq] at hrun <;>
            rw [← hrun.2.2]
      | awaitReady channel =>
          obtain ⟨found, -, hfound⟩ := Option.map_eq_some_iff.mp hrun
          cases hfound
          rfl
      | loopCursor =>
          rw [run] at hrun
          split at hrun
          · simp only [Choice.ran_eq_some, Prod.mk.injEq] at hrun
            rw [← hrun.2.2]
          · cases hrun
          · cases hrun
      | _ =>
          simp only [run, Choice.ran_eq_some, Prod.mk.injEq] at hrun
          rw [← hrun.2.2]

theorem enterStage_exec {choice : Choice} {w w' : World} {stage : Stage}
    {r : Except DaemonError Unit} (h : (enterStage stage).exec choice w = some (r, w')) :
    r = .ok () ∧ w' = { w with stage := stage } := by
  cases r with
  | error e =>
      obtain ⟨-, id, pid, h⟩ := exec_error h
      cases h
  | ok a =>
      have hrun := exec_ok h
      simp only [run, Choice.ran_eq_some, Prod.mk.injEq] at hrun
      exact ⟨rfl, hrun.2.2.symm⟩

end MemoryOp

namespace OsOp

theorem exec_ok {choice : Choice} {w w' : World} {o : OsOp} {a : o.Res}
    (h : o.exec choice w = some (.ok a, w')) : o.run choice w = some (a, w') := by
  unfold exec at h
  split at h
  · split at h <;> cases h
  · obtain ⟨⟨b, w₁⟩, hrun, hresult⟩ := Option.map_eq_some_iff.mp h
    cases hresult
    exact hrun

theorem exec_error {choice : Choice} {w w' : World} {o : OsOp} {e : DaemonError}
    (h : o.exec choice w = some (.error e, w')) : w' = w ∧ o.infallible = false := by
  unfold exec at h
  split at h
  · split at h
    · cases h
    · next hinfallible =>
        cases h
        exact ⟨rfl, Bool.eq_false_iff.mpr hinfallible⟩
  · obtain ⟨result, -, hresult⟩ := Option.map_eq_some_iff.mp h
    cases hresult

theorem answer_eq_some {α : Type} {possible : Bool} {a b : α} {w w' : World} :
    answer possible a w = some (b, w') ↔ possible = true ∧ a = b ∧ w = w' := by
  cases possible <;> simp [answer]

/-- What an operation that succeeded did, and what its answer says. -/
def Effect (w w' : World) : (o : OsOp) → o.Res → Prop
  | launchShim request, _ => w.shims.lookup request.sessionId = none ∧
      ∃ shimPid, w' =
        { w with shims := w.shims.insert request.sessionId (newShim shimPid) }
  | pidAlive pid, alive => w' = w ∧ (alive = false → w.pidGone pid = true)
  | startTimeForPid pid, .known startTime => w' = w ∧ w.startedAt pid startTime = true
  | startTimeForPid pid, .gone => w' = w ∧ w.pidGone pid = true
  | sendSignal pid signal, .signalled => w' = signalPid w pid signal
  | sendSignal pid _, .alreadyExited => w' = w ∧ w.pidGone pid = true
  | dockerRunning id, running => w' = w ∧ (running = false →
      ((w.shims.lookup id).any fun shim => shim.isRunning && shim.signalled) = false)
  | dockerKill id signal, .signalled =>
      (w.shims.lookup id).any Shim.isRunning = true ∧ w' = signalContainer w id signal
  | dockerKill id _, .alreadyExited => w' = w ∧ (w.shims.lookup id).any Shim.isRunning = false
  | deliverLaunch id, _ => w' = { w with shims := w.shims.modify id grantLaunch }
  | ackReady id, _ =>
      w' = { w with shims := w.shims.modify id fun shim => { shim with readyAcked := true } }
  | _, _ => w' = w

theorem run_ok {choice : Choice} {w w' : World} {o : OsOp} {a : o.Res}
    (h : o.run choice w = some (a, w')) : o.Effect w w' a := by
  cases o with
  | now =>
      obtain ⟨t, -, hresult⟩ := Choice.timed_eq_some.mp h
      cases hresult
      rfl
  | sleep =>
      cases (Choice.ran_eq_some.mp h).2
      rfl
  | checkIsolation request =>
      cases (Choice.ran_eq_some.mp h).2
      rfl
  | prepareLaunch request =>
      cases (Choice.ran_eq_some.mp h).2
      rfl
  | deliverLaunch id =>
      cases (Choice.ran_eq_some.mp h).2
      rfl
  | ackReady id =>
      cases (Choice.ran_eq_some.mp h).2
      rfl
  -- answers that the choice gives freely
  | rounds =>
      cases choice <;> cases h
      rfl
  | isTmuxAlive address =>
      cases choice <;> cases h
      rfl
  | logAvailability lc =>
      cases choice <;> cases h
      rfl
  | launchShim request =>
      cases choice with
      | launch shimPid stdoutPath =>
          rw [run] at h
          split at h
          · cases h
          · next hnew =>
              cases h
              exact ⟨by simpa [Table.contains] using hnew, shimPid, rfl⟩
      | _ => cases h
  -- answers that the processes of the world restrict
  | pidAlive pid =>
      cases choice with
      | flag b =>
          obtain ⟨hpossible, rfl, rfl⟩ := answer_eq_some.mp h
          refine ⟨rfl, fun hb => ?_⟩
          subst hb
          exact hpossible
      | _ => cases h
  | startTimeForPid pid =>
      cases choice with
      | startTime found =>
          cases found with
          | known t =>
              obtain ⟨hpossible, rfl, rfl⟩ := answer_eq_some.mp h
              exact ⟨rfl, hpossible⟩
          | gone =>
              obtain ⟨hpossible, rfl, rfl⟩ := answer_eq_some.mp h
              exact ⟨rfl, hpossible⟩
          | unsupported =>
              cases h
              rfl
      | _ => cases h
  | sendSignal pid signal =>
      cases choice with
      | kill outcome =>
          cases outcome with
          | signalled =>
              cases h
              rfl
          | alreadyExited =>
              obtain ⟨hpossible, rfl, rfl⟩ := answer_eq_some.mp h
              exact ⟨rfl, hpossible⟩
      | _ => cases h
  | dockerRunning id =>
      cases choice with
      | flag b =>
          obtain ⟨hpossible, rfl, rfl⟩ := answer_eq_some.mp h
          refine ⟨rfl, fun hb => ?_⟩
          subst hb
          simpa using hpossible
      | _ => cases h
  | dockerKill id signal =>
      cases choice with
      | kill outcome =>
          cases outcome with
          | signalled =>
              rw [run] at h
              split at h
              · next hrunning =>
                  cases h
                  exact ⟨hrunning, rfl⟩
              · cases h
          | alreadyExited =>
              obtain ⟨hpossible, rfl, rfl⟩ := answer_eq_some.mp h
              exact ⟨rfl, by simpa using hpossible⟩
      | _ => cases h

theorem Effect.frame {w w' : World} {o : OsOp} {a : o.Res} (h : o.Effect w w' a) :
    w' = { w with shims := w'.shims } := by
  -- only a launch and a signal that arrives change the shims
  cases o with
  | launchShim request =>
      obtain ⟨-, shimPid, rfl⟩ := h
      rfl
  | pidAlive pid => rw [h.1]
  | dockerRunning id => rw [h.1]
  | startTimeForPid pid =>
      cases a with
      | known t => rw [h.1]
      | gone => rw [h.1]
      | unsupported =>
          cases h
          rfl
  | sendSignal pid signal =>
      cases a with
      | alreadyExited => rw [h.1]
      | signalled =>
          cases h
          rw [signalPid]
          split <;> rfl
  | dockerKill id signal =>
      cases a with
      | alreadyExited => rw [h.1]
      | signalled =>
          rw [h.2]
          rfl
  | _ =>
      cases h
      rfl

/-- An operation of the operating system touches the shims only. -/
theorem frame {choice : Choice} {w w' : World} {o : OsOp} {r : Except DaemonError o.Res}
    (h : o.exec choice w = some (r, w')) : w' = { w with shims := w'.shims } := by
  cases r with
  | ok a => exact (run_ok (exec_ok h)).frame
  | error e => rw [(exec_error h).1]

end OsOp

/-! ## Starts and the environment -/

namespace World

@[simp]
theorem guarded_eq_some {possible : Bool} {w w' : World} :
    guarded possible w = some w' ↔ possible = true ∧ w = w' := by
  cases possible <;> simp [guarded]

/-- A start touches the watchers, the loop, the ids in use and the stage only. -/
theorem start_frame {w w' : World} {origin : Origin} (h : w.start origin = some w') :
    w' = { w with
      runtime := { w.runtime with exitWatchers := w'.runtime.exitWatchers }
      loop := w'.loop
      usedIds := w'.usedIds
      stage := w'.stage } := by
  cases origin with
  | eventLoopRound =>
      rw [start] at h
      split at h
      · rw [← (guarded_eq_some.mp h).2]
      · cases h
      · cases h
  | _ => rw [← (guarded_eq_some.mp h).2]

theorem start_boot {w w' : World} (h : w.start .boot = some w') :
    w.stage = .down ∧ w' = { w with stage := .booting } := by
  obtain ⟨hstage, rfl⟩ := guarded_eq_some.mp h
  exact ⟨of_decide_eq_true hstage, rfl⟩

theorem start_spawn {w w' : World} {call : SpawnCall} (h : w.start (.spawn call) = some w') :
    w.stage = .listening ∧ call.intent.sessionId ∉ w.usedIds ∧
      w' = { w with usedIds := call.intent.sessionId :: w.usedIds } := by
  obtain ⟨hready, rfl⟩ := guarded_eq_some.mp h
  simp only [Bool.and_eq_true, decide_eq_true_eq] at hready
  exact ⟨hready.1, hready.2, rfl⟩

/-- Nothing but the boot starts while the daemon is down, and nothing else moves
the stage. -/
theorem start_stage {w w' : World} {origin : Origin} (h : w.start origin = some w')
    (hboot : origin ≠ .boot) : w.stage ≠ .down ∧ w'.stage = w.stage := by
  cases origin with
  | boot => exact absurd rfl hboot
  | eventLoopRound =>
      rw [start] at h
      split at h
      · obtain ⟨hready, rfl⟩ := guarded_eq_some.mp h
        refine ⟨fun hdown => ?_, rfl⟩
        rw [hdown] at hready
        cases hready
      · cases h
      · cases h
  | exitWatcher id =>
      obtain ⟨hready, rfl⟩ := guarded_eq_some.mp h
      simp only [Bool.and_eq_true, decide_eq_true_eq] at hready
      exact ⟨hready.1, rfl⟩
  | _ =>
      obtain ⟨hready, rfl⟩ := guarded_eq_some.mp h
      refine ⟨fun hdown => ?_, rfl⟩
      simp [hdown, Stage.isBuilt] at hready

/-- Ids stay in use. -/
theorem start_usedIds {w w' : World} {origin : Origin} (h : w.start origin = some w') :
    w.usedIds ⊆ w'.usedIds := by
  cases origin with
  | spawn call =>
      obtain ⟨-, -, rfl⟩ := start_spawn h
      exact List.subset_cons_self _ _
  | eventLoopRound =>
      rw [start] at h
      split at h
      · rw [← (guarded_eq_some.mp h).2]
        exact List.Subset.refl _
      · cases h
      · cases h
  | _ =>
      rw [← (guarded_eq_some.mp h).2]
      exact List.Subset.refl _

theorem env_frame {w w' : World} {event : EnvEvent} (h : w.env event = some w') :
    w' = { w with shims := w'.shims } := by
  cases event with
  | childStarts id pid startTime => rw [← (guarded_eq_some.mp h).2]
  | childEnds id exit =>
      cases h
      rfl
  | shimDies id =>
      cases h
      rfl

end World

/-! ## The watch -/

theorem Op.exec_store {choice : Choice} {w w' : World} {o : StoreOp}
    {r : Except DaemonError o.Res} (h : Op.exec choice w (.store o) = some (r, w')) :
    ∃ db, o.exec choice w.db = some (r, db) ∧ w' = { w with db := db } := by
  obtain ⟨⟨r', db⟩, hexec, hresult⟩ := Option.map_eq_some_iff.mp h
  cases hresult
  exact ⟨db, hexec, rfl⟩

theorem Op.exec_log {choice : Choice} {w w' : World} {o : LogOp}
    {r : Except DaemonError o.Res} (h : Op.exec choice w (.log o) = some (r, w')) :
    ∃ log, o.exec choice w.log = some (r, log) ∧ w' = { w with log := log } := by
  obtain ⟨⟨r', log⟩, hexec, hresult⟩ := Option.map_eq_some_iff.mp h
  cases hresult
  exact ⟨log, hexec, rfl⟩

/-! ## Lifecycle rows -/

/-- The lifecycle an operation writes. -/
def Op.writes : Op → Option Lifecycle
  | .store (.insertForking lc) => some lc
  | .store (.updateLifecycle lc) => some lc
  | .store (.beginSpawnIntent intent) => some (Database.forkingLifecycle intent)
  | .store (.commitSpawnIntent _ _ lc) => some lc
  | _ => none

/-- The session whose lifecycle an operation deletes. -/
def Op.deletes : Op → Option SessionId
  | .store (.deleteLifecycle id) => some id
  | .store (.abortSpawnIntent id _) => some id
  | _ => none

/-- What an operation did to the lifecycle of a session. -/
inductive RowStep (o : Op) (r : Except DaemonError o.Res) (db db' : Database) (id : SessionId) :
    Prop where
  | same (hrow : db'.getLifecycle id = db.getLifecycle id)
  | written (lc : Lifecycle) (hok : r.isOk = true) (hlc : o.writes = some lc)
      (hid : lc.sessionId = id) (hrow : db'.getLifecycle id = some (storedLifecycle lc))
  | deleted (hdeletes : o.deletes = some id) (hrow : db'.getLifecycle id = none)

theorem StoreOp.Effect.rowStep {o : StoreOp} {db db' : Database} {a : o.Res}
    (h : o.Effect db db' a) (id : SessionId) : RowStep (.store o) (.ok a) db db' id := by
  by_cases hwrites : o.writesLifecycles = false
  · refine .same ?_
    rw [Database.getLifecycle, (h.lifecycles hwrites).1, Database.getLifecycle]
  -- every statement on lifecycles writes or deletes one row
  · cases o with
    | insertForking lc =>
        have hrow := Database.getLifecycle_insertForking h id
        split at hrow
        · next hid => exact .written lc rfl rfl hid.symm hrow
        · exact .same hrow
    | updateLifecycle lc =>
        have hrow := Database.getLifecycle_update h id
        split at hrow
        · next hid => exact .written lc rfl rfl hid.symm hrow
        · exact .same hrow
    | beginSpawnIntent intent =>
        have hrow := Database.getLifecycle_beginSpawnIntent h id
        split at hrow
        · next hid => exact .written _ rfl rfl hid.symm hrow
        · exact .same hrow
    | commitSpawnIntent id' session lc =>
        obtain ⟨now, hcommit⟩ := h
        have hrow := Database.getLifecycle_commitSpawnIntent hcommit id
        split at hrow
        · next hid => exact .written lc rfl rfl hid.symm hrow
        · exact .same hrow
    | deleteLifecycle id' =>
        cases h
        have hrow := Database.getLifecycle_delete db id' id
        split at hrow
        · next hid =>
            subst hid
            exact .deleted rfl hrow
        · exact .same hrow
    | abortSpawnIntent id' reason =>
        obtain ⟨now, rfl⟩ := h
        have hrow := Database.getLifecycle_abortSpawnIntent db id' reason now id
        split at hrow
        · next hid =>
            subst hid
            exact .deleted rfl hrow
        · exact .same hrow
    | _ => exact absurd rfl hwrites

theorem Op.rowStep {choice : Choice} {w w' : World} {o : Op} {r : Except DaemonError o.Res}
    (h : o.exec choice w = some (r, w')) (id : SessionId) : RowStep o r w.db w'.db id := by
  cases o with
  | os o =>
      rw [OsOp.frame h]
      exact .same rfl
  | memory o =>
      rw [MemoryOp.frame h]
      exact .same rfl
  | log o =>
      obtain ⟨log, -, rfl⟩ := exec_log h
      exact .same rfl
  | store o =>
      obtain ⟨db, hrun, rfl⟩ := exec_store h
      cases r with
      | error e =>
          rw [StoreOp.exec_error hrun]
          exact .same rfl
      | ok a => exact (StoreOp.exec_ok hrun).rowStep id

/-- Pending intents are listed once each. -/
theorem nodup_listPendingSpawnIntents (db : Database) :
    ((db.listPendingSpawnIntents.map StoreOp.intentOfRow).map
      PendingSpawnIntent.sessionId).Nodup := by
  have hrows : (db.listPendingSpawnIntents.map Prod.fst).Nodup := by
    refine ((List.perm_insertionSort _ _).map Prod.fst).nodup_iff.mpr ?_
    exact db.spawnIntents.nodup.sublist (List.filter_sublist.map Prod.fst)
  rwa [List.map_map]

/-- No operation takes an id into use, and only `enterStage` moves the stage. -/
theorem Op.usedIds_exec {choice : Choice} {w w' : World} {o : Op} {r : Except DaemonError o.Res}
    (h : o.exec choice w = some (r, w')) : w'.usedIds = w.usedIds := by
  cases o with
  | store o =>
      obtain ⟨db, -, rfl⟩ := exec_store h
      rfl
  | log o =>
      obtain ⟨log, -, rfl⟩ := exec_log h
      rfl
  | memory o => rw [MemoryOp.frame h]
  | os o => rw [OsOp.frame h]

theorem Op.stage_exec {choice : Choice} {w w' : World} {o : Op} {r : Except DaemonError o.Res}
    (h : o.exec choice w = some (r, w')) (hstage : ∀ stage, o ≠ .memory (.enterStage stage)) :
    w'.stage = w.stage := by
  cases o with
  | store o =>
      obtain ⟨db, -, rfl⟩ := exec_store h
      rfl
  | log o =>
      obtain ⟨log, -, rfl⟩ := exec_log h
      rfl
  | memory o => exact MemoryOp.stage_exec h fun stage ho => hstage stage (by rw [ho])
  | os o => rw [OsOp.frame h]

/-- Every result is one the monitor expects. -/
theorem returns_of_exec {choice : Choice} {w w' : World} {o : Op} {r : Except DaemonError o.Res}
    (h : o.exec choice w = some (r, w')) : Knowledge.returns o r := by
  cases o with
  | log o => cases r <;> exact trivial
  | os o =>
      cases r with
      | ok a => exact trivial
      | error e => exact (OsOp.exec_error h).2
  | memory o =>
      cases r with
      | error e => cases o <;> exact trivial
      | ok a =>
          have hrun := MemoryOp.exec_ok h
          cases o with
          | insertPendingReady id =>
              simp only [MemoryOp.run, Choice.ran_eq_some, Prod.mk.injEq] at hrun
              show a.1.sessionId = id
              rw [← hrun.2.1]
              rfl
          | removePendingReady id =>
              simp only [MemoryOp.run, Choice.ran_eq_some, Prod.mk.injEq] at hrun
              intro channel hchannel
              rw [← hrun.2.1] at hchannel
              obtain ⟨serial, -, rfl⟩ := Option.map_eq_some_iff.mp hchannel
              rfl
          | _ => exact trivial
  | store o =>
      obtain ⟨db, hexec, -⟩ := Op.exec_store h
      cases r with
      | error e => cases o <;> exact trivial
      | ok a =>
          have heffect := StoreOp.exec_ok hexec
          cases o with
          -- Reads return rows of the ids they were asked for.
          | getLifecycle id =>
              intro lc hlc
              rw [heffect.2] at hlc
              exact Database.sessionId_of_getLifecycle hlc
          | runningLifecycles =>
              intro lc hlc
              rw [heffect.2] at hlc
              exact (Database.mem_runningLifecycles.mp hlc).1
          | listPendingSpawnIntents =>
              show (List.map PendingSpawnIntent.sessionId a).Nodup
              rw [heffect.2]
              exact nodup_listPendingSpawnIntents w.db
          | _ => exact trivial

/-- The programs of the daemon under the monitor `knowing`. -/
abbrev watched : Watch daemon where
  monitor := knowing
  first := Knowledge.first
  post := Knowledge.post
  conforms := conforms_program
  returns := fun h => returns_of_exec h

/-- A step leaves the store, or is an operation of the store that a thread may call. -/
theorem store_of_step {C : Condition watched} {c c' : Pool watched} (hconforming : c.Conforming)
    (hstep : Pool.Step C c c') :
    c'.shared.db = c.shared.db ∨
      ∃ t thread choice, ∃ (o : StoreOp) (a : o.Res), c.threads t = some thread ∧
        thread.know.allowsStore o ∧ C.op thread.know choice (.store o) c.shared ∧
          o.Effect c.shared.db c'.shared.db a := by
  obtain ⟨label, hmeets, hnext⟩ := hstep
  cases label with
  -- only an operation of a thread on the store reaches the database
  | crash =>
      cases hnext
      exact .inl rfl
  | env event =>
      obtain ⟨w', henv, rfl⟩ := Pool.next_env_eq_some hnext
      left
      show w'.db = c.shared.db
      rw [World.env_frame henv]
  | start origin =>
      obtain ⟨w', hstart, rfl⟩ := Pool.next_start_eq_some hnext
      left
      show w'.db = c.shared.db
      rw [World.start_frame hstart]
  | run t choice =>
      obtain ⟨thread, o, k, r, w', hthread, hprog, hexec, rfl⟩ := Pool.next_run_eq_some hnext
      have hallows := hconforming t thread hthread
      rw [hprog] at hallows
      have hop := hmeets thread o k hthread hprog
      cases o with
      | log o =>
          obtain ⟨log, -, rfl⟩ := Op.exec_log hexec
          exact .inl rfl
      | memory o =>
          left
          show w'.db = c.shared.db
          rw [MemoryOp.frame hexec]
      | os o =>
          left
          show w'.db = c.shared.db
          rw [OsOp.frame hexec]
      | store o =>
          obtain ⟨db, hrun, rfl⟩ := Op.exec_store hexec
          cases r with
          | error e => exact .inl (StoreOp.exec_error hrun)
          | ok a =>
              refine .inr ⟨t, thread, choice, o, a, hthread, hallows.1, hop, ?_⟩
              exact StoreOp.exec_ok hrun

/-! ## A spawn, step by step -/

def sampleId : SessionId := ⟨1⟩

def sampleCall : SpawnCall where
  intent :=
    { sessionId := sampleId
      operationId := ⟨7⟩
      spawnRequest := ⟨sampleId, .claude, .host, .headless, false⟩
      sessionDraft :=
        ⟨sampleId, .claude, "engineer", "/work", "default", "/work", [], none, 0⟩
      createdAt := 0 }
  wellFormed := by decide

/-- `n` operations of thread `t`, in which the environment has no say. -/
def ran (t n : Nat) : List (Label daemon) := List.replicate n (.run t .run)

/-- The daemon comes up on a fresh store, as thread 0. -/
def bootRun : List (Label daemon) := .start .boot :: ran 0 5

/-- The spawn, as thread 1, up to the start of its shim. -/
def launchRun : List (Label daemon) :=
  .start (.spawn sampleCall) :: ran 1 9 ++ [.run 1 (.launch 40 (some "out"))]

/-- The shim takes its launch spec, as thread 2, and starts the runtime. -/
def childRun : List (Label daemon) :=
  .start (.shimLaunch sampleId) :: ran 2 2 ++ [.env (.childStarts sampleId 41 3)]

/-- The shim reports its runtime, as thread 3, and the spawn records it. -/
def readyRun : List (Label daemon) :=
  .start (.shimReady ⟨sampleId, 40, 41, 3, none⟩) :: ran 3 3 ++ ran 1 2 ++
    [.run 1 (.logs .unavailable)] ++ ran 1 3

/-- The spawn up to its second transaction. -/
def beforeCommitRun : List (Label daemon) :=
  [.run 1 (.time 5), .run 1 (.time 6)] ++ ran 1 2

/-- The runtime exits and its shim reports the exit, as thread 4; the exit is
stored. -/
def exitRun : List (Label daemon) :=
  [.env (.childEnds sampleId ⟨some 0, none⟩), .start (.shimExit ⟨sampleId, ⟨some 0, none⟩⟩)] ++
    ran 4 2

/-- The daemon after these steps. -/
def after (C : Condition watched) [C.Checkable] (labels : List (Label daemon)) :
    Option (Pool watched) :=
  (Pool.initial watched (World.fresh 0)).follow C labels

end LittleOrgans.Concurrency
