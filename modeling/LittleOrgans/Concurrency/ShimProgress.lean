import LittleOrgans.Concurrency.IntentAgreement

/-!
# Shims and spawn intents move forward

A session has one shim and one intent, and both stay: a runtime that was started
stays started, one that has ended does not come back, a shim that is dead stays
dead (`Later`). What a program has found out about them stays true.
-/

set_option autoImplicit false

namespace LittleOrgans.Concurrency

open LittleOrgans.Core
open LittleOrgans.Library
open LittleOrgans.Store
open LittleOrgans.Daemon

/-! ## Shims move forward -/

namespace Shim

/-- The runtime was started under this pid, at this time. -/
def Started (shim : Shim) (runtimePid : Pid) (startTime : DateTime) : Prop :=
  shim.phase = .running runtimePid startTime ∨ ∃ exit, shim.phase = .ended runtimePid startTime exit

/-- The runtime was started and has ended. -/
def hasEnded (shim : Shim) : Bool :=
  match shim.phase with
  | .requesting => false
  | .launched => false
  | .running _ _ => false
  | .ended _ _ _ => true

/-- No runtime of this shim runs, nor ever will. -/
def isOver (shim : Shim) : Bool := shim.hasEnded || (!shim.alive && !shim.isRunning)

theorem not_isRunning_of_isOver {shim : Shim} (h : shim.isOver = true) :
    shim.isRunning = false := by
  rw [isOver, Bool.or_eq_true, Bool.and_eq_true] at h
  rcases h with hended | ⟨-, hidle⟩
  · obtain ⟨shimPid, alive, acked, signalled, phase⟩ := shim
    cases phase <;> first | rfl | cases hended
  · simpa using hidle

/-- What stays true of a shim. -/
structure Later (shim shim' : Shim) : Prop where
  started : ∀ runtimePid startTime, shim.Started runtimePid startTime →
    shim'.Started runtimePid startTime
  ended : shim.hasEnded = true → shim'.hasEnded = true
  signalled : shim.signalled = true → shim'.signalled = true
  isOver : shim.isOver = true → shim'.isOver = true

theorem Later.refl (shim : Shim) : shim.Later shim :=
  ⟨fun _ _ h => h, fun h => h, fun h => h, fun h => h⟩

theorem Later.trans {shim shim' shim'' : Shim} (h : shim.Later shim')
    (h' : shim'.Later shim'') : shim.Later shim'' :=
  ⟨fun pid st hs => h'.started pid st (h.started pid st hs), fun he => h'.ended (h.ended he),
    fun hs => h'.signalled (h.signalled hs), fun ho => h'.isOver (h.isOver ho)⟩

theorem later_endRuntime (shim : Shim) (exit : RuntimeExit) :
    shim.Later (shim.endRuntime exit) := by
  obtain ⟨shimPid, alive, acked, signalled, phase⟩ := shim
  cases phase with
  | requesting => exact .refl _
  | launched => exact .refl _
  | ended pid st exit' => exact .refl _
  | running pid st =>
      refine ⟨fun pid' st' h => ?_, fun _ => rfl, fun h => h, fun _ => rfl⟩
      rcases h with h | ⟨_, h⟩
      · cases h
        exact .inr ⟨exit, rfl⟩
      · cases h

theorem later_grantLaunch (shim : Shim) : shim.Later (OsOp.grantLaunch shim) := by
  obtain ⟨shimPid, alive, acked, signalled, phase⟩ := shim
  cases phase with
  | requesting =>
      refine ⟨fun pid st h => ?_, fun h => (nomatch h), fun h => h, fun h => h⟩
      rcases h with h | ⟨_, h⟩ <;> cases h
  | launched => exact .refl _
  | ended pid st exit => exact .refl _
  | running pid st => exact .refl _

theorem later_ackReady (shim : Shim) : shim.Later { shim with readyAcked := true } :=
  ⟨fun _ _ h => h, fun h => h, fun h => h, fun h => h⟩

theorem later_signalled (shim : Shim) : shim.Later { shim with signalled := true } :=
  ⟨fun _ _ h => h, fun h => h, fun _ => rfl, fun h => h⟩

theorem later_dies (shim : Shim) : shim.Later { shim with alive := false } := by
  refine ⟨fun _ _ h => h, fun h => h, fun h => h, fun h => ?_⟩
  have hidle := not_isRunning_of_isOver h
  rw [isOver, show ({ shim with alive := false } : Shim).isRunning = shim.isRunning from rfl, hidle]
  exact Bool.or_true _

/-- A shim that is alive and launched starts its runtime. -/
theorem later_starts {shim : Shim} (halive : shim.alive = true) (hlaunched : shim.phase = .launched)
    (runtimePid : Pid) (startTime : DateTime) :
    shim.Later { shim with phase := .running runtimePid startTime } := by
  refine ⟨fun pid st h => ?_, fun h => ?_, fun h => h, fun h => ?_⟩
  · rcases h with h | ⟨_, h⟩ <;> rw [hlaunched] at h <;> cases h
  · rw [hasEnded, hlaunched] at h
    cases h
  · rw [isOver, hasEnded, hlaunched, halive] at h
    cases h

end Shim

/-- Shims and intents are still there, further on. -/
structure Later (w w' : World) : Prop where
  shims : ∀ id shim, w.shims.lookup id = some shim →
    ∃ shim', w'.shims.lookup id = some shim' ∧ shim.Later shim'
  intents : ∀ id row, w.db.spawnIntents.lookup id = some row →
    ∃ row', w'.db.spawnIntents.lookup id = some row' ∧ row'.spawnRequest = row.spawnRequest

theorem Later.of_eq {w w' : World} (hshims : w'.shims = w.shims)
    (hintents : w'.db.spawnIntents = w.db.spawnIntents) : Later w w' where
  shims _ shim h := ⟨shim, hshims ▸ h, .refl shim⟩
  intents _ row h := ⟨row, hintents ▸ h, rfl⟩

/-- One shim moves on. -/
theorem Later.of_modify {w : World} {id : SessionId} {f : Shim → Shim}
    (hf : ∀ shim, w.shims.lookup id = some shim → shim.Later (f shim)) :
    Later w { w with shims := w.shims.modify id f } where
  shims id' shim h := by
    by_cases hid : id' = id
    · subst hid
      refine ⟨f shim, ?_, hf shim h⟩
      show (w.shims.modify id' f).lookup id' = _
      rw [Table.lookup_modify, if_pos rfl, h, Option.map_some]
    · refine ⟨shim, ?_, .refl shim⟩
      show (w.shims.modify id f).lookup id' = _
      rw [Table.lookup_modify, if_neg hid, h]
  intents id row h := ⟨row, h, rfl⟩

theorem Later.os {w w' : World} {o : OsOp} {a : o.Res} (h : o.Effect w w' a) : Later w w' := by
  cases o with
  | launchShim request =>
      obtain ⟨hnew, shimPid, rfl⟩ := h
      refine ⟨fun id shim hshim => ⟨shim, ?_, .refl shim⟩, fun id row hrow => ⟨row, hrow, rfl⟩⟩
      refine (Table.lookup_insert_ne ?_ _).trans hshim
      rintro rfl
      rw [hnew] at hshim
      cases hshim
  | pidAlive pid => rw [h.1]; exact .of_eq rfl rfl
  | dockerRunning id => rw [h.1]; exact .of_eq rfl rfl
  | startTimeForPid pid =>
      cases a with
      | known st => rw [h.1]; exact .of_eq rfl rfl
      | gone => rw [h.1]; exact .of_eq rfl rfl
      | unsupported => cases h; exact .of_eq rfl rfl
  | sendSignal pid signal =>
      cases a with
      | alreadyExited => rw [h.1]; exact .of_eq rfl rfl
      -- A signal may end the runtimes of its pid, and only moves them on.
      | signalled =>
          cases h
          show Later w (OsOp.signalPid w pid signal)
          rw [OsOp.signalPid]
          split
          · refine ⟨fun id shim hshim => ?_, fun id row hrow => ⟨row, hrow, rfl⟩⟩
            refine ⟨_, (Table.lookup_mapRows _ _ id).trans (congrArg (Option.map _) hshim), ?_⟩
            show shim.Later (if shim.runs pid = true then _ else _)
            split
            · exact shim.later_endRuntime _
            · exact .refl shim
          · exact .of_eq rfl rfl
  | dockerKill id signal =>
      cases a with
      | alreadyExited => rw [h.1]; exact .of_eq rfl rfl
      | signalled =>
          rw [h.2]
          refine .of_modify fun shim _ => ?_
          show shim.Later (if signal = .kill then _ else _)
          split
          · exact shim.later_signalled.trans (Shim.later_endRuntime _ _)
          · exact shim.later_signalled
  | deliverLaunch id => cases h; exact .of_modify fun shim _ => shim.later_grantLaunch
  | ackReady id => cases h; exact .of_modify fun shim _ => shim.later_ackReady
  | _ => cases h; exact .of_eq rfl rfl

theorem Later.env {w w' : World} {event : EnvEvent} (h : w.env event = some w') : Later w w' := by
  cases event with
  | childStarts id pid st =>
      obtain ⟨hready, rfl⟩ := World.guarded_eq_some.mp h
      refine .of_modify fun shim hshim => ?_
      rw [hshim] at hready
      simp only [Option.any_some, Bool.and_eq_true, decide_eq_true_eq] at hready
      exact Shim.later_starts hready.2.1 hready.2.2 pid st
  | childEnds id exit => cases h; exact .of_modify fun shim _ => shim.later_endRuntime exit
  | shimDies id => cases h; exact .of_modify fun shim _ => shim.later_dies

theorem Later.store {w : World} {o : StoreOp} {a : o.Res} {db : Database}
    (h : o.Effect w.db db a) : Later w { w with db := db } where
  shims id shim hshim := ⟨shim, hshim, .refl shim⟩
  intents id row hrow := by
    have hmodified : ∀ {id' nowMs update},
        ∃ row', (w.db.spawnIntents.modify id' (SpawnIntentRow.setStatus nowMs update)).lookup id =
          some row' ∧ row'.spawnRequest = row.spawnRequest := by
      intro id' nowMs update
      rw [Table.lookup_modify]
      split
      · next hid =>
          rw [← hid, hrow]
          exact ⟨SpawnIntentRow.setStatus nowMs update row, rfl, rfl⟩
      · exact ⟨row, hrow, rfl⟩
    cases o with
    | beginSpawnIntent intent =>
        obtain ⟨hnew, -, rfl⟩ := Database.beginSpawnIntent_eq_ok h
        refine ⟨row, (Table.lookup_insert_ne ?_ _).trans hrow, rfl⟩
        rintro rfl
        rw [hnew] at hrow
        cases hrow
    | commitSpawnIntent id' session lc =>
        obtain ⟨now, h⟩ := h
        obtain ⟨-, -, rfl⟩ := Database.commitSpawnIntent_eq_ok h
        exact hmodified
    | abortSpawnIntent id' reason =>
        obtain ⟨now, rfl⟩ := h
        exact hmodified
    | _ =>
        refine ⟨row, ?_, rfl⟩
        show db.spawnIntents.lookup id = some row
        rw [h.intents (fun _ h => by cases h) (fun _ _ _ h => by cases h) fun _ _ h => by cases h]
        exact hrow

/-- Every operation leaves shims and intents as they are or moves them on. -/
theorem Later.op {choice : Choice} {w w' : World} {o : Op} {r : Except DaemonError o.Res}
    (h : o.exec choice w = some (r, w')) : Later w w' := by
  cases o with
  | log o =>
      obtain ⟨log, -, rfl⟩ := Op.exec_log h
      exact .of_eq rfl rfl
  | memory o =>
      rw [MemoryOp.frame h]
      exact .of_eq rfl rfl
  | os o =>
      cases r with
      | error e =>
          rw [(OsOp.exec_error h).1]
          exact .of_eq rfl rfl
      | ok a => exact .os (OsOp.run_ok (OsOp.exec_ok h))
  | store o =>
      obtain ⟨db, hrun, rfl⟩ := Op.exec_store h
      cases r with
      | error e =>
          rw [StoreOp.exec_error hrun]
          exact .of_eq rfl rfl
      | ok a => exact .store (StoreOp.exec_ok hrun)

end LittleOrgans.Concurrency
