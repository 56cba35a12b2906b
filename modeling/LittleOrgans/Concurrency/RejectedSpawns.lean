import LittleOrgans.Concurrency.Probes
import LittleOrgans.Concurrency.ReadyPaths

/-!
# A second spawn of a session whose spawn waits for its shim

The launch spec, the ready waiter and the lifecycle row of a spawn are found by its session
id alone. A second request for the session that its checks refuse leaves them as they
are. One that passes the checks is rejected too, as soon as it finds the waiter of the
first: by then it has replaced the launch spec and the waiter, and its cancellation removes
both and the row (`rejected_spawn_undisturbed_iff`).
-/

set_option autoImplicit false

namespace LittleOrgans.Concurrency

open LittleOrgans.Core
open LittleOrgans.Library
open LittleOrgans.Library.Monitor
open LittleOrgans.Library.Prog
open LittleOrgans.Store
open LittleOrgans.Daemon

/-! ## A spawn up to its registration -/

/-- What the checks of a spawn come to. -/
inductive SpawnCheck where
  | refused (outcome : SpawnOutcome)
  | passed (backed : Bool)

/-- `spawn_domain` before it registers its launch. -/
def spawnChecks (request : RuntimeSpawnRequest) : DaemonProg SpawnCheck := do
  match ← checkSpawn request with
  | some conflict => return .refused conflict
  | none =>
      os (.prepareLaunch request)
      let backed ← sessionBacked request
      validateSpawnTarget request.target
      ensureForking request backed
      return .passed backed

/-- `begin_spawn` from the registration of the launch on. -/
def registerSpawn (request : RuntimeSpawnRequest) (backed : Bool) : DaemonProg BeginSpawn := do
  memory (.insertPendingLaunch request.sessionId)
  match ← (beginReadyWait request.sessionId).attempt with
  | .ok ready => return ⟨ready, backed⟩
  | .error e =>
      cancelSpawn request.sessionId
      .fail e

/-- `spawn_domain` from the launch of the shim on. -/
def launchSpawn (request : RuntimeSpawnRequest) (begin : BeginSpawn) : DaemonProg SpawnOutcome := do
  match ← (os (.launchShim request)).attempt with
  | .error e =>
      cancelSpawn request.sessionId
      .fail e
  | .ok stdoutPath =>
      let waited ← memory (.awaitReady begin.ready)
      let ready ← readyOrError waited
      let running ← recordRunning request ready (!begin.sessionBacked)
      return .spawned running.1 running.2 stdoutPath

/-- The rest of `spawn_domain` after its checks. -/
def spawnChecked (request : RuntimeSpawnRequest) : SpawnCheck → DaemonProg SpawnOutcome
  | .refused outcome => return outcome
  | .passed backed => do
      let begin ← registerSpawn request backed
      launchSpawn request begin

theorem beginSpawn_eq (request : RuntimeSpawnRequest) :
    beginSpawn request = (do
      let backed ← sessionBacked request
      validateSpawnTarget request.target
      ensureForking request backed
      registerSpawn request backed) := rfl

/-- A spawn is its checks and the rest. -/
theorem spawnDomain_eq (request : RuntimeSpawnRequest) :
    spawnDomain request = spawnChecks request >>= spawnChecked request := by
  -- the checks are the common front of both: each bind is taken off in turn
  refine Eq.trans ?_ (andThen_assoc _ _ _).symm
  show (checkSpawn request).andThen _ = (checkSpawn request).andThen _
  congr 1
  funext refusal
  cases refusal with
  | some conflict => rfl
  | none =>
      show (os (.prepareLaunch request)).andThen _ =
        ((os (.prepareLaunch request)).andThen _).andThen _
      rw [andThen_assoc]
      congr 1
      funext prepared
      show (beginSpawn request).andThen _ = Prog.andThen _ _
      rw [beginSpawn_eq]
      show ((sessionBacked request).andThen _).andThen _ =
        ((sessionBacked request).andThen _).andThen _
      rw [andThen_assoc, andThen_assoc]
      congr 1
      funext backed
      show ((validateSpawnTarget request.target).andThen _).andThen _ =
        ((validateSpawnTarget request.target).andThen _).andThen _
      rw [andThen_assoc, andThen_assoc]
      congr 1
      funext validated
      show ((ensureForking request backed).andThen _).andThen _ =
        ((ensureForking request backed).andThen _).andThen _
      rw [andThen_assoc, andThen_assoc]
      rfl

/-! ## The checks leave a spawn of the session alone -/

/-- The launches, the waiters and the row of the session are as they were. -/
structure SameSpawn (id : SessionId) (w w' : World) : Prop where
  launches : w'.runtime.pendingLaunches = w.runtime.pendingLaunches
  pendingReady : w'.runtime.pendingReady = w.runtime.pendingReady
  channels : w'.runtime.channels = w.runtime.channels
  row : w'.db.getLifecycle id = w.db.getLifecycle id

theorem SameSpawn.refl (id : SessionId) (w : World) : SameSpawn id w w := ⟨rfl, rfl, rfl, rfl⟩

theorem SameSpawn.trans {id : SessionId} {w w' w'' : World} (h : SameSpawn id w w')
    (h' : SameSpawn id w' w'') : SameSpawn id w w'' :=
  ⟨h'.launches.trans h.launches, h'.pendingReady.trans h.pendingReady,
    h'.channels.trans h.channels, h'.row.trans h.row⟩

/-- What a recorder of the end of another session does. -/
def Op.sparesSpawn (id : SessionId) : Op → Prop
  | .store (.updateLifecycle lc) => lc.sessionId ≠ id
  | .store o => o.isRead = true
  | .memory (.removeWatcher _) => True
  | .memory (.insertTerminatedEvent _) => True
  | .memory (.forgetShim _) => True
  | .memory _ => False
  | .log _ => True
  | .os _ => True

/-- The monitor of programs that leave a spawn of the session alone. -/
abbrev sparing (id : SessionId) : Monitor daemonOps DaemonError where
  State := Unit
  allows _ o := o.sparesSpawn id
  returns := Knowledge.returns
  next _ _ _ := ()

section Sparing

variable {id other : SessionId} {w w' : World}

theorem getLifecycle_of_isRead {o : StoreOp} {r : Except DaemonError o.Res} {choice : Choice}
    {db db' : Database} (hread : o.isRead = true) (h : o.exec choice db = some (r, db')) :
    db' = db := by
  cases r with
  | error e => exact StoreOp.exec_error h
  | ok a =>
      have heffect := StoreOp.exec_ok h
      cases o with
      | getLifecycle id => exact heffect.1
      | listLifecycles filter => exact heffect.1
      | runningLifecycles => exact heffect.1
      | runningTmuxOccupant address => exact heffect.1
      | _ => cases hread

theorem SameSpawn.step {o : Op} {r : Except DaemonError o.Res} (hspares : o.sparesSpawn id)
    (h : Answers w o r w') : SameSpawn id w w' := by
  obtain ⟨choice, hexec⟩ := h
  cases o with
  | os o =>
      rw [OsOp.frame hexec]
      exact ⟨rfl, rfl, rfl, rfl⟩
  | log o =>
      obtain ⟨log, -, rfl⟩ := Op.exec_log hexec
      exact ⟨rfl, rfl, rfl, rfl⟩
  | store o =>
      obtain ⟨db, hrun, rfl⟩ := Op.exec_store hexec
      refine ⟨rfl, rfl, rfl, ?_⟩
      -- reads and writes of another row leave the row of the spawn
      by_cases hread : o.isRead = true
      · rw [getLifecycle_of_isRead hread hrun]
      · cases o with
        | updateLifecycle lc =>
            cases r with
            | error e => rw [StoreOp.exec_error hrun]
            | ok a =>
                have hother : id ≠ lc.sessionId := fun hid => hspares hid.symm
                rw [Database.getLifecycle_update (StoreOp.exec_ok hrun), if_neg hother]
        | _ => exact absurd hspares hread
  | memory o =>
      cases r with
      | error e =>
          rw [(MemoryOp.exec_error hexec).1]
          exact .refl id w
      | ok a =>
          have hrun := MemoryOp.exec_ok hexec
          -- three operations on other maps of the memory; the rest is excluded
          cases o with
          | removeWatcher id' =>
              simp only [MemoryOp.run, Choice.ran_eq_some, Prod.mk.injEq] at hrun
              rw [← hrun.2.2]
              exact ⟨rfl, rfl, rfl, rfl⟩
          | insertTerminatedEvent id' =>
              simp only [MemoryOp.run, Choice.ran_eq_some, Prod.mk.injEq] at hrun
              rw [← hrun.2.2]
              exact ⟨rfl, rfl, rfl, rfl⟩
          | forgetShim id' =>
              simp only [MemoryOp.run, Choice.ran_eq_some, Prod.mk.injEq] at hrun
              rw [← hrun.2.2]
              exact ⟨rfl, rfl, rfl, rfl⟩
          | _ => exact hspares.elim

theorem sparesSpawn_of_isProbe {o : Op} (h : o.isProbe = true) : o.sparesSpawn id := by
  cases o with
  | store o =>
      cases o with
      | updateLifecycle lc => cases h
      | _ => exact h
  | memory o => cases h
  | log o => cases h
  | os o => trivial

theorem spares_probes {α : Type} {p : DaemonProg α} (hp : Probes p) :
    (sparing id).Conforms p () fun _ _ => True :=
  conforms_of_calls hp (fun _ => sparesSpawn_of_isProbe) (fun _ _ _ => rfl) fun _ => trivial

theorem spares_recordTerminal (hother : other ≠ id) (evidence : LostEvidence) :
    (sparing id).Conforms
      (recordTerminal other (.lost evidence) fun lc => lc.markLost evidence) ()
      fun _ _ => True := by
  refine conforms_call_bind.mpr ⟨rfl, fun found hfound => ?_, fun e _ => trivial⟩
  cases found with
  | none => trivial
  | some lc =>
      -- the row belongs to the other session
      have hid : lc.sessionId = other := hfound lc rfl
      show (sparing id).Conforms (if (lc.markLost evidence).1 = true then _ else _) _ _
      split
      · next hmarked =>
          have hlc := (Lifecycle.markLost_eq_true
            (show lc.markLost evidence = (true, (lc.markLost evidence).2) by rw [← hmarked])).2
          have hwrite : (lc.markLost evidence).2.sessionId ≠ id := by
            rw [hlc]
            show lc.sessionId ≠ id
            rw [hid]
            exact hother
          refine conforms_call_bind.mpr ⟨hwrite, fun _ _ => ?_, fun e _ => trivial⟩
          refine conforms_call_bind.mpr ⟨trivial, fun _ _ => ?_, fun e _ => trivial⟩
          refine conforms_call_bind.mpr ⟨trivial, fun entered _ => ?_, fun e _ => trivial⟩
          cases entered with
          | false => trivial
          | true => exact conforms_call_bind.mpr ⟨trivial, fun _ _ => trivial, fun e _ => trivial⟩
      · trivial

theorem spares_recordLost (hother : other ≠ id) (evidence : LostEvidence) :
    (sparing id).Conforms (recordLost other evidence) () fun _ _ => True := by
  refine conforms_attempt_bind.mpr ((spares_recordTerminal hother evidence).mono fun _ _ _ => ?_)
  refine conforms_call_bind.mpr ⟨trivial, fun _ _ => ?_, fun e _ => trivial⟩
  exact conforms_ofExcept.mpr trivial

/-- A kill of another session. -/
theorem spares_killRuntime (hother : other ≠ id) (signal : RuntimeSignal) :
    (sparing id).Conforms (killRuntime ⟨other, signal⟩) () fun _ _ => True := by
  have hlook : ∀ o : Op, o.isLook = true → ∀ φ, True →
      (sparing id).allows φ o ∧ ∀ r, (fun _ => True) ((sparing id).next φ o r) :=
    fun o ho _ _ => ⟨sparesSpawn_of_isProbe (isProbe_of_isLook ho), fun _ => trivial⟩
  have hlost : (sparing id).Keeps (fun _ => True) (recordLost other .pidReuseDetected) :=
    fun _ _ => spares_recordLost hother _
  exact keeps_killRuntime hlook hlost () trivial

theorem SameSpawn.of_runs {α : Type} {p : DaemonProg α} {r : Except DaemonError α}
    (hp : (sparing id).Conforms p () fun _ _ => True) (hrun : p.Runs Answers w r w') :
    SameSpawn id w w' := by
  have hkept : ∃ φ', SameSpawn id w w' ∧ True :=
    hp.of_runs (I := fun _ v => SameSpawn id w v) hrun
      (fun h => h.elim fun _ hexec => returns_of_exec hexec)
      (fun hsame hallows hstep => hsame.trans (.step hallows hstep)) (.refl id w)
  obtain ⟨-, hsame, -⟩ := hkept
  exact hsame

theorem SameSpawn.of_probes {α : Type} {p : DaemonProg α} {r : Except DaemonError α}
    (hp : Probes p) (hrun : p.Runs Answers w r w') : SameSpawn id w w' :=
  .of_runs (spares_probes hp) hrun

/-- A sequence whose parts leave the spawn alone. -/
theorem SameSpawn.of_bind {α β : Type} {p : DaemonProg α} {f : α → DaemonProg β}
    {r : Except DaemonError β} (hrun : (p >>= f).Runs Answers w r w')
    (hfirst : ∀ {r w₁}, p.Runs Answers w r w₁ → SameSpawn id w w₁)
    (hrest : ∀ {a w₁}, p.Runs Answers w (.ok a) w₁ → (f a).Runs Answers w₁ r w' →
      SameSpawn id w₁ w') : SameSpawn id w w' := by
  obtain ⟨first, w₁, hp, hf⟩ := runs_bind.mp hrun
  cases first with
  | error e =>
      obtain ⟨-, rfl⟩ := hf
      exact hfirst hp
  | ok a => exact (hfirst hp).trans (hrest hp hf)

/-- The row of the session is forking. -/
def IsForking (db : Database) (id : SessionId) : Prop :=
  ∃ lc, db.getLifecycle id = some lc ∧ lc.state = .forking

theorem IsForking.of_same (h : IsForking w.db id) (hsame : SameSpawn id w w') :
    IsForking w'.db id := by
  obtain ⟨lc, hrow, hstate⟩ := h
  exact ⟨lc, by rw [hsame.row, hrow], hstate⟩

/-- The occupant of a pane runs: it is another session. -/
theorem IsForking.ne_occupant {address : TmuxAddress} {occupant : Lifecycle}
    (h : IsForking w.db id) (hoccupant : w.db.runningTmuxOccupant address = some occupant) :
    occupant.sessionId ≠ id := by
  obtain ⟨lc, hrow, hstate⟩ := h
  obtain ⟨hrunning, hoccupied⟩ :=
    Database.mem_runningLifecycles.mp (List.mem_of_find?_eq_some hoccupant)
  rintro rfl
  rw [hrow] at hoccupied
  cases hoccupied
  rw [hrunning] at hstate
  cases hstate

theorem checkOccupant_same {request : RuntimeSpawnRequest}
    {r : Except DaemonError (Option SpawnOutcome)} (hforking : IsForking w.db id)
    (hrun : (checkOccupant request).Runs Answers w r w') : SameSpawn id w w' := by
  unfold checkOccupant at hrun
  split at hrun
  · obtain ⟨-, rfl⟩ := hrun
    exact .refl id w'
  · next address haddress =>
      refine .of_bind hrun (.of_probes (calls_call rfl)) ?_
      intro found w₁ hread hrest
      obtain ⟨choice, hexec⟩ := runs_call.mp hread
      obtain ⟨db, hstore, rfl⟩ := Op.exec_store hexec
      obtain ⟨rfl, rfl⟩ := StoreOp.exec_ok hstore
      split at hrest
      · obtain ⟨-, rfl⟩ := hrest
        exact .refl id _
      · next occupant hoccupant =>
          split at hrest
          · refine .of_bind hrest
              (.of_runs (spares_killRuntime (hforking.ne_occupant hoccupant) .term)) ?_
            intro outcome w₂ _ hdone
            obtain ⟨-, rfl⟩ := hdone
            exact .refl id _
          · obtain ⟨-, rfl⟩ := hrest
            exact .refl id _

theorem checkSpawn_same {request : RuntimeSpawnRequest}
    {r : Except DaemonError (Option SpawnOutcome)} (hforking : IsForking w.db id)
    (hrun : (checkSpawn request).Runs Answers w r w') : SameSpawn id w w' := by
  refine .of_bind hrun (.of_probes (probes_os _)) fun hos hrest => ?_
  have hforking₁ := hforking.of_same (.of_probes (probes_os _) hos)
  refine .of_bind hrest (.of_probes (looks_getLifecycle _).probes) fun hread hrest => ?_
  have hforking₂ := hforking₁.of_same (.of_probes (looks_getLifecycle _).probes hread)
  split at hrest
  · split at hrest
    · exact checkOccupant_same hforking₂ hrest
    · obtain ⟨-, rfl⟩ := hrest
      exact .refl id _
  · exact checkOccupant_same hforking₂ hrest

theorem sessionBacked_forking {request : RuntimeSpawnRequest} {backed : Bool}
    (hid : request.sessionId = id) (hforking : IsForking w.db id)
    (hrun : (sessionBacked request).Runs Answers w (.ok backed) w') : backed = true := by
  obtain ⟨lc, hrow, -⟩ := hforking
  obtain ⟨found, w₁, hread, hrest⟩ := runs_bind_ok.mp hrun
  obtain ⟨rfl, rfl⟩ := answers_getLifecycle.mp (runs_call.mp hread)
  rw [hid, hrow] at hrest
  dsimp only at hrest
  split at hrest
  · exact Except.ok.inj hrest.1
  · cases hrest.1

/-- The checks of a second spawn of the session find its forking row. -/
theorem spawnChecks_same {request : RuntimeSpawnRequest} {r : Except DaemonError SpawnCheck}
    (hid : request.sessionId = id) (hforking : IsForking w.db id)
    (hrun : (spawnChecks request).Runs Answers w r w') : SameSpawn id w w' := by
  refine .of_bind hrun (checkSpawn_same hforking) fun hcheck hrest => ?_
  have hforking₁ := hforking.of_same (checkSpawn_same hforking hcheck)
  split at hrest
  · obtain ⟨-, rfl⟩ := hrest
    exact .refl id _
  · refine .of_bind hrest (.of_probes (probes_os _)) fun hos hrest => ?_
    have hforking₂ := hforking₁.of_same (.of_probes (probes_os _) hos)
    refine .of_bind hrest (.of_probes (looks_sessionBacked _).probes) fun hbacked hrest => ?_
    have hfound := sessionBacked_forking hid hforking₂ hbacked
    subst hfound
    refine .of_bind hrest (.of_probes (looks_validateSpawnTarget _).probes) fun _ hrest => ?_
    obtain ⟨-, rfl⟩ := hrest
    exact .refl id _

end Sparing

/-! ## The rejection that finds the waiter -/

section Registered

variable {id : SessionId} {w w' : World}

/-- Of the memory operations, only the start of a watcher can fail. -/
theorem answers_memory_total {o : MemoryOp} {r : Except DaemonError o.Res}
    (htotal : ∀ id' runtimePid, o ≠ .startExitWatcher id' runtimePid)
    (h : Answers w (.memory o) r w') : ∃ a choice, r = .ok a ∧ o.run choice w = some (a, w') := by
  obtain ⟨choice, hexec⟩ := h
  cases r with
  | ok a => exact ⟨a, choice, rfl, MemoryOp.exec_ok hexec⟩
  | error e =>
      obtain ⟨-, id', runtimePid, rfl⟩ := MemoryOp.exec_error hexec
      exact absurd rfl (htotal id' runtimePid)

/-- A memory operation and what follows it. -/
theorem runs_memory_bind {α : Type} {o : MemoryOp} {f : o.Res → DaemonProg α}
    {r : Except DaemonError α} (htotal : ∀ id' runtimePid, o ≠ .startExitWatcher id' runtimePid)
    (h : (memory o >>= f).Runs Answers w r w') :
    ∃ a choice w₁, o.run choice w = some (a, w₁) ∧ (f a).Runs Answers w₁ r w' := by
  obtain ⟨first, w₁, hfirst, hrest⟩ := runs_bind.mp h
  obtain ⟨a, choice, rfl, hrun⟩ := answers_memory_total htotal (runs_call.mp hfirst)
  exact ⟨a, choice, w₁, hrun, hrest⟩

/-- After a cancellation no waiter is pending. -/
theorem cancelSpawn_leaves {r : Except DaemonError Unit}
    (hrun : (cancelSpawn id).Runs Answers w r w') :
    w'.runtime.pendingReady.lookup id = none := by
  obtain ⟨removed, choice, w₁, hremove, hrest⟩ := runs_memory_bind (by simp) hrun
  simp only [MemoryOp.run, Choice.ran_eq_some, Prod.mk.injEq] at hremove
  -- dropping the sender takes the channel out of the map, whoever held it
  have hdropped : ∀ {r : Except DaemonError Unit} {w w' : World},
      (dropPendingReady id).Runs Answers w r w' → w'.runtime.pendingReady.lookup id = none := by
    intro r w w' hdrop
    obtain ⟨channel, choice, w₁, hremove, hrest⟩ := runs_memory_bind (by simp) hdrop
    simp only [MemoryOp.run, Choice.ran_eq_some, Prod.mk.injEq] at hremove
    have herased : w₁.runtime.pendingReady.lookup id = none := by
      rw [← hremove.2.2]
      show (w.runtime.pendingReady.erase id).lookup id = none
      rw [Table.lookup_erase, if_pos rfl]
    cases channel with
    | none =>
        rw [hrest.2]
        exact herased
    | some channel =>
        obtain ⟨u, choice, -, hdropSender⟩ :=
          answers_memory_total (by simp) (runs_call.mp hrest)
        simp only [MemoryOp.run, Choice.ran_eq_some, Prod.mk.injEq] at hdropSender
        rw [← hdropSender.2.2]
        exact herased
  obtain ⟨first, w₂, hdrop, hrest⟩ := runs_bind.mp hrest
  have hnone := hdropped hdrop
  cases first with
  | error e =>
      rw [hrest.2]
      exact hnone
  -- the row is deleted behind it, whether that succeeds or not
  | ok u =>
      obtain ⟨deleted, w₃, hdelete, hdone⟩ := runs_attempt_bind.mp hrest
      obtain ⟨choice, hexec⟩ := runs_call.mp hdelete
      obtain ⟨db, -, rfl⟩ := Op.exec_store hexec
      rw [hdone.2]
      exact hnone

/-- The registration finds the waiter of the first spawn: it is rejected, and no waiter is
left. -/
theorem registerSpawn_rejected {request : RuntimeSpawnRequest} {backed : Bool} {serial : Nat}
    {r : Except DaemonError BeginSpawn}
    (hpending : w.runtime.pendingReady.lookup request.sessionId = some serial)
    (hrun : (registerSpawn request backed).Runs Answers w r w') :
    (∃ e, r = .error e) ∧ w'.runtime.pendingReady.lookup request.sessionId = none := by
  obtain ⟨u, choice, w₁, hinsert, hrest⟩ := runs_memory_bind (by simp) hrun
  simp only [MemoryOp.run, Choice.ran_eq_some, Prod.mk.injEq] at hinsert
  have hpending₁ : w₁.runtime.pendingReady.lookup request.sessionId = some serial := by
    rw [← hinsert.2.2]
    exact hpending
  obtain ⟨waited, w₂, hwait, hrest⟩ := runs_attempt_bind.mp hrest
  obtain ⟨made, choice, w₃, hmake, hwaitRest⟩ := runs_memory_bind (by simp) hwait
  simp only [MemoryOp.run, Choice.ran_eq_some, Prod.mk.injEq] at hmake
  -- the map holds the first spawn's channel, so the second one is refused
  have hprevious : made.2 = true := by
    rw [← hmake.2.1, MemoryOp.newChannel, hpending₁]
    rfl
  rw [if_pos hprevious] at hwaitRest
  obtain ⟨u, choice, w₄, -, hfail⟩ := runs_memory_bind (by simp) hwaitRest
  obtain ⟨rfl, rfl⟩ := hfail
  -- and cancels, which takes the first one's channel away
  obtain ⟨first, w₅, hcancel, hrest⟩ := runs_bind.mp hrest
  have hnone := cancelSpawn_leaves hcancel
  cases first with
  | error e =>
      obtain ⟨rfl, rfl⟩ := hrest
      exact ⟨⟨e, rfl⟩, hnone⟩
  | ok u =>
      obtain ⟨rfl, rfl⟩ := hrest
      exact ⟨⟨_, rfl⟩, hnone⟩

end Registered

/-! ## When the first spawn is left alone -/

/-- The launch spec, the waiter and the row of the first spawn are as they were, and it can
complete. -/
structure Undisturbed (request : RuntimeSpawnRequest) (serial : Nat) (w w' : World) : Prop where
  launch : request.sessionId ∈ w'.runtime.pendingLaunches ↔
    request.sessionId ∈ w.runtime.pendingLaunches
  pendingReady : w'.runtime.pendingReady.lookup request.sessionId =
    w.runtime.pendingReady.lookup request.sessionId
  channel : w'.runtime.channels.lookup ⟨request.sessionId, serial⟩ =
    w.runtime.channels.lookup ⟨request.sessionId, serial⟩
  row : w'.db.getLifecycle request.sessionId = w.db.getLifecycle request.sessionId
  completes : ∀ ready appendEvent, ready.sessionId = request.sessionId →
    ∃ result w'', (readyForWaiter request ⟨request.sessionId, serial⟩ appendEvent ready).Runs
      Answers w' (.ok result) w''

/-- The request was rejected. -/
def isRejection : Except DaemonError SpawnOutcome → Bool
  | .error _ => true
  | .ok (.conflict _ _) => true
  | .ok (.spawned _ _ _) => false

/-- The checks of a spawn have refused it. -/
def isRefusal : Except DaemonError SpawnCheck → Bool
  | .error _ => true
  | .ok (.refused _) => true
  | .ok (.passed _) => false

section Rejected

variable {w w' : World} {first second : RuntimeSpawnRequest} {lc : Lifecycle} {serial : Nat}

theorem Undisturbed.of_same (hfirst : WaitingSpawn w first lc serial)
    (h : SameSpawn first.sessionId w w') : Undisturbed first serial w w' where
  launch := by rw [h.launches]
  pendingReady := by rw [h.pendingReady]
  channel := by rw [h.channels]
  row := h.row
  completes := by
    intro ready appendEvent hready
    have hwaits : WaitingSpawn w' first lc serial := by
      refine ⟨⟨?_, hfirst.row.state, hfirst.row.runtime⟩, ?_, ?_⟩
      · rw [h.row, hfirst.row.row]
      · rw [h.pendingReady, hfirst.pending]
      · rw [h.channels, hfirst.waiting]
    exact readyForWaiter_succeeds appendEvent hready hwaits

theorem checkOccupant_conflict {outcome : SpawnOutcome}
    (hrun : (checkOccupant second).Runs Answers w (.ok (some outcome)) w') :
    isRejection (.ok outcome) = true := by
  unfold checkOccupant at hrun
  split at hrun
  · cases hrun.1
  · obtain ⟨found, w₁, -, hrest⟩ := runs_bind_ok.mp hrun
    split at hrest
    · cases hrest.1
    · split at hrest
      · obtain ⟨killed, w₂, -, hrest⟩ := runs_bind_ok.mp hrest
        cases hrest.1
      · cases hrest.1
        rfl

theorem checkSpawn_conflict {outcome : SpawnOutcome}
    (hrun : (checkSpawn second).Runs Answers w (.ok (some outcome)) w') :
    isRejection (.ok outcome) = true := by
  obtain ⟨u, w₁, -, hrest⟩ := runs_bind_ok.mp hrun
  obtain ⟨found, w₂, -, hrest⟩ := runs_bind_ok.mp hrest
  split at hrest
  · split at hrest
    · exact checkOccupant_conflict hrest
    · cases hrest.1
      rfl
  · exact checkOccupant_conflict hrest

theorem spawnChecks_conflict {outcome : SpawnOutcome}
    (hrun : (spawnChecks second).Runs Answers w (.ok (.refused outcome)) w') :
    isRejection (.ok outcome) = true := by
  obtain ⟨refusal, w₁, hcheck, hrest⟩ := runs_bind_ok.mp hrun
  split at hrest
  · cases hrest.1
    exact checkSpawn_conflict hcheck
  · obtain ⟨u, w₂, -, hrest⟩ := runs_bind_ok.mp hrest
    obtain ⟨backed, w₃, -, hrest⟩ := runs_bind_ok.mp hrest
    obtain ⟨u, w₄, -, hrest⟩ := runs_bind_ok.mp hrest
    obtain ⟨u, w₅, -, hrest⟩ := runs_bind_ok.mp hrest
    cases hrest.1

/-- A request that passes its checks is rejected and takes the waiter away. -/
theorem spawnChecked_passed {backed : Bool} {r : Except DaemonError SpawnOutcome}
    (hpending : w.runtime.pendingReady.lookup second.sessionId = some serial)
    (hrun : (spawnChecked second (.passed backed)).Runs Answers w r w') :
    isRejection r = true ∧ w'.runtime.pendingReady.lookup second.sessionId = none := by
  obtain ⟨registered, w₁, hregister, hrest⟩ := runs_bind.mp hrun
  obtain ⟨⟨e, rfl⟩, hnone⟩ := registerSpawn_rejected hpending hregister
  obtain ⟨rfl, rfl⟩ := hrest
  exact ⟨rfl, hnone⟩

/-- For every spawn that waits for its shim and every further request for its session: the
request is rejected, and it leaves the spawn alone if and only if one of its checks refuses
it, so that it does not come to register its launch. -/
theorem rejected_spawn_undisturbed_iff {r : Except DaemonError SpawnOutcome}
    (hfirst : WaitingSpawn w first lc serial) (hid : second.sessionId = first.sessionId)
    (hrun : (spawnDomain second).Runs Answers w r w') :
    isRejection r = true ∧
      (Undisturbed first serial w w' ↔
        ∃ checked, (spawnChecks second).Runs Answers w checked w' ∧ isRefusal checked = true) := by
  have hforking : IsForking w.db first.sessionId := ⟨lc, hfirst.row.row, hfirst.row.state⟩
  have hsame : ∀ {checked w₁}, (spawnChecks second).Runs Answers w checked w₁ →
      SameSpawn first.sessionId w w₁ := fun h => spawnChecks_same hid hforking h
  have hbackward : (∃ checked, (spawnChecks second).Runs Answers w checked w' ∧
      isRefusal checked = true) → Undisturbed first serial w w' := by
    rintro ⟨checked, hchecks, -⟩
    exact .of_same hfirst (hsame hchecks)
  rw [spawnDomain_eq] at hrun
  obtain ⟨checked, w₁, hchecks, hrest⟩ := runs_bind.mp hrun
  cases checked with
  | error e =>
      obtain ⟨rfl, rfl⟩ := hrest
      exact ⟨rfl, fun _ => ⟨_, hchecks, rfl⟩, hbackward⟩
  | ok checked =>
      cases checked with
      | refused outcome =>
          obtain ⟨rfl, rfl⟩ := hrest
          exact ⟨spawnChecks_conflict hchecks, fun _ => ⟨_, hchecks, rfl⟩, hbackward⟩
      | passed backed =>
          have hpending : w₁.runtime.pendingReady.lookup second.sessionId = some serial := by
            rw [(hsame hchecks).pendingReady, hid]
            exact hfirst.pending
          obtain ⟨hrejected, hnone⟩ := spawnChecked_passed hpending hrest
          refine ⟨hrejected, fun hundisturbed => ?_, hbackward⟩
          -- the waiter is gone
          have hkept := hundisturbed.pendingReady
          rw [← hid, hnone, hid, hfirst.pending] at hkept
          cases hkept

end Rejected

/-! ## Two further requests for the session of `launchedWorld` -/

/-- A request for the session without a pane. -/
def headlessRequest (runtime : RuntimeKind) : RuntimeSpawnRequest :=
  ⟨sampleId, runtime, .host, .headless, false⟩

/-- The run of a request on `n` operations in which the environment has no say. -/
def headlessRun (runtime : RuntimeKind) (n : Nat) :
    Option (Except DaemonError SpawnOutcome × World) :=
  (spawnDomain (headlessRequest runtime)).replay (fun (choice : Choice) o w => Op.exec choice w o)
    (List.replicate n .run) launchedWorld

theorem runs_headlessRun {runtime : RuntimeKind} {n : Nat} {r : Except DaemonError SpawnOutcome}
    {w : World} (h : headlessRun runtime n = some (r, w)) :
    (spawnDomain (headlessRequest runtime)).Runs Answers launchedWorld r w :=
  runs_of_replay (fun hexec => ⟨_, hexec⟩) h

/-- A request for another runtime. -/
theorem rejected_spawn_undisturbed_codex :
    ∃ r w', headlessRun .codex 2 = some (r, w') ∧ isRejection r = true ∧
      (Undisturbed (paneRequest sampleId false) 0 launchedWorld w' ↔
        ∃ checked, (spawnChecks (headlessRequest .codex)).Runs Answers launchedWorld checked w' ∧
          isRefusal checked = true) := by
  have hrun : ∃ r w', headlessRun .codex 2 = some (r, w') := ⟨_, _, rfl⟩
  obtain ⟨r, w', hrun⟩ := hrun
  exact ⟨r, w', hrun,
    rejected_spawn_undisturbed_iff waitingSpawn_launchedWorld rfl (runs_headlessRun hrun)⟩

/-- A request for the same runtime is rejected, and the spawn that waits has lost its waiter
and its row. -/
theorem rejected_spawn_cancels_first :
    ∃ r w', headlessRun .claude 11 = some (r, w') ∧
      (spawnDomain (headlessRequest .claude)).Runs Answers launchedWorld r w' ∧
      isRejection r = true ∧ w'.runtime.pendingReady.lookup sampleId = none ∧
      w'.db.getLifecycle sampleId = none ∧
      ¬Undisturbed (paneRequest sampleId false) 0 launchedWorld w' := by
  have hrun : ∃ r w', headlessRun .claude 11 = some (r, w') ∧ isRejection r = true ∧
      w'.runtime.pendingReady.lookup sampleId = none ∧ w'.db.getLifecycle sampleId = none :=
    ⟨_, _, rfl, rfl, rfl, rfl⟩
  obtain ⟨r, w', hrun, hrejected, hwaiter, hrow⟩ := hrun
  refine ⟨r, w', hrun, runs_headlessRun hrun, hrejected, hwaiter, hrow, fun hundisturbed => ?_⟩
  have hkept := hundisturbed.row
  have hbefore : launchedWorld.db.getLifecycle sampleId =
      some (requestedLifecycle (paneRequest sampleId false)) := rfl
  rw [show (paneRequest sampleId false).sessionId = sampleId from rfl, hrow, hbefore] at hkept
  cases hkept

end LittleOrgans.Concurrency
