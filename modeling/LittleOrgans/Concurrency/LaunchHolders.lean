import LittleOrgans.Concurrency.KnownFacts
import LittleOrgans.Concurrency.LaunchSpecs
import LittleOrgans.Library.TwoMonitors

/-!
# Who holds a launch spec

The runs of the daemon are followed by both monitors, `knowing` and `launching`. A launch
spec that is pending, or that a program has taken, is one of a daemon that listens; a session
whose launch is offered has no shim, and one program spawns it (`launches`). Only the launch
brings a shim into being, and only the delivery of its spec takes it further (`LaunchStep`).
-/

set_option autoImplicit false

namespace LittleOrgans.Concurrency

open LittleOrgans.Core
open LittleOrgans.Library
open LittleOrgans.Library.Pool
open LittleOrgans.Store
open LittleOrgans.Daemon

/-- The programs of the daemon, with what they know and what they have to do with launch
specs. -/
abbrev followed : Watch daemon := watched.both launchWatch

/-- What each thread was started for, and where its monitors are. -/
abbrev LaunchMinds := Nat → Option (Origin × (Knowledge × Launching))

/-! ## What an operation does to the shim of a session -/

/-- The shim of a session stays absent if it was, and goes on asking if it did. -/
def ShimKept (before after : Option Shim) : Prop :=
  ∃ f : Shim → Shim, after = before.map f ∧
    ∀ shim ∈ before, shim.phase = .requesting → (f shim).phase = .requesting

theorem ShimKept.refl (shim : Option Shim) : ShimKept shim shim :=
  ⟨id, Option.map_id_apply.symm, fun _ _ h => h⟩

theorem ShimKept.none {after : Option Shim} (h : ShimKept none after) : after = none := by
  obtain ⟨f, rfl, -⟩ := h
  rfl

theorem ShimKept.before {before : Option Shim} {shim : Shim} (h : ShimKept before (some shim)) :
    ∃ old, before = some old ∧ (old.phase = .requesting → shim.phase = .requesting) := by
  obtain ⟨f, hmap, hphase⟩ := h
  obtain ⟨old, rfl, rfl⟩ := Option.map_eq_some_iff.mp hmap.symm
  exact ⟨old, rfl, hphase old rfl⟩

section ShimSteps

variable {choice : Choice} {w w' : World} {o : Op} {r : Except DaemonError o.Res}

/-- One shim is changed, none of those that ask for their launch. -/
theorem ShimKept.modify {id' : SessionId} {f : Shim → Shim}
    (hf : ∀ shim, w.shims.lookup id' = some shim → shim.phase = .requesting →
      (f shim).phase = .requesting) (id : SessionId) :
    ShimKept (w.shims.lookup id) ((w.shims.modify id' f).lookup id) := by
  rw [Table.lookup_modify]
  split
  · next hid =>
      subst hid
      exact ⟨f, rfl, hf⟩
  · exact .refl _

theorem waitFor_pendingLaunches {m m' : RuntimeMemory} {channel : ChannelId} {waited : ReadyWait}
    (h : MemoryOp.waitFor choice m channel = some (waited, m')) :
    m'.pendingLaunches = m.pendingLaunches := by
  unfold MemoryOp.waitFor at h
  split at h
  · simp only [Choice.ran_eq_some, Prod.mk.injEq] at h
    rw [← h.2.2]
  · simp only [Choice.ran_eq_some, Prod.mk.injEq] at h
    rw [← h.2.2]
  · split at h
    · cases h
      rfl
    · cases h
  · cases h
  · cases h

theorem phase_endRuntime {shim : Shim} (h : shim.phase = .requesting) (exit : RuntimeExit) :
    (shim.endRuntime exit).phase = .requesting := by
  rw [Shim.endRuntime, h]
  exact h

/-- What an operation did to the shim of a session. -/
inductive LaunchStep (o : Op) (r : Except DaemonError o.Res) (id : SessionId)
    (before after : Option Shim) : Prop where
  | kept (h : ShimKept before after)
  | launched (request : RuntimeSpawnRequest) (hok : r.isOk = true)
      (ho : o = .os (.launchShim request)) (hid : request.sessionId = id)
  | granted (ho : o = .os (.deliverLaunch id)) (h : after = before.map OsOp.grantLaunch)

theorem OsOp.Effect.launchStep {o : OsOp} {a : o.Res} (h : o.Effect w w' a) (id : SessionId) :
    LaunchStep (.os o) (.ok a) id (w.shims.lookup id) (w'.shims.lookup id) := by
  cases o with
  -- a new shim has been launched and not been granted yet
  | launchShim request =>
      obtain ⟨-, shimPid, rfl⟩ := h
      by_cases hid : request.sessionId = id
      · exact .launched request rfl rfl hid
      · have hother : (w.shims.insert request.sessionId (newShim shimPid)).lookup id =
            w.shims.lookup id := Table.lookup_insert_ne (Ne.symm hid) _
        exact .kept (hother ▸ .refl _)
  -- the grant of a launch changes the phase
  | deliverLaunch id' =>
      cases h
      by_cases hid : id' = id
      · subst hid
        exact .granted rfl ((Table.lookup_modify _ _ _ _).trans (if_pos rfl))
      · have hother : (w.shims.modify id' grantLaunch).lookup id = w.shims.lookup id := by
          rw [Table.lookup_modify, if_neg (Ne.symm hid)]
        exact .kept (hother ▸ .refl _)
  -- from here on no operation changes the phase, except for a runtime that ends
  | ackReady id' =>
      cases h
      exact .kept (.modify (f := fun shim => { shim with readyAcked := true })
        (fun _ _ hphase => hphase) id)
  | pidAlive pid =>
      rw [h.1]
      exact .kept (.refl _)
  | dockerRunning id' =>
      rw [h.1]
      exact .kept (.refl _)
  | startTimeForPid pid =>
      cases a with
      | known startTime =>
          rw [h.1]
          exact .kept (.refl _)
      | gone =>
          rw [h.1]
          exact .kept (.refl _)
      | unsupported =>
          cases h
          exact .kept (.refl _)
  | sendSignal pid signal =>
      cases a with
      | alreadyExited =>
          rw [h.1]
          exact .kept (.refl _)
      | signalled =>
          cases h
          rw [signalPid]
          split
          · refine .kept ⟨_, Table.lookup_mapRows _ _ id, fun shim _ hphase => ?_⟩
            split
            · exact phase_endRuntime hphase _
            · exact hphase
          · exact .kept (.refl _)
  | dockerKill id' signal =>
      cases a with
      | alreadyExited =>
          rw [h.1]
          exact .kept (.refl _)
      | signalled =>
          rw [h.2]
          refine .kept (.modify (fun shim _ hphase => ?_) id)
          have hsignalled : ({ shim with signalled := true } : Shim).phase = .requesting := hphase
          dsimp only
          split
          · exact phase_endRuntime hsignalled _
          · exact hphase
  | _ =>
      cases h
      exact .kept (.refl _)

theorem Op.launchStep (h : o.exec choice w = some (r, w')) (id : SessionId) :
    LaunchStep o r id (w.shims.lookup id) (w'.shims.lookup id) := by
  cases o with
  | store o =>
      obtain ⟨db, -, rfl⟩ := exec_store h
      exact .kept (.refl _)
  | log o =>
      obtain ⟨log, -, rfl⟩ := exec_log h
      exact .kept (.refl _)
  | memory o =>
      rw [MemoryOp.frame h]
      exact .kept (.refl _)
  | os o =>
      cases r with
      | ok a => exact (OsOp.run_ok (OsOp.exec_ok h)).launchStep id
      | error e =>
          rw [(OsOp.exec_error h).1]
          exact .kept (.refl _)

/-- The environment launches no shim and grants no launch. -/
theorem shimKept_env {event : EnvEvent} (h : w.env event = some w') (id : SessionId) :
    ShimKept (w.shims.lookup id) (w'.shims.lookup id) := by
  cases event with
  | childStarts id' pid startTime =>
      obtain ⟨hready, rfl⟩ := World.guarded_eq_some.mp h
      refine .modify (fun shim hshim hphase => ?_) id
      rw [hshim] at hready
      simp only [Option.any_some, Bool.and_eq_true, decide_eq_true_eq] at hready
      rw [hphase] at hready
      cases hready.2.2
  | childEnds id' exit =>
      cases h
      exact .modify (fun _ _ hphase => phase_endRuntime hphase exit) id
  | shimDies id' =>
      cases h
      exact .modify (f := fun shim => { shim with alive := false }) (fun _ _ hphase => hphase) id

/-! ## What an operation does to the pending launches -/

theorem MemoryOp.pendingLaunches_run {o : MemoryOp} {a : o.Res}
    (h : o.run choice w = some (a, w')) {id : SessionId}
    (hid : id ∈ w'.runtime.pendingLaunches) :
    id ∈ w.runtime.pendingLaunches ∨ o = .insertPendingLaunch id := by
  cases o with
  -- the one operation that adds a pending launch
  | insertPendingLaunch id' =>
      simp only [run, Choice.ran_eq_some, Prod.mk.injEq] at h
      rw [← h.2.2] at hid
      rcases List.mem_cons.mp hid with rfl | hbefore
      · exact .inr rfl
      · exact .inl (List.mem_of_mem_filter hbefore)
  | removePendingLaunch id' =>
      simp only [run, Choice.ran_eq_some, Prod.mk.injEq] at h
      rw [← h.2.2] at hid
      exact .inl (List.mem_of_mem_filter hid)
  | sendReady channel ready =>
      rw [run] at h
      split at h <;> simp only [Choice.ran_eq_some, Prod.mk.injEq] at h <;> rw [← h.2.2] at hid <;>
        exact .inl hid
  | startExitWatcher id' pid =>
      rw [run] at h
      split at h <;> simp only [Choice.ran_eq_some, Prod.mk.injEq] at h <;> rw [← h.2.2] at hid <;>
        exact .inl hid
  | awaitReady channel =>
      obtain ⟨⟨waited, m⟩, hwait, hresult⟩ := Option.map_eq_some_iff.mp h
      cases hresult
      exact .inl (waitFor_pendingLaunches hwait ▸ hid)
  | loopCursor =>
      rw [run] at h
      split at h
      · simp only [Choice.ran_eq_some, Prod.mk.injEq] at h
        rw [← h.2.2] at hid
        exact .inl hid
      · cases h
      · cases h
  | _ =>
      simp only [run, Choice.ran_eq_some, Prod.mk.injEq] at h
      rw [← h.2.2] at hid
      exact .inl hid

/-- A launch that is pending was pending before, or is put up now. -/
theorem pendingLaunches_exec (h : o.exec choice w = some (r, w')) {id : SessionId}
    (hid : id ∈ w'.runtime.pendingLaunches) :
    id ∈ w.runtime.pendingLaunches ∨ o = .memory (.insertPendingLaunch id) := by
  cases o with
  | store o =>
      obtain ⟨db, -, rfl⟩ := Op.exec_store h
      exact .inl hid
  | log o =>
      obtain ⟨log, -, rfl⟩ := Op.exec_log h
      exact .inl hid
  | os o =>
      rw [OsOp.frame h] at hid
      exact .inl hid
  | memory o =>
      cases r with
      | error e =>
          rw [(MemoryOp.exec_error h).1] at hid
          exact .inl hid
      | ok a =>
          exact (MemoryOp.pendingLaunches_run (MemoryOp.exec_ok h) hid).imp_right (congrArg _)

/-- A spec that a program holds it held before, or takes from the pending launches. -/
theorem taken_exec {ψ : Launching} (h : o.exec choice w = some (r, w')) {id : SessionId}
    (htaken : (ψ.next o r).taken = some id) :
    ψ.taken = some id ∨ id ∈ w.runtime.pendingLaunches := by
  by_cases htakes : ∃ id', o = .memory (.removePendingLaunch id')
  · obtain ⟨id', rfl⟩ := htakes
    cases r with
    | error e => exact .inl htaken
    | ok taken =>
        have hrun := MemoryOp.exec_ok h
        simp only [MemoryOp.run, Choice.ran_eq_some, Prod.mk.injEq] at hrun
        cases taken with
        | false => exact .inl htaken
        | true =>
            cases htaken
            exact .inr (of_decide_eq_true hrun.2.1)
  · exact .inl (Launching.taken_of_next (fun id' ho => htakes ⟨id', ho⟩) htaken)

end ShimSteps

/-! ## Who holds a launch spec -/

/-- What a thread was started for says what it may do with launch specs. -/
structure LaunchStanding (w : World) (origin : Origin) (ψ : Launching) : Prop where
  spawns : ∀ id, ψ.spawns = some id →
    ∃ call, origin = .spawn call ∧ call.intent.sessionId = id
  offers : ∀ id, ψ.Offers id → w.shims.lookup id = none
  taken : ∀ id, ψ.taken = some id → w.stage = .listening
  boots : ψ.boots = true → origin = .boot ∧ w.stage ≠ .listening

/-- A launch spec that is pending or taken is one of a daemon that listens, and a shim is one
of a session that was asked for. -/
structure Launches (w : World) (minds : LaunchMinds) : Prop where
  threads : ∀ t origin φ ψ, minds t = some (origin, φ, ψ) → LaunchStanding w origin ψ
  pending : ∀ id ∈ w.runtime.pendingLaunches, w.stage = .listening
  shims : ∀ id shim, w.shims.lookup id = some shim → id ∈ w.usedIds

section Launches

variable {w w' : World} {minds : LaunchMinds} {t t' : Nat} {origin origin' : Origin}
  {φ φ' : Knowledge} {ψ ψ' : Launching} {id : SessionId}

/-- A program that spawns the session of its request. -/
theorem Launches.spawning (hstanding : Standing w (firstMinds minds)) (h : Launches w minds)
    (hmind : minds t = some (origin, φ, ψ)) (hspawns : ψ.spawns = some id) :
    w.stage = .listening ∧ id ∈ w.usedIds := by
  obtain ⟨call, rfl, rfl⟩ := (h.threads t origin φ ψ hmind).spawns id hspawns
  exact (hstanding.threads t _ φ (firstMinds_eq_some hmind)).spawns call rfl

/-- A session is spawned by one program. -/
theorem Launches.spawning_eq (hstanding : Standing w (firstMinds minds)) (h : Launches w minds)
    (hmind : minds t = some (origin, φ, ψ)) (hspawns : ψ.spawns = some id)
    (hmind' : minds t' = some (origin', φ', ψ')) (hspawns' : ψ'.spawns = some id) : t = t' := by
  obtain ⟨call, rfl, hid⟩ := (h.threads t origin φ ψ hmind).spawns id hspawns
  obtain ⟨call', rfl, hid'⟩ := (h.threads t' origin' φ' ψ' hmind').spawns id hspawns'
  exact hstanding.oneSpawn t t' call call' φ φ' (firstMinds_eq_some hmind)
    (firstMinds_eq_some hmind') (hid.trans hid'.symm)

variable {choice : Choice} {o : Op} {r : Except DaemonError o.Res}

/-- A stage is entered by the boot, and none of a daemon that listens. -/
theorem enters_boot (hstands : ThreadStanding w origin φ) {stage : Stage}
    (hallows : φ.allows (.memory (.enterStage stage))) :
    origin = .boot ∧ w.stage ≠ .listening := by
  cases stage with
  | down => exact hallows.elim
  | booting => exact hallows.elim
  | built =>
      obtain ⟨hboot, hstage⟩ := hstands.booting .booting hallows
      exact ⟨hboot, fun h => by rw [hstage] at h; cases h⟩
  | listening =>
      obtain ⟨hboot, hstage⟩ := hstands.booting .built hallows
      exact ⟨hboot, fun h => by rw [hstage] at h; cases h⟩

/-- A daemon that listens goes on to. -/
theorem listening_op (hstands : ThreadStanding w origin φ) (hallows : φ.allows o)
    (hexec : o.exec choice w = some (r, w')) (hlistening : w.stage = .listening) :
    w'.stage = .listening := by
  by_cases henter : ∃ stage, o = .memory (.enterStage stage)
  · obtain ⟨stage, rfl⟩ := henter
    exact absurd hlistening (enters_boot hstands hallows).2
  · exact (Op.stage_exec hexec fun stage ho => henter ⟨stage, ho⟩).trans hlistening

/-- No shim of a session is there before somebody offers its launch. -/
theorem no_shim_op (hexec : o.exec choice w = some (r, w'))
    (hlaunch : ∀ request, o = .os (.launchShim request) → r.isOk = true →
      request.sessionId ≠ id) (hnone : w.shims.lookup id = none) : w'.shims.lookup id = none := by
  cases Op.launchStep hexec id with
  | kept h => exact (hnone ▸ h).none
  | launched request hok ho hid => exact absurd hid (hlaunch request ho hok)
  | granted _ h => rw [h, hnone, Option.map_none]

/-- A program that has launched a shim offers no launch. -/
theorem not_offers_launched {request : RuntimeSpawnRequest} (ho : o = .os (.launchShim request))
    (hok : r.isOk = true) : ¬(ψ.next o r).Offers id := by
  subst ho
  cases r with
  | error e => cases hok
  | ok a => exact fun h => absurd h.2 Bool.false_ne_true

/-- The thread that goes on. -/
theorem LaunchStanding.next (hstands : ThreadStanding w origin φ) (h : LaunchStanding w origin ψ)
    (hpending : ∀ id ∈ w.runtime.pendingLaunches, w.stage = .listening) (hallows : φ.allows o)
    (hexec : o.exec choice w = some (r, w')) : LaunchStanding w' origin (ψ.next o r) where
  spawns id hspawns := h.spawns id (Launching.fades_next.spawns.symm.trans hspawns)
  offers id hoffers :=
    no_shim_op hexec (fun _ ho hok => absurd hoffers (not_offers_launched ho hok))
      (h.offers id (Launching.fades_next.offers hoffers))
  taken id htaken := by
    refine listening_op hstands hallows hexec ?_
    exact (taken_exec hexec htaken).elim (h.taken id) (hpending id)
  boots hboots := by
    obtain ⟨rfl, hstage⟩ := h.boots (Launching.fades_next.boots hboots)
    refine ⟨rfl, ?_⟩
    by_cases henter : ∃ stage, o = .memory (.enterStage stage)
    · obtain ⟨stage, rfl⟩ := henter
      obtain ⟨rfl, rfl⟩ := MemoryOp.enterStage_exec hexec
      rintro rfl
      cases hboots
    · exact (Op.stage_exec hexec fun stage ho => henter ⟨stage, ho⟩) ▸ hstage

/-- Another thread, which spawns another session and does not boot. -/
theorem LaunchStanding.of_other (hstands : ThreadStanding w origin φ)
    (h : LaunchStanding w origin' ψ') (hallows : φ.allows o) (hψ : ψ.allows o)
    (hother : ∀ id, ψ.Offers id → ¬ψ'.Offers id) (hboot : origin = .boot → origin' ≠ .boot)
    (hexec : o.exec choice w = some (r, w')) : LaunchStanding w' origin' ψ' where
  spawns := h.spawns
  offers id hoffers := by
    refine no_shim_op hexec (fun request ho _ => ?_) (h.offers id hoffers)
    rintro rfl
    subst ho
    exact hother _ hψ hoffers
  taken id htaken := listening_op hstands hallows hexec (h.taken id htaken)
  boots hboots := by
    obtain ⟨hboot', hstage⟩ := h.boots hboots
    refine ⟨hboot', ?_⟩
    by_cases henter : ∃ stage, o = .memory (.enterStage stage)
    · obtain ⟨stage, rfl⟩ := henter
      exact absurd hboot' (hboot (enters_boot hstands hallows).1)
    · exact (Op.stage_exec hexec fun stage ho => henter ⟨stage, ho⟩) ▸ hstage

theorem Launches.op (hstanding : Standing w (firstMinds minds)) (h : Launches w minds)
    (hmind : minds t = some (origin, φ, ψ)) (hallows : followed.monitor.allows (φ, ψ) o)
    (hexec : o.exec choice w = some (r, w')) :
    Launches w' (Function.update minds t (some (origin, φ.next o r, ψ.next o r))) := by
  have hstands := hstanding.threads t origin φ (firstMinds_eq_some hmind)
  have hlaunch := h.threads t origin φ ψ hmind
  refine ⟨fun t' origin' φ' ψ' hmind' => ?_, fun id hid => ?_, fun id shim hshim => ?_⟩
  · rcases of_update hmind' with ⟨-, heq⟩ | ⟨hne, hother⟩
    -- the task that ran: its operation moved its own account of the launch
    · cases heq
      exact hlaunch.next hstands h.pending hallows.1 hexec
    -- another task, which offers another launch and is not booting
    · refine (h.threads t' origin' φ' ψ' hother).of_other hstands hallows.1 hallows.2 ?_ ?_ hexec
      · intro id hoffers hoffers'
        exact hne (h.spawning_eq hstanding hother hoffers'.1 hmind hoffers.1)
      · rintro rfl rfl
        exact hne (hstanding.oneBoot t' t φ' φ (firstMinds_eq_some hother)
          (firstMinds_eq_some hmind))
  -- the launches that the memory holds
  · refine listening_op hstands hallows.1 hexec ?_
    rcases pendingLaunches_exec hexec hid with hbefore | rfl
    · exact h.pending id hbefore
    · exact (h.spawning hstanding hmind hallows.2.1).1
  -- the shims: one more was launched by the spawn that ran, or there is none
  · rw [Op.usedIds_exec hexec]
    cases hbefore : w.shims.lookup id with
    | some before => exact h.shims id before hbefore
    | none =>
        cases Op.launchStep hexec id with
        | kept hkept =>
            rw [hbefore] at hkept
            rw [hkept.none] at hshim
            cases hshim
        | launched request hok ho hid =>
            subst ho hid
            exact (h.spawning hstanding hmind hallows.2.1).2
        | granted ho hgranted =>
            rw [hgranted, hbefore] at hshim
            cases hshim

/-- What a thread may do at its start. -/
theorem launchStanding_first (h : Launches w minds) (hstart : w.start origin = some w') :
    LaunchStanding w' origin (Launching.first origin) := by
  cases origin with
  | boot =>
      obtain ⟨-, rfl⟩ := World.start_boot hstart
      exact ⟨fun _ h => (by cases h), fun _ h => (by cases h.1), fun _ h => (by cases h),
        fun _ => ⟨rfl, fun h => by cases h⟩⟩
  | spawn call =>
      obtain ⟨-, hunused, rfl⟩ := World.start_spawn hstart
      refine ⟨fun id hid => ⟨call, rfl, Option.some.inj hid⟩, fun id hoffers => ?_,
        fun _ h => (by cases h), fun h => (by cases h)⟩
      cases hoffers.1
      refine Option.eq_none_iff_forall_not_mem.mpr fun shim hshim => hunused ?_
      exact h.shims _ shim hshim
  | _ =>
      exact ⟨fun _ h => (by cases h), fun _ h => (by cases h.1), fun _ h => (by cases h),
        fun h => (by cases h)⟩

theorem LaunchStanding.of_stage (h : LaunchStanding w origin ψ) (hstage : w'.stage = w.stage)
    (hshims : ∀ id, w.shims.lookup id = none → w'.shims.lookup id = none) :
    LaunchStanding w' origin ψ where
  spawns := h.spawns
  offers id hoffers := hshims id (h.offers id hoffers)
  taken id htaken := hstage ▸ h.taken id htaken
  boots hboots := hstage ▸ h.boots hboots

theorem Launches.start (hstanding : Standing w (firstMinds minds)) (h : Launches w minds)
    (hstart : w.start origin = some w') :
    Launches w' (Function.update minds t
      (some (origin, Knowledge.first origin, Launching.first origin))) := by
  have hframe := World.start_frame hstart
  have hshims : w'.shims = w.shims := by rw [hframe]
  have hlaunches : w'.runtime.pendingLaunches = w.runtime.pendingLaunches := by rw [hframe]
  have hused := World.start_usedIds hstart
  -- A daemon that boots was down: nobody was there, and nothing was pending.
  have hstage : w'.stage = w.stage ∨ w.stage = .down := by
    by_cases hboot : origin = .boot
    · subst hboot
      exact .inr (World.start_boot hstart).1
    · exact .inl (World.start_stage hstart hboot).2
  refine ⟨fun t' origin' φ' ψ' hmind' => ?_, fun id hid => ?_, fun id shim hshim => ?_⟩
  · rcases of_update hmind' with ⟨-, heq⟩ | ⟨-, hother⟩
    · cases heq
      exact launchStanding_first h hstart
    · rcases hstage with hstage | hdown
      · exact (h.threads t' origin' φ' ψ' hother).of_stage hstage fun id hnone => hshims ▸ hnone
      · have hnone := hstanding.down hdown t'
        rw [firstMinds_eq_some hother] at hnone
        cases hnone
  · rw [hlaunches] at hid
    rcases hstage with hstage | hdown
    · exact hstage.trans (h.pending id hid)
    · have hlistening := h.pending id hid
      rw [hdown] at hlistening
      cases hlistening
  · rw [hshims] at hshim
    exact hused (h.shims id shim hshim)

theorem Launches.env (h : Launches w minds) {event : EnvEvent} (henv : w.env event = some w') :
    Launches w' minds := by
  have hkept := shimKept_env henv
  have hframe := World.env_frame henv
  refine ⟨fun t origin φ ψ hmind => ?_, fun id hid => ?_, fun id shim hshim => ?_⟩
  · refine (h.threads t origin φ ψ hmind).of_stage ?_ fun id hnone => ?_
    · rw [hframe]
    · exact (hnone ▸ hkept id).none
  · rw [hframe] at hid ⊢
    exact h.pending id hid
  · obtain ⟨before, hbefore, -⟩ := (hshim ▸ hkept id).before
    rw [hframe]
    exact h.shims id before hbefore

end Launches

/-- Who holds a launch spec, along every run. -/
theorem launches : Pool.InvariantOver followed (.none followed)
    (fun w minds => Standing w (firstMinds minds)) Launches where
  op hstanding h hmind hallows _ hexec := h.op hstanding hmind hallows hexec
  start hstanding h _ hstart _ := h.start hstanding hstart
  env _ h _ henv := h.env henv
  crash _ h _ :=
    ⟨fun _ _ _ _ hmind => (by cases hmind), fun _ hid => (by cases hid), fun id shim hshim =>
      h.shims id shim hshim⟩

theorem launches_fresh (createdAt : DateTime) : Launches (.fresh createdAt) fun _ => none :=
  ⟨fun _ _ _ _ hmind => (by cases hmind), fun _ hid => (by cases hid), fun _ _ hshim => by
    cases hshim⟩

/-- Who is under way, who settles which intent, and who holds which launch spec. -/
abbrev Settled (w : World) (minds : LaunchMinds) : Prop :=
  (Standing w (firstMinds minds) ∧ Agreement w (firstMinds minds)) ∧ Launches w minds

theorem settled : Pool.Invariant followed (.none followed) Settled :=
  ((standing.and agreement).both Condition.refines_none).and (launches.mono fun h => h.1)

theorem settled_fresh (createdAt : DateTime) : Settled (.fresh createdAt) fun _ => none :=
  ⟨agreement_fresh createdAt, launches_fresh createdAt⟩

end LittleOrgans.Concurrency
