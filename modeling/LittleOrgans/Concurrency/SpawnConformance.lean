import LittleOrgans.Concurrency.Conformance

/-!
# The spawn keeps to the rules

The programs a spawn is made of, up to the whole request, checked against the
monitor. A spawn launches at most one shim, for an intent it holds
(`conforms_spawnDomain`); what it hands back may be committed; and it ends having
settled its intent, unless it has returned a failure without an abort
(`conforms_spawn`).
-/

set_option autoImplicit false

namespace LittleOrgans.Concurrency

open LittleOrgans.Core
open LittleOrgans.Library
open LittleOrgans.Library.Monitor
open LittleOrgans.Store
open LittleOrgans.Daemon

namespace Knowledge

/-- The knowledge of a program that can launch nothing any more. -/
def spent (φ : Knowledge) : Knowledge := { φ with launchable := false }

/-- Facts were added, and a launch may have been spent. -/
def Spends (φ φ' : Knowledge) : Prop := φ.Grows φ' ∨ φ.spent.Grows φ'

theorem Grows.spent {φ φ' : Knowledge} (h : φ.Grows φ') : φ.spent.Grows φ'.spent where
  reads := h.reads
  readies := h.readies
  ended := h.ended
  unhandled := h.unhandled
  duties := by rw [Knowledge.spent, h.duties]; rfl

theorem Spends.trans {φ φ' φ'' : Knowledge} (h : φ.Spends φ') (h' : φ'.Spends φ'') :
    φ.Spends φ'' := by
  rcases h with h | h <;> rcases h' with h' | h'
  · exact .inl (h.trans h')
  · exact .inr (h.spent.trans h')
  · exact .inr (h.trans h')
  · exact .inr (h.spent.trans h')

theorem Spends.held {φ φ' : Knowledge} (h : φ.Spends φ') : φ'.held = φ.held :=
  h.elim Grows.held Grows.held

theorem Spends.committed {φ φ' : Knowledge} (h : φ.Spends φ') : φ'.committed = φ.committed :=
  h.elim Grows.committed Grows.committed

/-- This program serves a request that belongs to an intent it holds. -/
def Serves (φ : Knowledge) (request : RuntimeSpawnRequest) : Prop :=
  ∃ intent ∈ φ.held, intent.spawnRequest = request ∧ request.sessionId = intent.sessionId

theorem Serves.holds {φ : Knowledge} {request : RuntimeSpawnRequest} (h : φ.Serves request) :
    φ.Holds request.sessionId := by
  obtain ⟨intent, hheld, -, hid⟩ := h
  exact ⟨intent, hheld, hid.symm⟩

theorem Serves.of_held {φ φ' : Knowledge} {request : RuntimeSpawnRequest} (h : φ.Serves request)
    (hheld : φ'.held = φ.held) : φ'.Serves request := by
  rw [Serves, hheld]
  exact h

end Knowledge

open Knowledge

/-- A failure returns no result. -/
theorem of_error_eq_ok {α : Type} {P : α → Prop} {e : DaemonError} :
    ∀ a, (Except.error e : Except DaemonError α) = .ok a → P a := fun _ h => by cases h

/-! ## The spawn of a runtime -/

theorem conforms_validateSpawnTarget (φ : Knowledge) (target : SpawnTarget) :
    knowing.Conforms (validateSpawnTarget target) φ φ.Grown := by
  unfold validateSpawnTarget
  cases target.tmuxAddress with
  | none => exact Grows.refl φ
  | some address =>
      refine conforms_bind.mpr ((conforms_os φ (o := .isTmuxAlive address) nofun).mono
        fun r φ' hgrows => ?_)
      cases r with
      | error e => exact hgrows
      | ok alive => cases alive <;> exact hgrows

theorem conforms_beginReadyWait (φ : Knowledge) (id : SessionId) :
    knowing.Conforms (beginReadyWait id) φ fun r φ' =>
      φ' = φ ∧ ∀ channel, r = .ok channel → channel.sessionId = id := by
  refine conforms_call_bind.mpr ⟨trivial, fun made hmade => ?_, fun e _ => ⟨rfl, nofun⟩⟩
  show knowing.Conforms (if made.2 = true then _ else _) _ _
  split
  · exact conforms_call_bind.mpr ⟨trivial, fun _ _ => ⟨rfl, nofun⟩, fun e _ => ⟨rfl, nofun⟩⟩
  · refine ⟨rfl, fun channel h => ?_⟩
    cases h
    exact hmade

theorem conforms_dropPendingReady (φ : Knowledge) (id : SessionId) :
    knowing.Conforms (dropPendingReady id) φ fun _ φ' => φ' = φ := by
  refine conforms_call_bind.mpr ⟨trivial, fun found _ => ?_, fun e _ => rfl⟩
  cases found with
  | none => rfl
  | some channel =>
      refine conforms_call.mpr ⟨trivial, fun r _ => ?_⟩
      cases r <;> rfl

/-- A spawn that is cancelled launches nothing any more. -/
theorem conforms_cancelSpawn {φ : Knowledge} {id : SessionId} (hholds : φ.Holds id) :
    knowing.Conforms (cancelSpawn id) φ fun _ φ' => φ.Spends φ' := by
  refine conforms_call_bind.mpr ⟨trivial, fun _ _ => ?_, fun e _ => .inl (Grows.refl φ)⟩
  refine conforms_bind.mpr ((conforms_dropPendingReady φ id).mono fun r φ' hsame => ?_)
  subst hsame
  cases r with
  | error e => exact .inl (Grows.refl φ')
  | ok u =>
      refine conforms_attempt_bind.mpr (conforms_call.mpr ⟨hholds, fun r _ => ?_⟩)
      cases r <;> exact .inr (Grows.refl _)

theorem conforms_sessionBacked (φ : Knowledge) (request : RuntimeSpawnRequest) :
    knowing.Conforms (sessionBacked request) φ φ.Grown := by
  refine conforms_call_bind.mpr ⟨trivial, fun found _ => ?_, fun e _ => Grows.refl φ⟩
  cases found with
  | none => exact Grows.reading φ []
  | some lc =>
      show knowing.Conforms (if isSessionBackedForking lc request = true then _ else _) _ _
      split <;> exact Grows.reading φ [lc]

theorem conforms_ensureForking {φ : Knowledge} {request : RuntimeSpawnRequest}
    (hserves : φ.Serves request) (backed : Bool) :
    knowing.Conforms (ensureForking request backed) φ fun _ φ' => φ' = φ := by
  cases backed with
  | true => rfl
  | false =>
      obtain ⟨intent, hheld, hrequest, hid⟩ := hserves
      have hforking : requestedLifecycle request = Database.forkingLifecycle intent := by
        rw [requestedLifecycle, Database.forkingLifecycle, hid, hrequest]
      refine conforms_call.mpr ⟨⟨intent, hheld, hforking⟩, fun r _ => ?_⟩
      cases r <;> rfl

/-- A spawn that has begun waits on a channel of its session, and may still
launch. -/
theorem conforms_beginSpawn {φ : Knowledge} {request : RuntimeSpawnRequest}
    (hserves : φ.Serves request) :
    knowing.Conforms (beginSpawn request) φ fun r φ' => φ.Spends φ' ∧
      ∀ begin, r = .ok begin → φ.Grows φ' ∧ begin.ready.sessionId = request.sessionId := by
  refine conforms_bind.mpr ((conforms_sessionBacked φ request).mono fun r φ₁ h₁ => ?_)
  cases r with
  | error e => exact ⟨.inl h₁, nofun⟩
  -- every check before the channel only gathers facts
  | ok backed =>
      refine conforms_bind.mpr ((conforms_validateSpawnTarget φ₁ request.target).mono
        fun r φ₂ hgrows₂ => ?_)
      have h₂ := h₁.trans hgrows₂
      have hserves₂ := hserves.of_held h₂.held
      cases r with
      | error e => exact ⟨.inl h₂, nofun⟩
      | ok u =>
          refine conforms_bind.mpr ((conforms_ensureForking hserves₂ backed).mono
            fun r φ₃ hsame => ?_)
          subst hsame
          cases r with
          | error e => exact ⟨.inl h₂, nofun⟩
          | ok u =>
              refine conforms_call_bind.mpr ⟨trivial, fun _ _ => ?_, fun e _ => ⟨.inl h₂, nofun⟩⟩
              refine conforms_attempt_bind.mpr ((conforms_beginReadyWait _ _).mono
                fun r φ₄ h₄ => ?_)
              obtain ⟨rfl, hchannel⟩ := h₄
              cases r with
              -- the channel is the spawn's own
              | ok ready =>
                  refine ⟨.inl h₂, fun begin hbegin => ⟨h₂, ?_⟩⟩
                  cases hbegin
                  exact hchannel ready rfl
              -- the channel was another spawn's: this one gives back what it holds
              | error e =>
                  refine conforms_bind.mpr ((conforms_cancelSpawn hserves₂.holds).mono
                    fun r φ₅ h₅ => ?_)
                  have hspends := Spends.trans (.inl h₂) h₅
                  cases r <;> exact ⟨hspends, nofun⟩

/-- What a recorded runtime may be committed with. -/
def CommitsTo (id : SessionId) (lc : Lifecycle) (φ : Knowledge) : Prop :=
  lc.sessionId = id ∧ lc.state = .running ∧ lc.runtimePid.isSome = true ∧ φ.MayWrite lc

theorem markRunning_forking {lc : Lifecycle} {ready : ShimReady}
    (h : (lc.markRunning ready).1 = true) :
    lc.state = .forking ∧ (lc.markRunning ready).2 =
      { lc with
        state := .running
        shimPid := some ready.shimPid
        runtimePid := some ready.runtimePid
        startTime := some ready.startTime
        tmuxPane := ready.tmuxPane } :=
  Lifecycle.markRunning_eq_true (show lc.markRunning ready = (true, (lc.markRunning ready).2) by
    rw [← h])

/-- A row that was read forking may be written running with the facts of a ready
report. -/
theorem mayWrite_running {φ : Knowledge} {old lc : Lifecycle} {ready : ShimReady}
    (hread : φ.lastRead old.sessionId = some old) (hforking : old.state = .forking)
    (hready : (old.sessionId, ready) ∈ φ.readies) (hid : lc.sessionId = old.sessionId)
    (hisolation : lc.isolation = old.isolation) (hstate : lc.state = .running)
    (hpid : lc.runtimePid = some ready.runtimePid)
    (hstart : lc.startTime = some ready.startTime) : φ.MayWrite lc := by
  refine ⟨old, hid ▸ hread, ?_, hisolation, .inr ⟨ready, hid ▸ hready, hpid, hstart⟩, ?_⟩
  · rw [hforking]
    rfl
  · rw [hstate]
    trivial

theorem conforms_recordRunning {φ : Knowledge} {request : RuntimeSpawnRequest}
    {ready : ShimReady} (hready : (request.sessionId, ready) ∈ φ.readies) (appendEvent : Bool) :
    knowing.Conforms (recordRunning request ready appendEvent) φ fun r φ' => φ.Grows φ' ∧
      ∀ running, r = .ok running → CommitsTo request.sessionId running.1 φ' := by
  have hrow : knowing.Conforms (recordRunningRow request ready appendEvent) φ fun r φ' =>
      φ.Grows φ' ∧ ∀ running, r = .ok running → CommitsTo request.sessionId running.1 φ' := by
    refine conforms_call_bind.mpr
      ⟨trivial, fun found hfound => ?_, fun e _ => ⟨Grows.refl φ, of_error_eq_ok⟩⟩
    cases found with
    | none => exact ⟨Grows.reading φ [], of_error_eq_ok⟩
    | some lc =>
        have hid : lc.sessionId = request.sessionId := hfound lc rfl
        have hread : φ.Grows { φ with reads := [lc] ++ φ.reads } := Grows.reading φ [lc]
        show knowing.Conforms (if lc.runtime ≠ request.runtime then _ else _) _ _
        split
        · exact ⟨hread, of_error_eq_ok⟩
        · show knowing.Conforms (if (lc.markRunning ready).1 = true then _ else _) _ _
          split
          · next hmarked =>
              -- The row that was read is forking, and the ready message allows the write.
              obtain ⟨hforking, hlc'⟩ := markRunning_forking hmarked
              refine conforms_call_bind.mpr
                ⟨trivial, fun logs _ => ?_, fun e _ => ⟨hread, of_error_eq_ok⟩⟩
              have hrunning : runningLifecycle request ready lc logs =
                  { lc with
                    state := .running
                    shimPid := some ready.shimPid
                    runtimePid := some ready.runtimePid
                    startTime := some ready.startTime
                    tmuxPane := request.target.tmuxAddress
                    logAvailability := some logs } := by
                rw [runningLifecycle, hlc']
              have hwrite : { φ with reads := [lc] ++ φ.reads }.MayWrite
                  (runningLifecycle request ready lc logs) := by
                rw [hrunning]
                exact mayWrite_running (lastRead_cons rfl) hforking (hid ▸ hready) rfl rfl rfl rfl
                  rfl
              have hcommits : CommitsTo request.sessionId (runningLifecycle request ready lc logs)
                  { φ with reads := [lc] ++ φ.reads } := by
                refine ⟨?_, ?_, ?_, hwrite⟩ <;> rw [hrunning]
                · exact hid
                · rfl
              have hevent : runningEvent (runningLifecycle request ready lc logs) =
                  .ok (.running lc.sessionId ready.runtimePid ready.startTime) := by
                rw [hrunning]
                rfl
              refine conforms_call_bind.mpr
                ⟨hwrite, fun _ _ => ?_, fun e _ => ⟨hread, of_error_eq_ok⟩⟩
              rw [hevent]
              refine conforms_call_bind.mpr
                ⟨.inr ⟨ready, hready, rfl⟩, fun _ _ => ?_, fun e _ => ⟨hread, of_error_eq_ok⟩⟩
              cases appendEvent with
              | false =>
                  refine ⟨hread, fun running h => ?_⟩
                  cases h
                  exact hcommits
              | true =>
                  refine conforms_call_bind.mpr
                    ⟨trivial, fun event _ => ?_, fun e _ => ⟨?_, of_error_eq_ok⟩⟩
                  · refine ⟨hread, fun running h => ?_⟩
                    cases h
                    exact hcommits
                  · exact hread.trans (Grows.next_appendEvent _
                      (.running lc.sessionId ready.runtimePid ready.startTime) (.error e))
          · exact ⟨hread, of_error_eq_ok⟩
  refine conforms_bind.mpr (hrow.mono fun r φ₁ h => ?_)
  cases r with
  | error e => exact ⟨h.1, of_error_eq_ok⟩
  | ok running =>
      refine conforms_call_bind.mpr ⟨trivial, fun _ _ => ?_, fun e _ => ⟨h.1, of_error_eq_ok⟩⟩
      refine ⟨h.1, fun running' h' => ?_⟩
      cases h'
      exact h.2 running rfl

theorem conforms_recordReconnectedReady {φ : Knowledge} {ready : ShimReady}
    (hready : (ready.sessionId, ready) ∈ φ.readies) :
    knowing.Conforms (recordReconnectedReady ready) φ φ.Grown := by
  refine conforms_call_bind.mpr ⟨trivial, fun found hfound => ?_, fun e _ => Grows.refl φ⟩
  cases found with
  | none => exact Grows.reading φ []
  | some lc =>
      have hid : lc.sessionId = ready.sessionId := hfound lc rfl
      have hready' : (lc.sessionId, ready) ∈ φ.readies := hid ▸ hready
      have hread : φ.Grows { φ with reads := [lc] ++ φ.reads } := Grows.reading φ [lc]
      dsimp only
      cases hstate : lc.state with
      | exited exit => exact hread
      | lost evidence => exact hread
      -- a copy of a report: only the watcher is started again
      | running =>
          refine conforms_call.mpr ⟨.inr ⟨ready, hready', rfl⟩, fun r _ => ?_⟩
          cases r <;> exact hread
      -- the report that was waited for before the daemon came up again
      | forking =>
          have hmarked : (lc.markRunning ready).1 = true := by
            rw [Lifecycle.markRunning, hstate]
            rfl
          obtain ⟨-, hlc'⟩ := markRunning_forking hmarked
          have hwrite : { φ with reads := [lc] ++ φ.reads }.MayWrite (lc.markRunning ready).2 := by
            rw [hlc']
            exact mayWrite_running (lastRead_cons rfl) hstate hready' rfl rfl rfl rfl rfl
          have hevent : runningEvent (lc.markRunning ready).2 =
              .ok (.running lc.sessionId ready.runtimePid ready.startTime) := by
            rw [hlc']
            rfl
          refine conforms_call_bind.mpr ⟨hwrite, fun _ _ => ?_, fun e _ => hread⟩
          rw [hevent]
          refine conforms_call_bind.mpr
            ⟨.inr ⟨ready, hready', rfl⟩, fun _ _ => ?_, fun e _ => hread⟩
          refine conforms_call_bind.mpr ⟨trivial, fun _ _ => hread, fun e _ => ?_⟩
          exact hread.trans (Grows.next_appendEvent _
            (.running lc.sessionId ready.runtimePid ready.startTime) (.error e))

theorem conforms_completeShimReady {φ : Knowledge} {ready : ShimReady}
    (hready : (ready.sessionId, ready) ∈ φ.readies) :
    knowing.Conforms (completeShimReady ready) φ φ.Grown := by
  refine conforms_call_bind.mpr ⟨trivial, fun found hfound => ?_, fun e _ => Grows.refl φ⟩
  cases found with
  | none => exact conforms_recordReconnectedReady hready
  | some channel =>
      have hid : channel.sessionId = ready.sessionId := hfound channel rfl
      have hsend : (channel.sessionId, ready) ∈ φ.readies := hid ▸ hready
      refine conforms_call_bind.mpr ⟨hsend, fun sent _ => ?_, fun e _ => Grows.refl φ⟩
      cases sent <;> exact Grows.refl φ

/-- A check of the spawn finds nothing to report, or a conflict. -/
def Checks (φ : Knowledge) (r : Except DaemonError (Option SpawnOutcome)) (φ' : Knowledge) :
    Prop :=
  φ.Grows φ' ∧ ∀ lc event stdoutPath, r ≠ .ok (some (.spawned lc event stdoutPath))

theorem checks_error {φ φ' : Knowledge} {e : DaemonError} (h : φ.Grows φ') :
    Checks φ (.error e) φ' :=
  ⟨h, fun _ _ _ hr => by cases hr⟩

theorem checks_none {φ φ' : Knowledge} (h : φ.Grows φ') : Checks φ (.ok none) φ' :=
  ⟨h, fun _ _ _ hr => by cases hr⟩

theorem checks_conflict {φ φ' : Knowledge} {e : DaemonError} {lc : Lifecycle}
    (h : φ.Grows φ') : Checks φ (.ok (some (.conflict e lc))) φ' :=
  ⟨h, fun _ _ _ hr => by cases hr⟩

theorem conforms_checkOccupant (φ : Knowledge) (request : RuntimeSpawnRequest) :
    knowing.Conforms (checkOccupant request) φ (Checks φ) := by
  unfold checkOccupant
  cases request.target.tmuxAddress with
  | none => exact checks_none (Grows.refl φ)
  | some address =>
      refine conforms_call_bind.mpr
        ⟨trivial, fun found _ => ?_, fun e _ => checks_error (Grows.refl φ)⟩
      cases found with
      | none => exact checks_none (Grows.reading φ [])
      | some occupant =>
          have hread : φ.Grows { φ with reads := [occupant] ++ φ.reads } :=
            Grows.reading φ [occupant]
          show knowing.Conforms (if request.force = true then _ else _) _ _
          split
          · refine conforms_bind.mpr ((conforms_killRuntime _ _).mono fun r φ' h => ?_)
            cases r with
            | error e => exact checks_error (hread.trans h)
            | ok outcome => exact checks_none (hread.trans h)
          · exact checks_conflict hread

theorem conforms_checkSpawn (φ : Knowledge) (request : RuntimeSpawnRequest) :
    knowing.Conforms (checkSpawn request) φ (Checks φ) := by
  refine conforms_bind.mpr ((conforms_os φ (o := .checkIsolation request) nofun).mono
    fun r φ₁ h₁ => ?_)
  cases r with
  | error e => exact checks_error h₁
  | ok u =>
      refine conforms_call_bind.mpr ⟨trivial, fun found _ => ?_, fun e _ => checks_error h₁⟩
      cases found with
      | none => exact (conforms_checkOccupant _ _).mono fun r φ' h => ⟨h₁.trans h.1, h.2⟩
      | some lc =>
          have hread := h₁.trans (Grows.reading φ₁ [lc])
          show knowing.Conforms (if isSessionBackedForking lc request = true then _ else _) _ _
          split
          · exact (conforms_checkOccupant _ _).mono fun r φ' h => ⟨hread.trans h.1, h.2⟩
          · exact checks_conflict hread

/-- The result of a spawn: what it hands back may be committed. -/
def SpawnsDomain (φ : Knowledge) (request : RuntimeSpawnRequest)
    (r : Except DaemonError SpawnOutcome) (φ' : Knowledge) : Prop :=
  φ.Spends φ' ∧ ∀ lc event stdoutPath, r = .ok (.spawned lc event stdoutPath) →
    CommitsTo request.sessionId lc φ'

theorem spawnsDomain_error {φ φ' : Knowledge} {request : RuntimeSpawnRequest} {e : DaemonError}
    (h : φ.Spends φ') : SpawnsDomain φ request (.error e) φ' :=
  ⟨h, fun _ _ _ h => by cases h⟩

theorem conforms_awaitSpawn {φ : Knowledge} {request : RuntimeSpawnRequest}
    {channel : ChannelId} (hchannel : channel.sessionId = request.sessionId) (appendEvent : Bool)
    (stdoutPath : Option String) :
    knowing.Conforms
      (do
        let waited ← memory (.awaitReady channel)
        let ready ← readyOrError waited
        let running ← recordRunning request ready appendEvent
        return SpawnOutcome.spawned running.1 running.2 stdoutPath) φ
      (SpawnsDomain φ request) := by
  refine conforms_call_bind.mpr
    ⟨trivial, fun waited _ => ?_, fun e _ => spawnsDomain_error (.inl (Grows.refl φ))⟩
  cases waited with
  -- no report: the launch is given up
  | elapsed => exact spawnsDomain_error (.inl (Grows.refl φ))
  | closed => exact spawnsDomain_error (.inl (Grows.refl φ))
  -- the report is in the channel, so its facts are the spawn's
  | ready ready =>
      have hgrows : φ.Grows { φ with readies := (channel.sessionId, ready) :: φ.readies } :=
        { Grows.refl φ with
          readies := List.subset_cons_self _ _, duties := rfl, unhandled := .inl rfl }
      have hready : (request.sessionId, ready) ∈
          { φ with readies := (channel.sessionId, ready) :: φ.readies }.readies := by
        rw [hchannel]
        exact List.mem_cons_self
      refine conforms_bind.mpr (conforms_bind.mpr
        ((conforms_recordRunning hready appendEvent).mono fun r φ₁ h₁ => ?_))
      have hspends : φ.Spends φ₁ := .inl (hgrows.trans h₁.1)
      cases r with
      | error e => exact spawnsDomain_error hspends
      | ok running =>
          refine ⟨hspends, fun lc event path h => ?_⟩
          cases h
          exact h₁.2 running rfl

theorem conforms_spawnDomain {φ : Knowledge} {request : RuntimeSpawnRequest}
    (hserves : φ.Serves request) (hlaunchable : φ.launchable = true) :
    knowing.Conforms (spawnDomain request) φ (SpawnsDomain φ request) := by
  refine conforms_bind.mpr ((conforms_checkSpawn φ request).mono fun r φ₁ hchecks => ?_)
  obtain ⟨h₁, hconflict⟩ := hchecks
  cases r with
  | error e => exact spawnsDomain_error (.inl h₁)
  | ok found =>
      cases found with
      | some conflict =>
          refine ⟨.inl h₁, fun lc event stdoutPath h => ?_⟩
          cases h
          exact absurd rfl (hconflict lc event stdoutPath)
      | none =>
          refine conforms_bind.mpr ((conforms_os φ₁ (o := .prepareLaunch request) nofun).mono
            fun r φ₂ hgrows₂ => ?_)
          have h₂ := h₁.trans hgrows₂
          cases r with
          | error e => exact spawnsDomain_error (.inl h₂)
          | ok u =>
              refine conforms_bind.mpr ((conforms_beginSpawn (hserves.of_held h₂.held)).mono
                fun r φ₃ hbegin => ?_)
              cases r with
              | error e => exact spawnsDomain_error (Spends.trans (.inl h₂) hbegin.1)
              | ok begin =>
                  obtain ⟨hgrows₃, hchannel⟩ := hbegin.2 begin rfl
                  have h₃ := h₂.trans hgrows₃
                  have hserves₃ := hserves.of_held h₃.held
                  -- The launch is allowed once: the intent is held and no shim was started.
                  have hlaunch : φ₃.Holds request.sessionId ∧ φ₃.launchable = true :=
                    ⟨hserves₃.holds, h₃.launchable.trans hlaunchable⟩
                  refine conforms_attempt_bind.mpr (conforms_call.mpr ⟨hlaunch, fun r _ => ?_⟩)
                  cases r with
                  | error e =>
                      refine conforms_bind.mpr ((conforms_cancelSpawn hserves₃.holds).mono
                        fun r φ₄ hspends₄ => ?_)
                      have hspends := Spends.trans (.inl h₃) hspends₄
                      cases r <;> exact spawnsDomain_error hspends
                  | ok stdoutPath =>
                      have hspent : φ.Spends φ₃.spent := .inr h₃.spent
                      refine (conforms_awaitSpawn hchannel (!begin.sessionBacked)
                        stdoutPath).mono fun r φ₄ h₄ => ?_
                      exact ⟨hspent.trans h₄.1, h₄.2⟩

end LittleOrgans.Concurrency
