import LittleOrgans.Concurrency.ReadyPaths

/-!
# Spawns that succeed

Which operations a spawn has carried out when it returns a session: it has launched a shim and
recorded the running lifecycle (`RecordsRunning`), and it has completed its intent with that
lifecycle (`CompletesSpawn`). Nothing is assumed of what the operations answer.
-/

set_option autoImplicit false

namespace LittleOrgans.Concurrency

open LittleOrgans.Core
open LittleOrgans.Library
open LittleOrgans.Store
open LittleOrgans.Daemon

section Programs

variable {σ : Type} {step : σ → (o : Op) → Except DaemonError o.Res → σ → Prop} {s s' : σ}

theorem runs_context_ok {α : Type} {error : DaemonError} {p : DaemonProg α} {a : α} :
    (context error p).Runs step s (.ok a) s' ↔ p.Runs step s (.ok a) s' := by
  rw [context, Prog.runs_mapError]
  constructor
  · rintro ⟨inner, hinner, hrun⟩
    cases inner with
    | ok b =>
        cases hinner
        exact hrun
    | error e => cases hinner
  · intro hrun
    exact ⟨.ok a, rfl, hrun⟩

theorem runs_context_bind_ok {α β : Type} {error : DaemonError} {p : DaemonProg α}
    {f : α → DaemonProg β} {a : α} {b : β} {s₁ : σ} (h : p.Runs step s (.ok a) s₁)
    (hrest : (f a).Runs step s₁ (.ok b) s') : (context error p >>= f).Runs step s (.ok b) s' :=
  Prog.runs_bind_ok.mpr ⟨a, s₁, runs_context_ok.mpr h, hrest⟩

/-- The operations of `complete_spawn_intent` that inserts a session. -/
def CompletesSpawn (step : σ → (o : Op) → Except DaemonError o.Res → σ → Prop)
    (intent : PendingSpawnIntent) (lc : Lifecycle) (event : RuntimeEvent)
    (stdoutPath : Option String) (session : Session) (s s' : σ) : Prop :=
  ∃ updatedAt appended s₁ s₂ s₃ s₄,
    step s (.os .now) (.ok updatedAt) s₁ ∧
      sessionOfIntent intent lc stdoutPath updatedAt = .ok session ∧
      step s₁ (.store (.namespaceExists session.namespaceSlug)) (.ok true) s₂ ∧
      step s₂ (.store .beginTx) (.ok ()) s₃ ∧
      step s₃ (.store (.commitSpawnIntent intent.sessionId session lc)) (.ok ()) s₄ ∧
      step s₄ (.log (.appendEvent event)) (.ok appended) s'

theorem completesSpawn_of_runs {intent : PendingSpawnIntent} {lc : Lifecycle}
    {event : RuntimeEvent} {stdoutPath : Option String} {onCommitFailure : OnCommitFailure}
    {session : Session}
    (h : (completeSpawnIntent intent lc event stdoutPath onCommitFailure).Runs step s
      (.ok session) s') :
    CompletesSpawn step intent lc event stdoutPath session s s' := by
  obtain ⟨updatedAt, s₁, hnow, hrest⟩ := Prog.runs_bind_ok.mp h
  obtain ⟨built, s₂, hbuilt, hrest₂⟩ := Prog.runs_bind_ok.mp hrest
  obtain ⟨hsame, rfl⟩ := Prog.runs_ofExcept.mp hbuilt
  obtain ⟨found, s₃, hexists, hrest₃⟩ := Prog.runs_bind_ok.mp hrest₂
  -- a run that completes has found the namespace and committed; every other branch fails
  cases found with
  | false =>
      obtain ⟨u, s₄, -, hfail⟩ := Prog.runs_bind_ok.mp hrest₃
      cases hfail.1
  | true =>
      obtain ⟨u, s₄, hbegin, hrest₄⟩ := Prog.runs_bind_ok.mp hrest₃
      obtain ⟨committed, s₅, hcommit, hrest₅⟩ := Prog.runs_attempt_bind.mp hrest₄
      cases committed with
      | error e =>
          cases onCommitFailure with
          | abortRunning =>
              obtain ⟨u, s₆, -, hfail⟩ := Prog.runs_bind_ok.mp hrest₅
              cases hfail.1
          | leavePending => cases hrest₅.1
      | ok u =>
          obtain ⟨appended, s₆, happend, hdone⟩ := Prog.runs_bind_ok.mp hrest₅
          obtain ⟨hsession, rfl⟩ := hdone
          cases hsession
          exact ⟨updatedAt, appended, _, s₃, s₄, s₅, Prog.runs_call.mp hnow, hsame.symm,
            Prog.runs_call.mp (runs_context_ok.mp hexists),
            Prog.runs_call.mp (runs_context_ok.mp hbegin), Prog.runs_call.mp hcommit,
            Prog.runs_call.mp (runs_context_ok.mp happend)⟩

/-- The operations of `record_running` that stores a lifecycle. -/
def RecordsRunning (step : σ → (o : Op) → Except DaemonError o.Res → σ → Prop)
    (request : RuntimeSpawnRequest) (ready : ShimReady) (running : Lifecycle) (s s' : σ) : Prop :=
  ∃ lc logs s₁ s₂ s₃ s₄ s₅,
    step s (.store (.getLifecycle request.sessionId)) (.ok (some lc)) s₁ ∧
      (lc.markRunning ready).1 = true ∧
      step s₁ (.os (.logAvailability { (lc.markRunning ready).2 with
        tmuxPane := request.target.tmuxAddress })) (.ok logs) s₂ ∧
      running = runningLifecycle request ready lc logs ∧
      step s₂ (.store (.updateLifecycle running)) (.ok ()) s₃ ∧
      step s₃ (.memory (.startExitWatcher request.sessionId ready.runtimePid)) (.ok ()) s₄ ∧
      (s₅ = s₄ ∨ ∃ event appended, step s₄ (.log (.appendEvent event)) (.ok appended) s₅) ∧
      step s₅ (.memory (.trackShim ready.sessionId ready.shimPid)) (.ok ()) s'

theorem recordsRunning_of_runs {request : RuntimeSpawnRequest} {ready : ShimReady}
    {appendEvent : Bool} {result : Lifecycle × RuntimeEvent}
    (h : (recordRunning request ready appendEvent).Runs step s (.ok result) s') :
    RecordsRunning step request ready result.1 s s' := by
  obtain ⟨recorded, s₅, hrow, hrest⟩ := Prog.runs_bind_ok.mp h
  obtain ⟨u, s₆, htrack, hdone⟩ := Prog.runs_bind_ok.mp hrest
  obtain ⟨hresult, rfl⟩ := hdone
  cases hresult
  obtain ⟨found, s₁, hread, hrow₁⟩ := Prog.runs_bind_ok.mp hrow
  -- a run that records has found the row forking; every other branch fails
  cases found with
  | none => cases hrow₁.1
  | some lc =>
      dsimp only at hrow₁
      split at hrow₁
      · cases hrow₁.1
      · split at hrow₁
        · next hmarked =>
            obtain ⟨logs, s₂, hlogs, hrow₂⟩ := Prog.runs_bind_ok.mp hrow₁
            obtain ⟨u, s₃, hwrite, hrow₃⟩ := Prog.runs_bind_ok.mp hrow₂
            obtain ⟨event, s₃', hevent, hrow₄⟩ := Prog.runs_bind_ok.mp hrow₃
            obtain ⟨-, rfl⟩ := Prog.runs_ofExcept.mp hevent
            obtain ⟨u, s₄, hwatch, hrow₅⟩ := Prog.runs_bind_ok.mp hrow₄
            -- the event is appended where that is asked for
            have hlast : result.1 = runningLifecycle request ready lc logs ∧
                (s₅ = s₄ ∨ ∃ event appended,
                  step s₄ (.log (.appendEvent event)) (.ok appended) s₅) := by
              cases appendEvent with
              | false =>
                  obtain ⟨hresult, rfl⟩ := hrow₅
                  cases hresult
                  exact ⟨rfl, .inl rfl⟩
              | true =>
                  obtain ⟨appended, s₅', happend, hdone⟩ := Prog.runs_bind_ok.mp hrow₅
                  obtain ⟨hresult, rfl⟩ := hdone
                  cases hresult
                  exact ⟨rfl, .inr ⟨_, _, Prog.runs_call.mp happend⟩⟩
            obtain ⟨hrunning, hlast⟩ := hlast
            rw [hrunning]
            exact ⟨lc, logs, s₁, s₂, _, s₄, s₅, Prog.runs_call.mp hread, hmarked,
              Prog.runs_call.mp hlogs, rfl, Prog.runs_call.mp hwrite, Prog.runs_call.mp hwatch,
              hlast, Prog.runs_call.mp htrack⟩
        · cases hrow₁.1

/-- A preflight that finds something finds a conflict. -/
theorem conflict_of_checkOccupant {request : RuntimeSpawnRequest} {outcome : SpawnOutcome}
    (h : (checkOccupant request).Runs step s (.ok (some outcome)) s') :
    ∃ error lc, outcome = .conflict error lc := by
  rw [checkOccupant] at h
  split at h
  · cases h.1
  · obtain ⟨found, s₁, -, hrest⟩ := Prog.runs_bind_ok.mp h
    cases found with
    | none => cases hrest.1
    | some occupant =>
        dsimp only at hrest
        split at hrest
        · obtain ⟨killed, s₂, -, hdone⟩ := Prog.runs_bind_ok.mp hrest
          cases hdone.1
        · cases hrest.1
          exact ⟨_, occupant, rfl⟩

theorem conflict_of_checkSpawn {request : RuntimeSpawnRequest} {outcome : SpawnOutcome}
    (h : (checkSpawn request).Runs step s (.ok (some outcome)) s') :
    ∃ error lc, outcome = .conflict error lc := by
  obtain ⟨u, s₁, -, hrest⟩ := Prog.runs_bind_ok.mp h
  obtain ⟨found, s₂, -, hrest₂⟩ := Prog.runs_bind_ok.mp hrest
  cases found with
  | none => exact conflict_of_checkOccupant hrest₂
  | some lc =>
      dsimp only at hrest₂
      split at hrest₂
      · exact conflict_of_checkOccupant hrest₂
      · cases hrest₂.1
        exact ⟨_, lc, rfl⟩

/-- A runtime that was spawned was launched, and its lifecycle recorded. -/
theorem records_of_spawnDomain {request : RuntimeSpawnRequest} {running : Lifecycle}
    {event : RuntimeEvent} {stdoutPath : Option String}
    (h : (spawnDomain request).Runs step s (.ok (.spawned running event stdoutPath)) s') :
    ∃ ready s₁ s₂ s₃, step s₁ (.os (.launchShim request)) (.ok stdoutPath) s₂ ∧
      RecordsRunning step request ready running s₃ s' := by
  obtain ⟨checked, t₁, hcheck, hrest⟩ := Prog.runs_bind_ok.mp h
  cases checked with
  | some outcome =>
      obtain ⟨error, lc, rfl⟩ := conflict_of_checkSpawn hcheck
      cases hrest.1
  | none =>
      obtain ⟨u, t₂, -, hrest₂⟩ := Prog.runs_bind_ok.mp hrest
      obtain ⟨begin, t₃, -, hrest₃⟩ := Prog.runs_bind_ok.mp hrest₂
      obtain ⟨launched, t₄, hlaunch, hrest₄⟩ := Prog.runs_attempt_bind.mp hrest₃
      cases launched with
      | error e =>
          obtain ⟨u, t₅, -, hfail⟩ := Prog.runs_bind_ok.mp hrest₄
          cases hfail.1
      | ok launchedPath =>
          obtain ⟨waited, t₅, -, hrest₅⟩ := Prog.runs_bind_ok.mp hrest₄
          obtain ⟨ready, t₆, -, hrest₆⟩ := Prog.runs_bind_ok.mp hrest₅
          obtain ⟨result, t₇, hrecord, hdone⟩ := Prog.runs_bind_ok.mp hrest₆
          obtain ⟨houtcome, rfl⟩ := hdone
          cases houtcome
          exact ⟨ready, _, _, _, Prog.runs_call.mp hlaunch, recordsRunning_of_runs hrecord⟩

/-- A spawn that returns a session recorded a lifecycle and completed its intent with it. -/
theorem completes_of_spawn {intent : PendingSpawnIntent} {session : Session}
    (h : (spawn intent).Runs step s (.ok session) s') :
    ∃ running ready event stdoutPath now s₁ s₂ s₃ s₄ s₅,
      step s₁ (.os (.launchShim intent.spawnRequest)) (.ok stdoutPath) s₂ ∧
        RecordsRunning step intent.spawnRequest ready running s₃ s₄ ∧
        step s₄ (.os .now) (.ok now) s₅ ∧
        CompletesSpawn step intent running event stdoutPath session s₅ s' := by
  obtain ⟨found, t₁, -, hrest⟩ := Prog.runs_bind_ok.mp h
  -- a run that spawns has had an answer of the runtime; every other branch fails
  cases found with
  | false => cases hrest.1
  | true =>
      obtain ⟨u, t₂, -, hrest₂⟩ := Prog.runs_bind_ok.mp hrest
      obtain ⟨spawned, t₃, hspawn, hafter⟩ := Prog.runs_attempt_bind.mp hrest₂
      cases spawned with
      | error e =>
          obtain ⟨u, t₄, -, hfail⟩ := Prog.runs_bind_ok.mp hafter
          cases hfail.1
      | ok spawned =>
          obtain ⟨u, t₄, -, hspawn₂⟩ := Prog.runs_bind_ok.mp hspawn
          obtain ⟨outcome, t₅, hdomain, houtcome⟩ := Prog.runs_bind_ok.mp hspawn₂
          obtain ⟨hprocess, rfl⟩ := Prog.runs_ofExcept.mp houtcome
          obtain ⟨now, t₆, hnow, hafter₂⟩ := Prog.runs_bind_ok.mp hafter
          obtain ⟨event, t₇, hevent, hcomplete⟩ := Prog.runs_bind_ok.mp hafter₂
          obtain ⟨-, rfl⟩ := Prog.runs_ofExcept.mp hevent
          cases outcome with
          | conflict error lc => cases hprocess
          -- the outcome is checked before the second transaction begins
          | spawned running reported stdoutPath =>
              have hspawned : spawned.lifecycle = running ∧ spawned.stdoutPath = stdoutPath := by
                rw [spawnOutcome] at hprocess
                split at hprocess
                · cases hprocess
                  exact ⟨rfl, rfl⟩
                · cases hprocess
              obtain ⟨ready, s₁, s₂, s₃, hlaunch, hrecord⟩ := records_of_spawnDomain hdomain
              have hcompletes := completesSpawn_of_runs hcomplete
              rw [hspawned.1, hspawned.2] at hcompletes
              exact ⟨running, ready, event, stdoutPath, now, s₁, s₂, s₃, _, _, hlaunch, hrecord,
                Prog.runs_call.mp hnow, hcompletes⟩

end Programs

end LittleOrgans.Concurrency
