import LittleOrgans.Concurrency.RuntimePrograms
import LittleOrgans.Library.Text
import LittleOrgans.Library.Utf8

/-!
# One sweep of the reconciler

`reconcile_once` on running lifecycles each of which has its own probe: what the polls of
its pid and the read of its start time answer, what `docker container inspect` came to,
and whether its exit watcher starts. Store, memory and event log do what they are told.

A sweep records what the probe of a lifecycle shows unless an error stops it before: the
first probe or watcher that fails ends the sweep. And it takes every container that
`docker inspect` does not report as running for gone, whatever the command failed of.
`reconcileOnce_isolated_iff` says that nothing else keeps the sweep from recording exactly
the lifecycles whose runtime is shown to be gone.
-/

set_option autoImplicit false

namespace LittleOrgans.Concurrency

open LittleOrgans.Core
open LittleOrgans.Library
open LittleOrgans.Library.Prog
open LittleOrgans.Store

/-! ## The Docker command line -/

/-- `std::process::Output`, as far as it is read. -/
structure Output where
  success : Bool
  stdout : List UInt8
  stderr : List UInt8

/-- `container_running_from_output`. -/
def containerRunningFromOutput (output : Output) : Bool :=
  output.success && trim (fromUtf8Lossy output.stdout) = "true".toList

/-- `RuntimeFailure::docker_unavailable`. -/
def dockerUnavailable (message : String) : DaemonError := .io message

/-- `DockerCliRuntime::running`; `inspect` is the error or the output of the command. -/
def dockerRunning (inspect : Except String Output) : Except DaemonError Bool :=
  match inspect with
  | .ok output => .ok (containerRunningFromOutput output)
  | .error message => .error (dockerUnavailable message)

/-- The container exists and does not run. -/
def Output.ShowsStopped (output : Output) : Prop :=
  output.success = true ∧ trim (fromUtf8Lossy output.stdout) = "false".toList

/-- There is no such container; `kill_container` tells it by the same text. -/
def Output.ShowsAbsent (output : Output) : Prop :=
  output.success = false ∧ "No such container".toList <:+: fromUtf8Lossy output.stderr

/-! ## Probes -/

/-- What a round finds out about its lifecycle. -/
structure Probe where
  alive : Bool
  startTime : Except DaemonError ProcessStartTime
  stillAlive : Bool
  inspect : Except String Output
  watcher : Except DaemonError Unit

namespace Probe

/-- The evidence that a probe gives beyond doubt. -/
inductive Shows (probe : Probe) (lc : Lifecycle) : LostEvidence → Prop where
  | dead (pid : Pid) (hhost : lc.isolation = .host) (hpid : lc.runtimePid = some pid)
      (hdead : probe.alive = false) : Shows probe lc .pidNotAlive
  | gone (pid : Pid) (stored : DateTime) (hhost : lc.isolation = .host)
      (hpid : lc.runtimePid = some pid) (hstored : lc.startTime = some stored)
      (hgone : probe.startTime = .ok .gone) : Shows probe lc .pidNotAlive
  | vanished (pid : Pid) (stored : DateTime) (hhost : lc.isolation = .host)
      (hpid : lc.runtimePid = some pid) (hstored : lc.startTime = some stored)
      (hread : probe.startTime = .ok .unsupported ∨ ∃ e, probe.startTime = .error e)
      (hdead : probe.stillAlive = false) : Shows probe lc .pidNotAlive
  | reused (pid : Pid) (stored current : DateTime) (hhost : lc.isolation = .host)
      (hpid : lc.runtimePid = some pid) (hstored : lc.startTime = some stored)
      (halive : probe.alive = true) (hread : probe.startTime = .ok (.known current))
      (hother : current ≠ stored) : Shows probe lc .pidReuseDetected
  | stopped (profile : IsolationProfile) (output : Output)
      (hdocker : lc.isolation = .docker profile) (houtput : probe.inspect = .ok output)
      (hstopped : output.ShowsStopped) : Shows probe lc .pidNotAlive
  | absent (profile : IsolationProfile) (output : Output)
      (hdocker : lc.isolation = .docker profile) (houtput : probe.inspect = .ok output)
      (habsent : output.ShowsAbsent) : Shows probe lc .pidNotAlive

/-- `docker inspect` was run and tells neither that the container runs nor that it is
gone. -/
def Misread (probe : Probe) (lc : Lifecycle) : Prop :=
  ∃ profile output, lc.isolation = .docker profile ∧ probe.inspect = .ok output ∧
    containerRunningFromOutput output = false ∧ ¬output.ShowsStopped ∧ ¬output.ShowsAbsent

/-- The probe itself ends with an error. -/
def Errs (probe : Probe) (lc : Lifecycle) : Prop :=
  (lc.isolation = .host ∧ lc.runtimePid = none) ∨
  (lc.isolation = .host ∧ probe.alive = true ∧ lc.startTime ≠ none ∧
    (∃ e, probe.startTime = .error e) ∧ probe.stillAlive = true) ∨
  (lc.isolation ≠ .host ∧ ∃ message, probe.inspect = .error message)

/-- No watcher can be started for a runtime that seems to run. -/
def Unwatched (probe : Probe) (watched : Bool) (lc : Lifecycle) : Prop :=
  lc.runtimePid = none ∨ (watched = false ∧ ∃ e, probe.watcher = .error e)

/-- The evidence a sweep goes by. -/
def Reports (probe : Probe) (lc : Lifecycle) (evidence : LostEvidence) : Prop :=
  probe.Shows lc evidence ∨ (probe.Misread lc ∧ evidence = .pidNotAlive)

/-- The round of the lifecycle ends with an error. -/
def Fails (probe : Probe) (watched : Bool) (lc : Lifecycle) : Prop :=
  probe.Errs lc ∨ ((∀ evidence, ¬probe.Reports lc evidence) ∧ probe.Unwatched watched lc)

end Probe

/-! ## One round -/

/-- The daemon in a round, and how often the round has polled the pid. -/
structure Round where
  world : World
  polls : Nat

namespace Probe

/-- The answers in a round: the probe knows what is outside the daemon, everything else
succeeds. -/
def exec (probe : Probe) : (o : Op) → Round → Option (Except DaemonError o.Res × Round)
  | .os (.pidAlive _), s =>
      some (.ok (if s.polls = 0 then probe.alive else probe.stillAlive),
        { s with polls := s.polls + 1 })
  | .os (.startTimeForPid _), s => some (probe.startTime, s)
  | .os (.dockerRunning _), s => some (dockerRunning probe.inspect, s)
  | .os _, _ => none
  | .memory (.startExitWatcher id runtimePid), s =>
      match s.world.runtime.exitWatchers.contains id, probe.watcher with
      | false, .error e => some (.error e, s)
      | _, _ => ((MemoryOp.startExitWatcher id runtimePid).exec .run s.world).map fun result =>
          (result.1, { s with world := result.2 })
  | .memory o, s => (o.exec .run s.world).map fun result => (result.1, { s with world := result.2 })
  | .log o, s => ((Op.log o).exec .run s.world).map fun result =>
      (result.1, { s with world := result.2 })
  | .store o, s => ((Op.store o).exec .run s.world).map fun result =>
      (result.1, { s with world := result.2 })

/-- The operation answers as the probe says. -/
def Answers (probe : Probe) (s : Round) (o : Op) (r : Except DaemonError o.Res) (s' : Round) :
    Prop :=
  probe.exec o s = some (r, s')

/-- `host_process_lost_evidence` on the answers of a probe. -/
def hostEvidence (probe : Probe) (stored : Option DateTime) :
    Except DaemonError (Option LostEvidence) :=
  if probe.alive then
    match stored with
    | none => .ok none
    | some stored =>
        match probe.startTime with
        | .ok (.known current) =>
            .ok (if current = stored then none else some .pidReuseDetected)
        | .ok .gone => .ok (some .pidNotAlive)
        | .ok .unsupported => .ok (if probe.stillAlive then none else some .pidNotAlive)
        | .error e => if probe.stillAlive then .error e else .ok (some .pidNotAlive)
  else .ok (some .pidNotAlive)

/-- `lost_evidence` on the answers of a probe. -/
def evidence (probe : Probe) (lc : Lifecycle) : Except DaemonError (Option LostEvidence) :=
  match lc.isolation with
  | .host =>
      match lc.runtimePid with
      | none => .error (.io "running lifecycle missing runtime pid")
      | some _ => probe.hostEvidence lc.startTime
  | .docker _ =>
      (dockerRunning probe.inspect).map fun running =>
        if running then none else some .pidNotAlive

section Evidence

variable {probe : Probe} {lc : Lifecycle} {w : World}

/-- An operation that a probe answers, and what follows it. -/
theorem runs_answered {β : Type} {o : Op} {f : o.Res → DaemonProg β} {s s₁ s' : Round}
    {answer : Except DaemonError o.Res} {r : Except DaemonError β}
    (h : probe.exec o s = some (answer, s₁)) :
    ((Prog.call (S := daemonOps) o : DaemonProg o.Res) >>= f).Runs probe.Answers s r s' ↔
      RunsRest probe.Answers f answer s₁ r s' := by
  rw [runs_bind]
  constructor
  · rintro ⟨first, s₂, hfirst, hrest⟩
    have heq : probe.exec o s = some (first, s₂) := runs_call.mp hfirst
    rw [h] at heq
    cases heq
    exact hrest
  · intro hrest
    exact ⟨answer, s₁, runs_call.mpr h, hrest⟩

theorem runs_hostEvidence {pid : Pid} {stored : Option DateTime} {s' : Round}
    {r : Except DaemonError (Option LostEvidence)}
    (h : (hostProcessLostEvidence pid stored).Runs probe.Answers ⟨w, 0⟩ r s') :
    r = probe.hostEvidence stored ∧ s'.world = w := by
  have hfirst := (runs_answered rfl).mp h
  rw [runsRest_ok, if_pos rfl] at hfirst
  unfold hostEvidence
  cases halive : probe.alive with
  | false =>
      rw [halive, if_neg Bool.false_ne_true] at hfirst
      obtain ⟨rfl, rfl⟩ := hfirst
      exact ⟨rfl, rfl⟩
  | true =>
      rw [halive, if_pos rfl] at hfirst
      rw [if_pos rfl]
      cases stored with
      | none =>
          obtain ⟨rfl, rfl⟩ := hfirst
          exact ⟨rfl, rfl⟩
      | some stored =>
          obtain ⟨read, s₁, hread, hrest⟩ := runs_attempt_bind.mp hfirst
          have hanswer : probe.exec (.os (.startTimeForPid pid)) ⟨w, 1⟩ = some (read, s₁) :=
            runs_call.mp hread
          rw [exec, Option.some.injEq, Prod.mk.injEq] at hanswer
          obtain ⟨rfl, rfl⟩ := hanswer
          -- the second poll, where the start time is not told
          have hpoll : ∀ {p q : DaemonProg (Option LostEvidence)},
              Runs probe.Answers (os (.pidAlive pid) >>= fun alive => if alive then p else q)
                ⟨w, 1⟩ r s' →
              Runs probe.Answers (if probe.stillAlive then p else q) ⟨w, 2⟩ r s' := by
            intro p q hrun
            exact (runs_answered (o := .os (.pidAlive pid)) (s := ⟨w, 1⟩) rfl).mp hrun
          rcases hstart : probe.startTime with e | (current | _ | _)
          · rw [hstart] at hrest
            cases hstill : probe.stillAlive <;>
            · have hsecond := hpoll hrest
              rw [hstill] at hsecond
              obtain ⟨rfl, rfl⟩ := hsecond
              exact ⟨rfl, rfl⟩
          · rw [hstart] at hrest
            dsimp only at hrest ⊢
            split at hrest <;> obtain ⟨rfl, rfl⟩ := hrest
            · next heq => exact ⟨by rw [if_pos heq], rfl⟩
            · next hne => exact ⟨by rw [if_neg hne], rfl⟩
          · rw [hstart] at hrest
            obtain ⟨rfl, rfl⟩ := hrest
            exact ⟨rfl, rfl⟩
          · rw [hstart] at hrest
            cases hstill : probe.stillAlive <;>
            · have hsecond := hpoll hrest
              rw [hstill] at hsecond
              obtain ⟨rfl, rfl⟩ := hsecond
              exact ⟨rfl, rfl⟩

/-- The program that looks for evidence finds what the probe gives. -/
theorem runs_lostEvidence {r : Except DaemonError (Option LostEvidence)} {s' : Round}
    (h : (lostEvidence lc).Runs probe.Answers ⟨w, 0⟩ r s') :
    r = probe.evidence lc ∧ s'.world = w := by
  rw [lostEvidence] at h
  rw [evidence]
  cases hisolation : lc.isolation with
  | host =>
      rw [hisolation] at h
      -- a host runtime without a pid has nothing to look at
      cases hpid : lc.runtimePid with
      | none =>
          rw [hpid] at h
          obtain ⟨rfl, rfl⟩ := h
          exact ⟨rfl, rfl⟩
      | some pid =>
          rw [hpid] at h
          exact runs_hostEvidence h
  | docker profile =>
      rw [hisolation] at h
      have hrest := (runs_answered rfl).mp h
      -- what `docker inspect` answers
      cases hrunning : dockerRunning probe.inspect with
      | error e =>
          rw [hrunning] at hrest
          obtain ⟨rfl, rfl⟩ := hrest
          exact ⟨rfl, rfl⟩
      | ok running =>
          rw [hrunning, runsRest_ok] at hrest
          cases running <;> obtain ⟨rfl, rfl⟩ := hrest <;> exact ⟨rfl, rfl⟩

theorem hostEvidence_eq_some_iff {pid : Pid} (hhost : lc.isolation = .host)
    (hpid : lc.runtimePid = some pid) {found : LostEvidence} :
    probe.hostEvidence lc.startTime = .ok (some found) ↔ probe.Shows lc found := by
  unfold hostEvidence
  constructor
  · intro h
    -- a dead pid is evidence by itself; a live one only by the start of its process
    cases halive : probe.alive with
    | false =>
        rw [halive] at h
        cases h
        exact .dead pid hhost hpid halive
    | true =>
        rw [halive, if_pos rfl] at h
        cases hstored : lc.startTime with
        | none =>
            rw [hstored] at h
            cases h
        | some stored =>
            rw [hstored] at h
            rcases hread : probe.startTime with e | (current | _ | _) <;> rw [hread] at h <;>
              dsimp only at h
            -- the start could not be read, so the second look at the pid decides
            · cases hstill : probe.stillAlive <;> rw [hstill] at h <;> cases h
              exact .vanished pid stored hhost hpid hstored (.inr ⟨e, hread⟩) hstill
            · split at h
              · cases h
              · next hother =>
                  cases h
                  exact .reused pid stored current hhost hpid hstored halive hread hother
            -- the process has gone between the two looks
            · cases h
              exact .gone pid stored hhost hpid hstored hread
            · cases hstill : probe.stillAlive <;> rw [hstill] at h <;> cases h
              exact .vanished pid stored hhost hpid hstored (.inl hread) hstill
  · intro h
    cases h with
    | dead pid hhost hpid hdead => rw [hdead]; rfl
    | gone pid stored hhost hpid hstored hgone =>
        rw [hstored, hgone]
        split <;> rfl
    | vanished pid stored hhost hpid hstored hread hdead =>
        rcases hread with hread | ⟨e, hread⟩ <;> rw [hstored, hread, hdead] <;> split <;> rfl
    | reused pid stored current hhost hpid hstored halive hread hother =>
        rw [hstored, hread, halive, if_pos rfl]
        exact congrArg _ (if_neg hother)
    | stopped profile output hdocker houtput hstopped => rw [hhost] at hdocker; cases hdocker
    | absent profile output hdocker houtput habsent => rw [hhost] at hdocker; cases hdocker

theorem not_running_of_shows {output : Output} (h : output.ShowsStopped ∨ output.ShowsAbsent) :
    containerRunningFromOutput output = false := by
  rcases h with ⟨-, hstdout⟩ | ⟨hfailed, -⟩
  · rw [containerRunningFromOutput, hstdout]
    cases output.success <;> decide
  · rw [containerRunningFromOutput, hfailed]
    rfl

theorem shows_docker_iff {profile : IsolationProfile} (hdocker : lc.isolation = .docker profile)
    {found : LostEvidence} :
    probe.Shows lc found ↔ found = .pidNotAlive ∧
      ∃ output, probe.inspect = .ok output ∧ (output.ShowsStopped ∨ output.ShowsAbsent) := by
  constructor
  · intro h
    cases h with
    | stopped _ output _ houtput hstopped => exact ⟨rfl, output, houtput, .inl hstopped⟩
    | absent _ output _ houtput habsent => exact ⟨rfl, output, houtput, .inr habsent⟩
    | dead _ hhost => rw [hdocker] at hhost; cases hhost
    | gone _ _ hhost => rw [hdocker] at hhost; cases hhost
    | vanished _ _ hhost => rw [hdocker] at hhost; cases hhost
    | reused _ _ _ hhost => rw [hdocker] at hhost; cases hhost
  · rintro ⟨rfl, output, houtput, hstopped | habsent⟩
    · exact .stopped profile output hdocker houtput hstopped
    · exact .absent profile output hdocker houtput habsent

theorem Misread.not_shows (h : probe.Misread lc) (found : LostEvidence) :
    ¬probe.Shows lc found := by
  obtain ⟨profile, output, hdocker, houtput, -, hstopped, habsent⟩ := h
  rw [shows_docker_iff hdocker, houtput]
  rintro ⟨-, other, hother, hshown⟩
  cases hother
  exact hshown.elim hstopped habsent

theorem evidence_eq_some_iff {found : LostEvidence} :
    probe.evidence lc = .ok (some found) ↔ probe.Reports lc found := by
  rw [evidence, Reports]
  cases hisolation : lc.isolation with
  | host =>
      -- only the answer of Docker can be misread
      have hmisread : ¬probe.Misread lc := by
        rintro ⟨profile, output, hdocker, -⟩
        rw [hisolation] at hdocker
        cases hdocker
      rw [or_iff_left fun h => hmisread h.1]
      cases hpid : lc.runtimePid with
      | none =>
          constructor
          · intro h
            cases h
          · intro h
            cases h <;> simp_all
      | some pid => exact hostEvidence_eq_some_iff hisolation hpid
  | docker profile =>
      -- without an answer of Docker there is no evidence, only an error
      rw [shows_docker_iff hisolation, Misread, hisolation]
      cases houtput : probe.inspect with
      | error message => simp [dockerRunning, Except.map]
      | ok output =>
          have hshown := @not_running_of_shows output
          cases hrunning : containerRunningFromOutput output
          · simp only [dockerRunning, Except.map, hrunning]
            grind
          · simp only [dockerRunning, Except.map, hrunning]
            grind

theorem evidence_eq_error_iff : (∃ e, probe.evidence lc = .error e) ↔ probe.Errs lc := by
  rw [evidence, Errs]
  cases hisolation : lc.isolation with
  | host =>
      cases hpid : lc.runtimePid with
      | none => simp
      | some pid =>
          unfold hostEvidence
          cases halive : probe.alive <;> cases hstored : lc.startTime <;>
            rcases hread : probe.startTime with e | (current | _ | _) <;>
            cases hstill : probe.stillAlive <;> simp
  | docker profile =>
      cases houtput : probe.inspect <;> simp [dockerRunning, Except.map]

theorem Reports.not_fails {found : LostEvidence} (h : probe.Reports lc found) (watched : Bool) :
    ¬probe.Fails watched lc := by
  rintro (herrs | ⟨hnone, -⟩)
  · obtain ⟨e, he⟩ := evidence_eq_error_iff.mpr herrs
    rw [evidence_eq_some_iff.mpr h] at he
    cases he
  · exact hnone found h

end Evidence

end Probe

/-! ## What a round leaves -/

/-- The state of a session's lifecycle. -/
def lifecycleState (db : Database) (id : SessionId) : Option LifecycleState :=
  (db.getLifecycle id).map Lifecycle.state

/-- The rows and watchers of the other sessions are as before. -/
structure OthersKept (id : SessionId) (w w' : World) : Prop where
  row : ∀ other, other ≠ id → w'.db.getLifecycle other = w.db.getLifecycle other
  watcher : ∀ other, other ≠ id →
    w'.runtime.exitWatchers.contains other = w.runtime.exitWatchers.contains other

section Recorded

variable {probe : Probe} {lc : Lifecycle} {w : World} {n : Nat} {s' : Round}

theorem runs_finishTerminal {id : SessionId} {evidence : TerminationEvidence}
    {r : Except DaemonError (Option RuntimeEvent)}
    (h : (finishTerminal id lc evidence).Runs probe.Answers ⟨w, n⟩ r s') :
    r.isOk = true ∧ s'.world.db = w.db ∧
      s'.world.runtime.exitWatchers = w.runtime.exitWatchers.erase id := by
  rw [finishTerminal] at h
  have hremoved := (Probe.runs_answered rfl).mp h
  rw [runsRest_ok] at hremoved
  have hinserted := (Probe.runs_answered rfl).mp hremoved
  rw [runsRest_ok] at hinserted
  split at hinserted
  · have hlogged := (Probe.runs_answered rfl).mp hinserted
    obtain ⟨rfl, rfl⟩ := hlogged
    exact ⟨rfl, rfl, rfl⟩
  · obtain ⟨rfl, rfl⟩ := hinserted
    exact ⟨rfl, rfl, rfl⟩

theorem runs_recordLost (hrow : w.db.getLifecycle lc.sessionId = some lc)
    (hrunning : lc.state = .running) {evidence : LostEvidence}
    {r : Except DaemonError (Option RuntimeEvent)}
    (h : (recordLost lc.sessionId evidence).Runs probe.Answers ⟨w, n⟩ r s') :
    r.isOk = true ∧ lifecycleState s'.world.db lc.sessionId = some (.lost evidence) ∧
      OthersKept lc.sessionId w s'.world := by
  rw [recordLost] at h
  obtain ⟨result, s₁, hterminal, hrest⟩ := runs_attempt_bind.mp h
  -- the shim is forgotten, and the result of the record stands
  have hforgot := (Probe.runs_answered rfl).mp hrest
  rw [runsRest_ok, runs_ofExcept] at hforgot
  obtain ⟨rfl, rfl⟩ := hforgot
  rw [recordTerminal] at hterminal
  have hread := (Probe.runs_answered rfl).mp hterminal
  rw [runsRest_ok, hrow] at hread
  dsimp only at hread
  rw [if_pos (by rw [Lifecycle.markLost, hrunning])] at hread
  have hmarked : (lc.markLost evidence).2 = { lc with state := .lost evidence } := by
    rw [Lifecycle.markLost, hrunning]
  rw [hmarked] at hread
  -- the row was just read, so the update finds it
  obtain ⟨db, hupdate⟩ :
      ∃ db, w.db.updateLifecycle { lc with state := .lost evidence } = .ok db := by
    obtain ⟨row, hlookup, -⟩ := Option.map_eq_some_iff.mp hrow
    exact ⟨_, if_pos (Table.contains_iff.mpr ⟨row, hlookup⟩)⟩
  have hanswered : probe.exec (.store (.updateLifecycle { lc with state := .lost evidence }))
      ⟨w, n⟩ = some (.ok (), ⟨{ w with db := db }, n⟩) := by
    simp only [Probe.exec, Op.exec, StoreOp.exec, StoreOp.run, hupdate]
    rfl
  have hupdated := (Probe.runs_answered hanswered).mp hread
  rw [runsRest_ok] at hupdated
  obtain ⟨hok, hdb, hwatchers⟩ := runs_finishTerminal hupdated
  have hrows : ∀ id, s₁.world.db.getLifecycle id =
      if id = lc.sessionId then some (storedLifecycle { lc with state := .lost evidence })
      else w.db.getLifecycle id := by
    intro id
    rw [hdb]
    exact Database.getLifecycle_update hupdate id
  refine ⟨hok, ?_, ?_, ?_⟩
  · show (s₁.world.db.getLifecycle lc.sessionId).map Lifecycle.state = _
    rw [hrows, if_pos rfl]
    rfl
  · intro other hne
    exact (hrows other).trans (if_neg hne)
  · intro other hne
    show s₁.world.runtime.exitWatchers.contains other = _
    rw [hwatchers, Table.contains, Table.lookup_erase, if_neg hne]
    rfl

theorem OthersKept.refl (id : SessionId) (w : World) : OthersKept id w w :=
  ⟨fun _ _ => rfl, fun _ _ => rfl⟩

/-- The watcher of a runtime that seems to run. -/
theorem runs_startExitWatcher {pid : Pid} {r : Except DaemonError Unit}
    (hpid : lc.runtimePid = some pid)
    (h : (memory (.startExitWatcher lc.sessionId pid)).Runs probe.Answers ⟨w, n⟩ r s') :
    s'.world.db = w.db ∧ OthersKept lc.sessionId w s'.world ∧
      (r.isOk = false ↔ probe.Unwatched (w.runtime.exitWatchers.contains lc.sessionId) lc) := by
  have hexec : probe.exec (.memory (.startExitWatcher lc.sessionId pid)) ⟨w, n⟩ = some (r, s') :=
    runs_call.mp h
  rw [Probe.Unwatched, hpid]
  simp only [Probe.exec, MemoryOp.exec, MemoryOp.run] at hexec
  -- a watcher that is there already is kept
  cases hwatched : w.runtime.exitWatchers.contains lc.sessionId with
  | true =>
      simp only [hwatched, if_true, Choice.ran, Option.map_some, Option.some.injEq,
        Prod.mk.injEq] at hexec
      obtain ⟨rfl, rfl⟩ := hexec
      exact ⟨rfl, .refl _ _, by simp [Except.isOk, Except.toBool]⟩
  | false =>
      cases hstarts : probe.watcher with
      | error e =>
          simp only [hwatched, hstarts, Option.some.injEq, Prod.mk.injEq] at hexec
          obtain ⟨rfl, rfl⟩ := hexec
          exact ⟨rfl, .refl _ _, by simp [Except.isOk, Except.toBool]⟩
      | ok started =>
          simp only [hwatched, hstarts, Bool.false_eq_true, if_false, Choice.ran, Option.map_some,
            Option.some.injEq, Prod.mk.injEq] at hexec
          obtain ⟨rfl, rfl⟩ := hexec
          refine ⟨rfl, ⟨fun _ _ => rfl, fun other hne => ?_⟩, by simp [Except.isOk, Except.toBool]⟩
          show (Table.upsert _ _ _).contains other = _
          rw [Table.contains, Table.lookup_upsert, if_neg hne]
          rfl

theorem runs_reconcileRunning (hrow : w.db.getLifecycle lc.sessionId = some lc)
    (hrunning : lc.state = .running) {r : Except DaemonError Unit}
    (h : (reconcileRunning lc).Runs probe.Answers ⟨w, 0⟩ r s') :
    OthersKept lc.sessionId w s'.world ∧
      (r.isOk = false ↔ probe.Fails (w.runtime.exitWatchers.contains lc.sessionId) lc) ∧
      ∀ evidence, lifecycleState s'.world.db lc.sessionId = some (.lost evidence) ↔
        probe.Reports lc evidence := by
  rw [reconcileRunning] at h
  obtain ⟨found, s₁, hfound, hrest⟩ := runs_bind.mp h
  obtain ⟨rfl, rfl⟩ := Probe.runs_lostEvidence hfound
  have hstate : lifecycleState s₁.world.db lc.sessionId = some .running := by
    rw [lifecycleState, hrow]
    exact congrArg some hrunning
  have hreports : ∀ evidence, probe.Reports lc evidence ↔ probe.evidence lc = .ok (some evidence) :=
    fun _ => Probe.evidence_eq_some_iff.symm
  rw [Probe.Fails, ← Probe.evidence_eq_error_iff]
  simp only [hreports]
  cases hevidence : probe.evidence lc with
  | error e =>
      rw [hevidence] at hrest
      obtain ⟨rfl, rfl⟩ := hrest
      refine ⟨.refl _ _, ?_, ?_⟩
      · exact ⟨fun _ => .inl ⟨e, rfl⟩, fun _ => rfl⟩
      · intro evidence
        simp [hstate]
  | ok found =>
      rw [hevidence, runsRest_ok] at hrest
      cases found with
      | some evidence =>
          obtain ⟨first, s₂, hlost, hend⟩ := runs_bind.mp hrest
          obtain ⟨hok, hrecorded, hothers⟩ := runs_recordLost hrow hrunning hlost
          cases first with
          | error e => cases hok
          | ok event =>
              obtain ⟨rfl, rfl⟩ := hend
              refine ⟨hothers, ?_, ?_⟩
              · simp [Except.isOk, Except.toBool]
              · intro evidence'
                rw [hrecorded]
                simp
      | none =>
          -- nothing is recorded: only starting the watcher can fail
          cases hpid : lc.runtimePid with
          | none =>
              rw [hpid] at hrest
              obtain ⟨rfl, rfl⟩ := hrest
              refine ⟨.refl _ _, ?_, ?_⟩
              · simp [Except.isOk, Except.toBool, Probe.Unwatched, hpid]
              · simp [hstate]
          | some pid =>
              rw [hpid] at hrest
              obtain ⟨hdb, hothers, hwatched⟩ := runs_startExitWatcher hpid hrest
              refine ⟨hothers, ?_, ?_⟩
              · rw [hwatched]
                simp
              · intro evidence
                rw [hdb, hstate]
                simp

end Recorded

/-! ## The sweep -/

/-- The round of a lifecycle with its own probe. -/
def ReconcileRound (probes : SessionId → Probe) (lc : Lifecycle) (w : World)
    (r : Except DaemonError Unit) (w' : World) : Prop :=
  ∃ polls, (reconcileRunning lc).Runs (probes lc.sessionId).Answers ⟨w, 0⟩ r ⟨w', polls⟩

/-- `reconcile_once`: the rounds over the running lifecycles, in the order in which the
store lists them, and the record of the sweep. -/
def ReconcileOnce (probes : SessionId → Probe) (running : List Lifecycle) (w : World)
    (r : Except DaemonError Unit) (w' : World) : Prop :=
  running.Perm w.db.runningLifecycles ∧
    ∃ first w₁, Rounds (ReconcileRound probes) running w first w₁ ∧
      RunsRest (fun w (o : Op) r w' => o.exec .run w = some (r, w'))
        (fun _ => (store .recordProbeSweep : DaemonProg Unit)) first w₁ r w'

/-- The round of the lifecycle would end with an error in this world. -/
def FailsIn (probes : SessionId → Probe) (w : World) (lc : Lifecycle) : Prop :=
  (probes lc.sessionId).Fails (w.runtime.exitWatchers.contains lc.sessionId) lc

section Sweep

variable {probes : SessionId → Probe} {running : List Lifecycle} {w w' : World}
  {r : Except DaemonError Unit}

/-- The rounds over distinct running lifecycles: one is lost afterwards when no round
before it failed and its own probe reported evidence. -/
theorem rounds_lost (hnodup : (running.map Lifecycle.sessionId).Nodup)
    (hrows : ∀ lc ∈ running, lc.state = .running ∧ w.db.getLifecycle lc.sessionId = some lc)
    (h : Rounds (ReconcileRound probes) running w r w') :
    (∀ id, id ∉ running.map Lifecycle.sessionId →
      w'.db.getLifecycle id = w.db.getLifecycle id) ∧
    ∀ before lc behind, running = before ++ lc :: behind →
      ∀ evidence, lifecycleState w'.db lc.sessionId = some (.lost evidence) ↔
        (∀ x ∈ before, ¬FailsIn probes w x) ∧ (probes lc.sessionId).Reports lc evidence := by
  induction running generalizing w with
  | nil =>
      obtain ⟨-, rfl⟩ := h
      refine ⟨fun _ _ => rfl, fun before lc behind heq => ?_⟩
      exact absurd heq (by simp)
  | cons lc rest ih =>
      obtain ⟨first, w₁, ⟨polls, hround⟩, hrest⟩ := h
      obtain ⟨hrunning, hrow⟩ := hrows lc List.mem_cons_self
      obtain ⟨hothers, hfails, hlost⟩ := runs_reconcileRunning hrow hrunning hround
      rw [List.map_cons, List.nodup_cons] at hnodup
      have hne : ∀ x ∈ rest, x.sessionId ≠ lc.sessionId := by
        intro x hx heq
        exact hnodup.1 (heq ▸ List.mem_map_of_mem hx)
      cases first with
      | error e =>
          -- the sweep ends here: the rows behind are as they were, running
          obtain ⟨rfl, rfl⟩ := hrest
          have hfailed : FailsIn probes w lc := hfails.mp rfl
          refine ⟨fun id hid => hothers.row id ?_, ?_⟩
          · exact fun heq => hid (heq ▸ List.mem_cons_self)
          · intro before lc' behind heq evidence
            cases before with
            | nil =>
                cases heq
                rw [hlost]
                simp
            | cons x before =>
                cases heq
                have hmem : lc' ∈ before ++ lc' :: behind := by simp
                obtain ⟨hrunning', hrow'⟩ := hrows lc' (List.mem_cons_of_mem _ hmem)
                rw [lifecycleState, hothers.row _ (hne lc' hmem), hrow']
                simp [hrunning', hfailed]
      | ok u =>
          -- the round leaves the other rows and watchers, so the rest meets the hypotheses
          have hpassed : ¬FailsIn probes w lc := by
            intro hfailed
            cases hfails.mpr hfailed
          have hrows₁ : ∀ x ∈ rest, x.state = .running ∧
              w₁.db.getLifecycle x.sessionId = some x := by
            intro x hx
            obtain ⟨hrunning', hrow'⟩ := hrows x (List.mem_cons_of_mem _ hx)
            exact ⟨hrunning', (hothers.row _ (hne x hx)).trans hrow'⟩
          have hsame : ∀ x ∈ rest, (FailsIn probes w₁ x ↔ FailsIn probes w x) := by
            intro x hx
            rw [FailsIn, FailsIn, hothers.watcher _ (hne x hx)]
          obtain ⟨hkept, hspec⟩ := ih hnodup.2 hrows₁ hrest
          refine ⟨?_, ?_⟩
          · intro id hid
            rw [List.map_cons, List.mem_cons, not_or] at hid
            rw [hkept id hid.2, hothers.row id hid.1]
          · intro before lc' behind heq evidence
            cases before with
            | nil =>
                cases heq
                have hfirst : lifecycleState w'.db lc.sessionId =
                    lifecycleState w₁.db lc.sessionId := congrArg _ (hkept _ hnodup.1)
                rw [hfirst, hlost]
                simp
            | cons x before =>
                cases heq
                rw [hspec before lc' behind rfl evidence, List.forall_mem_cons]
                have hbefore : (∀ x ∈ before, ¬FailsIn probes w₁ x) ↔
                    ∀ x ∈ before, ¬FailsIn probes w x :=
                  forall₂_congr fun x hx => not_congr (hsame x (List.mem_append_left _ hx))
                rw [hbefore]
                simp [hpassed]

theorem nodup_runningLifecycles (db : Database) :
    (db.runningLifecycles.map Lifecycle.sessionId).Nodup := by
  rw [Database.runningLifecycles, List.map_map]
  exact db.lifecycles.nodup.sublist (List.filter_sublist.map Prod.fst)

/-- A session that was not lost before is lost for this reason. -/
def RecordedLost (db db' : Database) (id : SessionId) (evidence : LostEvidence) : Prop :=
  (∀ earlier, lifecycleState db id ≠ some (.lost earlier)) ∧
    lifecycleState db' id = some (.lost evidence)

/-- The sweep as its rounds. -/
theorem ReconcileOnce.rounds (h : ReconcileOnce probes running w r w') :
    ∃ first w₁, Rounds (ReconcileRound probes) running w first w₁ ∧ w'.db = w₁.db := by
  obtain ⟨-, first, w₁, hrounds, hrest⟩ := h
  refine ⟨first, w₁, hrounds, ?_⟩
  cases first with
  | error e => rw [hrest.2]
  | ok u =>
      rw [runsRest_ok] at hrest
      obtain ⟨answer, w₂, hstep, hend⟩ := hrest
      cases hstep
      obtain ⟨-, rfl⟩ := hend
      rfl

theorem ReconcileOnce.nodup (h : ReconcileOnce probes running w r w') :
    (running.map Lifecycle.sessionId).Nodup :=
  (h.1.map _).nodup_iff.mpr (nodup_runningLifecycles w.db)

theorem ReconcileOnce.row (h : ReconcileOnce probes running w r w') :
    ∀ lc ∈ running, lc.state = .running ∧ w.db.getLifecycle lc.sessionId = some lc :=
  fun _ hlc => Database.mem_runningLifecycles.mp (h.1.mem_iff.mp hlc)

/-- What a sweep records as lost. -/
theorem recordedLost_iff (h : ReconcileOnce probes running w r w') {before behind : List Lifecycle}
    {lc : Lifecycle} (heq : running = before ++ lc :: behind) (evidence : LostEvidence) :
    RecordedLost w.db w'.db lc.sessionId evidence ↔
      (∀ x ∈ before, ¬FailsIn probes w x) ∧ (probes lc.sessionId).Reports lc evidence := by
  obtain ⟨first, w₁, hrounds, hdb⟩ := h.rounds
  obtain ⟨hrunning, hrow⟩ := h.row lc (by rw [heq]; simp)
  rw [RecordedLost, hdb, (rounds_lost h.nodup h.row hrounds).2 before lc behind heq evidence]
  refine and_iff_right fun earlier hearlier => ?_
  rw [lifecycleState, hrow] at hearlier
  cases hrunning.symm.trans (Option.some.inj hearlier)

/-- Only running lifecycles are recorded. -/
theorem mem_of_recordedLost (h : ReconcileOnce probes running w r w') {id : SessionId}
    {evidence : LostEvidence} (hlost : RecordedLost w.db w'.db id evidence) :
    ∃ lc ∈ running, lc.sessionId = id := by
  obtain ⟨first, w₁, hrounds, hdb⟩ := h.rounds
  by_cases hid : id ∈ running.map Lifecycle.sessionId
  · exact List.mem_map.mp hid
  · have hafter := hlost.2
    rw [hdb, lifecycleState, (rounds_lost h.nodup h.row hrounds).1 id hid] at hafter
    exact absurd hafter (hlost.1 evidence)

/-! ### Sweeps and the program -/

/-- The operations that a probe answers in every round. -/
def Probe.Covers (probe : Probe) (o : Op) : Prop :=
  ∀ s, ∃ answer s', probe.Answers s o answer s'

section Covers

variable {probe : Probe}

theorem covers_startExitWatcher (id : SessionId) (pid : Pid) :
    probe.Covers (.memory (.startExitWatcher id pid)) := by
  intro s
  show ∃ answer s', probe.exec (.memory (.startExitWatcher id pid)) s = some (answer, s')
  simp only [Probe.exec, MemoryOp.exec, MemoryOp.run]
  cases s.world.runtime.exitWatchers.contains id <;> cases probe.watcher <;> exact ⟨_, _, rfl⟩

theorem calls_hostProcessLostEvidence (pid : Pid) (stored : Option DateTime) :
    (hostProcessLostEvidence pid stored).Calls probe.Covers := by
  have hpoll : probe.Covers (.os (.pidAlive pid)) := fun _ => ⟨_, _, rfl⟩
  have hread : probe.Covers (.os (.startTimeForPid pid)) := fun _ => ⟨_, _, rfl⟩
  refine calls_bind (calls_call hpoll) fun alive => ?_
  split
  · cases stored with
    | none => trivial
    | some stored =>
        refine calls_bind (calls_attempt (calls_call hread)) fun read => ?_
        rcases read with e | (current | _ | _)
        · refine calls_bind (calls_call hpoll) fun alive => ?_
          split <;> trivial
        · dsimp only
          split <;> trivial
        · trivial
        · refine calls_bind (calls_call hpoll) fun alive => ?_
          split <;> trivial
  · trivial

theorem calls_lostEvidence (lc : Lifecycle) : (lostEvidence lc).Calls probe.Covers := by
  rw [lostEvidence]
  split
  · split
    · trivial
    · exact calls_hostProcessLostEvidence _ _
  · refine calls_bind (calls_call fun _ => ⟨_, _, rfl⟩) fun running => ?_
    split <;> trivial

theorem calls_recordLost (id : SessionId) (evidence : LostEvidence) :
    (recordLost id evidence).Calls probe.Covers := by
  refine calls_bind (calls_attempt ?_) fun result =>
    calls_bind (calls_call fun _ => ⟨_, _, rfl⟩) fun _ => calls_ofExcept result
  refine calls_bind (calls_call fun _ => ⟨_, _, rfl⟩) fun found => ?_
  split
  · trivial
  · split
    · refine calls_bind (calls_call fun _ => ⟨_, _, rfl⟩) fun _ => ?_
      refine calls_bind (calls_call fun _ => ⟨_, _, rfl⟩) fun _ => ?_
      refine calls_bind (calls_call fun _ => ⟨_, _, rfl⟩) fun entered => ?_
      split
      · exact calls_bind (calls_call fun _ => ⟨_, _, rfl⟩) fun _ => trivial
      · trivial
    · trivial

theorem calls_reconcileRunning (lc : Lifecycle) : (reconcileRunning lc).Calls probe.Covers := by
  refine calls_bind (calls_lostEvidence lc) fun found => ?_
  split
  · exact calls_bind (calls_recordLost _ _) fun _ => trivial
  · split
    · trivial
    · exact calls_call (covers_startExitWatcher _ _)

end Covers

theorem exists_reconcileRound (probes : SessionId → Probe) (lc : Lifecycle) (w : World) :
    ∃ r w', ReconcileRound probes lc w r w' := by
  have hcalls : (reconcileRunning lc).Calls (probes lc.sessionId).Covers :=
    calls_reconcileRunning lc
  obtain ⟨r, ⟨w', polls⟩, hrun⟩ := hcalls.exists_runs (fun _ h => h) ⟨w, 0⟩
  exact ⟨r, w', polls, hrun⟩

/-- Whatever the probes find, the sweep ends. -/
theorem exists_reconcileOnce (probes : SessionId → Probe)
    (hperm : running.Perm w.db.runningLifecycles) :
    ∃ r w', ReconcileOnce probes running w r w' := by
  obtain ⟨first, w₁, hrounds⟩ := exists_rounds (exists_reconcileRound probes) running w
  cases first with
  | error e => exact ⟨.error e, w₁, hperm, .error e, w₁, hrounds, rfl, rfl⟩
  | ok u => exact ⟨.ok (), w₁, hperm, .ok u, w₁, hrounds, .ok (), w₁, rfl, rfl, rfl⟩

/-- Some probe answers. -/
def Probed (w : World) (o : Op) (r : Except DaemonError o.Res) (w' : World) : Prop :=
  ∃ (probe : Probe) (polls polls' : Nat), probe.Answers ⟨w, polls⟩ o r ⟨w', polls'⟩

/-- A sweep over the lifecycles as the store lists them is a run of the program. -/
theorem ReconcileOnce.runs (h : ReconcileOnce probes w.db.runningLifecycles w r w') :
    reconcileOnce.Runs Probed w r w' := by
  obtain ⟨-, first, w₁, hrounds, hrest⟩ := h
  rw [reconcileOnce, runs_bind]
  refine ⟨.ok w.db.runningLifecycles, w, ?_, ?_⟩
  · exact runs_call.mpr ⟨(probes ⟨0⟩), 0, 0, rfl⟩
  · rw [runsRest_ok, runs_bind]
    refine ⟨first, w₁, runs_forEach.mpr (hrounds.mono ?_), ?_⟩
    · rintro lc w r w' ⟨polls, hrun⟩
      exact hrun.image (f := Round.world) fun s o answer s' hanswer =>
        ⟨_, s.polls, s'.polls, hanswer⟩
    · cases first with
      | error e => exact hrest
      | ok u =>
          obtain ⟨answer, w₂, hstep, hend⟩ := hrest
          cases hstep
          exact ⟨.ok (), w₁, ⟨(probes ⟨0⟩), 0, 0, rfl⟩, hend⟩

/-- A sweep records exactly what the probes show when no container it reaches is misread
and nothing lies behind the first round that fails. -/
theorem reconcileOnce_isolated_iff (probes : SessionId → Probe) (running : List Lifecycle)
    (w : World) (r : Except DaemonError Unit) (w' : World)
    (h : ReconcileOnce probes running w r w') :
    (∀ id evidence, RecordedLost w.db w'.db id evidence ↔
      ∃ lc ∈ running, lc.sessionId = id ∧ (probes id).Shows lc evidence) ↔
    ∀ before lc behind, running = before ++ lc :: behind →
      ((∀ x ∈ before, ¬FailsIn probes w x) → ¬(probes lc.sessionId).Misread lc) ∧
      ((∃ x ∈ before, FailsIn probes w x) →
        ∀ evidence, ¬(probes lc.sessionId).Shows lc evidence) := by
  constructor
  · rintro hexact before lc behind rfl
    have hmem : lc ∈ before ++ lc :: behind := by simp
    -- exact records forbid a misread container that is reached
    constructor
    · intro hreached hmisread
      have hlost := (recordedLost_iff h rfl .pidNotAlive).mpr
        ⟨hreached, .inr ⟨hmisread, rfl⟩⟩
      obtain ⟨lc', hlc', hid, hshows⟩ := (hexact _ _).mp hlost
      obtain rfl := List.inj_on_of_nodup_map h.nodup hlc' hmem hid
      exact hmisread.not_shows _ hshows
    -- and a lost runtime behind a failing one, which is never reached
    · rintro ⟨x, hx, hfailed⟩ evidence hshows
      have hlost := (hexact lc.sessionId evidence).mpr ⟨lc, hmem, rfl, hshows⟩
      exact ((recordedLost_iff h rfl evidence).mp hlost).1 x hx hfailed
  · intro hcondition id evidence
    constructor
    -- what was recorded was reached and showed it, since nothing reached is misread
    · intro hlost
      obtain ⟨lc, hlc, rfl⟩ := mem_of_recordedLost h hlost
      obtain ⟨before, behind, heq⟩ := List.append_of_mem hlc
      obtain ⟨hreached, hshows | ⟨hmisread, -⟩⟩ := (recordedLost_iff h heq evidence).mp hlost
      · exact ⟨lc, hlc, rfl, hshows⟩
      · exact absurd hmisread ((hcondition before lc behind heq).1 hreached)
    -- what shows it is recorded, since it is reached
    · rintro ⟨lc, hlc, rfl, hshows⟩
      obtain ⟨before, behind, heq⟩ := List.append_of_mem hlc
      refine (recordedLost_iff h heq evidence).mpr ⟨fun x hx hfailed => ?_, .inl hshows⟩
      exact (hcondition before lc behind heq).2 ⟨x, hx, hfailed⟩ evidence hshows

end Sweep

/-! ### A sweep over three lifecycles -/

/-- A lifecycle that runs. -/
def sampleRunning (id : SessionId) (isolation : IsolationPolicy) : Lifecycle where
  sessionId := id
  runtime := .claude
  isolation := isolation
  state := .running
  shimPid := some 40
  runtimePid := some 41
  startTime := some 0
  tmuxPane := none
  logAvailability := none

/-- Two containers and a host process. -/
def mixedRunning : List Lifecycle :=
  [sampleRunning ⟨1⟩ (.docker ⟨none⟩), sampleRunning ⟨2⟩ (.docker ⟨none⟩), sampleRunning ⟨3⟩ .host]

/-- A store with lifecycles of all kinds. -/
def mixedWorld : World :=
  { World.fresh 0 with
    db := { Database.migrated 0 with
      lifecycles :=
        mixedRunning.foldl (fun t lc => t.insert lc.sessionId (lifecycleRow lc)) .empty } }

/-- The pid is gone, and `docker inspect` came to this. -/
def deadProbe (inspect : Except String Output) : Probe where
  alive := false
  startTime := .ok .gone
  stillAlive := false
  inspect := inspect
  watcher := .ok ()

/-- The Docker daemon lets the first call in and refuses it; then the command is gone. -/
def refusedProbes (id : SessionId) : Probe :=
  if id = ⟨1⟩ then deadProbe (.ok ⟨false, [], encode "permission denied".toList⟩)
  else deadProbe (.error "No such file or directory")

/-- The first container is absent and the second one stopped. -/
def settledProbes (id : SessionId) : Probe :=
  if id = ⟨1⟩ then deadProbe (.ok ⟨false, [], encode "Error: No such container: a".toList⟩)
  else deadProbe (.ok ⟨true, encode "false\n".toList, []⟩)

theorem settledProbes_shows :
    ∀ lc ∈ mixedRunning, (settledProbes lc.sessionId).Shows lc .pidNotAlive := by
  intro lc hlc
  simp only [mixedRunning, List.mem_cons, List.not_mem_nil, or_false] at hlc
  rcases hlc with rfl | rfl | rfl
  · refine .absent _ _ rfl rfl ⟨rfl, ?_⟩
    rw [fromUtf8Lossy_encode]
    exact ⟨"Error: ".toList, ": a".toList, rfl⟩
  · refine .stopped _ _ rfl rfl ⟨rfl, ?_⟩
    rw [fromUtf8Lossy_encode]
    rfl
  · exact .dead 41 rfl rfl rfl

theorem reconcileOnce_isolated_settled :
    ∃ r w', ReconcileOnce settledProbes mixedRunning mixedWorld r w' ∧
      ∀ id evidence, RecordedLost mixedWorld.db w'.db id evidence ↔
        ∃ lc ∈ mixedRunning, lc.sessionId = id ∧ (settledProbes id).Shows lc evidence := by
  have hperm : mixedRunning.Perm mixedWorld.db.runningLifecycles := .of_eq rfl
  obtain ⟨r, w', h⟩ := exists_reconcileOnce settledProbes hperm
  refine ⟨r, w', h, (reconcileOnce_isolated_iff _ _ _ r w' h).mpr ?_⟩
  intro before lc behind heq
  have hshows : ∀ x ∈ before ++ lc :: behind,
      (settledProbes x.sessionId).Shows x .pidNotAlive := heq ▸ settledProbes_shows
  constructor
  · intro _ hmisread
    exact hmisread.not_shows _ (hshows lc (by simp))
  · rintro ⟨x, hx, hfailed⟩
    exact absurd hfailed (Probe.Reports.not_fails (.inl (hshows x (by simp [hx]))) _)

/-- A container that may well run is recorded as lost; a process that is dead is not, for
the command that fails before its round. -/
theorem reconcileOnce_not_isolated :
    ∃ r w', ReconcileOnce refusedProbes mixedRunning mixedWorld r w' ∧
      ¬(RecordedLost mixedWorld.db w'.db ⟨1⟩ .pidNotAlive ↔
        ∃ lc ∈ mixedRunning, lc.sessionId = ⟨1⟩ ∧ (refusedProbes ⟨1⟩).Shows lc .pidNotAlive) ∧
      ¬(RecordedLost mixedWorld.db w'.db ⟨3⟩ .pidNotAlive ↔
        ∃ lc ∈ mixedRunning, lc.sessionId = ⟨3⟩ ∧ (refusedProbes ⟨3⟩).Shows lc .pidNotAlive) := by
  have hperm : mixedRunning.Perm mixedWorld.db.runningLifecycles := .of_eq rfl
  obtain ⟨r, w', h⟩ := exists_reconcileOnce refusedProbes hperm
  -- Docker refuses the answer, and the text is read as a stopped container
  have hmisread : (refusedProbes ⟨1⟩).Misread (sampleRunning ⟨1⟩ (.docker ⟨none⟩)) := by
    refine ⟨_, _, rfl, rfl, rfl, fun hstopped => ?_, fun habsent => ?_⟩
    · cases hstopped.1
    · have hstderr := habsent.2
      simp only [fromUtf8Lossy_encode, String.reduceToList] at hstderr
      exact absurd hstderr (by decide)
  refine ⟨r, w', h, fun hexact => ?_, fun hexact => ?_⟩
  -- the misread container is the first, so it is reached
  · have hfirst : mixedRunning = [] ++ sampleRunning ⟨1⟩ (.docker ⟨none⟩) :: mixedRunning.tail :=
      rfl
    have hlost := (recordedLost_iff h hfirst .pidNotAlive).mpr ⟨by simp, .inr ⟨hmisread, rfl⟩⟩
    obtain ⟨lc, hlc, hid, hshows⟩ := hexact.mp hlost
    obtain rfl := List.inj_on_of_nodup_map h.nodup hlc (List.mem_cons_self ..) hid
    exact hmisread.not_shows _ hshows
  · have hlost := hexact.mpr ⟨sampleRunning ⟨3⟩ .host, by simp [mixedRunning], rfl,
      .dead 41 rfl rfl rfl⟩
    -- the lost host runtime is the last, behind a probe that fails
    have hlast : mixedRunning = mixedRunning.take 2 ++ [sampleRunning ⟨3⟩ .host] := rfl
    have hreached := ((recordedLost_iff h hlast _).mp hlost).1
    refine hreached (sampleRunning ⟨2⟩ (.docker ⟨none⟩)) (by simp [mixedRunning]) (.inl ?_)
    exact .inr (.inr ⟨by simp [sampleRunning], _, rfl⟩)

end LittleOrgans.Concurrency
