import LittleOrgans.Concurrency.EventConsumption
import LittleOrgans.Concurrency.ReadyPaths

/-!
# Running sessions of ended runtimes

With the traces of each end and what the event loop has consumed, no session runs on whose
runtime has ended, once the daemon is quiet (`no_zombie_session`).

A second transaction that writes its lifecycle over one that has ended inserts such a
session. Nothing takes it up again: its end has been entered, consumed and reaped
(`revived_session_stays_running`).
-/

set_option autoImplicit false

namespace LittleOrgans.Concurrency

open LittleOrgans.Core
open LittleOrgans.Library
open LittleOrgans.Library.Pool
open LittleOrgans.Store
open LittleOrgans.Daemon
open LittleOrgans.Session (endFacts EndFacts)

/-! ## Runs -/

/-- What the runs say of each world and thread. -/
theorem traces : Pool.Invariant traced endsStand fun w minds =>
    (TraceBase w minds ∧ EndsTraced w minds) ∧ Consumption w minds :=
  (traceBase.and endsTraced).and consumption

theorem traces_fresh (createdAt : DateTime) :
    (TraceBase (.fresh createdAt) (fun _ => none) ∧ EndsTraced (.fresh createdAt) fun _ => none) ∧
      Consumption (.fresh createdAt) fun _ => none := by
  have hnumbered : (World.fresh createdAt).log.Numbered :=
    ⟨Nat.one_pos, fun entry hmem => by cases hmem⟩
  refine ⟨⟨⟨settled_fresh createdAt, ?_⟩, ?_⟩, ?_⟩
  · exact ⟨fun _ _ _ _ _ hmind => (by cases hmind), fun _ _ hrow => by cases hrow⟩
  · refine ⟨fun _ _ hrow => (by cases hrow), fun _ hid => (by cases hid),
      fun _ hkey => (by cases hkey), fun id htraced => ?_⟩
    rcases htraced with hid | ⟨_, _, _, hmind, -⟩ | ⟨_, hmem, -⟩
    · cases hid
    · cases hmind
    · cases hmem
  · refine ⟨hnumbered, consumed_none hnumbered, fun _ hloop => ?_,
      fun _ _ _ _ _ _ hmind => (by cases hmind), fun _ _ _ _ _ _ hmind => by cases hmind⟩
    rcases hloop with hloop | hloop <;> cases hloop

/-! ## A quiet daemon -/

/-- A pass that is made now ends well and changes nothing. -/
def ChangesNothing (pass : DaemonProg Unit) (w : World) : Prop := pass.Runs Answers w (.ok ()) w

/-- No program is under way, the event loop has consumed the whole log, and full passes of the
reaper and of the reconciler change nothing. -/
structure QuietDaemon (c : Pool traced) : Prop where
  threads : c.Quiescent
  consumed : ∃ cursor, c.shared.loop = .idle cursor ∧ (c.shared.log.eventsSince cursor).events = []
  reaped : ChangesNothing refreshExits c.shared
  reconciled : ChangesNothing reconcileOnce c.shared

/-- No thread of a quiet daemon records an end. -/
theorem QuietDaemon.not_records {c : Pool traced} (h : QuietDaemon c) (hconforming : c.Conforming)
    (id : SessionId) : ¬Somewhere c.minds fun χ => χ.2.Records id := by
  rintro ⟨t, origin, χ, hmind, hrecords⟩
  obtain ⟨_, -, hrest⟩ := hconforming.post_of_quiescent h.threads hmind
  have hrest : χ.2 = .rest := hrest
  rw [hrest] at hrecords
  rcases hrecords with hrecords | hrecords <;> cases hrecords

/-- No zombie session: in every run in which no lifecycle that has not ended is written over one
that has, a session that runs once the daemon is quiet has a lifecycle that has not ended. -/
theorem no_zombie_session {createdAt : DateTime} {c : Pool traced}
    (hreach : Pool.Reaches endsStand (.initial traced (.fresh createdAt)) c)
    (hquiet : QuietDaemon c) {id : SessionId} {row : SessionRow}
    (hrow : c.shared.db.sessions.lookup id = some row) (hrunning : row.state = .running) :
    ∃ lc, c.shared.db.getLifecycle id = some lc ∧ lc.state.isTerminal = false := by
  obtain ⟨hconforming, -, ⟨⟨-, hprepared⟩, hends⟩, hconsumption⟩ :=
    Pool.Reaches.invariant traces (Pool.holds_initial (traces_fresh createdAt)) hreach
  have hrests := hquiet.not_records hconforming id
  obtain ⟨lc, hlc⟩ := Option.ne_none_iff_exists'.mp (hprepared.sessions id row hrow)
  refine ⟨lc, hlc, Bool.eq_false_iff.mpr fun hterminal => ?_⟩
  -- The end was entered, and its event is in the log.
  have hentered : id ∈ c.shared.runtime.terminatedEvents := by
    refine (hends.entered id lc hlc hterminal).resolve_right ?_
    rintro ⟨t, origin, χ, hmind, hχ⟩
    exact hrests ⟨t, origin, χ, hmind, .inl hχ⟩
  obtain ⟨entry, hmem, hreports, hid⟩ : c.shared.log.Reports id := by
    refine (hends.appended id hentered).resolve_right ?_
    rintro ⟨t, origin, χ, hmind, hχ⟩
    exact hrests ⟨t, origin, χ, hmind, .inr hχ⟩
  -- The event loop is past that event.
  obtain ⟨cursor, hidle, hbehind⟩ := hquiet.consumed
  have hseq : entry.seq ≤ cursor.getD 0 := by
    refine Nat.le_of_not_lt fun hlt => ?_
    have hfiltered := List.map_eq_nil_iff.mp hbehind
    exact List.filter_eq_nil_iff.mp hfiltered entry hmem (decide_eq_true hlt)
  have hover := ((hconsumption.loop cursor (.inr hidle)).ends entry hmem hseq hreports).resolve_left
    List.not_mem_nil
  rw [hid] at hover
  have hended : row.state.isActive = false :=
    hover (.ofRow row) (by rw [endFacts, hrow, Option.map_some])
  rw [hrunning] at hended
  cases hended

/-! ## A spawn that commits in time, and one that commits too late -/

/-- A pass over the daemon, alone. -/
def passed (pass : DaemonProg Unit) (choices : List Choice) (w : World) :
    Option (Except DaemonError Unit × World) :=
  pass.replay (fun (choice : Choice) o w => Op.exec choice w o) choices w

theorem changesNothing_of_passed {pass : DaemonProg Unit} {choices : List Choice} {w : World}
    (h : passed pass choices w = some (.ok (), w)) : ChangesNothing pass w :=
  Prog.runs_of_replay (fun hexec => ⟨_, hexec⟩) h

/-- The event loop starts, as thread `t`. -/
def loopRun (t : Nat) : List (Label daemon) := .start .startEventLoop :: ran t 2

/-- A round of the event loop, as thread `t`. -/
def roundRun (t : Nat) (now : DateTime) : List (Label daemon) :=
  .start .eventLoopRound :: ran t 2 ++ [.run t (.time now), .run t .run]

/-- A spawn that has committed, and a round of the event loop behind it. -/
def runningRun : List (Label daemon) :=
  bootRun ++ launchRun ++ childRun ++ readyRun ++ beforeCommitRun ++
    [.run 1 (.time 7), .run 1 .run] ++ loopRun 4 ++ roundRun 5 8

def otherCall : SpawnCall where
  intent :=
    { sessionId := ⟨2⟩
      operationId := ⟨8⟩
      spawnRequest := ⟨⟨2⟩, .claude, .host, .headless, false⟩
      sessionDraft := ⟨⟨2⟩, .claude, "reviewer", "/work", "default", "/work", [], none, 0⟩
      createdAt := 0 }
  wellFormed := by decide

/-- A second spawn, as thread 6, whose shim reports as threads 7 and 8. -/
def otherRun : List (Label daemon) :=
  .start (.spawn otherCall) :: ran 6 9 ++ [.run 6 (.launch 50 none)] ++
    .start (.shimLaunch ⟨2⟩) :: ran 7 2 ++ [.env (.childStarts ⟨2⟩ 51 4)] ++
    .start (.shimReady ⟨⟨2⟩, 50, 51, 4, none⟩) :: ran 8 3 ++ ran 6 2 ++
    [.run 6 (.logs .unavailable)] ++ ran 6 3 ++ [.run 6 (.time 9), .run 6 (.time 9)] ++ ran 6 2 ++
    [.run 6 (.time 9), .run 6 .run]

/-- The first runtime exits. Its exit is recorded, consumed and reaped. -/
def endedRun : List (Label daemon) :=
  [.env (.childEnds sampleId ⟨some 0, none⟩), .start (.shimExit ⟨sampleId, ⟨some 0, none⟩⟩)] ++
    ran 9 6 ++ roundRun 10 11 ++
    [.start .refreshExits, .run 11 .run, .run 11 (.logs .unavailable),
      .run 11 (.logs .unavailable), .run 11 .run, .run 11 (.time 12)]

/-- The runtime exits before the second transaction. Its exit is recorded, consumed and reaped. -/
def consumedRun : List (Label daemon) :=
  bootRun ++ launchRun ++ childRun ++ readyRun ++ beforeCommitRun ++ exitRun ++ ran 4 4 ++
    loopRun 5 ++ roundRun 6 8 ++
    [.start .refreshExits, .run 7 .run, .run 7 (.logs .unavailable), .run 7 .run, .run 7 (.time 9)]

/-- Then the spawn commits. The reconciler finds the runtime gone. -/
def revivedRun : List (Label daemon) :=
  [.run 1 (.time 10), .run 1 .run] ++ roundRun 8 11 ++
    [.start .reconcileOnce, .run 9 .run, .run 9 (.flag false)] ++ ran 9 6

/-- No operation fails, and the daemon does not crash. -/
def faultless : Condition traced where
  op _ choice _ _ := choice.fails = false
  crash _ := False

instance : faultless.Checkable where
  op _ choice _ _ := inferInstanceAs (Decidable (choice.fails = false))
  start _ _ := .isTrue trivial
  env _ _ := .isTrue trivial
  crash _ := .isFalse id

/-- Of two sessions, the first ends and the second runs on, as its runtime does, once the daemon
is quiet. -/
theorem no_zombie_session_endedRun :
    ∃ c₀ c ended row lc, (Pool.initial traced (.fresh 0)).follow endsStand runningRun = some c₀ ∧
      c₀.follow endsStand (otherRun ++ endedRun) = some c ∧ QuietDaemon c ∧
      c.shared.db.sessions.lookup sampleId = some ended ∧ ended.state = .terminated ∧
      storedEnd c.shared.db sampleId = some .exited ∧
      c.shared.db.sessions.lookup ⟨2⟩ = some row ∧ row.state = .running ∧
      c.shared.db.getLifecycle ⟨2⟩ = some lc ∧ lc.state.isTerminal = false := by
  have hrun : ∃ c₀ c ended row,
      (Pool.initial traced (.fresh 0)).follow endsStand runningRun = some c₀ ∧
      c₀.follow endsStand (otherRun ++ endedRun) = some c ∧
      (∀ t < c.fresh, (c.threads t).all Thread.isDone = true) ∧
      c.shared.loop = .idle (some 3) ∧ (c.shared.log.eventsSince (some 3)).events = [] ∧
      passed refreshExits [.run, .logs .unavailable, .logs .unavailable, .run] c.shared =
        some (.ok (), c.shared) ∧
      passed reconcileOnce [.run, .flag true, .startTime (.known 4), .run, .run] c.shared =
        some (.ok (), c.shared) ∧
      c.shared.db.sessions.lookup sampleId = some ended ∧ ended.state = .terminated ∧
      storedEnd c.shared.db sampleId = some .exited ∧
      c.shared.db.sessions.lookup ⟨2⟩ = some row ∧ row.state = .running :=
    ⟨_, _, _, _, rfl, rfl, by decide, rfl, rfl, rfl, rfl, rfl, rfl, rfl, rfl, rfl⟩
  obtain ⟨c₀, c, ended, row, hc₀, hc, hdone, hloop, hbehind, hreaped, hreconciled, hrow₁, hended,
    hexited, hrow, hrunning⟩ := hrun
  have hreach := (Pool.reaches_of_follow hc₀).trans (Pool.reaches_of_follow hc)
  have hfresh := Pool.Reaches.freshAbove (fun _ _ => rfl) hreach
  have hquiet : QuietDaemon c := ⟨hfresh.quiescent hdone, ⟨some 3, hloop, hbehind⟩,
    changesNothing_of_passed hreaped, changesNothing_of_passed hreconciled⟩
  obtain ⟨lc, hlc, halive⟩ := no_zombie_session hreach hquiet hrow hrunning
  exact ⟨c₀, c, ended, row, lc, hc₀, hc, hquiet, hrow₁, hended, hexited, hrow, hrunning, hlc,
    halive⟩

/-- After a commit that comes too late the session runs on without a runtime, though no operation
fails and the daemon is quiet. -/
theorem revived_session_stays_running :
    ∃ c row lc, Pool.Reaches faultless (.initial traced (.fresh 0)) c ∧ QuietDaemon c ∧
      c.shared.db.sessions.lookup sampleId = some row ∧ row.state = .running ∧
      c.shared.db.getLifecycle sampleId = some lc ∧ lc.state.isTerminal = true := by
  have hrun : ∃ c₀ c row lc,
      (Pool.initial traced (.fresh 0)).follow faultless consumedRun = some c₀ ∧
      c₀.follow faultless revivedRun = some c ∧
      (∀ t < c.fresh, (c.threads t).all Thread.isDone = true) ∧
      c.shared.loop = .idle (some 2) ∧ (c.shared.log.eventsSince (some 2)).events = [] ∧
      passed refreshExits [.run, .logs .unavailable, .run] c.shared = some (.ok (), c.shared) ∧
      passed reconcileOnce [.run, .run] c.shared = some (.ok (), c.shared) ∧
      c.shared.db.sessions.lookup sampleId = some row ∧ row.state = .running ∧
      c.shared.db.getLifecycle sampleId = some lc ∧ lc.state.isTerminal = true :=
    ⟨_, _, _, _, rfl, rfl, by decide, rfl, rfl, rfl, rfl, rfl, rfl, rfl, rfl⟩
  obtain ⟨c₀, c, row, lc, hconsumed, hc, hdone, hloop, hbehind, hreaped, hreconciled, hrest⟩ := hrun
  have hreach := (Pool.reaches_of_follow hconsumed).trans (Pool.reaches_of_follow hc)
  have hfresh := Pool.Reaches.freshAbove (fun _ _ => rfl) hreach
  exact ⟨c, row, lc, hreach, ⟨hfresh.quiescent hdone, ⟨some 2, hloop, hbehind⟩,
    changesNothing_of_passed hreaped, changesNothing_of_passed hreconciled⟩, hrest⟩

end LittleOrgans.Concurrency
