import LittleOrgans.Concurrency.ShimProgress
import LittleOrgans.Concurrency.TrackedShims

/-!
# What a program knows is true

The monitor `knowing` gathers facts without looking at the world: lifecycles that were read,
ready reports, runtimes that were seen to end. Along every run these facts are true, of the
world they were learned in and of every later one (`facts`), because a shim only moves
forward. What is written into the rows rests on them, so that the rows are true as well.

A lifecycle recorded as lost says nothing of its runtime: `docker inspect` may miss a
container that runs.
-/

set_option autoImplicit false

namespace LittleOrgans.Concurrency

open LittleOrgans.Core
open LittleOrgans.Library
open LittleOrgans.Library.Pool
open LittleOrgans.Store
open LittleOrgans.Daemon

/-! ## Facts about shims -/

/-- The runtime of the session was started under this pid, at this time if one is given. -/
def World.StartedUnder (w : World) (id : SessionId) (runtimePid : Pid)
    (startTime : Option DateTime) : Prop :=
  ∃ shim st, w.shims.lookup id = some shim ∧ shim.Started runtimePid st ∧ ∀ t ∈ startTime, t = st

/-- The runtime of the session was started and has ended. -/
def World.runtimeEnded (w : World) (id : SessionId) : Bool :=
  (w.shims.lookup id).any Shim.hasEnded

/-- The runtime of the session was started and its container has taken a signal. -/
def World.Signalled (w : World) (id : SessionId) : Prop :=
  ∃ shim runtimePid startTime, w.shims.lookup id = some shim ∧
    shim.Started runtimePid startTime ∧ shim.signalled = true

theorem World.runtimeEnded_iff {w : World} {id : SessionId} :
    w.runtimeEnded id = true ↔ ∃ shim, w.shims.lookup id = some shim ∧ shim.hasEnded = true :=
  Option.any_eq_true _ _

namespace Later

variable {w w' : World} {id : SessionId}

theorem startedUnder (h : Later w w') {runtimePid : Pid} {startTime : Option DateTime}
    (hstarted : w.StartedUnder id runtimePid startTime) :
    w'.StartedUnder id runtimePid startTime := by
  obtain ⟨shim, st, hshim, hst, htime⟩ := hstarted
  obtain ⟨shim', hshim', hlater⟩ := h.shims id shim hshim
  exact ⟨shim', st, hshim', hlater.started _ _ hst, htime⟩

theorem runtimeEnded (h : Later w w') (hended : w.runtimeEnded id = true) :
    w'.runtimeEnded id = true := by
  obtain ⟨shim, hshim, hshimEnded⟩ := World.runtimeEnded_iff.mp hended
  obtain ⟨shim', hshim', hlater⟩ := h.shims id shim hshim
  exact World.runtimeEnded_iff.mpr ⟨shim', hshim', hlater.ended hshimEnded⟩

theorem isSignalled (h : Later w w') (hsignalled : w.Signalled id) : w'.Signalled id := by
  obtain ⟨shim, pid, st, hshim, hst, hs⟩ := hsignalled
  obtain ⟨shim', hshim', hlater⟩ := h.shims id shim hshim
  exact ⟨shim', pid, st, hshim', hlater.started _ _ hst, hlater.signalled hs⟩

end Later

/-- A runtime that was started runs or has ended. -/
theorem Shim.Started.runs_or_ended {shim : Shim} {runtimePid : Pid} {startTime : DateTime}
    (h : shim.Started runtimePid startTime) :
    (shim.phase = .running runtimePid startTime ∧ shim.runs runtimePid = true ∧
      shim.isRunning = true) ∨ shim.hasEnded = true := by
  rcases h with hrunning | ⟨exit, hended⟩
  · refine .inl ⟨hrunning, ?_, ?_⟩
    · rw [Shim.runs, hrunning]
      exact decide_eq_true rfl
    · rw [Shim.isRunning, hrunning]
  · right
    rw [Shim.hasEnded, hended]

/-! ## The invariant -/

/-- What a lifecycle says of its runtime is so. -/
structure TrueLifecycle (w : World) (lc : Lifecycle) : Prop where
  started : ∀ runtimePid, lc.runtimePid = some runtimePid →
    w.StartedUnder lc.sessionId runtimePid lc.startTime
  ended : ∀ exit, lc.state = .exited exit → w.runtimeEnded lc.sessionId = true

structure TrueKnowledge (w : World) (φ : Knowledge) : Prop where
  reads : ∀ lc ∈ φ.reads, TrueLifecycle w lc
  readies : ∀ id ready, (id, ready) ∈ φ.readies →
    w.StartedUnder id ready.runtimePid (some ready.startTime)
  ended : ∀ id ∈ φ.ended, w.runtimeEnded id = true
  signalled : ∀ id ∈ φ.signalled, w.Signalled id

/-- The rows, the reports that wait in a channel and the exit watchers are true. -/
structure TrueWorld (w : World) : Prop where
  rows : ∀ id lc, w.db.getLifecycle id = some lc → TrueLifecycle w lc
  channels : ∀ channel ready, w.runtime.channels.lookup channel = some (.sent ready) →
    w.StartedUnder channel.sessionId ready.runtimePid (some ready.startTime)
  watchers : ∀ id watcher, w.runtime.exitWatchers.lookup id = some watcher →
    w.StartedUnder id watcher.runtimePid none

structure Facts (w : World) (minds : Minds) : Prop where
  world : TrueWorld w
  threads : ∀ t origin φ, minds t = some (origin, φ) → TrueKnowledge w φ

theorem Later.trueLifecycle {w w' : World} (h : Later w w') {lc : Lifecycle}
    (hlc : TrueLifecycle w lc) : TrueLifecycle w' lc where
  started pid hpid := h.startedUnder (hlc.started pid hpid)
  ended exit hexited := h.runtimeEnded (hlc.ended exit hexited)

theorem Later.trueKnowledge {w w' : World} (h : Later w w') {φ : Knowledge}
    (hφ : TrueKnowledge w φ) : TrueKnowledge w' φ where
  reads lc hlc := h.trueLifecycle (hφ.reads lc hlc)
  readies id ready hready := h.startedUnder (hφ.readies id ready hready)
  ended id hid := h.runtimeEnded (hφ.ended id hid)
  signalled id hid := h.isSignalled (hφ.signalled id hid)

/-! ## What a program learns -/

section Learns

variable {w w' : World} {φ : Knowledge} {choice : Choice}

theorem TrueKnowledge.reading (h : TrueKnowledge w φ) {lcs : List Lifecycle}
    (hlcs : ∀ lc ∈ lcs, TrueLifecycle w lc) :
    TrueKnowledge w { φ with reads := lcs ++ φ.reads } where
  reads lc hlc := (List.mem_append.mp hlc).elim (hlcs lc) (h.reads lc)
  readies := h.readies
  ended := h.ended
  signalled := h.signalled

theorem TrueKnowledge.seeing (h : TrueKnowledge w φ) {ids : List SessionId}
    (hids : ∀ id ∈ ids, w.runtimeEnded id = true) : TrueKnowledge w (φ.seeEnded ids) where
  reads := h.reads
  readies := h.readies
  ended id hid := (List.mem_append.mp hid).elim (hids id) (h.ended id)
  signalled := h.signalled

/-- Nothing runs under a pid that is gone. -/
theorem not_runs_of_pidGone {runtimePid : Pid} (hgone : w.pidGone runtimePid = true)
    {id : SessionId} {shim : Shim} (hshim : w.shims.lookup id = some shim) :
    shim.runs runtimePid = false := by
  have hrow := List.all_eq_true.mp hgone (id, shim) (Table.mem_rows_iff.mpr hshim)
  simpa using hrow

/-- A runtime whose pid is gone has ended. -/
theorem ended_of_pidGone (h : TrueKnowledge w φ) {runtimePid : Pid}
    (hgone : w.pidGone runtimePid = true) :
    ∀ id ∈ φ.hostSessions runtimePid, w.runtimeEnded id = true := by
  intro id hid
  obtain ⟨lc, hlc, rfl⟩ := List.mem_map.mp hid
  obtain ⟨hread, hhost⟩ := List.mem_filter.mp hlc
  obtain ⟨-, hpid⟩ := of_decide_eq_true hhost
  obtain ⟨shim, st, hshim, hstarted, -⟩ := (h.reads lc hread).started runtimePid hpid
  rcases hstarted.runs_or_ended with ⟨-, hruns, -⟩ | hended
  · rw [not_runs_of_pidGone hgone hshim] at hruns
    cases hruns
  · exact World.runtimeEnded_iff.mpr ⟨shim, hshim, hended⟩

/-- A runtime whose pid now belongs to one that started at another time has ended. -/
theorem ended_of_startedAt (h : TrueKnowledge w φ) {runtimePid : Pid} {startTime : DateTime}
    (hstarted : w.startedAt runtimePid startTime = true) :
    ∀ id ∈ φ.otherStartSessions runtimePid startTime, w.runtimeEnded id = true := by
  intro id hid
  obtain ⟨lc, hlc, rfl⟩ := List.mem_map.mp hid
  obtain ⟨hread, hother⟩ := List.mem_filter.mp hlc
  obtain ⟨-, hpid, hdiffers⟩ := of_decide_eq_true hother
  obtain ⟨shim, st, hshim, hst, htime⟩ := (h.reads lc hread).started runtimePid hpid
  refine World.runtimeEnded_iff.mpr ⟨shim, hshim, hst.runs_or_ended.resolve_left ?_⟩
  rintro ⟨hphase, hruns, -⟩
  obtain ⟨t, hstored, hne⟩ := (Option.any_eq_true _ _).mp hdiffers
  have hrow := List.all_eq_true.mp hstarted (lc.sessionId, shim) (Table.mem_rows_iff.mpr hshim)
  simp only [hruns, Bool.not_true, Bool.or_false, hphase, decide_eq_true_eq,
    ShimPhase.running.injEq, true_and] at hrow
  rw [htime t hstored, hrow] at hne
  simp at hne

/-- `SIGKILL` leaves nothing under its pid. -/
theorem pidGone_signalPid (w : World) (runtimePid : Pid) :
    (OsOp.signalPid w runtimePid .kill).pidGone runtimePid = true := by
  refine List.all_eq_true.mpr ?_
  rintro ⟨id, shim⟩ hrow
  have hlookup := (Table.lookup_mapRows _ w.shims id).symm.trans (Table.mem_rows_iff.mp hrow)
  obtain ⟨before, -, rfl⟩ := Option.map_eq_some_iff.mp hlookup
  dsimp only
  split
  · obtain ⟨shimPid, alive, acked, signalled, phase⟩ := before
    cases phase <;> rfl
  · next hruns => simpa using hruns

/-- A runtime that was started and does not run has ended. -/
theorem ended_of_not_running {id : SessionId} {shim : Shim} {runtimePid : Pid}
    {startTime : DateTime} (hshim : w.shims.lookup id = some shim)
    (hstarted : shim.Started runtimePid startTime) (hidle : shim.isRunning = false) :
    w.runtimeEnded id = true := by
  rcases hstarted.runs_or_ended with ⟨-, -, hrunning⟩ | hended
  · rw [hidle] at hrunning
    cases hrunning
  · exact World.runtimeEnded_iff.mpr ⟨shim, hshim, hended⟩

/-- A runtime the program knows to have started. -/
theorem started_of_knowsStarted (h : TrueKnowledge w φ) {id : SessionId}
    (hknows : φ.knowsStarted id = true) :
    ∃ runtimePid startTime, w.StartedUnder id runtimePid startTime := by
  rw [Knowledge.knowsStarted, Bool.or_eq_true, List.any_eq_true, List.any_eq_true] at hknows
  rcases hknows with ⟨⟨id', ready⟩, hready, hid⟩ | ⟨lc, hread, hlc⟩
  · cases of_decide_eq_true hid
    exact ⟨_, _, h.readies id' ready hready⟩
  · rw [Bool.and_eq_true] at hlc
    obtain ⟨hid, hpid⟩ := hlc
    obtain ⟨runtimePid, hpid⟩ := Option.isSome_iff_exists.mp hpid
    exact ⟨runtimePid, lc.startTime, of_decide_eq_true hid ▸ (h.reads lc hread).started _ hpid⟩

theorem shims_signalContainer (w : World) (id : SessionId) (signal : RuntimeSignal) {shim : Shim}
    (hshim : w.shims.lookup id = some shim) :
    (OsOp.signalContainer w id signal).shims.lookup id =
      some (if signal = .kill then { shim with signalled := true }.endRuntime OsOp.killedExit
        else { shim with signalled := true }) := by
  refine (Table.lookup_modify _ _ _ id).trans ?_
  rw [if_pos rfl, hshim]
  rfl

/-- A container that takes a signal was started. -/
theorem dockerKill_signalled {id : SessionId} (signal : RuntimeSignal)
    (hrunning : (w.shims.lookup id).any Shim.isRunning = true) :
    (OsOp.signalContainer w id signal).Signalled id ∧
      (signal = .kill → (OsOp.signalContainer w id signal).runtimeEnded id = true) := by
  obtain ⟨shim, hshim, hrunning⟩ := (Option.any_eq_true _ _).mp hrunning
  have hlookup := shims_signalContainer w id signal hshim
  obtain ⟨shimPid, alive, acked, signalled, phase⟩ := shim
  cases phase with
  | requesting => cases hrunning
  | launched => cases hrunning
  | ended pid st exit => cases hrunning
  | running pid st =>
      by_cases hkill : signal = .kill
      · rw [if_pos hkill] at hlookup
        refine ⟨⟨_, pid, st, hlookup, .inr ⟨_, rfl⟩, rfl⟩, fun _ => ?_⟩
        exact World.runtimeEnded_iff.mpr ⟨_, hlookup, rfl⟩
      · rw [if_neg hkill] at hlookup
        exact ⟨⟨_, pid, st, hlookup, .inl rfl, rfl⟩, fun h => absurd h hkill⟩

theorem TrueKnowledge.next_os (h : TrueKnowledge w φ) {o : OsOp} {a : o.Res}
    (heffect : o.Effect w w' a) : TrueKnowledge w' (φ.afterOs o a) := by
  -- What was known is still so; what the answer adds is so in the world it leaves.
  have hknown : TrueKnowledge w' φ := (Later.os heffect).trueKnowledge h
  cases o with
  | launchShim request => exact ⟨hknown.reads, hknown.readies, hknown.ended, hknown.signalled⟩
  | pidAlive pid =>
      obtain ⟨rfl, hgone⟩ := heffect
      cases a with
      | true => exact hknown
      | false => exact hknown.seeing (ended_of_pidGone h (hgone rfl))
  | startTimeForPid pid =>
      cases a with
      | unsupported => exact hknown
      | known startTime =>
          obtain ⟨rfl, hstarted⟩ := heffect
          exact hknown.seeing (ended_of_startedAt h hstarted)
      | gone =>
          obtain ⟨rfl, hgone⟩ := heffect
          exact hknown.seeing (ended_of_pidGone h hgone)
  | sendSignal pid signal =>
      show TrueKnowledge w' (if a = .alreadyExited ∨ signal = .kill then _ else φ)
      split
      · next hends =>
          refine hknown.seeing (ended_of_pidGone hknown ?_)
          cases a with
          | alreadyExited =>
              obtain ⟨rfl, hgone⟩ := heffect
              exact hgone
          | signalled =>
              have hkill : signal = .kill := hends.resolve_left nofun
              cases heffect
              rw [hkill]
              exact pidGone_signalPid w pid
      · exact hknown
  | dockerRunning id =>
      obtain ⟨rfl, hidle⟩ := heffect
      show TrueKnowledge w' (if a = false ∧ id ∈ φ.signalled then _ else φ)
      split
      · next hseen =>
          refine hknown.seeing fun id' hid' => ?_
          cases List.mem_singleton.mp hid'
          obtain ⟨shim, pid, st, hshim, hstarted, hsignalled⟩ := h.signalled id hseen.2
          refine ended_of_not_running hshim hstarted ?_
          simpa [hshim, hsignalled] using hidle hseen.1
      · exact hknown
  | dockerKill id signal =>
      cases a with
      | alreadyExited =>
          obtain ⟨rfl, hidle⟩ := heffect
          show TrueKnowledge w' (if φ.knowsStarted id = true then _ else φ)
          split
          · next hknows =>
              refine hknown.seeing fun id' hid' => ?_
              cases List.mem_singleton.mp hid'
              obtain ⟨pid, startTime, shim, st, hshim, hstarted, -⟩ :=
                started_of_knowsStarted h hknows
              refine ended_of_not_running hshim hstarted ?_
              rw [hshim] at hidle
              exact hidle
          · exact hknown
      | signalled =>
          obtain ⟨hrunning, rfl⟩ := heffect
          obtain ⟨hsignalled, hended⟩ := dockerKill_signalled signal hrunning
          have hsignal : ∀ id' ∈ id :: φ.signalled,
              (OsOp.signalContainer w id signal).Signalled id' := by
            intro id' hid'
            rcases List.mem_cons.mp hid' with rfl | hbefore
            · exact hsignalled
            · exact hknown.signalled id' hbefore
          by_cases hkill : signal = .kill
          · have hseen : TrueKnowledge _ (φ.seeEnded [id]) := hknown.seeing fun id' hid' => by
              cases List.mem_singleton.mp hid'
              exact hended hkill
            rw [Knowledge.afterOs, if_pos hkill]
            exact ⟨hseen.reads, hseen.readies, hseen.ended, hsignal⟩
          · rw [Knowledge.afterOs, if_neg hkill]
            exact ⟨hknown.reads, hknown.readies, hknown.ended, hsignal⟩
  | _ => exact hknown

theorem TrueKnowledge.next_store (hw : TrueWorld w) (h : TrueKnowledge w φ) {o : StoreOp}
    {a : o.Res} {db : Database} (heffect : o.Effect w.db db a) :
    TrueKnowledge w (φ.afterStoreOk o a) := by
  have hfound : ∀ {id : SessionId} {found : Option Lifecycle}, found = w.db.getLifecycle id →
      ∀ lc ∈ found.toList, TrueLifecycle w lc := by
    rintro id found rfl lc hlc
    exact hw.rows id lc (Option.mem_toList.mp hlc)
  cases o with
  | getLifecycle id => exact h.reading (hfound heffect.2)
  | listLifecycles filter =>
      refine h.reading fun lc hlc => ?_
      rw [heffect.2] at hlc
      exact hw.rows _ lc (Database.mem_listLifecycles.mp hlc).2
  | runningLifecycles =>
      refine h.reading fun lc hlc => ?_
      rw [heffect.2] at hlc
      exact hw.rows _ lc (Database.mem_runningLifecycles.mp hlc).2
  | runningTmuxOccupant address =>
      refine h.reading fun lc hlc => ?_
      have hoccupant : w.db.runningTmuxOccupant address = some lc :=
        heffect.2.symm.trans (Option.mem_toList.mp hlc)
      have hmem := List.mem_of_find?_eq_some hoccupant
      exact hw.rows _ lc (Database.mem_runningLifecycles.mp hmem).2
  | _ => exact ⟨h.reads, h.readies, h.ended, h.signalled⟩

/-- What an operation adds to the knowledge of a program is true. -/
theorem TrueKnowledge.next (hw : TrueWorld w) (h : TrueKnowledge w φ) {o : Op}
    {r : Except DaemonError o.Res} (hexec : o.exec choice w = some (r, w')) :
    TrueKnowledge w' (φ.next o r) := by
  have hlater : Later w w' := .op hexec
  cases o with
  -- an answer of the system is a fact of the world it was given in
  | os o =>
      cases r with
      | error e => exact hlater.trueKnowledge h
      | ok a => exact h.next_os (OsOp.run_ok (OsOp.exec_ok hexec))
  | log o =>
      have hknown := hlater.trueKnowledge h
      cases r <;> cases o <;>
        exact ⟨hknown.reads, hknown.readies, hknown.ended, hknown.signalled⟩
  -- a row that is read is a fact the store holds
  | store o =>
      obtain ⟨db, hrun, rfl⟩ := Op.exec_store hexec
      cases r with
      | ok a => exact hlater.trueKnowledge (h.next_store hw (StoreOp.exec_ok hrun))
      | error e =>
          have hknown := hlater.trueKnowledge h
          cases o <;> exact ⟨hknown.reads, hknown.readies, hknown.ended, hknown.signalled⟩
  | memory o =>
      have hknown := hlater.trueKnowledge h
      cases r with
      | error e => exact hknown
      | ok a =>
          cases o with
          | awaitReady channel =>
              obtain ⟨⟨found, m⟩, hwait, hresult⟩ :=
                Option.map_eq_some_iff.mp (MemoryOp.exec_ok hexec)
              cases hresult
              cases found with
              | elapsed => exact hknown
              | closed => exact hknown
              -- the report that was waited for had been put into its channel
              | ready ready =>
                  refine ⟨hknown.reads, fun id report hreport => ?_, hknown.ended,
                    hknown.signalled⟩
                  rcases List.mem_cons.mp hreport with heq | hbefore
                  · cases heq
                    have hsent := (waitFor_eq_some hwait).2.1 ready rfl
                    exact hlater.startedUnder (hw.channels channel ready hsent)
                  · exact hknown.readies id report hbefore
          | _ => exact ⟨hknown.reads, hknown.readies, hknown.ended, hknown.signalled⟩

end Learns

/-! ## What an operation leaves -/

section Leaves

variable {w w' : World} {φ : Knowledge} {choice : Choice} {o : Op} {r : Except DaemonError o.Res}

/-- A lifecycle that a program may write over its row is true. -/
theorem trueLifecycle_of_mayWrite (h : TrueKnowledge w φ) {lc : Lifecycle}
    (hmay : φ.MayWrite lc) : TrueLifecycle w lc := by
  obtain ⟨old, hread, -, -, hprocess, hend⟩ := hmay
  have hold := h.reads old (List.mem_of_find?_eq_some hread)
  have hid : old.sessionId = lc.sessionId := by simpa using List.find?_some hread
  constructor
  · intro runtimePid hpid
    rcases hprocess with ⟨hsame, htime⟩ | ⟨ready, hready, hreported, htime⟩
    · rw [htime, ← hid]
      exact hold.started runtimePid (hsame.symm.trans hpid)
    · rw [htime, ← Option.some.inj (hreported.symm.trans hpid)]
      exact h.readies lc.sessionId ready hready
  · intro exit hexited
    rw [hexited] at hend
    exact h.ended lc.sessionId hend

/-- A forking lifecycle says nothing of a runtime. -/
theorem trueLifecycle_forking (w : World) (intent : PendingSpawnIntent) :
    TrueLifecycle w (Database.forkingLifecycle intent) :=
  ⟨nofun, nofun⟩

theorem trueLifecycle_of_writes (h : TrueKnowledge w φ) (hallows : φ.allows o) {lc : Lifecycle}
    (hwrites : o.writes = some lc) : TrueLifecycle w lc := by
  cases o with
  | memory o => cases hwrites
  | log o => cases hwrites
  | os o => cases hwrites
  | store o =>
      cases o with
      | insertForking row =>
          cases hwrites
          obtain ⟨intent, -, rfl⟩ := hallows
          exact trueLifecycle_forking w intent
      | beginSpawnIntent intent =>
          cases hwrites
          exact trueLifecycle_forking w intent
      | updateLifecycle row =>
          cases hwrites
          exact trueLifecycle_of_mayWrite h hallows
      | commitSpawnIntent id session row =>
          cases hwrites
          obtain ⟨-, -, -, -, -, hmay⟩ := hallows
          exact trueLifecycle_of_mayWrite h hmay
      | _ => cases hwrites

/-- An exit watcher was there before, or is started now. -/
theorem watcher_run {o : MemoryOp} {a : o.Res} (h : o.run choice w = some (a, w'))
    {id : SessionId} {watcher : ExitWatcher}
    (hwatcher : w'.runtime.exitWatchers.lookup id = some watcher) :
    w.runtime.exitWatchers.lookup id = some watcher ∨
      o = .startExitWatcher id watcher.runtimePid := by
  cases o with
  -- the one operation that adds a watcher
  | startExitWatcher started pid =>
      rw [MemoryOp.run] at h
      split at h <;> simp only [Choice.ran_eq_some, Prod.mk.injEq] at h <;>
        rw [← h.2.2] at hwatcher
      · exact .inl hwatcher
      · rw [Table.lookup_upsert] at hwatcher
        split at hwatcher
        · next hid =>
            cases hwatcher
            exact .inr (by rw [hid])
        · exact .inl hwatcher
  -- the others keep the watchers or remove one
  | removeWatcher removed =>
      simp only [MemoryOp.run, Choice.ran_eq_some, Prod.mk.injEq] at h
      rw [← h.2.2, Table.lookup_erase] at hwatcher
      split at hwatcher
      · cases hwatcher
      · exact .inl hwatcher
  | sendReady channel ready =>
      rw [MemoryOp.run] at h
      split at h <;> simp only [Choice.ran_eq_some, Prod.mk.injEq] at h <;>
        rw [← h.2.2] at hwatcher <;> exact .inl hwatcher
  | awaitReady channel =>
      obtain ⟨⟨waited, m⟩, hwait, hresult⟩ := Option.map_eq_some_iff.mp h
      cases hresult
      refine .inl ?_
      unfold MemoryOp.waitFor at hwait
      split at hwait
      · simp only [Choice.ran_eq_some, Prod.mk.injEq] at hwait
        rw [← hwait.2.2] at hwatcher
        exact hwatcher
      · simp only [Choice.ran_eq_some, Prod.mk.injEq] at hwait
        rw [← hwait.2.2] at hwatcher
        exact hwatcher
      · split at hwait
        · cases hwait
          exact hwatcher
        · cases hwait
      · cases hwait
      · cases hwait
  | loopCursor =>
      rw [MemoryOp.run] at h
      split at h
      · simp only [Choice.ran_eq_some, Prod.mk.injEq] at h
        rw [← h.2.2] at hwatcher
        exact .inl hwatcher
      · cases h
      · cases h
  | _ =>
      simp only [MemoryOp.run, Choice.ran_eq_some, Prod.mk.injEq] at h
      rw [← h.2.2] at hwatcher
      exact .inl hwatcher

theorem watcher_exec (h : o.exec choice w = some (r, w')) {id : SessionId}
    {watcher : ExitWatcher} (hwatcher : w'.runtime.exitWatchers.lookup id = some watcher) :
    w.runtime.exitWatchers.lookup id = some watcher ∨
      o = .memory (.startExitWatcher id watcher.runtimePid) := by
  cases o with
  | store o =>
      obtain ⟨db, -, rfl⟩ := Op.exec_store h
      exact .inl hwatcher
  | log o =>
      obtain ⟨log, -, rfl⟩ := Op.exec_log h
      exact .inl hwatcher
  | os o =>
      rw [OsOp.frame h] at hwatcher
      exact .inl hwatcher
  | memory o =>
      cases r with
      | error e =>
          rw [(MemoryOp.exec_error h).1] at hwatcher
          exact .inl hwatcher
      | ok a => exact (watcher_run (MemoryOp.exec_ok h) hwatcher).imp_right (congrArg Op.memory)

/-- A pid the program knows is one the runtime was started under. -/
theorem startedUnder_of_knowsPid (h : TrueKnowledge w φ) {id : SessionId} {runtimePid : Pid}
    (hknows : φ.KnowsPid id runtimePid) : w.StartedUnder id runtimePid none := by
  have hstarted : ∃ startTime, w.StartedUnder id runtimePid startTime := by
    rcases hknows with ⟨lc, hread, rfl, hpid⟩ | ⟨ready, hready, rfl⟩
    · exact ⟨_, (h.reads lc hread).started runtimePid hpid⟩
    · exact ⟨_, h.readies id ready hready⟩
  obtain ⟨startTime, shim, st, hshim, hst, -⟩ := hstarted
  exact ⟨shim, st, hshim, hst, nofun⟩

theorem TrueWorld.next (hw : TrueWorld w) (h : TrueKnowledge w φ) (hallows : φ.allows o)
    (hexec : o.exec choice w = some (r, w')) : TrueWorld w' := by
  have hlater : Later w w' := .op hexec
  constructor
  · intro id lc hrow
    cases Op.rowStep hexec id with
    | same hsame =>
        rw [hsame] at hrow
        exact hlater.trueLifecycle (hw.rows id lc hrow)
    | deleted _ hnone =>
        rw [hnone] at hrow
        cases hrow
    | written written _ hwrites _ hstored =>
        rw [hstored] at hrow
        cases hrow
        have htrue := trueLifecycle_of_writes h hallows hwrites
        exact hlater.trueLifecycle ⟨htrue.started, htrue.ended⟩
  · intro channel ready hsent
    rcases sent_exec hexec hsent with hbefore | rfl
    · exact hlater.startedUnder (hw.channels channel ready hbefore)
    · exact hlater.startedUnder (h.readies channel.sessionId ready hallows)
  · intro id watcher hwatcher
    rcases watcher_exec hexec hwatcher with hbefore | rfl
    · exact hlater.startedUnder (hw.watchers id watcher hbefore)
    · exact hlater.startedUnder (startedUnder_of_knowsPid h hallows)

end Leaves

/-! ## Starts -/

section Starts

variable {w w' : World}

theorem Later.start {origin : Origin} (h : w.start origin = some w') : Later w w' := by
  rw [World.start_frame h]
  exact .of_eq rfl rfl

/-- A shim reports a ready of a runtime that was started. -/
theorem started_of_reportsReady {shim : Shim} {ready : ShimReady}
    (h : shim.reportsReady ready = true) : shim.Started ready.runtimePid ready.startTime := by
  obtain ⟨shimPid, alive, acked, signalled, phase⟩ := shim
  cases phase with
  | requesting => cases h
  | launched => cases h
  | running pid startTime =>
      obtain ⟨-, -, hready⟩ := of_decide_eq_true h
      rw [hready]
      exact .inl rfl
  | ended pid startTime exit =>
      obtain ⟨-, -, hready⟩ := of_decide_eq_true h
      rw [hready]
      exact .inr ⟨exit, rfl⟩

theorem hasEnded_of_reportsExit {shim : Shim} {exit : RuntimeExit}
    (h : shim.reportsExit exit = true) : shim.hasEnded = true := by
  obtain ⟨shimPid, alive, acked, signalled, phase⟩ := shim
  cases phase with
  | requesting => cases h
  | launched => cases h
  | running pid startTime => cases h
  | ended pid startTime exit => rfl

/-- A watcher fires when its runtime has ended. -/
theorem runtimeEnded_of_watcherFires (hw : TrueWorld w) {id : SessionId}
    (h : w.watcherFires id = true) : w.runtimeEnded id = true := by
  rw [World.watcherFires] at h
  cases hwatcher : w.runtime.exitWatchers.lookup id with
  | none =>
      rw [hwatcher] at h
      cases h
  | some watcher =>
      simp only [hwatcher, Bool.and_eq_true, Bool.not_eq_true'] at h
      obtain ⟨shim, st, hshim, hst, -⟩ := hw.watchers id watcher hwatcher
      refine World.runtimeEnded_iff.mpr ⟨shim, hshim, hst.runs_or_ended.resolve_left ?_⟩
      rintro ⟨-, hruns, -⟩
      have hidle := h.2
      rw [hshim] at hidle
      exact Bool.false_ne_true (hidle.symm.trans hruns)

theorem trueKnowledge_nothing (w : World) (φ : Knowledge) (hreads : φ.reads = [])
    (hreadies : φ.readies = []) (hended : φ.ended = []) (hsignalled : φ.signalled = []) :
    TrueKnowledge w φ where
  reads _ hlc := absurd (hreads ▸ hlc) List.not_mem_nil
  readies _ _ hready := absurd (hreadies ▸ hready) List.not_mem_nil
  ended _ hid := absurd (hended ▸ hid) List.not_mem_nil
  signalled _ hid := absurd (hsignalled ▸ hid) List.not_mem_nil

/-- What a program is started with is true. -/
theorem trueKnowledge_first (hw : TrueWorld w) {origin : Origin}
    (h : w.start origin = some w') : TrueKnowledge w' (Knowledge.first origin) := by
  have hlater : Later w w' := .start h
  have hnothing : TrueKnowledge w' {} := trueKnowledge_nothing w' {} rfl rfl rfl rfl
  cases origin with
  | shimReady ready =>
      refine ⟨hnothing.reads, fun id report hreport => ?_, hnothing.ended, hnothing.signalled⟩
      cases List.mem_singleton.mp hreport
      simp only [World.start, World.guarded_eq_some, Bool.and_eq_true] at h
      obtain ⟨shim, hshim, hreports⟩ := (Option.any_eq_true _ _).mp h.1.2
      refine hlater.startedUnder ⟨shim, ready.startTime, hshim, ?_, fun t ht => ?_⟩
      · exact started_of_reportsReady hreports
      · exact (Option.some.inj ht).symm
  | shimExit exit =>
      refine ⟨hnothing.reads, hnothing.readies, fun id hid => ?_, hnothing.signalled⟩
      cases List.mem_singleton.mp hid
      simp only [World.start, World.guarded_eq_some, Bool.and_eq_true] at h
      obtain ⟨shim, hshim, hreports⟩ := (Option.any_eq_true _ _).mp h.1.2
      have hended := World.runtimeEnded_iff.mpr ⟨shim, hshim, hasEnded_of_reportsExit hreports⟩
      exact hlater.runtimeEnded hended
  | exitWatcher id =>
      refine ⟨hnothing.reads, hnothing.readies, fun id' hid' => ?_, hnothing.signalled⟩
      cases List.mem_singleton.mp hid'
      simp only [World.start, World.guarded_eq_some, Bool.and_eq_true] at h
      exact hlater.runtimeEnded (runtimeEnded_of_watcherFires hw h.1.2)
  | _ => exact trueKnowledge_nothing w' _ rfl rfl rfl rfl

theorem watcher_start {origin : Origin} (h : w.start origin = some w') {id : SessionId}
    {watcher : ExitWatcher} (hwatcher : w'.runtime.exitWatchers.lookup id = some watcher) :
    ∃ before, w.runtime.exitWatchers.lookup id = some before ∧
      before.runtimePid = watcher.runtimePid := by
  cases origin with
  | exitWatcher fired =>
      rw [← (World.guarded_eq_some.mp h).2] at hwatcher
      have hlookup := (Table.lookup_modify _ _ _ id).symm.trans hwatcher
      split at hlookup
      · next hid =>
          obtain ⟨before, hbefore, rfl⟩ := Option.map_eq_some_iff.mp hlookup
          exact ⟨before, hid ▸ hbefore, rfl⟩
      · exact ⟨watcher, hlookup, rfl⟩
  | eventLoopRound =>
      rw [World.start] at h
      split at h
      · rw [← (World.guarded_eq_some.mp h).2] at hwatcher
        exact ⟨watcher, hwatcher, rfl⟩
      · cases h
      · cases h
  | _ =>
      rw [← (World.guarded_eq_some.mp h).2] at hwatcher
      exact ⟨watcher, hwatcher, rfl⟩

theorem TrueWorld.start (hw : TrueWorld w) {origin : Origin} (h : w.start origin = some w') :
    TrueWorld w' := by
  have hlater : Later w w' := .start h
  have hframe := World.start_frame h
  constructor
  · intro id lc hrow
    rw [hframe] at hrow
    exact hlater.trueLifecycle (hw.rows id lc hrow)
  · intro channel ready hsent
    rw [hframe] at hsent
    exact hlater.startedUnder (hw.channels channel ready hsent)
  · intro id watcher hwatcher
    obtain ⟨before, hbefore, hpid⟩ := watcher_start h hwatcher
    rw [← hpid]
    exact hlater.startedUnder (hw.watchers id before hbefore)

end Starts

/-! ## Runs -/

/-- The facts that were known are known of a later world. -/
theorem Later.trueWorld {w w' : World} (h : Later w w') (hw : TrueWorld w) (hdb : w'.db = w.db)
    (hruntime : w'.runtime = w.runtime) : TrueWorld w' where
  rows id lc hrow := h.trueLifecycle (hw.rows id lc (hdb ▸ hrow))
  channels channel ready hsent := h.startedUnder (hw.channels channel ready (hruntime ▸ hsent))
  watchers id watcher hwatcher := h.startedUnder (hw.watchers id watcher (hruntime ▸ hwatcher))

/-- What the programs of the daemon know is true along every run. -/
theorem facts : Pool.Invariant watched (.none watched) Facts where
  op := by
    intro w minds t origin φ choice o r w' h hmind hallows _ hexec
    have hφ := h.threads t origin φ hmind
    refine ⟨h.world.next hφ hallows hexec, fun t' origin' φ' hmind' => ?_⟩
    -- the task that ran has learnt what its operation answered; what the others know stays true
    rcases of_update hmind' with ⟨-, heq⟩ | ⟨-, hother⟩
    · cases heq
      exact hφ.next h.world hexec
    · exact (Later.op hexec).trueKnowledge (h.threads t' origin' φ' hother)
  start := by
    intro w minds t origin w' h _ hstart _
    refine ⟨h.world.start hstart, fun t' origin' φ hmind => ?_⟩
    rcases of_update hmind with ⟨-, heq⟩ | ⟨-, hother⟩
    · cases heq
      exact trueKnowledge_first h.world hstart
    · exact (Later.start hstart).trueKnowledge (h.threads t' origin' φ hother)
  env := by
    intro w minds event w' h _ henv
    have hlater : Later w w' := .env henv
    have hframe := World.env_frame henv
    refine ⟨hlater.trueWorld h.world ?_ ?_, fun t origin φ hmind => ?_⟩
    · rw [hframe]
    · rw [hframe]
    · exact hlater.trueKnowledge (h.threads t origin φ hmind)
  -- the store survives the crash, channels, watchers and tasks do not
  crash := by
    intro w minds h _
    have hlater : Later w w.crashed := .of_eq rfl rfl
    exact
      { world :=
          { rows := fun id lc hrow => hlater.trueLifecycle (h.world.rows id lc hrow)
            channels := fun _ _ hsent => by cases hsent
            watchers := fun _ _ hwatcher => by cases hwatcher }
        threads := fun _ _ _ hmind => by cases hmind }

theorem facts_fresh (createdAt : DateTime) : Facts (.fresh createdAt) fun _ => none where
  world :=
    { rows := fun _ _ hrow => by cases hrow
      channels := fun _ _ hsent => by cases hsent
      watchers := fun _ _ hwatcher => by cases hwatcher }
  threads _ _ _ hmind := by cases hmind

end LittleOrgans.Concurrency
