import LittleOrgans.Concurrency.PaneClaims
import LittleOrgans.Library.Schedule

/-!
# Who occupies a pane

A spawn in a tmux pane asks the store for a running lifecycle that names the pane, kills
it if it is forced to, and records its own row when its shim has reported: many steps later,
and without asking again. The schedule `oneAtATime` keeps two spawns that have both looked
at a pane from running in it, has the end of a killed occupant recorded before the row is
written, and has no commit write a running row back that has changed. In its runs at most
one running row names a pane (`panes_exclusive`): it is the answer that a spawn has got, and
what it does about it, that keeps the others out.
-/

set_option autoImplicit false

namespace LittleOrgans.Concurrency

open LittleOrgans.Core
open LittleOrgans.Library
open LittleOrgans.Store
open LittleOrgans.Daemon

/-- The row of the session is running in the pane. -/
def Occupies (db : Database) (id : SessionId) (address : TmuxAddress) : Prop :=
  ∃ lc, db.getLifecycle id = some lc ∧ lc.state = .running ∧ lc.tmuxPane = some address

instance (db : Database) (id : SessionId) (address : TmuxAddress) :
    Decidable (Occupies db id address) :=
  decidable_of_iff (((db.getLifecycle id).any fun lc =>
      decide (lc.state = .running ∧ lc.tmuxPane = some address)) = true) <| by
    simp [Occupies, Option.any_eq_true]

/-- At most one running row names a pane. -/
def PanesExclusive (db : Database) : Prop :=
  ∀ id id' address, Occupies db id address → Occupies db id' address → id = id'

/-- The thread has claimed the pane, has not run in it so far, and goes on. -/
def claimedBy (c : Pool claimWatch) (t : Nat) (address : TmuxAddress) : Bool :=
  (c.threads t).any fun thread =>
    !thread.isDone && thread.know.looked.any fun entry => entry.1 = address

/-- The row an update writes. -/
def updatedBy : Op → Option Lifecycle
  | .store (.updateLifecycle lc) => some lc
  | _ => none

/-- The row a commit writes back. -/
def committedBy : Op → Option Lifecycle
  | .store (.commitSpawnIntent _ _ lc) => some lc
  | _ => none

/-- When a running row may be written: by a spawn, while no other spawn that has looked at the
pane is on its way to run in it, and after the end of the occupant that the spawn has found
and killed is recorded; by a commit, over the running row it had before. -/
def oneAtATime : Schedule claimWatch := fun c t φ o =>
  (∀ lc ∈ updatedBy o, ∀ address ∈ runningIn lc,
    (∀ t' < c.fresh, t' ≠ t → claimedBy c t' address = false) ∧
      ∀ entry ∈ φ.looked, entry.1 = address →
        ∀ occupant ∈ entry.2, ¬Occupies c.shared.db occupant.sessionId address) ∧
  ∀ lc ∈ committedBy o, ∀ address ∈ runningIn lc,
    Occupies c.shared.db lc.sessionId address

theorem runningIn_eq_some {lc : Lifecycle} {address : TmuxAddress} :
    runningIn lc = some address ↔ lc.state = .running ∧ lc.tmuxPane = some address := by
  rw [runningIn]
  split <;> simp_all

/-- The query finds a running row that names the pane, if there is one. -/
theorem exists_runningTmuxOccupant {db : Database} {id : SessionId} {address : TmuxAddress}
    (h : Occupies db id address) :
    ∃ occupant, db.runningTmuxOccupant address = some occupant ∧
      Occupies db occupant.sessionId address := by
  obtain ⟨lc, hrow, hstate, hpane⟩ := h
  have hid := Database.sessionId_of_getLifecycle hrow
  have hmem : lc ∈ db.runningLifecycles := by
    rw [Database.mem_runningLifecycles, hid]
    exact ⟨hstate, hrow⟩
  have hfound : (db.runningTmuxOccupant address).isSome = true := by
    rw [Database.runningTmuxOccupant, List.find?_isSome]
    exact ⟨lc, hmem, decide_eq_true hpane⟩
  obtain ⟨occupant, hoccupant⟩ := Option.isSome_iff_exists.mp hfound
  obtain ⟨hrunning, hget⟩ :=
    Database.mem_runningLifecycles.mp (List.mem_of_find?_eq_some hoccupant)
  have hnames : occupant.tmuxPane = some address := by
    rw [Database.runningTmuxOccupant] at hoccupant
    simpa using List.find?_some hoccupant
  exact ⟨occupant, hoccupant, occupant, hget, hrunning, hnames⟩

/-- Whom a look at a pane may miss: nobody, as long as the panes are exclusive. -/
theorem found_of_occupies {db : Database} {id : SessionId} {address : TmuxAddress}
    (hexclusive : PanesExclusive db) (h : Occupies db id address) :
    ∃ occupant ∈ db.runningTmuxOccupant address, occupant.sessionId = id := by
  obtain ⟨occupant, hoccupant, hother⟩ := exists_runningTmuxOccupant h
  exact ⟨occupant, hoccupant, hexclusive occupant.sessionId id address hother h⟩

section Steps

variable {choice : Choice} {w w' : World} {o : Op} {r : Except DaemonError o.Res}

/-- A row that runs in a pane after an operation did so before, or was written running. -/
theorem occupies_exec (h : o.exec choice w = some (r, w')) {id : SessionId}
    {address : TmuxAddress} (hoccupies : Occupies w'.db id address) :
    Occupies w.db id address ∨
      ∃ lc, r.isOk = true ∧ o.writes = some lc ∧ lc.sessionId = id ∧ lc.state = .running ∧
        lc.tmuxPane = some address := by
  obtain ⟨lc', hrow', hstate, hpane⟩ := hoccupies
  cases Op.rowStep h id with
  | same hrow =>
      rw [hrow] at hrow'
      exact .inl ⟨lc', hrow', hstate, hpane⟩
  | written lc hok hlc hid hrow =>
      rw [hrow] at hrow'
      cases hrow'
      exact .inr ⟨lc, hok, hlc, hid, hstate, hpane⟩
  | deleted _ hrow =>
      rw [hrow] at hrow'
      cases hrow'

/-- Whoever runs in a pane behind an operation ran in it before, or it is the spawn that has
asked for the pane and now writes its row. -/
theorem occupies_scheduled {c : Pool claimWatch} {t : Nat} {φ : PaneClaims}
    (hreported : φ.reported = none) (hallows : φ.allows o) (hσ : oneAtATime c t φ o)
    (h : o.exec choice c.shared = some (r, w')) {id : SessionId} {address : TmuxAddress}
    (hoccupies : Occupies w'.db id address) :
    Occupies c.shared.db id address ∨
      ∃ lc, o = .store (.updateLifecycle lc) ∧ r.isOk = true ∧ lc.sessionId = id ∧
        runningIn lc = some address ∧ ∃ found, (address, found) ∈ φ.looked := by
  rcases occupies_exec h hoccupies with hbefore | ⟨lc, hok, hlc, hid, hstate, hpane⟩
  -- only a write of a running row puts a session into a pane
  · exact .inl hbefore
  have hplaced : runningIn lc = some address := runningIn_eq_some.mpr ⟨hstate, hpane⟩
  cases o with
  | os o => cases hlc
  | log o => cases hlc
  | memory o => cases hlc
  | store o =>
      cases o with
      -- the runtime's own write, of the pane it has looked at
      | updateLifecycle lc' =>
          cases hlc
          rcases hallows address hplaced with hreport | hlooked
          · rw [hreported] at hreport
            cases hreport
          · exact .inr ⟨_, rfl, hok, hid, hplaced, hlooked⟩
      -- the commit of a spawn: the schedule has the row in the pane already
      | commitSpawnIntent id' session lc' =>
          cases hlc
          subst hid
          exact .inl (hσ.2 _ rfl address hplaced)
      -- a new row is forking
      | insertForking lc' =>
          cases hlc
          rw [show runningIn _ = none from hallows] at hplaced
          cases hplaced
      | beginSpawnIntent intent =>
          cases hlc
          cases hstate
      | _ => cases hlc

end Steps

/-! ## The panes along a run -/

/-- At most one running row names a pane, and it is nobody, or the one that was found, in a
pane that a spawn has claimed. -/
structure PanesClaimed (c : Pool claimWatch) : Prop where
  exclusive : PanesExclusive c.shared.db
  reported : ∀ t thread, c.threads t = some thread → thread.know.reported = none
  looked : ∀ t thread, c.threads t = some thread → thread.isDone = false →
    ∀ address found, (address, found) ∈ thread.know.looked →
      ∀ id, Occupies c.shared.db id address → ∃ occupant ∈ found, occupant.sessionId = id

theorem PaneClaims.reported_next (φ : PaneClaims) (o : Op) (r : Except DaemonError o.Res) :
    (φ.next o r).reported = φ.reported := by
  unfold PaneClaims.next
  split
  · split <;> rfl
  · split <;> rfl
  · rfl

/-- What a program has found, it knew before, or has it from the store just now. -/
theorem PaneClaims.mem_looked_next {φ : PaneClaims} {choice : Choice} {w w' : World} {o : Op}
    {r : Except DaemonError o.Res} {address : TmuxAddress} {found : Option Lifecycle}
    (hexec : o.exec choice w = some (r, w')) (h : (address, found) ∈ (φ.next o r).looked) :
    (address, found) ∈ φ.looked ∨ w' = w ∧ found = w.db.runningTmuxOccupant address := by
  unfold PaneClaims.next at h
  split at h
  · next address' found' =>
      split at h
      · rcases List.mem_cons.mp h with heq | hmem
        · cases heq
          obtain ⟨db, hstore, hworld⟩ := Op.exec_store hexec
          obtain ⟨hdb, hfound⟩ := StoreOp.exec_ok hstore
          rw [hworld, hdb]
          exact .inr ⟨rfl, hfound⟩
        · exact .inl hmem
      · exact .inl h
  · split at h
    · cases h
    · exact .inl h
  · exact .inl h

/-- No shim reports a pane. -/
theorem reported_first {w w' : World} {task : DaemonTask} (h : w.startTask task = some w') :
    (PaneClaims.first task).reported = none := by
  cases task with
  | spawn request => rfl
  | daemon origin =>
      cases origin with
      | shimReady ready =>
          have hguard := (World.guarded_eq_some.mp h).1
          simp only [Bool.and_eq_true] at hguard
          obtain ⟨shim, -, hreports⟩ := (Option.any_eq_true _ _).mp hguard.2
          unfold Shim.reportsReady at hreports
          show ready.tmuxPane = none
          split at hreports
          · cases hreports
          · cases hreports
          · rw [(of_decide_eq_true hreports).2.2]
          · rw [(of_decide_eq_true hreports).2.2]
      | _ => rfl

theorem looked_first (task : DaemonTask) : (PaneClaims.first task).looked = [] := by
  cases task with
  | spawn request => rfl
  | daemon origin => cases origin <;> rfl

theorem panesClaimed_run {c : Pool claimWatch} {t : Nat} {thread : Thread claimWatch}
    {o : Op} {k : Except DaemonError o.Res → DaemonProg Reply} {choice : Choice}
    {r : Except DaemonError o.Res} {w' : World} (h : PanesClaimed c) (hfresh : c.FreshAbove)
    (hthread : c.threads t = some thread) (hprog : thread.prog = .op o k)
    (hallows : claims.allows thread.know o) (hσ : oneAtATime c t thread.know o)
    (hexec : o.exec choice c.shared = some (r, w')) :
    PanesClaimed (c.put t ⟨thread.origin, k r, thread.know.next o r⟩ w') := by
  have hgoes : thread.isDone = false := by
    rw [Thread.isDone, hprog]
    rfl
  have hbefore : ∀ {id : SessionId} {address : TmuxAddress}, Occupies w'.db id address → _ :=
    fun hoccupies =>
      occupies_scheduled (h.reported t thread hthread) hallows hσ hexec hoccupies
  constructor
  · intro id id' address hid hid'
    rcases hbefore hid with hold | ⟨lc, rfl, hok, rfl, hplaced, found, hfound⟩
    · rcases hbefore hid' with hold' | ⟨lc, rfl, hok, rfl, hplaced, found, hfound⟩
      · exact h.exclusive id id' address hold hold'
      · -- whom the spawn has found is gone
        obtain ⟨occupant, hoccupant, rfl⟩ :=
          h.looked t thread hthread hgoes address found hfound id hold
        exact absurd hold ((hσ.1 _ rfl address hplaced).2 _ hfound rfl occupant hoccupant)
    · rcases hbefore hid' with hold' | ⟨lc', hsame, -, rfl, -⟩
      · obtain ⟨occupant, hoccupant, rfl⟩ :=
          h.looked t thread hthread hgoes address found hfound id' hold'
        exact absurd hold' ((hσ.1 _ rfl address hplaced).2 _ hfound rfl occupant hoccupant)
      · cases hsame
        rfl
  · intro t' thread' ht'
    rw [Pool.threads_put] at ht'
    rcases Pool.of_update ht' with ⟨-, rfl⟩ | ⟨-, hother⟩
    · exact (thread.know.reported_next o r).trans (h.reported t thread hthread)
    · exact h.reported t' thread' hother
  · intro t' thread' ht' hgoes' address found hfound id hoccupies
    rw [Pool.threads_put] at ht'
    rcases Pool.of_update ht' with ⟨-, rfl⟩ | ⟨hne, hother⟩
    · rcases hbefore hoccupies with hold | ⟨lc, rfl, hok, -, hplaced, -⟩
      · rcases PaneClaims.mem_looked_next hexec hfound with hknown | ⟨hsame, rfl⟩
        · exact h.looked t thread hthread hgoes address found hknown id hold
        · exact found_of_occupies h.exclusive hold
      · -- the claim is used up
        cases r with
        | error e => cases hok
        | ok u =>
            have hused : ((thread.know).next (.store (.updateLifecycle lc)) (.ok u)).looked =
                [] := by
              show (if (runningIn lc).isSome = true then _ else _ : PaneClaims).looked = []
              rw [hplaced]
              rfl
            rw [hused] at hfound
            cases hfound
    · rcases hbefore hoccupies with hold | ⟨lc, rfl, -, -, hplaced, -⟩
      · exact h.looked t' thread' hother hgoes' address found hfound id hold
      · -- no other spawn has claimed the pane
        have hstarted : t' < c.fresh := by
          by_contra hge
          rw [hfresh t' (Nat.le_of_not_lt hge)] at hother
          cases hother
        have hfree := (hσ.1 _ rfl address hplaced).1 t' hstarted hne
        have hclaimed : claimedBy c t' address = true := by
          rw [claimedBy, hother, Option.any_some, hgoes', Bool.not_false, Bool.true_and,
            List.any_eq_true]
          exact ⟨_, hfound, decide_eq_true rfl⟩
        rw [hclaimed] at hfree
        cases hfree

theorem panesClaimed_start {c : Pool claimWatch} {task : DaemonTask} {w' : World}
    (h : PanesClaimed c) (hstart : c.shared.startTask task = some w') :
    PanesClaimed { c.put c.fresh ⟨task, task.program, PaneClaims.first task⟩ w' with
      fresh := c.fresh + 1 } := by
  have hdb : w'.db = c.shared.db := (World.startTask_frame hstart).1
  constructor
  · show PanesExclusive w'.db
    rw [hdb]
    exact h.exclusive
  · intro t thread hthread
    rcases Pool.of_update hthread with ⟨-, heq⟩ | ⟨-, hother⟩
    · rw [heq]
      exact reported_first hstart
    · exact h.reported t thread hother
  · intro t thread hthread hgoes address found hfound id hoccupies
    rcases Pool.of_update hthread with ⟨-, heq⟩ | ⟨-, hother⟩
    -- a task that starts has looked at no pane
    · have hnone : thread.know.looked = [] := by
        rw [heq]
        exact looked_first task
      rw [hnone] at hfound
      cases hfound
    · have hold : Occupies c.shared.db id address := by
        rw [← hdb]
        exact hoccupies
      exact h.looked t thread hother hgoes address found hfound id hold

theorem panesClaimed : Pool.ScheduledInvariant oneAtATime PanesClaimed where
  run h hfresh hthread hprog hallows hσ hexec :=
    panesClaimed_run h hfresh hthread hprog hallows hσ hexec
  start h _ hstart := panesClaimed_start h hstart
  env := by
    intro c event w' h henv
    have hdb : w'.db = c.shared.db := by rw [World.taskEnv_frame henv]
    constructor
    · show PanesExclusive w'.db
      rw [hdb]
      exact h.exclusive
    · exact h.reported
    · intro t thread hthread hgoes address found hfound id hoccupies
      have hold : Occupies c.shared.db id address := by
        rw [← hdb]
        exact hoccupies
      exact h.looked t thread hthread hgoes address found hfound id hold
  crash := by
    intro c h
    exact ⟨h.exclusive, fun t thread hthread => (by cases hthread),
      fun t thread hthread => (by cases hthread)⟩

/-- At most one running row names a pane, in every state reached by runs in which no spawn
runs in a pane while another one that has looked at it is on its way there, the end of a
killed occupant is recorded before the row of the spawn that killed it, and a commit finds
its running row unchanged. -/
theorem panes_exclusive {createdAt : DateTime} {c : Pool claimWatch}
    (hreach : Pool.Scheduled oneAtATime (.initial claimWatch (.fresh createdAt)) c) :
    PanesExclusive c.shared.db := by
  have hfresh : PanesClaimed (.initial claimWatch (.fresh createdAt)) := by
    refine ⟨?_, fun t thread hthread => (by cases hthread),
      fun t thread hthread => (by cases hthread)⟩
    rintro id id' address ⟨lc, hrow, -⟩
    cases hrow
  exact (Pool.Scheduled.invariant panesClaimed hfresh hreach).exclusive

/-! ## Two spawns in one pane -/

instance (c : Pool claimWatch) (t : Nat) (φ : PaneClaims) (o : Op) :
    Decidable (oneAtATime c t φ o) :=
  inferInstanceAs (Decidable ((∀ lc ∈ updatedBy o, _) ∧ ∀ lc ∈ committedBy o, _))

/-- `n` operations of a task, in which the environment has no say. -/
def taskRan (t n : Nat) : List (Label tasks) := List.replicate n (.run t .run)

def paneSpawn (id : SessionId) (force : Bool) : Label tasks :=
  .start (.spawn ⟨id, .claude, .host, .tmux ⟨"work", 0, 0⟩, force⟩)

/-- The daemon comes up. -/
def booted : List (Label tasks) := .start (.daemon .boot) :: taskRan 0 5

/-- The spawn up to its wait for the shim, after it has looked at its pane. -/
def paneTaken (t : Nat) (shimPid : Pid) : List (Label tasks) :=
  taskRan t 2 ++ [.run t (.flag true)] ++ taskRan t 3 ++ [.run t (.launch shimPid none)]

/-- The spawn up to its wait for the shim, in a pane where it finds nobody. -/
def paneLaunched (t : Nat) (shimPid : Pid) : List (Label tasks) :=
  taskRan t 3 ++ paneTaken t shimPid

/-- The shim of the session starts its runtime and reports it, as task `t`. -/
def shimStarts (t : Nat) (id : SessionId) (shimPid runtimePid : Pid) : List (Label tasks) :=
  [.start (.daemon (.shimLaunch id))] ++ taskRan t 2 ++
    [.env (.event (.childStarts id runtimePid 3)),
      .start (.daemon (.shimReady ⟨id, shimPid, runtimePid, 3, none⟩))] ++ taskRan (t + 1) 3

/-- The spawn records its row. -/
def rowRecorded (t : Nat) : List (Label tasks) :=
  taskRan t 2 ++ [.run t (.logs .unavailable)] ++ taskRan t 4

/-- The runtime of the session exits and its shim reports it, as task `t`. -/
def shimExits (t : Nat) (id : SessionId) : List (Label tasks) :=
  [.env (.event (.childEnds id ⟨some 0, none⟩)),
    .start (.daemon (.shimExit ⟨id, ⟨some 0, none⟩⟩))] ++ taskRan t 6

/-- A spawn that is alone. -/
def oneInPane : List (Label tasks) :=
  booted ++ [paneSpawn ⟨1⟩ false] ++ paneLaunched 1 40 ++ shimStarts 2 ⟨1⟩ 40 41 ++ rowRecorded 1

/-- The spawn finds the first session in its pane and signals its runtime, whose exit is
recorded before the spawn asks for it. -/
def paneFreed (t : Nat) : List (Label tasks) :=
  taskRan t 4 ++ [.run t (.flag true), .run t (.startTime (.known 3)), .run t (.kill .signalled),
    .run t (.count 1)] ++ shimExits (t + 1) ⟨1⟩ ++ [.env (.event (.shimDies ⟨1⟩))] ++ taskRan t 1

/-- Of two more spawns in the pane of the first one, the second is refused, and the third
takes the pane by force. -/
def takenByForce : List (Label tasks) :=
  [paneSpawn ⟨2⟩ false] ++ taskRan 4 3 ++ [paneSpawn ⟨3⟩ true] ++ paneFreed 5 ++
    paneTaken 5 60 ++ shimStarts 7 ⟨3⟩ 60 61 ++ rowRecorded 5

theorem panes_exclusive_takenByForce :
    ∃ c c' : Pool claimWatch,
      (Pool.initial claimWatch (.fresh 0)).followSchedule oneAtATime oneInPane = some c ∧
      Occupies c.shared.db ⟨1⟩ ⟨"work", 0, 0⟩ ∧
      c.followSchedule oneAtATime takenByForce = some c' ∧
      Occupies c'.shared.db ⟨3⟩ ⟨"work", 0, 0⟩ ∧ PanesExclusive c'.shared.db := by
  have hrun : ∃ c c' : Pool claimWatch,
      (Pool.initial claimWatch (.fresh 0)).followSchedule oneAtATime oneInPane = some c ∧
      Occupies c.shared.db ⟨1⟩ ⟨"work", 0, 0⟩ ∧
      c.followSchedule oneAtATime takenByForce = some c' ∧
      Occupies c'.shared.db ⟨3⟩ ⟨"work", 0, 0⟩ :=
    ⟨_, _, rfl, ⟨_, rfl, rfl, rfl⟩, rfl, ⟨_, rfl, rfl, rfl⟩⟩
  obtain ⟨c, c', hc, hfirst, hc', hthird⟩ := hrun
  have hreach := (Pool.scheduled_of_follow hc).trans (Pool.scheduled_of_follow hc')
  exact ⟨c, c', hc, hfirst, hc', hthird, panes_exclusive hreach⟩

/-- Both spawns have looked at the pane when the first one runs in it. The launch of the
second ends the runtime of the first, and nobody has recorded that when the row of the second
is written. -/
def twoInPane : List (Label tasks) :=
  booted ++ [paneSpawn ⟨1⟩ false, paneSpawn ⟨2⟩ false] ++ taskRan 1 3 ++ taskRan 2 3 ++
    paneTaken 1 40 ++ shimStarts 3 ⟨1⟩ 40 41 ++ rowRecorded 1 ++ paneTaken 2 50 ++
    [.env (.event (.childEnds ⟨1⟩ ⟨none, some 1⟩)), .env (.event (.shimDies ⟨1⟩))] ++
    shimStarts 5 ⟨2⟩ 50 51 ++ rowRecorded 2

/-- Both spawns have found the pane free, and both record that they run in it. -/
theorem panes_shared :
    ∃ c : Pool (Watch.free tasks),
      Pool.Reaches (.none (Watch.free tasks)) (.initial (Watch.free tasks) (.fresh 0)) c ∧
      Occupies c.shared.db ⟨1⟩ ⟨"work", 0, 0⟩ ∧ Occupies c.shared.db ⟨2⟩ ⟨"work", 0, 0⟩ ∧
      ¬PanesExclusive c.shared.db := by
  have hrun : ∃ c : Pool (Watch.free tasks),
      (Pool.initial (Watch.free tasks) (.fresh 0)).follow (.none _) twoInPane = some c ∧
      Occupies c.shared.db ⟨1⟩ ⟨"work", 0, 0⟩ ∧ Occupies c.shared.db ⟨2⟩ ⟨"work", 0, 0⟩ :=
    ⟨_, rfl, ⟨_, rfl, rfl, rfl⟩, _, rfl, rfl, rfl⟩
  obtain ⟨c, hc, hfirst, hsecond⟩ := hrun
  refine ⟨c, Pool.reaches_of_follow hc, hfirst, hsecond, fun hexclusive => ?_⟩
  cases hexclusive _ _ _ hfirst hsecond

end LittleOrgans.Concurrency
