import LittleOrgans.Concurrency.Probes
import LittleOrgans.Concurrency.ReadyPaths
import LittleOrgans.Concurrency.TerminalRecorders

/-!
# The exit a shim reports

The shim knows the exit status of its runtime; the exit watcher does not, and records an
exit without a code. Once the report of the shim is acknowledged its exit is stored, if the
handler of the report has not found the row ended otherwise, and if no other recorder that
read the row before stores its exit after that (`reported_exit_stored`).
-/

set_option autoImplicit false

namespace LittleOrgans.Concurrency

open LittleOrgans.Core
open LittleOrgans.Library
open LittleOrgans.Library.Monitor
open LittleOrgans.Library.Prog
open LittleOrgans.Store
open LittleOrgans.Daemon

/-! ## What the recorders do to lifecycles -/

/-- Of the statements, reads and updates of lifecycles. -/
def Op.keepsRows : Op → Bool
  | .store (.updateLifecycle _) => true
  | .store .recordProbeSweep => true
  | .store o => o.isRead
  | .memory _ => true
  | .log _ => true
  | .os _ => true

/-- A program that neither inserts nor deletes a lifecycle. -/
abbrev KeepsRows {α : Type} (p : DaemonProg α) : Prop :=
  p.Calls fun o : Op => o.keepsRows = true

theorem keepsRows_of_isProbe {o : Op} (h : o.isProbe = true) : o.keepsRows = true := by
  cases o with
  | store o => cases o <;> first | rfl | cases h
  | memory o => rfl
  | log o => rfl
  | os o => rfl

theorem keepsRows_recordTerminal (id : SessionId) (evidence : TerminationEvidence)
    (mark : Lifecycle → Bool × Lifecycle) : KeepsRows (recordTerminal id evidence mark) := by
  refine calls_bind (calls_call rfl) fun found => ?_
  cases found with
  | none => trivial
  | some lc =>
      show KeepsRows (if (mark lc).1 = true then _ else _)
      split
      · refine calls_bind (calls_call rfl) fun _ => ?_
        refine calls_bind (calls_call rfl) fun _ => ?_
        refine calls_bind (calls_call rfl) fun entered => ?_
        cases entered with
        | false => trivial
        | true => exact calls_bind (calls_call rfl) fun _ => trivial
      · trivial

theorem keepsRows_recordExited (id : SessionId) (exit : RuntimeExit)
    (evidence : TerminationEvidence) : KeepsRows (recordExited id exit evidence) := by
  refine calls_bind (calls_attempt (keepsRows_recordTerminal _ _ _)) fun result => ?_
  exact calls_bind (calls_call rfl) fun _ => calls_ofExcept result

theorem keepsRows_recordLost (id : SessionId) (evidence : LostEvidence) :
    KeepsRows (recordLost id evidence) := by
  refine calls_bind (calls_attempt (keepsRows_recordTerminal _ _ _)) fun result => ?_
  exact calls_bind (calls_call rfl) fun _ => calls_ofExcept result

/-! ## How far the handler of the report has come -/

/-- Where a recorder is, seen from the exit the shim of a session has reported. -/
inductive Reporting where
  /-- It does not handle the report. -/
  | other
  | reading
  /-- It has found the row alive, and stores the exit. -/
  | storing
  /-- It has stored the exit, or found it stored. -/
  | settled
  /-- It has found the row ended otherwise. -/
  | missed
  /-- It reports an error to the shim. -/
  | failed
  deriving DecidableEq

namespace Reporting

variable (id : SessionId) (exit : RuntimeExit)

/-- What the handler does next, after it has read this row. -/
def afterRead : Option Lifecycle → Reporting
  | none => .failed
  | some lc =>
      match lc.state with
      | .forking => .storing
      | .running => .storing
      | .exited stored => if stored = exit then .settled else .missed
      | .lost _ => .missed

/-- The handler of the report stores the exit once, in the row of the session. -/
def allows : Reporting → Op → Prop
  | .other, o => o.keepsRows = true
  | φ, .store (.updateLifecycle lc) => φ = .storing ∧ lc.sessionId = id ∧ lc.state = .exited exit
  | φ, .store (.getLifecycle id') => φ = .reading ∧ id' = id
  | _, .store _ => False
  | _, _ => True

def next : Reporting → (o : Op) → Except DaemonError o.Res → Reporting
  | .reading, .store (.getLifecycle _), .ok found => afterRead exit found
  | .reading, .store (.getLifecycle _), .error _ => .failed
  | .storing, .store (.updateLifecycle _), .ok _ => .settled
  | .storing, .store (.updateLifecycle _), .error _ => .failed
  | φ, _, _ => φ

/-- What a recorder knows at its start. -/
def first : Recorder → Reporting
  | .shimExit reported => if reported = ⟨id, exit⟩ then .reading else .other
  | _ => .other

/-- An acknowledged report was stored, found stored, or missed. -/
def post (recorder : Recorder) (r : Except DaemonError Reply) (φ : Reporting) : Prop :=
  recorder = .shimExit ⟨id, exit⟩ → r.isOk = true → φ = .settled ∨ φ = .missed

end Reporting

/-- The monitor of the recorders, for one session and the exit its shim reports. -/
abbrev reporting (id : SessionId) (exit : RuntimeExit) : Monitor daemonOps DaemonError where
  State := Reporting
  allows := Reporting.allows id exit
  returns := Knowledge.returns
  next := Reporting.next exit

section Handler

variable {id : SessionId} {exit : RuntimeExit}

/-- What a recorder does that does not handle the report. -/
theorem other_of_keepsRows {o : Op} (h : o.keepsRows = true) (φ : Reporting) (hφ : φ = .other) :
    (reporting id exit).allows φ o ∧ ∀ r, (reporting id exit).next φ o r = .other := by
  subst hφ
  exact ⟨h, fun r => rfl⟩

theorem other_of_calls {α : Type} {p : DaemonProg α} (hp : KeepsRows p) :
    (reporting id exit).Keeps (· = .other) p :=
  keeps_of_calls hp fun _ => other_of_keepsRows

theorem other_program (recorder : Recorder) :
    (reporting id exit).Keeps (· = .other) recorder.program := by
  have hlook : ∀ o : Op, o.isLook = true → ∀ φ, φ = Reporting.other →
      (reporting id exit).allows φ o ∧ ∀ r, (reporting id exit).next φ o r = .other :=
    fun o ho => other_of_keepsRows (keepsRows_of_isProbe (isProbe_of_isLook ho))
  have hlost : ∀ id' evidence, (reporting id exit).Keeps (· = .other) (recordLost id' evidence) :=
    fun id' evidence => other_of_calls (keepsRows_recordLost id' evidence)
  cases recorder with
  | shimExit reported =>
      exact keeps_bind (other_of_calls (keepsRows_recordExited _ _ _)) fun _ => keeps_ret _
  | exitWatcher id' =>
      have hexited : (reporting id exit).Keeps (· = .other)
          (recordExited id' ⟨none, none⟩ .processExit) :=
        other_of_calls (keepsRows_recordExited _ _ _)
      exact keeps_bind (keeps_recordWatcherExit hlook (hlost id') hexited) fun _ => keeps_ret _
  | reconcileOnce =>
      have hwatcher : ∀ id' pid, (reporting id exit).Keeps (· = .other)
          (memory (.startExitWatcher id' pid)) := fun id' pid => other_of_calls (calls_call rfl)
      exact keeps_bind
        (keeps_reconcileOnce hlook hlost hwatcher (other_of_calls (calls_call rfl)))
        fun _ => keeps_ret _
  | kill request => exact keeps_bind (keeps_killRuntime hlook (hlost _ _)) fun _ => keeps_ret _

/-- An acknowledged report is settled or missed. -/
def Acknowledges {α : Type} (r : Except DaemonError α) (φ : Reporting) : Prop :=
  r.isOk = true → φ = .settled ∨ φ = .missed

/-- How the handler of the report leaves its record of the exit. -/
def Handles {α : Type} (r : Except DaemonError α) (φ : Reporting) : Prop :=
  φ ≠ .other ∧ Acknowledges r φ

theorem handles_settled {α : Type} (r : Except DaemonError α) : Handles r .settled :=
  ⟨by decide, fun _ => .inl rfl⟩

theorem handles_missed {α : Type} (r : Except DaemonError α) : Handles r .missed :=
  ⟨by decide, fun _ => .inr rfl⟩

theorem handles_failed {α : Type} (e : DaemonError) :
    Handles (.error e : Except DaemonError α) .failed :=
  ⟨by decide, fun h => absurd h Bool.false_ne_true⟩

/-- What the handler does after it has stored the exit. -/
theorem reports_finishTerminal (lc : Lifecycle) :
    (reporting id exit).Conforms (finishTerminal id lc .shimExit) .settled
      fun _ φ => φ = .settled := by
  refine conforms_call_bind.mpr ⟨trivial, fun _ _ => ?_, fun e _ => rfl⟩
  refine conforms_call_bind.mpr ⟨trivial, fun entered _ => ?_, fun e _ => rfl⟩
  cases entered with
  | false => rfl
  | true => exact conforms_call_bind.mpr ⟨trivial, fun _ _ => rfl, fun e _ => rfl⟩

theorem reports_recordTerminal :
    (reporting id exit).Conforms
      (recordTerminal id .shimExit fun lc => lc.markExited exit) .reading
      Handles := by
  refine conforms_call_bind.mpr ⟨⟨rfl, rfl⟩, fun found hfound => ?_, fun e _ => handles_failed e⟩
  cases found with
  -- without a row there is nothing to store
  | none => exact handles_failed _
  | some lc =>
      have hid : lc.sessionId = id := hfound lc rfl
      -- the row is alive: the exit is stored and its event entered
      have hstores : lc.markExited exit = (true, { lc with state := .exited exit }) →
          (reporting id exit).Conforms (if (lc.markExited exit).1 = true then do
              store (.updateLifecycle (lc.markExited exit).2)
              finishTerminal id (lc.markExited exit).2 .shimExit
            else return none : DaemonProg (Option RuntimeEvent)) .storing
            Handles := by
        intro hmarked
        rw [hmarked, if_pos rfl]
        refine conforms_call_bind.mpr ⟨⟨rfl, hid, rfl⟩, fun _ _ => ?_, fun e _ => handles_failed e⟩
        refine (reports_finishTerminal _).mono fun r φ hφ => ?_
        rw [hφ]
        exact handles_settled _
      show (reporting id exit).Conforms (if (lc.markExited exit).1 = true then _ else _)
        (Reporting.afterRead exit (some lc)) _
      simp only [Reporting.afterRead]
      cases hstate : lc.state with
      | forking => exact hstores (by rw [Lifecycle.markExited, hstate])
      | running => exact hstores (by rw [Lifecycle.markExited, hstate])
      -- a loss that was recorded first is not replaced
      | lost evidence =>
          have hmarked : (lc.markExited exit).1 = false := by rw [Lifecycle.markExited, hstate]
          rw [hmarked]
          exact handles_missed _
      -- an exit that was recorded first stays, and is this one or another one
      | exited stored =>
          have hmarked : (lc.markExited exit).1 = false := by rw [Lifecycle.markExited, hstate]
          rw [hmarked, if_neg Bool.false_ne_true]
          dsimp only
          split
          · exact handles_settled _
          · exact handles_missed _

theorem reports_recordShimExit :
    (reporting id exit).Conforms (recordShimExit ⟨id, exit⟩) .reading Acknowledges := by
  refine conforms_attempt_bind.mpr (reports_recordTerminal.mono fun result φ hφ => ?_)
  have hmemory : (reporting id exit).allows φ (.memory (.forgetShim id)) := by
    cases φ <;> trivial
  have hnext : ∀ r, (reporting id exit).next φ (.memory (.forgetShim id)) r = φ := by
    intro r
    cases φ <;> rfl
  refine conforms_call_bind.mpr ⟨hmemory, fun a _ => ?_, fun e _ => nofun⟩
  rw [hnext]
  exact conforms_ofExcept.mpr hφ.2

theorem reports_program (recorder : Recorder) :
    (reporting id exit).Conforms recorder.program (Reporting.first id exit recorder)
      (Reporting.post id exit recorder) := by
  by_cases hreport : recorder = .shimExit ⟨id, exit⟩
  · subst hreport
    rw [Reporting.first, if_pos rfl]
    refine conforms_bind.mpr (reports_recordShimExit.mono fun r φ hφ => ?_)
    cases r with
    | ok event => exact fun _ _ => hφ rfl
    | error e => exact fun _ => nofun
  · have hfirst : Reporting.first id exit recorder = .other := by
      cases recorder with
      | shimExit reported =>
          rw [Reporting.first, if_neg]
          rintro rfl
          exact hreport rfl
      | _ => rfl
    rw [hfirst]
    refine (other_program recorder .other rfl).mono fun _ φ _ h => ?_
    exact absurd h hreport

end Handler

/-- The recorders, watched for one session and the exit its shim reports. -/
abbrev reportWatch (id : SessionId) (exit : RuntimeExit) : Watch recorders where
  monitor := reporting id exit
  first := Reporting.first id exit
  post := Reporting.post id exit
  conforms := reports_program
  returns := fun h => returns_of_exec h

/-! ## When the reported exit is stored -/

/-- The runtime was lost. -/
def isLoss : LifecycleState → Bool
  | .lost _ => true
  | _ => false

/-- The report a recorder was started for. -/
def Recorder.report : Recorder → Option ShimExit
  | .shimExit reported => some reported
  | _ => none

/-- The shim of the session reports one exit, and no loss is recorded for it. -/
def reportsExitOnly (id : SessionId) (exit : RuntimeExit) : Condition (reportWatch id exit) where
  op _ _ o _ := ∀ lc ∈ storedByOp o, lc.sessionId = id → isLoss lc.state = false
  start recorder _ := ∀ reported ∈ recorder.report, reported.sessionId = id → reported.exit = exit

/-- Besides, the handler of the report finds the row alive or ended with the reported exit,
and no other recorder stores another exit over the reported one. -/
def reportPrevails (id : SessionId) (exit : RuntimeExit) : Condition (reportWatch id exit) where
  op φ choice o w :=
    (reportsExitOnly id exit).op φ choice o w ∧
    (φ = .reading → Reporting.afterRead exit (w.db.getLifecycle id) ≠ .missed) ∧
    ∀ lc ∈ storedByOp o, lc.sessionId = id → storedState w.db id = some (.exited exit) →
      lc.state = .exited exit
  start := (reportsExitOnly id exit).start

/-- A handler that is settled has its exit in the store, and none has missed. -/
structure ReportStored (id : SessionId) (exit : RuntimeExit) (w : World)
    (minds : Nat → Option (Recorder × Reporting)) : Prop where
  settled : ∀ t recorder, minds t = some (recorder, .settled) →
    storedState w.db id = some (.exited exit)
  missed : ∀ t recorder, minds t ≠ some (recorder, .missed)

section Steps

variable {id : SessionId} {exit : RuntimeExit} {w w' : World} {φ : Reporting} {choice : Choice}
  {o : Op} {r : Except DaemonError o.Res}

theorem Reporting.keepsRows_of_allows (h : φ.allows id exit o) : o.keepsRows = true := by
  cases φ with
  | other => exact h
  | _ =>
      cases o with
      | store o =>
          cases o with
          | updateLifecycle lc => rfl
          | getLifecycle id' => rfl
          | _ => exact h.elim
      | memory o => rfl
      | log o => rfl
      | os o => rfl

/-- A recorder writes a lifecycle by storing an end, and deletes none. -/
theorem writes_of_keepsRows (h : o.keepsRows = true) :
    o.writes = storedByOp o ∧ o.deletes = none := by
  cases o with
  | store o => cases o <;> first | exact ⟨rfl, rfl⟩ | cases h
  | memory o => exact ⟨rfl, rfl⟩
  | log o => exact ⟨rfl, rfl⟩
  | os o => exact ⟨rfl, rfl⟩

/-- An operation of a recorder leaves the row of the session, or updates it. -/
theorem storedState_exec (hkeeps : o.keepsRows = true) (h : o.exec choice w = some (r, w')) :
    storedState w'.db id = storedState w.db id ∨
      ∃ lc ∈ storedByOp o, lc.sessionId = id ∧ storedState w'.db id = some lc.state := by
  obtain ⟨hwrites, hdeletes⟩ := writes_of_keepsRows hkeeps
  cases Op.rowStep h id with
  | same hrow => exact .inl (congrArg _ hrow)
  | written lc _ hlc hid hrow =>
      refine .inr ⟨lc, hwrites ▸ hlc, hid, ?_⟩
      rw [storedState, hrow]
      rfl
  | deleted hid _ =>
      rw [hdeletes] at hid
      cases hid

/-- A stored report stays. -/
theorem storedState_prevails (hcond : (reportPrevails id exit).op φ choice o w)
    (hkeeps : o.keepsRows = true) (h : o.exec choice w = some (r, w'))
    (hstored : storedState w.db id = some (.exited exit)) :
    storedState w'.db id = some (.exited exit) := by
  rcases storedState_exec hkeeps h with hsame | ⟨lc, hlc, hid, hwritten⟩
  · rw [hsame, hstored]
  · rw [hwritten, hcond.2.2 lc hlc hid hstored]

theorem afterRead_settled {found : Option Lifecycle}
    (h : Reporting.afterRead exit found = .settled) :
    found.map Lifecycle.state = some (.exited exit) := by
  cases found with
  | none => cases h
  | some lc =>
      simp only [Reporting.afterRead] at h
      split at h
      · cases h
      · cases h
      · next hstate =>
          split at h
          · next hexit => rw [Option.map_some, hstate, hexit]
          · cases h
      · cases h

/-- A handler comes to be settled by finding the exit stored, or by storing it. -/
theorem storedState_settles (hallows : φ.allows id exit o) (h : o.exec choice w = some (r, w'))
    (hnext : φ.next exit o r = .settled) :
    φ = .settled ∨ storedState w'.db id = some (.exited exit) := by
  cases φ with
  | settled => exact .inl rfl
  -- the handler reads the row and finds its exit stored
  | reading =>
      cases o with
      | store o =>
          cases o with
          | getLifecycle id' =>
              obtain ⟨-, rfl⟩ := hallows
              cases r with
              | error e => cases hnext
              | ok found =>
                  obtain ⟨rfl, rfl⟩ := answers_getLifecycle.mp ⟨choice, h⟩
                  exact .inr (afterRead_settled hnext)
          | updateLifecycle lc => cases hallows.1
          | _ => exact hallows.elim
      | _ => cases hnext
  -- the handler stores the exit itself
  | storing =>
      cases o with
      | store o =>
          cases o with
          | updateLifecycle lc =>
              obtain ⟨-, rfl, hstate⟩ := hallows
              cases r with
              | error e => cases hnext
              | ok u =>
                  obtain ⟨db, hupdate, rfl⟩ := answers_updateLifecycle.mp ⟨choice, h⟩
                  refine .inr ?_
                  rw [storedState, Database.getLifecycle_update hupdate, if_pos rfl]
                  exact congrArg some hstate
          | getLifecycle id' => cases hallows.1
          | _ => exact hallows.elim
      | _ => cases hnext
  | other => cases hnext
  | missed => cases hnext
  | failed => cases hnext

/-- A handler misses only by its read. -/
theorem not_missed (hcond : (reportPrevails id exit).op φ choice o w)
    (hallows : φ.allows id exit o) (h : o.exec choice w = some (r, w')) (hφ : φ ≠ .missed) :
    φ.next exit o r ≠ .missed := by
  intro hnext
  cases φ with
  | missed => exact hφ rfl
  -- the condition says that a row which has ended holds this exit
  | reading =>
      cases o with
      | store o =>
          cases o with
          | getLifecycle id' =>
              obtain ⟨-, rfl⟩ := hallows
              cases r with
              | error e => cases hnext
              | ok found =>
                  obtain ⟨rfl, rfl⟩ := answers_getLifecycle.mp ⟨choice, h⟩
                  exact hcond.2.1 rfl hnext
          | updateLifecycle lc => cases hallows.1
          | _ => exact hallows.elim
      | _ => cases hnext
  -- a write that succeeds is not a miss
  | storing =>
      cases o with
      | store o =>
          cases o with
          | updateLifecycle lc => cases r <;> cases hnext
          | getLifecycle id' => cases hallows.1
          | _ => exact hallows.elim
      | _ => cases hnext
  | other => cases hnext
  | settled => cases hnext
  | failed => cases hnext

end Steps

theorem reportStored (id : SessionId) (exit : RuntimeExit) :
    Pool.Invariant (reportWatch id exit) (reportPrevails id exit) (ReportStored id exit) where
  op := by
    intro s minds t origin φ choice o r s' hs hmind hallows hcond hexec
    have hkeeps := Reporting.keepsRows_of_allows hallows
    constructor
    · intro t' recorder ht'
      rcases Pool.of_update ht' with ⟨rfl, heq⟩ | ⟨-, hother⟩
      · obtain ⟨rfl, hnext⟩ := Prod.mk.inj heq
        rcases storedState_settles hallows hexec hnext.symm with rfl | hstored
        · exact storedState_prevails hcond hkeeps hexec (hs.settled t' recorder hmind)
        · exact hstored
      · exact storedState_prevails hcond hkeeps hexec (hs.settled t' recorder hother)
    · intro t' recorder ht'
      rcases Pool.of_update ht' with ⟨rfl, heq⟩ | ⟨-, hother⟩
      · obtain ⟨rfl, hnext⟩ := Prod.mk.inj heq
        refine not_missed hcond hallows hexec ?_ hnext.symm
        rintro rfl
        exact hs.missed t' recorder hmind
      · exact hs.missed t' recorder hother
  start := by
    intro s minds t origin s' hs _ hstart _
    cases hstart
    -- No recorder starts with its report settled or missed.
    have hfirst : Reporting.first id exit origin ≠ .settled ∧
        Reporting.first id exit origin ≠ .missed := by
      cases origin with
      | shimExit reported =>
          rw [Reporting.first]
          split <;> exact ⟨nofun, nofun⟩
      | _ => exact ⟨nofun, nofun⟩
    constructor
    · intro t' recorder ht'
      rcases Pool.of_update ht' with ⟨-, heq⟩ | ⟨-, hother⟩
      · exact absurd (Prod.mk.inj heq).2.symm hfirst.1
      · exact hs.settled t' recorder hother
    · intro t' recorder ht'
      rcases Pool.of_update ht' with ⟨-, heq⟩ | ⟨-, hother⟩
      · exact absurd (Prod.mk.inj heq).2.symm hfirst.2
      · exact hs.missed t' recorder hother
  env := by
    intro s minds event s' hs _ henv
    rw [World.env_frame henv]
    exact ⟨hs.settled, hs.missed⟩
  crash := by
    intro s minds _ _
    exact ⟨nofun, nofun⟩

/-- Once the report of the shim is acknowledged, its exit is stored: in every run of the
recorders in which no loss is recorded, each handler of the report finds the row alive or
ended with the reported exit, and no other recorder stores another exit over that one. -/
theorem reported_exit_stored {w₀ : World} {id : SessionId} {exit : RuntimeExit}
    {c : Pool (reportWatch id exit)} {t : Nat} {thread : Thread (reportWatch id exit)}
    {reply : Reply}
    (hreach : Pool.Reaches (reportPrevails id exit) (.initial (reportWatch id exit) w₀) c)
    (hthread : c.threads t = some thread) (horigin : thread.origin = .shimExit ⟨id, exit⟩)
    (hack : thread.prog = .ret reply) : storedState c.shared.db id = some (.exited exit) := by
  obtain ⟨hconforming, -, hstored⟩ := Pool.Reaches.invariant (reportStored id exit)
    (Pool.holds_initial ⟨nofun, nofun⟩) hreach
  have hmind : c.minds t = some (.shimExit ⟨id, exit⟩, thread.know) := by
    rw [Pool.minds, hthread, Option.map_some, horigin]
  have hpost := hconforming.post_of_ret hthread hack
  rcases hpost horigin rfl with hsettled | hmissed
  · rw [hsettled] at hmind
    exact hstored.settled t _ hmind
  · rw [hmissed] at hmind
    exact absurd hmind (hstored.missed t _)

/-! ## A watcher that is first -/

instance (id : SessionId) (exit : RuntimeExit) : (reportsExitOnly id exit).Checkable where
  op _ _ _ _ := inferInstanceAs (Decidable (∀ lc ∈ _, _ → _))
  start _ _ := inferInstanceAs (Decidable (∀ reported ∈ _, _ → _))
  env _ _ := .isTrue trivial
  crash _ := .isTrue trivial

instance (id : SessionId) (exit : RuntimeExit) : (reportPrevails id exit).Checkable where
  op _ _ _ _ :=
    inferInstanceAs (Decidable ((∀ lc ∈ _, _ → _) ∧ (_ → _) ∧ ∀ lc ∈ _, _ → _ → _))
  start _ _ := inferInstanceAs (Decidable (∀ reported ∈ _, _ → _))
  env _ _ := .isTrue trivial
  crash _ := .isTrue trivial

/-- `n` operations of recorder `t`, over a store whose failed calls have no effect. -/
def reportRan (t n : Nat) : List (Label recorders) :=
  List.replicate n (.run t .run)

/-- The handler of the report has read the row when the watcher records its exit; then the
handler stores the reported one over it. -/
def handlerFirst : List (Label recorders) :=
  .start sampleShimExit :: reportRan 0 1 ++
    .start (.exitWatcher sampleId) :: reportRan 1 2 ++ [.run 1 (.flag true)] ++ reportRan 1 6

theorem reported_exit_stored_handlerFirst :
    ∃ c c' : Pool (reportWatch sampleId ⟨some 0, none⟩),
      (Pool.initial (reportWatch sampleId ⟨some 0, none⟩) endedWorld).follow
        (reportPrevails sampleId ⟨some 0, none⟩) handlerFirst = some c ∧
      storedState c.shared.db sampleId = some (.exited ⟨none, none⟩) ∧
      c.follow (reportPrevails sampleId ⟨some 0, none⟩) (reportRan 0 4) = some c' ∧
      storedState c'.shared.db sampleId = some (.exited ⟨some 0, none⟩) := by
  have hrun : ∃ (c c' : Pool (reportWatch sampleId ⟨some 0, none⟩))
      (thread : Thread (reportWatch sampleId ⟨some 0, none⟩)) (reply : Reply),
      (Pool.initial (reportWatch sampleId ⟨some 0, none⟩) endedWorld).follow
        (reportPrevails sampleId ⟨some 0, none⟩) handlerFirst = some c ∧
      storedState c.shared.db sampleId = some (.exited ⟨none, none⟩) ∧
      c.follow (reportPrevails sampleId ⟨some 0, none⟩) (reportRan 0 4) = some c' ∧
      c'.threads 0 = some thread ∧ thread.origin = sampleShimExit ∧ thread.prog = .ret reply :=
    ⟨_, _, _, _, rfl, rfl, rfl, rfl, rfl, rfl⟩
  obtain ⟨c, c', thread, reply, hc, hwatcher, hc', hthread, horigin, hack⟩ := hrun
  have hreach := (Pool.reaches_of_follow hc).trans (Pool.reaches_of_follow hc')
  exact ⟨c, c', hc, hwatcher, hc', reported_exit_stored hreach hthread horigin hack⟩

/-- The watcher records its exit; then the report of the shim comes in. -/
def watcherFirst : List (Label recorders) :=
  .start (.exitWatcher sampleId) :: reportRan 0 2 ++ [.run 0 (.flag true)] ++ reportRan 0 6 ++
    .start sampleShimExit :: reportRan 1 2

/-- The report is acknowledged, and the exit that is stored has no code. -/
theorem watcher_exit_stays :
    ¬∀ (w₀ : World) (id : SessionId) (exit : RuntimeExit) (c : Pool (reportWatch id exit))
      (t : Nat) (thread : Thread (reportWatch id exit)) (reply : Reply),
      Pool.Reaches (reportsExitOnly id exit) (.initial (reportWatch id exit) w₀) c → c.Quiescent →
      c.threads t = some thread → thread.origin = .shimExit ⟨id, exit⟩ →
      thread.prog = .ret reply → storedState c.shared.db id = some (.exited exit) := by
  intro h
  have hrun : ∃ (c : Pool (reportWatch sampleId ⟨some 0, none⟩))
      (thread : Thread (reportWatch sampleId ⟨some 0, none⟩)) (reply : Reply),
      (Pool.initial (reportWatch sampleId ⟨some 0, none⟩) endedWorld).follow
        (reportsExitOnly sampleId ⟨some 0, none⟩) watcherFirst = some c ∧
      (∀ t < c.fresh, (c.threads t).all Thread.isDone = true) ∧
      c.threads 1 = some thread ∧ thread.origin = sampleShimExit ∧ thread.prog = .ret reply ∧
      storedState c.shared.db sampleId = some (.exited ⟨none, none⟩) :=
    ⟨_, _, _, rfl, by decide, rfl, rfl, rfl, rfl⟩
  obtain ⟨c, thread, reply, hc, hdone, hthread, horigin, hack, hstored⟩ := hrun
  have hreach := Pool.reaches_of_follow hc
  have hquiet := (Pool.Reaches.freshAbove (fun _ _ => rfl) hreach).quiescent hdone
  have hexit := h endedWorld sampleId ⟨some 0, none⟩ c 1 thread reply hreach hquiet hthread horigin
    hack
  rw [hstored] at hexit
  cases hexit

end LittleOrgans.Concurrency
