import LittleOrgans.Concurrency.LateFaults
import LittleOrgans.Concurrency.Probes

/-!
# The recorders of the end of a runtime

Four tasks record how a runtime ended: the handler of a shim's exit report, the
exit watcher, the reconciler and the kill path. Each reads the row, stores the
end, enters the session into the set of terminated events, and appends the event
if it was the first to enter it: four steps between which the others run. The
machine `recorders` runs any number of them, from any world; in `lateRecorders` a
write can also be applied and reported as failed.

`one_terminal_event` says when the event log ends up with exactly the event of
the stored end: when the first recorder to enter the session finds its own end in
the row, no other end is stored after that, its append does not fail, and no write
of an end that is reported as failed is applied.
-/

set_option autoImplicit false

namespace LittleOrgans.Concurrency

open LittleOrgans.Core
open LittleOrgans.Library
open LittleOrgans.Library.Monitor
open LittleOrgans.Store
open LittleOrgans.Daemon
open LittleOrgans.Runtime (EventLogKey)

/-- The tasks that record the end of a runtime. -/
inductive Recorder where
  | shimExit (exit : ShimExit)
  | exitWatcher (id : SessionId)
  | reconcileOnce
  | kill (request : KillRequest)

/-- What a recorder runs. -/
def Recorder.program : Recorder → DaemonProg Reply
  | .shimExit exit => quiet (recordShimExit exit)
  | .exitWatcher id => quiet (recordWatcherExit id)
  | .reconcileOnce => quiet Concurrency.reconcileOnce
  | .kill request => quiet (killRuntime request)

/-- The recorders on their own: each can be started at any time and again. -/
abbrev recorders : Machine daemonOps DaemonError where
  Shared := World
  Choice := Choice
  Origin := Recorder
  Env := EnvEvent
  Result := Reply
  exec := fun choice o w => o.exec choice w
  start := fun _ w => some w
  program := Recorder.program
  env := fun event w => w.env event
  crash := World.crashed

/-- The recorders over a store whose calls can fail late. -/
abbrev lateRecorders : Machine daemonOps DaemonError where
  Shared := World
  Choice := LateChoice
  Origin := Recorder
  Env := EnvEvent
  Result := Reply
  exec := fun choice o w => o.execLate choice w
  start := fun _ w => some w
  program := Recorder.program
  env := fun event w => w.env event
  crash := World.crashed

/-- The event reports the end that a lifecycle stores. -/
def reportsEnd (event : RuntimeEvent) (lc : Lifecycle) : Bool :=
  match event, lc.state with
  | .terminated id code signal _, .exited exit =>
      id = lc.sessionId ∧ code = exit.code ∧ signal = exit.signal
  | .lost id evidence, .lost stored => id = lc.sessionId ∧ evidence = stored
  | _, _ => false

/-! ## How far a recorder has come -/

/-- How far a recorder has come with an end. -/
inductive Recording where
  | idle
  /-- The end is stored, and the session not yet entered. -/
  | stored (lc : Lifecycle)
  /-- The session is entered, and the event not yet appended. -/
  | marked (lc : Lifecycle)

namespace Recording

/-- Of the store, a recorder writes the end of one row. -/
def allowsStore (φ : Recording) : StoreOp → Prop
  | .updateLifecycle lc => φ = .idle ∧ lc.state.isTerminal = true
  | .insertForking _ => False
  | .deleteLifecycle _ => False
  | .beginSpawnIntent _ => False
  | .commitSpawnIntent _ _ _ => False
  | .abortSpawnIntent _ _ => False
  | _ => True

/-- The operations of a recorder: an end is stored, then entered, then reported. -/
def allows (φ : Recording) : Op → Prop
  | .store o => φ.allowsStore o
  | .memory (.insertTerminatedEvent id) => ∃ lc, φ = .stored lc ∧ lc.sessionId = id
  | .log (.appendEvent event) => ∃ lc, φ = .marked lc ∧ reportsEnd event lc = true
  | _ => True

/-- The session of a stored end is entered. -/
def mark : Recording → Recording
  | .idle => .idle
  | .stored lc => .marked lc
  | .marked lc => .marked lc

/-- How far it is after a store call. -/
def afterStore (φ : Recording) : (o : StoreOp) → Except DaemonError o.Res → Recording
  | .updateLifecycle lc, .ok _ => .stored lc
  | _, _ => φ

/-- How far it is after an access to the memory: the first to enter a session reports its end. -/
def afterMemory (φ : Recording) : (o : MemoryOp) → Except DaemonError o.Res → Recording
  | .insertTerminatedEvent _, .ok first => if first then φ.mark else .idle
  | _, _ => φ

/-- How far it is after an operation on the event log. -/
def afterLog (φ : Recording) : (o : LogOp) → Except DaemonError o.Res → Recording
  | .appendEvent _, _ => .idle
  | .pollEvents _, _ => φ

/-- How far it is after an operation. -/
def next (φ : Recording) : (o : Op) → Except DaemonError o.Res → Recording
  | .store o, r => φ.afterStore o r
  | .memory o, r => φ.afterMemory o r
  | .log o, r => φ.afterLog o r
  | .os _, _ => φ

/-- What every result of an operation satisfies: a lifecycle is read under its own
session id, and of the memory only the start of a watcher can fail. -/
def returns : (o : Op) → Except DaemonError o.Res → Prop
  | .store (.getLifecycle id), .ok found => ∀ lc ∈ found, lc.sessionId = id
  | .memory o, .error _ => ∃ id runtimePid, o = .startExitWatcher id runtimePid
  | _, _ => True

theorem returns_of_exec {choice : Choice} {w w' : World} {o : Op}
    {r : Except DaemonError o.Res} (h : o.exec choice w = some (r, w')) : returns o r := by
  have hknown := Concurrency.returns_of_exec h
  cases o with
  | store o =>
      cases r with
      | error e => cases o <;> exact trivial
      | ok a =>
          cases o with
          | getLifecycle id => exact hknown
          | _ => exact trivial
  | memory o =>
      cases r with
      | ok a => trivial
      | error e => exact (MemoryOp.exec_error h).2
  | log o => cases r <;> trivial
  | os o => cases r <;> trivial

theorem returns_of_execLate {choice : LateChoice} {w w' : World} {o : Op}
    {r : Except DaemonError o.Res} (h : o.execLate choice w = some (r, w')) : returns o r := by
  rcases Op.execLate_cases h with hexec | ⟨-, hlate⟩
  · exact returns_of_exec hexec
  · cases hlate with
    | mk o a error heffect hframe => cases o <;> exact trivial

end Recording

/-- The monitor of the recorders. -/
abbrev recording : Monitor daemonOps DaemonError where
  State := Recording
  allows := Recording.allows
  returns := Recording.returns
  next := Recording.next

/-! ## The recorders keep to it -/

/-- The program has recorded the end it has begun to record. -/
def Settles {α : Type} (_ : Except DaemonError α) (φ : Recording) : Prop := φ = .idle

theorem records_finishTerminal {id : SessionId} {lc : Lifecycle} {evidence : TerminationEvidence}
    (hid : lc.sessionId = id) (hevent : reportsEnd (terminalEvent lc evidence) lc = true) :
    recording.Conforms (finishTerminal id lc evidence) (.stored lc) Settles := by
  refine conforms_call_bind.mpr ⟨trivial, fun _ _ => ?_, fun e h => nomatch h⟩
  refine conforms_call_bind.mpr ⟨⟨lc, rfl, hid⟩, fun first _ => ?_, fun e h => nomatch h⟩
  cases first with
  | false => rfl
  | true => exact conforms_call_bind.mpr ⟨⟨lc, rfl, hevent⟩, fun _ _ => rfl, fun _ _ => rfl⟩

/-- A recorder stores an end over a row it has read alive, and the event it
appends reports that end. -/
theorem records_recordTerminal {id : SessionId} {evidence : TerminationEvidence}
    {mark : Lifecycle → Bool × Lifecycle} (state : LifecycleState)
    (hstate : state.isTerminal = true)
    (hmark : ∀ {lc lc'}, mark lc = (true, lc') →
      lc.state.terminalKind = none ∧ lc' = { lc with state := state })
    (hevent : ∀ lc : Lifecycle,
      reportsEnd (terminalEvent { lc with state := state } evidence)
        { lc with state := state } = true) :
    recording.Conforms (recordTerminal id evidence mark) .idle Settles := by
  refine conforms_call_bind.mpr ⟨trivial, fun found hfound => ?_, fun e _ => rfl⟩
  cases found with
  | none => rfl
  | some lc =>
      have hid : lc.sessionId = id := hfound lc rfl
      show recording.Conforms (if (mark lc).1 = true then _ else _) _ _
      split
      · next hmarked =>
          have hlc : (mark lc).2 = { lc with state := state } :=
            (hmark (show mark lc = (true, (mark lc).2) by rw [← hmarked])).2
          have hwrite : recording.allows .idle (.store (.updateLifecycle (mark lc).2)) := by
            rw [hlc]
            exact ⟨rfl, hstate⟩
          refine conforms_call_bind.mpr ⟨hwrite, fun _ _ => ?_, fun e _ => rfl⟩
          refine records_finishTerminal ?_ ?_
          · rw [hlc]
            exact hid
          · rw [hlc]
            exact hevent lc
      · rfl

/-- A recorder forgets the shim of its session at the end. -/
theorem records_attempt_forgetShim {α : Type} {p : DaemonProg α}
    (h : recording.Conforms p .idle Settles) (id : SessionId) :
    recording.Keeps (· = .idle) (do
      let result ← p.attempt
      memory (.forgetShim id)
      Prog.ofExcept result) := by
  rintro _ rfl
  refine conforms_attempt_bind.mpr (h.mono fun result φ hφ => ?_)
  cases hφ
  refine conforms_call_bind.mpr ⟨trivial, fun _ _ => ?_, fun e _ => rfl⟩
  exact conforms_ofExcept.mpr rfl

/-- The evidence of an exit names a process, not a loss. -/
theorem records_recordExited (id : SessionId) (exit : RuntimeExit)
    {evidence : TerminationEvidence} (hevidence : ∀ lost, evidence ≠ .lost lost) :
    recording.Keeps (· = .idle) (recordExited id exit evidence) := by
  refine records_attempt_forgetShim
    (records_recordTerminal (.exited exit) rfl Lifecycle.markExited_eq_true fun lc => ?_) id
  cases evidence with
  | lost lost => exact absurd rfl (hevidence lost)
  | shimExit => simp [reportsEnd, terminalEvent, terminatedEvent]
  | processExit => simp [reportsEnd, terminalEvent, terminatedEvent]

theorem records_recordLost (id : SessionId) (evidence : LostEvidence) :
    recording.Keeps (· = .idle) (recordLost id evidence) := by
  refine records_attempt_forgetShim
    (records_recordTerminal (.lost evidence) rfl Lifecycle.markLost_eq_true fun lc => ?_) id
  simp [reportsEnd, terminalEvent, lostEvent]

/-- Nothing is recorded by looking. -/
theorem idle_of_isLook {o : Op} (h : o.isLook = true) (φ : Recording) (hφ : φ = .idle) :
    recording.allows φ o ∧ ∀ r, recording.next φ o r = .idle := by
  subst hφ
  cases o with
  | os o => exact ⟨trivial, fun r => rfl⟩
  | memory o => cases h
  | log o => cases h
  | store o => cases o <;> first | exact ⟨trivial, fun r => rfl⟩ | cases h

theorem records_program (r : Recorder) : recording.Conforms r.program .idle Settles := by
  have hkeeps : recording.Keeps (· = .idle) r.program := by
    cases r with
    | shimExit exit =>
        exact keeps_bind (records_recordExited _ _ fun _ h => by cases h) fun _ => keeps_ret _
    | exitWatcher id =>
        have hexited : recording.Keeps (· = .idle) (recordExited id ⟨none, none⟩ .processExit) :=
          records_recordExited _ _ fun _ h => by cases h
        exact keeps_bind
          (keeps_recordWatcherExit (fun _ => idle_of_isLook) (records_recordLost id) hexited)
          fun _ => keeps_ret _
    | reconcileOnce =>
        refine keeps_bind (keeps_reconcileOnce (fun _ => idle_of_isLook) records_recordLost
          (fun id pid => keeps_call ?_) (keeps_call ?_)) fun _ => keeps_ret _
        · rintro _ rfl
          exact ⟨trivial, fun r _ => rfl⟩
        · rintro _ rfl
          exact ⟨trivial, fun r _ => rfl⟩
    | kill request =>
        exact keeps_bind (keeps_killRuntime (fun _ => idle_of_isLook) (records_recordLost _ _))
          fun _ => keeps_ret _
  exact hkeeps .idle rfl

/-- The recorders under the monitor `recording`. -/
abbrev recorderWatch : Watch lateRecorders where
  monitor := recording
  first _ := .idle
  post _ := Settles
  conforms := records_program
  returns := fun h => Recording.returns_of_execLate h

/-! ## The record of one session -/

/-- The events of the log that report how the runtime of a session ended. -/
def EventLog.endsOf (log : EventLog) (id : SessionId) : List RuntimeEvent :=
  (log.events.map EventLogEntry.event).filter fun event => event.isTerminal && event.sessionId = id

/-- The log knows of no end of the session. -/
structure EventLog.Unended (log : EventLog) (id : SessionId) : Prop where
  ends : log.endsOf id = []
  terminated : ⟨id, .terminated⟩ ∉ log.seenEventKeys
  lost : ⟨id, .lost⟩ ∉ log.seenEventKeys

/-- The state a session's row stores. -/
def storedState (db : Database) (id : SessionId) : Option LifecycleState :=
  (db.getLifecycle id).map Lifecycle.state

/-- The row of the session says that its runtime has ended. -/
def endIsStored (db : Database) (id : SessionId) : Bool :=
  (storedState db id).any LifecycleState.isTerminal

/-- The runtime of the session has not ended, as far as the daemon knows. -/
structure Unended (w : World) (id : SessionId) : Prop where
  row : endIsStored w.db id = false
  log : w.log.Unended id
  entered : id ∉ w.runtime.terminatedEvents

/-- A recorder is about to enter the session. -/
def Recording.stores : Recording → SessionId → Prop
  | .idle, _ => False
  | .stored lc, id => lc.sessionId = id
  | .marked _, _ => False

/-- A recorder has entered the session. -/
def Recording.marks : Recording → SessionId → Prop
  | .idle, _ => False
  | .stored _, _ => False
  | .marked lc, id => lc.sessionId = id

/-- What each thread was started for, and how far it is. -/
abbrev Recorders := Nat → Option (Recorder × Recording)

/-- How far the record of a session's end has come: nobody has entered the
session, the one that has is about to append, or the event is in the log. -/
inductive Recorded (id : SessionId) (w : World) (minds : Recorders) : Prop where
  | unentered (hfree : id ∉ w.runtime.terminatedEvents) (hlog : w.log.Unended id)
      (hmarks : ∀ t r φ, minds t = some (r, φ) → ¬φ.marks id)
      (hstored : endIsStored w.db id = true →
        ∃ t r lc, minds t = some (r, .stored lc) ∧ lc.sessionId = id)
  | entered (t : Nat) (r : Recorder) (lc : Lifecycle) (hentered : id ∈ w.runtime.terminatedEvents)
      (hlog : w.log.Unended id) (hmind : minds t = some (r, .marked lc)) (hid : lc.sessionId = id)
      (hrow : storedState w.db id = some lc.state)
      (halone : ∀ t' r' φ, minds t' = some (r', φ) → φ.marks id → t' = t)
  | written (event : RuntimeEvent) (lc : Lifecycle) (hentered : id ∈ w.runtime.terminatedEvents)
      (hends : w.log.endsOf id = [event]) (hid : lc.sessionId = id)
      (hreports : reportsEnd event lc = true) (hrow : storedState w.db id = some lc.state)
      (hmarks : ∀ t r φ, minds t = some (r, φ) → ¬φ.marks id)

/-- What the record of a session depends on is the same in both worlds. -/
structure SameRecord (id : SessionId) (w w' : World) : Prop where
  row : w'.db.getLifecycle id = w.db.getLifecycle id
  entered : id ∈ w'.runtime.terminatedEvents ↔ id ∈ w.runtime.terminatedEvents
  ends : w'.log.endsOf id = w.log.endsOf id
  keys : ∀ kind, ⟨id, kind⟩ ∈ w'.log.seenEventKeys ↔ ⟨id, kind⟩ ∈ w.log.seenEventKeys

/-! ## The condition -/

/-- The end an operation stores. -/
def storedByOp : Op → Option Lifecycle
  | .store (.updateLifecycle lc) => some lc
  | _ => none

/-- The session an operation enters. -/
def enteredByOp : Op → Option SessionId
  | .memory (.insertTerminatedEvent id) => some id
  | _ => none

/-- The event an operation appends. -/
def appendedByOp : Op → Option RuntimeEvent
  | .log (.appendEvent event) => some event
  | _ => none

/-- Where an append fails. -/
def Choice.failsAppend : Choice → Option AppendFault
  | .appendFault stage _ => some stage
  | _ => none

/-- The end a recorder has stored and not yet entered. -/
def Recording.unentered : Recording → Option Lifecycle
  | .idle => none
  | .stored lc => some lc
  | .marked _ => none

/-- The first recorder to enter a session finds its own end in the row, no other end of it
is stored after that and none by a write that is reported as failed, the event that is
appended for it is recorded, and the daemon does not crash. -/
def recordsAgree (id : SessionId) : Condition recorderWatch where
  op φ choice o w :=
    (∀ lc ∈ storedByOp o, lc.sessionId = id → choice.isLate = false ∧
      (id ∈ w.runtime.terminatedEvents → storedState w.db id = some lc.state)) ∧
    (enteredByOp o = some id → id ∉ w.runtime.terminatedEvents →
      ∀ lc ∈ φ.unentered, storedState w.db id = some lc.state) ∧
    ∀ event ∈ appendedByOp o, event.sessionId = id →
      ∀ stage ∈ choice.choice.failsAppend, stage = .recorded
  crash _ := False

/-- The daemon does not crash. -/
def noCrash : Condition recorderWatch where
  crash _ := False

/-! ## One step -/

section Steps

variable {id : SessionId} {w w' : World} {minds : Recorders} {t : Nat} {recorder : Recorder}
  {φ φ' : Recording}

theorem SameRecord.refl (id : SessionId) (w : World) : SameRecord id w w :=
  ⟨rfl, Iff.rfl, rfl, fun _ => Iff.rfl⟩

theorem SameRecord.unended (h : SameRecord id w w') (hlog : w.log.Unended id) :
    w'.log.Unended id where
  ends := h.ends.trans hlog.ends
  terminated hkey := hlog.terminated ((h.keys _).mp hkey)
  lost hkey := hlog.lost ((h.keys _).mp hkey)

theorem SameRecord.storedState (h : SameRecord id w w') :
    storedState w'.db id = storedState w.db id := by
  rw [Concurrency.storedState, h.row, Concurrency.storedState]

/-- A step that touches neither the record of the session nor a recorder at it. -/
theorem Recorded.elsewhere (h : Recorded id w minds) (hsame : SameRecord id w w')
    (hmind : minds t = some (recorder, φ)) (hmarks : φ'.marks id ↔ φ.marks id)
    (hkeeps : φ.stores id ∨ φ.marks id → φ' = φ) :
    Recorded id w' (Function.update minds t (some (recorder, φ'))) := by
  -- a recorder that marks the session afterwards did so before
  have hold : ∀ t' r' ψ, Function.update minds t (some (recorder, φ')) t' = some (r', ψ) →
      ψ.marks id → ∃ r' ψ, minds t' = some (r', ψ) ∧ ψ.marks id := by
    intro t' r' ψ hψ hψmarks
    rcases Pool.of_update hψ with ⟨rfl, heq⟩ | ⟨-, hother⟩
    · cases heq
      exact ⟨recorder, φ, hmind, hmarks.mp hψmarks⟩
    · exact ⟨r', ψ, hother, hψmarks⟩
  -- a recorder that is at the session stays where it is
  have hstay : ∀ t' r' ψ, minds t' = some (r', ψ) → ψ.stores id ∨ ψ.marks id →
      Function.update minds t (some (recorder, φ')) t' = some (r', ψ) := by
    intro t' r' ψ hψ hat
    by_cases ht : t' = t
    · subst ht
      rw [hmind] at hψ
      cases hψ
      rw [hkeeps hat, Function.update_self]
    · rw [Function.update_of_ne ht]
      exact hψ
  cases h with
  | unentered hfree hlog hnone hstored =>
      refine .unentered (fun hmem => hfree (hsame.entered.mp hmem)) (hsame.unended hlog) ?_ ?_
      · intro t' r' ψ hψ hψmarks
        obtain ⟨r₀, ψ₀, hψ₀, hψ₀marks⟩ := hold t' r' ψ hψ hψmarks
        exact hnone t' r₀ ψ₀ hψ₀ hψ₀marks
      · intro hend
        rw [endIsStored, hsame.storedState] at hend
        obtain ⟨t', r', lc, hψ, hid⟩ := hstored hend
        exact ⟨t', r', lc, hstay t' r' _ hψ (.inl hid), hid⟩
  | entered t₀ r₀ lc hentered hlog hψ hid hrow halone =>
      refine .entered t₀ r₀ lc (hsame.entered.mpr hentered) (hsame.unended hlog)
        (hstay t₀ r₀ _ hψ (.inr hid)) hid (hsame.storedState.trans hrow) ?_
      intro t' r' ψ hψ' hψmarks
      obtain ⟨r₁, ψ₁, hψ₁, hψ₁marks⟩ := hold t' r' ψ hψ' hψmarks
      exact halone t' r₁ ψ₁ hψ₁ hψ₁marks
  | written event lc hentered hends hid hreports hrow hnone =>
      refine .written event lc (hsame.entered.mpr hentered) (hsame.ends.trans hends) hid hreports
        (hsame.storedState.trans hrow) ?_
      intro t' r' ψ hψ hψmarks
      obtain ⟨r₀, ψ₀, hψ₀, hψ₀marks⟩ := hold t' r' ψ hψ hψmarks
      exact hnone t' r₀ ψ₀ hψ₀ hψ₀marks

/-- A step after which every recorder is where it was. -/
theorem Recorded.same (h : Recorded id w minds) (hsame : SameRecord id w w')
    (hmind : minds t = some (recorder, φ)) :
    Recorded id w' (Function.update minds t (some (recorder, φ))) :=
  h.elsewhere hsame hmind Iff.rfl fun _ => rfl

/-- An end is stored. -/
theorem Recorded.store {lc : Lifecycle} {db : Database} (h : Recorded id w minds)
    (hmind : minds t = some (recorder, .idle)) (hupdate : w.db.updateLifecycle lc = .ok db)
    (hcond : lc.sessionId = id → id ∈ w.runtime.terminatedEvents →
      storedState w.db id = some lc.state) :
    Recorded id { w with db := db }
      (Function.update minds t (some (recorder, .stored lc))) := by
  have hget := Database.getLifecycle_update hupdate id
  by_cases hid : id = lc.sessionId
  · subst hid
    rw [if_pos rfl] at hget
    have hstate : storedState db lc.sessionId = some lc.state := by
      rw [storedState, hget]
      rfl
    -- The thread that has just stored marks nothing yet.
    have hold : ∀ t' r' ψ, Function.update minds t (some (recorder, .stored lc)) t' =
        some (r', ψ) → ψ.marks lc.sessionId → minds t' = some (r', ψ) := by
      intro t' r' ψ hψ hmarks
      rcases Pool.of_update hψ with ⟨-, heq⟩ | ⟨-, hother⟩
      · cases heq
        cases hmarks
      · exact hother
    cases h with
    | unentered hfree hlog hnone hstored =>
        refine .unentered hfree hlog (fun t' r' ψ hψ hmarks => ?_) fun _ => ?_
        · exact hnone t' r' ψ (hold t' r' ψ hψ hmarks) hmarks
        · exact ⟨t, recorder, lc, Function.update_self .., rfl⟩
    | entered t₀ r₀ lc₀ hentered hlog hψ hid₀ hrow halone =>
        have hne : t₀ ≠ t := by
          rintro rfl
          rw [hmind] at hψ
          cases hψ
        -- The session was entered, so the row holds the end that is stored again.
        have hsame : lc₀.state = lc.state := by
          have hcond := hcond rfl hentered
          rw [hrow] at hcond
          exact Option.some.inj hcond
        refine .entered t₀ r₀ lc₀ hentered hlog ?_ hid₀ (hstate.trans (by rw [hsame])) ?_
        · rw [Function.update_of_ne hne]
          exact hψ
        · exact fun t' r' ψ hψ hmarks => halone t' r' ψ (hold t' r' ψ hψ hmarks) hmarks
    | written event lc₀ hentered hends hid₀ hreports hrow hnone =>
        have hsame : lc₀.state = lc.state := by
          have hcond := hcond rfl hentered
          rw [hrow] at hcond
          exact Option.some.inj hcond
        refine .written event lc₀ hentered hends hid₀ hreports (hstate.trans (by rw [hsame])) ?_
        exact fun t' r' ψ hψ hmarks => hnone t' r' ψ (hold t' r' ψ hψ hmarks) hmarks
  · rw [if_neg hid] at hget
    refine h.elsewhere ⟨hget, Iff.rfl, rfl, fun _ => Iff.rfl⟩ hmind Iff.rfl ?_
    rintro (hat | hat) <;> cases hat

/-- The world once a session is entered. -/
def World.enter (w : World) (id : SessionId) : World :=
  { w with
    runtime := { w.runtime with
      terminatedEvents := id :: w.runtime.terminatedEvents.filter (· ≠ id) } }

theorem mem_enter {w : World} {id id' : SessionId} :
    id ∈ (w.enter id').runtime.terminatedEvents ↔ id = id' ∨ id ∈ w.runtime.terminatedEvents := by
  show id ∈ id' :: w.runtime.terminatedEvents.filter (· ≠ id') ↔ _
  rw [List.mem_cons, List.mem_filter, decide_eq_true_eq]
  by_cases h : id = id' <;> simp [h]

/-- A session is entered by a recorder that has stored its end. -/
theorem Recorded.enter {lc : Lifecycle} (h : Recorded id w minds)
    (hmind : minds t = some (recorder, .stored lc))
    (hcond : lc.sessionId = id → id ∉ w.runtime.terminatedEvents →
      storedState w.db id = some lc.state) :
    Recorded id (w.enter lc.sessionId)
      (Function.update minds t (some (recorder,
        if lc.sessionId ∈ w.runtime.terminatedEvents then .idle else .marked lc))) := by
  by_cases hid : id = lc.sessionId
  · subst hid
    have hentered : lc.sessionId ∈ (w.enter lc.sessionId).runtime.terminatedEvents :=
      mem_enter.mpr (.inl rfl)
    cases h with
    -- The recorder that enters first is the one that marks.
    | unentered hfree hlog hnone hstored =>
        rw [if_neg hfree]
        refine .entered t recorder lc hentered hlog (Function.update_self ..) rfl
          (hcond rfl hfree) ?_
        intro t' r' ψ hψ hmarks
        rcases Pool.of_update hψ with ⟨ht, -⟩ | ⟨-, hother⟩
        · exact ht
        · exact absurd hmarks (hnone t' r' ψ hother)
    | entered t₀ r₀ lc₀ hmem hlog hψ hid₀ hrow halone =>
        rw [if_pos hmem]
        have hne : t₀ ≠ t := by
          rintro rfl
          rw [hmind] at hψ
          cases hψ
        refine .entered t₀ r₀ lc₀ hentered hlog ?_ hid₀ hrow ?_
        · rw [Function.update_of_ne hne]
          exact hψ
        · intro t' r' ψ hψ' hmarks
          rcases Pool.of_update hψ' with ⟨-, heq⟩ | ⟨-, hother⟩
          · cases heq
            cases hmarks
          · exact halone t' r' ψ hother hmarks
    | written event lc₀ hmem hends hid₀ hreports hrow hnone =>
        rw [if_pos hmem]
        refine .written event lc₀ hentered hends hid₀ hreports hrow ?_
        intro t' r' ψ hψ hmarks
        rcases Pool.of_update hψ with ⟨-, heq⟩ | ⟨-, hother⟩
        · cases heq
          cases hmarks
        · exact hnone t' r' ψ hother hmarks
  -- The entry is about another session.
  · have hmem : id ∈ (w.enter lc.sessionId).runtime.terminatedEvents ↔
        id ∈ w.runtime.terminatedEvents := by
      rw [mem_enter]
      exact or_iff_right hid
    refine h.elsewhere ⟨rfl, hmem, rfl, fun _ => Iff.rfl⟩ hmind ?_ ?_
    · refine ⟨fun hmarks => ?_, fun hmarks => hmarks.elim⟩
      split at hmarks
      · cases hmarks
      · exact absurd hmarks.symm hid
    · rintro (hat | hat)
      · exact absurd hat.symm hid
      · cases hat

/-! ### The append -/

theorem fromEvent_of_isTerminal {event : RuntimeEvent} (h : event.isTerminal = true) :
    EventLogKey.fromEvent event = ⟨event.sessionId, .terminated⟩ ∨
      EventLogKey.fromEvent event = ⟨event.sessionId, .lost⟩ := by
  cases event with
  | running id pid startTime => cases h
  | terminated id code signal evidence => exact .inl rfl
  | lost id evidence => exact .inr rfl

theorem sessionId_fromEvent (event : RuntimeEvent) :
    (EventLogKey.fromEvent event).sessionId = event.sessionId := by
  cases event <;> rfl

theorem of_reportsEnd {event : RuntimeEvent} {lc : Lifecycle} (h : reportsEnd event lc = true) :
    event.isTerminal = true ∧ event.sessionId = lc.sessionId := by
  unfold reportsEnd at h
  split at h
  · simp only [decide_eq_true_eq] at h
    exact ⟨rfl, h.1⟩
  · simp only [decide_eq_true_eq] at h
    exact ⟨rfl, h.1⟩
  · cases h

/-- An append about another session. -/
theorem endsOf_append_of_ne (log : EventLog) {event : RuntimeEvent} (hid : event.sessionId ≠ id) :
    (log.append event).endsOf id = log.endsOf id ∧
      ∀ kind, ⟨id, kind⟩ ∈ (log.append event).seenEventKeys ↔ ⟨id, kind⟩ ∈ log.seenEventKeys := by
  rw [EventLog.append]
  split
  · exact ⟨rfl, fun _ => Iff.rfl⟩
  · refine ⟨?_, fun kind => ?_⟩
    · simp [EventLog.endsOf, hid]
    · rw [List.mem_cons]
      refine or_iff_right fun heq => hid ?_
      rw [← sessionId_fromEvent, ← heq]

/-- A failed append about another session. -/
theorem endsOf_appendFailed_of_ne {log log' : EventLog} {event : RuntimeEvent}
    {stage : AppendFault} (hid : event.sessionId ≠ id)
    (h : log.appendFailed event stage = some log') :
    log'.endsOf id = log.endsOf id ∧
      ∀ kind, ⟨id, kind⟩ ∈ log'.seenEventKeys ↔ ⟨id, kind⟩ ∈ log.seenEventKeys := by
  unfold EventLog.appendFailed at h
  split at h
  · cases h
    exact ⟨rfl, fun _ => Iff.rfl⟩
  · split at h
    · cases h
    · cases h
      refine ⟨rfl, fun kind => ?_⟩
      show _ ∈ _ :: log.seenEventKeys ↔ _
      rw [List.mem_cons]
      refine or_iff_right fun heq => hid ?_
      rw [← sessionId_fromEvent, ← heq]
  · split at h
    · cases h
    · cases h
      exact endsOf_append_of_ne log hid

/-- The first append about the end of a session. -/
theorem endsOf_append_of_unended {log : EventLog} {event : RuntimeEvent}
    (hlog : log.Unended event.sessionId) (hend : event.isTerminal = true) :
    (log.append event).endsOf event.sessionId = [event] := by
  have hnew : EventLogKey.fromEvent event ∉ log.seenEventKeys := by
    rcases fromEvent_of_isTerminal hend with h | h <;> rw [h]
    · exact hlog.terminated
    · exact hlog.lost
  have hends := hlog.ends
  rw [EventLog.endsOf] at hends
  rw [EventLog.append, if_neg hnew]
  simp [EventLog.endsOf, hends, hend]

/-- The event of an end is appended. -/
theorem Recorded.append {lc : Lifecycle} {event : RuntimeEvent} (h : Recorded id w minds)
    (hmind : minds t = some (recorder, .marked lc)) (hreports : reportsEnd event lc = true)
    (hid : lc.sessionId = id) :
    Recorded id { w with log := w.log.append event }
      (Function.update minds t (some (recorder, .idle))) := by
  obtain ⟨hend, hsession⟩ := of_reportsEnd hreports
  cases h with
  | unentered hfree hlog hnone hstored => exact absurd hid (hnone t recorder _ hmind)
  | written event' lc' hmem hends hid' hreports' hrow hnone =>
      exact absurd hid (hnone t recorder _ hmind)
  | entered t₀ r₀ lc₀ hmem hlog hψ hid₀ hrow halone =>
      have ht : t = t₀ := halone t recorder _ hmind hid
      subst ht
      rw [hmind] at hψ
      cases hψ
      have hsession : event.sessionId = id := hsession.trans hid
      refine .written event lc hmem ?_ hid hreports hrow fun t' r' ψ hψ hmarks => ?_
      · subst hsession
        exact endsOf_append_of_unended hlog hend
      · rcases Pool.of_update hψ with ⟨-, heq⟩ | ⟨hne, hother⟩
        · cases heq
          cases hmarks
        · exact hne (halone t' r' ψ hother hmarks)

/-- The event of the end of another session is appended, or its append fails. -/
theorem Recorded.appendElsewhere {lc : Lifecycle} {event : RuntimeEvent} {log : EventLog}
    {choice : Choice} {r : Except DaemonError RuntimeEvent} (h : Recorded id w minds)
    (hmind : minds t = some (recorder, .marked lc)) (hreports : reportsEnd event lc = true)
    (hid : lc.sessionId ≠ id)
    (hexec : LogOp.exec choice (.appendEvent event) w.log = some (r, log)) :
    Recorded id { w with log := log } (Function.update minds t (some (recorder, .idle))) := by
  have hother : event.sessionId ≠ id := by
    rw [(of_reportsEnd hreports).2]
    exact hid
  have hlog : log.endsOf id = w.log.endsOf id ∧
      ∀ kind, ⟨id, kind⟩ ∈ log.seenEventKeys ↔ ⟨id, kind⟩ ∈ w.log.seenEventKeys := by
    unfold LogOp.exec at hexec
    dsimp only at hexec
    split at hexec
    · obtain ⟨log', hfailed, heq⟩ := Option.map_eq_some_iff.mp hexec
      cases heq
      exact endsOf_appendFailed_of_ne hother hfailed
    · simp only [Choice.ran_eq_some, Prod.mk.injEq] at hexec
      rw [← hexec.2.2]
      exact endsOf_append_of_ne w.log hother
  refine h.elsewhere ⟨rfl, Iff.rfl, hlog.1, hlog.2⟩ hmind ?_ ?_
  · exact ⟨fun hmarks => hmarks.elim, fun hmarks => absurd hmarks hid⟩
  · rintro (hat | hat)
    · cases hat
    · exact absurd hat hid

end Steps

/-! ## Runs -/

/-- Of the memory operations, only the entry of a session enters one. -/
theorem terminatedEvents_exec {choice : Choice} {w w' : World} {o : MemoryOp}
    {r : Except DaemonError o.Res} (h : o.exec choice w = some (r, w'))
    (hinsert : ∀ id, o ≠ .insertTerminatedEvent id) :
    w'.runtime.terminatedEvents = w.runtime.terminatedEvents := by
  cases r with
  | error e => rw [(MemoryOp.exec_error h).1]
  | ok a =>
      have hrun := MemoryOp.exec_ok h
      cases o with
      | insertTerminatedEvent id => exact absurd rfl (hinsert id)
      -- the other operations leave the set of the keys alone
      | sendReady channel ready =>
          rw [MemoryOp.run] at hrun
          split at hrun <;> simp only [Choice.ran_eq_some, Prod.mk.injEq] at hrun <;>
            rw [← hrun.2.2]
      | startExitWatcher id pid =>
          rw [MemoryOp.run] at hrun
          split at hrun <;> simp only [Choice.ran_eq_some, Prod.mk.injEq] at hrun <;>
            rw [← hrun.2.2]
      | awaitReady channel =>
          obtain ⟨⟨found, m⟩, hfound, hresult⟩ := Option.map_eq_some_iff.mp hrun
          cases hresult
          show m.terminatedEvents = _
          unfold MemoryOp.waitFor at hfound
          split at hfound <;> try split at hfound
          all_goals first
            | cases hfound
              rfl
            | (simp only [Choice.ran_eq_some, Prod.mk.injEq] at hfound
               rw [← hfound.2.2])
            | cases hfound
      | loopCursor =>
          rw [MemoryOp.run] at hrun
          split at hrun
          · simp only [Choice.ran_eq_some, Prod.mk.injEq] at hrun
            rw [← hrun.2.2]
          · cases hrun
          · cases hrun
      | insertPendingReady id =>
          simp only [MemoryOp.run, Choice.ran_eq_some, Prod.mk.injEq] at hrun
          rw [← hrun.2.2]
          rfl
      | _ =>
          simp only [MemoryOp.run, Choice.ran_eq_some, Prod.mk.injEq] at hrun
          rw [← hrun.2.2]

/-- The record of a session along one operation of a recorder. -/
theorem Recorded.op {id : SessionId} {w w' : World} {minds : Recorders} {t : Nat}
    {recorder : Recorder} {φ : Recording} {choice : LateChoice} {o : Op}
    {r : Except DaemonError o.Res} (h : Recorded id w minds)
    (hmind : minds t = some (recorder, φ)) (hallows : φ.allows o)
    (hcond : (recordsAgree id).op φ choice o w)
    (hexec : o.exec choice.choice w = some (r, w')) :
    Recorded id w' (Function.update minds t (some (recorder, φ.next o r))) := by
  cases o with
  | os o =>
      rw [OsOp.frame hexec]
      exact h.same ⟨rfl, Iff.rfl, rfl, fun _ => Iff.rfl⟩ hmind
  | store o =>
      obtain ⟨db, hrun, rfl⟩ := Op.exec_store hexec
      by_cases hwrites : o.writesLifecycles = false
      · have hnext : φ.next (.store o) r = φ := by
          cases o <;> first | rfl | cases hwrites
        have hget : db.getLifecycle id = w.db.getLifecycle id := by
          cases r with
          | error e => rw [StoreOp.exec_error hrun]
          | ok a =>
              rw [Database.getLifecycle, ((StoreOp.exec_ok hrun).lifecycles hwrites).1,
                Database.getLifecycle]
        rw [hnext]
        exact h.same ⟨hget, Iff.rfl, rfl, fun _ => Iff.rfl⟩ hmind
      · cases o with
        | updateLifecycle lc =>
            cases hallows.1
            cases r with
            | error e =>
                rw [StoreOp.exec_error hrun]
                exact h.same (SameRecord.refl id w) hmind
            | ok a =>
                exact h.store hmind (StoreOp.exec_ok hrun) fun hid => (hcond.1 lc rfl hid).2
        | insertForking lc => exact hallows.elim
        | deleteLifecycle id' => exact hallows.elim
        | beginSpawnIntent intent => exact hallows.elim
        | commitSpawnIntent id' session lc => exact hallows.elim
        | abortSpawnIntent id' reason => exact hallows.elim
        | _ => exact absurd rfl hwrites
  | memory o =>
      by_cases hinsert : ∃ id', o = .insertTerminatedEvent id'
      · obtain ⟨id', rfl⟩ := hinsert
        obtain ⟨lc, rfl, rfl⟩ := hallows
        cases r with
        | error e =>
            obtain ⟨-, _, _, heq⟩ := MemoryOp.exec_error hexec
            cases heq
        | ok first =>
            have hrun := MemoryOp.exec_ok hexec
            simp only [MemoryOp.run, Choice.ran_eq_some, Prod.mk.injEq] at hrun
            obtain ⟨-, rfl, rfl⟩ := hrun
            have henter := h.enter hmind fun hid hfree =>
              hcond.2.1 (congrArg some hid) hfree lc rfl
            refine Eq.mp ?_ henter
            show Recorded id (w.enter lc.sessionId) _ = Recorded id (w.enter lc.sessionId) _
            congr 4
            show _ = if decide _ = true then _ else _
            split <;> rename_i hmem <;> simp [hmem, Recording.mark]
      · have hnext : φ.next (.memory o) r = φ := by
          cases o with
          | insertTerminatedEvent id' => exact absurd ⟨id', rfl⟩ hinsert
          | _ => cases r <;> rfl
        have hframe := MemoryOp.frame hexec
        have hentered := terminatedEvents_exec hexec fun id' heq => hinsert ⟨id', heq⟩
        rw [hnext]
        refine h.same ⟨?_, ?_, ?_, ?_⟩ hmind
        · rw [hframe]
        · rw [hentered]
        · rw [hframe]
        · intro kind
          rw [hframe]
  | log o =>
      obtain ⟨log, hrun, rfl⟩ := Op.exec_log hexec
      cases o with
      | pollEvents since =>
          have hlog : log = w.log := by
            simp only [LogOp.exec, Choice.ran_eq_some, Prod.mk.injEq] at hrun
            exact hrun.2.2.symm
          subst hlog
          exact h.same (SameRecord.refl id w) hmind
      | appendEvent event =>
          obtain ⟨lc, rfl, hreports⟩ := hallows
          by_cases hid : lc.sessionId = id
          · suffices hlog : log = w.log.append event by
              subst hlog
              exact h.append hmind hreports hid
            have hsession := (of_reportsEnd hreports).2.trans hid
            unfold LogOp.exec at hrun
            dsimp only at hrun
            split at hrun
            · next stage e hchoice =>
                -- the entry was recorded before the append failed
                have hstage : stage ∈ choice.choice.failsAppend := by rw [hchoice]; rfl
                cases hcond.2.2 event rfl hsession stage hstage
                obtain ⟨log', hfailed, heq⟩ := Option.map_eq_some_iff.mp hrun
                cases heq
                rw [EventLog.appendFailed] at hfailed
                split at hfailed
                · cases hfailed
                · exact (Option.some.inj hfailed).symm
            · simp only [Choice.ran_eq_some, Prod.mk.injEq] at hrun
              exact hrun.2.2.symm
          · exact h.appendElsewhere hmind hreports hid hrun

/-- A store call that fails late is about another session. -/
theorem Recorded.late {id : SessionId} {w w' : World} {minds : Recorders} {t : Nat}
    {recorder : Recorder} {φ : Recording} {o : Op} {r : Except DaemonError o.Res}
    (h : Recorded id w minds) (hmind : minds t = some (recorder, φ)) (hallows : φ.allows o)
    (hcond : ∀ lc ∈ storedByOp o, lc.sessionId ≠ id) (hlate : Op.LateEffect w w' o r) :
    Recorded id w' (Function.update minds t (some (recorder, φ.next o r))) := by
  cases hlate with
  | mk o a error heffect hframe =>
      -- the caller takes the call for a failure, so it stays where it was
      have hnext : φ.next (.store o) (.error error) = φ := by cases o <;> rfl
      have hget : w'.db.getLifecycle id = w.db.getLifecycle id := by
        by_cases hwrites : o.writesLifecycles = false
        · rw [Database.getLifecycle, (heffect.lifecycles hwrites).1, Database.getLifecycle]
        · cases o with
          | updateLifecycle lc =>
              rw [Database.getLifecycle_update heffect id, if_neg]
              exact fun hid => hcond lc rfl hid.symm
          | insertForking lc => exact hallows.elim
          | deleteLifecycle id' => exact hallows.elim
          | beginSpawnIntent intent => exact hallows.elim
          | commitSpawnIntent id' session lc => exact hallows.elim
          | abortSpawnIntent id' reason => exact hallows.elim
          | _ => exact absurd rfl hwrites
      rw [hnext]
      refine h.same ⟨hget, ?_, ?_, fun kind => ?_⟩ hmind
      · rw [hframe]
      · rw [hframe]
      · rw [hframe]

theorem recorded_start {id : SessionId} {w : World} {minds : Recorders} {t : Nat}
    (h : Recorded id w minds) (hfree : minds t = none) (recorder : Recorder) :
    Recorded id w (Function.update minds t (some (recorder, .idle))) := by
  have hold : ∀ t' r' ψ, Function.update minds t (some (recorder, .idle)) t' = some (r', ψ) →
      ψ.marks id → minds t' = some (r', ψ) := by
    intro t' r' ψ hψ hmarks
    rcases Pool.of_update hψ with ⟨-, heq⟩ | ⟨-, hother⟩
    · cases heq
      cases hmarks
    · exact hother
  have hstay : ∀ t' r' ψ, minds t' = some (r', ψ) →
      Function.update minds t (some (recorder, .idle)) t' = some (r', ψ) := by
    intro t' r' ψ hψ
    rw [Function.update_of_ne]
    · exact hψ
    · rintro rfl
      rw [hfree] at hψ
      cases hψ
  cases h with
  | unentered hfree hlog hnone hstored =>
      refine .unentered hfree hlog (fun t' r' ψ hψ hmarks => ?_) fun hend => ?_
      · exact hnone t' r' ψ (hold t' r' ψ hψ hmarks) hmarks
      · obtain ⟨t', r', lc, hψ, hid⟩ := hstored hend
        exact ⟨t', r', lc, hstay t' r' _ hψ, hid⟩
  | entered t₀ r₀ lc hentered hlog hψ hid hrow halone =>
      refine .entered t₀ r₀ lc hentered hlog (hstay t₀ r₀ _ hψ) hid hrow ?_
      exact fun t' r' ψ hψ hmarks => halone t' r' ψ (hold t' r' ψ hψ hmarks) hmarks
  | written event lc hentered hends hid hreports hrow hnone =>
      refine .written event lc hentered hends hid hreports hrow fun t' r' ψ hψ hmarks => ?_
      exact hnone t' r' ψ (hold t' r' ψ hψ hmarks) hmarks

theorem recorded (id : SessionId) :
    Pool.Invariant recorderWatch (recordsAgree id) (Recorded id) where
  op h hmind hallows hcond hexec := by
    rcases Op.execLate_cases hexec with hexec | ⟨hlate, heffect⟩
    · exact h.op hmind hallows hcond hexec
    · refine h.late hmind hallows (fun lc hlc hid => ?_) heffect
      rw [(hcond.1 lc hlc hid).1] at hlate
      cases hlate
  start h _ hstart hfree := by
    cases hstart
    exact recorded_start h hfree _
  env h _ henv := by
    rw [World.env_frame henv]
    cases h with
    | unentered hfree hlog hnone hstored => exact .unentered hfree hlog hnone hstored
    | entered t r lc hentered hlog hψ hid hrow halone =>
        exact .entered t r lc hentered hlog hψ hid hrow halone
    | written event lc hentered hends hid hreports hrow hnone =>
        exact .written event lc hentered hends hid hreports hrow hnone
  crash _ hcrash := hcrash.elim

/-- When the recorders have ended, the log holds one event of an end that is
stored, and it reports this end: in every run in which the first recorder to
enter the session finds its own end in the row, no other end of it is stored after
that and none by a write that is reported as failed, and no append of its event
fails before the entry is recorded. -/
theorem one_terminal_event {w₀ : World} {c : Pool recorderWatch} {id : SessionId}
    {lc : Lifecycle} (hstart : Unended w₀ id)
    (hreach : Pool.Reaches (recordsAgree id) (.initial recorderWatch w₀) c)
    (hquiet : c.Quiescent)
    (hrow : c.shared.db.getLifecycle id = some lc) (hend : lc.state.isTerminal = true) :
    ∃ event, c.shared.log.endsOf id = [event] ∧ reportsEnd event lc = true := by
  -- at first nobody has entered the key, and there is neither an event nor a stored end
  have hinitial : Recorded id w₀ fun _ => none := by
    refine .unentered hstart.entered hstart.log (fun _ _ _ h => nomatch h) fun h => ?_
    rw [hstart.row] at h
    cases h
  obtain ⟨hconforming, -, hrecorded⟩ :=
    Pool.Reaches.invariant (recorded id) (Pool.holds_initial hinitial) hreach
  -- every thread has finished, so none is between the write and the key, or the key and the event
  have hidle : ∀ t r φ, c.minds t = some (r, φ) → φ = .idle := by
    intro t r φ hmind
    obtain ⟨_, hpost⟩ := hconforming.post_of_quiescent hquiet hmind
    exact hpost
  have hstate : storedState c.shared.db id = some lc.state := by
    rw [storedState, hrow, Option.map_some]
  cases hrecorded with
  -- no key, no event: but the row has ended, and whoever wrote that end is not idle
  | unentered hfree hlog hnone hstored =>
      have hstoredEnd : endIsStored c.shared.db id = true := by
        rw [endIsStored, hstate, Option.any_some, hend]
      obtain ⟨t, r, lc', hmind, -⟩ := hstored hstoredEnd
      cases hidle t r _ hmind
  -- the key is entered and the event missing: its writer is not idle
  | entered t r lc' hentered hlog hmind hid hrow' halone => cases hidle t r _ hmind
  -- the event is there, and says what the row says
  | written event lc' hentered hends hid hreports hrow' hnone =>
      refine ⟨event, hends, ?_⟩
      have hsame : lc'.state = lc.state := by
        rw [hrow'] at hstate
        exact Option.some.inj hstate
      have hsession : lc'.sessionId = lc.sessionId :=
        hid.trans (Database.sessionId_of_getLifecycle hrow).symm
      unfold reportsEnd at hreports ⊢
      rw [hsame, hsession] at hreports
      exact hreports

/-! ## Two recorders that have both read the row alive -/

/-- The row of a session whose runtime runs, as far as the store knows. -/
def runningRow : LifecycleRow where
  runtime := .claude
  isolation := .host
  state := .running
  shimPid := some 40
  runtimePid := some 41
  startTime := some 3
  tmuxPane := none

/-- Its runtime has ended with code 0, and its shim is about to report that. -/
def endedWorld : World :=
  let fresh := World.fresh 0
  { fresh with
    db := { fresh.db with lifecycles := Table.empty.insert sampleId runningRow }
    shims := Table.empty.insert sampleId ⟨40, true, true, false, .ended 41 3 ⟨some 0, none⟩⟩ }

theorem unended_endedWorld : Unended endedWorld sampleId :=
  ⟨rfl, ⟨rfl, List.not_mem_nil, List.not_mem_nil⟩, List.not_mem_nil⟩

/-- A shim that reports its exit. -/
def sampleShimExit : Recorder := .shimExit ⟨sampleId, ⟨some 0, none⟩⟩

/-- `n` operations of recorder `t`, in which the environment has no say. -/
def recorderRan (t n : Nat) : List (Label lateRecorders) :=
  List.replicate n (.run t (.plain .run))

/-- The reconciler finds the runtime gone and reads the row, and so does the
handler of the exit report; the exit is stored and entered after the loss is
stored. -/
def racingRecorders : List (Label lateRecorders) :=
  [.start sampleShimExit, .start .reconcileOnce] ++ recorderRan 0 1 ++ recorderRan 1 1 ++
    [.run 1 (.plain (.flag false))] ++ recorderRan 1 1 ++ recorderRan 0 3 ++ recorderRan 1 1 ++
    recorderRan 0 2 ++ recorderRan 1 4

instance : noCrash.Checkable where
  op _ _ _ _ := .isTrue trivial
  start _ _ := .isTrue trivial
  env _ _ := .isTrue trivial
  crash _ := .isFalse id

instance (id : SessionId) : (recordsAgree id).Checkable where
  op _ _ _ _ := inferInstanceAs (Decidable
    ((∀ lc ∈ _, _ → _ ∧ (_ → _)) ∧ (_ → _ → ∀ lc ∈ _, _) ∧ ∀ event ∈ _, _ → ∀ stage ∈ _, _))
  start _ _ := .isTrue trivial
  env _ _ := .isTrue trivial
  crash _ := .isFalse fun h => h

/-- What is left when all recorders have ended. -/
theorem quiescent_of_follow {C : Condition recorderWatch} [C.Checkable]
    {labels : List (Label lateRecorders)} {c : Pool recorderWatch}
    (h : (Pool.initial recorderWatch endedWorld).follow C labels = some c)
    (hdone : ∀ t < c.fresh, (c.threads t).all Thread.isDone = true) :
    Pool.Reaches C (.initial recorderWatch endedWorld) c ∧ c.Quiescent := by
  have hreach := Pool.reaches_of_follow h
  exact ⟨hreach, (Pool.Reaches.freshAbove (fun _ _ => rfl) hreach).quiescent hdone⟩

/-- The exit is reported twice, and both handlers and the reconciler find the row alive. The
handlers store the exit one after the other, and the second finds the session entered; the
reconciler, which has found the runtime gone, reads the row again behind them. -/
def agreeingRecorders : List (Label lateRecorders) :=
  [.start sampleShimExit, .start sampleShimExit, .start .reconcileOnce] ++ recorderRan 0 1 ++
    recorderRan 1 1 ++ recorderRan 2 1 ++ [.run 2 (.plain (.flag false))] ++ recorderRan 0 3 ++
    recorderRan 1 3 ++ recorderRan 2 1 ++ recorderRan 0 2 ++ recorderRan 1 1 ++ recorderRan 2 2

theorem one_terminal_event_agreeing :
    ∃ (c : Pool recorderWatch) (lc : Lifecycle),
      (Pool.initial recorderWatch endedWorld).follow (recordsAgree sampleId) agreeingRecorders =
        some c ∧
      c.Quiescent ∧ c.shared.db.getLifecycle sampleId = some lc ∧
      lc.state = .exited ⟨some 0, none⟩ ∧
      ∃ event, c.shared.log.endsOf sampleId = [event] ∧ reportsEnd event lc = true := by
  have hrun : ∃ c lc, (Pool.initial recorderWatch endedWorld).follow (recordsAgree sampleId)
      agreeingRecorders = some c ∧
      (∀ t < c.fresh, (c.threads t).all Thread.isDone = true) ∧
      c.shared.db.getLifecycle sampleId = some lc ∧ lc.state = .exited ⟨some 0, none⟩ :=
    ⟨_, _, rfl, by decide, rfl, rfl⟩
  obtain ⟨c, lc, hc, hdone, hlc, hstate⟩ := hrun
  obtain ⟨hreach, hquiet⟩ := quiescent_of_follow hc hdone
  have hend : lc.state.isTerminal = true := by
    rw [hstate]
    rfl
  exact ⟨c, lc, hc, hquiet, hlc, hstate,
    one_terminal_event unended_endedWorld hreach hquiet hlc hend⟩

/-- The row says that the runtime was lost, the event log that it exited. -/
theorem racing_recorders_disagree :
    ¬∀ (w₀ : World) (c : Pool recorderWatch) (id : SessionId) (lc : Lifecycle),
      Unended w₀ id → Pool.Reaches noCrash (.initial recorderWatch w₀) c → c.Quiescent →
      c.shared.db.getLifecycle id = some lc → lc.state.isTerminal = true →
      ∃ event, c.shared.log.endsOf id = [event] ∧ reportsEnd event lc = true := by
  intro h
  have hrun : ∃ c, (Pool.initial recorderWatch endedWorld).follow noCrash racingRecorders = some c ∧
      (∀ t < c.fresh, (c.threads t).all Thread.isDone = true) ∧
      c.shared.log.endsOf sampleId = [.terminated sampleId (some 0) none .shimExit] ∧
      ∃ lc, c.shared.db.getLifecycle sampleId = some lc ∧ lc.state = .lost .pidNotAlive :=
    ⟨_, rfl, by decide, rfl, _, rfl, rfl⟩
  obtain ⟨c, hc, hdone, hends, lc, hlc, hlost⟩ := hrun
  obtain ⟨hreach, hquiet⟩ := quiescent_of_follow hc hdone
  have hend : lc.state.isTerminal = true := by
    rw [hlost]
    rfl
  obtain ⟨event, hevent, hreports⟩ := h endedWorld c sampleId lc unended_endedWorld hreach hquiet
    hlc hend
  rw [hends] at hevent
  cases hevent
  simp [reportsEnd, hlost] at hreports

end LittleOrgans.Concurrency
