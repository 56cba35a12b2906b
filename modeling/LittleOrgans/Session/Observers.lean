import LittleOrgans.Daemon.Conversions
import LittleOrgans.Session.EndFacts

/-!
# Background observers

Three background tasks of the session daemon carry the end of a runtime into the
session row: the event loop applies batches of runtime events, the lifecycle
task persists the exits that `reap_exited` reports, and a reconciliation marks
sessions from the lifecycles it has loaded. The tasks interleave between their
store operations, so a pass of the reaper or of a reconciliation is several
steps: what it has reported or loaded and not yet handled is part of the state.

`endFacts_final_iff` says exactly when the end of a session, once stored, stays
as it is: the event path guards its updates, the other two write whatever the
row says (`reap_overwrites_lost`).
-/

set_option autoImplicit false

namespace LittleOrgans.Session

open LittleOrgans.Core
open LittleOrgans.Library
open LittleOrgans.Store
open LittleOrgans.Daemon

/-- What `populate_log_availability` finds for each session. -/
abbrev LogAnswers := SessionId → LogAvailability

/-- `populate_log_availability`. -/
def populateLogAvailability (logs : LogAnswers) (lc : Lifecycle) : Lifecycle :=
  { lc with logAvailability := some (logs lc.sessionId) }

/-- The lifecycles a status request reports. -/
def status (db : Database) (filter : StatusFilter) (logs : LogAnswers) : List Lifecycle :=
  (db.listLifecycles filter).map (populateLogAvailability logs)

/-- The loop of `reap_exited`: reports the terminal lifecycles whose session was
not in the driver's set yet, and adds them to it. -/
def reapExited (terminalSessions : List SessionId) :
    List Lifecycle → List ChildExit × List SessionId
  | [] => ([], terminalSessions)
  | lc :: rest =>
      match terminalChildExit lc with
      | none => reapExited terminalSessions rest
      | some exit =>
          if lc.sessionId ∈ terminalSessions then reapExited terminalSessions rest
          else
            let next := reapExited (lc.sessionId :: terminalSessions) rest
            (exit :: next.1, next.2)

/-- Records a transcript path, when there is one. -/
def recordTranscript (db : Database) (id : SessionId) (path : Option String) (now : DateTime) :
    Database :=
  match path with
  | some path => db.recordTranscriptPath id path now
  | none => db

/-- `persist_child_exit`. -/
def persistChildExit (db : Database) (exit : ChildExit) (now : DateTime) : Database :=
  let db := recordTranscript db exit.sessionId exit.transcriptPath now
  db.markSessionTerminated exit.sessionId exit.exitCode now

/-- One round of the loop of `reconcile_lifecycles`. -/
def reconcileLifecycle (db : Database) (lc : Lifecycle) (now : DateTime) : Database :=
  let db := recordTranscript db lc.sessionId lc.transcriptPath now
  match lc.state with
  | .forking => db
  | .running => db
  | .exited exit => db.markSessionTerminated lc.sessionId exit.code now
  | .lost evidence => db.markSessionLost lc.sessionId evidence now

/-- The store, the driver's memory of the exits it has reported, and the work in
hand of the reaper and of a reconciliation. -/
structure ObserverState where
  db : Database
  terminalSessions : List SessionId
  reaped : List ChildExit
  loaded : List Lifecycle

/-- Steps of the observers, and of the writers of the rows they read. -/
inductive ObserverStep where
  | applyEvents (events : List RuntimeEvent) (nextCursor : EventCursor) (now : DateTime)
  | reapExited (logs : LogAnswers)
  | persistChildExit (now : DateTime)
  | loadStatus (logs : LogAnswers)
  | reconcileNext (now : DateTime)
  | restart
  | writeLifecycle (lc : Lifecycle)
  | insertSession (session : Session)

namespace ObserverState

/-- A daemon that has just started on `db`. -/
def started (db : Database) : ObserverState := ⟨db, [], [], []⟩

def step (s : ObserverState) : ObserverStep → ObserverState
  | .applyEvents events nextCursor now =>
      { s with db := s.db.applyRuntimeEventsAndCursor events nextCursor now }
  | .reapExited logs =>
      let next := reapExited s.terminalSessions (status s.db .empty logs)
      { s with reaped := s.reaped ++ next.1, terminalSessions := next.2 }
  | .persistChildExit now =>
      match s.reaped with
      | [] => s
      | exit :: rest => { s with db := persistChildExit s.db exit now, reaped := rest }
  | .loadStatus logs => { s with loaded := s.loaded ++ status s.db .empty logs }
  | .reconcileNext now =>
      match s.loaded with
      | [] => s
      | lc :: rest => { s with db := reconcileLifecycle s.db lc now, loaded := rest }
  | .restart => started s.db
  | .writeLifecycle lc =>
      { s with
        db := { s.db with lifecycles := s.db.lifecycles.upsert lc.sessionId (lifecycleRow lc) } }
  | .insertSession session =>
      match s.db.insertSession session with
      | .ok db => { s with db := db }
      | .error _ => s

def run (s : ObserverState) (steps : List ObserverStep) : ObserverState := steps.foldl step s

theorem run_append (s : ObserverState) (steps steps' : List ObserverStep) :
    s.run (steps ++ steps') = (s.run steps).run steps' :=
  List.foldl_append

end ObserverState

/-! ## Finality of the end facts -/

/-- The end facts of every ended session are the same in both stores. -/
def KeepsEndFacts (db db' : Database) : Prop :=
  ∀ id facts, endFacts db id = some facts → facts.Ended → endFacts db' id = some facts

theorem KeepsEndFacts.refl (db : Database) : KeepsEndFacts db db := fun _ _ h _ => h

theorem KeepsEndFacts.trans {db db' db'' : Database} (h : KeepsEndFacts db db')
    (h' : KeepsEndFacts db' db'') : KeepsEndFacts db db'' :=
  fun id facts hfacts hended => h' id facts (h id facts hfacts hended) hended

/-- Along the steps, no end fact of an ended session ever changes. -/
def EndFactsFinal (s : ObserverState) (steps : List ObserverStep) : Prop :=
  ∀ before between after, steps = before ++ between ++ after →
    KeepsEndFacts (s.run before).db (s.run (before ++ between)).db

/-- An exit recorded at `now` for `id` finds no ended row, or one that says the
same already. -/
def ExitRepeats (db : Database) (id : SessionId) (exitCode : Option Int) (now : DateTime) : Prop :=
  ∀ facts, endFacts db id = some facts → facts.Ended →
    facts.state = .terminated ∧ facts.exitCode = exitCode ∧ facts.terminatedAt = some now

/-- A loss recorded for `id` finds no ended row, or one that says the same
already. -/
def LossRepeats (db : Database) (id : SessionId) (evidence : LostEvidence) : Prop :=
  ∀ facts, endFacts db id = some facts → facts.Ended →
    facts.state = .lost ∧ facts.lostEvidence = some evidence

/-- What the reconciliation of a lifecycle has to find. -/
def ReconcileRepeats (db : Database) (lc : Lifecycle) (now : DateTime) : Prop :=
  match lc.state with
  | .forking => True
  | .running => True
  | .exited exit => ExitRepeats db lc.sessionId exit.code now
  | .lost evidence => LossRepeats db lc.sessionId evidence

/-- The unguarded writes of a step meet no ended row that says something else. -/
def MarksAgree (s : ObserverState) : ObserverStep → Prop
  | .persistChildExit now =>
      ∀ exit ∈ s.reaped.head?, ExitRepeats s.db exit.sessionId exit.exitCode now
  | .reconcileNext now => ∀ lc ∈ s.loaded.head?, ReconcileRepeats s.db lc now
  | _ => True

@[simp]
theorem endFacts_recordTranscript (db : Database) (id : SessionId) (path : Option String)
    (now : DateTime) (id' : SessionId) :
    endFacts (recordTranscript db id path now) id' = endFacts db id' := by
  cases path with
  | none => rfl
  | some path => exact endFacts_recordTranscriptPath db id path now id'

/-- A write of `mark` to the row of `id` keeps the end facts exactly when it
changes no ended row. -/
theorem keepsEndFacts_map_iff {db db' : Database} {id : SessionId} {mark : EndFacts → EndFacts}
    (h : ∀ id', endFacts db' id' =
      if id' = id then (endFacts db id).map mark else endFacts db id') :
    KeepsEndFacts db db' ↔
      ∀ facts, endFacts db id = some facts → facts.Ended → mark facts = facts := by
  constructor
  · intro hkeeps facts hfacts hended
    have hsame := hkeeps id facts hfacts hended
    rw [h, if_pos rfl, hfacts] at hsame
    exact Option.some.inj hsame
  · intro hmark id' facts hfacts hended
    rw [h]
    split
    · next hid =>
        subst hid
        rw [hfacts, Option.map_some, hmark facts hfacts hended]
    · exact hfacts

theorem markTerminated_eq_iff {exitCode : Option Int} {now : DateTime} {facts : EndFacts} :
    facts.markTerminated exitCode now = facts ↔
      facts.state = .terminated ∧ facts.exitCode = exitCode ∧ facts.terminatedAt = some now := by
  rcases facts with ⟨state, code, terminatedAt, evidence⟩
  rw [EndFacts.markTerminated, EndFacts.mk.injEq]
  constructor
  · rintro ⟨rfl, rfl, rfl, -⟩
    exact ⟨rfl, rfl, rfl⟩
  · rintro ⟨rfl, rfl, rfl⟩
    exact ⟨rfl, rfl, rfl, rfl⟩

theorem markLost_eq_iff {evidence : LostEvidence} {facts : EndFacts} :
    facts.markLost evidence = facts ↔
      facts.state = .lost ∧ facts.lostEvidence = some evidence := by
  rcases facts with ⟨state, code, terminatedAt, stored⟩
  rw [EndFacts.markLost, EndFacts.mk.injEq]
  constructor
  · rintro ⟨rfl, -, -, rfl⟩
    exact ⟨rfl, rfl⟩
  · rintro ⟨rfl, rfl⟩
    exact ⟨rfl, rfl, rfl, rfl⟩

theorem endFacts_persistChildExit (db : Database) (exit : ChildExit) (now : DateTime)
    (id : SessionId) :
    endFacts (persistChildExit db exit now) id =
      if id = exit.sessionId then
        (endFacts db exit.sessionId).map (EndFacts.markTerminated exit.exitCode now)
      else endFacts db id := by
  rw [persistChildExit, endFacts_markSessionTerminated]
  simp only [endFacts_recordTranscript]

theorem keepsEndFacts_persistChildExit_iff {db : Database} {exit : ChildExit} {now : DateTime} :
    KeepsEndFacts db (persistChildExit db exit now) ↔
      ExitRepeats db exit.sessionId exit.exitCode now := by
  rw [keepsEndFacts_map_iff (endFacts_persistChildExit db exit now), ExitRepeats]
  simp only [markTerminated_eq_iff]

theorem keepsEndFacts_reconcileLifecycle_iff {db : Database} {lc : Lifecycle} {now : DateTime} :
    KeepsEndFacts db (reconcileLifecycle db lc now) ↔ ReconcileRepeats db lc now := by
  have hpath : KeepsEndFacts db (recordTranscript db lc.sessionId lc.transcriptPath now) := by
    intro id facts hfacts _
    rwa [endFacts_recordTranscript]
  rw [reconcileLifecycle, ReconcileRepeats]
  cases lc.state with
  | forking => exact ⟨fun _ => trivial, fun _ => hpath⟩
  | running => exact ⟨fun _ => trivial, fun _ => hpath⟩
  | exited exit =>
      have hmark : ∀ id', endFacts ((recordTranscript db lc.sessionId lc.transcriptPath
          now).markSessionTerminated lc.sessionId exit.code now) id' =
          if id' = lc.sessionId then
            (endFacts db lc.sessionId).map (EndFacts.markTerminated exit.code now)
          else endFacts db id' := by
        intro id'
        simp only [endFacts_markSessionTerminated, endFacts_recordTranscript]
      refine (keepsEndFacts_map_iff hmark).trans ?_
      simp only [markTerminated_eq_iff]
      rfl
  | lost evidence =>
      have hmark : ∀ id', endFacts ((recordTranscript db lc.sessionId lc.transcriptPath
          now).markSessionLost lc.sessionId evidence now) id' =
          if id' = lc.sessionId then
            (endFacts db lc.sessionId).map (EndFacts.markLost evidence)
          else endFacts db id' := by
        intro id'
        simp only [endFacts_markSessionLost, endFacts_recordTranscript]
      refine (keepsEndFacts_map_iff hmark).trans ?_
      simp only [markLost_eq_iff]
      rfl

/-- Step lemma: a step keeps every end fact exactly when its unguarded writes
agree with the ended rows they meet. -/
theorem keepsEndFacts_step_iff (s : ObserverState) (step : ObserverStep) :
    KeepsEndFacts s.db (s.step step).db ↔ MarksAgree s step := by
  cases step with
  | applyEvents events nextCursor now =>
      refine ⟨fun _ => trivial, fun _ id facts hfacts hended => ?_⟩
      exact endFacts_applyRuntimeEventsAndCursor_of_ended hfacts hended _ _ _
  | reapExited logs => exact ⟨fun _ => trivial, fun _ => .refl s.db⟩
  | persistChildExit now =>
      rw [ObserverState.step, MarksAgree]
      cases s.reaped with
      | nil => simp [KeepsEndFacts.refl]
      | cons exit rest => simpa using keepsEndFacts_persistChildExit_iff
  | loadStatus logs => exact ⟨fun _ => trivial, fun _ => .refl s.db⟩
  | reconcileNext now =>
      rw [ObserverState.step, MarksAgree]
      cases s.loaded with
      | nil => simp [KeepsEndFacts.refl]
      | cons lc rest => simpa using keepsEndFacts_reconcileLifecycle_iff
  | restart => exact ⟨fun _ => trivial, fun _ => .refl s.db⟩
  | writeLifecycle lc => exact ⟨fun _ => trivial, fun _ => .refl s.db⟩
  | insertSession session =>
      refine ⟨fun _ => trivial, fun _ => ?_⟩
      rw [ObserverState.step]
      cases hinsert : s.db.insertSession session with
      | ok db' => exact fun id facts hfacts _ => endFacts_insertSession hinsert hfacts
      | error e => exact .refl s.db

/-- Run lemma: steps whose writes agree keep every end fact from start to end. -/
theorem keepsEndFacts_run (s : ObserverState) (steps : List ObserverStep)
    (h : ∀ before step after, steps = before ++ step :: after → MarksAgree (s.run before) step) :
    KeepsEndFacts s.db (s.run steps).db := by
  induction steps generalizing s with
  | nil => exact .refl s.db
  | cons step steps ih =>
      have hstep := (keepsEndFacts_step_iff s step).mpr (h [] step steps rfl)
      have hrest : KeepsEndFacts (s.step step).db ((s.step step).run steps).db := by
        apply ih
        intro before step' after hsteps
        exact h (step :: before) step' after (by rw [hsteps, List.cons_append])
      exact hstep.trans hrest

/-- From any store state and in any order of observer steps, restarts included,
the end facts of ended sessions never change if and only if every exit that is
persisted and every lifecycle that is reconciled meets no ended row, or one that
says the same already. -/
theorem endFacts_final_iff (s : ObserverState) (steps : List ObserverStep) :
    EndFactsFinal s steps ↔
      ∀ before step after, steps = before ++ step :: after → MarksAgree (s.run before) step := by
  constructor
  · intro hfinal before step after hsteps
    rw [← keepsEndFacts_step_iff]
    have h := hfinal before [step] after (by rw [hsteps, List.append_assoc]; rfl)
    rwa [ObserverState.run_append] at h
  · intro hagree before between after hsteps
    rw [ObserverState.run_append]
    apply keepsEndFacts_run
    intro before' step after' hbetween
    rw [← ObserverState.run_append]
    apply hagree (before ++ before') step (after' ++ after)
    rw [hsteps, hbetween]
    simp

/-- A session that runs, for the runs on fixed inputs below. -/
def sampleSession (id : SessionId) : Session where
  id := id
  runtime := .claude
  role := "engineer"
  workspace := "/work"
  namespaceSlug := "default"
  dir := "/work"
  labels := []
  state := .running
  runtimePid := 41
  runtimeSession := none
  transcriptPath := none
  tmuxPane := none
  agentConfig := none
  createdAt := 0
  startedAt := 0
  terminatedAt := none
  exitCode := none
  updatedAt := 0

/-- A host runtime in a state that `sampleSession` belongs to. -/
def sampleLifecycle (id : SessionId) (state : LifecycleState) : Lifecycle where
  sessionId := id
  runtime := .claude
  isolation := .host
  state := state
  shimPid := some 40
  runtimePid := some 41
  startTime := some 0
  tmuxPane := none
  logAvailability := none

/-- The runtime of a running session is lost, the event loop records the loss, and
the reaper reports the same lifecycle as an exit. -/
def lossThenReap : List ObserverStep :=
  [.insertSession (sampleSession ⟨1⟩),
    .writeLifecycle (sampleLifecycle ⟨1⟩ (.lost .pidNotAlive)),
    .applyEvents [.lost ⟨1⟩ .pidNotAlive] 1 10,
    .reapExited fun _ => .unavailable]

/-- Persisting the reported exit turns the lost row into a terminated one. -/
theorem reap_overwrites_lost :
    ¬EndFactsFinal (.started (.migrated 0)) (lossThenReap ++ [.persistChildExit 20]) := by
  intro hfinal
  have hkeeps := hfinal lossThenReap [.persistChildExit 20] [] rfl
  rw [ObserverState.run_append] at hkeeps
  have hagree := (keepsEndFacts_step_iff
    ((ObserverState.started (.migrated 0)).run lossThenReap) (.persistChildExit 20)).mp hkeeps
  -- The row in the way is lost, while a repetition would have to find it terminated.
  have hrow := hagree ⟨⟨1⟩, 41, none, none⟩ rfl _ rfl rfl
  exact absurd hrow.1 (by decide)

end LittleOrgans.Session
