import LittleOrgans.Store.RuntimeEvents

/-!
# How a session ended

The four columns that say how a session ended, seen apart from the rest of the
row. `Database.endFacts` reads them, and there is one lemma for each store
operation that says what it does to them: the unguarded marks
(`endFacts_markSessionTerminated`, `endFacts_markSessionLost`), the guarded
updates of the event path (`endFacts_applyRuntimeEventsAndCursor`), and the
operations that leave them alone.
-/

set_option autoImplicit false

namespace LittleOrgans.Session

open LittleOrgans.Core
open LittleOrgans.Library
open LittleOrgans.Store

/-- The facts of a row that say how its session ended. -/
structure EndFacts where
  state : SessionStateName
  exitCode : Option Int
  terminatedAt : Option DateTime
  lostEvidence : Option LostEvidence
  deriving DecidableEq

namespace EndFacts

def ofRow (row : SessionRow) : EndFacts :=
  ⟨row.state, row.exitCode, row.terminatedAt, row.lostEvidence⟩

/-- The session has ended. -/
def Ended (facts : EndFacts) : Prop := facts.state.isActive = false

instance : DecidablePred Ended :=
  fun facts => inferInstanceAs (Decidable (facts.state.isActive = _))

/-- The unguarded write of an exit keeps the evidence column. -/
def markTerminated (exitCode : Option Int) (now : DateTime) (facts : EndFacts) : EndFacts :=
  ⟨.terminated, exitCode, some now, facts.lostEvidence⟩

/-- The unguarded write of a loss keeps the exit columns. -/
def markLost (evidence : LostEvidence) (facts : EndFacts) : EndFacts :=
  ⟨.lost, facts.exitCode, facts.terminatedAt, some evidence⟩

/-- The guarded update of a runtime event. -/
def applyEvent (event : RuntimeEvent) (now : DateTime) (facts : EndFacts) : EndFacts :=
  if facts.state.isActive then
    match event with
    | .running _ _ _ => if facts.state = .spawning then { facts with state := .running } else facts
    | .terminated _ exitCode _ evidence =>
        match evidence with
        | .lost evidence => facts.markLost evidence
        | .shimExit => ⟨.terminated, exitCode, some now, none⟩
        | .processExit => ⟨.terminated, exitCode, some now, none⟩
    | .lost _ evidence => facts.markLost evidence
  else facts

theorem applyEvent_of_ended {facts : EndFacts} (h : facts.Ended) (event : RuntimeEvent)
    (now : DateTime) : facts.applyEvent event now = facts :=
  if_neg (by rw [h]; exact Bool.false_ne_true)

/-- Events change nothing of what has ended. -/
theorem foldl_applyEvent_of_ended {facts : EndFacts} (h : facts.Ended)
    (events : List RuntimeEvent) (now : DateTime) :
    events.foldl (fun facts event => facts.applyEvent event now) facts = facts := by
  induction events with
  | nil => rfl
  | cons event events ih => rw [List.foldl_cons, applyEvent_of_ended h, ih]

theorem ofRow_applyRunning (runtimePid : Pid) (startTime now : DateTime) (row : SessionRow) :
    ofRow (row.applyRunning runtimePid startTime now) =
      if row.state.isActive ∧ row.state = .spawning then { ofRow row with state := .running }
      else ofRow row := by
  rw [SessionRow.applyRunning]
  cases hstate : row.state with
  | spawning => simp [ofRow, SessionStateName.isActive]
  | running =>
      -- The row already runs, so at most its pid changes.
      split
      · simp [ofRow, hstate]
      · simp [ofRow, hstate]
  | terminated => simp [ofRow, SessionStateName.isActive]
  | lost => simp [ofRow, SessionStateName.isActive]

/-- The columns see an event as the row does. -/
theorem ofRow_applyEvent (event : RuntimeEvent) (now : DateTime) (row : SessionRow) :
    ofRow (row.applyEvent event now) = (ofRow row).applyEvent event now := by
  by_cases hactive : row.state.isActive = true
  · have hfacts : (ofRow row).state.isActive = true := hactive
    cases event with
    | running id runtimePid startTime =>
        rw [SessionRow.applyEvent, ofRow_applyRunning, applyEvent, if_pos hfacts]
        by_cases hspawning : row.state = .spawning
        · rw [if_pos ⟨hactive, hspawning⟩]
          exact (if_pos hspawning).symm
        · rw [if_neg fun h => hspawning h.2]
          exact (if_neg hspawning).symm
    | terminated id exitCode signal evidence =>
        cases evidence with
        | shimExit =>
            simp [SessionRow.applyEvent, SessionRow.applyTerminated, applyEvent, hactive, ofRow]
        | processExit =>
            simp [SessionRow.applyEvent, SessionRow.applyTerminated, applyEvent, hactive, ofRow]
        | lost lost =>
            simp [SessionRow.applyEvent, SessionRow.applyLost, applyEvent, hactive, ofRow,
              markLost]
    | lost id evidence =>
        simp [SessionRow.applyEvent, SessionRow.applyLost, applyEvent, hactive, ofRow, markLost]
  · have hended : row.state.isActive = false := Bool.eq_false_iff.mpr hactive
    rw [SessionRow.applyEvent_of_not_active hended]
    have hfacts : (ofRow row).Ended := hended
    rw [applyEvent_of_ended hfacts]

end EndFacts

/-- The end facts stored for a session. -/
def endFacts (db : Database) (id : SessionId) : Option EndFacts :=
  (db.sessions.lookup id).map EndFacts.ofRow

/-! ## What each operation does to them -/

section Operations

variable (db : Database) (id : SessionId)

theorem endFacts_markSessionTerminated (exitCode : Option Int) (now : DateTime)
    (id' : SessionId) :
    endFacts (db.markSessionTerminated id exitCode now) id' =
      if id' = id then (endFacts db id).map (EndFacts.markTerminated exitCode now)
      else endFacts db id' := by
  rw [endFacts, Database.lookup_sessions_markSessionTerminated]
  split
  · rw [endFacts, Option.map_map, Option.map_map]
    rfl
  · rfl

theorem endFacts_markSessionLost (evidence : LostEvidence) (now : DateTime) (id' : SessionId) :
    endFacts (db.markSessionLost id evidence now) id' =
      if id' = id then (endFacts db id).map (EndFacts.markLost evidence)
      else endFacts db id' := by
  rw [endFacts, Database.lookup_sessions_markSessionLost]
  split
  · rw [endFacts, Option.map_map, Option.map_map]
    rfl
  · rfl

/-- The transcript path is no end fact. -/
@[simp]
theorem endFacts_recordTranscriptPath (path : String) (now : DateTime) (id' : SessionId) :
    endFacts (db.recordTranscriptPath id path now) id' = endFacts db id' := by
  have hrow : ∀ row : SessionRow,
      EndFacts.ofRow (row.recordTranscriptPath path now) = EndFacts.ofRow row := by
    intro row
    rw [SessionRow.recordTranscriptPath]
    split <;> rfl
  rw [endFacts, Database.lookup_sessions_recordTranscriptPath]
  split
  · next h =>
      subst h
      rw [Option.map_map, endFacts]
      exact congrArg (fun f => (db.sessions.lookup id').map f) (funext hrow)
  · rfl

/-- A batch applies the events of the session, in order. -/
theorem endFacts_applyRuntimeEventsAndCursor (events : List RuntimeEvent)
    (nextCursor : EventCursor) (now : DateTime) :
    endFacts (db.applyRuntimeEventsAndCursor events nextCursor now) id =
      (endFacts db id).map fun facts =>
        (events.filter fun event => event.sessionId = id).foldl
          (fun facts event => facts.applyEvent event now) facts := by
  rw [endFacts, Database.lookup_sessions_applyRuntimeEventsAndCursor, endFacts, Option.map_map,
    Option.map_map]
  congr 1
  funext row
  simp only [Function.comp_apply]
  generalize events.filter (fun event => event.sessionId = id) = events
  induction events generalizing row with
  | nil => rfl
  | cons event events ih =>
      rw [List.foldl_cons, List.foldl_cons, ih, EndFacts.ofRow_applyEvent]

theorem endFacts_applyRuntimeEventsAndCursor_of_ended {db : Database} {id : SessionId}
    {facts : EndFacts} (hfacts : endFacts db id = some facts) (hended : facts.Ended)
    (events : List RuntimeEvent) (nextCursor : EventCursor) (now : DateTime) :
    endFacts (db.applyRuntimeEventsAndCursor events nextCursor now) id = some facts := by
  rw [endFacts_applyRuntimeEventsAndCursor, hfacts, Option.map_some,
    EndFacts.foldl_applyEvent_of_ended hended]

theorem endFacts_insertSession {db db' : Database} {session : Session}
    (h : db.insertSession session = .ok db') {id : SessionId} {facts : EndFacts}
    (hfacts : endFacts db id = some facts) : endFacts db' id = some facts := by
  rw [Database.insertSession] at h
  split at h
  · cases h
  · next hkey =>
      cases h
      obtain ⟨row, hrow, rfl⟩ := Option.map_eq_some_iff.mp hfacts
      have hne : id ≠ session.id := by
        rintro rfl
        exact hkey (Table.contains_iff.mpr ⟨row, hrow⟩)
      show ((db.sessions.insert session.id (sessionRow session)).lookup id).map _ = _
      rw [Table.lookup_insert_ne hne, hrow]
      rfl

end Operations

end LittleOrgans.Session
