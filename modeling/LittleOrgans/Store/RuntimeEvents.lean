import LittleOrgans.Store.Sessions

/-!
# Applying runtime events

`apply_runtime_events_and_cursor` of the session store: every event of a batch
is applied to the session rows by one guarded `UPDATE`, and the cursor is written
in the same transaction. Unlike `markSessionTerminated` and `markSessionLost`,
these updates require an active row and do not touch the mail of the session.
-/

set_option autoImplicit false

namespace LittleOrgans.Store

open LittleOrgans.Core
open LittleOrgans.Library

namespace SessionRow

/-- The `UPDATE` of a running event: an active row that is spawning, or runs
under another pid. -/
def applyRunning (runtimePid : Pid) (startTime now : DateTime) (row : SessionRow) : SessionRow :=
  if row.state.isActive ∧ (row.state = .spawning ∨ row.runtimePid ≠ runtimePid) then
    { row with
      state := .running
      runtimePid := runtimePid
      startedAt := startTime
      updatedAt := now }
  else row

/-- The `UPDATE` of a terminated event: an active row ends with the exit code. -/
def applyTerminated (exitCode : Option Int) (now : DateTime) (row : SessionRow) : SessionRow :=
  if row.state.isActive then
    { row with
      state := .terminated
      lostEvidence := none
      exitCode := exitCode
      terminatedAt := some now
      updatedAt := now }
  else row

/-- The `UPDATE` of a lost event: an active row ends with the evidence. -/
def applyLost (evidence : LostEvidence) (now : DateTime) (row : SessionRow) : SessionRow :=
  if row.state.isActive then
    { row with state := .lost, lostEvidence := some evidence, updatedAt := now }
  else row

/-- The `UPDATE` an event runs on the row of its session. -/
def applyEvent (event : RuntimeEvent) (now : DateTime) (row : SessionRow) : SessionRow :=
  match event with
  | .running _ runtimePid startTime => row.applyRunning runtimePid startTime now
  | .terminated _ exitCode _ evidence =>
      match evidence with
      | .lost lostEvidence => row.applyLost lostEvidence now
      | .shimExit => row.applyTerminated exitCode now
      | .processExit => row.applyTerminated exitCode now
  | .lost _ evidence => row.applyLost evidence now

/-- No event changes a row whose session has ended. -/
theorem applyEvent_of_not_active {row : SessionRow} (h : row.state.isActive = false)
    (event : RuntimeEvent) (now : DateTime) : row.applyEvent event now = row := by
  cases event with
  | running id runtimePid startTime => simp [applyEvent, applyRunning, h]
  | terminated id exitCode signal evidence =>
      cases evidence <;> simp [applyEvent, applyTerminated, applyLost, h]
  | lost id evidence => simp [applyEvent, applyLost, h]

theorem isActive_applyTerminated (exitCode : Option Int) (now : DateTime) (row : SessionRow) :
    (row.applyTerminated exitCode now).state.isActive = false := by
  rw [applyTerminated]
  split
  · rfl
  · next h => exact Bool.eq_false_iff.mpr h

theorem isActive_applyLost (evidence : LostEvidence) (now : DateTime) (row : SessionRow) :
    (row.applyLost evidence now).state.isActive = false := by
  rw [applyLost]
  split
  · rfl
  · next h => exact Bool.eq_false_iff.mpr h

/-- A terminal event ends the row. -/
theorem isActive_applyEvent_of_isTerminal {event : RuntimeEvent} (h : event.isTerminal = true)
    (now : DateTime) (row : SessionRow) : (row.applyEvent event now).state.isActive = false := by
  cases event with
  | running id runtimePid startTime => cases h
  | terminated id exitCode signal evidence =>
      cases evidence with
      | shimExit => exact isActive_applyTerminated exitCode now row
      | processExit => exact isActive_applyTerminated exitCode now row
      | lost lostEvidence => exact isActive_applyLost lostEvidence now row
  | lost id evidence => exact isActive_applyLost evidence now row

/-- A running event leaves an active row active. -/
theorem isActive_applyEvent_of_not_isTerminal {event : RuntimeEvent}
    (h : event.isTerminal = false) (now : DateTime) (row : SessionRow) :
    (row.applyEvent event now).state.isActive = row.state.isActive := by
  cases event with
  | running id runtimePid startTime =>
      rw [applyEvent, applyRunning]
      split
      · next hrow => exact hrow.1.symm
      · rfl
  | terminated id exitCode signal evidence => cases h
  | lost id evidence => cases h

end SessionRow

namespace Database

/-- Applies one event to the row of its session. -/
def applyRuntimeEvent (db : Database) (event : RuntimeEvent) (now : DateTime) : Database :=
  { db with
    sessions := db.sessions.modify event.sessionId fun row => row.applyEvent event now }

def applyCursor (db : Database) (cursor : EventCursor) : Database :=
  { db with eventCursor := some cursor }

/-- Applies a batch and moves the cursor behind it. -/
def applyRuntimeEventsAndCursor (db : Database) (events : List RuntimeEvent)
    (nextCursor : EventCursor) (now : DateTime) : Database :=
  (events.foldl (fun db event => db.applyRuntimeEvent event now) db).applyCursor nextCursor

theorem lookup_sessions_applyRuntimeEvent (db : Database) (event : RuntimeEvent) (now : DateTime)
    (id : SessionId) :
    (db.applyRuntimeEvent event now).sessions.lookup id =
      if id = event.sessionId then
        (db.sessions.lookup id).map fun row => row.applyEvent event now
      else db.sessions.lookup id := by
  rw [applyRuntimeEvent, Table.lookup_modify]
  by_cases h : id = event.sessionId
  · subst h
    rfl
  · rw [if_neg h, if_neg h]

/-- The row of `id` after a batch: the updates of its own events, in order. -/
theorem lookup_sessions_applyRuntimeEventsAndCursor (db : Database) (events : List RuntimeEvent)
    (nextCursor : EventCursor) (now : DateTime) (id : SessionId) :
    (db.applyRuntimeEventsAndCursor events nextCursor now).sessions.lookup id =
      (db.sessions.lookup id).map fun row =>
        (events.filter fun event => event.sessionId = id).foldl
          (fun row event => row.applyEvent event now) row := by
  show (events.foldl (fun db event => db.applyRuntimeEvent event now) db).sessions.lookup id = _
  induction events generalizing db with
  | nil => simp
  | cons event events ih =>
      rw [List.foldl_cons, ih, lookup_sessions_applyRuntimeEvent, List.filter_cons]
      by_cases h : event.sessionId = id
      · subst h
        simp [Function.comp_def]
      · have h' : ¬id = event.sessionId := fun e => h e.symm
        simp [h, h']

/-- A batch touches the session rows and the cursor only. -/
theorem frame_applyRuntimeEventsAndCursor (db : Database) (events : List RuntimeEvent)
    (nextCursor : EventCursor) (now : DateTime) :
    db.applyRuntimeEventsAndCursor events nextCursor now =
      { db with
        sessions := (db.applyRuntimeEventsAndCursor events nextCursor now).sessions
        eventCursor := some nextCursor } := by
  have hfold : ∀ db : Database,
      events.foldl (fun db event => db.applyRuntimeEvent event now) db =
        { db with
          sessions :=
            (events.foldl (fun db event => db.applyRuntimeEvent event now) db).sessions } := by
    induction events with
    | nil => exact fun db => rfl
    | cons event events ih =>
        intro db
        rw [List.foldl_cons, ih]
        rfl
  rw [applyRuntimeEventsAndCursor, hfold]
  rfl

@[simp]
theorem deliveries_applyRuntimeEventsAndCursor (db : Database) (events : List RuntimeEvent)
    (nextCursor : EventCursor) (now : DateTime) :
    (db.applyRuntimeEventsAndCursor events nextCursor now).deliveries = db.deliveries := by
  rw [frame_applyRuntimeEventsAndCursor]

end Database

end LittleOrgans.Store
