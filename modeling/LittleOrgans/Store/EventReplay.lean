import LittleOrgans.Store.RuntimeEvents
import Mathlib.Data.List.Induction

/-!
# Replaying runtime events

After a crash the daemon polls from its stored cursor and applies events again. Every
update of a batch reads the clock on its own, so an event is applied together with the
reading of its update. Up to these readings a second application changes nothing, the
division of the events into batches does not matter, and the first terminal event of a
session settles how its row ends (`replay_harmless`).

A second application is not a list of updates without effect: two running events with
different pids rewrite the row in turn, and end where they ended before.
-/

set_option autoImplicit false

namespace LittleOrgans.Store

open LittleOrgans.Core
open LittleOrgans.Library

/-- An event, and what the clock reads at its update. -/
abbrev StampedEvent := RuntimeEvent × DateTime

/-- The same events, applied at other times. -/
def SameEvents (events events' : List StampedEvent) : Prop :=
  events.map Prod.fst = events'.map Prod.fst

/-- The state, exit code and evidence a terminal event gives to an active row. A lost
event leaves the exit code as it is. -/
def ending (row : SessionRow) :
    RuntimeEvent → SessionStateName × Option Int × Option LostEvidence
  | .running _ _ _ => (row.state, row.exitCode, row.lostEvidence)
  | .terminated _ _ _ (.lost lostEvidence) => (.lost, row.exitCode, some lostEvidence)
  | .terminated _ exitCode _ .shimExit => (.terminated, exitCode, none)
  | .terminated _ exitCode _ .processExit => (.terminated, exitCode, none)
  | .lost _ evidence => (.lost, row.exitCode, some evidence)

namespace SessionRow

/-- The row without the readings of the clock. -/
def unstamped (row : SessionRow) : SessionRow :=
  { row with terminatedAt := none, updatedAt := 0 }

/-- The updates of some events, in order. -/
def applyEvents (row : SessionRow) (events : List StampedEvent) : SessionRow :=
  events.foldl (fun row event => row.applyEvent event.1 event.2) row

@[simp]
theorem applyEvents_nil (row : SessionRow) : row.applyEvents [] = row := rfl

@[simp]
theorem applyEvents_cons (row : SessionRow) (event : StampedEvent) (events : List StampedEvent) :
    row.applyEvents (event :: events) = (row.applyEvent event.1 event.2).applyEvents events := rfl

theorem applyEvents_append (row : SessionRow) (events events' : List StampedEvent) :
    row.applyEvents (events ++ events') = (row.applyEvents events).applyEvents events' :=
  List.foldl_append

/-! ## Readings of the clock -/

/-- No update reads the stamps. -/
theorem unstamped_applyEvent {row row' : SessionRow} (h : row.unstamped = row'.unstamped)
    (event : RuntimeEvent) (now now' : DateTime) :
    (row.applyEvent event now).unstamped = (row'.applyEvent event now').unstamped := by
  obtain ⟨runtime, role, workspace, namespaceSlug, dir, state, lostEvidence, runtimePid,
    runtimeSession, transcriptPath, tmuxPane, agentConfig, createdAt, startedAt, terminatedAt,
    exitCode, updatedAt⟩ := row
  obtain ⟨terminatedAt', updatedAt', rfl⟩ : ∃ terminatedAt' updatedAt', row' =
      ⟨runtime, role, workspace, namespaceSlug, dir, state, lostEvidence, runtimePid,
        runtimeSession, transcriptPath, tmuxPane, agentConfig, createdAt, startedAt,
        terminatedAt', exitCode, updatedAt'⟩ := by
    refine ⟨row'.terminatedAt, row'.updatedAt, ?_⟩
    cases row'
    simp only [unstamped, SessionRow.mk.injEq] at h ⊢
    grind
  cases event with
  | running id pid startTime =>
      simp only [applyEvent, applyRunning]
      split <;> rfl
  | terminated id code signal evidence =>
      cases evidence <;> simp only [applyEvent, applyTerminated, applyLost] <;> split <;> rfl
  | lost id evidence =>
      simp only [applyEvent, applyLost]
      split <;> rfl

theorem unstamped_applyEvents {row row' : SessionRow} (h : row.unstamped = row'.unstamped)
    {events events' : List StampedEvent} (hevents : SameEvents events events') :
    (row.applyEvents events).unstamped = (row'.applyEvents events').unstamped := by
  induction events generalizing row row' events' with
  | nil =>
      obtain rfl := List.map_eq_nil_iff.mp hevents.symm
      exact h
  | cons event events ih =>
      obtain ⟨event', events', rfl, hevent, hrest⟩ := List.map_eq_cons_iff.mp hevents.symm
      rw [applyEvents_cons, applyEvents_cons, hevent]
      exact ih (unstamped_applyEvent h event.1 event.2 event'.2) hrest.symm

/-! ## Events on an active row -/

/-- An active row runs under the pid of the event afterwards. -/
theorem applyRunning_spec {row : SessionRow} (h : row.state.isActive = true) (runtimePid : Pid)
    (startTime now : DateTime) :
    (row.applyRunning runtimePid startTime now).state = .running ∧
      (row.applyRunning runtimePid startTime now).runtimePid = runtimePid := by
  rw [applyRunning]
  split
  · exact ⟨rfl, rfl⟩
  · next hskip =>
    have hrow : row.state ≠ .spawning ∧ row.runtimePid = runtimePid := by
      simpa only [h, true_and, not_or, not_not] using hskip
    refine ⟨?_, hrow.2⟩
    cases hstate : row.state with
    | spawning => exact absurd hstate hrow.1
    | running => rfl
    | terminated =>
        rw [hstate] at h
        cases h
    | lost =>
        rw [hstate] at h
        cases h

/-- An active row that spawns, or runs under another pid, gets the run of the event. -/
theorem applyRunning_of_ne {row : SessionRow} (hactive : row.state.isActive = true)
    {runtimePid : Pid} (hne : ¬(row.state = .running ∧ row.runtimePid = runtimePid))
    (startTime now : DateTime) :
    row.applyRunning runtimePid startTime now =
      { row with
        state := .running
        runtimePid := runtimePid
        startedAt := startTime
        updatedAt := now } := by
  have hspec := applyRunning_spec hactive runtimePid startTime now
  rw [applyRunning] at hspec ⊢
  split
  · rfl
  · next hskip =>
    rw [if_neg hskip] at hspec
    exact absurd hspec hne

/-- A running event does not apply to a row that runs under its pid. -/
theorem applyRunning_of_running {row : SessionRow} (hstate : row.state = .running)
    {runtimePid : Pid} (hpid : row.runtimePid = runtimePid) (startTime now : DateTime) :
    row.applyRunning runtimePid startTime now = row := by
  rw [applyRunning, if_neg]
  simp [hstate, hpid]

/-- Running events keep a row active, and all of it but the run. -/
theorem applyEvents_running {row : SessionRow} {events : List StampedEvent}
    (hactive : row.state.isActive = true) (hevents : ∀ e ∈ events, e.1.isTerminal = false) :
    (row.applyEvents events).state.isActive = true ∧
      ∃ startedAt updatedAt, row.applyEvents events =
        { row with
          state := (row.applyEvents events).state
          runtimePid := (row.applyEvents events).runtimePid
          startedAt := startedAt
          updatedAt := updatedAt } := by
  induction events generalizing row with
  | nil => exact ⟨hactive, row.startedAt, row.updatedAt, rfl⟩
  | cons event events ih =>
      rw [List.forall_mem_cons] at hevents
      -- the first event keeps the row active, so the induction goes on from it
      have hstep : (row.applyEvent event.1 event.2).state.isActive = true :=
        (isActive_applyEvent_of_not_isTerminal hevents.1 event.2 row).trans hactive
      obtain ⟨hrest, startedAt, updatedAt, hframe⟩ := ih hstep hevents.2
      refine ⟨hrest, startedAt, updatedAt, ?_⟩
      obtain ⟨e, now⟩ := event
      cases e with
      | running id pid startTime =>
          rw [applyEvents_cons]
          refine hframe.trans ?_
          simp only [applyEvent, applyRunning]
          split <;> rfl
      | terminated id code signal evidence => cases hevents.1
      | lost id evidence => cases hevents.1

/-- After running events a row has the pid of the last one, whatever it was before. -/
theorem runtimePid_applyEvents {row row' : SessionRow} {events : List StampedEvent}
    (hactive : row.state.isActive = true) (hactive' : row'.state.isActive = true)
    (hevents : ∀ e ∈ events, e.1.isTerminal = false) (hne : events ≠ []) :
    (row.applyEvents events).state = .running ∧
      (row.applyEvents events).runtimePid = (row'.applyEvents events).runtimePid := by
  -- the last event decides
  obtain ⟨init, ⟨event, now⟩, rfl⟩ := List.eq_nil_or_concat events |>.resolve_left hne
  rw [List.concat_eq_append, List.forall_mem_append, List.forall_mem_singleton] at hevents
  have hinit := (applyEvents_running hactive hevents.1).1
  have hinit' := (applyEvents_running hactive' hevents.1).1
  rw [List.concat_eq_append, applyEvents_append, applyEvents_append]
  cases event with
  | running id pid startTime =>
      exact ⟨(applyRunning_spec hinit pid startTime now).1,
        (applyRunning_spec hinit pid startTime now).2.trans
          (applyRunning_spec hinit' pid startTime now).2.symm⟩
  | terminated id code signal evidence => cases hevents.2
  | lost id evidence => cases hevents.2

/-- Running events end where they ended the first time. -/
theorem applyEvents_twice_of_running {row : SessionRow} {events : List StampedEvent}
    (hactive : row.state.isActive = true) (hevents : ∀ e ∈ events, e.1.isTerminal = false) :
    ((row.applyEvents events).applyEvents events).unstamped =
      (row.applyEvents events).unstamped := by
  induction events using List.reverseRecOn with
  | nil => rfl
  | append_singleton events event ih =>
      rw [List.forall_mem_append, List.forall_mem_singleton] at hevents
      obtain ⟨hinit, hlast⟩ := hevents
      have hfirst := (applyEvents_running hactive hinit).1
      obtain ⟨event, now⟩ := event
      cases event with
      | terminated id code signal evidence => cases hlast
      | lost id evidence => cases hlast
      | running id pid startTime =>
          rw [applyEvents_append, applyEvents_append]
          show (((row.applyEvents events).applyRunning pid startTime now).applyEvents
            events |>.applyRunning pid startTime now).unstamped =
              ((row.applyEvents events).applyRunning pid startTime now).unstamped
          by_cases hskip : (row.applyEvents events).state = .running ∧
              (row.applyEvents events).runtimePid = pid
          · -- The last event does not apply, and so not the second time.
            have hagain := unstamped_applyEvent (ih hinit) (.running id pid startTime) now now
            have hsame := applyRunning_of_running hskip.1 hskip.2 startTime now
            rw [hsame]
            exact hagain.trans (congrArg unstamped hsame)
          · -- It applies, to a row that ran under another pid, and does again.
            have hrun := applyRunning_of_ne hfirst hskip startTime now
            have hspec := applyRunning_spec hfirst pid startTime now
            generalize (row.applyEvents events).applyRunning pid startTime now = ended
              at hrun hspec ⊢
            have hended : ended.state.isActive = true := by
              rw [hspec.1]
              rfl
            by_cases hne : events = []
            · subst hne
              rw [applyEvents_nil, applyRunning_of_running hspec.1 hspec.2]
            · obtain ⟨hactive', startedAt, updatedAt, hframe⟩ := applyEvents_running hended hinit
              have hpid := runtimePid_applyEvents hactive hended hinit hne
              have hother : ¬((ended.applyEvents events).state = .running ∧
                  (ended.applyEvents events).runtimePid = pid) :=
                fun h => hskip ⟨hpid.1, hpid.2.trans h.2⟩
              rw [applyRunning_of_ne hactive' hother, hframe, hrun]

/-! ## Events on any row -/

/-- No events change a row whose session has ended. -/
theorem applyEvents_of_not_active {row : SessionRow} (h : row.state.isActive = false)
    (events : List StampedEvent) : row.applyEvents events = row := by
  induction events with
  | nil => rfl
  | cons event events ih =>
      rw [applyEvents_cons, applyEvent_of_not_active h, ih]

/-- The first terminal event ends an active row; what follows it has no effect. -/
theorem applyEvents_first_terminal {row : SessionRow} {before after : List StampedEvent}
    {event : RuntimeEvent} (hactive : row.state.isActive = true)
    (hbefore : ∀ e ∈ before, e.1.isTerminal = false) (hevent : event.isTerminal = true)
    (now : DateTime) :
    row.applyEvents (before ++ (event, now) :: after) =
        (row.applyEvents before).applyEvent event now ∧
      (((row.applyEvents before).applyEvent event now).state,
        ((row.applyEvents before).applyEvent event now).exitCode,
        ((row.applyEvents before).applyEvent event now).lostEvidence) = ending row event := by
  obtain ⟨hrunning, startedAt, updatedAt, hframe⟩ := applyEvents_running hactive hbefore
  have hexit : (row.applyEvents before).exitCode = row.exitCode := by rw [hframe]
  constructor
  · rw [applyEvents_append, applyEvents_cons]
    exact applyEvents_of_not_active (isActive_applyEvent_of_isTerminal hevent now _) after
  · cases event with
    | running id pid startTime => cases hevent
    | terminated id code signal evidence =>
        cases evidence with
        | shimExit => rw [applyEvent, applyTerminated, if_pos hrunning, ending]
        | processExit => rw [applyEvent, applyTerminated, if_pos hrunning, ending]
        | lost lostEvidence => rw [applyEvent, applyLost, if_pos hrunning, ending, hexit]
    | lost id evidence => rw [applyEvent, applyLost, if_pos hrunning, ending, hexit]

/-- Applied twice, events leave what they left the first time, stamps apart. -/
theorem unstamped_applyEvents_twice (row : SessionRow) (events : List StampedEvent) :
    ((row.applyEvents events).applyEvents events).unstamped =
      (row.applyEvents events).unstamped := by
  by_cases hactive : row.state.isActive = true
  · by_cases hrunning : ∀ e ∈ events, e.1.isTerminal = false
    · exact applyEvents_twice_of_running hactive hrunning
    · -- One event is terminal; the row has ended before the second application.
      push Not at hrunning
      obtain ⟨event, hmem, hnot⟩ := hrunning
      have hterminal : event.1.isTerminal = true := Bool.not_eq_false _ ▸ hnot
      obtain ⟨before, after, rfl⟩ := List.append_of_mem hmem
      have hended : (row.applyEvents (before ++ event :: after)).state.isActive = false := by
        have hevent := isActive_applyEvent_of_isTerminal hterminal event.2 (row.applyEvents before)
        rw [applyEvents_append, applyEvents_cons, applyEvents_of_not_active hevent]
        exact hevent
      rw [applyEvents_of_not_active hended]
  · rw [Bool.not_eq_true] at hactive
    rw [applyEvents_of_not_active hactive, applyEvents_of_not_active hactive]

end SessionRow

namespace Database

/-! ## Batches -/

/-- `apply_runtime_events_and_cursor`, each update with its own reading of the clock. -/
def applyStampedEvents (db : Database) (events : List StampedEvent) (nextCursor : EventCursor) :
    Database :=
  (events.foldl (fun db event => db.applyRuntimeEvent event.1 event.2) db).applyCursor nextCursor

/-- The batches the event loop got, in order. -/
def applyBatches (db : Database) (batches : List (List StampedEvent × EventCursor)) : Database :=
  batches.foldl (fun db batch => db.applyStampedEvents batch.1 batch.2) db

/-- The store without the readings of the clock in its session rows. -/
def unstamped (db : Database) : Database :=
  { db with sessions := db.sessions.mapRows fun _ row => row.unstamped }

/-- With one reading for the batch. -/
theorem applyRuntimeEventsAndCursor_eq (db : Database) (events : List RuntimeEvent)
    (nextCursor : EventCursor) (now : DateTime) :
    db.applyRuntimeEventsAndCursor events nextCursor now =
      db.applyStampedEvents (events.map fun event => (event, now)) nextCursor := by
  rw [applyRuntimeEventsAndCursor, applyStampedEvents, List.foldl_map]

/-- The events of a session. -/
def eventsOf (id : SessionId) (events : List StampedEvent) : List StampedEvent :=
  events.filter fun event => event.1.sessionId = id

theorem eventsOf_cons (id : SessionId) (event : StampedEvent) (events : List StampedEvent) :
    eventsOf id (event :: events) =
      if event.1.sessionId = id then event :: eventsOf id events else eventsOf id events := by
  by_cases hid : event.1.sessionId = id
  · rw [if_pos hid, eventsOf, List.filter_cons_of_pos (by simpa using hid), eventsOf]
  · rw [if_neg hid, eventsOf, List.filter_cons_of_neg (by simpa using hid), eventsOf]

theorem eventsOf_append (id : SessionId) (events events' : List StampedEvent) :
    eventsOf id (events ++ events') = eventsOf id events ++ eventsOf id events' :=
  List.filter_append _ _

theorem sameEvents_eventsOf {events events' : List StampedEvent}
    (h : SameEvents events events') (id : SessionId) :
    SameEvents (eventsOf id events) (eventsOf id events') := by
  have hfilter : ∀ events : List StampedEvent, (eventsOf id events).map Prod.fst =
      (events.map Prod.fst).filter fun event => event.sessionId = id := by
    intro events
    rw [List.filter_map]
    rfl
  rw [SameEvents, hfilter, hfilter, h]

/-- A batch runs on each row the events of its session, and touches nothing else. -/
theorem applyStampedEvents_eq (db : Database) (events : List StampedEvent)
    (nextCursor : EventCursor) :
    db.applyStampedEvents events nextCursor =
      { db with
        sessions := db.sessions.mapRows fun id row => row.applyEvents (eventsOf id events)
        eventCursor := some nextCursor } := by
  rw [applyStampedEvents]
  induction events generalizing db with
  | nil =>
      rw [applyCursor, List.foldl_nil]
      congr 1
      exact (Table.mapRows_self fun _ _ _ => rfl).symm
  | cons event events ih =>
      rw [List.foldl_cons, ih, applyRuntimeEvent, Table.modify, Table.mapRows_mapRows]
      congr 1
      refine Table.mapRows_congr fun id row _ => ?_
      rw [eventsOf_cons]
      by_cases hid : event.1.sessionId = id
      · rw [if_pos hid.symm, if_pos hid, SessionRow.applyEvents_cons]
      · rw [if_neg (Ne.symm hid), if_neg hid]

theorem lookup_sessions_applyStampedEvents (db : Database) (events : List StampedEvent)
    (nextCursor : EventCursor) (id : SessionId) :
    (db.applyStampedEvents events nextCursor).sessions.lookup id =
      (db.sessions.lookup id).map fun row => row.applyEvents (eventsOf id events) := by
  rw [applyStampedEvents_eq, Table.lookup_mapRows]

/-- The same events at other times leave the same store, stamps apart. -/
theorem unstamped_applyStampedEvents {db db' : Database} (h : db.unstamped = db'.unstamped)
    {events events' : List StampedEvent} (hevents : SameEvents events events')
    (nextCursor : EventCursor) :
    (db.applyStampedEvents events nextCursor).unstamped =
      (db'.applyStampedEvents events' nextCursor).unstamped := by
  -- The stamps can be dropped before the events are applied.
  have hfactor : ∀ (db : Database) (applied : List StampedEvent), SameEvents applied events' →
      (db.applyStampedEvents applied nextCursor).unstamped =
        { db.unstamped with
          sessions := db.unstamped.sessions.mapRows fun id row =>
            (row.applyEvents (eventsOf id events')).unstamped
          eventCursor := some nextCursor } := by
    intro db applied happlied
    rw [applyStampedEvents_eq, unstamped, unstamped, Table.mapRows_mapRows, Table.mapRows_mapRows]
    congr 1
    refine Table.mapRows_congr fun id row _ => ?_
    have hrow : row.unstamped = row.unstamped.unstamped := rfl
    exact SessionRow.unstamped_applyEvents hrow (sameEvents_eventsOf happlied id)
  rw [hfactor db events hevents, hfactor db' events' rfl, h]

/-- Two batches are one, with the cursor of the second. -/
theorem applyStampedEvents_append (db : Database) (events events' : List StampedEvent)
    (cursor nextCursor : EventCursor) :
    (db.applyStampedEvents events cursor).applyStampedEvents events' nextCursor =
      db.applyStampedEvents (events ++ events') nextCursor := by
  rw [applyStampedEvents_eq, applyStampedEvents_eq, applyStampedEvents_eq]
  rw [Table.mapRows_mapRows]
  congr 1
  refine Table.mapRows_congr fun id row _ => ?_
  rw [eventsOf_append, SessionRow.applyEvents_append]

theorem unstamped_applyStampedEvents_twice (db : Database) {events again : List StampedEvent}
    (hagain : SameEvents again events) (nextCursor : EventCursor) :
    ((db.applyStampedEvents events nextCursor).applyStampedEvents again nextCursor).unstamped =
      (db.applyStampedEvents events nextCursor).unstamped := by
  refine (unstamped_applyStampedEvents rfl hagain nextCursor).trans ?_
  rw [applyStampedEvents_eq, applyStampedEvents_eq, unstamped, unstamped, Table.mapRows_mapRows,
    Table.mapRows_mapRows, Table.mapRows_mapRows]
  congr 1
  exact Table.mapRows_congr fun id row _ => row.unstamped_applyEvents_twice (eventsOf id events)

/-- Batches are one batch with all their events and the cursor of the last. -/
theorem applyBatches_concat (db : Database) (batches : List (List StampedEvent × EventCursor))
    (events : List StampedEvent) (nextCursor : EventCursor) :
    db.applyBatches (batches ++ [(events, nextCursor)]) =
      db.applyStampedEvents (batches.flatMap Prod.fst ++ events) nextCursor := by
  rw [applyBatches]
  induction batches generalizing db with
  | nil => rfl
  | cons batch batches ih =>
      rw [List.cons_append, List.foldl_cons, ih, applyStampedEvents_append, List.flatMap_cons,
        List.append_assoc]

/-- Applying events again, or in other batches, leaves the same rows up to the stamps;
the first terminal event of a session settles its row, and an ended row stays. -/
theorem replay_harmless (db : Database) :
    (∀ (events again : List StampedEvent) (nextCursor : EventCursor), SameEvents again events →
        ((db.applyStampedEvents events nextCursor).applyStampedEvents again nextCursor).unstamped =
          (db.applyStampedEvents events nextCursor).unstamped) ∧
      (∀ (batches : List (List StampedEvent × EventCursor)) (events together : List StampedEvent)
          (nextCursor : EventCursor),
        SameEvents together (batches.flatMap Prod.fst ++ events) →
          (db.applyBatches (batches ++ [(events, nextCursor)])).unstamped =
            (db.applyStampedEvents together nextCursor).unstamped) ∧
      (∀ (before after : List StampedEvent) (event : RuntimeEvent) (now : DateTime)
          (nextCursor : EventCursor) (row : SessionRow),
        db.sessions.lookup event.sessionId = some row → row.state.isActive = true →
          event.isTerminal = true →
          (∀ e ∈ before, e.1.sessionId = event.sessionId → e.1.isTerminal = false) →
            ∃ row', (db.applyStampedEvents (before ++ (event, now) :: after)
                nextCursor).sessions.lookup event.sessionId = some row' ∧
              (row'.state, row'.exitCode, row'.lostEvidence) = ending row event) ∧
      ∀ (events : List StampedEvent) (nextCursor : EventCursor) (id : SessionId)
          (row : SessionRow),
        db.sessions.lookup id = some row → row.state.isActive = false →
          (db.applyStampedEvents events nextCursor).sessions.lookup id = some row := by
  refine ⟨fun events again nextCursor hagain => ?_, fun batches events together nextCursor h => ?_,
    ?_, ?_⟩
  · exact unstamped_applyStampedEvents_twice db hagain nextCursor
  · rw [applyBatches_concat]
    exact (unstamped_applyStampedEvents rfl h nextCursor).symm
  · intro before after event now nextCursor row hrow hactive hterminal hbefore
    have hrunning : ∀ e ∈ eventsOf event.sessionId before, e.1.isTerminal = false := by
      intro e he
      rw [eventsOf, List.mem_filter, decide_eq_true_iff] at he
      exact hbefore e he.1 he.2
    obtain ⟨hlast, hending⟩ := SessionRow.applyEvents_first_terminal hactive hrunning hterminal now
    refine ⟨_, ?_, hending⟩
    rw [lookup_sessions_applyStampedEvents, hrow, Option.map_some, eventsOf_append, eventsOf_cons,
      if_pos rfl, hlast]
  · intro events nextCursor id row hrow hactive
    rw [lookup_sessions_applyStampedEvents, hrow, Option.map_some,
      SessionRow.applyEvents_of_not_active hactive]

end Database

end LittleOrgans.Store
