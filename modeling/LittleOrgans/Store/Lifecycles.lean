import LittleOrgans.Store.Database

/-!
# Lifecycle rows

The statements of the runtime store on `runtime_lifecycle`. `updateLifecycle` is
a blind `UPDATE` by session id: it looks at no column of the old row and fails
only when there is none. `getLifecycle_update` and its companions say what each
statement does to the lifecycle a later `getLifecycle` returns.
-/

set_option autoImplicit false

namespace LittleOrgans.Store

open LittleOrgans.Core
open LittleOrgans.Library

/-- The row that stores a lifecycle. -/
def lifecycleRow (lc : Lifecycle) : LifecycleRow where
  runtime := lc.runtime
  isolation := lc.isolation
  state := lc.state
  shimPid := lc.shimPid
  runtimePid := lc.runtimePid
  startTime := lc.startTime
  tmuxPane := lc.tmuxPane

/-- The lifecycle a row stores. -/
def lifecycleFromRow (id : SessionId) (row : LifecycleRow) : Lifecycle where
  sessionId := id
  runtime := row.runtime
  isolation := row.isolation
  state := row.state
  shimPid := row.shimPid
  runtimePid := row.runtimePid
  startTime := row.startTime
  tmuxPane := row.tmuxPane
  logAvailability := none

/-- What the store keeps of a lifecycle: everything but its log availability. -/
def storedLifecycle (lc : Lifecycle) : Lifecycle := { lc with logAvailability := none }

@[simp]
theorem lifecycleFromRow_lifecycleRow (lc : Lifecycle) :
    lifecycleFromRow lc.sessionId (lifecycleRow lc) = storedLifecycle lc := rfl

/-- A status filter, as far as it names sessions; no id selects every row. -/
structure StatusFilter where
  sessionIds : List SessionId
  deriving DecidableEq

/-- A filter that selects every session. -/
def StatusFilter.empty : StatusFilter := ⟨[]⟩

/-- A filter that selects one session. -/
def StatusFilter.forSession (sessionId : SessionId) : StatusFilter := ⟨[sessionId]⟩

/-- The filter selects the session. -/
def StatusFilter.selects (filter : StatusFilter) (sessionId : SessionId) : Bool :=
  filter.sessionIds.isEmpty || filter.sessionIds.contains sessionId

namespace Database

/-- `get`. -/
def getLifecycle (db : Database) (id : SessionId) : Option Lifecycle :=
  (db.lifecycles.lookup id).map (lifecycleFromRow id)

/-- Inserts the row of a forking lifecycle; the session id is the primary key. -/
def insertForking (db : Database) (lc : Lifecycle) : Except DaemonError Database :=
  if lc.state ≠ .forking then
    .error (.store "insert_forking requires Forking lifecycle state")
  else if db.lifecycles.contains lc.sessionId then
    .error (.store "duplicate key: runtime_lifecycle_pkey")
  else .ok { db with lifecycles := db.lifecycles.insert lc.sessionId (lifecycleRow lc) }

/-- Overwrites the row of a lifecycle, if there is one. -/
def updateLifecycle (db : Database) (lc : Lifecycle) : Except DaemonError Database :=
  if db.lifecycles.contains lc.sessionId then
    .ok { db with lifecycles := db.lifecycles.modify lc.sessionId fun _ => lifecycleRow lc }
  else .error (.sessionNotFound lc.sessionId)

/-- `delete`. -/
def deleteLifecycle (db : Database) (id : SessionId) : Database :=
  { db with lifecycles := db.lifecycles.erase id }

/-- `list`: the lifecycles a filter selects. -/
def listLifecycles (db : Database) (filter : StatusFilter) : List Lifecycle :=
  (db.lifecycles.rows.filter fun row => filter.selects row.1).map fun row =>
    lifecycleFromRow row.1 row.2

/-- Rows whose state is `Running`. -/
def runningLifecycles (db : Database) : List Lifecycle :=
  (db.lifecycles.rows.filter fun row => row.2.state = .running).map fun row =>
    lifecycleFromRow row.1 row.2

/-- The running lifecycle that occupies a tmux pane. -/
def runningTmuxOccupant (db : Database) (address : TmuxAddress) : Option Lifecycle :=
  db.runningLifecycles.find? fun lc => lc.tmuxPane = some address

/-! ## The lookup view of each statement -/

theorem sessionId_of_getLifecycle {db : Database} {id : SessionId} {lc : Lifecycle}
    (h : db.getLifecycle id = some lc) : lc.sessionId = id := by
  obtain ⟨row, -, rfl⟩ := Option.map_eq_some_iff.mp h
  rfl

theorem getLifecycle_eq_none_iff {db : Database} {id : SessionId} :
    db.getLifecycle id = none ↔ db.lifecycles.lookup id = none :=
  Option.map_eq_none_iff

theorem insertForking_eq_ok {db db' : Database} {lc : Lifecycle}
    (h : db.insertForking lc = .ok db') :
    lc.state = .forking ∧ db.getLifecycle lc.sessionId = none ∧
      db' = { db with lifecycles := db.lifecycles.insert lc.sessionId (lifecycleRow lc) } := by
  rw [insertForking] at h
  split at h
  · cases h
  · next hstate =>
      split at h
      · cases h
      · next hkey =>
          cases h
          refine ⟨not_not.mp hstate, ?_, rfl⟩
          rw [getLifecycle_eq_none_iff]
          simpa [Table.contains] using hkey

theorem updateLifecycle_eq_ok {db db' : Database} {lc : Lifecycle}
    (h : db.updateLifecycle lc = .ok db') :
    (∃ old, db.getLifecycle lc.sessionId = some old) ∧
      db' =
        { db with lifecycles := db.lifecycles.modify lc.sessionId fun _ => lifecycleRow lc } := by
  rw [updateLifecycle] at h
  split at h
  · next hkey =>
      cases h
      obtain ⟨row, hrow⟩ := Table.contains_iff.mp hkey
      exact ⟨⟨_, by rw [getLifecycle, hrow]; rfl⟩, rfl⟩
  · cases h

theorem getLifecycle_update {db db' : Database} {lc : Lifecycle}
    (h : db.updateLifecycle lc = .ok db') (id : SessionId) :
    db'.getLifecycle id = if id = lc.sessionId then some (storedLifecycle lc)
      else db.getLifecycle id := by
  obtain ⟨⟨old, hold⟩, rfl⟩ := updateLifecycle_eq_ok h
  obtain ⟨row, hrow, -⟩ := Option.map_eq_some_iff.mp hold
  show ((db.lifecycles.modify lc.sessionId fun _ => lifecycleRow lc).lookup id).map _ = _
  rw [Table.lookup_modify]
  split
  · next h =>
      subst h
      rw [hrow]
      rfl
  · rfl

theorem getLifecycle_insertForking {db db' : Database} {lc : Lifecycle}
    (h : db.insertForking lc = .ok db') (id : SessionId) :
    db'.getLifecycle id = if id = lc.sessionId then some (storedLifecycle lc)
      else db.getLifecycle id := by
  obtain ⟨-, hnone, rfl⟩ := insertForking_eq_ok h
  show ((db.lifecycles.insert lc.sessionId (lifecycleRow lc)).lookup id).map _ = _
  rw [Table.lookup_insert (getLifecycle_eq_none_iff.mp hnone)]
  split
  · next h =>
      subst h
      rfl
  · rfl

theorem getLifecycle_delete (db : Database) (id id' : SessionId) :
    (db.deleteLifecycle id).getLifecycle id' =
      if id' = id then none else db.getLifecycle id' := by
  rw [getLifecycle, deleteLifecycle, Table.lookup_erase]
  split <;> rfl

theorem getLifecycle_of_mem_rows {db : Database} {id : SessionId} {row : LifecycleRow}
    (h : (id, row) ∈ db.lifecycles.rows) :
    db.getLifecycle id = some (lifecycleFromRow id row) := by
  rw [getLifecycle, Table.mem_rows_iff.mp h]
  rfl

theorem mem_listLifecycles {db : Database} {filter : StatusFilter} {lc : Lifecycle} :
    lc ∈ db.listLifecycles filter ↔
      filter.selects lc.sessionId = true ∧ db.getLifecycle lc.sessionId = some lc := by
  rw [listLifecycles, List.mem_map]
  constructor
  · rintro ⟨⟨id, row⟩, hrow, rfl⟩
    rw [List.mem_filter] at hrow
    exact ⟨hrow.2, getLifecycle_of_mem_rows hrow.1⟩
  · rintro ⟨hselects, hlookup⟩
    obtain ⟨row, hrow, hlc⟩ := Option.map_eq_some_iff.mp hlookup
    refine ⟨(lc.sessionId, row), ?_, hlc⟩
    rw [List.mem_filter]
    exact ⟨Table.mem_rows_iff.mpr hrow, hselects⟩

theorem mem_runningLifecycles {db : Database} {lc : Lifecycle} :
    lc ∈ db.runningLifecycles ↔
      lc.state = .running ∧ db.getLifecycle lc.sessionId = some lc := by
  rw [runningLifecycles, List.mem_map]
  constructor
  · rintro ⟨⟨id, row⟩, hrow, rfl⟩
    rw [List.mem_filter] at hrow
    exact ⟨of_decide_eq_true hrow.2, getLifecycle_of_mem_rows hrow.1⟩
  · rintro ⟨hstate, hlookup⟩
    obtain ⟨row, hrow, hlc⟩ := Option.map_eq_some_iff.mp hlookup
    refine ⟨(lc.sessionId, row), ?_, hlc⟩
    rw [List.mem_filter]
    refine ⟨Table.mem_rows_iff.mpr hrow, decide_eq_true ?_⟩
    rw [← hlc] at hstate
    exact hstate

end Database

end LittleOrgans.Store
