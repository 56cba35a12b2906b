import LittleOrgans.Library.Except
import LittleOrgans.Store.Lifecycles
import LittleOrgans.Store.Sessions

/-!
# Spawn intents

The statements of the session store on `session_spawn_intents` and the three
transactions of a two-phase spawn: `beginSpawnIntent` inserts the pending intent
with a forking lifecycle, `commitSpawnIntent` inserts the session, writes the
lifecycle back and resolves the intent, `abortSpawnIntent` aborts the intent and
deletes the lifecycle. The status update looks at no column of the old row.
-/

set_option autoImplicit false

namespace LittleOrgans.Store

open LittleOrgans.Core
open LittleOrgans.Library

/-- What the first transaction records about a spawn. -/
structure PendingSpawnIntent where
  sessionId : SessionId
  operationId : IntentId
  spawnRequest : RuntimeSpawnRequest
  sessionDraft : SessionDraft
  createdAt : Int
  deriving DecidableEq

/-- How an intent is settled. -/
inductive SpawnIntentStatusUpdate where
  | resolved
  | aborted (reason : AbortReason)

namespace SpawnIntentStatusUpdate

/-- The status of a settled intent. -/
def status : SpawnIntentStatusUpdate → SpawnIntentStatus
  | .resolved => .resolved
  | .aborted _ => .aborted

/-- When it was resolved. -/
def resolvedAt (nowMs : Int) : SpawnIntentStatusUpdate → Option Int
  | .resolved => some nowMs
  | .aborted _ => none

/-- Why it was aborted. -/
def abortedReason : SpawnIntentStatusUpdate → Option AbortReason
  | .resolved => none
  | .aborted reason => some reason

end SpawnIntentStatusUpdate

/-- The row of a pending intent. -/
def pendingIntentRow (intent : PendingSpawnIntent) : SpawnIntentRow where
  operationId := intent.operationId
  status := .pending
  spawnRequest := intent.spawnRequest
  sessionDraft := intent.sessionDraft
  createdAt := intent.createdAt
  updatedAt := intent.createdAt
  resolvedAt := none
  abortedReason := none

/-- `SET status, updated_at, resolved_at, aborted_reason`, on one row. -/
def SpawnIntentRow.setStatus (nowMs : Int) (update : SpawnIntentStatusUpdate)
    (row : SpawnIntentRow) : SpawnIntentRow :=
  { row with
    status := update.status
    updatedAt := nowMs
    resolvedAt := update.resolvedAt nowMs
    abortedReason := update.abortedReason }

namespace Database

/-- Inserts a pending intent; the session id is the primary key. -/
def insertPendingSpawnIntent (db : Database) (intent : PendingSpawnIntent) :
    Except DaemonError Database :=
  if db.spawnIntents.contains intent.sessionId then
    .error (.store "failed to insert pending spawn intent")
  else
    .ok
      { db with spawnIntents := db.spawnIntents.insert intent.sessionId (pendingIntentRow intent) }

/-- `update_spawn_intent_status`. -/
def updateSpawnIntentStatus (db : Database) (id : SessionId) (nowMs : Int)
    (update : SpawnIntentStatusUpdate) : Database :=
  { db with spawnIntents := db.spawnIntents.modify id (SpawnIntentRow.setStatus nowMs update) }

/-- Pending intents, in the order they were created. -/
def listPendingSpawnIntents (db : Database) : List (SessionId × SpawnIntentRow) :=
  (db.spawnIntents.rows.filter fun row => row.2.status = .pending).insertionSort
    fun a b => a.2.createdAt ≤ b.2.createdAt

/-! ## The transactions of a spawn -/

/-- The lifecycle the first transaction inserts. -/
def forkingLifecycle (intent : PendingSpawnIntent) : Lifecycle :=
  { Lifecycle.forking intent.sessionId intent.spawnRequest.runtime with
    isolation := intent.spawnRequest.isolation }

/-- The writes of the first transaction. -/
def beginSpawnIntent (db : Database) (intent : PendingSpawnIntent) :
    Except DaemonError Database := do
  let db ← db.insertPendingSpawnIntent intent
  db.insertForking (forkingLifecycle intent)

/-- The writes of the second transaction: the session, the lifecycle that spawn
returned, and the resolved intent. -/
def commitSpawnIntent (db : Database) (id : SessionId) (session : Session) (lifecycle : Lifecycle)
    (nowMs : Int) : Except DaemonError Database := do
  let db ← db.insertSession session
  let db ← db.updateLifecycle lifecycle
  pure (db.updateSpawnIntentStatus id nowMs .resolved)

/-- The writes of an abort. -/
def abortSpawnIntent (db : Database) (id : SessionId) (reason : AbortReason) (nowMs : Int) :
    Database :=
  (db.updateSpawnIntentStatus id nowMs (.aborted reason)).deleteLifecycle id

/-! ## What each transaction does -/

theorem beginSpawnIntent_eq_ok {db db' : Database} {intent : PendingSpawnIntent}
    (h : db.beginSpawnIntent intent = .ok db') :
    db.spawnIntents.lookup intent.sessionId = none ∧
      db.getLifecycle intent.sessionId = none ∧
      db' =
        { db with
          spawnIntents := db.spawnIntents.insert intent.sessionId (pendingIntentRow intent)
          lifecycles :=
            db.lifecycles.insert intent.sessionId (lifecycleRow (forkingLifecycle intent)) } := by
  obtain ⟨db₁, hinsert, hforking⟩ := Except.bind_eq_ok.mp h
  rw [insertPendingSpawnIntent] at hinsert
  split at hinsert
  · cases hinsert
  · next hkey =>
      cases hinsert
      obtain ⟨-, hlc, rfl⟩ := insertForking_eq_ok hforking
      refine ⟨?_, hlc, rfl⟩
      simpa [Table.contains] using hkey

/-- The second transaction as one statement about each table. -/
theorem commitSpawnIntent_eq_ok {db db' : Database} {id : SessionId} {session : Session}
    {lifecycle : Lifecycle} {nowMs : Int}
    (h : db.commitSpawnIntent id session lifecycle nowMs = .ok db') :
    db.sessions.lookup session.id = none ∧
      (∃ old, db.getLifecycle lifecycle.sessionId = some old) ∧
      db' =
        { db with
          sessions := db.sessions.insert session.id (sessionRow session)
          labels := labelsUpserted db.labels session.id session.labels
          lifecycles :=
            db.lifecycles.modify lifecycle.sessionId fun _ => lifecycleRow lifecycle
          spawnIntents :=
            db.spawnIntents.modify id (SpawnIntentRow.setStatus nowMs .resolved) } := by
  obtain ⟨db₁, hinsert, h⟩ := Except.bind_eq_ok.mp h
  obtain ⟨db₂, hupdate, h⟩ := Except.bind_eq_ok.mp h
  cases h
  rw [insertSession] at hinsert
  split at hinsert
  · cases hinsert
  · next hkey =>
      cases hinsert
      obtain ⟨hold, rfl⟩ := updateLifecycle_eq_ok hupdate
      exact ⟨by simpa [Table.contains] using hkey, hold, rfl⟩

theorem getLifecycle_beginSpawnIntent {db db' : Database} {intent : PendingSpawnIntent}
    (h : db.beginSpawnIntent intent = .ok db') (id : SessionId) :
    db'.getLifecycle id = if id = intent.sessionId then some (forkingLifecycle intent)
      else db.getLifecycle id := by
  obtain ⟨-, hnone, rfl⟩ := beginSpawnIntent_eq_ok h
  show ((db.lifecycles.insert intent.sessionId _).lookup id).map _ = _
  rw [Table.lookup_insert (getLifecycle_eq_none_iff.mp hnone)]
  split
  · next h =>
      subst h
      rfl
  · rfl

theorem getLifecycle_commitSpawnIntent {db db' : Database} {id : SessionId} {session : Session}
    {lifecycle : Lifecycle} {nowMs : Int}
    (h : db.commitSpawnIntent id session lifecycle nowMs = .ok db') (id' : SessionId) :
    db'.getLifecycle id' =
      if id' = lifecycle.sessionId then some (storedLifecycle lifecycle)
      else db.getLifecycle id' := by
  obtain ⟨-, ⟨old, hold⟩, rfl⟩ := commitSpawnIntent_eq_ok h
  obtain ⟨row, hrow, -⟩ := Option.map_eq_some_iff.mp hold
  show ((db.lifecycles.modify lifecycle.sessionId fun _ => lifecycleRow lifecycle).lookup id').map
    _ = _
  rw [Table.lookup_modify]
  split
  · next h =>
      subst h
      rw [hrow]
      rfl
  · rfl

theorem getLifecycle_abortSpawnIntent (db : Database) (id : SessionId) (reason : AbortReason)
    (nowMs : Int) (id' : SessionId) :
    (db.abortSpawnIntent id reason nowMs).getLifecycle id' =
      if id' = id then none else db.getLifecycle id' :=
  getLifecycle_delete _ _ _

end Database

end LittleOrgans.Store
