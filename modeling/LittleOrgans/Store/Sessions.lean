import LittleOrgans.Store.Mail

/-!
# Session rows

The statements of the session store on `session_sessions`, `session_labels` and
`session_namespaces`. `markSessionTerminated` and `markSessionLost` write the row
whatever its state is; `activate` and `endActive` are the guarded updates of the
event path. The lookup lemmas say which row each operation touches.
-/

set_option autoImplicit false

namespace LittleOrgans.Store

open LittleOrgans.Core
open LittleOrgans.Library

/-- `SessionState::sql_name`. -/
def sqlName : SessionState → SessionStateName
  | .spawning => .spawning
  | .running => .running
  | .terminated => .terminated
  | .lost _ => .lost

/-- `session_lost_evidence`. -/
def sessionLostEvidence : SessionState → Option LostEvidence
  | .spawning => none
  | .running => none
  | .terminated => none
  | .lost evidence => some evidence

/-- `SessionState::from_sql`: a lost row without evidence does not decode. -/
def stateFromSql : SessionStateName → Option LostEvidence → Except String SessionState
  | .spawning, _ => .ok .spawning
  | .running, _ => .ok .running
  | .terminated, _ => .ok .terminated
  | .lost, some evidence => .ok (.lost evidence)
  | .lost, none => .error "lost session missing lost_evidence"

/-- The row `insert_session_row` writes. -/
def sessionRow (session : Session) : SessionRow where
  runtime := session.runtime
  role := session.role
  workspace := session.workspace
  namespaceSlug := session.namespaceSlug
  dir := session.dir
  state := sqlName session.state
  lostEvidence := sessionLostEvidence session.state
  runtimePid := session.runtimePid
  runtimeSession := session.runtimeSession
  transcriptPath := session.transcriptPath
  tmuxPane := session.tmuxPane
  agentConfig := session.agentConfig
  createdAt := session.createdAt
  startedAt := session.startedAt
  terminatedAt := session.terminatedAt
  exitCode := session.exitCode
  updatedAt := session.updatedAt

/-- `session_from_row`, with the labels the query loads after it. -/
def sessionFromRow (id : SessionId) (row : SessionRow) (labels : List Label) :
    Except String Session := do
  let state ← stateFromSql row.state row.lostEvidence
  pure
    { id := id
      runtime := row.runtime
      role := row.role
      workspace := row.workspace
      namespaceSlug := row.namespaceSlug
      dir := row.dir
      labels := labels
      state := state
      runtimePid := row.runtimePid
      runtimeSession := row.runtimeSession
      transcriptPath := row.transcriptPath
      tmuxPane := row.tmuxPane
      agentConfig := row.agentConfig
      createdAt := row.createdAt
      startedAt := row.startedAt
      terminatedAt := row.terminatedAt
      exitCode := row.exitCode
      updatedAt := row.updatedAt }

/-- A stored state decodes to the state that was written. -/
theorem stateFromSql_sqlName (state : SessionState) :
    stateFromSql (sqlName state) (sessionLostEvidence state) = .ok state := by
  cases state <;> rfl

/-- The label table with the labels of a session set one by one; a repeated key
keeps the last value. -/
def labelsUpserted (table : Table (SessionId × String) String) (id : SessionId)
    (labels : List Label) : Table (SessionId × String) String :=
  labels.foldl (fun table label => table.upsert (id, label.key) label.value) table

namespace SessionRow

/-- `SET state = 'TERMINATED', exit_code, terminated_at, updated_at`, with no
condition on the old state. -/
def markTerminated (exitCode : Option Int) (terminatedAt : DateTime) (row : SessionRow) :
    SessionRow :=
  { row with
    state := .terminated
    exitCode := exitCode
    terminatedAt := some terminatedAt
    updatedAt := terminatedAt }

/-- `SET state = 'LOST', lost_evidence, updated_at`, with no condition on the old
state. -/
def markLost (evidence : LostEvidence) (updatedAt : DateTime) (row : SessionRow) : SessionRow :=
  { row with state := .lost, lostEvidence := some evidence, updatedAt := updatedAt }

/-- `SET transcript_path, updated_at` unless the path is already stored. -/
def recordTranscriptPath (path : String) (updatedAt : DateTime) (row : SessionRow) : SessionRow :=
  if row.transcriptPath = some path then row
  else { row with transcriptPath := some path, updatedAt := updatedAt }

end SessionRow

namespace Database

/-- Sets the labels of a session. -/
def upsertLabels (db : Database) (id : SessionId) (labels : List Label) : Database :=
  { db with labels := labelsUpserted db.labels id labels }

/-- Inserts a session and its labels; the session id is the primary key. -/
def insertSession (db : Database) (session : Session) : Except DaemonError Database :=
  if db.sessions.contains session.id then .error (.store "duplicate key: session_sessions_pkey")
  else
    let db := { db with sessions := db.sessions.insert session.id (sessionRow session) }
    .ok (db.upsertLabels session.id session.labels)

/-- The labels of a session, ordered by key. -/
def labelsForSession (db : Database) (id : SessionId) : List Label :=
  ((db.labels.rows.filter fun row => row.1.1 = id).map fun row =>
    Label.mk row.1.2 row.2).insertionSort fun a b => a.key ≤ b.key

/-- `get_session`. -/
def getSession (db : Database) (id : SessionId) : Except String (Option Session) :=
  match db.sessions.lookup id with
  | none => .ok none
  | some row => (sessionFromRow id row (db.labelsForSession id)).map some

/-- Records the end of a session with an exit code, whatever its row says, and
drops its unread mail. -/
def markSessionTerminated (db : Database) (id : SessionId) (exitCode : Option Int)
    (terminatedAt : DateTime) : Database :=
  let db :=
    { db with sessions := db.sessions.modify id (SessionRow.markTerminated exitCode terminatedAt) }
  db.markUnreadUndeliverable id

/-- Records the loss of a session, whatever its row says, and drops its unread
mail. -/
def markSessionLost (db : Database) (id : SessionId) (evidence : LostEvidence)
    (updatedAt : DateTime) : Database :=
  let db := { db with sessions := db.sessions.modify id (SessionRow.markLost evidence updatedAt) }
  db.markUnreadUndeliverable id

/-- `record_transcript_path`. -/
def recordTranscriptPath (db : Database) (id : SessionId) (path : String)
    (updatedAt : DateTime) : Database :=
  { db with
    sessions := db.sessions.modify id (SessionRow.recordTranscriptPath path updatedAt) }

/-! ## Namespaces -/

/-- `namespace_exists`. -/
def namespaceExists (db : Database) (slug : String) : Bool := db.namespaces.contains slug

/-- Ids of the sessions of a namespace. -/
def sessionIdsInNamespace (db : Database) (slug : String) : List SessionId :=
  (db.sessions.rows.filter fun row => row.2.namespaceSlug = slug).map Prod.fst

/-- Deletes the messages of a session that no delivery refers to any more. -/
def gcSessionSenderMessages (db : Database) (id : SessionId) : Database :=
  { db with
    messages := db.messages.filterRows fun messageId message =>
      ¬(message.sender = .session id ∧ ∀ row ∈ db.deliveries.rows, row.1.1 ≠ messageId) }

/-- Deletes the sessions of a namespace with their labels, the deliveries
addressed to them and the messages this leaves without a delivery. -/
def deleteSessionsByNamespace (db : Database) (slug : String) : Database :=
  let sessionIds := db.sessionIdsInNamespace slug
  let db :=
    { db with
      labels := db.labels.filterRows fun key _ => key.1 ∉ sessionIds
      deliveries := db.deliveries.filterRows fun key _ => key.2 ∉ sessionIds }
  let db := sessionIds.foldl gcSessionSenderMessages db
  { db with sessions := db.sessions.filterRows fun _ row => row.namespaceSlug ≠ slug }

/-- `delete_namespace`, the statement alone. -/
def deleteNamespace (db : Database) (slug : String) : Database :=
  { db with namespaces := db.namespaces.erase slug }

/-! ## What the operations leave alone -/

section Frames

variable (db : Database)

@[simp]
theorem sessions_markUnreadUndeliverable (id : SessionId) :
    (db.markUnreadUndeliverable id).sessions = db.sessions := rfl

theorem lookup_sessions_markSessionTerminated (id : SessionId) (exitCode : Option Int)
    (terminatedAt : DateTime) (id' : SessionId) :
    (db.markSessionTerminated id exitCode terminatedAt).sessions.lookup id' =
      if id' = id then (db.sessions.lookup id).map (SessionRow.markTerminated exitCode terminatedAt)
      else db.sessions.lookup id' :=
  Table.lookup_modify _ _ _ _

theorem lookup_sessions_markSessionLost (id : SessionId) (evidence : LostEvidence)
    (updatedAt : DateTime) (id' : SessionId) :
    (db.markSessionLost id evidence updatedAt).sessions.lookup id' =
      if id' = id then (db.sessions.lookup id).map (SessionRow.markLost evidence updatedAt)
      else db.sessions.lookup id' :=
  Table.lookup_modify _ _ _ _

theorem lookup_sessions_recordTranscriptPath (id : SessionId) (path : String)
    (updatedAt : DateTime) (id' : SessionId) :
    (db.recordTranscriptPath id path updatedAt).sessions.lookup id' =
      if id' = id then (db.sessions.lookup id).map (SessionRow.recordTranscriptPath path updatedAt)
      else db.sessions.lookup id' :=
  Table.lookup_modify _ _ _ _

/-- Deleting the sessions of a namespace touches no lifecycle and no intent. -/
theorem frame_deleteSessionsByNamespace (slug : String) :
    db.deleteSessionsByNamespace slug =
      { db with
        labels := (db.deleteSessionsByNamespace slug).labels
        deliveries := (db.deleteSessionsByNamespace slug).deliveries
        messages := (db.deleteSessionsByNamespace slug).messages
        sessions := db.sessions.filterRows fun _ row => row.namespaceSlug ≠ slug } := by
  have hfold : ∀ (ids : List SessionId) (db : Database),
      ids.foldl gcSessionSenderMessages db =
        { db with messages := (ids.foldl gcSessionSenderMessages db).messages } := by
    intro ids
    induction ids with
    | nil => exact fun db => rfl
    | cons id ids ih =>
        intro db
        rw [List.foldl_cons, ih]
        rfl
  rw [deleteSessionsByNamespace, hfold]

end Frames

end Database

end LittleOrgans.Store
