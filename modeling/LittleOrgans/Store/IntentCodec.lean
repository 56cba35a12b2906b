import LittleOrgans.Core.SelectorText
import LittleOrgans.Library.Except
import LittleOrgans.Store.SpawnIntents

/-!
# The columns of a spawn intent

`intent_from_row` and the columns it reads. The spawn request and the session draft are JSON in
text columns; elsewhere a row of `session_spawn_intents` holds the two values themselves. What
that stands on is `IntentJson.ReadsBack`, a condition on each stored row: the columns of
the pending intents read back to the rows when every one of them meets it, and one that does not
fails the whole query (`listPendingIntents_eq_ok_iff`).
-/

set_option autoImplicit false

namespace LittleOrgans.Store

open LittleOrgans.Core
open LittleOrgans.Library

/-! ## Texts -/

/-- `serde_json` on the two values of an intent, and the text of an abort. -/
structure IntentJson where
  requestText : RuntimeSpawnRequest → String
  requestFromText : String → Except String RuntimeSpawnRequest
  draftText : SessionDraft → String
  draftFromText : String → Except String SessionDraft
  reasonText : AbortReason → String

/-- The JSON of the row is read back to what was written. -/
structure IntentJson.ReadsBack (json : IntentJson) (row : SpawnIntentRow) : Prop where
  request : json.requestFromText (json.requestText row.spawnRequest) = .ok row.spawnRequest
  draft : json.draftFromText (json.draftText row.sessionDraft) = .ok row.sessionDraft

namespace SpawnIntentStatus

def asStr : SpawnIntentStatus → String
  | .pending => "pending"
  | .resolved => "resolved"
  | .aborted => "aborted"

/-- `SpawnIntentStatus::parse`. -/
def parse (value : String) : Except String SpawnIntentStatus :=
  if value = "pending" then .ok .pending
  else if value = "resolved" then .ok .resolved
  else if value = "aborted" then .ok .aborted
  else .error ("unknown spawn intent status: " ++ value)

theorem parse_asStr (status : SpawnIntentStatus) : parse status.asStr = .ok status := by
  cases status with
  | pending => rfl
  | resolved => rfl
  | aborted => rfl

end SpawnIntentStatus

/-! ## Columns -/

structure IntentColumns where
  sessionId : String
  operationId : String
  status : String
  spawnRequestJson : String
  sessionDraftJson : String
  createdAt : Int
  updatedAt : Int
  resolvedAt : Option Int
  abortedReason : Option String

/-- An intent as `intent_from_row` returns it. -/
structure SessionSpawnIntent where
  sessionId : SessionId
  operationId : IntentId
  status : SpawnIntentStatus
  spawnRequest : RuntimeSpawnRequest
  sessionDraft : SessionDraft
  createdAt : Int
  updatedAt : Int
  resolvedAt : Option Int
  abortedReason : Option String

section Codec

variable (formats : TextFormats) (json : IntentJson)

/-- The columns that the statements on an intent have written. -/
def intentColumns (row : SessionId × SpawnIntentRow) : IntentColumns where
  sessionId := .ofList (uuidText row.1.uuid)
  operationId := .ofList (uuidText row.2.operationId.uuid)
  status := row.2.status.asStr
  spawnRequestJson := json.requestText row.2.spawnRequest
  sessionDraftJson := json.draftText row.2.sessionDraft
  createdAt := row.2.createdAt
  updatedAt := row.2.updatedAt
  resolvedAt := row.2.resolvedAt
  abortedReason := row.2.abortedReason.map json.reasonText

/-- What a stored row stands for. -/
def storedIntent (row : SessionId × SpawnIntentRow) : SessionSpawnIntent where
  sessionId := row.1
  operationId := row.2.operationId
  status := row.2.status
  spawnRequest := row.2.spawnRequest
  sessionDraft := row.2.sessionDraft
  createdAt := row.2.createdAt
  updatedAt := row.2.updatedAt
  resolvedAt := row.2.resolvedAt
  abortedReason := row.2.abortedReason.map json.reasonText

/-- `intent_from_row`; its first error is the error of the query. -/
def intentFromRow (columns : IntentColumns) : Except String SessionSpawnIntent := do
  let sessionId ← formats.parseUuid columns.sessionId.toList
  let operationId ← formats.parseUuid columns.operationId.toList
  let status ← SpawnIntentStatus.parse columns.status
  let spawnRequest ← json.requestFromText columns.spawnRequestJson
  let sessionDraft ← json.draftFromText columns.sessionDraftJson
  return {
    sessionId := ⟨sessionId⟩
    operationId := ⟨operationId⟩
    status := status
    spawnRequest := spawnRequest
    sessionDraft := sessionDraft
    createdAt := columns.createdAt
    updatedAt := columns.updatedAt
    resolvedAt := columns.resolvedAt
    abortedReason := columns.abortedReason }

/-- `list_pending_spawn_intents`, over the columns of the rows. -/
def listPendingIntents (db : Database) : Except String (List SessionSpawnIntent) :=
  (db.listPendingSpawnIntents.map (intentColumns json)).mapM (intentFromRow formats json)

end Codec

/-! ## Reading the columns back -/

section ReadBack

variable {formats : TextFormats} {json : IntentJson}

theorem parseUuid_ofList (hformats : formats.ReadsUuids) (uuid : BitVec 128) :
    formats.parseUuid (String.ofList (uuidText uuid)).toList = .ok uuid := by
  rw [String.toList_ofList]
  exact hformats.hyphenated uuid

/-- The columns of a row read back to it exactly when its JSON does. -/
theorem intentFromRow_columns_iff (hformats : formats.ReadsUuids)
    (row : SessionId × SpawnIntentRow) :
    intentFromRow formats json (intentColumns json row) = .ok (storedIntent json row) ↔
      json.ReadsBack row.2 := by
  have hid := parseUuid_ofList hformats row.1.uuid
  have hoperation := parseUuid_ofList hformats row.2.operationId.uuid
  have hstatus := SpawnIntentStatus.parse_asStr row.2.status
  constructor
  · intro h
    obtain ⟨sessionId, -, h⟩ := Except.bind_eq_ok.mp h
    obtain ⟨operationId, -, h⟩ := Except.bind_eq_ok.mp h
    obtain ⟨status, -, h⟩ := Except.bind_eq_ok.mp h
    obtain ⟨request, hrequest, h⟩ := Except.bind_eq_ok.mp h
    obtain ⟨draft, hdraft, h⟩ := Except.bind_eq_ok.mp h
    have hread := Except.ok.inj h
    have hrequestSame := congrArg SessionSpawnIntent.spawnRequest hread
    have hdraftSame := congrArg SessionSpawnIntent.sessionDraft hread
    exact ⟨hrequest.trans (congrArg Except.ok hrequestSame),
      hdraft.trans (congrArg Except.ok hdraftSame)⟩
  · intro h
    exact Except.bind_eq_ok.mpr ⟨_, hid, Except.bind_eq_ok.mpr ⟨_, hoperation,
      Except.bind_eq_ok.mpr ⟨_, hstatus, Except.bind_eq_ok.mpr ⟨_, h.request,
        Except.bind_eq_ok.mpr ⟨_, h.draft, rfl⟩⟩⟩⟩⟩

/-- The pending intents are read from their columns as they are stored exactly when the JSON of
each of them reads back. -/
theorem listPendingIntents_eq_ok_iff (hformats : formats.ReadsUuids) (db : Database) :
    listPendingIntents formats json db =
        .ok (db.listPendingSpawnIntents.map (storedIntent json)) ↔
      ∀ row ∈ db.listPendingSpawnIntents, json.ReadsBack row.2 := by
  rw [listPendingIntents, Except.mapM_eq_ok, List.forall₂_map_left_iff,
    List.forall₂_map_right_iff, List.forall₂_same]
  exact forall₂_congr fun row _ => intentFromRow_columns_iff hformats row

end ReadBack

end LittleOrgans.Store
