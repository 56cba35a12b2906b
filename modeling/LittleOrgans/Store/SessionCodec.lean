import LittleOrgans.Core.SelectorText
import LittleOrgans.Library.Assignments
import LittleOrgans.Library.Except
import LittleOrgans.Library.Sorting
import LittleOrgans.Store.LifecycleCodec
import LittleOrgans.Store.Sessions
import Mathlib.Data.String.Basic

/-!
# The session row codec

The columns of `session_sessions` as texts and integers, their decoding, and the labels that
are read after a row. The rows of `Database` stand for their columns; `sessionFromColumns_columns`
says that decoding the texts gives what the typed row gives.

Labels are read in the order of the database's collation, which the schema does not fix.
`labels_readBack_iff` says which labels of a new session are read back as they were sorted
before they were written.
-/

set_option autoImplicit false

namespace LittleOrgans.Core

/-! ## Texts of session values -/

/-- The command of a runtime, which is its column. -/
def SessionRuntimeKind.command : SessionRuntimeKind → String
  | .claude => "claude"
  | .codex => "codex"

/-- A runtime from its column. -/
def SessionRuntimeKind.fromStr (value : String) : Except String SessionRuntimeKind :=
  if value = "claude" then .ok .claude
  else if value = "codex" then .ok .codex
  else .error ("unsupported runtime: " ++ value)

/-- The state of a session, from its columns. -/
def SessionState.fromSql (value : String) (lostEvidence : Option LostEvidence) :
    Except String SessionState :=
  if value = "SPAWNING" then .ok .spawning
  else if value = "RUNNING" then .ok .running
  else if value = "TERMINATED" then .ok .terminated
  else if value = "LOST" then
    match lostEvidence with
    | some evidence => .ok (.lost evidence)
    | none => .error "lost session missing lost_evidence"
  else .error ("unsupported session state: " ++ value)

theorem SessionRuntimeKind.fromStr_command (kind : SessionRuntimeKind) :
    fromStr kind.command = .ok kind := by
  cases kind with
  | claude => rfl
  | codex => rfl

theorem LostEvidence.fromText_asStr (evidence : LostEvidence) :
    fromText evidence.asStr = evidence := by
  cases evidence with
  | shimDiedBeforeReport => rfl
  | pidNotAlive => rfl
  | pidReuseDetected => rfl
  | unknown => rfl

/-! ## The order of labels -/

/-- The derived order: by key, then by value. -/
def Label.Le (a b : Label) : Prop := a.key < b.key ∨ a.key = b.key ∧ a.value ≤ b.value

instance : DecidableRel Label.Le := fun a b =>
  inferInstanceAs (Decidable (a.key < b.key ∨ a.key = b.key ∧ a.value ≤ b.value))

instance : Std.Total Label.Le where
  total a b := by
    rcases lt_trichotomy a.key b.key with hlt | heq | hgt
    · exact .inl (.inl hlt)
    · rcases le_total a.value b.value with hle | hge
      · exact .inl (.inr ⟨heq, hle⟩)
      · exact .inr (.inr ⟨heq.symm, hge⟩)
    · exact .inr (.inl hgt)

instance : IsTrans Label Label.Le where
  trans a b c := by
    rintro (hab | ⟨hab, hvalue⟩) (hbc | ⟨hbc, hvalue'⟩)
    · exact .inl (hab.trans hbc)
    · exact .inl (hbc ▸ hab)
    · exact .inl (hab ▸ hbc)
    · exact .inr ⟨hab.trans hbc, hvalue.trans hvalue'⟩

theorem Label.Le.key_le {a b : Label} (h : a.Le b) : a.key ≤ b.key := by
  rcases h with h | ⟨h, -⟩
  · exact le_of_lt h
  · exact le_of_eq h

/-- `labels.sort()`. -/
def sortLabels (labels : List Label) : List Label := labels.insertionSort Label.Le

end LittleOrgans.Core

namespace LittleOrgans.Store.Codec

open LittleOrgans.Core
open LittleOrgans.Library

/-! ## Columns -/

/-- Why a row does not decode. -/
inductive SessionRowError where
  | uuid (error : String)
  | core (message : String)
  | namespaceError (error : NamespaceError)
  | integerOutOfRange (field : String) (value : Int)
  deriving DecidableEq

/-- The columns of a session row. -/
structure SessionColumns where
  id : String
  runtime : String
  role : String
  workspace : String
  namespaceSlug : String
  dir : String
  state : String
  lostEvidence : Option String
  runtimePid : Int
  runtimeSession : Option String
  transcriptPath : Option String
  tmuxPane : Option String
  agentConfig : Option String
  createdAt : DateTime
  startedAt : DateTime
  terminatedAt : Option DateTime
  exitCode : Option Int
  updatedAt : DateTime
  deriving DecidableEq

/-- `sql_name`. -/
def sqlText : SessionStateName → String
  | .spawning => "SPAWNING"
  | .running => "RUNNING"
  | .terminated => "TERMINATED"
  | .lost => "LOST"

/-- The values `insert_session_row` binds, for the row it writes. -/
def columns (id : SessionId) (row : SessionRow) : SessionColumns where
  id := String.ofList (uuidText id.uuid)
  runtime := row.runtime.command
  role := row.role
  workspace := row.workspace
  namespaceSlug := row.namespaceSlug
  dir := row.dir
  state := sqlText row.state
  lostEvidence := row.lostEvidence.map LostEvidence.asStr
  runtimePid := Int.ofNat row.runtimePid
  runtimeSession := row.runtimeSession
  transcriptPath := row.transcriptPath
  tmuxPane := row.tmuxPane
  agentConfig := row.agentConfig
  createdAt := row.createdAt
  startedAt := row.startedAt
  terminatedAt := row.terminatedAt
  exitCode := row.exitCode
  updatedAt := row.updatedAt

/-! ## Decoding -/

/-- `u32::try_from` on the column `runtime_pid`. -/
def runtimePidFromRow (row : SessionColumns) : Except SessionRowError Pid :=
  if 0 ≤ row.runtimePid ∧ row.runtimePid ≤ u32Max then .ok row.runtimePid.toNat
  else .error (.integerOutOfRange "runtime_pid" row.runtimePid)

/-- The state in a row. -/
def sessionStateFromRow (row : SessionColumns) : Except String SessionState :=
  SessionState.fromSql row.state (row.lostEvidence.map LostEvidence.fromText)

/-- `optional_i32` on the column `exit_code`. -/
def exitCodeFromRow (row : SessionColumns) : Except SessionRowError (Option Int) :=
  match row.exitCode with
  | none => .ok none
  | some value =>
      if InI32 value then .ok (some value) else .error (.integerOutOfRange "exit_code" value)

/-- `session_from_row`; the labels are loaded after it. -/
def sessionFromColumns (formats : TextFormats) (row : SessionColumns) :
    Except SessionRowError Session := do
  let runtimePid ← runtimePidFromRow row
  let uuid ← (formats.parseUuid row.id.toList).mapError SessionRowError.uuid
  let runtime ← (SessionRuntimeKind.fromStr row.runtime).mapError SessionRowError.core
  let namespaceSlug ←
    (newNamespace row.namespaceSlug.toList).mapError SessionRowError.namespaceError
  let state ← (sessionStateFromRow row).mapError SessionRowError.core
  let exitCode ← exitCodeFromRow row
  pure
    { id := ⟨uuid⟩
      runtime := runtime
      role := row.role
      workspace := row.workspace
      namespaceSlug := namespaceSlug
      dir := row.dir
      labels := []
      state := state
      runtimePid := runtimePid
      runtimeSession := row.runtimeSession
      transcriptPath := row.transcriptPath
      tmuxPane := row.tmuxPane
      agentConfig := row.agentConfig
      createdAt := row.createdAt
      startedAt := row.startedAt
      terminatedAt := row.terminatedAt
      exitCode := exitCode
      updatedAt := row.updatedAt }

/-- The values of a row that come from types of the source: a slug, a `u32`, an `i32`. -/
structure IsWireRow (row : SessionRow) : Prop where
  namespaceSlug : newNamespace row.namespaceSlug.toList = .ok row.namespaceSlug
  runtimePid : row.runtimePid ≤ u32Max
  exitCode : ∀ code ∈ row.exitCode, InI32 code

theorem sessionStateFromRow_columns (id : SessionId) (row : SessionRow) :
    sessionStateFromRow (columns id row) = stateFromSql row.state row.lostEvidence := by
  have hevidence : ((columns id row).lostEvidence.map LostEvidence.fromText) =
      row.lostEvidence := by
    cases hlost : row.lostEvidence with
    | none => simp [columns, hlost]
    | some evidence => simp [columns, hlost, LostEvidence.fromText_asStr]
  rw [sessionStateFromRow, hevidence, columns]
  cases row.state with
  | spawning => rfl
  | running => rfl
  | terminated => rfl
  | lost =>
      cases row.lostEvidence with
      | none => rfl
      | some evidence => rfl

/-- The texts of a row decode to what the row holds. -/
theorem sessionFromColumns_columns {formats : TextFormats} (hformats : formats.ReadsUuids)
    (id : SessionId) {row : SessionRow} (h : IsWireRow row) :
    sessionFromColumns formats (columns id row) =
      (sessionFromRow id row []).mapError SessionRowError.core := by
  have hpid : runtimePidFromRow (columns id row) = .ok row.runtimePid :=
    if_pos ⟨Int.natCast_nonneg row.runtimePid, Int.ofNat_le.mpr h.runtimePid⟩
  have huuid : formats.parseUuid (columns id row).id.toList = .ok id.uuid := by
    rw [columns, String.toList_ofList]
    exact hformats.hyphenated id.uuid
  have hruntime : SessionRuntimeKind.fromStr (columns id row).runtime = .ok row.runtime :=
    SessionRuntimeKind.fromStr_command row.runtime
  have hnamespace : newNamespace (columns id row).namespaceSlug.toList = .ok row.namespaceSlug :=
    h.namespaceSlug
  have hexit : exitCodeFromRow (columns id row) = .ok row.exitCode := by
    rw [exitCodeFromRow]
    cases hcode : row.exitCode with
    | none => simp [columns, hcode]
    | some code => simp [columns, hcode, h.exitCode code hcode]
  rw [sessionFromColumns, hpid, huuid, hruntime, hnamespace, sessionStateFromRow_columns, hexit,
    sessionFromRow]
  cases stateFromSql row.state row.lostEvidence with
  | error error => rfl
  | ok state => rfl

/-! ## Labels -/

/-- The order of texts in a database. -/
structure Collation where
  le : String → String → Bool
  total : ∀ a b, le a b = true ∨ le b a = true
  trans : ∀ a b c, le a b = true → le b c = true → le a c = true
  antisymm : ∀ a b, le a b = true → le b a = true → a = b

/-- The order of the bytes, the one the daemon sorts in. -/
def Collation.codepoint : Collation where
  le a b := decide (a ≤ b)
  total a b := by simpa using le_total a b
  trans a b c := by simpa using le_trans
  antisymm a b := by simpa using le_antisymm

namespace Collation

variable (collation : Collation)

/-- `ORDER BY key`. -/
def KeyLe (a b : Label) : Prop := collation.le a.key b.key = true

instance : DecidableRel collation.KeyLe := fun a b =>
  inferInstanceAs (Decidable (collation.le a.key b.key = true))

instance : Std.Total collation.KeyLe where
  total a b := collation.total a.key b.key

instance : IsTrans Label collation.KeyLe where
  trans a b c := collation.trans a.key b.key c.key

theorem keyLe_of_key_eq {a b : Label} (h : a.key = b.key) : collation.KeyLe a b := by
  rw [KeyLe, h]
  rcases collation.total b.key b.key with hle | hle
  · exact hle
  · exact hle

end Collation

/-- The labels of a session in the order of their rows. -/
def labelRows (db : Database) (id : SessionId) : List Label :=
  (db.labels.rows.filter fun row => row.1.1 = id).map fun row => Label.mk row.1.2 row.2

/-- `labels_for_session`. -/
def labelsForSession (collation : Collation) (db : Database) (id : SessionId) : List Label :=
  (labelRows db id).insertionSort collation.KeyLe

/-- `get_session`: a row that decodes, with its labels. -/
def getSession (formats : TextFormats) (collation : Collation) (db : Database) (id : SessionId) :
    Except SessionRowError (Option Session) :=
  match db.sessions.lookup id with
  | none => .ok none
  | some row => do
      let session ← sessionFromColumns formats (columns id row)
      pure (some { session with labels := labelsForSession collation db session.id })

theorem mem_labelRows {db : Database} {id : SessionId} {label : Label} :
    label ∈ labelRows db id ↔ db.labels.lookup (id, label.key) = some label.value := by
  rw [labelRows, List.mem_map, ← Table.mem_rows_iff]
  constructor
  · rintro ⟨⟨⟨id', key⟩, value⟩, hrow, rfl⟩
    obtain ⟨hmem, hid⟩ := List.mem_filter.mp hrow
    obtain rfl : id' = id := of_decide_eq_true hid
    exact hmem
  · intro hrow
    exact ⟨((id, label.key), label.value), List.mem_filter.mpr ⟨hrow, decide_eq_true rfl⟩, rfl⟩

/-- The primary key of the label table. -/
theorem nodup_keys_labelRows (db : Database) (id : SessionId) :
    ((labelRows db id).map Label.key).Nodup := by
  rw [labelRows, List.map_map]
  have hrows : (db.labels.rows.filter fun row => row.1.1 = id).Nodup :=
    (List.Nodup.of_map Prod.fst db.labels.nodup).filter _
  refine hrows.map_on ?_
  rintro ⟨⟨id₁, key₁⟩, value₁⟩ h₁ ⟨⟨id₂, key₂⟩, value₂⟩ h₂ hkey
  obtain ⟨hmem₁, hid₁⟩ := List.mem_filter.mp h₁
  obtain ⟨hmem₂, hid₂⟩ := List.mem_filter.mp h₂
  have hfst : (id₁, key₁) = (id₂, key₂) :=
    Prod.ext ((of_decide_eq_true hid₁).trans (of_decide_eq_true hid₂).symm) hkey
  exact List.inj_on_of_nodup_map db.labels.nodup hmem₁ hmem₂ hfst

/-- The upserts leave the last value of a key. -/
theorem lookup_labelsUpserted (table : Table (SessionId × String) String) (id : SessionId)
    (labels : List Label) (key : String) :
    (labelsUpserted table id labels).lookup (id, key) =
      ((lastWith Label.key key labels).map Label.value).or (table.lookup (id, key)) := by
  induction labels generalizing table with
  | nil => rfl
  | cons label labels ih =>
      have hstep : labelsUpserted table id (label :: labels) =
          labelsUpserted (table.upsert (id, label.key) label.value) id labels := rfl
      rw [hstep, ih, Table.lookup_upsert, lastWith]
      by_cases hkey : label.key = key
      · subst hkey
        cases lastWith Label.key label.key labels with
        | none => simp
        | some last => simp
      · have hne : ¬key = label.key := fun h => hkey h.symm
        simp [hkey, hne]

/-- Labels that read back as they were sorted. -/
structure LabelsReadBack (collation : Collation) (labels : List Label) : Prop where
  /-- No key is repeated. -/
  distinct : (labels.map Label.key).Nodup
  /-- The database orders the keys as the daemon does. -/
  ordered : ∀ a ∈ labels, ∀ b ∈ labels, a.key ≤ b.key → collation.le a.key b.key = true

section Upserts

variable {collation : Collation} {db : Database} {id : SessionId}
  {table : Table (SessionId × String) String} {labels : List Label}

/-- Labels with distinct keys are stored as they are, under an id without labels. -/
theorem perm_labelRows (hfresh : ∀ key, table.lookup (id, key) = none)
    (hlabels : db.labels = labelsUpserted table id labels)
    (hdistinct : (labels.map Label.key).Nodup) : (labelRows db id).Perm labels := by
  have hnodup := List.Nodup.of_map Label.key (nodup_keys_labelRows db id)
  rw [List.perm_ext_iff_of_nodup hnodup (List.Nodup.of_map Label.key hdistinct)]
  intro label
  rw [mem_labelRows, hlabels, lookup_labelsUpserted, hfresh, Option.or_none,
    Option.map_eq_some_iff]
  constructor
  · rintro ⟨last, hlast, hvalue⟩
    have hsame : last = label := by
      cases last
      cases label
      exact congrArg₂ Label.mk (key_lastWith hlast) hvalue
    exact hsame ▸ mem_of_lastWith hlast
  · intro hmem
    exact ⟨label, lastWith_of_nodup hdistinct hmem, rfl⟩

/-- The labels of a new session read back as they were written. -/
theorem labels_readBack_iff (hfresh : ∀ key, table.lookup (id, key) = none)
    (hlabels : db.labels = labelsUpserted table id (sortLabels labels)) :
    labelsForSession collation db id = sortLabels labels ↔ LabelsReadBack collation labels := by
  have hperm : (sortLabels labels).Perm labels := List.perm_insertionSort Label.Le labels
  have hkeys := hperm.map Label.key
  have hboth : ∀ a b : Label, a.Le b → b.Le a → collation.KeyLe a b := by
    intro a b hab hba
    exact collation.keyLe_of_key_eq (le_antisymm hab.key_le hba.key_le)
  have hiff (hdistinct : (labels.map Label.key).Nodup) :
      labelsForSession collation db id = sortLabels labels ↔
        ∀ a ∈ labels, ∀ b ∈ labels, a.Le b → collation.KeyLe a b := by
    have hrows := perm_labelRows hfresh hlabels (hkeys.nodup_iff.mpr hdistinct)
    refine insertionSort_eq_insertionSort_iff (hrows.trans hperm) hboth ?_
    intro a ha b hb hab hba
    exact List.inj_on_of_nodup_map hdistinct ha hb (collation.antisymm _ _ hab hba)
  constructor
  · intro heq
    -- the rows of one session have distinct keys, and these are the labels
    have hdistinct : (labels.map Label.key).Nodup := by
      rw [← hkeys.nodup_iff, ← heq]
      exact ((List.perm_insertionSort collation.KeyLe _).map Label.key).nodup_iff.mpr
        (nodup_keys_labelRows db id)
    refine ⟨hdistinct, ?_⟩
    intro a ha b hb hab
    rcases lt_or_eq_of_le hab with hlt | hkey
    · exact (hiff hdistinct).mp heq a ha b hb (.inl hlt)
    · exact collation.keyLe_of_key_eq hkey
  · rintro ⟨hdistinct, hordered⟩
    refine (hiff hdistinct).mpr ?_
    intro a ha b hb hab
    exact hordered a ha b hb hab.key_le

end Upserts

end LittleOrgans.Store.Codec
