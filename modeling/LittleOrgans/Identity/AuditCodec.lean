import LittleOrgans.Core.SelectorText
import LittleOrgans.Identity.PrincipalCodec
import LittleOrgans.Library.Numbers

/-!
# The audit row codec

The columns of `identity_audit` and their JSON documents. Everything but the principal is read
back as it was written; `tryIntoAuditRow_fromAuditRow` says that a row is read back with
whatever its principal is read as.
-/

set_option autoImplicit false

namespace LittleOrgans.Identity

open LittleOrgans.Core
open LittleOrgans.Library

/-! ## Actions -/

/-- The variants in snake case. -/
def Action.name : Action → String
  | .spawn => "spawn"
  | .kill => "kill"
  | .create => "create"
  | .list => "list"
  | .read => "read"
  | .logs => "logs"
  | .mailSend => "mail_send"
  | .mailRead => "mail_read"
  | .nudge => "nudge"
  | .link => "link"
  | .doctor => "doctor"
  | .daemon => "daemon"
  | .shimCallback => "shim_callback"

/-- `Action::ALL`. -/
def Action.all : List Action :=
  [.spawn, .kill, .create, .list, .read, .logs, .mailSend, .mailRead, .nudge, .link, .doctor,
    .daemon, .shimCallback]

/-- An action is written as its name. -/
def Action.serialize (action : Action) : Json := .string action.name

/-- The action of a name; another name is an unknown variant. -/
def Action.fromName (name : String) : Except JsonError Action :=
  match Action.all.find? fun action => decide (action.name = name) with
  | some action => .ok action
  | none => .error (.unknownVariant name)

/-- A variant by its name, or as the only key of an object. -/
def Action.deserialize : Json → Except JsonError Action
  | .string name => Action.fromName name
  | .object [(name, .null)] => Action.fromName name
  | _ => .error (.invalidType "enum Action")

theorem Action.deserialize_serialize (action : Action) :
    Action.deserialize action.serialize = .ok action := by
  cases action <;> rfl

theorem Action.serialize_inj {action action' : Action} (h : action.serialize = action'.serialize) :
    action = action' := by
  have hread := action.deserialize_serialize
  rw [h, action'.deserialize_serialize] at hread
  cases hread
  rfl

/-! ## Decisions -/

/-- A decision is an object with its kind as a tag. -/
def AuditDecision.serialize : AuditDecision → Json
  | .allow => .object [("kind", .string "allow")]
  | .deny reason => .object [("kind", .string "deny"), ("reason", .string reason)]
  | .error message => .object [("kind", .string "error"), ("message", .string message)]

/-- The tag of an object, and its other entries. -/
structure TaggedContent where
  tag : Option String
  content : List (String × Json)

/-- The variants of a decision. -/
def decisionTags : List String := ["allow", "deny", "error"]

/-- One field of an internally tagged value: the tag is kept apart from the content. -/
def TaggedContent.visit (seen : TaggedContent) (entry : String × Json) :
    Except JsonError TaggedContent :=
  if entry.1 = "kind" then
    match seen.tag, entry.2 with
    | some _, _ => .error (.duplicateField "kind")
    | none, .string tag =>
        if tag ∈ decisionTags then .ok { seen with tag := some tag }
        else .error (.unknownVariant tag)
    | none, _ => .error (.invalidType "variant identifier")
  else .ok { seen with content := seen.content ++ [entry] }

/-- A required text among the entries. -/
def textField (field : String) (content : List (String × Json)) : Except JsonError String :=
  match content.filter fun entry => decide (entry.1 = field) with
  | [] => .error (.missingField field)
  | [(_, .string text)] => .ok text
  | (_, .string _) :: _ => .error (.duplicateField field)
  | _ => .error (.invalidType "a string")

/-- The decision of a tag, from the fields beside it. -/
def TaggedContent.decision (seen : TaggedContent) : Except JsonError AuditDecision :=
  match seen.tag with
  | none => .error (.missingField "kind")
  | some tag =>
      if tag = "allow" then .ok .allow
      else if tag = "deny" then AuditDecision.deny <$> textField "reason" seen.content
      else AuditDecision.error <$> textField "message" seen.content

/-- Reads a decision back. -/
def AuditDecision.deserialize : Json → Except JsonError AuditDecision
  | .object entries => do
      let seen ← entries.foldlM TaggedContent.visit ⟨none, []⟩
      seen.decision
  | _ => .error (.invalidType "internally tagged enum AuditDecision")

theorem AuditDecision.deserialize_serialize (decision : AuditDecision) :
    AuditDecision.deserialize decision.serialize = .ok decision := by
  cases decision <;> rfl

/-! ## Resources -/

/-- A value that may be missing. -/
def optionalJson (value : Option Json) : Json := value.getD .null

/-- `RuntimeKind` as serde writes it; a runtime of another name is an object. -/
def runtimeToJson : RuntimeKind → Json
  | .claude => .string "claude"
  | .codex => .string "codex"
  | .other name => .object [("other", .string name)]

/-- The runtime of a bare name. -/
def runtimeFromName (name : String) : Except JsonError RuntimeKind :=
  if name = "claude" then .ok .claude
  else if name = "codex" then .ok .codex
  else if name = "other" then .error (.invalidType "newtype variant")
  else .error (.unknownVariant name)

/-- A variant by its name, or as the only key of an object. -/
def runtimeFromJson : Json → Except JsonError RuntimeKind
  | .string name => runtimeFromName name
  | .object [("other", .string name)] => .ok (.other name)
  | .object [(name, .null)] => runtimeFromName name
  | _ => .error (.invalidType "enum RuntimeKind")

theorem runtimeFromJson_runtimeToJson (runtime : RuntimeKind) :
    runtimeFromJson (runtimeToJson runtime) = .ok runtime := by
  cases runtime <;> rfl

/-- A session id, or an audit id, as text. -/
def uuidString (uuid : BitVec 128) : String := String.ofList (uuidText uuid)

/-- Labels as a JSON object. -/
def labelsToJson (labels : Table String String) : Json :=
  .object (labels.rows.map fun label => (label.1, .string label.2))

/-- `Serialize for ResourceSpec`; the labels stand in the order of the map. -/
def ResourceSpec.serialize (resource : ResourceSpec) : Json :=
  .object [("workspace", optionalJson (resource.workspace.map .string)),
    ("role", optionalJson (resource.role.map .string)),
    ("runtime", optionalJson (resource.runtime.map runtimeToJson)),
    ("session_id", optionalJson (resource.sessionId.map fun id => .string (uuidString id.uuid))),
    ("labels", labelsToJson resource.labels)]

/-- A text. -/
def readText : Json → Except JsonError String
  | .string text => .ok text
  | _ => .error (.invalidType "a string")

/-- A value, or `null`. -/
def readOptional {α : Type} (read : Json → Except JsonError α) :
    Json → Except JsonError (Option α)
  | .null => .ok none
  | value => some <$> read value

/-- One label; a later one with the same key replaces it. -/
def visitLabel (labels : Table String String) (entry : String × Json) :
    Except JsonError (Table String String) := do
  let value ← readText entry.2
  return labels.upsert entry.1 value

/-- Labels from a JSON object; the last value of a key counts. -/
def readLabels : Json → Except JsonError (Table String String)
  | .object entries => entries.foldlM visitLabel .empty
  | _ => .error (.invalidType "a map")

/-- A session id from its text. -/
def readSessionId (formats : TextFormats) (value : Json) : Except JsonError SessionId := do
  let text ← readText value
  let uuid ← (formats.parseUuid text.toList).mapError JsonError.custom
  return ⟨uuid⟩

/-- The fields of a resource that were seen. -/
structure ResourceFields where
  workspace : Option (Option String)
  role : Option (Option String)
  runtime : Option (Option RuntimeKind)
  sessionId : Option (Option SessionId)
  labels : Option (Table String String)

namespace ResourceFields

/-- No field has been read. -/
def empty : ResourceFields := ⟨none, none, none, none, none⟩

/-- A field that has not been seen yet. -/
def once {α β : Type} (field : String) (seen : Option α) (read : Except JsonError β) :
    Except JsonError β :=
  match seen with
  | some _ => .error (.duplicateField field)
  | none => read

/-- One entry; an unknown field is skipped. -/
def visit (formats : TextFormats) (seen : ResourceFields) (entry : String × Json) :
    Except JsonError ResourceFields :=
  if entry.1 = "workspace" then do
    let value ← once "workspace" seen.workspace (readOptional readText entry.2)
    return { seen with workspace := some value }
  else if entry.1 = "role" then do
    let value ← once "role" seen.role (readOptional readText entry.2)
    return { seen with role := some value }
  else if entry.1 = "runtime" then do
    let value ← once "runtime" seen.runtime (readOptional runtimeFromJson entry.2)
    return { seen with runtime := some value }
  else if entry.1 = "session_id" then do
    let value ← once "session_id" seen.sessionId (readOptional (readSessionId formats) entry.2)
    return { seen with sessionId := some value }
  else if entry.1 = "labels" then do
    let value ← once "labels" seen.labels (readLabels entry.2)
    return { seen with labels := some value }
  else .ok seen

/-- A missing option is none; the labels have to be there. -/
def finish (seen : ResourceFields) : Except JsonError ResourceSpec :=
  match seen.labels with
  | none => .error (.missingField "labels")
  | some labels =>
      .ok ⟨seen.workspace.join, seen.role.join, seen.runtime.join, seen.sessionId.join, labels⟩

end ResourceFields

/-- Reads a resource back, whatever the order of its fields. -/
def ResourceSpec.deserialize (formats : TextFormats) : Json → Except JsonError ResourceSpec
  | .object entries => do
      let seen ← entries.foldlM (ResourceFields.visit formats) .empty
      seen.finish
  | _ => .error (.invalidType "struct ResourceSpec")

theorem readOptional_optionalJson {α : Type} {read : Json → Except JsonError α} {write : α → Json}
    (hread : ∀ a, read (write a) = .ok a) (hnull : ∀ a, write a ≠ .null) (value : Option α) :
    readOptional read (optionalJson (value.map write)) = .ok value := by
  cases value with
  | none => rfl
  | some a =>
      have hwrite : optionalJson ((some a).map write) = write a := rfl
      rw [hwrite, readOptional, hread a]
      · rfl
      · exact hnull a

theorem foldlM_visitLabel (labels : Table String String) {rows : List (String × String)}
    (h : (labels.rows.map Prod.fst ++ rows.map Prod.fst).Nodup) :
    ∃ labels', (rows.map fun label => (label.1, Json.string label.2)).foldlM visitLabel labels =
      .ok labels' ∧ labels'.rows = labels.rows ++ rows := by
  induction rows generalizing labels with
  | nil => exact ⟨labels, rfl, (List.append_nil _).symm⟩
  | cons row rows ih =>
      have hnew : labels.lookup row.1 = none := by
        refine Table.lookup_eq_none_iff.mpr fun hmem => ?_
        exact (List.nodup_append.mp h).2.2 row.1 hmem row.1 List.mem_cons_self rfl
      have hrows : (labels.upsert row.1 row.2).rows = labels.rows ++ [row] := by
        rw [Table.upsert, if_pos hnew, Table.insert, dif_pos hnew]
      obtain ⟨labels', hfold, hlabels'⟩ := ih (labels.upsert row.1 row.2) (by
        rw [hrows, List.map_append, List.append_assoc]
        exact h)
      refine ⟨labels', hfold, ?_⟩
      rw [hlabels', hrows, List.append_assoc, List.singleton_append]

theorem readLabels_labelsToJson (labels : Table String String) :
    readLabels (labelsToJson labels) = .ok labels := by
  obtain ⟨labels', hfold, hrows⟩ := foldlM_visitLabel .empty labels.nodup
  rw [labelsToJson, readLabels, hfold, Table.ext hrows]

theorem readSessionId_uuidString {formats : TextFormats} (hformats : formats.ReadsUuids)
    (id : SessionId) : readSessionId formats (.string (uuidString id.uuid)) = .ok id := by
  have hparse : formats.parseUuid (uuidString id.uuid).toList = .ok id.uuid := by
    rw [uuidString, String.toList_ofList]
    exact hformats.hyphenated id.uuid
  refine Except.bind_eq_ok.mpr ⟨_, rfl, Except.bind_eq_ok.mpr ⟨id.uuid, ?_, rfl⟩⟩
  rw [hparse]
  rfl

/-- A resource is read back as it was written. -/
theorem ResourceSpec.deserialize_serialize {formats : TextFormats} (hformats : formats.ReadsUuids)
    (resource : ResourceSpec) :
    ResourceSpec.deserialize formats resource.serialize = .ok resource := by
  have htext : ∀ value : Option String,
      readOptional readText (optionalJson (value.map .string)) = .ok value :=
    readOptional_optionalJson (fun _ => rfl) fun _ h => by cases h
  have hruntime := readOptional_optionalJson runtimeFromJson_runtimeToJson
    (fun runtime h => by cases runtime <;> cases h) resource.runtime
  have hsession := readOptional_optionalJson (readSessionId_uuidString hformats)
    (fun _ h => by cases h) resource.sessionId
  have hlabels := readLabels_labelsToJson resource.labels
  simp [ResourceSpec.deserialize, ResourceSpec.serialize, ResourceFields.visit,
    ResourceFields.once, ResourceFields.empty, htext, hruntime, hsession, hlabels]
  rfl

/-! ## Rows -/

/-- The columns of `identity_audit`. -/
structure EncodedAuditRow where
  id : String
  timestamp : DateTime
  principal : Json
  action : Json
  resource : Json
  decision : Json
  sessionRef : Option String
  notes : Option String
  policyId : Option String
  evaluationTrace : Option String
  denialReason : Option String

/-- `StoreError`. -/
inductive StoreError where
  | database (text : String)
  | json (error : JsonError)
  | uuid (error : String)
  | limitTooLarge (limit : Nat)

/-- `EncodedAuditRow::from_audit_row`. -/
def EncodedAuditRow.fromAuditRow (row : AuditRow) : EncodedAuditRow where
  id := uuidString row.id.uuid
  timestamp := row.timestamp
  principal := row.principal.serialize
  action := row.action.serialize
  resource := row.resource.serialize
  decision := row.decision.serialize
  sessionRef := row.sessionRef.map fun id => uuidString id.uuid
  notes := row.notes
  policyId := row.policyId
  evaluationTrace := row.evaluationTrace
  denialReason := row.denialReason

/-- A uuid column of the audit table. -/
def parseUuidText (formats : TextFormats) (text : String) : Except StoreError (BitVec 128) :=
  (formats.parseUuid text.toList).mapError StoreError.uuid

/-- `parse_optional_session_id`. -/
def parseOptionalSessionId (formats : TextFormats) (value : Option String) :
    Except StoreError (Option SessionId) :=
  match value with
  | none => .ok none
  | some text => do
      let uuid ← parseUuidText formats text
      return some ⟨uuid⟩

/-- `EncodedAuditRow::try_into_audit_row`. -/
def EncodedAuditRow.tryIntoAuditRow (formats : TextFormats) (row : EncodedAuditRow) :
    Except StoreError AuditRow := do
  let id ← parseUuidText formats row.id
  let principal ← (Principal.deserialize row.principal).mapError StoreError.json
  let action ← (Action.deserialize row.action).mapError StoreError.json
  let resource ← (ResourceSpec.deserialize formats row.resource).mapError StoreError.json
  let decision ← (AuditDecision.deserialize row.decision).mapError StoreError.json
  let sessionRef ← parseOptionalSessionId formats row.sessionRef
  return {
    id := ⟨id⟩
    timestamp := row.timestamp
    principal := principal
    action := action
    resource := resource
    decision := decision
    sessionRef := sessionRef
    notes := row.notes
    policyId := row.policyId
    evaluationTrace := row.evaluationTrace
    denialReason := row.denialReason }

variable {formats : TextFormats}

theorem parseUuidText_uuidString (hformats : formats.ReadsUuids) (uuid : BitVec 128) :
    parseUuidText formats (uuidString uuid) = .ok uuid := by
  rw [parseUuidText, uuidString, String.toList_ofList, hformats.hyphenated uuid]
  rfl

theorem uuidString_inj (hformats : formats.ReadsUuids) {uuid uuid' : BitVec 128}
    (h : uuidString uuid = uuidString uuid') : uuid = uuid' := by
  have hread := parseUuidText_uuidString hformats uuid
  rw [h, parseUuidText_uuidString hformats uuid'] at hread
  cases hread
  rfl

theorem parseOptionalSessionId_map (hformats : formats.ReadsUuids) (id : Option SessionId) :
    parseOptionalSessionId formats (id.map fun id => uuidString id.uuid) = .ok id := by
  cases id with
  | none => rfl
  | some id =>
      have hparse := parseUuidText_uuidString hformats id.uuid
      rw [Option.map_some, parseOptionalSessionId, hparse]
      rfl

/-- A row is read back with whatever its principal is read as. -/
theorem tryIntoAuditRow_fromAuditRow (hformats : formats.ReadsUuids) {row row' : AuditRow} :
    (EncodedAuditRow.fromAuditRow row).tryIntoAuditRow formats = .ok row' ↔
      ∃ p, Principal.deserialize row.principal.serialize = .ok p ∧
        row' = { row with principal := p } := by
  have hid := parseUuidText_uuidString hformats row.id.uuid
  have haction := row.action.deserialize_serialize
  have hresource := ResourceSpec.deserialize_serialize hformats row.resource
  have hdecision := row.decision.deserialize_serialize
  have hsession := parseOptionalSessionId_map hformats row.sessionRef
  rw [EncodedAuditRow.tryIntoAuditRow, EncodedAuditRow.fromAuditRow]
  simp only [hid, haction, hresource, hdecision, hsession]
  cases hread : Principal.deserialize row.principal.serialize with
  | error error =>
      constructor
      · intro h
        cases h
      · rintro ⟨p, hp, -⟩
        cases hp
  | ok p =>
      constructor
      · intro h
        cases h
        exact ⟨p, rfl, rfl⟩
      · rintro ⟨p', hp', rfl⟩
        cases hp'
        rfl

end LittleOrgans.Identity
