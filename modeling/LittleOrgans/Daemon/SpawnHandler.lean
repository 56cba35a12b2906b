import LittleOrgans.Store.SessionCodec
import LittleOrgans.Store.SpawnIntents

/-!
# From a spawn request to its session

`spawn` of the session handler up to the intent it begins, and the session of its response.
The response is the draft in memory, completed by the lifecycle that the runtime returned; the
second transaction writes its columns and upserts its labels one by one.

`AcceptedSpawn` is a spawn whose second transaction committed, whatever else the daemon did
before. `response_readBack_iff` says for which of them `get_session` returns the response.
-/

set_option autoImplicit false

namespace LittleOrgans.Daemon

open LittleOrgans.Core
open LittleOrgans.Library
open LittleOrgans.Store

/-! ## The request -/

/-- A slug that passed `Namespace::new`. -/
structure Namespace where
  slug : String
  valid : newNamespace slug.toList = .ok slug

/-- The namespace of a spawn that names none. -/
def Namespace.default : Namespace := ⟨"default", by decide⟩

/-- The fields of a spawn request, less those that only the launch reads. -/
structure SpawnRequest where
  runtime : SessionRuntimeKind
  role : String
  workspace : String
  dir : Option String
  namespaceSlug : Option Namespace
  target : String
  agentConfig : Option String
  isolation : IsolationPolicy
  labels : List Label
  force : Bool

/-- What the handler asks the file system: whether a path is a directory, and the path of an
agent configuration that can be read. -/
structure SpawnHost where
  isDir : String → Bool
  resolveAgentConfig : String → Except DaemonError String

/-- Where a session is spawned. -/
structure SpawnLocation where
  namespaceSlug : Namespace
  dir : String

/-- A directory for a session: absolute, there, and a directory. -/
def validateDir (host : SpawnHost) (dir : String) : Except DaemonError Unit :=
  if dir = "" then .error (.io "dir must not be empty")
  else if dir.toList.head? ≠ some '/' then
    .error (.io ("dir must be an absolute path; got " ++ dir ++
      " (resolve relative paths in the caller)"))
  else if host.isDir dir then .ok ()
  else .error (.io ("dir must point to an existing directory: " ++ dir))

/-- `normalize_spawn_request`: the workspace becomes the directory. -/
def normalizeSpawnRequest (host : SpawnHost) (db : Database) (request : SpawnRequest) :
    Except DaemonError (SpawnRequest × SpawnLocation) := do
  let dir := request.dir.getD request.workspace
  validateDir host dir
  let namespaceSlug := request.namespaceSlug.getD Namespace.default
  if db.namespaceExists namespaceSlug.slug then
    pure ({ request with workspace := dir }, ⟨namespaceSlug, dir⟩)
  else .error (.unknownNamespace namespaceSlug.slug)

/-- The path of `resolve_agent_config`. -/
def resolveAgentConfig (host : SpawnHost) : Option String → Except DaemonError (Option String)
  | none => .ok none
  | some requested => (host.resolveAgentConfig requested).map some

/-- `spawn_launch` and `runtime_spawn_request`. -/
def runtimeSpawnRequest (id : SessionId) (request : SpawnRequest) :
    Except DaemonError RuntimeSpawnRequest := do
  let target ← (SpawnTarget.fromStr request.target.toList).mapError DaemonError.io
  pure
    { sessionId := id
      runtime := request.runtime.runtimeKind
      isolation := request.isolation
      target := target
      force := request.force }

/-- The session the draft is made from. -/
def draftSession (id : SessionId) (request : SpawnRequest) (location : SpawnLocation)
    (agentConfig : Option String) (draftCreatedAt : DateTime) : Session where
  id := id
  runtime := request.runtime
  role := request.role
  workspace := request.workspace
  namespaceSlug := location.namespaceSlug.slug
  dir := location.dir
  labels := sortLabels request.labels
  state := .running
  runtimePid := 0
  runtimeSession := none
  transcriptPath := none
  tmuxPane := none
  agentConfig := agentConfig
  createdAt := draftCreatedAt
  startedAt := draftCreatedAt
  terminatedAt := none
  exitCode := none
  updatedAt := draftCreatedAt

/-- `SessionDraft::new`; the time of creation is kept in milliseconds. -/
def newSessionDraft (session : Session) : SessionDraft where
  id := session.id
  runtime := session.runtime
  role := session.role
  workspace := session.workspace
  namespaceSlug := session.namespaceSlug
  dir := session.dir
  labels := session.labels
  agentConfig := session.agentConfig
  createdAtMs := session.createdAt / 1000

/-- What `spawn` reads beside its request: the new ids and the clock. -/
structure SpawnInputs where
  id : SessionId
  operationId : IntentId
  draftCreatedAt : DateTime
  createdAtMs : Int

/-- `spawn`, up to `begin_spawn_intent`. -/
def spawnIntent (host : SpawnHost) (db : Database) (inputs : SpawnInputs) (request : SpawnRequest) :
    Except DaemonError PendingSpawnIntent := do
  let (request, location) ← normalizeSpawnRequest host db request
  let agentConfig ← resolveAgentConfig host request.agentConfig
  let spawnRequest ← runtimeSpawnRequest inputs.id request
  let draft := draftSession inputs.id request location agentConfig inputs.draftCreatedAt
  pure
    { sessionId := inputs.id
      operationId := inputs.operationId
      spawnRequest := spawnRequest
      sessionDraft := newSessionDraft draft
      createdAt := inputs.createdAtMs }

theorem normalizeSpawnRequest_eq_ok {host : SpawnHost} {db : Database}
    {request normalized : SpawnRequest} {location : SpawnLocation}
    (h : normalizeSpawnRequest host db request = .ok (normalized, location)) :
    normalized = { request with workspace := location.dir } := by
  obtain ⟨u, -, h⟩ := Except.bind_eq_ok.mp h
  dsimp only at h
  split at h
  · cases h
    rfl
  · cases h

/-- What an intent keeps of its request. -/
theorem spawnIntent_eq_ok {host : SpawnHost} {db : Database} {inputs : SpawnInputs}
    {request : SpawnRequest} {intent : PendingSpawnIntent}
    (h : spawnIntent host db inputs request = .ok intent) :
    intent.sessionId = inputs.id ∧ intent.sessionDraft.id = inputs.id ∧
      intent.sessionDraft.labels = sortLabels request.labels ∧
      ∃ location : Namespace, intent.sessionDraft.namespaceSlug = location.slug := by
  obtain ⟨⟨normalized, location⟩, hnormalize, h⟩ := Except.bind_eq_ok.mp h
  obtain ⟨agentConfig, -, h⟩ := Except.bind_eq_ok.mp h
  obtain ⟨spawnRequest, -, h⟩ := Except.bind_eq_ok.mp h
  cases h
  obtain rfl := normalizeSpawnRequest_eq_ok hnormalize
  exact ⟨rfl, rfl, rfl, location.namespaceSlug, rfl⟩

/-! ## The accepted spawn -/

/-- Every field of a session that a draft becomes. -/
theorem runningSession_fields {draft : SessionDraft} {lifecycle : Lifecycle}
    {stdoutPath : Option String} {updatedAt : DateTime} {session : Session}
    (h : draft.runningSession lifecycle stdoutPath updatedAt = .ok session) :
    lifecycle.state = .running ∧ ∃ runtimePid createdAt,
      lifecycle.runtimePid = some runtimePid ∧ timestampMillis draft.createdAtMs = .ok createdAt ∧
      session =
        { id := draft.id
          runtime := draft.runtime
          role := draft.role
          workspace := draft.workspace
          namespaceSlug := draft.namespaceSlug
          dir := draft.dir
          labels := draft.labels
          state := .running
          runtimePid := runtimePid
          runtimeSession := none
          transcriptPath := stdoutPath.or lifecycle.transcriptPath
          tmuxPane := lifecycle.tmuxPane.map TmuxAddress.toString
          agentConfig := draft.agentConfig
          createdAt := createdAt
          startedAt := lifecycle.startTime.getD updatedAt
          terminatedAt := none
          exitCode := none
          updatedAt := updatedAt } := by
  obtain ⟨hstate, -⟩ := SessionDraft.runningSession_eq_ok h
  rw [SessionDraft.runningSession, if_neg (not_not.mpr hstate)] at h
  cases hpid : lifecycle.runtimePid with
  | none => simp [hpid] at h
  | some runtimePid =>
      rw [hpid] at h
      obtain ⟨createdAt, hcreated, h⟩ := Except.bind_eq_ok.mp h
      cases h
      exact ⟨hstate, runtimePid, createdAt, rfl, hcreated, rfl⟩

/-- A spawn whose second transaction committed. The id is new, so no label is stored under it,
and the runtime's pid is a `u32`. -/
structure AcceptedSpawn where
  host : SpawnHost
  /-- The store that the request was checked against. -/
  db : Database
  inputs : SpawnInputs
  request : SpawnRequest
  intent : PendingSpawnIntent
  begun : spawnIntent host db inputs request = .ok intent
  lifecycle : Lifecycle
  pid : ∀ pid ∈ lifecycle.runtimePid, pid ≤ u32Max
  stdoutPath : Option String
  updatedAt : DateTime
  /-- The session of the response. -/
  session : Session
  completed : intent.sessionDraft.runningSession lifecycle stdoutPath updatedAt = .ok session
  /-- The store before the second transaction, and behind it. -/
  before : Database
  fresh : ∀ key, before.labels.lookup (inputs.id, key) = none
  nowMs : Int
  after : Database
  committed : before.commitSpawnIntent intent.sessionId session lifecycle nowMs = .ok after

namespace AcceptedSpawn

variable (spawn : AcceptedSpawn)

/-- The values of the response fit their columns. -/
theorem isWireRow : Codec.IsWireRow (sessionRow spawn.session) := by
  obtain ⟨-, -, -, slug, hslug⟩ := spawnIntent_eq_ok spawn.begun
  obtain ⟨-, pid, createdAt, hpid, -, hsession⟩ := runningSession_fields spawn.completed
  rw [hsession]
  refine ⟨?_, spawn.pid pid hpid, ?_⟩
  · show newNamespace spawn.intent.sessionDraft.namespaceSlug.toList = _
    rw [hslug]
    exact hslug ▸ slug.valid
  · intro code hcode
    cases hcode

/-- Every field of the response is read back, with the labels as they are stored. -/
theorem getSession_eq {formats : TextFormats} (hformats : formats.ReadsUuids)
    (collation : Codec.Collation) :
    Codec.getSession formats collation spawn.after spawn.session.id =
      .ok (some { spawn.session with
        labels := Codec.labelsForSession collation spawn.after spawn.session.id }) := by
  obtain ⟨hnew, -, hafter⟩ := Database.commitSpawnIntent_eq_ok spawn.committed
  have hrow : spawn.after.sessions.lookup spawn.session.id = some (sessionRow spawn.session) := by
    rw [hafter]
    exact Table.lookup_insert_self hnew _
  have hdecoded : sessionFromRow spawn.session.id (sessionRow spawn.session) [] =
      .ok { spawn.session with labels := [] } := by
    rw [sessionFromRow, sessionRow, stateFromSql_sqlName]
    rfl
  rw [Codec.getSession, hrow]
  simp only [Codec.sessionFromColumns_columns hformats _ spawn.isWireRow, hdecoded]
  rfl

/-- The response is what the store returns exactly when its labels read back. -/
theorem response_readBack_iff {formats : TextFormats} (hformats : formats.ReadsUuids)
    (collation : Codec.Collation) :
    Codec.getSession formats collation spawn.after spawn.session.id = .ok (some spawn.session) ↔
      Codec.LabelsReadBack collation spawn.request.labels := by
  obtain ⟨-, hid, hlabels, -⟩ := spawnIntent_eq_ok spawn.begun
  obtain ⟨-, hsessionId, hsessionLabels, -⟩ := SessionDraft.runningSession_eq_ok spawn.completed
  obtain ⟨-, -, hafter⟩ := Database.commitSpawnIntent_eq_ok spawn.committed
  have hsorted : spawn.session.labels = sortLabels spawn.request.labels :=
    hsessionLabels.trans hlabels
  have hstored : spawn.after.labels =
      labelsUpserted spawn.before.labels spawn.session.id (sortLabels spawn.request.labels) := by
    rw [← hsorted, hafter]
  have hfresh : ∀ key, spawn.before.labels.lookup (spawn.session.id, key) = none := by
    rw [hsessionId, hid]
    exact spawn.fresh
  rw [← Codec.labels_readBack_iff hfresh hstored, spawn.getSession_eq hformats, Except.ok.injEq,
    Option.some.injEq, ← hsorted]
  constructor
  · intro heq
    exact congrArg Session.labels heq
  · intro heq
    rw [heq]

end AcceptedSpawn

/-! ## A spawn in an empty store -/

namespace AcceptedSpawn

/-- A file system of directories only. -/
def directoriesOnly : SpawnHost where
  isDir _ := true
  resolveAgentConfig requested := .error (.io ("agent config not found: " ++ requested))

/-- A request for a reviewer with these labels. -/
def reviewRequest (labels : List Label) : SpawnRequest where
  runtime := .claude
  role := "reviewer"
  workspace := "/work"
  dir := none
  namespaceSlug := none
  target := "headless"
  agentConfig := none
  isolation := .host
  labels := labels
  force := false

/-- The intent the handler makes of it. -/
def reviewIntent (labels : List Label) : PendingSpawnIntent where
  sessionId := ⟨1⟩
  operationId := ⟨2⟩
  spawnRequest := ⟨⟨1⟩, .claude, .host, .headless, false⟩
  sessionDraft :=
    { id := ⟨1⟩
      runtime := .claude
      role := "reviewer"
      workspace := "/work"
      namespaceSlug := "default"
      dir := "/work"
      labels := sortLabels labels
      agentConfig := none
      createdAtMs := 0 }
  createdAt := 0

/-- The lifecycle of its runtime. -/
def reviewLifecycle : Lifecycle :=
  { Lifecycle.forking ⟨1⟩ .claude with
    state := .running
    shimPid := some 40
    runtimePid := some 41
    startTime := some 5 }

/-- The session that is committed for it. -/
def reviewSession (labels : List Label) : Session where
  id := ⟨1⟩
  runtime := .claude
  role := "reviewer"
  workspace := "/work"
  namespaceSlug := "default"
  dir := "/work"
  labels := sortLabels labels
  state := .running
  runtimePid := 41
  runtimeSession := none
  transcriptPath := some "/logs/1/stdout.log"
  tmuxPane := none
  agentConfig := none
  createdAt := 0
  startedAt := 5
  terminatedAt := none
  exitCode := none
  updatedAt := 6

/-- The store before the second transaction. -/
def reviewBegun (labels : List Label) : Database :=
  { Database.migrated 0 with
    spawnIntents := Table.empty.insert ⟨1⟩ (pendingIntentRow (reviewIntent labels))
    lifecycles :=
      Table.empty.insert ⟨1⟩ (lifecycleRow (Database.forkingLifecycle (reviewIntent labels))) }

/-- The store once it is committed. -/
def reviewCommitted (labels : List Label) : Database :=
  { reviewBegun labels with
    sessions := Table.empty.insert ⟨1⟩ (sessionRow (reviewSession labels))
    labels := labelsUpserted .empty ⟨1⟩ (sortLabels labels)
    lifecycles := (reviewBegun labels).lifecycles.modify ⟨1⟩ fun _ => lifecycleRow reviewLifecycle
    spawnIntents :=
      (reviewBegun labels).spawnIntents.modify ⟨1⟩ (SpawnIntentRow.setStatus 7 .resolved) }

theorem spawnIntent_review (labels : List Label) :
    spawnIntent directoriesOnly (.migrated 0) ⟨⟨1⟩, ⟨2⟩, 0, 0⟩ (reviewRequest labels) =
      .ok (reviewIntent labels) := by
  have hdir : validateDir directoriesOnly "/work" = .ok () := rfl
  have hexists : (Database.migrated 0).namespaceExists "default" = true := rfl
  have htarget : SpawnTarget.fromStr "headless".toList = .ok .headless := if_pos rfl
  have hnormalized : normalizeSpawnRequest directoriesOnly (.migrated 0) (reviewRequest labels) =
      .ok (reviewRequest labels, ⟨Namespace.default, "/work"⟩) := by
    simp only [normalizeSpawnRequest, reviewRequest, Option.getD_none, hdir, Namespace.default,
      hexists]
    rfl
  have hrequest : runtimeSpawnRequest ⟨1⟩ (reviewRequest labels) =
      .ok ⟨⟨1⟩, .claude, .host, .headless, false⟩ := by
    rw [runtimeSpawnRequest, reviewRequest, htarget]
    rfl
  simp only [spawnIntent, hnormalized]
  show (runtimeSpawnRequest ⟨1⟩ (reviewRequest labels) >>= _) = _
  rw [hrequest]
  rfl

/-- The spawn of a reviewer. -/
def review (labels : List Label) : AcceptedSpawn where
  host := directoriesOnly
  db := .migrated 0
  inputs := ⟨⟨1⟩, ⟨2⟩, 0, 0⟩
  request := reviewRequest labels
  intent := reviewIntent labels
  begun := spawnIntent_review labels
  lifecycle := reviewLifecycle
  pid := by
    rintro pid ⟨⟩
    decide
  stdoutPath := some "/logs/1/stdout.log"
  updatedAt := 6
  session := reviewSession labels
  completed := rfl
  before := reviewBegun labels
  fresh _ := rfl
  nowMs := 7
  after := reviewCommitted labels
  committed := rfl

end AcceptedSpawn

/-- Labels that are not given in order. -/
theorem response_readBack_env :
    Codec.getSession hyphenatedFormats .codepoint
        (AcceptedSpawn.review [⟨"env", "dev"⟩, ⟨"area", "auth"⟩]).after ⟨1⟩ =
      .ok (some (AcceptedSpawn.review [⟨"env", "dev"⟩, ⟨"area", "auth"⟩]).session) := by
  refine (AcceptedSpawn.response_readBack_iff _ readsUuids_hyphenatedFormats .codepoint).mpr
    ⟨by decide, ?_⟩
  intro a _ b _ hab
  exact decide_eq_true hab

/-- The response has both values of a key that is given twice; one of them is stored. -/
theorem response_repeated_key :
    (AcceptedSpawn.review [⟨"area", "auth"⟩, ⟨"area", "ui"⟩]).session.labels =
        [⟨"area", "auth"⟩, ⟨"area", "ui"⟩] ∧
      Codec.getSession hyphenatedFormats .codepoint
          (AcceptedSpawn.review [⟨"area", "auth"⟩, ⟨"area", "ui"⟩]).after ⟨1⟩ =
        .ok (some { (AcceptedSpawn.review [⟨"area", "auth"⟩, ⟨"area", "ui"⟩]).session with
          labels := [⟨"area", "ui"⟩] }) := by
  refine ⟨by decide, ?_⟩
  have hread := (AcceptedSpawn.review [⟨"area", "auth"⟩, ⟨"area", "ui"⟩]).getSession_eq
    readsUuids_hyphenatedFormats .codepoint
  have hlabels : Codec.labelsForSession .codepoint
      (AcceptedSpawn.review [⟨"area", "auth"⟩, ⟨"area", "ui"⟩]).after ⟨1⟩ = [⟨"area", "ui"⟩] := by
    decide
  rw [← hlabels]
  exact hread

end LittleOrgans.Daemon
