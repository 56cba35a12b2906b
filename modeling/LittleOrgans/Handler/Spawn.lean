import LittleOrgans.Core.SelectorRoundTrip
import LittleOrgans.Handler.Sessions

/-!
# Spawn and namespace requests

The two-phase spawn with its transactions, the reconciliation of the intents that a crash left
pending, and the requests on namespaces. The decision on a spawn is recorded in the transaction
that inserts its intent; a refusal is committed without the intent.
-/

set_option autoImplicit false

namespace LittleOrgans.Handler

open LittleOrgans.Core
open LittleOrgans.Library
open LittleOrgans.Store
open LittleOrgans.Daemon (Namespace SpawnRequest SpawnLocation draftSession newSessionDraft
  runningEventFromLifecycle)
open LittleOrgans.Concurrency (RuntimeSignal SpawnedProcess OnCommitFailure)
open LittleOrgans.Identity

variable (config : DaemonConfig)

/-! ## The request -/

/-- `spawn_resource`. -/
def spawnResource (request : SpawnRequest) (id : SessionId) : ResourceSpec where
  workspace := some request.workspace
  role := some request.role
  runtime := some request.runtime.runtimeKind
  sessionId := some id
  labels := request.labels.foldl (fun table label => table.upsert label.key label.value) .empty

/-- The directory of a spawn is absolute and there. -/
def validateDir (dir : String) : HandlerProg Unit := do
  Prog.ensure (dir ≠ "") "dir must not be empty"
  Prog.ensure (dir.toList.head? = some '/')
    ("dir must be an absolute path; got " ++ dir ++ " (resolve relative paths in the caller)")
  let isDir ← host (.isDir dir)
  Prog.ensure isDir ("dir must point to an existing directory: " ++ dir)

/-- `normalize_spawn_request`. -/
def normalizeSpawnRequest (request : SpawnRequest) :
    HandlerProg (SpawnRequest × SpawnLocation) := do
  let dir := request.dir.getD request.workspace
  validateDir dir
  let namespaceSlug := request.namespaceSlug.getD Namespace.default
  let exists_ ← Prog.context "failed to validate namespace"
    (store (.namespaceExists namespaceSlug.slug))
  Prog.ensure exists_ ("namespace not found: " ++ namespaceSlug.slug)
  return ({ request with workspace := dir }, ⟨namespaceSlug, dir⟩)

/-- The path of `resolve_agent_config`. -/
def resolveAgentConfig (requested : Option String) : HandlerProg (Option String) :=
  match requested with
  | none => return none
  | some requested => do
      let path ← host (.resolveAgentConfig requested)
      return some path

/-- `spawn_launch` and `runtime_spawn_request`. -/
def runtimeSpawnRequest (id : SessionId) (request : SpawnRequest) :
    Except Report RuntimeSpawnRequest := do
  let target ← (SpawnTarget.fromStr request.target.toList).mapError fun text => [text]
  pure
    { sessionId := id
      runtime := request.runtime.runtimeKind
      isolation := request.isolation
      target := target
      force := request.force }

/-- The intent of a request, with the new ids and the clock it reads. -/
def spawnIntent (id : SessionId) (request : SpawnRequest) (location : SpawnLocation)
    (agentConfig : Option String) : HandlerProg PendingSpawnIntent := do
  let spawnRequest ← Prog.ofExcept (runtimeSpawnRequest id request)
  let draftCreatedAt ← host .now
  let operationId ← host .newIntentId
  let createdAt ← host .nowMillis
  return {
    sessionId := id
    operationId := operationId
    spawnRequest := spawnRequest
    sessionDraft := newSessionDraft (draftSession id request location agentConfig draftCreatedAt)
    createdAt := createdAt }

/-! ## The transactions -/

/-- The writes of the first transaction, once the spawn is allowed. -/
def insertIntent (intent : PendingSpawnIntent) : TxProg (Except Report Unit) := do
  Prog.context "failed to insert pending spawn intent"
    (statement (.insertPendingSpawnIntent intent))
  -- the intent and the forking row stand or fall together
  Prog.context "failed to insert Forking lifecycle"
    (statement (.insertForking (Database.forkingLifecycle intent)))
  return .ok ()

/-- The body of the first transaction; a refusal is its outcome. -/
def beginBody (principal : Principal) (resource : ResourceSpec) (intent : PendingSpawnIntent) :
    TxProg (Except Report Unit) := do
  match ← (authorizeInTx txSink config.localUid principal .spawn resource).attempt with
  | .ok _ => insertIntent intent
  -- a refusal is written to the audit log, and commits
  | .error report => return .error report

/-- The body of the second transaction. -/
def commitBody (id : SessionId) (session : Session) (lifecycle : Lifecycle) :
    TxProg (Except Report Unit) := do
  Prog.context "failed to persist session" (statement (.insertSession session))
  Prog.context "failed to persist Running lifecycle" (statement (.updateLifecycle lifecycle))
  Prog.context "failed to resolve spawn intent" (statement (.resolveSpawnIntent id))
  return .ok ()

/-- The body of an abort. -/
def abortBody (id : SessionId) (reason : AbortReason) : TxProg (Except Report Unit) := do
  Prog.context "failed to abort spawn intent" (statement (.abortSpawnIntent id reason))
  Prog.context "failed to delete aborted lifecycle" (statement (.deleteLifecycle id))
  return .ok ()

/-- `begin_spawn_intent`. -/
def beginSpawnIntent (context : RequestContext) (request : SpawnRequest)
    (intent : PendingSpawnIntent) : HandlerProg Unit :=
  transact "failed to acquire session spawn Tx A connection"
    (beginBody config context.principal (spawnResource request intent.sessionId) intent)

/-- `abort_spawn_intent`. -/
def abortSpawnIntent (id : SessionId) (reason : AbortReason) : HandlerProg Unit :=
  transact "failed to acquire session spawn abort tx connection" (abortBody id reason)

/-- `abort_running_spawn`; a kill that fails is only logged. -/
def abortRunningSpawn (id : SessionId) (reason : AbortReason) : HandlerProg Unit := do
  -- the kill is best effort, the abort is not
  let _ ← (port (.terminate id .term 5)).attempt
  abortSpawnIntent id reason

/-! ## Completing a spawn -/

/-- The text of an intent error. -/
def spawnIntentErrorText : SpawnIntentError → String
  | .missingRuntimePid id => "running lifecycle missing runtime pid for session " ++ idText id
  | .notRunning id => "running lifecycle expected for session " ++ idText id
  | .timestampOutOfRange value => "timestamp out of range: " ++ toString value

/-- The session of an intent whose runtime runs. -/
def sessionOfIntent (intent : PendingSpawnIntent) (lifecycle : Lifecycle)
    (stdoutPath : Option String) (updatedAt : DateTime) : Except Report Session :=
  (intent.sessionDraft.runningSession lifecycle stdoutPath updatedAt).mapError fun error =>
    [spawnIntentErrorText error]

/-- What follows the second transaction. -/
def afterCommit (id : SessionId) (session : Session) (event : RuntimeEvent)
    (onCommitFailure : OnCommitFailure) : Except Report Unit → HandlerProg Session
  | .ok _ => do
      Prog.context "failed to append runtime event after session commit" (port (.appendEvent event))
      return session
  | .error report =>
      match onCommitFailure with
      | .abortRunning => do
          -- an error of the abort is dropped, that of the commit is returned
          let _ ← (abortRunningSpawn id (.sessionCommitFailed (.io report.text))).attempt
          .fail report
      | .leavePending => .fail report

/-- `complete_spawn_intent`. -/
def completeSpawnIntent (intent : PendingSpawnIntent) (lifecycle : Lifecycle)
    (event : RuntimeEvent) (stdoutPath : Option String) (onCommitFailure : OnCommitFailure) :
    HandlerProg Session := do
  let updatedAt ← host .now
  let session ← Prog.context "failed to build session from runtime lifecycle"
    (.ofExcept (sessionOfIntent intent lifecycle stdoutPath updatedAt))
  if ← Prog.context "failed to revalidate namespace before session commit"
      (store (.namespaceExists session.namespaceSlug)) then
    let committed ← transaction "failed to acquire session spawn Tx B connection"
      (commitBody intent.sessionId session lifecycle)
    afterCommit intent.sessionId session event onCommitFailure committed
  -- the namespace was removed while the runtime started
  else
    abortRunningSpawn intent.sessionId .namespaceDeletedBeforeCommit
    Prog.bail ("namespace deleted before session commit: " ++ session.namespaceSlug)

/-- `running_event_from_lifecycle`. -/
def runningEvent (lifecycle : Lifecycle) : HandlerProg RuntimeEvent := do
  Prog.ensure (lifecycle.state = .running)
    ("lifecycle " ++ idText lifecycle.sessionId ++ " is not running")
  let runtimePid ← Prog.required lifecycle.runtimePid "running lifecycle missing runtime pid"
  match lifecycle.startTime with
  | some startTime => return .running lifecycle.sessionId runtimePid startTime
  | none =>
      let now ← host .now
      return .running lifecycle.sessionId runtimePid now

/-- The name of a conflict, as it is printed. -/
def SpawnConflictKind.debug : SpawnConflictKind → String
  | .sessionId => "SessionId"
  | .tmuxPaneOccupancy => "TmuxPaneOccupancy"

/-- `runtime_spawn_failure` of an answer that is a conflict. -/
def conflictFailure (kind : SpawnConflictKind) : String := "spawn conflict: " ++ kind.debug

/-- A spawn that the runtime refused. -/
def runtimeSpawnFailed (id : SessionId) (failure : String) : HandlerProg Session := do
  abortSpawnIntent id (.spawnFailure (.io failure))
  Prog.bail ("runtime spawn failed: " ++ failure)

/-- What follows the spawn of the runtime. -/
def afterRuntimeSpawn (intent : PendingSpawnIntent) :
    Except Report SpawnAnswer → HandlerProg Session
  | .error report => runtimeSpawnFailed intent.sessionId report.text
  -- a conflict is a spawn that failed
  | .ok (.conflict kind _) => runtimeSpawnFailed intent.sessionId (conflictFailure kind)
  | .ok (.spawned process) => do
      let event ← runningEvent process.lifecycle
      completeSpawnIntent intent process.lifecycle event process.stdoutPath .abortRunning

/-- `spawn`. -/
def spawn (context : RequestContext) (request : SpawnRequest) : HandlerProg RpcResponse := do
  let id ← host .newSessionId
  let normalized ← normalizeSpawnRequest request
  let agentConfig ← resolveAgentConfig request.agentConfig
  let intent ← spawnIntent id normalized.1 normalized.2 agentConfig
  beginSpawnIntent config context normalized.1 intent
  let answer ← (port (.spawn intent.spawnRequest)).attempt
  let session ← afterRuntimeSpawn intent answer
  return .spawned session

/-! ## Intents that were left pending -/

/-- `reconcile_pending_spawn_intent`. -/
def reconcilePendingSpawnIntent (intent : PendingSpawnIntent) : HandlerProg Unit := do
  match ← (port (.status (.forSession intent.sessionId))).attempt with
  -- an error of the port aborts the intent here
  | .error report => abortSpawnIntent intent.sessionId (.spawnFailure (.io report.text))
  | .ok lifecycles =>
      match lifecycles.find? fun lifecycle => lifecycle.sessionId = intent.sessionId with
      | none => abortSpawnIntent intent.sessionId .runtimeLifecycleMissing
      | some lifecycle =>
          if lifecycle.state = .running then
            let event ← runningEvent lifecycle
            let _ ← completeSpawnIntent intent lifecycle event none .leavePending
            return ()
          else abortSpawnIntent intent.sessionId .runtimeLifecycleNotRunning

/-- One round of the loop: an error is only logged. -/
def reconcileLogged (intent : PendingSpawnIntent) : HandlerProg Unit := do
  let _ ← (reconcilePendingSpawnIntent intent).attempt
  return ()

/-- `reconcile_pending_spawn_intents`. -/
def reconcilePendingSpawnIntents : HandlerProg Unit := do
  let pending ← Prog.context "failed to list pending spawn intents" (store .listPendingSpawnIntents)
  Prog.forEach reconcileLogged pending

/-! ## Namespaces -/

/-- `Namespace::new`. -/
def parseNamespace (slug : String) : Except Report Namespace :=
  match h : newNamespace slug.toList with
  | .error error => .error [error.text config.formats]
  | .ok found => .ok ⟨found, by rw [(newNamespace_eq_ok h).1, h]⟩

/-- `ensure_not_default`. -/
def ensureNotDefault (slug : String) : Except Report Unit :=
  if slug = "default" then .error [(NamespaceError.reservedName "default").text config.formats]
  else .ok ()

/-- The namespace of a request to create one, unless it is there. -/
def createMissing (slug : String) : HandlerProg Bool := do
  -- an existing namespace is not an error
  if ← Prog.context "failed to check namespace" (store (.namespaceExists slug)) then return false
  else
    let now ← host .now
    Prog.context "failed to create namespace" (store (.createNamespace slug now))
    return true

/-- `create_namespace`. -/
def createNamespace (request : NamespaceCreateRequest) : HandlerProg RpcResponse := do
  let found ← Prog.ofExcept (parseNamespace config request.slug)
  Prog.ofExcept (ensureNotDefault config found.slug)
  let created ← createMissing found.slug
  let records ← Prog.context "failed to list namespaces" (store .listNamespaces)
  let record ← Prog.required (records.find? fun record => record.slug = found.slug)
    ("created namespace is missing from catalog: " ++ found.slug)
  return .namespaceCreated record created

/-- `list_namespaces`. -/
def listNamespaces : HandlerProg RpcResponse := do
  let records ← Prog.context "failed to list namespaces" (store .listNamespaces)
  return .namespacesListed records

/-- `get_namespace`. -/
def getNamespace (request : NamespaceGetRequest) : HandlerProg RpcResponse := do
  let found ← Prog.ofExcept (parseNamespace config request.slug)
  let records ← Prog.context "failed to list namespaces" (store .listNamespaces)
  return .namespaceGot (records.find? fun record => record.slug = found.slug)

/-- One round of the loop of `cascade_terminate_namespace`. -/
def cascadeTarget (context : RequestContext) (target : Session) :
    HandlerProg (Except String Session) := do
  let outcome ← (deleteOne config context 5 .term target.id).attempt
  return outcome.mapError fun report => idText target.id ++ ": " ++ report.text

/-- The errors of a cascade. -/
def cascadeErrors (outcomes : List (Except String Session)) : List String :=
  outcomes.filterMap fun outcome =>
    match outcome with
    | .ok _ => none
    | .error error => some error

/-- `cascade_terminate_namespace`. -/
def cascadeTerminateNamespace (context : RequestContext) (slug : String) :
    HandlerProg (List Session) := do
  let targets ← Prog.context "failed to list namespace sessions for cascade terminate"
    (store (.listSessionsBySelector (.inNamespace slug)))
  let outcomes ← Prog.traverse (cascadeTarget config context) targets
  let errors := cascadeErrors outcomes
  Prog.ensure errors.isEmpty ("failed to cascade terminate namespace " ++ slug ++ ": " ++
    "; ".intercalate errors)
  return outcomes.filterMap Except.toOption

/-- `remove_namespace_catalog`. -/
def removeNamespaceCatalog (slug : String) : HandlerProg Unit := do
  let active ← Prog.context "failed to verify namespace sessions before catalog removal"
    (store (.activeSessionCountInNamespace slug))
  Prog.ensure (active == 0) ("namespace delete raced with session spawn: " ++ slug)
  Prog.context "failed to remove namespace sessions from catalog"
    (store (.deleteSessionsByNamespace slug))
  let removed ← Prog.context "failed to remove namespace catalog entry"
    (store (.deleteNamespace slug))
  Prog.ensure removed ("unknown namespace: " ++ slug)

/-- `delete_namespace`. -/
def deleteNamespace (context : RequestContext) (request : NamespaceDeleteRequest) :
    HandlerProg RpcResponse := do
  let slug := request.namespaceSlug.slug
  Prog.ofExcept (ensureNotDefault config slug)
  -- authorised once, for all sessions of the namespace
  authorize config context.principal .kill .default
  let exists_ ← Prog.context "failed to check namespace" (store (.namespaceExists slug))
  Prog.ensure exists_ ("unknown namespace: " ++ slug)
  -- every session is tried; one that stays fails the deletion before anything is removed
  let sessions ← cascadeTerminateNamespace config context slug
  removeNamespaceCatalog slug
  return .namespaceDeleted slug sessions

end LittleOrgans.Handler
