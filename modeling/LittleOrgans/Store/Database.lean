import LittleOrgans.Core.Session
import LittleOrgans.Library.Table

/-!
# The unified store

Rows and tables of `0001_unified_schema.sql` that the session and runtime
daemons share, as far as the modelled code reads or writes them. A primary key
is the key of its table, and rows are listed in insertion order, which is the
`spawned_at` and `created_at` order of the listing queries. The schema has no
foreign keys and no triggers, so a statement changes its own table only.

Left out: `identity_audit`, `runtime_metadata`, the `owner` columns and the
`spawned_at` and `updated_at` columns of `runtime_lifecycle`, which no modelled
function reads.
-/

set_option autoImplicit false

namespace LittleOrgans.Store

open LittleOrgans.Core
open LittleOrgans.Library

/-- The `state` column of a session row; the evidence of a loss is a column of
its own. -/
inductive SessionStateName where
  | spawning
  | running
  | terminated
  | lost
  deriving DecidableEq

/-- `state IN ('SPAWNING', 'RUNNING')`. -/
def SessionStateName.isActive : SessionStateName → Bool
  | .spawning => true
  | .running => true
  | .terminated => false
  | .lost => false

/-- A row of `session_sessions`. -/
structure SessionRow where
  runtime : SessionRuntimeKind
  role : String
  workspace : String
  namespaceSlug : String
  dir : String
  state : SessionStateName
  lostEvidence : Option LostEvidence
  runtimePid : Pid
  runtimeSession : Option String
  transcriptPath : Option String
  tmuxPane : Option String
  agentConfig : Option String
  createdAt : DateTime
  startedAt : DateTime
  terminatedAt : Option DateTime
  exitCode : Option Int
  updatedAt : DateTime
  deriving DecidableEq

/-- A row of `runtime_lifecycle`, under its session id. The availability of logs
has no column: it is computed when a lifecycle is reported. -/
structure LifecycleRow where
  runtime : RuntimeKind
  isolation : IsolationPolicy
  state : LifecycleState
  shimPid : Option Pid
  runtimePid : Option Pid
  startTime : Option DateTime
  tmuxPane : Option TmuxAddress
  deriving DecidableEq

/-- A row of `messages`. `sender_ref` is the JSON text of the sender; encoding
is injective, so the row keeps the sender itself. -/
structure MessageRow where
  sender : SenderRef
  contextId : String
  intent : MailIntent
  idempotencyKey : Option String
  content : String
  sentAt : DateTime
  deriving DecidableEq

/-- A row of `message_deliveries`, under its message and recipient. -/
structure DeliveryRow where
  status : MailStatus
  readAt : Option DateTime
  deriving DecidableEq

inductive SpawnIntentStatus where
  | pending
  | resolved
  | aborted
  deriving DecidableEq

/-- Errors of the runtime and session daemons on the spawn path. A store
failure carries the context the call site attaches to it. -/
inductive DaemonError where
  | store (context : String)
  | io (context : String)
  | intent (error : SpawnIntentError)
  | sessionNotFound (sessionId : SessionId)
  | sessionAlreadyExists (sessionId : SessionId)
  | protocolMismatch (message : String)
  | tmuxPaneDead (address : TmuxAddress)
  | spawnConflictSessionId
  | spawnConflictTmuxPaneOccupancy
  | runtimeSpawnFailed (failure : DaemonError)
  | namespaceDeleted (slug : String)
  | unknownNamespace (slug : String)
  | unauthorized
  deriving DecidableEq

/-- `aborted_reason` of a spawn intent, as data: the text is rendered from it. -/
inductive AbortReason where
  | spawnFailure (failure : DaemonError)
  | namespaceDeletedBeforeCommit
  | sessionCommitFailed (failure : DaemonError)
  | runtimeLifecycleMissing
  | runtimeLifecycleNotRunning
  deriving DecidableEq

/-- A row of `session_spawn_intents`. -/
structure SpawnIntentRow where
  operationId : IntentId
  status : SpawnIntentStatus
  spawnRequest : RuntimeSpawnRequest
  sessionDraft : SessionDraft
  createdAt : Int
  updatedAt : Int
  resolvedAt : Option Int
  abortedReason : Option AbortReason
  deriving DecidableEq

/-- Position in the runtime event log. -/
abbrev EventCursor := Nat

/-! The keys of two columns are compared column by column. -/

instance : LawfulBEq (SessionId × String) := inferInstance

instance : LawfulBEq (MessageId × SessionId) := inferInstance

/-- The tables of the store. -/
structure Database where
  lifecycles : Table SessionId LifecycleRow
  sessions : Table SessionId SessionRow
  labels : Table (SessionId × String) String
  namespaces : Table String DateTime
  spawnIntents : Table SessionId SpawnIntentRow
  eventCursor : Option EventCursor
  messages : Table MessageId MessageRow
  deliveries : Table (MessageId × SessionId) DeliveryRow

/-- A freshly migrated store: no rows but the default namespace. -/
def Database.migrated (createdAt : DateTime) : Database where
  lifecycles := .empty
  sessions := .empty
  labels := .empty
  namespaces := Table.empty.insert "default" createdAt
  spawnIntents := .empty
  eventCursor := none
  messages := .empty
  deliveries := .empty

end LittleOrgans.Store
