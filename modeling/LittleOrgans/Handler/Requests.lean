import LittleOrgans.Concurrency.Operations
import LittleOrgans.Core.LabelText
import LittleOrgans.Daemon.SpawnHandler
import LittleOrgans.Identity.Authorization
import LittleOrgans.Runtime.TmuxNudge
import LittleOrgans.Session.MailHandlers

/-!
# Requests of the session daemon

`SessionRpc` and `RpcResponse` of `lilo-session-core` with the data they carry. A request
comes in for a principal, and for a session where one is named (`RequestContext`).

The fields of a spawn request that only its launch reads are left out, as in
`Daemon.SpawnRequest`.
-/

set_option autoImplicit false

namespace LittleOrgans.Handler

open LittleOrgans.Core
open LittleOrgans.Library
open LittleOrgans.Store
open LittleOrgans.Daemon (Namespace SpawnRequest)
open LittleOrgans.Concurrency (RuntimeSignal)
open LittleOrgans.Identity (Principal)
open LittleOrgans.Session (MailSendRequest MailLogFilter MailDeliveryStatus MailNotifyStatus
  RecipientSummary MessageView)
open LittleOrgans.Runtime (NudgeMode)

/-- Who makes a request. -/
structure RequestContext where
  principal : Principal
  callerSessionId : Option SessionId

/-- The context of a call that is made for a session. -/
def RequestContext.withCallerSessionId (context : RequestContext) (id : SessionId) :
    RequestContext :=
  { context with callerSessionId := some id }

/-- The text of a session id. -/
def idText (id : SessionId) : String := String.ofList (uuidText id.uuid)

/-! ## Requests -/

/-- `ListRequest`; without a selector, every session. -/
structure ListRequest where
  selector : Option Selector

/-- `DeleteRequest`. -/
structure DeleteRequest where
  selector : Selector
  signal : String
  graceSecs : Nat

/-- `LabelRequest`. -/
structure LabelRequest where
  selector : Selector
  mutation : LabelMutation

/-- `LogsRequest`. -/
structure LogsRequest where
  selector : Selector
  maxBytes : Option Nat

/-- `CaptureRequest`. -/
structure CaptureRequest where
  sessionId : SessionId
  scrollbackLines : Option Nat

/-- What a wait waits for. -/
inductive WaitCondition where
  | running
  | terminated
  | count (count : Nat)
  deriving DecidableEq

/-- `WaitRequest`. -/
structure WaitRequest where
  selector : Selector
  condition : WaitCondition
  timeoutSecs : Nat

/-- `NudgeRequest`. -/
structure NudgeRequest where
  toSelector : Selector
  content : String
  mode : NudgeMode

/-- `MailCheckRequest`. -/
structure MailCheckRequest where
  selector : Selector

/-- `MailPeekRequest`. -/
structure MailPeekRequest where
  filter : MailLogFilter

/-- `MailTailRequest`: the mail behind a cursor; `follow` waits for more. -/
structure MailTailRequest where
  filter : MailLogFilter
  after : Option MailLogCursor
  follow : Bool
  waitMs : Option Nat

/-- `NamespaceCreateRequest`. -/
structure NamespaceCreateRequest where
  slug : String

/-- `NamespaceGetRequest`. -/
structure NamespaceGetRequest where
  slug : String

/-- `NamespaceDeleteRequest`; the slug was checked when the request was read. -/
structure NamespaceDeleteRequest where
  namespaceSlug : Namespace

/-- `McpBridgeRequest`: one line of JSON-RPC, for a session. -/
structure McpBridgeRequest where
  line : String
  callerSessionId : Option String

/-- `SessionRpc`. The requests without fields are their constructors. -/
inductive SessionRpc where
  | spawn (request : SpawnRequest)
  | list (request : ListRequest)
  | namespaceCreate (request : NamespaceCreateRequest)
  | namespaceGet (request : NamespaceGetRequest)
  | namespaceList
  | namespaceDelete (request : NamespaceDeleteRequest)
  | delete (request : DeleteRequest)
  | mailSend (request : MailSendRequest)
  | mailRead
  | mailPeek (request : MailPeekRequest)
  | mailCheck (request : MailCheckRequest)
  | mailStopCheck (request : MailCheckRequest)
  | mailTail (request : MailTailRequest)
  | nudge (request : NudgeRequest)
  | label (request : LabelRequest)
  | logs (request : LogsRequest)
  | capture (request : CaptureRequest)
  | doctor
  | wait (request : WaitRequest)
  | callerContext (callerSessionId : String) (request : SessionRpc)
  | mcpBridge (request : McpBridgeRequest)
  | shutdown

/-! ## Responses -/

/-- A target of a request that failed, under its id. -/
structure TargetError where
  target : String
  message : String
  deriving DecidableEq

/-- The sessions a request worked on, and the targets it failed for. -/
structure TargetsResponse where
  sessions : List Session
  errors : List TargetError

/-- A row of the namespace catalog. -/
structure NamespaceRecord where
  slug : String
  createdAt : DateTime
  deriving DecidableEq

/-- What became of a mail for one recipient. -/
structure MailSendResult where
  recipient : RecipientSummary
  mail : MailDeliveryStatus
  notify : MailNotifyStatus
  message : Option MessageView
  error : Option String

/-- The results of a mail, and the recipients it was refused for. -/
structure MailSendResponse where
  results : List MailSendResult
  errors : List TargetError

/-- The unread mail of a session, as a check shows it. -/
structure MailCountView where
  sessionId : SessionId
  role : String
  displayLabel : String
  namespaceSlug : String
  unread : Nat

/-- What became of a nudge for one session. -/
structure NudgeDelivery where
  toSession : String
  delivered : Bool
  message : String

/-- The nudges that were sent, and the sessions they failed for. -/
structure NudgeResponse where
  nudges : List NudgeDelivery
  errors : List TargetError

/-- The content of a pane, with the scrollback that was asked for and the part that was there. -/
structure PaneSnapshot where
  content : String
  capturedAtMs : Nat
  scrollbackLinesRequested : Nat
  scrollbackLinesIncluded : Nat
  paneHistoryLines : Nat

/-- Why a pane was not captured. -/
inductive CaptureError where
  | notATmuxTarget
  | paneUnavailable
  | sessionMissing
  | tmuxNotAvailable
  | capturePaneFailed (stderr : String)

/-- The runtime's answer to a capture. -/
inductive PaneCapture where
  | captured (snapshot : PaneSnapshot)
  | failed (error : CaptureError)

/-- What the runtime's own doctor reports, as far as the session doctor reads it. -/
structure RuntimeDoctor where
  protocolVersion : String
  pendingDescriptions : List String

/-- What the runtime daemon says of itself, or why it could not be asked. -/
structure RuntimeDoctorReport where
  status : String
  doctor : Option RuntimeDoctor
  socketPath : Option String
  code : Option String
  message : Option String

/-- Something the doctor found, about a session or about the daemon. -/
structure DoctorFinding where
  severity : String
  sessionId : Option String
  message : String
  deriving DecidableEq

/-- `DoctorResponse`. -/
structure DoctorResponse where
  status : String
  daemonVersion : Option String
  runtime : String
  runtimeMatters : RuntimeDoctorReport
  findings : List DoctorFinding

/-- The responses of the session daemon, each with what it carries. -/
inductive RpcResponse where
  | spawned (session : Session)
  | listed (sessions : List Session)
  | namespaceCreated (record : NamespaceRecord) (created : Bool)
  | namespaceGot (record : Option NamespaceRecord)
  | namespacesListed (records : List NamespaceRecord)
  | namespaceDeleted (slug : String) (sessions : List Session)
  | deleted (response : TargetsResponse)
  | mailSent (response : MailSendResponse)
  | mailRead (messages : List MessageView) (errors : List TargetError)
  | mailPeek (messages : List MessageView) (cursor : Option MailLogCursor)
  | mailChecked (unread : Nat) (counts : List MailCountView)
  | mailStopChecked (unread : Nat) (counts : List MailCountView)
  | mailTail (messages : List MessageView) (cursor : Option MailLogCursor)
  | nudged (response : NudgeResponse)
  | labeled (response : TargetsResponse)
  | logs (session : Session) (transcriptPath content : String)
  | capture (session : Session) (capture : PaneCapture)
  | doctor (response : DoctorResponse)
  | wait (matched : Bool) (sessions : List Session)
  | mcpBridge (line : Option String)
  | shutdown (message : String)
  | error (message : String)

/-- `RpcResponse::kind`. -/
def RpcResponse.kind : RpcResponse → String
  | .spawned _ => "Spawned"
  | .listed _ => "Listed"
  | .namespaceCreated _ _ => "NamespaceCreated"
  | .namespaceGot _ => "NamespaceGot"
  | .namespacesListed _ => "NamespacesListed"
  | .namespaceDeleted _ _ => "NamespaceDeleted"
  | .deleted _ => "Deleted"
  | .mailSent _ => "MailSent"
  | .mailRead _ _ => "MailRead"
  | .mailPeek _ _ => "MailPeek"
  | .mailChecked _ _ => "MailChecked"
  | .mailStopChecked _ _ => "MailStopChecked"
  | .mailTail _ _ => "MailTail"
  | .nudged _ => "Nudged"
  | .labeled _ => "Labeled"
  | .logs _ _ _ => "Logs"
  | .capture _ _ => "Capture"
  | .doctor _ => "Doctor"
  | .wait _ _ => "Wait"
  | .mcpBridge _ => "McpBridge"
  | .shutdown _ => "Shutdown"
  | .error _ => "Error"

/-- A response, and whether the daemon goes down after it. -/
structure HandlerResult where
  response : RpcResponse
  shutdown : Bool

end LittleOrgans.Handler
