import LittleOrgans.Core.AgentConfigPath
import LittleOrgans.Core.JsonRpc
import LittleOrgans.Handler.Direct
import LittleOrgans.Runtime.MountText

/-!
# Tools of the MCP bridge

The tools that the session daemon offers over MCP. A tool reads its arguments, confines the
selector it was given to a namespace, and makes one direct request; its answer becomes the
structured content of the result. `agent_delete` and `agent_label` take their selector as it
is.

The scope of a tool is every namespace, where it is asked for; else the namespace that is
named, or that of the caller's session, or the default one.
-/

set_option autoImplicit false

namespace LittleOrgans.Handler

open LittleOrgans.Core
open LittleOrgans.Library
open LittleOrgans.Store
open LittleOrgans.Daemon (Namespace SpawnRequest)
open LittleOrgans.Runtime (MountSpec)
open LittleOrgans.Session (MailSendRequest MailLogFilter MailNotifyMode MessageView)

/-- The values of the structured contents, as `serde` derives them. -/
structure ToolCodec where
  session : Session → Json
  targetError : TargetError → Json
  namespaceRecord : NamespaceRecord → Json
  capture : PaneCapture → Json
  mailSendResult : MailSendResult → Json
  message : MessageView → Json
  cursor : MailLogCursor → Json
  mailCount : MailCountView → Json
  nudge : NudgeDelivery → Json
  runtimeMatters : RuntimeDoctorReport → Json
  finding : DoctorFinding → Json

variable (config : DaemonConfig) (codec : ToolCodec)

/-- An error result of a tool, under the meta key all of them use. -/
def toolError (message : String) : Json := toolErrorWithMetaKey "sm_tool_error" message

/-! ## Arguments -/

/-- A text argument; one of another type counts as missing. -/
def optionalString (arguments : Json) (field : String) : Option String :=
  (arguments.get field).bind Json.asStr

/-- A natural number among the arguments. -/
def optionalU64 (arguments : Json) (field : String) : Option Nat :=
  (arguments.get field).bind Json.asU64

/-- A truth value among the arguments. -/
def optionalBool (arguments : Json) (field : String) : Option Bool :=
  (arguments.get field).bind Json.asBool

/-- The error of an argument that is not there. -/
def missingArgument (field : String) : Report :=
  ["missing required argument " ++ "`" ++ field ++ "`"]

/-- A text argument that a tool cannot do without. -/
def requiredString (arguments : Json) (field : String) : Except Report String :=
  match optionalString arguments field with
  | some value => .ok value
  | none => .error (missingArgument field)

/-- An error of the core as an error of a tool. -/
def SmError.report : SmError → Report
  | .message text => [text]
  | .uuid error => [error]

/-- The selector a tool cannot do without. -/
def requiredSelector (arguments : Json) (field : String) : Except Report Selector := do
  let value ← requiredString arguments field
  (Selector.fromStr config.formats value.toList).mapError SmError.report

/-- A selector that may be missing; one that is there has to parse. -/
def optionalSelector (arguments : Json) (field : String) : Except Report (Option Selector) :=
  match optionalString arguments field with
  | none => .ok none
  | some value =>
      ((Selector.fromStr config.formats value.toList).map some).mapError SmError.report

/-- `SessionId::from_str`. -/
def parseSessionId (id : String) : Except String SessionId :=
  (config.formats.parseUuid id.toList).map SessionId.mk

/-- The selector of one session, from the text of its id. -/
def selectorFromId (id : String) : Except Report Selector :=
  ((parseSessionId config id).map Selector.id).mapError fun error => [error]

/-- The selector under its name, or else the one of the session that is named. -/
def selectorOrId (arguments : Json) : Except Report Selector :=
  match requiredSelector config arguments "selector" with
  | .ok selector => .ok selector
  | .error _ => do
      let id ← requiredString arguments "id"
      selectorFromId config id

/-- One entry of `optional_string_array`. -/
def stringEntry {α : Type} (field : String) (parse : String → Except Report α) (value : Json) :
    Except Report α :=
  match value.asStr with
  | none => .error ["`" ++ field ++ "` entries must be strings"]
  | some item => parse item

/-- `optional_string_array`. -/
def optionalStringArray {α : Type} (arguments : Json) (field entryDescription : String)
    (parse : String → Except Report α) : Except Report (List α) :=
  match arguments.get field with
  | none => .ok []
  | some value =>
      match value.asArray with
      | none => .error ["`" ++ field ++ "` must be an array of " ++ entryDescription ++ " strings"]
      | some items => items.mapM (stringEntry field parse)

/-- The labels of a run. -/
def optionalLabels (arguments : Json) : Except Report (List Label) :=
  optionalStringArray arguments "labels" "key=value" fun label =>
    (Label.fromStr label.toList).mapError SmError.report

/-- The mounts of a run; `~` is the home of the daemon. -/
def optionalMounts (arguments : Json) : Except Report (List MountSpec) :=
  optionalStringArray arguments "mounts" "HOST:CONTAINER[:ro|:rw]" fun mount =>
    (MountSpec.fromStr config.home mount.toList).mapError fun error => [error.text]

/-! ## Scopes -/

/-- The namespace of the caller's session, or the default one. -/
def callerNamespace (context : RequestContext) : HandlerProg String :=
  match context.callerSessionId with
  | none => return Namespace.default.slug
  | some id => do
      let session ← Prog.context "failed to load caller session" (store (.getSession id))
      return (session.map fun session => session.namespaceSlug).getD Namespace.default.slug

/-- `read_namespace_scope`. -/
def readNamespaceScope (context : RequestContext) (arguments : Json) :
    HandlerProg (Option (String × NamespaceScope)) :=
  if (optionalBool arguments "all_namespaces").getD false then return none
  else
    match optionalString arguments "namespace" with
    | some raw => do
        let found ← Prog.ofExcept (parseNamespace config raw)
        return some (found.slug, .explicit)
    | none => do
        let slug ← callerNamespace context
        return some (slug, .default)

/-- `scoped_optional_selector`. -/
def scopedOptionalSelector (context : RequestContext) (arguments : Json)
    (selector : Option Selector) : HandlerProg (Option Selector) := do
  match ← readNamespaceScope config context arguments with
  | none => return selector
  | some scope =>
      let confined ← Prog.ofExcept
        ((Selector.scopedToNamespace selector scope.1 scope.2).mapError SmError.report)
      return some confined

/-- `scoped_required_selector`. -/
def scopedRequiredSelector (context : RequestContext) (arguments : Json) (selector : Selector) :
    HandlerProg Selector := do
  let confined ← scopedOptionalSelector config context arguments (some selector)
  Prog.required confined "required selector was removed by namespace scoping"

/-! ## Answers -/

/-- The daemon answered with a response of another request. -/
def unexpectedResponse (response : RpcResponse) : Report :=
  ["unexpected daemon response: " ++ response.kind ++ " (please report)"]

/-- `session_tool_response_error`. -/
def sessionToolResponseError (response : RpcResponse) : Report :=
  match response with
  | .error message => [message]
  | other => unexpectedResponse other

/-- A number of items. -/
def jsonCount (n : Nat) : Json := .ofInt n

/-- A list of values, each as JSON. -/
def jsonArray {α : Type} (encode : α → Json) (items : List α) : Json := .array (items.map encode)

/-- A direct request, and what a tool makes of its response. -/
def ask (context : RequestContext) (request : SessionRpc)
    (answer : RpcResponse → Except Report Json) :
    HandlerProg Json := do
  let result ← handleDirect config context request
  Prog.ofExcept (answer result.response)

/-- What the caller of `agent_run` is told. -/
def spawnedAnswer (response : RpcResponse) : Except Report Json :=
  match response with
  | .spawned session =>
      .ok (toolSuccess ("spawned " ++ idText session.id)
        (.object [("session", codec.session session)]))
  | other => .error (sessionToolResponseError other)

/-- What the caller of `agent_list` is told. -/
def listedAnswer (response : RpcResponse) : Except Report Json :=
  match response with
  | .listed sessions =>
      .ok (toolSuccess (toString sessions.length ++ " session(s)")
        (.object [("sessions", jsonArray codec.session sessions)]))
  | other => .error (sessionToolResponseError other)

/-- The first of the sessions that were found for an id. -/
def gotAnswer (id : String) (response : RpcResponse) : Except Report Json :=
  match response with
  | .listed sessions =>
      match sessions.head? with
      | none => .error ["unknown session: " ++ id]
      | some session =>
          .ok (toolSuccess ("found " ++ idText session.id)
            (.object [("session", codec.session session)]))
  | other => .error (sessionToolResponseError other)

/-- What the caller of `agent_capture` is told. -/
def captureAnswer (response : RpcResponse) : Except Report Json :=
  match response with
  | .capture session capture =>
      .ok (toolSuccess ("captured " ++ idText session.id)
        (.object [("session", codec.session session), ("capture", codec.capture capture)]))
  | other => .error (sessionToolResponseError other)

/-- The sessions that were worked on, and the errors of the others. -/
def targetsContent (response : TargetsResponse) : Json :=
  .object [("sessions", jsonArray codec.session response.sessions),
    ("errors", jsonArray codec.targetError response.errors)]

/-- What the caller of `agent_delete` is told, with the targets that failed. -/
def deletedAnswer (response : RpcResponse) : Except Report Json :=
  match response with
  | .deleted response =>
      .ok (toolSuccess ("deleted " ++ toString response.sessions.length ++ " session(s)")
        (targetsContent codec response))
  | other => .error (sessionToolResponseError other)

/-- What the caller of `agent_label` is told, with the targets that failed. -/
def labeledAnswer (response : RpcResponse) : Except Report Json :=
  match response with
  | .labeled response =>
      .ok (toolSuccess ("labeled " ++ toString response.sessions.length ++ " session(s)")
        (targetsContent codec response))
  | other => .error (sessionToolResponseError other)

/-- The namespace of a slug; an unknown one is an error of the tool. -/
def namespaceGotAnswer (slug : String) (answer : NamespaceRecord → Json) (response : RpcResponse) :
    Except Report Json :=
  match response with
  | .namespaceGot (some record) => .ok (answer record)
  | .namespaceGot none => .error ["unknown namespace: " ++ slug]
  | other => .error (sessionToolResponseError other)

/-- What the caller of `namespace_list` is told. -/
def namespacesListedAnswer (response : RpcResponse) : Except Report Json :=
  match response with
  | .namespacesListed records =>
      .ok (toolSuccess (toString records.length ++ " namespace(s)")
        (.object [("namespaces", jsonArray codec.namespaceRecord records)]))
  | other => .error (sessionToolResponseError other)

/-- What the caller of `mail_send` is told, recipient by recipient. -/
def mailSentAnswer (response : RpcResponse) : Except Report Json :=
  match response with
  | .mailSent response =>
      .ok (toolSuccess ("sent " ++ toString response.results.length ++ " mail item(s)")
        (.object [("results", jsonArray codec.mailSendResult response.results),
          ("errors", jsonArray codec.targetError response.errors)]))
  | other => .error (sessionToolResponseError other)

/-- What the caller of `mail_read` is told. -/
def mailReadAnswer (response : RpcResponse) : Except Report Json :=
  match response with
  | .mailRead messages errors =>
      .ok (toolSuccess (toString messages.length ++ " mail item(s)")
        (.object [("messages", jsonArray codec.message messages),
          ("errors", jsonArray codec.targetError errors)]))
  | other => .error (sessionToolResponseError other)

/-- Messages with the cursor to go on from. -/
def observedContent (messages : List MessageView) (cursor : Option MailLogCursor) : Json :=
  toolSuccess (toString messages.length ++ " mail item(s)")
    (.object [("messages", jsonArray codec.message messages),
      ("cursor", (cursor.map codec.cursor).getD .null)])

/-- What the caller of `mail_peek` is told. -/
def mailPeekAnswer (response : RpcResponse) : Except Report Json :=
  match response with
  | .mailPeek messages cursor => .ok (observedContent codec messages cursor)
  | other => .error (sessionToolResponseError other)

/-- What the caller of `mail_tail` is told. -/
def mailTailAnswer (response : RpcResponse) : Except Report Json :=
  match response with
  | .mailTail messages cursor => .ok (observedContent codec messages cursor)
  | other => .error (sessionToolResponseError other)

/-- `unread_tool_response`. -/
def unreadToolResponse (unread : Nat) (counts : List MailCountView) : Json :=
  toolSuccess (toString unread ++ " unread")
    (.object [("unread", jsonCount unread), ("counts", jsonArray codec.mailCount counts)])

/-- What the caller of `mail_check` is told; a stop check answers alike. -/
def mailCountAnswer (response : RpcResponse) : Except Report Json :=
  match response with
  | .mailChecked unread counts => .ok (unreadToolResponse codec unread counts)
  | .mailStopChecked unread counts => .ok (unreadToolResponse codec unread counts)
  | other => .error (sessionToolResponseError other)

/-- What the caller of `nudge` is told. -/
def nudgedAnswer (response : RpcResponse) : Except Report Json :=
  match response with
  | .nudged response =>
      .ok (toolSuccess ("nudged " ++ toString response.nudges.length ++ " session(s)")
        (.object [("nudges", jsonArray codec.nudge response.nudges),
          ("errors", jsonArray codec.targetError response.errors)]))
  | other => .error (sessionToolResponseError other)

/-- What the caller of `agent_logs` is told. -/
def logsAnswer (response : RpcResponse) : Except Report Json :=
  match response with
  | .logs session transcriptPath content =>
      .ok (toolSuccess ("logs " ++ idText session.id)
        (.object [("session", codec.session session), ("transcript_path", .string transcriptPath),
          ("content", .string content)]))
  | other => .error (sessionToolResponseError other)

/-- What the caller of `wait` is told. -/
def waitAnswer (response : RpcResponse) : Except Report Json :=
  match response with
  | .wait matched sessions =>
      .ok (toolSuccess ("wait matched: " ++ toString matched)
        (.object [("matched", .bool matched), ("sessions", jsonArray codec.session sessions)]))
  | other => .error (sessionToolResponseError other)

/-- What the caller of `doctor` is told. -/
def doctorAnswer (response : RpcResponse) : Except Report Json :=
  match response with
  | .doctor response =>
      .ok (toolSuccess ("doctor " ++ response.status)
        (.object [("status", .string response.status), ("runtime", .string response.runtime),
          ("runtime_matters", codec.runtimeMatters response.runtimeMatters),
          ("findings", jsonArray codec.finding response.findings)]))
  | other => .error (sessionToolResponseError other)

/-! ## Agents -/

/-- The refusal of mounts on the host. -/
def HOST_MOUNT_POLICY_ERROR : String :=
  "--mount is docker-only and cannot be used with --isolation host"

/-- `ensure_mounts_allowed_for_isolation`. -/
def ensureMountsAllowedForIsolation (isolation : IsolationPolicy) (mounts : List MountSpec) :
    Except Report Unit :=
  if isolation = .host ∧ mounts ≠ [] then .error [HOST_MOUNT_POLICY_ERROR] else .ok ()

/-- The agent configuration of a spawn, relative to its directory. -/
def requestedAgentConfig (arguments : Json) (dir : String) : HandlerProg (Option String) :=
  match optionalString arguments "agent_config" with
  | none => return none
  | some value =>
      if isAgentConfigPathLike value then do
        let found ← host (.canonicalize (agentConfigPath value (.ofString dir) none))
        return some (normalizeAgentConfigRequest (fun _ => found) value (.ofString dir) none)
      else return some value

/-- The isolation of a run; on the host when none is named. -/
def optionalIsolation (arguments : Json) : Except Report IsolationPolicy :=
  match optionalString arguments "isolation" with
  | none => .ok .host
  | some value => (IsolationPolicy.fromStr value.toList).mapError fun error => [error]

/-- The namespace of a run, which has to be a valid slug. -/
def optionalNamespace (arguments : Json) : Except Report (Option Namespace) :=
  match optionalString arguments "namespace" with
  | none => .ok none
  | some value => (parseNamespace config value).map some

/-- `agent_run`: every argument is read before the daemon is asked. -/
def agentRun (context : RequestContext) (arguments : Json) : HandlerProg Json := do
  let runtimeText ← Prog.ofExcept (requiredString arguments "runtime")
  let runtime ← Prog.ofExcept
    ((SessionRuntimeKind.fromStr runtimeText).mapError fun error => [error])
  let role ← Prog.ofExcept (requiredString arguments "role")
  let dir ← Prog.ofExcept (requiredString arguments "dir")
  let namespaceSlug ← Prog.ofExcept (optionalNamespace config arguments)
  let labels ← Prog.ofExcept (optionalLabels arguments)
  let agentConfig ← requestedAgentConfig arguments dir
  let isolation ← Prog.ofExcept (optionalIsolation arguments)
  let mounts ← Prog.ofExcept (optionalMounts config arguments)
  Prog.ofExcept (ensureMountsAllowedForIsolation isolation mounts)
  let request : SpawnRequest :=
    { runtime := runtime
      role := role
      workspace := dir
      dir := some dir
      namespaceSlug := namespaceSlug
      target := (optionalString arguments "target").getD "headless"
      agentConfig := agentConfig
      isolation := isolation
      labels := labels
      force := (optionalBool arguments "force").getD false }
  ask config context (.spawn request) (spawnedAnswer codec)

/-- The selector of `agent_list`: its own, or that of an id that can be read. -/
def listSelector (arguments : Json) : Except Report (Option Selector) := do
  let selector ← optionalSelector config arguments "selector"
  pure (selector.or ((optionalString arguments "id").bind fun id =>
    (selectorFromId config id).toOption))

/-- `agent_list`, confined to the namespace of the caller. -/
def agentList (context : RequestContext) (arguments : Json) : HandlerProg Json := do
  let selector ← Prog.ofExcept (listSelector config arguments)
  let confined ← scopedOptionalSelector config context arguments selector
  ask config context (.list ⟨confined⟩) (listedAnswer codec)

/-- `agent_get`: a list of one session. -/
def agentGet (context : RequestContext) (arguments : Json) : HandlerProg Json := do
  let id ← Prog.ofExcept (requiredString arguments "id")
  let selector ← Prog.ofExcept (selectorFromId config id)
  let confined ← scopedRequiredSelector config context arguments selector
  ask config context (.list ⟨some confined⟩) (gotAnswer codec id)

/-- The number of lines as a `u32`. -/
def scrollbackLines (arguments : Json) : Except Report (Option Nat) :=
  match optionalU64 arguments "scrollback_lines" with
  | none => .ok none
  | some lines =>
      if lines ≤ u32Max then .ok (some lines) else .error ["scrollback_lines is out of range"]

/-- `agent_capture`: the session is resolved before it is captured. -/
def agentCapture (context : RequestContext) (arguments : Json) : HandlerProg Json := do
  let id ← Prog.ofExcept (requiredString arguments "id")
  let selector ← Prog.ofExcept (selectorFromId config id)
  let confined ← scopedRequiredSelector config context arguments selector
  let sessions ← resolveSelector confined "capture"
  let session ← Prog.required sessions.getLast?
    ("capture selector matched no sessions: " ++ String.ofList confined.display)
  let lines ← Prog.ofExcept (scrollbackLines arguments)
  ask config context (.capture ⟨session.id, lines⟩) (captureAnswer codec)

/-- `agent_delete`; the signal and the grace period have defaults. -/
def agentDelete (context : RequestContext) (arguments : Json) : HandlerProg Json := do
  let selector ← Prog.ofExcept (selectorOrId config arguments)
  let signal := (optionalString arguments "signal").getD "SIGTERM"
  let graceSecs := (optionalU64 arguments "grace_secs").getD 5
  ask config context (.delete ⟨selector, signal, graceSecs⟩) (deletedAnswer codec)

/-- `agent_label`. -/
def agentLabel (context : RequestContext) (arguments : Json) : HandlerProg Json := do
  let selector ← Prog.ofExcept (requiredSelector config arguments "selector")
  let text ← Prog.ofExcept (requiredString arguments "mutation")
  let mutation ← Prog.ofExcept ((LabelMutation.fromStr text.toList).mapError SmError.report)
  ask config context (.label ⟨selector, mutation⟩) (labeledAnswer codec)

/-! ## Namespaces -/

/-- `namespace_record_by_slug`, with what a tool makes of the record. -/
def namespaceRecordBySlug (context : RequestContext) (slug : String)
    (answer : NamespaceRecord → Json) : HandlerProg Json :=
  ask config context (.namespaceGet ⟨slug⟩) (namespaceGotAnswer slug answer)

/-- `namespace_list`; with a slug, the one namespace. -/
def namespaceList (context : RequestContext) (arguments : Json) : HandlerProg Json :=
  match optionalString arguments "slug" with
  | some slug =>
      namespaceRecordBySlug config context slug fun record =>
        toolSuccess "1 namespace(s)"
          (.object [("namespaces", .array [codec.namespaceRecord record])])
  | none => ask config context .namespaceList (namespacesListedAnswer codec)

/-- `namespace_get`. -/
def namespaceGet (context : RequestContext) (arguments : Json) : HandlerProg Json := do
  let slug ← Prog.ofExcept (requiredString arguments "slug")
  namespaceRecordBySlug config context slug fun record =>
    toolSuccess ("found " ++ record.slug) (.object [("namespace", codec.namespaceRecord record)])

/-! ## Mail -/

/-- `MailIntent::from_str`. -/
def parseMailIntent (value : String) : Except Report MailIntent :=
  if value = "request" then .ok .request
  else if value = "result" then .ok .result
  else if value = "inform" then .ok .inform
  else if value = "receipt" then .ok .receipt
  else .error ["unsupported mail intent: " ++ value]

/-- The intent of a mail; a client may not send every one. -/
def requiredIntent (arguments : Json) : Except Report MailIntent := do
  let text ← requiredString arguments "intent"
  let intent ← parseMailIntent text
  ensureClientSendAllowed intent
  pure intent

/-- `MailNotifyMode::from_str`. -/
def parseMailNotifyMode (value : String) : Except Report MailNotifyMode :=
  if value = "wait" then .ok .wait
  else if value = "steer" then .ok .steer
  else .error ["unsupported mail notify mode: " ++ value]

/-- How the recipient of a mail is notified. -/
def optionalNotify (arguments : Json) : Except Report (Option MailNotifyMode) :=
  match optionalString arguments "notify" with
  | none => .ok none
  | some value => (parseMailNotifyMode value).map some

/-- `mail_timeout_seconds_to_ms`. -/
def mailTimeoutSecondsToMs (seconds : Nat) : Except Report Nat :=
  if 1000 * seconds ≤ u64Max then .ok (1000 * seconds)
  else .error ["mail send --timeout is too large"]

/-- The time a mail may wait, given in seconds. -/
def optionalTimeoutMs (arguments : Json) : Except Report (Option Nat) :=
  match optionalU64 arguments "timeout" with
  | none => .ok none
  | some seconds => (mailTimeoutSecondsToMs seconds).map some

/-- `mail_send`. -/
def mailSendTool (context : RequestContext) (arguments : Json) : HandlerProg Json := do
  let selector ← Prog.ofExcept (requiredSelector config arguments "to")
  let confined ← scopedRequiredSelector config context arguments selector
  let notify ← Prog.ofExcept (optionalNotify arguments)
  let timeoutMs ← Prog.ofExcept (optionalTimeoutMs arguments)
  Prog.ofExcept (validateMailNotifyTimeout notify timeoutMs)
  let content ← Prog.ofExcept (requiredString arguments "content")
  let contextId ← Prog.ofExcept (requiredString arguments "context_id")
  let intent ← Prog.ofExcept (requiredIntent arguments)
  let request : MailSendRequest :=
    { toSelector := confined
      content := content
      notify := notify
      timeoutMs := timeoutMs
      contextId := contextId
      intent := intent
      idempotencyKey := optionalString arguments "idempotency_key" }
  ask config context (.mailSend request) (mailSentAnswer codec)

/-- `mail_read`. -/
def mailReadTool (context : RequestContext) : HandlerProg Json :=
  ask config context .mailRead (mailReadAnswer codec)

/-- The recipient of an observation; without one it is not confined. -/
def observedRecipient (context : RequestContext) (arguments : Json) :
    Option Selector → HandlerProg (Option Selector)
  | none => return none
  | some recipient => scopedOptionalSelector config context arguments (some recipient)

/-- `observation_filter`. -/
def observationFilter (context : RequestContext) (arguments : Json) :
    HandlerProg MailLogFilter := do
  let selector ← Prog.ofExcept (optionalSelector config arguments "selector")
  let recipient ← Prog.ofExcept (optionalSelector config arguments "recipient")
  let confined ← scopedOptionalSelector config context arguments selector
  let recipient ← observedRecipient config context arguments recipient
  return {
    contextId := optionalString arguments "context_id"
    selector := confined
    recipient := recipient
    includeSystem := (optionalBool arguments "include_system").getD false }

/-- `mail_peek`. -/
def mailPeekTool (context : RequestContext) (arguments : Json) : HandlerProg Json := do
  let filter ← observationFilter config context arguments
  ask config context (.mailPeek ⟨filter⟩) (mailPeekAnswer codec)

/-- The time to wait for mail, where there is one. -/
def tailWaitMs (arguments : Json) : Option Nat :=
  (optionalU64 arguments "timeout").bind fun seconds =>
    if seconds = 0 then none else some (min (1000 * seconds) u64Max)

/-- `mail_tail`. -/
def mailTailTool (context : RequestContext) (arguments : Json) : HandlerProg Json := do
  let filter ← observationFilter config context arguments
  let waitMs := tailWaitMs arguments
  ask config context (.mailTail ⟨filter, none, waitMs.isSome, waitMs⟩) (mailTailAnswer codec)

/-- `mail_count_from_args`. -/
def mailCountFromArgs (context : RequestContext) (arguments : Json)
    (request : Selector → SessionRpc) : HandlerProg Json := do
  let selector ← Prog.ofExcept (requiredSelector config arguments "selector")
  let confined ← scopedRequiredSelector config context arguments selector
  ask config context (request confined) (mailCountAnswer codec)

/-! ## Nudges, transcripts, waits and the doctor -/

/-- `nudge`. -/
def nudgeTool (context : RequestContext) (arguments : Json) : HandlerProg Json := do
  let selector ← Prog.ofExcept (requiredSelector config arguments "to")
  let confined ← scopedRequiredSelector config context arguments selector
  let content ← Prog.ofExcept (requiredString arguments "content")
  ask config context (.nudge ⟨confined, content, .immediate⟩) (nudgedAnswer codec)

/-- `logs`. -/
def logsTool (context : RequestContext) (arguments : Json) : HandlerProg Json := do
  let selector ← Prog.ofExcept (selectorOrId config arguments)
  let confined ← scopedRequiredSelector config context arguments selector
  ask config context (.logs ⟨confined, optionalU64 arguments "max_bytes"⟩) (logsAnswer codec)

/-- `WaitCondition::from_str`; the count is a `usize`. -/
def parseWaitCondition (value : String) : Except Report WaitCondition :=
  if value = "running" then .ok .running
  else if value = "terminated" then .ok .terminated
  else
    match stripPrefix "count=".toList value.toList with
    | none => .error ["unsupported wait condition: " ++ value]
    | some digits =>
        ((parseUnsigned u64Max digits).map WaitCondition.count).mapError fun _ =>
          ["invalid wait count: " ++ String.ofList digits]

/-- `wait`. -/
def waitTool (context : RequestContext) (arguments : Json) : HandlerProg Json := do
  let text ← Prog.ofExcept (requiredString arguments "for")
  let condition ← Prog.ofExcept (parseWaitCondition text)
  let selector ← Prog.ofExcept (requiredSelector config arguments "selector")
  let confined ← scopedRequiredSelector config context arguments selector
  let timeoutSecs := (optionalU64 arguments "timeout_secs").getD 30
  ask config context (.wait ⟨confined, condition, timeoutSecs⟩) (waitAnswer codec)

/-- `doctor`. -/
def doctorTool (context : RequestContext) : HandlerProg Json :=
  ask config context .doctor (doctorAnswer codec)

/-! ## Calling a tool -/

/-- The tools of the session daemon. -/
inductive Tool where
  | agentRun
  | agentList
  | agentGet
  | namespaceList
  | namespaceGet
  | agentCapture
  | agentDelete
  | agentLabel
  | mailSend
  | mailRead
  | mailPeek
  | mailCheck
  | mailStopCheck
  | mailTail
  | nudge
  | logs
  | wait
  | doctor
  deriving DecidableEq

/-- The names of the tools. -/
def toolNames : List (String × Tool) :=
  [("agent_run", .agentRun), ("session_run", .agentRun),
    ("agent_list", .agentList), ("session_list", .agentList),
    ("agent_get", .agentGet), ("session_get", .agentGet),
    ("namespace_list", .namespaceList), ("namespace_get", .namespaceGet),
    ("agent_capture", .agentCapture), ("session_capture", .agentCapture),
    ("agent_delete", .agentDelete), ("session_delete", .agentDelete),
    ("agent_label", .agentLabel), ("session_label", .agentLabel),
    ("mail_send", .mailSend), ("mail_read", .mailRead), ("mail_peek", .mailPeek),
    ("mail_check", .mailCheck), ("mail_stop_check", .mailStopCheck), ("mail_tail", .mailTail),
    ("nudge", .nudge), ("logs", .logs), ("wait", .wait), ("doctor", .doctor)]

/-- The handler of each tool. -/
def runTool (context : RequestContext) (arguments : Json) : Tool → HandlerProg Json
  | .agentRun => agentRun config codec context arguments
  | .agentList => agentList config codec context arguments
  | .agentGet => agentGet config codec context arguments
  | .namespaceList => namespaceList config codec context arguments
  | .namespaceGet => namespaceGet config codec context arguments
  | .agentCapture => agentCapture config codec context arguments
  | .agentDelete => agentDelete config codec context arguments
  | .agentLabel => agentLabel config codec context arguments
  | .mailSend => mailSendTool config codec context arguments
  | .mailRead => mailReadTool config codec context
  | .mailPeek => mailPeekTool config codec context arguments
  | .mailCheck => mailCountFromArgs config codec context arguments fun selector =>
      .mailCheck ⟨selector⟩
  | .mailStopCheck => mailCountFromArgs config codec context arguments fun selector =>
      .mailStopCheck ⟨selector⟩
  | .mailTail => mailTailTool config codec context arguments
  | .nudge => nudgeTool config codec context arguments
  | .logs => logsTool config codec context arguments
  | .wait => waitTool config codec context arguments
  | .doctor => doctorTool config codec context

/-- `call_tool`. -/
def callTool (context : RequestContext) (name : String) (arguments : Json) : HandlerProg Json :=
  match toolNames.lookup name with
  | some tool => runTool config codec context arguments tool
  | none => return toolError ("Unknown tool: " ++ name)

end LittleOrgans.Handler
