import LittleOrgans.Handler.Tools
import LittleOrgans.Library.Pool

/-!
# The session daemon

A request as the socket hands it over: directly, in the name of a session, or as a line of
the MCP bridge. `sessionDaemon` is the machine: any number of requests beside the two
background tasks and the reconciliation of pending intents, with a runtime that writes its
lifecycles and with other writers of the audit log.
-/

set_option autoImplicit false

namespace LittleOrgans.Handler

open LittleOrgans.Core
open LittleOrgans.Library
open LittleOrgans.Store
open LittleOrgans.Identity

/-- A tool as the server describes it. -/
structure ToolContract where
  name : String
  mcpDescription : String

/-- What the MCP server is generated from. -/
structure McpServer where
  text : JsonText
  codec : ToolCodec
  version : String
  tools : List ToolContract
  toolListValue : Json

variable (config : DaemonConfig) (server : McpServer)

/-! ## The MCP bridge -/

/-- `server_instructions`. -/
def serverInstructions : String :=
  "session-matters controls local Helioy agent sessions.\n\n" ++
    "\n".intercalate (server.tools.map fun tool => "- " ++ tool.name ++ ": " ++ tool.mcpDescription)

/-- `initialize_result`. -/
def initializeResult : Json :=
  .object [("protocolVersion", .string MCP_PROTOCOL_VERSION),
    ("capabilities", .object [("tools", .emptyObject)]),
    ("serverInfo", .object [("name", .string "sm"), ("version", .string server.version)]),
    ("instructions", .string (serverInstructions server))]

/-- The result of a tool; its error is a result too. -/
def toolResult : Except Report Json → Json
  | .ok value => value
  | .error report => toolError report.text

/-- `handle_tool_call`. -/
def handleToolCall (context : RequestContext) (params : Option Json) :
    HandlerProg (Except JsonRpcError Json) :=
  match toolCallRequest params with
  | .error error => return .error error
  | .ok call => do
      let outcome ← (callTool config server.codec context call.name call.arguments).attempt
      return .ok (toolResult outcome)

/-- The method of a request. -/
def handleMethod (context : RequestContext) :
    Except JsonRpcError McpRequest → HandlerProg (Except JsonRpcError Json)
  | .ok .initialize_ => return .ok (initializeResult server)
  | .ok .ping => return .ok .emptyObject
  | .ok .toolsList => return .ok server.toolListValue
  | .ok (.toolsCall params) => handleToolCall config server context params
  | .error error => return .error error

/-- `handle_request`. -/
def handleRequest (context : RequestContext) (request : JsonRpcRequest) :
    HandlerProg (Option JsonRpcResponse) :=
  match prepareMcpRequest request with
  | none => return none
  | some prepared => do
      let result ← handleMethod config server context prepared.2
      return some (jsonRpcResponseFromResult prepared.1 result)

/-- `handle_line`. -/
def handleLine (context : RequestContext) (line : String) : HandlerProg (Option String) :=
  match parseJsonRpcLine server.text line with
  | .error response => return some (serializeJsonRpcResponse server.text response)
  | .ok request => do
      let response ← handleRequest config server context request
      return response.map (serializeJsonRpcResponse server.text)

/-! ## Requests from the socket -/

/-- `with_caller_session_id`. -/
def withCallerSessionId (context : RequestContext) (raw label : String) :
    Except String RequestContext :=
  ((parseSessionId config raw).map context.withCallerSessionId).mapError fun error =>
    "invalid " ++ label ++ ": " ++ error

/-- A request that sets a caller session itself. -/
def SessionRpc.isNested : SessionRpc → Bool
  | .callerContext _ _ => true
  | .mcpBridge _ => true
  | _ => false

/-- A request in the name of a session. -/
def handleCallerContext (context : RequestContext) (callerSessionId : String)
    (request : SessionRpc) : HandlerProg HandlerResult :=
  match withCallerSessionId config context callerSessionId "caller session id" with
  | .error message => return errorResponse message
  | .ok context =>
      if request.isNested then
        return errorResponse "nested caller context requests are not supported"
      else handleDirect config context request

/-- The context of a line of the MCP bridge. -/
def mcpContext (context : RequestContext) (request : McpBridgeRequest) :
    Except String RequestContext :=
  match request.callerSessionId with
  | none => .ok context
  | some raw => withCallerSessionId config context raw "MCP caller session id"

/-- A line of the MCP bridge. -/
def handleMcpBridge (context : RequestContext) (request : McpBridgeRequest) :
    HandlerProg HandlerResult :=
  match mcpContext config context request with
  | .error message => return errorResponse message
  | .ok context => do
      let line ← handleLine config server context request.line
      return ⟨.mcpBridge line, false⟩

/-- `handle`. -/
def handle (context : RequestContext) (request : SessionRpc) : HandlerProg HandlerResult :=
  match request with
  | .callerContext callerSessionId request =>
      handleCallerContext config context callerSessionId request
  | .mcpBridge request => handleMcpBridge config server context request
  | request => handleDirect config context request

/-- `handle_rpc`. -/
def handleRpc (principal : Principal) (request : SessionRpc) : HandlerProg HandlerResult :=
  handle config server ⟨principal, none⟩ request

/-! ## The machine -/

/-- What a program of the daemon is started for. -/
inductive Origin where
  | request (principal : Principal) (rpc : SessionRpc)
  /-- One round of the lifecycle task. -/
  | refreshExits
  | reconcilePendingSpawnIntents
  /-- The event task. -/
  | runEventLoop (rounds : Nat)

/-- A background task, which has no result. -/
def background (task : HandlerProg Unit) : HandlerProg (Option HandlerResult) := do
  task
  return none

/-- A request, which has one. -/
def answering (request : HandlerProg HandlerResult) : HandlerProg (Option HandlerResult) := do
  let result ← request
  return some result

def Origin.program : Origin → HandlerProg (Option HandlerResult)
  | .request principal rpc => answering (handleRpc config server principal rpc)
  | .refreshExits => background Handler.refreshExits
  | .reconcilePendingSpawnIntents => background Handler.reconcilePendingSpawnIntents
  | .runEventLoop rounds => background (Handler.runEventLoop rounds)

/-- What happens to the store by itself. -/
inductive DaemonEvent where
  /-- The runtime writes its lifecycles. -/
  | lifecycles (table : Table SessionId LifecycleRow)
  /-- Another service of the process records a decision. -/
  | decided (row : AuditRow)

/-- Every service decides by the rule of version 1. -/
def DaemonEvent.run (s : DaemonStore) : DaemonEvent → Option DaemonStore
  | .lifecycles table => some (s.withLifecycles (some table))
  | .decided row =>
      if row.decision = AuditDecision.evaluateLocal row.principal config.localUid then
        some (s.record row)
      else none

/-- The session daemon. A crash ends every program and leaves the store. -/
abbrev sessionDaemon : Machine handlerOps Report where
  Shared := DaemonStore
  Choice := Choice
  Origin := Origin
  Env := DaemonEvent
  Result := Option HandlerResult
  exec := HandlerOp.exec
  start _ s := some s
  program := Origin.program config server
  env event s := event.run config s
  crash s := s

end LittleOrgans.Handler
