import LittleOrgans.Handler.Mail
import LittleOrgans.Handler.Spawn

/-!
# Direct requests

Where the decision on a request is made (`authzPlan`), and what answers it. A request whose
plan is at the door is authorized before it is dispatched; every other one authorizes itself
once it knows its resource. Errors become responses here.
-/

set_option autoImplicit false

namespace LittleOrgans.Handler

open LittleOrgans.Core
open LittleOrgans.Library
open LittleOrgans.Identity

variable (config : DaemonConfig)

/-! ## Where a request is authorized -/

inductive AuthzPlan where
  | atDoor (action : Action)
  | downstream
  deriving DecidableEq

/-- `authz_plan`. -/
def authzPlan : SessionRpc → AuthzPlan
  | .list _ => .atDoor .list
  | .namespaceList => .atDoor .list
  | .namespaceGet _ => .atDoor .read
  | .wait _ => .atDoor .read
  | .mailCheck _ => .atDoor .mailRead
  | .mailStopCheck _ => .atDoor .mailRead
  | .namespaceCreate _ => .atDoor .create
  | .spawn _ => .downstream
  | .namespaceDelete _ => .downstream
  | .delete _ => .downstream
  | .mailSend _ => .downstream
  | .mailRead => .downstream
  | .mailPeek _ => .downstream
  | .nudge _ => .downstream
  | .label _ => .downstream
  | .logs _ => .downstream
  | .capture _ => .downstream
  | .doctor => .downstream
  | .callerContext _ _ => .downstream
  | .mcpBridge _ => .downstream
  | .mailTail _ => .downstream
  | .shutdown => .downstream

/-- What is decided before the dispatch. -/
def authorizeAtDoor (context : RequestContext) : AuthzPlan → HandlerProg Unit
  | .atDoor action => authorize config context.principal action .default
  | .downstream => .ret ()

/-! ## Responses -/

def errorResponse (message : String) : HandlerResult := ⟨.error message, false⟩

/-- `response`. -/
def response (shutdownOnSuccess : Bool) : Except Report RpcResponse → HandlerResult
  | .ok response => ⟨response, shutdownOnSuccess⟩
  | .error report => errorResponse report.display

/-- `shutdown`. -/
def shutdown (context : RequestContext) : HandlerProg RpcResponse := do
  authorize config context.principal .daemon .default
  return .shutdown "stopping"

/-- The dispatch of `handle_direct`. -/
def dispatch (context : RequestContext) : SessionRpc → HandlerProg RpcResponse
  | .spawn request => spawn config context request
  | .list request => list request
  | .namespaceCreate request => createNamespace config request
  | .namespaceGet request => getNamespace config request
  | .namespaceList => listNamespaces
  | .namespaceDelete request => deleteNamespace config context request
  | .delete request => delete config context request
  | .mailSend request => mailSend config context request
  | .mailRead => mailRead config context
  | .mailPeek request => mailPeek config context request
  | .mailCheck request => mailCheck request
  | .mailStopCheck request => mailStopCheck request
  | .mailTail request => mailTail config context request
  | .nudge request => nudge config context request
  | .label request => label config context request
  | .logs request => logs config context request
  | .capture request => capture config context request
  | .doctor => doctor config context
  | .wait request => wait request
  | .callerContext _ _ => Prog.bail "nested caller context requests are not supported"
  | .mcpBridge _ => Prog.bail "nested MCP bridge requests are not supported"
  | .shutdown => shutdown config context

/-- The daemon stops behind this request, once it succeeds. -/
def shutdownOnSuccess : SessionRpc → Bool
  | .shutdown => true
  | _ => false

/-- `handle_direct`. -/
def handleDirect (context : RequestContext) (request : SessionRpc) : HandlerProg HandlerResult := do
  match ← (authorizeAtDoor config context (authzPlan request)).attempt with
  | .error report => return response false (.error report)
  | .ok _ =>
      let outcome ← (dispatch config context request).attempt
      return response (shutdownOnSuccess request) outcome

end LittleOrgans.Handler
