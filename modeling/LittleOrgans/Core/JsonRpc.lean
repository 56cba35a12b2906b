import LittleOrgans.Core.Json
import Mathlib.Data.Option.Basic

/-!
# JSON-RPC of the MCP bridges

Requests and responses of `lilo-rm-core`'s `mcp.rs`, which both daemons serve: how a line
is read, which method a request asks for, and the results and errors that go back. A method
below `notifications/` gets no response.

Reading and writing JSON texts is left to `JsonText`.
-/

set_option autoImplicit false

namespace LittleOrgans.Core

/-- The version of the protocol the bridge speaks. -/
def MCP_PROTOCOL_VERSION : String := "2025-06-18"

/-- A request, as a client sends it. -/
structure JsonRpcRequest where
  jsonrpc : String
  id : Option Json
  method : String
  params : Option Json

/-- An error, as a reply carries it. -/
structure JsonRpcError where
  code : Int
  message : String
  data : Option Json

/-- A reply: a result or an error, under the id of its request. -/
structure JsonRpcResponse where
  jsonrpc : String
  id : Json
  result : Option Json
  error : Option JsonRpcError

/-- The requests of the protocol that the bridge answers. -/
inductive McpRequest where
  | initialize_
  | ping
  | toolsList
  | toolsCall (params : Option Json)

/-- A call of a tool, with its arguments. -/
structure ToolCallRequest where
  name : String
  arguments : Json

/-- The texts of JSON-RPC values: `serde_json::from_str` and `serde_json::to_string`. -/
structure JsonText where
  readRequest : String → Except String JsonRpcRequest
  writeResponse : JsonRpcResponse → Except String String
  writeValue : Json → String

/-! ## Results and errors -/

/-- The reply with a result. -/
def jsonRpcResult (id result : Json) : JsonRpcResponse := ⟨"2.0", id, some result, none⟩

/-- The reply with an error. -/
def jsonRpcFailure (id : Json) (error : JsonRpcError) : JsonRpcResponse :=
  ⟨"2.0", id, none, some error⟩

/-- An error without further data. -/
def jsonRpcError (code : Int) (message : String) : JsonRpcError := ⟨code, message, none⟩

/-- The reply to a request that was handled. -/
def jsonRpcResponseFromResult (id : Json) : Except JsonRpcError Json → JsonRpcResponse
  | .ok result => jsonRpcResult id result
  | .error error => jsonRpcFailure id error

/-- A number that an object carries. -/
def Json.ofInt (n : Int) : Json :=
  if 0 ≤ n then .number (.posInt (UInt64.ofNat n.toNat)) else .number (.negInt (Int64.ofInt n))

/-- The object that is sent where a response cannot be written. -/
def serializationFailure (id : Json) (error : String) : Json :=
  .object [("jsonrpc", .string "2.0"), ("id", id),
    ("error", .object [("code", .ofInt (-32603)),
      ("message", .string ("failed to serialize response: " ++ error))])]

/-- `serialize_json_rpc_response`. -/
def serializeJsonRpcResponse (text : JsonText) (response : JsonRpcResponse) : String :=
  match text.writeResponse response with
  | .ok line => line
  | .error error => text.writeValue (serializationFailure response.id error)

/-! ## Requests -/

/-- `parse_json_rpc_line`. -/
def parseJsonRpcLine (text : JsonText) (line : String) : Except JsonRpcResponse JsonRpcRequest :=
  (text.readRequest line).mapError fun error =>
    jsonRpcFailure .null (jsonRpcError (-32700) ("Parse error: " ++ error))

/-- What the method of a notification begins with. -/
def NOTIFICATIONS : String := "notifications/"

/-- A request that wants no response. -/
def JsonRpcRequest.isNotification (request : JsonRpcRequest) : Bool :=
  NOTIFICATIONS.toList.isPrefixOf request.method.toList

/-- The method of a request. -/
def mcpRequest (request : JsonRpcRequest) : Except JsonRpcError McpRequest :=
  if request.method = "initialize" then .ok .initialize_
  else if request.method = "ping" then .ok .ping
  else if request.method = "tools/list" then .ok .toolsList
  else if request.method = "tools/call" then .ok (.toolsCall request.params)
  else .error (jsonRpcError (-32601) ("Method not found: " ++ request.method))

/-- `prepare_mcp_request`. -/
def prepareMcpRequest (request : JsonRpcRequest) :
    Option (Json × Except JsonRpcError McpRequest) :=
  if request.isNotification then none else some (request.id.getD .null, mcpRequest request)

/-- `tool_call_request`. -/
def toolCallRequest (params : Option Json) : Except JsonRpcError ToolCallRequest :=
  match params with
  | none => .error (jsonRpcError (-32602) "Missing params")
  | some params =>
      match (params.get "name").bind Json.asStr with
      | none => .error (jsonRpcError (-32602) "Missing tool name")
      | some name => .ok ⟨name, (params.get "arguments").getD .emptyObject⟩

/-! ## Results of tools -/

/-- The text part of a tool's result. -/
def textContent (text : String) : Json :=
  .array [.object [("type", .string "text"), ("text", .string text)]]

/-- A tool call that went well. -/
def toolSuccess (text : String) (structured : Json) : Json :=
  .object [("content", textContent text), ("structuredContent", structured)]

/-- A tool call that failed; the error stands under the key of the server. -/
def toolErrorWithMetaKey (metaKey message : String) : Json :=
  .object [("content", textContent ("ERROR: " ++ message)),
    ("_meta", .object
      [(metaKey, .object [("is_error", .bool true), ("message", .string message)])])]

end LittleOrgans.Core
