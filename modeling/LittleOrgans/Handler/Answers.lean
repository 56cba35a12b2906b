import LittleOrgans.Handler.CompleteMediation

/-!
# Every request is answered

A request that ends has a result: what fails on the way becomes an error response, and never
ends the program. A line of the MCP bridge is answered once, under its own id; only a line
that asks for nothing, a notification, is not. The answer is an error exactly where the line
itself is at fault. What goes wrong in a tool is told in its result.

A line that calls no tool touches nothing.
-/

set_option autoImplicit false

namespace LittleOrgans.Handler

open LittleOrgans.Core
open LittleOrgans.Library
open LittleOrgans.Store
open LittleOrgans.Identity

variable {config : DaemonConfig} {server : McpServer} {context : RequestContext}

/-! ## Answers to a line -/

/-- What is wrong with a request: its method, or the parameters of its tool. -/
def requestFault (request : JsonRpcRequest) : Option JsonRpcError :=
  match mcpRequest request with
  | .error error => some error
  | .ok (.toolsCall params) =>
      match toolCallRequest params with
      | .error error => some error
      | .ok _ => none
  | .ok _ => none

/-- The line that answers a line, if one does. -/
def AnswersLine (text : JsonText) (line : String) (answer : Option String) : Prop :=
  match text.readRequest line with
  | .error error => answer = some (serializeJsonRpcResponse text
      (jsonRpcFailure .null (jsonRpcError (-32700) ("Parse error: " ++ error))))
  | .ok request =>
      if request.isNotification then answer = none
      else ∃ response : JsonRpcResponse, answer = some (serializeJsonRpcResponse text response) ∧
        response.jsonrpc = "2.0" ∧ response.id = request.id.getD .null ∧
        response.error = requestFault request ∧ (response.result = none ↔ response.error ≠ none)

/-- A line that asks for a tool. -/
def CallsTool (text : JsonText) (line : String) : Prop :=
  ∃ request params call, text.readRequest line = .ok request ∧ request.isNotification = false ∧
    mcpRequest request = .ok (.toolsCall params) ∧ toolCallRequest params = .ok call

/-! ## Programs that end with a result -/

/-- Programs may call anything, or nothing at all. -/
abbrev callMonitor : Monitor handlerOps Report where
  State := Prop
  allows may _ := may
  returns _ _ := True
  next may _ _ := may

/-- The program ends with a result that satisfies `Q`, and calls nothing unless it may. -/
def Ends {α : Type} (may : Prop) (p : HandlerProg α) (Q : α → Prop) : Prop :=
  callMonitor.Conforms p may fun r _ => ∃ a, r = .ok a ∧ Q a

section

variable {α β : Type} {may : Prop}

theorem ends_pure {a : α} {Q : α → Prop} (h : Q a) : Ends may (pure a) Q := ⟨a, rfl, h⟩

theorem ends_bind {p : HandlerProg α} {f : α → HandlerProg β} {P : α → Prop} {Q : β → Prop}
    (hp : Ends may p P) (hf : ∀ a, P a → Ends may (f a) Q) : Ends may (p >>= f) Q := by
  -- the monitor never moves on
  suffices hmoves : ∀ {p : HandlerProg α} {may' : Prop}, may' = may → Ends may' p P →
      Ends may' (p >>= f) Q from hmoves rfl hp
  intro p
  induction p with
  | ret a =>
      rintro may' rfl hends
      obtain ⟨a', heq, hP⟩ := hends
      cases heq
      exact hf a hP
  | fail e =>
      rintro may' rfl hends
      obtain ⟨a', heq, -⟩ := hends
      cases heq
  | op o k ih =>
      rintro may' rfl hends
      exact ⟨hends.1, fun r hr => ih r rfl (hends.2 r hr)⟩

/-- An attempt ends with a result, whatever it attempts. -/
theorem ends_attempt (hmay : may) (p : HandlerProg α) : Ends may p.attempt fun _ => True := by
  induction p with
  | ret a => exact ⟨_, rfl, trivial⟩
  | fail e => exact ⟨_, rfl, trivial⟩
  | op o k ih => exact ⟨hmay, fun r _ => ih r⟩

/-- A failure behind an attempt is taken care of. -/
theorem ends_attempt_bind (hmay : may) {p : HandlerProg α} {f : Except Report α → HandlerProg β}
    {Q : β → Prop} (hf : ∀ r, Ends may (f r) Q) : Ends may (p.attempt >>= f) Q :=
  ends_bind (ends_attempt hmay p) fun r _ => hf r

end

/-! ## Requests -/

theorem ends_handleDirect {may : Prop} (hmay : may) (request : SessionRpc) :
    Ends may (handleDirect config context request) fun _ => True := by
  refine ends_attempt_bind hmay fun answer => ?_
  cases answer with
  | error report => exact ends_pure trivial
  | ok u => exact ends_attempt_bind hmay fun outcome => ends_pure trivial

theorem ends_handleCallerContext {may : Prop} (hmay : may) (callerText : String)
    (request : SessionRpc) :
    Ends may (handleCallerContext config context callerText request) fun _ => True := by
  rw [handleCallerContext]
  cases withCallerSessionId config context callerText "caller session id" with
  | error message => exact ends_pure trivial
  | ok context =>
      by_cases hnested : request.isNested = true
      · simp only [hnested, if_true]
        exact ends_pure trivial
      · simp only [hnested]
        exact ends_handleDirect hmay request

/-- The answer to a method is an error where the request is at fault, and only there. -/
theorem ends_handleMethod {request : JsonRpcRequest} {may : Prop}
    (hmay : ∀ params call, mcpRequest request = .ok (.toolsCall params) →
      toolCallRequest params = .ok call → may) :
    Ends may (handleMethod config server context (mcpRequest request)) fun answer =>
      ∀ error, answer = .error error ↔ requestFault request = some error := by
  rw [requestFault]
  cases hmethod : mcpRequest request with
  | error fault =>
      refine ends_pure fun error => ⟨fun h => ?_, fun h => ?_⟩
      · cases h
        rfl
      · cases h
        rfl
  | ok method =>
      cases method with
      | toolsCall params =>
          rw [handleMethod, handleToolCall]
          dsimp only
          cases hcall : toolCallRequest params with
          | error fault =>
              refine ends_pure fun error => ⟨fun h => ?_, fun h => ?_⟩
              · cases h
                rfl
              · cases h
                rfl
          | ok call =>
              refine ends_attempt_bind (hmay params call hmethod hcall) fun outcome => ?_
              exact ends_pure fun error => ⟨fun h => (by cases h), fun h => (by cases h)⟩
      | _ => exact ends_pure fun error => ⟨fun h => (by cases h), fun h => (by cases h)⟩

/-- The response to a request that is no notification. -/
theorem answers_jsonRpcResponse {request : JsonRpcRequest} {answer : Except JsonRpcError Json}
    (h : ∀ error, answer = .error error ↔ requestFault request = some error) (id : Json) :
    (jsonRpcResponseFromResult id answer).error = requestFault request ∧
      ((jsonRpcResponseFromResult id answer).result = none ↔
        (jsonRpcResponseFromResult id answer).error ≠ none) := by
  cases answer with
  | error error =>
      rw [(h error).mp rfl]
      exact ⟨rfl, iff_of_true rfl (Option.some_ne_none error)⟩
  | ok value =>
      have hfault : requestFault request = none := by
        rw [Option.eq_none_iff_forall_ne_some]
        intro error hfault
        cases (h error).mpr hfault
      rw [hfault]
      exact ⟨rfl, iff_of_false (Option.some_ne_none value) fun hne => hne rfl⟩

theorem ends_handleLine {may : Prop} {line : String} (hmay : CallsTool server.text line → may) :
    Ends may (handleLine config server context line) (AnswersLine server.text line) := by
  rw [handleLine, parseJsonRpcLine]
  -- a line that is no request is answered with a parse error
  cases hread : server.text.readRequest line with
  | error error =>
      refine ends_pure ?_
      rw [AnswersLine, hread]
  | ok request =>
      have hparse : Except.mapError (fun error => jsonRpcFailure .null
          (jsonRpcError (-32700) ("Parse error: " ++ error))) (.ok request : Except String _) =
            .ok request := rfl
      rw [hparse]
      dsimp only
      rw [handleRequest, prepareMcpRequest]
      -- a notification is not answered
      cases hnotification : request.isNotification with
      | true =>
          refine ends_pure ?_
          rw [AnswersLine, hread]
          simp only [hnotification, if_true]
          rfl
      | false =>
          simp only [if_neg Bool.false_ne_true]
          have hcalls : ∀ params call, mcpRequest request = .ok (.toolsCall params) →
              toolCallRequest params = .ok call → may := fun params call hmethod hcall =>
            hmay ⟨request, params, call, hread, hnotification, hmethod, hcall⟩
          -- any other request is answered under its own id, with a result or an error
          have hresponse : Ends may (do
              let result ← handleMethod config server context (mcpRequest request)
              pure (some (jsonRpcResponseFromResult (request.id.getD .null) result)))
              fun response => ∃ found : JsonRpcResponse, response = some found ∧
                found.jsonrpc = "2.0" ∧ found.id = request.id.getD .null ∧
                found.error = requestFault request ∧
                (found.result = none ↔ found.error ≠ none) := by
            refine ends_bind (ends_handleMethod hcalls) fun answer hanswer => ?_
            refine ends_pure ⟨_, rfl, ?_, ?_, answers_jsonRpcResponse hanswer _⟩
            · cases answer <;> rfl
            · cases answer <;> rfl
          refine ends_bind hresponse fun response h => ?_
          obtain ⟨found, rfl, hfound⟩ := h
          refine ends_pure ?_
          rw [AnswersLine, hread]
          simp only [hnotification, if_neg Bool.false_ne_true]
          exact ⟨found, rfl, hfound⟩

/-! ## The daemon -/

/-- What a request is answered. -/
def AnswersRequest (config : DaemonConfig) (server : McpServer) (principal : Principal)
    (rpc : SessionRpc) (result : HandlerResult) : Prop :=
  match rpc with
  | .mcpBridge request =>
      match mcpContext config ⟨principal, none⟩ request with
      | .error message => result = errorResponse message
      | .ok _ => ∃ answer, result = ⟨.mcpBridge answer, false⟩ ∧
          AnswersLine server.text request.line answer
  | _ => True

/-- The requests that may do something: all but the lines that call no tool. -/
def MayCall (server : McpServer) : Origin → Prop
  | .request _ (.mcpBridge request) => CallsTool server.text request.line
  | _ => True

theorem ends_handleRpc (principal : Principal) (rpc : SessionRpc) :
    Ends (MayCall server (.request principal rpc)) (handleRpc config server principal rpc)
      (AnswersRequest config server principal rpc) := by
  cases rpc with
  | callerContext callerText request => exact ends_handleCallerContext trivial callerText request
  | mcpBridge request =>
      rw [handleRpc, handle, handleMcpBridge]
      cases hcontext : mcpContext config ⟨principal, none⟩ request with
      | error message =>
          refine ends_pure ?_
          rw [AnswersRequest, hcontext]
      | ok context =>
          refine ends_bind (ends_handleLine fun hcalls => hcalls) fun answer hanswer => ?_
          refine ends_pure ?_
          rw [AnswersRequest, hcontext]
          exact ⟨answer, rfl, hanswer⟩
  | _ => exact ends_handleDirect trivial _

/-- What the end of a program says. -/
def Origin.Answered (config : DaemonConfig) (server : McpServer) (origin : Origin)
    (r : Except Report (Option HandlerResult)) : Prop :=
  match origin with
  | .request principal rpc =>
      ∃ result, r = .ok (some result) ∧ AnswersRequest config server principal rpc result
  | _ => True

theorem conforms_program (origin : Origin) :
    callMonitor.Conforms (origin.program config server) (MayCall server origin)
      fun r _ => origin.Answered config server r := by
  have hanything : ∀ {may : Prop} (p : HandlerProg (Option HandlerResult)), may →
      callMonitor.Conforms p may fun _ _ => True := by
    intro may p hmay
    refine Monitor.conforms_of_calls (P := fun _ => True) ?_ (fun _ _ => hmay) (fun _ _ _ => rfl)
      fun _ => trivial
    induction p with
    | ret a => trivial
    | fail e => trivial
    | op o k ih => exact ⟨trivial, ih⟩
  cases origin with
  | request principal rpc =>
      have hanswering : Ends (MayCall server (.request principal rpc))
          (answering (handleRpc config server principal rpc)) fun answer =>
            ∃ result, answer = some result ∧ AnswersRequest config server principal rpc result :=
        ends_bind (ends_handleRpc principal rpc) fun result h => ends_pure ⟨result, rfl, h⟩
      refine Monitor.Conforms.mono hanswering fun r _ h => ?_
      obtain ⟨answer, rfl, result, rfl, hresult⟩ := h
      exact ⟨result, rfl, hresult⟩
  | _ => exact hanything _ trivial

/-- The programs of the daemon, followed to their answers. -/
abbrev answerWatch (config : DaemonConfig) (server : McpServer) :
    Watch (sessionDaemon config server) where
  monitor := callMonitor
  first := MayCall server
  post origin r _ := origin.Answered config server r
  conforms := conforms_program
  returns _ := trivial

/-- The monitor of a thread stays with what its origin may do. -/
def KnowsOrigin (server : McpServer) (_ : DaemonStore)
    (minds : Nat → Option (Origin × Prop)) : Prop :=
  ∀ t origin may, minds t = some (origin, may) → may = MayCall server origin

theorem invariant_knowsOrigin : Pool.Invariant (answerWatch config server)
    (.none (answerWatch config server)) (KnowsOrigin server) where
  op := by
    intro s minds t origin may choice o r s' hminds hmind _ _ _ t' origin' may' hmind'
    rcases Pool.of_update hmind' with ⟨rfl, heq⟩ | ⟨-, hother⟩
    · cases heq
      exact hminds t' origin may hmind
    · exact hminds t' origin' may' hother
  start := by
    intro s minds t origin s' hminds _ _ _ t' origin' may' hmind'
    rcases Pool.of_update hmind' with ⟨rfl, heq⟩ | ⟨-, hother⟩
    · cases heq
      rfl
    · exact hminds t' origin' may' hother
  env h _ _ := h
  crash _ _ := by
    intro t origin may hmind
    cases hmind

def pingLine : String := "\x7b\"jsonrpc\":\"2.0\",\"id\":1,\"method\":\"ping\"\x7d"

def pongLine : String := "\x7b\"jsonrpc\":\"2.0\",\"id\":1,\"result\":\x7b\x7d\x7d"

/-- A server that reads the ping and writes its answer. -/
def pingServer : McpServer :=
  { sampleServer with text := { sampleServer.text with
      readRequest := fun line =>
        if line = pingLine then .ok ⟨"2.0", some (.number (.posInt 1)), "ping", none⟩
        else .error "expected value at line 1 column 1"
      writeResponse := fun _ => .ok pongLine } }

end LittleOrgans.Handler
