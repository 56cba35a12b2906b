import LittleOrgans.Handler.MailActs
import LittleOrgans.Handler.SpawnActs

/-!
# The daemon within the policy

Every program of the daemon is mediated: a direct request, which is authorized at the door or
by itself, a tool of the MCP bridge, which makes one direct request, and the background tasks,
which act for the daemon (`acts_program`).
-/

set_option autoImplicit false

namespace LittleOrgans.Handler

open LittleOrgans.Core
open LittleOrgans.Library
open LittleOrgans.Store
open LittleOrgans.Identity

variable {config : DaemonConfig} {codec : ToolCodec} {server : McpServer} {x : Subject}
  {φ : Set Grant} {principal : Principal} {callerSessionId : Option SessionId}

/-! ## Direct requests -/

/-- What a request that is authorized at the door goes on with. -/
def AtDoor (x : Subject) (φ : Set Grant) : AuthzPlan → Prop
  | .atDoor action => Allowed x φ action .default
  | .downstream => True

theorem acts_authorizeAtDoor (plan : AuthzPlan) :
    Acts config (.caller principal) φ
      (authorizeAtDoor config ⟨principal, callerSessionId⟩ plan) fun _ χ =>
        AtDoor (.caller principal) χ plan := by
  cases plan with
  | atDoor action => exact acts_authorize principal action .default
  | downstream => exact Policy.mediated_ret trivial

/-- One case for each request; those that were authorized at the door use that. -/
theorem acts_dispatch {request : SessionRpc}
    (hdoor : AtDoor (.caller principal) φ (authzPlan request)) :
    Acts config (.caller principal) φ (dispatch config ⟨principal, callerSessionId⟩ request)
      fun response χ => Justified (.caller principal) χ response := by
  cases request with
  | spawn request => exact acts_spawn rfl request
  | list request => exact acts_list hdoor request
  | namespaceCreate request => exact acts_createNamespace hdoor request
  | namespaceGet request => exact acts_getNamespace hdoor request
  | namespaceList => exact acts_listNamespaces hdoor
  | namespaceDelete request => exact acts_deleteNamespace request
  | delete request => exact acts_delete request
  | mailSend request => exact acts_mailSend request
  | mailRead => exact acts_mailRead
  | mailPeek request => exact acts_mailPeek request
  | mailCheck request => exact acts_mailCheck hdoor request
  | mailStopCheck request => exact acts_mailStopCheck hdoor request
  | mailTail request => exact acts_mailTail request
  | nudge request => exact acts_nudge request
  | label request => exact acts_label request
  | logs request => exact acts_logs request
  | capture request => exact acts_capture request
  | doctor => exact acts_doctor
  | wait request => exact acts_wait hdoor request
  | callerContext callerSessionId request => exact acts_bail
  | mcpBridge request => exact acts_bail
  | shutdown => exact acts_shutdown

/-- The result of a request, with what its response rests on. -/
def JustifiedResult (x : Subject) (φ : Set Grant) (result : HandlerResult) : Prop :=
  Justified x φ result.response ∧ (result.shutdown = true → Allowed x φ .daemon .default)

theorem justifiedResult_errorResponse (message : String) :
    JustifiedResult x φ (errorResponse message) :=
  ⟨trivial, fun hstops => by cases hstops⟩

/-- Only a shutdown that succeeds stops the daemon, and it was allowed to. -/
theorem justifiedResult_response {request : SessionRpc} {outcome : Except Report RpcResponse}
    (h : ∀ response, outcome = .ok response → Justified x φ response ∧
      (shutdownOnSuccess request = true → Allowed x φ .daemon .default)) :
    JustifiedResult x φ (response (shutdownOnSuccess request) outcome) := by
  cases outcome with
  | ok answer => exact h answer rfl
  | error report => exact justifiedResult_errorResponse report.display

theorem acts_handleDirect (request : SessionRpc) :
    Acts config (.caller principal) φ (handleDirect config ⟨principal, callerSessionId⟩ request)
      fun result χ => JustifiedResult (.caller principal) χ result := by
  refine acts_bind (acts_authorizeAtDoor (authzPlan request)).attempt fun door χ hχ hdoor => ?_
  cases door with
  | error report => exact Policy.mediated_pure (justifiedResult_errorResponse report.display)
  | ok u =>
      have hdispatch : Acts config (.caller principal) χ
          (dispatch config ⟨principal, callerSessionId⟩ request) fun response ψ =>
            Justified (.caller principal) ψ response ∧
              (shutdownOnSuccess request = true →
                Allowed (.caller principal) ψ .daemon .default) := by
        by_cases hstops : shutdownOnSuccess request = true
        · -- a shutdown authorizes itself
          cases request with
          | shutdown =>
              exact acts_bind (acts_authorize principal .daemon .default) fun _ _ _ hdaemon =>
                Policy.mediated_pure ⟨hdaemon, fun _ => hdaemon⟩
          | _ => cases hstops
        · exact (acts_dispatch (hdoor u rfl)).weaken fun _ _ _ hresponse =>
            ⟨hresponse, fun h => absurd h hstops⟩
      refine acts_bind hdispatch.attempt fun outcome χ₁ hχ₁ houtcome => ?_
      exact Policy.mediated_pure (justifiedResult_response houtcome)

/-! ## Tools -/

theorem acts_callerNamespace (context : RequestContext) :
    Acts config x φ (callerNamespace context) fun _ _ => True := by
  rw [callerNamespace]
  cases context.callerSessionId with
  | none => exact Policy.mediated_pure trivial
  | some id =>
      exact acts_bind (acts_context _ (acts_store trivial)) fun _ _ _ _ =>
        Policy.mediated_pure trivial

theorem acts_readNamespaceScope (context : RequestContext) (arguments : Json) :
    Acts config x φ (readNamespaceScope config context arguments) fun _ _ => True := by
  rw [readNamespaceScope]
  split
  · exact Policy.mediated_pure trivial
  · cases optionalString arguments "namespace" with
    | some raw => exact acts_bind acts_ofExcept fun _ _ _ _ => Policy.mediated_pure trivial
    | none =>
        exact acts_bind (acts_callerNamespace context) fun _ _ _ _ => Policy.mediated_pure trivial

theorem acts_scopedOptionalSelector (context : RequestContext) (arguments : Json)
    (selector : Option Selector) :
    Acts config x φ (scopedOptionalSelector config context arguments selector) fun _ _ => True := by
  refine acts_bind (acts_readNamespaceScope context arguments) fun scope χ hχ _ => ?_
  cases scope with
  | none => exact Policy.mediated_pure trivial
  | some scope => exact acts_bind acts_ofExcept fun _ _ _ _ => Policy.mediated_pure trivial

theorem acts_scopedRequiredSelector (context : RequestContext) (arguments : Json)
    (selector : Selector) :
    Acts config x φ (scopedRequiredSelector config context arguments selector) fun _ _ => True :=
  acts_bind (acts_scopedOptionalSelector context arguments (some selector)) fun _ _ _ _ =>
    Policy.Mediated.toTrue acts_required

theorem acts_ask (request : SessionRpc) (answer : RpcResponse → Except Report Json) :
    Acts config (.caller principal) φ (ask config ⟨principal, callerSessionId⟩ request answer)
      fun _ _ => True :=
  acts_bind (acts_handleDirect request) fun _ _ _ _ => Policy.Mediated.toTrue acts_ofExcept

/-- A tool that confines its selector and asks with it. -/
theorem acts_askScoped {selector : Except Report Selector} (arguments : Json)
    (request : Selector → SessionRpc) (answer : RpcResponse → Except Report Json) :
    Acts config (.caller principal) φ (do
        let selector ← Prog.ofExcept selector
        let confined ← scopedRequiredSelector config ⟨principal, callerSessionId⟩ arguments selector
        ask config ⟨principal, callerSessionId⟩ (request confined) answer) fun _ _ => True :=
  acts_bind acts_ofExcept fun selector _ _ _ =>
    acts_bind (acts_scopedRequiredSelector _ arguments selector) fun _ _ _ _ => acts_ask _ answer

theorem acts_requestedAgentConfig (arguments : Json) (dir : String) :
    Acts config x φ (requestedAgentConfig arguments dir) fun _ _ => True := by
  rw [requestedAgentConfig]
  cases optionalString arguments "agent_config" with
  | none => exact Policy.mediated_pure trivial
  | some value =>
      by_cases hpath : isAgentConfigPathLike value = true
      · simp only [hpath, if_true]
        exact acts_bind (acts_host trivial) fun _ _ _ _ => Policy.mediated_pure trivial
      · simp only [hpath]
        exact Policy.mediated_pure trivial

theorem acts_agentRun (arguments : Json) :
    Acts config (.caller principal) φ (agentRun config codec ⟨principal, callerSessionId⟩ arguments)
      fun _ _ => True := by
  refine acts_bind acts_ofExcept fun runtimeText χ₁ _ _ => ?_
  refine acts_bind acts_ofExcept fun runtime χ₂ _ _ => ?_
  refine acts_bind acts_ofExcept fun role χ₃ _ _ => ?_
  refine acts_bind acts_ofExcept fun dir χ₄ _ _ => ?_
  refine acts_bind acts_ofExcept fun namespaceSlug χ₅ _ _ => ?_
  refine acts_bind acts_ofExcept fun labels χ₆ _ _ => ?_
  refine acts_bind (acts_requestedAgentConfig arguments dir) fun agentConfig χ₇ _ _ => ?_
  refine acts_bind acts_ofExcept fun isolation χ₈ _ _ => ?_
  refine acts_bind acts_ofExcept fun mounts χ₉ _ _ => ?_
  refine acts_bind acts_ofExcept fun _ χ₁₀ _ _ => ?_
  exact acts_ask _ _

theorem acts_agentCapture (arguments : Json) :
    Acts config (.caller principal) φ
      (agentCapture config codec ⟨principal, callerSessionId⟩ arguments) fun _ _ => True := by
  refine acts_bind acts_ofExcept fun id χ₁ _ _ => ?_
  refine acts_bind acts_ofExcept fun selector χ₂ _ _ => ?_
  refine acts_bind (acts_scopedRequiredSelector _ arguments selector) fun confined χ₃ _ _ => ?_
  refine acts_bind (acts_resolveSelector confined "capture") fun sessions χ₄ _ _ => ?_
  refine acts_bind acts_required fun session χ₅ _ _ => ?_
  refine acts_bind acts_ofExcept fun lines χ₆ _ _ => ?_
  exact acts_ask _ _

theorem acts_mailSendTool (arguments : Json) :
    Acts config (.caller principal) φ
      (mailSendTool config codec ⟨principal, callerSessionId⟩ arguments) fun _ _ => True := by
  refine acts_bind acts_ofExcept fun selector χ₁ _ _ => ?_
  refine acts_bind (acts_scopedRequiredSelector _ arguments selector) fun confined χ₂ _ _ => ?_
  refine acts_bind acts_ofExcept fun notify χ₃ _ _ => ?_
  refine acts_bind acts_ofExcept fun timeoutMs χ₄ _ _ => ?_
  refine acts_bind acts_ofExcept fun _ χ₅ _ _ => ?_
  refine acts_bind acts_ofExcept fun content χ₆ _ _ => ?_
  refine acts_bind acts_ofExcept fun contextId χ₇ _ _ => ?_
  refine acts_bind acts_ofExcept fun intent χ₈ _ _ => ?_
  exact acts_ask _ _

theorem acts_observationFilter (context : RequestContext) (arguments : Json) :
    Acts config x φ (observationFilter config context arguments) fun _ _ => True := by
  refine acts_bind acts_ofExcept fun selector χ₁ _ _ => ?_
  refine acts_bind acts_ofExcept fun recipient χ₂ _ _ => ?_
  refine acts_bind (acts_scopedOptionalSelector context arguments selector)
    fun confined χ₃ _ _ => ?_
  have hrecipient : Acts config x χ₃ (observedRecipient config context arguments recipient)
      fun _ _ => True := by
    cases recipient with
    | none => exact Policy.mediated_pure trivial
    | some recipient => exact acts_scopedOptionalSelector context arguments (some recipient)
  exact acts_bind hrecipient fun _ _ _ _ => Policy.mediated_pure trivial

/-- One case for each tool. -/
theorem acts_runTool (arguments : Json) (tool : Tool) :
    Acts config (.caller principal) φ
      (runTool config codec ⟨principal, callerSessionId⟩ arguments tool) fun _ _ => True := by
  cases tool with
  | agentRun => exact acts_agentRun arguments
  | agentList =>
      refine acts_bind acts_ofExcept fun selector χ₁ _ _ => ?_
      refine acts_bind (acts_scopedOptionalSelector _ arguments selector) fun confined χ₂ _ _ => ?_
      exact acts_ask _ _
  | agentGet =>
      refine acts_bind acts_ofExcept fun id χ₁ _ _ => ?_
      exact acts_askScoped arguments _ _
  | namespaceList =>
      rw [runTool, namespaceList]
      cases optionalString arguments "slug" with
      | some slug => exact acts_ask _ _
      | none => exact acts_ask _ _
  | namespaceGet => exact acts_bind acts_ofExcept fun _ _ _ _ => acts_ask _ _
  | agentCapture => exact acts_agentCapture arguments
  | agentDelete => exact acts_bind acts_ofExcept fun _ _ _ _ => acts_ask _ _
  | agentLabel =>
      refine acts_bind acts_ofExcept fun selector χ₁ _ _ => ?_
      refine acts_bind acts_ofExcept fun text χ₂ _ _ => ?_
      exact acts_bind acts_ofExcept fun _ _ _ _ => acts_ask _ _
  | mailSend => exact acts_mailSendTool arguments
  | mailRead => exact acts_ask _ _
  | mailPeek => exact acts_bind (acts_observationFilter _ arguments) fun _ _ _ _ => acts_ask _ _
  | mailCheck => exact acts_askScoped arguments _ _
  | mailStopCheck => exact acts_askScoped arguments _ _
  | mailTail => exact acts_bind (acts_observationFilter _ arguments) fun _ _ _ _ => acts_ask _ _
  | nudge =>
      refine acts_bind acts_ofExcept fun selector χ₁ _ _ => ?_
      refine acts_bind (acts_scopedRequiredSelector _ arguments selector) fun confined χ₂ _ _ => ?_
      exact acts_bind acts_ofExcept fun _ _ _ _ => acts_ask _ _
  | logs => exact acts_askScoped arguments _ _
  | wait =>
      refine acts_bind acts_ofExcept fun text χ₁ _ _ => ?_
      refine acts_bind acts_ofExcept fun condition χ₂ _ _ => ?_
      exact acts_askScoped arguments _ _
  | doctor => exact acts_ask _ _

theorem acts_callTool (name : String) (arguments : Json) :
    Acts config (.caller principal) φ
      (callTool config codec ⟨principal, callerSessionId⟩ name arguments) fun _ _ => True := by
  rw [callTool]
  cases toolNames.lookup name with
  | some tool => exact acts_runTool arguments tool
  | none => exact Policy.mediated_pure trivial

/-! ## The MCP bridge -/

theorem acts_handleMethod (request : Except JsonRpcError McpRequest) :
    Acts config (.caller principal) φ
      (handleMethod config server ⟨principal, callerSessionId⟩ request) fun _ _ => True := by
  cases request with
  | error error => exact Policy.mediated_pure trivial
  | ok request =>
      cases request with
      | initialize_ => exact Policy.mediated_pure trivial
      | ping => exact Policy.mediated_pure trivial
      | toolsList => exact Policy.mediated_pure trivial
      | toolsCall params =>
          rw [handleMethod, handleToolCall]
          cases toolCallRequest params with
          | error error => exact Policy.mediated_pure trivial
          | ok call =>
              refine acts_bind (acts_callTool call.name call.arguments).attempt fun _ _ _ _ => ?_
              exact Policy.mediated_pure trivial

theorem acts_handleLine (line : String) :
    Acts config (.caller principal) φ
      (handleLine config server ⟨principal, callerSessionId⟩ line) fun _ _ => True := by
  rw [handleLine]
  cases parseJsonRpcLine server.text line with
  | error response => exact Policy.mediated_pure trivial
  | ok request =>
      have hrequest : Acts config (.caller principal) φ
          (handleRequest config server ⟨principal, callerSessionId⟩ request) fun _ _ => True := by
        rw [handleRequest]
        cases prepareMcpRequest request with
        | none => exact Policy.mediated_pure trivial
        | some prepared =>
            refine acts_bind (acts_handleMethod prepared.2) fun _ _ _ _ => ?_
            exact Policy.mediated_pure trivial
      exact acts_bind hrequest fun _ _ _ _ => Policy.mediated_pure trivial

/-! ## Requests from the socket -/

/-- A session may be named by the caller, the principal may not. -/
theorem principal_withCallerSessionId {context context' : RequestContext} {raw label : String}
    (h : withCallerSessionId config context raw label = .ok context') :
    context'.principal = context.principal := by
  rw [withCallerSessionId] at h
  cases hid : parseSessionId config raw with
  | error error =>
      rw [hid] at h
      cases h
  | ok id =>
      rw [hid] at h
      cases h
      rfl

theorem acts_handleCallerContext (callerText : String) (request : SessionRpc) :
    Acts config (.caller principal) φ
      (handleCallerContext config ⟨principal, callerSessionId⟩ callerText request)
      fun result χ => JustifiedResult (.caller principal) χ result := by
  rw [handleCallerContext]
  cases hcontext : withCallerSessionId config ⟨principal, callerSessionId⟩ callerText
      "caller session id" with
  | error message => exact Policy.mediated_pure (justifiedResult_errorResponse message)
  | ok context =>
      obtain ⟨caller, session⟩ := context
      cases principal_withCallerSessionId hcontext
      by_cases hnested : request.isNested = true
      · simp only [hnested, if_true]
        exact Policy.mediated_pure (justifiedResult_errorResponse _)
      · simp only [hnested]
        exact acts_handleDirect request

theorem acts_handleMcpBridge (request : McpBridgeRequest) :
    Acts config (.caller principal) φ
      (handleMcpBridge config server ⟨principal, callerSessionId⟩ request)
      fun result χ => JustifiedResult (.caller principal) χ result := by
  rw [handleMcpBridge]
  cases hcontext : mcpContext config ⟨principal, callerSessionId⟩ request with
  | error message => exact Policy.mediated_pure (justifiedResult_errorResponse message)
  | ok context =>
      obtain ⟨caller, session⟩ := context
      have hcaller : caller = principal := by
        rw [mcpContext] at hcontext
        cases hraw : request.callerSessionId with
        | none =>
            rw [hraw] at hcontext
            cases hcontext
            rfl
        | some raw =>
            rw [hraw] at hcontext
            exact principal_withCallerSessionId hcontext
      cases hcaller
      refine acts_bind (acts_handleLine request.line) fun line χ hχ _ => ?_
      exact Policy.mediated_pure ⟨trivial, fun hstops => by cases hstops⟩

theorem acts_handle (request : SessionRpc) :
    Acts config (.caller principal) φ (handle config server ⟨principal, callerSessionId⟩ request)
      fun result χ => JustifiedResult (.caller principal) χ result := by
  cases request with
  | callerContext callerText request => exact acts_handleCallerContext callerText request
  | mcpBridge request => exact acts_handleMcpBridge request
  | _ => exact acts_handleDirect _

/-! ## All programs -/

/-- Whom a program acts for. -/
def Origin.subject : Origin → Subject
  | .request principal _ => .caller principal
  | .refreshExits => .daemon
  | .reconcilePendingSpawnIntents => .daemon
  | .runEventLoop _ => .daemon

/-- What the result of a program rests on. -/
def Origin.Post (origin : Origin) (result : Option HandlerResult) (φ : Set Grant) : Prop :=
  ∀ answer, result = some answer → JustifiedResult origin.subject φ answer

theorem acts_background {task : HandlerProg Unit}
    (h : Acts config .daemon φ task fun _ _ => True) :
    Acts config .daemon φ (background task) fun result _ => result = none :=
  acts_bind h fun _ _ _ _ => Policy.mediated_pure rfl

theorem acts_program (origin : Origin) :
    Acts config origin.subject ∅ (origin.program config server) fun result χ =>
      origin.Post result χ := by
  have hnone : ∀ (origin : Origin) {p : HandlerProg (Option HandlerResult)},
      Acts config origin.subject ∅ p (fun result _ => result = none) →
      Acts config origin.subject ∅ p fun result χ => origin.Post result χ := by
    intro origin p hp
    refine hp.weaken fun result χ _ hresult answer hanswer => ?_
    subst hresult
    cases hanswer
  cases origin with
  | request principal rpc =>
      refine acts_bind (acts_handle rpc) fun result χ hχ hresult => ?_
      refine Policy.mediated_pure fun answer hanswer => ?_
      cases hanswer
      exact hresult
  | refreshExits => exact hnone .refreshExits (acts_background (acts_refreshExits (.inl rfl)))
  | reconcilePendingSpawnIntents =>
      exact hnone .reconcilePendingSpawnIntents (acts_background acts_reconcilePendingSpawnIntents)
  | runEventLoop rounds =>
      exact hnone (.runEventLoop rounds) (acts_background (acts_runEventLoop rounds))

end LittleOrgans.Handler
