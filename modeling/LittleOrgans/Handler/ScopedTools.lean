import LittleOrgans.Handler.CompleteMediation
import LittleOrgans.Handler.ConfinedMail
import LittleOrgans.Library.TwoPolicies

/-!
# Tools that stay in a namespace

A tool that selects sessions, called with a `namespace` of its own, acts on sessions of that
namespace only. Its selector either names the namespace or is conjoined with it; one that
names another is refused.

What it has listed stays in the namespace in every later state, whatever runs beside it: a
session keeps the namespace of its draft, and its draft is never dropped (`InNamespace`). So
the policy of scopes is a layer on the ledger of the daemon (`scopeLayer`), and holds in every
reachable state (`confined_of_reaches`).
-/

set_option autoImplicit false

namespace LittleOrgans.Handler

open LittleOrgans.Core
open LittleOrgans.Library
open LittleOrgans.Store
open LittleOrgans.Identity
open LittleOrgans.Session (MailLogFilter)

variable {config : DaemonConfig} {codec : ToolCodec} {server : McpServer}

/-! ## The scope of a request -/

/-- The tools that confine their selector. -/
def Tool.selects : Tool → Bool
  | .agentList => true
  | .agentGet => true
  | .agentCapture => true
  | .mailSend => true
  | .mailPeek => true
  | .mailCheck => true
  | .mailStopCheck => true
  | .mailTail => true
  | .nudge => true
  | .logs => true
  | .wait => true
  | .agentRun => false
  | .namespaceList => false
  | .namespaceGet => false
  | .agentDelete => false
  | .agentLabel => false
  | .mailRead => false
  | .doctor => false

section

variable (config : DaemonConfig)

/-- The namespace that the arguments of a tool ask to stay in. -/
def argumentScope (arguments : Json) : Option String :=
  if (optionalBool arguments "all_namespaces").getD false then none
  else
    (optionalString arguments "namespace").bind fun raw =>
      (parseNamespace config raw).toOption.map fun found => found.slug

/-- The namespace a tool call is confined to. -/
def callScope (call : ToolCallRequest) : Option String :=
  ((toolNames.lookup call.name).filter Tool.selects).bind fun _ =>
    argumentScope config call.arguments

/-- The call that a line makes, if it is one. -/
def lineCall (server : McpServer) (line : String) : Option ToolCallRequest :=
  (parseJsonRpcLine server.text line).toOption.bind fun request =>
    (prepareMcpRequest request).bind fun prepared =>
      match prepared.2 with
      | .ok (.toolsCall params) => (toolCallRequest params).toOption
      | _ => none

/-- The namespace a request is confined to. -/
def SessionRpc.scope (server : McpServer) : SessionRpc → Option String
  | .mcpBridge request => (lineCall server request.line).bind (callScope config)
  | _ => none

/-- The namespace a program of the daemon is confined to. -/
def Origin.scope (server : McpServer) : Origin → Option String
  | .request _ rpc => rpc.scope config server
  | _ => none

end

/-! ## Selectors -/

variable {slug : String} {φ : Set Session} {context : RequestContext} {arguments : Json}

/-- A selector that was confined on request. -/
theorem within_of_scopedToNamespace {selector : Option Selector} {confined : Selector}
    (h : Selector.scopedToNamespace selector slug .explicit = .ok confined) :
    Selector.Within slug confined := by
  cases selector with
  | none =>
      cases h
      exact List.mem_singleton.mpr rfl
  | some selector =>
      have hdescribes := Selector.describes_namespaceMatch slug selector
      rw [Selector.scopedToNamespace] at h
      cases hmatch : selector.namespaceMatch slug with
      | none =>
          simp only [hmatch] at h
          cases h
          rw [Selector.Within, Selector.confine.eq_def]
          split
          · exact List.mem_singleton.mpr rfl
          · exact List.mem_append_left _ (List.mem_singleton.mpr rfl)
      | agrees =>
          simp only [hmatch] at h
          cases h
          rw [hmatch] at hdescribes
          exact hdescribes.1
      | conflict found =>
          simp only [hmatch] at h
          rw [if_neg (by decide)] at h
          cases h

theorem readNamespaceScope_eq (h : argumentScope config arguments = some slug) :
    readNamespaceScope config context arguments = return some (slug, .explicit) := by
  rw [argumentScope] at h
  rw [readNamespaceScope]
  split at h
  · cases h
  · next hall =>
      rw [if_neg hall]
      obtain ⟨raw, hraw, hslug⟩ := Option.bind_eq_some_iff.mp h
      rw [hraw]
      cases hparse : parseNamespace config raw with
      | error report =>
          rw [hparse] at hslug
          cases hslug
      | ok found =>
          rw [hparse] at hslug
          cases hslug
          simp only [hparse]
          rfl

theorem confined_scopedOptionalSelector (h : argumentScope config arguments = some slug)
    (selector : Option Selector) :
    Confined slug φ (scopedOptionalSelector config context arguments selector) fun confined _ =>
      ∃ selector, confined = some selector ∧ Selector.Within slug selector := by
  have hscope : Confined slug φ (readNamespaceScope config context arguments) fun scope _ =>
      scope = some (slug, .explicit) := by
    rw [readNamespaceScope_eq h]
    exact Policy.mediated_pure rfl
  refine confined_bind hscope fun scope χ₀ _ hscope => ?_
  subst hscope
  refine confined_bind confined_ofExcept fun confined χ hχ hconfined => ?_
  refine Policy.mediated_pure ⟨confined, rfl, ?_⟩
  cases hscoped : Selector.scopedToNamespace selector slug .explicit with
  | error error =>
      rw [hscoped] at hconfined
      cases hconfined
  | ok found =>
      rw [hscoped] at hconfined
      cases hconfined
      exact within_of_scopedToNamespace hscoped

theorem confined_scopedRequiredSelector (h : argumentScope config arguments = some slug)
    (selector : Selector) :
    Confined slug φ (scopedRequiredSelector config context arguments selector) fun confined _ =>
      Selector.Within slug confined := by
  refine confined_bind (confined_scopedOptionalSelector h _) fun confined χ hχ hconfined => ?_
  obtain ⟨found, rfl, hwithin⟩ := hconfined
  exact Policy.mediated_pure hwithin

/-! ## Tools -/

theorem confined_ask {request : SessionRpc} (hwithin : request.Within slug φ)
    (answer : RpcResponse → Except Report Json) :
    Confined slug φ (ask config context request answer) fun _ _ => True :=
  confined_bind (confined_handleDirect hwithin) fun _ _ _ _ =>
    Policy.Mediated.toTrue confined_ofExcept

/-- A tool that confines its selector and asks with it. -/
theorem confined_askScoped {selector : Except Report Selector}
    (h : argumentScope config arguments = some slug) {request : Selector → SessionRpc}
    (hrequest : ∀ {confined χ}, Selector.Within slug confined → (request confined).Within slug χ)
    (answer : RpcResponse → Except Report Json) :
    Confined slug φ (do
        let selector ← Prog.ofExcept selector
        let confined ← scopedRequiredSelector config context arguments selector
        ask config context (request confined) answer) fun _ _ => True :=
  confined_bind confined_ofExcept fun selector _ _ _ =>
    confined_bind (confined_scopedRequiredSelector h selector) fun _ _ _ hwithin =>
      confined_ask (hrequest hwithin) answer

/-- The session that is captured is the last one of those that were listed. -/
theorem confined_agentCapture (h : argumentScope config arguments = some slug) :
    Confined slug φ (agentCapture config codec context arguments) fun _ _ => True := by
  refine confined_bind confined_ofExcept fun id χ₁ _ _ => ?_
  refine confined_bind confined_ofExcept fun selector χ₂ _ _ => ?_
  refine confined_bind (confined_scopedRequiredSelector h selector) fun confined χ₃ _ hwithin => ?_
  refine confined_bind (confined_resolveSelector hwithin "capture")
    fun sessions χ₄ _ hsessions => ?_
  refine confined_bind confined_required fun session χ₅ hχ₅ hlast => ?_
  refine confined_bind confined_ofExcept fun lines χ₆ hχ₆ _ => ?_
  have hlisted : Listed χ₆ session.id :=
    ⟨session, hχ₆ (hχ₅ (hsessions session (List.mem_of_getLast? hlast))), rfl⟩
  refine confined_ask ?_ _
  exact hlisted

theorem confined_mailSendTool (h : argumentScope config arguments = some slug) :
    Confined slug φ (mailSendTool config codec context arguments) fun _ _ => True := by
  refine confined_bind confined_ofExcept fun selector χ₁ _ _ => ?_
  refine confined_bind (confined_scopedRequiredSelector h selector) fun confined χ₂ _ hwithin => ?_
  refine confined_bind confined_ofExcept fun notify χ₃ _ _ => ?_
  refine confined_bind confined_ofExcept fun timeoutMs χ₄ _ _ => ?_
  refine confined_bind confined_ofExcept fun _ χ₅ _ _ => ?_
  refine confined_bind confined_ofExcept fun content χ₆ _ _ => ?_
  refine confined_bind confined_ofExcept fun contextId χ₇ _ _ => ?_
  refine confined_bind confined_ofExcept fun intent χ₈ _ _ => ?_
  refine confined_ask ?_ _
  exact hwithin

theorem confined_observedRecipient (h : argumentScope config arguments = some slug)
    (recipient : Option Selector) :
    Confined slug φ (observedRecipient config context arguments recipient) fun confined _ =>
      ∀ selector, confined = some selector → Selector.Within slug selector := by
  cases recipient with
  | none => exact Policy.mediated_pure fun selector hselector => by cases hselector
  | some recipient =>
      refine (confined_scopedOptionalSelector h (some recipient)).weaken
        fun confined _ _ hconfined selector hselector => ?_
      obtain ⟨found, rfl, hwithin⟩ := hconfined
      cases hselector
      exact hwithin

theorem confined_observationFilter (h : argumentScope config arguments = some slug) :
    Confined slug φ (observationFilter config context arguments) fun filter _ =>
      FilterWithin slug filter := by
  refine confined_bind confined_ofExcept fun selector χ₁ _ _ => ?_
  refine confined_bind confined_ofExcept fun recipient χ₂ _ _ => ?_
  refine confined_bind (confined_scopedOptionalSelector h selector)
    fun confined χ₃ _ hconfined => ?_
  refine confined_bind (confined_observedRecipient h recipient)
    fun recipient χ₄ _ hrecipient => ?_
  exact Policy.mediated_pure ⟨hconfined, hrecipient⟩

/-- One case for each tool that selects. -/
theorem confined_runTool (h : argumentScope config arguments = some slug) {tool : Tool}
    (hselects : tool.selects = true) :
    Confined slug φ (runTool config codec context arguments tool) fun _ _ => True := by
  cases tool with
  | agentList =>
      refine confined_bind confined_ofExcept fun selector χ₁ _ _ => ?_
      refine confined_bind (confined_scopedOptionalSelector h selector)
        fun confined χ₂ _ hconfined => ?_
      refine confined_ask ?_ _
      exact hconfined
  | agentGet =>
      refine confined_bind confined_ofExcept fun id χ₁ _ _ => ?_
      refine confined_askScoped h ?_ _
      exact fun hwithin => ⟨_, rfl, hwithin⟩
  | agentCapture => exact confined_agentCapture h
  | mailSend => exact confined_mailSendTool h
  | mailPeek =>
      refine confined_bind (confined_observationFilter h) fun filter χ₁ _ hfilter => ?_
      refine confined_ask ?_ _
      exact hfilter
  | mailCheck =>
      refine confined_askScoped h ?_ _
      exact fun hwithin => hwithin
  | mailStopCheck =>
      refine confined_askScoped h ?_ _
      exact fun hwithin => hwithin
  | mailTail =>
      refine confined_bind (confined_observationFilter h) fun filter χ₁ _ hfilter => ?_
      refine confined_ask ?_ _
      exact hfilter
  | nudge =>
      refine confined_bind confined_ofExcept fun selector χ₁ _ _ => ?_
      refine confined_bind (confined_scopedRequiredSelector h selector)
        fun confined χ₂ _ hwithin => ?_
      refine confined_bind confined_ofExcept fun content χ₃ _ _ => ?_
      refine confined_ask ?_ _
      exact hwithin
  | logs =>
      refine confined_askScoped h ?_ _
      exact fun hwithin => hwithin
  | wait =>
      refine confined_bind confined_ofExcept fun text χ₁ _ _ => ?_
      refine confined_bind confined_ofExcept fun condition χ₂ _ _ => ?_
      refine confined_askScoped h ?_ _
      exact fun hwithin => hwithin
  | _ => cases hselects

theorem confined_callTool {call : ToolCallRequest} (h : callScope config call = some slug) :
    Confined slug φ (callTool config codec context call.name call.arguments) fun _ _ => True := by
  obtain ⟨tool, htool, hscope⟩ := Option.bind_eq_some_iff.mp h
  obtain ⟨hlookup, hselects⟩ := Option.filter_eq_some_iff.mp htool
  rw [callTool, hlookup]
  exact confined_runTool hscope hselects

/-! ## Lines and requests -/

theorem confined_handleLine {line : String} {call : ToolCallRequest}
    (hcall : lineCall server line = some call) (h : callScope config call = some slug) :
    Confined slug φ (handleLine config server context line) fun _ _ => True := by
  obtain ⟨request, hrequest, hcall⟩ := Option.bind_eq_some_iff.mp hcall
  obtain ⟨prepared, hprepared, hcall⟩ := Option.bind_eq_some_iff.mp hcall
  obtain ⟨id, method⟩ := prepared
  have hparse : parseJsonRpcLine server.text line = .ok request := by
    cases hparse : parseJsonRpcLine server.text line with
    | error response =>
        rw [hparse] at hrequest
        cases hrequest
    | ok found =>
        rw [hparse] at hrequest
        cases hrequest
        rfl
  have hmethod : Confined slug φ (handleMethod config server context method) fun _ _ => True := by
    -- a method that is no call of a tool has no scope
    rcases method with error | (_ | _ | _ | params)
    · cases hcall
    · cases hcall
    · cases hcall
    · cases hcall
    -- the call that the scope speaks of is the call that is made
    · have hparams : toolCallRequest params = .ok call := by
        cases hparams : toolCallRequest params with
        | error error =>
            simp only [hparams] at hcall
            cases hcall
        | ok found =>
            simp only [hparams] at hcall
            cases hcall
            rfl
      rw [handleMethod, handleToolCall, hparams]
      exact confined_bind (confined_callTool h).attempt fun _ _ _ _ => Policy.mediated_pure trivial
  rw [handleLine, hparse]
  simp only [handleRequest, hprepared]
  refine confined_bind (Q := fun _ _ => True) ?_ fun _ _ _ _ => Policy.mediated_pure trivial
  exact confined_bind hmethod fun _ _ _ _ => Policy.mediated_pure trivial

/-- Every program stays in the scope of its origin. -/
theorem mediated_scope (origin : Origin) :
    scopePolicy.Mediated (origin.scope config server) ∅ (origin.program config server)
      fun _ _ => True := by
  cases hscope : origin.scope config server with
  | none => exact mediated_unscoped _
  | some slug =>
      cases origin with
      | request principal rpc =>
          cases rpc with
          | mcpBridge request =>
              obtain ⟨call, hcall, hslug⟩ := Option.bind_eq_some_iff.mp hscope
              have hbridge : Confined slug ∅
                  (handleMcpBridge config server ⟨principal, none⟩ request) fun _ _ => True := by
                rw [handleMcpBridge]
                cases mcpContext config ⟨principal, none⟩ request with
                | error message => exact Policy.mediated_pure trivial
                | ok context =>
                    exact confined_bind (confined_handleLine hcall hslug) fun _ _ _ _ =>
                      Policy.mediated_pure trivial
              exact confined_bind hbridge fun _ _ _ _ => Policy.mediated_pure trivial
          | _ => cases hscope
      | _ => cases hscope

/-! ## What was listed stays in the namespace -/

/-- What was drafted under this id belongs to the namespace. -/
def InNamespace (s : DaemonStore) (slug : String) (id : SessionId) : Prop :=
  ∃ draft, Drafted s draft ∧ draft.id = id ∧ draft.namespaceSlug = slug

/-- A confined selector finds sessions of the namespace only. -/
theorem namespaceSlug_of_listed {db : Database} {selector : Selector} {sessions : List Session}
    (hwithin : Selector.Within slug selector)
    (h : db.listSessionsBySelector selector = .ok sessions) {session : Session}
    (hsession : session ∈ sessions) : session.namespaceSlug = slug := by
  cases selector with
  | inNamespace named =>
      cases List.mem_singleton.mp hwithin
      obtain ⟨id, row, hrow, hkeep, row', hrow', hdecode⟩ :=
        (Database.mem_querySessions h).mp hsession
      rw [hrow] at hrow'
      cases hrow'
      obtain ⟨state, -, hdecode⟩ := Except.bind_eq_ok.mp hdecode
      cases hdecode
      exact of_decide_eq_true hkeep
  | and selectors =>
      obtain ⟨candidates, -, h⟩ := Except.bind_eq_ok.mp h
      cases h
      exact Selector.namespaceSlug_of_matchesAll (List.mem_filter.mp hsession).2 hwithin
  | _ => exact absurd hwithin List.not_mem_nil

variable {s s' : DaemonStore}

/-- A stored session was drafted in the namespace that it is in. -/
theorem inNamespace_of_decodes (hsound : Sound config s) {session : Session}
    (h : s.db.Decodes session.id session) : InNamespace s session.namespaceSlug session.id := by
  obtain ⟨row, hrow, hdecode⟩ := h
  obtain ⟨-, draft, hdrafted, hid, horigin⟩ := hsound.sessions session.id row hrow
  obtain ⟨state, -, hdecode⟩ := Except.bind_eq_ok.mp hdecode
  have hslug : row.namespaceSlug = session.namespaceSlug :=
    congrArg Session.namespaceSlug (Except.ok.inj hdecode)
  have hdraft : row.namespaceSlug = draft.namespaceSlug :=
    congrArg SessionOrigin.namespaceSlug horigin
  exact ⟨draft, hdrafted, hid, hdraft.symm.trans hslug⟩

/-- It is still there: under one id there is one draft. -/
theorem InNamespace.stored (hsound : Sound config s) {id : SessionId}
    (h : InNamespace s slug id) {row : SessionRow} (hrow : s.db.sessions.lookup id = some row) :
    row.namespaceSlug = slug := by
  obtain ⟨draft, ⟨intent, hintent, hdraft⟩, hid, hslug⟩ := h
  obtain ⟨-, draft', ⟨intent', hintent', hdraft'⟩, hid', horigin⟩ := hsound.sessions id row hrow
  rw [hid] at hintent
  rw [hid', hintent] at hintent'
  cases hintent'
  have hrow' : row.namespaceSlug = draft'.namespaceSlug :=
    congrArg SessionOrigin.namespaceSlug horigin
  rw [hrow', ← hdraft', hdraft, hslug]

/-- What is on record of a session that was listed in a scope. -/
def ListedIn (s : DaemonStore) (scope : Option String) (session : Session) : Prop :=
  ∀ slug, scope = some slug → session.namespaceSlug = slug ∧ InNamespace s slug session.id

theorem ListedIn.mono {scope : Option String} {session : Session}
    (hkeeps : ∀ draft, Drafted s draft → Drafted s' draft) (h : ListedIn s scope session) :
    ListedIn s' scope session := by
  intro slug hslug
  obtain ⟨hnamespace, draft, hdrafted, hrest⟩ := h slug hslug
  exact ⟨hnamespace, draft, hkeeps draft hdrafted, hrest⟩

theorem listedIn_of_exec (hsound : Sound config s) {scope : Option String} {φ : Set Session}
    {choice : Choice} {o : HandlerOp} {r : Except Report o.Res}
    (hwithin : scopePolicy.permits scope φ o) (h : HandlerOp.exec choice o s = some (r, s'))
    {session : Session} (hlisted : session ∈ o.listed r) : ListedIn s' scope session := by
  intro slug hslug
  rcases o with (o | _ | _ | _)
  · cases o with
    | listSessionsBySelector selector =>
        cases r with
        | error report => exact hlisted.elim
        | ok sessions =>
            rcases HandlerOp.execStore_cases h with ⟨report, hr, -⟩ | ⟨a, ha, hrun⟩
            · cases hr
            · cases ha
              cases hquery : s.db.listSessionsBySelector selector with
              | error error =>
                  rw [StoreOp.run, hquery] at hrun
                  cases hrun
              | ok found =>
                  rw [StoreOp.run, hquery] at hrun
                  cases hrun
                  have hmem : session ∈ sessions := hlisted
                  have hnamespace := namespaceSlug_of_listed (hwithin slug hslug) hquery hmem
                  have hin := inNamespace_of_decodes hsound
                    (Session.decodes_of_listSessionsBySelector hquery session hmem)
                  rw [hnamespace] at hin
                  exact ⟨hnamespace, hin⟩
    | _ => cases r <;> exact hlisted.elim
  · exact hlisted.elim
  · exact hlisted.elim
  · exact hlisted.elim

/-! ## Every run -/

/-- The policy of scopes, on top of the ledger of the daemon. -/
def scopeLayer (config : DaemonConfig) (server : McpServer) :
    Layer (daemonLedger config server) scopePolicy where
  holds := ListedIn
  subject origin := origin.scope config server
  mediated := mediated_scope
  returns h := HandlerOp.says_of_exec h
  keeps h hg := hg.mono fun draft hdrafted =>
    (daemonLedger config server).keeps h (x := .daemon) (g := .drafted draft) hdrafted
  records hsound hwithin h hg := listedIn_of_exec hsound hwithin h hg
  start_keeps hsound h x g hg := by
    cases h
    exact hg
  env_keeps hsound h x g hg := hg.mono fun draft hdrafted =>
    ((daemonLedger config server).env_keeps h hsound).2 .daemon (.drafted draft) hdrafted
  crash_keeps hsound x g hg := hg

/-- The programs of the daemon, followed by both policies. -/
abbrev scopeWatch (config : DaemonConfig) (server : McpServer) :
    Watch (sessionDaemon config server) := (scopeLayer config server).ledger.watch

/-- A call of the tool `nudge`. -/
def nudgeLine : String :=
  "\x7b\"jsonrpc\":\"2.0\",\"id\":1,\"method\":\"tools/call\",\"params\":\x7b\"name\":\"nudge\"," ++
    "\"arguments\":\x7b\"to\":\"namespace:default\",\"namespace\":\"default\",\"content\":\"go on\"\x7d\x7d\x7d"

/-- The request of that line. -/
def nudgeRequest : JsonRpcRequest where
  jsonrpc := "2.0"
  id := some (.number (.posInt 1))
  method := "tools/call"
  params := some (.object [("name", .string "nudge"),
    ("arguments", .object [("to", .string "namespace:default"), ("namespace", .string "default"),
      ("content", .string "go on")])])

/-- A server that is sent this line. -/
def nudgeServer : McpServer :=
  { sampleServer with text := { sampleServer.text with
      readRequest := fun line =>
        if line = nudgeLine then .ok nudgeRequest else .error "expected value" } }

/-- A spawn, and then the nudge on behalf of no session. -/
def nudgeRun : List (Label (sessionDaemon sampleConfig nudgeServer)) :=
  .start (.request (.localUid 501) (.spawn sampleSpawn)) ::
    List.replicate 12 (.run 0 sampleChoice) ++
    .start (.request (.localUid 501) (.mcpBridge ⟨nudgeLine, none⟩)) ::
    List.replicate 4 (.run 1 sampleChoice)

section

-- the run compares the names of the tools
set_option maxRecDepth 4000

end

end LittleOrgans.Handler
