import LittleOrgans.Handler.MailActs

/-!
# Requests that stay in a namespace

What a request does when the selector that it was given is confined to a namespace: it lists
sessions of that namespace only, and acts on sessions that it has listed. Sessions outside are
read for one purpose: to name the senders of messages, and the caller.

`Confined` is mediation under this policy, whose grants are the sessions that were listed.
Without a namespace everything is permitted.
-/

set_option autoImplicit false

namespace LittleOrgans.Handler

open LittleOrgans.Core
open LittleOrgans.Library
open LittleOrgans.Store
open LittleOrgans.Identity
open LittleOrgans.Session (MailSendRequest MailLogFilter MessageView)
open LittleOrgans.Runtime (NudgeMode)

/-! ## The policy -/

/-- A session with this id was listed. -/
def Listed (φ : Set Session) (id : SessionId) : Prop := ∃ session ∈ φ, session.id = id

/-- Nothing is selected outside the namespace. -/
def Selector.Within (slug : String) (selector : Selector) : Prop := slug ∈ selector.namespaceLeaves

section

variable (slug : String) (φ : Set Session)

/-- The calls of the store that stay in the namespace. -/
def StoreOp.within : StoreOp → Prop
  | recordAudit _ => True
  | listSessionsBySelector selector => Selector.Within slug selector
  | listSessionsByIds _ => True
  | getSession _ => True
  | readUnreadMail id _ _ => Listed φ id
  | countUnreadMail id => Listed φ id
  | idempotentMailForRecipients _ recipientIds => ∀ id ∈ recipientIds, Listed φ id
  | insertMailForRecipients _ recipientIds => ∀ id ∈ recipientIds, Listed φ id
  | countConversationDepth _ => True
  | countSenderRateSince _ _ => True
  | listMessageLog _ participantIds recipientIds _ _ =>
      (∃ ids, participantIds = some ids ∧ ∀ id ∈ ids, Listed φ id) ∧
        ∀ ids, recipientIds = some ids → ∀ id ∈ ids, Listed φ id
  | _ => False

/-- A call of the driver is about a listed session. -/
def PortOp.within : PortOp → Prop
  | capture id _ => Listed φ id
  | nudge id _ _ _ => Listed φ id
  | _ => False

/-- A file is the transcript of a listed session. -/
def HostOp.within : HostOp → Prop
  | readFile path => ∃ session ∈ φ, session.transcriptPath = some path
  | _ => True

/-- An operation stays within the namespace. -/
def HandlerOp.within : HandlerOp → Prop
  | store o => o.within slug φ
  | transaction _ _ => False
  | port o => o.within φ
  | host o => o.within φ

end

/-- The sessions that an operation has listed. -/
def HandlerOp.listed : (o : HandlerOp) → Except Report o.Res → Set Session
  | store (.listSessionsBySelector _), .ok sessions => {session | session ∈ sessions}
  | _, _ => ∅

section

variable {slug : String} {φ ψ : Set Session}

/-- What is listed stays listed. -/
theorem Listed.mono (h : φ ⊆ ψ) {id : SessionId} (hid : Listed φ id) : Listed ψ id := by
  obtain ⟨session, hsession, rfl⟩ := hid
  exact ⟨session, h hsession, rfl⟩

/-- More sessions that are listed allow more store calls. -/
theorem StoreOp.within_mono (h : φ ⊆ ψ) {o : StoreOp} (ho : o.within slug φ) :
    o.within slug ψ := by
  cases o with
  | recordAudit row => trivial
  | listSessionsBySelector selector => exact ho
  | listSessionsByIds ids => trivial
  | getSession id => trivial
  | readUnreadMail id readAt peek => exact Listed.mono h ho
  | countUnreadMail id => exact Listed.mono h ho
  | idempotentMailForRecipients mail recipientIds => exact fun id hid => (ho id hid).mono h
  | insertMailForRecipients mail recipientIds => exact fun id hid => (ho id hid).mono h
  | countConversationDepth contextId => trivial
  | countSenderRateSince sender since => trivial
  | listMessageLog contextId participantIds recipientIds includeSystem after =>
      obtain ⟨⟨ids, hids, hlisted⟩, hrecipients⟩ := ho
      refine ⟨⟨ids, hids, fun id hid => (hlisted id hid).mono h⟩, ?_⟩
      exact fun ids hids id hid => (hrecipients ids hids id hid).mono h
  | _ => exact ho.elim

/-- More sessions that are listed allow more calls of the driver. -/
theorem PortOp.within_mono (h : φ ⊆ ψ) {o : PortOp} (ho : o.within φ) : o.within ψ := by
  cases o with
  | capture id lines => exact Listed.mono h ho
  | nudge id content mode timeoutMs => exact Listed.mono h ho
  | _ => exact ho.elim

/-- More sessions that are listed allow more files. -/
theorem HostOp.within_mono (h : φ ⊆ ψ) {o : HostOp} (ho : o.within φ) : o.within ψ := by
  cases o with
  | readFile path =>
      obtain ⟨session, hsession, hpath⟩ := ho
      exact ⟨session, h hsession, hpath⟩
  | _ => trivial

/-- More sessions that are listed allow more. -/
theorem HandlerOp.within_mono (h : φ ⊆ ψ) {o : HandlerOp} (ho : o.within slug φ) :
    o.within slug ψ := by
  cases o with
  | store o => exact StoreOp.within_mono h ho
  | transaction acquireContext body => exact ho
  | port o => exact PortOp.within_mono h ho
  | host o => exact HostOp.within_mono h ho

end

/-- The subject is the namespace to stay in, if there is one. -/
abbrev scopePolicy : Policy handlerOps Report where
  Subject := Option String
  Grant := Session
  permits x φ o := ∀ slug, x = some slug → o.within slug φ
  earns _ o r := o.listed r
  returns o r := o.Says r
  permits_mono h ho slug hslug := HandlerOp.within_mono h (ho slug hslug)

/-! ## Rules -/

/-- The program stays in the namespace with the sessions `φ`, and `Q` holds where it ends with
a result. -/
abbrev Confined {α : Type} (slug : String) (φ : Set Session) (p : HandlerProg α)
    (Q : α → Set Session → Prop) : Prop :=
  scopePolicy.Mediated (some slug) φ p Q

/-- Where nothing is confined, everything is permitted. -/
theorem mediated_unscoped {α : Type} (p : HandlerProg α) {φ : Set Session} :
    scopePolicy.Mediated none φ p fun _ _ => True := by
  refine Policy.mediated_of_calls ?_
  induction p with
  | ret a => trivial
  | fail e => trivial
  | op o k ih =>
      refine ⟨fun slug hslug => ?_, ih⟩
      cases hslug

variable {slug : String} {φ : Set Session} {α : Type}

/-- A store call within the namespace lists the sessions of its answer. -/
theorem confined_store {o : StoreOp} (hwithin : o.within slug φ) :
    Confined slug φ (store o) fun a χ =>
      o.Says (.ok a) ∧ HandlerOp.listed (.store o) (.ok a) ⊆ χ := by
  refine Policy.mediated_call (fun slug' hslug => ?_) fun _ htells =>
    ⟨htells, Set.subset_union_right⟩
  cases hslug
  exact hwithin

/-- A call of the driver within the namespace. -/
theorem confined_port {o : PortOp} (hwithin : o.within φ) :
    Confined slug φ (port o) fun _ _ => True :=
  Policy.mediated_call (fun _ _ => hwithin) fun _ _ => trivial

/-- A look at the host within the namespace. -/
theorem confined_host {o : HostOp} (hwithin : o.within φ) :
    Confined slug φ (host o) fun _ _ => True :=
  Policy.mediated_call (fun _ _ => hwithin) fun _ _ => trivial

/-- Sequencing: the rest may use what the first part has listed. -/
theorem confined_bind {β : Type} {p : HandlerProg α} {f : α → HandlerProg β}
    {Q : α → Set Session → Prop} {R : β → Set Session → Prop} (hp : Confined slug φ p Q)
    (hf : ∀ a χ, φ ⊆ χ → Q a χ → Confined slug χ (f a) R) : Confined slug φ (p >>= f) R :=
  Policy.Mediated.bind hp hf

theorem confined_context {p : HandlerProg α} {Q : α → Set Session → Prop} (text : String)
    (hp : Confined slug φ p Q) : Confined slug φ (Prog.context text p) Q :=
  hp.mapError _

theorem confined_bail {text : String} {Q : α → Set Session → Prop} :
    Confined slug φ (Prog.bail text) Q := Policy.mediated_fail

theorem confined_ensure {condition : Bool} {text : String} :
    Confined slug φ (Prog.ensure condition text) fun _ _ => condition = true := by
  cases condition with
  | true => exact Policy.mediated_ret rfl
  | false => exact confined_bail

theorem confined_required {value : Option α} {text : String} :
    Confined slug φ (Prog.required value text) fun a _ => value = some a := by
  cases value with
  | some a => exact Policy.mediated_ret rfl
  | none => exact confined_bail

theorem confined_ofExcept {r : Except Report α} :
    Confined slug φ (.ofExcept r) fun a _ => r = .ok a :=
  Policy.mediated_ofExcept fun _ ha => ha

/-- A decision is recorded, whatever the namespace. -/
theorem confined_authorize (config : DaemonConfig) (principal : Principal) (action : Action)
    (resource : ResourceSpec) :
    Confined slug φ (authorize config principal action resource) fun _ _ => True := by
  refine confined_context _ ?_
  have hrow : Confined slug φ (auditRow storeSink principal action resource
      (AuditDecision.evaluateLocal principal config.localUid)) fun _ _ => True := by
    refine confined_bind (confined_host trivial) fun id χ hχ _ => ?_
    refine confined_bind (confined_host trivial) fun timestamp χ₁ hχ₁ _ => ?_
    exact Policy.mediated_pure trivial
  have hrecord : Confined slug φ (recordDecision storeSink principal action resource
      (AuditDecision.evaluateLocal principal config.localUid)) fun _ _ => True := by
    refine confined_bind hrow fun row χ hχ _ => ?_
    have hstore : Confined slug χ (store (.recordAudit row)) fun _ _ => True :=
      Policy.Mediated.toTrue (confined_store trivial)
    exact hstore.mapError _
  have hstub : Confined slug φ (authorizeWithStub storeSink config.localUid principal action
      resource) fun _ _ => True := by
    refine confined_bind hrecord fun _ χ hχ _ => ?_
    split
    · exact Policy.mediated_pure trivial
    · exact confined_bail
  exact confined_bind hstub fun _ _ _ _ => Policy.mediated_pure trivial

/-- An authorization reads no session. -/
theorem confined_authorizeSession (config : DaemonConfig) (principal : Principal) (action : Action)
    (id : SessionId) :
    Confined slug φ (authorizeSession config principal action id) fun _ _ => True :=
  confined_authorize config principal action (.session id)

/-! ## Sessions -/

variable {selector : Selector}

/-- What a confined selector lists. -/
theorem confined_listSessions (hwithin : Selector.Within slug selector) (text : String) :
    Confined slug φ (Prog.context text (store (.listSessionsBySelector selector)))
      fun sessions χ => ∀ session ∈ sessions, session ∈ χ := by
  have hstore : Confined slug φ (store (.listSessionsBySelector selector)) fun sessions χ =>
      StoreOp.Says (.listSessionsBySelector selector) (.ok sessions) ∧
        HandlerOp.listed (.store (.listSessionsBySelector selector)) (.ok sessions) ⊆ χ :=
    confined_store hwithin
  exact confined_context text (hstore.weaken fun _ _ _ h session hs => h.2 hs)

/-- A selector within the namespace finds sessions of it. -/
theorem confined_resolveSelector (hwithin : Selector.Within slug selector) (label : String) :
    Confined slug φ (resolveSelector selector label) fun sessions χ =>
      ∀ session ∈ sessions, session ∈ χ := by
  refine confined_bind (confined_listSessions hwithin _) fun sessions χ hχ hsessions => ?_
  split
  · exact confined_bail
  · exact Policy.mediated_pure hsessions

/-- The check of a session tells nothing of it. -/
theorem confined_requireSession (id : SessionId) (label : String) :
    Confined slug φ (requireSession id label) fun _ _ => True := by
  refine confined_bind (confined_context _ (confined_store trivial)) fun session χ hχ _ => ?_
  exact Policy.Mediated.toTrue confined_ensure

/-- A list shows sessions of the namespace. -/
theorem confined_list {request : ListRequest} {selector : Selector}
    (hselector : request.selector = some selector) (hwithin : Selector.Within slug selector) :
    Confined slug φ (list request) fun _ _ => True := by
  rw [list, hselector, Option.getD_some]
  exact confined_bind (confined_listSessions hwithin _) fun _ _ _ _ => Policy.mediated_pure trivial

variable {config : DaemonConfig} {context : RequestContext}

/-- A capture is of a listed session. -/
theorem confined_capture {request : CaptureRequest} (hlisted : Listed φ request.sessionId) :
    Confined slug φ (capture config context request) fun _ _ => True := by
  refine confined_bind (confined_context _ (confined_store trivial)) fun found χ hχ htells => ?_
  refine confined_bind confined_required fun session χ₁ hχ₁ hfound => ?_
  subst hfound
  have hid : session.id = request.sessionId := htells.1 session rfl
  refine confined_bind (confined_authorizeSession config _ .read session.id) fun _ χ₂ hχ₂ _ => ?_
  have hown : Listed χ₂ session.id := by
    rw [hid]
    exact hlisted.mono (hχ.trans (hχ₁.trans hχ₂))
  exact confined_bind (confined_context _ (confined_port hown)) fun _ _ _ _ =>
    Policy.mediated_pure trivial

/-- The one session that a selector within the namespace finds. -/
theorem confined_singleSession (hwithin : Selector.Within slug selector) (label : String) :
    Confined slug φ (singleSession selector label) fun session χ => session ∈ χ := by
  refine confined_bind (confined_resolveSelector hwithin label) fun sessions χ hχ hsessions => ?_
  refine confined_bind confined_ensure fun _ χ₁ hχ₁ _ => ?_
  refine confined_required.weaken fun session χ₂ hχ₂ hhead => ?_
  exact hχ₂ (hχ₁ (hsessions session (List.mem_of_mem_head? hhead)))

/-- Logs are of a session of the namespace. -/
theorem confined_logs {request : LogsRequest} (hwithin : Selector.Within slug request.selector) :
    Confined slug φ (logs config context request) fun _ _ => True := by
  refine confined_bind (confined_singleSession hwithin "logs") fun session χ hχ hsession => ?_
  refine confined_bind (confined_authorizeSession config _ .logs session.id) fun _ χ₁ hχ₁ _ => ?_
  refine confined_bind confined_required fun path χ₂ hχ₂ hpath => ?_
  have hread : Confined slug χ₂ (readTranscript path request.maxBytes) fun _ _ => True :=
    confined_bind (confined_host ⟨session, hχ₂ (hχ₁ hsession), hpath⟩) fun _ _ _ _ =>
      Policy.mediated_pure trivial
  exact confined_bind (confined_context _ hread) fun _ _ _ _ => Policy.mediated_pure trivial

/-- By induction on the rounds before the deadline. -/
theorem confined_waitRounds {request : WaitRequest}
    (hwithin : Selector.Within slug request.selector) (rounds : Nat) :
    Confined slug φ (waitRounds request rounds) fun _ _ => True := by
  induction rounds generalizing φ with
  | zero =>
      exact confined_bind (confined_listSessions hwithin _) fun _ _ _ _ =>
        Policy.mediated_pure trivial
  | succ n ih =>
      refine confined_bind (confined_listSessions hwithin _) fun sessions χ hχ _ => ?_
      split
      · exact Policy.mediated_pure trivial
      · exact confined_bind (confined_host trivial) fun _ _ _ _ => ih

/-- A wait looks at sessions of the namespace. -/
theorem confined_wait {request : WaitRequest} (hwithin : Selector.Within slug request.selector) :
    Confined slug φ (wait request) fun _ _ => True :=
  confined_bind (confined_host trivial) fun rounds _ _ _ => confined_waitRounds hwithin rounds

/-! ## Nudges and mail -/

/-- Mail is shown with its recipients. -/
theorem confined_messageViews (mail : List Mail) :
    Confined slug φ (messageViews mail) fun views _ =>
      ∀ view ∈ views, ∃ item ∈ mail, view.recipient.sessionId = item.recipientId := by
  refine confined_bind (confined_context _ (confined_store trivial)) fun sessions χ hχ _ => ?_
  refine confined_ofExcept.weaken fun views _ _ hviews view hview => ?_
  obtain ⟨item, hitem, hview⟩ := (Except.mem_of_mapM_eq_ok hviews).mp hview
  obtain ⟨sender, recipient, rfl, hid⟩ := isViewOf_of_messageView hview
  exact ⟨item, hitem, hid⟩

/-- The sender of a mail is the caller. -/
theorem confined_effectiveSender :
    Confined slug φ (effectiveSender config context) fun _ _ => True := by
  rw [effectiveSender]
  cases context.callerSessionId with
  | none => exact Policy.mediated_pure trivial
  | some id =>
      exact confined_bind (confined_requireSession id "sender") fun _ _ _ _ =>
        Policy.mediated_pure trivial

/-- A nudge goes to a listed session. -/
theorem confined_nudgeOne {id : SessionId} (hlisted : Listed φ id) (content : String)
    (mode : NudgeMode) (timeoutMs : Option Nat) :
    Confined slug φ (nudgeOne config context content mode timeoutMs id) fun _ _ => True := by
  refine confined_bind (confined_authorizeSession config _ .nudge id) fun _ χ hχ _ => ?_
  have hown : Listed χ id := hlisted.mono hχ
  exact confined_bind (confined_context _ (confined_port hown)) fun _ _ _ _ =>
    Policy.mediated_pure trivial

/-- Every nudge of a request goes to a session of the namespace. -/
theorem confined_nudge {request : NudgeRequest}
    (hwithin : Selector.Within slug request.toSelector) :
    Confined slug φ (nudge config context request) fun _ _ => True := by
  refine confined_bind (confined_resolveSelector hwithin "recipient")
    fun recipients χ hχ hrecipients => ?_
  have hforTargets : Confined slug χ (forTargets recipients
      (nudgeOne config context request.content request.mode none)) fun _ _ => True := by
    have htraverse : Confined slug χ (Prog.traverse (attemptTarget (nudgeOne config context
        request.content request.mode none)) recipients) fun outcomes _ =>
        ∀ outcome ∈ outcomes, True := by
      refine Policy.mediated_traverse (fun _ _ _ _ _ => trivial) fun target htarget ψ hψ => ?_
      have hown : Listed ψ target.id := ⟨target, hψ (hrecipients target htarget), rfl⟩
      exact confined_bind (confined_nudgeOne hown _ _ _).attempt fun _ _ _ _ =>
        Policy.mediated_pure trivial
    exact confined_bind htraverse fun _ _ _ _ => Policy.mediated_pure trivial
  exact confined_bind hforTargets fun _ _ _ _ => Policy.mediated_pure trivial

end LittleOrgans.Handler
