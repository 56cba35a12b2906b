import LittleOrgans.Handler.Confinement
import LittleOrgans.Handler.Direct

/-!
# Mail and direct requests in a namespace

A send whose recipients are selected in a namespace writes to listed sessions only, a message
that had been written before included; counts and observations read the mail of listed
sessions. What is read of other sessions is who has sent a message.
-/

set_option autoImplicit false

namespace LittleOrgans.Handler

open LittleOrgans.Core
open LittleOrgans.Library
open LittleOrgans.Store
open LittleOrgans.Identity
open LittleOrgans.Session (MailSendRequest MailLogFilter MailNotifyMode MessageView)

variable {slug : String} {φ : Set Session} {selector : Selector} {config : DaemonConfig}
  {context : RequestContext}

/-! ## Sending -/

theorem confined_askRecipient (recipient : Session) :
    Confined slug φ (askRecipient config context recipient) fun answer _ =>
      answer.1 = recipient := by
  refine confined_bind (confined_authorizeSession config context.principal .mailSend
    recipient.id).attempt fun answer χ hχ _ => ?_
  exact Policy.mediated_pure rfl

variable {recipientIds : List SessionId}

theorem confined_appendIdempotentMail (mail : Mail)
    (hrecipients : ∀ id ∈ recipientIds, Listed φ id) :
    Confined slug φ (appendIdempotentMail mail recipientIds) fun _ _ => True := by
  refine confined_bind (confined_context _ (confined_store hrecipients)) fun replay χ hχ _ => ?_
  cases replay with
  | none => exact Policy.mediated_pure trivial
  | some mail =>
      exact confined_bind (confined_messageViews mail) fun _ _ _ _ => Policy.mediated_pure trivial

theorem confined_enforceMailSafety (mail : Mail) :
    Confined slug φ (enforceMailSafety config mail) fun _ _ => True := by
  rw [enforceMailSafety]
  split
  · exact Policy.mediated_pure trivial
  · refine confined_bind (confined_context _ (confined_store trivial)) fun depth χ hχ _ => ?_
    refine confined_bind confined_ensure fun _ χ₁ hχ₁ _ => ?_
    refine confined_bind (confined_host trivial) fun now χ₂ hχ₂ _ => ?_
    refine confined_bind (confined_context _ (confined_store trivial)) fun rate χ₃ hχ₃ _ => ?_
    exact Policy.Mediated.toTrue confined_ensure

theorem confined_notifyResult (request : MailSendRequest) {id : SessionId}
    (hlisted : Listed φ id) :
    Confined slug φ (notifyResult config context request id) fun _ _ => True := by
  rw [notifyResult]
  cases request.notify with
  | none => exact Policy.mediated_pure trivial
  | some mode =>
      refine confined_bind (confined_nudgeOne hlisted _ _ _).attempt fun answer χ hχ _ => ?_
      exact Policy.mediated_pure trivial

theorem confined_notifyView (request : MailSendRequest) (inserted : Bool) {view : MessageView}
    (hlisted : Listed φ view.recipient.sessionId) :
    Confined slug φ (notifyView config context request inserted view) fun _ _ => True := by
  cases inserted with
  | false => exact Policy.mediated_pure trivial
  | true =>
      exact confined_bind (confined_notifyResult request hlisted) fun _ _ _ _ =>
        Policy.mediated_pure trivial

theorem confined_emitInserted (outcome : MailWriteOutcome) :
    Confined slug φ (emitInserted outcome) fun _ _ => True := by
  rw [emitInserted]
  split
  · exact Policy.mediated_forEach fun _ _ _ _ => confined_host trivial
  · exact Policy.mediated_ret trivial

theorem confined_reportWritten (request : MailSendRequest) {outcome : MailWriteOutcome}
    (haddressed : AddressedTo recipientIds outcome.mail)
    (hrecipients : ∀ id ∈ recipientIds, Listed φ id) :
    Confined slug φ (reportWritten config context request outcome) fun _ _ => True := by
  refine confined_bind (confined_emitInserted outcome) fun _ χ hχ _ => ?_
  refine confined_bind (confined_messageViews outcome.mail) fun views χ₁ hχ₁ hviews => ?_
  have hnotify : ∀ p ∈ views.map (notifyView config context request outcome.inserted),
      Confined slug χ₁ p fun _ _ => True := by
    intro p hp
    obtain ⟨view, hview, rfl⟩ := List.mem_map.mp hp
    obtain ⟨item, hitem, hid⟩ := hviews view hview
    have hmem := haddressed item hitem
    rw [← hid] at hmem
    exact confined_notifyView request outcome.inserted ((hrecipients _ hmem).mono (hχ.trans hχ₁))
  have hjoin : Confined slug χ₁ (Prog.joinAll (host .pollFirst)
      (views.map (notifyView config context request outcome.inserted))) fun results _ =>
        ∀ result ∈ results, True :=
    Policy.mediated_joinAll (fun _ => confined_host trivial) (fun _ _ _ _ _ => trivial) hnotify
  exact confined_bind hjoin fun _ _ _ _ => Policy.mediated_pure trivial

theorem confined_persistMailSend (request : MailSendRequest) (mail : Mail)
    {deliverable : List Session}
    (hrecipients : ∀ id ∈ deliverable.map fun session => session.id, Listed φ id) :
    Confined slug φ (persistMailSend config context request mail deliverable)
      fun _ _ => True := by
  have hwrite : StoreOp.within slug φ
      (.insertMailForRecipients mail (deliverable.map fun session => session.id)) := hrecipients
  have hinsert : Confined slug φ
      (store (.insertMailForRecipients mail (deliverable.map fun session => session.id)))
      fun outcome _ => StoreOp.Says (.insertMailForRecipients mail (deliverable.map fun session =>
        session.id)) (.ok outcome) := (confined_store hwrite).weaken fun _ _ _ h => h.1
  refine confined_bind (confined_context _ hinsert).attempt fun written χ hχ hwritten => ?_
  cases written with
  | error report => exact Policy.mediated_pure trivial
  | ok outcome =>
      have haddressed := hwritten outcome rfl outcome rfl
      exact confined_reportWritten request haddressed fun id hid => (hrecipients id hid).mono hχ

theorem confined_sendToDeliverable (request : MailSendRequest) (sender : SenderRef)
    {first : Session} {rest : List Session} (hrecipients : ∀ session ∈ first :: rest, session ∈ φ) :
    Confined slug φ (sendToDeliverable config context request sender first rest)
      fun _ _ => True := by
  refine confined_bind (confined_host trivial) fun id χ hχ _ => ?_
  refine confined_bind (confined_host trivial) fun sentAt χ₁ hχ₁ _ => ?_
  have hids : ∀ id ∈ (first :: rest).map fun session => session.id, Listed χ₁ id := by
    intro id hid
    obtain ⟨session, hsession, rfl⟩ := List.mem_map.mp hid
    exact ⟨session, hχ₁ (hχ (hrecipients session hsession)), rfl⟩
  refine confined_bind (confined_appendIdempotentMail _ hids) fun replayed χ₂ hχ₂ _ => ?_
  cases replayed with
  | some response => exact Policy.mediated_pure trivial
  | none =>
      refine confined_bind (confined_enforceMailSafety _) fun _ χ₃ hχ₃ _ => ?_
      exact confined_persistMailSend request _ fun id hid => (hids id hid).mono (hχ₂.trans hχ₃)

theorem confined_mailSend {request : MailSendRequest}
    (hwithin : Selector.Within slug request.toSelector) :
    Confined slug φ (mailSend config context request) fun _ _ => True := by
  refine confined_bind confined_ofExcept fun _ χ hχ _ => ?_
  refine confined_bind confined_ofExcept fun _ χ₁ hχ₁ _ => ?_
  refine confined_bind (confined_resolveSelector hwithin "recipient")
    fun recipients χ₂ hχ₂ hrecipients => ?_
  refine confined_bind confined_effectiveSender fun sender χ₃ hχ₃ _ => ?_
  have hask : Confined slug χ₃ (Prog.traverse (askRecipient config context)
      (recipients.filter fun session => session.state = .running)) fun answers _ =>
        ∀ answer ∈ answers, answer.1 ∈ recipients := by
    refine Policy.mediated_traverse (fun _ _ _ _ h => h) fun recipient hrecipient ψ hψ => ?_
    refine (confined_askRecipient recipient).weaken fun answer _ _ hanswer => ?_
    rw [hanswer]
    exact List.mem_of_mem_filter hrecipient
  refine confined_bind hask fun answers χ₄ hχ₄ hanswers => ?_
  cases hgranted : granted answers with
  | nil => exact Policy.mediated_pure trivial
  | cons first rest =>
      have hlisted : ∀ session ∈ first :: rest, session ∈ χ₄ := by
        intro session hsession
        rw [← hgranted] at hsession
        obtain ⟨answer, hanswer, rfl, hok⟩ := mem_granted hsession
        exact hχ₄ (hχ₃ (hrecipients _ (hanswers answer hanswer)))
      exact confined_bind (confined_sendToDeliverable request sender hlisted) fun _ _ _ _ =>
        Policy.mediated_pure trivial

/-! ## Counting and observing -/

theorem confined_mailCounts (hwithin : Selector.Within slug selector) :
    Confined slug φ (mailCounts selector) fun _ _ => True := by
  refine confined_bind (confined_resolveSelector hwithin "recipient")
    fun recipients χ hχ hrecipients => ?_
  have hcounts : Confined slug χ (Prog.traverse mailCount recipients) fun counts _ =>
      ∀ count ∈ counts, True := by
    refine Policy.mediated_traverse (fun _ _ _ _ _ => trivial) fun session hsession ψ hψ => ?_
    refine confined_bind (confined_requireSession session.id "recipient") fun _ ψ₁ hψ₁ _ => ?_
    have hlisted : Listed ψ₁ session.id :=
      ⟨session, hψ₁ (hψ (hrecipients session hsession)), rfl⟩
    exact confined_bind (confined_context _ (confined_store hlisted)) fun _ _ _ _ =>
      Policy.mediated_pure trivial
  exact Policy.Mediated.toTrue hcounts

theorem confined_mailCountResponse {request : MailCheckRequest}
    {respond : Nat → List MailCountView → RpcResponse}
    (hwithin : Selector.Within slug request.selector) :
    Confined slug φ (mailCountResponse request respond) fun _ _ => True :=
  confined_bind (confined_mailCounts hwithin) fun _ _ _ _ => Policy.mediated_pure trivial

/-- The filter confines who takes part in a message, and who has received it if that is asked. -/
def FilterWithin (slug : String) (filter : MailLogFilter) : Prop :=
  (∃ selector, filter.selector = some selector ∧ Selector.Within slug selector) ∧
    ∀ selector, filter.recipient = some selector → Selector.Within slug selector

theorem confined_filterIds (hwithin : Selector.Within slug selector) :
    Confined slug φ (filterIds (some selector)) fun ids χ =>
      ∃ listed, ids = some listed ∧ ∀ id ∈ listed, Listed χ id := by
  have hstore : Confined slug φ (store (.listSessionsBySelector selector)) fun sessions χ =>
      StoreOp.Says (.listSessionsBySelector selector) (.ok sessions) ∧
        HandlerOp.listed (.store (.listSessionsBySelector selector)) (.ok sessions) ⊆ χ :=
    confined_store hwithin
  refine confined_bind hstore fun sessions χ hχ hsessions => ?_
  refine Policy.mediated_pure ⟨_, rfl, fun id hid => ?_⟩
  obtain ⟨session, hsession, rfl⟩ := List.mem_map.mp hid
  exact ⟨session, hsessions.2 hsession, rfl⟩

theorem confined_recipientIds {recipient : Option Selector}
    (hwithin : ∀ selector, recipient = some selector → Selector.Within slug selector) :
    Confined slug φ (filterIds recipient) fun ids χ =>
      ∀ listed, ids = some listed → ∀ id ∈ listed, Listed χ id := by
  cases recipient with
  | none => exact Policy.mediated_pure fun listed h => by cases h
  | some selector =>
      refine (confined_filterIds (hwithin selector rfl)).weaken fun ids χ hχ h => ?_
      obtain ⟨listed, rfl, hlisted⟩ := h
      intro listed' h
      cases h
      exact hlisted

theorem confined_messageLogViews {filter : MailLogFilter} (hfilter : FilterWithin slug filter)
    (after : Option MailLogCursor) :
    Confined slug φ (messageLogViews filter after) fun _ _ => True := by
  obtain ⟨⟨selector, hselector, hwithin⟩, hrecipient⟩ := hfilter
  rw [messageLogViews, hselector]
  refine confined_bind (confined_filterIds hwithin) fun participantIds χ hχ hparticipants => ?_
  refine confined_bind (confined_recipientIds hrecipient) fun recipientIds χ₁ hχ₁ hids => ?_
  obtain ⟨listed, rfl, hlisted⟩ := hparticipants
  have hlog : StoreOp.within slug χ₁ (.listMessageLog filter.contextId (some listed) recipientIds
      filter.includeSystem after) :=
    ⟨⟨listed, rfl, fun id hid => (hlisted id hid).mono hχ₁⟩, hids⟩
  refine confined_bind (confined_store hlog) fun mail χ₂ hχ₂ _ => ?_
  exact Policy.Mediated.toTrue (confined_messageViews mail)

theorem confined_authorizeObserver :
    Confined slug φ (authorizeObserver config context) fun _ _ => True :=
  confined_bind confined_ensure fun _ _ _ _ => confined_authorize config _ .mailRead .default

theorem confined_mailPeek {request : MailPeekRequest}
    (hfilter : FilterWithin slug request.filter) :
    Confined slug φ (mailPeek config context request) fun _ _ => True := by
  refine confined_bind confined_authorizeObserver fun _ χ hχ _ => ?_
  exact confined_bind (confined_context _ (confined_messageLogViews hfilter _)) fun _ _ _ _ =>
    Policy.mediated_pure trivial

/-- By induction on how often the wait ends with appended mail. -/
theorem confined_tailRounds {filter : MailLogFilter} (hfilter : FilterWithin slug filter)
    (after : Option MailLogCursor) (rounds : Nat) :
    Confined slug φ (tailRounds filter after rounds) fun _ _ => True := by
  induction rounds generalizing φ with
  | zero => exact Policy.mediated_ret trivial
  | succ n ih =>
      refine confined_bind (confined_host trivial) fun ended χ hχ _ => ?_
      cases ended with
      | elapsed => exact Policy.mediated_pure trivial
      | closed => exact Policy.mediated_pure trivial
      | appended =>
          refine confined_bind (confined_messageLogViews hfilter after) fun messages ψ hψ _ => ?_
          split
          · exact ih
          · exact Policy.mediated_pure trivial

theorem confined_tailMessages {request : MailTailRequest}
    (hfilter : FilterWithin slug request.filter) :
    Confined slug φ (tailMessages request) fun _ _ => True := by
  rw [tailMessages]
  split
  · refine confined_bind (confined_host trivial) fun _ χ hχ _ => ?_
    refine confined_bind (confined_messageLogViews hfilter _) fun messages χ₁ hχ₁ _ => ?_
    split
    · exact confined_bind (confined_host trivial) fun rounds _ _ _ =>
        confined_tailRounds hfilter _ rounds
    · exact Policy.mediated_pure trivial
  · exact confined_messageLogViews hfilter _

theorem confined_mailTail {request : MailTailRequest}
    (hfilter : FilterWithin slug request.filter) :
    Confined slug φ (mailTail config context request) fun _ _ => True := by
  refine confined_bind confined_authorizeObserver fun _ χ hχ _ => ?_
  exact confined_bind (confined_tailMessages hfilter) fun _ _ _ _ => Policy.mediated_pure trivial

/-! ## Direct requests -/

/-- A request that selects within the namespace, or one of a session that was listed there. -/
def SessionRpc.Within (slug : String) (φ : Set Session) : SessionRpc → Prop
  | .list request => ∃ selector, request.selector = some selector ∧ Selector.Within slug selector
  | .capture request => Listed φ request.sessionId
  | .mailSend request => Selector.Within slug request.toSelector
  | .mailPeek request => FilterWithin slug request.filter
  | .mailCheck request => Selector.Within slug request.selector
  | .mailStopCheck request => Selector.Within slug request.selector
  | .mailTail request => FilterWithin slug request.filter
  | .nudge request => Selector.Within slug request.toSelector
  | .logs request => Selector.Within slug request.selector
  | .wait request => Selector.Within slug request.selector
  | _ => False

theorem confined_dispatch {request : SessionRpc} (hwithin : request.Within slug φ) :
    Confined slug φ (dispatch config context request) fun _ _ => True := by
  cases request with
  | list request =>
      obtain ⟨selector, hselector, hwithin⟩ := hwithin
      exact confined_list hselector hwithin
  | capture request => exact confined_capture hwithin
  | mailSend request => exact confined_mailSend hwithin
  | mailPeek request => exact confined_mailPeek hwithin
  | mailCheck request => exact confined_mailCountResponse hwithin
  | mailStopCheck request => exact confined_mailCountResponse hwithin
  | mailTail request => exact confined_mailTail hwithin
  | nudge request => exact confined_nudge hwithin
  | logs request => exact confined_logs hwithin
  | wait request => exact confined_wait hwithin
  | _ => exact hwithin.elim

theorem SessionRpc.Within.mono {ψ : Set Session} (h : φ ⊆ ψ) {request : SessionRpc}
    (hwithin : request.Within slug φ) : request.Within slug ψ := by
  cases request with
  | capture request => exact Listed.mono h hwithin
  | _ => exact hwithin

theorem confined_handleDirect {request : SessionRpc} (hwithin : request.Within slug φ) :
    Confined slug φ (handleDirect config context request) fun _ _ => True := by
  have hdoor : Confined slug φ (authorizeAtDoor config context (authzPlan request))
      fun _ _ => True := by
    cases authzPlan request with
    | atDoor action => exact confined_authorize config _ action .default
    | downstream => exact Policy.mediated_ret trivial
  refine confined_bind hdoor.attempt fun answer χ hχ _ => ?_
  cases answer with
  | error report => exact Policy.mediated_pure trivial
  | ok u =>
      exact confined_bind (confined_dispatch (hwithin.mono hχ)).attempt fun _ _ _ _ =>
        Policy.mediated_pure trivial

end LittleOrgans.Handler
