import LittleOrgans.Handler.Mail
import LittleOrgans.Handler.SessionActs

/-!
# Mail requests within the policy

A send writes only to recipients that the caller was allowed to write to, also where the
message had been written before and is only reported again; a read opens the caller's own
mailbox, and its receipts are the only mail that the daemon writes by itself. Observation and
counting rest on a decision that names no session.
-/

set_option autoImplicit false

namespace LittleOrgans.Handler

open LittleOrgans.Core
open LittleOrgans.Library
open LittleOrgans.Store
open LittleOrgans.Identity
open LittleOrgans.Session (MailSendRequest MailLogFilter MailNotifyMode MessageView RecipientSummary
  IsViewOf readReceipt receiptTo)
open LittleOrgans.Runtime (NudgeMode)

variable {config : DaemonConfig} {x : Subject} {φ : Set Grant}

/-! ## Views -/

/-- A recipient is shown under its own id. -/
theorem recipientSummary_sessionId {sessions : List Session} {id : SessionId}
    {recipient : RecipientSummary} (h : recipientSummary sessions id = .ok recipient) :
    recipient.sessionId = id := by
  rw [recipientSummary] at h
  split at h
  · next session hfind =>
      cases h
      have hid := List.find?_some hfind
      exact of_decide_eq_true hid
  · cases h

/-- A mail is shown as it is. -/
theorem isViewOf_of_messageView {sessions : List Session} {item : Mail} {view : MessageView}
    (h : messageView sessions item = .ok view) : IsViewOf item view := by
  obtain ⟨sender, hsender, h⟩ := Except.bind_eq_ok.mp h
  obtain ⟨recipient, hrecipient, h⟩ := Except.bind_eq_ok.mp h
  cases h
  exact ⟨sender, recipient, rfl, recipientSummary_sessionId hrecipient⟩

/-- Each view is one of a mail that was asked for. -/
theorem acts_messageViews (mail : List Mail) :
    Acts config x φ (messageViews mail) fun views _ =>
      ∀ view ∈ views, ∃ item ∈ mail, view.recipient.sessionId = item.recipientId := by
  refine acts_bind (acts_context _ (acts_store trivial)) fun sessions χ hχ _ => ?_
  refine acts_ofExcept.weaken fun views _ _ hviews view hview => ?_
  obtain ⟨item, hitem, hview⟩ := (Except.mem_of_mapM_eq_ok hviews).mp hview
  obtain ⟨sender, recipient, rfl, hid⟩ := isViewOf_of_messageView hview
  exact ⟨item, hitem, hid⟩

/-! ## The caller -/

/-- Who a message of this caller is from. -/
def SentBy (config : DaemonConfig) (principal : Principal) : SenderRef → Prop
  | .session _ => True
  | .operator text => config.principalText principal = text
  | .system => False

variable {principal : Principal} {callerSessionId : Option SessionId}

/-- The sender of a mail is the caller. -/
theorem acts_effectiveSender :
    Acts config x φ (effectiveSender config ⟨principal, callerSessionId⟩) fun sender _ =>
      SentBy config principal sender := by
  cases callerSessionId with
  | none => exact Policy.mediated_pure rfl
  | some id =>
      refine acts_bind (acts_requireSession id "sender") fun _ χ hχ _ => ?_
      exact Policy.mediated_pure trivial

/-- The message of a caller that may write to all its recipients. -/
theorem mayWrite_of_sentBy {mail : Mail} {recipientIds : List SessionId}
    (hsender : SentBy config principal mail.sender)
    (hrecipients : ∀ id ∈ recipientIds, Allowed (.caller principal) φ .mailSend (.session id)) :
    MayWrite config (.caller principal) φ mail recipientIds := by
  rw [MayWrite]
  cases hcase : mail.sender with
  | session id => exact hrecipients
  | operator text =>
      rw [hcase] at hsender
      exact ⟨⟨principal, rfl, hsender⟩, hrecipients⟩
  | system =>
      rw [hcase] at hsender
      exact hsender.elim

/-- A caller finds its own mailbox. -/
theorem acts_callerMailbox (context : RequestContext) :
    Acts config x φ (callerMailbox context) fun _ _ => True := by
  refine acts_bind acts_required fun id χ hχ _ => ?_
  refine acts_bind (acts_resolveSelector (.id id) "recipient") fun sessions χ₁ hχ₁ _ => ?_
  exact Policy.Mediated.toTrue acts_required

/-! ## Nudges -/

/-- The session that was nudged, under its text. -/
def Nudged (x : Subject) (φ : Set Grant) (delivery : NudgeDelivery) : Prop :=
  ∃ id, delivery.toSession = idText id ∧ Allowed x φ .nudge (.session id)

/-- A nudge is authorized for its session. -/
theorem acts_nudgeOne (content : String) (mode : NudgeMode) (timeoutMs : Option Nat)
    (id : SessionId) :
    Acts config (.caller principal) φ
      (nudgeOne config ⟨principal, callerSessionId⟩ content mode timeoutMs id)
      fun delivery χ => Nudged (.caller principal) χ delivery := by
  refine acts_bind (acts_authorizeSession principal .nudge id) fun _ χ hχ hnudge => ?_
  refine acts_bind (acts_context _ (acts_port hnudge)) fun result χ₁ hχ₁ _ => ?_
  exact Policy.mediated_pure ⟨id, rfl, hnudge.mono hχ₁⟩

/-- Every nudge of a request is authorized. -/
theorem acts_nudge (request : NudgeRequest) :
    Acts config (.caller principal) φ (nudge config ⟨principal, callerSessionId⟩ request)
      fun response χ => Justified (.caller principal) χ response := by
  have hstable : Policy.Stable (P := daemonPolicy config)
      fun delivery χ => Nudged (.caller principal) χ delivery := by
    intro delivery χ χ' hχ hdelivery
    obtain ⟨id, hid, hnudge⟩ := hdelivery
    exact ⟨id, hid, hnudge.mono hχ⟩
  refine acts_bind (acts_resolveSelector request.toSelector "recipient") fun recipients χ hχ _ => ?_
  refine acts_bind (acts_forTargets hstable fun id ψ _ =>
    acts_nudgeOne request.content request.mode none id) fun collected χ₁ hχ₁ hcollected => ?_
  exact Policy.mediated_pure hcollected

/-! ## Sending -/

/-- A recipient that may be sent to was authorized. -/
theorem acts_askRecipient (recipient : Session) :
    Acts config (.caller principal) φ (askRecipient config ⟨principal, callerSessionId⟩ recipient)
      fun answer χ => answer.2 = .ok () →
        Allowed (.caller principal) χ .mailSend (.session answer.1.id) := by
  refine acts_bind (acts_authorizeSession principal .mailSend recipient.id).attempt
    fun answer χ hχ hanswer => ?_
  exact Policy.mediated_pure fun hok => hanswer () hok

/-- Who is granted has been asked for. -/
theorem mem_granted {answers : List (Session × Except Report Unit)} {session : Session}
    (h : session ∈ granted answers) :
    ∃ answer ∈ answers, answer.1 = session ∧ answer.2 = .ok () := by
  obtain ⟨answer, hmem, hsession⟩ := List.mem_filterMap.mp h
  refine ⟨answer, hmem, ?_⟩
  cases hcase : answer.2 with
  | ok u =>
      rw [hcase] at hsession
      cases hsession
      exact ⟨rfl, rfl⟩
  | error report =>
      rw [hcase] at hsession
      cases hsession

/-- A response without delivered mail needs no grant. -/
theorem deliverable_failedResponse {failed : List (Session × Report)} {result : MailSendResult}
    (h : result ∈ (failedResponse failed).results) : Deliverable x φ result := by
  obtain ⟨failure, -, rfl⟩ := List.mem_map.mp h
  exact fun hok => by cases hok

theorem stable_deliverable : Policy.Stable (P := daemonPolicy config)
    fun result χ => Deliverable x χ result :=
  fun _ _ _ hχ hresult hok => (hresult hok).mono hχ

/-- The results of a send whose recipients are all allowed. -/
def AllDeliverable (x : Subject) (φ : Set Grant) (response : MailSendResponse) : Prop :=
  ∀ result ∈ response.results, Deliverable x φ result

variable {recipientIds : List SessionId}

/-- A mail is written once for all of its recipients. -/
theorem acts_appendIdempotentMail {mail : Mail}
    (hwrite : MayWrite config x φ mail recipientIds)
    (hrecipients : ∀ id ∈ recipientIds, Allowed x φ .mailSend (.session id)) :
    Acts config x φ (appendIdempotentMail mail recipientIds) fun response χ =>
      ∀ replayed, response = some replayed → AllDeliverable x χ replayed := by
  refine acts_bind (acts_context _ (acts_store_answers hwrite)) fun replay χ hχ htells => ?_
  cases replay with
  | none => exact Policy.mediated_pure fun replayed h => by cases h
  | some mail =>
      refine acts_bind (acts_messageViews mail) fun views χ₁ hχ₁ hviews => ?_
      refine Policy.mediated_pure fun replayed h => ?_
      cases h
      intro result hresult _
      obtain ⟨view, hview, rfl⟩ := List.mem_map.mp hresult
      obtain ⟨item, hitem, hid⟩ := hviews view hview
      have hmem := htells mail rfl item hitem
      rw [← hid] at hmem
      exact (hrecipients _ hmem).mono (hχ.trans hχ₁)

/-- The limits of a mail only read the store. -/
theorem acts_enforceMailSafety (mail : Mail) :
    Acts config x φ (enforceMailSafety config mail) fun _ _ => True := by
  rw [enforceMailSafety]
  split
  · exact Policy.mediated_pure trivial
  · refine acts_bind (acts_context _ (acts_store trivial)) fun depth χ hχ _ => ?_
    refine acts_bind acts_ensure fun _ χ₁ hχ₁ _ => ?_
    refine acts_bind (acts_host trivial) fun now χ₂ hχ₂ _ => ?_
    refine acts_bind (acts_context _ (acts_store trivial)) fun rate χ₃ hχ₃ _ => ?_
    exact Policy.Mediated.toTrue acts_ensure

/-- A notification of a recipient, from its request. -/
theorem acts_notifyResult (request : MailSendRequest) (id : SessionId) :
    Acts config (.caller principal) φ
      (notifyResult config ⟨principal, callerSessionId⟩ request id) fun _ _ => True := by
  rw [notifyResult]
  cases request.notify with
  | none => exact Policy.mediated_pure trivial
  | some mode =>
      refine acts_bind (acts_nudgeOne _ _ _ id).attempt fun answer χ hχ _ => ?_
      exact Policy.mediated_pure trivial

/-- A recipient is notified once its mail was allowed. -/
theorem acts_notifyView (request : MailSendRequest) (inserted : Bool) {view : MessageView}
    (hview : Allowed (.caller principal) φ .mailSend (.session view.recipient.sessionId)) :
    Acts config (.caller principal) φ
      (notifyView config ⟨principal, callerSessionId⟩ request inserted view) fun result χ =>
        Deliverable (.caller principal) χ result := by
  cases inserted with
  | false => exact Policy.mediated_pure fun _ => hview
  | true =>
      refine acts_bind (acts_notifyResult request _) fun notified χ hχ _ => ?_
      exact Policy.mediated_pure fun _ => hview.mono hχ

/-- Appended mail is announced. -/
theorem acts_emitMailAppends (mail : List Mail) :
    Acts config x φ (emitMailAppends mail) fun _ _ => True :=
  Policy.mediated_forEach fun _ _ _ _ => acts_host trivial

/-- Mail that was inserted is announced. -/
theorem acts_emitInserted (outcome : MailWriteOutcome) :
    Acts config x φ (emitInserted outcome) fun _ _ => True := by
  rw [emitInserted]
  split
  · exact acts_emitMailAppends outcome.mail
  · exact Policy.mediated_ret trivial

/-- The recipients are notified side by side, each with its own decision. -/
theorem acts_reportWritten (request : MailSendRequest) {outcome : MailWriteOutcome}
    (haddressed : AddressedTo recipientIds outcome.mail)
    (hrecipients : ∀ id ∈ recipientIds, Allowed (.caller principal) φ .mailSend (.session id)) :
    Acts config (.caller principal) φ
      (reportWritten config ⟨principal, callerSessionId⟩ request outcome) fun response χ =>
        AllDeliverable (.caller principal) χ response := by
  refine acts_bind (acts_emitInserted outcome) fun _ χ hχ _ => ?_
  refine acts_bind (acts_messageViews outcome.mail) fun views χ₁ hχ₁ hviews => ?_
  have hnotify : ∀ p ∈ views.map (notifyView config ⟨principal, callerSessionId⟩ request
      outcome.inserted), Acts config (.caller principal) χ₁ p fun result ψ =>
        Deliverable (.caller principal) ψ result := by
    intro p hp
    obtain ⟨view, hview, rfl⟩ := List.mem_map.mp hp
    obtain ⟨item, hitem, hid⟩ := hviews view hview
    have hmem := haddressed item hitem
    rw [← hid] at hmem
    exact acts_notifyView request outcome.inserted ((hrecipients _ hmem).mono (hχ.trans hχ₁))
  refine acts_bind (Policy.mediated_joinAll (fun _ => acts_host trivial) stable_deliverable hnotify)
    fun results χ₂ hχ₂ hresults => ?_
  exact Policy.mediated_pure hresults

/-- Mail is written for authorized recipients. -/
theorem acts_persistMailSend (request : MailSendRequest) {mail : Mail} {deliverable : List Session}
    (hsender : SentBy config principal mail.sender)
    (hrecipients : ∀ id ∈ deliverable.map fun session => session.id,
      Allowed (.caller principal) φ .mailSend (.session id)) :
    Acts config (.caller principal) φ
      (persistMailSend config ⟨principal, callerSessionId⟩ request mail deliverable)
      fun response χ => AllDeliverable (.caller principal) χ response := by
  have hinsert : Acts config (.caller principal) φ
      (store (.insertMailForRecipients mail (deliverable.map fun session => session.id)))
      fun outcome _ => StoreOp.Says (.insertMailForRecipients mail (deliverable.map fun session =>
        session.id)) (.ok outcome) := acts_store_answers (mayWrite_of_sentBy hsender hrecipients)
  refine acts_bind (acts_context _ hinsert).attempt fun written χ hχ hwritten => ?_
  cases written with
  | error report =>
      exact Policy.mediated_pure fun result hresult => deliverable_failedResponse hresult
  | ok outcome =>
      have haddressed := hwritten outcome rfl outcome rfl
      exact acts_reportWritten request haddressed fun id hid => (hrecipients id hid).mono hχ

/-- A mail goes to those who may be sent to. -/
theorem acts_sendToDeliverable (request : MailSendRequest) {sender : SenderRef}
    {first : Session} {rest : List Session} (hsender : SentBy config principal sender)
    (hrecipients : ∀ session ∈ first :: rest,
      Allowed (.caller principal) φ .mailSend (.session session.id)) :
    Acts config (.caller principal) φ
      (sendToDeliverable config ⟨principal, callerSessionId⟩ request sender first rest)
      fun response χ => AllDeliverable (.caller principal) χ response := by
  refine acts_bind (acts_host trivial) fun id χ hχ _ => ?_
  refine acts_bind (acts_host trivial) fun sentAt χ₁ hχ₁ _ => ?_
  have hids : ∀ id ∈ (first :: rest).map fun session => session.id,
      Allowed (.caller principal) χ₁ .mailSend (.session id) := by
    intro id hid
    obtain ⟨session, hsession, rfl⟩ := List.mem_map.mp hid
    exact (hrecipients session hsession).mono (hχ.trans hχ₁)
  refine acts_bind (acts_appendIdempotentMail (mayWrite_of_sentBy hsender hids) hids)
    fun replayed χ₂ hχ₂ hreplayed => ?_
  cases replayed with
  | some response => exact Policy.mediated_pure (hreplayed response rfl)
  | none =>
      refine acts_bind (acts_enforceMailSafety _) fun _ χ₃ hχ₃ _ => ?_
      exact acts_persistMailSend request hsender fun id hid => (hids id hid).mono (hχ₂.trans hχ₃)

/-- Everything `mail_send` does, its caller was allowed. -/
theorem acts_mailSend (request : MailSendRequest) :
    Acts config (.caller principal) φ (mailSend config ⟨principal, callerSessionId⟩ request)
      fun response χ => Justified (.caller principal) χ response := by
  refine acts_bind acts_ofExcept fun _ χ hχ _ => ?_
  refine acts_bind acts_ofExcept fun _ χ₁ hχ₁ _ => ?_
  refine acts_bind (acts_resolveSelector request.toSelector "recipient")
    fun recipients χ₂ hχ₂ _ => ?_
  refine acts_bind acts_effectiveSender fun sender χ₃ hχ₃ hsender => ?_
  have hstable : Policy.Stable (P := daemonPolicy config)
      fun (answer : Session × Except Report Unit) χ => answer.2 = .ok () →
        Allowed (.caller principal) χ .mailSend (.session answer.1.id) :=
    fun answer χ χ' hχ hanswer hok => (hanswer hok).mono hχ
  refine acts_bind (Policy.mediated_traverse hstable fun recipient _ _ _ =>
    acts_askRecipient recipient) fun answers χ₄ hχ₄ hanswers => ?_
  cases hgranted : granted answers with
  | nil => exact Policy.mediated_pure fun result hresult => deliverable_failedResponse hresult
  | cons first rest =>
      have hrecipients : ∀ session ∈ first :: rest,
          Allowed (.caller principal) χ₄ .mailSend (.session session.id) := by
        intro session hsession
        rw [← hgranted] at hsession
        obtain ⟨answer, hanswer, rfl, hok⟩ := mem_granted hsession
        exact hanswers answer hanswer hok
      refine acts_bind (acts_sendToDeliverable request hsender hrecipients)
        fun sent χ₅ hχ₅ hsent => ?_
      refine Policy.mediated_pure fun result hresult => ?_
      rcases List.mem_append.mp hresult with hrefused | hresult
      · exact deliverable_failedResponse hrefused
      · exact hsent result hresult

/-! ## Reading -/

/-- A receipt goes out for a mail whose read was allowed. -/
theorem acts_emitReadReceipt {id : SessionId} (hread : Allowed x φ .mailRead (.session id))
    (reader : Session) (item : Mail) :
    Acts config x φ (emitReadReceipt config reader item) fun _ _ => True := by
  rw [emitReadReceipt]
  cases receiptTo item with
  | none => exact Policy.mediated_ret trivial
  | some sender =>
      refine acts_bind acts_required fun readAt χ hχ _ => ?_
      refine acts_bind (acts_host trivial) fun messageId χ₁ hχ₁ _ => ?_
      refine acts_bind (acts_host trivial) fun sentAt χ₂ hχ₂ _ => ?_
      have hwrite : MayWrite config x χ₂ (readReceipt messageId sender item
          (readReceiptContent config reader item readAt) sentAt) [sender] :=
        ⟨id, hread.mono (hχ.trans (hχ₁.trans hχ₂))⟩
      refine acts_bind (acts_context _ (acts_store hwrite)) fun inserted χ₃ hχ₃ _ => ?_
      exact acts_emitMailAppends _

/-- What is read is mail to the session whose mailbox was opened. -/
theorem acts_mailReadOne (recipient : Session) (peek : Bool) :
    Acts config (.caller principal) φ
      (mailReadOne config ⟨principal, callerSessionId⟩ recipient peek) fun messages χ =>
        ∀ message ∈ messages, Opened (.caller principal) χ message := by
  refine acts_bind (acts_authorizeSession principal .mailRead recipient.id) fun _ χ hχ hread => ?_
  refine acts_bind (acts_host trivial) fun now χ₁ hχ₁ _ => ?_
  refine acts_bind (acts_context _ (acts_store_answers (hread.mono hχ₁)))
    fun mail χ₂ hχ₂ htells => ?_
  have hviews : ∀ χ₃, χ₂ ⊆ χ₃ → Acts config (.caller principal) χ₃ (messageViews mail)
      fun messages χ => ∀ message ∈ messages, Opened (.caller principal) χ message := by
    intro χ₃ hχ₃
    refine (acts_messageViews mail).weaken fun views χ₄ hχ₄ hviews view hview => ?_
    obtain ⟨item, hitem, hid⟩ := hviews view hview
    have haddressed := List.mem_singleton.mp (htells mail rfl item hitem)
    rw [Opened, hid, haddressed]
    exact hread.mono (hχ₁.trans (hχ₂.trans (hχ₃.trans hχ₄)))
  cases peek with
  | true => exact hviews χ₂ Set.Subset.rfl
  | false =>
      refine acts_bind (Policy.mediated_forEach fun item _ ψ hψ =>
        acts_emitReadReceipt (hread.mono (hχ₁.trans (hχ₂.trans hψ))) recipient item)
        fun _ χ₃ hχ₃ _ => hviews χ₃ hχ₃

/-- Everything `mail_read` does, its caller was allowed. -/
theorem acts_mailRead :
    Acts config (.caller principal) φ (mailRead config ⟨principal, callerSessionId⟩)
      fun response χ => Justified (.caller principal) χ response := by
  refine acts_bind (acts_callerMailbox _) fun recipient χ hχ _ => ?_
  refine acts_bind (acts_mailReadOne recipient false) fun messages χ₁ hχ₁ hmessages => ?_
  exact Policy.mediated_pure hmessages

/-! ## Counting -/

/-- The counts of unread mail, once the read was allowed. -/
theorem acts_mailCounts (hread : Allowed x φ .mailRead .default) (selector : Selector) :
    Acts config x φ (mailCounts selector) fun _ _ => True := by
  refine acts_bind (acts_resolveSelector selector "recipient") fun recipients χ hχ _ => ?_
  have hcounts : Acts config x χ (Prog.traverse mailCount recipients) fun counts _ =>
      ∀ count ∈ counts, True := by
    refine Policy.mediated_traverse (fun _ _ _ _ _ => trivial) fun session _ ψ hψ => ?_
    refine acts_bind (acts_requireSession session.id "recipient") fun _ ψ₁ hψ₁ _ => ?_
    refine acts_bind (acts_context _ (acts_store (hread.mono (hχ.trans (hψ.trans hψ₁)))))
      fun unread _ _ _ => ?_
    exact Policy.mediated_pure trivial
  exact Policy.Mediated.toTrue hcounts

/-- Everything `mail_check` does, its caller was allowed. -/
theorem acts_mailCheck (hread : Allowed x φ .mailRead .default) (request : MailCheckRequest) :
    Acts config x φ (mailCheck request) fun response χ => Justified x χ response :=
  acts_bind (acts_mailCounts hread request.selector) fun _ _ hχ _ =>
    Policy.mediated_pure (hread.mono hχ)

/-- Everything `mail_stop_check` does, its caller was allowed. -/
theorem acts_mailStopCheck (hread : Allowed x φ .mailRead .default) (request : MailCheckRequest) :
    Acts config x φ (mailStopCheck request) fun response χ => Justified x χ response :=
  acts_bind (acts_mailCounts hread request.selector) fun _ _ hχ _ =>
    Policy.mediated_pure (hread.mono hχ)

/-! ## Observing -/

/-- The sessions of a log filter. -/
theorem acts_filterIds (selector : Option Selector) :
    Acts config x φ (filterIds selector) fun _ _ => True := by
  cases selector with
  | none => exact Policy.mediated_pure trivial
  | some selector =>
      exact acts_bind (acts_store trivial) fun _ _ _ _ => Policy.mediated_pure trivial

/-- A page of the log, once the read was allowed. -/
theorem acts_messageLogViews (hread : Allowed x φ .mailRead .default) (filter : MailLogFilter)
    (after : Option MailLogCursor) :
    Acts config x φ (messageLogViews filter after) fun _ _ => True := by
  refine acts_bind (acts_filterIds filter.selector) fun participantIds χ hχ _ => ?_
  refine acts_bind (acts_filterIds filter.recipient) fun recipientIds χ₁ hχ₁ _ => ?_
  refine acts_bind (acts_store (hread.mono (hχ.trans hχ₁))) fun mail χ₂ hχ₂ _ => ?_
  exact Policy.Mediated.toTrue (acts_messageViews mail)

/-- Who observes the log was allowed to read it. -/
theorem acts_authorizeObserver :
    Acts config (.caller principal) φ (authorizeObserver config ⟨principal, callerSessionId⟩)
      fun _ χ => Allowed (.caller principal) χ .mailRead .default :=
  acts_bind acts_ensure fun _ _ _ _ => acts_authorize principal .mailRead .default

/-- Everything `mail_peek` does, its caller was allowed. -/
theorem acts_mailPeek (request : MailPeekRequest) :
    Acts config (.caller principal) φ (mailPeek config ⟨principal, callerSessionId⟩ request)
      fun response χ => Justified (.caller principal) χ response := by
  refine acts_bind acts_authorizeObserver fun _ χ hχ hread => ?_
  refine acts_bind (acts_context _ (acts_messageLogViews hread _ _)) fun messages χ₁ hχ₁ _ => ?_
  exact Policy.mediated_pure (hread.mono hχ₁)

/-- By induction on how often the wait ends with appended mail. -/
theorem acts_tailRounds (hread : Allowed x φ .mailRead .default) (filter : MailLogFilter)
    (after : Option MailLogCursor) (rounds : Nat) :
    Acts config x φ (tailRounds filter after rounds) fun _ _ => True := by
  induction rounds generalizing φ with
  | zero => exact Policy.mediated_ret trivial
  | succ n ih =>
      refine acts_bind (acts_host trivial) fun ended χ hχ _ => ?_
      cases ended with
      | elapsed => exact Policy.mediated_pure trivial
      | closed => exact Policy.mediated_pure trivial
      | appended =>
          refine acts_bind (acts_messageLogViews (hread.mono hχ) filter after)
            fun messages ψ hψ _ => ?_
          split
          · exact ih (hread.mono (hχ.trans hψ))
          · exact Policy.mediated_pure trivial

/-- A page behind the cursor of a tail. -/
theorem acts_tailMessages (hread : Allowed x φ .mailRead .default) (request : MailTailRequest) :
    Acts config x φ (tailMessages request) fun _ _ => True := by
  rw [tailMessages]
  split
  · refine acts_bind (acts_host trivial) fun _ χ hχ _ => ?_
    refine acts_bind (acts_messageLogViews (hread.mono hχ) _ _) fun messages χ₁ hχ₁ _ => ?_
    split
    · refine acts_bind (acts_host trivial) fun rounds χ₂ hχ₂ _ => ?_
      exact acts_tailRounds (hread.mono (hχ.trans (hχ₁.trans hχ₂))) _ _ rounds
    · exact Policy.mediated_pure trivial
  · exact acts_messageLogViews hread _ _

/-- Everything `mail_tail` does, its caller was allowed. -/
theorem acts_mailTail (request : MailTailRequest) :
    Acts config (.caller principal) φ (mailTail config ⟨principal, callerSessionId⟩ request)
      fun response χ => Justified (.caller principal) χ response := by
  refine acts_bind acts_authorizeObserver fun _ χ hχ hread => ?_
  refine acts_bind (acts_tailMessages hread request) fun messages χ₁ hχ₁ _ => ?_
  exact Policy.mediated_pure (hread.mono hχ₁)

end LittleOrgans.Handler
