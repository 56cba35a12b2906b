import LittleOrgans.Session.Messaging
import LittleOrgans.Store.MessageLog
import LittleOrgans.Store.Selection

/-!
# Message views

`message_views` of the session daemon: each mail is shown with a view of its sender
and of its recipient, both looked up in the session rows. A mail whose recipient, or
whose sending session, has no row makes the request fail. `messageViews_isOk` says
exactly when that happens.
-/

set_option autoImplicit false

namespace LittleOrgans.Session

open LittleOrgans.Core
open LittleOrgans.Library
open LittleOrgans.Store

/-- Errors of the mail handlers. A store failure carries the context its call site
attaches to it. -/
inductive HandlerError where
  | store (context : String)
  | unknownSession (label : String) (id : SessionId)
  | selectorMatchedNone (label : String) (selector : Selector)
  | unauthorized (id : SessionId)
  | operatorHasNoMailbox
  | observationIsOperatorOnly
  | observationDenied
  | receiptReserved
  | notifyTimeout (text : String)
  | conversationDepth (contextId : String) (depth limit : Nat)
  | senderRate (rate : Nat) (window : Int) (limit : Nat)
  | missingReadAt (id : MessageId)
  | unknownSender (id : SessionId)
  | unknownRecipient (id : SessionId)
  | defaultNamespace
  | namespaceDeletionDenied
  | unknownNamespace (slug : String)
  | cascadeFailed (slug : String)
  | namespaceRaced (slug : String)

/-- A store call, with the context its call site gives to a failure. -/
def withContext {ε α : Type} (context : String) : Except ε α → Except HandlerError α
  | .ok a => .ok a
  | .error _ => .error (.store context)

theorem withContext_eq_ok {ε α : Type} {context : String} {x : Except ε α} {a : α} :
    withContext context x = .ok a ↔ x = .ok a := by
  cases x <;> simp [withContext]

/-! ## Views -/

/-- A recipient, as a reply shows it. -/
structure RecipientSummary where
  sessionId : SessionId
  role : String
  displayLabel : String
  namespaceSlug : String
  deriving DecidableEq

/-- The recipient of a session. -/
def RecipientSummary.fromSession (session : Session) : RecipientSummary where
  sessionId := session.id
  role := session.role
  displayLabel := session.role
  namespaceSlug := session.namespaceSlug

/-- A sender, as a reply shows it. -/
inductive SenderView where
  | session (sessionId : SessionId) (role displayLabel : String) (labels : List Label)
      (namespaceSlug : String)
  | operator (principal displayLabel : String)
  | system
  deriving DecidableEq

/-- A session as the sender. -/
def SenderView.ofSession (session : Session) : SenderView :=
  .session session.id session.role session.role session.labels session.namespaceSlug

/-- The operator as the sender. -/
def SenderView.ofOperator (principal : String) : SenderView := .operator principal "operator"

/-- A mail, as a reply shows it. -/
structure MessageView where
  id : MessageId
  content : String
  sentAt : DateTime
  readAt : Option DateTime
  status : MailStatus
  sender : SenderView
  recipient : RecipientSummary
  contextId : String
  intent : MailIntent
  deriving DecidableEq

/-- A mail with its sender and its recipient. -/
def MessageView.fromMail (mail : Mail) (sender : SenderView) (recipient : RecipientSummary) :
    MessageView where
  id := mail.id
  content := mail.content
  sentAt := mail.sentAt
  readAt := mail.readAt
  status := mail.status
  sender := sender
  recipient := recipient
  contextId := mail.contextId
  intent := mail.intent

/-- The sessions a mail is shown with. -/
def mailSessionIds (item : Mail) : List SessionId :=
  match item.sender with
  | .session id => [item.recipientId, id]
  | .operator _ => [item.recipientId]
  | .system => [item.recipientId]

/-- `message_sessions`. -/
def messageSessions (db : Database) (mail : List Mail) : Except HandlerError (List Session) :=
  withContext "failed to load message session summaries"
    (db.listSessionsByIds (mail.flatMap mailSessionIds).dedup)

/-- The sender of a mail, among the sessions that were loaded for it. -/
def senderView (sessions : List Session) : SenderRef → Except HandlerError SenderView
  | .session id =>
      match sessions.find? fun session => session.id = id with
      | some session => .ok (.ofSession session)
      | none => .error (.unknownSender id)
  | .operator principal => .ok (.ofOperator principal)
  | .system => .ok .system

/-- The recipient of a mail, among the sessions that were loaded for it. -/
def recipientSummary (sessions : List Session) (id : SessionId) :
    Except HandlerError RecipientSummary :=
  match sessions.find? fun session => session.id = id with
  | some session => .ok (.fromSession session)
  | none => .error (.unknownRecipient id)

/-- The view of one mail. -/
def messageView (sessions : List Session) (item : Mail) : Except HandlerError MessageView := do
  let sender ← senderView sessions item.sender
  let recipient ← recipientSummary sessions item.recipientId
  pure (.fromMail item sender recipient)

/-- Mail with the sessions it names. -/
def messageViews (db : Database) (mail : List Mail) : Except HandlerError (List MessageView) := do
  let sessions ← messageSessions db mail
  mail.mapM (messageView sessions)

/-! ## When a mail can be shown -/

/-- The session has a row that decodes. -/
def Resolves (db : Database) (id : SessionId) : Prop := ∃ session, db.Decodes id session

/-- Every session the mail is shown with has a row. -/
def Shows (db : Database) (item : Mail) : Prop := ∀ id ∈ mailSessionIds item, Resolves db id

/-- A view of this mail: its recipient is the one of the mail. -/
def IsViewOf (item : Mail) (view : MessageView) : Prop :=
  ∃ sender recipient, view = .fromMail item sender recipient ∧
    recipient.sessionId = item.recipientId

theorem recipientSummary_eq_ok {sessions : List Session} {id : SessionId}
    {recipient : RecipientSummary} (h : recipientSummary sessions id = .ok recipient) :
    recipient.sessionId = id ∧ ∃ session ∈ sessions, session.id = id := by
  rw [recipientSummary] at h
  split at h
  · next session hfind =>
      cases h
      have hid := List.find?_some hfind
      exact ⟨of_decide_eq_true hid, session, List.mem_of_find?_eq_some hfind,
        of_decide_eq_true hid⟩
  · cases h

theorem messageView_eq_ok {sessions : List Session} {item : Mail} {view : MessageView}
    (h : messageView sessions item = .ok view) :
    IsViewOf item view ∧ ∀ id ∈ mailSessionIds item, ∃ session ∈ sessions, session.id = id := by
  obtain ⟨sender, hsender, h⟩ := Except.bind_eq_ok.mp h
  obtain ⟨recipient, hrecipient, h⟩ := Except.bind_eq_ok.mp h
  cases h
  obtain ⟨hid, hmem⟩ := recipientSummary_eq_ok hrecipient
  refine ⟨⟨sender, recipient, rfl, hid⟩, fun id hmail => ?_⟩
  rw [mailSessionIds] at hmail
  cases hcase : item.sender with
  | session senderId =>
      rw [hcase] at hmail hsender
      rcases List.mem_cons.mp hmail with rfl | hmail
      · exact hmem
      · rw [List.mem_singleton.mp hmail]
        rw [senderView] at hsender
        split at hsender
        · next session hfind =>
            have hid := List.find?_some hfind
            exact ⟨session, List.mem_of_find?_eq_some hfind, of_decide_eq_true hid⟩
        · cases hsender
  | operator principal =>
      rw [hcase] at hmail
      rw [List.mem_singleton.mp hmail]
      exact hmem
  | system =>
      rw [hcase] at hmail
      rw [List.mem_singleton.mp hmail]
      exact hmem

theorem find?_isSome {sessions : List Session} {id : SessionId}
    (h : ∃ session ∈ sessions, session.id = id) :
    ∃ session, (sessions.find? fun session => session.id = id) = some session := by
  obtain ⟨session, hmem, hid⟩ := h
  apply Option.isSome_iff_exists.mp
  rw [List.find?_isSome]
  exact ⟨session, hmem, decide_eq_true hid⟩

theorem messageView_isOk {sessions : List Session} {item : Mail}
    (h : ∀ id ∈ mailSessionIds item, ∃ session ∈ sessions, session.id = id) :
    ∃ view, messageView sessions item = .ok view := by
  have hrecipient : ∃ recipient, recipientSummary sessions item.recipientId = .ok recipient := by
    have hmem : item.recipientId ∈ mailSessionIds item := by
      rw [mailSessionIds]
      split <;> exact List.mem_cons_self
    obtain ⟨session, hfind⟩ := find?_isSome (h _ hmem)
    exact ⟨.fromSession session, by rw [recipientSummary, hfind]⟩
  have hsender : ∃ sender, senderView sessions item.sender = .ok sender := by
    cases hcase : item.sender with
    | session id =>
        have hmem : id ∈ mailSessionIds item := by
          rw [mailSessionIds, hcase]
          exact List.mem_cons_of_mem _ List.mem_cons_self
        obtain ⟨session, hfind⟩ := find?_isSome (h _ hmem)
        exact ⟨.ofSession session, by rw [senderView, hfind]⟩
    | operator principal => exact ⟨_, rfl⟩
    | system => exact ⟨_, rfl⟩
  obtain ⟨recipient, hrecipient⟩ := hrecipient
  obtain ⟨sender, hsender⟩ := hsender
  exact ⟨_, Except.bind_eq_ok.mpr ⟨sender, hsender,
    Except.bind_eq_ok.mpr ⟨recipient, hrecipient, rfl⟩⟩⟩

theorem mem_listSessionsByIds {db : Database} {ids : List SessionId} {sessions : List Session}
    (h : db.listSessionsByIds ids = .ok sessions) {id : SessionId} (hid : id ∈ ids) :
    (∃ session ∈ sessions, session.id = id) ↔ Resolves db id := by
  rw [Database.listSessionsByIds, if_neg (List.ne_nil_of_mem hid)] at h
  constructor
  · rintro ⟨session, hmem, rfl⟩
    obtain ⟨id', row, -, -, hdecodes⟩ := (Database.mem_querySessions h).mp hmem
    have hsame := hdecodes.id_eq
    subst hsame
    exact ⟨session, hdecodes⟩
  · rintro ⟨session, hdecodes⟩
    have hrow := hdecodes
    obtain ⟨row, hlookup, -⟩ := hrow
    exact ⟨session, (Database.mem_querySessions h).mpr
      ⟨id, row, hlookup, decide_eq_true hid, hdecodes⟩, hdecodes.id_eq⟩

theorem mem_messageSessionIds {mail : List Mail} {id : SessionId} :
    id ∈ (mail.flatMap mailSessionIds).dedup ↔ ∃ item ∈ mail, id ∈ mailSessionIds item := by
  rw [List.mem_dedup, List.mem_flatMap]

/-- Mail can be shown when every session it is shown with has a row, and only then. -/
theorem messageViews_isOk {db : Database} {mail : List Mail} :
    (∃ views, messageViews db mail = .ok views) ↔ ∀ item ∈ mail, Shows db item := by
  constructor
  · rintro ⟨views, h⟩ item hitem id hid
    obtain ⟨sessions, hsessions, hviews⟩ := Except.bind_eq_ok.mp h
    rw [messageSessions, withContext_eq_ok] at hsessions
    obtain ⟨view, hview⟩ := Except.mapM_isOk.mp ⟨views, hviews⟩ item hitem
    have hmem := mem_messageSessionIds.mpr ⟨item, hitem, hid⟩
    exact (mem_listSessionsByIds hsessions hmem).mp ((messageView_eq_ok hview).2 id hid)
  · intro h
    have hids : ∀ id ∈ (mail.flatMap mailSessionIds).dedup, Resolves db id := by
      intro id hid
      obtain ⟨item, hitem, hmem⟩ := mem_messageSessionIds.mp hid
      exact h item hitem id hmem
    have hquery : ∃ sessions, db.listSessionsByIds (mail.flatMap mailSessionIds).dedup =
        .ok sessions := by
      rw [Database.listSessionsByIds]
      split
      · exact ⟨[], rfl⟩
      · exact Database.querySessions_isOk.mpr fun id row _ hkeep =>
          hids id (of_decide_eq_true hkeep)
    obtain ⟨sessions, hsessions⟩ := hquery
    have hviews : ∃ views, mail.mapM (messageView sessions) = .ok views := by
      refine Except.mapM_isOk.mpr fun item hitem => messageView_isOk fun id hid => ?_
      have hmem := mem_messageSessionIds.mpr ⟨item, hitem, hid⟩
      exact (mem_listSessionsByIds hsessions hmem).mpr (h item hitem id hid)
    obtain ⟨views, hviews⟩ := hviews
    exact ⟨views, Except.bind_eq_ok.mpr ⟨sessions, withContext_eq_ok.mpr hsessions, hviews⟩⟩

/-- The views are those of the mail, in its order. -/
theorem forall₂_messageViews {db : Database} {mail : List Mail} {views : List MessageView}
    (h : messageViews db mail = .ok views) : List.Forall₂ IsViewOf mail views := by
  obtain ⟨sessions, -, hviews⟩ := Except.bind_eq_ok.mp h
  exact (Except.mapM_eq_ok.mp hviews).imp fun _ _ hview => (messageView_eq_ok hview).1

/-- The delivery a view shows. -/
def viewDelivery (view : MessageView) : MessageId × SessionId :=
  (view.id, view.recipient.sessionId)

theorem map_viewDelivery_of_isViewOf {items : List Mail} {views : List MessageView}
    (h : List.Forall₂ IsViewOf items views) :
    views.map viewDelivery = items.map deliveryKey := by
  induction h with
  | nil => rfl
  | @cons item view items views hview hrest ih =>
      obtain ⟨sender, recipient, rfl, hrecipient⟩ := hview
      rw [List.map_cons, List.map_cons, ih]
      exact congrArg (· :: _) (Prod.ext rfl hrecipient)

end LittleOrgans.Session
