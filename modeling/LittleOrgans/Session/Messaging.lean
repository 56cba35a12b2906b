import LittleOrgans.Library.Except
import LittleOrgans.Session.Observers

/-!
# Mail handlers

`mail_send` and `mail_read` of the session daemon, each taken as a whole: a send
delivers to the recipients that run, after the idempotency check and the circuit
breaker; a read drains the mailbox of its caller and then answers every drained
message of a session with a read receipt. A receipt is inserted for the sender
without a look at the sender's state.
-/

set_option autoImplicit false

namespace LittleOrgans.Session

open LittleOrgans.Core
open LittleOrgans.Library
open LittleOrgans.Store
open LittleOrgans.Daemon

/-- `MailSafetyConfig`. -/
structure MailSafetyConfig where
  conversationDepthLimit : Nat
  senderRateLimit : Nat
  senderRateWindow : Int

/-- Messages of a conversation that are no receipts. -/
def countConversationDepth (db : Database) (contextId : String) : Nat :=
  db.messages.rows.countP fun row => row.2.contextId = contextId ∧ row.2.intent ≠ .receipt

/-- Messages of a sender since a time, receipts left out. -/
def countSenderRateSince (db : Database) (sender : SenderRef) (since : DateTime) : Nat :=
  db.messages.rows.countP fun row =>
    row.2.sender = sender ∧ row.2.intent ≠ .receipt ∧ since ≤ row.2.sentAt

/-- The circuit breaker lets a mail pass. -/
def enforceMailSafety (db : Database) (limits : MailSafetyConfig) (mail : Mail)
    (now : DateTime) : Bool :=
  if mail.intent = .receipt then true
  else
    decide (countConversationDepth db mail.contextId < limits.conversationDepthLimit) &&
      decide (countSenderRateSince db mail.sender (now - limits.senderRateWindow) <
        limits.senderRateLimit)

/-- The recipients a send delivers to: those that run and that the caller may
write to. -/
def deliverableMailRecipients (db : Database) (recipients : List SessionId)
    (authorized : SessionId → Bool) : List SessionId :=
  recipients.filter fun id =>
    match db.sessions.lookup id with
    | some row => row.state = .running ∧ authorized id
    | none => false

/-- `mail_send`: `mail` is the mail of the request, `recipients` what its selector
resolves to. -/
def mailSend (db : Database) (limits : MailSafetyConfig) (mail : Mail)
    (recipients : List SessionId) (authorized : SessionId → Bool) (now : DateTime) : Database :=
  let recipientIds := deliverableMailRecipients db recipients authorized
  if recipientIds = [] then db
  else
    match db.loadIdempotentReplay mail recipientIds with
    | .error _ => db
    | .ok (some _) => db
    | .ok none =>
        if enforceMailSafety db limits mail now then
          match db.insertMailForRecipients mail recipientIds with
          | .ok (_, db') => db'
          | .error _ => db
        else db

/-- The read receipt for a drained message of a session. -/
def readReceipt (id : MessageId) (sender : SessionId) (item : Mail) (content : String)
    (sentAt : DateTime) : Mail where
  id := id
  sender := .system
  recipientId := sender
  content := content
  sentAt := sentAt
  readAt := none
  status := .unread
  contextId := item.contextId
  intent := .receipt
  idempotencyKey := none

/-- `emit_read_receipts`: one insert for each drained message of a session, up to
the first that fails. `fresh` supplies the id and the text of each receipt. -/
def emitReadReceipts (fresh : Mail → MessageId × String) (sentAt : DateTime) (db : Database) :
    List Mail → Database
  | [] => db
  | item :: rest =>
      match item.sender with
      | .session sender =>
          if item.intent = .receipt then emitReadReceipts fresh sentAt db rest
          else if item.readAt = none then db
          else
            match db.insertMail (readReceipt (fresh item).1 sender item (fresh item).2 sentAt) with
            | .ok (_, db') => emitReadReceipts fresh sentAt db' rest
            | .error _ => db
      | .operator _ => emitReadReceipts fresh sentAt db rest
      | .system => emitReadReceipts fresh sentAt db rest

/-- `mail_read` of the session `reader`. -/
def mailRead (db : Database) (reader : SessionId) (readAt : DateTime)
    (fresh : Mail → MessageId × String) : Database :=
  let drained := db.readUnreadMail reader readAt false
  emitReadReceipts fresh readAt drained.2 drained.1

/-! ## What the handlers do to deliveries -/

/-- Every delivery the second store holds and the first does not satisfies `p`. -/
def NewDeliveries (p : MessageId × SessionId → DeliveryRow → Prop) (db db' : Database) : Prop :=
  ∀ key delivery, db'.deliveries.lookup key = some delivery →
    db.deliveries.lookup key = some delivery ∨ p key delivery

theorem insertDelivery_eq_ok {db db' : Database} {mail : Mail} {recipientId : SessionId}
    (h : db.insertDelivery mail recipientId = .ok db') :
    db.deliveries.lookup (mail.id, recipientId) = none ∧
      db' = { db with
        deliveries := db.deliveries.insert (mail.id, recipientId) (deliveryRow mail) } := by
  rw [Database.insertDelivery] at h
  split at h
  · cases h
  · next hkey =>
      cases h
      exact ⟨by simpa [Table.contains] using hkey, rfl⟩

theorem insertDeliveries_eq_ok {mail : Mail} {recipientIds : List SessionId} {db db' : Database}
    (h : db.insertDeliveries mail recipientIds = .ok db') :
    db'.sessions = db.sessions ∧
      NewDeliveries (fun key delivery => key.2 ∈ recipientIds ∧ delivery = deliveryRow mail)
        db db' := by
  induction recipientIds generalizing db with
  | nil =>
      cases h
      exact ⟨rfl, fun _ _ h => .inl h⟩
  | cons recipientId rest ih =>
      obtain ⟨db₁, hinsert, hrest⟩ := Except.bind_eq_ok.mp h
      obtain ⟨hnone, rfl⟩ := insertDelivery_eq_ok hinsert
      obtain ⟨hsessions, hnew⟩ := ih hrest
      refine ⟨hsessions, fun key delivery hkey => ?_⟩
      rcases hnew key delivery hkey with hold | ⟨hmem, hrow⟩
      · have hlookup : (db.deliveries.insert (mail.id, recipientId) (deliveryRow mail)).lookup key =
            some delivery := hold
        rw [Table.lookup_insert hnone] at hlookup
        split at hlookup
        · next hsame =>
            cases hlookup
            exact .inr ⟨by rw [hsame]; exact List.mem_cons_self, rfl⟩
        · exact .inl hlookup
      · exact .inr ⟨List.mem_cons_of_mem _ hmem, hrow⟩

/-- A mail insert changes no session row and adds deliveries of this mail to
these recipients only. -/
theorem insertMailForRecipients_eq_ok {db db' : Database} {mail : Mail}
    {recipientIds : List SessionId} {outcome : MailWriteOutcome}
    (h : db.insertMailForRecipients mail recipientIds = .ok (outcome, db')) :
    db'.sessions = db.sessions ∧
      NewDeliveries (fun key delivery => key.2 ∈ recipientIds ∧ delivery = deliveryRow mail)
        db db' := by
  rw [Database.insertMailForRecipients] at h
  split at h
  · cases h
    exact ⟨rfl, fun _ _ h => .inl h⟩
  · obtain ⟨replay, -, h⟩ := Except.bind_eq_ok.mp h
    cases replay with
    | some replay =>
        cases h
        exact ⟨rfl, fun _ _ h => .inl h⟩
    | none =>
        obtain ⟨db₁, hmessage, h⟩ := Except.bind_eq_ok.mp h
        obtain ⟨db₂, hdeliveries, h⟩ := Except.bind_eq_ok.mp h
        cases h
        rw [Database.insertMessage] at hmessage
        split at hmessage
        · cases hmessage
        · cases hmessage
          have hrows := insertDeliveries_eq_ok hdeliveries
          exact hrows

theorem running_of_mem_deliverableMailRecipients {db : Database} {recipients : List SessionId}
    {authorized : SessionId → Bool} {id : SessionId}
    (h : id ∈ deliverableMailRecipients db recipients authorized) :
    ∃ row, db.sessions.lookup id = some row ∧ row.state = .running := by
  have hfilter := (List.mem_filter.mp h).2
  cases hrow : db.sessions.lookup id with
  | none => simp [hrow] at hfilter
  | some row =>
      rw [hrow] at hfilter
      exact ⟨row, rfl, (of_decide_eq_true hfilter).1⟩

/-- A non-peek read changes no session row, adds no delivery, and leaves no
unread delivery that was not there. -/
theorem readUnreadMail_deliveries (db : Database) (recipientId : SessionId) (readAt : DateTime) :
    (db.readUnreadMail recipientId readAt false).2.sessions = db.sessions ∧
      NewDeliveries (fun _ delivery => delivery.status ≠ .unread)
        db (db.readUnreadMail recipientId readAt false).2 := by
  show (List.foldl _ db (db.fetchUnread recipientId)).sessions = db.sessions ∧
    NewDeliveries _ db (List.foldl _ db (db.fetchUnread recipientId))
  generalize db.fetchUnread recipientId = items
  induction items generalizing db with
  | nil => exact ⟨rfl, fun _ _ h => .inl h⟩
  | cons item items ih =>
      obtain ⟨hsessions, hnew⟩ := ih (db.updateRead readAt item.id recipientId)
      refine ⟨hsessions, fun key delivery hkey => ?_⟩
      rcases hnew key delivery hkey with hold | hread
      · rw [Database.updateRead, Table.lookup_modify] at hold
        split at hold
        · next hitem =>
            obtain ⟨old, -, rfl⟩ := Option.map_eq_some_iff.mp hold
            exact .inr (old.markRead_status_ne_unread readAt)
        · exact .inl hold
      · exact .inr hread

end LittleOrgans.Session
