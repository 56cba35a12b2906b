import LittleOrgans.Store.Database
import Mathlib.Data.Finset.Dedup
import Mathlib.Data.List.Sort

/-!
# Mail statements

The queries of the session store on `messages` and `message_deliveries`, and the
operations built from them, each run by itself: an insert for several recipients
with its idempotency check, reading the unread mail of a recipient, and marking
the unread mail of an ended session undeliverable. The statements that concern
one row (`DeliveryRow.markRead`, `DeliveryRow.markUndeliverable`,
`validateIdempotentReplay`) are stated on that row, so that the model of
interleaved transactions uses the same definitions.
-/

set_option autoImplicit false

namespace LittleOrgans.Store

open LittleOrgans.Core
open LittleOrgans.Library

inductive MailError where
  | database (context : String)
  | idempotencyConflict (key : String)
  deriving DecidableEq

/-- Result of a mail write: the mail, and whether this call inserted it. -/
structure MailWriteOutcome where
  mail : List Mail
  inserted : Bool
  deriving DecidableEq

/-! ## Rows -/

/-- The row `insert_message` writes. -/
def messageRow (mail : Mail) : MessageRow where
  sender := mail.sender
  contextId := mail.contextId
  intent := mail.intent
  idempotencyKey := mail.idempotencyKey
  content := mail.content
  sentAt := mail.sentAt

/-- The row `insert_deliveries` writes for each recipient. -/
def deliveryRow (mail : Mail) : DeliveryRow where
  status := mail.status
  readAt := mail.readAt

/-- A message and one of its deliveries as mail. -/
def mailFromRow (id : MessageId) (recipientId : SessionId) (message : MessageRow)
    (delivery : DeliveryRow) : Mail where
  id := id
  sender := message.sender
  recipientId := recipientId
  content := message.content
  sentAt := message.sentAt
  readAt := delivery.readAt
  status := delivery.status
  contextId := message.contextId
  intent := message.intent
  idempotencyKey := message.idempotencyKey

/-- `SET status = 'read' … WHERE status = 'unread'`, on one row. -/
def DeliveryRow.markRead (readAt : DateTime) (delivery : DeliveryRow) : DeliveryRow :=
  if delivery.status = .unread then { status := .read, readAt := some readAt } else delivery

/-- `SET status = 'undeliverable' … WHERE status = 'unread'`, on one row. -/
def DeliveryRow.markUndeliverable (delivery : DeliveryRow) : DeliveryRow :=
  if delivery.status = .unread then { delivery with status := .undeliverable } else delivery

theorem DeliveryRow.markRead_status_ne_unread (readAt : DateTime) (delivery : DeliveryRow) :
    (delivery.markRead readAt).status ≠ .unread := by
  rw [markRead]
  split
  · exact fun h => MailStatus.noConfusion h
  · next h => exact h

theorem DeliveryRow.markUndeliverable_status_ne_unread (delivery : DeliveryRow) :
    delivery.markUndeliverable.status ≠ .unread := by
  rw [markUndeliverable]
  split
  · exact fun h => MailStatus.noConfusion h
  · next h => exact h

/-- The mail a write reports for its recipients. -/
def mailForRecipients (mail : Mail) (recipientIds : List SessionId) : List Mail :=
  recipientIds.map fun recipientId => { mail with recipientId := recipientId }

def recipientSet (recipientIds : List SessionId) : Finset SessionId := recipientIds.toFinset

/-- Compares a stored message and its recipients with a repeated write. -/
def validateIdempotentReplay (existing : MessageRow) (existingRecipients : Finset SessionId)
    (mail : Mail) (recipientIds : List SessionId) : Except MailError Unit :=
  let key := mail.idempotencyKey.getD ""
  let matchesMessage :=
    existing.sender = mail.sender ∧ existing.content = mail.content ∧
      existing.contextId = mail.contextId ∧ existing.intent = mail.intent ∧
      existing.idempotencyKey = mail.idempotencyKey
  if ¬matchesMessage then .error (.idempotencyConflict key)
  else if existingRecipients ≠ recipientSet recipientIds then .error (.idempotencyConflict key)
  else .ok ()

/-! ## Idempotent inserts -/

namespace Database

/-- The message stored under a sender and an idempotency key. -/
def messageByIdempotency (db : Database) (sender : SenderRef) (key : String) :
    Option (MessageId × MessageRow) :=
  db.messages.rows.find? fun row => row.2.sender = sender ∧ row.2.idempotencyKey = some key

/-- Recipients of a stored message. -/
def recipientSetForMessage (db : Database) (id : MessageId) : Finset SessionId :=
  ((db.deliveries.rows.filter fun row => row.1.1 = id).map fun row => row.1.2).toFinset

/-- The stored deliveries of a message, in the order of `recipientIds`. -/
def loadMessageDeliveries (db : Database) (id : MessageId) (message : MessageRow)
    (recipientIds : List SessionId) : Except MailError (List Mail) :=
  recipientIds.mapM fun recipientId =>
    match db.deliveries.lookup (id, recipientId) with
    | some delivery => .ok (mailFromRow id recipientId message delivery)
    | none => .error (.database "no rows returned")

/-- The earlier write of the same idempotency key, if there is one. -/
def loadIdempotentReplay (db : Database) (mail : Mail) (recipientIds : List SessionId) :
    Except MailError (Option (List Mail)) :=
  match mail.idempotencyKey with
  | none => .ok none
  | some key =>
      match db.messageByIdempotency mail.sender key with
      | none => .ok none
      | some (id, existing) => do
          validateIdempotentReplay existing (db.recipientSetForMessage id) mail recipientIds
          let replay ← db.loadMessageDeliveries id existing recipientIds
          pure (some replay)

/-- Inserts a message; the message id is the primary key. -/
def insertMessage (db : Database) (mail : Mail) : Except MailError Database :=
  if db.messages.contains mail.id then .error (.database "duplicate key: messages_pkey")
  else .ok { db with messages := db.messages.insert mail.id (messageRow mail) }

/-- Inserts one delivery; message and recipient are the primary key. -/
def insertDelivery (db : Database) (mail : Mail) (recipientId : SessionId) :
    Except MailError Database :=
  if db.deliveries.contains (mail.id, recipientId) then
    .error (.database "duplicate key: message_deliveries_pkey")
  else
    .ok { db with deliveries := db.deliveries.insert (mail.id, recipientId) (deliveryRow mail) }

/-- Inserts the deliveries of a message. -/
def insertDeliveries (db : Database) (mail : Mail) : List SessionId → Except MailError Database
  | [] => .ok db
  | recipientId :: rest => do
      let db ← db.insertDelivery mail recipientId
      db.insertDeliveries mail rest

/-- One attempt of an insert, as a transaction of its own. -/
def tryInsertMailForRecipients (db : Database) (mail : Mail) (recipientIds : List SessionId) :
    Except MailError (MailWriteOutcome × Database) := do
  match ← db.loadIdempotentReplay mail recipientIds with
  | some replay => pure ({ mail := replay, inserted := false }, db)
  | none =>
      let db ← db.insertMessage mail
      let db ← db.insertDeliveries mail recipientIds
      pure ({ mail := mailForRecipients mail recipientIds, inserted := true }, db)

/-- Inserts a mail for its recipients. Run by itself the insert meets no
concurrent sender, so the retry of a lost race is never taken. -/
def insertMailForRecipients (db : Database) (mail : Mail) (recipientIds : List SessionId) :
    Except MailError (MailWriteOutcome × Database) :=
  if recipientIds = [] then .ok ({ mail := [], inserted := false }, db)
  else db.tryInsertMailForRecipients mail recipientIds

/-- Inserts a mail for its own recipient. -/
def insertMail (db : Database) (mail : Mail) : Except MailError (MailWriteOutcome × Database) :=
  db.insertMailForRecipients mail [mail.recipientId]

/-! ## Reading -/

/-- The order of the unread query: by time sent, then by message id. -/
def mailBefore (a b : Mail) : Prop :=
  a.sentAt < b.sentAt ∨ (a.sentAt = b.sentAt ∧ a.id.uuid ≤ b.id.uuid)

instance : DecidableRel mailBefore := fun _ _ => inferInstanceAs (Decidable (_ ∨ _))

/-- The unread mail of a recipient. -/
def fetchUnread (db : Database) (recipientId : SessionId) : List Mail :=
  (db.deliveries.rows.filterMap fun row =>
    if row.1.2 = recipientId ∧ row.2.status = .unread then
      (db.messages.lookup row.1.1).map fun message => mailFromRow row.1.1 row.1.2 message row.2
    else none).insertionSort mailBefore

/-- Marks one delivery read, if it is unread. -/
def updateRead (db : Database) (readAt : DateTime) (id : MessageId) (recipientId : SessionId) :
    Database :=
  { db with deliveries := db.deliveries.modify (id, recipientId) (DeliveryRow.markRead readAt) }

/-- Reads the unread mail of a recipient; unless it peeks, the read marks each
returned delivery read. -/
def readUnreadMail (db : Database) (recipientId : SessionId) (readAt : DateTime) (peek : Bool) :
    List Mail × Database :=
  let mail := db.fetchUnread recipientId
  if peek then (mail, db)
  else
    (mail.map fun item => { item with readAt := some readAt },
      mail.foldl (fun db item => db.updateRead readAt item.id recipientId) db)

/-- Marks every unread delivery addressed to `recipientId` undeliverable; read
deliveries are left untouched. -/
def markUnreadUndeliverable (db : Database) (recipientId : SessionId) : Database :=
  { db with
    deliveries := db.deliveries.mapRows fun key delivery =>
      if key.2 = recipientId then delivery.markUndeliverable else delivery }

end Database

end LittleOrgans.Store
