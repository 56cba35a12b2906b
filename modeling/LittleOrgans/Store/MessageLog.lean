import LittleOrgans.Store.Mail
import Mathlib.Data.Prod.Lex

/-!
# The message log

`list_message_log`: every delivery with its message, filtered, behind a cursor, and
ordered by the time sent, the message id and the recipient. A cursor is the time and
the id of a message, and the log behind it starts strictly after that message.
-/

set_option autoImplicit false

namespace LittleOrgans.Store

open LittleOrgans.Core
open LittleOrgans.Library

/-- `MailLogCursor`. -/
structure MailLogCursor where
  sentAt : DateTime
  messageId : MessageId
  deriving DecidableEq

/-- The order of cursors: by time sent, then by message id. -/
def MailLogCursor.key (cursor : MailLogCursor) : DateTime ×ₗ Nat :=
  toLex (cursor.sentAt, cursor.messageId.uuid.toNat)

/-- The cursor at a mail. -/
def mailCursor (mail : Mail) : MailLogCursor := ⟨mail.sentAt, mail.id⟩

/-- `ORDER BY m.sent_at, m.message_id, d.recipient_session_id`. -/
def logKey (mail : Mail) : (DateTime ×ₗ Nat) ×ₗ Nat :=
  toLex ((mailCursor mail).key, mail.recipientId.uuid.toNat)

def logBefore (a b : Mail) : Prop := logKey a ≤ logKey b

instance : DecidableRel logBefore := fun a b => inferInstanceAs (Decidable (logKey a ≤ logKey b))

instance : Std.Total logBefore := ⟨fun a b => le_total (logKey a) (logKey b)⟩

instance : IsTrans Mail logBefore := ⟨fun _ _ _ => le_trans⟩

/-- A delivery of the log: its message and its recipient. -/
def deliveryKey (mail : Mail) : MessageId × SessionId := (mail.id, mail.recipientId)

namespace Database

/-- Every delivery with its message. -/
def messageLogRows (db : Database) : List Mail :=
  db.deliveries.rows.filterMap fun row =>
    (db.messages.lookup row.1.1).map fun message => mailFromRow row.1.1 row.1.2 message row.2

/-- The conditions of the log query on one row. -/
def inMessageLog (contextId : Option String) (participantIds recipientIds : Option (List SessionId))
    (includeSystem : Bool) (after : Option MailLogCursor) (mail : Mail) : Bool :=
  (contextId.all fun wanted => decide (mail.contextId = wanted)) &&
    (includeSystem || decide (mail.intent ≠ .receipt)) &&
    (participantIds.all fun ids =>
      decide (mail.recipientId ∈ ids ∨ ∃ id ∈ ids, mail.sender = .session id)) &&
    (recipientIds.all fun ids => decide (mail.recipientId ∈ ids)) &&
    after.all fun cursor => decide (cursor.key < (mailCursor mail).key)

/-- `list_message_log`. -/
def listMessageLog (db : Database) (contextId : Option String)
    (participantIds recipientIds : Option (List SessionId)) (includeSystem : Bool)
    (after : Option MailLogCursor) : List Mail :=
  if participantIds = some [] ∨ recipientIds = some [] then []
  else
    (db.messageLogRows.filter
      (inMessageLog contextId participantIds recipientIds includeSystem after)).insertionSort
        logBefore

theorem mem_messageLogRows {db : Database} {mail : Mail} :
    mail ∈ db.messageLogRows ↔ ∃ message delivery, db.messages.lookup mail.id = some message ∧
      db.deliveries.lookup (mail.id, mail.recipientId) = some delivery ∧
        mail = mailFromRow mail.id mail.recipientId message delivery := by
  rw [messageLogRows, List.mem_filterMap]
  constructor
  · rintro ⟨⟨⟨id, recipientId⟩, delivery⟩, hrow, hmail⟩
    obtain ⟨message, hmessage, rfl⟩ := Option.map_eq_some_iff.mp hmail
    exact ⟨message, delivery, hmessage, Table.mem_rows_iff.mp hrow, rfl⟩
  · rintro ⟨message, delivery, hmessage, hdelivery, hmail⟩
    refine ⟨((mail.id, mail.recipientId), delivery), Table.mem_rows_iff.mpr hdelivery, ?_⟩
    rw [hmessage, Option.map_some, ← hmail]

/-- The unread mail of a recipient is the part of the log that says so. -/
theorem mem_fetchUnread_iff {db : Database} {recipientId : SessionId} {item : Mail} :
    item ∈ db.fetchUnread recipientId ↔
      item ∈ db.messageLogRows ∧ item.recipientId = recipientId ∧ item.status = .unread := by
  rw [fetchUnread, List.mem_insertionSort, List.mem_filterMap, messageLogRows, List.mem_filterMap]
  constructor
  · rintro ⟨row, hrow, hitem⟩
    split at hitem
    · next hunread =>
      refine ⟨⟨row, hrow, hitem⟩, ?_⟩
      obtain ⟨message, -, rfl⟩ := Option.map_eq_some_iff.mp hitem
      exact hunread
    · cases hitem
  · rintro ⟨⟨row, hrow, hitem⟩, hunread⟩
    refine ⟨row, hrow, ?_⟩
    have hrowUnread : row.1.2 = recipientId ∧ row.2.status = .unread := by
      obtain ⟨message, -, rfl⟩ := Option.map_eq_some_iff.mp hitem
      exact hunread
    rw [if_pos hrowUnread]
    exact hitem

theorem mem_listMessageLog {db : Database} {contextId : Option String}
    {participantIds recipientIds : Option (List SessionId)} {includeSystem : Bool}
    {after : Option MailLogCursor} {mail : Mail}
    (h : mail ∈ db.listMessageLog contextId participantIds recipientIds includeSystem after) :
    mail ∈ db.messageLogRows := by
  rw [listMessageLog] at h
  split at h
  · cases h
  · rw [List.mem_insertionSort] at h
    exact (List.mem_filter.mp h).1

/-- Without a selector the log is all rows that satisfy its conditions. -/
theorem mem_listMessageLog_iff {db : Database} {contextId : Option String} {includeSystem : Bool}
    {after : Option MailLogCursor} {mail : Mail} :
    mail ∈ db.listMessageLog contextId none none includeSystem after ↔
      mail ∈ db.messageLogRows ∧ inMessageLog contextId none none includeSystem after mail := by
  rw [listMessageLog, if_neg (by simp), List.mem_insertionSort, List.mem_filter]

/-- Each delivery has one row in the log. -/
theorem nodup_messageLogRows (db : Database) : (db.messageLogRows.map deliveryKey).Nodup := by
  refine db.deliveries.nodup.sublist ?_
  rw [messageLogRows]
  induction db.deliveries.rows with
  | nil => exact List.Sublist.refl _
  | cons row rows ih =>
      rw [List.filterMap_cons]
      cases db.messages.lookup row.1.1 with
      | none => exact ih.cons _
      | some message => exact ih.cons_cons _

theorem nodup_listMessageLog (db : Database) (contextId : Option String)
    (participantIds recipientIds : Option (List SessionId)) (includeSystem : Bool)
    (after : Option MailLogCursor) :
    ((db.listMessageLog contextId participantIds recipientIds includeSystem after).map
      deliveryKey).Nodup := by
  rw [listMessageLog]
  split
  · exact List.nodup_nil
  · have hperm := List.perm_insertionSort logBefore (db.messageLogRows.filter
      (inMessageLog contextId participantIds recipientIds includeSystem after))
    rw [(hperm.map deliveryKey).nodup_iff]
    exact db.nodup_messageLogRows.sublist (List.filter_sublist.map deliveryKey)

/-- The log is in the order of its cursors. -/
theorem pairwise_listMessageLog (db : Database) (contextId : Option String)
    (participantIds recipientIds : Option (List SessionId)) (includeSystem : Bool)
    (after : Option MailLogCursor) :
    (db.listMessageLog contextId participantIds recipientIds includeSystem after).Pairwise
      fun a b => (mailCursor a).key ≤ (mailCursor b).key := by
  rw [listMessageLog]
  split
  · exact List.Pairwise.nil
  · refine (List.pairwise_insertionSort logBefore _).imp fun {a b} hab => ?_
    exact Prod.Lex.monotone_fst _ _ hab

end Database

end LittleOrgans.Store
