import LittleOrgans.Library.Except
import LittleOrgans.Store.AtomicMail

/-!
# What a mail write commits

One spec lemma for each write: an insert that succeeds leaves the store as it was, or
commits one message with its deliveries (`insertMailForRecipients_cases`), and a read
marks the deliveries it returns (`readUnreadMail_eq`). The rest says which rows the two
commits touch.
-/

set_option autoImplicit false

namespace LittleOrgans.Store

open LittleOrgans.Core
open LittleOrgans.Library

section Inserts

variable {db db' : Database} {mail : Mail}

theorem insertDeliveries_cases {recipientIds : List SessionId}
    (h : db.insertDeliveries mail recipientIds = .ok db') :
    recipientIds.Nodup ∧ (∀ id ∈ recipientIds, db.deliveries.lookup (mail.id, id) = none) ∧
      db' = { db with
        deliveries := recipientIds.foldl (fun deliveries id =>
          deliveries.insert (mail.id, id) (deliveryRow mail)) db.deliveries } := by
  induction recipientIds generalizing db with
  | nil =>
      cases h
      exact ⟨List.nodup_nil, fun _ hmem => absurd hmem List.not_mem_nil, rfl⟩
  | cons first rest ih =>
      obtain ⟨db₁, hfirst, hrest⟩ := Except.bind_eq_ok.mp h
      rw [Database.insertDelivery] at hfirst
      split at hfirst
      · cases hfirst
      · next hkey =>
          cases hfirst
          have hnone : db.deliveries.lookup (mail.id, first) = none := by
            simpa [Table.contains] using hkey
          obtain ⟨hnodup, habsent, rfl⟩ := ih hrest
          have hfresh : first ∉ rest := by
            intro hmem
            have hlookup := habsent first hmem
            rw [Table.lookup_insert_self hnone] at hlookup
            cases hlookup
          refine ⟨List.nodup_cons.mpr ⟨hfresh, hnodup⟩, fun id hmem => ?_, rfl⟩
          rcases List.mem_cons.mp hmem with rfl | hmem
          · exact hnone
          · have hlookup := habsent id hmem
            have hne : (mail.id, id) ≠ (mail.id, first) := by
              rintro ⟨⟩
              exact hfresh hmem
            rwa [Table.lookup_insert_ne hne] at hlookup

/-- What an insert commits: nothing, or its message with all its deliveries. -/
structure Commits (db : Database) (mail : Mail) (recipientIds : List SessionId)
    (outcome : MailWriteOutcome) (db' : Database) : Prop where
  outcome : outcome = { mail := mailForRecipients mail recipientIds, inserted := true }
  noReplay : db.loadIdempotentReplay mail recipientIds = .ok none
  message : db.messages.lookup mail.id = none
  nodup : recipientIds.Nodup
  deliveries : ∀ id ∈ recipientIds, db.deliveries.lookup (mail.id, id) = none
  store : db' = db.commitInsert mail recipientIds

theorem insertMailForRecipients_cases {recipientIds : List SessionId} {outcome : MailWriteOutcome}
    (h : db.insertMailForRecipients mail recipientIds = .ok (outcome, db')) :
    db' = db ∧ outcome.inserted = false ∨ Commits db mail recipientIds outcome db' := by
  rw [Database.insertMailForRecipients] at h
  split at h
  · cases h
    exact .inl ⟨rfl, rfl⟩
  · obtain ⟨replay, hreplay, h⟩ := Except.bind_eq_ok.mp h
    cases replay with
    | some replay =>
        cases h
        exact .inl ⟨rfl, rfl⟩
    | none =>
        obtain ⟨db₁, hmessage, h⟩ := Except.bind_eq_ok.mp h
        obtain ⟨db₂, hdeliveries, h⟩ := Except.bind_eq_ok.mp h
        cases h
        rw [Database.insertMessage] at hmessage
        split at hmessage
        · cases hmessage
        · next hid =>
            cases hmessage
            obtain ⟨hnodup, habsent, hstore⟩ := insertDeliveries_cases hdeliveries
            have hnone : db.messages.lookup mail.id = none := by
              simpa [Table.contains] using hid
            exact .inr ⟨rfl, hreplay, hnone, hnodup, habsent, hstore⟩

@[simp]
theorem sessions_commitInsert (inserted : List SessionId) :
    (db.commitInsert mail inserted).sessions = db.sessions := rfl

/-- A delivery after an insert is an old one or one of the mail. -/
theorem lookup_commitInsert_cases {inserted : List SessionId} {key : MessageId × SessionId}
    {delivery : DeliveryRow}
    (h : (db.commitInsert mail inserted).deliveries.lookup key = some delivery) :
    db.deliveries.lookup key = some delivery ∨
      key.1 = mail.id ∧ key.2 ∈ inserted ∧ delivery = deliveryRow mail := by
  rw [lookup_commitInsert] at h
  cases hold : db.deliveries.lookup key with
  | some old =>
      rw [hold] at h
      exact .inl h
  | none =>
      rw [hold, Option.none_or] at h
      split at h
      · next hkey =>
          cases h
          exact .inr ⟨hkey.1, hkey.2, rfl⟩
      · cases h

theorem lookup_messages_commitInsert_cases {inserted : List SessionId} {id : MessageId}
    {row : MessageRow} (h : (db.commitInsert mail inserted).messages.lookup id = some row) :
    db.messages.lookup id = some row ∨ id = mail.id ∧ row = messageRow mail := by
  by_cases hid : id = mail.id
  · subst hid
    cases hold : db.messages.lookup mail.id with
    | some old =>
        have hkept : (db.messages.insert mail.id (messageRow mail)).lookup mail.id = some row := h
        rw [Table.insert_of_lookup hold, hold] at hkept
        exact .inl hkept
    | none =>
        have hnew : (db.messages.insert mail.id (messageRow mail)).lookup mail.id = some row := h
        rw [Table.lookup_insert_self hold] at hnew
        cases hnew
        exact .inr ⟨rfl, rfl⟩
  · have hother : (db.messages.insert mail.id (messageRow mail)).lookup id = some row := h
    rw [Table.lookup_insert_ne hid] at hother
    exact .inl hother

end Inserts

section Reads

variable (db : Database) (recipientId : SessionId) (readAt : DateTime)

theorem readUnreadMail_eq :
    db.readUnreadMail recipientId readAt false =
      ((db.fetchUnread recipientId).map fun item => { item with readAt := some readAt },
        db.commitRead recipientId readAt ((db.fetchUnread recipientId).map Mail.id)) := by
  rw [Database.readUnreadMail, Database.commitRead, List.foldl_map, if_neg Bool.false_ne_true]

@[simp]
theorem sessions_commitRead (marked : List MessageId) :
    (db.commitRead recipientId readAt marked).sessions = db.sessions := by
  induction marked generalizing db with
  | nil => rfl
  | cons id marked ih => exact ih (db.updateRead readAt id recipientId)

end Reads

section Replays

variable {db : Database}

theorem loadIdempotentReplay_eq_some {mail : Mail} {recipientIds : List SessionId}
    {items : List Mail} (h : db.loadIdempotentReplay mail recipientIds = .ok (some items)) :
    ∃ id row, db.idempotentRow mail = some (id, row) ∧ matchesMessage row mail ∧
      db.recipientSetForMessage id = recipientSet recipientIds ∧
        db.loadMessageDeliveries id row recipientIds = .ok items := by
  rw [loadIdempotentReplay_eq] at h
  cases hrow : db.idempotentRow mail with
  | none =>
      rw [hrow] at h
      cases h
  | some found =>
      obtain ⟨id, row⟩ := found
      rw [hrow] at h
      dsimp only at h
      split at h
      · next hmatches =>
          split at h
          · next hset =>
              cases hload : db.loadMessageDeliveries id row recipientIds with
              | error error =>
                  rw [hload] at h
                  cases h
              | ok loaded =>
                  rw [hload] at h
                  cases h
                  exact ⟨id, row, rfl, hmatches, hset, hload⟩
          · cases h
      · cases h

theorem idempotentRow_of_noReplay {mail : Mail} {recipientIds : List SessionId}
    (h : db.loadIdempotentReplay mail recipientIds = .ok none) : db.idempotentRow mail = none := by
  rw [loadIdempotentReplay_eq] at h
  cases hrow : db.idempotentRow mail with
  | none => rfl
  | some found =>
      obtain ⟨id, row⟩ := found
      rw [hrow] at h
      dsimp only at h
      split at h
      · split at h
        · cases hload : db.loadMessageDeliveries id row recipientIds with
          | error error =>
              rw [hload] at h
              cases h
          | ok loaded =>
              rw [hload] at h
              cases h
        · cases h
      · cases h

/-- The stored deliveries of a message are loaded when each recipient has one. -/
theorem loadMessageDeliveries_eq_ok {id : MessageId} {message : MessageRow}
    {recipientIds : List SessionId} {items : List Mail}
    (h : db.loadMessageDeliveries id message recipientIds = .ok items) :
    items.map Mail.recipientId = recipientIds ∧
      ∀ item ∈ items, item.id = id ∧ item.sender = message.sender := by
  rw [Database.loadMessageDeliveries] at h
  have hall := Except.mapM_eq_ok.mp h
  clear h
  induction hall with
  | nil => exact ⟨rfl, fun _ hmem => absurd hmem List.not_mem_nil⟩
  | @cons recipientId item recipientIds items hfirst hrest ih =>
      split at hfirst
      · cases hfirst
        refine ⟨congrArg (_ :: ·) ih.1, fun item hmem => ?_⟩
        rcases List.mem_cons.mp hmem with rfl | hmem
        · exact ⟨rfl, rfl⟩
        · exact ih.2 item hmem
      · cases hfirst

theorem loadMessageDeliveries_isOk {id : MessageId} (message : MessageRow)
    {recipientIds : List SessionId}
    (h : db.recipientSetForMessage id = recipientSet recipientIds) :
    ∃ items, db.loadMessageDeliveries id message recipientIds = .ok items := by
  refine Except.mapM_isOk.mpr fun recipientId hmem => ?_
  have hstored : recipientId ∈ db.recipientSetForMessage id := by
    rw [h]
    exact List.mem_toFinset.mpr hmem
  obtain ⟨delivery, hdelivery⟩ := mem_recipientSetForMessage.mp hstored
  rw [hdelivery]
  exact ⟨_, rfl⟩

/-- An insert that finds no earlier write commits. -/
theorem commits_of_noReplay {db' : Database} {mail : Mail} {recipientIds : List SessionId}
    {outcome : MailWriteOutcome} (hne : recipientIds ≠ [])
    (hreplay : db.loadIdempotentReplay mail recipientIds = .ok none)
    (h : db.insertMailForRecipients mail recipientIds = .ok (outcome, db')) :
    Commits db mail recipientIds outcome db' := by
  rcases insertMailForRecipients_cases h with ⟨-, hinserted⟩ | hcommits
  · rw [Database.insertMailForRecipients, if_neg hne, Database.tryInsertMailForRecipients,
      hreplay] at h
    obtain ⟨found, hfound, h⟩ := Except.bind_eq_ok.mp h
    cases hfound
    obtain ⟨db₁, -, h⟩ := Except.bind_eq_ok.mp h
    obtain ⟨db₂, -, h⟩ := Except.bind_eq_ok.mp h
    cases h
    cases hinserted
  · exact hcommits

end Replays

end LittleOrgans.Store
