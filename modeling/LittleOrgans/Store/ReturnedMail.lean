import LittleOrgans.Store.MailWrites
import LittleOrgans.Store.MessageLog
import LittleOrgans.Store.NamespaceDeletion

/-!
# Returned mail and stored mail

The operations of the store that return mail build it from different places: from their
argument, from rows read before an update, from a join after it. The value a call returns
is the message and the delivery the store holds when it is done, with one exception. A
read that drains mail sets `read_at` in the values it read before the update, and leaves
their status at unread (`returned_mail_is_stored_iff`). In the store itself a delivery is
read exactly when it has a `read_at`, in every state the writes of the handlers lead to.
-/

set_option autoImplicit false

namespace LittleOrgans.Store

open LittleOrgans.Core
open LittleOrgans.Library

/-! ## Operations -/

/-- The operations that return mail. -/
inductive MailOperation where
  | insertMailForRecipients (mail : Mail) (recipientIds : List SessionId)
  | idempotentMailForRecipients (mail : Mail) (recipientIds : List SessionId)
  | readUnreadMail (recipientId : SessionId) (readAt : DateTime) (peek : Bool)
  | listMessageLog (contextId : Option String)
      (participantIds recipientIds : Option (List SessionId)) (includeSystem : Bool)
      (after : Option MailLogCursor)

/-- The status is read exactly when the time of the read is set. -/
def StatusAgrees (status : MailStatus) (readAt : Option DateTime) : Prop :=
  status = .read ↔ readAt.isSome = true

instance (status : MailStatus) (readAt : Option DateTime) :
    Decidable (StatusAgrees status readAt) :=
  inferInstanceAs (Decidable (status = .read ↔ readAt.isSome = true))

namespace Database

/-- `idempotent_mail_for_recipients`. -/
def idempotentMailForRecipients (db : Database) (mail : Mail) (recipientIds : List SessionId) :
    Except MailError (Option (List Mail)) :=
  if recipientIds = [] ∨ mail.idempotencyKey = none then .ok none
  else db.loadIdempotentReplay mail recipientIds

/-- The mail an operation returns, and the store when it is done. -/
def runMail (db : Database) : MailOperation → Except MailError (List Mail) × Database
  | .insertMailForRecipients mail recipientIds =>
      match db.insertMailForRecipients mail recipientIds with
      | .ok (outcome, db') => (.ok outcome.mail, db')
      | .error error => (.error error, db)
  | .idempotentMailForRecipients mail recipientIds =>
      ((db.idempotentMailForRecipients mail recipientIds).map fun replay => replay.getD [], db)
  | .readUnreadMail recipientId readAt peek =>
      let read := db.readUnreadMail recipientId readAt peek
      (.ok read.1, read.2)
  | .listMessageLog contextId participantIds recipientIds includeSystem after =>
      (.ok (db.listMessageLog contextId participantIds recipientIds includeSystem after), db)

/-- The mail is a message and one of its deliveries as the store holds them. -/
def Stores (db : Database) (mail : Mail) : Prop :=
  ∃ message delivery, db.messages.lookup mail.id = some message ∧
    db.deliveries.lookup (mail.id, mail.recipientId) = some delivery ∧
      mail = mailFromRow mail.id mail.recipientId message delivery

/-- Each stored delivery is read exactly when the time of its read is set. -/
def StatusesAgree (db : Database) : Prop :=
  ∀ key delivery, db.deliveries.lookup key = some delivery →
    StatusAgrees delivery.status delivery.readAt

/-- An operation returns what the store holds when it is done, and every status agrees
with the time of the read. -/
def ReturnsStored (db : Database) (op : MailOperation) : Prop :=
  (∀ items, (db.runMail op).1 = .ok items → ∀ item ∈ items,
      (db.runMail op).2.Stores item ∧ StatusAgrees item.status item.readAt) ∧
    (db.runMail op).2.StatusesAgree

/-- Unread mail waits for the recipient. -/
def HasUnread (db : Database) (recipientId : SessionId) : Prop :=
  ∃ id message delivery, db.messages.lookup id = some message ∧
    db.deliveries.lookup (id, recipientId) = some delivery ∧ delivery.status = .unread

/-- A read that takes mail out of a mailbox. -/
def Drains (db : Database) (op : MailOperation) : Prop :=
  ∃ recipientId readAt, op = .readUnreadMail recipientId readAt false ∧ db.HasUnread recipientId

end Database

/-! ## Reachable tables -/

/-- What changes the mail tables; `elsewhere` stands for the statements on other tables. -/
inductive MailTableStep where
  | operation (op : MailOperation)
  | markUnreadUndeliverable (recipientId : SessionId)
  | deleteNamespaceSessions (slug : String)
  | elsewhere (db : Database)

/-- The handlers insert mail nobody has read. -/
def MailOperation.Permitted : MailOperation → Prop
  | .insertMailForRecipients mail _ => mail.status = .unread ∧ mail.readAt = none
  | .idempotentMailForRecipients _ _ => True
  | .readUnreadMail _ _ _ => True
  | .listMessageLog _ _ _ _ _ => True

/-- Mail is written for sessions that are there. -/
def MailTableStep.Permitted (db : Database) : MailTableStep → Prop
  | .operation op => op.Permitted
  | .markUnreadUndeliverable _ => True
  | .deleteNamespaceSessions _ => True
  | .elsewhere db' => db'.messages = db.messages ∧ db'.deliveries = db.deliveries

/-- The tables of mail as a system of steps. -/
def mailTables : StepSystem Database MailTableStep where
  step db
    | .operation op => some (db.runMail op).2
    | .markUnreadUndeliverable recipientId => some (db.markUnreadUndeliverable recipientId)
    | .deleteNamespaceSessions slug => some (db.deleteNamespaceSessions slug).2
    | .elsewhere db' => some db'

namespace Database

variable {db db' : Database}

/-! ## Statuses -/

theorem statusAgrees_markRead {delivery : DeliveryRow}
    (h : StatusAgrees delivery.status delivery.readAt) (readAt : DateTime) :
    StatusAgrees (delivery.markRead readAt).status (delivery.markRead readAt).readAt := by
  rw [DeliveryRow.markRead]
  split
  · exact iff_of_true rfl rfl
  · exact h

theorem statusAgrees_markUndeliverable {delivery : DeliveryRow}
    (h : StatusAgrees delivery.status delivery.readAt) :
    StatusAgrees delivery.markUndeliverable.status delivery.markUndeliverable.readAt := by
  rw [DeliveryRow.markUndeliverable]
  split
  · next hunread =>
    rw [hunread] at h
    exact iff_of_false MailStatus.noConfusion fun hread => MailStatus.noConfusion (h.mpr hread)
  · exact h

/-- The rows of a later store are rows of the earlier one, or agree themselves. -/
theorem StatusesAgree.of_rows (h : db.StatusesAgree)
    (hrows : ∀ key delivery, db'.deliveries.lookup key = some delivery →
      db.deliveries.lookup key = some delivery ∨ StatusAgrees delivery.status delivery.readAt) :
    db'.StatusesAgree := by
  intro key delivery hkey
  rcases hrows key delivery hkey with hold | hagrees
  · exact h key delivery hold
  · exact hagrees

theorem StatusesAgree.updateRead (h : db.StatusesAgree) (readAt : DateTime) (id : MessageId)
    (recipientId : SessionId) : (db.updateRead readAt id recipientId).StatusesAgree := by
  refine h.of_rows fun key delivery hkey => ?_
  rw [Database.updateRead, Table.lookup_modify] at hkey
  split at hkey
  · obtain ⟨old, hold, rfl⟩ := Option.map_eq_some_iff.mp hkey
    exact .inr (statusAgrees_markRead (h _ old hold) readAt)
  · exact .inl hkey

theorem StatusesAgree.readUnreadMail (h : db.StatusesAgree) (recipientId : SessionId)
    (readAt : DateTime) (peek : Bool) :
    (db.readUnreadMail recipientId readAt peek).2.StatusesAgree := by
  cases peek with
  | true => exact h
  | false =>
      rw [readUnreadMail_eq, commitRead]
      generalize (db.fetchUnread recipientId).map Mail.id = ids
      induction ids generalizing db with
      | nil => exact h
      | cons id ids ih => exact ih (h.updateRead readAt id recipientId)

theorem StatusesAgree.markUnreadUndeliverable (h : db.StatusesAgree) (recipientId : SessionId) :
    (db.markUnreadUndeliverable recipientId).StatusesAgree := by
  refine h.of_rows fun key delivery hkey => ?_
  rw [Database.markUnreadUndeliverable, Table.lookup_mapRows] at hkey
  obtain ⟨old, hold, hrow⟩ := Option.map_eq_some_iff.mp hkey
  split at hrow
  · subst hrow
    exact .inr (statusAgrees_markUndeliverable (h key old hold))
  · subst hrow
    exact .inl hold

theorem StatusesAgree.deleteNamespaceSessions (h : db.StatusesAgree) (slug : String) :
    (db.deleteNamespaceSessions slug).2.StatusesAgree := by
  cases hlisted : db.listSessionsBySelector (.inNamespace slug) with
  | error error =>
      rw [Database.deleteNamespaceSessions, hlisted]
      exact h
  | ok sessions =>
      rw [deleteNamespaceSessions_of_listed hlisted]
      have hcollected := collected_deleteSessionsByNamespace db slug
      exact h.of_rows fun key delivery hkey =>
        .inl ((hcollected.deliveries key.1 key.2 delivery).mp hkey).1

theorem StatusesAgree.runMail (h : db.StatusesAgree) {op : MailOperation} (hop : op.Permitted) :
    (db.runMail op).2.StatusesAgree := by
  cases op with
  | insertMailForRecipients mail recipientIds =>
      rw [Database.runMail]
      split
      · next outcome db' hinsert =>
        rcases insertMailForRecipients_cases hinsert with ⟨rfl, -⟩ | hcommits
        · exact h
        · refine h.of_rows fun key delivery hkey => ?_
          rw [hcommits.store] at hkey
          rcases lookup_commitInsert_cases hkey with hold | ⟨-, -, rfl⟩
          · exact .inl hold
          · right
            rw [deliveryRow, hop.1, hop.2]
            exact iff_of_false MailStatus.noConfusion Bool.noConfusion
      · exact h
  | idempotentMailForRecipients mail recipientIds => exact h
  | readUnreadMail recipientId readAt peek => exact h.readUnreadMail recipientId readAt peek
  | listMessageLog contextId participantIds recipientIds includeSystem after => exact h

/-- The mail tables of a reachable store agree on what has been read. -/
theorem statusesAgree_of_reaches {createdAt : DateTime}
    (h : mailTables.Reaches MailTableStep.Permitted (.migrated createdAt) db) :
    db.StatusesAgree := by
  refine h.invariant (I := StatusesAgree) ?_ ?_
  · intro key delivery hkey
    cases hkey
  · intro db step db' hagree hpermitted hstep
    cases step with
    | operation op =>
        cases hstep
        exact hagree.runMail hpermitted
    | markUnreadUndeliverable recipientId =>
        cases hstep
        exact hagree.markUnreadUndeliverable recipientId
    | deleteNamespaceSessions slug =>
        cases hstep
        exact hagree.deleteNamespaceSessions slug
    | elsewhere db'' =>
        cases hstep
        intro key delivery hkey
        rw [hpermitted.2] at hkey
        exact hagree key delivery hkey

/-! ## Values -/

theorem stores_iff {mail : Mail} : db.Stores mail ↔ mail ∈ db.messageLogRows :=
  mem_messageLogRows.symm

/-- A stored mail shows the status of its delivery. -/
theorem StatusesAgree.of_stores (h : db.StatusesAgree) {mail : Mail} (hmail : db.Stores mail) :
    StatusAgrees mail.status mail.readAt := by
  obtain ⟨message, delivery, -, hdelivery, heq⟩ := hmail
  rw [heq]
  exact h _ delivery hdelivery

theorem hasUnread_iff {recipientId : SessionId} :
    db.HasUnread recipientId ↔ db.fetchUnread recipientId ≠ [] := by
  constructor
  · rintro ⟨id, message, delivery, hmessage, hdelivery, hunread⟩
    have hlogged : mailFromRow id recipientId message delivery ∈ db.messageLogRows :=
      mem_messageLogRows.mpr ⟨message, delivery, hmessage, hdelivery, rfl⟩
    exact List.ne_nil_of_mem (mem_fetchUnread_iff.mpr ⟨hlogged, rfl, hunread⟩)
  · intro hne
    obtain ⟨item, hitem⟩ := List.exists_mem_of_ne_nil _ hne
    obtain ⟨hlogged, rfl, hunread⟩ := mem_fetchUnread_iff.mp hitem
    obtain ⟨message, delivery, hmessage, hdelivery, heq⟩ := mem_messageLogRows.mp hlogged
    rw [heq] at hunread
    exact ⟨item.id, message, delivery, hmessage, hdelivery, hunread⟩

/-- A replay returns rows of the store. -/
theorem stores_of_loadIdempotentReplay {mail : Mail} {recipientIds : List SessionId}
    {items : List Mail} (h : db.loadIdempotentReplay mail recipientIds = .ok (some items)) :
    ∀ item ∈ items, db.Stores item := by
  obtain ⟨id, message, hrow, -, -, hload⟩ := loadIdempotentReplay_eq_some h
  obtain ⟨key, -, hfound⟩ := Option.bind_eq_some_iff.mp hrow
  have hmessage := Table.mem_rows_iff.mp (List.mem_of_find?_eq_some hfound)
  intro item hitem
  obtain ⟨recipientId, -, hdelivery⟩ := (Except.mem_of_mapM_eq_ok hload).mp hitem
  split at hdelivery
  · next delivery hlookup =>
    cases hdelivery
    exact ⟨message, delivery, hmessage, hlookup, rfl⟩
  · cases hdelivery

/-- An insert returns what it has written, or the rows of the earlier write. -/
theorem stores_of_insertMailForRecipients {mail : Mail} {recipientIds : List SessionId}
    {outcome : MailWriteOutcome}
    (h : db.insertMailForRecipients mail recipientIds = .ok (outcome, db')) :
    ∀ item ∈ outcome.mail, db'.Stores item := by
  by_cases hne : recipientIds = []
  · rw [Database.insertMailForRecipients, if_pos hne] at h
    cases h
    exact fun item hitem => absurd hitem List.not_mem_nil
  · cases hreplay : db.loadIdempotentReplay mail recipientIds with
    | error error =>
        rw [Database.insertMailForRecipients, if_neg hne, tryInsertMailForRecipients, hreplay] at h
        cases h
    | ok replay =>
        cases replay with
        | some replay =>
            rw [Database.insertMailForRecipients, if_neg hne, tryInsertMailForRecipients,
              hreplay] at h
            cases h
            exact stores_of_loadIdempotentReplay hreplay
        | none =>
            -- nothing to replay: the message and its deliveries are new rows
            have hcommits := commits_of_noReplay hne hreplay h
            intro item hitem
            rw [hcommits.outcome] at hitem
            obtain ⟨recipientId, hrecipient, rfl⟩ := List.mem_map.mp hitem
            rw [hcommits.store]
            refine ⟨messageRow mail, deliveryRow mail, ?_, ?_, rfl⟩
            · exact Table.lookup_insert_self hcommits.message _
            · rw [lookup_commitInsert, hcommits.deliveries recipientId hrecipient, Option.none_or,
                if_pos ⟨rfl, hrecipient⟩]

/-- Every operation but a read that drains returns what is stored. -/
theorem stores_of_runMail {op : MailOperation} (hop : ¬db.Drains op) {items : List Mail}
    (h : (db.runMail op).1 = .ok items) : ∀ item ∈ items, (db.runMail op).2.Stores item := by
  cases op with
  | insertMailForRecipients mail recipientIds =>
      rw [runMail] at h ⊢
      cases hinsert : db.insertMailForRecipients mail recipientIds with
      | ok result =>
          rw [hinsert] at h
          cases h
          exact stores_of_insertMailForRecipients hinsert
      | error error =>
          rw [hinsert] at h
          cases h
  | idempotentMailForRecipients mail recipientIds =>
      rw [runMail] at h ⊢
      rw [idempotentMailForRecipients] at h
      split at h
      · cases h
        exact fun item hitem => absurd hitem List.not_mem_nil
      · cases hreplay : db.loadIdempotentReplay mail recipientIds with
        | error error =>
            rw [hreplay] at h
            cases h
        | ok replay =>
            rw [hreplay] at h
            cases h
            cases replay with
            | none => exact fun item hitem => absurd hitem List.not_mem_nil
            | some replay => exact stores_of_loadIdempotentReplay hreplay
  | readUnreadMail recipientId readAt peek =>
      cases h
      cases peek with
      | true => exact fun item hitem => stores_iff.mpr (mem_fetchUnread_iff.mp hitem).1
      | false =>
          -- a drain that finds nothing returns nothing
          have hempty : db.fetchUnread recipientId = [] := by
            by_contra hne
            exact hop ⟨recipientId, readAt, rfl, hasUnread_iff.mpr hne⟩
          intro item hitem
          rw [readUnreadMail_eq, hempty] at hitem
          cases hitem
  | listMessageLog contextId participantIds recipientIds includeSystem after =>
      cases h
      exact fun item hitem => stores_iff.mpr (mem_listMessageLog hitem)

/-- A read that drains returns mail with the time of its read and the status unread. -/
theorem not_statusAgrees_of_drains {recipientId : SessionId} (readAt : DateTime)
    (h : db.HasUnread recipientId) :
    ∃ item ∈ (db.readUnreadMail recipientId readAt false).1,
      ¬StatusAgrees item.status item.readAt := by
  obtain ⟨item, hitem⟩ := List.exists_mem_of_ne_nil _ (hasUnread_iff.mp h)
  refine ⟨{ item with readAt := some readAt }, List.mem_map_of_mem hitem, fun hagrees => ?_⟩
  have hread := hagrees.mpr rfl
  rw [(mem_fetchUnread_iff.mp hitem).2.2] at hread
  cases hread

end Database

open Database

/-- In a reachable store every operation returns what it leaves stored, except a read
that drains a mailbox. -/
theorem returned_mail_is_stored_iff {createdAt : DateTime} {db : Database}
    (h : mailTables.Reaches MailTableStep.Permitted (.migrated createdAt) db) {op : MailOperation}
    (hop : op.Permitted) : db.ReturnsStored op ↔ ¬db.Drains op := by
  have hagree := (statusesAgree_of_reaches h).runMail hop
  constructor
  · rintro ⟨hvalues, -⟩ ⟨recipientId, readAt, rfl, hunread⟩
    obtain ⟨item, hitem, hdisagrees⟩ := not_statusAgrees_of_drains readAt hunread
    exact hdisagrees (hvalues _ rfl item hitem).2
  · intro hdrains
    refine ⟨fun items hitems item hitem => ?_, hagree⟩
    have hstored := stores_of_runMail hdrains hitems item hitem
    exact ⟨hstored, hagree.of_stores hstored⟩

/-- A message to session 1 that nobody has read. -/
def unreadMail : Mail where
  id := ⟨2⟩
  sender := .session ⟨3⟩
  recipientId := ⟨1⟩
  content := "ready for review"
  sentAt := 5
  readAt := none
  status := .unread
  contextId := "review"
  intent := .request
  idempotencyKey := none

/-- The same message, sent under a key. -/
def replayedMail (id : MessageId) : Mail := { unreadMail with id := id, idempotencyKey := some "k" }

/-- A keyed message and another one are stored and read. -/
def readRun : List MailTableStep :=
  [.operation (.insertMailForRecipients (replayedMail ⟨2⟩) [⟨1⟩]),
    .operation (.insertMailForRecipients { unreadMail with id := ⟨3⟩ } [⟨1⟩]),
    .operation (.readUnreadMail ⟨1⟩ 9 false)]

/-- The keyed message comes again under another id: the replay returns what is stored, the
time of the read included. -/
theorem replay_returns_stored :
    ∃ db, mailTables.follow (.migrated 0) readRun = some db ∧
      (db.runMail (.insertMailForRecipients (replayedMail ⟨4⟩) [⟨1⟩])).1 =
        .ok [{ replayedMail ⟨2⟩ with status := .read, readAt := some 9 }] ∧
      db.ReturnsStored (.insertMailForRecipients (replayedMail ⟨4⟩) [⟨1⟩]) := by
  have hrun : ∃ db, mailTables.follow (.migrated 0) readRun = some db ∧
      (db.runMail (.insertMailForRecipients (replayedMail ⟨4⟩) [⟨1⟩])).1 =
        .ok [{ replayedMail ⟨2⟩ with status := .read, readAt := some 9 }] :=
    ⟨_, rfl, rfl⟩
  obtain ⟨db, hfollow, hreplay⟩ := hrun
  have hmeets : mailTables.Meets MailTableStep.Permitted (.migrated 0) readRun :=
    ⟨⟨rfl, rfl⟩, fun _ _ => ⟨⟨rfl, rfl⟩, fun _ _ => ⟨trivial, fun _ _ => trivial⟩⟩⟩
  have hreach := StepSystem.reaches_of_meets hmeets hfollow
  have hpermitted :
      (MailOperation.insertMailForRecipients (replayedMail ⟨4⟩) [⟨1⟩]).Permitted := ⟨rfl, rfl⟩
  refine ⟨db, hfollow, hreplay, (returned_mail_is_stored_iff hreach hpermitted).mpr ?_⟩
  rintro ⟨recipientId, readAt, hread, -⟩
  cases hread

/-- The message is inserted and read. -/
theorem drained_mail_is_not_stored :
    ¬∀ (createdAt : DateTime) (db : Database) (op : MailOperation),
      mailTables.Reaches MailTableStep.Permitted (.migrated createdAt) db → op.Permitted →
        db.ReturnsStored op := by
  intro h
  have hreach : mailTables.Reaches MailTableStep.Permitted (.migrated 0)
      ((Database.migrated 0).runMail (.insertMailForRecipients unreadMail [⟨1⟩])).2 :=
    .step .refl (a := .operation (.insertMailForRecipients unreadMail [⟨1⟩])) ⟨rfl, rfl⟩ rfl
  have hunread : ((Database.migrated 0).runMail
      (.insertMailForRecipients unreadMail [⟨1⟩])).2.HasUnread ⟨1⟩ :=
    ⟨⟨2⟩, messageRow unreadMail, deliveryRow unreadMail, by decide, by decide, by decide⟩
  obtain ⟨item, hitem, hdisagrees⟩ := not_statusAgrees_of_drains 9 hunread
  have hreturns := h 0 _ (.readUnreadMail ⟨1⟩ 9 false) hreach trivial
  exact hdisagrees (hreturns.1 _ rfl item hitem).2

end LittleOrgans.Store
