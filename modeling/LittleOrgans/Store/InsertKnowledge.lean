import LittleOrgans.Store.ConcurrentReads

/-!
# What concurrent inserts know

The invariant of interleaved inserts. A call between two statements knows what its
last statement found, and what it knows stays true while other calls commit: messages
are only added, a message that is being inserted is locked by its id and its key, and
a delivery changes its status only. `InsertsInvariant.step` is the step lemma.

The store is assumed to start with its unique index satisfied and without deliveries
that have no message, as every operation of the store leaves it.
-/

set_option autoImplicit false

namespace LittleOrgans.Store

open LittleOrgans.Core
open LittleOrgans.Library

/-! ## Stored messages -/

/-- `idx_messages_sender_idempotency`. -/
def UniqueKeys (db : Database) : Prop :=
  ∀ id id' row row', db.messages.lookup id = some row → db.messages.lookup id' = some row' →
    row.sender = row'.sender → row.idempotencyKey = row'.idempotencyKey →
      row.idempotencyKey ≠ none → id = id'

/-- Every delivery has its message. -/
def NoOrphans (db : Database) : Prop :=
  ∀ key delivery, db.deliveries.lookup key = some delivery →
    ∃ row, db.messages.lookup key.1 = some row

/-- The message is stored under this sender and key. -/
def StoredUnder (db : Database) (sender : SenderRef) (key : String) (id : MessageId)
    (row : MessageRow) : Prop :=
  db.messages.lookup id = some row ∧ row.sender = sender ∧ row.idempotencyKey = some key

section Rows

variable {db : Database} {mail : Mail}

theorem idempotentRow_eq_some {id : MessageId} {row : MessageRow}
    (h : db.idempotentRow mail = some (id, row)) :
    ∃ key, mail.idempotencyKey = some key ∧ StoredUnder db mail.sender key id row := by
  obtain ⟨key, hkey, hfind⟩ := Option.bind_eq_some_iff.mp h
  rw [Database.messageByIdempotency] at hfind
  have hmem := List.mem_of_find?_eq_some hfind
  have hfound := List.find?_some hfind
  have hrow := of_decide_eq_true hfound
  exact ⟨key, hkey, Table.mem_rows_iff.mp hmem, hrow⟩

theorem idempotentRow_eq_none_iff :
    db.idempotentRow mail = none ↔ ∀ key, mail.idempotencyKey = some key →
      ∀ id row, ¬StoredUnder db mail.sender key id row := by
  constructor
  · intro h key hkey id row hstored
    rw [Database.idempotentRow, hkey, Option.bind_some, Database.messageByIdempotency,
      List.find?_eq_none] at h
    exact h (id, row) (Table.mem_rows_iff.mpr hstored.1) (decide_eq_true hstored.2)
  · intro h
    cases hrow : db.idempotentRow mail with
    | none => rfl
    | some row =>
        obtain ⟨key, hkey, hstored⟩ := idempotentRow_eq_some hrow
        exact absurd hstored (h key hkey row.1 row.2)

theorem mem_recipientSetForMessage {id : MessageId} {recipientId : SessionId} :
    recipientId ∈ db.recipientSetForMessage id ↔
      ∃ delivery, db.deliveries.lookup (id, recipientId) = some delivery := by
  rw [Database.recipientSetForMessage, List.mem_toFinset, List.mem_map]
  constructor
  · rintro ⟨⟨⟨id', recipientId'⟩, delivery⟩, hrow, rfl⟩
    obtain ⟨hmem, hid⟩ := List.mem_filter.mp hrow
    have hid' : id' = id := of_decide_eq_true hid
    subst hid'
    exact ⟨delivery, Table.mem_rows_iff.mp hmem⟩
  · rintro ⟨delivery, hrow⟩
    refine ⟨((id, recipientId), delivery), List.mem_filter.mpr ⟨?_, ?_⟩, rfl⟩
    · exact Table.mem_rows_iff.mpr hrow
    · exact decide_eq_true rfl

/-- The deliveries after an insert commits. -/
theorem lookup_commitInsert {inserted : List SessionId} (key : DeliveryKey) :
    (db.commitInsert mail inserted).deliveries.lookup key =
      (db.deliveries.lookup key).or
        (if key.1 = mail.id ∧ key.2 ∈ inserted then some (deliveryRow mail) else none) := by
  show (inserted.foldl _ db.deliveries).lookup key = _
  generalize db.deliveries = deliveries
  induction inserted generalizing deliveries with
  | nil => simp
  | cons recipientId inserted ih =>
      rw [List.foldl_cons, ih]
      obtain ⟨id, recipient⟩ := key
      -- the row inserted first wins over a later one with its key
      by_cases hkey : (id, recipient) = (mail.id, recipientId)
      · cases hkey
        cases hrow : deliveries.lookup (mail.id, recipientId) with
        | none =>
            rw [Table.lookup_insert_self hrow]
            simp
        | some delivery =>
            rw [Table.insert_of_lookup hrow, hrow]
            rfl
      · rw [Table.lookup_insert_ne hkey]
        have hmem : id = mail.id →
            (recipient ∈ recipientId :: inserted ↔ recipient ∈ inserted) := by
          rintro rfl
          rw [List.mem_cons, or_iff_right]
          rintro rfl
          exact hkey rfl
        by_cases hid : id = mail.id
        · simp only [hid, true_and, hmem hid]
        · simp only [hid, false_and]

end Rows

/-! ## What a call knows -/

/-- The store has kept its messages, and its deliveries up to their status. -/
structure StoreGrows (hasRead : Prop) (db db' : Database) : Prop where
  messages : ∀ id row, db.messages.lookup id = some row → db'.messages.lookup id = some row
  deliveries : ∀ key delivery, db.deliveries.lookup key = some delivery →
    ∃ delivery', db'.deliveries.lookup key = some delivery' ∧ (delivery' = delivery ∨ hasRead)
  recipients : ∀ id row, db.messages.lookup id = some row → ∀ recipientId delivery',
    db'.deliveries.lookup (id, recipientId) = some delivery' →
      ∃ delivery, db.deliveries.lookup (id, recipientId) = some delivery

/-- A mail that reports a stored delivery; its status may be from before a read. -/
def ReportsDelivery (hasRead : Prop) (db : Database) (id : MessageId) (row : MessageRow)
    (item : Mail) : Prop :=
  ∃ delivery, item = mailFromRow id item.recipientId row delivery ∧
    ∃ delivery', db.deliveries.lookup (id, item.recipientId) = some delivery' ∧
      (delivery' = delivery ∨ hasRead)

theorem StoreGrows.recipientSet {hasRead : Prop} {db db' : Database}
    (h : StoreGrows hasRead db db') {id : MessageId} {row : MessageRow}
    (hrow : db.messages.lookup id = some row) :
    db'.recipientSetForMessage id = db.recipientSetForMessage id := by
  ext recipientId
  rw [mem_recipientSetForMessage, mem_recipientSetForMessage]
  constructor
  · rintro ⟨delivery', hdelivery'⟩
    exact h.recipients id row hrow recipientId delivery' hdelivery'
  · rintro ⟨delivery, hdelivery⟩
    obtain ⟨delivery', hdelivery', -⟩ := h.deliveries _ _ hdelivery
    exact ⟨delivery', hdelivery'⟩

theorem StoreGrows.reports {hasRead : Prop} {db db' : Database} (h : StoreGrows hasRead db db')
    {id : MessageId} {row : MessageRow} {item : Mail}
    (hitem : ReportsDelivery hasRead db id row item) : ReportsDelivery hasRead db' id row item := by
  obtain ⟨delivery, heq, delivery', hrow, hsame⟩ := hitem
  obtain ⟨delivery'', hrow'', hsame'⟩ := h.deliveries _ _ hrow
  refine ⟨delivery, heq, delivery'', hrow'', ?_⟩
  rcases hsame' with rfl | hread
  · exact hsame
  · exact .inr hread

/-- The write agrees with the stored message, in payload and recipients. -/
def Agrees (db : Database) (id : MessageId) (row : MessageRow) (mail : Mail)
    (recipientIds : List SessionId) : Prop :=
  matchesMessage row mail ∧ db.recipientSetForMessage id = recipientSet recipientIds

/-- What a call that reports success knows of its outcome. -/
structure Reported (hasRead : Prop) (db₀ db : Database) (mail : Mail)
    (recipientIds : List SessionId) (outcome : MailWriteOutcome) (id : MessageId)
    (row : MessageRow) : Prop where
  stored : db.messages.lookup id = some row
  agrees : Agrees db id row mail recipientIds
  recipients : outcome.mail.map (fun item => item.recipientId) = recipientIds
  deliveries : ∀ item ∈ outcome.mail, ReportsDelivery hasRead db id row item
  inserted : outcome.inserted = true →
    id = mail.id ∧ row = messageRow mail ∧ db₀.messages.lookup mail.id = none

/-- Why an insert of a message with a fresh id and distinct recipients fails: only a
write that differs from the stored one does. -/
inductive Failed (used : Prop) (db : Database) (mail : Mail) (recipientIds : List SessionId) :
    MailError → Prop where
  | differs {id : MessageId} {row : MessageRow} {key : String}
      (hkey : mail.idempotencyKey = some key) (hstored : StoredUnder db mail.sender key id row)
      (hdiffers : ¬Agrees db id row mail recipientIds) :
      Failed used db mail recipientIds (keyConflict mail)
  | idTaken (h : used) : Failed used db mail recipientIds (.database "duplicate key: messages_pkey")
  | recipientTwice (h : ¬recipientIds.Nodup) :
      Failed used db mail recipientIds (.database "duplicate key: message_deliveries_pkey")

/-- What an insert knows between its statements. -/
def InsertPhase.Knows (hasRead used : Prop) (db₀ db : Database) (mail : Mail)
    (recipientIds : List SessionId) : InsertPhase → Prop
  | .start retry => retry = true → ∃ id row key, mail.idempotencyKey = some key ∧
      StoredUnder db mail.sender key id row
  | .recipients id existing => db.messages.lookup id = some existing ∧
      matchesMessage existing mail ∧ mail.idempotencyKey ≠ none
  | .replay id existing rest loaded => db.messages.lookup id = some existing ∧
      Agrees db id existing mail recipientIds ∧ mail.idempotencyKey ≠ none ∧
      loaded.map (fun item => item.recipientId) ++ rest = recipientIds ∧
      ∀ item ∈ loaded, ReportsDelivery hasRead db id existing item
  | .message retry => retry = false
  | .deliveries inserted rest => inserted ++ rest = recipientIds ∧ inserted.Nodup ∧
      db.messages.lookup mail.id = none ∧ db.idempotentRow mail = none
  | .finished (.ok outcome) => recipientIds = [] ∧ outcome = { mail := [], inserted := false } ∨
      ∃ id row, Reported hasRead db₀ db mail recipientIds outcome id row
  | .finished (.error e) => Failed used db mail recipientIds e
  | .broken => True

theorem StoreGrows.agrees_iff {hasRead : Prop} {db db' : Database} (h : StoreGrows hasRead db db')
    {id : MessageId} {row : MessageRow} {mail : Mail} {recipientIds : List SessionId}
    (hrow : db.messages.lookup id = some row) :
    Agrees db' id row mail recipientIds ↔ Agrees db id row mail recipientIds := by
  rw [Agrees, Agrees, h.recipientSet hrow]

/-- What a call knows stays true while the store grows, as long as nobody takes the
id and the key of a message it is inserting. -/
theorem InsertPhase.Knows.grows {hasRead used : Prop} {db₀ db db' : Database} {mail : Mail}
    {recipientIds : List SessionId} {phase : InsertPhase}
    (h : phase.Knows hasRead used db₀ db mail recipientIds) (hgrows : StoreGrows hasRead db db')
    (hlocks : ∀ inserted rest, phase = .deliveries inserted rest →
      db'.messages.lookup mail.id = none ∧ db'.idempotentRow mail = none) :
    phase.Knows hasRead used db₀ db' mail recipientIds := by
  cases phase with
  | start retry =>
      intro hretry
      obtain ⟨id, row, key, hkey, hstored, hrow⟩ := h hretry
      exact ⟨id, row, key, hkey, hgrows.messages id row hstored, hrow⟩
  | recipients id existing =>
      obtain ⟨hrow, hmatch, hkey⟩ := h
      exact ⟨hgrows.messages _ _ hrow, hmatch, hkey⟩
  | replay id existing rest loaded =>
      obtain ⟨hrow, hagrees, hkey, hrest, hloaded⟩ := h
      exact ⟨hgrows.messages _ _ hrow, (hgrows.agrees_iff hrow).mpr hagrees, hkey, hrest,
        fun item hitem => hgrows.reports (hloaded item hitem)⟩
  | message retry => exact h
  -- Only what the call holds locked may not have been written meanwhile.
  | deliveries inserted rest =>
      obtain ⟨hrest, hnodup, -, -⟩ := h
      exact ⟨hrest, hnodup, hlocks inserted rest rfl⟩
  | finished result =>
      cases result with
      | ok outcome =>
          rcases h with hnone | ⟨id, row, hreported⟩
          · exact .inl hnone
          · refine .inr ⟨id, row, hgrows.messages _ _ hreported.stored,
              (hgrows.agrees_iff hreported.stored).mpr hreported.agrees, hreported.recipients,
              fun item hitem => hgrows.reports (hreported.deliveries item hitem),
              hreported.inserted⟩
      | error e =>
          have hfailed : Failed used db mail recipientIds e := h
          cases hfailed with
          | differs hkey hstored hdiffers =>
              refine Failed.differs hkey ⟨hgrows.messages _ _ hstored.1, hstored.2⟩ ?_
              rwa [hgrows.agrees_iff hstored.1]
          | idTaken hused => exact Failed.idTaken hused
          | recipientTwice htwice => exact Failed.recipientTwice htwice
  | broken => trivial

/-! ## What holds in every state -/

namespace MailState

variable {ι : Type}

/-- A read is among the calls. -/
def HasRead (s : MailState ι) : Prop :=
  ∃ i recipientId readAt phase, s.calls i = .read recipientId readAt phase

/-- The message id is stored, or another call carries it. -/
def IdUsed (s : MailState ι) (i : ι) (id : MessageId) : Prop :=
  (∃ row, s.db.messages.lookup id = some row) ∨
    ∃ j mail recipientIds phase, j ≠ i ∧ s.calls j = .insert mail recipientIds phase ∧ mail.id = id

/-- The call reports that it inserted its message. -/
def ReportsInserted (s : MailState ι) (i : ι) (mail : Mail) : Prop :=
  ∃ recipientIds outcome, s.calls i = .insert mail recipientIds (.finished (.ok outcome)) ∧
    outcome.inserted = true

end MailState

variable {ι : Type}

structure InsertsInvariant (s₀ s : MailState ι) : Prop where
  unique : UniqueKeys s.db
  orphans : NoOrphans s.db
  reads : ∀ i recipientId readAt phase, s.calls i = .read recipientId readAt phase → s₀.HasRead
  inserts : ∀ i mail recipientIds phase, s.calls i = .insert mail recipientIds phase →
    (∃ phase₀, s₀.calls i = .insert mail recipientIds phase₀) ∧
      phase.Knows s₀.HasRead (s₀.IdUsed i mail.id) s₀.db s.db mail recipientIds
  locks : ∀ i j mail mail', i ≠ j → (s.calls i).pendingMessage = some mail →
    (s.calls j).pendingMessage = some mail' → mail.id ≠ mail'.id ∧
      ¬(mail.idempotencyKey ≠ none ∧ mail'.sender = mail.sender ∧
        mail'.idempotencyKey = mail.idempotencyKey)
  kept : ∀ id row, s₀.db.messages.lookup id = some row → s.db.messages.lookup id = some row
  origin : ∀ id row, s.db.messages.lookup id = some row →
    s₀.db.messages.lookup id = some row ∨ ∃ i mail, s.ReportsInserted i mail ∧ mail.id = id
  once : ∀ i j mail mail', s.ReportsInserted i mail → s.ReportsInserted j mail' →
    mail.id = mail'.id → i = j

theorem messages_commitRead (db : Database) (recipientId : SessionId) (readAt : DateTime)
    (marked : List MessageId) :
    (db.commitRead recipientId readAt marked).messages = db.messages := by
  induction marked generalizing db with
  | nil => rfl
  | cons id marked ih => exact ih (db.updateRead readAt id recipientId)

theorem lookup_messages_commitInsert (db : Database) {mail : Mail} (inserted : List SessionId)
    (hnone : db.messages.lookup mail.id = none) (id : MessageId) :
    (db.commitInsert mail inserted).messages.lookup id =
      if id = mail.id then some (messageRow mail) else db.messages.lookup id :=
  Table.lookup_insert hnone _ _

theorem StoreGrows.refl (hasRead : Prop) (db : Database) : StoreGrows hasRead db db where
  messages _ _ h := h
  deliveries _ delivery h := ⟨delivery, h, .inl rfl⟩
  recipients _ _ _ _ delivery' h := ⟨delivery', h⟩

theorem StoreGrows.commitInsert (hasRead : Prop) {db : Database} {mail : Mail}
    (inserted : List SessionId) (hnone : db.messages.lookup mail.id = none) :
    StoreGrows hasRead db (db.commitInsert mail inserted) where
  messages id row h := by
    rw [lookup_messages_commitInsert db inserted hnone]
    split
    · next hid =>
        rw [hid, hnone] at h
        cases h
    · exact h
  deliveries key delivery h := ⟨delivery, lookup_commitInsert_of_some h, .inl rfl⟩
  recipients id row hrow recipientId delivery' h := by
    rw [lookup_commitInsert] at h
    have hne : ¬(id = mail.id ∧ recipientId ∈ inserted) := by
      rintro ⟨rfl, -⟩
      rw [hnone] at hrow
      cases hrow
    rw [if_neg hne, Option.or_none] at h
    exact ⟨delivery', h⟩

theorem StoreGrows.commitRead {hasRead : Prop} (hread : hasRead) (db : Database)
    (recipientId : SessionId) (readAt : DateTime) (marked : List MessageId) :
    StoreGrows hasRead db (db.commitRead recipientId readAt marked) where
  messages id row h := by rwa [messages_commitRead]
  deliveries key delivery h := by
    rw [lookup_commitRead, h]
    split
    · exact ⟨_, rfl, .inr hread⟩
    · exact ⟨_, rfl, .inl rfl⟩
  recipients id row hrow recipient delivery' h := by
    rw [lookup_commitRead] at h
    split at h
    · obtain ⟨delivery, hdelivery, -⟩ := Option.map_eq_some_iff.mp h
      exact ⟨delivery, hdelivery⟩
    · exact ⟨delivery', h⟩

section Steps

variable [Fintype ι] [DecidableEq ι] {s₀ s s' : MailState ι} {a : MailAction ι}

/-- What a step does to the store: nothing, or what the commit of its call writes. -/
inductive StoreMove (s : MailState ι) (s' : MailState ι) : Prop where
  | none (h : s'.db = s.db)
  | insert {i : ι} {mail : Mail} {recipientIds inserted : List SessionId}
      (hcall : s.calls i = .insert mail recipientIds (.deliveries inserted []))
      (hcall' : s'.calls i = .insert mail recipientIds
        (.finished (.ok { mail := mailForRecipients mail recipientIds, inserted := true })))
      (h : s'.db = s.db.commitInsert mail inserted)
  | read {i : ι} {recipientId : SessionId} {readAt : DateTime} {drained : List Mail}
      {marked : List MessageId}
      (hcall : s.calls i = .read recipientId readAt (.updates drained marked []))
      (h : s'.db = s.db.commitRead recipientId readAt marked)

theorem MailMoves.storeMove (h : MailMoves s a s') : StoreMove s s' := by
  cases h with
  | insert hcall hmove =>
      cases hmove with
      | commit => exact .insert hcall (MailState.goOn_calls_self _ _ _) rfl
      | _ => exact .none rfl
  | read hcall hmove =>
      cases hmove with
      | commit => exact .read hcall rfl
      | _ => exact .none rfl
  | breakInsert hcall hphase => exact .none rfl
  | breakRead hcall hphase => exact .none rfl

theorem InsertsInvariant.grows (hinv : InsertsInvariant s₀ s) (h : MailMoves s a s') :
    StoreGrows s₀.HasRead s.db s'.db := by
  cases h.storeMove with
  | none hdb =>
      rw [hdb]
      exact .refl _ _
  | insert hcall hcall' hdb =>
      rw [hdb]
      obtain ⟨-, -, hnone, -⟩ := (hinv.inserts _ _ _ _ hcall).2
      exact .commitInsert _ _ hnone
  | read hcall hdb =>
      rw [hdb]
      exact .commitRead (hinv.reads _ _ _ _ hcall) _ _ _ _

/-- A message the store did not have is the one whose insert commits. -/
theorem InsertsInvariant.messages_cases (hinv : InsertsInvariant s₀ s) (h : MailMoves s a s')
    {id : MessageId} {row : MessageRow} (hrow : s'.db.messages.lookup id = some row) :
    s.db.messages.lookup id = some row ∨
      ∃ i mail recipientIds inserted, row = messageRow mail ∧ id = mail.id ∧
        s.calls i = .insert mail recipientIds (.deliveries inserted []) ∧
        s'.ReportsInserted i mail := by
  cases h.storeMove with
  | none hdb =>
      rw [hdb] at hrow
      exact .inl hrow
  | @insert i mail recipientIds inserted hcall hcall' hdb =>
      obtain ⟨-, -, hnone, -⟩ := (hinv.inserts _ _ _ _ hcall).2
      rw [hdb, lookup_messages_commitInsert _ _ hnone] at hrow
      split at hrow
      · next hid =>
          cases hrow
          exact .inr ⟨i, mail, recipientIds, inserted, rfl, hid, hcall, _, _, hcall', rfl⟩
      · exact .inl hrow
  | read hcall hdb =>
      rw [hdb, messages_commitRead] at hrow
      exact .inl hrow


theorem pendingMessage_eq_some {call : MailCall} {mail : Mail}
    (h : call.pendingMessage = some mail) :
    ∃ recipientIds inserted rest, call = .insert mail recipientIds (.deliveries inserted rest) := by
  cases call with
  | read recipientId readAt phase => cases h
  | insert mail' recipientIds phase =>
      cases phase with
      | deliveries inserted rest =>
          cases h
          exact ⟨recipientIds, inserted, rest, rfl⟩
      | start retry => cases h
      | recipients id existing => cases h
      | replay id existing rest loaded => cases h
      | message retry => cases h
      | finished result => cases h
      | broken => cases h

theorem mem_inserting {call : MailCall} {key : DeliveryKey} (h : key ∈ call.inserting) :
    ∃ mail, call.pendingMessage = some mail ∧ mail.id = key.1 := by
  cases call with
  | read recipientId readAt phase => cases h
  | insert mail recipientIds phase =>
      cases phase with
      | deliveries inserted rest =>
          obtain ⟨recipientId, -, rfl⟩ := List.mem_map.mp h
          exact ⟨mail, rfl, rfl⟩
      | start retry => cases h
      | recipients id existing => cases h
      | replay id existing rest loaded => cases h
      | message retry => cases h
      | finished result => cases h
      | broken => cases h

/-- A call that reports an insert has finished, and does not move. -/
theorem MailMoves.reportsInserted (h : MailMoves s a s') {i : ι} {mail : Mail}
    (hreports : s.ReportsInserted i mail) : s'.ReportsInserted i mail := by
  obtain ⟨recipientIds, outcome, hfinished, hinserted⟩ := hreports
  have hne : i ≠ a.call := by
    rintro rfl
    cases h with
    | insert hcall hmove =>
        rw [MailAction.call, hcall] at hfinished
        cases hfinished
        cases hmove
    | read hcall hmove =>
        rw [MailAction.call, hcall] at hfinished
        cases hfinished
    | breakInsert hcall hphase =>
        rw [MailAction.call, hcall] at hfinished
        cases hfinished
        exact hphase _ rfl
    | breakRead hcall hphase =>
        rw [MailAction.call, hcall] at hfinished
        cases hfinished
  exact ⟨recipientIds, outcome, (h.others hne).trans hfinished, hinserted⟩

/-- A call that reports an insert reported it before, or commits now. -/
theorem InsertsInvariant.reportsInserted_cases (hinv : InsertsInvariant s₀ s)
    (h : MailMoves s a s') {i : ι} {mail : Mail} (hreports : s'.ReportsInserted i mail) :
    s.ReportsInserted i mail ∨
      i = a.call ∧ s.db.messages.lookup mail.id = none := by
  obtain ⟨recipientIds, outcome, hfinished, hinserted⟩ := hreports
  by_cases hcaller : i = a.call
  · subst hcaller
    cases h with
    | read hcall hmove =>
        rw [MailAction.call, MailState.goOn_calls_self] at hfinished
        cases hfinished
    | breakInsert hcall hphase =>
        rw [MailAction.call, MailState.goOn_calls_self] at hfinished
        cases hfinished
    | breakRead hcall hphase =>
        rw [MailAction.call, MailState.goOn_calls_self] at hfinished
        cases hfinished
    | insert hcall hmove =>
        rw [MailAction.call, MailState.goOn_calls_self] at hfinished
        cases hfinished
        cases hmove with
        | noRecipients hnil => cases hinserted
        | replayed => cases hinserted
        | commit =>
            obtain ⟨-, -, hnone, -⟩ := (hinv.inserts _ _ _ _ hcall).2
            exact .inr ⟨rfl, hnone⟩
  · exact .inl ⟨recipientIds, outcome, (h.others hcaller).symm.trans hfinished, hinserted⟩

/-- A call that is inserting a message was, or has just found neither its id nor its
key taken by another one. -/
theorem MailMoves.pendingMessage_cases (h : MailMoves s a s') {i : ι} {mail : Mail}
    (hpending : (s'.calls i).pendingMessage = some mail) :
    (s.calls i).pendingMessage = some mail ∨
      i = a.call ∧ ∀ j, j ≠ i → (s.calls j).holdsId mail.id = false ∧
        (s.calls j).holdsKey mail = false := by
  by_cases hcaller : i = a.call
  · subst hcaller
    obtain ⟨recipientIds, inserted, rest, hphase⟩ := pendingMessage_eq_some hpending
    cases h with
    | read hcall hmove =>
        rw [MailAction.call, MailState.goOn_calls_self] at hphase
        cases hphase
    | breakInsert hcall hphase' =>
        rw [MailAction.call, MailState.goOn_calls_self] at hphase
        cases hphase
    | breakRead hcall hphase' =>
        rw [MailAction.call, MailState.goOn_calls_self] at hphase
        cases hphase
    | insert hcall hmove =>
        rw [MailAction.call, MailState.goOn_calls_self] at hphase
        cases hphase
        cases hmove with
        -- the statement waited until nobody held the id or the key
        | insertMessage hwaitId hid hwaitKey hrow =>
            exact .inr ⟨rfl, fun j hj =>
              ⟨waits_eq_false hwaitId j hj, waits_eq_false hwaitKey j hj⟩⟩
        | insertDelivery hnew hkey =>
            rw [MailAction.call, hcall]
            exact .inl rfl
  -- the other calls keep what they hold
  · rw [h.others hcaller] at hpending
    exact .inl hpending

theorem InsertsInvariant.locks_step (hinv : InsertsInvariant s₀ s) (h : MailMoves s a s')
    {i j : ι} {mail mail' : Mail} (hne : i ≠ j)
    (hi : (s'.calls i).pendingMessage = some mail)
    (hj : (s'.calls j).pendingMessage = some mail') : mail.id ≠ mail'.id ∧
      ¬(mail.idempotencyKey ≠ none ∧ mail'.sender = mail.sender ∧
        mail'.idempotencyKey = mail.idempotencyKey) := by
  -- Whoever inserted last has waited for the other.
  have waited : ∀ {l : ι} {own other : Mail}, (s.calls l).pendingMessage = some other →
      (s.calls l).holdsId own.id = false ∧ (s.calls l).holdsKey own = false →
      other.id ≠ own.id ∧ ¬(own.idempotencyKey ≠ none ∧ other.sender = own.sender ∧
        other.idempotencyKey = own.idempotencyKey) := by
    intro l own other hother hholds
    rw [MailCall.holdsId, MailCall.holdsKey, hother, Option.any_some, Option.any_some] at hholds
    exact ⟨of_decide_eq_false hholds.1, of_decide_eq_false hholds.2⟩
  rcases h.pendingMessage_cases hi with hi | ⟨hcaller, hwait⟩
  · rcases h.pendingMessage_cases hj with hj | ⟨hcaller', hwait'⟩
    · exact hinv.locks i j mail mail' hne hi hj
    · obtain ⟨hid, hkey⟩ := waited hi (hwait' i hne)
      refine ⟨hid, ?_⟩
      rintro ⟨hsome, hsender, hsame⟩
      exact hkey ⟨by rw [hsame]; exact hsome, hsender.symm, hsame.symm⟩
  · rcases h.pendingMessage_cases hj with hj | ⟨hcaller', -⟩
    · obtain ⟨hid, hkey⟩ := waited hj (hwait j (Ne.symm hne))
      exact ⟨Ne.symm hid, hkey⟩
    · exact absurd (hcaller.trans hcaller'.symm) hne

/-- While another call commits, the message a call is inserting stays out of the
store, and so does its key. -/
theorem InsertsInvariant.pending_kept (hinv : InsertsInvariant s₀ s) (h : MailMoves s a s')
    {j : ι} {mail : Mail} {recipientIds inserted rest : List SessionId}
    (hcall : s.calls j = .insert mail recipientIds (.deliveries inserted rest))
    (hne : j ≠ a.call) :
    s'.db.messages.lookup mail.id = none ∧ s'.db.idempotentRow mail = none := by
  obtain ⟨-, -, hnone, hrow⟩ := (hinv.inserts j _ _ _ hcall).2
  have hpending : (s.calls j).pendingMessage = some mail := by rw [hcall]; rfl
  have hsame : s'.calls j = s.calls j := h.others hne
  -- A new row is the message of a call that commits now.
  have hnew : ∀ id row, s'.db.messages.lookup id = some row →
      s.db.messages.lookup id = some row ∨ ∃ other, row = messageRow other ∧ id = other.id ∧
        mail.id ≠ other.id ∧ ¬(mail.idempotencyKey ≠ none ∧ other.sender = mail.sender ∧
          other.idempotencyKey = mail.idempotencyKey) := by
    intro id row hlookup
    rcases hinv.messages_cases h hlookup with hold | ⟨i, other, _, _, hother, hid, hi, hreports⟩
    · exact .inl hold
    · have hij : j ≠ i := by
        rintro rfl
        obtain ⟨_, _, hfinished, -⟩ := hreports
        rw [hsame, hcall] at hfinished
        cases hfinished
      have hlocks := hinv.locks j i mail other hij hpending (by rw [hi]; rfl)
      exact .inr ⟨other, hother, hid, hlocks⟩
  constructor
  · cases hlookup : s'.db.messages.lookup mail.id with
    | none => rfl
    | some row =>
        rcases hnew _ _ hlookup with hold | ⟨other, -, hid, hne, -⟩
        · rw [hnone] at hold
          cases hold
        · exact absurd hid hne
  · rw [idempotentRow_eq_none_iff] at hrow ⊢
    rintro key hkey id row ⟨hlookup, hsender, hrowKey⟩
    rcases hnew _ _ hlookup with hold | ⟨other, rfl, -, -, hother⟩
    · exact hrow key hkey id row ⟨hold, hsender, hrowKey⟩
    · refine hother ⟨by rw [hkey]; exact Option.some_ne_none key, hsender, ?_⟩
      rw [hkey]
      exact hrowKey

/-- A committed insert has its message, with its recipients and no others. -/
theorem agrees_commitInsert {db : Database} {mail : Mail} {recipientIds : List SessionId}
    (horphans : NoOrphans db) (hnone : db.messages.lookup mail.id = none) :
    Agrees (db.commitInsert mail recipientIds) mail.id (messageRow mail) mail recipientIds := by
  refine ⟨⟨rfl, rfl, rfl, rfl, rfl⟩, ?_⟩
  ext recipientId
  rw [mem_recipientSetForMessage, lookup_commitInsert, recipientSet, List.mem_toFinset]
  cases hold : db.deliveries.lookup (mail.id, recipientId) with
  | some delivery =>
      obtain ⟨row, hrow⟩ := horphans _ _ hold
      rw [hnone] at hrow
      cases hrow
  | none =>
      constructor
      · rintro ⟨delivery, hdelivery⟩
        rw [Option.none_or] at hdelivery
        split at hdelivery
        · next hmem => exact hmem.2
        · cases hdelivery
      · intro hmem
        exact ⟨deliveryRow mail, by rw [Option.none_or, if_pos ⟨rfl, hmem⟩]⟩

/-- The call that moves knows what its statement found. -/
theorem InsertsInvariant.knows_of_insertMoves (hinv : InsertsInvariant s₀ s) {i : ι}
    {mail : Mail} {recipientIds : List SessionId} {phase phase' : InsertPhase} {db' : Database}
    (hcall : s.calls i = .insert mail recipientIds phase)
    (hmove : InsertMoves s.db (s.waits i) mail recipientIds phase phase' db') :
    phase'.Knows s₀.HasRead (s₀.IdUsed i mail.id) s₀.db db' mail recipientIds := by
  have hknows := (hinv.inserts i _ _ _ hcall).2
  cases hmove with
  | noRecipients hnil => exact .inl ⟨hnil, rfl⟩
  | @absent retry hne hrow =>
      refine Bool.eq_false_iff.mpr fun hretry => ?_
      obtain ⟨id, row, key, hkey, hstored⟩ := hknows hretry
      exact idempotentRow_eq_none_iff.mp hrow key hkey id row hstored
  | found hne hrow hmatch =>
      obtain ⟨key, hkey, hstored⟩ := idempotentRow_eq_some hrow
      exact ⟨hstored.1, hmatch, by rw [hkey]; exact Option.some_ne_none key⟩
  | otherMessage hne hrow hmatch =>
      obtain ⟨key, hkey, hstored⟩ := idempotentRow_eq_some hrow
      exact Failed.differs hkey hstored fun hagrees => hmatch hagrees.1
  | sameRecipients hset =>
      obtain ⟨hrow, hmatch, hkey⟩ := hknows
      exact ⟨hrow, ⟨hmatch, hset⟩, hkey, rfl, fun _ hitem => absurd hitem List.not_mem_nil⟩
  | otherRecipients hset =>
      obtain ⟨hrow, hmatch, hkey⟩ := hknows
      obtain ⟨key, hkey⟩ := Option.ne_none_iff_exists'.mp hkey
      have hstored := hmatch.2.2.2.2.trans hkey
      exact Failed.differs hkey ⟨hrow, hmatch.1, hstored⟩ fun hagrees => hset hagrees.2
  | @load id existing recipientId rest loaded delivery hrow =>
      obtain ⟨hmessage, hagrees, hkey, hrest, hloaded⟩ := hknows
      refine ⟨hmessage, hagrees, hkey, ?_, fun item hitem => ?_⟩
      · rw [List.map_append, List.append_assoc]
        exact hrest
      · rcases List.mem_append.mp hitem with hitem | hitem
        · exact hloaded item hitem
        · rw [List.mem_singleton.mp hitem]
          exact ⟨delivery, rfl, delivery, hrow, .inl rfl⟩
  | @noDelivery id existing recipientId rest loaded hrow =>
      -- The recipients are those of the message, and each of them has a delivery.
      obtain ⟨hmessage, hagrees, hkey, hrest, hloaded⟩ := hknows
      have hmem : recipientId ∈ s.db.recipientSetForMessage id := by
        rw [hagrees.2, recipientSet, List.mem_toFinset, ← hrest]
        exact List.mem_append_right _ List.mem_cons_self
      obtain ⟨delivery, hdelivery⟩ := mem_recipientSetForMessage.mp hmem
      rw [hrow] at hdelivery
      cases hdelivery
  | @replayed id existing loaded =>
      obtain ⟨hmessage, hagrees, hkey, hrest, hloaded⟩ := hknows
      rw [List.append_nil] at hrest
      exact .inr ⟨id, existing, hmessage, hagrees, hrest, hloaded, fun h => by cases h⟩
  | idTaken hid =>
      refine Failed.idTaken ?_
      obtain ⟨row, hrow⟩ := Table.contains_iff.mp hid
      rcases hinv.origin _ _ hrow with hold | ⟨j, other, hreports, hother⟩
      · exact .inl ⟨row, hold⟩
      · obtain ⟨recipients, outcome, hfinished, -⟩ := hreports
        obtain ⟨phase₀, hstart⟩ := (hinv.inserts j _ _ _ hfinished).1
        refine .inr ⟨j, other, recipients, phase₀, ?_, hstart, hother⟩
        rintro rfl
        rw [hcall] at hfinished
        cases hfinished
  | lostRace hrow =>
      intro _
      obtain ⟨key, hkey, hstored⟩ := idempotentRow_eq_some hrow
      exact ⟨_, _, key, hkey, hstored⟩
  | lostRaceAgain hrow =>
      have hretry : true = false := hknows
      cases hretry
  | insertMessage hwaitId hid hwaitKey hrow => exact ⟨rfl, List.nodup_nil, hid, hrow⟩
  | @deliveryTaken inserted recipientId rest hkey =>
      obtain ⟨hrest, hnodup, hnone, hrow⟩ := hknows
      rcases hkey with hmem | hcontains
      · refine Failed.recipientTwice fun hrecipients => ?_
        rw [← hrest] at hrecipients
        exact List.disjoint_of_nodup_append hrecipients hmem List.mem_cons_self
      · obtain ⟨delivery, hdelivery⟩ := Table.contains_iff.mp hcontains
        obtain ⟨row, hmessage⟩ := hinv.orphans _ _ hdelivery
        rw [hnone] at hmessage
        cases hmessage
  | @insertDelivery inserted recipientId rest hnew hkey =>
      obtain ⟨hrest, hnodup, hnone, hrow⟩ := hknows
      refine ⟨by rw [List.append_assoc]; exact hrest, ?_, hnone, hrow⟩
      refine List.nodup_append.mpr ⟨hnodup, List.nodup_singleton _, ?_⟩
      rintro first hfirst second hsecond rfl
      rw [List.mem_singleton] at hsecond
      exact hnew (hsecond ▸ hfirst)
  | @commit inserted =>
      obtain ⟨hrest, hnodup, hnone, hrow⟩ := hknows
      rw [List.append_nil] at hrest
      subst hrest
      have hstored : (s.db.commitInsert mail inserted).messages.lookup mail.id =
          some (messageRow mail) := by
        rw [lookup_messages_commitInsert _ _ hnone, if_pos rfl]
      refine .inr ⟨mail.id, messageRow mail, hstored, agrees_commitInsert hinv.orphans hnone, ?_,
        fun item hitem => ?_, fun _ => ⟨rfl, rfl, ?_⟩⟩
      · rw [mailForRecipients, List.map_map]
        exact List.map_id _
      · obtain ⟨recipientId, hmem, rfl⟩ := List.mem_map.mp hitem
        refine ⟨deliveryRow mail, rfl, deliveryRow mail, ?_, .inl rfl⟩
        cases hold : s.db.deliveries.lookup (mail.id, recipientId) with
        | some delivery =>
            obtain ⟨row, hmessage⟩ := hinv.orphans _ _ hold
            rw [hnone] at hmessage
            cases hmessage
        | none =>
            rw [lookup_commitInsert, hold, Option.none_or, if_pos ⟨rfl, hmem⟩]
      · cases hstart : s₀.db.messages.lookup mail.id with
        | none => rfl
        | some row =>
            rw [hinv.kept _ _ hstart] at hnone
            cases hnone

theorem InsertsInvariant.unique_step (hinv : InsertsInvariant s₀ s) (h : MailMoves s a s') :
    UniqueKeys s'.db := by
  -- A row that is new has a key the store did not have.
  have hfresh : ∀ {id id' : MessageId} {row row' : MessageRow} {i : ι} {mail : Mail}
      {recipientIds inserted : List SessionId}, row = messageRow mail →
      s.calls i = .insert mail recipientIds (.deliveries inserted []) →
      s.db.messages.lookup id' = some row' → row.sender = row'.sender →
      row.idempotencyKey = row'.idempotencyKey → row.idempotencyKey ≠ none → id = id' := by
    rintro id id' row row' i mail recipientIds inserted rfl hcall hrow' hsender hkey hsome
    obtain ⟨-, -, -, hnone⟩ := (hinv.inserts i _ _ _ hcall).2
    obtain ⟨key, hmail⟩ := Option.ne_none_iff_exists'.mp hsome
    have hstored : StoredUnder s.db mail.sender key id' row' :=
      ⟨hrow', hsender.symm, hkey.symm.trans hmail⟩
    exact absurd hstored (idempotentRow_eq_none_iff.mp hnone key hmail id' row')
  intro id id' row row' hrow hrow' hsender hkey hsome
  rcases hinv.messages_cases h hrow with hold | ⟨i, mail, _, _, hmail, hid, hcall, hreports⟩
  · rcases hinv.messages_cases h hrow' with hold' | ⟨i', mail', _, _, hmail', -, hcall', -⟩
    · exact hinv.unique id id' row row' hold hold' hsender hkey hsome
    · exact (hfresh hmail' hcall' hold hsender.symm hkey.symm (by rwa [← hkey])).symm
  · rcases hinv.messages_cases h hrow' with
      hold' | ⟨i', mail', _, _, hmail', hid', hcall', hreports'⟩
    · exact hfresh hmail hcall hold' hsender hkey hsome
    · -- Both are the row of the one call that commits.
      have hi : i = a.call := by
        by_contra hne
        obtain ⟨_, _, hfinished, -⟩ := hreports
        rw [h.others hne, hcall] at hfinished
        cases hfinished
      have hi' : i' = a.call := by
        by_contra hne
        obtain ⟨_, _, hfinished, -⟩ := hreports'
        rw [h.others hne, hcall'] at hfinished
        cases hfinished
      rw [hi] at hcall
      rw [hi', hcall] at hcall'
      cases hcall'
      rw [hid, hid']

theorem InsertsInvariant.orphans_step (hinv : InsertsInvariant s₀ s) (h : MailMoves s a s') :
    NoOrphans s'.db := by
  have hgrows := hinv.grows h
  intro key delivery hdelivery
  -- a message of a delivery is not taken away
  have hold : ∀ {delivery : DeliveryRow}, s.db.deliveries.lookup key = some delivery →
      ∃ row, s'.db.messages.lookup key.1 = some row := by
    intro delivery hrow
    obtain ⟨row, hmessage⟩ := hinv.orphans key delivery hrow
    exact ⟨row, hgrows.messages _ _ hmessage⟩
  cases h.storeMove with
  | none hdb =>
      rw [hdb] at hdelivery
      exact hold hdelivery
  | @insert i mail recipientIds inserted hcall hcall' hdb =>
      rw [hdb, lookup_commitInsert] at hdelivery
      cases hrow : s.db.deliveries.lookup key with
      | some old => exact hold hrow
      | none =>
          rw [hrow, Option.none_or] at hdelivery
          split at hdelivery
          -- the delivery comes with its own message
          · next hkey =>
              obtain ⟨-, -, hnone, -⟩ := (hinv.inserts _ _ _ _ hcall).2
              rw [hdb, lookup_messages_commitInsert _ _ hnone, if_pos hkey.1]
              exact ⟨_, rfl⟩
          · cases hdelivery
  | read hcall hdb =>
      rw [hdb, lookup_commitRead] at hdelivery
      split at hdelivery
      · obtain ⟨old, hrow, -⟩ := Option.map_eq_some_iff.mp hdelivery
        exact hold hrow
      · exact hold hdelivery

/-- Step lemma. -/
theorem InsertsInvariant.step (hinv : InsertsInvariant s₀ s) (h : MailMoves s a s') :
    InsertsInvariant s₀ s' where
  unique := hinv.unique_step h
  orphans := hinv.orphans_step h
  reads i recipientId readAt phase hcall' := by
    by_cases hcaller : i = a.call
    · subst hcaller
      cases h with
      | insert hcall hmove =>
          rw [MailAction.call, MailState.goOn_calls_self] at hcall'
          cases hcall'
      | breakInsert hcall hphase =>
          rw [MailAction.call, MailState.goOn_calls_self] at hcall'
          cases hcall'
      | read hcall hmove => exact hinv.reads _ _ _ _ hcall
      | breakRead hcall hphase => exact hinv.reads _ _ _ _ hcall
    · rw [h.others hcaller] at hcall'
      exact hinv.reads _ _ _ _ hcall'
  inserts i mail recipientIds phase hcall' := by
    by_cases hcaller : i = a.call
    · subst hcaller
      cases h with
      | insert hcall hmove =>
          rw [MailAction.call, MailState.goOn_calls_self] at hcall'
          cases hcall'
          exact ⟨(hinv.inserts _ _ _ _ hcall).1, hinv.knows_of_insertMoves hcall hmove⟩
      | breakInsert hcall hphase =>
          rw [MailAction.call, MailState.goOn_calls_self] at hcall'
          cases hcall'
          exact ⟨(hinv.inserts _ _ _ _ hcall).1, trivial⟩
      | read hcall hmove =>
          rw [MailAction.call, MailState.goOn_calls_self] at hcall'
          cases hcall'
      | breakRead hcall hphase =>
          rw [MailAction.call, MailState.goOn_calls_self] at hcall'
          cases hcall'
    · rw [h.others hcaller] at hcall'
      obtain ⟨hstart, hknows⟩ := hinv.inserts i _ _ _ hcall'
      refine ⟨hstart, hknows.grows (hinv.grows h) ?_⟩
      rintro inserted rest rfl
      exact hinv.pending_kept h hcall' hcaller
  locks i j mail mail' hne hi hj := hinv.locks_step h hne hi hj
  kept id row hrow := (hinv.grows h).messages id row (hinv.kept id row hrow)
  origin id row hrow := by
    rcases hinv.messages_cases h hrow with hold | ⟨i, mail, _, _, -, hid, -, hreports⟩
    · rcases hinv.origin id row hold with hstart | ⟨i, mail, hreports, hid⟩
      · exact .inl hstart
      · exact .inr ⟨i, mail, h.reportsInserted hreports, hid⟩
    · exact .inr ⟨i, mail, hreports, hid.symm⟩
  once i j mail mail' hi hj hid := by
    -- Who reports an insert has stored the message; the other call finds it there.
    have hstored : ∀ {k : ι} {own : Mail}, s.ReportsInserted k own →
        s.db.messages.lookup own.id ≠ none := by
      rintro k own ⟨recipientIds, outcome, hcall, hinserted⟩
      rcases (hinv.inserts k _ _ _ hcall).2 with ⟨-, hnone⟩ | ⟨id, row, hreported⟩
      · rw [hnone] at hinserted
        cases hinserted
      · obtain ⟨hid, -, -⟩ := hreported.inserted hinserted
        rw [← hid, hreported.stored]
        exact Option.some_ne_none row
    rcases hinv.reportsInserted_cases h hi with hi | ⟨hcaller, hnone⟩
    · rcases hinv.reportsInserted_cases h hj with hj | ⟨-, hnone'⟩
      · exact hinv.once i j mail mail' hi hj hid
      · rw [← hid] at hnone'
        exact absurd hnone' (hstored hi)
    · rcases hinv.reportsInserted_cases h hj with hj | ⟨hcaller', -⟩
      · rw [hid] at hnone
        exact absurd hnone (hstored hj)
      · exact hcaller.trans hcaller'.symm

end Steps

end LittleOrgans.Store
