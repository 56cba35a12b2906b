import LittleOrgans.Library.StepSystem
import LittleOrgans.Store.Mail
import Mathlib.Data.Fintype.Basic

/-!
# Mail transactions, statement by statement

Any number of calls that insert mail or read it, interleaved at the granularity of
their statements. A statement sees what is committed (`READ COMMITTED`) and what
its own transaction wrote. What a transaction wrote and has not committed is read
off the phase of its call: a second writer of the same unique key, or of the same
delivery, waits until the first one ends. A call whose connection fails is
`broken` and its transaction rolled back.

`InsertMoves` and `ReadMoves` say once what a statement can do; the invariants of
the calls are derived from them.
-/

set_option autoImplicit false

namespace LittleOrgans.Store

open LittleOrgans.Core
open LittleOrgans.Library

/-! ## Calls -/

/-- Where an insert is between two statements. `retry` marks the second attempt;
`replay` has found an earlier write and loads its deliveries; `deliveries` has
inserted the message and some of its deliveries. -/
inductive InsertPhase where
  | start (retry : Bool)
  | recipients (id : MessageId) (existing : MessageRow)
  | replay (id : MessageId) (existing : MessageRow) (rest : List SessionId) (loaded : List Mail)
  | message (retry : Bool)
  | deliveries (inserted rest : List SessionId)
  | finished (result : Except MailError MailWriteOutcome)
  | broken

/-- Where a read is between two statements. `updates` has selected `drained`, of
which it has updated all but `rest` and marked `marked`. -/
inductive ReadPhase where
  | start
  | updates (drained : List Mail) (marked : List MessageId) (rest : List Mail)
  | finished (mail : List Mail)
  | broken

/-- A call of `insert_mail_for_recipients_with_outcome`, or a non-peek call of
`read_unread_mail`. -/
inductive MailCall where
  | insert (mail : Mail) (recipientIds : List SessionId) (phase : InsertPhase)
  | read (recipientId : SessionId) (readAt : DateTime) (phase : ReadPhase)

namespace MailCall

/-- The message the call has inserted and not committed. -/
def pendingMessage : MailCall → Option Mail
  | .insert mail _ (.deliveries _ _) => some mail
  | _ => none

/-- The deliveries the call has inserted and not committed. -/
def inserting : MailCall → List (MessageId × SessionId)
  | .insert mail _ (.deliveries inserted _) => inserted.map fun recipientId =>
      (mail.id, recipientId)
  | _ => []

/-- The deliveries the call has marked read and not committed. -/
def updating : MailCall → List (MessageId × SessionId)
  | .read recipientId _ (.updates _ marked _) => marked.map fun id => (id, recipientId)
  | _ => []

/-- The call has inserted a message with this id. -/
def holdsId (id : MessageId) (call : MailCall) : Bool :=
  call.pendingMessage.any fun other => other.id = id

/-- The call has inserted a message with the sender and idempotency key of `mail`. -/
def holdsKey (mail : Mail) (call : MailCall) : Bool :=
  call.pendingMessage.any fun other =>
    mail.idempotencyKey ≠ none ∧ other.sender = mail.sender ∧
      other.idempotencyKey = mail.idempotencyKey

/-- The call before its first statement. -/
def Fresh : MailCall → Prop
  | .insert _ _ phase => phase = .start false
  | .read _ _ phase => phase = .start

end MailCall

/-- A stored message carries the fields of a repeated write. -/
def matchesMessage (existing : MessageRow) (mail : Mail) : Prop :=
  existing.sender = mail.sender ∧ existing.content = mail.content ∧
    existing.contextId = mail.contextId ∧ existing.intent = mail.intent ∧
    existing.idempotencyKey = mail.idempotencyKey

instance (existing : MessageRow) (mail : Mail) : Decidable (matchesMessage existing mail) :=
  inferInstanceAs (Decidable (_ ∧ _ ∧ _ ∧ _ ∧ _))

/-- The error of a repeated write that differs from the first. -/
def keyConflict (mail : Mail) : MailError := .idempotencyConflict (mail.idempotencyKey.getD "")

namespace Database

/-- The row of the unique index on sender and idempotency key; the index leaves
messages without a key out. -/
def idempotentRow (db : Database) (mail : Mail) : Option (MessageId × MessageRow) :=
  mail.idempotencyKey.bind (db.messageByIdempotency mail.sender)

/-- `COMMIT` of an insert. -/
def commitInsert (db : Database) (mail : Mail) (inserted : List SessionId) : Database :=
  { db with
    messages := db.messages.insert mail.id (messageRow mail)
    deliveries := inserted.foldl (fun deliveries recipientId =>
      deliveries.insert (mail.id, recipientId) (deliveryRow mail)) db.deliveries }

/-- `COMMIT` of a read. -/
def commitRead (db : Database) (recipientId : SessionId) (readAt : DateTime)
    (marked : List MessageId) : Database :=
  marked.foldl (fun db id => db.updateRead readAt id recipientId) db

end Database

/-! ## Statements -/

/-- The next statement of an insert, or its commit; `waits` asks whether another
transaction holds a lock. -/
def insertStatement (db : Database) (waits : (MailCall → Bool) → Bool) (mail : Mail)
    (recipientIds : List SessionId) : InsertPhase → Option (InsertPhase × Database)
  | .start retry =>
      if recipientIds = [] then some (.finished (.ok { mail := [], inserted := false }), db)
      else
        match db.idempotentRow mail with
        | none => some (.message retry, db)
        | some (id, existing) =>
            if matchesMessage existing mail then some (.recipients id existing, db)
            else some (.finished (.error (keyConflict mail)), db)
  | .recipients id existing =>
      if db.recipientSetForMessage id = recipientSet recipientIds then
        some (.replay id existing recipientIds [], db)
      else some (.finished (.error (keyConflict mail)), db)
  | .replay id existing (recipientId :: rest) loaded =>
      match db.deliveries.lookup (id, recipientId) with
      | some delivery =>
          some (.replay id existing rest
            (loaded ++ [mailFromRow id recipientId existing delivery]), db)
      | none => some (.finished (.error (.database "no rows returned")), db)
  | .replay _ _ [] loaded => some (.finished (.ok { mail := loaded, inserted := false }), db)
  | .message retry =>
      if waits (MailCall.holdsId mail.id) then none
      else if db.messages.contains mail.id then
        some (.finished (.error (.database "duplicate key: messages_pkey")), db)
      else if waits (MailCall.holdsKey mail) then none
      else if (db.idempotentRow mail).isSome then
        -- `is_idempotency_conflict`: the attempt rolls back and is made once more.
        if retry then
          some (.finished (.error (.database "duplicate key: idx_messages_sender_idempotency")),
            db)
        else some (.start true, db)
      else some (.deliveries [] recipientIds, db)
  | .deliveries inserted (recipientId :: rest) =>
      if waits fun call => (mail.id, recipientId) ∈ call.inserting then none
      else if recipientId ∈ inserted ∨ db.deliveries.contains (mail.id, recipientId) then
        some (.finished (.error (.database "duplicate key: message_deliveries_pkey")), db)
      else some (.deliveries (inserted ++ [recipientId]) rest, db)
  | .deliveries inserted [] =>
      some (.finished (.ok { mail := mailForRecipients mail recipientIds, inserted := true }),
        db.commitInsert mail inserted)
  | .finished _ => none
  | .broken => none

/-- The next statement of a read, or its commit. An update that finds its delivery
no longer unread affects no row, and the read goes on. -/
def readStatement (db : Database) (waits : (MailCall → Bool) → Bool) (recipientId : SessionId)
    (readAt : DateTime) : ReadPhase → Option (ReadPhase × Database)
  | .start =>
      let mail := db.fetchUnread recipientId
      some (.updates mail [] mail, db)
  | .updates drained marked (item :: rest) =>
      if waits fun call => (item.id, recipientId) ∈ call.updating then none
      else if (db.deliveries.lookup (item.id, recipientId)).any fun delivery =>
          delivery.status = .unread then
        some (.updates drained (marked ++ [item.id]) rest, db)
      else some (.updates drained marked rest, db)
  | .updates drained marked [] =>
      some (.finished (drained.map fun item => { item with readAt := some readAt }),
        db.commitRead recipientId readAt marked)
  | .finished _ => none
  | .broken => none

/-! ## Interleavings -/

/-- The committed store and the calls on it. -/
structure MailState (ι : Type) where
  db : Database
  calls : ι → MailCall

/-- A call goes on, or its connection is lost. -/
inductive MailAction (ι : Type) where
  | statement (i : ι)
  | disconnect (i : ι)

/-- The call an action moves. -/
def MailAction.call {ι : Type} : MailAction ι → ι
  | .statement i => i
  | .disconnect i => i

namespace MailState

variable {ι : Type} [Fintype ι] [DecidableEq ι]

/-- A call other than `i` holds a lock. -/
def waits (s : MailState ι) (i : ι) (holds : MailCall → Bool) : Bool :=
  decide (∃ j, j ≠ i ∧ holds (s.calls j) = true)

/-- Call `i` goes on. -/
def goOn (s : MailState ι) (i : ι) (call : MailCall) (db : Database) : MailState ι where
  db := db
  calls := Function.update s.calls i call

/-- The next statement of a call. -/
def statement (s : MailState ι) (i : ι) : Option (MailState ι) :=
  match s.calls i with
  | .insert mail recipientIds phase =>
      (insertStatement s.db (s.waits i) mail recipientIds phase).map fun next =>
        s.goOn i (.insert mail recipientIds next.1) next.2
  | .read recipientId readAt phase =>
      (readStatement s.db (s.waits i) recipientId readAt phase).map fun next =>
        s.goOn i (.read recipientId readAt next.1) next.2

/-- The connection of a call is lost, and its transaction rolled back. -/
def disconnect (s : MailState ι) (i : ι) : Option (MailState ι) :=
  match s.calls i with
  | .insert _ _ (.finished _) => none
  | .read _ _ (.finished _) => none
  | .insert mail recipientIds _ => some (s.goOn i (.insert mail recipientIds .broken) s.db)
  | .read recipientId readAt _ => some (s.goOn i (.read recipientId readAt .broken) s.db)

end MailState

/-- The calls on mail, interleaved. -/
def mailSystem (ι : Type) [Fintype ι] [DecidableEq ι] :
    StepSystem (MailState ι) (MailAction ι) where
  step s
    | .statement i => s.statement i
    | .disconnect i => s.disconnect i

/-! ## What a statement can do -/

/-- The statements of an insert, with what they find. -/
inductive InsertMoves (db : Database) (waits : (MailCall → Bool) → Bool) (mail : Mail)
    (recipientIds : List SessionId) : InsertPhase → InsertPhase → Database → Prop where
  | noRecipients {retry : Bool} (h : recipientIds = []) :
      InsertMoves db waits mail recipientIds (.start retry)
        (.finished (.ok { mail := [], inserted := false })) db
  | absent {retry : Bool} (h : recipientIds ≠ []) (hrow : db.idempotentRow mail = none) :
      InsertMoves db waits mail recipientIds (.start retry) (.message retry) db
  | found {retry : Bool} {id : MessageId} {existing : MessageRow} (h : recipientIds ≠ [])
      (hrow : db.idempotentRow mail = some (id, existing)) (hmatch : matchesMessage existing mail) :
      InsertMoves db waits mail recipientIds (.start retry) (.recipients id existing) db
  | otherMessage {retry : Bool} {id : MessageId} {existing : MessageRow} (h : recipientIds ≠ [])
      (hrow : db.idempotentRow mail = some (id, existing))
      (hmatch : ¬matchesMessage existing mail) :
      InsertMoves db waits mail recipientIds (.start retry)
        (.finished (.error (keyConflict mail))) db
  | sameRecipients {id : MessageId} {existing : MessageRow}
      (hset : db.recipientSetForMessage id = recipientSet recipientIds) :
      InsertMoves db waits mail recipientIds (.recipients id existing)
        (.replay id existing recipientIds []) db
  | otherRecipients {id : MessageId} {existing : MessageRow}
      (hset : db.recipientSetForMessage id ≠ recipientSet recipientIds) :
      InsertMoves db waits mail recipientIds (.recipients id existing)
        (.finished (.error (keyConflict mail))) db
  | load {id : MessageId} {existing : MessageRow} {recipientId : SessionId}
      {rest : List SessionId} {loaded : List Mail} {delivery : DeliveryRow}
      (hrow : db.deliveries.lookup (id, recipientId) = some delivery) :
      InsertMoves db waits mail recipientIds (.replay id existing (recipientId :: rest) loaded)
        (.replay id existing rest (loaded ++ [mailFromRow id recipientId existing delivery])) db
  | noDelivery {id : MessageId} {existing : MessageRow} {recipientId : SessionId}
      {rest : List SessionId} {loaded : List Mail}
      (hrow : db.deliveries.lookup (id, recipientId) = none) :
      InsertMoves db waits mail recipientIds (.replay id existing (recipientId :: rest) loaded)
        (.finished (.error (.database "no rows returned"))) db
  | replayed {id : MessageId} {existing : MessageRow} {loaded : List Mail} :
      InsertMoves db waits mail recipientIds (.replay id existing [] loaded)
        (.finished (.ok { mail := loaded, inserted := false })) db
  | idTaken {retry : Bool} (hid : db.messages.contains mail.id = true) :
      InsertMoves db waits mail recipientIds (.message retry)
        (.finished (.error (.database "duplicate key: messages_pkey"))) db
  | lostRace {row : MessageId × MessageRow} (hrow : db.idempotentRow mail = some row) :
      InsertMoves db waits mail recipientIds (.message false) (.start true) db
  | lostRaceAgain {row : MessageId × MessageRow} (hrow : db.idempotentRow mail = some row) :
      InsertMoves db waits mail recipientIds (.message true)
        (.finished (.error (.database "duplicate key: idx_messages_sender_idempotency"))) db
  | insertMessage {retry : Bool} (hwaitId : waits (MailCall.holdsId mail.id) = false)
      (hid : db.messages.lookup mail.id = none)
      (hwaitKey : waits (MailCall.holdsKey mail) = false) (hrow : db.idempotentRow mail = none) :
      InsertMoves db waits mail recipientIds (.message retry) (.deliveries [] recipientIds) db
  | deliveryTaken {inserted : List SessionId} {recipientId : SessionId} {rest : List SessionId}
      (hkey : recipientId ∈ inserted ∨ db.deliveries.contains (mail.id, recipientId) = true) :
      InsertMoves db waits mail recipientIds (.deliveries inserted (recipientId :: rest))
        (.finished (.error (.database "duplicate key: message_deliveries_pkey"))) db
  | insertDelivery {inserted : List SessionId} {recipientId : SessionId} {rest : List SessionId}
      (hnew : recipientId ∉ inserted) (hkey : db.deliveries.lookup (mail.id, recipientId) = none) :
      InsertMoves db waits mail recipientIds (.deliveries inserted (recipientId :: rest))
        (.deliveries (inserted ++ [recipientId]) rest) db
  | commit {inserted : List SessionId} :
      InsertMoves db waits mail recipientIds (.deliveries inserted [])
        (.finished (.ok { mail := mailForRecipients mail recipientIds, inserted := true }))
        (db.commitInsert mail inserted)

/-- The statements of a read, with what they find. -/
inductive ReadMoves (db : Database) (waits : (MailCall → Bool) → Bool) (recipientId : SessionId)
    (readAt : DateTime) : ReadPhase → ReadPhase → Database → Prop where
  | select :
      ReadMoves db waits recipientId readAt .start
        (.updates (db.fetchUnread recipientId) [] (db.fetchUnread recipientId)) db
  | mark {drained rest : List Mail} {marked : List MessageId} {item : Mail}
      {delivery : DeliveryRow}
      (hwait : waits (fun call => (item.id, recipientId) ∈ call.updating) = false)
      (hrow : db.deliveries.lookup (item.id, recipientId) = some delivery)
      (hunread : delivery.status = .unread) :
      ReadMoves db waits recipientId readAt (.updates drained marked (item :: rest))
        (.updates drained (marked ++ [item.id]) rest) db
  | miss {drained rest : List Mail} {marked : List MessageId} {item : Mail}
      (hread : ∀ delivery, db.deliveries.lookup (item.id, recipientId) = some delivery →
        delivery.status ≠ .unread) :
      ReadMoves db waits recipientId readAt (.updates drained marked (item :: rest))
        (.updates drained marked rest) db
  | commit {drained : List Mail} {marked : List MessageId} :
      ReadMoves db waits recipientId readAt (.updates drained marked [])
        (.finished (drained.map fun item => { item with readAt := some readAt }))
        (db.commitRead recipientId readAt marked)

section Moves

variable {db db' : Database} {waits : (MailCall → Bool) → Bool}

theorem insertMoves_of_statement {mail : Mail} {recipientIds : List SessionId}
    {phase phase' : InsertPhase}
    (h : insertStatement db waits mail recipientIds phase = some (phase', db')) :
    InsertMoves db waits mail recipientIds phase phase' db' := by
  -- One case a phase, and in it one a branch of the statement.
  cases phase with
  | start retry =>
      rw [insertStatement] at h
      split at h
      · next hnil =>
          cases h
          exact .noRecipients hnil
      · next hne =>
          split at h
          · next hrow =>
              cases h
              exact .absent hne hrow
          · next id existing hrow =>
              split at h
              · next hmatch =>
                  cases h
                  exact .found hne hrow hmatch
              · next hmatch =>
                  cases h
                  exact .otherMessage hne hrow hmatch
  | recipients id existing =>
      rw [insertStatement] at h
      split at h
      · next hset =>
          cases h
          exact .sameRecipients hset
      · next hset =>
          cases h
          exact .otherRecipients hset
  | replay id existing rest loaded =>
      cases rest with
      | nil =>
          cases h
          exact .replayed
      | cons recipientId rest =>
          rw [insertStatement] at h
          split at h
          · next delivery hrow =>
              cases h
              exact .load hrow
          · next hrow =>
              cases h
              exact .noDelivery hrow
  | message retry =>
      rw [insertStatement] at h
      split at h
      · cases h
      -- The uniqueness checks answer once no other call holds the id or the key.
      · next hwaitId =>
          split at h
          · next hid =>
              cases h
              exact .idTaken hid
          · next hid =>
              split at h
              · cases h
              · next hwaitKey =>
                  split at h
                  · next hrow =>
                      obtain ⟨row, hrow⟩ := Option.isSome_iff_exists.mp hrow
                      cases retry with
                      | false =>
                          cases h
                          exact .lostRace hrow
                      | true =>
                          cases h
                          exact .lostRaceAgain hrow
                  · next hrow =>
                      cases h
                      apply InsertMoves.insertMessage
                      · exact Bool.eq_false_iff.mpr hwaitId
                      · simpa [Table.contains] using hid
                      · exact Bool.eq_false_iff.mpr hwaitKey
                      · simpa using hrow
  | deliveries inserted rest =>
      cases rest with
      | nil =>
          cases h
          exact .commit
      | cons recipientId rest =>
          rw [insertStatement] at h
          split at h
          · cases h
          · split at h
            · next hkey =>
                cases h
                exact .deliveryTaken hkey
            · next hkey =>
                cases h
                rw [not_or] at hkey
                refine .insertDelivery hkey.1 ?_
                simpa [Table.contains] using hkey.2
  | finished result => cases h
  | broken => cases h

theorem readMoves_of_statement {recipientId : SessionId} {readAt : DateTime}
    {phase phase' : ReadPhase}
    (h : readStatement db waits recipientId readAt phase = some (phase', db')) :
    ReadMoves db waits recipientId readAt phase phase' db' := by
  cases phase with
  | start =>
      cases h
      exact .select
  | updates drained marked rest =>
      cases rest with
      | nil =>
          cases h
          exact .commit
      | cons item rest =>
          rw [readStatement] at h
          -- another call holds the row's lock
          split at h
          · cases h
          · next hwait =>
              -- the guard of the update: only an unread row is marked
              split at h
              · next hunread =>
                  cases h
                  obtain ⟨delivery, hrow, hstatus⟩ := (Option.any_eq_true _ _).mp hunread
                  exact .mark (Bool.eq_false_iff.mpr hwait) hrow (of_decide_eq_true hstatus)
              · next hread =>
                  cases h
                  refine .miss fun delivery hrow hunread => hread ?_
                  rw [hrow]
                  exact decide_eq_true hunread
  | finished mail => cases h
  | broken => cases h

variable {ι : Type} [Fintype ι] [DecidableEq ι] {s s' : MailState ι}

theorem waits_eq_false {i : ι} {holds : MailCall → Bool} (h : s.waits i holds = false) (j : ι)
    (hne : j ≠ i) : holds (s.calls j) = false := by
  refine Bool.eq_false_iff.mpr fun hholds => ?_
  exact of_decide_eq_false h ⟨j, hne, hholds⟩

/-- What a step of the calls can do: a statement of an insert, a statement of a
read, or the loss of a connection. -/
inductive MailMoves (s : MailState ι) : MailAction ι → MailState ι → Prop where
  | insert {i : ι} {mail : Mail} {recipientIds : List SessionId} {phase phase' : InsertPhase}
      {db' : Database} (hcall : s.calls i = .insert mail recipientIds phase)
      (hmove : InsertMoves s.db (s.waits i) mail recipientIds phase phase' db') :
      MailMoves s (.statement i) (s.goOn i (.insert mail recipientIds phase') db')
  | read {i : ι} {recipientId : SessionId} {readAt : DateTime} {phase phase' : ReadPhase}
      {db' : Database} (hcall : s.calls i = .read recipientId readAt phase)
      (hmove : ReadMoves s.db (s.waits i) recipientId readAt phase phase' db') :
      MailMoves s (.statement i) (s.goOn i (.read recipientId readAt phase') db')
  | breakInsert {i : ι} {mail : Mail} {recipientIds : List SessionId} {phase : InsertPhase}
      (hcall : s.calls i = .insert mail recipientIds phase)
      (hphase : ∀ result, phase ≠ .finished result) :
      MailMoves s (.disconnect i) (s.goOn i (.insert mail recipientIds .broken) s.db)
  | breakRead {i : ι} {recipientId : SessionId} {readAt : DateTime} {phase : ReadPhase}
      (hcall : s.calls i = .read recipientId readAt phase)
      (hphase : ∀ mail, phase ≠ .finished mail) :
      MailMoves s (.disconnect i) (s.goOn i (.read recipientId readAt .broken) s.db)

theorem mailMoves_of_step {a : MailAction ι} (h : (mailSystem ι).step s a = some s') :
    MailMoves s a s' := by
  cases a with
  | statement i =>
      have hstep : s.statement i = some s' := h
      rw [MailState.statement] at hstep
      split at hstep
      · next mail recipientIds phase hcall =>
          obtain ⟨⟨phase', db'⟩, hnext, rfl⟩ := Option.map_eq_some_iff.mp hstep
          exact .insert hcall (insertMoves_of_statement hnext)
      · next recipientId readAt phase hcall =>
          obtain ⟨⟨phase', db'⟩, hnext, rfl⟩ := Option.map_eq_some_iff.mp hstep
          exact .read hcall (readMoves_of_statement hnext)
  | disconnect i =>
      have hstep : s.disconnect i = some s' := h
      rw [MailState.disconnect] at hstep
      split at hstep
      · cases hstep
      · cases hstep
      · next mail recipientIds phase hphase hcall =>
          cases hstep
          exact .breakInsert hcall hphase
      · next recipientId readAt phase hphase hcall =>
          cases hstep
          exact .breakRead hcall hphase

omit [Fintype ι] in
@[simp]
theorem MailState.goOn_db (i : ι) (call : MailCall) (db : Database) :
    (s.goOn i call db).db = db := rfl

omit [Fintype ι] in
@[simp]
theorem MailState.goOn_calls_self (i : ι) (call : MailCall) (db : Database) :
    (s.goOn i call db).calls i = call := Function.update_self ..

omit [Fintype ι] in
theorem MailState.goOn_calls_of_ne {i j : ι} (hne : j ≠ i) (call : MailCall) (db : Database) :
    (s.goOn i call db).calls j = s.calls j := Function.update_of_ne hne ..

/-- An action moves its own call only. -/
theorem MailMoves.others {a : MailAction ι} (h : MailMoves s a s') {j : ι} (hne : j ≠ a.call) :
    s'.calls j = s.calls j := by
  cases h with
  | insert hcall hmove => exact MailState.goOn_calls_of_ne hne _ _
  | read hcall hmove => exact MailState.goOn_calls_of_ne hne _ _
  | breakInsert hcall hphase => exact MailState.goOn_calls_of_ne hne _ _
  | breakRead hcall hphase => exact MailState.goOn_calls_of_ne hne _ _

end Moves

end LittleOrgans.Store
