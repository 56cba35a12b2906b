import LittleOrgans.Session.MailRendering

/-!
# Mail reads that fail

A read commits first: the unread mail of the caller is marked read in one transaction.
After that one receipt is inserted for each drained mail of a session, each in a
transaction of its own, and the views are built with further lookups. An error after the
commit is returned for mail that is not unread any more.

`emitReceipts_isOk` says when all receipts are inserted, and `mail_read_error_iff` when a
failed read changes no delivery: when it fails before its commit, when the mailbox is
empty, or when nothing after the commit can fail.
-/

set_option autoImplicit false

namespace LittleOrgans.Session

open LittleOrgans.Core
open LittleOrgans.Library
open LittleOrgans.Store

/-- Every delivery has the status it had. -/
def SameStatuses (db db' : Database) : Prop :=
  ∀ status key, HasStatus db' status key ↔ HasStatus db status key

/-- The mail of sessions, each with the session its receipt goes to. -/
def answered (items : List Mail) : List (Mail × SessionId) :=
  items.filterMap fun item => (receiptTo item).map fun sender => (item, sender)

/-- Every receipt of these can be inserted, `n` having been inserted before: no store call
fails, and the fresh ids are free and differ from each other. -/
structure ReceiptsGo (env : ReadEnv) (db : Database) (n : Nat) (answers : List (Mail × SessionId)) :
    Prop where
  faults : ∀ i < answers.length, env.faults.receipt (n + i) = false
  messages : ∀ answer ∈ answers, db.messages.lookup (env.fresh answer.1).1 = none
  deliveries : ∀ answer ∈ answers,
    db.deliveries.lookup ((env.fresh answer.1).1, answer.2) = none
  distinct : (answers.map fun answer => (env.fresh answer.1).1).Nodup

/-- The read stops before its commit, finds no mail, or meets no failure after it. -/
def ReadLosesNothing (db : Database) (context : RequestContext) (env : ReadEnv) : Prop :=
  env.faults.resolve = true ∨
    ∀ recipient, callerMailbox db context = .ok recipient →
      env.authorized recipient.id = false ∨ env.faults.read = true ∨
        db.fetchUnread recipient.id = [] ∨
          ReceiptsGo env db 0 (answered (db.readUnreadMail recipient.id env.now false).1) ∧
            env.faults.views = false ∧ ∀ item ∈ db.fetchUnread recipient.id, Shows db item

section Receipts

variable {db : Database} {env : ReadEnv}

/-- An insert without an idempotency key finds no earlier write. -/
theorem insertMail_eq (db : Database) {mail : Mail} (hkey : mail.idempotencyKey = none) :
    db.insertMail mail =
      (db.insertMessage mail).bind fun db =>
        (db.insertDelivery mail mail.recipientId).map fun db =>
          ({ mail := mailForRecipients mail [mail.recipientId], inserted := true }, db) := by
  have hreplay : db.loadIdempotentReplay mail [mail.recipientId] = .ok none := by
    rw [Database.loadIdempotentReplay, hkey]
  rw [Database.insertMail, Database.insertMailForRecipients, if_neg (List.cons_ne_nil _ _),
    Database.tryInsertMailForRecipients, hreplay]
  show (db.insertMessage mail).bind _ = _
  cases db.insertMessage mail with
  | error error => rfl
  | ok db' =>
      show ((db'.insertDelivery mail mail.recipientId).bind _).bind _ =
        (db'.insertDelivery mail mail.recipientId).map _
      cases db'.insertDelivery mail mail.recipientId <;> rfl

/-- An insert without an idempotency key succeeds when its ids are free. -/
theorem insertMail_cases (db : Database) {mail : Mail} (hkey : mail.idempotencyKey = none) :
    (∃ outcome, db.messages.lookup mail.id = none ∧
        db.deliveries.lookup (mail.id, mail.recipientId) = none ∧
          db.insertMail mail = .ok (outcome, db.commitInsert mail [mail.recipientId])) ∨
      (db.messages.lookup mail.id = none →
          db.deliveries.lookup (mail.id, mail.recipientId) ≠ none) ∧
        ∃ error, db.insertMail mail = .error error := by
  rw [insertMail_eq db hkey, Database.insertMessage]
  cases hmessage : db.messages.lookup mail.id with
  | some row =>
      have htaken : db.messages.contains mail.id = true := Table.contains_iff.mpr ⟨row, hmessage⟩
      rw [if_pos htaken]
      exact .inr ⟨fun h => absurd h (Option.some_ne_none row), _, rfl⟩
  | none =>
      have hfree : ¬db.messages.contains mail.id = true := by simp [Table.contains, hmessage]
      rw [if_neg hfree, Except.bind, Database.insertDelivery]
      cases hdelivery : db.deliveries.lookup (mail.id, mail.recipientId) with
      | some delivery =>
          have htaken : db.deliveries.contains (mail.id, mail.recipientId) = true :=
            Table.contains_iff.mpr ⟨delivery, hdelivery⟩
          rw [if_pos htaken]
          exact .inr ⟨fun _ => Option.some_ne_none delivery, _, rfl⟩
      | none =>
          have hfree' : ¬db.deliveries.contains (mail.id, mail.recipientId) = true := by
            simp [Table.contains, hdelivery]
          rw [if_neg hfree']
          exact .inl ⟨_, rfl, rfl, rfl⟩

theorem answered_cons_none {item : Mail} (h : receiptTo item = none) (rest : List Mail) :
    answered (item :: rest) = answered rest := by
  rw [answered, List.filterMap_cons, h]
  rfl

theorem answered_cons_some {item : Mail} {sender : SessionId} (h : receiptTo item = some sender)
    (rest : List Mail) : answered (item :: rest) = (item, sender) :: answered rest := by
  rw [answered, List.filterMap_cons, h]
  rfl

/-- The first receipt, and the others in the store it leaves. -/
theorem receiptsGo_cons {n : Nat} {answer : Mail × SessionId} {rest : List (Mail × SessionId)}
    {receipt : Mail} (hid : receipt.id = (env.fresh answer.1).1)
    (hrecipient : receipt.recipientId = answer.2)
    (hmessage : db.messages.lookup receipt.id = none)
    (hdelivery : db.deliveries.lookup (receipt.id, receipt.recipientId) = none)
    (hfault : env.faults.receipt n = false) :
    ReceiptsGo env db n (answer :: rest) ↔
      ReceiptsGo env (db.commitInsert receipt [receipt.recipientId]) (n + 1) rest := by
  -- The first receipt adds its own rows and keeps the others.
  have hmessages : ∀ id, (db.commitInsert receipt [receipt.recipientId]).messages.lookup id = none ↔
      id ≠ receipt.id ∧ db.messages.lookup id = none := by
    intro id
    rw [lookup_messages_commitInsert db _ hmessage]
    by_cases hsame : id = receipt.id <;> simp [hsame]
  have hdeliveries : ∀ key : MessageId × SessionId, key.1 ≠ receipt.id →
      ((db.commitInsert receipt [receipt.recipientId]).deliveries.lookup key = none ↔
        db.deliveries.lookup key = none) := by
    intro key hne
    rw [lookup_commitInsert, if_neg fun h => hne h.1, Option.or_none]
  constructor
  · intro h
    have hdistinct := h.distinct
    rw [List.map_cons, List.nodup_cons] at hdistinct
    have hne : ∀ answer' ∈ rest, (env.fresh answer'.1).1 ≠ receipt.id := by
      intro answer' hmem hsame
      rw [hid] at hsame
      exact hdistinct.1 (List.mem_map.mpr ⟨answer', hmem, hsame⟩)
    refine ⟨fun i hi => ?_, fun answer' hmem => ?_, fun answer' hmem => ?_, hdistinct.2⟩
    · have hnext := h.faults (i + 1) (by rw [List.length_cons]; omega)
      rwa [Nat.add_comm i 1, ← Nat.add_assoc] at hnext
    · exact (hmessages _).mpr ⟨hne answer' hmem, h.messages answer' (List.mem_cons_of_mem _ hmem)⟩
    · exact (hdeliveries _ (hne answer' hmem)).mpr
        (h.deliveries answer' (List.mem_cons_of_mem _ hmem))
  · intro h
    have hne : ∀ answer' ∈ rest, (env.fresh answer'.1).1 ≠ receipt.id :=
      fun answer' hmem => ((hmessages _).mp (h.messages answer' hmem)).1
    refine ⟨fun i hi => ?_, fun answer' hmem => ?_, fun answer' hmem => ?_, ?_⟩
    · cases i with
      | zero => exact hfault
      | succ i =>
          have hnext := h.faults i (by rw [List.length_cons] at hi; omega)
          rwa [Nat.add_assoc, Nat.add_comm 1 i] at hnext
    · rcases List.mem_cons.mp hmem with rfl | hmem
      · rwa [← hid]
      · exact ((hmessages _).mp (h.messages answer' hmem)).2
    · rcases List.mem_cons.mp hmem with rfl | hmem
      · rwa [← hid, ← hrecipient]
      · exact (hdeliveries _ (hne answer' hmem)).mp (h.deliveries answer' hmem)
    · rw [List.map_cons, List.nodup_cons]
      refine ⟨fun hmem => ?_, h.distinct⟩
      obtain ⟨answer', hanswer, hsame⟩ := List.mem_map.mp hmem
      rw [← hid] at hsame
      exact hne answer' hanswer hsame

/-- The receipts of drained mail are all inserted when they can be, and only then. -/
theorem emitReceipts_isOk (env : ReadEnv) (db : Database) (items : List Mail)
    (hread : ∀ item ∈ items, item.readAt ≠ none) (n : Nat) :
    (emitReceipts env db n items).1 = .ok () ↔ ReceiptsGo env db n (answered items) := by
  induction items generalizing db n with
  | nil =>
      refine iff_of_true rfl ⟨fun i hi => ?_, fun _ hmem => ?_, fun _ hmem => ?_, List.nodup_nil⟩
      · exact absurd hi (Nat.not_lt_zero i)
      · exact absurd hmem List.not_mem_nil
      · exact absurd hmem List.not_mem_nil
  | cons item rest ih =>
      have hrest := fun item hitem => hread item (List.mem_cons_of_mem _ hitem)
      rw [emitReceipts]
      cases hto : receiptTo item with
      | none =>
          rw [answered_cons_none hto]
          exact ih db hrest n
      | some sender =>
          rw [answered_cons_some hto]
          dsimp only
          rw [if_neg (hread item List.mem_cons_self)]
          by_cases hfault : env.faults.receipt n = true
          · rw [if_pos hfault]
            refine iff_of_false (fun h => by cases h) fun h => ?_
            have hfirst := h.faults 0 (by rw [List.length_cons]; omega)
            rw [Nat.add_zero, hfault] at hfirst
            cases hfirst
          · rw [if_neg hfault]
            have hkey : (readReceipt (env.fresh item).1 sender item (env.fresh item).2
                env.now).idempotencyKey = none := rfl
            rcases insertMail_cases db hkey with
              ⟨outcome, hmessage, hdelivery, hinsert⟩ | ⟨htaken, error, hinsert⟩
            · rw [hinsert]
              dsimp only
              rw [ih _ hrest (n + 1)]
              exact (receiptsGo_cons rfl rfl hmessage hdelivery (Bool.eq_false_iff.mpr hfault)).symm
            · rw [hinsert]
              refine iff_of_false (fun h => by cases h) fun h => ?_
              exact htaken (h.messages _ List.mem_cons_self) (h.deliveries _ List.mem_cons_self)

/-- Receipts leave the deliveries that are there alone. -/
theorem lookup_deliveries_emitReceipts (items : List Mail) (n : Nat) {key : MessageId × SessionId}
    {delivery : DeliveryRow} (h : db.deliveries.lookup key = some delivery) :
    (emitReceipts env db n items).2.deliveries.lookup key = some delivery := by
  induction items generalizing db n with
  | nil => exact h
  | cons item rest ih =>
      rw [emitReceipts]
      split
      · exact ih n h
      · split
        · exact h
        split
        · exact h
        split
        · next outcome db' hinsert =>
            apply ih (n + 1)
            rcases insertMailForRecipients_cases hinsert with ⟨rfl, -⟩ | hcommits
            · exact h
            · rw [hcommits.store]
              exact lookup_commitInsert_of_some h
        · exact h

end Receipts

/-! ## When a failed read changes nothing -/

section Failures

variable {db : Database} {env : ReadEnv}

/-- The read itself frees no id and takes none. -/
theorem receiptsGo_readUnreadMail {n : Nat} {answers : List (Mail × SessionId)}
    (recipientId : SessionId) :
    ReceiptsGo env (db.readUnreadMail recipientId env.now false).2 n answers ↔
      ReceiptsGo env db n answers := by
  rw [readUnreadMail_eq]
  have hmessages := messages_commitRead db recipientId env.now
    ((db.fetchUnread recipientId).map Mail.id)
  have hdeliveries : ∀ key : MessageId × SessionId,
      (db.commitRead recipientId env.now
          ((db.fetchUnread recipientId).map Mail.id)).deliveries.lookup key = none ↔
        db.deliveries.lookup key = none := by
    intro key
    rw [lookup_commitRead]
    split <;> simp
  constructor
  · intro h
    refine ⟨h.faults, fun answer hmem => ?_, fun answer hmem => ?_, h.distinct⟩
    · rw [← hmessages]
      exact h.messages answer hmem
    · exact (hdeliveries _).mp (h.deliveries answer hmem)
  · intro h
    refine ⟨h.faults, fun answer hmem => ?_, fun answer hmem => ?_, h.distinct⟩
    · dsimp only
      rw [hmessages]
      exact h.messages answer hmem
    · exact (hdeliveries _).mpr (h.deliveries answer hmem)

/-- A committed read of a mailbox with mail changes a status, and nothing after it changes
it back. -/
theorem not_sameStatuses_drained {recipientId : SessionId} {item : Mail}
    (hitem : item ∈ db.fetchUnread recipientId) (items : List Mail) :
    ¬SameStatuses db
      (emitReceipts env (db.readUnreadMail recipientId env.now false).2 0 items).2 := by
  intro hsame
  have hunread := mem_fetchUnread hitem
  obtain ⟨delivery, hdelivery, hstatus⟩ := hunread
  have hread : (db.readUnreadMail recipientId env.now false).2.deliveries.lookup
      (item.id, recipientId) = some (delivery.markRead env.now) := by
    rw [readUnreadMail_eq]
    dsimp only
    rw [lookup_commitRead, if_pos ⟨rfl, List.mem_map_of_mem hitem⟩, hdelivery, Option.map_some]
  obtain ⟨left, hleft, hstill⟩ :=
    (hsame .unread (item.id, recipientId)).mpr ⟨delivery, hdelivery, hstatus⟩
  rw [lookup_deliveries_emitReceipts items 0 hread] at hleft
  cases hleft
  exact delivery.markRead_status_ne_unread env.now hstill

theorem readUnreadMail_of_nil {recipientId : SessionId} (h : db.fetchUnread recipientId = []) :
    db.readUnreadMail recipientId env.now false = ([], db) := by
  rw [readUnreadMail_eq, h]
  rfl

/-- The views of drained mail, in the store the receipts leave. -/
theorem messageViews_drained_isOk (db : Database) (env : ReadEnv) (recipientId : SessionId)
    (n : Nat) :
    (∃ views, messageViews
        (emitReceipts env (db.readUnreadMail recipientId env.now false).2 n
          (db.readUnreadMail recipientId env.now false).1).2
        (db.readUnreadMail recipientId env.now false).1 = .ok views) ↔
      ∀ item ∈ db.fetchUnread recipientId, Shows db item := by
  have hsessions := (sessions_emitReceipts env (db.readUnreadMail recipientId env.now false).1
    (db.readUnreadMail recipientId env.now false).2 n).trans
    (sessions_readUnreadMail db recipientId env.now)
  rw [messageViews_isOk]
  have hitems : (db.readUnreadMail recipientId env.now false).1 =
      (db.fetchUnread recipientId).map fun item => { item with readAt := some env.now } := by
    rw [readUnreadMail_eq]
  rw [hitems, List.forall_mem_map]
  refine forall₂_congr fun item _ => ?_
  constructor
  · exact fun h => Shows.of_sessions_eq h hsessions.symm
  · exact fun h => Shows.of_sessions_eq h hsessions

/-- A read that gets as far as its commit succeeds when every receipt is inserted and all
drained mail can be shown. -/
theorem mailReadOne_isOk {recipient : Session} (hauthorized : env.authorized recipient.id = true)
    (hread : env.faults.read = false) :
    (∃ views, (mailReadOne db recipient env).1 = .ok views) ↔
      ReceiptsGo env db 0 (answered (db.readUnreadMail recipient.id env.now false).1) ∧
        env.faults.views = false ∧ ∀ item ∈ db.fetchUnread recipient.id, Shows db item := by
  -- All drained mail has a read time, so each item may be answered.
  have hdrained : ∀ item ∈ (db.readUnreadMail recipient.id env.now false).1,
      item.readAt ≠ none := by
    intro item hitem
    rw [readUnreadMail_eq] at hitem
    obtain ⟨stored, -, rfl⟩ := List.mem_map.mp hitem
    exact Option.some_ne_none _
  have hreceipts := emitReceipts_isOk env (db.readUnreadMail recipient.id env.now false).2 _
    hdrained 0
  rw [receiptsGo_readUnreadMail] at hreceipts
  have hviews := messageViews_drained_isOk db env recipient.id 0
  rw [mailReadOne, if_neg (not_not.mpr hauthorized), hread, if_neg Bool.false_ne_true, ← hreceipts]
  dsimp only
  cases hemit : emitReceipts env (db.readUnreadMail recipient.id env.now false).2 0
      (db.readUnreadMail recipient.id env.now false).1 with
  | mk result db' =>
      rw [hemit] at hviews
      cases result with
      | error error =>
          refine iff_of_false (fun h => ?_) fun h => ?_
          · obtain ⟨views, hok⟩ := h
            cases hok
          · cases h.1
      | ok u =>
          dsimp only
          rw [viewsOrFault]
          cases hfault : env.faults.views with
          | true =>
              rw [if_pos rfl]
              refine iff_of_false (fun h => ?_) fun h => ?_
              · obtain ⟨views, hok⟩ := h
                cases hok
              · cases h.2.1
          | false =>
              rw [if_neg Bool.false_ne_true]
              exact hviews.trans ⟨fun h => ⟨rfl, rfl, h⟩, fun h => h.2.2⟩

/-- A read that gets as far as its commit loses nothing on error when it finds no mail or
does not fail. -/
theorem mailReadOne_error_iff {recipient : Session}
    (hauthorized : env.authorized recipient.id = true)
    (hread : env.faults.read = false) :
    (∀ error, (mailReadOne db recipient env).1 = .error error →
        SameStatuses db (mailReadOne db recipient env).2) ↔
      db.fetchUnread recipient.id = [] ∨
        ∃ views, (mailReadOne db recipient env).1 = .ok views := by
  have hstore : (mailReadOne db recipient env).2 =
      (emitReceipts env (db.readUnreadMail recipient.id env.now false).2 0
        (db.readUnreadMail recipient.id env.now false).1).2 := by
    rw [mailReadOne, if_neg (not_not.mpr hauthorized), hread, if_neg Bool.false_ne_true]
    dsimp only
    split
    · next hemit => rw [hemit]
    · next hemit => rw [hemit]
  rw [hstore]
  constructor
  · intro h
    cases hresult : (mailReadOne db recipient env).1 with
    | ok views => exact .inr ⟨views, rfl⟩
    | error error =>
        refine .inl (List.eq_nil_iff_forall_not_mem.mpr fun item hitem => ?_)
        exact not_sameStatuses_drained hitem _ (h error hresult)
  · rintro (hempty | ⟨views, hok⟩) error herror
    · rw [readUnreadMail_of_nil hempty]
      exact fun status key => Iff.rfl
    · rw [hok] at herror
      cases herror

end Failures

/-- A failed read leaves the statuses of all deliveries as they were when it fails before
its commit, finds the mailbox empty, or meets no failure after its commit; otherwise the
drained mail is lost to the caller. -/
theorem mail_read_error_iff (db : Database) (context : RequestContext) (env : ReadEnv) :
    (∀ error, (mailReadRequest db context env).1 = .error error →
        SameStatuses db (mailReadRequest db context env).2) ↔
      ReadLosesNothing db context env := by
  rw [mailReadRequest, ReadLosesNothing]
  by_cases hresolve : env.faults.resolve = true
  · rw [if_pos hresolve]
    exact iff_of_true (fun _ _ _ _ => Iff.rfl) (.inl hresolve)
  · rw [if_neg hresolve]
    cases hmailbox : callerMailbox db context with
    | error error =>
        refine iff_of_true (fun _ _ _ _ => Iff.rfl) (.inr fun recipient h => ?_)
        cases h
    | ok recipient =>
        dsimp only
        have hone : ∀ P : Session → Prop,
            (env.faults.resolve = true ∨ ∀ r, Except.ok (ε := HandlerError) recipient = .ok r →
              P r) ↔ P recipient := by
          intro P
          constructor
          · rintro (h | h)
            · exact absurd h hresolve
            · exact h recipient rfl
          · intro h
            refine .inr fun r hr => ?_
            cases hr
            exact h
        rw [hone]
        by_cases hauthorized : env.authorized recipient.id = true
        · by_cases hread : env.faults.read = true
          · rw [mailReadOne, if_neg (not_not.mpr hauthorized), if_pos hread]
            exact iff_of_true (fun _ _ _ _ => Iff.rfl) (.inr (.inl hread))
          · have hreads : env.faults.read = false := Bool.eq_false_iff.mpr hread
            rw [mailReadOne_error_iff hauthorized hreads, mailReadOne_isOk hauthorized hreads,
              hauthorized, hreads]
            simp only [Bool.true_eq_false, Bool.false_eq_true, false_or]
        · rw [mailReadOne, if_pos hauthorized]
          exact iff_of_true (fun _ _ _ _ => Iff.rfl) (.inl (Bool.eq_false_iff.mpr hauthorized))

/-- Session 2 reads the mail of session 1, and its receipt cannot be stored. -/
def failingReceipt : ReadEnv where
  authorized _ := true
  now := 6
  fresh _ := (⟨8⟩, "read")
  faults := { ReadFaults.none with receipt := fun _ => true }

theorem failed_receipt_loses_mail :
    ¬∀ (steps : List MailboxStep) (context : RequestContext) (env : ReadEnv) (error : HandlerError),
      (mailReadRequest (steps.foldl MailboxStep.apply (.migrated 0)) context env).1 =
          .error error →
        SameStatuses (steps.foldl MailboxStep.apply (.migrated 0))
          (mailReadRequest (steps.foldl MailboxStep.apply (.migrated 0)) context env).2 := by
  intro h
  have hsame := h outwardMail ⟨"{}", some ⟨2⟩⟩ failingReceipt _ rfl .unread (⟨7⟩, ⟨2⟩)
  obtain ⟨delivery, hdelivery, hstatus⟩ := hsame.mpr ⟨⟨.unread, none⟩, rfl, rfl⟩
  cases hdelivery
  cases hstatus

end LittleOrgans.Session
