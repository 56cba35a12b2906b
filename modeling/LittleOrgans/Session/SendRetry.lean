import LittleOrgans.Session.MailRendering

/-!
# Retrying a send

A send with an idempotency key that is repeated finds its message by sender and key. The
check comes after the recipients have been resolved again, and it compares them with the
deliveries of the message: when the selector resolves to other running sessions than at
the first attempt the retry is a conflict, or has nobody to deliver to.

`retry_returns_original_iff` says when the retry returns the original message, in any
state reached while the message is stored.
-/

set_option autoImplicit false

namespace LittleOrgans.Session

open LittleOrgans.Core
open LittleOrgans.Library
open LittleOrgans.Store

/-! ## What happens between the attempts -/

/-- What can happen to the store between two sends. -/
inductive StoreStep where
  | mailbox (step : MailboxStep)
  | applyEvents (events : List RuntimeEvent) (nextCursor : EventCursor) (now : DateTime)
  | reconcileLifecycle (lc : Lifecycle) (now : DateTime)
  | relabel (labels : Table (SessionId × String) String)

/-- The store after a step. -/
def StoreStep.apply (db : Database) : StoreStep → Database
  | .mailbox step => step.apply db
  | .applyEvents events nextCursor now => db.applyRuntimeEventsAndCursor events nextCursor now
  | .reconcileLifecycle lc now => Session.reconcileLifecycle db lc now
  | .relabel labels => { db with labels := labels }

/-- The store as a system of steps; each of them is possible. -/
def sessionStore : StepSystem Database StoreStep where
  step db step := some (step.apply db)

/-- The step does not delete the message. -/
def KeepsMessage (id : MessageId) (db : Database) (step : StoreStep) : Prop :=
  (step.apply db).messages.lookup id ≠ none

/-! ## Messages -/

section Messages

variable {db db' db'' : Database}

/-- Messages are added under free ids and free keys. -/
structure AddsMessages (db db' : Database) : Prop where
  kept : ∀ id row, db.messages.lookup id = some row → db'.messages.lookup id = some row
  unique : UniqueKeys db → UniqueKeys db'

theorem AddsMessages.refl (db : Database) : AddsMessages db db := ⟨fun _ _ h => h, fun h => h⟩

theorem AddsMessages.trans (h : AddsMessages db db') (h' : AddsMessages db' db'') :
    AddsMessages db db'' :=
  ⟨fun id row hrow => h'.kept id row (h.kept id row hrow),
    fun hunique => h'.unique (h.unique hunique)⟩

theorem AddsMessages.of_messages_eq (h : db'.messages = db.messages) : AddsMessages db db' where
  kept id row hrow := by rwa [h]
  unique hunique := by
    intro id id' row row' hrow hrow'
    rw [h] at hrow hrow'
    exact hunique id id' row row' hrow hrow'

theorem addsMessages_insertMail {mail : Mail} {recipientIds : List SessionId}
    {outcome : MailWriteOutcome}
    (h : db.insertMailForRecipients mail recipientIds = .ok (outcome, db')) :
    AddsMessages db db' := by
  rcases insertMailForRecipients_cases h with ⟨rfl, -⟩ | hcommits
  · exact .refl _
  · obtain rfl := hcommits.store
    have hlookup := lookup_messages_commitInsert db recipientIds hcommits.message
    have hfree := idempotentRow_eq_none_iff.mp (idempotentRow_of_noReplay hcommits.noReplay)
    -- No stored message has the sender and the key of the mail.
    have hother : ∀ id row, db.messages.lookup id = some row → row.sender = mail.sender →
        row.idempotencyKey = mail.idempotencyKey → mail.idempotencyKey ≠ none → False := by
      intro id row hrow hsender hkey hsome
      obtain ⟨key, hmail⟩ := Option.ne_none_iff_exists'.mp hsome
      exact hfree key hmail id row ⟨hrow, hsender, hkey.trans hmail⟩
    refine ⟨fun id row hrow => ?_, fun hunique id id' row row' hrow hrow' hsender hkey hsome => ?_⟩
    · rw [hlookup]
      split
      · next hid =>
          rw [hid, hcommits.message] at hrow
          cases hrow
      · exact hrow
    · rw [hlookup] at hrow hrow'
      split at hrow
      · next hid =>
          cases hrow
          split at hrow'
          · next hid' => rw [hid, hid']
          · exact (hother id' row' hrow' hsender.symm hkey.symm hsome).elim
      · split at hrow'
        · cases hrow'
          exact (hother id row hrow hsender hkey (by rwa [hkey] at hsome)).elim
        · exact hunique id id' row row' hrow hrow' hsender hkey hsome

theorem addsMessages_emitReceipts (env : ReadEnv) (items : List Mail) (db : Database) (n : Nat) :
    AddsMessages db (emitReceipts env db n items).2 := by
  induction items generalizing db n with
  | nil => exact .refl db
  | cons item rest ih =>
      rw [emitReceipts]
      split
      · exact ih db n
      · split
        · exact .refl db
        split
        · exact .refl db
        split
        · next hinsert => exact (addsMessages_insertMail hinsert).trans (ih _ (n + 1))
        · exact .refl db

theorem addsMessages_mailReadRequest (context : RequestContext) (env : ReadEnv) (db : Database) :
    AddsMessages db (mailReadRequest db context env).2 := by
  rw [mailReadRequest]
  split
  · exact .refl db
  · split
    · exact .refl db
    · next recipient _ =>
        rw [mailReadOne]
        split
        · exact .refl db
        split
        · exact .refl db
        have hread : AddsMessages db (db.readUnreadMail recipient.id env.now false).2 := by
          rw [readUnreadMail_eq]
          exact .of_messages_eq (messages_commitRead db recipient.id env.now _)
        have hall := hread.trans (addsMessages_emitReceipts env
          (db.readUnreadMail recipient.id env.now false).1 _ 0)
        dsimp only
        split
        · next hemit =>
            rw [hemit] at hall
            exact hall
        · next hemit =>
            rw [hemit] at hall
            exact hall

theorem addsMessages_mailSendRequest (limits : MailSafetyConfig) (context : RequestContext)
    (request : MailSendRequest) (env : SendEnv) (db : Database) :
    AddsMessages db (mailSendRequest db limits context request env).2 := by
  cases hprepare : prepareSend db context request with
  | error error =>
      rw [mailSendRequest, hprepare]
      exact .refl db
  | ok prepared =>
      obtain ⟨sessions, sender⟩ := prepared
      rw [mailSendRequest_of_prepared hprepare]
      rcases db_sendToDeliverable limits request env sender
        (deliverableSessions sessions env.authorized)
        (refusalResponse sessions env.authorized) with hsame | ⟨first, rest, outcome, -, hinsert⟩
      · rw [hsame]
        exact .refl db
      · exact addsMessages_insertMail hinsert

/-- A removal deletes messages only. -/
theorem lookup_messages_removeNamespaceCatalog {slug : String} {id : MessageId} {row : MessageRow}
    (h : (removeNamespaceCatalog db slug).2.messages.lookup id = some row) :
    db.messages.lookup id = some row := by
  have hcollected := Database.collected_deleteSessionsByNamespace db slug
  have hdeleted : (db.deleteSessionsByNamespace slug).messages.lookup id = some row →
      db.messages.lookup id = some row :=
    fun hleft => ((hcollected.messages id row).mp hleft).1
  rw [removeNamespaceCatalog] at h
  split at h
  · exact h
  · split at h
    · exact h
    · dsimp only at h
      split at h
      · exact hdeleted h
      · exact hdeleted h

theorem messages_applyRuntimeEventsAndCursor (events : List RuntimeEvent)
    (nextCursor : EventCursor) (now : DateTime) :
    (db.applyRuntimeEventsAndCursor events nextCursor now).messages = db.messages := by
  rw [Database.frame_applyRuntimeEventsAndCursor]

/-- What a step does to the messages. -/
theorem messages_storeStep (db : Database) (step : StoreStep) :
    AddsMessages db (step.apply db) ∨
      ∀ id row, (step.apply db).messages.lookup id = some row →
        db.messages.lookup id = some row := by
  cases step with
  | mailbox step =>
      cases step with
      | createNamespace slug createdAt => exact .inl (.of_messages_eq rfl)
      | spawn draft lifecycle stdoutPath updatedAt =>
          refine .inl (.of_messages_eq ?_)
          rw [StoreStep.apply, MailboxStep.apply, MailStep.apply]
          split
          · rfl
          · split
            · next hinsert =>
                rw [Database.insertSession] at hinsert
                split at hinsert
                · cases hinsert
                · cases hinsert
                  rfl
            · rfl
      | send limits context request env =>
          exact .inl (addsMessages_mailSendRequest limits context request env db)
      | read context env => exact .inl (addsMessages_mailReadRequest context env db)
      | persistChildExit exit now =>
          refine .inl (.of_messages_eq ?_)
          rw [StoreStep.apply, MailboxStep.apply, persistChildExit]
          cases exit.transcriptPath <;> rfl
      | removeNamespaceCatalog slug =>
          exact .inr fun id row h => lookup_messages_removeNamespaceCatalog h
  | applyEvents events nextCursor now =>
      exact .inl (.of_messages_eq (messages_applyRuntimeEventsAndCursor events nextCursor now))
  | reconcileLifecycle lc now =>
      refine .inl (.of_messages_eq ?_)
      rw [StoreStep.apply, reconcileLifecycle]
      cases lc.transcriptPath <;> cases lc.state <;> rfl
  | relabel labels => exact .inl (.of_messages_eq rfl)

end Messages

/-! ## What a send answers -/

/-- The recipients a response reports as delivered. -/
def deliveredTo (response : MailSendResponse) : Finset SessionId :=
  ((response.results.filter fun result => result.mail = .ok).map fun result =>
    result.recipient.sessionId).toFinset

/-- Every delivery the response reports is one of this message. -/
def DeliversOnly (id : MessageId) (response : MailSendResponse) : Prop :=
  ∀ result ∈ response.results, result.mail = .ok → result.message.map MessageView.id = some id

/-- The request answers with this message for these recipients and writes nothing. -/
def ReturnsOriginal (id : MessageId) (recipients : Finset SessionId) (db : Database)
    (outcome : Except HandlerError MailSendResponse × Database) : Prop :=
  outcome.2 = db ∧
    ∃ response, outcome.1 = .ok response ∧ deliveredTo response = recipients ∧
      DeliversOnly id response

/-- The sender is still known, the selector resolves to the same running recipients, and
they all still have their delivery. -/
def Retryable (db : Database) (context : RequestContext) (request : MailSendRequest)
    (env : SendEnv) (id : MessageId) (recipients : Finset SessionId) : Prop :=
  ∃ sessions sender, prepareSend db context request = .ok (sessions, sender) ∧
    recipientSet ((deliverableSessions sessions env.authorized).map fun session => session.id) =
      recipients ∧
    db.recipientSetForMessage id = recipients

section Answers

variable {db : Database}

theorem deliveredTo_refusalResponse (sessions : List Session) (authorized : SessionId → Bool) :
    deliveredTo (refusalResponse sessions authorized) = ∅ := by
  rw [deliveredTo, List.filter_eq_nil_iff.mpr, List.map_nil, List.toFinset_nil]
  intro result hmem
  obtain ⟨session, -, rfl⟩ := List.mem_map.mp hmem
  simp [failedSendResult]

theorem deliveredTo_extend (response : MailSendResponse) (results : List MailSendResult)
    (errors : List TargetError) :
    deliveredTo (response.extend results errors) =
      deliveredTo response ∪ deliveredTo ⟨results, []⟩ := by
  rw [deliveredTo, MailSendResponse.extend, List.filter_append, List.map_append,
    List.toFinset_append]
  rfl

theorem not_ok_of_refusalResponse {sessions : List Session} {authorized : SessionId → Bool}
    {result : MailSendResult} (h : result ∈ (refusalResponse sessions authorized).results) :
    result.mail ≠ .ok := by
  obtain ⟨session, -, rfl⟩ := List.mem_map.mp h
  exact fun h => MailDeliveryStatus.noConfusion h

/-- A response made of the views of stored mail reports their recipients. -/
theorem deliveredTo_views {items : List Mail} {views : List MessageView}
    (hviews : List.Forall₂ IsViewOf items views)
    (notified : MessageView → MailNotifyStatus × Option HandlerError) (sessions : List Session)
    (authorized : SessionId → Bool) (errors : List TargetError) :
    deliveredTo ((refusalResponse sessions authorized).extend
        (views.map fun view => successfulSendResult view (notified view).1 (notified view).2)
        errors) =
      recipientSet (items.map Mail.recipientId) := by
  have hkeys := congrArg (List.map Prod.snd) (map_viewDelivery_of_isViewOf hviews)
  rw [List.map_map, List.map_map] at hkeys
  rw [deliveredTo_extend, deliveredTo_refusalResponse, Finset.empty_union, deliveredTo,
    List.filter_eq_self.mpr, List.map_map]
  · exact congrArg List.toFinset hkeys
  · intro result hmem
    obtain ⟨view, -, rfl⟩ := List.mem_map.mp hmem
    rfl

theorem deliversOnly_views {items : List Mail} {views : List MessageView}
    (hviews : List.Forall₂ IsViewOf items views) {id : MessageId}
    (hid : ∀ item ∈ items, item.id = id)
    (notified : MessageView → MailNotifyStatus × Option HandlerError) (sessions : List Session)
    (authorized : SessionId → Bool) (errors : List TargetError) :
    DeliversOnly id ((refusalResponse sessions authorized).extend
      (views.map fun view => successfulSendResult view (notified view).1 (notified view).2)
      errors) := by
  intro result hmem hok
  rcases List.mem_append.mp hmem with hrefused | hdelivered
  · exact absurd hok (not_ok_of_refusalResponse hrefused)
  · obtain ⟨view, hview, rfl⟩ := List.mem_map.mp hdelivered
    have hkey : viewDelivery view ∈ views.map viewDelivery := List.mem_map_of_mem hview
    rw [map_viewDelivery_of_isViewOf hviews] at hkey
    obtain ⟨item, hitem, hsame⟩ := List.mem_map.mp hkey
    have hview' : view.id = item.id := (congrArg Prod.fst hsame).symm
    rw [successfulSendResult, Option.map_some, hview', hid item hitem]

theorem effectiveSender_unique {db' : Database} {context : RequestContext}
    {sender sender' : SenderRef}
    (h : effectiveSender db context = .ok sender) (h' : effectiveSender db' context = .ok sender') :
    sender = sender' := by
  rw [effectiveSender] at h h'
  cases hcaller : context.callerSessionId with
  | none =>
      rw [hcaller] at h h'
      cases h
      cases h'
      rfl
  | some caller =>
      rw [hcaller] at h h'
      obtain ⟨u, -, hpure⟩ := Except.bind_eq_ok.mp h
      obtain ⟨u', -, hpure'⟩ := Except.bind_eq_ok.mp h'
      cases hpure
      cases hpure'
      rfl

end Answers

/-! ## The first attempt and the retry -/

/-- The row of a message this sender wrote by this request. -/
def SentBy (sender : SenderRef) (request : MailSendRequest) (row : MessageRow) : Prop :=
  ∀ recipientId env, matchesMessage row (mailFromRequest request sender recipientId env)

/-- What a send to these sessions answers when it succeeds: the stored message of an
earlier send, the message it has committed, or a failure for each recipient. -/
inductive Sent (db : Database) (request : MailSendRequest) (env : SendEnv) (sender : SenderRef)
    (deliverable : List Session) (response : MailSendResponse) (mail : Mail) :
    MailSendResponse → Database → Prop where
  | replayed {id : MessageId} {row : MessageRow} {items : List Mail} {views : List MessageView}
      (hrow : db.idempotentRow mail = some (id, row)) (hmatches : matchesMessage row mail)
      (hload : db.loadMessageDeliveries id row (deliverable.map fun session => session.id) =
        .ok items)
      (hviews : messageViews db items = .ok views) :
      Sent db request env sender deliverable response mail
        (response.extend (views.map fun view => successfulSendResult view .skipped none) []) db
  | committed {outcome : MailWriteOutcome} {views : List MessageView} {db' : Database}
      (hcommits : Commits db mail (deliverable.map fun session => session.id) outcome db')
      (hviews : messageViews db' outcome.mail = .ok views) :
      Sent db request env sender deliverable response mail
        (response.extend (views.map (persistedResult request env outcome.inserted))
          (persistedErrors (views.map (persistedResult request env outcome.inserted)))) db'
  | failed (error : HandlerError) :
      Sent db request env sender deliverable response mail
        (response.extend
          (deliverable.map fun session => failedSendResult (.fromSession session) error)
          (deliverable.map fun session => ⟨session.id, error⟩)) db

section Attempts

variable {db : Database} {limits : MailSafetyConfig} {context : RequestContext}
  {request : MailSendRequest} {env : SendEnv}

theorem sent_of_sendToDeliverable {sender : SenderRef} {first : Session} {rest : List Session}
    {response response' : MailSendResponse} {db' : Database}
    (h : sendToDeliverable db limits request env sender (first :: rest) response =
      (.ok response', db')) :
    Sent db request env sender (first :: rest) response
      (mailFromRequest request sender first.id env) response' db' := by
  have hne : (first :: rest).map (fun session => session.id) ≠ [] := by simp
  rw [sendToDeliverable] at h
  cases hreplay : db.loadIdempotentReplay (mailFromRequest request sender first.id env)
      ((first :: rest).map fun session => session.id) with
  | error error =>
      rw [appendIdempotentMail_of_error hreplay] at h
      cases h
  | ok replay =>
      cases replay with
      -- A replay inserts nothing.
      | some items =>
          obtain ⟨id, row, hrow, hmatches, -, hload⟩ := loadIdempotentReplay_eq_some hreplay
          rw [appendIdempotentMail_of_some hreplay] at h
          cases hviews : messageViews db items with
          | error error =>
              rw [hviews] at h
              cases h
          | ok views =>
              rw [hviews] at h
              cases h
              exact .replayed hrow hmatches hload hviews
      | none =>
          rw [appendIdempotentMail_of_none hreplay] at h
          dsimp only at h
          split at h
          · cases h
          · rw [persistMailSend] at h
            split at h
            · next outcome db₁ hinsert =>
                split at h
                · next views hviews =>
                    cases h
                    exact .committed (commits_of_noReplay hne hreplay hinsert) hviews
                · cases h
            · cases h
              exact .failed _

/-- A delivery that a send reports is one of a stored message. -/
theorem stored_of_delivered {response : MailSendResponse}
    (hfirst : (mailSendRequest db limits context request env).1 = .ok response)
    {result : MailSendResult} (hresult : result ∈ response.results) (hok : result.mail = .ok) :
    ∃ id row sender, effectiveSender db context = .ok sender ∧ SentBy sender request row ∧
      (mailSendRequest db limits context request env).2.messages.lookup id = some row ∧
        DeliversOnly id response := by
  cases hprepare : prepareSend db context request with
  | error error =>
      rw [mailSendRequest, hprepare] at hfirst
      cases hfirst
  | ok prepared =>
      obtain ⟨sessions, sender⟩ := prepared
      obtain ⟨-, -, -, hsender⟩ := prepareSend_eq_ok hprepare
      rw [mailSendRequest_of_prepared hprepare] at hfirst ⊢
      cases hdeliverable : deliverableSessions sessions env.authorized with
      | nil =>
          rw [hdeliverable] at hfirst
          cases hfirst
          exact absurd hok (not_ok_of_refusalResponse hresult)
      | cons first rest =>
          rw [hdeliverable] at hfirst
          generalize houtcome : sendToDeliverable db limits request env sender (first :: rest)
            (refusalResponse sessions env.authorized) = outcome at hfirst ⊢
          obtain ⟨answer, db'⟩ := outcome
          cases hfirst
          cases sent_of_sendToDeliverable houtcome with
          | @replayed id row items views hrow hmatches hload hviews =>
              obtain ⟨key, -, hstored⟩ := idempotentRow_eq_some hrow
              exact ⟨id, row, sender, hsender, fun _ _ => hmatches, hstored.1,
                deliversOnly_views (forall₂_messageViews hviews)
                  (fun item hitem => ((loadMessageDeliveries_eq_ok hload).2 item hitem).1)
                  (fun _ => (.skipped, none)) sessions env.authorized _⟩
          | @committed outcome views db₁ hcommits hviews =>
              have hmail : ∀ item ∈ outcome.mail, item.id = env.messageId := by
                rw [hcommits.outcome]
                intro item hitem
                obtain ⟨recipientId, -, rfl⟩ := List.mem_map.mp hitem
                rfl
              refine ⟨env.messageId, messageRow (mailFromRequest request sender first.id env),
                sender, hsender, fun _ _ => ⟨rfl, rfl, rfl, rfl, rfl⟩, ?_,
                deliversOnly_views (forall₂_messageViews hviews) hmail
                  (fun view => if outcome.inserted then
                    notifyResult request env view.recipient.sessionId else (.skipped, none))
                  sessions env.authorized _⟩
              rw [hcommits.store]
              exact (lookup_messages_commitInsert db _ hcommits.message _).trans (if_pos rfl)
          | failed error =>
              rcases List.mem_append.mp hresult with hrefused | hfailed
              · exact absurd hok (not_ok_of_refusalResponse hrefused)
              · obtain ⟨session, -, rfl⟩ := List.mem_map.mp hfailed
                cases hok

/-- A repeated send finds the stored message and compares its deliveries with the
recipients of the retry. -/
theorem sendToDeliverable_retry {sender : SenderRef} {id : MessageId} {row : MessageRow}
    (hunique : UniqueKeys db) (hstored : db.messages.lookup id = some row)
    (hsent : SentBy sender request row) (hkey : request.idempotencyKey ≠ none) {first : Session}
    {rest : List Session} {response : MailSendResponse} :
    sendToDeliverable db limits request env sender (first :: rest) response =
      if db.recipientSetForMessage id =
          recipientSet ((first :: rest).map fun session => session.id) then
        match db.loadMessageDeliveries id row ((first :: rest).map fun session => session.id) with
        | .ok items =>
            ((messageViews db items).map fun views =>
              response.extend
                (views.map fun view => successfulSendResult view .skipped none) [], db)
        | .error _ => (.error (.store "failed to load idempotent mail"), db)
      else (.error (.store "failed to load idempotent mail"), db) := by
  have hmatches := hsent first.id env
  have hrow : db.idempotentRow (mailFromRequest request sender first.id env) = some (id, row) := by
    cases hfound : db.idempotentRow (mailFromRequest request sender first.id env) with
    | none =>
        obtain ⟨key, hsome⟩ := Option.ne_none_iff_exists'.mp hkey
        exact absurd ⟨hstored, hmatches.1, hmatches.2.2.2.2.trans hsome⟩
          (idempotentRow_eq_none_iff.mp hfound key hsome id row)
    | some found =>
        obtain ⟨id', row'⟩ := found
        obtain ⟨key, hsome, hstored', hsender', hkey'⟩ := idempotentRow_eq_some hfound
        have hkeys : row.idempotencyKey = row'.idempotencyKey :=
          hmatches.2.2.2.2.trans (hsome.trans hkey'.symm)
        -- Keys are unique, so the row found by the key is the stored one.
        have hsame : id = id' := hunique id id' row row' hstored hstored'
          (hmatches.1.trans hsender'.symm) hkeys (by rw [hkeys, hkey']; simp)
        subst hsame
        rw [hstored] at hstored'
        cases hstored'
        rfl
  have hreplay := loadIdempotentReplay_eq db (mailFromRequest request sender first.id env)
    ((first :: rest).map fun session => session.id)
  rw [hrow] at hreplay
  dsimp only at hreplay
  rw [if_pos hmatches] at hreplay
  rw [sendToDeliverable]
  split at hreplay
  · next hset =>
      rw [if_pos hset]
      cases hload : db.loadMessageDeliveries id row
          ((first :: rest).map fun session => session.id) with
      | error error =>
          rw [hload] at hreplay
          rw [appendIdempotentMail_of_error hreplay]
      | ok items =>
          rw [hload] at hreplay
          rw [appendIdempotentMail_of_some hreplay]
          dsimp only
          cases messageViews db items <;> rfl
  · next hset =>
      rw [if_neg hset, appendIdempotentMail_of_error hreplay]

/-- A retry returns the original message when it is retryable, and only then. -/
theorem returnsOriginal_iff {sender : SenderRef} {id : MessageId} {row : MessageRow}
    (hunique : UniqueKeys db) (hstored : db.messages.lookup id = some row)
    (hknown : ∀ sender', effectiveSender db context = .ok sender' → sender' = sender)
    (hsent : SentBy sender request row) (hkey : request.idempotencyKey ≠ none)
    {recipients : Finset SessionId} (hrecipients : recipients.Nonempty) :
    ReturnsOriginal id recipients db (mailSendRequest db limits context request env) ↔
      Retryable db context request env id recipients := by
  cases hprepare : prepareSend db context request with
  | error error =>
      rw [mailSendRequest, hprepare]
      -- A send that is refused as a whole returns nothing.
      refine iff_of_false (fun h => ?_) fun h => ?_
      · obtain ⟨-, response, hok, -⟩ := h
        cases hok
      · obtain ⟨sessions, sender', hok, -⟩ := h
        rw [hprepare] at hok
        cases hok
  | ok prepared =>
      obtain ⟨sessions, sender'⟩ := prepared
      obtain ⟨-, -, hresolve, hsender⟩ := prepareSend_eq_ok hprepare
      obtain rfl := hknown sender' hsender
      have hretryable : Retryable db context request env id recipients ↔
          recipientSet ((deliverableSessions sessions env.authorized).map fun session =>
            session.id) = recipients ∧ db.recipientSetForMessage id = recipients := by
        constructor
        · rintro ⟨sessions', sender'', hok, hsets⟩
          rw [hprepare] at hok
          cases hok
          exact hsets
        · exact fun hsets => ⟨sessions, sender', hprepare, hsets⟩
      rw [hretryable, mailSendRequest_of_prepared hprepare]
      cases hdeliverable : deliverableSessions sessions env.authorized with
      | nil =>
          refine iff_of_false (fun h => ?_) fun h => ?_
          · obtain ⟨-, response, hok, hset, -⟩ := h
            cases hok
            rw [deliveredTo_refusalResponse] at hset
            exact hrecipients.ne_empty hset.symm
          · exact hrecipients.ne_empty h.1.symm
      | cons first rest =>
          rw [sendToDeliverable_retry hunique hstored hsent hkey]
          split
          · next hset =>
              obtain ⟨items, hload⟩ := loadMessageDeliveries_isOk row hset
              obtain ⟨hids, hitems⟩ := loadMessageDeliveries_eq_ok hload
              -- The recipients were just listed and the sender acts, so all views succeed.
              have hshows : ∀ item ∈ items, Shows db item := by
                intro item hitem
                refine shows_iff.mpr ⟨?_, fun id hid => ?_⟩
                · have hmem : item.recipientId ∈ items.map Mail.recipientId :=
                    List.mem_map_of_mem hitem
                  rw [hids] at hmem
                  obtain ⟨session, hsession, hsame⟩ := List.mem_map.mp hmem
                  rw [← hdeliverable] at hsession
                  rw [← hsame]
                  exact ⟨session, decodes_of_listSessionsBySelector
                    (listed_resolveSelector hresolve).1 session (List.mem_filter.mp hsession).1⟩
                · rw [(hitems item hitem).2, (hsent first.id env).1] at hid
                  exact resolves_of_effectiveSender hsender hid
              obtain ⟨views, hviews⟩ := messageViews_isOk.mpr hshows
              rw [hload]
              dsimp only
              rw [hviews, Except.map]
              have hdelivered := deliveredTo_views (forall₂_messageViews hviews)
                (fun _ => (.skipped, none)) sessions env.authorized []
              have honly := deliversOnly_views (forall₂_messageViews hviews)
                (fun item hitem => (hitems item hitem).1) (fun _ => (.skipped, none)) sessions
                env.authorized []
              rw [hids] at hdelivered
              constructor
              · rintro ⟨-, response, hok, hsame, -⟩
                cases hok
                rw [hdelivered] at hsame
                exact ⟨hsame, hset.trans hsame⟩
              · rintro ⟨hsame, -⟩
                exact ⟨rfl, _, rfl, hdelivered.trans hsame, honly⟩
          · next hset =>
              refine iff_of_false (fun h => ?_) fun h => hset (h.2.trans h.1.symm)
              obtain ⟨-, response, hok, -⟩ := h
              cases hok

end Attempts

/-! ## The law -/

theorem uniqueKeys_of_reaches {C : Database → StoreStep → Prop} {db db' : Database}
    (hunique : UniqueKeys db) (h : sessionStore.Reaches C db db') : UniqueKeys db' := by
  refine StepSystem.Reaches.invariant hunique (fun db step db' hdb _ hstep => ?_) h
  cases hstep
  rcases messages_storeStep db step with hadds | hdeletes
  · exact hadds.unique hdb
  · exact fun id id' row row' hrow hrow' =>
      hdb id id' row row' (hdeletes id row hrow) (hdeletes id' row' hrow')

/-- A message that is never deleted keeps its row. -/
theorem lookup_messages_of_reaches {id : MessageId} {row : MessageRow} {db db' : Database}
    (hrow : db.messages.lookup id = some row)
    (h : sessionStore.Reaches (KeepsMessage id) db db') : db'.messages.lookup id = some row := by
  refine StepSystem.Reaches.invariant (I := fun db => db.messages.lookup id = some row) hrow
    (fun db step db' hdb hkeeps hstep => ?_) h
  cases hstep
  rcases messages_storeStep db step with hadds | hdeletes
  · exact hadds.kept id row hdb
  · obtain ⟨row', hrow'⟩ := Option.ne_none_iff_exists'.mp hkeeps
    rw [hrow', ← hdeletes id row' hrow', hdb]

/-- A send with a key that has delivered a message, and the same send again in any state
reached while that message is stored. -/
theorem retry_returns_original_iff {createdAt : DateTime} {db db' : Database}
    {limits limits' : MailSafetyConfig} {context : RequestContext} {request : MailSendRequest}
    {env env' : SendEnv} {response : MailSendResponse} {id : MessageId}
    (hreach : sessionStore.Reaches (fun _ _ => True) (.migrated createdAt) db)
    (hkey : request.idempotencyKey ≠ none)
    (hfirst : (mailSendRequest db limits context request env).1 = .ok response)
    (hdelivered : (deliveredTo response).Nonempty) (honly : DeliversOnly id response)
    (hlater : sessionStore.Reaches (KeepsMessage id)
      (mailSendRequest db limits context request env).2 db') :
    ReturnsOriginal id (deliveredTo response) db'
        (mailSendRequest db' limits' context request env') ↔
      Retryable db' context request env' id (deliveredTo response) := by
  obtain ⟨recipientId, hrecipient⟩ := hdelivered
  have hmem := hrecipient
  rw [deliveredTo, List.mem_toFinset] at hmem
  obtain ⟨result, hresult, -⟩ := List.mem_map.mp hmem
  obtain ⟨hresult, hok⟩ := List.mem_filter.mp hresult
  have hmail : result.mail = .ok := of_decide_eq_true hok
  obtain ⟨id', row, sender, hsender, hsent, hrow, honly'⟩ :=
    stored_of_delivered hfirst hresult hmail
  have hsame : id' = id := by
    have hid := honly result hresult hmail
    rw [honly' result hresult hmail] at hid
    exact Option.some.inj hid
  subst hsame
  have hfirstKeys : UniqueKeys db := by
    refine uniqueKeys_of_reaches (fun id id' row row' hrow => ?_) hreach
    rw [Database.migrated, Table.lookup_empty] at hrow
    cases hrow
  have hkeys := uniqueKeys_of_reaches
    ((addsMessages_mailSendRequest limits context request env db).unique hfirstKeys) hlater
  exact returnsOriginal_iff hkeys (lookup_messages_of_reaches hrow hlater)
    (fun sender' hsender' => effectiveSender_unique hsender' hsender) hsent hkey
    ⟨recipientId, hrecipient⟩

/-- Session 1 writes to session 2 under a key. -/
def keyedSend : MailSendRequest :=
  ⟨.id ⟨2⟩, "status?", none, none, "context", .request, some "send-1"⟩

/-- A caller with an idempotency key. -/
def keyedCaller : RequestContext := ⟨"{}", some ⟨1⟩⟩

/-- A send in which everybody can be reached. -/
def keyedEnv : SendEnv := ⟨fun _ => true, ⟨7⟩, 5, fun _ => none⟩

/-- Sessions 1 and 2 run. -/
def spawnTwo : List StoreStep :=
  [.mailbox (.spawn (sampleDraft ⟨1⟩) (sampleLifecycle ⟨1⟩ .running) none 0),
    .mailbox (.spawn (sampleDraft ⟨2⟩) (sampleLifecycle ⟨2⟩ .running) none 0)]

/-- The send reaches session 2; repeated after session 2 has ended it reaches nobody. -/
theorem keyedSend_delivers :
    ∃ db response, sessionStore.follow (.migrated 0) spawnTwo = some db ∧
      (mailSendRequest db ⟨8, 8, 60⟩ keyedCaller keyedSend keyedEnv).1 = .ok response ∧
        ⟨2⟩ ∈ deliveredTo response ∧ DeliversOnly ⟨7⟩ response ∧
          KeepsMessage ⟨7⟩ (mailSendRequest db ⟨8, 8, 60⟩ keyedCaller keyedSend keyedEnv).2
            (.mailbox (.persistChildExit ⟨⟨2⟩, 100, some 0, none⟩ 9)) ∧
          (mailSendRequest (persistChildExit
              (mailSendRequest db ⟨8, 8, 60⟩ keyedCaller keyedSend keyedEnv).2
              ⟨⟨2⟩, 100, some 0, none⟩ 9) ⟨8, 8, 60⟩ keyedCaller keyedSend keyedEnv).1 =
            .ok ⟨[], []⟩ := by
  refine ⟨_, _, rfl, rfl, ?_, ?_, ?_, rfl⟩
  · exact List.mem_toFinset.mpr List.mem_cons_self
  · intro result hmem _
    rw [List.mem_singleton.mp hmem]
    rfl
  · exact fun hgone => Option.some_ne_none _ hgone

theorem retry_returns_original_keyedSend :
    ∃ db response, (mailSendRequest db ⟨8, 8, 60⟩ keyedCaller keyedSend keyedEnv).1 = .ok response ∧
      (ReturnsOriginal ⟨7⟩ (deliveredTo response)
          (mailSendRequest db ⟨8, 8, 60⟩ keyedCaller keyedSend keyedEnv).2
          (mailSendRequest (mailSendRequest db ⟨8, 8, 60⟩ keyedCaller keyedSend keyedEnv).2
            ⟨0, 0, 60⟩ keyedCaller keyedSend keyedEnv) ↔
        Retryable (mailSendRequest db ⟨8, 8, 60⟩ keyedCaller keyedSend keyedEnv).2 keyedCaller
          keyedSend keyedEnv ⟨7⟩ (deliveredTo response)) := by
  obtain ⟨db, response, hspawned, hfirst, hdelivered, honly, -, -⟩ := keyedSend_delivers
  have hreach : sessionStore.Reaches (fun _ _ => True) (.migrated 0) db :=
    StepSystem.reaches_of_follow hspawned fun _ _ _ => trivial
  exact ⟨db, response, hfirst, retry_returns_original_iff hreach (Option.some_ne_none _) hfirst
    ⟨⟨2⟩, hdelivered⟩ honly .refl⟩

/-- The recipient ends between the attempts, and the retry answers with nothing. -/
theorem retry_after_exit_loses_original :
    ¬∀ (createdAt : DateTime) (db db' : Database) (limits limits' : MailSafetyConfig)
      (context : RequestContext) (request : MailSendRequest) (env env' : SendEnv)
      (response : MailSendResponse) (id : MessageId),
      sessionStore.Reaches (fun _ _ => True) (.migrated createdAt) db →
        request.idempotencyKey ≠ none →
          (mailSendRequest db limits context request env).1 = .ok response →
            (deliveredTo response).Nonempty → DeliversOnly id response →
              sessionStore.Reaches (KeepsMessage id)
                (mailSendRequest db limits context request env).2 db' →
                ReturnsOriginal id (deliveredTo response) db'
                  (mailSendRequest db' limits' context request env') := by
  intro h
  obtain ⟨db, response, hspawned, hfirst, hdelivered, honly, hkeeps, hretry⟩ := keyedSend_delivers
  have hreach : sessionStore.Reaches (fun _ _ => True) (.migrated 0) db :=
    StepSystem.reaches_of_follow hspawned fun _ _ _ => trivial
  obtain ⟨-, answer, hanswer, hsame, -⟩ := h 0 db _ ⟨8, 8, 60⟩ ⟨8, 8, 60⟩ keyedCaller keyedSend
    keyedEnv keyedEnv response ⟨7⟩ hreach (Option.some_ne_none _) hfirst ⟨⟨2⟩, hdelivered⟩ honly
    (.step .refl hkeeps rfl)
  have hempty : answer = ⟨[], []⟩ := Except.ok.inj (hanswer.symm.trans hretry)
  rw [← hsame, hempty] at hdelivered
  exact absurd hdelivered (Finset.notMem_empty _)

end LittleOrgans.Session
