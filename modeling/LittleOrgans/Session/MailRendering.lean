import LittleOrgans.Library.StepSystem
import LittleOrgans.Session.MailHandlers
import LittleOrgans.Session.UnreadMail
import LittleOrgans.Store.MailWrites
import LittleOrgans.Store.MessageLog
import LittleOrgans.Store.NamespaceDeletion

/-!
# Rendering mail after namespace deletions

Every query over mail shows a message with its sender and its recipient, so both need a
session row. A namespace deletion removes the deliveries addressed to its sessions, but it
keeps a message one of them sent when a delivery outside the namespace is left
(`gcSessionSenderMessages`); the log query over such a message fails.

`Anchored` is the invariant that makes every query succeed (`Anchored.rendered`). Each
step keeps it, a deletion when it spares the senders of the mail outside, and
`rendering_survives_iff` says that no other deletion does.
-/

set_option autoImplicit false

namespace LittleOrgans.Session

open LittleOrgans.Core
open LittleOrgans.Library
open LittleOrgans.Store
open LittleOrgans.Daemon

/-! ## Namespace deletion -/

/-- `remove_namespace_catalog`. -/
def removeNamespaceCatalog (db : Database) (slug : String) :
    Except HandlerError Unit × Database :=
  match db.listSessionsBySelector (.inNamespace slug) with
  | .error _ =>
      (.error (.store "failed to verify namespace sessions before catalog removal"), db)
  | .ok sessions =>
      if sessions.any fun session => session.state.isActive then
        (.error (.namespaceRaced slug), db)
      else
        let emptied := db.deleteSessionsByNamespace slug
        if emptied.namespaceExists slug then (.ok (), emptied.deleteNamespace slug)
        else (.error (.unknownNamespace slug), emptied)

/-- What a deletion meets outside the store: the ends of the sessions it terminates, as
they are persisted, and whether it could terminate all of them. -/
structure DeletionEnv where
  authorized : Bool
  exits : List (ChildExit × DateTime)
  terminated : Bool

/-- `delete_namespace`. -/
def deleteNamespaceRequest (db : Database) (slug : String) (env : DeletionEnv) :
    Except HandlerError Unit × Database :=
  if slug = "default" then (.error .defaultNamespace, db)
  else if ¬env.authorized then (.error .namespaceDeletionDenied, db)
  else if ¬db.namespaceExists slug then (.error (.unknownNamespace slug), db)
  else
    let ended := env.exits.foldl (fun db exit => persistChildExit db exit.1 exit.2) db
    if env.terminated then removeNamespaceCatalog ended slug
    else (.error (.cascadeFailed slug), ended)

/-! ## Steps -/

/-- What happens to a mailbox. -/
inductive MailboxStep where
  | createNamespace (slug : String) (createdAt : DateTime)
  | spawn (draft : SessionDraft) (lifecycle : Lifecycle) (stdoutPath : Option String)
      (updatedAt : DateTime)
  | send (limits : MailSafetyConfig) (context : RequestContext) (request : MailSendRequest)
      (env : SendEnv)
  | read (context : RequestContext) (env : ReadEnv)
  | persistChildExit (exit : ChildExit) (now : DateTime)
  | removeNamespaceCatalog (slug : String)

namespace MailboxStep

/-- The store after a step. -/
def apply (db : Database) : MailboxStep → Database
  | .createNamespace slug createdAt =>
      { db with namespaces := db.namespaces.insert slug createdAt }
  | .spawn draft lifecycle stdoutPath updatedAt =>
      MailStep.apply db (.spawn draft lifecycle stdoutPath updatedAt)
  | .send limits context request env => (mailSendRequest db limits context request env).2
  | .read context env => (mailReadRequest db context env).2
  | .persistChildExit exit now => Session.persistChildExit db exit now
  | .removeNamespaceCatalog slug => (Session.removeNamespaceCatalog db slug).2

end MailboxStep

/-- Mailboxes as a system of steps; each of them is possible. -/
def mailbox : StepSystem Database MailboxStep where
  step db step := some (step.apply db)

/-- The store when the ends of a deletion have been persisted. -/
def DeletionEnv.ended (env : DeletionEnv) (db : Database) : Database :=
  env.exits.foldl (fun db exit => persistChildExit db exit.1 exit.2) db

/-- A deletion is a run of its ends and of the removal, where it gets that far. -/
theorem reaches_deleteNamespaceRequest {C : Database → MailboxStep → Prop} (db : Database)
    (slug : String) (env : DeletionEnv)
    (hexit : ∀ db exit now, C db (.persistChildExit exit now))
    (hremove : C (env.ended db) (.removeNamespaceCatalog slug)) :
    mailbox.Reaches C db (deleteNamespaceRequest db slug env).2 := by
  have hexits : ∀ (exits : List (ChildExit × DateTime)) (db : Database), mailbox.Reaches C db
      (exits.foldl (fun db exit => persistChildExit db exit.1 exit.2) db) := by
    intro exits
    induction exits with
    | nil => exact fun _ => .refl
    | cons exit exits ih =>
        intro db
        have hfirst : mailbox.Reaches C db (persistChildExit db exit.1 exit.2) :=
          .step .refl (hexit db exit.1 exit.2) rfl
        exact hfirst.trans (ih _)
  rw [deleteNamespaceRequest]
  split
  · exact .refl
  · split
    · exact .refl
    · split
      · exact .refl
      · dsimp only
        split
        · exact (hexits env.exits db).step hremove rfl
        · exact hexits env.exits db

/-! ## What every query needs -/

/-- A query that shows the mail of some delivery succeeds: the unread mail of a recipient,
the mail a read has drained and answered, and the log. -/
structure Rendered (db : Database) : Prop where
  unread : ∀ recipientId, ∃ views, messageViews db (db.fetchUnread recipientId) = .ok views
  drained : ∀ recipientId (env : ReadEnv) (db' : Database),
    emitReceipts env (db.readUnreadMail recipientId env.now false).2 0
        (db.readUnreadMail recipientId env.now false).1 = (.ok (), db') →
      ∃ views, messageViews db' (db.readUnreadMail recipientId env.now false).1 = .ok views
  log : ∀ contextId participantIds recipientIds includeSystem after, ∃ views,
    messageViews db
      (db.listMessageLog contextId participantIds recipientIds includeSystem after) = .ok views

/-- The session has a row. -/
def HasRow (db : Database) (id : SessionId) : Prop := ∃ facts, endFacts db id = some facts

/-- A row decodes unless it is a loss without evidence. -/
def EndFacts.Decodes (facts : EndFacts) : Prop := facts.state = .lost → facts.lostEvidence ≠ none

/-- Every row decodes, and every delivery has a row for its recipient and for the session
that sent its message. -/
structure Anchored (db : Database) : Prop where
  rows : ∀ id facts, endFacts db id = some facts → facts.Decodes
  recipients : ∀ key delivery, db.deliveries.lookup key = some delivery → HasRow db key.2
  senders : ∀ key delivery message id, db.deliveries.lookup key = some delivery →
    db.messages.lookup key.1 = some message → message.sender = .session id → HasRow db id

theorem resolves_iff {db : Database} {id : SessionId} :
    Resolves db id ↔ ∃ facts, endFacts db id = some facts ∧ facts.Decodes := by
  constructor
  · rintro ⟨session, row, hrow, hsession⟩
    refine ⟨.ofRow row, by rw [endFacts, hrow, Option.map_some], fun hlost hnone => ?_⟩
    obtain ⟨state, hstate, -⟩ := Except.bind_eq_ok.mp hsession
    have hstateName : row.state = .lost := hlost
    have hevidence : row.lostEvidence = none := hnone
    rw [hstateName, hevidence] at hstate
    cases hstate
  · rintro ⟨facts, hfacts, hdecodes⟩
    obtain ⟨row, hrow, rfl⟩ := Option.map_eq_some_iff.mp hfacts
    have hstate : ∃ state, stateFromSql row.state row.lostEvidence = .ok state := by
      cases hname : row.state with
      | spawning => exact ⟨_, rfl⟩
      | running => exact ⟨_, rfl⟩
      | terminated => exact ⟨_, rfl⟩
      | lost =>
          cases hevidence : row.lostEvidence with
          | none => exact absurd hevidence (hdecodes hname)
          | some evidence => exact ⟨_, rfl⟩
    obtain ⟨state, hstate⟩ := hstate
    exact ⟨_, row, hrow, Except.bind_eq_ok.mpr ⟨state, hstate, rfl⟩⟩

section Queries

variable {db db' : Database}

theorem Anchored.resolves (h : Anchored db) {id : SessionId} (hrow : HasRow db id) :
    Resolves db id := by
  obtain ⟨facts, hfacts⟩ := hrow
  exact resolves_iff.mpr ⟨facts, hfacts, h.rows id facts hfacts⟩

theorem Resolves.hasRow {id : SessionId} (h : Resolves db id) : HasRow db id := by
  obtain ⟨facts, hfacts, -⟩ := resolves_iff.mp h
  exact ⟨facts, hfacts⟩

/-- Mail is shown when its recipient and its sender have rows. -/
theorem shows_iff {item : Mail} :
    Shows db item ↔
      Resolves db item.recipientId ∧ ∀ id, item.sender = .session id → Resolves db id := by
  rw [Shows, mailSessionIds]
  cases item.sender <;> simp

/-- The row of a delivery and its message, as a log row. -/
theorem Anchored.shows (h : Anchored db) {item : Mail} (hitem : item ∈ db.messageLogRows) :
    Shows db item := by
  obtain ⟨message, delivery, hmessage, hdelivery, hmail⟩ := Database.mem_messageLogRows.mp hitem
  refine shows_iff.mpr ⟨h.resolves (h.recipients _ _ hdelivery), fun id hsender => ?_⟩
  rw [hmail] at hsender
  exact h.resolves (h.senders _ _ _ id hdelivery hmessage hsender)

theorem Shows.of_sessions_eq {item : Mail} (h : Shows db item)
    (hsessions : db'.sessions = db.sessions) : Shows db' item := by
  intro id hid
  obtain ⟨facts, hfacts, hdecodes⟩ := resolves_iff.mp (h id hid)
  exact resolves_iff.mpr ⟨facts, by rwa [endFacts_of_sessions_eq hsessions], hdecodes⟩

end Queries

/-! ## What the steps do -/

section Steps

variable {db db' : Database}

/-- A step that keeps the rows, and adds neither deliveries nor messages. -/
theorem Anchored.of_rows (h : Anchored db)
    (hrows : ∀ id facts, endFacts db' id = some facts → facts.Decodes)
    (hkeep : ∀ id, HasRow db id → HasRow db' id)
    (hdeliveries : ∀ key, (db'.deliveries.lookup key).isSome → (db.deliveries.lookup key).isSome)
    (hmessages : db'.messages = db.messages) : Anchored db' where
  rows := hrows
  recipients key delivery hkey := by
    obtain ⟨old, hold⟩ := Option.isSome_iff_exists.mp
      (hdeliveries key (by rw [hkey]; exact Option.isSome_some))
    exact hkeep _ (h.recipients key old hold)
  senders key delivery message id hkey hmessage hsender := by
    obtain ⟨old, hold⟩ := Option.isSome_iff_exists.mp
      (hdeliveries key (by rw [hkey]; exact Option.isSome_some))
    rw [hmessages] at hmessage
    exact hkeep _ (h.senders key old message id hold hmessage hsender)

theorem HasRow.of_sessions_eq {id : SessionId} (h : HasRow db id)
    (hsessions : db'.sessions = db.sessions) : HasRow db' id := by
  obtain ⟨facts, hfacts⟩ := h
  exact ⟨facts, by rwa [endFacts_of_sessions_eq hsessions]⟩

theorem hasRow_of_lookup {id : SessionId} {row : SessionRow}
    (h : db.sessions.lookup id = some row) : HasRow db id :=
  ⟨.ofRow row, by rw [endFacts, h, Option.map_some]⟩

/-- A mail written for sessions with rows, by a session with a row. -/
theorem Anchored.insertMail (h : Anchored db) {mail : Mail} {recipientIds : List SessionId}
    {outcome : MailWriteOutcome}
    (hinsert : db.insertMailForRecipients mail recipientIds = .ok (outcome, db'))
    (hsender : ∀ id, mail.sender = .session id → HasRow db id)
    (hrecipients : ∀ id ∈ recipientIds, HasRow db id) :
    Anchored db' := by
  rcases insertMailForRecipients_cases hinsert with ⟨rfl, -⟩ | hcommits
  · exact h
  · obtain rfl := hcommits.store
    have hsessions : (db.commitInsert mail recipientIds).sessions = db.sessions :=
      sessions_commitInsert recipientIds
    refine ⟨fun id facts hfacts => ?_, fun key delivery hkey => ?_,
      fun key delivery message id hkey hmessage hid => ?_⟩
    · rw [endFacts_of_sessions_eq hsessions] at hfacts
      exact h.rows id facts hfacts
    · rcases lookup_commitInsert_cases hkey with hold | ⟨-, hmem, -⟩
      · exact (h.recipients key delivery hold).of_sessions_eq hsessions
      · exact (hrecipients _ hmem).of_sessions_eq hsessions
    · rcases lookup_messages_commitInsert_cases hmessage with hold | ⟨-, rfl⟩
      · rcases lookup_commitInsert_cases hkey with holdKey | ⟨hsame, -, -⟩
        · exact (h.senders key delivery message id holdKey hold hid).of_sessions_eq hsessions
        · -- The id of the mail was free, so its delivery belongs to no older message.
          rw [hsame, hcommits.message] at hold
          cases hold
      · exact (hsender id hid).of_sessions_eq hsessions

theorem Anchored.commitRead (h : Anchored db) (recipientId : SessionId) (readAt : DateTime)
    (marked : List MessageId) : Anchored (db.commitRead recipientId readAt marked) := by
  have hsessions := sessions_commitRead db recipientId readAt marked
  refine h.of_rows (fun id facts hfacts => ?_) (fun id hrow => hrow.of_sessions_eq hsessions)
    (fun key hkey => ?_) (messages_commitRead db recipientId readAt marked)
  · rw [endFacts_of_sessions_eq hsessions] at hfacts
    exact h.rows id facts hfacts
  · rw [lookup_commitRead] at hkey
    split at hkey
    · rwa [Option.isSome_map] at hkey
    · exact hkey

theorem sessions_emitReceipts (env : ReadEnv) (items : List Mail) (db : Database) (n : Nat) :
    (emitReceipts env db n items).2.sessions = db.sessions := by
  induction items generalizing db n with
  | nil => rfl
  | cons item rest ih =>
      rw [emitReceipts]
      split
      · exact ih db n
      · split
        · rfl
        split
        · rfl
        split
        · next hinsert => exact (ih _ (n + 1)).trans (insertMailForRecipients_eq_ok hinsert).1
        · rfl

/-- The receipts of a read go to sessions with rows. -/
theorem Anchored.emitReceipts (h : Anchored db) (env : ReadEnv) (items : List Mail) (n : Nat)
    (hitems : ∀ item ∈ items, ∀ sender, receiptTo item = some sender → HasRow db sender) :
    Anchored (emitReceipts env db n items).2 := by
  induction items generalizing db n with
  | nil => exact h
  | cons item rest ih =>
      have hrest := fun item hitem => hitems item (List.mem_cons_of_mem _ hitem)
      rw [Session.emitReceipts]
      cases hreceipt : receiptTo item with
      | none => exact ih h n hrest
      | some sender =>
          dsimp only
          split
          · exact h
          split
          · exact h
          split
          · next outcome db' hinsert =>
              have hrow := hitems item List.mem_cons_self sender hreceipt
              have hanchored := h.insertMail hinsert
                (fun id hid => by cases hid)
                (fun id hid => by rw [List.mem_singleton.mp hid]; exact hrow)
              have hsessions := (insertMailForRecipients_eq_ok hinsert).1
              exact ih hanchored (n + 1) fun item hitem sender hto =>
                (hrest item hitem sender hto).of_sessions_eq hsessions
          · exact h

/-- Drained mail is the mail that was unread. -/
theorem receiptTo_drained (item : Mail) (readAt : Option DateTime) :
    receiptTo { item with readAt := readAt } = receiptTo item := rfl

theorem sender_of_receiptTo {item : Mail} {sender : SessionId} (h : receiptTo item = some sender) :
    item.sender = .session sender := by
  rw [receiptTo] at h
  cases hsender : item.sender with
  | session id =>
      rw [hsender] at h
      dsimp only at h
      split at h
      · cases h
      · cases h
        rfl
  | operator principal =>
      rw [hsender] at h
      cases h
  | system =>
      rw [hsender] at h
      cases h

theorem sessions_readUnreadMail (db : Database) (recipientId : SessionId) (readAt : DateTime) :
    (db.readUnreadMail recipientId readAt false).2.sessions = db.sessions := by
  rw [readUnreadMail_eq]
  exact sessions_commitRead db recipientId readAt _

theorem Anchored.drain (h : Anchored db) (recipientId : SessionId) (env : ReadEnv) :
    let drained := db.readUnreadMail recipientId env.now false
    Anchored (Session.emitReceipts env drained.2 0 drained.1).2 := by
  intro drained
  have hstore : Anchored drained.2 := by
    have heq : drained.2 = _ := congrArg Prod.snd (readUnreadMail_eq db recipientId env.now)
    rw [heq]
    exact h.commitRead recipientId env.now _
  refine hstore.emitReceipts env drained.1 0 fun item hitem sender hto => ?_
  have hitems : drained.1 = _ := congrArg Prod.fst (readUnreadMail_eq db recipientId env.now)
  rw [hitems] at hitem
  obtain ⟨stored, hstored, rfl⟩ := List.mem_map.mp hitem
  rw [receiptTo_drained] at hto
  have hshows := shows_iff.mp (h.shows (Database.mem_fetchUnread_iff.mp hstored).1)
  have hrow := (hshows.2 sender (sender_of_receiptTo hto)).hasRow
  exact hrow.of_sessions_eq (sessions_readUnreadMail db recipientId env.now)

/-- The invariant makes every query succeed. -/
theorem Anchored.rendered (h : Anchored db) : Rendered db where
  unread recipientId :=
    messageViews_isOk.mpr fun _ hitem => h.shows (Database.mem_fetchUnread_iff.mp hitem).1
  drained recipientId env db' hemit := by
    refine messageViews_isOk.mpr fun item hitem => ?_
    have hsessions := sessions_emitReceipts env (db.readUnreadMail recipientId env.now false).1
      (db.readUnreadMail recipientId env.now false).2 0
    rw [hemit] at hsessions
    rw [readUnreadMail_eq] at hitem
    obtain ⟨stored, hstored, rfl⟩ := List.mem_map.mp hitem
    have hshows : Shows db stored := h.shows (Database.mem_fetchUnread_iff.mp hstored).1
    exact Shows.of_sessions_eq hshows
      (hsessions.trans (sessions_readUnreadMail db recipientId env.now))
  log contextId participantIds recipientIds includeSystem after :=
    messageViews_isOk.mpr fun _ hitem => h.shows (Database.mem_listMessageLog hitem)

theorem Anchored.insertSession (h : Anchored db) {session : Session}
    (hinsert : db.insertSession session = .ok db') (hactive : session.state = .running) :
    Anchored db' := by
  have hkeep : ∀ id, HasRow db id → HasRow db' id := by
    rintro id ⟨facts, hfacts⟩
    exact ⟨facts, endFacts_insertSession hinsert hfacts⟩
  rw [Database.insertSession] at hinsert
  split at hinsert
  · cases hinsert
  · next hkey =>
      cases hinsert
      have hnone : db.sessions.lookup session.id = none := by
        simpa [Table.contains] using hkey
      refine h.of_rows (fun id facts hfacts => ?_) hkeep (fun _ hsome => hsome) rfl
      have hrow : ((db.sessions.insert session.id (sessionRow session)).lookup id).map
          EndFacts.ofRow = some facts := hfacts
      rw [Table.lookup_insert hnone] at hrow
      split at hrow
      · cases hrow
        intro hlost
        have hstate : sqlName session.state = .lost := hlost
        rw [hactive] at hstate
        cases hstate
      · exact h.rows id facts hrow

theorem Anchored.persistChildExit (h : Anchored db) (exit : ChildExit) (now : DateTime) :
    Anchored (persistChildExit db exit now) := by
  have hfacts := endFacts_persistChildExit db exit now
  have hmail : (Session.persistChildExit db exit now).messages = db.messages ∧
      (Session.persistChildExit db exit now).deliveries =
        (db.markUnreadUndeliverable exit.sessionId).deliveries := by
    rw [Session.persistChildExit]
    cases exit.transcriptPath <;> exact ⟨rfl, rfl⟩
  refine h.of_rows (fun id facts hrow => ?_) (fun id hrow => ?_) (fun key hkey => ?_) hmail.1
  · rw [hfacts] at hrow
    split at hrow
    · obtain ⟨old, -, rfl⟩ := Option.map_eq_some_iff.mp hrow
      intro hlost
      cases hlost
    · exact h.rows id facts hrow
  · obtain ⟨facts, hold⟩ := hrow
    rw [HasRow, hfacts]
    split
    · next hid =>
        rw [← hid, hold]
        exact ⟨_, rfl⟩
    · exact ⟨facts, hold⟩
  · rw [hmail.2, lookup_deliveries_markUnreadUndeliverable, Option.isSome_map] at hkey
    exact hkey

end Steps

/-! ## Sends -/

section Sends

variable {db : Database}

/-- A send that reaches no insert writes nothing. -/
theorem db_sendToDeliverable (limits : MailSafetyConfig) (request : MailSendRequest)
    (env : SendEnv) (sender : SenderRef) (deliverable : List Session)
    (response : MailSendResponse) :
    (sendToDeliverable db limits request env sender deliverable response).2 = db ∨
      ∃ first rest outcome, deliverable = first :: rest ∧
        db.insertMailForRecipients (mailFromRequest request sender first.id env)
            (deliverable.map fun session => session.id) =
          .ok (outcome,
            (sendToDeliverable db limits request env sender deliverable response).2) := by
  cases deliverable with
  | nil => exact .inl rfl
  | cons first rest =>
      rw [sendToDeliverable]
      split
      · exact .inl rfl
      · exact .inl rfl
      · split
        · exact .inl rfl
        · rw [persistMailSend]
          split
          · next outcome db' hinsert =>
              refine .inr ⟨first, rest, outcome, rfl, ?_⟩
              rw [hinsert]
              split <;> rfl
          · exact .inl rfl

/-- A session that sends has a row that decodes. -/
theorem resolves_of_effectiveSender {context : RequestContext} {sender : SenderRef}
    (h : effectiveSender db context = .ok sender) {id : SessionId}
    (hsender : sender = .session id) : Resolves db id := by
  rw [effectiveSender] at h
  cases hcaller : context.callerSessionId with
  -- without a caller the mail is the operator's
  | none =>
      rw [hcaller] at h
      cases h
      cases hsender
  | some caller =>
      rw [hcaller] at h
      obtain ⟨u, hrequire, hpure⟩ := Except.bind_eq_ok.mp h
      -- the caller was looked up, so its row is there and decodes
      cases hpure
      obtain rfl := SenderRef.session.inj hsender
      obtain ⟨session, hsession, hrequire⟩ := Except.bind_eq_ok.mp hrequire
      rw [withContext_eq_ok, Database.getSession] at hsession
      cases hrow : db.sessions.lookup caller with
      | none =>
          rw [hrow] at hsession
          cases hsession
          cases hrequire
      | some row =>
          rw [hrow] at hsession
          dsimp only at hsession
          cases hdecoded : sessionFromRow caller row (db.labelsForSession caller) with
          | error message =>
              rw [hdecoded] at hsession
              cases hsession
          | ok decoded => exact ⟨decoded, row, hrow, hdecoded⟩

theorem Anchored.send (h : Anchored db) (limits : MailSafetyConfig) (context : RequestContext)
    (request : MailSendRequest) (env : SendEnv) :
    Anchored (mailSendRequest db limits context request env).2 := by
  cases hprepare : prepareSend db context request with
  | error error =>
      rw [mailSendRequest, hprepare]
      exact h
  | ok prepared =>
      obtain ⟨sessions, sender⟩ := prepared
      obtain ⟨-, -, hresolve, hsender⟩ := prepareSend_eq_ok hprepare
      rw [mailSendRequest_of_prepared hprepare]
      rcases db_sendToDeliverable limits request env sender
        (deliverableSessions sessions env.authorized)
        (refusalResponse sessions env.authorized) with hsame | hwrites
      · rw [hsame]
        exact h
      · obtain ⟨first, rest, outcome, -, hinsert⟩ := hwrites
        refine h.insertMail hinsert
          (fun id hid => (resolves_of_effectiveSender hsender hid).hasRow) ?_
        intro id hid
        obtain ⟨session, hsession, rfl⟩ := List.mem_map.mp hid
        have hlisted := (List.mem_filter.mp hsession).1
        obtain ⟨row, hrow, -⟩ :=
          decodes_of_listSessionsBySelector (listed_resolveSelector hresolve).1 session hlisted
        exact hasRow_of_lookup hrow

theorem Anchored.read (h : Anchored db) (context : RequestContext) (env : ReadEnv) :
    Anchored (mailReadRequest db context env).2 := by
  rw [mailReadRequest]
  split
  · exact h
  · split
    · exact h
    · next recipient _ =>
        rw [mailReadOne]
        split
        · exact h
        split
        · exact h
        have hdrain := h.drain recipient.id env
        dsimp only at hdrain ⊢
        split
        · next hemit =>
            rw [hemit] at hdrain
            exact hdrain
        · next hemit =>
            rw [hemit] at hdrain
            exact hdrain

end Sends

/-! ## Deletions -/

section Deletions

variable {db : Database} {slug : String}

/-- No session of the namespace is active. -/
def NoActive (db : Database) (slug : String) : Prop :=
  ∀ id row, db.sessions.lookup id = some row → row.namespaceSlug = slug →
    row.state.isActive = false

/-- Every delivery of a message that a session of the namespace sent goes to a session of
the namespace. -/
def SparesSenders (db : Database) (slug : String) : Prop :=
  ∀ key delivery message id row row', db.deliveries.lookup key = some delivery →
    db.messages.lookup key.1 = some message → message.sender = .session id →
      db.sessions.lookup id = some row → row.namespaceSlug = slug →
        db.sessions.lookup key.2 = some row' → row'.namespaceSlug = slug

theorem lookup_sessions_deleteSessionsByNamespace (id : SessionId) :
    (db.deleteSessionsByNamespace slug).sessions.lookup id =
      (db.sessions.lookup id).filter fun row => row.namespaceSlug ≠ slug := by
  rw [Database.frame_deleteSessionsByNamespace]
  exact Table.lookup_filterRows _ _ _

theorem lookup_deliveries_deleteSessionsByNamespace (key : MessageId × SessionId) :
    (db.deleteSessionsByNamespace slug).deliveries.lookup key =
      (db.deliveries.lookup key).filter fun _ => key.2 ∉ db.sessionIdsInNamespace slug := by
  show (List.foldl Database.gcSessionSenderMessages _ _).deliveries.lookup key = _
  rw [Database.foldl_gcSessionSenderMessages]
  exact Table.lookup_filterRows _ _ _

/-- A message of a delivery that is left is left too. -/
theorem lookup_messages_deleteSessionsByNamespace {key : MessageId × SessionId}
    {delivery : DeliveryRow}
    (h : (db.deleteSessionsByNamespace slug).deliveries.lookup key = some delivery)
    (message : MessageRow) :
    (db.deleteSessionsByNamespace slug).messages.lookup key.1 = some message ↔
      db.messages.lookup key.1 = some message := by
  have hcollected := Database.collected_deleteSessionsByNamespace db slug
  rw [hcollected.messages, and_iff_left]
  exact .inl ⟨key.2, delivery, h⟩

/-- A removal deletes when no session of the namespace is active, and only then. -/
theorem removeNamespaceCatalog_cases (h : Anchored db) (slug : String) :
    (NoActive db slug ∧ ∃ namespaces, (removeNamespaceCatalog db slug).2 =
        { db.deleteSessionsByNamespace slug with namespaces := namespaces }) ∨
      ¬NoActive db slug ∧ (removeNamespaceCatalog db slug).2 = db := by
  -- every row decodes, so the query does not fail
  have hquery : ∃ sessions, db.listSessionsBySelector (.inNamespace slug) = .ok sessions :=
    Database.querySessions_isOk.mpr fun id row hrow _ => h.resolves (hasRow_of_lookup hrow)
  obtain ⟨sessions, hsessions⟩ := hquery
  have hactive : (sessions.any fun session => session.state.isActive) = true ↔
      ¬NoActive db slug := by
    rw [List.any_eq_true]
    constructor
    -- what the query returns is decoded from the rows, and the state is theirs
    · rintro ⟨session, hmem, hactive⟩ hno
      obtain ⟨id, row, hrow, hslug, hdecodes⟩ := (Database.mem_querySessions hsessions).mp hmem
      have hinactive := hno id row hrow (of_decide_eq_true hslug)
      rw [isActive_eq_of_decodes hdecodes hrow, hinactive] at hactive
      cases hactive
    · intro hnot
      rw [NoActive] at hnot
      push Not at hnot
      obtain ⟨id, row, hrow, hslug, hactive⟩ := hnot
      obtain ⟨session, hdecodes⟩ := h.resolves (hasRow_of_lookup hrow)
      refine ⟨session, (Database.mem_querySessions hsessions).mpr
        ⟨id, row, hrow, decide_eq_true hslug, hdecodes⟩, ?_⟩
      rw [isActive_eq_of_decodes hdecodes hrow]
      simpa using hactive
  rw [removeNamespaceCatalog, hsessions]
  dsimp only
  by_cases hno : NoActive db slug
  · have hnone : ¬(sessions.any fun session => session.state.isActive) = true :=
      fun hany => hactive.mp hany hno
    rw [if_neg hnone]
    refine .inl ⟨hno, ?_⟩
    split
    · exact ⟨_, rfl⟩
    · exact ⟨_, rfl⟩
  · rw [if_pos (hactive.mpr hno)]
    exact .inr ⟨hno, rfl⟩

/-- Deleting the sessions of a namespace keeps the invariant when it spares the senders of
the mail outside, and only then is all mail shown after it. -/
theorem Anchored.deleteSessionsByNamespace (h : Anchored db) (hspares : SparesSenders db slug)
    (namespaces : Table String DateTime) :
    Anchored { db.deleteSessionsByNamespace slug with namespaces := namespaces } := by
  have hkept : ∀ id facts, endFacts (db.deleteSessionsByNamespace slug) id = some facts →
      endFacts db id = some facts := by
    intro id facts hfacts
    obtain ⟨row, hrow, rfl⟩ := Option.map_eq_some_iff.mp hfacts
    rw [lookup_sessions_deleteSessionsByNamespace] at hrow
    rw [endFacts, (Option.filter_eq_some_iff.mp hrow).1, Option.map_some]
  have houtside : ∀ id, HasRow db id → id ∉ db.sessionIdsInNamespace slug →
      HasRow (db.deleteSessionsByNamespace slug) id := by
    rintro id ⟨facts, hfacts⟩ hnot
    obtain ⟨row, hrow, rfl⟩ := Option.map_eq_some_iff.mp hfacts
    have hleft : (db.deleteSessionsByNamespace slug).sessions.lookup id = some row := by
      rw [lookup_sessions_deleteSessionsByNamespace, Option.filter_eq_some_iff]
      exact ⟨hrow, decide_eq_true fun hslug =>
        hnot (Database.mem_sessionIdsInNamespace.mpr ⟨row, hrow, hslug⟩)⟩
    exact hasRow_of_lookup hleft
  have hdeliveries : ∀ key delivery,
      (db.deleteSessionsByNamespace slug).deliveries.lookup key = some delivery →
        db.deliveries.lookup key = some delivery ∧ key.2 ∉ db.sessionIdsInNamespace slug := by
    intro key delivery hkey
    rw [lookup_deliveries_deleteSessionsByNamespace, Option.filter_eq_some_iff] at hkey
    exact ⟨hkey.1, of_decide_eq_true hkey.2⟩
  refine ⟨fun id facts hfacts => h.rows id facts (hkept id facts hfacts),
    fun key delivery hkey => ?_, fun key delivery message id hkey hmessage hsender => ?_⟩
  · obtain ⟨hold, hnot⟩ := hdeliveries key delivery hkey
    exact houtside _ (h.recipients key delivery hold) hnot
  · obtain ⟨hold, hnot⟩ := hdeliveries key delivery hkey
    have hstored := (lookup_messages_deleteSessionsByNamespace hkey message).mp hmessage
    refine houtside _ (h.senders key delivery message id hold hstored hsender) fun hinside => ?_
    -- The recipient would be a session of the namespace, and its delivery is gone.
    obtain ⟨row, hrow, hslug⟩ := Database.mem_sessionIdsInNamespace.mp hinside
    obtain ⟨facts, hfacts⟩ := h.recipients key delivery hold
    obtain ⟨row', hrow', -⟩ := Option.map_eq_some_iff.mp hfacts
    exact hnot (Database.mem_sessionIdsInNamespace.mpr
      ⟨row', hrow', hspares key delivery message id row row' hold hstored hsender hrow hslug hrow'⟩)

theorem mem_listMessageLog_all {mail : Mail} (h : mail ∈ db.messageLogRows) :
    mail ∈ db.listMessageLog none none none true none := by
  rw [Database.listMessageLog, if_neg (by simp), List.mem_insertionSort, List.mem_filter]
  exact ⟨h, by simp [Database.inMessageLog]⟩

/-- A deletion that does not spare a sender leaves a log that cannot be shown. -/
theorem sparesSenders_of_rendered {namespaces : Table String DateTime}
    (h : Rendered { db.deleteSessionsByNamespace slug with namespaces := namespaces }) :
    SparesSenders db slug := by
  intro key delivery message id row row' hdelivery hmessage hsender hrow hslug hrow'
  by_contra houtside
  have hkey : (db.deleteSessionsByNamespace slug).deliveries.lookup key = some delivery := by
    rw [lookup_deliveries_deleteSessionsByNamespace, Option.filter_eq_some_iff]
    refine ⟨hdelivery, decide_eq_true fun hinside => houtside ?_⟩
    obtain ⟨row'', hrow'', hslug''⟩ := Database.mem_sessionIdsInNamespace.mp hinside
    rw [hrow'] at hrow''
    cases hrow''
    exact hslug''
  have hstored := (lookup_messages_deleteSessionsByNamespace hkey message).mpr hmessage
  have hlogged : mailFromRow key.1 key.2 message delivery ∈
      (db.deleteSessionsByNamespace slug).messageLogRows :=
    Database.mem_messageLogRows.mpr ⟨message, delivery, hstored, hkey, rfl⟩
  have hshows := messageViews_isOk.mp (h.log none none none true none) _
    (mem_listMessageLog_all hlogged)
  obtain ⟨facts, hfacts⟩ := ((shows_iff.mp hshows).2 id hsender).hasRow
  obtain ⟨left, hleft, -⟩ := Option.map_eq_some_iff.mp hfacts
  have hdeleted : (db.deleteSessionsByNamespace slug).sessions.lookup id = some left := hleft
  rw [lookup_sessions_deleteSessionsByNamespace, hrow, Option.filter_eq_some_iff] at hdeleted
  obtain ⟨hsame, hnot⟩ := hdeleted
  cases hsame
  exact of_decide_eq_true hnot hslug

end Deletions

/-! ## Runs -/

/-- A removal that deletes the sessions of a namespace spares the senders of the mail
outside. -/
def MailboxStep.Spares (db : Database) : MailboxStep → Prop
  | .removeNamespaceCatalog slug => NoActive db slug → SparesSenders db slug
  | .createNamespace _ _ => True
  | .spawn _ _ _ _ => True
  | .send _ _ _ _ => True
  | .read _ _ => True
  | .persistChildExit _ _ => True

theorem Anchored.migrated (createdAt : DateTime) : Anchored (.migrated createdAt) where
  rows id facts hfacts := by
    rw [endFacts, Database.migrated, Table.lookup_empty] at hfacts
    cases hfacts
  recipients key delivery hkey := by
    rw [Database.migrated, Table.lookup_empty] at hkey
    cases hkey
  senders key delivery message id hkey := by
    rw [Database.migrated, Table.lookup_empty] at hkey
    cases hkey

/-- Step lemma. -/
theorem Anchored.apply {db : Database} (h : Anchored db) {step : MailboxStep}
    (hspares : step.Spares db) : Anchored (step.apply db) := by
  cases step with
  | createNamespace slug createdAt => exact h.of_rows h.rows (fun _ h => h) (fun _ h => h) rfl
  | spawn draft lifecycle stdoutPath updatedAt =>
      rw [MailboxStep.apply, MailStep.apply]
      split
      · exact h
      · next session hsession =>
          split
          · next hinsert =>
              exact h.insertSession hinsert (SessionDraft.runningSession_eq_ok hsession).2.2.2
          · exact h
  | send limits context request env => exact h.send limits context request env
  | read context env => exact h.read context env
  | persistChildExit exit now => exact h.persistChildExit exit now
  | removeNamespaceCatalog slug =>
      rw [MailboxStep.apply]
      rcases removeNamespaceCatalog_cases h slug with ⟨hno, namespaces, hdeleted⟩ | ⟨-, hsame⟩
      · rw [hdeleted]
        exact h.deleteSessionsByNamespace (hspares hno) namespaces
      · rw [hsame]
        exact h

/-- In every state of a run whose removals spare the senders of the mail outside, every
query succeeds; and the next step keeps it so when it does the same, and only then. -/
theorem rendering_survives_iff {createdAt : DateTime} {db : Database}
    (h : mailbox.Reaches (fun db step => step.Spares db) (.migrated createdAt) db) :
    Rendered db ∧ ∀ step : MailboxStep, Rendered (step.apply db) ↔ step.Spares db := by
  have hanchored : Anchored db := by
    refine StepSystem.Reaches.invariant (.migrated createdAt)
      (fun db step db' hdb hspares hstep => ?_) h
    cases hstep
    exact hdb.apply hspares
  refine ⟨hanchored.rendered, fun step => ⟨fun hrendered => ?_,
    fun hspares => (hanchored.apply hspares).rendered⟩⟩
  cases step with
  | removeNamespaceCatalog slug =>
      intro hno
      rw [MailboxStep.apply] at hrendered
      rcases removeNamespaceCatalog_cases hanchored slug with ⟨-, namespaces, hdeleted⟩ | ⟨hnot, -⟩
      · rw [hdeleted] at hrendered
        exact sparesSenders_of_rendered hrendered
      · exact absurd hno hnot
  | createNamespace _ _ => trivial
  | spawn _ _ _ _ => trivial
  | send _ _ _ _ => trivial
  | read _ _ => trivial
  | persistChildExit _ _ => trivial

instance (db : Database) (slug : String) : Decidable (NoActive db slug) :=
  inferInstanceAs (Decidable (∀ id row, db.sessions.lookup id = some row →
    row.namespaceSlug = slug → row.state.isActive = false))

/-- The session that sent a message, if one did. -/
def senderSession : SenderRef → Option SessionId
  | .session id => some id
  | .operator _ => none
  | .system => none

theorem senderSession_eq_some {sender : SenderRef} {id : SessionId} :
    senderSession sender = some id ↔ sender = .session id := by
  cases sender <;> simp [senderSession]

instance (db : Database) (slug : String) : Decidable (SparesSenders db slug) :=
  decidable_of_iff
    (∀ key delivery, db.deliveries.lookup key = some delivery →
      ∀ message ∈ db.messages.lookup key.1, ∀ id ∈ senderSession message.sender,
        ∀ row ∈ db.sessions.lookup id, row.namespaceSlug = slug →
          ∀ row' ∈ db.sessions.lookup key.2, row'.namespaceSlug = slug)
    ⟨fun h key delivery message id row row' hkey hmessage hsender hrow hslug hrow' =>
      h key delivery hkey message hmessage id (senderSession_eq_some.mpr hsender) row hrow hslug
        row' hrow',
      fun h key delivery hkey message hmessage id hsender row hrow hslug row' hrow' =>
        h key delivery message id row row' hkey hmessage (senderSession_eq_some.mp hsender) hrow
          hslug hrow'⟩

instance (db : Database) : (step : MailboxStep) → Decidable (step.Spares db)
  | .removeNamespaceCatalog slug =>
      inferInstanceAs (Decidable (NoActive db slug → SparesSenders db slug))
  | .createNamespace _ _ => isTrue trivial
  | .spawn _ _ _ _ => isTrue trivial
  | .send _ _ _ _ => isTrue trivial
  | .read _ _ => isTrue trivial
  | .persistChildExit _ _ => isTrue trivial

/-- A session of the namespace `alpha` writes to a session of the default namespace. -/
def outwardMail : List MailboxStep :=
  [.createNamespace "alpha" 0,
    .spawn { sampleDraft ⟨1⟩ with namespaceSlug := "alpha" } (sampleLifecycle ⟨1⟩ .running) none 0,
    .spawn (sampleDraft ⟨2⟩) (sampleLifecycle ⟨2⟩ .running) none 0,
    .send ⟨8, 8, 60⟩ ⟨"{}", some ⟨1⟩⟩ ⟨.id ⟨2⟩, "status?", none, none, "context", .request, none⟩
      ⟨fun _ => true, ⟨7⟩, 5, fun _ => none⟩]

/-- A mail to session `id` that is sent by a session, or by the operator. -/
def mailboxSend (sender : Option SessionId) (id : SessionId) (messageId : MessageId)
    (now : DateTime) : MailboxStep :=
  .send ⟨8, 8, 60⟩ ⟨"{}", sender⟩ ⟨.id id, "status?", none, none, "context", .request, none⟩
    ⟨fun _ => true, messageId, now, fun _ => none⟩

/-- Two sessions of the namespace `alpha` write to each other, and the operator and a session
of the default namespace to one of them and to another; then the two end, and their namespace
is deleted. -/
def inwardMail : List MailboxStep :=
  [.createNamespace "alpha" 0,
    .spawn { sampleDraft ⟨1⟩ with namespaceSlug := "alpha" } (sampleLifecycle ⟨1⟩ .running) none 0,
    .spawn (sampleDraft ⟨2⟩) (sampleLifecycle ⟨2⟩ .running) none 0,
    .spawn { sampleDraft ⟨3⟩ with namespaceSlug := "alpha" } (sampleLifecycle ⟨3⟩ .running) none 0,
    mailboxSend (some ⟨1⟩) ⟨3⟩ ⟨7⟩ 5, mailboxSend (some ⟨2⟩) ⟨1⟩ ⟨8⟩ 6,
    mailboxSend none ⟨2⟩ ⟨9⟩ 7,
    .persistChildExit ⟨⟨1⟩, 100, some 0, none⟩ 9, .persistChildExit ⟨⟨3⟩, 102, some 0, none⟩ 9,
    .removeNamespaceCatalog "alpha"]

theorem rendering_survives_inwardMail :
    ∃ db db', mailbox.follow (.migrated 0) (inwardMail.take 9) = some db ∧
      mailbox.follow (.migrated 0) inwardMail = some db' ∧ NoActive db "alpha" ∧
      (∃ delivery, db.deliveries.lookup (⟨7⟩, ⟨3⟩) = some delivery) ∧
      db'.deliveries.lookup (⟨7⟩, ⟨3⟩) = none ∧
      (∃ delivery, db'.deliveries.lookup (⟨9⟩, ⟨2⟩) = some delivery) ∧ Rendered db' := by
  have hrun : ∃ db db', mailbox.follow (.migrated 0) (inwardMail.take 9) = some db ∧
      mailbox.follow (.migrated 0) inwardMail = some db' ∧ NoActive db "alpha" ∧
      (∃ delivery, db.deliveries.lookup (⟨7⟩, ⟨3⟩) = some delivery) ∧
      db'.deliveries.lookup (⟨7⟩, ⟨3⟩) = none ∧
      ∃ delivery, db'.deliveries.lookup (⟨9⟩, ⟨2⟩) = some delivery :=
    ⟨_, _, rfl, rfl, by decide +kernel, ⟨_, rfl⟩, by decide +kernel, ⟨_, rfl⟩⟩
  obtain ⟨db, db', hbefore, hrun, hactive, hsent, hdeleted, hkept⟩ := hrun
  have hmeets : mailbox.Meets (fun db step => step.Spares db) (.migrated 0) inwardMail := by
    decide +kernel
  obtain ⟨hrendered, -⟩ := rendering_survives_iff (StepSystem.reaches_of_meets hmeets hrun)
  exact ⟨db, db', hbefore, hrun, hactive, hsent, hdeleted, hkept, hrendered⟩

/-- The sender ends and its namespace is deleted. -/
def senderDeleted : List MailboxStep :=
  outwardMail ++ [.persistChildExit ⟨⟨1⟩, 100, some 0, none⟩ 9, .removeNamespaceCatalog "alpha"]

theorem deletion_breaks_log :
    ¬∀ steps : List MailboxStep, Rendered (steps.foldl MailboxStep.apply (.migrated 0)) := by
  intro h
  obtain ⟨views, hviews⟩ := (h senderDeleted).log none none none true none
  have hfails : (messageViews (senderDeleted.foldl MailboxStep.apply (.migrated 0))
      ((senderDeleted.foldl MailboxStep.apply (.migrated 0)).listMessageLog none none none true
        none)).isOk = false := by decide +kernel
  rw [hviews] at hfails
  cases hfails

end LittleOrgans.Session
