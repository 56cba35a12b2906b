import LittleOrgans.Session.StoreRequests

/-!
# What a request does in one step

A step of a request leaves the references in the store as they are, or it is one of a few
writes; and the request keeps hold of what it found there, to write for it in a later call:
the sessions a selector lists, the namespace of a spawn.
-/

set_option autoImplicit false

namespace LittleOrgans.Session

open LittleOrgans.Core
open LittleOrgans.Library
open LittleOrgans.Store
open LittleOrgans.Daemon

/-! ## Writes that refer to nothing new -/

/-- The stores agree on what is referred to and on what refers to it. -/
structure SameReferences (db db' : Database) : Prop where
  namespaces : db'.namespaces = db.namespaces
  labels : db'.labels = db.labels
  messages : db'.messages = db.messages
  sessions : ∀ id, (db'.sessions.lookup id).map SessionRow.namespaceSlug =
    (db.sessions.lookup id).map SessionRow.namespaceSlug
  deliveries : ∀ key, (db'.deliveries.lookup key).isSome = (db.deliveries.lookup key).isSome

section SameReferences

variable {db db' db'' : Database}

theorem SameReferences.refl (db : Database) : SameReferences db db :=
  ⟨rfl, rfl, rfl, fun _ => rfl, fun _ => rfl⟩

theorem SameReferences.trans (h : SameReferences db db') (h' : SameReferences db' db'') :
    SameReferences db db'' where
  namespaces := h'.namespaces.trans h.namespaces
  labels := h'.labels.trans h.labels
  messages := h'.messages.trans h.messages
  sessions id := (h'.sessions id).trans (h.sessions id)
  deliveries key := (h'.deliveries key).trans (h.deliveries key)

theorem SameReferences.contains_sessions (h : SameReferences db db') (id : SessionId) :
    db'.sessions.contains id = db.sessions.contains id := by
  have := congrArg Option.isSome (h.sessions id)
  rwa [Option.isSome_map, Option.isSome_map] at this

/-- A delivery of the second store is one of the first. -/
theorem SameReferences.delivery (h : SameReferences db db') {key : MessageId × SessionId}
    {row : DeliveryRow} (hrow : db'.deliveries.lookup key = some row) :
    ∃ old, db.deliveries.lookup key = some old := by
  have := h.deliveries key
  rw [hrow] at this
  exact Option.isSome_iff_exists.mp this.symm

theorem sameReferences_markSessionTerminated (db : Database) (id : SessionId)
    (exitCode : Option Int) (now : DateTime) :
    SameReferences db (db.markSessionTerminated id exitCode now) where
  namespaces := rfl
  labels := rfl
  messages := rfl
  sessions := by
    intro id'
    rw [Database.lookup_sessions_markSessionTerminated]
    split
    · next hid =>
        rw [hid]
        cases db.sessions.lookup id <;> rfl
    · rfl
  deliveries := by
    intro key
    rw [Database.markSessionTerminated, Database.markUnreadUndeliverable, Table.lookup_mapRows,
      Option.isSome_map]

theorem sameReferences_recordTranscriptPath (db : Database) (id : SessionId) (path : String)
    (now : DateTime) : SameReferences db (db.recordTranscriptPath id path now) where
  namespaces := rfl
  labels := rfl
  messages := rfl
  sessions := by
    intro id'
    rw [Database.lookup_sessions_recordTranscriptPath]
    split
    · next hid =>
        rw [hid]
        cases db.sessions.lookup id with
        | none => rfl
        | some row =>
            simp only [Option.map_some, SessionRow.recordTranscriptPath]
            split <;> rfl
    · rfl
  deliveries := fun _ => rfl

theorem sameReferences_persistChildExit (db : Database) (exit : ChildExit) (now : DateTime) :
    SameReferences db (persistChildExit db exit now) := by
  rw [persistChildExit]
  cases exit.transcriptPath with
  | none => exact sameReferences_markSessionTerminated _ _ _ _
  | some path =>
      exact (sameReferences_recordTranscriptPath _ _ path _).trans
        (sameReferences_markSessionTerminated _ _ _ _)

theorem sameReferences_updateRead (db : Database) (readAt : DateTime) (id : MessageId)
    (recipientId : SessionId) : SameReferences db (db.updateRead readAt id recipientId) where
  namespaces := rfl
  labels := rfl
  messages := rfl
  sessions := fun _ => rfl
  deliveries := by
    intro key
    rw [Database.updateRead, Table.lookup_modify]
    split
    · next hkey => rw [Option.isSome_map, hkey]
    · rfl

theorem sameReferences_readUnreadMail (db : Database) (recipientId : SessionId)
    (readAt : DateTime) :
    SameReferences db (db.readUnreadMail recipientId readAt false).2 := by
  rw [readUnreadMail_eq, Database.commitRead]
  generalize (db.fetchUnread recipientId).map Mail.id = marked
  induction marked generalizing db with
  | nil => exact .refl db
  | cons id marked ih => exact (sameReferences_updateRead db readAt id recipientId).trans (ih _)

end SameReferences
/-! ## What a request holds -/

namespace StoreRequest

/-- The sessions a request has found, in a call that is over, and goes on to write for. -/
def found : StoreRequest → List SessionId
  | .mutate rest (.set _) => rest
  | .replay _ recipientIds => recipientIds
  | .check _ recipientIds => recipientIds
  | .insert _ recipientIds => recipientIds
  | _ => []

/-- The namespace a spawn has found and commits its session into. -/
def entering : StoreRequest → Option String
  | .commitIntent _ session _ => some session.namespaceSlug
  | _ => none

/-- The namespace a request empties, from the listing of its sessions to the removal of its
entry. -/
def emptying : StoreRequest → Option String
  | .deleting slug _ _ => some slug
  | .removeEntry slug => some slug
  | _ => none

/-- The request is inside the transaction that deletes the sessions of a namespace. -/
def deletion : StoreRequest → Option Deleted
  | .deleting _ _ deleted => some deleted
  | _ => none

/-- The sessions the next insert of a mail delivers to. -/
def recipients : StoreRequest → List SessionId
  | .insert _ recipientIds => recipientIds
  | .receipts _ (item :: _) => (receiptTo item).toList
  | _ => []

theorem deletion_of_not_emptying {request : StoreRequest} (h : request.emptying = none) :
    request.deletion = none := by
  cases request <;> first | rfl | cases h

end StoreRequest

/-- What a request goes on with was in its hands, or it has just found it in the store. -/
structure Finds (db : Database) (request request' : StoreRequest) : Prop where
  found : ∀ id ∈ request'.found, id ∈ request.found ∨ db.sessions.contains id = true
  entering : ∀ slug, request'.entering = some slug → db.namespaceExists slug = true
  emptying : request'.emptying = none

/-- A request that goes on with nothing in its hands. -/
theorem Finds.nothing {db : Database} {request request' : StoreRequest}
    (hfound : request'.found = []) (hentering : request'.entering = none)
    (hemptying : request'.emptying = none) : Finds db request request' where
  found := by
    intro id hid
    rw [hfound] at hid
    cases hid
  entering := by
    intro slug hslug
    rw [hentering] at hslug
    cases hslug
  emptying := hemptying

/-- A request that goes on with sessions. -/
theorem Finds.sessions {db : Database} {request request' : StoreRequest}
    (hfound : ∀ id ∈ request'.found, id ∈ request.found ∨ db.sessions.contains id = true)
    (hentering : request'.entering = none) (hemptying : request'.emptying = none) :
    Finds db request request' where
  found := hfound
  entering := by
    intro slug hslug
    rw [hentering] at hslug
    cases hslug
  emptying := hemptying

/-! ## What a step can do -/

/-- The steps of a request, with what they write. -/
inductive StoreMoves (db : Database) :
    StoreRequest → StoreChoice → StoreRequest → Database → Prop where
  | same {request request' : StoreRequest} {choice : StoreChoice} {db' : Database}
      (hsame : SameReferences db db') (hfinds : Finds db request request') :
      StoreMoves db request choice request' db'
  | beginDeletion {slug : String} {ids : List SessionId}
      (hlisted : ∀ id, db.InNamespace slug id → id ∈ ids) :
      StoreMoves db (.listDeleted slug) .goOn (.deleting slug (deleteStatements ids) .none) db
  | deleteRows {slug : String} {statement : DeleteStatement} {rest : List DeleteStatement}
      {deleted : Deleted} :
      StoreMoves db (.deleting slug (statement :: rest) deleted) .goOn
        (.deleting slug rest (deleted.statement slug db statement)) db
  | commitDeletion {slug : String} {deleted : Deleted} :
      StoreMoves db (.deleting slug [] deleted) .goOn (.removeEntry slug) (deleted.commit db)
  | commitIntent {intent : PendingSpawnIntent} {session : Session} {lifecycle : Lifecycle}
      {now : DateTime} {db' : Database}
      (h : db.commitSpawnIntent intent.sessionId session lifecycle now = .ok db') :
      StoreMoves db (.commitIntent intent session lifecycle) (.timed now) .ended db'
  | mutate {id : SessionId} {rest : List SessionId} {mutation : LabelMutation} :
      StoreMoves db (.mutate (id :: rest) mutation) .goOn (.mutate rest mutation)
        (mutation.apply db id)
  | insertMail {request request' : StoreRequest} {mail : Mail} {recipientIds : List SessionId}
      {outcome : MailWriteOutcome} {db' : Database} (hnew : request.newMessage = some mail.id)
      (hinsert : db.insertMailForRecipients mail recipientIds = .ok (outcome, db'))
      (hrecipients : request.recipients = recipientIds) (hfinds : Finds db request request') :
      StoreMoves db request .goOn request' db'
  | createNamespace {slug : String} {createdAt : DateTime} :
      StoreMoves db (.createNamespace slug createdAt) .goOn .ended
        { db with namespaces := db.namespaces.insert slug createdAt }
  | removeEntry {slug : String} :
      StoreMoves db (.removeEntry slug) .goOn .ended (db.deleteNamespace slug)

section Moves

variable {limits : MailSafetyConfig} {db db' : Database}

/-- The sessions a query lists are stored. -/
theorem contains_of_listed {selector : Selector} {sessions : List Session}
    (h : db.listSessionsBySelector selector = .ok sessions) :
    ∀ session ∈ sessions, db.sessions.contains session.id = true := by
  intro session hsession
  obtain ⟨row, hrow, -⟩ := decodes_of_listSessionsBySelector h session hsession
  exact Table.contains_iff.mpr ⟨row, hrow⟩

theorem listed_eq_some {selector : Selector} {ids : List SessionId}
    (h : StoreRequest.listed db selector = some ids) :
    ∃ sessions, db.listSessionsBySelector selector = .ok sessions ∧
      ids = sessions.map fun session => session.id := by
  unfold StoreRequest.listed at h
  split at h
  · next sessions hsessions =>
      cases h
      exact ⟨sessions, hsessions, rfl⟩
  · cases h

theorem contains_of_mem_listed {selector : Selector} {ids : List SessionId}
    (h : StoreRequest.listed db selector = some ids) :
    ∀ id ∈ ids, db.sessions.contains id = true := by
  obtain ⟨sessions, hsessions, rfl⟩ := listed_eq_some h
  intro id hid
  obtain ⟨session, hsession, rfl⟩ := List.mem_map.mp hid
  exact contains_of_listed hsessions session hsession

/-- The query by namespace lists every session in it. -/
theorem mem_listed_of_inNamespace {slug : String} {ids : List SessionId}
    (h : StoreRequest.listed db (.inNamespace slug) = some ids) {id : SessionId}
    (hid : db.InNamespace slug id) : id ∈ ids := by
  obtain ⟨sessions, hsessions, rfl⟩ := listed_eq_some h
  exact (Database.mem_ids_listed_iff hsessions id).mpr (Database.mem_sessionIdsInNamespace.mpr hid)

/-- The recipients of a mail are listed sessions. -/
theorem contains_of_prepared {context : RequestContext} {request : MailSendRequest}
    {sessions : List Session} {sender : SenderRef}
    (h : prepareSend db context request = .ok (sessions, sender)) {authorized : SessionId → Bool}
    {deliverable : List Session}
    (hdeliverable : deliverableSessions sessions authorized = deliverable) :
    ∀ id ∈ deliverable.map fun session => session.id, db.sessions.contains id = true := by
  subst hdeliverable
  obtain ⟨-, -, hresolved, -⟩ := prepareSend_eq_ok h
  intro id hid
  obtain ⟨session, hsession, rfl⟩ := List.mem_map.mp hid
  have hmem := (List.mem_filter.mp hsession).1
  exact contains_of_listed (listed_resolveSelector hresolved).1 session hmem

theorem mem_of_mem_found_mutate {ids : List SessionId} {mutation : LabelMutation} {id : SessionId}
    (h : id ∈ (StoreRequest.mutate ids mutation).found) : id ∈ ids := by
  cases mutation with
  | set label => exact h
  | remove key => cases h

theorem mem_found_mutate_cons {first : SessionId} {rest : List SessionId}
    {mutation : LabelMutation} {id : SessionId}
    (h : id ∈ (StoreRequest.mutate rest mutation).found) :
    id ∈ (StoreRequest.mutate (first :: rest) mutation).found := by
  cases mutation with
  | set label => exact List.mem_cons_of_mem _ h
  | remove key => cases h

theorem sameReferences_beginSpawnIntent {intent : PendingSpawnIntent}
    (h : db.beginSpawnIntent intent = .ok db') : SameReferences db db' := by
  obtain ⟨-, -, rfl⟩ := Database.beginSpawnIntent_eq_ok h
  exact ⟨rfl, rfl, rfl, fun _ => rfl, fun _ => rfl⟩

theorem sameReferences_abortSpawnIntent (db : Database) (id : SessionId) (reason : AbortReason)
    (now : DateTime) : SameReferences db (db.abortSpawnIntent id reason now) :=
  ⟨rfl, rfl, rfl, fun _ => rfl, fun _ => rfl⟩

theorem storeMoves_of_next {request request' : StoreRequest} {choice : StoreChoice}
    (h : request.next limits db choice = some (request', db')) :
    StoreMoves db request choice request' db' := by
  unfold StoreRequest.next at h
  split at h
  · cases h
  · split at h <;> cases h <;> exact .same (.refl db) (.nothing rfl rfl rfl)
  · split at h
    · next hbegin =>
        cases h
        exact .same (sameReferences_beginSpawnIntent hbegin) (.nothing rfl rfl rfl)
    · cases h
      exact .same (.refl db) (.nothing rfl rfl rfl)
  · split at h <;> cases h <;> exact .same (.refl db) (.nothing rfl rfl rfl)
  · cases h
    exact .same (.refl db) (.nothing rfl rfl rfl)
  · split at h
    · next hexists =>
        cases h
        refine .same (.refl db) ⟨fun id hid => absurd hid List.not_mem_nil, ?_, rfl⟩
        rintro slug ⟨rfl⟩
        exact hexists
    · cases h
      exact .same (.refl db) (.nothing rfl rfl rfl)
  · split at h
    · next hcommit =>
        cases h
        exact .commitIntent hcommit
    · cases h
      exact .same (.refl db) (.nothing rfl rfl rfl)
  · cases h
    exact .same (sameReferences_abortSpawnIntent db _ _ _) (.nothing rfl rfl rfl)
  -- `label`
  · split at h
    · next ids hlisted =>
        cases h
        refine .same (.refl db) (.sessions (fun id hid => .inr ?_) rfl rfl)
        exact contains_of_mem_listed hlisted id (mem_of_mem_found_mutate hid)
    · cases h
      exact .same (.refl db) (.nothing rfl rfl rfl)
  · cases h
    exact .mutate
  · cases h
    exact .same (.refl db) (.sessions (fun id hid => .inl (mem_found_mutate_cons hid)) rfl rfl)
  -- `mail_send`
  · split at h
    · cases h
      exact .same (.refl db) (.nothing rfl rfl rfl)
    · next sessions sender hprepared =>
        split at h
        · cases h
          exact .same (.refl db) (.nothing rfl rfl rfl)
        · next first rest hdeliverable =>
            cases h
            have hstored := contains_of_prepared hprepared hdeliverable
            exact .same (.refl db) (.sessions (fun id hid => .inr (hstored id hid)) rfl rfl)
  · split at h
    · cases h
      exact .same (.refl db) (.sessions (fun id hid => .inl hid) rfl rfl)
    · cases h
      exact .same (.refl db) (.nothing rfl rfl rfl)
    · cases h
      exact .same (.refl db) (.nothing rfl rfl rfl)
  · split at h
    · cases h
      exact .same (.refl db) (.sessions (fun id hid => .inl hid) rfl rfl)
    · cases h
      exact .same (.refl db) (.nothing rfl rfl rfl)
  · split at h
    · next hinsert =>
        cases h
        exact .insertMail rfl hinsert rfl (.nothing rfl rfl rfl)
    · cases h
      exact .same (.refl db) (.nothing rfl rfl rfl)
  -- `mail_read`
  · split at h
    · cases h
      exact .same (.refl db) (.nothing rfl rfl rfl)
    · split at h <;> cases h <;> exact .same (.refl db) (.nothing rfl rfl rfl)
  · cases h
    exact .same (sameReferences_readUnreadMail db _ _) (.nothing rfl rfl rfl)
  · split at h
    · cases h
      exact .same (.refl db) (.nothing rfl rfl rfl)
    · next sender hsender =>
        split at h
        · cases h
          exact .same (.refl db) (.nothing rfl rfl rfl)
        · split at h
          · next hinsert =>
              cases h
              refine .insertMail ?_ hinsert ?_ (.nothing rfl rfl rfl)
              · rw [StoreRequest.newMessage, hsender]
                rfl
              · rw [StoreRequest.recipients, hsender]
                rfl
          · cases h
            exact .same (.refl db) (.nothing rfl rfl rfl)
  -- `delete`
  · split at h <;> cases h <;> exact .same (.refl db) (.nothing rfl rfl rfl)
  · cases h
    exact .same (sameReferences_persistChildExit db _ _) (.nothing rfl rfl rfl)
  · cases h
    exact .same (.refl db) (.nothing rfl rfl rfl)
  -- namespaces
  · cases h
    exact .createNamespace
  · split at h
    · cases h
      exact .same (.refl db) (.nothing rfl rfl rfl)
    · split at h <;> cases h <;> exact .same (.refl db) (.nothing rfl rfl rfl)
  · split at h <;> cases h <;> exact .same (.refl db) (.nothing rfl rfl rfl)
  · cases h
    exact .same (sameReferences_persistChildExit db _ _) (.nothing rfl rfl rfl)
  · cases h
    exact .same (.refl db) (.nothing rfl rfl rfl)
  · cases h
    exact .same (.refl db) (.nothing rfl rfl rfl)
  · cases h
    exact .same (.refl db) (.nothing rfl rfl rfl)
  · split at h
    · cases h
      exact .same (.refl db) (.nothing rfl rfl rfl)
    · split at h <;> cases h <;> exact .same (.refl db) (.nothing rfl rfl rfl)
  · split at h
    · next ids hlisted =>
        cases h
        exact .beginDeletion fun id hid => mem_listed_of_inNamespace hlisted hid
    · cases h
      exact .same (.refl db) (.nothing rfl rfl rfl)
  · cases h
    exact .deleteRows
  · cases h
    exact .commitDeletion
  · cases h
    exact .removeEntry
  -- calls that fail, and loops that are done
  · cases h
    exact .same (.refl db) (.nothing rfl rfl rfl)
  · cases h
    exact .same (.refl db) (.nothing rfl rfl rfl)
  · cases h
    exact .same (.refl db) (.nothing rfl rfl rfl)
  · cases h
    exact .same (.refl db) (.nothing rfl rfl rfl)
  · cases h

end Moves
end LittleOrgans.Session
