import LittleOrgans.Handler.Policy
import LittleOrgans.Session.StoreMoves
import LittleOrgans.Store.NamespaceDeletion

/-!
# Where the rows come from

The store of the daemon next to its audit log. `Sound` says which rows have which decisions
behind them: every stored intent and session an allowed spawn, every delivery an allowed send
or, for a receipt of the daemon, an opened mailbox; that a session is what its intent has
drafted; and that every decision on record is the one of the rule.

Most writes add nothing that needs a decision (`Shrinks`). The three that do are the insert of
an intent, of a session and of a message. Audit rows and intents are never removed (`Extends`).
-/

set_option autoImplicit false

namespace LittleOrgans.Handler

open LittleOrgans.Core
open LittleOrgans.Library
open LittleOrgans.Store
open LittleOrgans.Identity
open LittleOrgans.Session (SameReferences sameReferences_markSessionTerminated
  sameReferences_recordTranscriptPath sameReferences_readUnreadMail)

/-! ## What is on record -/

/-- The audit log has a row that allows this. -/
def Decided (s : DaemonStore) (principal : Principal) (action : Action) (resource : ResourceSpec) :
    Prop :=
  ∃ row ∈ s.audit, row.decision = .allow ∧ row.principal = principal ∧ row.action = action ∧
    row.resource = resource

/-- Somebody was allowed to spawn the session. -/
def SpawnDecided (s : DaemonStore) (id : SessionId) : Prop :=
  ∃ principal resource, resource.sessionId = some id ∧ Decided s principal .spawn resource

/-- There is an intent with this draft. -/
def Drafted (s : DaemonStore) (draft : SessionDraft) : Prop :=
  ∃ row, s.db.spawnIntents.lookup draft.id = some row ∧ row.sessionDraft = draft

def OnRecord (s : DaemonStore) : Grant → Prop
  | .allowed principal action resource => Decided s principal action resource
  | .spawned id => SpawnDecided s id
  | .drafted draft => Drafted s draft

/-- The session was allowed, and is what its intent has drafted. -/
def SpawnedFrom (s : DaemonStore) (id : SessionId) (origin : SessionOrigin) : Prop :=
  SpawnDecided s id ∧ ∃ draft, Drafted s draft ∧ draft.id = id ∧ origin = draft.origin

/-- The decision behind a message to this recipient. -/
def SendDecided (config : DaemonConfig) (s : DaemonStore) (recipientId : SessionId) :
    SenderRef → Prop
  | .system => ∃ principal id, Decided s principal .mailRead (.session id)
  | .session _ => ∃ principal, Decided s principal .mailSend (.session recipientId)
  | .operator text => ∃ principal, config.principalText principal = text ∧
      Decided s principal .mailSend (.session recipientId)

/-- Every row has its decision. -/
structure Sound (config : DaemonConfig) (s : DaemonStore) : Prop where
  honest : ∀ row ∈ s.audit,
    row.decision = AuditDecision.evaluateLocal row.principal config.localUid
  intents : ∀ id row, s.db.spawnIntents.lookup id = some row →
    SpawnDecided s id ∧ row.spawnRequest.sessionId = id ∧ row.sessionDraft.id = id
  sessions : ∀ id row, s.db.sessions.lookup id = some row → SpawnedFrom s id row.origin
  deliveries : ∀ key row, s.db.deliveries.lookup key = some row →
    ∃ message, s.db.messages.lookup key.1 = some message ∧
      SendDecided config s key.2 message.sender

variable {config : DaemonConfig} {s s' : DaemonStore}

/-- Every intent is still there, with its draft. -/
def KeepsDrafts (db db' : Database) : Prop :=
  ∀ id row, db.spawnIntents.lookup id = some row →
    ∃ row', db'.spawnIntents.lookup id = some row' ∧ row'.sessionDraft = row.sessionDraft

theorem KeepsDrafts.of_eq {db db' : Database} (h : db'.spawnIntents = db.spawnIntents) :
    KeepsDrafts db db' := fun _ row hrow => ⟨row, h ▸ hrow, rfl⟩

/-- The audit log has grown, and no intent is lost. -/
structure Extends (s s' : DaemonStore) : Prop where
  audit : ∃ rows, s'.audit = s.audit ++ rows
  drafts : KeepsDrafts s.db s'.db

theorem Extends.of_keeps (haudit : s'.audit = s.audit) (hdrafts : KeepsDrafts s.db s'.db) :
    Extends s s' := ⟨⟨[], by rw [haudit, List.append_nil]⟩, hdrafts⟩

theorem Extends.of_eq (haudit : s'.audit = s.audit)
    (hintents : s'.db.spawnIntents = s.db.spawnIntents) : Extends s s' :=
  .of_keeps haudit (.of_eq hintents)

theorem Extends.refl (s : DaemonStore) : Extends s s := .of_eq rfl rfl

theorem Extends.record (s : DaemonStore) (row : AuditRow) : Extends s (s.record row) :=
  ⟨⟨[row], rfl⟩, .of_eq rfl⟩

theorem Decided.mono (h : Extends s s') {principal : Principal} {action : Action}
    {resource : ResourceSpec} (hdecided : Decided s principal action resource) :
    Decided s' principal action resource := by
  obtain ⟨rows, hrows⟩ := h.audit
  obtain ⟨row, hrow, hrest⟩ := hdecided
  exact ⟨row, hrows ▸ List.mem_append_left rows hrow, hrest⟩

theorem SpawnDecided.mono (h : Extends s s') {id : SessionId} (hspawn : SpawnDecided s id) :
    SpawnDecided s' id := by
  obtain ⟨principal, resource, hid, hdecided⟩ := hspawn
  exact ⟨principal, resource, hid, hdecided.mono h⟩

theorem Drafted.mono (h : Extends s s') {draft : SessionDraft} (hdrafted : Drafted s draft) :
    Drafted s' draft := by
  obtain ⟨row, hrow, hdraft⟩ := hdrafted
  obtain ⟨row', hrow', hdraft'⟩ := h.drafts draft.id row hrow
  exact ⟨row', hrow', hdraft'.trans hdraft⟩

theorem SpawnedFrom.mono (h : Extends s s') {id : SessionId} {origin : SessionOrigin}
    (hspawned : SpawnedFrom s id origin) : SpawnedFrom s' id origin := by
  obtain ⟨hspawn, draft, hdrafted, hrest⟩ := hspawned
  exact ⟨hspawn.mono h, draft, hdrafted.mono h, hrest⟩

theorem OnRecord.mono (h : Extends s s') {g : Grant} (hg : OnRecord s g) : OnRecord s' g := by
  cases g with
  | allowed principal action resource => exact Decided.mono h hg
  | spawned id => exact SpawnDecided.mono h hg
  | drafted draft => exact Drafted.mono h hg

theorem SendDecided.mono (h : Extends s s') {recipientId : SessionId} {sender : SenderRef}
    (hsend : SendDecided config s recipientId sender) :
    SendDecided config s' recipientId sender := by
  cases sender with
  | system =>
      obtain ⟨principal, id, hdecided⟩ := hsend
      exact ⟨principal, id, hdecided.mono h⟩
  | session id =>
      obtain ⟨principal, hdecided⟩ := hsend
      exact ⟨principal, hdecided.mono h⟩
  | operator text =>
      obtain ⟨principal, htext, hdecided⟩ := hsend
      exact ⟨principal, htext, hdecided.mono h⟩

/-! ## Writes that need no decision -/

/-- Nothing is there that was not there: sessions keep what they were drafted with, deliveries
keep their messages, and intents stay. -/
structure Shrinks (db db' : Database) : Prop where
  drafts : KeepsDrafts db db'
  intents : ∀ id row', db'.spawnIntents.lookup id = some row' →
    ∃ row, db.spawnIntents.lookup id = some row ∧ row'.spawnRequest = row.spawnRequest ∧
      row'.sessionDraft = row.sessionDraft
  sessions : ∀ id row', db'.sessions.lookup id = some row' →
    ∃ row, db.sessions.lookup id = some row ∧ row'.origin = row.origin
  deliveries : ∀ key row', db'.deliveries.lookup key = some row' →
    (∃ row, db.deliveries.lookup key = some row) ∧
      db'.messages.lookup key.1 = db.messages.lookup key.1

section Shrinks

variable {db db' db'' : Database}

theorem Shrinks.refl (db : Database) : Shrinks db db where
  drafts := .of_eq rfl
  intents _ row h := ⟨row, h, rfl, rfl⟩
  sessions _ row h := ⟨row, h, rfl⟩
  deliveries _ row h := ⟨⟨row, h⟩, rfl⟩

theorem Shrinks.trans (h : Shrinks db db') (h' : Shrinks db' db'') : Shrinks db db'' where
  drafts id row hrow := by
    obtain ⟨row', hrow', hdraft⟩ := h.drafts id row hrow
    obtain ⟨row'', hrow'', hdraft'⟩ := h'.drafts id row' hrow'
    exact ⟨row'', hrow'', hdraft'.trans hdraft⟩
  intents id row'' hrow := by
    obtain ⟨row', hrow', hrequest', hdraft'⟩ := h'.intents id row'' hrow
    obtain ⟨row, hrow, hrequest, hdraft⟩ := h.intents id row' hrow'
    exact ⟨row, hrow, hrequest'.trans hrequest, hdraft'.trans hdraft⟩
  sessions id row'' hrow := by
    obtain ⟨row', hrow', horigin'⟩ := h'.sessions id row'' hrow
    obtain ⟨row, hrow, horigin⟩ := h.sessions id row' hrow'
    exact ⟨row, hrow, horigin'.trans horigin⟩
  deliveries key row'' hrow := by
    obtain ⟨⟨row', hrow'⟩, hmessage'⟩ := h'.deliveries key row'' hrow
    obtain ⟨hold, hmessage⟩ := h.deliveries key row' hrow'
    exact ⟨hold, hmessage'.trans hmessage⟩

/-- A store with the same intents, sessions, deliveries and messages. -/
theorem Shrinks.of_eq (hintents : db'.spawnIntents = db.spawnIntents)
    (hsessions : db'.sessions = db.sessions) (hdeliveries : db'.deliveries = db.deliveries)
    (hmessages : db'.messages = db.messages) : Shrinks db db' where
  drafts := .of_eq hintents
  intents id row h := ⟨row, hintents ▸ h, rfl, rfl⟩
  sessions id row h := ⟨row, hsessions ▸ h, rfl⟩
  deliveries key row h := ⟨⟨row, hdeliveries ▸ h⟩, by rw [hmessages]⟩

theorem Shrinks.of_sameReferences (h : SameReferences db db')
    (hintents : db'.spawnIntents = db.spawnIntents) (hsessions : db'.sessions = db.sessions) :
    Shrinks db db' where
  drafts := .of_eq hintents
  intents id row hrow := ⟨row, hintents ▸ hrow, rfl, rfl⟩
  sessions id row hrow := ⟨row, hsessions ▸ hrow, rfl⟩
  deliveries key row hrow := ⟨h.delivery hrow, by rw [h.messages]⟩

theorem shrinks_updateSpawnIntentStatus (db : Database) (id : SessionId) (nowMs : Int)
    (update : SpawnIntentStatusUpdate) :
    Shrinks db (db.updateSpawnIntentStatus id nowMs update) where
  drafts id' row hrow := by
    rw [Database.updateSpawnIntentStatus, Table.lookup_modify]
    split
    · next hid =>
        subst hid
        exact ⟨row.setStatus nowMs update, by rw [hrow, Option.map_some], rfl⟩
    · exact ⟨row, hrow, rfl⟩
  intents id' row' hrow := by
    rw [Database.updateSpawnIntentStatus, Table.lookup_modify] at hrow
    split at hrow
    · next hid =>
        subst hid
        obtain ⟨row, hold, rfl⟩ := Option.map_eq_some_iff.mp hrow
        exact ⟨row, hold, rfl, rfl⟩
    · exact ⟨row', hrow, rfl, rfl⟩
  sessions _ row h := ⟨row, h, rfl⟩
  deliveries _ row h := ⟨⟨row, h⟩, rfl⟩

/-- An update of one session that leaves what it was drafted with. -/
theorem shrinks_modifySession (db : Database) (id : SessionId) {f : SessionRow → SessionRow}
    (hf : ∀ row, (f row).origin = row.origin) :
    Shrinks db { db with sessions := db.sessions.modify id f } where
  drafts := .of_eq rfl
  intents _ row h := ⟨row, h, rfl, rfl⟩
  sessions id' row' hrow := by
    rw [Table.lookup_modify] at hrow
    split at hrow
    · next hid =>
        subst hid
        obtain ⟨row, hold, rfl⟩ := Option.map_eq_some_iff.mp hrow
        exact ⟨row, hold, hf row⟩
    · exact ⟨row', hrow, rfl⟩
  deliveries _ row h := ⟨⟨row, h⟩, rfl⟩

theorem shrinks_markUnreadUndeliverable (db : Database) (id : SessionId) :
    Shrinks db (db.markUnreadUndeliverable id) where
  drafts := .of_eq rfl
  intents _ row h := ⟨row, h, rfl, rfl⟩
  sessions _ row h := ⟨row, h, rfl⟩
  deliveries key row' hrow := by
    rw [Database.markUnreadUndeliverable, Table.lookup_mapRows] at hrow
    obtain ⟨row, hold, -⟩ := Option.map_eq_some_iff.mp hrow
    exact ⟨⟨row, hold⟩, rfl⟩

theorem shrinks_markSessionLost (db : Database) (id : SessionId) (evidence : LostEvidence)
    (now : DateTime) : Shrinks db (db.markSessionLost id evidence now) :=
  (shrinks_modifySession db id (f := SessionRow.markLost evidence now) fun _ => rfl).trans
    (shrinks_markUnreadUndeliverable _ id)

theorem shrinks_markSessionTerminated (db : Database) (id : SessionId) (exitCode : Option Int)
    (now : DateTime) : Shrinks db (db.markSessionTerminated id exitCode now) :=
  (shrinks_modifySession db id (f := SessionRow.markTerminated exitCode now) fun _ => rfl).trans
    (shrinks_markUnreadUndeliverable _ id)

theorem shrinks_readUnreadMail (db : Database) (id : SessionId) (readAt : DateTime) (peek : Bool) :
    Shrinks db (db.readUnreadMail id readAt peek).2 := by
  cases peek with
  | true => exact .refl db
  | false =>
      have hintents : ∀ (marked : List MessageId) (db : Database),
          (db.commitRead id readAt marked).spawnIntents = db.spawnIntents := by
        intro marked
        induction marked with
        | nil => exact fun db => rfl
        | cons messageId marked ih => exact fun db => ih (db.updateRead readAt messageId id)
      have hsame := sameReferences_readUnreadMail db id readAt
      rw [readUnreadMail_eq] at hsame ⊢
      exact .of_sameReferences hsame (hintents _ db) (sessions_commitRead _ _ _ _)

/-- By induction on the events of the batch. -/
theorem shrinks_applyRuntimeEventsAndCursor (db : Database) (events : List RuntimeEvent)
    (nextCursor : EventCursor) (now : DateTime) :
    Shrinks db (db.applyRuntimeEventsAndCursor events nextCursor now) := by
  have hfold : Shrinks db (events.foldl (fun db event => db.applyRuntimeEvent event now) db) := by
    induction events generalizing db with
    | nil => exact .refl db
    | cons event events ih =>
        refine (shrinks_modifySession db event.sessionId ?_).trans (ih _)
        exact fun row => row.origin_applyEvent event now
  exact hfold.trans (.of_eq rfl rfl rfl rfl)

theorem shrinks_editLabel (db : Database) (id : SessionId) (mutation : LabelMutation) :
    Shrinks db (db.editLabel id mutation) := by
  cases mutation with
  | set label => exact .of_eq rfl rfl rfl rfl
  | remove key => exact .of_eq rfl rfl rfl rfl

theorem shrinks_gcSessionSenderMessages (db : Database) (id : SessionId) :
    Shrinks db (db.gcSessionSenderMessages id) where
  drafts := .of_eq rfl
  intents _ row h := ⟨row, h, rfl, rfl⟩
  sessions _ row h := ⟨row, h, rfl⟩
  deliveries key row h := by
    refine ⟨⟨row, h⟩, ?_⟩
    -- a message with a delivery is kept
    have hmem : (key, row) ∈ db.deliveries.rows := Table.mem_rows_iff.mpr h
    rw [Database.gcSessionSenderMessages, Table.lookup_filterRows]
    cases hmessage : db.messages.lookup key.1 with
    | none => rfl
    | some message =>
        rw [Option.filter_some, if_pos]
        rw [decide_eq_true_iff]
        exact fun hgone => hgone.2 (key, row) hmem rfl

/-- By induction on the sessions that are deleted. -/
theorem shrinks_deleteSessionsByNamespace (db : Database) (slug : String) :
    Shrinks db (db.deleteSessionsByNamespace slug) := by
  have hgc : ∀ (ids : List SessionId) (db : Database),
      Shrinks db (ids.foldl Database.gcSessionSenderMessages db) := by
    intro ids
    induction ids with
    | nil => exact fun db => .refl db
    | cons id ids ih => exact fun db => (shrinks_gcSessionSenderMessages db id).trans (ih _)
  have hrows : Shrinks db { db with
      labels := db.labels.filterRows fun key _ => key.1 ∉ db.sessionIdsInNamespace slug
      deliveries := db.deliveries.filterRows fun key _ =>
        key.2 ∉ db.sessionIdsInNamespace slug } :=
    { drafts := .of_eq rfl
      intents := fun _ row h => ⟨row, h, rfl, rfl⟩
      sessions := fun _ row h => ⟨row, h, rfl⟩
      deliveries := fun key row h => by
        rw [Table.lookup_filterRows] at h
        exact ⟨⟨row, (Option.filter_eq_some_iff.mp h).1⟩, rfl⟩ }
  refine (hrows.trans (hgc (db.sessionIdsInNamespace slug) _)).trans ?_
  exact {
    drafts := .of_eq rfl
    intents := fun _ row h => ⟨row, h, rfl, rfl⟩
    sessions := fun id row h => by
      have hkept : (Table.filterRows _ _).lookup id = some row := h
      rw [Table.lookup_filterRows] at hkept
      exact ⟨row, (Option.filter_eq_some_iff.mp hkept).1, rfl⟩
    deliveries := fun _ row h => ⟨⟨row, h⟩, rfl⟩ }

end Shrinks

/-! ## What keeps soundness -/

theorem Sound.of_shrinks (h : Sound config s) (haudit : s'.audit = s.audit)
    (hdb : Shrinks s.db s'.db) : Sound config s' where
  honest row hrow := h.honest row (haudit ▸ hrow)
  intents id row' hrow := by
    obtain ⟨row, hold, hrequest, hdraft⟩ := hdb.intents id row' hrow
    obtain ⟨hspawn, hid, hdraftId⟩ := h.intents id row hold
    rw [hrequest, hdraft]
    exact ⟨hspawn.mono (.of_keeps haudit hdb.drafts), hid, hdraftId⟩
  sessions id row' hrow := by
    obtain ⟨row, hold, horigin⟩ := hdb.sessions id row' hrow
    rw [horigin]
    exact (h.sessions id row hold).mono (.of_keeps haudit hdb.drafts)
  deliveries key row' hrow := by
    obtain ⟨⟨row, hold⟩, hsame⟩ := hdb.deliveries key row' hrow
    obtain ⟨message, hmessage, hsend⟩ := h.deliveries key row hold
    exact ⟨message, hsame.trans hmessage, hsend.mono (.of_keeps haudit hdb.drafts)⟩

theorem Sound.withDb (h : Sound config s) {db : Database} (hdb : Shrinks s.db db) :
    Sound config (s.withDb db) := h.of_shrinks rfl hdb

theorem Sound.withLifecycles (h : Sound config s)
    (lifecycles : Option (Table SessionId LifecycleRow)) :
    Sound config (s.withLifecycles lifecycles) := by
  cases lifecycles with
  | none => exact h
  | some lifecycles => exact h.withDb (.of_eq rfl rfl rfl rfl)

theorem Sound.record (h : Sound config s) {row : AuditRow}
    (hrow : row.decision = AuditDecision.evaluateLocal row.principal config.localUid) :
    Sound config (s.record row) where
  honest row' hmem := by
    rcases List.mem_append.mp hmem with hold | hnew
    · exact h.honest row' hold
    · rw [List.mem_singleton.mp hnew]
      exact hrow
  intents id row' hlookup := by
    obtain ⟨hspawn, hids⟩ := h.intents id row' hlookup
    exact ⟨hspawn.mono (.record s row), hids⟩
  sessions id row' hlookup := (h.sessions id row' hlookup).mono (.record s row)
  deliveries key row' hlookup := by
    obtain ⟨message, hmessage, hsend⟩ := h.deliveries key row' hlookup
    exact ⟨message, hmessage, hsend.mono (.record s row)⟩

theorem keepsDrafts_insertPendingSpawnIntent {intent : PendingSpawnIntent} {db db' : Database}
    (h : db.insertPendingSpawnIntent intent = .ok db') : KeepsDrafts db db' := by
  rw [Database.insertPendingSpawnIntent] at h
  split at h
  · cases h
  · next habsent =>
      cases h
      have hnone : db.spawnIntents.lookup intent.sessionId = none := by
        simpa [Table.contains] using habsent
      intro id row hrow
      refine ⟨row, ?_, rfl⟩
      refine (Table.lookup_insert hnone (pendingIntentRow intent) id).trans ?_
      rw [if_neg, hrow]
      rintro rfl
      rw [hrow] at hnone
      cases hnone

theorem Sound.insertPendingSpawnIntent (h : Sound config s) {intent : PendingSpawnIntent}
    (hspawn : SpawnDecided s intent.sessionId)
    (hrequest : intent.spawnRequest.sessionId = intent.sessionId)
    (hdraft : intent.sessionDraft.id = intent.sessionId) {db : Database}
    (hinsert : s.db.insertPendingSpawnIntent intent = .ok db) : Sound config (s.withDb db) := by
  have hgrows : Extends s (s.withDb db) :=
    .of_keeps rfl (keepsDrafts_insertPendingSpawnIntent hinsert)
  rw [Database.insertPendingSpawnIntent] at hinsert
  split at hinsert
  · cases hinsert
  · next habsent =>
      cases hinsert
      have hnone : s.db.spawnIntents.lookup intent.sessionId = none := by
        simpa [Table.contains] using habsent
      exact {
        honest := h.honest
        intents := fun id row hrow => by
          have hlookup : (s.db.spawnIntents.insert intent.sessionId
            (pendingIntentRow intent)).lookup id = some row := hrow
          rw [Table.lookup_insert hnone] at hlookup
          split at hlookup
          · next hid =>
              cases hlookup
              rw [hid]
              exact ⟨hspawn, hrequest, hdraft⟩
          · exact h.intents id row hlookup
        sessions := fun id row hrow => (h.sessions id row hrow).mono hgrows
        deliveries := h.deliveries }

theorem Sound.insertSession (h : Sound config s) {session : Session}
    (hspawned : SpawnedFrom s session.id (sessionRow session).origin) {db : Database}
    (hinsert : s.db.insertSession session = .ok db) : Sound config (s.withDb db) := by
  rw [Database.insertSession] at hinsert
  split at hinsert
  · cases hinsert
  · next habsent =>
      cases hinsert
      have hnone : s.db.sessions.lookup session.id = none := by
        simpa [Table.contains] using habsent
      exact {
        honest := h.honest
        intents := h.intents
        sessions := fun id row hrow => by
          have hlookup : (s.db.sessions.insert session.id (sessionRow session)).lookup id =
            some row := hrow
          rw [Table.lookup_insert hnone] at hlookup
          split at hlookup
          · next hid =>
              cases hlookup
              rw [hid]
              exact hspawned
          · exact h.sessions id row hlookup
        deliveries := h.deliveries }

/-- The deliveries of a new message are addressed to its recipients, and no other delivery has
its id. -/
theorem Sound.insertMailForRecipients (h : Sound config s) {mail : Mail}
    {recipientIds : List SessionId}
    (hsend : ∀ id ∈ recipientIds, SendDecided config s id mail.sender)
    {outcome : MailWriteOutcome} {db : Database}
    (hinsert : s.db.insertMailForRecipients mail recipientIds = .ok (outcome, db)) :
    Sound config (s.withDb db) := by
  rcases insertMailForRecipients_cases hinsert with ⟨rfl, -⟩ | hcommits
  · exact h
  · have hstore := hcommits.store
    subst hstore
    exact {
      honest := h.honest
      intents := h.intents
      sessions := h.sessions
      deliveries := fun key row hrow => by
        have hmessages : ∀ id, ((s.db.commitInsert mail recipientIds).messages).lookup id =
            if id = mail.id then some (messageRow mail) else s.db.messages.lookup id :=
          fun id => Table.lookup_insert hcommits.message _ _
        rcases lookup_commitInsert_cases hrow with hold | ⟨hid, hmem, -⟩
        · obtain ⟨message, hmessage, hdecided⟩ := h.deliveries key row hold
          refine ⟨message, ?_, hdecided⟩
          refine (hmessages key.1).trans ?_
          rw [if_neg, hmessage]
          intro hid
          rw [hid, hcommits.message] at hmessage
          cases hmessage
        · refine ⟨messageRow mail, (hmessages key.1).trans (if_pos hid), ?_⟩
          exact hsend key.2 hmem }

end LittleOrgans.Handler
