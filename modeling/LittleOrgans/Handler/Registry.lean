import LittleOrgans.Handler.DaemonActs
import LittleOrgans.Handler.Provenance
import LittleOrgans.Store.MessageLog

/-!
# Mediated operations on the store

The store of the daemon as a registry of grants: no operation loses an audit row, what an
operation is worth is on record behind it, and a permitted operation keeps every row's
decision (`Sound`). A transaction is a mediated program on the same registry, so that its
commit is worth what its body earned. `daemonLedger` puts the machine on top of it.
-/

set_option autoImplicit false

namespace LittleOrgans.Handler

open LittleOrgans.Core
open LittleOrgans.Library
open LittleOrgans.Store
open LittleOrgans.Identity

variable {config : DaemonConfig} {s s' : DaemonStore} {x : Subject} {φ : Set Grant}

/-! ## Grants that are on record -/

theorem MaySpawn.decided (hφ : ∀ g ∈ φ, OnRecord s g) {id : SessionId} (h : MaySpawn φ id x) :
    SpawnDecided s id := by
  cases x with
  | caller principal =>
      obtain ⟨resource, hid, hmem⟩ := h
      exact ⟨principal, resource, hid, hφ _ hmem⟩
  | daemon => exact hφ _ h

theorem SpawnedFrom.of_grants (hφ : ∀ g ∈ φ, OnRecord s g) {session : Session}
    (h : MaySpawn φ session.id x ∧ MayStore φ session) :
    SpawnedFrom s session.id (sessionRow session).origin := by
  obtain ⟨hspawn, draft, hdrafted, hrest⟩ := h
  exact ⟨hspawn.decided hφ, draft, hφ _ hdrafted, hrest⟩

theorem Allowed.decided (hφ : ∀ g ∈ φ, OnRecord s g) {action : Action} {resource : ResourceSpec}
    (h : Allowed x φ action resource) : ∃ principal, Decided s principal action resource := by
  obtain ⟨principal, -, hmem⟩ := h
  exact ⟨principal, hφ _ hmem⟩

theorem MayWrite.decided (hφ : ∀ g ∈ φ, OnRecord s g) {mail : Mail}
    {recipientIds : List SessionId} (h : MayWrite config x φ mail recipientIds) :
    ∀ id ∈ recipientIds, SendDecided config s id mail.sender := by
  intro id hid
  rw [MayWrite] at h
  cases hsender : mail.sender with
  | system =>
      rw [hsender] at h
      obtain ⟨reader, hread⟩ := h
      obtain ⟨principal, hdecided⟩ := hread.decided hφ
      exact ⟨principal, reader, hdecided⟩
  | session senderId =>
      rw [hsender] at h
      exact (h id hid).decided hφ
  | operator text =>
      rw [hsender] at h
      obtain ⟨⟨principal, hx, htext⟩, hrecipients⟩ := h
      obtain ⟨principal', hx', hmem⟩ := hrecipients id hid
      -- both are the principal of the caller
      cases hx.symm.trans hx'
      exact ⟨principal, htext, hφ _ hmem⟩

theorem onRecord_of_rowGrants {row : AuditRow} {g : Grant} (hg : g ∈ rowGrants row) :
    OnRecord (s.record row) g := by
  obtain ⟨hallow, rfl⟩ := hg
  exact ⟨row, List.mem_append_right s.audit (List.mem_singleton_self row), hallow, rfl, rfl, rfl⟩

/-! ## Statements -/

theorem Except.map_eq_ok {ε α β : Type} {f : α → β} {r : Except ε α} {b : β}
    (h : r.map f = .ok b) : ∃ a, r = .ok a ∧ f a = b := by
  cases r with
  | error e => cases h
  | ok a =>
      cases h
      exact ⟨a, rfl, rfl⟩

theorem intents_insertSession {db db' : Database} {session : Session}
    (h : db.insertSession session = .ok db') : db'.spawnIntents = db.spawnIntents := by
  rw [Database.insertSession] at h
  split at h
  · cases h
  · cases h
    rfl

/-- A statement writes an audit row, or the tables. -/
theorem Statement.extends_of_run {now : DateTime} {t : Statement} (h : t.run now s = .ok s') :
    Extends s s' := by
  cases t with
  | recordAudit row =>
      cases h
      exact .record s row
  | insertPendingSpawnIntent intent =>
      obtain ⟨db, hinsert, rfl⟩ := Except.map_eq_ok h
      exact .of_keeps rfl (keepsDrafts_insertPendingSpawnIntent hinsert)
  | insertForking lifecycle =>
      obtain ⟨db, hinsert, rfl⟩ := Except.map_eq_ok h
      obtain ⟨-, -, rfl⟩ := Database.insertForking_eq_ok hinsert
      exact .of_eq rfl rfl
  | insertSession session =>
      obtain ⟨db, hinsert, rfl⟩ := Except.map_eq_ok h
      exact .of_eq rfl (intents_insertSession hinsert)
  | updateLifecycle lifecycle =>
      obtain ⟨db, hupdate, rfl⟩ := Except.map_eq_ok h
      obtain ⟨-, rfl⟩ := Database.updateLifecycle_eq_ok hupdate
      exact .of_eq rfl rfl
  | resolveSpawnIntent id =>
      cases h
      exact .of_keeps rfl (shrinks_updateSpawnIntentStatus _ _ _ _).drafts
  | abortSpawnIntent id reason =>
      cases h
      exact .of_keeps rfl (shrinks_updateSpawnIntentStatus _ _ _ _).drafts
  | deleteLifecycle id =>
      cases h
      exact .of_eq rfl rfl

theorem Statement.sound_of_run {now : DateTime} {t : Statement} (hsound : Sound config s)
    (hφ : ∀ g ∈ φ, OnRecord s g) (hpermitted : t.permitted config x φ)
    (h : t.run now s = .ok s') : Sound config s' := by
  cases t with
  | recordAudit row =>
      cases h
      exact hsound.record hpermitted.2
  | insertPendingSpawnIntent intent =>
      obtain ⟨db, hinsert, rfl⟩ := Except.map_eq_ok h
      obtain ⟨-, hspawn, hrequest, hdraft⟩ := hpermitted
      exact hsound.insertPendingSpawnIntent (hspawn.decided hφ) hrequest hdraft hinsert
  | insertForking lifecycle =>
      obtain ⟨db, hinsert, rfl⟩ := Except.map_eq_ok h
      obtain ⟨-, -, rfl⟩ := Database.insertForking_eq_ok hinsert
      exact hsound.withDb (.of_eq rfl rfl rfl rfl)
  | insertSession session =>
      obtain ⟨db, hinsert, rfl⟩ := Except.map_eq_ok h
      exact hsound.insertSession (SpawnedFrom.of_grants hφ hpermitted) hinsert
  | updateLifecycle lifecycle =>
      obtain ⟨db, hupdate, rfl⟩ := Except.map_eq_ok h
      obtain ⟨-, rfl⟩ := Database.updateLifecycle_eq_ok hupdate
      exact hsound.withDb (.of_eq rfl rfl rfl rfl)
  | resolveSpawnIntent id =>
      cases h
      exact hsound.withDb (shrinks_updateSpawnIntentStatus _ _ _ _)
  | abortSpawnIntent id reason =>
      cases h
      exact hsound.withDb (shrinks_updateSpawnIntentStatus _ _ _ _)
  | deleteLifecycle id =>
      cases h
      exact hsound.withDb (.of_eq rfl rfl rfl rfl)

/-- What an operation of a transaction does when it answers. -/
def TxOp.Effect (now : DateTime) (s s' : DaemonStore) : TxOp → Prop
  | newAuditId => s' = s
  | TxOp.now => s' = s
  | statement t => t.run now s = .ok s'

/-- An operation of a transaction fails without an effect, or answers. -/
theorem TxOp.exec_cases {choice : TxChoice} {o : TxOp} {r : Except Report o.Res}
    (h : TxOp.exec choice o s = some (r, s')) :
    (∃ report, r = .error report) ∧ s' = s ∨
      (∃ a, r = .ok a) ∧ o.Effect choice.now s s' := by
  unfold TxOp.exec at h
  cases hfault : choice.fault with
  | some report =>
      rw [hfault] at h
      cases h
      exact .inl ⟨⟨report, rfl⟩, rfl⟩
  | none =>
      rw [hfault] at h
      cases o with
      | newAuditId =>
          cases h
          exact .inr ⟨⟨_, rfl⟩, rfl⟩
      | now =>
          cases h
          exact .inr ⟨⟨_, rfl⟩, rfl⟩
      | statement t =>
          obtain ⟨found, hrun, hanswer⟩ := Option.map_eq_some_iff.mp h
          cases hanswer
          cases hcase : t.run choice.now s with
          | error error =>
              rw [hcase] at hrun
              cases hrun
          | ok s₁ =>
              rw [hcase] at hrun
              cases hrun
              exact .inr ⟨⟨_, rfl⟩, hcase⟩

theorem TxOp.Effect.extends {now : DateTime} {o : TxOp} (h : o.Effect now s s') : Extends s s' := by
  cases o with
  | newAuditId =>
      cases h
      exact .refl s
  | now =>
      cases h
      exact .refl s
  | statement t => exact Statement.extends_of_run h

theorem TxOp.Effect.sound {now : DateTime} {o : TxOp} (h : o.Effect now s s')
    (hsound : Sound config s) (hφ : ∀ g ∈ φ, OnRecord s g) (hpermitted : o.permitted config x φ) :
    Sound config s' := by
  cases o with
  | newAuditId =>
      cases h
      exact hsound
  | now =>
      cases h
      exact hsound
  | statement t => exact Statement.sound_of_run hsound hφ hpermitted h

/-- An intent that is inserted is there. -/
theorem drafted_insertPendingSpawnIntent {intent : PendingSpawnIntent}
    (hdraft : intent.sessionDraft.id = intent.sessionId) {db : Database}
    (h : s.db.insertPendingSpawnIntent intent = .ok db) :
    Drafted (s.withDb db) intent.sessionDraft := by
  rw [Database.insertPendingSpawnIntent] at h
  split at h
  · cases h
  · next habsent =>
      cases h
      have hnone : s.db.spawnIntents.lookup intent.sessionId = none := by
        simpa [Table.contains] using habsent
      refine ⟨pendingIntentRow intent, ?_, rfl⟩
      rw [hdraft]
      exact (Table.lookup_insert hnone _ _).trans (if_pos rfl)

/-- What an operation is worth is on record behind it. -/
theorem TxOp.Effect.onRecord {now : DateTime} {o : TxOp} (h : o.Effect now s s')
    (hpermitted : o.permitted config x φ) {a : o.Res} {g : Grant} (hg : g ∈ o.earned (.ok a)) :
    OnRecord s' g := by
  cases o with
  | newAuditId => exact hg.elim
  | now => exact hg.elim
  | statement t =>
      cases t with
      | recordAudit row =>
          cases h
          exact onRecord_of_rowGrants hg
      | insertPendingSpawnIntent intent =>
          obtain ⟨db, hinsert, rfl⟩ := Except.map_eq_ok h
          rw [Set.mem_singleton_iff.mp hg]
          exact drafted_insertPendingSpawnIntent hpermitted.2.2.2 hinsert
      | _ => exact hg.elim

theorem TxOp.not_mem_earned_error {o : TxOp} {report : Report} {g : Grant} :
    g ∉ o.earned (.error report) := by
  cases o with
  | newAuditId => exact id
  | now => exact id
  | statement t => cases t with
    | _ => exact id

/-- The statements of a transaction, on the registry of the daemon. -/
def txRegistry (config : DaemonConfig) : Registry (txPolicy config) TxOp.exec where
  holds s _ g := OnRecord s g
  sound := Sound config
  returns _ := trivial
  keeps h hg := by
    rcases TxOp.exec_cases h with ⟨-, rfl⟩ | ⟨-, heffect⟩
    · exact hg
    · exact hg.mono heffect.extends
  records _ _ hpermitted h hg := by
    rcases TxOp.exec_cases h with ⟨⟨report, rfl⟩, -⟩ | ⟨⟨a, rfl⟩, heffect⟩
    · exact absurd hg TxOp.not_mem_earned_error
    · exact heffect.onRecord hpermitted hg
  preserves hsound hφ hpermitted h := by
    rcases TxOp.exec_cases h with ⟨-, rfl⟩ | ⟨-, heffect⟩
    · exact hsound
    · exact heffect.sound hsound hφ hpermitted

/-! ## Calls of the store -/

theorem intents_insertMailForRecipients {db db' : Database} {mail : Mail}
    {recipientIds : List SessionId} {outcome : MailWriteOutcome}
    (h : db.insertMailForRecipients mail recipientIds = .ok (outcome, db')) :
    db'.spawnIntents = db.spawnIntents := by
  rcases insertMailForRecipients_cases h with ⟨rfl, -⟩ | hcommits
  · rfl
  · rw [hcommits.store]
    rfl

theorem toOption_insertMailForRecipients {db : Database} {mail : Mail}
    {recipientIds : List SessionId} {result : MailWriteOutcome × Database}
    (h : (db.insertMailForRecipients mail recipientIds).toOption = some result) :
    db.insertMailForRecipients mail recipientIds = .ok result := by
  cases hcase : db.insertMailForRecipients mail recipientIds with
  | error error =>
      rw [hcase] at h
      cases h
  | ok found =>
      rw [hcase] at h
      cases h
      rfl

/-- A query leaves the store; an update writes an audit row, or the tables. -/
theorem StoreOp.extends_of_run {o : StoreOp} {answer : Option o.Res}
    (h : o.run s = some (answer, s')) : Extends s s' := by
  cases o with
  | recordAudit row =>
      cases h
      exact .record s row
  | createNamespace slug createdAt =>
      obtain ⟨db, hinsert, h⟩ := Option.bind_eq_some_iff.mp h
      cases h
      rw [insertNamespace] at hinsert
      split at hinsert
      · cases hinsert
      · cases hinsert
        exact .of_eq rfl rfl
  | deleteSessionsByNamespace slug =>
      obtain ⟨sessions, -, h⟩ := Option.bind_eq_some_iff.mp h
      cases h
      exact .of_keeps rfl (shrinks_deleteSessionsByNamespace s.db slug).drafts
  | applyLabelMutation id mutation =>
      cases h
      exact .of_keeps rfl (shrinks_editLabel s.db id mutation).drafts
  | readUnreadMail id readAt peek =>
      cases h
      exact .of_keeps rfl (shrinks_readUnreadMail s.db id readAt peek).drafts
  | insertMailForRecipients mail recipientIds =>
      obtain ⟨result, hinsert, h⟩ := Option.bind_eq_some_iff.mp h
      cases h
      exact .of_eq rfl (intents_insertMailForRecipients (toOption_insertMailForRecipients hinsert))
  -- the events of a batch change no intent and no session's origin
  | applyRuntimeEventsAndCursor events nextCursor now =>
      cases h
      exact .of_keeps rfl (shrinks_applyRuntimeEventsAndCursor s.db events nextCursor now).drafts
  -- the rest neither reads nor writes what the trail speaks about
  | _ =>
      cases h
      exact .of_eq rfl rfl

/-- One case for each call that changes a table; the others leave the store. -/
theorem StoreOp.sound_of_run {o : StoreOp} {answer : Option o.Res} (hsound : Sound config s)
    (hφ : ∀ g ∈ φ, OnRecord s g) (hpermitted : o.permitted config x φ)
    (h : o.run s = some (answer, s')) : Sound config s' := by
  cases o with
  | recordAudit row =>
      cases h
      exact hsound.record hpermitted.2
  | createNamespace slug createdAt =>
      -- an entry of the catalogue is nobody's session
      obtain ⟨db, hinsert, h⟩ := Option.bind_eq_some_iff.mp h
      cases h
      rw [insertNamespace] at hinsert
      split at hinsert
      · cases hinsert
      · cases hinsert
        exact hsound.withDb (.of_eq rfl rfl rfl rfl)
  | deleteNamespace slug =>
      cases h
      exact hsound.withDb (.of_eq rfl rfl rfl rfl)
  | deleteSessionsByNamespace slug =>
      obtain ⟨sessions, -, h⟩ := Option.bind_eq_some_iff.mp h
      cases h
      exact hsound.withDb (shrinks_deleteSessionsByNamespace s.db slug)
  | applyLabelMutation id mutation =>
      cases h
      exact hsound.withDb (shrinks_editLabel s.db id mutation)
  | recordTranscriptPath id path now =>
      cases h
      refine hsound.withDb (shrinks_modifySession s.db id ?_)
      exact fun row => row.origin_recordTranscriptPath path now
  | markSessionTerminated id exitCode now =>
      cases h
      exact hsound.withDb (shrinks_markSessionTerminated s.db id exitCode now)
  | markSessionLost id evidence now =>
      cases h
      exact hsound.withDb (shrinks_markSessionLost s.db id evidence now)
  | readUnreadMail id readAt peek =>
      cases h
      exact hsound.withDb (shrinks_readUnreadMail s.db id readAt peek)
  -- the one statement that adds messages, under the grant of their sender
  | insertMailForRecipients mail recipientIds =>
      obtain ⟨⟨outcome, db⟩, hinsert, h⟩ := Option.bind_eq_some_iff.mp h
      cases h
      exact hsound.insertMailForRecipients (MayWrite.decided hφ hpermitted)
        (toOption_insertMailForRecipients hinsert)
  | applyRuntimeEventsAndCursor events nextCursor now =>
      cases h
      exact hsound.withDb (shrinks_applyRuntimeEventsAndCursor s.db events nextCursor now)
  | applyCursor cursor =>
      cases h
      exact hsound.withDb (.of_eq rfl rfl rfl rfl)
  | _ =>
      cases h
      exact hsound

/-- The listed intents are about sessions that somebody was allowed to spawn. -/
theorem onRecord_of_intentGrants (hsound : Sound config s) {g : Grant}
    (hg : g ∈ intentGrants (s.db.listPendingSpawnIntents.map Concurrency.StoreOp.intentOfRow)) :
    OnRecord s g := by
  obtain ⟨intent, hintent, hcase⟩ := hg
  obtain ⟨row, hrow, rfl⟩ := List.mem_map.mp hintent
  have hmem := (List.mem_filter.mp ((List.mem_insertionSort _).mp hrow)).1
  obtain ⟨hspawn, -, hdraft⟩ := hsound.intents row.1 row.2 (Table.mem_rows_iff.mp hmem)
  have hsame : row.2.sessionDraft.id = row.1 := hdraft
  rcases hcase with rfl | rfl | rfl
  · exact hspawn
  · have hdecided : SpawnDecided s row.2.sessionDraft.id := by
      rw [hsame]
      exact hspawn
    exact hdecided
  · have hdrafted : Drafted s row.2.sessionDraft := by
      refine ⟨row.2, ?_, rfl⟩
      rw [hsame]
      exact Table.mem_rows_iff.mp hmem
    exact hdrafted

theorem StoreOp.onRecord_of_run {o : StoreOp} {a : o.Res} (hsound : Sound config s)
    (h : o.run s = some (some a, s')) {g : Grant} (hg : g ∈ o.earned (.ok a)) : OnRecord s' g := by
  cases o with
  | recordAudit row =>
      cases h
      exact onRecord_of_rowGrants hg
  | listPendingSpawnIntents =>
      cases h
      exact onRecord_of_intentGrants hsound hg
  | _ => exact hg.elim

theorem StoreOp.not_mem_earned_error {o : StoreOp} {report : Report} {g : Grant} :
    g ∉ o.earned (.error report) := by
  cases o with
  | _ => exact id

/-! ### What the answers say -/

theorem concernsSession_of_getSession {db : Database} {id : SessionId} {answer : Option Session}
    (h : (db.getSession id).toOption = some answer) : ConcernsSession id (.ok answer) := by
  intro session hanswer
  cases hanswer
  rw [Database.getSession] at h
  cases hrow : db.sessions.lookup id with
  | none =>
      rw [hrow] at h
      cases h
  | some row =>
      rw [hrow] at h
      cases hdecoded : sessionFromRow id row (db.labelsForSession id) with
      | error error =>
          simp [hdecoded, Except.map, Except.toOption] at h
      | ok found =>
          simp only [hdecoded, Except.map, Except.toOption, Option.some.injEq] at h
          subst h
          exact Database.sessionFromRow_id hdecoded

theorem addressedTo_of_loadIdempotentReplay {db : Database} {mail : Mail}
    {recipientIds : List SessionId} {items : List Mail}
    (h : db.loadIdempotentReplay mail recipientIds = .ok (some items)) :
    AddressedTo recipientIds items := by
  obtain ⟨id, row, -, -, -, hload⟩ := loadIdempotentReplay_eq_some h
  obtain ⟨hrecipients, -⟩ := loadMessageDeliveries_eq_ok hload
  intro item hitem
  rw [← hrecipients]
  exact List.mem_map_of_mem hitem

/-- A write reports its recipients, or those of the earlier write, which are the same. -/
theorem addressedTo_of_insertMailForRecipients {db db' : Database} {mail : Mail}
    {recipientIds : List SessionId} {outcome : MailWriteOutcome}
    (h : db.insertMailForRecipients mail recipientIds = .ok (outcome, db')) :
    AddressedTo recipientIds outcome.mail := by
  rw [Database.insertMailForRecipients] at h
  split at h
  · cases h
    exact fun item hitem => absurd hitem List.not_mem_nil
  · obtain ⟨replay, hreplay, h⟩ := Except.bind_eq_ok.mp h
    cases replay with
    | some replay =>
        cases h
        exact addressedTo_of_loadIdempotentReplay hreplay
    | none =>
        obtain ⟨db₁, -, h⟩ := Except.bind_eq_ok.mp h
        obtain ⟨db₂, -, h⟩ := Except.bind_eq_ok.mp h
        cases h
        intro item hitem
        obtain ⟨recipientId, hrecipient, rfl⟩ := List.mem_map.mp hitem
        exact hrecipient

theorem addressedTo_of_readUnreadMail {db : Database} {id : SessionId} {readAt : DateTime}
    {peek : Bool} : AddressedTo [id] (db.readUnreadMail id readAt peek).1 := by
  intro item hitem
  cases peek with
  | true => exact List.mem_singleton.mpr (Database.mem_fetchUnread_iff.mp hitem).2.1
  | false =>
      obtain ⟨unread, hunread, rfl⟩ := List.mem_map.mp hitem
      exact List.mem_singleton.mpr (Database.mem_fetchUnread_iff.mp hunread).2.1

theorem StoreOp.says_of_run {o : StoreOp} {a : o.Res} (h : o.run s = some (some a, s')) :
    o.Says (.ok a) := by
  cases o with
  | getSession id => exact concernsSession_of_getSession (congrArg Prod.fst (Option.some.inj h))
  | applyLabelMutation id mutation =>
      exact concernsSession_of_getSession (congrArg Prod.fst (Option.some.inj h))
  | recordTranscriptPath id path now =>
      exact concernsSession_of_getSession (congrArg Prod.fst (Option.some.inj h))
  | markSessionTerminated id exitCode now =>
      exact concernsSession_of_getSession (congrArg Prod.fst (Option.some.inj h))
  | markSessionLost id evidence now =>
      exact concernsSession_of_getSession (congrArg Prod.fst (Option.some.inj h))
  | readUnreadMail id readAt peek =>
      cases h
      intro mail hmail
      cases hmail
      exact addressedTo_of_readUnreadMail
  | idempotentMailForRecipients mail recipientIds =>
      intro items hitems
      cases hitems
      have hreplay := congrArg Prod.fst (Option.some.inj h)
      cases hcase : s.db.loadIdempotentReplay mail recipientIds with
      | error error =>
          rw [hcase] at hreplay
          cases hreplay
      | ok replay =>
          rw [hcase] at hreplay
          cases hreplay
          exact addressedTo_of_loadIdempotentReplay hcase
  | insertMailForRecipients mail recipientIds =>
      intro outcome houtcome
      cases houtcome
      obtain ⟨result, hinsert, h⟩ := Option.bind_eq_some_iff.mp h
      cases h
      exact addressedTo_of_insertMailForRecipients (toOption_insertMailForRecipients hinsert)
  | _ => trivial

theorem StoreOp.says_error (o : StoreOp) (report : Report) : o.Says (.error report) := by
  cases o with
  | readUnreadMail id readAt peek => exact fun mail hmail => by cases hmail
  | idempotentMailForRecipients mail recipientIds => exact fun items hitems => by cases hitems
  | insertMailForRecipients mail recipientIds => exact fun outcome h => by cases h
  | getSession id => exact fun session hsession => by cases hsession
  | applyLabelMutation id mutation => exact fun session hsession => by cases hsession
  | recordTranscriptPath id path now => exact fun session hsession => by cases hsession
  | markSessionTerminated id exitCode now => exact fun session hsession => by cases hsession
  | markSessionLost id evidence now => exact fun session hsession => by cases hsession
  | _ => trivial

/-! ## All operations -/

namespace HandlerOp

/-- A call of the store answers, or fails before or behind its effect. -/
theorem execStore_cases {choice : Choice} {o : StoreOp} {r : Except Report o.Res}
    (h : execStore choice o s = some (r, s')) :
    (∃ report, r = .error report ∧ (s' = s ∨ ∃ answer, o.run s = some (answer, s'))) ∨
      ∃ a, r = .ok a ∧ o.run s = some (some a, s') := by
  unfold execStore at h
  cases hfault : choice.fault with
  | none =>
      simp only [hfault] at h
      obtain ⟨⟨answer, s₁⟩, hrun, hanswered⟩ := Option.bind_eq_some_iff.mp h
      obtain ⟨a, hanswer, hresult⟩ := Option.map_eq_some_iff.mp hanswered
      cases hresult
      cases hanswer
      exact .inr ⟨a, rfl, hrun⟩
  | some report =>
      simp only [hfault] at h
      split at h
      · obtain ⟨⟨answer, s₁⟩, hrun, hresult⟩ := Option.map_eq_some_iff.mp h
        cases hresult
        exact .inl ⟨report, rfl, .inr ⟨answer, hrun⟩⟩
      · cases h
        exact .inl ⟨report, rfl, .inl rfl⟩

/-- A transaction that runs to its end commits, or leaves the store. -/
theorem runBody_cases {choice : Choice} {body : TxProg (Except Report Unit)}
    {outcome : Except Report Unit} (h : runBody choice body s = some (outcome, s')) :
    (∃ report, outcome = .error report) ∧ s' = s ∨
      body.replay TxOp.exec choice.tx s = some (.ok outcome, s') := by
  obtain ⟨⟨r, s₁⟩, hreplay, hended⟩ := Option.map_eq_some_iff.mp h
  cases r with
  | ok found =>
      cases hended
      exact .inr hreplay
  | error report =>
      cases hended
      exact .inl ⟨⟨report, rfl⟩, rfl⟩

/-- A transaction changes the store only by running to its end; an outcome without an error is
that of its body. -/
theorem execTransaction_cases {choice : Choice} {acquireContext : String}
    {body : TxProg (Except Report Unit)} {r : Except Report (Except Report Unit)}
    (h : execTransaction choice acquireContext body s = some (r, s')) :
    (r ≠ .ok (.ok ()) ∧ s' = s) ∨
      ∃ outcome, body.replay TxOp.exec choice.tx s = some (.ok outcome, s') ∧
        (r = .ok (.ok ()) → outcome = .ok ()) := by
  unfold execTransaction at h
  cases hfault : choice.fault with
  | none =>
      simp only [hfault] at h
      obtain ⟨⟨outcome, s₁⟩, hbody, hended⟩ := Option.map_eq_some_iff.mp h
      cases hended
      rcases runBody_cases hbody with ⟨⟨report, rfl⟩, rfl⟩ | hreplay
      · exact .inl ⟨by simp, rfl⟩
      · exact .inr ⟨outcome, hreplay, Except.ok.inj⟩
  | some report =>
      simp only [hfault] at h
      split at h
      · split at h
        · obtain ⟨⟨outcome, s₁⟩, hbody, hended⟩ := Option.map_eq_some_iff.mp h
          cases hended
          rcases runBody_cases hbody with ⟨-, rfl⟩ | hreplay
          · exact .inl ⟨by simp, rfl⟩
          · exact .inr ⟨outcome, hreplay, by simp⟩
        · cases h
          exact .inl ⟨by simp, rfl⟩
      · cases h
        exact .inl ⟨by simp, rfl⟩

/-- The runtime may write its lifecycles, and answers what is possible. -/
theorem execPort_cases {choice : Choice} {o : PortOp} {r : Except Report o.Res}
    (h : execPort choice o s = some (r, s')) :
    s' = s.withLifecycles choice.lifecycles ∧ o.Says r := by
  unfold execPort at h
  cases hfault : choice.fault with
  | some report =>
      simp only [hfault] at h
      cases h
      exact ⟨rfl, fun a ha => by cases ha⟩
  | none =>
      simp only [hfault] at h
      cases hanswer : choice.port o with
      | none =>
          rw [hanswer] at h
          cases h
      | some answer =>
          simp only [hanswer] at h
          split at h
          · next hpossible =>
              cases h
              refine ⟨rfl, fun a ha => ?_⟩
              cases ha
              exact hpossible
          · cases h

theorem execHost_cases {choice : Choice} {o : HostOp} {r : Except Report o.Res}
    (h : execHost choice o s = some (r, s')) : s' = s := by
  unfold execHost at h
  cases hfault : choice.fault with
  | some report =>
      simp only [hfault] at h
      cases h
      rfl
  | none =>
      simp only [hfault] at h
      obtain ⟨answer, -, hresult⟩ := Option.map_eq_some_iff.mp h
      cases hresult
      rfl

variable {choice : Choice} {o : HandlerOp} {r : Except Report o.Res}

theorem extends_withLifecycles (lifecycles : Option (Table SessionId LifecycleRow)) :
    Extends s (s.withLifecycles lifecycles) := by
  cases lifecycles with
  | none => exact .refl s
  | some lifecycles => exact .of_eq rfl rfl

theorem says_of_exec (h : exec choice o s = some (r, s')) : o.Says r := by
  cases o with
  | store o =>
      rcases execStore_cases h with ⟨report, rfl, -⟩ | ⟨a, rfl, hrun⟩
      · exact StoreOp.says_error o report
      · exact StoreOp.says_of_run hrun
  | transaction acquireContext body => trivial
  | port o => exact (execPort_cases h).2
  | host o => trivial

theorem keeps_of_exec (config : DaemonConfig) (h : exec choice o s = some (r, s')) {g : Grant}
    (hg : OnRecord s g) : OnRecord s' g := by
  cases o with
  | store o =>
      rcases execStore_cases h with ⟨report, -, rfl | ⟨answer, hrun⟩⟩ | ⟨a, -, hrun⟩
      · exact hg
      · exact hg.mono (StoreOp.extends_of_run hrun)
      · exact hg.mono (StoreOp.extends_of_run hrun)
  | transaction acquireContext body =>
      rcases execTransaction_cases h with ⟨-, rfl⟩ | ⟨outcome, hreplay, -⟩
      · exact hg
      · exact Registry.keeps_replay (R := txRegistry config) hreplay (x := .daemon) hg
  | port o =>
      obtain ⟨rfl, -⟩ := execPort_cases h
      exact hg.mono (extends_withLifecycles _)
  | host o =>
      cases execHost_cases h
      exact hg

theorem sound_of_exec (hsound : Sound config s) (hφ : ∀ g ∈ φ, OnRecord s g)
    (hpermitted : o.permitted config x φ) (h : exec choice o s = some (r, s')) :
    Sound config s' := by
  cases o with
  | store o =>
      rcases execStore_cases h with ⟨report, -, rfl | ⟨answer, hrun⟩⟩ | ⟨a, -, hrun⟩
      · exact hsound
      · exact StoreOp.sound_of_run hsound hφ hpermitted hrun
      · exact StoreOp.sound_of_run hsound hφ hpermitted hrun
  | transaction acquireContext body =>
      rcases execTransaction_cases h with ⟨-, rfl⟩ | ⟨outcome, hreplay, -⟩
      · exact hsound
      · have hbody : (txPolicy config).Mediated x φ body fun _ _ => True := hpermitted
        exact (Registry.of_replay (R := txRegistry config) hreplay hbody hsound hφ
          (I := fun _ => True) (fun _ _ _ _ _ => trivial) trivial).2.1
  | port o =>
      obtain ⟨rfl, -⟩ := execPort_cases h
      exact hsound.withLifecycles _
  | host o =>
      cases execHost_cases h
      exact hsound

/-- A transaction that is committed is worth what its body earns. -/
theorem onRecord_of_exec (hsound : Sound config s) (hpermitted : o.permitted config x φ)
    (h : exec choice o s = some (r, s')) {g : Grant} (hg : g ∈ o.earned config x r) :
    OnRecord s' g := by
  cases o with
  | store o =>
      rcases execStore_cases h with ⟨report, rfl, -⟩ | ⟨a, rfl, hrun⟩
      · exact absurd hg StoreOp.not_mem_earned_error
      · exact StoreOp.onRecord_of_run hsound hrun hg
  | transaction acquireContext body =>
      rcases execTransaction_cases h with ⟨hne, -⟩ | ⟨outcome, hreplay, hok⟩
      · rcases r with report | (report | ⟨⟩)
        · exact hg.elim
        · exact hg.elim
        · exact absurd rfl hne
      · rcases r with report | (report | ⟨⟩)
        · exact hg.elim
        · exact hg.elim
        · cases hok rfl
          have hbody : (txPolicy config).Mediated x ∅ body fun r ψ => r = .ok () → g ∈ ψ := hg
          obtain ⟨-, -, ψ, hψ, hearned⟩ := Registry.of_replay (R := txRegistry config) hreplay hbody
            hsound (Set.empty_subset _) (I := fun _ => True) (fun _ _ _ _ _ => trivial) trivial
          exact hψ (hearned _ rfl rfl)
  | port o => exact hg.elim
  | host o => exact hg.elim

end HandlerOp

/-- The store of the daemon as a registry of grants. -/
def daemonRegistry (config : DaemonConfig) : Registry (daemonPolicy config) HandlerOp.exec where
  holds s _ g := OnRecord s g
  sound := Sound config
  returns h := HandlerOp.says_of_exec h
  keeps h hg := HandlerOp.keeps_of_exec config h hg
  records hsound _ hpermitted h hg := HandlerOp.onRecord_of_exec hsound hpermitted h hg
  preserves hsound hφ hpermitted h := HandlerOp.sound_of_exec hsound hφ hpermitted h

/-! ## The machine -/

theorem DaemonEvent.extends_of_run {event : DaemonEvent} (h : event.run config s = some s') :
    Extends s s' := by
  cases event with
  | lifecycles table =>
      cases h
      exact .of_eq rfl rfl
  | decided row =>
      rw [run] at h
      split at h
      · cases h
        exact .record s row
      · cases h

theorem DaemonEvent.sound_of_run {event : DaemonEvent} (hsound : Sound config s)
    (h : event.run config s = some s') : Sound config s' := by
  cases event with
  | lifecycles table =>
      cases h
      exact hsound.withLifecycles (some table)
  | decided row =>
      rw [run] at h
      split at h
      · next hhonest =>
          cases h
          exact hsound.record hhonest
      · cases h

/-- The session daemon with its registry. -/
def daemonLedger (config : DaemonConfig) (server : McpServer) :
    Ledger (daemonPolicy config) (sessionDaemon config server) where
  toRegistry := daemonRegistry config
  subject := Origin.subject
  post origin result φ := origin.Post result φ
  post_mono hφ hpost answer hanswer :=
    ⟨(hpost answer hanswer).1.mono hφ, fun hstops => ((hpost answer hanswer).2 hstops).mono hφ⟩
  mediated origin := acts_program origin
  start_keeps h hsound := by
    cases h
    exact ⟨hsound, fun _ _ hg => hg⟩
  env_keeps h hsound :=
    ⟨DaemonEvent.sound_of_run hsound h, fun _ _ hg => hg.mono (DaemonEvent.extends_of_run h)⟩
  crash_keeps hsound := ⟨hsound, fun _ _ hg => hg⟩

end LittleOrgans.Handler
