import LittleOrgans.Session.SendRetry
import LittleOrgans.Store.ReturnedMail

/-!
# The steps of the session daemon on the mail tables

Whatever a step of the daemon does to messages and deliveries is a run of `mailTables`:
sends and receipts insert mail nobody has read, the end of a session drops its unread
mail, and the rest leaves the two tables alone. Every store the daemon gets to is so a
store its mail operations are judged in (`reaches_of_sessionStore`).
-/

set_option autoImplicit false

namespace LittleOrgans.Session

open LittleOrgans.Core
open LittleOrgans.Library
open LittleOrgans.Store
open LittleOrgans.Daemon

/-- A run of the mail tables. -/
abbrev MailRun (db db' : Database) : Prop := mailTables.Reaches MailTableStep.Permitted db db'

section

variable {db db' : Database}

theorem MailRun.elsewhere (hmessages : db'.messages = db.messages)
    (hdeliveries : db'.deliveries = db.deliveries) : MailRun db db' :=
  .step .refl (a := .elsewhere db') ⟨hmessages, hdeliveries⟩ rfl

theorem mailRun_insert {mail : Mail} {recipientIds : List SessionId} {outcome : MailWriteOutcome}
    (hunread : mail.status = .unread ∧ mail.readAt = none)
    (h : db.insertMailForRecipients mail recipientIds = .ok (outcome, db')) : MailRun db db' := by
  refine .step .refl (a := .operation (.insertMailForRecipients mail recipientIds)) hunread ?_
  show some (db.runMail (.insertMailForRecipients mail recipientIds)).2 = some db'
  rw [Database.runMail, h]

theorem mailRun_emitReceipts (env : ReadEnv) (items : List Mail) (db : Database) (n : Nat) :
    MailRun db (emitReceipts env db n items).2 := by
  induction items generalizing db n with
  | nil => exact .refl
  | cons item rest ih =>
      rw [emitReceipts]
      split
      · exact ih db n
      · split
        · exact .refl
        split
        · exact .refl
        split
        · next hinsert => exact (mailRun_insert ⟨rfl, rfl⟩ hinsert).trans (ih _ (n + 1))
        · exact .refl

theorem mailRun_mailReadRequest (context : RequestContext) (env : ReadEnv) :
    MailRun db (mailReadRequest db context env).2 := by
  rw [mailReadRequest]
  split
  · exact .refl
  · split
    · exact .refl
    · next recipient _ =>
        rw [mailReadOne]
        split
        · exact .refl
        split
        · exact .refl
        -- the drain is one step, and the receipts are sends behind it
        have hread : MailRun db (db.readUnreadMail recipient.id env.now false).2 :=
          .step .refl (a := .operation (.readUnreadMail recipient.id env.now false)) trivial rfl
        have hall := hread.trans (mailRun_emitReceipts env
          (db.readUnreadMail recipient.id env.now false).1 _ 0)
        dsimp only
        split
        · next hemit =>
            rw [hemit] at hall
            exact hall
        · next hemit =>
            rw [hemit] at hall
            exact hall

theorem mailRun_mailSendRequest (limits : MailSafetyConfig) (context : RequestContext)
    (request : MailSendRequest) (env : SendEnv) :
    MailRun db (mailSendRequest db limits context request env).2 := by
  cases hprepare : prepareSend db context request with
  | error error =>
      rw [mailSendRequest, hprepare]
      exact .refl
  | ok prepared =>
      obtain ⟨sessions, sender⟩ := prepared
      rw [mailSendRequest_of_prepared hprepare]
      rcases db_sendToDeliverable limits request env sender
        (deliverableSessions sessions env.authorized)
        (refusalResponse sessions env.authorized) with hsame | ⟨first, rest, outcome, -, hinsert⟩
      · rw [hsame]
        exact .refl
      · exact mailRun_insert ⟨rfl, rfl⟩ hinsert

theorem mailRun_recordTranscript (id : SessionId) (path : Option String) (now : DateTime) :
    MailRun db (recordTranscript db id path now) := by
  cases path with
  | none => exact .refl
  | some path => exact .elsewhere rfl rfl

/-- The end of a session: a write to its row, and its unread mail is dropped. -/
theorem mailRun_markSessionTerminated (id : SessionId) (exitCode : Option Int) (now : DateTime) :
    MailRun db (db.markSessionTerminated id exitCode now) := by
  have hrow : MailRun db
      { db with sessions := db.sessions.modify id (SessionRow.markTerminated exitCode now) } :=
    .elsewhere rfl rfl
  exact hrow.step (a := .markUnreadUndeliverable id) trivial rfl

theorem mailRun_markSessionLost (id : SessionId) (evidence : LostEvidence) (now : DateTime) :
    MailRun db (db.markSessionLost id evidence now) := by
  have hrow : MailRun db
      { db with sessions := db.sessions.modify id (SessionRow.markLost evidence now) } :=
    .elsewhere rfl rfl
  exact hrow.step (a := .markUnreadUndeliverable id) trivial rfl

theorem mailRun_persistChildExit (exit : ChildExit) (now : DateTime) :
    MailRun db (persistChildExit db exit now) :=
  (mailRun_recordTranscript exit.sessionId exit.transcriptPath now).trans
    (mailRun_markSessionTerminated exit.sessionId exit.exitCode now)

theorem mailRun_reconcileLifecycle (lc : Lifecycle) (now : DateTime) :
    MailRun db (reconcileLifecycle db lc now) := by
  have htranscript : MailRun db (recordTranscript db lc.sessionId lc.transcriptPath now) :=
    mailRun_recordTranscript lc.sessionId lc.transcriptPath now
  rw [reconcileLifecycle]
  cases lc.state with
  | forking => exact htranscript
  | running => exact htranscript
  | exited exit =>
      exact htranscript.trans (mailRun_markSessionTerminated lc.sessionId exit.code now)
  | lost evidence => exact htranscript.trans (mailRun_markSessionLost lc.sessionId evidence now)

theorem mailRun_removeNamespaceCatalog (slug : String) :
    MailRun db (removeNamespaceCatalog db slug).2 := by
  rw [removeNamespaceCatalog]
  split
  · exact .refl
  · next sessions hsessions =>
    split
    · exact .refl
    · -- the sessions were listed, so the deletion lists them too
      have hdelete : MailRun db (db.deleteSessionsByNamespace slug) := by
        refine .step .refl (a := .deleteNamespaceSessions slug) trivial ?_
        show some (db.deleteNamespaceSessions slug).2 = _
        rw [Database.deleteNamespaceSessions_of_listed hsessions]
      dsimp only
      split
      · exact hdelete.trans (MailRun.elsewhere rfl rfl)
      · exact hdelete

end

/-- A step of the daemon is a run of the mail tables. -/
theorem mailRun_storeStep (db : Database) (step : StoreStep) : MailRun db (step.apply db) := by
  cases step with
  | mailbox step =>
      cases step with
      | createNamespace slug createdAt => exact .elsewhere rfl rfl
      | spawn draft lifecycle stdoutPath updatedAt =>
          rw [StoreStep.apply, MailboxStep.apply, MailStep.apply]
          split
          · exact .refl
          · split
            · next hinsert =>
                rw [Database.insertSession] at hinsert
                split at hinsert
                · cases hinsert
                · cases hinsert
                  exact .elsewhere rfl rfl
            · exact .refl
      | send limits context request env =>
          exact mailRun_mailSendRequest limits context request env
      | read context env => exact mailRun_mailReadRequest context env
      | persistChildExit exit now => exact mailRun_persistChildExit exit now
      | removeNamespaceCatalog slug => exact mailRun_removeNamespaceCatalog slug
  | applyEvents events nextCursor now =>
      rw [StoreStep.apply, Database.frame_applyRuntimeEventsAndCursor]
      exact .elsewhere rfl rfl
  | reconcileLifecycle lc now => exact mailRun_reconcileLifecycle lc now
  | relabel labels => exact .elsewhere rfl rfl

/-- A run of the daemon is a run of the mail tables. -/
theorem reaches_of_sessionStore {C : Database → StoreStep → Prop} {db db' : Database}
    (h : sessionStore.Reaches C db db') : MailRun db db' := by
  induction h with
  | refl => exact .refl
  | step _ _ hstep ih =>
      cases hstep
      exact ih.trans (mailRun_storeStep _ _)

end LittleOrgans.Session
