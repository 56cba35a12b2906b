import LittleOrgans.Session.Messaging
import Mathlib.Data.List.Induction

/-!
# Unread mail of ended sessions

`NoUnreadForEnded` says that nobody waits for mail a dead session will never
read. The steps below are the operations that end a session or create a
delivery, each taken as a whole, and the insert transaction by itself, which
covers a send or a receipt whose recipients were chosen in an earlier state. The
marks of the reaper and of a reconciliation drop the unread mail of the session
they end. An event batch does not, and neither a late insert nor a receipt looks
at the state of its recipient, so `noUnreadForEnded_run` asks these three to
meet no such session.
-/

set_option autoImplicit false

namespace LittleOrgans.Session

open LittleOrgans.Core
open LittleOrgans.Library
open LittleOrgans.Store
open LittleOrgans.Daemon

/-- The row of the session, if there is one, has not ended. -/
def NotEnded (db : Database) (id : SessionId) : Prop :=
  ∀ facts, endFacts db id = some facts → ¬facts.Ended

/-- No unread delivery is addressed to a session that has ended. -/
def NoUnreadForEnded (db : Database) : Prop :=
  ∀ key delivery, db.deliveries.lookup key = some delivery → delivery.status = .unread →
    NotEnded db key.2

inductive MailStep where
  | spawn (draft : SessionDraft) (lifecycle : Lifecycle) (stdoutPath : Option String)
      (updatedAt : DateTime)
  | mailSend (limits : MailSafetyConfig) (mail : Mail) (recipients : List SessionId)
      (authorized : SessionId → Bool) (now : DateTime)
  | insertMail (mail : Mail) (recipientIds : List SessionId)
  | mailRead (reader : SessionId) (readAt : DateTime) (fresh : Mail → MessageId × String)
  | readUnreadMail (reader : SessionId) (readAt : DateTime)
  | applyEvents (events : List RuntimeEvent) (nextCursor : EventCursor) (now : DateTime)
  | persistChildExit (exit : ChildExit) (now : DateTime)
  | reconcileLifecycle (lc : Lifecycle) (now : DateTime)
  | deleteNamespace (slug : String)

namespace MailStep

/-- The store after a step; a step that fails leaves it as it was. -/
def apply (db : Database) : MailStep → Database
  | .spawn draft lifecycle stdoutPath updatedAt =>
      match draft.runningSession lifecycle stdoutPath updatedAt with
      | .error _ => db
      | .ok session =>
          match db.insertSession session with
          | .ok db' => db'
          | .error _ => db
  | .mailSend limits mail recipients authorized now =>
      Session.mailSend db limits mail recipients authorized now
  | .insertMail mail recipientIds =>
      match db.insertMailForRecipients mail recipientIds with
      | .ok (_, db') => db'
      | .error _ => db
  | .mailRead reader readAt fresh => Session.mailRead db reader readAt fresh
  | .readUnreadMail reader readAt => (db.readUnreadMail reader readAt false).2
  | .applyEvents events nextCursor now => db.applyRuntimeEventsAndCursor events nextCursor now
  | .persistChildExit exit now => Session.persistChildExit db exit now
  | .reconcileLifecycle lc now => Session.reconcileLifecycle db lc now
  | .deleteNamespace slug => (db.deleteSessionsByNamespace slug).deleteNamespace slug

def run (db : Database) (steps : List MailStep) : Database := steps.foldl apply db

/-- A drained mail is answered with no receipt, or its sender has not ended. -/
def ReceiptMeetsNoEnded (db : Database) (item : Mail) : Prop :=
  ∀ sender, item.sender = .session sender → item.intent ≠ .receipt → NotEnded db sender

/-- What a step has to find: an event batch ends no session that unread mail
waits for, an insert that is no replay addresses no session that has ended, and
no receipt goes to one. -/
def MeetsNoEnded (db : Database) : MailStep → Prop
  | .applyEvents events _ _ =>
      ∀ event ∈ events, event.isTerminal = true →
        ∀ key delivery, db.deliveries.lookup key = some delivery → key.2 = event.sessionId →
          delivery.status = .unread → endFacts db key.2 = none
  | .insertMail mail recipientIds =>
      db.loadIdempotentReplay mail recipientIds = .ok none → mail.status = .unread →
        ∀ id ∈ recipientIds, NotEnded db id
  | .mailRead reader _ _ => ∀ item ∈ db.fetchUnread reader, ReceiptMeetsNoEnded db item
  | _ => True

instance (db : Database) (id : SessionId) : Decidable (NotEnded db id) :=
  match hfacts : endFacts db id with
  | none => isTrue fun facts h => by
      rw [hfacts] at h
      cases h
  | some facts =>
      decidable_of_iff (¬facts.Ended) ⟨fun h facts' h' => by
        rw [hfacts] at h'
        cases h'
        exact h, fun h => h facts hfacts⟩

instance (db : Database) (item : Mail) : Decidable (ReceiptMeetsNoEnded db item) :=
  match hsender : item.sender with
  | .session sender =>
      decidable_of_iff (item.intent ≠ .receipt → NotEnded db sender) ⟨fun h id hid => by
        rw [hsender] at hid
        cases hid
        exact h, fun h => h sender hsender⟩
  | .operator _ => isTrue fun id hid => by
      rw [hsender] at hid
      cases hid
  | .system => isTrue fun id hid => by
      rw [hsender] at hid
      cases hid

instance (db : Database) : (step : MailStep) → Decidable (step.MeetsNoEnded db)
  | .applyEvents events _ _ =>
      inferInstanceAs (Decidable (∀ event ∈ events, event.isTerminal = true →
        ∀ key delivery, db.deliveries.lookup key = some delivery → key.2 = event.sessionId →
          delivery.status = .unread → endFacts db key.2 = none))
  | .insertMail mail recipientIds =>
      inferInstanceAs (Decidable (db.loadIdempotentReplay mail recipientIds = .ok none →
        mail.status = .unread → ∀ id ∈ recipientIds, NotEnded db id))
  | .mailRead reader _ _ =>
      inferInstanceAs (Decidable (∀ item ∈ db.fetchUnread reader, ReceiptMeetsNoEnded db item))
  | .spawn _ _ _ _ => isTrue trivial
  | .mailSend _ _ _ _ _ => isTrue trivial
  | .readUnreadMail _ _ => isTrue trivial
  | .persistChildExit _ _ => isTrue trivial
  | .reconcileLifecycle _ _ => isTrue trivial
  | .deleteNamespace _ => isTrue trivial

end MailStep

/-! ## What keeps the mail of the living -/

section Keeping

variable {db db' : Database}

theorem endFacts_of_sessions_eq (h : db'.sessions = db.sessions) (id : SessionId) :
    endFacts db' id = endFacts db id := by
  rw [endFacts, endFacts, h]

theorem NotEnded.of_sessions_eq {id : SessionId} (h : NotEnded db id)
    (hsessions : db'.sessions = db.sessions) : NotEnded db' id := by
  intro facts hfacts
  rw [endFacts_of_sessions_eq hsessions] at hfacts
  exact h facts hfacts

/-- An operation on mail keeps the property when each unread delivery it adds is
addressed to a session that has not ended. -/
theorem NoUnreadForEnded.of_newDeliveries {p : MessageId × SessionId → DeliveryRow → Prop}
    (h : NoUnreadForEnded db) (hsessions : db'.sessions = db.sessions)
    (hnew : NewDeliveries p db db')
    (hp : ∀ key delivery, p key delivery → delivery.status = .unread → NotEnded db key.2) :
    NoUnreadForEnded db' := by
  intro key delivery hkey hunread
  apply NotEnded.of_sessions_eq _ hsessions
  rcases hnew key delivery hkey with hold | hadded
  · exact h key delivery hold hunread
  · exact hp key delivery hadded hunread

theorem lookup_deliveries_markUnreadUndeliverable (db : Database) (id : SessionId)
    (key : MessageId × SessionId) :
    (db.markUnreadUndeliverable id).deliveries.lookup key =
      (db.deliveries.lookup key).map fun delivery =>
        if key.2 = id then delivery.markUndeliverable else delivery :=
  Table.lookup_mapRows _ _ _

/-- A write to the row of `id` that drops the unread mail of `id` keeps the
property, whatever it writes. -/
theorem NoUnreadForEnded.of_markUnreadUndeliverable (h : NoUnreadForEnded db) (id : SessionId)
    (hfacts : ∀ id', id' ≠ id → endFacts db' id' = endFacts db id')
    (hdeliveries : db'.deliveries = (db.markUnreadUndeliverable id).deliveries) :
    NoUnreadForEnded db' := by
  intro key delivery hkey hunread facts hended
  rw [hdeliveries, lookup_deliveries_markUnreadUndeliverable] at hkey
  obtain ⟨old, hold, hdelivery⟩ := Option.map_eq_some_iff.mp hkey
  split at hdelivery
  · subst hdelivery
    exact absurd hunread old.markUndeliverable_status_ne_unread
  · next hne =>
      subst hdelivery
      rw [hfacts key.2 hne] at hended
      exact h key old hold hunread facts hended

@[simp]
theorem deliveries_recordTranscript (db : Database) (id : SessionId) (path : Option String)
    (now : DateTime) : (recordTranscript db id path now).deliveries = db.deliveries := by
  cases path <;> rfl

theorem NoUnreadForEnded.persistChildExit (h : NoUnreadForEnded db) (exit : ChildExit)
    (now : DateTime) : NoUnreadForEnded (persistChildExit db exit now) := by
  apply h.of_markUnreadUndeliverable exit.sessionId
  · intro id hne
    rw [endFacts_persistChildExit, if_neg hne]
  · rw [Session.persistChildExit, Database.markSessionTerminated,
      Database.markUnreadUndeliverable, deliveries_recordTranscript]
    rfl

theorem NoUnreadForEnded.reconcileLifecycle (h : NoUnreadForEnded db) (lc : Lifecycle)
    (now : DateTime) : NoUnreadForEnded (reconcileLifecycle db lc now) := by
  have hpath : NoUnreadForEnded (recordTranscript db lc.sessionId lc.transcriptPath now) := by
    intro key delivery hkey hunread facts hfacts
    rw [deliveries_recordTranscript] at hkey
    rw [endFacts_recordTranscript] at hfacts
    exact h key delivery hkey hunread facts hfacts
  rw [Session.reconcileLifecycle]
  cases lc.state with
  | forking => exact hpath
  | running => exact hpath
  | exited exit =>
      apply hpath.of_markUnreadUndeliverable lc.sessionId
      · intro id hne
        rw [endFacts_markSessionTerminated, if_neg hne]
      · rfl
  | lost evidence =>
      apply hpath.of_markUnreadUndeliverable lc.sessionId
      · intro id hne
        rw [endFacts_markSessionLost, if_neg hne]
      · rfl

/-- The new session runs, and the other rows stay. -/
theorem NoUnreadForEnded.insertSession {session : Session} (h : NoUnreadForEnded db)
    (hinsert : db.insertSession session = .ok db') (hstate : session.state = .running) :
    NoUnreadForEnded db' := by
  rw [Database.insertSession] at hinsert
  split at hinsert
  · cases hinsert
  · next hkey =>
      cases hinsert
      have hnone : db.sessions.lookup session.id = none := by
        simpa [Table.contains] using hkey
      intro key delivery hdelivery hunread facts hfacts
      obtain ⟨row, hrow, rfl⟩ := Option.map_eq_some_iff.mp hfacts
      have hlookup : (db.sessions.insert session.id (sessionRow session)).lookup key.2 =
          some row := hrow
      rw [Table.lookup_insert hnone] at hlookup
      split at hlookup
      · cases hlookup
        simp [EndFacts.Ended, EndFacts.ofRow, sessionRow, hstate, sqlName,
          SessionStateName.isActive]
      · refine h key delivery hdelivery hunread _ ?_
        rw [endFacts, hlookup, Option.map_some]

theorem NoUnreadForEnded.insertMailForRecipients {mail : Mail} {recipientIds : List SessionId}
    {outcome : MailWriteOutcome} (h : NoUnreadForEnded db)
    (hinsert : db.insertMailForRecipients mail recipientIds = .ok (outcome, db'))
    (hrecipients : db.loadIdempotentReplay mail recipientIds = .ok none →
      mail.status = .unread → ∀ id ∈ recipientIds, NotEnded db id) :
    NoUnreadForEnded db' := by
  by_cases hreplay : db.loadIdempotentReplay mail recipientIds = .ok none
  · obtain ⟨hsessions, hnew⟩ := insertMailForRecipients_eq_ok hinsert
    refine h.of_newDeliveries hsessions hnew ?_
    rintro key delivery ⟨hmem, rfl⟩ hunread
    exact hrecipients hreplay hunread key.2 hmem
  · -- The write is a replay, or has no recipients: the store stays.
    rw [Database.insertMailForRecipients] at hinsert
    split at hinsert
    · cases hinsert
      exact h
    · obtain ⟨replay, hload, hinsert⟩ := Except.bind_eq_ok.mp hinsert
      cases replay with
      | none => exact absurd hload hreplay
      | some replay =>
          cases hinsert
          exact h

/-- A send delivers to sessions that run. -/
theorem NoUnreadForEnded.mailSend (h : NoUnreadForEnded db) (limits : MailSafetyConfig)
    (mail : Mail) (recipients : List SessionId) (authorized : SessionId → Bool) (now : DateTime) :
    NoUnreadForEnded (mailSend db limits mail recipients authorized now) := by
  rw [Session.mailSend]
  split
  · exact h
  split
  · exact h
  · exact h
  split
  · split
    · next hinsert =>
        apply h.insertMailForRecipients hinsert
        intro _ _ id hid facts hfacts hended
        obtain ⟨row, hrow, hstate⟩ := running_of_mem_deliverableMailRecipients hid
        rw [endFacts, hrow] at hfacts
        cases hfacts
        rw [EndFacts.Ended, EndFacts.ofRow, hstate] at hended
        cases hended
    · exact h
  · exact h

theorem NoUnreadForEnded.readUnreadMail (h : NoUnreadForEnded db) (reader : SessionId)
    (readAt : DateTime) : NoUnreadForEnded (db.readUnreadMail reader readAt false).2 := by
  obtain ⟨hsessions, hnew⟩ := readUnreadMail_deliveries db reader readAt
  refine h.of_newDeliveries hsessions hnew ?_
  intro key delivery hread hunread
  exact absurd hunread hread

theorem NoUnreadForEnded.emitReadReceipts (fresh : Mail → MessageId × String) (sentAt : DateTime)
    (items : List Mail) (h : NoUnreadForEnded db)
    (hitems : ∀ item ∈ items, MailStep.ReceiptMeetsNoEnded db item) :
    NoUnreadForEnded (emitReadReceipts fresh sentAt db items) := by
  induction items generalizing db with
  | nil => exact h
  | cons item rest ih =>
      have hrest := fun item hitem => hitems item (List.mem_cons_of_mem _ hitem)
      rw [Session.emitReadReceipts]
      cases hsender : item.sender with
      -- a receipt is owed to a session only
      | operator principal => exact ih h hrest
      | system => exact ih h hrest
      | session sender =>
          dsimp only
          split
          -- a receipt is not answered by another one
          · exact ih h hrest
          split
          · exact h
          · next hintent _ =>
              have hnot := hitems item List.mem_cons_self sender hsender hintent
              -- the receipt is inserted for the sender, which has not ended
              split
              · next hinsert =>
                  have hsessions := (insertMailForRecipients_eq_ok hinsert).1
                  apply ih
                  · apply h.insertMailForRecipients hinsert
                    intro _ _ id hid
                    rw [List.mem_singleton.mp hid]
                    exact hnot
                  · intro later hlater id hid hreceipt
                    exact (hrest later hlater id hid hreceipt).of_sessions_eq hsessions
              · exact h

theorem NoUnreadForEnded.mailRead (h : NoUnreadForEnded db) (reader : SessionId)
    (readAt : DateTime) (fresh : Mail → MessageId × String)
    (hitems : ∀ item ∈ db.fetchUnread reader, MailStep.ReceiptMeetsNoEnded db item) :
    NoUnreadForEnded (mailRead db reader readAt fresh) := by
  apply NoUnreadForEnded.emitReadReceipts
  · exact h.readUnreadMail reader readAt
  · intro item hitem sender hsender hintent
    obtain ⟨stored, hstored, rfl⟩ := List.mem_map.mp hitem
    have hnot := hitems stored hstored sender hsender hintent
    exact hnot.of_sessions_eq (readUnreadMail_deliveries db reader readAt).1

theorem isActive_foldl_applyEvent (facts : EndFacts) (events : List RuntimeEvent)
    (now : DateTime) (h : ∀ event ∈ events, event.isTerminal = false) :
    (events.foldl (fun facts event => facts.applyEvent event now) facts).state.isActive =
      facts.state.isActive := by
  induction events generalizing facts with
  | nil => rfl
  | cons event events ih =>
      have hstep : (facts.applyEvent event now).state.isActive = facts.state.isActive := by
        have hevent := h event List.mem_cons_self
        cases event with
        | running id runtimePid startTime =>
            rw [EndFacts.applyEvent]
            split
            · next hactive =>
                split
                · exact hactive.symm
                · rfl
            · rfl
        | terminated id exitCode signal evidence => cases hevent
        | lost id evidence => cases hevent
      rw [List.foldl_cons, ih _ fun event hevent => h event (List.mem_cons_of_mem _ hevent), hstep]

/-- The event path leaves the mail alone, so it must end no session that unread
mail waits for. -/
theorem NoUnreadForEnded.applyEvents (h : NoUnreadForEnded db) (events : List RuntimeEvent)
    (nextCursor : EventCursor) (now : DateTime)
    (hmail : MailStep.MeetsNoEnded db (.applyEvents events nextCursor now)) :
    NoUnreadForEnded (db.applyRuntimeEventsAndCursor events nextCursor now) := by
  intro key delivery hkey hunread facts hfacts hended
  rw [Database.deliveries_applyRuntimeEventsAndCursor] at hkey
  rw [endFacts_applyRuntimeEventsAndCursor] at hfacts
  obtain ⟨old, hold, rfl⟩ := Option.map_eq_some_iff.mp hfacts
  have hevents : ∀ event ∈ events.filter fun event => event.sessionId = key.2,
      event.isTerminal = false := by
    intro event hevent
    obtain ⟨hmem, hid⟩ := List.mem_filter.mp hevent
    refine Bool.eq_false_iff.mpr fun hterminal => ?_
    have hnone := hmail event hmem hterminal key delivery hkey (of_decide_eq_true hid).symm hunread
    rw [hold] at hnone
    cases hnone
  have hactive := isActive_foldl_applyEvent old _ now hevents
  rw [EndFacts.Ended, hactive] at hended
  exact h key delivery hkey hunread old hold hended

theorem NoUnreadForEnded.deleteSessionsByNamespace (h : NoUnreadForEnded db) (slug : String) :
    NoUnreadForEnded (db.deleteSessionsByNamespace slug) := by
  have hgc : ∀ (ids : List SessionId) (db : Database),
      (ids.foldl Database.gcSessionSenderMessages db).deliveries = db.deliveries ∧
        (ids.foldl Database.gcSessionSenderMessages db).sessions = db.sessions := by
    intro ids
    induction ids with
    | nil => exact fun db => ⟨rfl, rfl⟩
    | cons id ids ih => exact fun db => ih (db.gcSessionSenderMessages id)
  intro key delivery hkey hunread facts hfacts
  rw [Database.deleteSessionsByNamespace] at hkey hfacts
  rw [(hgc _ _).1, Table.lookup_filterRows] at hkey
  obtain ⟨row, hrow, rfl⟩ := Option.map_eq_some_iff.mp hfacts
  rw [(hgc _ _).2, Table.lookup_filterRows] at hrow
  refine h key delivery (Option.filter_eq_some_iff.mp hkey).1 hunread _ ?_
  rw [endFacts, (Option.filter_eq_some_iff.mp hrow).1, Option.map_some]

end Keeping

/-! ## Runs -/

/-- Step lemma. -/
theorem NoUnreadForEnded.apply {db : Database} (h : NoUnreadForEnded db) {step : MailStep}
    (hstep : step.MeetsNoEnded db) : NoUnreadForEnded (step.apply db) := by
  cases step with
  | spawn draft lifecycle stdoutPath updatedAt =>
      rw [MailStep.apply]
      split
      · exact h
      · next session hsession =>
          split
          · next hinsert =>
              have hrunning := SessionDraft.runningSession_eq_ok hsession
              exact h.insertSession hinsert hrunning.2.2.2
          · exact h
  | mailSend limits mail recipients authorized now =>
      exact h.mailSend limits mail recipients authorized now
  | insertMail mail recipientIds =>
      rw [MailStep.apply]
      split
      · next hinsert => exact h.insertMailForRecipients hinsert hstep
      · exact h
  | mailRead reader readAt fresh => exact h.mailRead reader readAt fresh hstep
  | readUnreadMail reader readAt => exact h.readUnreadMail reader readAt
  | applyEvents events nextCursor now => exact h.applyEvents events nextCursor now hstep
  | persistChildExit exit now => exact h.persistChildExit exit now
  | reconcileLifecycle lc now => exact h.reconcileLifecycle lc now
  | deleteNamespace slug => exact h.deleteSessionsByNamespace slug

/-- A run from a fresh store whose steps meet no ended session leaves no unread
mail for one, in any state it reaches. -/
theorem noUnreadForEnded_run (createdAt : DateTime) (steps : List MailStep)
    (h : ∀ before step after, steps = before ++ step :: after →
      step.MeetsNoEnded (MailStep.run (.migrated createdAt) before)) :
    ∀ before after, steps = before ++ after →
      NoUnreadForEnded (MailStep.run (.migrated createdAt) before) := by
  intro before
  induction before using List.reverseRecOn with
  | nil =>
      intro _ _ key delivery hkey
      rw [MailStep.run, List.foldl_nil, Database.migrated, Table.lookup_empty] at hkey
      cases hkey
  | append_singleton before step ih =>
      intro after hsteps
      have hsplit : steps = before ++ step :: after := by
        rw [hsteps, List.append_assoc]
        rfl
      rw [MailStep.run, List.foldl_append]
      exact (ih (step :: after) hsplit).apply (h before step after hsplit)

/-- The draft of a session, for the runs on fixed inputs below. -/
def sampleDraft (id : SessionId) : SessionDraft where
  id := id
  runtime := .claude
  role := "engineer"
  workspace := "/work"
  namespaceSlug := "default"
  dir := "/work"
  labels := []
  agentConfig := none
  createdAtMs := 0

/-- A mail of an operator. -/
def sampleMail (id : MessageId) (recipientId : SessionId) : Mail where
  id := id
  sender := .operator "user:operator"
  recipientId := recipientId
  content := "status?"
  sentAt := 5
  readAt := none
  status := .unread
  contextId := "context"
  intent := .request
  idempotencyKey := none

/-- Every step of a run meets no ended session, in the store it is taken in. -/
def MeetThroughout : Database → List MailStep → Prop
  | _, [] => True
  | db, step :: rest => step.MeetsNoEnded db ∧ MeetThroughout (step.apply db) rest

instance decidableMeetThroughout : (db : Database) → (steps : List MailStep) →
    Decidable (MeetThroughout db steps)
  | _, [] => isTrue trivial
  | db, step :: rest =>
      have := decidableMeetThroughout (step.apply db) rest
      inferInstanceAs (Decidable (_ ∧ _))

theorem MeetThroughout.meets {db : Database} {steps : List MailStep}
    (h : MeetThroughout db steps) :
    ∀ before step after, steps = before ++ step :: after →
      step.MeetsNoEnded (MailStep.run db before) := by
  intro before
  induction before generalizing db steps with
  | nil =>
      rintro step after rfl
      exact h.1
  | cons first before ih =>
      rintro step after rfl
      exact ih h.2 step after rfl

/-- Session 2 writes to session 1, which reads the mail; the receipt goes back. A mail for
session 2 comes from an earlier choice of recipients, and then both sessions end: the one
that has read its mail by an event, the other one by the reaper. -/
def orderlyRun : List MailStep :=
  [.spawn (sampleDraft ⟨1⟩) (sampleLifecycle ⟨1⟩ .running) none 0,
    .spawn (sampleDraft ⟨2⟩) (sampleLifecycle ⟨2⟩ .running) none 0,
    .mailSend ⟨8, 8, 60⟩ { sampleMail ⟨7⟩ ⟨1⟩ with sender := .session ⟨2⟩ } [⟨1⟩]
      (fun _ => true) 5,
    .mailRead ⟨1⟩ 6 fun _ => (⟨8⟩, "read"),
    .insertMail (sampleMail ⟨9⟩ ⟨2⟩) [⟨2⟩],
    .applyEvents [.terminated ⟨1⟩ (some 0) none .processExit] 1 10,
    .persistChildExit ⟨⟨2⟩, 100, some 0, none⟩ 11]

theorem noUnreadForEnded_orderlyRun :
    NoUnreadForEnded (MailStep.run (.migrated 0) (orderlyRun.take 6)) ∧
      ¬NotEnded (MailStep.run (.migrated 0) (orderlyRun.take 6)) ⟨1⟩ ∧
      (MailStep.run (.migrated 0) (orderlyRun.take 6)).deliveries.lookup (⟨9⟩, ⟨2⟩) =
        some ⟨.unread, none⟩ ∧
      NoUnreadForEnded (MailStep.run (.migrated 0) orderlyRun) ∧
      ¬NotEnded (MailStep.run (.migrated 0) orderlyRun) ⟨2⟩ := by
  have hmeets : MeetThroughout (.migrated 0) orderlyRun := by decide +kernel
  have hall := noUnreadForEnded_run 0 orderlyRun hmeets.meets
  refine ⟨hall _ (orderlyRun.drop 6) (List.take_append_drop 6 orderlyRun).symm, ?_, ?_,
    hall _ [] (List.append_nil _).symm, ?_⟩
  · decide +kernel
  · decide +kernel
  · decide +kernel

/-- A session is spawned and an operator writes to it. -/
def unreadRun : List MailStep :=
  [.spawn (sampleDraft ⟨1⟩) (sampleLifecycle ⟨1⟩ .running) none 0,
    .mailSend ⟨8, 8, 60⟩ (sampleMail ⟨7⟩ ⟨1⟩) [⟨1⟩] (fun _ => true) 5]

/-- The runtime exits before the session has read its mail. The event batch ends
the row and leaves the delivery unread. -/
theorem event_strands_unread_mail :
    ¬∀ steps : List MailStep, NoUnreadForEnded (MailStep.run (.migrated 0) steps) := by
  intro h
  have hrun := h (unreadRun ++ [.applyEvents [.terminated ⟨1⟩ (some 0) none .processExit] 1 10])
  exact hrun (⟨7⟩, ⟨1⟩) ⟨.unread, none⟩ rfl rfl _ rfl rfl

end LittleOrgans.Session
