import LittleOrgans.Concurrency.SessionPrograms
import LittleOrgans.Handler.Requests
import LittleOrgans.Library.Mediation
import LittleOrgans.Library.UnixPath
import LittleOrgans.Store.LabelEdits
import LittleOrgans.Store.RuntimeEvents

/-!
# What a handler calls

The operations of the session daemon between two awaits: a call of the session store, one
transaction of the spawn path, a call of the runtime port, and what the daemon asks its host
for. A transaction is a program of its own whose statements become visible together, or not
at all.

What an operation answers is decided by a `Choice`. A call of the store can fail without an
effect, and it can take effect while its answer is lost. The runtime answers what it likes and
leaves the lifecycle table as it likes, except that a spawn returns the lifecycle of its
request and an exit is that of the session that was asked for.
-/

set_option autoImplicit false

namespace LittleOrgans.Handler

open LittleOrgans.Core
open LittleOrgans.Library
open LittleOrgans.Store
open LittleOrgans.Daemon (ChildExit)
open LittleOrgans.Concurrency (RuntimeSignal SpawnedProcess)
open LittleOrgans.Identity
open LittleOrgans.Runtime (NudgeMode)
open LittleOrgans.Session (MailLogFilter)

/-- The tables of the store, and the audit log in the order its rows were written. -/
structure DaemonStore where
  db : Database
  audit : List AuditRow

namespace DaemonStore

/-- Writes one audit row. -/
def record (s : DaemonStore) (row : AuditRow) : DaemonStore := { s with audit := s.audit ++ [row] }

/-- The daemon's state over another store. -/
def withDb (s : DaemonStore) (db : Database) : DaemonStore := { s with db := db }

@[simp]
theorem db_record (s : DaemonStore) (row : AuditRow) : (s.record row).db = s.db := rfl

@[simp]
theorem audit_record (s : DaemonStore) (row : AuditRow) :
    (s.record row).audit = s.audit ++ [row] := rfl

@[simp]
theorem db_withDb (s : DaemonStore) (db : Database) : (s.withDb db).db = db := rfl

@[simp]
theorem audit_withDb (s : DaemonStore) (db : Database) : (s.withDb db).audit = s.audit := rfl

end DaemonStore

/-! ## Transactions of the spawn path -/

/-- The statements inside a transaction of a handler. -/
inductive Statement where
  | recordAudit (row : AuditRow)
  | insertPendingSpawnIntent (intent : PendingSpawnIntent)
  | insertForking (lifecycle : Lifecycle)
  | insertSession (session : Session)
  | updateLifecycle (lifecycle : Lifecycle)
  | resolveSpawnIntent (id : SessionId)
  | abortSpawnIntent (id : SessionId) (reason : AbortReason)
  | deleteLifecycle (id : SessionId)

/-- One statement; `now` is the clock it reads. -/
def Statement.run (now : DateTime) (s : DaemonStore) : Statement → Except DaemonError DaemonStore
  | .recordAudit row => .ok (s.record row)
  | .insertPendingSpawnIntent intent => (s.db.insertPendingSpawnIntent intent).map s.withDb
  | .insertForking lifecycle => (s.db.insertForking lifecycle).map s.withDb
  | .insertSession session => (s.db.insertSession session).map s.withDb
  | .updateLifecycle lifecycle => (s.db.updateLifecycle lifecycle).map s.withDb
  | .resolveSpawnIntent id =>
      .ok (s.withDb (s.db.updateSpawnIntentStatus id (now / 1000) .resolved))
  | .abortSpawnIntent id reason =>
      .ok (s.withDb (s.db.updateSpawnIntentStatus id (now / 1000) (.aborted reason)))
  | .deleteLifecycle id => .ok (s.withDb (s.db.deleteLifecycle id))

/-- What the body of a transaction calls. -/
inductive TxOp where
  | newAuditId
  | now
  | statement (statement : Statement)

/-- What an operation of a transaction returns. -/
abbrev TxOp.Res : TxOp → Type
  | newAuditId => AuditId
  | now => DateTime
  | statement _ => Unit

/-- The operations of a transaction, as a signature of programs. -/
abbrev txOps : Signature := ⟨TxOp, TxOp.Res⟩

/-- The body of a transaction. -/
abbrev TxProg (α : Type) := Prog txOps Report α

/-- What the environment decides about one operation of a transaction. -/
structure TxChoice where
  fault : Option Report
  auditId : AuditId
  now : DateTime

/-- A statement that the store refuses fails; so does one that the environment lets fail. -/
def TxOp.exec (choice : TxChoice) (o : TxOp) (s : DaemonStore) :
    Option (Except Report o.Res × DaemonStore) :=
  match choice.fault with
  | some report => some (.error report, s)
  | none =>
      match o with
      | newAuditId => some (.ok choice.auditId, s)
      | now => some (.ok choice.now, s)
      | statement t => (t.run choice.now s).toOption.map fun s' => (.ok (), s')

/-- A statement of a transaction. -/
def statement (t : Statement) : TxProg Unit := Prog.call (S := txOps) (.statement t)

/-- An open transaction as the place where decisions are recorded. -/
def txSink : AuditSink txOps where
  auditId := Prog.call (S := txOps) .newAuditId
  now := Prog.call (S := txOps) .now
  record row := statement (.recordAudit row)

/-! ## The session store -/

/-- The store calls of the handlers, each a transaction of its own. -/
inductive StoreOp where
  | recordAudit (row : AuditRow)
  | namespaceExists (slug : String)
  | createNamespace (slug : String) (createdAt : DateTime)
  | listNamespaces
  | deleteNamespace (slug : String)
  | deleteSessionsByNamespace (slug : String)
  | activeSessionCountInNamespace (slug : String)
  | listSessionsBySelector (selector : Selector)
  | listSessionsByIds (ids : List SessionId)
  | getSession (id : SessionId)
  | applyLabelMutation (id : SessionId) (mutation : LabelMutation)
  | recordTranscriptPath (id : SessionId) (path : String) (now : DateTime)
  | markSessionTerminated (id : SessionId) (exitCode : Option Int) (now : DateTime)
  | markSessionLost (id : SessionId) (evidence : LostEvidence) (now : DateTime)
  | readUnreadMail (id : SessionId) (readAt : DateTime) (peek : Bool)
  | countUnreadMail (id : SessionId)
  | idempotentMailForRecipients (mail : Mail) (recipientIds : List SessionId)
  | insertMailForRecipients (mail : Mail) (recipientIds : List SessionId)
  | countConversationDepth (contextId : String)
  | countSenderRateSince (sender : SenderRef) (since : DateTime)
  | listMessageLog (contextId : Option String)
      (participantIds recipientIds : Option (List SessionId)) (includeSystem : Bool)
      (after : Option MailLogCursor)
  | listPendingSpawnIntents
  | eventCursor
  | applyRuntimeEventsAndCursor (events : List RuntimeEvent) (nextCursor : EventCursor)
      (now : DateTime)
  | applyCursor (cursor : EventCursor)

namespace StoreOp

/-- What a store call returns. -/
abbrev Res : StoreOp → Type
  | recordAudit _ => Unit
  | namespaceExists _ => Bool
  | createNamespace _ _ => Unit
  | listNamespaces => List NamespaceRecord
  | deleteNamespace _ => Bool
  | deleteSessionsByNamespace _ => Unit
  | activeSessionCountInNamespace _ => Nat
  | listSessionsBySelector _ => List Session
  | listSessionsByIds _ => List Session
  | getSession _ => Option Session
  | applyLabelMutation _ _ => Option Session
  | recordTranscriptPath _ _ _ => Option Session
  | markSessionTerminated _ _ _ => Option Session
  | markSessionLost _ _ _ => Option Session
  | readUnreadMail _ _ _ => List Mail
  | countUnreadMail _ => Nat
  | idempotentMailForRecipients _ _ => Option (List Mail)
  | insertMailForRecipients _ _ => MailWriteOutcome
  | countConversationDepth _ => Nat
  | countSenderRateSince _ _ => Nat
  | listMessageLog _ _ _ _ _ => List Mail
  | listPendingSpawnIntents => List PendingSpawnIntent
  | eventCursor => Option EventCursor
  | applyRuntimeEventsAndCursor _ _ _ => Unit
  | applyCursor _ => Unit

/-- `list_namespaces`, `ORDER BY slug`. -/
def namespaceRecords (db : Database) : List NamespaceRecord :=
  (db.namespaces.rows.map fun row => NamespaceRecord.mk row.1 row.2).insertionSort fun a b =>
    a.slug ≤ b.slug

/-- `create_namespace`; the slug is the primary key. -/
def insertNamespace (db : Database) (slug : String) (createdAt : DateTime) : Option Database :=
  if db.namespaces.contains slug then none
  else some { db with namespaces := db.namespaces.insert slug createdAt }

/-- The sessions of a namespace that run or are being spawned. -/
def activeSessions (sessions : List Session) : Nat :=
  sessions.countP fun session => session.state.isActive

/-- A query: the store stays as it is. -/
def query {α : Type} (s : DaemonStore) (answer : Option α) : Option (Option α × DaemonStore) :=
  some (answer, s)

/-- An update with an answer. -/
def written {α : Type} (answer : α) (s : DaemonStore) : Option (Option α × DaemonStore) :=
  some (some answer, s)

/-- An update of one session, then the session as it is stored. -/
def updated (s : DaemonStore) (id : SessionId) (db : Database) :
    Option (Option (Option Session) × DaemonStore) :=
  some ((db.getSession id).toOption, s.withDb db)

/-- The call itself. The store refuses it where there is no result; where there is no answer,
it took effect and what it reads afterwards does not decode. -/
def run (s : DaemonStore) : (o : StoreOp) → Option (Option o.Res × DaemonStore)
  | recordAudit row => written () (s.record row)
  | namespaceExists slug => query s (some (s.db.namespaceExists slug))
  | createNamespace slug createdAt =>
      (insertNamespace s.db slug createdAt).bind fun db => written () (s.withDb db)
  | listNamespaces => query s (some (namespaceRecords s.db))
  | deleteNamespace slug =>
      written (s.db.namespaceExists slug) (s.withDb (s.db.deleteNamespace slug))
  | deleteSessionsByNamespace slug =>
      (s.db.listSessionsBySelector (.inNamespace slug)).toOption.bind fun _ =>
        written () (s.withDb (s.db.deleteSessionsByNamespace slug))
  | activeSessionCountInNamespace slug =>
      query s ((s.db.listSessionsBySelector (.inNamespace slug)).toOption.map activeSessions)
  | listSessionsBySelector selector => query s (s.db.listSessionsBySelector selector).toOption
  | listSessionsByIds ids => query s (s.db.listSessionsByIds ids).toOption
  | getSession id => query s (s.db.getSession id).toOption
  | applyLabelMutation id mutation => updated s id (s.db.editLabel id mutation)
  | recordTranscriptPath id path now => updated s id (s.db.recordTranscriptPath id path now)
  | markSessionTerminated id exitCode now =>
      updated s id (s.db.markSessionTerminated id exitCode now)
  | markSessionLost id evidence now => updated s id (s.db.markSessionLost id evidence now)
  | readUnreadMail id readAt peek =>
      written (s.db.readUnreadMail id readAt peek).1
        (s.withDb (s.db.readUnreadMail id readAt peek).2)
  | countUnreadMail id =>
      query s (some (s.db.deliveries.rows.countP fun row =>
        row.1.2 = id ∧ row.2.status = .unread))
  | idempotentMailForRecipients mail recipientIds =>
      query s (s.db.loadIdempotentReplay mail recipientIds).toOption
  | insertMailForRecipients mail recipientIds =>
      (s.db.insertMailForRecipients mail recipientIds).toOption.bind fun result =>
        written result.1 (s.withDb result.2)
  | countConversationDepth contextId =>
      query s (some (Session.countConversationDepth s.db contextId))
  | countSenderRateSince sender since =>
      query s (some (Session.countSenderRateSince s.db sender since))
  | listMessageLog contextId participantIds recipientIds includeSystem after =>
      query s (some (s.db.listMessageLog contextId participantIds recipientIds includeSystem after))
  | listPendingSpawnIntents =>
      query s (some (s.db.listPendingSpawnIntents.map Concurrency.StoreOp.intentOfRow))
  | eventCursor => query s (some s.db.eventCursor)
  | applyRuntimeEventsAndCursor events nextCursor now =>
      written () (s.withDb (s.db.applyRuntimeEventsAndCursor events nextCursor now))
  | applyCursor cursor => written () (s.withDb (s.db.applyCursor cursor))

end StoreOp

/-! ## The runtime port -/

/-- What a spawn request ran into. -/
inductive SpawnConflictKind where
  | sessionId
  | tmuxPaneOccupancy
  deriving DecidableEq

/-- The answer to a spawn: a process, or the one fault that the port tells apart. -/
inductive SpawnAnswer where
  | spawned (process : SpawnedProcess)
  | conflict (kind : SpawnConflictKind) (message : String)

/-- What the runtime says of a nudge. -/
structure NudgeResult where
  delivered : Bool
  message : String

/-- A page of the event log, or the notice that the cursor has fallen behind it. -/
inductive EventBatch where
  | events (events : List RuntimeEvent) (cursor : EventCursor)
  | cursorExpired (oldest : EventCursor)

/-- The calls on the runtime, through its port. -/
inductive PortOp where
  | spawn (request : RuntimeSpawnRequest)
  | reapExited
  | capture (id : SessionId) (scrollbackLines : Option Nat)
  | terminate (id : SessionId) (signal : RuntimeSignal) (graceSecs : Nat)
  | nudge (id : SessionId) (content : String) (mode : NudgeMode) (timeoutMs : Option Nat)
  | status (filter : StatusFilter)
  | doctor
  | pollEvents (since : Option EventCursor)
  | appendEvent (event : RuntimeEvent)

namespace PortOp

/-- What a call on the runtime returns. -/
abbrev Res : PortOp → Type
  | spawn _ => SpawnAnswer
  | reapExited => List ChildExit
  | capture _ _ => PaneCapture
  | terminate _ _ _ => Option ChildExit
  | nudge _ _ _ _ => NudgeResult
  | status _ => List Lifecycle
  | doctor => RuntimeDoctorReport
  | pollEvents _ => EventBatch
  | appendEvent _ => Unit

/-- The answers a runtime can give. -/
def possible : (o : PortOp) → o.Res → Bool
  | spawn request, .spawned process => decide (process.lifecycle.sessionId = request.sessionId)
  | spawn _, .conflict _ _ => true
  | terminate id _ _, some exit => decide (exit.sessionId = id)
  | terminate _ _ _, none => true
  | reapExited, _ => true
  | capture _ _, _ => true
  | nudge _ _ _ _, _ => true
  | status _, _ => true
  | doctor, _ => true
  | pollEvents _, _ => true
  | appendEvent _, _ => true

end PortOp

/-! ## The host -/

/-- What ends a wait for appended mail. -/
inductive AppendWait where
  | appended
  | elapsed
  | closed

/-- What a handler asks of its host: time and fresh ids, paths and files, and waits. -/
inductive HostOp where
  | now
  | newAuditId
  | newSessionId
  | newIntentId
  | newMessageId
  /-- The time in milliseconds that an intent keeps. -/
  | nowMillis
  | isDir (path : String)
  /-- What a path resolves to, if it does. -/
  | canonicalize (path : PathBuf)
  | resolveAgentConfig (path : String)
  | readFile (path : String)
  /-- How often a loop goes round before its deadline. -/
  | rounds
  | sleep
  | subscribeMailAppends
  | awaitMailAppend
  | emitMailAppend (id : MessageId)
  /-- Which of two futures that are polled together goes on. -/
  | pollFirst

namespace HostOp

/-- What the host answers. -/
abbrev Res : HostOp → Type
  | now => DateTime
  | newAuditId => AuditId
  | newSessionId => SessionId
  | newIntentId => IntentId
  | newMessageId => MessageId
  | nowMillis => Int
  | isDir _ => Bool
  | canonicalize _ => Option PathBuf
  | resolveAgentConfig _ => String
  | readFile _ => List UInt8
  | rounds => Nat
  | sleep => Unit
  | subscribeMailAppends => Unit
  | awaitMailAppend => AppendWait
  | emitMailAppend _ => Unit
  | pollFirst => Bool

end HostOp

/-! ## All operations -/

/-- The operations of a handler. -/
inductive HandlerOp where
  | store (o : StoreOp)
  | transaction (acquireContext : String) (body : TxProg (Except Report Unit))
  | port (o : PortOp)
  | host (o : HostOp)

/-- What an operation returns. -/
abbrev HandlerOp.Res : HandlerOp → Type
  | store o => o.Res
  | transaction _ _ => Except Report Unit
  | port o => o.Res
  | host o => o.Res

/-- The operations of the handlers, as a signature of programs. -/
abbrev handlerOps : Signature := ⟨HandlerOp, HandlerOp.Res⟩

/-- Programs of the session daemon. -/
abbrev HandlerProg (α : Type) := Prog handlerOps Report α

/-- What the environment decides about one operation. -/
structure Choice where
  /-- The error a call ends with, if it does. -/
  fault : Option Report
  /-- The call has taken effect when it fails. -/
  late : Bool
  /-- The transaction was begun when it fails. -/
  begun : Bool
  tx : List TxChoice
  port : (o : PortOp) → Option o.Res
  host : (o : HostOp) → Option o.Res
  /-- The lifecycles that the runtime leaves behind a call of the port. -/
  lifecycles : Option (Table SessionId LifecycleRow)

/-- The store after the runtime has written its lifecycles. -/
def DaemonStore.withLifecycles (s : DaemonStore) :
    Option (Table SessionId LifecycleRow) → DaemonStore
  | none => s
  | some lifecycles => s.withDb { s.db with lifecycles := lifecycles }

namespace HandlerOp

/-- A call that has taken effect and is answered. -/
def answered {α : Type} (result : Option α × DaemonStore) :
    Option (Except Report α × DaemonStore) :=
  result.1.map fun a => (.ok a, result.2)

/-- A store call: the error that the choice brings, or the call itself. -/
def execStore (choice : Choice) (o : StoreOp) (s : DaemonStore) :
    Option (Except Report o.Res × DaemonStore) :=
  match choice.fault with
  | none => (o.run s).bind answered
  | some report =>
      if choice.late then (o.run s).map fun result => (.error report, result.2)
      else some (.error report, s)

/-- `commit_or_rollback`: the error of the body leaves the store as it was. -/
def commitOrRollback (s : DaemonStore) (ended : Except Report (Except Report Unit) × DaemonStore) :
    Except Report Unit × DaemonStore :=
  match ended.1 with
  | .ok outcome => (outcome, ended.2)
  | .error report => (.error report, s)

/-- A transaction that was begun and runs to its end. -/
def runBody (choice : Choice) (body : TxProg (Except Report Unit)) (s : DaemonStore) :
    Option (Except Report Unit × DaemonStore) :=
  (body.replay TxOp.exec choice.tx s).map (commitOrRollback s)

/-- A transaction that is not begun fails the call; one whose commit fails has failed as its
outcome, and may have been committed. -/
def execTransaction (choice : Choice) (acquireContext : String)
    (body : TxProg (Except Report Unit)) (s : DaemonStore) :
    Option (Except Report (Except Report Unit) × DaemonStore) :=
  match choice.fault with
  | none => (runBody choice body s).map fun ended => (.ok ended.1, ended.2)
  | some report =>
      if choice.begun then
        if choice.late then (runBody choice body s).map fun ended => (.ok (.error report), ended.2)
        else some (.ok (.error report), s)
      else some (.error (acquireContext :: report), s)

/-- A call on the runtime, which may have moved its lifecycles before it answers. -/
def execPort (choice : Choice) (o : PortOp) (s : DaemonStore) :
    Option (Except Report o.Res × DaemonStore) :=
  let s := s.withLifecycles choice.lifecycles
  match choice.fault with
  | some report => some (.error report, s)
  | none =>
      match choice.port o with
      | some answer => if o.possible answer then some (.ok answer, s) else none
      | none => none

/-- The answer of the host. -/
def execHost (choice : Choice) (o : HostOp) (s : DaemonStore) :
    Option (Except Report o.Res × DaemonStore) :=
  match choice.fault with
  | some report => some (.error report, s)
  | none => (choice.host o).map fun answer => (.ok answer, s)

/-- An operation, with what the environment answers. -/
def exec (choice : Choice) : (o : HandlerOp) → DaemonStore →
    Option (Except Report o.Res × DaemonStore)
  | store o, s => execStore choice o s
  | transaction acquireContext body, s => execTransaction choice acquireContext body s
  | port o, s => execPort choice o s
  | host o, s => execHost choice o s

end HandlerOp

/-- A store call of a handler. -/
def store (o : StoreOp) : HandlerProg o.Res := Prog.call (S := handlerOps) (.store o)

/-- A call of a handler on the runtime. -/
def port (o : PortOp) : HandlerProg o.Res := Prog.call (S := handlerOps) (.port o)

/-- A question of a handler to its host. -/
def host (o : HostOp) : HandlerProg o.Res := Prog.call (S := handlerOps) (.host o)

/-- A transaction with its outcome. -/
def transaction (acquireContext : String) (body : TxProg (Except Report Unit)) :
    HandlerProg (Except Report Unit) :=
  Prog.call (S := handlerOps) (.transaction acquireContext body)

/-- A transaction whose failure ends the program. -/
def transact (acquireContext : String) (body : TxProg (Except Report Unit)) : HandlerProg Unit := do
  let outcome ← transaction acquireContext body
  Prog.ofExcept outcome

/-- The pool of connections as the place where decisions are recorded. -/
def storeSink : AuditSink handlerOps where
  auditId := host .newAuditId
  now := host .now
  record row := store (.recordAudit row)

end LittleOrgans.Handler
