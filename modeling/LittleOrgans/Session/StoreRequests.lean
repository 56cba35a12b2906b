import LittleOrgans.Library.StepSystem
import LittleOrgans.Session.MailRendering
import LittleOrgans.Store.SpawnIntents

/-!
# Requests on the session store

Any number of requests of the session daemon, interleaved between their store calls:
spawns with both their transactions, label edits, mail sends, reads with their receipts,
session deletes, and namespaces that are created and deleted. A call is one statement or
one transaction, but the transaction that deletes the sessions of a namespace goes
statement by statement: what it has deleted so far stays visible to the others until it
commits, and what is added meanwhile it does not delete.

What a request meets outside the store is the choice of its step.
-/

set_option autoImplicit false

namespace LittleOrgans.Session

open LittleOrgans.Core
open LittleOrgans.Library
open LittleOrgans.Store
open LittleOrgans.Daemon

/-! ## Label edits -/

inductive LabelMutation where
  | set (label : Label)
  | remove (key : String)

/-- `apply_label_mutation`: no look at the session before the write. -/
def LabelMutation.apply (db : Database) (id : SessionId) : LabelMutation → Database
  | .set label => db.upsertLabels id [label]
  | .remove key => { db with labels := db.labels.erase (id, key) }

/-! ## The deletion of the sessions of a namespace -/

/-- A statement of `delete_sessions_by_namespace`. -/
inductive DeleteStatement where
  | labels (id : SessionId)
  | deliveries (id : SessionId)
  | messages (id : SessionId)
  | sessions
  deriving DecidableEq

/-- The statements for the listed sessions. -/
def deleteStatements (ids : List SessionId) : List DeleteStatement :=
  ids.flatMap (fun id => [.labels id, .deliveries id]) ++ ids.map .messages ++ [.sessions]

/-- The keys of the rows a deletion has deleted and not committed. -/
structure Deleted where
  labels : List (SessionId × String)
  deliveries : List (MessageId × SessionId)
  messages : List MessageId
  sessions : List SessionId

namespace Deleted

def none : Deleted := ⟨[], [], [], []⟩

/-- One statement, over what is committed less what the transaction has deleted. -/
def statement (slug : String) (db : Database) (deleted : Deleted) : DeleteStatement → Deleted
  | .labels id =>
      { deleted with
        labels := deleted.labels ++
          (db.labels.rows.map Prod.fst).filter fun key => key.1 = id }
  | .deliveries id =>
      { deleted with
        deliveries := deleted.deliveries ++
          (db.deliveries.rows.map Prod.fst).filter fun key => key.2 = id }
  | .messages id =>
      { deleted with
        messages := deleted.messages ++
          (db.messages.rows.filter fun row =>
            row.2.sender = .session id ∧
              ∀ key ∈ db.deliveries.rows.map Prod.fst, key.1 = row.1 →
                key ∈ deleted.deliveries).map Prod.fst }
  | .sessions => { deleted with sessions := deleted.sessions ++ db.sessionIdsInNamespace slug }

/-- `COMMIT` of a deletion. -/
def commit (deleted : Deleted) (db : Database) : Database :=
  { db with
    labels := db.labels.filterRows fun key _ => key ∉ deleted.labels
    deliveries := db.deliveries.filterRows fun key _ => key ∉ deleted.deliveries
    messages := db.messages.filterRows fun id _ => id ∉ deleted.messages
    sessions := db.sessions.filterRows fun id _ => id ∉ deleted.sessions }

end Deleted

/-! ## Requests -/

/-- A request before its next store call. `abort` stands before the abort of a spawn
intent; `deleting` is inside the transaction that deletes the sessions of a namespace. -/
inductive StoreRequest where
  | spawn (intent : PendingSpawnIntent)
  | beginIntent (intent : PendingSpawnIntent)
  | runtimeSpawn (intent : PendingSpawnIntent)
  | revalidate (intent : PendingSpawnIntent) (session : Session) (lifecycle : Lifecycle)
  | commitIntent (intent : PendingSpawnIntent) (session : Session) (lifecycle : Lifecycle)
  | abort (intent : PendingSpawnIntent) (reason : AbortReason)
  | label (selector : Selector) (mutation : LabelMutation)
  | mutate (rest : List SessionId) (mutation : LabelMutation)
  | send (context : RequestContext) (request : MailSendRequest) (env : SendEnv)
  | replay (mail : Mail) (recipientIds : List SessionId)
  | check (mail : Mail) (recipientIds : List SessionId)
  | insert (mail : Mail) (recipientIds : List SessionId)
  | read (context : RequestContext) (env : ReadEnv)
  | drain (id : SessionId) (env : ReadEnv)
  | receipts (env : ReadEnv) (rest : List Mail)
  | delete (selector : Selector)
  | terminate (rest : List SessionId)
  | createNamespace (slug : String) (createdAt : DateTime)
  | deleteNamespace (slug : String)
  | listCascade (slug : String)
  | cascade (slug : String) (rest : List SessionId)
  | countActive (slug : String)
  | listDeleted (slug : String)
  | deleting (slug : String) (rest : List DeleteStatement) (deleted : Deleted)
  | removeEntry (slug : String)
  | ended

/-- What a request meets in a step: the call goes through; it is refused to the caller
or fails; the runtime has spawned; an exit is persisted; the time of the call. -/
inductive StoreChoice where
  | goOn
  | refused
  | fault
  | spawned (lifecycle : Lifecycle) (stdoutPath : Option String) (updatedAt : DateTime)
  | exit (exit : ChildExit) (now : DateTime)
  | timed (now : DateTime)

namespace StoreRequest

/-- The ids a selector lists. -/
def listed (db : Database) (selector : Selector) : Option (List SessionId) :=
  match db.listSessionsBySelector selector with
  | .ok sessions => some (sessions.map fun session => session.id)
  | .error _ => none

/-- The receipt for a drained mail. -/
def receiptFor (env : ReadEnv) (sender : SessionId) (item : Mail) : Mail :=
  readReceipt (env.fresh item).1 sender item (env.fresh item).2 env.now

/-- The next store call of a request: what is left of the request, and the store. -/
def next (limits : MailSafetyConfig) (db : Database) :
    StoreRequest → StoreChoice → Option (StoreRequest × Database)
  | .ended, _ => none
  -- `spawn`
  | .spawn intent, .goOn =>
      if db.namespaceExists intent.sessionDraft.namespaceSlug then some (.beginIntent intent, db)
      else some (.ended, db)
  | .beginIntent intent, .goOn =>
      match db.beginSpawnIntent intent with
      | .ok db' => some (.runtimeSpawn intent, db')
      | .error _ => some (.ended, db)
  | .runtimeSpawn intent, .spawned lifecycle stdoutPath updatedAt =>
      match intent.sessionDraft.runningSession lifecycle stdoutPath updatedAt with
      | .ok session => some (.revalidate intent session lifecycle, db)
      | .error _ => some (.ended, db)
  | .runtimeSpawn intent, .refused =>
      some (.abort intent (.spawnFailure (.io "runtime spawn failed")), db)
  | .revalidate intent session lifecycle, .goOn =>
      if db.namespaceExists session.namespaceSlug then
        some (.commitIntent intent session lifecycle, db)
      else some (.abort intent .namespaceDeletedBeforeCommit, db)
  | .commitIntent intent session lifecycle, .timed now =>
      match db.commitSpawnIntent intent.sessionId session lifecycle now with
      | .ok db' => some (.ended, db')
      | .error e => some (.abort intent (.sessionCommitFailed e), db)
  | .abort intent reason, .timed now =>
      some (.ended, db.abortSpawnIntent intent.sessionId reason now)
  -- `label`
  | .label selector mutation, .goOn =>
      match listed db selector with
      | some ids => some (.mutate ids mutation, db)
      | none => some (.ended, db)
  | .mutate (id :: rest) mutation, .goOn => some (.mutate rest mutation, mutation.apply db id)
  | .mutate (_ :: rest) mutation, .refused => some (.mutate rest mutation, db)
  -- `mail_send`
  | .send context request env, .goOn =>
      match prepareSend db context request with
      | .error _ => some (.ended, db)
      | .ok (sessions, sender) =>
          match deliverableSessions sessions env.authorized with
          | [] => some (.ended, db)
          | first :: rest =>
              some (.replay (mailFromRequest request sender first.id env)
                ((first :: rest).map fun session => session.id), db)
  | .replay mail recipientIds, .goOn =>
      match appendIdempotentMail db mail recipientIds with
      | .ok none => some (.check mail recipientIds, db)
      | .ok (some _) => some (.ended, db)
      | .error _ => some (.ended, db)
  | .check mail recipientIds, .timed now =>
      match checkMailSafety db limits mail now with
      | .ok () => some (.insert mail recipientIds, db)
      | .error _ => some (.ended, db)
  | .insert mail recipientIds, .goOn =>
      match db.insertMailForRecipients mail recipientIds with
      | .ok (_, db') => some (.ended, db')
      | .error _ => some (.ended, db)
  -- `mail_read`
  | .read context env, .goOn =>
      match callerMailbox db context with
      | .error _ => some (.ended, db)
      | .ok recipient =>
          if env.authorized recipient.id then some (.drain recipient.id env, db)
          else some (.ended, db)
  | .drain id env, .goOn =>
      let drained := db.readUnreadMail id env.now false
      some (.receipts env drained.1, drained.2)
  | .receipts env (item :: rest), .goOn =>
      match receiptTo item with
      | none => some (.receipts env rest, db)
      | some sender =>
          if item.readAt = none then some (.ended, db)
          else
            match db.insertMail (receiptFor env sender item) with
            | .ok (_, db') => some (.receipts env rest, db')
            | .error _ => some (.ended, db)
  -- `delete`: the exits of the sessions it terminates, and of those reaped before
  | .delete selector, .goOn =>
      match listed db selector with
      | some ids => some (.terminate ids, db)
      | none => some (.ended, db)
  | .terminate rest, .exit exit now => some (.terminate rest, persistChildExit db exit now)
  | .terminate (_ :: rest), .goOn => some (.terminate rest, db)
  -- namespaces
  | .createNamespace slug createdAt, .goOn =>
      some (.ended, { db with namespaces := db.namespaces.insert slug createdAt })
  | .deleteNamespace slug, .goOn =>
      if slug = "default" then some (.ended, db)
      else if db.namespaceExists slug then some (.listCascade slug, db)
      else some (.ended, db)
  | .listCascade slug, .goOn =>
      match listed db (.inNamespace slug) with
      | some ids => some (.cascade slug ids, db)
      | none => some (.ended, db)
  | .cascade slug rest, .exit exit now => some (.cascade slug rest, persistChildExit db exit now)
  | .cascade slug (_ :: rest), .goOn => some (.cascade slug rest, db)
  -- a session that could not be terminated: the others are, and the namespace stays
  | .cascade _ (_ :: rest), .refused => some (.terminate rest, db)
  | .cascade slug [], .goOn => some (.countActive slug, db)
  | .countActive slug, .goOn =>
      match db.listSessionsBySelector (.inNamespace slug) with
      | .error _ => some (.ended, db)
      | .ok sessions =>
          if sessions.any fun session => session.state.isActive then some (.ended, db)
          else some (.listDeleted slug, db)
  | .listDeleted slug, .goOn =>
      match listed db (.inNamespace slug) with
      | some ids => some (.deleting slug (deleteStatements ids) .none, db)
      | none => some (.ended, db)
  | .deleting slug (statement :: rest) deleted, .goOn =>
      some (.deleting slug rest (deleted.statement slug db statement), db)
  | .deleting slug [] deleted, .goOn => some (.removeEntry slug, deleted.commit db)
  | .removeEntry slug, .goOn => some (.ended, db.deleteNamespace slug)
  -- a call fails, and a transaction with it; a loop has no more rounds
  | _, .fault => some (.ended, db)
  | .mutate [] _, .goOn => some (.ended, db)
  | .receipts _ [], .goOn => some (.ended, db)
  | .terminate [], .goOn => some (.ended, db)
  | _, _ => none

/-- The message id the step writes a mail under. -/
def newMessage : StoreRequest → Option MessageId
  | .insert mail _ => some mail.id
  | .receipts env (item :: _) => (receiptTo item).map fun _ => (env.fresh item).1
  | _ => none

/-- A request that has just come in. -/
def isNew : StoreRequest → Bool
  | .spawn _ => true
  | .label _ _ => true
  | .send _ _ _ => true
  | .read _ _ => true
  | .delete _ => true
  | .createNamespace _ _ => true
  | .deleteNamespace _ => true
  | _ => false

end StoreRequest

/-- The store, the message ids that mail was written under, and the requests. -/
structure StoreState (ι : Type) where
  db : Database
  issued : List MessageId
  requests : ι → StoreRequest

/-- The requests, interleaved. A message id is fresh: no mail was written under it. -/
def storeSystem (limits : MailSafetyConfig) (ι : Type) [DecidableEq ι] :
    StepSystem (StoreState ι) (ι × StoreChoice) where
  step s a :=
    let request := s.requests a.1
    if request.newMessage.any fun id => id ∈ s.issued then none
    else
      (request.next limits s.db a.2).map fun next =>
        { db := next.2
          issued := request.newMessage.toList ++ s.issued
          requests := Function.update s.requests a.1 next.1 }

/-- A migrated store and requests that have just come in. -/
structure StoreStart {ι : Type} (s : StoreState ι) : Prop where
  db : ∃ createdAt, s.db = .migrated createdAt
  requests : ∀ i, (s.requests i).isNew = true

end LittleOrgans.Session
