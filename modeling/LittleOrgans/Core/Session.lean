import LittleOrgans.Core.Lifecycle

/-!
# Sessions and mail

The data model of `lilo-session-core`: sessions with their labels, the draft a
spawn intent keeps, and mail. `SessionDraft.runningSession` builds the session a
spawn commits from the lifecycle the runtime handed back;
`runningSession_eq_ok` is its inversion lemma.
-/

set_option autoImplicit false

namespace LittleOrgans.Core

/-- Runtime kinds a session can ask for. -/
inductive SessionRuntimeKind where
  | claude
  | codex
  deriving DecidableEq

/-- The runtime daemon's name for a session runtime kind. -/
def SessionRuntimeKind.runtimeKind : SessionRuntimeKind → RuntimeKind
  | .claude => .claude
  | .codex => .codex

/-- A label of a session. -/
structure Label where
  key : String
  value : String
  deriving DecidableEq

/-- Session states, with the evidence of a loss. -/
inductive SessionState where
  | spawning
  | running
  | terminated
  | lost (evidence : LostEvidence)
  deriving DecidableEq

/-- States in which the session may still do work. -/
def SessionState.isActive : SessionState → Bool
  | .spawning => true
  | .running => true
  | .terminated => false
  | .lost _ => false

/-- A session, as the session daemon keeps it. -/
structure Session where
  id : SessionId
  runtime : SessionRuntimeKind
  role : String
  workspace : String
  namespaceSlug : String
  dir : String
  labels : List Label
  state : SessionState
  runtimePid : Pid
  runtimeSession : Option String
  transcriptPath : Option String
  tmuxPane : Option String
  agentConfig : Option String
  createdAt : DateTime
  startedAt : DateTime
  terminatedAt : Option DateTime
  exitCode : Option Int
  updatedAt : DateTime
  deriving DecidableEq

/-- What a spawn intent remembers about the session it will create. -/
structure SessionDraft where
  id : SessionId
  runtime : SessionRuntimeKind
  role : String
  workspace : String
  namespaceSlug : String
  dir : String
  labels : List Label
  agentConfig : Option String
  createdAtMs : Int
  deriving DecidableEq

/-- Errors of the spawn-intent store that do not come from the database. -/
inductive SpawnIntentError where
  | missingRuntimePid (sessionId : SessionId)
  | notRunning (sessionId : SessionId)
  | timestampOutOfRange (value : Int)
  deriving DecidableEq

/-- Bounds, in milliseconds, of the timestamps `chrono` represents. -/
def timestampMillisMin : Int := -8334601228800000

/-- The largest number of milliseconds a timestamp can have. -/
def timestampMillisMax : Int := 8210266876799999

/-- Milliseconds to a timestamp. -/
def timestampMillis (value : Int) : Except SpawnIntentError DateTime :=
  if timestampMillisMin ≤ value ∧ value ≤ timestampMillisMax then .ok (value * 1000)
  else .error (.timestampOutOfRange value)

/-- The session of a draft whose runtime runs. -/
def SessionDraft.runningSession (draft : SessionDraft) (lifecycle : Lifecycle)
    (stdoutPath : Option String) (updatedAt : DateTime) : Except SpawnIntentError Session :=
  if lifecycle.state ≠ .running then .error (.notRunning draft.id)
  else
    match lifecycle.runtimePid with
    | none => .error (.missingRuntimePid draft.id)
    | some runtimePid => do
        let createdAt ← timestampMillis draft.createdAtMs
        pure
          { id := draft.id
            runtime := draft.runtime
            role := draft.role
            workspace := draft.workspace
            namespaceSlug := draft.namespaceSlug
            dir := draft.dir
            labels := draft.labels
            state := .running
            runtimePid := runtimePid
            runtimeSession := none
            transcriptPath := stdoutPath.or lifecycle.transcriptPath
            tmuxPane := lifecycle.tmuxPane.map TmuxAddress.toString
            agentConfig := draft.agentConfig
            createdAt := createdAt
            startedAt := lifecycle.startTime.getD updatedAt
            terminatedAt := none
            exitCode := none
            updatedAt := updatedAt }

theorem SessionDraft.runningSession_eq_ok {draft : SessionDraft} {lifecycle : Lifecycle}
    {stdoutPath : Option String} {updatedAt : DateTime} {session : Session}
    (h : draft.runningSession lifecycle stdoutPath updatedAt = .ok session) :
    lifecycle.state = .running ∧ session.id = draft.id ∧ session.labels = draft.labels ∧
      session.state = .running := by
  rw [runningSession] at h
  split at h
  · cases h
  · next hstate =>
      cases hpid : lifecycle.runtimePid with
      | none => simp [hpid] at h
      | some runtimePid =>
          rw [hpid] at h
          cases hcreated : timestampMillis draft.createdAtMs with
          | error e =>
              rw [hcreated] at h
              cases h
          | ok createdAt =>
              rw [hcreated] at h
              cases h
              exact ⟨not_not.mp hstate, rfl, rfl, rfl⟩

/-! ## Mail -/

/-- The id of a mail. -/
structure MessageId where
  uuid : BitVec 128
  deriving DecidableEq, Inhabited

/-- Where a mail is for its recipient. -/
inductive MailStatus where
  | unread
  | read
  | undeliverable
  deriving DecidableEq

/-- What a mail is meant as. -/
inductive MailIntent where
  | request
  | result
  | inform
  | receipt
  deriving DecidableEq

/-- Author of a message. The principal of an operator is a JSON value, kept as
its text. -/
inductive SenderRef where
  | session (sessionId : SessionId)
  | operator (principal : String)
  | system
  deriving DecidableEq

/-- A mail to one recipient. -/
structure Mail where
  id : MessageId
  sender : SenderRef
  recipientId : SessionId
  content : String
  sentAt : DateTime
  readAt : Option DateTime
  status : MailStatus
  contextId : String
  intent : MailIntent
  idempotencyKey : Option String
  deriving DecidableEq

end LittleOrgans.Core
