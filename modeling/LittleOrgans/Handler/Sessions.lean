import LittleOrgans.Handler.Operations
import LittleOrgans.Library.Utf8

/-!
# Session requests

The requests of the session daemon that work on sessions: listing, deleting, labelling,
capturing a pane, reading a transcript, waiting and the doctor, with the two tasks they
share with the background: persisting the exits that the runtime reports, and reconciling the
rows with the lifecycles of the runtime.
-/

set_option autoImplicit false

namespace LittleOrgans.Handler

open LittleOrgans.Core
open LittleOrgans.Library
open LittleOrgans.Store
open LittleOrgans.Daemon (ChildExit)
open LittleOrgans.Concurrency (RuntimeSignal)
open LittleOrgans.Identity

/-- What the daemon was started with, and the text formats it leaves to libraries. -/
structure DaemonConfig where
  localUid : UInt32
  /-- `HOME`. -/
  home : Option PathBuf
  daemonVersion : String
  mailSafety : Session.MailSafetyConfig
  formats : TextFormats
  rfc3339 : DateTime → String
  /-- The JSON text of a principal. -/
  principalText : Principal → String

variable (config : DaemonConfig)

/-- The version of the protocol between the two daemons. -/
def RUNTIME_PROTOCOL_VERSION : String := "0.8"

/-! ## Authorization -/

/-- `IdentityPort::authorize`. -/
def authorize (principal : Principal) (action : Action) (resource : ResourceSpec) :
    HandlerProg Unit :=
  Identity.authorize storeSink config.localUid principal action resource

/-- `authorize_session`. -/
def authorizeSession (principal : Principal) (action : Action) (id : SessionId) :
    HandlerProg Unit :=
  authorize config principal action (.session id)

/-! ## Targets -/

/-- The error of a selector that matched nothing. -/
def noSessions (selector : Selector) (label : String) : String :=
  match selector with
  | .id id =>
      if label = "session" then "unknown session: " ++ idText id
      else "unknown " ++ label ++ " session: " ++ idText id
  | other =>
      if label = "session" then
        "selector matched no sessions: " ++ String.ofList other.display
      else label ++ " selector matched no sessions: " ++ String.ofList other.display

/-- `resolve_selector`. -/
def resolveSelector (selector : Selector) (label : String) : HandlerProg (List Session) := do
  let sessions ← Prog.context "failed to resolve selector"
    (store (.listSessionsBySelector selector))
  if sessions.isEmpty then Prog.bail (noSessions selector label)
  else return sessions

/-- `require_session`. -/
def requireSession (id : SessionId) (label : String) : HandlerProg Unit := do
  let session ← Prog.context "failed to load session" (store (.getSession id))
  Prog.ensure session.isSome ("unknown " ++ label ++ " session: " ++ idText id)

/-- What a reply says of a session that could not be handled. -/
def targetError (id : SessionId) (report : Report) : TargetError := ⟨idText id, report.display⟩

/-- `apply` on one target; its error is kept as a value. -/
def attemptTarget {α : Type} (apply : SessionId → HandlerProg α) (target : Session) :
    HandlerProg (Except TargetError α) := do
  let outcome ← (apply target.id).attempt
  return outcome.mapError (targetError target.id)

/-- The targets that succeeded, and the errors of the others. -/
def partition {α : Type} (outcomes : List (Except TargetError α)) : List α × List TargetError :=
  (outcomes.filterMap Except.toOption, outcomes.filterMap fun outcome =>
    match outcome with
    | .ok _ => none
    | .error error => some error)

/-- Works on every target, whatever happens to the others. -/
def forTargets {α : Type} (targets : List Session) (apply : SessionId → HandlerProg α) :
    HandlerProg (List α × List TargetError) := do
  let outcomes ← Prog.traverse (attemptTarget apply) targets
  return partition outcomes

/-- `collect_target_sessions`. -/
def collectTargetSessions (selector : Selector) (apply : SessionId → HandlerProg Session) :
    HandlerProg TargetsResponse := do
  let targets ← resolveSelector selector "session"
  let collected ← forTargets targets apply
  return ⟨collected.1, collected.2⟩

/-! ## Exits -/

/-- `persist_child_exit`. -/
def persistChildExit (exit : ChildExit) : HandlerProg (Option Session) := do
  let now ← host .now
  match exit.transcriptPath with
  | some path =>
      let _ ← Prog.context "failed to persist transcript path"
        (store (.recordTranscriptPath exit.sessionId path now))
      store (.markSessionTerminated exit.sessionId exit.exitCode now)
  | none => store (.markSessionTerminated exit.sessionId exit.exitCode now)

/-- One round of the loop of `refresh_exits`. -/
def persistReapedExit (exit : ChildExit) : HandlerProg Unit :=
  Prog.context "failed to persist terminated session" do
    let _ ← persistChildExit exit
    return ()

/-- `refresh_exits`. -/
def refreshExits : HandlerProg Unit := do
  let exits ← Prog.context "failed to reap children" (port .reapExited)
  Prog.forEach persistReapedExit exits

/-! ## Reconciling with the runtime -/

/-- A session that was found lost. -/
structure ReconcileFinding where
  sessionId : SessionId
  evidence : String

/-- The evidence of a loss, as a finding shows it. -/
def lostEvidenceText : LostEvidence → String
  | .shimDiedBeforeReport => "ShimDiedBeforeReport"
  | .pidNotAlive => "PidNotAlive"
  | .pidReuseDetected => "PidReuseDetected"
  | .unknown => "Unknown"

/-- `lifecycle_transcript_path` of the reconciler. -/
def lifecycleTranscriptPath (lifecycle : Lifecycle) : Option String :=
  match lifecycle.logAvailability with
  | some (.headless stdoutPath _) => some stdoutPath
  | some .tmuxPaneSnapshot => none
  | some .unavailable => none
  | none => none

/-- `mark_lost`. -/
def markLost (id : SessionId) (evidence : LostEvidence) : HandlerProg Unit := do
  let now ← host .now
  let _ ← Prog.context "failed to mark session lost" (store (.markSessionLost id evidence now))
  return ()

/-- The transcript path of a lifecycle, where it has one. -/
def recordLifecycleTranscript (lifecycle : Lifecycle) : HandlerProg Unit :=
  match lifecycleTranscriptPath lifecycle with
  | none => .ret ()
  | some path => do
      let now ← host .now
      let _ ← Prog.context "failed to persist transcript path"
        (store (.recordTranscriptPath lifecycle.sessionId path now))
      return ()

/-- The end of a lifecycle, carried into the session row. -/
def reconcileState (lifecycle : Lifecycle) : HandlerProg (List ReconcileFinding) :=
  match lifecycle.state with
  | .forking => .ret []
  | .running => .ret []
  | .exited exit => do
      let now ← host .now
      let _ ← Prog.context "failed to mark session terminated"
        (store (.markSessionTerminated lifecycle.sessionId exit.code now))
      return []
  | .lost evidence => do
      markLost lifecycle.sessionId evidence
      return [⟨lifecycle.sessionId, "rtmd lifecycle lost: " ++ lostEvidenceText evidence⟩]

/-- One round of the loop of `reconcile_lifecycles`. -/
def reconcileLifecycle (lifecycle : Lifecycle) : HandlerProg (List ReconcileFinding) := do
  recordLifecycleTranscript lifecycle
  reconcileState lifecycle

/-- `reconcile_lifecycles`. -/
def reconcileLifecycles (lifecycles : List Lifecycle) : HandlerProg (List ReconcileFinding) := do
  let findings ← Prog.traverse reconcileLifecycle lifecycles
  return findings.flatten

/-- `reconcile_once` of the session daemon. -/
def reconcileOnce : HandlerProg (List ReconcileFinding) := do
  let lifecycles ← Prog.context "failed to load runtime lifecycle status" (port (.status .empty))
  reconcileLifecycles lifecycles

/-! ## The event loop -/

/-- `handle_batch`: the cursor to go on from. -/
def handleBatch : EventBatch → HandlerProg EventCursor
  | .events events next => do
      let now ← host .now
      Prog.context "failed to persist runtime events"
        (store (.applyRuntimeEventsAndCursor events next now))
      return next
  | .cursorExpired oldest => do
      let lifecycles ← Prog.context "failed to reconcile expired runtime cursor"
        (port (.status .empty))
      let _ ← reconcileLifecycles lifecycles
      Prog.context "failed to persist expired runtime cursor" (store (.applyCursor oldest))
      return oldest

/-- One round of `run_event_loop`; an error leaves the cursor where it was. -/
def eventLoopRound (cursor : Option EventCursor) : HandlerProg (Option EventCursor) := do
  match ← (port (.pollEvents cursor)).attempt with
  | .error _ => return cursor
  | .ok batch =>
      match ← (handleBatch batch).attempt with
      | .ok next => return some next
      | .error _ => return cursor

/-- `run_event_loop` for a number of rounds. -/
def eventLoop : Nat → Option EventCursor → HandlerProg Unit
  | 0, _ => .ret ()
  | n + 1, cursor => do
      let next ← eventLoopRound cursor
      host .sleep
      eventLoop n next

/-- `run_event_loop`. -/
def runEventLoop (rounds : Nat) : HandlerProg Unit := do
  let cursor ← Prog.context "failed to load runtime event cursor" (store .eventCursor)
  eventLoop rounds cursor

/-! ## List, capture, delete, label -/

/-- `list`. -/
def list (request : ListRequest) : HandlerProg RpcResponse := do
  let selector := request.selector.getD .all
  let sessions ← Prog.context "failed to list sessions" (store (.listSessionsBySelector selector))
  return .listed sessions

/-- `capture`. -/
def capture (context : RequestContext) (request : CaptureRequest) : HandlerProg RpcResponse := do
  let found ← Prog.context "failed to load capture session" (store (.getSession request.sessionId))
  let session ← Prog.required found ("unknown capture session: " ++ idText request.sessionId)
  authorizeSession config context.principal .read session.id
  let capture ← Prog.context "runtime capture failed"
    (port (.capture session.id request.scrollbackLines))
  return .capture session capture

/-- `RuntimeSignal::from_str`; `trim_start_matches` takes the prefix off as often as it is
there. -/
def trimSig : Nat → List Char → List Char
  | 0, text => text
  | n + 1, text =>
      match text with
      | 'S' :: 'I' :: 'G' :: rest => trimSig n rest
      | other => other

/-- The error of a signal that is not supported. -/
def signalError (name : List Char) : Report := ["unsupported signal " ++ String.ofList name]

/-- A signal from its name, with or without `SIG`. -/
def parseSignal (value : String) : Except Report RuntimeSignal :=
  let name := (trimSig value.length value.toList).map Char.toUpper
  if name = "HUP".toList then .ok .hup
  else if name = "INT".toList then .ok .int
  else if name = "TERM".toList then .ok .term
  else if name = "KILL".toList then .ok .kill
  else .error (signalError name)

/-- The end of `delete_one`: the runtime is terminated and its exit persisted. -/
def terminateSession (id : SessionId) (signal : RuntimeSignal) (graceSecs : Nat) :
    HandlerProg Session := do
  let ended ← Prog.context "failed to terminate runtime" (port (.terminate id signal graceSecs))
  let exit ← Prog.required ended ("runtime did not terminate within " ++ toString graceSecs ++
    " grace seconds: " ++ idText id)
  let persisted ← Prog.context "failed to persist terminated session" (persistChildExit exit)
  Prog.required persisted ("unknown session: " ++ idText id)

/-- `delete_one`. -/
def deleteOne (context : RequestContext) (graceSecs : Nat) (signal : RuntimeSignal)
    (id : SessionId) : HandlerProg Session := do
  authorizeSession config context.principal .kill id
  refreshExits
  let found ← Prog.context "failed to load session" (store (.getSession id))
  let session ← Prog.required found ("unknown session: " ++ idText id)
  if session.state = .terminated then return session
  else terminateSession id signal graceSecs

/-- `delete`. -/
def delete (context : RequestContext) (request : DeleteRequest) : HandlerProg RpcResponse := do
  let signal ← Prog.context "invalid runtime signal" (.ofExcept (parseSignal request.signal))
  let response ← collectTargetSessions request.selector
    (deleteOne config context request.graceSecs signal)
  return .deleted response

/-- `label_one`. -/
def labelOne (context : RequestContext) (mutation : LabelMutation) (id : SessionId) :
    HandlerProg Session := do
  authorizeSession config context.principal .link id
  let stored ← Prog.context "failed to persist label" (store (.applyLabelMutation id mutation))
  Prog.required stored ("unknown session: " ++ idText id)

/-- `label`. -/
def label (context : RequestContext) (request : LabelRequest) : HandlerProg RpcResponse := do
  let response ← collectTargetSessions request.selector (labelOne config context request.mutation)
  return .labeled response

/-! ## Logs -/

/-- `single_session`. -/
def singleSession (selector : Selector) (label : String) : HandlerProg Session := do
  let sessions ← resolveSelector selector label
  Prog.ensure (sessions.length == 1) (label ++ " selector matched " ++ toString sessions.length ++
    " sessions; expected exactly one")
  Prog.required sessions.head? (label ++ " selector matched no sessions; expected exactly one")

/-- The end of a transcript, as text. -/
def transcriptText (maxBytes : Option Nat) (bytes : List UInt8) : String :=
  let kept :=
    match maxBytes with
    | some maxBytes => bytes.drop (bytes.length - maxBytes)
    | none => bytes
  String.ofList (fromUtf8Lossy kept)

/-- `read_transcript`. -/
def readTranscript (path : String) (maxBytes : Option Nat) : HandlerProg String := do
  let bytes ← host (.readFile path)
  return transcriptText maxBytes bytes

/-- `logs`. -/
def logs (context : RequestContext) (request : LogsRequest) : HandlerProg RpcResponse := do
  let session ← singleSession request.selector "logs"
  authorizeSession config context.principal .logs session.id
  let path ← Prog.required session.transcriptPath
    ("no transcript available for session " ++ idText session.id)
  let content ← Prog.context ("failed to read transcript " ++ path)
    (readTranscript path request.maxBytes)
  return .logs session path content

/-! ## Wait -/

/-- `wait_condition_met`. -/
def waitConditionMet (condition : WaitCondition) (sessions : List Session) : Bool :=
  match condition with
  | .running => sessions.any fun session => session.state = .running
  | .terminated => sessions.any fun session =>
      match session.state with
      | .terminated => true
      | .lost _ => true
      | .spawning => false
      | .running => false
  | .count count => sessions.length = count

/-- The loop of `wait`, `n` rounds before the deadline. -/
def waitRounds (request : WaitRequest) : Nat → HandlerProg RpcResponse
  | 0 => do
      let sessions ← Prog.context "failed to list sessions"
        (store (.listSessionsBySelector request.selector))
      return .wait (waitConditionMet request.condition sessions) sessions
  | n + 1 => do
      let sessions ← Prog.context "failed to list sessions"
        (store (.listSessionsBySelector request.selector))
      if waitConditionMet request.condition sessions then return .wait true sessions
      else
        host .sleep
        waitRounds request n

/-- `wait`. -/
def wait (request : WaitRequest) : HandlerProg RpcResponse := do
  let rounds ← host .rounds
  waitRounds request rounds

/-! ## Doctor -/

/-- The report where the runtime does not answer. -/
def runtimeDoctorError (report : Report) : RuntimeDoctorReport where
  status := "error"
  doctor := none
  socketPath := none
  code := none
  message := some report.text

/-- `runtime_doctor`. -/
def runtimeDoctor : HandlerProg RuntimeDoctorReport := do
  match ← (port .doctor).attempt with
  | .ok report => return report
  | .error report => return runtimeDoctorError report

/-- The state of a session, as a reply shows it. -/
def sessionStateText : SessionState → String
  | .spawning => "SPAWNING"
  | .running => "RUNNING"
  | .terminated => "TERMINATED"
  | .lost evidence => "Lost(" ++ lostEvidenceText evidence ++ ")"

/-- `lost_session_evidence`. -/
def lostSessionEvidence (session : Session) (findings : List ReconcileFinding) : String :=
  match findings.find? fun finding => finding.sessionId = session.id with
  | some finding => finding.evidence
  | none =>
      match session.state with
      | .lost evidence => "session is LOST: " ++ lostEvidenceText evidence
      | .spawning => "session is not LOST: " ++ sessionStateText .spawning
      | .running => "session is not LOST: " ++ sessionStateText .running
      | .terminated => "session is not LOST: " ++ sessionStateText .terminated

/-- The finding of a lost session. -/
def lostFinding (fresh : List ReconcileFinding) (session : Session) : Option DoctorFinding :=
  match session.state with
  | .lost _ => some ⟨"error", some (idText session.id), lostSessionEvidence session fresh⟩
  | .spawning => none
  | .running => none
  | .terminated => none

/-- `runtime_doctor_message`. -/
def runtimeDoctorMessage (report : RuntimeDoctorReport) : String :=
  match report.message with
  | some message => "runtime-matters doctor failed: " ++ message
  | none =>
      match report.doctor with
      | none => "runtime-matters doctor failed"
      | some doctor =>
          if doctor.protocolVersion ≠ RUNTIME_PROTOCOL_VERSION then
            "runtime-matters protocol mismatch: required " ++ RUNTIME_PROTOCOL_VERSION ++
              ", got " ++ doctor.protocolVersion
          else if doctor.pendingDescriptions ≠ [] then
            "runtime-matters migration drift: pending " ++
              ", ".intercalate doctor.pendingDescriptions
          else "runtime-matters doctor status " ++ report.status

/-- `runtime_doctor_findings`. -/
def runtimeDoctorFindings (report : RuntimeDoctorReport) : List DoctorFinding :=
  if report.status = "ok" ∨ report.status = "not_configured" then []
  else [⟨"error", none, runtimeDoctorMessage report⟩]

/-- The order of findings: by session id, those without one first. -/
def findingLe (a b : DoctorFinding) : Bool :=
  match a.sessionId, b.sessionId with
  | none, _ => true
  | some _, none => false
  | some a, some b => decide (a ≤ b)

/-- The response of the doctor, from what it has read. -/
def doctorResponse (fresh : List ReconcileFinding) (runtimeMatters : RuntimeDoctorReport)
    (sessions : List Session) : DoctorResponse :=
  let findings := (sessions.filterMap (lostFinding fresh) ++
    runtimeDoctorFindings runtimeMatters).mergeSort findingLe
  { status := if findings.isEmpty then "ok" else "degraded"
    daemonVersion := some config.daemonVersion
    runtime := "rtmd (lilo-rm-client 0.7.x, protocol " ++ RUNTIME_PROTOCOL_VERSION ++ ")"
    runtimeMatters := runtimeMatters
    findings := findings }

/-- `doctor`; a failed reconcile counts as no finding. -/
def doctor (context : RequestContext) : HandlerProg RpcResponse := do
  authorize config context.principal .doctor .default
  let fresh ← reconcileOnce.attempt
  let runtimeMatters ← runtimeDoctor
  let sessions ← Prog.context "failed to list sessions" (store (.listSessionsBySelector .all))
  return .doctor (doctorResponse config (fresh.toOption.getD []) runtimeMatters sessions)

end LittleOrgans.Handler
