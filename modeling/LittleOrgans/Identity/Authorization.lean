import LittleOrgans.Core.Json
import LittleOrgans.Core.Session
import LittleOrgans.Library.Report
import LittleOrgans.Library.Table

/-!
# Authorization

The identity service: principals, the actions and resources they are authorized for, the
rule of version 1, and the audit row that each decision leaves. `authorize` and
`authorizeInTx` record the decision before they act on it, so that a decision which cannot
be recorded is refused.
-/

set_option autoImplicit false

namespace LittleOrgans.Identity

open LittleOrgans.Core
open LittleOrgans.Library

/-! ## Principals and decisions -/

/-- `Principal`; the raw fields of an unknown kind are kept. -/
inductive Principal where
  | localUid (uid : UInt32)
  | unknown (kind : String) (raw : Json)

/-- What a caller can ask to do. -/
inductive Action where
  | spawn
  | kill
  | create
  | list
  | read
  | logs
  | mailSend
  | mailRead
  | nudge
  | link
  | doctor
  | daemon
  | shimCallback
  deriving DecidableEq

/-- What an action is about. -/
structure ResourceSpec where
  workspace : Option String
  role : Option String
  runtime : Option RuntimeKind
  sessionId : Option SessionId
  labels : Table String String

namespace ResourceSpec

/-- Nothing in particular. -/
def default : ResourceSpec := ⟨none, none, none, none, .empty⟩

/-- One session. -/
def session (id : SessionId) : ResourceSpec := { default with sessionId := some id }

end ResourceSpec

/-- What was decided on a request. -/
inductive AuditDecision where
  | allow
  | deny (reason : String)
  | error (message : String)
  deriving DecidableEq

/-- `evaluate_local`: the one rule of version 1. -/
def AuditDecision.evaluateLocal (principal : Principal) (localUid : UInt32) : AuditDecision :=
  match principal with
  | .localUid uid => if uid = localUid then .allow else .deny "non-local uid"
  | .unknown _ _ => .deny "unknown principal"

/-- Audit ids are UUIDs. -/
structure AuditId where
  uuid : BitVec 128
  deriving DecidableEq

/-- A row of the audit. -/
structure AuditRow where
  id : AuditId
  timestamp : DateTime
  principal : Principal
  action : Action
  resource : ResourceSpec
  decision : AuditDecision
  sessionRef : Option SessionId
  notes : Option String
  policyId : Option String
  evaluationTrace : Option String
  denialReason : Option String

/-- The reason of a denial. -/
def AuditDecision.denialReason : AuditDecision → Option String
  | .deny reason => some reason
  | .allow => none
  | .error _ => none

/-- `AuditRow::new`, with the id and the time it takes. -/
def AuditRow.new (id : AuditId) (timestamp : DateTime) (principal : Principal) (action : Action)
    (resource : ResourceSpec) (decision : AuditDecision) : AuditRow where
  id := id
  timestamp := timestamp
  principal := principal
  action := action
  resource := resource
  decision := decision
  sessionRef := resource.sessionId
  notes := none
  policyId := none
  evaluationTrace := none
  denialReason := decision.denialReason

/-! ## Errors -/

/-- `AuthzError`, of which the service raises the last two. -/
inductive AuthzError where
  | unauthorized (principal : Principal) (action : Action) (reason : String)
  | unknownPrincipal
  | audit (message : String)

/-- The text of an authorization error. -/
def AuthzError.text : AuthzError → String
  | .unauthorized _ _ _ => "unauthorized principal for action"
  | .unknownPrincipal => "unknown principal"
  | .audit message => "audit sink failed: " ++ message

/-! ## Authorizing -/

/-- Where decisions are recorded, and where an audit row gets its id and time from. -/
structure AuditSink (S : Signature) where
  auditId : Prog S Report AuditId
  now : Prog S Report DateTime
  record : AuditRow → Prog S Report Unit

/-- What a role can do. -/
structure Capability where
  name : String

/-- A caller whose request was allowed. -/
structure Authorized where
  principal : Principal
  role : String
  capabilities : List Capability

section

variable {S : Signature} (sink : AuditSink S) (localUid : UInt32)

/-- A row for a decision. -/
def auditRow (principal : Principal) (action : Action) (resource : ResourceSpec)
    (decision : AuditDecision) : Prog S Report AuditRow := do
  let id ← sink.auditId
  let timestamp ← sink.now
  return AuditRow.new id timestamp principal action resource decision

/-- `StubAuthorizer::record`. -/
def recordDecision (principal : Principal) (action : Action) (resource : ResourceSpec)
    (decision : AuditDecision) : Prog S Report Unit := do
  let row ← auditRow sink principal action resource decision
  (sink.record row).mapError fun report => [AuthzError.text (.audit report.text)]

/-- `StubAuthorizer::authorize`. -/
def authorizeWithStub (principal : Principal) (action : Action) (resource : ResourceSpec) :
    Prog S Report Authorized := do
  let decision := AuditDecision.evaluateLocal principal localUid
  recordDecision sink principal action resource decision
  if decision = .allow then return ⟨principal, "admin", []⟩
  else Prog.bail (AuthzError.text .unknownPrincipal)

/-- `IdentityClient::authorize`. -/
def authorize (principal : Principal) (action : Action) (resource : ResourceSpec) :
    Prog S Report Unit :=
  Prog.context "authorization failed" do
    let _ ← authorizeWithStub sink localUid principal action resource
    return ()

/-- `IdentityClient::authorize_in_tx`; the sink is the open transaction. -/
def authorizeInTx (principal : Principal) (action : Action) (resource : ResourceSpec) :
    Prog S Report Unit := do
  let decision := AuditDecision.evaluateLocal principal localUid
  let row ← auditRow sink principal action resource decision
  Prog.context "authorization failed" (sink.record row)
  if decision = .allow then return ()
  else Prog.context "authorization failed" (Prog.bail (AuthzError.text .unknownPrincipal))

end

/-! ## The rule of version 1 -/

theorem evaluateLocal_eq_allow {principal : Principal} {localUid : UInt32} :
    AuditDecision.evaluateLocal principal localUid = .allow ↔ principal = .localUid localUid := by
  cases principal with
  | localUid uid =>
      rw [AuditDecision.evaluateLocal]
      by_cases huid : uid = localUid
      · simp [huid]
      · simp [huid]
  | unknown kind raw => simp [AuditDecision.evaluateLocal]

/-- Every other principal is denied, with a reason that its row carries. -/
theorem evaluateLocal_eq_deny {principal : Principal} {localUid : UInt32}
    (h : principal ≠ .localUid localUid) :
    ∃ reason, AuditDecision.evaluateLocal principal localUid = .deny reason := by
  cases principal with
  | localUid uid =>
      have huid : uid ≠ localUid := fun heq => h (congrArg Principal.localUid heq)
      exact ⟨"non-local uid", if_neg huid⟩
  | unknown kind raw => exact ⟨"unknown principal", rfl⟩

end LittleOrgans.Identity
