import LittleOrgans.Identity.Authorization
import LittleOrgans.Library.Mediation

/-!
# What a decision is worth

Under a policy that grants what an `Allow` row says, a subject that may record its own
decisions has the grant behind `authorize` and behind `authorizeInTx`: the row is written
before the answer is given, and the answer is what the row says.
-/

set_option autoImplicit false

namespace LittleOrgans.Identity

open LittleOrgans.Core
open LittleOrgans.Library

variable {S : Signature}

/-- `subject` may record the decisions on `principal`, and has what they grant. -/
structure AuditSink.Earns (P : Policy S Report) (sink : AuditSink S) (localUid : UInt32)
    (subject : P.Subject) (principal : Principal) (grant : Action → ResourceSpec → P.Grant) :
    Prop where
  auditId : ∀ χ, P.Mediated subject χ sink.auditId fun _ _ => True
  now : ∀ χ, P.Mediated subject χ sink.now fun _ _ => True
  record : ∀ row χ, row.principal = principal →
    row.decision = AuditDecision.evaluateLocal principal localUid →
    P.Mediated subject χ (sink.record row) fun _ ψ =>
      row.decision = .allow → grant row.action row.resource ∈ ψ

variable {P : Policy S Report} {sink : AuditSink S} {localUid : UInt32} {subject : P.Subject}
  {principal : Principal} {grant : Action → ResourceSpec → P.Grant} {φ : Set P.Grant}

/-- The row of a decision. -/
theorem AuditSink.Earns.mediated_auditRow
    (h : sink.Earns P localUid subject principal grant) (action : Action) (resource : ResourceSpec)
    (decision : AuditDecision) :
    P.Mediated subject φ (auditRow sink principal action resource decision) fun row _ =>
      row.principal = principal ∧ row.action = action ∧ row.resource = resource ∧
        row.decision = decision := by
  refine (h.auditId φ).bind fun id χ hχ _ => ?_
  refine (h.now χ).bind fun timestamp ψ hψ _ => ?_
  exact Policy.mediated_pure ⟨rfl, rfl, rfl, rfl⟩

theorem AuditSink.Earns.mediated_recordDecision
    (h : sink.Earns P localUid subject principal grant) (action : Action)
    (resource : ResourceSpec) :
    P.Mediated subject φ (recordDecision sink principal action resource
        (AuditDecision.evaluateLocal principal localUid)) fun _ ψ =>
      AuditDecision.evaluateLocal principal localUid = .allow → grant action resource ∈ ψ := by
  refine (h.mediated_auditRow action resource _).bind fun row χ hχ hrow => ?_
  obtain ⟨hprincipal, rfl, rfl, hdecision⟩ := hrow
  refine Policy.Mediated.mapError _ ?_
  refine (h.record row χ hprincipal hdecision).weaken fun _ ψ _ hψ hallow => ?_
  exact hψ (hdecision.trans hallow)

/-- A subject that is told yes has the grant. -/
theorem AuditSink.Earns.mediated_authorize (h : sink.Earns P localUid subject principal grant)
    (action : Action) (resource : ResourceSpec) :
    P.Mediated subject φ (authorize sink localUid principal action resource) fun _ ψ =>
      grant action resource ∈ ψ := by
  refine Policy.Mediated.mapError _ ?_
  have hstub : P.Mediated subject φ (authorizeWithStub sink localUid principal action resource)
      fun _ ψ => grant action resource ∈ ψ := by
    refine (h.mediated_recordDecision action resource).bind fun _ χ hχ hrecorded => ?_
    split
    · next hallow => exact Policy.mediated_pure (hrecorded hallow)
    · exact Policy.mediated_fail
  exact hstub.bind fun _ χ hχ hgrant => Policy.mediated_pure hgrant

theorem AuditSink.Earns.mediated_authorizeInTx
    (h : sink.Earns P localUid subject principal grant) (action : Action)
    (resource : ResourceSpec) :
    P.Mediated subject φ (authorizeInTx sink localUid principal action resource) fun _ ψ =>
      grant action resource ∈ ψ := by
  refine (h.mediated_auditRow action resource _).bind fun row χ hχ hrow => ?_
  obtain ⟨hprincipal, rfl, rfl, hdecision⟩ := hrow
  have hrecord := (h.record row χ hprincipal hdecision).mapError
    fun report => "authorization failed" :: report
  refine hrecord.bind fun _ ψ hψ hgrant => ?_
  split
  · next hallow => exact Policy.mediated_pure (hgrant (hdecision.trans hallow))
  · exact Policy.Mediated.mapError _ Policy.mediated_fail

end LittleOrgans.Identity
