import LittleOrgans.Library.Except
import LittleOrgans.Store.RuntimeEvents
import LittleOrgans.Store.Sessions

/-!
# What a session keeps from its draft

The columns of a session that are written once, from the draft of its spawn intent: no event
of the runtime and no later write touches them.
-/

set_option autoImplicit false

namespace LittleOrgans.Core

/-- What a session keeps from its draft. -/
structure SessionOrigin where
  runtime : SessionRuntimeKind
  role : String
  workspace : String
  namespaceSlug : String
  dir : String
  agentConfig : Option String
  createdAt : DateTime

/-- What the draft of a session says of its origin. -/
def SessionDraft.origin (draft : SessionDraft) : SessionOrigin where
  runtime := draft.runtime
  role := draft.role
  workspace := draft.workspace
  namespaceSlug := draft.namespaceSlug
  dir := draft.dir
  agentConfig := draft.agentConfig
  createdAt := draft.createdAtMs * 1000

end LittleOrgans.Core

namespace LittleOrgans.Store

open LittleOrgans.Core
open LittleOrgans.Library

/-- What a row says of the origin of its session. -/
def SessionRow.origin (row : SessionRow) : SessionOrigin where
  runtime := row.runtime
  role := row.role
  workspace := row.workspace
  namespaceSlug := row.namespaceSlug
  dir := row.dir
  agentConfig := row.agentConfig
  createdAt := row.createdAt

/-- The events of a runtime do not touch it. -/
theorem SessionRow.origin_applyEvent (row : SessionRow) (event : RuntimeEvent) (now : DateTime) :
    (row.applyEvent event now).origin = row.origin := by
  have hterminated : ∀ exitCode, (row.applyTerminated exitCode now).origin = row.origin := by
    intro exitCode
    rw [SessionRow.applyTerminated]
    split <;> rfl
  have hlost : ∀ evidence, (row.applyLost evidence now).origin = row.origin := by
    intro evidence
    rw [SessionRow.applyLost]
    split <;> rfl
  cases event with
  | running id runtimePid startTime =>
      rw [SessionRow.applyEvent, SessionRow.applyRunning]
      split <;> rfl
  | terminated id exitCode signal evidence =>
      cases evidence with
      | lost evidence => exact hlost evidence
      | shimExit => exact hterminated exitCode
      | processExit => exact hterminated exitCode
  | lost id evidence => exact hlost evidence

theorem SessionRow.origin_recordTranscriptPath (row : SessionRow) (path : String)
    (now : DateTime) : (row.recordTranscriptPath path now).origin = row.origin := by
  rw [SessionRow.recordTranscriptPath]
  split <;> rfl

/-- A session that runs is stored as it was drafted. -/
theorem SessionRow.origin_of_runningSession {draft : SessionDraft} {lifecycle : Lifecycle}
    {stdoutPath : Option String} {updatedAt : DateTime} {session : Session}
    (h : draft.runningSession lifecycle stdoutPath updatedAt = .ok session) :
    (sessionRow session).origin = draft.origin := by
  rw [SessionDraft.runningSession] at h
  split at h
  · cases h
  · cases hpid : lifecycle.runtimePid with
    | none =>
        rw [hpid] at h
        cases h
    | some runtimePid =>
        simp only [hpid] at h
        obtain ⟨createdAt, hcreated, h⟩ := Except.bind_eq_ok.mp h
        cases h
        rw [timestampMillis] at hcreated
        split at hcreated
        · cases hcreated
          rfl
        · cases hcreated

end LittleOrgans.Store
