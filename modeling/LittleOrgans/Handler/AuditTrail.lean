import LittleOrgans.Handler.CompleteMediation
import LittleOrgans.Identity.AuditLog

/-!
# The audit trail of the session daemon

What `query_audit` shows of a running daemon. The rows of the local user can always be read,
and they explain what the store holds: `explained_of_reaches` finds an `Allow` row for every
session, every intent and every delivered message, and no `Allow` row that was not recorded.
-/

set_option autoImplicit false

namespace LittleOrgans.Handler

open LittleOrgans.Core
open LittleOrgans.Library
open LittleOrgans.Store
open LittleOrgans.Identity

variable {config : DaemonConfig} {server : McpServer} {s : DaemonStore}

/-- The rows of the local user about an action. -/
def localTrail (config : DaemonConfig) (s : DaemonStore) (action : Action) :
    Except StoreError (List AuditRow) :=
  queryAuditRows config.formats (s.audit.map .fromAuditRow)
    ⟨some (.localUid config.localUid), some action, none, none⟩

/-- The trail has a row that allows the action on such a resource. -/
def Shows (config : DaemonConfig) (s : DaemonStore) (action : Action)
    (resource : ResourceSpec → Prop) : Prop :=
  ∃ rows, localTrail config s action = .ok rows ∧
    ∃ row ∈ rows, row.decision = .allow ∧ resource row.resource

theorem localTrail_eq_ok (hformats : config.formats.ReadsUuids) (action : Action) :
    localTrail config s action = .ok ((AuditFilters.select
      ⟨some (.localUid config.localUid), some action, none, none⟩ s.audit).map
        fun row => { row with principal := .localUid config.localUid }) :=
  queryAuditRows_of_principal hformats trivial rfl fun _ hlimit => by cases hlimit

/-- What was allowed can be shown. -/
theorem AllowedLocally.shows (hformats : config.formats.ReadsUuids) {action : Action}
    {resource : ResourceSpec → Prop} (h : AllowedLocally config s action resource) :
    Shows config s action resource := by
  obtain ⟨row, hrow, hallow, hprincipal, haction, hresource⟩ := h
  refine ⟨_, localTrail_eq_ok hformats action, _, List.mem_map_of_mem ?_, hallow, hresource⟩
  refine List.mem_filter.mpr ⟨hrow, decide_eq_true ⟨?_, ?_, ?_⟩⟩
  · rintro principal hfilter
    cases hfilter
    rw [hprincipal]
  · rintro action' hfilter
    cases hfilter
    exact haction
  · intro since hfilter
    cases hfilter

/-- An `Allow` row that is shown was recorded. -/
theorem Sound.mem_of_localTrail (hsound : Sound config s) (hformats : config.formats.ReadsUuids)
    {action : Action} {rows : List AuditRow} (h : localTrail config s action = .ok rows)
    {row : AuditRow} (hrow : row ∈ rows) (hallow : row.decision = .allow) : row ∈ s.audit := by
  rw [localTrail_eq_ok hformats] at h
  cases h
  obtain ⟨recorded, hrecorded, rfl⟩ := List.mem_map.mp hrow
  have hmem : recorded ∈ s.audit := List.mem_of_mem_filter (mem_of_mem_limited hrecorded)
  -- only the local user is allowed anything, so that the principal is the recorded one
  have hdecision := hsound.honest recorded hmem
  have hprincipal : recorded.principal = .localUid config.localUid :=
    evaluateLocal_eq_allow.mp (hdecision.symm.trans hallow)
  rwa [← hprincipal]

variable {c : Pool (daemonWatch config server)}

/-- **The trail explains the store.** -/
theorem explained_of_reaches (hformats : config.formats.ReadsUuids) (hsound : Sound config s)
    (h : Reachable config server s c) :
    (∀ id row, c.shared.db.sessions.lookup id = some row →
      Shows config c.shared .spawn fun resource => resource.sessionId = some id) ∧
    (∀ id row, c.shared.db.spawnIntents.lookup id = some row →
      Shows config c.shared .spawn fun resource => resource.sessionId = some id) ∧
    (∀ key row, c.shared.db.deliveries.lookup key = some row →
      (Shows config c.shared .mailSend fun resource => resource = .session key.2) ∨
        Shows config c.shared .mailRead fun resource => ∃ id, resource = .session id) ∧
    ∀ action rows, localTrail config c.shared action = .ok rows →
      ∀ row ∈ rows, row.decision = .allow → row ∈ c.shared.audit := by
  have hsound' := sound_of_reaches hsound h
  refine ⟨?_, ?_, ?_, fun action rows hrows row hrow hallow =>
    hsound'.mem_of_localTrail hformats hrows hrow hallow⟩
  · intro id row hrow
    exact (hsound'.spawnAllowed (hsound'.sessions id row hrow).1).shows hformats
  · intro id row hrow
    exact (hsound'.spawnAllowed (hsound'.intents id row hrow).1).shows hformats
  · intro key row hrow
    obtain ⟨message, -, hsend⟩ := hsound'.deliveries key row hrow
    -- who has sent the message tells which permission the trail must show
    cases hsender : message.sender with
    | system =>
        rw [hsender] at hsend
        obtain ⟨principal, id, hdecided⟩ := hsend
        exact .inr ((hsound'.allowedLocally hdecided ⟨id, rfl⟩).shows hformats)
    | session id =>
        rw [hsender] at hsend
        obtain ⟨principal, hdecided⟩ := hsend
        exact .inl ((hsound'.allowedLocally hdecided
          (P := fun resource => resource = .session key.2) rfl).shows hformats)
    | operator text =>
        rw [hsender] at hsend
        obtain ⟨principal, -, hdecided⟩ := hsend
        exact .inl ((hsound'.allowedLocally hdecided
          (P := fun resource => resource = .session key.2) rfl).shows hformats)

/-- The trail shows who may have spawned a session. -/
theorem explained_of_reaches_spawn :
    ∃ c row, behind spawnRun = some c ∧ c.shared.db.sessions.lookup ⟨1⟩ = some row ∧
      Shows sampleConfig c.shared .spawn fun resource => resource.sessionId = some ⟨1⟩ := by
  have hrun : ∃ c row, behind spawnRun = some c ∧ c.shared.db.sessions.lookup ⟨1⟩ = some row :=
    ⟨_, _, rfl, rfl⟩
  obtain ⟨c, row, hc, hrow⟩ := hrun
  have hexplained := explained_of_reaches readsUuids_hyphenatedFormats
    (sound_migrated sampleConfig 0) (reachable_of_behind hc)
  exact ⟨c, row, hc, hrow, hexplained.1 ⟨1⟩ row hrow⟩

end LittleOrgans.Handler
