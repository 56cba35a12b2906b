import LittleOrgans.Core.Selector
import LittleOrgans.Library.Assignments
import LittleOrgans.Runtime.SpawnPreflight
import Mathlib.Data.List.Induction

/-!
# The environment of a spawned runtime

`spawn_launch` merges the environment of the agent configuration into that of the request,
drops every reserved key and sets those of the new session; the launcher adds its own; the
shim applies the list in order, so the last assignment of a key wins.

A merge changes the first assignment of a key, so it is lost on a key that the request
assigns again: `effectiveEnv_iff` says that nothing else keeps a configured value from
reaching the runtime.
-/

set_option autoImplicit false

namespace LittleOrgans.Daemon

open LittleOrgans.Core
open LittleOrgans.Library
open LittleOrgans.Runtime (LaunchEnv)

/-! ## Building the list -/

/-- `upsert_env`, and `upsert_launch_env` of the launchers. -/
def upsertEnv (env : List LaunchEnv) (next : LaunchEnv) : List LaunchEnv :=
  upsertFirst LaunchEnv.key next env

/-- `merge_env`. -/
def mergeEnv (env next : List LaunchEnv) : List LaunchEnv := mergeFirst LaunchEnv.key env next

/-- `item.key.starts_with("LILO_AGENT_")`. -/
def isAgentKey (key : String) : Bool := "LILO_AGENT_".toList.isPrefixOf key.toList

/-- The variable of the session id. -/
def LILO_AGENT_SESSION_ID : String := "LILO_AGENT_SESSION_ID"

/-- The variable of the role. -/
def LILO_AGENT_ROLE : String := "LILO_AGENT_ROLE"

/-- The variable of the workspace. -/
def LILO_AGENT_WORKSPACE : String := "LILO_AGENT_WORKSPACE"

/-- The variable of the runtime. -/
def LILO_AGENT_RUNTIME : String := "LILO_AGENT_RUNTIME"

/-- The rendering of a runtime kind. -/
def runtimeText : SessionRuntimeKind → String
  | .claude => "claude"
  | .codex => "codex"

/-- The text of a session id. -/
def idText (id : SessionId) : String := String.ofList (uuidText id.uuid)

/-- The fields of a spawn request that its environment is made from. -/
structure EnvRequest where
  runtime : SessionRuntimeKind
  role : String
  workspace : String
  env : List LaunchEnv
  deriving DecidableEq

/-- The request's environment, or the captured one of the caller when that is empty. -/
def requestEnv (request : EnvRequest) (captured : List LaunchEnv) : List LaunchEnv :=
  if request.env = [] then captured else request.env

/-- The environment of `spawn_launch`; `config` is that of the agent configuration. -/
def spawnLaunchEnv (id : SessionId) (request : EnvRequest) (captured : List LaunchEnv)
    (config : Option (List LaunchEnv)) : List LaunchEnv :=
  let env := requestEnv request captured
  let env := match config with
    | some config => mergeEnv env config
    | none => env
  let env := env.filter fun item => !isAgentKey item.key
  let env := upsertEnv env ⟨LILO_AGENT_SESSION_ID, idText id⟩
  let env := upsertEnv env ⟨LILO_AGENT_ROLE, request.role⟩
  upsertEnv env ⟨LILO_AGENT_WORKSPACE, request.workspace⟩

/-- `runtime_env` of the launchers. -/
def runtimeEnv (id : SessionId) (runtime : SessionRuntimeKind) (env : List LaunchEnv) :
    List LaunchEnv :=
  let env := upsertEnv env ⟨LILO_AGENT_SESSION_ID, idText id⟩
  upsertEnv env ⟨LILO_AGENT_RUNTIME, runtimeText runtime⟩

/-- `apply_launch_env_cwd`: the assignments are made in order, over an empty environment. -/
def applyLaunchEnv (env : List LaunchEnv) : String → Option String :=
  env.foldl (fun environ item => Function.update environ item.key (some item.value)) fun _ => none

/-- The environment the runtime starts with. -/
def effectiveEnv (id : SessionId) (request : EnvRequest) (captured : List LaunchEnv)
    (config : Option (List LaunchEnv)) : String → Option String :=
  applyLaunchEnv (runtimeEnv id request.runtime (spawnLaunchEnv id request captured config))

/-! ## Reading it -/

theorem applyLaunchEnv_eq (env : List LaunchEnv) (key : String) :
    applyLaunchEnv env key = (lastWith LaunchEnv.key key env).map LaunchEnv.value := by
  induction env using List.reverseRecOn with
  | nil => rfl
  | append_singleton env item ih =>
      rw [applyLaunchEnv, List.foldl_append, List.foldl_cons, List.foldl_nil, ← applyLaunchEnv,
        lastWith_append]
      by_cases hkey : item.key = key
      · subst hkey
        simp [lastWith]
      · rw [Function.update_of_ne (Ne.symm hkey), ih]
        simp [lastWith, hkey]

/-- The assignments before the keys of the session are set. -/
def mergedEnv (request : EnvRequest) (captured : List LaunchEnv)
    (config : Option (List LaunchEnv)) : List LaunchEnv :=
  mergeEnv (requestEnv request captured) (config.getD [])

/-- The assignments before the keys of the session are set, without the reserved ones. -/
def sessionBaseEnv (request : EnvRequest) (captured : List LaunchEnv)
    (config : Option (List LaunchEnv)) : List LaunchEnv :=
  (mergedEnv request captured config).filter fun item => !isAgentKey item.key

theorem spawnLaunchEnv_eq (id : SessionId) (request : EnvRequest) (captured : List LaunchEnv)
    (config : Option (List LaunchEnv)) :
    spawnLaunchEnv id request captured config =
      upsertEnv (upsertEnv (upsertEnv (sessionBaseEnv request captured config)
        ⟨LILO_AGENT_SESSION_ID, idText id⟩) ⟨LILO_AGENT_ROLE, request.role⟩)
        ⟨LILO_AGENT_WORKSPACE, request.workspace⟩ := by
  cases config <;> rfl

section

variable {id : SessionId} {request : EnvRequest} {captured : List LaunchEnv}
  {config : Option (List LaunchEnv)}

/-- An upsert of a key assigned at most once: this key has the new value, others keep theirs. -/
theorem lastWith_upsertEnv {env : List LaunchEnv} {next : LaunchEnv}
    (h : occurrences LaunchEnv.key next.key env ≤ 1) (key : String) :
    lastWith LaunchEnv.key key (upsertEnv env next) =
      if key = next.key then some next else lastWith LaunchEnv.key key env := by
  rw [upsertEnv]
  split
  · next heq => rw [heq, lastWith_upsertFirst_self, if_pos h]
  · next hne => exact lastWith_upsertFirst_of_ne (Ne.symm hne) env

/-- A key that is upserted over nothing is assigned once. -/
theorem occurrences_upsertEnv_le {env : List LaunchEnv} {key : String}
    (h : occurrences LaunchEnv.key key env ≤ 1) (next : LaunchEnv) :
    occurrences LaunchEnv.key key (upsertEnv env next) ≤ 1 := by
  rw [upsertEnv, occurrences_upsertFirst]
  split <;> omega

theorem occurrences_sessionBaseEnv {key : String} (h : isAgentKey key = true) :
    occurrences LaunchEnv.key key (sessionBaseEnv request captured config) ≤ 1 := by
  rw [sessionBaseEnv, occurrences_filter_of_not (p := fun key => !isAgentKey key) (by simp [h])]
  exact Nat.zero_le 1

/-- The keys of the session, and below them the merged assignments. -/
theorem effectiveEnv_eq (key : String) :
    effectiveEnv id request captured config key =
      if key = LILO_AGENT_RUNTIME then some (runtimeText request.runtime)
      else if key = LILO_AGENT_SESSION_ID then some (idText id)
      else if key = LILO_AGENT_WORKSPACE then some request.workspace
      else if key = LILO_AGENT_ROLE then some request.role
      else if isAgentKey key then none
      else applyLaunchEnv (mergedEnv request captured config) key := by
  have hbase : ∀ key, isAgentKey key = true →
      occurrences LaunchEnv.key key (sessionBaseEnv request captured config) ≤ 1 :=
    fun key => occurrences_sessionBaseEnv
  have hfirst := fun key h => occurrences_upsertEnv_le (hbase key h)
    ⟨LILO_AGENT_SESSION_ID, idText id⟩
  have hsecond := fun key h => occurrences_upsertEnv_le (hfirst key h)
    ⟨LILO_AGENT_ROLE, request.role⟩
  have hthird := fun key h => occurrences_upsertEnv_le (hsecond key h)
    ⟨LILO_AGENT_WORKSPACE, request.workspace⟩
  have hfourth := fun key h => occurrences_upsertEnv_le (hthird key h)
    ⟨LILO_AGENT_SESSION_ID, idText id⟩
  have hmerged : applyLaunchEnv (mergedEnv request captured config) key =
      (lastWith LaunchEnv.key key (mergedEnv request captured config)).map LaunchEnv.value :=
    applyLaunchEnv_eq _ key
  have hkept : lastWith LaunchEnv.key key (sessionBaseEnv request captured config) =
      if !isAgentKey key then lastWith LaunchEnv.key key (mergedEnv request captured config)
      else none :=
    lastWith_filter (fun key => !isAgentKey key) _
  rw [effectiveEnv, applyLaunchEnv_eq, runtimeEnv, spawnLaunchEnv_eq,
    lastWith_upsertEnv (hfourth LILO_AGENT_RUNTIME (by decide)),
    lastWith_upsertEnv (hthird LILO_AGENT_SESSION_ID (by decide)),
    lastWith_upsertEnv (hsecond LILO_AGENT_WORKSPACE (by decide)),
    lastWith_upsertEnv (hfirst LILO_AGENT_ROLE (by decide)),
    lastWith_upsertEnv (hbase LILO_AGENT_SESSION_ID (by decide)), hkept, hmerged]
  by_cases hruntime : key = LILO_AGENT_RUNTIME
  · simp [hruntime]
  by_cases hsession : key = LILO_AGENT_SESSION_ID
  · simp [hsession, LILO_AGENT_SESSION_ID, LILO_AGENT_RUNTIME]
  by_cases hworkspace : key = LILO_AGENT_WORKSPACE
  · simp [hworkspace, LILO_AGENT_SESSION_ID, LILO_AGENT_RUNTIME, LILO_AGENT_WORKSPACE]
  by_cases hrole : key = LILO_AGENT_ROLE
  · simp [hrole, LILO_AGENT_SESSION_ID, LILO_AGENT_RUNTIME, LILO_AGENT_WORKSPACE, LILO_AGENT_ROLE]
  cases hagent : isAgentKey key <;> simp [hruntime, hsession, hworkspace, hrole]

/-- A merged key: a configured value is seen unless the key is assigned again behind it. -/
theorem applyLaunchEnv_mergedEnv (key : String) :
    applyLaunchEnv (mergedEnv request captured config) key =
      if occurrences LaunchEnv.key key (requestEnv request captured) ≤ 1 then
        (applyLaunchEnv (config.getD []) key).or (applyLaunchEnv (requestEnv request captured) key)
      else applyLaunchEnv (requestEnv request captured) key := by
  rw [applyLaunchEnv_eq, applyLaunchEnv_eq, applyLaunchEnv_eq, mergedEnv, mergeEnv,
    lastWith_mergeFirst]
  split
  · cases lastWith LaunchEnv.key key (config.getD []) <;> simp
  · rfl

end

/-! ## The effective environment -/

/-- What the runtime of a session is expected to find in its environment. -/
structure EnvAsConfigured (id : SessionId) (request : EnvRequest) (captured : List LaunchEnv)
    (config : Option (List LaunchEnv)) (environ : String → Option String) : Prop where
  sessionId : environ LILO_AGENT_SESSION_ID = some (idText id)
  role : environ LILO_AGENT_ROLE = some request.role
  workspace : environ LILO_AGENT_WORKSPACE = some request.workspace
  runtime : environ LILO_AGENT_RUNTIME = some (runtimeText request.runtime)
  reserved : ∀ key, isAgentKey key = true → environ key ≠ none →
    key ∈ [LILO_AGENT_SESSION_ID, LILO_AGENT_ROLE, LILO_AGENT_WORKSPACE, LILO_AGENT_RUNTIME]
  configured : ∀ key value, isAgentKey key = false →
    applyLaunchEnv (config.getD []) key = some value → environ key = some value
  inherited : ∀ key, isAgentKey key = false → applyLaunchEnv (config.getD []) key = none →
    environ key = applyLaunchEnv (requestEnv request captured) key

/-- The runtime finds the expected environment exactly when no configured key is assigned
twice by the request, with another value at the end. -/
theorem effectiveEnv_iff (id : SessionId) (request : EnvRequest) (captured : List LaunchEnv)
    (config : Option (List LaunchEnv)) :
    EnvAsConfigured id request captured config (effectiveEnv id request captured config) ↔
      ∀ key value, isAgentKey key = false →
        applyLaunchEnv (config.getD []) key = some value →
          (requestEnv request captured).countP (fun item => item.key = key) ≤ 1 ∨
            applyLaunchEnv (requestEnv request captured) key = some value := by
  have hplain : ∀ key, isAgentKey key = false →
      effectiveEnv id request captured config key =
        applyLaunchEnv (mergedEnv request captured config) key := by
    intro key hkey
    have hne : ∀ reserved, isAgentKey reserved = true → key ≠ reserved := by
      rintro reserved hreserved rfl
      rw [hkey] at hreserved
      cases hreserved
    rw [effectiveEnv_eq, if_neg (hne _ (by decide)), if_neg (hne _ (by decide)),
      if_neg (hne _ (by decide)), if_neg (hne _ (by decide)), hkey]
    rfl
  constructor
  · intro h key value hkey hvalue
    have hconfigured := h.configured key value hkey hvalue
    rw [hplain key hkey, applyLaunchEnv_mergedEnv, occurrences] at hconfigured
    split at hconfigured
    · next hone => exact .inl hone
    · exact .inr hconfigured
  · intro h
    refine ⟨?_, ?_, ?_, ?_, fun key hkey hsome => ?_, fun key value hkey hvalue => ?_,
      fun key hkey hnone => ?_⟩
    · rw [effectiveEnv_eq, if_neg (by decide), if_pos rfl]
    · rw [effectiveEnv_eq, if_neg (by decide), if_neg (by decide), if_neg (by decide), if_pos rfl]
    · rw [effectiveEnv_eq, if_neg (by decide), if_neg (by decide), if_pos rfl]
    · rw [effectiveEnv_eq, if_pos rfl]
    · rw [effectiveEnv_eq, hkey] at hsome
      by_contra hmem
      simp only [List.mem_cons, List.not_mem_nil, or_false, not_or] at hmem
      obtain ⟨hsession, hrole, hworkspace, hruntime⟩ := hmem
      simp [hsession, hrole, hworkspace, hruntime] at hsome
    · rw [hplain key hkey, applyLaunchEnv_mergedEnv, hvalue, occurrences]
      split
      · rfl
      · next hmore => exact (h key value hkey hvalue).resolve_left hmore
    · rw [hplain key hkey, applyLaunchEnv_mergedEnv, hnone, Option.none_or, ite_self]

/-- A key assigned twice by the request hides its configured value. -/
theorem effectiveEnv_repeated_key :
    ¬EnvAsConfigured ⟨0⟩ ⟨.claude, "pm", "/work", [⟨"PROFILE", "a"⟩, ⟨"PROFILE", "b"⟩]⟩ []
      (some [⟨"PROFILE", "configured"⟩])
      (effectiveEnv ⟨0⟩ ⟨.claude, "pm", "/work", [⟨"PROFILE", "a"⟩, ⟨"PROFILE", "b"⟩]⟩ []
        (some [⟨"PROFILE", "configured"⟩])) := by
  intro h
  have hconfigured := h.configured "PROFILE" "configured" (by decide) (by decide)
  revert hconfigured
  decide

end LittleOrgans.Daemon
