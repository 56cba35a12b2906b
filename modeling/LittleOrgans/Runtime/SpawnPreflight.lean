import LittleOrgans.Runtime.MountResolution

/-!
# The mounts of a Docker spawn before it starts

The preflight replaces the working directory and the mount sources of a request by
their canonical paths, normalises the targets, and rejects a target declared twice, a
directory without a mount plan and a path in the environment that no mount covers. How
the host resolves a path is a parameter. A request that passes has the shape the mount
plan is stated for (`preflighted_of_validateDockerMounts`).
-/

set_option autoImplicit false

namespace LittleOrgans.Runtime

open LittleOrgans.Library
open LittleOrgans.Store

/-! ## Paths in the environment -/

/-- A variable of the environment of a launch. -/
structure LaunchEnv where
  key : String
  value : String
  deriving DecidableEq

/-- How a variable holds paths: one, or several with colons between them. -/
inductive PathValueShape where
  | single
  | colonList
  deriving DecidableEq

/-- A variable that holds paths. -/
structure PathShapedEnv where
  key : String
  valueShape : PathValueShape
  deriving DecidableEq

/-- The paths in the value of a variable. -/
def PathShapedEnv.pathValues (entry : PathShapedEnv) (value : String) : List String :=
  match entry.valueShape with
  | .single => [value]
  | .colonList =>
      if value = "" then [value] else (value.toList.splitOn ':').map String.ofList

/-- `CLAUDE_PATH_SHAPED_ENVS`. -/
def claudePathShapedEnvs : List PathShapedEnv :=
  [⟨"CLAUDE_BG_AUTH_SNAPSHOT_PATH", .single⟩,
   ⟨"CLAUDE_CODE_CLIENT_CERT", .single⟩,
   ⟨"CLAUDE_CODE_CLIENT_KEY", .single⟩,
   ⟨"CLAUDE_CODE_DEBUG_LOGS_DIR", .single⟩,
   ⟨"CLAUDE_CODE_GIT_BASH_PATH", .single⟩,
   ⟨"CLAUDE_CODE_PLUGIN_CACHE_DIR", .single⟩,
   ⟨"CLAUDE_CODE_PLUGIN_SEED_DIR", .colonList⟩,
   ⟨"CLAUDE_CODE_SHELL_PREFIX", .single⟩,
   ⟨"CLAUDE_CODE_TMPDIR", .single⟩,
   ⟨"CLAUDE_CONFIG_DIR", .single⟩,
   ⟨"CLAUDE_ENV_FILE", .single⟩,
   ⟨"CLAUDE_PLUGIN_ROOT", .single⟩,
   ⟨"CLAUDE_PROJECT_DIR", .single⟩,
   ⟨"CLAUDE_SECURESTORAGE_CONFIG_DIR", .single⟩,
   ⟨"CLAUDE_SKILL_DIR", .single⟩,
   ⟨"CLAUDE_TMPDIR", .single⟩]

/-- The variables of Claude that hold paths. -/
def claudePathShapedEnv (key : String) : Option PathShapedEnv :=
  claudePathShapedEnvs.find? fun entry => entry.key = key

/-- `path_shaped_env`. -/
def pathShapedEnv (env : LaunchEnv) : Option (LaunchEnv × PathShapedEnv) :=
  if "CLAUDE_".toList.isPrefixOf env.key.toList then
    (claudePathShapedEnv env.key).map fun entry => (env, entry)
  else none

/-- A path of the environment that no mount covers is an error. -/
def rejectUncoveredPath (mounts : List DockerMount) (env : LaunchEnv) (pathValue : String) :
    Except DaemonError Unit :=
  match normalizeContainerPath pathValue with
  | none =>
      .error (.protocolMismatch ("path-shaped env " ++ env.key ++ "=" ++ env.value ++
        " must be an absolute container path"))
  | some normalized =>
      if mounts.any fun mount => containerPathCovers mount.target normalized then .ok ()
      else
        .error (.protocolMismatch ("path-shaped env " ++ env.key ++ "=" ++ env.value ++
          " is not covered by a declared Docker mount target; add --mount " ++ pathValue ++
          ":" ++ pathValue ++ ":ro"))

/-- Every path of the environment lies in a mount. -/
def rejectUncoveredPathEnvs (env : List LaunchEnv) (mounts : List DockerMount) :
    Except DaemonError Unit :=
  (env.filterMap pathShapedEnv).forM fun (env, entry) =>
    (entry.pathValues env.value).forM (rejectUncoveredPath mounts env)

/-! ## Canonical sources -/

/-- The fields of a spawn request that the mount checks read and write. -/
structure SpawnRequest where
  cwd : PathBuf
  mounts : List MountSpec
  env : List LaunchEnv
  deriving DecidableEq

section

variable (canonicalize : PathBuf → Except String PathBuf)

/-- The working directory, with its symbolic links resolved. -/
def canonicalizeCwd (cwd : PathBuf) : Except DaemonError PathBuf :=
  match canonicalize cwd with
  | .ok path => .ok path
  | .error error =>
      .error (.protocolMismatch ("spawn cwd " ++ cwd.toStringLossy ++
        " could not be canonicalized for Docker mount preflight: " ++ error))

/-- The source of a mount, with its symbolic links resolved. -/
def canonicalizeMountSource (cwd source : PathBuf) : Except DaemonError PathBuf :=
  match canonicalize (if source.isAbsolute then source else cwd.join source) with
  | .ok path => .ok path
  | .error error =>
      .error (.protocolMismatch ("docker mount source " ++ source.toStringLossy ++
        " could not be canonicalized relative to cwd " ++ cwd.toStringLossy ++ ": " ++ error))

/-- The mount with its canonical source, and as Docker gets it. -/
def canonicalizeRequestMount (cwd : PathBuf) (mount : MountSpec) :
    Except DaemonError (MountSpec × DockerMount) := do
  let source ← canonicalizeMountSource canonicalize cwd mount.source
  let docker ← DockerMount.new source mount.target
  return ({ mount with source }, docker)

/-- The mounts of a request, each with what Docker is told of it. -/
def canonicalizeRequestMounts (cwd : PathBuf) (mounts : List MountSpec) :
    Except DaemonError (List (MountSpec × DockerMount)) :=
  mounts.mapM (canonicalizeRequestMount canonicalize cwd)

/-- `reject_duplicate_mount_targets`: the first of the repeated targets is named. -/
def rejectDuplicateMountTargets (mounts : List DockerMount) : Except DaemonError Unit :=
  let targets := (mounts.map DockerMount.target).mergeSort fun a b => a ≤ b
  match targets.find? fun target => 1 < targets.count target with
  | some target =>
      .error (.protocolMismatch ("docker mount target " ++ target ++
        " is declared more than once"))
  | none => .ok ()

/-- `validate_docker_mounts`: the request as the checks leave it. -/
def validateDockerMounts (request : SpawnRequest) : Except DaemonError SpawnRequest := do
  let cwdSource ← canonicalizeCwd canonicalize request.cwd
  let canonical ← canonicalizeRequestMounts canonicalize cwdSource request.mounts
  let mounts := canonical.map Prod.snd
  rejectDuplicateMountTargets mounts
  let _ ← validateCwdMountPlan cwdSource mounts
  rejectUncoveredPathEnvs request.env mounts
  return { request with cwd := cwdSource, mounts := canonical.map Prod.fst }

end

/-! ## A request that passes -/

/-- The shape of a request the mount plan is made for. -/
structure Preflighted (request : SpawnRequest) : Prop where
  cwd : request.cwd.IsCanonical
  sources : ∀ mount ∈ request.mounts.map MountSpec.normalized, mount.source.IsCanonical
  targets : ∀ mount ∈ request.mounts.map MountSpec.normalized,
    ∃ value, normalizeContainerPath value = some mount.target
  distinct : ((request.mounts.map MountSpec.normalized).map DockerMount.target).Nodup
  planned : ∃ plan, planCwdMount request.cwd request.mounts = .ok plan ∧
    validateCwdMountPlan request.cwd (request.mounts.map MountSpec.normalized) = .ok plan

theorem rejectDuplicateMountTargets_eq_ok {mounts : List DockerMount}
    (h : rejectDuplicateMountTargets mounts = .ok ()) :
    (mounts.map DockerMount.target).Nodup := by
  rw [rejectDuplicateMountTargets] at h
  split at h
  · cases h
  · next hfind =>
    rw [← (List.mergeSort_perm _ fun a b => decide (a ≤ b)).nodup_iff, List.nodup_iff_count_le_one]
    intro target
    by_cases hmem : target ∈ (mounts.map DockerMount.target).mergeSort fun a b => a ≤ b
    · have hcount := List.find?_eq_none.mp hfind target hmem
      rw [decide_eq_true_iff] at hcount
      exact Nat.le_of_not_lt hcount
    · rw [List.count_eq_zero_of_not_mem hmem]
      exact Nat.zero_le 1

section

variable {canonicalize : PathBuf → Except String PathBuf}
  (hcanonicalize : ∀ path canonical, canonicalize path = .ok canonical → canonical.IsCanonical)

include hcanonicalize

theorem canonicalizeCwd_eq_ok {cwd cwdSource : PathBuf}
    (h : canonicalizeCwd canonicalize cwd = .ok cwdSource) : cwdSource.IsCanonical := by
  rw [canonicalizeCwd] at h
  split at h
  · next path hpath =>
    cases h
    exact hcanonicalize _ _ hpath
  · cases h

theorem canonicalizeRequestMount_eq_ok {cwd : PathBuf} {mount mount' : MountSpec}
    {docker : DockerMount}
    (h : canonicalizeRequestMount canonicalize cwd mount = .ok (mount', docker)) :
    docker = mount'.normalized ∧ mount'.source.IsCanonical ∧
      normalizeContainerPath mount'.target.toStringLossy = some docker.target := by
  obtain ⟨source, hsource, h⟩ := Except.bind_eq_ok.mp h
  obtain ⟨docker', hdocker, h⟩ := Except.bind_eq_ok.mp h
  cases h
  have hcanonical : source.IsCanonical := by
    rw [canonicalizeMountSource] at hsource
    split at hsource
    · next path hpath =>
      cases hsource
      exact hcanonicalize _ _ hpath
    · cases hsource
  rw [DockerMount.new] at hdocker
  split at hdocker
  · next normalized hnormalized =>
    cases hdocker
    refine ⟨?_, hcanonical, hnormalized⟩
    rw [MountSpec.normalized, hnormalized]
    rfl
  · cases hdocker

/-- What passes the preflight is ready for the mount plan. -/
theorem preflighted_of_validateDockerMounts {request request' : SpawnRequest}
    (h : validateDockerMounts canonicalize request = .ok request') : Preflighted request' := by
  obtain ⟨cwdSource, hcwd, h⟩ := Except.bind_eq_ok.mp h
  obtain ⟨canonical, hcanonical, h⟩ := Except.bind_eq_ok.mp h
  obtain ⟨⟨⟩, hdistinct, h⟩ := Except.bind_eq_ok.mp h
  obtain ⟨plan, hplan, h⟩ := Except.bind_eq_ok.mp h
  obtain ⟨⟨⟩, -, h⟩ := Except.bind_eq_ok.mp h
  cases h
  -- each mount comes back canonical, beside its normalised form
  have hspec : ∀ pair ∈ canonical, pair.2 = pair.1.normalized ∧ pair.1.source.IsCanonical ∧
      normalizeContainerPath pair.1.target.toStringLossy = some pair.2.target := by
    intro pair hpair
    obtain ⟨mount, -, hmount⟩ := (Except.mem_of_mapM_eq_ok hcanonical).mp hpair
    exact canonicalizeRequestMount_eq_ok hcanonicalize hmount
  have hmounts : (canonical.map Prod.fst).map MountSpec.normalized = canonical.map Prod.snd := by
    rw [List.map_map]
    exact List.map_congr_left fun pair hpair => (hspec pair hpair).1.symm
  have htargets : ∀ mount ∈ canonical.map Prod.fst,
      normalizeContainerPath mount.target.toStringLossy ≠ none := by
    intro mount hmount
    obtain ⟨pair, hpair, rfl⟩ := List.mem_map.mp hmount
    rw [(hspec pair hpair).2.2]
    exact Option.some_ne_none _
  refine ⟨canonicalizeCwd_eq_ok hcanonicalize hcwd, ?_, ?_, ?_, plan, ?_, ?_⟩
  · rw [hmounts]
    intro mount hmount
    obtain ⟨pair, hpair, rfl⟩ := List.mem_map.mp hmount
    rw [(hspec pair hpair).1]
    exact (hspec pair hpair).2.1
  · rw [hmounts]
    intro mount hmount
    obtain ⟨pair, hpair, rfl⟩ := List.mem_map.mp hmount
    exact ⟨_, (hspec pair hpair).2.2⟩
  · rw [hmounts]
    exact rejectDuplicateMountTargets_eq_ok hdistinct
  · rw [planCwdMount, mapM_new_eq_ok htargets, hmounts]
    exact hplan
  · rw [hmounts]
    exact hplan

end

end LittleOrgans.Runtime
