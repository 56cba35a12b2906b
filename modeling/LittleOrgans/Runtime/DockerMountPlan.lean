import LittleOrgans.Library.Except
import LittleOrgans.Library.StrictMax
import LittleOrgans.Library.UnixPath
import LittleOrgans.Store.Database
import Mathlib.Tactic.ByContra

/-!
# Mount plan of a docker runtime

`docker_mount_plan.rs`: how the working directory of a spawn reaches its container.
A mount whose source is the directory or an ancestor of it covers it, and the
deepest such source serves it (`selectCwdCover`); without a cover the directory is
mounted at its own path.

Container paths are compared by their parts: a normalised path is `/` or a list of
parts, each behind a separator (`renderParts`), and one covers another where its
parts are a prefix (`containerPathCovers_renderParts`).
-/

set_option autoImplicit false

namespace LittleOrgans.Runtime

open LittleOrgans.Library
open LittleOrgans.Store

/-- A bind mount of a spawn request. -/
structure MountSpec where
  source : PathBuf
  target : PathBuf
  readOnly : Bool
  deriving DecidableEq

/-- A read-only mount of two paths without expansion, as `MountSpec::from_str` makes it. -/
def MountSpec.ofStrings (source target : String) : MountSpec :=
  ⟨.ofString source, .ofString target, true⟩

/-- A mount with its target as a normalised container path. -/
structure DockerMount where
  source : PathBuf
  target : String
  deriving DecidableEq

/-- A mount that covers the working directory. -/
structure CwdCover where
  source : PathBuf
  target : String
  deriving DecidableEq

/-- Whether the working directory is mounted, and where the container works. -/
structure CwdMountPlan where
  autoMountCwd : Bool
  workdir : String
  deriving DecidableEq

/-! ## Container paths -/

/-- The error for a path that is no absolute container path. -/
def invalidContainerPath (label value : String) : DaemonError :=
  .protocolMismatch (label ++ " " ++ value ++ " must be an absolute container path")

/-- One part of a container path: `..` takes the last one back. -/
def pushPart (parts : List (List Char)) (part : List Char) : List (List Char) :=
  if part = [] ∨ part = ['.'] then parts
  else if part = ['.', '.'] then parts.dropLast
  else parts ++ [part]

/-- `normalize_container_path`. -/
def normalizeContainerPath (value : String) : Option String :=
  if value.toList.head? ≠ some '/' then none
  else
    let parts := (value.toList.splitOn '/').foldl pushPart []
    if parts = [] then some "/" else some (String.ofList ('/' :: ['/'].intercalate parts))

/-- `container_path_covers`. -/
def containerPathCovers (root value : String) : Bool :=
  root = "/" || value = root ||
    (root.toList.isPrefixOf value.toList &&
      (value.toList.drop root.toList.length).head? = some '/')

/-- One of two container paths covers the other. -/
def containerPathsOverlap (left right : String) : Bool :=
  containerPathCovers left right || containerPathCovers right left

/-- `push_container_component`. -/
def pushContainerComponent (path component : String) : String :=
  if path = "/" then path ++ component else path ++ "/" ++ component

/-- `DockerMount::new`. -/
def DockerMount.new (source target : PathBuf) : Except DaemonError DockerMount :=
  match normalizeContainerPath target.toStringLossy with
  | some normalized => .ok ⟨source, normalized⟩
  | none => .error (invalidContainerPath "docker mount target" target.toStringLossy)

/-! ## The plan -/

/-- A host path covers another one. -/
def hostPathCovers (root value : PathBuf) : Bool := root.same value || value.startsWith root

/-- `reject_cwd_source_descendants`. -/
def rejectCwdSourceDescendants (cwdSource : PathBuf) (mounts : List DockerMount) :
    Except DaemonError Unit :=
  match mounts.find? fun mount =>
      hostPathCovers cwdSource mount.source && !mount.source.same cwdSource with
  | some mount =>
      .error (.protocolMismatch ("docker mount source " ++ mount.source.toStringLossy ++
        " overlaps the cwd auto-mount source " ++ cwdSource.toStringLossy))
  | none => .ok ()

/-- The loop of `select_cwd_cover`: the deepest cover so far, and its depth. -/
def selectCover (cwdSource : PathBuf) (selected : Option DockerMount) (selectedLen : Nat) :
    List DockerMount → Except DaemonError (Option DockerMount)
  | [] => .ok selected
  | mount :: rest =>
      if !hostPathCovers mount.source cwdSource then
        selectCover cwdSource selected selectedLen rest
      else
        let length := mount.source.components.length
        if selectedLen < length then selectCover cwdSource (some mount) length rest
        else if length = selectedLen then
          match selected with
          | none => selectCover cwdSource (some mount) length rest
          | some previous =>
              .error (.protocolMismatch ("multiple docker mount sources cover spawn cwd " ++
                cwdSource.toStringLossy ++ " with equal precedence: " ++
                previous.source.toStringLossy ++ " and " ++ mount.source.toStringLossy))
        else selectCover cwdSource selected selectedLen rest

/-- `select_cwd_cover`. -/
def selectCwdCover (cwdSource : PathBuf) (mounts : List DockerMount) :
    Except DaemonError (Option CwdCover) := do
  let selected ← selectCover cwdSource none 0 mounts
  return selected.map fun mount => ⟨mount.source, mount.target⟩

/-- `reject_cwd_target_overlaps`. -/
def rejectCwdTargetOverlaps (cwdTarget : String) (mounts : List DockerMount) :
    Except DaemonError Unit :=
  match mounts.find? fun mount => containerPathsOverlap cwdTarget mount.target with
  | some mount =>
      .error (.protocolMismatch ("docker mount target " ++ mount.target ++
        " overlaps the cwd auto-mount target " ++ cwdTarget))
  | none => .ok ()

/-- One component below the cover; only names count. -/
def pushComponent (workdir : String) : Component → String
  | .normal name => pushContainerComponent workdir (String.ofList (fromUtf8Lossy name))
  | .rootDir => workdir
  | .curDir => workdir
  | .parentDir => workdir

/-- `remap_cwd_workdir`. -/
def remapCwdWorkdir (cover : CwdCover) (cwdSource : PathBuf) : Except DaemonError String :=
  match cwdSource.stripPrefix cover.source with
  | some rest => .ok (rest.foldl pushComponent cover.target)
  | none =>
      .error (.protocolMismatch ("docker mount source " ++ cover.source.toStringLossy ++
        " does not cover spawn cwd " ++ cwdSource.toStringLossy))

/-- The container path of the directory itself. -/
def cwdContainerPath (cwdSource : PathBuf) : Except DaemonError String :=
  match normalizeContainerPath cwdSource.toStringLossy with
  | some cwdTarget => .ok cwdTarget
  | none => .error (invalidContainerPath "spawn cwd" cwdSource.toStringLossy)

/-- `validate_cwd_mount_plan`. -/
def validateCwdMountPlan (cwdSource : PathBuf) (mounts : List DockerMount) :
    Except DaemonError CwdMountPlan := do
  rejectCwdSourceDescendants cwdSource mounts
  let cover ← selectCwdCover cwdSource mounts
  let cwdTarget ← cwdContainerPath cwdSource
  match cover with
  | some cover =>
      let workdir ← remapCwdWorkdir cover cwdSource
      return ⟨false, workdir⟩
  | none =>
      rejectCwdTargetOverlaps cwdTarget mounts
      return ⟨true, cwdTarget⟩

/-- `plan_cwd_mount`. -/
def planCwdMount (cwdSource : PathBuf) (mounts : List MountSpec) :
    Except DaemonError CwdMountPlan := do
  let mounts ← mounts.mapM fun mount => DockerMount.new mount.source mount.target
  validateCwdMountPlan cwdSource mounts

/-! ## What a plan says -/

/-- The mounts whose source is the directory or an ancestor of it. -/
def covers (cwdSource : PathBuf) (mounts : List DockerMount) : List DockerMount :=
  mounts.filter fun mount => hostPathCovers mount.source cwdSource

/-- How deep the source of a mount lies. -/
def DockerMount.depth (mount : DockerMount) : Nat := mount.source.components.length

/-- The container path of the directory below a mount that covers it. -/
def workdirBelow (mount : DockerMount) (cwdSource : PathBuf) : String :=
  (cwdSource.components.drop mount.depth).foldl pushComponent mount.target

/-- A mount source lies below the directory. -/
def HasDescendant (cwdSource : PathBuf) (mounts : List DockerMount) : Prop :=
  ∃ mount ∈ mounts, hostPathCovers cwdSource mount.source = true ∧
    mount.source.same cwdSource = false

theorem hostPathCovers_iff {root value : PathBuf} :
    hostPathCovers root value = true ↔ root.components <+: value.components := by
  rw [hostPathCovers, Bool.or_eq_true, PathBuf.same_iff, PathBuf.startsWith_iff]
  constructor
  · rintro (heq | hstarts)
    · exact heq ▸ List.prefix_rfl
    · exact hstarts
  · exact .inr

/-- The loop of the selection is the strict maximum of the depth of the covers. -/
theorem selectCover_eq_ok_iff {cwdSource : PathBuf} {mounts : List DockerMount}
    {selected r : Option DockerMount} {selectedLen : Nat}
    (hlen : selectedLen = (selected.map DockerMount.depth).getD 0) :
    selectCover cwdSource selected selectedLen mounts = .ok r ↔
      strictMax DockerMount.depth selected (covers cwdSource mounts) = .ok r := by
  induction mounts generalizing selected selectedLen with
  | nil => simp [selectCover, covers, strictMax]
  | cons mount rest ih =>
      by_cases hcover : hostPathCovers mount.source cwdSource = true
      · have hcovers : covers cwdSource (mount :: rest) = mount :: covers cwdSource rest :=
          List.filter_cons_of_pos hcover
        rw [selectCover, hcover, hcovers]
        simp only [Bool.not_true, Bool.false_eq_true, if_false]
        cases selected with
        | none =>
            subst hlen
            rw [strictMax, ← ih rfl]
            -- at the root the depth is no greater than the one the loop starts with
            by_cases hdepth : 0 < mount.source.components.length
            · rw [if_pos (by simpa using hdepth)]
              rfl
            · rw [if_neg (by simpa using hdepth), if_pos (by simpa using hdepth)]
              rfl
        | some previous =>
            subst hlen
            rw [strictMax]
            by_cases hdeeper : previous.depth < mount.depth
            · rw [if_pos hdeeper, if_pos (by exact hdeeper)]
              exact ih rfl
            · rw [if_neg hdeeper, if_neg (by exact hdeeper)]
              by_cases htie : mount.depth = previous.depth
              · rw [if_pos htie, if_pos (by exact htie)]
                simp
              · rw [if_neg htie, if_neg (by exact htie)]
                exact ih rfl
      · have hcovers : covers cwdSource (mount :: rest) = covers cwdSource rest :=
          List.filter_cons_of_neg hcover
        rw [selectCover, hcovers, if_pos (by simpa using hcover)]
        exact ih hlen

theorem rejectCwdSourceDescendants_eq_ok_iff {cwdSource : PathBuf} {mounts : List DockerMount} :
    rejectCwdSourceDescendants cwdSource mounts = .ok () ↔ ¬HasDescendant cwdSource mounts := by
  rw [rejectCwdSourceDescendants]
  split
  · next mount hfind =>
      have hmem := List.mem_of_find?_eq_some hfind
      have hmount := List.find?_some hfind
      simp only [Bool.and_eq_true, Bool.not_eq_true'] at hmount
      simp only [reduceCtorEq, false_iff, not_not]
      exact ⟨mount, hmem, hmount⟩
  · next hfind =>
      rw [List.find?_eq_none] at hfind
      simp only [true_iff]
      rintro ⟨mount, hmem, hcover, hsame⟩
      exact hfind mount hmem (by simp [hcover, hsame])

theorem rejectCwdTargetOverlaps_eq_ok_iff {cwdTarget : String} {mounts : List DockerMount} :
    rejectCwdTargetOverlaps cwdTarget mounts = .ok () ↔
      ∀ mount ∈ mounts, containerPathsOverlap cwdTarget mount.target = false := by
  rw [rejectCwdTargetOverlaps]
  split
  · next mount hfind =>
      simp only [reduceCtorEq, false_iff]
      intro hall
      have hmount := List.find?_some hfind
      rw [hall mount (List.mem_of_find?_eq_some hfind)] at hmount
      cases hmount
  · next hfind =>
      rw [List.find?_eq_none] at hfind
      simp only [true_iff]
      exact fun mount hmem => Bool.eq_false_iff.mpr (hfind mount hmem)

/-- The cover that is selected covers the directory. -/
theorem hostPathCovers_of_selectCover {cwdSource : PathBuf} {mounts : List DockerMount}
    {mount : DockerMount} (h : selectCover cwdSource none 0 mounts = .ok (some mount)) :
    mount ∈ mounts ∧ hostPathCovers mount.source cwdSource = true ∧
      IsStrictMax DockerMount.depth mount (covers cwdSource mounts) := by
  rcases strictMax_eq_ok ((selectCover_eq_ok_iff rfl).mp h) with ⟨-, hnone⟩ | ⟨m, hm, hmax⟩
  · cases hnone
  · cases hm
    have hmem := List.mem_filter.mp hmax.mem
    exact ⟨hmem.1, hmem.2, hmax⟩

theorem cwdContainerPath_eq_ok_iff {cwdSource : PathBuf} {cwdTarget : String} :
    cwdContainerPath cwdSource = .ok cwdTarget ↔
      normalizeContainerPath cwdSource.toStringLossy = some cwdTarget := by
  rw [cwdContainerPath]
  split
  · next found hfound => simp [hfound]
  · next hnone => simp [hnone]

theorem remapCwdWorkdir_of_covers {mount : DockerMount} {cwdSource : PathBuf}
    (h : hostPathCovers mount.source cwdSource = true) :
    remapCwdWorkdir ⟨mount.source, mount.target⟩ cwdSource =
      .ok (workdirBelow mount cwdSource) := by
  rw [remapCwdWorkdir, PathBuf.stripPrefix,
    if_pos (PathBuf.startsWith_iff.mpr (hostPathCovers_iff.mp h))]
  rfl

/-- When the directory gets a plan, and which. -/
theorem validateCwdMountPlan_eq_ok_iff {cwdSource : PathBuf} {mounts : List DockerMount}
    {plan : CwdMountPlan} :
    validateCwdMountPlan cwdSource mounts = .ok plan ↔
      ¬HasDescendant cwdSource mounts ∧
        ∃ cwdTarget, normalizeContainerPath cwdSource.toStringLossy = some cwdTarget ∧
          ((∃ mount, selectCover cwdSource none 0 mounts = .ok (some mount) ∧
              plan = ⟨false, workdirBelow mount cwdSource⟩) ∨
            (selectCover cwdSource none 0 mounts = .ok none ∧
              (∀ mount ∈ mounts, containerPathsOverlap cwdTarget mount.target = false) ∧
              plan = ⟨true, cwdTarget⟩)) := by
  rw [validateCwdMountPlan, ← rejectCwdSourceDescendants_eq_ok_iff]
  constructor
  · intro h
    obtain ⟨⟨⟩, hdescendants, hrest⟩ := Except.bind_eq_ok.mp h
    obtain ⟨cover, hcover, hrest⟩ := Except.bind_eq_ok.mp hrest
    refine ⟨hdescendants, ?_⟩
    -- the target is computed whether or not a cover was selected
    obtain ⟨cwdTarget, htarget, hrest⟩ := Except.bind_eq_ok.mp hrest
    obtain ⟨selected, hselected, hcover⟩ := Except.bind_eq_ok.mp hcover
    cases hcover
    refine ⟨cwdTarget, cwdContainerPath_eq_ok_iff.mp htarget, ?_⟩
    cases selected with
    | none =>
        obtain ⟨⟨⟩, hoverlaps, hplan⟩ := Except.bind_eq_ok.mp hrest
        cases hplan
        exact .inr ⟨hselected, rejectCwdTargetOverlaps_eq_ok_iff.mp hoverlaps, rfl⟩
    | some mount =>
        obtain ⟨workdir, hworkdir, hplan⟩ := Except.bind_eq_ok.mp hrest
        cases hplan
        rw [remapCwdWorkdir_of_covers (hostPathCovers_of_selectCover hselected).2.1] at hworkdir
        cases hworkdir
        exact .inl ⟨mount, hselected, rfl⟩
  · rintro ⟨hdescendants, cwdTarget, htarget, hcase⟩
    have htarget := cwdContainerPath_eq_ok_iff.mpr htarget
    refine Except.bind_eq_ok.mpr ⟨(), hdescendants, Except.bind_eq_ok.mpr ?_⟩
    rcases hcase with ⟨mount, hselected, rfl⟩ | ⟨hselected, hoverlaps, rfl⟩
    · refine ⟨some ⟨mount.source, mount.target⟩, ?_, ?_⟩
      · rw [selectCwdCover, hselected]
        rfl
      · have hcovers := (hostPathCovers_of_selectCover hselected).2.1
        rw [htarget]
        show (remapCwdWorkdir ⟨mount.source, mount.target⟩ cwdSource >>= _) = _
        rw [remapCwdWorkdir_of_covers hcovers]
        rfl
    · refine ⟨none, ?_, ?_⟩
      · rw [selectCwdCover, hselected]
        rfl
      · rw [htarget]
        show (rejectCwdTargetOverlaps cwdTarget mounts >>= _) = _
        rw [rejectCwdTargetOverlaps_eq_ok_iff.mpr hoverlaps]
        rfl

/-! ## Parts of a container path -/

/-- A part between two separators. -/
def IsPart (part : List Char) : Prop := part ≠ [] ∧ '/' ∉ part

/-- The parts, each behind a separator. -/
def joinParts (parts : List (List Char)) : List Char := parts.flatMap fun part => '/' :: part

/-- The normalised path with these parts. -/
def renderParts (parts : List (List Char)) : String :=
  if parts = [] then "/" else String.ofList (joinParts parts)

theorem cons_intercalate {parts : List (List Char)} (h : parts ≠ []) :
    '/' :: ['/'].intercalate parts = joinParts parts := by
  induction parts with
  | nil => exact absurd rfl h
  | cons part parts ih =>
      by_cases hnil : parts = []
      · subst hnil
        simp [joinParts]
      · have ih := ih hnil
        rw [joinParts, List.flatMap_cons, ← joinParts, ← ih]
        obtain ⟨next, rest, rfl⟩ := List.exists_cons_of_ne_nil hnil
        simp [List.intercalate]

theorem pushPart_isPart {parts : List (List Char)} (hparts : ∀ part ∈ parts, IsPart part)
    {part : List Char} (hpart : '/' ∉ part) : ∀ p ∈ pushPart parts part, IsPart p := by
  rw [pushPart]
  split
  · exact hparts
  · next hname =>
      split
      · exact fun p hp => hparts p (List.dropLast_subset _ hp)
      · rw [List.forall_mem_append, List.forall_mem_singleton]
        exact ⟨hparts, (not_or.mp hname).1, hpart⟩

theorem foldl_pushPart_isPart {pieces : List (List Char)} (hpieces : ∀ piece ∈ pieces, '/' ∉ piece)
    {parts : List (List Char)} (hparts : ∀ part ∈ parts, IsPart part) :
    ∀ part ∈ pieces.foldl pushPart parts, IsPart part := by
  induction pieces generalizing parts with
  | nil => exact hparts
  | cons piece pieces ih =>
      rw [List.forall_mem_cons] at hpieces
      exact ih hpieces.2 (pushPart_isPart hparts hpieces.1)

/-- A normalised path renders parts. -/
theorem normalizeContainerPath_eq_some {value normalized : String}
    (h : normalizeContainerPath value = some normalized) :
    ∃ parts : List (List Char), (∀ part ∈ parts, IsPart part) ∧ normalized = renderParts parts := by
  rw [normalizeContainerPath] at h
  split at h
  · cases h
  · refine ⟨(value.toList.splitOn '/').foldl pushPart [], ?_, ?_⟩
    · refine foldl_pushPart_isPart (fun piece hpiece => ?_) (fun part hpart => by cases hpart)
      exact not_mem_of_mem_splitOn hpiece
    · rw [renderParts]
      simp only at h
      split at h
      · next hnil =>
          rw [if_pos hnil]
          exact (Option.some.inj h).symm
      · next hne =>
          rw [if_neg hne, ← cons_intercalate hne]
          exact (Option.some.inj h).symm

theorem splitOn_joinParts {parts : List (List Char)} (h : ∀ part ∈ parts, IsPart part) :
    (joinParts parts).splitOn '/' = [] :: parts := by
  by_cases hnil : parts = []
  · subst hnil
    rfl
  · rw [← cons_intercalate hnil, ← List.nil_append ('/' :: _),
      List.splitOn_append_cons_self_of_not_mem List.not_mem_nil,
      List.splitOn_intercalate '/' (fun part hpart => (h part hpart).2) hnil]

theorem joinParts_append (parts parts' : List (List Char)) :
    joinParts (parts ++ parts') = joinParts parts ++ joinParts parts' := List.flatMap_append

/-- Behind the parts of a path, another separator begins further parts. -/
theorem joinParts_prefix_iff {parts parts' : List (List Char)}
    (h : ∀ part ∈ parts, IsPart part) (h' : ∀ part ∈ parts', IsPart part) :
    (∃ tail, joinParts parts' = joinParts parts ++ '/' :: tail) ↔
      ∃ rest, rest ≠ [] ∧ parts' = parts ++ rest := by
  constructor
  · rintro ⟨tail, htail⟩
    have hsplit := congrArg (List.splitOn '/') htail
    rw [splitOn_joinParts h', List.splitOn_append_cons_self, splitOn_joinParts h] at hsplit
    exact ⟨tail.splitOn '/', List.splitOn_ne_nil '/' tail, (List.cons_inj_right []).mp hsplit⟩
  · rintro ⟨rest, hrest, rfl⟩
    obtain ⟨part, rest, rfl⟩ := List.exists_cons_of_ne_nil hrest
    exact ⟨part ++ joinParts rest, by rw [joinParts_append]; rfl⟩

theorem joinParts_inj {parts parts' : List (List Char)} (h : ∀ part ∈ parts, IsPart part)
    (h' : ∀ part ∈ parts', IsPart part) (heq : joinParts parts = joinParts parts') :
    parts = parts' := by
  have hsplit := congrArg (List.splitOn '/') heq
  rw [splitOn_joinParts h, splitOn_joinParts h'] at hsplit
  exact (List.cons_inj_right []).mp hsplit

/-- The characters of `/` are no joined parts. -/
theorem joinParts_ne_slash {parts : List (List Char)} (h : ∀ part ∈ parts, IsPart part)
    (tail : List Char) : joinParts parts ++ tail = ['/'] → parts = [] := by
  intro heq
  cases parts with
  | nil => rfl
  | cons part parts =>
      have hpart := (h part List.mem_cons_self).1
      have hlength := congrArg List.length heq
      have hpos := List.length_pos_iff.mpr hpart
      simp only [joinParts, List.flatMap_cons, List.length_append, List.length_cons,
        List.length_nil] at hlength
      omega

theorem toList_renderParts {parts : List (List Char)} (h : parts ≠ []) :
    (renderParts parts).toList = joinParts parts := by
  rw [renderParts, if_neg h, String.toList_ofList]

theorem renderParts_eq_slash_iff {parts : List (List Char)} (h : ∀ part ∈ parts, IsPart part) :
    renderParts parts = "/" ↔ parts = [] := by
  constructor
  · intro heq
    by_contra hne
    have hlist := toList_renderParts hne
    rw [heq] at hlist
    exact hne (joinParts_ne_slash h [] (by rw [List.append_nil]; exact hlist.symm))
  · rintro rfl
    rfl

theorem renderParts_inj {parts parts' : List (List Char)} (h : ∀ part ∈ parts, IsPart part)
    (h' : ∀ part ∈ parts', IsPart part) (heq : renderParts parts = renderParts parts') :
    parts = parts' := by
  by_cases hnil : parts = []
  · rw [hnil] at heq
    rw [hnil, (renderParts_eq_slash_iff h').mp heq.symm]
  · by_cases hnil' : parts' = []
    · rw [hnil'] at heq
      exact absurd ((renderParts_eq_slash_iff h).mp heq) hnil
    · have hlist := congrArg String.toList heq
      rw [toList_renderParts hnil, toList_renderParts hnil'] at hlist
      exact joinParts_inj h h' hlist

/-- A container path covers another where its parts are a prefix. -/
theorem containerPathCovers_renderParts {parts parts' : List (List Char)}
    (h : ∀ part ∈ parts, IsPart part) (h' : ∀ part ∈ parts', IsPart part) :
    containerPathCovers (renderParts parts) (renderParts parts') = true ↔ parts <+: parts' := by
  by_cases hnil : parts = []
  · subst hnil
    simp [containerPathCovers, renderParts]
  have hroot : renderParts parts ≠ "/" := mt (renderParts_eq_slash_iff h).mp hnil
  have htail : ∀ value : List Char,
      ((joinParts parts).isPrefixOf value = true ∧
          (value.drop (joinParts parts).length).head? = some '/') ↔
        ∃ tail, value = joinParts parts ++ '/' :: tail := by
    intro value
    rw [List.isPrefixOf_iff_prefix]
    constructor
    · rintro ⟨⟨rest, rfl⟩, hhead⟩
      rw [List.drop_left] at hhead
      obtain ⟨tail, rfl⟩ := List.head?_eq_some_iff.mp hhead
      exact ⟨tail, rfl⟩
    · rintro ⟨tail, rfl⟩
      exact ⟨⟨_, rfl⟩, by rw [List.drop_left]; rfl⟩
  simp only [containerPathCovers, Bool.or_eq_true, decide_eq_true_eq, hroot, false_or,
    Bool.and_eq_true, toList_renderParts hnil, htail]
  -- the root is covered by itself only
  by_cases hnil' : parts' = []
  · subst hnil'
    constructor
    · rintro (heq | ⟨tail, htail⟩)
      · exact absurd heq.symm hroot
      · exact absurd (joinParts_ne_slash h _ htail.symm) hnil
    · intro hstarts
      exact absurd (List.prefix_nil.mp hstarts) hnil
  · rw [toList_renderParts hnil', joinParts_prefix_iff h h']
    constructor
    · rintro (heq | ⟨rest, -, rfl⟩)
      · obtain rfl := renderParts_inj h' h heq
        exact List.prefix_rfl
      · exact List.prefix_append parts rest
    · rintro ⟨rest, rfl⟩
      by_cases hrest : rest = []
      · subst hrest
        exact .inl (by rw [List.append_nil])
      · exact .inr ⟨rest, hrest, rfl⟩

/-- A component pushed on a path is one more part. -/
theorem pushContainerComponent_renderParts {parts : List (List Char)}
    (h : ∀ part ∈ parts, IsPart part) (part : List Char) :
    pushContainerComponent (renderParts parts) (String.ofList part) =
      renderParts (parts ++ [part]) := by
  have hne : parts ++ [part] ≠ [] := by simp
  rw [← String.toList_inj, toList_renderParts hne, joinParts_append, pushContainerComponent]
  by_cases hnil : parts = []
  · subst hnil
    simp [renderParts, joinParts]
  · rw [if_neg (mt (renderParts_eq_slash_iff h).mp hnil)]
    simp [toList_renderParts hnil, joinParts]

end LittleOrgans.Runtime
