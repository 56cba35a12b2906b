import LittleOrgans.Runtime.SpawnPreflight

/-!
# The `--mount` argument of a declared mount

`bindMountArg` writes a mount as fields behind commas. No check on the way to it
excludes a comma in a path, and `to_string_lossy` replaces what is not UTF-8: the
fields give the mount back exactly where both paths are UTF-8 without a comma
(`bindMountArg_unambiguous_iff`).
-/

set_option autoImplicit false

namespace LittleOrgans.Runtime

open LittleOrgans.Library

/-- `bind_mount_arg`. -/
def bindMountArg (mount : MountSpec) : String :=
  let arg := "type=bind,source=" ++ mount.source.toStringLossy ++
    ",target=" ++ mount.target.toStringLossy
  if mount.readOnly then arg ++ ",readonly" else arg

/-- The fields of an argument. -/
def argFields (arg : String) : List String := (arg.toList.splitOn ',').map String.ofList

/-- The fields that say what the mount is. -/
def mountFields (source target : String) (readOnly : Bool) : List String :=
  ["type=bind", "source=" ++ source, "target=" ++ target] ++
    if readOnly then ["readonly"] else []

/-- The fields are the source, the target and the mode of the mount. -/
def Describes (fields : List String) (mount : MountSpec) : Prop :=
  ∃ source target : String, asBytes source = mount.source.bytes ∧
    asBytes target = mount.target.bytes ∧ fields = mountFields source target mount.readOnly

/-- A path in UTF-8 without a comma. -/
def IsPlain (path : PathBuf) : Prop :=
  ∃ text : String, asBytes text = path.bytes ∧ ',' ∉ text.toList

/-- A mount of a request that passed the preflight, on some host. -/
def Accepted (mount : MountSpec) : Prop :=
  ∃ (canonicalize : PathBuf → Except String PathBuf) (request request' : SpawnRequest),
    (∀ path canonical, canonicalize path = .ok canonical → canonical.IsCanonical) ∧
      validateDockerMounts canonicalize request = .ok request' ∧ mount ∈ request'.mounts

/-! ## Fields -/

theorem toStringLossy_of_asBytes {path : PathBuf} {text : String}
    (h : asBytes text = path.bytes) : path.toStringLossy = text := by
  have hpath : path = .ofString text := by
    cases path
    exact congrArg PathBuf.mk h.symm
  rw [hpath, PathBuf.toStringLossy_ofString]

/-- The argument is its fields between commas. -/
theorem toList_bindMountArg (mount : MountSpec) :
    (bindMountArg mount).toList = [','].intercalate ((mountFields mount.source.toStringLossy
      mount.target.toStringLossy mount.readOnly).map String.toList) := by
  rw [bindMountArg, mountFields]
  cases mount.readOnly with
  | true => simp [List.intercalate]
  | false => simp [List.intercalate]

theorem argFields_intercalate {fields : List String} (hne : fields ≠ [])
    (hfields : ∀ field ∈ fields, ',' ∉ field.toList) {arg : String}
    (harg : arg.toList = [','].intercalate (fields.map String.toList)) :
    argFields arg = fields := by
  rw [argFields, harg, List.splitOn_intercalate]
  · rw [List.map_map]
    exact (List.map_congr_left fun field _ => String.ofList_toList).trans (List.map_id fields)
  · intro field hfield
    obtain ⟨field, hmem, rfl⟩ := List.mem_map.mp hfield
    exact hfields field hmem
  · exact fun hnil => hne (List.map_eq_nil_iff.mp hnil)

theorem comma_not_mem_of_mem_argFields {arg field : String} (h : field ∈ argFields arg) :
    ',' ∉ field.toList := by
  obtain ⟨piece, hpiece, rfl⟩ := List.mem_map.mp h
  rw [String.toList_ofList]
  exact not_mem_of_mem_splitOn hpiece

theorem mountFields_inj {source target source' target' : String} {readOnly readOnly' : Bool}
    (h : mountFields source target readOnly = mountFields source' target' readOnly') :
    source = source' ∧ target = target' ∧ readOnly = readOnly' := by
  have hsource := congrArg (fun fields => fields[1]?) h
  have htarget := congrArg (fun fields => fields[2]?) h
  have hmode := congrArg List.length h
  simp only [mountFields, List.cons_append, List.getElem?_cons_succ, List.getElem?_cons_zero,
    Option.some.injEq, String.append_right_inj] at hsource htarget
  refine ⟨hsource, htarget, ?_⟩
  cases readOnly <;> cases readOnly' <;> simp [mountFields] at hmode ⊢

/-! ## The argument of one mount -/

/-- The fields give a mount back exactly where its paths are plain. -/
theorem describes_iff (mount : MountSpec) :
    Describes (argFields (bindMountArg mount)) mount ↔
      IsPlain mount.source ∧ IsPlain mount.target := by
  constructor
  · rintro ⟨source, target, hsource, htarget, hfields⟩
    -- A field has no comma, and the second and third contain the paths.
    have hcomma : ∀ field ∈ mountFields source target mount.readOnly, ',' ∉ field.toList :=
      fun field hfield => comma_not_mem_of_mem_argFields (hfields.symm ▸ hfield)
    refine ⟨⟨source, hsource, fun hmem => ?_⟩, ⟨target, htarget, fun hmem => ?_⟩⟩
    · refine hcomma ("source=" ++ source) (by simp [mountFields]) ?_
      rw [String.toList_append]
      exact List.mem_append_right _ hmem
    · refine hcomma ("target=" ++ target) (by simp [mountFields]) ?_
      rw [String.toList_append]
      exact List.mem_append_right _ hmem
  · rintro ⟨⟨source, hsource, hsourceComma⟩, target, htarget, htargetComma⟩
    refine ⟨source, target, hsource, htarget, ?_⟩
    have harg := toList_bindMountArg mount
    rw [toStringLossy_of_asBytes hsource, toStringLossy_of_asBytes htarget] at harg
    refine argFields_intercalate (List.cons_ne_nil _ _) ?_ harg
    cases mount.readOnly with
    | true => simp [hsourceComma, htargetComma]
    | false => simp [hsourceComma, htargetComma]

/-- Fields that describe two mounts describe one. -/
theorem eq_of_describes {fields : List String} {mount mount' : MountSpec}
    (h : Describes fields mount) (h' : Describes fields mount') : mount = mount' := by
  obtain ⟨source, target, hsource, htarget, hfields⟩ := h
  obtain ⟨source', target', hsource', htarget', hfields'⟩ := h'
  obtain ⟨rfl, rfl, hmode⟩ := mountFields_inj (hfields.symm.trans hfields')
  rcases mount with ⟨⟨sourceBytes⟩, ⟨targetBytes⟩, readOnly⟩
  rcases mount' with ⟨⟨sourceBytes'⟩, ⟨targetBytes'⟩, readOnly'⟩
  rw [MountSpec.mk.injEq, PathBuf.mk.injEq, PathBuf.mk.injEq]
  exact ⟨hsource.symm.trans hsource', htarget.symm.trans htarget', hmode⟩

/-- Two arguments tell two mounts apart, and say what they are, exactly where all their
paths are plain. -/
theorem bindMountArg_unambiguous_iff (mount mount' : MountSpec) :
    ((bindMountArg mount = bindMountArg mount' → mount = mount') ∧
        Describes (argFields (bindMountArg mount)) mount ∧
        Describes (argFields (bindMountArg mount')) mount') ↔
      (IsPlain mount.source ∧ IsPlain mount.target) ∧
        IsPlain mount'.source ∧ IsPlain mount'.target := by
  rw [← describes_iff, ← describes_iff]
  constructor
  · exact fun h => h.2
  · intro h
    refine ⟨fun hsame => ?_, h⟩
    rw [hsame] at h
    exact eq_of_describes h.1 h.2

/-! ## Two mounts with one argument -/

/-- A request for `/a` at a normalised target apart from the directory `/w` passes. -/
theorem accepted_of_normalized {target : String} {readOnly : Bool}
    (htarget : normalizeContainerPath target = some target)
    (hoverlap : containerPathsOverlap "/w" target = false) :
    Accepted ⟨.ofString "/a", .ofString target, readOnly⟩ := by
  let canonicalize : PathBuf → Except String PathBuf := fun path =>
    if path = .ofString "/w" ∨ path = .ofString "/a" then .ok path
    else .error "No such file or directory (os error 2)"
  let request : SpawnRequest :=
    ⟨.ofString "/w", [⟨.ofString "/a", .ofString target, readOnly⟩], []⟩
  -- both paths are canonical already, so the request comes back as it is
  refine ⟨canonicalize, request, request, ?_, ?_, List.mem_singleton_self _⟩
  · intro path canonical h
    simp only [canonicalize] at h
    split at h
    · next hpath =>
      cases h
      rcases hpath with rfl | rfl
      · exact ⟨[[0x77]], by decide, by decide⟩
      · exact ⟨[[0x61]], by decide, by decide⟩
    · cases h
  · have hnew : DockerMount.new (.ofString "/a") (.ofString target) =
        .ok ⟨.ofString "/a", target⟩ := by
      rw [DockerMount.new, PathBuf.toStringLossy_ofString, htarget]
    have hmount : canonicalizeRequestMount canonicalize (.ofString "/w")
        ⟨.ofString "/a", .ofString target, readOnly⟩ =
          .ok (⟨.ofString "/a", .ofString target, readOnly⟩, ⟨.ofString "/a", target⟩) := by
      refine Except.bind_eq_ok.mpr ⟨.ofString "/a", rfl, ?_⟩
      exact Except.bind_eq_ok.mpr ⟨⟨.ofString "/a", target⟩, hnew, rfl⟩
    have hplan : validateCwdMountPlan (.ofString "/w") [⟨.ofString "/a", target⟩] =
        .ok ⟨true, "/w"⟩ := by
      refine validateCwdMountPlan_eq_ok_iff.mpr ⟨?_, "/w", ?_, .inr ⟨rfl, ?_, rfl⟩⟩
      · rintro ⟨mount, hmem, hcovers, -⟩
        have hapart : hostPathCovers (.ofString "/w") (.ofString "/a") = false := by decide
        rw [List.mem_singleton.mp hmem, hapart] at hcovers
        cases hcovers
      · rw [PathBuf.toStringLossy_ofString]
        decide
      · rw [List.forall_mem_singleton]
        exact hoverlap
    have hmounts := Except.mapM_eq_ok.mpr (List.Forall₂.cons hmount List.Forall₂.nil)
    refine Except.bind_eq_ok.mpr ⟨.ofString "/w", rfl, Except.bind_eq_ok.mpr ⟨_, hmounts, ?_⟩⟩
    refine Except.bind_eq_ok.mpr ⟨(), ?_, Except.bind_eq_ok.mpr ⟨_, hplan, rfl⟩⟩
    simp [rejectDuplicateMountTargets]

/-- A read-only mount at `/b`, and a writable one at `/b,readonly`. -/
theorem bindMountArg_ambiguous :
    ¬∀ mount mount', Accepted mount → Accepted mount' →
      bindMountArg mount = bindMountArg mount' → mount = mount' := by
  intro h
  refine absurd (h ⟨.ofString "/a", .ofString "/b", true⟩
    ⟨.ofString "/a", .ofString "/b,readonly", false⟩
    (accepted_of_normalized (by decide) (by decide))
    (accepted_of_normalized (by decide) (by decide)) ?_) (by decide)
  simp [bindMountArg]

end LittleOrgans.Runtime
