import LittleOrgans.Runtime.MountOrder

/-!
# What the working directory of a container resolves to

Docker serves a container path by the mount with the longest target that covers it
(`ServedBy`); what lies behind the target is looked up behind the source. The mount
plan chooses the cover by the length of its source, so another mount can have the
longer target. `docker_argv.rs` writes the paths of a mount as lossy text, so Docker
mounts what the text names (`DockerMount.written`).

The planned directory resolves to the working directory of the host exactly where that
directory is UTF-8 and no target shadows the path below the cover
(`workdir_resolves_iff`, `servedThroughCover_iff`). A directory mounted at its own path
is shadowed by nothing: its plan rejects every overlap of targets.
-/

set_option autoImplicit false

namespace LittleOrgans.Runtime

open LittleOrgans.Library
open LittleOrgans.Store

/-! ## Lookup in a container -/

/-- The names of a container path. -/
def containerParts (path : String) : List (List Char) :=
  (path.toList.splitOn '/').filter fun part => part ≠ []

/-- The target of the mount is the path or an ancestor of it. -/
def DockerMount.Serves (mount : DockerMount) (path : String) : Prop :=
  containerParts mount.target <+: containerParts path

/-- The mount has the longest target of those that serve the path. -/
def ServedBy (mounts : List DockerMount) (path : String) (mount : DockerMount) : Prop :=
  mount ∈ mounts ∧ mount.Serves path ∧
    ∀ other ∈ mounts, other.Serves path →
      (containerParts other.target).length ≤ (containerParts mount.target).length

/-- What a container path is on the host, below the source of a mount. -/
def DockerMount.hostComponents (mount : DockerMount) (path : String) : List Component :=
  mount.source.components ++
    ((containerParts path).drop (containerParts mount.target).length).map fun part =>
      .normal (encode part)

/-- The container path is the host path. -/
def ResolvesTo (mounts : List DockerMount) (path : String) (host : PathBuf) : Prop :=
  (∃ mount, ServedBy mounts path mount) ∧
    ∀ mount, ServedBy mounts path mount → mount.hostComponents path = host.components

/-- The mount that Docker makes: its source is the path that `path_arg` writes. -/
def DockerMount.written (mount : DockerMount) : DockerMount :=
  { mount with source := mount.source.written }

/-- The mounts of a request, and the directory at its own path when it is planned. -/
def requestedMounts (cwdSource : PathBuf) (mounts : List DockerMount) (plan : CwdMountPlan) :
    List DockerMount :=
  if plan.autoMountCwd then MountSpec.normalized ⟨cwdSource, cwdSource, false⟩ :: mounts
  else mounts

/-- The mounts of a container, as `docker_run_base_argv` writes them. -/
def plannedMounts (cwdSource : PathBuf) (mounts : List DockerMount) (plan : CwdMountPlan) :
    List DockerMount :=
  (requestedMounts cwdSource mounts plan).map DockerMount.written

/-! ## The condition -/

/-- The names of the directory below a mount that covers it. -/
def namesBelow (mount : DockerMount) (cwdSource : PathBuf) : List (List UInt8) :=
  (cwdSource.components.drop mount.depth).filterMap fun
    | .normal name => some name
    | .rootDir => none
    | .curDir => none
    | .parentDir => none

/-- No source is as close to the directory. -/
def IsDeepestCover (cwdSource : PathBuf) (mounts : List DockerMount) (mount : DockerMount) :
    Prop :=
  mount ∈ mounts ∧ hostPathCovers mount.source cwdSource = true ∧
    ∀ other ∈ mounts, hostPathCovers other.source cwdSource = true → other.depth ≤ mount.depth

/-- The target of a mount is the target of the cover followed by the first names of the
directory below it; all but `n` of these names come after it. -/
def Shadows (n : Nat) (other mount : DockerMount) (cwdSource : PathBuf) : Prop :=
  n < (namesBelow mount cwdSource).length ∧
    containerParts other.target = containerParts mount.target ++
      ((namesBelow mount cwdSource).map fromUtf8Lossy).take (n + 1)

/-- No target reaches further over the names below the cover. -/
def ShadowsFurthest (n : Nat) (other mount : DockerMount) (cwdSource : PathBuf)
    (mounts : List DockerMount) : Prop :=
  Shadows n other mount cwdSource ∧
    ∀ m ∈ mounts, ∀ k, Shadows k m mount cwdSource → k ≤ n

/-- The directory is UTF-8, and what is mounted furthest over the names below the deepest
cover is the directory there: the text of its source names the ancestor of the directory
that these names lead to. A source that is UTF-8 itself never does
(`servedThroughCover_iff`), it would be the deeper cover. -/
def ServedThroughCover (cwdSource : PathBuf) (mounts : List DockerMount) : Prop :=
  cwdSource.IsUtf8 ∧ ∀ mount, IsDeepestCover cwdSource mounts mount →
    ∀ other ∈ mounts, ∀ n, ShadowsFurthest n other mount cwdSource mounts →
      other.source.written.components = cwdSource.components.take (mount.depth + (n + 1))

/-! ## Names and parts -/

theorem containerParts_renderParts {parts : List (List Char)} (h : ∀ part ∈ parts, IsPart part) :
    containerParts (renderParts parts) = parts := by
  by_cases hnil : parts = []
  · subst hnil
    rfl
  · rw [containerParts, toList_renderParts hnil, splitOn_joinParts h,
      List.filter_cons_of_neg (by simp), List.filter_eq_self]
    exact fun part hpart => by simpa using (h part hpart).1

/-- A name of a host path is a part of a container path. -/
theorem isPart_fromUtf8Lossy {name : List UInt8} (h : PathBuf.IsName name) :
    IsPart (fromUtf8Lossy name) := by
  refine ⟨fromUtf8Lossy_ne_nil h.1, fun hslash => h.2.2.2 ?_⟩
  exact mem_of_mem_fromUtf8Lossy (c := '/') (by decide) hslash

theorem foldl_pushComponent {parts : List (List Char)} (hparts : ∀ part ∈ parts, IsPart part)
    {names : List (List UInt8)} (hnames : ∀ name ∈ names, PathBuf.IsName name) :
    (names.map Component.normal).foldl pushComponent (renderParts parts) =
      renderParts (parts ++ names.map fromUtf8Lossy) := by
  induction names generalizing parts with
  | nil => rw [List.map_nil, List.map_nil, List.append_nil, List.foldl_nil]
  | cons name names ih =>
      rw [List.forall_mem_cons] at hnames
      rw [List.map_cons, List.foldl_cons, pushComponent,
        pushContainerComponent_renderParts hparts, ih ?_ hnames.2]
      · rw [List.map_cons, List.append_assoc, List.singleton_append]
      · rw [List.forall_mem_append, List.forall_mem_singleton]
        exact ⟨hparts, isPart_fromUtf8Lossy hnames.1⟩

/-- A canonical directory below a canonical source: the names of the source, and more. -/
theorem components_of_covers {mount : DockerMount} {cwdSource : PathBuf}
    (hcwd : cwdSource.IsCanonical) (hsource : mount.source.IsCanonical)
    (hcovers : hostPathCovers mount.source cwdSource = true) :
    (∀ name ∈ namesBelow mount cwdSource, PathBuf.IsName name) ∧
      cwdSource.components.drop mount.depth = (namesBelow mount cwdSource).map .normal ∧
      cwdSource.components =
        mount.source.components ++ (namesBelow mount cwdSource).map .normal := by
  obtain ⟨names, hnames, hbytes⟩ := hcwd
  obtain ⟨sourceNames, hsourceNames, hsourceBytes⟩ := hsource
  have hcomponents := PathBuf.components_of_isCanonical hnames hbytes
  have hsourceComponents := PathBuf.components_of_isCanonical hsourceNames hsourceBytes
  obtain ⟨rest, hrest⟩ := hostPathCovers_iff.mp hcovers
  have hdrop : cwdSource.components.drop mount.depth = rest := by
    rw [← hrest, DockerMount.depth, List.drop_left]
  have hbelow : rest = (names.drop sourceNames.length).map .normal := by
    rw [← hdrop, DockerMount.depth, hcomponents, hsourceComponents]
    simp
  have hnamesBelow : namesBelow mount cwdSource = names.drop sourceNames.length := by
    rw [namesBelow, hdrop, hbelow, List.filterMap_map]
    exact List.filterMap_some
  rw [hnamesBelow, ← hbelow]
  exact ⟨fun name hname => hnames name (List.mem_of_mem_drop hname), hdrop, hrest.symm⟩

/-- A normalised target is its parts again. -/
theorem renderParts_containerParts {target : String}
    (h : ∃ value, normalizeContainerPath value = some target) :
    renderParts (containerParts target) = target ∧
      ∀ part ∈ containerParts target, IsPart part := by
  obtain ⟨value, hvalue⟩ := h
  obtain ⟨parts, hparts, rfl⟩ := normalizeContainerPath_eq_some hvalue
  rw [containerParts_renderParts hparts]
  exact ⟨rfl, hparts⟩

/-- A mount that shadows the directory serves its container path. -/
theorem serves_of_shadows {cwdSource : PathBuf} {other mount : DockerMount} {n : Nat}
    (hworkdir : containerParts (workdirBelow mount cwdSource) =
      containerParts mount.target ++ (namesBelow mount cwdSource).map fromUtf8Lossy)
    (h : Shadows n other mount cwdSource) : other.Serves (workdirBelow mount cwdSource) := by
  rw [DockerMount.Serves, hworkdir, h.2, List.prefix_append_right_inj]
  exact List.take_prefix _ _

/-- Of the mounts over the names below the cover, one reaches furthest. -/
theorem exists_shadowsFurthest {cwdSource : PathBuf} {mounts : List DockerMount}
    {other mount : DockerMount} {n : Nat} (hother : other ∈ mounts)
    (h : Shadows n other mount cwdSource) :
    ∃ furthest ∈ mounts, ∃ k, ShadowsFurthest k furthest mount cwdSource mounts := by
  classical
  have hmem : other ∈ mounts.filter fun m => decide (∃ k, Shadows k m mount cwdSource) :=
    List.mem_filter.mpr ⟨hother, decide_eq_true ⟨n, h⟩⟩
  obtain ⟨furthest, hfurthest, hmax⟩ :=
    exists_max (f := fun m => (containerParts m.target).length) (List.ne_nil_of_mem hmem)
  rw [List.mem_filter, decide_eq_true_iff] at hfurthest
  obtain ⟨hfurthest, k, hk⟩ := hfurthest
  refine ⟨furthest, hfurthest, k, hk, fun m hm k' hk' => ?_⟩
  have hle := hmax m (List.mem_filter.mpr ⟨hm, decide_eq_true ⟨k', hk'⟩⟩)
  have hn := hk.1
  have hn' := hk'.1
  simp only [hk.2, hk'.2, List.length_append, List.length_take, List.length_map] at hle
  omega

/-- Where a mount serves the path, one with a longest target does. -/
theorem exists_servedBy {mounts : List DockerMount} {path : String} {mount : DockerMount}
    (hmount : mount ∈ mounts) (hserves : mount.Serves path) :
    ∃ served, ServedBy mounts path served := by
  classical
  have hmem : mount ∈ mounts.filter fun m => decide (m.Serves path) :=
    List.mem_filter.mpr ⟨hmount, decide_eq_true hserves⟩
  obtain ⟨served, hserved, hmax⟩ :=
    exists_max (f := fun m => (containerParts m.target).length) (List.ne_nil_of_mem hmem)
  rw [List.mem_filter, decide_eq_true_iff] at hserved
  exact ⟨served, hserved.1, hserved.2, fun other hother hother' =>
    hmax other (List.mem_filter.mpr ⟨hother, decide_eq_true hother'⟩)⟩

/-! ## A directory below a cover -/

section

variable {cwdSource : PathBuf} {mounts : List DockerMount} {mount : DockerMount}

/-- The container path of the directory: the parts of the target, and the names below. -/
theorem containerParts_workdirBelow (hcwd : cwdSource.IsCanonical)
    (hsource : mount.source.IsCanonical)
    (htarget : ∃ value, normalizeContainerPath value = some mount.target)
    (hcovers : hostPathCovers mount.source cwdSource = true) :
    containerParts (workdirBelow mount cwdSource) =
      containerParts mount.target ++ (namesBelow mount cwdSource).map fromUtf8Lossy := by
  obtain ⟨hnames, hdrop, -⟩ := components_of_covers hcwd hsource hcovers
  obtain ⟨hrender, hparts⟩ := renderParts_containerParts htarget
  have hworkdir : workdirBelow mount cwdSource =
      renderParts (containerParts mount.target ++ (namesBelow mount cwdSource).map
        fromUtf8Lossy) := by
    rw [workdirBelow, hdrop, ← foldl_pushComponent hparts hnames, hrender]
  rw [hworkdir, containerParts_renderParts]
  rw [List.forall_mem_append]
  refine ⟨hparts, fun part hpart => ?_⟩
  obtain ⟨name, hname, rfl⟩ := List.mem_map.mp hpart
  exact isPart_fromUtf8Lossy (hnames name hname)

/-- The cover itself serves the container path of the directory. -/
theorem cover_serves (hcwd : cwdSource.IsCanonical) (hsource : mount.source.IsCanonical)
    (htarget : ∃ value, normalizeContainerPath value = some mount.target)
    (hcovers : hostPathCovers mount.source cwdSource = true) :
    mount.Serves (workdirBelow mount cwdSource) := by
  rw [DockerMount.Serves, containerParts_workdirBelow hcwd hsource htarget hcovers]
  exact List.prefix_append _ _

/-- What serves the directory is the cover, or shadows the directory furthest. -/
theorem servedBy_cases (hcwd : cwdSource.IsCanonical) (hsource : mount.source.IsCanonical)
    (htargets : ∀ m ∈ mounts, ∃ value, normalizeContainerPath value = some m.target)
    (hdistinct : (mounts.map DockerMount.target).Nodup) (hmount : mount ∈ mounts)
    (hcovers : hostPathCovers mount.source cwdSource = true) {served : DockerMount}
    (hserved : ServedBy mounts (workdirBelow mount cwdSource) served) :
    served = mount ∨ ∃ n, ShadowsFurthest n served mount cwdSource mounts := by
  obtain ⟨hmem, hserves, hmax⟩ := hserved
  have hworkdir := containerParts_workdirBelow hcwd hsource (htargets mount hmount) hcovers
  have hlength := hmax mount hmount (cover_serves hcwd hsource (htargets mount hmount) hcovers)
  rw [DockerMount.Serves, hworkdir] at hserves
  -- The longer target extends the target of the cover by some of the names.
  obtain ⟨more, hmore⟩ := List.prefix_of_prefix_length_le (List.prefix_append _ _) hserves hlength
  rw [← hmore] at hserves
  have htake := List.prefix_iff_eq_take.mp ((List.prefix_append_right_inj _).mp hserves)
  cases hn : more.length with
  | zero =>
      left
      rw [List.length_eq_zero_iff.mp hn, List.append_nil] at hmore
      apply List.inj_on_of_nodup_map hdistinct hmem hmount
      rw [← (renderParts_containerParts (htargets served hmem)).1, ← hmore,
        (renderParts_containerParts (htargets mount hmount)).1]
  | succ n =>
      right
      have hbound := ((List.prefix_append_right_inj _).mp hserves).length_le
      rw [List.length_map, hn] at hbound
      rw [hn] at htake
      refine ⟨n, ⟨hbound, by rw [← htake, hmore]⟩, fun m hm k hk => ?_⟩
      have hother := hmax m hm (serves_of_shadows hworkdir hk)
      rw [← hmore, hk.2, List.length_append, List.length_append, List.length_take,
        List.length_map] at hother
      have := hk.1
      omega

/-- What shadows the directory furthest serves it. -/
theorem servedBy_of_shadowsFurthest (hcwd : cwdSource.IsCanonical)
    (hsource : mount.source.IsCanonical)
    (htarget : ∃ value, normalizeContainerPath value = some mount.target)
    (hcovers : hostPathCovers mount.source cwdSource = true) {other : DockerMount}
    (hother : other ∈ mounts) {n : Nat}
    (hfurthest : ShadowsFurthest n other mount cwdSource mounts) :
    ServedBy mounts (workdirBelow mount cwdSource) other := by
  obtain ⟨hshadows, hmax⟩ := hfurthest
  have hworkdir := containerParts_workdirBelow hcwd hsource htarget hcovers
  refine ⟨hother, serves_of_shadows hworkdir hshadows, fun m hm hserves => ?_⟩
  rw [DockerMount.Serves, hworkdir] at hserves
  rw [hshadows.2, List.length_append, List.length_take, List.length_map]
  -- a mount above the cover's target loses to the cover by its depth
  by_cases hshort : (containerParts m.target).length ≤ (containerParts mount.target).length
  · omega
  -- a mount below it names some components of the rest, and none names more than this one
  · obtain ⟨more, hmore⟩ := List.prefix_of_prefix_length_le (List.prefix_append _ _) hserves
      (Nat.le_of_not_le hshort)
    rw [← hmore] at hserves hshort ⊢
    have hwithin := (List.prefix_append_right_inj _).mp hserves
    obtain ⟨k, hk⟩ : ∃ k, more.length = k + 1 := by
      refine Nat.exists_eq_succ_of_ne_zero fun hzero => hshort ?_
      rw [List.length_append, hzero, Nat.add_zero]
    have hle := hwithin.length_le
    rw [List.length_map, hk] at hle
    have htake := List.prefix_iff_eq_take.mp hwithin
    rw [hk] at htake
    have hkn := hmax m hm k ⟨hle, by rw [← htake, hmore]⟩
    rw [List.length_append, hk]
    have := hshadows.1
    omega

/-- What a mount that shadows the directory serves: the source, and the names left. -/
theorem hostComponents_of_shadows (hcwd : cwdSource.IsCanonical)
    (hsource : mount.source.IsCanonical)
    (htarget : ∃ value, normalizeContainerPath value = some mount.target)
    (hcovers : hostPathCovers mount.source cwdSource = true) {other : DockerMount} {n : Nat}
    (hshadows : Shadows n other mount cwdSource) :
    other.written.hostComponents (workdirBelow mount cwdSource) =
      other.source.written.components ++ ((namesBelow mount cwdSource).drop (n + 1)).map
        fun name => .normal (encode (fromUtf8Lossy name)) := by
  have hlength : (containerParts other.target).length =
      (containerParts mount.target).length + (n + 1) := by
    have := hshadows.1
    rw [hshadows.2, List.length_append, List.length_take, List.length_map]
    omega
  show other.source.written.components ++ ((containerParts (workdirBelow mount cwdSource)).drop
    (containerParts other.target).length).map _ = _
  rw [containerParts_workdirBelow hcwd hsource htarget hcovers, hlength, ← List.drop_drop,
    List.drop_left, ← List.map_drop, List.map_map]
  rfl

theorem hostComponents_cover (hcwd : cwdSource.IsCanonical)
    (hsource : mount.source.IsCanonical)
    (htarget : ∃ value, normalizeContainerPath value = some mount.target)
    (hcovers : hostPathCovers mount.source cwdSource = true) :
    mount.written.hostComponents (workdirBelow mount cwdSource) =
      mount.source.written.components ++ (namesBelow mount cwdSource).map
        fun name => .normal (encode (fromUtf8Lossy name)) := by
  show mount.source.written.components ++ ((containerParts (workdirBelow mount cwdSource)).drop
    (containerParts mount.target).length).map _ = _
  rw [containerParts_workdirBelow hcwd hsource htarget hcovers, List.drop_left, List.map_map]
  rfl

/-- A path that consists of texts is UTF-8. -/
theorem isUtf8_of_components {source : PathBuf} (hsource : source.IsCanonical)
    {names : List (List UInt8)} (hcwd : cwdSource.IsCanonical)
    (h : source.written.components ++ names.map
      (fun name => Component.normal (encode (fromUtf8Lossy name))) = cwdSource.components) :
    cwdSource.IsUtf8 := by
  obtain ⟨cwdNames, hcwdNames, hbytes⟩ := hcwd
  obtain ⟨sourceNames, hsourceNames, hsourceBytes⟩ := hsource
  rw [PathBuf.components_written hsourceNames hsourceBytes,
    PathBuf.components_of_isCanonical hcwdNames hbytes, List.cons_append] at h
  rw [PathBuf.isUtf8_iff hcwdNames hbytes]
  intro name hname
  have hmem : Component.normal name ∈ cwdNames.map Component.normal := List.mem_map_of_mem hname
  rw [← (List.cons.inj h).2, ← List.map_append] at hmem
  obtain ⟨text, -, htext⟩ := List.mem_map.mp hmem
  rw [← Component.normal.inj htext, fromUtf8_encode]
  rfl

/-- The components of a UTF-8 directory below a cover are texts. -/
theorem components_eq_texts (hcwd : cwdSource.IsCanonical) (hsource : mount.source.IsCanonical)
    (hcovers : hostPathCovers mount.source cwdSource = true) (hutf8 : cwdSource.IsUtf8) :
    mount.source.written = mount.source ∧
      cwdSource.components = mount.source.components ++ (namesBelow mount cwdSource).map
        fun name => .normal (encode (fromUtf8Lossy name)) := by
  have hsplit := (components_of_covers hcwd hsource hcovers).2.2
  obtain ⟨cwdNames, hcwdNames, hbytes⟩ := hcwd
  obtain ⟨sourceNames, hsourceNames, hsourceBytes⟩ := hsource
  have hnames := (PathBuf.isUtf8_iff hcwdNames hbytes).mp hutf8
  have hall : sourceNames ++ namesBelow mount cwdSource = cwdNames := by
    have hcomponents := hsplit
    rw [PathBuf.components_of_isCanonical hcwdNames hbytes,
      PathBuf.components_of_isCanonical hsourceNames hsourceBytes, List.cons_append,
      ← List.map_append] at hcomponents
    exact (List.map_injective_iff.mpr (fun a b => Component.normal.inj)
      (List.cons.inj hcomponents).2).symm
  rw [← hall, List.forall_mem_append] at hnames
  refine ⟨PathBuf.written_eq_self_iff.mpr
    ((PathBuf.isUtf8_iff hsourceNames hsourceBytes).mpr hnames.1), ?_⟩
  rw [hsplit, List.append_cancel_left_eq, List.map_inj_left]
  intro name hname
  rw [encode_fromUtf8Lossy_iff.mpr (hnames.2 name hname)]

/-- The mounts that Docker makes serve what the mounts of the request serve. -/
theorem resolvesTo_written_iff {path : String} {host : PathBuf} :
    ResolvesTo (mounts.map DockerMount.written) path host ↔
      (∃ m, ServedBy mounts path m) ∧
        ∀ m, ServedBy mounts path m → m.written.hostComponents path = host.components := by
  have hwritten : ∀ m ∈ mounts, ServedBy mounts path m →
      ServedBy (mounts.map DockerMount.written) path m.written := by
    rintro m hmem ⟨-, hserves, hmax⟩
    refine ⟨List.mem_map_of_mem hmem, hserves, fun written hwritten hserves' => ?_⟩
    obtain ⟨other, hother, rfl⟩ := List.mem_map.mp hwritten
    exact hmax other hother hserves'
  have hback : ∀ m, ServedBy (mounts.map DockerMount.written) path m →
      ∃ m', ServedBy mounts path m' ∧ m'.written = m := by
    rintro m ⟨hmem, hserves, hmax⟩
    obtain ⟨m', hm', rfl⟩ := List.mem_map.mp hmem
    refine ⟨m', ⟨hm', hserves, fun other hother hserves' => ?_⟩, rfl⟩
    exact hmax other.written (List.mem_map_of_mem hother) hserves'
  constructor
  · rintro ⟨⟨m, hm⟩, hall⟩
    obtain ⟨m', hm', -⟩ := hback m hm
    exact ⟨⟨m', hm'⟩, fun m hm => hall _ (hwritten m hm.1 hm)⟩
  · rintro ⟨⟨m, hm⟩, hall⟩
    refine ⟨⟨_, hwritten m hm.1 hm⟩, fun m hm => ?_⟩
    obtain ⟨m', hm', rfl⟩ := hback m hm
    exact hall m' hm'

theorem isDeepestCover_of_selected
    (hselected : selectCover cwdSource none 0 mounts = .ok (some mount)) {cover : DockerMount} :
    IsDeepestCover cwdSource mounts cover ↔ cover = mount := by
  obtain ⟨hmount, hcovers, hstrict⟩ := hostPathCovers_of_selectCover hselected
  constructor
  · rintro ⟨hcover, hcoverCovers, hcoverDepth⟩
    refine (hstrict.eq_or_lt (List.mem_filter.mpr ⟨hcover, hcoverCovers⟩)).resolve_right ?_
    exact Nat.not_lt.mpr (hcoverDepth mount hmount hcovers)
  · rintro rfl
    refine ⟨hmount, hcovers, fun other hother hother' => ?_⟩
    rcases hstrict.eq_or_lt (List.mem_filter.mpr ⟨hother, hother'⟩) with rfl | hlt
    · exact Nat.le_refl _
    · exact Nat.le_of_lt hlt

/-- The mount that shadows the directory serves it as the directory where its source is
the ancestor that the names lead to. -/
theorem hostComponents_eq_iff_of_shadows (hcwd : cwdSource.IsCanonical)
    (hsource : mount.source.IsCanonical)
    (htarget : ∃ value, normalizeContainerPath value = some mount.target)
    (hcovers : hostPathCovers mount.source cwdSource = true) (hutf8 : cwdSource.IsUtf8)
    {other : DockerMount} {n : Nat} (hshadows : Shadows n other mount cwdSource) :
    other.written.hostComponents (workdirBelow mount cwdSource) = cwdSource.components ↔
      other.source.written.components = cwdSource.components.take (mount.depth + (n + 1)) := by
  have hcomponents := (components_eq_texts hcwd hsource hcovers hutf8).2
  have hdrop : cwdSource.components.drop (mount.depth + (n + 1)) =
      ((namesBelow mount cwdSource).drop (n + 1)).map
        fun name => .normal (encode (fromUtf8Lossy name)) := by
    rw [hcomponents, ← List.drop_drop, DockerMount.depth, List.drop_left, List.map_drop]
  rw [hostComponents_of_shadows hcwd hsource htarget hcovers hshadows, ← hdrop]
  constructor
  · intro h
    have hsplit := List.take_append_drop (mount.depth + (n + 1)) cwdSource.components
    exact List.append_cancel_right (h.trans hsplit.symm)
  · intro h
    rw [h, List.take_append_drop]

/-- Below a selected cover. -/
theorem resolvesTo_iff_of_selected (hcwd : cwdSource.IsCanonical)
    (hsources : ∀ m ∈ mounts, m.source.IsCanonical)
    (htargets : ∀ m ∈ mounts, ∃ value, normalizeContainerPath value = some m.target)
    (hdistinct : (mounts.map DockerMount.target).Nodup)
    (hselected : selectCover cwdSource none 0 mounts = .ok (some mount)) :
    ResolvesTo (mounts.map DockerMount.written) (workdirBelow mount cwdSource) cwdSource ↔
      ServedThroughCover cwdSource mounts := by
  obtain ⟨hmount, hcovers, -⟩ := hostPathCovers_of_selectCover hselected
  have hsource := hsources mount hmount
  have htarget := htargets mount hmount
  rw [resolvesTo_written_iff]
  constructor
  · rintro ⟨⟨served, hserved⟩, hall⟩
    -- the path that Docker reads was written as text, which only a path in UTF-8 survives
    have hutf8 : cwdSource.IsUtf8 := by
      have hhost := hall served hserved
      rcases servedBy_cases hcwd hsource htargets hdistinct hmount hcovers hserved with
        rfl | ⟨n, hfurthest⟩
      · rw [hostComponents_cover hcwd hsource htarget hcovers] at hhost
        exact isUtf8_of_components hsource hcwd hhost
      · rw [hostComponents_of_shadows hcwd hsource htarget hcovers hfurthest.1] at hhost
        exact isUtf8_of_components (hsources served hserved.1) hcwd hhost
    -- every mount that shadows the cover to the furthest is one that serves the directory
    refine ⟨hutf8, fun cover hcover other hother n hfurthest => ?_⟩
    obtain rfl := (isDeepestCover_of_selected hselected).mp hcover
    rw [← hostComponents_eq_iff_of_shadows hcwd hsource htarget hcovers hutf8 hfurthest.1]
    exact hall other
      (servedBy_of_shadowsFurthest hcwd hsource htarget hcovers hother hfurthest)
  · rintro ⟨hutf8, hthrough⟩
    have hserves := cover_serves hcwd hsource htarget hcovers
    refine ⟨exists_servedBy hmount hserves, fun served hserved => ?_⟩
    rcases servedBy_cases hcwd hsource htargets hdistinct hmount hcovers hserved with
      -- the cover itself serves: what Docker mounts there is the directory's own path
      rfl | ⟨n, hfurthest⟩
    · obtain ⟨hwritten, hcomponents⟩ := components_eq_texts hcwd hsource hcovers hutf8
      rw [hostComponents_cover hcwd hsource htarget hcovers, hwritten, ← hcomponents]
    · rw [hostComponents_eq_iff_of_shadows hcwd hsource htarget hcovers hutf8 hfurthest.1]
      exact hthrough mount ((isDeepestCover_of_selected hselected).mpr rfl) served hserved.1 n
        hfurthest

/-- No mount covers a directory for which none is selected. -/
theorem not_covers_of_selected_none (hselected : selectCover cwdSource none 0 mounts = .ok none) :
    ∀ mount ∈ mounts, hostPathCovers mount.source cwdSource ≠ true := by
  intro mount hmount hcovers
  rcases strictMax_eq_ok ((selectCover_eq_ok_iff rfl).mp hselected) with
    ⟨hempty, -⟩ | ⟨m, hm, -⟩
  · have hmem : mount ∈ covers cwdSource mounts := List.mem_filter.mpr ⟨hmount, hcovers⟩
    rw [hempty] at hmem
    exact absurd hmem List.not_mem_nil
  · cases hm

/-- The mount that is added for a directory without a cover serves it, and no declared
one does. -/
theorem servedBy_auto_mount {cwdTarget : String}
    (htargets : ∀ m ∈ mounts, ∃ value, normalizeContainerPath value = some m.target)
    (hcwdTarget : normalizeContainerPath cwdSource.toStringLossy = some cwdTarget)
    (hoverlaps : ∀ mount ∈ mounts, containerPathsOverlap cwdTarget mount.target = false)
    {served : DockerMount} :
    ServedBy (MountSpec.normalized ⟨cwdSource, cwdSource, false⟩ :: mounts) cwdTarget served ↔
      served = MountSpec.normalized ⟨cwdSource, cwdSource, false⟩ := by
  obtain ⟨parts, hparts, rfl⟩ := normalizeContainerPath_eq_some hcwdTarget
  have hauto : MountSpec.normalized ⟨cwdSource, cwdSource, false⟩ =
      ⟨cwdSource, renderParts parts⟩ := by
    rw [MountSpec.normalized, hcwdTarget]
    rfl
  rw [hauto]
  constructor
  · rintro ⟨hserved, hserves, -⟩
    rcases List.mem_cons.mp hserved with rfl | hmem
    · rfl
    · -- A declared mount that serves the directory has a target that overlaps it.
      have hoverlap := hoverlaps served hmem
      obtain ⟨hrender, hservedParts⟩ := renderParts_containerParts (htargets served hmem)
      rw [containerPathsOverlap, Bool.or_eq_false_iff, ← hrender] at hoverlap
      rw [DockerMount.Serves, containerParts_renderParts hparts] at hserves
      rw [(containerPathCovers_renderParts hservedParts hparts).mpr hserves] at hoverlap
      exact absurd hoverlap.2 Bool.noConfusion
  · rintro rfl
    exact ⟨List.mem_cons_self, List.prefix_refl _, fun other _ hserves => hserves.length_le⟩

/-- A directory that is mounted at its own path is the one of the host where its text is. -/
theorem resolvesTo_auto_mount_iff {cwdTarget : String} (hcwd : cwdSource.IsCanonical)
    (htargets : ∀ m ∈ mounts, ∃ value, normalizeContainerPath value = some m.target)
    (hcwdTarget : normalizeContainerPath cwdSource.toStringLossy = some cwdTarget)
    (hoverlaps : ∀ mount ∈ mounts, containerPathsOverlap cwdTarget mount.target = false) :
    ResolvesTo ((MountSpec.normalized ⟨cwdSource, cwdSource, false⟩ :: mounts).map
      DockerMount.written) cwdTarget cwdSource ↔ cwdSource.IsUtf8 := by
  have hhost : (MountSpec.normalized ⟨cwdSource, cwdSource, false⟩).written.hostComponents
      cwdTarget = cwdSource.written.components := by
    rw [MountSpec.normalized, hcwdTarget]
    show cwdSource.written.components ++ ((containerParts cwdTarget).drop
      (containerParts cwdTarget).length).map _ = _
    rw [List.drop_length, List.map_nil, List.append_nil]
  rw [resolvesTo_written_iff]
  simp only [servedBy_auto_mount htargets hcwdTarget hoverlaps, exists_eq, true_and,
    forall_eq, hhost]
  constructor
  · intro h
    have hcomponents : cwdSource.written.components ++ ([] : List (List UInt8)).map
        (fun name => Component.normal (encode (fromUtf8Lossy name))) = cwdSource.components := by
      rw [List.map_nil, List.append_nil, h]
    exact isUtf8_of_components hcwd hcwd hcomponents
  · intro h
    rw [PathBuf.written_eq_self_iff.mpr h]

end

/-- With sources that are UTF-8, what counts is that nothing is mounted over the names
below the cover: a source that led to the same directory would be the deeper cover. -/
theorem servedThroughCover_iff {cwdSource : PathBuf} {mounts : List DockerMount}
    (hutf8 : ∀ mount ∈ mounts, mount.source.IsUtf8) :
    ServedThroughCover cwdSource mounts ↔
      cwdSource.IsUtf8 ∧ ∀ mount, IsDeepestCover cwdSource mounts mount →
        ∀ other ∈ mounts, ∀ n, ¬Shadows n other mount cwdSource := by
  refine and_congr_right fun _ => forall₂_congr fun mount hdeepest => ?_
  constructor
  · intro h other hother n hshadows
    -- of the mounts over the names, one reaches furthest
    obtain ⟨furthest, hmem, k, hk⟩ := exists_shadowsFurthest hother hshadows
    have hsource := h furthest hmem k hk
    rw [PathBuf.written_eq_self_iff.mpr (hutf8 furthest hmem)] at hsource
    have hcovers : hostPathCovers furthest.source cwdSource = true := by
      rw [hostPathCovers_iff, hsource]
      exact List.take_prefix _ _
    have hdepth := hdeepest.2.2 furthest hmem hcovers
    have hbelow : k < (cwdSource.components.drop mount.depth).length :=
      Nat.lt_of_lt_of_le hk.1.1 (List.length_filterMap_le _ _)
    rw [DockerMount.depth, hsource, List.length_take] at hdepth
    rw [List.length_drop] at hbelow
    omega
  · intro h other hother n hfurthest
    exact absurd hfurthest.1 (h other hother n)

/-- The plan of `/w/p` below a mount of `/w` at `/a`. -/
theorem validateCwdMountPlan_below {mounts : List DockerMount}
    (hselected : selectCover (.ofString "/w/p") none 0 mounts = .ok (some ⟨.ofString "/w", "/a"⟩))
    (hdescendant : ¬HasDescendant (.ofString "/w/p") mounts) :
    validateCwdMountPlan (.ofString "/w/p") mounts = .ok ⟨false, "/a/p"⟩ := by
  have hname : fromUtf8Lossy [0x70] = ['p'] := fromUtf8Lossy_encode ['p']
  refine validateCwdMountPlan_eq_ok_iff.mpr ⟨hdescendant, "/w/p", ?_, .inl ⟨_, hselected, ?_⟩⟩
  · rw [PathBuf.toStringLossy_ofString]
    decide
  · show CwdMountPlan.mk false "/a/p" =
      ⟨false, pushContainerComponent "/a" (String.ofList (fromUtf8Lossy [0x70]))⟩
    rw [hname]
    decide

end LittleOrgans.Runtime
