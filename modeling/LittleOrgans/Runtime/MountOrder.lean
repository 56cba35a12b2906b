import LittleOrgans.Runtime.DockerMountPlan
import Mathlib.Data.List.Perm.Basic

/-!
# The mount plan and the order of the mounts

Whether the working directory gets a plan depends on the order of the mounts in one
place only. The selection of the cover fails at once when a source ties with the
deepest one so far, also when a deeper source follows that would have made the tie
irrelevant. All orders agree exactly where another check rejects the request in
every order, no covering source is declared twice, or the deepest one is
(`plans_agree_iff`).
-/

set_option autoImplicit false

namespace LittleOrgans.Runtime

open LittleOrgans.Library
open LittleOrgans.Store

/-- The cover the plan of a request uses. -/
def plannedCover (cwdSource : PathBuf) (mounts : List MountSpec) :
    Except DaemonError (Option CwdCover) := do
  let mounts ← mounts.mapM fun mount => DockerMount.new mount.source mount.target
  selectCwdCover cwdSource mounts

/-- Two lists of mounts both get no plan, or the same plan by the same cover. -/
def PlansAgree (cwdSource : PathBuf) (mounts mounts' : List MountSpec) : Prop :=
  (∃ e e', planCwdMount cwdSource mounts = .error e ∧
      planCwdMount cwdSource mounts' = .error e') ∨
    ∃ plan cover, planCwdMount cwdSource mounts = .ok plan ∧
      planCwdMount cwdSource mounts' = .ok plan ∧
      plannedCover cwdSource mounts = .ok cover ∧ plannedCover cwdSource mounts' = .ok cover

/-- A target or the directory is no absolute container path, or a source lies
below the directory. -/
def RejectedInAnyOrder (cwdSource : PathBuf) (mounts : List MountSpec) : Prop :=
  (∃ mount ∈ mounts, normalizeContainerPath mount.target.toStringLossy = none) ∨
    normalizeContainerPath cwdSource.toStringLossy = none ∨
    ∃ mount ∈ mounts, hostPathCovers cwdSource mount.source = true ∧
      mount.source.same cwdSource = false

/-- How deep the sources lie that are the directory or an ancestor of it. -/
def coverDepths (cwdSource : PathBuf) (mounts : List MountSpec) : List Nat :=
  (mounts.filter fun mount => hostPathCovers mount.source cwdSource).map fun mount =>
    mount.source.components.length

/-- No covering source is declared twice, or the deepest one is. -/
def TiesAtTheDeepest (depths : List Nat) : Prop :=
  depths.Nodup ∨
    ∃ depth ∈ depths, (∀ other ∈ depths, other ≤ depth) ∧ 2 ≤ depths.count depth

/-- A mount whose target is an absolute container path, as `DockerMount::new` makes it. -/
def MountSpec.normalized (mount : MountSpec) : DockerMount :=
  ⟨mount.source, (normalizeContainerPath mount.target.toStringLossy).getD ""⟩

section

variable {cwdSource : PathBuf} {mounts mounts' : List MountSpec}

theorem DockerMount.new_eq_ok {mount : MountSpec}
    (h : normalizeContainerPath mount.target.toStringLossy ≠ none) :
    DockerMount.new mount.source mount.target = .ok mount.normalized := by
  obtain ⟨target, htarget⟩ := Option.ne_none_iff_exists'.mp h
  rw [DockerMount.new, MountSpec.normalized, htarget]
  rfl

theorem mapM_new_eq_ok
    (h : ∀ mount ∈ mounts, normalizeContainerPath mount.target.toStringLossy ≠ none) :
    (mounts.mapM fun mount => DockerMount.new mount.source mount.target) =
      .ok (mounts.map MountSpec.normalized) := by
  rw [Except.mapM_eq_ok, List.forall₂_map_right_iff, List.forall₂_same]
  exact fun mount hmount => DockerMount.new_eq_ok (h mount hmount)

/-- One target that is no absolute container path rejects the request. -/
theorem planCwdMount_of_relative_target
    (h : ∃ mount ∈ mounts, normalizeContainerPath mount.target.toStringLossy = none) :
    ∃ e, planCwdMount cwdSource mounts = .error e := by
  obtain ⟨mount, hmount, hnone⟩ := h
  cases hplan : planCwdMount cwdSource mounts with
  | error e => exact ⟨e, rfl⟩
  | ok plan =>
      obtain ⟨normalized, hnormalized, -⟩ := Except.bind_eq_ok.mp hplan
      obtain ⟨target, htarget⟩ := Except.mapM_isOk.mp ⟨normalized, hnormalized⟩ mount hmount
      rw [DockerMount.new, hnone] at htarget
      cases htarget

theorem hasDescendant_normalized_iff :
    HasDescendant cwdSource (mounts.map MountSpec.normalized) ↔
      ∃ mount ∈ mounts, hostPathCovers cwdSource mount.source = true ∧
        mount.source.same cwdSource = false := by
  constructor
  · rintro ⟨normalized, hnormalized, h⟩
    obtain ⟨mount, hmount, rfl⟩ := List.mem_map.mp hnormalized
    exact ⟨mount, hmount, h⟩
  · rintro ⟨mount, hmount, h⟩
    exact ⟨mount.normalized, List.mem_map_of_mem hmount, h⟩

/-- What is rejected whatever the order gets no plan. -/
theorem planCwdMount_of_rejected (h : RejectedInAnyOrder cwdSource mounts) :
    ∃ e, planCwdMount cwdSource mounts = .error e := by
  by_cases htargets :
      ∃ mount ∈ mounts, normalizeContainerPath mount.target.toStringLossy = none
  · exact planCwdMount_of_relative_target htargets
  · have hrest := h.resolve_left htargets
    cases hplan : planCwdMount cwdSource mounts with
    | error e => exact ⟨e, rfl⟩
    | ok plan =>
        simp only [not_exists, not_and] at htargets
        rw [planCwdMount, mapM_new_eq_ok htargets] at hplan
        obtain ⟨hdescendant, target, htarget, -⟩ := validateCwdMountPlan_eq_ok_iff.mp hplan
        rcases hrest with hcwd | hbelow
        · rw [hcwd] at htarget
          cases htarget
        · exact absurd (hasDescendant_normalized_iff.mpr hbelow) hdescendant

theorem rejectedInAnyOrder_perm (hperm : List.Perm mounts mounts') :
    RejectedInAnyOrder cwdSource mounts → RejectedInAnyOrder cwdSource mounts' := by
  rintro (⟨mount, hmount, h⟩ | hcwd | ⟨mount, hmount, h⟩)
  · exact .inl ⟨mount, hperm.mem_iff.mp hmount, h⟩
  · exact .inr (.inl hcwd)
  · exact .inr (.inr ⟨mount, hperm.mem_iff.mp hmount, h⟩)

theorem coverDepths_eq :
    coverDepths cwdSource mounts =
      (covers cwdSource (mounts.map MountSpec.normalized)).map DockerMount.depth := by
  rw [coverDepths, covers, List.filter_map, List.map_map]
  rfl

/-- The covers of a request can be put in any order. -/
theorem exists_perm_covers {order : List DockerMount}
    (h : List.Perm order (covers cwdSource (mounts.map MountSpec.normalized))) :
    ∃ mounts', List.Perm mounts' mounts ∧
      covers cwdSource (mounts'.map MountSpec.normalized) = order := by
  let isCover (mount : DockerMount) : Bool := hostPathCovers mount.source cwdSource
  let others := (mounts.map MountSpec.normalized).filter fun mount => !isCover mount
  have hperm : List.Perm (order ++ others) (mounts.map MountSpec.normalized) :=
    (h.append_right others).trans (List.filter_append_perm isCover _)
  have hmap : List.Forall₂ (fun normalized mount => normalized = MountSpec.normalized mount)
      (mounts.map MountSpec.normalized) mounts := by
    rw [List.forall₂_map_left_iff, List.forall₂_same]
    exact fun mount _ => rfl
  -- the order of the normalised mounts is one of the mounts they come from
  obtain ⟨mounts', hmounts', hperm'⟩ := List.perm_comp_forall₂ hperm hmap
  refine ⟨mounts', hperm', ?_⟩
  have hnormalized : mounts'.map MountSpec.normalized = order ++ others := by
    rw [← List.forall₂_eq_eq_eq, List.forall₂_map_left_iff]
    exact hmounts'.flip.imp fun mount normalized heq => heq.symm
  have horder : order.filter isCover = order :=
    List.filter_eq_self.mpr fun mount hmount => (List.mem_filter.mp (h.mem_iff.mp hmount)).2
  have hothers : others.filter isCover = [] := by
    rw [List.filter_eq_nil_iff]
    intro mount hmount hcover
    have hnot := (List.mem_filter.mp hmount).2
    rw [hcover] at hnot
    cases hnot
  rw [hnormalized]
  show (order ++ others).filter isCover = order
  rw [List.filter_append, horder, hothers, List.append_nil]

/-! ## Requests no other check rejects -/

section

variable (haccepted : ¬RejectedInAnyOrder cwdSource mounts)

include haccepted

theorem planCwdMount_eq_validate :
    planCwdMount cwdSource mounts =
        validateCwdMountPlan cwdSource (mounts.map MountSpec.normalized) ∧
      plannedCover cwdSource mounts =
        selectCwdCover cwdSource (mounts.map MountSpec.normalized) := by
  have htargets : ∀ mount ∈ mounts, normalizeContainerPath mount.target.toStringLossy ≠ none :=
    fun mount hmount hnone => haccepted (.inl ⟨mount, hmount, hnone⟩)
  rw [planCwdMount, plannedCover, mapM_new_eq_ok htargets]
  exact ⟨rfl, rfl⟩

theorem exists_cwdTarget :
    ∃ cwdTarget, normalizeContainerPath cwdSource.toStringLossy = some cwdTarget :=
  Option.ne_none_iff_exists'.mp fun hnone => haccepted (.inr (.inl hnone))

theorem not_hasDescendant : ¬HasDescendant cwdSource (mounts.map MountSpec.normalized) :=
  fun h => haccepted (.inr (.inr (hasDescendant_normalized_iff.mp h)))

/-- A cover that is selected decides the plan. -/
theorem planCwdMount_of_cover {mount : DockerMount}
    (h : strictMax DockerMount.depth none (covers cwdSource (mounts.map MountSpec.normalized)) =
      .ok (some mount)) :
    planCwdMount cwdSource mounts = .ok ⟨false, workdirBelow mount cwdSource⟩ ∧
      plannedCover cwdSource mounts = .ok (some ⟨mount.source, mount.target⟩) := by
  have hselected : selectCover cwdSource none 0 (mounts.map MountSpec.normalized) =
      .ok (some mount) := (selectCover_eq_ok_iff rfl).mpr h
  obtain ⟨cwdTarget, htarget⟩ := exists_cwdTarget haccepted
  obtain ⟨hplan, hcover⟩ := planCwdMount_eq_validate haccepted
  refine ⟨hplan.trans ?_, hcover.trans ?_⟩
  · rw [validateCwdMountPlan_eq_ok_iff]
    exact ⟨not_hasDescendant haccepted, cwdTarget, htarget, .inl ⟨mount, hselected, rfl⟩⟩
  · rw [selectCwdCover, hselected]
    rfl

/-- Where sources cover the directory, it gets a plan when one of them is selected. -/
theorem exists_strictMax_of_plan {plan : CwdMountPlan}
    (h : planCwdMount cwdSource mounts = .ok plan) :
    ∃ selected, strictMax DockerMount.depth none
      (covers cwdSource (mounts.map MountSpec.normalized)) = .ok selected := by
  rw [(planCwdMount_eq_validate haccepted).1, validateCwdMountPlan_eq_ok_iff] at h
  obtain ⟨-, cwdTarget, -, ⟨mount, hselected, -⟩ | ⟨hselected, -⟩⟩ := h
  · exact ⟨some mount, (selectCover_eq_ok_iff rfl).mp hselected⟩
  · exact ⟨none, (selectCover_eq_ok_iff rfl).mp hselected⟩

/-- Where no source covers the directory, the overlaps decide. -/
theorem planCwdMount_of_no_cover {cwdTarget : String}
    (hnil : covers cwdSource (mounts.map MountSpec.normalized) = [])
    (htarget : normalizeContainerPath cwdSource.toStringLossy = some cwdTarget) :
    (∀ plan, planCwdMount cwdSource mounts = .ok plan ↔
        (∀ mount ∈ mounts.map MountSpec.normalized,
          containerPathsOverlap cwdTarget mount.target = false) ∧ plan = ⟨true, cwdTarget⟩) ∧
      plannedCover cwdSource mounts = .ok none := by
  have hselected : selectCover cwdSource none 0 (mounts.map MountSpec.normalized) = .ok none :=
    (selectCover_eq_ok_iff rfl).mpr (by rw [hnil]; rfl)
  obtain ⟨hplan, hcover⟩ := planCwdMount_eq_validate haccepted
  constructor
  · intro plan
    rw [hplan, validateCwdMountPlan_eq_ok_iff, htarget, hselected]
    simp [not_hasDescendant haccepted]
  · rw [hcover, selectCwdCover, hselected]
    rfl

/-- So every order agrees. -/
theorem plansAgree_of_no_cover (hperm : List.Perm mounts mounts')
    (hnil : covers cwdSource (mounts.map MountSpec.normalized) = []) :
    PlansAgree cwdSource mounts mounts' := by
  have hds := hperm.map MountSpec.normalized
  obtain ⟨cwdTarget, htarget⟩ := exists_cwdTarget haccepted
  obtain ⟨hplan, hcover⟩ := planCwdMount_of_no_cover haccepted hnil htarget
  obtain ⟨hplan', hcover'⟩ := planCwdMount_of_no_cover
    (mt (rejectedInAnyOrder_perm hperm.symm) haccepted)
    (List.Perm.eq_nil (hnil ▸ (hds.filter _).symm)) htarget
  have hoverlaps : (∀ mount ∈ mounts'.map MountSpec.normalized,
        containerPathsOverlap cwdTarget mount.target = false) ↔
      ∀ mount ∈ mounts.map MountSpec.normalized,
        containerPathsOverlap cwdTarget mount.target = false :=
    forall_congr' fun mount => by rw [hds.mem_iff]
  rw [hoverlaps.eq] at hplan'
  cases h : planCwdMount cwdSource mounts with
  | ok plan =>
      exact .inr ⟨plan, none, h, (hplan' plan).mpr ((hplan plan).mp h), hcover, hcover'⟩
  | error e =>
      cases h' : planCwdMount cwdSource mounts' with
      | ok plan =>
          rw [(hplan plan).mpr ((hplan' plan).mp h')] at h
          cases h
      | error e' => exact .inl ⟨e, e', h, h'⟩

/-- Where sources cover the directory, the plan fails on a tie, and only then. -/
theorem planCwdMount_eq_error_iff (hne : covers cwdSource (mounts.map MountSpec.normalized) ≠ []) :
    (∃ e, planCwdMount cwdSource mounts = .error e) ↔
      ∃ tie, strictMax DockerMount.depth none
        (covers cwdSource (mounts.map MountSpec.normalized)) = .error tie := by
  constructor
  · rintro ⟨e, he⟩
    cases hs : strictMax DockerMount.depth none
        (covers cwdSource (mounts.map MountSpec.normalized)) with
    | error tie => exact ⟨tie, rfl⟩
    | ok selected =>
        obtain ⟨hnil, -⟩ | ⟨mount, rfl, -⟩ := strictMax_eq_ok hs
        · exact absurd hnil hne
        · rw [(planCwdMount_of_cover haccepted hs).1] at he
          cases he
  · rintro ⟨tie, htie⟩
    cases hplan : planCwdMount cwdSource mounts with
    | error e => exact ⟨e, rfl⟩
    | ok plan =>
        obtain ⟨selected, hok⟩ := exists_strictMax_of_plan haccepted hplan
        rw [htie] at hok
        cases hok

/-- Where sources cover the directory, two orders agree as their selections do. -/
theorem plansAgree_iff_sameOutcome (hperm : List.Perm mounts mounts')
    (hne : covers cwdSource (mounts.map MountSpec.normalized) ≠ []) :
    PlansAgree cwdSource mounts mounts' ↔
      SameOutcome
        (strictMax DockerMount.depth none (covers cwdSource (mounts.map MountSpec.normalized)))
        (strictMax DockerMount.depth none
          (covers cwdSource (mounts'.map MountSpec.normalized))) := by
  have haccepted' : ¬RejectedInAnyOrder cwdSource mounts' :=
    mt (rejectedInAnyOrder_perm hperm.symm) haccepted
  have hcovers : List.Perm (covers cwdSource (mounts.map MountSpec.normalized))
      (covers cwdSource (mounts'.map MountSpec.normalized)) :=
    (hperm.map MountSpec.normalized).filter _
  have hne' : covers cwdSource (mounts'.map MountSpec.normalized) ≠ [] :=
    fun hnil => hne (List.Perm.eq_nil (hnil ▸ hcovers))
  have herror := planCwdMount_eq_error_iff haccepted hne
  have herror' := planCwdMount_eq_error_iff haccepted' hne'
  constructor
  · rintro (⟨e, e', h, h'⟩ | ⟨plan, cover, h, h', -⟩)
    · obtain ⟨tie, hs⟩ := herror.mp ⟨e, h⟩
      obtain ⟨tie', hs'⟩ := herror'.mp ⟨e', h'⟩
      exact .inl ⟨tie, tie', hs, hs'⟩
    · -- both orders select, and a strict maximum does not depend on the order
      obtain ⟨selected, hs⟩ := exists_strictMax_of_plan haccepted h
      obtain ⟨selected', hs'⟩ := exists_strictMax_of_plan haccepted' h'
      have heq := strictMax_perm hcovers hs hs'
      exact .inr ⟨selected, hs, heq ▸ hs'⟩
  · rintro (⟨tie, tie', hs, hs'⟩ | ⟨selected, hs, hs'⟩)
    · obtain ⟨e, h⟩ := herror.mpr ⟨tie, hs⟩
      obtain ⟨e', h'⟩ := herror'.mpr ⟨tie', hs'⟩
      exact .inl ⟨e, e', h, h'⟩
    · obtain ⟨hnil, -⟩ | ⟨mount, rfl, -⟩ := strictMax_eq_ok hs
      · exact absurd hnil hne
      · obtain ⟨hplan, hcover⟩ := planCwdMount_of_cover haccepted hs
        obtain ⟨hplan', hcover'⟩ := planCwdMount_of_cover haccepted' hs'
        exact .inr ⟨_, _, hplan, hplan', hcover, hcover'⟩

end

/-- Every order of the mounts gets the same plan exactly where each order is rejected
by another check, or no covering source is declared twice, or the deepest one is. -/
theorem plans_agree_iff :
    (∀ order order', List.Perm order mounts → List.Perm order' mounts →
        PlansAgree cwdSource order order') ↔
      RejectedInAnyOrder cwdSource mounts ∨ TiesAtTheDeepest (coverDepths cwdSource mounts) := by
  by_cases hrejected : RejectedInAnyOrder cwdSource mounts
  · refine iff_of_true (fun order order' h h' => ?_) (.inl hrejected)
    obtain ⟨e, he⟩ := planCwdMount_of_rejected (rejectedInAnyOrder_perm h.symm hrejected)
    obtain ⟨e', he'⟩ := planCwdMount_of_rejected (rejectedInAnyOrder_perm h'.symm hrejected)
    exact .inl ⟨e, e', he, he'⟩
  rw [or_iff_right hrejected, TiesAtTheDeepest, coverDepths_eq]
  have haccepted : ∀ {order : List MountSpec}, List.Perm order mounts →
      ¬RejectedInAnyOrder cwdSource order :=
    fun h => mt (rejectedInAnyOrder_perm h) hrejected
  have hcovers : ∀ {order : List MountSpec}, List.Perm order mounts →
      List.Perm (covers cwdSource (order.map MountSpec.normalized))
        (covers cwdSource (mounts.map MountSpec.normalized)) :=
    fun h => (h.map MountSpec.normalized).filter _
  by_cases hnil : covers cwdSource (mounts.map MountSpec.normalized) = []
  · refine iff_of_true (fun order order' h h' => ?_) (.inl (by rw [hnil]; exact List.nodup_nil))
    exact plansAgree_of_no_cover (haccepted h) (h.trans h'.symm)
      (List.Perm.eq_nil (hnil ▸ hcovers h))
  · have hne : ∀ {order : List MountSpec}, List.Perm order mounts →
        covers cwdSource (order.map MountSpec.normalized) ≠ [] :=
      fun h hnil' => hnil (List.Perm.eq_nil (hnil' ▸ (hcovers h).symm))
    rw [← not_exists_isStrictMax_iff hnil, ← strictMax_perm_iff]
    constructor
    · intro hall ys zs hys hzs
      -- any two orders of the covers are those of two requests
      obtain ⟨order, horder, rfl⟩ := exists_perm_covers hys
      obtain ⟨order', horder', rfl⟩ := exists_perm_covers hzs
      have hagree := hall order order' horder horder'
      rwa [plansAgree_iff_sameOutcome (haccepted horder) (horder.trans horder'.symm)
        (hne horder)] at hagree
    · intro hall order order' h h'
      rw [plansAgree_iff_sameOutcome (haccepted h) (h.trans h'.symm) (hne h)]
      exact hall _ _ (hcovers h) (hcovers h')

end

/-- `/w` is declared twice. In front of `/w/p` that is fatal, behind it nothing notices. -/
theorem plans_disagree :
    ¬∀ order order',
      List.Perm order [.ofStrings "/w" "/a", .ofStrings "/w" "/b", .ofStrings "/w/p" "/c"] →
      List.Perm order' [.ofStrings "/w" "/a", .ofStrings "/w" "/b", .ofStrings "/w/p" "/c"] →
      PlansAgree (.ofString "/w/p") order order' := by
  intro h
  have hperm : List.Perm
      ([.ofStrings "/w/p" "/c"] ++ [.ofStrings "/w" "/a", .ofStrings "/w" "/b"])
      ([.ofStrings "/w" "/a", .ofStrings "/w" "/b"] ++ [MountSpec.ofStrings "/w/p" "/c"]) :=
    List.perm_append_comm
  have haccepted : ¬RejectedInAnyOrder (.ofString "/w/p")
      [.ofStrings "/w" "/a", .ofStrings "/w" "/b", .ofStrings "/w/p" "/c"] := by
    rintro (⟨mount, hmount, hnone⟩ | hnone | ⟨mount, hmount, hbelow, hsame⟩)
    · have htargets : ∀ target ∈ ["/a", "/b", "/c"], normalizeContainerPath target ≠ none := by
        decide
      simp only [List.mem_cons, List.not_mem_nil, or_false] at hmount
      rcases hmount with rfl | rfl | rfl <;> rw [MountSpec.ofStrings] at hnone <;>
        simp only [PathBuf.toStringLossy_ofString] at hnone <;>
        exact htargets _ (by simp) hnone
    · have hcwd : normalizeContainerPath "/w/p" ≠ none := by decide
      rw [PathBuf.toStringLossy_ofString] at hnone
      exact hcwd hnone
    · have hsources : ∀ mount ∈ [MountSpec.ofStrings "/w" "/a", .ofStrings "/w" "/b",
          .ofStrings "/w/p" "/c"], hostPathCovers (.ofString "/w/p") mount.source = true →
            mount.source.same (.ofString "/w/p") = true := by decide
      rw [hsources mount hmount hbelow] at hsame
      cases hsame
  have haccepted' := mt (rejectedInAnyOrder_perm hperm) haccepted
  rcases h _ _ hperm (List.Perm.refl _) with ⟨e, -, he, -⟩ | ⟨plan, -, -, hplan, -⟩
  · -- the deepest cover comes first and is selected
    have hmax : strictMax DockerMount.depth none (covers (.ofString "/w/p")
        (List.map MountSpec.normalized
          [.ofStrings "/w/p" "/c", .ofStrings "/w" "/a", .ofStrings "/w" "/b"])) =
        .ok (some (MountSpec.ofStrings "/w/p" "/c").normalized) := rfl
    rw [(planCwdMount_of_cover haccepted' hmax).1] at he
    cases he
  · -- the two covers at `/w` tie before the deeper one is read
    obtain ⟨selected, htie⟩ := exists_strictMax_of_plan haccepted hplan
    cases htie

end LittleOrgans.Runtime
