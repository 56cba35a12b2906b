import LittleOrgans.Core.Selector

/-!
# Scoping a selector to a namespace

`scoped_to_namespace` of `lilo-session-core`: a selector that names no namespace is
confined to the requested one, a selector that names it already is kept, and one that
names another is refused, or kept when the request only was a default.

`namespaceMatch` walks the conjunctions with a verdict of three values;
`describes_namespaceMatch` says what each verdict tells about the namespaces the
selector names, and `scopedToNamespace_confines` what scoping does to its sessions.
-/

set_option autoImplicit false

namespace LittleOrgans.Core

/-- Errors of the session manager. -/
inductive SmError where
  | message (text : String)
  | uuid (error : String)
  deriving DecidableEq

/-- Whether the caller has named its namespace. -/
inductive NamespaceScope where
  | default
  | explicit
  deriving DecidableEq

/-- What a selector says of the namespaces it names. -/
inductive NamespaceMatch where
  | none
  | agrees
  | conflict (slug : String)
  deriving DecidableEq

namespace Selector

mutual

/-- `namespace_match`. -/
def namespaceMatch (target : String) : Selector → NamespaceMatch
  | .inNamespace slug => if slug = target then .agrees else .conflict slug
  | .and selectors => namespaceMatchAll target .none selectors
  | .id _ => .none
  | .idPrefix _ => .none
  | .label _ _ => .none
  | .dir _ => .none
  | .role _ => .none
  | .all => .none

/-- Its loop over a conjunction: the first conflict ends it. -/
def namespaceMatchAll (target : String) (state : NamespaceMatch) : List Selector → NamespaceMatch
  | [] => state
  | selector :: rest =>
      match selector.namespaceMatch target with
      | .conflict found => .conflict found
      | .agrees => namespaceMatchAll target .agrees rest
      | .none => namespaceMatchAll target state rest

end

/-- The text of a refusal. -/
def namespaceConflict (slug found : String) : SmError :=
  .message ("namespace conflict: requested " ++ slug ++ " but selector specifies namespace:" ++
    found)

/-- The selector confined to a namespace it does not name. -/
def confine (slug : String) : Selector → Selector
  | .all => .inNamespace slug
  | other => .and [.inNamespace slug, other]

/-- `scoped_to_namespace`. -/
def scopedToNamespace (selector : Option Selector) (slug : String) (scope : NamespaceScope) :
    Except SmError Selector :=
  match selector with
  | none => .ok (.inNamespace slug)
  | some selector =>
      match selector.namespaceMatch slug with
      | .none => .ok (selector.confine slug)
      | .agrees => .ok selector
      | .conflict found =>
          if scope = .default then .ok selector else .error (namespaceConflict slug found)

/-! ## The namespaces a selector names -/

mutual

/-- The namespace leaves of a selector, through nested conjunctions. -/
def namespaceLeaves : Selector → List String
  | .inNamespace slug => [slug]
  | .and selectors => namespaceLeavesAll selectors
  | .id _ => []
  | .idPrefix _ => []
  | .label _ _ => []
  | .dir _ => []
  | .role _ => []
  | .all => []

/-- The namespaces in a list of selectors. -/
def namespaceLeavesAll : List Selector → List String
  | [] => []
  | selector :: rest => selector.namespaceLeaves ++ namespaceLeavesAll rest

end

/-- Some namespace leaf names another namespace. -/
def NamesOther (selector : Selector) (slug : String) : Prop :=
  ∃ named ∈ selector.namespaceLeaves, named ≠ slug

end Selector

/-- What a verdict says about the namespaces that were seen. -/
def NamespaceMatch.Describes (target : String) (leaves : List String) : NamespaceMatch → Prop
  | .none => leaves = []
  | .agrees => target ∈ leaves ∧ ∀ named ∈ leaves, named = target
  | .conflict found => found ∈ leaves ∧ found ≠ target

namespace Selector

variable {target slug : String}

/-! ## The verdict -/

mutual

theorem describes_namespaceMatch (target : String) :
    ∀ selector : Selector,
      (selector.namespaceMatch target).Describes target selector.namespaceLeaves
  | .inNamespace slug => by
      rw [namespaceMatch, namespaceLeaves]
      split
      · next hslug => exact ⟨by simp [hslug], by simp [hslug]⟩
      · next hslug => exact ⟨List.mem_singleton.mpr rfl, hslug⟩
  | .and selectors => by
      rw [namespaceMatch, namespaceLeaves]
      exact describes_namespaceMatchAll target .none [] selectors rfl fun found h => nomatch h
  | .id _ => rfl
  | .idPrefix _ => rfl
  | .label _ _ => rfl
  | .dir _ => rfl
  | .role _ => rfl
  | .all => rfl

/-- The state of the loop describes the leaves before; its verdict those leaves and the
rest. -/
theorem describes_namespaceMatchAll (target : String) (state : NamespaceMatch)
    (before : List String) :
    ∀ selectors : List Selector, state.Describes target before →
      (∀ found, state ≠ .conflict found) →
      (namespaceMatchAll target state selectors).Describes target
        (before ++ namespaceLeavesAll selectors)
  | [], hstate, _ => by
      rw [namespaceMatchAll, namespaceLeavesAll, List.append_nil]
      exact hstate
  | selector :: rest, hstate, hfound => by
      have hfirst := describes_namespaceMatch target selector
      rw [namespaceMatchAll, namespaceLeavesAll, ← List.append_assoc]
      cases hmatch : selector.namespaceMatch target with
      | none =>
          rw [hmatch] at hfirst
          rw [show selector.namespaceLeaves = [] from hfirst, List.append_nil]
          exact describes_namespaceMatchAll target state before rest hstate hfound
      | agrees =>
          rw [hmatch] at hfirst
          refine describes_namespaceMatchAll target .agrees _ rest ?_ fun found h => nomatch h
          refine ⟨List.mem_append_right _ hfirst.1, fun named hnamed => ?_⟩
          rcases List.mem_append.mp hnamed with hbefore | hnamed
          · -- a state that is no conflict has seen the target only
            cases state with
            | none =>
                rw [show before = [] from hstate] at hbefore
                cases hbefore
            | agrees => exact hstate.2 named hbefore
            | conflict found => exact absurd rfl (hfound found)
          · exact hfirst.2 named hnamed
      | conflict found =>
          rw [hmatch] at hfirst
          exact ⟨by simp [hfirst.1], hfirst.2⟩

end

/-- A conflict is found when a leaf names another namespace, and only then. -/
theorem namespaceMatch_conflict_iff {selector : Selector} :
    (∃ found, selector.namespaceMatch slug = .conflict found) ↔ selector.NamesOther slug := by
  have hdescribes := describes_namespaceMatch slug selector
  constructor
  · rintro ⟨found, hfound⟩
    rw [hfound] at hdescribes
    exact ⟨found, hdescribes⟩
  · rintro ⟨named, hnamed, hne⟩
    cases hmatch : selector.namespaceMatch slug with
    | none =>
        rw [hmatch] at hdescribes
        rw [show selector.namespaceLeaves = [] from hdescribes] at hnamed
        cases hnamed
    | agrees =>
        rw [hmatch] at hdescribes
        exact absurd (hdescribes.2 named hnamed) hne
    | conflict found => exact ⟨found, rfl⟩

/-! ## The sessions of a scoped selector -/

section Matching

variable {session : Session}

mutual

/-- A session that matches a selector is in each namespace the selector names. -/
theorem namespaceSlug_of_matches : ∀ {selector : Selector},
    sessionMatchesSelector session selector = true → slug ∈ selector.namespaceLeaves →
      session.namespaceSlug = slug
  | .inNamespace named, hmatches, hslug => by
      rw [namespaceLeaves, List.mem_singleton] at hslug
      rw [sessionMatchesSelector] at hmatches
      rw [hslug]
      exact of_decide_eq_true hmatches
  | .and selectors, hmatches, hslug => by
      rw [sessionMatchesSelector] at hmatches
      rw [namespaceLeaves] at hslug
      exact namespaceSlug_of_matchesAll hmatches hslug
  | .id _, _, hslug => nomatch hslug
  | .idPrefix _, _, hslug => nomatch hslug
  | .label _ _, _, hslug => nomatch hslug
  | .dir _, _, hslug => nomatch hslug
  | .role _, _, hslug => nomatch hslug
  | .all, _, hslug => nomatch hslug

theorem namespaceSlug_of_matchesAll : ∀ {selectors : List Selector},
    sessionMatchesAll session selectors = true → slug ∈ namespaceLeavesAll selectors →
      session.namespaceSlug = slug
  | [], _, hslug => nomatch hslug
  | selector :: rest, hmatches, hslug => by
      rw [sessionMatchesAll, Bool.and_eq_true] at hmatches
      rw [namespaceLeavesAll, List.mem_append] at hslug
      rcases hslug with hfirst | hrest
      · exact namespaceSlug_of_matches hmatches.1 hfirst
      · exact namespaceSlug_of_matchesAll hmatches.2 hrest

end

theorem matches_inNamespace :
    sessionMatchesSelector session (.inNamespace slug) = true ↔ session.namespaceSlug = slug := by
  rw [sessionMatchesSelector, decide_eq_true_iff]

/-- Confining adds the namespace as a condition. -/
theorem matches_confine {selector : Selector} :
    sessionMatchesSelector session (selector.confine slug) = true ↔
      sessionMatchesSelector session selector = true ∧ session.namespaceSlug = slug := by
  have hand : sessionMatchesSelector session (.and [.inNamespace slug, selector]) = true ↔
      sessionMatchesSelector session selector = true ∧ session.namespaceSlug = slug := by
    simp [sessionMatchesSelector, sessionMatchesAll, and_comm]
  cases selector with
  | all => simp [confine, sessionMatchesSelector]
  | _ => exact hand

end Matching

/-- Scoping in a namespace that no leaf contradicts, whatever the scope. -/
theorem scopedToNamespace_of_not_namesOther {selector : Selector}
    (h : ¬selector.NamesOther slug) (scope : NamespaceScope) :
    ∃ result, scopedToNamespace (some selector) slug scope = .ok result ∧
      ∀ session, sessionMatchesSelector session result = true ↔
        sessionMatchesSelector session selector = true ∧ session.namespaceSlug = slug := by
  have hdescribes := describes_namespaceMatch slug selector
  rw [scopedToNamespace]
  cases hmatch : selector.namespaceMatch slug with
  | none => exact ⟨selector.confine slug, rfl, fun session => matches_confine⟩
  | agrees =>
      rw [hmatch] at hdescribes
      refine ⟨selector, rfl, fun session => ⟨fun hmatches => ?_, fun hmatches => hmatches.1⟩⟩
      exact ⟨hmatches, namespaceSlug_of_matches hmatches hdescribes.1⟩
  | conflict found => exact absurd (namespaceMatch_conflict_iff.mp ⟨found, hmatch⟩) h

theorem scopedToNamespace_of_namesOther {selector : Selector} (h : selector.NamesOther slug) :
    (∃ e, scopedToNamespace (some selector) slug .explicit = .error e) ∧
      scopedToNamespace (some selector) slug .default = .ok selector := by
  obtain ⟨found, hfound⟩ := namespaceMatch_conflict_iff.mpr h
  rw [scopedToNamespace, scopedToNamespace, hfound]
  exact ⟨⟨_, rfl⟩, rfl⟩

/-- Scoping to an explicit namespace fails when a leaf names another one, and only then, and
otherwise keeps the sessions of that namespace. Scoping to a default one selects the same
sessions, and keeps a selector that names another namespace as it is. Without a selector
both select the namespace. -/
theorem scopedToNamespace_confines (slug : String) :
    (∀ selector : Selector,
      ((∃ e, scopedToNamespace (some selector) slug .explicit = .error e) ↔
          selector.NamesOther slug) ∧
        (∀ result, scopedToNamespace (some selector) slug .explicit = .ok result →
          ∀ session, sessionMatchesSelector session result = true ↔
            sessionMatchesSelector session selector = true ∧ session.namespaceSlug = slug) ∧
        (¬selector.NamesOther slug →
          ∃ byDefault result, scopedToNamespace (some selector) slug .default = .ok byDefault ∧
            scopedToNamespace (some selector) slug .explicit = .ok result ∧
            ∀ session, sessionMatchesSelector session byDefault =
              sessionMatchesSelector session result) ∧
        (selector.NamesOther slug →
          scopedToNamespace (some selector) slug .default = .ok selector)) ∧
      ∀ scope, ∃ result, scopedToNamespace none slug scope = .ok result ∧
        ∀ session, sessionMatchesSelector session result = true ↔ session.namespaceSlug = slug := by
  -- Each part for a selector that names another namespace, and for one that does not.
  refine ⟨fun selector => ⟨⟨?_, ?_⟩, ?_, ?_, ?_⟩, fun scope => ?_⟩
  · rintro ⟨e, he⟩
    refine Classical.byContradiction fun hother => ?_
    obtain ⟨result, hresult, -⟩ := scopedToNamespace_of_not_namesOther hother .explicit
    rw [hresult] at he
    cases he
  · intro hother
    exact (scopedToNamespace_of_namesOther hother).1
  · intro result hresult
    by_cases hother : selector.NamesOther slug
    · obtain ⟨e, he⟩ := (scopedToNamespace_of_namesOther hother).1
      rw [hresult] at he
      cases he
    · obtain ⟨result', hresult', hsessions⟩ :=
        scopedToNamespace_of_not_namesOther hother .explicit
      rw [hresult] at hresult'
      cases hresult'
      exact hsessions
  · intro hother
    obtain ⟨byDefault, hdefault, hsessions⟩ := scopedToNamespace_of_not_namesOther hother .default
    obtain ⟨result, hresult, hsessions'⟩ := scopedToNamespace_of_not_namesOther hother .explicit
    refine ⟨byDefault, result, hdefault, hresult, fun session => ?_⟩
    rw [Bool.eq_iff_iff, hsessions, hsessions']
  · intro hother
    exact (scopedToNamespace_of_namesOther hother).2
  · exact ⟨.inNamespace slug, rfl, fun session => matches_inNamespace⟩

end Selector

end LittleOrgans.Core
