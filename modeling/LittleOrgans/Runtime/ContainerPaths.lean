import LittleOrgans.Library.Cancellation
import LittleOrgans.Runtime.DockerMountPlan

/-!
# Container paths

What a container path names lexically: its components with the empty ones and those that are
`.` dropped and each `..` cancelled against the nearest component before it, or against
nothing at the root (`NamesLocation`). The normalised path spells these components out
(`normalizeContainerPath_eq_some_iff`), so that two paths name the same location where they
normalise to the same string, and one normalised path covers another where its location is an
ancestor of the other's, or the same.
-/

set_option autoImplicit false

namespace LittleOrgans.Runtime

open LittleOrgans.Library

/-! ## Locations -/

/-- What a component does to those before it. -/
def componentKind (part : List Char) : LetterKind :=
  if part = [] ∨ part = ['.'] then .nothing
  else if part = ['.', '.'] then .back
  else .name

/-- Starts at the root. -/
def IsAbsolutePath (path : String) : Prop := path.toList.head? = some '/'

/-- The components of an absolute path: what stands between the separators behind the first
one. The root has none. -/
def containerComponents (path : String) : List (List Char) :=
  if path = "/" then [] else (path.toList.splitOn '/').tail

/-- Neither empty nor `.` nor `..`. -/
def IsNamePart (part : List Char) : Prop := part ≠ [] ∧ part ≠ ['.'] ∧ part ≠ ['.', '.']

/-- The components that are left of a path when all `..` are cancelled. -/
def NamesLocation (path : String) (location : List (List Char)) : Prop :=
  CancelsTo componentKind (path.toList.splitOn '/') location

/-- Two texts name one location. -/
def SameLocation (path path' : String) : Prop :=
  ∃ location, NamesLocation path location ∧ NamesLocation path' location

/-- A normalised container path. -/
structure ContainerPath where
  path : String
  normal : normalizeContainerPath path = some path

namespace ContainerPath

/-- The components of a path. -/
def components (p : ContainerPath) : List (List Char) := containerComponents p.path

/-- A path covers another one. -/
def covers (p q : ContainerPath) : Bool := containerPathCovers p.path q.path

end ContainerPath

/-! ## What normalisation computes -/

theorem componentKind_eq_name_iff {part : List Char} :
    componentKind part = .name ↔ IsNamePart part := by
  rw [componentKind, IsNamePart]
  split
  · next h =>
      refine ⟨nofun, fun hname => ?_⟩
      exact absurd h (not_or.mpr ⟨hname.1, hname.2.1⟩)
  · next h =>
      rw [not_or] at h
      split
      · next hback => exact ⟨nofun, fun hname => absurd hback hname.2.2⟩
      · next hback => exact ⟨fun _ => ⟨h.1, h.2, hback⟩, fun _ => rfl⟩

/-- A part is pushed as a letter that cancels. -/
theorem pushPart_eq_pushLetter : pushPart = pushLetter componentKind := by
  funext parts part
  rw [pushPart, pushLetter, componentKind]
  split
  · rfl
  · split <;> rfl

/-- The location of a path. -/
def location (path : String) : List (List Char) :=
  resolve componentKind (path.toList.splitOn '/')

theorem namesLocation_iff {path : String} {parts : List (List Char)} :
    NamesLocation path parts ↔ parts = location path := cancelsTo_iff_eq_resolve

theorem sameLocation_iff {path path' : String} :
    SameLocation path path' ↔ location path = location path' := by
  constructor
  · rintro ⟨parts, hparts, hparts'⟩
    exact (namesLocation_iff.mp hparts).symm.trans (namesLocation_iff.mp hparts')
  · intro h
    exact ⟨location path, namesLocation_iff.mpr rfl, namesLocation_iff.mpr h⟩

/-- The names of a location are parts between two separators. -/
theorem isPart_location (path : String) : ∀ part ∈ location path, IsPart part := by
  rw [location, resolve, ← pushPart_eq_pushLetter]
  exact foldl_pushPart_isPart (fun _ => not_mem_of_mem_splitOn) fun _ h =>
    absurd h List.not_mem_nil

theorem isNamePart_location (path : String) : ∀ part ∈ location path, IsNamePart part :=
  fun part hpart => componentKind_eq_name_iff.mp (isNormal_resolve _ part hpart)

/-- An absolute path is accepted, and its location spelled out. -/
theorem normalizeContainerPath_eq_some_iff {value path : String} :
    normalizeContainerPath value = some path ↔
      IsAbsolutePath value ∧ path = renderParts (location value) := by
  rw [normalizeContainerPath, pushPart_eq_pushLetter, ← resolve, ← location, IsAbsolutePath]
  by_cases habsolute : value.toList.head? = some '/'
  · rw [if_neg (not_not.mpr habsolute), renderParts]
    by_cases hroot : location value = []
    · simp [habsolute, hroot, eq_comm]
    · simp only [habsolute, hroot, if_false, true_and, Option.some.injEq, cons_intercalate hroot]
      exact eq_comm
  · rw [if_pos habsolute]
    exact ⟨fun h => (by cases h), fun h => absurd h.1 habsolute⟩

/-! ## Normalised paths -/

section Parts

variable {parts : List (List Char)} (h : ∀ part ∈ parts, IsPart part)

theorem isAbsolutePath_renderParts (parts : List (List Char)) :
    IsAbsolutePath (renderParts parts) := by
  cases parts with
  | nil => rfl
  | cons part rest =>
      rw [IsAbsolutePath, toList_renderParts (List.cons_ne_nil part rest)]
      rfl

include h

theorem containerComponents_renderParts : containerComponents (renderParts parts) = parts := by
  by_cases hnil : parts = []
  · subst hnil
    rfl
  · rw [containerComponents, if_neg (mt (renderParts_eq_slash_iff h).mp hnil),
      toList_renderParts hnil, splitOn_joinParts h, List.tail_cons]

/-- Names are their own location. -/
theorem location_renderParts (hnames : ∀ part ∈ parts, IsNamePart part) :
    location (renderParts parts) = parts := by
  have hnormal : IsNormal componentKind parts := fun part hpart =>
    componentKind_eq_name_iff.mpr (hnames part hpart)
  by_cases hnil : parts = []
  · subst hnil
    rfl
  · rw [location, toList_renderParts hnil, splitOn_joinParts h, resolve, List.foldl_cons]
    exact resolve_of_isNormal hnormal

end Parts

/-- The components of a normalised path are the location of the path it was made of. -/
theorem containerComponents_of_normalize {value path : String}
    (h : normalizeContainerPath value = some path) : containerComponents path = location value := by
  obtain ⟨-, rfl⟩ := normalizeContainerPath_eq_some_iff.mp h
  exact containerComponents_renderParts (isPart_location value)

theorem normalize_of_normalize {value path : String}
    (h : normalizeContainerPath value = some path) : normalizeContainerPath path = some path := by
  obtain ⟨-, rfl⟩ := normalizeContainerPath_eq_some_iff.mp h
  refine normalizeContainerPath_eq_some_iff.mpr ⟨isAbsolutePath_renderParts _, ?_⟩
  rw [location_renderParts (isPart_location value) (isNamePart_location value)]

/-- Paths name the same location where they normalise to the same string. -/
theorem sameLocation_iff_normalize {value value' path path' : String}
    (h : normalizeContainerPath value = some path)
    (h' : normalizeContainerPath value' = some path') :
    SameLocation value value' ↔ path = path' := by
  obtain ⟨-, rfl⟩ := normalizeContainerPath_eq_some_iff.mp h
  obtain ⟨-, rfl⟩ := normalizeContainerPath_eq_some_iff.mp h'
  rw [sameLocation_iff]
  constructor
  · intro heq
    rw [heq]
  · exact renderParts_inj (isPart_location value) (isPart_location value')

/-- One accepted path covers another where its location is an ancestor of the other's. -/
theorem containerPathCovers_iff_location {value value' path path' : String}
    (h : normalizeContainerPath value = some path)
    (h' : normalizeContainerPath value' = some path') :
    containerPathCovers path path' = true ↔ location value <+: location value' := by
  obtain ⟨-, rfl⟩ := normalizeContainerPath_eq_some_iff.mp h
  obtain ⟨-, rfl⟩ := normalizeContainerPath_eq_some_iff.mp h'
  exact containerPathCovers_renderParts (isPart_location value) (isPart_location value')

/-- The overlap check of the mount plan compares locations. -/
theorem containerPathsOverlap_iff_location {value value' path path' : String}
    (h : normalizeContainerPath value = some path)
    (h' : normalizeContainerPath value' = some path') :
    containerPathsOverlap path path' = true ↔
      location value <+: location value' ∨ location value' <+: location value := by
  rw [containerPathsOverlap, Bool.or_eq_true, containerPathCovers_iff_location h h',
    containerPathCovers_iff_location h' h]

namespace ContainerPath

variable {p q : ContainerPath}

/-- A normalised path is what its components render. -/
theorem path_eq (p : ContainerPath) : p.path = renderParts p.components := by
  rw [components, containerComponents_of_normalize p.normal]
  exact (normalizeContainerPath_eq_some_iff.mp p.normal).2

theorem ext_components (h : p.components = q.components) : p = q := by
  have hpath : p.path = q.path := by rw [path_eq p, path_eq q, h]
  cases p
  cases q
  cases hpath
  rfl

/-- Components are compared, not characters. -/
theorem covers_iff : p.covers q = true ↔ p.components <+: q.components := by
  rw [covers, containerPathCovers_iff_location p.normal q.normal, components, components,
    containerComponents_of_normalize p.normal, containerComponents_of_normalize q.normal]

/-- Ancestors come before what they contain. -/
instance : PartialOrder ContainerPath where
  le p q := p.covers q = true
  le_refl _ := covers_iff.mpr List.prefix_rfl
  le_trans _ _ _ hpq hqr := covers_iff.mpr ((covers_iff.mp hpq).trans (covers_iff.mp hqr))
  le_antisymm _ _ hpq hqp :=
    ext_components (List.IsPrefix.eq_of_length_le (covers_iff.mp hpq)
      (covers_iff.mp hqp).length_le)

end ContainerPath

/-- The path algebra of containers. Normalisation is idempotent and its results are absolute
and made of names; on normalised paths covering is a partial order, that of the prefixes of
components; and accepted paths name the same location exactly when they normalise to the same
string. -/
theorem container_path_algebra :
    (∀ value path, normalizeContainerPath value = some path →
      normalizeContainerPath path = some path ∧ IsAbsolutePath path ∧
        ∀ part ∈ containerComponents path, IsNamePart part) ∧
    ((∀ p : ContainerPath, p.covers p = true) ∧
      (∀ p q r : ContainerPath, p.covers q = true → q.covers r = true → p.covers r = true) ∧
      (∀ p q : ContainerPath, p.covers q = true → q.covers p = true → p = q) ∧
      ∀ p q : ContainerPath, p.covers q = true ↔ p.components <+: q.components) ∧
    ∀ value value' path path', normalizeContainerPath value = some path →
      normalizeContainerPath value' = some path' → (SameLocation value value' ↔ path = path') := by
  refine ⟨fun value path h => ⟨normalize_of_normalize h, ?_, ?_⟩, ⟨?_, ?_, ?_, ?_⟩, ?_⟩
  · obtain ⟨-, rfl⟩ := normalizeContainerPath_eq_some_iff.mp h
    exact isAbsolutePath_renderParts _
  · rw [containerComponents_of_normalize h]
    exact isNamePart_location value
  · exact fun p => le_refl p
  · exact fun p q r hpq hqr => le_trans (a := p) (b := q) hpq hqr
  · exact fun p q hpq hqp => le_antisymm (a := p) hpq hqp
  · exact fun p q => ContainerPath.covers_iff
  · exact fun value value' path path' h h' => sameLocation_iff_normalize h h'

/-- Superfluous separators, `.` and `..`, above the root as well; a sibling that shares a
textual prefix is not covered. -/
theorem container_path_algebra_dots :
    normalizeContainerPath "/srv/data" = some "/srv/data" ∧
      (∀ part ∈ containerComponents "/srv/data", IsNamePart part) ∧
      SameLocation "/srv/./app//../data/" "/../srv/data" ∧
      containerPathCovers "/srv" "/srv/data" = true ∧
      containerPathCovers "/srv" "/srv-data" = false := by
  obtain ⟨hnormal, ⟨-, -, -, hcovers⟩, hsame⟩ := container_path_algebra
  have hdots : normalizeContainerPath "/srv/./app//../data/" = some "/srv/data" := by decide
  have hroot : normalizeContainerPath "/../srv/data" = some "/srv/data" := by decide
  obtain ⟨hagain, -, hnames⟩ := hnormal _ _ hdots
  have hparent : normalizeContainerPath "/srv" = some "/srv" := by decide
  have hsibling : normalizeContainerPath "/srv-data" = some "/srv-data" := by decide
  refine ⟨hagain, hnames, (hsame _ _ _ _ hdots hroot).mpr rfl, ?_, ?_⟩
  · have hbelow : containerComponents "/srv" <+: containerComponents "/srv/data" := by decide
    exact (hcovers ⟨"/srv", hparent⟩ ⟨"/srv/data", hagain⟩).mpr hbelow
  · have hbeside : ¬containerComponents "/srv" <+: containerComponents "/srv-data" := by decide
    rw [Bool.eq_false_iff]
    exact mt (hcovers ⟨"/srv", hparent⟩ ⟨"/srv-data", hsibling⟩).mp hbeside

end LittleOrgans.Runtime
