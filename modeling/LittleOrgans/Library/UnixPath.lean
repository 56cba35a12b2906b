import LittleOrgans.Library.Text
import LittleOrgans.Library.Utf8

/-!
# Unix paths

A path is a list of bytes; its components are what comparison, prefixes and the
removal of a prefix are about. Repeated and trailing separators and inner `.` pieces
are no components, `..` is kept. A canonical path, as the file system resolves it,
is absolute and names each component once (`components_of_isCanonical`).
-/

set_option autoImplicit false

namespace LittleOrgans.Library

/-- The separator of paths. -/
def slash : UInt8 := 0x2f

/-- The byte of `.` and `..`. -/
def dot : UInt8 := 0x2e

/-- `std::path::Component` on Unix. -/
inductive Component where
  | rootDir
  | curDir
  | parentDir
  | normal (name : List UInt8)
  deriving DecidableEq

/-- A path is its bytes. -/
structure PathBuf where
  bytes : List UInt8
  deriving DecidableEq

/-- The component a piece between two separators stands for. -/
def pieceComponent (piece : List UInt8) : Option Component :=
  if piece = [] ∨ piece = [dot] then none
  else if piece = [dot, dot] then some .parentDir
  else some (.normal piece)

namespace PathBuf

/-- The path of a text. -/
def ofString (s : String) : PathBuf := ⟨asBytes s⟩

/-- The path begins at the root. -/
def isAbsolute (p : PathBuf) : Bool := p.bytes.head? = some slash

/-- `Path::join`; an absolute path replaces the root. -/
def join (root path : PathBuf) : PathBuf :=
  if path.isAbsolute then path
  else if root.bytes = [] ∨ root.bytes.getLast? = some slash then ⟨root.bytes ++ path.bytes⟩
  else ⟨root.bytes ++ slash :: path.bytes⟩

/-- The components; a leading `.` of a relative path is one. -/
def components (p : PathBuf) : List Component :=
  let pieces := p.bytes.splitOn slash
  if p.isAbsolute then .rootDir :: pieces.filterMap pieceComponent
  else if pieces.head? = some [dot] then .curDir :: pieces.filterMap pieceComponent
  else pieces.filterMap pieceComponent

/-- Paths are compared by their components. -/
def same (p q : PathBuf) : Bool := p.components = q.components

/-- Starts with the components of `root`. -/
def startsWith (p root : PathBuf) : Bool := root.components.isPrefixOf p.components

/-- The components behind a leading `root`. -/
def stripPrefix (p root : PathBuf) : Option (List Component) :=
  if p.startsWith root then some (p.components.drop root.components.length) else none

/-- The path as text; what is not UTF-8 is replaced. -/
def toStringLossy (p : PathBuf) : String := String.ofList (fromUtf8Lossy p.bytes)

/-- A name of a directory entry. -/
def IsName (name : List UInt8) : Prop :=
  name ≠ [] ∧ name ≠ [dot] ∧ name ≠ [dot, dot] ∧ slash ∉ name

instance (name : List UInt8) : Decidable (IsName name) :=
  inferInstanceAs (Decidable (name ≠ [] ∧ name ≠ [dot] ∧ name ≠ [dot, dot] ∧ slash ∉ name))

/-- The path that the lossy text of a path names. -/
def written (p : PathBuf) : PathBuf := .ofString p.toStringLossy

/-- The path is a text. -/
def IsUtf8 (p : PathBuf) : Prop := (fromUtf8 p.bytes).isSome = true

instance (p : PathBuf) : Decidable p.IsUtf8 :=
  inferInstanceAs (Decidable ((fromUtf8 p.bytes).isSome = true))

/-- An absolute path without `.`, `..` or superfluous separators. -/
def IsCanonical (p : PathBuf) : Prop :=
  ∃ names : List (List UInt8), (∀ name ∈ names, IsName name) ∧
    p.bytes = slash :: [slash].intercalate names

@[simp]
theorem toStringLossy_ofString (s : String) : (ofString s).toStringLossy = s := by
  rw [toStringLossy, ofString, asBytes_eq_encode, fromUtf8Lossy_encode, String.ofList_toList]

theorem startsWith_iff {p root : PathBuf} :
    p.startsWith root = true ↔ root.components <+: p.components := List.isPrefixOf_iff_prefix

theorem same_iff {p q : PathBuf} : p.same q = true ↔ p.components = q.components := by
  rw [same, decide_eq_true_iff]

theorem pieceComponent_of_isName {name : List UInt8} (h : IsName name) :
    pieceComponent name = some (.normal name) := by
  obtain ⟨hnil, hdot, hdots, -⟩ := h
  rw [pieceComponent, if_neg (not_or.mpr ⟨hnil, hdot⟩), if_neg hdots]

theorem filterMap_pieceComponent {names : List (List UInt8)}
    (hnames : ∀ name ∈ names, IsName name) :
    names.filterMap pieceComponent = names.map .normal := by
  induction names with
  | nil => rfl
  | cons name names ih =>
      rw [List.forall_mem_cons] at hnames
      rw [List.filterMap_cons_some (pieceComponent_of_isName hnames.1), ih hnames.2]
      rfl

/-- The components of a canonical path: the root and its names. -/
theorem components_of_isCanonical {p : PathBuf} {names : List (List UInt8)}
    (hnames : ∀ name ∈ names, IsName name) (h : p.bytes = slash :: [slash].intercalate names) :
    p.components = .rootDir :: names.map .normal := by
  have habsolute : p.isAbsolute = true := by
    rw [isAbsolute, h]
    rfl
  have hpieces : p.bytes.splitOn slash = [] :: ([slash].intercalate names).splitOn slash := by
    rw [h]
    exact List.splitOn_append_cons_self_of_not_mem List.not_mem_nil _
  rw [components]
  simp only [habsolute, if_true, hpieces]
  by_cases hnil : names = []
  · subst hnil
    rfl
  · rw [List.splitOn_intercalate slash (fun name hname => (hnames name hname).2.2.2) hnil,
      List.filterMap_cons_none rfl, filterMap_pieceComponent hnames]

/-! ## The text of a path -/

theorem bytes_written (p : PathBuf) : p.written.bytes = encode (fromUtf8Lossy p.bytes) := by
  rw [written, ofString, toStringLossy, asBytes_eq_encode, String.toList_ofList]

theorem written_eq_self_iff {p : PathBuf} : p.written = p ↔ p.IsUtf8 := by
  rw [IsUtf8, ← encode_fromUtf8Lossy_iff, ← bytes_written]
  constructor
  · exact congrArg bytes
  · exact fun h => congrArg mk h

theorem written_ofString (s : String) : (ofString s).written = ofString s := by
  rw [written, toStringLossy_ofString]

theorem fromUtf8Lossy_intercalate (names : List (List UInt8)) :
    fromUtf8Lossy ([slash].intercalate names) =
      ['/'].intercalate (names.map fromUtf8Lossy) := by
  induction names with
  | nil => exact fromUtf8Lossy_nil
  | cons name names ih =>
      cases names with
      | nil => simp [List.intercalate]
      | cons next names =>
          have hbytes : [slash].intercalate (name :: next :: names) =
              name ++ slash :: [slash].intercalate (next :: names) := by
            simp [List.intercalate]
          have hchars : ['/'].intercalate ((name :: next :: names).map fromUtf8Lossy) =
              fromUtf8Lossy name ++ '/' :: ['/'].intercalate ((next :: names).map
                fromUtf8Lossy) := by
            simp [List.intercalate]
          rw [hbytes, hchars, ← ih]
          exact fromUtf8Lossy_append_ascii (c := '/') (by decide) _ _

theorem encode_intercalate (texts : List (List Char)) :
    encode (['/'].intercalate texts) = [slash].intercalate (texts.map encode) := by
  induction texts with
  | nil => rfl
  | cons text texts ih =>
      cases texts with
      | nil => simp [List.intercalate]
      | cons next texts =>
          have hchars : ['/'].intercalate (text :: next :: texts) =
              text ++ '/' :: ['/'].intercalate (next :: texts) := by
            simp [List.intercalate]
          have hbytes : [slash].intercalate ((text :: next :: texts).map encode) =
              encode text ++ slash :: [slash].intercalate ((next :: texts).map encode) := by
            simp [List.intercalate]
          rw [hchars, hbytes, encode_append, encode_cons, ih]
          rfl

/-- The text of a name is a name. -/
theorem isName_encode_fromUtf8Lossy {name : List UInt8} (h : IsName name) :
    IsName (encode (fromUtf8Lossy name)) := by
  -- a text without a replacement is the name itself
  have hself : ∀ text : List UInt8, encode (fromUtf8Lossy name) = text →
      '\uFFFD' ∉ fromUtf8Lossy text → name = text := by
    intro text heq htext
    have hlossy : fromUtf8Lossy name = fromUtf8Lossy text := by
      rw [← heq, fromUtf8Lossy_encode]
    rw [← hlossy] at htext
    rw [← heq, encode_fromUtf8Lossy_of_not_mem htext]
  have hdot : fromUtf8Lossy [dot] = ['.'] := fromUtf8Lossy_encode ['.']
  have hdots : fromUtf8Lossy [dot, dot] = ['.', '.'] := fromUtf8Lossy_encode ['.', '.']
  refine ⟨fun heq => h.1 ?_, fun heq => h.2.1 ?_, fun heq => h.2.2.1 ?_, fun hmem => h.2.2.2 ?_⟩
  · exact hself [] heq (by rw [fromUtf8Lossy_nil]; exact List.not_mem_nil)
  · exact hself [dot] heq (by rw [hdot]; decide)
  · exact hself [dot, dot] heq (by rw [hdots]; decide)
  · have hslash : ('/' : Char).toNat < 0x80 := by decide
    exact mem_of_mem_fromUtf8Lossy hslash (mem_of_mem_encode hslash hmem)

/-- The text of a canonical path separates the texts of its names. -/
theorem bytes_written_of_isCanonical {p : PathBuf} {names : List (List UInt8)}
    (h : p.bytes = slash :: [slash].intercalate names) :
    p.written.bytes =
      slash :: [slash].intercalate (names.map fun name => encode (fromUtf8Lossy name)) := by
  have hchar : fromUtf8Lossy (slash :: [slash].intercalate names) =
      '/' :: fromUtf8Lossy ([slash].intercalate names) := by
    have hfirst := fromUtf8Lossy_append_ascii (c := '/') (by decide) []
      ([slash].intercalate names)
    rwa [fromUtf8Lossy_nil] at hfirst
  rw [bytes_written, h, hchar, fromUtf8Lossy_intercalate, encode_cons, encode_intercalate,
    List.map_map]
  rfl

theorem components_written {p : PathBuf} {names : List (List UInt8)}
    (hnames : ∀ name ∈ names, IsName name) (h : p.bytes = slash :: [slash].intercalate names) :
    p.written.components =
      .rootDir :: names.map fun name => .normal (encode (fromUtf8Lossy name)) := by
  have hnames' : ∀ name ∈ names.map fun name => encode (fromUtf8Lossy name), IsName name := by
    intro name hname
    obtain ⟨name, hmem, rfl⟩ := List.mem_map.mp hname
    exact isName_encode_fromUtf8Lossy (hnames name hmem)
  rw [components_of_isCanonical hnames' (bytes_written_of_isCanonical h), List.map_map]
  rfl

/-- A canonical path is UTF-8 where its names are. -/
theorem isUtf8_iff {p : PathBuf} {names : List (List UInt8)}
    (hnames : ∀ name ∈ names, IsName name) (h : p.bytes = slash :: [slash].intercalate names) :
    p.IsUtf8 ↔ ∀ name ∈ names, (fromUtf8 name).isSome = true := by
  rw [← written_eq_self_iff]
  constructor
  · intro hself name hname
    have hcomponents := components_written hnames h
    rw [hself, components_of_isCanonical hnames h] at hcomponents
    have hname' := List.map_inj_left.mp (List.cons.inj hcomponents).2 name hname
    exact encode_fromUtf8Lossy_iff.mp (Component.normal.inj hname').symm
  · intro hutf8
    have hmap : (names.map fun name => encode (fromUtf8Lossy name)) = names := by
      refine (List.map_congr_left fun name hname => ?_).trans (List.map_id names)
      exact encode_fromUtf8Lossy_iff.mpr (hutf8 name hname)
    have hbytes := bytes_written_of_isCanonical h
    rw [hmap, ← h] at hbytes
    exact congrArg mk hbytes

end PathBuf

end LittleOrgans.Library
