import LittleOrgans.Core.Session
import Mathlib.Algebra.Group.Nat.Defs

/-!
# Selectors

`Selector` of `lilo-session-core` and the matcher the store falls back to
(`session_matches_selector`). A selector by id prefix compares the hyphenated
hexadecimal text of the id, a selector by directory the components of its path.
-/

set_option autoImplicit false

namespace LittleOrgans.Core

/-! ## The text of an id -/

/-- A digit of a uuid. -/
def hexDigit (n : Nat) : Char := "0123456789abcdef".toList.getD n '0'

/-- The 32 hexadecimal digits of a uuid, the most significant first. -/
def hexDigits (uuid : BitVec 128) : List Char :=
  (List.range 32).map fun i => hexDigit (uuid.toNat / 16 ^ (31 - i) % 16)

/-- The hyphenated form of a uuid. -/
def uuidText (uuid : BitVec 128) : List Char :=
  let digits := hexDigits uuid
  digits.take 8 ++ ['-'] ++ (digits.drop 8).take 4 ++ ['-'] ++ (digits.drop 12).take 4 ++ ['-'] ++
    (digits.drop 16).take 4 ++ ['-'] ++ digits.drop 20

/-! ## Paths -/

/-- A component of the path of a selector. -/
inductive PathComponent where
  | rootDir
  | curDir
  | parentDir
  | normal (name : List Char)
  deriving DecidableEq

/-- A segment between two separators: an empty one and a dot are no component. -/
def segmentComponent : List Char → Option PathComponent
  | [] => none
  | ['.'] => none
  | ['.', '.'] => some .parentDir
  | name => some (.normal name)

/-- What a path begins with: the root, or the dot of a relative path. -/
def leadingComponent (path : String) : List PathComponent :=
  if path.toList.head? = some '/' then [.rootDir]
  else if (path.toList.splitOn '/').head? = some ['.'] then [.curDir]
  else []

/-- `Path::components`, on Unix. -/
def pathComponents (path : String) : List PathComponent :=
  leadingComponent path ++ (path.toList.splitOn '/').filterMap segmentComponent

/-- Equality of paths: `==` of two `PathBuf`s compares their components. -/
def samePath (a b : String) : Bool := decide (pathComponents a = pathComponents b)

@[simp]
theorem samePath_self (path : String) : samePath path path = true := decide_eq_true rfl

example : samePath "/tmp//project/./" "/tmp/project" = true := by decide

/-! ## Selectors -/

/-- What a label selector asks of the value. -/
inductive LabelOp where
  | eq (value : String)
  | isIn (values : List String)

/-- Which sessions are meant. -/
inductive Selector where
  | id (id : SessionId)
  | idPrefix (text : String)
  | label (key : String) (op : LabelOp)
  | inNamespace (slug : String)
  | dir (path : String)
  | and (selectors : List Selector)
  | role (name : String)
  | all

/-- The least characters of an id prefix. -/
def MIN_SELECTOR_PREFIX_LEN : Nat := 4

/-- The id starts with this text. -/
def SessionId.startsWith (id : SessionId) (text : String) : Bool :=
  text.toList.isPrefixOf (uuidText id.uuid)

/-- The value of a label is accepted. -/
def LabelOp.accepts (op : LabelOp) (value : String) : Bool :=
  match op with
  | .eq wanted => decide (value = wanted)
  | .isIn values => decide (value ∈ values)

mutual

/-- `session_matches_selector`. -/
def sessionMatchesSelector (session : Session) : Selector → Bool
  | .all => true
  | .id id => decide (session.id = id)
  | .idPrefix text => session.id.startsWith text
  | .role name => decide (session.role = name)
  | .inNamespace slug => decide (session.namespaceSlug = slug)
  | .dir path => samePath session.dir path
  | .and selectors => sessionMatchesAll session selectors
  | .label key op => session.labels.any fun label => label.key = key && op.accepts label.value

/-- The session matches each of the selectors. -/
def sessionMatchesAll (session : Session) : List Selector → Bool
  | [] => true
  | selector :: rest => sessionMatchesSelector session selector && sessionMatchesAll session rest

end

mutual

/-- The id prefixes of a selector, through nested conjunctions. -/
def Selector.idPrefixes : Selector → List String
  | .idPrefix text => [text]
  | .and selectors => collectPrefixSelectors selectors
  | .all => []
  | .id _ => []
  | .role _ => []
  | .inNamespace _ => []
  | .dir _ => []
  | .label _ _ => []

/-- The id prefixes in a list of selectors. -/
def collectPrefixSelectors : List Selector → List String
  | [] => []
  | selector :: rest => selector.idPrefixes ++ collectPrefixSelectors rest

end

end LittleOrgans.Core
