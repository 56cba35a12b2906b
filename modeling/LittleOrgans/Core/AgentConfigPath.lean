import LittleOrgans.Library.UnixPath

/-!
# The path of an agent configuration

`normalize_agent_config_request` of `lilo-session-core`: a name is kept, a path is made
absolute and resolved by the file system; a path that the file system does not resolve is
normalised by its components. A path that is built by pushing components is kept here as
its components.
-/

set_option autoImplicit false

namespace LittleOrgans.Library

/-- The bytes of a component. -/
def Component.bytes : Component → List UInt8
  | .rootDir => [slash]
  | .curDir => [dot]
  | .parentDir => [dot, dot]
  | .normal name => name

/-- The path of components that are pushed one after the other. -/
def PathBuf.ofComponents : List Component → PathBuf
  | .rootDir :: rest => ⟨slash :: [slash].intercalate (rest.map Component.bytes)⟩
  | components => ⟨[slash].intercalate (components.map Component.bytes)⟩

end LittleOrgans.Library

namespace LittleOrgans.Core

open LittleOrgans.Library

/-- `is_agent_config_path_like`. -/
def isAgentConfigPathLike (value : String) : Bool :=
  value.toList.contains '/' || value.toList.head? = some '~' || value.toList.head? = some '.'

/-- `expand_home_path`. -/
def expandHomePath (value : String) (home : Option PathBuf) : Option PathBuf :=
  if value = "~" then home
  else
    match stripPrefix "~/".toList value.toList with
    | some rest => home.map fun home => home.join (.ofString (String.ofList rest))
    | none => some (.ofString value)

/-- `can_pop`. -/
def canPop (normalized : List Component) : Bool :=
  match normalized.getLast? with
  | some (.normal _) => true
  | some .rootDir => false
  | some .curDir => false
  | some .parentDir => false
  | none => false

/-- One round of the loop of `normalize_lexically`. -/
def normalizeComponent (normalized : List Component) (component : Component) : List Component :=
  match component with
  | .curDir => normalized
  | .parentDir => if canPop normalized then normalized.dropLast else normalized ++ [.parentDir]
  | .rootDir => normalized ++ [.rootDir]
  | .normal name => normalized ++ [.normal name]

def normalizeComponents (components : List Component) : List Component :=
  components.foldl normalizeComponent []

/-- `normalize_lexically`. -/
def normalizeLexically (path : PathBuf) : PathBuf :=
  match normalizeComponents path.components with
  | [] => .ofString "."
  | normalized => .ofComponents normalized

/-- The absolute path that is looked for. -/
def agentConfigPath (value : String) (baseDir : PathBuf) (home : Option PathBuf) : PathBuf :=
  let path := (expandHomePath value home).getD (.ofString value)
  if path.isAbsolute then path else baseDir.join path

/-- `normalize_agent_config_request`, with what the file system resolves. -/
def normalizeAgentConfigRequest (canonicalize : PathBuf → Option PathBuf) (value : String)
    (baseDir : PathBuf) (home : Option PathBuf) : String :=
  if isAgentConfigPathLike value then
    let absolute := agentConfigPath value baseDir home
    ((canonicalize absolute).getD (normalizeLexically absolute)).toStringLossy
  else value

end LittleOrgans.Core
