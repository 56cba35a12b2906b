import LittleOrgans.Core.AgentConfigPath
import LittleOrgans.Runtime.DockerMountPlan

/-!
# Mount texts

`MountSpec::from_str` of `lilo-rm-core`: the public syntax `HOST:CONTAINER[:ro|:rw]` of a
mount. Only the host side is expanded.
-/

set_option autoImplicit false

namespace LittleOrgans.Runtime

open LittleOrgans.Core
open LittleOrgans.Library

/-- Why a text is no mount. -/
inductive MountSpecParseError where
  | missingSeparator
  | emptySource
  | emptyTarget
  | unknownMode (mode : String)
  | missingHome
  deriving DecidableEq

/-- The text of a mount error. -/
def MountSpecParseError.text : MountSpecParseError → String
  | .missingSeparator => "mount value is missing ':' between host source and container target"
  | .emptySource => "mount host source cannot be empty"
  | .emptyTarget => "mount container target cannot be empty"
  | .unknownMode mode => "unknown mount access mode " ++ mode ++ "; expected ro or rw"
  | .missingHome => "mount source uses '~' but HOME is not set"

/-- `expand_mount_source`; a tilde that is followed by a name is dropped. -/
def expandMountSource (home : Option PathBuf) (source : List Char) :
    Except MountSpecParseError PathBuf :=
  match source with
  | '~' :: rest =>
      match home with
      | none => .error .missingHome
      | some home =>
          if rest = [] then .ok home
          else .ok (home.join (.ofString (String.ofList ((stripPrefix ['/'] rest).getD rest))))
  | other => .ok (.ofString (String.ofList other))

/-- The access mode: read-only unless it says otherwise. -/
def mountReadOnly : Option (List Char) → Except MountSpecParseError Bool
  | none => .ok true
  | some mode =>
      if mode = "ro".toList then .ok true
      else if mode = "rw".toList then .ok false
      else .error (.unknownMode (String.ofList mode))

/-- The fields of a mount, when there are not too many. -/
def mountOfFields (home : Option PathBuf) (source target : List Char) (mode : Option (List Char)) :
    Except MountSpecParseError MountSpec := do
  if source = [] then .error .emptySource
  else if target = [] then .error .emptyTarget
  else
    let readOnly ← mountReadOnly mode
    let source ← expandMountSource home source
    pure ⟨source, .ofString (String.ofList target), readOnly⟩

/-- `MountSpec::from_str`. -/
def MountSpec.fromStr (home : Option PathBuf) (value : List Char) :
    Except MountSpecParseError MountSpec :=
  match value.splitOn ':' with
  | source :: target :: [] => mountOfFields home source target none
  | source :: target :: mode :: [] => mountOfFields home source target (some mode)
  | _ :: _ :: _ :: extra :: _ => .error (.unknownMode (String.ofList extra))
  | _ :: [] => .error .missingSeparator
  | [] => .error .missingSeparator

end LittleOrgans.Runtime
