import Mathlib.Logic.Basic

/-!
# JSON values

`serde_json::Value` with the accessors that the MCP tools and the principal codec read it
with. A number is kept the way `serde_json` keeps it: `as_u64` only accepts a number that
was written as a non-negative integer.
-/

set_option autoImplicit false

namespace LittleOrgans.Core

/-- A number of JSON; a fraction is its text. -/
inductive JsonNumber where
  | posInt (n : UInt64)
  | negInt (n : Int64)
  | float (text : String)
  deriving DecidableEq

/-- A JSON value. -/
inductive Json where
  | null
  | bool (b : Bool)
  | number (n : JsonNumber)
  | string (s : String)
  | array (items : List Json)
  | object (fields : List (String × Json))

namespace Json

/-- `{}`. -/
def emptyObject : Json := .object []

/-- `Value::get` of a field. -/
def get (value : Json) (field : String) : Option Json :=
  match value with
  | .object fields => fields.lookup field
  | .null => none
  | .bool _ => none
  | .number _ => none
  | .string _ => none
  | .array _ => none

/-- The text of a string. -/
def asStr : Json → Option String
  | .string s => some s
  | .null => none
  | .bool _ => none
  | .number _ => none
  | .array _ => none
  | .object _ => none

/-- The value of a number that is a `u64`. -/
def asU64 : Json → Option Nat
  | .number (.posInt n) => some n.toNat
  | .number (.negInt _) => none
  | .number (.float _) => none
  | .null => none
  | .bool _ => none
  | .string _ => none
  | .array _ => none
  | .object _ => none

/-- The value of a truth value. -/
def asBool : Json → Option Bool
  | .bool b => some b
  | .null => none
  | .number _ => none
  | .string _ => none
  | .array _ => none
  | .object _ => none

/-- The items of an array. -/
def asArray : Json → Option (List Json)
  | .array items => some items
  | .null => none
  | .bool _ => none
  | .number _ => none
  | .string _ => none
  | .object _ => none

end Json

end LittleOrgans.Core
