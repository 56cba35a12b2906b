import LittleOrgans.Library.Program

/-!
# Errors with their contexts

An error as the chain of its contexts, the outermost first. `context` adds one to the
error of a program; a chain is shown by its first text, or as a whole.
-/

set_option autoImplicit false

namespace LittleOrgans.Library

/-- The texts of an error, the outermost context first. -/
abbrev Report := List String

namespace Report

/-- The text of an error without its causes. -/
def text (report : Report) : String := report.headD ""

/-- An error with its causes. -/
def display (report : Report) : String := ": ".intercalate report

end Report

namespace Prog

variable {S : Signature} {α : Type}

/-- A program whose error gets a context. -/
def context (text : String) (p : Prog S Report α) : Prog S Report α :=
  p.mapError fun report => text :: report

/-- Ends with an error that has no cause. -/
def bail (text : String) : Prog S Report α := .fail [text]

/-- Goes on when the condition holds. -/
def ensure (condition : Bool) (text : String) : Prog S Report Unit :=
  if condition then .ret () else bail text

/-- The value, or an error. -/
def required (value : Option α) (text : String) : Prog S Report α :=
  match value with
  | some a => .ret a
  | none => bail text

end Prog

end LittleOrgans.Library
