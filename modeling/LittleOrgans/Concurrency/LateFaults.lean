import LittleOrgans.Concurrency.Effects

/-!
# Store calls that fail late

A connection that breaks behind a statement leaves its effect in the store and an error
with the caller: a COMMIT can be applied and reported as failed. `Op.execLate` is the
daemon's `Op.exec` with such failures, and `Op.LateEffect` says what they do.
-/

set_option autoImplicit false

namespace LittleOrgans.Concurrency

open LittleOrgans.Library
open LittleOrgans.Store
open LittleOrgans.Daemon

/-- What the environment decides about an operation, and whether the caller learns of its
success. -/
inductive LateChoice where
  | plain (choice : Choice)
  | late (choice : Choice) (error : DaemonError)

def LateChoice.isLate : LateChoice → Bool
  | .plain _ => false
  | .late _ _ => true

/-- The choice about the operation itself. -/
def LateChoice.choice : LateChoice → Choice
  | .plain choice => choice
  | .late choice _ => choice

/-- A store call that has been applied, reported as failed. -/
def StoreOp.execLate (choice : Choice) (error : DaemonError) (o : StoreOp) (w : World) :
    Option (Except DaemonError o.Res × World) :=
  (o.exec choice w.db).bind fun result =>
    if result.1.isOk then some (.error error, { w with db := result.2 }) else none

/-- An operation of the daemon, where store calls can fail late. -/
def Op.execLate (choice : LateChoice) (o : Op) (w : World) :
    Option (Except DaemonError o.Res × World) :=
  match choice, o with
  | .plain choice, o => o.exec choice w
  | .late choice error, .store o => o.execLate choice error w
  | .late _ _, .memory _ => none
  | .late _ _, .log _ => none
  | .late _ _, .os _ => none

/-- A store call that had its effect and is reported as failed. -/
inductive Op.LateEffect (w w' : World) : (o : Op) → Except DaemonError o.Res → Prop where
  | mk (o : StoreOp) (a : o.Res) (error : DaemonError) (heffect : o.Effect w.db w'.db a)
      (hframe : w' = { w with db := w'.db }) : LateEffect w w' (.store o) (.error error)

theorem StoreOp.lateEffect_of_execLate {choice : Choice} {error : DaemonError} {o : StoreOp}
    {w w' : World} {r : Except DaemonError o.Res}
    (h : o.execLate choice error w = some (r, w')) : Op.LateEffect w w' (.store o) r := by
  obtain ⟨⟨result, db⟩, hexec, hresult⟩ := Option.bind_eq_some_iff.mp h
  cases result with
  | error e => cases hresult
  | ok a =>
      cases hresult
      exact .mk o a error (StoreOp.exec_ok hexec) rfl

/-- An operation is answered as it went, or fails late. -/
theorem Op.execLate_cases {choice : LateChoice} {w w' : World} {o : Op}
    {r : Except DaemonError o.Res} (h : o.execLate choice w = some (r, w')) :
    o.exec choice.choice w = some (r, w') ∨ choice.isLate = true ∧ LateEffect w w' o r := by
  cases choice with
  | plain choice => exact .inl h
  | late choice error =>
      cases o with
      | store o => exact .inr ⟨rfl, StoreOp.lateEffect_of_execLate h⟩
      | memory o => cases h
      | log o => cases h
      | os o => cases h

/-- A store call leaves its effect, or nothing. -/
theorem Op.execLate_store {choice : LateChoice} {w w' : World} {o : StoreOp}
    {r : Except DaemonError o.Res} (h : (Op.store o).execLate choice w = some (r, w')) :
    ∃ db, w' = { w with db := db } ∧ (db = w.db ∨ ∃ a, o.Effect w.db db a) := by
  rcases execLate_cases h with hexec | ⟨-, hlate⟩
  · obtain ⟨db, hrun, hworld⟩ := Op.exec_store hexec
    refine ⟨db, hworld, ?_⟩
    cases r with
    | error e => exact .inl (StoreOp.exec_error hrun)
    | ok a => exact .inr ⟨a, StoreOp.exec_ok hrun⟩
  · cases hlate with
    | mk o a error heffect hframe => exact ⟨w'.db, hframe, .inr ⟨a, heffect⟩⟩

/-- A call that succeeds is not late. -/
theorem Op.exec_of_execLate_ok {choice : LateChoice} {w w' : World} {o : Op} {a : o.Res}
    (h : o.execLate choice w = some (.ok a, w')) : o.exec choice.choice w = some (.ok a, w') := by
  rcases execLate_cases h with hexec | ⟨-, hlate⟩
  · exact hexec
  · cases hlate

/-- Only store calls fail late. -/
theorem Op.exec_of_execLate {choice : LateChoice} {w w' : World} {o : Op}
    {r : Except DaemonError o.Res} (hstore : ∀ o', o ≠ .store o')
    (h : o.execLate choice w = some (r, w')) : o.exec choice.choice w = some (r, w') := by
  rcases execLate_cases h with hexec | ⟨-, hlate⟩
  · exact hexec
  · cases hlate with
    | mk o a error heffect hframe => exact absurd rfl (hstore o)

/-- The monitor of the daemon expects every result, also a late one. -/
theorem returns_of_execLate {choice : LateChoice} {w w' : World} {o : Op}
    {r : Except DaemonError o.Res} (h : o.execLate choice w = some (r, w')) :
    Knowledge.returns o r := by
  rcases Op.execLate_cases h with hexec | ⟨-, hlate⟩
  · exact returns_of_exec hexec
  · cases hlate with
    | mk o a error heffect hframe => cases o <;> exact trivial

end LittleOrgans.Concurrency
