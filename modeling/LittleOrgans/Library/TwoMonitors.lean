import LittleOrgans.Library.Pool

/-!
# Two monitors side by side

A program can be followed by two monitors at once, each of which looks at its own state. It
conforms to both as soon as it conforms to each (`Monitor.conforms_both`), so that the facts
of a second concern need not be worked into the monitor of the first. What holds of the
first along all runs holds of it beside the second (`Pool.Invariant.both`).
-/

set_option autoImplicit false

namespace LittleOrgans.Library

variable {S : Signature} {ε α : Type}

/-- Allows what both allow. -/
abbrev Monitor.both (M N : Monitor S ε) : Monitor S ε where
  State := M.State × N.State
  allows φ o := M.allows φ.1 o ∧ N.allows φ.2 o
  returns o r := M.returns o r ∧ N.returns o r
  next φ o r := (M.next φ.1 o r, N.next φ.2 o r)

theorem Monitor.conforms_both {M N : Monitor S ε} {p : Prog S ε α} {φ : M.State} {ψ : N.State}
    {Q : Except ε α → M.State → Prop} {R : Except ε α → N.State → Prop}
    (hM : M.Conforms p φ Q) (hN : N.Conforms p ψ R) :
    (M.both N).Conforms p (φ, ψ) fun r χ => Q r χ.1 ∧ R r χ.2 := by
  induction p generalizing φ ψ with
  | ret a => exact ⟨hM, hN⟩
  | fail e => exact ⟨hM, hN⟩
  | op o k ih =>
      refine ⟨⟨hM.1, hN.1⟩, fun r hr => ?_⟩
      exact ih r (hM.2 r hr.1) (hN.2 r hr.2)

variable {M : Machine S ε} {V W : Watch M}

/-- Both watches at once. -/
abbrev Watch.both (V W : Watch M) : Watch M where
  monitor := V.monitor.both W.monitor
  first origin := (V.first origin, W.first origin)
  post origin r χ := V.post origin r χ.1 ∧ W.post origin r χ.2
  conforms origin := Monitor.conforms_both (V.conforms origin) (W.conforms origin)
  returns h := ⟨V.returns h, W.returns h⟩

/-- What the first monitor knows of each thread. -/
def firstMinds {β σ τ : Type} (minds : Nat → Option (β × (σ × τ))) (t : Nat) : Option (β × σ) :=
  (minds t).map fun mind => (mind.1, mind.2.1)

section FirstMinds

variable {β σ τ : Type} {minds : Nat → Option (β × (σ × τ))}

theorem firstMinds_eq_some {t : Nat} {origin : β} {φ : σ} {ψ : τ}
    (h : minds t = some (origin, φ, ψ)) : firstMinds minds t = some (origin, φ) := by
  rw [firstMinds, h, Option.map_some]

theorem firstMinds_eq_none {t : Nat} (h : minds t = none) : firstMinds minds t = none := by
  rw [firstMinds, h, Option.map_none]

theorem firstMinds_update (t : Nat) (origin : β) (φ : σ) (ψ : τ) :
    firstMinds (Function.update minds t (some (origin, φ, ψ))) =
      Function.update (firstMinds minds) t (some (origin, φ)) := by
  funext t'
  rw [firstMinds, Function.update_apply, Function.update_apply]
  split <;> rfl

end FirstMinds

/-- Steps that meet `D` meet `C` of the first watch. -/
structure Condition.Refines (D : Condition (V.both W)) (C : Condition V) : Prop where
  op : ∀ {χ choice o s}, D.op χ choice o s → C.op χ.1 choice o s
  start : ∀ {origin s}, D.start origin s → C.start origin s
  env : ∀ {event s}, D.env event s → C.env event s
  crash : ∀ {s}, D.crash s → C.crash s

theorem Condition.refines_none {D : Condition (V.both W)} : D.Refines (.none V) :=
  ⟨fun _ => trivial, fun _ => trivial, fun _ => trivial, fun _ => trivial⟩

/-- An invariant of the first watch, beside the second. -/
theorem Pool.Invariant.both {C : Condition V} {D : Condition (V.both W)}
    {Inv : M.Shared → (Nat → Option (M.Origin × V.monitor.State)) → Prop}
    (I : Invariant V C Inv) (h : D.Refines C) :
    Invariant (V.both W) D fun s minds => Inv s (firstMinds minds) where
  op := by
    rintro s minds t origin ⟨φ, ψ⟩ choice o r s' hinv hmind hallows hD hexec
    rw [firstMinds_update]
    exact I.op hinv (firstMinds_eq_some hmind) hallows.1 (h.op hD) hexec
  start := by
    intro s minds t origin s' hinv hD hstart hfree
    rw [firstMinds_update]
    exact I.start hinv (h.start hD) hstart (firstMinds_eq_none hfree)
  env hinv hD henv := I.env hinv (h.env hD) henv
  crash hinv hD := I.crash hinv (h.crash hD)

end LittleOrgans.Library
