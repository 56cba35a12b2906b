import LittleOrgans.Library.Mediation

/-!
# Two policies side by side

A program can be held to two policies at once, each with its own subjects and grants. It is
mediated by both as soon as it is mediated by each (`Mediated.both`), so that a second concern
need not be worked into the policy of the first.

A `Layer` puts a second policy on top of a ledger. What it has on record may rest on the
invariant of the ledger, which it need not keep by itself. Together they are a ledger again
(`Layer.ledger`), with all its theorems.
-/

set_option autoImplicit false

namespace LittleOrgans.Library

variable {S : Signature} {ε α : Type}

namespace Policy

/-- The grants of the first policy. -/
def firsts {G H : Type} (φ : Set (G ⊕ H)) : Set G := {g | .inl g ∈ φ}

/-- The grants of the second policy. -/
def seconds {G H : Type} (φ : Set (G ⊕ H)) : Set H := {h | .inr h ∈ φ}

/-- The grants of both. -/
def together {G H : Type} (φ : Set G) (ψ : Set H) : Set (G ⊕ H) :=
  {g | g.elim (fun g => g ∈ φ) fun h => h ∈ ψ}

section

variable {G H : Type} {φ ψ : Set (G ⊕ H)}

theorem firsts_mono (h : φ ⊆ ψ) : firsts φ ⊆ firsts ψ := fun _ hg => h hg

theorem seconds_mono (h : φ ⊆ ψ) : seconds φ ⊆ seconds ψ := fun _ hg => h hg

theorem firsts_union_together (χ : Set G) (ξ : Set H) :
    firsts (φ ∪ together χ ξ) = firsts φ ∪ χ := rfl

theorem seconds_union_together (χ : Set G) (ξ : Set H) :
    seconds (φ ∪ together χ ξ) = seconds φ ∪ ξ := rfl

end

/-- What both permit. -/
abbrev both (P R : Policy S ε) : Policy S ε where
  Subject := P.Subject × R.Subject
  Grant := P.Grant ⊕ R.Grant
  permits x φ o := P.permits x.1 (firsts φ) o ∧ R.permits x.2 (seconds φ) o
  earns x o r := together (P.earns x.1 o r) (R.earns x.2 o r)
  returns o r := P.returns o r ∧ R.returns o r
  permits_mono h ho :=
    ⟨P.permits_mono (firsts_mono h) ho.1, R.permits_mono (seconds_mono h) ho.2⟩

/-- A program that is mediated by each is mediated by both. -/
theorem Mediated.both {P R : Policy S ε} {x : P.Subject} {y : R.Subject}
    {φ : Set (P.Grant ⊕ R.Grant)} {p : Prog S ε α} {A : α → Set P.Grant → Prop}
    {B : α → Set R.Grant → Prop} (hp : P.Mediated x (firsts φ) p A)
    (hr : R.Mediated y (seconds φ) p B) :
    (P.both R).Mediated (x, y) φ p fun a χ => A a (firsts χ) ∧ B a (seconds χ) := by
  induction p generalizing φ with
  | ret a =>
      have hA := mediated_iff.mp hp a rfl
      exact mediated_ret ⟨hA, mediated_iff.mp hr a rfl⟩
  | fail e => exact mediated_fail
  | op o k ih =>
      obtain ⟨hpermits, hgoes⟩ := mediated_op.mp hp
      obtain ⟨hpermits', hgoes'⟩ := mediated_op.mp hr
      refine mediated_op.mpr ⟨⟨hpermits, hpermits'⟩, fun r hret => ?_⟩
      refine ih r ?_ ?_
      · rw [firsts_union_together]
        exact hgoes r hret.1
      · rw [seconds_union_together]
        exact hgoes' r hret.2

end Policy

/-- A second policy for the programs of a ledger. The invariant is that of the ledger. -/
structure Layer {P : Policy S ε} {M : Machine S ε} (L : Ledger P M) (R : Policy S ε) where
  holds : M.Shared → R.Subject → R.Grant → Prop
  subject : M.Origin → R.Subject
  mediated : ∀ origin, R.Mediated (subject origin) ∅ (M.program origin) fun _ _ => True
  returns : ∀ {choice o s r s'}, M.exec choice o s = some (r, s') → R.returns o r
  keeps : ∀ {choice o s r s' x g}, M.exec choice o s = some (r, s') → holds s x g → holds s' x g
  records : ∀ {choice o s r s' x g} {φ : Set R.Grant}, L.sound s → R.permits x φ o →
    M.exec choice o s = some (r, s') → g ∈ R.earns x o r → holds s' x g
  start_keeps : ∀ {origin s s'}, L.sound s → M.start origin s = some s' →
    ∀ x g, holds s x g → holds s' x g
  env_keeps : ∀ {event s s'}, L.sound s → M.env event s = some s' →
    ∀ x g, holds s x g → holds s' x g
  crash_keeps : ∀ {s}, L.sound s → ∀ x g, holds s x g → holds (M.crash s) x g

namespace Layer

variable {P R : Policy S ε} {M : Machine S ε} {L : Ledger P M} (K : Layer L R)

/-- What either has on record. -/
def Holds (s : M.Shared) (x : P.Subject × R.Subject) (g : P.Grant ⊕ R.Grant) : Prop :=
  g.elim (L.holds s x.1) (K.holds s x.2)

theorem Holds.mono {s s' : M.Shared} (hfirst : ∀ x g, L.holds s x g → L.holds s' x g)
    (hsecond : ∀ x g, K.holds s x g → K.holds s' x g) {x : P.Subject × R.Subject}
    {g : P.Grant ⊕ R.Grant} (hg : K.Holds s x g) : K.Holds s' x g := by
  cases g with
  | inl g => exact hfirst _ g hg
  | inr g => exact hsecond _ g hg

/-- The ledger of both policies. -/
def ledger : Ledger (P.both R) M where
  holds := K.Holds
  sound := L.sound
  returns h := ⟨L.returns h, K.returns h⟩
  keeps h hg := Holds.mono K (fun _ _ => L.keeps h) (fun _ _ => K.keeps h) hg
  records := by
    intro choice o s r s' x g φ hsound hφ hpermits hexec hg
    cases g with
    | inl g => exact L.records hsound (fun g' hg' => hφ (.inl g') hg') hpermits.1 hexec hg
    | inr g => exact K.records hsound hpermits.2 hexec hg
  preserves hsound hφ hpermits hexec :=
    L.preserves hsound (fun g hg => hφ (.inl g) hg) hpermits.1 hexec
  subject origin := (L.subject origin, K.subject origin)
  post origin a φ := L.post origin a (Policy.firsts φ)
  post_mono h hpost := L.post_mono (Policy.firsts_mono h) hpost
  mediated origin :=
    (Policy.Mediated.both (L.mediated origin) (K.mediated origin)).weaken fun _ _ _ h => h.1
  start_keeps hstart hsound := by
    obtain ⟨hsound', hkeeps⟩ := L.start_keeps hstart hsound
    exact ⟨hsound', fun _ _ hg => Holds.mono K hkeeps (K.start_keeps hsound hstart) hg⟩
  env_keeps henv hsound := by
    obtain ⟨hsound', hkeeps⟩ := L.env_keeps henv hsound
    exact ⟨hsound', fun _ _ hg => Holds.mono K hkeeps (K.env_keeps hsound henv) hg⟩
  crash_keeps := by
    intro s hsound
    obtain ⟨hsound', hkeeps⟩ := L.crash_keeps hsound
    exact ⟨hsound', fun _ _ hg => Holds.mono K hkeeps (K.crash_keeps hsound) hg⟩

end Layer

end LittleOrgans.Library
