import LittleOrgans.Library.Pool
import Mathlib.Data.Set.Basic

/-!
# Complete mediation

A policy says which operations a subject may call with the grants it holds, and which
grants the result of an operation earns. A program is mediated when it calls nothing that
the grants earned so far do not permit; `Mediated` is a triple over the grants held before
and after, and has one rule for each way to build a program. Grants are never lost, so a
rule needs no frame: what was held before is held after.

A `Registry` is a state that has grants on record and an invariant that permitted
operations keep; `Registry.of_replay` is a mediated program run on it in one go. A `Ledger`
is a machine whose shared state is a registry. Along every run of any number of mediated
programs, whatever a program is about to do is permitted by what the shared state has on
record for its subject (`Ledger.permitted_of_reaches`), and the invariant of the registry
holds (`Ledger.sound_of_reaches`).
-/

set_option autoImplicit false

namespace LittleOrgans.Library

variable {S : Signature} {ε α β : Type}

/-! ## Loops that collect -/

namespace Prog

/-- Runs `f` on each element and collects the results, up to the first error. -/
def traverse (f : β → Prog S ε α) : List β → Prog S ε (List α)
  | [] => .ret []
  | b :: rest => (f b).andThen fun a => (traverse f rest).andThen fun as => .ret (a :: as)

/-! ## Programs side by side -/

/-- The two programs, an operation of one of them at a time; `pick` says whose turn it is. -/
def interleave (pick : Prog S ε Bool) : Prog S ε α → Prog S ε β → Prog S ε (α × β)
  | .ret a, q => q.andThen fun b => .ret (a, b)
  | .fail e, _ => .fail e
  | .op o k, q => interleaveOp pick o k (fun r => interleave pick (k r)) q
where
  /-- The first program is at an operation; `first` is what is left behind it. -/
  interleaveOp (pick : Prog S ε Bool) (o : S.Op) (k : Except ε (S.Res o) → Prog S ε α)
      (first : Except ε (S.Res o) → Prog S ε β → Prog S ε (α × β)) :
      Prog S ε β → Prog S ε (α × β)
    | .ret b => (Prog.op o k).andThen fun a => .ret (a, b)
    | .fail e => .fail e
    | .op o' k' => pick.andThen fun isFirst =>
        if isFirst then .op o fun r => first r (.op o' k')
        else .op o' fun r => interleaveOp pick o k first (k' r)

/-- All the programs side by side, with their results in order. -/
def joinAll (pick : Prog S ε Bool) : List (Prog S ε α) → Prog S ε (List α)
  | [] => .ret []
  | p :: rest => (interleave pick p (joinAll pick rest)).andThen fun both =>
      .ret (both.1 :: both.2)

end Prog

/-! ## Policies -/

/-- Who may do what. More grants permit more. -/
structure Policy (S : Signature) (ε : Type) where
  Subject : Type
  Grant : Type
  permits : Subject → Set Grant → S.Op → Prop
  earns : Subject → (o : S.Op) → Except ε (S.Res o) → Set Grant
  returns : (o : S.Op) → Except ε (S.Res o) → Prop
  permits_mono : ∀ {subject φ ψ o}, φ ⊆ ψ → permits subject φ o → permits subject ψ o

namespace Policy

/-- Follows a program with its subject and the grants it holds. -/
abbrev monitor (P : Policy S ε) : Monitor S ε where
  State := P.Subject × Set P.Grant
  allows φ o := P.permits φ.1 φ.2 o
  returns := P.returns
  next φ o r := (φ.1, φ.2 ∪ P.earns φ.1 o r)

variable {P : Policy S ε} {subject : P.Subject} {φ : Set P.Grant}

/-- More grants keep what holds. -/
def Stable (Q : α → Set P.Grant → Prop) : Prop := ∀ a χ χ', χ ⊆ χ' → Q a χ → Q a χ'

/-- With the grants `φ`, the program only does what its subject may do; it keeps these
grants, and `Q` holds of its result and the grants it ends with. -/
def Mediated (P : Policy S ε) (subject : P.Subject) (φ : Set P.Grant) (p : Prog S ε α)
    (Q : α → Set P.Grant → Prop) : Prop :=
  P.monitor.Conforms p (subject, φ) fun r ψ =>
    ψ.1 = subject ∧ φ ⊆ ψ.2 ∧ ∀ a, r = .ok a → Q a ψ.2

/-- The subject does not change on the way, and grants are not lost. -/
theorem mediated_iff {p : Prog S ε α} {Q : α → Set P.Grant → Prop} :
    P.Mediated subject φ p Q ↔
      P.monitor.Conforms p (subject, φ) fun r ψ => ∀ a, r = .ok a → Q a ψ.2 := by
  constructor
  · intro h
    exact Monitor.Conforms.mono h fun r ψ hψ => hψ.2.2
  · intro h
    suffices hgrows : ∀ χ, χ ⊆ φ → P.monitor.Conforms p (subject, φ) fun r ψ =>
        ψ.1 = subject ∧ χ ⊆ ψ.2 ∧ ∀ a, r = .ok a → Q a ψ.2 from hgrows φ Set.Subset.rfl
    induction p generalizing φ with
    | ret a => exact fun χ hχ => ⟨rfl, hχ, h⟩
    | fail e => exact fun χ hχ => ⟨rfl, hχ, h⟩
    | op o k ih =>
        intro χ hχ
        refine ⟨h.1, fun r hr => ?_⟩
        exact ih r (h.2 r hr) χ (hχ.trans Set.subset_union_left)

/-- One operation of a program, and what follows it. -/
theorem mediated_op {o : S.Op} {k : Except ε (S.Res o) → Prog S ε α} {Q : α → Set P.Grant → Prop} :
    P.Mediated subject φ (.op o k) Q ↔ P.permits subject φ o ∧
      ∀ r, P.returns o r → P.Mediated subject (φ ∪ P.earns subject o r) (k r) Q := by
  rw [mediated_iff]
  refine and_congr Iff.rfl (forall_congr' fun r => forall_congr' fun _ => ?_)
  exact mediated_iff.symm

/-- What is mediated with some grants is mediated with more. -/
theorem Mediated.of_subset {p : Prog S ε α} {ψ : Set P.Grant} {Q : α → Set P.Grant → Prop}
    (hQ : Stable Q) (hp : P.Mediated subject φ p Q) (h : φ ⊆ ψ) :
    P.Mediated subject ψ p Q := by
  rw [mediated_iff] at hp ⊢
  induction p generalizing φ ψ with
  | ret a => exact fun b hb => hQ b φ ψ h (hp b hb)
  | fail e => exact fun b hb => by cases hb
  | op o k ih =>
      refine ⟨P.permits_mono h hp.1, fun r hr => ?_⟩
      exact ih r (hp.2 r hr) (Set.union_subset_union_left _ h)

/-! ### Rules -/

theorem mediated_ret {a : α} {Q : α → Set P.Grant → Prop} (h : Q a φ) :
    P.Mediated subject φ (.ret a) Q := by
  refine ⟨rfl, Set.Subset.rfl, fun b hb => ?_⟩
  cases hb
  exact h

theorem mediated_pure {a : α} {Q : α → Set P.Grant → Prop} (h : Q a φ) :
    P.Mediated subject φ (pure a) Q := mediated_ret h

theorem mediated_fail {e : ε} {Q : α → Set P.Grant → Prop} :
    P.Mediated subject φ (.fail e) Q := by
  refine ⟨rfl, Set.Subset.rfl, fun b hb => ?_⟩
  cases hb

theorem mediated_ofExcept {r : Except ε α} {Q : α → Set P.Grant → Prop}
    (h : ∀ a, r = .ok a → Q a φ) : P.Mediated subject φ (.ofExcept r) Q := by
  cases r with
  | ok a => exact mediated_ret (h a rfl)
  | error e => exact mediated_fail

/-- One operation: it has to be permitted, and its result adds what it earns. -/
theorem mediated_call {o : S.Op} {Q : S.Res o → Set P.Grant → Prop}
    (hpermits : P.permits subject φ o)
    (h : ∀ a, P.returns o (.ok a) → Q a (φ ∪ P.earns subject o (.ok a))) :
    P.Mediated subject φ (.call o) Q := by
  refine Monitor.conforms_call.mpr ⟨hpermits, fun r hr => ?_⟩
  refine ⟨rfl, Set.subset_union_left, fun a ha => ?_⟩
  subst ha
  exact h a hr

/-- Sequencing: the rest starts with what the first part has left. -/
theorem Mediated.bind {p : Prog S ε α} {f : α → Prog S ε β} {Q : α → Set P.Grant → Prop}
    {R : β → Set P.Grant → Prop} (hp : P.Mediated subject φ p Q)
    (hf : ∀ a χ, φ ⊆ χ → Q a χ → P.Mediated subject χ (f a) R) :
    P.Mediated subject φ (p >>= f) R := by
  refine Monitor.conforms_bind.mpr (hp.mono ?_)
  rintro r ⟨x, χ⟩ ⟨hx, hφ, hQ⟩
  cases hx
  cases r with
  | error e => exact ⟨rfl, hφ, fun b hb => by cases hb⟩
  | ok a =>
      refine (hf a χ hφ (hQ a rfl)).mono ?_
      rintro r' ⟨y, ψ⟩ ⟨hy, hχ, hR⟩
      exact ⟨hy, hφ.trans hχ, hR⟩

theorem Mediated.weaken {p : Prog S ε α} {Q R : α → Set P.Grant → Prop}
    (hp : P.Mediated subject φ p Q) (h : ∀ a χ, φ ⊆ χ → Q a χ → R a χ) :
    P.Mediated subject φ p R := by
  refine hp.mono ?_
  rintro r ⟨x, χ⟩ ⟨hx, hφ, hQ⟩
  exact ⟨hx, hφ, fun a ha => h a χ hφ (hQ a ha)⟩

theorem Mediated.attempt {p : Prog S ε α} {Q : α → Set P.Grant → Prop}
    (hp : P.Mediated subject φ p Q) :
    P.Mediated subject φ p.attempt fun r χ => ∀ a, r = .ok a → Q a χ := by
  refine Monitor.conforms_attempt.mpr (hp.mono ?_)
  rintro r ⟨x, χ⟩ ⟨hx, hφ, hQ⟩
  refine ⟨hx, hφ, fun r' hr' => ?_⟩
  cases hr'
  exact hQ

theorem Mediated.mapError {p : Prog S ε α} {Q : α → Set P.Grant → Prop} (g : ε → ε)
    (hp : P.Mediated subject φ p Q) : P.Mediated subject φ (p.mapError g) Q := by
  refine Monitor.conforms_mapError.mpr (hp.mono ?_)
  rintro r ⟨x, χ⟩ ⟨hx, hφ, hQ⟩
  refine ⟨hx, hφ, fun a ha => ?_⟩
  cases r with
  | ok b =>
      cases ha
      exact hQ _ rfl
  | error e => cases ha

/-- A program that is permitted all its operations from the start. -/
theorem mediated_of_calls {p : Prog S ε α} (hp : p.Calls (P.permits subject φ)) :
    P.Mediated subject φ p fun _ _ => True := by
  -- what is earned on the way is not needed, but carried along
  suffices h : ∀ χ, φ ⊆ χ →
      P.monitor.Conforms p (subject, χ) fun _ ψ => ψ.1 = subject ∧ φ ⊆ ψ.2 from
    (h φ Set.Subset.rfl).mono fun _ _ h => ⟨h.1, h.2, fun _ _ => trivial⟩
  induction p with
  | ret a => exact fun χ hχ => ⟨rfl, hχ⟩
  | fail e => exact fun χ hχ => ⟨rfl, hχ⟩
  | op o k ih =>
      intro χ hχ
      refine ⟨P.permits_mono hχ hp.1, fun r _ => ?_⟩
      exact ih r (hp.2 r) _ (hχ.trans Set.subset_union_left)

theorem mediated_forEach {f : β → Prog S ε Unit} {bs : List β}
    (hf : ∀ b ∈ bs, ∀ χ, φ ⊆ χ → P.Mediated subject χ (f b) fun _ _ => True) :
    P.Mediated subject φ (.forEach f bs) fun _ _ => True := by
  induction bs generalizing φ with
  | nil => exact mediated_ret trivial
  | cons b rest ih =>
      refine (hf b List.mem_cons_self φ Set.Subset.rfl).bind fun _ χ hχ _ => ?_
      exact ih fun b' hb' ψ hψ => hf b' (List.mem_cons_of_mem b hb') ψ (hχ.trans hψ)

/-- A loop that collects: what holds of each result once holds of all at the end. -/
theorem mediated_traverse {f : β → Prog S ε α} {bs : List β} {R : α → Set P.Grant → Prop}
    (hR : Stable R)
    (hf : ∀ b ∈ bs, ∀ χ, φ ⊆ χ → P.Mediated subject χ (f b) R) :
    P.Mediated subject φ (.traverse f bs) fun as χ => ∀ a ∈ as, R a χ := by
  induction bs generalizing φ with
  | nil => exact mediated_ret fun a ha => absurd ha List.not_mem_nil
  | cons b rest ih =>
      refine (hf b List.mem_cons_self φ Set.Subset.rfl).bind fun a χ hχ ha => ?_
      have hrest := ih (φ := χ) fun b' hb' ψ hψ =>
        hf b' (List.mem_cons_of_mem b hb') ψ (hχ.trans hψ)
      refine hrest.bind fun as ψ hψ has => mediated_ret ?_
      intro a' ha'
      rcases List.mem_cons.mp ha' with rfl | ha'
      · exact hR _ χ ψ hψ ha
      · exact has a' ha'

/-! ### Programs side by side -/

/-- Two programs that are mediated by themselves are mediated side by side. -/
theorem Mediated.interleave {pick : Prog S ε Bool} {p : Prog S ε α} {q : Prog S ε β}
    {Q : α → Set P.Grant → Prop} {R : β → Set P.Grant → Prop}
    (hpick : ∀ χ, P.Mediated subject χ pick fun _ _ => True)
    (hQ : Stable Q) (hR : Stable R)
    (hp : P.Mediated subject φ p Q) (hq : P.Mediated subject φ q R) :
    P.Mediated subject φ (.interleave pick p q) fun both χ => Q both.1 χ ∧ R both.2 χ := by
  -- each program has earned what it holds by itself, and both act with the union
  suffices hgo : ∀ {φ₁ φ₂ φ : Set P.Grant}, φ₁ ⊆ φ → φ₂ ⊆ φ → P.Mediated subject φ₁ p Q →
      P.Mediated subject φ₂ q R →
      P.Mediated subject φ (.interleave pick p q) fun both χ => Q both.1 χ ∧ R both.2 χ from
    hgo Set.Subset.rfl Set.Subset.rfl hp hq
  clear hp hq
  induction p generalizing q with
  | ret a =>
      intro φ₁ φ₂ φ h₁ h₂ hp hq
      refine Mediated.bind (hq.of_subset hR h₂) fun b χ hχ hb => mediated_ret ?_
      exact ⟨hQ a φ₁ χ (h₁.trans hχ) (mediated_iff.mp hp a rfl), hb⟩
  | fail e => exact fun _ _ _ _ => mediated_fail
  | op o k ihp =>
      induction q with
      | ret b =>
          intro φ₁ φ₂ φ h₁ h₂ hp hq
          refine Mediated.bind (hp.of_subset hQ h₁) fun a χ hχ ha => mediated_ret ?_
          exact ⟨ha, hR b φ₂ χ (h₂.trans hχ) (mediated_iff.mp hq b rfl)⟩
      | fail e => exact fun _ _ _ _ => mediated_fail
      | op o' k' ihq =>
          intro φ₁ φ₂ φ h₁ h₂ hp hq
          refine Mediated.bind (hpick φ) fun isFirst χ hχ _ => ?_
          cases isFirst with
          | true =>
              obtain ⟨hpermits, hgoes⟩ := mediated_op.mp hp
              refine mediated_op.mpr ⟨P.permits_mono (h₁.trans hχ) hpermits, fun r hr => ?_⟩
              refine ihp r (Set.union_subset_union_left _ (h₁.trans hχ)) ?_ (hgoes r hr) hq
              exact (h₂.trans hχ).trans Set.subset_union_left
          | false =>
              obtain ⟨hpermits, hgoes⟩ := mediated_op.mp hq
              refine mediated_op.mpr ⟨P.permits_mono (h₂.trans hχ) hpermits, fun r hr => ?_⟩
              refine ihq r ?_ (Set.union_subset_union_left _ (h₂.trans hχ)) hp (hgoes r hr)
              exact (h₁.trans hχ).trans Set.subset_union_left

theorem mediated_joinAll {pick : Prog S ε Bool} {ps : List (Prog S ε α)}
    {R : α → Set P.Grant → Prop} (hpick : ∀ χ, P.Mediated subject χ pick fun _ _ => True)
    (hR : Stable R) (hps : ∀ p ∈ ps, P.Mediated subject φ p R) :
    P.Mediated subject φ (.joinAll pick ps) fun as χ => ∀ a ∈ as, R a χ := by
  induction ps with
  | nil => exact mediated_ret fun a ha => absurd ha List.not_mem_nil
  | cons p rest ih =>
      have hrest := ih fun p' hp' => hps p' (List.mem_cons_of_mem p hp')
      have hstable : Stable fun (as : List α) χ => ∀ a ∈ as, R a χ :=
        fun as χ χ' hχ has a ha => hR a χ χ' hχ (has a ha)
      have hboth := Mediated.interleave hpick hR hstable (hps p List.mem_cons_self) hrest
      refine hboth.bind fun both χ hχ hboth => mediated_ret fun a ha => ?_
      rcases List.mem_cons.mp ha with rfl | ha
      · exact hboth.1
      · exact hboth.2 a ha

end Policy

/-! ## Grants on record -/

/-- A state with grants on record. `sound` is an invariant that permitted operations keep. -/
structure Registry (P : Policy S ε) {χ σ : Type}
    (exec : χ → (o : S.Op) → σ → Option (Except ε (S.Res o) × σ)) where
  holds : σ → P.Subject → P.Grant → Prop
  sound : σ → Prop
  returns : ∀ {choice o s r s'}, exec choice o s = some (r, s') → P.returns o r
  keeps : ∀ {choice o s r s' x g}, exec choice o s = some (r, s') → holds s x g → holds s' x g
  records : ∀ {choice o s r s' x g} {φ : Set P.Grant}, sound s → (∀ g ∈ φ, holds s x g) →
    P.permits x φ o → exec choice o s = some (r, s') → g ∈ P.earns x o r → holds s' x g
  preserves : ∀ {choice o s r s' x} {φ : Set P.Grant}, sound s → (∀ g ∈ φ, holds s x g) →
    P.permits x φ o → exec choice o s = some (r, s') → sound s'

namespace Registry

variable {P : Policy S ε} {χ σ : Type}
  {exec : χ → (o : S.Op) → σ → Option (Except ε (S.Res o) × σ)} (R : Registry P exec)

/-- What the state has on record for a subject. -/
def record (s : σ) (x : P.Subject) : Set P.Grant := {g | R.holds s x g}

variable {R}

/-- Nothing on record is lost in a run. -/
theorem keeps_replay {p : Prog S ε α} {choices : List χ} {s s' : σ} {r : Except ε α}
    (h : p.replay exec choices s = some (r, s')) {x : P.Subject} {g : P.Grant}
    (hg : R.holds s x g) : R.holds s' x g := by
  induction p generalizing choices s with
  | ret a =>
      cases h
      exact hg
  | fail e =>
      cases h
      exact hg
  | op o k ih =>
      cases choices with
      | nil => cases h
      | cons choice rest =>
          obtain ⟨⟨answer, s₁⟩, hanswer, hrest⟩ := Option.bind_eq_some_iff.mp h
          exact ih answer hrest (R.keeps hanswer hg)

/-- A mediated program in one go. An invariant of the permitted operations of its subject
holds behind it, and what the program ends with is on record. -/
theorem of_replay {p : Prog S ε α} {choices : List χ} {s s' : σ} {r : Except ε α}
    (h : p.replay exec choices s = some (r, s')) {x : P.Subject} {φ : Set P.Grant}
    {Q : α → Set P.Grant → Prop} (hp : P.Mediated x φ p Q) (hsound : R.sound s)
    (hφ : φ ⊆ R.record s x) {I : σ → Prop}
    (hstep : ∀ {choice o s r s'} {ψ : Set P.Grant}, R.sound s → ψ ⊆ R.record s x →
      P.permits x ψ o → exec choice o s = some (r, s') → I s → I s') (hI : I s) :
    I s' ∧ R.sound s' ∧ ∃ ψ, ψ ⊆ R.record s' x ∧ ∀ a, r = .ok a → Q a ψ := by
  -- the program acts for `x` all along, with the grants it has earned so far
  suffices hrun : ∀ {p : Prog S ε α} {choices s} {ψ₀ : Set P.Grant},
      p.replay exec choices s = some (r, s') → R.sound s → ψ₀ ⊆ R.record s x → I s →
      P.monitor.Conforms p (x, ψ₀) (fun r ψ => ψ.1 = x ∧ φ ⊆ ψ.2 ∧ ∀ a, r = .ok a → Q a ψ.2) →
      I s' ∧ R.sound s' ∧ ∃ ψ, ψ ⊆ R.record s' x ∧ ∀ a, r = .ok a → Q a ψ from
    hrun h hsound hφ hI hp
  intro p
  induction p with
  | ret a =>
      intro choices s ψ₀ hreplay hsound₀ hψ hI₀ hconforms
      cases hreplay
      exact ⟨hI₀, hsound₀, ψ₀, hψ, hconforms.2.2⟩
  | fail e =>
      intro choices s ψ₀ hreplay hsound₀ hψ hI₀ hconforms
      cases hreplay
      exact ⟨hI₀, hsound₀, ψ₀, hψ, hconforms.2.2⟩
  | op o k ih =>
      intro choices s ψ₀ hreplay hsound₀ hψ hI₀ hconforms
      cases choices with
      | nil => cases hreplay
      | cons choice rest =>
          obtain ⟨⟨answer, s₁⟩, hanswer, hrest⟩ := Option.bind_eq_some_iff.mp hreplay
          obtain ⟨hpermits, hgoes⟩ := hconforms
          refine ih answer hrest (R.preserves hsound₀ hψ hpermits hanswer) ?_
            (hstep hsound₀ hψ hpermits hanswer hI₀) (hgoes answer (R.returns hanswer))
          refine Set.union_subset (fun g hg => R.keeps hanswer (hψ hg)) fun g hg => ?_
          exact R.records hsound₀ hψ hpermits hanswer hg

end Registry

/-- A machine whose shared state is a registry and whose programs are mediated. `post` is what
holds of the result of a program, and more grants keep it. -/
structure Ledger (P : Policy S ε) (M : Machine S ε) extends Registry P M.exec where
  subject : M.Origin → P.Subject
  post : M.Origin → M.Result → Set P.Grant → Prop
  post_mono : ∀ {origin a φ ψ}, φ ⊆ ψ → post origin a φ → post origin a ψ
  mediated : ∀ origin, P.Mediated (subject origin) ∅ (M.program origin) (post origin)
  start_keeps : ∀ {origin s s'}, M.start origin s = some s' → sound s →
    sound s' ∧ ∀ x g, holds s x g → holds s' x g
  env_keeps : ∀ {event s s'}, M.env event s = some s' → sound s →
    sound s' ∧ ∀ x g, holds s x g → holds s' x g
  crash_keeps : ∀ {s}, sound s → sound (M.crash s) ∧ ∀ x g, holds s x g → holds (M.crash s) x g

namespace Ledger

variable {P : Policy S ε} {M : Machine S ε} (L : Ledger P M)

/-- The programs of the machine, followed by the policy. -/
abbrev watch : Watch M where
  monitor := P.monitor
  first origin := (L.subject origin, ∅)
  post origin r ψ := ψ.1 = L.subject origin ∧ ∅ ⊆ ψ.2 ∧ ∀ a, r = .ok a → L.post origin a ψ.2
  conforms := L.mediated
  returns := L.returns

/-- Each thread acts for the subject of its origin and holds what is on record for it. -/
def Recorded (s : M.Shared) (minds : Nat → Option (M.Origin × L.watch.monitor.State)) : Prop :=
  L.sound s ∧ ∀ t origin φ, minds t = some (origin, φ) →
    φ.1 = L.subject origin ∧ φ.2 ⊆ L.record s φ.1

theorem invariant_recorded : Pool.Invariant L.watch (.none L.watch) L.Recorded where
  op := by
    rintro s minds t origin ⟨x, φ⟩ choice o r s' ⟨hsound, hminds⟩ hmind hallows - hexec
    obtain ⟨hx, hφ⟩ := hminds t origin (x, φ) hmind
    refine ⟨L.preserves hsound hφ hallows hexec, fun t' origin' φ' hmind' => ?_⟩
    rcases Pool.of_update hmind' with ⟨rfl, heq⟩ | ⟨-, hother⟩
    · cases heq
      refine ⟨hx, Set.union_subset (fun g hg => ?_) fun g hg => ?_⟩
      · exact L.keeps hexec (hφ hg)
      · exact L.records hsound hφ hallows hexec hg
    · obtain ⟨hx', hφ'⟩ := hminds t' origin' φ' hother
      exact ⟨hx', fun g hg => L.keeps hexec (hφ' hg)⟩
  start := by
    rintro s minds t origin s' ⟨hsound, hminds⟩ - hstart -
    obtain ⟨hsound', hkeeps⟩ := L.start_keeps hstart hsound
    refine ⟨hsound', fun t' origin' φ' hmind' => ?_⟩
    rcases Pool.of_update hmind' with ⟨rfl, heq⟩ | ⟨-, hother⟩
    · cases heq
      exact ⟨rfl, Set.empty_subset _⟩
    · obtain ⟨hx', hφ'⟩ := hminds t' origin' φ' hother
      exact ⟨hx', fun g hg => hkeeps _ g (hφ' hg)⟩
  env := by
    rintro s minds event s' ⟨hsound, hminds⟩ - henv
    obtain ⟨hsound', hkeeps⟩ := L.env_keeps henv hsound
    refine ⟨hsound', fun t origin φ hmind => ?_⟩
    obtain ⟨hx, hφ⟩ := hminds t origin φ hmind
    exact ⟨hx, fun g hg => hkeeps _ g (hφ hg)⟩
  crash := by
    rintro s minds ⟨hsound, -⟩ -
    refine ⟨(L.crash_keeps hsound).1, fun t origin φ hmind => ?_⟩
    cases hmind

variable {L}

/-- In every reachable state, what the threads hold is on record. -/
theorem holds_of_reaches {s : M.Shared} {c : Pool L.watch} (hsound : L.sound s)
    (h : Pool.Reaches (.none L.watch) (Pool.initial L.watch s) c) : c.Holds L.Recorded :=
  h.invariant L.invariant_recorded
    (Pool.holds_initial ⟨hsound, fun _ _ _ hmind => by cases hmind⟩)

theorem sound_of_reaches {s : M.Shared} {c : Pool L.watch} (hsound : L.sound s)
    (h : Pool.Reaches (.none L.watch) (Pool.initial L.watch s) c) : L.sound c.shared :=
  (holds_of_reaches hsound h).2.2.1

/-- **Mediation.** Whatever a thread is about to do is permitted by what its own operations
have earned, and that is on record for its subject. -/
theorem permitted_of_reaches {s : M.Shared} {c : Pool L.watch} (hsound : L.sound s)
    (h : Pool.Reaches (.none L.watch) (Pool.initial L.watch s) c) {t : Nat}
    {thread : Thread L.watch} (hthread : c.threads t = some thread) {o : S.Op}
    {k : Except ε (S.Res o) → Prog S ε M.Result} (hprog : thread.prog = .op o k) :
    P.permits (L.subject thread.origin) thread.know.2 o ∧
      thread.know.2 ⊆ L.record c.shared (L.subject thread.origin) := by
  obtain ⟨hconforming, -, -, hminds⟩ := holds_of_reaches hsound h
  have hmind : c.minds t = some (thread.origin, thread.know) := by
    rw [Pool.minds, hthread, Option.map_some]
  obtain ⟨hx, hφ⟩ := hminds t thread.origin thread.know hmind
  have hconforms := hconforming t thread hthread
  rw [hprog] at hconforms
  have hallows : P.permits thread.know.1 thread.know.2 o := hconforms.1
  rw [hx] at hallows hφ
  exact ⟨hallows, hφ⟩

/-- A program that has ended with a result satisfies what is required of it, by what is on
record for its subject. -/
theorem post_of_reaches {s : M.Shared} {c : Pool L.watch} (hsound : L.sound s)
    (h : Pool.Reaches (.none L.watch) (Pool.initial L.watch s) c) {t : Nat}
    {thread : Thread L.watch} (hthread : c.threads t = some thread) {a : M.Result}
    (hprog : thread.prog = .ret a) :
    L.post thread.origin a (L.record c.shared (L.subject thread.origin)) := by
  obtain ⟨hconforming, -, -, hminds⟩ := holds_of_reaches hsound h
  have hmind : c.minds t = some (thread.origin, thread.know) := by
    rw [Pool.minds, hthread, Option.map_some]
  obtain ⟨hx, hφ⟩ := hminds t thread.origin thread.know hmind
  obtain ⟨-, -, hpost⟩ := hconforming.post_of_ret hthread hprog
  rw [hx] at hφ
  exact L.post_mono hφ (hpost a rfl)

end Ledger

end LittleOrgans.Library
