import Mathlib.Logic.Basic

/-!
# Programs over operations

A program calls operations of a signature one after the other and goes on with
what each returned: a value or an error. `call` is one operation whose error ends
the program, `attempt` turns the error of a program into a value, `mapError`
replaces it. The tree keeps the whole program visible, so that another machine
can run it one operation at a time.

A `Monitor` follows a program from the outside: it has a state, says which
operations that state allows, and moves on with the result of each operation.
`Conforms` says that a program only calls what its monitor allows and ends with
`Q`. `conforms_call_bind` and `conforms_bind` are the rules by which a program
is checked.

`Runs` is the whole run of a program that nothing interrupts, on a state that
answers its operations; `runs_bind` takes a run of a sequence apart. `Calls` bounds
the operations of a program by a predicate; a program that only calls what a monitor
allows at no cost conforms to it (`conforms_of_calls`). `Keeps` is about programs that
return to a set of states of their monitor, whatever they did in between.
-/

set_option autoImplicit false

namespace LittleOrgans.Library

/-- Operations and the type of value each returns. -/
structure Signature where
  Op : Type
  Res : Op → Type

/-- Programs over a signature with errors `ε` and result `α`. -/
inductive Prog (S : Signature) (ε α : Type) where
  | ret (a : α)
  | fail (e : ε)
  | op (o : S.Op) (k : Except ε (S.Res o) → Prog S ε α)

namespace Prog

variable {S : Signature} {ε α β : Type}

/-- Runs `p`, then `f` on its result. -/
def andThen : Prog S ε α → (α → Prog S ε β) → Prog S ε β
  | .ret a, f => f a
  | .fail e, _ => .fail e
  | .op o k, f => .op o fun r => (k r).andThen f

instance : Monad (Prog S ε) where
  pure := .ret
  bind := andThen

/-- One operation; its error ends the program. -/
def call (o : S.Op) : Prog S ε (S.Res o) :=
  .op o fun
    | .ok a => .ret a
    | .error e => .fail e

/-- A computed result. -/
def ofExcept : Except ε α → Prog S ε α
  | .ok a => .ret a
  | .error e => .fail e

/-- Runs `p` and hands its error on as a value. -/
def attempt : Prog S ε α → Prog S ε (Except ε α)
  | .ret a => .ret (.ok a)
  | .fail e => .ret (.error e)
  | .op o k => .op o fun r => (k r).attempt

/-- Replaces the error of `p`. -/
def mapError (f : ε → ε) : Prog S ε α → Prog S ε α
  | .ret a => .ret a
  | .fail e => .fail (f e)
  | .op o k => .op o fun r => (k r).mapError f

/-- No operation is left. -/
def isDone : Prog S ε α → Bool
  | .ret _ => true
  | .fail _ => true
  | .op _ _ => false

/-- Runs `f` on each element, up to the first error. -/
def forEach (f : β → Prog S ε Unit) : List β → Prog S ε Unit
  | [] => .ret ()
  | b :: rest => (f b).andThen fun _ => forEach f rest

theorem andThen_assoc {γ : Type} (p : Prog S ε α) (f : α → Prog S ε β) (g : β → Prog S ε γ) :
    (p.andThen f).andThen g = p.andThen fun a => (f a).andThen g := by
  induction p with
  | ret a => rfl
  | fail e => rfl
  | op o k ih =>
      rw [andThen, andThen, andThen]
      congr 1
      funext r
      exact ih r

/-! ## Runs without interruption -/

/-- From `s`, the program runs to its end in one go with result `r` and leaves
`s'`; `step` says what each operation can answer and leave. -/
def Runs {σ : Type} (step : σ → (o : S.Op) → Except ε (S.Res o) → σ → Prop) :
    Prog S ε α → σ → Except ε α → σ → Prop
  | .ret a, s, r, s' => r = .ok a ∧ s' = s
  | .fail e, s, r, s' => r = .error e ∧ s' = s
  | .op o k, s, r, s' => ∃ answer s₁, step s o answer s₁ ∧ (k answer).Runs step s₁ r s'

section Runs

variable {σ : Type} {step : σ → (o : S.Op) → Except ε (S.Res o) → σ → Prop} {s s' : σ}

@[simp]
theorem runs_ret {a : α} {r : Except ε α} :
    (Prog.ret a : Prog S ε α).Runs step s r s' ↔ r = .ok a ∧ s' = s := Iff.rfl

@[simp]
theorem runs_pure {a : α} {r : Except ε α} :
    (pure a : Prog S ε α).Runs step s r s' ↔ r = .ok a ∧ s' = s := Iff.rfl

@[simp]
theorem runs_fail {e : ε} {r : Except ε α} :
    (Prog.fail e : Prog S ε α).Runs step s r s' ↔ r = .error e ∧ s' = s := Iff.rfl

/-- What is left to run after a first part: an error ends the program. -/
def RunsRest (step : σ → (o : S.Op) → Except ε (S.Res o) → σ → Prop) (f : α → Prog S ε β)
    (first : Except ε α) (s : σ) (r : Except ε β) (s' : σ) : Prop :=
  match first with
  | .ok a => (f a).Runs step s r s'
  | .error e => r = .error e ∧ s' = s

@[simp]
theorem runsRest_ok {f : α → Prog S ε β} {a : α} {r : Except ε β} :
    RunsRest step f (.ok a) s r s' ↔ (f a).Runs step s r s' := Iff.rfl

@[simp]
theorem runsRest_error {f : α → Prog S ε β} {e : ε} {r : Except ε β} :
    RunsRest step f (.error e) s r s' ↔ r = .error e ∧ s' = s := Iff.rfl

theorem runs_andThen {p : Prog S ε α} {f : α → Prog S ε β} {r : Except ε β} :
    (p.andThen f).Runs step s r s' ↔
      ∃ first s₁, p.Runs step s first s₁ ∧ RunsRest step f first s₁ r s' := by
  induction p generalizing s with
  | ret a =>
      constructor
      · intro hrest
        exact ⟨.ok a, s, ⟨rfl, rfl⟩, hrest⟩
      · rintro ⟨_, _, ⟨rfl, rfl⟩, hrest⟩
        exact hrest
  | fail e =>
      constructor
      · intro hrest
        exact ⟨.error e, s, ⟨rfl, rfl⟩, hrest⟩
      · rintro ⟨_, _, ⟨rfl, rfl⟩, hrest⟩
        exact hrest
  | op o k ih =>
      simp only [andThen, Runs, ih]
      constructor
      · rintro ⟨answer, s₁, hstep, first, s₂, hfirst, hrest⟩
        exact ⟨first, s₂, ⟨answer, s₁, hstep, hfirst⟩, hrest⟩
      · rintro ⟨first, s₂, ⟨answer, s₁, hstep, hfirst⟩, hrest⟩
        exact ⟨answer, s₁, hstep, first, s₂, hfirst, hrest⟩

/-- Sequencing. -/
theorem runs_bind {p : Prog S ε α} {f : α → Prog S ε β} {r : Except ε β} :
    (p >>= f).Runs step s r s' ↔
      ∃ first s₁, p.Runs step s first s₁ ∧ RunsRest step f first s₁ r s' :=
  runs_andThen

/-- A sequence succeeds when both its parts do. -/
theorem runs_bind_ok {p : Prog S ε α} {f : α → Prog S ε β} {b : β} :
    (p >>= f).Runs step s (.ok b) s' ↔
      ∃ a s₁, p.Runs step s (.ok a) s₁ ∧ (f a).Runs step s₁ (.ok b) s' := by
  rw [runs_bind]
  constructor
  · rintro ⟨first, s₁, hfirst, hrest⟩
    cases first with
    | ok a => exact ⟨a, s₁, hfirst, hrest⟩
    | error e => cases hrest.1
  · rintro ⟨a, s₁, hfirst, hrest⟩
    exact ⟨.ok a, s₁, hfirst, hrest⟩

@[simp]
theorem runs_call {o : S.Op} {r : Except ε (S.Res o)} :
    (Prog.call o).Runs step s r s' ↔ step s o r s' := by
  constructor
  · rintro ⟨answer, s₁, hstep, hrest⟩
    cases answer <;> obtain ⟨rfl, rfl⟩ := hrest <;> exact hstep
  · intro hstep
    refine ⟨r, s', hstep, ?_⟩
    cases r <;> exact ⟨rfl, rfl⟩

theorem runs_attempt {p : Prog S ε α} {r : Except ε (Except ε α)} :
    p.attempt.Runs step s r s' ↔ ∃ inner, r = .ok inner ∧ p.Runs step s inner s' := by
  induction p generalizing s with
  | ret a =>
      constructor
      · rintro ⟨rfl, rfl⟩
        exact ⟨.ok a, rfl, rfl, rfl⟩
      · rintro ⟨_, rfl, rfl, rfl⟩
        exact ⟨rfl, rfl⟩
  | fail e =>
      constructor
      · rintro ⟨rfl, rfl⟩
        exact ⟨.error e, rfl, rfl, rfl⟩
      · rintro ⟨_, rfl, rfl, rfl⟩
        exact ⟨rfl, rfl⟩
  | op o k ih =>
      simp only [attempt, Runs, ih]
      constructor
      · rintro ⟨answer, s₁, hstep, inner, rfl, hrun⟩
        exact ⟨inner, rfl, answer, s₁, hstep, hrun⟩
      · rintro ⟨inner, rfl, answer, s₁, hstep, hrun⟩
        exact ⟨answer, s₁, hstep, inner, rfl, hrun⟩

/-- A program whose error is replaced. -/
theorem runs_mapError {p : Prog S ε α} {g : ε → ε} {r : Except ε α} :
    (p.mapError g).Runs step s r s' ↔ ∃ inner, r = inner.mapError g ∧ p.Runs step s inner s' := by
  induction p generalizing s with
  | ret a =>
      constructor
      · rintro ⟨rfl, rfl⟩
        exact ⟨.ok a, rfl, rfl, rfl⟩
      · rintro ⟨_, rfl, rfl, rfl⟩
        exact ⟨rfl, rfl⟩
  | fail e =>
      constructor
      · rintro ⟨rfl, rfl⟩
        exact ⟨.error e, rfl, rfl, rfl⟩
      · rintro ⟨_, rfl, rfl, rfl⟩
        exact ⟨rfl, rfl⟩
  | op o k ih =>
      simp only [mapError, Runs, ih]
      constructor
      · rintro ⟨answer, s₁, hstep, inner, rfl, hrun⟩
        exact ⟨inner, rfl, answer, s₁, hstep, hrun⟩
      · rintro ⟨inner, rfl, answer, s₁, hstep, hrun⟩
        exact ⟨answer, s₁, hstep, inner, rfl, hrun⟩

/-- A program whose error is taken as a value, and what follows it. -/
theorem runs_attempt_bind {p : Prog S ε α} {f : Except ε α → Prog S ε β} {r : Except ε β} :
    (p.attempt >>= f).Runs step s r s' ↔
      ∃ first s₁, p.Runs step s first s₁ ∧ (f first).Runs step s₁ r s' := by
  rw [runs_bind]
  constructor
  · rintro ⟨_, s₁, hattempt, hrest⟩
    obtain ⟨first, rfl, hfirst⟩ := runs_attempt.mp hattempt
    exact ⟨first, s₁, hfirst, hrest⟩
  · rintro ⟨first, s₁, hfirst, hrest⟩
    exact ⟨.ok first, s₁, runs_attempt.mpr ⟨first, rfl, hfirst⟩, hrest⟩

/-- Where every operation is answered, every program runs to an end. -/
theorem exists_runs (hstep : ∀ s o, ∃ answer s', step s o answer s') (p : Prog S ε α) (s : σ) :
    ∃ r s', p.Runs step s r s' := by
  induction p generalizing s with
  | ret a => exact ⟨.ok a, s, rfl, rfl⟩
  | fail e => exact ⟨.error e, s, rfl, rfl⟩
  | op o k ih =>
      obtain ⟨answer, s₁, hanswer⟩ := hstep s o
      obtain ⟨r, s', hrest⟩ := ih answer s₁
      exact ⟨r, s', answer, s₁, hanswer, hrest⟩

/-- The same run, seen on other states. -/
theorem Runs.image {τ : Type} {step' : τ → (o : S.Op) → Except ε (S.Res o) → τ → Prop} {f : σ → τ}
    (hstep : ∀ s o answer s', step s o answer s' → step' (f s) o answer (f s'))
    {p : Prog S ε α} {r : Except ε α} (h : p.Runs step s r s') : p.Runs step' (f s) r (f s') := by
  induction p generalizing s with
  | ret a =>
      obtain ⟨rfl, rfl⟩ := h
      exact ⟨rfl, rfl⟩
  | fail e =>
      obtain ⟨rfl, rfl⟩ := h
      exact ⟨rfl, rfl⟩
  | op o k ih =>
      obtain ⟨answer, s₁, hanswer, hrest⟩ := h
      exact ⟨answer, f s₁, hstep s o answer s₁ hanswer, ih answer hrest⟩

@[simp]
theorem runs_ofExcept {result r : Except ε α} :
    (Prog.ofExcept result : Prog S ε α).Runs step s r s' ↔ r = result ∧ s' = s := by
  cases result <;> exact Iff.rfl

/-- Runs a program on a list of choices, one for each operation. -/
def replay {χ : Type} (exec : χ → (o : S.Op) → σ → Option (Except ε (S.Res o) × σ)) :
    Prog S ε α → List χ → σ → Option (Except ε α × σ)
  | .ret a, _, s => some (.ok a, s)
  | .fail e, _, s => some (.error e, s)
  | .op _ _, [], _ => none
  | .op o k, choice :: rest, s =>
      (exec choice o s).bind fun result => (k result.1).replay exec rest result.2

theorem runs_of_replay {χ : Type}
    {exec : χ → (o : S.Op) → σ → Option (Except ε (S.Res o) × σ)}
    (hexec : ∀ {choice o s r s'}, exec choice o s = some (r, s') → step s o r s')
    {p : Prog S ε α} {choices : List χ} {r : Except ε α}
    (h : p.replay exec choices s = some (r, s')) : p.Runs step s r s' := by
  induction p generalizing choices s with
  | ret a =>
      cases h
      exact ⟨rfl, rfl⟩
  | fail e =>
      cases h
      exact ⟨rfl, rfl⟩
  | op o k ih =>
      cases choices with
      | nil => cases h
      | cons choice rest =>
          obtain ⟨⟨answer, s₁⟩, hanswer, hrest⟩ := Option.bind_eq_some_iff.mp h
          exact ⟨answer, s₁, hexec hanswer, ih answer hrest⟩

end Runs

/-! ## Loops -/

/-- The rounds of a loop one after the other, up to the first that ends with an error. -/
def Rounds {σ : Type} (round : β → σ → Except ε Unit → σ → Prop) :
    List β → σ → Except ε Unit → σ → Prop
  | [], s, r, s' => r = .ok () ∧ s' = s
  | b :: rest, s, r, s' => ∃ first s₁, round b s first s₁ ∧
      match first with
      | .ok _ => Rounds round rest s₁ r s'
      | .error e => r = .error e ∧ s' = s₁

theorem Rounds.mono {σ : Type} {round round' : β → σ → Except ε Unit → σ → Prop}
    (hround : ∀ b s r s', round b s r s' → round' b s r s') {bs : List β} {s s' : σ}
    {r : Except ε Unit} (h : Rounds round bs s r s') : Rounds round' bs s r s' := by
  induction bs generalizing s with
  | nil => exact h
  | cons b rest ih =>
      obtain ⟨first, s₁, hfirst, hrest⟩ := h
      refine ⟨first, s₁, hround b s first s₁ hfirst, ?_⟩
      cases first with
      | ok u => exact ih hrest
      | error e => exact hrest

/-- A loop whose rounds all come to an end comes to an end. -/
theorem exists_rounds {σ : Type} {round : β → σ → Except ε Unit → σ → Prop}
    (hround : ∀ b s, ∃ r s', round b s r s') (bs : List β) (s : σ) :
    ∃ r s', Rounds round bs s r s' := by
  induction bs generalizing s with
  | nil => exact ⟨.ok (), s, rfl, rfl⟩
  | cons b rest ih =>
      obtain ⟨first, s₁, hfirst⟩ := hround b s
      cases first with
      | ok u =>
          obtain ⟨r, s', hrest⟩ := ih s₁
          exact ⟨r, s', .ok u, s₁, hfirst, hrest⟩
      | error e => exact ⟨.error e, s₁, .error e, s₁, hfirst, rfl, rfl⟩

theorem runs_forEach {σ : Type} {step : σ → (o : S.Op) → Except ε (S.Res o) → σ → Prop}
    {f : β → Prog S ε Unit} {bs : List β} {s s' : σ} {r : Except ε Unit} :
    (Prog.forEach f bs).Runs step s r s' ↔ Rounds (fun b => (f b).Runs step) bs s r s' := by
  induction bs generalizing s with
  | nil => exact Iff.rfl
  | cons b rest ih =>
      rw [forEach, runs_andThen, Rounds]
      refine exists_congr fun first => exists_congr fun s₁ => and_congr_right fun _ => ?_
      cases first with
      | ok u => exact ih
      | error e => exact Iff.rfl

/-! ## Operations a program may call -/

/-- Whatever its operations answer, the program only calls operations that satisfy `P`. -/
def Calls (P : S.Op → Prop) : Prog S ε α → Prop
  | .ret _ => True
  | .fail _ => True
  | .op o k => P o ∧ ∀ r, (k r).Calls P

section Calls

variable {P : S.Op → Prop}

theorem calls_call {o : S.Op} (h : P o) : (Prog.call o : Prog S ε (S.Res o)).Calls P := by
  refine ⟨h, fun r => ?_⟩
  cases r <;> trivial

theorem calls_andThen {p : Prog S ε α} {f : α → Prog S ε β} (hp : p.Calls P)
    (hf : ∀ a, (f a).Calls P) : (p.andThen f).Calls P := by
  induction p with
  | ret a => exact hf a
  | fail e => trivial
  | op o k ih => exact ⟨hp.1, fun r => ih r (hp.2 r)⟩

theorem calls_bind {p : Prog S ε α} {f : α → Prog S ε β} (hp : p.Calls P)
    (hf : ∀ a, (f a).Calls P) : (p >>= f).Calls P :=
  calls_andThen hp hf

theorem calls_attempt {p : Prog S ε α} (hp : p.Calls P) : p.attempt.Calls P := by
  induction p with
  | ret a => trivial
  | fail e => trivial
  | op o k ih => exact ⟨hp.1, fun r => ih r (hp.2 r)⟩

theorem calls_forEach {f : β → Prog S ε Unit} (hf : ∀ b, (f b).Calls P) (bs : List β) :
    (forEach f bs).Calls P := by
  induction bs with
  | nil => trivial
  | cons b rest ih => exact calls_andThen (hf b) fun _ => ih

theorem Calls.mono {P' : S.Op → Prop} {p : Prog S ε α} (hp : p.Calls P)
    (h : ∀ o, P o → P' o) : p.Calls P' := by
  induction p with
  | ret a => trivial
  | fail e => trivial
  | op o k ih => exact ⟨h o hp.1, fun r => ih r (hp.2 r)⟩

theorem calls_ofExcept (r : Except ε α) : (Prog.ofExcept r : Prog S ε α).Calls P := by
  cases r <;> trivial

/-- Where the operations it may call are answered, the program runs to an end. -/
theorem Calls.exists_runs {σ : Type} {step : σ → (o : S.Op) → Except ε (S.Res o) → σ → Prop}
    {p : Prog S ε α} (hp : p.Calls P) (hstep : ∀ o, P o → ∀ s, ∃ answer s', step s o answer s')
    (s : σ) : ∃ r s', p.Runs step s r s' := by
  induction p generalizing s with
  | ret a => exact ⟨.ok a, s, rfl, rfl⟩
  | fail e => exact ⟨.error e, s, rfl, rfl⟩
  | op o k ih =>
      obtain ⟨answer, s₁, hanswer⟩ := hstep o hp.1 s
      obtain ⟨r, s', hrest⟩ := ih answer (hp.2 answer) s₁
      exact ⟨r, s', answer, s₁, hanswer, hrest⟩

/-- What the operations of a program preserve, a whole run preserves. -/
theorem Calls.of_runs {σ : Type} {step : σ → (o : S.Op) → Except ε (S.Res o) → σ → Prop}
    {I : σ → Prop} {p : Prog S ε α} {s s' : σ} {r : Except ε α} (hp : p.Calls P)
    (hrun : p.Runs step s r s') (hstep : ∀ {s o r s'}, I s → P o → step s o r s' → I s')
    (hI : I s) : I s' := by
  induction p generalizing s with
  | ret a =>
      obtain ⟨-, rfl⟩ := hrun
      exact hI
  | fail e =>
      obtain ⟨-, rfl⟩ := hrun
      exact hI
  | op o k ih =>
      obtain ⟨answer, s₁, hanswer, hrest⟩ := hrun
      exact ih answer (hp.2 answer) hrest (hstep hI hp.1 hanswer)

end Calls

/-! ## Runs with their operations -/

/-- The steps of a run together with the operations that succeeded in it, the last one first. -/
def Recorded {σ : Type} (step : σ → (o : S.Op) → Except ε (S.Res o) → σ → Prop) (s : σ × List S.Op)
    (o : S.Op) (answer : Except ε (S.Res o)) (s' : σ × List S.Op) : Prop :=
  step s.1 o answer s'.1 ∧
    s'.2 = match answer with
      | .ok _ => o :: s.2
      | .error _ => s.2

end Prog

/-! ## Monitors -/

/-- A state that follows a program: which operations it allows, which results an
operation can have, and the state after one. -/
structure Monitor (S : Signature) (ε : Type) where
  State : Type
  allows : State → S.Op → Prop
  returns : (o : S.Op) → Except ε (S.Res o) → Prop
  next : State → (o : S.Op) → Except ε (S.Res o) → State

namespace Monitor

variable {S : Signature} {ε α β : Type}

/-- From state `φ`, the program calls only what the monitor allows, and `Q` holds
of its result and of the state it ends in. -/
def Conforms (M : Monitor S ε) :
    Prog S ε α → M.State → (Except ε α → M.State → Prop) → Prop
  | .ret a, φ, Q => Q (.ok a) φ
  | .fail e, φ, Q => Q (.error e) φ
  | .op o k, φ, Q => M.allows φ o ∧ ∀ r, M.returns o r → M.Conforms (k r) (M.next φ o r) Q

variable {M : Monitor S ε}

@[simp]
theorem conforms_ret {a : α} {φ : M.State} {Q : Except ε α → M.State → Prop} :
    M.Conforms (.ret a) φ Q ↔ Q (.ok a) φ := Iff.rfl

@[simp]
theorem conforms_pure {a : α} {φ : M.State} {Q : Except ε α → M.State → Prop} :
    M.Conforms (pure a) φ Q ↔ Q (.ok a) φ := Iff.rfl

@[simp]
theorem conforms_fail {e : ε} {φ : M.State} {Q : Except ε α → M.State → Prop} :
    M.Conforms (.fail e) φ Q ↔ Q (.error e) φ := Iff.rfl

theorem Conforms.mono {p : Prog S ε α} {φ : M.State} {Q Q' : Except ε α → M.State → Prop}
    (h : M.Conforms p φ Q) (hQ : ∀ r φ', Q r φ' → Q' r φ') : M.Conforms p φ Q' := by
  induction p generalizing φ with
  | ret a => exact hQ _ _ h
  | fail e => exact hQ _ _ h
  | op o k ih => exact ⟨h.1, fun r hr => ih r (h.2 r hr)⟩

/-- What is left to check after a first part: an error ends the program. -/
def Rest (M : Monitor S ε) (f : α → Prog S ε β) (Q : Except ε β → M.State → Prop)
    (r : Except ε α) (φ : M.State) : Prop :=
  match r with
  | .ok a => M.Conforms (f a) φ Q
  | .error e => Q (.error e) φ

@[simp]
theorem rest_ok {f : α → Prog S ε β} {Q : Except ε β → M.State → Prop} {a : α} {φ : M.State} :
    M.Rest f Q (.ok a) φ ↔ M.Conforms (f a) φ Q := Iff.rfl

@[simp]
theorem rest_error {f : α → Prog S ε β} {Q : Except ε β → M.State → Prop} {e : ε}
    {φ : M.State} : M.Rest f Q (.error e) φ ↔ Q (.error e) φ := Iff.rfl

/-- Sequencing. -/
theorem conforms_andThen {p : Prog S ε α} {f : α → Prog S ε β} {φ : M.State}
    {Q : Except ε β → M.State → Prop} :
    M.Conforms (p.andThen f) φ Q ↔ M.Conforms p φ (M.Rest f Q) := by
  induction p generalizing φ with
  | ret a => exact Iff.rfl
  | fail e => exact Iff.rfl
  | op o k ih =>
      refine and_congr Iff.rfl (forall_congr' fun r => forall_congr' fun _ => ?_)
      exact ih r

theorem conforms_bind {p : Prog S ε α} {f : α → Prog S ε β} {φ : M.State}
    {Q : Except ε β → M.State → Prop} :
    M.Conforms (p >>= f) φ Q ↔ M.Conforms p φ (M.Rest f Q) :=
  conforms_andThen

theorem conforms_call {o : S.Op} {φ : M.State} {Q : Except ε (S.Res o) → M.State → Prop} :
    M.Conforms (.call o) φ Q ↔ M.allows φ o ∧ ∀ r, M.returns o r → Q r (M.next φ o r) := by
  refine and_congr Iff.rfl (forall_congr' fun r => forall_congr' fun _ => ?_)
  cases r <;> exact Iff.rfl

/-- An operation and what follows it. -/
theorem conforms_call_bind {o : S.Op} {f : S.Res o → Prog S ε β} {φ : M.State}
    {Q : Except ε β → M.State → Prop} :
    M.Conforms (Prog.call o >>= f) φ Q ↔
      M.allows φ o ∧ (∀ a, M.returns o (.ok a) → M.Conforms (f a) (M.next φ o (.ok a)) Q) ∧
        ∀ e, M.returns o (.error e) → Q (.error e) (M.next φ o (.error e)) := by
  rw [conforms_bind, conforms_call]
  constructor
  · rintro ⟨hallows, h⟩
    exact ⟨hallows, fun a ha => h (.ok a) ha, fun e he => h (.error e) he⟩
  · rintro ⟨hallows, hok, herror⟩
    refine ⟨hallows, fun r hr => ?_⟩
    cases r with
    | ok a => exact hok a hr
    | error e => exact herror e hr

theorem conforms_attempt {p : Prog S ε α} {φ : M.State}
    {Q : Except ε (Except ε α) → M.State → Prop} :
    M.Conforms p.attempt φ Q ↔ M.Conforms p φ fun r φ' => Q (.ok r) φ' := by
  induction p generalizing φ with
  | ret a => exact Iff.rfl
  | fail e => exact Iff.rfl
  | op o k ih =>
      refine and_congr Iff.rfl (forall_congr' fun r => forall_congr' fun _ => ?_)
      exact ih r

/-- A program whose error is taken as a value, and what follows it. -/
theorem conforms_attempt_bind {p : Prog S ε α} {f : Except ε α → Prog S ε β} {φ : M.State}
    {Q : Except ε β → M.State → Prop} :
    M.Conforms (p.attempt >>= f) φ Q ↔ M.Conforms p φ fun r φ' => M.Conforms (f r) φ' Q := by
  rw [conforms_bind, conforms_attempt]
  exact Iff.rfl

theorem conforms_mapError {p : Prog S ε α} {g : ε → ε} {φ : M.State}
    {Q : Except ε α → M.State → Prop} :
    M.Conforms (p.mapError g) φ Q ↔ M.Conforms p φ fun r φ' => Q (r.mapError g) φ' := by
  induction p generalizing φ with
  | ret a => exact Iff.rfl
  | fail e => exact Iff.rfl
  | op o k ih =>
      refine and_congr Iff.rfl (forall_congr' fun r => forall_congr' fun _ => ?_)
      exact ih r

@[simp]
theorem conforms_ofExcept {r : Except ε α} {φ : M.State} {Q : Except ε α → M.State → Prop} :
    M.Conforms (.ofExcept r) φ Q ↔ Q r φ := by
  cases r <;> exact Iff.rfl

/-- Loop rule: `I` holds of what is left before each round, or the round that
failed has established `Q`. -/
theorem conforms_forEach {f : β → Prog S ε Unit} {bs : List β} {φ : M.State}
    {Q : Except ε Unit → M.State → Prop} (I : List β → M.State → Prop) (hφ : I bs φ)
    (hround : ∀ b rest φ, I (b :: rest) φ → M.Conforms (f b) φ fun r φ' =>
      match r with
      | .ok _ => I rest φ'
      | .error e => Q (.error e) φ')
    (hend : ∀ φ, I [] φ → Q (.ok ()) φ) : M.Conforms (.forEach f bs) φ Q := by
  induction bs generalizing φ with
  | nil => exact hend φ hφ
  | cons b rest ih =>
      rw [Prog.forEach, conforms_andThen]
      refine (hround b rest φ hφ).mono fun r φ' h => ?_
      cases r with
      | ok u => exact ih h
      | error e => exact h

/-- A program that only calls what the monitor allows without moving on. -/
theorem conforms_of_calls {P : S.Op → Prop} {p : Prog S ε α} {φ : M.State}
    {Q : Except ε α → M.State → Prop} (hp : p.Calls P) (hallows : ∀ o, P o → M.allows φ o)
    (hnext : ∀ o r, P o → M.next φ o r = φ) (hQ : ∀ r, Q r φ) : M.Conforms p φ Q := by
  induction p with
  | ret a => exact hQ (.ok a)
  | fail e => exact hQ (.error e)
  | op o k ih =>
      refine ⟨hallows o hp.1, fun r _ => ?_⟩
      rw [hnext o r hp.1]
      exact ih r (hp.2 r)

/-! ### Programs that return to where they began -/

/-- From every state that satisfies `R`, the program conforms and ends in such a state. -/
def Keeps (M : Monitor S ε) (R : M.State → Prop) (p : Prog S ε α) : Prop :=
  ∀ φ, R φ → M.Conforms p φ fun _ φ' => R φ'

section Keeps

variable {R : M.State → Prop}

theorem keeps_ret (a : α) : M.Keeps R (.ret a) := fun _ h => h

theorem keeps_fail (e : ε) : M.Keeps R (.fail e : Prog S ε α) := fun _ h => h

theorem keeps_ofExcept (r : Except ε α) : M.Keeps R (.ofExcept r) :=
  fun _ h => conforms_ofExcept.mpr h

theorem keeps_call {o : S.Op}
    (h : ∀ φ, R φ → M.allows φ o ∧ ∀ r, M.returns o r → R (M.next φ o r)) :
    M.Keeps R (.call o) :=
  fun φ hφ => conforms_call.mpr (h φ hφ)

/-- A part that returns to `R`, and what follows it. -/
theorem Keeps.conforms_bind {p : Prog S ε α} {f : α → Prog S ε β} {φ : M.State}
    {Q : Except ε β → M.State → Prop} (hp : M.Keeps R p) (h : R φ)
    (hf : ∀ a φ', R φ' → M.Conforms (f a) φ' Q) (herror : ∀ e φ', R φ' → Q (.error e) φ') :
    M.Conforms (p >>= f) φ Q := by
  refine Monitor.conforms_bind.mpr ((hp φ h).mono fun r φ' h' => ?_)
  cases r with
  | ok a => exact hf a φ' h'
  | error e => exact herror e φ' h'

theorem keeps_bind {p : Prog S ε α} {f : α → Prog S ε β} (hp : M.Keeps R p)
    (hf : ∀ a, M.Keeps R (f a)) : M.Keeps R (p >>= f) :=
  fun _ h => hp.conforms_bind h (fun a φ' h' => hf a φ' h') fun _ _ h' => h'

theorem keeps_attempt {p : Prog S ε α} (hp : M.Keeps R p) : M.Keeps R p.attempt :=
  fun φ h => conforms_attempt.mpr (hp φ h)

theorem keeps_mapError {p : Prog S ε α} (g : ε → ε) (hp : M.Keeps R p) :
    M.Keeps R (p.mapError g) :=
  fun φ h => conforms_mapError.mpr (hp φ h)

theorem keeps_forEach {f : β → Prog S ε Unit} (hf : ∀ b, M.Keeps R (f b)) (bs : List β) :
    M.Keeps R (.forEach f bs) := by
  induction bs with
  | nil => exact keeps_ret ()
  | cons b rest ih => exact keeps_bind (hf b) fun _ => ih

/-- A program whose operations all keep to `R`. -/
theorem keeps_of_calls {P : S.Op → Prop} {p : Prog S ε α} (hp : p.Calls P)
    (h : ∀ o, P o → ∀ φ, R φ → M.allows φ o ∧ ∀ r, R (M.next φ o r)) : M.Keeps R p := by
  intro φ hφ
  induction p generalizing φ with
  | ret a => exact hφ
  | fail e => exact hφ
  | op o k ih =>
      obtain ⟨hallows, hnext⟩ := h o hp.1 φ hφ
      exact ⟨hallows, fun r _ => ih r (hp.2 r) _ (hnext r)⟩

end Keeps

/-- What the operations that a monitor allows preserve, a whole run preserves. -/
theorem Conforms.of_runs {σ : Type} {step : σ → (o : S.Op) → Except ε (S.Res o) → σ → Prop}
    {I : M.State → σ → Prop} {p : Prog S ε α} {φ : M.State} {Q : Except ε α → M.State → Prop}
    {s s' : σ} {r : Except ε α} (h : M.Conforms p φ Q) (hrun : p.Runs step s r s')
    (hreturns : ∀ {s o r s'}, step s o r s' → M.returns o r)
    (hstep : ∀ {φ s o r s'}, I φ s → M.allows φ o → step s o r s' → I (M.next φ o r) s')
    (hI : I φ s) : ∃ φ', I φ' s' ∧ Q r φ' := by
  induction p generalizing φ s with
  | ret a =>
      obtain ⟨rfl, rfl⟩ := hrun
      exact ⟨φ, hI, h⟩
  | fail e =>
      obtain ⟨rfl, rfl⟩ := hrun
      exact ⟨φ, hI, h⟩
  | op o k ih =>
      obtain ⟨answer, s₁, hanswer, hrest⟩ := hrun
      exact ih answer (h.2 answer (hreturns hanswer)) hrest (hstep hI h.1 hanswer)

end Monitor

end LittleOrgans.Library
