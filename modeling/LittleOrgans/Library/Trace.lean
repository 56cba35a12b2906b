import LittleOrgans.Library.Program

/-!
# Traces of programs

`Traces` lists what a program calls and what it is answered, for every answer there can
be: an environment is a condition on the trace. `traces_bind` takes the trace of a
sequence apart.
-/

set_option autoImplicit false

namespace LittleOrgans.Library

/-- An operation that was called, and its answer. -/
structure Event (S : Signature) (ε : Type) where
  op : S.Op
  answer : Except ε (S.Res op)

namespace Prog

variable {S : Signature} {ε α β : Type}

/-- The program runs to its end with result `r`, and these are its operations. -/
def Traces : Prog S ε α → List (Event S ε) → Except ε α → Prop
  | .ret a, t, r => t = [] ∧ r = .ok a
  | .fail e, t, r => t = [] ∧ r = .error e
  | .op o k, t, r => ∃ answer t', t = ⟨o, answer⟩ :: t' ∧ (k answer).Traces t' r

/-- The answers of a trace are those of an environment that has seen the events before. -/
def AnsweredBy (answers : List (Event S ε) → (o : S.Op) → Except ε (S.Res o))
    (seen : List (Event S ε)) : List (Event S ε) → Prop
  | [] => True
  | e :: t => e.answer = answers seen e.op ∧ AnsweredBy answers (seen ++ [e]) t

/-- Every environment runs a program to its end. -/
theorem exists_traces (answers : List (Event S ε) → (o : S.Op) → Except ε (S.Res o))
    (p : Prog S ε α) (seen : List (Event S ε)) :
    ∃ t r, p.Traces t r ∧ AnsweredBy answers seen t := by
  induction p generalizing seen with
  | ret a => exact ⟨[], .ok a, ⟨rfl, rfl⟩, trivial⟩
  | fail e => exact ⟨[], .error e, ⟨rfl, rfl⟩, trivial⟩
  | op o k ih =>
      obtain ⟨t, r, htrace, hanswers⟩ := ih (answers seen o) (seen ++ [⟨o, answers seen o⟩])
      exact ⟨⟨o, answers seen o⟩ :: t, r, ⟨_, t, rfl, htrace⟩, rfl, hanswers⟩

/-- The trace of what is left after a first part: an error ends the program. -/
def TracesRest (f : α → Prog S ε β) (first : Except ε α) (t : List (Event S ε))
    (r : Except ε β) : Prop :=
  match first with
  | .ok a => (f a).Traces t r
  | .error e => t = [] ∧ r = .error e

@[simp]
theorem tracesRest_ok {f : α → Prog S ε β} {a : α} {t : List (Event S ε)} {r : Except ε β} :
    TracesRest f (.ok a) t r ↔ (f a).Traces t r := Iff.rfl

/-- Sequencing. -/
theorem traces_bind {p : Prog S ε α} {f : α → Prog S ε β} {t : List (Event S ε)}
    {r : Except ε β} :
    (p >>= f).Traces t r ↔
      ∃ t₁ t₂ first, t = t₁ ++ t₂ ∧ p.Traces t₁ first ∧ TracesRest f first t₂ r := by
  show (p.andThen f).Traces t r ↔ _
  induction p generalizing t with
  | ret a =>
      constructor
      · intro hrest
        exact ⟨[], t, .ok a, rfl, ⟨rfl, rfl⟩, hrest⟩
      · rintro ⟨_, _, _, rfl, ⟨rfl, rfl⟩, hrest⟩
        exact hrest
  | fail e =>
      constructor
      · intro hrest
        exact ⟨[], t, .error e, rfl, ⟨rfl, rfl⟩, hrest⟩
      · rintro ⟨_, _, _, rfl, ⟨rfl, rfl⟩, hrest⟩
        exact hrest
  | op o k ih =>
      simp only [andThen, Traces, ih]
      constructor
      · rintro ⟨answer, _, rfl, t₁, t₂, first, rfl, hfirst, hrest⟩
        exact ⟨_, t₂, first, rfl, ⟨answer, t₁, rfl, hfirst⟩, hrest⟩
      · rintro ⟨_, t₂, first, rfl, ⟨answer, t₁, rfl, hfirst⟩, hrest⟩
        exact ⟨answer, t₁ ++ t₂, rfl, t₁, t₂, first, rfl, hfirst, hrest⟩

@[simp]
theorem traces_call {o : S.Op} {t : List (Event S ε)} {r : Except ε (S.Res o)} :
    (Prog.call o).Traces t r ↔ t = [⟨o, r⟩] := by
  constructor
  · rintro ⟨answer, _, rfl, hrest⟩
    cases answer <;> obtain ⟨rfl, rfl⟩ := hrest <;> rfl
  · rintro rfl
    refine ⟨r, [], rfl, ?_⟩
    cases r <;> exact ⟨rfl, rfl⟩

/-- One operation, and what follows it. -/
theorem traces_call_bind {o : S.Op} {f : S.Res o → Prog S ε β} {t : List (Event S ε)}
    {r : Except ε β} :
    (Prog.call o >>= f).Traces t r ↔
      ∃ answer t', t = ⟨o, answer⟩ :: t' ∧ TracesRest f answer t' r := by
  rw [traces_bind]
  constructor
  · rintro ⟨_, t₂, answer, rfl, hcall, hrest⟩
    obtain rfl := traces_call.mp hcall
    exact ⟨answer, t₂, rfl, hrest⟩
  · rintro ⟨answer, t', rfl, hrest⟩
    exact ⟨[⟨o, answer⟩], t', answer, rfl, traces_call.mpr rfl, hrest⟩

theorem traces_attempt {p : Prog S ε α} {t : List (Event S ε)} {r : Except ε (Except ε α)} :
    p.attempt.Traces t r ↔ ∃ inner, r = .ok inner ∧ p.Traces t inner := by
  induction p generalizing t with
  | ret a =>
      constructor
      · rintro ⟨rfl, rfl⟩
        exact ⟨.ok a, rfl, rfl, rfl⟩
      · rintro ⟨_, rfl, rfl, rfl⟩
        exact ⟨rfl, rfl⟩
  | fail e =>
      constructor
      · rintro ⟨rfl, rfl⟩
        exact ⟨.error e, rfl, rfl, rfl⟩
      · rintro ⟨_, rfl, rfl, rfl⟩
        exact ⟨rfl, rfl⟩
  | op o k ih =>
      simp only [attempt, Traces, ih]
      constructor
      · rintro ⟨answer, t', rfl, inner, rfl, hrest⟩
        exact ⟨inner, rfl, answer, t', rfl, hrest⟩
      · rintro ⟨inner, rfl, answer, t', rfl, hrest⟩
        exact ⟨answer, t', rfl, inner, rfl, hrest⟩

/-- A program whose error is taken as a value, and what follows it. -/
theorem traces_attempt_bind {p : Prog S ε α} {f : Except ε α → Prog S ε β}
    {t : List (Event S ε)} {r : Except ε β} :
    (p.attempt >>= f).Traces t r ↔
      ∃ t₁ t₂ first, t = t₁ ++ t₂ ∧ p.Traces t₁ first ∧ (f first).Traces t₂ r := by
  rw [traces_bind]
  constructor
  · rintro ⟨t₁, t₂, _, rfl, hattempt, hrest⟩
    obtain ⟨first, rfl, hfirst⟩ := traces_attempt.mp hattempt
    exact ⟨t₁, t₂, first, rfl, hfirst, hrest⟩
  · rintro ⟨t₁, t₂, first, rfl, hfirst, hrest⟩
    exact ⟨t₁, t₂, .ok first, rfl, traces_attempt.mpr ⟨first, rfl, hfirst⟩, hrest⟩

/-- The operations of a trace are among those the program may call. -/
theorem Calls.of_traces {P : S.Op → Prop} {p : Prog S ε α} {t : List (Event S ε)}
    {r : Except ε α} (hp : p.Calls P) (h : p.Traces t r) : ∀ e ∈ t, P e.op := by
  induction p generalizing t with
  | ret a =>
      obtain ⟨rfl, -⟩ := h
      exact fun e he => absurd he List.not_mem_nil
  | fail e =>
      obtain ⟨rfl, -⟩ := h
      exact fun e he => absurd he List.not_mem_nil
  | op o k ih =>
      obtain ⟨answer, t', rfl, hrest⟩ := h
      intro e he
      rcases List.mem_cons.mp he with rfl | he
      · exact hp.1
      · exact ih answer (hp.2 answer) hrest e he

end Prog

end LittleOrgans.Library
