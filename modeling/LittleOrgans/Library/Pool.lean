import LittleOrgans.Library.Program
import Mathlib.Logic.Function.Basic
import Mathlib.Logic.Relation

/-!
# Pools of concurrent programs

A machine says what each operation does to a shared state, what can start a
program, and what the environment can do by itself. A pool interleaves any number
of such programs, one operation at a time, with starts, environment steps and
crashes; a crash ends every program. Each program is watched by a monitor
(`Watch`), whose state is carried along.

`Reaches.invariant` is the induction rule of the library: to show an invariant of
the shared state and the monitor states along all runs, it is enough to look at
each single operation that a monitor allows, at each start, at each environment
step and at a crash. The programs themselves do not occur in these obligations:
they were checked once, against the monitor.
-/

set_option autoImplicit false

namespace LittleOrgans.Library

/-- A shared state, the operations on it, and what happens around the programs. -/
structure Machine (S : Signature) (ε : Type) where
  Shared : Type
  /-- What the environment decides about one operation. -/
  Choice : Type
  /-- What a program was started for. -/
  Origin : Type
  Env : Type
  Result : Type
  exec : Choice → (o : S.Op) → Shared → Option (Except ε (S.Res o) × Shared)
  start : Origin → Shared → Option Shared
  program : Origin → Prog S ε Result
  env : Env → Shared → Option Shared
  crash : Shared → Shared

/-- A monitor for the programs of a machine: where it begins, what holds at the
end of each program, and the proof that every program conforms. -/
structure Watch {S : Signature} {ε : Type} (M : Machine S ε) where
  monitor : Monitor S ε
  first : M.Origin → monitor.State
  post : M.Origin → Except ε M.Result → monitor.State → Prop
  conforms : ∀ origin, monitor.Conforms (M.program origin) (first origin) (post origin)
  returns : ∀ {choice o s r s'}, M.exec choice o s = some (r, s') → monitor.returns o r

variable {S : Signature} {ε : Type} {M : Machine S ε}

/-- The monitor to which everything is allowed. -/
abbrev Monitor.free (S : Signature) (ε : Type) : Monitor S ε where
  State := Unit
  allows _ _ := True
  returns _ _ := True
  next _ _ _ := ()

theorem Monitor.conforms_free {α : Type} (p : Prog S ε α) :
    (Monitor.free S ε).Conforms p () fun _ _ => True := by
  induction p with
  | ret a => trivial
  | fail e => trivial
  | op o k ih => exact ⟨trivial, fun r _ => ih r⟩

/-- Programs of which nothing needs to be known. -/
abbrev Watch.free (M : Machine S ε) : Watch M where
  monitor := .free S ε
  first _ := ()
  post _ _ _ := True
  conforms origin := Monitor.conforms_free (M.program origin)
  returns _ := trivial

/-- A program that has been started: its origin, what is left of it, and the
state of its monitor. -/
structure Thread (W : Watch M) where
  origin : M.Origin
  prog : Prog S ε M.Result
  know : W.monitor.State

/-- No operation of this thread is left. -/
def Thread.isDone {W : Watch M} (thread : Thread W) : Bool := thread.prog.isDone

/-- The shared state, the started programs, and the next free thread id. -/
structure Pool (W : Watch M) where
  shared : M.Shared
  threads : Nat → Option (Thread W)
  fresh : Nat

/-- One step of a pool. -/
inductive Label (M : Machine S ε) where
  | run (thread : Nat) (choice : M.Choice)
  | start (origin : M.Origin)
  | env (event : M.Env)
  | crash

namespace Pool

variable {W : Watch M}

/-- A pool that has started nothing. -/
def initial (W : Watch M) (s : M.Shared) : Pool W := ⟨s, fun _ => none, 0⟩

/-- The pool after thread `t` has gone on to `thread`. -/
def put (c : Pool W) (t : Nat) (thread : Thread W) (s : M.Shared) : Pool W :=
  { c with shared := s, threads := Function.update c.threads t (some thread) }

/-- Runs the next operation of a thread. -/
def runThread (c : Pool W) (t : Nat) (choice : M.Choice) (thread : Thread W) : Option (Pool W) :=
  match thread.prog with
  | .ret _ => none
  | .fail _ => none
  | .op o k =>
      (M.exec choice o c.shared).map fun result =>
        c.put t ⟨thread.origin, k result.1, W.monitor.next thread.know o result.1⟩ result.2

def next (c : Pool W) : Label M → Option (Pool W)
  | .run t choice => (c.threads t).bind (c.runThread t choice)
  | .start origin =>
      (M.start origin c.shared).map fun s =>
        { c.put c.fresh ⟨origin, M.program origin, W.first origin⟩ s with fresh := c.fresh + 1 }
  | .env event => (M.env event c.shared).map fun s => { c with shared := s }
  | .crash => some { c with shared := M.crash c.shared, threads := fun _ => none }

/-- The origin and the monitor state of each thread. -/
def minds (c : Pool W) (t : Nat) : Option (M.Origin × W.monitor.State) :=
  (c.threads t).map fun thread => (thread.origin, thread.know)

/-- Every thread has ended. -/
def Quiescent (c : Pool W) : Prop :=
  ∀ t thread, c.threads t = some thread → thread.isDone = true

/-- Every thread conforms to its monitor from here on. -/
def Conforming (c : Pool W) : Prop :=
  ∀ t thread, c.threads t = some thread →
    W.monitor.Conforms thread.prog thread.know (W.post thread.origin)

/-! ## Steps -/

@[simp]
theorem threads_put (c : Pool W) (t : Nat) (thread : Thread W) (s : M.Shared) :
    (c.put t thread s).threads = Function.update c.threads t (some thread) := rfl

@[simp]
theorem minds_put (c : Pool W) (t : Nat) (thread : Thread W) (s : M.Shared) :
    (c.put t thread s).minds =
      Function.update c.minds t (some (thread.origin, thread.know)) := by
  funext t'
  rw [minds, threads_put, Function.update_apply, Function.update_apply]
  split <;> rfl

/-- The next operation of a thread, when it has one. -/
theorem runThread_eq_some {c c' : Pool W} {t : Nat} {choice : M.Choice} {thread : Thread W}
    {o : S.Op} {k : Except ε (S.Res o) → Prog S ε M.Result} (hprog : thread.prog = .op o k) :
    c.runThread t choice thread = some c' ↔
      ∃ r s', M.exec choice o c.shared = some (r, s') ∧
        c' = c.put t ⟨thread.origin, k r, W.monitor.next thread.know o r⟩ s' := by
  rw [runThread, hprog, Option.map_eq_some_iff]
  constructor
  · rintro ⟨⟨r, s'⟩, hexec, rfl⟩
    exact ⟨r, s', hexec, rfl⟩
  · rintro ⟨r, s', hexec, rfl⟩
    exact ⟨(r, s'), hexec, rfl⟩

/-- A run step is one operation of one thread. -/
theorem next_run_eq_some {c c' : Pool W} {t : Nat} {choice : M.Choice}
    (h : c.next (.run t choice) = some c') :
    ∃ thread o k r s', c.threads t = some thread ∧ thread.prog = .op o k ∧
      M.exec choice o c.shared = some (r, s') ∧
      c' = c.put t ⟨thread.origin, k r, W.monitor.next thread.know o r⟩ s' := by
  obtain ⟨thread, hthread, hrun⟩ := Option.bind_eq_some_iff.mp h
  cases hprog : thread.prog with
  | ret a => simp [runThread, hprog] at hrun
  | fail e => simp [runThread, hprog] at hrun
  | op o k =>
      obtain ⟨r, s', hexec, rfl⟩ := (runThread_eq_some hprog).mp hrun
      exact ⟨thread, o, k, r, s', hthread, hprog, hexec, rfl⟩

/-- After an update, a mind is the updated one or one of the others. -/
theorem of_update {α : Type} {minds : Nat → Option α} {t t' : Nat} {x y : α}
    (h : Function.update minds t (some x) t' = some y) :
    (t' = t ∧ y = x) ∨ (t' ≠ t ∧ minds t' = some y) := by
  rw [Function.update_apply] at h
  split at h
  · next ht =>
      cases h
      exact .inl ⟨ht, rfl⟩
  · next ht => exact .inr ⟨ht, h⟩

theorem next_start_eq_some {c c' : Pool W} {origin : M.Origin}
    (h : c.next (.start origin) = some c') :
    ∃ s', M.start origin c.shared = some s' ∧
      c' = { c.put c.fresh ⟨origin, M.program origin, W.first origin⟩ s' with
        fresh := c.fresh + 1 } := by
  obtain ⟨s', hstart, rfl⟩ := Option.map_eq_some_iff.mp h
  exact ⟨s', hstart, rfl⟩

theorem next_env_eq_some {c c' : Pool W} {event : M.Env} (h : c.next (.env event) = some c') :
    ∃ s', M.env event c.shared = some s' ∧ c' = { c with shared := s' } := by
  obtain ⟨s', henv, rfl⟩ := Option.map_eq_some_iff.mp h
  exact ⟨s', henv, rfl⟩

theorem Conforming.put {c : Pool W} (h : c.Conforming) {t : Nat} {thread : Thread W}
    (hthread : W.monitor.Conforms thread.prog thread.know (W.post thread.origin))
    (s : M.Shared) : (c.put t thread s).Conforming := by
  intro t' thread' ht'
  rw [threads_put, Function.update_apply] at ht'
  split at ht'
  · cases ht'
    exact hthread
  · exact h t' thread' ht'

/-- Threads conform after every step. -/
theorem Conforming.next {c c' : Pool W} (h : c.Conforming) {label : Label M}
    (hnext : c.next label = some c') : c'.Conforming := by
  cases label with
  | run t choice =>
      obtain ⟨thread, o, k, r, s', hthread, hprog, hexec, rfl⟩ := next_run_eq_some hnext
      have hop := h t thread hthread
      rw [hprog] at hop
      exact h.put (hop.2 r (W.returns hexec)) s'
  | start origin =>
      obtain ⟨s', -, rfl⟩ := next_start_eq_some hnext
      exact h.put (W.conforms origin) s'
  | env event =>
      obtain ⟨s', -, rfl⟩ := next_env_eq_some hnext
      exact h
  | crash =>
      cases hnext
      intro t thread ht
      cases ht

theorem conforming_initial (W : Watch M) (s : M.Shared) : (initial W s).Conforming := by
  intro t thread ht
  cases ht

end Pool

/-! ## Conditions and reachability -/

/-- What the steps of a run have to meet, in the state they are taken in. -/
structure Condition (W : Watch M) where
  op : W.monitor.State → M.Choice → S.Op → M.Shared → Prop := fun _ _ _ _ => True
  start : M.Origin → M.Shared → Prop := fun _ _ => True
  env : M.Env → M.Shared → Prop := fun _ _ => True
  crash : M.Shared → Prop := fun _ => True

/-- No condition. -/
def Condition.none (W : Watch M) : Condition W := {}

/-- A condition that can be evaluated. -/
class Condition.Checkable {W : Watch M} (C : Condition W) where
  op : ∀ φ choice o s, Decidable (C.op φ choice o s)
  start : ∀ origin s, Decidable (C.start origin s)
  env : ∀ event s, Decidable (C.env event s)
  crash : ∀ s, Decidable (C.crash s)

instance (W : Watch M) : (Condition.none W).Checkable where
  op _ _ _ _ := .isTrue trivial
  start _ _ := .isTrue trivial
  env _ _ := .isTrue trivial
  crash _ := .isTrue trivial

namespace Pool

variable {W : Watch M}

/-- The step meets the condition. -/
def Meets (C : Condition W) (c : Pool W) : Label M → Prop
  | .run t choice =>
      ∀ thread o k, c.threads t = some thread → thread.prog = .op o k →
        C.op thread.know choice o c.shared
  | .start origin => C.start origin c.shared
  | .env event => C.env event c.shared
  | .crash => C.crash c.shared

instance (C : Condition W) [C.Checkable] (c : Pool W) :
    (label : Label M) → Decidable (c.Meets C label)
  | .run t choice =>
      match hthread : c.threads t with
      | none => .isTrue fun _ _ _ h => by rw [hthread] at h; cases h
      | some thread =>
          match hprog : thread.prog with
          | .ret _ => .isTrue fun _ _ _ h h' => by
              rw [hthread] at h; cases h; rw [hprog] at h'; cases h'
          | .fail _ => .isTrue fun _ _ _ h h' => by
              rw [hthread] at h; cases h; rw [hprog] at h'; cases h'
          | .op o _ =>
              match Condition.Checkable.op (C := C) thread.know choice o c.shared with
              | .isTrue hop => .isTrue fun _ _ _ h h' => by
                  rw [hthread] at h; cases h; rw [hprog] at h'; cases h'; exact hop
              | .isFalse hop => .isFalse fun h => hop (h thread o _ hthread hprog)
  | .start origin => Condition.Checkable.start (C := C) origin c.shared
  | .env event => Condition.Checkable.env (C := C) event c.shared
  | .crash => Condition.Checkable.crash (C := C) c.shared

/-- One step that meets the condition. -/
def Step (C : Condition W) (c c' : Pool W) : Prop :=
  ∃ label, c.Meets C label ∧ c.next label = some c'

/-- Runs whose steps all meet the condition. -/
abbrev Reaches (C : Condition W) : Pool W → Pool W → Prop := Relation.ReflTransGen (Step C)

/-- Takes a list of steps, as long as each is possible and meets the condition. -/
def follow (C : Condition W) [C.Checkable] (c : Pool W) : List (Label M) → Option (Pool W)
  | [] => some c
  | label :: rest =>
      if c.Meets C label then (c.next label).bind fun c' => c'.follow C rest else none

/-- Steps that were taken make a run. -/
theorem reaches_of_follow {C : Condition W} [C.Checkable] {labels : List (Label M)}
    {c c' : Pool W} (h : c.follow C labels = some c') : Reaches C c c' := by
  induction labels generalizing c with
  | nil =>
      cases h
      exact .refl
  | cons label rest ih =>
      rw [follow] at h
      split at h
      · next hmeets =>
          obtain ⟨c₁, hnext, hrest⟩ := Option.bind_eq_some_iff.mp h
          exact .head ⟨label, hmeets, hnext⟩ (ih hrest)
      · cases h

theorem step_of_follow {C : Condition W} [C.Checkable] {label : Label M} {c c' : Pool W}
    (h : c.follow C [label] = some c') : Step C c c' := by
  rw [follow] at h
  split at h
  · next hmeets =>
      obtain ⟨c₁, hnext, hrest⟩ := Option.bind_eq_some_iff.mp h
      cases hrest
      exact ⟨label, hmeets, hnext⟩
  · cases h

theorem Step.of_none {C : Condition W} {c c' : Pool W} (h : Step C c c') :
    Step (.none W) c c' := by
  obtain ⟨label, -, hnext⟩ := h
  refine ⟨label, ?_, hnext⟩
  cases label with
  | run t choice => exact fun _ _ _ _ _ => trivial
  | start origin => trivial
  | env event => trivial
  | crash => trivial

theorem Reaches.of_none {C : Condition W} {c c' : Pool W} (h : Reaches C c c') :
    Reaches (.none W) c c' := by
  induction h with
  | refl => exact .refl
  | tail _ hstep ih => exact ih.tail hstep.of_none

theorem Conforming.of_step {C : Condition W} {c c' : Pool W} (h : c.Conforming)
    (hstep : Step C c c') : c'.Conforming := by
  obtain ⟨label, -, hnext⟩ := hstep
  exact h.next hnext

theorem Reaches.conforming {C : Condition W} {c c' : Pool W} (h : c.Conforming)
    (hreach : Reaches C c c') : c'.Conforming := by
  induction hreach with
  | refl => exact h
  | tail _ hstep ih => exact ih.of_step hstep

/-- The obligations of an invariant: one for each kind of step. `Inv` sees the
shared state and what each thread was started for and knows. -/
structure Invariant (W : Watch M) (C : Condition W)
    (Inv : M.Shared → (Nat → Option (M.Origin × W.monitor.State)) → Prop) : Prop where
  op : ∀ {s minds t origin φ choice o r s'}, Inv s minds → minds t = some (origin, φ) →
    W.monitor.allows φ o → C.op φ choice o s → M.exec choice o s = some (r, s') →
    Inv s' (Function.update minds t (some (origin, W.monitor.next φ o r)))
  start : ∀ {s minds t origin s'}, Inv s minds → C.start origin s → M.start origin s = some s' →
    minds t = none → Inv s' (Function.update minds t (some (origin, W.first origin)))
  env : ∀ {s minds event s'}, Inv s minds → C.env event s → M.env event s = some s' →
    Inv s' minds
  crash : ∀ {s minds}, Inv s minds → C.crash s → Inv (M.crash s) fun _ => none

/-- The obligations of an invariant that rests on another one. -/
structure InvariantOver (W : Watch M) (C : Condition W)
    (Base Inv : M.Shared → (Nat → Option (M.Origin × W.monitor.State)) → Prop) : Prop where
  op : ∀ {s minds t origin φ choice o r s'}, Base s minds → Inv s minds →
    minds t = some (origin, φ) → W.monitor.allows φ o → C.op φ choice o s →
    M.exec choice o s = some (r, s') →
    Inv s' (Function.update minds t (some (origin, W.monitor.next φ o r)))
  start : ∀ {s minds t origin s'}, Base s minds → Inv s minds → C.start origin s →
    M.start origin s = some s' → minds t = none →
    Inv s' (Function.update minds t (some (origin, W.first origin)))
  env : ∀ {s minds event s'}, Base s minds → Inv s minds → C.env event s →
    M.env event s = some s' → Inv s' minds
  crash : ∀ {s minds}, Base s minds → Inv s minds → C.crash s → Inv (M.crash s) fun _ => none

/-- An invariant together with one that rests on it. -/
theorem Invariant.and {C : Condition W}
    {Base Inv : M.Shared → (Nat → Option (M.Origin × W.monitor.State)) → Prop}
    (I : Invariant W C Base) (J : InvariantOver W C Base Inv) :
    Invariant W C fun s minds => Base s minds ∧ Inv s minds where
  op h hmind hallows hC hexec :=
    ⟨I.op h.1 hmind hallows hC hexec, J.op h.1 h.2 hmind hallows hC hexec⟩
  start h hC hstart hfree := ⟨I.start h.1 hC hstart hfree, J.start h.1 h.2 hC hstart hfree⟩
  env h hC henv := ⟨I.env h.1 hC henv, J.env h.1 h.2 hC henv⟩
  crash h hC := ⟨I.crash h.1 hC, J.crash h.1 h.2 hC⟩

/-- What rests on an invariant rests on a stronger one. -/
theorem InvariantOver.mono {C : Condition W}
    {Base Base' Inv : M.Shared → (Nat → Option (M.Origin × W.monitor.State)) → Prop}
    (J : InvariantOver W C Base Inv) (h : ∀ {s minds}, Base' s minds → Base s minds) :
    InvariantOver W C Base' Inv where
  op hbase := J.op (h hbase)
  start hbase := J.start (h hbase)
  env hbase := J.env (h hbase)
  crash hbase := J.crash (h hbase)

/-- What holds along all runs holds along those that meet a condition. -/
theorem Invariant.of_none {C : Condition W}
    {Inv : M.Shared → (Nat → Option (M.Origin × W.monitor.State)) → Prop}
    (I : Invariant W (.none W) Inv) : Invariant W C Inv where
  op h hmind hallows _ hexec := I.op h hmind hallows trivial hexec
  start h _ hstart hfree := I.start h trivial hstart hfree
  env h _ henv := I.env h trivial henv
  crash h _ := I.crash h trivial

/-! ## What some thread knows -/

section Somewhere

variable {α σ : Type} {minds : Nat → Option (α × σ)} {t : Nat} {origin : α} {φ φ' : σ}
  {P : σ → Prop}

/-- The monitor of some thread satisfies `P`. -/
def Somewhere (minds : Nat → Option (α × σ)) (P : σ → Prop) : Prop :=
  ∃ t origin φ, minds t = some (origin, φ) ∧ P φ

theorem somewhere_self (h : P φ) :
    Somewhere (Function.update minds t (some (origin, φ))) P :=
  ⟨t, origin, φ, Function.update_self _ _ _, h⟩

/-- A thread that goes on takes along what it knows. -/
theorem Somewhere.next (h : Somewhere minds P) (hmind : minds t = some (origin, φ))
    (hkeep : P φ → P φ') : Somewhere (Function.update minds t (some (origin, φ'))) P := by
  obtain ⟨t', origin', φ₁, hmind', hP⟩ := h
  by_cases ht : t' = t
  · subst ht
    rw [hmind] at hmind'
    cases hmind'
    exact somewhere_self (hkeep hP)
  · exact ⟨t', origin', φ₁, by rw [Function.update_of_ne ht, hmind'], hP⟩

theorem Somewhere.start (h : Somewhere minds P) (hfree : minds t = none) :
    Somewhere (Function.update minds t (some (origin, φ))) P := by
  obtain ⟨t', origin', φ₁, hmind', hP⟩ := h
  have ht : t' ≠ t := by
    rintro rfl
    rw [hfree] at hmind'
    cases hmind'
  exact ⟨t', origin', φ₁, by rw [Function.update_of_ne ht, hmind'], hP⟩

/-- What is known after a step, the thread that took it knows, or it was known before. -/
theorem Somewhere.of_update
    (h : Somewhere (Function.update minds t (some (origin, φ))) P) :
    P φ ∨ Somewhere minds P := by
  obtain ⟨t', origin', φ₁, hmind', hP⟩ := h
  rcases Pool.of_update hmind' with ⟨-, hφ⟩ | ⟨-, hmind⟩
  · cases hφ
    exact .inl hP
  · exact .inr ⟨t', origin', φ₁, hmind, hP⟩

end Somewhere

/-- Ids from `fresh` on are not in use. -/
def FreshAbove (c : Pool W) : Prop := ∀ t, c.fresh ≤ t → c.threads t = none

theorem FreshAbove.next {c c' : Pool W} (h : c.FreshAbove) {label : Label M}
    (hnext : c.next label = some c') : c'.FreshAbove := by
  cases label with
  | run t choice =>
      obtain ⟨thread, o, k, r, s', hthread, -, -, rfl⟩ := next_run_eq_some hnext
      intro t' ht'
      have hne : t' ≠ t := by
        rintro rfl
        rw [h t' ht'] at hthread
        cases hthread
      rw [threads_put, Function.update_of_ne hne]
      exact h t' ht'
  | start origin =>
      obtain ⟨s', -, rfl⟩ := next_start_eq_some hnext
      intro t' ht'
      have hlt : c.fresh < t' := ht'
      refine (Function.update_of_ne (Nat.ne_of_gt hlt) _ _).trans ?_
      exact h t' (Nat.le_of_lt hlt)
  | env event =>
      obtain ⟨s', -, rfl⟩ := next_env_eq_some hnext
      exact h
  | crash =>
      cases hnext
      exact fun _ _ => rfl

theorem Reaches.freshAbove {C : Condition W} {c c' : Pool W} (h : c.FreshAbove)
    (hreach : Reaches C c c') : c'.FreshAbove := by
  induction hreach with
  | refl => exact h
  | tail _ hstep ih =>
      obtain ⟨label, -, hnext⟩ := hstep
      exact ih.next hnext

/-- Threads are looked for below `fresh` only. -/
theorem FreshAbove.quiescent {c : Pool W} (h : c.FreshAbove)
    (hdone : ∀ t < c.fresh, (c.threads t).all Thread.isDone = true) : c.Quiescent := by
  intro t thread ht
  by_cases hlt : t < c.fresh
  · have hall := hdone t hlt
    rw [ht] at hall
    exact hall
  · rw [h t (Nat.le_of_not_lt hlt)] at ht
    cases ht

/-- What an invariant needs to know of a pool. -/
def Holds (Inv : M.Shared → (Nat → Option (M.Origin × W.monitor.State)) → Prop)
    (c : Pool W) : Prop :=
  c.Conforming ∧ c.FreshAbove ∧ Inv c.shared c.minds

theorem Invariant.next {C : Condition W}
    {Inv : M.Shared → (Nat → Option (M.Origin × W.monitor.State)) → Prop}
    (I : Invariant W C Inv) {c c' : Pool W} (h : c.Holds Inv) {label : Label M}
    (hmeets : c.Meets C label) (hnext : c.next label = some c') : c'.Holds Inv := by
  obtain ⟨hconforming, hfresh, hinv⟩ := h
  refine ⟨hconforming.next hnext, hfresh.next hnext, ?_⟩
  cases label with
  | run t choice =>
      obtain ⟨thread, o, k, r, s', hthread, hprog, hexec, rfl⟩ := next_run_eq_some hnext
      have hop := hconforming t thread hthread
      rw [hprog] at hop
      have hmind : c.minds t = some (thread.origin, thread.know) := by
        rw [minds, hthread, Option.map_some]
      rw [minds_put]
      exact I.op hinv hmind hop.1 (hmeets thread o k hthread hprog) hexec
  | start origin =>
      obtain ⟨s', hstart, rfl⟩ := next_start_eq_some hnext
      have hmind : c.minds c.fresh = none := by
        rw [minds, hfresh c.fresh (Nat.le_refl _), Option.map_none]
      have hminds := minds_put c c.fresh ⟨origin, M.program origin, W.first origin⟩ s'
      exact hminds ▸ I.start hinv hmeets hstart hmind
  | env event =>
      obtain ⟨s', henv, rfl⟩ := next_env_eq_some hnext
      exact I.env hinv hmeets henv
  | crash =>
      cases hnext
      exact I.crash hinv hmeets

/-- Induction over runs. -/
theorem Reaches.invariant {C : Condition W}
    {Inv : M.Shared → (Nat → Option (M.Origin × W.monitor.State)) → Prop}
    (I : Invariant W C Inv) {c c' : Pool W} (h : c.Holds Inv) (hreach : Reaches C c c') :
    c'.Holds Inv := by
  induction hreach with
  | refl => exact h
  | tail _ hstep ih =>
      obtain ⟨label, hmeets, hnext⟩ := hstep
      exact I.next ih hmeets hnext

theorem holds_initial {Inv : M.Shared → (Nat → Option (M.Origin × W.monitor.State)) → Prop}
    {s : M.Shared} (h : Inv s fun _ => none) : (initial W s).Holds Inv :=
  ⟨conforming_initial W s, fun _ _ => rfl, h⟩

/-- A thread that has ended satisfies the postcondition of its origin. -/
theorem Conforming.post_of_ret {c : Pool W} (h : c.Conforming) {t : Nat} {thread : Thread W}
    (hthread : c.threads t = some thread) {a : M.Result} (hprog : thread.prog = .ret a) :
    W.post thread.origin (.ok a) thread.know := by
  have hconforms := h t thread hthread
  rw [hprog] at hconforms
  exact hconforms

theorem Conforming.post_of_fail {c : Pool W} (h : c.Conforming) {t : Nat} {thread : Thread W}
    (hthread : c.threads t = some thread) {e : ε} (hprog : thread.prog = .fail e) :
    W.post thread.origin (.error e) thread.know := by
  have hconforms := h t thread hthread
  rw [hprog] at hconforms
  exact hconforms

/-- When no thread has anything left to do, each satisfies its postcondition. -/
theorem Conforming.post_of_quiescent {c : Pool W} (h : c.Conforming) (hquiet : c.Quiescent)
    {t : Nat} {origin : M.Origin} {φ : W.monitor.State} (hmind : c.minds t = some (origin, φ)) :
    ∃ r, W.post origin r φ := by
  obtain ⟨thread, hthread, heq⟩ := Option.map_eq_some_iff.mp hmind
  cases heq
  have hdone := hquiet t thread hthread
  rw [Thread.isDone] at hdone
  cases hprog : thread.prog with
  | ret a => exact ⟨_, h.post_of_ret hthread hprog⟩
  | fail e => exact ⟨_, h.post_of_fail hthread hprog⟩
  | op o k =>
      rw [hprog] at hdone
      cases hdone

end Pool

end LittleOrgans.Library
