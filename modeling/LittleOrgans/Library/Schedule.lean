import LittleOrgans.Library.Pool

/-!
# Schedules

A schedule says when a thread of a pool may take its next operation. Other than a
condition, which sees the thread that moves and the shared state, it sees the whole
pool: how far each of the other threads has come. `Scheduled.invariant` is the
induction rule for the runs of a schedule; as for the runs under a condition, the
programs themselves do not occur in its obligations.
-/

set_option autoImplicit false

namespace LittleOrgans.Library

variable {S : Signature} {ε : Type} {M : Machine S ε}

/-- When thread `t`, which knows `φ`, may run the operation `o`. -/
abbrev Schedule (W : Watch M) := Pool W → Nat → W.monitor.State → S.Op → Prop

namespace Pool

variable {W : Watch M}

/-- The step keeps to the schedule. -/
def KeepsTo (σ : Schedule W) (c : Pool W) : Label M → Prop
  | .run t _ =>
      ∀ thread o k, c.threads t = some thread → thread.prog = .op o k →
        σ c t thread.know o
  | .start _ => True
  | .env _ => True
  | .crash => True

instance (σ : Schedule W) [∀ c t φ o, Decidable (σ c t φ o)] (c : Pool W) :
    (label : Label M) → Decidable (c.KeepsTo σ label)
  | .run t _ =>
      match hthread : c.threads t with
      | none => .isTrue fun _ _ _ h => by rw [hthread] at h; cases h
      | some thread =>
          match hprog : thread.prog with
          | .ret _ => .isTrue fun _ _ _ h h' => by
              rw [hthread] at h; cases h; rw [hprog] at h'; cases h'
          | .fail _ => .isTrue fun _ _ _ h h' => by
              rw [hthread] at h; cases h; rw [hprog] at h'; cases h'
          | .op o _ =>
              match (inferInstance : Decidable (σ c t thread.know o)) with
              | .isTrue hop => .isTrue fun _ _ _ h h' => by
                  rw [hthread] at h; cases h; rw [hprog] at h'; cases h'; exact hop
              | .isFalse hop => .isFalse fun h => hop (h thread o _ hthread hprog)
  | .start _ => .isTrue trivial
  | .env _ => .isTrue trivial
  | .crash => .isTrue trivial

/-- One step of the schedule. -/
def ScheduledStep (σ : Schedule W) (c c' : Pool W) : Prop :=
  ∃ label, c.KeepsTo σ label ∧ c.next label = some c'

/-- The runs of a schedule. -/
abbrev Scheduled (σ : Schedule W) : Pool W → Pool W → Prop :=
  Relation.ReflTransGen (ScheduledStep σ)

/-- Takes a list of steps, as long as each is possible and keeps to the schedule. -/
def followSchedule (σ : Schedule W) [∀ c t φ o, Decidable (σ c t φ o)] (c : Pool W) :
    List (Label M) → Option (Pool W)
  | [] => some c
  | label :: rest =>
      if c.KeepsTo σ label then (c.next label).bind fun c' => c'.followSchedule σ rest else none

theorem scheduled_of_follow {σ : Schedule W} [∀ c t φ o, Decidable (σ c t φ o)]
    {labels : List (Label M)} {c c' : Pool W} (h : c.followSchedule σ labels = some c') :
    Scheduled σ c c' := by
  induction labels generalizing c with
  | nil =>
      cases h
      exact .refl
  | cons label rest ih =>
      rw [followSchedule] at h
      split at h
      · next hkeeps =>
          obtain ⟨c₁, hnext, hrest⟩ := Option.bind_eq_some_iff.mp h
          exact .head ⟨label, hkeeps, hnext⟩ (ih hrest)
      · cases h

/-- The obligations of an invariant of the pool: one for each kind of step. -/
structure ScheduledInvariant (σ : Schedule W) (Inv : Pool W → Prop) : Prop where
  run : ∀ {c t thread o k choice r s'}, Inv c → c.FreshAbove →
    c.threads t = some thread → thread.prog = .op o k → W.monitor.allows thread.know o →
    σ c t thread.know o → M.exec choice o c.shared = some (r, s') →
    Inv (c.put t ⟨thread.origin, k r, W.monitor.next thread.know o r⟩ s')
  start : ∀ {c origin s'}, Inv c → c.threads c.fresh = none →
    M.start origin c.shared = some s' →
    Inv { c.put c.fresh ⟨origin, M.program origin, W.first origin⟩ s' with fresh := c.fresh + 1 }
  env : ∀ {c event s'}, Inv c → M.env event c.shared = some s' → Inv { c with shared := s' }
  crash : ∀ {c}, Inv c → Inv { c with shared := M.crash c.shared, threads := fun _ => none }

/-- Induction over the runs of a schedule. -/
theorem Scheduled.invariant {σ : Schedule W} {Inv : Pool W → Prop}
    (I : ScheduledInvariant σ Inv) {s : M.Shared} {c : Pool W} (h : Inv (initial W s))
    (hreach : Scheduled σ (initial W s) c) : Inv c := by
  suffices h : c.Conforming ∧ c.FreshAbove ∧ Inv c from h.2.2
  induction hreach with
  | refl => exact ⟨conforming_initial W s, fun _ _ => rfl, h⟩
  | tail _ hstep ih =>
      obtain ⟨hconforming, hfresh, hinv⟩ := ih
      obtain ⟨label, hkeeps, hnext⟩ := hstep
      refine ⟨hconforming.next hnext, hfresh.next hnext, ?_⟩
      cases label with
      | run t choice =>
          obtain ⟨thread, o, k, r, s', hthread, hprog, hexec, rfl⟩ := next_run_eq_some hnext
          have hop := hconforming t thread hthread
          rw [hprog] at hop
          exact I.run hinv hfresh hthread hprog hop.1 (hkeeps thread o k hthread hprog) hexec
      | start origin =>
          obtain ⟨s', hstart, rfl⟩ := next_start_eq_some hnext
          exact I.start hinv (hfresh _ (Nat.le_refl _)) hstart
      | env event =>
          obtain ⟨s', henv, rfl⟩ := next_env_eq_some hnext
          exact I.env hinv henv
      | crash =>
          cases hnext
          exact I.crash hinv

end Pool

end LittleOrgans.Library
