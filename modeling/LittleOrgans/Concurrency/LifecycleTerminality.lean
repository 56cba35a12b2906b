import LittleOrgans.Concurrency.Effects

/-!
# Terminality of lifecycle rows

An end that is stored stays, as long as no writer overwrites a row that has ended
since the writer read it (`OverwritesWhatItRead`). The lifecycle programs test
the row they have read; the `UPDATE` does not test it again, and the second
transaction of a spawn writes back a lifecycle it was handed much earlier.
-/

set_option autoImplicit false

namespace LittleOrgans.Concurrency

open LittleOrgans.Core
open LittleOrgans.Library
open LittleOrgans.Store
open LittleOrgans.Daemon

/-- How the stored lifecycle of a session has ended, if it has. -/
def storedEnd (db : Database) (id : SessionId) : Option TerminalKind :=
  (db.getLifecycle id).bind fun lc => lc.state.terminalKind

/-- The row still says what this program has read about its end, or ends as it is
about to be written. -/
def OverwritesWhatItRead (φ : Knowledge) (lc : Lifecycle) (w : World) : Prop :=
  storedEnd w.db lc.sessionId =
      (φ.lastRead lc.sessionId).bind (fun old => old.state.terminalKind) ∨
    storedEnd w.db lc.sessionId = lc.state.terminalKind

instance (φ : Knowledge) (lc : Lifecycle) (w : World) :
    Decidable (OverwritesWhatItRead φ lc w) :=
  inferInstanceAs (Decidable (_ ∨ _))

/-- The lifecycle an operation writes over a stored one. -/
def writtenLifecycle : Op → Option Lifecycle
  | .store (.updateLifecycle lc) => some lc
  | .store (.commitSpawnIntent _ _ lc) => some lc
  | _ => none

/-- No row ends between the read and the write of another writer. -/
def undisturbedWrites : Condition watched where
  op φ _ o w := ∀ lc ∈ writtenLifecycle o, OverwritesWhatItRead φ lc w

instance : undisturbedWrites.Checkable where
  op _ _ _ _ := inferInstanceAs (Decidable (∀ lc ∈ _, _))
  start _ _ := .isTrue trivial
  env _ _ := .isTrue trivial
  crash _ := .isTrue trivial

/-! ## One step -/

/-- The end of a row stays, or the row goes. -/
def KeepsEnd (id : SessionId) (db db' : Database) : Prop :=
  ∀ kind, storedEnd db id = some kind →
    db'.getLifecycle id = none ∨ storedEnd db' id = some kind

theorem keepsEnd_of_getLifecycle {id : SessionId} {db db' : Database}
    (h : db'.getLifecycle id = db.getLifecycle id) : KeepsEnd id db db' := by
  intro kind hkind
  rw [storedEnd, h]
  exact .inr hkind

theorem keepsEnd_of_lifecycles {id : SessionId} {db db' : Database}
    (h : db'.lifecycles = db.lifecycles) : KeepsEnd id db db' :=
  keepsEnd_of_getLifecycle (by rw [Database.getLifecycle, h, Database.getLifecycle])

/-- A write over a row that has not ended since it was read. -/
theorem keepsEnd_update {φ : Knowledge} {w : World} {lc : Lifecycle} {db : Database}
    (hmay : φ.MayWrite lc) (hover : OverwritesWhatItRead φ lc w)
    (hupdate : ∀ id, db.getLifecycle id =
      if id = lc.sessionId then some (storedLifecycle lc) else w.db.getLifecycle id)
    (id : SessionId) : KeepsEnd id w.db db := by
  by_cases hid : id = lc.sessionId
  · subst hid
    intro kind hkind
    obtain ⟨old, hread, halive, -⟩ := hmay
    rcases hover with hsame | hsame
    · rw [hkind, hread] at hsame
      rw [Option.bind_some, halive] at hsame
      cases hsame
    · right
      rw [storedEnd, hupdate, if_pos rfl]
      exact hsame.symm.trans hkind
  · exact keepsEnd_of_getLifecycle (by rw [hupdate, if_neg hid])

theorem keepsEnd_delete (db : Database) (id id' : SessionId) :
    KeepsEnd id' db (db.deleteLifecycle id) := by
  by_cases hid : id' = id
  · exact fun kind _ => .inl (by rw [Database.getLifecycle_delete, if_pos hid])
  · exact keepsEnd_of_getLifecycle (by rw [Database.getLifecycle_delete, if_neg hid])

theorem keepsEnd_insertForking {db db' : Database} {lc : Lifecycle}
    (h : db.insertForking lc = .ok db') (id : SessionId) : KeepsEnd id db db' := by
  obtain ⟨-, hnone, -⟩ := Database.insertForking_eq_ok h
  by_cases hid : id = lc.sessionId
  · intro kind hkind
    rw [storedEnd, hid, hnone] at hkind
    cases hkind
  · exact keepsEnd_of_getLifecycle (by rw [Database.getLifecycle_insertForking h, if_neg hid])

/-- Every statement that meets the condition keeps the ends that are stored. -/
theorem keepsEnd_store {φ : Knowledge} {choice : Choice} {w : World} {o : StoreOp} {a : o.Res}
    {db : Database} (hallows : φ.allowsStore o)
    (hmeets : undisturbedWrites.op φ choice (.store o) w) (h : o.Effect w.db db a)
    (id : SessionId) : KeepsEnd id w.db db := by
  by_cases hwrites : o.writesLifecycles = false
  · exact keepsEnd_of_lifecycles (h.lifecycles hwrites).1
  · cases o with
    | insertForking lc => exact keepsEnd_insertForking h id
    | updateLifecycle lc =>
        exact keepsEnd_update hallows (hmeets lc rfl) (Database.getLifecycle_update h) id
    | deleteLifecycle id' =>
        cases h
        exact keepsEnd_delete w.db id' id
    | beginSpawnIntent intent =>
        obtain ⟨-, hnone, -⟩ := Database.beginSpawnIntent_eq_ok h
        by_cases hid : id = intent.sessionId
        · intro kind hkind
          rw [storedEnd, hid, hnone] at hkind
          cases hkind
        · refine keepsEnd_of_getLifecycle ?_
          rw [Database.getLifecycle_beginSpawnIntent h, if_neg hid]
    | commitSpawnIntent id' session lc =>
        obtain ⟨now, h⟩ := h
        obtain ⟨intent, -, -, -, -, hmay⟩ := hallows
        exact keepsEnd_update hmay (hmeets lc rfl) (Database.getLifecycle_commitSpawnIntent h) id
    | abortSpawnIntent id' reason =>
        obtain ⟨now, rfl⟩ := h
        exact keepsEnd_delete (w.db.updateSpawnIntentStatus id' now (.aborted reason)) id' id
    | _ => exact absurd rfl hwrites

/-- One step of the daemon keeps the end of a row, or the row goes. -/
theorem keepsEnd_step {c c' : Pool watched} (hconforming : c.Conforming)
    (hstep : Pool.Step undisturbedWrites c c') (id : SessionId) :
    KeepsEnd id c.shared.db c'.shared.db := by
  rcases store_of_step hconforming hstep with
    hdb | ⟨t, thread, choice, o, a, -, hallows, hop, heffect⟩
  · refine keepsEnd_of_getLifecycle ?_
    rw [hdb]
  · exact keepsEnd_store hallows hop heffect id

/-! ## Runs -/

/-- A step after which the row of `id` is still there. -/
def RowStays (C : Condition watched) (id : SessionId) (c c' : Pool watched) : Prop :=
  Pool.Step C c c' ∧ ∃ lc, c'.shared.db.getLifecycle id = some lc

/-- Along a run in which no row ends between another writer's read and its write,
an end that is stored stays what it is for as long as the row is there. -/
theorem lifecycle_end_stays {w : World} {c c' : Pool watched} {id : SessionId}
    {kind : TerminalKind}
    (hreach : Pool.Reaches undisturbedWrites (.initial watched w) c)
    (hend : storedEnd c.shared.db id = some kind)
    (hrun : Relation.ReflTransGen (RowStays undisturbedWrites id) c c') :
    ∃ lc, c'.shared.db.getLifecycle id = some lc ∧ lc.state.terminalKind = some kind := by
  have hstored : ∀ {db : Database}, storedEnd db id = some kind →
      ∃ lc, db.getLifecycle id = some lc ∧ lc.state.terminalKind = some kind :=
    fun h => Option.bind_eq_some_iff.mp h
  refine hstored ?_
  have hconforming := Pool.Reaches.conforming (Pool.conforming_initial watched w) hreach
  suffices h : c'.Conforming ∧ storedEnd c'.shared.db id = some kind from h.2
  induction hrun with
  | refl => exact ⟨hconforming, hend⟩
  | tail _ hstep ih =>
      obtain ⟨hstep, lc, hlc⟩ := hstep
      obtain ⟨hconforming, hend⟩ := ih
      refine ⟨.of_step hconforming hstep, ?_⟩
      rcases keepsEnd_step hconforming hstep id kind hend with hgone | hkept
      · rw [hgone] at hlc
        cases hlc
      · exact hkept

/-! ## A spawn whose runtime exits before its second transaction -/

/-- The second transaction writes the running lifecycle back over a stored exit. -/
theorem commit_revives_exited :
    ∃ c c', Pool.Reaches (.none watched) (.initial watched (World.fresh 0)) c ∧
      RowStays (.none watched) sampleId c c' ∧
      storedEnd c.shared.db sampleId = some .exited ∧
      (c'.shared.db.getLifecycle sampleId).map Lifecycle.state = some .running := by
  have hexited : ∃ c, after (.none watched)
      (bootRun ++ launchRun ++ childRun ++ readyRun ++ beforeCommitRun ++ exitRun) = some c ∧
      storedEnd c.shared.db sampleId = some .exited ∧
      ∃ c', c.next (.run 1 (.time 7)) = some c' ∧
        (c'.shared.db.getLifecycle sampleId).map Lifecycle.state = some .running :=
    ⟨_, rfl, rfl, _, rfl, rfl⟩
  obtain ⟨c, hc, hend, c', hnext, hrunning⟩ := hexited
  obtain ⟨lc, hlc, -⟩ := Option.map_eq_some_iff.mp hrunning
  have hstep : Pool.Step (.none watched) c c' := ⟨.run 1 (.time 7), fun _ _ _ _ _ => trivial, hnext⟩
  exact ⟨c, c', Pool.reaches_of_follow hc, ⟨hstep, lc, hlc⟩, hend, hrunning⟩

/-- The row of `id` is there after each of these steps. -/
def rowAlong (id : SessionId) (c : Pool watched) : List (Label daemon) → Bool
  | [] => true
  | label :: rest =>
      (c.next label).all fun c' =>
        (c'.shared.db.getLifecycle id).isSome && rowAlong id c' rest

theorem rowStays_of_follow {C : Condition watched} [C.Checkable] {id : SessionId}
    {labels : List (Label daemon)} {c c' : Pool watched} (h : c.follow C labels = some c')
    (hrow : rowAlong id c labels = true) : Relation.ReflTransGen (RowStays C id) c c' := by
  induction labels generalizing c with
  | nil =>
      cases h
      exact .refl
  | cons label rest ih =>
      rw [Pool.follow] at h
      split at h
      · next hmeets =>
          obtain ⟨c₁, hnext, hrest⟩ := Option.bind_eq_some_iff.mp h
          rw [rowAlong, hnext, Option.all_some, Bool.and_eq_true] at hrow
          have hstep : RowStays C id c c₁ :=
            ⟨⟨label, hmeets, hnext⟩, Option.isSome_iff_exists.mp hrow.1⟩
          exact .head hstep (ih hrest hrow.2)
      · cases h

/-- A kill reads the row, finds another process under the pid, and would record the runtime as
lost; a reconciliation goes on beside it. -/
def lateKillRun : List (Label daemon) :=
  .start (.kill ⟨sampleId, .term⟩) :: ran 5 1 ++ [.run 5 (.flag true)] ++
    .start .reconcileOnce :: ran 6 1 ++ [.run 5 (.startTime (.known 99))] ++ ran 5 2 ++ ran 6 1

/-- The exit of a committed spawn outlives a kill that comes too late: it reads the row behind
the exit, and its loss is not written. -/
theorem lifecycle_end_stays_exitRun :
    ∃ c c' : Pool watched, storedEnd c.shared.db sampleId = some .exited ∧
      c.follow undisturbedWrites lateKillRun = some c' ∧
      (c'.threads 5).any Thread.isDone = true ∧ (c'.threads 6).any Thread.isDone = true ∧
      ∃ lc, c'.shared.db.getLifecycle sampleId = some lc ∧
        lc.state.terminalKind = some .exited := by
  have hexited : ∃ c, after undisturbedWrites
      (bootRun ++ launchRun ++ childRun ++ readyRun ++ beforeCommitRun ++
        [.run 1 (.time 7)] ++ exitRun) = some c ∧
      storedEnd c.shared.db sampleId = some .exited ∧
      ∃ c', c.follow undisturbedWrites lateKillRun = some c' ∧
        rowAlong sampleId c lateKillRun = true ∧
        (c'.threads 5).any Thread.isDone = true ∧ (c'.threads 6).any Thread.isDone = true :=
    ⟨_, rfl, rfl, _, rfl, rfl, rfl, rfl⟩
  obtain ⟨c, hc, hend, c', hlate, hrow, hkill, hreconcile⟩ := hexited
  exact ⟨c, c', hend, hlate, hkill, hreconcile,
    lifecycle_end_stays (Pool.reaches_of_follow hc) hend (rowStays_of_follow hlate hrow)⟩

end LittleOrgans.Concurrency
