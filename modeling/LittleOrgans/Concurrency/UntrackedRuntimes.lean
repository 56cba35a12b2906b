import LittleOrgans.Concurrency.FailedSpawns
import LittleOrgans.Concurrency.LaunchHolders

/-!
# Runtimes without a lifecycle row

An aborted spawn and a cancelled one take the lifecycle row of their session away. Nothing
then knows of a runtime that was launched for the session. There is nothing left to know when
nobody offers the launch of the session any more, and its shim was never started, is over, or
asks for a launch spec that nobody holds (`Finished`). This stays so along every run
(`finished`).

A cancelled spawn leaves its session finished, and so does an abort whose reason holds, or
one whose shim is idle anyway (`orderly`). Not every abort is of this kind: a spawn whose wait
for the shim elapses is aborted, and the late shim takes the launch spec that still waits for
it (`late_shim_runs_untracked`).
-/

set_option autoImplicit false

namespace LittleOrgans.Concurrency

open LittleOrgans.Core
open LittleOrgans.Library
open LittleOrgans.Library.Pool
open LittleOrgans.Store
open LittleOrgans.Daemon

/-! ## Sessions that are finished -/

/-- Nobody will launch a runtime for the session, and none runs: its launch is not offered any
more, and its shim was never started, is over, or asks for a spec that nobody holds. -/
structure Finished (id : SessionId) (w : World) (minds : LaunchMinds) : Prop where
  used : id ∈ w.usedIds
  offered : ∀ t origin φ ψ, minds t = some (origin, φ, ψ) → ¬ψ.Offers id
  shim : ∀ shim, w.shims.lookup id = some shim → shim.isOver = true ∨
    (shim.phase = .requesting ∧ id ∉ w.runtime.pendingLaunches ∧
      ∀ t origin φ ψ, minds t = some (origin, φ, ψ) → ψ.taken ≠ some id)

section Finished

variable {id : SessionId} {w w' : World} {minds : LaunchMinds} {t : Nat} {origin : Origin}
  {φ : Knowledge} {ψ : Launching}

theorem Finished.not_runtimeRuns (h : Finished id w minds) : w.runtimeRuns id = false := by
  rw [World.runtimeRuns]
  cases hshim : w.shims.lookup id with
  | none => rfl
  | some shim =>
      rcases h.shim shim hshim with hover | ⟨hphase, -⟩
      · exact Shim.not_isRunning_of_isOver hover
      · rw [Option.any_some, Shim.isRunning, hphase]

/-- A shim that is over stays over, further on. -/
theorem over_of_later (hlater : Later w w') {before shim : Shim}
    (hbefore : w.shims.lookup id = some before) (hshim : w'.shims.lookup id = some shim)
    (hover : before.isOver = true) : shim.isOver = true := by
  obtain ⟨shim', hshim', hshims⟩ := hlater.shims id before hbefore
  cases hshim.symm.trans hshim'
  exact hshims.isOver hover

/-- A finished session stays finished when its shim is kept. -/
theorem Finished.of_kept {minds' : LaunchMinds} (h : Finished id w minds) (hlater : Later w w')
    (hused : id ∈ w'.usedIds)
    (hkept : ShimKept (w.shims.lookup id) (w'.shims.lookup id))
    (hoffered : ∀ t origin φ ψ, minds' t = some (origin, φ, ψ) → ¬ψ.Offers id)
    (hheld : id ∉ w.runtime.pendingLaunches →
      (∀ t origin φ ψ, minds t = some (origin, φ, ψ) → ψ.taken ≠ some id) →
      id ∉ w'.runtime.pendingLaunches ∧
        ∀ t origin φ ψ, minds' t = some (origin, φ, ψ) → ψ.taken ≠ some id) :
    Finished id w' minds' where
  used := hused
  offered := hoffered
  shim shim hshim := by
    obtain ⟨before, hbefore, hphase⟩ := (hshim ▸ hkept).before
    rcases h.shim before hbefore with hover | ⟨hrequesting, hpending, htaken⟩
    · exact .inl (over_of_later hlater hbefore hshim hover)
    · exact .inr ⟨hphase hrequesting, hheld hpending htaken⟩

variable {choice : Choice} {o : Op} {r : Except DaemonError o.Res}

/-- A finished session whose shim is handed its spec has a shim that is over. -/
theorem Finished.of_granted {minds' : LaunchMinds} (h : Finished id w minds)
    (hmind : minds t = some (origin, φ, ψ)) (htaken : ψ.taken = some id) (hlater : Later w w')
    (hused : id ∈ w'.usedIds)
    (hgranted : w'.shims.lookup id = (w.shims.lookup id).map OsOp.grantLaunch)
    (hoffered : ∀ t origin φ ψ, minds' t = some (origin, φ, ψ) → ¬ψ.Offers id) :
    Finished id w' minds' where
  used := hused
  offered := hoffered
  shim shim hshim := by
    obtain ⟨before, hbefore, -⟩ := Option.map_eq_some_iff.mp (hgranted.symm.trans hshim)
    rcases h.shim before hbefore with hover | ⟨-, -, hnobody⟩
    · exact .inl (over_of_later hlater hbefore hshim hover)
    · exact absurd htaken (hnobody t origin φ ψ hmind)

theorem Finished.op (h : Finished id w minds) (hmind : minds t = some (origin, φ, ψ))
    (hallows : ψ.allows o) (hexec : o.exec choice w = some (r, w')) :
    Finished id w' (Function.update minds t (some (origin, φ.next o r, ψ.next o r))) := by
  have hlater : Later w w' := .op hexec
  have hused : id ∈ w'.usedIds := Op.usedIds_exec hexec ▸ h.used
  -- no task gets a launch to offer from an operation of another
  have hoffered : ∀ t' origin' φ' ψ',
      Function.update minds t (some (origin, φ.next o r, ψ.next o r)) t' =
        some (origin', φ', ψ') → ¬ψ'.Offers id := by
    intro t' origin' φ' ψ' hmind' hoffers
    rcases of_update hmind' with ⟨-, heq⟩ | ⟨-, hother⟩
    · cases heq
      exact h.offered t origin φ ψ hmind (Launching.fades_next.offers hoffers)
    · exact h.offered t' origin' φ' ψ' hother hoffers
  cases Op.launchStep hexec id with
  -- a shim is launched by whoever offers the launch, and nobody does
  | launched request hok ho hid =>
      subst ho hid
      exact absurd hallows (h.offered t origin φ ψ hmind)
  -- a shim that asked before the removal
  | granted ho hgranted =>
      subst ho
      exact h.of_granted hmind hallows hlater hused hgranted hoffered
  | kept hkept =>
      refine h.of_kept hlater hused hkept hoffered fun hpending htaken => ⟨fun hid => ?_, ?_⟩
      · rcases pendingLaunches_exec hexec hid with hbefore | rfl
        · exact hpending hbefore
        · exact h.offered t origin φ ψ hmind hallows
      -- a launch that was taken was pending before, or taken before
      · intro t' origin' φ' ψ' hmind' hheld
        rcases of_update hmind' with ⟨-, heq⟩ | ⟨-, hother⟩
        · cases heq
          rcases taken_exec hexec hheld with hbefore | hbefore
          · exact htaken t origin φ ψ hmind hbefore
          · exact hpending hbefore
        · exact htaken t' origin' φ' ψ' hother hheld

theorem Finished.start (h : Finished id w minds) (hstart : w.start origin = some w') :
    Finished id w' (Function.update minds t
      (some (origin, Knowledge.first origin, Launching.first origin))) := by
  have hframe := World.start_frame hstart
  have hlater : Later w w' := .start hstart
  have hkept : ShimKept (w.shims.lookup id) (w'.shims.lookup id) := by
    rw [hframe]
    exact .refl _
  -- A session that is asked for is new.
  have hfirst : ¬(Launching.first origin).Offers id ∧ (Launching.first origin).taken ≠ some id := by
    cases origin with
    | spawn call =>
        obtain ⟨-, hunused, -⟩ := World.start_spawn hstart
        refine ⟨fun hoffers => hunused ?_, fun h => by cases h⟩
        cases hoffers.1
        exact h.used
    | _ => exact ⟨fun h => (by cases h.1), fun h => by cases h⟩
  refine h.of_kept hlater (World.start_usedIds hstart h.used) hkept ?_
    fun hpending htaken => ⟨?_, ?_⟩
  · intro t' origin' φ' ψ' hmind'
    rcases of_update hmind' with ⟨-, heq⟩ | ⟨-, hother⟩
    · cases heq
      exact hfirst.1
    · exact h.offered t' origin' φ' ψ' hother
  · rw [hframe]
    exact hpending
  · intro t' origin' φ' ψ' hmind'
    rcases of_update hmind' with ⟨-, heq⟩ | ⟨-, hother⟩
    · cases heq
      exact hfirst.2
    · exact htaken t' origin' φ' ψ' hother

theorem Finished.env (h : Finished id w minds) {event : EnvEvent}
    (henv : w.env event = some w') : Finished id w' minds := by
  have hframe := World.env_frame henv
  refine h.of_kept (.env henv) ?_ (shimKept_env henv id) h.offered fun hpending htaken =>
    ⟨?_, htaken⟩
  · rw [hframe]
    exact h.used
  · rw [hframe]
    exact hpending

theorem Finished.crash (h : Finished id w minds) : Finished id w.crashed fun _ => none := by
  have hlater : Later w w.crashed := .of_eq rfl rfl
  exact h.of_kept hlater h.used (.refl _) (fun _ _ _ _ hmind => (by cases hmind)) fun _ _ =>
    ⟨fun hid => (by cases hid), fun _ _ _ _ hmind => by cases hmind⟩

end Finished

/-- A finished session stays finished along every run. -/
theorem finished (id : SessionId) :
    Pool.Invariant followed (.none followed) (Finished id) where
  op h hmind hallows _ hexec := h.op hmind hallows.2 hexec
  start h _ hstart _ := h.start hstart
  env h _ henv := h.env henv
  crash h _ := h.crash

/-! ## Aborts that leave nothing to know -/

/-- The lifecycle records the exit of its runtime. -/
def hasExited (lc : Lifecycle) : Bool := lc.state.terminalKind = some .exited

/-- The runtime of the session was seen to end, or its exit was read. -/
def Knowledge.sawEnd (φ : Knowledge) (id : SessionId) : Bool :=
  id ∈ φ.ended || φ.reads.any fun lc => lc.sessionId = id && hasExited lc

/-- The shim of the session, if there is one, is over, or asks for its launch spec while the
daemon does not listen. -/
def World.shimIdle (w : World) (id : SessionId) : Bool :=
  (w.shims.lookup id).all fun shim =>
    shim.isOver || (shim.phase = .requesting && w.stage ≠ .listening)

/-- The reason of an abort holds, and tells that no runtime runs. A runtime spawn that failed
tells nothing of its shim, a kill may have failed, a lifecycle that was not found at startup
may be there, and one that does not run there may not have ended. -/
def reasonHolds (φ : Knowledge) (w : World) (id : SessionId) : AbortReason → Bool
  | .spawnFailure _ => false
  | .namespaceDeletedBeforeCommit => φ.sawEnd id
  | .sessionCommitFailed _ => φ.sawEnd id
  | .runtimeLifecycleMissing => (w.db.getLifecycle id).isNone
  | .runtimeLifecycleNotRunning => (w.db.getLifecycle id).any hasExited

/-- An intent is aborted for a reason that holds, or its shim is idle anyway. -/
def abortsOrderly (φ : Knowledge) (w : World) : Op → Bool
  | .store (.abortSpawnIntent id reason) => reasonHolds φ w id reason || w.shimIdle id
  | _ => true

/-- Every abort is orderly. -/
def orderly : Condition followed where
  op χ _ o w := abortsOrderly χ.1 w o = true

instance : orderly.Checkable where
  op χ _ o w := inferInstanceAs (Decidable (abortsOrderly χ.1 w o = true))
  start _ _ := .isTrue trivial
  env _ _ := .isTrue trivial
  crash _ := .isTrue trivial

section Removal

variable {id : SessionId} {w w' : World} {minds : LaunchMinds} {t : Nat} {origin : Origin}
  {φ : Knowledge} {ψ : Launching}

theorem over_of_runtimeEnded (h : w.runtimeEnded id = true) {shim : Shim}
    (hshim : w.shims.lookup id = some shim) : shim.isOver = true := by
  obtain ⟨ended, hended, hover⟩ := World.runtimeEnded_iff.mp h
  cases hshim.symm.trans hended
  rw [Shim.isOver, hover, Bool.true_or]

theorem TrueLifecycle.ended_of_hasExited {lc : Lifecycle} (h : TrueLifecycle w lc)
    (hexited : hasExited lc = true) : w.runtimeEnded lc.sessionId = true := by
  have hkind : lc.state.terminalKind = some .exited := of_decide_eq_true hexited
  cases hstate : lc.state with
  | exited exit => exact h.ended exit hstate
  | _ =>
      rw [hstate] at hkind
      cases hkind

/-- What was seen or read of the end of a runtime is true. -/
theorem TrueKnowledge.ended_of_sawEnd (h : TrueKnowledge w φ) (hsaw : φ.sawEnd id = true) :
    w.runtimeEnded id = true := by
  rw [Knowledge.sawEnd, Bool.or_eq_true, decide_eq_true_eq, List.any_eq_true] at hsaw
  rcases hsaw with hended | ⟨lc, hread, hlc⟩
  · exact h.ended id hended
  · rw [Bool.and_eq_true, decide_eq_true_eq] at hlc
    exact hlc.1 ▸ (h.reads lc hread).ended_of_hasExited hlc.2

/-- The runtime of a session that has a lifecycle has ended, when the reason of its abort
holds. -/
theorem ended_of_reasonHolds (hw : TrueWorld w) (hφ : TrueKnowledge w φ) {lc : Lifecycle}
    (hrow : w.db.getLifecycle id = some lc) {reason : AbortReason}
    (h : reasonHolds φ w id reason = true) : w.runtimeEnded id = true := by
  cases reason with
  | spawnFailure message => cases h
  | namespaceDeletedBeforeCommit => exact hφ.ended_of_sawEnd h
  | sessionCommitFailed message => exact hφ.ended_of_sawEnd h
  | runtimeLifecycleMissing =>
      rw [reasonHolds, hrow] at h
      cases h
  | runtimeLifecycleNotRunning =>
      rw [reasonHolds, hrow] at h
      rw [← Database.sessionId_of_getLifecycle hrow]
      exact (hw.rows id lc hrow).ended_of_hasExited h

/-- The shim of a session whose lifecycle an orderly abort takes away. -/
theorem idle_of_abortsOrderly (hw : TrueWorld w) (hφ : TrueKnowledge w φ) {lc : Lifecycle}
    (hrow : w.db.getLifecycle id = some lc) {reason : AbortReason}
    (h : abortsOrderly φ w (.store (.abortSpawnIntent id reason)) = true) {shim : Shim}
    (hshim : w.shims.lookup id = some shim) :
    shim.isOver = true ∨ (shim.phase = .requesting ∧ w.stage ≠ .listening) := by
  rw [abortsOrderly, Bool.or_eq_true] at h
  rcases h with hso | hidle
  · exact .inl (over_of_runtimeEnded (ended_of_reasonHolds hw hφ hrow hso) hshim)
  · rw [World.shimIdle, hshim] at hidle
    simpa using hidle

/-- What the runs say of the world and of each thread, as far as removals rest on it. -/
structure Followed (w : World) (minds : LaunchMinds) : Prop where
  standing : Standing w (firstMinds minds)
  agreement : Agreement w (firstMinds minds)
  facts : Facts w (firstMinds minds)
  launches : Launches w minds

/-- A session that has a lifecycle was asked for. -/
theorem used_of_lifecycle (h : Tables w) {lc : Lifecycle}
    (hrow : w.db.getLifecycle id = some lc) : id ∈ w.usedIds := by
  obtain ⟨row, hlookup, -⟩ := Option.map_eq_some_iff.mp hrow
  obtain ⟨status, hstatus⟩ := h.lifecycle id row hlookup
  obtain ⟨intent, hintent, -⟩ := Option.map_eq_some_iff.mp hstatus
  exact (h.intent id intent hintent).1

/-- An operation of the store by which the only program that may offer the launch of a session
gives it up, while its shim is idle. -/
theorem finished_of_store (h : Followed w minds) (hmind : minds t = some (origin, φ, ψ))
    {o : StoreOp} {r : Except DaemonError o.Res} {db : Database} (hused : id ∈ w.usedIds)
    (hgives : ¬(ψ.next (.store o) r).Offers id)
    (hmine : ψ.boots = true ∨ ψ.spawns = some id)
    (hidle : ∀ shim, w.shims.lookup id = some shim →
      shim.isOver = true ∨ (shim.phase = .requesting ∧ w.stage ≠ .listening)) :
    Finished id { w with db := db }
      (Function.update minds t (some (origin, φ.next (.store o) r, ψ.next (.store o) r))) := by
  refine ⟨hused, fun t' origin' φ' ψ' hmind' => ?_, fun shim hshim => ?_⟩
  · rcases of_update hmind' with ⟨-, heq⟩ | ⟨hne, hother⟩
    · cases heq
      exact hgives
    · intro hoffers
      rcases hmine with hboots | hspawns
      · have hlistening := (h.launches.spawning h.standing hother hoffers.1).1
        exact ((h.launches.threads t origin φ ψ hmind).boots hboots).2 hlistening
      · exact hne (h.launches.spawning_eq h.standing hother hoffers.1 hmind hspawns)
  · refine (hidle shim hshim).imp_right fun hrequesting => ?_
    obtain ⟨hphase, hstage⟩ := hrequesting
    -- A daemon that does not listen has no pending launch, and nobody has taken one.
    refine ⟨hphase, fun hid => hstage (h.launches.pending id hid), ?_⟩
    intro t' origin' φ' ψ' hmind' htaken
    rcases of_update hmind' with ⟨-, heq⟩ | ⟨-, hother⟩
    · cases heq
      have hbefore := Launching.taken_of_next (fun id' ho => by cases ho) htaken
      exact hstage ((h.launches.threads t origin φ ψ hmind).taken id hbefore)
    · exact hstage ((h.launches.threads t' origin' φ' ψ' hother).taken id htaken)

variable {choice : Choice} {o : Op} {r : Except DaemonError o.Res}

/-- An operation that takes the lifecycle of a session away, as an orderly abort or a
cancelled spawn, leaves the session finished. -/
theorem finished_of_removal (h : Followed w minds) (hmind : minds t = some (origin, φ, ψ))
    (hallows : followed.monitor.allows (φ, ψ) o) (horderly : abortsOrderly φ w o = true)
    (hexec : o.exec choice w = some (r, w')) {lc : Lifecycle}
    (hrow : w.db.getLifecycle id = some lc) (hgone : w'.db.getLifecycle id = none) :
    Finished id w' (Function.update minds t (some (origin, φ.next o r, ψ.next o r))) := by
  have hused := used_of_lifecycle h.agreement.tables hrow
  cases Op.rowStep hexec id with
  | same hsame =>
      rw [hsame, hrow] at hgone
      cases hgone
  | written written _ _ _ hstored =>
      rw [hstored] at hgone
      cases hgone
  | deleted hdeletes _ =>
      cases o with
      | memory o => cases hdeletes
      | log o => cases hdeletes
      | os o => cases hdeletes
      | store o =>
          obtain ⟨db, -, rfl⟩ := Op.exec_store hexec
          cases o with
          | deleteLifecycle id' =>
              cases hdeletes
              -- Its spawn still offers the launch, so that no shim was started.
              have hoffers : ψ.Offers id := hallows.2
              have hnone := (h.launches.threads t origin φ ψ hmind).offers id hoffers
              refine finished_of_store h hmind hused (fun h => ?_) (.inr hoffers.1)
                fun shim hshim => ?_
              · cases h.2
              · rw [hnone] at hshim
                cases hshim
          | abortSpawnIntent id' reason =>
              cases hdeletes
              have hφ := h.facts.threads t origin φ (firstMinds_eq_some hmind)
              refine finished_of_store h hmind hused (fun h => ?_)
                (hallows.2.imp_right fun hspawns => hspawns.1) fun shim hshim => ?_
              · cases h.2
              · exact idle_of_abortsOrderly h.facts.world hφ hrow horderly hshim
          | _ => cases hdeletes

end Removal

/-! ## Runs -/

/-- What the runs of a fresh daemon say of each world they reach. -/
theorem followed_of_reaches {createdAt : DateTime} {c : Pool followed}
    (h : Pool.Reaches (.none followed) (.initial followed (.fresh createdAt)) c) :
    c.Holds Followed := by
  obtain ⟨hconforming, hfresh, ⟨hstands, hagrees⟩, hlaunch⟩ :=
    Pool.Reaches.invariant settled (Pool.holds_initial (settled_fresh createdAt)) h
  have hfacts : Pool.Invariant followed (.none followed)
      fun w minds => Facts w (firstMinds minds) := facts.both Condition.refines_none
  have hfact := (Pool.Reaches.invariant hfacts (Pool.holds_initial (facts_fresh createdAt)) h).2.2
  exact ⟨hconforming, hfresh, hstands, hagrees, hfact, hlaunch⟩

/-- No untracked runtime: once the lifecycle of a session has been taken away, by an orderly
abort or a cancelled spawn, no runtime of the session runs, then or later on. -/
theorem removed_row_leaves_no_runtime {createdAt : DateTime} {c c' c'' : Pool followed}
    {id : SessionId}
    (hreach : Pool.Reaches (.none followed) (.initial followed (.fresh createdAt)) c)
    (hstep : Pool.Step orderly c c') (hrow : (c.shared.db.getLifecycle id).isSome = true)
    (hgone : c'.shared.db.getLifecycle id = none)
    (hlater : Pool.Reaches (.none followed) c' c'') : c''.shared.runtimeRuns id = false := by
  obtain ⟨hconforming, hfresh, hfollowed⟩ := followed_of_reaches hreach
  obtain ⟨lc, hrow⟩ := Option.isSome_iff_exists.mp hrow
  obtain ⟨label, hmeets, hnext⟩ := hstep
  have hfinished : c'.Holds (Finished id) := by
    refine ⟨hconforming.next hnext, hfresh.next hnext, ?_⟩
    -- the row was there, so it is the step's write that has removed it
    have hdb : ∀ {db : Database}, db = c.shared.db → db.getLifecycle id ≠ none := by
      rintro db rfl hnone
      rw [hrow] at hnone
      cases hnone
    cases label with
    -- only an operation on the store removes a row
    | crash =>
        cases hnext
        exact absurd hgone (hdb rfl)
    | env event =>
        obtain ⟨w', henv, rfl⟩ := Pool.next_env_eq_some hnext
        have hsame : w'.db = c.shared.db := by rw [World.env_frame henv]
        exact absurd hgone (hdb hsame)
    | start origin =>
        obtain ⟨w', hstart, rfl⟩ := Pool.next_start_eq_some hnext
        have hsame : w'.db = c.shared.db := by rw [World.start_frame hstart]
        exact absurd hgone (hdb hsame)
    | run t choice =>
        obtain ⟨thread, o, k, r, w', hthread, hprog, hexec, rfl⟩ := Pool.next_run_eq_some hnext
        have hallows := hconforming t thread hthread
        rw [hprog] at hallows
        have hmind : c.minds t = some (thread.origin, thread.know) := by
          rw [Pool.minds, hthread, Option.map_some]
        rw [Pool.minds_put]
        exact finished_of_removal hfollowed hmind hallows.1 (hmeets thread o k hthread hprog) hexec
          hrow hgone
  exact (Pool.Reaches.invariant (finished id) hfinished hlater).2.2.not_runtimeRuns

/-! ## A kill that sees the end, and a late shim -/

/-- The namespace is removed before the second transaction of the spawn. The runtime ends at
the signal of the kill, which finds its pid gone. -/
def killedRun : List (Label daemon) :=
  bootRun ++ launchRun ++ childRun ++ readyRun ++
    [.run 1 (.time 5), .run 1 (.time 6), .start (.removeNamespaceCatalog "default")] ++ ran 4 3 ++
    ran 1 2 ++
    [.run 1 (.flag true), .run 1 (.startTime (.known 3)), .run 1 (.kill .signalled),
      .run 1 (.count 1), .env (.childEnds sampleId ⟨some 0, none⟩), .run 1 .run,
      .run 1 (.flag false), .run 1 (.count 0), .run 1 .run, .run 1 (.logs .unavailable)]

/-- The intent is aborted, and the daemon crashes. -/
theorem removed_row_leaves_no_runtime_killedRun :
    ∃ c c' c'', (Pool.initial followed (.fresh 0)).follow (.none followed) killedRun = some c ∧
      c.follow orderly [.run 1 (.time 9)] = some c' ∧
      c'.follow (.none followed) [.crash] = some c'' ∧
      (c.shared.db.getLifecycle sampleId).isSome = true ∧
      c'.shared.db.getLifecycle sampleId = none ∧ c''.shared.runtimeRuns sampleId = false := by
  have hrun : ∃ c c' c'',
      (Pool.initial followed (.fresh 0)).follow (.none followed) killedRun = some c ∧
      c.follow orderly [.run 1 (.time 9)] = some c' ∧
      c'.follow (.none followed) [.crash] = some c'' ∧
      (c.shared.db.getLifecycle sampleId).isSome = true ∧
      c'.shared.db.getLifecycle sampleId = none := ⟨_, _, _, rfl, rfl, rfl, rfl, rfl⟩
  obtain ⟨c, c', c'', hc, hc', hc'', hrow, hgone⟩ := hrun
  refine ⟨c, c', c'', hc, hc', hc'', hrow, hgone, ?_⟩
  exact removed_row_leaves_no_runtime (Pool.reaches_of_follow hc) (Pool.step_of_follow hc') hrow
    hgone (Pool.reaches_of_follow hc'')

/-- A spawn whose wait for the shim elapses aborts its intent and leaves its launch pending.
The shim takes the launch spec and starts the runtime of a session without a lifecycle. -/
theorem late_shim_runs_untracked :
    ∃ c c' c'' : Pool followed,
      Pool.Reaches (.none followed) (.initial followed (.fresh 0)) c ∧
      Pool.Step (.none followed) c c' ∧ (c.shared.db.getLifecycle sampleId).isSome = true ∧
      c'.shared.db.getLifecycle sampleId = none ∧ Pool.Reaches (.none followed) c' c'' ∧
      c''.shared.runtimeRuns sampleId = true := by
  have hrun : ∃ c c' c'', (Pool.initial followed (.fresh 0)).follow (.none followed)
        (bootRun ++ launchRun ++ [.run 1 .elapsed]) = some c ∧
      c.follow (.none followed) [.run 1 (.time 5)] = some c' ∧
      c'.follow (.none followed) childRun = some c'' ∧
      (c.shared.db.getLifecycle sampleId).isSome = true ∧
      c'.shared.db.getLifecycle sampleId = none ∧
      c''.shared.runtimeRuns sampleId = true := ⟨_, _, _, rfl, rfl, rfl, rfl, rfl, rfl⟩
  obtain ⟨c, c', c'', hc, hc', hc'', hrow, hgone, hruns⟩ := hrun
  exact ⟨c, c', c'', Pool.reaches_of_follow hc, Pool.step_of_follow hc', hrow, hgone,
    Pool.reaches_of_follow hc'', hruns⟩

end LittleOrgans.Concurrency
