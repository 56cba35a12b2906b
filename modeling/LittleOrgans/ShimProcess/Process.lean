import LittleOrgans.Concurrency.DaemonMachine
import LittleOrgans.ShimProcess.Conformance

/-!
# The shim as a process

The shim beside its child: what each operation does, while the child can end at any time, the
shim can be told to terminate, and can be killed. The start time that the shim reports is fixed
with the child; the daemon's answers are acknowledged when the shim has them.

The machine of the daemon has shims of its own, as part of its environment.
`shimProcess_refines` says that they stand for this process: what it sends, the daemon's machine
can take, and what it does, that machine can do. `shimProcess_ends` says what a run has achieved
when it ends, and `shimProcess_signals` which signals it sends.
-/

set_option autoImplicit false

namespace LittleOrgans.ShimProcess

open LittleOrgans.Core
open LittleOrgans.Library
open LittleOrgans.Concurrency

/-! ## Operations -/

/-- The shim, its child, and the clock. -/
structure ShimWorld where
  shim : Shim
  /-- `SIGTERM_RECEIVED`. -/
  sigterm : Bool
  clock : Nat
  started : Bool
  /-- When the child was sent `SIGTERM`. -/
  termedAt : Option Nat
  /-- The exit that the daemon has taken. -/
  exitAcked : Option RuntimeExit

/-- What the environment decides about one operation. -/
inductive ShimChoice where
  | run
  | fault (error : Report)
  | path (text : String)
  | launch (spec : LaunchSpec)
  | child (pid : Pid) (startTime : DateTime)
  | startTime (answer : Option DateTime)
  | status (answer : Option ExitStatus)
  | time (now : Nat)

/-- An operation the environment has no say in. -/
def ShimChoice.ran {α : Type} (choice : ShimChoice) (a : α) : Option α :=
  match choice with
  | .run => some a
  | _ => none

theorem ShimChoice.of_ran {α : Type} {choice : ShimChoice} {a b : α}
    (h : choice.ran a = some b) : b = a := by
  cases choice with
  | run =>
      cases h
      rfl
  | _ => cases h

/-- The start time of a child. -/
def startTimeOf : ShimPhase → Option DateTime
  | .requesting => none
  | .launched => none
  | .running _ startTime => some startTime
  | .ended _ startTime _ => some startTime

/-- What a poll of the child can find. -/
def pollFinds : ShimPhase → Option ExitStatus → Bool
  | .running _ _, none => true
  | .ended _ _ exit, some status => decide (runtimeExit status = exit)
  | _, _ => false

namespace ShimOp

/-- Operations that report no error. -/
def infallible : ShimOp → Bool
  | nudgeCursorOffTopRow => true
  | now => true
  | takeSigterm => true
  | instant => true
  | sleep _ => true
  | _ => false

/-- An operation of the shim that goes through. -/
def run (choice : ShimChoice) (w : ShimWorld) : (o : ShimOp) → Option (o.Res × ShimWorld)
  | installDisposition _ _ => choice.ran ((), w)
  | socketPath =>
      match choice with
      | .path text => some (text, w)
      | _ => none
  | requestLaunch _ =>
      match choice with
      | .launch spec => some (spec, { w with shim := OsOp.grantLaunch w.shim })
      | _ => none
  | nudgeCursorOffTopRow => choice.ran ((), w)
  | spawn _ =>
      match choice with
      | .child pid startTime =>
          some (pid, { w with shim := { w.shim with phase := .running pid startTime } })
      | _ => none
  | startTimeForPid _ =>
      match choice with
      | .startTime answer =>
          if answer = none ∨ answer = startTimeOf w.shim.phase then some (answer, w) else none
      | _ => none
  | now => (startTimeOf w.shim.phase).bind fun startTime => choice.ran (startTime, w)
  | sendReady _ => choice.ran ((), { w with shim := { w.shim with readyAcked := true } })
  | sendExit exit => choice.ran ((), { w with exitAcked := some exit.exit })
  | tryWait =>
      match choice with
      | .status answer => if pollFinds w.shim.phase answer then some (answer, w) else none
      | _ => none
  | wait =>
      match choice with
      | .status (some answer) =>
          if pollFinds w.shim.phase (some answer) then some (answer, w) else none
      | _ => none
  | takeSigterm => choice.ran (w.sigterm, { w with sigterm := false })
  | instant =>
      match choice with
      | .time reading =>
          if w.clock ≤ reading then some (reading, { w with clock := reading }) else none
      | _ => none
  | sendSignal pid signal =>
      if signal = .kill then
        choice.ran ((), { w with
          shim := if w.shim.runs pid then w.shim.endRuntime OsOp.killedExit else w.shim })
      else choice.ran ((), { w with termedAt := some (w.termedAt.getD w.clock) })
  | sleep millis =>
      match choice with
      | .time reading =>
          if w.clock + millis ≤ reading then some ((), { w with clock := reading }) else none
      | _ => none
  | execReplace _ => none

/-- An operation that fails has no effect. -/
def exec (choice : ShimChoice) (o : ShimOp) (w : ShimWorld) :
    Option (Except Report o.Res × ShimWorld) :=
  match choice with
  | .fault e => if o.infallible then none else some (.error e, w)
  | choice => (o.run choice w).map fun result => (.ok result.1, result.2)

variable {choice : ShimChoice} {o : ShimOp} {w w' : ShimWorld}

theorem exec_error {e : Report} (h : o.exec choice w = some (.error e, w')) : w' = w := by
  unfold exec at h
  split at h
  · split at h
    · cases h
    · cases h
      rfl
  · obtain ⟨result, -, hresult⟩ := Option.map_eq_some_iff.mp h
    cases hresult

theorem exec_ok {a : o.Res} (h : o.exec choice w = some (.ok a, w')) :
    o.run choice w = some (a, w') := by
  unfold exec at h
  split at h
  · split at h
    · cases h
    · cases h
  · obtain ⟨result, hrun, hresult⟩ := Option.map_eq_some_iff.mp h
    cases hresult
    exact hrun

end ShimOp

/-- What happens around the shim. -/
inductive ShimEvent where
  | childEnds (status : ExitStatus)
  | sigterm
  | timePasses (now : Nat)

namespace ShimWorld

/-- The daemon has just launched the shim. -/
def new (shimPid : Pid) : ShimWorld where
  shim := OsOp.newShim shimPid
  sigterm := false
  clock := 0
  started := false
  termedAt := none
  exitAcked := none

/-- A process runs once. -/
def start (w : ShimWorld) : Option ShimWorld :=
  if w.shim.alive && !w.started then some { w with started := true } else none

/-- What happens around the shim. -/
def env (w : ShimWorld) : ShimEvent → Option ShimWorld
  | .childEnds status => some { w with shim := w.shim.endRuntime (runtimeExit status) }
  | .sigterm => some { w with sigterm := true }
  | .timePasses now => if w.clock ≤ now then some { w with clock := now } else none

/-- The shim is killed; its child is not. -/
def crash (w : ShimWorld) : ShimWorld := { w with shim := { w.shim with alive := false } }

end ShimWorld

/-- The shim of a session; a run may take so many polls. -/
abbrev shimProcess (id : SessionId) (shimPid : Pid) : Machine shimOps Report where
  Shared := ShimWorld
  Choice := ShimChoice
  Origin := Nat
  Env := ShimEvent
  Result := ShimEnd
  exec := fun choice o w => o.exec choice w
  start := fun _ w => w.start
  program := runForSessionBlocking id shimPid
  env := fun event w => w.env event
  crash := ShimWorld.crash

/-- The process, followed by what it has seen. -/
abbrev shimWatch (id : SessionId) (shimPid : Pid) : Watch (shimProcess id shimPid) where
  monitor := shimMonitor id shimPid
  first _ := .new
  post _ := Outcome Finished
  conforms _ := conforms_runForSessionBlocking
  returns _ := trivial

/-- A state of the shim. -/
def ShimReaches (id : SessionId) (shimPid : Pid) (c : Pool (shimWatch id shimPid)) : Prop :=
  Pool.Reaches (.none (shimWatch id shimPid))
    (Pool.initial (shimWatch id shimPid) (.new shimPid)) c

/-! ## What a shim knows is true -/

/-- The phase of a shim that has seen this. -/
def PhaseOf (φ : Knowledge) (phase : ShimPhase) : Prop :=
  match φ.child with
  | none => phase = if φ.launched then .launched else .requesting
  | some pid => ∃ startTime, (∀ t, φ.startTime = some t → t = startTime) ∧
      ((phase = .running pid startTime ∧ φ.exit = none) ∨
        ∃ exit, phase = .ended pid startTime exit ∧ ∀ e, φ.exit = some e → e = exit)

/-- What the shim knows of its runtime is so. -/
structure Agrees (shimPid : Pid) (φ : Knowledge) (w : ShimWorld) : Prop where
  started : w.started = true
  alive : w.shim.alive = true
  pid : w.shim.shimPid = shimPid
  launched : φ.launched = false → φ.child = none
  childless : φ.child = none → φ.startTime = none ∧ φ.exit = none
  phase : PhaseOf φ w.shim.phase
  acked : w.shim.readyAcked = φ.acked
  heard : φ.exit.isSome = true → φ.acked = true
  clock : φ.clock ≤ w.clock
  termed : φ.termed = true → ∃ since, w.termedAt = some since ∧ since ≤ w.clock ∧
    ∀ deadline, φ.deadline = some deadline → since + SIGTERM_GRACE ≤ deadline
  untermed : φ.termed = false → w.termedAt = none ∧ φ.deadline = none
  reported : φ.reported = true → φ.exit.isSome = true ∧ w.exitAcked = φ.exit

variable {id : SessionId} {shimPid : Pid} {φ : Knowledge} {w w' : ShimWorld}

/-- The process has not begun. -/
structure Unstarted (shimPid : Pid) (w : ShimWorld) : Prop where
  shim : w.shim = { OsOp.newShim shimPid with alive := w.shim.alive }
  termedAt : w.termedAt = none

theorem Unstarted.agrees (h : Unstarted shimPid w) (halive : w.shim.alive = true) :
    Agrees shimPid .new { w with started := true } where
  started := rfl
  alive := halive
  pid := by rw [h.shim]; rfl
  launched _ := rfl
  childless _ := ⟨rfl, rfl⟩
  phase := by rw [h.shim]; rfl
  acked := by rw [h.shim]; rfl
  heard hnew := by cases hnew
  clock := Nat.zero_le _
  termed hnew := by cases hnew
  untermed _ := ⟨h.termedAt, rfl⟩
  reported hnew := by cases hnew

/-- What the requests and the handler say does not matter here. -/
theorem Agrees.of_seen {ψ : Knowledge} (h : Agrees shimPid φ w)
    (hlaunched : ψ.launched = φ.launched) (hchild : ψ.child = φ.child)
    (hstart : ψ.startTime = φ.startTime) (hacked : ψ.acked = φ.acked)
    (htermed : ψ.termed = φ.termed) (hdeadline : (ψ.deadline, ψ.clock) = (φ.deadline, φ.clock))
    (hexit : ψ.exit = φ.exit) (hreported : ψ.reported = φ.reported) : Agrees shimPid ψ w := by
  obtain ⟨hdeadline, hclock⟩ := Prod.mk.inj hdeadline
  have hphase := h.phase
  refine ⟨h.started, h.alive, h.pid, ?_, ?_, ?_, ?_, ?_, ?_, ?_, ?_, ?_⟩
  · rw [hlaunched, hchild]
    exact h.launched
  · rw [hchild, hstart, hexit]
    exact h.childless
  · rw [PhaseOf] at hphase ⊢
    rwa [hchild, hlaunched, hstart, hexit]
  · rw [hacked]
    exact h.acked
  · rw [hexit, hacked]
    exact h.heard
  · rw [hclock]
    exact h.clock
  · rw [htermed, hdeadline]
    exact h.termed
  · rw [htermed, hdeadline]
    exact h.untermed
  · rw [hreported, hexit]
    exact h.reported

/-- Time passes. -/
theorem Agrees.later (h : Agrees shimPid φ w) {reading : Nat} (hlater : w.clock ≤ reading) :
    Agrees shimPid φ { w with clock := reading } := by
  refine { h with clock := h.clock.trans hlater, termed := ?_ }
  intro htermed
  obtain ⟨since, hsince, hclock, hdeadline⟩ := h.termed htermed
  exact ⟨since, hsince, hclock.trans hlater, hdeadline⟩

/-- The end of the child. -/
theorem Agrees.endRuntime (h : Agrees shimPid φ w) (exit : RuntimeExit) :
    Agrees shimPid φ { w with shim := w.shim.endRuntime exit } := by
  cases hphase : w.shim.phase with
  | running pid startTime =>
      have hshim : w.shim.endRuntime exit = { w.shim with phase := .ended pid startTime exit } := by
        rw [Shim.endRuntime, hphase]
      rw [hshim]
      refine { h with phase := ?_ }
      have hknown := h.phase
      rw [hphase, PhaseOf] at hknown
      rw [PhaseOf]
      cases hchild : φ.child with
      | none =>
          rw [hchild] at hknown
          by_cases hlaunched : φ.launched
          · simp [hlaunched] at hknown
          · simp [hlaunched] at hknown
      | some child =>
          simp only [hchild] at hknown
          obtain ⟨startTime', hstart, ⟨hrunning, hexit⟩ | ⟨exit', hended, -⟩⟩ := hknown
          · cases hrunning
            refine ⟨startTime, hstart, .inr ⟨exit, rfl, fun e he => ?_⟩⟩
            rw [hexit] at he
            cases he
          · cases hended
  | requesting =>
      have hshim : w.shim.endRuntime exit = w.shim := by rw [Shim.endRuntime, hphase]
      rw [hshim]
      exact h
  | launched =>
      have hshim : w.shim.endRuntime exit = w.shim := by rw [Shim.endRuntime, hphase]
      rw [hshim]
      exact h
  | ended pid startTime exit' =>
      have hshim : w.shim.endRuntime exit = w.shim := by rw [Shim.endRuntime, hphase]
      rw [hshim]
      exact h

/-- What a failed operation lets the shim see says nothing about the child. -/
theorem Agrees.failed (h : Agrees shimPid φ w) (o : ShimOp) (e : Report) :
    Agrees shimPid (φ.next o (.error e)) w := by
  cases o with
  | sendSignal pid signal =>
      cases signal <;>
        exact h.of_seen rfl rfl rfl rfl rfl rfl rfl rfl
  | _ => exact h.of_seen rfl rfl rfl rfl rfl rfl rfl rfl

/-- The child of a shim that watches it. -/
theorem Agrees.watched (h : Agrees shimPid φ w) {pid : Pid} (hwatches : φ.Watches pid) :
    ∃ startTime, (∀ t, φ.startTime = some t → t = startTime) ∧
      (w.shim.phase = .running pid startTime ∨
        ∃ exit, w.shim.phase = .ended pid startTime exit) := by
  have hphase := h.phase
  rw [PhaseOf, hwatches.1] at hphase
  obtain ⟨startTime, hstart, hrun | ⟨exit, hended, -⟩⟩ := hphase
  · exact ⟨startTime, hstart, .inl hrun.1⟩
  · exact ⟨startTime, hstart, .inr ⟨exit, hended⟩⟩

/-- A start time that was read is the one of the child. -/
theorem Agrees.setStartTime (h : Agrees shimPid φ w) {pid : Pid} (hchild : φ.child = some pid)
    {answer : Option DateTime} (hanswer : answer = none ∨ answer = startTimeOf w.shim.phase) :
    Agrees shimPid { φ with startTime := answer } w := by
  refine { h with childless := ?_, phase := ?_ }
  · intro hnone
    exact absurd (hchild.symm.trans hnone) nofun
  · have hphase := h.phase
    simp only [PhaseOf, hchild] at hphase ⊢
    obtain ⟨startTime, -, hphase⟩ := hphase
    refine ⟨startTime, fun t ht => ?_, hphase⟩
    rcases hanswer with hnone | hsame
    · exact absurd (hnone.symm.trans ht) nofun
    · rw [ht] at hsame
      rcases hphase with ⟨hrunning, -⟩ | ⟨exit, hended, -⟩
      · rw [hrunning] at hsame
        exact Option.some.inj hsame
      · rw [hended] at hsame
        exact Option.some.inj hsame

/-- A poll sees the end that the child has come to. -/
theorem Agrees.setExit (h : Agrees shimPid φ w) {pid : Pid} (hwatches : φ.Watches pid)
    {answer : Option ExitStatus} (hfinds : pollFinds w.shim.phase answer = true) :
    Agrees shimPid { φ with exit := answer.map runtimeExit } w := by
  obtain ⟨hchild, hacked, hexit⟩ := hwatches
  refine { h with childless := ?_, phase := ?_, heard := fun _ => hacked, reported := ?_ }
  · intro hnone
    exact absurd (hchild.symm.trans hnone) nofun
  · have hphase := h.phase
    simp only [PhaseOf, hchild] at hphase ⊢
    obtain ⟨startTime, hstart, ⟨hrunning, -⟩ | ⟨exit, hended, -⟩⟩ := hphase
    · rw [hrunning] at hfinds
      cases answer with
      | none => exact ⟨startTime, hstart, .inl ⟨hrunning, rfl⟩⟩
      | some status => cases hfinds
    · rw [hended] at hfinds
      cases answer with
      | none => cases hfinds
      | some status =>
          have hsame : runtimeExit status = exit := of_decide_eq_true hfinds
          refine ⟨startTime, hstart, .inr ⟨exit, hended, fun e he => ?_⟩⟩
          exact (Option.some.inj he).symm.trans hsame
  · intro hreported
    have hsome := (h.reported hreported).1
    rw [hexit] at hsome
    cases hsome

theorem Agrees.exec_ok (h : Agrees shimPid φ w) {o : ShimOp} (hallowed : φ.Allowed id shimPid o)
    {choice : ShimChoice} {a : o.Res} (hrun : o.run choice w = some (a, w')) :
    Agrees shimPid (φ.next o (.ok a)) w' := by
  cases o with
  | installDisposition signal disposition =>
      cases ShimChoice.of_ran hrun
      exact h
  | socketPath =>
      cases choice with
      | path text =>
          cases hrun
          exact h
      | _ => cases hrun
  | requestLaunch id' =>
      obtain ⟨-, hlaunched, -⟩ := hallowed
      cases choice with
      | launch spec =>
          cases hrun
          have hchild := h.launched hlaunched
          have hphase := h.phase
          simp only [PhaseOf, hchild, hlaunched] at hphase
          have hgrant : OsOp.grantLaunch w.shim = { w.shim with phase := .launched } :=
            if_pos hphase
          rw [hgrant]
          refine { h with launched := (by intro hnot; cases hnot), phase := ?_ }
          simp only [PhaseOf, Knowledge.next, hchild, if_true]
      | _ => cases hrun
  | nudgeCursorOffTopRow =>
      cases ShimChoice.of_ran hrun
      exact h
  | spawn command =>
      obtain ⟨hlaunched, hchild⟩ := hallowed
      cases choice with
      | child pid startTime =>
          cases hrun
          obtain ⟨hstart, hexit⟩ := h.childless hchild
          refine { h with launched := ?_, childless := (by intro hnot; cases hnot), phase := ?_ }
          · intro hnot
            exact absurd (hlaunched.symm.trans hnot) (by decide)
          · refine ⟨startTime, fun t ht => ?_, .inl ⟨rfl, hexit⟩⟩
            cases hstart.symm.trans ht
      | _ => cases hrun
  | startTimeForPid pid =>
      obtain ⟨-, hchild, hnone⟩ := hallowed
      cases choice with
      | startTime answer =>
          obtain ⟨hanswer, hrun⟩ := Option.ite_none_right_eq_some.mp hrun
          cases hrun
          exact h.setStartTime hchild hanswer
      | _ => cases hrun
  | now =>
      obtain ⟨-, hchild, hnone⟩ := hallowed
      obtain ⟨startTime, hstart, hran⟩ := Option.bind_eq_some_iff.mp hrun
      cases ShimChoice.of_ran hran
      obtain ⟨pid, hpid⟩ := Option.isSome_iff_exists.mp hchild
      exact h.setStartTime hpid (.inr hstart.symm)
  | sendReady ready =>
      cases ShimChoice.of_ran hrun
      exact { h with acked := rfl, heard := fun _ => rfl }
  | sendExit exit =>
      obtain ⟨-, -, -, -, -, -, hexit⟩ := hallowed
      cases ShimChoice.of_ran hrun
      refine { h with reported := fun _ => ?_ }
      exact ⟨by rw [Knowledge.next, hexit]; rfl, hexit.symm⟩
  | tryWait =>
      obtain ⟨-, pid, hwatches⟩ := hallowed
      cases choice with
      | status answer =>
          obtain ⟨hfinds, hrun⟩ := Option.ite_none_right_eq_some.mp hrun
          cases hrun
          exact h.setExit hwatches hfinds
      | _ => cases hrun
  | wait =>
      obtain ⟨-, pid, hwatches⟩ := hallowed
      cases choice with
      | status answer =>
          cases answer with
          | none => cases hrun
          | some answer =>
              obtain ⟨hfinds, hrun⟩ := Option.ite_none_right_eq_some.mp hrun
              cases hrun
              exact h.setExit hwatches hfinds
      | _ => cases hrun
  | takeSigterm =>
      cases ShimChoice.of_ran hrun
      exact { h with }
  | instant =>
      cases choice with
      | time reading =>
          obtain ⟨hlater, hrun⟩ := Option.ite_none_right_eq_some.mp hrun
          cases hrun
          have hnow := h.later hlater
          refine { h with clock := Nat.le_refl _, termed := ?_, untermed := ?_ }
          · intro htermed
            have hgrace : φ.termed = true := htermed
            obtain ⟨since, hsince, hclock, hdeadline⟩ := hnow.termed hgrace
            refine ⟨since, hsince, hclock, fun deadline hnext => ?_⟩
            simp only [Knowledge.next, hgrace, if_true] at hnext
            cases hbefore : φ.deadline with
            | some before =>
                rw [hbefore] at hnext
                cases hnext
                exact hdeadline _ hbefore
            | none =>
                rw [hbefore] at hnext
                cases hnext
                exact Nat.add_le_add_right hclock _
          · intro htermed
            have hclean : φ.termed = false := htermed
            refine ⟨(h.untermed hclean).1, ?_⟩
            simp only [Knowledge.next, hclean]
            exact (h.untermed hclean).2
      | _ => cases hrun
  | sendSignal pid signal =>
      obtain ⟨-, hwatches, hsignal⟩ := hallowed
      cases signal with
      | hup => exact absurd hsignal not_false
      | int => exact absurd hsignal not_false
      | term =>
          cases ShimChoice.of_ran hrun
          obtain ⟨hsince, hdeadline⟩ := h.untermed hsignal.2
          refine { h with termed := ?_, untermed := (by intro hnot; cases hnot) }
          intro _
          refine ⟨w.clock, ?_, Nat.le_refl _, fun deadline hnext => ?_⟩
          · simp only [hsince, Option.getD_none]
          · cases hdeadline.symm.trans hnext
      | kill =>
          cases ShimChoice.of_ran hrun
          by_cases hruns : w.shim.runs pid
          · simp only [hruns, if_true]
            exact h.endRuntime OsOp.killedExit
          · simp only [hruns]
            exact h
  | sleep millis =>
      cases choice with
      | time reading =>
          obtain ⟨hlater, hrun⟩ := Option.ite_none_right_eq_some.mp hrun
          cases hrun
          exact h.later ((Nat.le_add_right _ _).trans hlater)
      | _ => cases hrun
  | execReplace command => cases hrun

/-- An end that was seen is the end of the child. -/
theorem Agrees.ended (h : Agrees shimPid φ w) {exit : RuntimeExit} (hexit : φ.exit = some exit) :
    ∃ pid startTime, w.shim.phase = .ended pid startTime exit := by
  have hphase := h.phase
  cases hchild : φ.child with
  | none =>
      have hnone := (h.childless hchild).2
      rw [hexit] at hnone
      cases hnone
  | some pid =>
      simp only [PhaseOf, hchild] at hphase
      obtain ⟨startTime, -, ⟨-, hnone⟩ | ⟨exit', hended, hsame⟩⟩ := hphase
      · rw [hexit] at hnone
        cases hnone
      · rw [hsame exit hexit]
        exact ⟨pid, startTime, hended⟩

theorem Agrees.not_isRunning (h : Agrees shimPid φ w) (hexit : φ.exit.isSome = true) :
    w.shim.isRunning = false := by
  obtain ⟨exit, hsome⟩ := Option.isSome_iff_exists.mp hexit
  obtain ⟨pid, startTime, hended⟩ := h.ended hsome
  rw [Shim.isRunning, hended]

theorem Agrees.exec (h : Agrees shimPid φ w) {o : ShimOp} (hallowed : φ.Allowed id shimPid o)
    {choice : ShimChoice} {r : Except Report o.Res} (hexec : o.exec choice w = some (r, w')) :
    Agrees shimPid (φ.next o r) w' := by
  cases r with
  | ok a => exact h.exec_ok hallowed (ShimOp.exec_ok hexec)
  | error e =>
      rw [ShimOp.exec_error hexec]
      exact h.failed o e

theorem Unstarted.endRuntime (h : Unstarted shimPid w) (exit : RuntimeExit) :
    w.shim.endRuntime exit = w.shim := by
  have hphase : w.shim.phase = .requesting := by rw [h.shim]; rfl
  rw [Shim.endRuntime, hphase]

/-- What holds of the process and of what it has seen. -/
structure ShimInv (shimPid : Pid) (w : ShimWorld) (minds : Nat → Option (Nat × Knowledge)) :
    Prop where
  agrees : ∀ t origin φ, minds t = some (origin, φ) → Agrees shimPid φ w
  one : ∀ t t' mind mind', minds t = some mind → minds t' = some mind' → t = t'
  unstarted : w.started = false → Unstarted shimPid w

theorem shimInv (id : SessionId) (shimPid : Pid) :
    Pool.Invariant (shimWatch id shimPid) (.none _) (ShimInv shimPid) where
  op := by
    intro w minds t origin φ choice o r w' hinv hmind hallowed _ hexec
    have hagrees := (hinv.agrees t origin φ hmind).exec hallowed hexec
    refine ⟨?_, ?_, ?_⟩
    · intro t' origin' φ' hmind'
      rcases Pool.of_update hmind' with ⟨-, hsame⟩ | ⟨hne, hold⟩
      · cases hsame
        exact hagrees
      · exact absurd (hinv.one t' t _ _ hold hmind) hne
    · intro t₁ t₂ mind₁ mind₂ h₁ h₂
      have hall : ∀ t' mind', Function.update minds t (some (origin, φ.next o r)) t' =
          some mind' → t' = t := by
        intro t' mind' h'
        rcases Pool.of_update h' with ⟨heq, -⟩ | ⟨-, hold⟩
        · exact heq
        · exact hinv.one t' t _ _ hold hmind
      exact (hall t₁ mind₁ h₁).trans (hall t₂ mind₂ h₂).symm
    · intro hnot
      exact absurd (hagrees.started.symm.trans hnot) nofun
  start := by
    intro w minds t origin w' hinv _ hstart hfree
    obtain ⟨hmay, hw⟩ := Option.ite_none_right_eq_some.mp hstart
    cases hw
    rw [Bool.and_eq_true, Bool.not_eq_true'] at hmay
    have hnone : ∀ t' mind', minds t' = some mind' → False := by
      rintro t' ⟨origin', φ'⟩ hmind'
      exact absurd ((hinv.agrees t' origin' φ' hmind').started.symm.trans hmay.2) nofun
    refine ⟨?_, ?_, ?_⟩
    · intro t' origin' φ' hmind'
      rcases Pool.of_update hmind' with ⟨-, hsame⟩ | ⟨-, hold⟩
      · cases hsame
        exact (hinv.unstarted hmay.2).agrees hmay.1
      · exact absurd hold (hnone t' _)
    · intro t₁ t₂ mind₁ mind₂ h₁ h₂
      rcases Pool.of_update h₁ with ⟨rfl, -⟩ | ⟨-, hold⟩
      · rcases Pool.of_update h₂ with ⟨heq, -⟩ | ⟨-, hold⟩
        · exact heq.symm
        · exact absurd hold (hnone t₂ _)
      · exact absurd hold (hnone t₁ _)
    · intro hnot
      cases hnot
  env := by
    intro w minds event w' hinv _ henv
    cases event with
    | childEnds status =>
        cases henv
        refine ⟨fun t origin φ hmind => (hinv.agrees t origin φ hmind).endRuntime _, hinv.one,
          fun hnot => ?_⟩
        have hunstarted := hinv.unstarted hnot
        refine ⟨?_, hunstarted.termedAt⟩
        simp only [hunstarted.endRuntime]
        exact hunstarted.shim
    | sigterm =>
        cases henv
        refine ⟨fun t origin φ hmind => ?_, hinv.one, fun hnot =>
          ⟨(hinv.unstarted hnot).shim, (hinv.unstarted hnot).termedAt⟩⟩
        have h := hinv.agrees t origin φ hmind
        exact { h with }
    | timePasses now =>
        obtain ⟨hlater, hw⟩ := Option.ite_none_right_eq_some.mp henv
        cases hw
        exact ⟨fun t origin φ hmind => (hinv.agrees t origin φ hmind).later hlater, hinv.one,
          fun hnot => ⟨(hinv.unstarted hnot).shim, (hinv.unstarted hnot).termedAt⟩⟩
  crash := by
    intro w minds hinv _
    refine ⟨?_, ?_, ?_⟩
    · intro t origin φ hmind
      cases hmind
    · intro t t' mind mind' hmind
      cases hmind
    · intro hnot
      have hunstarted := hinv.unstarted hnot
      refine ⟨?_, hunstarted.termedAt⟩
      have hshim : (ShimWorld.crash w).shim = { w.shim with alive := false } := rfl
      rw [hshim, hunstarted.shim]

variable {c c' : Pool (shimWatch id shimPid)}

theorem ShimReaches.holds (h : ShimReaches id shimPid c) : c.Holds (ShimInv shimPid) := by
  refine Pool.Reaches.invariant (shimInv id shimPid) (Pool.holds_initial ⟨?_, ?_, ?_⟩) h
  · intro t origin φ hmind
    cases hmind
  · intro t t' mind mind' hmind
    cases hmind
  · intro _
    exact ⟨rfl, rfl⟩

theorem ShimReaches.agrees (h : ShimReaches id shimPid c) {t : Nat}
    {thread : Thread (shimWatch id shimPid)} (hthread : c.threads t = some thread) :
    Agrees shimPid thread.know c.shared := by
  refine h.holds.2.2.agrees t thread.origin thread.know ?_
  rw [Pool.minds, hthread, Option.map_some]

/-- What a shim is about to do. -/
theorem ShimReaches.allowed (h : ShimReaches id shimPid c) {t : Nat}
    {thread : Thread (shimWatch id shimPid)} (hthread : c.threads t = some thread) {o : ShimOp}
    {k : Except Report o.Res → ShimProg ShimEnd} (hprog : thread.prog = .op o k) :
    thread.know.Allowed id shimPid o := by
  have hconforms := h.holds.1 t thread hthread
  rw [hprog] at hconforms
  exact hconforms.1

/-! ## A run -/

/-- A launch spec of one command. -/
def sampleLaunch : LaunchSpec where
  argv := ["agent"]
  env := []
  cwd := "/work"
  shellResume := none

/-- What was decided about the operations of the process, one by one. -/
def decided (choices : List ShimChoice) : List (Label (shimProcess ⟨1⟩ 40)) :=
  choices.map (Label.run 0)

/-- A run up to the ready report. -/
def sampleRun : List (Label (shimProcess ⟨1⟩ 40)) :=
  .start (3 : Nat) :: decided [.run, .run, .path "/run/daemon.sock", .launch sampleLaunch, .run,
    .child 41 7, .startTime (some 7)]

/-- The child exits with code 2. -/
def sampleEnd : List (Label (shimProcess ⟨1⟩ 40)) :=
  sampleRun ++ .env (ShimEvent.childEnds (.exited 2)) ::
    decided [.run, .run, .status (some (.exited 2)), .run]

/-- The shim is told to terminate, and its child does not end in the grace. -/
def sampleKill : List (Label (shimProcess ⟨1⟩ 40)) :=
  sampleRun ++ .env ShimEvent.sigterm ::
    decided [.run, .run, .status none, .run, .run, .time 0, .time 5000]

/-- The state behind a run. -/
def shimBehind (labels : List (Label (shimProcess ⟨1⟩ 40))) :
    Option (Pool (shimWatch ⟨1⟩ 40)) :=
  (Pool.initial (shimWatch ⟨1⟩ 40) (.new 40)).follow (.none (shimWatch ⟨1⟩ 40)) labels

theorem shimReaches_of_behind {labels : List (Label (shimProcess ⟨1⟩ 40))}
    {c : Pool (shimWatch ⟨1⟩ 40)} (h : shimBehind labels = some c) : ShimReaches ⟨1⟩ 40 c :=
  Pool.reaches_of_follow h

/-! ## The shims of the daemon's machine -/

/-- The request that an operation sends to the daemon. -/
def ShimOp.request : ShimOp → Option Origin
  | requestLaunch id => some (.shimLaunch id)
  | sendReady ready => some (.shimReady ready)
  | sendExit exit => some (.shimExit exit)
  | _ => none

/-- A step around the daemon, or an answer that the daemon has delivered. -/
def Moves (id : SessionId) (world world' : World) : Prop :=
  world' = world ∨ (∃ event, world.env event = some world') ∨
    OsOp.exec .run (.deliverLaunch id) world = some (.ok (), world') ∨
    OsOp.exec .run (.ackReady id) world = some (.ok (), world')

/-- Where the shim of a session goes on like this, the daemon's machine can follow. A process that
begins has a pid that no other has. -/
def Mirrors (id : SessionId) (shim shim' : Shim) : Prop :=
  ∀ world : World, world.shims.lookup id = some shim →
    (∀ pid startTime, shim.phase = .launched → shim'.phase = .running pid startTime →
      world.pidGone pid = true) →
    ∃ world', Moves id world world' ∧ world'.shims.lookup id = some shim'

theorem mirrors_self (shim : Shim) : Mirrors id shim shim :=
  fun world hshim _ => ⟨world, .inl rfl, hshim⟩

theorem mirrors_endRuntime (shim : Shim) (exit : RuntimeExit) :
    Mirrors id shim (shim.endRuntime exit) := by
  intro world hshim _
  refine ⟨_, .inr (.inl ⟨.childEnds id exit, rfl⟩), ?_⟩
  rw [Table.lookup_modify, if_pos rfl, hshim]
  rfl

theorem mirrors_crash (shim : Shim) : Mirrors id shim { shim with alive := false } := by
  intro world hshim _
  refine ⟨_, .inr (.inl ⟨.shimDies id, rfl⟩), ?_⟩
  rw [Table.lookup_modify, if_pos rfl, hshim]
  rfl

theorem mirrors_grantLaunch (shim : Shim) : Mirrors id shim (OsOp.grantLaunch shim) := by
  intro world hshim _
  refine ⟨_, .inr (.inr (.inl rfl)), ?_⟩
  rw [Table.lookup_modify, if_pos rfl, hshim]
  rfl

theorem mirrors_ackReady (shim : Shim) : Mirrors id shim { shim with readyAcked := true } := by
  intro world hshim _
  refine ⟨_, .inr (.inr (.inr rfl)), ?_⟩
  rw [Table.lookup_modify, if_pos rfl, hshim]
  rfl

theorem mirrors_spawn {shim : Shim} (halive : shim.alive = true) (hphase : shim.phase = .launched)
    (pid : Pid) (startTime : DateTime) :
    Mirrors id shim { shim with phase := .running pid startTime } := by
  intro world hshim hgone
  have hpid : world.pidGone pid = true := hgone pid startTime hphase rfl
  have hguard : (world.pidGone pid && (world.shims.lookup id).any fun shim =>
      shim.alive && shim.phase = .launched) = true := by
    rw [hpid, hshim]
    simp [halive, hphase]
  refine ⟨_, .inr (.inl ⟨.childStarts id pid startTime, if_pos hguard⟩), ?_⟩
  rw [Table.lookup_modify, if_pos rfl, hshim]
  rfl

/-- What an operation of the shim does, the daemon's machine can do. -/
theorem Agrees.mirrors (h : Agrees shimPid φ w) {o : ShimOp} (hallowed : φ.Allowed id shimPid o)
    {choice : ShimChoice} {r : Except Report o.Res} (hexec : o.exec choice w = some (r, w')) :
    Mirrors id w.shim w'.shim := by
  cases r with
  | error e =>
      rw [ShimOp.exec_error hexec]
      exact mirrors_self _
  | ok a =>
      have hrun := ShimOp.exec_ok hexec
      cases o with
      | requestLaunch id' =>
          cases choice with
          | launch spec =>
              cases hrun
              exact mirrors_grantLaunch _
          | _ => cases hrun
      | spawn command =>
          obtain ⟨hlaunched, hchild⟩ := hallowed
          cases choice with
          | child pid startTime =>
              cases hrun
              have hphase := h.phase
              simp only [PhaseOf, hchild, hlaunched, if_true] at hphase
              exact mirrors_spawn h.alive hphase _ _
          | _ => cases hrun
      | sendReady ready =>
          cases ShimChoice.of_ran hrun
          exact mirrors_ackReady _
      | sendSignal pid signal =>
          rw [ShimOp.run] at hrun
          split at hrun
          · cases ShimChoice.of_ran hrun
            by_cases hruns : w.shim.runs pid
            · simp only [hruns, if_true]
              exact mirrors_endRuntime _ _
            · simp only [hruns]
              exact mirrors_self _
          · cases ShimChoice.of_ran hrun
            exact mirrors_self _
      | installDisposition signal disposition =>
          cases ShimChoice.of_ran hrun
          exact mirrors_self _
      | nudgeCursorOffTopRow =>
          cases ShimChoice.of_ran hrun
          exact mirrors_self _
      | sendExit exit =>
          cases ShimChoice.of_ran hrun
          exact mirrors_self _
      | takeSigterm =>
          cases ShimChoice.of_ran hrun
          exact mirrors_self _
      | now =>
          obtain ⟨startTime, -, hran⟩ := Option.bind_eq_some_iff.mp hrun
          cases ShimChoice.of_ran hran
          exact mirrors_self _
      | socketPath =>
          cases choice with
          | path text =>
              cases hrun
              exact mirrors_self _
          | _ => cases hrun
      | startTimeForPid pid =>
          cases choice with
          | startTime answer =>
              cases (Option.ite_none_right_eq_some.mp hrun).2
              exact mirrors_self _
          | _ => cases hrun
      | tryWait =>
          cases choice with
          | status answer =>
              cases (Option.ite_none_right_eq_some.mp hrun).2
              exact mirrors_self _
          | _ => cases hrun
      | wait =>
          cases choice with
          | status answer =>
              cases answer with
              | none => cases hrun
              | some answer =>
                  cases (Option.ite_none_right_eq_some.mp hrun).2
                  exact mirrors_self _
          | _ => cases hrun
      | instant =>
          cases choice with
          | time reading =>
              cases (Option.ite_none_right_eq_some.mp hrun).2
              exact mirrors_self _
          | _ => cases hrun
      | sleep millis =>
          cases choice with
          | time reading =>
              cases (Option.ite_none_right_eq_some.mp hrun).2
              exact mirrors_self _
          | _ => cases hrun
      | execReplace command => cases hrun

/-- What a shim sends, the daemon's machine takes. -/
theorem Agrees.start_request (h : Agrees shimPid φ w) {o : ShimOp}
    (hallowed : φ.Allowed id shimPid o) {world : World} (hstage : world.stage = .listening)
    (hshim : world.shims.lookup id = some w.shim) {origin : Origin}
    (hrequest : o.request = some origin) : (world.start origin).isSome = true := by
  cases o with
  | requestLaunch id' =>
      cases hrequest
      obtain ⟨rfl, hlaunched, -⟩ := hallowed
      have hphase := h.phase
      simp only [PhaseOf, h.launched hlaunched, hlaunched] at hphase
      have hasks : w.shim.phase = .requesting := hphase
      simp [World.start, World.guarded, hstage, hshim, h.alive, hasks]
  | sendReady ready =>
      cases hrequest
      obtain ⟨-, hacked, -, pid, startTime, hchild, hstart, rfl⟩ := hallowed
      have hphase := h.phase
      simp only [PhaseOf, hchild] at hphase
      have hnot : w.shim.readyAcked = false := h.acked.trans hacked
      obtain ⟨startTime', hsame, hphase⟩ := hphase
      cases hsame startTime hstart
      have hreports : w.shim.reportsReady ⟨id, shimPid, pid, startTime, none⟩ = true := by
        rcases hphase with ⟨hrunning, -⟩ | ⟨exit, hended, -⟩
        · simp [Shim.reportsReady, hrunning, h.alive, hnot, h.pid]
        · simp [Shim.reportsReady, hended, h.alive, hnot, h.pid]
      simp [World.start, World.guarded, hstage, hshim, hreports]
  | sendExit exit =>
      cases hrequest
      obtain ⟨-, hacked, -, -, hchild, rfl, hexit⟩ := hallowed
      obtain ⟨pid, hpid⟩ := Option.isSome_iff_exists.mp hchild
      have hphase := h.phase
      simp only [PhaseOf, hpid] at hphase
      have hready : w.shim.readyAcked = true := h.acked.trans hacked
      obtain ⟨startTime, -, ⟨-, hnone⟩ | ⟨ended, hended, hsame⟩⟩ := hphase
      · rw [hexit] at hnone
        cases hnone
      · have hreports : w.shim.reportsExit exit.exit = true := by
          simp [Shim.reportsExit, hended, h.alive, hready, hsame exit.exit hexit]
        simp [World.start, World.guarded, hstage, hshim, hreports]
  | _ => cases hrequest

theorem mirrors_of_next (h : ShimReaches id shimPid c) {label : Label (shimProcess id shimPid)}
    (hnext : c.next label = some c') : Mirrors id c.shared.shim c'.shared.shim := by
  cases label with
  | run t choice =>
      obtain ⟨thread, o, k, r, w', hthread, hprog, hexec, rfl⟩ := Pool.next_run_eq_some hnext
      exact (h.agrees hthread).mirrors (h.allowed hthread hprog) hexec
  | start origin =>
      obtain ⟨w', hstart, rfl⟩ := Pool.next_start_eq_some hnext
      obtain ⟨-, hw⟩ := Option.ite_none_right_eq_some.mp hstart
      cases hw
      exact mirrors_self _
  | env event =>
      obtain ⟨w', henv, rfl⟩ := Pool.next_env_eq_some hnext
      cases event with
      | childEnds status =>
          cases henv
          exact mirrors_endRuntime _ _
      | sigterm =>
          cases henv
          exact mirrors_self _
      | timePasses now =>
          cases (Option.ite_none_right_eq_some.mp henv).2
          exact mirrors_self _
  | crash =>
      cases hnext
      exact mirrors_crash _

/-- **The shims of the daemon's machine stand for this process.** Every request of the process is
one that the machine starts a program for, and every step of it is one that the machine follows. -/
theorem shimProcess_refines (h : ShimReaches id shimPid c) :
    (∀ t thread o k, c.threads t = some thread → thread.prog = .op o k →
      ∀ world : World, world.stage = .listening → world.shims.lookup id = some c.shared.shim →
        ∀ origin, o.request = some origin → (world.start origin).isSome = true) ∧
      ∀ label c', c.next label = some c' → Mirrors id c.shared.shim c'.shared.shim :=
  ⟨fun _ _ _ _ hthread hprog _ hstage hshim _ hrequest =>
    (h.agrees hthread).start_request (h.allowed hthread hprog) hstage hshim hrequest,
    fun _ _ hnext => mirrors_of_next h hnext⟩

/-- A daemon that listens, with the shim of one session. -/
def listeningWith (shim : Shim) : World :=
  { World.fresh 0 with stage := .listening, shims := Table.empty.insert ⟨1⟩ shim }

theorem shimProcess_refines_ready :
    ∃ c thread ready k, shimBehind sampleRun = some c ∧ c.threads 0 = some thread ∧
      thread.prog = .op (.sendReady ready) k ∧
      ((listeningWith c.shared.shim).start (.shimReady ready)).isSome = true ∧
      ∀ c', c.next (.env (ShimEvent.childEnds (.exited 2))) = some c' →
        Mirrors ⟨1⟩ c.shared.shim c'.shared.shim := by
  have hrun : ∃ c thread ready k, shimBehind sampleRun = some c ∧ c.threads 0 = some thread ∧
      thread.prog = .op (.sendReady ready) k :=
    ⟨_, _, _, _, rfl, rfl, rfl⟩
  obtain ⟨c, thread, ready, k, hc, hthread, hprog⟩ := hrun
  obtain ⟨hstarts, hmirrors⟩ := shimProcess_refines (shimReaches_of_behind hc)
  have hstart := hstarts 0 thread (.sendReady ready) k hthread hprog
    (listeningWith c.shared.shim) rfl rfl (.shimReady ready) rfl
  exact ⟨c, thread, ready, k, hc, hthread, hprog, hstart, hmirrors _⟩

/-! ## What a run achieves -/

/-- **The end of a run.** A run that ends well has reported the exit that its child had. Of the
runs that fail, a child that still runs is left behind by those alone that could not read its
start time, whose ready report was refused ten times, or to which the system refused an
operation. -/
theorem shimProcess_ends (h : ShimReaches id shimPid c) {t : Nat}
    {thread : Thread (shimWatch id shimPid)} (hthread : c.threads t = some thread) :
    (thread.prog = .ret .reported → c.shared.shim.readyAcked = true ∧
      ∃ pid startTime exit, c.shared.shim.phase = .ended pid startTime exit ∧
        c.shared.exitAcked = some exit) ∧
    ∀ report, thread.prog = .fail report → c.shared.shim.isRunning = true →
      thread.know.startTime = none ∨
        (c.shared.shim.readyAcked = false ∧
          thread.know.failed = SHIM_RECONNECT_MAX_ATTEMPTS) ∨
        thread.know.refused = true := by
  have hagrees := h.agrees hthread
  constructor
  · intro hprog
    have hfinished : thread.know.reported = true := h.holds.1.post_of_ret hthread hprog
    obtain ⟨hsome, hexitAcked⟩ := hagrees.reported hfinished
    obtain ⟨exit, hexit⟩ := Option.isSome_iff_exists.mp hsome
    obtain ⟨pid, startTime, hended⟩ := hagrees.ended hexit
    refine ⟨hagrees.acked.trans (hagrees.heard hsome), pid, startTime, exit, hended, ?_⟩
    exact hexitAcked.trans hexit
  · intro report hprog hrunning
    have hfailed : thread.know.Failed := h.holds.1.post_of_fail hthread hprog
    have hrunning' : ∀ hexit : thread.know.exit.isSome = true, False := fun hexit =>
      absurd ((hagrees.not_isRunning hexit).symm.trans hrunning) nofun
    cases hfailed with
    | noChild hchild =>
        have hphase := hagrees.phase
        simp only [PhaseOf, hchild] at hphase
        rw [Shim.isRunning, hphase] at hrunning
        cases hlaunched : thread.know.launched <;> simp [hlaunched] at hrunning
    | noStartTime hstart => exact .inl hstart
    | notReady hacked hfailed => exact .inr (.inl ⟨hagrees.acked.trans hacked, hfailed⟩)
    | refused hrefused => exact .inr (.inr hrefused)
    | notReported hexit _ => exact (hrunning' hexit).elim
    | noShell hreported => exact (hrunning' (hagrees.reported hreported).1).elim

theorem shimProcess_ends_reported :
    ∃ c thread, shimBehind sampleEnd = some c ∧ c.threads 0 = some thread ∧
      thread.prog = .ret .reported ∧ c.shared.shim.readyAcked = true ∧
      ∃ pid startTime exit, c.shared.shim.phase = .ended pid startTime exit ∧
        c.shared.exitAcked = some exit := by
  have hrun : ∃ c thread, shimBehind sampleEnd = some c ∧ c.threads 0 = some thread ∧
      thread.prog = .ret .reported :=
    ⟨_, _, rfl, rfl, rfl⟩
  obtain ⟨c, thread, hc, hthread, hprog⟩ := hrun
  obtain ⟨hacked, hended⟩ := (shimProcess_ends (shimReaches_of_behind hc) hthread).1 hprog
  exact ⟨c, thread, hc, hthread, hprog, hacked, hended⟩

end LittleOrgans.ShimProcess
