import LittleOrgans.ShimProcess.Program

/-!
# What a shim does, by what it has seen

A monitor for `runForSessionBlocking`. `Knowledge` is what the shim has seen so far, and
`Allowed` says what it does then: it asks for its launch spec once, reports its child until the
report is acknowledged, signals no process but its child, and reports the exit it was told.
`conforms_runForSessionBlocking` also says how a run that fails has failed.
-/

set_option autoImplicit false

namespace LittleOrgans.ShimProcess

open LittleOrgans.Core
open LittleOrgans.Library
open LittleOrgans.Concurrency

/-- What a shim has seen. -/
structure Knowledge where
  launched : Bool
  child : Option Pid
  startTime : Option DateTime
  acked : Bool
  /-- The last answer of the handler of `SIGTERM`. -/
  sigterm : Bool
  /-- `SIGTERM` was sent to the child. -/
  termed : Bool
  deadline : Option Nat
  clock : Nat
  exit : Option RuntimeExit
  reported : Bool
  /-- Attempts of the request that have failed in a row. -/
  failed : Nat
  /-- The system has refused an operation. -/
  refused : Bool

namespace Knowledge

def new : Knowledge where
  launched := false
  child := none
  startTime := none
  acked := false
  sigterm := false
  termed := false
  deadline := none
  clock := 0
  exit := none
  reported := false
  failed := 0
  refused := false

/-- What an operation lets the shim see. -/
def next (φ : Knowledge) : (o : ShimOp) → Except Report o.Res → Knowledge
  | .requestLaunch _, .ok _ => { φ with launched := true, failed := 0 }
  | .requestLaunch _, .error _ => { φ with failed := φ.failed + 1 }
  | .spawn _, .ok pid => { φ with child := some pid }
  | .startTimeForPid _, .ok startTime => { φ with startTime := startTime }
  | .now, .ok startTime => { φ with startTime := some startTime }
  | .sendReady _, .ok _ => { φ with acked := true, failed := 0 }
  | .sendReady _, .error _ => { φ with failed := φ.failed + 1 }
  | .tryWait, .ok status => { φ with exit := status.map runtimeExit }
  | .wait, .ok status => { φ with exit := some (runtimeExit status) }
  | .takeSigterm, .ok sigterm => { φ with sigterm := sigterm }
  | .instant, .ok time =>
      { φ with
        clock := time
        deadline := if φ.termed then some (φ.deadline.getD (time + SIGTERM_GRACE))
          else φ.deadline }
  | .sendSignal _ .term, .ok _ => { φ with termed := true }
  | .sendExit _, .ok _ => { φ with reported := true, failed := 0 }
  | .sendExit _, .error _ => { φ with failed := φ.failed + 1 }
  | .installDisposition _ _, .error _ => { φ with refused := true }
  | .sendSignal _ _, .error _ => { φ with refused := true }
  | .tryWait, .error _ => { φ with refused := true }
  | .wait, .error _ => { φ with refused := true }
  | .takeSigterm, .error _ => { φ with refused := true }
  | .instant, .error _ => { φ with refused := true }
  | .sleep _, .error _ => { φ with refused := true }
  | _, _ => φ

/-- The child has been reported, and its end has not been seen. -/
def Watches (φ : Knowledge) (pid : Pid) : Prop :=
  φ.child = some pid ∧ φ.acked = true ∧ φ.exit = none

/-- The delay behind so many failed attempts. -/
def delayAfter (failed : Nat) : Nat :=
  min (SHIM_RECONNECT_INITIAL_DELAY * 2 ^ (failed - 1)) SHIM_RECONNECT_MAX_DELAY

/-- A request may be tried once more. -/
def MayTry (φ : Knowledge) : Prop := φ.failed < SHIM_RECONNECT_MAX_ATTEMPTS

/-- `SIGTERM` goes out when one was taken, and `SIGKILL` when the grace is over. -/
def MaySignal (φ : Knowledge) : RuntimeSignal → Prop
  | .term => φ.sigterm = true ∧ φ.termed = false
  | .kill => ∃ deadline, φ.termed = true ∧ φ.deadline = some deadline ∧ deadline ≤ φ.clock
  | .hup => False
  | .int => False

/-- What a shim does. -/
def Allowed (id : SessionId) (shimPid : Pid) (φ : Knowledge) : ShimOp → Prop
  | .requestLaunch id' => id' = id ∧ φ.launched = false ∧ φ.MayTry
  | .spawn _ => φ.launched = true ∧ φ.child = none
  | .startTimeForPid pid => φ.launched = true ∧ φ.child = some pid ∧ φ.startTime = none
  | .now => φ.launched = true ∧ φ.child.isSome = true ∧ φ.startTime = none
  | .sendReady ready => φ.launched = true ∧ φ.acked = false ∧ φ.MayTry ∧
      ∃ pid startTime, φ.child = some pid ∧ φ.startTime = some startTime ∧
        ready = ⟨id, shimPid, pid, startTime, none⟩
  | .tryWait => φ.launched = true ∧ ∃ pid, φ.Watches pid
  | .wait => φ.launched = true ∧ ∃ pid, φ.Watches pid
  | .sendSignal pid signal => φ.launched = true ∧ φ.Watches pid ∧ φ.MaySignal signal
  | .sendExit exit => φ.launched = true ∧ φ.acked = true ∧ φ.reported = false ∧ φ.MayTry ∧
      φ.child.isSome = true ∧ exit.sessionId = id ∧ φ.exit = some exit.exit
  | .sleep millis => (millis = RUNTIME_WAIT_POLL ∧ ∃ pid, φ.Watches pid) ∨
      0 < φ.failed ∧ φ.MayTry ∧ millis = delayAfter φ.failed
  | .execReplace _ => φ.reported = true
  | _ => True

/-- How a run that has failed can have failed. -/
inductive Failed (φ : Knowledge) : Prop where
  /-- The runtime was not started. -/
  | noChild (h : φ.child = none)
  /-- It was started, and its start time could not be read. -/
  | noStartTime (h : φ.startTime = none)
  /-- The daemon has not taken the ready report. -/
  | notReady (hacked : φ.acked = false) (hfailed : φ.failed = SHIM_RECONNECT_MAX_ATTEMPTS)
  /-- The child could not be watched. -/
  | refused (h : φ.refused = true)
  /-- The daemon has not taken the exit report. -/
  | notReported (hexit : φ.exit.isSome = true) (hfailed : φ.failed = SHIM_RECONNECT_MAX_ATTEMPTS)
  /-- The exit was reported, and the shell did not start. -/
  | noShell (h : φ.reported = true)

end Knowledge

open Knowledge

/-- Follows a shim by what it has seen. -/
abbrev shimMonitor (id : SessionId) (shimPid : Pid) : Monitor shimOps Report where
  State := Knowledge
  allows := Allowed id shimPid
  returns _ _ := True
  next := Knowledge.next

/-- `R` holds at the end of a part, or the run has failed as it may. -/
def Outcome {α : Type} (R : α → Knowledge → Prop) : Except Report α → Knowledge → Prop
  | .ok a, φ => R a φ
  | .error _, φ => φ.Failed

/-- From `φ`, the part does what a shim does, and ends with `R`. -/
def Does {α : Type} (id : SessionId) (shimPid : Pid) (p : ShimProg α) (φ : Knowledge)
    (R : α → Knowledge → Prop) : Prop :=
  (shimMonitor id shimPid).Conforms p φ (Outcome R)

/-! ## Rules -/

section

variable {α β : Type} {id : SessionId} {shimPid : Pid} {φ : Knowledge} {p : ShimProg α}
  {R R' : α → Knowledge → Prop}

theorem Does.bind {f : α → ShimProg β} {R' : β → Knowledge → Prop} (h : Does id shimPid p φ R)
    (hf : ∀ a ψ, R a ψ → Does id shimPid (f a) ψ R') : Does id shimPid (p >>= f) φ R' := by
  refine Monitor.conforms_bind.mpr (Monitor.Conforms.mono h fun r ψ hr => ?_)
  cases r with
  | ok a => exact hf a ψ hr
  | error e => exact hr

theorem Does.weaken (h : Does id shimPid p φ R) (hR : ∀ a ψ, R a ψ → R' a ψ) :
    Does id shimPid p φ R' := by
  refine Monitor.Conforms.mono h fun r ψ hr => ?_
  cases r with
  | ok a => exact hR a ψ hr
  | error e => exact hr

theorem does_pure {a : α} (h : R a φ) : Does id shimPid (pure a) φ R := h

theorem does_fail {e : Report} (h : φ.Failed) : Does id shimPid (.fail e : ShimProg α) φ R := h

theorem does_ofExcept {result : Except Report α} (h : ∀ a, result = .ok a → R a φ)
    (hfailed : φ.Failed) : Does id shimPid (.ofExcept result) φ R := by
  cases result with
  | ok a => exact h a rfl
  | error e => exact hfailed

theorem does_call {o : ShimOp} {R : o.Res → Knowledge → Prop} (hallowed : Allowed id shimPid φ o)
    (hok : ∀ a, R a (φ.next o (.ok a))) (herror : ∀ e, (φ.next o (.error e)).Failed) :
    Does id shimPid (call o) φ R := by
  refine Monitor.conforms_call.mpr ⟨hallowed, fun r _ => ?_⟩
  cases r with
  | ok a => exact hok a
  | error e => exact herror e

theorem Does.context {text : String} (h : Does id shimPid p φ R) :
    Does id shimPid (Prog.context text p) φ R := by
  refine Monitor.conforms_mapError.mpr (Monitor.Conforms.mono h fun r ψ hr => ?_)
  cases r with
  | ok a => exact hr
  | error e => exact hr

/-! ## Reconnecting -/

theorem delayAfter_succ (n : Nat) (h : 0 < n) :
    delayAfter (n + 1) = min (delayAfter n * 2) SHIM_RECONNECT_MAX_DELAY := by
  obtain ⟨m, rfl⟩ := Nat.exists_eq_add_of_lt h
  rw [delayAfter, delayAfter, SHIM_RECONNECT_INITIAL_DELAY, SHIM_RECONNECT_MAX_DELAY]
  have hpow : 2 ^ (0 + m + 1 + 1 - 1) = 2 ^ (0 + m + 1 - 1) * 2 := by
    rw [Nat.add_sub_cancel, Nat.add_sub_cancel, Nat.pow_succ]
  rw [hpow]
  omega

/-- A request that is tried until it succeeds, or has failed ten times. -/
theorem does_reconnectingFrom {o : ShimOp} {label : String} {R : o.Res → Knowledge → Prop}
    (hallowed : ∀ n, n < SHIM_RECONNECT_MAX_ATTEMPTS →
      Allowed id shimPid { φ with failed := n } o)
    (hok : ∀ n a, R a (next { φ with failed := n } o (.ok a)))
    (herror : ∀ n e, next { φ with failed := n } o (.error e) = { φ with failed := n + 1 })
    (hfailed : Failed { φ with failed := SHIM_RECONNECT_MAX_ATTEMPTS })
    {left n delay : Nat} (hleft : n + left = SHIM_RECONNECT_MAX_ATTEMPTS)
    (hdelay : delay = delayAfter (n + 1)) :
    Does id shimPid (reconnectingFrom label (call o) left delay) { φ with failed := n } R := by
  induction left generalizing n delay with
  | zero =>
      rw [Nat.add_zero] at hleft
      rw [hleft]
      exact does_fail hfailed
  | succ left ih =>
      have hlt : n < SHIM_RECONNECT_MAX_ATTEMPTS := by omega
      rw [reconnectingFrom]
      refine Monitor.conforms_attempt_bind.mpr (Monitor.conforms_call.mpr ⟨hallowed n hlt, ?_⟩)
      intro r _
      cases r with
      | ok a => exact hok n a
      | error e =>
          have hnext : (shimMonitor id shimPid).next { φ with failed := n } o (.error e) =
              { φ with failed := n + 1 } := herror n e
          rw [hnext]
          by_cases hlast : left = 0
          · have hn : n + 1 = SHIM_RECONNECT_MAX_ATTEMPTS := by omega
            simp only [hlast, if_true, hn]
            exact hfailed
          · simp only [hlast, if_false]
            have hmay : n + 1 < SHIM_RECONNECT_MAX_ATTEMPTS := by omega
            refine Does.bind (R := fun _ ψ => ψ = { φ with failed := n + 1 })
              (does_call ?_ ?_ ?_) ?_
            · exact .inr ⟨Nat.succ_pos n, hmay, hdelay⟩
            · intro _
              rfl
            · intro e
              exact .refused rfl
            · rintro _ ψ rfl
              refine ih (by omega) ?_
              rw [hdelay, delayAfter_succ (n + 1) (Nat.succ_pos n)]

theorem does_reconnecting {o : ShimOp} {label : String} {R : o.Res → Knowledge → Prop}
    (hzero : φ.failed = 0)
    (hallowed : ∀ n, n < SHIM_RECONNECT_MAX_ATTEMPTS →
      Allowed id shimPid { φ with failed := n } o)
    (hok : ∀ n a, R a (next { φ with failed := n } o (.ok a)))
    (herror : ∀ n e, next { φ with failed := n } o (.error e) = { φ with failed := n + 1 })
    (hfailed : Failed { φ with failed := SHIM_RECONNECT_MAX_ATTEMPTS }) :
    Does id shimPid (reconnecting label (call o)) φ R := by
  have hsame : φ = { φ with failed := 0 } := by rw [← hzero]
  rw [hsame]
  exact does_reconnectingFrom hallowed hok herror hfailed (Nat.zero_add _) (by decide)

/-! ## Before the child -/

theorem does_ignoreUserInterrupts (hchild : φ.child = none) :
    Does id shimPid ignoreUserInterrupts φ fun _ ψ => ψ = φ := by
  have hinstall : ∀ signal text, Does id shimPid
      (Prog.context text (call (.installDisposition signal .ignore))) φ fun _ ψ => ψ = φ :=
    fun signal text => Does.context (does_call trivial (fun _ => rfl) fun _ => .noChild hchild)
  refine (hinstall .interrupt _).bind ?_
  rintro _ ψ rfl
  exact hinstall .quit _

/-! ## Watching the child -/

/-- The child was reported, its end has not been seen, and no request is under way. -/
structure Watching (pid : Pid) (φ : Knowledge) : Prop where
  launched : φ.launched = true
  watches : φ.Watches pid
  reported : φ.reported = false
  failed : φ.failed = 0

/-- The end of the child was seen. -/
structure SeenEnd (pid : Pid) (status : ExitStatus) (φ : Knowledge) : Prop where
  launched : φ.launched = true
  child : φ.child = some pid
  acked : φ.acked = true
  reported : φ.reported = false
  failed : φ.failed = 0
  exit : φ.exit = some (runtimeExit status)

/-- What a wait for the child has come to. -/
def WaitedFor (pid : Pid) : Waited → Knowledge → Prop
  | .ended status, φ => SeenEnd pid status φ
  | .waiting, φ => Watching pid φ

variable {pid : Pid} {polls : Nat}

theorem Watching.seenEnd {status : ExitStatus} (h : Watching pid φ) :
    SeenEnd pid status { φ with exit := some (runtimeExit status) } where
  launched := h.launched
  child := h.watches.1
  acked := h.watches.2.1
  reported := h.reported
  failed := h.failed
  exit := rfl

/-- A poll of the child. -/
theorem Watching.does_tryWait {text : String} (h : Watching pid φ) :
    Does id shimPid (Prog.context text (call .tryWait)) φ fun status ψ =>
      match status with
      | some status => SeenEnd pid status ψ
      | none => ψ = φ := by
  refine Does.context (does_call ⟨h.launched, pid, h.watches⟩ (fun status => ?_) fun _ =>
    .refused rfl)
  cases status with
  | some status => exact h.seenEnd
  | none =>
      have hexit : none = φ.exit := h.watches.2.2.symm
      rw [Knowledge.next, Option.map_none, hexit]

theorem Watching.does_sleep (h : Watching pid φ) :
    Does id shimPid (call (.sleep RUNTIME_WAIT_POLL)) φ fun _ ψ => ψ = φ :=
  does_call (.inl ⟨rfl, pid, h.watches⟩) (fun _ => rfl) fun _ => .refused rfl

/-- The grace of a child that was sent `SIGTERM`. -/
structure InGrace (pid : Pid) (deadline : Nat) (φ : Knowledge) : Prop where
  watching : Watching pid φ
  termed : φ.termed = true
  deadline : φ.deadline = some deadline

theorem InGrace.does_killRuntime {deadline : Nat} (h : InGrace pid deadline φ)
    (hover : deadline ≤ φ.clock) :
    Does id shimPid (killRuntime pid) φ (WaitedFor pid) := by
  have hallowed : Allowed id shimPid φ (.sendSignal pid .kill) :=
    ⟨h.watching.launched, h.watching.watches, deadline, h.termed, h.deadline, hover⟩
  have hwait : ∀ ψ, Watching pid ψ → Does id shimPid
      (Prog.context "failed to wait for runtime child after SIGKILL" (call .wait)) ψ
        fun status ψ' => SeenEnd pid status ψ' :=
    fun ψ hψ => Does.context (does_call ⟨hψ.launched, pid, hψ.watches⟩ (fun _ => hψ.seenEnd)
      fun _ => .refused rfl)
  -- the signal may fail, since the child may have ended by itself
  refine Monitor.conforms_attempt_bind.mpr (Monitor.conforms_call.mpr ⟨hallowed, fun r _ => ?_⟩)
  have hafter : Watching pid (φ.next (.sendSignal pid .kill) r) := by
    cases r with
    | ok _ => exact h.watching
    | error _ => exact ⟨h.watching.launched, h.watching.watches, h.watching.reported,
        h.watching.failed⟩
  refine (hwait _ hafter).bind fun status ψ hψ => ?_
  exact does_pure hψ

theorem InGrace.does_graceRounds {deadline : Nat} (h : InGrace pid deadline φ) :
    Does id shimPid (graceRounds pid deadline polls) φ (WaitedFor pid) := by
  induction polls generalizing φ with
  | zero => exact does_pure h.watching
  | succ polls ih =>
      have hread : ∀ time : Nat,
          InGrace pid deadline (φ.next .instant (.ok time)) := by
        intro time
        refine ⟨⟨h.watching.launched, h.watching.watches, h.watching.reported,
          h.watching.failed⟩, h.termed, ?_⟩
        simp only [Knowledge.next, h.termed, h.deadline, if_true, Option.getD_some]
      refine Does.bind (R := fun time ψ => InGrace pid deadline ψ ∧ ψ.clock = time)
        (does_call trivial (fun time => ⟨hread time, rfl⟩) fun _ => .refused rfl) ?_
      rintro time ψ ⟨hψ, rfl⟩
      by_cases hlt : ψ.clock < deadline
      · simp only [hlt, if_true]
        refine hψ.watching.does_tryWait.bind fun status χ hχ => ?_
        cases status with
        | some status => exact does_pure hχ
        | none =>
            cases hχ
            refine hψ.watching.does_sleep.bind ?_
            rintro _ χ rfl
            exact ih hψ
      · simp only [hlt, if_false]
        exact hψ.does_killRuntime (Nat.le_of_not_lt hlt)

theorem Watching.does_terminateRuntime (h : Watching pid φ) (hsigterm : φ.sigterm = true)
    (htermed : φ.termed = false) (hdeadline : φ.deadline = none) :
    Does id shimPid (terminateRuntime pid SIGTERM_GRACE polls) φ (WaitedFor pid) := by
  refine Does.bind (R := fun _ ψ => ψ = { φ with termed := true })
    (does_call ⟨h.launched, h.watches, hsigterm, htermed⟩ (fun _ => rfl) fun _ => .refused rfl) ?_
  rintro _ ψ rfl
  refine Does.bind (R := fun time ψ => InGrace pid (time + SIGTERM_GRACE) ψ)
    (does_call trivial (fun time => ?_) fun _ => .refused rfl) ?_
  · refine ⟨⟨h.launched, h.watches, h.reported, h.failed⟩, rfl, ?_⟩
    simp only [Knowledge.next, hdeadline, if_true, Option.getD_none]
  · intro time ψ hψ
    exact hψ.does_graceRounds

/-- The child has not been sent a signal. -/
structure Untouched (φ : Knowledge) : Prop where
  sigterm : φ.sigterm = false
  termed : φ.termed = false
  deadline : φ.deadline = none

theorem Watching.does_waitRounds {rounds : Nat} (h : Watching pid φ) (hclean : Untouched φ) :
    Does id shimPid (waitRounds pid polls rounds) φ (WaitedFor pid) := by
  induction rounds with
  | zero => exact does_pure h
  | succ rounds ih =>
      refine h.does_tryWait.bind fun status ψ hψ => ?_
      cases status with
      | some status => exact does_pure hψ
      | none =>
          cases hψ
          refine Does.bind (R := fun sigterm ψ => ψ = { φ with sigterm := sigterm })
            (does_call trivial (fun _ => rfl) fun _ => .refused rfl) ?_
          rintro sigterm ψ rfl
          cases sigterm with
          | true =>
              exact Watching.does_terminateRuntime
                ⟨h.launched, h.watches, h.reported, h.failed⟩ rfl hclean.termed hclean.deadline
          | false =>
              have hsame : { φ with sigterm := false } = φ := by rw [← hclean.sigterm]
              rw [hsame]
              refine h.does_sleep.bind ?_
              rintro _ ψ rfl
              exact ih

theorem Watching.does_waitForRuntime (h : Watching pid φ) (hclean : Untouched φ) :
    Does id shimPid (waitForRuntime pid polls) φ (WaitedFor pid) := by
  refine Does.bind (R := fun _ ψ => ψ = φ)
    (Does.context (does_call trivial (fun _ => rfl) fun _ => .refused rfl)) ?_
  rintro _ ψ rfl
  exact h.does_waitRounds hclean

/-! ## The process -/

/-- What a run that has not failed ends with. -/
def Finished : ShimEnd → Knowledge → Prop
  | .reported, φ => φ.reported = true
  | .waiting, φ => ∃ pid, φ.launched = true ∧ φ.Watches pid

theorem does_execShellResume (hreported : φ.reported = true) (resume : ShellResume) :
    Does id shimPid (execShellResume resume) φ fun _ ψ => ψ.reported = true := by
  refine Does.bind (R := fun _ ψ => ψ = φ)
    (does_ofExcept (fun _ _ => rfl) (.noShell hreported)) ?_
  rintro command ψ rfl
  refine Does.bind (R := fun _ _ => False) (Does.context (does_call hreported (fun never => ?_)
    fun _ => .noShell hreported)) ?_
  · cases never
  · intro _ _ h
    exact absurd h not_false

theorem SeenEnd.does_reportExit {status : ExitStatus} (h : SeenEnd pid status φ)
    (launch : LaunchSpec) : Does id shimPid (reportExit id launch status) φ Finished := by
  refine Does.bind (R := fun _ ψ => ψ.reported = true) (does_reconnecting h.failed ?_ ?_ ?_ ?_) ?_
  · intro n hn
    exact ⟨h.launched, h.acked, h.reported, hn, by rw [h.child]; rfl, rfl, h.exit⟩
  · intro n a
    rfl
  · intro n e
    rfl
  · exact .notReported (by rw [h.exit]; rfl) rfl
  · intro _ ψ hψ
    cases launch.shellResume with
    | none => exact does_pure hψ
    | some resume =>
        exact (does_execShellResume hψ resume).bind fun _ χ hχ => does_pure hχ

/-- The child runs, and the daemon does not know yet. -/
structure Started (pid : Pid) (φ : Knowledge) : Prop where
  launched : φ.launched = true
  child : φ.child = some pid
  startTime : φ.startTime = none
  acked : φ.acked = false
  exit : φ.exit = none
  reported : φ.reported = false
  failed : φ.failed = 0
  untouched : Untouched φ

theorem Started.does_readyStartTime (h : Started pid φ) :
    Does id shimPid (readyStartTime pid) φ fun startTime ψ =>
      ψ = { φ with startTime := some startTime } := by
  have hsame : { φ with startTime := none } = φ := by rw [← h.startTime]
  refine Does.bind (R := fun startTime ψ => ψ = { φ with startTime := startTime })
    (does_call ⟨h.launched, h.child, h.startTime⟩ (fun _ => rfl) fun _ =>
      .noStartTime h.startTime) ?_
  rintro startTime ψ rfl
  cases startTime with
  | some startTime => exact does_pure rfl
  | none =>
      rw [hsame]
      exact does_call ⟨h.launched, by rw [h.child]; rfl, h.startTime⟩ (fun _ => rfl) fun _ =>
        .noStartTime h.startTime

theorem Started.does_superviseRuntime (h : Started pid φ) (launch : LaunchSpec) :
    Does id shimPid (superviseRuntime id shimPid polls launch pid) φ Finished := by
  refine h.does_readyStartTime.bind ?_
  rintro startTime ψ rfl
  refine Does.bind (R := fun _ ψ => ψ = { φ with
      startTime := some startTime, acked := true, failed := 0 })
    (does_reconnecting h.failed ?_ ?_ ?_ ?_) ?_
  · intro n hn
    exact ⟨h.launched, h.acked, hn, pid, startTime, h.child, rfl, rfl⟩
  · intro n a
    rfl
  · intro n e
    rfl
  · exact .notReady h.acked rfl
  · rintro _ ψ rfl
    have hwatching : Watching pid { φ with
        startTime := some startTime, acked := true, failed := 0 } :=
      ⟨h.launched, ⟨h.child, rfl, h.exit⟩, h.reported, rfl⟩
    have hclean : Untouched { φ with startTime := some startTime, acked := true, failed := 0 } :=
      ⟨h.untouched.sigterm, h.untouched.termed, h.untouched.deadline⟩
    refine (hwatching.does_waitForRuntime hclean).bind fun waited χ hχ => ?_
    cases waited with
    | ended status => exact hχ.does_reportExit launch
    | waiting => exact does_pure ⟨pid, hχ.launched, hχ.watches⟩

/-- **A shim does what `Allowed` says.** -/
theorem conforms_runForSessionBlocking :
    Does id shimPid (runForSessionBlocking id shimPid polls) .new Finished := by
  refine (does_ignoreUserInterrupts rfl).bind ?_
  rintro _ ψ rfl
  refine Does.bind (R := fun _ ψ => ψ = .new)
    (does_call trivial (fun _ => rfl) fun _ => .noChild rfl) ?_
  rintro _ ψ rfl
  refine Does.bind (R := fun _ ψ => ψ = { Knowledge.new with launched := true })
    (does_reconnecting rfl ?_ ?_ ?_ ?_) ?_
  · intro n hn
    exact ⟨rfl, rfl, hn⟩
  · intro n launch
    rfl
  · intro n e
    rfl
  · exact .noChild rfl
  rintro launch ψ rfl
  refine Does.bind (R := fun _ ψ => ψ = { Knowledge.new with launched := true })
    (does_call trivial (fun _ => rfl) fun _ => .noChild rfl) ?_
  rintro _ ψ rfl
  refine Does.bind (R := fun _ ψ => ψ = { Knowledge.new with launched := true })
    (does_ofExcept (fun _ _ => rfl) (.noChild rfl)) ?_
  rintro command ψ rfl
  refine Does.bind (R := fun pid ψ => Started pid ψ)
    (Does.context (does_call ⟨rfl, rfl⟩ (fun pid => ?_) fun _ => .noChild rfl)) ?_
  · exact ⟨rfl, rfl, rfl, rfl, rfl, rfl, rfl, rfl, rfl, rfl⟩
  · intro pid ψ hψ
    exact hψ.does_superviseRuntime launch

end

end LittleOrgans.ShimProcess
