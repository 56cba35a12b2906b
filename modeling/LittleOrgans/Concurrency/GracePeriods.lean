import LittleOrgans.Concurrency.Operations
import LittleOrgans.Library.Instant

/-!
# Grace periods

`run_kill_loop` and `kill_pid` of the runtime daemon, and `wait_for_terminal` of the session
driver: they send a signal or have it sent, add the grace period to the time of the clock and
poll until that deadline. What they find is given by the number of sleeps made, and a run that
still polls after so many checks of the clock has no result yet.

The deadline is computed once, in front of the polls, so a run panics exactly when the sum
leaves the range of the clock; the two kills have delivered their signal by then
(`runKillLoop_panicked`, `killPid_panicked`).
-/

set_option autoImplicit false

namespace LittleOrgans.Concurrency

open LittleOrgans.Core
open LittleOrgans.Library
open LittleOrgans.Store
open LittleOrgans.Daemon

/-- The result of a run; none while it polls. -/
abbrev PollResult (α : Type) := Outcome (Option (Except DaemonError α))

/-- A result that is there. -/
def PollResult.done {α : Type} (result : Except DaemonError α) : PollResult α :=
  .returned (some result)

/-- The clock as a run reads it: for the deadline, and then in front of every poll. -/
structure PollClock (last : Nat) where
  started : Instant last
  now : Nat → Instant last

/-- `started + secs` is an instant of the clock. -/
def PollClock.Reaches {last : Nat} (clock : PollClock last) (duration : Duration) : Prop :=
  clock.started.nanos + duration ≤ last

variable {last : Nat}

/-! ## `run_kill_loop` -/

/-- What a `KillTarget` and a `TerminalCheck` answer. -/
structure KillAnswers where
  sendSignal : RuntimeSignal → Except DaemonError KillOutcome
  sendKill : Nat → Except DaemonError Unit
  isAlive : Nat → Except DaemonError Bool
  isTerminal : Nat → Except DaemonError Bool

namespace KillAnswers

variable (target : KillAnswers)

/-- `terminal.is_terminal().await? || !target.is_alive().await?` -/
def hasEnded (sleeps : Nat) : Except DaemonError Bool := do
  if ← target.isTerminal sleeps then pure true
  else
    let alive ← target.isAlive sleeps
    pure !alive

/-- The loop of `run_kill_loop`: the sleeps made when it ends, and whether a poll found the
runtime ended. -/
def pollUntil (clock : PollClock last) (deadline : Instant last) :
    Nat → Nat → Option (Except DaemonError (Nat × Bool))
  | 0, _ => none
  | polls + 1, sleeps =>
      if (clock.now sleeps).nanos < deadline.nanos then
        match target.hasEnded sleeps with
        | .error error => some (.error error)
        | .ok true => some (.ok (sleeps, true))
        | .ok false => pollUntil clock deadline polls (sleeps + 1)
      else some (.ok (sleeps, false))

/-- The end of `run_kill_loop`. -/
def escalate (signal : RuntimeSignal) (sleeps : Nat) :
    List RuntimeSignal × Except DaemonError KillOutcome :=
  match target.isAlive sleeps with
  | .error error => ([], .error error)
  | .ok alive =>
      if alive ∧ signal ≠ .kill then
        ([.kill], (target.sendKill sleeps).map fun _ => .signalled)
      else ([], .ok .signalled)

/-- `run_kill_loop`: the signals sent, and the result after so many polls. -/
def runKillLoop (clock : PollClock last) (signal : RuntimeSignal) (graceSecs : UInt64)
    (polls : Nat) : List RuntimeSignal × PollResult KillOutcome :=
  match target.sendSignal signal with
  | .error error => ([signal], .done (.error error))
  | .ok .alreadyExited => ([signal], .done (.ok .alreadyExited))
  | .ok .signalled =>
      match clock.started.add (Duration.fromSecs graceSecs.toNat) with
      | .panicked => ([signal], .panicked)
      | .returned deadline =>
          match target.pollUntil clock deadline polls 0 with
          | none => ([signal], .returned none)
          | some (.error error) => ([signal], .done (.error error))
          | some (.ok (_, true)) => ([signal], .done (.ok .signalled))
          | some (.ok (sleeps, false)) =>
              let (signals, outcome) := target.escalate signal sleeps
              (signal :: signals, .done outcome)

end KillAnswers

/-! ## `kill_pid` -/

structure KillByPidRequest where
  pid : Pid
  signal : Int32
  graceSecs : UInt64
  deriving DecidableEq

structure KillByPidResponse where
  pid : Pid
  signal : Int32
  killedAfterGrace : Bool
  outcome : KillOutcome
  deriving DecidableEq

/-- `signal_number(RuntimeSignal::Kill)` -/
def sigkill : Int32 := 9

/-- The process of a pid: the answers of `send_raw_signal_for_kill`, `send_raw_signal` and
`pid_alive`. -/
structure PidAnswers where
  sendRawSignalForKill : Int32 → Except DaemonError KillOutcome
  sendRawSignal : Nat → Int32 → Except DaemonError Unit
  pidAlive : Nat → Bool

namespace PidAnswers

variable (target : PidAnswers)

/-- The loop of `kill_pid`: the sleeps made when it ends, and whether the process was gone. -/
def pollUntil (clock : PollClock last) (deadline : Instant last) :
    Nat → Nat → Option (Nat × Bool)
  | 0, _ => none
  | polls + 1, sleeps =>
      if (clock.now sleeps).nanos < deadline.nanos then
        if !target.pidAlive sleeps then some (sleeps, true)
        else pollUntil clock deadline polls (sleeps + 1)
      else some (sleeps, false)

/-- `kill_pid`: the signals sent, and the result after so many polls. -/
def killPid (clock : PollClock last) (request : KillByPidRequest) (polls : Nat) :
    List Int32 × PollResult KillByPidResponse :=
  let response (killedAfterGrace : Bool) (outcome : KillOutcome) : KillByPidResponse :=
    { pid := request.pid, signal := request.signal, killedAfterGrace, outcome }
  match target.sendRawSignalForKill request.signal with
  | .error error => ([request.signal], .done (.error error))
  | .ok .alreadyExited => ([request.signal], .done (.ok (response false .alreadyExited)))
  | .ok .signalled =>
      match clock.started.add (Duration.fromSecs request.graceSecs.toNat) with
      | .panicked => ([request.signal], .panicked)
      | .returned deadline =>
          match target.pollUntil clock deadline polls 0 with
          | none => ([request.signal], .returned none)
          | some (_, true) => ([request.signal], .done (.ok (response false .signalled)))
          | some (sleeps, false) =>
              if target.pidAlive sleeps ∧ request.signal ≠ sigkill then
                ([request.signal, sigkill],
                  .done ((target.sendRawSignal sleeps sigkill).map fun _ =>
                    response true .signalled))
              else ([request.signal], .done (.ok (response false .signalled)))

end PidAnswers

/-! ## `wait_for_terminal` -/

/-- The exit of the session in what `status` lists. -/
def listedExit (sessionId : SessionId) (lifecycles : List Lifecycle) : Option ChildExit :=
  (lifecycles.find? fun lifecycle => lifecycle.sessionId = sessionId).bind terminalChildExit

/-- The loop of `wait_for_terminal`. -/
def pollForTerminal (status : Nat → Except DaemonError (List Lifecycle)) (sessionId : SessionId)
    (clock : PollClock last) (deadline : Instant last) :
    Nat → Nat → Option (Except DaemonError (Option ChildExit))
  | 0, _ => none
  | polls + 1, sleeps =>
      match status sleeps with
      | .error error => some (.error error)
      | .ok lifecycles =>
          let exit := listedExit sessionId lifecycles
          if exit.isSome ∨ deadline.nanos ≤ (clock.now sleeps).nanos then some (.ok exit)
          else pollForTerminal status sessionId clock deadline polls (sleeps + 1)

/-- `wait_for_terminal`, called after the kill with the grace period of the request. -/
def waitForTerminalUntil (status : Nat → Except DaemonError (List Lifecycle))
    (sessionId : SessionId) (clock : PollClock last) (grace : Duration) (polls : Nat) :
    PollResult (Option ChildExit) :=
  match clock.started.add (max grace (Duration.fromSecs 1)) with
  | .panicked => .panicked
  | .returned deadline => .returned (pollForTerminal status sessionId clock deadline polls 0)

/-! ## Panics -/

/-- The addition in front of the polls. -/
theorem PollClock.reaches_iff {clock : PollClock last} {duration : Duration} :
    clock.Reaches duration ↔ clock.started.add duration ≠ .panicked := by
  rw [Reaches, Ne, Instant.add_eq_panicked, Nat.not_lt]

/-- The kill panics when its signal was delivered and the deadline is out of range. -/
theorem KillAnswers.runKillLoop_panicked (target : KillAnswers) (clock : PollClock last)
    (signal : RuntimeSignal) (graceSecs : UInt64) (polls : Nat) :
    (target.runKillLoop clock signal graceSecs polls).2 = .panicked ↔
      target.sendSignal signal = .ok .signalled ∧
        ¬clock.Reaches (Duration.fromSecs graceSecs.toNat) := by
  rw [runKillLoop, PollClock.reaches_iff]
  cases target.sendSignal signal with
  | error error => simp [PollResult.done]
  | ok outcome =>
      cases outcome with
      | alreadyExited => simp [PollResult.done]
      | signalled =>
          cases clock.started.add (Duration.fromSecs graceSecs.toNat) with
          | panicked => simp
          | returned deadline =>
              dsimp only
              rcases target.pollUntil clock deadline polls 0 with _ | error | ⟨sleeps, ended⟩
              · simp
              · simp [PollResult.done]
              · cases ended with
                | true => simp [PollResult.done]
                | false => simp [PollResult.done]

theorem PidAnswers.killPid_panicked (target : PidAnswers) (clock : PollClock last)
    (request : KillByPidRequest) (polls : Nat) :
    (target.killPid clock request polls).2 = .panicked ↔
      target.sendRawSignalForKill request.signal = .ok .signalled ∧
        ¬clock.Reaches (Duration.fromSecs request.graceSecs.toNat) := by
  rw [killPid, PollClock.reaches_iff]
  cases target.sendRawSignalForKill request.signal with
  | error error => simp [PollResult.done]
  | ok outcome =>
      cases outcome with
      | alreadyExited => simp [PollResult.done]
      | signalled =>
          cases clock.started.add (Duration.fromSecs request.graceSecs.toNat) with
          | panicked => simp
          | returned deadline =>
              dsimp only
              rcases target.pollUntil clock deadline polls 0 with _ | ⟨sleeps, gone⟩
              · simp
              · cases gone with
                | true => simp [PollResult.done]
                | false =>
                    dsimp only
                    split
                    · simp [PollResult.done]
                    · simp [PollResult.done]

theorem waitForTerminalUntil_panicked (status : Nat → Except DaemonError (List Lifecycle))
    (sessionId : SessionId) (clock : PollClock last) (grace : Duration) (polls : Nat) :
    waitForTerminalUntil status sessionId clock grace polls = .panicked ↔
      ¬clock.Reaches (max grace (Duration.fromSecs 1)) := by
  rw [waitForTerminalUntil, PollClock.reaches_iff]
  cases clock.started.add (max grace (Duration.fromSecs 1)) with
  | panicked => simp
  | returned deadline => simp

end LittleOrgans.Concurrency
