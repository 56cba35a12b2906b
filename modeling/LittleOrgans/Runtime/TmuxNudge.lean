import LittleOrgans.Core.Lifecycle
import LittleOrgans.Library.Trace

/-!
# Nudges

A nudge types a message into the tmux pane of an agent: `execute_nudge` checks the pane,
waits for an idle agent or interrupts a busy one, types the payload and confirms that it
was submitted. Each function is the program of the operations it awaits on the pane and
on the clock; whether a captured pane shows a busy agent is a parameter. The wait has no
bound of its own, so it asks for the number of rounds it may take and returns `none` when
they are used up. Durations are nanoseconds.
-/

set_option autoImplicit false

namespace LittleOrgans.Runtime

open LittleOrgans.Core
open LittleOrgans.Library

/-- When a nudge may be typed into a pane. -/
inductive NudgeMode where
  | immediate
  | wait
  | steer
  deriving DecidableEq

/-- What became of a nudge. -/
inductive NudgeSendOutcome where
  | delivered
  | paneDead
  | agentBusyTimeout
  deriving DecidableEq

/-- How often a busy pane is looked at, for how long, and how often it has to look idle. -/
structure NudgeTiming where
  pollInterval : Nat
  timeout : Nat
  idleProbesRequired : Nat
  deriving DecidableEq

/-- The end of the wait for an idle pane. -/
inductive PolicyOutcome where
  | ready
  | busyTimeout
  deriving DecidableEq

/-- Times are kept in nanoseconds. -/
def nanosPerMilli : Nat := 1000000

/-- The timing of a nudge that waits. -/
def waitTimingDefault : NudgeTiming where
  pollInterval := 1000 * nanosPerMilli
  timeout := 120000 * nanosPerMilli
  idleProbesRequired := 2

/-- The timing of a nudge that steers. -/
def steerTiming : NudgeTiming where
  pollInterval := 250 * nanosPerMilli
  timeout := 5000 * nanosPerMilli
  idleProbesRequired := 2

/-- The looks at the pane that confirm a submit. -/
def submitConfirmProbes : Nat := 3

/-- The pause between two looks that confirm a submit. -/
def submitConfirmPoll : Nat := 250 * nanosPerMilli

/-- How often a submit is sent again. -/
def maxSubmitResends : Nat := 2

/-- `wait_timing`. -/
def waitTiming (timeoutMs : Option UInt64) : NudgeTiming :=
  match timeoutMs with
  | none => waitTimingDefault
  | some timeoutMs =>
      let timeout := timeoutMs.toNat * nanosPerMilli
      let probeSlots := waitTimingDefault.idleProbesRequired + 1
      { pollInterval := min waitTimingDefault.pollInterval (max (timeout / probeSlots) 1)
        timeout := timeout
        idleProbesRequired := waitTimingDefault.idleProbesRequired }

/-! ## Operations on the pane -/

/-- The calls on tmux. -/
inductive NudgeOp where
  | isAlive
  | paneInMode
  | cancelCopyMode
  | capturePane
  | interrupt
  | sendPayload
  | resubmit
  | sleep (duration : Nat)
  | now
  deriving DecidableEq

/-- The content of a captured pane, an instant, or whether something is so. -/
abbrev NudgeOp.Res : NudgeOp → Type
  | isAlive => Bool
  | paneInMode => Bool
  | cancelCopyMode => Unit
  | capturePane => String
  | interrupt => Unit
  | sendPayload => Unit
  | resubmit => Unit
  | sleep _ => Unit
  | now => Nat

/-- The calls on tmux, as a signature of programs. -/
abbrev nudgeOps : Signature := ⟨NudgeOp, NudgeOp.Res⟩

/-- Programs on a pane; an error is its text. -/
abbrev NudgeProg (α : Type) := Prog nudgeOps String α

/-- A call on tmux. -/
abbrev ops (o : NudgeOp) : NudgeProg o.Res := Prog.call (S := nudgeOps) o

/-- What is sent: the text with its submit, or the submit alone. -/
inductive SendStep where
  | payload
  | resubmit

/-- Leaves copy mode, as far as that works. -/
def leaveCopyMode : NudgeProg Unit := do
  if ← ops .paneInMode then
    -- an error here is ignored, the send behind it decides
    let _ ← (ops .cancelCopyMode).attempt
    return ()
  else return ()

/-- Sends one of the two. -/
def sendStep : SendStep → NudgeProg Unit
  | .payload => ops .sendPayload
  | .resubmit => ops .resubmit

/-- `send_or_pane_dead`. A pane whose liveness cannot be told counts as dead. -/
def sendOrPaneDead (step : SendStep) : NudgeProg (Option NudgeSendOutcome) := do
  match ← (sendStep step).attempt with
  | .ok () => return none
  | .error error =>
      match ← (ops .isAlive).attempt with
      -- the pane is there, so the error is the one of tmux
      | .ok true => .fail error
      | .ok false => return some .paneDead
      | .error _ => return some .paneDead

section Probing

variable (agentIsBusy : RuntimeKind → String → Bool) (runtime : RuntimeKind)

/-- `probe_agent_busy`. -/
def probeAgentBusy : NudgeProg Bool := do
  let content ← ops .capturePane
  return agentIsBusy runtime content

/-- The probes of `submission_confirmed` that are left. -/
def submissionConfirmed : Nat → NudgeProg Bool
  | 0 => return false
  | probes + 1 => do
      match ← (probeAgentBusy agentIsBusy runtime).attempt with
      | .ok false =>
          -- no pause behind the last probe
          if 0 < probes then
            ops (.sleep submitConfirmPoll)
            submissionConfirmed probes
          else submissionConfirmed probes
      -- a busy agent has taken the text; one that cannot be read counts as busy here
      | .ok true => return true
      | .error _ => return true

/-- The loop of `send_nudge_payload`, with the resends that are left. -/
def confirmSubmit : Nat → NudgeProg NudgeSendOutcome
  | 0 => do
      -- the resends are used up, and the answer of the probes makes no difference
      let _ ← submissionConfirmed agentIsBusy runtime submitConfirmProbes
      return .delivered
  | resends + 1 => do
      if ← submissionConfirmed agentIsBusy runtime submitConfirmProbes then return .delivered
      else
        match ← sendOrPaneDead .resubmit with
        | some outcome => return outcome
        | none => confirmSubmit resends

/-- `send_nudge_payload`. -/
def sendNudgePayload : NudgeProg NudgeSendOutcome := do
  leaveCopyMode
  match ← sendOrPaneDead .payload with
  | some outcome => return outcome
  | none => confirmSubmit agentIsBusy runtime maxSubmitResends

/-- The end of a round: gives up at the deadline, or sleeps and goes on. -/
def sleepRound (timing : NudgeTiming) (deadline : Nat)
    (next : NudgeProg (Option PolicyOutcome)) : NudgeProg (Option PolicyOutcome) := do
  let now ← ops .now
  if deadline ≤ now then return some .busyTimeout
  else
    let now ← ops .now
    ops (.sleep (min timing.pollInterval (deadline - now)))
    next

/-- The loop of `wait_for_idle`, with the rounds that are left and the number of idle
probes in a row. -/
def waitRounds (timing : NudgeTiming) (deadline : Nat) :
    Nat → Nat → NudgeProg (Option PolicyOutcome)
  | 0, _ => return none
  | rounds + 1, consecutiveIdle => do
      match ← (probeAgentBusy agentIsBusy runtime).attempt with
      | .ok true => sleepRound timing deadline (waitRounds timing deadline rounds 0)
      | .ok false =>
          -- one idle probe is not enough: the agent may be between two steps
          if timing.idleProbesRequired ≤ consecutiveIdle + 1 then return some .ready
          else sleepRound timing deadline (waitRounds timing deadline rounds (consecutiveIdle + 1))
      -- a pane that cannot be read does not stop the nudge
      | .error _ => return some .ready

/-- `wait_for_idle`. -/
def waitForIdle (rounds : Nat) (timing : NudgeTiming) : NudgeProg (Option PolicyOutcome) := do
  let start ← ops .now
  waitRounds agentIsBusy runtime timing (start + timing.timeout) rounds 0

/-- `steer_if_busy`. -/
def steerIfBusy (rounds : Nat) (timing : NudgeTiming) : NudgeProg (Option PolicyOutcome) := do
  match ← (probeAgentBusy agentIsBusy runtime).attempt with
  | .ok true =>
      ops .interrupt
      waitForIdle agentIsBusy runtime rounds timing
  | .ok false => return some .ready
  -- as above: the text is sent
  | .error _ => return some .ready

/-- What a nudge does about the agent before it types. -/
def policy (rounds : Nat) (mode : NudgeMode) (timeoutMs : Option UInt64) :
    NudgeProg (Option PolicyOutcome) :=
  match mode with
  | .immediate => return some .ready
  | .wait => waitForIdle agentIsBusy runtime rounds (waitTiming timeoutMs)
  | .steer => steerIfBusy agentIsBusy runtime rounds steerTiming

/-- `execute_nudge`. -/
def executeNudge (rounds : Nat) (mode : NudgeMode) (timeoutMs : Option UInt64) :
    NudgeProg (Option NudgeSendOutcome) := do
  if ← ops .isAlive then
    -- the pane may have entered copy mode since, so it is left once more before the text
    leaveCopyMode
    match ← policy agentIsBusy runtime rounds mode timeoutMs with
    | none => return none
    | some .busyTimeout => return some .agentBusyTimeout
    | some .ready =>
        let outcome ← sendNudgePayload agentIsBusy runtime
        return some outcome
  else return some .paneDead

end Probing

end LittleOrgans.Runtime
