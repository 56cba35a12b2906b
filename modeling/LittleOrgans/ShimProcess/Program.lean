import LittleOrgans.Concurrency.Operations
import LittleOrgans.Library.Report
import LittleOrgans.Runtime.SpawnPreflight

/-!
# The shim of a session

`run_for_session_blocking`: the process that fetches the launch spec of its session from the
daemon, starts the runtime as its child, reports it ready, waits for its end, and reports its
exit. Every request to the daemon is tried ten times, with a growing delay between the attempts.

The two loops that poll the child are unbounded in the source. A run is given the number of
polls it may take in each of them, and ends as `waiting` when they are used up.
-/

set_option autoImplicit false

namespace LittleOrgans.ShimProcess

open LittleOrgans.Core
open LittleOrgans.Library
open LittleOrgans.Concurrency
open LittleOrgans.Runtime (LaunchEnv)

/-! ## Launch specs -/

/-- The shell that replaces the shim once the runtime has ended. -/
structure ShellResume where
  argv : List String
  env : List LaunchEnv
  cwd : String

/-- What the daemon tells a shim to run. -/
structure LaunchSpec where
  argv : List String
  env : List LaunchEnv
  cwd : String
  shellResume : Option ShellResume

/-- A `Command` whose environment was cleared before `env` was set. -/
structure Command where
  program : String
  args : List String
  env : List LaunchEnv
  cwd : String

/-- `argv_command`. -/
def argvCommand (argv : List String) (emptyError : String) : Except Report String :=
  match argv.head? with
  | some program => .ok program
  | none => .error [emptyError]

/-- `runtime_command`. -/
def runtimeCommand (launch : LaunchSpec) : Except Report Command := do
  let program ← argvCommand launch.argv "launcher produced empty argv"
  return ⟨program, launch.argv.drop 1, launch.env, launch.cwd⟩

/-- `shell_resume_command`. -/
def shellResumeCommand (resume : ShellResume) : Except Report Command := do
  let program ← argvCommand resume.argv "launcher produced empty shell resume argv"
  return ⟨program, resume.argv.drop 1, resume.env, resume.cwd⟩

/-! ## Operations -/

/-- The status of a child that has ended: it exited with a code, or a signal ended it. -/
inductive ExitStatus where
  | exited (code : UInt8)
  | signaled (signal : Nat)
  deriving DecidableEq

/-- `runtime_exit`. -/
def runtimeExit : ExitStatus → RuntimeExit
  | .exited code => ⟨some code.toNat, none⟩
  | .signaled signal => ⟨none, some signal⟩

/-- The signals a shim handles. -/
inductive Signal where
  | interrupt
  | quit
  | terminate
  deriving DecidableEq

/-- What a shim does about a signal. -/
inductive SignalDisposition where
  | ignore
  | markSigterm
  deriving DecidableEq

/-- What the shim asks of the system and of the daemon. -/
inductive ShimOp where
  | installDisposition (signal : Signal) (disposition : SignalDisposition)
  | socketPath
  | requestLaunch (id : SessionId)
  | nudgeCursorOffTopRow
  | spawn (command : Command)
  | startTimeForPid (pid : Pid)
  | now
  | sendReady (ready : ShimReady)
  | sendExit (exit : ShimExit)
  | tryWait
  | wait
  | takeSigterm
  | instant
  | sendSignal (pid : Pid) (signal : RuntimeSignal)
  | sleep (millis : Nat)
  | execReplace (command : Command)

/-- What an operation of the shim returns. -/
abbrev ShimOp.Res : ShimOp → Type
  | installDisposition _ _ => Unit
  | socketPath => String
  | requestLaunch _ => LaunchSpec
  | nudgeCursorOffTopRow => Unit
  | spawn _ => Pid
  | startTimeForPid _ => Option DateTime
  | now => DateTime
  | sendReady _ => Unit
  | sendExit _ => Unit
  | tryWait => Option ExitStatus
  | wait => ExitStatus
  | takeSigterm => Bool
  | instant => Nat
  | sendSignal _ _ => Unit
  | sleep _ => Unit
  -- the process is another one when it succeeds
  | execReplace _ => Empty

/-- The operations of the shim, as a signature for programs. -/
abbrev shimOps : Signature := ⟨ShimOp, ShimOp.Res⟩

/-- Programs of the shim. -/
abbrev ShimProg (α : Type) := Prog shimOps Report α

/-- An operation of a program of the shim. -/
abbrev call (o : ShimOp) : ShimProg o.Res := Prog.call (S := shimOps) o

/-! ## Reconnecting -/

/-- How often a request is sent. -/
def SHIM_RECONNECT_MAX_ATTEMPTS : Nat := 10

/-- The first pause between two requests, in milliseconds. -/
def SHIM_RECONNECT_INITIAL_DELAY : Nat := 1000

/-- The longest pause between two requests, in milliseconds. -/
def SHIM_RECONNECT_MAX_DELAY : Nat := 30000

/-- The pause between two looks at the runtime, in milliseconds. -/
def RUNTIME_WAIT_POLL : Nat := 100

/-- How long a runtime has after `SIGTERM`, in milliseconds. -/
def SIGTERM_GRACE : Nat := 5000

/-- The attempts that are left; the last one takes its error along. -/
def reconnectingFrom {α : Type} (label : String) (operation : ShimProg α) :
    Nat → Nat → ShimProg α
  | 0, _ =>
      Prog.bail (label ++ " failed: reconnect loop exhausted without success or final failure")
  | left + 1, delay => do
      match ← operation.attempt with
      | .ok value => return value
      | .error error =>
          -- the last attempt takes its error along
          if left = 0 then
            Prog.bail (label ++ " failed after " ++ SHIM_RECONNECT_MAX_ATTEMPTS.repr ++
              " attempts: " ++ error.text)
          else
            call (.sleep delay)
            reconnectingFrom label operation left (min (delay * 2) SHIM_RECONNECT_MAX_DELAY)

/-- `reconnecting`. -/
def reconnecting {α : Type} (label : String) (operation : ShimProg α) : ShimProg α :=
  reconnectingFrom label operation SHIM_RECONNECT_MAX_ATTEMPTS SHIM_RECONNECT_INITIAL_DELAY

/-! ## Signals -/

/-- `set_user_interrupt_disposition`, with `Ignore`. -/
def ignoreUserInterrupts : ShimProg Unit := do
  Prog.context "failed to update SIGINT disposition" (call (.installDisposition .interrupt .ignore))
  Prog.context "failed to update SIGQUIT disposition" (call (.installDisposition .quit .ignore))

/-- `install_sigterm_handler`. -/
def installSigtermHandler : ShimProg Unit :=
  Prog.context "failed to install SIGTERM handler"
    (call (.installDisposition .terminate .markSigterm))

/-! ## Waiting for the runtime -/

/-- What a wait has come to. -/
inductive Waited where
  | ended (status : ExitStatus)
  | waiting

/-- `send_signal` with `SIGKILL`, whose error is dropped, and the end of the child. -/
def killRuntime (pid : Pid) : ShimProg Waited := do
  -- the signal is sent whether the child is still there or not
  let _ ← (call (.sendSignal pid .kill)).attempt
  let status ← Prog.context "failed to wait for runtime child after SIGKILL" (call .wait)
  return .ended status

/-- The loop of `terminate_runtime`. -/
def graceRounds (pid : Pid) (deadline : Nat) : Nat → ShimProg Waited
  | 0 => return .waiting
  | polls + 1 => do
      let time ← call .instant
      if time < deadline then
        match ← Prog.context "failed to poll runtime child after SIGTERM" (call .tryWait) with
        | some status => return .ended status
        | none =>
            call (.sleep RUNTIME_WAIT_POLL)
            graceRounds pid deadline polls
      -- the grace is over
      else killRuntime pid

/-- `terminate_runtime`. -/
def terminateRuntime (pid : Pid) (grace polls : Nat) : ShimProg Waited := do
  call (.sendSignal pid .term)
  let time ← call .instant
  graceRounds pid (time + grace) polls

/-- The loop of `wait_for_runtime`. -/
def waitRounds (pid : Pid) (polls : Nat) : Nat → ShimProg Waited
  | 0 => return .waiting
  | rounds + 1 => do
      match ← Prog.context "failed to poll runtime child" (call .tryWait) with
      | some status => return .ended status
      | none =>
          -- the daemon asks the shim to end its runtime
          if ← call .takeSigterm then terminateRuntime pid SIGTERM_GRACE polls
          else
            call (.sleep RUNTIME_WAIT_POLL)
            waitRounds pid polls rounds

/-- `wait_for_runtime`. -/
def waitForRuntime (pid : Pid) (polls : Nat) : ShimProg Waited := do
  installSigtermHandler
  waitRounds pid polls polls

/-! ## The process -/

/-- The time the runtime is reported to have started at. -/
def readyStartTime (pid : Pid) : ShimProg DateTime := do
  match ← call (.startTimeForPid pid) with
  -- the start that the system knows, or the time of the report
  | some startTime => return startTime
  | none => call .now

/-- `exec_shell_resume`. -/
def execShellResume (resume : ShellResume) : ShimProg Unit := do
  let command ← Prog.ofExcept (shellResumeCommand resume)
  let _ ← Prog.context "failed to exec shell after runtime exit" (call (.execReplace command))
  return ()

/-- The end of a run: the exit was reported, or the runtime still runs. -/
inductive ShimEnd where
  | reported
  | waiting

/-- What follows the end of the child. -/
def reportExit (id : SessionId) (launch : LaunchSpec) (status : ExitStatus) :
    ShimProg ShimEnd := do
  -- the report is sent before the shim becomes a shell
  reconnecting "ShimExit" (call (.sendExit ⟨id, runtimeExit status⟩))
  match launch.shellResume with
  | some resume =>
      execShellResume resume
      return .reported
  | none => return .reported

/-- What follows the start of the child. -/
def superviseRuntime (id : SessionId) (shimPid : Pid) (polls : Nat) (launch : LaunchSpec)
    (pid : Pid) : ShimProg ShimEnd := do
  let startTime ← readyStartTime pid
  reconnecting "ShimReady" (call (.sendReady ⟨id, shimPid, pid, startTime, none⟩))
  match ← waitForRuntime pid polls with
  | .ended status => reportExit id launch status
  | .waiting => return .waiting

/-- `run_for_session_blocking`. -/
def runForSessionBlocking (id : SessionId) (shimPid : Pid) (polls : Nat) : ShimProg ShimEnd := do
  ignoreUserInterrupts
  let _ ← call .socketPath
  let launch ← reconnecting "ShimLaunch" (call (.requestLaunch id))
  call .nudgeCursorOffTopRow
  let command ← Prog.ofExcept (runtimeCommand launch)
  let pid ← Prog.context "failed to spawn runtime" (call (.spawn command))
  superviseRuntime id shimPid polls launch pid

end LittleOrgans.ShimProcess
