import LittleOrgans.Concurrency.RuntimePrograms

/-!
# Programs that only look

Much of what the daemon's programs do is to find out something: they read the store or
ask the operating system, and leave the store, the memory of the daemon and the event
log as they are (`Op.isProbe`); most of them start no shim and answer none (`Op.isLook`).
What is said here once about such a program holds for every monitor to which probes are free
(`Library.Monitor.conforms_of_calls`). The recorders of an end do little else: they keep to a
monitor that returns from the record itself (`keeps_recordWatcherExit`, `keeps_killRuntime`,
`keeps_reconcileOnce`).
-/

set_option autoImplicit false

namespace LittleOrgans.Concurrency

open LittleOrgans.Core
open LittleOrgans.Library
open LittleOrgans.Library.Monitor
open LittleOrgans.Library.Prog
open LittleOrgans.Store
open LittleOrgans.Daemon

/-- A statement that only reads lifecycles. -/
def StoreOp.isRead : StoreOp → Bool
  | .getLifecycle _ => true
  | .listLifecycles _ => true
  | .runningLifecycles => true
  | .runningTmuxOccupant _ => true
  | _ => false

/-- A read of lifecycles, or a request to the operating system. -/
def Op.isProbe : Op → Bool
  | .store o => o.isRead
  | .memory _ => false
  | .log _ => false
  | .os _ => true

/-- A request that starts no shim and answers none. -/
def OsOp.isLook : OsOp → Bool
  | .launchShim _ => false
  | .deliverLaunch _ => false
  | .ackReady _ => false
  | _ => true

/-- A probe that leaves the shims' requests alone. -/
def Op.isLook : Op → Bool
  | .store o => o.isRead
  | .memory _ => false
  | .log _ => false
  | .os o => o.isLook

theorem isProbe_of_isLook {o : Op} (h : o.isLook = true) : o.isProbe = true := by
  cases o with
  | store o => exact h
  | memory o => exact h
  | log o => exact h
  | os o => rfl

/-- A program that asks the store and the operating system. -/
abbrev Probes {α : Type} (p : DaemonProg α) : Prop := p.Calls fun o : Op => o.isProbe = true

/-- A program that only looks. -/
abbrev Looks {α : Type} (p : DaemonProg α) : Prop := p.Calls fun o : Op => o.isLook = true

theorem Looks.probes {α : Type} {p : DaemonProg α} (h : Looks p) : Probes p :=
  h.mono fun _ => isProbe_of_isLook

theorem probes_os (o : OsOp) : Probes (os o) := calls_call rfl

theorem looks_os {o : OsOp} (h : o.isLook = true) : Looks (os o) := calls_call h

theorem looks_getLifecycle (id : SessionId) : Looks (store (.getLifecycle id)) := calls_call rfl

theorem looks_isTerminal (id : SessionId) : Looks (isTerminal id) := by
  refine calls_bind (calls_attempt (looks_getLifecycle id)) fun r => ?_
  cases r with
  | error e => trivial
  | ok found => cases found <;> trivial

theorem looks_watcherEvidence (id : SessionId) : Looks (watcherEvidence id) := by
  refine calls_bind (looks_getLifecycle id) fun found => ?_
  cases found with
  | none => trivial
  | some lc =>
      dsimp only
      cases lc.shimPid with
      | none => trivial
      | some shimPid =>
          refine calls_bind (looks_os rfl) fun alive => ?_
          cases alive <;> trivial

theorem looks_hostProcessLostEvidence (pid : Pid) (stored : Option DateTime) :
    Looks (hostProcessLostEvidence pid stored) := by
  refine calls_bind (looks_os rfl) fun alive => ?_
  cases alive with
  | false => trivial
  | true =>
      cases stored with
      | none => trivial
      | some stored =>
          refine calls_bind (calls_attempt (looks_os rfl)) fun r => ?_
          cases r with
          | error e =>
              refine calls_bind (looks_os rfl) fun alive => ?_
              cases alive <;> trivial
          | ok found =>
              cases found with
              | gone => trivial
              | unsupported =>
                  refine calls_bind (looks_os rfl) fun alive => ?_
                  cases alive <;> trivial
              | known startTime =>
                  show Looks (if startTime = stored then _ else _)
                  split <;> trivial

theorem looks_sendSignal (signal : RuntimeSignal) (target : KillTarget) :
    Looks (target.sendSignal signal) := by
  cases target <;> exact looks_os rfl

theorem looks_isAlive (target : KillTarget) : Looks target.isAlive := by
  cases target <;> exact looks_os rfl

theorem looks_sendKill (target : KillTarget) : Looks target.sendKill := by
  cases target with
  | docker id => exact calls_bind (looks_os rfl) fun _ => trivial
  | host runtimePid =>
      refine calls_bind (looks_os rfl) fun outcome => ?_
      cases outcome <;> trivial

theorem looks_killRounds (target : KillTarget) (id : SessionId) (n : Nat) :
    Looks (killRounds target id n) := by
  induction n with
  | zero => trivial
  | succ n ih =>
      refine calls_bind (looks_isTerminal id) fun terminal => ?_
      cases terminal with
      | true => trivial
      | false =>
          refine calls_bind (looks_isAlive target) fun alive => ?_
          cases alive with
          | true => exact calls_bind (looks_os rfl) fun _ => ih
          | false => trivial

theorem looks_runKillLoop (target : KillTarget) (id : SessionId) (signal : RuntimeSignal) :
    Looks (runKillLoop target id signal) := by
  refine calls_bind (looks_sendSignal signal target) fun outcome => ?_
  cases outcome with
  | alreadyExited => trivial
  | signalled =>
      refine calls_bind (looks_os rfl) fun rounds => ?_
      refine calls_bind (looks_killRounds target id rounds) fun ended => ?_
      cases ended with
      | true => trivial
      | false =>
          refine calls_bind (looks_isAlive target) fun alive => ?_
          cases alive with
          | false => trivial
          | true =>
              show Looks (if signal = .kill then _ else _)
              split
              · trivial
              · exact calls_bind (looks_sendKill target) fun _ => trivial

theorem looks_lostEvidence (lc : Lifecycle) : Looks (lostEvidence lc) := by
  unfold lostEvidence
  cases lc.isolation with
  | host =>
      dsimp only
      cases lc.runtimePid with
      | none => trivial
      | some runtimePid => exact looks_hostProcessLostEvidence _ _
  | docker profile =>
      refine calls_bind (looks_os rfl) fun running => ?_
      cases running <;> trivial

theorem looks_validateSpawnTarget (target : SpawnTarget) :
    Looks (validateSpawnTarget target) := by
  unfold validateSpawnTarget
  cases target.tmuxAddress with
  | none => trivial
  | some address =>
      refine calls_bind (looks_os rfl) fun alive => ?_
      cases alive <;> trivial

theorem looks_sessionBacked (request : RuntimeSpawnRequest) : Looks (sessionBacked request) := by
  refine calls_bind (looks_getLifecycle _) fun found => ?_
  cases found with
  | none => trivial
  | some lc =>
      show Looks (if isSessionBackedForking lc request = true then _ else _)
      split <;> trivial

/-! ## The recorders, for any monitor -/

section Recorders

variable {M : Monitor daemonOps DaemonError} {R : M.State → Prop}
  (hlook : ∀ o : Op, o.isLook = true → ∀ φ, R φ → M.allows φ o ∧ ∀ r, R (M.next φ o r))

include hlook

theorem keeps_recordWatcherExit {id : SessionId}
    (hlost : ∀ evidence, M.Keeps R (recordLost id evidence))
    (hexited : M.Keeps R (recordExited id ⟨none, none⟩ .processExit)) :
    M.Keeps R (recordWatcherExit id) := by
  refine keeps_bind (keeps_of_calls (looks_isTerminal id) hlook) fun terminal => ?_
  cases terminal with
  | true => exact keeps_ret ()
  | false =>
      refine keeps_bind (keeps_of_calls (looks_watcherEvidence id) hlook) fun evidence => ?_
      cases evidence with
      | lost lost => exact keeps_bind (hlost lost) fun _ => keeps_ret ()
      | processExit => exact keeps_bind hexited fun _ => keeps_ret ()
      | shimExit => exact keeps_ret ()

theorem keeps_killRuntime {request : KillRequest}
    (hlost : M.Keeps R (recordLost request.sessionId .pidReuseDetected)) :
    M.Keeps R (killRuntime request) := by
  refine keeps_bind (keeps_of_calls (looks_getLifecycle _) hlook) fun found => ?_
  cases found with
  | none => exact keeps_fail _
  | some lc =>
      dsimp only
      cases lc.isolation with
      | docker profile => exact keeps_of_calls (looks_runKillLoop _ _ _) hlook
      | host =>
          dsimp only
          cases lc.runtimePid with
          | none => exact keeps_fail _
          | some pid =>
              refine keeps_bind (keeps_of_calls (looks_hostProcessLostEvidence _ _) hlook) ?_
              intro evidence
              have hloop : M.Keeps R (runKillLoop (.host pid) request.sessionId request.signal) :=
                keeps_of_calls (looks_runKillLoop _ _ _) hlook
              cases evidence with
              | none => exact hloop
              | some evidence =>
                  cases evidence with
                  | pidReuseDetected => exact keeps_bind hlost fun _ => keeps_ret _
                  | _ => exact hloop

theorem keeps_reconcileOnce (hlost : ∀ id evidence, M.Keeps R (recordLost id evidence))
    (hwatcher : ∀ id pid, M.Keeps R (memory (.startExitWatcher id pid)))
    (hsweep : M.Keeps R (store .recordProbeSweep)) : M.Keeps R reconcileOnce := by
  have hread : Looks (store .runningLifecycles) := calls_call rfl
  refine keeps_bind (keeps_of_calls hread hlook) fun running => ?_
  refine keeps_bind (keeps_forEach (fun lc => ?_) running) fun _ => hsweep
  refine keeps_bind (keeps_of_calls (looks_lostEvidence lc) hlook) fun evidence => ?_
  cases evidence with
  | some evidence => exact keeps_bind (hlost _ _) fun _ => keeps_ret ()
  | none =>
      dsimp only
      cases lc.runtimePid with
      | none => exact keeps_fail _
      | some pid => exact hwatcher _ _

end Recorders

end LittleOrgans.Concurrency
