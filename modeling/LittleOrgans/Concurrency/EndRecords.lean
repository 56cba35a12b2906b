import LittleOrgans.Concurrency.ShimDuties
import LittleOrgans.Concurrency.TerminalRecorders

/-!
# What a recorder of an end owes the event log

A recorder stores an end in the row of a session, enters the session into the set of
terminated events and, when it was the first to enter it, appends the event of the end. The
monitor `ending` follows a program through these steps. Every program of the daemon keeps to
it: it ends at rest, whatever its operations answered, and no spawn commits a lifecycle that
has ended (`ending_program`).
-/

set_option autoImplicit false

namespace LittleOrgans.Concurrency

open LittleOrgans.Core
open LittleOrgans.Library
open LittleOrgans.Library.Monitor
open LittleOrgans.Library.Prog
open LittleOrgans.Store
open LittleOrgans.Daemon

/-- How far a program has come with the end it records. -/
inductive Ending where
  | rest
  /-- The end of the session is stored, and the session not yet entered. -/
  | stored (id : SessionId)
  /-- The session is entered, and its event not yet appended. -/
  | entered (id : SessionId)

namespace Ending

/-- A recorder appends the event of the end it has entered; other events are appended at
rest. -/
def allows (φ : Ending) : Op → Prop
  | .store (.updateLifecycle _) => φ = .rest
  | .store (.commitSpawnIntent _ _ lc) => lc.state.isTerminal = false
  | .memory (.insertTerminatedEvent id) => φ = .stored id
  | .log (.appendEvent event) =>
      if event.isTerminal = true then φ = .entered event.sessionId else φ = .rest
  | _ => True

def next (φ : Ending) : (o : Op) → Except DaemonError o.Res → Ending
  | .store (.updateLifecycle lc), .ok _ =>
      if lc.state.isTerminal = true then .stored lc.sessionId else φ
  | .memory (.insertTerminatedEvent id), .ok first => if first = true then .entered id else .rest
  | .log (.appendEvent _), _ => .rest
  | _, _ => φ

end Ending

/-- The monitor of the ends that are recorded. -/
abbrev ending : Monitor daemonOps DaemonError where
  State := Ending
  allows := Ending.allows
  returns := Recording.returns
  next := Ending.next

/-! ## Programs that record no end -/

/-- Operations that are free to every program. -/
def Op.leavesEnds : Op → Bool
  | .store (.updateLifecycle _) => false
  | .store (.commitSpawnIntent _ _ _) => false
  | .memory (.insertTerminatedEvent _) => false
  | .log (.appendEvent _) => false
  | _ => true

theorem Ending.allows_of_leaves {o : Op} (h : o.leavesEnds = true) (φ : Ending) :
    φ.allows o ∧ ∀ r, φ.next o r = φ := by
  cases o with
  | os o => exact ⟨trivial, fun r => rfl⟩
  | log o =>
      cases o with
      | appendEvent event => cases h
      | pollEvents since => exact ⟨trivial, fun r => rfl⟩
  | store o =>
      cases o with
      | updateLifecycle lc => cases h
      | commitSpawnIntent id session lc => cases h
      | _ => exact ⟨trivial, fun r => rfl⟩
  | memory o =>
      cases o with
      | insertTerminatedEvent id => cases h
      | _ => exact ⟨trivial, fun r => rfl⟩

/-- A program that records no end. -/
abbrev LeavesEnds {α : Type} (p : DaemonProg α) : Prop :=
  p.Calls fun o : Op => o.leavesEnds = true

/-- A program that begins and ends at rest. -/
abbrev Rests {α : Type} (p : DaemonProg α) : Prop := ending.Keeps (· = .rest) p

theorem rests_of_leaves {o : Op} (ho : o.leavesEnds = true) (φ : Ending) (h : φ = .rest) :
    ending.allows φ o ∧ ∀ r, ending.next φ o r = .rest := by
  subst h
  exact Ending.allows_of_leaves ho .rest

theorem rests_of_calls {α : Type} {p : DaemonProg α} (hp : LeavesEnds p) : Rests p :=
  keeps_of_calls hp fun _ ho => rests_of_leaves ho

theorem leavesEnds_of_isLook {o : Op} (h : o.isLook = true) : o.leavesEnds = true := by
  cases o with
  | os o => rfl
  | memory o => cases h
  | log o => cases h
  | store o => cases o <;> first | rfl | cases h

theorem Looks.leavesEnds {α : Type} {p : DaemonProg α} (h : Looks p) : LeavesEnds p :=
  h.mono fun _ => leavesEnds_of_isLook

theorem rests_of_isLook {o : Op} (ho : o.isLook = true) (φ : Ending) (h : φ = .rest) :
    ending.allows φ o ∧ ∀ r, ending.next φ o r = .rest :=
  rests_of_leaves (leavesEnds_of_isLook ho) φ h

theorem rests_of_looks {α : Type} {p : DaemonProg α} (hp : Looks p) : Rests p :=
  rests_of_calls hp.leavesEnds

theorem rests_call {o : Op} (h : o.leavesEnds = true) :
    Rests (Prog.call (S := daemonOps) o : DaemonProg o.Res) := rests_of_calls (calls_call h)

/-- An event that reports no end is appended at rest. -/
theorem rests_append {event : RuntimeEvent} (h : event.isTerminal = false) :
    Rests (log (.appendEvent event)) := by
  rintro _ rfl
  refine conforms_call.mpr ⟨?_, fun r _ => rfl⟩
  show if event.isTerminal = true then _ else _
  rw [h]
  exact if_neg Bool.false_ne_true ▸ rfl

/-- A lifecycle that has not ended is written at rest. -/
theorem rests_update {lc : Lifecycle} (h : lc.state.isTerminal = false) :
    Rests (store (.updateLifecycle lc)) := by
  rintro _ rfl
  refine conforms_call.mpr ⟨rfl, fun r _ => ?_⟩
  cases r with
  | error e => rfl
  | ok _ =>
      show (if lc.state.isTerminal = true then _ else _) = _
      rw [h]
      rfl

/-! ## The recorders -/

theorem isTerminal_terminalEvent (lc : Lifecycle) (evidence : TerminationEvidence) :
    (terminalEvent lc evidence).isTerminal = true ∧
      (terminalEvent lc evidence).sessionId = lc.sessionId := by
  have hterminated : ∀ evidence, (terminatedEvent lc evidence).isTerminal = true := by
    intro evidence
    rw [terminatedEvent]
    cases lc.state <;> rfl
  cases evidence with
  | lost lost => exact ⟨rfl, rfl⟩
  | shimExit => exact ⟨hterminated _, sessionId_terminatedEvent lc _⟩
  | processExit => exact ⟨hterminated _, sessionId_terminatedEvent lc _⟩

theorem ending_finishTerminal {id : SessionId} {lc : Lifecycle} (hid : lc.sessionId = id)
    (evidence : TerminationEvidence) :
    ending.Conforms (finishTerminal id lc evidence) (.stored id) fun _ φ => φ = .rest := by
  subst hid
  obtain ⟨hterminal, hsession⟩ := isTerminal_terminalEvent lc evidence
  have hfails : ∀ {o : MemoryOp} {e : DaemonError}, (∀ id pid, o ≠ .startExitWatcher id pid) →
      ¬ending.returns (.memory o) (.error e) := by
    rintro o e hother ⟨id, pid, ho⟩
    exact hother id pid ho
  refine conforms_call_bind.mpr ⟨trivial, fun _ _ => ?_, fun e h => ?_⟩
  · refine conforms_call_bind.mpr ⟨rfl, fun first _ => ?_, fun e h => ?_⟩
    · cases first with
      | false => rfl
      | true =>
          refine conforms_call_bind.mpr ⟨?_, fun _ _ => rfl, fun e _ => rfl⟩
          show if (terminalEvent lc evidence).isTerminal = true then _ else _
          rw [if_pos hterminal, hsession]
          rfl
    · exact absurd h (hfails fun _ _ ho => by cases ho)
  · exact absurd h (hfails fun _ _ ho => by cases ho)

theorem rests_recordTerminal (id : SessionId) (evidence : TerminationEvidence)
    {mark : Lifecycle → Bool × Lifecycle}
    (hmark : ∀ {lc lc'}, mark lc = (true, lc') →
      lc'.state.isTerminal = true ∧ lc'.sessionId = lc.sessionId) :
    Rests (recordTerminal id evidence mark) := by
  rintro _ rfl
  refine conforms_call_bind.mpr ⟨trivial, fun found hfound => ?_, fun e _ => rfl⟩
  cases found with
  | none => rfl
  | some lc =>
      have hid : lc.sessionId = id := hfound lc rfl
      show ending.Conforms (if (mark lc).1 = true then _ else _) _ _
      split
      · next hmarked =>
          obtain ⟨hterminal, hsame⟩ := hmark (Prod.ext hmarked rfl)
          refine conforms_call_bind.mpr ⟨rfl, fun _ _ => ?_, fun e _ => rfl⟩
          show ending.Conforms _ (if (mark lc).2.state.isTerminal = true then
            Ending.stored (mark lc).2.sessionId else .rest) _
          rw [if_pos hterminal, hsame, hid]
          exact ending_finishTerminal (hsame.trans hid) evidence
      · rfl

theorem rests_recordExited (id : SessionId) (exit : RuntimeExit)
    (evidence : TerminationEvidence) : Rests (recordExited id exit evidence) := by
  have hrecord : Rests (recordTerminal id evidence fun lc => lc.markExited exit) := by
    refine rests_recordTerminal id evidence fun h => ?_
    obtain ⟨-, rfl⟩ := Lifecycle.markExited_eq_true h
    exact ⟨rfl, rfl⟩
  exact keeps_bind (keeps_attempt hrecord) fun result =>
    keeps_bind (rests_call rfl) fun _ => keeps_ofExcept result

theorem rests_recordLost (id : SessionId) (evidence : LostEvidence) :
    Rests (recordLost id evidence) := by
  have hrecord : Rests (recordTerminal id (.lost evidence) fun lc => lc.markLost evidence) := by
    refine rests_recordTerminal id (.lost evidence) fun h => ?_
    obtain ⟨-, rfl⟩ := Lifecycle.markLost_eq_true h
    exact ⟨rfl, rfl⟩
  exact keeps_bind (keeps_attempt hrecord) fun result =>
    keeps_bind (rests_call rfl) fun _ => keeps_ofExcept result

theorem rests_recordWatcherExit (id : SessionId) : Rests (recordWatcherExit id) :=
  keeps_recordWatcherExit (fun _ => rests_of_isLook) (rests_recordLost id)
    (rests_recordExited id _ _)

theorem rests_killRuntime (request : KillRequest) : Rests (killRuntime request) :=
  keeps_killRuntime (fun _ => rests_of_isLook) (rests_recordLost _ _)

theorem rests_reconcileOnce : Rests reconcileOnce :=
  keeps_reconcileOnce (fun _ => rests_of_isLook) rests_recordLost
    (fun _ _ => rests_call rfl) (rests_call rfl)

/-! ## The spawn -/

theorem rests_checkSpawn (request : RuntimeSpawnRequest) : Rests (checkSpawn request) := by
  have hoccupant : Rests (checkOccupant request) := by
    unfold checkOccupant
    cases request.target.tmuxAddress with
    | none => exact keeps_ret none
    | some address =>
        refine keeps_bind (rests_call rfl) fun found => ?_
        cases found with
        | none => exact keeps_ret none
        | some occupant =>
            show Rests (if request.force = true then _ else _)
            split
            · exact keeps_bind (rests_killRuntime _) fun _ => keeps_ret none
            · exact keeps_ret _
  refine keeps_bind (rests_call rfl) fun _ => keeps_bind (rests_call rfl) fun found => ?_
  cases found with
  | none => exact hoccupant
  | some lc =>
      show Rests (if isSessionBackedForking lc request = true then _ else _)
      split
      · exact hoccupant
      · exact keeps_ret _

theorem leavesEnds_cancelSpawn (id : SessionId) : LeavesEnds (cancelSpawn id) := by
  refine calls_bind (calls_call rfl) fun _ => ?_
  refine calls_bind ?_ fun _ => calls_bind (calls_attempt (calls_call rfl)) fun _ => trivial
  refine calls_bind (calls_call rfl) fun found => ?_
  cases found with
  | none => trivial
  | some channel => exact calls_call rfl

theorem leavesEnds_beginSpawn (request : RuntimeSpawnRequest) :
    LeavesEnds (beginSpawn request) := by
  refine calls_bind (looks_sessionBacked _).leavesEnds fun backed => ?_
  refine calls_bind (looks_validateSpawnTarget _).leavesEnds fun _ => ?_
  refine calls_bind ?_ fun _ => calls_bind (calls_call rfl) fun _ => ?_
  · cases backed with
    | true => trivial
    | false => exact calls_call rfl
  · have hwait : LeavesEnds (beginReadyWait request.sessionId) := by
      refine calls_bind (calls_call rfl) fun made => ?_
      show LeavesEnds (if made.2 = true then _ else _)
      split
      · exact calls_bind (calls_call rfl) fun _ => trivial
      · trivial
    refine calls_bind (calls_attempt hwait) fun waited => ?_
    cases waited with
    | ok channel => trivial
    | error e => exact calls_bind (leavesEnds_cancelSpawn _) fun _ => trivial

theorem isTerminal_of_runningEvent {lc : Lifecycle} {event : RuntimeEvent}
    (h : runningEvent lc = .ok event) : event.isTerminal = false := by
  rw [runningEvent] at h
  split at h
  · cases h
  · split at h <;> cases h
    rfl

theorem isTerminal_of_runningEventFromLifecycle {lc : Lifecycle} {now : DateTime}
    {event : RuntimeEvent} (h : runningEventFromLifecycle lc now = .ok event) :
    event.isTerminal = false ∧ lc.state = .running := by
  rw [runningEventFromLifecycle] at h
  split at h
  · cases h
  · next hrunning =>
      split at h <;> cases h
      exact ⟨rfl, not_not.mp hrunning⟩

/-- What is made of a result that is there. -/
theorem rests_ofExcept_bind {α β : Type} {r : Except DaemonError α} {f : α → DaemonProg β}
    (hf : ∀ a, r = .ok a → Rests (f a)) : Rests (Prog.ofExcept r >>= f) := by
  cases r with
  | ok a => exact hf a rfl
  | error e => exact keeps_fail e

theorem isTerminal_markRunning {lc : Lifecycle} {ready : ShimReady}
    (h : (lc.markRunning ready).1 = true) :
    (lc.markRunning ready).2.state.isTerminal = false := by
  have hmarked : lc.markRunning ready = (true, (lc.markRunning ready).2) := Prod.ext h rfl
  rw [(Lifecycle.markRunning_eq_true hmarked).2]
  rfl

theorem rests_recordRunning (request : RuntimeSpawnRequest) (ready : ShimReady)
    (appendEvent : Bool) : Rests (recordRunning request ready appendEvent) := by
  have hrow : Rests (recordRunningRow request ready appendEvent) := by
    refine keeps_bind (rests_call rfl) fun found => ?_
    cases found with
    | none => exact keeps_fail _
    | some lc =>
        show Rests (if lc.runtime ≠ request.runtime then _ else _)
        split
        · exact keeps_fail _
        · show Rests (if (lc.markRunning ready).1 = true then _ else _)
          split
          · next hmarked =>
              refine keeps_bind (rests_call rfl) fun logs => ?_
              refine keeps_bind (rests_update (isTerminal_markRunning hmarked)) fun _ => ?_
              refine rests_ofExcept_bind fun event hevent => ?_
              refine keeps_bind (rests_call rfl) fun _ => ?_
              cases appendEvent with
              | false => exact keeps_ret _
              | true =>
                  exact keeps_bind (rests_append (isTerminal_of_runningEvent hevent)) fun _ =>
                    keeps_ret _
          · exact keeps_fail _
  exact keeps_bind hrow fun _ => keeps_bind (rests_call rfl) fun _ => keeps_ret _

theorem rests_recordReconnectedReady (ready : ShimReady) :
    Rests (recordReconnectedReady ready) := by
  refine keeps_bind (rests_call rfl) fun found => ?_
  cases found with
  | none => exact keeps_fail _
  | some lc =>
      dsimp only
      cases hstate : lc.state with
      | forking =>
          have hmarked : (lc.markRunning ready).1 = true := by
            rw [Lifecycle.markRunning, if_neg (not_not.mpr hstate)]
          refine keeps_bind (rests_update (isTerminal_markRunning hmarked)) fun _ => ?_
          refine rests_ofExcept_bind fun event hevent => keeps_bind (rests_call rfl) fun _ => ?_
          exact keeps_bind (rests_append (isTerminal_of_runningEvent hevent)) fun _ => keeps_ret ()
      | running => exact rests_call rfl
      | exited exit => exact keeps_fail _
      | lost evidence => exact keeps_fail _

theorem rests_shimReady (ready : ShimReady) : Rests (shimReady ready) := by
  refine keeps_bind ?_ fun _ => rests_call rfl
  refine keeps_bind (rests_call rfl) fun found => ?_
  cases found with
  | none => exact rests_recordReconnectedReady ready
  | some channel =>
      refine keeps_bind (rests_call rfl) fun received => ?_
      cases received with
      | true => exact keeps_ret ()
      | false => exact keeps_fail _

theorem rests_spawnDomain (request : RuntimeSpawnRequest) : Rests (spawnDomain request) := by
  refine keeps_bind (rests_checkSpawn request) fun refusal => ?_
  cases refusal with
  | some conflict => exact keeps_ret conflict
  | none =>
      refine keeps_bind (rests_call rfl) fun _ => ?_
      refine keeps_bind (rests_of_calls (leavesEnds_beginSpawn request)) fun begin => ?_
      refine keeps_bind (keeps_attempt (rests_call rfl)) fun launched => ?_
      cases launched with
      | error e =>
          exact keeps_bind (rests_of_calls (leavesEnds_cancelSpawn _)) fun _ => keeps_fail e
      | ok stdoutPath =>
          refine keeps_bind (rests_call rfl) fun waited => ?_
          cases waited with
          | elapsed => exact keeps_fail _
          | closed => exact keeps_fail _
          | ready ready =>
              refine keeps_bind (keeps_ret ready) fun ready => ?_
              exact keeps_bind (rests_recordRunning _ ready _) fun running => keeps_ret _

theorem rests_abortRunningSpawn (id : SessionId) (reason : AbortReason) :
    Rests (abortRunningSpawn id reason) := by
  have hterminate : Rests (terminate id .term) := by
    refine keeps_bind (rests_killRuntime _) fun _ => keeps_bind (rests_call rfl) fun rounds => ?_
    refine keeps_bind (rests_of_looks (looks_waitForTerminal id rounds)) fun found => ?_
    cases found with
    | none => exact keeps_ret none
    | some exit => exact keeps_bind (rests_call rfl) fun _ => keeps_ret _
  exact keeps_bind (keeps_attempt hterminate) fun _ => rests_call rfl

theorem rests_afterCommit (intent : PendingSpawnIntent) (session : Session)
    {event : RuntimeEvent} (hevent : event.isTerminal = false) (onCommitFailure : OnCommitFailure)
    (r : Except DaemonError Unit) :
    Rests (afterCommit intent session event onCommitFailure r) := by
  cases r with
  | ok _ => exact keeps_bind (keeps_mapError _ (rests_append hevent)) fun _ => keeps_ret session
  | error e =>
      cases onCommitFailure with
      | leavePending => exact keeps_fail e
      | abortRunning =>
          exact keeps_bind (keeps_attempt (rests_abortRunningSpawn _ _)) fun _ => keeps_fail e

/-- The lifecycle that is committed has not ended. -/
theorem rests_completeSpawnIntent (intent : PendingSpawnIntent) {lc : Lifecycle}
    {event : RuntimeEvent} (hlc : lc.state.isTerminal = false) (hevent : event.isTerminal = false)
    (stdoutPath : Option String) (onCommitFailure : OnCommitFailure) :
    Rests (completeSpawnIntent intent lc event stdoutPath onCommitFailure) := by
  refine keeps_bind (rests_call rfl) fun updatedAt => ?_
  refine keeps_bind (keeps_ofExcept _) fun session => ?_
  refine keeps_bind (keeps_mapError _ (rests_call rfl)) fun found => ?_
  cases found with
  | false => exact keeps_bind (rests_abortRunningSpawn _ _) fun _ => keeps_fail _
  | true =>
      refine keeps_bind (keeps_mapError _ (rests_call rfl)) fun _ => ?_
      have hcommit : Rests (store (.commitSpawnIntent intent.sessionId session lc)) := by
        rintro _ rfl
        exact conforms_call.mpr ⟨hlc, fun r _ => rfl⟩
      exact keeps_bind (keeps_attempt hcommit) fun committed =>
        rests_afterCommit intent session hevent onCommitFailure committed

/-- A spawn commits the lifecycle of which it has made the event of a running one. -/
theorem rests_afterEvent (intent : PendingSpawnIntent) (lc : Lifecycle) (now : DateTime)
    (stdoutPath : Option String) (onCommitFailure : OnCommitFailure) :
    Rests (Prog.ofExcept (runningEventFromLifecycle lc now) >>= fun event =>
      completeSpawnIntent intent lc event stdoutPath onCommitFailure) := by
  refine rests_ofExcept_bind fun event hevent => ?_
  obtain ⟨hterminal, hrunning⟩ := isTerminal_of_runningEventFromLifecycle hevent
  refine rests_completeSpawnIntent intent ?_ hterminal stdoutPath onCommitFailure
  rw [hrunning]
  rfl

theorem rests_spawn (intent : PendingSpawnIntent) : Rests (spawn intent) := by
  refine keeps_bind (keeps_mapError _ (rests_call rfl)) fun found => ?_
  cases found with
  | false => exact keeps_fail _
  | true =>
      refine keeps_bind (rests_call rfl) fun _ => ?_
      have hruntime : Rests (runtimeSpawn intent.spawnRequest) :=
        keeps_bind (rests_call rfl) fun _ => keeps_bind (rests_spawnDomain _) fun outcome =>
          keeps_ofExcept _
      refine keeps_bind (keeps_attempt hruntime) fun spawned => ?_
      cases spawned with
      | error e => exact keeps_bind (rests_call rfl) fun _ => keeps_fail _
      | ok spawned => exact keeps_bind (rests_call rfl) fun now => rests_afterEvent _ _ _ _ _

/-! ## The other programs -/

theorem rests_boot : Rests boot := by
  have hintent : ∀ intent, Rests (reconcilePendingSpawnIntent intent) := by
    intro intent
    refine keeps_bind (rests_of_looks (looks_status _)) fun lifecycles => ?_
    cases lifecycles.find? fun lc => lc.sessionId = intent.sessionId with
    | none => exact rests_call rfl
    | some lc =>
        show Rests (if lc.state = .running then _ else _)
        split
        · refine keeps_bind (rests_call rfl) fun now => rests_ofExcept_bind fun event hevent => ?_
          obtain ⟨hterminal, hrunning⟩ := isTerminal_of_runningEventFromLifecycle hevent
          have hlc : lc.state.isTerminal = false := by
            rw [hrunning]
            rfl
          exact keeps_bind (rests_completeSpawnIntent intent hlc hterminal none .leavePending)
            fun _ => keeps_ret ()
        · exact rests_call rfl
  refine keeps_bind rests_reconcileOnce fun _ => keeps_bind (rests_call rfl) fun _ => ?_
  refine keeps_bind ?_ fun _ => rests_call rfl
  refine keeps_bind (keeps_mapError _ (rests_call rfl)) fun pending => ?_
  exact keeps_forEach (fun intent => keeps_bind (keeps_attempt (hintent intent)) fun _ =>
    keeps_ret ()) pending

theorem leavesEnds_refreshExits : LeavesEnds refreshExits := by
  refine calls_bind (looks_status _).leavesEnds fun lifecycles => ?_
  refine calls_bind (calls_call rfl) fun exits => calls_forEach (fun exit => ?_) exits
  unfold persistChildExit
  cases exit.transcriptPath with
  | some path => exact calls_bind (calls_call rfl) fun _ => calls_call rfl
  | none => exact calls_call rfl

theorem leavesEnds_eventLoopRound : LeavesEnds eventLoopRound := by
  refine calls_bind (calls_call rfl) fun cursor => calls_bind (calls_call rfl) fun page => ?_
  refine calls_bind (calls_attempt (calls_call rfl)) fun applied => ?_
  cases applied <;> exact calls_call rfl

theorem leavesEnds_removeNamespaceCatalog (slug : String) :
    LeavesEnds (removeNamespaceCatalog slug) := by
  refine calls_bind (calls_call rfl) fun active => ?_
  show LeavesEnds (if 0 < active then _ else _)
  split
  · trivial
  · refine calls_bind (calls_call rfl) fun _ => calls_bind (calls_call rfl) fun found => ?_
    cases found <;> trivial

theorem leavesEnds_shimLaunch (id : SessionId) : LeavesEnds (shimLaunch id) := by
  refine calls_bind (calls_bind (calls_call rfl) fun removed => ?_) fun _ => calls_call rfl
  cases removed <;> trivial

/-- Every program records the ends it has begun to record. -/
theorem ending_program (origin : Origin) : Rests origin.program := by
  cases origin with
  | boot => exact keeps_bind rests_boot fun _ => keeps_ret _
  | spawn call => exact keeps_bind (rests_spawn _) fun _ => keeps_ret _
  | kill request => exact keeps_bind (rests_killRuntime request) fun _ => keeps_ret _
  | shimReady ready => exact keeps_bind (rests_shimReady ready) fun _ => keeps_ret _
  | shimExit exit => exact keeps_bind (rests_recordExited _ _ _) fun _ => keeps_ret _
  | exitWatcher id => exact keeps_bind (rests_recordWatcherExit id) fun _ => keeps_ret _
  | reconcileOnce => exact keeps_bind rests_reconcileOnce fun _ => keeps_ret _
  | shimLaunch id =>
      exact keeps_bind (rests_of_calls (leavesEnds_shimLaunch id)) fun _ => keeps_ret _
  | refreshExits =>
      exact keeps_bind (rests_of_calls leavesEnds_refreshExits) fun _ => keeps_ret _
  | eventLoopRound =>
      exact keeps_bind (rests_of_calls leavesEnds_eventLoopRound) fun _ => keeps_ret _
  | removeNamespaceCatalog slug =>
      exact keeps_bind (rests_of_calls (leavesEnds_removeNamespaceCatalog slug)) fun _ =>
        keeps_ret _
  | startEventLoop =>
      have hload : Rests startEventLoop :=
        keeps_bind (rests_call rfl) fun cursor => rests_call rfl
      exact keeps_bind hload fun _ => keeps_ret _

/-- The programs of the daemon under the monitor `ending`. -/
abbrev endWatch : Watch daemon where
  monitor := ending
  first _ := .rest
  post _ _ φ := φ = .rest
  conforms origin := ending_program origin .rest rfl
  returns := fun h => Recording.returns_of_exec h

end LittleOrgans.Concurrency
