import LittleOrgans.Concurrency.ShimDuties

/-!
# Who may hand out a launch spec

The runtime daemon keeps the launch spec of a spawn until its shim asks for it. The monitor
`launching` follows the spec through the programs: a spawn offers it until it has launched
the shim, has cancelled or has given its intent up, and a shim's request takes it and hands
it over. An intent is given up by its own spawn, or by the boot before the daemon listens.
Every program of the daemon keeps to this (`launching_program`).
-/

set_option autoImplicit false

namespace LittleOrgans.Concurrency

open LittleOrgans.Core
open LittleOrgans.Library
open LittleOrgans.Library.Monitor
open LittleOrgans.Library.Prog
open LittleOrgans.Store
open LittleOrgans.Daemon

/-- The intent is given up by the reconciliation at startup. -/
def isRecovery : AbortReason → Bool
  | .runtimeLifecycleMissing => true
  | .runtimeLifecycleNotRunning => true
  | .spawnFailure _ => false
  | .namespaceDeletedBeforeCommit => false
  | .sessionCommitFailed _ => false

/-- What a program has to do with launch specs. -/
structure Launching where
  /-- The session this program spawns. -/
  spawns : Option SessionId := none
  /-- It may still launch the shim of its session. -/
  launches : Bool := false
  /-- The session whose launch spec this program has taken and not handed over. -/
  taken : Option SessionId := none
  /-- The daemon does not listen before this program lets it. -/
  boots : Bool := false

namespace Launching

/-- The program may insert the lifecycle of the session, put up its launch spec and launch its
shim. -/
def Offers (ψ : Launching) (id : SessionId) : Prop := ψ.spawns = some id ∧ ψ.launches = true

def allows (ψ : Launching) : Op → Prop
  | .store (.insertForking lc) => ψ.Offers lc.sessionId
  | .store (.deleteLifecycle id) => ψ.Offers id
  | .store (.abortSpawnIntent id reason) =>
      ψ.boots = true ∨ (ψ.spawns = some id ∧ isRecovery reason = false)
  | .memory (.insertPendingLaunch id) => ψ.Offers id
  | .os (.launchShim request) => ψ.Offers request.sessionId
  | .os (.deliverLaunch id) => ψ.taken = some id
  | _ => True

/-- A spawn that deletes its lifecycle drops the launch spec it has taken back. -/
def next (ψ : Launching) : (o : Op) → Except DaemonError o.Res → Launching
  | .store (.deleteLifecycle _), _ => { ψ with launches := false, taken := none }
  | .store (.abortSpawnIntent _ _), _ => { ψ with launches := false }
  | .memory (.removePendingLaunch id), .ok true => { ψ with taken := some id }
  | .memory (.enterStage .listening), .ok _ => { ψ with boots := false }
  | .os (.launchShim _), .ok _ => { ψ with launches := false }
  | .os (.deliverLaunch _), .ok _ => { ψ with taken := none }
  | _, _ => ψ

/-- What a program has to do with launch specs at its start. -/
def first : Origin → Launching
  | .boot => { boots := true }
  | .spawn call => { spawns := some call.intent.sessionId, launches := true }
  | _ => {}

/-- What a program may do with launch specs, it could do before. -/
structure Fades (ψ ψ' : Launching) : Prop where
  spawns : ψ'.spawns = ψ.spawns
  launches : ψ'.launches = true → ψ.launches = true
  boots : ψ'.boots = true → ψ.boots = true

theorem Fades.refl (ψ : Launching) : Fades ψ ψ := ⟨rfl, fun h => h, fun h => h⟩

theorem Fades.offers {ψ ψ' : Launching} (h : Fades ψ ψ') {id : SessionId}
    (hoffers : ψ'.Offers id) : ψ.Offers id :=
  ⟨h.spawns.symm.trans hoffers.1, h.launches hoffers.2⟩

section Next

variable {ψ : Launching} {o : Op} {r : Except DaemonError o.Res}

theorem fades_store {o : StoreOp} {r : Except DaemonError o.Res} :
    Fades ψ (ψ.next (.store o) r) := by
  cases o with
  | deleteLifecycle id => exact ⟨rfl, fun h => (by cases h), fun h => h⟩
  | abortSpawnIntent id reason => exact ⟨rfl, fun h => (by cases h), fun h => h⟩
  | _ => exact .refl ψ

theorem fades_memory {o : MemoryOp} {r : Except DaemonError o.Res} :
    Fades ψ (ψ.next (.memory o) r) := by
  cases o with
  | removePendingLaunch id =>
      cases r with
      | error e => exact .refl ψ
      | ok taken => cases taken <;> exact ⟨rfl, fun h => h, fun h => h⟩
  | enterStage stage =>
      cases r with
      | error e => cases stage <;> exact .refl ψ
      | ok _ =>
          cases stage with
          | listening => exact ⟨rfl, fun h => h, fun h => by cases h⟩
          | _ => exact .refl ψ
  | _ => exact .refl ψ

theorem fades_os {o : OsOp} {r : Except DaemonError o.Res} : Fades ψ (ψ.next (.os o) r) := by
  cases o with
  | launchShim request =>
      cases r with
      | error e => exact .refl ψ
      | ok _ => exact ⟨rfl, fun h => (by cases h), fun h => h⟩
  | deliverLaunch id =>
      cases r with
      | error e => exact .refl ψ
      | ok _ => exact ⟨rfl, fun h => h, fun h => h⟩
  | _ => exact .refl ψ

theorem fades_next : Fades ψ (ψ.next o r) := by
  cases o with
  | log o => exact .refl ψ
  | store o => exact fades_store
  | memory o => exact fades_memory
  | os o => exact fades_os

/-- Specs are taken from the pending launches only. -/
theorem taken_of_next (htakes : ∀ id, o ≠ .memory (.removePendingLaunch id)) {id : SessionId}
    (h : (ψ.next o r).taken = some id) : ψ.taken = some id := by
  cases o with
  | log o => exact h
  | store o => cases o <;> first | exact h | cases h
  | os o => cases r <;> cases o <;> first | exact h | cases h
  | memory o =>
      cases r with
      | error e => cases o <;> first | exact h | (rename_i stage; cases stage <;> exact h)
      | ok a =>
          cases o with
          | removePendingLaunch id => exact absurd rfl (htakes id)
          | enterStage stage => cases stage <;> exact h
          | _ => exact h

end Next

end Launching

/-- The monitor of the launch specs. -/
abbrev launching : Monitor daemonOps DaemonError where
  State := Launching
  allows := Launching.allows
  returns := Knowledge.returns
  next := Launching.next

/-! ## Programs without a launch spec -/

/-- Operations that neither insert nor delete a lifecycle, offer or take a launch spec, or give up
an intent. -/
def Op.leavesLaunches : Op → Bool
  | .store (.insertForking _) => false
  | .store (.deleteLifecycle _) => false
  | .store (.abortSpawnIntent _ _) => false
  | .memory (.insertPendingLaunch _) => false
  | .memory (.removePendingLaunch _) => false
  | .memory (.enterStage _) => false
  | .os (.launchShim _) => false
  | .os (.deliverLaunch _) => false
  | _ => true

theorem Launching.allows_of_leaves {o : Op} (h : o.leavesLaunches = true) (ψ : Launching) :
    ψ.allows o ∧ ∀ r, ψ.next o r = ψ := by
  cases o with
  | log o => exact ⟨trivial, fun r => rfl⟩
  | store o =>
      cases o with
      | insertForking lc => cases h
      | deleteLifecycle id => cases h
      | abortSpawnIntent id reason => cases h
      | _ => exact ⟨trivial, fun r => rfl⟩
  | memory o =>
      cases o with
      | insertPendingLaunch id => cases h
      | removePendingLaunch id => cases h
      | enterStage stage => cases h
      | _ => exact ⟨trivial, fun r => rfl⟩
  | os o =>
      cases o with
      | launchShim request => cases h
      | deliverLaunch id => cases h
      | _ => exact ⟨trivial, fun r => rfl⟩

/-- A program that has nothing to do with launch specs. -/
abbrev LeavesLaunches {α : Type} (p : DaemonProg α) : Prop :=
  p.Calls fun o : Op => o.leavesLaunches = true

/-- A program after which the monitor is where it was. -/
abbrev Stays (ψ : Launching) {α : Type} (p : DaemonProg α) : Prop := launching.Keeps (· = ψ) p

theorem stays_of_leaves {ψ : Launching} {o : Op} (ho : o.leavesLaunches = true)
    (ψ' : Launching) (h : ψ' = ψ) : launching.allows ψ' o ∧ ∀ r, launching.next ψ' o r = ψ := by
  subst h
  exact Launching.allows_of_leaves ho ψ'

theorem stays_of_calls {ψ : Launching} {α : Type} {p : DaemonProg α} (hp : LeavesLaunches p) :
    Stays ψ p :=
  keeps_of_calls hp fun _ ho => stays_of_leaves ho

theorem leavesLaunches_of_isLook {o : Op} (h : o.isLook = true) : o.leavesLaunches = true := by
  cases o with
  | store o => cases o <;> first | rfl | cases h
  | memory o => cases h
  | log o => rfl
  | os o => cases o <;> first | rfl | cases h

theorem Looks.leavesLaunches {α : Type} {p : DaemonProg α} (h : Looks p) : LeavesLaunches p :=
  h.mono fun _ => leavesLaunches_of_isLook

theorem leavesLaunches_finishTerminal (id : SessionId) (lc : Lifecycle)
    (evidence : TerminationEvidence) : LeavesLaunches (finishTerminal id lc evidence) := by
  refine calls_bind (calls_call rfl) fun _ => ?_
  refine calls_bind (calls_call rfl) fun entered => ?_
  cases entered with
  | false => trivial
  | true => exact calls_bind (calls_call rfl) fun _ => trivial

theorem leavesLaunches_recordTerminal (id : SessionId) (evidence : TerminationEvidence)
    (mark : Lifecycle → Bool × Lifecycle) : LeavesLaunches (recordTerminal id evidence mark) := by
  refine calls_bind (calls_call rfl) fun found => ?_
  cases found with
  | none => trivial
  | some lc =>
      show LeavesLaunches (if (mark lc).1 = true then _ else _)
      split
      · exact calls_bind (calls_call rfl) fun _ => leavesLaunches_finishTerminal _ _ _
      · trivial

theorem leavesLaunches_recordExited (id : SessionId) (exit : RuntimeExit)
    (evidence : TerminationEvidence) : LeavesLaunches (recordExited id exit evidence) := by
  refine calls_bind (calls_attempt (leavesLaunches_recordTerminal _ _ _)) fun result => ?_
  exact calls_bind (calls_call rfl) fun _ => calls_ofExcept result

theorem leavesLaunches_recordLost (id : SessionId) (evidence : LostEvidence) :
    LeavesLaunches (recordLost id evidence) := by
  refine calls_bind (calls_attempt (leavesLaunches_recordTerminal _ _ _)) fun result => ?_
  exact calls_bind (calls_call rfl) fun _ => calls_ofExcept result

section Stays

variable {ψ : Launching}

theorem stays_of_isLook {o : Op} (ho : o.isLook = true) (ψ' : Launching) (h : ψ' = ψ) :
    launching.allows ψ' o ∧ ∀ r, launching.next ψ' o r = ψ :=
  stays_of_leaves (leavesLaunches_of_isLook ho) ψ' h

theorem stays_of_looks {α : Type} {p : DaemonProg α} (hp : Looks p) : Stays ψ p :=
  stays_of_calls hp.leavesLaunches

theorem stays_recordWatcherExit (id : SessionId) : Stays ψ (recordWatcherExit id) :=
  keeps_recordWatcherExit (fun _ => stays_of_isLook)
    (fun _ => stays_of_calls (leavesLaunches_recordLost _ _))
    (stays_of_calls (leavesLaunches_recordExited _ _ _))

theorem stays_killRuntime (request : KillRequest) : Stays ψ (killRuntime request) :=
  keeps_killRuntime (fun _ => stays_of_isLook) (stays_of_calls (leavesLaunches_recordLost _ _))

theorem stays_reconcileOnce : Stays ψ reconcileOnce :=
  keeps_reconcileOnce (fun _ => stays_of_isLook)
    (fun _ _ => stays_of_calls (leavesLaunches_recordLost _ _))
    (fun _ _ => stays_of_calls (calls_call rfl)) (stays_of_calls (calls_call rfl))

theorem stays_checkOccupant (request : RuntimeSpawnRequest) : Stays ψ (checkOccupant request) := by
  unfold checkOccupant
  cases request.target.tmuxAddress with
  | none => exact keeps_ret none
  | some address =>
      refine keeps_bind (stays_of_calls (calls_call rfl)) fun found => ?_
      cases found with
      | none => exact keeps_ret none
      | some occupant =>
          show Stays ψ (if request.force = true then _ else _)
          split
          · exact keeps_bind (stays_killRuntime _) fun _ => keeps_ret none
          · exact keeps_ret _

theorem stays_checkSpawn (request : RuntimeSpawnRequest) : Stays ψ (checkSpawn request) := by
  refine keeps_bind (stays_of_calls (calls_call rfl)) fun _ => ?_
  refine keeps_bind (stays_of_looks (looks_getLifecycle _)) fun found => ?_
  cases found with
  | none => exact stays_checkOccupant request
  | some lc =>
      show Stays ψ (if isSessionBackedForking lc request = true then _ else _)
      split
      · exact stays_checkOccupant request
      · exact keeps_ret _

theorem leavesLaunches_recordRunningRow (request : RuntimeSpawnRequest) (ready : ShimReady)
    (appendEvent : Bool) : LeavesLaunches (recordRunningRow request ready appendEvent) := by
  refine calls_bind (calls_call rfl) fun found => ?_
  cases found with
  | none => trivial
  | some lc =>
      show LeavesLaunches (if lc.runtime ≠ request.runtime then _ else _)
      split
      · trivial
      · show LeavesLaunches (if (lc.markRunning ready).1 = true then _ else _)
        split
        · refine calls_bind (calls_call rfl) fun logs => calls_bind (calls_call rfl) fun _ => ?_
          refine calls_bind (calls_ofExcept _) fun event => calls_bind (calls_call rfl) fun _ => ?_
          cases appendEvent with
          | false => trivial
          | true => exact calls_bind (calls_call rfl) fun _ => trivial
        · trivial

theorem leavesLaunches_recordRunning (request : RuntimeSpawnRequest) (ready : ShimReady)
    (appendEvent : Bool) : LeavesLaunches (recordRunning request ready appendEvent) :=
  calls_bind (leavesLaunches_recordRunningRow _ _ _) fun _ =>
    calls_bind (calls_call rfl) fun _ => trivial

theorem leavesLaunches_recordReconnectedReady (ready : ShimReady) :
    LeavesLaunches (recordReconnectedReady ready) := by
  refine calls_bind (calls_call rfl) fun found => ?_
  cases found with
  | none => trivial
  | some lc =>
      dsimp only
      cases lc.state with
      | forking =>
          refine calls_bind (calls_call rfl) fun _ => calls_bind (calls_ofExcept _) fun event => ?_
          refine calls_bind (calls_call rfl) fun _ => ?_
          exact calls_bind (calls_call rfl) fun _ => trivial
      | running => exact calls_call rfl
      | exited exit => trivial
      | lost evidence => trivial

theorem leavesLaunches_shimReady (ready : ShimReady) : LeavesLaunches (shimReady ready) := by
  refine calls_bind ?_ fun _ => calls_call rfl
  refine calls_bind (calls_call rfl) fun found => ?_
  cases found with
  | none => exact leavesLaunches_recordReconnectedReady ready
  | some channel =>
      refine calls_bind (calls_call rfl) fun received => ?_
      cases received <;> trivial

theorem stays_terminate (id : SessionId) (signal : RuntimeSignal) :
    Stays ψ (terminate id signal) := by
  refine keeps_bind (stays_killRuntime _) fun _ => ?_
  refine keeps_bind (stays_of_calls (calls_call rfl)) fun rounds => ?_
  refine keeps_bind (stays_of_looks (looks_waitForTerminal id rounds)) fun found => ?_
  cases found with
  | none => exact keeps_ret none
  | some exit => exact keeps_bind (stays_of_calls (calls_call rfl)) fun _ => keeps_ret _

theorem leavesLaunches_refreshExits : LeavesLaunches refreshExits := by
  refine calls_bind (looks_status _).leavesLaunches fun lifecycles => ?_
  refine calls_bind (calls_call rfl) fun exits => calls_forEach (fun exit => ?_) exits
  unfold persistChildExit
  cases exit.transcriptPath with
  | some path => exact calls_bind (calls_call rfl) fun _ => calls_call rfl
  | none => exact calls_call rfl

theorem leavesLaunches_eventLoopRound : LeavesLaunches eventLoopRound := by
  refine calls_bind (calls_call rfl) fun cursor => ?_
  refine calls_bind (calls_call rfl) fun page => ?_
  refine calls_bind (calls_attempt (calls_call rfl)) fun applied => ?_
  cases applied <;> exact calls_call rfl

theorem leavesLaunches_removeNamespaceCatalog (slug : String) :
    LeavesLaunches (removeNamespaceCatalog slug) := by
  refine calls_bind (calls_call rfl) fun active => ?_
  show LeavesLaunches (if 0 < active then _ else _)
  split
  · trivial
  · refine calls_bind (calls_call rfl) fun _ => calls_bind (calls_call rfl) fun found => ?_
    cases found <;> trivial

end Stays

/-! ## Programs that settle an intent -/

/-- Where this holds, a program may give up the intent of the session, and it still holds. -/
structure MaySettle (R : Launching → Prop) (id : SessionId) : Prop where
  may : ∀ ψ, R ψ → ψ.boots = true ∨ ψ.spawns = some id
  still : ∀ ψ, R ψ → R { ψ with launches := false }

section Settling

variable {R : Launching → Prop}

theorem keeps_of_stays {α : Type} {p : DaemonProg α} (hp : ∀ ψ, Stays ψ p) :
    launching.Keeps R p := by
  intro ψ h
  refine (hp ψ ψ rfl).mono fun r ψ' hψ => ?_
  rw [hψ]
  exact h

theorem keeps_leaves {α : Type} {p : DaemonProg α} (hp : LeavesLaunches p) : launching.Keeps R p :=
  keeps_of_stays fun _ => stays_of_calls hp

variable {id : SessionId} (hR : MaySettle R id)

include hR

theorem keeps_abort {reason : AbortReason} (hreason : isRecovery reason = false) :
    launching.Keeps R (abortSpawnIntent id reason) := by
  intro ψ h
  refine conforms_call.mpr ⟨?_, fun r _ => hR.still ψ h⟩
  exact (hR.may ψ h).imp_right fun hspawns => ⟨hspawns, hreason⟩

theorem keeps_abortRunningSpawn {reason : AbortReason} (hreason : isRecovery reason = false) :
    launching.Keeps R (abortRunningSpawn id reason) :=
  keeps_bind (keeps_attempt (keeps_of_stays fun _ => stays_terminate id .term)) fun _ =>
    keeps_abort hR hreason

theorem keeps_afterCommit {intent : PendingSpawnIntent} (hid : intent.sessionId = id)
    (session : Session) (event : RuntimeEvent) (onCommitFailure : OnCommitFailure)
    (r : Except DaemonError Unit) :
    launching.Keeps R (afterCommit intent session event onCommitFailure r) := by
  subst hid
  cases r with
  | ok _ =>
      exact keeps_bind (keeps_mapError _ (keeps_leaves (calls_call rfl))) fun _ =>
        keeps_ret session
  | error e =>
      cases onCommitFailure with
      | leavePending => exact keeps_fail e
      | abortRunning =>
          exact keeps_bind (keeps_attempt (keeps_abortRunningSpawn hR rfl)) fun _ => keeps_fail e

theorem keeps_completeSpawnIntent {intent : PendingSpawnIntent} (hid : intent.sessionId = id)
    (lc : Lifecycle) (event : RuntimeEvent) (stdoutPath : Option String)
    (onCommitFailure : OnCommitFailure) :
    launching.Keeps R (completeSpawnIntent intent lc event stdoutPath onCommitFailure) := by
  refine keeps_bind (keeps_leaves (calls_call rfl)) fun updatedAt => ?_
  refine keeps_bind (keeps_ofExcept _) fun session => ?_
  refine keeps_bind (keeps_mapError _ (keeps_leaves (calls_call rfl))) fun found => ?_
  cases found with
  | false =>
      subst hid
      exact keeps_bind (keeps_abortRunningSpawn hR rfl) fun _ => keeps_fail _
  | true =>
      refine keeps_bind (keeps_mapError _ (keeps_leaves (calls_call rfl))) fun _ => ?_
      exact keeps_bind (keeps_attempt (keeps_leaves (calls_call rfl))) fun committed =>
        keeps_afterCommit hR hid session event onCommitFailure committed

theorem keeps_afterRuntimeSpawn {intent : PendingSpawnIntent} (hid : intent.sessionId = id)
    (r : Except DaemonError SpawnedProcess) :
    launching.Keeps R (afterRuntimeSpawn intent r) := by
  cases r with
  | error e =>
      subst hid
      exact keeps_bind (keeps_abort hR rfl) fun _ => keeps_fail _
  | ok spawned =>
      refine keeps_bind (keeps_leaves (calls_call rfl)) fun now => ?_
      exact keeps_bind (keeps_ofExcept _) fun event => keeps_completeSpawnIntent hR hid _ _ _ _

end Settling

/-! ## Programs that hand specs on -/

/-- A spawn that gives its launch up. -/
theorem launching_cancelSpawn {ψ : Launching} {id : SessionId} (h : ψ.Offers id) :
    launching.Conforms (cancelSpawn id) ψ fun _ ψ' => ψ'.spawns = some id := by
  refine conforms_call_bind.mpr ⟨trivial, fun removed _ => ?_, fun e _ => h.1⟩
  have hoffers : (ψ.next (.memory (.removePendingLaunch id)) (.ok removed)).Offers id := by
    cases removed <;> exact h
  have hdrops : ∀ ψ, Stays ψ (dropPendingReady id) := by
    intro ψ
    refine stays_of_calls (calls_bind (calls_call rfl) fun found => ?_)
    cases found with
    | none => trivial
    | some channel => exact calls_call rfl
  refine (hdrops _).conforms_bind rfl (fun _ ψ hψ => ?_) fun _ ψ hψ => ?_
  · rw [hψ]
    exact conforms_attempt_bind.mpr (conforms_call.mpr ⟨hoffers, fun r _ => hoffers.1⟩)
  · rw [hψ]
    exact hoffers.1

/-- A spawn offers its launch until it has begun, or has failed. -/
theorem launching_beginSpawn {ψ : Launching} {request : RuntimeSpawnRequest}
    (h : ψ.Offers request.sessionId) :
    launching.Conforms (beginSpawn request) ψ fun r ψ' =>
      ψ'.spawns = some request.sessionId ∧ (r.isOk = true → ψ' = ψ) := by
  -- whatever fails, the launch is still this spawn's
  have hfailed : ∀ (e : DaemonError) (ψ' : Launching), ψ' = ψ →
      ψ'.spawns = some request.sessionId ∧
        ((Except.error e : Except DaemonError BeginSpawn).isOk = true → ψ' = ψ) := by
    rintro e ψ' rfl
    exact ⟨h.1, fun _ => rfl⟩
  -- nothing up to the row of the spawn touches the launch
  refine (stays_of_looks (looks_sessionBacked _)).conforms_bind rfl (fun backed ψ' hψ => ?_) hfailed
  subst hψ
  refine (stays_of_looks (looks_validateSpawnTarget _)).conforms_bind rfl (fun _ ψ' hψ => ?_)
    hfailed
  subst hψ
  have hensure : Stays ψ' (ensureForking request backed) := by
    cases backed with
    | true => exact keeps_ret ()
    | false =>
        rintro _ rfl
        exact conforms_call.mpr ⟨h, fun r _ => rfl⟩
  refine hensure.conforms_bind rfl (fun _ ψ'' hψ => ?_) hfailed
  subst hψ
  -- the launch is offered to the shim here
  refine conforms_call_bind.mpr ⟨h, fun _ _ => ?_, fun e _ => hfailed e _ rfl⟩
  have hwait : Stays ψ'' (beginReadyWait request.sessionId) := by
    refine keeps_bind (stays_of_calls (calls_call rfl)) fun made => ?_
    show Stays ψ'' (if made.2 = true then _ else _)
    split
    · exact keeps_bind (stays_of_calls (calls_call rfl)) fun _ => keeps_fail _
    · exact keeps_ret _
  refine conforms_attempt_bind.mpr ((hwait ψ'' rfl).mono fun r ψ' hψ => ?_)
  subst hψ
  cases r with
  | ok channel => exact ⟨h.1, fun _ => rfl⟩
  -- no channel: the spawn takes its offer back
  | error e =>
      refine conforms_bind.mpr ((launching_cancelSpawn h).mono fun r ψ'' hspawns => ?_)
      cases r <;> exact ⟨hspawns, fun hok => absurd hok Bool.false_ne_true⟩

theorem launching_spawnDomain {ψ : Launching} {request : RuntimeSpawnRequest}
    (h : ψ.Offers request.sessionId) :
    launching.Conforms (spawnDomain request) ψ fun _ ψ' =>
      ψ'.spawns = some request.sessionId := by
  have hstays : ∀ ψ' : Launching, ψ' = ψ → ψ'.spawns = some request.sessionId := by
    rintro ψ' rfl
    exact h.1
  refine (stays_checkSpawn request).conforms_bind rfl (fun refusal ψ' hψ => ?_) fun _ => hstays
  subst hψ
  cases refusal with
  | some conflict => exact h.1
  | none =>
      refine conforms_call_bind.mpr ⟨trivial, fun _ _ => ?_, fun e _ => h.1⟩
      refine conforms_bind.mpr ((launching_beginSpawn h).mono fun r ψ hψ => ?_)
      cases r with
      | error e => exact hψ.1
      | ok begin =>
          cases hψ.2 rfl
          refine conforms_attempt_bind.mpr (conforms_call.mpr ⟨h, fun launched _ => ?_⟩)
          cases launched with
          | error e =>
              refine conforms_bind.mpr ((launching_cancelSpawn h).mono fun r ψ'' hspawns => ?_)
              cases r <;> exact hspawns
          | ok stdoutPath =>
              -- From here on the shim has been launched, and the spawn offers nothing more.
              refine conforms_call_bind.mpr ⟨trivial, fun waited _ => ?_, fun e _ => h.1⟩
              cases waited with
              | elapsed => exact h.1
              | closed => exact h.1
              | ready ready =>
                  refine (stays_of_calls (leavesLaunches_recordRunning _ _ _)).conforms_bind rfl
                    (fun _ ψ'' hψ => ?_) fun _ ψ'' hψ => ?_ <;> rw [hψ] <;> exact h.1

theorem launching_spawn {ψ : Launching} {intent : PendingSpawnIntent}
    (hrequest : intent.spawnRequest.sessionId = intent.sessionId) (h : ψ.Offers intent.sessionId) :
    launching.Conforms (spawn intent) ψ fun _ _ => True := by
  have hnamespace : Stays ψ (context (.store "failed to validate namespace")
      (store (.namespaceExists intent.sessionDraft.namespaceSlug))) :=
    keeps_mapError _ (stays_of_calls (calls_call rfl))
  refine hnamespace.conforms_bind rfl (fun found ψ' hψ => ?_) fun _ _ _ => trivial
  subst hψ
  cases found with
  | false => trivial
  | true =>
      refine conforms_call_bind.mpr ⟨trivial, fun _ _ => ?_, fun e _ => trivial⟩
      have hruntime : launching.Conforms (runtimeSpawn intent.spawnRequest) ψ'
          fun _ ψ'' => ψ''.spawns = some intent.sessionId := by
        rw [← hrequest] at h ⊢
        refine conforms_call_bind.mpr ⟨trivial, fun _ _ => ?_, fun e _ => h.1⟩
        refine conforms_bind.mpr ((launching_spawnDomain h).mono fun r ψ'' hspawns => ?_)
        cases r with
        | ok outcome => exact conforms_ofExcept.mpr hspawns
        | error e => exact hspawns
      have hsettles : MaySettle (fun ψ => ψ.spawns = some intent.sessionId) intent.sessionId :=
        ⟨fun _ hspawns => .inr hspawns, fun _ hspawns => hspawns⟩
      refine conforms_attempt_bind.mpr (hruntime.mono fun spawned ψ'' hspawns => ?_)
      exact (keeps_afterRuntimeSpawn hsettles rfl spawned ψ'' hspawns).mono fun _ _ _ => trivial

theorem launching_shimLaunch (id : SessionId) (ψ : Launching) :
    launching.Conforms (shimLaunch id) ψ fun _ _ => True := by
  refine conforms_bind.mpr ?_
  refine conforms_call_bind.mpr ⟨trivial, fun removed _ => ?_, fun e _ => trivial⟩
  cases removed with
  | false => trivial
  | true => exact conforms_call.mpr ⟨rfl, fun _ _ => trivial⟩

/-- The program comes before the daemon listens. -/
def Launching.Boots (ψ : Launching) : Prop := ψ.boots = true

theorem Launching.maySettle_boots (id : SessionId) : MaySettle Launching.Boots id :=
  ⟨fun _ h => .inl h, fun _ h => h⟩

theorem keepsBoots_abort (id : SessionId) (reason : AbortReason) :
    launching.Keeps Launching.Boots (abortSpawnIntent id reason) :=
  fun _ h => conforms_call.mpr ⟨.inl h, fun _ _ => h⟩

theorem keepsBoots_reconcilePendingSpawnIntent (intent : PendingSpawnIntent) :
    launching.Keeps Launching.Boots (reconcilePendingSpawnIntent intent) := by
  refine keeps_bind (keeps_leaves (looks_status _).leavesLaunches) fun lifecycles => ?_
  cases lifecycles.find? fun lc => lc.sessionId = intent.sessionId with
  | none => exact keepsBoots_abort _ _
  | some lc =>
      show launching.Keeps Launching.Boots (if lc.state = .running then _ else _)
      split
      · refine keeps_bind (keeps_leaves (calls_call rfl)) fun now => ?_
        refine keeps_bind (keeps_ofExcept _) fun event => ?_
        exact keeps_bind (keeps_completeSpawnIntent (Launching.maySettle_boots _) rfl _ _ _ _)
          fun _ => keeps_ret ()
      · exact keepsBoots_abort _ _

theorem launching_boot {ψ : Launching} (h : ψ.Boots) :
    launching.Conforms boot ψ fun _ _ => True := by
  have hreconcile : launching.Keeps Launching.Boots reconcileOnce :=
    keeps_of_stays fun _ => stays_reconcileOnce
  refine hreconcile.conforms_bind h (fun _ ψ h => ?_) fun _ _ _ => trivial
  refine conforms_call_bind.mpr ⟨trivial, fun _ _ => ?_, fun e _ => trivial⟩
  have hpending : launching.Keeps Launching.Boots reconcilePendingSpawnIntents := by
    refine keeps_bind (keeps_mapError _ (keeps_leaves (calls_call rfl))) fun pending => ?_
    refine keeps_forEach (fun intent => ?_) pending
    exact keeps_bind (keeps_attempt (keepsBoots_reconcilePendingSpawnIntent intent)) fun _ =>
      keeps_ret ()
  exact hpending.conforms_bind h (fun _ _ _ => conforms_call.mpr ⟨trivial, fun _ _ => trivial⟩)
    fun _ _ _ => trivial

/-! ## Every program -/

/-- What a program returns makes no difference. -/
theorem launching_reply {α : Type} {p : DaemonProg α} {ψ : Launching}
    (hp : launching.Conforms p ψ fun _ _ => True) (reply : α → Reply) :
    launching.Conforms (p >>= fun a => pure (reply a)) ψ fun _ _ => True := by
  refine conforms_bind.mpr (hp.mono fun r ψ' _ => ?_)
  cases r <;> trivial

theorem launching_of_stays {α : Type} {p : DaemonProg α} {ψ : Launching} (hp : Stays ψ p) :
    launching.Conforms p ψ fun _ _ => True :=
  (hp ψ rfl).mono fun _ _ _ => trivial

/-- Every program keeps to the rules of the launch specs. -/
theorem launching_program (origin : Origin) :
    launching.Conforms origin.program (Launching.first origin) fun _ _ => True := by
  cases origin with
  | boot =>
      have hboots : (Launching.first .boot).Boots := rfl
      exact launching_reply (launching_boot hboots) _
  | spawn call =>
      have hrequest : call.intent.spawnRequest.sessionId = call.intent.sessionId :=
        (of_decide_eq_true call.wellFormed).1
      have hoffers : (Launching.first (.spawn call)).Offers call.intent.sessionId := ⟨rfl, rfl⟩
      exact launching_reply (launching_spawn hrequest hoffers) _
  | shimLaunch id => exact launching_reply (launching_shimLaunch id _) _
  | startEventLoop =>
      have hload : LeavesLaunches startEventLoop :=
        calls_bind (calls_call rfl) fun _ => calls_call rfl
      exact launching_reply (launching_of_stays (stays_of_calls hload)) _
  | eventLoopRound =>
      exact launching_reply (launching_of_stays (stays_of_calls leavesLaunches_eventLoopRound)) _
  | refreshExits =>
      exact launching_reply (launching_of_stays (stays_of_calls leavesLaunches_refreshExits)) _
  | reconcileOnce => exact launching_reply (launching_of_stays stays_reconcileOnce) _
  | removeNamespaceCatalog slug =>
      have hremove := leavesLaunches_removeNamespaceCatalog slug
      exact launching_reply (launching_of_stays (stays_of_calls hremove)) _
  | kill request => exact launching_reply (launching_of_stays (stays_killRuntime request)) _
  | shimReady ready =>
      have hready := leavesLaunches_shimReady ready
      exact launching_reply (launching_of_stays (stays_of_calls hready)) _
  | shimExit exit =>
      have hexit : LeavesLaunches (recordShimExit exit) := leavesLaunches_recordExited _ _ _
      exact launching_reply (launching_of_stays (stays_of_calls hexit)) _
  | exitWatcher id =>
      exact launching_reply (launching_of_stays (stays_recordWatcherExit id)) _

/-- The programs of the daemon under the monitor `launching`. -/
abbrev launchWatch : Watch daemon where
  monitor := launching
  first := Launching.first
  post _ _ _ := True
  conforms := launching_program
  returns := fun h => returns_of_exec h

end LittleOrgans.Concurrency
