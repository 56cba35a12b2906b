import LittleOrgans.Concurrency.DaemonTasks
import LittleOrgans.Concurrency.Probes

/-!
# What a program owes the table of the tracked shims

The daemon keeps the pids of its shims beside the lifecycle rows. A spawn that has written
its running row owes the table an entry (`Duty.track`), a recorder that has written a
terminal row owes it a removal (`Duty.forget`). The monitor `duties` follows what a
program owes, and every program of the daemon ends at rest (`settles_task`): it has paid,
or it has returned the error that came between the row and the entry.
-/

set_option autoImplicit false

namespace LittleOrgans.Concurrency

open LittleOrgans.Core
open LittleOrgans.Library
open LittleOrgans.Library.Monitor
open LittleOrgans.Library.Prog
open LittleOrgans.Store
open LittleOrgans.Daemon

/-- The shim of a lifecycle that has not ended. -/
def shimOf (lc : Lifecycle) : Option Pid := if lc.state.isTerminal then none else lc.shimPid

/-- What a program has recorded of shims, and what it owes. -/
structure Duty where
  /-- It answers a ready report for which no spawn waits. -/
  unawaited : Bool
  /-- Reports the program has received, under the session of their channel. -/
  readies : List (SessionId × ShimReady) := []
  /-- Shims the program has written into a row. -/
  recorded : List (SessionId × Pid) := []
  /-- The shim it has written into a row and has still to track. -/
  track : Option (SessionId × Pid) := none
  /-- The session it has recorded as ended and has still to forget. -/
  forget : Option SessionId := none
  track_recorded : ∀ entry ∈ track, entry ∈ recorded := by nofun

namespace Duty

/-- Nothing is owed. -/
def Rests (φ : Duty) : Prop := φ.track = none ∧ φ.forget = none

/-- There is no shim left to track. -/
def tracked (φ : Duty) : Duty := { φ with track := none, track_recorded := nofun }

/-- A row was written with this shim. -/
def record (φ : Duty) (entry : SessionId × Pid) : Duty :=
  { φ with
    recorded := entry :: φ.recorded
    track := if φ.unawaited then none else some entry
    track_recorded := by
      intro other hother
      split at hother
      · cases hother
      · cases hother
        exact List.mem_cons_self }

@[simp]
theorem track_record (φ : Duty) (entry : SessionId × Pid) :
    (φ.record entry).track = if φ.unawaited then none else some entry := rfl

/-- A lifecycle was written over its row. -/
def wrote (φ : Duty) (lc : Lifecycle) : Duty :=
  match shimOf lc with
  | some pid => φ.record (lc.sessionId, pid)
  | none => { φ with forget := some lc.sessionId }

/-- Between a running row and the entry of its shim, a program starts the exit watcher and
appends its event. -/
def allows (φ : Duty) : Op → Prop
  | .store (.insertForking lc) => φ.track = none ∧ shimOf lc = none
  | .store (.updateLifecycle _) => φ.Rests
  | .memory (.trackShim id pid) =>
      ∃ entry ∈ φ.readies, entry.2.sessionId = id ∧ φ.track = some (entry.1, pid)
  | .memory (.forgetShim id) => φ.track = none ∧ (φ.forget = none ∨ φ.forget = some id)
  | .memory (.sendReady channel ready) =>
      φ.track = none ∧ ready.sessionId = channel.sessionId
  | .memory (.startExitWatcher _ _) => True
  | .log (.appendEvent _) => True
  | _ => φ.track = none

/-- A program that reports an error does not come to track its shim. -/
def next (φ : Duty) : (o : Op) → Except DaemonError o.Res → Duty
  | .store (.updateLifecycle lc), .ok _ => φ.wrote lc
  | .memory (.trackShim _ _), .ok _ => φ.tracked
  | .memory (.forgetShim _), _ => { φ with forget := none }
  | .memory (.awaitReady channel), .ok (.ready ready) =>
      { φ with readies := (channel.sessionId, ready) :: φ.readies }
  | _, .ok _ => φ
  | _, .error _ => φ.tracked

/-- Only a wait that is answered brings a report. -/
theorem readies_next {φ : Duty} {o : Op} {r : Except DaemonError o.Res}
    (ho : ∀ channel, o ≠ .memory (.awaitReady channel)) : (φ.next o r).readies = φ.readies := by
  cases o with
  | log o => cases r <;> rfl
  | os o => cases r <;> rfl
  | store o =>
      cases r with
      | error e => cases o <;> rfl
      | ok a =>
          cases o with
          | updateLifecycle lc =>
              show (φ.wrote lc).readies = φ.readies
              rw [wrote]
              split <;> rfl
          | _ => rfl
  | memory o =>
      cases o with
      | awaitReady channel => exact absurd rfl (ho channel)
      | _ => cases r <;> rfl

/-- What a program knows at its start. -/
def first : DaemonTask → Duty
  | .daemon (.shimReady _) => { unawaited := true }
  | _ => { unawaited := false }

theorem first_eq (task : DaemonTask) : ∃ u, first task = { unawaited := u } := by
  cases task with
  | spawn request => exact ⟨_, rfl⟩
  | daemon origin => cases origin <;> exact ⟨_, rfl⟩

end Duty

/-- The monitor of what a program owes. -/
abbrev duties : Monitor daemonOps DaemonError where
  State := Duty
  allows := Duty.allows
  returns := Knowledge.returns
  next := Duty.next

/-! ## Programs that end at rest -/

/-- At rest, as a program that is started for an unawaited report or not. -/
def Duty.RestsAs (unawaited : Bool) (φ : Duty) : Prop := φ.Rests ∧ φ.unawaited = unawaited

/-- From rest to rest. -/
abbrev Settling (unawaited : Bool) {α : Type} (p : DaemonProg α) : Prop :=
  duties.Keeps (Duty.RestsAs unawaited) p

/-- Operations that a program may call while it owes nothing, and after which it owes
nothing. -/
def Op.isIdle : Op → Bool
  | .store (.insertForking _) => false
  | .store (.updateLifecycle _) => false
  | .memory (.trackShim _ _) => false
  | .memory (.forgetShim _) => false
  | .memory (.sendReady _ _) => false
  | _ => true

/-- A program that owes nothing at any time. -/
abbrev Idles {α : Type} (p : DaemonProg α) : Prop := p.Calls fun o : Op => o.isIdle = true

theorem Duty.allows_of_isIdle {o : Op} {φ : Duty} (h : o.isIdle = true)
    (htrack : φ.track = none) : φ.allows o := by
  cases o with
  | store o => cases o <;> first | exact htrack | cases h
  | memory o => cases o <;> first | exact htrack | trivial
  | log o => cases o <;> first | exact htrack | trivial
  | os o => exact htrack

/-- A program that owes nothing reports an error. -/
theorem Duty.restsAs_tracked {u : Bool} {φ : Duty} (h : φ.RestsAs u) : φ.tracked.RestsAs u :=
  ⟨⟨rfl, h.1.2⟩, h.2⟩

theorem Duty.restsAs_next {u : Bool} {φ : Duty} {o : Op} (ho : o.isIdle = true)
    (h : φ.RestsAs u) (r : Except DaemonError o.Res) : (φ.next o r).RestsAs u := by
  cases r with
  | error e =>
      cases o with
      | store o => cases o <;> exact restsAs_tracked h
      | memory o => cases o <;> first | exact restsAs_tracked h | cases ho
      | log o => exact restsAs_tracked h
      | os o => exact restsAs_tracked h
  | ok a =>
      cases o with
      | store o => cases o <;> first | exact h | cases ho
      | log o => exact h
      | os o => exact h
      | memory o =>
          cases o with
          | awaitReady channel => cases a <;> exact h
          | _ => first | exact h | cases ho

theorem settling_of_idles {u : Bool} {α : Type} {p : DaemonProg α} (hp : Idles p) :
    Settling u p :=
  keeps_of_calls hp fun _ ho _ h => ⟨Duty.allows_of_isIdle ho h.1.1, Duty.restsAs_next ho h⟩

theorem isIdle_of_isProbe {o : Op} (h : o.isProbe = true) : o.isIdle = true := by
  cases o with
  | store o => cases o <;> first | rfl | cases h
  | memory o => cases h
  | log o => rfl
  | os o => rfl

theorem settling_of_probes {u : Bool} {α : Type} {p : DaemonProg α} (hp : Probes p) :
    Settling u p :=
  settling_of_idles (hp.mono fun _ => isIdle_of_isProbe)

/-! ## The recorders -/

section Recorders

variable {u : Bool}

/-- What a terminal recorder owes at its end: the removal of its session, if it has written
the row. -/
def Duty.Recording (unawaited : Bool) (id : SessionId) (φ : Duty) : Prop :=
  φ.unawaited = unawaited ∧ φ.track = none ∧ (φ.forget = none ∨ φ.forget = some id)

theorem Duty.RestsAs.recording {φ : Duty} (h : φ.RestsAs u) (id : SessionId) :
    φ.Recording u id :=
  ⟨h.2, h.1.1, .inl h.1.2⟩

theorem duties_finishTerminal {id : SessionId} {φ : Duty} (h : φ.Recording u id)
    (lc : Lifecycle) (evidence : TerminationEvidence) :
    duties.Conforms (finishTerminal id lc evidence) φ fun _ φ' => φ'.Recording u id := by
  have htracked : φ.tracked.Recording u id := ⟨h.1, rfl, h.2.2⟩
  refine conforms_call_bind.mpr ⟨h.2.1, fun _ _ => ?_, fun e _ => htracked⟩
  refine conforms_call_bind.mpr ⟨h.2.1, fun entered _ => ?_, fun e _ => htracked⟩
  cases entered with
  | false => exact h
  | true => exact conforms_call_bind.mpr ⟨trivial, fun _ _ => h, fun e _ => htracked⟩

/-- A transition that succeeds ends the lifecycle of its session. -/
def Ends (mark : Lifecycle → Bool × Lifecycle) : Prop :=
  ∀ lc, (mark lc).1 = true → (mark lc).2.sessionId = lc.sessionId ∧ shimOf (mark lc).2 = none

theorem ends_markExited (exit : RuntimeExit) : Ends fun lc => lc.markExited exit := by
  intro lc hmarked
  obtain ⟨-, hlc⟩ := Lifecycle.markExited_eq_true
    (show lc.markExited exit = (true, (lc.markExited exit).2) by rw [← hmarked])
  dsimp only
  rw [hlc]
  exact ⟨rfl, rfl⟩

theorem ends_markLost (evidence : LostEvidence) : Ends fun lc => lc.markLost evidence := by
  intro lc hmarked
  obtain ⟨-, hlc⟩ := Lifecycle.markLost_eq_true
    (show lc.markLost evidence = (true, (lc.markLost evidence).2) by rw [← hmarked])
  dsimp only
  rw [hlc]
  exact ⟨rfl, rfl⟩

theorem duties_recordTerminal {mark : Lifecycle → Bool × Lifecycle} (hmark : Ends mark)
    {id : SessionId} {φ : Duty} (h : φ.RestsAs u) (evidence : TerminationEvidence) :
    duties.Conforms (recordTerminal id evidence mark) φ fun _ φ' => φ'.Recording u id := by
  have htracked : φ.tracked.Recording u id := (Duty.restsAs_tracked h).recording id
  refine conforms_call_bind.mpr ⟨h.1.1, fun found hfound => ?_, fun e _ => htracked⟩
  cases found with
  | none => exact h.recording id
  | some lc =>
      have hid : lc.sessionId = id := hfound lc rfl
      show duties.Conforms (if (mark lc).1 = true then _ else _) φ _
      split
      · next hmarked =>
          obtain ⟨hsession, hshim⟩ := hmark lc hmarked
          have hwrote : φ.wrote (mark lc).2 = { φ with forget := some id } := by
            rw [Duty.wrote, hshim, hsession, hid]
          refine conforms_call_bind.mpr ⟨h.1, fun _ _ => ?_, fun e _ => htracked⟩
          show duties.Conforms _ (φ.wrote (mark lc).2) _
          rw [hwrote]
          have howes : Duty.Recording u id { φ with forget := some id } := ⟨h.2, h.1.1, .inr rfl⟩
          exact duties_finishTerminal howes _ _
      · exact h.recording id

/-- A recorder forgets the shim of its session, whatever came of the record. -/
theorem settling_recorded {mark : Lifecycle → Bool × Lifecycle} (hmark : Ends mark)
    (id : SessionId) (evidence : TerminationEvidence) :
    Settling u (do
      let result ← (recordTerminal id evidence mark).attempt
      memory (.forgetShim id)
      Prog.ofExcept result : DaemonProg (Option RuntimeEvent)) := by
  intro φ h
  refine conforms_attempt_bind.mpr
    ((duties_recordTerminal hmark h evidence).mono fun result φ' h' => ?_)
  have hforgot : ({ φ' with forget := none } : Duty).RestsAs u := ⟨⟨h'.2.1, rfl⟩, h'.1⟩
  refine conforms_call_bind.mpr ⟨h'.2, fun _ _ => ?_, fun e _ => hforgot⟩
  exact conforms_ofExcept.mpr hforgot

theorem settling_recordExited (id : SessionId) (exit : RuntimeExit)
    (evidence : TerminationEvidence) : Settling u (recordExited id exit evidence) :=
  settling_recorded (ends_markExited exit) id evidence

theorem settling_recordLost (id : SessionId) (evidence : LostEvidence) :
    Settling u (recordLost id evidence) :=
  settling_recorded (ends_markLost evidence) id (.lost evidence)

theorem restsAs_of_isLook {o : Op} (ho : o.isLook = true) (φ : Duty) (h : φ.RestsAs u) :
    duties.allows φ o ∧ ∀ r, (duties.next φ o r).RestsAs u := by
  have hidle := isIdle_of_isProbe (isProbe_of_isLook ho)
  exact ⟨Duty.allows_of_isIdle hidle h.1.1, Duty.restsAs_next hidle h⟩

theorem settling_recordWatcherExit (id : SessionId) : Settling u (recordWatcherExit id) :=
  keeps_recordWatcherExit (fun _ => restsAs_of_isLook) (settling_recordLost id)
    (settling_recordExited id _ _)

theorem settling_killRuntime (request : KillRequest) : Settling u (killRuntime request) :=
  keeps_killRuntime (fun _ => restsAs_of_isLook) (settling_recordLost _ _)

theorem settling_reconcileOnce : Settling u reconcileOnce :=
  keeps_reconcileOnce (fun _ => restsAs_of_isLook) settling_recordLost
    (fun _ _ => settling_of_idles (calls_call rfl)) (settling_of_idles (calls_call rfl))

end Recorders

/-! ## A spawn and its shim's report -/

section Spawn

variable {φ : Duty}

theorem settling_ensureForking {u : Bool} (request : RuntimeSpawnRequest) (backed : Bool) :
    Settling u (ensureForking request backed) := by
  cases backed with
  | true => exact keeps_ret ()
  | false =>
      intro φ h
      refine conforms_call.mpr ⟨⟨h.1.1, rfl⟩, fun r _ => ?_⟩
      cases r with
      | ok _ => exact h
      | error e => exact Duty.restsAs_tracked h

theorem idles_cancelSpawn (id : SessionId) : Idles (cancelSpawn id) := by
  refine calls_bind (calls_call rfl) fun _ => ?_
  refine calls_bind ?_ fun _ => calls_bind (calls_attempt (calls_call rfl)) fun _ => trivial
  refine calls_bind (calls_call rfl) fun found => ?_
  cases found with
  | none => trivial
  | some channel => exact calls_call rfl

/-- The row of a spawn that has its report. -/
theorem runningLifecycle_eq {request : RuntimeSpawnRequest} {ready : ShimReady} {lc : Lifecycle}
    (h : (lc.markRunning ready).1 = true) (logs : LogAvailability) :
    (runningLifecycle request ready lc logs).sessionId = lc.sessionId ∧
      shimOf (runningLifecycle request ready lc logs) = some ready.shimPid ∧
      ∃ event, runningEvent (runningLifecycle request ready lc logs) = .ok event := by
  obtain ⟨-, hlc⟩ := Lifecycle.markRunning_eq_true
    (show lc.markRunning ready = (true, (lc.markRunning ready).2) by rw [← h])
  rw [runningLifecycle, hlc]
  exact ⟨rfl, rfl, _, rfl⟩

/-- The spawn owes the table the shim of its report, or nothing when it fails. -/
def Duty.Ran (φ : Duty) (request : RuntimeSpawnRequest) (ready : ShimReady) {α : Type}
    (r : Except DaemonError α) (φ' : Duty) : Prop :=
  match r with
  | .ok _ => φ' = φ.record (request.sessionId, ready.shimPid)
  | .error _ => φ'.RestsAs false

theorem duties_recordRunningRow {request : RuntimeSpawnRequest} {ready : ShimReady}
    (h : φ.RestsAs false) (appendEvent : Bool) :
    duties.Conforms (recordRunningRow request ready appendEvent) φ
      (φ.Ran request ready) := by
  have hfailed : φ.tracked.RestsAs false := Duty.restsAs_tracked h
  refine conforms_call_bind.mpr ⟨h.1.1, fun found hfound => ?_, fun e _ => hfailed⟩
  cases found with
  | none => exact h
  | some lc =>
      have hid : lc.sessionId = request.sessionId := hfound lc rfl
      show duties.Conforms (if lc.runtime ≠ request.runtime then _ else _) φ _
      split
      · exact h
      · show duties.Conforms (if (lc.markRunning ready).1 = true then _ else _) φ _
        split
        · next hmarked =>
            refine conforms_call_bind.mpr ⟨h.1.1, fun logs _ => ?_, fun e _ => hfailed⟩
            have hrunning := @runningLifecycle_eq request ready lc hmarked logs
            obtain ⟨hsession, hshim, event, hevent⟩ := hrunning
            have hwrote : φ.wrote (runningLifecycle request ready lc logs) =
                φ.record (request.sessionId, ready.shimPid) := by
              rw [Duty.wrote, hshim, hsession, hid]
            -- Behind the row, an error leaves the shim untracked for good.
            have hlost : (φ.record (request.sessionId, ready.shimPid)).tracked.RestsAs false :=
              ⟨⟨rfl, h.1.2⟩, h.2⟩
            refine conforms_call_bind.mpr ⟨h.1, fun _ _ => ?_, fun e _ => hfailed⟩
            show duties.Conforms _ (φ.wrote _) _
            rw [hwrote, hevent]
            refine conforms_call_bind.mpr ⟨trivial, fun _ _ => ?_, fun e _ => hlost⟩
            cases appendEvent with
            | false => exact rfl
            | true => exact conforms_call_bind.mpr ⟨trivial, fun _ _ => rfl, fun e _ => hlost⟩
        · exact h

/-- The report was received under the session of the spawn, and its shim is tracked under
its own. -/
theorem duties_recordRunning {request : RuntimeSpawnRequest} {ready : ShimReady}
    (h : φ.RestsAs false) (hready : (request.sessionId, ready) ∈ φ.readies)
    (appendEvent : Bool) :
    duties.Conforms (recordRunning request ready appendEvent) φ fun _ φ' => φ'.RestsAs false := by
  refine conforms_bind.mpr ((duties_recordRunningRow h appendEvent).mono fun r φ' h' => ?_)
  cases r with
  | error e => exact h'
  | ok recorded =>
      cases h'
      have htrack : (φ.record (request.sessionId, ready.shimPid)).track =
          some (request.sessionId, ready.shimPid) := by
        rw [Duty.track_record, h.2]
        rfl
      have hpaid : (φ.record (request.sessionId, ready.shimPid)).tracked.RestsAs false :=
        ⟨⟨rfl, h.1.2⟩, h.2⟩
      exact conforms_call_bind.mpr
        ⟨⟨_, hready, rfl, htrack⟩, fun _ _ => hpaid, fun e _ => hpaid⟩

/-- Of a report for which no spawn waits, nothing is owed. -/
theorem settling_updateLifecycle {lc : Lifecycle} {pid : Pid} (h : shimOf lc = some pid) :
    Settling true (store (.updateLifecycle lc)) := by
  intro φ hφ
  refine conforms_call.mpr ⟨hφ.1, fun r _ => ?_⟩
  cases r with
  | error e => exact Duty.restsAs_tracked hφ
  | ok _ =>
      show (φ.wrote lc).RestsAs true
      rw [Duty.wrote, h]
      refine ⟨⟨?_, hφ.1.2⟩, hφ.2⟩
      rw [Duty.track_record, hφ.2]
      rfl

theorem settling_recordReconnectedReady (ready : ShimReady) :
    Settling true (recordReconnectedReady ready) := by
  refine keeps_bind (settling_of_probes (looks_getLifecycle _).probes) fun found => ?_
  cases found with
  | none => exact keeps_fail _
  | some lc =>
      dsimp only
      cases hstate : lc.state with
      | running => exact settling_of_idles (calls_call rfl)
      | exited exit => exact keeps_fail _
      | lost evidence => exact keeps_fail _
      | forking =>
          have hshim : shimOf (lc.markRunning ready).2 = some ready.shimPid := by
            rw [Lifecycle.markRunning, hstate]
            rfl
          refine keeps_bind (settling_updateLifecycle hshim) fun _ => ?_
          refine keeps_bind (keeps_ofExcept _) fun event => ?_
          refine keeps_bind (settling_of_idles (calls_call rfl)) fun _ => ?_
          exact keeps_bind (settling_of_idles (calls_call rfl)) fun _ => keeps_ret ()

theorem settling_completeShimReady (ready : ShimReady) :
    Settling true (completeShimReady ready) := by
  intro φ h
  refine conforms_call_bind.mpr ⟨h.1.1, fun found hfound => ?_, fun e _ => ?_⟩
  · cases found with
    | none => exact settling_recordReconnectedReady ready φ h
    | some channel =>
        have hchannel : ready.sessionId = channel.sessionId := (hfound channel rfl).symm
        refine conforms_call_bind.mpr ⟨⟨h.1.1, hchannel⟩, fun sent _ => ?_, fun e _ => ?_⟩
        · cases sent <;> exact h
        · exact Duty.restsAs_tracked h
  · exact Duty.restsAs_tracked h

theorem settling_shimReady (ready : ShimReady) : Settling true (shimReady ready) :=
  keeps_bind (settling_completeShimReady ready) fun _ => settling_of_idles (calls_call rfl)

theorem settling_checkOccupant {u : Bool} (request : RuntimeSpawnRequest) :
    Settling u (checkOccupant request) := by
  unfold checkOccupant
  cases request.target.tmuxAddress with
  | none => exact keeps_ret none
  | some address =>
      refine keeps_bind (settling_of_idles (calls_call rfl)) fun found => ?_
      cases found with
      | none => exact keeps_ret none
      | some occupant =>
          show Settling u (if request.force = true then _ else _)
          split
          · exact keeps_bind (settling_killRuntime _) fun _ => keeps_ret none
          · exact keeps_ret _

theorem settling_checkSpawn {u : Bool} (request : RuntimeSpawnRequest) :
    Settling u (checkSpawn request) := by
  refine keeps_bind (settling_of_probes (probes_os _)) fun _ => ?_
  refine keeps_bind (settling_of_probes (looks_getLifecycle _).probes) fun found => ?_
  cases found with
  | none => exact settling_checkOccupant request
  | some lc =>
      show Settling u (if isSessionBackedForking lc request = true then _ else _)
      split
      · exact settling_checkOccupant request
      · exact keeps_ret _

/-- The channel of a spawn bears its session. -/
def Begun (request : RuntimeSpawnRequest) (r : Except DaemonError BeginSpawn) : Prop :=
  ∀ begin, r = .ok begin → begin.ready.sessionId = request.sessionId

theorem duties_beginReadyWait {id : SessionId} (h : φ.RestsAs false) :
    duties.Conforms (beginReadyWait id) φ fun r φ' =>
      φ'.RestsAs false ∧ ∀ channel, r = .ok channel → channel.sessionId = id := by
  refine conforms_call_bind.mpr ⟨h.1.1, fun made hmade => ?_, fun e _ => ?_⟩
  · show duties.Conforms (if made.2 = true then _ else _) φ _
    split
    · refine conforms_call_bind.mpr ⟨h.1.1, fun _ _ => ⟨h, nofun⟩, fun e _ => ?_⟩
      exact ⟨Duty.restsAs_tracked h, nofun⟩
    · refine ⟨h, ?_⟩
      rintro channel ⟨⟩
      exact hmade
  · exact ⟨Duty.restsAs_tracked h, nofun⟩

theorem duties_beginSpawn {request : RuntimeSpawnRequest} (h : φ.RestsAs false) :
    duties.Conforms (beginSpawn request) φ fun r φ' => φ'.RestsAs false ∧ Begun request r := by
  have hfailed : ∀ (e : DaemonError) (φ : Duty), φ.RestsAs false →
      φ.RestsAs false ∧ Begun request (.error e) :=
    fun e φ h => ⟨h, nofun⟩
  refine (settling_of_probes (looks_sessionBacked _).probes).conforms_bind h
    (fun backed φ h => ?_) hfailed
  refine (settling_of_probes (looks_validateSpawnTarget _).probes).conforms_bind h (fun _ φ h => ?_)
    hfailed
  refine (settling_ensureForking _ _).conforms_bind h (fun _ φ h => ?_) hfailed
  refine conforms_call_bind.mpr
    ⟨h.1.1, fun _ _ => ?_, fun e _ => hfailed e _ (Duty.restsAs_tracked h)⟩
  refine conforms_attempt_bind.mpr ((duties_beginReadyWait h).mono fun r φ' h' => ?_)
  cases r with
  | ok channel =>
      refine ⟨h'.1, ?_⟩
      rintro begin ⟨⟩
      exact h'.2 channel rfl
  | error e =>
      exact (settling_of_idles (idles_cancelSpawn _)).conforms_bind h'.1
        (fun _ φ h => hfailed e φ h) hfailed

theorem settling_spawnDomain (request : RuntimeSpawnRequest) :
    Settling false (spawnDomain request) := by
  refine keeps_bind (settling_checkSpawn request) fun refusal => ?_
  cases refusal with
  | some conflict => exact keeps_ret conflict
  | none =>
      refine keeps_bind (settling_of_probes (probes_os _)) fun _ φ h => ?_
      -- from here on the spawn has a channel, and gives it back when it fails
      refine conforms_bind.mpr ((duties_beginSpawn h).mono fun r φ h => ?_)
      cases r with
      | error e => exact h.1
      | ok begin =>
          have hchannel := h.2 begin rfl
          refine (keeps_attempt (settling_of_probes (probes_os _))).conforms_bind h.1
            (fun launched φ h => ?_) fun e φ h => h
          cases launched with
          | error e =>
              exact (settling_of_idles (idles_cancelSpawn _)).conforms_bind h
                (fun _ φ h => h) fun _ φ h => h
          | ok stdoutPath =>
              refine conforms_call_bind.mpr
                ⟨h.1.1, fun waited _ => ?_, fun e _ => Duty.restsAs_tracked h⟩
              cases waited with
              | elapsed => exact h
              | closed => exact h
              -- the report has come: the shim is tracked by what follows, and owed nothing more
              | ready ready =>
                  let heard : Duty :=
                    { φ with readies := (begin.ready.sessionId, ready) :: φ.readies }
                  have hheard : heard.RestsAs false := h
                  have hready : (request.sessionId, ready) ∈ heard.readies := by
                    rw [← hchannel]
                    exact List.mem_cons_self
                  show duties.Conforms (recordRunning request ready _ >>= _) heard _
                  refine conforms_bind.mpr
                    ((duties_recordRunning hheard hready _).mono fun r φ h => ?_)
                  cases r <;> exact h

end Spawn

/-! ## The session daemon -/

section SessionDaemon

theorem looks_populateLogs (lcs : List Lifecycle) : Looks (populateLogs lcs) := by
  induction lcs with
  | nil => trivial
  | cons lc rest ih => exact calls_bind (looks_os rfl) fun _ => calls_bind ih fun _ => trivial

theorem looks_status (filter : StatusFilter) : Looks (status filter) := by
  refine calls_bind (calls_attempt (calls_call rfl)) fun r => ?_
  cases r with
  | ok rows => exact looks_populateLogs rows
  | error e => trivial

theorem looks_waitForTerminal (id : SessionId) (n : Nat) : Looks (waitForTerminal id n) := by
  induction n with
  | zero => exact calls_bind (looks_status _) fun _ => trivial
  | succ n ih =>
      refine calls_bind (looks_status _) fun lifecycles => ?_
      cases reportedExit id lifecycles with
      | some exit => trivial
      | none => exact ih

section AnyMonitor

variable {M : Monitor daemonOps DaemonError} {R : M.State → Prop}
  (hidle : ∀ o : Op, o.isIdle = true → ∀ φ, R φ → M.allows φ o ∧ ∀ r, R (M.next φ o r))
  (hkill : ∀ request, M.Keeps R (killRuntime request))

include hidle

theorem keeps_of_idles {α : Type} {p : DaemonProg α} (hp : Idles p) : M.Keeps R p :=
  keeps_of_calls hp hidle

theorem keeps_of_idle_probes {α : Type} {p : DaemonProg α} (hp : Probes p) : M.Keeps R p :=
  keeps_of_idles hidle (hp.mono fun _ => isIdle_of_isProbe)

include hkill

theorem keeps_terminate_of_idle (id : SessionId) (signal : RuntimeSignal) :
    M.Keeps R (terminate id signal) := by
  refine keeps_bind (hkill _) fun _ => ?_
  refine keeps_bind (keeps_of_idle_probes hidle (probes_os _)) fun rounds => ?_
  have hwait := (looks_waitForTerminal id rounds).probes
  refine keeps_bind (keeps_of_idle_probes hidle hwait) fun found => ?_
  cases found with
  | none => exact keeps_ret none
  | some exit => exact keeps_bind (keeps_of_idles hidle (calls_call rfl)) fun _ => keeps_ret _

theorem keeps_abortRunningSpawn_of_idle (id : SessionId) (reason : AbortReason) :
    M.Keeps R (abortRunningSpawn id reason) :=
  keeps_bind (keeps_attempt (keeps_terminate_of_idle hidle hkill id .term)) fun _ =>
    keeps_of_idles hidle (calls_call rfl)

theorem keeps_afterCommit_of_idle (intent : PendingSpawnIntent) (session : Session)
    (event : RuntimeEvent) (onCommitFailure : OnCommitFailure) (r : Except DaemonError Unit) :
    M.Keeps R (afterCommit intent session event onCommitFailure r) := by
  cases r with
  | ok _ =>
      exact keeps_bind (keeps_mapError _ (keeps_of_idles hidle (calls_call rfl))) fun _ =>
        keeps_ret session
  | error e =>
      cases onCommitFailure with
      | leavePending => exact keeps_fail e
      | abortRunning =>
          exact keeps_bind (keeps_attempt (keeps_abortRunningSpawn_of_idle hidle hkill _ _))
            fun _ => keeps_fail e

theorem keeps_completeSpawnIntent_of_idle (intent : PendingSpawnIntent) (lc : Lifecycle)
    (event : RuntimeEvent) (stdoutPath : Option String) (onCommitFailure : OnCommitFailure) :
    M.Keeps R (completeSpawnIntent intent lc event stdoutPath onCommitFailure) := by
  have hidles : ∀ {α : Type} {p : DaemonProg α}, Idles p → M.Keeps R p :=
    fun hp => keeps_of_idles hidle hp
  refine keeps_bind (hidles (calls_call rfl)) fun updatedAt => ?_
  refine keeps_bind (keeps_ofExcept _) fun session => ?_
  refine keeps_bind (keeps_mapError _ (hidles (calls_call rfl))) fun found => ?_
  cases found with
  | false =>
      exact keeps_bind (keeps_abortRunningSpawn_of_idle hidle hkill _ _) fun _ => keeps_fail _
  | true =>
      refine keeps_bind (keeps_mapError _ (hidles (calls_call rfl))) fun _ => ?_
      exact keeps_bind (keeps_attempt (hidles (calls_call rfl))) fun committed =>
        keeps_afterCommit_of_idle hidle hkill intent session event onCommitFailure committed

theorem keeps_spawnRpc_of_idle {intent : PendingSpawnIntent}
    (hspawn : M.Keeps R (spawnDomain intent.spawnRequest)) : M.Keeps R (spawnRpc intent) := by
  have hidles : ∀ {α : Type} {p : DaemonProg α}, Idles p → M.Keeps R p :=
    fun hp => keeps_of_idles hidle hp
  refine keeps_bind ?_ fun session => keeps_ret _
  refine keeps_bind (keeps_mapError _ (hidles (calls_call rfl))) fun found => ?_
  cases found with
  | false => exact keeps_fail _
  | true =>
      refine keeps_bind (hidles (calls_call rfl)) fun _ => ?_
      have hruntime : M.Keeps R (runtimeSpawn intent.spawnRequest) :=
        keeps_bind (hidles (calls_call rfl)) fun _ =>
          keeps_bind hspawn fun _ => keeps_ofExcept _
      refine keeps_bind (keeps_attempt hruntime) fun spawned => ?_
      cases spawned with
      | error e => exact keeps_bind (hidles (calls_call rfl)) fun _ => keeps_fail _
      | ok spawned =>
          refine keeps_bind (hidles (calls_call rfl)) fun now => ?_
          exact keeps_bind (keeps_ofExcept _) fun event =>
            keeps_completeSpawnIntent_of_idle hidle hkill _ _ _ _ _

theorem keeps_reconcilePendingSpawnIntent_of_idle (intent : PendingSpawnIntent) :
    M.Keeps R (reconcilePendingSpawnIntent intent) := by
  have hidles : ∀ {α : Type} {p : DaemonProg α}, Idles p → M.Keeps R p :=
    fun hp => keeps_of_idles hidle hp
  refine keeps_bind (keeps_of_idle_probes hidle (looks_status _).probes) fun lifecycles => ?_
  cases lifecycles.find? fun lc => lc.sessionId = intent.sessionId with
  | none => exact hidles (calls_call rfl)
  | some lc =>
      show M.Keeps R (if lc.state = .running then _ else _)
      split
      · refine keeps_bind (hidles (calls_call rfl)) fun now => ?_
        refine keeps_bind (keeps_ofExcept _) fun event => ?_
        exact keeps_bind (keeps_completeSpawnIntent_of_idle hidle hkill _ _ _ _ _) fun _ =>
          keeps_ret ()
      · exact hidles (calls_call rfl)

theorem keeps_boot_of_idle (hreconcile : M.Keeps R reconcileOnce) : M.Keeps R boot := by
  have hidles : ∀ {α : Type} {p : DaemonProg α}, Idles p → M.Keeps R p :=
    fun hp => keeps_of_idles hidle hp
  refine keeps_bind hreconcile fun _ => ?_
  refine keeps_bind (hidles (calls_call rfl)) fun _ => ?_
  refine keeps_bind ?_ fun _ => hidles (calls_call rfl)
  refine keeps_bind (keeps_mapError _ (hidles (calls_call rfl))) fun pending => ?_
  refine keeps_forEach (fun intent => ?_) pending
  exact keeps_bind
    (keeps_attempt (keeps_reconcilePendingSpawnIntent_of_idle hidle hkill intent)) fun _ =>
      keeps_ret ()

end AnyMonitor

theorem restsAs_of_isIdle {u : Bool} {o : Op} (ho : o.isIdle = true) (φ : Duty)
    (h : φ.RestsAs u) : duties.allows φ o ∧ ∀ r, (duties.next φ o r).RestsAs u :=
  ⟨Duty.allows_of_isIdle ho h.1.1, Duty.restsAs_next ho h⟩

theorem settling_spawnRpc (intent : PendingSpawnIntent) : Settling false (spawnRpc intent) :=
  keeps_spawnRpc_of_idle (fun _ => restsAs_of_isIdle) settling_killRuntime
    (settling_spawnDomain intent.spawnRequest)

theorem settling_boot {u : Bool} : Settling u boot :=
  keeps_boot_of_idle (fun _ => restsAs_of_isIdle) settling_killRuntime settling_reconcileOnce

theorem idles_shimLaunch (id : SessionId) : Idles (shimLaunch id) := by
  refine calls_bind ?_ fun _ => calls_call rfl
  refine calls_bind (calls_call rfl) fun found => ?_
  cases found <;> trivial

theorem idles_refreshExits : Idles refreshExits := by
  refine calls_bind ((looks_status _).probes.mono fun _ => isIdle_of_isProbe) fun lifecycles => ?_
  refine calls_bind (calls_call rfl) fun exits => calls_forEach (fun exit => ?_) exits
  unfold persistChildExit
  cases exit.transcriptPath with
  | some path => exact calls_bind (calls_call rfl) fun _ => calls_call rfl
  | none => exact calls_call rfl

theorem idles_eventLoopRound : Idles eventLoopRound := by
  refine calls_bind (calls_call rfl) fun cursor => ?_
  refine calls_bind (calls_call rfl) fun page => ?_
  refine calls_bind (calls_attempt (calls_call rfl)) fun applied => ?_
  cases applied <;> exact calls_call rfl

theorem idles_removeNamespaceCatalog (slug : String) : Idles (removeNamespaceCatalog slug) := by
  refine calls_bind (calls_call rfl) fun active => ?_
  show Idles (if 0 < active then _ else _)
  split
  · trivial
  · refine calls_bind (calls_call rfl) fun _ => calls_bind (calls_call rfl) fun found => ?_
    cases found <;> trivial

end SessionDaemon

theorem settling_quiet {u : Bool} {α : Type} {p : DaemonProg α} (hp : Settling u p) :
    Settling u (quiet p) :=
  keeps_bind hp fun _ => keeps_ret Reply.done

/-- Every program of the daemon ends at rest. -/
theorem settling_task (task : DaemonTask) :
    duties.Conforms task.program (Duty.first task) fun _ φ => φ.Rests := by
  -- by the program of each task
  have hrests : Settling (Duty.first task).unawaited task.program := by
    cases task with
    | spawn request => exact settling_quiet (settling_spawnDomain request)
    | daemon origin =>
        cases origin with
        | boot => exact settling_quiet settling_boot
        | startEventLoop =>
            exact settling_quiet (settling_of_idles (calls_bind (calls_call rfl) fun _ =>
              calls_call rfl))
        | eventLoopRound => exact settling_quiet (settling_of_idles idles_eventLoopRound)
        | refreshExits => exact settling_quiet (settling_of_idles idles_refreshExits)
        | reconcileOnce => exact settling_quiet settling_reconcileOnce
        | removeNamespaceCatalog slug =>
            exact settling_quiet (settling_of_idles (idles_removeNamespaceCatalog slug))
        | spawn call => exact settling_spawnRpc call.intent
        | kill request => exact settling_quiet (settling_killRuntime request)
        | shimLaunch id => exact settling_quiet (settling_of_idles (idles_shimLaunch id))
        | shimReady ready => exact settling_quiet (settling_shimReady ready)
        | shimExit exit => exact settling_quiet (settling_recordExited _ _ _)
        | exitWatcher id => exact settling_quiet (settling_recordWatcherExit id)
  have hfirst : (Duty.first task).RestsAs (Duty.first task).unawaited := by
    obtain ⟨u, hfirst⟩ := Duty.first_eq task
    rw [hfirst]
    exact ⟨⟨rfl, rfl⟩, rfl⟩
  exact (hrests _ hfirst).mono fun _ φ h => h.1

/-- The daemon, with what its programs owe. -/
abbrev dutyWatch : Watch tasks where
  monitor := duties
  first := Duty.first
  post _ _ φ := φ.Rests
  conforms := settling_task
  returns := fun h => returns_of_exec h

end LittleOrgans.Concurrency
