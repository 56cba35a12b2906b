import LittleOrgans.Concurrency.ShimDuties

/-!
# What a spawn has found in its pane

A spawn asks the store once who runs in its pane. If it finds somebody, it returns a
conflict, or kills the occupant when it is forced to; then it goes on, and many steps later
it writes its own running row. The monitor `claims` follows the panes a program has asked
for: `claims_task` says that no program of the daemon writes a running row with a pane it
has not asked for, or in which it has found somebody without being forced.
-/

set_option autoImplicit false

namespace LittleOrgans.Concurrency

open LittleOrgans.Core
open LittleOrgans.Library
open LittleOrgans.Library.Monitor
open LittleOrgans.Library.Prog
open LittleOrgans.Store
open LittleOrgans.Daemon

/-- The pane that a lifecycle runs in. -/
def runningIn (lc : Lifecycle) : Option TmuxAddress :=
  if lc.state = .running then lc.tmuxPane else none

/-- What a program knows of panes. -/
structure PaneClaims where
  /-- It may take a pane from whom it finds there. -/
  force : Bool
  /-- The pane in the ready report it answers. -/
  reported : Option TmuxAddress
  /-- The panes it has asked for and may run in, and whom it found there. -/
  looked : List (TmuxAddress × Option Lifecycle) := []

namespace PaneClaims

/-- It has asked for the pane of this row. -/
def MayPlace (φ : PaneClaims) (lc : Lifecycle) : Prop :=
  ∀ address ∈ runningIn lc,
    φ.reported = some address ∨ ∃ found, (address, found) ∈ φ.looked

def allows (φ : PaneClaims) : Op → Prop
  | .store (.insertForking lc) => runningIn lc = none
  | .store (.updateLifecycle lc) => φ.MayPlace lc
  | _ => True

/-- A pane with somebody in it is claimed by force only, and a running row is what the
claim was for. -/
def next (φ : PaneClaims) : (o : Op) → Except DaemonError o.Res → PaneClaims
  | .store (.runningTmuxOccupant address), .ok found =>
      if found.isNone || φ.force then { φ with looked := (address, found) :: φ.looked } else φ
  | .store (.updateLifecycle lc), .ok _ =>
      if (runningIn lc).isSome then { φ with looked := [] } else φ
  | _, _ => φ

/-- What a program knows at its start. -/
def first : DaemonTask → PaneClaims
  | .spawn request => { force := request.force, reported := none }
  | .daemon (.spawn call) => { force := call.intent.spawnRequest.force, reported := none }
  | .daemon (.shimReady ready) => { force := false, reported := ready.tmuxPane }
  | .daemon _ => { force := false, reported := none }

/-- It is forced or not, and has found this much. -/
def Knows (force : Bool) (looked : List (TmuxAddress × Option Lifecycle)) (φ : PaneClaims) :
    Prop :=
  φ.force = force ∧ looked ⊆ φ.looked

end PaneClaims

/-- The monitor of the panes a program has asked for. -/
abbrev claims : Monitor daemonOps DaemonError where
  State := PaneClaims
  allows := PaneClaims.allows
  returns _ _ := True
  next := PaneClaims.next

/-- The program writes no running row, and forgets nothing that it has found. -/
abbrev Bystands {α : Type} (p : DaemonProg α) : Prop :=
  ∀ force looked, claims.Keeps (PaneClaims.Knows force looked) p

section Bystanders

variable {force : Bool} {looked : List (TmuxAddress × Option Lifecycle)}

/-- Of the operations, only the update of a lifecycle uses up what was found. -/
theorem PaneClaims.knows_next {o : Op} (ho : o.isIdle = true) (φ : PaneClaims)
    (h : φ.Knows force looked) :
    claims.allows φ o ∧ ∀ r, (claims.next φ o r).Knows force looked := by
  have hlooked : ∀ address found,
      (claims.next φ (.store (.runningTmuxOccupant address)) (.ok found)).Knows force looked := by
    intro address found
    show PaneClaims.Knows force looked (if _ then _ else _)
    split
    · exact ⟨h.1, fun entry hentry => List.mem_cons_of_mem _ (h.2 hentry)⟩
    · exact h
  cases o with
  | os o => exact ⟨trivial, fun r => h⟩
  | log o => exact ⟨trivial, fun r => h⟩
  | memory o => exact ⟨trivial, fun r => h⟩
  | store o =>
      cases o with
      | insertForking lc => cases ho
      | updateLifecycle lc => cases ho
      | runningTmuxOccupant address =>
          refine ⟨trivial, fun r => ?_⟩
          cases r with
          | error e => exact h
          | ok found => exact hlooked address found
      | _ => exact ⟨trivial, fun r => h⟩

theorem bystands_of_idles {α : Type} {p : DaemonProg α} (hp : Idles p) : Bystands p :=
  fun _ _ => keeps_of_idles (fun _ => PaneClaims.knows_next) hp

theorem bystands_of_probes {α : Type} {p : DaemonProg α} (hp : Probes p) : Bystands p :=
  fun _ _ => keeps_of_idle_probes (fun _ => PaneClaims.knows_next) hp

/-- Of the memory, the table of the tracked shims and the channels do not matter here. -/
theorem bystands_memory (o : MemoryOp) : Bystands (memory o) :=
  fun _ _ => keeps_call fun _ h => ⟨trivial, fun _ _ => h⟩

/-- A row that is not running in a pane. -/
theorem bystands_updateLifecycle {lc : Lifecycle} (h : runningIn lc = none) :
    Bystands (store (.updateLifecycle lc)) := by
  intro force looked φ hφ
  refine conforms_call.mpr ⟨?_, fun r _ => ?_⟩
  · intro address haddress
    rw [h] at haddress
    cases haddress
  · cases r with
    | error e => exact hφ
    | ok _ =>
        show PaneClaims.Knows force looked (if (runningIn lc).isSome = true then _ else φ)
        rw [h]
        exact hφ

theorem bystands_recordTerminal {mark : Lifecycle → Bool × Lifecycle}
    (hmark : ∀ lc, (mark lc).1 = true → runningIn (mark lc).2 = none) (id : SessionId)
    (evidence : TerminationEvidence) : Bystands (recordTerminal id evidence mark) := by
  intro force looked
  refine keeps_bind (bystands_of_idles (calls_call rfl) _ _) fun found => ?_
  cases found with
  | none => exact keeps_fail _
  | some lc =>
      show claims.Keeps _ (if (mark lc).1 = true then _ else _)
      split
      · next hmarked =>
          refine keeps_bind (bystands_updateLifecycle (hmark lc hmarked) _ _) fun _ => ?_
          refine keeps_bind (bystands_memory _ _ _) fun _ => ?_
          refine keeps_bind (bystands_memory _ _ _) fun entered => ?_
          cases entered with
          | false => exact keeps_ret none
          | true =>
              exact keeps_bind (bystands_of_idles (calls_call rfl) _ _) fun _ => keeps_ret _
      · exact keeps_ret none

theorem bystands_recordExited (id : SessionId) (exit : RuntimeExit)
    (evidence : TerminationEvidence) : Bystands (recordExited id exit evidence) := by
  have hmark : ∀ lc : Lifecycle, (lc.markExited exit).1 = true →
      runningIn (lc.markExited exit).2 = none := by
    intro lc hmarked
    obtain ⟨-, hlc⟩ := Lifecycle.markExited_eq_true
      (show lc.markExited exit = (true, (lc.markExited exit).2) by rw [← hmarked])
    rw [hlc]
    rfl
  intro force looked
  refine keeps_bind (keeps_attempt (bystands_recordTerminal hmark id evidence _ _)) ?_
  exact fun result => keeps_bind (bystands_memory _ _ _) fun _ => keeps_ofExcept result

theorem bystands_recordLost (id : SessionId) (evidence : LostEvidence) :
    Bystands (recordLost id evidence) := by
  have hmark : ∀ lc : Lifecycle, (lc.markLost evidence).1 = true →
      runningIn (lc.markLost evidence).2 = none := by
    intro lc hmarked
    obtain ⟨-, hlc⟩ := Lifecycle.markLost_eq_true
      (show lc.markLost evidence = (true, (lc.markLost evidence).2) by rw [← hmarked])
    rw [hlc]
    rfl
  intro force looked
  refine keeps_bind (keeps_attempt (bystands_recordTerminal hmark id (.lost evidence) _ _)) ?_
  exact fun result => keeps_bind (bystands_memory _ _ _) fun _ => keeps_ofExcept result

theorem PaneClaims.knows_of_isLook {o : Op} (ho : o.isLook = true) (φ : PaneClaims)
    (h : φ.Knows force looked) :
    claims.allows φ o ∧ ∀ r, (claims.next φ o r).Knows force looked :=
  PaneClaims.knows_next (isIdle_of_isProbe (isProbe_of_isLook ho)) φ h

theorem bystands_recordWatcherExit (id : SessionId) : Bystands (recordWatcherExit id) :=
  fun _ _ => keeps_recordWatcherExit (fun _ => PaneClaims.knows_of_isLook)
    (fun evidence => bystands_recordLost id evidence _ _) (bystands_recordExited id _ _ _ _)

theorem bystands_killRuntime (request : KillRequest) : Bystands (killRuntime request) :=
  fun _ _ => keeps_killRuntime (fun _ => PaneClaims.knows_of_isLook)
    (bystands_recordLost _ _ _ _)

theorem bystands_reconcileOnce : Bystands reconcileOnce :=
  fun _ _ => keeps_reconcileOnce (fun _ => PaneClaims.knows_of_isLook)
    (fun id evidence => bystands_recordLost id evidence _ _) (fun _ _ => bystands_memory _ _ _)
    (bystands_of_idles (calls_call rfl) _ _)

end Bystanders

/-! ## The spawn -/

section Spawn

variable {φ : PaneClaims} {request : RuntimeSpawnRequest}

/-- The spawn goes on with the pane of its request claimed. -/
def PaneClaims.Checked (request : RuntimeSpawnRequest)
    (r : Except DaemonError (Option SpawnOutcome)) (φ : PaneClaims) : Prop :=
  φ.force = request.force ∧ (r = .ok none → ∀ address ∈ request.target.tmuxAddress,
    ∃ found, (address, found) ∈ φ.looked)

/-- A pane in which a spawn finds somebody it claims by force only, once the occupant is
killed. -/
theorem claims_checkOccupant (h : φ.force = request.force) :
    claims.Conforms (checkOccupant request) φ (PaneClaims.Checked request) := by
  unfold checkOccupant
  cases hpane : request.target.tmuxAddress with
  | none =>
      -- a spawn without a pane has nothing to look for
      refine ⟨h, fun _ address haddress => ?_⟩
      rw [hpane] at haddress
      cases haddress
  | some address =>
      refine conforms_call_bind.mpr ⟨trivial, fun found _ => ?_, fun e _ => ⟨h, nofun⟩⟩
      have hclaimed : ∀ φ' : PaneClaims, φ'.Knows request.force [(address, found)] →
          φ'.Checked request (.ok none) := by
        rintro φ' ⟨hforce, hlooked⟩
        refine ⟨hforce, fun _ pane hpane' => ⟨found, ?_⟩⟩
        rw [hpane] at hpane'
        cases hpane'
        exact hlooked List.mem_cons_self
      -- a free pane is claimed by the look itself
      cases found with
      | none => exact hclaimed _ ⟨h, List.cons_subset_cons _ (List.nil_subset _)⟩
      | some occupant =>
          show claims.Conforms (if request.force = true then _ else _)
            (if (some occupant).isNone || φ.force then _ else φ) _
          split
          -- an occupied pane is claimed by a forced spawn, which kills the occupant
          · next hforced =>
              have hclaims : ((some occupant).isNone || φ.force) = true := by
                rw [h, hforced, Bool.or_true]
              rw [if_pos hclaims]
              have hknows : PaneClaims.Knows request.force [(address, some occupant)]
                  { φ with looked := (address, some occupant) :: φ.looked } :=
                ⟨h, List.cons_subset_cons _ (List.nil_subset _)⟩
              refine (bystands_killRuntime _ _ _).conforms_bind hknows (fun _ φ' h' => ?_) ?_
              · exact hclaimed φ' h'
              · exact fun e φ' h' => ⟨h'.1, nofun⟩
          -- without force the occupant is a conflict
          · refine ⟨?_, nofun⟩
            split <;> exact h

theorem claims_checkSpawn (h : φ.force = request.force) :
    claims.Conforms (checkSpawn request) φ (PaneClaims.Checked request) := by
  have hknows : φ.Knows request.force [] := ⟨h, List.nil_subset _⟩
  refine (bystands_of_probes (probes_os _) _ _).conforms_bind hknows (fun _ φ h => ?_) ?_
  · have hread := bystands_of_probes (looks_getLifecycle request.sessionId).probes
    refine (hread _ _).conforms_bind h (fun found φ h => ?_) fun e φ h => ⟨h.1, nofun⟩
    cases found with
    | none => exact claims_checkOccupant h.1
    | some lc =>
        show claims.Conforms (if isSessionBackedForking lc request = true then _ else _) φ _
        split
        · exact claims_checkOccupant h.1
        · exact ⟨h.1, nofun⟩
  · exact fun e φ h => ⟨h.1, nofun⟩

theorem bystands_beginSpawn (request : RuntimeSpawnRequest) : Bystands (beginSpawn request) := by
  intro force looked
  refine keeps_bind (bystands_of_probes (looks_sessionBacked _).probes _ _) fun backed => ?_
  refine keeps_bind (bystands_of_probes (looks_validateSpawnTarget _).probes _ _) fun _ => ?_
  refine keeps_bind ?_ fun _ => keeps_bind (bystands_memory _ _ _) fun _ => ?_
  · cases backed with
    | true => exact keeps_ret ()
    | false => exact keeps_call fun _ h => ⟨rfl, fun _ _ => h⟩
  · have hwait : claims.Keeps (PaneClaims.Knows force looked)
        (beginReadyWait request.sessionId) := by
      refine keeps_bind (bystands_memory _ _ _) fun made => ?_
      show claims.Keeps _ (if made.2 = true then _ else _)
      split
      · exact keeps_bind (bystands_memory _ _ _) fun _ => keeps_fail _
      · exact keeps_ret _
    refine keeps_bind (keeps_attempt hwait) fun waited => ?_
    cases waited with
    | ok ready => exact keeps_ret _
    | error e =>
        exact keeps_bind (bystands_of_idles (idles_cancelSpawn _) _ _) fun _ => keeps_fail e

/-- The running row names the pane of the request. -/
theorem claims_recordRunning {ready : ShimReady} {force : Bool}
    {looked : List (TmuxAddress × Option Lifecycle)} (h : φ.Knows force looked)
    (hlooked : ∀ address ∈ request.target.tmuxAddress, ∃ found, (address, found) ∈ looked)
    (appendEvent : Bool) :
    claims.Conforms (recordRunning request ready appendEvent) φ
      fun _ φ' => φ'.Knows force [] := by
  -- what is left when the spawn stops: the claim need not hold any more
  have hdone : ∀ φ' : PaneClaims, φ'.Knows force looked → φ'.Knows force [] :=
    fun φ' h' => ⟨h'.1, List.nil_subset _⟩
  suffices hrow : claims.Conforms (recordRunningRow request ready appendEvent) φ
      fun _ φ' => φ'.Knows force [] by
    refine conforms_bind.mpr (hrow.mono fun r φ' h' => ?_)
    cases r with
    | error e => exact h'
    | ok recorded => exact keeps_bind (bystands_memory _ _ _) (fun _ => keeps_ret _) φ' h'
  refine (bystands_of_probes (looks_getLifecycle request.sessionId).probes _ _).conforms_bind h
    (fun found φ h => ?_) fun e φ h => hdone φ h
  cases found with
  | none => exact hdone φ h
  | some lc =>
      show claims.Conforms (if lc.runtime ≠ request.runtime then _ else if _ then _ else _) φ _
      split
      · exact hdone φ h
      · split
        · refine (bystands_of_probes (probes_os _) _ _).conforms_bind h (fun logs φ h => ?_)
            fun e φ h => hdone φ h
          have hplaces : φ.MayPlace (runningLifecycle request ready lc logs) := by
            intro address haddress
            refine .inr ?_
            have hpane : request.target.tmuxAddress = some address := by
              rw [runningIn] at haddress
              split at haddress
              · exact haddress
              · cases haddress
            obtain ⟨found, hfound⟩ := hlooked address hpane
            exact ⟨found, h.2 hfound⟩
          -- the pane of the row is the one the spawn has looked at
          refine conforms_call_bind.mpr ⟨hplaces, fun _ _ => ?_, fun e _ => hdone φ h⟩
          have hwrote : (claims.next φ (.store (.updateLifecycle
              (runningLifecycle request ready lc logs))) (.ok ())).Knows force [] := by
            show PaneClaims.Knows force [] (if _ then _ else φ)
            split
            · exact ⟨h.1, List.nil_subset _⟩
            · exact hdone φ h
          -- the watcher and the event behind the write concern no pane
          refine (keeps_bind (keeps_ofExcept _) fun event => ?_) _ hwrote
          refine keeps_bind (bystands_memory _ _ _) fun _ => ?_
          cases appendEvent with
          | false => exact keeps_ret _
          | true =>
              exact keeps_bind (bystands_of_idles (calls_call rfl) _ _) fun _ => keeps_ret _
        · exact hdone φ h

theorem claims_spawnDomain (request : RuntimeSpawnRequest) :
    claims.Keeps (PaneClaims.Knows request.force []) (spawnDomain request) := by
  intro φ h
  refine conforms_bind.mpr ((claims_checkSpawn h.1).mono fun r φ h => ?_)
  have hforce : ∀ {looked : List (TmuxAddress × Option Lifecycle)} {φ : PaneClaims},
      φ.Knows request.force looked → φ.Knows request.force [] :=
    fun h => ⟨h.1, List.nil_subset _⟩
  have hknows : φ.Knows request.force φ.looked := ⟨h.1, List.Subset.refl _⟩
  cases r with
  | error e => exact hforce hknows
  | ok refusal =>
      cases refusal with
      | some conflict => exact hforce hknows
      | none =>
          -- the check has passed, so the pane was looked at; up to the report nothing is placed
          have hlooked := h.2 rfl
          refine (bystands_of_probes (probes_os _) _ _).conforms_bind hknows
            (fun _ φ h => ?_) fun e φ h => hforce h
          refine (bystands_beginSpawn request _ _).conforms_bind h (fun begin φ h => ?_)
            fun e φ h => hforce h
          refine (keeps_attempt (bystands_of_probes (probes_os _) _ _)).conforms_bind h
            (fun launched φ h => ?_) fun e φ h => hforce h
          cases launched with
          | error e =>
              exact (bystands_of_idles (idles_cancelSpawn _) _ _).conforms_bind h
                (fun _ φ h => hforce h) fun _ φ h => hforce h
          | ok stdoutPath =>
              refine (bystands_memory _ _ _).conforms_bind h (fun waited φ h => ?_)
                fun e φ h => hforce h
              cases waited with
              | elapsed => exact hforce h
              | closed => exact hforce h
              -- the report has come: the row is written
              | ready ready =>
                  show claims.Conforms (recordRunning request ready _ >>= _) φ _
                  refine conforms_bind.mpr
                    ((claims_recordRunning h hlooked _).mono fun r φ h => ?_)
                  cases r <;> exact h

end Spawn

/-! ## Every program of the daemon -/

/-- A report that finds no spawn is recorded in the pane it reports. -/
theorem claims_shimReady (ready : ShimReady) :
    claims.Keeps (fun φ => φ.reported = ready.tmuxPane) (shimReady ready) := by
  -- an operation that the claims allow keeps the pane of the report
  have hcall : ∀ o : Op, (∀ φ : PaneClaims, φ.reported = ready.tmuxPane → claims.allows φ o) →
      claims.Keeps (fun φ => φ.reported = ready.tmuxPane)
        (Prog.call (S := daemonOps) o : DaemonProg o.Res) := by
    intro o hallows
    refine keeps_call fun φ h => ⟨hallows φ h, fun r _ => ?_⟩
    show (φ.next o r).reported = _
    unfold PaneClaims.next
    split
    · split <;> exact h
    · split <;> exact h
    · exact h
  have hrecord : claims.Keeps (fun φ => φ.reported = ready.tmuxPane)
      (recordReconnectedReady ready) := by
    refine keeps_bind (hcall (.store (.getLifecycle ready.sessionId)) fun _ _ => trivial)
      fun found => ?_
    cases found with
    | none => exact keeps_fail _
    | some lc =>
        dsimp only
        cases hstate : lc.state with
        -- a copy of a report: the row runs already, only the watcher is started again
        | running => exact hcall (.memory (.startExitWatcher _ _)) fun _ _ => trivial
        | exited exit => exact keeps_fail _
        | lost evidence => exact keeps_fail _
        -- the daemon did not wait for this report: the row takes the pane that the shim names
        | forking =>
            have hpane : ∀ address ∈ runningIn (lc.markRunning ready).2,
                ready.tmuxPane = some address := by
              intro address haddress
              rw [Lifecycle.markRunning, hstate] at haddress
              exact haddress
            refine keeps_bind (hcall (.store (.updateLifecycle _)) fun φ h address haddress =>
              .inl (h.trans (hpane address haddress))) fun _ => ?_
            refine keeps_bind (keeps_ofExcept _) fun event => ?_
            refine keeps_bind (hcall (.memory (.startExitWatcher _ _)) fun _ _ => trivial)
              fun _ => ?_
            exact keeps_bind (hcall (.log (.appendEvent _)) fun _ _ => trivial) fun _ =>
              keeps_ret ()
  refine keeps_bind ?_ fun _ => hcall (.os (.ackReady _)) fun _ _ => trivial
  refine keeps_bind (hcall (.memory (.removePendingReady _)) fun _ _ => trivial) fun found => ?_
  cases found with
  -- nobody waits for the report
  | none => exact hrecord
  | some channel =>
      refine keeps_bind (hcall (.memory (.sendReady _ _)) fun _ _ => trivial) fun sent => ?_
      cases sent
      · exact keeps_fail _
      · exact keeps_ret ()

theorem claims_task (task : DaemonTask) :
    claims.Conforms task.program (PaneClaims.first task) fun _ _ => True := by
  -- a program that keeps the claims it starts with
  have hquiet : ∀ {R : PaneClaims → Prop} {α : Type} {p : DaemonProg α}, claims.Keeps R p →
      R (PaneClaims.first task) → claims.Conforms (quiet p) (PaneClaims.first task)
        fun _ _ => True :=
    fun hp h => (keeps_bind hp (fun _ => keeps_ret Reply.done) _ h).mono fun _ _ _ => trivial
  have hbystands : ∀ {α : Type} {p : DaemonProg α}, Bystands p →
      claims.Conforms (quiet p) (PaneClaims.first task) fun _ _ => True :=
    fun hp => hquiet (hp _ _) ⟨rfl, List.nil_subset _⟩
  cases task with
  | spawn request => exact hquiet (claims_spawnDomain request) ⟨rfl, List.nil_subset _⟩
  | daemon origin =>
      cases origin with
      | boot =>
          exact hbystands fun _ _ => keeps_boot_of_idle (fun _ => PaneClaims.knows_next)
            (fun request => bystands_killRuntime request _ _) (bystands_reconcileOnce _ _)
      | startEventLoop =>
          exact hbystands (bystands_of_idles (calls_bind (calls_call rfl) fun _ => calls_call rfl))
      | eventLoopRound => exact hbystands (bystands_of_idles idles_eventLoopRound)
      | refreshExits => exact hbystands (bystands_of_idles idles_refreshExits)
      | reconcileOnce => exact hbystands bystands_reconcileOnce
      | removeNamespaceCatalog slug =>
          exact hbystands (bystands_of_idles (idles_removeNamespaceCatalog slug))
      | kill request => exact hbystands (bystands_killRuntime request)
      | shimLaunch id => exact hbystands (bystands_of_idles (idles_shimLaunch id))
      | shimReady ready => exact hquiet (claims_shimReady ready) rfl
      | shimExit exit => exact hbystands (bystands_recordExited _ _ _)
      | exitWatcher id => exact hbystands (bystands_recordWatcherExit id)
      | spawn call =>
          have hspawn := keeps_spawnRpc_of_idle (fun _ => PaneClaims.knows_next)
            (fun request => bystands_killRuntime request _ _)
            (claims_spawnDomain call.intent.spawnRequest)
          exact (hspawn _ ⟨rfl, List.nil_subset _⟩).mono fun _ _ _ => trivial

/-- The daemon, with the panes its programs have asked for. -/
abbrev claimWatch : Watch tasks where
  monitor := claims
  first := PaneClaims.first
  post _ _ _ := True
  conforms := claims_task
  returns _ := trivial

end LittleOrgans.Concurrency
