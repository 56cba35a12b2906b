import LittleOrgans.Concurrency.SpawnConformance

/-!
# The session daemon keeps to the rules

The programs of the session daemon, checked against the monitor, and the watch
over the whole machine that results (`watched`): every program of the daemon
conforms, whatever it was started for.
-/

set_option autoImplicit false

namespace LittleOrgans.Concurrency

open LittleOrgans.Core
open LittleOrgans.Library
open LittleOrgans.Library.Monitor
open LittleOrgans.Store
open LittleOrgans.Daemon

open Knowledge

/-! ## Status -/

/-- The same lifecycles, with the availability of their logs filled in. -/
def Populated : List Lifecycle → List Lifecycle → Prop :=
  List.Forall₂ fun lc lc' => ∃ logs, lc' = { lc with logAvailability := some logs }

theorem conforms_populateLogs (lcs : List Lifecycle) (φ : Knowledge) :
    knowing.Conforms (populateLogs lcs) φ fun r φ' =>
      φ' = φ ∧ ∀ lcs', r = .ok lcs' → Populated lcs lcs' := by
  induction lcs with
  | nil =>
      refine ⟨rfl, fun lcs' h => ?_⟩
      cases h
      exact .nil
  | cons lc rest ih =>
      refine conforms_call_bind.mpr
        ⟨trivial, fun logs _ => ?_, fun e _ => ⟨rfl, of_error_eq_ok⟩⟩
      refine conforms_bind.mpr (ih.mono fun r φ' h => ?_)
      obtain ⟨rfl, hrest⟩ := h
      cases r with
      | error e => exact ⟨rfl, of_error_eq_ok⟩
      | ok rest' =>
          refine ⟨rfl, fun lcs' h => ?_⟩
          cases h
          exact .cons ⟨logs, rfl⟩ (hrest rest' rfl)

theorem find?_populated {lcs lcs' : List Lifecycle} (h : Populated lcs lcs') {id : SessionId}
    {lc' : Lifecycle} (hfind : (lcs'.find? fun lc => lc.sessionId = id) = some lc') :
    ∃ lc logs, (lcs.find? fun lc => lc.sessionId = id) = some lc ∧
      lc' = { lc with logAvailability := some logs } := by
  induction h with
  | nil => cases hfind
  | cons hhead _ ih =>
      obtain ⟨logs, rfl⟩ := hhead
      rw [List.find?_cons] at hfind ⊢
      split at hfind
      · next hid =>
          cases hfind
          exact ⟨_, logs, by rw [hid], rfl⟩
      · next hid =>
          obtain ⟨lc, logs', hlc, heq⟩ := ih hfind
          exact ⟨lc, logs', by rw [hid, hlc], heq⟩

/-- A status request: what it reports was read from the store. -/
theorem conforms_status (φ : Knowledge) (filter : StatusFilter) :
    knowing.Conforms (status filter) φ fun r φ' => φ.Grows φ' ∧
      ∀ lcs id lc, r = .ok lcs → (lcs.find? fun lc => lc.sessionId = id) = some lc →
        ∃ old logs, φ'.lastRead id = some old ∧ lc = { old with logAvailability := some logs } := by
  refine conforms_attempt_bind.mpr (conforms_call.mpr ⟨trivial, fun r _ => ?_⟩)
  cases r with
  | error e =>
      refine ⟨Grows.refl φ, fun lcs id lc h hfind => ?_⟩
      cases h
      cases hfind
  | ok rows =>
      have hread : φ.Grows { φ with reads := rows ++ φ.reads } := Grows.reading φ rows
      refine (conforms_populateLogs rows _).mono fun r φ' h => ?_
      obtain ⟨rfl, hpopulated⟩ := h
      refine ⟨hread, fun lcs id lc hr hfind => ?_⟩
      obtain ⟨old, logs, hold, hlc⟩ := find?_populated (hpopulated lcs hr) hfind
      refine ⟨old, logs, ?_, hlc⟩
      show List.find? _ (rows ++ φ.reads) = some old
      rw [List.find?_append, hold]
      rfl

/-! ## Terminating a runtime -/

theorem conforms_waitForTerminal (id : SessionId) (n : Nat) (φ : Knowledge) :
    knowing.Conforms (waitForTerminal id n) φ φ.Grown := by
  induction n generalizing φ with
  | zero =>
      refine conforms_bind.mpr ((conforms_status φ _).mono fun r φ' h => ?_)
      cases r <;> exact h.1
  | succ n ih =>
      refine conforms_bind.mpr ((conforms_status φ _).mono fun r φ₁ h => ?_)
      obtain ⟨h₁, -⟩ := h
      cases r with
      | error e => exact h₁
      | ok lcs =>
          rw [rest_ok]
          cases reportedExit id lcs with
          | some exit => exact h₁
          | none => exact (ih φ₁).mono fun r φ₂ h₂ => h₁.trans h₂

theorem conforms_terminate {φ : Knowledge} {id : SessionId} (hholds : φ.Holds id)
    (signal : RuntimeSignal) : knowing.Conforms (terminate id signal) φ φ.Grown := by
  refine conforms_bind.mpr ((conforms_killRuntime φ _).mono fun r φ₁ h₁ => ?_)
  cases r with
  | error e => exact h₁
  | ok outcome =>
      refine conforms_call_bind.mpr ⟨trivial, fun rounds _ => ?_, fun e _ => h₁⟩
      refine conforms_bind.mpr ((conforms_waitForTerminal id rounds φ₁).mono
        fun r φ₂ hgrows₂ => ?_)
      have h₂ := h₁.trans hgrows₂
      cases r with
      | error e => exact h₂
      | ok found =>
          cases found with
          | none => exact h₂
          | some exit =>
              exact conforms_call_bind.mpr
                ⟨h₂.holds.mpr hholds, fun _ _ => h₂, fun e _ => h₂⟩

/-! ## Settling an intent -/

namespace Knowledge

/-- Nothing but the intent of `id` was settled, and the other duties are as they
were. -/
structure Keeps (φ : Knowledge) (id : SessionId) (φ' : Knowledge) : Prop where
  booting : φ'.booting = φ.booting
  reported : φ'.reported = φ.reported
  held : ∀ intent ∈ φ.held, intent.sessionId ≠ id → intent ∈ φ'.held

/-- The intent of `id` was settled, and not by a commit. -/
structure Drops (φ : Knowledge) (id : SessionId) (φ' : Knowledge) : Prop where
  held : ∀ intent ∈ φ'.held, intent ∈ φ.held ∧ intent.sessionId ≠ id
  committed : φ'.committed = φ.committed

theorem Grows.keeps {φ φ' : Knowledge} (h : φ.Grows φ') (id : SessionId) : φ.Keeps id φ' :=
  ⟨h.booting, h.reported, fun _ hintent _ => h.held.symm ▸ hintent⟩

theorem Keeps.trans {φ φ' φ'' : Knowledge} {id : SessionId} (h : φ.Keeps id φ')
    (h' : φ'.Keeps id φ'') : φ.Keeps id φ'' :=
  ⟨h'.booting.trans h.booting, h'.reported.trans h.reported, fun intent hintent hne =>
    h'.held intent (h.held intent hintent hne) hne⟩

theorem keeps_settle (φ : Knowledge) (id : SessionId) : φ.Keeps id (φ.settle id) :=
  ⟨rfl, rfl, fun _ hintent hne => List.mem_filter.mpr ⟨hintent, decide_eq_true hne⟩⟩

theorem drops_settle (φ : Knowledge) (id : SessionId) : φ.Drops id (φ.settle id) := by
  refine ⟨fun intent hintent => ?_, rfl⟩
  obtain ⟨hheld, hne⟩ := List.mem_filter.mp hintent
  exact ⟨hheld, of_decide_eq_true hne⟩

theorem Drops.of_grows {φ φ' φ'' : Knowledge} {id : SessionId} (h : φ.Grows φ')
    (h' : φ'.Drops id φ'') : φ.Drops id φ'' :=
  ⟨fun intent hintent => h.held ▸ h'.held intent hintent, h'.committed.trans h.committed⟩

end Knowledge

/-- An abort settles the intent, or its failure is returned. -/
def Aborts {α : Type} (φ : Knowledge) (id : SessionId) (_ : Except DaemonError α)
    (φ' : Knowledge) : Prop :=
  φ.Keeps id φ' ∧ (φ'.unhandled = true ∨ φ.Drops id φ')

theorem conforms_abortSpawnIntent {φ : Knowledge} {id : SessionId} (hholds : φ.Holds id)
    (reason : AbortReason) :
    knowing.Conforms (abortSpawnIntent id reason) φ (Aborts φ id) := by
  refine conforms_call.mpr ⟨hholds, fun r _ => ?_⟩
  cases r with
  | ok u => exact ⟨keeps_settle φ id, .inr (drops_settle φ id)⟩
  | error e => exact ⟨⟨rfl, rfl, fun _ hintent _ => hintent⟩, .inl rfl⟩

theorem conforms_abortRunningSpawn {φ : Knowledge} {id : SessionId} (hholds : φ.Holds id)
    (reason : AbortReason) :
    knowing.Conforms (abortRunningSpawn id reason) φ (Aborts φ id) := by
  refine conforms_attempt_bind.mpr ((conforms_terminate hholds .term).mono fun r φ₁ h₁ => ?_)
  refine (conforms_abortSpawnIntent (h₁.holds.mpr hholds) reason).mono fun r φ₂ h₂ => ?_
  exact ⟨(h₁.keeps id).trans h₂.1, h₂.2.imp_right (Drops.of_grows h₁)⟩

/-- How the second half of a spawn ends: it has committed, or it has aborted, or
a failure was returned as it is. -/
def Completes (φ : Knowledge) (id : SessionId) (onCommitFailure : OnCommitFailure)
    (r : Except DaemonError Session) (φ' : Knowledge) : Prop :=
  φ.Keeps id φ' ∧
    match r with
    | .ok _ => id ∈ φ'.committed
    | .error _ => φ'.unhandled = true ∨ onCommitFailure = .leavePending ∨ φ.Drops id φ'

theorem Aborts.completes {φ φ' : Knowledge} {id : SessionId} {α : Type}
    {r : Except DaemonError α} (h : Aborts φ id r φ') (e : DaemonError)
    (onCommitFailure : OnCommitFailure) : Completes φ id onCommitFailure (.error e) φ' :=
  ⟨h.1, h.2.imp_right .inr⟩

/-- The second transaction and what follows it. -/
theorem conforms_commit {φ : Knowledge} {intent : PendingSpawnIntent} {session : Session}
    {lc : Lifecycle} (hheld : intent ∈ φ.held)
    (hcommit : φ.MayCommit intent.sessionId session lc) (event : RuntimeEvent)
    (onCommitFailure : OnCommitFailure) :
    knowing.Conforms
      (do
        let committed ← (store (.commitSpawnIntent intent.sessionId session lc)).attempt
        afterCommit intent session event onCommitFailure committed) φ
      (Completes φ intent.sessionId onCommitFailure) := by
  refine conforms_attempt_bind.mpr (conforms_call.mpr ⟨hcommit, fun r _ => ?_⟩)
  cases r with
  | ok u =>
      have hkeeps := keeps_settle φ intent.sessionId
      refine conforms_bind.mpr (conforms_mapError.mpr (conforms_call.mpr
        ⟨trivial, fun r _ => ?_⟩))
      cases r with
      | ok event => exact ⟨⟨rfl, rfl, hkeeps.held⟩, List.mem_cons_self⟩
      | error e =>
          refine ⟨⟨rfl, rfl, hkeeps.held⟩, .inl ?_⟩
          exact Bool.or_true _
  | error e =>
      cases onCommitFailure with
      | leavePending => exact ⟨(Grows.refl φ).keeps _, .inr (.inl rfl)⟩
      | abortRunning =>
          refine conforms_attempt_bind.mpr ((conforms_abortRunningSpawn
            ⟨intent, hheld, rfl⟩ _).mono fun r φ' h => ?_)
          exact h.completes e _

theorem conforms_completeSpawnIntent {φ : Knowledge} {intent : PendingSpawnIntent}
    {lc : Lifecycle} (hheld : intent ∈ φ.held) (hcommits : CommitsTo intent.sessionId lc φ)
    (event : RuntimeEvent) (stdoutPath : Option String) (onCommitFailure : OnCommitFailure)
    (hsession : onCommitFailure = .leavePending ∨
      ∀ now, ∃ session, sessionOfIntent intent lc stdoutPath now = .ok session) :
    knowing.Conforms (completeSpawnIntent intent lc event stdoutPath onCommitFailure) φ
      (Completes φ intent.sessionId onCommitFailure) := by
  have hkeeps := (Grows.refl φ).keeps intent.sessionId
  -- an error that leaves the intent pending is one nobody handles
  have hunhandled : ∀ e : DaemonError, Completes φ intent.sessionId onCommitFailure (.error e)
      { φ with unhandled := true } := fun e => ⟨⟨rfl, rfl, hkeeps.held⟩, .inl rfl⟩
  refine conforms_call_bind.mpr ⟨trivial, fun now _ => ?_, fun e he => by cases he⟩
  cases hbuilt : sessionOfIntent intent lc stdoutPath now with
  | error e =>
      rcases hsession with rfl | hsession
      -- a session that cannot be built: only a recovery may find one, and leaves the intent
      · exact ⟨hkeeps, .inr (.inl rfl)⟩
      · obtain ⟨session, hok⟩ := hsession now
        rw [hbuilt] at hok
        cases hok
  | ok session =>
      have hcommit : φ.MayCommit intent.sessionId session lc :=
        ⟨intent, hheld, rfl, hcommits.1, ⟨stdoutPath, now, hbuilt⟩, hcommits.2.2.2⟩
      refine conforms_bind.mpr (conforms_ofExcept.mpr (conforms_bind.mpr (conforms_mapError.mpr
        (conforms_call.mpr ⟨trivial, fun r _ => ?_⟩))))
      cases r with
      | error e =>
          refine ⟨⟨rfl, rfl, hkeeps.held⟩, .inl ?_⟩
          show (φ.unhandled || !φ.held.isEmpty) = true
          rw [List.isEmpty_eq_false_iff_exists_mem.mpr ⟨intent, hheld⟩]
          exact Bool.or_true _
      | ok found =>
          cases found with
          -- the namespace is gone: the spawn is taken back
          | false =>
              refine conforms_bind.mpr ((conforms_abortRunningSpawn
                ⟨intent, hheld, rfl⟩ _).mono fun r φ' h => ?_)
              cases r with
              | error e => exact h.completes e _
              | ok u => exact h.completes (.namespaceDeleted session.namespaceSlug) _
          -- the namespace is there: the second transaction
          | true =>
              refine conforms_bind.mpr (conforms_mapError.mpr (conforms_call.mpr
                ⟨trivial, fun r _ => ?_⟩))
              cases r with
              | error e =>
                  exact hunhandled (.store "failed to acquire session spawn Tx B connection")
              | ok u => exact conforms_commit hheld hcommit event onCommitFailure

/-! ## The spawn request -/

theorem conforms_runtimeSpawn {φ : Knowledge} {request : RuntimeSpawnRequest}
    (hserves : φ.Serves request) (hlaunchable : φ.launchable = true) :
    knowing.Conforms (runtimeSpawn request) φ fun r φ' => φ.Spends φ' ∧
      ∀ spawned, r = .ok spawned → CommitsTo request.sessionId spawned.lifecycle φ' := by
  refine conforms_call_bind.mpr
    ⟨trivial, fun _ _ => ?_, fun e _ => ⟨.inl (Grows.refl φ), of_error_eq_ok⟩⟩
  refine conforms_bind.mpr ((conforms_spawnDomain hserves hlaunchable).mono fun r φ' h => ?_)
  cases r with
  | error e => exact ⟨h.1, of_error_eq_ok⟩
  | ok outcome =>
      refine conforms_ofExcept.mpr ⟨h.1, fun spawned hspawned => ?_⟩
      cases outcome with
      | conflict e lc => cases hspawned
      | spawned lc event stdoutPath =>
          rw [spawnOutcome] at hspawned
          split at hspawned
          · cases hspawned
            exact h.2 lc event stdoutPath rfl
          · cases hspawned

/-- A running lifecycle of a well-formed intent makes a session. -/
theorem sessionOfIntent_ok {call : SpawnCall} {id : SessionId} {lc : Lifecycle} {φ : Knowledge}
    (h : CommitsTo id lc φ) (stdoutPath : Option String) (now : DateTime) :
    ∃ session, sessionOfIntent call.intent lc stdoutPath now = .ok session := by
  obtain ⟨-, hstate, hpid, -⟩ := h
  obtain ⟨pid, hpid⟩ := Option.isSome_iff_exists.mp hpid
  obtain ⟨-, -, hmin, hmax⟩ := of_decide_eq_true call.wellFormed
  rw [sessionOfIntent, SessionDraft.runningSession, if_neg (not_not.mpr hstate), hpid,
    timestampMillis, if_pos ⟨hmin, hmax⟩]
  exact ⟨_, rfl⟩

theorem runningEventFromLifecycle_ok {id : SessionId} {lc : Lifecycle} {φ : Knowledge}
    (h : CommitsTo id lc φ) (now : DateTime) :
    ∃ event, runningEventFromLifecycle lc now = .ok event := by
  obtain ⟨-, hstate, hpid, -⟩ := h
  obtain ⟨pid, hpid⟩ := Option.isSome_iff_exists.mp hpid
  rw [runningEventFromLifecycle, if_neg (not_not.mpr hstate), hpid]
  exact ⟨_, rfl⟩

/-- The monitor of a spawn that has begun its intent. -/
def begun (call : SpawnCall) : Knowledge := { held := [call.intent], launchable := true }

theorem serves_begun (call : SpawnCall) : (begun call).Serves call.intent.spawnRequest := by
  obtain ⟨hid, -⟩ := of_decide_eq_true call.wellFormed
  exact ⟨call.intent, List.mem_singleton_self _, rfl, hid⟩

/-- What is left of a spawn that holds one intent, when it has dropped it. -/
theorem spawnEnds_of_drops {φ φ' : Knowledge} {intent : PendingSpawnIntent}
    (hheld : φ.held = [intent]) (hcommitted : φ.committed = [])
    (h : φ.Drops intent.sessionId φ') : φ'.held = [] ∧ φ'.committed = [] := by
  refine ⟨List.eq_nil_iff_forall_not_mem.mpr fun other hother => ?_, h.committed.trans hcommitted⟩
  obtain ⟨hmem, hne⟩ := h.held other hother
  rw [hheld, List.mem_singleton] at hmem
  exact hne (congrArg PendingSpawnIntent.sessionId hmem)

/-- How the program of a spawn ends. -/
def SpawnDone (call : SpawnCall) (r : Except DaemonError Session) (φ : Knowledge) : Prop :=
  φ.reported = [] ∧
    match r with
    | .ok _ => call.intent.sessionId ∈ φ.committed
    | .error _ => φ.unhandled = true ∨ (φ.held = [] ∧ φ.committed = [])

theorem conforms_afterRuntimeSpawn (call : SpawnCall) {φ : Knowledge}
    (hspends : (begun call).Spends φ) (r : Except DaemonError SpawnedProcess)
    (hr : ∀ spawned, r = .ok spawned → CommitsTo call.intent.sessionId spawned.lifecycle φ) :
    knowing.Conforms (afterRuntimeSpawn call.intent r) φ (SpawnDone call) := by
  have hheld : φ.held = [call.intent] := hspends.held
  have hcommitted : φ.committed = [] := hspends.committed
  have hreported : φ.reported = [] := hspends.elim Grows.reported Grows.reported
  have hmem : call.intent ∈ φ.held := hheld ▸ List.mem_singleton_self _
  cases r with
  | error e =>
      refine conforms_bind.mpr ((conforms_abortSpawnIntent ⟨call.intent, hmem, rfl⟩ _).mono
        fun r φ' h => ?_)
      have hends := h.2.imp_right (spawnEnds_of_drops hheld hcommitted)
      cases r <;> exact ⟨h.1.reported.trans hreported, hends⟩
  | ok spawned =>
      have hcommits := hr spawned rfl
      refine conforms_call_bind.mpr ⟨trivial, fun now _ => ?_, fun e he => by cases he⟩
      obtain ⟨event, hevent⟩ := runningEventFromLifecycle_ok hcommits now
      rw [hevent]
      refine (conforms_completeSpawnIntent hmem hcommits event spawned.stdoutPath .abortRunning
        (.inr (sessionOfIntent_ok hcommits spawned.stdoutPath))).mono fun r φ' h => ?_
      refine ⟨h.1.reported.trans hreported, ?_⟩
      cases r with
      | ok session => exact h.2
      | error e =>
          rcases h.2 with hunhandled | hleave | hdrops
          · exact .inl hunhandled
          · cases hleave
          · exact .inr (spawnEnds_of_drops hheld hcommitted hdrops)

/-- A spawn commits its intent or drops it, unless it returns a failure as it is. -/
theorem conforms_spawn (call : SpawnCall) :
    knowing.Conforms (spawn call.intent) (first (.spawn call)) (SpawnDone call) := by
  refine conforms_bind.mpr (conforms_mapError.mpr (conforms_call.mpr ⟨trivial, fun r _ => ?_⟩))
  cases r with
  | error e => exact ⟨rfl, .inr ⟨rfl, rfl⟩⟩
  | ok found =>
      cases found with
      | false => exact ⟨rfl, .inr ⟨rfl, rfl⟩⟩
      | true =>
          refine conforms_call_bind.mpr
            ⟨rfl, fun _ _ => ?_, fun e _ => ⟨rfl, .inr ⟨rfl, rfl⟩⟩⟩
          have hid := (of_decide_eq_true call.wellFormed).1
          refine conforms_attempt_bind.mpr ((conforms_runtimeSpawn (serves_begun call) rfl).mono
            fun r φ' h => ?_)
          exact conforms_afterRuntimeSpawn call h.1 r fun spawned hr => hid ▸ h.2 spawned hr

/-! ## Coming up -/

theorem sessionId_of_lastRead {φ : Knowledge} {id : SessionId} {lc : Lifecycle}
    (h : φ.lastRead id = some lc) : lc.sessionId = id := by
  have hid := List.find?_some h
  exact of_decide_eq_true hid

/-- A running lifecycle that was read may be committed. -/
theorem commitsTo_of_read {φ : Knowledge} {id : SessionId} {old : Lifecycle}
    {logs : LogAvailability} (hread : φ.lastRead id = some old) (hstate : old.state = .running)
    {event : RuntimeEvent} {now : DateTime}
    (hevent : runningEventFromLifecycle { old with logAvailability := some logs } now =
      .ok event) : CommitsTo id { old with logAvailability := some logs } φ := by
  have hid : old.sessionId = id := sessionId_of_lastRead hread
  refine ⟨hid, hstate, ?_, old, ?_, ?_, rfl, .inl ⟨rfl, rfl⟩, ?_⟩
  · rw [runningEventFromLifecycle, if_neg (not_not.mpr hstate)] at hevent
    split at hevent
    · cases hevent
    · next hpid => exact Option.isSome_iff_exists.mpr ⟨_, hpid⟩
  · rw [← hread, hid]
  · rw [hstate]
    rfl
  · rw [hstate]
    trivial

/-- An intent that is reconciled is settled or left as it is. -/
theorem conforms_reconcilePendingSpawnIntent {φ : Knowledge} {intent : PendingSpawnIntent}
    (hheld : intent ∈ φ.held) :
    knowing.Conforms (reconcilePendingSpawnIntent intent) φ fun _ φ' =>
      φ.Keeps intent.sessionId φ' := by
  refine conforms_bind.mpr ((conforms_status φ _).mono fun r φ₁ h => ?_)
  obtain ⟨hgrows, hreported⟩ := h
  have h₁ := hgrows.keeps intent.sessionId
  have hheld₁ : intent ∈ φ₁.held := hgrows.held.symm ▸ hheld
  have habort : ∀ reason, knowing.Conforms (abortSpawnIntent intent.sessionId reason) φ₁
      fun _ φ' => φ.Keeps intent.sessionId φ' := fun reason =>
    (conforms_abortSpawnIntent ⟨intent, hheld₁, rfl⟩ reason).mono fun r φ₂ h₂ => h₁.trans h₂.1
  cases r with
  | error e => exact h₁
  | ok lcs =>
      rw [rest_ok]
      cases hfind : lcs.find? fun lc => lc.sessionId = intent.sessionId with
      -- the runtime knows nothing of the session
      | none => exact habort .runtimeLifecycleMissing
      | some lc =>
          obtain ⟨old, logs, hread, hlc⟩ := hreported lcs _ lc rfl hfind
          -- it knows it: the intent is completed when the lifecycle runs, and aborted otherwise
          show knowing.Conforms (if lc.state = .running then _ else _) _ _
          split
          · next hstate =>
              refine conforms_call_bind.mpr ⟨trivial, fun now _ => ?_, fun e _ => h₁⟩
              cases hevent : runningEventFromLifecycle lc now with
              | error e => exact h₁
              | ok event =>
                  subst hlc
                  have hcommits := commitsTo_of_read hread hstate hevent
                  refine conforms_bind.mpr (conforms_ofExcept.mpr (conforms_bind.mpr
                    ((conforms_completeSpawnIntent hheld₁ hcommits event none .leavePending
                      (.inl rfl)).mono fun r φ₂ h₂ => ?_)))
                  cases r <;> exact h₁.trans h₂.1
          · exact habort .runtimeLifecycleNotRunning

theorem conforms_reconcilePendingSpawnIntents {φ : Knowledge}
    (hbooting : φ.booting = some .built) (hheld : φ.held = []) (hreported : φ.reported = []) :
    knowing.Conforms reconcilePendingSpawnIntents φ fun _ φ' =>
      φ'.booting = some .built ∧ φ'.reported = [] := by
  refine conforms_bind.mpr (conforms_mapError.mpr (conforms_call.mpr
    ⟨⟨hbooting, hheld⟩, fun r hr => ?_⟩))
  cases r with
  | error e => exact ⟨hbooting, hreported⟩
  | ok pending =>
      -- what is left is still held: each round settles its own session only
      refine conforms_forEach (fun rest φ' => φ'.booting = some .built ∧ φ'.reported = [] ∧
        (∀ intent ∈ rest, intent ∈ φ'.held) ∧ (rest.map PendingSpawnIntent.sessionId).Nodup)
        ⟨hbooting, hreported, fun _ h => h, hr⟩ ?_ fun φ' h => ⟨h.1, h.2.1⟩
      intro intent rest φ₁ ⟨hbooting₁, hreported₁, hrest, hnodup⟩
      rw [List.map_cons, List.nodup_cons] at hnodup
      refine conforms_attempt_bind.mpr ((conforms_reconcilePendingSpawnIntent
        (hrest intent List.mem_cons_self)).mono fun r φ₂ h₂ => ?_)
      refine ⟨h₂.booting.trans hbooting₁, h₂.reported.trans hreported₁, ?_, hnodup.2⟩
      intro other hother
      refine h₂.held other (hrest other (List.mem_cons_of_mem _ hother)) fun hid => ?_
      exact hnodup.1 (List.mem_map.mpr ⟨other, hother, hid⟩)

/-- The end of a program that has reported nothing, or has failed to persist it. -/
def Reported {α : Type} (_ : Except DaemonError α) (φ : Knowledge) : Prop :=
  φ.reported = [] ∨ φ.faulted = true

theorem conforms_boot : knowing.Conforms boot (first .boot) Reported := by
  refine conforms_bind.mpr ((conforms_reconcileOnce (first .boot)).mono fun r φ₁ h₁ => ?_)
  have hreported : φ₁.reported = [] := h₁.reported
  cases r with
  | error e => exact .inl hreported
  | ok u =>
      refine conforms_call_bind.mpr ⟨h₁.booting, fun _ _ => ?_, fun e _ => .inl hreported⟩
      refine conforms_bind.mpr ((conforms_reconcilePendingSpawnIntents
        (φ := { φ₁ with booting := some .built }) rfl h₁.held hreported).mono fun r φ₂ h₂ => ?_)
      cases r with
      | error e => exact .inl h₂.2
      | ok u =>
          refine conforms_call.mpr ⟨h₂.1, fun r _ => ?_⟩
          cases r <;> exact .inl h₂.2

/-! ## Background tasks -/

/-- An exit that is persisted is off the list, or persisting it has failed. -/
def Persists (φ : Knowledge) (id : SessionId) (r : Except DaemonError Unit) (φ' : Knowledge) :
    Prop :=
  φ'.faulted = true ∨ (r = .ok () ∧ φ'.faulted = φ.faulted ∧
    φ'.reported = φ.reported.filter fun id' => id' ≠ id)

theorem conforms_persistChildExit (φ : Knowledge) (exit : ChildExit) :
    knowing.Conforms (persistChildExit exit) φ (Persists φ exit.sessionId) := by
  have hmark : knowing.Conforms (store (.markSessionTerminated exit.sessionId exit.exitCode)) φ
      (Persists φ exit.sessionId) := by
    refine conforms_call.mpr ⟨trivial, fun r _ => ?_⟩
    cases r with
    | ok u => exact .inr ⟨rfl, rfl, rfl⟩
    | error e => exact .inl rfl
  unfold persistChildExit
  cases exit.transcriptPath with
  | none => exact hmark
  | some path => exact conforms_call_bind.mpr ⟨trivial, fun _ _ => hmark, fun e _ => .inl rfl⟩

theorem conforms_refreshExits :
    knowing.Conforms refreshExits (first .refreshExits) Reported := by
  refine conforms_bind.mpr ((conforms_status (first .refreshExits) .empty).mono
    fun r φ₁ h₁ => ?_)
  have hreported : φ₁.reported = [] := h₁.1.reported
  cases r with
  | error e => exact .inl hreported
  | ok lcs =>
      refine conforms_call_bind.mpr ⟨trivial, fun exits _ => ?_, fun e _ => .inl hreported⟩
      -- as long as nothing has failed, the exits not yet persisted are those left
      refine conforms_forEach (fun rest φ' => ¬φ'.faulted = true →
        ∀ id ∈ φ'.reported, id ∈ rest.map ChildExit.sessionId) ?_ ?_ ?_
      · intro _ id hid
        rcases List.mem_append.mp hid with hid | hid
        · exact hid
        · rw [hreported] at hid
          cases hid
      · intro exit rest φ₂ hrest
        refine (conforms_persistChildExit φ₂ exit).mono fun r φ₃ h₃ => ?_
        rcases h₃ with hfaulted | ⟨rfl, hsame, hreported₃⟩
        · cases r with
          | error e => exact .inr hfaulted
          | ok u => exact fun hnot => absurd hfaulted hnot
        · intro hfaulted id hid
          rw [hreported₃, List.mem_filter] at hid
          have hne : id ≠ exit.sessionId := of_decide_eq_true hid.2
          rcases List.mem_cons.mp (hrest (hsame ▸ hfaulted) id hid.1) with rfl | hmem
          · exact absurd rfl hne
          · exact hmem
      · intro φ₂ hnone
        by_cases hfaulted : φ₂.faulted = true
        · exact .inr hfaulted
        · exact .inl (List.eq_nil_iff_forall_not_mem.mpr fun id hid => by
            cases hnone hfaulted id hid)

/-! ## The event loop -/

/-- Taking a turn of the event loop reports no exit. -/
theorem conforms_startEventLoop :
    knowing.Conforms startEventLoop (first .startEventLoop) Reported := by
  refine conforms_call_bind.mpr ⟨rfl, fun cursor _ => ?_, fun e _ => .inl rfl⟩
  refine conforms_call.mpr ⟨rfl, fun r _ => ?_⟩
  cases r <;> exact .inl rfl

theorem conforms_eventLoopRound :
    knowing.Conforms eventLoopRound (first .eventLoopRound) Reported := by
  refine conforms_call_bind.mpr ⟨rfl, fun cursor _ => ?_, fun e _ => .inl rfl⟩
  refine conforms_call_bind.mpr ⟨rfl, fun page _ => ?_, fun e _ => .inl rfl⟩
  refine conforms_attempt_bind.mpr (conforms_call.mpr ⟨rfl, fun r _ => ?_⟩)
  cases r with
  | ok u =>
      refine conforms_call.mpr ⟨rfl, fun r _ => ?_⟩
      cases r <;> exact .inl rfl
  | error e =>
      refine conforms_call.mpr ⟨rfl, fun r _ => ?_⟩
      cases r <;> exact .inl rfl

theorem conforms_removeNamespaceCatalog (slug : String) :
    knowing.Conforms (removeNamespaceCatalog slug) (first (.removeNamespaceCatalog slug))
      Reported := by
  refine conforms_call_bind.mpr ⟨trivial, fun active _ => ?_, fun e _ => .inl rfl⟩
  show knowing.Conforms (if 0 < active then _ else _) _ _
  split
  · exact .inl rfl
  · refine conforms_call_bind.mpr ⟨rfl, fun _ _ => ?_, fun e _ => .inl rfl⟩
    refine conforms_call_bind.mpr ⟨trivial, fun removed _ => ?_, fun e _ => .inl rfl⟩
    cases removed <;> exact .inl rfl

/-! ## All programs -/

theorem Grows.reported_nil {φ φ' : Knowledge} (h : φ.Grows φ') (hφ : φ.reported = []) :
    φ'.reported = [] ∨ φ'.faulted = true :=
  .inl (h.reported.trans hφ)

theorem conforms_quiet {α : Type} {p : DaemonProg α} {φ : Knowledge}
    (h : knowing.Conforms p φ Reported) : knowing.Conforms (quiet p) φ Reported := by
  refine conforms_bind.mpr (h.mono fun r φ' hreported => ?_)
  cases r <;> exact hreported

/-- A shim's request: the operations that follow a granted launch. -/
theorem conforms_shimLaunch (id : SessionId) :
    knowing.Conforms (shimLaunch id) (first (.shimLaunch id)) Reported := by
  have htake : knowing.Conforms (takeLaunchSpec id) (first (.shimLaunch id))
      fun _ φ' => φ' = first (.shimLaunch id) := by
    refine conforms_call_bind.mpr ⟨trivial, fun found _ => ?_, fun e _ => rfl⟩
    cases found <;> rfl
  refine conforms_bind.mpr (htake.mono fun r φ' h => ?_)
  subst h
  cases r with
  | error e => exact .inl rfl
  | ok u =>
      refine conforms_call.mpr ⟨trivial, fun r _ => ?_⟩
      cases r <;> exact .inl rfl

theorem conforms_shimReady (ready : ShimReady) :
    knowing.Conforms (shimReady ready) (first (.shimReady ready)) Reported := by
  have hready : (ready.sessionId, ready) ∈ (first (.shimReady ready)).readies :=
    List.mem_singleton_self _
  refine conforms_bind.mpr ((conforms_completeShimReady hready).mono fun r φ' h => ?_)
  have hreported := Grows.reported_nil h rfl
  cases r with
  | error e => exact hreported
  | ok u =>
      refine conforms_call.mpr ⟨trivial, fun r _ => ?_⟩
      cases r <;> exact hreported

theorem conforms_spawnRpc (call : SpawnCall) :
    knowing.Conforms (spawnRpc call.intent) (first (.spawn call)) (post (.spawn call)) := by
  refine conforms_bind.mpr ((conforms_spawn call).mono fun r φ' h => ?_)
  cases r <;> exact ⟨.inl h.1, h.2⟩

/-- Every program of the daemon keeps to the rules. -/
theorem conforms_program (origin : Origin) :
    knowing.Conforms origin.program (first origin) (post origin) := by
  have hquiet : ∀ {α : Type} {p : DaemonProg α} {φ : Knowledge},
      knowing.Conforms p φ Reported → knowing.Conforms (quiet p) φ fun _ φ' =>
        (φ'.reported = [] ∨ φ'.faulted = true) ∧ True := fun h =>
    (conforms_quiet h).mono fun r φ' hreported => ⟨hreported, trivial⟩
  have hgrown : ∀ {α : Type} {p : DaemonProg α} {φ : Knowledge}, φ.reported = [] →
      knowing.Conforms p φ φ.Grown → knowing.Conforms p φ Reported := fun hφ h =>
    h.mono fun r φ' hgrows => Grows.reported_nil hgrows hφ
  cases origin with
  | boot => exact hquiet conforms_boot
  | startEventLoop => exact hquiet conforms_startEventLoop
  | eventLoopRound => exact hquiet conforms_eventLoopRound
  | refreshExits => exact hquiet conforms_refreshExits
  | reconcileOnce => exact hquiet (hgrown rfl (conforms_reconcileOnce _))
  | removeNamespaceCatalog slug => exact hquiet (conforms_removeNamespaceCatalog slug)
  | spawn call => exact conforms_spawnRpc call
  | kill request => exact hquiet (hgrown rfl (conforms_killRuntime _ request))
  | shimLaunch id => exact hquiet (conforms_shimLaunch id)
  | shimReady ready => exact hquiet (conforms_shimReady ready)
  | shimExit exit =>
      exact hquiet (hgrown rfl (conforms_recordExited (List.mem_singleton_self _) _ _))
  | exitWatcher id =>
      exact hquiet (hgrown rfl (conforms_recordWatcherExit (List.mem_singleton_self _)))

end LittleOrgans.Concurrency
