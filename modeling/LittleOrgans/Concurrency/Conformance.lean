import LittleOrgans.Concurrency.Knowledge

/-!
# The runtime programs keep to the rules

Each program of the runtime daemon is checked against the monitor `knowing`, once
and from any knowledge that justifies its call. Most programs only gather facts
(`Grows`); the others say in their postcondition what they have learned or
settled. Nothing here depends on the world the programs run in.
-/

set_option autoImplicit false

namespace LittleOrgans.Concurrency

open LittleOrgans.Core
open LittleOrgans.Library
open LittleOrgans.Library.Monitor
open LittleOrgans.Store
open LittleOrgans.Daemon

namespace Knowledge

/-! ## Growing knowledge -/

/-- Facts were added, and the duties of the program are what they were. -/
structure Grows (φ φ' : Knowledge) : Prop where
  reads : φ.reads ⊆ φ'.reads
  readies : φ.readies ⊆ φ'.readies
  ended : φ.ended ⊆ φ'.ended
  unhandled : φ'.unhandled = φ.unhandled ∨ φ.committed ≠ []
  duties : φ' =
    { φ with
      reads := φ'.reads
      readies := φ'.readies
      ended := φ'.ended
      signalled := φ'.signalled
      unhandled := φ'.unhandled }

namespace Grows

variable {φ φ' φ'' : Knowledge}

theorem refl (φ : Knowledge) : φ.Grows φ :=
  ⟨List.Subset.refl _, List.Subset.refl _, List.Subset.refl _, .inl rfl, rfl⟩

theorem held (h : φ.Grows φ') : φ'.held = φ.held := by rw [h.duties]

theorem committed (h : φ.Grows φ') : φ'.committed = φ.committed := by rw [h.duties]

theorem booting (h : φ.Grows φ') : φ'.booting = φ.booting := by rw [h.duties]

theorem launchable (h : φ.Grows φ') : φ'.launchable = φ.launchable := by rw [h.duties]

theorem requested (h : φ.Grows φ') : φ'.requested = φ.requested := by rw [h.duties]

theorem reported (h : φ.Grows φ') : φ'.reported = φ.reported := by rw [h.duties]

theorem trans (h : φ.Grows φ') (h' : φ'.Grows φ'') : φ.Grows φ'' where
  reads := List.Subset.trans h.reads h'.reads
  readies := List.Subset.trans h.readies h'.readies
  ended := List.Subset.trans h.ended h'.ended
  unhandled := by
    rcases h'.unhandled with hu | hc
    · exact h.unhandled.imp (fun hu' => hu.trans hu') id
    · exact .inr (h.committed ▸ hc)
  duties := by rw [h'.duties, h.duties]

/-- Reads were added. -/
theorem reading (φ : Knowledge) (lcs : List Lifecycle) :
    φ.Grows { φ with reads := lcs ++ φ.reads } :=
  { refl φ with reads := List.subset_append_right _ _, duties := rfl, unhandled := .inl rfl }

/-- Ends were seen. -/
theorem seeing (φ : Knowledge) (ids : List SessionId) : φ.Grows (φ.seeEnded ids) :=
  { refl φ with ended := List.subset_append_right _ _, duties := rfl, unhandled := .inl rfl }

theorem holds (h : φ.Grows φ') {id : SessionId} : φ'.Holds id ↔ φ.Holds id := by
  rw [Holds, Holds, h.held]

theorem knowsDocker (h : φ.Grows φ') {id : SessionId} (hd : φ.KnowsDocker id) :
    φ'.KnowsDocker id := by
  obtain ⟨lc, hlc, hid, hi⟩ := hd
  exact ⟨lc, h.reads hlc, hid, hi⟩

/-- What justified a state still does. -/
theorem knowsEnd (h : φ.Grows φ') {id : SessionId} {state : LifecycleState}
    (he : φ.KnowsEnd id state) : φ'.KnowsEnd id state := by
  cases state with
  | forking => trivial
  | running => trivial
  | exited exit => exact h.ended he
  | lost evidence => exact he.imp (fun hmem => h.ended hmem) h.knowsDocker

end Grows

/-- The result of a program that only gathers facts. -/
def Grown {α : Type} (φ : Knowledge) (_ : Except DaemonError α) (φ' : Knowledge) : Prop :=
  φ.Grows φ'

/-- An append of an event leaves the facts as they are. -/
theorem Grows.next_appendEvent (φ : Knowledge) (event : RuntimeEvent)
    (r : Except DaemonError RuntimeEvent) : φ.Grows (φ.next (.log (.appendEvent event)) r) := by
  cases r with
  | ok event => exact .refl φ
  | error e =>
      refine { Grows.refl φ with unhandled := ?_, duties := rfl }
      cases hcommitted : φ.committed with
      | nil => exact .inl (by simp [next, afterLogError, hcommitted])
      | cons id rest => exact .inr (List.cons_ne_nil id rest)

end Knowledge

open Knowledge

/-! ## Terminal states -/

theorem conforms_isTerminal (φ : Knowledge) (id : SessionId) :
    knowing.Conforms (isTerminal id) φ φ.Grown := by
  refine conforms_attempt_bind.mpr (conforms_call.mpr ⟨trivial, fun r _ => ?_⟩)
  cases r with
  | error e => exact Grows.refl φ
  | ok found =>
      cases found with
      | none => exact Grows.reading φ []
      | some lc => exact Grows.reading φ [lc]

theorem conforms_finishTerminal (φ : Knowledge) (id : SessionId) (lc : Lifecycle)
    (evidence : TerminationEvidence) :
    knowing.Conforms (finishTerminal id lc evidence) φ φ.Grown := by
  refine conforms_call_bind.mpr ⟨trivial, fun _ _ => ?_, fun e _ => Grows.refl φ⟩
  refine conforms_call_bind.mpr ⟨trivial, fun inserted _ => ?_, fun e _ => Grows.refl φ⟩
  cases inserted with
  | false => exact Grows.refl φ
  | true =>
      refine conforms_call_bind.mpr ⟨trivial, fun event _ => Grows.refl φ, fun e _ => ?_⟩
      exact Grows.next_appendEvent φ (terminalEvent lc evidence) (.error e)

theorem lastRead_cons {φ : Knowledge} {lc : Lifecycle} {id : SessionId} (h : lc.sessionId = id) :
    { φ with reads := lc :: φ.reads }.lastRead id = some lc := by
  rw [lastRead, List.find?_cons_of_pos]
  exact decide_eq_true h

/-- A terminal state is recorded over a row that was read alive, for a runtime
that is known to have ended in this way. -/
theorem conforms_recordTerminal {φ : Knowledge} {id : SessionId} {evidence : TerminationEvidence}
    {mark : Lifecycle → Bool × Lifecycle} (state : LifecycleState)
    (hmark : ∀ {lc lc'}, mark lc = (true, lc') →
      lc.state.terminalKind = none ∧ lc' = { lc with state := state })
    (hend : φ.KnowsEnd id state) :
    knowing.Conforms (recordTerminal id evidence mark) φ φ.Grown := by
  refine conforms_call_bind.mpr ⟨trivial, fun found hfound => ?_, fun e _ => Grows.refl φ⟩
  cases found with
  | none => exact Grows.reading φ []
  | some lc =>
      have hid : lc.sessionId = id := hfound lc rfl
      have hread : φ.Grows { φ with reads := [lc] ++ φ.reads } := Grows.reading φ [lc]
      show knowing.Conforms (if (mark lc).1 = true then _ else _) _ _
      split
      · next hmarked =>
          obtain ⟨halive, hlc'⟩ := hmark (show mark lc = (true, (mark lc).2) by rw [← hmarked])
          have hwrite : { φ with reads := [lc] ++ φ.reads }.MayWrite (mark lc).2 := by
            refine ⟨lc, ?_, halive, ?_, .inl ?_, ?_⟩
            · rw [hlc']
              exact lastRead_cons rfl
            · rw [hlc']
            · rw [hlc']
              exact ⟨rfl, rfl⟩
            · rw [hlc']
              exact hread.knowsEnd (hid ▸ hend)
          refine conforms_call_bind.mpr ⟨hwrite, fun _ _ => ?_, fun e _ => hread⟩
          exact (conforms_finishTerminal _ id _ evidence).mono fun r φ' h => hread.trans h
      · exact hread

/-- What is done after a program that only gathers facts, whatever its result. -/
theorem conforms_attempt_forgetShim {α : Type} {φ : Knowledge} {p : DaemonProg α}
    (h : knowing.Conforms p φ φ.Grown) (id : SessionId) :
    knowing.Conforms
      (do
        let result ← p.attempt
        memory (.forgetShim id)
        Prog.ofExcept result) φ φ.Grown := by
  refine conforms_attempt_bind.mpr (h.mono fun result φ' hgrows => ?_)
  refine conforms_call_bind.mpr ⟨trivial, fun _ _ => ?_, fun e _ => hgrows⟩
  exact conforms_ofExcept.mpr hgrows

theorem conforms_recordExited {φ : Knowledge} {id : SessionId} (hended : id ∈ φ.ended)
    (exit : RuntimeExit) (evidence : TerminationEvidence) :
    knowing.Conforms (recordExited id exit evidence) φ φ.Grown :=
  conforms_attempt_forgetShim
    (conforms_recordTerminal (.exited exit) Lifecycle.markExited_eq_true hended) id

theorem conforms_recordLost {φ : Knowledge} {id : SessionId} {evidence : LostEvidence}
    (hend : φ.KnowsEnd id (.lost evidence)) :
    knowing.Conforms (recordLost id evidence) φ φ.Grown :=
  conforms_attempt_forgetShim
    (conforms_recordTerminal (.lost evidence) Lifecycle.markLost_eq_true hend) id

theorem conforms_watcherEvidence (φ : Knowledge) (id : SessionId) :
    knowing.Conforms (watcherEvidence id) φ φ.Grown := by
  refine conforms_call_bind.mpr ⟨trivial, fun found _ => ?_, fun e _ => Grows.refl φ⟩
  cases found with
  | none => exact Grows.reading φ []
  | some lc =>
      have hread : φ.Grows { φ with reads := [lc] ++ φ.reads } := Grows.reading φ [lc]
      dsimp only
      cases lc.shimPid with
      | none => exact hread
      | some shimPid =>
          refine conforms_call_bind.mpr ⟨trivial, fun alive _ => ?_, fun e _ => hread⟩
          cases alive with
          | true => exact hread
          | false => exact hread.trans (Grows.seeing _ _)

/-- The watcher of a runtime has seen it end. -/
theorem conforms_recordWatcherExit {φ : Knowledge} {id : SessionId} (hended : id ∈ φ.ended) :
    knowing.Conforms (recordWatcherExit id) φ φ.Grown := by
  refine conforms_bind.mpr ((conforms_isTerminal φ id).mono fun r φ₁ hgrows₁ => ?_)
  cases r with
  | error e => exact hgrows₁
  | ok terminal =>
      cases terminal with
      | true => exact hgrows₁
      | false =>
          refine conforms_bind.mpr ((conforms_watcherEvidence φ₁ id).mono fun r φ₂ hgrows₂ => ?_)
          have hgrows : φ.Grows φ₂ := hgrows₁.trans hgrows₂
          have hended₂ : id ∈ φ₂.ended := hgrows.ended hended
          cases r with
          | error e => exact hgrows
          | ok evidence =>
              cases evidence with
              | lost lost =>
                  have hend : φ₂.KnowsEnd id (.lost lost) := .inl hended₂
                  refine conforms_bind.mpr ((conforms_recordLost hend).mono
                    fun r φ₃ hgrows₃ => ?_)
                  cases r <;> exact hgrows.trans hgrows₃
              | processExit =>
                  refine conforms_bind.mpr ((conforms_recordExited hended₂ _ _).mono
                    fun r φ₃ hgrows₃ => ?_)
                  cases r <;> exact hgrows.trans hgrows₃
              | shimExit => exact hgrows

/-! ## Liveness of a host process -/

theorem mem_hostSessions {φ : Knowledge} {lc : Lifecycle} {pid : Pid} (hlc : lc ∈ φ.reads)
    (hhost : lc.isolation = .host) (hpid : lc.runtimePid = some pid) :
    lc.sessionId ∈ φ.hostSessions pid :=
  List.mem_map.mpr ⟨lc, List.mem_filter.mpr ⟨hlc, decide_eq_true ⟨hhost, hpid⟩⟩, rfl⟩

theorem mem_otherStartSessions {φ : Knowledge} {lc : Lifecycle} {pid : Pid}
    {stored startTime : DateTime} (hlc : lc ∈ φ.reads) (hhost : lc.isolation = .host)
    (hpid : lc.runtimePid = some pid) (hstored : lc.startTime = some stored)
    (hne : startTime ≠ stored) : lc.sessionId ∈ φ.otherStartSessions pid startTime := by
  refine List.mem_map.mpr ⟨lc, List.mem_filter.mpr ⟨hlc, decide_eq_true ⟨hhost, hpid, ?_⟩⟩, rfl⟩
  rw [hstored]
  simpa using Ne.symm hne

/-- The runtime of a lifecycle that was read is lost only when it was seen to end. -/
def SeesLoss (φ : Knowledge) (id : SessionId) (r : Except DaemonError (Option LostEvidence))
    (φ' : Knowledge) : Prop :=
  φ.Grows φ' ∧ ∀ evidence, r = .ok (some evidence) → id ∈ φ'.ended

theorem seesLoss_of_ended {φ φ' : Knowledge} {id : SessionId}
    {r : Except DaemonError (Option LostEvidence)} (hgrows : φ.Grows φ') (h : id ∈ φ'.ended) :
    SeesLoss φ id r φ' :=
  ⟨hgrows, fun _ _ => h⟩

theorem seesLoss_none {φ φ' : Knowledge} {id : SessionId} (hgrows : φ.Grows φ') :
    SeesLoss φ id (.ok none) φ' :=
  ⟨hgrows, fun _ h => by cases h⟩

theorem seesLoss_error {φ φ' : Knowledge} {id : SessionId} {e : DaemonError}
    (hgrows : φ.Grows φ') : SeesLoss φ id (.error e) φ' :=
  ⟨hgrows, fun _ h => by cases h⟩

theorem conforms_hostProcessLostEvidence {φ : Knowledge} {lc : Lifecycle} {pid : Pid}
    (hlc : lc ∈ φ.reads) (hhost : lc.isolation = .host) (hpid : lc.runtimePid = some pid) :
    knowing.Conforms (hostProcessLostEvidence pid lc.startTime) φ (SeesLoss φ lc.sessionId) := by
  have hsee : φ.Grows (φ.seeEnded (φ.hostSessions pid)) := Grows.seeing φ _
  have hgone : lc.sessionId ∈ (φ.seeEnded (φ.hostSessions pid)).ended :=
    List.mem_append_left _ (mem_hostSessions hlc hhost hpid)
  refine conforms_call_bind.mpr
    ⟨trivial, fun alive _ => ?_, fun e _ => seesLoss_error (Grows.refl φ)⟩
  cases alive with
  | false => exact seesLoss_of_ended hsee hgone
  | true =>
      cases hstored : lc.startTime with
      | none => exact seesLoss_none (Grows.refl φ)
      | some stored =>
          refine conforms_attempt_bind.mpr (conforms_call.mpr ⟨trivial, fun r _ => ?_⟩)
          -- the pid is polled once more when its start time cannot be read
          have hpoll : ∀ p : DaemonProg (Option LostEvidence),
              knowing.Conforms p φ (SeesLoss φ lc.sessionId) →
              knowing.Conforms (os (.pidAlive pid) >>= fun alive =>
                if alive = true then p else pure (some .pidNotAlive)) φ
                (SeesLoss φ lc.sessionId) := by
            intro p hp
            refine conforms_call_bind.mpr
              ⟨trivial, fun alive _ => ?_, fun e _ => seesLoss_error (Grows.refl φ)⟩
            cases alive with
            | true => exact hp
            | false => exact seesLoss_of_ended hsee hgone
          cases r with
          | error e => exact hpoll (.fail e) (seesLoss_error (Grows.refl φ))
          | ok found =>
              cases found with
              | gone => exact seesLoss_of_ended hsee hgone
              | unsupported => exact hpoll (pure none) (seesLoss_none (Grows.refl φ))
              | known startTime =>
                  have hgrows := Grows.seeing φ (φ.otherStartSessions pid startTime)
                  show knowing.Conforms (if startTime = stored then _ else _) _ _
                  split
                  · exact seesLoss_none hgrows
                  · next hne =>
                      refine seesLoss_of_ended hgrows (List.mem_append_left _ ?_)
                      exact mem_otherStartSessions hlc hhost hpid hstored hne

/-! ## Kill -/

/-- No answer of the operating system takes a fact away. -/
theorem Grows.next_os (φ : Knowledge) {o : OsOp} (hlaunch : ∀ request, o ≠ .launchShim request)
    (r : Except DaemonError o.Res) :
    φ.Grows (φ.next (.os o) r) := by
  have hsignal : ∀ φ' : Knowledge, φ.Grows φ' → ∀ ids,
      φ.Grows { φ' with signalled := ids ++ φ'.signalled } := fun φ' h ids =>
    h.trans { Grows.refl φ' with duties := rfl, unhandled := .inl rfl }
  cases r with
  | error e => exact .refl φ
  | ok a =>
      cases o with
      -- Answers that say nothing about a runtime, then those that show an end.
      | now => exact .refl φ
      | rounds => exact .refl φ
      | sleep => exact .refl φ
      | checkIsolation request => exact .refl φ
      | prepareLaunch request => exact .refl φ
      | isTmuxAlive address => exact .refl φ
      | logAvailability lc => exact .refl φ
      | deliverLaunch id => exact .refl φ
      | ackReady id => exact .refl φ
      | launchShim request => exact absurd rfl (hlaunch request)
      | pidAlive pid =>
          cases a with
          | true => exact .refl φ
          | false => exact .seeing φ _
      | startTimeForPid pid =>
          cases a with
          | known startTime => exact .seeing φ _
          | gone => exact .seeing φ _
          | unsupported => exact .refl φ
      | sendSignal pid signal =>
          show φ.Grows (if a = .alreadyExited ∨ signal = .kill then _ else φ)
          split
          · exact .seeing φ _
          · exact .refl φ
      | dockerRunning id =>
          show φ.Grows (if a = false ∧ id ∈ φ.signalled then _ else φ)
          split
          · exact .seeing φ _
          · exact .refl φ
      | dockerKill id signal =>
          cases a with
          | alreadyExited =>
              show φ.Grows (if φ.knowsStarted id = true then _ else φ)
              split
              · exact .seeing φ _
              · exact .refl φ
          | signalled =>
              show φ.Grows { (if signal = .kill then φ.seeEnded [id] else φ) with
                signalled := [id] ++ (if signal = .kill then φ.seeEnded [id] else φ).signalled }
              refine hsignal _ ?_ [id]
              split
              · exact .seeing φ _
              · exact .refl φ

/-- An operation of the operating system other than a launch. -/
theorem conforms_os (φ : Knowledge) {o : OsOp} (hlaunch : ∀ request, o ≠ .launchShim request) :
    knowing.Conforms (os o) φ φ.Grown := by
  refine conforms_call.mpr ⟨?_, fun r _ => Grows.next_os φ hlaunch r⟩
  cases o <;> first | trivial | exact absurd rfl (hlaunch _)

theorem conforms_sendSignal (φ : Knowledge) (target : KillTarget) (signal : RuntimeSignal) :
    knowing.Conforms (target.sendSignal signal) φ φ.Grown := by
  cases target with
  | host pid => exact conforms_os φ nofun
  | docker id => exact conforms_os φ nofun

theorem conforms_sendKill (φ : Knowledge) (target : KillTarget) :
    knowing.Conforms target.sendKill φ φ.Grown := by
  cases target with
  | host pid =>
      refine conforms_bind.mpr ((conforms_os φ (o := .sendSignal pid .kill) nofun).mono
        fun r φ' hgrows => ?_)
      cases r with
      | error e => exact hgrows
      | ok outcome => cases outcome <;> exact hgrows
  | docker id =>
      refine conforms_bind.mpr ((conforms_os φ (o := .dockerKill id .kill) nofun).mono
        fun r φ' hgrows => ?_)
      cases r <;> exact hgrows

theorem conforms_isAlive (φ : Knowledge) (target : KillTarget) :
    knowing.Conforms target.isAlive φ φ.Grown := by
  cases target with
  | host pid => exact conforms_os φ nofun
  | docker id => exact conforms_os φ nofun

theorem conforms_killRounds (target : KillTarget) (id : SessionId) (n : Nat) (φ : Knowledge) :
    knowing.Conforms (killRounds target id n) φ φ.Grown := by
  induction n generalizing φ with
  | zero => exact Grows.refl φ
  | succ n ih =>
      refine conforms_bind.mpr ((conforms_isTerminal φ id).mono fun r φ₁ hgrows₁ => ?_)
      cases r with
      | error e => exact hgrows₁
      | ok terminal =>
          cases terminal with
          | true => exact hgrows₁
          | false =>
              refine conforms_bind.mpr ((conforms_isAlive φ₁ target).mono fun r φ₂ hgrows₂ => ?_)
              have hgrows := hgrows₁.trans hgrows₂
              cases r with
              | error e => exact hgrows
              | ok alive =>
                  cases alive with
                  | true =>
                      refine conforms_bind.mpr ((conforms_os φ₂ (o := .sleep) nofun).mono
                        fun r φ₃ hgrows₃ => ?_)
                      have hslept := hgrows.trans hgrows₃
                      cases r with
                      | error e => exact hslept
                      | ok _ => exact (ih φ₃).mono fun r φ₄ hgrows₄ => hslept.trans hgrows₄
                  | false => exact hgrows

theorem conforms_runKillLoop (φ : Knowledge) (target : KillTarget) (id : SessionId)
    (signal : RuntimeSignal) :
    knowing.Conforms (runKillLoop target id signal) φ φ.Grown := by
  refine conforms_bind.mpr ((conforms_sendSignal φ target signal).mono fun r φ₁ h₁ => ?_)
  cases r with
  | error e => exact h₁
  | ok outcome =>
      cases outcome with
      | alreadyExited => exact h₁
      | signalled =>
          -- how many times the loop polls is the environment's choice
          refine conforms_call_bind.mpr ⟨trivial, fun rounds _ => ?_, fun e _ => h₁⟩
          refine conforms_bind.mpr ((conforms_killRounds target id rounds φ₁).mono
            fun r φ₂ hgrows₂ => ?_)
          have h₂ := h₁.trans hgrows₂
          cases r with
          | error e => exact h₂
          | ok found =>
              cases found with
              | true => exact h₂
              | false =>
                  refine conforms_bind.mpr ((conforms_isAlive φ₂ target).mono
                    fun r φ₃ hgrows₃ => ?_)
                  have h₃ := h₂.trans hgrows₃
                  cases r with
                  | error e => exact h₃
                  | ok alive =>
                      cases alive with
                      | false => exact h₃
                      | true =>
                          -- the grace is over: only a signal weaker than KILL is escalated
                          show knowing.Conforms (if signal = .kill then _ else _) _ _
                          split
                          · exact h₃
                          · refine conforms_bind.mpr ((conforms_sendKill φ₃ target).mono
                              fun r φ₄ hgrows₄ => ?_)
                            cases r <;> exact h₃.trans hgrows₄

theorem conforms_killRuntime (φ : Knowledge) (request : KillRequest) :
    knowing.Conforms (killRuntime request) φ φ.Grown := by
  refine conforms_call_bind.mpr ⟨trivial, fun found hfound => ?_, fun e _ => Grows.refl φ⟩
  cases found with
  | none => exact Grows.reading φ []
  | some lc =>
      -- the row that is read is the row of the session to be killed
      have hid : lc.sessionId = request.sessionId := hfound lc rfl
      have hread : φ.Grows { φ with reads := [lc] ++ φ.reads } := Grows.reading φ [lc]
      dsimp only
      cases hisolation : lc.isolation with
      | docker profile =>
          -- docker is asked by the container's name, so there is no pid to doubt
          exact (conforms_runKillLoop _ _ _ _).mono fun r φ' h => hread.trans h
      | host =>
          dsimp only
          cases hpid : lc.runtimePid with
          | none => exact hread
          | some pid =>
              refine conforms_bind.mpr ((conforms_hostProcessLostEvidence
                (List.mem_cons_self) hisolation hpid).mono fun r φ₁ hsees => ?_)
              have h₁ := hread.trans hsees.1
              have hloop : knowing.Conforms
                  (runKillLoop (.host pid) request.sessionId request.signal) φ₁ φ.Grown :=
                (conforms_runKillLoop _ _ _ _).mono fun r φ' h => h₁.trans h
              cases r with
              | error e => exact h₁
              | ok found =>
                  cases found with
                  | none => exact hloop
                  | some evidence =>
                      cases evidence with
                      -- evidence that does not show a reused pid does not stop the signal
                      | shimDiedBeforeReport => exact hloop
                      | pidNotAlive => exact hloop
                      | unknown => exact hloop
                      | pidReuseDetected =>
                          -- the pid is another process's now: the session is recorded as lost, with
                          -- evidence
                          have hended : request.sessionId ∈ φ₁.ended := hid ▸ hsees.2 _ rfl
                          refine conforms_bind.mpr ((conforms_recordLost (.inl hended)).mono
                            fun r φ₂ hgrows₂ => ?_)
                          cases r <;> exact h₁.trans hgrows₂

/-! ## Reconciliation -/

theorem conforms_lostEvidence {φ : Knowledge} {lc : Lifecycle} (hlc : lc ∈ φ.reads) :
    knowing.Conforms (lostEvidence lc) φ fun r φ' =>
      φ.Grows φ' ∧ ∀ evidence, r = .ok (some evidence) →
        φ'.KnowsEnd lc.sessionId (.lost evidence) := by
  unfold lostEvidence
  cases hisolation : lc.isolation with
  | host =>
      dsimp only
      cases hpid : lc.runtimePid with
      | none => exact ⟨Grows.refl φ, fun _ h => by cases h⟩
      | some pid =>
          refine (conforms_hostProcessLostEvidence hlc hisolation hpid).mono fun r φ' h => ?_
          exact ⟨h.1, fun evidence hr => .inl (h.2 evidence hr)⟩
  | docker profile =>
      have hdocker : φ.KnowsDocker lc.sessionId :=
        ⟨lc, hlc, rfl, fun h => by rw [hisolation] at h; cases h⟩
      refine conforms_bind.mpr ((conforms_os _ (o := .dockerRunning lc.sessionId) nofun).mono
        fun r φ' hgrows => ?_)
      cases r with
      | error e => exact ⟨hgrows, fun _ h => by cases h⟩
      | ok running =>
          cases running with
          | true => exact ⟨hgrows, fun _ h => by cases h⟩
          | false => exact ⟨hgrows, fun _ _ => .inr (hgrows.knowsDocker hdocker)⟩

theorem conforms_reconcileRunning {φ : Knowledge} {lc : Lifecycle} (hlc : lc ∈ φ.reads) :
    knowing.Conforms (reconcileRunning lc) φ φ.Grown := by
  refine conforms_bind.mpr ((conforms_lostEvidence hlc).mono fun r φ₁ h => ?_)
  obtain ⟨hgrows, hend⟩ := h
  cases r with
  | error e => exact hgrows
  | ok found =>
      cases found with
      | some evidence =>
          refine conforms_bind.mpr ((conforms_recordLost (hend evidence rfl)).mono
            fun r φ₂ hgrows₂ => ?_)
          cases r <;> exact hgrows.trans hgrows₂
      | none =>
          rw [rest_ok]
          cases hpid : lc.runtimePid with
          | none => exact hgrows
          | some pid =>
              refine conforms_call.mpr ⟨.inl ⟨lc, hgrows.reads hlc, rfl, hpid⟩, fun r _ => ?_⟩
              cases r <;> exact hgrows

theorem conforms_reconcileOnce (φ : Knowledge) :
    knowing.Conforms reconcileOnce φ φ.Grown := by
  refine conforms_call_bind.mpr ⟨trivial, fun running _ => ?_, fun e _ => Grows.refl φ⟩
  have hread : φ.Grows { φ with reads := running ++ φ.reads } := Grows.reading φ running
  refine conforms_bind.mpr (conforms_forEach
    (fun rest φ' => φ.Grows φ' ∧ ∀ lc ∈ rest, lc ∈ φ'.reads) ⟨hread, ?_⟩ ?_ ?_)
  · exact fun lc hlc => List.mem_append_left _ hlc
  · intro lc rest φ₁ ⟨hgrows₁, hrest⟩
    refine (conforms_reconcileRunning (hrest lc List.mem_cons_self)).mono fun r φ₂ hgrows₂ => ?_
    cases r with
    | error e => exact hgrows₁.trans hgrows₂
    | ok u =>
        refine ⟨hgrows₁.trans hgrows₂, fun lc' hlc' => hgrows₂.reads ?_⟩
        exact hrest lc' (List.mem_cons_of_mem lc hlc')
  · intro φ₁ ⟨hgrows₁, _⟩
    refine conforms_call.mpr ⟨trivial, fun r _ => ?_⟩
    cases r <;> exact hgrows₁

end LittleOrgans.Concurrency
