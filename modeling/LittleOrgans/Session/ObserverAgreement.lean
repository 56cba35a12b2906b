import LittleOrgans.Session.Observers

/-!
# Do the observers agree?

Each observer, taken as a whole pass, translates the end of a runtime into the
state, exit code and evidence of the session row. `observers_agree_iff` says when
every order of observations of a terminal lifecycle leaves the row that the
lifecycle asks for: exactly when the runtime exited. For a lost runtime the
reaper records an exit without a code (`reaper_misreports_loss`).
-/

set_option autoImplicit false

namespace LittleOrgans.Session

open LittleOrgans.Core
open LittleOrgans.Library
open LittleOrgans.Store
open LittleOrgans.Daemon

/-! ## Whole passes -/

/-- `refresh_exits`: one pass of the lifecycle task. -/
def refreshExits (s : ObserverState) (logs : LogAnswers) (now : DateTime) : ObserverState :=
  let next := reapExited s.terminalSessions (status s.db .empty logs)
  { s with
    db := next.1.foldl (fun db exit => persistChildExit db exit now) s.db
    terminalSessions := next.2 }

/-- `reconcile_lifecycles` over the lifecycles of a status request. -/
def reconcileOnce (s : ObserverState) (logs : LogAnswers) (now : DateTime) : ObserverState :=
  { s with
    db := (status s.db .empty logs).foldl (fun db lc => reconcileLifecycle db lc now) s.db }

/-- A pass of the reaper is the step that reaps, then one step for each exit. -/
theorem refreshExits_eq_run (s : ObserverState) (logs : LogAnswers) (now : DateTime)
    (h : s.reaped = []) :
    refreshExits s logs now =
      s.run (.reapExited logs ::
        List.replicate (reapExited s.terminalSessions (status s.db .empty logs)).1.length
          (.persistChildExit now)) := by
  have hpersist : ∀ (exits : List ChildExit) (s : ObserverState), s.reaped = exits →
      s.run (List.replicate exits.length (.persistChildExit now)) =
        { s with
          db := exits.foldl (fun db exit => persistChildExit db exit now) s.db
          reaped := [] } := by
    intro exits
    induction exits with
    | nil =>
        rintro ⟨db, terminalSessions, reaped, loaded⟩ hreaped
        cases hreaped
        rfl
    | cons exit rest ih =>
        rintro ⟨db, terminalSessions, reaped, loaded⟩ hreaped
        cases hreaped
        exact ih ⟨persistChildExit db exit now, terminalSessions, rest, loaded⟩ rfl
  rcases s with ⟨db, terminalSessions, reaped, loaded⟩
  cases h
  exact (hpersist _ (ObserverState.step ⟨db, terminalSessions, [], loaded⟩ (.reapExited logs))
    (List.nil_append _)).symm

/-- A reconciliation is the step that loads the lifecycles, then one step for each. -/
theorem reconcileOnce_eq_run (s : ObserverState) (logs : LogAnswers) (now : DateTime)
    (h : s.loaded = []) :
    reconcileOnce s logs now =
      s.run (.loadStatus logs ::
        List.replicate (status s.db .empty logs).length (.reconcileNext now)) := by
  have hreconcile : ∀ (lcs : List Lifecycle) (s : ObserverState), s.loaded = lcs →
      s.run (List.replicate lcs.length (.reconcileNext now)) =
        { s with
          db := lcs.foldl (fun db lc => reconcileLifecycle db lc now) s.db
          loaded := [] } := by
    intro lcs
    induction lcs with
    | nil =>
        rintro ⟨db, terminalSessions, reaped, loaded⟩ hloaded
        cases hloaded
        rfl
    | cons lc rest ih =>
        rintro ⟨db, terminalSessions, reaped, loaded⟩ hloaded
        cases hloaded
        exact ih ⟨reconcileLifecycle db lc now, terminalSessions, reaped, rest⟩ rfl
  rcases s with ⟨db, terminalSessions, reaped, loaded⟩
  cases h
  exact (hreconcile _ (ObserverState.step ⟨db, terminalSessions, reaped, []⟩ (.loadStatus logs))
    (List.nil_append _)).symm

/-! ## Observations of one lifecycle -/

/-- How a session ended: what all three observers write. -/
structure Outcome where
  state : SessionStateName
  exitCode : Option Int
  lostEvidence : Option LostEvidence
  deriving DecidableEq

def EndFacts.outcome (facts : EndFacts) : Outcome :=
  ⟨facts.state, facts.exitCode, facts.lostEvidence⟩

/-- The outcome a lifecycle asks for; `none` while it has not ended. -/
def lifecycleOutcome (lc : Lifecycle) : Option Outcome :=
  match lc.state with
  | .forking => none
  | .running => none
  | .exited exit => some ⟨.terminated, exit.code, none⟩
  | .lost evidence => some ⟨.lost, none, some evidence⟩

/-- A pass of one of the observers, or a restart of the daemon between passes. -/
inductive Observation where
  | events (batch : List RuntimeEvent) (nextCursor : EventCursor) (now : DateTime)
  | reaper (logs : LogAnswers) (now : DateTime)
  | reconciler (logs : LogAnswers) (now : DateTime)
  | restart

def observe (s : ObserverState) : Observation → ObserverState
  | .events batch nextCursor now =>
      { s with db := s.db.applyRuntimeEventsAndCursor batch nextCursor now }
  | .reaper logs now => refreshExits s logs now
  | .reconciler logs now => reconcileOnce s logs now
  | .restart => .started s.db

/-- The evidence with which a terminal state is reported as an event. -/
def ReportedWith : LifecycleState → TerminationEvidence → Prop
  | .exited _, .shimExit => True
  | .exited _, .processExit => True
  | .lost evidence, .lost evidence' => evidence' = evidence
  | _, _ => False

/-- An event reports the end of `lc`. -/
def ReportsEnd (lc : Lifecycle) (event : RuntimeEvent) : Prop :=
  ∃ evidence, ReportedWith lc.state evidence ∧ event = terminalEvent lc evidence

/-- An observation of `lc` as it is: the events of its session are running events
and reports of its end. -/
def Observation.Genuine (lc : Lifecycle) : Observation → Prop
  | .events batch _ _ =>
      ∀ event ∈ batch, event.sessionId = lc.sessionId → event.isTerminal = true →
        ReportsEnd lc event
  | .reaper _ _ => True
  | .reconciler _ _ => True
  | .restart => True

/-- An observation that sees the end of `lc`. -/
def Observation.Sees (lc : Lifecycle) : Observation → Prop
  | .events batch _ _ =>
      ∃ event ∈ batch, event.sessionId = lc.sessionId ∧ event.isTerminal = true
  | .reaper _ _ => True
  | .reconciler _ _ => True
  | .restart => False

/-- Every order of genuine observations that see the end of `lc` at least once
leaves the outcome `lc` asks for. -/
def ObserversAgree (s : ObserverState) (lc : Lifecycle) : Prop :=
  ∀ observations : List Observation, (∀ o ∈ observations, o.Genuine lc) →
    (∃ o ∈ observations, o.Sees lc) →
    ∃ facts, endFacts (observations.foldl observe s).db lc.sessionId = some facts ∧
      some facts.outcome = lifecycleOutcome lc

/-- No observer has seen the session end yet. -/
structure Unended (facts : EndFacts) : Prop where
  active : facts.state.isActive = true
  exitCode : facts.exitCode = none
  lostEvidence : facts.lostEvidence = none

/-- The end facts of `id` satisfy `p`. -/
def FactsSatisfy (id : SessionId) (p : EndFacts → Prop) (db : Database) : Prop :=
  ∃ facts, endFacts db id = some facts ∧ p facts

/-- A fold with elements that decide and elements that change nothing: one
deciding element is enough, wherever it stands. -/
theorem foldl_decides {σ α : Type} (f : σ → α → σ) (Open Decided : σ → Prop)
    (Decides : α → Prop) (hopen : ∀ s, Decided s → Open s) (l : List α)
    (hdecides : ∀ a ∈ l, Decides a → ∀ s, Open s → Decided (f s a))
    (hother : ∀ a ∈ l, ¬Decides a → ∀ s, (Open s → Open (f s a)) ∧ (Decided s → Decided (f s a)))
    (s : σ) :
    (Open s → Open (l.foldl f s)) ∧ (Decided s → Decided (l.foldl f s)) ∧
      (Open s → (∃ a ∈ l, Decides a) → Decided (l.foldl f s)) := by
  induction l generalizing s with
  | nil =>
      refine ⟨fun h => h, fun h => h, ?_⟩
      rintro - ⟨a, ha, -⟩
      exact absurd ha List.not_mem_nil
  | cons a l ih =>
      have hrest := ih (fun b hb => hdecides b (List.mem_cons_of_mem _ hb))
        (fun b hb => hother b (List.mem_cons_of_mem _ hb)) (f s a)
      rw [List.foldl_cons]
      by_cases ha : Decides a
      · have hnow := hdecides a List.mem_cons_self ha s
        exact ⟨fun h => hrest.1 (hopen _ (hnow h)), fun h => hrest.2.1 (hnow (hopen s h)),
          fun h _ => hrest.2.1 (hnow h)⟩
      · have hnow := hother a List.mem_cons_self ha s
        refine ⟨fun h => hrest.1 (hnow.1 h), fun h => hrest.2.1 (hnow.2 h), ?_⟩
        rintro h ⟨b, hb, hbdecides⟩
        rcases List.mem_cons.mp hb with rfl | hb
        · exact absurd hbdecides ha
        · exact hrest.2.2 (hnow.1 h) ⟨b, hb, hbdecides⟩

/-! ## The reaper -/

theorem mem_status {db : Database} {filter : StatusFilter} {logs : LogAnswers}
    {lc : Lifecycle} (h : lc ∈ status db filter logs) :
    ∃ stored, db.getLifecycle lc.sessionId = some stored ∧
      lc = populateLogAvailability logs stored := by
  obtain ⟨stored, hstored, rfl⟩ := List.mem_map.mp h
  exact ⟨stored, (Database.mem_listLifecycles.mp hstored).2, rfl⟩

theorem mem_status_of_getLifecycle {db : Database} {id : SessionId} {lc : Lifecycle}
    (h : db.getLifecycle id = some lc) (logs : LogAnswers) :
    populateLogAvailability logs lc ∈ status db .empty logs := by
  have hid := Database.sessionId_of_getLifecycle h
  subst hid
  exact List.mem_map.mpr ⟨lc, Database.mem_listLifecycles.mpr ⟨rfl, h⟩, rfl⟩

/-- What a pass of `reap_exited` reports is the exit of a lifecycle it was given. -/
theorem mem_reapExited {terminalSessions : List SessionId} {lcs : List Lifecycle}
    {exit : ChildExit} (h : exit ∈ (reapExited terminalSessions lcs).1) :
    ∃ lc ∈ lcs, terminalChildExit lc = some exit := by
  induction lcs generalizing terminalSessions with
  | nil => exact absurd h List.not_mem_nil
  | cons lc lcs ih =>
      rw [reapExited] at h
      cases hexit : terminalChildExit lc with
      | none =>
          rw [hexit] at h
          obtain ⟨lc', hlc', h'⟩ := ih h
          exact ⟨lc', List.mem_cons_of_mem _ hlc', h'⟩
      | some exit' =>
          rw [hexit] at h
          simp only at h
          split at h
          · obtain ⟨lc', hlc', h'⟩ := ih h
            exact ⟨lc', List.mem_cons_of_mem _ hlc', h'⟩
          · rcases List.mem_cons.mp h with rfl | h
            · exact ⟨lc, List.mem_cons_self, hexit⟩
            · obtain ⟨lc', hlc', h'⟩ := ih h
              exact ⟨lc', List.mem_cons_of_mem _ hlc', h'⟩

/-- The driver's set after a pass: what it was, and the sessions reported. -/
theorem mem_terminalSessions_reapExited {terminalSessions : List SessionId}
    {lcs : List Lifecycle} {id : SessionId} :
    id ∈ (reapExited terminalSessions lcs).2 ↔
      id ∈ terminalSessions ∨
        ∃ exit ∈ (reapExited terminalSessions lcs).1, exit.sessionId = id := by
  induction lcs generalizing terminalSessions with
  | nil => simp [reapExited]
  | cons lc lcs ih =>
      rw [reapExited]
      cases hexit : terminalChildExit lc with
      | none => exact ih
      | some exit =>
          simp only
          split
          · exact ih
          · have hid := (terminalChildExit_eq_some hexit).1
            rw [ih]
            simp only [List.mem_cons, exists_eq_or_imp, hid]
            constructor
            · rintro ((rfl | h) | h)
              · exact .inr (.inl rfl)
              · exact .inl h
              · exact .inr (.inr h)
            · rintro (h | rfl | h)
              · exact .inl (.inr h)
              · exact .inl (.inl rfl)
              · exact .inr h

/-- A terminal lifecycle of a session the driver has not reported is reported. -/
theorem mem_terminalSessions_of_terminal {terminalSessions : List SessionId}
    {lcs : List Lifecycle} {lc : Lifecycle} {id : SessionId} (hlc : lc ∈ lcs)
    (hid : lc.sessionId = id) (hterminal : lc.state.isTerminal = true) :
    id ∈ (reapExited terminalSessions lcs).2 := by
  subst hid
  induction lcs generalizing terminalSessions with
  | nil => exact absurd hlc List.not_mem_nil
  | cons lc' lcs ih =>
      rw [reapExited]
      rcases List.mem_cons.mp hlc with rfl | hlc
      · cases hexit : terminalChildExit lc with
        | none =>
            rw [terminalChildExit_eq_none_iff, hterminal] at hexit
            cases hexit
        | some exit =>
            simp only
            split
            · next hmem => exact mem_terminalSessions_reapExited.mpr (.inl hmem)
            · exact mem_terminalSessions_reapExited.mpr (.inl List.mem_cons_self)
      · cases terminalChildExit lc' with
        | none => exact ih hlc
        | some exit =>
            simp only
            split
            · exact ih hlc
            · exact ih hlc

/-- A pass over the stored lifecycles reports a terminal one that is not in the
driver's set. -/
theorem exists_mem_reapExited_status {db : Database} {terminalSessions : List SessionId}
    {lc : Lifecycle} (hlc : db.getLifecycle lc.sessionId = some lc)
    (hterminal : lc.state.isTerminal = true) (hfresh : lc.sessionId ∉ terminalSessions)
    (logs : LogAnswers) :
    ∃ exit ∈ (reapExited terminalSessions (status db .empty logs)).1,
      exit.sessionId = lc.sessionId := by
  have hmem := mem_status_of_getLifecycle hlc logs
  have hreported : lc.sessionId ∈ (reapExited terminalSessions (status db .empty logs)).2 :=
    mem_terminalSessions_of_terminal hmem rfl hterminal
  exact (mem_terminalSessions_reapExited.mp hreported).resolve_left hfresh

/-! ## Observations of an exit -/

/-- The outcome of an exit. -/
def exitOutcome (exit : RuntimeExit) : Outcome := ⟨.terminated, exit.code, none⟩

/-- The session has not ended, or has ended as the exit asks. -/
def OpenFor (exit : RuntimeExit) (facts : EndFacts) : Prop :=
  Unended facts ∨ facts.outcome = exitOutcome exit

section Exited

variable {exit : RuntimeExit} {facts : EndFacts} {now : DateTime}

theorem outcome_markTerminated (h : OpenFor exit facts) :
    (facts.markTerminated exit.code now).outcome = exitOutcome exit := by
  have hevidence : facts.lostEvidence = none := by
    rcases h with h | h
    · exact h.lostEvidence
    · exact congrArg Outcome.lostEvidence h
  rw [EndFacts.markTerminated, EndFacts.outcome, hevidence]
  rfl

theorem ended_of_outcome (h : facts.outcome = exitOutcome exit) : facts.Ended := by
  have hstate : facts.state = .terminated := congrArg Outcome.state h
  rw [EndFacts.Ended, hstate]
  rfl

/-- The event of an exit decides the outcome. -/
theorem outcome_applyEvent_of_reportsEnd {lc : Lifecycle} (hstate : lc.state = .exited exit)
    {event : RuntimeEvent} (hevent : ReportsEnd lc event) (h : OpenFor exit facts) :
    (facts.applyEvent event now).outcome = exitOutcome exit := by
  rcases h with h | h
  · obtain ⟨evidence, hreported, rfl⟩ := hevent
    rw [hstate] at hreported
    cases evidence with
    | shimExit =>
        simp [terminalEvent, terminatedEvent, hstate, EndFacts.applyEvent, h.active,
          EndFacts.outcome, exitOutcome]
    | processExit =>
        simp [terminalEvent, terminatedEvent, hstate, EndFacts.applyEvent, h.active,
          EndFacts.outcome, exitOutcome]
    | lost evidence => cases hreported
  · rw [EndFacts.applyEvent_of_ended (ended_of_outcome h)]
    exact h

/-- A running event decides nothing. -/
theorem openFor_applyEvent_of_not_isTerminal {event : RuntimeEvent}
    (hevent : event.isTerminal = false) :
    (OpenFor exit facts → OpenFor exit (facts.applyEvent event now)) ∧
      (facts.outcome = exitOutcome exit →
        (facts.applyEvent event now).outcome = exitOutcome exit) := by
  have hdecided : facts.outcome = exitOutcome exit →
      (facts.applyEvent event now).outcome = exitOutcome exit := by
    intro h
    rw [EndFacts.applyEvent_of_ended (ended_of_outcome h)]
    exact h
  refine ⟨?_, hdecided⟩
  rintro (h | h)
  · cases event with
    | running id runtimePid startTime =>
        refine .inl ?_
        rw [EndFacts.applyEvent, if_pos h.active]
        show Unended (if facts.state = .spawning then { facts with state := .running } else facts)
        split
        · exact ⟨rfl, h.exitCode, h.lostEvidence⟩
        · exact h
    | terminated id exitCode signal evidence => cases hevent
    | lost id evidence => cases hevent
  · exact .inr (hdecided h)

variable (exit now)

/-- A batch of genuine events: a report of the end decides, wherever it stands. -/
theorem openFor_applyRuntimeEventsAndCursor {lc : Lifecycle} (hstate : lc.state = .exited exit)
    {batch : List RuntimeEvent} {nextCursor : EventCursor}
    (hgenuine : (Observation.events batch nextCursor now).Genuine lc) (db : Database) :
    let db' := db.applyRuntimeEventsAndCursor batch nextCursor now
    (FactsSatisfy lc.sessionId (OpenFor exit) db → FactsSatisfy lc.sessionId (OpenFor exit) db') ∧
      (FactsSatisfy lc.sessionId (·.outcome = exitOutcome exit) db →
        FactsSatisfy lc.sessionId (·.outcome = exitOutcome exit) db') ∧
      (FactsSatisfy lc.sessionId (OpenFor exit) db →
        (Observation.events batch nextCursor now).Sees lc →
        FactsSatisfy lc.sessionId (·.outcome = exitOutcome exit) db') := by
  intro db'
  have hfold := foldl_decides (fun (facts : EndFacts) event => facts.applyEvent event now)
    (OpenFor exit) (·.outcome = exitOutcome exit) (fun event => event.isTerminal = true)
    (fun _ => .inr) (batch.filter fun event => event.sessionId = lc.sessionId)
    (by
      intro event hevent hterminal facts hopen
      obtain ⟨hmem, hid⟩ := List.mem_filter.mp hevent
      exact outcome_applyEvent_of_reportsEnd hstate
        (hgenuine event hmem (of_decide_eq_true hid) hterminal) hopen)
    (by
      intro event _ hterminal facts
      exact openFor_applyEvent_of_not_isTerminal (Bool.eq_false_iff.mpr hterminal))
  have hfacts := endFacts_applyRuntimeEventsAndCursor db lc.sessionId batch nextCursor now
  refine ⟨?_, ?_, ?_⟩
  · rintro ⟨facts, h, hp⟩
    rw [h] at hfacts
    exact ⟨_, hfacts, (hfold facts).1 hp⟩
  · rintro ⟨facts, h, hp⟩
    rw [h] at hfacts
    exact ⟨_, hfacts, (hfold facts).2.1 hp⟩
  · rintro ⟨facts, h, hp⟩ ⟨event, hevent, hid, hterminal⟩
    rw [h] at hfacts
    refine ⟨_, hfacts, (hfold facts).2.2 hp ⟨event, ?_, hterminal⟩⟩
    exact List.mem_filter.mpr ⟨hevent, decide_eq_true hid⟩

/-- A write that records the exit for the session decides; a write for another
session leaves the facts as they are. -/
theorem openFor_foldl_marks {α : Type} (write : Database → α → Database)
    (target : α → SessionId) (id : SessionId) (items : List α)
    (hmark : ∀ a ∈ items, target a = id → ∀ db,
      endFacts (write db a) id = (endFacts db id).map (EndFacts.markTerminated exit.code now))
    (hother : ∀ a ∈ items, target a ≠ id → ∀ db, endFacts (write db a) id = endFacts db id)
    (db : Database) :
    (FactsSatisfy id (OpenFor exit) db →
        FactsSatisfy id (OpenFor exit) (items.foldl write db)) ∧
      (FactsSatisfy id (·.outcome = exitOutcome exit) db →
        FactsSatisfy id (·.outcome = exitOutcome exit) (items.foldl write db)) ∧
      (FactsSatisfy id (OpenFor exit) db → (∃ a ∈ items, target a = id) →
        FactsSatisfy id (·.outcome = exitOutcome exit) (items.foldl write db)) := by
  refine foldl_decides write (FactsSatisfy id (OpenFor exit))
    (FactsSatisfy id (·.outcome = exitOutcome exit)) (fun a => target a = id) ?_ items ?_ ?_ db
  · rintro db ⟨facts, h, hp⟩
    exact ⟨facts, h, .inr hp⟩
  · rintro a ha htarget db ⟨facts, h, hp⟩
    refine ⟨facts.markTerminated exit.code now, ?_, outcome_markTerminated hp⟩
    rw [hmark a ha htarget db, h]
    rfl
  · intro a ha htarget db
    have hsame := hother a ha htarget db
    constructor
    · rintro ⟨facts, h, hp⟩
      exact ⟨facts, hsame.trans h, hp⟩
    · rintro ⟨facts, h, hp⟩
      exact ⟨facts, hsame.trans h, hp⟩

theorem endFacts_reconcileLifecycle_of_ne {db : Database} {lc : Lifecycle} {id : SessionId}
    (h : lc.sessionId ≠ id) : endFacts (reconcileLifecycle db lc now) id = endFacts db id := by
  have hne : ¬id = lc.sessionId := fun e => h e.symm
  rw [reconcileLifecycle]
  cases lc.state with
  | forking => exact endFacts_recordTranscript _ _ _ _ _
  | running => exact endFacts_recordTranscript _ _ _ _ _
  | exited exit => simp [endFacts_markSessionTerminated, hne]
  | lost evidence => simp [endFacts_markSessionLost, hne]

/-- A reaper pass decides when it reports the session. -/
theorem openFor_refreshExits (logs : LogAnswers) {s : ObserverState} {lc : Lifecycle}
    (hlc : s.db.getLifecycle lc.sessionId = some lc) (hstate : lc.state = .exited exit) :
    let s' := refreshExits s logs now
    (FactsSatisfy lc.sessionId (·.outcome = exitOutcome exit) s.db →
        FactsSatisfy lc.sessionId (·.outcome = exitOutcome exit) s'.db) ∧
      (FactsSatisfy lc.sessionId (OpenFor exit) s.db → lc.sessionId ∉ s.terminalSessions →
        FactsSatisfy lc.sessionId (·.outcome = exitOutcome exit) s'.db) := by
  intro s'
  have hexits : ∀ e ∈ (reapExited s.terminalSessions (status s.db .empty logs)).1,
      e.sessionId = lc.sessionId → e.exitCode = exit.code := by
    intro e he hid
    obtain ⟨lc', hlc', hexit⟩ := mem_reapExited he
    obtain ⟨stored, hstored, rfl⟩ := mem_status hlc'
    rw [← (terminalChildExit_eq_some hexit).1, hid, hlc] at hstored
    cases hstored
    rw [terminalChildExit, populateLogAvailability] at hexit
    simp only [hstate, Option.some.injEq] at hexit
    rw [← hexit]
  have hfold := openFor_foldl_marks exit now (fun db e => persistChildExit db e now)
    ChildExit.sessionId lc.sessionId
    (reapExited s.terminalSessions (status s.db .empty logs)).1
    (by
      intro e he hid db
      rw [endFacts_persistChildExit, if_pos hid.symm, hid, hexits e he hid])
    (by
      intro e _ hid db
      rw [endFacts_persistChildExit, if_neg fun h => hid h.symm]) s.db
  refine ⟨hfold.2.1, fun hopen hfresh => hfold.2.2 hopen ?_⟩
  exact exists_mem_reapExited_status hlc (by rw [hstate]; rfl) hfresh logs

/-- A reconciliation always decides. -/
theorem openFor_reconcileOnce {s : ObserverState} {lc : Lifecycle} {logs : LogAnswers}
    (hlc : s.db.getLifecycle lc.sessionId = some lc) (hstate : lc.state = .exited exit)
    (hopen : FactsSatisfy lc.sessionId (OpenFor exit) s.db) :
    FactsSatisfy lc.sessionId (·.outcome = exitOutcome exit) (reconcileOnce s logs now).db := by
  have hfold := openFor_foldl_marks exit now (fun db lc => reconcileLifecycle db lc now)
    Lifecycle.sessionId lc.sessionId (status s.db .empty logs)
    (by
      intro lc' hlc' hid db
      obtain ⟨stored, hstored, rfl⟩ := mem_status hlc'
      rw [hid, hlc] at hstored
      cases hstored
      rw [reconcileLifecycle, populateLogAvailability]
      simp [hstate, endFacts_markSessionTerminated])
    (by
      intro lc' _ hid db
      exact endFacts_reconcileLifecycle_of_ne now hid) s.db
  exact hfold.2.2 hopen ⟨_, mem_status_of_getLifecycle hlc logs, rfl⟩

end Exited

/-! ## Agreement -/

@[simp]
theorem lifecycles_recordTranscript (db : Database) (id : SessionId) (path : Option String)
    (now : DateTime) : (recordTranscript db id path now).lifecycles = db.lifecycles := by
  cases path <;> rfl

/-- No observer writes a lifecycle row. -/
theorem getLifecycle_observe (s : ObserverState) (o : Observation) (id : SessionId) :
    (observe s o).db.getLifecycle id = s.db.getLifecycle id := by
  have hfold : ∀ {α : Type} (write : Database → α → Database),
      (∀ db a, (write db a).lifecycles = db.lifecycles) →
      ∀ (items : List α) (db : Database), (items.foldl write db).lifecycles = db.lifecycles := by
    intro α write hwrite items
    induction items with
    | nil => exact fun _ => rfl
    | cons a items ih => exact fun db => (ih (write db a)).trans (hwrite db a)
  have hlifecycles : (observe s o).db.lifecycles = s.db.lifecycles := by
    cases o with
    | events batch nextCursor now =>
        exact hfold (fun db event => db.applyRuntimeEvent event now) (fun _ _ => rfl) batch s.db
    | reaper logs now =>
        refine hfold (fun db exit => persistChildExit db exit now) ?_ _ s.db
        exact fun db exit => lifecycles_recordTranscript db _ _ now
    | reconciler logs now =>
        refine hfold (fun db lc => reconcileLifecycle db lc now) ?_ _ s.db
        intro db lc
        rw [reconcileLifecycle]
        cases lc.state <;> exact lifecycles_recordTranscript db _ _ now
    | restart => rfl
  rw [Database.getLifecycle, hlifecycles, Database.getLifecycle]

/-- An exit is reported alike by the three observers. -/
theorem observersAgree_of_exited {s : ObserverState} {lc : Lifecycle} {exit : RuntimeExit}
    (hlc : s.db.getLifecycle lc.sessionId = some lc) (hstate : lc.state = .exited exit)
    (hrow : FactsSatisfy lc.sessionId Unended s.db) (hfresh : lc.sessionId ∉ s.terminalSessions) :
    ObserversAgree s lc := by
  intro observations hgenuine hsees
  -- The driver's set holds the session only once its row says the exit.
  have hfold := foldl_decides observe
    (fun s => s.db.getLifecycle lc.sessionId = some lc ∧
      FactsSatisfy lc.sessionId (OpenFor exit) s.db ∧
      (lc.sessionId ∈ s.terminalSessions →
        FactsSatisfy lc.sessionId (·.outcome = exitOutcome exit) s.db))
    (fun s => s.db.getLifecycle lc.sessionId = some lc ∧
      FactsSatisfy lc.sessionId (·.outcome = exitOutcome exit) s.db)
    (Observation.Sees lc)
    (by
      rintro s ⟨hlc, facts, hfacts, hp⟩
      exact ⟨hlc, ⟨facts, hfacts, .inr hp⟩, fun _ => ⟨facts, hfacts, hp⟩⟩)
    observations
    (by
      rintro o ho hsees s ⟨hlc, hopen, hset⟩
      refine ⟨(getLifecycle_observe s o _).trans hlc, ?_⟩
      cases o with
      | events batch nextCursor now =>
          exact (openFor_applyRuntimeEventsAndCursor exit now hstate
            (hgenuine _ ho) s.db).2.2 hopen hsees
      | reaper logs now =>
          have hreaper := openFor_refreshExits exit now logs hlc hstate
          by_cases hmem : lc.sessionId ∈ s.terminalSessions
          · exact hreaper.1 (hset hmem)
          · exact hreaper.2 hopen hmem
      | reconciler logs now => exact openFor_reconcileOnce exit now hlc hstate hopen
      | restart => exact hsees.elim)
    (by
      intro o ho hsees s
      cases o with
      | events batch nextCursor now =>
          have hbatch := openFor_applyRuntimeEventsAndCursor exit now hstate (hgenuine _ ho) s.db
          have hlc' := getLifecycle_observe s (.events batch nextCursor now) lc.sessionId
          exact ⟨fun h => ⟨hlc'.trans h.1, hbatch.1 h.2.1, fun hmem => hbatch.2.1 (h.2.2 hmem)⟩,
            fun h => ⟨hlc'.trans h.1, hbatch.2.1 h.2⟩⟩
      | reaper logs now => exact absurd trivial hsees
      | reconciler logs now => exact absurd trivial hsees
      | restart =>
          exact ⟨fun h => ⟨h.1, h.2.1, fun hmem => absurd hmem List.not_mem_nil⟩, fun h => h⟩)
    s
  obtain ⟨facts, hfacts, hp⟩ := hrow
  obtain ⟨-, facts', hfacts', hp'⟩ :=
    hfold.2.2 ⟨hlc, ⟨facts, hfacts, .inl hp⟩, fun hmem => absurd hmem hfresh⟩ hsees
  refine ⟨facts', hfacts', ?_⟩
  rw [lifecycleOutcome, hstate, hp']
  rfl

/-- The reaper records a loss as an exit: a single pass leaves a terminated row. -/
theorem state_refreshExits_of_lost {s : ObserverState} {lc : Lifecycle}
    {evidence : LostEvidence} (hlc : s.db.getLifecycle lc.sessionId = some lc)
    (hstate : lc.state = .lost evidence) (hfresh : lc.sessionId ∉ s.terminalSessions)
    {logs : LogAnswers} {now : DateTime} {facts : EndFacts}
    (hfacts : endFacts (refreshExits s logs now).db lc.sessionId = some facts) :
    facts.state = .terminated := by
  obtain ⟨exit, hexit, hid⟩ :=
    exists_mem_reapExited_status hlc (by rw [hstate]; rfl) hfresh logs
  have hfold := foldl_decides (fun db exit => persistChildExit db exit now) (fun _ => True)
    (fun db => ∀ facts, endFacts db lc.sessionId = some facts → facts.state = .terminated)
    (fun exit => exit.sessionId = lc.sessionId) (fun _ _ => trivial)
    (reapExited s.terminalSessions (status s.db .empty logs)).1
    (by
      intro exit _ hid db _ facts hfacts
      rw [endFacts_persistChildExit, if_pos hid.symm] at hfacts
      obtain ⟨old, -, rfl⟩ := Option.map_eq_some_iff.mp hfacts
      rfl)
    (by
      intro exit _ hid db
      refine ⟨fun h => h, fun h facts hfacts => h facts ?_⟩
      rwa [endFacts_persistChildExit, if_neg fun e => hid e.symm] at hfacts)
    s.db
  exact hfold.2.2 trivial ⟨exit, hexit, hid⟩ facts hfacts

/-- For a terminal lifecycle whose session no observer has seen end, the three
observers agree, in every order and across restarts, if and only if the runtime
exited; for a lost runtime they do not. -/
theorem observers_agree_iff (s : ObserverState) (lc : Lifecycle)
    (hlc : s.db.getLifecycle lc.sessionId = some lc) (hterminal : lc.state.isTerminal = true)
    (hrow : FactsSatisfy lc.sessionId Unended s.db)
    (hfresh : lc.sessionId ∉ s.terminalSessions) :
    ObserversAgree s lc ↔ ∃ exit, lc.state = .exited exit := by
  constructor
  · intro hagree
    cases hstate : lc.state with
    | forking => simp [hstate, LifecycleState.isTerminal, LifecycleState.terminalKind] at hterminal
    | running => simp [hstate, LifecycleState.isTerminal, LifecycleState.terminalKind] at hterminal
    | exited exit => exact ⟨exit, rfl⟩
    | lost evidence =>
        obtain ⟨facts, hfacts, houtcome⟩ := hagree [.reaper (fun _ => .unavailable) 0]
          (fun o ho => by rw [List.mem_singleton.mp ho]; trivial)
          ⟨_, List.mem_singleton_self _, trivial⟩
        have hterminated := state_refreshExits_of_lost hlc hstate hfresh hfacts
        rw [lifecycleOutcome, hstate] at houtcome
        have hlost : facts.state = .lost := congrArg Outcome.state (Option.some.inj houtcome)
        rw [hterminated] at hlost
        cases hlost
  · rintro ⟨exit, hstate⟩
    exact observersAgree_of_exited hlc hstate hrow hfresh

/-- A daemon whose only session runs while its runtime has ended in `state`. -/
def sampleEnd (state : LifecycleState) : ObserverState :=
  (ObserverState.started (.migrated 0)).run
    [.insertSession (sampleSession ⟨1⟩), .writeLifecycle (sampleLifecycle ⟨1⟩ state)]

theorem observers_agree_iff_sampleEnd :
    ObserversAgree (sampleEnd (.exited ⟨some 7, none⟩))
        (sampleLifecycle ⟨1⟩ (.exited ⟨some 7, none⟩)) ↔
      ∃ exit, (sampleLifecycle ⟨1⟩ (.exited ⟨some 7, none⟩)).state = .exited exit :=
  observers_agree_iff _ _ rfl rfl ⟨_, rfl, rfl, rfl, rfl⟩ (by decide)

/-- A runtime is lost and the reaper sees it first: the session ends terminated
without an exit code, where the lifecycle asks for a lost one. -/
theorem reaper_misreports_loss :
    ¬ObserversAgree (sampleEnd (.lost .pidNotAlive))
      (sampleLifecycle ⟨1⟩ (.lost .pidNotAlive)) := by
  intro hagree
  obtain ⟨facts, hfacts, houtcome⟩ := hagree [.reaper (fun _ => .unavailable) 30]
    (fun o ho => by rw [List.mem_singleton.mp ho]; trivial)
    ⟨_, List.mem_singleton_self _, trivial⟩
  have hterminated := state_refreshExits_of_lost rfl rfl (by decide) hfacts
  have hlost : facts.state = .lost := congrArg Outcome.state (Option.some.inj houtcome)
  rw [hterminated] at hlost
  cases hlost

end LittleOrgans.Session
