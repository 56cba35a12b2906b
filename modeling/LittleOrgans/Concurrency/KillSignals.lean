import LittleOrgans.Concurrency.RuntimePrograms

/-!
# Signals of a kill

One `kill_runtime` of a host session, against every behaviour of the process
table: what holds the pid, what the store answers and what the clock says is
given by the number of sleeps the kill has made. `killEvents` is what the kill
does there: its identity probes, its signals and its sleeps. `killRuntime_runs`
shows that the program of the kill does the same signals and sleeps.

The identity of the process is probed once, before the first signal. The
escalation to `SIGKILL` comes after the sleeps of the grace period and is not
probed again, so the kill is safe exactly when it does not escalate after a sleep
(`killEvents_safe_iff`).
-/

set_option autoImplicit false

namespace LittleOrgans.Concurrency

open LittleOrgans.Core
open LittleOrgans.Library
open LittleOrgans.Store

/-- A process that holds the pid; `serial` tells it from every other process, and
`startTime` is what the probe reads of it. -/
structure Process where
  serial : Nat
  startTime : Except DaemonError ProcessStartTime

/-- `KILL_POLL_INTERVAL` in milliseconds. -/
def killPollInterval : Nat := 25

/-- What a kill finds. `holder`, `refusal` and `clock` go by the number of sleeps
made so far, `row` by the number of reads; the clock is in milliseconds, and
`lastInstant` is the last instant it can represent. -/
structure KillEnv where
  holder : Nat → Option Process
  refusal : Nat → RuntimeSignal → Option DaemonError
  row : Nat → Except DaemonError (Option Lifecycle)
  signalledAt : Nat
  lastInstant : Nat
  clock : Nat → Nat
  clock_step : ∀ sleeps, clock sleeps + killPollInterval ≤ clock (sleeps + 1)

/-- What a kill does, in order. -/
inductive KillEvent where
  | probe (evidence : Option LostEvidence)
  | signal (signal : RuntimeSignal)
  | sleep
  deriving DecidableEq

namespace KillEnv

variable (env : KillEnv)

def pidAlive (sleeps : Nat) : Bool := (env.holder sleeps).isSome

def startTimeForPid (sleeps : Nat) : Except DaemonError ProcessStartTime :=
  match env.holder sleeps with
  | some process => process.startTime
  | none => .ok .gone

/-- `send_signal_for_kill`. -/
def sendSignal (sleeps : Nat) (signal : RuntimeSignal) : Except DaemonError KillOutcome :=
  match env.refusal sleeps signal with
  | some e => .error e
  | none => .ok (if env.pidAlive sleeps then .signalled else .alreadyExited)

/-- `is_terminal` of the poll after so many sleeps; the first read is the one of
`kill_runtime` itself. -/
def isTerminal (sleeps : Nat) : Bool :=
  match env.row (sleeps + 1) with
  | .ok (some lc) => lc.state.isTerminal
  | .ok none => false
  | .error _ => false

/-- `host_process_lost_evidence`. -/
def lostEvidence (sleeps : Nat) (storedStartTime : Option DateTime) :
    Except DaemonError (Option LostEvidence) :=
  if env.pidAlive sleeps then
    match storedStartTime with
    | none => .ok none
    | some storedStartTime =>
        match env.startTimeForPid sleeps with
        | .ok (.known startTime) =>
            if startTime = storedStartTime then .ok none else .ok (some .pidReuseDetected)
        | .ok .gone => .ok (some .pidNotAlive)
        | .ok .unsupported =>
            if env.pidAlive sleeps then .ok none else .ok (some .pidNotAlive)
        | .error e => if env.pidAlive sleeps then .error e else .ok (some .pidNotAlive)
  else .ok (some .pidNotAlive)

/-- The loop of `run_kill_loop` from the check of the deadline after so many
sleeps: the sleeps made when it ends, and whether a poll found the runtime ended. -/
def pollUntil (deadline sleeps : Nat) : Nat × Bool :=
  if env.clock sleeps < deadline then
    if env.isTerminal sleeps || !env.pidAlive sleeps then (sleeps, true)
    else pollUntil deadline (sleeps + 1)
  else (sleeps, false)
termination_by deadline - env.clock sleeps
decreasing_by
  have hstep := env.clock_step sleeps
  simp only [killPollInterval] at hstep
  omega

/-- The polls of the loop that fit before the deadline. -/
def pollsBefore (deadline sleeps : Nat) : Nat :=
  if env.clock sleeps < deadline then pollsBefore deadline (sleeps + 1) + 1 else 0
termination_by deadline - env.clock sleeps
decreasing_by
  have hstep := env.clock_step sleeps
  simp only [killPollInterval] at hstep
  omega

/-- The deadline of a grace period. -/
def deadline (graceSecs : Nat) : Nat := env.signalledAt + 1000 * graceSecs

/-- The escalation after the polls. -/
def escalation (signal : RuntimeSignal) (polled : Nat × Bool) : List KillEvent :=
  if !polled.2 && env.pidAlive polled.1 && signal ≠ .kill then [.signal .kill] else []

/-- `run_kill_loop`. An overflow of the deadline panics after the first signal. -/
def loopEvents (signal : RuntimeSignal) (graceSecs : Nat) : List KillEvent :=
  match env.sendSignal 0 signal with
  | .error _ => [.signal signal]
  | .ok .alreadyExited => [.signal signal]
  | .ok .signalled =>
      if env.lastInstant < env.deadline graceSecs then [.signal signal]
      else
        let polled := env.pollUntil (env.deadline graceSecs) 0
        .signal signal :: List.replicate polled.1 .sleep ++ env.escalation signal polled

/-- `kill_runtime` of a host session with row `lc`. -/
def killEvents (lc : Lifecycle) (signal : RuntimeSignal) (graceSecs : Nat) : List KillEvent :=
  match lc.runtimePid with
  | none => []
  | some _ =>
      match env.lostEvidence 0 lc.startTime with
      | .error _ => []
      | .ok (some .pidReuseDetected) => [.probe (some .pidReuseDetected)]
      | .ok evidence => .probe evidence :: env.loopEvents signal graceSecs

end KillEnv

/-! ## Safety -/

/-- Each signal comes after an identity probe that did not find the pid reused,
with no sleep in between; `checked` says whether the events so far end so. -/
def IdentityChecked (checked : Bool) : List KillEvent → Prop
  | [] => True
  | .probe evidence :: rest => IdentityChecked (evidence ≠ some .pidReuseDetected) rest
  | .signal _ :: rest => checked = true ∧ IdentityChecked checked rest
  | .sleep :: rest => IdentityChecked false rest

/-- No signal reaches a process that took the pid over during a sleep. -/
def KillEnv.SparesSuccessors (env : KillEnv) (sleeps : Nat) : List KillEvent → Prop
  | [] => True
  | .probe _ :: rest => env.SparesSuccessors sleeps rest
  | .signal _ :: rest =>
      (∀ process, env.holder sleeps = some process → env.holder 0 = some process) ∧
        env.SparesSuccessors sleeps rest
  | .sleep :: rest => env.SparesSuccessors (sleeps + 1) rest

/-- The kill signals only the right process. -/
def KillEnv.Safe (env : KillEnv) (events : List KillEvent) : Prop :=
  IdentityChecked false events ∧ env.SparesSuccessors 0 events

/-- The kill sends its signal, waits, and still finds the pid alive at the
deadline: the pid is not found reused at first and the signal is delivered, the
signal is not `SIGKILL` itself, the deadline lies ahead of the first check of the
clock, and no poll before it finds the session terminal or the pid free. -/
structure KillEnv.EscalatesAfterSleep (env : KillEnv) (lc : Lifecycle) (signal : RuntimeSignal)
    (graceSecs : Nat) : Prop where
  hasPid : lc.runtimePid.isSome
  identified : ∃ evidence, env.lostEvidence 0 lc.startTime = .ok evidence ∧
    evidence ≠ some .pidReuseDetected
  delivered : env.sendSignal 0 signal = .ok .signalled
  notKill : signal ≠ .kill
  representable : env.deadline graceSecs ≤ env.lastInstant
  waits : env.clock 0 < env.deadline graceSecs
  polled : ∀ sleeps, env.clock sleeps < env.deadline graceSecs →
    env.isTerminal sleeps = false ∧ env.pidAlive sleeps = true
  alive : ∀ sleeps, env.deadline graceSecs ≤ env.clock sleeps →
    (∀ earlier < sleeps, env.clock earlier < env.deadline graceSecs) →
      env.pidAlive sleeps = true

namespace KillEnv

variable {env : KillEnv}

/-! ## The polls -/

theorem clock_lt {earlier later : Nat} (h : earlier < later) :
    env.clock earlier < env.clock later := by
  induction later with
  | zero => omega
  | succ later ih =>
      have hstep := env.clock_step later
      simp only [killPollInterval] at hstep
      rcases Nat.lt_succ_iff_lt_or_eq.mp h with hlt | rfl
      · have := ih hlt
        omega
      · omega

/-- Polls that find nothing go on up to the deadline. -/
theorem pollUntil_false {deadline sleeps : Nat}
    (h : (env.pollUntil deadline sleeps).2 = false) :
    deadline ≤ env.clock (env.pollUntil deadline sleeps).1 ∧
      ∀ poll, sleeps ≤ poll → poll < (env.pollUntil deadline sleeps).1 →
        env.clock poll < deadline ∧ env.isTerminal poll = false ∧ env.pidAlive poll = true := by
  fun_induction KillEnv.pollUntil env deadline sleeps with
  | case1 sleeps hclock hended => cases h
  | case2 sleeps hclock hgoes ih =>
      obtain ⟨hdeadline, hpolls⟩ := ih h
      simp only [Bool.or_eq_true, Bool.not_eq_true', not_or, Bool.not_eq_true,
        Bool.not_eq_false] at hgoes
      refine ⟨hdeadline, fun poll hfrom hto => ?_⟩
      rcases Nat.eq_or_lt_of_le hfrom with rfl | hlater
      · exact ⟨hclock, hgoes⟩
      · exact hpolls poll hlater hto
  | case3 sleeps hclock =>
      refine ⟨Nat.le_of_not_lt hclock, fun poll hfrom hto => ?_⟩
      exact absurd hto (Nat.not_lt.mpr hfrom)

theorem pollUntil_of_polled {deadline sleeps : Nat}
    (h : ∀ poll, env.clock poll < deadline →
      env.isTerminal poll = false ∧ env.pidAlive poll = true) :
    (env.pollUntil deadline sleeps).2 = false := by
  fun_induction KillEnv.pollUntil env deadline sleeps with
  | case1 sleeps hclock hended =>
      obtain ⟨hterminal, halive⟩ := h sleeps hclock
      simp [hterminal, halive] at hended
  | case2 sleeps hclock hgoes ih => exact ih
  | case3 sleeps hclock => rfl

/-! ## Safety of the events -/

theorem identityChecked_sleeps {checked : Bool} {count : Nat} {rest : List KillEvent} :
    IdentityChecked checked (List.replicate count .sleep ++ rest) ↔
      IdentityChecked (checked && count == 0) rest := by
  induction count generalizing checked with
  | zero => simp
  | succ count ih =>
      simp only [List.replicate_succ, List.cons_append, IdentityChecked, ih]
      simp

theorem sparesSuccessors_sleeps {sleeps count : Nat} {rest : List KillEvent} :
    env.SparesSuccessors sleeps (List.replicate count .sleep ++ rest) ↔
      env.SparesSuccessors (sleeps + count) rest := by
  induction count generalizing sleeps with
  | zero => simp
  | succ count ih =>
      simp only [List.replicate_succ, List.cons_append, SparesSuccessors, ih]
      rw [Nat.add_assoc, Nat.add_comm 1 count]

/-- Signals sent right after a good probe are safe, as are sleeps after them. -/
theorem safe_of_no_escalation {evidence : Option LostEvidence} {signal : RuntimeSignal}
    {count : Nat} (hevidence : evidence ≠ some .pidReuseDetected) :
    env.Safe (.probe evidence :: .signal signal :: List.replicate count .sleep) := by
  have hcheck : IdentityChecked true (List.replicate count .sleep ++ []) ↔
      IdentityChecked (true && count == 0) [] := identityChecked_sleeps
  have hspare : env.SparesSuccessors 0 (List.replicate count .sleep ++ []) ↔
      env.SparesSuccessors (0 + count) [] := sparesSuccessors_sleeps
  rw [List.append_nil] at hcheck hspare
  constructor
  · simp only [IdentityChecked, decide_eq_true hevidence]
    exact ⟨trivial, hcheck.mpr trivial⟩
  · exact ⟨fun _ hholder => hholder, hspare.mpr trivial⟩

/-- An escalation is safe exactly when no sleep came before it. -/
theorem safe_escalation_iff {evidence : Option LostEvidence} {signal : RuntimeSignal}
    {count : Nat} (hevidence : evidence ≠ some .pidReuseDetected) :
    env.Safe (.probe evidence :: .signal signal ::
      (List.replicate count .sleep ++ [.signal .kill])) ↔ count = 0 := by
  simp only [Safe, IdentityChecked, identityChecked_sleeps, SparesSuccessors,
    sparesSuccessors_sleeps, decide_eq_true hevidence]
  constructor
  · rintro ⟨⟨_, hchecked, _⟩, _⟩
    simpa using hchecked
  · rintro rfl
    simp

theorem escalation_nil {signal : RuntimeSignal} {polled : Nat × Bool}
    (h : ¬(polled.2 = false ∧ env.pidAlive polled.1 = true ∧ signal ≠ .kill)) :
    env.escalation signal polled = [] := by
  refine if_neg ?_
  simpa [and_assoc] using h

theorem escalation_kill {signal : RuntimeSignal} {polled : Nat × Bool}
    (hpolled : polled.2 = false) (halive : env.pidAlive polled.1 = true)
    (hsignal : signal ≠ .kill) : env.escalation signal polled = [.signal .kill] := by
  simp [escalation, hpolled, halive, hsignal]

/-- After a good probe and a delivered signal, the loop is safe exactly when it does
not escalate after a sleep. -/
theorem loopEvents_safe_iff {lc : Lifecycle} {evidence : Option LostEvidence}
    {signal : RuntimeSignal} {graceSecs : Nat} (hpid : lc.runtimePid.isSome)
    (hprobe : env.lostEvidence 0 lc.startTime = .ok evidence)
    (hevidence : evidence ≠ some .pidReuseDetected) :
    env.Safe (.probe evidence :: env.loopEvents signal graceSecs) ↔
      ¬env.EscalatesAfterSleep lc signal graceSecs := by
  have hone : env.Safe (.probe evidence :: .signal signal :: List.replicate 0 .sleep) :=
    safe_of_no_escalation hevidence
  unfold loopEvents
  split
  · next e hsend =>
      refine iff_of_true hone fun hescalates => ?_
      cases hsend.symm.trans hescalates.delivered
  · next hsend =>
      refine iff_of_true hone fun hescalates => ?_
      cases hsend.symm.trans hescalates.delivered
  · next hsend =>
      split
      · next hpanics =>
          refine iff_of_true hone fun hescalates => ?_
          exact absurd hescalates.representable (Nat.not_le.mpr hpanics)
      · next hfits =>
          by_cases hescalates : (env.pollUntil (env.deadline graceSecs) 0).2 = false ∧
              env.pidAlive (env.pollUntil (env.deadline graceSecs) 0).1 = true ∧ signal ≠ .kill
          · obtain ⟨hpolled, halive, hsignal⟩ := hescalates
            obtain ⟨hdeadline, hpolls⟩ := pollUntil_false hpolled
            simp only [escalation_kill hpolled halive hsignal, List.cons_append]
            rw [safe_escalation_iff hevidence]
            -- the loop made no sleep exactly when the deadline had passed at once
            constructor
            · intro hnone hescalates
              rw [hnone] at hdeadline
              exact absurd hescalates.waits (Nat.not_lt.mpr hdeadline)
            · intro hnot
              refine Nat.eq_zero_of_not_pos fun hpos => hnot ?_
              have hbefore : ∀ poll, env.clock poll < env.deadline graceSecs →
                  poll < (env.pollUntil (env.deadline graceSecs) 0).1 := by
                intro poll hclock
                refine Nat.lt_of_not_le fun hle => ?_
                rcases Nat.eq_or_lt_of_le hle with heq | hlt
                · rw [heq] at hdeadline
                  omega
                · have := env.clock_lt hlt
                  omega
              refine ⟨hpid, ⟨evidence, hprobe, hevidence⟩, hsend, hsignal,
                Nat.not_lt.mp hfits, (hpolls 0 (Nat.le_refl 0) hpos).1,
                fun poll hclock => (hpolls poll (Nat.zero_le poll) (hbefore poll hclock)).2,
                fun sleeps hlate hearlier => ?_⟩
              have hsame : sleeps = (env.pollUntil (env.deadline graceSecs) 0).1 := by
                refine Nat.le_antisymm (Nat.le_of_not_lt fun hlt => ?_)
                  (Nat.le_of_not_lt fun hlt => ?_)
                · have := hearlier _ hlt
                  omega
                · have := (hpolls sleeps (Nat.zero_le sleeps) hlt).1
                  omega
              rw [hsame]
              exact halive
          · simp only [escalation_nil hescalates, List.append_nil]
            refine iff_of_true (safe_of_no_escalation hevidence) fun hafter => hescalates ?_
            have hpolled : (env.pollUntil (env.deadline graceSecs) 0).2 = false :=
              pollUntil_of_polled hafter.polled
            obtain ⟨hdeadline, hpolls⟩ := pollUntil_false hpolled
            refine ⟨hpolled, hafter.alive _ hdeadline fun earlier hearlier => ?_, hafter.notKill⟩
            exact (hpolls earlier (Nat.zero_le earlier) hearlier).1

/-- The kill of a host session signals only the right process exactly when it does
not escalate to `SIGKILL` after a sleep: the identity is not probed again before
that signal. -/
theorem killEvents_safe_iff (env : KillEnv) (lc : Lifecycle) (signal : RuntimeSignal)
    (graceSecs : Nat) :
    env.Safe (env.killEvents lc signal graceSecs) ↔
      ¬env.EscalatesAfterSleep lc signal graceSecs := by
  unfold killEvents
  split
  · next hpid =>
      refine iff_of_true ⟨trivial, trivial⟩ fun hescalates => ?_
      have := hescalates.hasPid
      rw [hpid] at this
      cases this
  · next pid hpid =>
      split
      · next e hprobe =>
          refine iff_of_true ⟨trivial, trivial⟩ fun hescalates => ?_
          obtain ⟨evidence, hidentified, _⟩ := hescalates.identified
          cases hprobe.symm.trans hidentified
      · next hprobe =>
          refine iff_of_true ⟨trivial, trivial⟩ fun hescalates => ?_
          obtain ⟨evidence, hidentified, hreused⟩ := hescalates.identified
          cases hprobe.symm.trans hidentified
          exact hreused rfl
      · next evidence hreused hprobe =>
          refine loopEvents_safe_iff (by rw [hpid]; rfl) hprobe ?_
          rintro rfl
          exact hreused rfl

/-- A running host session and the start time its shim reported. -/
def reportedRow : Lifecycle :=
  { Lifecycle.forking ⟨1⟩ .claude with
    state := .running
    runtimePid := some 70
    startTime := some 1000 }

/-- The process of `reportedRow` dies during the first sleep, and another process
is given its pid. -/
def takenOver : KillEnv where
  holder := fun sleeps =>
    if sleeps = 0 then some ⟨1, .ok (.known 1000)⟩ else some ⟨2, .ok (.known 2000)⟩
  refusal := fun _ _ => none
  row := fun _ => .ok (some reportedRow)
  signalledAt := 0
  lastInstant := 1000000
  clock := fun sleeps => 1000 * sleeps
  clock_step := by
    intro sleeps
    simp only [killPollInterval]
    omega

theorem takenOver_polls : takenOver.pollUntil 1000 0 = (1, false) := by
  rw [pollUntil, if_pos (by decide), if_neg (by decide), pollUntil, if_neg (by decide)]

/-- A kill with a grace period of one second: the `SIGKILL` after the sleep goes to
the process that took the pid over. -/
theorem kill_reaches_successor :
    takenOver.killEvents reportedRow .term 1 =
        [.probe none, .signal .term, .sleep, .signal .kill] ∧
      ¬IdentityChecked false (takenOver.killEvents reportedRow .term 1) ∧
      ¬takenOver.SparesSuccessors 0 (takenOver.killEvents reportedRow .term 1) := by
  have hloop : takenOver.loopEvents .term 1 = [.signal .term, .sleep, .signal .kill] := by
    have hpolls : takenOver.pollUntil (takenOver.deadline 1) 0 = (1, false) := takenOver_polls
    have hsend : takenOver.sendSignal 0 .term = .ok .signalled := rfl
    have hescalates : takenOver.escalation .term (1, false) = [.signal .kill] :=
      escalation_kill rfl rfl (by decide)
    simp only [loopEvents, hsend, hpolls, hescalates]
    exact if_neg (by decide)
  have hevents : takenOver.killEvents reportedRow .term 1 =
      [.probe none, .signal .term, .sleep, .signal .kill] := by
    have hprobe : takenOver.lostEvidence 0 (some 1000) = .ok none := rfl
    rw [← hloop]
    simp only [killEvents, reportedRow, hprobe]
  rw [hevents]
  refine ⟨rfl, ?_, ?_⟩
  · rintro ⟨_, hchecked, _⟩
    cases hchecked
  · rintro ⟨_, hspared, _⟩
    cases hspared ⟨2, .ok (.known 2000)⟩ rfl

end KillEnv

/-! ## The program of the kill -/

/-- How far the program of a kill has come. -/
structure KillState where
  reads : Nat
  sleeps : Nat
  done : List KillEvent

/-- Answers to the operations of a kill. What the other operations answer does not
matter to its signals. -/
def KillEnv.step (env : KillEnv) (graceSecs : Nat) :
    KillState → (o : Op) → Except DaemonError o.Res → KillState → Prop
  | s, .store (.getLifecycle _), r, s' => r = env.row s.reads ∧ s' = { s with reads := s.reads + 1 }
  | s, .os (.pidAlive _), r, s' => r = .ok (env.pidAlive s.sleeps) ∧ s' = s
  | s, .os (.startTimeForPid _), r, s' => r = env.startTimeForPid s.sleeps ∧ s' = s
  | s, .os (.sendSignal _ signal), r, s' =>
      r = env.sendSignal s.sleeps signal ∧ s' = { s with done := s.done ++ [.signal signal] }
  | s, .os .rounds, r, s' =>
      (if env.lastInstant < env.deadline graceSecs then
        r = .error (.io "overflow when adding duration to instant")
      else r = .ok (env.pollsBefore (env.deadline graceSecs) s.sleeps)) ∧ s' = s
  | s, .os .sleep, r, s' =>
      r = .ok () ∧ s' = { s with sleeps := s.sleeps + 1, done := s.done ++ [.sleep] }
  | s, _, _, s' => s' = s

section Program

variable {env : KillEnv} {graceSecs : Nat} {s s' : KillState}

/-- The environment answers every operation, so every kill runs to its end. -/
theorem killRuntime_ends (request : KillRequest) :
    ∃ r s', (killRuntime request).Runs (env.step graceSecs) s r s' := by
  refine Prog.exists_runs (fun s o => ?_) _ s
  cases o with
  | memory o => exact ⟨.error .unauthorized, s, rfl⟩
  | log o => exact ⟨.error .unauthorized, s, rfl⟩
  | store o =>
      cases o with
      | getLifecycle id => exact ⟨_, _, rfl, rfl⟩
      | _ => exact ⟨.error .unauthorized, s, rfl⟩
  | os o =>
      cases o with
      | pidAlive pid => exact ⟨_, _, rfl, rfl⟩
      | startTimeForPid pid => exact ⟨_, _, rfl, rfl⟩
      | sendSignal pid signal => exact ⟨_, _, rfl, rfl⟩
      | sleep => exact ⟨_, _, rfl, rfl⟩
      | rounds =>
          by_cases hoverflow : env.lastInstant < env.deadline graceSecs
          · exact ⟨_, s, (if_pos hoverflow).mpr rfl, rfl⟩
          · exact ⟨_, s, (if_neg hoverflow).mpr rfl, rfl⟩
      | _ => exact ⟨.error .unauthorized, s, rfl⟩

theorem isTerminal_runs {id : SessionId} {r : Except DaemonError Bool}
    (hreads : s.reads = s.sleeps + 1)
    (hrun : (isTerminal id).Runs (env.step graceSecs) s r s') :
    r = .ok (env.isTerminal s.sleeps) ∧ s' = { s with reads := s.reads + 1 } := by
  obtain ⟨row, s₁, hread, hrest⟩ := Prog.runs_attempt_bind.mp hrun
  obtain ⟨rfl, rfl⟩ := Prog.runs_call.mp hread
  unfold KillEnv.isTerminal
  rw [← hreads]
  match hrow : env.row s.reads with
  | .ok (some lc) =>
      rw [hrow] at hrest
      exact hrest
  | .ok none =>
      rw [hrow] at hrest
      exact hrest
  | .error e =>
      rw [hrow] at hrest
      exact hrest

/-- The polls of the program are the loop up to the deadline. -/
theorem killRounds_runs {deadline pid : Nat} {id : SessionId} {rounds : Nat}
    {r : Except DaemonError Bool} (hrounds : rounds = env.pollsBefore deadline s.sleeps)
    (hreads : s.reads = s.sleeps + 1)
    (hrun : (killRounds (.host pid) id rounds).Runs (env.step graceSecs) s r s') :
    r = .ok (env.pollUntil deadline s.sleeps).2 ∧
      s'.sleeps = (env.pollUntil deadline s.sleeps).1 ∧ s.sleeps ≤ s'.sleeps ∧
        s'.done = s.done ++ List.replicate (s'.sleeps - s.sleeps) .sleep := by
  induction rounds generalizing s with
  | zero =>
      obtain ⟨rfl, rfl⟩ := hrun
      unfold KillEnv.pollsBefore at hrounds
      unfold KillEnv.pollUntil
      split at hrounds
      · cases hrounds
      · next hclock => simp [hclock]
  | succ rounds ih =>
      unfold KillEnv.pollsBefore at hrounds
      unfold KillEnv.pollUntil
      split at hrounds
      · next hclock =>
          rw [if_pos hclock]
          obtain ⟨_, s₁, hterminal, hrest⟩ := Prog.runs_bind.mp hrun
          obtain ⟨rfl, rfl⟩ := isTerminal_runs hreads hterminal
          cases hended : env.isTerminal s.sleeps with
          | true =>
              rw [hended] at hrest
              obtain ⟨rfl, rfl⟩ := hrest
              simp
          | false =>
              rw [hended] at hrest
              obtain ⟨_, s₁, halive, hrest⟩ := Prog.runs_bind.mp hrest
              obtain ⟨rfl, rfl⟩ := Prog.runs_call.mp halive
              cases hgone : env.pidAlive s.sleeps with
              | false =>
                  simp only [hgone] at hrest
                  obtain ⟨rfl, rfl⟩ := hrest
                  simp
              | true =>
                  simp only [hgone] at hrest
                  obtain ⟨_, s₁, hsleep, hrest⟩ := Prog.runs_bind.mp hrest
                  obtain ⟨rfl, rfl⟩ := Prog.runs_call.mp hsleep
                  -- One sleep later, one round less is left before the deadline.
                  obtain ⟨hr, hsleeps, hle, hdone⟩ := ih (by simpa using hrounds)
                    (by simpa using hreads) hrest
                  simp only at hr hsleeps hle hdone
                  refine ⟨hr, hsleeps, by omega, ?_⟩
                  rw [hdone, List.append_assoc, List.singleton_append, ← List.replicate_succ]
                  congr 2
                  omega
      · cases hrounds

theorem hostProcessLostEvidence_runs {pid : Nat} {stored : Option DateTime}
    {r : Except DaemonError (Option LostEvidence)}
    (hrun : (hostProcessLostEvidence pid stored).Runs (env.step graceSecs) s r s') :
    r = env.lostEvidence s.sleeps stored ∧ s' = s := by
  obtain ⟨_, s₁, halive, hrest⟩ := Prog.runs_bind.mp hrun
  obtain ⟨rfl, hs⟩ := Prog.runs_call.mp halive
  subst s₁
  unfold KillEnv.lostEvidence
  -- a dead pid is the evidence by itself
  cases hholds : env.pidAlive s.sleeps with
  | false =>
      simp only [hholds] at hrest
      exact hrest
  | true =>
      simp only [hholds] at hrest
      -- a live pid is compared with the start that was stored, if one was
      cases stored with
      | none => exact hrest
      | some stored =>
          obtain ⟨_, s₁, hstart, hrest⟩ := Prog.runs_attempt_bind.mp hrest
          obtain ⟨rfl, hs⟩ := Prog.runs_call.mp hstart
          subst s₁
          match hstarted : env.startTimeForPid s.sleeps with
          | .ok (.known startTime) =>
              rw [hstarted] at hrest
              by_cases hsame : startTime = stored
              · simp only [hsame, if_true] at hrest ⊢
                exact hrest
              · simp only [hsame, if_false] at hrest ⊢
                exact hrest
          | .ok .gone =>
              rw [hstarted] at hrest
              exact hrest
          -- the start cannot be read: the pid is looked at once more
          | .ok .unsupported =>
              rw [hstarted] at hrest
              obtain ⟨_, s₁, hagain, hrest⟩ := Prog.runs_bind.mp hrest
              obtain ⟨rfl, hs⟩ := Prog.runs_call.mp hagain
              subst s₁
              simp only [hholds] at hrest
              exact hrest
          -- reading the start failed: the same as above
          | .error e =>
              rw [hstarted] at hrest
              obtain ⟨_, s₁, hagain, hrest⟩ := Prog.runs_bind.mp hrest
              obtain ⟨rfl, hs⟩ := Prog.runs_call.mp hagain
              subst s₁
              simp only [hholds] at hrest
              exact hrest

/-- The end of the loop of the program, when no poll ended it. -/
theorem escalation_runs {pid : Nat} {signal : RuntimeSignal} {polled : Nat × Bool}
    {r : Except DaemonError KillOutcome} (hpolled : polled.2 = false)
    (hsleeps : s.sleeps = polled.1)
    (hrun : Prog.Runs (env.step graceSecs) (do
      if ← (KillTarget.host pid).isAlive then
        if signal = .kill then return .signalled
        else
          (KillTarget.host pid).sendKill
          return .signalled
      else return .signalled) s r s') :
    s'.done = s.done ++ env.escalation signal polled := by
  obtain ⟨_, s₁, halive, hrest⟩ := Prog.runs_bind.mp hrun
  obtain ⟨rfl, hs⟩ := Prog.runs_call.mp halive
  subst s₁
  rw [hsleeps] at hrest
  cases hholds : env.pidAlive polled.1 with
  -- The process has ended, so there is nothing to kill.
  | false =>
      simp only [hholds] at hrest
      obtain ⟨rfl, rfl⟩ := hrest
      rw [KillEnv.escalation_nil (by simp [hholds]), List.append_nil]
  | true =>
      simp only [hholds] at hrest
      by_cases hsignal : signal = .kill
      · subst hsignal
        obtain ⟨rfl, rfl⟩ := hrest
        rw [KillEnv.escalation_nil (by simp), List.append_nil]
      · rw [KillEnv.escalation_kill hpolled hholds hsignal]
        simp only [hsignal, if_false] at hrest
        obtain ⟨first, s₁, hkill, hrest⟩ := Prog.runs_bind.mp hrest
        obtain ⟨_, s₂, hsend, hkill⟩ := Prog.runs_bind.mp hkill
        obtain ⟨rfl, rfl⟩ := Prog.runs_call.mp hsend
        match hsent : env.sendSignal s.sleeps .kill with
        | .error e =>
            rw [hsent] at hkill
            obtain ⟨rfl, rfl⟩ := hkill
            obtain ⟨rfl, rfl⟩ := hrest
            rfl
        | .ok .signalled =>
            rw [hsent] at hkill
            obtain ⟨rfl, rfl⟩ := hkill
            obtain ⟨rfl, rfl⟩ := hrest
            rfl
        | .ok .alreadyExited =>
            rw [hsent] at hkill
            obtain ⟨rfl, rfl⟩ := hkill
            obtain ⟨rfl, rfl⟩ := hrest
            rfl

/-- The loop of the program sends the signals of `loopEvents`, with its sleeps. -/
theorem runKillLoop_runs {pid : Nat} {id : SessionId} {signal : RuntimeSignal}
    {r : Except DaemonError KillOutcome} (hreads : s.reads = 1) (hsleeps : s.sleeps = 0)
    (hrun : (runKillLoop (.host pid) id signal).Runs (env.step graceSecs) s r s') :
    s'.done = s.done ++ env.loopEvents signal graceSecs := by
  obtain ⟨_, _, hsend, hrest⟩ := Prog.runs_bind.mp hrun
  obtain ⟨rfl, rfl⟩ := Prog.runs_call.mp hsend
  unfold KillEnv.loopEvents
  rw [hsleeps] at hrest
  split
  · next e hsent =>
      rw [hsent] at hrest
      obtain ⟨rfl, rfl⟩ := hrest
      rfl
  · next hsent =>
      rw [hsent] at hrest
      obtain ⟨rfl, rfl⟩ := hrest
      rfl
  · next hsent =>
      rw [hsent] at hrest
      obtain ⟨_, _, hrounds, hrest⟩ := Prog.runs_bind.mp hrest
      obtain ⟨hanswer, rfl⟩ := Prog.runs_call.mp hrounds
      split
      · next hpanics =>
          rw [if_pos hpanics] at hanswer
          subst hanswer
          obtain ⟨rfl, rfl⟩ := hrest
          rfl
      · next hfits =>
          rw [if_neg hfits] at hanswer
          subst hanswer
          obtain ⟨_, s₁, hrounds, hrest⟩ := Prog.runs_bind.mp hrest
          obtain ⟨rfl, hslept, _, hdone⟩ := killRounds_runs rfl (by simp [hreads]) hrounds
          simp only [Nat.sub_zero] at hslept hdone hrest
          rw [hslept, List.append_assoc] at hdone
          -- what follows the polls is the escalation
          have hends : s'.done = s₁.done ++
              env.escalation signal (env.pollUntil (env.deadline graceSecs) 0) := by
            cases hended : (env.pollUntil (env.deadline graceSecs) 0).2 with
            | true =>
                simp only [hended] at hrest
                obtain ⟨rfl, rfl⟩ := hrest
                rw [KillEnv.escalation_nil (by simp [hended]), List.append_nil]
            | false =>
                simp only [hended] at hrest
                exact escalation_runs hended hslept hrest
          rw [hends, hdone, List.append_assoc]
          rfl

theorem finishTerminal_runs {id : SessionId} {lc : Lifecycle} {evidence : TerminationEvidence}
    {r : Except DaemonError (Option RuntimeEvent)}
    (hrun : (finishTerminal id lc evidence).Runs (env.step graceSecs) s r s') :
    s'.done = s.done := by
  obtain ⟨removed, s₁, hremove, hrest⟩ := Prog.runs_bind.mp hrun
  obtain rfl := Prog.runs_call.mp hremove
  cases removed with
  | error e => rw [hrest.2]
  | ok _ =>
      obtain ⟨inserted, s₂, hinsert, hrest⟩ := Prog.runs_bind.mp hrest
      obtain rfl := Prog.runs_call.mp hinsert
      match inserted with
      | .error e => rw [hrest.2]
      | .ok false => rw [hrest.2]
      | .ok true =>
          obtain ⟨appended, s₃, happend, hrest⟩ := Prog.runs_bind.mp hrest
          obtain rfl := Prog.runs_call.mp happend
          cases appended <;> rw [hrest.2]

/-- Recording a lost session signals nothing. -/
theorem recordLost_runs {id : SessionId} {evidence : LostEvidence}
    {r : Except DaemonError (Option RuntimeEvent)}
    (hrun : (recordLost id evidence).Runs (env.step graceSecs) s r s') : s'.done = s.done := by
  obtain ⟨result, s₁, hrecord, hrest⟩ := Prog.runs_attempt_bind.mp hrun
  -- the row is read and marked; the write and the event behind it send no signal
  have hrecorded : s₁.done = s.done := by
    obtain ⟨row, s₂, hread, hrecord⟩ := Prog.runs_bind.mp hrecord
    obtain ⟨rfl, rfl⟩ := Prog.runs_call.mp hread
    match hrow : env.row s.reads with
    | .error e =>
        rw [hrow] at hrecord
        rw [hrecord.2]
    | .ok none =>
        rw [hrow] at hrecord
        rw [hrecord.2]
    | .ok (some lc) =>
        -- the row has ended already, or the mark fits
        rw [hrow] at hrecord
        by_cases hmarks : (lc.markLost evidence).1
        · simp only [hmarks, Prog.runsRest_ok, if_true] at hrecord
          obtain ⟨written, s₃, hwrite, hfinish⟩ := Prog.runs_bind.mp hrecord
          obtain rfl := Prog.runs_call.mp hwrite
          cases written with
          | error e => rw [hfinish.2]
          | ok _ =>
              have hfinished := finishTerminal_runs (Prog.runsRest_ok.mp hfinish)
              exact hfinished
        · simp only [hmarks, Prog.runsRest_ok] at hrecord
          rw [hrecord.2]
  -- forgetting the shim sends no signal either
  obtain ⟨forgotten, s₂, hforget, hrest⟩ := Prog.runs_bind.mp hrest
  obtain rfl := Prog.runs_call.mp hforget
  cases forgotten with
  | error e => rw [hrest.2, hrecorded]
  | ok _ => rw [(Prog.runs_ofExcept.mp hrest).2, hrecorded]

/-- The events that leave a trace in `KillState`. -/
def KillEvent.isDone : KillEvent → Bool
  | .probe _ => false
  | .signal _ => true
  | .sleep => true

theorem loopEvents_done {signal : RuntimeSignal} :
    (env.loopEvents signal graceSecs).filter KillEvent.isDone =
      env.loopEvents signal graceSecs := by
  refine List.filter_eq_self.mpr fun event hevent => ?_
  cases event with
  | signal sent => rfl
  | sleep => rfl
  | probe evidence =>
      -- the loop makes no identity probe
      exfalso
      unfold KillEnv.loopEvents KillEnv.escalation at hevent
      grind

/-- In every run of the kill of a host session, the program does the signals and
the sleeps of `killEvents`. -/
theorem killRuntime_runs {lc : Lifecycle} {request : KillRequest}
    {r : Except DaemonError KillOutcome} (hrow : env.row 0 = .ok (some lc))
    (hhost : lc.isolation = .host)
    (hrun : (killRuntime request).Runs (env.step graceSecs) ⟨0, 0, []⟩ r s') :
    s'.done = (env.killEvents lc request.signal graceSecs).filter KillEvent.isDone := by
  obtain ⟨row, s₁, hread, hrest⟩ := Prog.runs_bind.mp hrun
  obtain ⟨rfl, rfl⟩ := Prog.runs_call.mp hread
  simp only [hrow, hhost, Prog.runsRest_ok] at hrest
  unfold KillEnv.killEvents
  cases hpid : lc.runtimePid with
  | none =>
      simp only [hpid] at hrest
      rw [hrest.2]
      rfl
  | some pid =>
      simp only [hpid] at hrest
      obtain ⟨evidence, s₂, hprobe, hrest⟩ := Prog.runs_bind.mp hrest
      obtain ⟨rfl, hs⟩ := hostProcessLostEvidence_runs hprobe
      subst s₂
      split
      · next hpid => cases hpid
      · next hpid =>
          split
          · next e hprobe =>
              rw [hprobe] at hrest
              rw [hrest.2]
              rfl
          · next hprobe =>
              rw [hprobe] at hrest
              obtain ⟨lost, s₃, hlost, hrest⟩ := Prog.runs_bind.mp hrest
              have hdone := recordLost_runs hlost
              cases lost <;> rw [hrest.2, hdone] <;> rfl
          · next evidence hreused hprobe =>
              rw [hprobe] at hrest
              -- Whatever else was found, the loop runs; a reused pid stops before it.
              have hloop : (runKillLoop (.host pid) request.sessionId request.signal).Runs
                  (env.step graceSecs) ⟨1, 0, []⟩ r s' := by
                cases evidence with
                | none => exact hrest
                | some evidence =>
                    cases evidence with
                    | pidReuseDetected => exact absurd rfl hreused
                    | _ => exact hrest
              rw [runKillLoop_runs rfl rfl hloop, List.nil_append,
                List.filter_cons_of_neg (by simp [KillEvent.isDone]), loopEvents_done]

end Program

end LittleOrgans.Concurrency
