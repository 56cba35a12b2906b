import LittleOrgans.Runtime.TmuxNudge

/-!
# The nudge protocol

What `execute_nudge` does to a pane, whatever the pane shows and whatever the clock says:
`NudgeSafe` lists what holds of every trace. The wait ends when the clock advances by the
time slept (`ClockFrom`). `nudge_protocol` puts both together.
-/

set_option autoImplicit false

namespace LittleOrgans.Runtime

open LittleOrgans.Core
open LittleOrgans.Library
open LittleOrgans.Library.Prog

/-- An operation of a nudge with its answer. -/
abbrev NudgeEvent := Event nudgeOps String

namespace NudgeEvent

/-- The text is typed. -/
def isPayload (e : NudgeEvent) : Bool := e.op = .sendPayload

/-- The enter key is pressed again. -/
def isResubmit (e : NudgeEvent) : Bool := e.op = .resubmit

/-- The agent is interrupted. -/
def isInterrupt (e : NudgeEvent) : Bool := e.op = .interrupt

/-- Something is typed into the pane. -/
def isKey (e : NudgeEvent) : Bool :=
  e.op ∈ [.cancelCopyMode, .interrupt, .sendPayload, .resubmit]

/-- The pane does not answer that it is alive. -/
def findsDead : NudgeEvent → Bool
  | ⟨.isAlive, .ok alive⟩ => !alive
  | ⟨.isAlive, .error _⟩ => true
  | _ => false

end NudgeEvent

/-- What a capture shows of the agent. -/
inductive CaptureResult where
  | idle
  | busy
  | error
  deriving DecidableEq

/-- The clock shows no less than `floor`, than what it showed before and has been slept
since. -/
def ClockFrom : Nat → List NudgeEvent → Prop
  | _, [] => True
  | floor, ⟨.now, .ok instant⟩ :: t => floor ≤ instant ∧ ClockFrom instant t
  | floor, ⟨.sleep duration, _⟩ :: t => ClockFrom (floor + duration) t
  | floor, _ :: t => ClockFrom floor t

section Safety

variable (agentIsBusy : RuntimeKind → String → Bool) (runtime : RuntimeKind)

/-- What a capture of the pane shows, when the event is one. -/
def capture : NudgeEvent → Option CaptureResult
  | ⟨.capturePane, .ok content⟩ => some (if agentIsBusy runtime content then .busy else .idle)
  | ⟨.capturePane, .error _⟩ => some .error
  | _ => none

/-- The captures of a trace, in order. -/
def captures (t : List NudgeEvent) : List CaptureResult := t.filterMap (capture agentIsBusy runtime)

/-- The last captures let the payload be typed: two idle probes in a row, or an error. -/
def ShowsReady (results : List CaptureResult) : Prop :=
  [.idle, .idle] <:+ results ∨ [.error] <:+ results

/-- What holds of a nudge in a mode, by its trace and its result. -/
structure NudgeSafe (mode : NudgeMode) (t : List NudgeEvent)
    (r : Except String (Option NudgeSendOutcome)) : Prop where
  payload_once : t.countP NudgeEvent.isPayload ≤ 1
  busy_unsent : r = .ok (some .agentBusyTimeout) → t.countP NudgeEvent.isPayload = 0
  delivered_sent : r = .ok (some .delivered) →
    t.countP NudgeEvent.isPayload = 1 ∧ ⟨.sendPayload, .ok ()⟩ ∈ t
  resubmits : t.countP NudgeEvent.isResubmit ≤ 2
  interrupts : t.countP NudgeEvent.isInterrupt ≤ 1
  interrupt_busy : ∀ before e after, t = before ++ e :: after → e.isInterrupt = true →
    mode = .steer ∧ [.busy] <:+ captures agentIsBusy runtime before
  waits : mode = .wait → ∀ before e after, t = before ++ e :: after → e.isPayload = true →
    ShowsReady (captures agentIsBusy runtime before)
  dead : t.Pairwise fun e later => e.findsDead = true → later.isKey = false

end Safety

/-! ## Operations that type nothing -/

/-- Operations about copy mode. -/
def NudgeOp.isCopyMode : NudgeOp → Bool
  | paneInMode => true
  | cancelCopyMode => true
  | _ => false

/-- Operations that only look at the pane or the clock. -/
def NudgeOp.isWatch : NudgeOp → Bool
  | capturePane => true
  | sleep _ => true
  | now => true
  | _ => false

/-- The event sends nothing, interrupts nothing and finds no dead pane. -/
structure NudgeEvent.Calm (e : NudgeEvent) : Prop where
  payload : e.isPayload = false
  resubmit : e.isResubmit = false
  interrupt : e.isInterrupt = false
  dead : e.findsDead = false

section Calm

variable {agentIsBusy : RuntimeKind → String → Bool} {runtime : RuntimeKind}
  {t : List NudgeEvent}

theorem calm_of_isCopyMode {e : NudgeEvent} (h : e.op.isCopyMode = true) : e.Calm := by
  obtain ⟨op, answer⟩ := e
  cases op with
  | paneInMode => exact ⟨rfl, rfl, rfl, rfl⟩
  | cancelCopyMode => exact ⟨rfl, rfl, rfl, rfl⟩
  | _ => cases h

theorem calm_of_isWatch {e : NudgeEvent} (h : e.op.isWatch = true) :
    e.Calm ∧ e.isKey = false := by
  obtain ⟨op, answer⟩ := e
  cases op with
  | capturePane => exact ⟨⟨rfl, rfl, rfl, rfl⟩, rfl⟩
  | sleep duration => exact ⟨⟨rfl, rfl, rfl, rfl⟩, rfl⟩
  | now => exact ⟨⟨rfl, rfl, rfl, rfl⟩, rfl⟩
  | _ => cases h

/-- Nothing is counted in a trace without it. -/
theorem countP_eq_zero {q : NudgeEvent → Bool} (h : ∀ e ∈ t, q e = false) : t.countP q = 0 := by
  rw [List.countP_eq_zero]
  intro e he
  rw [h e he]
  exact Bool.false_ne_true

theorem capture_eq_none {e : NudgeEvent} (h : e.op ≠ .capturePane) :
    capture agentIsBusy runtime e = none := by
  obtain ⟨op, answer⟩ := e
  cases op <;> first | rfl | exact absurd rfl h

theorem captures_eq_nil (h : ∀ e ∈ t, e.op ≠ .capturePane) :
    captures agentIsBusy runtime t = [] := by
  rw [captures, List.filterMap_eq_nil_iff]
  exact fun e he => capture_eq_none (h e he)

@[simp]
theorem captures_append (t t' : List NudgeEvent) :
    captures agentIsBusy runtime (t ++ t') =
      captures agentIsBusy runtime t ++ captures agentIsBusy runtime t' :=
  List.filterMap_append

/-- An event behind a trace in which it does not occur. -/
theorem split_behind {q : NudgeEvent → Bool} {front rest before after : List NudgeEvent}
    {e : NudgeEvent} (hfront : ∀ x ∈ front, q x = false) (he : q e = true)
    (h : front ++ rest = before ++ e :: after) :
    ∃ before', before = front ++ before' ∧ rest = before' ++ e :: after := by
  rcases List.append_eq_append_iff.mp h with ⟨before', hbefore, hrest⟩ | ⟨common, hfronts, hrest⟩
  · exact ⟨before', hbefore, hrest⟩
  · cases common with
    | nil => exact ⟨[], by simpa using hfronts.symm, by simpa using hrest.symm⟩
    | cons x common =>
        obtain ⟨rfl, -⟩ := List.cons.inj hrest
        have hmem : e ∈ front := by rw [hfronts]; simp
        rw [hfront e hmem] at he
        cases he

end Calm

/-! ## Sending -/

section Sending

variable {agentIsBusy : RuntimeKind → String → Bool} {runtime : RuntimeKind}
  {t : List NudgeEvent}

theorem calls_leaveCopyMode : leaveCopyMode.Calls fun o : NudgeOp => o.isCopyMode = true := by
  refine calls_bind (calls_call rfl) fun inMode => ?_
  split
  · exact calls_bind (calls_attempt (calls_call rfl)) fun _ => trivial
  · trivial

/-- Leaving copy mode is calm and looks at no pane. -/
theorem calm_leaveCopyMode {r : Except String Unit} (h : leaveCopyMode.Traces t r) :
    (∀ e ∈ t, e.Calm) ∧ ∀ e ∈ t, e.op ≠ .capturePane := by
  have hcopy := calls_leaveCopyMode.of_traces h
  constructor
  · intro e he
    exact calm_of_isCopyMode (hcopy e he)
  · intro e he hop
    have hmode := hcopy e he
    rw [hop] at hmode
    cases hmode

theorem calls_probeAgentBusy :
    (probeAgentBusy agentIsBusy runtime).Calls fun o : NudgeOp => o.isWatch = true :=
  calls_bind (calls_call rfl) fun _ => trivial

theorem calls_submissionConfirmed (probes : Nat) :
    (submissionConfirmed agentIsBusy runtime probes).Calls
      fun o : NudgeOp => o.isWatch = true := by
  induction probes with
  | zero => trivial
  | succ probes ih =>
      refine calls_bind (calls_attempt calls_probeAgentBusy) fun probed => ?_
      rcases probed with e | (_ | _)
      · trivial
      · dsimp only
        split
        · exact calls_bind (calls_call rfl) fun _ => ih
        · exact ih
      · trivial

theorem traces_sendStep {step : SendStep} {r : Except String Unit} :
    (sendStep step).Traces t r ↔
      t = [match step with
        | .payload => ⟨.sendPayload, r⟩
        | .resubmit => ⟨.resubmit, r⟩] := by
  cases step <;> exact traces_call

/-- A step that fails is followed by the question whether the pane is alive. -/
theorem traces_sendOrPaneDead {step : SendStep} {r : Except String (Option NudgeSendOutcome)}
    (h : (sendOrPaneDead step).Traces t r) :
    ((sendStep step).Traces t (.ok ()) ∧ r = .ok none) ∨
    ∃ sent e alive, (sendStep step).Traces sent (.error e) ∧ t = sent ++ [⟨.isAlive, alive⟩] ∧
      (r = .error e ∨ r = .ok (some .paneDead)) := by
  obtain ⟨sent, t', answer, rfl, hsent, hrest⟩ := traces_attempt_bind.mp h
  cases answer with
  | ok u =>
      obtain ⟨rfl, rfl⟩ := hrest
      exact .inl ⟨by simpa using hsent, rfl⟩
  | error e =>
      obtain ⟨asked, t'', alive, rfl, hasked, hend⟩ := traces_attempt_bind.mp hrest
      obtain rfl := traces_call.mp hasked
      rcases alive with e' | (_ | _) <;> obtain ⟨rfl, rfl⟩ := hend
      · exact .inr ⟨sent, e, _, hsent, rfl, .inr rfl⟩
      · exact .inr ⟨sent, e, _, hsent, rfl, .inr rfl⟩
      · exact .inr ⟨sent, e, _, hsent, rfl, .inl rfl⟩

/-- Keys behind a trace that found no dead pane. -/
theorem pairwise_append_of_alive {front rest : List NudgeEvent}
    (hfront : ∀ e ∈ front, e.findsDead = false)
    (hrest : rest.Pairwise fun e later => e.findsDead = true → later.isKey = false) :
    (front ++ rest).Pairwise fun e later => e.findsDead = true → later.isKey = false := by
  have hnone : ∀ e ∈ front, ∀ later : NudgeEvent, e.findsDead = true → later.isKey = false := by
    intro e he later hdead
    rw [hfront e he] at hdead
    cases hdead
  rw [List.pairwise_append]
  refine ⟨?_, hrest, fun e he later _ => hnone e he later⟩
  exact List.pairwise_of_forall_mem_list fun e he later _ => hnone e he later

/-- What holds of the part of a trace that confirms a payload. -/
structure Confirms (resends : Nat) (t : List NudgeEvent) (r : Except String NudgeSendOutcome) :
    Prop where
  payload : ∀ e ∈ t, e.isPayload = false
  interrupt : ∀ e ∈ t, e.isInterrupt = false
  resubmits : t.countP NudgeEvent.isResubmit ≤ resends
  dead : t.Pairwise fun e later => e.findsDead = true → later.isKey = false
  outcome : r ≠ .ok .agentBusyTimeout

theorem Confirms.append {resends : Nat} {front rest : List NudgeEvent}
    {r : Except String NudgeSendOutcome} (hfront : ∀ e ∈ front, e.Calm)
    (h : Confirms resends rest r) : Confirms resends (front ++ rest) r where
  payload := by
    simp only [List.forall_mem_append]
    exact ⟨fun e he => (hfront e he).payload, h.payload⟩
  interrupt := by
    simp only [List.forall_mem_append]
    exact ⟨fun e he => (hfront e he).interrupt, h.interrupt⟩
  resubmits := by
    rw [List.countP_append, countP_eq_zero fun e he => (hfront e he).resubmit, Nat.zero_add]
    exact h.resubmits
  dead := pairwise_append_of_alive (fun e he => (hfront e he).dead) h.dead
  outcome := h.outcome

theorem Confirms.resubmit {resends : Nat} {rest : List NudgeEvent} {answer : Except String Unit}
    {r : Except String NudgeSendOutcome} (h : Confirms resends rest r) :
    Confirms (resends + 1) (⟨.resubmit, answer⟩ :: rest) r where
  payload := List.forall_mem_cons.mpr ⟨rfl, h.payload⟩
  interrupt := List.forall_mem_cons.mpr ⟨rfl, h.interrupt⟩
  resubmits := by
    rw [List.countP_cons_of_pos rfl]
    exact Nat.succ_le_succ h.resubmits
  dead := List.pairwise_cons.mpr ⟨fun _ _ hdead => absurd hdead Bool.false_ne_true, h.dead⟩
  outcome := h.outcome

/-- The question after a failed send ends the confirmation. -/
theorem confirms_isAlive (resends : Nat) (alive : Except String Bool)
    {r : Except String NudgeSendOutcome} (hr : r ≠ .ok .agentBusyTimeout) :
    Confirms resends [⟨.isAlive, alive⟩] r where
  payload := List.forall_mem_singleton.mpr rfl
  interrupt := List.forall_mem_singleton.mpr rfl
  resubmits := Nat.zero_le resends
  dead := List.pairwise_singleton ..
  outcome := hr

theorem confirms_confirmSubmit {resends : Nat} {r : Except String NudgeSendOutcome}
    (h : (confirmSubmit agentIsBusy runtime resends).Traces t r) : Confirms resends t r := by
  have hcalm : ∀ {t : List NudgeEvent} {r : Except String Bool},
      (submissionConfirmed agentIsBusy runtime submitConfirmProbes).Traces t r →
        ∀ e ∈ t, e.Calm := fun htrace e he =>
    (calm_of_isWatch ((calls_submissionConfirmed _).of_traces htrace e he)).1
  have hempty : ∀ {resends : Nat} {r : Except String NudgeSendOutcome},
      r ≠ .ok .agentBusyTimeout → Confirms resends [] r := fun hr =>
    ⟨by simp, by simp, by simp, .nil, hr⟩
  induction resends generalizing t with
  | zero =>
      obtain ⟨t₁, t₂, first, rfl, hfirst, hrest⟩ := traces_bind.mp h
      refine .append (hcalm hfirst) ?_
      cases first with
      | error e =>
          obtain ⟨rfl, rfl⟩ := hrest
          exact hempty nofun
      | ok confirmed =>
          obtain ⟨rfl, rfl⟩ := hrest
          exact hempty nofun
  | succ resends ih =>
      obtain ⟨t₁, t₂, first, rfl, hfirst, hrest⟩ := traces_bind.mp h
      refine .append (hcalm hfirst) ?_
      cases first with
      | error e =>
          obtain ⟨rfl, rfl⟩ := hrest
          exact hempty nofun
      | ok confirmed =>
          rw [tracesRest_ok] at hrest
          split at hrest
          · obtain ⟨rfl, rfl⟩ := hrest
            exact hempty nofun
          · obtain ⟨t₃, t₄, sent, rfl, hsent, hend⟩ := traces_bind.mp hrest
            rcases traces_sendOrPaneDead hsent with ⟨hstep, rfl⟩ | ⟨t₅, e, alive, hstep, rfl, hr⟩
            · -- one resubmit more, and the rest has one less
              obtain rfl := traces_sendStep.mp hstep
              exact (ih hend).resubmit
            · obtain rfl := traces_sendStep.mp hstep
              rcases hr with rfl | rfl <;> obtain ⟨rfl, rfl⟩ := hend
              · have hasked := confirms_isAlive resends alive (r := .error e) nofun
                exact hasked.resubmit
              · have hasked := confirms_isAlive resends alive (r := .ok .paneDead) nofun
                exact hasked.resubmit

/-- What holds of the part of a trace that sends. -/
structure Sends (agentIsBusy : RuntimeKind → String → Bool) (runtime : RuntimeKind)
    (t : List NudgeEvent) (r : Except String NudgeSendOutcome) : Prop where
  payload_once : t.countP NudgeEvent.isPayload ≤ 1
  delivered_sent : r = .ok .delivered →
    t.countP NudgeEvent.isPayload = 1 ∧ ⟨.sendPayload, .ok ()⟩ ∈ t
  resubmits : t.countP NudgeEvent.isResubmit ≤ 2
  interrupt : ∀ e ∈ t, e.isInterrupt = false
  unseen : ∀ before e after, t = before ++ e :: after → e.isPayload = true →
    captures agentIsBusy runtime before = []
  dead : t.Pairwise fun e later => e.findsDead = true → later.isKey = false
  outcome : r ≠ .ok .agentBusyTimeout

/-- A payload and its confirmation. -/
theorem sends_payload {answer : Except String Unit} {rest : List NudgeEvent}
    {r : Except String NudgeSendOutcome} (h : Confirms maxSubmitResends rest r)
    (hanswer : r = .ok .delivered → answer = .ok ()) :
    Sends agentIsBusy runtime (⟨.sendPayload, answer⟩ :: rest) r where
  payload_once := by
    have hcount : (⟨.sendPayload, answer⟩ :: rest).countP NudgeEvent.isPayload = 1 := by
      rw [List.countP_cons_of_pos rfl, countP_eq_zero h.payload]
    exact Nat.le_of_eq hcount
  delivered_sent hdelivered := by
    rw [hanswer hdelivered, List.countP_cons_of_pos rfl, countP_eq_zero h.payload]
    exact ⟨rfl, List.mem_cons_self⟩
  resubmits := by
    rw [List.countP_cons_of_neg Bool.false_ne_true]
    exact h.resubmits
  interrupt := List.forall_mem_cons.mpr ⟨rfl, h.interrupt⟩
  unseen before e after heq he := by
    cases before with
    | nil => rfl
    | cons x before =>
        -- the payload is the first event, and no other is one
        obtain ⟨rfl, hrest⟩ := List.cons.inj heq
        have hother := h.payload e (by rw [hrest]; simp)
        rw [he] at hother
        cases hother
  dead := List.pairwise_cons.mpr ⟨fun _ _ hdead => absurd hdead Bool.false_ne_true, h.dead⟩
  outcome := h.outcome

theorem Sends.append {front rest : List NudgeEvent} {r : Except String NudgeSendOutcome}
    (hfront : ∀ e ∈ front, e.Calm) (hunseen : captures agentIsBusy runtime front = [])
    (h : Sends agentIsBusy runtime rest r) : Sends agentIsBusy runtime (front ++ rest) r where
  payload_once := by
    rw [List.countP_append, countP_eq_zero fun e he => (hfront e he).payload, Nat.zero_add]
    exact h.payload_once
  delivered_sent hdelivered := by
    obtain ⟨hcount, hmem⟩ := h.delivered_sent hdelivered
    rw [List.countP_append, countP_eq_zero fun e he => (hfront e he).payload, Nat.zero_add]
    exact ⟨hcount, List.mem_append_right front hmem⟩
  resubmits := by
    rw [List.countP_append, countP_eq_zero fun e he => (hfront e he).resubmit, Nat.zero_add]
    exact h.resubmits
  interrupt := List.forall_mem_append.mpr ⟨fun e he => (hfront e he).interrupt, h.interrupt⟩
  unseen before e after heq he := by
    obtain ⟨before', rfl, hrest⟩ :=
      split_behind (fun x hx => (hfront x hx).payload) he heq
    rw [captures_append, hunseen, h.unseen before' e after hrest he, List.append_nil]
  dead := pairwise_append_of_alive (fun e he => (hfront e he).dead) h.dead
  outcome := h.outcome

theorem sends_nil {r : Except String NudgeSendOutcome} (hr : ∀ outcome, r ≠ .ok outcome) :
    Sends agentIsBusy runtime [] r where
  payload_once := Nat.zero_le 1
  delivered_sent h := absurd h (hr _)
  resubmits := Nat.zero_le 2
  interrupt := List.forall_mem_nil _
  unseen before e after h := absurd h (by simp)
  dead := .nil
  outcome := hr _

theorem sends_sendNudgePayload {r : Except String NudgeSendOutcome}
    (h : (sendNudgePayload agentIsBusy runtime).Traces t r) : Sends agentIsBusy runtime t r := by
  obtain ⟨t₁, t₂, first, rfl, hfirst, hrest⟩ := traces_bind.mp h
  obtain ⟨hcalm, hunseen⟩ := calm_leaveCopyMode hfirst
  refine .append hcalm (captures_eq_nil hunseen) ?_
  cases first with
  | error e =>
      obtain ⟨rfl, rfl⟩ := hrest
      exact sends_nil nofun
  | ok u =>
      obtain ⟨t₃, t₄, sent, rfl, hsent, hend⟩ := traces_bind.mp hrest
      rcases traces_sendOrPaneDead hsent with ⟨hstep, rfl⟩ | ⟨t₅, e, alive, hstep, rfl, hr⟩
      · obtain rfl := traces_sendStep.mp hstep
        exact sends_payload (confirms_confirmSubmit hend) fun _ => rfl
      · -- the payload failed: only the question whether the pane is alive follows
        obtain rfl := traces_sendStep.mp hstep
        rcases hr with rfl | rfl <;> obtain ⟨rfl, rfl⟩ := hend
        · exact sends_payload (confirms_isAlive _ alive nofun) nofun
        · exact sends_payload (confirms_isAlive _ alive nofun) nofun

end Sending

/-! ## Waiting -/

section Waiting

variable {agentIsBusy : RuntimeKind → String → Bool} {runtime : RuntimeKind}
  {timing : NudgeTiming} {deadline : Nat} {t : List NudgeEvent}

/-- A probe whose error is taken as a value, and what follows it. -/
theorem traces_probe_bind {β : Type} {f : Except String Bool → NudgeProg β}
    {r : Except String β} :
    ((probeAgentBusy agentIsBusy runtime).attempt >>= f).Traces t r ↔
      ∃ answer t', t = ⟨.capturePane, answer⟩ :: t' ∧
        (f (answer.map (agentIsBusy runtime))).Traces t' r := by
  rw [traces_attempt_bind]
  constructor
  · rintro ⟨t₁, t₂, first, rfl, hprobe, hrest⟩
    obtain ⟨answer, t', rfl, hcontent⟩ := traces_call_bind.mp hprobe
    cases answer <;> obtain ⟨rfl, rfl⟩ := hcontent <;> exact ⟨_, t₂, rfl, hrest⟩
  · rintro ⟨answer, t', rfl, hrest⟩
    refine ⟨[⟨.capturePane, answer⟩], t', _, rfl, traces_call_bind.mpr ⟨answer, [], rfl, ?_⟩, hrest⟩
    cases answer <;> exact ⟨rfl, rfl⟩

theorem calls_sleepRound {next : NudgeProg (Option PolicyOutcome)}
    (hnext : next.Calls fun o : NudgeOp => o.isWatch = true) :
    (sleepRound timing deadline next).Calls fun o : NudgeOp => o.isWatch = true := by
  refine calls_bind (calls_call rfl) fun now => ?_
  split
  · trivial
  · refine calls_bind (calls_call rfl) fun now => ?_
    exact calls_bind (calls_call rfl) fun _ => hnext

theorem calls_waitRounds (rounds consecutiveIdle : Nat) :
    (waitRounds agentIsBusy runtime timing deadline rounds consecutiveIdle).Calls
      fun o : NudgeOp => o.isWatch = true := by
  induction rounds generalizing consecutiveIdle with
  | zero => trivial
  | succ rounds ih =>
      refine calls_bind (calls_attempt calls_probeAgentBusy) fun probed => ?_
      rcases probed with e | (_ | _)
      · trivial
      · dsimp only
        split
        · trivial
        · exact calls_sleepRound (ih _)
      · exact calls_sleepRound (ih _)

theorem calls_waitForIdle (rounds : Nat) (timing : NudgeTiming) :
    (waitForIdle agentIsBusy runtime rounds timing).Calls fun o : NudgeOp => o.isWatch = true :=
  calls_bind (calls_call rfl) fun _ => calls_waitRounds _ _

/-- A round that does not end the wait: the deadline is ahead, and it is slept. -/
theorem traces_sleepRound {next : NudgeProg (Option PolicyOutcome)}
    {result : Option PolicyOutcome} (hresult : result ≠ some .busyTimeout)
    (h : (sleepRound timing deadline next).Traces t (.ok result)) :
    ∃ now again t', now < deadline ∧ next.Traces t' (.ok result) ∧
      t = [⟨.now, .ok now⟩, ⟨.now, .ok again⟩,
        ⟨.sleep (min timing.pollInterval (deadline - again)), .ok ()⟩] ++ t' := by
  obtain ⟨now, t₁, rfl, hfirst⟩ := traces_call_bind.mp h
  cases now with
  | error e => cases hfirst.2
  | ok now =>
      rw [tracesRest_ok] at hfirst
      split at hfirst
      · exact absurd (Except.ok.inj hfirst.2) hresult
      · next hearly =>
          obtain ⟨again, t₂, rfl, hsecond⟩ := traces_call_bind.mp hfirst
          cases again with
          | error e => cases hsecond.2
          | ok again =>
              obtain ⟨slept, t₃, rfl, hthird⟩ := traces_call_bind.mp hsecond
              cases slept with
              | error e => cases hthird.2
              | ok u => exact ⟨now, again, t₃, Nat.not_le.mp hearly, hthird, rfl⟩

/-- Such a round shows nothing of the agent. -/
theorem traces_sleepRound_ready {next : NudgeProg (Option PolicyOutcome)}
    (h : (sleepRound timing deadline next).Traces t (.ok (some .ready))) :
    ∃ front t', t = front ++ t' ∧ (∀ e ∈ front, e.op ≠ .capturePane) ∧
      next.Traces t' (.ok (some .ready)) := by
  obtain ⟨now, again, t', -, hnext, rfl⟩ := traces_sleepRound (by simp) h
  refine ⟨_, t', rfl, ?_, hnext⟩
  simp

/-- The wait is over after two idle probes in a row, of which some may have been seen
before, or after a failed one. -/
theorem showsReady_waitRounds (hrequired : timing.idleProbesRequired = 2)
    {rounds consecutiveIdle : Nat} (seen : List CaptureResult) (hle : consecutiveIdle ≤ 1)
    (hseen : consecutiveIdle = 1 → [.idle] <:+ seen)
    (h : (waitRounds agentIsBusy runtime timing deadline rounds consecutiveIdle).Traces t
      (.ok (some .ready))) : ShowsReady (seen ++ captures agentIsBusy runtime t) := by
  induction rounds generalizing consecutiveIdle seen t with
  | zero => cases h.2
  | succ rounds ih =>
      obtain ⟨answer, t', rfl, hrest⟩ := traces_probe_bind.mp h
      cases answer with
      | error e =>
          obtain ⟨rfl, -⟩ := hrest
          exact .inr ⟨seen, rfl⟩
      | ok content =>
          -- a busy probe starts the count again, an idle one adds to it
          cases hbusy : agentIsBusy runtime content with
          | true =>
              have hshown :
                  capture agentIsBusy runtime ⟨.capturePane, .ok content⟩ = some .busy := by
                rw [capture, hbusy, if_pos rfl]
              rw [Except.map, hbusy] at hrest
              obtain ⟨front, t'', rfl, hfront, hnext⟩ := traces_sleepRound_ready hrest
              have hready := ih (seen ++ [.busy]) (Nat.zero_le 1) nofun hnext
              rw [captures, List.filterMap_cons_some hshown, ← captures, captures_append,
                captures_eq_nil hfront]
              rwa [List.append_assoc] at hready
          | false =>
              have hshown :
                  capture agentIsBusy runtime ⟨.capturePane, .ok content⟩ = some .idle := by
                rw [capture, hbusy, if_neg Bool.false_ne_true]
              rw [Except.map, hbusy] at hrest
              rw [captures, List.filterMap_cons_some hshown, ← captures]
              dsimp only at hrest
              rw [hrequired] at hrest
              split at hrest
              · next henough =>
                  obtain ⟨rfl, -⟩ := hrest
                  obtain ⟨earlier, rfl⟩ := hseen (by omega)
                  exact .inl ⟨earlier, by rw [List.append_assoc]; rfl⟩
              · next hfew =>
                  obtain ⟨front, t'', rfl, hfront, hnext⟩ := traces_sleepRound_ready hrest
                  have hready := ih (seen ++ [.idle]) (by omega) (fun _ => ⟨seen, rfl⟩) hnext
                  rw [captures_append, captures_eq_nil hfront]
                  rwa [List.append_assoc] at hready

theorem showsReady_waitForIdle (hrequired : timing.idleProbesRequired = 2) {rounds : Nat}
    (h : (waitForIdle agentIsBusy runtime rounds timing).Traces t (.ok (some .ready))) :
    ShowsReady (captures agentIsBusy runtime t) := by
  obtain ⟨start, t', rfl, hrest⟩ := traces_call_bind.mp h
  cases start with
  | error e => cases hrest.2
  | ok start => exact showsReady_waitRounds hrequired [] (Nat.zero_le 1) nofun hrest

/-- What holds of the part of a trace that decides whether to send. -/
structure Decides (agentIsBusy : RuntimeKind → String → Bool) (runtime : RuntimeKind)
    (mode : NudgeMode) (t : List NudgeEvent) (r : Except String (Option PolicyOutcome)) :
    Prop where
  payload : ∀ e ∈ t, e.isPayload = false
  resubmit : ∀ e ∈ t, e.isResubmit = false
  alive : ∀ e ∈ t, e.findsDead = false
  interrupts : t.countP NudgeEvent.isInterrupt ≤ 1
  interrupt_busy : ∀ before e after, t = before ++ e :: after → e.isInterrupt = true →
    mode = .steer ∧ [.busy] <:+ captures agentIsBusy runtime before
  waits : mode = .wait → r = .ok (some .ready) → ShowsReady (captures agentIsBusy runtime t)

/-- Who only watches decides nothing but when. -/
theorem decides_of_watch {mode : NudgeMode} {r : Except String (Option PolicyOutcome)}
    (hwatch : ∀ e ∈ t, e.op.isWatch = true)
    (hwaits : mode = .wait → r = .ok (some .ready) →
      ShowsReady (captures agentIsBusy runtime t)) : Decides agentIsBusy runtime mode t r where
  payload e he := (calm_of_isWatch (hwatch e he)).1.payload
  resubmit e he := (calm_of_isWatch (hwatch e he)).1.resubmit
  alive e he := (calm_of_isWatch (hwatch e he)).1.dead
  interrupts := by
    rw [countP_eq_zero fun e he => (calm_of_isWatch (hwatch e he)).1.interrupt]
    exact Nat.zero_le 1
  interrupt_busy before e after heq he := by
    have hcalm := calm_of_isWatch (hwatch e (by rw [heq]; simp))
    rw [hcalm.1.interrupt] at he
    cases he
  waits := hwaits

/-- An agent that was seen busy is interrupted once. -/
theorem decides_interrupt {content : String} {answer : Except String Unit}
    (hbusy : agentIsBusy runtime content = true) (hwatch : ∀ e ∈ t, e.op.isWatch = true)
    (r : Except String (Option PolicyOutcome)) :
    Decides agentIsBusy runtime .steer
      (⟨.capturePane, .ok content⟩ :: ⟨.interrupt, answer⟩ :: t) r where
  payload := by
    rw [List.forall_mem_cons, List.forall_mem_cons]
    exact ⟨rfl, rfl, fun e he => (calm_of_isWatch (hwatch e he)).1.payload⟩
  resubmit := by
    rw [List.forall_mem_cons, List.forall_mem_cons]
    exact ⟨rfl, rfl, fun e he => (calm_of_isWatch (hwatch e he)).1.resubmit⟩
  alive := by
    rw [List.forall_mem_cons, List.forall_mem_cons]
    exact ⟨rfl, rfl, fun e he => (calm_of_isWatch (hwatch e he)).1.dead⟩
  interrupts := by
    have hnone := countP_eq_zero fun e he => (calm_of_isWatch (hwatch e he)).1.interrupt
    have hcount : (⟨.capturePane, .ok content⟩ :: ⟨.interrupt, answer⟩ :: t).countP
        NudgeEvent.isInterrupt = 1 := by
      rw [List.countP_cons_of_neg Bool.false_ne_true, List.countP_cons_of_pos rfl, hnone]
    exact Nat.le_of_eq hcount
  interrupt_busy before e after heq he := by
    refine ⟨rfl, ?_⟩
    cases before with
    | nil =>
        -- the capture is no interrupt
        obtain ⟨rfl, -⟩ := List.cons.inj heq
        cases he
    | cons first before =>
        obtain ⟨rfl, hrest⟩ := List.cons.inj heq
        cases before with
        | nil => exact ⟨[], by simp [captures, capture, hbusy]⟩
        | cons second before =>
            -- behind the interrupt the agent is only watched
            obtain ⟨rfl, hbehind⟩ := List.cons.inj hrest
            have hcalm := calm_of_isWatch (hwatch e (by rw [hbehind]; simp))
            rw [hcalm.1.interrupt] at he
            cases he
  waits := nofun

theorem decides_policy {rounds : Nat} {mode : NudgeMode} {timeoutMs : Option UInt64}
    {r : Except String (Option PolicyOutcome)}
    (h : (policy agentIsBusy runtime rounds mode timeoutMs).Traces t r) :
    Decides agentIsBusy runtime mode t r := by
  cases mode with
  | immediate =>
      obtain ⟨rfl, rfl⟩ := h
      exact decides_of_watch (List.forall_mem_nil _) nofun
  | wait =>
      refine decides_of_watch ((calls_waitForIdle rounds _).of_traces h) fun _ hready => ?_
      subst hready
      refine showsReady_waitForIdle ?_ h
      cases timeoutMs <;> rfl
  | steer =>
      obtain ⟨answer, t', rfl, hrest⟩ := traces_probe_bind.mp h
      have hcapture : ∀ e ∈ [(⟨.capturePane, answer⟩ : NudgeEvent)], e.op.isWatch = true :=
        List.forall_mem_singleton.mpr rfl
      cases answer with
      | error e =>
          obtain ⟨rfl, rfl⟩ := hrest
          exact decides_of_watch hcapture nofun
      | ok content =>
          cases hbusy : agentIsBusy runtime content with
          | false =>
              rw [Except.map, hbusy] at hrest
              obtain ⟨rfl, rfl⟩ := hrest
              exact decides_of_watch hcapture nofun
          | true =>
              rw [Except.map, hbusy] at hrest
              obtain ⟨interrupted, t'', rfl, hwait⟩ := traces_call_bind.mp hrest
              refine decides_interrupt hbusy ?_ r
              cases interrupted with
              | error e =>
                  obtain ⟨rfl, rfl⟩ := hwait
                  exact List.forall_mem_nil _
              | ok u => exact (calls_waitForIdle rounds _).of_traces hwait

end Waiting

/-! ## The whole nudge -/

section Execution

variable {agentIsBusy : RuntimeKind → String → Bool} {runtime : RuntimeKind} {mode : NudgeMode}
  {t : List NudgeEvent} {r : Except String (Option NudgeSendOutcome)}

/-- An event before a trace in which it does not occur. -/
theorem split_ahead {q : NudgeEvent → Bool} {front rest before after : List NudgeEvent}
    {e : NudgeEvent} (hrest : ∀ x ∈ rest, q x = false) (he : q e = true)
    (h : front ++ rest = before ++ e :: after) : ∃ after', front = before ++ e :: after' := by
  have hnot : e ∉ rest := by
    intro hmem
    rw [hrest e hmem] at he
    cases he
  rcases List.append_eq_append_iff.mp h with ⟨before', -, hbehind⟩ | ⟨common, hfront, hbehind⟩
  · exact absurd (by rw [hbehind]; simp) hnot
  · cases common with
    | nil => exact absurd (by rw [← List.nil_append rest, ← hbehind]; simp) hnot
    | cons x common =>
        obtain ⟨rfl, -⟩ := List.cons.inj hbehind
        exact ⟨common, hfront⟩

/-- The parts of a nudge: what is asked first, what decides, and what is sent when the
decision was to send. -/
theorem nudgeSafe_of_parts {front decided sent : List NudgeEvent}
    {decision : Except String (Option PolicyOutcome)} {outcome : Except String NudgeSendOutcome}
    (hfront : ∀ e ∈ front, e.Calm) (hunseen : captures agentIsBusy runtime front = [])
    (hdecided : Decides agentIsBusy runtime mode decided decision)
    (hsent : Sends agentIsBusy runtime sent outcome)
    (hready : sent ≠ [] → decision = .ok (some .ready))
    (hdelivered : r = .ok (some .delivered) → outcome = .ok .delivered)
    (hbusy : r = .ok (some .agentBusyTimeout) → sent = []) :
    NudgeSafe agentIsBusy runtime mode (front ++ (decided ++ sent)) r := by
  have hpayload : (front ++ (decided ++ sent)).countP NudgeEvent.isPayload =
      sent.countP NudgeEvent.isPayload := by
    rw [List.countP_append, List.countP_append,
      countP_eq_zero fun e he => (hfront e he).payload, countP_eq_zero hdecided.payload]
    omega
  constructor
  case payload_once =>
    rw [hpayload]
    exact hsent.payload_once
  case busy_unsent =>
    intro hresult
    rw [hpayload, hbusy hresult]
    rfl
  case delivered_sent =>
    intro hresult
    obtain ⟨hcount, hmem⟩ := hsent.delivered_sent (hdelivered hresult)
    rw [hpayload]
    exact ⟨hcount, List.mem_append_right _ (List.mem_append_right _ hmem)⟩
  case resubmits =>
    rw [List.countP_append, List.countP_append,
      countP_eq_zero fun e he => (hfront e he).resubmit, countP_eq_zero hdecided.resubmit,
      Nat.zero_add, Nat.zero_add]
    exact hsent.resubmits
  case interrupts =>
    rw [List.countP_append, List.countP_append,
      countP_eq_zero fun e he => (hfront e he).interrupt, countP_eq_zero hsent.interrupt,
      Nat.zero_add]
    exact hdecided.interrupts
  case interrupt_busy =>
    intro before e after heq he
    obtain ⟨before', rfl, hbehind⟩ := split_behind (fun x hx => (hfront x hx).interrupt) he heq
    obtain ⟨after', hahead⟩ := split_ahead hsent.interrupt he hbehind
    rw [captures_append, hunseen, List.nil_append]
    exact hdecided.interrupt_busy before' e after' hahead he
  case waits =>
    intro hwait before e after heq he
    -- the payload is in the part that sends, and all captures before it decided
    obtain ⟨before', rfl, hbehind⟩ := split_behind (fun x hx => (hfront x hx).payload) he heq
    obtain ⟨before'', rfl, hlast⟩ := split_behind hdecided.payload he hbehind
    have hsome : sent ≠ [] := by
      rw [hlast]
      simp
    rw [captures_append, captures_append, hunseen, hsent.unseen before'' e after hlast he,
      List.nil_append, List.append_nil]
    exact hdecided.waits hwait (hready hsome)
  case dead =>
    apply pairwise_append_of_alive fun e he => (hfront e he).dead
    exact pairwise_append_of_alive hdecided.alive hsent.dead

/-- A nudge that sends nothing. -/
theorem nudgeSafe_of_unsent {front decided : List NudgeEvent}
    {decision : Except String (Option PolicyOutcome)}
    (hfront : ∀ e ∈ front, e.Calm) (hunseen : captures agentIsBusy runtime front = [])
    (hdecided : Decides agentIsBusy runtime mode decided decision)
    (hr : r ≠ .ok (some .delivered)) :
    NudgeSafe agentIsBusy runtime mode (front ++ decided) r := by
  have hsent : Sends agentIsBusy runtime [] (.error "") := sends_nil nofun
  rw [← List.append_nil decided]
  apply nudgeSafe_of_parts hfront hunseen hdecided hsent
  · intro hsome
    exact absurd rfl hsome
  · intro hresult
    exact absurd hresult hr
  · intro _
    rfl

/-- A pane that is not alive is left alone. -/
theorem nudgeSafe_isAlive (alive : Except String Bool) (hr : r ≠ .ok (some .delivered)) :
    NudgeSafe agentIsBusy runtime mode [⟨.isAlive, alive⟩] r where
  payload_once := Nat.zero_le 1
  busy_unsent _ := rfl
  delivered_sent hresult := absurd hresult hr
  resubmits := Nat.zero_le 2
  interrupts := Nat.zero_le 1
  interrupt_busy before e after heq he := by
    obtain rfl : e = ⟨.isAlive, alive⟩ := List.mem_singleton.mp (by rw [heq]; simp)
    cases he
  waits _ before e after heq he := by
    obtain rfl : e = ⟨.isAlive, alive⟩ := List.mem_singleton.mp (by rw [heq]; simp)
    cases he
  dead := List.pairwise_singleton ..

theorem nudgeSafe_executeNudge {rounds : Nat} {timeoutMs : Option UInt64}
    (h : (executeNudge agentIsBusy runtime rounds mode timeoutMs).Traces t r) :
    NudgeSafe agentIsBusy runtime mode t r := by
  obtain ⟨alive, t₁, rfl, halive⟩ := traces_call_bind.mp h
  rcases alive with e | (_ | _)
  case error =>
    obtain ⟨rfl, rfl⟩ := halive
    exact nudgeSafe_isAlive _ nofun
  case ok.false =>
    obtain ⟨rfl, rfl⟩ := halive
    exact nudgeSafe_isAlive _ nofun
  case ok.true =>
    obtain ⟨copy, t₂, left, rfl, hcopy, hrest⟩ := traces_bind.mp halive
    obtain ⟨hcalm, hlooks⟩ := calm_leaveCopyMode hcopy
    have hfront : ∀ e : NudgeEvent, e ∈ ⟨.isAlive, .ok true⟩ :: copy → e.Calm := by
      rw [List.forall_mem_cons]
      exact ⟨⟨rfl, rfl, rfl, rfl⟩, hcalm⟩
    have hunseen :
        captures agentIsBusy runtime ((⟨.isAlive, .ok true⟩ : NudgeEvent) :: copy) = [] := by
      apply captures_eq_nil
      rw [List.forall_mem_cons]
      exact ⟨nofun, hlooks⟩
    cases left with
    | error e =>
        obtain ⟨rfl, rfl⟩ := hrest
        have hdecided : Decides agentIsBusy runtime mode [] (.error e) :=
          decides_of_watch (List.forall_mem_nil _) nofun
        exact nudgeSafe_of_unsent hfront hunseen hdecided nofun
    | ok u =>
        obtain ⟨decided, sent, decision, rfl, hpolicy, hlast⟩ := traces_bind.mp hrest
        have hdecided := decides_policy hpolicy
        rcases decision with e | (_ | (_ | _))
        case error =>
          obtain ⟨rfl, rfl⟩ := hlast
          rw [List.append_nil]
          exact nudgeSafe_of_unsent hfront hunseen hdecided nofun
        case ok.none =>
          obtain ⟨rfl, rfl⟩ := hlast
          rw [List.append_nil]
          exact nudgeSafe_of_unsent hfront hunseen hdecided nofun
        case ok.some.busyTimeout =>
          obtain ⟨rfl, rfl⟩ := hlast
          rw [List.append_nil]
          exact nudgeSafe_of_unsent hfront hunseen hdecided nofun
        case ok.some.ready =>
          obtain ⟨sending, t₃, outcome, rfl, hsending, hresult⟩ := traces_bind.mp hlast
          have hsent := sends_sendNudgePayload hsending
          cases outcome with
          | error e =>
              obtain ⟨rfl, rfl⟩ := hresult
              rw [List.append_nil]
              exact nudgeSafe_of_parts hfront hunseen hdecided hsent (fun _ => rfl) nofun nofun
          | ok outcome =>
              obtain ⟨rfl, rfl⟩ := hresult
              rw [List.append_nil]
              apply nudgeSafe_of_parts hfront hunseen hdecided hsent (fun _ => rfl)
              · intro heq
                cases heq
                rfl
              · intro heq
                cases heq
                exact absurd rfl hsent.outcome

end Execution

/-! ## The end of the wait -/

section Ending

variable {agentIsBusy : RuntimeKind → String → Bool} {runtime : RuntimeKind}
  {timing : NudgeTiming} {deadline floor : Nat} {t : List NudgeEvent}

theorem ClockFrom.tail {e : NudgeEvent} (h : ClockFrom floor (e :: t)) :
    ∃ floor', ClockFrom floor' t := by
  obtain ⟨op, answer⟩ := e
  cases op with
  | sleep duration => exact ⟨_, h⟩
  | now =>
      cases answer with
      | ok instant => exact ⟨instant, h.2⟩
      | error e => exact ⟨floor, h⟩
  | _ => exact ⟨floor, h⟩

theorem ClockFrom.behind {front : List NudgeEvent} (h : ClockFrom floor (front ++ t)) :
    ∃ floor', ClockFrom floor' t := by
  induction front generalizing floor with
  | nil => exact ⟨floor, h⟩
  | cons e front ih =>
      obtain ⟨floor', htail⟩ := ClockFrom.tail h
      exact ih htail

/-- After such a round the clock shows the deadline or is a poll interval further. -/
theorem traces_sleepRound_none {next : NudgeProg (Option PolicyOutcome)}
    (h : (sleepRound timing deadline next).Traces t (.ok none)) (hclock : ClockFrom floor t) :
    floor < deadline ∧ ∃ floor' t', min (floor + timing.pollInterval) deadline ≤ floor' ∧
      ClockFrom floor' t' ∧ next.Traces t' (.ok none) := by
  obtain ⟨now, again, t', hearly, hnext, rfl⟩ := traces_sleepRound (by simp) h
  obtain ⟨hnow, hagain, hslept⟩ := hclock
  refine ⟨Nat.lt_of_le_of_lt hnow hearly, _, t', ?_, hslept, hnext⟩
  omega

/-- A wait that runs out of rounds did not end in its first one. -/
theorem traces_waitRounds_none {rounds consecutiveIdle : Nat}
    (h : (waitRounds agentIsBusy runtime timing deadline (rounds + 1) consecutiveIdle).Traces t
      (.ok none)) :
    ∃ answer t' idle, t = ⟨.capturePane, answer⟩ :: t' ∧
      (sleepRound timing deadline
        (waitRounds agentIsBusy runtime timing deadline rounds idle)).Traces t' (.ok none) := by
  obtain ⟨answer, t', rfl, hrest⟩ := traces_probe_bind.mp h
  rcases hprobed : answer.map (agentIsBusy runtime) with e | (_ | _)
  case error =>
    rw [hprobed] at hrest
    cases hrest.2
  case ok.false =>
    rw [hprobed] at hrest
    dsimp only at hrest
    split at hrest
    · cases hrest.2
    · exact ⟨answer, t', _, rfl, hrest⟩
  case ok.true =>
    rw [hprobed] at hrest
    exact ⟨answer, t', _, rfl, hrest⟩

/-- A wait does not run out of rounds when those after the first one reach the deadline. -/
theorem waitRounds_ends {more consecutiveIdle : Nat}
    (hreach : deadline ≤ floor + more * timing.pollInterval) (hclock : ClockFrom floor t) :
    ¬(waitRounds agentIsBusy runtime timing deadline (more + 1) consecutiveIdle).Traces t
      (.ok none) := by
  intro h
  induction more generalizing consecutiveIdle floor t with
  | zero =>
      obtain ⟨answer, t', idle, rfl, hround⟩ := traces_waitRounds_none h
      have hclock' : ClockFrom floor t' := hclock
      have hearly := (traces_sleepRound_none hround hclock').1
      omega
  | succ more ih =>
      obtain ⟨answer, t', idle, rfl, hround⟩ := traces_waitRounds_none h
      have hclock' : ClockFrom floor t' := hclock
      obtain ⟨-, floor', t'', hlater, hbehind, hnext⟩ := traces_sleepRound_none hround hclock'
      -- the clock is a poll interval further, so one round less reaches the deadline
      refine ih ?_ hbehind hnext
      rw [Nat.succ_mul] at hreach
      omega

/-- Rounds that reach the timeout of a wait. -/
def NudgeTiming.enoughRounds (timing : NudgeTiming) : Nat :=
  timing.timeout / timing.pollInterval + 2

theorem waitForIdle_ends {rounds : Nat} (hpoll : 0 < timing.pollInterval)
    (henough : timing.enoughRounds ≤ rounds) (hclock : ClockFrom floor t) :
    ¬(waitForIdle agentIsBusy runtime rounds timing).Traces t (.ok none) := by
  intro h
  obtain ⟨start, t', rfl, hrest⟩ := traces_call_bind.mp h
  cases start with
  | error e => cases hrest.2
  | ok start =>
      rw [NudgeTiming.enoughRounds] at henough
      cases rounds with
      | zero => exact absurd henough (Nat.not_succ_le_zero _)
      | succ more =>
          have hmore : timing.timeout / timing.pollInterval < more := by omega
          have hreach := (Nat.div_lt_iff_lt_mul hpoll).mp hmore
          exact waitRounds_ends (by omega) hclock.2 hrest

theorem waitTiming_pollInterval_pos (timeoutMs : Option UInt64) :
    0 < (waitTiming timeoutMs).pollInterval := by
  cases timeoutMs with
  | none => decide
  | some timeoutMs =>
      have hdefault : 0 < waitTimingDefault.pollInterval := by decide
      dsimp only [waitTiming]
      omega

theorem policy_ends {rounds : Nat} {mode : NudgeMode} {timeoutMs : Option UInt64}
    (hwait : (waitTiming timeoutMs).enoughRounds ≤ rounds)
    (hsteer : steerTiming.enoughRounds ≤ rounds) (hclock : ClockFrom floor t) :
    ¬(policy agentIsBusy runtime rounds mode timeoutMs).Traces t (.ok none) := by
  intro h
  cases mode with
  | immediate => cases h.2
  | wait => exact waitForIdle_ends (waitTiming_pollInterval_pos timeoutMs) hwait hclock h
  | steer =>
      obtain ⟨answer, t', rfl, hrest⟩ := traces_probe_bind.mp h
      rcases hprobed : answer.map (agentIsBusy runtime) with e | (_ | _)
      case error =>
        rw [hprobed] at hrest
        cases hrest.2
      case ok.false =>
        rw [hprobed] at hrest
        cases hrest.2
      case ok.true =>
        rw [hprobed] at hrest
        obtain ⟨interrupted, t'', rfl, hwaiting⟩ := traces_call_bind.mp hrest
        cases interrupted with
        | error e => cases hwaiting.2
        | ok u =>
            have hclock' : ClockFrom floor t'' := hclock
            exact waitForIdle_ends (by decide) hsteer hclock' (tracesRest_ok.mp hwaiting)

/-- Only the policy runs out of rounds. -/
theorem traces_executeNudge_none {rounds : Nat} {mode : NudgeMode} {timeoutMs : Option UInt64}
    (h : (executeNudge agentIsBusy runtime rounds mode timeoutMs).Traces t (.ok none)) :
    ∃ front decided, t = front ++ decided ∧
      (policy agentIsBusy runtime rounds mode timeoutMs).Traces decided (.ok none) := by
  obtain ⟨alive, t₁, rfl, halive⟩ := traces_call_bind.mp h
  rcases alive with e | (_ | _)
  case error => cases halive.2
  case ok.false => cases halive.2
  case ok.true =>
    obtain ⟨copy, t₂, left, rfl, -, hrest⟩ := traces_bind.mp halive
    cases left with
    | error e => cases hrest.2
    | ok u =>
        obtain ⟨decided, sent, decision, rfl, hpolicy, hlast⟩ := traces_bind.mp hrest
        rcases decision with e | (_ | (_ | _))
        case error => cases hlast.2
        case ok.none =>
          obtain ⟨rfl, -⟩ := hlast
          exact ⟨⟨.isAlive, .ok true⟩ :: copy, decided, by simp, hpolicy⟩
        case ok.some.busyTimeout => cases hlast.2
        case ok.some.ready =>
          obtain ⟨sending, t₃, outcome, rfl, -, hresult⟩ := traces_bind.mp hlast
          cases outcome with
          | error e => cases hresult.2
          | ok outcome => cases hresult.2

end Ending

/-- Every nudge is safe, whatever the pane answers and the clock shows. With enough rounds
every environment runs it to its end, without running out of rounds whenever the clock
advances by at least the time slept. -/
theorem nudge_protocol (agentIsBusy : RuntimeKind → String → Bool) (runtime : RuntimeKind)
    (mode : NudgeMode) (timeoutMs : Option UInt64) :
    (∀ rounds t r, (executeNudge agentIsBusy runtime rounds mode timeoutMs).Traces t r →
      NudgeSafe agentIsBusy runtime mode t r) ∧
    ∃ enough, ∀ rounds, enough ≤ rounds →
      (∀ answers, ∃ t r, (executeNudge agentIsBusy runtime rounds mode timeoutMs).Traces t r ∧
        AnsweredBy answers [] t) ∧
      ∀ t r, (executeNudge agentIsBusy runtime rounds mode timeoutMs).Traces t r →
        ClockFrom 0 t → r ≠ .ok none := by
  constructor
  · intro rounds t r h
    exact nudgeSafe_executeNudge h
  · refine ⟨max (waitTiming timeoutMs).enoughRounds steerTiming.enoughRounds, ?_⟩
    intro rounds henough
    constructor
    · intro answers
      exact exists_traces answers _ []
    · rintro t r h hclock rfl
      obtain ⟨front, decided, rfl, hpolicy⟩ := traces_executeNudge_none h
      obtain ⟨floor, hbehind⟩ := hclock.behind
      have hwait := Nat.le_trans (Nat.le_max_left _ _) henough
      have hsteer := Nat.le_trans (Nat.le_max_right _ _) henough
      exact policy_ends hwait hsteer hbehind hpolicy

end LittleOrgans.Runtime
