import LittleOrgans.Library.Pool
import LittleOrgans.Runtime.EventLogHistory

/-!
# Consumers of the event log

Consumers that long-poll the log: a poll reads the log, arms its notification,
reads again and then sleeps until an append notifies it or its time is up, and
appends, notifications, crashes and the polls of other consumers come between any
two of these steps. Each consumer starts from a cursor the log handed out and
polls from the last cursor it received.

`Contract` is what a consumer can rely on; `contract_of_reaches` proves it for
every run that has recorded fewer than 2^64 events. The next event takes a
sequence number that was given out before, and consumers miss it
(`event_with_repeated_seq_is_missed`).
-/

set_option autoImplicit false

namespace LittleOrgans.Runtime

open LittleOrgans.Core
open LittleOrgans.Library
open EventLog

/-- Maximum long-poll window, in milliseconds. -/
def EVENT_WAIT_MAX_MS : Nat := 60000

/-- How long a poll waits: what it asks for, up to a bound. -/
def clampedEventWaitMs : Option Nat → Nat
  | some value => if value < EVENT_WAIT_MAX_MS then value else EVENT_WAIT_MAX_MS
  | none => 0

/-- Where a poll is; `began` is how many events had been recorded when it began. -/
inductive PollPhase where
  | idle
  | checked (began : Nat)
  | armed (began : Nat) (notified : Bool)
  | waiting (began : Nat) (secondCheck : EventLogPage) (notified : Bool)

/-- `notify_waiters`: whoever has armed its notification is notified. -/
def PollPhase.notify : PollPhase → PollPhase
  | .idle => .idle
  | .checked began => .checked began
  | .armed began _ => .armed began true
  | .waiting began secondCheck _ => .waiting began secondCheck true

/-- A consumer: the cursor it started from, the cursor of its next poll, what it
received, how many events had been recorded when the last poll that gave it a page
began, the error its last poll ended with, and its poll in progress. -/
structure Consumer where
  start : Option EventCursor
  since : Option EventCursor
  received : List RuntimeEvent
  covered : Nat
  expired : Option CursorExpired
  phase : PollPhase

namespace Consumer

/-- The cursor a poll reads behind. -/
def cursor (consumer : Consumer) : EventCursor := consumer.since.getD 0

/-- A consumer that has received nothing. -/
def subscribed (since : Option EventCursor) : Consumer := ⟨since, since, [], 0, none, .idle⟩

/-- A poll ends with a page. -/
def deliver (consumer : Consumer) (began : Nat) (page : EventLogPage) : Consumer :=
  { consumer with
    since := some page.cursor
    received := consumer.received ++ page.events
    covered := began
    expired := none
    phase := .idle }

/-- A poll ends with `CursorExpired`. -/
def expire (consumer : Consumer) (error : CursorExpired) : Consumer :=
  { consumer with expired := some error, phase := .idle }

/-- A poll goes on. -/
def goOn (consumer : Consumer) (phase : PollPhase) : Consumer :=
  { consumer with expired := none, phase := phase }

/-- A waiting consumer is told of an append. -/
def notify (consumer : Consumer) : Consumer :=
  { consumer with phase := consumer.phase.notify }

end Consumer

/-- A step of the poll of one consumer. -/
inductive PollAction where
  | poll (waitMs : Option Nat)
  | arm
  | recheck
  | wake
  | timeout
  | abandon

/-- The steps that read the log. -/
def PollAction.reads : PollAction → Bool
  | .poll _ => true
  | .recheck => true
  | .wake => true
  | .arm => false
  | .timeout => false
  | .abandon => false

/-- A log, its consumers, the appends that have not notified yet, and the cursors
the log handed out. -/
structure Polling where
  recording : Recording
  pendingNotifies : Nat
  consumers : Nat → Option Consumer
  handedOut : List EventCursor

/-- What can happen to a log that is polled. -/
inductive PollingAction where
  | log (action : RecordingAction)
  | notify
  | subscribe (id : Nat) (since : Option EventCursor)
  | poll (id : Nat) (action : PollAction)

namespace Polling

/-- A new log without consumers. -/
def fresh (path : String) : Polling := ⟨.fresh path, 0, fun _ => none, []⟩

/-- Number of events that were ever recorded. -/
def recorded (s : Polling) : Nat := s.recording.history.length

/-- The state after a consumer has gone on to `consumer`, with a cursor that was
handed out to it. -/
def put (s : Polling) (id : Nat) (consumer : Consumer) (handedOut : Option EventCursor) :
    Polling :=
  { s with
    consumers := Function.update s.consumers id (some consumer)
    handedOut := handedOut.toList ++ s.handedOut }

theorem put_consumers_self (s : Polling) (id : Nat) (consumer : Consumer)
    (handedOut : Option EventCursor) :
    (s.put id consumer handedOut).consumers id = some consumer := Function.update_self _ _ _

/-- Reads the log behind the cursor of a consumer: the poll fails, or goes on with
a page. -/
def check (s : Polling) (consumer : Consumer)
    (k : EventLogPage → Consumer × Option EventCursor) : Consumer × Option EventCursor :=
  match s.recording.log.eventsSince consumer.since with
  | .error expired => (consumer.expire expired, some expired.oldest)
  | .ok page => k page

/-- One step of a poll: the consumer and the cursor that was handed out, if any;
`none` when the poll is not there. -/
def pollStep (s : Polling) (consumer : Consumer) :
    PollAction → Option (Consumer × Option EventCursor)
  | .poll waitMs =>
      match consumer.phase with
      | .idle => some <| s.check consumer fun immediate =>
          if clampedEventWaitMs waitMs = 0 ∨ immediate.events ≠ [] then
            (consumer.deliver s.recorded immediate, some immediate.cursor)
          else (consumer.goOn (.checked s.recorded), none)
      | _ => none
  | .arm =>
      match consumer.phase with
      | .checked began => some (consumer.goOn (.armed began false), none)
      | _ => none
  | .recheck =>
      match consumer.phase with
      | .armed began notified => some <| s.check consumer fun secondCheck =>
          if secondCheck.events ≠ [] then
            (consumer.deliver began secondCheck, some secondCheck.cursor)
          else (consumer.goOn (.waiting began secondCheck notified), none)
      | _ => none
  | .wake =>
      match consumer.phase with
      | .waiting began _ true => some <| s.check consumer fun page =>
          (consumer.deliver began page, some page.cursor)
      | _ => none
  | .timeout =>
      match consumer.phase with
      | .waiting began secondCheck _ =>
          some (consumer.deliver began secondCheck, some secondCheck.cursor)
      | _ => none
  | .abandon => some ({ consumer with phase := .idle }, none)

/-- To ask something of every cursor of an option is to ask it of one, and not of all `u64`. -/
instance (priority := high) decidableForallCursor (p : EventCursor → Prop) [DecidablePred p]
    (since : Option EventCursor) : Decidable (∀ cursor ∈ since, p cursor) :=
  Option.decidableForallMem since

/-- The log as it is recorded to and polled. A reopen follows a crash of the
daemon, which ends the polls and the notifications that were under way. -/
def system (serde : Serde) : StepSystem Polling PollingAction where
  step s
    | .log (.append io event tsMs syncAfterAppend) =>
        ((Recording.system serde).step s.recording (.append io event tsMs syncAfterAppend)).map
          fun recording =>
            { s with
              recording := recording
              pendingNotifies :=
                if .fromEvent event ∈ s.recording.log.seenEventKeys then s.pendingNotifies
                else s.pendingNotifies + 1 }
    | .log (.reopen instant) =>
        ((Recording.system serde).step s.recording (.reopen instant)).map fun recording =>
          { s with
            recording := recording
            pendingNotifies := 0
            consumers := fun id =>
              (s.consumers id).map fun consumer => { consumer with phase := .idle } }
    | .notify =>
        if 0 < s.pendingNotifies then
          some { s with
            pendingNotifies := s.pendingNotifies - 1
            consumers := fun id => (s.consumers id).map Consumer.notify }
        else none
    | .subscribe id since =>
        if s.consumers id = none ∧ ∀ cursor ∈ since, cursor ∈ s.handedOut then
          some (s.put id (.subscribed since) none)
        else none
    | .poll id action =>
        (s.consumers id).bind fun consumer =>
          (s.pollStep consumer action).map fun next => s.put id next.1 next.2

/-- The serialiser round-trips what is appended. -/
def Handled (serde : Serde) (s : Polling) : PollingAction → Prop
  | .log action => Recording.Handled serde s.recording action
  | _ => True

/-! ## The contract -/

/-- What a consumer has: the events from the cursor it started from to its cursor,
each once and in order; all that had been recorded when its last successful poll
began; and no sleep through an append. -/
structure Serves (s : Polling) (consumer : Consumer) : Prop where
  start_le : (consumer.start.getD 0).toNat ≤ consumer.cursor.toNat
  cursor_le : consumer.cursor.toNat ≤ s.recorded
  received : consumer.received =
    ((s.recording.history.take consumer.cursor.toNat).drop
      (consumer.start.getD 0).toNat).map EventLogEntry.event
  covered_le : consumer.covered ≤ consumer.cursor.toNat
  awake : ∀ began secondCheck notified,
    consumer.phase = .waiting began secondCheck notified → consumer.cursor.toNat < s.recorded →
    notified = true ∨ 0 < s.pendingNotifies

/-- What a poll promises its consumer. -/
structure Contract (serde : Serde) (s : Polling) : Prop where
  serves : ∀ id consumer, s.consumers id = some consumer → Serves s consumer
  advances : ∀ action s' id consumer, Handled serde s action →
    (system serde).step s action = some s' → s.consumers id = some consumer →
    ∃ consumer', s'.consumers id = some consumer' ∧ consumer'.start = consumer.start ∧
      consumer.cursor ≤ consumer'.cursor ∧ consumer.received <+: consumer'.received
  fails_iff : ∀ id action s' consumer consumer', action.reads = true →
    (system serde).step s (.poll id action) = some s' → s.consumers id = some consumer →
    s'.consumers id = some consumer' →
    (consumer'.expired ≠ none ↔ ∃ entry ∈ s.recording.dropped, consumer.cursor < entry.seq)
  compacts : ∀ io event tsMs syncAfterAppend s', serde.Handles event →
    (system serde).step s (.log (.append io event tsMs syncAfterAppend)) = some s' →
    ∃ gone, s'.recording.dropped = s.recording.dropped ++ gone ∧
      s'.recording.history = s.recording.dropped ++ gone ++ s'.recording.log.events ∧
      (gone ≠ [] → EVENT_LOG_RETENTION_MIN_EVENTS ≤ s'.recording.log.events.length) ∧
      ∀ entry ∈ gone, ∃ nowMs, currentTimestampMs io = .ok nowMs ∧ isOld nowMs entry = true

/-! ## The invariant behind it -/

/-- A poll in progress began with nothing behind its cursor. -/
def PollPhase.Holds (s : Polling) (cursor : EventCursor) : PollPhase → Prop
  | .idle => True
  | .checked began => began ≤ cursor.toNat
  | .armed began _ => began ≤ cursor.toNat
  | .waiting began secondCheck notified =>
      began ≤ cursor.toNat ∧ secondCheck.events = [] ∧ secondCheck.cursor = cursor ∧
        (cursor.toNat < s.recorded → notified = true ∨ 0 < s.pendingNotifies)

/-- Where a consumer stands in the log. -/
structure Standing (s : Polling) (consumer : Consumer) : Prop where
  start_le : (consumer.start.getD 0).toNat ≤ consumer.cursor.toNat
  cursor_le : consumer.cursor.toNat ≤ s.recorded
  received : consumer.received =
    ((s.recording.history.take consumer.cursor.toNat).drop
      (consumer.start.getD 0).toNat).map EventLogEntry.event
  covered_le : consumer.covered ≤ consumer.cursor.toNat
  phase : PollPhase.Holds s consumer.cursor consumer.phase

/-- The invariant of the runs that have not used up the sequence numbers. -/
structure Sound (serde : Serde) (s : Polling) : Prop where
  agrees : Recording.Agrees serde s.recording
  standing : ∀ id consumer, s.consumers id = some consumer → Standing s consumer
  handedOut : ∀ cursor ∈ s.handedOut, cursor.toNat ≤ s.recorded

variable {serde : Serde}

theorem Standing.serves {s : Polling} {consumer : Consumer} (h : Standing s consumer) :
    Serves s consumer where
  start_le := h.start_le
  cursor_le := h.cursor_le
  received := h.received
  covered_le := h.covered_le
  awake := by
    intro began secondCheck notified hphase
    have hholds := h.phase
    rw [hphase] at hholds
    exact hholds.2.2.2

theorem sound_fresh (path : String) : Sound serde (fresh path) where
  agrees := Recording.agrees_fresh path
  standing := by
    intro id consumer h
    cases h
  handedOut := by
    intro cursor h
    cases h

/-- What a consumer has stays what it has when more is recorded. -/
theorem Standing.mono {s s' : Polling} {consumer consumer' : Consumer}
    (h : Standing s consumer) (hhistory : s.recording.history <+: s'.recording.history)
    (hsame : consumer' = { consumer with phase := consumer'.phase })
    (hphase : PollPhase.Holds s' consumer.cursor consumer'.phase) : Standing s' consumer' := by
  have hle := h.cursor_le
  have hlength := hhistory.length_le
  rw [hsame]
  refine ⟨h.start_le, hle.trans hlength, ?_, h.covered_le, hphase⟩
  obtain ⟨more, hmore⟩ := hhistory
  change consumer.received = ((s'.recording.history.take consumer.cursor.toNat).drop
    (consumer.start.getD 0).toNat).map EventLogEntry.event
  rw [h.received, ← hmore, List.take_append_of_le_length hle]

/-! ## Steps of a poll -/

/-- What a step of a poll makes of its consumer, and of what was handed out. -/
structure Polled (s : Polling) (consumer : Consumer) (next : Consumer × Option EventCursor) :
    Prop where
  standing : Standing s next.1
  start_eq : next.1.start = consumer.start
  cursor_le : consumer.cursor.toNat ≤ next.1.cursor.toNat
  received : consumer.received <+: next.1.received
  handedOut : ∀ cursor ∈ next.2, cursor.toNat ≤ s.recorded

/-- A page of the log: what is recorded behind a cursor. -/
structure PageOf (s : Polling) (cursor : EventCursor) (page : EventLogPage) : Prop where
  events : page.events = (s.recording.history.drop cursor.toNat).map EventLogEntry.event
  cursor : page.cursor.toNat = s.recorded

/-- An empty page leaves nothing behind the cursor. -/
theorem recorded_le_of_page {s : Polling} {consumer : Consumer} {page : EventLogPage}
    (hpage : PageOf s consumer.cursor page) (hevents : page.events = []) :
    s.recorded ≤ consumer.cursor.toNat := by
  have hnone := hpage.events
  rw [hevents] at hnone
  exact List.drop_eq_nil_iff.mp (List.map_eq_nil_iff.mp hnone.symm)

section PollStep

variable {s : Polling} {consumer : Consumer} (hsound : Sound serde s)
  (hsmall : s.recorded < 2 ^ 64) (h : Standing s consumer)

include h

theorem polled_goOn {phase : PollPhase} (hphase : PollPhase.Holds s consumer.cursor phase) :
    Polled s consumer (consumer.goOn phase, none) where
  standing := ⟨h.start_le, h.cursor_le, h.received, h.covered_le, hphase⟩
  start_eq := rfl
  cursor_le := Nat.le_refl _
  received := List.prefix_rfl
  handedOut := by simp

theorem polled_expire {oldest : EventCursor} (holdest : oldest.toNat ≤ s.recorded) :
    Polled s consumer (consumer.expire ⟨oldest⟩, some oldest) where
  standing := ⟨h.start_le, h.cursor_le, h.received, h.covered_le, trivial⟩
  start_eq := rfl
  cursor_le := Nat.le_refl _
  received := List.prefix_rfl
  handedOut := by simpa using holdest

theorem polled_deliver {began : Nat} (hbegan : began ≤ s.recorded) {page : EventLogPage}
    (hpage : PageOf s consumer.cursor page) :
    Polled s consumer (consumer.deliver began page, some page.cursor) where
  standing := by
    have hstart := h.start_le
    have hcursor := h.cursor_le
    have hpageCursor := hpage.cursor
    refine ⟨?_, ?_, ?_, ?_, trivial⟩
    · change (consumer.start.getD 0).toNat ≤ page.cursor.toNat
      omega
    · exact Nat.le_of_eq hpageCursor
    · change consumer.received ++ page.events =
        ((s.recording.history.take page.cursor.toNat).drop
          (consumer.start.getD 0).toNat).map EventLogEntry.event
      have hsplit : s.recording.history.drop (consumer.start.getD 0).toNat =
          (s.recording.history.take consumer.cursor.toNat).drop (consumer.start.getD 0).toNat ++
            s.recording.history.drop consumer.cursor.toNat := by
        have htake : (consumer.start.getD 0).toNat ≤
            (s.recording.history.take consumer.cursor.toNat).length := by
          rw [List.length_take_of_le hcursor]
          exact hstart
        rw [← List.drop_append_of_le_length htake, List.take_append_drop]
      rw [h.received, hpage.events, hpageCursor, recorded, List.take_length, hsplit,
        List.map_append]
    · exact hbegan.trans (Nat.le_of_eq hpageCursor.symm)
  start_eq := rfl
  cursor_le := h.cursor_le.trans (Nat.le_of_eq hpage.cursor.symm)
  received := List.prefix_append _ _
  handedOut := by
    intro cursor hcursor
    obtain rfl := Option.some.inj hcursor
    exact Nat.le_of_eq hpage.cursor

/-- A poll whose time is up ends with the empty page of its second check. -/
theorem polled_timeout {began : Nat} {page : EventLogPage} (hbegan : began ≤ consumer.cursor.toNat)
    (hevents : page.events = []) (hcursor : page.cursor = consumer.cursor) :
    Polled s consumer (consumer.deliver began page, some page.cursor) := by
  have hstanding : Standing s (consumer.deliver began page) := by
    refine ⟨?_, ?_, ?_, ?_, trivial⟩
    · change (consumer.start.getD 0).toNat ≤ page.cursor.toNat
      rw [hcursor]
      exact h.start_le
    · change page.cursor.toNat ≤ s.recorded
      rw [hcursor]
      exact h.cursor_le
    · change consumer.received ++ page.events =
        ((s.recording.history.take page.cursor.toNat).drop
          (consumer.start.getD 0).toNat).map EventLogEntry.event
      rw [hevents, hcursor, List.append_nil]
      exact h.received
    · change began ≤ page.cursor.toNat
      rwa [hcursor]
  refine ⟨hstanding, rfl, ?_, List.prefix_append _ _, ?_⟩
  · exact Nat.le_of_eq (congrArg UInt64.toNat hcursor.symm)
  · intro cursor hmem
    obtain rfl := Option.some.inj hmem
    rw [hcursor]
    exact h.cursor_le

include hsound hsmall

/-- A read of the log fails when an event behind the cursor was dropped, and
otherwise gives the page behind the cursor. -/
theorem check_cases (k : EventLogPage → Consumer × Option EventCursor) :
    (consumer.cursor.toNat < s.recording.dropped.length ∧ ∃ oldest : EventCursor,
      oldest.toNat ≤ s.recorded ∧
      s.check consumer k = (consumer.expire ⟨oldest⟩, some oldest)) ∨
    (s.recording.dropped.length ≤ consumer.cursor.toNat ∧ ∃ page,
      PageOf s consumer.cursor page ∧ s.check consumer k = k page) := by
  rcases Nat.lt_or_ge consumer.cursor.toNat s.recording.dropped.length with hlt | hge
  · obtain ⟨oldest, herror, holdest⟩ := hsound.agrees.eventsSince_error hsmall hlt
    have hlength := hsound.agrees.length_history
    refine .inl ⟨hlt, oldest, ?_, ?_⟩
    · rw [recorded]
      omega
    · rw [check, herror]
  · obtain ⟨page, hok, hevents, hcursor⟩ := hsound.agrees.eventsSince_ok hsmall h.cursor_le hge
    exact .inr ⟨hge, page, ⟨hevents, hcursor⟩, by rw [check, hok]⟩

theorem polled_check {k : EventLogPage → Consumer × Option EventCursor}
    (hk : ∀ page, PageOf s consumer.cursor page →
      Polled s consumer (k page) ∧ (k page).1.expired = none) :
    Polled s consumer (s.check consumer k) ∧
      ((s.check consumer k).1.expired ≠ none ↔
        consumer.cursor.toNat < s.recording.dropped.length) := by
  rcases check_cases hsound hsmall h k with
    ⟨hlt, oldest, holdest, hcheck⟩ | ⟨hge, page, hpage, hcheck⟩
  · rw [hcheck]
    exact ⟨polled_expire h holdest, fun _ => hlt, fun _ => nofun⟩
  · rw [hcheck]
    refine ⟨(hk page hpage).1, fun hne => absurd (hk page hpage).2 hne, fun hlt => ?_⟩
    omega

theorem polled_of_pollStep {action : PollAction} {next : Consumer × Option EventCursor}
    (hstep : s.pollStep consumer action = some next) :
    Polled s consumer next ∧
      (action.reads = true →
        (next.1.expired ≠ none ↔ consumer.cursor.toNat < s.recording.dropped.length)) := by
  have hcursor := h.cursor_le
  have hholds := h.phase
  cases action with
  | poll waitMs =>
      cases hphase : consumer.phase with
      | idle =>
          rw [pollStep, hphase] at hstep
          obtain rfl := Option.some.inj hstep
          -- A page with events is delivered; behind an empty one nothing is recorded.
          have hpolled := polled_check hsound hsmall h (k := fun immediate =>
            if clampedEventWaitMs waitMs = 0 ∨ immediate.events ≠ [] then
              (consumer.deliver s.recorded immediate, some immediate.cursor)
            else (consumer.goOn (.checked s.recorded), none)) (by
            intro page hpage
            split
            · exact ⟨polled_deliver h (Nat.le_refl _) hpage, rfl⟩
            · next hempty =>
                rw [not_or, not_not] at hempty
                exact ⟨polled_goOn h (recorded_le_of_page hpage hempty.2), rfl⟩)
          exact ⟨hpolled.1, fun _ => hpolled.2⟩
      | checked began => simp [pollStep, hphase] at hstep
      | armed began notified => simp [pollStep, hphase] at hstep
      | waiting began secondCheck notified => simp [pollStep, hphase] at hstep
  | arm =>
      cases hphase : consumer.phase with
      | checked began =>
          rw [pollStep, hphase] at hstep
          obtain rfl := Option.some.inj hstep
          rw [hphase] at hholds
          exact ⟨polled_goOn h hholds, nofun⟩
      | idle => simp [pollStep, hphase] at hstep
      | armed began notified => simp [pollStep, hphase] at hstep
      | waiting began secondCheck notified => simp [pollStep, hphase] at hstep
  | recheck =>
      cases hphase : consumer.phase with
      | armed began notified =>
          rw [pollStep, hphase] at hstep
          obtain rfl := Option.some.inj hstep
          rw [hphase] at hholds
          have hbegan : began ≤ consumer.cursor.toNat := hholds
          -- The second page has what was recorded since the poll began.
          have hpolled := polled_check hsound hsmall h (k := fun secondCheck =>
            if secondCheck.events ≠ [] then
              (consumer.deliver began secondCheck, some secondCheck.cursor)
            else (consumer.goOn (.waiting began secondCheck notified), none)) (by
            intro page hpage
            split
            · exact ⟨polled_deliver h (by omega) hpage, rfl⟩
            · next hempty =>
                rw [not_not] at hempty
                have hall := recorded_le_of_page hpage hempty
                have hsame : page.cursor = consumer.cursor :=
                  UInt64.toNat_inj.mp (hpage.cursor.trans (by omega))
                exact ⟨polled_goOn h ⟨hbegan, hempty, hsame, fun hlt => by omega⟩, rfl⟩)
          exact ⟨hpolled.1, fun _ => hpolled.2⟩
      | idle => simp [pollStep, hphase] at hstep
      | checked began => simp [pollStep, hphase] at hstep
      | waiting began secondCheck notified => simp [pollStep, hphase] at hstep
  | wake =>
      cases hphase : consumer.phase with
      | waiting began secondCheck notified =>
          cases notified with
          | false => simp [pollStep, hphase] at hstep
          | true =>
              rw [pollStep, hphase] at hstep
              obtain rfl := Option.some.inj hstep
              rw [hphase] at hholds
              have hbegan : began ≤ consumer.cursor.toNat := hholds.1
              -- Notified, the consumer reads the page it returns.
              have hpolled := polled_check hsound hsmall h (k := fun page =>
                (consumer.deliver began page, some page.cursor)) (by
                intro page hpage
                exact ⟨polled_deliver h (by omega) hpage, rfl⟩)
              exact ⟨hpolled.1, fun _ => hpolled.2⟩
      | idle => simp [pollStep, hphase] at hstep
      | checked began => simp [pollStep, hphase] at hstep
      | armed began notified => simp [pollStep, hphase] at hstep
  | timeout =>
      cases hphase : consumer.phase with
      | waiting began secondCheck notified =>
          rw [pollStep, hphase] at hstep
          obtain rfl := Option.some.inj hstep
          rw [hphase] at hholds
          obtain ⟨hbegan, hevents, hsame, -⟩ := hholds
          exact ⟨polled_timeout h hbegan hevents hsame, nofun⟩
      | idle => simp [pollStep, hphase] at hstep
      | checked began => simp [pollStep, hphase] at hstep
      | armed began notified => simp [pollStep, hphase] at hstep
  | abandon =>
      obtain rfl := Option.some.inj hstep
      refine ⟨⟨⟨h.start_le, h.cursor_le, h.received, h.covered_le, trivial⟩, rfl, Nat.le_refl _,
        List.prefix_rfl, by simp⟩, nofun⟩

end PollStep

/-! ## Steps of the system -/

/-- A consumer keeps what it has and its cursor does not go back. -/
def Advances (consumer consumer' : Consumer) : Prop :=
  consumer'.start = consumer.start ∧ consumer.cursor ≤ consumer'.cursor ∧
    consumer.received <+: consumer'.received

theorem advances_refl (consumer : Consumer) : Advances consumer consumer :=
  ⟨rfl, UInt64.le_refl _, List.prefix_rfl⟩

/-- What one step of the system does. -/
inductive Moved (serde : Serde) (s : Polling) : PollingAction → Polling → Prop where
  | append {io : Io} {event : RuntimeEvent} {tsMs : UInt64} {syncAfterAppend : Bool}
      {recording : Recording} {pendingNotifies : Nat}
      (hstepped : Recording.Stepped serde s.recording (.append io event tsMs syncAfterAppend)
        recording)
      (hpending : recording.history = s.recording.history ∧
        pendingNotifies = s.pendingNotifies ∨ 0 < pendingNotifies) :
      Moved serde s (.log (.append io event tsMs syncAfterAppend))
        { s with recording := recording, pendingNotifies := pendingNotifies }
  | reopen {instant : Nat} {recording : Recording}
      (hstepped : Recording.Stepped serde s.recording (.reopen instant) recording) :
      Moved serde s (.log (.reopen instant))
        { s with
          recording := recording
          pendingNotifies := 0
          consumers := fun id =>
            (s.consumers id).map fun consumer => { consumer with phase := .idle } }
  | notify :
      Moved serde s .notify
        { s with
          pendingNotifies := s.pendingNotifies - 1
          consumers := fun id => (s.consumers id).map Consumer.notify }
  | subscribe {id : Nat} {since : Option EventCursor} (hfree : s.consumers id = none)
      (hsince : ∀ cursor ∈ since, cursor ∈ s.handedOut) :
      Moved serde s (.subscribe id since) (s.put id (.subscribed since) none)
  | poll {id : Nat} {action : PollAction} {consumer : Consumer}
      {next : Consumer × Option EventCursor} (hconsumer : s.consumers id = some consumer)
      (hstep : s.pollStep consumer action = some next) :
      Moved serde s (.poll id action) (s.put id next.1 next.2)

theorem moved {s s' : Polling} {action : PollingAction} (hsound : Sound serde s)
    (hhandled : Handled serde s action) (hstep : (system serde).step s action = some s') :
    Moved serde s action s' := by
  cases action with
  | log action =>
      cases action with
      | append io event tsMs syncAfterAppend =>
          obtain ⟨recording, hrecording, rfl⟩ := Option.map_eq_some_iff.mp hstep
          have hstepped := Recording.stepped_append hsound.agrees.wellKept hhandled hrecording
          by_cases hkey : EventLogKey.fromEvent event ∈ s.recording.log.seenEventKeys
          · rw [if_pos hkey]
            cases hstepped with
            | known => exact .append (.known hkey) (.inl ⟨rfl, rfl⟩)
            | recorded hnew => exact absurd hkey hnew
          · rw [if_neg hkey]
            exact .append hstepped (.inr (Nat.succ_pos _))
      | reopen instant =>
          obtain ⟨recording, hrecording, rfl⟩ := Option.map_eq_some_iff.mp hstep
          have hreopen : Recording.Handled serde s.recording (.reopen instant) := trivial
          exact .reopen (Recording.stepped hsound.agrees.wellKept hreopen hrecording)
  | notify =>
      simp only [system] at hstep
      split at hstep
      · cases hstep
        exact .notify
      · cases hstep
  | subscribe id since =>
      simp only [system] at hstep
      split at hstep
      · next hcond =>
          cases hstep
          exact .subscribe hcond.1 hcond.2
      · cases hstep
  | poll id action =>
      obtain ⟨consumer, hconsumer, hpoll⟩ := Option.bind_eq_some_iff.mp hstep
      obtain ⟨next, hnext, rfl⟩ := Option.map_eq_some_iff.mp hpoll
      exact .poll hconsumer hnext

/-- The recorded events stay recorded. -/
theorem prefix_history {s s' : Polling} {action : PollingAction}
    (hstep : (system serde).step s action = some s') :
    s.recording.history <+: s'.recording.history := by
  cases action with
  | log action =>
      cases action with
      | append io event tsMs syncAfterAppend =>
          obtain ⟨recording, hrecording, rfl⟩ := Option.map_eq_some_iff.mp hstep
          exact Recording.prefix_history hrecording
      | reopen instant =>
          obtain ⟨recording, hrecording, rfl⟩ := Option.map_eq_some_iff.mp hstep
          exact Recording.prefix_history hrecording
  | notify =>
      simp only [system] at hstep
      split at hstep
      · cases hstep
        exact List.prefix_rfl
      · cases hstep
  | subscribe id since =>
      simp only [system] at hstep
      split at hstep
      · cases hstep
        exact List.prefix_rfl
      · cases hstep
  | poll id action =>
      obtain ⟨consumer, -, hpoll⟩ := Option.bind_eq_some_iff.mp hstep
      obtain ⟨next, -, rfl⟩ := Option.map_eq_some_iff.mp hpoll
      exact List.prefix_rfl

theorem Moved.advances {s s' : Polling} {action : PollingAction} (hsound : Sound serde s)
    (hsmall : s.recorded < 2 ^ 64) (h : Moved serde s action s') {id : Nat} {consumer : Consumer}
    (hconsumer : s.consumers id = some consumer) :
    ∃ consumer', s'.consumers id = some consumer' ∧ Advances consumer consumer' := by
  cases h with
  | append => exact ⟨consumer, hconsumer, advances_refl consumer⟩
  | reopen =>
      exact ⟨_, Option.map_eq_some_iff.mpr ⟨consumer, hconsumer, rfl⟩, advances_refl consumer⟩
  | notify =>
      exact ⟨_, Option.map_eq_some_iff.mpr ⟨consumer, hconsumer, rfl⟩, advances_refl consumer⟩
  | @subscribe id' since hfree hsince =>
      have hne : id ≠ id' := by
        rintro rfl
        cases hfree.symm.trans hconsumer
      exact ⟨consumer, (Function.update_of_ne hne _ _).trans hconsumer, advances_refl consumer⟩
  | @poll id' action consumer' next hconsumer' hstep =>
      by_cases hid : id = id'
      · subst hid
        obtain rfl := Option.some.inj (hconsumer.symm.trans hconsumer')
        obtain ⟨hpolled, -⟩ :=
          polled_of_pollStep hsound hsmall (hsound.standing id consumer hconsumer) hstep
        exact ⟨next.1, Function.update_self _ _ _, hpolled.start_eq,
          UInt64.le_iff_toNat_le.mpr hpolled.cursor_le, hpolled.received⟩
      · exact ⟨consumer, (Function.update_of_ne hid _ _).trans hconsumer, advances_refl consumer⟩

theorem Standing.notify {s : Polling} {consumer : Consumer} (h : Standing s consumer) :
    Standing
      { s with
        pendingNotifies := s.pendingNotifies - 1
        consumers := fun id => (s.consumers id).map Consumer.notify }
      consumer.notify := by
  have hholds := h.phase
  refine h.mono List.prefix_rfl rfl ?_
  change PollPhase.Holds _ consumer.cursor consumer.phase.notify
  cases hphase : consumer.phase with
  | idle => trivial
  | checked began =>
      rw [hphase] at hholds
      exact hholds
  | armed began notified =>
      rw [hphase] at hholds
      exact hholds
  | waiting began secondCheck notified =>
      rw [hphase] at hholds
      obtain ⟨hbegan, hevents, hcursor, -⟩ := hholds
      exact ⟨hbegan, hevents, hcursor, fun _ => .inl rfl⟩

theorem Standing.append {s : Polling} {consumer : Consumer} {recording : Recording}
    {pendingNotifies : Nat} (h : Standing s consumer)
    (hhistory : s.recording.history <+: recording.history)
    (hpending : recording.history = s.recording.history ∧
      pendingNotifies = s.pendingNotifies ∨ 0 < pendingNotifies) :
    Standing { s with recording := recording, pendingNotifies := pendingNotifies } consumer := by
  have hholds := h.phase
  refine h.mono hhistory rfl ?_
  cases hphase : consumer.phase with
  | idle => trivial
  | checked began =>
      rw [hphase] at hholds
      exact hholds
  | armed began notified =>
      rw [hphase] at hholds
      exact hholds
  | waiting began secondCheck notified =>
      rw [hphase] at hholds
      obtain ⟨hbegan, hevents, hcursor, hawake⟩ := hholds
      refine ⟨hbegan, hevents, hcursor, fun hlt => ?_⟩
      rcases hpending with ⟨hsame, hcount⟩ | hpos
      · rw [recorded, hsame] at hlt
        rw [hcount]
        exact hawake hlt
      · exact .inr hpos

theorem standing_subscribed {s : Polling} (hhandedOut : ∀ cursor ∈ s.handedOut,
    cursor.toNat ≤ s.recorded) {since : Option EventCursor}
    (hsince : ∀ cursor ∈ since, cursor ∈ s.handedOut) :
    Standing s (.subscribed since) := by
  refine ⟨Nat.le_refl _, ?_, ?_, Nat.zero_le _, trivial⟩
  · cases since with
    | none => exact Nat.zero_le _
    | some cursor => exact hhandedOut cursor (hsince cursor rfl)
  · change [] = ((s.recording.history.take (since.getD 0).toNat).drop
      (since.getD 0).toNat).map EventLogEntry.event
    rw [List.drop_of_length_le (List.length_take_le _ _)]
    rfl

theorem Sound.step {s s' : Polling} {action : PollingAction} (hsound : Sound serde s)
    (hsmall : s.recorded < 2 ^ 64) (hhandled : Handled serde s action)
    (hstep : (system serde).step s action = some s') : Sound serde s' := by
  have hstarts := prefix_history hstep
  cases moved hsound hhandled hstep with
  -- The history grows at its end, so consumers keep what they have.
  | @append io event tsMs syncAfterAppend _ _ hstepped hpending =>
      have hevent : Recording.Handled serde s.recording
          (.append io event tsMs syncAfterAppend) := hhandled
      refine ⟨hsound.agrees.stepped hevent hstepped, ?_, ?_⟩
      · intro id consumer hconsumer
        exact (hsound.standing id consumer hconsumer).append hstarts hpending
      · intro cursor hcursor
        exact (hsound.handedOut cursor hcursor).trans hstarts.length_le
  | @reopen instant _ hstepped =>
      have hreopen : Recording.Handled serde s.recording (.reopen instant) := trivial
      refine ⟨hsound.agrees.stepped hreopen hstepped, ?_, ?_⟩
      · intro id consumer hconsumer
        obtain ⟨consumer₀, hconsumer₀, rfl⟩ := Option.map_eq_some_iff.mp hconsumer
        exact (hsound.standing id consumer₀ hconsumer₀).mono hstarts rfl trivial
      · intro cursor hcursor
        exact (hsound.handedOut cursor hcursor).trans hstarts.length_le
  | notify =>
      refine ⟨hsound.agrees, ?_, hsound.handedOut⟩
      intro id consumer hconsumer
      obtain ⟨consumer₀, hconsumer₀, rfl⟩ := Option.map_eq_some_iff.mp hconsumer
      exact (hsound.standing id consumer₀ hconsumer₀).notify
  | @subscribe id since hfree hsince =>
      refine ⟨hsound.agrees, ?_, hsound.handedOut⟩
      intro id' consumer hconsumer
      have hstanding : Standing s consumer := by
        rcases Pool.of_update hconsumer with ⟨-, rfl⟩ | ⟨-, hold⟩
        · exact standing_subscribed hsound.handedOut hsince
        · exact hsound.standing id' consumer hold
      exact hstanding.mono List.prefix_rfl rfl hstanding.phase
  | @poll id action consumer next hconsumer hpoll =>
      obtain ⟨hpolled, -⟩ :=
        polled_of_pollStep hsound hsmall (hsound.standing id consumer hconsumer) hpoll
      refine ⟨hsound.agrees, ?_, ?_⟩
      · intro id' consumer' hconsumer'
        have hstanding : Standing s consumer' := by
          rcases Pool.of_update hconsumer' with ⟨-, rfl⟩ | ⟨-, hold⟩
          · exact hpolled.standing
          · exact hsound.standing id' consumer' hold
        exact hstanding.mono List.prefix_rfl rfl hstanding.phase
      · intro cursor hcursor
        rcases List.mem_append.mp hcursor with hcursor | hcursor
        · exact hpolled.handedOut cursor (Option.mem_toList.mp hcursor)
        · exact hsound.handedOut cursor hcursor

/-- The invariant holds along runs, as long as the sequence numbers last. -/
theorem sound_of_reaches {path : String} {s : Polling}
    (h : (system serde).Reaches (Handled serde) (fresh path) s) (hsmall : s.recorded < 2 ^ 64) :
    Sound serde s := by
  induction h with
  | refl => exact sound_fresh path
  | @step s s' action _ hhandled hstep ih =>
      have hle : s.recorded ≤ s'.recorded := (prefix_history hstep).length_le
      exact (ih (by omega)).step (by omega) hhandled hstep

/-! ## The contract holds -/

/-- In every run that recorded fewer than 2^64 events, consumers can rely on the
contract. -/
theorem contract_of_reaches {path : String} {s : Polling}
    (h : (system serde).Reaches (Handled serde) (fresh path) s) (hsmall : s.recorded < 2 ^ 64) :
    Contract serde s := by
  have hsound := sound_of_reaches h hsmall
  constructor
  · intro id consumer hconsumer
    exact (hsound.standing id consumer hconsumer).serves
  · intro action s' id consumer hhandled hstep hconsumer
    exact (moved hsound hhandled hstep).advances hsound hsmall hconsumer
  · intro id action s' consumer consumer' hreads hstep hconsumer hconsumer'
    have hhandled : Handled serde s (.poll id action) := trivial
    cases moved hsound hhandled hstep with
    | @poll _ _ consumer₀ next hconsumer₀ hpoll =>
        obtain rfl := Option.some.inj (hconsumer.symm.trans hconsumer₀)
        obtain rfl := Option.some.inj ((put_consumers_self _ _ _ _).symm.trans hconsumer')
        obtain ⟨-, hfails⟩ :=
          polled_of_pollStep hsound hsmall (hsound.standing id consumer hconsumer) hpoll
        rw [hfails hreads, hsound.agrees.exists_dropped_iff hsmall]
  · intro io event tsMs syncAfterAppend s' hhandles hstep
    have hhandled : Handled serde s (.log (.append io event tsMs syncAfterAppend)) := hhandles
    cases moved hsound hhandled hstep with
    | append hstepped hpending =>
        cases hstepped with
        | known hknown =>
            refine ⟨[], (List.append_nil _).symm, ?_, fun hne => absurd rfl hne, by simp⟩
            rw [List.append_nil]
            exact hsound.agrees.history
        | @recorded _ _ _ _ log dropped hnew hrecorded =>
            refine ⟨_, rfl, ?_, ?_, ?_⟩
            · rw [hrecorded.events, List.append_assoc, List.take_append_drop, ← List.append_assoc,
                ← hsound.agrees.history]
            · intro hgone
              rcases hrecorded.drops with ⟨-, rfl⟩ | hretain
              · exact absurd List.take_zero hgone
              · change _ ≤ log.events.length
                rw [hrecorded.events]
                exact (retainFromIndex_eq_some hretain).2.1
            · intro entry hentry
              rcases hrecorded.drops with ⟨-, rfl⟩ | hretain
              · rw [List.take_zero] at hentry
                cases hentry
              · obtain ⟨nowMs, hnow, hold⟩ := (retainFromIndex_eq_some hretain).2.2
                exact ⟨nowMs, hnow, hold entry hentry⟩

/-! ## When the sequence numbers are used up -/

/-- Recordings that only grow do not touch the consumers. -/
theorem follow_quietAppends (s : Polling) {n : Nat} {recording : Recording}
    (h : (Recording.system lostSerde).follow s.recording (Recording.quietAppends n) =
      some recording) :
    ∃ s', (system lostSerde).follow s ((Recording.quietAppends n).map .log) = some s' ∧
      s'.recording = recording ∧ s'.consumers = s.consumers ∧ s'.handedOut = s.handedOut := by
  generalize hactions : Recording.quietAppends n = actions at h ⊢
  have hquiet : ∀ action ∈ actions, ∃ i, action = Recording.quietAppend i := by
    intro action haction
    rw [← hactions] at haction
    obtain ⟨i, -, rfl⟩ := List.mem_map.mp haction
    exact ⟨i, rfl⟩
  clear hactions
  induction actions generalizing s with
  | nil =>
      cases h
      exact ⟨s, rfl, rfl, rfl, rfl⟩
  | cons action actions ih =>
      obtain ⟨recording₁, hstep, hrest⟩ := Option.bind_eq_some_iff.mp h
      obtain ⟨i, rfl⟩ := hquiet action List.mem_cons_self
      obtain ⟨s₁, hstep₁, hrecording₁, hconsumers₁, hhandedOut₁⟩ : ∃ s₁,
          (system lostSerde).step s (.log (Recording.quietAppend i)) = some s₁ ∧
          s₁.recording = recording₁ ∧ s₁.consumers = s.consumers ∧
          s₁.handedOut = s.handedOut :=
        ⟨_, Option.map_eq_some_iff.mpr ⟨recording₁, hstep, rfl⟩, rfl, rfl, rfl⟩
      obtain ⟨s', hfollow, hrecording, hconsumers, hhandedOut⟩ := ih s₁ (by rwa [hrecording₁])
        fun action haction => hquiet action (List.mem_cons_of_mem _ haction)
      refine ⟨s', ?_, hrecording, hconsumers.trans hconsumers₁, hhandedOut.trans hhandedOut₁⟩
      rw [List.map_cons, StepSystem.follow, hstep₁]
      exact hfollow

/-- A poll that does not wait, of a consumer without a poll in progress, ends with
what it reads. -/
theorem step_poll_none (serde : Serde) {s : Polling} {id : Nat} {consumer : Consumer}
    {page : EventLogPage} (hconsumer : s.consumers id = some consumer)
    (hphase : consumer.phase = .idle)
    (hpage : s.recording.log.eventsSince consumer.since = .ok page) :
    (system serde).step s (.poll id (.poll none)) =
      some (s.put id (consumer.deliver s.recorded page) (some page.cursor)) := by
  refine Option.bind_eq_some_iff.mpr ⟨consumer, hconsumer, ?_⟩
  rw [pollStep, hphase]
  simp only [check, hpage, clampedEventWaitMs, true_or, if_true]
  rfl

/-- No cursor is too old for a quiet log. -/
theorem eventsSince_quiet {n : Nat} {log : EventLog} (h : Quiet (n + 1) log)
    (since : Option EventCursor) : ∃ page, log.eventsSince since = .ok page := by
  have holdest : oldestValidCursor log.events = some (quietEntry 0).seq.saturatingPred := by
    rw [h.events, List.range_succ_eq_map]
    rfl
  have hvalid : ¬ since.getD 0 < (quietEntry 0).seq.saturatingPred := by
    intro hlt
    have hnat := UInt64.lt_iff_toNat_lt.mp hlt
    exact absurd hnat (Nat.not_lt_zero _)
  rw [eventsSince, holdest]
  simp only [Option.filter_some, hvalid, decide_false, Bool.false_eq_true, if_false]
  exact ⟨_, rfl⟩

/-- A consumer polls after `n` events and after one more. -/
def twoPolls (n : Nat) : List PollingAction :=
  (Recording.quietAppends n).map .log ++
    [.subscribe 0 none, .poll 0 (.poll none), .log (Recording.quietAppend n),
      .poll 0 (.poll none)]

theorem follow_twoPolls {n : Nat} (hn : n + 1 < 2 ^ 128) :
    ∃ s, (system lostSerde).follow (fresh "events/runtime.jsonl") (twoPolls (n + 1)) = some s ∧
      s.recorded = n + 2 ∧ ∃ consumer, s.consumers 0 = some consumer ∧
        consumer.covered = n + 2 := by
  obtain ⟨recording, hrecording, -, hquiet, hhistory, -, -⟩ :=
    Recording.follow_quietAppends "events/runtime.jsonl" (n := n + 1) (by omega)
  obtain ⟨s, hfollow, hsame, hconsumers, -⟩ :=
    follow_quietAppends (fresh "events/runtime.jsonl") hrecording
  have hfree : s.consumers 0 = none := by rw [hconsumers]; rfl
  have hquietLog : Quiet (n + 1) s.recording.log := by rwa [hsame]
  have hsubscribe : (system lostSerde).step s (.subscribe 0 none) =
      some (s.put 0 (.subscribed none) none) := if_pos ⟨hfree, by simp⟩
  -- the first poll gets the events so far
  obtain ⟨page, hpage⟩ := eventsSince_quiet hquietLog none
  obtain ⟨s₂, hpoll, hsame₂, consumer, hconsumer, hidle⟩ : ∃ s₂,
      (system lostSerde).step (s.put 0 (.subscribed none) none) (.poll 0 (.poll none)) = some s₂ ∧
      s₂.recording = s.recording ∧ ∃ consumer, s₂.consumers 0 = some consumer ∧
        consumer.phase = .idle :=
    ⟨_, step_poll_none lostSerde (put_consumers_self s 0 (.subscribed none) none) rfl hpage, rfl,
      _, put_consumers_self _ 0 _ _, rfl⟩
  -- the second one follows one more event
  obtain ⟨recording', hstep, hquiet', hhistory', -⟩ := Recording.step_quietAppend hquietLog hn
  rw [← hsame₂] at hstep
  obtain ⟨s₃, happend, hsame₃, hconsumers₃⟩ : ∃ s₃,
      (system lostSerde).step s₂ (.log (Recording.quietAppend (n + 1))) = some s₃ ∧
      s₃.recording = recording' ∧ s₃.consumers = s₂.consumers :=
    ⟨_, Option.map_eq_some_iff.mpr ⟨recording', hstep, rfl⟩, rfl, rfl⟩
  rw [← hconsumers₃] at hconsumer
  rw [← hsame₃] at hquiet'
  obtain ⟨page', hpage'⟩ := eventsSince_quiet hquiet' consumer.since
  have hrecorded : s₃.recorded = n + 2 := by
    rw [recorded, hsame₃, hhistory', List.length_append, hsame, hhistory, hquiet.events,
      List.length_map, List.length_range, List.length_singleton]
  refine ⟨s₃.put 0 (consumer.deliver s₃.recorded page') (some page'.cursor), ?_, hrecorded, _,
    put_consumers_self s₃ 0 _ _, hrecorded⟩
  rw [twoPolls, StepSystem.follow_append hfollow, StepSystem.follow, hsubscribe, Option.bind_some,
    StepSystem.follow, hpoll, Option.bind_some, StepSystem.follow, happend, Option.bind_some,
    StepSystem.follow, step_poll_none lostSerde hconsumer hidle hpage']
  rfl

/-- Consumers of a young log can rely on the contract. -/
theorem contract_of_two_events :
    ∃ s, (system lostSerde).follow (fresh "events/runtime.jsonl") (twoPolls 1) = some s ∧
      Contract lostSerde s := by
  obtain ⟨s, hfollow, hrecorded, -⟩ := follow_twoPolls (n := 0) (by decide)
  refine ⟨s, hfollow, contract_of_reaches (StepSystem.reaches_of_follow hfollow ?_) ?_⟩
  · intro s action haction
    rcases List.mem_append.mp haction with haction | haction
    · obtain ⟨_, hquiet, rfl⟩ := List.mem_map.mp haction
      obtain ⟨i, -, rfl⟩ := List.mem_map.mp hquiet
      exact lostSerde_handles _ _
    · simp only [List.mem_cons, List.not_mem_nil, or_false] at haction
      rcases haction with rfl | rfl | rfl | rfl
      · trivial
      · trivial
      · exact lostSerde_handles _ _
      · trivial
  · rw [hrecorded]
    decide

/-- The event that comes after 2^64 - 1 others gets the sequence number of the last
of them, and a consumer that has polled those never gets it. -/
theorem event_with_repeated_seq_is_missed :
    ∃ s, (system lostSerde).follow (fresh "events/runtime.jsonl") (twoPolls (2 ^ 64 - 1)) =
        some s ∧ ¬ Contract lostSerde s := by
  obtain ⟨n, hn⟩ : ∃ n : Nat, n + 1 = 2 ^ 64 - 1 := ⟨2 ^ 64 - 2, by omega⟩
  obtain ⟨s, hfollow, -, consumer, hconsumer, hcovered⟩ := follow_twoPolls (n := n) (by omega)
  refine ⟨s, hn ▸ hfollow, fun h => ?_⟩
  have hle := (h.serves 0 consumer hconsumer).covered_le
  have hlt := consumer.cursor.toNat_lt
  omega

end Polling

end LittleOrgans.Runtime
