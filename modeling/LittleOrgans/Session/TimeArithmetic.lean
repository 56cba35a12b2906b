import LittleOrgans.Concurrency.GracePeriods
import LittleOrgans.Library.Numbers
import LittleOrgans.Session.MailHandlers

/-!
# Time arithmetic on values of the wire

`wait` of the session daemon, the mail safety configuration, and the check of the sender rate
with the subtraction that may leave the range of timestamps. `timeArithmetic_iff` says which
values of a request and of the configuration the additions and the subtraction survive; the
grace periods of the kills are in `GracePeriods`.
-/

set_option autoImplicit false

namespace LittleOrgans.Session

open LittleOrgans.Core
open LittleOrgans.Library
open LittleOrgans.Store
open LittleOrgans.Daemon
open LittleOrgans.Concurrency

/-! ## `wait` -/

/-- What a client waits for. -/
inductive WaitCondition where
  | running
  | terminated
  | count (count : Nat)
  deriving DecidableEq

/-- A request to wait for the sessions a selector finds. -/
structure WaitRequest where
  selector : Selector
  condition : WaitCondition
  timeoutSecs : UInt64

/-- The sessions at the end of a wait, and whether they meet the condition. -/
structure WaitResponse where
  isMatched : Bool
  sessions : List Session

/-- The sessions meet the condition. -/
def waitConditionMet (condition : WaitCondition) (sessions : List Session) : Bool :=
  match condition with
  | .running => sessions.any fun session => session.state = .running
  | .terminated => sessions.any fun session =>
      match session.state with
      | .terminated => true
      | .lost _ => true
      | .spawning => false
      | .running => false
  | .count count => sessions.length = count

variable {last : Nat}

/-- The loop of `wait`; `list` is what the store lists after so many sleeps. -/
def pollSessions (list : Nat → Selector → Except HandlerError (List Session))
    (request : WaitRequest) (clock : PollClock last) (deadline : Instant last) :
    Nat → Nat → Option (Except HandlerError WaitResponse)
  | 0, _ => none
  | polls + 1, sleeps =>
      match withContext "failed to list sessions" (list sleeps request.selector) with
      | .error error => some (.error error)
      | .ok sessions =>
          if waitConditionMet request.condition sessions then some (.ok ⟨true, sessions⟩)
          else if deadline.nanos ≤ (clock.now sleeps).nanos then some (.ok ⟨false, sessions⟩)
          else pollSessions list request clock deadline polls (sleeps + 1)

/-- `wait`: the response after so many polls, or none yet. -/
def wait (list : Nat → Selector → Except HandlerError (List Session)) (request : WaitRequest)
    (clock : PollClock last) (polls : Nat) :
    Library.Outcome (Option (Except HandlerError WaitResponse)) :=
  match clock.started.add (Duration.fromSecs request.timeoutSecs.toNat) with
  | .panicked => .panicked
  | .returned deadline => .returned (pollSessions list request clock deadline polls 0)

/-! ## The mail safety configuration -/

/-- `Duration::seconds` of `chrono`, in microseconds: at most `i64::MAX` milliseconds. -/
def timeDeltaSeconds (secs : Int) : Library.Outcome Int :=
  if -(i64Max / 1000 : Nat) ≤ secs ∧ secs ≤ (i64Max / 1000 : Nat) then
    .returned (secs * 1000000)
  else .panicked

/-- The depth of a conversation when the configuration sets none. -/
def defaultConversationDepthLimit : Nat := 50

/-- The mails of a sender in one window when the configuration sets none. -/
def defaultSenderRateLimit : Nat := 30

/-- The window in seconds when the configuration sets none. -/
def defaultSenderRateWindowSecs : Int := 60

/-- The section of the configuration file about mail. -/
structure MailSafetySection where
  conversationDepthLimit : Option Nat
  senderRateLimit : Option Nat
  senderRateWindowSecs : Option Int64
  deriving DecidableEq

/-- A number of the configuration that must not be zero. -/
def nonzeroUsize (value : Option Nat) (default : Nat) (field : String) : Except String Nat :=
  match value with
  | some 0 => .error (field ++ " must be greater than zero")
  | some value => .ok value
  | none => .ok default

/-- A number of the configuration that must be positive. -/
def nonzeroI64 (value : Option Int64) (default : Int) (field : String) : Except String Int :=
  match value with
  | some value =>
      if value.toInt ≤ 0 then .error (field ++ " must be greater than zero")
      else .ok value.toInt
  | none => .ok default

/-- The three values of a section, before the window becomes a duration. -/
def MailSafetySection.values (safety : MailSafetySection) : Except String (Nat × Nat × Int) := do
  let conversationDepthLimit ← nonzeroUsize safety.conversationDepthLimit
    defaultConversationDepthLimit "safety.conversation_depth_limit"
  let senderRateLimit ← nonzeroUsize safety.senderRateLimit defaultSenderRateLimit
    "safety.sender_rate_limit"
  let senderRateWindowSecs ← nonzeroI64 safety.senderRateWindowSecs defaultSenderRateWindowSecs
    "safety.sender_rate_window_secs"
  pure (conversationDepthLimit, senderRateLimit, senderRateWindowSecs)

/-- `into_config`: the window in seconds becomes a duration, which may panic. -/
def MailSafetySection.intoConfig (safety : MailSafetySection) :
    Library.Outcome (Except String MailSafetyConfig) :=
  match safety.values with
  | .error error => .returned (.error error)
  | .ok (conversationDepthLimit, senderRateLimit, secs) =>
      match timeDeltaSeconds secs with
      | .panicked => .panicked
      | .returned senderRateWindow =>
          .returned (.ok { conversationDepthLimit, senderRateLimit, senderRateWindow })

/-- The limits when the configuration sets none. -/
def defaultMailSafetyConfig : MailSafetyConfig where
  conversationDepthLimit := defaultConversationDepthLimit
  senderRateLimit := defaultSenderRateLimit
  senderRateWindow := defaultSenderRateWindowSecs * 1000000

/-- `load_from_env`: the file is the parsed `mail.toml`, if there is one. -/
def loadFromEnv (file : Except String (Option MailSafetySection)) :
    Library.Outcome (Except String MailSafetyConfig) :=
  match file with
  | .error error => .returned (.error error)
  | .ok none => .returned (.ok defaultMailSafetyConfig)
  | .ok (some safety) => safety.intoConfig

/-- `MailSafetyConfig::load` -/
def loadMailSafety (file : Except String (Option MailSafetySection)) :
    Library.Outcome MailSafetyConfig :=
  match loadFromEnv file with
  | .panicked => .panicked
  | .returned (.ok config) => .returned config
  | .returned (.error _) => .returned defaultMailSafetyConfig

/-! ## The sender rate -/

/-- The timestamps of `chrono`, in microseconds. -/
def InTimestampRange (time : DateTime) : Prop :=
  timestampMillisMin * 1000 ≤ time ∧ time < (timestampMillisMax + 1) * 1000

instance (time : DateTime) : Decidable (InTimestampRange time) :=
  inferInstanceAs (Decidable (_ ∧ _))

/-- `time - delta` -/
def subtractDelta (time : DateTime) (delta : Int) : Library.Outcome DateTime :=
  if InTimestampRange (time - delta) then .returned (time - delta) else .panicked

/-- `enforce_mail_safety`, with the subtraction that may panic. -/
def enforceMailSafetyAt (db : Database) (limits : MailSafetyConfig) (mail : Mail)
    (now : DateTime) : Library.Outcome (Except HandlerError Unit) :=
  let depth := countConversationDepth db mail.contextId
  if mail.intent = .receipt then .returned (.ok ())
  else if limits.conversationDepthLimit ≤ depth then
    .returned (.error (.conversationDepth mail.contextId depth limits.conversationDepthLimit))
  else
    match subtractDelta now limits.senderRateWindow with
    | .panicked => .panicked
    | .returned since =>
        let rate := countSenderRateSince db mail.sender since
        if limits.senderRateLimit ≤ rate then
          .returned (.error (.senderRate rate limits.senderRateWindow limits.senderRateLimit))
        else .returned (.ok ())

/-! ## Panics -/

theorem wait_panicked (list : Nat → Selector → Except HandlerError (List Session))
    (request : WaitRequest) (clock : PollClock last) (polls : Nat) :
    wait list request clock polls = .panicked ↔
      ¬clock.Reaches (Duration.fromSecs request.timeoutSecs.toNat) := by
  rw [wait, PollClock.reaches_iff]
  cases clock.started.add (Duration.fromSecs request.timeoutSecs.toNat) with
  | panicked => simp
  | returned deadline => simp

theorem nonzeroUsize_eq_ok {value : Option Nat} (default : Nat) (field : String) :
    (∃ limit, nonzeroUsize value default field = .ok limit) ↔ value ≠ some 0 := by
  rcases value with _ | _ | value
  · simp [nonzeroUsize]
  · simp [nonzeroUsize]
  · simp [nonzeroUsize]

theorem nonzeroI64_eq_ok {value : Option Int64} (default : Int) (field : String) {secs : Int} :
    nonzeroI64 value default field = .ok secs ↔
      (value = none ∧ secs = default) ∨
        ∃ given, value = some given ∧ 0 < given.toInt ∧ secs = given.toInt := by
  cases value with
  | none => simp [nonzeroI64, eq_comm]
  | some given =>
      rw [nonzeroI64]
      split
      · next hle => simp [not_lt.mpr hle]
      · next hlt => simp [not_le.mp hlt, eq_comm]

theorem values_eq_ok {safety : MailSafetySection} {depth rate : Nat} {secs : Int} :
    safety.values = .ok (depth, rate, secs) ↔
      nonzeroUsize safety.conversationDepthLimit defaultConversationDepthLimit
          "safety.conversation_depth_limit" = .ok depth ∧
        nonzeroUsize safety.senderRateLimit defaultSenderRateLimit
          "safety.sender_rate_limit" = .ok rate ∧
        nonzeroI64 safety.senderRateWindowSecs defaultSenderRateWindowSecs
          "safety.sender_rate_window_secs" = .ok secs := by
  rw [MailSafetySection.values]
  constructor
  · intro h
    obtain ⟨depth', hdepth, h⟩ := Except.bind_eq_ok.mp h
    obtain ⟨rate', hrate, h⟩ := Except.bind_eq_ok.mp h
    obtain ⟨secs', hsecs, h⟩ := Except.bind_eq_ok.mp h
    cases h
    exact ⟨hdepth, hrate, hsecs⟩
  · rintro ⟨hdepth, hrate, hsecs⟩
    rw [hdepth, hrate, hsecs]
    rfl

theorem timeDeltaSeconds_eq_panicked {secs : Int} (h : 0 < secs) :
    timeDeltaSeconds secs = .panicked ↔ (i64Max / 1000 : Nat) < secs := by
  rw [timeDeltaSeconds]
  split
  · next hrange =>
      refine iff_of_false ?_ (not_lt.mpr hrange.2)
      intro hpanic
      cases hpanic
  · next hrange =>
      refine iff_of_true rfl ?_
      by_contra hle
      apply hrange
      omega

/-- The window of the section is longer than any duration, and nothing else is wrong with the
section. -/
def WindowTooLong (safety : MailSafetySection) : Prop :=
  safety.conversationDepthLimit ≠ some 0 ∧ safety.senderRateLimit ≠ some 0 ∧
    ∃ secs, safety.senderRateWindowSecs = some secs ∧ (i64Max / 1000 : Nat) < secs.toInt

theorem intoConfig_panicked {safety : MailSafetySection} :
    safety.intoConfig = .panicked ↔ WindowTooLong safety := by
  rw [MailSafetySection.intoConfig]
  constructor
  · intro h
    split at h
    · cases h
    · next depth rate secs hvalues =>
        obtain ⟨hdepth, hrate, hsecs⟩ := values_eq_ok.mp hvalues
        refine ⟨(nonzeroUsize_eq_ok _ _).mp ⟨depth, hdepth⟩,
          (nonzeroUsize_eq_ok _ _).mp ⟨rate, hrate⟩, ?_⟩
        rcases (nonzeroI64_eq_ok _ _).mp hsecs with ⟨-, rfl⟩ | ⟨given, hgiven, hpos, rfl⟩
        · cases h
        · refine ⟨given, hgiven, (timeDeltaSeconds_eq_panicked hpos).mp ?_⟩
          split at h
          · next hpanic => exact hpanic
          · cases h
  · rintro ⟨hdepth, hrate, given, hgiven, hlong⟩
    obtain ⟨depth, hdepth⟩ := (nonzeroUsize_eq_ok defaultConversationDepthLimit
      "safety.conversation_depth_limit").mpr hdepth
    obtain ⟨rate, hrate⟩ := (nonzeroUsize_eq_ok defaultSenderRateLimit
      "safety.sender_rate_limit").mpr hrate
    have hpos : 0 < given.toInt := by omega
    have hsecs := (nonzeroI64_eq_ok defaultSenderRateWindowSecs
      "safety.sender_rate_window_secs").mpr (.inr ⟨given, hgiven, hpos, rfl⟩)
    rw [values_eq_ok.mpr ⟨hdepth, hrate, hsecs⟩]
    simp only [(timeDeltaSeconds_eq_panicked hpos).mpr hlong]

theorem loadMailSafety_panicked {file : Except String (Option MailSafetySection)} :
    loadMailSafety file = .panicked ↔
      ∃ safety, file = .ok (some safety) ∧ WindowTooLong safety := by
  rcases file with error | _ | safety
  · simp [loadMailSafety, loadFromEnv]
  · simp [loadMailSafety, loadFromEnv]
  · rw [loadMailSafety, loadFromEnv]
    simp only [Except.ok.injEq, Option.some.injEq, exists_eq_left', ← intoConfig_panicked]
    rcases safety.intoConfig with (error | config) | _
    · simp
    · simp
    · simp

theorem subtractDelta_eq_returned {time since : DateTime} {delta : Int} :
    subtractDelta time delta = .returned since ↔
      InTimestampRange (time - delta) ∧ time - delta = since := by
  rw [subtractDelta]
  split
  · next h => simp [h]
  · next h => simp [h]

theorem subtractDelta_eq_panicked {time : DateTime} {delta : Int} :
    subtractDelta time delta = .panicked ↔ ¬InTimestampRange (time - delta) := by
  rw [subtractDelta]
  split
  · next h => simp [h]
  · next h => simp [h]

/-- The check computes the time the window begins. -/
def ChecksRate (db : Database) (limits : MailSafetyConfig) (mail : Mail) : Prop :=
  mail.intent ≠ .receipt ∧
    countConversationDepth db mail.contextId < limits.conversationDepthLimit

theorem enforceMailSafetyAt_panicked (db : Database) (limits : MailSafetyConfig) (mail : Mail)
    (now : DateTime) :
    enforceMailSafetyAt db limits mail now = .panicked ↔
      ChecksRate db limits mail ∧ ¬InTimestampRange (now - limits.senderRateWindow) := by
  rw [enforceMailSafetyAt, ChecksRate, ← subtractDelta_eq_panicked]
  by_cases hreceipt : mail.intent = .receipt
  · simp [hreceipt]
  · by_cases hdepth : limits.conversationDepthLimit ≤ countConversationDepth db mail.contextId
    · simp [hreceipt, hdepth, not_lt.mpr hdepth]
    · cases subtractDelta now limits.senderRateWindow with
      | panicked => simp [hreceipt, hdepth, not_le.mp hdepth]
      | returned since =>
          simp only [hreceipt, hdepth, if_false]
          split
          · simp
          · simp

/-- Where the subtraction does not panic, the check is the one of the mail handlers. -/
theorem enforceMailSafetyAt_returned {db : Database} {limits : MailSafetyConfig} {mail : Mail}
    {now : DateTime} {result : Except HandlerError Unit}
    (h : enforceMailSafetyAt db limits mail now = .returned result) :
    checkMailSafety db limits mail now = result := by
  rw [enforceMailSafetyAt] at h
  rw [checkMailSafety]
  by_cases hreceipt : mail.intent = .receipt
  · simpa [hreceipt] using h
  · by_cases hdepth : limits.conversationDepthLimit ≤ countConversationDepth db mail.contextId
    · simpa [hreceipt, hdepth] using h
    · cases hsince : subtractDelta now limits.senderRateWindow with
      | panicked => simp [hreceipt, hdepth, hsince] at h
      | returned since =>
          obtain ⟨-, rfl⟩ := subtractDelta_eq_returned.mp hsince
          simp only [hreceipt, hdepth, hsince, if_false] at h ⊢
          split at h
          · next hrate =>
              rw [if_pos hrate]
              simpa using h
          · next hrate =>
              rw [if_neg hrate]
              simpa using h

/-- The values that the additions to the clock and the subtraction from it survive: a kill
whose signal was delivered and a wait survive the seconds the clock still has, the
configuration a window that is a duration, and the check of the rate a window that begins at a
timestamp. -/
theorem timeArithmetic_iff (last : Nat) :
    (∀ (target : KillAnswers) (clock : PollClock last) (signal : RuntimeSignal)
        (graceSecs : UInt64) (polls : Nat),
      (target.runKillLoop clock signal graceSecs polls).2 ≠ .panicked ↔
        (target.sendSignal signal = .ok .signalled →
          clock.Reaches (Duration.fromSecs graceSecs.toNat))) ∧
    (∀ (target : PidAnswers) (clock : PollClock last) (request : KillByPidRequest) (polls : Nat),
      (target.killPid clock request polls).2 ≠ .panicked ↔
        (target.sendRawSignalForKill request.signal = .ok .signalled →
          clock.Reaches (Duration.fromSecs request.graceSecs.toNat))) ∧
    (∀ (status : Nat → Except DaemonError (List Lifecycle)) (sessionId : SessionId)
        (clock : PollClock last) (graceSecs : UInt64) (polls : Nat),
      waitForTerminalUntil status sessionId clock (Duration.fromSecs graceSecs.toNat) polls ≠
          .panicked ↔
        clock.Reaches (max (Duration.fromSecs graceSecs.toNat) (Duration.fromSecs 1))) ∧
    (∀ (list : Nat → Selector → Except HandlerError (List Session)) (request : WaitRequest)
        (clock : PollClock last) (polls : Nat),
      wait list request clock polls ≠ .panicked ↔
        clock.Reaches (Duration.fromSecs request.timeoutSecs.toNat)) ∧
    (∀ file : Except String (Option MailSafetySection),
      loadMailSafety file ≠ .panicked ↔
        ∀ safety, file = .ok (some safety) → ¬WindowTooLong safety) ∧
    (∀ (db : Database) (limits : MailSafetyConfig) (mail : Mail) (now : DateTime),
      enforceMailSafetyAt db limits mail now ≠ .panicked ↔
        (ChecksRate db limits mail → InTimestampRange (now - limits.senderRateWindow))) := by
  refine ⟨?_, ?_, ?_, ?_, ?_, ?_⟩
  · intro target clock signal graceSecs polls
    rw [Ne, KillAnswers.runKillLoop_panicked, not_and_not_right]
  · intro target clock request polls
    rw [Ne, PidAnswers.killPid_panicked, not_and_not_right]
  · intro status sessionId clock graceSecs polls
    rw [Ne, waitForTerminalUntil_panicked, not_not]
  · intro list request clock polls
    rw [Ne, wait_panicked, not_not]
  · intro file
    rw [Ne, loadMailSafety_panicked, not_exists]
    exact forall_congr' fun safety => not_and
  · intro db limits mail now
    rw [Ne, enforceMailSafetyAt_panicked, not_and_not_right]

/-- The last instant of a clock of 64-bit seconds. -/
def lastUnixInstant : Nat := 9223372036854775808 * 1000000000 - 1

/-- The clock just after the start. -/
def bootClock : PollClock lastUnixInstant where
  started := ⟨0, Nat.zero_le _⟩
  now _ := ⟨0, Nat.zero_le _⟩

/-- A runtime that takes every signal and does not end. -/
def stubbornRuntime : KillAnswers where
  sendSignal _ := .ok .signalled
  sendKill _ := .ok ()
  isAlive _ := .ok true
  isTerminal _ := .ok false

/-- The longest grace period panics after the signal. -/
theorem runKillLoop_longest_grace :
    stubbornRuntime.runKillLoop bootClock .term 18446744073709551615 1 = ([.term], .panicked) := by
  have hover : bootClock.started.add (Duration.fromSecs (18446744073709551615 : UInt64).toNat) =
      .panicked := by
    rw [Instant.add_eq_panicked]
    decide
  rw [KillAnswers.runKillLoop]
  simp only [stubbornRuntime, hover]

end LittleOrgans.Session
