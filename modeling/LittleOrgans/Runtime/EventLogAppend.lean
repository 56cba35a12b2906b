import LittleOrgans.Library.Except
import LittleOrgans.Runtime.LostRecords
import Mathlib.Data.List.TakeWhile

/-!
# What an append does

`appendRecordedEvent_eq_ok` says when an append succeeds and what it leaves: an
event whose key is known changes nothing; any other is written behind the others
and takes the next sequence number, and the entries that `retainFromIndex` lets
go are dropped. A failed append keeps the key and the sequence number it took
(`seenEventKeys_of_error`), so that appending the event again records nothing
(`retry_records_nothing`).

`append_atomic_iff` follows: an append is atomic on error exactly when it does
not fail.
-/

set_option autoImplicit false

namespace LittleOrgans.Runtime

open LittleOrgans.Core
open LittleOrgans.Library.Lines
open LittleOrgans.Library.Stateful

namespace EventLog

variable {serde : Serde} {io : Io} {log log' : EventLog}

/-! ## The steps of an append -/

theorem run_attempt (step : IoStep) (context : LogError) (log : EventLog) :
    (attempt io step context).run log =
      if io.fails = some step then .error context log else .ok ⟨⟩ log := by
  rw [attempt]
  split <;> rfl

theorem attempt_eq_ok {step : IoStep} {context : LogError} {u : PUnit} :
    (attempt io step context).run log = .ok u log' ↔ io.fails ≠ some step ∧ log' = log := by
  rw [run_attempt]
  split
  · next h => simp [h]
  · next h =>
      constructor
      · intro heq
        cases heq
        exact ⟨h, rfl⟩
      · rintro ⟨-, rfl⟩
        rfl

theorem ofExcept_eq_ok {α : Type} {x : Except LogError α} {a : α} :
    (ofExcept x).run log = .ok a log' ↔ x = .ok a ∧ log' = log := by
  cases x with
  | ok a' =>
      constructor
      · intro h
        cases h
        exact ⟨rfl, rfl⟩
      · rintro ⟨h, rfl⟩
        cases h
        rfl
  | error e =>
      constructor
      · intro h
        cases h
      · rintro ⟨h, -⟩
        cases h

theorem modify_eq_ok {f : EventLog → EventLog} {u : PUnit} :
    (modify f : LogM PUnit).run log = .ok u log' ↔ log' = f log := by
  rw [EStateM.run_modify]
  constructor
  · intro h
    cases h
    rfl
  · rintro rfl
    rfl

theorem get_bind_eq_ok {α : Type} {k : EventLog → LogM α} {a : α} :
    (get >>= k).run log = .ok a log' ↔ (k log).run log = .ok a log' := by
  rw [EStateM.run_bind, EStateM.run_get]

/-- The log after bytes were written through the open handle. -/
def wrote (log : EventLog) (bytes : Bytes) : EventLog :=
  if log.linked then { log with file := log.file ++ bytes } else log

@[simp]
theorem wrote_linked (log : EventLog) (bytes : Bytes) :
    (log.wrote bytes).linked = log.linked := by
  rw [wrote]
  split <;> rfl

theorem wrote_wrote (log : EventLog) (bytes more : Bytes) :
    (log.wrote bytes).wrote more = log.wrote (bytes ++ more) := by
  by_cases h : log.linked = true
  · simp [wrote, h]
  · simp [wrote, h]

theorem writeLine_eq_ok {line : Bytes} {u : PUnit} :
    (writeLine io line).run log = .ok u log' ↔
      io.brokenWrite = none ∧ log' = log.wrote line := by
  rw [writeLine]
  cases hbroken : io.brokenWrite with
  | none =>
      rw [writeAll, modify_eq_ok]
      simp [wrote]
  | some written =>
      constructor
      · intro h
        obtain ⟨-, log₁, -, hthrow⟩ := run_bind_eq_ok.mp h
        cases hthrow
      · rintro ⟨h, -⟩
        cases h

theorem writeEntry_eq_ok {entry : EventLogEntry} {u : PUnit} :
    (writeEntry serde io entry).run log = .ok u log' ↔
      ∃ line, encodeEntry serde "failed to encode event log" entry = .ok line ∧
        io.brokenWrite = none ∧ io.fails ≠ some .newline ∧
        log' = log.wrote (line ++ [newline]) := by
  simp only [writeEntry, run_bind_eq_ok, ofExcept_eq_ok, writeLine_eq_ok, attempt_eq_ok, writeAll,
    modify_eq_ok]
  constructor
  · rintro ⟨line, -, ⟨hline, rfl⟩, -, -, ⟨hbroken, rfl⟩, -, -, ⟨hnewline, rfl⟩, rfl⟩
    exact ⟨line, hline, hbroken, hnewline, wrote_wrote _ line [newline]⟩
  · rintro ⟨line, hline, hbroken, hnewline, rfl⟩
    exact ⟨line, log, ⟨hline, rfl⟩, ⟨⟩, _, ⟨hbroken, rfl⟩, ⟨⟩, _, ⟨hnewline, rfl⟩,
      (wrote_wrote log line [newline]).symm⟩

/-- This append makes a sync due. -/
def SyncDue (io : Io) (log : EventLog) : Prop :=
  ¬ (log.eventsSinceSync + 1 < EVENT_LOG_SYNC_BATCH ∧
    io.instant - log.lastSync < EVENT_LOG_SYNC_INTERVAL)

instance (io : Io) (log : EventLog) : Decidable (SyncDue io log) :=
  inferInstanceAs (Decidable (¬ (_ ∧ _)))

/-- The log after an append was counted towards the next sync. -/
def counted (io : Io) (syncAfterAppend : Bool) (log : EventLog) : EventLog :=
  if syncAfterAppend then
    if SyncDue io log then { log with eventsSinceSync := 0, lastSync := io.instant }
    else { log with eventsSinceSync := log.eventsSinceSync + 1 }
  else log

theorem countSync_eq_ok {syncAfterAppend : Bool} {u : PUnit} :
    (countSync io syncAfterAppend).run log = .ok u log' ↔
      (syncAfterAppend = true → SyncDue io log → io.fails ≠ some .sync) ∧
        log' = log.counted io syncAfterAppend := by
  cases syncAfterAppend with
  | false =>
      simp only [countSync, counted, Bool.false_eq_true, if_false, false_implies, true_and,
        EStateM.run_pure]
      constructor
      · intro h
        cases h
        rfl
      · rintro rfl
        rfl
  | true =>
      simp only [countSync, counted, if_true, true_implies]
      rw [EStateM.run_bind, EStateM.run_modify, syncIfDue, get_bind_eq_ok]
      by_cases hdue : SyncDue io log
      · have hlate : ¬ (log.eventsSinceSync + 1 < EVENT_LOG_SYNC_BATCH ∧
            io.instant - log.lastSync < EVENT_LOG_SYNC_INTERVAL) := hdue
        rw [if_neg hlate, if_pos hdue, run_bind_eq_ok]
        constructor
        · rintro ⟨_, log₁, hattempt, hmodify⟩
          obtain ⟨hsync, rfl⟩ := attempt_eq_ok.mp hattempt
          exact ⟨fun _ => hsync, modify_eq_ok.mp hmodify⟩
        · rintro ⟨hsync, rfl⟩
          exact ⟨⟨⟩, _, attempt_eq_ok.mpr ⟨hsync hdue, rfl⟩, rfl⟩
      · have hsoon : log.eventsSinceSync + 1 < EVENT_LOG_SYNC_BATCH ∧
            io.instant - log.lastSync < EVENT_LOG_SYNC_INTERVAL := not_not.mp hdue
        rw [if_pos hsoon, if_neg hdue, EStateM.run_pure]
        constructor
        · intro h
          cases h
          exact ⟨fun h => absurd h hdue, rfl⟩
        · rintro ⟨-, rfl⟩
          rfl

/-! ## Compaction -/

/-- The steps of a compaction that the operating system may fail. -/
def compactionSteps : List IoStep := [.createTmp, .writeTmp, .syncTmp, .rename, .reopen]

theorem mem_takeWhile_of_mem_take {α : Type} {p : α → Bool} {as : List α} {n : Nat}
    (hn : n ≤ (as.takeWhile p).length) {a : α} (h : a ∈ as.take n) : a ∈ as.takeWhile p := by
  rw [← List.takeWhile_append_dropWhile (p := p) (l := as), List.take_append_of_le_length hn] at h
  exact List.mem_of_mem_take h

/-- Entries are dropped from the front, each of them old, and enough stay. -/
theorem retainFromIndex_eq_some {events : List EventLogEntry} {retainFrom : Nat}
    (h : retainFromIndex io events = .ok (some retainFrom)) :
    0 < retainFrom ∧ EVENT_LOG_RETENTION_MIN_EVENTS ≤ (events.drop retainFrom).length ∧
      ∃ nowMs, currentTimestampMs io = .ok nowMs ∧
        ∀ entry ∈ events.take retainFrom, isOld nowMs entry = true := by
  rw [retainFromIndex] at h
  split at h
  · cases h
  · next hmany =>
      obtain ⟨nowMs, hnow, h⟩ := Library.Except.bind_eq_ok.mp h
      dsimp only at h
      split at h
      · next hpos =>
          obtain rfl := Option.some.inj (Except.ok.inj h)
          refine ⟨hpos, ?_, nowMs, hnow, ?_⟩
          · rw [List.length_drop]
            omega
          · intro entry hentry
            exact List.mem_takeWhile_imp (mem_takeWhile_of_mem_take (Nat.min_le_right _ _) hentry)
      · cases h

/-- The log after the entries before `retainFrom` were dropped. -/
def compacted (io : Io) (retainFrom : Nat) (retainedLines : List Bytes) (log : EventLog) :
    EventLog :=
  { log with
    file := unlines retainedLines
    linked := true
    events := log.events.drop retainFrom
    eventsSinceSync := 0
    lastSync := io.instant }

theorem compact_eq_ok {retainFrom : Nat} {u : PUnit} :
    (compact serde io retainFrom).run log = .ok u log' ↔
      ∃ retainedLines,
        (log.events.drop retainFrom).mapM (encodeEntry serde "failed to compact event log") =
          .ok retainedLines ∧
        (∀ step ∈ compactionSteps, io.fails ≠ some step) ∧
        log' = log.compacted io retainFrom retainedLines := by
  rw [compact, get_bind_eq_ok]
  simp only [run_bind_eq_ok, modify_eq_ok, attempt_eq_ok, ofExcept_eq_ok, compactionSteps,
    List.forall_mem_cons, List.not_mem_nil, false_implies, implies_true, and_true]
  constructor
  · rintro ⟨-, -, rfl, -, -, ⟨hcreate, rfl⟩, retainedLines, -, ⟨hlines, rfl⟩, -, -, ⟨hwrite, rfl⟩,
      -, -, ⟨hsync, rfl⟩, -, -, ⟨hrename, rfl⟩, -, -, rfl, -, -, ⟨hreopen, rfl⟩, rfl⟩
    exact ⟨retainedLines, hlines, ⟨hcreate, hwrite, hsync, hrename, hreopen⟩, rfl⟩
  · rintro ⟨retainedLines, hlines, ⟨hcreate, hwrite, hsync, hrename, hreopen⟩, rfl⟩
    exact ⟨⟨⟩, _, rfl, ⟨⟩, _, ⟨hcreate, rfl⟩, retainedLines, _, ⟨hlines, rfl⟩, ⟨⟩, _, ⟨hwrite, rfl⟩,
      ⟨⟩, _, ⟨hsync, rfl⟩, ⟨⟩, _, ⟨hrename, rfl⟩, ⟨⟩, _, rfl, ⟨⟩, _, ⟨hreopen, rfl⟩, rfl⟩

/-- What an append that succeeds does about the retention of the log. -/
inductive Compacts (serde : Serde) (io : Io) (log : EventLog) : EventLog → Prop where
  | kept (h : retainFromIndex io log.events = .ok none) : Compacts serde io log log
  | dropped {retainFrom : Nat} {retainedLines : List Bytes}
      (h : retainFromIndex io log.events = .ok (some retainFrom))
      (hlines : (log.events.drop retainFrom).mapM
        (encodeEntry serde "failed to compact event log") = .ok retainedLines)
      (hsteps : ∀ step ∈ compactionSteps, io.fails ≠ some step) :
      Compacts serde io log (log.compacted io retainFrom retainedLines)

theorem compactIfDue_eq_ok {u : PUnit} :
    (compactIfDue serde io).run log = .ok u log' ↔ Compacts serde io log log' := by
  rw [compactIfDue, get_bind_eq_ok, run_bind_eq_ok]
  constructor
  · rintro ⟨retainFrom, log₁, hretain, hcompact⟩
    obtain ⟨hretain, rfl⟩ := ofExcept_eq_ok.mp hretain
    cases retainFrom with
    | none =>
        cases hcompact
        exact .kept hretain
    | some retainFrom =>
        obtain ⟨retainedLines, hlines, hsteps, rfl⟩ := compact_eq_ok.mp hcompact
        exact .dropped hretain hlines hsteps
  · intro h
    cases h with
    | kept h => exact ⟨none, log, ofExcept_eq_ok.mpr ⟨h, rfl⟩, rfl⟩
    | @dropped retainFrom retainedLines h hlines hsteps =>
        exact ⟨some retainFrom, log, ofExcept_eq_ok.mpr ⟨h, rfl⟩,
          compact_eq_ok.mpr ⟨retainedLines, hlines, hsteps, rfl⟩⟩

/-! ## The whole append -/

/-- The entry an event gets when its key is new. -/
def nextEntry (log : EventLog) (event : RuntimeEvent) (tsMs : UInt64) : EventLogEntry :=
  ⟨log.nextSeq, tsMs, event⟩

/-- The log once an event has taken its key and its sequence number. -/
def numbered (event : RuntimeEvent) (log : EventLog) : EventLog :=
  { log with
    seenEventKeys := .fromEvent event :: log.seenEventKeys
    nextSeq := log.nextSeq.saturatingSucc }

theorem numbered_events (event : RuntimeEvent) (log : EventLog) :
    (log.numbered event).events = log.events := rfl

/-- The log once an entry is written and retained. -/
def appended (io : Io) (entry : EventLogEntry) (syncAfterAppend : Bool) (line : Bytes)
    (log : EventLog) : EventLog :=
  counted io syncAfterAppend
    { log.wrote (line ++ [newline]) with events := log.events ++ [entry] }

/-- An append that succeeds. -/
inductive Appends (serde : Serde) (io : Io) (event : RuntimeEvent) (tsMs : UInt64)
    (syncAfterAppend : Bool) (log : EventLog) : EventLog → Prop where
  | known (h : .fromEvent event ∈ log.seenEventKeys) :
      Appends serde io event tsMs syncAfterAppend log log
  | recorded {line : Bytes} {log' : EventLog} (h : .fromEvent event ∉ log.seenEventKeys)
      (hline : encodeEntry serde "failed to encode event log" (log.nextEntry event tsMs) = .ok line)
      (hbroken : io.brokenWrite = none) (hnewline : io.fails ≠ some .newline)
      (hsync : syncAfterAppend = true → SyncDue io log → io.fails ≠ some .sync)
      (hcompact : Compacts serde io
        ((log.numbered event).appended io (log.nextEntry event tsMs) syncAfterAppend line) log') :
      Appends serde io event tsMs syncAfterAppend log log'

theorem persistEntry_eq_ok {entry : EventLogEntry} {e : RuntimeEvent} {syncAfterAppend : Bool} :
    (persistEntry serde io entry syncAfterAppend).run log = .ok e log' ↔
      e = entry.event ∧ ∃ line,
        encodeEntry serde "failed to encode event log" entry = .ok line ∧
        io.brokenWrite = none ∧ io.fails ≠ some .newline ∧
        (syncAfterAppend = true → SyncDue io log → io.fails ≠ some .sync) ∧
        Compacts serde io (log.appended io entry syncAfterAppend line) log' := by
  simp only [persistEntry, run_bind_eq_ok, writeEntry_eq_ok, pushEntry, modify_eq_ok,
    countSync_eq_ok, compactIfDue_eq_ok]
  have hwrote : ∀ line, (log.wrote (line ++ [newline])).events = log.events := by
    intro line
    cases hlinked : log.linked <;> simp [wrote, hlinked]
  have hdue : ∀ line,
      SyncDue io { log.wrote (line ++ [newline]) with events := log.events ++ [entry] } ↔
        SyncDue io log := by
    intro line
    cases hlinked : log.linked <;> simp [SyncDue, wrote, hlinked]
  constructor
  · rintro ⟨-, -, ⟨line, hline, hbroken, hnewline, rfl⟩, -, log₂, hlog₂, -, log₃, ⟨hsync, hlog₃⟩,
      -, log₄, hcompact, hpure⟩
    rw [hwrote] at hlog₂
    subst hlog₂ hlog₃
    cases hpure
    exact ⟨rfl, line, hline, hbroken, hnewline, fun h hlate => hsync h ((hdue line).mpr hlate),
      hcompact⟩
  · rintro ⟨rfl, line, hline, hbroken, hnewline, hsync, hcompact⟩
    exact ⟨⟨⟩, _, ⟨line, hline, hbroken, hnewline, rfl⟩, ⟨⟩, _, by rw [hwrote], ⟨⟩, _,
      ⟨fun h hlate => hsync h ((hdue line).mp hlate), rfl⟩, ⟨⟩, log', hcompact, rfl⟩

theorem appendRecordedEvent_eq_ok {event e : RuntimeEvent} {tsMs : UInt64}
    {syncAfterAppend : Bool} :
    (appendRecordedEvent serde io event tsMs syncAfterAppend).run log = .ok e log' ↔
      e = event ∧ Appends serde io event tsMs syncAfterAppend log log' := by
  rw [appendRecordedEvent, EStateM.run_bind, insertKey, EStateM.run_modifyGet]
  by_cases hkey : EventLogKey.fromEvent event ∈ log.seenEventKeys
  · simp only [if_pos hkey]
    constructor
    · intro h
      cases h
      exact ⟨rfl, .known hkey⟩
    · rintro ⟨rfl, h⟩
      cases h with
      | known => rfl
      | recorded hnew => exact absurd hkey hnew
  · simp only [if_neg hkey, if_true]
    rw [EStateM.run_bind, assignSeq, EStateM.run_modifyGet]
    simp only [persistEntry_eq_ok]
    constructor
    · rintro ⟨rfl, line, hline, hbroken, hnewline, hsync, hcompact⟩
      exact ⟨rfl, .recorded hkey hline hbroken hnewline hsync hcompact⟩
    · rintro ⟨rfl, h⟩
      cases h with
      | known h => exact absurd h hkey
      | @recorded line _ _ hline hbroken hnewline hsync hcompact =>
          exact ⟨rfl, line, hline, hbroken, hnewline, hsync, hcompact⟩

/-! ## What a failed append leaves -/

/-- The part of the log that decides which events are new and how they are numbered. -/
def numbering (log : EventLog) : List EventLogKey × EventCursor := (log.seenEventKeys, log.nextSeq)

theorem keeps_attempt (step : IoStep) (context : LogError) :
    Keeps (attempt io step context) numbering := by
  rw [attempt]
  split
  · exact keeps_throw context
  · exact keeps_pure _

theorem keeps_ofExcept {α : Type} (x : Except LogError α) : Keeps (ofExcept x) numbering := by
  cases x with
  | ok a => exact keeps_pure a
  | error e => exact keeps_throw e

theorem keeps_writeAll (bytes : Bytes) : Keeps (writeAll bytes) numbering := by
  apply keeps_modify
  intro log
  split <;> rfl

theorem keeps_writeEntry (entry : EventLogEntry) :
    Keeps (writeEntry serde io entry) numbering := by
  apply Keeps.bind (keeps_ofExcept _)
  intro line
  apply Keeps.bind
  · rw [writeLine]
    cases io.brokenWrite with
    | none => exact keeps_writeAll line
    | some written => exact Keeps.bind (keeps_writeAll _) fun _ => keeps_throw _
  · exact fun _ => Keeps.bind (keeps_attempt _ _) fun _ => keeps_writeAll _

theorem keeps_countSync (syncAfterAppend : Bool) :
    Keeps (countSync io syncAfterAppend) numbering := by
  rw [countSync]
  split
  · apply Keeps.bind (keeps_modify (by intro log; rfl))
    intro _
    apply Keeps.bind keeps_get
    intro log
    split
    · exact keeps_pure _
    · exact Keeps.bind (keeps_attempt _ _) fun _ => keeps_modify (by intro log; rfl)
  · exact keeps_pure _

theorem keeps_compact (retainFrom : Nat) : Keeps (compact serde io retainFrom) numbering := by
  apply Keeps.bind keeps_get
  intro log
  apply Keeps.bind (keeps_modify (by intro log; rfl))
  intro _
  apply Keeps.bind (keeps_attempt _ _)
  intro _
  apply Keeps.bind (keeps_ofExcept _)
  intro retainedLines
  apply Keeps.bind (keeps_attempt _ _)
  intro _
  apply Keeps.bind (keeps_attempt _ _)
  intro _
  apply Keeps.bind (keeps_attempt _ _)
  intro _
  apply Keeps.bind (keeps_modify (by intro log; rfl))
  intro _
  exact Keeps.bind (keeps_attempt _ _) fun _ => keeps_modify (by intro log; rfl)

theorem keeps_compactIfDue : Keeps (compactIfDue serde io) numbering := by
  apply Keeps.bind keeps_get
  intro log
  apply Keeps.bind (keeps_ofExcept _)
  intro retainFrom
  cases retainFrom with
  | none => exact keeps_pure _
  | some retainFrom => exact keeps_compact retainFrom

theorem keeps_persistEntry (entry : EventLogEntry) (syncAfterAppend : Bool) :
    Keeps (persistEntry serde io entry syncAfterAppend) numbering := by
  apply Keeps.bind (keeps_writeEntry entry)
  intro _
  apply Keeps.bind (keeps_modify (by intro log; rfl))
  intro _
  apply Keeps.bind (keeps_countSync syncAfterAppend)
  intro _
  exact Keeps.bind keeps_compactIfDue fun _ => keeps_pure _

/-- A failed append has taken its key and its sequence number. -/
theorem numbering_of_error {event : RuntimeEvent} {tsMs : UInt64} {syncAfterAppend : Bool}
    {e : LogError}
    (h : (appendRecordedEvent serde io event tsMs syncAfterAppend).run log = .error e log') :
    .fromEvent event ∉ log.seenEventKeys ∧
      log'.seenEventKeys = .fromEvent event :: log.seenEventKeys ∧
      log'.nextSeq = log.nextSeq.saturatingSucc := by
  rw [appendRecordedEvent, EStateM.run_bind, insertKey, EStateM.run_modifyGet] at h
  by_cases hkey : EventLogKey.fromEvent event ∈ log.seenEventKeys
  · simp only [if_pos hkey] at h
    cases h
  · simp only [if_neg hkey, if_true] at h
    rw [EStateM.run_bind, assignSeq, EStateM.run_modifyGet] at h
    have hkeeps := (keeps_persistEntry _ syncAfterAppend).of_error h
    exact ⟨hkey, (Prod.mk.inj hkeeps).1, (Prod.mk.inj hkeeps).2⟩

/-- Appending an event again whose append failed succeeds and records nothing. -/
theorem retry_records_nothing {event : RuntimeEvent} {tsMs : UInt64} {syncAfterAppend : Bool}
    {e : LogError}
    (h : (appendRecordedEvent serde io event tsMs syncAfterAppend).run log = .error e log')
    (io' : Io) (tsMs' : UInt64) (syncAfterAppend' : Bool) :
    (appendRecordedEvent serde io' event tsMs' syncAfterAppend').run log' = .ok event log' := by
  refine appendRecordedEvent_eq_ok.mpr ⟨rfl, .known ?_⟩
  rw [(numbering_of_error h).2.1]
  exact List.mem_cons_self

/-! ## Atomicity -/

/-- A reopen of a log reads these entries. -/
def Reads (serde : Serde) (file : Bytes) (entries : List EventLogEntry) : Prop :=
  readEntries serde (recoverPartialTail file) = .ok entries

/-- An append that fails leaves the log as it was: what is in memory, what a
reopen reads (the new entry may be there too), what a second try does, and what
the next append leaves. -/
def AtomicOnError (serde : Serde) (io : Io) (event : RuntimeEvent) (tsMs : UInt64)
    (syncAfterAppend : Bool) (log : EventLog) : Prop :=
  ∀ e log', (appendRecordedEvent serde io event tsMs syncAfterAppend).run log = .error e log' →
    log'.events = log.events ∧
    (∀ key, key ∈ log'.seenEventKeys ↔ key ∈ log.seenEventKeys) ∧
    log'.nextSeq = log.nextSeq ∧
    (Reads serde log'.file log.events ∨
      Reads serde log'.file (log.events ++ [log.nextEntry event tsMs])) ∧
    (∀ io' e' log'', (appendRecordedEvent serde io' event tsMs syncAfterAppend).run log' =
        .ok e' log'' →
      ∃ entries, Reads serde log''.file entries ∧
        (entries.map EventLogEntry.key).count (.fromEvent event) = 1) ∧
    (∀ io' event' tsMs' syncAfterAppend' e' log'',
      (appendRecordedEvent serde io' event' tsMs' syncAfterAppend').run log' = .ok e' log'' →
      ∃ entries, Reads serde log''.file entries)

/-- No step that the append of a new event reaches fails. -/
structure NothingFails (serde : Serde) (io : Io) (event : RuntimeEvent) (tsMs : UInt64)
    (syncAfterAppend : Bool) (log : EventLog) : Prop where
  encodes : ∃ line,
    encodeEntry serde "failed to encode event log" (log.nextEntry event tsMs) = .ok line
  write : io.brokenWrite = none
  newline : io.fails ≠ some .newline
  sync : syncAfterAppend = true → SyncDue io log → io.fails ≠ some .sync
  clock : ∃ retainFrom, retainFromIndex io (log.events ++ [log.nextEntry event tsMs]) =
    .ok retainFrom
  compaction : ∀ retainFrom,
    retainFromIndex io (log.events ++ [log.nextEntry event tsMs]) = .ok (some retainFrom) →
    (∀ step ∈ compactionSteps, io.fails ≠ some step) ∧
      ∃ retainedLines, ((log.events ++ [log.nextEntry event tsMs]).drop retainFrom).mapM
        (encodeEntry serde "failed to compact event log") = .ok retainedLines

theorem appended_events (entry : EventLogEntry) (syncAfterAppend : Bool) (line : Bytes)
    (log : EventLog) :
    (log.appended io entry syncAfterAppend line).events = log.events ++ [entry] := by
  rw [appended, counted]
  split
  · split <;> rfl
  · rfl

/-- An append succeeds when its key is known or nothing fails. -/
theorem append_succeeds_iff {event : RuntimeEvent} {tsMs : UInt64} {syncAfterAppend : Bool} :
    (∃ e log', (appendRecordedEvent serde io event tsMs syncAfterAppend).run log = .ok e log') ↔
      .fromEvent event ∈ log.seenEventKeys ∨
        NothingFails serde io event tsMs syncAfterAppend log := by
  simp only [appendRecordedEvent_eq_ok]
  constructor
  · rintro ⟨e, log', -, h⟩
    cases h with
    | known h => exact .inl h
    | @recorded line _ h hline hbroken hnewline hsync hcompact =>
        refine .inr ⟨⟨line, hline⟩, hbroken, hnewline, hsync, ?_, ?_⟩
        · cases hcompact with
          | kept h => exact ⟨_, by rwa [appended_events, numbered_events] at h⟩
          | dropped h => exact ⟨_, by rwa [appended_events, numbered_events] at h⟩
        · intro retainFrom hretain
          cases hcompact with
          | kept h =>
              rw [appended_events, numbered_events] at h
              cases h.symm.trans hretain
          | dropped h hlines hsteps =>
              rw [appended_events, numbered_events] at h hlines
              cases h.symm.trans hretain
              exact ⟨hsteps, _, hlines⟩
  · rintro (h | ⟨⟨line, hline⟩, hbroken, hnewline, hsync, ⟨retainFrom, hclock⟩, hcompaction⟩)
    · exact ⟨event, log, rfl, .known h⟩
    · by_cases hkey : EventLogKey.fromEvent event ∈ log.seenEventKeys
      · exact ⟨event, log, rfl, .known hkey⟩
      · cases retainFrom with
        | none =>
            exact ⟨event, _, rfl, .recorded hkey hline hbroken hnewline hsync
              (.kept (by rw [appended_events, numbered_events]; exact hclock))⟩
        | some retainFrom =>
            obtain ⟨hsteps, retainedLines, hlines⟩ := hcompaction retainFrom hclock
            exact ⟨event, _, rfl, .recorded hkey hline hbroken hnewline hsync
              (.dropped (by rw [appended_events, numbered_events]; exact hclock)
                (by rw [appended_events, numbered_events]; exact hlines) hsteps)⟩

/-- An append is atomic on error exactly when it does not fail. -/
theorem append_atomic_iff (serde : Serde) (io : Io) (event : RuntimeEvent) (tsMs : UInt64)
    (syncAfterAppend : Bool) (log : EventLog) :
    AtomicOnError serde io event tsMs syncAfterAppend log ↔
      .fromEvent event ∈ log.seenEventKeys ∨
        NothingFails serde io event tsMs syncAfterAppend log := by
  rw [← append_succeeds_iff]
  cases hrun : (appendRecordedEvent serde io event tsMs syncAfterAppend).run log with
  | ok e log' =>
      constructor
      · exact fun _ => ⟨e, log', rfl⟩
      · intro _ e' log'' herror
        rw [hrun] at herror
        cases herror
  | error e log' =>
      constructor
      · intro h
        -- the key of the event is in the set afterwards and was not before
        obtain ⟨hnew, hkeys, -⟩ := numbering_of_error hrun
        have hkey := (h e log' hrun).2.1 (.fromEvent event)
        rw [hkeys] at hkey
        exact absurd (hkey.mp List.mem_cons_self) hnew
      · rintro ⟨e', log'', hok⟩
        cases hok

/-- An open log whose file does not exist yet. -/
def fresh (path : String) : EventLog where
  path := path
  file := []
  linked := true
  events := []
  seenEventKeys := []
  nextSeq := 1
  eventsSinceSync := 0
  lastSync := 0

/-- The write of the first line fails with nothing written; a second try reports
success, and no entry is in the file. -/
theorem failed_append_loses_event :
    ¬ AtomicOnError lostSerde ⟨some (.write 0), 1700000000000, 0⟩
      (.lost default .pidNotAlive) 1700000000000 true (fresh "events/runtime.jsonl") := by
  intro h
  have hrun : (appendRecordedEvent lostSerde ⟨some (.write 0), 1700000000000, 0⟩
      (.lost default .pidNotAlive) 1700000000000 true).run (fresh "events/runtime.jsonl") =
      .error "failed to encode event log"
        ((fresh "events/runtime.jsonl").numbered (.lost default .pidNotAlive)) := rfl
  obtain ⟨-, -, -, -, hretry, -⟩ := h _ _ hrun
  obtain ⟨entries, hreads, hcount⟩ :=
    hretry ⟨none, 1700000000000, 0⟩ _ _ (retry_records_nothing hrun _ _ _)
  cases hreads
  exact absurd hcount (by decide)

end EventLog

end LittleOrgans.Runtime
