import LittleOrgans.Runtime.EventLogRecovery

/-!
# The history of the event log

A log together with every entry it ever recorded, the entries its compactions
dropped, and those it had dropped when it was last opened: these are the ones the
open log has forgotten. What is retained is the rest of the history
(`Recording.Agrees`). An event is recorded a second time exactly when the log has
forgotten it: while no forgotten event is appended, each session has at most one
entry of a kind (`entries_unique`).
-/

set_option autoImplicit false

namespace LittleOrgans.Runtime

open LittleOrgans.Core
open LittleOrgans.Library

variable {serde : Serde}

/-- A log and its past. -/
structure Recording where
  log : EventLog
  history : List EventLogEntry
  dropped : List EventLogEntry
  forgotten : List EventLogEntry

/-- What can happen to a log that is written. -/
inductive RecordingAction where
  | append (io : Io) (event : RuntimeEvent) (tsMs : UInt64) (syncAfterAppend : Bool)
  | reopen (instant : Nat)

namespace Recording

open EventLog

/-- A new log. -/
def fresh (path : String) : Recording := ⟨.fresh path, [], [], []⟩

/-- The past after a new entry was recorded. -/
def record (s : Recording) (entry : EventLogEntry) (log : EventLog) : Recording where
  log := log
  history := s.history ++ [entry]
  dropped := s.dropped ++
    (s.log.events ++ [entry]).take (s.log.events.length + 1 - log.events.length)
  forgotten := s.forgotten

/-- Appends that succeed, and crashes of the daemon that lose no byte of the file. -/
def system (serde : Serde) : StepSystem Recording RecordingAction where
  step s
    | .append io event tsMs syncAfterAppend =>
        ((logSystem serde).step s.log (.append io event tsMs syncAfterAppend)).map fun log =>
          if .fromEvent event ∈ s.log.seenEventKeys then { s with log := log }
          else s.record (s.log.nextEntry event tsMs) log
    | .reopen instant =>
        ((logSystem serde).step s.log (.crash s.log.file.length instant)).map fun log =>
          { s with log := log, forgotten := s.dropped }

/-- The serialiser round-trips what is appended. -/
def Handled (serde : Serde) (_ : Recording) : RecordingAction → Prop
  | .append _ event _ _ => serde.Handles event
  | .reopen _ => True

/-- Keys of entries. -/
def keys (entries : List EventLogEntry) : List EventLogKey := entries.map EventLogEntry.key

/-- No entry of the event's session and kind was dropped before the log was last
opened. -/
def Remembered (s : Recording) : RecordingAction → Prop
  | .append _ event _ _ => .fromEvent event ∉ keys s.forgotten
  | .reopen _ => True

/-! ## The retained entries are the rest of the history -/

/-- The entries are numbered behind `n`, up to the largest sequence number. -/
def NumberedFrom (n : Nat) (entries : List EventLogEntry) : Prop :=
  ∀ i entry, entries[i]? = some entry → entry.seq.toNat = min (n + i + 1) (2 ^ 64 - 1)

/-- The log agrees with what was recorded in it. -/
structure Agrees (serde : Serde) (s : Recording) : Prop where
  wellKept : WellKept serde s.log
  history : s.history = s.dropped ++ s.log.events
  nonempty : s.log.events = [] → s.dropped = []
  numbered : NumberedFrom 0 s.history
  known : ∀ key ∈ keys s.history, key ∈ s.log.seenEventKeys ∨ key ∈ keys s.forgotten
  forgotten : s.forgotten <+: s.dropped

/-- A reopen of a well-kept log loads all its entries. -/
theorem step_crash_file {log : EventLog} (h : WellKept serde log) (instant : Nat) :
    (logSystem serde).step log (.crash log.file.length instant) =
      some (opened log.path log.file log.events instant) := by
  have hopen := openFile_torn h.roundTrips [] (by simp) log.path instant
  rw [List.append_nil, ← h.file] at hopen
  simp only [logSystem, List.take_length, hopen]
  rfl

/-- What one action does to a recording. -/
inductive Stepped (serde : Serde) (s : Recording) : RecordingAction → Recording → Prop where
  | known {io : Io} {event : RuntimeEvent} {tsMs : UInt64} {syncAfterAppend : Bool}
      (h : .fromEvent event ∈ s.log.seenEventKeys) :
      Stepped serde s (.append io event tsMs syncAfterAppend) s
  | recorded {io : Io} {event : RuntimeEvent} {tsMs : UInt64} {syncAfterAppend : Bool}
      {log : EventLog} {dropped : Nat} (hnew : .fromEvent event ∉ s.log.seenEventKeys)
      (h : Recorded serde io event tsMs s.log log dropped) :
      Stepped serde s (.append io event tsMs syncAfterAppend)
        { log := log
          history := s.history ++ [s.log.nextEntry event tsMs]
          dropped := s.dropped ++ (s.log.events ++ [s.log.nextEntry event tsMs]).take dropped
          forgotten := s.forgotten }
  | reopened {instant : Nat} :
      Stepped serde s (.reopen instant)
        { s with
          log := opened s.log.path s.log.file s.log.events instant
          forgotten := s.dropped }

theorem stepped {s s' : Recording} {action : RecordingAction} (hkept : WellKept serde s.log)
    (hhandled : Handled serde s action) (hstep : (system serde).step s action = some s') :
    Stepped serde s action s' := by
  cases action with
  | append io event tsMs syncAfterAppend =>
      obtain ⟨log, hlog, rfl⟩ := Option.map_eq_some_iff.mp hstep
      have happends := step_append_eq_some.mp hlog
      by_cases hkey : EventLogKey.fromEvent event ∈ s.log.seenEventKeys
      · rw [if_pos hkey]
        cases happends with
        | known => exact .known hkey
        | recorded hnew => exact absurd hkey hnew
      · obtain ⟨dropped, hrecorded⟩ := hkept.recorded (hhandled _ _) hkey happends
        have hlt := hrecorded.drops.lt_length (by simp)
        have hcount : s.log.events.length + 1 - log.events.length = dropped := by
          rw [hrecorded.events, List.length_drop, List.length_append]
          rw [List.length_append] at hlt
          simp only [List.length_singleton] at hlt ⊢
          omega
        rw [if_neg hkey, record, hcount]
        exact .recorded hkey hrecorded
  | reopen instant =>
      obtain ⟨log, hlog, rfl⟩ := Option.map_eq_some_iff.mp hstep
      rw [step_crash_file hkept] at hlog
      cases hlog
      exact .reopened

theorem stepped_append {s s' : Recording} {io : Io} {event : RuntimeEvent} {tsMs : UInt64}
    {syncAfterAppend : Bool} (hkept : WellKept serde s.log) (hhandles : serde.Handles event)
    (hstep : (system serde).step s (.append io event tsMs syncAfterAppend) = some s') :
    Stepped serde s (.append io event tsMs syncAfterAppend) s' :=
  have hhandled : Handled serde s (.append io event tsMs syncAfterAppend) := hhandles
  stepped hkept hhandled hstep

theorem NumberedFrom.concat {n : Nat} {entries : List EventLogEntry} {entry : EventLogEntry}
    (h : NumberedFrom n entries)
    (hentry : entry.seq.toNat = min (n + entries.length + 1) (2 ^ 64 - 1)) :
    NumberedFrom n (entries ++ [entry]) := by
  intro i entry' hi
  rw [List.getElem?_append] at hi
  split at hi
  · exact h i entry' hi
  · next hge =>
      obtain ⟨rfl, hindex⟩ : entry' = entry ∧ i - entries.length = 0 := by
        rw [List.getElem?_singleton] at hi
        split at hi
        · next hzero => exact ⟨(Option.some.inj hi).symm, hzero⟩
        · cases hi
      rw [hentry]
      omega

theorem NumberedFrom.drop {n : Nat} {entries : List EventLogEntry} (h : NumberedFrom n entries)
    (k : Nat) : NumberedFrom (n + k) (entries.drop k) := by
  intro i entry hi
  rw [List.getElem?_drop] at hi
  rw [h (k + i) entry hi]
  omega

/-- The next sequence number is one more than the number of recorded events, up to
the largest one. -/
theorem Agrees.toNat_nextSeq {s : Recording} (h : Agrees serde s) :
    s.log.nextSeq.toNat = min (s.history.length + 1) (2 ^ 64 - 1) := by
  rw [h.wellKept.numbered, seqBehind]
  cases hlast : s.log.events.getLast? with
  | none =>
      have hnone := List.getLast?_eq_none_iff.mp hlast
      rw [h.history, h.nonempty hnone, hnone]
      rfl
  | some last =>
      have hhistory : s.history.getLast? = some last := by
        rw [h.history, List.getLast?_append, hlast]
        rfl
      rw [List.getLast?_eq_getElem?] at hhistory
      have hseq := h.numbered _ _ hhistory
      have hpos : s.history.length ≠ 0 := by
        intro hzero
        rw [List.length_eq_zero_iff.mp hzero] at hhistory
        cases hhistory
      rw [Option.elim_some, EventCursor.toNat_saturatingSucc, hseq]
      omega

theorem agrees_fresh (path : String) : Agrees serde (fresh path) where
  wellKept := wellKept_fresh path
  history := rfl
  nonempty := fun _ => rfl
  numbered := by simp [NumberedFrom, fresh]
  known := by simp [fresh, keys]
  forgotten := List.prefix_rfl

theorem Agrees.stepped {s s' : Recording} {action : RecordingAction} (h : Agrees serde s)
    (hhandled : Handled serde s action) (hstep : Stepped serde s action s') :
    Agrees serde s' := by
  cases hstep with
  | known => exact h
  | @recorded io event tsMs _ log dropped hnew hrecorded =>
      refine ⟨h.wellKept.of_recorded (hhandled _ _) hrecorded, ?_, ?_, ?_, ?_, ?_⟩
      · rw [hrecorded.events, List.append_assoc, List.take_append_drop, ← List.append_assoc,
          ← h.history]
      · intro hnone
        have hlt := hrecorded.drops.lt_length (by simp)
        have hlength := congrArg List.length hrecorded.events
        rw [hnone, List.length_drop, List.length_nil] at hlength
        omega
      · refine h.numbered.concat ?_
        rw [nextEntry, h.toNat_nextSeq]
        omega
      · intro key hkey
        rw [hrecorded.seenEventKeys]
        rw [keys, List.map_append, List.mem_append] at hkey
        rcases hkey with hkey | hkey
        · exact (h.known key hkey).imp_left (List.mem_cons_of_mem _)
        · rw [List.map_singleton, List.mem_singleton] at hkey
          rw [hkey]
          exact .inl List.mem_cons_self
      · exact h.forgotten.trans (List.prefix_append _ _)
  | @reopened instant =>
      refine ⟨?_, h.history, h.nonempty, h.numbered, ?_, List.prefix_rfl⟩
      · rw [h.wellKept.file]
        exact wellKept_opened h.wellKept.roundTrips h.wellKept.increasing
      · intro key hkey
        rw [h.history, keys, List.map_append, List.mem_append] at hkey
        exact hkey.symm

/-- The recorded events stay recorded. -/
theorem prefix_history {s s' : Recording} {action : RecordingAction}
    (hstep : (system serde).step s action = some s') : s.history <+: s'.history := by
  cases action with
  | append io event tsMs syncAfterAppend =>
      obtain ⟨log, -, rfl⟩ := Option.map_eq_some_iff.mp hstep
      split
      · exact List.prefix_rfl
      · exact List.prefix_append _ _
  | reopen instant =>
      obtain ⟨log, -, rfl⟩ := Option.map_eq_some_iff.mp hstep
      exact List.prefix_rfl

theorem Agrees.step {s s' : Recording} {action : RecordingAction} (h : Agrees serde s)
    (hhandled : Handled serde s action) (hstep : (system serde).step s action = some s') :
    Agrees serde s' :=
  h.stepped hhandled (Recording.stepped h.wellKept hhandled hstep)

/-! ## Reading behind a cursor -/

/-- The entries behind a cursor are the ones from a position on. -/
theorem filter_cursor {n : Nat} {entries : List EventLogEntry} (h : NumberedFrom n entries)
    (hsmall : n + entries.length < 2 ^ 64) (cursor : EventCursor) :
    entries.filter (fun entry => cursor < entry.seq) = entries.drop (cursor.toNat - n) := by
  induction entries generalizing n with
  | nil => simp
  | cons entry entries ih =>
      rw [List.length_cons] at hsmall
      have hseq : entry.seq.toNat = n + 1 := by
        rw [h 0 entry rfl]
        omega
      have hrest : NumberedFrom (n + 1) entries := by
        have := h.drop 1
        rwa [List.drop_succ_cons, List.drop_zero] at this
      have ih := ih hrest (by omega)
      by_cases hlt : cursor < entry.seq
      · have hnat := UInt64.lt_iff_toNat_lt.mp hlt
        rw [List.filter_cons_of_pos (by simpa using hlt), ih, hseq] at *
        rw [show cursor.toNat - (n + 1) = 0 by omega, show cursor.toNat - n = 0 by omega]
        rfl
      · have hnat := Nat.le_of_not_lt fun h => hlt (UInt64.lt_iff_toNat_lt.mpr h)
        rw [hseq] at hnat
        rw [List.filter_cons_of_neg (by simpa using hlt), ih,
          show cursor.toNat - n = cursor.toNat - (n + 1) + 1 by omega, List.drop_succ_cons]

section Reading

variable {s : Recording} (h : Agrees serde s) (hsmall : s.history.length < 2 ^ 64)
  {since : Option EventCursor} (hcursor : (since.getD 0).toNat ≤ s.history.length)

include h

theorem Agrees.length_history : s.history.length = s.dropped.length + s.log.events.length := by
  rw [h.history, List.length_append]

theorem Agrees.numbered_events : NumberedFrom s.dropped.length s.log.events := by
  have hdrop := h.numbered.drop s.dropped.length
  rwa [h.history, List.drop_left, Nat.zero_add] at hdrop

include hsmall

/-- Some event behind the cursor was dropped. -/
theorem Agrees.exists_dropped_iff (cursor : EventCursor) :
    (∃ entry ∈ s.dropped, cursor < entry.seq) ↔ cursor.toNat < s.dropped.length := by
  have hlength := h.length_history
  have hseq : ∀ i entry, s.dropped[i]? = some entry → entry.seq.toNat = i + 1 := by
    intro i entry hi
    obtain ⟨hlt, -⟩ := List.getElem?_eq_some_iff.mp hi
    have hhistory : s.history[i]? = some entry := by
      rw [h.history, List.getElem?_append_left hlt, hi]
    rw [h.numbered i entry hhistory]
    omega
  constructor
  · rintro ⟨entry, hentry, hlt⟩
    obtain ⟨i, hi⟩ := List.mem_iff_getElem?.mp hentry
    have hnat := UInt64.lt_iff_toNat_lt.mp hlt
    rw [hseq i entry hi] at hnat
    obtain ⟨hi, -⟩ := List.getElem?_eq_some_iff.mp hi
    omega
  · intro hlt
    have hget := List.getElem?_eq_getElem hlt
    refine ⟨_, List.mem_iff_getElem?.mpr ⟨_, hget⟩, UInt64.lt_iff_toNat_lt.mpr ?_⟩
    rw [hseq _ _ hget]
    omega

theorem Agrees.toNat_oldestValidCursor {oldest : EventCursor}
    (holdest : oldestValidCursor s.log.events = some oldest) :
    oldest.toNat = s.dropped.length := by
  obtain ⟨first, hfirst, rfl⟩ := Option.map_eq_some_iff.mp holdest
  rw [List.head?_eq_getElem?] at hfirst
  have hlength := h.length_history
  obtain ⟨hpos, -⟩ := List.getElem?_eq_some_iff.mp hfirst
  rw [EventCursor.toNat_saturatingPred, h.numbered_events 0 first hfirst]
  omega

/-- A poll fails when an event behind its cursor was dropped. -/
theorem Agrees.eventsSince_error (hdropped : (since.getD 0).toNat < s.dropped.length) :
    ∃ oldest, s.log.eventsSince since = .error ⟨oldest⟩ ∧
      oldest.toNat = s.dropped.length := by
  have hsome : ∃ oldest, oldestValidCursor s.log.events = some oldest := by
    cases hevents : s.log.events with
    | nil =>
        rw [h.nonempty hevents] at hdropped
        exact absurd hdropped (Nat.not_lt_zero _)
    | cons first rest => exact ⟨_, rfl⟩
  obtain ⟨oldest, holdest⟩ := hsome
  have hnat := h.toNat_oldestValidCursor hsmall holdest
  have hlt : since.getD 0 < oldest := UInt64.lt_iff_toNat_lt.mpr (by omega)
  refine ⟨oldest, ?_, hnat⟩
  rw [eventsSince, holdest]
  simp only [Option.filter_some, hlt, decide_true, if_true]

include hcursor

/-- Otherwise it gets the events behind its cursor, and a cursor behind all. -/
theorem Agrees.eventsSince_ok (hkept : s.dropped.length ≤ (since.getD 0).toNat) :
    ∃ page, s.log.eventsSince since = .ok page ∧
      page.events = (s.history.drop (since.getD 0).toNat).map EventLogEntry.event ∧
      page.cursor.toNat = s.history.length := by
  have hlength := h.length_history
  have hvalid : (oldestValidCursor s.log.events).filter (since.getD 0 < ·) = none := by
    cases holdest : oldestValidCursor s.log.events with
    | none => rfl
    | some oldest =>
        have hnat := h.toNat_oldestValidCursor hsmall holdest
        have hlt : ¬ since.getD 0 < oldest := fun hlt => by
          have := UInt64.lt_iff_toNat_lt.mp hlt
          omega
        simp only [Option.filter_some, hlt, decide_false, Bool.false_eq_true, if_false]
  refine ⟨_, by rw [eventsSince, hvalid], ?_, ?_⟩
  · rw [filter_cursor h.numbered_events (by omega), h.history, List.drop_append,
      List.drop_of_length_le hkept, List.nil_append]
  · cases hlast : s.log.events.getLast? with
    | none =>
        rw [List.getLast?_eq_none_iff.mp hlast, List.length_nil] at hlength
        change (since.getD 0).toNat = s.history.length
        omega
    | some last =>
        rw [List.getLast?_eq_getElem?] at hlast
        obtain ⟨hpos, -⟩ := List.getElem?_eq_some_iff.mp hlast
        rw [Option.elim_some, h.numbered_events _ last hlast]
        omega

end Reading

/-! ## Uniqueness -/

/-- Each session has at most one entry of a kind in the whole history, and an
append of an event with such an entry changes nothing. -/
def Unique (serde : Serde) (s : Recording) : Prop :=
  (keys s.history).Nodup ∧
    ∀ io event tsMs syncAfterAppend s', .fromEvent event ∈ keys s.history →
      serde.Handles event →
      Remembered s (.append io event tsMs syncAfterAppend) →
      (system serde).step s (.append io event tsMs syncAfterAppend) = some s' → s' = s

theorem nodup_stepped {s s' : Recording} {action : RecordingAction} (h : Agrees serde s)
    (hnodup : (keys s.history).Nodup) (hremembered : Remembered s action)
    (hstep : Stepped serde s action s') : (keys s'.history).Nodup := by
  cases hstep with
  | known => exact hnodup
  | reopened => exact hnodup
  | @recorded io event tsMs _ log dropped hnew hrecorded =>
      rw [keys, List.map_append]
      refine List.nodup_append.mpr ⟨hnodup, List.pairwise_singleton _ _, ?_⟩
      intro key hkey key' hkey' heq
      rw [List.map_singleton, List.mem_singleton] at hkey'
      have hevent : key = .fromEvent event := heq.trans hkey'
      rw [hevent] at hkey
      rcases h.known _ hkey with hseen | hforgotten
      · exact hnew hseen
      · exact hremembered hforgotten

theorem agrees_of_reaches {path : String} {s : Recording}
    (h : (system serde).Reaches (fun s action => Handled serde s action ∧ Remembered s action)
      (fresh path) s) : Agrees serde s ∧ (keys s.history).Nodup := by
  refine h.invariant (I := fun s => Agrees serde s ∧ (keys s.history).Nodup)
    ⟨agrees_fresh path, List.nodup_nil⟩ ?_
  rintro s action s' ⟨hagrees, hnodup⟩ ⟨hhandled, hremembered⟩ hstep
  have hstepped := stepped hagrees.wellKept hhandled hstep
  exact ⟨hagrees.stepped hhandled hstepped,
    nodup_stepped hagrees hnodup hremembered hstepped⟩

/-- In runs that append no forgotten event, entries are unique. -/
theorem entries_unique {path : String} {s : Recording}
    (h : (system serde).Reaches (fun s action => Handled serde s action ∧ Remembered s action)
      (fresh path) s) : Unique serde s := by
  have hboth := agrees_of_reaches h
  refine ⟨hboth.2, ?_⟩
  intro io event tsMs syncAfterAppend s' hkey hhandles hremembered hstep
  have hseen := (hboth.1.known _ hkey).resolve_right hremembered
  cases stepped_append hboth.1.wellKept hhandles hstep with
  | known => rfl
  | recorded hnew => exact absurd hseen hnew

/-! ## A forgotten event -/

/-- An append to a well-kept log succeeds when nothing fails. -/
theorem exists_step_append {s : Recording} (hkept : WellKept serde s.log) (io : Io)
    (hio : io.fails = none) (hutc : 0 ≤ io.utcMs) {event : RuntimeEvent}
    (hhandles : serde.Handles event) (tsMs : UInt64) (syncAfterAppend : Bool) :
    ∃ s', (system serde).step s (.append io event tsMs syncAfterAppend) = some s' := by
  have hbroken : io.brokenWrite = none := by
    rw [Io.brokenWrite, hio]
  have hrounds : ∀ entry ∈ s.log.events ++ [s.log.nextEntry event tsMs],
      serde.RoundTrips entry := by
    intro entry hentry
    rcases List.mem_append.mp hentry with hentry | hentry
    · exact hkept.roundTrips entry hentry
    · rw [List.mem_singleton.mp hentry]
      exact hhandles _ _
  have hnow : currentTimestampMs io = .ok io.utcMs.toNat := if_pos hutc
  have hclock : ∃ retainFrom,
      retainFromIndex io (s.log.events ++ [s.log.nextEntry event tsMs]) = .ok retainFrom := by
    rw [retainFromIndex]
    split
    · exact ⟨none, rfl⟩
    · exact ⟨_, Library.Except.bind_eq_ok.mpr ⟨_, hnow, rfl⟩⟩
  have hnothing : NothingFails serde io event tsMs syncAfterAppend s.log := by
    refine ⟨⟨_, (hhandles _ _).encodeEntry _⟩, hbroken, ?_, ?_, hclock, ?_⟩
    · rw [hio]
      exact (Option.some_ne_none _).symm
    · rw [hio]
      exact fun _ _ => (Option.some_ne_none _).symm
    · intro retainFrom _
      refine ⟨fun step _ => ?_, _, encode_entries (fun entry hentry =>
        hrounds entry (List.mem_of_mem_drop hentry)) _⟩
      rw [hio]
      exact (Option.some_ne_none _).symm
  obtain ⟨e, log, hrun⟩ := append_succeeds_iff.mpr (.inr hnothing)
  obtain ⟨-, happends⟩ := appendRecordedEvent_eq_ok.mp hrun
  exact ⟨_, Option.map_eq_some_iff.mpr ⟨log, step_append_eq_some.mpr happends, rfl⟩⟩

/-- An append drops entries when there are too many and the first one is old. -/
theorem retainFromIndex_due {io : Io} {nowMs : Nat} {entry : EventLogEntry}
    {entries : List EventLogEntry} (hnow : currentTimestampMs io = .ok nowMs)
    (hmany : EVENT_LOG_RETENTION_MIN_EVENTS ≤ entries.length)
    (hold : isOld nowMs entry = true) :
    ∃ dropped, retainFromIndex io (entry :: entries) = .ok (some dropped) := by
  have hlength : (entry :: entries).length = entries.length + 1 := rfl
  have holds : 0 < ((entry :: entries).takeWhile (isOld nowMs)).length := by
    rw [List.takeWhile_cons_of_pos hold]
    exact Nat.succ_pos _
  have hpos : 0 < min ((entry :: entries).length - EVENT_LOG_RETENTION_MIN_EVENTS)
      ((entry :: entries).takeWhile (isOld nowMs)).length := by omega
  refine ⟨min ((entry :: entries).length - EVENT_LOG_RETENTION_MIN_EVENTS)
    ((entry :: entries).takeWhile (isOld nowMs)).length, ?_⟩
  rw [retainFromIndex, if_neg (by omega)]
  refine Library.Except.bind_eq_ok.mpr ⟨nowMs, hnow, ?_⟩
  simp only [if_pos hpos]
  rfl

/-- An append that goes well and drops nothing. -/
def quietAppend (i : Nat) : RecordingAction := .append ⟨none, 0, 0⟩ (quietEvent i) 0 false

/-- `n` appends. -/
def quietAppends (n : Nat) : List RecordingAction := (List.range n).map quietAppend

/-- A quiet append is recorded. -/
theorem step_quietAppend {n : Nat} {s : Recording} (hquiet : Quiet n s.log) (hn : n < 2 ^ 128) :
    ∃ s', (system lostSerde).step s (quietAppend n) = some s' ∧ Quiet (n + 1) s'.log ∧
      s'.history = s.history ++ [s.log.nextEntry (quietEvent n) 0] ∧
      s'.log.events = s.log.events ++ [s.log.nextEntry (quietEvent n) 0] ∧
      s'.dropped = s.dropped ∧ s'.forgotten = s.forgotten := by
  obtain ⟨log, happends, hrecorded, hquiet'⟩ := hquiet.step hn
  have hnew : EventLogKey.fromEvent (quietEvent n) ∉ s.log.seenEventKeys := by
    intro hmem
    obtain ⟨i, hi, heq⟩ := (hquiet.keys _).mp hmem
    exact absurd (quietEvent_key_inj hn (by omega) heq) (by omega)
  have hstep : (system lostSerde).step s (quietAppend n) =
      some (s.record (s.log.nextEntry (quietEvent n) 0) log) := by
    refine Option.map_eq_some_iff.mpr ⟨log, step_append_eq_some.mpr happends, ?_⟩
    rw [if_neg hnew]
  have hevents : log.events = s.log.events ++ [s.log.nextEntry (quietEvent n) 0] := by
    rw [hrecorded.events, List.drop_zero]
  refine ⟨_, hstep, hquiet', rfl, hevents, ?_, rfl⟩
  rw [record, hevents, List.length_append, List.length_singleton, Nat.sub_self, List.take_zero,
    List.append_nil]

/-- What an action has to meet for its entries to stay unique. -/
def Sound (s : Recording) (action : RecordingAction) : Prop :=
  Handled lostSerde s action ∧ Remembered s action

theorem sound_append {s : Recording} {i : Nat}
    (h : .fromEvent (quietEvent i) ∉ keys s.forgotten) (io : Io) :
    Sound s (.append io (quietEvent i) 0 false) :=
  have hhandles : lostSerde.Handles (quietEvent i) := lostSerde_handles _ _
  ⟨hhandles, h⟩

theorem sound_reopen (s : Recording) (instant : Nat) : Sound s (.reopen instant) :=
  ⟨trivial, trivial⟩

/-- Any number of quiet appends succeeds; nothing is dropped. -/
theorem follow_quietAppends (path : String) {n : Nat} (hn : n ≤ 2 ^ 128) :
    ∃ s, (system lostSerde).follow (fresh path) (quietAppends n) = some s ∧
      (system lostSerde).Reaches Sound (fresh path) s ∧ Quiet n s.log ∧
      s.history = s.log.events ∧ s.dropped = [] ∧ s.forgotten = [] := by
  induction n with
  | zero => exact ⟨fresh path, rfl, .refl, quiet_fresh path, rfl, rfl, rfl⟩
  | succ n ih =>
      obtain ⟨s, hfollow, hreaches, hquiet, hhistory, hdropped, hforgotten⟩ := ih (by omega)
      obtain ⟨s', hstep, hquiet', hhistory', hevents', hdropped', hforgotten'⟩ :=
        step_quietAppend hquiet (by omega)
      have hsound : Sound s (quietAppend n) := by
        refine sound_append ?_ _
        rw [hforgotten]
        exact List.not_mem_nil
      refine ⟨s', ?_, hreaches.step hsound hstep, hquiet', ?_, hdropped'.trans hdropped,
        hforgotten'.trans hforgotten⟩
      · have hsplit : quietAppends (n + 1) = quietAppends n ++ [quietAppend n] := by
          rw [quietAppends, List.range_succ, List.map_append]
          rfl
        rw [hsplit, StepSystem.follow_append hfollow, StepSystem.follow, hstep]
        rfl
      · rw [hhistory', hevents', hhistory]

/-- Eight days after the epoch. -/
def eightDays : Io := ⟨none, 691200000, 0⟩

/-- As many events as the log has to retain and one more, that one eight days
later; the log is reopened. -/
def compacted : List RecordingAction :=
  quietAppends EVENT_LOG_RETENTION_MIN_EVENTS ++
    [.append eightDays (quietEvent EVENT_LOG_RETENTION_MIN_EVENTS) 0 false, .reopen 0]

theorem isOld_eightDays (i : Nat) : isOld 691200000 (quietEntry i) = true := by
  have hlong : EVENT_LOG_RETENTION_MIN_AGE_SECS * 1000 < 691200000 := by decide
  exact decide_eq_true hlong

/-- The append that is one too many makes the log drop its first entry. -/
theorem drops_first_entry {n : Nat} {s : Recording}
    (hn : EVENT_LOG_RETENTION_MIN_EVENTS = n + 1) (hsmall : n + 1 < 2 ^ 128)
    (hquiet : Quiet (n + 1) s.log) :
    ∃ s', (system lostSerde).step s (.append eightDays (quietEvent (n + 1)) 0 false) = some s' ∧
      WellKept lostSerde s'.log ∧
      s'.history = s.history ++ [s.log.nextEntry (quietEvent (n + 1)) 0] ∧
      s'.forgotten = s.forgotten ∧
      s.log.nextEntry (quietEvent (n + 1)) 0 ∈ s'.log.events ∧
      ∀ entry ∈ s'.log.events, entry.key ≠ .fromEvent (quietEvent 0) := by
  have hevents : s.log.events = quietEntry 0 :: (List.range n).map (quietEntry ∘ Nat.succ) := by
    rw [hquiet.events, List.range_succ_eq_map, List.map_cons, List.map_map]
  have hhandles : lostSerde.Handles (quietEvent (n + 1)) := lostSerde_handles _ _
  obtain ⟨s', hstep⟩ :=
    exists_step_append hquiet.wellKept eightDays rfl (by decide) hhandles 0 false
  refine ⟨s', hstep, ?_⟩
  cases stepped_append hquiet.wellKept hhandles hstep with
  | known hknown =>
      obtain ⟨i, hi, heq⟩ := (hquiet.keys _).mp hknown
      exact absurd (quietEvent_key_inj hsmall (by omega) heq) (by omega)
  | @recorded _ _ _ _ log dropped _ hrecorded =>
      have hnow : currentTimestampMs eightDays = .ok 691200000 := rfl
      obtain ⟨d, hdue⟩ : ∃ d, retainFromIndex eightDays
          (s.log.events ++ [s.log.nextEntry (quietEvent (n + 1)) 0]) = .ok (some d) := by
        rw [hevents, List.cons_append]
        refine retainFromIndex_due hnow ?_ (isOld_eightDays 0)
        rw [hn, List.length_append, List.length_map, List.length_range, List.length_singleton]
      have hpos : 0 < dropped := by
        rcases hrecorded.drops with ⟨hnone, -⟩ | hsome
        · cases hnone.symm.trans hdue
        · exact (retainFromIndex_eq_some hsome).1
      have hkept : s.log.nextEntry (quietEvent (n + 1)) 0 ∈ log.events := by
        have hlt := hrecorded.drops.lt_length (by simp)
        rw [List.length_append, List.length_singleton] at hlt
        rw [hrecorded.events, List.drop_append_of_le_length (by omega)]
        exact List.mem_append_right _ (List.mem_singleton_self _)
      refine ⟨hquiet.wellKept.of_recorded (hhandles _ _) hrecorded, rfl, rfl, hkept, ?_⟩
      intro entry hentry heq
      rw [hrecorded.events, hevents, List.cons_append, ← Nat.sub_add_cancel hpos,
        List.drop_succ_cons] at hentry
      rcases List.mem_append.mp (List.mem_of_mem_drop hentry) with hentry | hentry
      · obtain ⟨i, hi, rfl⟩ := List.mem_map.mp hentry
        rw [List.mem_range] at hi
        exact absurd (quietEvent_key_inj (by omega) (by omega) heq) (Nat.succ_ne_zero i)
      · rw [List.mem_singleton.mp hentry] at heq
        exact absurd (quietEvent_key_inj hsmall (by omega) heq) (Nat.succ_ne_zero n)

/-- The compaction drops the first event and keeps the last one; the reopened log has forgotten
the one and knows the other. -/
theorem follow_compacted (path : String) :
    ∃ s, (system lostSerde).follow (fresh path) compacted = some s ∧
      (system lostSerde).Reaches Sound (fresh path) s ∧
      .fromEvent (quietEvent 0) ∈ keys s.forgotten ∧
      .fromEvent (quietEvent 0) ∉ s.log.seenEventKeys ∧
      .fromEvent (quietEvent EVENT_LOG_RETENTION_MIN_EVENTS) ∈ keys s.log.events ∧
      .fromEvent (quietEvent EVENT_LOG_RETENTION_MIN_EVENTS) ∉ keys s.forgotten := by
  obtain ⟨n, hn⟩ : ∃ n, EVENT_LOG_RETENTION_MIN_EVENTS = n + 1 := ⟨9999, rfl⟩
  have hsmall : n + 1 < 2 ^ 128 := by
    rw [← hn]
    decide
  obtain ⟨s, hfollow, hreaches, hquiet, hhistory, -, hforgotten⟩ :=
    follow_quietAppends path (n := n + 1) (by omega)
  obtain ⟨s₁, hstep₁, hkept₁, hhistory₁, hforgotten₁, hlast, hgone⟩ :=
    drops_first_entry hn hsmall hquiet
  have hsound : Sound s (.append eightDays (quietEvent (n + 1)) 0 false) := by
    refine sound_append ?_ _
    rw [hforgotten]
    exact List.not_mem_nil
  have hreaches₁ := hreaches.step hsound hstep₁
  have hstep₂ : (system lostSerde).step s₁ (.reopen 0) =
      some { s₁ with
        log := opened s₁.log.path s₁.log.file s₁.log.events 0
        forgotten := s₁.dropped } :=
    Option.map_eq_some_iff.mpr ⟨_, step_crash_file hkept₁ 0, rfl⟩
  -- the history of the compacted log is what it dropped and what it kept, each key once
  obtain ⟨hagrees₁, hnodup₁⟩ := agrees_of_reaches hreaches₁
  rw [hagrees₁.history, keys, List.map_append] at hnodup₁
  have hapart := (List.nodup_append.mp hnodup₁).2.2
  have hlastKey : .fromEvent (quietEvent (n + 1)) ∈ keys s₁.log.events :=
    List.mem_map_of_mem hlast
  have hfirst : .fromEvent (quietEvent 0) ∈ keys s₁.history := by
    rw [hhistory₁, hhistory, hquiet.events, List.range_succ_eq_map]
    exact List.mem_cons_self
  have hunseen : .fromEvent (quietEvent 0) ∉ keys s₁.log.events := by
    intro hmem
    obtain ⟨entry, hentry, heq⟩ := List.mem_map.mp hmem
    exact hgone entry hentry heq
  refine ⟨_, ?_, hreaches₁.step (sound_reopen _ _) hstep₂, ?_, hunseen, ?_, ?_⟩
  · rw [compacted, hn, StepSystem.follow_append hfollow]
    rw [StepSystem.follow, hstep₁, Option.bind_some, StepSystem.follow, hstep₂, Option.bind_some]
    rfl
  · rw [hagrees₁.history, keys, List.map_append] at hfirst
    exact (List.mem_append.mp hfirst).resolve_right hunseen
  · rw [hn]
    exact hlastKey
  · rw [hn]
    exact fun hdropped => hapart _ hdropped _ hlastKey rfl

/-- The last event comes again: the log drops an event, is reopened, and still knows it. -/
def remembering : List RecordingAction :=
  compacted ++ [.append eightDays (quietEvent EVENT_LOG_RETENTION_MIN_EVENTS) 0 false]

theorem entries_unique_of_remembering :
    ∃ s, (system lostSerde).follow (fresh "events/runtime.jsonl") remembering = some s ∧
      s.forgotten ≠ [] ∧
      .fromEvent (quietEvent EVENT_LOG_RETENTION_MIN_EVENTS) ∈ keys s.history ∧
      Unique lostSerde s := by
  obtain ⟨s, hfollow, hreaches, hfirst, -, hlast, hremembered⟩ :=
    follow_compacted "events/runtime.jsonl"
  obtain ⟨hagrees, -⟩ := agrees_of_reaches hreaches
  have hrecorded : .fromEvent (quietEvent EVENT_LOG_RETENTION_MIN_EVENTS) ∈ keys s.history := by
    rw [hagrees.history, keys, List.map_append]
    exact List.mem_append_right _ hlast
  have hhandles : lostSerde.Handles (quietEvent EVENT_LOG_RETENTION_MIN_EVENTS) :=
    lostSerde_handles _ _
  obtain ⟨s', hstep⟩ :=
    exists_step_append hagrees.wellKept eightDays rfl (by decide) hhandles 0 false
  have hreaches' := hreaches.step (sound_append hremembered eightDays) hstep
  have hsame : s' = s := by
    cases stepped_append hagrees.wellKept hhandles hstep with
    | known => rfl
    | recorded hnew =>
        exact absurd ((hagrees.known _ hrecorded).resolve_right hremembered) hnew
  subst hsame
  refine ⟨s', ?_, ?_, hrecorded, entries_unique hreaches'⟩
  · rw [remembering, StepSystem.follow_append hfollow, StepSystem.follow, hstep, Option.bind_some]
    rfl
  · rintro hnone
    rw [hnone] at hfirst
    exact List.not_mem_nil hfirst

/-- The first event comes again. -/
def forgetful : List RecordingAction :=
  compacted ++ [.append eightDays (quietEvent 0) 0 false]

/-- The log records an event twice that its compaction dropped before a reopen. -/
theorem forgotten_event_recorded_twice :
    ∃ s, (system lostSerde).follow (fresh "events/runtime.jsonl") forgetful = some s ∧
      ¬ Unique lostSerde s := by
  obtain ⟨s, hfollow, hreaches, hfirst, hunseen, -, -⟩ := follow_compacted "events/runtime.jsonl"
  obtain ⟨hagrees, -⟩ := agrees_of_reaches hreaches
  have hhandles : lostSerde.Handles (quietEvent 0) := lostSerde_handles _ _
  obtain ⟨s', hstep⟩ :=
    exists_step_append hagrees.wellKept eightDays rfl (by decide) hhandles 0 false
  refine ⟨s', ?_, ?_⟩
  · rw [forgetful, StepSystem.follow_append hfollow, StepSystem.follow, hstep, Option.bind_some]
    rfl
  · rintro ⟨hnodup, -⟩
    cases stepped_append hagrees.wellKept hhandles hstep with
    | known hknown => exact hunseen hknown
    | recorded hnew hrecorded =>
        have hdropped : .fromEvent (quietEvent 0) ∈ keys s.history := by
          rw [hagrees.history, keys, List.map_append]
          refine List.mem_append_left _ ?_
          exact List.map_subset _ hagrees.forgotten.subset hfirst
        rw [keys, List.map_append] at hnodup
        exact (List.nodup_append.mp hnodup).2.2 _ hdropped _ (List.mem_singleton.mpr rfl) rfl

end Recording

end LittleOrgans.Runtime
