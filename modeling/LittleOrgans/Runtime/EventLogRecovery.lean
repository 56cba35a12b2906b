import LittleOrgans.Library.StepSystem
import LittleOrgans.Runtime.EventLogAppend

/-!
# Recovery of the event log

A log that only ever succeeded in its appends, and was reopened after crashes
that may have cut its file at any byte, is well kept (`WellKept`): its file holds
the lines of its entries, and their sequence numbers increase until the largest
one is reached. Cut at any byte, the file opens, with the entries whose lines are
complete (`recovers_prefix`). Only at the largest sequence number does the log
give out a number twice (`last_seq_given_twice`).
-/

set_option autoImplicit false

namespace LittleOrgans.Runtime

open LittleOrgans.Core
open LittleOrgans.Library
open LittleOrgans.Library.Lines

variable {serde : Serde}

/-! ## The file of a list of entries -/

/-- The line of an entry. -/
def entryLine (serde : Serde) (entry : EventLogEntry) : Bytes :=
  match encodeEntry serde "failed to encode event log" entry with
  | .ok line => line
  | .error _ => []

/-- The file that holds these entries. -/
def fileOf (serde : Serde) (entries : List EventLogEntry) : Bytes :=
  unlines (entries.map (entryLine serde))

theorem encodeEntry_eq_ok {entry : EventLogEntry} {record : EventLogRecord} {text : String}
    (hrecord : EventLogRecord.fromEntry serde entry = .ok record)
    (htext : serde.toWriter record = some text) (context : LogError) :
    encodeEntry serde context entry = .ok (textBytes text) := by
  refine Library.Except.bind_eq_ok.mpr ⟨record, hrecord, ?_⟩
  rw [htext]
  rfl

theorem Serde.RoundTrips.encodeEntry {entry : EventLogEntry} (h : serde.RoundTrips entry)
    (context : LogError) : encodeEntry serde context entry = .ok (entryLine serde entry) := by
  obtain ⟨record, text, hrecord, htext, -, -, -⟩ := h
  rw [entryLine, encodeEntry_eq_ok hrecord htext, encodeEntry_eq_ok hrecord htext]

theorem Serde.RoundTrips.isLine {entry : EventLogEntry} (h : serde.RoundTrips entry) :
    IsLine (entryLine serde entry) := by
  obtain ⟨record, text, hrecord, htext, -, -, hline⟩ := h
  rw [entryLine, encodeEntry_eq_ok hrecord htext]
  exact hline

theorem fromUTF8?_textBytes (text : String) :
    String.fromUTF8? ⟨(textBytes text).toArray⟩ = some text := by
  have hbytes : (⟨(textBytes text).toArray⟩ : ByteArray) = text.toByteArray := by
    rw [textBytes, Array.toArray_toList]
    rfl
  rw [hbytes, String.fromUTF8?, dif_pos text.isValidUTF8]
  rfl

theorem Serde.RoundTrips.parseLine {entry : EventLogEntry} (h : serde.RoundTrips entry) :
    parseLine serde (entryLine serde entry) = .ok entry := by
  obtain ⟨record, text, hrecord, htext, hparse, hentry, -⟩ := h
  have hline : entryLine serde entry = textBytes text := by
    rw [entryLine, encodeEntry_eq_ok hrecord htext]
  simp only [hline, Runtime.parseLine, fromUTF8?_textBytes, hparse]
  exact hentry

theorem mapM_eq_ok {α β ε : Type} {f : α → Except ε β} {g : α → β} {as : List α}
    (h : ∀ a ∈ as, f a = .ok (g a)) : as.mapM f = .ok (as.map g) := by
  induction as with
  | nil => rfl
  | cons a as ih =>
      rw [List.mapM_cons, h a List.mem_cons_self, ih fun b hb => h b (List.mem_cons_of_mem a hb)]
      rfl

theorem length_fileOf_take_le (entries : List EventLogEntry) (k : Nat) :
    (fileOf serde (entries.take k)).length ≤ (fileOf serde entries).length := by
  have hsplit : fileOf serde entries =
      fileOf serde (entries.take k) ++ fileOf serde (entries.drop k) := by
    rw [fileOf, fileOf, fileOf, ← unlines_append, ← List.map_append, List.take_append_drop]
  rw [hsplit, List.length_append]
  exact Nat.le_add_right _ _

section File

variable {entries : List EventLogEntry} (h : ∀ entry ∈ entries, serde.RoundTrips entry)

include h

theorem isLine_of_mem {line : Bytes} (hline : line ∈ entries.map (entryLine serde)) :
    IsLine line := by
  obtain ⟨entry, hentry, rfl⟩ := List.mem_map.mp hline
  exact (h entry hentry).isLine

theorem readEntries_fileOf : readEntries serde (fileOf serde entries) = .ok entries := by
  rw [readEntries, fileOf, lines_unlines fun line hline => isLine_of_mem h hline, List.mapM_map]
  have hparse := mapM_eq_ok (g := id) fun entry hentry => (h entry hentry).parseLine
  rwa [List.map_id] at hparse

theorem encode_entries (context : LogError) :
    entries.mapM (encodeEntry serde context) = .ok (entries.map (entryLine serde)) :=
  mapM_eq_ok fun entry hentry => (h entry hentry).encodeEntry context

end File

theorem recoverPartialTail_unlines_append (pieces : List Bytes) {tail : Bytes}
    (htail : newline ∉ tail) : recoverPartialTail (unlines pieces ++ tail) = unlines pieces := by
  rw [recoverPartialTail]
  cases tail using List.reverseRecOn with
  | nil => rw [List.append_nil, if_pos (getLast?_unlines pieces)]
  | append_singleton tail byte =>
      have hbyte : byte ≠ newline := fun heq => htail (by simp [heq])
      rw [if_neg, rposition_unlines_append htail, List.take_left']
      · rfl
      · rw [← List.append_assoc, List.getLast?_concat]
        simpa using hbyte

namespace EventLog

/-- Opening a file that holds entries and an unfinished line. -/
theorem openFile_torn {entries : List EventLogEntry}
    (h : ∀ entry ∈ entries, serde.RoundTrips entry) (tail : Bytes) (htail : newline ∉ tail)
    (path : String) (instant : Nat) :
    openFile serde path (some (fileOf serde entries ++ tail)) instant =
      .ok (opened path (fileOf serde entries) entries instant) := by
  rw [openFile, Option.getD_some, fileOf, recoverPartialTail_unlines_append _ htail, ← fileOf,
    readEntries_fileOf h]
  rfl

/-! ## Sequence numbers -/

/-- Sequence numbers increase, until the largest one, which is given out again
and again. -/
def Increasing (entries : List EventLogEntry) : Prop :=
  entries.Pairwise fun a b => a.seq.toNat < b.seq.toNat ∨ b.seq.toNat = 2 ^ 64 - 1

/-- The sequence number behind these entries. -/
def seqBehind (entries : List EventLogEntry) : EventCursor :=
  entries.getLast?.elim 1 fun entry => entry.seq.saturatingSucc

theorem seqBehind_concat (entries : List EventLogEntry) (entry : EventLogEntry) :
    seqBehind (entries ++ [entry]) = entry.seq.saturatingSucc := by
  rw [seqBehind, List.getLast?_concat]
  rfl

theorem Increasing.le_last {entries : List EventLogEntry} (h : Increasing entries)
    {last entry : EventLogEntry} (hlast : entries.getLast? = some last) (hentry : entry ∈ entries) :
    entry.seq.toNat ≤ last.seq.toNat := by
  have hmax := entry.seq.toNat_lt
  obtain ⟨front, rfl⟩ := List.getLast?_eq_some_iff.mp hlast
  rcases List.mem_append.mp hentry with hentry | hentry
  · rcases (List.pairwise_append.mp h).2.2 entry hentry last List.mem_cons_self with hlt | hsat
    · omega
    · omega
  · rw [List.mem_singleton.mp hentry]

theorem Increasing.concat {entries : List EventLogEntry} (h : Increasing entries)
    {entry : EventLogEntry} (hseq : entry.seq = seqBehind entries) :
    Increasing (entries ++ [entry]) := by
  refine List.pairwise_append.mpr ⟨h, List.pairwise_singleton _ _, ?_⟩
  intro a ha b hb
  obtain rfl := List.mem_singleton.mp hb
  obtain ⟨last, hlast⟩ : ∃ last, entries.getLast? = some last := by
    cases hlast : entries.getLast? with
    | none => simp [List.getLast?_eq_none_iff.mp hlast] at ha
    | some last => exact ⟨last, rfl⟩
  have hle := h.le_last hlast ha
  rw [hseq, seqBehind, hlast, Option.elim_some, EventCursor.toNat_saturatingSucc]
  omega

/-- A sequence number behind entries is none of theirs, unless theirs have
reached the largest one. -/
theorem Increasing.seqBehind_ne {entries : List EventLogEntry} (h : Increasing entries)
    {last : EventLogEntry} (hlast : entries.getLast? = some last)
    (hmax : last.seq ≠ EventCursor.max) {entry : EventLogEntry} (hentry : entry ∈ entries) :
    entry.seq ≠ seqBehind entries := by
  intro heq
  have hle := h.le_last hlast hentry
  have hlt := last.seq.toNat_lt
  have hne : last.seq.toNat ≠ 2 ^ 64 - 1 := fun hnat => hmax (UInt64.toNat_inj.mp hnat)
  rw [heq, seqBehind, hlast, Option.elim_some, EventCursor.toNat_saturatingSucc] at hle
  omega

/-! ## Well-kept logs -/

/-- The log and its file agree. -/
structure WellKept (serde : Serde) (log : EventLog) : Prop where
  linked : log.linked = true
  file : log.file = fileOf serde log.events
  roundTrips : ∀ entry ∈ log.events, serde.RoundTrips entry
  numbered : log.nextSeq = seqBehind log.events
  increasing : Increasing log.events
  keys : ∀ entry ∈ log.events, entry.key ∈ log.seenEventKeys

theorem wellKept_opened {path : String} {entries : List EventLogEntry} {instant : Nat}
    (hlines : ∀ entry ∈ entries, serde.RoundTrips entry) (hincreasing : Increasing entries) :
    WellKept serde (opened path (fileOf serde entries) entries instant) where
  linked := rfl
  file := rfl
  roundTrips := hlines
  numbered := rfl
  increasing := hincreasing
  keys := fun _ hentry => List.mem_map_of_mem hentry

theorem wellKept_fresh (path : String) : WellKept serde (fresh path) where
  linked := rfl
  file := rfl
  roundTrips := by simp [fresh]
  numbered := rfl
  increasing := .nil
  keys := by simp [fresh]

/-- An append that finds these entries drops the first `dropped` of them. -/
def Drops (io : Io) (entries : List EventLogEntry) (dropped : Nat) : Prop :=
  retainFromIndex io entries = .ok none ∧ dropped = 0 ∨
    retainFromIndex io entries = .ok (some dropped)

theorem Drops.lt_length {io : Io} {entries : List EventLogEntry} {dropped : Nat}
    (h : Drops io entries dropped) (hentries : entries ≠ []) : dropped < entries.length := by
  rcases h with ⟨-, rfl⟩ | h
  · exact List.length_pos_iff.mpr hentries
  · have hmany := (retainFromIndex_eq_some h).2.1
    have hpos : 0 < EVENT_LOG_RETENTION_MIN_EVENTS := by decide
    rw [List.length_drop] at hmany
    omega

/-- What an append leaves that found its key new. -/
structure Recorded (serde : Serde) (io : Io) (event : RuntimeEvent) (tsMs : UInt64)
    (log log' : EventLog) (dropped : Nat) : Prop where
  drops : Drops io (log.events ++ [log.nextEntry event tsMs]) dropped
  events : log'.events = (log.events ++ [log.nextEntry event tsMs]).drop dropped
  file : log'.file = fileOf serde log'.events
  linked : log'.linked = true
  seenEventKeys : log'.seenEventKeys = .fromEvent event :: log.seenEventKeys
  nextSeq : log'.nextSeq = log.nextSeq.saturatingSucc
  path : log'.path = log.path

theorem counted_eq (io : Io) (syncAfterAppend : Bool) (log : EventLog) :
    ∃ eventsSinceSync lastSync, counted io syncAfterAppend log =
      { log with eventsSinceSync := eventsSinceSync, lastSync := lastSync } := by
  rw [counted]
  split
  · split
    · exact ⟨_, _, rfl⟩
    · exact ⟨_, _, rfl⟩
  · exact ⟨_, _, rfl⟩

theorem WellKept.recorded {io : Io} {event : RuntimeEvent} {tsMs : UInt64}
    {syncAfterAppend : Bool} {log log' : EventLog} (hkept : WellKept serde log)
    (hround : serde.RoundTrips (log.nextEntry event tsMs))
    (hnew : .fromEvent event ∉ log.seenEventKeys)
    (h : Appends serde io event tsMs syncAfterAppend log log') :
    ∃ dropped, Recorded serde io event tsMs log log' dropped := by
  cases h with
  | known h => exact absurd h hnew
  | @recorded line _ _ hline _ _ _ hcompact =>
      have hrounds : ∀ entry ∈ log.events ++ [log.nextEntry event tsMs],
          serde.RoundTrips entry := by
        intro entry hentry
        rcases List.mem_append.mp hentry with hentry | hentry
        · exact hkept.roundTrips entry hentry
        · rwa [List.mem_singleton.mp hentry]
      obtain rfl : entryLine serde (log.nextEntry event tsMs) = line :=
        Except.ok.inj ((hround.encodeEntry _).symm.trans hline)
      obtain ⟨eventsSinceSync, lastSync, hcounted⟩ := counted_eq io syncAfterAppend
        { (log.numbered event).wrote (entryLine serde (log.nextEntry event tsMs) ++ [newline]) with
          events := (log.numbered event).events ++ [log.nextEntry event tsMs] }
      have hwrote : (log.numbered event).wrote
          (entryLine serde (log.nextEntry event tsMs) ++ [newline]) =
          { log.numbered event with
            file := log.file ++ (entryLine serde (log.nextEntry event tsMs) ++ [newline]) } := by
        rw [wrote, if_pos]
        · rfl
        · exact hkept.linked
      -- The file ends with the new line, as if all entries had been written at once.
      have hfile : log.file ++ (entryLine serde (log.nextEntry event tsMs) ++ [newline]) =
          fileOf serde (log.events ++ [log.nextEntry event tsMs]) := by
        rw [hkept.file, fileOf, fileOf, List.map_append, unlines_append]
        simp
      rw [appended, hcounted, hwrote] at hcompact
      cases hcompact with
      | kept h =>
          exact ⟨0, .inl ⟨h, rfl⟩, rfl, hfile, hkept.linked, rfl, rfl, rfl⟩
      | @dropped retainFrom retainedLines h hlines hsteps =>
          have hretained : ∀ entry ∈ (log.events ++ [log.nextEntry event tsMs]).drop retainFrom,
              serde.RoundTrips entry := fun entry hentry =>
            hrounds entry (List.mem_of_mem_drop hentry)
          have hencoded := encode_entries hretained "failed to compact event log"
          obtain rfl := Except.ok.inj (hencoded.symm.trans hlines)
          exact ⟨retainFrom, .inr h, rfl, rfl, rfl, rfl, rfl, rfl⟩

theorem WellKept.of_recorded {io : Io} {event : RuntimeEvent} {tsMs : UInt64}
    {log log' : EventLog} {dropped : Nat} (hkept : WellKept serde log)
    (hround : serde.RoundTrips (log.nextEntry event tsMs))
    (h : Recorded serde io event tsMs log log' dropped) : WellKept serde log' where
  linked := h.linked
  file := h.file
  roundTrips := by
    intro entry hentry
    rw [h.events] at hentry
    rcases List.mem_append.mp (List.mem_of_mem_drop hentry) with hentry | hentry
    · exact hkept.roundTrips entry hentry
    · rwa [List.mem_singleton.mp hentry]
  numbered := by
    have hlt := h.drops.lt_length (by simp)
    rw [h.nextSeq, h.events, seqBehind, List.getLast?_drop, if_neg (by omega),
      List.getLast?_concat]
    rfl
  increasing := by
    rw [h.events]
    exact (hkept.increasing.concat hkept.numbered).sublist (List.drop_sublist _ _)
  keys := by
    intro entry hentry
    rw [h.events] at hentry
    rw [h.seenEventKeys]
    rcases List.mem_append.mp (List.mem_of_mem_drop hentry) with hentry | hentry
    · exact List.mem_cons_of_mem _ (hkept.keys entry hentry)
    · rw [List.mem_singleton.mp hentry]
      exact List.mem_cons_self

/-! ## Runs with crashes -/

/-- What happens to a log: an append, or a crash that leaves a prefix of the file
and is followed by a start of the daemon. -/
inductive LogAction where
  | append (io : Io) (event : RuntimeEvent) (tsMs : UInt64) (syncAfterAppend : Bool)
  | crash (kept : Nat) (instant : Nat)

/-- Appends that succeed, and crashes. -/
def logSystem (serde : Serde) : StepSystem EventLog LogAction where
  step log
    | .append io event tsMs syncAfterAppend =>
        match (appendRecordedEvent serde io event tsMs syncAfterAppend).run log with
        | .ok _ log' => some log'
        | .error _ _ => none
    | .crash kept instant => (openFile serde log.path (some (log.file.take kept)) instant).toOption

/-- The serialiser round-trips what is appended. -/
def LogAction.Handled (serde : Serde) (_ : EventLog) : LogAction → Prop
  | .append _ event _ _ => serde.Handles event
  | .crash _ _ => True

theorem step_append_eq_some {io : Io} {event : RuntimeEvent} {tsMs : UInt64}
    {syncAfterAppend : Bool} {log log' : EventLog} :
    (logSystem serde).step log (.append io event tsMs syncAfterAppend) = some log' ↔
      Appends serde io event tsMs syncAfterAppend log log' := by
  simp only [logSystem]
  cases hrun : (appendRecordedEvent serde io event tsMs syncAfterAppend).run log with
  | ok e log₁ =>
      obtain ⟨rfl, happends⟩ := appendRecordedEvent_eq_ok.mp hrun
      simp only [Option.some.injEq]
      constructor
      · rintro rfl
        exact happends
      · intro h
        have hrun' := appendRecordedEvent_eq_ok.mpr ⟨rfl, h⟩
        cases hrun.symm.trans hrun'
        rfl
  | error e log₁ =>
      constructor
      · intro h
        cases h
      · intro h
        have hrun' := appendRecordedEvent_eq_ok.mpr ⟨rfl, h⟩
        cases hrun.symm.trans hrun'

/-- The entries whose lines are complete in the first `n` bytes of their file. -/
structure CompleteIn (serde : Serde) (entries : List EventLogEntry) (n k : Nat) : Prop where
  le_length : k ≤ entries.length
  fits : n ≤ (fileOf serde entries).length → (fileOf serde (entries.take k)).length ≤ n
  most : k < entries.length → n < (fileOf serde (entries.take (k + 1))).length

/-- A prefix of the file of a well-kept log opens. -/
theorem WellKept.openFile_take {log : EventLog} (h : WellKept serde log) (n : Nat) (path : String)
    (instant : Nat) :
    ∃ k, CompleteIn serde log.events n k ∧
      openFile serde path (some (log.file.take n)) instant =
        .ok (opened path (fileOf serde (log.events.take k)) (log.events.take k) instant) := by
  have hlines : ∀ line ∈ log.events.map (entryLine serde), IsLine line := fun line hline =>
    isLine_of_mem h.roundTrips hline
  obtain ⟨k, tail, hk, htake, htail, hfits, hmost⟩ := take_unlines hlines n
  rw [← List.map_take] at htake hfits
  refine ⟨k, ⟨by simpa using hk, hfits, ?_⟩, ?_⟩
  · intro hlt
    have := hmost (by simpa using hlt)
    rwa [← List.map_take] at this
  · rw [h.file, fileOf, htake, ← fileOf]
    exact openFile_torn (fun entry hentry => h.roundTrips entry (List.mem_of_mem_take hentry))
      tail htail path instant

theorem WellKept.take {log : EventLog} (h : WellKept serde log) (k : Nat) (path : String)
    (instant : Nat) :
    WellKept serde (opened path (fileOf serde (log.events.take k)) (log.events.take k) instant) :=
  wellKept_opened (fun entry hentry => h.roundTrips entry (List.mem_of_mem_take hentry))
    (h.increasing.sublist (List.take_sublist _ _))

theorem WellKept.step {log log' : EventLog} {action : LogAction} (h : WellKept serde log)
    (hhandled : action.Handled serde log) (hstep : (logSystem serde).step log action = some log') :
    WellKept serde log' := by
  cases action with
  | append io event tsMs syncAfterAppend =>
      have happends := step_append_eq_some.mp hstep
      by_cases hkey : EventLogKey.fromEvent event ∈ log.seenEventKeys
      · cases happends with
        | known => exact h
        | recorded hnew => exact absurd hkey hnew
      · obtain ⟨dropped, hrecorded⟩ := h.recorded (hhandled _ _) hkey happends
        exact h.of_recorded (hhandled _ _) hrecorded
  | crash kept instant =>
      obtain ⟨k, -, hopen⟩ := h.openFile_take kept log.path instant
      simp only [logSystem, hopen, Except.toOption, Option.some.injEq] at hstep
      rw [← hstep]
      exact h.take k log.path instant

/-- Every log that was only appended to, with crashes at any byte, is well kept. -/
theorem wellKept_of_reaches {path : String} {log : EventLog}
    (h : (logSystem serde).Reaches (LogAction.Handled serde) (fresh path) log) :
    WellKept serde log :=
  h.invariant (wellKept_fresh path) fun _ _ _ hkept hhandled hstep => hkept.step hhandled hstep

/-! ## Recovery from a cut file -/

/-- The next sequence number is one more than the last one that was loaded, and
no loaded entry has it. -/
def ContinuesNumbering (log : EventLog) : Prop :=
  ∀ last, log.events.getLast? = some last →
    log.nextSeq.toNat = last.seq.toNat + 1 ∧ ∀ entry ∈ log.events, entry.seq ≠ log.nextSeq

/-- The log opens on the first `n` bytes of its file. It loads the entries whose
lines are complete and truncates the file to these lines, the next sequence number
is as `numbering` says, and the next new event gets a line of its own behind them. -/
def RecoversPrefix (serde : Serde) (log : EventLog) (n : Nat) (instant : Nat)
    (numbering : EventLog → Prop) : Prop :=
  ∃ k reopened, CompleteIn serde log.events n k ∧
    openFile serde log.path (some (log.file.take n)) instant = .ok reopened ∧
    reopened.events = log.events.take k ∧
    reopened.file = fileOf serde (log.events.take k) ∧
    (reopened.events = [] → reopened.nextSeq = 1) ∧ numbering reopened ∧
    ∀ io event tsMs syncAfterAppend e log', serde.Handles event →
      .fromEvent event ∉ reopened.seenEventKeys →
      (appendRecordedEvent serde io event tsMs syncAfterAppend).run reopened = .ok e log' →
      ∃ dropped,
        log'.events = (log.events.take k ++ [reopened.nextEntry event tsMs]).drop dropped ∧
        log'.file = fileOf serde log'.events

theorem WellKept.continuesNumbering {log : EventLog} (h : WellKept serde log)
    (hmax : ∀ last, log.events.getLast? = some last → last.seq ≠ EventCursor.max) :
    ContinuesNumbering log := by
  intro last hlast
  have hne := hmax last hlast
  have hlt := last.seq.toNat_lt
  have hnat : last.seq.toNat ≠ 2 ^ 64 - 1 := fun hnat => hne (UInt64.toNat_inj.mp hnat)
  constructor
  · rw [h.numbered, seqBehind, hlast, Option.elim_some, EventCursor.toNat_saturatingSucc]
    omega
  · intro entry hentry
    rw [h.numbered]
    exact h.increasing.seqBehind_ne hlast hne hentry

/-- A log cut at any byte recovers, and continues its numbering unless the last
loaded sequence number is the largest one. -/
theorem recovers_prefix {path : String} {log : EventLog}
    (h : (logSystem serde).Reaches (LogAction.Handled serde) (fresh path) log) (n instant : Nat) :
    RecoversPrefix serde log n instant fun reopened =>
      (∀ last, reopened.events.getLast? = some last → last.seq ≠ EventCursor.max) →
        ContinuesNumbering reopened := by
  have hkept := wellKept_of_reaches h
  obtain ⟨k, hcomplete, hopen⟩ := hkept.openFile_take n log.path instant
  have hreopened := hkept.take k log.path instant
  refine ⟨k, _, hcomplete, hopen, rfl, rfl, ?_, hreopened.continuesNumbering, ?_⟩
  · intro hnone
    rw [hreopened.numbered, hnone]
    rfl
  · intro io event tsMs syncAfterAppend e log' hhandles hnew hrun
    obtain ⟨-, happends⟩ := appendRecordedEvent_eq_ok.mp hrun
    obtain ⟨dropped, hrecorded⟩ := hreopened.recorded (hhandles _ _) hnew happends
    exact ⟨dropped, hrecorded.events, hrecorded.file⟩

/-! ## Logs of any length -/

/-- The loss of the `i`-th session. -/
def quietEvent (i : Nat) : RuntimeEvent := .lost ⟨.ofNat 128 i⟩ .pidNotAlive

/-- An append at the epoch; no entry is old then. -/
def quietAppend (i : Nat) : LogAction := .append ⟨none, 0, 0⟩ (quietEvent i) 0 false

def quietAppends (n : Nat) : List LogAction := (List.range n).map quietAppend

def quietEntry (i : Nat) : EventLogEntry := ⟨.ofNat (min (i + 1) (2 ^ 64 - 1)), 0, quietEvent i⟩

theorem quietEvent_key_inj {i j : Nat} (hi : i < 2 ^ 128) (hj : j < 2 ^ 128)
    (h : EventLogKey.fromEvent (quietEvent i) = .fromEvent (quietEvent j)) : i = j := by
  have huuid : BitVec.ofNat 128 i = BitVec.ofNat 128 j :=
    congrArg (fun key => key.sessionId.uuid) h
  have hnat := congrArg BitVec.toNat huuid
  rwa [BitVec.toNat_ofNat, BitVec.toNat_ofNat, Nat.mod_eq_of_lt hi, Nat.mod_eq_of_lt hj] at hnat

/-- An entry with a later timestamp is not old. -/
theorem isOld_of_le {nowMs : Nat} {entry : EventLogEntry} (h : nowMs ≤ entry.tsMs.toNat) :
    isOld nowMs entry = false :=
  decide_eq_false (by omega)

theorem retainFromIndex_epoch {io : Io} (h : io.utcMs = 0) (events : List EventLogEntry) :
    retainFromIndex io events = .ok none := by
  have hyoung : events.takeWhile (isOld 0) = [] := by
    cases events with
    | nil => rfl
    | cons entry events =>
        rw [List.takeWhile_cons_of_neg]
        rw [isOld_of_le (Nat.zero_le _)]
        exact Bool.false_ne_true
  rw [retainFromIndex]
  split
  · rfl
  · have hnow : currentTimestampMs io = .ok 0 := by
      rw [currentTimestampMs, h]
      rfl
    refine Library.Except.bind_eq_ok.mpr ⟨0, hnow, ?_⟩
    rw [hyoung]
    simp only [List.length_nil, Nat.min_zero, Nat.lt_irrefl, if_false]
    rfl

theorem quietEntry_seq (n : Nat) :
    seqBehind ((List.range n).map quietEntry) = (quietEntry n).seq := by
  cases n with
  | zero => rfl
  | succ n =>
      rw [List.range_succ, List.map_append, List.map_singleton, seqBehind_concat]
      apply UInt64.toNat_inj.mp
      rw [EventCursor.toNat_saturatingSucc, quietEntry, quietEntry, UInt64.toNat_ofNat',
        UInt64.toNat_ofNat']
      omega

/-- The log after `n` quiet appends. -/
structure Quiet (n : Nat) (log : EventLog) : Prop where
  wellKept : WellKept lostSerde log
  events : log.events = (List.range n).map quietEntry
  keys : ∀ key, key ∈ log.seenEventKeys ↔ ∃ i < n, key = .fromEvent (quietEvent i)

theorem quiet_fresh (path : String) : Quiet 0 (fresh path) where
  wellKept := wellKept_fresh path
  events := rfl
  keys := by simp [fresh]

/-- An event that is new to a quiet log is recorded at the epoch. -/
theorem Quiet.step {n : Nat} {log : EventLog} (h : Quiet n log) (hn : n < 2 ^ 128) :
    ∃ log', Appends lostSerde ⟨none, 0, 0⟩ (quietEvent n) 0 false log log' ∧
      Recorded lostSerde ⟨none, 0, 0⟩ (quietEvent n) 0 log log' 0 ∧ Quiet (n + 1) log' := by
  have hnew : EventLogKey.fromEvent (quietEvent n) ∉ log.seenEventKeys := by
    intro hmem
    obtain ⟨i, hi, heq⟩ := (h.keys _).mp hmem
    exact absurd (quietEvent_key_inj hn (by omega) heq) (by omega)
  have hhandles : lostSerde.Handles (quietEvent n) := lostSerde_handles _ _
  have hnothing : NothingFails lostSerde ⟨none, 0, 0⟩ (quietEvent n) 0 false log := by
    refine ⟨⟨_, (hhandles _ _).encodeEntry _⟩, rfl, nofun, nofun, ?_, ?_⟩
    · exact ⟨none, retainFromIndex_epoch rfl _⟩
    · intro retainFrom hretain
      cases (retainFromIndex_epoch rfl _).symm.trans hretain
  obtain ⟨e, log', hrun⟩ := append_succeeds_iff.mpr (.inr hnothing)
  obtain ⟨-, happends⟩ := appendRecordedEvent_eq_ok.mp hrun
  obtain ⟨dropped, hrecorded⟩ := h.wellKept.recorded (hhandles _ _) hnew happends
  have hdropped : dropped = 0 := by
    rcases hrecorded.drops with ⟨-, h⟩ | h
    · exact h
    · cases (retainFromIndex_epoch rfl _).symm.trans h
  subst hdropped
  have hentry : log.nextEntry (quietEvent n) 0 = quietEntry n := by
    rw [nextEntry, h.wellKept.numbered, h.events, quietEntry_seq]
    rfl
  refine ⟨log', happends, hrecorded, h.wellKept.of_recorded (hhandles _ _) hrecorded, ?_, ?_⟩
  · rw [hrecorded.events, hentry, List.drop_zero, h.events, List.range_succ, List.map_append]
    rfl
  · intro key
    rw [hrecorded.seenEventKeys, List.mem_cons, h.keys]
    constructor
    · rintro (rfl | ⟨i, hi, rfl⟩)
      · exact ⟨n, by omega, rfl⟩
      · exact ⟨i, by omega, rfl⟩
    · rintro ⟨i, hi, rfl⟩
      by_cases hin : i = n
      · exact .inl (by rw [hin])
      · exact .inr ⟨i, by omega, rfl⟩

/-- Any number of quiet appends succeeds; nothing is dropped. -/
theorem follow_quietAppends (path : String) {n : Nat} (hn : n ≤ 2 ^ 128) :
    ∃ log, (logSystem lostSerde).follow (fresh path) (quietAppends n) = some log ∧
      Quiet n log := by
  induction n with
  | zero => exact ⟨fresh path, rfl, quiet_fresh path⟩
  | succ n ih =>
      obtain ⟨log, hfollow, hquiet⟩ := ih (by omega)
      obtain ⟨log', happends, -, hquiet'⟩ := hquiet.step (by omega)
      refine ⟨log', ?_, hquiet'⟩
      have hsplit : quietAppends (n + 1) = quietAppends n ++ [quietAppend n] := by
        rw [quietAppends, List.range_succ, List.map_append]
        rfl
      have hstep := step_append_eq_some.mpr happends
      rw [hsplit, StepSystem.follow_append hfollow, quietAppend, StepSystem.follow, hstep]
      rfl

/-- A prefix of a log with two entries, cut inside the second line. -/
theorem recovers_prefix_of_two_events :
    ∃ log, (logSystem lostSerde).follow (fresh "events/runtime.jsonl") (quietAppends 2) =
        some log ∧
      log.events = [quietEntry 0, quietEntry 1] ∧
      (fileOf lostSerde (log.events.take 1)).length < 200 ∧ 200 < log.file.length ∧
      RecoversPrefix lostSerde log 200 0 fun reopened =>
        (∀ last, reopened.events.getLast? = some last → last.seq ≠ EventCursor.max) →
          ContinuesNumbering reopened := by
  obtain ⟨log, hfollow, hquiet⟩ := follow_quietAppends "events/runtime.jsonl" (n := 2) (by decide)
  have hevents : log.events = [quietEntry 0, quietEntry 1] := hquiet.events
  refine ⟨log, hfollow, hevents, ?_, ?_,
    recovers_prefix (StepSystem.reaches_of_follow hfollow ?_) 200 0⟩
  · rw [hevents]
    decide +kernel
  · rw [hquiet.wellKept.file, hevents]
    decide +kernel
  · intro log' action haction
    obtain ⟨i, -, rfl⟩ := List.mem_map.mp haction
    exact lostSerde_handles _ _

/-- After 2^64 - 1 events the log has given out its largest sequence number, and
a reopen gives it out again. -/
theorem last_seq_given_twice :
    ∃ log, (logSystem lostSerde).follow (fresh "events/runtime.jsonl")
        (quietAppends (2 ^ 64 - 1)) = some log ∧
      ¬ RecoversPrefix lostSerde log log.file.length 0 ContinuesNumbering := by
  obtain ⟨n, hn⟩ : ∃ n : Nat, n + 1 = 2 ^ 64 - 1 := ⟨2 ^ 64 - 2, by omega⟩
  obtain ⟨log, hfollow, hkept, hevents, -⟩ :=
    follow_quietAppends "events/runtime.jsonl" (n := n + 1) (by omega)
  refine ⟨log, hn ▸ hfollow, ?_⟩
  rintro ⟨k, reopened, hcomplete, -, hloaded, -, -, hnumbering, -⟩
  have hall : log.events.take k = log.events := by
    refine List.take_of_length_le (Nat.le_of_not_lt fun hlt => ?_)
    have hmost := hcomplete.most hlt
    rw [hkept.file] at hmost
    exact absurd hmost (Nat.not_lt.mpr (length_fileOf_take_le log.events (k + 1)))
  have hlast : reopened.events.getLast? = some (quietEntry n) := by
    rw [hloaded, hall, hevents, List.range_succ, List.map_append]
    exact List.getLast?_concat
  have hnext := (hnumbering _ hlast).1
  have hseq : (quietEntry n).seq.toNat = 2 ^ 64 - 1 := by
    rw [quietEntry, UInt64.toNat_ofNat']
    omega
  have hlt := reopened.nextSeq.toNat_lt
  omega

end EventLog

end LittleOrgans.Runtime
