import LittleOrgans.Core.Lifecycle
import LittleOrgans.Library.Lines
import LittleOrgans.Library.Stateful
import Mathlib.Algebra.Group.Nat.Defs

/-!
# The runtime event log

The log that rtmd keeps of the lifecycle events it observed: a file of JSON
lines, one for each entry, and in memory the retained entries, the set of
recorded keys and the next sequence number. `EventLog.openFile` recovers the file
and reads it back, `EventLog.appendRecordedEvent` records one event and compacts
the log when that is due, `EventLog.eventsSince` reads behind a cursor.

`serde_json` is a parameter (`Serde`): the value of an event, the text of a
record, and back. What the environment decides about one append is `Io`: the
clocks, and which of its steps fails. The data directory is created without
failure, and the temporary file of a compaction is not kept: the next one
truncates it.
-/

set_option autoImplicit false

namespace LittleOrgans.Runtime

open LittleOrgans.Core
open LittleOrgans.Library.Lines

/-! ## Entries -/

/-- The position of an entry in the log. -/
abbrev EventCursor := UInt64

/-- `u64::MAX`. -/
def EventCursor.max : EventCursor := .ofNat (2 ^ 64 - 1)

/-- `u64::saturating_add(1)`. -/
def EventCursor.saturatingSucc (cursor : EventCursor) : EventCursor :=
  .ofNat (min (cursor.toNat + 1) (2 ^ 64 - 1))

/-- `u64::saturating_sub(1)`. -/
def EventCursor.saturatingPred (cursor : EventCursor) : EventCursor :=
  .ofNat (cursor.toNat - 1)

@[simp]
theorem EventCursor.toNat_max : EventCursor.max.toNat = 2 ^ 64 - 1 := rfl

@[simp]
theorem EventCursor.toNat_saturatingSucc (cursor : EventCursor) :
    cursor.saturatingSucc.toNat = min (cursor.toNat + 1) (2 ^ 64 - 1) := by
  rw [saturatingSucc, UInt64.toNat_ofNat']
  omega

@[simp]
theorem EventCursor.toNat_saturatingPred (cursor : EventCursor) :
    cursor.saturatingPred.toNat = cursor.toNat - 1 := by
  have := cursor.toNat_lt
  rw [saturatingPred, UInt64.toNat_ofNat']
  omega

/-- The kinds of events that the log tells apart. -/
inductive EventLogKind where
  | running
  | terminated
  | lost
  deriving DecidableEq

/-- What makes two events the same to the log: at most one of a kind for each session. -/
structure EventLogKey where
  sessionId : SessionId
  kind : EventLogKind
  deriving DecidableEq

/-- `EventLogKey::from_event`. -/
def EventLogKey.fromEvent : RuntimeEvent → EventLogKey
  | .running id _ _ => ⟨id, .running⟩
  | .terminated id _ _ _ => ⟨id, .terminated⟩
  | .lost id _ => ⟨id, .lost⟩

/-- An entry in memory: an event under its number, stamped when it was appended. -/
structure EventLogEntry where
  seq : EventCursor
  tsMs : UInt64
  event : RuntimeEvent
  deriving DecidableEq

/-- Key of an entry's event. -/
def EventLogEntry.key (entry : EventLogEntry) : EventLogKey := .fromEvent entry.event

/-! ## Lines of the file -/

/-- JSON values. -/
inductive Value where
  | null
  | bool (b : Bool)
  | number (n : Int)
  | string (s : String)
  | array (items : List Value)
  | object (fields : List (String × Value))

/-- The fields of a JSON object. -/
def Value.asObject : Value → Option (List (String × Value))
  | .object fields => some fields
  | _ => none

/-- The text of a JSON string. -/
def Value.asStr : Value → Option String
  | .string s => some s
  | _ => none

/-- A line of the file. -/
structure EventLogRecord where
  seq : EventCursor
  tsMs : UInt64
  kind : String
  payload : Value

/-- An error of the log, as its text. -/
abbrev LogError := String

/-- What the log uses of `serde_json`: `to_value` and `from_value` of an event,
`to_writer` and `from_str` of a record. -/
structure Serde where
  toValue : RuntimeEvent → Option Value
  fromValue : Value → Option RuntimeEvent
  toWriter : EventLogRecord → Option String
  fromStr : String → Option EventLogRecord

variable (serde : Serde)

/-- `EventLogRecord::from_entry`: the tag of the event becomes the kind of the record. -/
def EventLogRecord.fromEntry (entry : EventLogEntry) : Except LogError EventLogRecord := do
  let some value := serde.toValue entry.event | throw "failed to encode event"
  let some object := value.asObject | throw "event encoded as non-object"
  let some kind := (object.lookup "type").bind Value.asStr | throw "event encoded without type"
  let object := object.filter fun field => field.1 ≠ "type"
  pure
    { seq := entry.seq
      tsMs := entry.tsMs
      kind := kind
      payload := (object.lookup "payload").getD .null }

/-- `EventLogRecord::into_entry`. -/
def EventLogRecord.intoEntry (record : EventLogRecord) : Except LogError EventLogEntry := do
  let some event :=
      serde.fromValue (.object [("type", .string record.kind), ("payload", record.payload)])
    | throw "failed to decode event log record"
  pure { seq := record.seq, tsMs := record.tsMs, event := event }

/-- The bytes of a text. -/
def textBytes (text : String) : Bytes := text.toUTF8.data.toList

/-- The line of an entry, without its newline. -/
def encodeEntry (context : LogError) (entry : EventLogEntry) : Except LogError Bytes := do
  let record ← EventLogRecord.fromEntry serde entry
  let some text := serde.toWriter record | throw context
  pure (textBytes text)

/-- A line of the file back to its entry. -/
def parseLine (line : Bytes) : Except LogError EventLogEntry := do
  let some text := String.fromUTF8? ⟨line.toArray⟩ | throw "failed to read event log line"
  let some record := serde.fromStr text | throw "failed to parse event log line"
  record.intoEntry serde

/-- Truncates the file behind its last newline. -/
def recoverPartialTail (bytes : Bytes) : Bytes :=
  if bytes.getLast?.all (· == newline) then bytes
  else bytes.take ((rposition (· == newline) bytes).elim 0 (· + 1))

/-- The entries of a file; one line that does not parse fails them all. -/
def readEntries (bytes : Bytes) : Except LogError (List EventLogEntry) :=
  (lines bytes).mapM (parseLine serde)

/-! ## The open log -/

/-- The file is synced after so many events. -/
def EVENT_LOG_SYNC_BATCH : Nat := 32

/-- In milliseconds. -/
def EVENT_LOG_SYNC_INTERVAL : Nat := 100

/-- Events younger than this are kept. -/
def EVENT_LOG_RETENTION_MIN_AGE_SECS : Nat := 7 * 24 * 60 * 60

/-- At least so many events are kept. -/
def EVENT_LOG_RETENTION_MIN_EVENTS : Nat := 10000

/-- The file at the log's path and the state of the open log. `linked` says that
the open handle writes to the file at the path: a compaction that fails to reopen
the file it renamed keeps a handle to the one it replaced. -/
structure EventLog where
  path : String
  file : Bytes
  linked : Bool
  events : List EventLogEntry
  seenEventKeys : List EventLogKey
  nextSeq : EventCursor
  eventsSinceSync : Nat
  lastSync : Nat

/-- Fallible steps of an append that the serialiser does not decide. -/
inductive IoStep where
  /-- the line, of which some bytes reach the file -/
  | write (written : Nat)
  | newline
  | sync
  | createTmp
  | writeTmp
  | syncTmp
  | rename
  | reopen
  deriving DecidableEq

/-- What the environment decides about one append: the step that fails, the wall
clock and the monotonic clock in milliseconds. -/
structure Io where
  fails : Option IoStep
  utcMs : Int
  instant : Nat

/-- How much of the line is written when its writing fails. -/
def Io.brokenWrite (io : Io) : Option Nat :=
  match io.fails with
  | some (.write written) => some written
  | _ => none

namespace EventLog

/-- The log that was opened on a file with these entries. -/
def opened (path : String) (file : Bytes) (events : List EventLogEntry) (instant : Nat) :
    EventLog where
  -- the file does not end in a newline only when an append was cut off
  path := path
  file := file
  linked := true
  events := events
  seenEventKeys := events.map EventLogEntry.key
  nextSeq := events.getLast?.elim 1 fun entry => entry.seq.saturatingSucc
  eventsSinceSync := 0
  lastSync := instant

/-- Opens the log on what the file at its path holds, `none` when there is no file. -/
def openFile (path : String) (file : Option Bytes) (instant : Nat) : Except LogError EventLog := do
  let bytes := recoverPartialTail (file.getD [])
  let events ← readEntries serde bytes
  pure (opened path bytes events instant)

/-- An operation of the log: an error leaves the state it has reached. -/
abbrev LogM := EStateM LogError EventLog

/-- A result computed without the log. -/
def ofExcept {α : Type} : Except LogError α → LogM α
  | .ok a => pure a
  | .error e => throw e

/-- A step of the operating system, with the context its failure is reported with. -/
def attempt (io : Io) (step : IoStep) (context : LogError) : LogM PUnit :=
  if io.fails = some step then throw context else pure ⟨⟩

/-- Bytes written through the open handle. -/
def writeAll (bytes : Bytes) : LogM PUnit :=
  modify fun log => if log.linked then { log with file := log.file ++ bytes } else log

/-- The file a compaction writes to before it replaces the log. -/
def tmpPath (log : EventLog) : String := log.path ++ ".tmp"

/-! ## Appending -/

/-- `HashSet::insert`: whether the key is new. -/
def insertKey (key : EventLogKey) : LogM Bool :=
  modifyGet fun log =>
    if key ∈ log.seenEventKeys then (false, log)
    else (true, { log with seenEventKeys := key :: log.seenEventKeys })

/-- Takes the next sequence number for an event. -/
def assignSeq (event : RuntimeEvent) (tsMs : UInt64) : LogM EventLogEntry :=
  modifyGet fun log =>
    (⟨log.nextSeq, tsMs, event⟩, { log with nextSeq := log.nextSeq.saturatingSucc })

/-- Writes a line without its newline; when that fails, part of it is in the file. -/
def writeLine (io : Io) (line : Bytes) : LogM PUnit :=
  match io.brokenWrite with
  | some written => do
      writeAll (line.take written)
      throw "failed to encode event log"
  | none => writeAll line

/-- Writes a line and its newline; a failed write may leave a part. -/
def writeEntry (io : Io) (entry : EventLogEntry) : LogM PUnit := do
  let line ← ofExcept (encodeEntry serde "failed to encode event log" entry)
  writeLine io line
  attempt io .newline "failed to append event log newline"
  writeAll [Library.Lines.newline]

/-- The entry joins those in memory. -/
def pushEntry (entry : EventLogEntry) : LogM PUnit :=
  modify fun log => { log with events := log.events ++ [entry] }

/-- Syncs the file when a batch is full or the interval is over. -/
def syncIfDue (io : Io) : LogM PUnit := do
  let log ← get
  -- both the number of events and the time since the last sync are small
  if log.eventsSinceSync < EVENT_LOG_SYNC_BATCH ∧
      io.instant - log.lastSync < EVENT_LOG_SYNC_INTERVAL then
    pure ⟨⟩
  else do
    attempt io .sync "failed to sync event log"
    modify fun log => { log with eventsSinceSync := 0, lastSync := io.instant }

/-- Counts the append towards the next sync, when its caller asks for that, and
syncs when that is due. -/
def countSync (io : Io) (syncAfterAppend : Bool) : LogM PUnit :=
  if syncAfterAppend then do
    modify fun log => { log with eventsSinceSync := log.eventsSinceSync + 1 }
    syncIfDue io
  else pure ⟨⟩

/-- Milliseconds since the epoch; a clock before it is an error. -/
def currentTimestampMs (io : Io) : Except LogError Nat :=
  if 0 ≤ io.utcMs then pure io.utcMs.toNat
  else throw "current timestamp is before Unix epoch"

/-- The entry is older than the minimum age. -/
def isOld (nowMs : Nat) (entry : EventLogEntry) : Bool :=
  EVENT_LOG_RETENTION_MIN_AGE_SECS * 1000 < nowMs - entry.tsMs.toNat

/-- How many entries a compaction drops: those that are old, down to the least number it keeps. -/
def retainFromIndex (io : Io) (events : List EventLogEntry) : Except LogError (Option Nat) :=
  if events.length < EVENT_LOG_RETENTION_MIN_EVENTS then pure none
  else do
    let nowMs ← currentTimestampMs io
    let extraEvents := events.length - EVENT_LOG_RETENTION_MIN_EVENTS
    let oldEvents := (events.takeWhile (isOld nowMs)).length
    let compactCount := min extraEvents oldEvents
    pure (if 0 < compactCount then some compactCount else none)

/-- Rewrites the file with the entries from `retainFrom` on. -/
def compact (io : Io) (retainFrom : Nat) : LogM PUnit := do
  let log ← get
  let retained := log.events.drop retainFrom
  -- `split_off` has taken the retained entries out before the first step that can fail
  modify fun log => { log with events := log.events.take retainFrom }
  attempt io .createTmp ("failed to create " ++ log.tmpPath)
  let retainedLines ← ofExcept (retained.mapM (encodeEntry serde "failed to compact event log"))
  attempt io .writeTmp "failed to compact event log newline"
  attempt io .syncTmp ("failed to sync " ++ log.tmpPath)
  attempt io .rename ("failed to replace " ++ log.path)
  -- the rename is done: until the file is reopened the handle writes to the old one
  modify fun log => { log with file := unlines retainedLines, linked := false }
  attempt io .reopen ("failed to open " ++ log.path)
  modify fun log =>
    { log with linked := true, events := retained, eventsSinceSync := 0, lastSync := io.instant }

/-- Rewrites the file without the entries that are no longer kept. -/
def compactIfDue (io : Io) : LogM PUnit := do
  let log ← get
  let retainFrom ← ofExcept (retainFromIndex io log.events)
  match retainFrom with
  | none => pure ⟨⟩
  | some retainFrom => compact serde io retainFrom

/-- Writes an entry and retains it, and compacts the log when that is due. -/
def persistEntry (io : Io) (entry : EventLogEntry) (syncAfterAppend : Bool) :
    LogM RuntimeEvent := do
  -- the key is seen and the number taken when this fails
  writeEntry serde io entry
  pushEntry entry
  countSync io syncAfterAppend
  compactIfDue serde io
  pure entry.event

/-- Records an event once for each session and kind. -/
def appendRecordedEvent (io : Io) (event : RuntimeEvent) (tsMs : UInt64)
    (syncAfterAppend : Bool) : LogM RuntimeEvent := do
  if ← insertKey (.fromEvent event) then
    let entry ← assignSeq event tsMs
    persistEntry serde io entry syncAfterAppend
  else pure event

/-! ## Reading -/

/-- A page of the log: the events behind a cursor, and the cursor behind them. -/
structure EventLogPage where
  events : List RuntimeEvent
  cursor : EventCursor
  deriving DecidableEq

/-- The cursor a poll has to be at, at least. -/
structure CursorExpired where
  oldest : EventCursor
  deriving DecidableEq

/-- The smallest cursor from which nothing is missing. -/
def oldestValidCursor (events : List EventLogEntry) : Option EventCursor :=
  events.head?.map fun entry => entry.seq.saturatingPred

/-- The page behind a cursor; one that is too old is refused. -/
def eventsSince (log : EventLog) (since : Option EventCursor) :
    Except CursorExpired EventLogPage :=
  let cursor := since.getD 0
  -- what a cursor asks for is missing only when it is older than the first entry
  match (oldestValidCursor log.events).filter (cursor < ·) with
  | some oldest => .error ⟨oldest⟩
  | none =>
      .ok
        { events := (log.events.filter fun entry => cursor < entry.seq).map EventLogEntry.event
          cursor := log.events.getLast?.elim cursor EventLogEntry.seq }

end EventLog

end LittleOrgans.Runtime
