import LittleOrgans.Library.Lines
import LittleOrgans.Library.Text
import LittleOrgans.Library.Utf8

/-!
# The readers of the wire

The three readers of JSON lines in `lilo-rm-core`: the required one, the optional one and the
blocking one. What they take from the JSON library is a parameter (`SerdeJson`), and
`SerdeJson.Lawful` what is assumed of it. All three take the same line from a stream; the
required and the blocking reader trim it before it is parsed and the optional one does not.

`fromStr_eq_ok_iff` says which white space at the end of a line the parser itself accepts, and
with it `readersAgree_iff` says on which streams the three readers decode the same requests,
and which messages they read back.
-/

set_option autoImplicit false

namespace LittleOrgans.Runtime

open LittleOrgans.Library
open LittleOrgans.Library.Lines (newline)

universe u

/-! ## Streams and errors -/

/-- `std::io::Error`, as far as the readers produce one. -/
inductive IoError where
  /-- An error of the stream itself. -/
  | stream (error : String)
  /-- `std::str::from_utf8` rejected the line. -/
  | utf8 (line : List UInt8)
  /-- `read_line` found that the stream did not contain valid UTF-8. -/
  | invalidUtf8
  deriving DecidableEq

/-- What a reader reports. -/
inductive ProtocolError where
  | eof
  | io (error : IoError)
  | json (error : String)
  | unsupportedVersion (expected got : String)
  deriving DecidableEq

/-- The bytes still to be read, and the error that follows them if the stream does not end. -/
structure ByteStream where
  bytes : List UInt8
  failure : Option String
  deriving DecidableEq

/-- `read_until`: what it returns, what it appended to the buffer, and the stream behind. -/
def readUntil (delimiter : UInt8) (stream : ByteStream) :
    Except IoError Nat × List UInt8 × ByteStream :=
  let before := stream.bytes.takeWhile (· ≠ delimiter)
  match stream.bytes.dropWhile (· ≠ delimiter) with
  | found :: rest =>
      (.ok (before.length + 1), before ++ [found], { stream with bytes := rest })
  | [] =>
      match stream.failure with
      | none => (.ok before.length, before, { stream with bytes := [] })
      | some error => (.error (.stream error), before, { stream with bytes := [] })

/-- `BufRead::read_line`: nothing is appended where the bytes read are not UTF-8. -/
def readLine (stream : ByteStream) : Except IoError Nat × List Char × ByteStream :=
  match readUntil newline stream with
  | (read, bytes, rest) =>
      match fromUtf8 bytes with
      | some text => (read, text.toList, rest)
      | none => (read.bind fun _ => .error .invalidUtf8, [], rest)

/-! ## The JSON library -/

/-- `serde_json` for one type of messages. -/
structure SerdeJson (T : Type u) where
  fromStr : List Char → Except String T
  fromSlice : List UInt8 → Except String T
  toVec : T → Except String (List UInt8)

/-- White space of JSON. -/
def isJsonWhitespace (c : Char) : Bool := c ∈ [' ', '\t', '\n', '\r']

/-- What is documented of `serde_json`. -/
structure SerdeJson.Lawful {T : Type u} (json : SerdeJson T) : Prop where
  /-- Both parsers accept the same texts. -/
  slice : ∀ text value, json.fromSlice (encode text) = .ok value ↔ json.fromStr text = .ok value
  /-- White space of JSON may follow a document. -/
  white : ∀ text c value, isJsonWhitespace c = true →
    (json.fromStr (text ++ [c]) = .ok value ↔ json.fromStr text = .ok value)
  /-- Other white space may not. -/
  other : ∀ text c value, isWhitespace c = true → isJsonWhitespace c = false →
    json.fromStr (text ++ [c]) ≠ .ok value
  /-- A message is written as text on one line. -/
  written : ∀ value bytes, json.toVec value = .ok bytes →
    ∃ text, bytes = encode text ∧ newline ∉ bytes

/-- The type of the message reads back what it writes for it. Not every type does: the
runtime kind `Other("claude")` is written as `Claude` is, and a tmux address without a
session is written as a text that its parser rejects. -/
def SerdeJson.RoundTrips {T : Type u} (json : SerdeJson T) (message : T) : Prop :=
  ∀ bytes, json.toVec message = .ok bytes → json.fromSlice bytes = .ok message

variable {T : Type u}

/-! ## The readers -/

/-- What a reader makes of an error on an empty line. -/
inductive EmptyIoError where
  | propagate
  | treatAsEmpty
  deriving DecidableEq

/-- `read_async_json_line`: a line of the stream, or what an empty read means. -/
def readAsyncJsonLine {β : Type u} (stream : ByteStream) (emptyRead : Except ProtocolError β)
    (emptyIoError : EmptyIoError) (parse : List UInt8 → Except ProtocolError β) :
    Except ProtocolError β × ByteStream :=
  match readUntil newline stream with
  | (.ok 0, _, rest) => (emptyRead, rest)
  | (.ok _, bytes, rest) => (parse bytes, rest)
  | (.error error, bytes, rest) =>
      if bytes.isEmpty ∧ emptyIoError = .treatAsEmpty then (emptyRead, rest)
      else (.error (.io error), rest)

/-- A message from the text of its line. -/
def parseJsonLine (json : SerdeJson T) (line : List Char) : Except ProtocolError T :=
  (json.fromStr (trimEnd line)).mapError .json

/-- A message from the bytes of its line. -/
def parseJsonLineBytes (json : SerdeJson T) (line : List UInt8) : Except ProtocolError T :=
  match fromUtf8 line with
  | none => .error (.io (.utf8 line))
  | some text => parseJsonLine json text.toList

/-- A message from a line that a blocking reader has read. -/
def parseReadJsonLine (json : SerdeJson T) (bytesRead : Nat) (line : List Char) :
    Except ProtocolError T :=
  if bytesRead = 0 then .error .eof else parseJsonLine json line

/-- `read_json_line`. -/
def readJsonLine (json : SerdeJson T) (stream : ByteStream) : Except ProtocolError T × ByteStream :=
  readAsyncJsonLine stream (.error .eof) .propagate (parseJsonLineBytes json)

/-- `read_optional_json_line`: no message at the end of the stream. -/
def readOptionalJsonLine (json : SerdeJson T) (stream : ByteStream) :
    Except ProtocolError (Option T) × ByteStream :=
  readAsyncJsonLine stream (.ok none) .treatAsEmpty fun line =>
    ((json.fromSlice line).map some).mapError .json

/-- `read_json_line_blocking`. -/
def readJsonLineBlocking (json : SerdeJson T) (stream : ByteStream) :
    Except ProtocolError T × ByteStream :=
  match readLine stream with
  | (.ok read, line, rest) => (parseReadJsonLine json read line, rest)
  | (.error error, _, rest) => (.error (.io error), rest)

/-- `json_line_bytes`: a message and the newline behind it. -/
def jsonLineBytes (json : SerdeJson T) (message : T) : Except ProtocolError (List UInt8) :=
  ((json.toVec message).mapError .json).map (· ++ [newline])

/-! ## What the readers decode -/

/-- What the required and the blocking reader report where no byte is left. -/
def ByteStream.ending (stream : ByteStream) : ProtocolError :=
  stream.failure.elim .eof fun error => .io (.stream error)

/-- Up to `n` calls of a reader: the requests it decodes, and whether it then rejects a line.
At the end of the stream no line is left. -/
def readRequests (read : ByteStream → Except ProtocolError T × ByteStream) :
    Nat → ByteStream → List T × Bool
  | 0, _ => ([], false)
  | n + 1, stream =>
      if stream.bytes = [] then ([], false)
      else
        match read stream with
        | (.ok request, rest) =>
            (request :: (readRequests read n rest).1, (readRequests read n rest).2)
        | (.error _, _) => ([], true)

/-- The end of the stream as the other two readers report it. -/
def someOrEof (read : Except ProtocolError (Option T)) : Except ProtocolError T :=
  read.bind fun request? => request?.elim (.error .eof) .ok

/-- `read_optional_json_line`, for one who needs a request. -/
def readOptionalRequest (json : SerdeJson T) (stream : ByteStream) :
    Except ProtocolError T × ByteStream :=
  (someOrEof (readOptionalJsonLine json stream).1, (readOptionalJsonLine json stream).2)

/-- The three readers decode the same requests and reject the same line, and report the end of
the stream as they document. -/
structure ReadersAgree (json : SerdeJson T) (stream : ByteStream) : Prop where
  optional : ∀ n,
    readRequests (readOptionalRequest json) n stream = readRequests (readJsonLine json) n stream
  blocking : ∀ n,
    readRequests (readJsonLineBlocking json) n stream = readRequests (readJsonLine json) n stream
  atEnd : stream.bytes = [] →
    readJsonLine json stream = (.error stream.ending, stream) ∧
      readOptionalJsonLine json stream = (.ok none, stream) ∧
      readJsonLineBlocking json stream = (.error stream.ending, stream)

/-- Each reader reads back what `json_line_bytes` writes for a message, whatever follows. -/
def ReadBack (json : SerdeJson T) (message : T) (stream : ByteStream) : Prop :=
  ∀ bytes, jsonLineBytes json message = .ok bytes →
    readJsonLine json ⟨bytes ++ stream.bytes, stream.failure⟩ = (.ok message, stream) ∧
      readOptionalJsonLine json ⟨bytes ++ stream.bytes, stream.failure⟩ =
        (.ok (some message), stream) ∧
      readJsonLineBlocking json ⟨bytes ++ stream.bytes, stream.failure⟩ = (.ok message, stream)

/-- White space at the end of a text. -/
def trailing (text : List Char) : List Char := text.rtakeWhile isWhitespace

/-- The line is a request, when trimmed. -/
def IsRequest (json : SerdeJson T) (line : List UInt8) : Prop :=
  ∃ text message, fromUtf8 line = some text ∧ json.fromStr (trimEnd text.toList) = .ok message

/-- A line that only one parser accepts: trimming takes off white space that is none of JSON,
or the bytes are not UTF-8 and `from_slice` does not mind. -/
def Misread (json : SerdeJson T) (line : List UInt8) : Prop :=
  match fromUtf8 line with
  | some text =>
      (∃ c ∈ trailing text.toList, isJsonWhitespace c = false) ∧
        ∃ message, json.fromStr (trimEnd text.toList) = .ok message
  | none => ∃ message, json.fromSlice line = .ok message

/-- The lines of a stream up to the first one that is no request. -/
inductive Reaches (json : SerdeJson T) : ByteStream → List UInt8 → Prop where
  | here {stream rest : ByteStream} {read : Nat} {line : List UInt8} :
      stream.bytes ≠ [] → readUntil newline stream = (.ok read, line, rest) →
      Reaches json stream line
  | later {stream rest : ByteStream} {read : Nat} {first line : List UInt8} :
      stream.bytes ≠ [] → readUntil newline stream = (.ok read, first, rest) →
      IsRequest json first → Reaches json rest line → Reaches json stream line

/-! ## What the parsers accept -/

section Parsers

variable {json : SerdeJson T}

/-- The parser accepts a line when it accepts the trimmed line and the rest is white space of
JSON. -/
theorem fromStr_eq_ok_iff (hjson : json.Lawful) {text : List Char} {message : T} :
    json.fromStr text = .ok message ↔
      json.fromStr (trimEnd text) = .ok message ∧
        ∀ c ∈ trailing text, isJsonWhitespace c = true := by
  -- both sides are followed from the end of the text
  induction text using List.reverseRecOn with
  | nil => simp [trimEnd, trailing]
  | append_singleton text c ih =>
      cases hwhite : isWhitespace c with
      -- nothing to trim
      | false =>
          have htrim : trimEnd (text ++ [c]) = text ++ [c] :=
            List.rdropWhile_concat_neg isWhitespace text c (by simp [hwhite])
          have htrailing : trailing (text ++ [c]) = [] :=
            List.rtakeWhile_concat_neg isWhitespace text c (by simp [hwhite])
          rw [htrim, htrailing]
          simp
      -- a blank that JSON allows is trimmed and skipped; another one is trimmed, or refused
      | true =>
          have htrim : trimEnd (text ++ [c]) = trimEnd text :=
            List.rdropWhile_concat_pos isWhitespace text c hwhite
          have htrailing : trailing (text ++ [c]) = trailing text ++ [c] :=
            List.rtakeWhile_concat_pos isWhitespace text c hwhite
          rw [htrim, htrailing]
          cases hjsonWhite : isJsonWhitespace c with
          | true =>
              rw [hjson.white text c message hjsonWhite, ih]
              simp [hjsonWhite, or_imp, forall_and]
          | false =>
              refine iff_of_false (hjson.other text c message hwhite hjsonWhite) fun h => ?_
              have := h.2 c (by simp)
              rw [hjsonWhite] at this
              cases this

theorem mapError_eq_ok {α : Type u} {ε ε' : Type} {f : ε → ε'} {r : Except ε α} {a : α} :
    r.mapError f = .ok a ↔ r = .ok a := by
  cases r <;> simp [Except.mapError]

/-- The required reader accepts a line. -/
theorem parseJsonLineBytes_eq_ok {line : List UInt8} {message : T} :
    parseJsonLineBytes json line = .ok message ↔
      ∃ text, fromUtf8 line = some text ∧
        json.fromStr (trimEnd text.toList) = .ok message := by
  rw [parseJsonLineBytes]
  cases fromUtf8 line with
  | none => simp
  | some text => simp [parseJsonLine, mapError_eq_ok]

/-- The optional reader accepts a line. -/
theorem fromSlice_eq_ok (hjson : json.Lawful) {line : List UInt8} {text : String}
    (h : fromUtf8 line = some text) {message : T} :
    json.fromSlice line = .ok message ↔
      json.fromStr (trimEnd text.toList) = .ok message ∧
        ∀ c ∈ trailing text.toList, isJsonWhitespace c = true := by
  rw [fromUtf8_eq_some_iff.mp h, hjson.slice, fromStr_eq_ok_iff hjson]

/-- A line that is not misread is accepted by both parsers or by none. -/
theorem fromSlice_iff_of_not_misread (hjson : json.Lawful) {line : List UInt8}
    (h : ¬Misread json line) {message : T} :
    json.fromSlice line = .ok message ↔ parseJsonLineBytes json line = .ok message := by
  rw [parseJsonLineBytes_eq_ok]
  cases htext : fromUtf8 line with
  | none =>
      rw [Misread, htext] at h
      have hrejects : json.fromSlice line ≠ .ok message := fun hslice => h ⟨message, hslice⟩
      simp [hrejects]
  | some text =>
      rw [Misread, htext] at h
      rw [fromSlice_eq_ok hjson htext]
      simp only [Option.some.injEq, exists_eq_left']
      refine and_iff_left_of_imp fun hmessage c hc => ?_
      by_contra hother
      exact h ⟨⟨c, hc, by simpa using hother⟩, message, hmessage⟩

/-- Only one of the parsers accepts a misread line. -/
theorem not_iff_of_misread (hjson : json.Lawful) {line : List UInt8} (h : Misread json line) :
    ∃ message, ¬(json.fromSlice line = .ok message ↔
      parseJsonLineBytes json line = .ok message) := by
  rw [Misread] at h
  cases htext : fromUtf8 line with
  | none =>
      rw [htext] at h
      obtain ⟨message, hslice⟩ := h
      refine ⟨message, fun hiff => ?_⟩
      obtain ⟨text, hsome, -⟩ := parseJsonLineBytes_eq_ok.mp (hiff.mp hslice)
      rw [htext] at hsome
      cases hsome
  | some text =>
      rw [htext] at h
      obtain ⟨⟨c, hc, hother⟩, message, hmessage⟩ := h
      refine ⟨message, fun hiff => ?_⟩
      have hslice := hiff.mpr (parseJsonLineBytes_eq_ok.mpr ⟨text, htext, hmessage⟩)
      have := ((fromSlice_eq_ok hjson htext).mp hslice).2 c hc
      rw [hother] at this
      cases this

end Parsers

/-! ## What one call reads -/

section Readers

variable {json : SerdeJson T} {stream rest : ByteStream} {line : List UInt8}

/-- A line of a stream: the bytes through the newline or the end, or those in front of an
error. -/
theorem readUntil_of_ne_nil (h : stream.bytes ≠ []) :
    ∃ line rest, line ≠ [] ∧
      ((∃ read, readUntil newline stream = (.ok (read + 1), line, rest)) ∨
        ∃ error, readUntil newline stream = (.error error, line, rest)) := by
  have hsplit := List.takeWhile_append_dropWhile (p := (· ≠ newline)) (l := stream.bytes)
  rw [readUntil]
  cases hdrop : stream.bytes.dropWhile (· ≠ newline) with
  | cons found behind =>
      exact ⟨_, _, by simp, .inl ⟨_, rfl⟩⟩
  | nil =>
      -- no newline: the line is what is left of the stream
      rw [hdrop, List.append_nil] at hsplit
      rw [hsplit]
      refine ⟨stream.bytes, { stream with bytes := [] }, h, ?_⟩
      cases hfailure : stream.failure with
      | some error => exact .inr ⟨_, rfl⟩
      | none =>
          obtain ⟨read, hread⟩ :=
            Nat.exists_eq_succ_of_ne_zero (mt List.length_eq_zero_iff.mp h)
          refine .inl ⟨read, ?_⟩
          simp only [hread, Nat.succ_eq_add_one]

theorem readUntil_written {bytes : List UInt8} (h : newline ∉ bytes) (stream : ByteStream) :
    readUntil newline ⟨bytes ++ [newline] ++ stream.bytes, stream.failure⟩ =
      (.ok (bytes.length + 1), bytes ++ [newline], stream) := by
  have hbytes : ∀ byte ∈ bytes, decide (byte ≠ newline) = true := fun byte hbyte =>
    decide_eq_true fun heq => h (heq ▸ hbyte)
  have hassoc : bytes ++ [newline] ++ stream.bytes = bytes ++ (newline :: stream.bytes) := by simp
  have htake : (bytes ++ (newline :: stream.bytes)).takeWhile (· ≠ newline) = bytes := by
    rw [List.takeWhile_append_of_pos hbytes]
    simp
  have hdrop : (bytes ++ (newline :: stream.bytes)).dropWhile (· ≠ newline) =
      newline :: stream.bytes := by
    rw [List.dropWhile_append_of_pos hbytes]
    simp
  rw [readUntil, hassoc]
  simp only [htake, hdrop]

theorem readJsonLine_of_line {read : Nat}
    (h : readUntil newline stream = (.ok (read + 1), line, rest)) :
    readJsonLine json stream = (parseJsonLineBytes json line, rest) := by
  rw [readJsonLine, readAsyncJsonLine, h]
  rfl

theorem readOptionalJsonLine_of_line {read : Nat}
    (h : readUntil newline stream = (.ok (read + 1), line, rest)) :
    readOptionalJsonLine json stream =
      (((json.fromSlice line).map some).mapError .json, rest) := by
  rw [readOptionalJsonLine, readAsyncJsonLine, h]
  rfl

theorem readJsonLineBlocking_of_line {read : Nat}
    (h : readUntil newline stream = (.ok (read + 1), line, rest)) :
    readJsonLineBlocking json stream =
      (match fromUtf8 line with
        | some text => parseJsonLine json text.toList
        | none => .error (.io .invalidUtf8), rest) := by
  simp only [readJsonLineBlocking, readLine, h]
  cases fromUtf8 line with
  | none => rfl
  | some text => rfl

theorem readJsonLine_of_error {error : IoError}
    (h : readUntil newline stream = (.error error, line, rest)) :
    readJsonLine json stream = (.error (.io error), rest) := by
  rw [readJsonLine, readAsyncJsonLine, h]
  exact if_neg fun hempty => EmptyIoError.noConfusion hempty.2

theorem readOptionalJsonLine_of_error {error : IoError} (hline : line ≠ [])
    (h : readUntil newline stream = (.error error, line, rest)) :
    readOptionalJsonLine json stream = (.error (.io error), rest) := by
  rw [readOptionalJsonLine, readAsyncJsonLine, h]
  exact if_neg fun hempty => hline (List.isEmpty_iff.mp hempty.1)

theorem readJsonLineBlocking_of_error {error : IoError}
    (h : readUntil newline stream = (.error error, line, rest)) :
    readJsonLineBlocking json stream = (.error (.io error), rest) := by
  simp only [readJsonLineBlocking, readLine, h]
  cases fromUtf8 line with
  | none => rfl
  | some text => rfl

/-- Two calls accept the same line and leave the same stream. -/
def SameCall (left right : Except ProtocolError T × ByteStream) : Prop :=
  left.2 = right.2 ∧ ∀ message, left.1 = .ok message ↔ right.1 = .ok message

theorem sameCall_blocking (h : stream.bytes ≠ []) :
    SameCall (readJsonLineBlocking json stream) (readJsonLine json stream) := by
  obtain ⟨line, rest, hline, ⟨read, hread⟩ | ⟨error, herror⟩⟩ := readUntil_of_ne_nil h
  · rw [readJsonLineBlocking_of_line hread, readJsonLine_of_line hread]
    refine ⟨rfl, fun message => ?_⟩
    rw [parseJsonLineBytes]
    cases fromUtf8 line with
    | none => simp
    | some text => exact Iff.rfl
  · rw [readJsonLineBlocking_of_error herror, readJsonLine_of_error herror]
    exact ⟨rfl, fun message => Iff.rfl⟩

/-- A call of the optional reader accepts what its parser does. -/
theorem readOptionalRequest_of_line {read : Nat}
    (h : readUntil newline stream = (.ok (read + 1), line, rest)) :
    (readOptionalRequest json stream).2 = rest ∧
      ∀ message, (readOptionalRequest json stream).1 = .ok message ↔
        json.fromSlice line = .ok message := by
  rw [readOptionalRequest, readOptionalJsonLine_of_line h]
  refine ⟨rfl, fun message => ?_⟩
  cases json.fromSlice line with
  | error error => simp [someOrEof, Except.map, Except.mapError, Except.bind]
  | ok value => simp [someOrEof, Except.map, Except.mapError, Except.bind]

theorem sameCall_optional_of_line (hjson : json.Lawful) {read : Nat}
    (h : readUntil newline stream = (.ok (read + 1), line, rest)) (hnot : ¬Misread json line) :
    SameCall (readOptionalRequest json stream) (readJsonLine json stream) := by
  obtain ⟨hrest, hread⟩ := readOptionalRequest_of_line h
  rw [readJsonLine_of_line h]
  exact ⟨hrest, fun message =>
    (hread message).trans (fromSlice_iff_of_not_misread hjson hnot)⟩

theorem sameCall_optional_of_error {error : IoError} (hline : line ≠ [])
    (h : readUntil newline stream = (.error error, line, rest)) :
    SameCall (readOptionalRequest json stream) (readJsonLine json stream) := by
  rw [readOptionalRequest, readOptionalJsonLine_of_error hline h, readJsonLine_of_error h]
  exact ⟨rfl, fun message => Iff.rfl⟩

theorem readJsonLine_atEnd (h : stream.bytes = []) :
    readJsonLine json stream = (.error stream.ending, stream) ∧
      readOptionalJsonLine json stream = (.ok none, stream) ∧
      readJsonLineBlocking json stream = (.error stream.ending, stream) := by
  obtain ⟨bytes, failure⟩ := stream
  subst h
  cases failure with
  | none => exact ⟨rfl, rfl, rfl⟩
  | some error => exact ⟨rfl, rfl, rfl⟩

/-- The line that is written for a message: its document and a newline. -/
theorem jsonLineBytes_eq_ok {message : T} {bytes : List UInt8} :
    jsonLineBytes json message = .ok bytes ↔
      ∃ written, json.toVec message = .ok written ∧ written ++ [newline] = bytes := by
  rw [jsonLineBytes]
  cases json.toVec message with
  | error error => simp [Except.mapError, Except.map]
  | ok written => simp [Except.mapError, Except.map]

/-- A newline behind a document changes nothing, it is white space of JSON. -/
theorem fromStr_newline (hjson : json.Lawful) {text : List Char} {message : T} :
    json.fromStr (text ++ ['\n']) = .ok message ↔ json.fromSlice (encode text) = .ok message := by
  rw [hjson.white text '\n' message rfl, hjson.slice]

/-- What a type reads back, all three readers read back, and only that. -/
theorem readBack_iff (hjson : json.Lawful) (message : T) (stream : ByteStream) :
    ReadBack json message stream ↔ json.RoundTrips message := by
  constructor
  -- what one reader returns is what the slice without its newline is read as
  · intro h written hvec
    obtain ⟨text, rfl, hnewline⟩ := hjson.written message written hvec
    obtain ⟨-, hoptional, -⟩ := h _ (jsonLineBytes_eq_ok.mpr ⟨_, hvec, rfl⟩)
    rw [readOptionalJsonLine_of_line (readUntil_written hnewline stream), Prod.mk.injEq,
      mapError_eq_ok] at hoptional
    have hslice : json.fromSlice (encode text ++ [newline]) = .ok message := by
      cases hread : json.fromSlice (encode text ++ [newline]) with
      | error error =>
          rw [hread] at hoptional
          cases hoptional.1
      | ok value =>
          rw [hread] at hoptional
          cases hoptional.1
          rfl
    have hline : encode text ++ [newline] = encode (text ++ ['\n']) := by
      rw [encode_append]
      rfl
    rwa [hline, hjson.slice, fromStr_newline hjson] at hslice
  -- the same line, read by each of the three readers
  · intro h bytes hbytes
    obtain ⟨written, hvec, rfl⟩ := jsonLineBytes_eq_ok.mp hbytes
    obtain ⟨text, rfl, hnewline⟩ := hjson.written message written hvec
    have hmessage := (fromStr_newline hjson).mpr (h _ hvec)
    have hline : encode text ++ [newline] = encode (text ++ ['\n']) := by
      rw [encode_append]
      rfl
    have hutf8 : fromUtf8 (encode text ++ [newline]) = some (String.ofList (text ++ ['\n'])) := by
      rw [hline, fromUtf8_encode]
    have hparse : parseJsonLine json (text ++ ['\n']) = .ok message :=
      mapError_eq_ok.mpr ((fromStr_eq_ok_iff hjson).mp hmessage).1
    have huntil := readUntil_written hnewline stream
    refine ⟨?_, ?_, ?_⟩
    · rw [readJsonLine_of_line huntil, parseJsonLineBytes, hutf8]
      simp only [String.toList_ofList, hparse]
    · have hslice : json.fromSlice (encode text ++ [newline]) = .ok message := by
        rw [hline]
        exact (hjson.slice _ message).mpr hmessage
      rw [readOptionalJsonLine_of_line huntil, hslice]
      rfl
    · rw [readJsonLineBlocking_of_line huntil, hutf8]
      simp only [String.toList_ofList, hparse]

/-! ## Runs of calls -/

theorem readRequests_succ {left right : ByteStream → Except ProtocolError T × ByteStream}
    (h : stream.bytes ≠ [] → SameCall (left stream) (right stream)) {n : Nat}
    (hrest : ∀ message, stream.bytes ≠ [] → (right stream).1 = .ok message →
      readRequests left n (right stream).2 = readRequests right n (right stream).2) :
    readRequests left (n + 1) stream = readRequests right (n + 1) stream := by
  rw [readRequests, readRequests]
  by_cases hnil : stream.bytes = []
  · rw [if_pos hnil, if_pos hnil]
  · rw [if_neg hnil, if_neg hnil]
    obtain ⟨hstream, hsame⟩ := h hnil
    have hrest := fun message => hrest message hnil
    revert hstream hsame hrest
    rcases left stream with ⟨leftRead, leftRest⟩
    rcases right stream with ⟨rightRead, rightRest⟩
    rintro rfl hsame hrest
    cases rightRead with
    | ok message =>
        obtain rfl := (hsame message).mpr rfl
        simp only [hrest message rfl]
    | error error =>
        cases leftRead with
        | ok message => cases (hsame message).mp rfl
        | error _ => rfl

/-- The blocking reader decodes what the required one does. -/
theorem readRequests_blocking (n : Nat) (stream : ByteStream) :
    readRequests (readJsonLineBlocking json) n stream =
      readRequests (readJsonLine json) n stream := by
  induction n generalizing stream with
  | zero => rfl
  | succ n ih => exact readRequests_succ sameCall_blocking fun message _ _ => ih _

theorem readRequests_succ_ok {read : ByteStream → Except ProtocolError T × ByteStream}
    (hne : stream.bytes ≠ []) {message : T} (h : read stream = (.ok message, rest)) (n : Nat) :
    readRequests read (n + 1) stream =
      (message :: (readRequests read n rest).1, (readRequests read n rest).2) := by
  rw [readRequests, if_neg hne, h]

/-- The first call accepts a line. -/
theorem readRequests_one {read : ByteStream → Except ProtocolError T × ByteStream}
    (hne : stream.bytes ≠ []) {message : T} :
    readRequests read 1 stream = ([message], false) ↔ (read stream).1 = .ok message := by
  rw [readRequests, if_neg hne]
  rcases read stream with ⟨result, rest⟩
  cases result with
  | ok value => simp [readRequests]
  | error error => simp

theorem exists_succ_of_readUntil (hne : stream.bytes ≠ []) {read : Nat}
    (h : readUntil newline stream = (.ok read, line, rest)) : ∃ read', read = read' + 1 := by
  obtain ⟨line', rest', -, ⟨read', hread⟩ | ⟨error, herror⟩⟩ := readUntil_of_ne_nil hne
  · rw [h] at hread
    cases hread
    exact ⟨read', rfl⟩
  · rw [h] at herror
    cases herror

/-- The optional reader decodes what the required one does, while no line is misread. -/
theorem readRequests_optional (hjson : json.Lawful)
    (h : ∀ line, Reaches json stream line → ¬Misread json line) (n : Nat) :
    readRequests (readOptionalRequest json) n stream =
      readRequests (readJsonLine json) n stream := by
  induction n generalizing stream with
  | zero => rfl
  | succ n ih =>
      apply readRequests_succ
      · intro hne
        obtain ⟨line, rest, hline, ⟨read, hread⟩ | ⟨error, herror⟩⟩ := readUntil_of_ne_nil hne
        · exact sameCall_optional_of_line hjson hread (h line (.here hne hread))
        · exact sameCall_optional_of_error hline herror
      · intro message hne hmessage
        obtain ⟨line, rest, hline, ⟨read, hread⟩ | ⟨error, herror⟩⟩ := readUntil_of_ne_nil hne
        · rw [readJsonLine_of_line hread] at hmessage ⊢
          obtain ⟨text, htext, hparse⟩ := parseJsonLineBytes_eq_ok.mp hmessage
          exact ih fun later hlater =>
            h later (.later hne hread ⟨text, message, htext, hparse⟩ hlater)
        · rw [readJsonLine_of_error herror] at hmessage
          cases hmessage

/-- Where the two decode the same requests, no line they reach is misread. -/
theorem not_misread_of_reaches (hjson : json.Lawful) (hreach : Reaches json stream line)
    (h : ∀ n, readRequests (readOptionalRequest json) n stream =
      readRequests (readJsonLine json) n stream) : ¬Misread json line := by
  induction hreach with
  | @here stream rest read line hne hread =>
      intro hmisread
      obtain ⟨read, rfl⟩ := exists_succ_of_readUntil hne hread
      obtain ⟨message, hnot⟩ := not_iff_of_misread hjson hmisread
      apply hnot
      rw [← (readOptionalRequest_of_line hread).2, ← readRequests_one hne, h 1,
        readRequests_one hne, readJsonLine_of_line hread]
  | @later stream rest read first line hne hread hrequest _ ih =>
      obtain ⟨read, rfl⟩ := exists_succ_of_readUntil hne hread
      obtain ⟨text, message, htext, hparse⟩ := hrequest
      have hrequired : readJsonLine json stream = (.ok message, rest) := by
        rw [readJsonLine_of_line hread, parseJsonLineBytes_eq_ok.mpr ⟨text, htext, hparse⟩]
      have hoptional : readOptionalRequest json stream = (.ok message, rest) := by
        have hfirst : (readOptionalRequest json stream).1 = .ok message := by
          rw [← readRequests_one hne, h 1, readRequests_one hne, hrequired]
        exact Prod.ext hfirst (readOptionalRequest_of_line hread).1
      apply ih
      intro n
      have hn := h (n + 1)
      rw [readRequests_succ_ok hne hrequired, readRequests_succ_ok hne hoptional,
        Prod.mk.injEq, List.cons.injEq] at hn
      exact Prod.ext hn.1.2 hn.2

/-- The three readers agree on a stream exactly when no line they reach is misread, and read
back a message exactly when its type does. -/
theorem readersAgree_iff (hjson : json.Lawful) (stream : ByteStream) (message : T) :
    (ReadersAgree json stream ↔ ∀ line, Reaches json stream line → ¬Misread json line) ∧
      (ReadBack json message stream ↔ json.RoundTrips message) := by
  refine ⟨⟨?_, ?_⟩, readBack_iff hjson message stream⟩
  · intro hagree line hreach
    exact not_misread_of_reaches hjson hreach hagree.optional
  · intro h
    exact {
      optional := readRequests_optional hjson h
      blocking := fun n => readRequests_blocking n stream
      atEnd := readJsonLine_atEnd }

end Readers

/-! ## The truth values of JSON -/

/-- The parsers for `bool`. -/
def boolFromStr (text : List Char) : Except String Bool :=
  let document := (text.rdropWhile isJsonWhitespace).dropWhile isJsonWhitespace
  if document = "true".toList then .ok true
  else if document = "false".toList then .ok false
  else .error "expected a boolean"

/-- The JSON of a `bool`. -/
def boolJson : SerdeJson Bool where
  fromStr := boolFromStr
  fromSlice bytes := (fromUtf8 bytes).elim (.error "invalid unicode") (boolFromStr ·.toList)
  toVec message := .ok (encode (if message then "true" else "false").toList)

/-- A document ends in no other white space. -/
theorem boolFromStr_other {text : List Char} {c : Char} (hwhite : isWhitespace c = true)
    (hother : isJsonWhitespace c = false) (value : Bool) :
    boolFromStr (text ++ [c]) ≠ .ok value := by
  have hdrop : ((text ++ [c]).rdropWhile isJsonWhitespace).dropWhile isJsonWhitespace =
      text.dropWhile isJsonWhitespace ++ [c] := by
    rw [List.rdropWhile_concat_neg isJsonWhitespace text c (by simp [hother]),
      List.dropWhile_append]
    split
    · next hempty => simp [List.isEmpty_iff.mp hempty, hother]
    · rfl
  have hlast : ∀ document : List Char, document.getLast? = some 'e' →
      text.dropWhile isJsonWhitespace ++ [c] ≠ document := by
    rintro document hdocument rfl
    rw [List.getLast?_append_of_ne_nil _ (List.cons_ne_nil c []), List.getLast?_singleton,
      Option.some_inj] at hdocument
    rw [hdocument] at hwhite
    revert hwhite
    decide
  rw [boolFromStr, hdrop, if_neg (hlast _ rfl), if_neg (hlast _ rfl)]
  intro h
  cases h

theorem lawful_boolJson : boolJson.Lawful where
  slice text value := by
    show (fromUtf8 (encode text)).elim _ _ = _ ↔ boolFromStr text = _
    rw [fromUtf8_encode, Option.elim_some, String.toList_ofList]
  white text c value hc := by
    show boolFromStr (text ++ [c]) = _ ↔ boolFromStr text = _
    rw [boolFromStr, boolFromStr, List.rdropWhile_concat_pos isJsonWhitespace text c hc]
  other text c value hwhite hother := boolFromStr_other hwhite hother value
  written value bytes h := by
    cases h
    cases value with
    | true => exact ⟨"true".toList, rfl, by decide⟩
    | false => exact ⟨"false".toList, rfl, by decide⟩

theorem roundTrips_boolJson (message : Bool) : boolJson.RoundTrips message := by
  intro bytes h
  cases h
  show (fromUtf8 (encode _)).elim _ _ = _
  rw [fromUtf8_encode]
  cases message with
  | true => rfl
  | false => rfl

/-- A request with white space of JSON behind it. -/
def spacedLine : ByteStream := ⟨encode "true \r\n".toList, none⟩

/-- The readers agree on it, and read back what is written in front of it. -/
theorem readersAgree_spacedLine :
    ReadersAgree boolJson spacedLine ∧ ReadBack boolJson false spacedLine := by
  obtain ⟨hagree, hreadBack⟩ := readersAgree_iff lawful_boolJson spacedLine false
  refine ⟨hagree.mpr ?_, hreadBack.mpr (roundTrips_boolJson false)⟩
  have hfirst : readUntil newline spacedLine =
      (.ok 7, encode "true \r\n".toList, ⟨[], none⟩) := by decide
  intro line hreach
  cases hreach with
  | here hne hread =>
      rw [hfirst] at hread
      cases hread
      rw [Misread, fromUtf8_encode]
      rintro ⟨⟨c, hc, hother⟩, -⟩
      have hall : (trailing "true \r\n".toList).all isJsonWhitespace = true := by decide
      have hjson := List.all_eq_true.mp hall c hc
      rw [hother] at hjson
      cases hjson
  | later hne hread hrequest hrest =>
      rw [hfirst] at hread
      cases hread
      cases hrest with
      | here hne => exact absurd rfl hne
      | later hne => exact absurd rfl hne

/-- A request with a no-break space behind it. -/
def nbspLine : ByteStream := ⟨encode "true\u00a0\n".toList, none⟩

/-- The required reader trims the space off and the optional one rejects it. -/
theorem not_readersAgree_nbspLine :
    (readJsonLine boolJson nbspLine).1 = .ok true ∧
      (readOptionalJsonLine boolJson nbspLine).1 = .error (.json "expected a boolean") ∧
      ¬ReadersAgree boolJson nbspLine := by
  have hread : readUntil newline nbspLine =
      (.ok (5 + 1 + 1), encode "true\u00a0\n".toList, ⟨[], none⟩) := by decide
  have hutf8 : fromUtf8 (encode "true\u00a0\n".toList) = some "true\u00a0\n" := by
    rw [fromUtf8_encode]
    rfl
  refine ⟨?_, ?_, fun h => ?_⟩
  · rw [readJsonLine_of_line hread, parseJsonLineBytes, hutf8]
    decide
  · rw [readOptionalJsonLine_of_line hread]
    simp only [boolJson, hutf8]
    rfl
  · refine not_misread_of_reaches lawful_boolJson (.here (by decide) hread) h.optional ?_
    rw [Misread, hutf8]
    exact ⟨⟨Char.ofNat 0xa0, by decide, by decide⟩, true, by decide⟩

end LittleOrgans.Runtime
