import LittleOrgans.Core.SelectorText
import LittleOrgans.Runtime.EventLog

/-!
# The records of lost sessions

The JSON lines that the log writes for `Lost` events, and their parser: one
serialiser for which the assumptions on `serde_json` are proved
(`lostSerde_handles`). It knows no other event.
-/

set_option autoImplicit false

namespace LittleOrgans.Runtime

open LittleOrgans.Core
open LittleOrgans.Library
open LittleOrgans.Library.Lines

/-! ## What is assumed of `serde_json` -/

/-- The serialiser gives a line for an entry, without a raw newline or a carriage
return at its end, and reads the entry back from it. -/
def Serde.RoundTrips (serde : Serde) (entry : EventLogEntry) : Prop :=
  ∃ record text, EventLogRecord.fromEntry serde entry = .ok record ∧
    serde.toWriter record = some text ∧ serde.fromStr text = some record ∧
    record.intoEntry serde = .ok entry ∧ IsLine (textBytes text)

/-- The serialiser round-trips the entries of an event. -/
def Serde.Handles (serde : Serde) (event : RuntimeEvent) : Prop :=
  ∀ seq tsMs, serde.RoundTrips ⟨seq, tsMs, event⟩

/-! ## Texts -/

/-- The bytes of ASCII characters are the characters. -/
theorem mem_textBytes {text : String} {byte : UInt8} (h : byte ∈ textBytes text)
    (hbyte : byte.toNat < 128) : ∃ c ∈ text.toList, c.toNat = byte.toNat := by
  have hbytes : textBytes text = text.toList.flatMap String.utf8EncodeChar := by
    rw [textBytes, String.toUTF8, ← String.ofList_toList (s := text), String.toByteArray_ofList,
      String.ofList_toList, List.utf8Encode, List.data_toByteArray]
  rw [hbytes, List.mem_flatMap] at h
  obtain ⟨c, hc, hmem⟩ := h
  refine ⟨c, hc, ?_⟩
  rw [String.utf8EncodeChar] at hmem
  have hnat : c.toNat = c.val.toNat := rfl
  split at hmem
  · obtain rfl := List.mem_singleton.mp hmem
    rw [UInt8.toNat_ofNat']
    omega
  · -- every byte of a longer encoding is at least 128
    exfalso
    split at hmem
    · simp only [List.mem_cons, List.not_mem_nil, or_false] at hmem
      rcases hmem with rfl | rfl <;> rw [UInt8.toNat_ofNat'] at hbyte <;> omega
    · split at hmem
      · simp only [List.mem_cons, List.not_mem_nil, or_false] at hmem
        rcases hmem with rfl | rfl | rfl <;> rw [UInt8.toNat_ofNat'] at hbyte <;> omega
      · simp only [List.mem_cons, List.not_mem_nil, or_false] at hmem
        rcases hmem with rfl | rfl | rfl | rfl <;> rw [UInt8.toNat_ofNat'] at hbyte <;> omega

/-- A JSON object without line breaks in it is a line. -/
theorem isLine_textBytes {chars : List Char} (h : '\n' ∉ chars) :
    IsLine (textBytes (String.ofList (chars ++ ['}']))) := by
  have hascii : ∀ byte ∈ textBytes (String.ofList (chars ++ ['}'])), byte.toNat < 128 →
      ∃ c ∈ chars ++ ['}'], c.toNat = byte.toNat := by
    intro byte hbyte hlt
    obtain ⟨c, hc, heq⟩ := mem_textBytes hbyte hlt
    exact ⟨c, by rwa [String.toList_ofList] at hc, heq⟩
  constructor
  · intro hmem
    obtain ⟨c, hc, heq⟩ := hascii newline hmem (by decide)
    have hchar : c = '\n' := Char.toNat_inj.mp heq
    subst hchar
    rcases List.mem_append.mp hc with hc | hc
    · exact h hc
    · exact absurd (List.mem_singleton.mp hc) (by decide)
  · have hlast : textBytes (String.ofList (chars ++ ['}'])) =
        textBytes (String.ofList chars) ++ [125] := by
      rw [textBytes, textBytes, String.toUTF8, String.toUTF8, String.toByteArray_ofList,
        String.toByteArray_ofList, List.utf8Encode_append, ByteArray.data_append,
        Array.toList_append]
      rfl
    rw [hlast, List.getLast?_concat]
    decide

/-! ## Identifiers and evidence -/

/-- Reads a session id from its hyphenated form. -/
def parseSessionId (text : String) : Option SessionId :=
  (hyphenatedFormats.parseUuid text.toList).toOption.map SessionId.mk

/-- Reads an evidence from its text. -/
def parseEvidence (text : String) : Option LostEvidence :=
  LostEvidence.ALL.find? fun evidence => evidence.asStr = text

theorem parseSessionId_uuidText (id : SessionId) :
    parseSessionId (.ofList (uuidText id.uuid)) = some id := by
  rw [parseSessionId, String.toList_ofList, readsUuids_hyphenatedFormats.hyphenated]
  rfl

theorem parseEvidence_asStr (evidence : LostEvidence) :
    parseEvidence evidence.asStr = some evidence := by
  cases evidence <;> rfl

theorem not_mem_uuidText {c : Char} (h : c = '"' ∨ c = '\n') (id : SessionId) :
    c ∉ uuidText id.uuid := by
  intro hmem
  have hchar := List.all_eq_true.mp (looksLikeSessionIdPrefix_uuidText id.uuid) c hmem
  rcases h with rfl | rfl <;> exact absurd hchar (by decide)

theorem not_mem_evidence {c : Char} (h : c = '"' ∨ c = '\n') (evidence : LostEvidence) :
    c ∉ evidence.asStr.toList := by
  rcases h with rfl | rfl <;> cases evidence <;> decide

/-! ## The record of a lost session -/

/-- What a record begins with. -/
def seqField : List Char := "\x7b\"seq\":".toList

/-- What stands before its time. -/
def tsField : List Char := ",\"ts_ms\":".toList

/-- What stands before the evidence. -/
def evidenceField : List Char := ",\"kind\":\"lost\",\"payload\":\x7b\"evidence\":\"".toList

/-- What stands before the session. -/
def idField : List Char := "\",\"session_id\":\"".toList

/-- The text of a lost record, without the brace that ends it. The keys of the payload are
sorted. -/
def lostRecordChars (seq tsMs : UInt64) (evidence idText : List Char) : List Char :=
  seqField ++ (Nat.toDigits 10 seq.toNat ++ (tsField ++ (Nat.toDigits 10 tsMs.toNat ++
    (evidenceField ++ (evidence ++ (idField ++ (idText ++ "\"\x7d".toList)))))))

/-- A decimal number and what follows it. -/
def parseNat (text : List Char) : Nat × List Char :=
  (Nat.ofDigitChars 10 (text.takeWhile Char.isDigit) 0, text.dropWhile Char.isDigit)

/-- A record of a loss from its text. -/
def parseLostRecord (text : List Char) : Option EventLogRecord := do
  let text ← stripPrefix seqField text
  let (seq, text) := parseNat text
  let text ← stripPrefix tsField text
  let (tsMs, text) := parseNat text
  let text ← stripPrefix evidenceField text
  let evidence := text.takeWhile (· ≠ '"')
  let text ← stripPrefix idField (text.dropWhile (· ≠ '"'))
  pure
    { seq := .ofNat seq
      tsMs := .ofNat tsMs
      kind := "lost"
      payload := .object [("evidence", .string (.ofList evidence)),
        ("session_id", .string (.ofList (text.takeWhile (· ≠ '"'))))] }

/-- The payload of a lost event. -/
def lostPayload (evidence idText : String) : Value :=
  .object [("evidence", .string evidence), ("session_id", .string idText)]

/-- A serialiser that knows the `Lost` events. -/
def lostSerde : Serde where
  toValue
    | .lost id evidence =>
        some (.object [("payload", lostPayload evidence.asStr (.ofList (uuidText id.uuid))),
          ("type", .string "lost")])
    | _ => none
  fromValue
    | .object [("type", .string "lost"),
        ("payload", .object [("evidence", .string evidence), ("session_id", .string idText)])] =>
        do return .lost (← parseSessionId idText) (← parseEvidence evidence)
    | _ => none
  toWriter
    | ⟨seq, tsMs, "lost", .object [("evidence", .string evidence),
        ("session_id", .string idText)]⟩ =>
        some (.ofList (lostRecordChars seq tsMs evidence.toList idText.toList ++ ['}']))
    | _ => none
  fromStr text := parseLostRecord text.toList

/-! ## Reading a record back -/

theorem parseNat_append {rest : List Char} (h : rest.head?.all (!·.isDigit) = true) (n : Nat) :
    parseNat (Nat.toDigits 10 n ++ rest) = (n, rest) := by
  have hdigits : ∀ c ∈ Nat.toDigits 10 n, c.isDigit = true := fun c hc =>
    Nat.isDigit_of_mem_toDigits (by decide) (by decide) hc
  have hstop : rest.takeWhile Char.isDigit = [] ∧ rest.dropWhile Char.isDigit = rest := by
    cases rest with
    | nil => exact ⟨rfl, rfl⟩
    | cons c rest =>
        have hc : c.isDigit = false := by simpa using h
        simp [hc]
  rw [parseNat, List.takeWhile_append_of_pos hdigits, List.dropWhile_append_of_pos hdigits,
    hstop.1, hstop.2, List.append_nil, Nat.ofDigitChars_ten_toDigits]

/-- A text without quotes is read up to the quote behind it. -/
theorem takeWhile_quote {text : List Char} (h : '"' ∉ text) (rest : List Char) :
    (text ++ '"' :: rest).takeWhile (· ≠ '"') = text ∧
      (text ++ '"' :: rest).dropWhile (· ≠ '"') = '"' :: rest := by
  have hplain : ∀ c ∈ text, decide (c ≠ '"') = true := by
    intro c hc
    simp only [ne_eq, decide_eq_true_eq]
    exact fun heq => h (heq ▸ hc)
  rw [List.takeWhile_append_of_pos hplain, List.dropWhile_append_of_pos hplain]
  simp

theorem parseLostRecord_lostRecordChars (seq tsMs : UInt64) {evidence idText : List Char}
    (hevidence : '"' ∉ evidence) (hid : '"' ∉ idText) :
    parseLostRecord (lostRecordChars seq tsMs evidence idText ++ ['}']) =
      some ⟨seq, tsMs, "lost", lostPayload (.ofList evidence) (.ofList idText)⟩ := by
  have hseq : (tsField ++ (Nat.toDigits 10 tsMs.toNat ++ (evidenceField ++ (evidence ++ (idField ++
      (idText ++ ("\"\x7d".toList ++ ['}']))))))).head?.all (!·.isDigit) = true := rfl
  have hts : (evidenceField ++ (evidence ++ (idField ++
      (idText ++ ("\"\x7d".toList ++ ['}']))))).head?.all (!·.isDigit) = true := rfl
  have hevidenceText := takeWhile_quote hevidence
    (",\"session_id\":\"".toList ++ (idText ++ ("\"\x7d".toList ++ ['}'])))
  have hidText := takeWhile_quote hid ['}', '}']
  have hquote : idField = '"' :: ",\"session_id\":\"".toList := by decide
  have hend : "\"\x7d".toList ++ ['}'] = '"' :: ['}', '}'] := by decide
  simp only [parseLostRecord, lostRecordChars, List.append_assoc, stripPrefix_append,
    Option.bind_eq_bind, Option.bind_some, parseNat_append hseq, parseNat_append hts]
  rw [hquote, List.cons_append, hevidenceText.1, hevidenceText.2, ← List.cons_append, ← hquote,
    stripPrefix_append, Option.bind_some, hend, hidText.1, UInt64.ofNat_toNat, UInt64.ofNat_toNat]
  rfl

theorem newline_notMem_lostRecordChars (seq tsMs : UInt64) {evidence idText : List Char}
    (hevidence : '\n' ∉ evidence) (hid : '\n' ∉ idText) :
    '\n' ∉ lostRecordChars seq tsMs evidence idText := by
  have hdigits : ∀ n, '\n' ∉ Nat.toDigits 10 n := fun n hmem =>
    absurd (Nat.isDigit_of_mem_toDigits (by decide) (by decide) hmem) (by decide)
  have hfields : '\n' ∉ seqField ∧ '\n' ∉ tsField ∧ '\n' ∉ evidenceField ∧ '\n' ∉ idField ∧
      '\n' ∉ "\"\x7d".toList := by decide
  obtain ⟨hseqField, htsField, hevidenceField, hidField, hend⟩ := hfields
  simp only [lostRecordChars, List.mem_append, hseqField, hdigits, htsField, hevidenceField,
    hevidence, hidField, hid, hend, or_self, not_false_eq_true]

/-- The lines of lost sessions read back. -/
theorem lostSerde_handles (id : SessionId) (evidence : LostEvidence) :
    lostSerde.Handles (.lost id evidence) := by
  intro seq tsMs
  refine ⟨⟨seq, tsMs, "lost", lostPayload evidence.asStr (.ofList (uuidText id.uuid))⟩,
    .ofList (lostRecordChars seq tsMs evidence.asStr.toList (uuidText id.uuid) ++ ['}']),
    rfl, ?_, ?_, ?_, ?_⟩
  · simp only [lostSerde, lostPayload, String.toList_ofList]
  · simp only [lostSerde, String.toList_ofList]
    rw [parseLostRecord_lostRecordChars seq tsMs (not_mem_evidence (.inl rfl) evidence)
      (not_mem_uuidText (.inl rfl) id), String.ofList_toList]
  · have hevent : lostSerde.fromValue (.object [("type", .string "lost"), ("payload",
        lostPayload evidence.asStr (.ofList (uuidText id.uuid)))]) = some (.lost id evidence) := by
      simp only [lostSerde, lostPayload, parseSessionId_uuidText, parseEvidence_asStr]
      rfl
    rw [EventLogRecord.intoEntry, hevent]
    rfl
  · exact isLine_textBytes (newline_notMem_lostRecordChars seq tsMs
      (not_mem_evidence (.inr rfl) evidence) (not_mem_uuidText (.inr rfl) id))

end LittleOrgans.Runtime
