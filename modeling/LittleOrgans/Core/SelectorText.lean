import LittleOrgans.Core.LabelText
import LittleOrgans.Core.Selector
import Mathlib.Tactic.IntervalCases

/-!
# Selector texts

`Selector::from_str` and the rendering of a selector, of `lilo-session-core`. The parser tries
its alternatives in order; `Reads` states them as a grammar without an order, and
`fromTrimmed_eq_ok` says that the two agree. What the parser takes from the uuid library is a
parameter (`TextFormats`), and `ReadsUuids` what is assumed of it.
-/

set_option autoImplicit false

namespace LittleOrgans.Core

open LittleOrgans.Library

/-! ## What is taken from elsewhere -/

/-- `Uuid::parse_str`, and how a character is written in quotes. -/
structure TextFormats where
  parseUuid : List Char → Except String (BitVec 128)
  quoted : Char → String

/-- A hexadecimal digit. -/
def isHex (c : Char) : Bool := c.isDigit || ('a' ≤ c && c ≤ 'f') || ('A' ≤ c && c ≤ 'F')

/-- The forms of a uuid: 32 digits, with hyphens, in braces or behind `urn:uuid:`. -/
def UuidShape (text : List Char) : Prop :=
  (text.length = 32 ∧ ∀ c ∈ text, isHex c = true) ∨
    (text.length = 36 ∧ ∀ c ∈ text, isHex c = true ∨ c = '-') ∨
    text.head? = some '{' ∨ "urn:uuid:".toList <+: text

/-- A uuid is read from the text it is written as, and from texts of the known forms only. -/
structure TextFormats.ReadsUuids (formats : TextFormats) : Prop where
  hyphenated : ∀ uuid, formats.parseUuid (uuidText uuid) = .ok uuid
  shape : ∀ text uuid, formats.parseUuid text = .ok uuid → UuidShape text

/-! ## Namespaces -/

/-- Why a text is no namespace. -/
inductive NamespaceError where
  | empty
  | tooLong (actual max : Nat)
  | mustStartWithLetter
  | invalidCharacter (character : Char)
  | reservedName (name : String)
  | reservedPrefix (text : String)
  deriving DecidableEq

/-- The text of a namespace error. -/
def NamespaceError.text (formats : TextFormats) : NamespaceError → String
  | .empty => "namespace is empty"
  | .tooLong actual max =>
      "namespace is too long: " ++ actual.repr ++ " characters, max " ++ max.repr
  | .mustStartWithLetter => "namespace must start with a lowercase ASCII letter"
  | .invalidCharacter character =>
      "namespace contains invalid character: " ++ formats.quoted character
  | .reservedName name => "namespace name is reserved: " ++ name
  | .reservedPrefix text => "namespace prefix is reserved: " ++ text

/-- The most characters of a namespace. -/
def NAMESPACE_MAX_LEN : Nat := 63

/-- The prefix of namespaces that are not the user's. -/
def RESERVED_NAMESPACE_PREFIX : String := "sm-"

/-- `validate_namespace_slug`. -/
def validateNamespaceSlug (value : List Char) : Except NamespaceError Unit :=
  match value with
  | [] => .error .empty
  | first :: rest =>
      let actual := (String.ofList value).utf8ByteSize
      if NAMESPACE_MAX_LEN < actual then .error (.tooLong actual NAMESPACE_MAX_LEN)
      else if !first.isLower then .error .mustStartWithLetter
      else
        match rest.find? fun c => !(c.isLower || c.isDigit || c = '-') with
        | some character => .error (.invalidCharacter character)
        | none => .ok ()

/-- `Namespace::new`. -/
def newNamespace (value : List Char) : Except NamespaceError String := do
  validateNamespaceSlug value
  if RESERVED_NAMESPACE_PREFIX.toList.isPrefixOf value then
    .error (.reservedPrefix RESERVED_NAMESPACE_PREFIX)
  else .ok (String.ofList value)

/-! ## Parsing -/

/-- The forms of a selector, as an error lists them. -/
def SELECTOR_GRAMMAR_HINT : String :=
  "all, <uuid-or-prefix>, id:<uuid>, role:<name>, namespace:<slug>, dir:<path>, " ++
    "label:<key>=<value>, label:<key> in (v1, v2)"

/-- `looks_like_session_id_prefix`. -/
def looksLikeSessionIdPrefix (value : List Char) : Bool :=
  value.all fun ch => ch.isDigit || ('a' ≤ ch && ch ≤ 'f') || ch = '-'

/-- `parse_prefix_selector`. -/
def parsePrefixSelector (value : List Char) : Except SmError Selector :=
  if (String.ofList value).utf8ByteSize < MIN_SELECTOR_PREFIX_LEN then
    .error (.message ("session id prefix must be at least " ++ MIN_SELECTOR_PREFIX_LEN.repr ++
      " characters"))
  else .ok (.idPrefix (String.ofList value))

/-- `parse_label_values`. -/
def parseLabelValues (value : List Char) : Except SmError (List String) :=
  match (stripPrefix ['('] (trim value)).bind (stripSuffix [')']) with
  | none => .error (.message ("invalid label value list: " ++ String.ofList (trim value)))
  | some value => do
      let values ← (value.splitOn ',').mapM fun item => parseLabelToken item "label value"
      if values = [] then .error (.message "label value list is empty") else pure values

/-- `parse_label_selector`. -/
def parseLabelSelector (value : List Char) : Except SmError Selector :=
  match splitOnce ['='] value with
  | some (key, rawValue) => do
      let key ← parseLabelToken key "label key"
      let value ← parseLabelToken rawValue "label value"
      pure (.label key (.eq value))
  | none =>
      match splitOnce " in ".toList value with
      | none => .error (.message ("invalid label selector: " ++ String.ofList value))
      | some (key, rawValues) => do
          let values ← parseLabelValues rawValues
          let key ← parseLabelToken key "label key"
          pure (.label key (.isIn values))

/-- The error for a text that is no selector. -/
def unsupportedSelector (value : List Char) : SmError :=
  .message ("unsupported selector: " ++ String.ofList value ++ " (expected one of: " ++
    SELECTOR_GRAMMAR_HINT ++ ")")

/-- The alternatives of `from_str` behind `all` and the bare uuid. -/
def Selector.fromKeyword (formats : TextFormats) (value : List Char) : Except SmError Selector :=
  match stripPrefix "id:".toList value with
  | some raw =>
      match formats.parseUuid (trim raw) with
      | .ok uuid => .ok (.id ⟨uuid⟩)
      | .error error => .error (.uuid error)
  | none =>
  match stripPrefix "role:".toList value with
  | some raw => (parseLabelToken raw "role selector").map Selector.role
  | none =>
  match stripPrefix "workspace:".toList value with
  | some raw => .error (unsupportedSelector ("workspace:".toList ++ trim raw))
  | none =>
  match stripPrefix "namespace:".toList value with
  | some raw =>
      match newNamespace (trim raw) with
      | .ok slug => .ok (.inNamespace slug)
      | .error error => .error (.message ("invalid namespace selector: " ++ error.text formats))
  | none =>
  match stripPrefix "dir:".toList value with
  | some raw =>
      if trim raw = [] then .error (.message "dir selector is empty")
      else .ok (.dir (String.ofList (trim raw)))
  | none =>
  match stripPrefix "label:".toList value with
  | some raw => parseLabelSelector raw
  | none =>
      if looksLikeSessionIdPrefix value then parsePrefixSelector value
      else .error (unsupportedSelector value)

/-- `from_str` behind the trimming. -/
def Selector.fromTrimmed (formats : TextFormats) (value : List Char) : Except SmError Selector :=
  if value = "all".toList then .ok .all
  else
    match formats.parseUuid value with
    | .ok uuid => .ok (.id ⟨uuid⟩)
    | .error _ => Selector.fromKeyword formats value

/-- `Selector::from_str`. -/
def Selector.fromStr (formats : TextFormats) (value : List Char) : Except SmError Selector :=
  Selector.fromTrimmed formats (trim value)

/-! ## Printing -/

/-- The values of a label set, as they are displayed. -/
def joinValues (values : List String) : List Char :=
  ", ".toList.intercalate (values.map String.toList)

mutual

/-- `Selector::fmt`. -/
def Selector.display : Selector → List Char
  | .all => "all".toList
  | .id id => "id:".toList ++ uuidText id.uuid
  | .idPrefix text => text.toList
  | .role name => "role:".toList ++ name.toList
  | .inNamespace slug => "namespace:".toList ++ slug.toList
  | .dir path => "dir:".toList ++ path.toList
  | .and selectors => " && ".toList.intercalate (displayAll selectors)
  | .label key (.eq value) => "label:".toList ++ (key.toList ++ '=' :: value.toList)
  | .label key (.isIn values) =>
      "label:".toList ++ (key.toList ++ (" in ".toList ++ ('(' :: joinValues values ++ [')'])))

/-- The selectors of a conjunction, each printed. -/
def displayAll : List Selector → List (List Char)
  | [] => []
  | selector :: rest => selector.display :: displayAll rest

end

/-! ## The grammar -/

/-- The label selector that a text behind `label:` stands for. -/
inductive ReadsLabel : List Char → Selector → Prop where
  | eq {raw key rawValue : List Char} {token value : String} (hsplit : raw = key ++ '=' :: rawValue)
      (hkey : '=' ∉ key) (htoken : parseLabelToken key "label key" = .ok token)
      (hvalue : parseLabelToken rawValue "label value" = .ok value) :
      ReadsLabel raw (.label token (.eq value))
  | isIn {raw key rawValues : List Char} {token : String} {values : List String}
      (hequals : '=' ∉ raw) (hsplit : splitOnce " in ".toList raw = some (key, rawValues))
      (hvalues : parseLabelValues rawValues = .ok values)
      (htoken : parseLabelToken key "label key" = .ok token) :
      ReadsLabel raw (.label token (.isIn values))

/-- The selector that a trimmed text stands for. -/
inductive Reads (formats : TextFormats) : List Char → Selector → Prop where
  | all : Reads formats "all".toList .all
  | uuid {value : List Char} {uuid : BitVec 128} (h : formats.parseUuid value = .ok uuid) :
      Reads formats value (.id ⟨uuid⟩)
  | id {raw : List Char} {uuid : BitVec 128} (h : formats.parseUuid (trim raw) = .ok uuid) :
      Reads formats ("id:".toList ++ raw) (.id ⟨uuid⟩)
  | role {raw : List Char} {name : String} (h : parseLabelToken raw "role selector" = .ok name) :
      Reads formats ("role:".toList ++ raw) (.role name)
  | inNamespace {raw : List Char} {slug : String} (h : newNamespace (trim raw) = .ok slug) :
      Reads formats ("namespace:".toList ++ raw) (.inNamespace slug)
  | dir {raw : List Char} (h : trim raw ≠ []) :
      Reads formats ("dir:".toList ++ raw) (.dir (String.ofList (trim raw)))
  | label {raw : List Char} {selector : Selector} (h : ReadsLabel raw selector) :
      Reads formats ("label:".toList ++ raw) selector
  | idPrefix {value : List Char} {selector : Selector} (hchars : looksLikeSessionIdPrefix value)
      (hread : parsePrefixSelector value = .ok selector)
      (hnone : ∀ uuid, formats.parseUuid value ≠ .ok uuid) : Reads formats value selector

theorem parseLabelSelector_eq_ok {raw : List Char} {selector : Selector} :
    parseLabelSelector raw = .ok selector ↔ ReadsLabel raw selector := by
  rw [parseLabelSelector]
  constructor
  · intro h
    split at h
    · next key rawValue hsplit =>
        obtain ⟨hraw, hkey⟩ := splitOnce_singleton.mp hsplit
        obtain ⟨token, htoken, h⟩ := Except.bind_eq_ok.mp h
        obtain ⟨value, hvalue, h⟩ := Except.bind_eq_ok.mp h
        cases h
        exact .eq hraw hkey htoken hvalue
    · next hnone =>
        have hequals := splitOnce_singleton_eq_none.mp hnone
        split at h
        · cases h
        · next key rawValues hsplit =>
            obtain ⟨values, hvalues, h⟩ := Except.bind_eq_ok.mp h
            obtain ⟨token, htoken, h⟩ := Except.bind_eq_ok.mp h
            cases h
            exact .isIn hequals hsplit hvalues htoken
  · intro h
    cases h with
    | eq hsplit hkey htoken hvalue =>
        rw [splitOnce_singleton.mpr ⟨hsplit, hkey⟩]
        simp only [htoken, hvalue]
        rfl
    | isIn hequals hsplit hvalues htoken =>
        rw [splitOnce_singleton_eq_none.mpr hequals, hsplit]
        simp only [htoken, hvalues]
        rfl

/-- A text with a colon that is not in braces and no urn is no uuid. -/
theorem TextFormats.ReadsUuids.not_colon {formats : TextFormats} (h : formats.ReadsUuids)
    {text : List Char} (hcolon : ':' ∈ text) (hbrace : text.head? ≠ some '{')
    (hurn : ¬"urn:uuid:".toList <+: text) (uuid : BitVec 128) :
    formats.parseUuid text ≠ .ok uuid := by
  intro hread
  rcases h.shape text uuid hread with ⟨-, hhex⟩ | ⟨-, hhex⟩ | hhead | hstarts
  · exact absurd (hhex ':' hcolon) (by decide)
  · exact absurd (hhex ':' hcolon) (by decide)
  · exact hbrace hhead
  · exact hurn hstarts

/-- A uuid is not the keyword `all`. -/
theorem TextFormats.ReadsUuids.ne_all {formats : TextFormats} (h : formats.ReadsUuids)
    {text : List Char} {uuid : BitVec 128} (hread : formats.parseUuid text = .ok uuid) :
    text ≠ "all".toList := by
  rintro rfl
  rcases h.shape _ uuid hread with ⟨hlength, -⟩ | ⟨hlength, -⟩ | hhead | hstarts
  · exact absurd hlength (by decide)
  · exact absurd hlength (by decide)
  · exact absurd hhead (by decide)
  · exact absurd hstarts (by decide)

section

variable {formats : TextFormats}

/-- A text that is neither `all` nor a uuid. -/
theorem fromTrimmed_eq_fromKeyword {value : List Char} (hall : value ≠ "all".toList)
    (hnone : ∀ uuid, formats.parseUuid value ≠ .ok uuid) :
    Selector.fromTrimmed formats value = Selector.fromKeyword formats value := by
  rw [Selector.fromTrimmed, if_neg hall]
  cases hread : formats.parseUuid value with
  | ok uuid => exact absurd hread (hnone uuid)
  | error error => rfl

/-- A text behind a keyword with a colon. -/
theorem fromTrimmed_keyword (hformats : formats.ReadsUuids) {keyword raw : List Char}
    (hcolon : ':' ∈ keyword) (hhead : keyword.head? ≠ some '{')
    (hurn : ¬"urn:uuid:".toList <+: keyword ++ raw) :
    Selector.fromTrimmed formats (keyword ++ raw) =
      Selector.fromKeyword formats (keyword ++ raw) := by
  have hmem : ':' ∈ keyword ++ raw := List.mem_append_left raw hcolon
  refine fromTrimmed_eq_fromKeyword ?_ (hformats.not_colon hmem ?_ hurn)
  · intro hall
    rw [hall] at hmem
    exact absurd hmem (by decide)
  · rwa [List.head?_append_of_ne_nil keyword (List.ne_nil_of_mem hcolon)]

/-- A text of the characters of an id is behind no keyword. -/
theorem fromKeyword_of_chars {value : List Char} (h : looksLikeSessionIdPrefix value = true) :
    Selector.fromKeyword formats value = parsePrefixSelector value := by
  have hcolon : ':' ∉ value := by
    intro hmem
    exact absurd (List.all_eq_true.mp h ':' hmem) (by decide)
  have hstrip : ∀ keyword, ':' ∈ keyword → stripPrefix keyword value = none := by
    intro keyword hkeyword
    exact stripPrefix_eq_none fun hstarts => hcolon (hstarts.subset hkeyword)
  rw [Selector.fromKeyword, hstrip _ (by decide), hstrip _ (by decide), hstrip _ (by decide),
    hstrip _ (by decide), hstrip _ (by decide), hstrip _ (by decide)]
  exact if_pos h

/-- What a text that is neither `all` nor a uuid is read as. -/
theorem reads_of_fromKeyword {value : List Char} {selector : Selector}
    (hnone : ∀ uuid, formats.parseUuid value ≠ .ok uuid)
    (h : Selector.fromKeyword formats value = .ok selector) : Reads formats value selector := by
  rw [Selector.fromKeyword] at h
  -- `id:`
  split at h
  · next raw hraw =>
      rw [stripPrefix_eq_some.mp hraw]
      split at h
      · next huuid =>
          cases h
          exact .id huuid
      · cases h
  -- `role:`
  split at h
  · next raw hraw =>
      rw [stripPrefix_eq_some.mp hraw]
      cases hname : parseLabelToken raw "role selector" with
      | error e =>
          rw [hname] at h
          cases h
      | ok name =>
          rw [hname] at h
          cases h
          exact .role hname
  -- `workspace:` is refused
  split at h
  · cases h
  -- `namespace:`
  split at h
  · next raw hraw =>
      rw [stripPrefix_eq_some.mp hraw]
      split at h
      · next hslug =>
          cases h
          exact .inNamespace hslug
      · cases h
  -- `dir:`
  split at h
  · next raw hraw =>
      rw [stripPrefix_eq_some.mp hraw]
      split at h
      · cases h
      · next hne =>
          cases h
          exact .dir hne
  -- `label:`
  split at h
  · next raw hraw =>
      rw [stripPrefix_eq_some.mp hraw]
      exact .label (parseLabelSelector_eq_ok.mp h)
  -- no keyword: the characters decide
  split at h
  · next hchars => exact .idPrefix hchars h hnone
  · cases h

/-- Every text of the grammar is read. -/
theorem fromTrimmed_of_reads (hformats : formats.ReadsUuids) {value : List Char}
    {selector : Selector} (h : Reads formats value selector) :
    Selector.fromTrimmed formats value = .ok selector := by
  cases h with
  | all => rfl
  | uuid huuid => rw [Selector.fromTrimmed, if_neg (hformats.ne_all huuid), huuid]
  | id huuid =>
      rw [fromTrimmed_keyword hformats (by decide) (by decide) (by simp)]
      simp [Selector.fromKeyword, stripPrefix, huuid]
  | role hname =>
      rw [fromTrimmed_keyword hformats (by decide) (by decide) (by simp)]
      simp [Selector.fromKeyword, stripPrefix, hname, Except.map]
  | inNamespace hslug =>
      rw [fromTrimmed_keyword hformats (by decide) (by decide) (by simp)]
      simp [Selector.fromKeyword, stripPrefix, hslug]
  | dir hne =>
      rw [fromTrimmed_keyword hformats (by decide) (by decide) (by simp)]
      simp [Selector.fromKeyword, stripPrefix, hne]
  | label hlabel =>
      rw [fromTrimmed_keyword hformats (by decide) (by decide) (by simp)]
      simp [Selector.fromKeyword, stripPrefix, parseLabelSelector_eq_ok.mpr hlabel]
  | idPrefix hchars hread hnone =>
      have hall : value ≠ "all".toList := by
        rintro rfl
        exact absurd hchars (by decide)
      rw [fromTrimmed_eq_fromKeyword hall hnone, fromKeyword_of_chars hchars, hread]

/-- The parser reads exactly what the grammar says. -/
theorem fromTrimmed_eq_ok (hformats : formats.ReadsUuids)
    {value : List Char} {selector : Selector} :
    Selector.fromTrimmed formats value = .ok selector ↔ Reads formats value selector := by
  constructor
  · intro h
    rw [Selector.fromTrimmed] at h
    split at h
    · next hall =>
        cases h
        rw [hall]
        exact .all
    split at h
    · next uuid huuid =>
        cases h
        exact .uuid huuid
    next error herror =>
    refine reads_of_fromKeyword (fun uuid huuid => ?_) h
    rw [huuid] at herror
    cases herror
  · exact fromTrimmed_of_reads hformats

end

/-! ## The text of an id -/

/-- The characters of the text of an id. -/
theorem looksLikeSessionIdPrefix_uuidText (uuid : BitVec 128) :
    looksLikeSessionIdPrefix (uuidText uuid) = true := by
  have hdigit : ∀ n, looksLikeSessionIdPrefix [hexDigit n] = true := by
    intro n
    by_cases hn : n < 16
    · interval_cases n <;> decide
    · have hzero : hexDigit n = '0' := by
        have hnone : "0123456789abcdef".toList[n]? = none :=
          List.getElem?_eq_none (Nat.not_lt.mp hn)
        rw [hexDigit, List.getD_eq_getElem?_getD, hnone, Option.getD_none]
      rw [hzero]
      decide
  have hdigits : ∀ c ∈ hexDigits uuid,
      (c.isDigit || ('a' ≤ c && c ≤ 'f') || c = '-') = true := by
    intro c hc
    obtain ⟨i, -, rfl⟩ := List.mem_map.mp hc
    exact List.all_eq_true.mp (hdigit _) _ List.mem_cons_self
  have hgroup : ∀ i k, ∀ c ∈ ((hexDigits uuid).drop i).take k,
      (c.isDigit || ('a' ≤ c && c ≤ 'f') || c = '-') = true :=
    fun i k c hc => hdigits c (List.mem_of_mem_drop (List.mem_of_mem_take hc))
  refine List.all_eq_true.mpr fun c hc => ?_
  simp only [uuidText, List.mem_append] at hc
  rcases hc with ((((((((hc | hc) | hc) | hc) | hc) | hc) | hc) | hc) | hc)
  · exact hdigits c (List.mem_of_mem_take hc)
  · rw [List.mem_singleton.mp hc]
    decide
  · exact hgroup 8 4 c hc
  · rw [List.mem_singleton.mp hc]
    decide
  · exact hgroup 12 4 c hc
  · rw [List.mem_singleton.mp hc]
    decide
  · exact hgroup 16 4 c hc
  · rw [List.mem_singleton.mp hc]
    decide
  · exact hdigits c (List.mem_of_mem_drop hc)

@[simp]
theorem length_uuidText (uuid : BitVec 128) : (uuidText uuid).length = 36 := by
  simp [uuidText, hexDigits]

theorem uuidText_ne_nil (uuid : BitVec 128) : uuidText uuid ≠ [] := by
  intro hnil
  have hlength := length_uuidText uuid
  rw [hnil] at hlength
  cases hlength

theorem not_isWhitespace_of_looksLike {value : List Char}
    (h : looksLikeSessionIdPrefix value = true) {c : Char} (hc : c ∈ value) :
    isWhitespace c = false := by
  have hchar := List.all_eq_true.mp h c hc
  have hrange : c.toNat = 0x2d ∨ (0x30 ≤ c.toNat ∧ c.toNat ≤ 0x39) ∨
      (0x61 ≤ c.toNat ∧ c.toNat ≤ 0x66) := by
    simp only [Bool.or_eq_true, Bool.and_eq_true, decide_eq_true_eq, Char.isDigit, Char.le_def,
      UInt32.le_iff_toNat_le] at hchar
    rcases hchar with (hdigit | hletter) | rfl
    · exact .inr (.inl hdigit)
    · exact .inr (.inr hletter)
    · exact .inl rfl
  rw [isWhitespace, decide_eq_false_iff_not]
  simp only [List.mem_cons, List.not_mem_nil, or_false, not_or]
  omega

theorem isTrimmed_of_looksLike {value : List Char} (h : looksLikeSessionIdPrefix value = true) :
    IsTrimmed value where
  head _ hc := not_isWhitespace_of_looksLike h (List.mem_of_mem_head? hc)
  last _ hc := not_isWhitespace_of_looksLike h (List.mem_of_mem_getLast? hc)

/-- The text of an id has no white space at its ends. -/
theorem isTrimmed_uuidText (uuid : BitVec 128) : IsTrimmed (uuidText uuid) :=
  isTrimmed_of_looksLike (looksLikeSessionIdPrefix_uuidText uuid)

/-- Reading a uuid back makes its text its own. -/
theorem TextFormats.ReadsUuids.uuidText_injective {formats : TextFormats}
    (h : formats.ReadsUuids) : Function.Injective uuidText := by
  intro a b hab
  have hread := h.hyphenated a
  rw [hab, h.hyphenated b, Except.ok.injEq] at hread
  exact hread.symm

/-! ## A reader of hyphenated uuids -/

/-- The value of a lower-case hexadecimal digit. -/
def hexValue (c : Char) : Nat :=
  if c.isDigit then c.toNat - '0'.toNat else c.toNat - 'a'.toNat + 10

/-- The value of hexadecimal digits. -/
def parseHex (digits : List Char) : Nat := digits.foldl (fun n c => 16 * n + hexValue c) 0

/-- Reads a uuid from its hyphenated form in lower case, and from no other form. -/
def hyphenatedFormats : TextFormats where
  parseUuid text :=
    let uuid := BitVec.ofNat 128 (parseHex (text.filter (· ≠ '-')))
    if uuidText uuid = text then .ok uuid else .error "invalid uuid"
  quoted c := String.ofList ['\'', c, '\'']

theorem hexValue_hexDigit {d : Nat} (h : d < 16) :
    hexValue (hexDigit d) = d ∧ hexDigit d ≠ '-' := by
  interval_cases d <;> decide

/-- The first `k` of 32 digits. -/
theorem parseHex_take (n k : Nat) (h : k ≤ 32) :
    parseHex ((List.range k).map fun i => hexDigit (n / 16 ^ (31 - i) % 16)) =
      n / 16 ^ (32 - k) % 16 ^ k := by
  induction k with
  | zero => simp [parseHex, Nat.mod_one]
  | succ k ih =>
      have hbefore := ih (Nat.le_of_succ_le h)
      have hdigit := (hexValue_hexDigit (Nat.mod_lt (n / 16 ^ (31 - k)) (by decide : 0 < 16))).1
      have hshift : n / 16 ^ (32 - k) = n / 16 ^ (31 - k) / 16 := by
        rw [Nat.div_div_eq_div_mul, ← Nat.pow_succ]
        congr 2
        omega
      rw [parseHex] at hbefore
      rw [parseHex, List.range_succ, List.map_append, List.foldl_append, hbefore, List.map_cons,
        List.map_nil, List.foldl_cons, List.foldl_nil, hdigit, hshift,
        show 32 - (k + 1) = 31 - k by omega, Nat.pow_succ', Nat.mod_mul, Nat.add_comm]

theorem filter_uuidText (uuid : BitVec 128) :
    (uuidText uuid).filter (· ≠ '-') = hexDigits uuid := by
  have hplain : ∀ l : List Char, (∀ c ∈ l, c ∈ hexDigits uuid) → l.filter (· ≠ '-') = l := by
    intro l hl
    refine List.filter_eq_self.mpr fun c hc => ?_
    obtain ⟨i, -, rfl⟩ := List.mem_map.mp (hl c hc)
    exact decide_eq_true (hexValue_hexDigit (Nat.mod_lt _ (by decide))).2
  have hgroup : ∀ i k, (((hexDigits uuid).drop i).take k).filter (· ≠ '-') =
      ((hexDigits uuid).drop i).take k :=
    fun i k => hplain _ fun c hc => List.mem_of_mem_drop (List.mem_of_mem_take hc)
  have hjoin : ∀ i k, ((hexDigits uuid).drop i).take k ++ (hexDigits uuid).drop (i + k) =
      (hexDigits uuid).drop i := by
    intro i k
    rw [← List.drop_drop, List.take_append_drop]
  have hfirst := hgroup 0 8
  have hlast := hplain ((hexDigits uuid).drop 20) fun c hc => List.mem_of_mem_drop hc
  have hhyphen : ['-'].filter (· ≠ '-') = [] := by decide
  rw [List.drop_zero] at hfirst
  simp only [uuidText, List.filter_append, hfirst, hgroup, hlast, hhyphen, List.nil_append,
    List.append_assoc]
  rw [hjoin 16 4, hjoin 12 4, hjoin 8 4, List.take_append_drop]

theorem readsUuids_hyphenatedFormats : hyphenatedFormats.ReadsUuids where
  hyphenated uuid := by
    have hvalue : parseHex ((uuidText uuid).filter (· ≠ '-')) = uuid.toNat := by
      have hlt : uuid.toNat < 16 ^ 32 := uuid.isLt
      rw [filter_uuidText, hexDigits, parseHex_take uuid.toNat 32 (Nat.le_refl 32)]
      simpa using hlt
    have huuid : BitVec.ofNat 128 (parseHex ((uuidText uuid).filter (· ≠ '-'))) = uuid := by
      rw [hvalue, BitVec.ofNat_toNat]
      simp
    show (if uuidText (BitVec.ofNat 128 _) = uuidText uuid then _ else _) = _
    rw [huuid, if_pos rfl]
  shape text uuid h := by
    simp only [hyphenatedFormats] at h
    split at h
    · next htext =>
        refine .inr (.inl ⟨htext ▸ length_uuidText _, fun c hc => ?_⟩)
        rw [← htext] at hc
        have hchar := List.all_eq_true.mp (looksLikeSessionIdPrefix_uuidText _) c hc
        simp only [Bool.or_eq_true, decide_eq_true_eq] at hchar
        rcases hchar with hhex | hhyphen
        · exact .inl (by rw [isHex, Bool.or_eq_true, Bool.or_eq_true]; exact .inl hhex)
        · exact .inr hhyphen
    · cases h

end LittleOrgans.Core
