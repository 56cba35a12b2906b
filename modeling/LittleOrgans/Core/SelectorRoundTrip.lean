import LittleOrgans.Core.SelectorText

/-!
# Printing a selector and parsing it again

The text a parsed selector prints to is canonical: it parses to the selector. There is one
exception. A set of label values is told from its key by the first ` in `, and the key is
trimmed: a key that ended in ` in` and other white space prints as an earlier separator
(`display_parses_iff`).
-/

set_option autoImplicit false

namespace LittleOrgans.Core

open LittleOrgans.Library

theorem newNamespace_eq_ok {value : List Char} {slug : String}
    (h : newNamespace value = .ok slug) : slug.toList = value ∧ value ≠ [] := by
  obtain ⟨_, hvalid, h⟩ := Except.bind_eq_ok.mp h
  split at h
  · cases h
  · cases h
    refine ⟨String.toList_ofList, fun hnil => ?_⟩
    rw [hnil] at hvalid
    cases hvalid

/-! ## Value lists -/

/-- A value between commas. -/
structure IsValue (value : String) : Prop where
  trimmed : IsTrimmed value.toList
  ne_nil : value.toList ≠ []
  no_comma : ',' ∉ value.toList

theorem IsValue.parses {value : String} (h : IsValue value) (field : String) :
    parseLabelToken value.toList field = .ok value := by
  rw [parseLabelToken_eq_ok, h.trimmed.trim_eq]
  exact ⟨rfl, h.ne_nil⟩

theorem parseLabelToken_cons_space (text : List Char) (field : String) :
    parseLabelToken (' ' :: text) field = parseLabelToken text field := by
  rw [parseLabelToken, parseLabelToken, trim_cons_of_isWhitespace (by decide)]

/-- The printed values parse to themselves. -/
theorem mapM_splitOn_joinValues {values : List String} (hvalues : ∀ value ∈ values, IsValue value)
    (hne : values ≠ []) :
    ((joinValues values).splitOn ',').mapM (fun item => parseLabelToken item "label value") =
      .ok values := by
  induction values with
  | nil => exact absurd rfl hne
  | cons value rest ih =>
      rw [List.forall_mem_cons] at hvalues
      have hvalue := hvalues.1.parses "label value"
      cases rest with
      | nil =>
          rw [joinValues, List.map_cons, List.map_nil, List.intercalate_singleton,
            List.splitOn_eq_singleton hvalues.1.no_comma, List.mapM_cons, hvalue]
          rfl
      | cons next rest =>
          have hrest := ih hvalues.2 (List.cons_ne_nil next rest)
          have hjoin : joinValues (value :: next :: rest) =
              value.toList ++ ',' :: ' ' :: joinValues (next :: rest) := by
            rw [joinValues, List.map_cons, List.map_cons, List.intercalate_cons_cons, joinValues,
              List.map_cons, List.append_assoc]
            rfl
          obtain ⟨first, more, hsplit⟩ :=
            List.exists_cons_of_ne_nil (List.splitOn_ne_nil ',' (joinValues (next :: rest)))
          rw [hjoin, List.splitOn_append_cons_self_of_not_mem hvalues.1.no_comma,
            List.splitOn_cons_eq_if_modifyHead, if_neg (by decide), hsplit, List.modifyHead_cons,
            List.mapM_cons, List.mapM_cons, parseLabelToken_cons_space, hvalue]
          rw [hsplit, List.mapM_cons] at hrest
          rw [hrest]
          rfl

theorem mem_joinValues {values : List String} {c : Char} (h : c ∈ joinValues values) :
    c = ',' ∨ c = ' ' ∨ ∃ value ∈ values, c ∈ value.toList := by
  induction values with
  | nil => cases h
  | cons value rest ih =>
      cases rest with
      | nil =>
          rw [joinValues, List.map_cons, List.map_nil, List.intercalate_singleton] at h
          exact .inr (.inr ⟨value, List.mem_cons_self, h⟩)
      | cons next rest =>
          rw [joinValues, List.map_cons, List.map_cons, List.intercalate_cons_cons,
            List.mem_append, List.mem_append] at h
          rcases h with (h | h) | h
          · exact .inr (.inr ⟨value, List.mem_cons_self, h⟩)
          · have hsep : ", ".toList = [',', ' '] := rfl
            rw [hsep, List.mem_cons, List.mem_singleton] at h
            exact h.imp_right .inl
          · rcases ih h with h | h | ⟨value, hmem, hc⟩
            · exact .inl h
            · exact .inr (.inl h)
            · exact .inr (.inr ⟨value, List.mem_cons_of_mem _ hmem, hc⟩)

/-- What a parsed value list consists of. -/
theorem isValue_of_parseLabelValues {raw : List Char} {values : List String}
    (h : parseLabelValues raw = .ok values) :
    values ≠ [] ∧ ∀ value ∈ values, IsValue value ∧ ∀ c ∈ value.toList, c ∈ raw := by
  rw [parseLabelValues] at h
  split at h
  · cases h
  · next inner hinner =>
      obtain ⟨parsed, hparsed, h⟩ := Except.bind_eq_ok.mp h
      split at h
      · cases h
      · next hne =>
          cases h
          refine ⟨hne, fun value hvalue => ?_⟩
          obtain ⟨piece, hpiece, htoken⟩ := (Except.mem_of_mapM_eq_ok hparsed).mp hvalue
          obtain ⟨htext, hnil⟩ := parseLabelToken_eq_ok.mp htoken
          obtain ⟨middle, hstarts, hsuffix⟩ := Option.bind_eq_some_iff.mp hinner
          have hraw : ∀ c ∈ value.toList, c ∈ raw := by
            intro c hc
            rw [htext] at hc
            have hmem := mem_of_mem_splitOn hpiece (mem_of_mem_trim hc)
            refine mem_of_mem_trim ?_
            rw [stripPrefix_eq_some.mp hstarts, stripSuffix_eq_some.mp hsuffix]
            simp [hmem]
          refine ⟨⟨htext ▸ isTrimmed_trim piece, htext ▸ hnil, ?_⟩, hraw⟩
          rw [htext]
          exact fun hcomma => not_mem_of_mem_splitOn hpiece (mem_of_mem_trim hcomma)

theorem isTrimmed_parenthesized (inner : List Char) : IsTrimmed ('(' :: inner ++ [')']) where
  head := by
    rintro c ⟨⟩
    decide
  last := by
    rw [List.getLast?_concat]
    rintro c ⟨⟩
    decide

theorem parseLabelValues_joinValues {values : List String}
    (hvalues : ∀ value ∈ values, IsValue value) (hne : values ≠ []) :
    parseLabelValues ('(' :: joinValues values ++ [')']) = .ok values := by
  have hstrip : (stripPrefix ['('] (trim ('(' :: joinValues values ++ [')']))).bind
      (stripSuffix [')']) = some (joinValues values) := by
    rw [(isTrimmed_parenthesized _).trim_eq, Option.bind_eq_some_iff]
    exact ⟨joinValues values ++ [')'], stripPrefix_eq_some.mpr rfl, stripSuffix_append _ _⟩
  rw [parseLabelValues, hstrip]
  simp only [mapM_splitOn_joinValues hvalues hne]
  exact if_neg hne

/-! ## The separator of a value list -/

/-- The text before the first separator contains none. -/
theorem not_infix_of_splitOnce {sep raw key after : List Char}
    (h : splitOnce sep raw = some (key, after)) (hsep : sep ≠ []) : ¬sep <:+: key := by
  obtain ⟨-, hfirst⟩ := splitOnce_eq_some h
  rintro ⟨a, b, rfl⟩
  refine hfirst (sep ++ b) ⟨a, by simp⟩ (by simp [hsep]) ?_
  exact ⟨b ++ (sep ++ after), by simp⟩

/-- The separator is found behind a key without one, unless the key ends in its letters. -/
theorem splitOnce_in {key : List Char} (hkey : ¬" in ".toList <:+: key)
    (hend : ¬" in".toList <:+ key) (after : List Char) :
    splitOnce " in ".toList (key ++ (" in ".toList ++ after)) = some (key, after) := by
  refine splitOnce_of_first fun v hv hne hstarts => ?_
  have hsep : " in ".toList = [' ', 'i', 'n', ' '] := rfl
  have hletters : " in".toList = [' ', 'i', 'n'] := rfl
  rw [hsep] at hkey hstarts
  rw [hletters] at hend
  -- an earlier occurrence lies in the key or begins in its last three characters
  rcases v with _ | ⟨a, _ | ⟨b, _ | ⟨c, _ | ⟨d, v⟩⟩⟩⟩
  · exact hne rfl
  · simp at hstarts
  · simp at hstarts
  · simp only [List.cons_append, List.nil_append, List.cons_prefix_cons] at hstarts
    obtain ⟨rfl, rfl, rfl, -⟩ := hstarts
    exact hend hv
  · simp only [List.cons_append, List.cons_prefix_cons] at hstarts
    obtain ⟨rfl, rfl, rfl, rfl, -⟩ := hstarts
    exact hkey ((List.prefix_append [' ', 'i', 'n', ' '] v).isInfix.trans hv.isInfix)

/-! ## Printing and parsing again -/

section

variable {formats : TextFormats}

theorem fromTrimmed_label (hformats : formats.ReadsUuids) (raw : List Char) :
    Selector.fromTrimmed formats ("label:".toList ++ raw) = parseLabelSelector raw := by
  rw [fromTrimmed_keyword hformats (by decide) (by decide) (by simp)]
  simp [Selector.fromKeyword, stripPrefix]

/-- A set of label values whose key ends in the letters of the separator. -/
def KeyEndsInSeparator (text : List Char) : Prop :=
  ∃ raw key values, trim text = "label:".toList ++ raw ∧ '=' ∉ raw ∧
    splitOnce " in ".toList raw = some (key, values) ∧ " in".toList <:+ trim key

/-- The printed selector is a canonical text: it parses to the selector, which prints to it. -/
structure PrintsCanonically (formats : TextFormats) (selector : Selector) : Prop where
  parses : Selector.fromStr formats selector.display = .ok selector
  prints : (Selector.fromStr formats selector.display).map Selector.display =
    .ok selector.display

theorem printsCanonically_of_reads (hformats : formats.ReadsUuids) {selector : Selector}
    (htrimmed : IsTrimmed selector.display) (hreads : Reads formats selector.display selector) :
    PrintsCanonically formats selector := by
  have hparses : Selector.fromStr formats selector.display = .ok selector := by
    rw [Selector.fromStr, htrimmed.trim_eq]
    exact (fromTrimmed_eq_ok hformats).mpr hreads
  exact ⟨hparses, by rw [hparses]; rfl⟩

/-- What follows the key of a printed set of label values. -/
def printedValues (values : List String) : List Char := '(' :: joinValues values ++ [')']

/-- A printed set of label values has no equals sign. -/
theorem equals_not_mem_printed {raw key rawValues : List Char} {values : List String}
    {token : String} (hsplit : splitOnce " in ".toList raw = some (key, rawValues))
    (hequals : '=' ∉ raw) (hvalues : parseLabelValues rawValues = .ok values)
    (htoken : token.toList = trim key) :
    '=' ∉ token.toList ++ (" in ".toList ++ printedValues values) := by
  have hraw := (splitOnce_eq_some hsplit).1
  have hafter : ∀ c ∈ rawValues, c ∈ raw := by
    intro c hc
    rw [hraw]
    simp [hc]
  have hjoin : '=' ∉ joinValues values := by
    intro hmem
    rcases mem_joinValues hmem with heq | heq | ⟨value, hmem, hc⟩
    · exact absurd heq (by decide)
    · exact absurd heq (by decide)
    · exact hequals (hafter _ (((isValue_of_parseLabelValues hvalues).2 value hmem).2 _ hc))
  have hkey : '=' ∉ trim key := by
    intro hmem
    refine hequals ?_
    rw [hraw]
    exact List.mem_append_left _ (mem_of_mem_trim hmem)
  rw [htoken]
  simp [printedValues, hkey, hjoin]

/-- A printed label selector. -/
theorem readsLabel_display {raw : List Char} {selector : Selector} (h : ReadsLabel raw selector)
    (hend : ∀ key values, '=' ∉ raw → splitOnce " in ".toList raw = some (key, values) →
      ¬" in".toList <:+ trim key) :
    ∃ raw', selector.display = "label:".toList ++ raw' ∧ ReadsLabel raw' selector ∧
      raw' ≠ [] ∧ ∀ c ∈ raw'.getLast?, isWhitespace c = false := by
  cases h with
  | @eq key rawValue token value hsplit hkey htoken hvalue =>
      obtain ⟨htext, hne⟩ := parseLabelToken_eq_ok.mp htoken
      obtain ⟨hvalueText, hvalueNe⟩ := parseLabelToken_eq_ok.mp hvalue
      have hvalueNe' : value.toList ≠ [] := by rwa [hvalueText]
      refine ⟨token.toList ++ '=' :: value.toList, rfl, ?_, by simp, ?_⟩
      · refine .eq rfl ?_ (parseLabelToken_toList htoken _) (parseLabelToken_toList hvalue _)
        rw [htext]
        exact fun hmem => hkey (mem_of_mem_trim hmem)
      · rw [List.getLast?_append_of_ne_nil _ (List.cons_ne_nil _ _),
          List.getLast?_cons_of_ne_nil hvalueNe', hvalueText]
        exact (isTrimmed_trim rawValue).last
  | @isIn key rawValues token values hequals hsplit hvalues htoken =>
      obtain ⟨htext, hne⟩ := parseLabelToken_eq_ok.mp htoken
      obtain ⟨hvaluesNe, hvalue⟩ := isValue_of_parseLabelValues hvalues
      have hkeyEnd := hend key rawValues hequals hsplit
      have hpart : ¬" in ".toList <:+: trim key := fun hin =>
        not_infix_of_splitOnce hsplit (by decide) (hin.trans (isInfix_trim key))
      refine ⟨token.toList ++ (" in ".toList ++ printedValues values), rfl, ?_, by simp, ?_⟩
      · exact .isIn (equals_not_mem_printed hsplit hequals hvalues htext)
          (htext ▸ splitOnce_in hpart hkeyEnd _)
          (parseLabelValues_joinValues (fun value hmem => (hvalue value hmem).1) hvaluesNe)
          (parseLabelToken_toList htoken _)
      · rw [List.getLast?_append_of_ne_nil _ (by simp), List.getLast?_append_of_ne_nil _
          (by simp [printedValues])]
        exact (isTrimmed_parenthesized _).last

/-- A key that ends in the letters of the separator is cut there when it is read again. -/
theorem parseLabelSelector_display_error {key token : List Char} {values : List String}
    (hkey : ¬" in ".toList <:+: key) (hpart : token <:+: key) (htoken : " in".toList <:+ token)
    (hequals : '=' ∉ token ++ (" in ".toList ++ printedValues values)) :
    parseLabelSelector (token ++ (" in ".toList ++ printedValues values)) =
      .error (.message ("invalid label value list: " ++
        String.ofList ("in ".toList ++ printedValues values))) := by
  obtain ⟨u, rfl⟩ := htoken
  have hu : ¬" in ".toList <:+: u := fun hin =>
    hkey ((hin.trans (List.prefix_append u _).isInfix).trans hpart)
  have hend : ¬" in".toList <:+ u := by
    rintro ⟨v, rfl⟩
    refine hkey (List.IsInfix.trans ?_ hpart)
    exact ⟨v, "in".toList, by simp⟩
  have hsplit := splitOnce_in hu hend ("in ".toList ++ printedValues values)
  have htext : u ++ " in".toList ++ (" in ".toList ++ printedValues values) =
      u ++ (" in ".toList ++ ("in ".toList ++ printedValues values)) := by simp
  have htrimmed : IsTrimmed ("in ".toList ++ printedValues values) :=
    .append (not_isWhitespace_head_cons (by decide)) (by decide) (isTrimmed_parenthesized _).last
      (by simp [printedValues])
  have hvalues : parseLabelValues ("in ".toList ++ printedValues values) =
      .error (.message ("invalid label value list: " ++
        String.ofList ("in ".toList ++ printedValues values))) := by
    have hopen : stripPrefix ['('] ("in ".toList ++ printedValues values) = none :=
      stripPrefix_eq_none (by simp)
    rw [parseLabelValues, htrimmed.trim_eq, hopen, Option.bind_none]
  rw [parseLabelSelector, splitOnce_singleton_eq_none.mpr hequals, htext, hsplit]
  simp only [hvalues]
  rfl

/-- A selector that prints as a keyword and a text. -/
theorem printsCanonically_keyword (hformats : formats.ReadsUuids) {selector : Selector}
    {keyword raw : List Char} (hdisplay : selector.display = keyword ++ raw)
    (hhead : ∀ c ∈ keyword.head?, isWhitespace c = false) (hne : keyword ≠ [])
    (hlast : ∀ c ∈ raw.getLast?, isWhitespace c = false) (hraw : raw ≠ [])
    (hreads : Reads formats (keyword ++ raw) selector) : PrintsCanonically formats selector :=
  printsCanonically_of_reads hformats (hdisplay ▸ .append hhead hne hlast hraw) (hdisplay ▸ hreads)

theorem printsCanonically_id (hformats : formats.ReadsUuids) (uuid : BitVec 128) :
    PrintsCanonically formats (.id ⟨uuid⟩) := by
  have htrimmed := isTrimmed_uuidText uuid
  refine printsCanonically_keyword hformats rfl (not_isWhitespace_head_cons (by decide))
    (by decide) htrimmed.last (uuidText_ne_nil uuid) (.id ?_)
  rw [htrimmed.trim_eq]
  exact hformats.hyphenated uuid

/-- A set of label values whose key ends in the letters of the separator does not print
canonically. -/
theorem not_printsCanonically_of_key (hformats : formats.ReadsUuids) {text : List Char}
    {selector : Selector} (h : Selector.fromStr formats text = .ok selector)
    (hkey : KeyEndsInSeparator text) : ¬PrintsCanonically formats selector := by
  intro hprints
  obtain ⟨raw, key, values, htrim, hequals, hsplit, hend⟩ := hkey
  rw [Selector.fromStr, htrim, fromTrimmed_label hformats] at h
  cases parseLabelSelector_eq_ok.mp h with
  | eq hsplit' => exact hequals (by rw [hsplit']; simp)
  | @isIn key' rawValues token values' hequals' hsplit' hvalues htoken =>
      rw [hsplit] at hsplit'
      cases hsplit'
      obtain ⟨htext, hne⟩ := parseLabelToken_eq_ok.mp htoken
      have hkey := not_infix_of_splitOnce hsplit (by decide)
      have hequals := equals_not_mem_printed hsplit hequals hvalues htext
      have htrimmed : IsTrimmed ("label:".toList ++
          (token.toList ++ (" in ".toList ++ printedValues values'))) := by
        refine .append (not_isWhitespace_head_cons (by decide)) (by decide) ?_ (by simp)
        rw [List.getLast?_append_of_ne_nil _ (by simp),
          List.getLast?_append_of_ne_nil _ (by simp [printedValues])]
        exact (isTrimmed_parenthesized _).last
      -- the printed text is cut at the end of the key, and the values do not parse
      have hparses : Selector.fromTrimmed formats (trim ("label:".toList ++
          (token.toList ++ (" in ".toList ++ printedValues values')))) = .ok _ := hprints.parses
      rw [htrimmed.trim_eq, fromTrimmed_label hformats,
        parseLabelSelector_display_error hkey (htext ▸ isInfix_trim key) (htext ▸ hend) hequals]
        at hparses
      cases hparses

/-- Every other selector prints canonically, one form of the grammar at a time. -/
theorem printsCanonically_of_not_key (hformats : formats.ReadsUuids) {text : List Char}
    {selector : Selector} (h : Selector.fromStr formats text = .ok selector)
    (hnot : ¬KeyEndsInSeparator text) : PrintsCanonically formats selector := by
  have hreads := (fromTrimmed_eq_ok hformats).mp h
  generalize hvalue : trim text = value at hreads
  have htrimmed : IsTrimmed value := hvalue ▸ isTrimmed_trim text
  cases hreads with
  | all => exact printsCanonically_of_reads hformats htrimmed .all
  | @uuid _ uuid _ => exact printsCanonically_id hformats uuid
  | @id _ uuid _ => exact printsCanonically_id hformats uuid
  | @role raw name hname =>
      obtain ⟨htext, hne⟩ := parseLabelToken_eq_ok.mp hname
      exact printsCanonically_keyword hformats rfl
        (not_isWhitespace_head_cons (by decide)) (by decide) (htext ▸ (isTrimmed_trim raw).last)
        (htext ▸ hne) (.role (parseLabelToken_toList hname _))
  | @inNamespace raw slug hslug =>
      obtain ⟨htext, hne⟩ := newNamespace_eq_ok hslug
      refine printsCanonically_keyword hformats rfl
        (not_isWhitespace_head_cons (by decide)) (by decide) (htext ▸ (isTrimmed_trim raw).last)
        (htext ▸ hne) (.inNamespace ?_)
      rw [htext, trim_trim, hslug]
  | @dir raw hne =>
      have htext : (String.ofList (trim raw)).toList = trim raw := String.toList_ofList
      have hreads : Reads formats ("dir:".toList ++ trim raw)
          (.dir (String.ofList (trim raw))) := by
        have hdir : Reads formats ("dir:".toList ++ trim raw)
            (.dir (String.ofList (trim (trim raw)))) := .dir (by rwa [trim_trim])
        rwa [trim_trim] at hdir
      have hdisplay : (Selector.dir (String.ofList (trim raw))).display =
          "dir:".toList ++ trim raw := congrArg ("dir:".toList ++ ·) htext
      exact printsCanonically_keyword hformats hdisplay
        (not_isWhitespace_head_cons (by decide)) (by decide) (isTrimmed_trim raw).last hne hreads
  | @label raw _ hlabel =>
      obtain ⟨raw', hdisplay, hreads, hne, hlast⟩ := readsLabel_display hlabel
        fun key values hequals hsplit hend =>
          hnot ⟨raw, key, values, hvalue, hequals, hsplit, hend⟩
      exact printsCanonically_keyword hformats hdisplay
        (not_isWhitespace_head_cons (by decide)) (by decide) hlast hne (.label hreads)
  | idPrefix hchars hread hnone =>
      -- a prefix prints as it was given
      have hdisplay : selector.display = value := by
        rw [parsePrefixSelector] at hread
        split at hread
        · cases hread
        · cases hread
          exact String.toList_ofList
      exact printsCanonically_of_reads hformats (hdisplay ▸ htrimmed)
        (hdisplay ▸ .idPrefix hchars hread hnone)

/-- Printing a parsed selector gives a canonical text exactly when the text was no set of label
values whose key ends in the letters of the separator. -/
theorem display_parses_iff (hformats : formats.ReadsUuids) {text : List Char}
    {selector : Selector} (h : Selector.fromStr formats text = .ok selector) :
    PrintsCanonically formats selector ↔ ¬KeyEndsInSeparator text := by
  constructor
  · intro hprints hkey
    exact not_printsCanonically_of_key hformats h hkey hprints
  · exact printsCanonically_of_not_key hformats h

end

/-- A role selector with white space in it prints canonically. -/
theorem display_parses_role :
    Selector.fromStr hyphenatedFormats " role: pm ".toList = .ok (.role "pm") ∧
      PrintsCanonically hyphenatedFormats (.role "pm") := by
  have h : Selector.fromStr hyphenatedFormats " role: pm ".toList = .ok (.role "pm") := rfl
  refine ⟨h, (display_parses_iff readsUuids_hyphenatedFormats h).mpr ?_⟩
  rintro ⟨raw, key, values, htrim, -⟩
  have htext : trim " role: pm ".toList = "role: pm".toList := by decide
  rw [htext] at htrim
  cases htrim

/-- A key that was trimmed to the letters of the separator does not parse again. -/
theorem display_parses_in_key :
    ∃ selector, Selector.fromStr hyphenatedFormats "label:a in\t in (x)".toList = .ok selector ∧
      selector.display = "label:a in in (x)".toList ∧
      Selector.fromStr hyphenatedFormats selector.display ≠ .ok selector := by
  have herror : Selector.fromStr hyphenatedFormats "label:a in in (x)".toList =
      .error (.message "invalid label value list: in (x)") := rfl
  refine ⟨.label "a in" (.isIn ["x"]), rfl, rfl, fun h => ?_⟩
  have hdisplay : (Selector.label "a in" (.isIn ["x"])).display = "label:a in in (x)".toList := rfl
  rw [hdisplay, herror] at h
  cases h

end LittleOrgans.Core
