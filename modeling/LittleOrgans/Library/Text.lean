import Mathlib.Data.List.DropRight

/-!
# Texts

A text is the list of its characters. White space is trimmed from its ends, a prefix or a
suffix is taken off, and it is split at the first occurrence of a separator.

`splitOnce_of_first` and `splitOnce_eq_some` say where the first occurrence is: no earlier
suffix of the part before it begins with the separator.
-/

set_option autoImplicit false

namespace LittleOrgans.Library

universe u

/-! ## White space -/

/-- `char::is_whitespace`. -/
def isWhitespace (c : Char) : Bool :=
  (0x09 ≤ c.toNat ∧ c.toNat ≤ 0x0d) ∨ (0x2000 ≤ c.toNat ∧ c.toNat ≤ 0x200a) ∨
    c.toNat ∈ [0x20, 0x85, 0xa0, 0x1680, 0x2028, 0x2029, 0x202f, 0x205f, 0x3000]

/-- `str::trim`. -/
def trim (text : List Char) : List Char :=
  (text.dropWhile isWhitespace).rdropWhile isWhitespace

/-- `str::trim_end`. -/
def trimEnd (text : List Char) : List Char := text.rdropWhile isWhitespace

/-- Neither end is white space. -/
structure IsTrimmed (text : List Char) : Prop where
  head : ∀ c ∈ text.head?, isWhitespace c = false
  last : ∀ c ∈ text.getLast?, isWhitespace c = false

theorem rdropWhile_append_of_ne_nil {α : Type u} {p : α → Bool} {a b : List α}
    (h : b.rdropWhile p ≠ []) : (a ++ b).rdropWhile p = a ++ b.rdropWhile p := by
  have hreverse : b.reverse.dropWhile p ≠ [] := by
    intro hnil
    exact h (by rw [List.rdropWhile, hnil, List.reverse_nil])
  have hempty : (b.reverse.dropWhile p).isEmpty = false := by
    cases hdrop : b.reverse.dropWhile p with
    | nil => exact absurd hdrop hreverse
    | cons c rest => rfl
  rw [List.rdropWhile, List.reverse_append, List.dropWhile_append, hempty]
  simp [List.rdropWhile]

theorem dropWhile_of_head {α : Type u} {p : α → Bool} {text : List α}
    (h : ∀ c ∈ text.head?, p c = false) : text.dropWhile p = text := by
  cases text with
  | nil => rfl
  | cons c rest => rw [List.dropWhile_cons_of_neg (by simp [h c rfl])]

theorem rdropWhile_of_last {α : Type u} {p : α → Bool} {text : List α}
    (h : ∀ c ∈ text.getLast?, p c = false) : text.rdropWhile p = text := by
  rw [List.rdropWhile_eq_self_iff]
  intro hne
  rw [Bool.not_eq_true]
  exact h _ (List.getLast?_eq_some_getLast hne)

theorem IsTrimmed.trim_eq {text : List Char} (h : IsTrimmed text) : trim text = text := by
  rw [trim, dropWhile_of_head h.head, rdropWhile_of_last h.last]

/-- The head of a dropped list fails the test. -/
theorem not_of_mem_head?_dropWhile {α : Type u} {p : α → Bool} {text : List α} {c : α}
    (h : c ∈ (text.dropWhile p).head?) : p c = false := by
  cases hdrop : text.dropWhile p with
  | nil =>
      rw [hdrop] at h
      cases h
  | cons d rest =>
      rw [hdrop, List.head?_cons, Option.mem_def, Option.some_inj] at h
      subst h
      have hne : text.dropWhile p ≠ [] := by
        rw [hdrop]
        exact List.cons_ne_nil d rest
      simpa [hdrop] using List.head_dropWhile_not p hne

theorem not_of_mem_getLast?_rdropWhile {α : Type u} {p : α → Bool} {text : List α} {c : α}
    (h : c ∈ (text.rdropWhile p).getLast?) : p c = false := by
  rw [List.rdropWhile, List.getLast?_reverse] at h
  exact not_of_mem_head?_dropWhile h

/-- What trimming leaves is trimmed. -/
theorem isTrimmed_trim (text : List Char) : IsTrimmed (trim text) where
  head c hc := by
    have hsub : trim text <+: text.dropWhile isWhitespace := List.rdropWhile_prefix _ _
    suffices h : c ∈ (text.dropWhile isWhitespace).head? from not_of_mem_head?_dropWhile h
    obtain ⟨rest, hrest⟩ := hsub
    cases htrim : trim text with
    | nil =>
        rw [htrim] at hc
        cases hc
    | cons d more =>
        rw [htrim] at hc hrest
        rw [← hrest]
        exact hc
  last c hc := not_of_mem_getLast?_rdropWhile hc

@[simp]
theorem trim_trim (text : List Char) : trim (trim text) = trim text :=
  (isTrimmed_trim text).trim_eq

theorem isInfix_trim (text : List Char) : trim text <:+: text :=
  (List.rdropWhile_prefix isWhitespace _).isInfix.trans
    (List.dropWhile_suffix isWhitespace).isInfix

theorem mem_of_mem_trim {text : List Char} {c : Char} (h : c ∈ trim text) : c ∈ text :=
  (isInfix_trim text).subset h

/-- Trimming the end of a text trims the end of its last part. -/
theorem trimEnd_append {a b : List Char} (h : trim b ≠ []) :
    ∃ rest, trimEnd (a ++ b) = rest ++ trim b := by
  refine ⟨a ++ b.takeWhile isWhitespace, ?_⟩
  have hsplit : a ++ b = (a ++ b.takeWhile isWhitespace) ++ b.dropWhile isWhitespace := by
    rw [List.append_assoc, List.takeWhile_append_dropWhile]
  rw [trimEnd, hsplit]
  exact rdropWhile_append_of_ne_nil h

/-- White space in front is trimmed. -/
theorem trim_cons_of_isWhitespace {c : Char} (h : isWhitespace c = true) (text : List Char) :
    trim (c :: text) = trim text := by
  rw [trim, List.dropWhile_cons_of_pos h, ← trim]

/-- A text that begins with a character other than white space. -/
theorem not_isWhitespace_head_cons {c : Char} {rest : List Char} (h : isWhitespace c = false) :
    ∀ d ∈ (c :: rest).head?, isWhitespace d = false := by
  intro d hd
  rw [List.head?_cons, Option.mem_some_iff] at hd
  rw [← hd]
  exact h

/-- Two nonempty texts put together: the ends are those of the first and of the second. -/
theorem IsTrimmed.append {a b : List Char} (ha : ∀ c ∈ a.head?, isWhitespace c = false)
    (hne : a ≠ []) (hb : ∀ c ∈ b.getLast?, isWhitespace c = false) (hbne : b ≠ []) :
    IsTrimmed (a ++ b) where
  head c hc := ha c (by rwa [List.head?_append_of_ne_nil a hne] at hc)
  last c hc := hb c (by rwa [List.getLast?_append_of_ne_nil a hbne] at hc)

/-- A text has at least as many bytes as characters. -/
theorem length_le_utf8ByteSize (text : List Char) :
    text.length ≤ (String.ofList text).utf8ByteSize := by
  induction text with
  | nil => exact Nat.zero_le _
  | cons c rest ih =>
      have hpos := c.utf8Size_pos
      rw [String.ofList_cons, String.utf8ByteSize_append, String.utf8ByteSize_singleton,
        List.length_cons]
      omega

/-! ## Pieces between separators -/

/-- No piece between separators contains one. -/
theorem not_mem_of_mem_splitOn {α : Type} [BEq α] [LawfulBEq α] {sep : α} {xs piece : List α}
    (h : piece ∈ xs.splitOn sep) : sep ∉ piece := by
  induction xs generalizing piece with
  | nil =>
      rw [List.splitOn_nil, List.mem_singleton] at h
      subst h
      exact List.not_mem_nil
  | cons x xs ih =>
      have ih : ∀ piece ∈ xs.splitOn sep, sep ∉ piece := fun piece hpiece => ih hpiece
      rw [List.splitOn_cons_eq_if_modifyHead] at h
      split at h
      · rcases List.mem_cons.mp h with rfl | h
        · exact List.not_mem_nil
        · exact ih piece h
      · next hx =>
          obtain ⟨first, rest, hsplit⟩ := List.exists_cons_of_ne_nil (List.splitOn_ne_nil sep xs)
          rw [hsplit, List.modifyHead_cons] at h
          rw [hsplit, List.forall_mem_cons] at ih
          rcases List.mem_cons.mp h with rfl | h
          · rw [List.mem_cons, not_or]
            exact ⟨fun heq => hx (by simp [heq]), ih.1⟩
          · exact ih.2 piece h

/-- The pieces are parts of the text. -/
theorem mem_of_mem_splitOn {α : Type u} [BEq α] [LawfulBEq α] {sep : α} {xs piece : List α}
    (h : piece ∈ xs.splitOn sep) {x : α} (hx : x ∈ piece) : x ∈ xs := by
  induction xs generalizing piece with
  | nil =>
      rw [List.splitOn_nil, List.mem_singleton] at h
      subst h
      exact hx
  | cons y xs ih =>
      rw [List.splitOn_cons_eq_if_modifyHead] at h
      split at h
      · rcases List.mem_cons.mp h with rfl | h
        · cases hx
        · exact List.mem_cons_of_mem y (ih h hx)
      · obtain ⟨first, rest, hsplit⟩ := List.exists_cons_of_ne_nil (List.splitOn_ne_nil sep xs)
        rw [hsplit, List.modifyHead_cons] at h
        rcases List.mem_cons.mp h with rfl | h
        · rcases List.mem_cons.mp hx with rfl | hx
          · exact List.mem_cons_self
          · exact List.mem_cons_of_mem y (ih (by rw [hsplit]; exact List.mem_cons_self) hx)
        · exact List.mem_cons_of_mem y (ih (by rw [hsplit]; exact List.mem_cons_of_mem first h) hx)

/-! ## Prefixes and suffixes -/

section Pieces

variable {α : Type u} [DecidableEq α]

/-- `str::strip_prefix`. -/
def stripPrefix (expected text : List α) : Option (List α) :=
  if expected.isPrefixOf text then some (text.drop expected.length) else none

/-- `str::strip_suffix`. -/
def stripSuffix (expected text : List α) : Option (List α) :=
  if expected.isSuffixOf text then some (text.take (text.length - expected.length)) else none

@[simp]
theorem stripPrefix_append (expected text : List α) :
    stripPrefix expected (expected ++ text) = some text := by
  simp [stripPrefix]

theorem stripPrefix_eq_some {expected text rest : List α} :
    stripPrefix expected text = some rest ↔ text = expected ++ rest := by
  constructor
  · intro h
    rw [stripPrefix] at h
    split at h
    · next hstarts =>
        obtain ⟨more, rfl⟩ := List.isPrefixOf_iff_prefix.mp hstarts
        rw [List.drop_left, Option.some_inj] at h
        rw [h]
    · cases h
  · rintro rfl
    exact stripPrefix_append expected rest

theorem stripPrefix_eq_none {expected text : List α} (h : ¬expected <+: text) :
    stripPrefix expected text = none := by
  rw [stripPrefix, if_neg]
  exact fun hstarts => h (List.isPrefixOf_iff_prefix.mp hstarts)

@[simp]
theorem stripSuffix_append (expected text : List α) :
    stripSuffix expected (text ++ expected) = some text := by
  simp [stripSuffix, List.isSuffixOf_iff_suffix]

theorem stripSuffix_eq_some {expected text rest : List α} :
    stripSuffix expected text = some rest ↔ text = rest ++ expected := by
  constructor
  · intro h
    rw [stripSuffix] at h
    split at h
    · next hsuffix =>
        obtain ⟨more, rfl⟩ := List.isSuffixOf_iff_suffix.mp hsuffix
        rw [List.length_append, Nat.add_sub_cancel, List.take_left, Option.some_inj] at h
        rw [h]
    · cases h
  · rintro rfl
    exact stripSuffix_append expected rest

theorem stripSuffix_eq_none {expected text : List α} :
    stripSuffix expected text = none ↔ ¬expected <:+ text := by
  rw [stripSuffix, ← List.isSuffixOf_iff_suffix]
  split <;> simp_all

/-! ## The first occurrence of a separator -/

/-- `str::split_once`. -/
def splitOnce (sep : List α) : List α → Option (List α × List α)
  | [] => if sep = [] then some ([], []) else none
  | c :: rest =>
      match stripPrefix sep (c :: rest) with
      | some after => some ([], after)
      | none => (splitOnce sep rest).map fun parts => (c :: parts.1, parts.2)

/-- The separator at its first occurrence. -/
theorem splitOnce_of_first {sep before after : List α}
    (h : ∀ v, v <:+ before → v ≠ [] → ¬sep <+: v ++ (sep ++ after)) :
    splitOnce sep (before ++ (sep ++ after)) = some (before, after) := by
  induction before with
  | nil =>
      rw [List.nil_append]
      cases htext : sep ++ after with
      | nil =>
          obtain ⟨rfl, rfl⟩ := List.append_eq_nil_iff.mp htext
          rfl
      | cons c rest => rw [splitOnce, ← htext, stripPrefix_append]
  | cons c before ih =>
      have hhere := stripPrefix_eq_none (h (c :: before) (List.suffix_refl _) (by simp))
      have hrest := ih fun v hv => h v (hv.trans (List.suffix_cons c before))
      rw [List.cons_append] at hhere ⊢
      rw [splitOnce, hhere, hrest]
      rfl

/-- What the split finds is an occurrence, and the first one. -/
theorem splitOnce_eq_some {sep text before after : List α}
    (h : splitOnce sep text = some (before, after)) :
    text = before ++ (sep ++ after) ∧
      ∀ v, v <:+ before → v ≠ [] → ¬sep <+: v ++ (sep ++ after) := by
  induction text generalizing before with
  | nil =>
      rw [splitOnce] at h
      split at h
      · next hsep =>
          cases h
          subst hsep
          exact ⟨rfl, fun v hv hne => absurd (List.suffix_nil.mp hv) hne⟩
      · cases h
  | cons c rest ih =>
      rw [splitOnce] at h
      split at h
      · next hstrip =>
          cases h
          rw [stripPrefix_eq_some] at hstrip
          exact ⟨hstrip, fun v hv hne => absurd (List.suffix_nil.mp hv) hne⟩
      · next hnone =>
          obtain ⟨parts, hparts, heq⟩ := Option.map_eq_some_iff.mp h
          cases heq
          obtain ⟨hrest, hfirst⟩ := ih hparts
          refine ⟨by rw [List.cons_append, ← hrest], fun v hv hne => ?_⟩
          rcases List.suffix_cons_iff.mp hv with rfl | hv
          · rintro ⟨more, hmore⟩
            rw [List.cons_append, ← hrest] at hmore
            rw [← hmore, stripPrefix_append] at hnone
            cases hnone
          · exact hfirst v hv hne

theorem splitOnce_eq_none {sep text : List α} (hsep : sep ≠ []) :
    splitOnce sep text = none ↔ ¬sep <:+: text := by
  induction text with
  | nil => simp [splitOnce, hsep]
  | cons c rest ih =>
      rw [splitOnce, List.infix_cons_iff]
      cases hstrip : stripPrefix sep (c :: rest) with
      | some after =>
          rw [stripPrefix_eq_some] at hstrip
          simp [hstrip]
      | none =>
          have hstarts : ¬sep <+: c :: rest := by
            rintro ⟨more, hmore⟩
            rw [← hmore, stripPrefix_append] at hstrip
            cases hstrip
          simp [ih, hstarts]

/-- A separator of one character. -/
theorem splitOnce_singleton {sep : α} {text before after : List α} :
    splitOnce [sep] text = some (before, after) ↔
      text = before ++ sep :: after ∧ sep ∉ before := by
  constructor
  · intro h
    obtain ⟨htext, hfirst⟩ := splitOnce_eq_some h
    refine ⟨htext, fun hmem => ?_⟩
    obtain ⟨u, v, rfl⟩ := List.append_of_mem hmem
    exact hfirst (sep :: v) (List.suffix_append u (sep :: v)) (by simp) (by simp)
  · rintro ⟨rfl, hmem⟩
    suffices hfirst : ∀ v, v <:+ before → v ≠ [] → ¬[sep] <+: v ++ ([sep] ++ after) from
      splitOnce_of_first hfirst
    intro v hv hne hstarts
    cases v with
    | nil => exact hne rfl
    | cons c v =>
        rw [List.cons_append, List.cons_prefix_cons] at hstarts
        exact hmem (hv.subset (by simp [hstarts.1]))

theorem splitOnce_singleton_eq_none {sep : α} {text : List α} :
    splitOnce [sep] text = none ↔ sep ∉ text := by
  rw [splitOnce_eq_none (List.cons_ne_nil sep [])]
  refine not_congr ⟨fun h => h.subset (List.mem_singleton_self sep), fun h => ?_⟩
  obtain ⟨before, after, rfl⟩ := List.append_of_mem h
  exact ⟨before, after, by simp⟩

/-! ## The last occurrence of a separator -/

/-- `str::rsplit_once` with a separator of one character. -/
def rsplitOnce (sep : α) (text : List α) : Option (List α × List α) :=
  (splitOnce [sep] text.reverse).map fun parts => (parts.2.reverse, parts.1.reverse)

theorem rsplitOnce_eq_some {sep : α} {text before after : List α} :
    rsplitOnce sep text = some (before, after) ↔
      text = before ++ sep :: after ∧ sep ∉ after := by
  rw [rsplitOnce, Option.map_eq_some_iff]
  constructor
  · rintro ⟨⟨left, right⟩, hsplit, hparts⟩
    cases hparts
    obtain ⟨htext, hmem⟩ := splitOnce_singleton.mp hsplit
    refine ⟨?_, by simpa using hmem⟩
    rw [← List.reverse_inj, htext]
    simp
  · rintro ⟨rfl, hmem⟩
    refine ⟨(after.reverse, before.reverse), splitOnce_singleton.mpr ⟨?_, by simpa using hmem⟩, ?_⟩
    · simp
    · simp

end Pieces

end LittleOrgans.Library
