import LittleOrgans.Library.Utf8
import Mathlib.Data.List.Induction
import Mathlib.Tactic.ByContra
import Mathlib.Tactic.SplitIfs

/-!
# Captured panes without escape sequences

`strip_ansi_escapes` of `lilo-rm-core`: a machine over the bytes of a text that
drops escape sequences and keeps the rest, and the check that what it kept is
UTF-8. `none` is the panic of that check.

The machine goes byte by byte, but all bytes of a character that is not ASCII are
alike to it, so it moves character by character (`stripChar`). It takes such a
character apart in one place only: behind an escape inside an operating system
command, where it drops the first byte and keeps the others.
-/

set_option autoImplicit false

namespace LittleOrgans.Core

open LittleOrgans.Library

/-- Where the scanner is. -/
inductive StripState where
  | ground
  | escape
  | csi
  | osc
  | oscEscape
  deriving DecidableEq

/-- `is_csi_final`. -/
def isCsiFinal (byte : UInt8) : Bool := 0x40 ≤ byte ∧ byte ≤ 0x7e

/-- One byte: the next state, and whether the byte is kept. -/
def stripByte (state : StripState) (byte : UInt8) : StripState × Bool :=
  if byte = 0x0a then (.ground, true)
  else
    match state with
    | .ground => if byte = 0x1b then (.escape, false) else (.ground, true)
    | .escape =>
        if byte = 0x5b then (.csi, false)
        else if byte = 0x5d then (.osc, false)
        else if byte = 0x1b then (.escape, false)
        else (.ground, true)
    | .csi =>
        if byte = 0x1b then (.escape, false)
        else if isCsiFinal byte then (.ground, false)
        else (.csi, false)
    | .osc =>
        if byte = 0x07 then (.ground, false)
        else if byte = 0x1b then (.oscEscape, false)
        else (.osc, false)
    | .oscEscape =>
        if byte = 0x5c then (.ground, false)
        else if byte = 0x1b then (.oscEscape, false)
        else if byte = 0x5b then (.csi, false)
        else if byte = 0x5d then (.osc, false)
        else (.ground, false)

/-- The bytes that are kept. -/
def stripBytes : StripState → List UInt8 → List UInt8
  | _, [] => []
  | state, byte :: rest =>
      if (stripByte state byte).2 then byte :: stripBytes (stripByte state byte).1 rest
      else stripBytes (stripByte state byte).1 rest

/-- `strip_ansi_escapes`; `none` is its panic. -/
def stripAnsiEscapes (input : String) : Option String :=
  fromUtf8 (stripBytes .ground (asBytes input))

/-! ## Character by character -/

/-- A byte of a character that is not ASCII. -/
def stripHigh : StripState → StripState × Bool
  | .ground => (.ground, true)
  | .escape => (.ground, true)
  | .csi => (.csi, false)
  | .osc => (.osc, false)
  | .oscEscape => (.ground, false)

/-- One character: the next state, and whether the character is kept. -/
def stripChar (state : StripState) (c : Char) : StripState × Bool :=
  if c.toNat < 0x80 then stripByte state (UInt8.ofNat c.toNat) else stripHigh state

/-- The characters that are kept. -/
def stripChars : StripState → List Char → List Char
  | _, [] => []
  | state, c :: rest =>
      if (stripChar state c).2 then c :: stripChars (stripChar state c).1 rest
      else stripChars (stripChar state c).1 rest

/-- The state behind a text. -/
def stateAfter (state : StripState) (chars : List Char) : StripState :=
  chars.foldl (fun state c => (stripChar state c).1) state

/-- The machine meets a character that is not ASCII behind an escape inside an
operating system command. -/
def Tears (state : StripState) (chars : List Char) : Prop :=
  ∃ before c after, chars = before ++ c :: after ∧ stateAfter state before = .oscEscape ∧
    0x80 ≤ c.toNat

theorem stripByte_high {byte : UInt8} (h : 0x80 ≤ byte) (state : StripState) :
    stripByte state byte = stripHigh state := by
  have hne : ∀ low : UInt8, low < 0x80 → byte ≠ low := by
    intro low hlow heq
    subst heq
    exact absurd hlow (UInt8.not_lt.mpr h)
  have hfinal : isCsiFinal byte = false := by
    refine decide_eq_false fun hbyte => ?_
    exact absurd (UInt8.le_trans h hbyte.2) (by decide)
  rw [stripByte.eq_def, if_neg (hne 0x0a (by decide))]
  cases state with
  | ground => exact if_neg (hne 0x1b (by decide))
  | escape =>
      simp only [if_neg (hne 0x5b (by decide)), if_neg (hne 0x5d (by decide)),
        if_neg (hne 0x1b (by decide)), stripHigh]
  | csi => simp [if_neg (hne 0x1b (by decide)), hfinal, stripHigh]
  | osc =>
      simp only [if_neg (hne 0x07 (by decide)), if_neg (hne 0x1b (by decide)), stripHigh]
  | oscEscape =>
      simp only [if_neg (hne 0x5c (by decide)), if_neg (hne 0x1b (by decide)),
        if_neg (hne 0x5b (by decide)), if_neg (hne 0x5d (by decide)), stripHigh]

theorem stripChar_of_high {c : Char} (h : 0x80 ≤ c.toNat) (state : StripState) :
    stripChar state c = stripHigh state := if_neg (Nat.not_lt.mpr h)

/-- Bytes of a character that is not ASCII, in a state that such a byte does not leave. -/
theorem stripBytes_high {state : StripState} (hstate : (stripHigh state).1 = state)
    {bytes : List UInt8} (h : ∀ byte ∈ bytes, 0x80 ≤ byte) (rest : List UInt8) :
    stripBytes state (bytes ++ rest) =
      (if (stripHigh state).2 then bytes else []) ++ stripBytes state rest := by
  induction bytes with
  | nil => simp
  | cons byte bytes ih =>
      rw [List.forall_mem_cons] at h
      rw [List.cons_append, stripBytes, stripByte_high h.1, hstate, ih h.2]
      split <;> rfl

/-- A character that is not taken apart is kept or dropped whole. -/
theorem stripBytes_char {state : StripState} {c : Char}
    (h : c.toNat < 0x80 ∨ state ≠ .oscEscape) (rest : List UInt8) :
    stripBytes state (String.utf8EncodeChar c ++ rest) =
      (if (stripChar state c).2 then String.utf8EncodeChar c else []) ++
        stripBytes (stripChar state c).1 rest := by
  by_cases hascii : c.toNat < 0x80
  · rw [utf8EncodeChar_ascii hascii, List.singleton_append, stripBytes, stripChar, if_pos hascii]
    split <;> rfl
  · have hhigh : 0x80 ≤ c.toNat := Nat.not_lt.mp hascii
    obtain ⟨lead, next, tail, hchar, -, hbytes⟩ := utf8EncodeChar_not_ascii hhigh
    rw [hchar, stripChar_of_high hhigh]
    cases state with
    | ground => exact stripBytes_high rfl hbytes rest
    | escape =>
        -- the first byte leads back to the ground, where the others are kept
        rw [List.forall_mem_cons] at hbytes
        rw [List.cons_append, stripBytes, stripByte_high hbytes.1]
        exact congrArg (List.cons lead) (stripBytes_high rfl hbytes.2 rest)
    | csi => exact stripBytes_high rfl hbytes rest
    | osc => exact stripBytes_high rfl hbytes rest
    | oscEscape => exact absurd rfl (h.resolve_left hascii)

/-- A character that is taken apart loses its first byte and keeps the second. -/
theorem stripBytes_oscEscape {c : Char} (h : 0x80 ≤ c.toNat) (rest : List UInt8) :
    ∃ next tail, ¬next.IsUTF8FirstByte ∧
      stripBytes .oscEscape (String.utf8EncodeChar c ++ rest) = next :: tail := by
  obtain ⟨lead, next, tail, hchar, hnext, hbytes⟩ := utf8EncodeChar_not_ascii h
  rw [List.forall_mem_cons] at hbytes
  refine ⟨next, tail ++ stripBytes .ground rest, hnext, ?_⟩
  rw [hchar, List.cons_append, stripBytes, stripByte_high hbytes.1]
  exact stripBytes_high rfl hbytes.2 rest

/-- Nothing is torn in an empty text. -/
theorem not_tears_nil (state : StripState) : ¬Tears state [] := by
  rintro ⟨before, c, after, h, -⟩
  cases before <;> cases h

theorem tears_cons {state : StripState} {c : Char} {chars : List Char} :
    Tears state (c :: chars) ↔
      (state = .oscEscape ∧ 0x80 ≤ c.toNat) ∨ Tears (stripChar state c).1 chars := by
  constructor
  · rintro ⟨before, c', after, h, hstate, hhigh⟩
    cases before with
    | nil =>
        cases h
        exact .inl ⟨hstate, hhigh⟩
    | cons first before =>
        cases h
        exact .inr ⟨before, c', after, rfl, hstate, hhigh⟩
  · rintro (⟨hstate, hhigh⟩ | ⟨before, c', after, rfl, hstate, hhigh⟩)
    · exact ⟨[], c, chars, rfl, hstate, hhigh⟩
    · exact ⟨c :: before, c', after, rfl, hstate, hhigh⟩

/-- A text of which no character is torn keeps whole characters. -/
theorem stripBytes_encode {state : StripState} {chars : List Char} (h : ¬Tears state chars) :
    stripBytes state (encode chars) = encode (stripChars state chars) := by
  induction chars generalizing state with
  | nil => rfl
  | cons c chars ih =>
      rw [tears_cons, not_or, not_and_or] at h
      have hwhole : c.toNat < 0x80 ∨ state ≠ .oscEscape := h.1.symm.imp_left Nat.not_le.mp
      rw [encode_cons, stripBytes_char hwhole, ih h.2, stripChars]
      split <;> rfl

/-- A text of which a character is torn keeps bytes that are no text. -/
theorem fromUtf8_stripBytes_of_tears {state : StripState} {chars : List Char}
    (h : Tears state chars) : fromUtf8 (stripBytes state (encode chars)) = none := by
  induction chars generalizing state with
  | nil => exact absurd h (not_tears_nil state)
  | cons c chars ih =>
      by_cases htorn : state = .oscEscape ∧ 0x80 ≤ c.toNat
      · obtain ⟨rfl, hhigh⟩ := htorn
        obtain ⟨next, tail, hnext, hbytes⟩ := stripBytes_oscEscape hhigh (encode chars)
        rw [encode_cons, hbytes]
        exact fromUtf8_continuation hnext tail
      · have hrest := ih ((tears_cons.mp h).resolve_left htorn)
        rw [not_and_or] at htorn
        rw [encode_cons, stripBytes_char (htorn.symm.imp_left Nat.not_le.mp)]
        rw [← Option.not_isSome_iff_eq_none] at hrest ⊢
        split
        · have hone := fromUtf8_encode_append [c] (stripBytes (stripChar state c).1 (encode chars))
          rw [encode_cons, encode_nil, List.append_nil] at hone
          exact fun hsome => hrest (hone.mp hsome)
        · exact hrest

theorem stripChars_sublist (state : StripState) (chars : List Char) :
    (stripChars state chars).Sublist chars := by
  induction chars generalizing state with
  | nil => exact .slnil
  | cons c chars ih =>
      rw [stripChars]
      split
      · exact (ih _).cons_cons c
      · exact (ih _).cons c

/-- Stripping returns the kept characters, unless a character is torn. -/
theorem stripAnsiEscapes_eq_some_iff {input output : String} :
    stripAnsiEscapes input = some output ↔
      ¬Tears .ground input.toList ∧ output = String.ofList (stripChars .ground input.toList) := by
  rw [stripAnsiEscapes, asBytes_eq_encode]
  by_cases h : Tears .ground input.toList
  · simp [fromUtf8_stripBytes_of_tears h, h]
  · rw [stripBytes_encode h, fromUtf8_encode, Option.some_inj]
    simp [h, eq_comm]

/-! ## Where a character is torn -/

/-- `ESC`. -/
def escapeChar : Char := '\x1b'

/-- `BEL`. -/
def bellChar : Char := '\x07'

/-- The text has begun an operating system command, `ESC ]`, and not left it: no
newline, bell or escape follows. -/
def OpensCommand (chars : List Char) : Prop :=
  ∃ before body, chars = before ++ escapeChar :: ']' :: body ∧
    ∀ c ∈ body, c ≠ '\n' ∧ c ≠ bellChar ∧ c ≠ escapeChar

/-- Inside an operating system command, an escape is followed by a character that
is not ASCII. -/
def TearsCharacter (input : List Char) : Prop :=
  ∃ before n c after, OpensCommand before ∧
    input = before ++ List.replicate (n + 1) escapeChar ++ c :: after ∧ 0x80 ≤ c.toNat

/-- An ASCII byte is one character's only. -/
theorem ofNat_toNat_eq_iff {c d : Char} (hc : c.toNat < 0x80) (hd : d.toNat < 0x80) :
    UInt8.ofNat c.toNat = UInt8.ofNat d.toNat ↔ c = d := by
  have hsize : (0x80 : Nat) < UInt8.size := by decide
  rw [← UInt8.toNat_inj, UInt8.toNat_ofNat_of_lt' (Nat.lt_trans hc hsize),
    UInt8.toNat_ofNat_of_lt' (Nat.lt_trans hd hsize)]
  exact Char.toNat_inj

section StripChar

variable {state : StripState} {c : Char}

theorem stripChar_newline (state : StripState) : (stripChar state '\n').1 = .ground := by
  cases state <;> rfl

theorem stripChar_escapeChar (state : StripState) :
    (stripChar state escapeChar).1 =
      if state = .osc ∨ state = .oscEscape then .oscEscape else .escape := by
  cases state <;> rfl

/-- Behind an escape, the next character opens a sequence or is text. -/
theorem stripChar_behind_escape (hstate : state = .escape ∨ state = .oscEscape)
    (hnewline : c ≠ '\n') (hescape : c ≠ escapeChar) :
    (stripChar state c).1 = if c = '[' then .csi else if c = ']' then .osc else .ground := by
  by_cases hc : c.toNat < 0x80
  · have h0a : UInt8.ofNat c.toNat = 0x0a ↔ c = '\n' :=
      ofNat_toNat_eq_iff hc (d := '\n') (by decide)
    have h1b : UInt8.ofNat c.toNat = 0x1b ↔ c = escapeChar :=
      ofNat_toNat_eq_iff hc (d := escapeChar) (by decide)
    have h5b : UInt8.ofNat c.toNat = 0x5b ↔ c = '[' := ofNat_toNat_eq_iff hc (d := '[') (by decide)
    have h5d : UInt8.ofNat c.toNat = 0x5d ↔ c = ']' := ofNat_toNat_eq_iff hc (d := ']') (by decide)
    rw [stripChar, if_pos hc, stripByte.eq_def, if_neg (mt h0a.mp hnewline)]
    rcases hstate with rfl | rfl
    · simp only [h5b, h5d, h1b, hescape, if_false]
      split_ifs <;> rfl
    · simp only [h5b, h5d, h1b, hescape, if_false]
      split_ifs with h5c h5b' h5d' <;> simp_all
  · have hne : ∀ d : Char, d.toNat < 0x80 → c ≠ d := by
      intro d hd heq
      subst heq
      exact hc hd
    rw [stripChar_of_high (Nat.not_lt.mp hc), if_neg (hne '[' (by decide)),
      if_neg (hne ']' (by decide))]
    rcases hstate with rfl | rfl <;> rfl

/-- Inside a command, a character other than newline and escape stays inside, unless
it is a bell. -/
theorem stripChar_osc (hnewline : c ≠ '\n') (hescape : c ≠ escapeChar) :
    (stripChar .osc c).1 = if c = bellChar then .ground else .osc := by
  by_cases hc : c.toNat < 0x80
  · have h0a : UInt8.ofNat c.toNat = 0x0a ↔ c = '\n' :=
      ofNat_toNat_eq_iff hc (d := '\n') (by decide)
    have h1b : UInt8.ofNat c.toNat = 0x1b ↔ c = escapeChar :=
      ofNat_toNat_eq_iff hc (d := escapeChar) (by decide)
    have h07 : UInt8.ofNat c.toNat = 0x07 ↔ c = bellChar :=
      ofNat_toNat_eq_iff hc (d := bellChar) (by decide)
    rw [stripChar, if_pos hc, stripByte.eq_def, if_neg (mt h0a.mp hnewline)]
    simp only [h07, h1b, hescape, if_false]
    split_ifs <;> rfl
  · have hbell : c ≠ bellChar := by
      intro heq
      subst heq
      exact hc (by decide)
    rw [stripChar_of_high (Nat.not_lt.mp hc), if_neg hbell]
    rfl

/-- Outside of a command and not behind an escape, only an escape leads to either. -/
theorem stripChar_text (hstate : state = .ground ∨ state = .csi) (hescape : c ≠ escapeChar) :
    (stripChar state c).1 = .ground ∨ (stripChar state c).1 = .csi := by
  by_cases hc : c.toNat < 0x80
  · have h1b : UInt8.ofNat c.toNat = 0x1b ↔ c = escapeChar :=
      ofNat_toNat_eq_iff hc (d := escapeChar) (by decide)
    rw [stripChar, if_pos hc, stripByte.eq_def]
    split
    · exact .inl rfl
    · rcases hstate with rfl | rfl
      · simp [h1b, hescape]
      · simp only [h1b, hescape, if_false]
        split
        · exact .inl rfl
        · exact .inr rfl
  · rw [stripChar_of_high (Nat.not_lt.mp hc)]
    exact hstate.imp (fun h => by rw [h]; rfl) fun h => by rw [h]; rfl

theorem stripChar_behind_escape_iff :
    (stripChar state c).1 = .escape ∨ (stripChar state c).1 = .oscEscape ↔ c = escapeChar := by
  constructor
  · intro h
    by_contra hescape
    by_cases hnewline : c = '\n'
    · simp [hnewline, stripChar_newline] at h
    · cases state with
      | ground => rcases stripChar_text (.inl rfl) hescape with h' | h' <;> simp [h'] at h
      | escape =>
          rw [stripChar_behind_escape (.inl rfl) hnewline hescape] at h
          split_ifs at h <;> simp at h
      | csi => rcases stripChar_text (.inr rfl) hescape with h' | h' <;> simp [h'] at h
      | osc =>
          rw [stripChar_osc hnewline hescape] at h
          split_ifs at h <;> simp at h
      | oscEscape =>
          rw [stripChar_behind_escape (.inr rfl) hnewline hescape] at h
          split_ifs at h <;> simp at h
  · rintro rfl
    rw [stripChar_escapeChar]
    split
    · exact .inr rfl
    · exact .inl rfl

theorem stripChar_osc_iff :
    (stripChar state c).1 = .osc ↔
      (c = ']' ∧ (state = .escape ∨ state = .oscEscape)) ∨
        (state = .osc ∧ c ≠ '\n' ∧ c ≠ bellChar ∧ c ≠ escapeChar) := by
  by_cases hnewline : c = '\n'
  · subst hnewline
    simp [stripChar_newline]
  by_cases hescape : c = escapeChar
  · subst hescape
    rw [stripChar_escapeChar]
    split_ifs <;> simp [escapeChar]
  cases state with
  | ground => rcases stripChar_text (.inl rfl) hescape with h | h <;> simp [h]
  | escape =>
      rw [stripChar_behind_escape (.inl rfl) hnewline hescape]
      split_ifs with hopen hclose <;> simp_all
  | csi => rcases stripChar_text (.inr rfl) hescape with h | h <;> simp [h]
  | osc =>
      rw [stripChar_osc hnewline hescape]
      split_ifs with hbell <;> simp_all
  | oscEscape =>
      rw [stripChar_behind_escape (.inr rfl) hnewline hescape]
      split_ifs with hopen hclose <;> simp_all

theorem stripChar_oscEscape_iff :
    (stripChar state c).1 = .oscEscape ↔
      c = escapeChar ∧ (state = .osc ∨ state = .oscEscape) := by
  constructor
  · intro h
    have hescape := stripChar_behind_escape_iff.mp (.inr h)
    subst hescape
    rw [stripChar_escapeChar] at h
    split_ifs at h with hstate
    exact ⟨rfl, hstate⟩
  · rintro ⟨rfl, hstate⟩
    rw [stripChar_escapeChar, if_pos hstate]

end StripChar

theorem stateAfter_concat (state : StripState) (chars : List Char) (c : Char) :
    stateAfter state (chars ++ [c]) = (stripChar (stateAfter state chars) c).1 := by
  rw [stateAfter, List.foldl_append]
  rfl

theorem stateAfter_behind_escape_iff {chars : List Char} :
    stateAfter .ground chars = .escape ∨ stateAfter .ground chars = .oscEscape ↔
      ∃ front, chars = front ++ [escapeChar] := by
  induction chars using List.reverseRecOn with
  | nil => simp [stateAfter]
  | append_singleton chars c _ =>
      rw [stateAfter_concat, stripChar_behind_escape_iff]
      simp

/-- The machine is inside a command exactly where the text has begun one. -/
theorem stateAfter_osc_iff {chars : List Char} :
    stateAfter .ground chars = .osc ↔ OpensCommand chars := by
  induction chars using List.reverseRecOn with
  | nil => simp [stateAfter, OpensCommand]
  | append_singleton chars c ih =>
      rw [stateAfter_concat, stripChar_osc_iff, stateAfter_behind_escape_iff, ih]
      constructor
      · rintro (⟨rfl, front, rfl⟩ | ⟨⟨before, body, rfl, hbody⟩, hc⟩)
        · exact ⟨front, [], by simp, by simp⟩
        · refine ⟨before, body ++ [c], by simp, ?_⟩
          rw [List.forall_mem_append, List.forall_mem_singleton]
          exact ⟨hbody, hc⟩
      · rintro ⟨before, body, h, hbody⟩
        -- the last character opens the command or belongs to its body
        induction body using List.reverseRecOn with
        | nil =>
            have h' : chars ++ [c] = (before ++ [escapeChar]) ++ [']'] := by simpa using h
            obtain ⟨rfl, hc⟩ := List.append_inj' h' rfl
            exact .inl ⟨by simpa using hc, before, rfl⟩
        | append_singleton body d _ =>
            have h' : chars ++ [c] = (before ++ escapeChar :: ']' :: body) ++ [d] := by
              simpa using h
            obtain ⟨rfl, hc⟩ := List.append_inj' h' rfl
            cases hc
            rw [List.forall_mem_append, List.forall_mem_singleton] at hbody
            exact .inr ⟨⟨before, body, rfl, hbody.1⟩, hbody.2⟩

/-- Escapes inside a command lead to the state in which a character is torn. -/
theorem stateAfter_oscEscape_iff {chars : List Char} :
    stateAfter .ground chars = .oscEscape ↔
      ∃ before n, OpensCommand before ∧
        chars = before ++ List.replicate (n + 1) escapeChar := by
  induction chars using List.reverseRecOn with
  | nil => simp [stateAfter]
  | append_singleton chars c ih =>
      rw [stateAfter_concat, stripChar_oscEscape_iff, stateAfter_osc_iff, ih]
      constructor
      · rintro ⟨rfl, hopen | ⟨before, n, hopen, rfl⟩⟩
        · exact ⟨chars, 0, hopen, rfl⟩
        · refine ⟨before, n + 1, hopen, ?_⟩
          rw [List.append_assoc, ← List.replicate_succ']
      · rintro ⟨before, n, hopen, h⟩
        rw [List.replicate_succ', ← List.append_assoc] at h
        obtain ⟨rfl, hc⟩ := List.append_inj' h rfl
        refine ⟨by simpa using hc, ?_⟩
        cases n with
        | zero => exact .inl (by simpa using hopen)
        | succ n => exact .inr ⟨before, n, hopen, rfl⟩

theorem tears_ground_iff {chars : List Char} : Tears .ground chars ↔ TearsCharacter chars := by
  constructor
  · rintro ⟨before, c, after, rfl, hstate, hhigh⟩
    obtain ⟨front, n, hopen, rfl⟩ := stateAfter_oscEscape_iff.mp hstate
    exact ⟨front, n, c, after, hopen, rfl, hhigh⟩
  · rintro ⟨before, n, c, after, hopen, rfl, hhigh⟩
    exact ⟨_, c, after, rfl, stateAfter_oscEscape_iff.mpr ⟨before, n, hopen, rfl⟩, hhigh⟩

/-- Stripping returns a subsequence of the characters, without a panic, exactly
when no character is torn. -/
theorem stripAnsiEscapes_subsequence_iff (input : String) :
    (∃ output, stripAnsiEscapes input = some output ∧
        output.toList.Sublist input.toList) ↔ ¬TearsCharacter input.toList := by
  constructor
  · rintro ⟨output, h, -⟩ htears
    exact (stripAnsiEscapes_eq_some_iff.mp h).1 (tears_ground_iff.mpr htears)
  · intro htears
    have hground := mt tears_ground_iff.mp htears
    refine ⟨_, stripAnsiEscapes_eq_some_iff.mpr ⟨hground, rfl⟩, ?_⟩
    rw [String.toList_ofList]
    exact stripChars_sublist _ _

/-- An escape inside a command, then `é`: the check of the kept bytes fails. -/
theorem stripAnsiEscapes_torn :
    ¬∃ output, stripAnsiEscapes "\x1b]0;title\x1bé" = some output ∧
      output.toList.Sublist "\x1b]0;title\x1bé".toList := by
  rintro ⟨output, h, -⟩
  have hopen : OpensCommand "\x1b]0;title".toList :=
    ⟨[], "0;title".toList, rfl, by simp [bellChar, escapeChar]⟩
  refine (stripAnsiEscapes_eq_some_iff.mp h).1 (tears_ground_iff.mpr ?_)
  exact ⟨"\x1b]0;title".toList, 0, 'é', [], hopen, rfl, by decide⟩

end LittleOrgans.Core
