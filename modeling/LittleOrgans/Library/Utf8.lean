import Mathlib.Logic.Basic

/-!
# Bytes and characters

The UTF-8 encoding of a list of characters as a list of bytes, and strict decoding.
An encoded character is one byte below `0x80`, or two or more bytes from `0x80` on,
of which only the first can begin a character. So decoding goes on behind a whole
character (`fromUtf8_encode_append`) and fails inside of one (`fromUtf8_continuation`).
-/

set_option autoImplicit false

namespace LittleOrgans.Library

/-- The bytes of characters. -/
def encode (chars : List Char) : List UInt8 := chars.flatMap String.utf8EncodeChar

/-- The bytes of a string. -/
def asBytes (s : String) : List UInt8 := s.toByteArray.data.toList

/-- The string a list of bytes encodes; `none` where it encodes none. -/
def fromUtf8 (bytes : List UInt8) : Option String := String.fromUTF8? bytes.toByteArray

@[simp]
theorem encode_nil : encode [] = [] := rfl

@[simp]
theorem encode_cons (c : Char) (chars : List Char) :
    encode (c :: chars) = String.utf8EncodeChar c ++ encode chars := rfl

@[simp]
theorem encode_append (chars chars' : List Char) :
    encode (chars ++ chars') = encode chars ++ encode chars' := List.flatMap_append

theorem toByteArray_encode (chars : List Char) :
    (encode chars).toByteArray = chars.utf8Encode := rfl

theorem asBytes_eq_encode (s : String) : asBytes s = encode s.toList := by
  rw [asBytes, ← String.utf8Encode_toList, ← toByteArray_encode, List.data_toByteArray]

theorem fromUtf8_eq_some_iff {bytes : List UInt8} {s : String} :
    fromUtf8 bytes = some s ↔ bytes = encode s.toList := by
  rw [fromUtf8, String.fromUTF8?]
  constructor
  · intro h
    split at h
    · cases h
      rw [← asBytes_eq_encode, asBytes, String.fromUTF8, List.data_toByteArray]
    · cases h
  · rintro rfl
    rw [toByteArray_encode, dif_pos ByteArray.isValidUTF8_utf8Encode, Option.some_inj,
      ← String.toByteArray_inj]
    exact String.utf8Encode_toList

@[simp]
theorem fromUtf8_encode (chars : List Char) :
    fromUtf8 (encode chars) = some (String.ofList chars) := by
  rw [fromUtf8_eq_some_iff, String.toList_ofList]

theorem isSome_fromUtf8_iff {bytes : List UInt8} :
    (fromUtf8 bytes).isSome ↔ bytes.toByteArray.IsValidUTF8 := by
  rw [fromUtf8, String.fromUTF8?]
  split <;> simp_all

/-- Behind whole characters, decoding goes on as at the start. -/
theorem fromUtf8_encode_append (chars : List Char) (bytes : List UInt8) :
    (fromUtf8 (encode chars ++ bytes)).isSome ↔ (fromUtf8 bytes).isSome := by
  induction chars with
  | nil => rfl
  | cons c chars ih =>
      rw [← ih, isSome_fromUtf8_iff, isSome_fromUtf8_iff, encode_cons, List.append_assoc,
        List.toByteArray_append, ← List.utf8Encode_singleton]
      exact ByteArray.isValidUTF8_utf8Encode_singleton_append_iff

/-- A byte that cannot begin a character does not begin a string. -/
theorem fromUtf8_continuation {byte : UInt8} (h : ¬byte.IsUTF8FirstByte) (rest : List UInt8) :
    fromUtf8 (byte :: rest) = none := by
  refine Option.not_isSome_iff_eq_none.mp fun hsome => h ?_
  have hvalid := isSome_fromUtf8_iff.mp hsome
  have hsize : 0 < (byte :: rest).toByteArray.size := by simp
  have hfirst := hvalid.isUTF8FirstByte_getElem_zero hsize
  rwa [List.getElem_toByteArray] at hfirst

/-! ## One character -/

/-- An ASCII character is encoded as itself. -/
theorem utf8EncodeChar_ascii {c : Char} (h : c.toNat < 0x80) :
    String.utf8EncodeChar c = [UInt8.ofNat c.toNat] := by
  have h' : c.val.toNat ≤ 0x7f := Nat.le_of_lt_succ h
  rw [String.utf8EncodeChar, if_pos h']
  rfl

/-- The bytes of another character are not ASCII. -/
theorem utf8EncodeChar_high {c : Char} (h : ¬c.val.toNat ≤ 0x7f) :
    ∀ byte ∈ String.utf8EncodeChar c, (0x80 : UInt8) ≤ byte := by
  have hhigh : ∀ n m : Nat, 0x80 ≤ m → n + m < 0x100 → (0x80 : UInt8) ≤ UInt8.ofNat (n + m) := by
    intro n m hm hlt
    rw [UInt8.le_iff_toNat_le, UInt8.toNat_ofNat_of_lt' hlt]
    exact Nat.le_trans hm (Nat.le_add_left m n)
  intro byte hbyte
  rw [String.utf8EncodeChar, if_neg h] at hbyte
  split at hbyte
  · simp only [List.mem_cons, List.not_mem_nil, or_false] at hbyte
    rcases hbyte with rfl | rfl <;> refine hhigh _ _ ?_ ?_ <;> omega
  · split at hbyte
    · simp only [List.mem_cons, List.not_mem_nil, or_false] at hbyte
      rcases hbyte with rfl | rfl | rfl <;> refine hhigh _ _ ?_ ?_ <;> omega
    · simp only [List.mem_cons, List.not_mem_nil, or_false] at hbyte
      rcases hbyte with rfl | rfl | rfl | rfl <;> refine hhigh _ _ ?_ ?_ <;> omega

/-- Another character takes a first byte and at least one that cannot begin a
character, none of them ASCII. -/
theorem utf8EncodeChar_not_ascii {c : Char} (h : 0x80 ≤ c.toNat) :
    ∃ lead next rest, String.utf8EncodeChar c = lead :: next :: rest ∧
      ¬next.IsUTF8FirstByte ∧ ∀ byte ∈ lead :: next :: rest, 0x80 ≤ byte := by
  have h' : ¬c.val.toNat ≤ 0x7f := Nat.not_le.mpr h
  have hbytes := utf8EncodeChar_high h'
  have hfirst : ∀ i (hi : i < (String.utf8EncodeChar c).length),
      (String.utf8EncodeChar c)[i].IsUTF8FirstByte ↔ i = 0 :=
    fun i hi => UInt8.isUTF8FirstByte_getElem_utf8EncodeChar
  have hlength : 2 ≤ (String.utf8EncodeChar c).length := by
    rw [String.utf8EncodeChar, if_neg h']
    split
    · simp
    · split <;> simp
  match hchar : String.utf8EncodeChar c with
  | [] => simp [hchar] at hlength
  | [_] => simp [hchar] at hlength
  | lead :: next :: rest =>
      rw [hchar] at hbytes
      refine ⟨lead, next, rest, rfl, fun hnext => ?_, hbytes⟩
      -- only the byte at index 0 begins a character
      have hone := hfirst 1 (by rw [hchar]; simp)
      simp only [hchar, List.getElem_cons_succ, List.getElem_cons_zero] at hone
      exact Nat.one_ne_zero (hone.mp hnext)

/-! ## Lossy decoding -/

/-- The character the bytes begin with. -/
def decodeChar? (bytes : List UInt8) : Option Char := bytes.toByteArray.utf8DecodeChar? 0

/-- `lead` announces a character of three or four bytes that `second` can continue. -/
def continues (lead second : UInt8) : Bool :=
  (lead = 0xe0 ∧ 0xa0 ≤ second ∧ second ≤ 0xbf) ∨
    (0xe1 ≤ lead ∧ lead ≤ 0xec ∧ 0x80 ≤ second ∧ second ≤ 0xbf) ∨
    (lead = 0xed ∧ 0x80 ≤ second ∧ second ≤ 0x9f) ∨
    (0xee ≤ lead ∧ lead ≤ 0xef ∧ 0x80 ≤ second ∧ second ≤ 0xbf) ∨
    (lead = 0xf0 ∧ 0x90 ≤ second ∧ second ≤ 0xbf) ∨
    (0xf1 ≤ lead ∧ lead ≤ 0xf3 ∧ 0x80 ≤ second ∧ second ≤ 0xbf) ∨
    (lead = 0xf4 ∧ 0x80 ≤ second ∧ second ≤ 0x8f)

/-- How many bytes one replacement character stands for, where the bytes begin
with no character: the beginning of a character that breaks off, or one byte. -/
def invalidLength : List UInt8 → Nat
  | lead :: second :: rest =>
      if continues lead second then
        match rest with
        | third :: _ => if 0xf0 ≤ lead ∧ 0x80 ≤ third ∧ third ≤ 0xbf then 3 else 2
        | [] => 2
      else 1
  | [_] => 1
  | [] => 1

theorem invalidLength_pos (bytes : List UInt8) : 0 < invalidLength bytes := by
  unfold invalidLength
  grind

/-- `to_string_lossy`: what is no character is replaced. -/
def fromUtf8Lossy (bytes : List UInt8) : List Char :=
  if bytes = [] then []
  else
    match decodeChar? bytes with
    | some c => c :: fromUtf8Lossy (bytes.drop c.utf8Size)
    | none => '\uFFFD' :: fromUtf8Lossy (bytes.drop (invalidLength bytes))
termination_by bytes.length
decreasing_by
  · have hpos := List.length_pos_iff.mpr ‹¬bytes = []›
    have hsize := c.utf8Size_pos
    simp only [List.length_drop]
    omega
  · have hpos := List.length_pos_iff.mpr ‹¬bytes = []›
    have hsize := invalidLength_pos bytes
    simp only [List.length_drop]
    omega

theorem decodeChar?_eq_some_iff {bytes : List UInt8} {c : Char} :
    decodeChar? bytes = some c ↔ ∃ rest, bytes = String.utf8EncodeChar c ++ rest := by
  constructor
  · intro h
    obtain ⟨rest, hrest⟩ := ByteArray.exists_of_utf8DecodeChar?_eq_some h
    refine ⟨rest.data.toList, ?_⟩
    have hdata := congrArg (fun b => b.data.toList) hrest
    simpa using hdata
  · rintro ⟨rest, rfl⟩
    rw [decodeChar?, List.toByteArray_append]
    exact ByteArray.utf8DecodeChar?_utf8EncodeChar_append

theorem fromUtf8Lossy_nil : fromUtf8Lossy [] = [] := by
  rw [fromUtf8Lossy, if_pos rfl]

theorem fromUtf8Lossy_char_append (c : Char) (rest : List UInt8) :
    fromUtf8Lossy (String.utf8EncodeChar c ++ rest) = c :: fromUtf8Lossy rest := by
  have hne : String.utf8EncodeChar c ++ rest ≠ [] := by
    have hlength := String.length_utf8EncodeChar c
    have hpos := c.utf8Size_pos
    intro h
    rw [(List.append_eq_nil_iff.mp h).1] at hlength
    simp at hlength
    omega
  rw [fromUtf8Lossy, if_neg hne, decodeChar?_eq_some_iff.mpr ⟨rest, rfl⟩]
  simp only
  rw [← String.length_utf8EncodeChar c, List.drop_left]

/-- Lossy decoding gives back the characters that were encoded. -/
@[simp]
theorem fromUtf8Lossy_encode (chars : List Char) : fromUtf8Lossy (encode chars) = chars := by
  induction chars with
  | nil => exact fromUtf8Lossy_nil
  | cons c chars ih => rw [encode_cons, fromUtf8Lossy_char_append, ih]

/-- Lossy decoding loses nothing exactly where the bytes are UTF-8. -/
theorem encode_fromUtf8Lossy_iff {bytes : List UInt8} :
    encode (fromUtf8Lossy bytes) = bytes ↔ (fromUtf8 bytes).isSome := by
  constructor
  · intro h
    rw [← h, fromUtf8_encode]
    rfl
  · intro h
    obtain ⟨s, hs⟩ := Option.isSome_iff_exists.mp h
    rw [fromUtf8_eq_some_iff.mp hs, fromUtf8Lossy_encode]

theorem fromUtf8Lossy_ne_nil {bytes : List UInt8} (h : bytes ≠ []) : fromUtf8Lossy bytes ≠ [] := by
  rw [fromUtf8Lossy, if_neg h]
  split <;> exact List.cons_ne_nil _ _

/-- An ASCII character of the decoded text is a byte of the source. -/
theorem mem_of_mem_fromUtf8Lossy {c : Char} (hc : c.toNat < 0x80) {bytes : List UInt8}
    (h : c ∈ fromUtf8Lossy bytes) : UInt8.ofNat c.toNat ∈ bytes := by
  fun_induction fromUtf8Lossy bytes with
  | case1 => cases h
  | case2 bytes hne d hd ih =>
      rcases List.mem_cons.mp h with rfl | h
      · obtain ⟨rest, rfl⟩ := decodeChar?_eq_some_iff.mp hd
        rw [utf8EncodeChar_ascii hc]
        exact List.mem_cons_self
      · exact List.mem_of_mem_drop (ih h)
  | case3 bytes hne hd ih =>
      rcases List.mem_cons.mp h with rfl | h
      · exact absurd hc (by decide)
      · exact List.mem_of_mem_drop (ih h)

/-! ## Separators -/

/-- An ASCII byte of encoded characters is one of the characters. -/
theorem mem_of_mem_encode {c : Char} (hc : c.toNat < 0x80) {chars : List Char}
    (h : UInt8.ofNat c.toNat ∈ encode chars) : c ∈ chars := by
  obtain ⟨d, hd, hbyte⟩ := List.mem_flatMap.mp h
  have hsmall : (UInt8.ofNat c.toNat).toNat = c.toNat :=
    UInt8.toNat_ofNat_of_lt' (Nat.lt_trans hc (by decide))
  by_cases hascii : d.toNat < 0x80
  · rw [utf8EncodeChar_ascii hascii, List.mem_singleton] at hbyte
    have hsame : (UInt8.ofNat d.toNat).toNat = d.toNat :=
      UInt8.toNat_ofNat_of_lt' (Nat.lt_trans hascii (by decide))
    have heq : c.toNat = d.toNat := by rw [← hsmall, ← hsame, hbyte]
    obtain rfl : c = d := Char.toNat_inj.mp heq
    exact hd
  · have hhigh := utf8EncodeChar_high (c := d) (fun h => hascii (Nat.lt_succ_of_le h)) _ hbyte
    rw [UInt8.le_iff_toNat_le, hsmall] at hhigh
    exact absurd hhigh (Nat.not_le.mpr hc)

/-- What is decoded without a replacement was UTF-8. -/
theorem encode_fromUtf8Lossy_of_not_mem {bytes : List UInt8}
    (h : '\uFFFD' ∉ fromUtf8Lossy bytes) : encode (fromUtf8Lossy bytes) = bytes := by
  fun_induction fromUtf8Lossy bytes with
  | case1 => rfl
  | case2 bytes hne c hc ih =>
      obtain ⟨rest, rfl⟩ := decodeChar?_eq_some_iff.mp hc
      rw [← String.length_utf8EncodeChar c, List.drop_left] at ih h ⊢
      rw [encode_cons, ih fun hmem => h (List.mem_cons_of_mem _ hmem)]
  | case3 bytes hne hc ih => exact absurd List.mem_cons_self h

theorem not_ascii_of_continues (lead byte : UInt8) (h : byte < 0x80) :
    continues lead byte = false := by
  unfold continues
  grind

theorem invalidLength_append_ascii {bytes : List UInt8} (h : bytes ≠ []) {byte : UInt8}
    (hbyte : byte < 0x80) (rest : List UInt8) :
    invalidLength (bytes ++ byte :: rest) = invalidLength bytes ∧
      invalidLength bytes ≤ bytes.length := by
  match bytes with
  | [] => exact absurd rfl h
  | [lead] =>
      have hcontinues := not_ascii_of_continues lead byte hbyte
      simp [invalidLength, hcontinues]
  | [lead, second] =>
      by_cases hcontinues : continues lead second = true
      · have hthird : ¬0x80 ≤ byte := UInt8.not_le.mpr hbyte
        simp [invalidLength, hcontinues, hthird]
      · simp [invalidLength, hcontinues]
  | lead :: second :: third :: more =>
      refine ⟨rfl, ?_⟩
      unfold invalidLength
      grind

/-- Lossy decoding stops at an ASCII character and goes on behind it. -/
theorem fromUtf8Lossy_append_ascii {c : Char} (hc : c.toNat < 0x80) (bytes rest : List UInt8) :
    fromUtf8Lossy (bytes ++ UInt8.ofNat c.toNat :: rest) =
      fromUtf8Lossy bytes ++ c :: fromUtf8Lossy rest := by
  have hchar : String.utf8EncodeChar c ++ rest = UInt8.ofNat c.toNat :: rest := by
    rw [utf8EncodeChar_ascii hc]
    rfl
  fun_induction fromUtf8Lossy bytes with
  | case1 => rw [List.nil_append, List.nil_append, ← hchar, fromUtf8Lossy_char_append]
  | case2 bytes hne d hd ih =>
      obtain ⟨more, rfl⟩ := decodeChar?_eq_some_iff.mp hd
      rw [← String.length_utf8EncodeChar d, List.drop_left] at ih ⊢
      rw [List.append_assoc, fromUtf8Lossy_char_append, ih, List.cons_append]
  | case3 bytes hne hd ih =>
      have hascii : UInt8.ofNat c.toNat < 0x80 := by
        rw [UInt8.lt_iff_toNat_lt, UInt8.toNat_ofNat_of_lt' (Nat.lt_trans hc (by decide))]
        exact hc
      obtain ⟨hlength, hle⟩ := invalidLength_append_ascii hne hascii rest
      -- a character that begins in front of the ASCII byte does not reach over it
      have hnone : decodeChar? (bytes ++ UInt8.ofNat c.toNat :: rest) = none := by
        rw [Option.eq_none_iff_forall_ne_some]
        intro d hsome
        obtain ⟨more, hmore⟩ := decodeChar?_eq_some_iff.mp hsome
        rcases List.append_eq_append_iff.mp hmore with ⟨tail, htail, hrest⟩ | ⟨tail, htail, -⟩
        · cases tail with
          | nil =>
              rw [List.append_nil] at htail
              rw [decodeChar?_eq_some_iff.mpr ⟨[], by rw [htail, List.append_nil]⟩] at hd
              cases hd
          | cons byte tail =>
              have hfirst : UInt8.ofNat c.toNat = byte := (List.cons.inj hrest).1
              -- it would be longer than one byte, and all its bytes high
              have hmem : UInt8.ofNat c.toNat ∈ String.utf8EncodeChar d := by
                rw [htail]
                exact List.mem_append_right _ (hfirst ▸ List.mem_cons_self)
              have hd : ¬d.val.toNat ≤ 0x7f := by
                intro hsmall
                have hone := utf8EncodeChar_ascii (c := d) (Nat.lt_succ_of_le hsmall)
                have hlength := congrArg List.length (hone.symm.trans htail)
                have hpos := List.length_pos_iff.mpr hne
                simp only [List.length_append, List.length_cons, List.length_nil] at hlength
                omega
              exact absurd (utf8EncodeChar_high hd _ hmem) (UInt8.not_le.mpr hascii)
        · rw [decodeChar?_eq_some_iff.mpr ⟨tail, htail⟩] at hd
          cases hd
      rw [fromUtf8Lossy, if_neg (by simp), hnone]
      simp only
      rw [hlength, List.drop_append_of_le_length hle, ih, List.cons_append]

end LittleOrgans.Library
