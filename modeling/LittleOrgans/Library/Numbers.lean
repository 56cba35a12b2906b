import Mathlib.Algebra.Group.Nat.Defs
import Mathlib.Logic.Basic

/-!
# Numbers in texts

The integer parsers of the standard library: an optional sign and decimal digits, up to the
largest number of the type. What a number prints to parses to the number
(`parseUnsigned_toDigits`).
-/

set_option autoImplicit false

namespace LittleOrgans.Library

/-- Why a text is no number. -/
inductive ParseIntError where
  | empty
  | invalidDigit
  | posOverflow
  | negOverflow
  deriving DecidableEq

/-- The text of the error. -/
def ParseIntError.text : ParseIntError → String
  | .empty => "cannot parse integer from empty string"
  | .invalidDigit => "invalid digit found in string"
  | .posOverflow => "number too large to fit in target type"
  | .negOverflow => "number too small to fit in target type"

/-- The digits behind a number that has been read; `overflow` is reported beyond the largest. -/
def parseDigits (largest : Nat) (overflow : ParseIntError) :
    Nat → List Char → Except ParseIntError Nat
  | value, [] => .ok value
  | value, c :: rest =>
      if !c.isDigit then .error .invalidDigit
      else
        let next := 10 * value + (c.toNat - '0'.toNat)
        if largest < next then .error overflow else parseDigits largest overflow next rest

/-- `str::parse` for an unsigned type with this largest number. -/
def parseUnsigned (largest : Nat) : List Char → Except ParseIntError Nat
  | [] => .error .empty
  | ['+'] => .error .invalidDigit
  | '+' :: digits => parseDigits largest .posOverflow 0 digits
  | digits => parseDigits largest .posOverflow 0 digits

/-- `str::parse` for a signed type with this largest number. -/
def parseSigned (largest : Nat) : List Char → Except ParseIntError Int
  | [] => .error .empty
  | ['+'] => .error .invalidDigit
  | ['-'] => .error .invalidDigit
  | '-' :: digits => (parseDigits (largest + 1) .negOverflow 0 digits).map fun n => -(n : Int)
  | '+' :: digits => (parseDigits largest .posOverflow 0 digits).map Nat.cast
  | digits => (parseDigits largest .posOverflow 0 digits).map Nat.cast

/-- `u32::MAX`. -/
def u32Max : Nat := 2 ^ 32 - 1

/-- `u64::MAX`. -/
def u64Max : Nat := 2 ^ 64 - 1

/-- `i64::MAX`. -/
def i64Max : Nat := 2 ^ 63 - 1

example : parseUnsigned u32Max "+42".toList = .ok 42 := rfl

theorem le_ofDigitChars (digits : List Char) (value : Nat) :
    value ≤ Nat.ofDigitChars 10 digits value := by
  induction digits generalizing value with
  | nil => exact Nat.le_refl value
  | cons c rest ih =>
      have hrest := ih (10 * value + (c.toNat - '0'.toNat))
      simp only [Nat.ofDigitChars, List.foldl_cons] at hrest ⊢
      omega

/-- Digits parse to their value. -/
theorem parseDigits_eq {largest : Nat} {overflow : ParseIntError} {digits : List Char}
    {value : Nat} (hdigits : ∀ c ∈ digits, c.isDigit = true)
    (h : Nat.ofDigitChars 10 digits value ≤ largest) :
    parseDigits largest overflow value digits = .ok (Nat.ofDigitChars 10 digits value) := by
  induction digits generalizing value with
  | nil => rfl
  | cons c rest ih =>
      have hc : (!c.isDigit) = false := by simp [hdigits c List.mem_cons_self]
      have hrest : Nat.ofDigitChars 10 (c :: rest) value =
          Nat.ofDigitChars 10 rest (10 * value + (c.toNat - '0'.toNat)) := rfl
      have hle := le_ofDigitChars rest (10 * value + (c.toNat - '0'.toNat))
      rw [hrest] at h
      rw [hrest, parseDigits, hc]
      simp only [Bool.false_eq_true, if_false]
      rw [if_neg (by omega)]
      exact ih (fun d hd => hdigits d (List.mem_cons_of_mem c hd)) h

theorem le_of_parseDigits {largest : Nat} {overflow : ParseIntError} {digits : List Char}
    {value n : Nat} (hvalue : value ≤ largest)
    (h : parseDigits largest overflow value digits = .ok n) : n ≤ largest := by
  induction digits generalizing value with
  | nil =>
      cases h
      exact hvalue
  | cons c rest ih =>
      rw [parseDigits] at h
      split at h
      · cases h
      · dsimp only at h
        split at h
        · cases h
        · next hnext => exact ih (Nat.not_lt.mp hnext) h

/-- What parses is at most the largest number of the type. -/
theorem le_of_parseUnsigned {largest n : Nat} {text : List Char}
    (h : parseUnsigned largest text = .ok n) : n ≤ largest := by
  rw [parseUnsigned.eq_def] at h
  split at h
  · cases h
  · cases h
  · exact le_of_parseDigits (Nat.zero_le largest) h
  · exact le_of_parseDigits (Nat.zero_le largest) h

/-- A number parses to itself. -/
theorem parseUnsigned_toDigits {largest n : Nat} (h : n ≤ largest) :
    parseUnsigned largest (Nat.toDigits 10 n) = .ok n := by
  have hdigits : ∀ c ∈ Nat.toDigits 10 n, c.isDigit = true := fun c hc =>
    Nat.isDigit_of_mem_toDigits (by decide) (by decide) hc
  have hvalue : Nat.ofDigitChars 10 (Nat.toDigits 10 n) 0 = n := Nat.ofDigitChars_ten_toDigits
  have hparse : parseDigits largest .posOverflow 0 (Nat.toDigits 10 n) = .ok n := by
    rw [parseDigits_eq hdigits (by omega), hvalue]
  cases htext : Nat.toDigits 10 n with
  | nil => exact absurd htext Nat.toDigits_ne_nil
  | cons c rest =>
      have hplus : c ≠ '+' := by
        rintro rfl
        have := hdigits '+' (by rw [htext]; exact List.mem_cons_self)
        revert this
        decide
      rw [htext] at hparse
      rw [parseUnsigned]
      · exact hparse
      · simp
      · simp [hplus]
      · simp [hplus]

end LittleOrgans.Library
