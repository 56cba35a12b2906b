import Mathlib.Data.List.Basic
import Mathlib.Data.List.Induction

/-!
# Files of newline-terminated lines

A text file is a list of bytes. `unlines` writes lines, each followed by a
newline; `lines` reads them back the way a buffered reader does, also when a line
ends in a carriage return and a newline. A file that was cut at some byte holds
the lines that lie before the cut and a tail without a newline (`take_unlines`);
the last newline is where the complete lines end (`rposition_unlines_append`).
-/

set_option autoImplicit false

namespace LittleOrgans.Library.Lines

/-- A text, encoded. -/
abbrev Bytes := List UInt8

/-- The end of a line. -/
def newline : UInt8 := 10

/-- What may stand before the end of a line. -/
def carriageReturn : UInt8 := 13

/-- The lines, each followed by a newline. -/
def unlines (pieces : List Bytes) : Bytes := pieces.flatMap fun piece => piece ++ [newline]

/-- The lines of a file, without the newline or the carriage return and newline
that end them. -/
def lines : Bytes → List Bytes
  | [] => []
  | byte :: rest =>
      if byte = newline then [] :: lines rest
      else if byte = carriageReturn ∧ rest.head? = some newline then lines rest
      else
        match lines rest with
        | [] => [[byte]]
        | line :: more => (byte :: line) :: more

/-- Index of the last element that passes the test. -/
def rposition {α : Type} (p : α → Bool) : List α → Option Nat
  | [] => none
  | a :: rest =>
      match rposition p rest with
      | some i => some (i + 1)
      | none => if p a then some 0 else none

/-- A line that reads back as it was written. -/
structure IsLine (piece : Bytes) : Prop where
  no_newline : newline ∉ piece
  no_return : piece.getLast? ≠ some carriageReturn

/-! ## Writing lines -/

@[simp]
theorem unlines_nil : unlines [] = [] := rfl

@[simp]
theorem unlines_cons (piece : Bytes) (pieces : List Bytes) :
    unlines (piece :: pieces) = piece ++ newline :: unlines pieces := by
  simp [unlines]

@[simp]
theorem unlines_append (pieces more : List Bytes) :
    unlines (pieces ++ more) = unlines pieces ++ unlines more := by
  simp [unlines]

theorem getLast?_unlines (pieces : List Bytes) :
    (unlines pieces).getLast?.all (· == newline) = true := by
  induction pieces with
  | nil => rfl
  | cons piece pieces ih =>
      rw [unlines_cons, List.getLast?_append_of_ne_nil _ (by simp)]
      cases hrest : unlines pieces with
      | nil => rfl
      | cons byte rest =>
          rw [hrest] at ih
          rw [List.getLast?_cons_cons]
          exact ih

/-! ## Reading lines -/

theorem lines_append_newline {piece : Bytes} (h : IsLine piece) (rest : Bytes) :
    lines (piece ++ newline :: rest) = piece :: lines rest := by
  induction piece with
  | nil => simp [lines]
  | cons byte piece ih =>
      have hbyte : byte ≠ newline := fun heq => h.no_newline (by simp [heq])
      have hpiece : newline ∉ piece := fun hmem => h.no_newline (by simp [hmem])
      -- a carriage return right before the newline would be the last byte of the line
      have hreturn :
          ¬ (byte = carriageReturn ∧ (piece ++ newline :: rest).head? = some newline) := by
        rintro ⟨rfl, hhead⟩
        cases piece with
        | nil => exact h.no_return rfl
        | cons next piece =>
            simp only [List.cons_append, List.head?_cons, Option.some.injEq] at hhead
            exact hpiece (by simp [hhead])
      have htail : IsLine piece := by
        refine ⟨hpiece, fun hlast => h.no_return ?_⟩
        cases piece with
        | nil => cases hlast
        | cons next piece => rwa [List.getLast?_cons_cons]
      rw [List.cons_append, lines, if_neg hbyte, if_neg hreturn, ih htail]

theorem lines_unlines {pieces : List Bytes} (h : ∀ piece ∈ pieces, IsLine piece) :
    lines (unlines pieces) = pieces := by
  induction pieces with
  | nil => rfl
  | cons piece pieces ih =>
      rw [unlines_cons, lines_append_newline (h piece (by simp)),
        ih fun p hp => h p (List.mem_cons_of_mem _ hp)]

/-! ## Cut files -/

/-- What is left of a file cut at byte `n`: its first `k` lines, which is as many
as fit, and a tail without a newline. -/
theorem take_unlines {pieces : List Bytes} (h : ∀ piece ∈ pieces, IsLine piece) (n : Nat) :
    ∃ k tail, k ≤ pieces.length ∧
      (unlines pieces).take n = unlines (pieces.take k) ++ tail ∧ newline ∉ tail ∧
      (n ≤ (unlines pieces).length → (unlines (pieces.take k)).length ≤ n) ∧
      (k < pieces.length → n < (unlines (pieces.take (k + 1))).length) := by
  induction pieces generalizing n with
  | nil => exact ⟨0, [], by simp⟩
  | cons piece pieces ih =>
      by_cases hn : n ≤ piece.length
      · -- the cut lies in the first line or right before its newline
        refine ⟨0, piece.take n, by simp, ?_, ?_, by simp, ?_⟩
        · rw [unlines_cons, List.take_append_of_le_length hn]
          simp
        · exact fun hmem => (h piece (by simp)).no_newline (List.mem_of_mem_take hmem)
        · intro _
          simp only [Nat.zero_add, List.take_succ_cons, List.take_zero, unlines_cons, unlines_nil,
            List.length_append, List.length_cons, List.length_nil]
          omega
      · obtain ⟨k, tail, hk, htake, htail, hfits, hmost⟩ :=
          ih (fun p hp => h p (List.mem_cons_of_mem _ hp)) (n - (piece.length + 1))
        refine ⟨k + 1, tail, by simpa using hk, ?_, htail, ?_, ?_⟩
        · have hsplit : unlines (piece :: pieces) = (piece ++ [newline]) ++ unlines pieces := by
            simp
          rw [hsplit, List.take_append, List.take_of_length_le (by simp; omega)]
          simp only [List.length_append, List.length_cons, List.length_nil, Nat.zero_add, htake]
          simp
        · intro hle
          simp only [unlines_cons, List.length_append, List.length_cons] at hle
          have := hfits (by omega)
          simp only [List.take_succ_cons, unlines_cons, List.length_append, List.length_cons]
          omega
        · intro hlt
          have := hmost (by simpa using hlt)
          simp only [List.take_succ_cons, unlines_cons, List.length_append, List.length_cons]
          omega

section RPosition

variable {α : Type} {p : α → Bool}

theorem rposition_eq_none {as : List α} (h : ∀ a ∈ as, p a = false) : rposition p as = none := by
  induction as with
  | nil => rfl
  | cons a as ih =>
      rw [rposition, ih fun b hb => h b (List.mem_cons_of_mem _ hb)]
      simp [h a (by simp)]

theorem rposition_append_cons {a : α} (ha : p a = true) {post : List α}
    (hpost : ∀ b ∈ post, p b = false) (pre : List α) :
    rposition p (pre ++ a :: post) = some pre.length := by
  induction pre with
  | nil => rw [List.nil_append, rposition, rposition_eq_none hpost]; simp [ha]
  | cons b pre ih => rw [List.cons_append, rposition, ih]; rfl

end RPosition

/-- The last newline of a cut file ends its last complete line. -/
theorem rposition_unlines_append {pieces : List Bytes} {tail : Bytes} (htail : newline ∉ tail) :
    ((rposition (· == newline) (unlines pieces ++ tail)).elim 0 (· + 1)) =
      (unlines pieces).length := by
  have hnone : ∀ byte ∈ tail, (byte == newline) = false := by
    intro byte hbyte
    exact beq_false_of_ne fun heq => htail (heq ▸ hbyte)
  cases pieces using List.reverseRecOn with
  | nil => rw [unlines_nil, List.nil_append, rposition_eq_none hnone]; rfl
  | append_singleton pieces piece =>
      have hsplit : unlines (pieces ++ [piece]) ++ tail =
          (unlines pieces ++ piece) ++ newline :: tail := by simp
      rw [hsplit, rposition_append_cons (by simp) hnone]
      simp [Nat.add_assoc]

end LittleOrgans.Library.Lines
