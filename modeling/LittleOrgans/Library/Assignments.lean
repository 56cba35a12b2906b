import Mathlib.Data.List.Basic
import Mathlib.Data.List.Count
import Mathlib.Data.List.Nodup

/-!
# Lists of assignments

Entries with keys, in which a key may occur more than once. `upsertFirst` replaces the first
entry of a key in place, or adds the new one at the end; a reader that goes through the list
in order is left with `lastWith`, the last entry of a key. The two agree on a key that occurs
at most once; if it occurs again behind the first entry, the reader does not see the new one
(`lastWith_mergeFirst`).
-/

set_option autoImplicit false

namespace LittleOrgans.Library

universe u v

variable {α : Type u} {κ : Type v} [DecidableEq κ]

section Operations

variable (key : α → κ)

def upsertFirst (next : α) : List α → List α
  | [] => [next]
  | entry :: rest =>
      if key entry = key next then next :: rest else entry :: upsertFirst next rest

/-- Upserts the entries one after another. -/
def mergeFirst (entries more : List α) : List α :=
  more.foldl (fun entries next => upsertFirst key next entries) entries

/-- The last entry of a key. -/
def lastWith (k : κ) : List α → Option α
  | [] => none
  | entry :: rest => (lastWith k rest).or (if key entry = k then some entry else none)

/-- How often a key occurs. -/
def occurrences (k : κ) (entries : List α) : Nat := entries.countP fun entry => key entry = k

end Operations

variable {key : α → κ} {k : κ}

theorem lastWith_append (before after : List α) :
    lastWith key k (before ++ after) = (lastWith key k after).or (lastWith key k before) := by
  induction before with
  | nil => simp [lastWith]
  | cons entry before ih => rw [List.cons_append, lastWith, ih, lastWith, Option.or_assoc]

theorem lastWith_eq_none {entries : List α} :
    lastWith key k entries = none ↔ occurrences key k entries = 0 := by
  induction entries with
  | nil => simp [lastWith, occurrences]
  | cons entry rest ih =>
      rw [lastWith, Option.or_eq_none_iff, ih]
      simp only [occurrences, List.countP_cons]
      split <;> simp_all

theorem key_lastWith {entries : List α} {entry : α} (h : lastWith key k entries = some entry) :
    key entry = k := by
  induction entries with
  | nil => cases h
  | cons first rest ih =>
      rw [lastWith, Option.or_eq_some_iff] at h
      rcases h with h | ⟨-, h⟩
      · exact ih h
      · split at h
        · next hkey =>
            cases h
            exact hkey
        · cases h

theorem mem_of_lastWith {entries : List α} {entry : α} (h : lastWith key k entries = some entry) :
    entry ∈ entries := by
  induction entries with
  | nil => cases h
  | cons first rest ih =>
      rw [lastWith, Option.or_eq_some_iff] at h
      rcases h with h | ⟨-, h⟩
      · exact List.mem_cons_of_mem _ (ih h)
      · split at h
        · cases h
          exact List.mem_cons_self
        · cases h

/-- An entry is the last of its key when no two entries share a key. -/
theorem lastWith_of_nodup {entries : List α} (h : (entries.map key).Nodup) {entry : α}
    (hmem : entry ∈ entries) : lastWith key (key entry) entries = some entry := by
  cases hlast : lastWith key (key entry) entries with
  | none =>
      rw [lastWith_eq_none, occurrences, List.countP_eq_zero] at hlast
      simpa using hlast entry hmem
  | some last =>
      have hkey := key_lastWith hlast
      exact congrArg some (List.inj_on_of_nodup_map h (mem_of_lastWith hlast) hmem hkey)

/-- A filter that looks at the key keeps or drops all entries of a key. -/
theorem lastWith_filter (p : κ → Bool) (entries : List α) :
    lastWith key k (entries.filter fun entry => p (key entry)) =
      if p k then lastWith key k entries else none := by
  induction entries with
  | nil => simp [lastWith]
  | cons entry rest ih =>
      rw [List.filter_cons, lastWith]
      by_cases hkey : key entry = k
      · subst hkey
        by_cases hp : p (key entry) = true
        · rw [if_pos hp, if_pos hp, lastWith, ih, if_pos hp]
        · rw [if_neg hp, if_neg hp, ih, if_neg hp]
      · by_cases hentry : p (key entry) = true
        · rw [if_pos hentry, lastWith, ih, if_neg hkey, Option.or_none, Option.or_none]
        · rw [if_neg hentry, ih, if_neg hkey, Option.or_none]

theorem occurrences_filter_of_not {p : κ → Bool} (h : p k = false) (entries : List α) :
    occurrences key k (entries.filter fun entry => p (key entry)) = 0 := by
  rw [← lastWith_eq_none, lastWith_filter, h]
  rfl

/-! ## Upserts -/

theorem occurrences_upsertFirst (next : α) (entries : List α) :
    occurrences key k (upsertFirst key next entries) =
      if key next = k then max 1 (occurrences key k entries) else occurrences key k entries := by
  induction entries with
  | nil => simp [upsertFirst, occurrences, List.countP_cons]
  | cons entry rest ih =>
      simp only [occurrences] at ih
      rw [upsertFirst]
      by_cases hsame : key entry = key next
      · rw [if_pos hsame]
        simp only [occurrences, List.countP_cons, hsame]
        split <;> simp_all
      · rw [if_neg hsame]
        simp only [occurrences, List.countP_cons, ih]
        by_cases hnext : key next = k
        · have hentry : key entry ≠ k := fun heq => hsame (heq.trans hnext.symm)
          simp [hnext, hentry]
        · simp [hnext]

theorem lastWith_upsertFirst_of_ne {next : α} (h : key next ≠ k) (entries : List α) :
    lastWith key k (upsertFirst key next entries) = lastWith key k entries := by
  induction entries with
  | nil => simp [upsertFirst, lastWith, h]
  | cons entry rest ih =>
      rw [upsertFirst]
      by_cases hsame : key entry = key next
      · rw [if_pos hsame, lastWith, lastWith, if_neg h, if_neg (hsame ▸ h)]
      · rw [if_neg hsame, lastWith, lastWith, ih]

/-- The reader sees an upserted entry unless its key occurs again behind the first one. -/
theorem lastWith_upsertFirst_self (next : α) (entries : List α) :
    lastWith key (key next) (upsertFirst key next entries) =
      if occurrences key (key next) entries ≤ 1 then some next
      else lastWith key (key next) entries := by
  induction entries with
  | nil => simp [upsertFirst, lastWith, occurrences]
  | cons entry rest ih =>
      rw [upsertFirst]
      by_cases hsame : key entry = key next
      · rw [if_pos hsame, lastWith, lastWith, if_pos rfl, if_pos hsame]
        have hcount : occurrences key (key next) (entry :: rest) =
            occurrences key (key next) rest + 1 := by
          simp [occurrences, hsame]
        rw [hcount]
        cases hrest : lastWith key (key next) rest with
        | none =>
            have hzero := lastWith_eq_none.mp hrest
            simp [hzero]
        | some last =>
            have hne : occurrences key (key next) rest ≠ 0 := by
              rw [Ne, ← lastWith_eq_none, hrest]
              exact Option.some_ne_none last
            rw [if_neg (by omega), Option.some_or, Option.some_or]
      · have hcount : occurrences key (key next) (entry :: rest) =
            occurrences key (key next) rest := by
          simp [occurrences, hsame]
        rw [if_neg hsame, lastWith, lastWith, ih, hcount, if_neg hsame, Option.or_none,
          Option.or_none]

/-- What a reader sees of merged assignments. -/
theorem lastWith_mergeFirst (entries more : List α) :
    lastWith key k (mergeFirst key entries more) =
      if occurrences key k entries ≤ 1 then
        (lastWith key k more).or (lastWith key k entries)
      else lastWith key k entries := by
  induction more generalizing entries with
  | nil => simp [mergeFirst, lastWith]
  | cons next more ih =>
      have hstep : mergeFirst key entries (next :: more) =
          mergeFirst key (upsertFirst key next entries) more := rfl
      rw [hstep, ih, occurrences_upsertFirst, lastWith]
      by_cases hnext : key next = k
      · subst hnext
        rw [if_pos rfl, lastWith_upsertFirst_self, if_pos rfl]
        by_cases hone : occurrences key (key next) entries ≤ 1
        · rw [if_pos (by omega), if_pos hone, if_pos hone, Option.or_assoc, Option.some_or]
        · rw [if_neg (by omega), if_neg hone, if_neg hone]
      · rw [if_neg hnext, if_neg hnext, lastWith_upsertFirst_of_ne hnext, Option.or_none]

end LittleOrgans.Library
