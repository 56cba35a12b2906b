import LittleOrgans.Core.Json
import LittleOrgans.Library.SortedMap
import Mathlib.Data.String.Basic

/-!
# JSON documents and values

A document lists the entries of its objects as they are written. A `serde_json::Value` keeps
them in a `BTreeMap`, so that reading a document into a value sorts the entries of every
object, and keeps the last one of each key. `value_value` says that values stay as they are,
`value_object_eq_iff` which objects are values.
-/

set_option autoImplicit false

namespace LittleOrgans.Core.Json

open LittleOrgans.Library

/-! ## Equality -/

mutual

/-- Whether two documents are the same. -/
def decEq : (a b : Json) → Decidable (a = b)
  | .null, .null => isTrue rfl
  | .bool a, .bool b => decidable_of_iff (a = b) (by simp)
  | .number m, .number n => decidable_of_iff (m = n) (by simp)
  | .string a, .string b => decidable_of_iff (a = b) (by simp)
  | .array as, .array bs =>
      match decEqItems as bs with
      | isTrue h => isTrue (h ▸ rfl)
      | isFalse h => isFalse fun heq => h (Json.array.inj heq)
  | .object fs, .object gs =>
      match decEqEntries fs gs with
      | isTrue h => isTrue (h ▸ rfl)
      | isFalse h => isFalse fun heq => h (Json.object.inj heq)
  | .null, .bool _ => isFalse nofun
  | .null, .number _ => isFalse nofun
  | .null, .string _ => isFalse nofun
  | .null, .array _ => isFalse nofun
  | .null, .object _ => isFalse nofun
  | .bool _, .null => isFalse nofun
  | .bool _, .number _ => isFalse nofun
  | .bool _, .string _ => isFalse nofun
  | .bool _, .array _ => isFalse nofun
  | .bool _, .object _ => isFalse nofun
  | .number _, .null => isFalse nofun
  | .number _, .bool _ => isFalse nofun
  | .number _, .string _ => isFalse nofun
  | .number _, .array _ => isFalse nofun
  | .number _, .object _ => isFalse nofun
  | .string _, .null => isFalse nofun
  | .string _, .bool _ => isFalse nofun
  | .string _, .number _ => isFalse nofun
  | .string _, .array _ => isFalse nofun
  | .string _, .object _ => isFalse nofun
  | .array _, .null => isFalse nofun
  | .array _, .bool _ => isFalse nofun
  | .array _, .number _ => isFalse nofun
  | .array _, .string _ => isFalse nofun
  | .array _, .object _ => isFalse nofun
  | .object _, .null => isFalse nofun
  | .object _, .bool _ => isFalse nofun
  | .object _, .number _ => isFalse nofun
  | .object _, .string _ => isFalse nofun
  | .object _, .array _ => isFalse nofun

/-- Equality of items can be decided. -/
def decEqItems : (as bs : List Json) → Decidable (as = bs)
  | [], [] => isTrue rfl
  | [], _ :: _ => isFalse nofun
  | _ :: _, [] => isFalse nofun
  | a :: as, b :: bs =>
      match decEq a b, decEqItems as bs with
      | isTrue h, isTrue hrest => isTrue (by rw [h, hrest])
      | isFalse h, _ => isFalse fun heq => h (List.cons.inj heq).1
      | _, isFalse h => isFalse fun heq => h (List.cons.inj heq).2

/-- Equality of entries can be decided. -/
def decEqEntries : (fs gs : List (String × Json)) → Decidable (fs = gs)
  | [], [] => isTrue rfl
  | [], _ :: _ => isFalse nofun
  | _ :: _, [] => isFalse nofun
  | (k, a) :: fs, (k', b) :: gs =>
      match decEq a b, decEqEntries fs gs with
      | isTrue h, isTrue hrest =>
          decidable_of_iff (k = k') (by simp [h, hrest])
      | isFalse h, _ => isFalse fun heq => h (Prod.mk.inj (List.cons.inj heq).1).2
      | _, isFalse h => isFalse fun heq => h (List.cons.inj heq).2

end

instance : DecidableEq Json := decEq

/-! ## Values -/

mutual

/-- The `Value` that a document is read into. -/
def value : Json → Json
  | .null => .null
  | .bool b => .bool b
  | .number n => .number n
  | .string s => .string s
  | .array items => .array (values items)
  | .object entries => .object (SortedMap.ofList (valueEntries entries))

/-- The values of items. -/
def values : List Json → List Json
  | [] => []
  | item :: items => item.value :: values items

/-- The values of entries. -/
def valueEntries : List (String × Json) → List (String × Json)
  | [] => []
  | (key, item) :: entries => (key, item.value) :: valueEntries entries

end

/-- A document that is a `Value`. -/
def IsValue (v : Json) : Prop := v.value = v

instance (v : Json) : Decidable v.IsValue := inferInstanceAs (Decidable (v.value = v))

theorem value_eq_string {v : Json} {s : String} : v.value = .string s ↔ v = .string s := by
  cases v <;> simp [value]

theorem value_eq_number {v : Json} {n : JsonNumber} : v.value = .number n ↔ v = .number n := by
  cases v <;> simp [value]

theorem valueEntries_eq_map (entries : List (String × Json)) :
    valueEntries entries = entries.map fun entry => (entry.1, entry.2.value) := by
  induction entries with
  | nil => rfl
  | cons entry entries ih =>
      rw [valueEntries, ih]
      rfl

theorem valueEntries_eq_self {entries : List (String × Json)}
    (h : ∀ entry ∈ entries, entry.2.IsValue) : valueEntries entries = entries := by
  rw [valueEntries_eq_map]
  conv_rhs => rw [← List.map_id entries]
  refine List.map_congr_left fun entry hentry => ?_
  exact Prod.ext rfl (h entry hentry)

mutual

/-- A value is read as it is. -/
theorem value_value : ∀ v : Json, v.value.IsValue
  | .null => rfl
  | .bool _ => rfl
  | .number _ => rfl
  | .string _ => rfl
  | .array items => by
      rw [value, IsValue, value, values_values items]
  | .object entries => by
      have hentries : ∀ entry ∈ SortedMap.ofList (valueEntries entries), entry.2.IsValue :=
        fun entry hentry => isValue_of_mem entries entry (SortedMap.mem_of_mem_ofList hentry)
      rw [value, IsValue, value, valueEntries_eq_self hentries,
        SortedMap.ofList_of_sorted SortedMap.sorted_ofList]

theorem values_values : ∀ items : List Json, values (values items) = values items
  | [] => rfl
  | item :: items => by
      have hitem : item.value.value = item.value := value_value item
      rw [values, values, hitem, values_values items]

theorem isValue_of_mem : ∀ (entries : List (String × Json)) (entry : String × Json),
    entry ∈ valueEntries entries → entry.2.IsValue
  | [], entry, h => absurd h List.not_mem_nil
  | (key, item) :: entries, entry, h => by
      rw [valueEntries] at h
      rcases List.mem_cons.mp h with rfl | hrest
      · exact value_value item
      · exact isValue_of_mem entries entry hrest

end

/-- The objects among the values are the sorted maps of values. -/
theorem isValue_object_iff {entries : List (String × Json)} :
    (Json.object entries).IsValue ↔
      SortedMap.Sorted entries ∧ ∀ entry ∈ entries, entry.2.IsValue := by
  constructor
  · intro h
    have hmap : SortedMap.ofList (valueEntries entries) = entries := by
      rw [IsValue, value] at h
      exact Json.object.inj h
    refine ⟨?_, fun entry hentry => ?_⟩
    · rw [← hmap]
      exact SortedMap.sorted_ofList
    · rw [← hmap] at hentry
      exact isValue_of_mem entries entry (SortedMap.mem_of_mem_ofList hentry)
  · rintro ⟨hsorted, hentries⟩
    rw [IsValue, value, valueEntries_eq_self hentries, SortedMap.ofList_of_sorted hsorted]

end LittleOrgans.Core.Json
