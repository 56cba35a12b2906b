import LittleOrgans.Core.LabelText
import LittleOrgans.Store.Sessions
import Mathlib.Data.List.Induction

/-!
# Label edits

`apply_label_mutation` of the session store, and what a run of edits leaves: a key is bound
to the value of its last set, unless it was removed after that (`lookup_editLabels`).

Not every label can be set by its text. The text of a label whose value ends in a hyphen is
read as the removal of a key, which `labelTextEdits_iff` says is the only such case.
-/

set_option autoImplicit false

namespace LittleOrgans.Store

open LittleOrgans.Core
open LittleOrgans.Library

namespace Database

/-- The statement of one edit: `upsert_label` or `remove_label`. -/
def editLabel (db : Database) (id : SessionId) : LabelMutation → Database
  | .set label => { db with labels := db.labels.upsert (id, label.key) label.value }
  | .remove key => { db with labels := db.labels.erase (id, key) }

/-- `apply_label_mutation`: the edit, then the session as it is stored. -/
def applyLabelMutation (db : Database) (id : SessionId) (mutation : LabelMutation) :
    Database × Except String (Option Session) :=
  (db.editLabel id mutation, (db.editLabel id mutation).getSession id)

/-- The edits one after another. -/
def editLabels (db : Database) (id : SessionId) (mutations : List LabelMutation) : Database :=
  mutations.foldl (fun db mutation => (db.applyLabelMutation id mutation).1) db

variable (db : Database) (id : SessionId)

theorem editLabels_append_singleton (mutations : List LabelMutation) (mutation : LabelMutation) :
    db.editLabels id (mutations ++ [mutation]) =
      (db.editLabels id mutations).editLabel id mutation := by
  rw [editLabels, List.foldl_append]
  rfl

theorem lookup_editLabel_set (label : Label) (key : String) :
    (db.editLabel id (.set label)).labels.lookup (id, key) =
      if key = label.key then some label.value else db.labels.lookup (id, key) := by
  rw [editLabel, Table.lookup_upsert]
  simp only [Prod.mk.injEq, true_and]

theorem lookup_editLabel_remove (removed key : String) :
    (db.editLabel id (.remove removed)).labels.lookup (id, key) =
      if key = removed then none else db.labels.lookup (id, key) := by
  rw [editLabel, Table.lookup_erase]
  simp only [Prod.mk.injEq, true_and]

/-- The last set of a key decides its value, unless a removal of the key follows it. -/
theorem lookup_editLabels (before after : List LabelMutation) (label : Label)
    (hlast : ∀ value, LabelMutation.set ⟨label.key, value⟩ ∉ after) :
    (db.editLabels id (before ++ .set label :: after)).labels.lookup (id, label.key) =
      if LabelMutation.remove label.key ∈ after then none else some label.value := by
  induction after using List.reverseRecOn with
  | nil =>
      rw [editLabels_append_singleton, lookup_editLabel_set, if_pos rfl, if_neg List.not_mem_nil]
  | append_singleton after mutation ih =>
      have hbefore := ih fun value hmem => hlast value (List.mem_append_left _ hmem)
      have hsplit : before ++ .set label :: (after ++ [mutation]) =
          (before ++ .set label :: after) ++ [mutation] := by simp
      rw [hsplit, editLabels_append_singleton]
      cases mutation with
      | set other =>
          have hother : label.key ≠ other.key := by
            rintro heq
            refine hlast other.value (List.mem_append_right _ ?_)
            rw [heq, List.mem_singleton]
          rw [lookup_editLabel_set, if_neg hother, hbefore]
          simp
      | remove key =>
          rw [lookup_editLabel_remove, hbefore]
          by_cases heq : label.key = key
          · simp [heq]
          · simp [heq]

end Database

/-- What label edits are expected to do for a label text and the label it parses to. -/
structure LabelTextEdits (text : List Char) (label : Label) : Prop where
  /-- The text of the label sets it. -/
  sets : LabelMutation.fromStr label.text = .ok (.set label)
  /-- The text itself removes nothing. -/
  keeps : ∀ key, LabelMutation.fromStr text ≠ .ok (.remove key)
  /-- Edits leave the value of the last set of a key, unless a removal follows it. -/
  lasts : ∀ (db : Database) (id : SessionId) (before after : List LabelMutation) (last : Label),
    (∀ value, LabelMutation.set ⟨last.key, value⟩ ∉ after) →
      (db.editLabels id (before ++ .set last :: after)).labels.lookup (id, last.key) =
        if LabelMutation.remove last.key ∈ after then none else some last.value

/-- Edits express a label unless its text, white space at the end apart, ends in a hyphen. -/
theorem labelTextEdits_iff {text : List Char} {label : Label} (h : Label.fromStr text = .ok label) :
    LabelTextEdits text label ↔ (trimEnd text).getLast? ≠ some '-' := by
  have htext : label.text.getLast? = label.value.toList.getLast? := by
    rw [Label.text, List.getLast?_append_of_ne_nil _ (List.cons_ne_nil _ _),
      List.getLast?_cons_of_ne_nil (Label.value_ne_nil h)]
  rw [Label.getLast?_value h, ← htext]
  constructor
  · intro hedits hhyphen
    exact LabelMutation.fromStr_ne_set hhyphen label hedits.sets
  · intro hlast
    refine ⟨?_, fun key hkey => ?_, fun db id => db.lookup_editLabels id⟩
    · rw [LabelMutation.fromStr_of_getLast? hlast, Label.fromStr_text h]
      rfl
    · by_cases hhyphen : text.getLast? = some '-'
      · -- the hyphen is no white space, so it also ends the value
        refine hlast ?_
        rw [htext, ← Label.getLast?_value h, trimEnd, rdropWhile_of_last]
        · exact hhyphen
        · rw [hhyphen]
          rintro c ⟨⟩
          decide
      · rw [LabelMutation.fromStr_of_getLast? hhyphen, h] at hkey
        cases hkey

/-- The edits of a label whose value does not end in a hyphen. -/
theorem labelTextEdits_iff_area :
    Label.fromStr "area=auth-ui ".toList = .ok ⟨"area", "auth-ui"⟩ ∧
      LabelTextEdits "area=auth-ui ".toList ⟨"area", "auth-ui"⟩ :=
  have h : Label.fromStr "area=auth-ui ".toList = .ok ⟨"area", "auth-ui"⟩ := by decide
  ⟨h, (labelTextEdits_iff h).mpr (by decide)⟩

/-- The text of a label is read as the removal of a key. -/
theorem labelTextEdits_trailing_hyphen :
    Label.fromStr "env=pre-".toList = .ok ⟨"env", "pre-"⟩ ∧
      LabelMutation.fromStr "env=pre-".toList = .ok (.remove "env=pre") ∧
      ¬LabelTextEdits "env=pre-".toList ⟨"env", "pre-"⟩ := by
  refine ⟨by decide, by decide, fun h => h.keeps "env=pre" (by decide)⟩

end LittleOrgans.Store
