import LittleOrgans.Core.SelectorScope
import LittleOrgans.Library.Except
import LittleOrgans.Library.Text

/-!
# Label texts

`Label::from_str` and `LabelMutation::from_str` of `lilo-session-core`: a label is a key and
a value around the first equals sign, each trimmed; a label edit sets a label, or removes a
key when its text ends in a hyphen. The hyphen is looked for before the equals sign.
-/

set_option autoImplicit false

namespace LittleOrgans.Core

open LittleOrgans.Library

/-- `parse_label_token`. -/
def parseLabelToken (value : List Char) (field : String) : Except SmError String :=
  if trim value = [] then .error (.message (field ++ " is empty"))
  else .ok (String.ofList (trim value))

/-- `Label::from_str`. -/
def Label.fromStr (value : List Char) : Except SmError Label :=
  match splitOnce ['='] value with
  | none => .error (.message ("invalid label mutation: " ++ String.ofList value))
  | some (key, value) => do
      let key ← parseLabelToken key "label key"
      let value ← parseLabelToken value "label value"
      pure ⟨key, value⟩

inductive LabelMutation where
  | set (label : Label)
  | remove (key : String)
  deriving DecidableEq

/-- `LabelMutation::from_str`. -/
def LabelMutation.fromStr (value : List Char) : Except SmError LabelMutation :=
  match stripSuffix ['-'] value with
  | some key => (parseLabelToken key "label key").map LabelMutation.remove
  | none => (Label.fromStr value).map LabelMutation.set

/-- The label as a text. -/
def Label.text (label : Label) : List Char := label.key.toList ++ '=' :: label.value.toList

/-- The text of an edit that sets this label. -/
example : LabelMutation.fromStr " area = auth ".toList = .ok (.set ⟨"area", "auth"⟩) := by decide

theorem parseLabelToken_eq_ok {value : List Char} {field token : String} :
    parseLabelToken value field = .ok token ↔ token.toList = trim value ∧ trim value ≠ [] := by
  rw [parseLabelToken]
  split
  · next hempty => simp [hempty]
  · next hne =>
      constructor
      · intro h
        cases h
        exact ⟨String.toList_ofList, hne⟩
      · rintro ⟨htoken, -⟩
        rw [← htoken, String.ofList_toList]

/-- A token parses to itself. -/
theorem parseLabelToken_toList {value : List Char} {field token : String}
    (h : parseLabelToken value field = .ok token) (field' : String) :
    parseLabelToken token.toList field' = .ok token := by
  obtain ⟨htoken, hne⟩ := parseLabelToken_eq_ok.mp h
  rw [parseLabelToken_eq_ok, htoken, trim_trim]
  exact ⟨rfl, hne⟩

/-- The two tokens of a label. -/
theorem Label.fromStr_eq_ok {text : List Char} {label : Label} :
    Label.fromStr text = .ok label ↔
      ∃ key value, text = key ++ '=' :: value ∧ '=' ∉ key ∧
        parseLabelToken key "label key" = .ok label.key ∧
        parseLabelToken value "label value" = .ok label.value := by
  rw [Label.fromStr]
  constructor
  · intro h
    split at h
    · cases h
    · next key value hsplit =>
        obtain ⟨htext, hkey⟩ := splitOnce_singleton.mp hsplit
        obtain ⟨key', hkey', h⟩ := Except.bind_eq_ok.mp h
        obtain ⟨value', hvalue', h⟩ := Except.bind_eq_ok.mp h
        cases h
        exact ⟨key, value, htext, hkey, hkey', hvalue'⟩
  · rintro ⟨key, value, htext, hkey, hkey', hvalue'⟩
    rw [splitOnce_singleton.mpr ⟨htext, hkey⟩]
    simp only [hkey', hvalue']
    rfl

/-- The text of a parsed label parses to the label. -/
theorem Label.fromStr_text {text : List Char} {label : Label} (h : Label.fromStr text = .ok label) :
    Label.fromStr label.text = .ok label := by
  obtain ⟨key, value, -, hkey, hkey', hvalue'⟩ := Label.fromStr_eq_ok.mp h
  refine Label.fromStr_eq_ok.mpr ⟨label.key.toList, label.value.toList, rfl, ?_,
    parseLabelToken_toList hkey' _, parseLabelToken_toList hvalue' _⟩
  rw [(parseLabelToken_eq_ok.mp hkey').1]
  exact fun hmem => hkey (mem_of_mem_trim hmem)

/-- The last character of a parsed value is the last one of the text that is no white space. -/
theorem Label.getLast?_value {text : List Char} {label : Label}
    (h : Label.fromStr text = .ok label) :
    (trimEnd text).getLast? = label.value.toList.getLast? := by
  obtain ⟨key, value, rfl, -, -, hvalue⟩ := Label.fromStr_eq_ok.mp h
  obtain ⟨hvalue, hne⟩ := parseLabelToken_eq_ok.mp hvalue
  have hsplit : key ++ '=' :: value = (key ++ ['=']) ++ value := by simp
  obtain ⟨rest, hrest⟩ := trimEnd_append (a := key ++ ['=']) hne
  rw [hsplit, hrest, List.getLast?_append_of_ne_nil _ hne, hvalue]

theorem Label.value_ne_nil {text : List Char} {label : Label} (h : Label.fromStr text = .ok label) :
    label.value.toList ≠ [] := by
  obtain ⟨key, value, -, -, -, hvalue⟩ := Label.fromStr_eq_ok.mp h
  obtain ⟨hvalue, hne⟩ := parseLabelToken_eq_ok.mp hvalue
  rw [hvalue]
  exact hne

/-- A text that does not end in a hyphen is read as a label. -/
theorem LabelMutation.fromStr_of_getLast? {text : List Char} (h : text.getLast? ≠ some '-') :
    LabelMutation.fromStr text = (Label.fromStr text).map LabelMutation.set := by
  rw [LabelMutation.fromStr, stripSuffix_eq_none.mpr]
  rintro ⟨rest, rfl⟩
  exact h List.getLast?_concat

/-- A text that ends in a hyphen is never read as a label. -/
theorem LabelMutation.fromStr_ne_set {text : List Char} (h : text.getLast? = some '-')
    (label : Label) : LabelMutation.fromStr text ≠ .ok (.set label) := by
  obtain ⟨rest, rfl⟩ := List.getLast?_eq_some_iff.mp h
  rw [LabelMutation.fromStr, stripSuffix_append]
  intro heq
  cases hkey : parseLabelToken rest "label key" with
  | error e =>
      simp only [hkey] at heq
      cases heq
  | ok key =>
      simp only [hkey] at heq
      cases heq

end LittleOrgans.Core
