import LittleOrgans.Core.Lifecycle
import LittleOrgans.Library.Numbers
import LittleOrgans.Library.Text

/-!
# Texts of lifecycle values

The texts of `lilo-rm-core` for runtime kinds, isolation policies, tmux addresses and spawn
targets, and their parsers. A runtime kind and an address that some text parses to are what the
wire decodes; both print to a text that parses back (`fromStr_asStr`, `fromStr_toString`). An
isolation policy is decoded from its structure, so a Docker profile with an empty name gets in,
and its text does not parse (`fromStr_display_iff`).
-/

set_option autoImplicit false

namespace LittleOrgans.Core

open LittleOrgans.Library

/-! ## Runtime kinds -/

/-- The name of a runtime. -/
def RuntimeKind.asStr : RuntimeKind → String
  | .claude => "claude"
  | .codex => "codex"
  | .other value => value

/-- A runtime from its name. -/
def RuntimeKind.fromStr (value : List Char) : Except String RuntimeKind :=
  if value = [] then .error ("unsupported runtime kind: " ++ String.ofList value)
  else if value = "claude".toList then .ok .claude
  else if value = "codex".toList then .ok .codex
  else .ok (.other (String.ofList value))

/-- The runtime kinds that come over the wire. -/
def RuntimeKind.IsWire (kind : RuntimeKind) : Prop := ∃ value, fromStr value = .ok kind

theorem RuntimeKind.fromStr_asStr {kind : RuntimeKind} (h : kind.IsWire) :
    fromStr kind.asStr.toList = .ok kind := by
  obtain ⟨value, h⟩ := h
  have hvalue := h
  rw [fromStr] at h
  split at h
  · cases h
  · split at h
    · cases h
      rfl
    · split at h
      · cases h
        rfl
      · cases h
        rw [asStr, String.toList_ofList, hvalue]

/-! ## Isolation policies -/

/-- The text of an isolation policy. -/
def IsolationPolicy.display : IsolationPolicy → List Char
  | .host => "host".toList
  | .docker profile =>
      "docker".toList ++
        match profile.name with
        | some name => ':' :: name.toList
        | none => []

/-- The error for a text that is no isolation policy. -/
def IsolationPolicy.parseError (value : List Char) : String :=
  "invalid isolation policy " ++ String.ofList value ++
    "; expected host, docker, or docker:PROFILE"

/-- A Docker profile from its text. -/
def parseDockerProfile (value : List Char) : Except String IsolationPolicy :=
  match stripPrefix "docker:".toList value with
  | none => .error (IsolationPolicy.parseError value)
  | some profile =>
      if profile = [] then .error (IsolationPolicy.parseError value)
      else .ok (.docker ⟨some (String.ofList profile)⟩)

/-- An isolation policy from its text. -/
def IsolationPolicy.fromStr (value : List Char) : Except String IsolationPolicy :=
  if value = "host".toList then .ok .host
  else if value = "docker".toList then .ok (.docker ⟨none⟩)
  else parseDockerProfile value

/-- Every policy reads back but the Docker profile with an empty name. -/
theorem IsolationPolicy.fromStr_display_iff {policy : IsolationPolicy} :
    fromStr policy.display = .ok policy ↔ policy ≠ .docker ⟨some ""⟩ := by
  rcases policy with _ | ⟨⟨_ | name⟩⟩
  · exact iff_of_true rfl (by simp)
  · exact iff_of_true rfl (by simp)
  · have hdisplay : (docker ⟨some name⟩).display = "docker:".toList ++ name.toList := rfl
    have hhost : "docker:".toList ++ name.toList ≠ "host".toList := by simp
    have hdocker : "docker:".toList ++ name.toList ≠ "docker".toList := by simp
    rw [hdisplay, fromStr, if_neg hhost, if_neg hdocker, parseDockerProfile, stripPrefix_append]
    by_cases hname : name = ""
    · subst hname
      simp
    · have hne : name.toList ≠ [] := by simpa using hname
      simp [hne, hname]

/-! ## Tmux addresses -/

/-- The error for a text that is no pane. -/
def TmuxAddress.parseError (value : List Char) : String :=
  "invalid tmux pane target " ++ String.ofList value

/-- A pane from its text. -/
def TmuxAddress.fromStr (value : List Char) : Except String TmuxAddress :=
  match rsplitOnce ':' value with
  | none => .error (parseError value)
  | some (session, paneTarget) =>
      match splitOnce ['.'] paneTarget with
      | none => .error (parseError value)
      | some (window, pane) =>
          if session = [] then .error (parseError value)
          else do
            let window ← (parseUnsigned u32Max window).mapError fun _ => parseError value
            let pane ← (parseUnsigned u32Max pane).mapError fun _ => parseError value
            pure ⟨String.ofList session, window, pane⟩

/-- The addresses that come over the wire. -/
def TmuxAddress.IsWire (address : TmuxAddress) : Prop := ∃ value, fromStr value = .ok address

/-- What a text that parses gives. -/
theorem TmuxAddress.bounds_of_fromStr {value : List Char} {address : TmuxAddress}
    (h : fromStr value = .ok address) :
    address.session ≠ "" ∧ address.window ≤ u32Max ∧ address.pane ≤ u32Max := by
  rw [fromStr] at h
  split at h
  · cases h
  · split at h
    · cases h
    · split at h
      · cases h
      · next session _ _ _ window pane _ hsession =>
          cases hwindow : parseUnsigned u32Max window with
          | error error =>
              rw [hwindow] at h
              cases h
          | ok w =>
              cases hpane : parseUnsigned u32Max pane with
              | error error =>
                  rw [hwindow, hpane] at h
                  cases h
              | ok p =>
                  rw [hwindow, hpane] at h
                  cases h
                  refine ⟨?_, le_of_parseUnsigned hwindow, le_of_parseUnsigned hpane⟩
                  intro hempty
                  exact hsession (by simpa using hempty)

theorem not_mem_toDigits {c : Char} (hc : c.isDigit = false) (n : Nat) :
    c ∉ Nat.toDigits 10 n := by
  intro hmem
  have hdigit := Nat.isDigit_of_mem_toDigits (by decide) (by decide) hmem
  rw [hc] at hdigit
  cases hdigit

/-- An address from the wire reads back. -/
theorem TmuxAddress.fromStr_toString {address : TmuxAddress} (h : address.IsWire) :
    fromStr address.toString.toList = .ok address := by
  obtain ⟨value, h⟩ := h
  obtain ⟨hsession, hwindow, hpane⟩ := bounds_of_fromStr h
  have htext : address.toString.toList = address.session.toList ++ ':' ::
      (Nat.toDigits 10 address.window ++ '.' :: Nat.toDigits 10 address.pane) := by
    simp [TmuxAddress.toString, Nat.repr]
  have hcolon : ':' ∉ Nat.toDigits 10 address.window ++ '.' :: Nat.toDigits 10 address.pane := by
    rw [List.mem_append, List.mem_cons, not_or, not_or]
    exact ⟨not_mem_toDigits rfl _, by decide, not_mem_toDigits rfl _⟩
  have hsplit := rsplitOnce_eq_some.mpr ⟨htext, hcolon⟩
  have hpieces : splitOnce ['.']
      (Nat.toDigits 10 address.window ++ '.' :: Nat.toDigits 10 address.pane) =
        some (Nat.toDigits 10 address.window, Nat.toDigits 10 address.pane) :=
    splitOnce_singleton.mpr ⟨rfl, not_mem_toDigits rfl address.window⟩
  have hne : address.session.toList ≠ [] := by simpa using hsession
  rw [fromStr, hsplit]
  simp only [hpieces, if_neg hne, parseUnsigned_toDigits hwindow, parseUnsigned_toDigits hpane,
    String.ofList_toList]
  rfl

/-! ## Spawn targets -/

/-- The error for a text that is no spawn target. -/
def SpawnTarget.parseError (value : List Char) : String :=
  "invalid spawn target " ++ String.ofList value ++
    "; expected headless or tmux:<session>:<window>.<pane>"

/-- A spawn target from its text. -/
def SpawnTarget.fromStr (value : List Char) : Except String SpawnTarget :=
  if value = "headless".toList then .ok .headless
  else
    match stripPrefix "tmux:".toList value with
    | none => .error (parseError value)
    | some address =>
        match TmuxAddress.fromStr address with
        | .error _ => .error (parseError value)
        | .ok address => .ok (.tmux address)

end LittleOrgans.Core
