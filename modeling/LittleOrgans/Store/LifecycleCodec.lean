import LittleOrgans.Core.LifecycleText
import LittleOrgans.Core.SelectorText
import LittleOrgans.Library.Except
import LittleOrgans.Store.Lifecycles
import Mathlib.Logic.Relation

/-!
# The lifecycle row codec

The columns of `runtime_lifecycle` as texts and integers: `EncodedLifecycle::from_lifecycle`,
the decoding of a row, and the listing of all rows, which fails where one row does not decode.
The rows of `Database` hold the decoded values; `tryFrom_row` says when they may.

A lifecycle begins as the forking lifecycle of a request and changes by `mark_running`,
`mark_exited` and `mark_lost` with values the wire decodes (`Evolves`). `lifecycleCodec_iff`
says for which requests all of these read back, and keep the listing readable.
-/

set_option autoImplicit false

namespace LittleOrgans.Store.Codec

open LittleOrgans.Core
open LittleOrgans.Library

/-! ## Columns -/

/-- `serde_json` on strings. -/
structure JsonStrings where
  toString : List Char → List Char
  fromStr : List Char → Except String (List Char)

/-- A string is read from the text it is written as. -/
def JsonStrings.Lawful (json : JsonStrings) : Prop :=
  ∀ text, json.fromStr (json.toString text) = .ok text

/-- The columns that are read. -/
structure LifecycleRow where
  sessionId : List Char
  runtime : List Char
  isolation : List Char
  state : List Char
  shimPid : Option Int
  runtimePid : Option Int
  startTime : Option DateTime
  tmuxPane : Option (List Char)
  exitCode : Option Int
  exitSignal : Option Int
  lostEvidence : Option (List Char)
  deriving DecidableEq

/-- The state column of a forking lifecycle. -/
def STATE_FORKING : List Char := "Forking".toList
/-- The state column of a running lifecycle. -/
def STATE_RUNNING : List Char := "Running".toList
/-- The state column of an exited lifecycle. -/
def STATE_EXITED : List Char := "Exited".toList
/-- The state column of a lost lifecycle. -/
def STATE_LOST : List Char := "Lost".toList

/-- The column of the evidence of a loss. -/
def encodeLost : LostEvidence → List Char
  | .shimDiedBeforeReport => "ShimDiedBeforeReport".toList
  | .pidNotAlive => "PidNotAlive".toList
  | .pidReuseDetected => "PidReuseDetected".toList
  | .unknown => "Unknown".toList

/-- State, exit code, exit signal and evidence. -/
def encodeState : LifecycleState → List Char × Option Int × Option Int × Option (List Char)
  | .forking => (STATE_FORKING, none, none, none)
  | .running => (STATE_RUNNING, none, none, none)
  | .exited exit => (STATE_EXITED, exit.code, exit.signal, none)
  | .lost evidence => (STATE_LOST, none, none, some (encodeLost evidence))

/-- The column of the pane, as JSON text. -/
def encodeTmuxPane (json : JsonStrings) (tmuxPane : Option TmuxAddress) : Option (List Char) :=
  tmuxPane.map fun address => json.toString address.toString.toList

/-- `EncodedLifecycle::from_lifecycle`, less the time of the write. -/
def fromLifecycle (json : JsonStrings) (lc : Lifecycle) : LifecycleRow :=
  let (state, exitCode, exitSignal, lostEvidence) := encodeState lc.state
  { sessionId := uuidText lc.sessionId.uuid
    runtime := lc.runtime.asStr.toList
    isolation := lc.isolation.display
    state
    shimPid := lc.shimPid.map Int.ofNat
    runtimePid := lc.runtimePid.map Int.ofNat
    startTime := lc.startTime
    tmuxPane := encodeTmuxPane json lc.tmuxPane
    exitCode
    exitSignal
    lostEvidence }

/-! ## Decoding -/

/-- The evidence of a loss, from its column. -/
def decodeLost (value : Option (List Char)) : Except String LostEvidence :=
  match value with
  | none => .error "lost lifecycle missing evidence"
  | some value =>
      if value = "ShimDiedBeforeReport".toList then .ok .shimDiedBeforeReport
      else if value = "PidNotAlive".toList then .ok .pidNotAlive
      else if value = "PidReuseDetected".toList then .ok .pidReuseDetected
      else if value = "Unknown".toList then .ok .unknown
      else .error ("unknown lost evidence " ++ String.ofList value)

/-- The numbers of an `i32`. -/
def InI32 (value : Int) : Prop := -2147483648 ≤ value ∧ value ≤ 2147483647

instance (value : Int) : Decidable (InI32 value) := inferInstanceAs (Decidable (_ ∧ _))

/-- An `i32`, from a wider column. -/
def decodeI32 (value : Option Int) (field : String) : Except String (Option Int) :=
  match value with
  | none => .ok none
  | some inner => if InI32 inner then .ok (some inner) else .error (field ++ " out of range")

/-- A `u32`, from a wider column. -/
def decodeU32 (value : Option Int) (field : String) : Except String (Option Nat) :=
  match value with
  | none => .ok none
  | some inner =>
      if 0 ≤ inner ∧ inner ≤ u32Max then .ok (some inner.toNat)
      else .error (field ++ " out of range")

/-- The state of a row, from its state column and the columns of its end. -/
def decodeState (row : LifecycleRow) : Except String LifecycleState :=
  if row.state = STATE_FORKING then .ok .forking
  else if row.state = STATE_RUNNING then .ok .running
  else if row.state = STATE_EXITED then do
    let code ← decodeI32 row.exitCode "exit_code"
    let signal ← decodeI32 row.exitSignal "exit_signal"
    pure (.exited ⟨code, signal⟩)
  else if row.state = STATE_LOST then do
    let evidence ← decodeLost row.lostEvidence
    pure (.lost evidence)
  else .error ("unknown lifecycle state " ++ String.ofList row.state)

/-- An address in JSON, or as plain text. -/
def decodeTmuxPane (json : JsonStrings) (tmuxPane : Option (List Char)) :
    Except String (Option TmuxAddress) :=
  match tmuxPane with
  | none => .ok none
  | some value =>
      match (json.fromStr value).bind TmuxAddress.fromStr with
      | .ok pane => .ok (some pane)
      | .error _ =>
          match TmuxAddress.fromStr value with
          | .ok pane => .ok (some pane)
          | .error _ => .error "invalid stored tmux pane"

/-- The decoding of a row. -/
def tryFrom (formats : TextFormats) (json : JsonStrings) (row : LifecycleRow) :
    Except String Lifecycle := do
  let uuid ← formats.parseUuid row.sessionId
  let runtime ← RuntimeKind.fromStr row.runtime
  let isolation ← IsolationPolicy.fromStr row.isolation
  let state ← decodeState row
  let shimPid ← decodeU32 row.shimPid "shim_pid"
  let runtimePid ← decodeU32 row.runtimePid "runtime_pid"
  let tmuxPane ← decodeTmuxPane json row.tmuxPane
  pure
    { sessionId := ⟨uuid⟩
      runtime
      isolation
      state
      shimPid
      runtimePid
      startTime := row.startTime
      tmuxPane
      logAvailability := none }

/-! ## Values that read back -/

/-- Exit codes and signals of a report. -/
structure IsWireExit (exit : RuntimeExit) : Prop where
  code : ∀ code ∈ exit.code, InI32 code
  signal : ∀ signal ∈ exit.signal, InI32 signal

/-- The values of a shim's report. -/
structure IsWireReady (ready : ShimReady) : Prop where
  shimPid : ready.shimPid ≤ u32Max
  runtimePid : ready.runtimePid ≤ u32Max
  tmuxPane : ∀ address ∈ ready.tmuxPane, address.IsWire

/-- Every column but the isolation reads back. -/
structure IsWire (lc : Lifecycle) : Prop where
  runtime : lc.runtime.IsWire
  shimPid : ∀ pid ∈ lc.shimPid, pid ≤ u32Max
  runtimePid : ∀ pid ∈ lc.runtimePid, pid ≤ u32Max
  tmuxPane : ∀ address ∈ lc.tmuxPane, address.IsWire
  exit : ∀ exit, lc.state = .exited exit → IsWireExit exit

theorem decodeLost_encodeLost (evidence : LostEvidence) :
    decodeLost (some (encodeLost evidence)) = .ok evidence := by
  cases evidence with
  | shimDiedBeforeReport => rfl
  | pidNotAlive => rfl
  | pidReuseDetected => rfl
  | unknown => rfl

theorem decodeI32_of_inI32 {value : Option Int} (h : ∀ inner ∈ value, InI32 inner)
    (field : String) : decodeI32 value field = .ok value := by
  cases value with
  | none => rfl
  | some inner => exact if_pos (h inner rfl)

theorem decodeU32_of_le {value : Option Nat} (h : ∀ inner ∈ value, inner ≤ u32Max)
    (field : String) : decodeU32 (value.map Int.ofNat) field = .ok value := by
  cases value with
  | none => rfl
  | some inner =>
      have hinner : inner ≤ u32Max := h inner rfl
      exact if_pos ⟨Int.natCast_nonneg inner, Int.ofNat_le.mpr hinner⟩

theorem decodeState_fromLifecycle (json : JsonStrings) {lc : Lifecycle} (h : IsWire lc) :
    decodeState (fromLifecycle json lc) = .ok lc.state := by
  rw [fromLifecycle, decodeState]
  cases hstate : lc.state with
  | forking => rfl
  | running => rfl
  | exited exit =>
      obtain ⟨hcode, hsignal⟩ := h.exit exit hstate
      have hdecoded : (do
          let code ← decodeI32 exit.code "exit_code"
          let signal ← decodeI32 exit.signal "exit_signal"
          pure (LifecycleState.exited ⟨code, signal⟩)) = .ok (.exited exit) := by
        rw [decodeI32_of_inI32 hcode, decodeI32_of_inI32 hsignal]
        rfl
      exact hdecoded
  | lost evidence =>
      have hdecoded : (do
          let evidence ← decodeLost (some (encodeLost evidence))
          pure (LifecycleState.lost evidence)) = .ok (.lost evidence) := by
        rw [decodeLost_encodeLost]
        rfl
      exact hdecoded

theorem decodeTmuxPane_encodeTmuxPane {json : JsonStrings} (hjson : json.Lawful)
    {tmuxPane : Option TmuxAddress} (h : ∀ address ∈ tmuxPane, address.IsWire) :
    decodeTmuxPane json (encodeTmuxPane json tmuxPane) = .ok tmuxPane := by
  cases tmuxPane with
  | none => rfl
  | some address =>
      rw [encodeTmuxPane, Option.map_some, decodeTmuxPane]
      have hread : (json.fromStr (json.toString address.toString.toList)).bind
          TmuxAddress.fromStr = .ok address := by
        rw [hjson]
        exact TmuxAddress.fromStr_toString (h address rfl)
      simp only [hread]

variable {formats : TextFormats} {json : JsonStrings}

/-- A row reads back exactly when its isolation does. -/
theorem tryFrom_row (hformats : formats.ReadsUuids) (hjson : json.Lawful) {lc : Lifecycle}
    (h : IsWire lc) :
    tryFrom formats json (fromLifecycle json lc) = .ok (storedLifecycle lc) ↔
      lc.isolation ≠ .docker ⟨some ""⟩ := by
  -- every column but the isolation reads back
  have huuid : formats.parseUuid (fromLifecycle json lc).sessionId = .ok lc.sessionId.uuid :=
    hformats.hyphenated lc.sessionId.uuid
  have hruntime : RuntimeKind.fromStr (fromLifecycle json lc).runtime = .ok lc.runtime :=
    RuntimeKind.fromStr_asStr h.runtime
  have hstate := decodeState_fromLifecycle json h
  have hshim : decodeU32 (fromLifecycle json lc).shimPid "shim_pid" = .ok lc.shimPid :=
    decodeU32_of_le h.shimPid "shim_pid"
  have hpid : decodeU32 (fromLifecycle json lc).runtimePid "runtime_pid" = .ok lc.runtimePid :=
    decodeU32_of_le h.runtimePid "runtime_pid"
  have hpane : decodeTmuxPane json (fromLifecycle json lc).tmuxPane = .ok lc.tmuxPane :=
    decodeTmuxPane_encodeTmuxPane hjson h.tmuxPane
  rw [← IsolationPolicy.fromStr_display_iff]
  -- the isolation decides: its text is parsed again, and an empty profile has none
  cases hisolation : IsolationPolicy.fromStr lc.isolation.display with
  | error error =>
      have hcolumn : IsolationPolicy.fromStr (fromLifecycle json lc).isolation = .error error :=
        hisolation
      have hrow : tryFrom formats json (fromLifecycle json lc) = .error error := by
        rw [tryFrom, huuid, hruntime, hcolumn]
        rfl
      simp [hrow]
  | ok isolation =>
      have hcolumn : IsolationPolicy.fromStr (fromLifecycle json lc).isolation = .ok isolation :=
        hisolation
      have hrow : tryFrom formats json (fromLifecycle json lc) =
          .ok { storedLifecycle lc with isolation } := by
        rw [tryFrom, huuid, hruntime, hcolumn, hstate, hshim, hpid, hpane]
        rfl
      rw [hrow, Except.ok.injEq, Except.ok.injEq, storedLifecycle, Lifecycle.mk.injEq]
      simp

/-! ## Evolution -/

/-- One transition, with values from the wire. -/
inductive Step : Lifecycle → Lifecycle → Prop where
  | markRunning {lc : Lifecycle} {ready : ShimReady} :
      IsWireReady ready → Step lc (lc.markRunning ready).2
  | markExited {lc : Lifecycle} {exit : RuntimeExit} :
      IsWireExit exit → Step lc (lc.markExited exit).2
  | markLost {lc : Lifecycle} {evidence : LostEvidence} : Step lc (lc.markLost evidence).2

/-- Any number of transitions. -/
def Evolves : Lifecycle → Lifecycle → Prop := Relation.ReflTransGen Step

/-- A transition keeps what the wire gave and the isolation. -/
theorem Step.isWire {lc lc' : Lifecycle} (h : Step lc lc') (hwire : IsWire lc) :
    IsWire lc' ∧ lc'.isolation = lc.isolation := by
  cases h with
  | @markRunning ready hready =>
      rw [Lifecycle.markRunning]
      split
      · exact ⟨hwire, rfl⟩
      -- the numbers of the report are in range, so the columns they fill are
      · refine ⟨⟨hwire.runtime, ?_, ?_, hready.tmuxPane, ?_⟩, rfl⟩
        · rintro pid ⟨⟩
          exact hready.shimPid
        · rintro pid ⟨⟩
          exact hready.runtimePid
        · intro exit hexit
          cases hexit
  | @markExited exit hexit =>
      have hexited : IsWire { lc with state := .exited exit } := by
        refine ⟨hwire.runtime, hwire.shimPid, hwire.runtimePid, hwire.tmuxPane, ?_⟩
        rintro exit' ⟨⟩
        exact hexit
      rw [Lifecycle.markExited]
      cases lc.state with
      | forking => exact ⟨hexited, rfl⟩
      | running => exact ⟨hexited, rfl⟩
      -- an exit replaces an exit only where the code says so
      | exited existing =>
          dsimp only
          split
          · exact ⟨hexited, rfl⟩
          · exact ⟨hwire, rfl⟩
      | lost evidence => exact ⟨hwire, rfl⟩
  | @markLost evidence =>
      have hlost : IsWire { lc with state := .lost evidence } := by
        refine ⟨hwire.runtime, hwire.shimPid, hwire.runtimePid, hwire.tmuxPane, ?_⟩
        intro exit hexit
        cases hexit
      rw [Lifecycle.markLost]
      cases lc.state with
      | forking => exact ⟨hlost, rfl⟩
      | running => exact ⟨hlost, rfl⟩
      | exited existing => exact ⟨hwire, rfl⟩
      | lost existing => exact ⟨hwire, rfl⟩

theorem Evolves.isWire {lc lc' : Lifecycle} (h : Evolves lc lc') (hwire : IsWire lc) :
    IsWire lc' ∧ lc'.isolation = lc.isolation := by
  induction h with
  | refl => exact ⟨hwire, rfl⟩
  | tail _ hstep ih =>
      obtain ⟨hwire', hisolation⟩ := hstep.isWire ih.1
      exact ⟨hwire', hisolation.trans ih.2⟩

/-! ## The table -/

/-- `runtime_lifecycle`, by its primary key. -/
abbrev LifecycleTable := Table (List Char) LifecycleRow

/-- `list` with an empty filter. -/
def list (formats : TextFormats) (json : JsonStrings) (table : LifecycleTable) :
    Except String (List Lifecycle) :=
  table.rows.mapM fun row => tryFrom formats json row.2

/-- `insert_forking`, on the columns as text. -/
def insertForking (json : JsonStrings) (table : LifecycleTable) (lc : Lifecycle) :
    Except String LifecycleTable :=
  let row := fromLifecycle json lc
  if lc.state ≠ .forking then .error "insert_forking requires Forking lifecycle state"
  else if table.contains row.sessionId then .error "duplicate key: runtime_lifecycle_pkey"
  else .ok (table.insert row.sessionId row)

/-- `update_lifecycle`, on the columns as text. -/
def updateLifecycle (json : JsonStrings) (table : LifecycleTable) (lc : Lifecycle) :
    Except String LifecycleTable :=
  let row := fromLifecycle json lc
  if table.contains row.sessionId then .ok (table.modify row.sessionId fun _ => row)
  else .error "session not found"

/-- A write of one of these lifecycles, or a deletion. -/
inductive Writes (json : JsonStrings) (P : Lifecycle → Prop) :
    LifecycleTable → LifecycleTable → Prop where
  | insert {table table' : LifecycleTable} {lc : Lifecycle} :
      P lc → insertForking json table lc = .ok table' → Writes json P table table'
  | update {table table' : LifecycleTable} {lc : Lifecycle} :
      P lc → updateLifecycle json table lc = .ok table' → Writes json P table table'
  | delete {table : LifecycleTable} (sessionId : List Char) :
      Writes json P table (table.erase sessionId)

/-- All rows decode. -/
def Lists (formats : TextFormats) (json : JsonStrings) (table : LifecycleTable) : Prop :=
  ∃ lifecycles, list formats json table = .ok lifecycles

theorem lists_iff {table : LifecycleTable} :
    Lists formats json table ↔
      ∀ key row, table.lookup key = some row → ∃ lc, tryFrom formats json row = .ok lc := by
  rw [Lists, list, Except.mapM_isOk]
  constructor
  · intro h key row hrow
    exact h (key, row) (Table.mem_rows_iff.mpr hrow)
  · rintro h ⟨key, row⟩ hrow
    exact h key row (Table.mem_rows_iff.mp hrow)

/-- A write of a lifecycle that reads back keeps the listing. -/
theorem Writes.lists {P : Lifecycle → Prop} {table table' : LifecycleTable}
    (h : Writes json P table table')
    (hreads : ∀ lc, P lc → ∃ lc', tryFrom formats json (fromLifecycle json lc) = .ok lc')
    (hlists : Lists formats json table) : Lists formats json table' := by
  rw [lists_iff] at hlists ⊢
  intro key row hrow
  cases h with
  | @insert _ lc hlc hinsert =>
      rw [insertForking] at hinsert
      split at hinsert
      · cases hinsert
      · split at hinsert
        · cases hinsert
        · next hkey =>
            cases hinsert
            -- the key is new, so the row is the one that was inserted or another one
            have hnone : table.lookup (fromLifecycle json lc).sessionId = none := by
              simpa [Table.contains] using hkey
            rw [Table.lookup_insert hnone] at hrow
            split at hrow
            · cases hrow
              exact hreads lc hlc
            · exact hlists key row hrow
  | @update _ lc hlc hupdate =>
      rw [updateLifecycle] at hupdate
      split at hupdate
      · cases hupdate
        -- the row that was written decodes, the others are as before
        rw [Table.lookup_modify] at hrow
        split at hrow
        · obtain ⟨old, -, rfl⟩ := Option.map_eq_some_iff.mp hrow
          exact hreads lc hlc
        · exact hlists key row hrow
      · cases hupdate
  | delete sessionId =>
      rw [Table.lookup_erase] at hrow
      split at hrow
      · cases hrow
      · exact hlists key row hrow

/-- Any run of such writes keeps the listing. -/
theorem lists_of_writes {P : Lifecycle → Prop} {table table' : LifecycleTable}
    (h : Relation.ReflTransGen (Writes json P) table table')
    (hreads : ∀ lc, P lc → ∃ lc', tryFrom formats json (fromLifecycle json lc) = .ok lc')
    (hlists : Lists formats json table) : Lists formats json table' := by
  induction h with
  | refl => exact hlists
  | tail _ hwrite ih => exact hwrite.lists hreads ih

/-! ## Requests -/

/-- What a spawn inserts: the forking lifecycle with the kind and the isolation of the
request. -/
def forkingLifecycle (sessionId : SessionId) (runtime : RuntimeKind)
    (isolation : IsolationPolicy) : Lifecycle :=
  { Lifecycle.forking sessionId runtime with isolation }

/-- Every evolution of the lifecycle reads back, and no run that writes them makes the listing
fail. -/
structure ReadsBack (formats : TextFormats) (json : JsonStrings) (lc : Lifecycle) : Prop where
  roundTrip : ∀ lc', Evolves lc lc' →
    tryFrom formats json (fromLifecycle json lc') = .ok (storedLifecycle lc')
  listing : ∀ table table', Lists formats json table →
    Relation.ReflTransGen (Writes json (Evolves lc)) table table' → Lists formats json table'

/-- The lifecycles of a request read back exactly when its isolation is no Docker profile with
an empty name. -/
theorem lifecycleCodec_iff (hformats : formats.ReadsUuids) (hjson : json.Lawful)
    (sessionId : SessionId) {runtime : RuntimeKind} (hruntime : runtime.IsWire)
    (isolation : IsolationPolicy) :
    ReadsBack formats json (forkingLifecycle sessionId runtime isolation) ↔
      isolation ≠ .docker ⟨some ""⟩ := by
  have hwire : IsWire (forkingLifecycle sessionId runtime isolation) := by
    refine ⟨hruntime, ?_, ?_, ?_, ?_⟩
    · rintro pid ⟨⟩
    · rintro pid ⟨⟩
    · rintro address ⟨⟩
    · rintro exit ⟨⟩
  constructor
  · intro h
    exact (tryFrom_row hformats hjson hwire).mp (h.roundTrip _ .refl)
  · intro hisolation
    have hround : ∀ lc', Evolves (forkingLifecycle sessionId runtime isolation) lc' →
        tryFrom formats json (fromLifecycle json lc') = .ok (storedLifecycle lc') := by
      intro lc' hevolves
      obtain ⟨hwire', hsame⟩ := hevolves.isWire hwire
      apply (tryFrom_row hformats hjson hwire').mpr
      rw [hsame]
      exact hisolation
    exact ⟨hround, fun table table' hlists hwrites =>
      lists_of_writes hwrites (fun lc hlc => ⟨_, hround lc hlc⟩) hlists⟩

/-- Strings that need no escapes, in JSON. -/
def quotedStrings : JsonStrings where
  toString text := '"' :: (text ++ ['"'])
  fromStr value :=
    match (stripPrefix ['"'] value).bind (stripSuffix ['"']) with
    | some text => .ok text
    | none => .error "expected a string"

theorem lawful_quotedStrings : quotedStrings.Lawful := by
  intro text
  have hprefix : stripPrefix ['"'] ('"' :: (text ++ ['"'])) = some (text ++ ['"']) :=
    stripPrefix_append ['"'] (text ++ ['"'])
  simp [quotedStrings, hprefix]

/-- A request with the default Docker profile. -/
theorem readsBack_docker :
    ReadsBack hyphenatedFormats quotedStrings
      (forkingLifecycle ⟨1⟩ .claude (.docker ⟨none⟩)) :=
  (lifecycleCodec_iff readsUuids_hyphenatedFormats lawful_quotedStrings ⟨1⟩
    ⟨"claude".toList, rfl⟩ (.docker ⟨none⟩)).mpr (by decide)

/-- A request with an empty profile name. -/
def emptyProfile : Lifecycle := forkingLifecycle ⟨1⟩ .claude (.docker ⟨some ""⟩)

theorem tryFrom_emptyProfile (hformats : formats.ReadsUuids) :
    tryFrom formats json (fromLifecycle json emptyProfile) =
      .error "invalid isolation policy docker:; expected host, docker, or docker:PROFILE" := by
  have huuid : formats.parseUuid (fromLifecycle json emptyProfile).sessionId = .ok 1 :=
    hformats.hyphenated 1
  rw [tryFrom, huuid]
  rfl

/-- The row of an empty profile name does not decode, and the listing fails with it. -/
theorem emptyProfile_not_listed :
    (∃ table, insertForking quotedStrings .empty emptyProfile = .ok table ∧
      ¬Lists hyphenatedFormats quotedStrings table) ∧
    ¬ReadsBack hyphenatedFormats quotedStrings emptyProfile := by
  have herror : tryFrom hyphenatedFormats quotedStrings
      (fromLifecycle quotedStrings emptyProfile) = .error _ :=
    tryFrom_emptyProfile readsUuids_hyphenatedFormats
  have hnone : ∀ lc, tryFrom hyphenatedFormats quotedStrings
      (fromLifecycle quotedStrings emptyProfile) ≠ .ok lc := by
    intro lc hlc
    rw [herror] at hlc
    cases hlc
  constructor
  · refine ⟨Table.empty.insert (uuidText 1) (fromLifecycle quotedStrings emptyProfile), rfl, ?_⟩
    intro hlists
    obtain ⟨lc, hlc⟩ := lists_iff.mp hlists (uuidText 1) _ (Table.lookup_insert_self rfl _)
    exact hnone lc hlc
  · intro h
    exact hnone _ (h.roundTrip emptyProfile .refl)

end LittleOrgans.Store.Codec
