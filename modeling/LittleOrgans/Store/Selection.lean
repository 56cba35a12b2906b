import LittleOrgans.Core.Selector
import LittleOrgans.Library.Except
import LittleOrgans.Store.Sessions

/-!
# Selecting sessions

The listing queries of the session store, with their fast paths for each kind of
selector. Each decodes the rows it found and fails when one of them does not decode.
A query whose parameters cannot be bound fails at once (`queryBound`). A selector by id
prefix fails on a short or malformed prefix and when it matches more than one session.
-/

set_option autoImplicit false

namespace LittleOrgans.Store

open LittleOrgans.Core
open LittleOrgans.Library

/-- Why a query returns no sessions. -/
inductive SessionRowError where
  | database (message : String)
  | row (message : String)
  | prefixTooShort (text : String) (minimum : Nat)
  | invalidPrefix (text : String)
  | ambiguous (text : String) (candidates : List SessionId)

/-- `validate_session_id_prefix`. -/
def validateSessionIdPrefix (text : String) : Except SessionRowError Unit :=
  if text.utf8ByteSize < MIN_SELECTOR_PREFIX_LEN then
    .error (.prefixTooShort text MIN_SELECTOR_PREFIX_LEN)
  else if text.toList.all fun ch => ch.isDigit || ('a' ≤ ch && ch ≤ 'f') || ch = '-' then .ok ()
  else .error (.invalidPrefix text)

/-- PostgreSQL takes no text with a NUL, and a statement has at most 65535 parameters. -/
def Bindable (params : List String) : Prop :=
  params.length ≤ 65535 ∧ ∀ param ∈ params, '\x00' ∉ param.toList

instance (params : List String) : Decidable (Bindable params) :=
  inferInstanceAs (Decidable (params.length ≤ 65535 ∧ ∀ param ∈ params, '\x00' ∉ param.toList))

/-- The parameters that the query of a selector binds, as far as they are free text: the
text of an id, a namespace and a prefix that has been validated contain no NUL. -/
def boundTexts : Selector → List String
  | .role name => [name]
  | .dir path => [path]
  | .label key (.eq value) => [key, value]
  | .label key (.isIn values) => if values = [] then [] else key :: values
  | .all => []
  | .id _ => []
  | .idPrefix _ => []
  | .inNamespace _ => []
  | .and _ => []

theorem bindable_nil : Bindable [] :=
  ⟨Nat.zero_le _, fun _ hmem => absurd hmem List.not_mem_nil⟩

namespace Database

/-- The rows that satisfy a condition, `ORDER BY created_at`. -/
def selectSessions (db : Database) (keep : SessionId → SessionRow → Bool) :
    List (SessionId × SessionRow) :=
  (db.sessions.rows.filter fun row => keep row.1 row.2).insertionSort fun a b =>
    a.2.createdAt ≤ b.2.createdAt

/-- One row of a query, decoded. -/
def decodeRow (db : Database) (row : SessionId × SessionRow) : Except SessionRowError Session :=
  match sessionFromRow row.1 row.2 (db.labelsForSession row.1) with
  | .ok session => .ok session
  | .error message => .error (.row message)

/-- `query_sessions`: the selected rows, decoded. -/
def querySessions (db : Database) (keep : SessionId → SessionRow → Bool) :
    Except SessionRowError (List Session) :=
  (db.selectSessions keep).mapM db.decodeRow

/-- `query_sessions` with parameters of free text. -/
def queryBound (db : Database) (params : List String) (keep : SessionId → SessionRow → Bool) :
    Except SessionRowError (List Session) :=
  if Bindable params then db.querySessions keep
  else .error (.database "invalid byte sequence for encoding, or too many parameters")

/-- `list_sessions_by_ids`. -/
def listSessionsByIds (db : Database) (ids : List SessionId) :
    Except SessionRowError (List Session) :=
  if ids = [] then .ok [] else db.querySessions fun id _ => decide (id ∈ ids)

/-- `query_prefix_sessions`. -/
def queryPrefixSessions (db : Database) (text : String) : Except SessionRowError (List Session) :=
  do
    validateSessionIdPrefix text
    let sessions ← db.querySessions fun id _ => id.startsWith text
    if sessions.length ≤ 1 then pure sessions
    else .error (.ambiguous text (sessions.map fun session => session.id))

/-- The sessions a conjunction starts from: those of its first prefix, after the other
prefixes have been checked, or all. -/
def andCandidates (db : Database) : List String → Except SessionRowError (List Session)
  | [] => db.querySessions fun _ _ => true
  | first :: rest => do
      let sessions ← db.queryPrefixSessions first
      let _ ← rest.mapM db.queryPrefixSessions
      pure sessions

/-- `query_and_sessions`: the candidates are filtered in memory. -/
def queryAndSessions (db : Database) (selectors : List Selector) :
    Except SessionRowError (List Session) := do
  let sessions ← db.andCandidates (collectPrefixSelectors selectors)
  pure (sessions.filter fun session => sessionMatchesAll session selectors)

/-- `list_sessions_by_selector`. -/
def listSessionsBySelector (db : Database) : Selector → Except SessionRowError (List Session)
  | .all => db.querySessions fun _ _ => true
  | .id id => db.querySessions fun id' _ => decide (id' = id)
  | .idPrefix text => db.queryPrefixSessions text
  | .role name => db.queryBound [name] fun _ row => decide (row.role = name)
  | .inNamespace slug => db.querySessions fun _ row => decide (row.namespaceSlug = slug)
  | .dir path => db.queryBound [path] fun _ row => decide (row.dir = path)
  | .and selectors => db.queryAndSessions selectors
  | .label key (.eq value) => db.queryBound [key, value] fun id _ =>
      decide (db.labels.lookup (id, key) = some value)
  | .label key (.isIn values) =>
      if values = [] then .ok []
      else db.queryBound (key :: values) fun id _ =>
        (db.labels.lookup (id, key)).any fun value => decide (value ∈ values)

/-! ## What a query returns -/

/-- The session stored under an id: its row decodes to it. -/
def Decodes (db : Database) (id : SessionId) (session : Session) : Prop :=
  ∃ row, db.sessions.lookup id = some row ∧
    sessionFromRow id row (db.labelsForSession id) = .ok session

theorem sessionFromRow_id {id : SessionId} {row : SessionRow} {labels : List Label}
    {session : Session} (h : sessionFromRow id row labels = .ok session) : session.id = id := by
  obtain ⟨state, -, hpure⟩ := Except.bind_eq_ok.mp h
  cases hpure
  rfl

theorem Decodes.id_eq {db : Database} {id : SessionId} {session : Session}
    (h : db.Decodes id session) : session.id = id := by
  obtain ⟨row, -, hsession⟩ := h
  exact sessionFromRow_id hsession

theorem Decodes.unique {db : Database} {id : SessionId} {session session' : Session}
    (h : db.Decodes id session) (h' : db.Decodes id session') : session = session' := by
  obtain ⟨row, hrow, hsession⟩ := h
  obtain ⟨row', hrow', hsession'⟩ := h'
  rw [hrow] at hrow'
  cases hrow'
  rw [hsession] at hsession'
  cases hsession'
  rfl

theorem mem_selectSessions {db : Database} {keep : SessionId → SessionRow → Bool}
    {id : SessionId} {row : SessionRow} :
    (id, row) ∈ db.selectSessions keep ↔
      db.sessions.lookup id = some row ∧ keep id row = true := by
  rw [selectSessions, List.mem_insertionSort, List.mem_filter, Table.mem_rows_iff]

theorem decodeRow_eq_ok {db : Database} {row : SessionId × SessionRow} {session : Session} :
    db.decodeRow row = .ok session ↔
      sessionFromRow row.1 row.2 (db.labelsForSession row.1) = .ok session := by
  rw [decodeRow]
  cases sessionFromRow row.1 row.2 (db.labelsForSession row.1) <;> simp

theorem queryBound_of_bindable {db : Database} {params : List String} (h : Bindable params)
    (keep : SessionId → SessionRow → Bool) : db.queryBound params keep = db.querySessions keep :=
  if_pos h

theorem querySessions_of_queryBound {db : Database} {params : List String}
    {keep : SessionId → SessionRow → Bool} {sessions : List Session}
    (h : db.queryBound params keep = .ok sessions) : db.querySessions keep = .ok sessions := by
  rw [queryBound] at h
  split at h
  · exact h
  · cases h

/-- Free text that cannot be bound fails the query of a selector. -/
theorem listSessionsBySelector_of_not_bindable {db : Database} {selector : Selector}
    (h : ¬Bindable (boundTexts selector)) :
    ∃ e, db.listSessionsBySelector selector = .error e := by
  cases selector with
  | role name => exact ⟨_, if_neg h⟩
  | dir path => exact ⟨_, if_neg h⟩
  | label key op =>
      cases op with
      | eq value => exact ⟨_, if_neg h⟩
      | isIn values =>
          rw [boundTexts] at h
          rw [listSessionsBySelector]
          by_cases hempty : values = []
          · rw [if_pos hempty] at h
            exact absurd bindable_nil h
          · rw [if_neg hempty] at h ⊢
            exact ⟨_, if_neg h⟩
  | all => exact absurd bindable_nil h
  | id id => exact absurd bindable_nil h
  | idPrefix text => exact absurd bindable_nil h
  | inNamespace slug => exact absurd bindable_nil h
  | and selectors => exact absurd bindable_nil h

theorem mem_querySessions {db : Database} {keep : SessionId → SessionRow → Bool}
    {sessions : List Session} (h : db.querySessions keep = .ok sessions) {session : Session} :
    session ∈ sessions ↔ ∃ id row, db.sessions.lookup id = some row ∧ keep id row = true ∧
      db.Decodes id session := by
  rw [Except.mem_of_mapM_eq_ok h]
  constructor
  · rintro ⟨⟨id, row⟩, hrow, hdecode⟩
    obtain ⟨hlookup, hkeep⟩ := mem_selectSessions.mp hrow
    exact ⟨id, row, hlookup, hkeep, row, hlookup, decodeRow_eq_ok.mp hdecode⟩
  · rintro ⟨id, row, hlookup, hkeep, row', hlookup', hdecode⟩
    rw [hlookup] at hlookup'
    cases hlookup'
    exact ⟨(id, row), mem_selectSessions.mpr ⟨hlookup, hkeep⟩, decodeRow_eq_ok.mpr hdecode⟩

/-- A query succeeds when every row it selects decodes. -/
theorem querySessions_isOk {db : Database} {keep : SessionId → SessionRow → Bool} :
    (∃ sessions, db.querySessions keep = .ok sessions) ↔
      ∀ id row, db.sessions.lookup id = some row → keep id row = true →
        ∃ session, db.Decodes id session := by
  rw [querySessions, Except.mapM_isOk]
  constructor
  · intro h id row hlookup hkeep
    obtain ⟨session, hdecode⟩ := h (id, row) (mem_selectSessions.mpr ⟨hlookup, hkeep⟩)
    exact ⟨session, row, hlookup, decodeRow_eq_ok.mp hdecode⟩
  · rintro h ⟨id, row⟩ hrow
    obtain ⟨hlookup, hkeep⟩ := mem_selectSessions.mp hrow
    obtain ⟨session, row', hlookup', hdecode⟩ := h id row hlookup hkeep
    rw [hlookup] at hlookup'
    cases hlookup'
    exact ⟨session, decodeRow_eq_ok.mpr hdecode⟩

end Database

end LittleOrgans.Store
