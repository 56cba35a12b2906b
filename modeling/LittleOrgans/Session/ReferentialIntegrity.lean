import LittleOrgans.Session.StoreMoves

/-!
# Referential integrity

The schema has no foreign keys between sessions, namespaces, labels, messages and
deliveries. Each request looks at what it refers to before it writes, in another
transaction; a label edit and a read receipt do not look at all.

A delivery always has its message. The other references hold in every run in which no
deletion comes between what another request has found and what it writes
(`references_hold`): then what the requests have looked at, and what the statements of a
deletion cover, is still so when they write (`Relies`).
-/

set_option autoImplicit false

namespace LittleOrgans.Session

open LittleOrgans.Core
open LittleOrgans.Library
open LittleOrgans.Store
open LittleOrgans.Daemon

/-- Every delivery refers to a stored message. -/
def DeliveriesHaveMessages (db : Database) : Prop :=
  ∀ key row, db.deliveries.lookup key = some row → db.messages.contains key.1 = true

/-- Every reference of a stored row has its target. -/
structure References (db : Database) : Prop where
  namespaces : ∀ id row, db.sessions.lookup id = some row →
    db.namespaceExists row.namespaceSlug = true
  labels : ∀ key value, db.labels.lookup key = some value → db.sessions.contains key.1 = true
  deliveries : ∀ key row, db.deliveries.lookup key = some row →
    db.sessions.contains key.2 = true
  messages : DeliveriesHaveMessages db

/-! ## The order of the requests -/

/-- The request is inside the deletion of the namespace of a session, past the statement. -/
def StoreRequest.isPast (db : Database) (id : SessionId) (statement : DeleteStatement) :
    StoreRequest → Bool
  | .deleting slug rest _ =>
      ((db.sessions.lookup id).any fun row => row.namespaceSlug = slug) && statement ∉ rest
  | _ => false

/-- Whether a step comes at a time that suits another request. A deletion commits while the
other has found none of the sessions it deletes, and an entry goes while the other has not
found it. A session is committed while the other does not empty its namespace; a label and
a delivery are written while the other is not past the statement that deletes such rows of
the session. -/
def suits (db : Database) : StoreRequest → StoreChoice → StoreRequest → Bool
  | .deleting _ [] deleted, .goOn, other => other.found.all fun id => id ∉ deleted.sessions
  | .removeEntry slug, .goOn, other => other.entering ≠ some slug
  | .commitIntent _ session _, .timed _, other =>
      other.emptying ≠ some session.namespaceSlug &&
        other.deletion.all fun deleted => session.id ∉ deleted.sessions
  | .mutate (id :: _) (.set _), .goOn, other => !other.isPast db id (.labels id)
  | request, .goOn, other => request.recipients.all fun id => !other.isPast db id (.deliveries id)
  | _, _, _ => true

/-- The session a read receipt goes to is stored: the code does not look. -/
def senderStored (db : Database) : StoreRequest → StoreChoice → Bool
  | .receipts _ (item :: _), .goOn => (receiptTo item).all db.sessions.contains
  | _, _ => true

/-- The condition of a step: it suits every other request, and a receipt has where to go. -/
def Undisturbed {ι : Type} (s : StoreState ι) (a : ι × StoreChoice) : Prop :=
  (∀ j, suits s.db (s.requests a.1) a.2 (s.requests j) = true) ∧
    senderStored s.db (s.requests a.1) a.2 = true

instance {ι : Type} [Fintype ι] (s : StoreState ι) (a : ι × StoreChoice) :
    Decidable (Undisturbed s a) :=
  inferInstanceAs (Decidable ((∀ _, _ = _) ∧ _ = _))

/-! ## What a deletion deletes -/

/-- The messages a deletion has deleted were written before, and it has deleted all their
deliveries. -/
def DeletesWhole (db : Database) (issued : List MessageId) (deleted : Deleted) : Prop :=
  ∀ id ∈ deleted.messages, id ∈ issued ∧
    ∀ key row, db.deliveries.lookup key = some row → key.1 = id → key ∈ deleted.deliveries

/-- Every stored message has an id that was issued. -/
def MessagesIssued (db : Database) (issued : List MessageId) : Prop :=
  ∀ id row, db.messages.lookup id = some row → id ∈ issued

section Deletions

variable {db db' : Database} {issued issued' : List MessageId} {deleted : Deleted}

/-- Deliveries that are added to messages with new ids do not disturb a deletion. -/
theorem DeletesWhole.mono (h : DeletesWhole db issued deleted) (hissued : issued ⊆ issued')
    (hnew : ∀ key row, db'.deliveries.lookup key = some row → key.1 ∈ issued →
      ∃ old, db.deliveries.lookup key = some old) : DeletesWhole db' issued' deleted := by
  intro id hid
  obtain ⟨hold, hdeliveries⟩ := h id hid
  refine ⟨hissued hold, fun key row hrow hkey => ?_⟩
  obtain ⟨old, hdelivery⟩ := hnew key row hrow (hkey ▸ hold)
  exact hdeliveries key old hdelivery hkey

theorem deletesWhole_none : DeletesWhole db issued .none := by
  intro id hid
  cases hid

theorem mem_keys_of_lookup {κ ρ : Type} [DecidableEq κ] {t : Table κ ρ} {key : κ} {row : ρ}
    (h : t.lookup key = some row) : key ∈ t.rows.map Prod.fst :=
  List.mem_map.mpr ⟨(key, row), Table.mem_rows_iff.mpr h, rfl⟩

theorem DeletesWhole.statement (h : DeletesWhole db issued deleted)
    (hmessages : MessagesIssued db issued) (slug : String) (statement : DeleteStatement) :
    DeletesWhole db issued (deleted.statement slug db statement) := by
  cases statement with
  | labels id => exact h
  | sessions => exact h
  | deliveries id =>
      intro messageId hid
      obtain ⟨hissued, hdeliveries⟩ := h messageId hid
      refine ⟨hissued, fun key row hrow hkey => ?_⟩
      exact List.mem_append_left _ (hdeliveries key row hrow hkey)
  | messages id =>
      intro messageId hid
      rcases List.mem_append.mp hid with hold | hcollected
      · exact h messageId hold
      · -- a message is collected when no delivery of it is left
        obtain ⟨⟨messageId', message⟩, hrow, rfl⟩ := List.mem_map.mp hcollected
        obtain ⟨hstored, hcond⟩ := List.mem_filter.mp hrow
        obtain ⟨-, hleft⟩ := of_decide_eq_true hcond
        refine ⟨hmessages messageId' message (Table.mem_rows_iff.mp hstored), ?_⟩
        intro key row hdelivery hkey
        exact hleft key (mem_keys_of_lookup hdelivery) hkey

end Deletions

/-! ## What a write keeps -/

section Writes

variable {db db' : Database}

theorem DeliveriesHaveMessages.of_same (hmessages : DeliveriesHaveMessages db)
    (h : SameReferences db db') : DeliveriesHaveMessages db' := by
  intro key row hrow
  obtain ⟨old, hold⟩ := h.delivery hrow
  rw [h.messages]
  exact hmessages key old hold

theorem References.of_same (href : References db) (h : SameReferences db db') : References db' where
  namespaces := by
    intro id row hrow
    have hslug := h.sessions id
    rw [hrow] at hslug
    obtain ⟨old, hold, hsame⟩ := Option.map_eq_some_iff.mp hslug.symm
    have := href.namespaces id old hold
    rwa [hsame, Database.namespaceExists, ← h.namespaces] at this
  labels := by
    intro key value hvalue
    rw [h.labels] at hvalue
    rw [h.contains_sessions]
    exact href.labels key value hvalue
  deliveries := by
    intro key row hrow
    obtain ⟨old, hold⟩ := h.delivery hrow
    rw [h.contains_sessions]
    exact href.deliveries key old hold
  messages := href.messages.of_same h

theorem lookup_labelsUpserted_cases {table : Table (SessionId × String) String} {id : SessionId}
    {labels : List Label} {key : SessionId × String} {value : String}
    (h : (labelsUpserted table id labels).lookup key = some value) :
    key.1 = id ∨ table.lookup key = some value := by
  induction labels generalizing table with
  | nil => exact .inr h
  | cons label labels ih =>
      rcases ih h with hkey | hold
      · exact .inl hkey
      · rw [Table.lookup_upsert] at hold
        split at hold
        · next hkey => exact .inl (by rw [hkey])
        · exact .inr hold

theorem contains_insert {κ ρ : Type} [DecidableEq κ] {t : Table κ ρ} {key other : κ} {row : ρ}
    (h : t.contains other = true) : (t.insert key row).contains other = true := by
  obtain ⟨old, hold⟩ := Table.contains_iff.mp h
  by_cases hkey : other = key
  · subst hkey
    rwa [Table.insert_of_lookup hold]
  · rw [Table.contains, Table.lookup_insert_ne hkey]
    exact h

theorem contains_insert_self {κ ρ : Type} [DecidableEq κ] (t : Table κ ρ) (key : κ) (row : ρ) :
    (t.insert key row).contains key = true := by
  cases hold : t.lookup key with
  | none => rw [Table.contains, Table.lookup_insert_self hold, Option.isSome_some]
  | some old => rw [Table.insert_of_lookup hold, Table.contains, hold, Option.isSome_some]

theorem References.commitIntent (h : References db) {id : SessionId} {session : Session}
    {lifecycle : Lifecycle} {now : DateTime}
    (hcommit : db.commitSpawnIntent id session lifecycle now = .ok db')
    (hexists : db.namespaceExists session.namespaceSlug = true) : References db' := by
  obtain ⟨hfree, -, rfl⟩ := Database.commitSpawnIntent_eq_ok hcommit
  constructor
  · intro id' row hrow
    have hlookup : (db.sessions.insert session.id (sessionRow session)).lookup id' = some row :=
      hrow
    rw [Table.lookup_insert hfree] at hlookup
    split at hlookup
    · cases hlookup
      exact hexists
    · exact h.namespaces id' row hlookup
  · intro key value hvalue
    rcases lookup_labelsUpserted_cases hvalue with hkey | hold
    · rw [hkey]
      exact contains_insert_self _ _ _
    · exact contains_insert (h.labels key value hold)
  · intro key row hrow
    exact contains_insert (h.deliveries key row hrow)
  · exact h.messages

theorem References.mutate (h : References db) {id : SessionId} {mutation : LabelMutation}
    (hexists : ∀ label, mutation = .set label → db.sessions.contains id = true) :
    References (mutation.apply db id) := by
  refine ⟨?_, ?_, ?_, ?_⟩
  · cases mutation <;> exact h.namespaces
  · intro key value hvalue
    cases mutation with
    | set label =>
        rcases lookup_labelsUpserted_cases hvalue with hkey | hold
        · rw [hkey]
          exact hexists label rfl
        · exact h.labels key value hold
    | remove labelKey =>
        have hlookup : (db.labels.erase (id, labelKey)).lookup key = some value := hvalue
        rw [Table.lookup_erase] at hlookup
        split at hlookup
        · cases hlookup
        · exact h.labels key value hlookup
  · cases mutation <;> exact h.deliveries
  · cases mutation <;> exact h.messages

theorem DeliveriesHaveMessages.commitInsert (h : DeliveriesHaveMessages db) (mail : Mail)
    (recipientIds : List SessionId) :
    DeliveriesHaveMessages (db.commitInsert mail recipientIds) := by
  intro key row hrow
  rcases lookup_commitInsert_cases hrow with hold | ⟨hid, -, -⟩
  · exact contains_insert (h key row hold)
  · rw [hid]
    exact contains_insert_self _ _ _

theorem References.commitInsert (h : References db) {mail : Mail} {recipientIds : List SessionId}
    (hexists : ∀ id ∈ recipientIds, db.sessions.contains id = true) :
    References (db.commitInsert mail recipientIds) := by
  constructor
  · exact h.namespaces
  · exact h.labels
  · intro key row hrow
    rcases lookup_commitInsert_cases hrow with hold | ⟨-, hmem, -⟩
    · exact h.deliveries key row hold
    · exact hexists key.2 hmem
  · exact h.messages.commitInsert mail recipientIds

theorem References.createNamespace (h : References db) (slug : String) (createdAt : DateTime) :
    References { db with namespaces := db.namespaces.insert slug createdAt } where
  namespaces id row hrow := contains_insert (h.namespaces id row hrow)
  labels := h.labels
  deliveries := h.deliveries
  messages := h.messages

theorem References.removeEntry (h : References db) {slug : String}
    (hempty : ∀ id row, db.sessions.lookup id = some row → row.namespaceSlug ≠ slug) :
    References (db.deleteNamespace slug) where
  namespaces := by
    intro id row hrow
    have hexists := h.namespaces id row hrow
    have hne := hempty id row hrow
    rw [Database.namespaceExists, Database.deleteNamespace, Table.contains, Table.lookup_erase,
      if_neg hne]
    exact hexists
  labels := h.labels
  deliveries := h.deliveries
  messages := h.messages

theorem lookup_filterRows_some {κ ρ : Type} [DecidableEq κ] {t : Table κ ρ} {p : κ → ρ → Bool}
    {key : κ} {row : ρ} (h : (t.filterRows p).lookup key = some row) :
    t.lookup key = some row ∧ p key row = true := by
  rw [Table.lookup_filterRows] at h
  exact Option.filter_eq_some_iff.mp h

theorem contains_filterRows {κ ρ : Type} [DecidableEq κ] {t : Table κ ρ} {p : κ → Bool} {key : κ}
    (h : t.contains key = true) (hkeep : p key = true) :
    (t.filterRows fun k _ => p k).contains key = true := by
  obtain ⟨row, hrow⟩ := Table.contains_iff.mp h
  rw [Table.contains, Table.lookup_filterRows, hrow, Option.filter_some, if_pos hkeep,
    Option.isSome_some]

theorem DeliveriesHaveMessages.commitDeletion (h : DeliveriesHaveMessages db)
    {issued : List MessageId} {deleted : Deleted} (hwhole : DeletesWhole db issued deleted) :
    DeliveriesHaveMessages (deleted.commit db) := by
  intro key row hrow
  obtain ⟨hold, hkept⟩ := lookup_filterRows_some hrow
  refine contains_filterRows (h key row hold) (decide_eq_true fun hmessage => ?_)
  exact of_decide_eq_true hkept ((hwhole key.1 hmessage).2 key row hold rfl)

theorem References.commitDeletion (h : References db) {issued : List MessageId}
    {deleted : Deleted} (hwhole : DeletesWhole db issued deleted)
    (hlabels : ∀ key value, db.labels.lookup key = some value → key.1 ∈ deleted.sessions →
      key ∈ deleted.labels)
    (hdeliveries : ∀ key row, db.deliveries.lookup key = some row → key.2 ∈ deleted.sessions →
      key ∈ deleted.deliveries) : References (deleted.commit db) := by
  constructor
  · intro id row hrow
    obtain ⟨hold, -⟩ := lookup_filterRows_some hrow
    exact h.namespaces id row hold
  · intro key value hvalue
    obtain ⟨hold, hkept⟩ := lookup_filterRows_some hvalue
    refine contains_filterRows (h.labels key value hold) (decide_eq_true fun hsession => ?_)
    exact of_decide_eq_true hkept (hlabels key value hold hsession)
  · intro key row hrow
    obtain ⟨hold, hkept⟩ := lookup_filterRows_some hrow
    refine contains_filterRows (h.deliveries key row hold) (decide_eq_true fun hsession => ?_)
    exact of_decide_eq_true hkept (hdeliveries key row hold hsession)
  · exact h.messages.commitDeletion hwhole

end Writes

/-! ## What the requests rely on -/

/-- What a deletion that has deleted `deleted` and still goes through `rest` covers: the
sessions of the namespace, with their labels and deliveries, and no other session. -/
structure Covers (db : Database) (slug : String) (rest : List DeleteStatement)
    (deleted : Deleted) : Prop where
  sessions : ∀ id, db.InNamespace slug id → .sessions ∈ rest ∨ id ∈ deleted.sessions
  own : ∀ id row, db.sessions.lookup id = some row → id ∈ deleted.sessions →
    row.namespaceSlug = slug
  labels : ∀ key value, db.labels.lookup key = some value → db.InNamespace slug key.1 →
    .labels key.1 ∈ rest ∨ key ∈ deleted.labels
  deliveries : ∀ key row, db.deliveries.lookup key = some row → db.InNamespace slug key.2 →
    .deliveries key.2 ∈ rest ∨ key ∈ deleted.deliveries

/-- What a request has found or deleted is so in the store. -/
structure Relies (db : Database) (request : StoreRequest) : Prop where
  found : ∀ id ∈ request.found, db.sessions.contains id = true
  entering : ∀ slug, request.entering = some slug → db.namespaceExists slug = true
  deleting : ∀ slug rest deleted, request = .deleting slug rest deleted →
    Covers db slug rest deleted
  removing : ∀ slug, request = .removeEntry slug → ∀ id, ¬db.InNamespace slug id

section Relies

variable {db db' : Database} {request request' other : StoreRequest} {choice : StoreChoice}

/-- A request that does not empty a namespace relies on what it has found. -/
theorem Relies.of_found (hfound : ∀ id ∈ request.found, db.sessions.contains id = true)
    (hentering : ∀ slug, request.entering = some slug → db.namespaceExists slug = true)
    (hemptying : request.emptying = none) : Relies db request where
  found := hfound
  entering := hentering
  deleting := by
    rintro slug rest deleted rfl
    cases hemptying
  removing := by
    rintro slug rfl
    cases hemptying

theorem relies_ended (db : Database) : Relies db .ended := by
  refine .of_found (fun _ hid => absurd hid List.not_mem_nil) ?_ rfl
  rintro slug ⟨⟩

theorem Covers.relies {slug : String} {rest : List DeleteStatement} {deleted : Deleted}
    (h : Covers db slug rest deleted) : Relies db (.deleting slug rest deleted) := by
  constructor
  · exact fun _ hid => absurd hid List.not_mem_nil
  · rintro slug ⟨⟩
  · rintro slug rest deleted ⟨rfl⟩
    exact h
  · rintro slug ⟨⟩

theorem relies_removeEntry {slug : String} (h : ∀ id, ¬db.InNamespace slug id) :
    Relies db (.removeEntry slug) := by
  constructor
  · exact fun _ hid => absurd hid List.not_mem_nil
  · rintro slug ⟨⟩
  · rintro slug rest deleted ⟨⟩
  · rintro slug ⟨rfl⟩
    exact h

theorem isPast_deleting {slug : String} {rest : List DeleteStatement} {deleted : Deleted}
    {id : SessionId} {statement : DeleteStatement}
    (h : (StoreRequest.deleting slug rest deleted).isPast db id statement = false)
    (hid : db.InNamespace slug id) : statement ∈ rest := by
  obtain ⟨row, hrow, hslug⟩ := hid
  by_contra hrest
  have hpast : (StoreRequest.deleting slug rest deleted).isPast db id statement = true := by
    rw [StoreRequest.isPast, hrow, Option.any_some, hslug]
    simp [hrest]
  rw [h] at hpast
  cases hpast

theorem isPast_recipients (h : suits db request .goOn other = true) :
    ∀ id ∈ request.recipients, other.isPast db id (.deliveries id) = false := by
  have hnone : ∀ {ids : List SessionId}, (ids.all fun id => !other.isPast db id (.deliveries id)) =
      true → ∀ id ∈ ids, other.isPast db id (.deliveries id) = false :=
    fun hall id hid => by simpa using List.all_eq_true.mp hall id hid
  cases request with
  | insert mail recipientIds => exact hnone h
  | receipts env rest =>
      cases rest with
      | nil => exact fun id hid => absurd hid List.not_mem_nil
      | cons item rest => exact hnone h
  | _ => exact fun id hid => absurd hid List.not_mem_nil

/-! ### Another store -/

/-- A deletion covers what it covered: a session that is new is elsewhere, and a label or a
delivery that is new comes before the statement for it. -/
theorem Covers.mono {slug : String} {rest : List DeleteStatement} {deleted : Deleted}
    (h : Covers db slug rest deleted)
    (hsessions : ∀ id row, db'.sessions.lookup id = some row →
      (∃ old, db.sessions.lookup id = some old ∧ old.namespaceSlug = row.namespaceSlug) ∨
        row.namespaceSlug ≠ slug ∧ id ∉ deleted.sessions)
    (hlabels : ∀ key value, db'.labels.lookup key = some value → db.InNamespace slug key.1 →
      (∃ old, db.labels.lookup key = some old) ∨ .labels key.1 ∈ rest)
    (hdeliveries : ∀ key row, db'.deliveries.lookup key = some row →
      db.InNamespace slug key.2 →
      (∃ old, db.deliveries.lookup key = some old) ∨ .deliveries key.2 ∈ rest) :
    Covers db' slug rest deleted := by
  -- a session in the namespace now was in it before
  have hold : ∀ id, db'.InNamespace slug id → db.InNamespace slug id := by
    rintro id ⟨row, hrow, hslug⟩
    rcases hsessions id row hrow with ⟨old, hlookup, hsame⟩ | ⟨hne, -⟩
    · exact ⟨old, hlookup, hsame.trans hslug⟩
    · exact absurd hslug hne
  constructor
  · exact fun id hid => h.sessions id (hold id hid)
  · intro id row hrow hdeleted
    rcases hsessions id row hrow with ⟨old, hlookup, hsame⟩ | ⟨-, hnot⟩
    · exact hsame.symm.trans (h.own id old hlookup hdeleted)
    · exact absurd hdeleted hnot
  -- a label of such a session is listed, or its statement is still to come
  · intro key value hvalue hid
    rcases hlabels key value hvalue (hold _ hid) with ⟨old, hlookup⟩ | hrest
    · exact h.labels key old hlookup (hold _ hid)
    · exact .inl hrest
  -- a delivery likewise
  · intro key row hrow hid
    rcases hdeliveries key row hrow (hold _ hid) with ⟨old, hlookup⟩ | hrest
    · exact h.deliveries key old hlookup (hold _ hid)
    · exact .inl hrest

theorem SameReferences.session (h : SameReferences db db') {id : SessionId} {row : SessionRow}
    (hrow : db'.sessions.lookup id = some row) :
    ∃ old, db.sessions.lookup id = some old ∧ old.namespaceSlug = row.namespaceSlug := by
  have hslug := h.sessions id
  rw [hrow] at hslug
  exact Option.map_eq_some_iff.mp hslug.symm

theorem Relies.of_same (h : Relies db request) (hsame : SameReferences db db') :
    Relies db' request where
  found id hid := by
    rw [hsame.contains_sessions]
    exact h.found id hid
  entering slug hslug := by
    rw [Database.namespaceExists, hsame.namespaces]
    exact h.entering slug hslug
  deleting slug rest deleted hrequest := by
    refine (h.deleting slug rest deleted hrequest).mono (fun id row hrow => .inl ?_)
      (fun key value hvalue _ => .inl ⟨value, ?_⟩) fun key row hrow _ => .inl ?_
    · exact hsame.session hrow
    · rw [← hsame.labels]
      exact hvalue
    · exact hsame.delivery hrow
  removing slug hrequest id := by
    rintro ⟨row, hrow, hslug⟩
    obtain ⟨old, hold, hsame⟩ := hsame.session hrow
    exact h.removing slug hrequest id ⟨old, hold, hsame.trans hslug⟩

/-- A request goes on with what it has found. -/
theorem Relies.of_finds (h : Relies db request) (hfinds : Finds db request request') :
    Relies db request' := by
  refine .of_found (fun id hid => ?_) hfinds.entering hfinds.emptying
  rcases hfinds.found id hid with hheld | hstored
  · exact h.found id hheld
  · exact hstored

/-- A store with the same sessions and more namespaces. -/
theorem Relies.mono (h : Relies db other) (hsessions : db'.sessions = db.sessions)
    (hnamespaces : ∀ slug, other.entering = some slug → db.namespaceExists slug = true →
      db'.namespaceExists slug = true)
    (hlabels : ∀ key value, db'.labels.lookup key = some value →
      (∃ old, db.labels.lookup key = some old) ∨ other.isPast db key.1 (.labels key.1) = false)
    (hdeliveries : ∀ key row, db'.deliveries.lookup key = some row →
      (∃ old, db.deliveries.lookup key = some old) ∨
        other.isPast db key.2 (.deliveries key.2) = false) : Relies db' other where
  found id hid := by
    rw [hsessions]
    exact h.found id hid
  entering slug hslug := hnamespaces slug hslug (h.entering slug hslug)
  -- a deletion that goes on: what was added is behind a statement that is still to come
  deleting slug rest deleted hrequest := by
    subst hrequest
    refine (h.deleting slug rest deleted rfl).mono (fun id row hrow => .inl ⟨row, ?_, rfl⟩)
      (fun key value hvalue hid => ?_) fun key row hrow hid => ?_
    · rw [← hsessions]
      exact hrow
    · exact (hlabels key value hvalue).imp_right fun hpast => isPast_deleting hpast hid
    · exact (hdeliveries key row hrow).imp_right fun hpast => isPast_deleting hpast hid
  -- no session has entered the namespace that is being removed
  removing slug hrequest id := by
    rintro ⟨row, hrow, hslug⟩
    rw [hsessions] at hrow
    exact h.removing slug hrequest id ⟨row, hrow, hslug⟩

/-! ### One request meets another -/

theorem Relies.commitDeletion (h : Relies db other) {deleted : Deleted}
    (hsuits : (other.found.all fun id => id ∉ deleted.sessions) = true) :
    Relies (deleted.commit db) other where
  found id hid := by
    refine contains_filterRows (h.found id hid) ?_
    exact List.all_eq_true.mp hsuits id hid
  entering := h.entering
  deleting slug rest deleted' hrequest := by
    refine (h.deleting slug rest deleted' hrequest).mono
      (fun id row hrow => .inl ⟨row, (lookup_filterRows_some hrow).1, rfl⟩)
      (fun key value hvalue _ => .inl ⟨value, (lookup_filterRows_some hvalue).1⟩)
      fun key row hrow _ => .inl ⟨row, (lookup_filterRows_some hrow).1⟩
  removing slug hrequest id := by
    rintro ⟨row, hrow, hslug⟩
    exact h.removing slug hrequest id ⟨row, (lookup_filterRows_some hrow).1, hslug⟩

theorem Relies.commitIntent (h : Relies db other) {id : SessionId} {session : Session}
    {lifecycle : Lifecycle} {now : DateTime}
    (hcommit : db.commitSpawnIntent id session lifecycle now = .ok db')
    (hslug : other.emptying ≠ some session.namespaceSlug)
    (hdeleted : ∀ deleted, other.deletion = some deleted → session.id ∉ deleted.sessions) :
    Relies db' other := by
  obtain ⟨hfree, -, rfl⟩ := Database.commitSpawnIntent_eq_ok hcommit
  -- a session is one of the store, or the new one
  have hcases : ∀ id' row,
      (db.sessions.insert session.id (sessionRow session)).lookup id' = some row →
        db.sessions.lookup id' = some row ∨
          id' = session.id ∧ row.namespaceSlug = session.namespaceSlug := by
    intro id' row hrow
    rw [Table.lookup_insert hfree] at hrow
    split at hrow
    · next hid =>
        cases hrow
        exact .inr ⟨hid, rfl⟩
    · exact .inl hrow
  constructor
  · exact fun id' hid => contains_insert (h.found id' hid)
  · exact h.entering
  · rintro slug rest deleted rfl
    refine (h.deleting slug rest deleted rfl).mono (fun id' row hrow => ?_)
      (fun key value hvalue hid => ?_) fun key row hrow _ => .inl ⟨row, hrow⟩
    · rcases hcases id' row hrow with hold | ⟨rfl, hsame⟩
      · exact .inl ⟨row, hold, rfl⟩
      · exact .inr ⟨fun heq => hslug (by rw [← hsame, heq]; rfl), hdeleted deleted rfl⟩
    · rcases lookup_labelsUpserted_cases hvalue with hkey | hold
      · obtain ⟨row, hrow, -⟩ := hid
        rw [hkey, hfree] at hrow
        cases hrow
      · exact .inl ⟨value, hold⟩
  · rintro slug rfl id' ⟨row, hrow, hin⟩
    rcases hcases id' row hrow with hold | ⟨-, hsame⟩
    · exact h.removing slug rfl id' ⟨row, hold, hin⟩
    · exact hslug (by rw [← hsame, hin]; rfl)

theorem Relies.mutate (h : Relies db other) {id : SessionId} {mutation : LabelMutation}
    (hsuits : ∀ label, mutation = .set label → other.isPast db id (.labels id) = false) :
    Relies (mutation.apply db id) other := by
  cases mutation with
  | set label =>
      refine h.mono rfl (fun _ _ hexists => hexists) (fun key value hvalue => ?_)
        fun key row hrow => .inl ⟨row, hrow⟩
      rcases lookup_labelsUpserted_cases hvalue with hkey | hold
      · rw [hkey]
        exact .inr (hsuits label rfl)
      · exact .inl ⟨value, hold⟩
  | remove labelKey =>
      refine h.mono rfl (fun _ _ hexists => hexists) (fun key value hvalue => .inl ⟨value, ?_⟩)
        fun key row hrow => .inl ⟨row, hrow⟩
      have hlookup : (db.labels.erase (id, labelKey)).lookup key = some value := hvalue
      rw [Table.lookup_erase] at hlookup
      split at hlookup
      · cases hlookup
      · exact hlookup

theorem Relies.commitInsert (h : Relies db other) {mail : Mail} {recipientIds : List SessionId}
    (hsuits : ∀ id ∈ recipientIds, other.isPast db id (.deliveries id) = false) :
    Relies (db.commitInsert mail recipientIds) other := by
  refine h.mono rfl (fun _ _ hexists => hexists) (fun key value hvalue => .inl ⟨value, hvalue⟩)
    fun key row hrow => ?_
  rcases lookup_commitInsert_cases hrow with hold | ⟨-, hmem, -⟩
  · exact .inl ⟨row, hold⟩
  · exact .inr (hsuits key.2 hmem)

theorem Relies.removeEntry (h : Relies db other) {slug : String}
    (hsuits : other.entering ≠ some slug) : Relies (db.deleteNamespace slug) other := by
  refine h.mono rfl (fun slug' hentering hexists => ?_)
    (fun key value hvalue => .inl ⟨value, hvalue⟩) fun key row hrow => .inl ⟨row, hrow⟩
  have hne : slug' ≠ slug := by
    rintro rfl
    exact hsuits hentering
  rw [Database.namespaceExists, Database.deleteNamespace, Table.contains, Table.lookup_erase,
    if_neg hne]
  exact hexists

/-- A step that suits another request leaves it what it relies on. -/
theorem Relies.of_others (h : Relies db other) (hmoves : StoreMoves db request choice request' db')
    (hsuits : suits db request choice other = true) : Relies db' other := by
  cases hmoves with
  | same hsame _ => exact h.of_same hsame
  | beginDeletion => exact h
  | deleteRows => exact h
  | commitDeletion => exact h.commitDeletion hsuits
  -- a spawn's commit: into a namespace and under an id that no deletion works on
  | commitIntent hcommit =>
      obtain ⟨hslug, hdeleted⟩ := Bool.and_eq_true_iff.mp hsuits
      refine h.commitIntent hcommit (of_decide_eq_true hslug) fun deleted hdeletion => ?_
      rw [hdeletion] at hdeleted
      exact of_decide_eq_true hdeleted
  -- a label: of a session whose label statement is still to come
  | @mutate id rest mutation =>
      refine h.mutate fun label hset => ?_
      subst hset
      simpa [suits] using hsuits
  -- a message: to recipients whose delivery statements are still to come
  | insertMail _ hinsert hrecipients _ =>
      rcases insertMailForRecipients_cases hinsert with ⟨rfl, -⟩ | hcommits
      · exact h
      · rw [hcommits.store]
        refine h.commitInsert ?_
        rw [← hrecipients]
        exact isPast_recipients hsuits
  | createNamespace =>
      exact h.mono rfl (fun _ _ hexists => contains_insert hexists)
        (fun key value hvalue => .inl ⟨value, hvalue⟩) fun key row hrow => .inl ⟨row, hrow⟩
  | removeEntry => exact h.removeEntry (of_decide_eq_true hsuits)

/-! ### The steps of a deletion -/

/-- The statements for the listed sessions are still to come. -/
theorem covers_deleteStatements {slug : String} {ids : List SessionId}
    (hlisted : ∀ id, db.InNamespace slug id → id ∈ ids) :
    Covers db slug (deleteStatements ids) .none := by
  have hstatements : ∀ id, db.InNamespace slug id →
      .labels id ∈ deleteStatements ids ∧ .deliveries id ∈ deleteStatements ids := by
    intro id hid
    have hmem := hlisted id hid
    simp [deleteStatements, hmem]
  constructor
  · exact fun id _ => .inl (List.mem_append_right _ (List.mem_singleton.mpr rfl))
  · exact fun id row _ hid => absurd hid List.not_mem_nil
  · exact fun key value _ hid => .inl (hstatements key.1 hid).1
  · exact fun key row _ hid => .inl (hstatements key.2 hid).2

/-- A statement deletes what it is for. -/
theorem Covers.statement {slug : String} {statement : DeleteStatement}
    {rest : List DeleteStatement} {deleted : Deleted}
    (h : Covers db slug (statement :: rest) deleted) :
    Covers db slug rest (deleted.statement slug db statement) := by
  have hsessions : ∀ id, db.InNamespace slug id → .sessions ∈ rest ∨
      id ∈ (deleted.statement slug db statement).sessions := by
    intro id hid
    rcases h.sessions id hid with hrest | hdeleted
    · rcases List.mem_cons.mp hrest with rfl | hrest
      · exact .inr (List.mem_append_right _ (Database.mem_sessionIdsInNamespace.mpr hid))
      · exact .inl hrest
    · refine .inr ?_
      cases statement with
      | sessions => exact List.mem_append_left _ hdeleted
      | _ => exact hdeleted
  have hlabels : ∀ key value, db.labels.lookup key = some value → db.InNamespace slug key.1 →
      .labels key.1 ∈ rest ∨ key ∈ (deleted.statement slug db statement).labels := by
    intro key value hvalue hid
    rcases h.labels key value hvalue hid with hrest | hdeleted
    · rcases List.mem_cons.mp hrest with rfl | hrest
      · refine .inr (List.mem_append_right _ (List.mem_filter.mpr ⟨?_, decide_eq_true rfl⟩))
        exact mem_keys_of_lookup hvalue
      · exact .inl hrest
    · refine .inr ?_
      cases statement with
      | labels id => exact List.mem_append_left _ hdeleted
      | _ => exact hdeleted
  have hdeliveries : ∀ key row, db.deliveries.lookup key = some row →
      db.InNamespace slug key.2 →
      .deliveries key.2 ∈ rest ∨ key ∈ (deleted.statement slug db statement).deliveries := by
    intro key row hrow hid
    rcases h.deliveries key row hrow hid with hrest | hdeleted
    · rcases List.mem_cons.mp hrest with rfl | hrest
      · refine .inr (List.mem_append_right _ (List.mem_filter.mpr ⟨?_, decide_eq_true rfl⟩))
        exact mem_keys_of_lookup hrow
      · exact .inl hrest
    · refine .inr ?_
      cases statement with
      | deliveries id => exact List.mem_append_left _ hdeleted
      | _ => exact hdeleted
  refine ⟨hsessions, ?_, hlabels, hdeliveries⟩
  -- the last statement deletes the sessions of the namespace
  intro id row hrow hdeleted
  cases statement with
  | sessions =>
      rcases List.mem_append.mp hdeleted with hdeleted | hlisted
      · exact h.own id row hrow hdeleted
      · obtain ⟨row', hrow', hslug⟩ := Database.mem_sessionIdsInNamespace.mp hlisted
        rw [hrow] at hrow'
        cases hrow'
        exact hslug
  | _ => exact h.own id row hrow hdeleted

/-- A deletion that has gone through its statements leaves no session in the namespace. -/
theorem Covers.not_inNamespace {slug : String} {deleted : Deleted}
    (h : Covers db slug [] deleted) (id : SessionId) :
    ¬(deleted.commit db).InNamespace slug id := by
  rintro ⟨row, hrow, hslug⟩
  obtain ⟨hold, hkept⟩ := lookup_filterRows_some hrow
  rcases h.sessions id ⟨row, hold, hslug⟩ with hrest | hdeleted
  · cases hrest
  · exact of_decide_eq_true hkept hdeleted

/-- What a request relies on after a step of its own. -/
theorem Relies.of_own (h : Relies db request) (hmoves : StoreMoves db request choice request' db') :
    Relies db' request' := by
  cases hmoves with
  | same hsame hfinds => exact (h.of_finds hfinds).of_same hsame
  | beginDeletion hlisted => exact (covers_deleteStatements hlisted).relies
  | deleteRows => exact (h.deleting _ _ _ rfl).statement.relies
  | commitDeletion => exact relies_removeEntry (h.deleting _ _ _ rfl).not_inNamespace
  | commitIntent hcommit => exact relies_ended _
  | @mutate id rest mutation =>
      refine .of_found (fun id' hid => ?_) ?_ rfl
      · have hstored := h.found id' (mem_found_mutate_cons hid)
        cases mutation <;> exact hstored
      · rintro slug ⟨⟩
  | @insertMail request request' mail recipientIds outcome db' hnew hinsert hrecipients hfinds =>
      rcases insertMailForRecipients_cases hinsert with ⟨rfl, -⟩ | hcommits
      · exact h.of_finds hfinds
      · rw [hcommits.store]
        have hafter := h.of_finds hfinds
        exact .of_found hafter.found hafter.entering hfinds.emptying
  | createNamespace => exact relies_ended _
  | removeEntry => exact relies_ended _

end Relies

/-! ## Runs -/

/-- What holds in every run: the transactions that delete leave no delivery without its
message. -/
structure DeletionInvariant {ι : Type} (s : StoreState ι) : Prop where
  messages : DeliveriesHaveMessages s.db
  issued : MessagesIssued s.db s.issued
  deletions : ∀ i deleted, (s.requests i).deletion = some deleted →
    DeletesWhole s.db s.issued deleted

section Runs

variable {limits : MailSafetyConfig} {db db' : Database} {request request' : StoreRequest}
  {choice : StoreChoice}

/-- Who a mail is inserted for is stored: the request has found it, or it is asked for. -/
theorem recipients_stored (hrelies : Relies db request)
    (hsender : senderStored db request .goOn = true) :
    ∀ id ∈ request.recipients, db.sessions.contains id = true := by
  cases request with
  | insert mail recipientIds => exact hrelies.found
  | receipts env rest =>
      cases rest with
      | nil => exact fun _ hid => absurd hid List.not_mem_nil
      | cons item rest =>
          intro id hid
          rw [StoreRequest.recipients, Option.mem_toList] at hid
          rw [senderStored, hid] at hsender
          exact hsender
  | _ => exact fun _ hid => absurd hid List.not_mem_nil

/-- A step keeps the references: what it writes refers to what its request relies on. -/
theorem References.of_moves (h : References db) {issued : List MessageId}
    (hdeletion : ∀ deleted, request.deletion = some deleted → DeletesWhole db issued deleted)
    (hrelies : Relies db request) (hmoves : StoreMoves db request choice request' db')
    (hsender : senderStored db request choice = true) : References db' := by
  cases hmoves with
  | same hsame _ => exact h.of_same hsame
  | beginDeletion => exact h
  | deleteRows => exact h
  | @commitDeletion slug deleted =>
      have hcovers := hrelies.deleting slug [] deleted rfl
      -- a session that is deleted is in the namespace, which the statements have gone through
      have hin : ∀ id, db.sessions.contains id = true → id ∈ deleted.sessions →
          db.InNamespace slug id := by
        intro id hid hdeleted
        obtain ⟨row, hrow⟩ := Table.contains_iff.mp hid
        exact ⟨row, hrow, hcovers.own id row hrow hdeleted⟩
      refine h.commitDeletion (hdeletion _ rfl) (fun key value hvalue hid => ?_)
        fun key row hrow hid => ?_
      · have hlabel := hcovers.labels key value hvalue (hin _ (h.labels key value hvalue) hid)
        exact hlabel.resolve_left List.not_mem_nil
      · have hdelivery := hcovers.deliveries key row hrow (hin _ (h.deliveries key row hrow) hid)
        exact hdelivery.resolve_left List.not_mem_nil
  | commitIntent hcommit => exact h.commitIntent hcommit (hrelies.entering _ rfl)
  | @mutate id rest mutation =>
      refine h.mutate fun label hset => ?_
      subst hset
      exact hrelies.found id List.mem_cons_self
  | insertMail _ hinsert hrecipients _ =>
      rcases insertMailForRecipients_cases hinsert with ⟨rfl, -⟩ | hcommits
      · exact h
      · rw [hcommits.store]
        refine h.commitInsert ?_
        rw [← hrecipients]
        exact recipients_stored hrelies hsender
  | createNamespace => exact h.createNamespace _ _
  | @removeEntry slug =>
      exact h.removeEntry fun id row hrow hslug => hrelies.removing slug rfl id ⟨row, hrow, hslug⟩

theorem DeliveriesHaveMessages.of_moves (h : DeliveriesHaveMessages db) {issued : List MessageId}
    (hdeletion : ∀ deleted, request.deletion = some deleted → DeletesWhole db issued deleted)
    (hmoves : StoreMoves db request choice request' db') : DeliveriesHaveMessages db' := by
  cases hmoves with
  | same hsame _ => exact h.of_same hsame
  | beginDeletion => exact h
  | deleteRows => exact h
  | commitDeletion => exact h.commitDeletion (hdeletion _ rfl)
  | commitIntent hcommit =>
      obtain ⟨-, -, rfl⟩ := Database.commitSpawnIntent_eq_ok hcommit
      exact h
  | @mutate id rest mutation => cases mutation <;> exact h
  | insertMail _ hinsert _ _ =>
      rcases insertMailForRecipients_cases hinsert with ⟨rfl, -⟩ | hcommits
      · exact h
      · rw [hcommits.store]
        exact h.commitInsert _ _
  | createNamespace => exact h
  | removeEntry => exact h

/-- A delivery that a step adds belongs to a message with the new id. -/
theorem delivery_of_moves (hmoves : StoreMoves db request choice request' db')
    {key : MessageId × SessionId} {row : DeliveryRow}
    (hrow : db'.deliveries.lookup key = some row) :
    request.newMessage = some key.1 ∨ ∃ old, db.deliveries.lookup key = some old := by
  cases hmoves with
  | same hsame _ => exact .inr (hsame.delivery hrow)
  | commitDeletion => exact .inr ⟨row, (lookup_filterRows_some hrow).1⟩
  | commitIntent hcommit =>
      obtain ⟨-, -, rfl⟩ := Database.commitSpawnIntent_eq_ok hcommit
      exact .inr ⟨row, hrow⟩
  | @mutate id rest mutation => cases mutation <;> exact .inr ⟨row, hrow⟩
  | insertMail hnew hinsert _ _ =>
      rcases insertMailForRecipients_cases hinsert with ⟨rfl, -⟩ | hcommits
      · exact .inr ⟨row, hrow⟩
      · rw [hcommits.store] at hrow
        rcases lookup_commitInsert_cases hrow with hold | ⟨hid, -, -⟩
        · exact .inr ⟨row, hold⟩
        · exact .inl (by rw [hnew, hid])
  | _ => exact .inr ⟨row, hrow⟩

theorem message_of_moves (hmoves : StoreMoves db request choice request' db') {id : MessageId}
    {row : MessageRow} (hrow : db'.messages.lookup id = some row) :
    request.newMessage = some id ∨ ∃ old, db.messages.lookup id = some old := by
  cases hmoves with
  | same hsame _ =>
      rw [hsame.messages] at hrow
      exact .inr ⟨row, hrow⟩
  | commitDeletion => exact .inr ⟨row, (lookup_filterRows_some hrow).1⟩
  | commitIntent hcommit =>
      obtain ⟨-, -, rfl⟩ := Database.commitSpawnIntent_eq_ok hcommit
      exact .inr ⟨row, hrow⟩
  | @mutate id rest mutation => cases mutation <;> exact .inr ⟨row, hrow⟩
  | insertMail hnew hinsert _ _ =>
      rcases insertMailForRecipients_cases hinsert with ⟨rfl, -⟩ | hcommits
      · exact .inr ⟨row, hrow⟩
      · rw [hcommits.store] at hrow
        rcases lookup_messages_commitInsert_cases hrow with hold | ⟨rfl, -⟩
        · exact .inr ⟨row, hold⟩
        · exact .inl hnew
  | _ => exact .inr ⟨row, hrow⟩

/-- The deletion a request goes on with, after a step of its own. -/
theorem deletesWhole_of_moves {issued : List MessageId} (hissued : MessagesIssued db issued)
    (hdeletion : ∀ deleted, request.deletion = some deleted → DeletesWhole db issued deleted)
    (hmoves : StoreMoves db request choice request' db') {deleted : Deleted}
    (hafter : request'.deletion = some deleted) : DeletesWhole db issued deleted := by
  cases hmoves with
  | same _ hfinds =>
      rw [StoreRequest.deletion_of_not_emptying hfinds.emptying] at hafter
      cases hafter
  | insertMail _ _ _ hfinds =>
      rw [StoreRequest.deletion_of_not_emptying hfinds.emptying] at hafter
      cases hafter
  | beginDeletion =>
      cases hafter
      exact deletesWhole_none
  | deleteRows =>
      cases hafter
      exact (hdeletion _ rfl).statement hissued _ _
  | _ => cases hafter

variable {ι : Type} [DecidableEq ι] {s s' : StoreState ι} {a : ι × StoreChoice}

/-- A step is one of its request, under an id no mail was written under. -/
theorem storeMoves_of_step (hstep : (storeSystem limits ι).step s a = some s') :
    ∃ request' db', StoreMoves s.db (s.requests a.1) a.2 request' db' ∧
      (∀ id, (s.requests a.1).newMessage = some id → id ∉ s.issued) ∧
      s' = ⟨db', (s.requests a.1).newMessage.toList ++ s.issued,
        Function.update s.requests a.1 request'⟩ := by
  simp only [storeSystem] at hstep
  split at hstep
  · cases hstep
  · next hfresh =>
      obtain ⟨⟨request', db'⟩, hnext, rfl⟩ := Option.map_eq_some_iff.mp hstep
      refine ⟨request', db', storeMoves_of_next hnext, fun id hid hissued => hfresh ?_, rfl⟩
      rw [hid]
      exact decide_eq_true hissued

theorem deletionInvariant_step (h : DeletionInvariant s)
    (hstep : (storeSystem limits ι).step s a = some s') : DeletionInvariant s' := by
  obtain ⟨request', db', hmoves, hnew, rfl⟩ := storeMoves_of_step hstep
  obtain ⟨i, choice⟩ := a
  have hsubset : s.issued ⊆ (s.requests i).newMessage.toList ++ s.issued :=
    List.subset_append_right _ _
  -- no step adds a delivery to a message that was written before
  have hold : ∀ key row, db'.deliveries.lookup key = some row → key.1 ∈ s.issued →
      ∃ old, s.db.deliveries.lookup key = some old := by
    intro key row hrow hissued
    rcases delivery_of_moves hmoves hrow with hid | hold
    · exact absurd hissued (hnew key.1 hid)
    · exact hold
  constructor
  · exact h.messages.of_moves (fun deleted => h.deletions i deleted) hmoves
  · intro id row hrow
    rcases message_of_moves hmoves hrow with hid | ⟨old, hstored⟩
    · rw [hid]
      exact List.mem_append_left _ (List.mem_singleton.mpr rfl)
    · exact hsubset (h.issued id old hstored)
  · intro j deleted hdeletion
    dsimp only at hdeletion
    by_cases hj : j = i
    · subst hj
      rw [Function.update_self] at hdeletion
      exact (deletesWhole_of_moves h.issued (fun deleted => h.deletions j deleted) hmoves
        hdeletion).mono hsubset hold
    · rw [Function.update_of_ne hj] at hdeletion
      exact (h.deletions j deleted hdeletion).mono hsubset hold

omit [DecidableEq ι] in
theorem references_start (h : StoreStart s) : References s.db := by
  obtain ⟨createdAt, hdb⟩ := h.db
  rw [hdb]
  refine ⟨?_, ?_, ?_, ?_⟩ <;> intro key row hrow <;> cases hrow

omit [DecidableEq ι] in
theorem deletionInvariant_start (h : StoreStart s) : DeletionInvariant s := by
  refine ⟨(references_start h).messages, fun id row hrow => ?_, fun i deleted hdeletion => ?_⟩
  · obtain ⟨createdAt, hdb⟩ := h.db
    rw [hdb] at hrow
    cases hrow
  · have hnew := h.requests i
    cases hrequest : s.requests i <;> rw [hrequest] at hnew hdeletion <;> cases hnew <;>
      cases hdeletion

/-- In every run, whatever its steps rely on, every delivery has its message. -/
theorem deliveries_have_messages {C : StoreState ι → ι × StoreChoice → Prop} {s₀ : StoreState ι}
    (hstart : StoreStart s₀) (h : (storeSystem limits ι).Reaches C s₀ s) :
    DeliveriesHaveMessages s.db := by
  refine (h.invariant (I := DeletionInvariant) (deletionInvariant_start hstart) ?_).messages
  intro s a s' hs _ hstep
  exact deletionInvariant_step hs hstep

/-- What holds in every run whose steps are undisturbed. -/
structure Kept {ι : Type} (s : StoreState ι) : Prop where
  references : References s.db
  deletions : DeletionInvariant s
  relies : ∀ i, Relies s.db (s.requests i)

theorem kept_step (h : Kept s) (hundisturbed : Undisturbed s a)
    (hstep : (storeSystem limits ι).step s a = some s') : Kept s' := by
  refine ⟨?_, deletionInvariant_step h.deletions hstep, fun j => ?_⟩
  · obtain ⟨request', db', hmoves, -, rfl⟩ := storeMoves_of_step hstep
    exact h.references.of_moves (fun deleted => h.deletions.deletions a.1 deleted)
      (h.relies a.1) hmoves hundisturbed.2
  · obtain ⟨request', db', hmoves, -, rfl⟩ := storeMoves_of_step hstep
    show Relies db' (Function.update s.requests a.1 request' j)
    by_cases hj : j = a.1
    · rw [hj, Function.update_self]
      exact (h.relies a.1).of_own hmoves
    · rw [Function.update_of_ne hj]
      exact (h.relies j).of_others hmoves (hundisturbed.1 j)

omit [DecidableEq ι] in
theorem kept_start (h : StoreStart s) : Kept s := by
  refine ⟨references_start h, deletionInvariant_start h, fun i => ?_⟩
  -- a request that has just come in has found nothing
  have hnew := h.requests i
  refine .of_found ?_ ?_ ?_
  · cases hrequest : s.requests i <;> rw [hrequest] at hnew <;>
      first | exact fun _ hid => absurd hid List.not_mem_nil | cases hnew
  · cases hrequest : s.requests i <;> rw [hrequest] at hnew <;>
      first | (rintro slug ⟨⟩; done) | cases hnew
  · cases hrequest : s.requests i <;> rw [hrequest] at hnew <;> first | rfl | cases hnew

/-- While no deletion comes between what another request has found and what it writes, and a
receipt has where to go, every reference has its target. -/
theorem references_hold {s₀ : StoreState ι} (hstart : StoreStart s₀)
    (h : (storeSystem limits ι).Reaches Undisturbed s₀ s) : References s.db := by
  have hkept : Kept s := by
    refine h.invariant (I := Kept) (kept_start hstart) ?_
    intro s a s' hs hundisturbed hstep
    exact kept_step hs hundisturbed hstep
  exact hkept.references

end Runs

/-! ## Runs over a namespace that is deleted -/

/-- The intent to spawn a session in a namespace. -/
def sampleIntent (id : SessionId) (slug : String) : PendingSpawnIntent where
  sessionId := id
  operationId := ⟨id.uuid⟩
  spawnRequest := ⟨id, .claude, .host, .headless, false⟩
  sessionDraft := { sampleDraft id with namespaceSlug := slug }
  createdAt := 0

/-- The namespace `alpha` with session 1, which writes to session 2 of the default
namespace; and requests that meet its deletion: a label edit, a spawn, and the read of
session 2. -/
def alphaRequests : List StoreRequest :=
  [.createNamespace "alpha" 0,
    .spawn (sampleIntent ⟨1⟩ "alpha"),
    .spawn (sampleIntent ⟨2⟩ "default"),
    .send ⟨"{}", some ⟨1⟩⟩ ⟨.id ⟨2⟩, "status?", none, none, "context", .request, none⟩
      ⟨fun _ => true, ⟨7⟩, 5, fun _ => none⟩,
    .delete (.id ⟨1⟩),
    .label (.id ⟨1⟩) (.set ⟨"team", "blue"⟩),
    .spawn (sampleIntent ⟨3⟩ "alpha"),
    .deleteNamespace "alpha",
    .read ⟨"{}", some ⟨2⟩⟩ ⟨fun _ => true, 9, fun _ => (⟨8⟩, "read"), .none⟩]

def alphaStart : StoreState (Fin 9) where
  db := .migrated 0
  issued := []
  requests := fun i => alphaRequests[i]

/-- The steps of a spawn up to its second transaction. -/
def spawned (i : Fin 9) (id : SessionId) : List (Fin 9 × StoreChoice) :=
  [(i, .goOn), (i, .goOn), (i, .spawned (sampleLifecycle id .running) none 0), (i, .goOn)]

/-- The namespace, both sessions, the mail to session 2, and the delete of session 1. -/
def alphaUsed : List (Fin 9 × StoreChoice) :=
  [(0, .goOn)] ++ spawned 1 ⟨1⟩ ++ [(1, .timed 1)] ++ spawned 2 ⟨2⟩ ++ [(2, .timed 1),
    (3, .goOn), (3, .goOn), (3, .timed 5), (3, .goOn),
    (4, .goOn), (4, .exit ⟨⟨1⟩, 100, some 0, none⟩ 6), (4, .goOn), (4, .goOn)]

/-- The deletion of the namespace. -/
def alphaDeleted : List (Fin 9 × StoreChoice) := List.replicate 12 (7, .goOn)

/-- The read of session 2, with its receipt for the mail of session 1. -/
def secondReads : List (Fin 9 × StoreChoice) := List.replicate 4 (8, .goOn)

/-- The read comes before the deletion. The label edit looks before the deletion and writes
before its statement; the spawn of session 3 begins before it, and finds the namespace gone. -/
def orderly : List (Fin 9 × StoreChoice) :=
  alphaUsed ++ secondReads ++ [(5, .goOn)] ++ (spawned 6 ⟨3⟩).take 3 ++
    List.replicate 6 (7, .goOn) ++ [(5, .goOn)] ++ List.replicate 6 (7, .goOn) ++
    [(6, .goOn), (6, .timed 7)]

/-- The label edit and the spawn of session 3 have looked before the deletion and write
after it. -/
def overtaken : List (Fin 9 × StoreChoice) :=
  alphaUsed ++ [(5, .goOn)] ++ spawned 6 ⟨3⟩ ++ alphaDeleted ++ [(5, .goOn), (6, .timed 7)]

theorem storeStart_alpha : StoreStart alphaStart :=
  ⟨⟨0, rfl⟩, by decide⟩

theorem references_hold_orderly :
    ∃ s, (storeSystem ⟨8, 8, 60⟩ (Fin 9)).follow alphaStart orderly = some s ∧
      (s.db.sessions.contains ⟨1⟩ = false ∧ s.db.sessions.contains ⟨3⟩ = false) ∧
      s.db.namespaceExists "alpha" = false ∧ References s.db := by
  have hrun : ∃ s, (storeSystem ⟨8, 8, 60⟩ (Fin 9)).follow alphaStart orderly = some s ∧
      (s.db.sessions.contains ⟨1⟩ = false ∧ s.db.sessions.contains ⟨3⟩ = false) ∧
      s.db.namespaceExists "alpha" = false :=
    ⟨_, rfl, ⟨rfl, rfl⟩, rfl⟩
  have hmeets : (storeSystem ⟨8, 8, 60⟩ (Fin 9)).Meets Undisturbed alphaStart orderly := by
    decide +kernel
  obtain ⟨s, hrun, hgone, hremoved⟩ := hrun
  refine ⟨s, hrun, hgone, hremoved, ?_⟩
  exact references_hold storeStart_alpha (StepSystem.reaches_of_meets hmeets hrun)

/-- Read receipts go to a session that is gone, also when each request ends before the next
one begins. And a session is committed to a namespace that was removed meanwhile, a label to
a session that was. -/
theorem references_lost :
    (∃ s, (storeSystem ⟨8, 8, 60⟩ (Fin 9)).Reaches (fun _ _ => True) alphaStart s ∧
        s.db.deliveries.contains (⟨8⟩, ⟨1⟩) = true ∧ s.db.sessions.contains ⟨1⟩ = false ∧
        ¬References s.db) ∧
      ∃ s, (storeSystem ⟨8, 8, 60⟩ (Fin 9)).Reaches (fun _ _ => True) alphaStart s ∧
        ((s.db.sessions.lookup ⟨3⟩).map SessionRow.namespaceSlug = some "alpha" ∧
          s.db.namespaceExists "alpha" = false) ∧
        s.db.labels.contains (⟨1⟩, "team") = true ∧ s.db.sessions.contains ⟨1⟩ = false := by
  -- the receipt of a message whose sender has been removed
  have hread : ∃ s, (storeSystem ⟨8, 8, 60⟩ (Fin 9)).follow alphaStart
      (alphaUsed ++ alphaDeleted ++ secondReads) = some s ∧
      s.db.deliveries.contains (⟨8⟩, ⟨1⟩) = true ∧ s.db.sessions.contains ⟨1⟩ = false :=
    ⟨_, rfl, rfl, rfl⟩
  -- a spawn and a label that were checked before the deletion and are written after it
  have hraced : ∃ s, (storeSystem ⟨8, 8, 60⟩ (Fin 9)).follow alphaStart overtaken = some s ∧
      ((s.db.sessions.lookup ⟨3⟩).map SessionRow.namespaceSlug = some "alpha" ∧
        s.db.namespaceExists "alpha" = false) ∧
      s.db.labels.contains (⟨1⟩, "team") = true ∧ s.db.sessions.contains ⟨1⟩ = false :=
    ⟨_, rfl, ⟨rfl, rfl⟩, rfl, rfl⟩
  constructor
  · obtain ⟨s, hrun, hdelivery, hsession⟩ := hread
    refine ⟨s, StepSystem.reaches_of_follow hrun fun _ _ _ => trivial, hdelivery, hsession, ?_⟩
    intro href
    obtain ⟨row, hrow⟩ := Table.contains_iff.mp hdelivery
    have := href.deliveries _ row hrow
    rw [hsession] at this
    cases this
  · obtain ⟨s, hrun, hfacts⟩ := hraced
    exact ⟨s, StepSystem.reaches_of_follow hrun fun _ _ _ => trivial, hfacts⟩

end LittleOrgans.Session
