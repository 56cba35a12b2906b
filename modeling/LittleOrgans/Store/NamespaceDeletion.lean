import LittleOrgans.Store.Selection

/-!
# Deleting the sessions of a namespace

`delete_sessions_by_namespace`, statement by statement: the sessions are listed, and for
each the labels and then the deliveries addressed to it go, before the messages it sent
are collected. A statement of the second loop sees the deliveries all of the first have
left, and so the order of the sessions does not matter
(`deleteNamespaceSessions_of_listed`). What is deleted is stated in terms of the rows
before (`Collected`). The listing decodes the rows, and stops the deletion when one of
them does not decode.
-/

set_option autoImplicit false

namespace LittleOrgans.Store

open LittleOrgans.Core
open LittleOrgans.Library

namespace Database

/-- `DELETE FROM session_labels WHERE session_id`. -/
def deleteLabels (db : Database) (id : SessionId) : Database :=
  { db with labels := db.labels.filterRows fun key _ => key.1 ≠ id }

def deleteRecipientDeliveries (db : Database) (id : SessionId) : Database :=
  { db with deliveries := db.deliveries.filterRows fun key _ => key.2 ≠ id }

/-- `delete_sessions_by_namespace`, and what it leaves. -/
def deleteNamespaceSessions (db : Database) (slug : String) :
    Except SessionRowError Nat × Database :=
  match db.listSessionsBySelector (.inNamespace slug) with
  | .error error => (.error error, db)
  | .ok sessions =>
      let sessionIds := sessions.map fun session => session.id
      let db := sessionIds.foldl
        (fun db id => (db.deleteLabels id).deleteRecipientDeliveries id) db
      let db := sessionIds.foldl gcSessionSenderMessages db
      (.ok sessionIds.length,
        { db with sessions := db.sessions.filterRows fun _ row => row.namespaceSlug ≠ slug })

/-! ## What is to go -/

/-- The session is one of the namespace. -/
def InNamespace (db : Database) (slug : String) (id : SessionId) : Prop :=
  ∃ row, db.sessions.lookup id = some row ∧ row.namespaceSlug = slug

/-- A delivery of the message is stored. -/
def HasDelivery (db : Database) (id : MessageId) : Prop :=
  ∃ recipient delivery, db.deliveries.lookup (id, recipient) = some delivery

/-- `after` is `before` without the sessions of the namespace, their labels, the deliveries
addressed to them, and the messages they sent that have no delivery any more. -/
structure Collected (before after : Database) (slug : String) : Prop where
  sessions : ∀ id row, after.sessions.lookup id = some row ↔
    before.sessions.lookup id = some row ∧ row.namespaceSlug ≠ slug
  labels : ∀ id key value, after.labels.lookup (id, key) = some value ↔
    before.labels.lookup (id, key) = some value ∧ ¬before.InNamespace slug id
  deliveries : ∀ id recipient delivery,
    after.deliveries.lookup (id, recipient) = some delivery ↔
      before.deliveries.lookup (id, recipient) = some delivery ∧
        ¬before.InNamespace slug recipient
  messages : ∀ id message, after.messages.lookup id = some message ↔
    before.messages.lookup id = some message ∧
      (after.HasDelivery id ∨
        ∀ sender, message.sender = .session sender → ¬before.InNamespace slug sender)
  rest : after =
    { before with
      sessions := after.sessions
      labels := after.labels
      deliveries := after.deliveries
      messages := after.messages }

theorem mem_sessionIdsInNamespace {db : Database} {slug : String} {id : SessionId} :
    id ∈ db.sessionIdsInNamespace slug ↔ db.InNamespace slug id := by
  rw [sessionIdsInNamespace, List.mem_map]
  constructor
  · rintro ⟨⟨id, row⟩, hrow, rfl⟩
    obtain ⟨hmem, hslug⟩ := List.mem_filter.mp hrow
    exact ⟨row, Table.mem_rows_iff.mp hmem, of_decide_eq_true hslug⟩
  · rintro ⟨row, hrow, hslug⟩
    exact ⟨(id, row), List.mem_filter.mpr ⟨Table.mem_rows_iff.mpr hrow, decide_eq_true hslug⟩, rfl⟩

theorem hasDelivery_iff {db : Database} {id : MessageId} :
    db.HasDelivery id ↔ ∃ row ∈ db.deliveries.rows, row.1.1 = id := by
  constructor
  · rintro ⟨recipient, delivery, hlookup⟩
    exact ⟨((id, recipient), delivery), Table.mem_rows_iff.mpr hlookup, rfl⟩
  · rintro ⟨⟨⟨id, recipient⟩, delivery⟩, hmem, rfl⟩
    exact ⟨recipient, delivery, Table.mem_rows_iff.mp hmem⟩

/-! ## The loops -/

/-- The first loop deletes the labels and deliveries of all listed sessions. -/
theorem foldl_deleteLabels (ids : List SessionId) (db : Database) :
    ids.foldl (fun db id => (db.deleteLabels id).deleteRecipientDeliveries id) db =
      { db with
        labels := db.labels.filterRows fun key _ => key.1 ∉ ids
        deliveries := db.deliveries.filterRows fun key _ => key.2 ∉ ids } := by
  induction ids generalizing db with
  | nil =>
      rw [List.foldl_nil, Table.filterRows_self, Table.filterRows_self]
      · exact fun key _ _ => decide_eq_true List.not_mem_nil
      · exact fun key _ _ => decide_eq_true List.not_mem_nil
  | cons id ids ih =>
      rw [List.foldl_cons, ih, deleteLabels, deleteRecipientDeliveries,
        Table.filterRows_filterRows, Table.filterRows_filterRows]
      congr 1
      · refine Table.filterRows_congr fun key _ _ => ?_
        rw [Bool.eq_iff_iff]
        simp [and_comm]
      · refine Table.filterRows_congr fun key _ _ => ?_
        rw [Bool.eq_iff_iff]
        simp [and_comm]

/-- The second loop deletes the messages that one of the sessions sent and that have no
delivery; it deletes no delivery. -/
theorem foldl_gcSessionSenderMessages (ids : List SessionId) (db : Database) :
    ids.foldl gcSessionSenderMessages db =
      { db with
        messages := db.messages.filterRows fun id message =>
          ¬((∃ sender ∈ ids, message.sender = .session sender) ∧
            ∀ row ∈ db.deliveries.rows, row.1.1 ≠ id) } := by
  induction ids generalizing db with
  | nil =>
      rw [List.foldl_nil, Table.filterRows_self]
      intro id message _
      rw [decide_eq_true_iff]
      rintro ⟨⟨sender, hsender, -⟩, -⟩
      exact absurd hsender List.not_mem_nil
  | cons id ids ih =>
      rw [List.foldl_cons, ih, gcSessionSenderMessages, Table.filterRows_filterRows]
      refine congrArg (fun messages => { db with messages := messages }) ?_
      refine Table.filterRows_congr fun key message _ => ?_
      rw [Bool.eq_iff_iff, Bool.and_eq_true, decide_eq_true_iff, decide_eq_true_iff,
        decide_eq_true_iff, List.exists_mem_cons_iff, ← not_or, ← or_and_right, or_comm]

/-- The query by namespace lists the sessions of the namespace. -/
theorem mem_ids_listed_iff {db : Database} {slug : String} {sessions : List Session}
    (h : db.listSessionsBySelector (.inNamespace slug) = .ok sessions) (id : SessionId) :
    id ∈ sessions.map (fun session => session.id) ↔ id ∈ db.sessionIdsInNamespace slug := by
  rw [List.mem_map, mem_sessionIdsInNamespace]
  constructor
  · rintro ⟨session, hsession, rfl⟩
    obtain ⟨id, row, hrow, hslug, hdecodes⟩ := (mem_querySessions h).mp hsession
    rw [hdecodes.id_eq]
    exact ⟨row, hrow, of_decide_eq_true hslug⟩
  · rintro ⟨row, hrow, hslug⟩
    obtain ⟨session, hdecodes⟩ :=
      querySessions_isOk.mp ⟨sessions, h⟩ id row hrow (decide_eq_true hslug)
    exact ⟨session, (mem_querySessions h).mpr ⟨id, row, hrow, decide_eq_true hslug, hdecodes⟩,
      hdecodes.id_eq⟩

/-- The statements delete what `deleteSessionsByNamespace` deletes, whatever the order of
the listed sessions. -/
theorem deleteNamespaceSessions_of_listed {db : Database} {slug : String}
    {sessions : List Session}
    (h : db.listSessionsBySelector (.inNamespace slug) = .ok sessions) :
    db.deleteNamespaceSessions slug = (.ok sessions.length, db.deleteSessionsByNamespace slug) := by
  -- membership is all the loops need
  have hids := mem_ids_listed_iff h
  rw [deleteNamespaceSessions, h]
  dsimp only
  rw [foldl_deleteLabels, foldl_gcSessionSenderMessages, deleteSessionsByNamespace,
    foldl_gcSessionSenderMessages, List.length_map]
  simp only [hids]

theorem length_of_listed {db : Database} {slug : String} {sessions : List Session}
    (h : db.listSessionsBySelector (.inNamespace slug) = .ok sessions) :
    sessions.length = (db.sessionIdsInNamespace slug).length := by
  rw [← (Except.mapM_eq_ok.mp h).length_eq, selectSessions, List.length_insertionSort,
    sessionIdsInNamespace, List.length_map]

/-- What `deleteSessionsByNamespace` leaves. -/
theorem collected_deleteSessionsByNamespace (db : Database) (slug : String) :
    Collected db (db.deleteSessionsByNamespace slug) slug := by
  have hdelivery : ∀ id, (db.deleteSessionsByNamespace slug).HasDelivery id ↔
      ∃ row ∈ (db.deliveries.filterRows fun key _ => key.2 ∉ db.sessionIdsInNamespace slug).rows,
        row.1.1 = id := by
    intro id
    rw [hasDelivery_iff, deleteSessionsByNamespace, foldl_gcSessionSenderMessages]
  rw [deleteSessionsByNamespace, foldl_gcSessionSenderMessages] at hdelivery ⊢
  refine ⟨fun id row => ?_, fun id key value => ?_, fun id recipient delivery => ?_,
    fun id message => ?_, rfl⟩
  · rw [Table.lookup_filterRows, Option.filter_eq_some_iff, decide_eq_true_iff]
  · rw [Table.lookup_filterRows, Option.filter_eq_some_iff, decide_eq_true_iff,
      mem_sessionIdsInNamespace]
  · rw [Table.lookup_filterRows, Option.filter_eq_some_iff, decide_eq_true_iff,
      mem_sessionIdsInNamespace]
  · rw [Table.lookup_filterRows, Option.filter_eq_some_iff, decide_eq_true_iff, hdelivery,
      not_and_or, or_comm]
    simp only [mem_sessionIdsInNamespace, not_exists, not_and, not_forall, not_not, exists_prop]
    refine and_congr_right fun _ => or_congr_right ?_
    exact forall_congr' fun sender => imp_not_comm

/-- The deletion collects the namespace when all its rows decode, and fails without
effect when one does not. -/
theorem deleteNamespaceSessions_collected (db : Database) (slug : String) :
    ((∀ id, db.InNamespace slug id → ∃ session, db.Decodes id session) →
        (db.deleteNamespaceSessions slug).1 = .ok (db.sessionIdsInNamespace slug).length ∧
          Collected db (db.deleteNamespaceSessions slug).2 slug) ∧
      ((∃ id, db.InNamespace slug id ∧ ¬∃ session, db.Decodes id session) →
        (∃ error, (db.deleteNamespaceSessions slug).1 = .error error) ∧
          (db.deleteNamespaceSessions slug).2 = db) := by
  have hlisted : (∃ sessions, db.listSessionsBySelector (.inNamespace slug) = .ok sessions) ↔
      ∀ id, db.InNamespace slug id → ∃ session, db.Decodes id session := by
    rw [listSessionsBySelector, querySessions_isOk]
    constructor
    · rintro h id ⟨row, hrow, hslug⟩
      exact h id row hrow (decide_eq_true hslug)
    · intro h id row hrow hslug
      exact h id ⟨row, hrow, of_decide_eq_true hslug⟩
  constructor
  · intro hdecodes
    obtain ⟨sessions, hsessions⟩ := hlisted.mpr hdecodes
    rw [deleteNamespaceSessions_of_listed hsessions, length_of_listed hsessions]
    exact ⟨rfl, collected_deleteSessionsByNamespace db slug⟩
  · rintro ⟨id, hid, hundecoded⟩
    have hfails := mt hlisted.mp fun h => hundecoded (h id hid)
    rw [deleteNamespaceSessions]
    split
    · next error _ => exact ⟨⟨error, rfl⟩, rfl⟩
    · next sessions hsessions => exact absurd ⟨sessions, hsessions⟩ hfails

end Database

end LittleOrgans.Store
