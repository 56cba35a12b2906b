import LittleOrgans.Identity.AuditCodec

/-!
# The audit log

Rows are written to `identity_audit` one by one and read with `query_audit`, which selects by
principal, action and time, in the order of insertion.

`auditLog` says which logs can be written and what every query over them answers. A selected
row whose principal does not read back fails the query as a whole; where all principals are
canonical, a query answers the rows that were written.
-/

set_option autoImplicit false

namespace LittleOrgans.Identity

open LittleOrgans.Core
open LittleOrgans.Library

/-! ## The table -/

/-- `insert_audit_row_with`; the id is the primary key. -/
def insertAuditRow (table : List EncodedAuditRow) (row : AuditRow) :
    Except StoreError (List EncodedAuditRow) :=
  let encoded := EncodedAuditRow.fromAuditRow row
  if table.any fun old => decide (old.id = encoded.id) then
    .error (.database ("error returned from database: duplicate key value violates unique " ++
      "constraint \"identity_audit_pkey\""))
  else .ok (table ++ [encoded])

structure AuditFilters where
  principal : Option Principal
  action : Option Action
  since : Option DateTime
  limit : Option Nat

namespace AuditFilters

/-- The predicates of the `WHERE` clause. -/
def predicates (filters : AuditFilters) : List (EncodedAuditRow → Bool) :=
  (filters.principal.toList.map fun principal row =>
      decide (row.principal = principal.serialize)) ++
    (filters.action.toList.map fun action row => decide (row.action = action.serialize)) ++
    filters.since.toList.map fun since row => decide (since ≤ row.timestamp)

/-- The `LIMIT` clause; the parameter is a `bigint`. -/
def sqlLimit (filters : AuditFilters) : Except StoreError (Option Nat) :=
  match filters.limit with
  | none => .ok none
  | some limit => if limit ≤ i64Max then .ok (some limit) else .error (.limitTooLarge limit)

end AuditFilters

/-- `LIMIT` on the rows of an answer. -/
def limited {α : Type} (limit : Option Nat) (rows : List α) : List α :=
  match limit with
  | none => rows
  | some limit => rows.take limit

/-- `query_audit_rows`; the table is in the order of `seq`. -/
def queryAuditRows (formats : TextFormats) (table : List EncodedAuditRow)
    (filters : AuditFilters) : Except StoreError (List AuditRow) := do
  let limit ← filters.sqlLimit
  let selected := table.filter fun row => filters.predicates.all fun holds => holds row
  (limited limit selected).mapM (EncodedAuditRow.tryIntoAuditRow formats)

/-! ## What is selected -/

namespace AuditFilters

/-- The rows a query is about; principals are compared as they are written. -/
def Selects (filters : AuditFilters) (row : AuditRow) : Prop :=
  (∀ principal ∈ filters.principal, row.principal.serialize = principal.serialize) ∧
    (∀ action ∈ filters.action, row.action = action) ∧
    ∀ since ∈ filters.since, since ≤ row.timestamp

instance (filters : AuditFilters) (row : AuditRow) : Decidable (filters.Selects row) :=
  inferInstanceAs (Decidable (_ ∧ _ ∧ _))

/-- The rows of a log that a query answers. -/
def select (filters : AuditFilters) (log : List AuditRow) : List AuditRow :=
  limited filters.limit (log.filter fun row => decide (filters.Selects row))

/-- A limit that the query takes. -/
def LimitFits (filters : AuditFilters) : Prop := ∀ limit ∈ filters.limit, limit ≤ i64Max

theorem sqlLimit_eq_ok {filters : AuditFilters} {limit : Option Nat} :
    filters.sqlLimit = .ok limit ↔ filters.LimitFits ∧ limit = filters.limit := by
  rw [sqlLimit, LimitFits]
  cases hlimit : filters.limit with
  | none => simp [eq_comm]
  | some n =>
      by_cases hn : n ≤ i64Max
      · simp [hn, eq_comm]
      · simp [hn]

theorem predicates_fromAuditRow {filters : AuditFilters} (row : AuditRow) :
    (filters.predicates.all fun holds => holds (.fromAuditRow row)) =
      decide (filters.Selects row) := by
  obtain ⟨principal, action, since, limit⟩ := filters
  rw [Bool.eq_iff_iff, decide_eq_true_iff, predicates, Selects, List.all_append, List.all_append]
  simp only [Bool.and_eq_true, List.all_map, List.all_eq_true, Option.mem_toList,
    Function.comp_apply, decide_eq_true_iff, and_assoc]
  refine and_congr Iff.rfl (and_congr ?_ Iff.rfl)
  constructor
  · intro h action haction
    exact Action.serialize_inj (h action haction)
  · intro h action haction
    exact congrArg Action.serialize (h action haction)

end AuditFilters

theorem limited_map {α β : Type} (limit : Option Nat) (f : α → β) (rows : List α) :
    limited limit (rows.map f) = (limited limit rows).map f := by
  cases limit with
  | none => rfl
  | some n => exact List.map_take.symm

theorem mem_of_mem_limited {α : Type} {limit : Option Nat} {rows : List α} {row : α}
    (h : row ∈ limited limit rows) : row ∈ rows := by
  cases limit with
  | none => exact h
  | some n => exact List.mem_of_mem_take h

/-! ## What is answered -/

/-- A row as it is read back. -/
def ReadsBackAs (row row' : AuditRow) : Prop :=
  ∃ principal, Principal.deserialize row.principal.serialize = .ok principal ∧
    row' = { row with principal := principal }

theorem readsBackAs_self {row : AuditRow} (h : row.principal.Canonical) : ReadsBackAs row row :=
  ⟨row.principal, deserialize_serialize_iff.mpr h, rfl⟩

variable {formats : TextFormats}

theorem insertAuditRow_eq_ok_iff {table table' : List EncodedAuditRow} {row : AuditRow} :
    insertAuditRow table row = .ok table' ↔
      (∀ old ∈ table, old.id ≠ (EncodedAuditRow.fromAuditRow row).id) ∧
        table' = table ++ [.fromAuditRow row] := by
  rw [insertAuditRow]
  by_cases hany : table.any fun old => decide (old.id = (EncodedAuditRow.fromAuditRow row).id)
  · obtain ⟨old, hold, hid⟩ := List.any_eq_true.mp hany
    constructor
    · intro h
      rw [if_pos hany] at h
      cases h
    · rintro ⟨hnew, -⟩
      exact absurd (of_decide_eq_true hid) (hnew old hold)
  · have hnew : ∀ old ∈ table, old.id ≠ (EncodedAuditRow.fromAuditRow row).id := fun old hold hid =>
      hany (List.any_eq_true.mpr ⟨old, hold, decide_eq_true hid⟩)
    constructor
    · intro h
      rw [if_neg hany] at h
      cases h
      exact ⟨hnew, rfl⟩
    · rintro ⟨-, rfl⟩
      exact if_neg hany

/-- The log is written as a whole when its ids are distinct. -/
theorem foldlM_insertAuditRow_iff (hformats : formats.ReadsUuids) {log : List AuditRow}
    {table : List EncodedAuditRow} : log.foldlM insertAuditRow [] = .ok table ↔
      (log.map AuditRow.id).Nodup ∧ table = log.map .fromAuditRow := by
  induction log using List.reverseRecOn generalizing table with
  | nil =>
      constructor
      · intro h
        cases h
        exact ⟨List.nodup_nil, rfl⟩
      · rintro ⟨-, rfl⟩
        rfl
  | append_singleton log row ih =>
      have hids : (∀ old ∈ log.map EncodedAuditRow.fromAuditRow,
          old.id ≠ (EncodedAuditRow.fromAuditRow row).id) ↔ row.id ∉ log.map AuditRow.id := by
        constructor
        · intro h hmem
          obtain ⟨old, hold, hid⟩ := List.mem_map.mp hmem
          have hsame : uuidString old.id.uuid = uuidString row.id.uuid := by rw [hid]
          exact h _ (List.mem_map_of_mem hold) hsame
        · intro h encoded hencoded hid
          obtain ⟨old, hold, rfl⟩ := List.mem_map.mp hencoded
          have hsame : old.id.uuid = row.id.uuid := uuidString_inj hformats hid
          exact h (List.mem_map.mpr ⟨old, hold, congrArg AuditId.mk hsame⟩)
      rw [List.foldlM_append, Except.bind_eq_ok, List.map_append, List.map_append,
        List.map_singleton, List.map_singleton, ← List.concat_eq_append, List.nodup_concat]
      constructor
      · rintro ⟨before, hbefore, hinsert⟩
        obtain ⟨hnodup, rfl⟩ := ih.mp hbefore
        rw [List.foldlM_cons] at hinsert
        obtain ⟨after, hafter, hnil⟩ := Except.bind_eq_ok.mp hinsert
        cases hnil
        obtain ⟨hnew, rfl⟩ := insertAuditRow_eq_ok_iff.mp hafter
        exact ⟨⟨hids.mp hnew, hnodup⟩, rfl⟩
      · rintro ⟨⟨hnew, hnodup⟩, rfl⟩
        refine ⟨_, ih.mpr ⟨hnodup, rfl⟩, ?_⟩
        rw [List.foldlM_cons]
        exact Except.bind_eq_ok.mpr
          ⟨_, insertAuditRow_eq_ok_iff.mpr ⟨hids.mpr hnew, rfl⟩, rfl⟩

theorem queryAuditRows_eq_ok_iff (hformats : formats.ReadsUuids) {log : List AuditRow}
    {filters : AuditFilters} {rows : List AuditRow} :
    queryAuditRows formats (log.map .fromAuditRow) filters = .ok rows ↔
      filters.LimitFits ∧ List.Forall₂ ReadsBackAs (filters.select log) rows := by
  have hselected : ((log.map EncodedAuditRow.fromAuditRow).filter fun row =>
      filters.predicates.all fun holds => holds row) =
        (log.filter fun row => decide (filters.Selects row)).map .fromAuditRow := by
    rw [List.filter_map]
    congr 1
    refine List.filter_congr fun row _ => ?_
    exact AuditFilters.predicates_fromAuditRow row
  rw [queryAuditRows, Except.bind_eq_ok]
  simp only [hselected, AuditFilters.sqlLimit_eq_ok]
  have hrows : ∀ selected : List AuditRow,
      (selected.map EncodedAuditRow.fromAuditRow).mapM (EncodedAuditRow.tryIntoAuditRow formats) =
        .ok rows ↔ List.Forall₂ ReadsBackAs selected rows := by
    intro selected
    rw [Except.mapM_eq_ok, List.forall₂_map_left_iff]
    simp only [tryIntoAuditRow_fromAuditRow hformats]
    rfl
  constructor
  · rintro ⟨limit, ⟨hfits, rfl⟩, hread⟩
    rw [limited_map] at hread
    exact ⟨hfits, (hrows _).mp hread⟩
  · rintro ⟨hfits, hread⟩
    refine ⟨filters.limit, ⟨hfits, rfl⟩, ?_⟩
    rw [limited_map]
    exact (hrows _).mpr hread

/-- A log of canonical principals is read back as it was written. -/
theorem queryAuditRows_of_canonical (hformats : formats.ReadsUuids) {log : List AuditRow}
    {filters : AuditFilters} (hlog : ∀ row ∈ log, row.principal.Canonical)
    (hfits : filters.LimitFits) :
    queryAuditRows formats (log.map .fromAuditRow) filters = .ok (filters.select log) := by
  refine (queryAuditRows_eq_ok_iff hformats).mpr ⟨hfits, ?_⟩
  have hselect : ∀ row ∈ filters.select log, ReadsBackAs row row := fun row hrow =>
    readsBackAs_self (hlog row (List.mem_of_mem_filter (mem_of_mem_limited hrow)))
  exact List.forall₂_same.mpr hselect

/-- A query for one canonical principal answers all of its rows. -/
theorem queryAuditRows_of_principal (hformats : formats.ReadsUuids) {log : List AuditRow}
    {filters : AuditFilters} {principal : Principal} (hprincipal : principal.Canonical)
    (hfilter : filters.principal = some principal) (hfits : filters.LimitFits) :
    queryAuditRows formats (log.map .fromAuditRow) filters =
      .ok ((filters.select log).map fun row => { row with principal := principal }) := by
  refine (queryAuditRows_eq_ok_iff hformats).mpr ⟨hfits, List.forall₂_map_right_iff.mpr ?_⟩
  refine List.forall₂_same.mpr fun row hrow => ?_
  have hselects : filters.Selects row :=
    of_decide_eq_true (List.mem_filter.mp (mem_of_mem_limited hrow)).2
  refine ⟨principal, ?_, rfl⟩
  rw [hselects.1 principal hfilter]
  exact deserialize_serialize_iff.mpr hprincipal

/-- An allowed spawn, and a denial of a principal of a newer kind. -/
def sampleAudit : List AuditRow :=
  [.new ⟨1⟩ 7 (.localUid 501) .spawn (.session ⟨1⟩) .allow,
    .new ⟨2⟩ 8 (.unknown "Future" (.object [("data", .null)])) .spawn (.session ⟨2⟩)
      (.deny "unknown principal")]

end LittleOrgans.Identity
