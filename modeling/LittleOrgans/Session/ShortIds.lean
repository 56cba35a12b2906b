import LittleOrgans.Core.SelectorText
import LittleOrgans.Session.MailHandlers
import LittleOrgans.Store.SelectorAgreement

/-!
# Short ids

`shortest_unambiguous_prefix` of `lilo-common`, and the short ids a table of sessions shows.
A short id is a selector: it parses as a prefix, or as the id when it is the whole id, passes
the validation of the store and resolves to the session (`shortId_resolves`).

The text of an id is ASCII, so lengths count characters.
-/

set_option autoImplicit false

namespace LittleOrgans.Session

open LittleOrgans.Core
open LittleOrgans.Library
open LittleOrgans.Store

/-- The least characters of a short id. -/
def MIN_SHORT_PREFIX_LEN : Nat := 7

/-- `shortest_unambiguous_prefix`. -/
def shortestUnambiguousPrefix (fullId : List Char) (isUnique : List Char → Bool) : List Char :=
  let minLen := min MIN_SHORT_PREFIX_LEN fullId.length
  match (List.range' minLen (fullId.length + 1 - minLen)).find? fun len =>
      isUnique (fullId.take len) with
  | some len => fullId.take len
  | none => fullId

/-- The ids among which a short id is looked for. -/
structure ShortSessionIdSet where
  fullIds : List (List Char)

namespace ShortSessionIdSet

/-- `from_sessions`, by the ids of the sessions. -/
def ofIds (ids : List SessionId) : ShortSessionIdSet := ⟨ids.map fun id => uuidText id.uuid⟩

/-- How many ids begin with the text. -/
def matchCount (set : ShortSessionIdSet) (text : List Char) : Nat :=
  set.fullIds.countP fun candidate => text.isPrefixOf candidate

/-- `render`: an id that is not in the set gets the least length. -/
def render (set : ShortSessionIdSet) (id : SessionId) : List Char :=
  let fullId := uuidText id.uuid
  if fullId ∈ set.fullIds then
    shortestUnambiguousPrefix fullId fun text => set.matchCount text = 1
  else shortestUnambiguousPrefix fullId fun _ => true

end ShortSessionIdSet

/-- The ids of the stored sessions. -/
def storedIds (db : Database) : List SessionId := db.sessions.rows.map Prod.fst

/-! ## The search -/

/-- The search ends at the least length at which the prefix is unique. -/
theorem shortestUnambiguousPrefix_spec {fullId : List Char} {isUnique : List Char → Bool}
    (h : isUnique fullId = true) (hlength : MIN_SHORT_PREFIX_LEN ≤ fullId.length) :
    ∃ len, MIN_SHORT_PREFIX_LEN ≤ len ∧ len ≤ fullId.length ∧
      shortestUnambiguousPrefix fullId isUnique = fullId.take len ∧
      isUnique (fullId.take len) = true ∧
      ∀ shorter, MIN_SHORT_PREFIX_LEN ≤ shorter → shorter < len →
        isUnique (fullId.take shorter) = false := by
  rw [shortestUnambiguousPrefix, Nat.min_eq_left hlength]
  cases hfind : (List.range' MIN_SHORT_PREFIX_LEN (fullId.length + 1 - MIN_SHORT_PREFIX_LEN)).find?
      fun len => isUnique (fullId.take len) with
  | some len =>
      rw [List.find?_range'_eq_some, List.mem_range'_1] at hfind
      obtain ⟨hunique, ⟨hmin, hmax⟩, hshorter⟩ := hfind
      refine ⟨len, hmin, by omega, rfl, hunique, fun shorter hleast hlt => ?_⟩
      simpa using hshorter shorter hleast hlt
  | none =>
      rw [List.find?_range'_eq_none] at hfind
      have hfull := hfind fullId.length hlength (by omega)
      rw [List.take_length, h] at hfull
      cases hfull

/-! ## Unique prefixes -/

variable {db : Database}

theorem matchCount_storedIds (text : List Char) :
    (ShortSessionIdSet.ofIds (storedIds db)).matchCount text =
      (db.sessions.rows.filter fun row => text.isPrefixOf (uuidText row.1.uuid)).length := by
  rw [ShortSessionIdSet.matchCount, ShortSessionIdSet.ofIds, storedIds, List.map_map,
    List.countP_map, List.countP_eq_length_filter]
  rfl

/-- A condition that one row satisfies selects that row. -/
theorem selectSessions_of_one {keep : SessionId → SessionRow → Bool} {id : SessionId}
    {row : SessionRow} (hrow : db.sessions.lookup id = some row) (hkeep : keep id row = true)
    (hone : (db.sessions.rows.filter fun row => keep row.1 row.2).length = 1) :
    db.selectSessions keep = [(id, row)] := by
  obtain ⟨only, honly⟩ := List.length_eq_one_iff.mp hone
  have hmem : (id, row) ∈ db.sessions.rows.filter fun row => keep row.1 row.2 :=
    List.mem_filter.mpr ⟨Table.mem_rows_iff.mpr hrow, hkeep⟩
  rw [honly, List.mem_singleton] at hmem
  rw [Database.selectSessions, honly, ← hmem]
  rfl

/-- A prefix that one stored id has selects the row of that id. -/
theorem selectSessions_of_unique {text : List Char} {id : SessionId} {row : SessionRow}
    (hrow : db.sessions.lookup id = some row)
    (hstarts : text.isPrefixOf (uuidText id.uuid) = true)
    (hunique : (ShortSessionIdSet.ofIds (storedIds db)).matchCount text = 1) :
    db.selectSessions (fun id _ => id.startsWith (String.ofList text)) = [(id, row)] := by
  refine selectSessions_of_one hrow ?_ ?_
  · rw [SessionId.startsWith, String.toList_ofList, hstarts]
  · simp only [SessionId.startsWith, String.toList_ofList]
    rw [← matchCount_storedIds, hunique]

theorem count_storedIds {id : SessionId} {row : SessionRow}
    (hrow : db.sessions.lookup id = some row) : (storedIds db).count id = 1 :=
  List.count_eq_one_of_mem db.sessions.nodup
    (List.mem_map.mpr ⟨(id, row), Table.mem_rows_iff.mpr hrow, rfl⟩)

/-- The condition on the id selects its row. -/
theorem selectSessions_id {id : SessionId} {row : SessionRow}
    (hrow : db.sessions.lookup id = some row) :
    db.selectSessions (fun id' _ => decide (id' = id)) = [(id, row)] := by
  refine selectSessions_of_one hrow (decide_eq_true rfl) ?_
  rw [← count_storedIds hrow, storedIds, List.count, List.countP_map, List.countP_eq_length_filter]
  refine congrArg List.length (List.filter_congr fun other _ => ?_)
  rw [Function.comp_apply, beq_eq_decide]

/-- A prefix that no other stored id has. -/
theorem matchCount_eq_one {text : List Char} {id : SessionId} {row : SessionRow}
    (hrow : db.sessions.lookup id = some row) (hstarts : text <+: uuidText id.uuid)
    (hother : ∀ other ∈ storedIds db, text <+: uuidText other.uuid → other = id) :
    (ShortSessionIdSet.ofIds (storedIds db)).matchCount text = 1 := by
  rw [ShortSessionIdSet.matchCount, ShortSessionIdSet.ofIds, List.countP_map,
    ← count_storedIds hrow, List.count]
  refine List.countP_congr fun other hstored => ?_
  rw [Function.comp_apply, List.isPrefixOf_iff_prefix, beq_iff_eq]
  constructor
  · exact hother other hstored
  · rintro rfl
    exact hstarts

/-- The whole id is unique. -/
theorem matchCount_uuidText (hinjective : Function.Injective uuidText) {id : SessionId}
    {row : SessionRow} (hrow : db.sessions.lookup id = some row) :
    (ShortSessionIdSet.ofIds (storedIds db)).matchCount (uuidText id.uuid) = 1 := by
  refine matchCount_eq_one hrow (List.prefix_refl _) fun other _ hstarts => ?_
  have hlength : (uuidText id.uuid).length = (uuidText other.uuid).length := by
    rw [length_uuidText, length_uuidText]
  have huuid := hinjective (hstarts.eq_of_length hlength)
  cases other
  cases id
  exact congrArg SessionId.mk huuid.symm

/-! ## Short ids as selectors -/

/-- A prefix of an id that is shorter than the id is no uuid. -/
theorem not_uuid_of_take {formats : TextFormats} (hformats : formats.ReadsUuids)
    (uuid : BitVec 128) {len : Nat} (hlen : len < 36) (uuid' : BitVec 128) :
    formats.parseUuid ((uuidText uuid).take len) ≠ .ok uuid' := by
  have hchars : ∀ c ∈ (uuidText uuid).take len,
      (c.isDigit || ('a' ≤ c && c ≤ 'f') || c = '-') = true := fun c hc =>
    List.all_eq_true.mp (looksLikeSessionIdPrefix_uuidText uuid) c (List.mem_of_mem_take hc)
  have hlength : ((uuidText uuid).take len).length = len := by
    rw [List.length_take, length_uuidText, Nat.min_eq_left (Nat.le_of_lt hlen)]
  intro hread
  rcases hformats.shape _ _ hread with ⟨hsimple, hhex⟩ | ⟨hhyphenated, -⟩ | hbrace | hurn
  · -- the ninth character of an id is a hyphen
    have hhyphen : '-' ∈ (uuidText uuid).take len := by
      rw [List.mem_iff_getElem?]
      refine ⟨8, ?_⟩
      rw [List.getElem?_take_of_lt (by omega)]
      simp [uuidText, hexDigits]
    exact absurd (hhex '-' hhyphen) (by decide)
  · omega
  · exact absurd (hchars '{' (List.mem_of_mem_head? hbrace)) (by decide)
  · exact absurd (hchars 'u' (hurn.subset (by decide))) (by decide)

/-- What a short id of a stored session is good for. -/
structure ShortIdResolves (formats : TextFormats) (db : Database) (session : Session)
    (short : List Char) : Prop where
  valid : validateSessionIdPrefix (String.ofList short) = .ok ()
  resolves : ∃ selector, Selector.fromStr formats short = .ok selector ∧
    ∀ label, resolveSelector db selector label = .ok [session]
  shortest : ∀ text, text <+: uuidText session.id.uuid → MIN_SHORT_PREFIX_LEN ≤ text.length →
    text.length < short.length → ∃ other ∈ storedIds db, other ≠ session.id ∧
      text <+: uuidText other.uuid

theorem validateSessionIdPrefix_take (uuid : BitVec 128) {len : Nat}
    (hmin : MIN_SHORT_PREFIX_LEN ≤ len) (hlen : len ≤ 36) :
    validateSessionIdPrefix (String.ofList ((uuidText uuid).take len)) = .ok () := by
  have hbytes := length_le_utf8ByteSize ((uuidText uuid).take len)
  rw [List.length_take, length_uuidText, Nat.min_eq_left hlen] at hbytes
  rw [MIN_SHORT_PREFIX_LEN] at hmin
  rw [validateSessionIdPrefix, if_neg (by rw [MIN_SELECTOR_PREFIX_LEN]; omega), if_pos]
  rw [String.toList_ofList, List.all_eq_true]
  exact fun c hc => List.all_eq_true.mp (looksLikeSessionIdPrefix_uuidText uuid) c
    (List.mem_of_mem_take hc)

/-- The selector a prefix of an id parses to. -/
theorem fromStr_take {formats : TextFormats} (hformats : formats.ReadsUuids) (uuid : BitVec 128)
    {len : Nat} (hmin : MIN_SHORT_PREFIX_LEN ≤ len) (hlen : len ≤ 36) :
    Selector.fromStr formats ((uuidText uuid).take len) =
      .ok (if len = 36 then .id ⟨uuid⟩
        else .idPrefix (String.ofList ((uuidText uuid).take len))) := by
  have hchars : looksLikeSessionIdPrefix ((uuidText uuid).take len) = true :=
    List.all_eq_true.mpr fun c hc => List.all_eq_true.mp (looksLikeSessionIdPrefix_uuidText uuid) c
      (List.mem_of_mem_take hc)
  rw [Selector.fromStr, (isTrimmed_of_looksLike hchars).trim_eq, fromTrimmed_eq_ok hformats]
  split
  · next hfull =>
      have htake : (uuidText uuid).take len = uuidText uuid :=
        List.take_of_length_le (by rw [length_uuidText, hfull])
      rw [htake]
      exact .uuid (hformats.hyphenated uuid)
  · next hshort =>
      refine .idPrefix hchars ?_ (not_uuid_of_take hformats uuid (by omega))
      have hbytes := length_le_utf8ByteSize ((uuidText uuid).take len)
      rw [List.length_take, length_uuidText, Nat.min_eq_left hlen] at hbytes
      rw [MIN_SHORT_PREFIX_LEN] at hmin
      exact if_neg (by rw [MIN_SELECTOR_PREFIX_LEN]; omega)

/-- A query that selects one row lists its session. -/
theorem querySessions_of_row {keep : SessionId → SessionRow → Bool} {id : SessionId}
    {row : SessionRow} {session : Session} (hselect : db.selectSessions keep = [(id, row)])
    (hsession : sessionFromRow id row (db.labelsForSession id) = .ok session) :
    db.querySessions keep = .ok [session] := by
  rw [Database.querySessions, hselect, List.mapM_cons, List.mapM_nil,
    Database.decodeRow_eq_ok.mpr hsession]
  rfl

theorem resolveSelector_of_listed {selector : Selector} {session : Session}
    (h : db.listSessionsBySelector selector = .ok [session]) (label : String) :
    resolveSelector db selector label = .ok [session] := by
  have hlisted : withContext "failed to resolve selector" (db.listSessionsBySelector selector) =
      .ok [session] := by
    rw [h]
    rfl
  exact Except.bind_eq_ok.mpr ⟨[session], hlisted, if_pos (List.cons_ne_nil session [])⟩

/-- The short id of every stored session resolves to it, and no shorter one would do. -/
theorem shortId_resolves {formats : TextFormats} (hformats : formats.ReadsUuids)
    {id : SessionId} {session : Session} (h : db.Decodes id session) :
    ShortIdResolves formats db session
      ((ShortSessionIdSet.ofIds (storedIds db)).render session.id) := by
  obtain rfl := h.id_eq
  obtain ⟨row, hrow, hsession⟩ := h
  have hstored : session.id ∈ storedIds db :=
    List.mem_map.mpr ⟨(session.id, row), Table.mem_rows_iff.mpr hrow, rfl⟩
  have hmem : uuidText session.id.uuid ∈ (ShortSessionIdSet.ofIds (storedIds db)).fullIds :=
    List.mem_map.mpr ⟨session.id, hstored, rfl⟩
  let isUnique : List Char → Bool := fun text =>
    (ShortSessionIdSet.ofIds (storedIds db)).matchCount text = 1
  have hfull : isUnique (uuidText session.id.uuid) = true :=
    decide_eq_true (matchCount_uuidText hformats.uuidText_injective hrow)
  have hlength : MIN_SHORT_PREFIX_LEN ≤ (uuidText session.id.uuid).length := by
    rw [length_uuidText]
    decide
  obtain ⟨len, hmin, hmax, hshort, hunique, hshorter⟩ :=
    shortestUnambiguousPrefix_spec hfull hlength
  rw [length_uuidText] at hmax
  rw [ShortSessionIdSet.render, if_pos hmem, hshort]
  refine ⟨validateSessionIdPrefix_take _ hmin hmax, ⟨_, fromStr_take hformats _ hmin hmax,
    resolveSelector_of_listed ?_⟩, fun text hstarts hleast hlt => ?_⟩
  · split
    · -- the whole id
      rw [Database.listSessionsBySelector]
      exact querySessions_of_row (selectSessions_id hrow) hsession
    · rw [Database.listSessionsBySelector, Database.queryPrefixSessions,
        validateSessionIdPrefix_take _ hmin hmax]
      have hstarts : ((uuidText session.id.uuid).take len).isPrefixOf (uuidText session.id.uuid) =
          true := List.isPrefixOf_iff_prefix.mpr (List.take_prefix len _)
      have hquery := querySessions_of_row
        (selectSessions_of_unique hrow hstarts (of_decide_eq_true hunique)) hsession
      simp only [hquery]
      rfl
  · rw [List.length_take, length_uuidText, Nat.min_eq_left hmax] at hlt
    have htake : (uuidText session.id.uuid).take text.length = text :=
      (List.prefix_iff_eq_take.mp hstarts).symm
    have hnot := hshorter text.length hleast hlt
    rw [htake, decide_eq_false_iff_not] at hnot
    by_contra hnone
    refine hnot (matchCount_eq_one hrow hstarts fun other hother hotherPrefix => ?_)
    by_contra hne
    exact hnone ⟨other, hother, hne, hotherPrefix⟩

/-- Two sessions whose ids differ in the last digit. -/
def neighbourStore : Database :=
  { Database.projectStore with
    sessions := Database.projectStore.sessions.insert ⟨2⟩
      (sessionRow { Database.projectSession with id := ⟨2⟩ }) }

theorem decodes_neighbourStore :
    neighbourStore.Decodes Database.projectSession.id Database.projectSession :=
  ⟨sessionRow Database.projectSession, rfl, rfl⟩

/-- The whole id is the short id of a session with such a neighbour. -/
theorem shortId_resolves_neighbours :
    (ShortSessionIdSet.ofIds (storedIds neighbourStore)).render Database.projectSession.id =
        "00000000-0000-0000-0000-000000000001".toList ∧
      ShortIdResolves hyphenatedFormats neighbourStore Database.projectSession
        ((ShortSessionIdSet.ofIds (storedIds neighbourStore)).render Database.projectSession.id) :=
  ⟨by decide, shortId_resolves readsUuids_hyphenatedFormats decodes_neighbourStore⟩

end LittleOrgans.Session
