import LittleOrgans.Store.Selection

/-!
# The selector queries and the matcher

`list_sessions_by_selector` answers each kind of selector with a query of its own, and only
a conjunction falls back to the matcher `session_matches_selector`. A query lists what the
matcher accepts (`Lists`), with two exceptions: the one by directory compares the text of
the stored path, where the matcher compares components, and a query fails where its texts
cannot be bound, which the matcher does not mind. `agreesWithMatcher_iff` says that these
are the only differences.
-/

set_option autoImplicit false

namespace LittleOrgans.Store.Database

open LittleOrgans.Core
open LittleOrgans.Library

variable {db : Database}

/-! ## What a query lists -/

/-- Every session row decodes. -/
def AllDecode (db : Database) : Prop :=
  ∀ id row, db.sessions.lookup id = some row → ∃ session, db.Decodes id session

/-- The result lists the stored sessions with a property, each once. -/
def Lists (db : Database) (result : Except SessionRowError (List Session))
    (accepts : Session → Prop) : Prop :=
  ∃ sessions, result = .ok sessions ∧ (sessions.map Session.id).Nodup ∧
    ∀ session, session ∈ sessions ↔ db.Decodes session.id session ∧ accepts session

theorem Lists.congr {result : Except SessionRowError (List Session)}
    {accepts accepts' : Session → Prop} (h : db.Lists result accepts)
    (haccepts : ∀ session, db.Decodes session.id session → (accepts session ↔ accepts' session)) :
    db.Lists result accepts' := by
  obtain ⟨sessions, hresult, hnodup, hmem⟩ := h
  refine ⟨sessions, hresult, hnodup, fun session => ?_⟩
  rw [hmem]
  exact and_congr_right (haccepts session)

/-- The columns of a row are those of the session it decodes to. -/
theorem Decodes.columns {id : SessionId} {session : Session} (h : db.Decodes id session) :
    ∃ row, db.sessions.lookup id = some row ∧ session.role = row.role ∧
      session.namespaceSlug = row.namespaceSlug ∧ session.dir = row.dir ∧
      session.labels = db.labelsForSession id := by
  obtain ⟨row, hrow, hsession⟩ := h
  obtain ⟨state, -, hpure⟩ := Except.bind_eq_ok.mp hsession
  cases hpure
  exact ⟨row, hrow, rfl, rfl, rfl, rfl⟩

/-- Rows are listed under their ids. -/
theorem ids_querySessions {keep : SessionId → SessionRow → Bool} {sessions : List Session}
    (h : db.querySessions keep = .ok sessions) :
    sessions.map Session.id = (db.selectSessions keep).map Prod.fst := by
  have hrows := Except.mapM_eq_ok.mp h
  clear h
  generalize db.selectSessions keep = rows at hrows ⊢
  induction hrows with
  | nil => rfl
  | cons hrow _ ih =>
      rw [List.map_cons, List.map_cons, sessionFromRow_id (decodeRow_eq_ok.mp hrow), ih]

theorem nodup_selectSessions (keep : SessionId → SessionRow → Bool) :
    ((db.selectSessions keep).map Prod.fst).Nodup := by
  have hperm : (db.selectSessions keep).Perm
      (db.sessions.rows.filter fun row => keep row.1 row.2) :=
    List.perm_insertionSort _ _
  refine (hperm.map Prod.fst).nodup_iff.mpr ?_
  exact db.sessions.nodup.sublist (List.filter_sublist.map Prod.fst)

/-- A query lists the sessions whose rows it keeps. -/
theorem lists_querySessions (hdecode : db.AllDecode) {keep : SessionId → SessionRow → Bool}
    {accepts : Session → Prop}
    (hkeep : ∀ session row, db.sessions.lookup session.id = some row →
      db.Decodes session.id session → (keep session.id row = true ↔ accepts session)) :
    db.Lists (db.querySessions keep) accepts := by
  obtain ⟨sessions, hsessions⟩ := querySessions_isOk.mpr fun id row hrow (_ : keep id row = true) =>
    hdecode id row hrow
  refine ⟨sessions, hsessions, ?_, fun session => ?_⟩
  · rw [ids_querySessions hsessions]
    exact nodup_selectSessions keep
  · rw [mem_querySessions hsessions]
    constructor
    · rintro ⟨id, row, hrow, hkept, hsession⟩
      obtain rfl := hsession.id_eq
      exact ⟨hsession, (hkeep session row hrow hsession).mp hkept⟩
    · rintro ⟨hsession, haccepted⟩
      obtain ⟨row, hrow, -⟩ := hsession.columns
      exact ⟨session.id, row, hrow, (hkeep session row hrow hsession).mpr haccepted, hsession⟩

/-! ## Prefixes -/

/-- A prefix that is malformed, or that two stored ids begin with. -/
def BadPrefix (db : Database) (text : String) : Prop :=
  (∃ e, validateSessionIdPrefix text = .error e) ∨
    ∃ a b, a ≠ b ∧ db.sessions.contains a = true ∧ db.sessions.contains b = true ∧
      a.startsWith text = true ∧ b.startsWith text = true

/-- Two listed sessions with a property have two ids. -/
theorem Lists.length_le_one_iff {result : Except SessionRowError (List Session)}
    {accepts : Session → Prop} {sessions : List Session} (h : db.Lists result accepts)
    (hresult : result = .ok sessions) :
    sessions.length ≤ 1 ↔ ∀ a b, db.Decodes a.id a → db.Decodes b.id b → accepts a → accepts b →
      a.id = b.id := by
  obtain ⟨sessions', hresult', hnodup, hmem⟩ := h
  rw [hresult] at hresult'
  cases hresult'
  constructor
  · intro hlength a b ha hb haccepts hbaccepts
    have hamem := (hmem a).mpr ⟨ha, haccepts⟩
    have hbmem := (hmem b).mpr ⟨hb, hbaccepts⟩
    rcases sessions with _ | ⟨only, _ | ⟨second, rest⟩⟩
    · cases hamem
    · rw [List.mem_singleton.mp hamem, List.mem_singleton.mp hbmem]
    · simp at hlength
  · intro hsame
    rcases sessions with _ | ⟨a, _ | ⟨b, rest⟩⟩
    · exact Nat.zero_le 1
    · exact Nat.le_refl 1
    · have ha := (hmem a).mp (by simp)
      have hb := (hmem b).mp (by simp)
      have hid := hsame a b ha.1 hb.1 ha.2 hb.2
      simp [hid] at hnodup

/-- A prefix query fails on a bad prefix, and only then. -/
theorem queryPrefixSessions_cases (hdecode : db.AllDecode) (text : String) :
    (db.BadPrefix text ∧ ∃ e, db.queryPrefixSessions text = .error e) ∨
      (¬db.BadPrefix text ∧
        db.Lists (db.queryPrefixSessions text)
          fun session => session.id.startsWith text = true) := by
  have hlists : db.Lists (db.querySessions fun id _ => id.startsWith text)
      fun session => session.id.startsWith text = true :=
    lists_querySessions hdecode fun session row _ _ => Iff.rfl
  obtain ⟨sessions, hsessions, hrest⟩ := hlists
  have hone := Lists.length_le_one_iff ⟨sessions, hsessions, hrest⟩ hsessions
  cases hvalid : validateSessionIdPrefix text with
  | error e =>
      refine .inl ⟨.inl ⟨e, hvalid⟩, e, ?_⟩
      rw [queryPrefixSessions, hvalid]
      rfl
  | ok u =>
      -- A valid prefix fails on two sessions, and only then.
      have hquery : db.queryPrefixSessions text =
          if sessions.length ≤ 1 then .ok sessions
          else .error (.ambiguous text (sessions.map fun session => session.id)) := by
        rw [queryPrefixSessions, hvalid, hsessions]
        rfl
      by_cases hlength : sessions.length ≤ 1
      · rw [if_pos hlength] at hquery
        refine .inr ⟨?_, sessions, hquery, hrest⟩
        rintro (⟨e, he⟩ | ⟨a, b, hne, ha, hb, hatext, hbtext⟩)
        · rw [hvalid] at he
          cases he
        · obtain ⟨row, hrow⟩ := Table.contains_iff.mp ha
          obtain ⟨row', hrow'⟩ := Table.contains_iff.mp hb
          obtain ⟨session, hsession⟩ := hdecode a row hrow
          obtain ⟨session', hsession'⟩ := hdecode b row' hrow'
          obtain rfl := hsession.id_eq
          obtain rfl := hsession'.id_eq
          exact hne (hone.mp hlength session session' hsession hsession' hatext hbtext)
      · rw [if_neg hlength] at hquery
        refine .inl ⟨.inr ?_, _, hquery⟩
        rw [hone] at hlength
        push Not at hlength
        obtain ⟨a, b, ha, hb, hatext, hbtext, hne⟩ := hlength
        obtain ⟨row, hrow, -⟩ := ha.columns
        obtain ⟨row', hrow', -⟩ := hb.columns
        exact ⟨a.id, b.id, hne, Table.contains_iff.mpr ⟨row, hrow⟩,
          Table.contains_iff.mpr ⟨row', hrow'⟩, hatext, hbtext⟩

mutual

/-- The id of a session that matches a selector begins with each of its prefixes. -/
theorem startsWith_of_matches {session : Session} {text : String} : ∀ {selector : Selector},
    sessionMatchesSelector session selector = true → text ∈ selector.idPrefixes →
      session.id.startsWith text = true
  | .idPrefix text', hmatches, htext => by
      rw [Selector.idPrefixes, List.mem_singleton] at htext
      rw [sessionMatchesSelector] at hmatches
      rw [htext]
      exact hmatches
  | .and selectors, hmatches, htext => by
      rw [sessionMatchesSelector] at hmatches
      rw [Selector.idPrefixes] at htext
      exact startsWith_of_matchesAll hmatches htext
  | .id _, _, htext => nomatch htext
  | .inNamespace _, _, htext => nomatch htext
  | .label _ _, _, htext => nomatch htext
  | .dir _, _, htext => nomatch htext
  | .role _, _, htext => nomatch htext
  | .all, _, htext => nomatch htext

theorem startsWith_of_matchesAll {session : Session} {text : String} :
    ∀ {selectors : List Selector}, sessionMatchesAll session selectors = true →
      text ∈ collectPrefixSelectors selectors → session.id.startsWith text = true
  | [], _, htext => nomatch htext
  | selector :: rest, hmatches, htext => by
      rw [sessionMatchesAll, Bool.and_eq_true] at hmatches
      rw [collectPrefixSelectors, List.mem_append] at htext
      rcases htext with hfirst | hrest
      · exact startsWith_of_matches hmatches.1 hfirst
      · exact startsWith_of_matchesAll hmatches.2 hrest

end

/-! ## Conjunctions -/

/-- The sessions a conjunction starts from: a bad prefix anywhere fails. -/
theorem andCandidates_cases (hdecode : db.AllDecode) (texts : List String) :
    ((∃ text ∈ texts, db.BadPrefix text) ∧ ∃ e, db.andCandidates texts = .error e) ∨
      ((∀ text ∈ texts, ¬db.BadPrefix text) ∧
        db.Lists (db.andCandidates texts) fun session =>
          ∀ text ∈ texts.head?, session.id.startsWith text = true) := by
  cases texts with
  | nil =>
      refine .inr ⟨fun text h => absurd h List.not_mem_nil, ?_⟩
      exact lists_querySessions hdecode fun session row _ _ => by simp
  | cons first rest =>
      rcases queryPrefixSessions_cases hdecode first with ⟨hbad, e, he⟩ | ⟨hgood, hlists⟩
      · refine .inl ⟨⟨first, List.mem_cons_self, hbad⟩, e, ?_⟩
        rw [andCandidates, he]
        rfl
      · obtain ⟨sessions, hsessions, hrest⟩ := hlists
        have hothers : (∃ others, rest.mapM db.queryPrefixSessions = .ok others) ↔
            ∀ text ∈ rest, ¬db.BadPrefix text := by
          rw [Except.mapM_isOk]
          refine forall₂_congr fun text _ => ?_
          rcases queryPrefixSessions_cases hdecode text with
            ⟨hbad, e, he⟩ | ⟨hgood, found, hfound, -⟩
          · exact iff_of_false (by simp [he]) fun hnot => hnot hbad
          · exact iff_of_true ⟨found, hfound⟩ hgood
        cases hmap : rest.mapM db.queryPrefixSessions with
        | error e =>
            have hsome : ∃ text ∈ rest, db.BadPrefix text := by
              by_contra hnone
              push Not at hnone
              obtain ⟨others, hothers'⟩ := hothers.mpr hnone
              rw [hmap] at hothers'
              cases hothers'
            obtain ⟨text, htext, hbad⟩ := hsome
            refine .inl ⟨⟨text, List.mem_cons_of_mem _ htext, hbad⟩, e, ?_⟩
            rw [andCandidates, hsessions]
            show (do let _ ← rest.mapM db.queryPrefixSessions; pure sessions) = _
            rw [hmap]
            rfl
        | ok others =>
            have hgoods := hothers.mp ⟨others, hmap⟩
            refine .inr ⟨List.forall_mem_cons.mpr ⟨hgood, hgoods⟩, sessions, ?_, hrest.1, ?_⟩
            · rw [andCandidates, hsessions]
              show (do let _ ← rest.mapM db.queryPrefixSessions; pure sessions) = _
              rw [hmap]
              rfl
            · intro session
              rw [hrest.2]
              simp

/-- A conjunction lists what the matcher accepts, unless one of its prefixes is bad. -/
theorem queryAndSessions_cases (hdecode : db.AllDecode) (selectors : List Selector) :
    ((∃ text ∈ collectPrefixSelectors selectors, db.BadPrefix text) ∧
        ∃ e, db.queryAndSessions selectors = .error e) ∨
      ((∀ text ∈ collectPrefixSelectors selectors, ¬db.BadPrefix text) ∧
        db.Lists (db.queryAndSessions selectors) fun session =>
          sessionMatchesAll session selectors = true) := by
  rcases andCandidates_cases hdecode (collectPrefixSelectors selectors) with
    ⟨hbad, e, he⟩ | ⟨hgood, sessions, hsessions, hnodup, hmem⟩
  · refine .inl ⟨hbad, e, ?_⟩
    rw [queryAndSessions, he]
    rfl
  · refine .inr ⟨hgood, sessions.filter fun session => sessionMatchesAll session selectors,
      ?_, ?_, fun session => ?_⟩
    · rw [queryAndSessions, hsessions]
      rfl
    · exact hnodup.sublist (List.filter_sublist.map Session.id)
    · rw [List.mem_filter, hmem, and_assoc]
      refine and_congr_right fun _ => ⟨fun h => h.2, fun h => ⟨fun text htext => ?_, h⟩⟩
      -- the first prefix is one of the selectors, so it narrows nothing
      exact startsWith_of_matchesAll h (List.mem_of_mem_head? htext)

/-! ## Labels -/

theorem mem_labelsForSession {id : SessionId} {label : Label} :
    label ∈ db.labelsForSession id ↔ db.labels.lookup (id, label.key) = some label.value := by
  rw [labelsForSession, List.mem_insertionSort, List.mem_map, ← Table.mem_rows_iff]
  constructor
  · rintro ⟨⟨⟨id', key⟩, value⟩, hrow, rfl⟩
    obtain ⟨hmem, hid⟩ := List.mem_filter.mp hrow
    obtain rfl : id' = id := of_decide_eq_true hid
    exact hmem
  · intro hrow
    exact ⟨((id, label.key), label.value), List.mem_filter.mpr ⟨hrow, decide_eq_true rfl⟩, rfl⟩

/-- A key has one value, so a label matches when that value does. -/
theorem matches_label {session : Session} (h : db.Decodes session.id session) {key : String}
    {op : LabelOp} :
    sessionMatchesSelector session (.label key op) = true ↔
      ∃ value, db.labels.lookup (session.id, key) = some value ∧ op.accepts value = true := by
  obtain ⟨row, -, -, -, -, hlabels⟩ := h.columns
  rw [sessionMatchesSelector, hlabels, List.any_eq_true]
  constructor
  · rintro ⟨label, hlabel, haccepts⟩
    obtain ⟨hkey, hvalue⟩ := Bool.and_eq_true_iff.mp haccepts
    obtain rfl := of_decide_eq_true hkey
    exact ⟨label.value, mem_labelsForSession.mp hlabel, hvalue⟩
  · rintro ⟨value, hvalue, haccepts⟩
    exact ⟨⟨key, value⟩, mem_labelsForSession.mpr hvalue, by simp [haccepts]⟩

/-! ## Every selector -/

/-- The stored paths that name the directory of a selector by directory spell it alike. -/
def DirSpelled (db : Database) (selector : Selector) : Prop :=
  ∀ path, selector = .dir path → ∀ id row, db.sessions.lookup id = some row →
    samePath row.dir path = true → row.dir = path

/-- The query by directory compares the text of the path. -/
theorem lists_dir (hdecode : db.AllDecode) {path : String} (hbind : Bindable [path]) :
    db.Lists (db.listSessionsBySelector (.dir path)) fun session => session.dir = path := by
  rw [listSessionsBySelector, queryBound_of_bindable hbind]
  refine lists_querySessions hdecode fun session row hrow hsession => ?_
  obtain ⟨row', hrow', -, -, hdir, -⟩ := hsession.columns
  rw [hrow] at hrow'
  cases hrow'
  rw [hdir, decide_eq_true_iff]

/-- A selector whose texts can be bound lists what the matcher accepts, unless one of its
prefixes is bad. -/
theorem listSessionsBySelector_cases (hdecode : db.AllDecode) {selector : Selector}
    (hbind : Bindable (boundTexts selector)) (hdir : db.DirSpelled selector) :
    ((∃ text ∈ selector.idPrefixes, db.BadPrefix text) ∧
        ∃ e, db.listSessionsBySelector selector = .error e) ∨
      ((∀ text ∈ selector.idPrefixes, ¬db.BadPrefix text) ∧
        db.Lists (db.listSessionsBySelector selector) fun session =>
          sessionMatchesSelector session selector = true) := by
  -- Only prefixes can be bad, alone or in a conjunction.
  cases selector with
  | all =>
      refine .inr ⟨fun text h => absurd h List.not_mem_nil, ?_⟩
      exact lists_querySessions hdecode fun session row _ _ => by simp [sessionMatchesSelector]
  | id id =>
      refine .inr ⟨fun text h => absurd h List.not_mem_nil, ?_⟩
      exact lists_querySessions hdecode fun session row _ _ => by simp [sessionMatchesSelector]
  | role name =>
      refine .inr ⟨fun text h => absurd h List.not_mem_nil, ?_⟩
      rw [boundTexts] at hbind
      rw [listSessionsBySelector, queryBound_of_bindable hbind]
      refine lists_querySessions hdecode fun session row hrow hsession => ?_
      obtain ⟨row', hrow', hrole, -⟩ := hsession.columns
      rw [hrow] at hrow'
      cases hrow'
      rw [sessionMatchesSelector, hrole]
  | inNamespace slug =>
      refine .inr ⟨fun text h => absurd h List.not_mem_nil, ?_⟩
      refine lists_querySessions hdecode fun session row hrow hsession => ?_
      obtain ⟨row', hrow', -, hslug, -⟩ := hsession.columns
      rw [hrow] at hrow'
      cases hrow'
      rw [sessionMatchesSelector, hslug]
  | dir path =>
      refine .inr ⟨fun text h => absurd h List.not_mem_nil, ?_⟩
      refine (lists_dir hdecode hbind).congr fun session hsession => ?_
      obtain ⟨row, hrow, -, -, hrowDir, -⟩ := hsession.columns
      rw [sessionMatchesSelector, hrowDir]
      constructor
      · rintro rfl
        exact samePath_self row.dir
      · exact hdir path rfl session.id row hrow
  | label key op =>
      refine .inr ⟨fun text h => absurd h List.not_mem_nil, ?_⟩
      cases op with
      | eq value =>
          rw [boundTexts] at hbind
          rw [listSessionsBySelector, queryBound_of_bindable hbind]
          refine lists_querySessions hdecode fun session row _ hsession => ?_
          rw [matches_label hsession]
          simp [LabelOp.accepts]
      | isIn values =>
          by_cases hempty : values = []
          · subst hempty
            refine ⟨[], rfl, List.nodup_nil, fun session => ?_⟩
            refine iff_of_false List.not_mem_nil ?_
            rintro ⟨hsession, hmatches⟩
            obtain ⟨value, -, haccepts⟩ := (matches_label hsession).mp hmatches
            simp [LabelOp.accepts] at haccepts
          · rw [boundTexts, if_neg hempty] at hbind
            rw [listSessionsBySelector, if_neg hempty, queryBound_of_bindable hbind]
            refine lists_querySessions hdecode fun session row _ hsession => ?_
            rw [matches_label hsession, Option.any_eq_true]
            simp [LabelOp.accepts]
  | idPrefix text =>
      rcases queryPrefixSessions_cases hdecode text with ⟨hbad, herror⟩ | ⟨hgood, hlists⟩
      · exact .inl ⟨⟨text, List.mem_singleton.mpr rfl, hbad⟩, herror⟩
      · refine .inr ⟨fun text' htext => ?_, hlists.congr fun session _ => ?_⟩
        · rw [List.mem_singleton.mp htext]
          exact hgood
        · rw [sessionMatchesSelector]
  | and selectors =>
      rcases queryAndSessions_cases hdecode selectors with ⟨hbad, herror⟩ | ⟨hgood, hlists⟩
      · exact .inl ⟨hbad, herror⟩
      · refine .inr ⟨hgood, hlists.congr fun session _ => ?_⟩
        rw [sessionMatchesSelector]

/-- The query fails when some prefix is bad, and only then; otherwise it lists each session
the matcher accepts once, and so does the conjunction of the selector alone. -/
def AgreesWithMatcher (db : Database) (selector : Selector) : Prop :=
  ((∃ e, db.listSessionsBySelector selector = .error e) ↔
      ∃ text ∈ selector.idPrefixes, db.BadPrefix text) ∧
    (∀ sessions, db.listSessionsBySelector selector = .ok sessions →
      (sessions.map Session.id).Nodup ∧
        ∀ session, session ∈ sessions ↔
          db.Decodes session.id session ∧ sessionMatchesSelector session selector = true) ∧
    ∀ sessions alone, db.listSessionsBySelector selector = .ok sessions →
      db.listSessionsBySelector (.and [selector]) = .ok alone →
      ∀ session, session ∈ sessions ↔ session ∈ alone

/-- What a query that lists something returns. -/
theorem Lists.of_ok {result : Except SessionRowError (List Session)} {accepts : Session → Prop}
    {sessions : List Session} (h : db.Lists result accepts) (hresult : result = .ok sessions) :
    (sessions.map Session.id).Nodup ∧
      ∀ session, session ∈ sessions ↔ db.Decodes session.id session ∧ accepts session := by
  obtain ⟨sessions', hresult', hrest⟩ := h
  rw [hresult] at hresult'
  cases hresult'
  exact hrest

/-- A selector that is listed without a bad prefix has texts that can be bound. -/
theorem AgreesWithMatcher.bindable {selector : Selector} (h : db.AgreesWithMatcher selector) :
    Bindable (boundTexts selector) := by
  by_contra hbind
  obtain ⟨text, htext, -⟩ := h.1.mp (listSessionsBySelector_of_not_bindable hbind)
  -- what has prefixes binds no free text
  cases selector with
  | idPrefix text => exact hbind bindable_nil
  | and selectors => exact hbind bindable_nil
  | all => exact hbind bindable_nil
  | id id => exact hbind bindable_nil
  | inNamespace slug => exact hbind bindable_nil
  | role name => exact absurd htext List.not_mem_nil
  | dir path => exact absurd htext List.not_mem_nil
  | label key op => exact absurd htext List.not_mem_nil

/-- The queries agree with the matcher where their texts can be bound, except the one by
directory, which does so when also the stored paths that name the directory are spelled
like the selector. -/
theorem agreesWithMatcher_iff (hdecode : db.AllDecode) (selector : Selector) :
    db.AgreesWithMatcher selector ↔
      Bindable (boundTexts selector) ∧ db.DirSpelled selector := by
  constructor
  · intro hagrees
    have hbind := hagrees.bindable
    obtain ⟨-, hlists, -⟩ := hagrees
    refine ⟨hbind, ?_⟩
    rintro path rfl id row hrow hsame
    obtain ⟨sessions, hsessions, -, hmem⟩ := lists_dir hdecode hbind
    obtain ⟨session, hsession⟩ := hdecode id row hrow
    obtain rfl := hsession.id_eq
    obtain ⟨row', hrow', -, -, hdir, -⟩ := hsession.columns
    rw [hrow] at hrow'
    cases hrow'
    -- The matcher accepts a directory spelled another way; the query lists it then too.
    have hmatches : sessionMatchesSelector session (.dir path) = true := by
      rw [sessionMatchesSelector, hdir]
      exact hsame
    have hlisted := ((hlists sessions hsessions).2 session).mpr ⟨hsession, hmatches⟩
    exact hdir ▸ ((hmem session).mp hlisted).2
  · rintro ⟨hbind, hdir⟩
    have hcases := listSessionsBySelector_cases hdecode hbind hdir
    have halone : ∀ alone, db.listSessionsBySelector (.and [selector]) = .ok alone →
        ∀ session, session ∈ alone ↔
          db.Decodes session.id session ∧ sessionMatchesSelector session selector = true := by
      intro alone halone session
      have hspelled : db.DirSpelled (.and [selector]) := fun path h => nomatch h
      have hbound : Bindable (boundTexts (.and [selector])) := bindable_nil
      rcases listSessionsBySelector_cases hdecode hbound hspelled with
        ⟨-, e, he⟩ | ⟨-, hlists⟩
      · rw [halone] at he
        cases he
      · rw [(hlists.of_ok halone).2]
        simp [sessionMatchesSelector, sessionMatchesAll]
    rcases hcases with ⟨hbad, e, he⟩ | ⟨hgood, hlists⟩
    · refine ⟨iff_of_true ⟨e, he⟩ hbad, fun sessions hsessions => ?_,
        fun sessions _ hsessions => ?_⟩
      · rw [he] at hsessions
        cases hsessions
      · rw [he] at hsessions
        cases hsessions
    · refine ⟨iff_of_false ?_ ?_, fun sessions hsessions => hlists.of_ok hsessions,
        fun sessions alone hsessions hlisted session => ?_⟩
      · rintro ⟨e, he⟩
        obtain ⟨sessions, hsessions, -⟩ := hlists
        rw [he] at hsessions
        cases hsessions
      · rintro ⟨text, htext, hbad⟩
        exact hgood text htext hbad
      · rw [(hlists.of_ok hsessions).2, halone alone hlisted]

/-! ## A directory spelled with a trailing separator -/

/-- A session that works in a project directory. -/
def projectSession : Session where
  id := ⟨1⟩
  runtime := .claude
  role := "engineer"
  workspace := "project"
  namespaceSlug := "default"
  dir := "/tmp/project"
  labels := []
  state := .running
  runtimePid := 41
  runtimeSession := none
  transcriptPath := none
  tmuxPane := none
  agentConfig := none
  createdAt := 1
  startedAt := 1
  terminatedAt := none
  exitCode := none
  updatedAt := 1

/-- The store that holds it. -/
def projectStore : Database :=
  { Database.migrated 0 with
    sessions := Table.empty.insert projectSession.id (sessionRow projectSession) }

theorem decodes_projectSession : projectStore.Decodes projectSession.id projectSession :=
  ⟨sessionRow projectSession, rfl, rfl⟩

theorem allDecode_projectStore : projectStore.AllDecode := by
  intro id row hrow
  by_cases hid : id = projectSession.id
  · subst hid
    exact ⟨projectSession, decodes_projectSession⟩
  · have hother := Table.lookup_insert_ne (t := Table.empty) hid (sessionRow projectSession)
    rw [show projectStore.sessions.lookup id = _ from hother] at hrow
    cases hrow

/-- A conjunction finds the directory however it is spelled, the query by directory where
it is spelled as stored. -/
theorem agreesWithMatcher_projectStore :
    projectStore.AgreesWithMatcher (.and [.role "engineer", .dir "/tmp/project/"]) ∧
      projectStore.AgreesWithMatcher (.dir "/tmp/project") := by
  constructor
  · exact (agreesWithMatcher_iff allDecode_projectStore _).mpr
      ⟨bindable_nil, fun path h => by cases h⟩
  · refine (agreesWithMatcher_iff allDecode_projectStore _).mpr ⟨by decide, ?_⟩
    rintro path hpath id row hrow -
    cases hpath
    by_cases hid : id = projectSession.id
    · subst hid
      cases hrow
      rfl
    · have hother := Table.lookup_insert_ne (t := Table.empty) hid (sessionRow projectSession)
      rw [show projectStore.sessions.lookup id = _ from hother] at hrow
      cases hrow

/-- The query by directory does not find it under the other spelling; the matcher does. -/
theorem dir_query_misses_spelling :
    ¬∀ (db : Database) (selector : Selector), db.AllDecode → db.AgreesWithMatcher selector := by
  intro h
  have hempty : projectStore.listSessionsBySelector (.dir "/tmp/project/") = .ok [] := rfl
  have hmatches : sessionMatchesSelector projectSession (.dir "/tmp/project/") = true := by decide
  obtain ⟨-, hlists, -⟩ := h projectStore (.dir "/tmp/project/") allDecode_projectStore
  have hlisted := ((hlists [] hempty).2 projectSession).mpr ⟨decodes_projectSession, hmatches⟩
  cases hlisted

end LittleOrgans.Store.Database
