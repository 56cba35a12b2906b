import LittleOrgans.Library.StepSystem
import LittleOrgans.Session.ObserverAgreement

/-!
# Reaper passes

`refresh_exits` under store writes that fail. `reap_exited` takes a session into the
driver's set when it reports its exit, before anything is stored, and a pass stops at the
first write that fails. So an exit is reported once: the exits of a pass that are not
stored when it fails are not reported again, unless the session is spawned again or the
daemon restarts (`reaped_at_most_once`).
-/

set_option autoImplicit false

namespace LittleOrgans.Session

open LittleOrgans.Core
open LittleOrgans.Library
open LittleOrgans.Store
open LittleOrgans.Daemon

/-! ## Writes that fail -/

/-- How a write ends. One that fails may have been applied. -/
inductive WriteOutcome where
  | done
  | failed (applied : Bool) (error : DaemonError)
  deriving DecidableEq

def WriteOutcome.exec (outcome : WriteOutcome) (write : Database → Database) (db : Database) :
    Except DaemonError Unit × Database :=
  match outcome with
  | .done => (.ok (), write db)
  | .failed applied error => (.error error, if applied then write db else db)

/-- The two writes for an exit, and the time at which it is stored. -/
structure ExitWrites where
  now : DateTime
  transcript : WriteOutcome
  mark : WriteOutcome

/-- `persist_child_exit` with writes that may fail. -/
def ExitWrites.persist (writes : ExitWrites) (db : Database) (exit : ChildExit) :
    Except DaemonError Unit × Database :=
  let mark := fun db : Database =>
    writes.mark.exec (·.markSessionTerminated exit.sessionId exit.exitCode writes.now) db
  match exit.transcriptPath with
  | none => mark db
  | some path =>
      match writes.transcript.exec (·.recordTranscriptPath exit.sessionId path writes.now) db with
      | (.ok _, db) => mark db
      | (.error _, db) => (.error (.store "failed to persist transcript path"), db)

/-- The loop of `refresh_exits`. -/
def persistExits (writes : SessionId → ExitWrites) :
    List ChildExit → Database → Except DaemonError Unit × Database
  | [], db => (.ok (), db)
  | exit :: rest, db =>
      match (writes exit.sessionId).persist db exit with
      | (.ok _, db) => persistExits writes rest db
      | (.error _, db) => (.error (.store "failed to persist terminated session"), db)

/-- Stores exits one after the other. -/
def persistAll (writes : SessionId → ExitWrites) (db : Database) (exits : List ChildExit) :
    Database :=
  exits.foldl (fun db exit => persistChildExit db exit (writes exit.sessionId).now) db

/-! ## Passes -/

/-- The store and the driver's set. -/
structure ReaperState where
  db : Database
  terminalSessions : List SessionId

/-- What a pass meets: the answers about logs, unless the status cannot be read, and how
its writes end. -/
structure ReaperPass where
  logs : Option LogAnswers
  writes : SessionId → ExitWrites

/-- The lifecycles that `reap_exited` goes through. A status that cannot be read is
empty. -/
def ReaperPass.lifecycles (pass : ReaperPass) (db : Database) : List Lifecycle :=
  match pass.logs with
  | some logs => status db .empty logs
  | none => []

/-- What `reap_exited` returns in a pass. -/
def ReaperPass.returned (pass : ReaperPass) (s : ReaperState) : List ChildExit :=
  (reapExited s.terminalSessions (pass.lifecycles s.db)).1

/-- `refresh_exits`, in a pass. -/
def ReaperPass.refreshExits (pass : ReaperPass) (s : ReaperState) :
    Except DaemonError Unit × ReaperState :=
  let reaped := reapExited s.terminalSessions (pass.lifecycles s.db)
  let persisted := persistExits pass.writes reaped.1 s.db
  (persisted.1, ⟨persisted.2, reaped.2⟩)

/-- The row of a session says that it ended as an exit says. -/
def ExitStored (db : Database) (exit : ChildExit) (now : DateTime) : Prop :=
  ∃ row, db.sessions.lookup exit.sessionId = some row ∧ row.state = .terminated ∧
    row.exitCode = exit.exitCode ∧ row.terminatedAt = some now ∧
    ∀ path, exit.transcriptPath = some path → row.transcriptPath = some path

/-- What a pass stores of an exit. The writes are updates of the session's row: when the
row is there it gets the exit, and when it is not there is nothing to store it in. -/
def ReaperPass.Settles (pass : ReaperPass) (s : ReaperState) (exit : ChildExit) : Prop :=
  ((s.db.sessions.lookup exit.sessionId).isSome = true →
    ExitStored (pass.refreshExits s).2.db exit (pass.writes exit.sessionId).now) ∧
  (s.db.sessions.lookup exit.sessionId = none →
    (pass.refreshExits s).2.db.sessions.lookup exit.sessionId = none)

/-- Passes, the other operations on the driver's set, and writes of other tasks. -/
inductive ReaperStep where
  | refresh (pass : ReaperPass)
  | spawn (id : SessionId)
  | terminated (id : SessionId)
  | restart
  | write (db : Database)

/-- The daemon, as far as the reaper goes. -/
def reaper : StepSystem ReaperState ReaperStep where
  step s
    | .refresh pass => some (pass.refreshExits s).2
    | .spawn id => some { s with terminalSessions := s.terminalSessions.filter (· ≠ id) }
    | .terminated id => some { s with terminalSessions := id :: s.terminalSessions.filter (· ≠ id) }
    | .restart => some { s with terminalSessions := [] }
    | .write db => some { s with db := db }

/-- A step after which the driver still knows that it reported the exit of a session. -/
def Remembers (id : SessionId) (step : ReaperStep) : Prop :=
  step ≠ .spawn id ∧ step ≠ .restart

/-! ## What a pass returns -/

theorem mem_reapExited_iff {terminalSessions : List SessionId} {lcs : List Lifecycle}
    (hnodup : (lcs.map Lifecycle.sessionId).Nodup) {exit : ChildExit} :
    exit ∈ (reapExited terminalSessions lcs).1 ↔
      ∃ lc ∈ lcs, terminalChildExit lc = some exit ∧ lc.sessionId ∉ terminalSessions := by
  induction lcs generalizing terminalSessions with
  | nil => simp [reapExited]
  | cons lc rest ih =>
      rw [List.map_cons, List.nodup_cons] at hnodup
      have hne : ∀ lc' ∈ rest, lc'.sessionId ≠ lc.sessionId := by
        intro lc' hlc' heq
        exact hnodup.1 (heq ▸ List.mem_map_of_mem hlc')
      rw [reapExited]
      cases hexit : terminalChildExit lc with
      | none =>
          rw [ih hnodup.2]
          simp [hexit]
      | some first =>
          dsimp only
          split
          · next hreported =>
              rw [ih hnodup.2]
              simp [hreported]
          · next hfresh =>
              -- the rest is about other sessions, so the session put into the set hides none
              have hrest : (∃ lc' ∈ rest, terminalChildExit lc' = some exit ∧
                    lc'.sessionId ∉ lc.sessionId :: terminalSessions) ↔
                  ∃ lc' ∈ rest, terminalChildExit lc' = some exit ∧
                    lc'.sessionId ∉ terminalSessions := by
                refine exists_congr fun lc' => and_congr_right fun hlc' => ?_
                refine and_congr_right fun _ => ?_
                rw [List.mem_cons, not_or, and_iff_right (hne lc' hlc')]
              rw [List.mem_cons, ih hnodup.2, hrest]
              simp [hexit, hfresh, eq_comm]

theorem nodup_status (db : Database) (filter : StatusFilter) (logs : LogAnswers) :
    ((status db filter logs).map Lifecycle.sessionId).Nodup := by
  rw [status, Database.listLifecycles, List.map_map, List.map_map]
  exact db.lifecycles.nodup.sublist (List.filter_sublist.map Prod.fst)

/-- The exits of a pass are about different sessions. -/
theorem nodup_reapExited (terminalSessions : List SessionId) (lcs : List Lifecycle) :
    ((reapExited terminalSessions lcs).1.map ChildExit.sessionId).Nodup ∧
      ∀ exit ∈ (reapExited terminalSessions lcs).1, exit.sessionId ∉ terminalSessions := by
  induction lcs generalizing terminalSessions with
  | nil => simp [reapExited]
  | cons lc rest ih =>
      rw [reapExited]
      cases hexit : terminalChildExit lc with
      | none => exact ih terminalSessions
      | some first =>
          dsimp only
          split
          · exact ih terminalSessions
          · next hfresh =>
              have hid := (terminalChildExit_eq_some hexit).1
              obtain ⟨hnodup, hnew⟩ := ih (lc.sessionId :: terminalSessions)
              constructor
              · -- the rest returns nothing of what is in the set
                rw [List.map_cons, List.nodup_cons]
                refine ⟨fun hmem => ?_, hnodup⟩
                obtain ⟨exit, hexit, heq⟩ := List.mem_map.mp hmem
                exact hnew exit hexit (heq.trans hid ▸ List.mem_cons_self)
              · intro exit hmem
                rcases List.mem_cons.mp hmem with rfl | hmem
                · rwa [hid]
                · exact fun h => hnew exit hmem (List.mem_cons_of_mem _ h)

/-! ## What a pass stores -/

theorem exec_ok {outcome : WriteOutcome} {write : Database → Database} {db db' : Database}
    {u : Unit} (h : outcome.exec write db = (.ok u, db')) : db' = write db := by
  cases outcome with
  | done =>
      cases h
      rfl
  | failed applied error => cases h

/-- When both writes succeed, the exit is stored. -/
theorem persist_ok {writes : ExitWrites} {db db' : Database} {exit : ChildExit} {u : Unit}
    (h : writes.persist db exit = (.ok u, db')) : db' = persistChildExit db exit writes.now := by
  unfold ExitWrites.persist at h
  unfold persistChildExit recordTranscript
  cases hpath : exit.transcriptPath with
  | none =>
      rw [hpath] at h
      exact exec_ok h
  | some path =>
      rw [hpath] at h
      dsimp only at h
      split at h
      · next u' db₁ htranscript =>
          rw [exec_ok h, exec_ok htranscript]
      · cases h

/-- A pass stores the exits it was given in order, up to the first whose writes fail. -/
theorem persistExits_spec (writes : SessionId → ExitWrites) (exits : List ChildExit)
    (db : Database) :
    ((persistExits writes exits db).1.isOk = true ∧
      (persistExits writes exits db).2 = persistAll writes db exits) ∨
    ∃ stored exit rest e, exits = stored ++ exit :: rest ∧
      (persistExits writes exits db).1.isOk = false ∧
      (writes exit.sessionId).persist (persistAll writes db stored) exit =
        (.error e, (persistExits writes exits db).2) := by
  induction exits generalizing db with
  | nil => exact .inl ⟨rfl, rfl⟩
  | cons exit rest ih =>
      rw [persistExits]
      cases hfirst : (writes exit.sessionId).persist db exit with
      | mk result db₁ =>
          cases result with
          | error e => exact .inr ⟨[], exit, rest, e, rfl, rfl, hfirst⟩
          | ok u =>
              have hdb := persist_ok hfirst
              subst hdb
              rcases ih (persistChildExit db exit (writes exit.sessionId).now) with h | h
              · exact .inl h
              · obtain ⟨stored, failing, behind, e, rfl, hfails, hpersist⟩ := h
                exact .inr ⟨exit :: stored, failing, behind, e, rfl, hfails, hpersist⟩

/-- What the writes for an exit leave in the row of its session. -/
def storedRow (exit : ChildExit) (now : DateTime) (row : SessionRow) : SessionRow :=
  let row :=
    match exit.transcriptPath with
    | some path => row.recordTranscriptPath path now
    | none => row
  row.markTerminated exit.exitCode now

theorem exitStored_of_storedRow {db : Database} {exit : ChildExit} {now : DateTime}
    {row : SessionRow}
    (hrow : db.sessions.lookup exit.sessionId = some (storedRow exit now row)) :
    ExitStored db exit now := by
  refine ⟨_, hrow, rfl, rfl, rfl, fun path hpath => ?_⟩
  simp only [storedRow, hpath, SessionRow.markTerminated, SessionRow.recordTranscriptPath]
  split
  · next hsame => exact hsame
  · rfl

theorem lookup_sessions_persistChildExit (db : Database) (exit : ChildExit) (now : DateTime)
    (id : SessionId) :
    (persistChildExit db exit now).sessions.lookup id =
      if id = exit.sessionId then
        (db.sessions.lookup exit.sessionId).map (storedRow exit now)
      else db.sessions.lookup id := by
  rw [persistChildExit, Database.lookup_sessions_markSessionTerminated]
  cases hpath : exit.transcriptPath with
  | none =>
      have hstored : storedRow exit now = SessionRow.markTerminated exit.exitCode now := by
        funext row
        rw [storedRow, hpath]
      rw [hstored]
      rfl
  | some path =>
      have hstored : storedRow exit now =
          SessionRow.markTerminated exit.exitCode now ∘
            SessionRow.recordTranscriptPath path now := by
        funext row
        rw [storedRow, hpath]
        rfl
      simp only [recordTranscript, Database.lookup_sessions_recordTranscriptPath, if_true,
        Option.map_map, hstored]
      by_cases hid : id = exit.sessionId
      · rw [if_pos hid, if_pos hid]
      · rw [if_neg hid, if_neg hid, if_neg hid]

/-- The exits stored one after the other are about different sessions, so each row keeps
what its own exit wrote. -/
theorem lookup_sessions_persistAll (writes : SessionId → ExitWrites) {exits : List ChildExit}
    (hnodup : (exits.map ChildExit.sessionId).Nodup) (db : Database) :
    (∀ exit ∈ exits, (persistAll writes db exits).sessions.lookup exit.sessionId =
      (db.sessions.lookup exit.sessionId).map
        (storedRow exit (writes exit.sessionId).now)) ∧
    ∀ id ∉ exits.map ChildExit.sessionId,
      (persistAll writes db exits).sessions.lookup id = db.sessions.lookup id := by
  induction exits generalizing db with
  | nil => exact ⟨by simp, fun id _ => rfl⟩
  | cons first rest ih =>
      rw [List.map_cons, List.nodup_cons] at hnodup
      obtain ⟨hrest, hothers⟩ :=
        ih hnodup.2 (persistChildExit db first (writes first.sessionId).now)
      have hcons : persistAll writes db (first :: rest) =
          persistAll writes (persistChildExit db first (writes first.sessionId).now) rest := rfl
      rw [hcons]
      constructor
      · intro exit hexit
        rcases List.mem_cons.mp hexit with rfl | hexit
        · rw [hothers _ hnodup.1, lookup_sessions_persistChildExit, if_pos rfl]
        · have hne : exit.sessionId ≠ first.sessionId := by
            intro heq
            exact hnodup.1 (heq ▸ List.mem_map_of_mem hexit)
          rw [hrest exit hexit, lookup_sessions_persistChildExit, if_neg hne]
      · intro id hid
        rw [List.map_cons, List.mem_cons, not_or] at hid
        rw [hothers id hid.2, lookup_sessions_persistChildExit, if_neg hid.1]

/-- Writes that fail halfway are about the row of their own session as well. -/
theorem lookup_sessions_persist (writes : ExitWrites) (db : Database) (exit : ChildExit)
    {id : SessionId} (hne : id ≠ exit.sessionId) :
    (writes.persist db exit).2.sessions.lookup id = db.sessions.lookup id := by
  -- a write that keeps this row keeps it also when it fails, before its effect or after
  have hexec : ∀ (outcome : WriteOutcome) (write : Database → Database) (db : Database),
      ((write db).sessions.lookup id = db.sessions.lookup id) →
        (outcome.exec write db).2.sessions.lookup id = db.sessions.lookup id := by
    intro outcome write db hwrite
    cases outcome with
    | done => exact hwrite
    | failed applied error =>
        cases applied with
        | true => exact hwrite
        | false => rfl
  have hmark : ∀ db : Database, (writes.mark.exec
      (·.markSessionTerminated exit.sessionId exit.exitCode writes.now) db).2.sessions.lookup id =
        db.sessions.lookup id := by
    intro db
    refine hexec _ _ _ ?_
    rw [Database.lookup_sessions_markSessionTerminated, if_neg hne]
  have htranscript : ∀ path, (writes.transcript.exec
      (·.recordTranscriptPath exit.sessionId path writes.now) db).2.sessions.lookup id =
        db.sessions.lookup id := by
    intro path
    refine hexec _ _ _ ?_
    rw [Database.lookup_sessions_recordTranscriptPath, if_neg hne]
  unfold ExitWrites.persist
  cases exit.transcriptPath with
  | none => exact hmark db
  | some path =>
      -- the mark comes second, and only when the transcript was stored
      have hpath := htranscript path
      dsimp only
      split
      · next u db₁ hexec₁ =>
          rw [hexec₁] at hpath
          exact (hmark db₁).trans hpath
      · next e db₁ hexec₁ =>
          rw [hexec₁] at hpath
          exact hpath

theorem settles_of_lookup {pass : ReaperPass} {s : ReaperState} {exit : ChildExit}
    (h : (pass.refreshExits s).2.db.sessions.lookup exit.sessionId =
      (s.db.sessions.lookup exit.sessionId).map
        (storedRow exit (pass.writes exit.sessionId).now)) : pass.Settles s exit := by
  constructor
  · intro hsome
    obtain ⟨row, hrow⟩ := Option.isSome_iff_exists.mp hsome
    rw [hrow, Option.map_some] at h
    exact exitStored_of_storedRow h
  · intro hnone
    rw [h, hnone, Option.map_none]

/-! ## Exits are reported once -/

/-- What the driver has in its set stays there until its session is spawned again. -/
theorem mem_terminalSessions_of_reaches {id : SessionId} {s s' : ReaperState}
    (hmem : id ∈ s.terminalSessions)
    (h : reaper.Reaches (fun _ step => Remembers id step) s s') : id ∈ s'.terminalSessions := by
  refine h.invariant (I := fun s => id ∈ s.terminalSessions) hmem ?_
  rintro s step s' hmem hremembers hstep
  cases step with
  | refresh pass =>
      cases hstep
      exact mem_terminalSessions_reapExited.mpr (.inl hmem)
  | spawn other =>
      cases hstep
      have hne : id ≠ other := fun heq => hremembers.1 (heq ▸ rfl)
      exact List.mem_filter.mpr ⟨hmem, by simpa using hne⟩
  | terminated other =>
      cases hstep
      by_cases heq : id = other
      · exact heq ▸ List.mem_cons_self
      · exact List.mem_cons_of_mem _ (List.mem_filter.mpr ⟨hmem, by simpa using heq⟩)
  | restart => exact absurd rfl hremembers.2
  | write db =>
      cases hstep
      exact hmem

/-- A pass returns the exits that the driver has not reported yet and settles them in
order, up to the first whose writes fail; no later pass returns one of them again. -/
theorem reaped_at_most_once (s : ReaperState) (pass : ReaperPass) :
    (∀ exit, exit ∈ pass.returned s ↔ ∃ lc ∈ pass.lifecycles s.db,
      terminalChildExit lc = some exit ∧ lc.sessionId ∉ s.terminalSessions) ∧
    ((pass.returned s).map ChildExit.sessionId).Nodup ∧
    (((pass.refreshExits s).1.isOk = true ∧
        (pass.refreshExits s).2.db = persistAll pass.writes s.db (pass.returned s) ∧
        ∀ exit ∈ pass.returned s, pass.Settles s exit) ∨
      ∃ stored exit rest e, pass.returned s = stored ++ exit :: rest ∧
        (pass.refreshExits s).1.isOk = false ∧
        (pass.writes exit.sessionId).persist (persistAll pass.writes s.db stored) exit =
          (.error e, (pass.refreshExits s).2.db) ∧
        ∀ exit ∈ stored, pass.Settles s exit) ∧
    ∀ exit ∈ pass.returned s, ∀ s',
      reaper.Reaches (fun _ step => Remembers exit.sessionId step) (pass.refreshExits s).2 s' →
        ∀ later : ReaperPass, ∀ exit' ∈ later.returned s', exit'.sessionId ≠ exit.sessionId := by
  have hnodup : ((pass.returned s).map ChildExit.sessionId).Nodup := (nodup_reapExited _ _).1
  refine ⟨fun exit => mem_reapExited_iff ?_, hnodup, ?_, ?_⟩
  · rw [ReaperPass.lifecycles]
    split
    · exact nodup_status _ _ _
    · exact List.nodup_nil
  · rcases persistExits_spec pass.writes (pass.returned s) s.db with
      ⟨hok, hdb⟩ | ⟨stored, failing, rest, e, hsplit, hfails, hpersist⟩
    · refine .inl ⟨hok, hdb, fun exit hexit => settles_of_lookup ?_⟩
      have hfinal : (pass.refreshExits s).2.db =
          persistAll pass.writes s.db (pass.returned s) := hdb
      rw [hfinal]
      exact (lookup_sessions_persistAll pass.writes hnodup s.db).1 exit hexit
    · refine .inr ⟨stored, failing, rest, e, hsplit, hfails, hpersist, fun exit hexit => ?_⟩
      rw [hsplit, List.map_append, List.map_cons] at hnodup
      -- the writes that fail are about a session of which no exit was stored before
      have hne : exit.sessionId ≠ failing.sessionId := by
        intro heq
        exact (List.nodup_append.mp hnodup).2.2 _ (List.mem_map_of_mem hexit) _
          List.mem_cons_self heq
      have hfinal : (pass.refreshExits s).2.db =
          ((pass.writes failing.sessionId).persist
            (persistAll pass.writes s.db stored) failing).2 := by
        rw [hpersist]
        rfl
      refine settles_of_lookup ?_
      rw [hfinal, lookup_sessions_persist _ _ _ hne]
      exact (lookup_sessions_persistAll pass.writes (List.nodup_append.mp hnodup).1 s.db).1 exit
        hexit
  · intro exit hexit s' hrun later exit' hexit' heq
    have hreported : exit.sessionId ∈ (pass.refreshExits s).2.terminalSessions :=
      mem_terminalSessions_reapExited.mpr (.inr ⟨exit, hexit, rfl⟩)
    refine (nodup_reapExited _ _).2 exit' hexit' ?_
    rw [heq]
    exact mem_terminalSessions_of_reaches hreported hrun

/-! ### An exit that is lost -/

/-- A stored session whose runtime has exited. -/
def exitedState : ReaperState where
  db :=
    { Database.migrated 0 with
      lifecycles := Table.empty.insert ⟨1⟩
        (lifecycleRow (sampleLifecycle ⟨1⟩ (.exited ⟨some 0, none⟩)))
      sessions := Table.empty.insert ⟨1⟩ (sessionRow (sampleSession ⟨1⟩)) }
  terminalSessions := []

/-- The connection to the store breaks before the exit is stored. -/
def brokenPass : ReaperPass where
  logs := some fun _ => .unavailable
  writes _ := ⟨5, .done, .failed false (.store "connection closed")⟩

/-- Every write succeeds. -/
def soundPass : ReaperPass where
  logs := some fun _ => .unavailable
  writes _ := ⟨6, .done, .done⟩

/-- The pass fails before it stores the exit, and the next pass does not return it. -/
theorem unstored_exit_is_not_returned :
    (brokenPass.refreshExits exitedState).1.isOk = false ∧
      (brokenPass.refreshExits exitedState).2.db = exitedState.db ∧
      ∃ exit ∈ brokenPass.returned exitedState,
        exit ∉ soundPass.returned (brokenPass.refreshExits exitedState).2 := by
  refine ⟨rfl, rfl, ⟨⟨1⟩, 41, some 0, none⟩, ?_, ?_⟩
  · decide
  · decide

end LittleOrgans.Session
