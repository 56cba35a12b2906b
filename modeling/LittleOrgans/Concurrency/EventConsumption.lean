import LittleOrgans.Concurrency.EndTraces
import LittleOrgans.Session.EndFacts

/-!
# What the event loop has consumed

The event loop carries the ends of the event log into the session rows. Behind the cursor
that it stores, holds or has in hand, every session of a reported end is over, because no
session is inserted after its end was reported (`Consumption`).
-/

set_option autoImplicit false

namespace LittleOrgans.Concurrency

open LittleOrgans.Core
open LittleOrgans.Library
open LittleOrgans.Library.Pool
open LittleOrgans.Store
open LittleOrgans.Daemon
open LittleOrgans.Session (endFacts EndFacts)

/-! ## Sessions that are over -/

/-- The session row, if there is one, has ended. -/
def SessionOver (db : Database) (id : SessionId) : Prop :=
  ∀ facts, endFacts db id = some facts → facts.Ended

theorem ended_applyEvent {event : RuntimeEvent} (h : event.isTerminal = true) (now : DateTime)
    (facts : EndFacts) : (facts.applyEvent event now).Ended := by
  by_cases hactive : facts.state.isActive = true
  · cases event with
    | running id pid startTime => cases h
    | lost id evidence =>
        rw [EndFacts.applyEvent, if_pos hactive]
        rfl
    | terminated id exitCode signal evidence =>
        cases evidence <;> rw [EndFacts.applyEvent, if_pos hactive] <;> rfl
  · have hended : facts.Ended := Bool.eq_false_iff.mpr hactive
    rw [EndFacts.applyEvent_of_ended hended]
    exact hended

/-- An end among the events ends the session. -/
theorem ended_foldl {events : List RuntimeEvent} {event : RuntimeEvent} (hmem : event ∈ events)
    (hterminal : event.isTerminal = true) (now : DateTime) (facts : EndFacts) :
    (events.foldl (fun facts event => facts.applyEvent event now) facts).Ended := by
  obtain ⟨before, after, rfl⟩ := List.append_of_mem hmem
  rw [List.foldl_append, List.foldl_cons,
    EndFacts.foldl_applyEvent_of_ended (ended_applyEvent hterminal now _)]
  exact ended_applyEvent hterminal now _

theorem sessionOver_applied {events : List RuntimeEvent} {event : RuntimeEvent}
    (hmem : event ∈ events) (hterminal : event.isTerminal = true) (db : Database)
    (nextCursor : EventCursor) (now : DateTime) :
    SessionOver (db.applyRuntimeEventsAndCursor events nextCursor now) event.sessionId := by
  intro facts hfacts
  rw [Session.endFacts_applyRuntimeEventsAndCursor] at hfacts
  obtain ⟨before, -, rfl⟩ := Option.map_eq_some_iff.mp hfacts
  exact ended_foldl (List.mem_filter.mpr ⟨hmem, decide_eq_true rfl⟩) hterminal now before

section Over

variable {w w' : World} {minds : EndMinds} {t : Nat} {origin : Origin} {φ : Knowledge}
  {ψ : Launching} {χ : Ending} {choice : Choice} {o : Op} {r : Except DaemonError o.Res}
  {id : SessionId}

theorem SessionOver.of_sessions {db db' : Database} (h : SessionOver db id)
    (hsessions : db'.sessions = db.sessions) : SessionOver db' id := by
  rw [SessionOver, endFacts, hsessions]
  exact h

/-- A session that is over stays so, and if its end is known no session is inserted. -/
theorem SessionOver.exec (hagreement : Agreement w (firstMinds (firstMinds minds)))
    (hmind : minds t = some (origin, (φ, ψ), χ))
    (hallows : traced.monitor.allows ((φ, ψ), χ) o) (hkeeps : keepsEnded w o = true)
    (hexec : o.exec choice w = some (r, w')) (hknown : EndKnown w.db id)
    (h : SessionOver w.db id) : SessionOver w'.db id := by
  cases o with
  | log o =>
      obtain ⟨log, -, rfl⟩ := Op.exec_log hexec
      exact h
  | memory o =>
      rw [MemoryOp.frame hexec]
      exact h
  | os o =>
      rw [OsOp.frame hexec]
      exact h
  | store o =>
      obtain ⟨db, hrun, rfl⟩ := Op.exec_store hexec
      cases r with
      | error e =>
          rw [StoreOp.exec_error hrun]
          exact h
      | ok a =>
          have heffect := StoreOp.exec_ok hrun
          by_cases hwrites : o.writesSessions = false
          · exact h.of_sessions (heffect.sessions hwrites).1
          · cases o with
            | commitSpawnIntent id' session lc =>
                obtain ⟨now, hcommit⟩ := heffect
                obtain ⟨rfl, hsame⟩ := hagreement.commit_id
                  (firstMinds_eq_some (firstMinds_eq_some hmind)) hallows.1.1
                obtain ⟨-, ⟨old, hold⟩, rfl⟩ := Database.commitSpawnIntent_eq_ok hcommit
                have hne : id ≠ session.id := by
                  rintro rfl
                  -- The lifecycle has ended, and the one that is committed has not.
                  have hended := hknown.row old (hsame ▸ hold)
                  have halive : lc.state.isTerminal = false := hallows.2
                  rw [ended_of_keepsEnded hkeeps rfl hold hended] at halive
                  cases halive
                have hlookup := Table.lookup_insert_ne (t := w.db.sessions) hne (sessionRow session)
                intro facts hfacts
                exact h facts ((congrArg (Option.map EndFacts.ofRow) hlookup).symm.trans hfacts)
            | applyRuntimeEventsAndCursor events nextCursor =>
                obtain ⟨now, rfl⟩ := heffect
                intro facts hfacts
                have hmap := (Session.endFacts_applyRuntimeEventsAndCursor w.db id events nextCursor
                  now).symm.trans hfacts
                obtain ⟨before, hbefore, -⟩ := Option.map_eq_some_iff.mp hmap
                rw [Session.endFacts_applyRuntimeEventsAndCursor_of_ended hbefore
                  (h before hbefore)] at hfacts
                cases hfacts
                exact h _ hbefore
            | recordTranscriptPath id' path =>
                obtain ⟨now, rfl⟩ := heffect
                intro facts hfacts
                rw [Session.endFacts_recordTranscriptPath] at hfacts
                exact h facts hfacts
            | markSessionTerminated id' exitCode =>
                obtain ⟨now, rfl⟩ := heffect
                intro facts hfacts
                rw [Session.endFacts_markSessionTerminated] at hfacts
                split at hfacts
                · obtain ⟨before, -, rfl⟩ := Option.map_eq_some_iff.mp hfacts
                  rfl
                · exact h facts hfacts
            | deleteSessionsByNamespace slug =>
                cases heffect
                intro facts hfacts
                rw [endFacts, Database.frame_deleteSessionsByNamespace] at hfacts
                obtain ⟨row, hrow, rfl⟩ := Option.map_eq_some_iff.mp hfacts
                have hfiltered := (Table.lookup_filterRows _ w.db.sessions id).symm.trans hrow
                obtain ⟨hlookup, -⟩ := Option.filter_eq_some_iff.mp hfiltered
                exact h _ (by rw [endFacts, hlookup, Option.map_some])
            | _ => exact absurd rfl hwrites

end Over

/-! ## What the event loop has consumed -/

/-- The entries of the log are numbered from one on, below the next number. -/
structure EventLog.Numbered (log : EventLog) : Prop where
  positive : 0 < log.nextSeq
  seqs : ∀ entry ∈ log.events, 0 < entry.seq ∧ entry.seq < log.nextSeq

theorem EventLog.Numbered.append {log : EventLog} (h : log.Numbered) (event : RuntimeEvent) :
    (log.append event).Numbered := by
  rw [EventLog.append]
  split
  · exact h
  · refine ⟨Nat.succ_pos _, fun entry hmem => ?_⟩
    rcases List.mem_append.mp hmem with hold | hnew
    · exact ⟨(h.seqs entry hold).1, Nat.lt_succ_of_lt (h.seqs entry hold).2⟩
    · cases List.mem_singleton.mp hnew
      exact ⟨h.positive, Nat.lt_succ_self _⟩

/-- Every end that the log reports up to the cursor is among these events, or its session is
over. -/
structure Covers (w : World) (events : List RuntimeEvent) (cursor : EventCursor) : Prop where
  behind : cursor < w.log.nextSeq
  ends : ∀ entry ∈ w.log.events, entry.seq ≤ cursor → entry.event.isTerminal = true →
    entry.event ∈ events ∨ SessionOver w.db entry.event.sessionId

/-- The event loop has consumed the log up to the cursor. -/
abbrev Consumed (w : World) (cursor : Option EventCursor) : Prop := Covers w [] (cursor.getD 0)

/-- What the event loop stores, holds and has in hand is consumed. -/
structure Consumption (w : World) (minds : EndMinds) : Prop where
  numbered : w.log.Numbered
  stored : Consumed w w.db.eventCursor
  loop : ∀ cursor, w.loop = .busy cursor ∨ w.loop = .idle cursor → Consumed w cursor
  cursors : ∀ t origin φ ψ χ cursor, minds t = some (origin, (φ, ψ), χ) →
    φ.cursor = some cursor → Consumed w cursor
  pages : ∀ t origin φ ψ χ page, minds t = some (origin, (φ, ψ), χ) →
    φ.page = some page → Covers w page.events page.cursor

section Consumption

variable {w w' : World} {minds : EndMinds} {t : Nat} {origin : Origin} {φ : Knowledge}
  {ψ : Launching} {χ : Ending} {choice : Choice} {o : Op} {r : Except DaemonError o.Res}
  {id : SessionId}

theorem consumed_none (h : w.log.Numbered) : Consumed w none :=
  ⟨h.positive, fun entry hmem hseq _ => absurd (h.seqs entry hmem).1 (Nat.not_lt.mpr hseq)⟩

/-- A page of the log covers what is up to its cursor. -/
theorem covers_eventsSince (hnumbered : w.log.Numbered) {since : Option EventCursor}
    (h : Consumed w since) :
    Covers w (w.log.eventsSince since).events (w.log.eventsSince since).cursor where
  behind := by
    rw [EventLog.eventsSince]
    cases hlast : w.log.events.getLast? with
    | none => exact h.behind
    | some entry => exact (hnumbered.seqs entry (List.mem_of_getLast? hlast)).2
  ends entry hmem hseq hterminal := by
    by_cases hbefore : entry.seq ≤ since.getD 0
    · exact .inr ((h.ends entry hmem hbefore hterminal).resolve_left List.not_mem_nil)
    · left
      refine List.mem_map_of_mem (List.mem_filter.mpr ⟨hmem, decide_eq_true ?_⟩)
      exact Nat.lt_of_not_le hbefore

/-- Events that have been applied are consumed. -/
theorem Covers.consumed {events : List RuntimeEvent} {cursor : EventCursor}
    (h : Covers w events cursor)
    (hover : ∀ event ∈ events, event.isTerminal = true → SessionOver w.db event.sessionId) :
    Consumed w (some cursor) where
  behind := h.behind
  ends entry hmem hseq hterminal :=
    .inr ((h.ends entry hmem hseq hterminal).elim (fun hevent => hover _ hevent hterminal) id)

/-- A step that appends behind the cursor, and after which the sessions that were over still
are. -/
theorem Covers.step {events : List RuntimeEvent} {cursor : EventCursor} (h : Covers w events cursor)
    (hnext : w.log.nextSeq ≤ w'.log.nextSeq)
    (hentries : ∀ entry ∈ w'.log.events, entry ∈ w.log.events ∨ w.log.nextSeq ≤ entry.seq)
    (hkept : ∀ entry ∈ w.log.events, entry.event.isTerminal = true →
      SessionOver w.db entry.event.sessionId → SessionOver w'.db entry.event.sessionId) :
    Covers w' events cursor where
  behind := Nat.lt_of_lt_of_le h.behind hnext
  ends entry hmem hseq hterminal := by
    rcases hentries entry hmem with hold | hnew
    · exact (h.ends entry hold hseq hterminal).imp_right (hkept entry hold hterminal)
    · exact absurd (Nat.lt_of_le_of_lt hseq h.behind) (Nat.not_lt.mpr hnew)

/-! ### The cursors of the event loop -/

theorem loop_run {o : MemoryOp} {a : o.Res} (h : o.run choice w = some (a, w'))
    (hset : ∀ cursor, o ≠ .setLoop cursor) : w'.loop = w.loop := by
  cases o with
  | setLoop cursor => exact absurd rfl (hset cursor)
  | sendReady channel ready =>
      rw [MemoryOp.run] at h
      split at h <;> simp only [Choice.ran_eq_some, Prod.mk.injEq] at h <;> rw [← h.2.2]
  | startExitWatcher id pid =>
      rw [MemoryOp.run] at h
      split at h <;> simp only [Choice.ran_eq_some, Prod.mk.injEq] at h <;> rw [← h.2.2]
  | awaitReady channel =>
      obtain ⟨found, -, hfound⟩ := Option.map_eq_some_iff.mp h
      cases hfound
      rfl
  | loopCursor =>
      rw [MemoryOp.run] at h
      split at h
      · simp only [Choice.ran_eq_some, Prod.mk.injEq] at h
        rw [← h.2.2]
      · cases h
      · cases h
  | _ =>
      simp only [MemoryOp.run, Choice.ran_eq_some, Prod.mk.injEq] at h
      rw [← h.2.2]

/-- The loop is left with a cursor that its program holds. -/
theorem loop_exec (hallows : φ.allows o) (hexec : o.exec choice w = some (r, w')) :
    w'.loop = w.loop ∨ ∃ cursor, φ.cursor = some cursor ∧ w'.loop = .idle cursor := by
  cases o with
  | log o =>
      obtain ⟨log, -, rfl⟩ := Op.exec_log hexec
      exact .inl rfl
  | store o =>
      obtain ⟨db, -, rfl⟩ := Op.exec_store hexec
      exact .inl rfl
  | os o =>
      rw [OsOp.frame hexec]
      exact .inl rfl
  | memory o =>
      cases r with
      | error e =>
          rw [(MemoryOp.exec_error hexec).1]
          exact .inl rfl
      | ok a =>
          have hrun := MemoryOp.exec_ok hexec
          by_cases hset : ∃ cursor, o = .setLoop cursor
          · obtain ⟨cursor, rfl⟩ := hset
            simp only [MemoryOp.run, Choice.ran_eq_some, Prod.mk.injEq] at hrun
            exact .inr ⟨cursor, hallows, by rw [← hrun.2.2]⟩
          · exact .inl (loop_run hrun fun cursor ho => hset ⟨cursor, ho⟩)

/-- A batch that is applied. -/
def Op.Applies (o : Op) (r : Except DaemonError o.Res) : Prop :=
  r.isOk = true ∧ ∃ events cursor, o = .store (.applyRuntimeEventsAndCursor events cursor)

/-- Only a batch moves the stored cursor. -/
theorem eventCursor_exec (hother : ¬o.Applies r) (hexec : o.exec choice w = some (r, w')) :
    w'.db.eventCursor = w.db.eventCursor := by
  cases o with
  | log o =>
      obtain ⟨log, -, rfl⟩ := Op.exec_log hexec
      rfl
  | memory o => rw [MemoryOp.frame hexec]
  | os o => rw [OsOp.frame hexec]
  | store o =>
      obtain ⟨db, hrun, rfl⟩ := Op.exec_store hexec
      cases r with
      | error e => rw [StoreOp.exec_error hrun]
      | ok a =>
          have heffect := StoreOp.exec_ok hrun
          cases o with
          -- the one statement that writes the cursor, which is excluded
          | applyRuntimeEventsAndCursor events cursor =>
              exact absurd ⟨rfl, events, cursor, rfl⟩ hother
          | insertForking lc =>
              obtain ⟨-, -, rfl⟩ := Database.insertForking_eq_ok heffect
              rfl
          | updateLifecycle lc =>
              obtain ⟨-, rfl⟩ := Database.updateLifecycle_eq_ok heffect
              rfl
          | beginSpawnIntent intent =>
              obtain ⟨-, -, rfl⟩ := Database.beginSpawnIntent_eq_ok heffect
              rfl
          | commitSpawnIntent id session lc =>
              obtain ⟨now, hcommit⟩ := heffect
              obtain ⟨-, -, rfl⟩ := Database.commitSpawnIntent_eq_ok hcommit
              rfl
          | abortSpawnIntent id reason =>
              obtain ⟨now, rfl⟩ := heffect
              rfl
          | recordTranscriptPath id path =>
              obtain ⟨now, rfl⟩ := heffect
              rfl
          | markSessionTerminated id exitCode =>
              obtain ⟨now, rfl⟩ := heffect
              rfl
          | deleteSessionsByNamespace slug =>
              cases heffect
              rw [Database.frame_deleteSessionsByNamespace]
          | getLifecycle id => rw [heffect.1]
          | listLifecycles filter => rw [heffect.1]
          | runningLifecycles => rw [heffect.1]
          | runningTmuxOccupant address => rw [heffect.1]
          | listPendingSpawnIntents => rw [heffect.1]
          | eventCursor => rw [heffect.1]
          | _ =>
              cases heffect
              rfl

theorem Knowledge.Spends.loop {φ φ' : Knowledge} (h : φ.Spends φ') :
    φ'.cursor = φ.cursor ∧ φ'.page = φ.page := by
  rcases h with h | h <;> rw [h.duties] <;> exact ⟨rfl, rfl⟩

/-- A program takes its cursor from the store or from the loop. -/
theorem cursor_exec (hother : ¬o.Applies r) (hexec : o.exec choice w = some (r, w'))
    {cursor : Option EventCursor} (h : (φ.next o r).cursor = some cursor) :
    φ.cursor = some cursor ∨ cursor = w.db.eventCursor ∨ w.loop = .busy cursor := by
  cases o with
  | os o => exact .inl ((Knowledge.Spends.next_os φ o r).loop.1.symm.trans h)
  | log o => cases r <;> cases o <;> exact .inl h
  | store o =>
      cases r with
      | error e => cases o <;> exact .inl h
      | ok a =>
          cases o with
          -- a batch that was applied is excluded
          | applyRuntimeEventsAndCursor events cursor =>
              exact absurd ⟨rfl, events, cursor, rfl⟩ hother
          -- the cursor that the loop starts with is the stored one
          | eventCursor =>
              obtain ⟨db, hrun, rfl⟩ := Op.exec_store hexec
              cases h
              exact .inr (.inl (StoreOp.exec_ok hrun).2)
          | _ => exact .inl h
  | memory o =>
      cases r with
      | error e => exact .inl h
      | ok a =>
          cases o with
          | awaitReady channel => cases a <;> exact .inl h
          | setLoop cursor => cases h
          -- the cursor that a round starts with is the one the loop has put down
          | loopCursor =>
              cases h
              have hrun := MemoryOp.exec_ok hexec
              rw [MemoryOp.run] at hrun
              split at hrun
              · next hbusy =>
                  simp only [Choice.ran_eq_some, Prod.mk.injEq] at hrun
                  exact .inr (.inr (hrun.2.1 ▸ hbusy))
              · cases hrun
              · cases hrun
          | _ => exact .inl h

/-- A program takes its page from the log, behind its cursor. -/
theorem page_exec (hallows : φ.allows o) (hexec : o.exec choice w = some (r, w'))
    {page : EventLogPage} (h : (φ.next o r).page = some page) :
    φ.page = some page ∨ ∃ since, φ.cursor = some since ∧ page = w.log.eventsSince since := by
  cases o with
  | os o => exact .inl ((Knowledge.Spends.next_os φ o r).loop.2.symm.trans h)
  | store o => cases r <;> cases o <;> first | exact .inl h | cases h
  | memory o =>
      cases r with
      | error e => exact .inl h
      | ok a =>
          cases o with
          | awaitReady channel => cases a <;> exact .inl h
          | _ => exact .inl h
  | log o =>
      cases r with
      | error e => cases o <;> exact .inl h
      | ok a =>
          cases o with
          | appendEvent event => exact .inl h
          | pollEvents since =>
              cases h
              obtain ⟨log, hlog, rfl⟩ := Op.exec_log hexec
              have hpage := (Prod.mk.inj (Choice.ran_eq_some.mp hlog).2).1
              exact .inr ⟨since, hallows, (Except.ok.inj hpage).symm⟩

/-! ### One operation -/

theorem numbered_exec (h : w.log.Numbered) (hfails : choice.failsAppend = none)
    (hexec : o.exec choice w = some (r, w')) : w'.log.Numbered := by
  by_cases happends : ∃ event, o = .log (.appendEvent event)
  · obtain ⟨event, rfl⟩ := happends
    rw [append_of_exec hfails hexec]
    exact h.append event
  · rw [log_of_exec (fun event ho => happends ⟨event, ho⟩) hexec]
    exact h

/-- Events are appended behind those that are there. -/
theorem entries_exec (hfails : choice.failsAppend = none)
    (hexec : o.exec choice w = some (r, w')) :
    w.log.nextSeq ≤ w'.log.nextSeq ∧
      ∀ entry ∈ w'.log.events, entry ∈ w.log.events ∨ w.log.nextSeq ≤ entry.seq := by
  by_cases happends : ∃ event, o = .log (.appendEvent event)
  · obtain ⟨event, rfl⟩ := happends
    rw [append_of_exec hfails hexec]
    show w.log.nextSeq ≤ (w.log.append event).nextSeq ∧
      ∀ entry ∈ (w.log.append event).events, entry ∈ w.log.events ∨ w.log.nextSeq ≤ entry.seq
    rw [EventLog.append]
    split
    · exact ⟨Nat.le_refl _, fun entry hmem => .inl hmem⟩
    · refine ⟨Nat.le_succ _, fun entry hmem => ?_⟩
      rcases List.mem_append.mp hmem with hold | hnew
      · exact .inl hold
      · cases List.mem_singleton.mp hnew
        exact .inr (Nat.le_refl _)
  · rw [log_of_exec (fun event ho => happends ⟨event, ho⟩) hexec]
    exact ⟨Nat.le_refl _, fun entry hmem => .inl hmem⟩

theorem Consumption.op (hbase : TraceBase w minds) (hends : EndsTraced w minds)
    (h : Consumption w minds) (hmind : minds t = some (origin, (φ, ψ), χ))
    (hallows : traced.monitor.allows ((φ, ψ), χ) o) (hfails : choice.failsAppend = none)
    (hkeeps : keepsEnded w o = true) (hexec : o.exec choice w = some (r, w')) :
    Consumption w' (Function.update minds t
      (some (origin, (φ.next o r, ψ.next o r), χ.next o r))) := by
  -- an entry that was handled stays handled: its session has ended for good
  have hover : ∀ entry ∈ w.log.events, entry.event.isTerminal = true →
      SessionOver w.db entry.event.sessionId → SessionOver w'.db entry.event.sessionId := by
    intro entry hmem hterminal
    have hknown := hends.known _ (.inr (.inr ⟨entry, hmem, hterminal, rfl⟩))
    exact SessionOver.exec hbase.1.1.2 hmind hallows hkeeps hexec hknown
  obtain ⟨hnext, hentries⟩ := entries_exec hfails hexec
  have hstep : ∀ {events cursor}, Covers w events cursor → Covers w' events cursor :=
    fun hcovers => hcovers.step hnext hentries hover
  -- the stored cursor: a batch that is applied covers its own page
  have hstored : Consumed w' w'.db.eventCursor := by
    by_cases happlies : o.Applies r
    · obtain ⟨hok, events, cursor, rfl⟩ := happlies
      have hcovers := hstep (h.pages t origin φ ψ χ ⟨events, cursor⟩ hmind hallows.1.1)
      obtain ⟨db, hrun, rfl⟩ := Op.exec_store hexec
      cases r with
      | error e => cases hok
      | ok a =>
          obtain ⟨now, rfl⟩ := StoreOp.exec_ok hrun
          exact hcovers.consumed fun event hmem hterminal =>
            sessionOver_applied hmem hterminal w.db cursor now
    · rw [eventCursor_exec happlies hexec]
      exact hstep h.stored
  refine ⟨numbered_exec h.numbered hfails hexec, hstored, fun cursor hloop => ?_,
    fun t' origin' φ' ψ' χ' cursor hmind' hcursor => ?_,
    fun t' origin' φ' ψ' χ' page hmind' hpage => ?_⟩
  -- the cursor the loop holds between two rounds
  · rcases loop_exec hallows.1.1 hexec with hsame | ⟨held, hheld, hidle⟩
    · exact hstep (h.loop cursor (hsame ▸ hloop))
    · rw [hidle] at hloop
      rcases hloop with hloop | hloop <;> cases hloop
      exact hstep (h.cursors t origin φ ψ χ cursor hmind hheld)
  -- the cursor a task holds: put there by this step, or by an earlier one
  · rcases of_update hmind' with ⟨-, heq⟩ | ⟨-, hother⟩
    · cases heq
      by_cases happlies : o.Applies r
      · obtain ⟨hok, events, next, rfl⟩ := happlies
        obtain ⟨db, hrun, rfl⟩ := Op.exec_store hexec
        cases r with
        | error e => cases hok
        | ok a =>
            obtain ⟨now, rfl⟩ := StoreOp.exec_ok hrun
            cases hcursor
            exact hstored
      · rcases cursor_exec happlies hexec hcursor with hheld | rfl | hbusy
        · exact hstep (h.cursors t origin φ ψ χ cursor hmind hheld)
        · exact hstep h.stored
        · exact hstep (h.loop cursor (.inl hbusy))
    · exact hstep (h.cursors t' origin' φ' ψ' χ' cursor hother hcursor)
  -- the page a task holds: read in this step from where its cursor stands, or earlier
  · rcases of_update hmind' with ⟨-, heq⟩ | ⟨-, hother⟩
    · cases heq
      rcases page_exec hallows.1.1 hexec hpage with hheld | ⟨since, hsince, rfl⟩
      · exact hstep (h.pages t origin φ ψ χ page hmind hheld)
      · exact hstep (covers_eventsSince h.numbered (h.cursors t origin φ ψ χ since hmind hsince))
    · exact hstep (h.pages t' origin' φ' ψ' χ' page hother hpage)

end Consumption

/-- The start of a program takes the cursor of the loop along. -/
theorem loop_start {w w' : World} {origin : Origin} (h : w.start origin = some w')
    {cursor : Option EventCursor} (hloop : w'.loop = .busy cursor ∨ w'.loop = .idle cursor) :
    cursor = none ∨ w.loop = .busy cursor ∨ w.loop = .idle cursor := by
  cases origin with
  | startEventLoop =>
      rw [← (World.guarded_eq_some.mp h).2] at hloop
      rcases hloop with hloop | hloop <;> cases hloop
      exact .inl rfl
  | eventLoopRound =>
      rw [World.start] at h
      split at h
      · next hidle =>
          rw [← (World.guarded_eq_some.mp h).2] at hloop
          rcases hloop with hloop | hloop <;> cases hloop
          exact .inr (.inr hidle)
      · cases h
      · cases h
  | _ =>
      rw [← (World.guarded_eq_some.mp h).2] at hloop
      exact .inr hloop

/-! ## Runs -/

/-- What is behind a cursor of the event loop has been consumed, along every run in which no
lifecycle that has not ended is written over one that has. -/
theorem consumption : Pool.InvariantOver traced endsStand
    (fun w minds => TraceBase w minds ∧ EndsTraced w minds) Consumption where
  op := by
    rintro w minds t origin ⟨⟨φ, ψ⟩, χ⟩ choice o r w' hbase h hmind hallows hmeets hexec
    exact h.op hbase.1 hbase.2 hmind hallows hmeets.1 hmeets.2 hexec
  start := by
    intro w minds t origin w' _ h _ hstart _
    have hframe := World.start_frame hstart
    have hlog : w'.log = w.log := by rw [hframe]
    have hdb : w'.db = w.db := by rw [hframe]
    have hstep : ∀ {events cursor}, Covers w events cursor → Covers w' events cursor := by
      intro events cursor hcovers
      refine hcovers.step (hlog ▸ Nat.le_refl _) (fun entry hmem => .inl (hlog ▸ hmem)) ?_
      exact fun entry _ _ hover => hdb ▸ hover
    have hnumbered : w'.log.Numbered := hlog ▸ h.numbered
    refine ⟨hnumbered, hdb ▸ hstep h.stored, fun cursor hloop => ?_,
      fun t' origin' φ ψ χ cursor hmind hcursor => ?_,
      fun t' origin' φ ψ χ page hmind hpage => ?_⟩
    -- a loop that starts holds no cursor yet, and everything is ahead of none
    · rcases loop_start hstart hloop with rfl | hbefore
      · exact consumed_none hnumbered
      · exact hstep (h.loop cursor hbefore)
    · rcases of_update hmind with ⟨-, heq⟩ | ⟨-, hother⟩
      -- a task that starts has read neither a cursor nor a page
      · cases heq
        cases origin <;> cases hcursor
      · exact hstep (h.cursors t' origin' φ ψ χ cursor hother hcursor)
    · rcases of_update hmind with ⟨-, heq⟩ | ⟨-, hother⟩
      · cases heq
        cases origin <;> cases hpage
      · exact hstep (h.pages t' origin' φ ψ χ page hother hpage)
  -- the processes change nothing that is covered
  env := by
    intro w minds event w' _ h _ henv
    have hframe := World.env_frame henv
    have hstep : ∀ {events cursor}, Covers w events cursor →
        Covers { w with shims := w'.shims } events cursor := fun hcovers => ⟨hcovers.1, hcovers.2⟩
    rw [hframe]
    exact
      { numbered := h.numbered
        stored := hstep h.stored
        loop := fun cursor hloop => hstep (h.loop cursor hloop)
        cursors := fun t origin φ ψ χ cursor hmind hcursor =>
          hstep (h.cursors t origin φ ψ χ cursor hmind hcursor)
        pages := fun t origin φ ψ χ page hmind hpage =>
          hstep (h.pages t origin φ ψ χ page hmind hpage) }
  crash _ _ hmeets := hmeets.elim

end LittleOrgans.Concurrency
