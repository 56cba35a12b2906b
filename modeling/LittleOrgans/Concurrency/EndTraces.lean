import LittleOrgans.Concurrency.EndRecords
import LittleOrgans.Concurrency.EventKeys
import LittleOrgans.Concurrency.LaunchHolders
import LittleOrgans.Concurrency.LifecycleTerminality

/-!
# Traces of an end

An end that is recorded leaves its traces in a fixed order: in the row, in the set of
terminated events, in the event log. Between two of them its recorder stands, so that
whatever has ended is traced further (`EndsTraced`), as long as nothing writes a lifecycle that
has not ended over one that has (`endsStand`). The other way round, a session that has left
a trace has a known intent, and its row, if there is one, has ended.
-/

set_option autoImplicit false

namespace LittleOrgans.Concurrency

open LittleOrgans.Core
open LittleOrgans.Library
open LittleOrgans.Library.Pool
open LittleOrgans.Store
open LittleOrgans.Daemon
open LittleOrgans.Runtime (EventLogKey)

/-! ## The rows of a spawn -/

/-- A spawn that offers its launch finds the lifecycle of its intent, and a session that was
inserted keeps its lifecycle. -/
structure Prepared (w : World) (minds : LaunchMinds) : Prop where
  offered : ∀ t origin φ ψ id, minds t = some (origin, φ, ψ) → ψ.Offers id →
    intentStatus w.db id = some .pending → w.db.getLifecycle id ≠ none
  sessions : ∀ id row, w.db.sessions.lookup id = some row → w.db.getLifecycle id ≠ none

section Prepared

variable {w w' : World} {minds : LaunchMinds} {t : Nat} {origin : Origin} {φ : Knowledge}
  {ψ : Launching} {choice : Choice} {o : Op} {r : Except DaemonError o.Res} {id : SessionId}

/-- An intent that is pending was pending, or its lifecycle has just been inserted. -/
theorem pending_before (hexec : o.exec choice w = some (r, w'))
    (hpending : intentStatus w'.db id = some .pending) :
    intentStatus w.db id = some .pending ∨ w'.db.getLifecycle id ≠ none := by
  cases o with
  | log o =>
      obtain ⟨log, -, rfl⟩ := Op.exec_log hexec
      exact .inl hpending
  | memory o =>
      rw [MemoryOp.frame hexec] at hpending
      exact .inl hpending
  | os o =>
      rw [OsOp.frame hexec] at hpending
      exact .inl hpending
  | store o =>
      obtain ⟨db, hrun, rfl⟩ := Op.exec_store hexec
      cases r with
      | error e =>
          rw [StoreOp.exec_error hrun] at hpending
          exact .inl hpending
      | ok a =>
          have heffect := StoreOp.exec_ok hrun
          cases o with
          -- a spawn that begins writes its intent and its forking row together
          | beginSpawnIntent intent =>
              by_cases hid : id = intent.sessionId
              · right
                have hrow := Database.getLifecycle_beginSpawnIntent heffect id
                rw [if_pos hid] at hrow
                exact hrow ▸ Option.some_ne_none _
              · obtain ⟨-, -, rfl⟩ := Database.beginSpawnIntent_eq_ok heffect
                have hlookup := Table.lookup_insert_ne (t := w.db.spawnIntents) hid
                  (pendingIntentRow intent)
                exact .inl ((congrArg (Option.map SpawnIntentRow.status) hlookup).symm.trans
                  hpending)
          | commitSpawnIntent id' session lc =>
              obtain ⟨now, hcommit⟩ := heffect
              obtain ⟨-, -, rfl⟩ := Database.commitSpawnIntent_eq_ok hcommit
              -- a settled intent is not pending
              have hstatus := (intentStatus_setStatus w.db id' now .resolved id).symm.trans hpending
              split at hstatus
              · obtain ⟨-, -, hresolved⟩ := Option.map_eq_some_iff.mp hstatus
                cases hresolved
              · exact .inl hstatus
          | abortSpawnIntent id' reason =>
              obtain ⟨now, rfl⟩ := heffect
              have hstatus :=
                (intentStatus_setStatus w.db id' now (.aborted reason) id).symm.trans hpending
              split at hstatus
              · obtain ⟨-, -, haborted⟩ := Option.map_eq_some_iff.mp hstatus
                cases haborted
              · exact .inl hstatus
          -- no other statement writes an intent
          | _ =>
              rw [intentStatus, heffect.intents (fun _ h => by cases h) (fun _ _ _ h => by cases h)
                fun _ _ h => by cases h] at hpending
              exact .inl hpending

/-- A lifecycle is taken away from an intent that is pending: by the program that offers its
launch, or together with the intent. -/
theorem pending_of_deletes (hagreement : Agreement w (firstMinds minds))
    (hmind : minds t = some (origin, φ, ψ)) (hallows : followed.monitor.allows (φ, ψ) o)
    (hdeletes : o.deletes = some id) :
    intentStatus w.db id = some .pending ∧
      ((o = .store (.deleteLifecycle id) ∧ ψ.Offers id) ∨
        ∃ reason, o = .store (.abortSpawnIntent id reason)) := by
  have hduties := hagreement.duties t origin φ (firstMinds_eq_some hmind)
  cases o with
  | memory o => cases hdeletes
  | log o => cases hdeletes
  | os o => cases hdeletes
  | store o =>
      cases o with
      | deleteLifecycle id' =>
          cases hdeletes
          have hholds : φ.Holds id := hallows.1
          exact ⟨hholds.waits hduties, .inl ⟨rfl, hallows.2⟩⟩
      | abortSpawnIntent id' reason =>
          cases hdeletes
          have hholds : φ.Holds id := hallows.1
          exact ⟨hholds.waits hduties, .inr ⟨reason, rfl⟩⟩
      | _ => cases hdeletes

theorem Prepared.offered_op (hsettled : Settled w minds) (h : Prepared w minds)
    (hmind : minds t = some (origin, φ, ψ)) (hallows : followed.monitor.allows (φ, ψ) o)
    (hexec : o.exec choice w = some (r, w')) {t' : Nat} {origin' : Origin} {φ' : Knowledge}
    {ψ' : Launching}
    (hmind' : Function.update minds t (some (origin, φ.next o r, ψ.next o r)) t' =
      some (origin', φ', ψ'))
    (hoffers : ψ'.Offers id) (hpending : intentStatus w'.db id = some .pending) :
    w'.db.getLifecycle id ≠ none := by
  obtain ⟨⟨hstanding, hagreement⟩, hlaunches⟩ := hsettled
  rcases pending_before hexec hpending with hbefore | hinserted
  · have hrow : w.db.getLifecycle id ≠ none := by
      rcases of_update hmind' with ⟨-, heq⟩ | ⟨-, hother⟩
      · cases heq
        exact h.offered t origin φ ψ id hmind (Launching.fades_next.offers hoffers) hbefore
      · exact h.offered t' origin' φ' ψ' id hother hoffers hbefore
    cases Op.rowStep hexec id with
    | same hsame => exact hsame ▸ hrow
    | written lc _ _ _ hstored => exact hstored ▸ Option.some_ne_none _
    | deleted hdeletes _ =>
        obtain ⟨-, ⟨rfl, hmine⟩ | ⟨reason, rfl⟩⟩ :=
          pending_of_deletes hagreement hmind hallows hdeletes
        -- The only program that offers the launch gives it up by this deletion.
        · rcases of_update hmind' with ⟨-, heq⟩ | ⟨hne, hother⟩
          · cases heq
            cases hoffers.2
          · exact absurd (hlaunches.spawning_eq hstanding hother hoffers.1 hmind hmine.1) hne
        · obtain ⟨db, hrun, rfl⟩ := Op.exec_store hexec
          cases r with
          | error e => rwa [StoreOp.exec_error hrun]
          | ok a =>
              obtain ⟨now, rfl⟩ := StoreOp.exec_ok hrun
              have hstatus :=
                (intentStatus_setStatus w.db id now (.aborted reason) id).symm.trans hpending
              rw [if_pos rfl, hbefore] at hstatus
              cases hstatus
  · exact hinserted

theorem Prepared.sessions_op (hagreement : Agreement w (firstMinds minds)) (h : Prepared w minds)
    (hmind : minds t = some (origin, φ, ψ)) (hallows : followed.monitor.allows (φ, ψ) o)
    (hexec : o.exec choice w = some (r, w')) {row : SessionRow}
    (hrow : w'.db.sessions.lookup id = some row) : w'.db.getLifecycle id ≠ none := by
  -- A session that was there has its lifecycle, and its intent is no longer pending.
  have hkept : (∃ row, w.db.sessions.lookup id = some row) → w'.db.getLifecycle id ≠ none := by
    rintro ⟨row, hrow⟩
    cases Op.rowStep hexec id with
    | same hsame => exact hsame ▸ h.sessions id row hrow
    | written lc _ _ _ hstored => exact hstored ▸ Option.some_ne_none _
    | deleted hdeletes _ =>
        have hpending := (pending_of_deletes hagreement hmind hallows hdeletes).1
        rw [hagreement.tables.session id row hrow] at hpending
        cases hpending
  cases o with
  | log o =>
      obtain ⟨log, -, rfl⟩ := Op.exec_log hexec
      exact hkept ⟨row, hrow⟩
  | memory o =>
      rw [MemoryOp.frame hexec] at hrow
      exact hkept ⟨row, hrow⟩
  | os o =>
      rw [OsOp.frame hexec] at hrow
      exact hkept ⟨row, hrow⟩
  | store o =>
      obtain ⟨db, hrun, rfl⟩ := Op.exec_store hexec
      cases r with
      | error e =>
          rw [StoreOp.exec_error hrun] at hrow
          exact hkept ⟨row, hrow⟩
      | ok a =>
          have heffect := StoreOp.exec_ok hrun
          by_cases hcommits : ∃ id' session lc, o = .commitSpawnIntent id' session lc
          · obtain ⟨id', session, lc, rfl⟩ := hcommits
            obtain ⟨now, hcommit⟩ := heffect
            obtain ⟨rfl, hsame⟩ := hagreement.commit_id (firstMinds_eq_some hmind) hallows.1
            by_cases hmine : id = lc.sessionId
            · have hstored := Database.getLifecycle_commitSpawnIntent hcommit id
              rw [if_pos hmine] at hstored
              exact hstored ▸ Option.some_ne_none _
            · obtain ⟨-, -, rfl⟩ := Database.commitSpawnIntent_eq_ok hcommit
              have hother := Table.lookup_insert_ne (t := w.db.sessions) (hsame ▸ hmine)
                (sessionRow session)
              exact hkept ⟨row, hother.symm.trans hrow⟩
          · exact hkept (heffect.session_before
              (fun id' session lc ho => hcommits ⟨id', session, lc, ho⟩) id hrow)

theorem Prepared.of_db (h : Prepared w minds) (hdb : w'.db = w.db) : Prepared w' minds where
  offered t origin φ ψ id hmind hoffers hpending :=
    hdb ▸ h.offered t origin φ ψ id hmind hoffers (hdb ▸ hpending)
  sessions id row hrow := hdb ▸ h.sessions id row (hdb ▸ hrow)

end Prepared

/-- Along every run a spawn finds its lifecycle, and a session keeps its own. -/
theorem prepared : Pool.InvariantOver followed (.none followed) Settled Prepared where
  op := by
    rintro w minds t origin ⟨φ, ψ⟩ choice o r w' hsettled h hmind hallows - hexec
    refine ⟨fun t' origin' φ' ψ' id hmind' hoffers hpending => ?_, fun id row hrow => ?_⟩
    · exact h.offered_op hsettled hmind hallows hexec hmind' hoffers hpending
    · exact h.sessions_op hsettled.1.2 hmind hallows hexec hrow
  start := by
    intro w minds t origin w' hsettled h _ hstart _
    have hframe := World.start_frame hstart
    have hdb : w'.db = w.db := by rw [hframe]
    refine ⟨fun t' origin' φ ψ id hmind hoffers hpending => ?_, (h.of_db hdb).sessions⟩
    rcases of_update hmind with ⟨-, heq⟩ | ⟨-, hother⟩
    · cases heq
      -- A session that a spawn has just been asked for has no intent.
      rw [hdb] at hpending
      obtain ⟨row, hrow, -⟩ := Option.map_eq_some_iff.mp hpending
      have hused := (hsettled.1.2.tables.intent id row hrow).1
      cases origin with
      | spawn call =>
          cases hoffers.1
          exact absurd hused (World.start_spawn hstart).2.1
      | _ => cases hoffers.1
    · exact (h.of_db hdb).offered t' origin' φ ψ id hother hoffers hpending
  env := by
    intro w minds event w' _ h _ henv
    have hframe := World.env_frame henv
    exact h.of_db (by rw [hframe])
  crash _ h _ := ⟨fun _ _ _ _ _ hmind => (by cases hmind), h.sessions⟩

/-! ## Traces -/

/-- The programs of the daemon, followed by all three monitors. -/
abbrev traced : Watch daemon := followed.both endWatch

/-- What each thread was started for, and where its monitors are. -/
abbrev EndMinds := Nat → Option (Origin × ((Knowledge × Launching) × Ending))

/-- The log has an event that reports the end of the session. -/
def EventLog.Reports (log : EventLog) (id : SessionId) : Prop :=
  ∃ entry ∈ log.events, entry.event.isTerminal = true ∧ entry.event.sessionId = id

/-- A program records the end of the session. -/
def Ending.Records (χ : Ending) (id : SessionId) : Prop := χ = .stored id ∨ χ = .entered id

/-- The end of the session has left a trace outside its row. -/
def Traced (w : World) (minds : EndMinds) (id : SessionId) : Prop :=
  id ∈ w.runtime.terminatedEvents ∨ Somewhere minds (fun χ => χ.2.Records id) ∨ w.log.Reports id

/-- The session has an intent, and its row, if there is one, has ended. -/
structure EndKnown (db : Database) (id : SessionId) : Prop where
  intent : intentStatus db id ≠ none
  row : ∀ lc, db.getLifecycle id = some lc → lc.state.isTerminal = true

/-- Where an end has left one trace, it has left the next, or a program is about to leave it. -/
structure EndsTraced (w : World) (minds : EndMinds) : Prop where
  entered : ∀ id lc, w.db.getLifecycle id = some lc → lc.state.isTerminal = true →
    id ∈ w.runtime.terminatedEvents ∨ Somewhere minds fun χ => χ.2 = .stored id
  appended : ∀ id ∈ w.runtime.terminatedEvents,
    w.log.Reports id ∨ Somewhere minds fun χ => χ.2 = .entered id
  keys : ∀ key ∈ w.log.seenEventKeys, key ∈ w.log.eventKeys
  known : ∀ id, Traced w minds id → EndKnown w.db id

/-! ## The condition -/

/-- A lifecycle that an operation writes over one that has ended has ended. -/
def keepsEnded (w : World) (o : Op) : Bool :=
  (writtenLifecycle o).all fun lc => !endIsStored w.db lc.sessionId || lc.state.isTerminal

/-- No lifecycle that has not ended is written over one that has, no append to the event log
fails, and the daemon does not crash. -/
def endsStand : Condition traced where
  op _ choice o w := choice.failsAppend = none ∧ keepsEnded w o = true
  crash _ := False

instance : endsStand.Checkable where
  op _ choice o w :=
    inferInstanceAs (Decidable (choice.failsAppend = none ∧ keepsEnded w o = true))
  start _ _ := .isTrue trivial
  env _ _ := .isTrue trivial
  crash _ := .isFalse id

section Traces

variable {w w' : World} {minds : EndMinds} {t : Nat} {origin : Origin} {φ : Knowledge}
  {ψ : Launching} {χ : Ending} {choice : Choice} {o : Op} {r : Except DaemonError o.Res}
  {id : SessionId}

/-! ### What an operation does to the traces -/

theorem Ending.stored_next (hallows : Ending.allows (.stored id) o) :
    Ending.next (.stored id) o r = .stored id ∨ o = .memory (.insertTerminatedEvent id) := by
  cases o with
  | os o => exact .inl rfl
  | log o =>
      cases o with
      | pollEvents since => exact .inl rfl
      | appendEvent event =>
          rw [Ending.allows] at hallows
          split at hallows <;> cases hallows
  | store o =>
      cases o with
      | updateLifecycle lc => cases hallows
      | _ => exact .inl rfl
  | memory o =>
      cases o with
      | insertTerminatedEvent id' =>
          cases hallows
          exact .inr rfl
      | _ => exact .inl rfl

theorem Ending.entered_next (hallows : Ending.allows (.entered id) o) :
    Ending.next (.entered id) o r = .entered id ∨ ∃ event, o = .log (.appendEvent event) ∧
      event.isTerminal = true ∧ event.sessionId = id := by
  cases o with
  | os o => exact .inl rfl
  | log o =>
      cases o with
      | pollEvents since => exact .inl rfl
      | appendEvent event =>
          rw [Ending.allows] at hallows
          split at hallows
          · next hterminal =>
              cases hallows
              exact .inr ⟨event, rfl, hterminal, rfl⟩
          · cases hallows
  | store o =>
      cases o with
      | updateLifecycle lc => cases hallows
      | _ => exact .inl rfl
  | memory o =>
      cases o with
      | insertTerminatedEvent id' => cases hallows
      | _ => exact .inl rfl

/-- An end begins to be recorded when it is stored. -/
theorem Ending.records_of_next (hallows : χ.allows o) (h : (χ.next o r).Records id) :
    χ.Records id ∨ ∃ lc, o = .store (.updateLifecycle lc) ∧ r.isOk = true ∧
      lc.state.isTerminal = true ∧ lc.sessionId = id := by
  cases o with
  | os o => exact .inl h
  | log o =>
      cases o with
      | pollEvents since => exact .inl h
      | appendEvent event => rcases h with h | h <;> cases h
  | store o =>
      cases o with
      -- the one write that may end a row
      | updateLifecycle lc =>
          cases r with
          | error e => exact .inl h
          | ok _ =>
              by_cases hterminal : lc.state.isTerminal = true
              · rw [Ending.next, if_pos hterminal] at h
                rcases h with h | h <;> cases h
                exact .inr ⟨lc, rfl, rfl, hterminal, rfl⟩
              · rw [Ending.next, if_neg hterminal] at h
                exact .inl h
      | _ => exact .inl h
  | memory o =>
      cases o with
      -- what this task has recorded, it keeps while it enters the key
      | insertTerminatedEvent id' =>
          cases hallows
          cases r with
          | error e => exact .inl h
          | ok first =>
              cases first with
              | false => rcases h with h | h <;> cases h
              | true =>
                  rcases h with h | h <;> cases h
                  exact .inl (.inl rfl)
      | _ => exact .inl h

/-- An append that does not fail. -/
theorem append_of_exec {event : RuntimeEvent} {r : Except DaemonError RuntimeEvent}
    (hfails : choice.failsAppend = none)
    (hexec : Op.exec choice w (.log (.appendEvent event)) = some (r, w')) :
    w' = { w with log := w.log.append event } := by
  obtain ⟨log, hlog, rfl⟩ := Op.exec_log hexec
  rcases LogOp.exec_appendEvent hlog with ⟨stage, e, rfl, -⟩ | ⟨-, rfl⟩
  · cases hfails
  · rfl

/-- The other operations leave the log. -/
theorem log_of_exec (happend : ∀ event, o ≠ .log (.appendEvent event))
    (hexec : o.exec choice w = some (r, w')) : w'.log = w.log := by
  cases o with
  | store o =>
      obtain ⟨db, -, rfl⟩ := Op.exec_store hexec
      rfl
  | memory o => rw [MemoryOp.frame hexec]
  | os o => rw [OsOp.frame hexec]
  | log o =>
      cases o with
      | appendEvent event => exact absurd rfl (happend event)
      | pollEvents since =>
          obtain ⟨log, hlog, rfl⟩ := Op.exec_log hexec
          exact (Prod.mk.inj (Choice.ran_eq_some.mp hlog).2).2.symm

theorem reports_append {log : EventLog} (event : RuntimeEvent) (h : log.Reports id) :
    (log.append event).Reports id := by
  obtain ⟨entry, hmem, hentry⟩ := h
  rw [EventLog.append]
  split
  · exact ⟨entry, hmem, hentry⟩
  · exact ⟨entry, List.mem_append_left _ hmem, hentry⟩

/-- Events of one key say the same of one session. -/
theorem isTerminal_of_key {event event' : RuntimeEvent}
    (h : EventLogKey.fromEvent event' = .fromEvent event) :
    event'.isTerminal = event.isTerminal ∧ event'.sessionId = event.sessionId := by
  refine ⟨?_, by rw [← sessionId_fromEvent, h, sessionId_fromEvent]⟩
  cases event <;> cases event' <;> cases h <;> rfl

/-- An event that is appended is in the log, or one of its key was. -/
theorem reports_appended {log : EventLog} {event : RuntimeEvent}
    (hkeys : ∀ key ∈ log.seenEventKeys, key ∈ log.eventKeys) (hterminal : event.isTerminal = true) :
    (log.append event).Reports event.sessionId := by
  rw [EventLog.append]
  split
  · next hseen =>
      obtain ⟨entry, hmem, hkey⟩ := List.mem_map.mp (hkeys _ hseen)
      obtain ⟨hsame, hid⟩ := isTerminal_of_key hkey
      exact ⟨entry, hmem, hsame.trans hterminal, hid⟩
  · exact ⟨_, List.mem_append_right _ (List.mem_singleton_self _), hterminal, rfl⟩

theorem reports_before {log : EventLog} {event : RuntimeEvent}
    (h : (log.append event).Reports id) :
    log.Reports id ∨ (event.isTerminal = true ∧ event.sessionId = id) := by
  obtain ⟨entry, hmem, hterminal, hid⟩ := h
  rw [EventLog.append] at hmem
  split at hmem
  · exact .inl ⟨entry, hmem, hterminal, hid⟩
  · rcases List.mem_append.mp hmem with hold | hnew
    · exact .inl ⟨entry, hold, hterminal, hid⟩
    · cases List.mem_singleton.mp hnew
      exact .inr ⟨hterminal, hid⟩

theorem keys_append {log : EventLog} (event : RuntimeEvent)
    (hkeys : ∀ key ∈ log.seenEventKeys, key ∈ log.eventKeys) :
    ∀ key ∈ (log.append event).seenEventKeys, key ∈ (log.append event).eventKeys := by
  intro key hkey
  rw [EventLog.append] at hkey ⊢
  split
  · next hseen =>
      rw [if_pos hseen] at hkey
      exact hkeys key hkey
  · next hnew =>
      rw [if_neg hnew] at hkey
      rw [EventLog.eventKeys, List.map_append]
      rcases List.mem_cons.mp hkey with rfl | hold
      · exact List.mem_append_right _ (List.mem_singleton_self _)
      · exact List.mem_append_left _ (hkeys key hold)

/-- A session that is entered was entered before, or is entered now. -/
theorem terminatedEvents_iff (hexec : o.exec choice w = some (r, w')) :
    id ∈ w'.runtime.terminatedEvents ↔
      id ∈ w.runtime.terminatedEvents ∨ o = .memory (.insertTerminatedEvent id) := by
  have hother : (∀ id, o ≠ .memory (.insertTerminatedEvent id)) →
      w'.runtime.terminatedEvents = w.runtime.terminatedEvents := by
    intro hother
    cases o with
    | store o =>
        obtain ⟨db, -, rfl⟩ := Op.exec_store hexec
        rfl
    | log o =>
        obtain ⟨log, -, rfl⟩ := Op.exec_log hexec
        rfl
    | os o => rw [OsOp.frame hexec]
    | memory o => exact terminatedEvents_exec hexec fun id ho => hother id (congrArg _ ho)
  by_cases henters : ∃ id', o = .memory (.insertTerminatedEvent id')
  · obtain ⟨id', rfl⟩ := henters
    cases r with
    | error e =>
        obtain ⟨-, _, _, ho⟩ := MemoryOp.exec_error hexec
        cases ho
    | ok first =>
        have hrun := MemoryOp.exec_ok hexec
        simp only [MemoryOp.run, Choice.ran_eq_some, Prod.mk.injEq] at hrun
        obtain ⟨-, -, rfl⟩ := hrun
        refine (mem_enter (w := w)).trans (or_comm.trans (or_congr_right ?_))
        exact ⟨fun hid => hid ▸ rfl, fun ho => by cases ho; rfl⟩
  · rw [hother fun id' ho => henters ⟨id', ho⟩]
    exact ⟨.inl, fun h => h.resolve_right fun ho => henters ⟨id, ho⟩⟩

/-- A trace that is there was there, or an end is stored now. -/
theorem traced_before (hmind : minds t = some (origin, (φ, ψ), χ)) (hallows : χ.allows o)
    (hfails : choice.failsAppend = none) (hexec : o.exec choice w = some (r, w'))
    (h : Traced w' (Function.update minds t
      (some (origin, (φ.next o r, ψ.next o r), χ.next o r))) id) :
    Traced w minds id ∨ ∃ lc, o = .store (.updateLifecycle lc) ∧ r.isOk = true ∧
      lc.state.isTerminal = true ∧ lc.sessionId = id := by
  have hmine : χ.Records id → Traced w minds id :=
    fun hrecords => .inr (.inl ⟨t, origin, _, hmind, hrecords⟩)
  rcases h with hentered | hrecords | hreports
  · rcases (terminatedEvents_iff hexec).mp hentered with hbefore | rfl
    · exact .inl (.inl hbefore)
    · exact .inl (hmine (.inl hallows))
  · rcases hrecords.of_update with hnext | hbefore
    · exact (Ending.records_of_next hallows hnext).imp_left hmine
    · exact .inl (.inr (.inl hbefore))
  · by_cases happends : ∃ event, o = .log (.appendEvent event)
    · obtain ⟨event, rfl⟩ := happends
      rw [append_of_exec hfails hexec] at hreports
      rcases reports_before hreports with hbefore | ⟨hterminal, rfl⟩
      · exact .inl (.inr (.inr hbefore))
      · rw [Ending.allows, if_pos hterminal] at hallows
        exact .inl (hmine (.inr hallows))
    · rw [log_of_exec (fun event ho => happends ⟨event, ho⟩) hexec] at hreports
      exact .inl (.inr (.inr hreports))

/-! ### What an operation does to the rows -/

/-- An intent that is known stays known. -/
theorem intentStatus_exec (hexec : o.exec choice w = some (r, w'))
    (hknown : intentStatus w.db id ≠ none) : intentStatus w'.db id ≠ none := by
  -- a settled intent stays known
  have hset : ∀ {id' : SessionId} {status : SpawnIntentStatus},
      (if id = id' then (intentStatus w.db id').map fun _ => status else intentStatus w.db id) ≠
        none := by
    intro id' status
    split
    · next hid =>
        rw [← hid]
        exact fun hnone => hknown (Option.map_eq_none_iff.mp hnone)
    · exact hknown
  cases o with
  | log o =>
      obtain ⟨log, -, rfl⟩ := Op.exec_log hexec
      exact hknown
  | memory o =>
      rw [MemoryOp.frame hexec]
      exact hknown
  | os o =>
      rw [OsOp.frame hexec]
      exact hknown
  | store o =>
      obtain ⟨db, hrun, rfl⟩ := Op.exec_store hexec
      cases r with
      | error e =>
          rw [StoreOp.exec_error hrun]
          exact hknown
      | ok a =>
          have heffect := StoreOp.exec_ok hrun
          cases o with
          | beginSpawnIntent intent =>
              -- an intent that begins was not there, so it is another one
              obtain ⟨hnew, -, rfl⟩ := Database.beginSpawnIntent_eq_ok heffect
              have hne : id ≠ intent.sessionId := by
                rintro rfl
                exact hknown (by rw [intentStatus, hnew, Option.map_none])
              have hlookup := Table.lookup_insert_ne (t := w.db.spawnIntents) hne
                (pendingIntentRow intent)
              exact (congrArg (Option.map SpawnIntentRow.status) hlookup).trans_ne hknown
          | commitSpawnIntent id' session lc =>
              obtain ⟨now, hcommit⟩ := heffect
              obtain ⟨-, -, rfl⟩ := Database.commitSpawnIntent_eq_ok hcommit
              exact (intentStatus_setStatus w.db id' now .resolved id).trans_ne hset
          | abortSpawnIntent id' reason =>
              obtain ⟨now, rfl⟩ := heffect
              exact (intentStatus_setStatus w.db id' now (.aborted reason) id).trans_ne hset
          -- no other statement writes an intent
          | _ =>
              rw [intentStatus, heffect.intents (fun _ h => by cases h) (fun _ _ _ h => by cases h)
                fun _ _ h => by cases h]
              exact hknown

theorem ended_of_keepsEnded {lc old : Lifecycle} (hkeeps : keepsEnded w o = true)
    (hwritten : writtenLifecycle o = some lc) (hold : w.db.getLifecycle lc.sessionId = some old)
    (hended : old.state.isTerminal = true) : lc.state.isTerminal = true := by
  rw [keepsEnded, hwritten, Option.all_some, endIsStored, storedState, hold, Option.map_some,
    Option.any_some, hended] at hkeeps
  exact hkeeps

/-- A row that has ended, and that an operation writes again, is written as ended. -/
theorem ended_of_writes (hsettled : Settled w (firstMinds minds))
    (hprepared : Prepared w (firstMinds minds))
    (hmind : minds t = some (origin, (φ, ψ), χ))
    (hallows : traced.monitor.allows ((φ, ψ), χ) o) (hkeeps : keepsEnded w o = true)
    (hexec : o.exec choice w = some (r, w')) {lc : Lifecycle} (hok : r.isOk = true)
    (hwrites : o.writes = some lc) (hknown : EndKnown w.db lc.sessionId) :
    lc.state.isTerminal = true := by
  cases o with
  | log o => cases hwrites
  | memory o => cases hwrites
  | os o => cases hwrites
  | store o =>
      obtain ⟨db, hrun, rfl⟩ := Op.exec_store hexec
      cases r with
      | error e => cases hok
      | ok a =>
          have heffect := StoreOp.exec_ok hrun
          cases o with
          | insertForking lc' =>
              cases hwrites
              obtain ⟨intent, hheld, hlc⟩ := hallows.1.1
              have hduties := hsettled.1.2.duties t origin φ
                (firstMinds_eq_some (firstMinds_eq_some hmind))
              have hpending : intentStatus w.db lc.sessionId = some .pending := by
                rw [hlc]
                exact (hduties.held intent hheld).status
              -- The spawn that inserts its lifecycle would have found it.
              exact absurd (Database.insertForking_eq_ok heffect).2.1
                (hprepared.offered t origin φ ψ _ (firstMinds_eq_some hmind) hallows.1.2 hpending)
          | beginSpawnIntent intent =>
              cases hwrites
              refine absurd ?_ hknown.intent
              obtain ⟨hnew, -, -⟩ := Database.beginSpawnIntent_eq_ok heffect
              exact congrArg (Option.map SpawnIntentRow.status) hnew
          | updateLifecycle lc' =>
              cases hwrites
              obtain ⟨⟨old, hold⟩, -⟩ := Database.updateLifecycle_eq_ok heffect
              exact ended_of_keepsEnded hkeeps rfl hold (hknown.row old hold)
          | commitSpawnIntent id' session lc' =>
              cases hwrites
              obtain ⟨now, hcommit⟩ := heffect
              obtain ⟨-, ⟨old, hold⟩, -⟩ := Database.commitSpawnIntent_eq_ok hcommit
              exact ended_of_keepsEnded hkeeps rfl hold (hknown.row old hold)
          | _ => cases hwrites

theorem EndKnown.exec (hsettled : Settled w (firstMinds minds))
    (hprepared : Prepared w (firstMinds minds)) (hmind : minds t = some (origin, (φ, ψ), χ))
    (hallows : traced.monitor.allows ((φ, ψ), χ) o) (hkeeps : keepsEnded w o = true)
    (hexec : o.exec choice w = some (r, w')) (hknown : EndKnown w.db id) :
    EndKnown w'.db id where
  intent := intentStatus_exec hexec hknown.intent
  row lc hrow := by
    cases Op.rowStep hexec id with
    | same hsame => exact hknown.row lc (hsame.symm.trans hrow)
    | written written hok hwrites hid hstored =>
        subst hid
        have hended :=
          ended_of_writes hsettled hprepared hmind hallows hkeeps hexec hok hwrites hknown
        rw [hstored] at hrow
        cases hrow
        exact hended
    | deleted _ hgone =>
        rw [hgone] at hrow
        cases hrow

/-- The session of an end that is stored now. -/
theorem endKnown_stored (hagreement : Agreement w (firstMinds (firstMinds minds)))
    {lc : Lifecycle} {r : Except DaemonError Unit} (hterminal : lc.state.isTerminal = true)
    (hexec : Op.exec choice w (.store (.updateLifecycle lc)) = some (r, w')) (hok : r.isOk = true) :
    EndKnown w'.db lc.sessionId := by
  obtain ⟨db, hrun, rfl⟩ := Op.exec_store hexec
  cases r with
  | error e => cases hok
  | ok a =>
      have heffect : w.db.updateLifecycle lc = .ok db := StoreOp.exec_ok hrun
      obtain ⟨⟨old, hold⟩, -⟩ := Database.updateLifecycle_eq_ok heffect
      obtain ⟨row, hlookup, -⟩ := Option.map_eq_some_iff.mp hold
      obtain ⟨status, hstatus⟩ := hagreement.tables.lifecycle _ row hlookup
      refine ⟨intentStatus_exec hexec (hstatus ▸ Option.some_ne_none _), fun lc' hrow => ?_⟩
      rw [Database.getLifecycle_update heffect, if_pos rfl] at hrow
      cases hrow
      exact hterminal

/-! ### One operation -/

theorem EndsTraced.entered_op (h : EndsTraced w minds) (hmind : minds t = some (origin, (φ, ψ), χ))
    (hallows : χ.allows o) (hexec : o.exec choice w = some (r, w')) {lc : Lifecycle}
    (hrow : w'.db.getLifecycle id = some lc) (hterminal : lc.state.isTerminal = true) :
    id ∈ w'.runtime.terminatedEvents ∨
      Somewhere (Function.update minds t (some (origin, (φ.next o r, ψ.next o r), χ.next o r)))
        fun χ => χ.2 = .stored id := by
  cases Op.rowStep hexec id with
  -- the row had ended before this step: its key is entered, or a task still holds the end
  | same hsame =>
      rcases h.entered id lc (hsame.symm.trans hrow) hterminal with hentered | hstored
      · exact .inl ((terminatedEvents_iff hexec).mpr (.inl hentered))
      · by_cases henters : o = .memory (.insertTerminatedEvent id)
        · exact .inl ((terminatedEvents_iff hexec).mpr (.inr henters))
        · refine .inr (hstored.next hmind fun hχ => ?_)
          have hχ : χ = .stored id := hχ
          subst hχ
          exact (Ending.stored_next hallows).resolve_right henters
  -- a row that is gone has not ended
  | deleted _ hgone =>
      rw [hgone] at hrow
      cases hrow
  | written written hok hwrites hid hstored =>
      subst hid
      rw [hstored] at hrow
      cases hrow
      have hended : written.state.isTerminal = true := hterminal
      cases o with
      | log o => cases hwrites
      | memory o => cases hwrites
      | os o => cases hwrites
      | store o =>
          obtain ⟨db, hrun, rfl⟩ := Op.exec_store hexec
          cases r with
          | error e => cases hok
          | ok a =>
              -- the row ended in this step: only `update_lifecycle` writes an end
              cases o with
              | updateLifecycle lc =>
                  cases hwrites
                  refine .inr (somewhere_self ?_)
                  exact if_pos hended
              -- the row of a commit is alive
              | commitSpawnIntent id' session lc =>
                  cases hwrites
                  have halive : written.state.isTerminal = false := hallows
                  rw [halive] at hended
                  cases hended
              -- the row of an insert is forking
              | insertForking lc =>
                  cases hwrites
                  rw [(Database.insertForking_eq_ok (StoreOp.exec_ok hrun)).1] at hended
                  cases hended
              | beginSpawnIntent intent =>
                  cases hwrites
                  cases hended
              | _ => cases hwrites

theorem EndsTraced.appended_op (h : EndsTraced w minds)
    (hmind : minds t = some (origin, (φ, ψ), χ)) (hallows : χ.allows o)
    (hfails : choice.failsAppend = none) (hexec : o.exec choice w = some (r, w'))
    (hentered : id ∈ w'.runtime.terminatedEvents) :
    w'.log.Reports id ∨
      Somewhere (Function.update minds t (some (origin, (φ.next o r, ψ.next o r), χ.next o r)))
        fun χ => χ.2 = .entered id := by
  by_cases hbefore : id ∈ w.runtime.terminatedEvents
  · by_cases happends : ∃ event, o = .log (.appendEvent event)
    · obtain ⟨event, rfl⟩ := happends
      rw [append_of_exec hfails hexec]
      rcases h.appended id hbefore with hreports | hsomewhere
      · exact .inl (reports_append event hreports)
      · by_cases hmine : event.isTerminal = true ∧ event.sessionId = id
        · exact .inl (hmine.2 ▸ reports_appended h.keys hmine.1)
        · refine .inr (hsomewhere.next hmind fun hχ => ?_)
          have hχ : χ = .entered id := hχ
          subst hχ
          refine (Ending.entered_next (r := r) hallows).resolve_right ?_
          rintro ⟨event', heq, hevent⟩
          cases heq
          exact hmine hevent
    · rw [log_of_exec (fun event ho => happends ⟨event, ho⟩) hexec]
      refine (h.appended id hbefore).imp_right fun hsomewhere => ?_
      refine hsomewhere.next hmind fun hχ => ?_
      have hχ : χ = .entered id := hχ
      subst hχ
      refine (Ending.entered_next (r := r) hallows).resolve_right ?_
      rintro ⟨event, ho, -⟩
      exact happends ⟨event, ho⟩
  -- The session is entered now, for the first time.
  · cases ((terminatedEvents_iff hexec).mp hentered).resolve_left hbefore
    right
    refine somewhere_self ?_
    cases r with
    | error e =>
        obtain ⟨-, _, _, ho⟩ := MemoryOp.exec_error hexec
        cases ho
    | ok first =>
        have hrun := MemoryOp.exec_ok hexec
        simp only [MemoryOp.run, Choice.ran_eq_some, Prod.mk.injEq] at hrun
        exact if_pos (hrun.2.1.symm.trans (decide_eq_true hbefore))

theorem EndsTraced.keys_op (h : EndsTraced w minds) (hfails : choice.failsAppend = none)
    (hexec : o.exec choice w = some (r, w')) :
    ∀ key ∈ w'.log.seenEventKeys, key ∈ w'.log.eventKeys := by
  by_cases happends : ∃ event, o = .log (.appendEvent event)
  · obtain ⟨event, rfl⟩ := happends
    rw [append_of_exec hfails hexec]
    exact keys_append event h.keys
  · rw [log_of_exec (fun event ho => happends ⟨event, ho⟩) hexec]
    exact h.keys

theorem EndsTraced.op (hsettled : Settled w (firstMinds minds))
    (hprepared : Prepared w (firstMinds minds)) (h : EndsTraced w minds)
    (hmind : minds t = some (origin, (φ, ψ), χ))
    (hallows : traced.monitor.allows ((φ, ψ), χ) o) (hfails : choice.failsAppend = none)
    (hkeeps : keepsEnded w o = true) (hexec : o.exec choice w = some (r, w')) :
    EndsTraced w' (Function.update minds t
      (some (origin, (φ.next o r, ψ.next o r), χ.next o r))) where
  entered id lc hrow hterminal := h.entered_op hmind hallows.2 hexec hrow hterminal
  appended id hentered := h.appended_op hmind hallows.2 hfails hexec hentered
  keys := h.keys_op hfails hexec
  known id htraced := by
    rcases traced_before hmind hallows.2 hfails hexec htraced with hbefore | ⟨lc, rfl, hok, hend⟩
    · exact (h.known id hbefore).exec hsettled hprepared hmind hallows hkeeps hexec
    · obtain ⟨hterminal, rfl⟩ := hend
      exact endKnown_stored hsettled.1.2 hterminal hexec hok

end Traces

/-! ## Runs -/

/-- What the traces rest on. -/
abbrev TraceBase (w : World) (minds : EndMinds) : Prop :=
  Settled w (firstMinds minds) ∧ Prepared w (firstMinds minds)

theorem traceBase : Pool.Invariant traced endsStand TraceBase :=
  (settled.and prepared).both Condition.refines_none

/-- Every end is traced, along every run in which no lifecycle that has not ended is written over
one that has. -/
theorem endsTraced : Pool.InvariantOver traced endsStand TraceBase EndsTraced where
  op := by
    rintro w minds t origin ⟨⟨φ, ψ⟩, χ⟩ choice o r w' hbase h hmind hallows hmeets hexec
    exact h.op hbase.1 hbase.2 hmind hallows hmeets.1 hmeets.2 hexec
  start := by
    intro w minds t origin w' _ h _ hstart hfree
    have hframe := World.start_frame hstart
    have hdb : w'.db = w.db := by rw [hframe]
    have hlog : w'.log = w.log := by rw [hframe]
    have hentered : w'.runtime.terminatedEvents = w.runtime.terminatedEvents := by rw [hframe]
    refine ⟨fun id lc hrow hterminal => ?_, fun id hid => ?_, hlog ▸ h.keys, fun id hid => ?_⟩
    · rw [hdb] at hrow
      rw [hentered]
      exact (h.entered id lc hrow hterminal).imp_right fun hstored => hstored.start hfree
    · rw [hentered] at hid
      rw [hlog]
      exact (h.appended id hid).imp_right fun hsomewhere => hsomewhere.start hfree
    · rw [Traced, hentered, hlog] at hid
      rw [hdb]
      refine h.known id (hid.imp_right (Or.imp_left fun hrecords => ?_))
      refine hrecords.of_update.resolve_left fun hfirst => ?_
      rcases hfirst with hfirst | hfirst <;> cases hfirst
  env := by
    intro w minds event w' _ h _ henv
    have hframe := World.env_frame henv
    rw [hframe]
    exact ⟨h.entered, h.appended, h.keys, h.known⟩
  crash _ _ hmeets := hmeets.elim

end LittleOrgans.Concurrency
