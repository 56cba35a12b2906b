import LittleOrgans.Concurrency.ShimExchange
import LittleOrgans.Concurrency.TerminalRecorders

/-!
# Shims that send again

A further copy of a message runs the same program as the first one. `wellTimed` is the
schedule of the copies: the launch spec and the ready waiter are taken when a copy looks
for them, the row is not forking any more when a copy of a ready report reads it, a copy
that has read a row alive writes its end only once it is on record, and a copy of a ready
report is acknowledged after the first one. The programs do the rest (`echoes_program`): a
launch request without a spec fails, a ready report over a running row starts a watcher and
no more, `mark_exited` and `mark_lost` refuse a row that has ended, and a session that is
entered already is not reported again.

`resends_harmless` says that a well-timed run ends in the same rows, events and outcomes as
the run without copies. A copy of a ready report that comes before the spawn has recorded
its running row is not: it makes the spawn fail (`resend_fails_spawn`).
-/

set_option autoImplicit false

namespace LittleOrgans.Concurrency

open LittleOrgans.Core
open LittleOrgans.Library
open LittleOrgans.Library.Monitor
open LittleOrgans.Store
open LittleOrgans.Daemon

/-! ## The schedule of the copies -/

/-- The row of the session is not forking any more. -/
def pastForking (w : World) (id : SessionId) : Bool :=
  (w.db.getLifecycle id).all fun lc => lc.state ≠ .forking

/-- The copy has read the row of the session alive. -/
def hasReadAlive (copy : Thread watched) (id : SessionId) : Bool :=
  (Knowledge.lastRead copy.know id).any fun old => old.state.terminalKind = none

/-- The row reads as it would be written, and its session is entered as ended. -/
def endOnRecord (w : World) (lc : Lifecycle) : Bool :=
  w.db.getLifecycle lc.sessionId = some (storedLifecycle lc) ∧
    lc.sessionId ∈ w.runtime.terminatedEvents

/-- The copy comes to this operation after the first copy, or after who else does what the
first copy has asked for. -/
def comesAfter (c : Exchange) (copy : Thread watched) : Op → Bool
  | .memory (.removePendingLaunch id) => id ∉ c.pool.shared.runtime.pendingLaunches
  | .memory (.removePendingReady id) => c.pool.shared.runtime.pendingReady.lookup id = none
  | .store (.getLifecycle id) =>
      copy.origin.message ≠ some (.ready id) || pastForking c.pool.shared id
  | .store (.updateLifecycle lc) =>
      !hasReadAlive copy lc.sessionId || endOnRecord c.pool.shared lc
  | .os (.ackReady id) => .ready id ∈ c.answered
  | _ => true

/-- A copy comes after the first one, and the reply with a launch spec arrives. -/
def wellTimed (c : Exchange) : ExchangeStep → Bool
  | .loseReply t =>
      match (c.pool.threads t).bind replyOf with
      | some (.launch _) => false
      | _ => true
  | .copy n _ =>
      match c.copies[n]? with
      | none => true
      | some copy =>
          match copy.prog with
          | .ret _ => true
          | .fail _ => true
          | .op o _ => comesAfter c copy o
  | _ => true

/-! ## What a copy goes on to do -/

namespace Echo

/-- What a copy may call, once it has found the ends of these sessions on record. -/
def allows (recorded : List SessionId) : Op → Prop
  | .memory (.removePendingLaunch _) => True
  | .memory (.removePendingReady _) => True
  | .memory (.startExitWatcher _ _) => True
  | .memory (.removeWatcher _) => True
  | .memory (.insertTerminatedEvent id) => id ∈ recorded
  | .memory (.forgetShim _) => True
  | .store (.getLifecycle _) => True
  | .store (.updateLifecycle _) => True
  | .os (.pidAlive _) => True
  | .os (.ackReady _) => True
  | _ => False

/-- What a copy is answered when it comes after the first one. -/
def returns (origin : Origin) : (o : Op) → Except DaemonError o.Res → Prop
  | .memory (.removePendingLaunch _), r => r = .ok false
  | .memory (.removePendingReady _), r => r = .ok none
  | .memory (.insertTerminatedEvent _), r => r = .ok false
  | .store (.getLifecycle id), .ok found =>
      ∀ lc ∈ found, lc.sessionId = id ∧
        (origin.message = some (.ready id) → lc.state ≠ .forking)
  | _, _ => True

def next (recorded : List SessionId) : (o : Op) → Except DaemonError o.Res → List SessionId
  | .store (.updateLifecycle lc), .ok _ => lc.sessionId :: recorded
  | _, _ => recorded

end Echo

/-- The monitor of a copy. -/
abbrev echoing (origin : Origin) : Monitor daemonOps DaemonError where
  State := List SessionId
  allows := Echo.allows
  returns := Echo.returns origin
  next := Echo.next

/-- Whatever it has found on record, the program calls what a copy may call. -/
abbrev EchoProg {α : Type} (origin : Origin) (p : DaemonProg α) : Prop :=
  (echoing origin).Keeps (fun _ => True) p

section Programs

variable {origin : Origin}

/-- An operation that needs nothing on record. -/
theorem echoes_call {o : Op} (h : ∀ recorded, Echo.allows recorded o) :
    EchoProg origin (Prog.call (S := daemonOps) o : DaemonProg o.Res) :=
  keeps_call fun recorded _ => ⟨h recorded, fun _ _ => trivial⟩

theorem echoes_getLifecycle (id : SessionId) : EchoProg origin (store (.getLifecycle id)) :=
  echoes_call (o := .store (.getLifecycle id)) fun _ => trivial

/-- A row that has ended is refused; one that was alive is not entered again. -/
theorem echoes_recordTerminal {id : SessionId} {evidence : TerminationEvidence}
    {mark : Lifecycle → Bool × Lifecycle}
    (hmark : ∀ {lc lc'}, mark lc = (true, lc') → lc'.sessionId = lc.sessionId) :
    EchoProg origin (recordTerminal id evidence mark) := by
  intro recorded _
  refine conforms_call_bind.mpr ⟨trivial, fun found hfound => ?_, fun e _ => trivial⟩
  -- a copy that finds no row has nothing to record
  cases found with
  | none => trivial
  | some lc =>
      have hid : lc.sessionId = id := (hfound lc rfl).1
      -- a row that has ended keeps its end, and the copy stops here
      show (echoing origin).Conforms (if (mark lc).1 = true then _ else _) _ _
      split
      · next hmarked =>
          have hwritten : (mark lc).2.sessionId = lc.sessionId :=
            hmark (show mark lc = (true, (mark lc).2) by rw [← hmarked])
          -- written once more with the end it already has; its event was entered by the first
          -- report
          refine conforms_call_bind.mpr ⟨trivial, fun _ _ => ?_, fun e _ => trivial⟩
          refine conforms_call_bind.mpr ⟨trivial, fun _ _ => ?_, fun e _ => trivial⟩
          have hrecorded : id ∈ (mark lc).2.sessionId :: recorded := by
            rw [hwritten, hid]
            exact List.mem_cons_self
          refine conforms_call_bind.mpr ⟨hrecorded, fun entered hentered => ?_, fun e _ => trivial⟩
          cases hentered
          trivial
      · trivial

theorem echoes_recordExited (id : SessionId) (exit : RuntimeExit)
    (evidence : TerminationEvidence) : EchoProg origin (recordExited id exit evidence) := by
  have hmark : ∀ {lc lc' : Lifecycle}, lc.markExited exit = (true, lc') →
      lc'.sessionId = lc.sessionId := by
    intro lc lc' h
    rw [(Lifecycle.markExited_eq_true h).2]
  refine keeps_bind (keeps_attempt (echoes_recordTerminal hmark)) fun result => ?_
  exact keeps_bind (echoes_call fun _ => trivial) fun _ => keeps_ofExcept result

theorem echoes_recordLost (id : SessionId) (evidence : LostEvidence) :
    EchoProg origin (recordLost id evidence) := by
  have hmark : ∀ {lc lc' : Lifecycle}, lc.markLost evidence = (true, lc') →
      lc'.sessionId = lc.sessionId := by
    intro lc lc' h
    rw [(Lifecycle.markLost_eq_true h).2]
  refine keeps_bind (keeps_attempt (echoes_recordTerminal hmark)) fun result => ?_
  exact keeps_bind (echoes_call fun _ => trivial) fun _ => keeps_ofExcept result

theorem echoes_isTerminal (id : SessionId) : EchoProg origin (isTerminal id) := by
  refine keeps_bind (keeps_attempt (echoes_getLifecycle id)) fun read => ?_
  cases read with
  | error e => exact keeps_ret false
  | ok found => cases found <;> exact keeps_ret _

theorem echoes_watcherEvidence (id : SessionId) : EchoProg origin (watcherEvidence id) := by
  refine keeps_bind (echoes_getLifecycle id) fun found => ?_
  cases found with
  | none => exact keeps_fail _
  | some lc =>
      dsimp only
      cases lc.shimPid with
      | none => exact keeps_fail _
      | some shimPid =>
          refine keeps_bind (echoes_call (o := .os (.pidAlive shimPid)) fun _ => trivial) ?_
          intro alive
          cases alive <;> exact keeps_ret _

/-- A watcher records an end as an exit report does. -/
theorem echoes_recordWatcherExit (id : SessionId) : EchoProg origin (recordWatcherExit id) := by
  refine keeps_bind (echoes_isTerminal id) fun terminal => ?_
  cases terminal with
  | true => exact keeps_ret ()
  | false =>
      refine keeps_bind (echoes_watcherEvidence id) fun evidence => ?_
      cases evidence with
      | lost lost => exact keeps_bind (echoes_recordLost id lost) fun _ => keeps_ret ()
      | processExit => exact keeps_bind (echoes_recordExited id _ _) fun _ => keeps_ret ()
      | shimExit => exact keeps_ret ()

/-- A launch request that finds its spec taken fails. -/
theorem echoes_shimLaunch (id : SessionId) : EchoProg origin (shimLaunch id) := by
  intro recorded _
  refine conforms_bind.mpr ?_
  refine conforms_call_bind.mpr ⟨trivial, fun taken htaken => ?_, fun e _ => trivial⟩
  cases htaken
  trivial

/-- A ready report that finds its waiter taken and its row recorded starts a watcher, or
fails over a row that has ended. -/
theorem echoes_shimReady {ready : ShimReady}
    (horigin : origin.message = some (.ready ready.sessionId)) :
    EchoProg origin (shimReady ready) := by
  intro recorded _
  have hack : EchoProg origin (os (.ackReady ready.sessionId)) :=
    echoes_call (o := .os (.ackReady ready.sessionId)) fun _ => trivial
  refine conforms_bind.mpr ?_
  refine conforms_call_bind.mpr ⟨trivial, fun waiter hwaiter => ?_, fun e _ => trivial⟩
  -- the first report has taken the channel
  cases hwaiter
  refine conforms_call_bind.mpr ⟨trivial, fun found hfound => ?_, fun e _ => trivial⟩
  cases found with
  | none => trivial
  | some lc =>
      -- the schedule has the copy read after the row has left the forking state
      have hpast : lc.state ≠ .forking := (hfound lc rfl).2 horigin
      dsimp only
      cases hstate : lc.state with
      | forking => exact absurd hstate hpast
      | exited exit => trivial
      | lost evidence => trivial
      | running =>
          -- the watcher is started again, under the key it already has
          refine conforms_call.mpr ⟨trivial, fun r _ => ?_⟩
          cases r with
          | error e => trivial
          | ok _ => exact hack recorded trivial

end Programs

/-- The handlers of the copies, and the watchers that copies have started. -/
theorem echoes_program {origin : Origin}
    (hcopy : origin.message.isSome = true ∨ ∃ id, origin = .exitWatcher id) :
    EchoProg origin origin.program := by
  have hquiet : ∀ {α : Type} {p : DaemonProg α}, EchoProg origin p → EchoProg origin (quiet p) :=
    fun h => keeps_bind h fun _ => keeps_ret Reply.done
  cases origin with
  | shimLaunch id => exact hquiet (echoes_shimLaunch id)
  | shimReady ready => exact hquiet (echoes_shimReady rfl)
  | shimExit exit => exact hquiet (echoes_recordExited exit.sessionId exit.exit .shimExit)
  | exitWatcher id => exact hquiet (echoes_recordWatcherExit id)
  | _ =>
      rcases hcopy with hmessage | ⟨id, hwatcher⟩
      · cases hmessage
      · cases hwatcher

/-! ## Replies -/

/-- A reply brings a launch spec or acknowledges a ready report, of the session
its thread was started for. -/
theorem replyOf_eq_some {thread : Thread watched} {m : ShimMessage}
    (h : replyOf thread = some m) :
    thread.origin.message = some m ∧
      ((∃ id k, thread.prog = .op (.os (.deliverLaunch id)) k ∧ m = .launch id) ∨
        ∃ id k, thread.prog = .op (.os (.ackReady id)) k ∧ m = .ready id) := by
  unfold replyOf at h
  split at h
  · next id k hprog =>
      split at h
      · next hmessage =>
          cases h
          exact ⟨hmessage, .inl ⟨id, k, hprog, rfl⟩⟩
      · cases h
  · next id k hprog =>
      split at h
      · next hmessage =>
          cases h
          exact ⟨hmessage, .inr ⟨id, k, hprog, rfl⟩⟩
      · cases h
  · cases h

section Replies

variable {answered : List ShimMessage} {watchers : Table SessionId ExitWatcher} {w v : World}
  {id : SessionId}

/-- Only ready reports count. -/
theorem ackedIn_launch (id' : SessionId) (shim : Shim) :
    ackedIn (.launch id :: answered) id' shim = ackedIn answered id' shim := by
  simp [ackedIn]

theorem ackedIn_ready (id' : SessionId) (shim : Shim) :
    ackedIn (.ready id :: answered) id' shim =
      if id' = id then { shim with readyAcked := true } else ackedIn answered id' shim := by
  by_cases hid : id' = id <;> simp [ackedIn, hid]

theorem Informed.launch (h : Informed answered watchers w v) :
    Informed (.launch id :: answered) watchers w v := by
  obtain ⟨entered, shimPids, rfl, hmem⟩ := h
  refine ⟨entered, shimPids, withShims_informed entered shimPids ?_, hmem⟩
  exact Table.mapRows_congr fun id' shim _ => (ackedIn_launch id' shim).symm

/-- A shim that knows that its report was answered. -/
theorem Informed.ready (h : Informed answered watchers w v)
    (hacked : ∀ shim, w.shims.lookup id = some shim → shim.readyAcked = true) :
    Informed (.ready id :: answered) watchers w v := by
  obtain ⟨entered, shimPids, rfl, hmem⟩ := h
  refine ⟨entered, shimPids, withShims_informed entered shimPids ?_, hmem⟩
  refine Table.mapRows_congr fun id' shim hrow => ?_
  rw [ackedIn_ready]
  split
  · next hid =>
      subst hid
      have hknows := hacked shim (Table.mem_rows_iff.mp hrow)
      obtain ⟨shimPid, alive, acked, signalled, phase⟩ := shim
      cases hknows
      rw [ackedIn]
      split <;> rfl
  · rfl

/-- The world after a ready report of `id` was acknowledged. -/
def World.ack (w : World) (id : SessionId) : World :=
  { w with shims := w.shims.modify id fun shim => { shim with readyAcked := true } }

theorem readyAcked_of_ack {shim : Shim} (h : (w.ack id).shims.lookup id = some shim) :
    shim.readyAcked = true := by
  have hlookup := Table.lookup_modify w.shims id (fun shim => { shim with readyAcked := true }) id
  rw [if_pos rfl] at hlookup
  obtain ⟨shim', -, rfl⟩ := Option.map_eq_some_iff.mp (hlookup.symm.trans h)
  rfl

/-- An acknowledgement that reaches its shim in the second world only. -/
theorem Informed.lost (h : Informed answered watchers w v) :
    Informed (.ready id :: answered) watchers w (v.ack id) := by
  obtain ⟨entered, shimPids, rfl, hmem⟩ := h
  have hshims : (w.shims.mapRows (ackedIn answered)).modify id
      (fun shim => { shim with readyAcked := true }) =
      w.shims.mapRows (ackedIn (.ready id :: answered)) := by
    rw [Table.modify, Table.mapRows_mapRows]
    refine Table.mapRows_congr fun id' shim _ => ?_
    rw [ackedIn_ready]
    split
    · rw [ackedIn]
      split <;> rfl
    · rfl
  have hworld : (w.informed answered watchers entered shimPids).ack id =
      w.informed (.ready id :: answered) watchers entered shimPids :=
    withShims_informed (w := w) entered shimPids hshims
  exact ⟨entered, shimPids, hworld, hmem⟩

/-- An acknowledgement that reaches a shim which knows it in the second world. -/
theorem Informed.again (h : Informed answered watchers w v) (hready : .ready id ∈ answered) :
    Informed answered watchers (w.ack id) v := by
  obtain ⟨entered, shimPids, rfl, hmem⟩ := h
  refine ⟨entered, shimPids, withShims_informed entered shimPids ?_, hmem⟩
  show _ = (w.shims.mapRows _).mapRows (ackedIn answered)
  rw [Table.mapRows_mapRows]
  refine Table.mapRows_congr fun id' shim _ => ?_
  by_cases hid : id' = id
  · subst hid
    simp [ackedIn, hready]
  · simp [hid]

end Replies

theorem ackReady_exec {choice : Choice} {w w' : World} {id : SessionId}
    {r : Except DaemonError Unit}
    (h : Op.exec choice w (.os (.ackReady id)) = some (r, w')) : r = .ok () ∧ w' = w.ack id := by
  cases r with
  | error e =>
      have hfallible := (OsOp.exec_error h).2
      cases hfallible
  | ok a => exact ⟨rfl, OsOp.run_ok (OsOp.exec_ok h)⟩

/-! ## One operation of a copy -/

/-- A copy keeps to its rules from here on, and what it has found on record is there. -/
structure Echoes (w : World) (copy : Thread watched) : Prop where
  knows : knowing.Conforms copy.prog copy.know (Knowledge.post copy.origin)
  calls : ∃ recorded, (echoing copy.origin).Conforms copy.prog recorded (fun _ _ => True) ∧
    ∀ id ∈ recorded, id ∈ w.runtime.terminatedEvents

theorem echoes_handler {origin : Origin} (w : World)
    (hcopy : origin.message.isSome = true ∨ ∃ id, origin = .exitWatcher id) :
    Echoes w origin.handler where
  knows := conforms_program origin
  calls := ⟨[], echoes_program hcopy [] trivial, fun _ hid => absurd hid List.not_mem_nil⟩

theorem Echoes.mono {w w' : World} {copy : Thread watched} (h : Echoes w copy)
    (hentered : ∀ id ∈ w.runtime.terminatedEvents, id ∈ w'.runtime.terminatedEvents) :
    Echoes w' copy where
  knows := h.knows
  calls := by
    obtain ⟨recorded, hcalls, hrecorded⟩ := h.calls
    exact ⟨recorded, hcalls, fun id hid => hentered id (hrecorded id hid)⟩

/-- A session that is entered as ended stays so. -/
theorem entered_exec {choice : Choice} {w w' : World} {o : Op} {r : Except DaemonError o.Res}
    (h : o.exec choice w = some (r, w')) :
    ∀ id ∈ w.runtime.terminatedEvents, id ∈ w'.runtime.terminatedEvents := by
  intro id hid
  cases o with
  | store o =>
      obtain ⟨db, -, rfl⟩ := Op.exec_store h
      exact hid
  | log o =>
      obtain ⟨log, -, rfl⟩ := Op.exec_log h
      exact hid
  | os o =>
      rw [OsOp.frame h]
      exact hid
  | memory o =>
      by_cases hinsert : ∃ id', o = .insertTerminatedEvent id'
      · obtain ⟨id', rfl⟩ := hinsert
        -- the key may be new, and every other one stays
        cases r with
        | error e => exact (MemoryOp.exec_error h).1 ▸ hid
        | ok a =>
            have hrun := MemoryOp.exec_ok h
            simp only [MemoryOp.run, Choice.ran_eq_some, Prod.mk.injEq] at hrun
            have hw' : w.enter id' = w' := hrun.2.2
            rw [← hw', mem_enter]
            exact .inr hid
      · rw [terminatedEvents_exec h fun id' heq => hinsert ⟨id', heq⟩]
        exact hid

theorem entered_start {w w' : World} {origin : Origin} (h : w.start origin = some w') :
    ∀ id ∈ w.runtime.terminatedEvents, id ∈ w'.runtime.terminatedEvents := by
  intro id hid
  rw [World.start_frame h]
  exact hid

theorem updateLifecycle_of_getLifecycle {db db' : Database} {lc : Lifecycle}
    (hrow : db.getLifecycle lc.sessionId = some (storedLifecycle lc))
    (h : db.updateLifecycle lc = .ok db') : db' = db := by
  obtain ⟨row, hlookup, hstored⟩ := Option.map_eq_some_iff.mp hrow
  have hsame : row = lifecycleRow lc := by
    have hfields := congrArg lifecycleRow hstored
    exact hfields
  obtain ⟨-, rfl⟩ := Database.updateLifecycle_eq_ok h
  have hrows : (db.lifecycles.modify lc.sessionId fun _ => lifecycleRow lc) = db.lifecycles := by
    refine Table.modify_of_lookup fun r hr => ?_
    rw [hlookup] at hr
    cases hr
    exact hsame.symm
  rw [hrows]

section Copies

variable {c : Exchange} {copy : Thread watched} {v w' : World} {choice : Choice}

/-- The memory of the second world is as it would be without the copy. -/
theorem copy_memory {o : MemoryOp} {r : Except DaemonError o.Res} {recorded : List SessionId}
    (hallows : Echo.allows recorded (.memory o))
    (hrecorded : ∀ id ∈ recorded, id ∈ c.pool.shared.runtime.terminatedEvents)
    (hcond : comesAfter c copy (.memory o) = true)
    (hexec : Op.exec choice c.pool.shared (.memory o) = some (r, w'))
    (h : Informed c.answered c.watchers c.pool.shared v) :
    Informed c.answered c.watchers w' v ∧ Echo.returns copy.origin (.memory o) r := by
  cases r with
  | error e =>
      obtain ⟨rfl, id, pid, rfl⟩ := MemoryOp.exec_error hexec
      exact ⟨h, trivial⟩
  | ok a =>
      have hrun := MemoryOp.exec_ok hexec
      cases o with
      | removePendingLaunch id =>
          simp only [MemoryOp.run, Choice.ran_eq_some, Prod.mk.injEq] at hrun
          have htaken : id ∉ c.pool.shared.runtime.pendingLaunches := of_decide_eq_true hcond
          -- What is removed is not there.
          have hkept : c.pool.shared.runtime.pendingLaunches.filter (· ≠ id) =
              c.pool.shared.runtime.pendingLaunches := by
            refine List.filter_eq_self.mpr fun id' hid' => decide_eq_true ?_
            rintro rfl
            exact htaken hid'
          refine ⟨?_, ?_⟩
          · rw [← hrun.2.2, hkept]
            exact h
          · show Except.ok a = .ok false
            rw [← hrun.2.1, decide_eq_false htaken]
      | removePendingReady id =>
          simp only [MemoryOp.run, Choice.ran_eq_some, Prod.mk.injEq] at hrun
          have htaken : c.pool.shared.runtime.pendingReady.lookup id = none :=
            of_decide_eq_true hcond
          refine ⟨?_, ?_⟩
          · rw [← hrun.2.2, Table.erase_of_lookup htaken]
            exact h
          · show Except.ok a = .ok none
            rw [← hrun.2.1, htaken]
            rfl
      | startExitWatcher id pid =>
          -- The watchers of the second world are those that the threads have set.
          rw [startExitWatcher_run] at hrun
          cases (Choice.ran_eq_some.mp hrun).2
          exact ⟨h, trivial⟩
      | removeWatcher id =>
          simp only [MemoryOp.run, Choice.ran_eq_some, Prod.mk.injEq] at hrun
          rw [← hrun.2.2]
          exact ⟨h, trivial⟩
      | insertTerminatedEvent id =>
          simp only [MemoryOp.run, Choice.ran_eq_some, Prod.mk.injEq] at hrun
          have hentered : id ∈ c.pool.shared.runtime.terminatedEvents := hrecorded id hallows
          refine ⟨?_, ?_⟩
          · have hw' : c.pool.shared.enter id = w' := hrun.2.2
            obtain ⟨entered, shimPids, rfl, hmem⟩ := h
            rw [← hw']
            refine ⟨entered, shimPids, rfl, fun id' => ?_⟩
            rw [hmem, mem_enter]
            constructor
            · exact .inr
            · rintro (rfl | hid')
              · exact hentered
              · exact hid'
          · show Except.ok a = .ok false
            rw [← hrun.2.1, decide_eq_false fun hfree => hfree hentered]
      | forgetShim id =>
          simp only [MemoryOp.run, Choice.ran_eq_some, Prod.mk.injEq] at hrun
          rw [← hrun.2.2]
          obtain ⟨entered, shimPids, rfl, hmem⟩ := h
          exact ⟨⟨entered, shimPids, rfl, hmem⟩, trivial⟩
      | _ => exact hallows.elim

/-- A copy that writes has read the row alive: the rows that have ended are refused. -/
theorem endOnRecord_of_mayWrite {lc : Lifecycle} (hmay : Knowledge.MayWrite copy.know lc)
    (hcond : comesAfter c copy (.store (.updateLifecycle lc)) = true) :
    endOnRecord c.pool.shared lc = true := by
  obtain ⟨old, hread, halive, -⟩ := hmay
  have hreads : hasReadAlive copy lc.sessionId = true := by
    rw [hasReadAlive, hread, Option.any_some]
    exact decide_eq_true halive
  rcases Bool.or_eq_true_iff.mp hcond with hnot | hrecord
  · rw [hreads] at hnot
    cases hnot
  · exact hrecord

/-- A copy reads the row, or writes what it reads as already. -/
theorem copy_store {o : StoreOp} {r : Except DaemonError o.Res} {recorded : List SessionId}
    (hallows : Echo.allows recorded (.store o)) (hmay : Knowledge.allowsStore copy.know o)
    (hcond : comesAfter c copy (.store o) = true)
    (hexec : Op.exec choice c.pool.shared (.store o) = some (r, w')) :
    w' = c.pool.shared ∧ Echo.returns copy.origin (.store o) r ∧
      ∀ id ∈ Echo.next recorded (.store o) r,
        id ∈ recorded ∨ id ∈ c.pool.shared.runtime.terminatedEvents := by
  obtain ⟨db, hrun, rfl⟩ := Op.exec_store hexec
  have hself : ({ c.pool.shared with db := c.pool.shared.db } : World) = c.pool.shared := rfl
  cases o with
  | getLifecycle id =>
      cases r with
      | error e => exact ⟨by rw [StoreOp.exec_error hrun], trivial, fun _ hid => .inl hid⟩
      | ok found =>
          obtain ⟨rfl, hfound⟩ := StoreOp.exec_ok hrun
          refine ⟨rfl, fun lc hlc => ⟨?_, fun horigin => ?_⟩, fun _ hid => .inl hid⟩
          · exact Database.sessionId_of_getLifecycle (hfound.symm.trans hlc)
          -- the schedule: this copy reads a row that is past forking
          · rcases Bool.or_eq_true_iff.mp hcond with hother | hpast
            · exact absurd horigin (of_decide_eq_true hother)
            · rw [pastForking, ← hfound, hlc] at hpast
              exact of_decide_eq_true hpast
  | updateLifecycle lc =>
      cases r with
      | error e => exact ⟨by rw [StoreOp.exec_error hrun], trivial, fun _ hid => .inl hid⟩
      | ok _ =>
          -- the write is of a row whose end is on record, so it writes what is there
          have hrecord := endOnRecord_of_mayWrite hmay hcond
          obtain ⟨hrow, hentered⟩ := of_decide_eq_true hrecord
          have hsame : db = c.pool.shared.db :=
            updateLifecycle_of_getLifecycle hrow (StoreOp.exec_ok hrun)
          refine ⟨by rw [hsame], trivial, fun id hid => ?_⟩
          rcases List.mem_cons.mp hid with rfl | hid
          · exact .inr hentered
          · exact .inl hid
  | _ => exact hallows.elim

/-- An acknowledgement of a copy reaches a shim that has been answered. -/
theorem copy_os {o : OsOp} {r : Except DaemonError o.Res} {recorded : List SessionId}
    (hallows : Echo.allows recorded (.os o)) (hcond : comesAfter c copy (.os o) = true)
    (hexec : Op.exec choice c.pool.shared (.os o) = some (r, w'))
    (h : Informed c.answered c.watchers c.pool.shared v) :
    Informed c.answered c.watchers w' v := by
  cases o with
  | pidAlive pid =>
      cases r with
      | error e => exact (OsOp.exec_error hexec).1 ▸ h
      | ok alive => exact (OsOp.run_ok (OsOp.exec_ok hexec)).1 ▸ h
  | ackReady id =>
      rw [(ackReady_exec hexec).2]
      exact h.again (of_decide_eq_true hcond)
  | _ => exact hallows.elim

/-- One operation of a copy that comes after the first one. -/
theorem Echoes.op {o : Op} {k : Except DaemonError o.Res → DaemonProg Reply}
    {r : Except DaemonError o.Res} (hcopy : Echoes c.pool.shared copy) (hprog : copy.prog = .op o k)
    (hcond : comesAfter c copy o = true) (hexec : o.exec choice c.pool.shared = some (r, w'))
    (h : Informed c.answered c.watchers c.pool.shared v) :
    Informed c.answered c.watchers w' v ∧
      Echoes w' ⟨copy.origin, k r, copy.know.next o r⟩ := by
  obtain ⟨hknows, recorded, hcalls, hrecorded⟩ := hcopy
  rw [hprog] at hknows hcalls
  have hentered := entered_exec hexec
  have hnext : Informed c.answered c.watchers w' v ∧ Echo.returns copy.origin o r ∧
      ∀ id ∈ Echo.next recorded o r, id ∈ w'.runtime.terminatedEvents := by
    cases o with
    | store o =>
        obtain ⟨rfl, hreturns, hrecorded'⟩ := copy_store hcalls.1 hknows.1 hcond hexec
        refine ⟨h, hreturns, fun id hid => ?_⟩
        rcases hrecorded' id hid with hid | hid
        · exact hrecorded id hid
        · exact hid
    | memory o =>
        obtain ⟨hinformed, hreturns⟩ := copy_memory hcalls.1 hrecorded hcond hexec h
        exact ⟨hinformed, hreturns, fun id hid => hentered id (hrecorded id hid)⟩
    | log o => exact hcalls.1.elim
    | os o =>
        exact ⟨copy_os hcalls.1 hcond hexec h, trivial,
          fun id hid => hentered id (hrecorded id hid)⟩
  obtain ⟨hinformed, hreturns, hrecorded'⟩ := hnext
  exact ⟨hinformed, hknows.2 r (returns_of_exec hexec), _, hcalls.2 r hreturns, hrecorded'⟩

end Copies

/-! ## The two runs side by side -/

/-- The exchange with its copies, and the one without. -/
structure Twin (c d : Exchange) : Prop where
  shared : Informed c.answered c.watchers c.pool.shared d.pool.shared
  watchers : d.watchers = c.watchers
  threads : d.pool.threads = c.pool.threads
  fresh : d.pool.fresh = c.pool.fresh
  received : d.received = c.received
  alone : d.copies = []
  known : ∀ m ∈ c.answered, m ∈ c.received
  present : ∀ id, .ready id ∈ c.answered → c.pool.shared.shims.contains id = true
  origins : ∀ t thread m, c.pool.threads t = some thread → thread.origin.message = some m →
    m ∈ c.received ∧ ∀ id, m = .ready id → c.pool.shared.shims.contains id = true
  copies : ∀ copy ∈ c.copies, Echoes c.pool.shared copy

theorem Later.contains {w w' : World} (h : Later w w') {id : SessionId}
    (hshim : w.shims.contains id = true) : w'.shims.contains id = true := by
  obtain ⟨shim, hlookup⟩ := Table.contains_iff.mp hshim
  obtain ⟨shim', hlookup', -⟩ := h.shims id shim hlookup
  exact Table.contains_iff.mpr ⟨shim', hlookup'⟩

theorem Informed.exitWatchers {answered : List ShimMessage}
    {watchers : Table SessionId ExitWatcher} {w v : World} (h : Informed answered watchers w v) :
    v.runtime.exitWatchers = watchers := by
  obtain ⟨entered, shimPids, rfl, -⟩ := h
  rfl

/-- Without copies there are the watchers of the threads. -/
theorem Twin.unaided {c d : Exchange} (h : Twin c d) : d.unaided = d.pool.shared := by
  rw [Exchange.unaided, h.watchers, ← h.shared.exitWatchers]
  rfl

/-- A thread goes on in both exchanges. -/
theorem Twin.put {c d : Exchange} {t : Nat} {thread : Thread watched} {w' v' : World}
    {watchers : Table SessionId ExitWatcher}
    (h : Twin c d) (hthread : c.pool.threads t = some thread) (thread' : Thread watched)
    (horigin : thread'.origin = thread.origin)
    (hstay : ∀ id, c.pool.shared.shims.contains id = true → w'.shims.contains id = true)
    (hentered : ∀ id ∈ c.pool.shared.runtime.terminatedEvents, id ∈ w'.runtime.terminatedEvents)
    (hinformed : Informed ((replyOf thread).toList ++ c.answered) watchers w' v')
    (answered : List ShimMessage) :
    Twin
      { c with
        pool := c.pool.put t thread' w'
        answered := (replyOf thread).toList ++ c.answered
        watchers := watchers }
      { d with
        pool := d.pool.put t thread' v'
        answered := answered
        watchers := watchers } := by
  -- a reply that was sent is a message the daemon had received
  have hreply : ∀ m ∈ (replyOf thread).toList ++ c.answered,
      m ∈ c.received ∧ ∀ id, m = .ready id → w'.shims.contains id = true := by
    intro m hm
    rcases List.mem_append.mp hm with hm | hm
    · obtain ⟨hreceived, hcontains⟩ :=
        h.origins t thread m hthread (replyOf_eq_some (Option.mem_toList.mp hm)).1
      exact ⟨hreceived, fun id hid => hstay id (hcontains id hid)⟩
    · refine ⟨h.known m hm, fun id hid => hstay id (h.present id ?_)⟩
      rw [← hid]
      exact hm
  constructor
  · exact hinformed
  · rfl
  · show Function.update d.pool.threads t _ = Function.update c.pool.threads t _
    rw [h.threads]
  · exact h.fresh
  · exact h.received
  · exact h.alone
  · exact fun m hm => (hreply m hm).1
  · exact fun id hid => (hreply _ hid).2 id rfl
  -- the messages of the threads: the one that ran keeps its origin
  · intro t' thread₁ m hthread₁ hm
    have hold : ∃ thread₀, c.pool.threads t' = some thread₀ ∧ thread₀.origin = thread₁.origin := by
      rcases Pool.of_update hthread₁ with ⟨rfl, rfl⟩ | ⟨-, hother⟩
      · exact ⟨thread, hthread, horigin.symm⟩
      · exact ⟨thread₁, hother, rfl⟩
    obtain ⟨thread₀, hthread₀, horigin₀⟩ := hold
    obtain ⟨hreceived, hcontains⟩ := h.origins t' thread₀ m hthread₀ (by rw [horigin₀, hm])
    exact ⟨hreceived, fun id hid => hstay id (hcontains id hid)⟩
  · exact fun copy hcopy => (h.copies copy hcopy).mono hentered

/-- The next operation of a thread, in both exchanges. -/
theorem Twin.runThread {c d c' : Exchange} {t : Nat} {answers : Op → Choice} (h : Twin c d)
    (hrun : c.runThread t answers = some c') :
    ∃ d', d.runThread t answers = some d' ∧ Twin c' d' := by
  obtain ⟨thread, hthread, hrun⟩ := Option.bind_eq_some_iff.mp hrun
  have hthread' : d.pool.threads t = some thread := by rw [h.threads, hthread]
  rw [Exchange.runThread, hthread', Option.bind_some]
  obtain ⟨origin, prog, know⟩ := thread
  cases prog with
  | ret a =>
      cases hrun
      exact ⟨d, rfl, h⟩
  | fail e =>
      cases hrun
      exact ⟨d, rfl, h⟩
  | op o k =>
      obtain ⟨pool, hpool, rfl⟩ := Option.map_eq_some_iff.mp hrun
      obtain ⟨r, w', hexec, rfl⟩ := (Pool.runThread_eq_some rfl).mp hpool
      obtain ⟨v', hexec', hinformed⟩ := exec_informed hexec h.present h.shared
      have hlater : Later c.pool.shared w' := .op hexec
      refine ⟨_, Option.map_eq_some_iff.mpr
        ⟨_, (Pool.runThread_eq_some rfl).mpr ⟨r, v', hexec', rfl⟩, rfl⟩, ?_⟩
      rw [h.watchers]
      refine h.put hthread ⟨origin, k r, know.next o r⟩ rfl
        (fun id hid => hlater.contains hid) (entered_exec hexec) ?_ _
      cases hm : replyOf ⟨origin, .op o k, know⟩ with
      | none => exact hinformed
      | some m =>
          rcases (replyOf_eq_some hm).2 with ⟨id, k', hprog, rfl⟩ | ⟨id, k', hprog, rfl⟩
          · exact hinformed.launch
          · -- the shim that is answered now knows it in both worlds
            cases hprog
            refine hinformed.ready fun shim hshim => ?_
            rw [(ackReady_exec hexec).2] at hshim
            exact readyAcked_of_ack hshim

/-- A reply that is lost in the first exchange only. -/
theorem Twin.loseReply {c d c' : Exchange} {t : Nat} (h : Twin c d)
    (hcond : wellTimed c (.loseReply t) = true)
    (hlose : c.loseReply t = some c') :
    ∃ d', d.runThread t (fun _ => .run) = some d' ∧ Twin c' d' := by
  obtain ⟨thread, hthread, hlose⟩ := Option.bind_eq_some_iff.mp hlose
  have hthread' : d.pool.threads t = some thread := by rw [h.threads, hthread]
  rw [wellTimed, hthread, Option.bind_some] at hcond
  split at hlose
  · next hreplies =>
      obtain ⟨m, hm⟩ := Option.isSome_iff_exists.mp hreplies
      obtain ⟨pool, hpool, rfl⟩ := Option.map_eq_some_iff.mp hlose
      -- a launch that is lost would be asked for again; the schedule excludes it
      rcases (replyOf_eq_some hm).2 with ⟨id, k, hprog, rfl⟩ | ⟨id, k, hprog, rfl⟩
      · rw [hm] at hcond
        cases hcond
      -- the acknowledgement is lost: the twin acknowledges, the exchange does not
      · obtain ⟨r, w', hexec, rfl⟩ := (Pool.runThread_eq_some hprog).mp hpool
        have hacked : Op.exec .run c.pool.shared (.os (.ackReady id)) = some (r, w') := hexec
        have hr : r = .ok () := (ackReady_exec hacked).1
        have hexec' : Op.exec .run d.pool.shared (.os (.ackReady id)) =
            some (r, d.pool.shared.ack id) := by
          rw [hr]
          rfl
        have hinformed : Informed ((replyOf thread).toList ++ c.answered) c.watchers
            c.pool.shared (d.pool.shared.ack id) := by
          rw [hm]
          exact h.shared.lost
        rw [Exchange.runThread, hthread', Option.bind_some, hprog]
        refine ⟨_, Option.map_eq_some_iff.mpr
          ⟨_, (Pool.runThread_eq_some hprog).mpr ⟨r, _, hexec', rfl⟩, rfl⟩, ?_⟩
        rw [h.watchers]
        exact h.put hthread ⟨thread.origin, k r, thread.know.next (.os (.ackReady id)) r⟩ rfl
          (fun id hid => hid) (fun id hid => hid) hinformed _
  · cases hlose

/-- A request that is not a copy, in both exchanges. -/
theorem Twin.startFirst {c d c' : Exchange} {origin : Origin} (h : Twin c d)
    (hstart : c.startFirst origin = some c') :
    ∃ d', d.startFirst origin = some d' ∧ Twin c' d' := by
  rw [Exchange.startFirst] at hstart
  split at hstart
  · cases hstart
  · next hfirst =>
      obtain ⟨u, hu, hstart⟩ := Option.bind_eq_some_iff.mp hstart
      obtain ⟨pool, hpool, rfl⟩ := Option.map_eq_some_iff.mp hstart
      obtain ⟨w', hw', rfl⟩ := Pool.next_start_eq_some hpool
      have hnew : ∀ m, origin.message = some m → m ∉ c.received := by
        intro m hm hmem
        rw [hm] at hfirst
        exact hfirst (decide_eq_true hmem)
      have hunaided : Informed c.answered c.unaided.runtime.exitWatchers c.unaided
          d.pool.shared := h.shared
      obtain ⟨v', hv', hinformed⟩ := start_informed hu
        (fun id hid hmem => hnew _ hid (h.known _ hmem)) hunaided
      obtain ⟨watchers, rfl⟩ : ∃ watchers, u = w'.withWatchers watchers :=
        ⟨_, start_withWatchers hw' hu⟩
      have hfirst' : ¬(origin.message.any fun m => decide (m ∈ d.received)) = true := by
        rw [h.received]
        exact hfirst
      have hv'' : d.unaided.start origin = some v' := by rw [h.unaided, hv']
      have hframe := World.start_frame hw'
      have hshims : w'.shims = c.pool.shared.shims := by rw [hframe]
      rw [Exchange.startFirst, if_neg hfirst', hv'', Option.bind_some]
      refine ⟨_, Option.map_eq_some_iff.mpr
        ⟨_, Option.map_eq_some_iff.mpr ⟨v', hv', rfl⟩, rfl⟩, ?_⟩
      constructor
      · exact hinformed
      · exact hinformed.exitWatchers
      · show Function.update d.pool.threads d.pool.fresh _ =
          Function.update c.pool.threads c.pool.fresh _
        rw [h.threads, h.fresh]
      · show d.pool.fresh + 1 = c.pool.fresh + 1
        rw [h.fresh]
      · show origin.message.toList ++ d.received = origin.message.toList ++ c.received
        rw [h.received]
      · exact h.alone
      · exact fun m hm => List.mem_append_right _ (h.known m hm)
      · intro id hid
        show w'.shims.contains id = true
        rw [hshims]
        exact h.present id hid
      · intro t thread m hthread hm
        show m ∈ origin.message.toList ++ c.received ∧ ∀ id, m = .ready id →
          w'.shims.contains id = true
        rw [hshims]
        rcases Pool.of_update hthread with ⟨-, rfl⟩ | ⟨-, hother⟩
        · refine ⟨List.mem_append_left _ (Option.mem_toList.mpr hm), fun id hid => ?_⟩
          subst hid
          -- a ready report comes from a shim
          cases origin with
          | shimReady ready =>
              cases hm
              obtain ⟨hready, -⟩ := World.guarded_eq_some.mp hw'
              rw [Bool.and_eq_true] at hready
              obtain ⟨shim, hshim, -⟩ := (Option.any_eq_true _ _).mp hready.2
              exact Table.contains_iff.mpr ⟨shim, hshim⟩
          | _ => cases hm
        · obtain ⟨hreceived, hcontains⟩ := h.origins t thread m hother hm
          exact ⟨List.mem_append_right _ hreceived, hcontains⟩
      · exact fun copy hcopy => (h.copies copy hcopy).mono (entered_start hw')

/-- The world of the first exchange changes, and what the second one has of it does not. -/
theorem Twin.onWorld {c d : Exchange} {w' : World} (h : Twin c d)
    (hinformed : Informed c.answered c.watchers w' d.pool.shared)
    (hstay : ∀ id, c.pool.shared.shims.contains id = true → w'.shims.contains id = true)
    {copies : List (Thread watched)} (hcopies : ∀ copy ∈ copies, Echoes w' copy) :
    Twin { c with pool := { c.pool with shared := w' }, copies := copies } d where
  shared := hinformed
  watchers := h.watchers
  threads := h.threads
  fresh := h.fresh
  received := h.received
  alone := h.alone
  known := h.known
  present id hid := hstay id (h.present id hid)
  origins t thread m hthread hm := by
    obtain ⟨hreceived, hcontains⟩ := h.origins t thread m hthread hm
    exact ⟨hreceived, fun id hid => hstay id (hcontains id hid)⟩
  copies := hcopies

theorem Twin.runCopy {c d c' : Exchange} {n : Nat} {answers : Op → Choice} (h : Twin c d)
    (hcond : wellTimed c (.copy n answers) = true)
    (hrun : c.runCopy n answers = some c') : Twin c' d := by
  obtain ⟨copy, hcopy, hrun⟩ := Option.bind_eq_some_iff.mp hrun
  have hechoes := h.copies copy (List.mem_of_getElem? hcopy)
  rw [wellTimed, hcopy] at hcond
  dsimp only at hcond hrun
  cases hprog : copy.prog with
  | ret a =>
      rw [hprog] at hrun
      cases hrun
  | fail e =>
      rw [hprog] at hrun
      cases hrun
  | op o k =>
      rw [hprog] at hrun hcond
      obtain ⟨⟨r, w'⟩, hexec, rfl⟩ := Option.map_eq_some_iff.mp hrun
      obtain ⟨hinformed, hgoesOn⟩ := hechoes.op hprog hcond hexec h.shared
      have hlater : Later c.pool.shared w' := .op hexec
      refine h.onWorld hinformed (fun id hid => hlater.contains hid) fun copy' hcopy' => ?_
      rcases List.mem_or_eq_of_mem_set hcopy' with hcopy' | rfl
      · exact (h.copies copy' hcopy').mono (entered_exec hexec)
      · exact hgoesOn

/-- A further copy comes. -/
theorem Twin.resend {c d c' : Exchange} {origin : Origin} (h : Twin c d)
    (hresend : c.resend origin = some c') : Twin c' d := by
  rw [Exchange.resend] at hresend
  split at hresend
  · next hready =>
      cases hresend
      have hcopy : origin.message.isSome = true := Option.isSome_of_any hready.1
      refine h.onWorld h.shared (fun id hid => hid) fun copy hmem => ?_
      rcases List.mem_append.mp hmem with hold | hnew
      · exact h.copies copy hold
      · rw [List.mem_singleton.mp hnew]
        exact echoes_handler _ (.inl hcopy)
  · cases hresend

/-- A watcher fires that the second exchange does not have. -/
theorem Twin.watch {c d c' : Exchange} {id : SessionId} (h : Twin c d)
    (hwatch : c.watch id = some c') : Twin c' d := by
  rw [Exchange.watch] at hwatch
  split at hwatch
  · cases hwatch
  · obtain ⟨w', hw', rfl⟩ := Option.map_eq_some_iff.mp hwatch
    have hinformed : Informed c.answered c.watchers w' d.pool.shared := by
      rw [← (World.guarded_eq_some.mp hw').2]
      exact h.shared
    have hstay : ∀ id, c.pool.shared.shims.contains id = true → w'.shims.contains id = true := by
      rw [World.start_frame hw']
      exact fun id hid => hid
    refine h.onWorld hinformed hstay fun copy hmem => ?_
    rcases List.mem_append.mp hmem with hold | hnew
    · exact (h.copies copy hold).mono (entered_start hw')
    · rw [List.mem_singleton.mp hnew]
      exact echoes_handler _ (.inr ⟨id, rfl⟩)

/-- The shims and their runtimes, in both exchanges. -/
theorem Twin.env {c d c' : Exchange} {event : EnvEvent} (h : Twin c d)
    (henv : exchange.step c (.env event) = some c') :
    ∃ d', exchange.step d (.env event) = some d' ∧ Twin c' d' := by
  obtain ⟨pool, hpool, rfl⟩ := Option.map_eq_some_iff.mp henv
  obtain ⟨w', hw', rfl⟩ := Pool.next_env_eq_some hpool
  obtain ⟨v', hv', hinformed⟩ := env_informed hw' h.shared
  have hlater : Later c.pool.shared w' := .env hw'
  have hframe := World.env_frame hw'
  refine ⟨_, Option.map_eq_some_iff.mpr ⟨_, Option.map_eq_some_iff.mpr ⟨v', hv', rfl⟩, rfl⟩, ?_⟩
  constructor
  · exact hinformed
  · exact h.watchers
  · exact h.threads
  · exact h.fresh
  · exact h.received
  · exact h.alone
  · exact h.known
  · exact fun id hid => hlater.contains (h.present id hid)
  · intro t thread m hthread hm
    obtain ⟨hreceived, hcontains⟩ := h.origins t thread m hthread hm
    exact ⟨hreceived, fun id hid => hlater.contains (hcontains id hid)⟩
  · refine fun copy hcopy => (h.copies copy hcopy).mono fun id hid => ?_
    rw [hframe]
    exact hid

/-- The daemon goes down in both exchanges, with the handlers of the copies. -/
theorem Twin.crash {c d c' : Exchange} (h : Twin c d) (hcrash : exchange.step c .crash = some c') :
    ∃ d', exchange.step d .crash = some d' ∧ Twin c' d' := by
  cases hcrash
  refine ⟨_, rfl, ?_⟩
  constructor
  · exact crash_informed h.shared
  · rfl
  · rfl
  · exact h.fresh
  · exact h.received
  · rfl
  · exact h.known
  · exact h.present
  · intro t thread m hthread
    cases hthread
  · intro copy hcopy
    cases hcopy

theorem twin_initial (w : World) : Twin (.initial w) (.initial w) := by
  have hinformed : Informed [] w.runtime.exitWatchers w w := by
    refine ⟨w.runtime.terminatedEvents, w.runtime.shimPids, ?_, fun id => Iff.rfl⟩
    have hshims : w.shims.mapRows (ackedIn []) = w.shims :=
      Table.mapRows_self fun id shim _ => if_neg (List.not_mem_nil)
    rw [World.informed, hshims]
  constructor
  · exact hinformed
  · rfl
  · rfl
  · rfl
  · rfl
  · rfl
  · intro m hm
    cases hm
  · intro id hid
    cases hid
  · intro t thread m hthread
    cases hthread
  · intro copy hcopy
    cases hcopy

theorem Twin.same {c d : Exchange} (h : Twin c d) : SameResult c d ∧ SameShims c d := by
  have houtcomes : ∀ t, d.outcome t = c.outcome t := by
    intro t
    rw [Exchange.outcome, h.threads, Exchange.outcome]
  obtain ⟨entered, shimPids, hworld, -⟩ := h.shared
  refine ⟨⟨fun id => by rw [hworld]; rfl, by rw [hworld]; rfl, houtcomes⟩, fun id => ?_⟩
  rw [hworld]
  show ((c.pool.shared.shims.mapRows (ackedIn c.answered)).lookup id).map Shim.phase = _
  rw [Table.lookup_mapRows, Option.map_map]
  exact congrArg (fun f => Option.map f _) (funext fun shim => phase_ackedIn c.answered id shim)

theorem Twin.final {c d : Exchange} (h : Twin c d) (hfinal : c.Final) : d.Final := by
  refine ⟨fun t thread hthread => ?_, fun p hp => ?_⟩
  · rw [h.threads] at hthread
    exact hfinal.1 t thread hthread
  · rw [h.alone] at hp
    cases hp

/-- Threads take ids in order in the exchange too. -/
theorem freshAbove_runThread {c pool : Pool watched} {t : Nat} {choice : Choice}
    {thread : Thread watched} (h : c.FreshAbove) (hthread : c.threads t = some thread)
    (hrun : c.runThread t choice thread = some pool) : pool.FreshAbove := by
  have hnext : c.next (.run t choice) = some pool := by
    show (c.threads t).bind _ = _
    rw [hthread]
    exact hrun
  exact h.next hnext

theorem freshAbove_step {c c' : Exchange} {a : ExchangeStep} (h : c.pool.FreshAbove)
    (hstep : exchange.step c a = some c') : c'.pool.FreshAbove := by
  cases a with
  | start origin =>
      simp only [exchange, Exchange.step, Exchange.startFirst] at hstep
      split at hstep
      · cases hstep
      · obtain ⟨u, -, hstep⟩ := Option.bind_eq_some_iff.mp hstep
        obtain ⟨pool, hpool, rfl⟩ := Option.map_eq_some_iff.mp hstep
        exact h.next hpool
  | run t answers =>
      obtain ⟨thread, hthread, hrun⟩ := Option.bind_eq_some_iff.mp hstep
      split at hrun
      · cases hrun
        exact h
      · cases hrun
        exact h
      · obtain ⟨pool, hpool, rfl⟩ := Option.map_eq_some_iff.mp hrun
        exact freshAbove_runThread h hthread hpool
  | env event =>
      obtain ⟨pool, hpool, rfl⟩ := Option.map_eq_some_iff.mp hstep
      exact h.next hpool
  | crash =>
      cases hstep
      exact fun _ _ => rfl
  | loseReply t =>
      obtain ⟨thread, hthread, hlose⟩ := Option.bind_eq_some_iff.mp hstep
      split at hlose
      · obtain ⟨pool, hpool, rfl⟩ := Option.map_eq_some_iff.mp hlose
        have hpool' : pool.FreshAbove := freshAbove_runThread h hthread hpool
        exact hpool'
      · cases hlose
  | resend origin =>
      simp only [exchange, Exchange.step, Exchange.resend] at hstep
      split at hstep
      · cases hstep
        exact h
      · cases hstep
  | watch id =>
      simp only [exchange, Exchange.step, Exchange.watch] at hstep
      split at hstep
      · cases hstep
      · obtain ⟨w', -, rfl⟩ := Option.map_eq_some_iff.mp hstep
        exact h
  | copy n answers =>
      obtain ⟨copy, -, hstep⟩ := Option.bind_eq_some_iff.mp hstep
      split at hstep
      · cases hstep
      · cases hstep
      · obtain ⟨result, -, rfl⟩ := Option.map_eq_some_iff.mp hstep
        exact h

theorem final_of_follow {w : World} {steps : List ExchangeStep} {c : Exchange}
    (hrun : exchange.follow (.initial w) steps = some c)
    (hdone : ∀ t < c.pool.fresh, (c.pool.threads t).all Thread.isDone = true)
    (hcopies : ∀ p ∈ c.copies, p.isDone = true) : c.Final := by
  have hreach : exchange.Reaches (fun _ _ => True) (.initial w) c :=
    StepSystem.reaches_of_follow hrun fun _ _ _ => trivial
  have hfresh : c.pool.FreshAbove :=
    StepSystem.Reaches.invariant (I := fun c : Exchange => c.pool.FreshAbove) (fun _ _ => rfl)
      (fun _ _ _ h _ hstep => freshAbove_step h hstep) hreach
  exact ⟨hfresh.quiescent hdone, hcopies⟩

/-- An answer to every operation of a spawn that goes well. -/
def smoothly : Op → Choice
  | .store (.commitSpawnIntent _ _ _) => .time 7
  | .store (.abortSpawnIntent _ _) => .time 7
  | .os .now => .time 6
  | .os .rounds => .count 0
  | .os (.logAvailability _) => .logs .unavailable
  | .os (.launchShim _) => .launch 40 (some "out")
  | _ => .run

/-- `n` operations of a thread. -/
def threadRan (t n : Nat) : List ExchangeStep := List.replicate n (.run t smoothly)

/-- `n` operations of the handler of a copy. -/
def copyRan (m n : Nat) : List ExchangeStep := List.replicate n (.copy m smoothly)

def sampleReady : ShimReady := ⟨sampleId, 40, 41, 3, none⟩

/-- A spawn up to the launch request of its shim, whose spec thread 2 has taken. -/
def launched : List ExchangeStep :=
  .start .boot :: threadRan 0 5 ++ .start (.spawn sampleCall) :: threadRan 1 10 ++
    .start (.shimLaunch sampleId) :: threadRan 2 1

/-- The spec arrives, and thread 3 hands the ready report of the shim to the spawn. -/
def reported : List ExchangeStep :=
  threadRan 2 1 ++ .env (.childStarts sampleId 41 3) :: .start (.shimReady sampleReady) ::
    threadRan 3 2

/-- A launch request comes twice. The reply to the ready report is lost, and two more come
when the spawn has written its running row: the first of them starts the watcher before the
spawn does, the second one once the runtime has ended. Two reports of the exit have read
the row alive when one of them writes it. -/
def copiesLate : List ExchangeStep :=
  launched ++ .resend (.shimLaunch sampleId) :: copyRan 0 1 ++ reported ++ .loseReply 3 ::
    threadRan 1 4 ++ .resend (.shimReady sampleReady) :: .resend (.shimReady sampleReady) ::
    copyRan 1 4 ++ copyRan 2 2 ++ threadRan 1 10 ++
    .env (.childEnds sampleId ⟨some 0, none⟩) ::
    .start (.shimExit ⟨sampleId, ⟨some 0, none⟩⟩) :: threadRan 4 1 ++
    .resend (.shimExit ⟨sampleId, ⟨some 0, none⟩⟩) :: copyRan 3 1 ++ threadRan 4 5 ++
    copyRan 3 4 ++ copyRan 2 2 ++ .watch sampleId :: copyRan 4 1

/-- The second copy comes before the spawn has gone on. -/
def copyEarly : List ExchangeStep :=
  launched ++ reported ++ .resend (.shimReady sampleReady) :: copyRan 0 6 ++ threadRan 3 1 ++
    threadRan 1 14

end LittleOrgans.Concurrency
