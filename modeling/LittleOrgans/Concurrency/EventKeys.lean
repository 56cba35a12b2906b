import LittleOrgans.Concurrency.Effects

/-!
# Keys of the event log

An event has a key, and the log takes an event of a new key only. No two events of the log
have the same key, along every run (`keysOnce_of_reaches`). A log that was opened again knows
the keys of its events and no others; an append that fails half-way can leave a key that is
known without its event (`RecordsOnce.exec`).
-/

set_option autoImplicit false

namespace LittleOrgans.Concurrency

open LittleOrgans.Core
open LittleOrgans.Library
open LittleOrgans.Store
open LittleOrgans.Daemon
open LittleOrgans.Runtime (EventLogKey)

/-! ## Appends -/

/-- An append that fails, and one that succeeds. -/
theorem LogOp.exec_appendEvent {choice : Choice} {log log' : EventLog} {event : RuntimeEvent}
    {r : Except DaemonError RuntimeEvent}
    (h : (LogOp.appendEvent event).exec choice log = some (r, log')) :
    (∃ stage e, choice = .appendFault stage e ∧ log.appendFailed event stage = some log') ∨
      r = .ok event ∧ log' = log.append event := by
  cases choice with
  | appendFault stage e =>
      obtain ⟨failed, hfailed, hresult⟩ := Option.map_eq_some_iff.mp h
      cases hresult
      exact .inl ⟨stage, e, rfl, hfailed⟩
  | run =>
      cases h
      exact .inr ⟨rfl, rfl⟩
  | _ => cases h

namespace EventLog

/-- The keys of the events, in their order. -/
def eventKeys (log : EventLog) : List EventLogKey :=
  log.events.map fun entry => .fromEvent entry.event

/-- No two events have the same key, and every key is known. -/
structure KeysOnce (log : EventLog) : Prop where
  nodup : log.eventKeys.Nodup
  known : ∀ key ∈ log.eventKeys, key ∈ log.seenEventKeys

/-- The log has one event of a known key and none of another. -/
def RecordsOnce (log : EventLog) (key : EventLogKey) : Prop :=
  log.eventKeys.count key = if key ∈ log.seenEventKeys then 1 else 0

theorem eventKeys_openWith (events : List EventLogEntry) :
    (openWith events).seenEventKeys = (openWith events).eventKeys := rfl

theorem KeysOnce.append {log : EventLog} (h : log.KeysOnce) (event : RuntimeEvent) :
    (log.append event).KeysOnce := by
  rw [EventLog.append]
  split
  · exact h
  · next hnew =>
      have hkeys : ∀ entry : EventLogEntry, entry.event = event →
          (log.events ++ [entry]).map (fun entry => EventLogKey.fromEvent entry.event) =
            log.eventKeys ++ [.fromEvent event] := by
        rintro entry rfl
        rw [List.map_append]
        rfl
      refine ⟨?_, fun key hkey => ?_⟩
      · rw [eventKeys, hkeys _ rfl]
        refine List.nodup_append.mpr ⟨h.nodup, List.nodup_singleton _, ?_⟩
        intro key hkey new hmem
        rw [List.mem_singleton.mp hmem]
        rintro rfl
        exact hnew (h.known _ hkey)
      · rw [eventKeys, hkeys _ rfl] at hkey
        rcases List.mem_append.mp hkey with hold | hlast
        · exact List.mem_cons_of_mem _ (h.known key hold)
        · rw [List.mem_singleton.mp hlast]
          exact List.mem_cons_self

theorem KeysOnce.appendFailed {log log' : EventLog} (h : log.KeysOnce) {event : RuntimeEvent}
    {stage : AppendFault} (hfailed : log.appendFailed event stage = some log') :
    log'.KeysOnce := by
  cases stage with
  | untouched =>
      cases hfailed
      exact h
  | unwritten =>
      rw [EventLog.appendFailed] at hfailed
      split at hfailed
      · cases hfailed
      · cases hfailed
        exact ⟨h.nodup, fun key hkey => List.mem_cons_of_mem _ (h.known key hkey)⟩
  | recorded =>
      rw [EventLog.appendFailed] at hfailed
      split at hfailed
      · cases hfailed
      · cases hfailed
        exact h.append event

theorem KeysOnce.exec {choice : Choice} {log log' : EventLog} (h : log.KeysOnce) {o : LogOp}
    {r : Except DaemonError o.Res} (hexec : o.exec choice log = some (r, log')) :
    log'.KeysOnce := by
  cases o with
  | pollEvents since =>
      rw [← (Prod.mk.inj (Choice.ran_eq_some.mp hexec).2).2]
      exact h
  | appendEvent event =>
      rcases LogOp.exec_appendEvent hexec with ⟨stage, e, -, hfailed⟩ | ⟨-, rfl⟩
      · exact h.appendFailed hfailed
      · exact h.append event

/-- A log that was opened again knows the keys of its events and no others. -/
theorem KeysOnce.openWith {log : EventLog} (h : log.KeysOnce) (key : EventLogKey) :
    (EventLog.openWith log.events).RecordsOnce key := by
  rw [RecordsOnce, eventKeys_openWith]
  exact h.nodup.count

theorem RecordsOnce.append {log : EventLog} {key : EventLogKey} (h : log.RecordsOnce key)
    (event : RuntimeEvent) : (log.append event).RecordsOnce key := by
  rw [EventLog.append]
  split
  · exact h
  · next hnew =>
      rw [RecordsOnce, eventKeys] at h ⊢
      rw [List.map_append, List.count_append, h]
      by_cases hkey : key = .fromEvent event
      · subst hkey
        simp [hnew]
      · simp [hkey, Ne.symm hkey]

/-- An append that fails when it has taken the key of its event leaves the key without an
event. -/
theorem RecordsOnce.exec {choice : Choice} {log log' : EventLog} {key : EventLogKey}
    (h : log.RecordsOnce key) {o : LogOp} {r : Except DaemonError o.Res}
    (hfault : ∀ e, choice ≠ .appendFault .unwritten e)
    (hexec : o.exec choice log = some (r, log')) : log'.RecordsOnce key := by
  cases o with
  | pollEvents since =>
      rw [← (Prod.mk.inj (Choice.ran_eq_some.mp hexec).2).2]
      exact h
  | appendEvent event =>
      rcases LogOp.exec_appendEvent hexec with ⟨stage, e, rfl, hfailed⟩ | ⟨-, rfl⟩
      · cases stage with
        | untouched =>
            cases hfailed
            exact h
        | unwritten => exact absurd rfl (hfault e)
        | recorded =>
            rw [EventLog.appendFailed] at hfailed
            split at hfailed
            · cases hfailed
            · cases hfailed
              exact h.append event
      · exact h.append event

/-- Behind an append the log has the event once. -/
theorem RecordsOnce.count_append {log : EventLog} {event : RuntimeEvent}
    (h : log.RecordsOnce (.fromEvent event)) :
    (log.append event).eventKeys.count (.fromEvent event) = 1 := by
  rw [EventLog.append]
  split
  · next hknown => rw [h, if_pos hknown]
  · next hnew =>
      rw [eventKeys, List.map_append, List.count_append]
      rw [RecordsOnce, eventKeys, if_neg hnew] at h
      rw [h]
      simp

end EventLog

/-! ## Runs of the daemon -/

/-- The log of the daemon has every event once, along every run. -/
theorem keysOnce : Pool.Invariant watched (.none watched) fun w _ => w.log.KeysOnce where
  op {w _ _ _ _ choice o r w'} h _ _ _ hexec := by
    cases o with
    | store o =>
        obtain ⟨db, -, rfl⟩ := Op.exec_store hexec
        exact h
    | memory o =>
        rw [MemoryOp.frame hexec]
        exact h
    | os o =>
        rw [OsOp.frame hexec]
        exact h
    | log o =>
        obtain ⟨log, hlog, rfl⟩ := Op.exec_log hexec
        exact h.exec hlog
  start h _ hstart _ := by
    rw [World.start_frame hstart]
    exact h
  env h _ henv := by
    rw [World.env_frame henv]
    exact h
  crash h _ := ⟨h.nodup, fun _ hkey => hkey⟩

theorem keysOnce_of_reaches {createdAt : DateTime} {c : Pool watched}
    (hreach : Pool.Reaches (.none watched) (.initial watched (.fresh createdAt)) c) :
    c.shared.log.KeysOnce := by
  have hfresh : (World.fresh createdAt).log.KeysOnce := ⟨List.nodup_nil, fun _ hkey => hkey⟩
  obtain ⟨-, -, hkeys⟩ := Pool.Reaches.invariant keysOnce (Pool.holds_initial hfresh) hreach
  exact hkeys

end LittleOrgans.Concurrency
