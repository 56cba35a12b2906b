import LittleOrgans.Concurrency.PaneOccupancy
import LittleOrgans.Concurrency.ShimDuties

/-!
# Shims the daemon tracks

The pids of the shims that shutdown signals are kept in a table of their own. A spawn
enters its shim behind its running row, a recorder removes it behind its terminal row, and
neither looks at the row again. In every run in which the two keep up with the rows
(`keepsUp`), the tracked shims are, as soon as no program is under way, those the
daemon has recorded of lifecycles that have not ended (`shims_tracked`). A runtime that
exits before its spawn has tracked the shim leaves a pid that shutdown signals although
the row has ended (`ended_shim_drained`).
-/

set_option autoImplicit false

namespace LittleOrgans.Concurrency

open LittleOrgans.Core
open LittleOrgans.Library
open LittleOrgans.Library.Pool
open LittleOrgans.Store
open LittleOrgans.Daemon

/-- The shim of a session's lifecycle, while it has not ended. -/
def liveShim (db : Database) (id : SessionId) : Option Pid := (db.getLifecycle id).bind shimOf

/-- `drain_shims`: the pids it signals, and what it leaves. -/
def drainShims (m : RuntimeMemory) : List Pid × RuntimeMemory :=
  (m.shimPids.rows.map Prod.snd, { m with shimPids := .empty })

/-- What the programs of the daemon owe the table. -/
abbrev Debts := Nat → Option (DaemonTask × Duty)

/-- Some program of this daemon has written the reported shim into the row of the session. -/
def RecordedShim (debts : Debts) (id : SessionId) (pid : Pid) : Prop :=
  Somewhere debts fun φ => (id, pid) ∈ φ.recorded

/-- Some program has still to track this shim. -/
def TracksShim (debts : Debts) (id : SessionId) (pid : Pid) : Prop :=
  Somewhere debts fun φ => φ.track = some (id, pid)

/-- Some program has still to forget the shim of the session. -/
def ForgetsShim (debts : Debts) (id : SessionId) : Prop :=
  Somewhere debts fun φ => φ.forget = some id

/-- The tracked shims are those the daemon has recorded of lifecycles that have not ended. -/
def TracksLiveShims (c : Pool dutyWatch) : Prop :=
  ∀ id pid, c.shared.runtime.shimPids.lookup id = some pid ↔
    RecordedShim c.minds id pid ∧ liveShim c.shared.db id = some pid

/-- Shutdown signals shims of lifecycles that have not ended only. -/
def DrainsLiveShims (w : World) : Prop :=
  ∀ pid ∈ (drainShims w.runtime).1, ∃ id, liveShim w.db id = some pid

/-! ## When the table keeps up with the rows -/

/-- The environment makes the operation fail. -/
def Choice.fails : Choice → Bool
  | .fault _ => true
  | .appendFault _ _ => true
  | _ => false

/-- The session has no tracked shim, or its lifecycle has ended. -/
def mayForget (w : World) (id : SessionId) : Bool :=
  !w.runtime.shimPids.contains id || (liveShim w.db id).isNone

/-- A shim is tracked while its row has not ended, and forgotten when it has; no running row
is written by the handler of an unawaited report, or by a commit over one that has changed. -/
def keepsUpWith (φ : Duty) (w : World) : Op → Bool
  | .memory (.trackShim id pid) => liveShim w.db id = some pid
  | .memory (.forgetShim id) => mayForget w id
  | .store (.deleteLifecycle id) => mayForget w id
  | .store (.abortSpawnIntent id _) => mayForget w id
  | .store (.updateLifecycle lc) => !φ.unawaited || (shimOf lc).isNone
  | .store (.commitSpawnIntent _ _ lc) => shimOf lc = liveShim w.db lc.sessionId
  | _ => true

/-- The table keeps up with the rows, and no operation fails between a running row and the
entry of its shim. -/
def keepsUp : Condition dutyWatch where
  op φ choice o w := (choice.fails = true → φ.track = none) ∧ keepsUpWith φ w o = true

/-! ## Reports and their channels -/

/-- A report bears the session of its channel. -/
structure ReportsNamed (w : World) (debts : Debts) : Prop where
  sent : ∀ channel ready, w.runtime.channels.lookup channel = some (.sent ready) →
    ready.sessionId = channel.sessionId
  received : ∀ t task φ, debts t = some (task, φ) → ∀ entry ∈ φ.readies,
    entry.2.sessionId = entry.1

theorem dropSender_eq_sent {channel : ReadyChannel} {ready : ShimReady}
    (h : channel.dropSender = .sent ready) : channel = .sent ready := by
  cases channel with
  | sent other => exact h
  | _ => cases h

/-- A change that sends nothing. -/
theorem sent_of_modify {channels : Table ChannelId ReadyChannel} {changed channel : ChannelId}
    {f : ReadyChannel → ReadyChannel} {ready : ShimReady}
    (hf : ∀ c, f c = .sent ready → c = .sent ready)
    (h : (channels.modify changed f).lookup channel = some (.sent ready)) :
    channels.lookup channel = some (.sent ready) := by
  rw [Table.lookup_modify] at h
  split at h
  · next heq =>
      subst heq
      obtain ⟨before, hbefore, hsent⟩ := Option.map_eq_some_iff.mp h
      rw [hbefore, hf before hsent]
  · exact h

theorem sent_newChannel {m : RuntimeMemory} {id : SessionId} {channel : ChannelId}
    {ready : ShimReady}
    (h : (MemoryOp.newChannel m id).2.channels.lookup channel = some (.sent ready)) :
    m.channels.lookup channel = some (.sent ready) := by
  simp only [MemoryOp.newChannel] at h
  rw [Table.lookup_upsert] at h
  split at h
  · cases h
  · cases hprevious : m.pendingReady.lookup id with
    | none =>
        rw [hprevious] at h
        exact h
    | some serial =>
        rw [hprevious] at h
        exact sent_of_modify (fun _ => dropSender_eq_sent) h

/-- A wait finds the report its channel holds, or none. -/
theorem waitFor_eq_some {choice : Choice} {m m' : RuntimeMemory} {channel : ChannelId}
    {waited : ReadyWait} (h : MemoryOp.waitFor choice m channel = some (waited, m')) :
    m'.shimPids = m.shimPids ∧
      (∀ ready, waited = .ready ready → m.channels.lookup channel = some (.sent ready)) ∧
      ∀ other ready, m'.channels.lookup other = some (.sent ready) →
        m.channels.lookup other = some (.sent ready) := by
  unfold MemoryOp.waitFor at h
  split at h
  · next ready hsent =>
      simp only [Choice.ran_eq_some, Prod.mk.injEq] at h
      obtain ⟨-, rfl, rfl⟩ := h
      refine ⟨rfl, ?_, fun _ _ hother => hother⟩
      rintro _ ⟨⟩
      exact hsent
  · simp only [Choice.ran_eq_some, Prod.mk.injEq] at h
    obtain ⟨-, rfl, rfl⟩ := h
    exact ⟨rfl, nofun, fun _ _ hother => hother⟩
  · split at h
    · cases h
      refine ⟨rfl, nofun, fun _ _ hother => ?_⟩
      exact sent_of_modify (f := fun _ => .receiverDropped) (fun _ => nofun) hother
    · cases h
  · cases h
  · cases h

section Steps

variable {choice : Choice} {w w' : World} {o : Op} {r : Except DaemonError o.Res} {φ : Duty}

/-- Operations on the channels of the ready reports. -/
def MemoryOp.onChannels : MemoryOp → Bool
  | .insertPendingReady _ => true
  | .dropSender _ => true
  | .dropReceiver _ => true
  | .sendReady _ _ => true
  | .awaitReady _ => true
  | _ => false

/-- Operations on the table of the tracked shims. -/
def MemoryOp.onShims : MemoryOp → Bool
  | .trackShim _ _ => true
  | .forgetShim _ => true
  | _ => false

theorem run_keeps {o : MemoryOp} {a : o.Res} (h : o.run choice w = some (a, w')) :
    (o.onChannels = false → w'.runtime.channels = w.runtime.channels) ∧
      (o.onShims = false → w'.runtime.shimPids = w.runtime.shimPids) := by
  cases o with
  | sendReady channel ready =>
      rw [MemoryOp.run] at h
      split at h <;> simp only [Choice.ran_eq_some, Prod.mk.injEq] at h <;> rw [← h.2.2] <;>
        exact ⟨fun hc => (by cases hc), fun _ => rfl⟩
  | startExitWatcher id pid =>
      rw [MemoryOp.run] at h
      split at h <;> simp only [Choice.ran_eq_some, Prod.mk.injEq] at h <;> rw [← h.2.2] <;>
        exact ⟨fun _ => rfl, fun _ => rfl⟩
  | awaitReady channel =>
      obtain ⟨⟨found, m⟩, hwait, hresult⟩ := Option.map_eq_some_iff.mp h
      cases hresult
      exact ⟨fun hc => (by cases hc), fun _ => (waitFor_eq_some hwait).1⟩
  | loopCursor =>
      rw [MemoryOp.run] at h
      split at h
      · simp only [Choice.ran_eq_some, Prod.mk.injEq] at h
        rw [← h.2.2]
        exact ⟨fun _ => rfl, fun _ => rfl⟩
      · cases h
      · cases h
  | _ =>
      simp only [MemoryOp.run, Choice.ran_eq_some, Prod.mk.injEq] at h
      rw [← h.2.2]
      first
        | exact ⟨fun _ => rfl, fun _ => rfl⟩
        | exact ⟨fun hc => (by cases hc), fun _ => rfl⟩
        | exact ⟨fun _ => rfl, fun hs => by cases hs⟩

theorem sent_run {o : MemoryOp} {a : o.Res} (h : o.run choice w = some (a, w'))
    {channel : ChannelId} {ready : ShimReady}
    (hsent : w'.runtime.channels.lookup channel = some (.sent ready)) :
    w.runtime.channels.lookup channel = some (.sent ready) ∨ o = .sendReady channel ready := by
  by_cases hkeeps : o.onChannels = false
  · rw [(run_keeps h).1 hkeeps] at hsent
    exact .inl hsent
  cases o with
  | insertPendingReady id =>
      simp only [MemoryOp.run, Choice.ran_eq_some, Prod.mk.injEq] at h
      rw [← h.2.2] at hsent
      exact .inl (sent_newChannel hsent)
  | dropSender dropped =>
      simp only [MemoryOp.run, Choice.ran_eq_some, Prod.mk.injEq] at h
      rw [← h.2.2] at hsent
      exact .inl (sent_of_modify (fun _ => dropSender_eq_sent) hsent)
  | dropReceiver dropped =>
      simp only [MemoryOp.run, Choice.ran_eq_some, Prod.mk.injEq] at h
      rw [← h.2.2] at hsent
      refine .inl (sent_of_modify (f := fun _ => .receiverDropped) (fun _ hc => ?_) hsent)
      cases hc
  -- the one operation that sends a report
  | sendReady sender report =>
      rw [MemoryOp.run] at h
      split at h
      · simp only [Choice.ran_eq_some, Prod.mk.injEq] at h
        rw [← h.2.2] at hsent
        dsimp only at hsent
        by_cases hreport : report = ready
        · by_cases hchannel : sender = channel
          · exact .inr (by rw [hreport, hchannel])
          · rw [Table.lookup_modify, if_neg (Ne.symm hchannel)] at hsent
            exact .inl hsent
        · exact .inl (sent_of_modify (fun _ hc => absurd (ReadyChannel.sent.inj hc) hreport) hsent)
      · simp only [Choice.ran_eq_some, Prod.mk.injEq] at h
        rw [← h.2.2] at hsent
        exact .inl hsent
  | awaitReady receiver =>
      obtain ⟨⟨waited, m⟩, hwait, hresult⟩ := Option.map_eq_some_iff.mp h
      cases hresult
      exact .inl ((waitFor_eq_some hwait).2.2 channel ready hsent)
  -- the rest does not touch the channels
  | _ => exact absurd rfl hkeeps

/-- A report that waits in a channel was there before, or is sent now. -/
theorem sent_exec (h : o.exec choice w = some (r, w')) {channel : ChannelId} {ready : ShimReady}
    (hsent : w'.runtime.channels.lookup channel = some (.sent ready)) :
    w.runtime.channels.lookup channel = some (.sent ready) ∨
      o = .memory (.sendReady channel ready) := by
  cases o with
  | store o =>
      obtain ⟨db, -, rfl⟩ := Op.exec_store h
      exact .inl hsent
  | log o =>
      obtain ⟨log, -, rfl⟩ := Op.exec_log h
      exact .inl hsent
  | os o =>
      rw [OsOp.frame h] at hsent
      exact .inl hsent
  | memory o =>
      cases r with
      | error e =>
          rw [(MemoryOp.exec_error h).1] at hsent
          exact .inl hsent
      | ok a => exact (sent_run (MemoryOp.exec_ok h) hsent).imp_right (congrArg Op.memory)

/-- A program receives what its channel holds. -/
theorem received_exec (h : o.exec choice w = some (r, w')) {entry : SessionId × ShimReady}
    (hentry : entry ∈ (φ.next o r).readies) :
    entry ∈ φ.readies ∨ ∃ channel, channel.sessionId = entry.1 ∧
      w.runtime.channels.lookup channel = some (.sent entry.2) := by
  by_cases hawait : ∃ channel, o = .memory (.awaitReady channel)
  · obtain ⟨channel, rfl⟩ := hawait
    cases r with
    | error e => exact .inl hentry
    | ok waited =>
        obtain ⟨⟨found, m⟩, hwait, hresult⟩ := Option.map_eq_some_iff.mp (MemoryOp.exec_ok h)
        cases hresult
        cases found with
        | elapsed => exact .inl hentry
        | closed => exact .inl hentry
        | ready ready =>
            rcases List.mem_cons.mp hentry with rfl | hbefore
            · exact .inr ⟨channel, rfl, (waitFor_eq_some hwait).2.1 ready rfl⟩
            · exact .inl hbefore
  · rw [Duty.readies_next fun channel ho => hawait ⟨channel, ho⟩] at hentry
    exact .inl hentry

theorem reportsNamed_exec {debts : Debts} {t : Nat} {task : DaemonTask}
    (hnamed : ReportsNamed w debts) (hmind : debts t = some (task, φ)) (hallows : φ.allows o)
    (h : o.exec choice w = some (r, w')) :
    ReportsNamed w' (Function.update debts t (some (task, φ.next o r))) := by
  constructor
  · intro channel ready hsent
    rcases sent_exec h hsent with hbefore | rfl
    · exact hnamed.sent channel ready hbefore
    · exact hallows.2
  · intro t' task' φ' hmind' entry hentry
    rcases of_update hmind' with ⟨-, heq⟩ | ⟨-, hother⟩
    · cases heq
      rcases received_exec h hentry with hbefore | ⟨channel, hchannel, hsent⟩
      · exact hnamed.received t task φ hmind entry hbefore
      · rw [← hchannel]
        exact hnamed.sent channel entry.2 hsent
    · exact hnamed.received t' task' φ' hother entry hentry

end Steps

theorem reportsNamed : Pool.Invariant dutyWatch (.none dutyWatch) ReportsNamed where
  op h hmind hallows _ hexec := reportsNamed_exec h hmind hallows hexec
  start := by
    intro w debts t task w' h _ hstart hfree
    constructor
    · rw [(World.startTask_frame hstart).2.2]
      exact h.sent
    · intro t' task' φ hmind entry hentry
      rcases of_update hmind with ⟨-, heq⟩ | ⟨-, hother⟩
      · obtain ⟨u, hfirst⟩ := Duty.first_eq task
        rw [(Prod.mk.inj heq).2.trans hfirst] at hentry
        cases hentry
      · exact h.received t' task' φ hother entry hentry
  env := by
    intro w debts event w' h _ henv
    rw [World.taskEnv_frame henv]
    exact ⟨h.sent, h.received⟩
  crash := by
    intro w debts _ _
    constructor
    · intro channel ready hsent
      cases hsent
    · intro t task φ hmind
      cases hmind

/-! ## The rows and the table -/

@[simp]
theorem shimOf_storedLifecycle (lc : Lifecycle) : shimOf (storedLifecycle lc) = shimOf lc := rfl

section Steps

variable {choice : Choice} {w w' : World} {o : Op} {r : Except DaemonError o.Res} {φ : Duty}

/-- What an operation that keeps up with the rows did to the shim of a session's row. -/
inductive ShimStep (o : Op) (r : Except DaemonError o.Res) (w w' : World) (id : SessionId) :
    Prop where
  | same (hlive : liveShim w'.db id = liveShim w.db id)
  | updated (lc : Lifecycle) (ho : o = .store (.updateLifecycle lc)) (hok : r.isOk = true)
  | removed (hforget : mayForget w id = true) (hlive : liveShim w'.db id = none)

theorem mayForget_of_deletes (hkeeps : keepsUpWith φ w o = true) {id : SessionId}
    (h : o.deletes = some id) : mayForget w id = true := by
  cases o with
  | store o =>
      cases o with
      | deleteLifecycle id' =>
          cases h
          exact hkeeps
      | abortSpawnIntent id' reason =>
          cases h
          exact hkeeps
      | _ => cases h
  | memory o => cases h
  | log o => cases h
  | os o => cases h

/-- A row that is inserted has no shim. -/
theorem liveShim_inserted {o : StoreOp} {a : o.Res} {db db' : Database} {lc : Lifecycle}
    (hallows : φ.allows (.store o)) (h : o.Effect db db' a) (hlc : Op.writes (.store o) = some lc)
    (hupdate : o ≠ .updateLifecycle lc)
    (hcommit : ∀ id session, o ≠ .commitSpawnIntent id session lc) :
    liveShim db lc.sessionId = none ∧ shimOf lc = none := by
  cases o with
  | insertForking row =>
      cases hlc
      rw [liveShim, (Database.insertForking_eq_ok h).2.1]
      exact ⟨rfl, hallows.2⟩
  | beginSpawnIntent intent =>
      cases hlc
      have hnone : db.getLifecycle (Database.forkingLifecycle intent).sessionId = none :=
        (Database.beginSpawnIntent_eq_ok h).2.1
      rw [liveShim, hnone]
      exact ⟨rfl, rfl⟩
  | updateLifecycle row =>
      cases hlc
      exact absurd rfl hupdate
  | commitSpawnIntent id session row =>
      cases hlc
      exact absurd rfl (hcommit id session)
  | _ => cases hlc

theorem shimStep_written {lc : Lifecycle} (hallows : φ.allows o) (hkeeps : keepsUpWith φ w o = true)
    (h : o.exec choice w = some (r, w')) (hok : r.isOk = true) (hlc : o.writes = some lc)
    (hlive : liveShim w'.db lc.sessionId = shimOf lc) : ShimStep o r w w' lc.sessionId := by
  cases o with
  | memory o => cases hlc
  | log o => cases hlc
  | os o => cases hlc
  | store o =>
      obtain ⟨db, hrun, rfl⟩ := Op.exec_store h
      cases r with
      | error e => cases hok
      | ok a =>
          by_cases hupdate : o = .updateLifecycle lc
          · exact .updated lc (congrArg Op.store hupdate) rfl
          by_cases hcommit : ∃ id session, o = .commitSpawnIntent id session lc
          · obtain ⟨id, session, rfl⟩ := hcommit
            exact .same (hlive.trans (of_decide_eq_true hkeeps))
          · obtain ⟨hbefore, hnone⟩ := liveShim_inserted hallows (StoreOp.exec_ok hrun) hlc hupdate
              fun id session ho => hcommit ⟨id, session, ho⟩
            exact .same (by rw [hlive, hbefore, hnone])

theorem shimStep (hallows : φ.allows o) (hkeeps : keepsUpWith φ w o = true)
    (h : o.exec choice w = some (r, w')) (id : SessionId) : ShimStep o r w w' id := by
  cases Op.rowStep h id with
  | same hrow => exact .same (by rw [liveShim, hrow, liveShim])
  | deleted hdeletes hrow =>
      refine .removed (mayForget_of_deletes hkeeps hdeletes) ?_
      rw [liveShim, hrow, Option.bind_none]
  | written lc hok hlc hid hrow =>
      subst hid
      refine shimStep_written hallows hkeeps h hok hlc ?_
      rw [liveShim, hrow, Option.bind_some, shimOf_storedLifecycle]

/-- Of the operations, those that track and forget change the table. -/
theorem shimPids_exec (h : o.exec choice w = some (r, w'))
    (htrack : ∀ id pid, o ≠ .memory (.trackShim id pid))
    (hforget : ∀ id, o ≠ .memory (.forgetShim id)) :
    w'.runtime.shimPids = w.runtime.shimPids := by
  cases o with
  | store o =>
      obtain ⟨db, -, rfl⟩ := Op.exec_store h
      rfl
  | log o =>
      obtain ⟨log, -, rfl⟩ := Op.exec_log h
      rfl
  | os o => rw [OsOp.frame h]
  | memory o =>
      cases r with
      | error e => rw [(MemoryOp.exec_error h).1]
      | ok a =>
          refine (run_keeps (MemoryOp.exec_ok h)).2 ?_
          cases o with
          | trackShim id pid => exact absurd rfl (htrack id pid)
          | forgetShim id => exact absurd rfl (hforget id)
          | _ => rfl

/-- An operation that a program calls while it owes the entry of a shim fails only by a
choice of the environment. -/
theorem track_of_error {e : DaemonError} {r : Except DaemonError o.Res} (hallows : φ.allows o)
    (hfails : choice.fails = true → φ.track = none)
    (htrack : ∀ id pid, o ≠ .memory (.trackShim id pid))
    (h : o.exec choice w = some (r, w')) (hr : r = .error e) : φ.track = none := by
  subst hr
  cases o with
  -- an error of any other operation may come only when nothing is left to track
  | os o => exact hallows
  | store o =>
      cases o with
      | insertForking lc => exact hallows.1
      | updateLifecycle lc => exact hallows.1
      | _ => exact hallows
  | log o =>
      cases o with
      | pollEvents since => exact hallows
      | appendEvent event =>
          obtain ⟨log, hrun, -⟩ := Op.exec_log h
          cases choice with
          -- a failed append is excluded by the condition, and an append that runs does not fail
          | appendFault stage fault => exact hfails rfl
          | run =>
              simp only [LogOp.exec, Choice.ran_eq_some, Prod.mk.injEq] at hrun
              cases hrun.2.1
          | _ => cases hrun
  | memory o =>
      cases o with
      | trackShim id pid => exact absurd rfl (htrack id pid)
      -- a failed start of a watcher is excluded as well
      | forgetShim id => exact hallows.1
      | sendReady channel ready => exact hallows.1
      | startExitWatcher id pid =>
          cases choice with
          | fault fault => exact hfails rfl
          | _ =>
              obtain ⟨result, -, hresult⟩ := Option.map_eq_some_iff.mp h
              cases hresult
      | _ => exact hallows

/-- The other operations change nothing that is owed. -/
theorem owes_next (hanswered : ∀ e, r = .error e → φ.track = none)
    (hupdate : ∀ lc, o = .store (.updateLifecycle lc) → r.isOk = false)
    (htrack : ∀ id pid, o ≠ .memory (.trackShim id pid))
    (hforget : ∀ id, o ≠ .memory (.forgetShim id)) :
    (φ.next o r).recorded = φ.recorded ∧ (φ.next o r).track = φ.track ∧
      (φ.next o r).forget = φ.forget := by
  cases r with
  | error e =>
      have hnone : φ.tracked.track = φ.track := (hanswered e rfl).symm
      cases o with
      | log o => exact ⟨rfl, hnone, rfl⟩
      | os o => exact ⟨rfl, hnone, rfl⟩
      | store o => cases o <;> exact ⟨rfl, hnone, rfl⟩
      | memory o =>
          cases o with
          | forgetShim id => exact absurd rfl (hforget id)
          | _ => exact ⟨rfl, hnone, rfl⟩
  | ok a =>
      cases o with
      | log o => exact ⟨rfl, rfl, rfl⟩
      | os o => exact ⟨rfl, rfl, rfl⟩
      | store o =>
          cases o with
          | updateLifecycle lc => cases hupdate lc rfl
          | _ => exact ⟨rfl, rfl, rfl⟩
      | memory o =>
          cases o with
          | trackShim id pid => exact absurd rfl (htrack id pid)
          | forgetShim id => exact absurd rfl (hforget id)
          | awaitReady channel => cases a <;> exact ⟨rfl, rfl, rfl⟩
          | _ => exact ⟨rfl, rfl, rfl⟩

end Steps

/-! ## The invariant -/

/-- A program still owes the table a change for the session. -/
def Owed (debts : Debts) (id : SessionId) : Prop :=
  ForgetsShim debts id ∨ ∃ pid, TracksShim debts id pid

/-- A tracked shim was recorded, and is that of a row that has not ended unless a program
owes the table a change; a recorded shim of such a row is tracked, or will be. -/
structure Tracking (w : World) (debts : Debts) : Prop where
  tracked : ∀ id pid, w.runtime.shimPids.lookup id = some pid →
    RecordedShim debts id pid ∧ (liveShim w.db id = some pid ∨ Owed debts id)
  recorded : ∀ id pid, RecordedShim debts id pid → liveShim w.db id = some pid →
    w.runtime.shimPids.lookup id = some pid ∨ TracksShim debts id pid

section Steps

variable {choice : Choice} {w w' : World} {o : Op} {r : Except DaemonError o.Res} {φ φ' : Duty}
  {debts : Debts} {t : Nat} {task : DaemonTask} {id : SessionId}

theorem Owed.next (h : Owed debts id) (hmind : debts t = some (task, φ))
    (hforget : φ.forget = some id → φ'.forget = some id)
    (htrack : ∀ pid, φ.track = some (id, pid) → φ'.track = some (id, pid)) :
    Owed (Function.update debts t (some (task, φ'))) id := by
  rcases h with hforgets | ⟨pid, htracks⟩
  · exact .inl (Somewhere.next hforgets hmind hforget)
  · exact .inr ⟨pid, Somewhere.next htracks hmind (htrack pid)⟩

/-- What the program knows of recorded shims, as before. -/
theorem RecordedShim.before {pid : Pid}
    (h : RecordedShim (Function.update debts t (some (task, φ'))) id pid)
    (hmind : debts t = some (task, φ)) (hrecorded : φ'.recorded = φ.recorded) :
    RecordedShim debts id pid := by
  rcases h.of_update with hself | hother
  · refine ⟨t, task, φ, hmind, ?_⟩
    show (id, pid) ∈ φ.recorded
    rw [← hrecorded]
    exact hself
  · exact hother

/-- A step after which as much is owed and recorded as before. -/
theorem Tracking.same (h : Tracking w debts) (hmind : debts t = some (task, φ))
    (hpids : w'.runtime.shimPids = w.runtime.shimPids)
    (hlive : ∀ id, liveShim w'.db id = liveShim w.db id ∨
      mayForget w id = true ∧ liveShim w'.db id = none)
    (howes : φ'.recorded = φ.recorded ∧ φ'.track = φ.track ∧ φ'.forget = φ.forget) :
    Tracking w' (Function.update debts t (some (task, φ'))) := by
  obtain ⟨hrecorded, htrack, hforget⟩ := howes
  constructor
  · intro id pid hpid
    rw [hpids] at hpid
    obtain ⟨hsome, hbefore⟩ := h.tracked id pid hpid
    refine ⟨hsome.next hmind fun hmem => by rw [hrecorded]; exact hmem, ?_⟩
    have howed : Owed debts id → Owed (Function.update debts t (some (task, φ'))) id := fun ho =>
      ho.next hmind (fun hf => hforget.trans hf) fun pid ht => htrack.trans ht
    rcases hbefore with hbefore | hbefore
    · rcases hlive id with hsame | ⟨hmay, -⟩
      · exact .inl (hsame.trans hbefore)
      · rw [mayForget, Table.contains, hpid, hbefore] at hmay
        cases hmay
    · exact .inr (howed hbefore)
  · intro id pid hsome hpid
    have hbefore : liveShim w.db id = some pid := by
      rcases hlive id with hsame | ⟨-, hnone⟩
      · rw [← hsame, hpid]
      · rw [hnone] at hpid
        cases hpid
    rcases h.recorded id pid (hsome.before hmind hrecorded) hbefore with htracked | htracks
    · exact .inl (by rw [hpids, htracked])
    · exact .inr (htracks.next hmind fun ht => htrack.trans ht)

/-- A running row was written, and its shim is to be tracked. -/
theorem Tracking.ran (h : Tracking w debts) (hmind : debts t = some (task, φ))
    (hrests : φ.Rests) (hawaited : φ.unawaited = false) {lc : Lifecycle} {pid : Pid}
    (hpids : w'.runtime.shimPids = w.runtime.shimPids)
    (hrow : liveShim w'.db lc.sessionId = some pid)
    (hothers : ∀ id, id ≠ lc.sessionId → liveShim w'.db id = liveShim w.db id) :
    Tracking w' (Function.update debts t (some (task, φ.record (lc.sessionId, pid)))) := by
  have htrack : (φ.record (lc.sessionId, pid)).track = some (lc.sessionId, pid) := by
    rw [Duty.track_record, hawaited]
    rfl
  -- what is tracked stays tracked: the new row's shim is now this task's to track
  have hnone : ∀ {id' pid'}, φ.track ≠ some (id', pid') := fun ht => by
    rw [hrests.1] at ht
    cases ht
  constructor
  · intro id pid' hpid
    rw [hpids] at hpid
    obtain ⟨hknown, hbefore⟩ := h.tracked id pid' hpid
    refine ⟨hknown.next hmind (List.mem_cons_of_mem _), ?_⟩
    by_cases hid : id = lc.sessionId
    · subst hid
      -- a live shim on record: the new one is owed by this task
      exact .inr (.inr ⟨pid, somewhere_self htrack⟩)
    · rw [hothers id hid]
      exact hbefore.imp_right fun howed =>
        howed.next hmind (fun hf => hf) fun pid ht => absurd ht hnone
  · intro id pid' hknown hpid
    by_cases hid : id = lc.sessionId
    · subst hid
      rw [hrow] at hpid
      cases hpid
      exact .inr (somewhere_self htrack)
    · rw [hothers id hid] at hpid
      have hbefore : RecordedShim debts id pid' := by
        rcases hknown.of_update with hself | hother
        -- the other shims were tracked or owed before, by whoever owed them
        · rcases List.mem_cons.mp hself with heq | hmem
          · exact absurd (Prod.mk.inj heq).1 hid
          · exact ⟨t, task, φ, hmind, hmem⟩
        · exact hother
      rw [hpids]
      exact (h.recorded id pid' hbefore hpid).imp_right fun htracks =>
        htracks.next hmind fun ht => absurd ht hnone

/-- A terminal row was written, and the shim is to be forgotten. -/
theorem Tracking.ended (h : Tracking w debts) (hmind : debts t = some (task, φ))
    (hrests : φ.Rests) {ended : SessionId} (hpids : w'.runtime.shimPids = w.runtime.shimPids)
    (hrow : liveShim w'.db ended = none)
    (hothers : ∀ id, id ≠ ended → liveShim w'.db id = liveShim w.db id) :
    Tracking w' (Function.update debts t (some (task, { φ with forget := some ended }))) := by
  constructor
  · intro id pid hpid
    rw [hpids] at hpid
    obtain ⟨hknown, hbefore⟩ := h.tracked id pid hpid
    refine ⟨hknown.next hmind fun hmem => hmem, ?_⟩
    by_cases hid : id = ended
    · subst hid
      exact .inr (.inl (somewhere_self rfl))
    · rw [hothers id hid]
      refine hbefore.imp_right fun howed => howed.next hmind (fun hf => ?_) fun pid ht => ht
      rw [hrests.2] at hf
      cases hf
  · intro id pid hknown hpid
    by_cases hid : id = ended
    · subst hid
      rw [hrow] at hpid
      cases hpid
    · rw [hothers id hid] at hpid
      rw [hpids]
      exact (h.recorded id pid (hknown.before hmind rfl) hpid).imp_right fun htracks =>
        htracks.next hmind fun ht => ht

/-- The shim of a row that has not ended was tracked. -/
theorem Tracking.paid (h : Tracking w debts) (hmind : debts t = some (task, φ)) {id : SessionId}
    {pid : Pid} (htrack : φ.track = some (id, pid)) (hrow : liveShim w.db id = some pid)
    (hdb : w'.db = w.db) (hpids : w'.runtime.shimPids = w.runtime.shimPids.upsert id pid) :
    Tracking w' (Function.update debts t (some (task, φ.tracked))) := by
  have hother : ∀ {id' pid'}, id' ≠ id → φ.track ≠ some (id', pid') := fun hne ht => by
    -- the shim in the map is the one of the row
    rw [htrack] at ht
    cases ht
    exact hne rfl
  constructor
  · intro id' pid' hpid
    rw [hpids, Table.lookup_upsert] at hpid
    rw [hdb]
    by_cases hid : id' = id
    · subst hid
      rw [if_pos rfl] at hpid
      cases hpid
      exact ⟨somewhere_self (φ.track_recorded _ htrack), .inl hrow⟩
    · rw [if_neg hid] at hpid
      -- and of the others nothing has changed
      obtain ⟨hknown, hbefore⟩ := h.tracked id' pid' hpid
      refine ⟨hknown.next hmind fun hmem => hmem, ?_⟩
      exact hbefore.imp_right fun howed =>
        howed.next hmind (fun hf => hf) fun pid ht => absurd ht (hother hid)
  · intro id' pid' hknown hpid
    rw [hdb] at hpid
    rw [hpids, Table.lookup_upsert]
    by_cases hid : id' = id
    · subst hid
      rw [hrow] at hpid
      exact .inl (by rw [if_pos rfl, hpid])
    · rw [if_neg hid]
      exact (h.recorded id' pid' (hknown.before hmind rfl) hpid).imp_right fun htracks =>
        htracks.next hmind fun ht => absurd ht (hother hid)

/-- The shim of a row that has ended was forgotten. -/
theorem Tracking.forgot (h : Tracking w debts) (hmind : debts t = some (task, φ))
    {id : SessionId} (hforget : φ.forget = none ∨ φ.forget = some id)
    (hmay : mayForget w id = true) (hdb : w'.db = w.db)
    (hpids : w'.runtime.shimPids = w.runtime.shimPids.erase id) :
    Tracking w' (Function.update debts t (some (task, { φ with forget := none }))) := by
  constructor
  · intro id' pid hpid
    rw [hpids, Table.lookup_erase] at hpid
    by_cases hid : id' = id
    · rw [if_pos hid] at hpid
      cases hpid
    · rw [if_neg hid] at hpid
      rw [hdb]
      obtain ⟨hknown, hbefore⟩ := h.tracked id' pid hpid
      refine ⟨hknown.next hmind fun hmem => hmem, ?_⟩
      refine hbefore.imp_right fun howed => howed.next hmind (fun hf => ?_) fun pid ht => ht
      rcases hforget with hnone | hsome
      · rw [hnone] at hf
        cases hf
      · rw [hsome] at hf
        exact absurd (Option.some.inj hf).symm hid
  · intro id' pid hknown hpid
    rw [hdb] at hpid
    rw [hpids, Table.lookup_erase]
    have hbefore := h.recorded id' pid (hknown.before hmind rfl) hpid
    have hnext : TracksShim debts id' pid →
        TracksShim (Function.update debts t (some (task, { φ with forget := none }))) id' pid :=
      fun htracks => htracks.next hmind fun ht => ht
    by_cases hid : id' = id
    · subst hid
      -- A row that has not ended and a tracked shim would keep it from being forgotten.
      rcases hbefore with htracked | htracks
      · rw [mayForget, Table.contains, htracked, hpid] at hmay
        cases hmay
      · exact .inr (hnext htracks)
    · rw [if_neg hid]
      exact hbefore.imp_right hnext

theorem tracking_update (h : Tracking w debts) (hmind : debts t = some (task, φ))
    {lc : Lifecycle} {u : Unit} (hallows : φ.Rests)
    (hkeeps : keepsUpWith φ w (.store (.updateLifecycle lc)) = true)
    (hexec : Op.exec choice w (.store (.updateLifecycle lc)) = some (.ok u, w')) :
    Tracking w' (Function.update debts t (some (task, φ.wrote lc))) := by
  obtain ⟨db, hrun, rfl⟩ := Op.exec_store hexec
  have hrow := Database.getLifecycle_update (StoreOp.exec_ok hrun)
  have hself : liveShim db lc.sessionId = shimOf lc := by
    rw [liveShim, hrow, if_pos rfl, Option.bind_some, shimOf_storedLifecycle]
  have hothers : ∀ id, id ≠ lc.sessionId → liveShim db id = liveShim w.db id := by
    intro id hid
    rw [liveShim, hrow, if_neg hid, liveShim]
  rw [Duty.wrote]
  cases hshim : shimOf lc with
  | some pid =>
      have hawaited : φ.unawaited = false := by
        rw [keepsUpWith, hshim, Option.isNone_some, Bool.or_false] at hkeeps
        exact Bool.not_eq_true' _ ▸ hkeeps
      have hpids : ({ w with db := db } : World).runtime.shimPids = w.runtime.shimPids := rfl
      exact h.ran hmind hallows hawaited hpids (hself.trans hshim) hothers
  | none =>
      have hpids : ({ w with db := db } : World).runtime.shimPids = w.runtime.shimPids := rfl
      exact h.ended hmind hallows hpids (hself.trans hshim) hothers

theorem tracking_exec (hnamed : ReportsNamed w debts) (h : Tracking w debts)
    (hmind : debts t = some (task, φ)) (hallows : φ.allows o)
    (hkeeps : (choice.fails = true → φ.track = none) ∧ keepsUpWith φ w o = true)
    (hexec : o.exec choice w = some (r, w')) :
    Tracking w' (Function.update debts t (some (task, φ.next o r))) := by
  by_cases htrack : ∃ id pid, o = .memory (.trackShim id pid)
  · obtain ⟨id, pid, rfl⟩ := htrack
    obtain ⟨entry, hentry, hsession, howed⟩ := hallows
    have hid : entry.1 = id := by
      rw [← hsession, hnamed.received t task φ hmind entry hentry]
    rw [hid] at howed
    cases r with
    | error e =>
        obtain ⟨-, id', pid', ho⟩ := MemoryOp.exec_error hexec
        cases ho
    | ok a =>
        have hrun := MemoryOp.exec_ok hexec
        simp only [MemoryOp.run, Choice.ran_eq_some, Prod.mk.injEq] at hrun
        rw [← hrun.2.2]
        exact h.paid hmind howed (of_decide_eq_true hkeeps.2) rfl rfl
  by_cases hforget : ∃ id, o = .memory (.forgetShim id)
  · obtain ⟨id, rfl⟩ := hforget
    cases r with
    | error e =>
        obtain ⟨-, id', pid', ho⟩ := MemoryOp.exec_error hexec
        cases ho
    | ok a =>
        have hrun := MemoryOp.exec_ok hexec
        simp only [MemoryOp.run, Choice.ran_eq_some, Prod.mk.injEq] at hrun
        rw [← hrun.2.2]
        exact h.forgot hmind hallows.2 hkeeps.2 rfl rfl
  by_cases hupdate : (∃ lc, o = .store (.updateLifecycle lc)) ∧ r.isOk = true
  · obtain ⟨⟨lc, rfl⟩, hok⟩ := hupdate
    cases r with
    | error e => cases hok
    | ok u => exact tracking_update h hmind hallows hkeeps.2 hexec
  -- Any other operation leaves the table, and what is owed to it, alone.
  have hnotrack : ∀ id pid, o ≠ .memory (.trackShim id pid) := fun id pid ho =>
    htrack ⟨id, pid, ho⟩
  have hnoforget : ∀ id, o ≠ .memory (.forgetShim id) := fun id ho => hforget ⟨id, ho⟩
  have hpids := shimPids_exec hexec hnotrack hnoforget
  refine h.same hmind hpids (fun id => ?_) ?_
  · cases shimStep hallows hkeeps.2 hexec id with
    | same hlive => exact .inl hlive
    | updated lc ho hok => exact absurd ⟨⟨lc, ho⟩, hok⟩ hupdate
    | removed hmay hlive => exact .inr ⟨hmay, hlive⟩
  · have hanswered : ∀ e, r = .error e → φ.track = none := fun e hr =>
      track_of_error hallows hkeeps.1 hnotrack hexec hr
    have hrefused : ∀ lc, o = .store (.updateLifecycle lc) → r.isOk = false := fun lc ho =>
      Bool.eq_false_iff.mpr fun hok => hupdate ⟨⟨lc, ho⟩, hok⟩
    exact owes_next hanswered hrefused hnotrack hnoforget

end Steps

theorem tracking : Pool.InvariantOver dutyWatch keepsUp ReportsNamed Tracking where
  op hnamed h hmind hallows hkeeps hexec := tracking_exec hnamed h hmind hallows hkeeps hexec
  start := by
    intro w debts t task w' _ h _ hstart hfree
    obtain ⟨hdb, hpids, -⟩ := World.startTask_frame hstart
    obtain ⟨u, hfirst⟩ := Duty.first_eq task
    constructor
    · intro id pid hpid
      rw [hpids] at hpid
      rw [hdb]
      obtain ⟨hknown, hbefore⟩ := h.tracked id pid hpid
      refine ⟨hknown.start hfree, hbefore.imp_right fun howed => ?_⟩
      exact howed.imp (fun hforgets => hforgets.start hfree) fun htracks =>
        -- a task that starts has recorded nothing yet
        htracks.imp fun _ htracks => htracks.start hfree
    · intro id pid hknown hpid
      rw [hdb] at hpid
      rw [hpids]
      have hnothing : (id, pid) ∉ (Duty.first task).recorded := by
        rw [hfirst]
        exact List.not_mem_nil
      have hbefore := hknown.of_update.resolve_left hnothing
      exact (h.recorded id pid hbefore hpid).imp_right fun htracks => htracks.start hfree
  -- the map goes with the process, and the tasks with their duties
  env := by
    intro w debts event w' _ h _ henv
    rw [World.taskEnv_frame henv]
    exact ⟨h.tracked, h.recorded⟩
  crash := by
    intro w debts _ _ _
    constructor
    · intro id pid hpid
      cases hpid
    · rintro id pid ⟨t, task, φ, hmind, -⟩
      cases hmind

/-- At rest nothing is owed. -/
theorem not_owed_of_rests {debts : Debts}
    (hrests : ∀ t task φ, debts t = some (task, φ) → φ.Rests) (id : SessionId) :
    ¬Owed debts id := by
  rintro (⟨t, task, φ, hmind, hforget⟩ | ⟨pid, t, task, φ, hmind, htrack⟩)
  · rw [(hrests t task φ hmind).2] at hforget
    cases hforget
  · rw [(hrests t task φ hmind).1] at htrack
    cases htrack

instance : keepsUp.Checkable where
  op φ choice o w := inferInstanceAs
    (Decidable ((choice.fails = true → φ.track = none) ∧ keepsUpWith φ w o = true))
  start _ _ := .isTrue trivial
  env _ _ := .isTrue trivial
  crash _ := .isTrue trivial

/-- The spawn up to its running row. -/
def rowWritten (t : Nat) : List (Label tasks) :=
  taskRan t 2 ++ [.run t (.logs .unavailable)] ++ taskRan t 1

/-- The exit of the runtime is handled between the running row and the entry of its shim. -/
def exitBeforeTrack : List (Label tasks) :=
  booted ++ [paneSpawn ⟨1⟩ false] ++ paneLaunched 1 40 ++ shimStarts 2 ⟨1⟩ 40 41 ++
    rowWritten 1 ++ shimExits 4 ⟨1⟩ ++ taskRan 1 3

/-- The first runtime in the pane ends, and another spawn runs in it. -/
def nextInPane : List (Label tasks) :=
  shimExits 4 ⟨1⟩ ++ [.env (.event (.shimDies ⟨1⟩)), paneSpawn ⟨2⟩ false] ++ paneLaunched 5 50 ++
    shimStarts 6 ⟨2⟩ 50 51 ++ rowRecorded 5

end LittleOrgans.Concurrency
