import LittleOrgans.Concurrency.Standing

/-!
# Agreement on spawn intents

A pending intent has at most one program that may settle it: the spawn that began
it, or the boot that found it after a crash. Neither the status update nor the
boot looks at who else is under way; that nobody else is follows from the order
in which the daemon comes up and from the ids of spawns being new. From this
invariant, `Agreement`, an intent is settled once, together with its session row
or together with the removal of its lifecycle.
-/

set_option autoImplicit false

namespace LittleOrgans.Concurrency

open LittleOrgans.Core
open LittleOrgans.Library
open LittleOrgans.Store
open LittleOrgans.Daemon

/-- The status of a session's intent. -/
def intentStatus (db : Database) (id : SessionId) : Option SpawnIntentStatus :=
  (db.spawnIntents.lookup id).map SpawnIntentRow.status

/-- The intent is stored as it is, and waits to be settled. -/
def Waits (db : Database) (intent : PendingSpawnIntent) : Prop :=
  ∃ row, db.spawnIntents.lookup intent.sessionId = some row ∧ row.status = .pending ∧
    StoreOp.intentOfRow (intent.sessionId, row) = intent

/-- The rows of intents, sessions and lifecycles fit together. -/
structure Tables (w : World) : Prop where
  intent : ∀ id row, w.db.spawnIntents.lookup id = some row →
    id ∈ w.usedIds ∧ row.sessionDraft.id = id
  session : ∀ id row, w.db.sessions.lookup id = some row → intentStatus w.db id = some .resolved
  aborted : ∀ id, intentStatus w.db id = some .aborted → w.db.lifecycles.lookup id = none
  lifecycle : ∀ id row, w.db.lifecycles.lookup id = some row →
    ∃ status, intentStatus w.db id = some status

/-- What a thread has to settle waits to be settled. -/
structure Duties (w : World) (origin : Origin) (φ : Knowledge) : Prop where
  held : ∀ intent ∈ φ.held, Waits w.db intent
  holder : ∀ intent ∈ φ.held, origin = .boot ∨ ∃ call, origin = .spawn call ∧ call.intent = intent
  requested : ∀ intent, φ.requested = some intent →
    w.db.spawnIntents.lookup intent.sessionId = none

/-- No two threads have the same intent to settle. -/
def HeldOnce (minds : Minds) : Prop :=
  ∀ t t' origin origin' φ φ' id, minds t = some (origin, φ) → minds t' = some (origin', φ') →
    φ.Holds id → φ'.Holds id → t = t'

structure Agreement (w : World) (minds : Minds) : Prop where
  tables : Tables w
  duties : ∀ t origin φ, minds t = some (origin, φ) → Duties w origin φ
  heldOnce : HeldOnce minds

/-! ## Rows after one transaction -/

theorem Waits.status {db : Database} {intent : PendingSpawnIntent} (h : Waits db intent) :
    intentStatus db intent.sessionId = some .pending := by
  obtain ⟨row, hrow, hpending, -⟩ := h
  rw [intentStatus, hrow, Option.map_some, hpending]

theorem Waits.of_lookup {db db' : Database} {intent : PendingSpawnIntent} (h : Waits db intent)
    (hlookup : db'.spawnIntents.lookup intent.sessionId =
      db.spawnIntents.lookup intent.sessionId) : Waits db' intent := by
  rw [Waits, hlookup]
  exact h

theorem Knowledge.Holds.waits {w : World} {origin : Origin} {φ : Knowledge} {id : SessionId}
    (hduties : Duties w origin φ) (h : φ.Holds id) : intentStatus w.db id = some .pending := by
  obtain ⟨intent, hheld, rfl⟩ := h
  exact (hduties.held intent hheld).status

theorem intentStatus_setStatus (db : Database) (id : SessionId) (nowMs : Int)
    (update : SpawnIntentStatusUpdate) (id' : SessionId) :
    ((db.spawnIntents.modify id (SpawnIntentRow.setStatus nowMs update)).lookup id').map
        SpawnIntentRow.status =
      if id' = id then (intentStatus db id).map fun _ => update.status
      else intentStatus db id' := by
  rw [Table.lookup_modify]
  split
  · rw [intentStatus, Option.map_map, Option.map_map]
    rfl
  · rfl

/-- A settled intent: the rows of the others are as they were. -/
theorem lookup_setStatus_ne {db : Database} {id id' : SessionId} (hne : id' ≠ id) (nowMs : Int)
    (update : SpawnIntentStatusUpdate) :
    (db.spawnIntents.modify id (SpawnIntentRow.setStatus nowMs update)).lookup id' =
      db.spawnIntents.lookup id' := by
  rw [Table.lookup_modify, if_neg hne]

/-- A thread that takes up no intent leaves them held once. -/
theorem HeldOnce.of_holds {minds : Minds} (h : HeldOnce minds) {t : Nat} {origin : Origin}
    {φ φ' : Knowledge} (hmind : minds t = some (origin, φ))
    (hholds : ∀ id, φ'.Holds id → φ.Holds id) :
    HeldOnce (Function.update minds t (some (origin, φ'))) := by
  have hbefore : ∀ {t' o ψ id}, Function.update minds t (some (origin, φ')) t' = some (o, ψ) →
      ψ.Holds id → ∃ o' ψ', minds t' = some (o', ψ') ∧ ψ'.Holds id := by
    intro t' o ψ id ht' hid
    rcases Pool.of_update ht' with ⟨rfl, heq⟩ | ⟨-, hother⟩
    · cases heq
      exact ⟨_, φ, hmind, hholds id hid⟩
    · exact ⟨_, ψ, hother, hid⟩
  intro t₁ t₂ origin₁ origin₂ φ₁ φ₂ id h₁ h₂ hid₁ hid₂
  obtain ⟨o₁, ψ₁, hold₁, hholds₁⟩ := hbefore h₁ hid₁
  obtain ⟨o₂, ψ₂, hold₂, hholds₂⟩ := hbefore h₂ hid₂
  exact h t₁ t₂ o₁ o₂ ψ₁ ψ₂ id hold₁ hold₂ hholds₁ hholds₂

/-! ## Steps that settle nothing -/

/-- No intent changed, no row came to be, and no intent was taken up. -/
structure Unsettled (w w' : World) (φ φ' : Knowledge) : Prop where
  intents : w'.db.spawnIntents = w.db.spawnIntents
  used : w.usedIds ⊆ w'.usedIds
  sessions : ∀ id row, w'.db.sessions.lookup id = some row →
    ∃ row', w.db.sessions.lookup id = some row'
  lifecycles : ∀ id row, w'.db.lifecycles.lookup id = some row →
    ∃ row', w.db.lifecycles.lookup id = some row'
  held : φ'.held = φ.held
  requested : ∀ intent, φ'.requested = some intent → φ.requested = some intent

theorem Tables.of_unsettled {w w' : World} {φ φ' : Knowledge} (h : Tables w)
    (hstep : Unsettled w w' φ φ') : Tables w' where
  intent id row hrow := by
    rw [hstep.intents] at hrow
    exact ⟨hstep.used (h.intent id row hrow).1, (h.intent id row hrow).2⟩
  session id row hrow := by
    obtain ⟨row', hrow'⟩ := hstep.sessions id row hrow
    rw [intentStatus, hstep.intents]
    exact h.session id row' hrow'
  aborted id haborted := by
    rw [intentStatus, hstep.intents] at haborted
    by_contra hsome
    obtain ⟨row, hrow⟩ := Option.ne_none_iff_exists'.mp hsome
    obtain ⟨row', hrow'⟩ := hstep.lifecycles id row hrow
    rw [h.aborted id haborted] at hrow'
    cases hrow'
  lifecycle id row hrow := by
    obtain ⟨row', hrow'⟩ := hstep.lifecycles id row hrow
    rw [intentStatus, hstep.intents]
    exact h.lifecycle id row' hrow'

theorem Duties.of_intents {w w' : World} {origin : Origin} {φ : Knowledge}
    (h : Duties w origin φ) (hintents : w'.db.spawnIntents = w.db.spawnIntents) :
    Duties w' origin φ where
  held intent hheld := (h.held intent hheld).of_lookup (by rw [hintents])
  holder := h.holder
  requested intent hrequested := by
    rw [hintents]
    exact h.requested intent hrequested

theorem Agreement.of_unsettled {w w' : World} {minds : Minds} {t : Nat} {origin : Origin}
    {φ φ' : Knowledge} (h : Agreement w minds) (hmind : minds t = some (origin, φ))
    (hstep : Unsettled w w' φ φ') :
    Agreement w' (Function.update minds t (some (origin, φ'))) where
  tables := h.tables.of_unsettled hstep
  duties t' origin' ψ ht' := by
    rcases Pool.of_update ht' with ⟨rfl, heq⟩ | ⟨-, hother⟩
    · cases heq
      have hduties := (h.duties _ _ _ hmind).of_intents hstep.intents
      exact
        { held := fun intent hheld => hduties.held intent (hstep.held ▸ hheld)
          holder := fun intent hheld => hduties.holder intent (hstep.held ▸ hheld)
          requested := fun intent hrequested =>
            hduties.requested intent (hstep.requested intent hrequested) }
    · exact (h.duties t' origin' ψ hother).of_intents hstep.intents
  heldOnce := h.heldOnce.of_holds hmind fun id hid => by rwa [Knowledge.Holds, ← hstep.held]

/-! ## Settling an intent -/

/-- The duties of a thread that does not hold the intent that is settled. -/
theorem Duties.of_settled {w w' : World} {origin : Origin} {φ : Knowledge} (h : Duties w origin φ)
    {id : SessionId} {nowMs : Int} {update : SpawnIntentStatusUpdate}
    (hintents : w'.db.spawnIntents =
      w.db.spawnIntents.modify id (SpawnIntentRow.setStatus nowMs update))
    (hnot : ¬φ.Holds id) : Duties w' origin φ where
  held intent hheld := by
    refine (h.held intent hheld).of_lookup ?_
    rw [hintents, lookup_setStatus_ne]
    exact fun hid => hnot ⟨intent, hheld, hid⟩
  holder := h.holder
  requested intent hrequested := by
    have hnone := h.requested intent hrequested
    rw [hintents, Table.lookup_modify]
    split
    · next hid => rw [← hid, hnone, Option.map_none]
    · exact hnone

theorem not_holds_settle (φ : Knowledge) (id : SessionId) : ¬(φ.settle id).Holds id := by
  rintro ⟨intent, hheld, hid⟩
  exact of_decide_eq_true (List.mem_filter.mp hheld).2 hid

/-- What is left to settle after the intent of `id`. -/
theorem Duties.settle {w : World} {origin : Origin} {φ φ' : Knowledge} (h : Duties w origin φ)
    {id : SessionId} (hheld : φ'.held = (φ.settle id).held)
    (hrequested : φ'.requested = φ.requested) : Duties w origin φ' where
  held intent hmem := by
    rw [hheld] at hmem
    exact h.held intent (List.mem_filter.mp hmem).1
  holder intent hmem := by
    rw [hheld] at hmem
    exact h.holder intent (List.mem_filter.mp hmem).1
  requested intent h' := h.requested intent (hrequested ▸ h')

theorem Agreement.of_settled {w w' : World} {minds : Minds} {t : Nat} {origin : Origin}
    {φ φ' : Knowledge} (h : Agreement w minds) (hmind : minds t = some (origin, φ))
    {id : SessionId} {nowMs : Int} {update : SpawnIntentStatusUpdate} (hholds : φ.Holds id)
    (hintents : w'.db.spawnIntents =
      w.db.spawnIntents.modify id (SpawnIntentRow.setStatus nowMs update))
    (hheld : φ'.held = (φ.settle id).held) (hrequested : φ'.requested = φ.requested)
    (htables : Tables w') : Agreement w' (Function.update minds t (some (origin, φ'))) where
  tables := htables
  duties t' origin' ψ ht' := by
    rcases Pool.of_update ht' with ⟨rfl, heq⟩ | ⟨hne, hother⟩
    · cases heq
      refine ((h.duties _ _ _ hmind).settle hheld hrequested).of_settled hintents ?_
      rw [Knowledge.Holds, hheld]
      exact not_holds_settle φ id
    · refine (h.duties t' origin' ψ hother).of_settled hintents fun hid => ?_
      exact hne (h.heldOnce t' t origin' origin ψ φ id hother hmind hid hholds)
  heldOnce := h.heldOnce.of_holds hmind fun id' hid' => by
    obtain ⟨intent, hmem, hintent⟩ := hid'
    rw [hheld] at hmem
    exact ⟨intent, (List.mem_filter.mp hmem).1, hintent⟩

theorem intent_of_settled {db db' : Database} {id : SessionId} {nowMs : Int}
    {update : SpawnIntentStatusUpdate}
    (hintents : db'.spawnIntents =
      db.spawnIntents.modify id (SpawnIntentRow.setStatus nowMs update)) {id' : SessionId}
    {row : SpawnIntentRow} (hrow : db'.spawnIntents.lookup id' = some row) :
    ∃ row', db.spawnIntents.lookup id' = some row' ∧ row.sessionDraft = row'.sessionDraft := by
  rw [hintents, Table.lookup_modify] at hrow
  split at hrow
  · next hid =>
      obtain ⟨row', hrow', rfl⟩ := Option.map_eq_some_iff.mp hrow
      exact ⟨row', hid ▸ hrow', rfl⟩
  · exact ⟨row, hrow, rfl⟩

/-- The tables after an abort. -/
theorem Tables.abort {w : World} (h : Tables w) {id : SessionId}
    (hpending : intentStatus w.db id = some .pending) (reason : AbortReason) (nowMs : Int) :
    Tables { w with db := w.db.abortSpawnIntent id reason nowMs } where
  intent id' row hrow := by
    obtain ⟨row', hrow', hdraft⟩ := intent_of_settled rfl hrow
    rw [hdraft]
    exact h.intent id' row' hrow'
  session id' row hrow := by
    have hresolved := h.session id' row hrow
    -- a resolved intent is not the pending one that is aborted
    refine (intentStatus_setStatus w.db id nowMs (.aborted reason) id').trans ?_
    rw [if_neg, hresolved]
    rintro rfl
    rw [hpending] at hresolved
    cases hresolved
  aborted id' haborted := by
    have hstatus := (intentStatus_setStatus w.db id nowMs (.aborted reason) id').symm.trans haborted
    refine (Table.lookup_erase w.db.lifecycles id id').trans ?_
    split
    · rfl
    · next hne =>
        rw [if_neg hne] at hstatus
        exact h.aborted id' hstatus
  lifecycle id' row hrow := by
    rw [show (w.db.abortSpawnIntent id reason nowMs).lifecycles.lookup id' = _ from
      Table.lookup_erase w.db.lifecycles id id'] at hrow
    split at hrow
    · cases hrow
    · next hne =>
        obtain ⟨status, hstatus⟩ := h.lifecycle id' row hrow
        refine ⟨status, (intentStatus_setStatus w.db id nowMs (.aborted reason) id').trans ?_⟩
        rw [if_neg hne, hstatus]

/-- The tables after a commit. -/
theorem Tables.commit {w : World} (h : Tables w) {id : SessionId} {session : Session}
    {lc : Lifecycle} {nowMs : Int} {db : Database}
    (hpending : intentStatus w.db id = some .pending) (hsession : session.id = id)
    (hlc : lc.sessionId = id) (hcommit : w.db.commitSpawnIntent id session lc nowMs = .ok db) :
    Tables { w with db := db } := by
  obtain ⟨-, -, rfl⟩ := Database.commitSpawnIntent_eq_ok hcommit
  have hnew : w.db.sessions.lookup session.id = none := (Database.commitSpawnIntent_eq_ok hcommit).1
  have hstatus := intentStatus_setStatus w.db id nowMs .resolved
  refine ⟨fun id' row hrow => ?_, fun id' row hrow => ?_, fun id' haborted => ?_,
    fun id' row hrow => ?_⟩
  · obtain ⟨row', hrow', hdraft⟩ := intent_of_settled rfl hrow
    rw [hdraft]
    exact h.intent id' row' hrow'
  -- the session that is new has just been resolved, the others were before
  · refine (hstatus id').trans ?_
    split
    · rw [hpending]
      rfl
    · next hne =>
        have hrow' := (Table.lookup_insert hnew (sessionRow session) id').symm.trans hrow
        rw [if_neg (hsession ▸ hne)] at hrow'
        exact h.session id' row hrow'
  -- an intent that is aborted does not get its lifecycle row back
  · have hstatus' := (hstatus id').symm.trans haborted
    split at hstatus'
    · rw [hpending] at hstatus'
      cases hstatus'
    · next hne =>
        refine (Table.lookup_modify _ _ _ id').trans ?_
        rw [if_neg (hlc ▸ hne)]
        exact h.aborted id' hstatus'
  · by_cases hid : id' = id
    · subst hid
      refine ⟨.resolved, (hstatus id').trans ?_⟩
      rw [if_pos rfl, hpending]
      rfl
    · have hrow' := (Table.lookup_modify _ _ _ id').symm.trans hrow
      rw [if_neg (hlc ▸ hid)] at hrow'
      obtain ⟨status, hst⟩ := h.lifecycle id' row hrow'
      refine ⟨status, (hstatus id').trans ?_⟩
      rw [if_neg hid, hst]

/-! ## Taking up an intent -/

/-- The tables after the first transaction. -/
theorem Tables.begin {w : World} (h : Tables w) {intent : PendingSpawnIntent} {db : Database}
    (hused : intent.sessionId ∈ w.usedIds) (hdraft : intent.sessionDraft.id = intent.sessionId)
    (hbegin : w.db.beginSpawnIntent intent = .ok db) : Tables { w with db := db } := by
  obtain ⟨hnew, hnone, rfl⟩ := Database.beginSpawnIntent_eq_ok hbegin
  have hlookup := Table.lookup_insert hnew (pendingIntentRow intent)
  have hlifecycle := Table.lookup_insert (Database.getLifecycle_eq_none_iff.mp hnone)
    (lifecycleRow (Database.forkingLifecycle intent))
  -- The new intent is pending, the others are as they were.
  have hstatus : ∀ id', intentStatus { w.db with
      spawnIntents := w.db.spawnIntents.insert intent.sessionId (pendingIntentRow intent)
      lifecycles := w.db.lifecycles.insert intent.sessionId
        (lifecycleRow (Database.forkingLifecycle intent)) } id' =
      if id' = intent.sessionId then some .pending else intentStatus w.db id' := by
    intro id'
    refine (congrArg (Option.map SpawnIntentRow.status) (hlookup id')).trans ?_
    split <;> rfl
  refine ⟨fun id' row hrow => ?_, fun id' row hrow => ?_, fun id' haborted => ?_,
    fun id' row hrow => ?_⟩
  · have hrow' := (hlookup id').symm.trans hrow
    split at hrow'
    · next hid =>
        cases hrow'
        exact ⟨hid ▸ hused, hid ▸ hdraft⟩
    · exact h.intent id' row hrow'
  · have hresolved := h.session id' row hrow
    rw [hstatus, if_neg]
    · exact hresolved
    · rintro rfl
      rw [intentStatus, hnew] at hresolved
      cases hresolved
  · rw [hstatus] at haborted
    split at haborted
    · cases haborted
    · next hne =>
        refine (hlifecycle id').trans ?_
        rw [if_neg hne]
        exact h.aborted id' haborted
  · rw [hstatus]
    split
    · exact ⟨_, rfl⟩
    · next hne =>
        have hrow' := (hlifecycle id').symm.trans hrow
        rw [if_neg hne] at hrow'
        exact h.lifecycle id' row hrow'

/-- A spawn begins its intent: nobody else can hold one of this id. -/
theorem Agreement.begin {w : World} {minds : Minds} {t : Nat} {origin : Origin} {φ : Knowledge}
    {intent : PendingSpawnIntent} {db : Database} (hstanding : Standing w minds)
    (h : Agreement w minds) (hmind : minds t = some (origin, φ))
    (hrequested : φ.requested = some intent) (hbegin : w.db.beginSpawnIntent intent = .ok db) :
    Agreement { w with db := db } (Function.update minds t
      (some (origin, { φ with requested := none, held := intent :: φ.held }))) := by
  obtain ⟨call, rfl, rfl⟩ := (hstanding.threads t origin φ hmind).requested intent hrequested
  have hused := ((hstanding.threads t _ φ hmind).spawns call rfl).2
  obtain ⟨-, hdraft, -⟩ := of_decide_eq_true call.wellFormed
  have htables := h.tables.begin hused hdraft hbegin
  obtain ⟨hnew, -, rfl⟩ := Database.beginSpawnIntent_eq_ok hbegin
  have hlookup := Table.lookup_insert hnew (pendingIntentRow call.intent)
  -- an intent that waits has a row, and there was none for this id
  have hwaits : ∀ {intent : PendingSpawnIntent}, Waits w.db intent →
      intent.sessionId ≠ call.intent.sessionId := by
    rintro intent ⟨row, hrow, -⟩ hid
    rw [hid, hnew] at hrow
    cases hrow
  have hheld : ∀ {t' origin' ψ}, minds t' = some (origin', ψ) →
      ¬ψ.Holds call.intent.sessionId := by
    rintro t' origin' ψ ht' ⟨intent, hmem, hid⟩
    exact hwaits ((h.duties t' origin' ψ ht').held intent hmem) hid
  refine ⟨htables, fun t' origin' ψ ht' => ?_, fun t₁ t₂ o₁ o₂ φ₁ φ₂ id h₁ h₂ hid₁ hid₂ => ?_⟩
  · rcases Pool.of_update ht' with ⟨rfl, heq⟩ | ⟨hne, hother⟩
    · cases heq
      have hduties := h.duties _ _ _ hmind
      refine ⟨fun intent hmem => ?_, fun intent hmem => ?_, fun _ h => by cases h⟩
      · rcases List.mem_cons.mp hmem with rfl | hmem
        · exact ⟨pendingIntentRow call.intent, (hlookup _).trans (if_pos rfl), rfl, rfl⟩
        · refine (hduties.held intent hmem).of_lookup ((hlookup _).trans ?_)
          exact if_neg (hwaits (hduties.held intent hmem))
      · rcases List.mem_cons.mp hmem with rfl | hmem
        · exact .inr ⟨call, rfl, rfl⟩
        · exact hduties.holder intent hmem
    · have hduties := h.duties t' origin' ψ hother
      refine ⟨fun intent hmem => ?_, hduties.holder, fun intent hreq => ?_⟩
      · refine (hduties.held intent hmem).of_lookup ((hlookup _).trans ?_)
        exact if_neg (hwaits (hduties.held intent hmem))
      · refine (hlookup _).trans ?_
        rw [if_neg]
        · exact hduties.requested intent hreq
        · intro hid
          obtain ⟨call', rfl, rfl⟩ := (hstanding.threads t' _ ψ hother).requested intent hreq
          exact hne (hstanding.oneSpawn t' t call' call ψ φ hother hmind hid)
  · have hcases : ∀ {t' o ψ}, Function.update minds t (some (.spawn call,
        { φ with requested := none, held := call.intent :: φ.held })) t' = some (o, ψ) →
        ψ.Holds id →
        (∃ ψ', minds t' = some (o, ψ') ∧ ψ'.Holds id) ∨
          (t' = t ∧ id = call.intent.sessionId) := by
      intro t' o ψ ht' hid
      rcases Pool.of_update ht' with ⟨rfl, heq⟩ | ⟨-, hother⟩
      · cases heq
        obtain ⟨intent, hmem, hintent⟩ := hid
        rcases List.mem_cons.mp hmem with rfl | hmem
        · exact .inr ⟨rfl, hintent.symm⟩
        · exact .inl ⟨φ, hmind, intent, hmem, hintent⟩
      · exact .inl ⟨ψ, hother, hid⟩
    rcases hcases h₁ hid₁ with ⟨ψ₁, hold₁, hholds₁⟩ | ⟨ht₁, rfl⟩
    · rcases hcases h₂ hid₂ with ⟨ψ₂, hold₂, hholds₂⟩ | ⟨-, rfl⟩
      · exact h.heldOnce t₁ t₂ o₁ o₂ ψ₁ ψ₂ id hold₁ hold₂ hholds₁ hholds₂
      · exact absurd hholds₁ (hheld hold₁)
    · rcases hcases h₂ hid₂ with ⟨ψ₂, hold₂, hholds₂⟩ | ⟨ht₂, -⟩
      · exact absurd hholds₂ (hheld hold₂)
      · rw [ht₁, ht₂]

theorem waits_of_mem_list {db : Database} {intent : PendingSpawnIntent}
    (h : intent ∈ db.listPendingSpawnIntents.map StoreOp.intentOfRow) : Waits db intent := by
  obtain ⟨row, hrow, rfl⟩ := List.mem_map.mp h
  have hmem := (List.perm_insertionSort _ _).subset hrow
  obtain ⟨hmem, hpending⟩ := List.mem_filter.mp hmem
  exact ⟨row.2, Table.mem_rows_iff.mp hmem, of_decide_eq_true hpending, rfl⟩

/-- A boot finds the pending intents: before the daemon listens nobody else holds
any. -/
theorem Agreement.list {w : World} {minds : Minds} {t : Nat} {origin : Origin} {φ : Knowledge}
    (hstanding : Standing w minds) (h : Agreement w minds)
    (hmind : minds t = some (origin, φ)) (hbooting : φ.booting = some .built) :
    Agreement w (Function.update minds t (some (origin,
      { φ with held := w.db.listPendingSpawnIntents.map StoreOp.intentOfRow }))) := by
  obtain ⟨rfl, hstage⟩ := (hstanding.threads t origin φ hmind).booting .built hbooting
  have hnobody : ∀ {t' origin' ψ id}, minds t' = some (origin', ψ) → t' ≠ t → ¬ψ.Holds id := by
    rintro t' origin' ψ id ht' hne ⟨intent, hmem, -⟩
    rcases (h.duties t' origin' ψ ht').holder intent hmem with rfl | ⟨call, rfl, -⟩
    · exact hne (hstanding.oneBoot t' t ψ φ ht' hmind)
    · have hlistening := ((hstanding.threads t' _ ψ ht').spawns call rfl).1
      rw [hstage] at hlistening
      cases hlistening
  refine ⟨h.tables, fun t' origin' ψ ht' => ?_, fun t₁ t₂ o₁ o₂ φ₁ φ₂ id h₁ h₂ hid₁ hid₂ => ?_⟩
  · rcases Pool.of_update ht' with ⟨rfl, heq⟩ | ⟨-, hother⟩
    · cases heq
      exact
        { held := fun intent hmem => waits_of_mem_list hmem
          holder := fun _ _ => .inl rfl
          requested := (h.duties _ _ _ hmind).requested }
    · exact h.duties t' origin' ψ hother
  · rcases Pool.of_update h₁ with ⟨ht₁, -⟩ | ⟨hne₁, hold₁⟩
    · rcases Pool.of_update h₂ with ⟨ht₂, -⟩ | ⟨hne₂, hold₂⟩
      · rw [ht₁, ht₂]
      · exact absurd hid₂ (hnobody hold₂ hne₂)
    · exact absurd hid₁ (hnobody hold₁ hne₁)

/-! ## The invariant -/

namespace Knowledge

/-- Only store statements take up an intent or settle one. -/
theorem next_held (φ : Knowledge) {o : Op} (r : Except DaemonError o.Res)
    (hstore : ∀ o', o ≠ .store o') : (φ.next o r).held = φ.held := by
  cases o with
  | store o => exact absurd rfl (hstore o)
  | os o => exact (Spends.next_os φ o r).held
  | log o => cases r <;> cases o <;> rfl
  | memory o =>
      cases r with
      | error e => rfl
      | ok a =>
          cases o with
          | awaitReady channel => cases a <;> rfl
          | _ => rfl

end Knowledge

theorem Unsettled.of_db {w w' : World} {φ φ' : Knowledge} (hdb : w'.db = w.db)
    (hused : w'.usedIds = w.usedIds) (hheld : φ'.held = φ.held)
    (hrequested : ∀ intent, φ'.requested = some intent → φ.requested = some intent) :
    Unsettled w w' φ φ' where
  intents := by rw [hdb]
  used := hused ▸ List.Subset.refl _
  sessions id row hrow := ⟨row, hdb ▸ hrow⟩
  lifecycles id row hrow := ⟨row, hdb ▸ hrow⟩
  held := hheld
  requested := hrequested

/-- A session row that is there after a statement other than a commit was there
before. -/
theorem StoreOp.Effect.session_before {db db' : Database} {o : StoreOp} {a : o.Res}
    (h : o.Effect db db' a) (hcommit : ∀ id session lc, o ≠ .commitSpawnIntent id session lc)
    (id : SessionId) {row : SessionRow} (hrow : db'.sessions.lookup id = some row) :
    ∃ row', db.sessions.lookup id = some row' := by
  by_cases hwrites : o.writesSessions = false
  · rw [(h.sessions hwrites).1] at hrow
    exact ⟨row, hrow⟩
  -- modifying a row finds it there before
  · have hmodified : ∀ {t : Table SessionId SessionRow} {id' : SessionId}
        {f : SessionRow → SessionRow}, (t.modify id' f).lookup id = some row →
        ∃ row', t.lookup id = some row' := by
      intro t id' f hlookup
      rw [Table.lookup_modify] at hlookup
      split at hlookup
      · next hid =>
          obtain ⟨row', hrow', -⟩ := Option.map_eq_some_iff.mp hlookup
          exact ⟨row', hid ▸ hrow'⟩
      · exact ⟨row, hlookup⟩
    cases o with
    | commitSpawnIntent id' session lc => exact absurd rfl (hcommit id' session lc)
    | applyRuntimeEventsAndCursor events nextCursor =>
        obtain ⟨now, rfl⟩ := h
        rw [Database.lookup_sessions_applyRuntimeEventsAndCursor] at hrow
        obtain ⟨row', hrow', -⟩ := Option.map_eq_some_iff.mp hrow
        exact ⟨row', hrow'⟩
    | recordTranscriptPath id' path =>
        obtain ⟨now, rfl⟩ := h
        exact hmodified hrow
    | markSessionTerminated id' exitCode =>
        obtain ⟨now, rfl⟩ := h
        exact hmodified hrow
    | deleteSessionsByNamespace slug =>
        cases h
        -- what the deletion keeps was there before
        rw [Database.frame_deleteSessionsByNamespace] at hrow
        have hfiltered := (Table.lookup_filterRows _ db.sessions id).symm.trans hrow
        obtain ⟨hlookup, -⟩ := Option.filter_eq_some_iff.mp hfiltered
        exact ⟨row, hlookup⟩
    | _ => exact absurd rfl hwrites

/-- A lifecycle that is there after a statement was there before, unless the
statement inserts it. -/
theorem StoreOp.Effect.lifecycle_before {db db' : Database} {o : StoreOp} {a : o.Res}
    (h : o.Effect db db' a) (hinsert : ∀ lc, o ≠ .insertForking lc)
    (hbegin : ∀ intent, o ≠ .beginSpawnIntent intent) (id : SessionId) {row : LifecycleRow}
    (hrow : db'.lifecycles.lookup id = some row) :
    ∃ row', db.lifecycles.lookup id = some row' := by
  by_cases hwrites : o.writesLifecycles = false
  · rw [(h.lifecycles hwrites).1] at hrow
    exact ⟨row, hrow⟩
  -- modifying or erasing a row finds it there before
  · have hmodified : ∀ {id' : SessionId} {f : LifecycleRow → LifecycleRow},
        (db.lifecycles.modify id' f).lookup id = some row →
        ∃ row', db.lifecycles.lookup id = some row' := by
      intro id' f hlookup
      rw [Table.lookup_modify] at hlookup
      split at hlookup
      · next hid =>
          obtain ⟨row', hrow', -⟩ := Option.map_eq_some_iff.mp hlookup
          exact ⟨row', hid ▸ hrow'⟩
      · exact ⟨row, hlookup⟩
    have herased : ∀ {id' : SessionId}, (db.lifecycles.erase id').lookup id = some row →
        ∃ row', db.lifecycles.lookup id = some row' := by
      intro id' hlookup
      rw [Table.lookup_erase] at hlookup
      split at hlookup
      · cases hlookup
      · exact ⟨row, hlookup⟩
    cases o with
    | insertForking lc => exact absurd rfl (hinsert lc)
    | beginSpawnIntent intent => exact absurd rfl (hbegin intent)
    | updateLifecycle lc =>
        obtain ⟨-, rfl⟩ := Database.updateLifecycle_eq_ok h
        exact hmodified hrow
    | deleteLifecycle id' =>
        cases h
        exact herased hrow
    | commitSpawnIntent id' session lc =>
        obtain ⟨now, h⟩ := h
        obtain ⟨-, -, rfl⟩ := Database.commitSpawnIntent_eq_ok h
        exact hmodified hrow
    | abortSpawnIntent id' reason =>
        obtain ⟨now, rfl⟩ := h
        exact herased hrow
    | _ => exact absurd rfl hwrites

/-- The intents a statement leaves alone. -/
theorem StoreOp.Effect.intents {db db' : Database} {o : StoreOp} {a : o.Res}
    (h : o.Effect db db' a) (hbegin : ∀ intent, o ≠ .beginSpawnIntent intent)
    (hcommit : ∀ id session lc, o ≠ .commitSpawnIntent id session lc)
    (habort : ∀ id reason, o ≠ .abortSpawnIntent id reason) :
    db'.spawnIntents = db.spawnIntents := by
  by_cases hwrites : o.writesLifecycles = false
  · exact (h.lifecycles hwrites).2
  · cases o with
    | insertForking lc =>
        obtain ⟨-, -, rfl⟩ := Database.insertForking_eq_ok h
        rfl
    | updateLifecycle lc =>
        obtain ⟨-, rfl⟩ := Database.updateLifecycle_eq_ok h
        rfl
    | deleteLifecycle id' =>
        cases h
        rfl
    | beginSpawnIntent intent => exact absurd rfl (hbegin intent)
    | commitSpawnIntent id' session lc => exact absurd rfl (hcommit id' session lc)
    | abortSpawnIntent id' reason => exact absurd rfl (habort id' reason)
    | _ => exact absurd rfl hwrites

/-- A statement of a program that does not hold the intent of `id` leaves its row, unless it
begins it. -/
theorem StoreOp.Effect.lookup_intent {db db' : Database} {o : StoreOp} {a : o.Res}
    {φ : Knowledge} {id : SessionId} (h : o.Effect db db' a) (hallows : φ.allowsStore o)
    (hholds : ¬φ.Holds id)
    (hbegin : ∀ intent, o = .beginSpawnIntent intent → intent.sessionId ≠ id) :
    db'.spawnIntents.lookup id = db.spawnIntents.lookup id := by
  cases o with
  | beginSpawnIntent intent =>
      obtain ⟨-, -, rfl⟩ := Database.beginSpawnIntent_eq_ok h
      exact Table.lookup_insert_ne (hbegin intent rfl).symm _
  | commitSpawnIntent id' session lc =>
      obtain ⟨now, hcommit⟩ := h
      obtain ⟨-, -, rfl⟩ := Database.commitSpawnIntent_eq_ok hcommit
      obtain ⟨intent, hheld, hid, -⟩ := hallows
      have hne : id ≠ id' := fun h => hholds ⟨intent, hheld, hid.trans h.symm⟩
      exact lookup_setStatus_ne hne now .resolved
  | abortSpawnIntent id' reason =>
      obtain ⟨now, rfl⟩ := h
      have hne : id ≠ id' := by
        rintro rfl
        exact hholds hallows
      exact lookup_setStatus_ne hne now (.aborted reason)
  | _ =>
      rw [h.intents (fun _ h => by cases h) (fun _ _ _ h => by cases h) fun _ _ h => by cases h]

/-- The tables after the forking row of a pending intent was inserted. -/
theorem Tables.insertForking {w : World} (h : Tables w) {lc : Lifecycle} {db : Database}
    (hpending : intentStatus w.db lc.sessionId = some .pending)
    (hinsert : w.db.insertForking lc = .ok db) : Tables { w with db := db } := by
  obtain ⟨-, hnone, rfl⟩ := Database.insertForking_eq_ok hinsert
  have hlookup := Table.lookup_insert (Database.getLifecycle_eq_none_iff.mp hnone)
    (lifecycleRow lc)
  refine ⟨h.intent, h.session, fun id haborted => (hlookup id).trans ?_, fun id row hrow => ?_⟩
  · rw [if_neg]
    · exact h.aborted id haborted
    · rintro rfl
      have hboth := hpending.symm.trans haborted
      cases hboth
  · have hrow' := (hlookup id).symm.trans hrow
    split at hrow'
    · next hid => exact ⟨.pending, hid ▸ hpending⟩
    · exact h.lifecycle id row hrow'

theorem sessionOfIntent_eq_ok {intent : PendingSpawnIntent} {lc : Lifecycle}
    {stdoutPath : Option String} {now : DateTime} {session : Session} :
    sessionOfIntent intent lc stdoutPath now = .ok session ↔
      intent.sessionDraft.runningSession lc stdoutPath now = .ok session := by
  rw [sessionOfIntent]
  cases intent.sessionDraft.runningSession lc stdoutPath now with
  | error e =>
      constructor <;> intro h <;> cases h
  | ok built =>
      constructor <;> intro h <;> cases h <;> rfl

/-- The session a commit inserts is that of its intent. -/
theorem sessionOfIntent_id {intent : PendingSpawnIntent} {lc : Lifecycle}
    {stdoutPath : Option String} {now : DateTime} {session : Session}
    (h : sessionOfIntent intent lc stdoutPath now = .ok session) :
    session.id = intent.sessionDraft.id ∧ session.labels = intent.sessionDraft.labels ∧
      session.state = .running :=
  (SessionDraft.runningSession_eq_ok (sessionOfIntent_eq_ok.mp h)).2

theorem Waits.draft_id {w : World} {intent : PendingSpawnIntent} (htables : Tables w)
    (h : Waits w.db intent) : intent.sessionDraft.id = intent.sessionId := by
  obtain ⟨row, hrow, -, hintent⟩ := h
  have hdraft := (htables.intent _ row hrow).2
  rw [← hintent]
  exact hdraft.trans (congrArg PendingSpawnIntent.sessionId hintent).symm

/-- A commit inserts the session that its intent and its lifecycle are of. -/
theorem Agreement.commit_id {w : World} {minds : Minds} {t : Nat} {origin : Origin}
    {φ : Knowledge} {id : SessionId} {session : Session} {lc : Lifecycle} (h : Agreement w minds)
    (hmind : minds t = some (origin, φ)) (hcommits : φ.MayCommit id session lc) :
    session.id = id ∧ lc.sessionId = id := by
  obtain ⟨intent, hheld, rfl, hlc, ⟨stdoutPath, now, hsession⟩, -⟩ := hcommits
  have hwaits := (h.duties t origin φ hmind).held intent hheld
  exact ⟨(sessionOfIntent_id hsession).1.trans (hwaits.draft_id h.tables), hlc⟩

theorem Agreement.op {w w' : World} {minds : Minds} {t : Nat} {origin : Origin} {φ : Knowledge}
    {choice : Choice} {o : Op} {r : Except DaemonError o.Res} (hstanding : Standing w minds)
    (h : Agreement w minds) (hmind : minds t = some (origin, φ)) (hallows : φ.allows o)
    (hexec : o.exec choice w = some (r, w')) :
    Agreement w' (Function.update minds t (some (origin, φ.next o r))) := by
  have hrequested : ∀ intent, (φ.next o r).requested = some intent →
      φ.requested = some intent := fun _ => φ.requested_of_next r
  have hused := Op.usedIds_exec hexec
  -- Only operations of the store touch intents.
  have hframe : (∀ o', o ≠ .store o') → w'.db = w.db →
      Agreement w' (Function.update minds t (some (origin, φ.next o r))) := fun hstore hdb =>
    h.of_unsettled hmind (.of_db hdb hused (φ.next_held r hstore) hrequested)
  cases o with
  | log o =>
      obtain ⟨log, -, rfl⟩ := Op.exec_log hexec
      exact hframe (fun _ h => by cases h) rfl
  | memory o => exact hframe (fun _ h => by cases h) (by rw [MemoryOp.frame hexec])
  | os o => exact hframe (fun _ h => by cases h) (by rw [OsOp.frame hexec])
  | store o =>
      obtain ⟨db, hrun, rfl⟩ := Op.exec_store hexec
      cases r with
      | error e =>
          have hdb := StoreOp.exec_error hrun
          have hheld : (φ.next (.store o) (.error e)).held = φ.held := by cases o <;> rfl
          exact h.of_unsettled hmind (.of_db hdb rfl hheld hrequested)
      | ok a =>
          have heffect := StoreOp.exec_ok hrun
          have hduties := h.duties t origin φ hmind
          cases o with
          | beginSpawnIntent intent => exact h.begin hstanding hmind hallows heffect
          | commitSpawnIntent id session lc =>
              obtain ⟨now, hcommit⟩ := heffect
              obtain ⟨hid, hlc⟩ := h.commit_id hmind hallows
              obtain ⟨intent, hheld, rfl, -⟩ := hallows
              have hwaits := hduties.held intent hheld
              have htables := h.tables.commit hwaits.status hid hlc hcommit
              obtain ⟨-, -, rfl⟩ := Database.commitSpawnIntent_eq_ok hcommit
              exact h.of_settled hmind ⟨intent, hheld, rfl⟩ rfl rfl rfl htables
          | abortSpawnIntent id reason =>
              obtain ⟨now, rfl⟩ := heffect
              exact h.of_settled hmind hallows rfl rfl rfl
                (h.tables.abort (hallows.waits hduties) reason now)
          | listPendingSpawnIntents =>
              obtain ⟨rfl, rfl⟩ := heffect
              exact h.list hstanding hmind hallows.1
          -- The lifecycle of a held intent that is still pending.
          | insertForking lc =>
              obtain ⟨intent, hheld, rfl⟩ := hallows
              have htables := h.tables.insertForking (hduties.held intent hheld).status heffect
              obtain ⟨-, -, rfl⟩ := Database.insertForking_eq_ok heffect
              exact
                { tables := htables
                  duties := fun t' origin' ψ ht' => by
                    rcases Pool.of_update ht' with ⟨rfl, heq⟩ | ⟨-, hother⟩
                    · cases heq
                      exact hduties.of_intents rfl
                    · exact (h.duties t' origin' ψ hother).of_intents rfl
                  heldOnce := h.heldOnce.of_holds hmind fun _ hid => hid }
          | _ =>
              exact h.of_unsettled hmind
                { intents := heffect.intents (fun _ h => by cases h) (fun _ _ _ h => by cases h)
                    fun _ _ h => by cases h
                  used := List.Subset.refl _
                  sessions := fun id row hrow =>
                    heffect.session_before (fun _ _ _ h => by cases h) id hrow
                  lifecycles := fun id row hrow => heffect.lifecycle_before
                    (fun _ h => by cases h) (fun _ h => by cases h) id hrow
                  held := rfl
                  requested := hrequested }

theorem Tables.of_db {w w' : World} (h : Tables w) (hdb : w'.db = w.db)
    (hused : w.usedIds ⊆ w'.usedIds) : Tables w' where
  intent id row hrow := ⟨hused (h.intent id row (hdb ▸ hrow)).1, (h.intent id row (hdb ▸ hrow)).2⟩
  session id row hrow := by
    rw [hdb] at hrow ⊢
    exact h.session id row hrow
  aborted id haborted := by
    rw [hdb] at haborted ⊢
    exact h.aborted id haborted
  lifecycle id row hrow := by
    rw [hdb] at hrow ⊢
    exact h.lifecycle id row hrow

theorem Agreement.start {w w' : World} {minds : Minds} {t : Nat} {origin : Origin}
    (h : Agreement w minds) (hstart : w.start origin = some w') :
    Agreement w' (Function.update minds t (some (origin, Knowledge.first origin))) := by
  -- a task starts with nothing held and writes nothing
  have hdb : w'.db = w.db := by rw [World.start_frame hstart]
  have hheld : (Knowledge.first origin).held = [] := by cases origin <;> rfl
  refine ⟨h.tables.of_db hdb (World.start_usedIds hstart), fun t' origin' ψ ht' => ?_,
    fun t₁ t₂ o₁ o₂ φ₁ φ₂ id h₁ h₂ hid₁ hid₂ => ?_⟩
  · rcases Pool.of_update ht' with ⟨rfl, heq⟩ | ⟨-, hother⟩
    · cases heq
      refine ⟨fun intent hmem => ?_, fun intent hmem => ?_, fun intent hreq => ?_⟩
      · rw [hheld] at hmem
        cases hmem
      · rw [hheld] at hmem
        cases hmem
      -- a spawn's id was not used, so no intent is recorded under it
      · cases origin with
        | spawn call =>
            cases hreq
            obtain ⟨-, hunused, rfl⟩ := World.start_spawn hstart
            by_contra hsome
            obtain ⟨row, hrow⟩ := Option.ne_none_iff_exists'.mp hsome
            exact hunused (h.tables.intent _ row hrow).1
        | _ => cases hreq
    · exact (h.duties t' origin' ψ hother).of_intents (by rw [hdb])
  -- whoever holds an intent after the start held it before
  · have hold : ∀ {t' o ψ}, Function.update minds t
        (some (origin, Knowledge.first origin)) t' = some (o, ψ) → ψ.Holds id →
        minds t' = some (o, ψ) := by
      intro t' o ψ ht' hid
      rcases Pool.of_update ht' with ⟨-, heq⟩ | ⟨-, hother⟩
      · cases heq
        obtain ⟨intent, hmem, -⟩ := hid
        rw [hheld] at hmem
        cases hmem
      · exact hother
    exact h.heldOnce t₁ t₂ o₁ o₂ φ₁ φ₂ id (hold h₁ hid₁) (hold h₂ hid₂) hid₁ hid₂

/-- The invariant of the spawn intents rests on the standing of the threads. -/
theorem agreement : Pool.InvariantOver watched (.none watched) Standing Agreement where
  op hstanding h hmind hallows _ hexec := h.op hstanding hmind hallows hexec
  start _ h _ hstart _ := h.start hstart
  env {w minds event w'} _ h _ henv := by
    have hframe := World.env_frame henv
    have hdb : w'.db = w.db := by rw [hframe]
    have hused : w'.usedIds = w.usedIds := by rw [hframe]
    exact
      { tables := h.tables.of_db hdb (hused ▸ List.Subset.refl _)
        duties := fun t origin φ ht => (h.duties t origin φ ht).of_intents (by rw [hdb])
        heldOnce := h.heldOnce }
  crash {w _} _ h _ :=
    { tables := h.tables.of_db rfl (List.Subset.refl _)
      duties := fun _ _ _ ht => nomatch ht
      heldOnce := fun _ _ _ _ _ _ _ ht => nomatch ht }

/-! ## Runs -/

theorem tables_fresh (createdAt : DateTime) : Tables (.fresh createdAt) where
  intent _ _ h := nomatch h
  session _ _ h := nomatch h
  aborted _ _ := rfl
  lifecycle _ _ h := nomatch h

theorem agreement_fresh (createdAt : DateTime) :
    Standing (.fresh createdAt) (fun _ => none) ∧ Agreement (.fresh createdAt) fun _ => none :=
  ⟨standing_none _,
    { tables := tables_fresh createdAt
      duties := fun _ _ _ ht => nomatch ht
      heldOnce := fun _ _ _ _ _ _ _ ht => nomatch ht }⟩

/-- The invariants of the spawn intents hold along every run of a fresh daemon. -/
theorem agreement_of_reaches {C : Condition watched} {createdAt : DateTime} {c : Pool watched}
    (hreach : Pool.Reaches C (.initial watched (.fresh createdAt)) c) :
    c.Conforming ∧ Standing c.shared c.minds ∧ Agreement c.shared c.minds := by
  obtain ⟨hconforming, -, hinv⟩ := Pool.Reaches.invariant (standing.and agreement)
    (Pool.holds_initial (agreement_fresh createdAt)) hreach.of_none
  exact ⟨hconforming, hinv⟩

/-- The intent of `id` was resolved by the statement that inserted its session,
with the id and the labels of the intent. -/
def ResolvedWithSession (db db' : Database) (id : SessionId) : Prop :=
  ∃ intent session, intent.sessionId = id ∧ Waits db intent ∧
    session.id = id ∧ session.labels = intent.sessionDraft.labels ∧
    db.sessions.lookup id = none ∧ db'.sessions.lookup id = some (sessionRow session) ∧
    db'.labels = labelsUpserted db.labels id session.labels

/-- What one step can do to the status of an intent. -/
def SettlesOnce (db db' : Database) (id : SessionId) : Prop :=
  intentStatus db' id = intentStatus db id ∨
    (intentStatus db id = none ∧ intentStatus db' id = some .pending) ∨
    (intentStatus db id = some .pending ∧ intentStatus db' id = some .aborted) ∨
    (intentStatus db id = some .pending ∧ ResolvedWithSession db db' id)

theorem settlesOnce_of_intents {db db' : Database} (h : db'.spawnIntents = db.spawnIntents)
    (id : SessionId) : SettlesOnce db db' id :=
  .inl (by rw [intentStatus, h, intentStatus])

theorem settlesOnce_store {w : World} {origin : Origin} {φ : Knowledge} {o : StoreOp} {a : o.Res}
    {db : Database} (htables : Tables w) (hduties : Duties w origin φ)
    (hallows : φ.allowsStore o) (h : o.Effect w.db db a) (id : SessionId) :
    SettlesOnce w.db db id := by
  cases o with
  | beginSpawnIntent intent =>
      obtain ⟨hnew, -, rfl⟩ := Database.beginSpawnIntent_eq_ok h
      have hlookup := Table.lookup_insert hnew (pendingIntentRow intent) id
      have hstatus := congrArg (Option.map SpawnIntentRow.status) hlookup
      by_cases hid : id = intent.sessionId
      · rw [if_pos hid] at hstatus
        exact .inr (.inl ⟨by rw [intentStatus, hid, hnew, Option.map_none], hstatus⟩)
      · rw [if_neg hid] at hstatus
        exact .inl hstatus
  | commitSpawnIntent id' session lc =>
      obtain ⟨now, hcommit⟩ := h
      obtain ⟨intent, hheld, rfl, hlc, ⟨stdoutPath, updatedAt, hsession⟩, -⟩ := hallows
      have hwaits := hduties.held intent hheld
      obtain ⟨hdraft, hlabels, -⟩ := sessionOfIntent_id hsession
      have hid : session.id = intent.sessionId := hdraft.trans (hwaits.draft_id htables)
      obtain ⟨hnew, -, rfl⟩ := Database.commitSpawnIntent_eq_ok hcommit
      by_cases hsame : id = intent.sessionId
      · subst hsame
        refine .inr (.inr (.inr ⟨hwaits.status, intent, session, rfl, hwaits, hid, hlabels, ?_, ?_,
          ?_⟩))
        · rw [← hid]
          exact hnew
        · rw [← hid]
          exact Table.lookup_insert_self hnew _
        · rw [← hid]
      · have hstatus := intentStatus_setStatus w.db intent.sessionId now .resolved id
        rw [if_neg hsame] at hstatus
        exact .inl hstatus
  -- The thread that aborts holds the intent, so it is pending.
  | abortSpawnIntent id' reason =>
      obtain ⟨now, rfl⟩ := h
      have hpending := hallows.waits hduties
      have hstatus := intentStatus_setStatus w.db id' now (.aborted reason) id
      by_cases hsame : id = id'
      · subst hsame
        rw [if_pos rfl, hpending] at hstatus
        exact .inr (.inr (.inl ⟨hpending, hstatus⟩))
      · rw [if_neg hsame] at hstatus
        exact .inl hstatus
  | _ =>
      exact settlesOnce_of_intents (h.intents (fun _ h => by cases h) (fun _ _ _ h => by cases h)
        fun _ _ h => by cases h) id

theorem settlesOnce_step {C : Condition watched} {c c' : Pool watched}
    (hconforming : c.Conforming) (h : Agreement c.shared c.minds) (hstep : Pool.Step C c c')
    (id : SessionId) : SettlesOnce c.shared.db c'.shared.db id := by
  rcases store_of_step hconforming hstep with
    hdb | ⟨t, thread, choice, o, a, hthread, hallows, -, heffect⟩
  · rw [hdb]
    exact .inl rfl
  · have hmind : c.minds t = some (thread.origin, thread.know) := by
      rw [Pool.minds, hthread, Option.map_some]
    exact settlesOnce_store h.tables (h.duties t _ _ hmind) hallows heffect id

theorem SettlesOnce.settled {db db' : Database} {id : SessionId} (h : SettlesOnce db db' id)
    {status : SpawnIntentStatus} (hstatus : intentStatus db id = some status)
    (hsettled : status ≠ .pending) : intentStatus db' id = some status := by
  rcases h with hsame | ⟨hnone, -⟩ | ⟨hpending, -⟩ | ⟨hpending, -⟩
  · exact hsame.trans hstatus
  · rw [hnone] at hstatus
    cases hstatus
  · rw [hpending] at hstatus
    exact absurd (Option.some.inj hstatus).symm hsettled
  · rw [hpending] at hstatus
    exact absurd (Option.some.inj hstatus).symm hsettled

theorem settled_of_reaches {C : Condition watched} {createdAt : DateTime} {c c' : Pool watched}
    (hreach : Pool.Reaches C (.initial watched (.fresh createdAt)) c)
    (hrun : Pool.Reaches C c c') {id : SessionId} {status : SpawnIntentStatus}
    (hstatus : intentStatus c.shared.db id = some status) (hsettled : status ≠ .pending) :
    intentStatus c'.shared.db id = some status := by
  induction hrun with
  | refl => exact hstatus
  | tail hsteps hstep ih =>
      obtain ⟨hconforming, -, hagreement⟩ := agreement_of_reaches (hreach.trans hsteps)
      exact (settlesOnce_step hconforming hagreement hstep id).settled ih hsettled

/-- Spawn intents agree with sessions and lifecycles, along every run with any
crashes and failures: an intent is resolved by the statement that inserts its
session; an intent that is aborted never had a session row, and its lifecycle is
gone; and an intent is settled at most once. -/
theorem spawn_intents_agree {createdAt : DateTime} {c : Pool watched}
    (hreach : Pool.Reaches (.none watched) (.initial watched (.fresh createdAt)) c) :
    (∀ c', Pool.Step (.none watched) c c' → ∀ id,
      intentStatus c'.shared.db id = some .resolved →
      intentStatus c.shared.db id = some .resolved ∨
        ResolvedWithSession c.shared.db c'.shared.db id) ∧
    (∀ c', Pool.Reaches (.none watched) c c' → ∀ id,
      intentStatus c'.shared.db id = some .aborted →
      c.shared.db.sessions.lookup id = none ∧ c'.shared.db.sessions.lookup id = none ∧
        c'.shared.db.getLifecycle id = none) ∧
    (∀ c', Pool.Reaches (.none watched) c c' → ∀ id status,
      intentStatus c.shared.db id = some status → status ≠ .pending →
      intentStatus c'.shared.db id = some status) := by
  obtain ⟨hconforming, -, hagreement⟩ := agreement_of_reaches hreach
  refine ⟨fun c' hstep id hresolved => ?_, fun c' hrun id haborted => ?_,
    fun c' hrun id status hstatus hsettled => settled_of_reaches hreach hrun hstatus hsettled⟩
  · rcases settlesOnce_step hconforming hagreement hstep id with
      hsame | ⟨-, hpending⟩ | ⟨-, haborted⟩ | ⟨-, hsession⟩
    · exact .inl (hsame.symm.trans hresolved)
    · rw [hpending] at hresolved
      cases hresolved
    · rw [haborted] at hresolved
      cases hresolved
    · exact .inr hsession
  · -- a session row means a resolved intent, and that would still be resolved
    have hnone : ∀ {c₁ : Pool watched},
        Pool.Reaches (.none watched) (.initial watched (.fresh createdAt)) c₁ →
        Pool.Reaches (.none watched) c₁ c' → c₁.shared.db.sessions.lookup id = none := by
      intro c₁ hreach₁ hrun₁
      by_contra hsome
      obtain ⟨row, hrow⟩ := Option.ne_none_iff_exists'.mp hsome
      have hresolved := (agreement_of_reaches hreach₁).2.2.tables.session id row hrow
      rw [settled_of_reaches hreach₁ hrun₁ hresolved (fun h => by cases h)] at haborted
      cases haborted
    refine ⟨hnone hreach hrun, hnone (hreach.trans hrun) .refl, ?_⟩
    rw [Database.getLifecycle_eq_none_iff]
    exact (agreement_of_reaches (hreach.trans hrun)).2.2.tables.aborted id haborted

/-- The commit of a spawn resolves its intent together with the session row. -/
theorem spawn_intents_agree_commit :
    ∃ c c' : Pool watched, intentStatus c.shared.db sampleId = some .pending ∧
      c.next (.run 1 (.time 7)) = some c' ∧
      ResolvedWithSession c.shared.db c'.shared.db sampleId := by
  have hcommit : ∃ c, after (.none watched)
      (bootRun ++ launchRun ++ childRun ++ readyRun ++ beforeCommitRun) = some c ∧
      intentStatus c.shared.db sampleId = some .pending ∧
      ∃ c', c.next (.run 1 (.time 7)) = some c' ∧
        intentStatus c'.shared.db sampleId = some .resolved :=
    ⟨_, rfl, rfl, _, rfl, rfl⟩
  obtain ⟨c, hc, hpending, c', hnext, hresolved⟩ := hcommit
  have hstep : Pool.Step (.none watched) c c' := ⟨.run 1 (.time 7), fun _ _ _ _ _ => trivial, hnext⟩
  refine ⟨c, c', hpending, hnext, ?_⟩
  rcases (spawn_intents_agree (Pool.reaches_of_follow hc)).1 c' hstep sampleId hresolved with
    hbefore | hsession
  · rw [hpending] at hbefore
    cases hbefore
  · exact hsession

end LittleOrgans.Concurrency
