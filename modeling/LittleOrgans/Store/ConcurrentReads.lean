import LittleOrgans.Store.MailTransactions

/-!
# Reading mail concurrently

`read_unread_mail` selects the unread deliveries of a recipient and then updates
them one by one. The update is guarded by `status = 'unread'`, but the call does not
look at the number of rows it affected, and returns every delivery it selected. Two
calls that select the same delivery both return it (`delivery_read_twice`).
`reads_exactly_once` says that this is all that goes wrong: reading is exactly once
in the runs in which every read that commits has marked what it selected, and a
commit that has not breaks it.
-/

set_option autoImplicit false

namespace LittleOrgans.Store

open LittleOrgans.Core
open LittleOrgans.Library

/-- The key of a delivery. -/
abbrev DeliveryKey := MessageId × SessionId

/-- The delivery is stored with this status. -/
def HasStatus (db : Database) (status : MailStatus) (key : DeliveryKey) : Prop :=
  ∃ delivery, db.deliveries.lookup key = some delivery ∧ delivery.status = status

/-- The call is a read that has committed, and returned the delivery. -/
def MailCall.Returned (key : DeliveryKey) : MailCall → Prop
  | .read recipientId _ (.finished mail) => ∃ item ∈ mail, (item.id, recipientId) = key
  | _ => False

namespace MailState

variable {ι : Type}

def Returned (s : MailState ι) (i : ι) (key : DeliveryKey) : Prop := (s.calls i).Returned key

/-- No delivery is returned by two reads that commit. -/
def ReadAtMostOnce (s : MailState ι) : Prop :=
  ∀ key i j, s.Returned i key → s.Returned j key → i = j

/-- Between `s₁` and `s₂`, every delivery that went from unread to read was returned
by exactly one read. -/
def ReadByOne (s₁ s₂ : MailState ι) : Prop :=
  ∀ key, HasStatus s₁.db .unread key → HasStatus s₂.db .read key → ∃! i, s₂.Returned i key

/-- A read that commits has marked every delivery it selected: each was still unread
when its update ran. -/
def CommitsMarked (s : MailState ι) : MailAction ι → Prop
  | .statement i => ∀ recipientId readAt drained marked,
      s.calls i = .read recipientId readAt (.updates drained marked []) →
        ∀ item ∈ drained, item.id ∈ marked
  | .disconnect _ => True

end MailState

/-! ## What the statements do to deliveries -/

section Deliveries

variable {db : Database}

theorem DeliveryRow.markRead_markRead (readAt : DateTime) (delivery : DeliveryRow) :
    (delivery.markRead readAt).markRead readAt = delivery.markRead readAt := by
  have hread := delivery.markRead_status_ne_unread readAt
  rw [markRead, if_neg hread]

theorem lookup_commitRead (recipientId : SessionId) (readAt : DateTime) (marked : List MessageId)
    (key : DeliveryKey) :
    (db.commitRead recipientId readAt marked).deliveries.lookup key =
      if key.2 = recipientId ∧ key.1 ∈ marked then
        (db.deliveries.lookup key).map (DeliveryRow.markRead readAt)
      else db.deliveries.lookup key := by
  induction marked generalizing db with
  | nil => simp [Database.commitRead]
  | cons id marked ih =>
      have hcons : db.commitRead recipientId readAt (id :: marked) =
          (db.updateRead readAt id recipientId).commitRead recipientId readAt marked := rfl
      have hfirst : (db.updateRead readAt id recipientId).deliveries.lookup key =
          if key = (id, recipientId) then
            (db.deliveries.lookup key).map (DeliveryRow.markRead readAt)
          else db.deliveries.lookup key := by
        rw [Database.updateRead, Table.lookup_modify]
        split
        · next hkey => rw [hkey]
        · rfl
      rw [hcons, ih, hfirst]
      obtain ⟨id', recipientId'⟩ := key
      -- an update on another recipient's row, or of another message, leaves this one
      by_cases hrecipient : recipientId' = recipientId
      · subst hrecipient
        by_cases hid : id' = id
        · subst hid
          cases hrow : db.deliveries.lookup (id', recipientId') with
          | none => simp
          | some delivery => simp [DeliveryRow.markRead_markRead]
        · simp [hid]
      · simp [hrecipient]

/-- An insert leaves the stored deliveries alone. -/
theorem lookup_commitInsert_of_some {mail : Mail} {inserted : List SessionId} {key : DeliveryKey}
    {delivery : DeliveryRow} (h : db.deliveries.lookup key = some delivery) :
    (db.commitInsert mail inserted).deliveries.lookup key = some delivery := by
  show (inserted.foldl _ db.deliveries).lookup key = some delivery
  generalize db.deliveries = deliveries at h
  induction inserted generalizing deliveries with
  | nil => exact h
  | cons recipientId inserted ih =>
      rw [List.foldl_cons]
      apply ih
      by_cases hkey : key = (mail.id, recipientId)
      · subst hkey
        rw [Table.insert_of_lookup h]
        exact h
      · rw [Table.lookup_insert_ne hkey]
        exact h

theorem mem_fetchUnread {recipientId : SessionId} {item : Mail}
    (h : item ∈ db.fetchUnread recipientId) : HasStatus db .unread (item.id, recipientId) := by
  rw [Database.fetchUnread, List.mem_insertionSort, List.mem_filterMap] at h
  obtain ⟨⟨⟨id, recipient⟩, delivery⟩, hrow, hitem⟩ := h
  split at hitem
  · next hunread =>
      obtain ⟨message, -, rfl⟩ := Option.map_eq_some_iff.mp hitem
      obtain ⟨rfl, hstatus⟩ := hunread
      exact ⟨delivery, Table.mem_rows_iff.mp hrow, hstatus⟩
  · cases hitem

end Deliveries

section Steps

variable {ι : Type} [Fintype ι] [DecidableEq ι] {s s' : MailState ι} {a : MailAction ι}

/-- A statement keeps a delivery as it is, except the commit of the read that has
marked it. -/
theorem MailMoves.delivery (h : MailMoves s a s') {key : DeliveryKey} {delivery : DeliveryRow}
    (hrow : s.db.deliveries.lookup key = some delivery) :
    s'.db.deliveries.lookup key = some delivery ∨
      ∃ i readAt drained marked,
        s.calls i = .read key.2 readAt (.updates drained marked []) ∧ key.1 ∈ marked ∧
          s'.calls i = .read key.2 readAt
            (.finished (drained.map fun item => { item with readAt := some readAt })) ∧
          s'.db.deliveries.lookup key = some (delivery.markRead readAt) := by
  cases h with
  | insert hcall hmove =>
      cases hmove with
      | commit => exact .inl (lookup_commitInsert_of_some hrow)
      | _ => exact .inl hrow
  | read hcall hmove =>
      cases hmove with
      | commit =>
          rw [MailState.goOn_db, lookup_commitRead]
          split
          · next hmarked =>
              obtain ⟨hrecipient, hid⟩ := hmarked
              subst hrecipient
              rw [hrow]
              exact .inr ⟨_, _, _, _, hcall, hid, MailState.goOn_calls_self _ _ _, rfl⟩
          · exact .inl hrow
      | _ => exact .inl hrow
  | breakInsert hcall hphase => exact .inl hrow
  | breakRead hcall hphase => exact .inl hrow

/-- A call that has finished does not move. -/
theorem MailMoves.returned (h : MailMoves s a s') {i : ι} {key : DeliveryKey}
    (hreturned : s.Returned i key) : s'.Returned i key := by
  have hne : i ≠ a.call := by
    rintro rfl
    rw [MailState.Returned] at hreturned
    cases h with
    | insert hcall hmove =>
        rw [MailAction.call, hcall] at hreturned
        cases hreturned
    | read hcall hmove =>
        rw [MailAction.call, hcall] at hreturned
        cases hmove <;> cases hreturned
    | breakInsert hcall hphase =>
        rw [MailAction.call, hcall] at hreturned
        cases hreturned
    | @breakRead j recipientId readAt phase hcall hphase =>
        rw [MailAction.call, hcall] at hreturned
        cases phase with
        | finished mail => exact absurd rfl (hphase mail)
        | start => cases hreturned
        | updates drained marked rest => cases hreturned
        | broken => cases hreturned
  rw [MailState.Returned, h.others hne]
  exact hreturned

/-! ## What holds in every state -/

/-- The delivery is stored, and is no longer unread. -/
def Seen (db : Database) (key : DeliveryKey) : Prop :=
  ∃ delivery, db.deliveries.lookup key = some delivery ∧ delivery.status ≠ .unread

theorem Seen.not_unread {db : Database} {key : DeliveryKey} (h : Seen db key) :
    ¬HasStatus db .unread key := by
  rintro ⟨delivery, hrow, hunread⟩
  obtain ⟨delivery', hrow', hne⟩ := h
  rw [hrow] at hrow'
  cases hrow'
  exact hne hunread

/-- What a read knows between its statements: what it selected is unread unless a
read has returned it; what it passed by without marking it, a read has returned; and
what it marked is still unread. -/
structure ReadPhase.Updating (db : Database) (returned : DeliveryKey → Prop)
    (recipientId : SessionId) (drained : List Mail) (marked : List MessageId)
    (rest : List Mail) : Prop where
  selected : ∀ item ∈ drained, HasStatus db .unread (item.id, recipientId) ∨
    returned (item.id, recipientId)
  passed : ∀ item ∈ drained, item ∈ rest ∨ item.id ∈ marked ∨ returned (item.id, recipientId)
  left : ∀ item ∈ rest, item ∈ drained
  marked : ∀ id ∈ marked, HasStatus db .unread (id, recipientId) ∧ ∃ item ∈ drained, item.id = id

def ReadPhase.Knows (db : Database) (returned : DeliveryKey → Prop) (recipientId : SessionId) :
    ReadPhase → Prop
  | .start => True
  | .updates drained marked rest => Updating db returned recipientId drained marked rest
  | .finished mail => ∀ item ∈ mail, Seen db (item.id, recipientId)
  | .broken => True

/-- Some read has returned the delivery. -/
def MailState.SomeReturned (s : MailState ι) (key : DeliveryKey) : Prop := ∃ i, s.Returned i key

/-- Reads know their deliveries, and no two of them have marked the same one. -/
structure ReadsInvariant (s : MailState ι) : Prop where
  knows : ∀ i recipientId readAt phase, s.calls i = .read recipientId readAt phase →
    phase.Knows s.db s.SomeReturned recipientId
  locks : ∀ i j key, key ∈ (s.calls i).updating → key ∈ (s.calls j).updating → i = j

theorem not_mem_updating_of_fresh {call : MailCall} (h : call.Fresh) (key : DeliveryKey) :
    key ∉ call.updating := by
  cases call with
  | insert mail recipientIds phase =>
      have hphase : phase = .start false := h
      subst hphase
      exact List.not_mem_nil
  | read recipientId readAt phase =>
      have hphase : phase = .start := h
      subst hphase
      exact List.not_mem_nil

omit [Fintype ι] [DecidableEq ι] in
theorem ReadsInvariant.of_fresh (h : ∀ i, (s.calls i).Fresh) : ReadsInvariant s where
  knows i recipientId readAt phase hcall := by
    have hfresh := h i
    rw [hcall] at hfresh
    subst hfresh
    trivial
  locks i j key hi := absurd hi (not_mem_updating_of_fresh (h i) key)

omit [Fintype ι] [DecidableEq ι] in
/-- A delivery that a read has returned is no longer unread. -/
theorem ReadsInvariant.seen_of_returned (h : ReadsInvariant s) {key : DeliveryKey}
    (hreturned : s.SomeReturned key) : Seen s.db key := by
  obtain ⟨i, hi⟩ := hreturned
  rw [MailState.Returned] at hi
  cases hcall : s.calls i with
  | insert mail recipientIds phase =>
      rw [hcall] at hi
      cases hi
  | read recipientId readAt phase =>
      rw [hcall] at hi
      cases phase with
      | finished mail =>
          obtain ⟨item, hitem, rfl⟩ := hi
          exact h.knows i recipientId readAt _ hcall item hitem
      | start => cases hi
      | updates drained marked rest => cases hi
      | broken => cases hi

theorem MailMoves.someReturned (h : MailMoves s a s') {key : DeliveryKey}
    (hreturned : s.SomeReturned key) : s'.SomeReturned key := by
  obtain ⟨i, hi⟩ := hreturned
  exact ⟨i, h.returned hi⟩

theorem MailMoves.seen (h : MailMoves s a s') {key : DeliveryKey} (hseen : Seen s.db key) :
    Seen s'.db key := by
  obtain ⟨delivery, hrow, hne⟩ := hseen
  rcases h.delivery hrow with hkept | ⟨i, readAt, drained, marked, -, -, -, hkept⟩
  · exact ⟨delivery, hkept, hne⟩
  · exact ⟨_, hkept, delivery.markRead_status_ne_unread readAt⟩

/-- An unread delivery stays unread until the read that has marked it commits, and
returns it. -/
theorem MailMoves.unread (h : MailMoves s a s') (hinv : ReadsInvariant s) {key : DeliveryKey}
    (hunread : HasStatus s.db .unread key) :
    HasStatus s'.db .unread key ∨
      ∃ i, key ∈ (s.calls i).updating ∧ s'.Returned i key ∧ s'.calls i ≠ s.calls i := by
  obtain ⟨delivery, hrow, hstatus⟩ := hunread
  rcases h.delivery hrow with hkept | ⟨i, readAt, drained, marked, hcall, hid, hcall', -⟩
  · exact .inl ⟨delivery, hkept, hstatus⟩
  · obtain ⟨-, item, hitem, hkey⟩ := (hinv.knows i _ _ _ hcall).marked key.1 hid
    refine .inr ⟨i, ?_, ?_, ?_⟩
    · rw [hcall]
      exact List.mem_map.mpr ⟨key.1, hid, rfl⟩
    · rw [MailState.Returned, hcall']
      exact ⟨_, List.mem_map_of_mem hitem, Prod.ext hkey rfl⟩
    · rw [hcall, hcall']
      exact fun h => by cases h

/-- A call that does not move still knows what it knew. -/
theorem ReadsInvariant.knows_of_moves (hinv : ReadsInvariant s) (h : MailMoves s a s') {j : ι}
    {recipientId : SessionId} {readAt : DateTime} {phase : ReadPhase}
    (hcall : s.calls j = .read recipientId readAt phase) (hsame : s'.calls j = s.calls j) :
    phase.Knows s'.db s'.SomeReturned recipientId := by
  have hknows := hinv.knows j recipientId readAt phase hcall
  cases phase with
  | start => trivial
  | broken => trivial
  | finished mail => exact fun item hitem => h.seen (hknows item hitem)
  | updates drained marked rest =>
      have hupdating : ReadPhase.Updating s.db s.SomeReturned recipientId drained marked rest :=
        hknows
      refine ⟨fun item hitem => ?_, fun item hitem => ?_, hupdating.left, fun id hid => ?_⟩
      · rcases hupdating.selected item hitem with hunread | hreturned
        · rcases h.unread hinv hunread with hunread' | ⟨i, -, hi, -⟩
          · exact .inl hunread'
          · exact .inr ⟨i, hi⟩
        · exact .inr (h.someReturned hreturned)
      · rcases hupdating.passed item hitem with hrest | hmarked | hreturned
        · exact .inl hrest
        · exact .inr (.inl hmarked)
        · exact .inr (.inr (h.someReturned hreturned))
      · obtain ⟨hunread, hitem⟩ := hupdating.marked id hid
        refine ⟨?_, hitem⟩
        rcases h.unread hinv hunread with hunread' | ⟨i, hlock, -, hmoved⟩
        · exact hunread'
        · -- The delivery is locked by `j`, so `j` would be the call that commits.
          have hj : (id, recipientId) ∈ (s.calls j).updating := by
            rw [hcall]
            exact List.mem_map.mpr ⟨id, hid, rfl⟩
          rw [hinv.locks i j _ hlock hj] at hmoved
          exact absurd hsame hmoved

/-- The call that moves knows what its statement found. -/
theorem ReadsInvariant.knows_of_readMoves (hinv : ReadsInvariant s) {i : ι}
    {recipientId : SessionId} {readAt : DateTime} {phase phase' : ReadPhase} {db' : Database}
    (hcall : s.calls i = .read recipientId readAt phase)
    (hmove : ReadMoves s.db (s.waits i) recipientId readAt phase phase' db')
    (h : MailMoves s a (s.goOn i (.read recipientId readAt phase') db')) :
    phase'.Knows db' (s.goOn i (.read recipientId readAt phase') db').SomeReturned
      recipientId := by
  have hknows := hinv.knows i recipientId readAt phase hcall
  cases hmove with
  | select =>
      refine ⟨fun item hitem => .inl (mem_fetchUnread hitem), fun item hitem => .inl hitem,
        fun item hitem => hitem, fun id hid => ?_⟩
      cases hid
  | @mark drained rest marked item delivery hwait hrow hunread =>
      have hupdating : ReadPhase.Updating s.db s.SomeReturned recipientId drained marked
        (item :: rest) := hknows
      -- The delivery was unread under the lock, and is marked now.
      refine ⟨fun other hother => ?_, fun other hother => ?_,
        fun other hother => hupdating.left other (List.mem_cons_of_mem _ hother),
        fun id hid => ?_⟩
      · exact (hupdating.selected other hother).imp_right h.someReturned
      · rcases hupdating.passed other hother with hrest | hmarked | hreturned
        · rcases List.mem_cons.mp hrest with rfl | hrest
          · exact .inr (.inl (List.mem_append_right _ (List.mem_singleton.mpr rfl)))
          · exact .inl hrest
        · exact .inr (.inl (List.mem_append_left _ hmarked))
        · exact .inr (.inr (h.someReturned hreturned))
      · rcases List.mem_append.mp hid with hid | hid
        · exact hupdating.marked id hid
        · rw [List.mem_singleton.mp hid]
          exact ⟨⟨delivery, hrow, hunread⟩, item, hupdating.left item List.mem_cons_self, rfl⟩
  | @miss drained rest marked item hread =>
      have hupdating : ReadPhase.Updating s.db s.SomeReturned recipientId drained marked
        (item :: rest) := hknows
      refine ⟨fun other hother => ?_, fun other hother => ?_,
        fun other hother => hupdating.left other (List.mem_cons_of_mem _ hother),
        hupdating.marked⟩
      · exact (hupdating.selected other hother).imp_right h.someReturned
      · rcases hupdating.passed other hother with hrest | hmarked | hreturned
        · rcases List.mem_cons.mp hrest with rfl | hrest
          · -- The update missed: the delivery is no longer unread, so a read returned it.
            rcases hupdating.selected other hother with hunread | hreturned
            · obtain ⟨delivery, hrow, hstatus⟩ := hunread
              exact absurd hstatus (hread delivery hrow)
            · exact .inr (.inr (h.someReturned hreturned))
          · exact .inl hrest
        · exact .inr (.inl hmarked)
        · exact .inr (.inr (h.someReturned hreturned))
  | @commit drained marked =>
      have hupdating : ReadPhase.Updating s.db s.SomeReturned recipientId drained marked [] :=
        hknows
      intro item hitem
      obtain ⟨old, hold, rfl⟩ := List.mem_map.mp hitem
      show Seen (s.db.commitRead recipientId readAt marked) (old.id, recipientId)
      rcases hupdating.passed old hold with hrest | hmarked | hreturned
      · cases hrest
      · obtain ⟨⟨delivery, hrow, -⟩, -⟩ := hupdating.marked old.id hmarked
        refine ⟨delivery.markRead readAt, ?_, delivery.markRead_status_ne_unread readAt⟩
        rw [lookup_commitRead, if_pos ⟨rfl, hmarked⟩, hrow]
        rfl
      · exact h.seen (hinv.seen_of_returned hreturned)

/-- A call's marks grow at one of its updates only, and that update waited for the
others. -/
theorem MailMoves.updating_cases (h : MailMoves s a s') {i : ι} {key : DeliveryKey}
    (hi : key ∈ (s'.calls i).updating) : key ∈ (s.calls i).updating ∨
      i = a.call ∧ ∀ j, j ≠ i → key ∉ (s.calls j).updating := by
  by_cases hcaller : i = a.call
  · subst hcaller
    cases h with
    | insert hcall hmove =>
        rw [MailAction.call, MailState.goOn_calls_self] at hi
        cases hmove <;> cases hi
    | breakInsert hcall hphase =>
        rw [MailAction.call, MailState.goOn_calls_self] at hi
        cases hi
    | breakRead hcall hphase =>
        rw [MailAction.call, MailState.goOn_calls_self] at hi
        cases hi
    | read hcall hmove =>
        rw [MailAction.call, MailState.goOn_calls_self] at hi
        cases hmove with
        | select => cases hi
        | commit => cases hi
        | miss hread =>
            rw [MailAction.call, hcall]
            exact .inl hi
        -- the call takes a lock that nobody else holds
        | mark hwait hrow hunread =>
            obtain ⟨id, hid, rfl⟩ := List.mem_map.mp hi
            rcases List.mem_append.mp hid with hid | hid
            · rw [MailAction.call, hcall]
              exact .inl (List.mem_map.mpr ⟨id, hid, rfl⟩)
            · rw [List.mem_singleton.mp hid]
              exact .inr ⟨rfl, fun j hj => of_decide_eq_false (waits_eq_false hwait j hj)⟩
  -- the other calls keep what they hold
  · rw [h.others hcaller] at hi
    exact .inl hi

/-- Step lemma. -/
theorem ReadsInvariant.step (hinv : ReadsInvariant s) (h : MailMoves s a s') :
    ReadsInvariant s' where
  locks i j key hi hj := by
    by_contra hne
    rcases h.updating_cases hi with hold | ⟨hcaller, hnew⟩
    -- two locks from before, or one of them taken while nobody held it
    · rcases h.updating_cases hj with hold' | ⟨-, hnew'⟩
      · exact hne (hinv.locks i j key hold hold')
      · exact hnew' i hne hold
    · rcases h.updating_cases hj with hold' | ⟨hcaller', -⟩
      · exact hnew j (Ne.symm hne) hold'
      · exact hne (hcaller.trans hcaller'.symm)
  knows j recipientId readAt phase hcall' := by
    by_cases hcaller : j = a.call
    · subst hcaller
      -- what a read knows moves with its own statement
      cases h with
      | insert hcall hmove =>
          rw [MailAction.call, MailState.goOn_calls_self] at hcall'
          cases hcall'
      | breakInsert hcall hphase =>
          rw [MailAction.call, MailState.goOn_calls_self] at hcall'
          cases hcall'
      | breakRead hcall hphase =>
          rw [MailAction.call, MailState.goOn_calls_self] at hcall'
          cases hcall'
          trivial
      | read hcall hmove =>
          rw [MailAction.call, MailState.goOn_calls_self] at hcall'
          cases hcall'
          exact hinv.knows_of_readMoves hcall hmove (.read hcall hmove)
    -- and survives the statements of the others
    · have hsame := h.others hcaller
      exact hinv.knows_of_moves h (hsame ▸ hcall') hsame

/-! ## Exactly once -/

/-- A read that returns a delivery returned it before, or commits now. -/
theorem MailMoves.returned_cases (h : MailMoves s a s') {i : ι} {key : DeliveryKey}
    (hreturned : s'.Returned i key) :
    s.Returned i key ∨ a = .statement i ∧ ∃ readAt drained marked,
      s.calls i = .read key.2 readAt (.updates drained marked []) ∧
        ∃ item ∈ drained, item.id = key.1 := by
  by_cases hcaller : i = a.call
  · subst hcaller
    rw [MailState.Returned] at hreturned
    cases h with
    | insert hcall hmove =>
        rw [MailAction.call, MailState.goOn_calls_self] at hreturned
        cases hreturned
    | breakInsert hcall hphase =>
        rw [MailAction.call, MailState.goOn_calls_self] at hreturned
        cases hreturned
    | breakRead hcall hphase =>
        rw [MailAction.call, MailState.goOn_calls_self] at hreturned
        cases hreturned
    | read hcall hmove =>
        rw [MailAction.call, MailState.goOn_calls_self] at hreturned
        cases hmove with
        | select => cases hreturned
        | mark hwait hrow hunread => cases hreturned
        | miss hread => cases hreturned
        | @commit drained marked =>
            obtain ⟨item, hitem, rfl⟩ := hreturned
            obtain ⟨old, hold, rfl⟩ := List.mem_map.mp hitem
            exact .inr ⟨rfl, _, drained, marked, hcall, old, hold, rfl⟩
  · rw [MailState.Returned, h.others hcaller] at hreturned
    exact .inl hreturned

theorem ReadsInvariant.readAtMostOnce_step (hinv : ReadsInvariant s) (h : MailMoves s a s')
    (hmarked : s.CommitsMarked a) (honce : s.ReadAtMostOnce) : s'.ReadAtMostOnce := by
  -- A delivery that is returned now was unread, so no read had returned it.
  have fresh : ∀ {key : DeliveryKey} {i j : ι}, (a = .statement i ∧ ∃ readAt drained marked,
      s.calls i = .read key.2 readAt (.updates drained marked []) ∧
        ∃ item ∈ drained, item.id = key.1) → ¬s.Returned j key := by
    rintro key i j ⟨rfl, readAt, drained, marked, hcall, item, hitem, hid⟩ hreturned
    have hmark := hmarked key.2 readAt drained marked hcall item hitem
    have hunread := ((hinv.knows i _ _ _ hcall).marked item.id hmark).1
    rw [hid] at hunread
    exact (hinv.seen_of_returned ⟨j, hreturned⟩).not_unread hunread
  intro key i j hi hj
  rcases h.returned_cases hi with hi | hi
  · rcases h.returned_cases hj with hj | hj
    · exact honce key i j hi hj
    · exact absurd hi (fresh hj)
  · rcases h.returned_cases hj with hj | hj
    · exact absurd hj (fresh hi)
    · have hsame := hi.1.symm.trans hj.1
      cases hsame
      rfl

theorem readsInvariant_of_reaches {C : MailState ι → MailAction ι → Prop} {s₀ : MailState ι}
    (hfresh : ∀ i, (s₀.calls i).Fresh) (h : (mailSystem ι).Reaches C s₀ s) : ReadsInvariant s :=
  h.invariant (I := ReadsInvariant) (.of_fresh hfresh) fun _ _ _ hinv _ hstep =>
    hinv.step (mailMoves_of_step hstep)

theorem readAtMostOnce_of_reaches {s₀ : MailState ι} (hfresh : ∀ i, (s₀.calls i).Fresh)
    (h : (mailSystem ι).Reaches MailState.CommitsMarked s₀ s) : s.ReadAtMostOnce := by
  have hboth : ReadsInvariant s ∧ s.ReadAtMostOnce := by
    apply h.invariant (I := fun s => ReadsInvariant s ∧ s.ReadAtMostOnce)
    · refine ⟨.of_fresh hfresh, fun key i j hi => ?_⟩
      have hstart := hfresh i
      rw [MailState.Returned] at hi
      cases hcall : s₀.calls i with
      | insert mail recipientIds phase =>
          rw [hcall] at hi
          cases hi
      | read recipientId readAt phase =>
          rw [hcall] at hi hstart
          cases hstart
          cases hi
    · intro s a s' hinv hcond hstep
      have hmoves := mailMoves_of_step hstep
      exact ⟨hinv.1.step hmoves, hinv.1.readAtMostOnce_step hmoves hcond hinv.2⟩
  exact hboth.2

/-- Along a run, a delivery that was unread still is, or a read has returned it. -/
theorem unread_or_returned {C : MailState ι → MailAction ι → Prop} {s₁ s₂ : MailState ι}
    (hinv : ReadsInvariant s₁) (h : (mailSystem ι).Reaches C s₁ s₂) {key : DeliveryKey}
    (hunread : HasStatus s₁.db .unread key) :
    HasStatus s₂.db .unread key ∨ s₂.SomeReturned key := by
  have hboth : ReadsInvariant s₂ ∧ (HasStatus s₂.db .unread key ∨ s₂.SomeReturned key) := by
    apply h.invariant
      (I := fun s => ReadsInvariant s ∧ (HasStatus s.db .unread key ∨ s.SomeReturned key))
    · exact ⟨hinv, .inl hunread⟩
    · rintro s a s' ⟨hinv, hkey⟩ - hstep
      have hmoves := mailMoves_of_step hstep
      refine ⟨hinv.step hmoves, ?_⟩
      rcases hkey with hkey | hkey
      · exact (hmoves.unread hinv hkey).imp_right fun ⟨i, _, hi, _⟩ => ⟨i, hi⟩
      · exact .inr (hmoves.someReturned hkey)
  exact hboth.2

/-- In every run in which each read that commits has marked what it selected, no two
reads return the same delivery, and what goes from unread to read was returned by
exactly one. A read that commits without having marked one of them returns it a
second time. -/
theorem reads_exactly_once {s₀ : MailState ι} (hfresh : ∀ i, (s₀.calls i).Fresh) :
    (∀ s₁ s₂, (mailSystem ι).Reaches MailState.CommitsMarked s₀ s₁ →
      (mailSystem ι).Reaches MailState.CommitsMarked s₁ s₂ →
        s₂.ReadAtMostOnce ∧ MailState.ReadByOne s₁ s₂) ∧
      ∀ s a s', (mailSystem ι).Reaches (fun _ _ => True) s₀ s →
        (mailSystem ι).step s a = some s' → ¬s.CommitsMarked a → ¬s'.ReadAtMostOnce := by
  constructor
  · intro s₁ s₂ h₁ h₂
    have honce := readAtMostOnce_of_reaches hfresh (h₁.trans h₂)
    refine ⟨honce, fun key hunread hread => ?_⟩
    have hreads := readsInvariant_of_reaches hfresh h₁
    rcases unread_or_returned hreads h₂ hunread with hstill | hreturned
    · obtain ⟨delivery, hrow, hstatus⟩ := hread
      obtain ⟨delivery', hrow', hstatus'⟩ := hstill
      rw [hrow] at hrow'
      cases hrow'
      rw [hstatus] at hstatus'
      cases hstatus'
    · obtain ⟨i, hi⟩ := hreturned
      exact ⟨i, hi, fun j hj => honce key j i hj hi⟩
  · intro s a s' h hstep hcond honce
    have hinv := readsInvariant_of_reaches hfresh h
    have hmoves := mailMoves_of_step hstep
    cases a with
    | disconnect i => exact hcond trivial
    | statement i =>
        simp only [MailState.CommitsMarked, not_forall] at hcond
        obtain ⟨recipientId, readAt, drained, marked, hcall, item, hitem, hnot⟩ := hcond
        rcases (hinv.knows i _ _ _ hcall).passed item hitem with hrest | hmarked | hreturned
        · cases hrest
        · exact hnot hmarked
        · obtain ⟨j, hj⟩ := hreturned
          -- The commit returns an item that another read has returned already.
          have hcommit : s' = s.goOn i (.read recipientId readAt (.finished
              (drained.map fun item => { item with readAt := some readAt })))
              (s.db.commitRead recipientId readAt marked) := by
            have hstatement : s.statement i = some s' := hstep
            rw [MailState.statement, hcall] at hstatement
            exact (Option.some.inj hstatement).symm
          have hi : s'.Returned i (item.id, recipientId) := by
            rw [hcommit, MailState.Returned, MailState.goOn_calls_self]
            exact ⟨_, List.mem_map_of_mem hitem, rfl⟩
          have hij := honce _ i j hi (hmoves.returned hj)
          rw [← hij, MailState.Returned, hcall] at hj
          cases hj

end Steps

/-! ## Two reads of one delivery -/

/-- A store with one unread delivery, and two reads of its recipient. -/
def twoReads : MailState (Fin 2) where
  db :=
    { Database.migrated 0 with
      messages := Table.empty.insert ⟨7⟩
        ⟨.operator "user:operator", "context", .request, none, "status?", 5⟩
      deliveries := Table.empty.insert (⟨7⟩, ⟨1⟩) ⟨.unread, none⟩ }
  calls := fun _ => .read ⟨1⟩ 10 .start

theorem twoReads_exactly_once :
    (∀ s₁ s₂, (mailSystem (Fin 2)).Reaches MailState.CommitsMarked twoReads s₁ →
      (mailSystem (Fin 2)).Reaches MailState.CommitsMarked s₁ s₂ →
        s₂.ReadAtMostOnce ∧ MailState.ReadByOne s₁ s₂) ∧
      ∀ s a s', (mailSystem (Fin 2)).Reaches (fun _ _ => True) twoReads s →
        (mailSystem (Fin 2)).step s a = some s' → ¬s.CommitsMarked a → ¬s'.ReadAtMostOnce :=
  reads_exactly_once fun _ => rfl

/-- Both select the delivery. The first marks it and commits; the update of the
second affects no row, and it returns the delivery as well. -/
theorem delivery_read_twice :
    ¬∀ s, (mailSystem (Fin 2)).Reaches (fun _ _ => True) twoReads s → s.ReadAtMostOnce := by
  intro h
  have hrun : ∃ s, (mailSystem (Fin 2)).follow twoReads
      [.statement 0, .statement 1, .statement 0, .statement 0, .statement 1, .statement 1] =
        some s ∧ s.Returned 0 (⟨7⟩, ⟨1⟩) ∧ s.Returned 1 (⟨7⟩, ⟨1⟩) :=
    ⟨_, rfl, ⟨_, List.mem_singleton.mpr rfl, rfl⟩, ⟨_, List.mem_singleton.mpr rfl, rfl⟩⟩
  obtain ⟨s, hfollow, hfirst, hsecond⟩ := hrun
  have hreach := StepSystem.reaches_of_follow (C := fun _ _ => True) hfollow fun _ _ _ => trivial
  have hsame := h s hreach _ 0 1 hfirst hsecond
  cases hsame

end LittleOrgans.Store
