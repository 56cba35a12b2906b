import LittleOrgans.Store.InsertKnowledge

/-!
# Calls that run by themselves

The statements of a call that nobody disturbs do what the operation on mail does at
once: `read_alone` for `readUnreadMail`, `insert_alone` for
`insertMailForRecipients`. So the models that take an operation as a whole and the
one that interleaves statements describe the same code.
-/

set_option autoImplicit false

namespace LittleOrgans.Store

open LittleOrgans.Core
open LittleOrgans.Library

section Alone

variable {ι : Type} [Fintype ι] [DecidableEq ι] {s : MailState ι} {i : ι}
  {db db' : Database}

omit [Fintype ι] in
theorem goOn_goOn (i : ι) (call call' : MailCall) (db db' : Database) :
    (s.goOn i call db).goOn i call' db' = s.goOn i call' db' := by
  rw [MailState.goOn, MailState.goOn, MailState.goOn, Function.update_idem]

/-- What a call waits for does not depend on its own phase. -/
theorem waits_goOn (i : ι) (call : MailCall) (db : Database) :
    (s.goOn i call db).waits i = s.waits i := by
  funext holds
  have hiff : (∃ j, j ≠ i ∧ holds ((s.goOn i call db).calls j) = true) ↔
      ∃ j, j ≠ i ∧ holds (s.calls j) = true := by
    refine exists_congr fun j => and_congr_right fun hne => ?_
    rw [MailState.goOn_calls_of_ne hne]
  rw [MailState.waits, MailState.waits, decide_eq_decide]
  exact hiff

theorem step_goOn_insert {i : ι} {mail : Mail} {recipientIds : List SessionId}
    {phase phase' : InsertPhase}
    (h : insertStatement db (s.waits i) mail recipientIds phase = some (phase', db')) :
    (mailSystem ι).step (s.goOn i (.insert mail recipientIds phase) db) (.statement i) =
      some (s.goOn i (.insert mail recipientIds phase') db') := by
  show (s.goOn i (.insert mail recipientIds phase) db).statement i = _
  rw [MailState.statement, MailState.goOn_calls_self, MailState.goOn_db, waits_goOn]
  dsimp only
  rw [h, Option.map_some, goOn_goOn]

theorem step_goOn_read {i : ι} {recipientId : SessionId} {readAt : DateTime}
    {phase phase' : ReadPhase}
    (h : readStatement db (s.waits i) recipientId readAt phase = some (phase', db')) :
    (mailSystem ι).step (s.goOn i (.read recipientId readAt phase) db) (.statement i) =
      some (s.goOn i (.read recipientId readAt phase') db') := by
  show (s.goOn i (.read recipientId readAt phase) db).statement i = _
  rw [MailState.statement, MailState.goOn_calls_self, MailState.goOn_db, waits_goOn]
  dsimp only
  rw [h, Option.map_some, goOn_goOn]

/-! ## A read by itself -/

theorem updates_alone {recipientId : SessionId} {readAt : DateTime} {db : Database}
    (halone : ∀ j, j ≠ i → (s.calls j).updating = []) (drained : List Mail)
    (marked : List MessageId) (rest : List Mail)
    (hunread : ∀ item ∈ rest, HasStatus db .unread (item.id, recipientId)) :
    (mailSystem ι).Reaches (fun _ a => a = .statement i)
      (s.goOn i (.read recipientId readAt (.updates drained marked rest)) db)
      (s.goOn i (.read recipientId readAt
        (.updates drained (marked ++ rest.map fun item => item.id) [])) db) := by
  induction rest generalizing marked with
  | nil =>
      rw [List.map_nil, List.append_nil]
      exact .refl
  | cons item rest ih =>
      -- nobody else holds a lock on the row, so the statement does not wait
      have hwait : s.waits i (fun call => (item.id, recipientId) ∈ call.updating) = false := by
        refine decide_eq_false ?_
        rintro ⟨j, hne, hholds⟩
        have hmem := of_decide_eq_true hholds
        rw [halone j hne] at hmem
        cases hmem
      obtain ⟨delivery, hrow, hstatus⟩ := hunread item List.mem_cons_self
      have hstatement : readStatement db (s.waits i) recipientId readAt
          (.updates drained marked (item :: rest)) =
            some (.updates drained (marked ++ [item.id]) rest, db) := by
        rw [readStatement, hwait, hrow, Option.any_some, decide_eq_true hstatus]
        rfl
      -- one update, and the others behind it
      have hfirst : (mailSystem ι).Reaches (fun _ a => a = .statement i) _ _ :=
        .step .refl rfl (step_goOn_read hstatement)
      have hrest := ih (marked ++ [item.id]) fun other hother =>
        hunread other (List.mem_cons_of_mem _ hother)
      rw [List.append_assoc] at hrest
      exact hfirst.trans hrest

/-- Run while no other read has marked anything, the statements of a read do what
`readUnreadMail` does at once. -/
theorem read_alone {recipientId : SessionId} {readAt : DateTime}
    (hcall : s.calls i = .read recipientId readAt .start)
    (halone : ∀ j, j ≠ i → (s.calls j).updating = []) :
    (mailSystem ι).Reaches (fun _ a => a = .statement i) s
      (s.goOn i
        (.read recipientId readAt (.finished (s.db.readUnreadMail recipientId readAt false).1))
        (s.db.readUnreadMail recipientId readAt false).2) := by
  -- the three parts of the read: the select, its updates, the commit
  have hstart : s.goOn i (.read recipientId readAt .start) s.db = s := by
    rw [MailState.goOn, ← hcall, Function.update_eq_self]
  have hselect : (mailSystem ι).Reaches (fun _ a => a = .statement i) s
      (s.goOn i (.read recipientId readAt
        (.updates (s.db.fetchUnread recipientId) [] (s.db.fetchUnread recipientId))) s.db) := by
    have hstatement : readStatement s.db (s.waits i) recipientId readAt .start =
        some (.updates (s.db.fetchUnread recipientId) [] (s.db.fetchUnread recipientId), s.db) :=
      rfl
    have hstep := step_goOn_read hstatement
    rw [hstart] at hstep
    exact .step .refl rfl hstep
  have hupdates : (mailSystem ι).Reaches (fun _ a => a = .statement i)
      (s.goOn i (.read recipientId readAt
        (.updates (s.db.fetchUnread recipientId) [] (s.db.fetchUnread recipientId))) s.db) _ :=
    updates_alone halone (s.db.fetchUnread recipientId) [] (s.db.fetchUnread recipientId)
      fun item hitem => mem_fetchUnread hitem
  have hcommit : s.db.commitRead recipientId readAt
      ((s.db.fetchUnread recipientId).map fun item => item.id) =
        (s.db.readUnreadMail recipientId readAt false).2 := List.foldl_map
  refine (hselect.trans hupdates).step rfl (step_goOn_read ?_)
  rw [List.nil_append, readStatement, hcommit]
  rfl

/-! ## An insert by itself -/

/-- The result of an operation and the store after it; a failure leaves the store. -/
def settled (db : Database) :
    Except MailError (MailWriteOutcome × Database) → Except MailError MailWriteOutcome × Database
  | .ok (outcome, db') => (.ok outcome, db')
  | .error e => (.error e, db)

/-- The run of call `i` ends with this result. -/
def EndsWith (s : MailState ι) (i : ι) (mail : Mail) (recipientIds : List SessionId)
    (phase : InsertPhase) (db : Database)
    (result : Except MailError (MailWriteOutcome × Database)) : Prop :=
  (mailSystem ι).Reaches (fun _ a => a = .statement i)
    (s.goOn i (.insert mail recipientIds phase) db)
    (s.goOn i (.insert mail recipientIds (.finished (settled db result).1)) (settled db result).2)

theorem EndsWith.step {i : ι} {mail : Mail} {recipientIds : List SessionId}
    {phase phase' : InsertPhase} {db : Database}
    {result : Except MailError (MailWriteOutcome × Database)}
    (hstep : insertStatement db (s.waits i) mail recipientIds phase = some (phase', db))
    (h : EndsWith s i mail recipientIds phase' db result) :
    EndsWith s i mail recipientIds phase db result := by
  have hfirst : (mailSystem ι).Reaches (fun _ a => a = .statement i) _ _ :=
    StepSystem.Reaches.step .refl rfl (step_goOn_insert hstep)
  exact hfirst.trans h

theorem EndsWith.last {i : ι} {mail : Mail} {recipientIds : List SessionId}
    {phase : InsertPhase} {db : Database}
    {result : Except MailError (MailWriteOutcome × Database)}
    (hstep : insertStatement db (s.waits i) mail recipientIds phase =
      some (.finished (settled db result).1, (settled db result).2)) :
    EndsWith s i mail recipientIds phase db result :=
  StepSystem.Reaches.step .refl rfl (step_goOn_insert hstep)

theorem replay_alone {i : ι} {mail : Mail} {recipientIds : List SessionId} {db : Database}
    {id : MessageId} {existing : MessageRow} (rest : List SessionId) (loaded : List Mail) :
    EndsWith s i mail recipientIds (.replay id existing rest loaded) db
      ((db.loadMessageDeliveries id existing rest).map fun mail =>
        ({ mail := loaded ++ mail, inserted := false }, db)) := by
  induction rest generalizing loaded with
  | nil =>
      apply EndsWith.last
      rw [Database.loadMessageDeliveries, List.mapM_nil]
      show some (InsertPhase.finished (.ok { mail := loaded, inserted := false }), db) =
        some (.finished (.ok { mail := loaded ++ [], inserted := false }), db)
      rw [List.append_nil]
  | cons recipientId rest ih =>
      -- the delivery is missing: the replay ends with the error of the load
      cases hrow : db.deliveries.lookup (id, recipientId) with
      | none =>
          apply EndsWith.last
          rw [insertStatement, Database.loadMessageDeliveries, List.mapM_cons, hrow]
          rfl
      -- it is there, and the replay goes on behind it
      | some delivery =>
          have hload : ((db.loadMessageDeliveries id existing (recipientId :: rest)).map
              fun mail =>
                (({ mail := loaded ++ mail, inserted := false } : MailWriteOutcome), db)) =
              (db.loadMessageDeliveries id existing rest).map fun mail =>
                ({ mail := loaded ++ [mailFromRow id recipientId existing delivery] ++ mail,
                   inserted := false }, db) := by
            rw [Database.loadMessageDeliveries, List.mapM_cons, hrow,
              ← Database.loadMessageDeliveries]
            cases db.loadMessageDeliveries id existing rest with
            | error e => rfl
            | ok mail =>
                show Except.ok (_, db) = Except.ok (_, db)
                rw [List.append_assoc]
                rfl
          rw [hload]
          refine EndsWith.step ?_ (ih (loaded ++ [mailFromRow id recipientId existing delivery]))
          rw [insertStatement, hrow]

theorem deliveries_alone {mail : Mail} {recipientIds : List SessionId} {db : Database}
    (halone : ∀ j, j ≠ i → (s.calls j).pendingMessage = none) (rest inserted : List SessionId) :
    EndsWith s i mail recipientIds (.deliveries inserted rest) db
      (((db.commitInsert mail inserted).insertDeliveries mail rest).map fun db' =>
        ({ mail := mailForRecipients mail recipientIds, inserted := true }, db')) := by
  induction rest generalizing inserted with
  | nil => exact EndsWith.last rfl
  | cons recipientId rest ih =>
      -- no other call is in the middle of an insert
      have hwait : s.waits i (fun call => (mail.id, recipientId) ∈ call.inserting) = false := by
        refine decide_eq_false ?_
        rintro ⟨j, hne, hholds⟩
        obtain ⟨other, hpending, -⟩ := mem_inserting (of_decide_eq_true hholds)
        rw [halone j hne] at hpending
        cases hpending
      have hcontains : (db.commitInsert mail inserted).deliveries.contains (mail.id, recipientId) =
          true ↔ recipientId ∈ inserted ∨ db.deliveries.contains (mail.id, recipientId) = true := by
        rw [Table.contains, lookup_commitInsert, Table.contains]
        cases db.deliveries.lookup (mail.id, recipientId) with
        | some delivery => simp
        | none => by_cases hmem : recipientId ∈ inserted <;> simp [hmem]
      -- the row is taken: the statement fails, and so does the insert by itself
      by_cases htaken : recipientId ∈ inserted ∨
          db.deliveries.contains (mail.id, recipientId) = true
      · apply EndsWith.last
        rw [insertStatement, hwait, if_neg Bool.false_ne_true, if_pos htaken,
          Database.insertDeliveries, Database.insertDelivery, if_pos (hcontains.mpr htaken)]
        rfl
      · have hinsert : (db.commitInsert mail inserted).insertDeliveries mail (recipientId :: rest) =
            (db.commitInsert mail (inserted ++ [recipientId])).insertDeliveries mail rest := by
          rw [Database.insertDeliveries, Database.insertDelivery,
            if_neg fun hold => htaken (hcontains.mp hold)]
          show Database.insertDeliveries _ mail rest = _
          rw [Database.commitInsert, Database.commitInsert, List.foldl_append]
          rfl
        rw [hinsert]
        refine EndsWith.step ?_ (ih (inserted ++ [recipientId]))
        rw [insertStatement, hwait, if_neg Bool.false_ne_true, if_neg htaken]

/-- The check of an earlier write, by its statements. -/
theorem loadIdempotentReplay_eq (db : Database) (mail : Mail) (recipientIds : List SessionId) :
    db.loadIdempotentReplay mail recipientIds =
      match db.idempotentRow mail with
      | none => .ok none
      | some (id, existing) =>
          if matchesMessage existing mail then
            if db.recipientSetForMessage id = recipientSet recipientIds then
              (db.loadMessageDeliveries id existing recipientIds).map some
            else .error (keyConflict mail)
          else .error (keyConflict mail) := by
  rw [Database.loadIdempotentReplay, Database.idempotentRow]
  cases hkey : mail.idempotencyKey with
  | none => rfl
  | some key =>
      dsimp only [Option.bind_some]
      cases hrow : db.messageByIdempotency mail.sender key with
      | none => rfl
      | some row =>
          obtain ⟨id, existing⟩ := row
          dsimp only
          rw [validateIdempotentReplay]
          by_cases hmatch : matchesMessage existing mail
          · have hmatch' := hmatch
            rw [matchesMessage] at hmatch'
            rw [if_pos hmatch, if_neg (not_not.mpr hmatch')]
            -- the set of recipients is compared only when the message matches
            by_cases hset : db.recipientSetForMessage id = recipientSet recipientIds
            · rw [if_pos hset, if_neg (not_not.mpr hset)]
              cases db.loadMessageDeliveries id existing recipientIds <;> rfl
            · rw [if_neg hset, if_pos hset]
              rfl
          · have hmatch' := hmatch
            rw [matchesMessage] at hmatch'
            rw [if_neg hmatch, if_pos hmatch']
            rfl

/-- Run while no other call has inserted a message, the statements of an insert do what
`insertMailForRecipients` does at once. -/
theorem insert_alone {mail : Mail} {recipientIds : List SessionId}
    (halone : ∀ j, j ≠ i → (s.calls j).pendingMessage = none) (db : Database) :
    EndsWith s i mail recipientIds (.start false) db
      (db.insertMailForRecipients mail recipientIds) := by
  -- Nobody else has inserted a message, so no statement waits.
  have hwaits : ∀ holds : Mail → Bool,
      s.waits i (fun call => call.pendingMessage.any holds) = false := by
    intro holds
    refine decide_eq_false ?_
    rintro ⟨j, hne, hholds⟩
    have hany : (s.calls j).pendingMessage.any holds = true := hholds
    rw [halone j hne] at hany
    cases hany
  rw [Database.insertMailForRecipients]
  by_cases hnil : recipientIds = []
  · rw [if_pos hnil]
    apply EndsWith.last
    rw [insertStatement, if_pos hnil]
    rfl
  · rw [if_neg hnil, Database.tryInsertMailForRecipients, loadIdempotentReplay_eq]
    cases hrow : db.idempotentRow mail with
    | none =>
        -- No message has the key, so the insert of the row decides.
        have hstart : insertStatement db (s.waits i) mail recipientIds (.start false) =
            some (.message false, db) := by
          rw [insertStatement, if_neg hnil, hrow]
        refine EndsWith.step hstart ?_
        have hwaitId : s.waits i (MailCall.holdsId mail.id) = false := hwaits _
        have hwaitKey : s.waits i (MailCall.holdsKey mail) = false := hwaits _
        by_cases hid : db.messages.contains mail.id = true
        · apply EndsWith.last
          rw [insertStatement, hwaitId, if_neg Bool.false_ne_true, if_pos hid]
          show _ = some (InsertPhase.finished (settled db ((db.insertMessage mail).bind _)).1, _)
          rw [Database.insertMessage, if_pos hid]
          rfl
        · have hmessage : insertStatement db (s.waits i) mail recipientIds (.message false) =
              some (.deliveries [] recipientIds, db) := by
            rw [insertStatement, hwaitId, if_neg Bool.false_ne_true, if_neg hid, hwaitKey,
              if_neg Bool.false_ne_true, hrow]
            rfl
          have hend := EndsWith.step hmessage (deliveries_alone halone recipientIds [])
          let outcome : MailWriteOutcome :=
            { mail := mailForRecipients mail recipientIds, inserted := true }
          have hresult : ((db.commitInsert mail []).insertDeliveries mail recipientIds).map
              (fun db' => (outcome, db')) =
              (do
                let db ← db.insertMessage mail
                let db ← db.insertDeliveries mail recipientIds
                pure (outcome, db)) := by
            rw [Database.insertMessage, if_neg hid]
            show _ = ((db.commitInsert mail []).insertDeliveries mail recipientIds).bind _
            cases (db.commitInsert mail []).insertDeliveries mail recipientIds <;> rfl
          rw [hresult] at hend
          exact hend
    | some row =>
        obtain ⟨id, existing⟩ := row
        dsimp only
        -- A message has the key: the call returns it or fails.
        by_cases hmatch : matchesMessage existing mail
        · rw [if_pos hmatch]
          have hstart : insertStatement db (s.waits i) mail recipientIds (.start false) =
              some (.recipients id existing, db) := by
            rw [insertStatement, if_neg hnil, hrow]
            dsimp only
            rw [if_pos hmatch]
          refine EndsWith.step hstart ?_
          by_cases hset : db.recipientSetForMessage id = recipientSet recipientIds
          · rw [if_pos hset]
            have hrecipients : insertStatement db (s.waits i) mail recipientIds
                (.recipients id existing) = some (.replay id existing recipientIds [], db) := by
              rw [insertStatement, if_pos hset]
            have hend := EndsWith.step hrecipients
              (replay_alone recipientIds [])
            cases hload : db.loadMessageDeliveries id existing recipientIds with
            | ok mail =>
                rw [hload] at hend
                exact hend
            | error e =>
                rw [hload] at hend
                exact hend
          · rw [if_neg hset]
            apply EndsWith.last
            rw [insertStatement, if_neg hset]
            rfl
        · rw [if_neg hmatch]
          apply EndsWith.last
          rw [insertStatement, if_neg hnil, hrow]
          dsimp only
          rw [if_neg hmatch]
          rfl

end Alone

end LittleOrgans.Store
