import LittleOrgans.Store.InsertKnowledge
import Mathlib.Algebra.BigOperators.Group.Finset.Basic
import Mathlib.Algebra.Order.BigOperators.Group.Finset

/-!
# Idempotent inserts

Any number of inserts, some with one sender and idempotency key, run interleaved
with each other and with reads. The first of them to commit inserts; the others find
its message, either with their `SELECT` or, when they lost the race between `SELECT`
and `INSERT`, with the `SELECT` of their second attempt. `insert_mail_idempotent`
collects what follows: one message, one call that reports it inserted it, the same
message and deliveries for the others, and a conflict for a call with another
payload or other recipients.
-/

set_option autoImplicit false

namespace LittleOrgans.Store

open LittleOrgans.Core
open LittleOrgans.Library

variable {ι : Type}

section Steps

variable [Fintype ι] [DecidableEq ι] {s₀ s s' : MailState ι} {a : MailAction ι}

/-! ## Inserts end -/

/-- How many statements an insert has before it, at most. -/
def InsertPhase.rank (recipientIds : List SessionId) : InsertPhase → Nat
  | .start false => recipientIds.length + 5
  | .message false => recipientIds.length + 4
  | .start true => recipientIds.length + 3
  | .message true => recipientIds.length + 2
  | .recipients _ _ => recipientIds.length + 2
  | .replay _ _ rest _ => rest.length + 1
  | .deliveries _ rest => rest.length + 1
  | .finished _ => 0
  | .broken => 0

def MailCall.rank : MailCall → Nat
  | .insert _ recipientIds phase => phase.rank recipientIds
  | .read _ _ _ => 0

theorem InsertMoves.rank_lt {db db' : Database} {waits : (MailCall → Bool) → Bool} {mail : Mail}
    {recipientIds : List SessionId} {phase phase' : InsertPhase}
    (h : InsertMoves db waits mail recipientIds phase phase' db') :
    phase'.rank recipientIds < phase.rank recipientIds := by
  cases h with
  | @noRecipients retry _ => cases retry <;> simp [InsertPhase.rank]
  | @absent retry _ _ => cases retry <;> simp [InsertPhase.rank]
  | @found retry _ _ _ _ _ => cases retry <;> simp [InsertPhase.rank]
  | @otherMessage retry _ _ _ _ _ => cases retry <;> simp [InsertPhase.rank]
  | @idTaken retry _ => cases retry <;> simp [InsertPhase.rank]
  | @insertMessage retry _ _ _ _ => cases retry <;> simp [InsertPhase.rank]
  | _ => simp [InsertPhase.rank]

/-- A statement of an insert that cannot run waits for another call. -/
theorem insertStatement_eq_none {db : Database} {waits : (MailCall → Bool) → Bool} {mail : Mail}
    {recipientIds : List SessionId} {phase : InsertPhase}
    (h : insertStatement db waits mail recipientIds phase = none)
    (hrank : phase.rank recipientIds ≠ 0) :
    (∃ retry, phase = .message retry ∧
        (waits (MailCall.holdsId mail.id) = true ∨ waits (MailCall.holdsKey mail) = true)) ∨
      ∃ inserted recipientId rest, phase = .deliveries inserted (recipientId :: rest) ∧
        waits (fun call => (mail.id, recipientId) ∈ call.inserting) = true := by
  cases phase with
  | start retry =>
      rw [insertStatement] at h
      split at h
      · cases h
      · split at h
        · cases h
        · split at h <;> cases h
  | recipients id existing =>
      rw [insertStatement] at h
      split at h <;> cases h
  | replay id existing rest loaded =>
      cases rest with
      | nil => cases h
      | cons recipientId rest =>
          rw [insertStatement] at h
          split at h <;> cases h
  | message retry =>
      -- Waiting for the id or for the key.
      refine .inl ⟨retry, rfl, ?_⟩
      rw [insertStatement] at h
      split at h
      · next hwait => exact .inl hwait
      · split at h
        · cases h
        · split at h
          · next hwait => exact .inr hwait
          · split at h
            · split at h <;> cases h
            · cases h
  | deliveries inserted rest =>
      cases rest with
      | nil => cases h
      | cons recipientId rest =>
          refine .inr ⟨inserted, recipientId, rest, rfl, ?_⟩
          rw [insertStatement] at h
          split at h
          · next hwait => exact hwait
          · split at h <;> cases h
  | finished result => exact absurd rfl hrank
  | broken => exact absurd rfl hrank

theorem waits_eq_true {i : ι} {holds : MailCall → Bool} (h : s.waits i holds = true) :
    ∃ j, j ≠ i ∧ holds (s.calls j) = true := of_decide_eq_true h

/-- An insert that has not ended waits at most for one that has inserted its message,
and that one waits for nobody. -/
theorem InsertsInvariant.progress (hinv : InsertsInvariant s₀ s) {i : ι}
    (hrank : (s.calls i).rank ≠ 0) :
    ∃ j s', (s.calls j).rank ≠ 0 ∧ (mailSystem ι).step s (.statement j) = some s' := by
  have blocked : ∀ j, (s.calls j).rank ≠ 0 → s.statement j = none →
      ∃ mail recipientIds retry, s.calls j = .insert mail recipientIds (.message retry) ∧
        (s.waits j (MailCall.holdsId mail.id) = true ∨
          s.waits j (MailCall.holdsKey mail) = true) := by
    intro j hj hnone
    cases hcall : s.calls j with
    | read recipientId readAt phase =>
        rw [hcall] at hj
        exact absurd rfl hj
    | insert mail recipientIds phase =>
        rw [hcall] at hj
        rw [MailState.statement, hcall] at hnone
        rcases insertStatement_eq_none (Option.map_eq_none_iff.mp hnone) hj with
          ⟨retry, rfl, hwait⟩ | ⟨inserted, recipientId, rest, rfl, hwait⟩
        · exact ⟨mail, recipientIds, retry, rfl, hwait⟩
        · -- Nobody else has inserted a message with this id.
          obtain ⟨k, hne, hholds⟩ := waits_eq_true hwait
          obtain ⟨other, hpending, hid⟩ := mem_inserting (of_decide_eq_true hholds)
          have hown : (s.calls j).pendingMessage = some mail := by rw [hcall]; rfl
          exact absurd hid (hinv.locks k j other mail hne hpending hown).1
  cases hstep : s.statement i with
  | some s' => exact ⟨i, s', hrank, hstep⟩
  | none =>
      obtain ⟨mail, recipientIds, retry, hcall, hwait⟩ := blocked i hrank hstep
      have hpending : ∃ j other, (s.calls j).pendingMessage = some other := by
        rcases hwait with hwait | hwait
        all_goals
          obtain ⟨j, -, hholds⟩ := waits_eq_true hwait
          obtain ⟨other, hother, -⟩ := (Option.any_eq_true _ _).mp hholds
          exact ⟨j, other, hother⟩
      -- The call that is waited for has its message in and can go on.
      obtain ⟨j, other, hother⟩ := hpending
      obtain ⟨recipients, inserted, rest, hj⟩ := pendingMessage_eq_some hother
      have hjrank : (s.calls j).rank ≠ 0 := by
        rw [hj]
        exact Nat.succ_ne_zero _
      cases hjstep : s.statement j with
      | some s' => exact ⟨j, s', hjrank, hjstep⟩
      | none =>
          obtain ⟨_, _, _, hphase, -⟩ := blocked j hjrank hjstep
          rw [hj] at hphase
          cases hphase

theorem rank_statement_lt {i : ι} (h : (mailSystem ι).step s (.statement i) = some s')
    (hrank : (s.calls i).rank ≠ 0) : (s'.calls i).rank < (s.calls i).rank := by
  cases mailMoves_of_step h with
  | insert hcall hmove =>
      rw [MailState.goOn_calls_self, hcall]
      exact hmove.rank_lt
  | read hcall hmove =>
      rw [hcall] at hrank
      exact absurd rfl hrank

theorem insertsInvariant_of_reaches {C : MailState ι → MailAction ι → Prop}
    (hstart : InsertsInvariant s₀ s₀) (h : (mailSystem ι).Reaches C s₀ s) :
    InsertsInvariant s₀ s :=
  h.invariant (I := InsertsInvariant s₀) hstart fun _ _ _ hinv _ hstep =>
    hinv.step (mailMoves_of_step hstep)

/-- From every state the inserts can all be run to their end. -/
theorem InsertsInvariant.finish (hinv : InsertsInvariant s₀ s) :
    ∃ s', (mailSystem ι).Reaches (fun _ a => ∃ i, a = .statement i) s s' ∧
      ∀ i, (s'.calls i).rank = 0 := by
  induction hn : ∑ i, (s.calls i).rank using Nat.strong_induction_on generalizing s with
  | _ n ih =>
      by_cases hall : ∀ i, (s.calls i).rank = 0
      · exact ⟨s, .refl, hall⟩
      · rw [not_forall] at hall
        obtain ⟨i, hi⟩ := hall
        obtain ⟨j, s₁, hj, hstep⟩ := hinv.progress hi
        have hmoves := mailMoves_of_step hstep
        have hlt : ∑ k, (s₁.calls k).rank < ∑ k, (s.calls k).rank := by
          apply Finset.sum_lt_sum
          · intro k _
            by_cases hk : k = j
            · subst hk
              exact (rank_statement_lt hstep hj).le
            · rw [hmoves.others hk]
          · exact ⟨j, Finset.mem_univ j, rank_statement_lt hstep hj⟩
        obtain ⟨s', hreach, hrank⟩ := ih _ (hn ▸ hlt) (hinv.step hmoves) rfl
        have hfirst : (mailSystem ι).Reaches (fun _ a => ∃ i, a = .statement i) s s₁ :=
          .step .refl ⟨j, rfl⟩ hstep
        exact ⟨s', hfirst.trans hreach, hrank⟩

end Steps

/-! ## The calls with one sender and idempotency key -/

section Outcomes

variable {s₀ s : MailState ι}

namespace MailState

variable (s₀ s : MailState ι) (sender : SenderRef) (key : String)

/-- Calls before their first statement, on a store as its operations leave it. -/
structure Starts : Prop where
  fresh : ∀ i, (s₀.calls i).Fresh
  unique : UniqueKeys s₀.db
  orphans : NoOrphans s₀.db

/-- The inserts with this sender and key have recipients, each of them once, and a
message id of their own. -/
def WellCalled : Prop :=
  ∀ i mail recipientIds phase, s₀.calls i = .insert mail recipientIds phase →
    mail.sender = sender → mail.idempotencyKey = some key →
      recipientIds ≠ [] ∧ recipientIds.Nodup ∧ ¬s₀.IdUsed i mail.id

/-- Call `i` reports that it inserted a message with this sender and key. -/
def InsertedUnder (i : ι) : Prop :=
  ∃ mail, s.ReportsInserted i mail ∧ mail.sender = sender ∧ mail.idempotencyKey = some key

/-- The result of a call with this sender and key: the stored message and its
deliveries, when payload and recipients are those of the message, and a conflict when
they are not. -/
def Settles (mail : Mail) (recipientIds : List SessionId)
    (result : Except MailError MailWriteOutcome) : Prop :=
  ∃ id row, StoredUnder s.db sender key id row ∧
    ((Agrees s.db id row mail recipientIds ∧ ∃ outcome, result = .ok outcome ∧
        outcome.mail.map (fun item => item.recipientId) = recipientIds ∧
        ∀ item ∈ outcome.mail, ReportsDelivery s₀.HasRead s.db id row item) ∨
      (¬Agrees s.db id row mail recipientIds ∧ result = .error (.idempotencyConflict key)))

end MailState

theorem MailState.Starts.invariant {s₀ : MailState ι} (h : s₀.Starts) :
    InsertsInvariant s₀ s₀ where
  unique := h.unique
  orphans := h.orphans
  reads i recipientId readAt phase hcall := ⟨i, recipientId, readAt, phase, hcall⟩
  inserts i mail recipientIds phase hcall := by
    refine ⟨⟨phase, hcall⟩, ?_⟩
    have hfresh := h.fresh i
    rw [hcall] at hfresh
    subst hfresh
    exact fun hretry => by cases hretry
  locks i j mail mail' hne hi hj := by
    obtain ⟨recipientIds, inserted, rest, hcall⟩ := pendingMessage_eq_some hi
    have hfresh := h.fresh i
    rw [hcall] at hfresh
    cases hfresh
  kept id row hrow := hrow
  origin id row hrow := .inl hrow
  once i j mail mail' hi := by
    obtain ⟨recipientIds, outcome, hcall, -⟩ := hi
    have hfresh := h.fresh i
    rw [hcall] at hfresh
    cases hfresh

/-- A call that reports an insert has stored its message, which was not there. -/
theorem InsertsInvariant.stored_of_insertedUnder (hinv : InsertsInvariant s₀ s) {i : ι}
    {mail : Mail} (hreports : s.ReportsInserted i mail) :
    s.db.messages.lookup mail.id = some (messageRow mail) ∧
      s₀.db.messages.lookup mail.id = none := by
  obtain ⟨recipientIds, outcome, hcall, hinserted⟩ := hreports
  rcases (hinv.inserts i _ _ _ hcall).2 with ⟨-, hnone⟩ | ⟨id, row, hreported⟩
  · rw [hnone] at hinserted
    cases hinserted
  · obtain ⟨rfl, rfl, hstart⟩ := hreported.inserted hinserted
    exact ⟨hreported.stored, hstart⟩

theorem InsertsInvariant.settles (hinv : InsertsInvariant s₀ s) {sender : SenderRef}
    {key : String} (hcalls : s₀.WellCalled sender key) {i : ι} {mail : Mail}
    {recipientIds : List SessionId} {result : Except MailError MailWriteOutcome}
    (hcall : s.calls i = .insert mail recipientIds (.finished result))
    (hsender : mail.sender = sender) (hkey : mail.idempotencyKey = some key) :
    s₀.Settles s sender key mail recipientIds result := by
  obtain ⟨⟨phase₀, hcall₀⟩, hknows⟩ := hinv.inserts i _ _ _ hcall
  obtain ⟨hne, hnodup, hfresh⟩ := hcalls i mail recipientIds phase₀ hcall₀ hsender hkey
  cases result with
  -- a result: the message was inserted or found under the key
  | ok outcome =>
      rcases hknows with ⟨hnil, -⟩ | ⟨id, row, hreported⟩
      · exact absurd hnil hne
      · have hmatch := hreported.agrees.1
        refine ⟨id, row, ⟨hreported.stored, hmatch.1.trans hsender, ?_⟩,
          .inl ⟨hreported.agrees, outcome, rfl, hreported.recipients, hreported.deliveries⟩⟩
        exact hmatch.2.2.2.2.trans hkey
  -- an error: only a message that differs can cause one, for the id is new and the recipients
  -- distinct
  | error e =>
      have hfailed : Failed (s₀.IdUsed i mail.id) s.db mail recipientIds e := hknows
      cases hfailed with
      | @differs id row own hown hstored hdiffers =>
          rw [hkey] at hown
          cases hown
          refine ⟨id, row, ⟨hstored.1, hstored.2.1.trans hsender, hstored.2.2⟩,
            .inr ⟨hdiffers, ?_⟩⟩
          rw [keyConflict, hkey]
          rfl
      | idTaken hused => exact absurd hused hfresh
      | recipientTwice htwice => exact absurd hnodup htwice

end Outcomes

section Idempotency

variable [Fintype ι] [DecidableEq ι] {s₀ s s' : MailState ι} {a : MailAction ι}

/-- A call that does not end with success has changed nothing. -/
theorem MailMoves.db_of_not_ok (h : MailMoves s a s') {mail : Mail}
    {recipientIds : List SessionId} {phase : InsertPhase}
    (hcall' : s'.calls a.call = .insert mail recipientIds phase)
    (hphase : ∀ outcome, phase ≠ .finished (.ok outcome)) : s'.db = s.db := by
  cases h with
  | insert hcall hmove =>
      rw [MailAction.call, MailState.goOn_calls_self] at hcall'
      cases hcall'
      cases hmove with
      | commit => exact absurd rfl (hphase _)
      | _ => rfl
  | read hcall hmove =>
      rw [MailAction.call, MailState.goOn_calls_self] at hcall'
      cases hcall'
  | breakInsert hcall hphase' => rfl
  | breakRead hcall hphase' => rfl

/-- What the inserts with one sender and key can rely on. One message at most is
stored. If none was at the start and a call has succeeded, exactly one call reports
that it inserted; if one was, no call does. A call that has finished returned the
stored message and its deliveries, or got a conflict because it differs. A call
without success has changed nothing. And the inserts can all be run to their end. -/
structure MailState.Idempotent (s₀ s : MailState ι) (sender : SenderRef) (key : String) :
    Prop where
  oneMessage : ∀ id id' row row', StoredUnder s.db sender key id row →
    StoredUnder s.db sender key id' row' → id = id'
  oneInsert : (∀ id row, ¬StoredUnder s₀.db sender key id row) →
    (∃ i mail recipientIds outcome,
      s.calls i = .insert mail recipientIds (.finished (.ok outcome)) ∧
        mail.sender = sender ∧ mail.idempotencyKey = some key) →
    ∃! i, s.InsertedUnder sender key i
  noInsert : ∀ id row, StoredUnder s₀.db sender key id row → ∀ i, ¬s.InsertedUnder sender key i
  settles : ∀ i mail recipientIds result,
    s.calls i = .insert mail recipientIds (.finished result) → mail.sender = sender →
      mail.idempotencyKey = some key → s₀.Settles s sender key mail recipientIds result
  unchanged : ∀ a s' mail recipientIds phase, (mailSystem ι).step s a = some s' →
    s'.calls a.call = .insert mail recipientIds phase →
      (∀ outcome, phase ≠ .finished (.ok outcome)) → s'.db = s.db
  finish : ∃ s', (mailSystem ι).Reaches (fun _ a => ∃ i, a = .statement i) s s' ∧
    ∀ i, (s'.calls i).rank = 0

/-- Idempotency holds in every state of every run of the calls. -/
theorem insert_mail_idempotent {s₀ s : MailState ι} {sender : SenderRef} {key : String}
    (hstart : s₀.Starts) (hcalls : s₀.WellCalled sender key)
    (hreach : (mailSystem ι).Reaches (fun _ _ => True) s₀ s) :
    s₀.Idempotent s sender key := by
  have hinv := insertsInvariant_of_reaches hstart.invariant hreach
  -- the key is unique among the rows
  have hone : ∀ id id' row row', StoredUnder s.db sender key id row →
      StoredUnder s.db sender key id' row' → id = id' := by
    rintro id id' row row' ⟨hrow, hsender, hkey⟩ ⟨hrow', hsender', hkey'⟩
    apply hinv.unique id id' row row' hrow hrow' (hsender.trans hsender'.symm)
      (hkey.trans hkey'.symm)
    rw [hkey]
    exact Option.some_ne_none key
  refine ⟨hone, ?_, ?_, fun i mail recipientIds result => hinv.settles hcalls, ?_, hinv.finish⟩
  -- no row was there at first: one call has inserted it, and only one
  · rintro hnone ⟨i, mail, recipientIds, outcome, hcall, hsender, hkey⟩
    obtain ⟨id, row, hstored, -⟩ := hinv.settles hcalls hcall hsender hkey
    rcases hinv.origin id row hstored.1 with hold | ⟨j, other, hreports, rfl⟩
    · exact absurd ⟨hold, hstored.2⟩ (hnone id row)
    · have hrow := (hinv.stored_of_insertedUnder hreports).1
      rw [hstored.1] at hrow
      cases hrow
      refine ⟨j, ⟨other, hreports, hstored.2⟩, ?_⟩
      rintro k ⟨own, hown, hownSender, hownKey⟩
      have hownStored : StoredUnder s.db sender key own.id (messageRow own) :=
        ⟨(hinv.stored_of_insertedUnder hown).1, hownSender, hownKey⟩
      exact hinv.once k j own other hown hreports (hone _ _ _ _ hownStored hstored)
  -- a row was there at first, so no call reports a message of its own
  · rintro id row ⟨hrow, hrowKey⟩ i ⟨mail, hreports, hsender, hkey⟩
    obtain ⟨hmessage, hnone⟩ := hinv.stored_of_insertedUnder hreports
    have hid := hone _ _ _ _ ⟨hmessage, hsender, hkey⟩ ⟨hinv.kept id row hrow, hrowKey⟩
    rw [hid, hrow] at hnone
    cases hnone
  · intro a s' mail recipientIds phase hstep
    exact (mailMoves_of_step hstep).db_of_not_ok

end Idempotency

/-! ## Two inserts that race -/

/-- A mail with an idempotency key. -/
def keyedMail (id : MessageId) (content : String) : Mail where
  id := id
  sender := .session ⟨3⟩
  recipientId := ⟨1⟩
  content := content
  sentAt := 5
  readAt := none
  status := .unread
  contextId := "context"
  intent := .request
  idempotencyKey := some "send-1"

/-- Two inserts of one sender and key, and a third one with another payload. -/
def racingInserts : MailState (Fin 3) where
  db := .migrated 0
  calls
    | 0 => .insert (keyedMail ⟨7⟩ "send once") [⟨1⟩] (.start false)
    | 1 => .insert (keyedMail ⟨8⟩ "send once") [⟨1⟩] (.start false)
    | 2 => .insert (keyedMail ⟨9⟩ "send twice") [⟨1⟩] (.start false)

theorem racingInserts_starts : racingInserts.Starts where
  fresh
    | 0 => rfl
    | 1 => rfl
    | 2 => rfl
  unique id id' row row' hrow := by cases hrow
  orphans key delivery hrow := by cases hrow

theorem racingInserts_wellCalled : racingInserts.WellCalled (.session ⟨3⟩) "send-1" := by
  have unused : ∀ i, ∀ id : MessageId, (∀ j, j ≠ i → ∀ mail recipientIds phase,
      racingInserts.calls j = .insert mail recipientIds phase → mail.id ≠ id) →
        ¬racingInserts.IdUsed i id := by
    rintro i id hothers (⟨row, hrow⟩ | ⟨j, mail, recipientIds, phase, hne, hcall, hid⟩)
    · cases hrow
    · exact hothers j hne mail recipientIds phase hcall hid
  have ids : ∀ j mail recipientIds phase,
      racingInserts.calls j = .insert mail recipientIds phase →
        mail.id = ⟨7 + BitVec.ofNat 128 j.val⟩ ∧ recipientIds = [⟨1⟩] := by
    intro j mail recipientIds phase hcall
    match j with
    | 0 => cases hcall; exact ⟨rfl, rfl⟩
    | 1 => cases hcall; exact ⟨rfl, rfl⟩
    | 2 => cases hcall; exact ⟨rfl, rfl⟩
  intro i mail recipientIds phase hcall _ _
  obtain ⟨hid, rfl⟩ := ids i mail recipientIds phase hcall
  refine ⟨List.cons_ne_nil _ _, List.nodup_singleton _, unused i mail.id ?_⟩
  intro j hne other recipients phase' hcall' hsame
  obtain ⟨hid', -⟩ := ids j other recipients phase' hcall'
  have distinct : ∀ i j : Fin 3,
      MessageId.mk (7 + BitVec.ofNat 128 j.val) = ⟨7 + BitVec.ofNat 128 i.val⟩ → j = i := by
    decide
  rw [hid, hid'] at hsame
  exact hne (distinct i j hsame)

/-- The second call loses the race and replays; the third one differs. -/
theorem racingInserts_idempotent :
    ∃ s, (mailSystem (Fin 3)).follow racingInserts
        [.statement 0, .statement 1, .statement 0, .statement 0, .statement 0, .statement 1,
          .statement 1, .statement 1, .statement 1, .statement 1, .statement 2] = some s ∧
      racingInserts.Idempotent s (.session ⟨3⟩) "send-1" := by
  have hrun : ∃ s, (mailSystem (Fin 3)).follow racingInserts
      [.statement 0, .statement 1, .statement 0, .statement 0, .statement 0, .statement 1,
        .statement 1, .statement 1, .statement 1, .statement 1, .statement 2] = some s :=
    ⟨_, rfl⟩
  obtain ⟨s, hfollow⟩ := hrun
  have hreach := StepSystem.reaches_of_follow (C := fun _ _ => True) hfollow fun _ _ _ => trivial
  exact ⟨s, hfollow, insert_mail_idempotent racingInserts_starts racingInserts_wellCalled hreach⟩

end LittleOrgans.Store
