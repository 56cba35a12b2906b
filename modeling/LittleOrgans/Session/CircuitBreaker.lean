import LittleOrgans.Session.MailRendering
import LittleOrgans.Store.MailTransactions

/-!
# The mail circuit breaker

Any number of `mail_send` requests on one store, interleaved at the granularity of
their store calls; the insert goes statement by statement, as in `MailTransactions`.
The breaker counts the conversation, then the sender, and the insert commits later,
so another send may have committed in between. The count of the sender starts from
the clock of the check, while the mail was stamped before.

`breaker_bounds`: in a run in which every commit leaves room for the sends that have
passed the breaker, and in which the late clock does not change the answer of the
breaker, the limits are never exceeded.
-/

set_option autoImplicit false

namespace LittleOrgans.Session

open LittleOrgans.Core
open LittleOrgans.Library
open LittleOrgans.Store

/-! ## Interleaved sends -/

/-- Where a send is between two store calls. `replay`, `depth` and `rate` stand before
the idempotency check and the two counts of the breaker. -/
inductive SendPhase where
  | start
  | replay (mail : Mail) (recipientIds : List SessionId)
  | depth (mail : Mail) (recipientIds : List SessionId)
  | rate (mail : Mail) (recipientIds : List SessionId)
  | insert (mail : Mail) (recipientIds : List SessionId) (phase : InsertPhase)
  | ended (error : Option HandlerError)

namespace SendPhase

/-- The insert can still commit. -/
def inserting : InsertPhase → Bool
  | .finished _ => false
  | .broken => false
  | _ => true

/-- The mail of a send that has passed the breaker and may commit. -/
def passedRate : SendPhase → Option Mail
  | .insert mail _ phase => if inserting phase then some mail else none
  | _ => none

/-- The mail of a send that has passed the count of the conversation and may commit. -/
def passedDepth : SendPhase → Option Mail
  | .rate mail _ => some mail
  | phase => phase.passedRate

end SendPhase

/-- A caller who sends a mail. -/
structure SendCall where
  context : RequestContext
  request : MailSendRequest
  env : SendEnv
  phase : SendPhase

namespace SendCall

/-- The insert of the send, once it has begun. -/
def mailCall (call : SendCall) : Option MailCall :=
  match call.phase with
  | .insert mail recipientIds phase => some (.insert mail recipientIds phase)
  | _ => none

/-- The next store call of a send. `now` is the clock of the rate check; the mail is
stamped when it is made, with the clock of the request. -/
def statement (limits : MailSafetyConfig) (db : Database) (waits : (MailCall → Bool) → Bool)
    (now : DateTime) (call : SendCall) : Option (SendPhase × Database) :=
  match call.phase with
  | .start =>
      match prepareSend db call.context call.request with
      | .error error => some (.ended (some error), db)
      | .ok (sessions, sender) =>
          match deliverableSessions sessions call.env.authorized with
          | [] => some (.ended none, db)
          | first :: rest =>
              some (.replay (mailFromRequest call.request sender first.id call.env)
                ((first :: rest).map fun session => session.id), db)
  | .replay mail recipientIds =>
      match appendIdempotentMail db mail recipientIds with
      | .error error => some (.ended (some error), db)
      | .ok (some _) => some (.ended none, db)
      | .ok none =>
          if mail.intent = .receipt then some (.insert mail recipientIds (.start false), db)
          else some (.depth mail recipientIds, db)
  | .depth mail recipientIds =>
      let depth := countConversationDepth db mail.contextId
      if limits.conversationDepthLimit ≤ depth then
        some (.ended (some (.conversationDepth mail.contextId depth
          limits.conversationDepthLimit)), db)
      else some (.rate mail recipientIds, db)
  | .rate mail recipientIds =>
      let rate := countSenderRateSince db mail.sender (now - limits.senderRateWindow)
      if limits.senderRateLimit ≤ rate then
        some (.ended (some (.senderRate rate limits.senderRateWindow limits.senderRateLimit)), db)
      else some (.insert mail recipientIds (.start false), db)
  | .insert mail recipientIds phase =>
      (insertStatement db waits mail recipientIds phase).map fun next =>
        (.insert mail recipientIds next.1, next.2)
  | .ended _ => none

/-- The connection of a send fails; what its insert has written is rolled back. -/
def disconnect (call : SendCall) : Option SendPhase :=
  match call.phase with
  | .insert _ _ (.finished _) => none
  | .insert mail recipientIds _ => some (.insert mail recipientIds .broken)
  | .start => some (.ended (some (.store "failed to resolve selector")))
  | .replay _ _ => some (.ended (some (.store "failed to load idempotent mail")))
  | .depth _ _ => some (.ended (some (.store "failed to count conversation depth")))
  | .rate _ _ => some (.ended (some (.store "failed to count sender mail rate")))
  | .ended _ => none

end SendCall

/-- The store, and how far each send has come. -/
structure BreakerState (ι : Type) where
  db : Database
  sends : ι → SendCall

/-- A send goes on, or its connection is lost. -/
inductive SendAction (ι : Type) where
  | statement (i : ι) (now : DateTime)
  | disconnect (i : ι)

namespace BreakerState

variable {ι : Type} [Fintype ι] [DecidableEq ι]

/-- A send other than `i` holds a lock. -/
def waits (s : BreakerState ι) (i : ι) (holds : MailCall → Bool) : Bool :=
  decide (∃ j, j ≠ i ∧ (s.sends j).mailCall.any holds = true)

/-- Send `i` goes on. -/
def goOn (s : BreakerState ι) (i : ι) (phase : SendPhase) (db : Database) : BreakerState ι where
  db := db
  sends := Function.update s.sends i { s.sends i with phase := phase }

end BreakerState

/-- The sends, interleaved. -/
def breakerSystem (limits : MailSafetyConfig) (ι : Type) [Fintype ι] [DecidableEq ι] :
    StepSystem (BreakerState ι) (SendAction ι) where
  step s
    | .statement i now =>
        ((s.sends i).statement limits s.db (s.waits i) now).map fun next => s.goOn i next.1 next.2
    | .disconnect i => (s.sends i).disconnect.map fun phase => s.goOn i phase s.db

/-! ## The bounds -/

/-- Messages of a sender stamped in an interval, receipts left out. -/
def countSenderBetween (db : Database) (sender : SenderRef) (first last : DateTime) : Nat :=
  db.messages.rows.countP fun row =>
    row.2.sender = sender ∧ row.2.intent ≠ .receipt ∧ first ≤ row.2.sentAt ∧ row.2.sentAt ≤ last

/-- No conversation is deeper than its limit, and no window of time holds more
messages of a sender than its limit. -/
structure BreakerBounds (limits : MailSafetyConfig) (db : Database) : Prop where
  depth : ∀ contextId, countConversationDepth db contextId ≤ limits.conversationDepthLimit
  rate : ∀ sender first,
    countSenderBetween db sender first (first + limits.senderRateWindow) ≤ limits.senderRateLimit

/-- The commit of a mail leaves another send room for its own. -/
structure LeavesRoom (limits : MailSafetyConfig) (db : Database) (mail : Mail)
    (phase : SendPhase) : Prop where
  depth : ∀ other, phase.passedDepth = some other → other.contextId = mail.contextId →
    countConversationDepth db mail.contextId + 1 < limits.conversationDepthLimit
  rate : ∀ other, phase.passedRate = some other → other.sender = mail.sender →
    other.sentAt - limits.senderRateWindow ≤ mail.sentAt →
      countSenderRateSince db mail.sender (other.sentAt - limits.senderRateWindow) + 1 <
        limits.senderRateLimit

instance (limits : MailSafetyConfig) (db : Database) (mail : Mail) (phase : SendPhase) :
    Decidable (LeavesRoom limits db mail phase) :=
  decidable_of_iff
    ((∀ other ∈ phase.passedDepth, other.contextId = mail.contextId →
        countConversationDepth db mail.contextId + 1 < limits.conversationDepthLimit) ∧
      ∀ other ∈ phase.passedRate, other.sender = mail.sender →
        other.sentAt - limits.senderRateWindow ≤ mail.sentAt →
          countSenderRateSince db mail.sender (other.sentAt - limits.senderRateWindow) + 1 <
            limits.senderRateLimit)
    ⟨fun h => ⟨h.1, h.2⟩, fun h => ⟨h.depth, h.rate⟩⟩

/-- What a statement of send `i` in this phase must leave: a commit leaves room for
every other send that has passed a count of the breaker; and a sender that has room by
the clock of the check has room by the stamp of the mail. -/
def LeavesBreakerSoundFrom {ι : Type} (limits : MailSafetyConfig) (s : BreakerState ι) (i : ι)
    (now : DateTime) : SendPhase → Prop
  | .insert mail _ (.deliveries _ []) =>
      ∀ j, j ≠ i → LeavesRoom limits s.db mail (s.sends j).phase
  | .rate mail _ =>
      countSenderRateSince s.db mail.sender (now - limits.senderRateWindow) <
          limits.senderRateLimit →
        countSenderRateSince s.db mail.sender (mail.sentAt - limits.senderRateWindow) <
          limits.senderRateLimit
  | _ => True

/-- What a step of a send must find for the limits to hold. -/
def LeavesBreakerSound {ι : Type} (limits : MailSafetyConfig) (s : BreakerState ι) :
    SendAction ι → Prop
  | .disconnect _ => True
  | .statement i now => LeavesBreakerSoundFrom limits s i now (s.sends i).phase

section Decidable

variable {ι : Type} [Fintype ι] [DecidableEq ι]

instance (limits : MailSafetyConfig) (s : BreakerState ι) (i : ι) (now : DateTime) :
    (phase : SendPhase) → Decidable (LeavesBreakerSoundFrom limits s i now phase)
  | .insert mail _ (.deliveries _ []) =>
      inferInstanceAs (Decidable (∀ j, j ≠ i → LeavesRoom limits s.db mail (s.sends j).phase))
  | .rate mail _ =>
      inferInstanceAs (Decidable (countSenderRateSince s.db mail.sender
        (now - limits.senderRateWindow) < limits.senderRateLimit →
          countSenderRateSince s.db mail.sender (mail.sentAt - limits.senderRateWindow) <
            limits.senderRateLimit))
  | .start => isTrue trivial
  | .replay _ _ => isTrue trivial
  | .depth _ _ => isTrue trivial
  | .insert _ _ (.deliveries _ (_ :: _)) => isTrue trivial
  | .insert _ _ (.start _) => isTrue trivial
  | .insert _ _ (.recipients _ _) => isTrue trivial
  | .insert _ _ (.replay _ _ _ _) => isTrue trivial
  | .insert _ _ (.message _) => isTrue trivial
  | .insert _ _ (.finished _) => isTrue trivial
  | .insert _ _ .broken => isTrue trivial
  | .ended _ => isTrue trivial

instance (limits : MailSafetyConfig) (s : BreakerState ι) :
    (a : SendAction ι) → Decidable (LeavesBreakerSound limits s a)
  | .disconnect _ => isTrue trivial
  | .statement i now =>
      inferInstanceAs (Decidable (LeavesBreakerSoundFrom limits s i now (s.sends i).phase))

end Decidable

/-- No message is stored, and no send has begun. -/
structure BreakerStart {ι : Type} (s : BreakerState ι) : Prop where
  messages : s.db.messages = .empty
  sends : ∀ i, (s.sends i).phase = .start

/-- What carries the bounds from step to step: a send that has passed a count still
has room. -/
structure BreakerInvariant {ι : Type} (limits : MailSafetyConfig) (s : BreakerState ι) : Prop where
  bounds : BreakerBounds limits s.db
  passedDepth : ∀ i mail, (s.sends i).phase.passedDepth = some mail → mail.intent ≠ .receipt →
    countConversationDepth s.db mail.contextId < limits.conversationDepthLimit
  passedRate : ∀ i mail, (s.sends i).phase.passedRate = some mail → mail.intent ≠ .receipt →
    countSenderRateSince s.db mail.sender (mail.sentAt - limits.senderRateWindow) <
      limits.senderRateLimit

/-! ## Counts after a commit -/

section Counts

variable {db : Database} {mail : Mail}

theorem countConversationDepth_commitInsert (inserted : List SessionId) (contextId : String) :
    countConversationDepth (db.commitInsert mail inserted) contextId ≤
      countConversationDepth db contextId +
        if mail.contextId = contextId ∧ mail.intent ≠ .receipt then 1 else 0 :=
  Table.countP_insert_le _ _ _ _

theorem countSenderRateSince_commitInsert (inserted : List SessionId) (sender : SenderRef)
    (since : DateTime) :
    countSenderRateSince (db.commitInsert mail inserted) sender since ≤
      countSenderRateSince db sender since +
        if mail.sender = sender ∧ mail.intent ≠ .receipt ∧ since ≤ mail.sentAt then 1 else 0 :=
  Table.countP_insert_le _ _ _ _

theorem countSenderBetween_commitInsert (inserted : List SessionId) (sender : SenderRef)
    (first last : DateTime) :
    countSenderBetween (db.commitInsert mail inserted) sender first last ≤
      countSenderBetween db sender first last +
        if mail.sender = sender ∧ mail.intent ≠ .receipt ∧ first ≤ mail.sentAt ∧
          mail.sentAt ≤ last then 1 else 0 :=
  Table.countP_insert_le _ _ _ _

/-- A window that ends after `stamp` holds no more than the count since its length
before `stamp`. -/
theorem countSenderBetween_le {sender : SenderRef} {first stamp : DateTime} {window : Int}
    (h : stamp ≤ first + window) :
    countSenderBetween db sender first (first + window) ≤
      countSenderRateSince db sender (stamp - window) := by
  refine List.countP_mono_left fun row _ hrow => ?_
  obtain ⟨hsender, hintent, hfirst, _⟩ := of_decide_eq_true hrow
  have hsince : stamp - window ≤ row.2.sentAt :=
    Int.le_trans (Int.sub_right_le_of_le_add h) hfirst
  exact decide_eq_true ⟨hsender, hintent, hsince⟩

end Counts

/-! ## What a step keeps -/

section Steps

variable {limits : MailSafetyConfig} {ι : Type} {s s' : BreakerState ι}

/-- The mail a send goes on with has room. -/
structure HasRoom (limits : MailSafetyConfig) (db : Database) (phase : SendPhase) : Prop where
  depth : ∀ mail, phase.passedDepth = some mail → mail.intent ≠ .receipt →
    countConversationDepth db mail.contextId < limits.conversationDepthLimit
  rate : ∀ mail, phase.passedRate = some mail → mail.intent ≠ .receipt →
    countSenderRateSince db mail.sender (mail.sentAt - limits.senderRateWindow) <
      limits.senderRateLimit

theorem hasRoom_of_none {db : Database} {phase : SendPhase} (h : phase.passedDepth = none) :
    HasRoom limits db phase := by
  constructor
  · intro mail hpassed
    rw [h] at hpassed
    cases hpassed
  · intro mail hpassed
    cases phase with
    | insert other recipientIds phase =>
        rw [SendPhase.passedDepth] at h
        · rw [h] at hpassed
          cases hpassed
        · intro other recipientIds hphase
          cases hphase
    | _ => cases hpassed

theorem hasRoom_of_receipt {db : Database} {mail : Mail} {recipientIds : List SessionId}
    {phase : InsertPhase} (h : mail.intent = .receipt) :
    HasRoom limits db (.insert mail recipientIds phase) := by
  have hmail : ∀ other, (SendPhase.insert mail recipientIds phase).passedRate = some other →
      other = mail := by
    intro other hpassed
    rw [SendPhase.passedRate] at hpassed
    split at hpassed
    · cases hpassed
      rfl
    · cases hpassed
  exact ⟨fun other hpassed hintent => absurd (hmail other hpassed ▸ h) hintent,
    fun other hpassed hintent => absurd (hmail other hpassed ▸ h) hintent⟩

/-- The commit of a send that has passed both counts stays within the limits. -/
theorem BreakerInvariant.bounds_commit (h : BreakerInvariant limits s) {i : ι} {mail : Mail}
    (hdepth : (s.sends i).phase.passedDepth = some mail)
    (hrate : (s.sends i).phase.passedRate = some mail) (inserted : List SessionId) :
    BreakerBounds limits (s.db.commitInsert mail inserted) := by
  constructor
  · intro contextId
    refine (countConversationDepth_commitInsert inserted contextId).trans ?_
    split
    · next hcounts =>
        have := h.passedDepth i mail hdepth hcounts.2
        rw [hcounts.1] at this
        omega
    · exact h.bounds.depth contextId
  · intro sender first
    refine (countSenderBetween_commitInsert inserted sender first _).trans ?_
    split
    · next hcounts =>
        obtain ⟨rfl, hintent, _, hlast⟩ := hcounts
        have hwindow : countSenderBetween s.db mail.sender first
            (first + limits.senderRateWindow) ≤ _ := countSenderBetween_le hlast
        have := h.passedRate i mail hrate hintent
        omega
    · exact h.bounds.rate sender first

theorem breakerInvariant_start (h : BreakerStart s) : BreakerInvariant limits s := by
  constructor
  · constructor
    · intro contextId
      rw [countConversationDepth, h.messages]
      exact Nat.zero_le _
    · intro sender first
      rw [countSenderBetween, h.messages]
      exact Nat.zero_le _
  · intro i mail hpassed
    rw [h.sends i] at hpassed
    cases hpassed
  · intro i mail hpassed
    rw [h.sends i] at hpassed
    cases hpassed

variable [DecidableEq ι]

@[simp]
theorem BreakerState.goOn_db (i : ι) (phase : SendPhase) (db : Database) :
    (s.goOn i phase db).db = db := rfl

@[simp]
theorem BreakerState.goOn_phase_self (i : ι) (phase : SendPhase) (db : Database) :
    ((s.goOn i phase db).sends i).phase = phase :=
  congrArg SendCall.phase (Function.update_self i _ s.sends)

theorem BreakerState.goOn_phase_of_ne {i j : ι} (hne : j ≠ i) (phase : SendPhase)
    (db : Database) : ((s.goOn i phase db).sends j).phase = (s.sends j).phase :=
  congrArg SendCall.phase (Function.update_of_ne hne _ s.sends)

/-- A send whose step leaves the store alone keeps the invariant if it has room itself. -/
theorem BreakerInvariant.goOn (h : BreakerInvariant limits s) (i : ι) {phase : SendPhase}
    (hroom : HasRoom limits s.db phase) : BreakerInvariant limits (s.goOn i phase s.db) where
  bounds := h.bounds
  passedDepth := by
    intro j mail hpassed
    by_cases hj : j = i
    · subst hj
      rw [BreakerState.goOn_phase_self] at hpassed
      exact hroom.depth mail hpassed
    · rw [BreakerState.goOn_phase_of_ne hj] at hpassed
      exact h.passedDepth j mail hpassed
  passedRate := by
    intro j mail hpassed
    by_cases hj : j = i
    · subst hj
      rw [BreakerState.goOn_phase_self] at hpassed
      exact hroom.rate mail hpassed
    · rw [BreakerState.goOn_phase_of_ne hj] at hpassed
      exact h.passedRate j mail hpassed

/-- A commit that leaves room for the other sends keeps the invariant. -/
theorem BreakerInvariant.commit (h : BreakerInvariant limits s) {i : ι} {mail : Mail}
    (hdepth : (s.sends i).phase.passedDepth = some mail)
    (hrate : (s.sends i).phase.passedRate = some mail)
    (hroom : ∀ j, j ≠ i → LeavesRoom limits s.db mail (s.sends j).phase)
    (inserted : List SessionId) {phase : SendPhase} (hphase : phase.passedDepth = none) :
    BreakerInvariant limits (s.goOn i phase (s.db.commitInsert mail inserted)) where
  bounds := h.bounds_commit hdepth hrate inserted
  passedDepth := by
    intro j other hpassed hintent
    by_cases hj : j = i
    · subst hj
      rw [BreakerState.goOn_phase_self, hphase] at hpassed
      cases hpassed
    · rw [BreakerState.goOn_phase_of_ne hj] at hpassed
      refine (countConversationDepth_commitInsert inserted other.contextId).trans_lt ?_
      split
      · next hcounts =>
          have := (hroom j hj).depth other hpassed hcounts.1.symm
          rwa [hcounts.1] at this
      · exact h.passedDepth j other hpassed hintent
  passedRate := by
    intro j other hpassed hintent
    by_cases hj : j = i
    · subst hj
      rw [BreakerState.goOn_phase_self] at hpassed
      exact (hasRoom_of_none hphase).rate other hpassed hintent
    · rw [BreakerState.goOn_phase_of_ne hj] at hpassed
      refine (countSenderRateSince_commitInsert inserted other.sender _).trans_lt ?_
      split
      · next hcounts =>
          have := (hroom j hj).rate other hpassed hcounts.1.symm hcounts.2.2
          rwa [hcounts.1] at this
      · exact h.passedRate j other hpassed hintent

/-- A statement of an insert other than its commit leaves the store alone and goes on
with an insert that could commit before. -/
theorem insertMoves_store {db db' : Database} {waits : (MailCall → Bool) → Bool} {mail : Mail}
    {recipientIds : List SessionId} {phase phase' : InsertPhase}
    (h : InsertMoves db waits mail recipientIds phase phase' db') :
    SendPhase.inserting phase = true ∧
      (db' = db ∨ ∃ inserted result, phase = .deliveries inserted [] ∧
        phase' = .finished result ∧ db' = db.commitInsert mail inserted) := by
  cases h with
  | commit => exact ⟨rfl, .inr ⟨_, _, rfl, rfl, rfl⟩⟩
  | _ => exact ⟨rfl, .inl rfl⟩

variable [Fintype ι]

theorem breakerInvariant_statement {i : ι} {now : DateTime}
    (h : BreakerInvariant limits s) (hsound : LeavesBreakerSound limits s (.statement i now))
    (hstep : (breakerSystem limits ι).step s (.statement i now) = some s') :
    BreakerInvariant limits s' := by
  obtain ⟨⟨phase', db'⟩, hnext, rfl⟩ := Option.map_eq_some_iff.mp hstep
  rw [SendCall.statement] at hnext
  have hsound : LeavesBreakerSoundFrom limits s i now (s.sends i).phase := hsound
  cases hphase : (s.sends i).phase with
  -- Before the checks, the call has passed no count.
  | start =>
      rw [hphase] at hnext
      dsimp only at hnext
      split at hnext
      · cases hnext
        exact h.goOn i (hasRoom_of_none rfl)
      · split at hnext
        · cases hnext
          exact h.goOn i (hasRoom_of_none rfl)
        · cases hnext
          exact h.goOn i (hasRoom_of_none rfl)
  | replay mail recipientIds =>
      rw [hphase] at hnext
      dsimp only at hnext
      split at hnext
      · cases hnext
        exact h.goOn i (hasRoom_of_none rfl)
      · cases hnext
        exact h.goOn i (hasRoom_of_none rfl)
      · split at hnext
        · next hreceipt =>
            cases hnext
            exact h.goOn i (hasRoom_of_receipt hreceipt)
        · cases hnext
          exact h.goOn i (hasRoom_of_none rfl)
  | depth mail recipientIds =>
      rw [hphase] at hnext
      dsimp only at hnext
      split at hnext
      · cases hnext
        exact h.goOn i (hasRoom_of_none rfl)
      · next hfree =>
          cases hnext
          refine h.goOn i ⟨fun other hpassed _ => ?_, fun other hpassed => ?_⟩
          · cases hpassed
            exact Nat.lt_of_not_le hfree
          · cases hpassed
  -- The room at the late clock is the hypothesis about this statement.
  | rate mail recipientIds =>
      rw [hphase] at hnext hsound
      dsimp only at hnext
      split at hnext
      · cases hnext
        exact h.goOn i (hasRoom_of_none rfl)
      · next hfree =>
          cases hnext
          refine h.goOn i ⟨fun other hpassed hintent => ?_, fun other hpassed _ => ?_⟩
          · cases hpassed
            exact h.passedDepth i mail (by rw [hphase]; rfl) hintent
          · cases hpassed
            exact hsound (Nat.lt_of_not_le hfree)
  | insert mail recipientIds phase =>
      rw [hphase] at hnext hsound
      obtain ⟨⟨next, db'⟩, hinsert, heq⟩ := Option.map_eq_some_iff.mp hnext
      cases heq
      obtain ⟨hinserting, hstore⟩ := insertMoves_store (insertMoves_of_statement hinsert)
      have hrate : (s.sends i).phase.passedRate = some mail := by
        rw [hphase]
        exact if_pos hinserting
      have hdepth : (s.sends i).phase.passedDepth = some mail := by
        rw [hphase] at hrate ⊢
        exact hrate
      -- A statement of the insert writes nothing, unless it is the commit.
      rcases hstore with rfl | ⟨inserted, result, rfl, rfl, rfl⟩
      · refine h.goOn i ⟨fun other hpassed hintent => ?_, fun other hpassed hintent => ?_⟩
        all_goals
          have hother : other = mail := by
            change (if _ then some mail else none) = some other at hpassed
            split at hpassed
            · cases hpassed
              rfl
            · cases hpassed
          subst hother
        · exact h.passedDepth i other hdepth hintent
        · exact h.passedRate i other hrate hintent
      · exact h.commit hdepth hrate hsound inserted rfl
  | ended error =>
      rw [hphase] at hnext
      cases hnext

theorem breakerInvariant_disconnect {i : ι} (h : BreakerInvariant limits s)
    (hstep : (breakerSystem limits ι).step s (.disconnect i) = some s') :
    BreakerInvariant limits s' := by
  obtain ⟨phase', hnext, rfl⟩ := Option.map_eq_some_iff.mp hstep
  refine h.goOn i (hasRoom_of_none ?_)
  rw [SendCall.disconnect] at hnext
  split at hnext <;> cases hnext <;> rfl

/-- While every commit leaves room for the sends that have passed a count, and the late
clock of the rate check does not change its answer, the breaker is a hard bound. -/
theorem breaker_bounds {s₀ : BreakerState ι} (hstart : BreakerStart s₀)
    (h : (breakerSystem limits ι).Reaches (LeavesBreakerSound limits) s₀ s) :
    BreakerBounds limits s.db := by
  refine (h.invariant (I := BreakerInvariant limits) (breakerInvariant_start hstart) ?_).bounds
  intro s a s' hs hsound hstep
  cases a with
  | statement i now => exact breakerInvariant_statement hs hsound hstep
  | disconnect i => exact breakerInvariant_disconnect hs hstep

end Steps

/-! ## Runs of two sends -/

/-- The send of an operator to session 1, under its own message id and stamp. -/
def operatorSend (id : MessageId) (stamp : DateTime) : SendCall where
  context := ⟨"{}", none⟩
  request := ⟨.id ⟨1⟩, "status?", none, none, "context", .request, none⟩
  env := ⟨fun _ => true, id, stamp, fun _ => none⟩
  phase := .start

/-- Two sends on a store with one running session; the second is stamped later. -/
def twoSends (stamp : DateTime) : BreakerState Bool where
  db := MailboxStep.apply (.migrated 0)
    (.spawn (sampleDraft ⟨1⟩) (sampleLifecycle ⟨1⟩ .running) none 0)
  sends := fun second => if second then operatorSend ⟨8⟩ stamp else operatorSend ⟨7⟩ 0

/-- A send up to its insert, with the clock of its rate check. -/
def checksOf (second : Bool) (now : DateTime) : List (SendAction Bool) :=
  List.replicate 4 (.statement second now)

/-- The statements of the insert, the commit included. -/
def insertOf (second : Bool) : List (SendAction Bool) := List.replicate 4 (.statement second 0)

theorem breakerStart_twoSends (stamp : DateTime) : BreakerStart (twoSends stamp) :=
  ⟨rfl, fun second => by cases second <;> rfl⟩

/-- One send after the other, the second one a minute later. -/
theorem breaker_bounds_twoSends :
    ∃ s, (breakerSystem ⟨2, 1, 60⟩ Bool).follow (twoSends 61)
        (checksOf false 0 ++ insertOf false ++ checksOf true 61 ++ insertOf true) = some s ∧
      BreakerBounds ⟨2, 1, 60⟩ s.db := by
  have hrun : ∃ s, (breakerSystem ⟨2, 1, 60⟩ Bool).follow (twoSends 61)
      (checksOf false 0 ++ insertOf false ++ checksOf true 61 ++ insertOf true) = some s :=
    ⟨_, rfl⟩
  have hmeets : (breakerSystem ⟨2, 1, 60⟩ Bool).Meets (LeavesBreakerSound ⟨2, 1, 60⟩) (twoSends 61)
      (checksOf false 0 ++ insertOf false ++ checksOf true 61 ++ insertOf true) := by
    decide +kernel
  obtain ⟨s, hrun⟩ := hrun
  exact ⟨s, hrun, breaker_bounds (breakerStart_twoSends 61)
    (StepSystem.reaches_of_meets hmeets hrun)⟩

/-- With a limit of one for the conversation and for the sender, both sends pass the
breaker before either commits. And one after the other, the second send is stamped 60 but
counted from 61, so that its window of 60 misses the first one. -/
theorem sends_exceed_limits :
    (∃ s, (breakerSystem ⟨1, 1, 60⟩ Bool).Reaches (fun _ _ => True) (twoSends 0) s ∧
        countConversationDepth s.db "context" = 2 ∧
        countSenderBetween s.db (.operator "{}") 0 (0 + 60) = 2 ∧
        ¬BreakerBounds ⟨1, 1, 60⟩ s.db) ∧
      ∃ s, (breakerSystem ⟨2, 1, 60⟩ Bool).Reaches (fun _ _ => True) (twoSends 60) s ∧
        ¬BreakerBounds ⟨2, 1, 60⟩ s.db := by
  have hraced : ∃ s, (breakerSystem ⟨1, 1, 60⟩ Bool).follow (twoSends 0)
      (checksOf false 0 ++ checksOf true 0 ++ insertOf false ++ insertOf true) = some s ∧
        countConversationDepth s.db "context" = 2 ∧
        countSenderBetween s.db (.operator "{}") 0 (0 + 60) = 2 := ⟨_, rfl, rfl, rfl⟩
  have hlate : ∃ s, (breakerSystem ⟨2, 1, 60⟩ Bool).follow (twoSends 60)
      (checksOf false 0 ++ insertOf false ++ checksOf true 61 ++ insertOf true) = some s ∧
        countSenderBetween s.db (.operator "{}") 0 (0 + 60) = 2 := ⟨_, rfl, rfl⟩
  constructor
  · obtain ⟨s, hrun, hdepth, hrate⟩ := hraced
    refine ⟨s, StepSystem.reaches_of_follow hrun fun _ _ _ => trivial, hdepth, hrate, ?_⟩
    intro hbounds
    have := hbounds.depth "context"
    rw [hdepth] at this
    exact absurd this (by decide)
  · obtain ⟨s, hrun, hrate⟩ := hlate
    refine ⟨s, StepSystem.reaches_of_follow hrun fun _ _ _ => trivial, fun hbounds => ?_⟩
    have := hbounds.rate (.operator "{}") 0
    rw [hrate] at this
    exact absurd this (by decide)

end LittleOrgans.Session
