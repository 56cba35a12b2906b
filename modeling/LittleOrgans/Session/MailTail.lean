import LittleOrgans.Session.MailRendering

/-!
# Following the mail log

A follower takes an empty cursor or the cursor of a peek, and then tails the log with the
last cursor it received. The cursor is the time sent and the id of a message, and the time
is chosen before the transaction of the send commits, so a message can appear behind the
cursor. Nobody gives it to the follower then (`late_commit_never_given`).

`tail_complete` is what holds when no matching message commits behind the cursor: the
follower gets every row once, in order.
-/

set_option autoImplicit false

namespace LittleOrgans.Session

open LittleOrgans.Core
open LittleOrgans.Library
open LittleOrgans.Store

/-- What a follower asks for: a filter without selectors. -/
structure Tail where
  context : RequestContext
  authorized : Bool
  contextId : Option String
  includeSystem : Bool

namespace Tail

/-- What the tail asks the log for. -/
def filter (t : Tail) : MailLogFilter := ⟨t.contextId, none, none, t.includeSystem⟩

/-- The first page of a tail. -/
def peek (t : Tail) (db : Database) :
    Except HandlerError (List MessageView × Option MailLogCursor) :=
  mailPeek db t.context t.authorized t.filter

/-- One read of the log behind a cursor. -/
def read (t : Tail) (db : Database) (after : Option MailLogCursor) :
    Except HandlerError (List MessageView × Option MailLogCursor) :=
  mailTail [db] t.context t.authorized t.filter after

end Tail

/-! ## The follower -/

/-- What a follower has received: its starting view, the answers to its polls, and the
cursors it has held. -/
structure Follower where
  start : List MessageView
  pages : List (List MessageView)
  cursors : List (Option MailLogCursor)
  polled : Option Database

namespace Follower

/-- The last cursor received. -/
def cursor (f : Follower) : Option MailLogCursor := f.cursors.getLast?.join

/-- After the answer to a poll of the store `db`. -/
def receive (f : Follower) (db : Database) (messages : List MessageView)
    (cursor : Option MailLogCursor) : Follower where
  start := f.start
  pages := f.pages ++ [messages]
  cursors := f.cursors ++ [cursor]
  polled := some db

@[simp]
theorem cursor_receive (f : Follower) (db : Database) (messages : List MessageView)
    (cursor : Option MailLogCursor) : (f.receive db messages cursor).cursor = cursor := by
  rw [Follower.cursor, receive, List.getLast?_append_cons, List.getLast?_singleton]
  rfl

end Follower

/-- The store, and who follows it. -/
structure TailState where
  db : Database
  follower : Option Follower

/-- What happens to a store that is followed. -/
inductive TailAction where
  | commit (mail : Mail) (recipientIds : List SessionId)
  | read (recipientId : SessionId) (readAt : DateTime)
  | follow (peek : Bool)
  | poll

/-- The commit of a mail insert, at whatever time the mail was made; a mailbox read; the
start of the follower; a poll. A request of the follower that fails gives it nothing. -/
def tailSystem (t : Tail) : StepSystem TailState TailAction where
  step s
    | .commit mail recipientIds =>
        if recipientIds ≠ [] ∧ s.db.messages.lookup mail.id = none ∧
            ∀ id ∈ recipientIds, s.db.deliveries.lookup (mail.id, id) = none then
          some { s with db := s.db.commitInsert mail recipientIds }
        else none
    | .read recipientId readAt =>
        some { s with db := (s.db.readUnreadMail recipientId readAt false).2 }
    | .follow peek =>
        match s.follower with
        | some _ => none
        | none =>
            if peek then
              match t.peek s.db with
              | .ok (messages, cursor) =>
                  some { s with follower := some ⟨messages, [], [cursor], none⟩ }
              | .error _ => none
            else some { s with follower := some ⟨[], [], [none], none⟩ }
    | .poll =>
        match s.follower with
        | none => none
        | some f =>
            match t.read s.db f.cursor with
            | .ok (messages, cursor) =>
                some { s with follower := some (f.receive s.db messages cursor) }
            | .error _ => none

/-! ## Rows and cursors -/

/-- The cursor lies at this position or after it. -/
def Passed (cursor : Option MailLogCursor) (position : MailLogCursor) : Prop :=
  ∃ last, cursor = some last ∧ position.key ≤ last.key

instance (position : MailLogCursor) : (cursor : Option MailLogCursor) →
    Decidable (Passed cursor position)
  | none => isFalse fun ⟨_, hlast, _⟩ => Option.some_ne_none _ hlast.symm
  | some last =>
      decidable_of_iff (position.key ≤ last.key)
        ⟨fun h => ⟨last, rfl, h⟩, fun ⟨_, hlast, h⟩ => Option.some.inj hlast ▸ h⟩

/-- A cursor does not lie before another. -/
def CursorLe (cursor cursor' : Option MailLogCursor) : Prop :=
  ∀ position, cursor = some position → Passed cursor' position

theorem Passed.mono {cursor cursor' : Option MailLogCursor} {position : MailLogCursor}
    (h : Passed cursor position) (hle : CursorLe cursor cursor') : Passed cursor' position := by
  obtain ⟨last, hlast, hkey⟩ := h
  obtain ⟨last', hlast', hkey'⟩ := hle last hlast
  exact ⟨last', hlast', hkey.trans hkey'⟩

theorem CursorLe.refl (cursor : Option MailLogCursor) : CursorLe cursor cursor :=
  fun position h => ⟨position, h, le_refl _⟩

theorem CursorLe.trans {a b c : Option MailLogCursor} (hab : CursorLe a b) (hbc : CursorLe b c) :
    CursorLe a c :=
  fun position h => (hab position h).mono hbc

namespace Tail

/-- The filter lets the message through. -/
def Matches (t : Tail) (message : MessageRow) : Prop :=
  (∀ wanted, t.contextId = some wanted → message.contextId = wanted) ∧
    (t.includeSystem = true ∨ message.intent ≠ .receipt)

instance (t : Tail) (message : MessageRow) : Decidable (t.Matches message) :=
  inferInstanceAs (Decidable ((∀ wanted ∈ t.contextId, message.contextId = wanted) ∧
    (t.includeSystem = true ∨ message.intent ≠ .receipt)))

/-- A committed row the filter lets through. -/
def Logged (t : Tail) (db : Database) (key : MessageId × SessionId) (message : MessageRow) : Prop :=
  db.messages.lookup key.1 = some message ∧ (∃ delivery, db.deliveries.lookup key = some delivery) ∧
    t.Matches message

/-- What an answer of the log says: the rows behind the cursor, each once, in order, and
the cursor at the last of them. -/
structure IsPage (t : Tail) (db : Database) (after : Option MailLogCursor)
    (messages : List MessageView) (cursor : Option MailLogCursor) : Prop where
  mem : ∀ key, key ∈ messages.map viewDelivery ↔
    ∃ message, t.Logged db key message ∧ ¬Passed after ⟨message.sentAt, key.1⟩
  positions : ∀ view ∈ messages, ∀ message, db.messages.lookup view.id = some message →
    view.cursor = ⟨message.sentAt, view.id⟩
  nodup : (messages.map viewDelivery).Nodup
  sorted : messages.Pairwise fun a b => a.cursor.key ≤ b.cursor.key
  cursor : cursor = (cursorFor messages).or after

end Tail

theorem not_passed_iff {after : Option MailLogCursor} {position : MailLogCursor} :
    ¬Passed after position ↔ (after.all fun last => decide (last.key < position.key)) = true := by
  cases after with
  | none =>
      refine iff_of_true ?_ rfl
      rintro ⟨last, hlast, -⟩
      cases hlast
  | some last =>
      rw [Option.all_some, decide_eq_true_iff, ← not_le]
      constructor
      · exact fun h hle => h ⟨last, rfl, hle⟩
      · rintro h ⟨last', hlast, hle⟩
        cases hlast
        exact h hle

theorem Tail.matches_iff {t : Tail} {mail : Mail} :
    t.Matches (messageRow mail) ↔
      ((t.contextId.all fun wanted => decide (mail.contextId = wanted)) &&
        (t.includeSystem || decide (mail.intent ≠ .receipt))) = true := by
  rw [Tail.Matches, Bool.and_eq_true, Bool.or_eq_true, decide_eq_true_iff]
  refine and_congr ?_ Iff.rfl
  cases t.contextId <;> simp [messageRow]

/-- Views keep the position of their mail. -/
theorem map_cursor_of_isViewOf {items : List Mail} {views : List MessageView}
    (h : List.Forall₂ IsViewOf items views) :
    views.map MessageView.cursor = items.map mailCursor := by
  induction h with
  | nil => rfl
  | @cons item view items views hview hrest ih =>
      obtain ⟨sender, recipient, rfl, hrecipient⟩ := hview
      rw [List.map_cons, List.map_cons, ih]
      rfl

section Pages

variable {t : Tail} {db : Database} {after : Option MailLogCursor}

theorem mem_log_iff {key : MessageId × SessionId} :
    key ∈ (db.listMessageLog t.contextId none none t.includeSystem after).map deliveryKey ↔
      ∃ message, t.Logged db key message ∧ ¬Passed after ⟨message.sentAt, key.1⟩ := by
  rw [List.mem_map]
  constructor
  · rintro ⟨mail, hmail, rfl⟩
    obtain ⟨hrow, hkept⟩ := Database.mem_listMessageLog_iff.mp hmail
    obtain ⟨message, delivery, hmessage, hdelivery, hrendered⟩ :=
      Database.mem_messageLogRows.mp hrow
    have hsame : messageRow mail = message := by rw [hrendered]; rfl
    simp only [Database.inMessageLog, Option.all_none, Bool.and_true, Bool.and_eq_true] at hkept
    refine ⟨message, ⟨hmessage, ⟨delivery, hdelivery⟩, ?_⟩, ?_⟩
    · rw [← hsame, Tail.matches_iff, Bool.and_eq_true]
      exact hkept.1
    · rw [not_passed_iff, ← hsame]
      exact hkept.2
  · rintro ⟨message, ⟨hmessage, ⟨delivery, hdelivery⟩, hmatches⟩, hbehind⟩
    let mail := mailFromRow key.1 key.2 message delivery
    have hrow : mail ∈ db.messageLogRows :=
      Database.mem_messageLogRows.mpr ⟨message, delivery, hmessage, hdelivery, rfl⟩
    refine ⟨mail, Database.mem_listMessageLog_iff.mpr ⟨hrow, ?_⟩, rfl⟩
    have hkept := Tail.matches_iff.mp (show t.Matches (messageRow mail) from hmatches)
    simp only [Database.inMessageLog, Option.all_none, Bool.and_true, Bool.and_eq_true]
    exact ⟨Bool.and_eq_true_iff.mp hkept, not_passed_iff.mp hbehind⟩

/-- The views of the log are a page of it. -/
theorem isPage_of_messageLogViews {messages : List MessageView}
    (h : messageLogViews db t.filter after = .ok messages) :
    t.IsPage db after messages ((cursorFor messages).or after) := by
  obtain ⟨participantIds, hparticipants, h⟩ := Except.bind_eq_ok.mp h
  obtain ⟨recipientIds, hrecipients, h⟩ := Except.bind_eq_ok.mp h
  cases hparticipants
  cases hrecipients
  have hviews : List.Forall₂ IsViewOf
      (db.listMessageLog t.contextId none none t.includeSystem after) messages :=
    forall₂_messageViews h
  have hkeys := map_viewDelivery_of_isViewOf hviews
  have hcursors := map_cursor_of_isViewOf hviews
  refine ⟨fun key => ?_, fun view hview message hmessage => ?_, ?_, ?_, rfl⟩
  -- the page holds the messages behind the cursor, each once and in order of their keys
  · rw [hkeys]
    exact mem_log_iff
  · have hcursor := List.mem_map_of_mem (f := MessageView.cursor) hview
    rw [hcursors] at hcursor
    obtain ⟨item, hitem, hsame⟩ := List.mem_map.mp hcursor
    have hrow := (Database.mem_listMessageLog_iff.mp hitem).1
    obtain ⟨message', delivery, hmessage', -, hrendered⟩ := Database.mem_messageLogRows.mp hrow
    obtain ⟨hsent, hid⟩ := MailLogCursor.mk.inj hsame
    rw [hid, hmessage] at hmessage'
    cases hmessage'
    rw [hrendered] at hsent
    exact (MailLogCursor.mk.injEq _ _ _ _).mpr ⟨hsent.symm, rfl⟩
  · rw [hkeys]
    exact db.nodup_listMessageLog _ _ _ _ _
  · have hsorted := db.pairwise_listMessageLog t.contextId none none t.includeSystem after
    have hmapped : ((db.listMessageLog t.contextId none none t.includeSystem after).map
        mailCursor).Pairwise fun a b => a.key ≤ b.key := List.pairwise_map.mpr hsorted
    rw [← hcursors, List.pairwise_map] at hmapped
    exact hmapped

theorem isPage_of_read {messages : List MessageView} {cursor : Option MailLogCursor}
    (h : t.read db after = .ok (messages, cursor)) : t.IsPage db after messages cursor := by
  obtain ⟨u, -, h⟩ := Except.bind_eq_ok.mp h
  obtain ⟨found, htail, h⟩ := Except.bind_eq_ok.mp h
  cases h
  obtain ⟨views, hviews, h⟩ := Except.bind_eq_ok.mp htail
  split at h
  · next hnil =>
      cases h
      rw [hnil] at hviews
      exact isPage_of_messageLogViews hviews
  · cases h
    exact isPage_of_messageLogViews hviews

theorem isPage_of_peek {messages : List MessageView} {cursor : Option MailLogCursor}
    (h : t.peek db = .ok (messages, cursor)) : t.IsPage db none messages cursor := by
  obtain ⟨u, -, h⟩ := Except.bind_eq_ok.mp h
  obtain ⟨views, hviews, h⟩ := Except.bind_eq_ok.mp h
  cases h
  rw [withContext_eq_ok] at hviews
  have hpage := isPage_of_messageLogViews hviews
  rwa [Option.or_none] at hpage

theorem tailMessages_eq_ok {reads : List Database} {filter : MailLogFilter}
    {messages : List MessageView} (h : tailMessages filter after reads = .ok messages) :
    messages = [] ∨
      messages ≠ [] ∧ ∃ db ∈ reads, messageLogViews db filter after = .ok messages := by
  induction reads with
  | nil =>
      cases h
      exact .inl rfl
  | cons db later ih =>
      obtain ⟨views, hviews, hrest⟩ := Except.bind_eq_ok.mp h
      split at hrest
      · rcases ih hrest with hempty | ⟨hne, db', hmem, hread⟩
        · exact .inl hempty
        · exact .inr ⟨hne, db', List.mem_cons_of_mem _ hmem, hread⟩
      · next hne =>
          cases hrest
          exact .inr ⟨hne, db, List.mem_cons_self, hviews⟩

/-- An answer of a request that follows is that of one of its reads, or empty. -/
theorem mailTail_eq_read {reads : List Database} {messages : List MessageView}
    {cursor : Option MailLogCursor}
    (h : mailTail reads t.context t.authorized t.filter after = .ok (messages, cursor)) :
    (messages = [] ∧ cursor = after) ∨ ∃ db ∈ reads, t.read db after = .ok (messages, cursor) := by
  obtain ⟨u, hobserve, h⟩ := Except.bind_eq_ok.mp h
  obtain ⟨found, htail, h⟩ := Except.bind_eq_ok.mp h
  cases h
  rcases tailMessages_eq_ok htail with rfl | ⟨hne, db, hmem, hviews⟩
  · exact .inl ⟨rfl, rfl⟩
  · refine .inr ⟨db, hmem, Except.bind_eq_ok.mpr ⟨u, hobserve, Except.bind_eq_ok.mpr
      ⟨messages, Except.bind_eq_ok.mpr ⟨messages, hviews, ?_⟩, rfl⟩⟩⟩
    rw [if_neg hne]
    rfl

/-- The cursor of a page is at its last row. -/
theorem Tail.IsPage.le_cursor {messages : List MessageView} {cursor : Option MailLogCursor}
    (h : t.IsPage db after messages cursor) :
    CursorLe after cursor ∧ ∀ view ∈ messages, Passed cursor view.cursor := by
  rw [h.cursor]
  rcases List.eq_nil_or_concat' messages with rfl | ⟨front, last, rfl⟩
  · exact ⟨CursorLe.refl after, fun _ hview => absurd hview List.not_mem_nil⟩
  · have hlast : (cursorFor (front ++ [last])).or after = some last.cursor := by
      rw [cursorFor, List.getLast?_append_cons, List.getLast?_singleton]
      rfl
    rw [hlast]
    have hmem : last ∈ front ++ [last] := List.mem_append_right _ List.mem_cons_self
    constructor
    · intro position hposition
      refine ⟨last.cursor, rfl, ?_⟩
      obtain ⟨message, hlogged, hbehind⟩ := (h.mem _).mp (List.mem_map_of_mem hmem)
      rw [h.positions last hmem message hlogged.1]
      by_contra hlt
      exact hbehind ⟨position, hposition, (not_le.mp hlt).le⟩
    · intro view hview
      refine ⟨last.cursor, rfl, ?_⟩
      rcases List.mem_append.mp hview with hfront | hlast
      · exact (List.pairwise_append.mp h.sorted).2.2 view hfront last List.mem_cons_self
      · rw [List.mem_singleton.mp hlast]

end Pages

/-! ## What the follower has received -/

/-- The deliveries of the starting view and of all answers. -/
def Follower.received (f : Follower) : List (MessageId × SessionId) :=
  (f.start ++ f.pages.flatten).map viewDelivery

/-- Every row committed at the last poll and not in the starting view has been given to the
follower once, each answer is in order, and the cursor has never decreased. -/
structure Follower.Complete (t : Tail) (f : Follower) : Prop where
  once : ∀ db, f.polled = some db → ∀ key message, t.Logged db key message →
    key ∉ f.start.map viewDelivery → (f.pages.flatten.map viewDelivery).count key = 1
  sorted : ∀ page ∈ f.pages, page.Pairwise fun a b => a.cursor.key ≤ b.cursor.key
  monotone : f.cursors.Pairwise CursorLe

/-- What holds in every run: what has been received lies up to the cursor, and nothing has
been received twice. -/
structure Orderly (t : Tail) (db : Database) (f : Follower) : Prop where
  stored : ∀ key ∈ f.received, ∃ message, t.Logged db key message ∧
    Passed f.cursor ⟨message.sentAt, key.1⟩
  nodup : f.received.Nodup
  sorted : ∀ page ∈ f.pages, page.Pairwise fun a b => a.cursor.key ≤ b.cursor.key
  monotone : f.cursors.Pairwise CursorLe
  last : ∀ cursor ∈ f.cursors, CursorLe cursor f.cursor

/-- Nothing up to the cursor is missing. This is lost when a message commits behind it. -/
structure UpToDate (t : Tail) (db : Database) (f : Follower) : Prop where
  rows : ∀ key message, t.Logged db key message →
    Passed f.cursor ⟨message.sentAt, key.1⟩ → key ∈ f.received
  polled : ∀ db, f.polled = some db → ∀ key message, t.Logged db key message →
    key ∈ f.received

section Invariants

variable {t : Tail} {db db' : Database} {f : Follower}

theorem Orderly.complete (h : Orderly t db f) (hrows : UpToDate t db f) : f.Complete t where
  once db hpolled key message hlogged hstart := by
    have hreceived := hrows.polled db hpolled key message hlogged
    have hnodup := h.nodup
    rw [Follower.received, List.map_append] at hreceived hnodup
    refine List.count_eq_one_of_mem (List.nodup_append.mp hnodup).2.1 ?_
    exact (List.mem_append.mp hreceived).resolve_left hstart
  sorted := h.sorted
  monotone := h.monotone

theorem received_receive (messages : List MessageView) (cursor : Option MailLogCursor) :
    (f.receive db messages cursor).received = f.received ++ messages.map viewDelivery := by
  rw [Follower.received, Follower.received, Follower.receive, List.flatten_append,
    List.flatten_singleton, ← List.append_assoc, List.map_append]

/-- The store keeps its rows. -/
theorem Orderly.grow (h : Orderly t db f)
    (hlogged : ∀ key message, t.Logged db key message → t.Logged db' key message) :
    Orderly t db' f where
  stored key hkey := by
    obtain ⟨message, hstored, hpassed⟩ := h.stored key hkey
    exact ⟨message, hlogged key message hstored, hpassed⟩
  nodup := h.nodup
  sorted := h.sorted
  monotone := h.monotone
  last := h.last

theorem Tail.Logged.unique {key : MessageId × SessionId} {message message' : MessageRow}
    (h : t.Logged db key message) (h' : t.Logged db key message') : message = message' :=
  Option.some.inj (h.1.symm.trans h'.1)

theorem Orderly.receive (h : Orderly t db f) {messages : List MessageView}
    {cursor : Option MailLogCursor} (hpage : t.IsPage db f.cursor messages cursor) :
    Orderly t db (f.receive db messages cursor) := by
  obtain ⟨hle, hviews⟩ := hpage.le_cursor
  refine ⟨fun key hkey => ?_, ?_, fun page hmem => ?_, ?_, fun old hmem => ?_⟩
  · rw [received_receive] at hkey
    rw [Follower.cursor_receive]
    rcases List.mem_append.mp hkey with hold | hnew
    · obtain ⟨message, hlogged, hpassed⟩ := h.stored key hold
      exact ⟨message, hlogged, hpassed.mono hle⟩
    · obtain ⟨message, hlogged, -⟩ := (hpage.mem key).mp hnew
      obtain ⟨view, hview, rfl⟩ := List.mem_map.mp hnew
      refine ⟨message, hlogged, ?_⟩
      rw [viewDelivery, ← hpage.positions view hview message hlogged.1]
      exact hviews view hview
  · rw [received_receive, List.nodup_append]
    refine ⟨h.nodup, hpage.nodup, fun key hold key' hnew hsame => ?_⟩
    subst hsame
    -- A received row lies up to the cursor, a row of the answer behind it.
    obtain ⟨message, hlogged, hpassed⟩ := h.stored key hold
    obtain ⟨message', hlogged', hbehind⟩ := (hpage.mem key).mp hnew
    rw [hlogged.unique hlogged'] at hpassed
    exact hbehind hpassed
  · rcases List.mem_append.mp hmem with hold | hnew
    · exact h.sorted page hold
    · rw [List.mem_singleton.mp hnew]
      exact hpage.sorted
  · rw [Follower.receive, List.pairwise_append]
    refine ⟨h.monotone, List.pairwise_singleton _ _, fun old hold new hnew => ?_⟩
    rw [List.mem_singleton.mp hnew]
    exact (h.last old hold).trans hle
  · rw [Follower.cursor_receive]
    rcases List.mem_append.mp hmem with hold | hnew
    · exact (h.last old hold).trans hle
    · rw [List.mem_singleton.mp hnew]
      exact CursorLe.refl cursor

theorem UpToDate.receive (h : UpToDate t db f) {messages : List MessageView}
    {cursor : Option MailLogCursor} (hpage : t.IsPage db f.cursor messages cursor) :
    UpToDate t db (f.receive db messages cursor) := by
  have hall : ∀ key message, t.Logged db key message →
      key ∈ (f.receive db messages cursor).received := by
    intro key message hlogged
    rw [received_receive, List.mem_append]
    by_cases hpassed : Passed f.cursor ⟨message.sentAt, key.1⟩
    · exact .inl (h.rows key message hlogged hpassed)
    · exact .inr ((hpage.mem key).mpr ⟨message, hlogged, hpassed⟩)
  refine ⟨fun key message hlogged _ => hall key message hlogged, fun db₁ hpolled => ?_⟩
  cases hpolled
  exact hall

/-- A follower that starts from a peek. -/
theorem orderly_start {messages : List MessageView} {cursor : Option MailLogCursor}
    (hpage : t.IsPage db none messages cursor) :
    Orderly t db ⟨messages, [], [cursor], none⟩ ∧ UpToDate t db ⟨messages, [], [cursor], none⟩ := by
  have hreceived :
      Follower.received ⟨messages, [], [cursor], none⟩ = messages.map viewDelivery := by
    rw [Follower.received, List.flatten_nil, List.append_nil]
  have hnone : ∀ position, ¬Passed none position := by
    rintro position ⟨last, hlast, -⟩
    cases hlast
  obtain ⟨-, hviews⟩ := hpage.le_cursor
  refine ⟨⟨fun key hkey => ?_, ?_, fun _ hmem => absurd hmem List.not_mem_nil,
    List.pairwise_singleton _ _, fun old hmem => ?_⟩, fun key message hlogged _ => ?_,
    fun _ hpolled => ?_⟩
  · rw [hreceived] at hkey
    obtain ⟨message, hlogged, -⟩ := (hpage.mem key).mp hkey
    obtain ⟨view, hview, rfl⟩ := List.mem_map.mp hkey
    refine ⟨message, hlogged, ?_⟩
    rw [viewDelivery, ← hpage.positions view hview message hlogged.1]
    exact hviews view hview
  · rw [hreceived]
    exact hpage.nodup
  · rw [List.mem_singleton.mp hmem]
    exact CursorLe.refl cursor
  · rw [hreceived]
    exact (hpage.mem key).mpr ⟨message, hlogged, hnone _⟩
  · cases hpolled

/-- A follower that starts with an empty cursor. -/
theorem orderly_empty :
    Orderly t db ⟨[], [], [none], none⟩ ∧ UpToDate t db ⟨[], [], [none], none⟩ := by
  refine ⟨⟨fun _ hkey => absurd hkey List.not_mem_nil, List.nodup_nil,
    fun _ hmem => absurd hmem List.not_mem_nil, List.pairwise_singleton _ _, fun old hmem => ?_⟩,
    fun key message _ hpassed => ?_, fun _ hpolled => ?_⟩
  · rw [List.mem_singleton.mp hmem]
    exact CursorLe.refl none
  · obtain ⟨last, hlast, -⟩ := hpassed
    cases hlast
  · cases hpolled

end Invariants

/-! ## Runs -/

/-- What each action does. -/
inductive TailMoves (t : Tail) (s : TailState) : TailAction → TailState → Prop where
  | commit {mail : Mail} {recipientIds : List SessionId} (hne : recipientIds ≠ [])
      (hmessage : s.db.messages.lookup mail.id = none)
      (hdeliveries : ∀ id ∈ recipientIds, s.db.deliveries.lookup (mail.id, id) = none) :
      TailMoves t s (.commit mail recipientIds)
        { s with db := s.db.commitInsert mail recipientIds }
  | read {recipientId : SessionId} {readAt : DateTime} :
      TailMoves t s (.read recipientId readAt)
        { s with db := (s.db.readUnreadMail recipientId readAt false).2 }
  | peeked {messages : List MessageView} {cursor : Option MailLogCursor} (hnone : s.follower = none)
      (hpage : t.IsPage s.db none messages cursor) :
      TailMoves t s (.follow true) { s with follower := some ⟨messages, [], [cursor], none⟩ }
  | empty (hnone : s.follower = none) :
      TailMoves t s (.follow false) { s with follower := some ⟨[], [], [none], none⟩ }
  | polled {f : Follower} {messages : List MessageView} {cursor : Option MailLogCursor}
      (hf : s.follower = some f) (hpage : t.IsPage s.db f.cursor messages cursor) :
      TailMoves t s .poll { s with follower := some (f.receive s.db messages cursor) }

section Runs

variable {t : Tail} {s s' : TailState}

theorem tailMoves_of_step {a : TailAction} (h : (tailSystem t).step s a = some s') :
    TailMoves t s a s' := by
  cases a with
  | commit mail recipientIds =>
      rw [tailSystem] at h
      dsimp only at h
      split at h
      · next hfree =>
          cases h
          exact .commit hfree.1 hfree.2.1 hfree.2.2
      · cases h
  | read recipientId readAt =>
      cases h
      exact .read
  | follow peek =>
      rw [tailSystem] at h
      dsimp only at h
      split at h
      · cases h
      · next hnone =>
          -- A follower starts at the last page, or with nothing.
          cases peek with
          | true =>
              rw [if_pos rfl] at h
              split at h
              · next hpeek =>
                  cases h
                  exact .peeked hnone (isPage_of_peek hpeek)
              · cases h
          | false =>
              cases h
              exact .empty hnone
  | poll =>
      rw [tailSystem] at h
      dsimp only at h
      split at h
      · cases h
      · next f hf =>
          split at h
          · next hread =>
              cases h
              exact .polled hf (isPage_of_read hread)
          · cases h

/-- A commit adds the rows of its message. -/
theorem logged_commitInsert {db : Database} {mail : Mail} (recipientIds : List SessionId)
    (hmessage : db.messages.lookup mail.id = none) (key : MessageId × SessionId)
    (message : MessageRow) :
    (t.Logged db key message → t.Logged (db.commitInsert mail recipientIds) key message) ∧
      (t.Logged (db.commitInsert mail recipientIds) key message →
        t.Logged db key message ∨ key.1 = mail.id ∧ message = messageRow mail) := by
  constructor
  · rintro ⟨hrow, ⟨delivery, hdelivery⟩, hmatches⟩
    refine ⟨?_, ⟨delivery, lookup_commitInsert_of_some hdelivery⟩, hmatches⟩
    rw [lookup_messages_commitInsert db _ hmessage]
    split
    · next hid =>
        rw [hid, hmessage] at hrow
        cases hrow
    · exact hrow
  · rintro ⟨hrow, ⟨delivery, hdelivery⟩, hmatches⟩
    rcases lookup_messages_commitInsert_cases hrow with hold | hnew
    · rcases lookup_commitInsert_cases hdelivery with hkept | ⟨hid, -, -⟩
      · exact .inl ⟨hold, ⟨delivery, hkept⟩, hmatches⟩
      · rw [hid, hmessage] at hold
        cases hold
    · exact .inr hnew

/-- A read adds no row and removes none. -/
theorem logged_readUnreadMail (db : Database) (recipientId : SessionId) (readAt : DateTime)
    (key : MessageId × SessionId) (message : MessageRow) :
    t.Logged (db.readUnreadMail recipientId readAt false).2 key message ↔
      t.Logged db key message := by
  rw [readUnreadMail_eq, Tail.Logged, Tail.Logged, messages_commitRead, lookup_commitRead]
  refine and_congr Iff.rfl (and_congr ?_ Iff.rfl)
  split
  · cases db.deliveries.lookup key <;> simp
  · exact Iff.rfl

/-- Step lemma of every run. -/
theorem Orderly.step {a : TailAction} (h : ∀ f, s.follower = some f → Orderly t s.db f)
    (hmove : TailMoves t s a s') : ∀ f, s'.follower = some f → Orderly t s'.db f := by
  intro f hf
  cases hmove with
  | @commit mail recipientIds hne hmessage hdeliveries =>
      exact (h f hf).grow fun key message =>
        (logged_commitInsert recipientIds hmessage key message).1
  | @read recipientId readAt =>
      exact (h f hf).grow fun key message =>
        (logged_readUnreadMail s.db recipientId readAt key message).mpr
  | peeked hnone hpage =>
      cases hf
      exact (orderly_start hpage).1
  | empty hnone =>
      cases hf
      exact orderly_empty.1
  | polled hold hpage =>
      cases hf
      exact (h _ hold).receive hpage

/-- A commit of a matching message comes after the cursor of the follower. -/
def Timely (t : Tail) (s : TailState) : TailAction → Prop
  | .commit mail _ => ∀ f, s.follower = some f → t.Matches (messageRow mail) →
      ¬Passed f.cursor (mailCursor mail)
  | .read _ _ => True
  | .follow _ => True
  | .poll => True

instance (t : Tail) (s : TailState) : (a : TailAction) → Decidable (Timely t s a)
  | .commit mail _ =>
      inferInstanceAs (Decidable (∀ f ∈ s.follower, t.Matches (messageRow mail) →
        ¬Passed f.cursor (mailCursor mail)))
  | .read _ _ => isTrue trivial
  | .follow _ => isTrue trivial
  | .poll => isTrue trivial

/-- Step lemma of the runs in which every commit is timely. -/
theorem UpToDate.step {a : TailAction} (h : ∀ f, s.follower = some f → UpToDate t s.db f)
    (htimely : Timely t s a) (hmove : TailMoves t s a s') :
    ∀ f, s'.follower = some f → UpToDate t s'.db f := by
  intro f hf
  cases hmove with
  | @commit mail recipientIds hne hmessage hdeliveries =>
      refine ⟨fun key message hlogged hpassed => ?_, (h f hf).polled⟩
      rcases (logged_commitInsert recipientIds hmessage key message).2 hlogged with
        hold | ⟨hid, hrow⟩
      · exact (h f hf).rows key message hold hpassed
      · subst hrow
        rw [hid] at hpassed
        exact absurd hpassed (htimely f hf hlogged.2.2)
  | @read recipientId readAt =>
      refine ⟨fun key message hlogged hpassed => ?_, (h f hf).polled⟩
      exact (h f hf).rows key message
        ((logged_readUnreadMail s.db recipientId readAt key message).mp hlogged) hpassed
  | peeked hnone hpage =>
      cases hf
      exact (orderly_start hpage).2
  | empty hnone =>
      cases hf
      exact orderly_empty.2
  | polled hold hpage =>
      cases hf
      exact (h _ hold).receive hpage

theorem orderly_of_reaches {C : TailState → TailAction → Prop} {db : Database}
    (h : (tailSystem t).Reaches C ⟨db, none⟩ s) : ∀ f, s.follower = some f → Orderly t s.db f := by
  refine StepSystem.Reaches.invariant (I := fun s => ∀ f, s.follower = some f → Orderly t s.db f)
    (fun f hf => ?_) (fun s a s' hs _ hstep => Orderly.step hs (tailMoves_of_step hstep)) h
  cases hf

theorem upToDate_of_reaches {db : Database}
    (h : (tailSystem t).Reaches (Timely t) ⟨db, none⟩ s) :
    ∀ f, s.follower = some f → UpToDate t s.db f := by
  refine StepSystem.Reaches.invariant (I := fun s => ∀ f, s.follower = some f → UpToDate t s.db f)
    (fun f hf => ?_)
    (fun s a s' hs htimely hstep => UpToDate.step hs htimely (tailMoves_of_step hstep)) h
  cases hf

/-- A row that is committed behind the cursor and has not been received. -/
structure Overtaken (t : Tail) (key : MessageId × SessionId) (message : MessageRow) (db : Database)
    (f : Follower) : Prop where
  logged : t.Logged db key message
  passed : Passed f.cursor ⟨message.sentAt, key.1⟩
  missing : key ∉ f.received

theorem Overtaken.step {a : TailAction} {key : MessageId × SessionId} {message : MessageRow}
    (h : ∃ f, s.follower = some f ∧ Overtaken t key message s.db f) (hmove : TailMoves t s a s') :
    ∃ f, s'.follower = some f ∧ Overtaken t key message s'.db f := by
  obtain ⟨f, hf, hover⟩ := h
  cases hmove with
  -- a commit neither takes the message away nor gives it to the follower
  | @commit mail recipientIds hne hmessage hdeliveries =>
      exact ⟨f, hf, (logged_commitInsert recipientIds hmessage key message).1 hover.logged,
        hover.passed, hover.missing⟩
  | @read recipientId readAt =>
      exact ⟨f, hf, (logged_readUnreadMail s.db recipientId readAt key message).mpr hover.logged,
        hover.passed, hover.missing⟩
  | peeked hnone hpage =>
      rw [hf] at hnone
      cases hnone
  | empty hnone =>
      rw [hf] at hnone
      cases hnone
  -- a poll reads behind the cursor, and the message is not behind it
  | @polled f' messages cursor hf' hpage =>
      rw [hf] at hf'
      cases hf'
      refine ⟨_, rfl, hover.logged, ?_, ?_⟩
      · rw [Follower.cursor_receive]
        exact hover.passed.mono hpage.le_cursor.1
      · rw [received_receive, List.mem_append]
        rintro (hold | hnew)
        · exact hover.missing hold
        · obtain ⟨message', hlogged, hbehind⟩ := (hpage.mem key).mp hnew
          rw [← hover.logged.unique hlogged] at hbehind
          exact hbehind hover.passed

/-- A matching message committed behind the cursor is not given to the follower, however
often it polls. -/
theorem late_commit_never_given {C D : TailState → TailAction → Prop} {db : Database}
    {s₁ s₂ : TailState} (h : (tailSystem t).Reaches C ⟨db, none⟩ s) {mail : Mail}
    {recipientIds : List SessionId}
    (hstep : (tailSystem t).step s (.commit mail recipientIds) = some s₁)
    (hlate : ¬Timely t s (.commit mail recipientIds)) (hrun : (tailSystem t).Reaches D s₁ s₂) :
    ∃ id ∈ recipientIds, ∃ f, s₂.follower = some f ∧
      Overtaken t (mail.id, id) (messageRow mail) s₂.db f := by
  -- the commit is late: its message matches, and the cursor has passed it
  rw [Timely] at hlate
  push Not at hlate
  obtain ⟨f, hf, hmatches, hpassed⟩ := hlate
  have horderly := orderly_of_reaches h f hf
  cases tailMoves_of_step hstep with
  | commit hne hmessage hdeliveries =>
      obtain ⟨id, hid⟩ := List.exists_mem_of_ne_nil recipientIds hne
      refine ⟨id, hid, ?_⟩
      have hlogged : t.Logged (s.db.commitInsert mail recipientIds) (mail.id, id)
          (messageRow mail) := by
        refine ⟨?_, ⟨deliveryRow mail, ?_⟩, hmatches⟩
        · rw [lookup_messages_commitInsert s.db _ hmessage, if_pos rfl]
        · rw [lookup_commitInsert, hdeliveries id hid, Option.none_or, if_pos ⟨rfl, hid⟩]
      -- what the follower holds was stored when it got it, and this message was not
      have hmissing : (mail.id, id) ∉ f.received := by
        intro hreceived
        obtain ⟨message, hstored, -⟩ := horderly.stored _ hreceived
        have hrow : s.db.messages.lookup mail.id = some message := hstored.1
        rw [hmessage] at hrow
        cases hrow
      exact StepSystem.Reaches.invariant
        (I := fun s =>
          ∃ f, s.follower = some f ∧ Overtaken t (mail.id, id) (messageRow mail) s.db f)
        ⟨f, hf, hlogged, hpassed, hmissing⟩
        (fun s a s' hs _ hnext => Overtaken.step hs (tailMoves_of_step hnext)) hrun

/-- Whatever the senders do, when each matching message commits after the cursor of the
follower, the follower has every row once and in order; and the first that does not is
missing after the next poll. -/
theorem tail_complete {db : Database} (h : (tailSystem t).Reaches (Timely t) ⟨db, none⟩ s) :
    (∀ f, s.follower = some f → f.Complete t) ∧
      ∀ mail recipientIds s₁ s₂ f,
        (tailSystem t).step s (.commit mail recipientIds) = some s₁ →
        (tailSystem t).step s₁ .poll = some s₂ → s₂.follower = some f →
          (f.Complete t ↔ Timely t s (.commit mail recipientIds)) := by
  have hcomplete : ∀ s, (tailSystem t).Reaches (Timely t) ⟨db, none⟩ s →
      ∀ f, s.follower = some f → f.Complete t :=
    fun s hs f hf => (orderly_of_reaches hs f hf).complete (upToDate_of_reaches hs f hf)
  refine ⟨hcomplete s h, fun mail recipientIds s₁ s₂ f hcommit hpoll hf => ⟨fun hall => ?_,
    fun htimely => hcomplete s₂ ((h.step htimely hcommit).step (a := .poll) trivial hpoll) f hf⟩⟩
  by_contra hlate
  have hpolled : (tailSystem t).Reaches (fun _ _ => True) s₁ s₂ := .step .refl trivial hpoll
  obtain ⟨id, hid, f', hf', hover⟩ := late_commit_never_given h hcommit hlate hpolled
  rw [hf] at hf'
  cases hf'
  cases tailMoves_of_step hpoll with
  | polled hold hpage =>
      cases hf
      have hmissing := hover.missing
      rw [Follower.received, List.map_append, List.mem_append, not_or] at hmissing
      have hcount := hall.once _ rfl _ _ hover.logged hmissing.1
      exact hmissing.2 (List.count_pos_iff.mp (by rw [hcount]; exact Nat.one_pos))

end Runs

/-- An operator follows one conversation. -/
def operatorTail : Tail := ⟨⟨"{}", none⟩, true, some "context", false⟩

/-- The store of two running sessions. -/
def twoSessions : Database :=
  MailStep.run (.migrated 0)
    [.spawn (sampleDraft ⟨1⟩) (sampleLifecycle ⟨1⟩ .running) none 0,
      .spawn (sampleDraft ⟨2⟩) (sampleLifecycle ⟨2⟩ .running) none 0]

/-- A mail of an operator, made at the given time. -/
def tailedMail (id : MessageId) (sentAt : DateTime) : Mail :=
  { sampleMail id ⟨1⟩ with sentAt := sentAt }

/-- Mail is sent before the follower starts and between its polls, and a session reads its
mail meanwhile. -/
def timely : List TailAction :=
  [.commit (tailedMail ⟨6⟩ 5) [⟨1⟩, ⟨2⟩], .follow true, .commit (tailedMail ⟨7⟩ 6) [⟨1⟩],
    .poll, .read ⟨1⟩ 7, .commit (tailedMail ⟨8⟩ 7) [⟨1⟩, ⟨2⟩], .commit (tailedMail ⟨9⟩ 8) [⟨2⟩],
    .poll]

theorem tail_complete_timely :
    ∃ s f, (tailSystem operatorTail).follow ⟨twoSessions, none⟩ timely = some s ∧
      s.follower = some f ∧ f.Complete operatorTail ∧
      f.start.map viewDelivery = [(⟨6⟩, ⟨1⟩), (⟨6⟩, ⟨2⟩)] ∧
      f.pages.map (List.map viewDelivery) =
        [[(⟨7⟩, ⟨1⟩)], [(⟨8⟩, ⟨1⟩), (⟨8⟩, ⟨2⟩), (⟨9⟩, ⟨2⟩)]] := by
  have hrun : ∃ s f, (tailSystem operatorTail).follow ⟨twoSessions, none⟩ timely = some s ∧
      s.follower = some f ∧ f.start.map viewDelivery = [(⟨6⟩, ⟨1⟩), (⟨6⟩, ⟨2⟩)] ∧
      f.pages.map (List.map viewDelivery) =
        [[(⟨7⟩, ⟨1⟩)], [(⟨8⟩, ⟨1⟩), (⟨8⟩, ⟨2⟩), (⟨9⟩, ⟨2⟩)]] :=
    ⟨_, _, rfl, rfl, by decide +kernel, by decide +kernel⟩
  obtain ⟨s, f, hrun, hf, hstart, hpages⟩ := hrun
  have hmeets :
      (tailSystem operatorTail).Meets (Timely operatorTail) ⟨twoSessions, none⟩ timely := by
    decide +kernel
  obtain ⟨hcomplete, -⟩ := tail_complete (StepSystem.reaches_of_meets hmeets hrun)
  exact ⟨s, f, hrun, hf, hcomplete f hf, hstart, hpages⟩

/-- A mail made at 5 commits after the follower has seen one made at 6. -/
def overtaking : List TailAction :=
  [.follow false, .commit (tailedMail ⟨7⟩ 6) [⟨1⟩], .poll, .commit (tailedMail ⟨8⟩ 5) [⟨1⟩], .poll]

theorem overtaken_mail_never_tailed :
    ¬∀ (t : Tail) (db : Database) (s : TailState) (f : Follower),
      (tailSystem t).Reaches (fun _ _ => True) ⟨db, none⟩ s → s.follower = some f →
        f.Complete t := by
  intro h
  have hrun : ∃ s, (tailSystem operatorTail).follow ⟨twoSessions, none⟩ overtaking = some s ∧
      ∃ f, s.follower = some f ∧ ∃ db, f.polled = some db ∧
        operatorTail.Logged db (⟨8⟩, ⟨1⟩) (messageRow (tailedMail ⟨8⟩ 5)) ∧
          (⟨8⟩, ⟨1⟩) ∉ f.start.map viewDelivery ∧
            (f.pages.flatten.map viewDelivery).count (⟨8⟩, ⟨1⟩) = 0 := by
    refine ⟨_, rfl, _, rfl, _, rfl, ⟨rfl, ⟨_, rfl⟩, ?_, ?_⟩, List.not_mem_nil, rfl⟩
    · rintro wanted ⟨⟩
      rfl
    · exact .inr (by decide)
  obtain ⟨s, hrun, f, hf, db, hpolled, hlogged, hstart, hcount⟩ := hrun
  have hcomplete := h operatorTail twoSessions s f
    (StepSystem.reaches_of_follow hrun fun _ _ _ => trivial) hf
  have hone := hcomplete.once db hpolled _ _ hlogged hstart
  rw [hcount] at hone
  cases hone

end LittleOrgans.Session
