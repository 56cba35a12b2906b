import LittleOrgans.Session.MailViews

/-!
# Mail requests

`mail_send`, `mail_read`, `mail_peek` and `mail_tail` as requests: with the checks
they make, the errors they return and the store they leave. What a request meets
outside the store is part of its environment: decisions of the identity service, the
clock, fresh ids, the outcome of nudges, and the store calls that fail.

`Messaging` has the same handlers reduced to what they write;
`db_mailSendRequest` and `db_mailReadRequest` tie the two together.
-/

set_option autoImplicit false

namespace LittleOrgans.Session

open LittleOrgans.Core
open LittleOrgans.Library
open LittleOrgans.Store

/-- Who makes a request. The principal is kept as its JSON text. -/
structure RequestContext where
  principal : String
  callerSessionId : Option SessionId

/-! ## Resolving sessions -/

/-- `resolve_selector`. -/
def resolveSelector (db : Database) (selector : Selector) (label : String) :
    Except HandlerError (List Session) := do
  let sessions ← withContext "failed to resolve selector" (db.listSessionsBySelector selector)
  if sessions ≠ [] then pure sessions
  else
    match selector with
    | .id id => .error (.unknownSession label id)
    | other => .error (.selectorMatchedNone label other)

/-- The session of a caller, under the label the error names it by. -/
def requireSession (db : Database) (id : SessionId) (label : String) :
    Except HandlerError Unit := do
  let session ← withContext "failed to load session" (db.getSession id)
  if session.isSome then pure () else .error (.unknownSession label id)

/-- `effective_sender`. -/
def effectiveSender (db : Database) (context : RequestContext) : Except HandlerError SenderRef :=
  match context.callerSessionId with
  | some id => do
      requireSession db id "sender"
      pure (.session id)
  | none => .ok (.operator context.principal)

/-- `caller_mailbox`: the first session the id of the caller resolves to. -/
def callerMailbox (db : Database) (context : RequestContext) : Except HandlerError Session :=
  match context.callerSessionId with
  | none => .error .operatorHasNoMailbox
  | some id => do
      let sessions ← resolveSelector db (.id id) "recipient"
      match sessions with
      | session :: _ => pure session
      | [] => .error (.unknownSession "recipient" id)

/-! ## `mail_send` -/

/-- How the recipient of a mail is told of it. -/
inductive MailNotifyMode where
  | wait
  | steer
  deriving DecidableEq

/-- A request to send one mail to whom a selector finds. -/
structure MailSendRequest where
  toSelector : Selector
  content : String
  notify : Option MailNotifyMode
  timeoutMs : Option Nat
  contextId : String
  intent : MailIntent
  idempotencyKey : Option String

/-- Whether a mail was written for a recipient. -/
inductive MailDeliveryStatus where
  | ok
  | err
  deriving DecidableEq

/-- Whether a recipient was told of a mail. -/
inductive MailNotifyStatus where
  | ok
  | err
  | skipped
  deriving DecidableEq

/-- What became of a mail for one recipient. -/
structure MailSendResult where
  recipient : RecipientSummary
  mail : MailDeliveryStatus
  notify : MailNotifyStatus
  message : Option MessageView
  error : Option HandlerError

/-- An error of one recipient. -/
structure TargetError where
  target : SessionId
  error : HandlerError

/-- What became of a mail for all of its recipients. -/
structure MailSendResponse where
  results : List MailSendResult
  errors : List TargetError

/-- What a send meets outside the store. `nudge` is the error of waking a recipient,
if it fails. -/
structure SendEnv where
  authorized : SessionId → Bool
  messageId : MessageId
  now : DateTime
  nudge : SessionId → Option HandlerError

/-- `validate_mail_notify_timeout`. -/
def validateMailNotifyTimeout (notify : Option MailNotifyMode) (timeoutMs : Option Nat) :
    Except HandlerError Unit :=
  match timeoutMs with
  | none => .ok ()
  | some 0 => .error (.notifyTimeout "mail send --timeout must be at least 1 second")
  | some _ =>
      if notify ≠ some .wait then
        .error (.notifyTimeout "mail send --timeout requires --notify wait")
      else .ok ()

/-- `MailIntent::ensure_client_send_allowed`. -/
def ensureClientSendAllowed (intent : MailIntent) : Except HandlerError Unit :=
  if intent = .receipt then .error .receiptReserved else .ok ()

/-- The mail of a request for one recipient. -/
def mailFromRequest (request : MailSendRequest) (sender : SenderRef) (recipientId : SessionId)
    (env : SendEnv) : Mail where
  id := env.messageId
  sender := sender
  recipientId := recipientId
  content := request.content
  sentAt := env.now
  readAt := none
  status := .unread
  contextId := request.contextId
  intent := request.intent
  idempotencyKey := request.idempotencyKey

/-- A recipient the mail was not written for. -/
def failedSendResult (recipient : RecipientSummary) (error : HandlerError) : MailSendResult where
  recipient := recipient
  mail := .err
  notify := .skipped
  message := none
  error := some error

/-- A recipient the mail was written for. -/
def successfulSendResult (message : MessageView) (notify : MailNotifyStatus)
    (error : Option HandlerError) : MailSendResult where
  recipient := message.recipient
  mail := .ok
  notify := notify
  message := some message
  error := error

/-- The running sessions the caller may write to. -/
def deliverableSessions (sessions : List Session) (authorized : SessionId → Bool) : List Session :=
  sessions.filter fun session => session.state = .running ∧ authorized session.id

/-- The running sessions the caller may not write to. -/
def refusedSessions (sessions : List Session) (authorized : SessionId → Bool) : List Session :=
  sessions.filter fun session => session.state = .running ∧ ¬authorized session.id

/-- The response with the refusals `deliverable_mail_recipients` puts into it. -/
def refusalResponse (sessions : List Session) (authorized : SessionId → Bool) :
    MailSendResponse where
  results := (refusedSessions sessions authorized).map fun session =>
    failedSendResult (.fromSession session) (.unauthorized session.id)
  errors := (refusedSessions sessions authorized).map fun session =>
    ⟨session.id, .unauthorized session.id⟩

/-- A response with further results. -/
def MailSendResponse.extend (response : MailSendResponse) (results : List MailSendResult)
    (errors : List TargetError) : MailSendResponse where
  results := response.results ++ results
  errors := response.errors ++ errors

/-- `append_idempotent_mail`: the results of an earlier send of the same key. -/
def appendIdempotentMail (db : Database) (mail : Mail) (recipientIds : List SessionId) :
    Except HandlerError (Option (List MailSendResult)) := do
  let replay ← withContext "failed to load idempotent mail"
    (db.loadIdempotentReplay mail recipientIds)
  match replay with
  | none => pure none
  | some mail => do
      let views ← messageViews db mail
      pure (some (views.map fun view => successfulSendResult view .skipped none))

/-- `enforce_mail_safety`, with its errors. -/
def checkMailSafety (db : Database) (limits : MailSafetyConfig) (mail : Mail) (now : DateTime) :
    Except HandlerError Unit :=
  let depth := countConversationDepth db mail.contextId
  let rate := countSenderRateSince db mail.sender (now - limits.senderRateWindow)
  if mail.intent = .receipt then .ok ()
  else if limits.conversationDepthLimit ≤ depth then
    .error (.conversationDepth mail.contextId depth limits.conversationDepthLimit)
  else if limits.senderRateLimit ≤ rate then
    .error (.senderRate rate limits.senderRateWindow limits.senderRateLimit)
  else .ok ()

/-- `notify_result`. -/
def notifyResult (request : MailSendRequest) (env : SendEnv) (id : SessionId) :
    MailNotifyStatus × Option HandlerError :=
  match request.notify with
  | none => (.skipped, none)
  | some _ =>
      match env.nudge id with
      | none => (.ok, none)
      | some error => (.err, some error)

/-- The result of a recipient whose mail was written. -/
def persistedResult (request : MailSendRequest) (env : SendEnv) (inserted : Bool)
    (view : MessageView) : MailSendResult :=
  let notified :=
    if inserted then notifyResult request env view.recipient.sessionId else (.skipped, none)
  successfulSendResult view notified.1 notified.2

/-- The errors of the recipients whose result has one. -/
def persistedErrors (results : List MailSendResult) : List TargetError :=
  results.filterMap fun result => result.error.map fun error => ⟨result.recipient.sessionId, error⟩

/-- `persist_mail_send`: a store failure is reported for each recipient. -/
def persistMailSend (db : Database) (request : MailSendRequest) (env : SendEnv) (mail : Mail)
    (deliverable : List Session) (response : MailSendResponse) :
    Except HandlerError MailSendResponse × Database :=
  match db.insertMailForRecipients mail (deliverable.map fun session => session.id) with
  | .ok (outcome, db') =>
      match messageViews db' outcome.mail with
      | .ok views =>
          let results := views.map (persistedResult request env outcome.inserted)
          (.ok (response.extend results (persistedErrors results)), db')
      | .error error => (.error error, db')
  | .error _ =>
      let error := HandlerError.store "failed to persist mail"
      (.ok (response.extend
        (deliverable.map fun session => failedSendResult (.fromSession session) error)
        (deliverable.map fun session => ⟨session.id, error⟩)), db)

/-- The checks before anything is looked up, the sessions of the selector and the
sender. -/
def prepareSend (db : Database) (context : RequestContext) (request : MailSendRequest) :
    Except HandlerError (List Session × SenderRef) := do
  validateMailNotifyTimeout request.notify request.timeoutMs
  ensureClientSendAllowed request.intent
  let sessions ← resolveSelector db request.toSelector "recipient"
  let sender ← effectiveSender db context
  pure (sessions, sender)

/-- A send whose recipients are known. -/
def sendToDeliverable (db : Database) (limits : MailSafetyConfig) (request : MailSendRequest)
    (env : SendEnv) (sender : SenderRef) (deliverable : List Session)
    (response : MailSendResponse) : Except HandlerError MailSendResponse × Database :=
  match deliverable with
  | [] => (.ok response, db)
  | first :: _ =>
      let mail := mailFromRequest request sender first.id env
      match appendIdempotentMail db mail (deliverable.map fun session => session.id) with
      | .error error => (.error error, db)
      | .ok (some results) => (.ok (response.extend results []), db)
      | .ok none =>
          match checkMailSafety db limits mail env.now with
          | .error error => (.error error, db)
          | .ok () => persistMailSend db request env mail deliverable response

/-- `mail_send`. -/
def mailSendRequest (db : Database) (limits : MailSafetyConfig) (context : RequestContext)
    (request : MailSendRequest) (env : SendEnv) :
    Except HandlerError MailSendResponse × Database :=
  match prepareSend db context request with
  | .error error => (.error error, db)
  | .ok (sessions, sender) =>
      sendToDeliverable db limits request env sender (deliverableSessions sessions env.authorized)
        (refusalResponse sessions env.authorized)

/-! ## `mail_read` -/

/-- The store calls of a read that fail. `receipt n` is the insert of the receipt
number `n`. -/
structure ReadFaults where
  resolve : Bool
  read : Bool
  receipt : Nat → Bool
  views : Bool

/-- Nothing fails. -/
def ReadFaults.none : ReadFaults := ⟨false, false, fun _ => false, false⟩

/-- What a read meets outside the store: `fresh` supplies the id and the text of each
receipt. -/
structure ReadEnv where
  authorized : SessionId → Bool
  now : DateTime
  fresh : Mail → MessageId × String
  faults : ReadFaults

/-- The sender a drained mail is answered to. -/
def receiptTo (item : Mail) : Option SessionId :=
  match item.sender with
  | .session sender => if item.intent = .receipt then none else some sender
  | .operator _ => none
  | .system => none

/-- `emit_read_receipts`, with its errors; `n` receipts have been inserted before. -/
def emitReceipts (env : ReadEnv) (db : Database) (n : Nat) :
    List Mail → Except HandlerError Unit × Database
  | [] => (.ok (), db)
  | item :: rest =>
      match receiptTo item with
      | none => emitReceipts env db n rest
      | some sender =>
          if item.readAt = none then (.error (.missingReadAt item.id), db)
          else if env.faults.receipt n then (.error (.store "failed to persist read receipt"), db)
          else
            match db.insertMail
                (readReceipt (env.fresh item).1 sender item (env.fresh item).2 env.now) with
            | .ok (_, db') => emitReceipts env db' (n + 1) rest
            | .error _ => (.error (.store "failed to persist read receipt"), db)

/-- The views of a request, when the lookup of their sessions does not fail. -/
def viewsOrFault (fault : Bool) (db : Database) (mail : List Mail) :
    Except HandlerError (List MessageView) :=
  if fault then .error (.store "failed to load message session summaries")
  else messageViews db mail

/-- `mail_read_one`, without peeking. -/
def mailReadOne (db : Database) (recipient : Session) (env : ReadEnv) :
    Except HandlerError (List MessageView) × Database :=
  if ¬env.authorized recipient.id then (.error (.unauthorized recipient.id), db)
  else if env.faults.read then (.error (.store "failed to read mail"), db)
  else
    let drained := db.readUnreadMail recipient.id env.now false
    match emitReceipts env drained.2 0 drained.1 with
    | (.error error, db') => (.error error, db')
    | (.ok (), db') => (viewsOrFault env.faults.views db' drained.1, db')

/-- `mail_read`. -/
def mailReadRequest (db : Database) (context : RequestContext) (env : ReadEnv) :
    Except HandlerError (List MessageView) × Database :=
  if env.faults.resolve then (.error (.store "failed to resolve selector"), db)
  else
    match callerMailbox db context with
    | .error error => (.error error, db)
    | .ok recipient => mailReadOne db recipient env

/-! ## `mail_peek` and `mail_tail` -/

/-- What a mail log is asked for. -/
structure MailLogFilter where
  contextId : Option String
  selector : Option Selector
  recipient : Option Selector
  includeSystem : Bool

/-- The sessions a selector of a log finds; without a selector, all of them. -/
def filterIds (db : Database) (selector : Option Selector) :
    Except HandlerError (Option (List SessionId)) :=
  match selector with
  | none => .ok none
  | some selector => do
      let sessions ← withContext "failed to list sessions" (db.listSessionsBySelector selector)
      pure (some (sessions.map fun session => session.id))

/-- `message_log_views`. -/
def messageLogViews (db : Database) (filter : MailLogFilter) (after : Option MailLogCursor) :
    Except HandlerError (List MessageView) := do
  let participantIds ← filterIds db filter.selector
  let recipientIds ← filterIds db filter.recipient
  messageViews db
    (db.listMessageLog filter.contextId participantIds recipientIds filter.includeSystem after)

/-- `MailLogCursor::from_message`. -/
def MessageView.cursor (view : MessageView) : MailLogCursor := ⟨view.sentAt, view.id⟩

/-- `cursor_for`. -/
def cursorFor (messages : List MessageView) : Option MailLogCursor :=
  messages.getLast?.map MessageView.cursor

/-- Only an operator with the right to read mail observes the log. -/
def observeMail (context : RequestContext) (authorized : Bool) : Except HandlerError Unit :=
  if context.callerSessionId.isSome then .error .observationIsOperatorOnly
  else if authorized then .ok ()
  else .error .observationDenied

/-- `mail_peek`: the transcript and the cursor at its end. -/
def mailPeek (db : Database) (context : RequestContext) (authorized : Bool)
    (filter : MailLogFilter) : Except HandlerError (List MessageView × Option MailLogCursor) := do
  observeMail context authorized
  let messages ← withContext "failed to load mail transcript" (messageLogViews db filter none)
  pure (messages, cursorFor messages)

/-- `tail_messages`: the log is read in one store after the other, until something is
found. A request that does not follow reads once; one that follows reads again after
each append, until it finds something, its wait runs out or the appends close. -/
def tailMessages (filter : MailLogFilter) (after : Option MailLogCursor) :
    List Database → Except HandlerError (List MessageView)
  | [] => .ok []
  | db :: later => do
      let messages ← messageLogViews db filter after
      if messages = [] then tailMessages filter after later else pure messages

/-- `mail_tail`, with the stores it reads. -/
def mailTail (reads : List Database) (context : RequestContext) (authorized : Bool)
    (filter : MailLogFilter) (after : Option MailLogCursor) :
    Except HandlerError (List MessageView × Option MailLogCursor) := do
  observeMail context authorized
  let messages ← tailMessages filter after reads
  pure (messages, (cursorFor messages).or after)

/-! ## The handlers and what they write -/

section Writes

variable {db : Database}

theorem listed_resolveSelector {selector : Selector} {label : String} {sessions : List Session}
    (h : resolveSelector db selector label = .ok sessions) :
    db.listSessionsBySelector selector = .ok sessions ∧ sessions ≠ [] := by
  obtain ⟨listed, hlisted, h⟩ := Except.bind_eq_ok.mp h
  split at h
  · next hne =>
      cases h
      exact ⟨withContext_eq_ok.mp hlisted, hne⟩
  · split at h <;> cases h

/-- A session has the state its row was decoded from. -/
theorem sqlName_state_of_decodes {id : SessionId} {session : Session} {row : SessionRow}
    (h : db.Decodes id session) (hrow : db.sessions.lookup id = some row) :
    sqlName session.state = row.state := by
  obtain ⟨row', hrow', hsession⟩ := h
  rw [hrow] at hrow'
  cases hrow'
  obtain ⟨state, hstate, hpure⟩ := Except.bind_eq_ok.mp hsession
  cases hpure
  cases hname : row.state with
  | spawning =>
      rw [hname] at hstate
      cases hstate
      rfl
  | running =>
      rw [hname] at hstate
      cases hstate
      rfl
  | terminated =>
      rw [hname] at hstate
      cases hstate
      rfl
  | lost =>
      rw [hname] at hstate
      cases hevidence : row.lostEvidence with
      | none =>
          rw [hevidence] at hstate
          cases hstate
      | some evidence =>
          rw [hevidence] at hstate
          cases hstate
          rfl

theorem running_iff_of_decodes {id : SessionId} {session : Session} {row : SessionRow}
    (h : db.Decodes id session) (hrow : db.sessions.lookup id = some row) :
    session.state = .running ↔ row.state = .running := by
  rw [← sqlName_state_of_decodes h hrow]
  cases session.state <;> simp [sqlName]

theorem isActive_eq_of_decodes {id : SessionId} {session : Session} {row : SessionRow}
    (h : db.Decodes id session) (hrow : db.sessions.lookup id = some row) :
    session.state.isActive = row.state.isActive := by
  rw [← sqlName_state_of_decodes h hrow]
  cases session.state <;> rfl

/-- The recipients of a send, read off the decoded sessions or off the rows. -/
theorem map_deliverableSessions {sessions : List Session}
    (h : ∀ session ∈ sessions, db.Decodes session.id session) (authorized : SessionId → Bool) :
    (deliverableSessions sessions authorized).map (fun session => session.id) =
      deliverableMailRecipients db (sessions.map fun session => session.id) authorized := by
  rw [deliverableSessions, deliverableMailRecipients, List.filter_map]
  congr 1
  refine List.filter_congr fun session hmem => ?_
  have hdecodes := h session hmem
  have hrow := hdecodes
  obtain ⟨row, hrow, -⟩ := hrow
  have hiff := running_iff_of_decodes hdecodes hrow
  show decide _ = _
  rw [Function.comp_apply, hrow]
  by_cases hrunning : session.state = .running
  · simp [hrunning, hiff.mp hrunning]
  · have hnot : ¬row.state = .running := fun h => hrunning (hiff.mpr h)
    simp [hrunning, hnot]

theorem checkMailSafety_isOk {limits : MailSafetyConfig} {mail : Mail} {now : DateTime} :
    checkMailSafety db limits mail now = .ok () ↔ enforceMailSafety db limits mail now = true := by
  rw [checkMailSafety, enforceMailSafety]
  by_cases hreceipt : mail.intent = .receipt
  · simp [hreceipt]
  · by_cases hdepth : limits.conversationDepthLimit ≤ countConversationDepth db mail.contextId
    · simp [hreceipt, hdepth]
    · by_cases hrate : limits.senderRateLimit ≤
          countSenderRateSince db mail.sender (now - limits.senderRateWindow)
      · simp [hreceipt, hdepth, hrate]
      · have hbelow := not_le.mp hdepth
        have hslow := not_le.mp hrate
        simp [hreceipt, hdepth, hrate, hbelow, hslow]

/-- The sessions a selector lists decode. -/
theorem decodes_of_querySessions {keep : SessionId → SessionRow → Bool} {sessions : List Session}
    (h : db.querySessions keep = .ok sessions) :
    ∀ session ∈ sessions, db.Decodes session.id session := by
  intro session hmem
  obtain ⟨id, row, -, -, hdecodes⟩ := (Database.mem_querySessions h).mp hmem
  have hid := hdecodes.id_eq
  subst hid
  exact hdecodes

theorem decodes_of_queryPrefixSessions {text : String} {sessions : List Session}
    (h : db.queryPrefixSessions text = .ok sessions) :
    ∀ session ∈ sessions, db.Decodes session.id session := by
  obtain ⟨-, -, h⟩ := Except.bind_eq_ok.mp h
  obtain ⟨listed, hlisted, h⟩ := Except.bind_eq_ok.mp h
  split at h
  · cases h
    exact decodes_of_querySessions hlisted
  · cases h

theorem decodes_of_listSessionsBySelector {selector : Selector} {sessions : List Session}
    (h : db.listSessionsBySelector selector = .ok sessions) :
    ∀ session ∈ sessions, db.Decodes session.id session := by
  cases selector with
  | all => exact decodes_of_querySessions h
  | id id => exact decodes_of_querySessions h
  | idPrefix text => exact decodes_of_queryPrefixSessions h
  | role name => exact decodes_of_querySessions (Database.querySessions_of_queryBound h)
  | inNamespace slug => exact decodes_of_querySessions h
  | dir path => exact decodes_of_querySessions (Database.querySessions_of_queryBound h)
  | label key op =>
      cases op with
      | eq value => exact decodes_of_querySessions (Database.querySessions_of_queryBound h)
      | isIn values =>
          rw [Database.listSessionsBySelector] at h
          split at h
          · cases h
            exact fun _ hmem => absurd hmem List.not_mem_nil
          · exact decodes_of_querySessions (Database.querySessions_of_queryBound h)
  | and selectors =>
      obtain ⟨candidates, hcandidates, h⟩ := Except.bind_eq_ok.mp h
      cases h
      intro session hmem
      have hcandidate := (List.mem_filter.mp hmem).1
      cases hprefixes : collectPrefixSelectors selectors with
      | nil =>
          rw [hprefixes] at hcandidates
          exact decodes_of_querySessions hcandidates session hcandidate
      | cons first rest =>
          rw [hprefixes] at hcandidates
          obtain ⟨listed, hlisted, hrest⟩ := Except.bind_eq_ok.mp hcandidates
          obtain ⟨others, -, hpure⟩ := Except.bind_eq_ok.mp hrest
          cases hpure
          exact decodes_of_queryPrefixSessions hlisted session hcandidate

theorem prepareSend_eq_ok {context : RequestContext} {request : MailSendRequest}
    {sessions : List Session} {sender : SenderRef}
    (h : prepareSend db context request = .ok (sessions, sender)) :
    validateMailNotifyTimeout request.notify request.timeoutMs = .ok () ∧
      ensureClientSendAllowed request.intent = .ok () ∧
      resolveSelector db request.toSelector "recipient" = .ok sessions ∧
      effectiveSender db context = .ok sender := by
  obtain ⟨u, htimeout, h⟩ := Except.bind_eq_ok.mp h
  obtain ⟨v, hintent, h⟩ := Except.bind_eq_ok.mp h
  obtain ⟨listed, hlisted, h⟩ := Except.bind_eq_ok.mp h
  obtain ⟨sender', hsender, h⟩ := Except.bind_eq_ok.mp h
  cases h
  exact ⟨htimeout, hintent, hlisted, hsender⟩

theorem appendIdempotentMail_of_error {mail : Mail} {recipientIds : List SessionId} {e : MailError}
    (h : db.loadIdempotentReplay mail recipientIds = .error e) :
    appendIdempotentMail db mail recipientIds =
      .error (.store "failed to load idempotent mail") := by
  rw [appendIdempotentMail, h]
  rfl

theorem appendIdempotentMail_of_none {mail : Mail} {recipientIds : List SessionId}
    (h : db.loadIdempotentReplay mail recipientIds = .ok none) :
    appendIdempotentMail db mail recipientIds = .ok none := by
  rw [appendIdempotentMail, h]
  rfl

theorem appendIdempotentMail_of_some {mail : Mail} {recipientIds : List SessionId}
    {replay : List Mail} (h : db.loadIdempotentReplay mail recipientIds = .ok (some replay)) :
    appendIdempotentMail db mail recipientIds =
      (messageViews db replay).map fun views =>
        some (views.map fun view => successfulSendResult view .skipped none) := by
  rw [appendIdempotentMail, h]
  show (messageViews db replay).bind _ = _
  cases messageViews db replay <;> rfl

theorem mailSendRequest_of_prepared {limits : MailSafetyConfig} {context : RequestContext}
    {request : MailSendRequest} {env : SendEnv} {sessions : List Session} {sender : SenderRef}
    (h : prepareSend db context request = .ok (sessions, sender)) :
    mailSendRequest db limits context request env =
      sendToDeliverable db limits request env sender (deliverableSessions sessions env.authorized)
        (refusalResponse sessions env.authorized) := by
  rw [mailSendRequest, h]

/-- What a send writes is what `mailSend` writes for the resolved recipients. -/
theorem db_mailSendRequest {limits : MailSafetyConfig} {context : RequestContext}
    {request : MailSendRequest} {env : SendEnv} {sessions : List Session} {sender : SenderRef}
    (hprepare : prepareSend db context request = .ok (sessions, sender)) (first : Session)
    (rest : List Session)
    (hdeliverable : deliverableSessions sessions env.authorized = first :: rest) :
    (mailSendRequest db limits context request env).2 =
      mailSend db limits (mailFromRequest request sender first.id env)
        (sessions.map fun session => session.id) env.authorized env.now := by
  obtain ⟨-, -, hresolve, -⟩ := prepareSend_eq_ok hprepare
  have hlisted := decodes_of_listSessionsBySelector (listed_resolveSelector hresolve).1
  -- The recipients of the handler are those of the operation, in the same order.
  have hids := map_deliverableSessions hlisted env.authorized
  rw [hdeliverable] at hids
  have hne : (first :: rest).map (fun session => session.id) ≠ [] := by simp
  rw [mailSendRequest_of_prepared hprepare, mailSend, ← hids, if_neg hne, hdeliverable,
    sendToDeliverable]
  cases hreplay : db.loadIdempotentReplay (mailFromRequest request sender first.id env)
      ((first :: rest).map fun session => session.id) with
  | error e => rw [appendIdempotentMail_of_error hreplay]
  | ok replay =>
      cases replay with
      | some replay =>
          rw [appendIdempotentMail_of_some hreplay]
          cases messageViews db replay <;> rfl
      | none =>
          rw [appendIdempotentMail_of_none hreplay]
          dsimp only
          cases hsafety : checkMailSafety db limits (mailFromRequest request sender first.id env)
              env.now with
          | error error =>
              have hnot : ¬enforceMailSafety db limits (mailFromRequest request sender first.id env)
                  env.now = true := by
                intro hpass
                rw [checkMailSafety_isOk.mpr hpass] at hsafety
                cases hsafety
              rw [if_neg hnot]
          | ok u =>
              rw [if_pos (checkMailSafety_isOk.mp hsafety)]
              dsimp only
              rw [persistMailSend]
              cases db.insertMailForRecipients (mailFromRequest request sender first.id env)
                  ((first :: rest).map fun session => session.id) with
              | error e => rfl
              | ok written =>
                  obtain ⟨outcome, db'⟩ := written
                  dsimp only
                  cases messageViews db' outcome.mail <;> rfl

/-- The receipts a read inserts, with and without the errors. -/
theorem db_emitReceipts {env : ReadEnv} (hfaults : env.faults = .none) (items : List Mail)
    (db : Database) (n : Nat) :
    (emitReceipts env db n items).2 = emitReadReceipts env.fresh env.now db items := by
  induction items generalizing db n with
  | nil => rfl
  | cons item rest ih =>
      rw [emitReceipts, emitReadReceipts, receiptTo]
      cases item.sender with
      | operator principal => exact ih db n
      | system => exact ih db n
      | session sender =>
          dsimp only
          by_cases hreceipt : item.intent = .receipt
          · rw [if_pos hreceipt, if_pos hreceipt]
            exact ih db n
          · rw [if_neg hreceipt, if_neg hreceipt]
            dsimp only
            have hfault : ¬env.faults.receipt n = true := by
              rw [hfaults]
              exact Bool.false_ne_true
            by_cases hread : item.readAt = none
            · rw [if_pos hread, if_pos hread]
            · rw [if_neg hread, if_neg hread, if_neg hfault]
              cases db.insertMail
                  (readReceipt (env.fresh item).1 sender item (env.fresh item).2 env.now) with
              | error e => rfl
              | ok written => exact ih written.2 (n + 1)

/-- What a read writes when no store call fails is what `mailRead` writes. -/
theorem db_mailReadRequest {context : RequestContext} {env : ReadEnv} {recipient : Session}
    (hfaults : env.faults = .none) (hmailbox : callerMailbox db context = .ok recipient)
    (hauthorized : env.authorized recipient.id = true) :
    (mailReadRequest db context env).2 = mailRead db recipient.id env.now env.fresh := by
  have hresolve : ¬env.faults.resolve = true := by rw [hfaults]; exact Bool.false_ne_true
  have hread : ¬env.faults.read = true := by rw [hfaults]; exact Bool.false_ne_true
  rw [mailReadRequest, if_neg hresolve, hmailbox]
  dsimp only
  rw [mailReadOne, if_neg (not_not.mpr hauthorized), if_neg hread, mailRead,
    ← db_emitReceipts hfaults _ _ 0]
  dsimp only
  split
  · next hemit => rw [hemit]
  · next hemit => rw [hemit]

end Writes

end LittleOrgans.Session
