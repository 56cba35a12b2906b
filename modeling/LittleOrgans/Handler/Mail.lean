import LittleOrgans.Handler.Sessions

/-!
# Mail requests

Sending, reading, counting and observing mail, and nudges, with what each calls on the way. A
send asks for the right to write to each of its recipients; the recipients it was refused are
reported, the others get the mail. The recipients of a new message are notified side by side.
-/

set_option autoImplicit false

namespace LittleOrgans.Handler

open LittleOrgans.Core
open LittleOrgans.Library
open LittleOrgans.Store
open LittleOrgans.Identity
open LittleOrgans.Session (MailSendRequest MailLogFilter MailNotifyMode RecipientSummary SenderView
  MessageView readReceipt receiptTo mailSessionIds)
open LittleOrgans.Runtime (NudgeMode)

variable (config : DaemonConfig)

/-- What is typed into the pane of a session that has mail. -/
def MAIL_NOTIFY_NUDGE_CONTENT : String := "you have mail"

/-! ## Views -/

/-- The sender of a mail, as the reply shows it. -/
def senderView (sessions : List Session) : SenderRef → Except Report SenderView
  | .session id =>
      match sessions.find? fun session => session.id = id with
      | some session => .ok (.ofSession session)
      | none => .error ["unknown sender session: " ++ idText id]
  | .operator principal => .ok (.ofOperator principal)
  | .system => .ok .system

/-- The recipient of a mail, as the reply shows it. -/
def recipientSummary (sessions : List Session) (id : SessionId) : Except Report RecipientSummary :=
  match sessions.find? fun session => session.id = id with
  | some session => .ok (.fromSession session)
  | none => .error ["unknown recipient session: " ++ idText id]

/-- A mail, as the reply shows it. -/
def messageView (sessions : List Session) (item : Mail) : Except Report MessageView := do
  let sender ← senderView sessions item.sender
  let recipient ← recipientSummary sessions item.recipientId
  pure (.fromMail item sender recipient)

/-- `message_views`. -/
def messageViews (mail : List Mail) : HandlerProg (List MessageView) := do
  let sessions ← Prog.context "failed to load message session summaries"
    (store (.listSessionsByIds (mail.flatMap mailSessionIds).dedup))
  Prog.ofExcept (mail.mapM (messageView sessions))

/-! ## The caller -/

/-- `effective_sender`. -/
def effectiveSender (context : RequestContext) : HandlerProg SenderRef :=
  match context.callerSessionId with
  -- a session is the sender under its own id, checked against the store
  | some id => do
      requireSession id "sender"
      return .session id
  | none => return .operator (config.principalText context.principal)

/-- `caller_mailbox`. -/
def callerMailbox (context : RequestContext) : HandlerProg Session := do
  let id ← Prog.required context.callerSessionId
    "mail read requires a caller session; operator has no mailbox"
  let sessions ← resolveSelector (.id id) "recipient"
  Prog.required sessions.head? (noSessions (.id id) "recipient")

/-! ## Nudges -/

/-- `nudge_one`. -/
def nudgeOne (context : RequestContext) (content : String) (mode : NudgeMode)
    (timeoutMs : Option Nat) (id : SessionId) : HandlerProg NudgeDelivery := do
  authorizeSession config context.principal .nudge id
  let result ← Prog.context "nudge runtime port failed" (port (.nudge id content mode timeoutMs))
  return ⟨idText id, result.delivered, result.message⟩

/-- `nudge`. -/
def nudge (context : RequestContext) (request : NudgeRequest) : HandlerProg RpcResponse := do
  let recipients ← resolveSelector request.toSelector "recipient"
  let collected ← forTargets recipients (nudgeOne config context request.content request.mode none)
  return .nudged ⟨collected.1, collected.2⟩

/-! ## Sending -/

/-- Only a send that waits takes a timeout. -/
def validateMailNotifyTimeout (notify : Option MailNotifyMode) (timeoutMs : Option Nat) :
    Except Report Unit :=
  match timeoutMs with
  | none => .ok ()
  | some 0 => .error ["mail send --timeout must be at least 1 second"]
  | some _ =>
      if notify ≠ some .wait then .error ["mail send --timeout requires --notify wait"]
      else .ok ()

/-- Receipts are sent by the daemon alone. -/
def ensureClientSendAllowed (intent : MailIntent) : Except Report Unit :=
  if intent = .receipt then
    .error ["mail intent receipt is reserved for daemon system messages"]
  else .ok ()

/-- The mail of a request for one recipient. -/
def mailFromRequest (request : MailSendRequest) (sender : SenderRef) (recipientId : SessionId)
    (id : MessageId) (sentAt : DateTime) : Mail where
  id := id
  sender := sender
  recipientId := recipientId
  content := request.content
  sentAt := sentAt
  readAt := none
  status := .unread
  contextId := request.contextId
  intent := request.intent
  idempotencyKey := request.idempotencyKey

/-- A recipient the mail was not written for. -/
def failedSendResult (recipient : Session) (error : String) : MailSendResult where
  recipient := .fromSession recipient
  mail := .err
  notify := .skipped
  message := none
  error := some error

/-- A recipient the mail was written for. -/
def successfulSendResult (message : MessageView) (notify : Session.MailNotifyStatus)
    (error : Option String) : MailSendResult where
  recipient := message.recipient
  mail := .ok
  notify := notify
  message := some message
  error := error

/-- The answer of the identity service about one recipient. -/
def askRecipient (context : RequestContext) (recipient : Session) :
    HandlerProg (Session × Except Report Unit) := do
  -- a refusal is an answer about this recipient, not an error of the send
  let answer ← (authorizeSession config context.principal .mailSend recipient.id).attempt
  return (recipient, answer)

/-- The recipients the caller may write to. -/
def granted (answers : List (Session × Except Report Unit)) : List Session :=
  answers.filterMap fun answer => answer.2.toOption.map fun _ => answer.1

/-- A recipient that the caller may not write to, and the error that says so. -/
def refusal (answer : Session × Except Report Unit) : Option (Session × Report) :=
  match answer.2 with
  | .ok _ => none
  | .error report => some (answer.1, report)

/-- The response for recipients that got no mail. -/
def failedResponse (failed : List (Session × Report)) : MailSendResponse where
  results := failed.map fun failure => failedSendResult failure.1 failure.2.display
  errors := failed.map fun failure => targetError failure.1.id failure.2

/-- Two replies as one. -/
def MailSendResponse.append (response more : MailSendResponse) : MailSendResponse where
  results := response.results ++ more.results
  errors := response.errors ++ more.errors

/-- `append_idempotent_mail`. -/
def appendIdempotentMail (mail : Mail) (recipientIds : List SessionId) :
    HandlerProg (Option MailSendResponse) := do
  match ← Prog.context "failed to load idempotent mail"
      (store (.idempotentMailForRecipients mail recipientIds)) with
  | none => return none
  | some replay =>
      let views ← messageViews replay
      return some ⟨views.map fun view => successfulSendResult view .skipped none, []⟩

/-- The error of a conversation that is too deep. -/
def depthError (contextId : String) (depth limit : Nat) : String :=
  "mail circuit breaker tripped for context " ++ contextId ++ ": conversation depth " ++
    toString depth ++ " reached limit " ++ toString limit

/-- The error of a sender that sends too often. -/
def rateError (rate : Nat) (window : Int) (limit : Nat) : String :=
  "mail circuit breaker throttled sender: " ++ toString rate ++ " sends in " ++
    toString (window / 1000000) ++ " seconds reached limit " ++ toString limit

/-- `enforce_mail_safety`. -/
def enforceMailSafety (mail : Mail) : HandlerProg Unit := do
  let limits := config.mailSafety
  -- a receipt is not counted and not stopped
  if mail.intent = .receipt then return ()
  else
    let depth ← Prog.context "failed to count conversation depth"
      (store (.countConversationDepth mail.contextId))
    Prog.ensure (depth < limits.conversationDepthLimit)
      (depthError mail.contextId depth limits.conversationDepthLimit)
    let now ← host .now
    let rate ← Prog.context "failed to count sender mail rate"
      (store (.countSenderRateSince mail.sender (now - limits.senderRateWindow)))
    Prog.ensure (rate < limits.senderRateLimit)
      (rateError rate limits.senderRateWindow limits.senderRateLimit)

/-- `NudgeMode::from`. -/
def notifyNudgeMode : MailNotifyMode → NudgeMode
  | .wait => .wait
  | .steer => .steer

/-- What a nudge, or its error, says about the notification. -/
def notifyStatus : Except Report NudgeDelivery → Session.MailNotifyStatus × Option String
  -- a nudge that was not delivered is a notification that failed
  | .ok delivery => if delivery.delivered then (.ok, none) else (.err, some delivery.message)
  | .error report => (.err, some report.display)

/-- `notify_result`. -/
def notifyResult (context : RequestContext) (request : MailSendRequest) (id : SessionId) :
    HandlerProg (Session.MailNotifyStatus × Option String) :=
  match request.notify with
  | none => return (.skipped, none)
  | some mode => do
      let answer ← (nudgeOne config context MAIL_NOTIFY_NUDGE_CONTENT (notifyNudgeMode mode)
        request.timeoutMs id).attempt
      return notifyStatus answer

/-- What becomes of one view of a message that was written. -/
def notifyView (context : RequestContext) (request : MailSendRequest) (inserted : Bool)
    (view : MessageView) : HandlerProg MailSendResult := do
  if inserted then
    let notified ← notifyResult config context request view.recipient.sessionId
    return successfulSendResult view notified.1 notified.2
  -- a replay notifies nobody
  else return successfulSendResult view .skipped none

/-- The errors that the results of a send carry. -/
def notifyErrors (results : List MailSendResult) : List TargetError :=
  results.filterMap fun result => result.error.map fun error =>
    ⟨idText result.recipient.sessionId, error⟩

/-- `emit_mail_appends`. -/
def emitMailAppends (mail : List Mail) : HandlerProg Unit :=
  Prog.forEach (fun id => host (.emitMailAppend id)) (mail.map fun item => item.id).dedup

/-- Observers hear of a message that was written now. -/
def emitInserted (outcome : MailWriteOutcome) : HandlerProg Unit :=
  if outcome.inserted then emitMailAppends outcome.mail else .ret ()

/-- What follows a message that was written, or that had been written before. -/
def reportWritten (context : RequestContext) (request : MailSendRequest)
    (outcome : MailWriteOutcome) : HandlerProg MailSendResponse := do
  emitInserted outcome
  let views ← messageViews outcome.mail
  -- the recipients are notified at the same time
  let results ← Prog.joinAll (host .pollFirst)
    (views.map (notifyView config context request outcome.inserted))
  return ⟨results, notifyErrors results⟩

/-- `persist_mail_send`. -/
def persistMailSend (context : RequestContext) (request : MailSendRequest) (mail : Mail)
    (deliverable : List Session) : HandlerProg MailSendResponse := do
  let recipientIds := deliverable.map fun session => session.id
  match ← (Prog.context "failed to persist mail"
      (store (.insertMailForRecipients mail recipientIds))).attempt with
  | .ok outcome => reportWritten config context request outcome
  | .error report => return failedResponse (deliverable.map fun session => (session, report))

/-- A send to recipients that the caller may write to. -/
def sendToDeliverable (context : RequestContext) (request : MailSendRequest) (sender : SenderRef)
    (first : Session) (rest : List Session) : HandlerProg MailSendResponse := do
  let id ← host .newMessageId
  let sentAt ← host .now
  let mail := mailFromRequest request sender first.id id sentAt
  -- a send that was made before is answered before the limits are looked at
  match ← appendIdempotentMail mail ((first :: rest).map fun session => session.id) with
  | some response => return response
  | none =>
      enforceMailSafety config mail
      persistMailSend config context request mail (first :: rest)

/-- `mail_send`. -/
def mailSend (context : RequestContext) (request : MailSendRequest) : HandlerProg RpcResponse := do
  Prog.ofExcept (validateMailNotifyTimeout request.notify request.timeoutMs)
  Prog.ofExcept (ensureClientSendAllowed request.intent)
  let recipients ← resolveSelector request.toSelector "recipient"
  let sender ← effectiveSender config context
  let answers ← Prog.traverse (askRecipient config context)
    -- only a running session gets mail
    (recipients.filter fun session => session.state = .running)
  let refused := failedResponse (answers.filterMap refusal)
  match granted answers with
  | [] => return .mailSent refused
  | first :: rest =>
      let sent ← sendToDeliverable config context request sender first rest
      return .mailSent (refused.append sent)

/-! ## Reading -/

/-- The text of a read receipt. -/
def readReceiptContent (reader : Session) (item : Mail) (readAt : DateTime) : String :=
  "read receipt: " ++ reader.role ++ " (" ++ idText reader.id ++ ") read message " ++
    String.ofList (uuidText item.id.uuid) ++ " at " ++ config.rfc3339 readAt

/-- One round of the loop of `emit_read_receipts`. -/
def emitReadReceipt (reader : Session) (item : Mail) : HandlerProg Unit :=
  -- only a request of a session is answered by a receipt
  match receiptTo item with
  | none => .ret ()
  | some sender => do
      let readAt ← Prog.required item.readAt ("drained message " ++
        String.ofList (uuidText item.id.uuid) ++ " did not include read_at")
      let id ← host .newMessageId
      let sentAt ← host .now
      let content := readReceiptContent config reader item readAt
      let receipt := readReceipt id sender item content sentAt
      let inserted ← Prog.context "failed to persist read receipt"
        (store (.insertMailForRecipients receipt [sender]))
      emitMailAppends (inserted.mail.take 1)

/-- `mail_read_one`. -/
def mailReadOne (context : RequestContext) (recipient : Session) (peek : Bool) :
    HandlerProg (List MessageView) := do
  authorizeSession config context.principal .mailRead recipient.id
  let now ← host .now
  let mail ← Prog.context "failed to read mail" (store (.readUnreadMail recipient.id now peek))
  -- a peek marks nothing and sends no receipt
  if peek then messageViews mail
  else
    -- a receipt that fails fails the read, after the mail was marked
    Prog.forEach (emitReadReceipt config recipient) mail
    messageViews mail

/-- `mail_read`. -/
def mailRead (context : RequestContext) : HandlerProg RpcResponse := do
  let recipient ← callerMailbox context
  let messages ← mailReadOne config context recipient false
  return .mailRead messages []

/-! ## Counting -/

/-- How much unread mail a session has, as the reply shows it. -/
def mailCountView (session : Session) (unread : Nat) : MailCountView where
  sessionId := session.id
  role := session.role
  displayLabel := session.role
  namespaceSlug := session.namespaceSlug
  unread := unread

/-- One round of the loop of `mail_counts`. -/
def mailCount (session : Session) : HandlerProg MailCountView := do
  requireSession session.id "recipient"
  let unread ← Prog.context "failed to count unread mail" (store (.countUnreadMail session.id))
  return mailCountView session unread

/-- `mail_counts`. -/
def mailCounts (selector : Selector) : HandlerProg (List MailCountView) := do
  let recipients ← resolveSelector selector "recipient"
  Prog.traverse mailCount recipients

/-- All unread mail of a reply. -/
def totalUnread (counts : List MailCountView) : Nat := (counts.map fun count => count.unread).sum

/-- `mail_count_response`. -/
def mailCountResponse (request : MailCheckRequest)
    (response : Nat → List MailCountView → RpcResponse) : HandlerProg RpcResponse := do
  let counts ← mailCounts request.selector
  return response (totalUnread counts) counts

/-- `mail_check`. -/
def mailCheck (request : MailCheckRequest) : HandlerProg RpcResponse :=
  mailCountResponse request .mailChecked

/-- `mail_stop_check`. -/
def mailStopCheck (request : MailCheckRequest) : HandlerProg RpcResponse :=
  mailCountResponse request .mailStopChecked

/-! ## Observing -/

/-- `filter_ids`. -/
def filterIds (selector : Option Selector) : HandlerProg (Option (List SessionId)) :=
  match selector with
  | none => return none
  | some selector => do
      let sessions ← store (.listSessionsBySelector selector)
      return some (sessions.map fun session => session.id)

/-- `message_log_views`. -/
def messageLogViews (filter : MailLogFilter) (after : Option MailLogCursor) :
    HandlerProg (List MessageView) := do
  let participantIds ← filterIds filter.selector
  let recipientIds ← filterIds filter.recipient
  let mail ← store (.listMessageLog filter.contextId participantIds recipientIds
    filter.includeSystem after)
  messageViews mail

/-- `cursor_for`. -/
def cursorFor (messages : List MessageView) : Option MailLogCursor :=
  messages.getLast?.map fun message => ⟨message.sentAt, message.id⟩

/-- `ensure_operator_observer` and `authorize_mail_observation`. -/
def authorizeObserver (context : RequestContext) : HandlerProg Unit := do
  Prog.ensure context.callerSessionId.isNone "mail observation is operator-only"
  authorize config context.principal .mailRead .default

/-- `mail_peek`. -/
def mailPeek (context : RequestContext) (request : MailPeekRequest) : HandlerProg RpcResponse := do
  authorizeObserver config context
  let messages ← Prog.context "failed to load mail transcript"
    (messageLogViews request.filter none)
  return .mailPeek messages (cursorFor messages)

/-- The loop of `tail_messages`: the log is read again whenever mail was appended. -/
def tailRounds (filter : MailLogFilter) (after : Option MailLogCursor) :
    Nat → HandlerProg (List MessageView)
  | 0 => .ret []
  | n + 1 => do
      match ← host .awaitMailAppend with
      | .elapsed => return []
      | .closed => return []
      | .appended =>
          let messages ← messageLogViews filter after
          if messages.isEmpty then tailRounds filter after n else return messages

/-- `tail_messages`; the number of times it is woken is bounded by `rounds` only. -/
def tailMessages (request : MailTailRequest) : HandlerProg (List MessageView) := do
  if request.follow then
    host .subscribeMailAppends
    let messages ← messageLogViews request.filter request.after
    if messages.isEmpty then
      let rounds ← host .rounds
      tailRounds request.filter request.after rounds
    else return messages
  else messageLogViews request.filter request.after

/-- `mail_tail`. -/
def mailTail (context : RequestContext) (request : MailTailRequest) : HandlerProg RpcResponse := do
  authorizeObserver config context
  let messages ← tailMessages request
  return .mailTail messages ((cursorFor messages).or request.after)

end LittleOrgans.Handler
