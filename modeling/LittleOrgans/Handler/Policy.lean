import LittleOrgans.Handler.Daemon
import LittleOrgans.Store.SessionOrigin

/-!
# The policy of the session daemon

Which audit rows an operation of the daemon has to be preceded by. A grant is an `Allow` row
of the audit log; a caller acts with the grants of its own principal, and the background
tasks act for the daemon. A session is written from the draft of an intent, which is a grant
too.

Resolving a selector is free, and so is what it takes to find out which session a request is
about: the decision on a request is made once its resource is known. What the runtime reports
may be persisted by the daemon, and by a caller that may kill a session or run the doctor.
-/

set_option autoImplicit false

namespace LittleOrgans.Handler

open LittleOrgans.Core
open LittleOrgans.Library
open LittleOrgans.Store
open LittleOrgans.Identity

/-- Whom a program acts for. -/
inductive Subject where
  | caller (principal : Principal)
  | daemon

/-- What the audit log has a row for. -/
inductive Grant where
  /-- This principal was allowed this. -/
  | allowed (principal : Principal) (action : Action) (resource : ResourceSpec)
  /-- Some principal was allowed to spawn this session. -/
  | spawned (id : SessionId)
  /-- There is an intent with this draft. -/
  | drafted (draft : SessionDraft)

/-! ## Conditions on grants -/

/-- The subject is a caller that was allowed this. -/
def Allowed (x : Subject) (φ : Set Grant) (action : Action) (resource : ResourceSpec) : Prop :=
  ∃ principal, x = .caller principal ∧ .allowed principal action resource ∈ φ

/-- The session is one that the caller was allowed to spawn; for the daemon, one that somebody
was. -/
def MaySpawn (φ : Set Grant) (id : SessionId) : Subject → Prop
  | .caller principal =>
      ∃ resource, resource.sessionId = some id ∧ .allowed principal .spawn resource ∈ φ
  | .daemon => .spawned id ∈ φ

/-- What the runtime reports may be written to the session rows. -/
def MayRefresh (x : Subject) (φ : Set Grant) : Prop :=
  x = .daemon ∨ (∃ id, Allowed x φ .kill (.session id)) ∨ Allowed x φ .doctor .default

/-- What the runtime is asked about all sessions. -/
def MayReconcile (x : Subject) (φ : Set Grant) : Prop :=
  x = .daemon ∨ Allowed x φ .doctor .default

/-- A row that says what was decided. -/
def HonestFor (localUid : UInt32) (x : Subject) (row : AuditRow) : Prop :=
  x = .caller row.principal ∧ row.decision = AuditDecision.evaluateLocal row.principal localUid

section

variable (config : DaemonConfig)

/-- A message may be written to these recipients: one of the daemon is the receipt of a
mailbox that was read, and one of an operator is signed by its principal. -/
def MayWrite (x : Subject) (φ : Set Grant) (mail : Mail) (recipientIds : List SessionId) : Prop :=
  match mail.sender with
  | .system => ∃ id, Allowed x φ .mailRead (.session id)
  | .session _ => ∀ id ∈ recipientIds, Allowed x φ .mailSend (.session id)
  | .operator text => (∃ principal, x = .caller principal ∧ config.principalText principal = text) ∧
      ∀ id ∈ recipientIds, Allowed x φ .mailSend (.session id)

/-- The session is what an intent has drafted. -/
def MayStore (φ : Set Grant) (session : Session) : Prop :=
  ∃ draft, .drafted draft ∈ φ ∧ draft.id = session.id ∧ (sessionRow session).origin = draft.origin

/-! ## The transactions of a spawn -/

/-- The writes of a transaction that a handler may make for a caller. -/
def Statement.permitted (x : Subject) (φ : Set Grant) : Statement → Prop
  | .recordAudit row => HonestFor config.localUid x row
  | .insertPendingSpawnIntent intent => x ≠ .daemon ∧ MaySpawn φ intent.sessionId x ∧
      intent.spawnRequest.sessionId = intent.sessionId ∧
      intent.sessionDraft.id = intent.sessionId
  | .insertForking lifecycle => MaySpawn φ lifecycle.sessionId x
  | .insertSession session => MaySpawn φ session.id x ∧ MayStore φ session
  | .updateLifecycle lifecycle => MaySpawn φ lifecycle.sessionId x
  | .resolveSpawnIntent id => MaySpawn φ id x
  | .abortSpawnIntent id _ => MaySpawn φ id x
  | .deleteLifecycle id => MaySpawn φ id x

/-- What the row of a decision is worth. -/
def rowGrants (row : AuditRow) : Set Grant :=
  {g | row.decision = .allow ∧ g = .allowed row.principal row.action row.resource}

/-- The operations of a transaction that a handler may call for a caller. -/
def TxOp.permitted (x : Subject) (φ : Set Grant) : TxOp → Prop
  | newAuditId => True
  | now => True
  | statement t => t.permitted config x φ

/-- What an operation of a transaction lets the handler do from then on. -/
def TxOp.earned : (o : TxOp) → Except Report o.Res → Set Grant
  | statement (.recordAudit row), .ok _ => rowGrants row
  | statement (.insertPendingSpawnIntent intent), .ok _ => {.drafted intent.sessionDraft}
  | _, _ => ∅

/-! ## The store, the runtime and the host -/

/-- The store calls that a handler may make for a caller. -/
def StoreOp.permitted (x : Subject) (φ : Set Grant) : StoreOp → Prop
  | recordAudit row => HonestFor config.localUid x row
  | namespaceExists _ => True
  | createNamespace _ _ => Allowed x φ .create .default
  | listNamespaces => Allowed x φ .list .default ∨ Allowed x φ .read .default ∨
      Allowed x φ .create .default
  | deleteNamespace _ => Allowed x φ .kill .default
  | deleteSessionsByNamespace _ => Allowed x φ .kill .default
  | activeSessionCountInNamespace _ => Allowed x φ .kill .default
  | listSessionsBySelector _ => True
  | listSessionsByIds _ => True
  | getSession _ => True
  | applyLabelMutation id _ => Allowed x φ .link (.session id)
  | recordTranscriptPath _ _ _ => MayRefresh x φ
  | markSessionTerminated _ _ _ => MayRefresh x φ
  | markSessionLost _ _ _ => MayReconcile x φ
  | readUnreadMail id _ _ => Allowed x φ .mailRead (.session id)
  | countUnreadMail _ => Allowed x φ .mailRead .default
  | idempotentMailForRecipients mail recipientIds => MayWrite config x φ mail recipientIds
  | insertMailForRecipients mail recipientIds => MayWrite config x φ mail recipientIds
  | countConversationDepth _ => True
  | countSenderRateSince _ _ => True
  | listMessageLog _ _ _ _ _ => Allowed x φ .mailRead .default
  | listPendingSpawnIntents => x = .daemon
  | eventCursor => x = .daemon
  | applyRuntimeEventsAndCursor _ _ _ => x = .daemon
  | applyCursor _ => x = .daemon

/-- The sessions that the intents are about, and their drafts. -/
def intentGrants (intents : List PendingSpawnIntent) : Set Grant :=
  {g | ∃ intent ∈ intents, g = .spawned intent.sessionId ∨
    g = .spawned intent.sessionDraft.id ∨ g = .drafted intent.sessionDraft}

/-- What a store call lets the handler do from then on. -/
def StoreOp.earned : (o : StoreOp) → Except Report o.Res → Set Grant
  | recordAudit row, .ok _ => rowGrants row
  | listPendingSpawnIntents, .ok intents => intentGrants intents
  | _, _ => ∅

/-- The calls of the driver that a handler may make for a caller. -/
def PortOp.permitted (x : Subject) (φ : Set Grant) : PortOp → Prop
  | spawn request => x ≠ .daemon ∧ MaySpawn φ request.sessionId x
  | reapExited => MayRefresh x φ
  | capture id _ => Allowed x φ .read (.session id)
  | terminate id _ _ => Allowed x φ .kill (.session id) ∨ MaySpawn φ id x
  | nudge id _ _ _ => Allowed x φ .nudge (.session id)
  | status _ => MayReconcile x φ
  | doctor => Allowed x φ .doctor .default
  | pollEvents _ => x = .daemon
  | appendEvent event => MaySpawn φ event.sessionId x

/-- The files and the clock: a log is read for who may read it. -/
def HostOp.permitted (x : Subject) (φ : Set Grant) : HostOp → Prop
  | readFile _ => ∃ id, Allowed x φ .logs (.session id)
  | _ => True

end

/-! ## What answers say -/

/-- The session of an answer is the one that was asked for. -/
def ConcernsSession (id : SessionId) (answer : Except Report (Option Session)) : Prop :=
  ∀ session, answer = .ok (some session) → session.id = id

/-- Mail to one of these recipients. -/
def AddressedTo (recipientIds : List SessionId) (mail : List Mail) : Prop :=
  ∀ item ∈ mail, item.recipientId ∈ recipientIds

/-- What the answer of a store call says about its sessions. -/
def StoreOp.Says : (o : StoreOp) → Except Report o.Res → Prop
  | getSession id, answer => ConcernsSession id answer
  | applyLabelMutation id _, answer => ConcernsSession id answer
  | recordTranscriptPath id _ _, answer => ConcernsSession id answer
  | markSessionTerminated id _ _, answer => ConcernsSession id answer
  | markSessionLost id _ _, answer => ConcernsSession id answer
  | readUnreadMail id _ _, answer => ∀ mail, answer = .ok mail → AddressedTo [id] mail
  | idempotentMailForRecipients _ recipientIds, answer =>
      ∀ mail, answer = .ok (some mail) → AddressedTo recipientIds mail
  | insertMailForRecipients _ recipientIds, answer =>
      ∀ outcome, answer = .ok outcome → AddressedTo recipientIds outcome.mail
  | _, _ => True

/-- The answer of the driver is one it can give. -/
def PortOp.Says (o : PortOp) (answer : Except Report o.Res) : Prop :=
  ∀ a, answer = .ok a → o.possible a = true

/-! ## The policies -/

section

variable {x : Subject} {φ ψ : Set Grant}

theorem Allowed.mono (h : φ ⊆ ψ) {action : Action} {resource : ResourceSpec}
    (hallowed : Allowed x φ action resource) : Allowed x ψ action resource := by
  obtain ⟨principal, hx, hmem⟩ := hallowed
  exact ⟨principal, hx, h hmem⟩

theorem MaySpawn.mono (h : φ ⊆ ψ) {id : SessionId} (hspawn : MaySpawn φ id x) :
    MaySpawn ψ id x := by
  cases x with
  | caller principal =>
      obtain ⟨resource, hid, hmem⟩ := hspawn
      exact ⟨resource, hid, h hmem⟩
  | daemon => exact h hspawn

theorem MayStore.mono (h : φ ⊆ ψ) {session : Session} (hstore : MayStore φ session) :
    MayStore ψ session := by
  obtain ⟨draft, hmem, hrest⟩ := hstore
  exact ⟨draft, h hmem, hrest⟩

theorem MayRefresh.mono (h : φ ⊆ ψ) (hrefresh : MayRefresh x φ) : MayRefresh x ψ := by
  rcases hrefresh with hx | ⟨id, hkill⟩ | hdoctor
  · exact .inl hx
  · exact .inr (.inl ⟨id, hkill.mono h⟩)
  · exact .inr (.inr (hdoctor.mono h))

theorem MayReconcile.mono (h : φ ⊆ ψ) (hreconcile : MayReconcile x φ) : MayReconcile x ψ := by
  rcases hreconcile with hx | hdoctor
  · exact .inl hx
  · exact .inr (hdoctor.mono h)

theorem MayReconcile.mayRefresh (h : MayReconcile x φ) : MayRefresh x φ := by
  rcases h with hx | hdoctor
  · exact .inl hx
  · exact .inr (.inr hdoctor)

variable {config : DaemonConfig}

theorem MayWrite.mono (h : φ ⊆ ψ) {mail : Mail} {recipientIds : List SessionId}
    (hwrite : MayWrite config x φ mail recipientIds) : MayWrite config x ψ mail recipientIds := by
  rw [MayWrite] at hwrite ⊢
  cases hsender : mail.sender with
  | system =>
      rw [hsender] at hwrite
      obtain ⟨id, hread⟩ := hwrite
      exact ⟨id, hread.mono h⟩
  | session id =>
      rw [hsender] at hwrite
      exact fun recipientId hid => (hwrite recipientId hid).mono h
  | operator text =>
      rw [hsender] at hwrite
      exact ⟨hwrite.1, fun recipientId hid => (hwrite.2 recipientId hid).mono h⟩

theorem Statement.permitted_mono (h : φ ⊆ ψ) {t : Statement} (ht : t.permitted config x φ) :
    t.permitted config x ψ := by
  cases t with
  | recordAudit row => exact ht
  | insertPendingSpawnIntent intent => exact ⟨ht.1, ht.2.1.mono h, ht.2.2⟩
  | insertForking lifecycle => exact MaySpawn.mono h ht
  | insertSession session => exact ⟨ht.1.mono h, ht.2.mono h⟩
  | updateLifecycle lifecycle => exact MaySpawn.mono h ht
  | resolveSpawnIntent id => exact MaySpawn.mono h ht
  | abortSpawnIntent id reason => exact MaySpawn.mono h ht
  | deleteLifecycle id => exact MaySpawn.mono h ht

theorem TxOp.permitted_mono (h : φ ⊆ ψ) {o : TxOp} (ho : o.permitted config x φ) :
    o.permitted config x ψ := by
  cases o with
  | newAuditId => trivial
  | now => trivial
  | statement t => exact Statement.permitted_mono h ho

theorem StoreOp.permitted_mono (h : φ ⊆ ψ) {o : StoreOp} (ho : o.permitted config x φ) :
    o.permitted config x ψ := by
  cases o with
  | recordAudit row => exact ho
  | namespaceExists slug => trivial
  | createNamespace slug createdAt => exact Allowed.mono h ho
  | listNamespaces => exact ho.imp (Allowed.mono h) (Or.imp (Allowed.mono h) (Allowed.mono h))
  | deleteNamespace slug => exact Allowed.mono h ho
  | deleteSessionsByNamespace slug => exact Allowed.mono h ho
  | activeSessionCountInNamespace slug => exact Allowed.mono h ho
  | listSessionsBySelector selector => trivial
  | listSessionsByIds ids => trivial
  | getSession id => trivial
  | applyLabelMutation id mutation => exact Allowed.mono h ho
  | recordTranscriptPath id path now => exact MayRefresh.mono h ho
  | markSessionTerminated id exitCode now => exact MayRefresh.mono h ho
  | markSessionLost id evidence now => exact MayReconcile.mono h ho
  | readUnreadMail id readAt peek => exact Allowed.mono h ho
  | countUnreadMail id => exact Allowed.mono h ho
  | idempotentMailForRecipients mail recipientIds => exact MayWrite.mono h ho
  | insertMailForRecipients mail recipientIds => exact MayWrite.mono h ho
  | countConversationDepth contextId => trivial
  | countSenderRateSince sender since => trivial
  | listMessageLog contextId participantIds recipientIds includeSystem after =>
      exact Allowed.mono h ho
  | listPendingSpawnIntents => exact ho
  | eventCursor => exact ho
  | applyRuntimeEventsAndCursor events nextCursor now => exact ho
  | applyCursor cursor => exact ho

theorem PortOp.permitted_mono (h : φ ⊆ ψ) {o : PortOp} (ho : o.permitted x φ) :
    o.permitted x ψ := by
  cases o with
  | spawn request => exact ⟨ho.1, ho.2.mono h⟩
  | reapExited => exact MayRefresh.mono h ho
  | capture id lines => exact Allowed.mono h ho
  | terminate id signal graceSecs => exact ho.imp (Allowed.mono h) (MaySpawn.mono h)
  | nudge id content mode timeoutMs => exact Allowed.mono h ho
  | status filter => exact MayReconcile.mono h ho
  | doctor => exact Allowed.mono h ho
  | pollEvents since => exact ho
  | appendEvent event => exact MaySpawn.mono h ho

theorem HostOp.permitted_mono (h : φ ⊆ ψ) {o : HostOp} (ho : o.permitted x φ) :
    o.permitted x ψ := by
  cases o with
  | readFile path =>
      obtain ⟨id, hlogs⟩ := ho
      exact ⟨id, hlogs.mono h⟩
  | _ => trivial

end

section

variable (config : DaemonConfig)

/-- The policy of a transaction. -/
abbrev txPolicy : Policy txOps Report where
  Subject := Subject
  Grant := Grant
  permits x φ o := o.permitted config x φ
  earns _ o r := o.earned r
  returns _ _ := True
  permits_mono h ho := TxOp.permitted_mono h ho

/-- The operations that a handler may call for a caller. -/
def HandlerOp.permitted (x : Subject) (φ : Set Grant) : HandlerOp → Prop
  | store o => o.permitted config x φ
  | transaction _ body => (txPolicy config).Mediated x φ body fun _ _ => True
  | port o => o.permitted x φ
  | host o => o.permitted x φ

/-- What a transaction is worth by itself. -/
def bodyGrants (x : Subject) (body : TxProg (Except Report Unit)) : Set Grant :=
  {g | (txPolicy config).Mediated x ∅ body fun r ψ => r = .ok () → g ∈ ψ}

/-- What an operation lets the handler do from then on. -/
def HandlerOp.earned (x : Subject) : (o : HandlerOp) → Except Report o.Res → Set Grant
  | store o, r => o.earned r
  | transaction _ body, .ok (.ok _) => bodyGrants config x body
  | _, _ => ∅

/-- What the answer of an operation says. -/
def HandlerOp.Says : (o : HandlerOp) → Except Report o.Res → Prop
  | store o, r => o.Says r
  | port o, r => o.Says r
  | _, _ => True

theorem HandlerOp.permitted_mono {x : Subject} {φ ψ : Set Grant} (h : φ ⊆ ψ) {o : HandlerOp}
    (ho : o.permitted config x φ) : o.permitted config x ψ := by
  cases o with
  | store o => exact StoreOp.permitted_mono h ho
  | transaction acquireContext body =>
      exact Policy.Mediated.of_subset (fun _ _ _ _ _ => trivial) ho h
  | port o => exact PortOp.permitted_mono h ho
  | host o => exact HostOp.permitted_mono h ho

/-- The policy of the session daemon. -/
abbrev daemonPolicy : Policy handlerOps Report where
  Subject := Subject
  Grant := Grant
  permits x φ o := o.permitted config x φ
  earns x o r := o.earned config x r
  returns o r := o.Says r
  permits_mono h ho := HandlerOp.permitted_mono config h ho

end

end LittleOrgans.Handler
