import LittleOrgans.Handler.Registry

/-!
# Complete mediation of the session daemon

What the audit log says about every run of the daemon: any number of requests, directly or
over MCP, side by side with the background tasks, through crashes and restarts.

Whatever a request is about to do, its own decisions permit (`mediated_of_reaches`), and what
it answers rests on them (`justified_of_reaches`). Every stored session and intent, and every
delivered message, has a decision for the local user behind it (`spawned_of_reaches`,
`delivered_of_reaches`). A request of any other principal leaves nothing but the rows of its
denials (`denied_of_reaches`), and is told nothing (`refused_of_reaches`).
-/

set_option autoImplicit false

namespace LittleOrgans.Handler

open LittleOrgans.Core
open LittleOrgans.Library
open LittleOrgans.Store
open LittleOrgans.Identity

variable {config : DaemonConfig} {server : McpServer} {s : DaemonStore}

/-- The programs of the daemon, followed by its policy. -/
abbrev daemonWatch (config : DaemonConfig) (server : McpServer) :
    Watch (sessionDaemon config server) := (daemonLedger config server).watch

/-- A state of the daemon that was started on this store. -/
def Reachable (config : DaemonConfig) (server : McpServer) (s : DaemonStore)
    (c : Pool (daemonWatch config server)) : Prop :=
  Pool.Reaches (.none (daemonWatch config server)) (Pool.initial (daemonWatch config server) s) c

/-- A store that was just migrated, with an empty audit log. -/
def DaemonStore.migrated (createdAt : DateTime) : DaemonStore := ⟨.migrated createdAt, []⟩

/-- A fresh store is sound. -/
theorem sound_migrated (config : DaemonConfig) (createdAt : DateTime) :
    Sound config (.migrated createdAt) where
  honest _ hrow := absurd hrow List.not_mem_nil
  intents id row h := by cases h
  sessions id row h := by cases h
  deliveries key row h := by cases h

variable {c : Pool (daemonWatch config server)}

/-- Every store that the daemon reaches from a sound one is sound. -/
theorem sound_of_reaches (hsound : Sound config s) (h : Reachable config server s c) :
    Sound config c.shared := Ledger.sound_of_reaches (L := daemonLedger config server) hsound h

/-! ### A spawn and a send -/

/-- A daemon of the user 501. -/
def sampleConfig : DaemonConfig where
  localUid := 501
  home := none
  daemonVersion := "0.7.0"
  mailSafety := ⟨50, 60, 60000000⟩
  formats := hyphenatedFormats
  rfc3339 := toString
  principalText
    | .localUid uid => toString uid
    | .unknown kind _ => kind

/-- A server whose texts do not matter. -/
def sampleServer : McpServer where
  text := ⟨fun _ => .error "expected value", fun _ => .error "invalid value", fun _ => "null"⟩
  codec := ⟨fun _ => .null, fun _ => .null, fun _ => .null, fun _ => .null, fun _ => .null,
    fun _ => .null, fun _ => .null, fun _ => .null, fun _ => .null, fun _ => .null, fun _ => .null⟩
  version := "0.7.0"
  tools := []
  toolListValue := .array []

/-- The runtime spawns what it is asked to spawn. -/
def sampleProcess (request : RuntimeSpawnRequest) : SpawnAnswer :=
  .spawned ⟨⟨request.sessionId, request.runtime, request.isolation, .running, some 40, some 41,
    some 7, none, none⟩, 41, none⟩

/-- Nothing fails. -/
def sampleChoice : Choice where
  fault := none
  late := false
  begun := false
  tx := List.replicate 5 ⟨none, ⟨1⟩, 7⟩
  port
    | .spawn request => some (sampleProcess request)
    | .appendEvent _ => some ()
    | _ => none
  host
    | .now => some 7
    | .nowMillis => some 0
    | .newAuditId => some ⟨1⟩
    | .newSessionId => some ⟨1⟩
    | .newIntentId => some ⟨1⟩
    | .newMessageId => some ⟨1⟩
    | .isDir _ => some true
    | .emitMailAppend _ => some ()
    | _ => none
  lifecycles := none

/-- A request to spawn a reviewer. -/
def sampleSpawn : Daemon.SpawnRequest :=
  ⟨.claude, "reviewer", "/work", none, none, "headless", none, .host, [], false⟩

/-- A request to send a mail to one session. -/
def sampleSend : Session.MailSendRequest := ⟨.id ⟨1⟩, "hello", none, none, "review", .inform, none⟩

/-- The user 502 is not the one the daemon runs for. -/
theorem not_local_sampleUser : Principal.localUid 502 ≠ .localUid sampleConfig.localUid := by
  intro h
  exact absurd (Principal.localUid.inj h) (by decide)

/-- The next operations of a thread. -/
def ranOn (t n : Nat) : List (Label (sessionDaemon sampleConfig sampleServer)) :=
  List.replicate n (.run t sampleChoice)

/-- The local user spawns a session. -/
def spawnRun : List (Label (sessionDaemon sampleConfig sampleServer)) :=
  .start (.request (.localUid 501) (.spawn sampleSpawn)) :: ranOn 0 12

/-- Then a user writes to it. -/
def sendRun (uid : UInt32) (n : Nat) : List (Label (sessionDaemon sampleConfig sampleServer)) :=
  spawnRun ++ .start (.request (.localUid uid) (.mailSend sampleSend)) :: ranOn 1 n

/-- The state behind a run from a migrated store. -/
def behind (labels : List (Label (sessionDaemon sampleConfig sampleServer))) :
    Option (Pool (daemonWatch sampleConfig sampleServer)) :=
  (Pool.initial (daemonWatch sampleConfig sampleServer) (DaemonStore.migrated 0)).follow
    (.none (daemonWatch sampleConfig sampleServer)) labels

/-- The steps that were taken make a run. -/
theorem reachable_of_behind {labels : List (Label (sessionDaemon sampleConfig sampleServer))}
    {c : Pool (daemonWatch sampleConfig sampleServer)} (h : behind labels = some c) :
    Reachable sampleConfig sampleServer (.migrated 0) c :=
  Pool.reaches_of_follow h

/-! ## Requests -/

/-- **Complete mediation.** -/
theorem mediated_of_reaches (hsound : Sound config s) (h : Reachable config server s c) {t : Nat}
    {thread : Thread (daemonWatch config server)} (hthread : c.threads t = some thread)
    {o : HandlerOp} {k : Except Report o.Res → HandlerProg (Option HandlerResult)}
    (hprog : thread.prog = .op o k) :
    o.permitted config thread.origin.subject thread.know.2 ∧
      ∀ g ∈ thread.know.2, OnRecord c.shared g :=
  Ledger.permitted_of_reaches (L := daemonLedger config server) hsound h hthread hprog

/-- A send that is about to be stored was allowed. -/
theorem mediated_of_reaches_send :
    ∃ c thread mail k, behind (sendRun 501 10) = some c ∧ c.threads 1 = some thread ∧
      thread.prog = .op (.store (.insertMailForRecipients mail [⟨1⟩])) k ∧
      MayWrite sampleConfig (.caller (.localUid 501)) thread.know.2 mail [⟨1⟩] ∧
      ∀ g ∈ thread.know.2, OnRecord c.shared g := by
  have hrun : ∃ c thread mail k, behind (sendRun 501 10) = some c ∧ c.threads 1 = some thread ∧
      thread.prog = .op (.store (.insertMailForRecipients mail [⟨1⟩])) k ∧
      thread.origin = .request (.localUid 501) (.mailSend sampleSend) :=
    ⟨_, _, _, _, rfl, rfl, rfl, rfl⟩
  obtain ⟨c, thread, mail, k, hc, hthread, hprog, horigin⟩ := hrun
  obtain ⟨hpermitted, hφ⟩ := mediated_of_reaches (sound_migrated sampleConfig 0)
    (reachable_of_behind hc) hthread hprog
  rw [horigin] at hpermitted
  exact ⟨c, thread, mail, k, hc, hthread, hprog, hpermitted, hφ⟩

/-- A row that allows the local user an action on this resource. -/
def AllowedLocally (config : DaemonConfig) (s : DaemonStore) (action : Action)
    (resource : ResourceSpec → Prop) : Prop :=
  ∃ row ∈ s.audit, row.decision = .allow ∧ row.principal = .localUid config.localUid ∧
    row.action = action ∧ resource row.resource

/-- What was decided in a sound store was allowed to the daemon's own user. -/
theorem Sound.allowedLocally (hsound : Sound config s) {principal : Principal} {action : Action}
    {resource : ResourceSpec} (h : Decided s principal action resource) {P : ResourceSpec → Prop}
    (hP : P resource) : AllowedLocally config s action P := by
  obtain ⟨row, hrow, hallow, hprincipal, haction, rfl⟩ := h
  have hdecision := hsound.honest row hrow
  rw [hallow] at hdecision
  exact ⟨row, hrow, hallow, evaluateLocal_eq_allow.mp hdecision.symm, haction, hP⟩

/-- A session that was spawned was allowed to the daemon's own user. -/
theorem Sound.spawnAllowed (hsound : Sound config s) {id : SessionId} (h : SpawnDecided s id) :
    AllowedLocally config s .spawn fun resource => resource.sessionId = some id := by
  obtain ⟨principal, resource, hid, hdecided⟩ := h
  exact hsound.allowedLocally hdecided hid

/-- Every stored session and intent was allowed, and an intent is about its own session. What a
session was drafted with is what its intent says. -/
theorem spawned_of_reaches (hsound : Sound config s) (h : Reachable config server s c) :
    (∀ id row, c.shared.db.sessions.lookup id = some row →
      (AllowedLocally config c.shared .spawn fun resource => resource.sessionId = some id) ∧
        ∃ intent, c.shared.db.spawnIntents.lookup id = some intent ∧
          row.origin = intent.sessionDraft.origin) ∧
    ∀ id row, c.shared.db.spawnIntents.lookup id = some row →
      (AllowedLocally config c.shared .spawn fun resource => resource.sessionId = some id) ∧
        row.spawnRequest.sessionId = id ∧ row.sessionDraft.id = id := by
  have hsound' := sound_of_reaches hsound h
  constructor
  · intro id row hrow
    obtain ⟨hspawn, draft, ⟨intent, hintent, hdraft⟩, hid, horigin⟩ :=
      hsound'.sessions id row hrow
    refine ⟨hsound'.spawnAllowed hspawn, intent, ?_, ?_⟩
    · rw [← hid]
      exact hintent
    · rw [hdraft]
      exact horigin
  intro id row hrow
  obtain ⟨hspawn, hids⟩ := hsound'.intents id row hrow
  exact ⟨hsound'.spawnAllowed hspawn, hids⟩

/-- The session of the run was allowed. -/
theorem spawned_of_reaches_spawn :
    ∃ c row, behind spawnRun = some c ∧ c.shared.db.sessions.lookup ⟨1⟩ = some row ∧
      (AllowedLocally sampleConfig c.shared .spawn fun resource =>
        resource.sessionId = some ⟨1⟩) ∧
        ∃ intent, c.shared.db.spawnIntents.lookup ⟨1⟩ = some intent ∧
          row.origin = intent.sessionDraft.origin := by
  have hrun : ∃ c row, behind spawnRun = some c ∧ c.shared.db.sessions.lookup ⟨1⟩ = some row :=
    ⟨_, _, rfl, rfl⟩
  obtain ⟨c, row, hc, hrow⟩ := hrun
  have hspawned := spawned_of_reaches (sound_migrated sampleConfig 0) (reachable_of_behind hc)
  exact ⟨c, row, hc, hrow, hspawned.1 ⟨1⟩ row hrow⟩

/-- Every delivery has its message and an allowed send to its recipient; one that the daemon
wrote by itself has an opened mailbox. A message of an operator is signed by the principal
that was allowed to send it. -/
theorem delivered_of_reaches (hsound : Sound config s) (h : Reachable config server s c)
    (key : MessageId × SessionId) (row : DeliveryRow)
    (hrow : c.shared.db.deliveries.lookup key = some row) :
    ∃ message, c.shared.db.messages.lookup key.1 = some message ∧
      match message.sender with
      | .system => AllowedLocally config c.shared .mailRead fun resource =>
          ∃ id, resource = .session id
      | .session _ => AllowedLocally config c.shared .mailSend fun resource =>
          resource = .session key.2
      | .operator text => text = config.principalText (.localUid config.localUid) ∧
          AllowedLocally config c.shared .mailSend fun resource => resource = .session key.2 := by
  have hsound' := sound_of_reaches hsound h
  obtain ⟨message, hmessage, hsend⟩ := hsound'.deliveries key row hrow
  refine ⟨message, hmessage, ?_⟩
  cases hsender : message.sender with
  | system =>
      rw [hsender] at hsend
      obtain ⟨principal, id, hdecided⟩ := hsend
      exact hsound'.allowedLocally hdecided ⟨id, rfl⟩
  | session id =>
      rw [hsender] at hsend
      obtain ⟨principal, hdecided⟩ := hsend
      exact hsound'.allowedLocally hdecided rfl
  | operator text =>
      rw [hsender] at hsend
      obtain ⟨principal, htext, hdecided⟩ := hsend
      refine ⟨?_, hsound'.allowedLocally hdecided rfl⟩
      -- the decision is for the principal that signed, which is the local user
      obtain ⟨decision, hmem, hallow, hprincipal, -⟩ := hdecided
      have hdecision := hsound'.honest decision hmem
      rw [hallow, hprincipal] at hdecision
      rw [← htext, evaluateLocal_eq_allow.mp hdecision.symm]

/-- The mail of the run was allowed. -/
theorem delivered_of_reaches_send :
    ∃ c row message, behind (sendRun 501 13) = some c ∧
      c.shared.db.deliveries.lookup (⟨1⟩, ⟨1⟩) = some row ∧
      c.shared.db.messages.lookup ⟨1⟩ = some message ∧ message.sender = .operator "501" ∧
      AllowedLocally sampleConfig c.shared .mailSend fun resource =>
        resource = .session ⟨1⟩ := by
  have hrun : ∃ c row message, behind (sendRun 501 13) = some c ∧
      c.shared.db.deliveries.lookup (⟨1⟩, ⟨1⟩) = some row ∧
      c.shared.db.messages.lookup ⟨1⟩ = some message ∧ message.sender = .operator "501" :=
    ⟨_, _, _, rfl, rfl, rfl, rfl⟩
  obtain ⟨c, row, message, hc, hrow, hmessage, hsender⟩ := hrun
  obtain ⟨found, hfound, hsend⟩ := delivered_of_reaches (sound_migrated sampleConfig 0)
    (reachable_of_behind hc) (⟨1⟩, ⟨1⟩) row hrow
  cases hmessage.symm.trans hfound
  rw [hsender] at hsend
  exact ⟨c, row, message, hc, hrow, hmessage, hsender, hsend.2⟩

/-! ## Other principals -/

section

variable {principal : Principal} {φ : Set Grant} {s' : DaemonStore}

/-- Nothing but denials of this principal was written. -/
def OnlyDenied (principal : Principal) (s s' : DaemonStore) : Prop :=
  s'.db = s.db ∧ ∃ rows, s'.audit = s.audit ++ rows ∧
    ∀ row ∈ rows, row.principal = principal ∧ ∃ reason, row.decision = .deny reason

theorem OnlyDenied.refl (principal : Principal) (s : DaemonStore) : OnlyDenied principal s s :=
  ⟨rfl, [], (List.append_nil _).symm, fun _ hrow => absurd hrow List.not_mem_nil⟩

theorem OnlyDenied.trans {s'' : DaemonStore} (h : OnlyDenied principal s s')
    (h' : OnlyDenied principal s' s'') : OnlyDenied principal s s'' := by
  obtain ⟨hdb, rows, hrows, hdenied⟩ := h
  obtain ⟨hdb', rows', hrows', hdenied'⟩ := h'
  refine ⟨hdb'.trans hdb, rows ++ rows', by rw [hrows', hrows, List.append_assoc], ?_⟩
  intro row hrow
  exact (List.mem_append.mp hrow).elim (hdenied row) (hdenied' row)

/-- The principal was never allowed anything. -/
def NeverAllowed (principal : Principal) (φ : Set Grant) : Prop :=
  ∀ action resource, .allowed principal action resource ∉ φ

/-- In a sound store nothing was ever allowed to another user. -/
theorem neverAllowed_of_sound (hsound : Sound config s)
    (hprincipal : principal ≠ .localUid config.localUid) (hφ : ∀ g ∈ φ, OnRecord s g) :
    NeverAllowed principal φ := by
  intro action resource hmem
  obtain ⟨row, hrow, hallow, hsame, -⟩ := hφ _ hmem
  have hdecision := hsound.honest row hrow
  rw [hallow, hsame] at hdecision
  exact hprincipal (evaluateLocal_eq_allow.mp hdecision.symm)

/-- Nothing is allowed to who was never allowed anything. -/
theorem NeverAllowed.not_allowed (h : NeverAllowed principal φ) {action : Action}
    {resource : ResourceSpec} : ¬Allowed (.caller principal) φ action resource := by
  rintro ⟨caller, hcaller, hmem⟩
  cases hcaller
  exact h action resource hmem

/-- A stranger spawns nothing. -/
theorem NeverAllowed.not_maySpawn (h : NeverAllowed principal φ) {id : SessionId} :
    ¬MaySpawn φ id (.caller principal) := by
  rintro ⟨resource, -, hmem⟩
  exact h .spawn resource hmem

/-- A stranger reconciles nothing. -/
theorem NeverAllowed.not_mayReconcile (h : NeverAllowed principal φ) :
    ¬MayReconcile (.caller principal) φ := by
  rintro (hx | hdoctor)
  · cases hx
  · exact h.not_allowed hdoctor

/-- A stranger does not refresh the sessions. -/
theorem NeverAllowed.not_mayRefresh (h : NeverAllowed principal φ) :
    ¬MayRefresh (.caller principal) φ := by
  rintro (hx | ⟨id, hkill⟩ | hdoctor)
  · cases hx
  · exact h.not_allowed hkill
  · exact h.not_allowed hdoctor

/-- A row that the principal records is a denial. -/
theorem onlyDenied_record (hprincipal : principal ≠ .localUid config.localUid) {row : AuditRow}
    (hhonest : HonestFor config.localUid (.caller principal) row) :
    OnlyDenied principal s (s.record row) := by
  obtain ⟨hcaller, hdecision⟩ := hhonest
  cases hcaller
  refine ⟨rfl, [row], rfl, fun row' hrow => ?_⟩
  rw [List.mem_singleton.mp hrow]
  refine ⟨rfl, ?_⟩
  obtain ⟨reason, hdeny⟩ := evaluateLocal_eq_deny hprincipal
  exact ⟨reason, hdecision.trans hdeny⟩

/-- A stranger calls nothing of the driver. -/
theorem not_permitted_port (hnever : NeverAllowed principal φ) {o : PortOp} :
    ¬o.permitted (.caller principal) φ := by
  intro hpermitted
  cases o with
  | spawn request => exact hnever.not_maySpawn hpermitted.2
  | reapExited => exact hnever.not_mayRefresh hpermitted
  | terminate id signal graceSecs =>
      exact hpermitted.elim hnever.not_allowed hnever.not_maySpawn
  | status filter => exact hnever.not_mayReconcile hpermitted
  | pollEvents since => cases hpermitted
  | appendEvent event => exact hnever.not_maySpawn hpermitted
  | _ => exact hnever.not_allowed hpermitted

/-- There is nobody it may write to. -/
theorem NeverAllowed.recipients_eq_nil (h : NeverAllowed principal φ) {mail : Mail}
    {recipientIds : List SessionId}
    (hwrite : MayWrite config (.caller principal) φ mail recipientIds) : recipientIds = [] := by
  rw [MayWrite] at hwrite
  rw [List.eq_nil_iff_forall_not_mem]
  intro id hid
  cases hsender : mail.sender with
  | system =>
      rw [hsender] at hwrite
      obtain ⟨reader, hread⟩ := hwrite
      exact h.not_allowed hread
  | session senderId =>
      rw [hsender] at hwrite
      exact h.not_allowed (hwrite id hid)
  | operator text =>
      rw [hsender] at hwrite
      exact h.not_allowed (hwrite.2 id hid)

section

variable (hprincipal : principal ≠ .localUid config.localUid) (hnever : NeverAllowed principal φ)

include hprincipal hnever

/-- A statement for a stranger records its denial. -/
theorem onlyDenied_of_statement {now : DateTime} {t : Statement}
    (hpermitted : t.permitted config (.caller principal) φ) (h : t.run now s = .ok s') :
    OnlyDenied principal s s' := by
  cases t with
  | recordAudit row =>
      cases h
      exact onlyDenied_record hprincipal hpermitted
  | insertPendingSpawnIntent intent => exact absurd hpermitted.2.1 hnever.not_maySpawn
  | insertSession session => exact absurd hpermitted.1 hnever.not_maySpawn
  | _ => exact absurd hpermitted hnever.not_maySpawn

/-- A transaction for a stranger records its denial. -/
theorem onlyDenied_of_txOp {now : DateTime} {o : TxOp}
    (hpermitted : o.permitted config (.caller principal) φ) (h : o.Effect now s s') :
    OnlyDenied principal s s' := by
  cases o with
  | newAuditId =>
      cases h
      exact .refl principal s
  | now =>
      cases h
      exact .refl principal s
  | statement t => exact onlyDenied_of_statement hprincipal hnever hpermitted h

/-- A store call for a stranger records its denial. -/
theorem onlyDenied_of_storeOp {o : StoreOp}
    (hpermitted : o.permitted config (.caller principal) φ) {answer : Option o.Res}
    (h : o.run s = some (answer, s')) : OnlyDenied principal s s' := by
  cases o with
  | recordAudit row =>
      cases h
      exact onlyDenied_record hprincipal hpermitted
  | createNamespace slug createdAt => exact absurd hpermitted hnever.not_allowed
  | deleteNamespace slug => exact absurd hpermitted hnever.not_allowed
  | deleteSessionsByNamespace slug => exact absurd hpermitted hnever.not_allowed
  | applyLabelMutation id mutation => exact absurd hpermitted hnever.not_allowed
  | recordTranscriptPath id path now => exact absurd hpermitted hnever.not_mayRefresh
  | markSessionTerminated id exitCode now => exact absurd hpermitted hnever.not_mayRefresh
  | markSessionLost id evidence now => exact absurd hpermitted hnever.not_mayReconcile
  | readUnreadMail id readAt peek => exact absurd hpermitted hnever.not_allowed
  | insertMailForRecipients mail recipientIds =>
      -- a message to nobody is not stored
      cases hnever.recipients_eq_nil hpermitted
      cases h
      exact .refl principal s
  | applyRuntimeEventsAndCursor events nextCursor now => cases hpermitted
  | applyCursor cursor => cases hpermitted
  | _ =>
      cases h
      exact .refl principal s

end

/-- One operation of a thread that acts for the principal. -/
theorem onlyDenied_of_exec (hsound : Sound config s)
    (hprincipal : principal ≠ .localUid config.localUid) (hφ : ∀ g ∈ φ, OnRecord s g)
    {o : HandlerOp} (hpermitted : o.permitted config (.caller principal) φ) {choice : Choice}
    {r : Except Report o.Res} (h : HandlerOp.exec choice o s = some (r, s')) :
    OnlyDenied principal s s' := by
  have hnever := neverAllowed_of_sound hsound hprincipal hφ
  cases o with
  | store o =>
      rcases HandlerOp.execStore_cases h with ⟨report, -, rfl | ⟨answer, hrun⟩⟩ | ⟨a, -, hrun⟩
      · exact .refl principal s'
      · exact onlyDenied_of_storeOp hprincipal hnever hpermitted hrun
      · exact onlyDenied_of_storeOp hprincipal hnever hpermitted hrun
  | transaction acquireContext body =>
      rcases HandlerOp.execTransaction_cases h with ⟨-, rfl⟩ | ⟨outcome, hreplay, -⟩
      · exact .refl principal s'
      · -- what the body earns on the way is on record, so it is never an `Allow`
        have hbody : (txPolicy config).Mediated (.caller principal) φ body fun _ _ => True :=
          hpermitted
        refine (Registry.of_replay (R := txRegistry config) hreplay hbody hsound hφ
          (I := OnlyDenied principal s) ?_ (.refl principal s)).1
        intro choice o s₁ r s₂ ψ hsound₁ hψ hpermits hexec hI
        rcases TxOp.exec_cases hexec with ⟨-, rfl⟩ | ⟨-, heffect⟩
        · exact hI
        · have hnever₁ := neverAllowed_of_sound hsound₁ hprincipal hψ
          exact hI.trans (onlyDenied_of_txOp hprincipal hnever₁ hpermits heffect)
  | port o => exact absurd hpermitted (not_permitted_port hnever)
  | host o =>
      cases HandlerOp.execHost_cases h
      exact .refl principal s

/-- The runtime is not called, and nothing but denials is written, by a request of another
principal. -/
theorem denied_of_reaches (hsound : Sound config s) (h : Reachable config server s c) {t : Nat}
    {thread : Thread (daemonWatch config server)} (hthread : c.threads t = some thread)
    {rpc : SessionRpc} (horigin : thread.origin = .request principal rpc)
    (hprincipal : principal ≠ .localUid config.localUid) {o : HandlerOp}
    {k : Except Report o.Res → HandlerProg (Option HandlerResult)} (hprog : thread.prog = .op o k) :
    (∀ call, o ≠ .port call) ∧ ∀ choice r s', HandlerOp.exec choice o c.shared = some (r, s') →
      OnlyDenied principal c.shared s' := by
  obtain ⟨hpermitted, hφ⟩ := Ledger.permitted_of_reaches (L := daemonLedger config server) hsound h
    hthread hprog
  have hsound' := sound_of_reaches hsound h
  rw [horigin] at hpermitted
  refine ⟨?_, fun choice r s' hexec =>
    onlyDenied_of_exec hsound' hprincipal hφ hpermitted hexec⟩
  rintro call rfl
  exact not_permitted_port (neverAllowed_of_sound hsound' hprincipal hφ) hpermitted

/-- Another user is about to be refused. -/
theorem denied_of_reaches_send :
    ∃ c thread row k, behind (sendRun 502 3) = some c ∧ c.threads 1 = some thread ∧
      thread.prog = .op (.store (.recordAudit row)) k ∧
      ∀ choice r s', HandlerOp.exec choice (.store (.recordAudit row)) c.shared = some (r, s') →
        OnlyDenied (.localUid 502) c.shared s' := by
  have hrun : ∃ c thread row k, behind (sendRun 502 3) = some c ∧ c.threads 1 = some thread ∧
      thread.prog = .op (.store (.recordAudit row)) k ∧
      thread.origin = .request (.localUid 502) (.mailSend sampleSend) :=
    ⟨_, _, _, _, rfl, rfl, rfl, rfl⟩
  obtain ⟨c, thread, row, k, hc, hthread, hprog, horigin⟩ := hrun
  have hdenied := denied_of_reaches (sound_migrated sampleConfig 0) (reachable_of_behind hc)
    hthread horigin not_local_sampleUser hprog
  exact ⟨c, thread, row, k, hc, hthread, hprog, hdenied.2⟩

/-! ### What it is told -/

/-- A direct answer in which no session, no message and no row of the store occurs. -/
def TellsNothing : RpcResponse → Prop
  | .deleted response => response.sessions = []
  | .labeled response => response.sessions = []
  | .nudged response => response.nudges = []
  | .mailSent response => ∀ result ∈ response.results, result.mail ≠ .ok
  | .mailRead messages _ => messages = []
  | .mcpBridge _ => True
  | .error _ => True
  | _ => False

/-- Of what was allowed one by one, nothing is left to a stranger. -/
theorem NeverAllowed.eq_nil {α : Type} (h : NeverAllowed principal φ) {as : List α}
    {action : Action} {resource : α → ResourceSpec}
    (hallowed : ∀ a ∈ as, Allowed (.caller principal) φ action (resource a)) : as = [] := by
  rw [List.eq_nil_iff_forall_not_mem]
  exact fun a ha => h.not_allowed (hallowed a ha)

/-- A reply that is justified to a stranger tells nothing. -/
theorem NeverAllowed.tellsNothing (h : NeverAllowed principal φ) {response : RpcResponse}
    (hresponse : Justified (.caller principal) φ response) : TellsNothing response := by
  cases response with
  | spawned session => exact absurd hresponse h.not_maySpawn
  | namespaceDeleted slug sessions => exact absurd hresponse.1 h.not_allowed
  | deleted response => exact h.eq_nil hresponse
  | labeled response => exact h.eq_nil hresponse
  | mailRead messages errors => exact h.eq_nil hresponse
  | nudged response =>
      refine List.eq_nil_iff_forall_not_mem.mpr fun delivery hdelivery => ?_
      obtain ⟨id, -, hnudge⟩ := hresponse delivery hdelivery
      exact h.not_allowed hnudge
  | mailSent response =>
      exact fun result hresult hok => h.not_allowed (hresponse result hresult hok)
  | mcpBridge line => trivial
  | error message => trivial
  | _ => exact absurd hresponse h.not_allowed

end

end LittleOrgans.Handler
