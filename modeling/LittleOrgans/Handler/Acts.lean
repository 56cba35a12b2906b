import LittleOrgans.Handler.Policy
import LittleOrgans.Identity.Decisions

/-!
# Acting within the policy

`Acts` is mediation under the policy of the daemon, with its rules for the operations and the
helpers that every request is built from: contexts, authorization, the selectors and the
loops over targets. `Justified` says which grants a response rests on.
-/

set_option autoImplicit false

namespace LittleOrgans.Handler

open LittleOrgans.Core
open LittleOrgans.Library
open LittleOrgans.Store
open LittleOrgans.Identity
open LittleOrgans.Session (MessageView)

/-! ## What a response rests on -/

/-- The mailbox of the message was opened for the caller. -/
def Opened (x : Subject) (φ : Set Grant) (message : MessageView) : Prop :=
  Allowed x φ .mailRead (.session message.recipient.sessionId)

/-- The caller may write to the recipient, if the mail got there. -/
def Deliverable (x : Subject) (φ : Set Grant) (result : MailSendResult) : Prop :=
  result.mail = .ok → Allowed x φ .mailSend (.session result.recipient.sessionId)

/-- The grants that a response to `x` needs. -/
def Justified (x : Subject) (φ : Set Grant) : RpcResponse → Prop
  | .spawned session => MaySpawn φ session.id x
  | .listed _ => Allowed x φ .list .default
  | .namespaceCreated _ _ => Allowed x φ .create .default
  | .namespaceGot _ => Allowed x φ .read .default
  | .namespacesListed _ => Allowed x φ .list .default
  | .namespaceDeleted _ sessions => Allowed x φ .kill .default ∧
      ∀ session ∈ sessions, Allowed x φ .kill (.session session.id)
  | .deleted response => ∀ session ∈ response.sessions, Allowed x φ .kill (.session session.id)
  | .mailSent response => ∀ result ∈ response.results, Deliverable x φ result
  | .mailRead messages _ => ∀ message ∈ messages, Opened x φ message
  | .mailPeek _ _ => Allowed x φ .mailRead .default
  | .mailChecked _ _ => Allowed x φ .mailRead .default
  | .mailStopChecked _ _ => Allowed x φ .mailRead .default
  | .mailTail _ _ => Allowed x φ .mailRead .default
  | .nudged response => ∀ delivery ∈ response.nudges,
      ∃ id, delivery.toSession = idText id ∧ Allowed x φ .nudge (.session id)
  | .labeled response => ∀ session ∈ response.sessions, Allowed x φ .link (.session session.id)
  | .logs session _ _ => Allowed x φ .logs (.session session.id)
  | .capture session _ => Allowed x φ .read (.session session.id)
  | .doctor _ => Allowed x φ .doctor .default
  | .wait _ _ => Allowed x φ .read .default
  | .mcpBridge _ => True
  | .shutdown _ => Allowed x φ .daemon .default
  | .error _ => True

section

variable {x : Subject} {φ ψ : Set Grant}

/-- More grants justify what fewer do. -/
theorem Justified.mono (h : φ ⊆ ψ) {response : RpcResponse} (hresponse : Justified x φ response) :
    Justified x ψ response := by
  cases response with
  | spawned session => exact MaySpawn.mono h hresponse
  | listed sessions => exact Allowed.mono h hresponse
  | namespaceCreated record created => exact Allowed.mono h hresponse
  | namespaceGot record => exact Allowed.mono h hresponse
  | namespacesListed records => exact Allowed.mono h hresponse
  | namespaceDeleted slug sessions =>
      exact ⟨hresponse.1.mono h, fun session hs => (hresponse.2 session hs).mono h⟩
  | deleted response => exact fun session hs => (hresponse session hs).mono h
  | mailSent response => exact fun result hr hok => (hresponse result hr hok).mono h
  | mailRead messages errors => exact fun message hm => Allowed.mono h (hresponse message hm)
  | mailPeek messages cursor => exact Allowed.mono h hresponse
  | mailChecked unread counts => exact Allowed.mono h hresponse
  | mailStopChecked unread counts => exact Allowed.mono h hresponse
  | mailTail messages cursor => exact Allowed.mono h hresponse
  | nudged response =>
      intro delivery hdelivery
      obtain ⟨id, hid, hnudge⟩ := hresponse delivery hdelivery
      exact ⟨id, hid, hnudge.mono h⟩
  | labeled response => exact fun session hs => (hresponse session hs).mono h
  | logs session path content => exact Allowed.mono h hresponse
  | capture session capture => exact Allowed.mono h hresponse
  | doctor response => exact Allowed.mono h hresponse
  | wait matched sessions => exact Allowed.mono h hresponse
  | mcpBridge line => trivial
  | shutdown message => exact Allowed.mono h hresponse
  | error message => trivial

end

/-! ## Rules -/

variable (config : DaemonConfig)

/-- The program acts for `x` with its grants `φ`, and `Q` holds where it ends with a result. -/
abbrev Acts {α : Type} (x : Subject) (φ : Set Grant) (p : HandlerProg α)
    (Q : α → Set Grant → Prop) : Prop :=
  (daemonPolicy config).Mediated x φ p Q

variable {config} {x : Subject} {φ : Set Grant} {α : Type}

theorem acts_store {o : StoreOp} (hpermitted : o.permitted config x φ) :
    Acts config x φ (store o) fun a χ => o.Says (.ok a) ∧ o.earned (.ok a) ⊆ χ :=
  Policy.mediated_call hpermitted fun _ htells => ⟨htells, Set.subset_union_right⟩

theorem acts_store_answers {o : StoreOp} (hpermitted : o.permitted config x φ) :
    Acts config x φ (store o) fun a _ => o.Says (.ok a) :=
  (acts_store hpermitted).weaken fun _ _ _ htells => htells.1

theorem acts_store_earns {o : StoreOp} (hpermitted : o.permitted config x φ) :
    Acts config x φ (store o) fun a χ => o.earned (.ok a) ⊆ χ :=
  (acts_store hpermitted).weaken fun _ _ _ htells => htells.2

theorem acts_port {o : PortOp} (hpermitted : o.permitted x φ) :
    Acts config x φ (port o) fun a _ => o.possible a = true :=
  Policy.mediated_call hpermitted fun a htells => htells a rfl

theorem acts_host {o : HostOp} (hpermitted : o.permitted x φ) :
    Acts config x φ (host o) fun _ _ => True :=
  Policy.mediated_call hpermitted fun _ _ => trivial

/-- A transaction that is mediated by itself is worth what its body earns. -/
theorem acts_transaction {acquireContext : String} {body : TxProg (Except Report Unit)}
    {G : Set Grant} (hpermitted : (txPolicy config).Mediated x φ body fun _ _ => True)
    (hearned : ∀ g ∈ G, (txPolicy config).Mediated x ∅ body fun r ψ => r = .ok () → g ∈ ψ) :
    Acts config x φ (transaction acquireContext body) fun outcome χ =>
      outcome = .ok () → G ⊆ χ := by
  refine Policy.mediated_call hpermitted fun outcome _ hok g hg => ?_
  subst hok
  exact Or.inr (hearned g hg)

/-- Sequencing. -/
theorem acts_bind {β : Type} {p : HandlerProg α} {f : α → HandlerProg β}
    {Q : α → Set Grant → Prop} {R : β → Set Grant → Prop} (hp : Acts config x φ p Q)
    (hf : ∀ a χ, φ ⊆ χ → Q a χ → Acts config x χ (f a) R) : Acts config x φ (p >>= f) R :=
  Policy.Mediated.bind hp hf

theorem acts_context {p : HandlerProg α} {Q : α → Set Grant → Prop} (text : String)
    (hp : Acts config x φ p Q) : Acts config x φ (Prog.context text p) Q :=
  hp.mapError _

theorem acts_bail {text : String} {Q : α → Set Grant → Prop} :
    Acts config x φ (Prog.bail text) Q := Policy.mediated_fail

theorem acts_ensure {condition : Bool} {text : String} :
    Acts config x φ (Prog.ensure condition text) fun _ _ => condition = true := by
  cases condition with
  | true => exact Policy.mediated_ret rfl
  | false => exact acts_bail

theorem acts_required {value : Option α} {text : String} :
    Acts config x φ (Prog.required value text) fun a _ => value = some a := by
  cases value with
  | some a => exact Policy.mediated_ret rfl
  | none => exact acts_bail

theorem acts_ofExcept {r : Except Report α} :
    Acts config x φ (.ofExcept r) fun a _ => r = .ok a :=
  Policy.mediated_ofExcept fun _ ha => ha

/-- Whatever follows, when nothing is to be known of the end. -/
theorem Policy.Mediated.toTrue {S : Signature} {ε : Type} {P : Policy S ε} {y : P.Subject}
    {χ : Set P.Grant} {p : Prog S ε α} {Q : α → Set P.Grant → Prop} (h : P.Mediated y χ p Q) :
    P.Mediated y χ p fun _ _ => True :=
  h.weaken fun _ _ _ _ => trivial

/-! ## Authorization -/

/-- A caller may record its own decisions in the store. -/
theorem storeSink_earns (principal : Principal) :
    storeSink.Earns (daemonPolicy config) config.localUid (.caller principal) principal
      fun action resource => .allowed principal action resource where
  auditId χ := acts_host trivial
  now χ := acts_host trivial
  record row χ hprincipal hdecision := by
    subst hprincipal
    have hstore : Acts config (.caller row.principal) χ (store (.recordAudit row)) fun _ ψ =>
        rowGrants row ⊆ ψ := acts_store_earns ⟨rfl, hdecision⟩
    exact hstore.weaken fun _ ψ _ hψ hallow => hψ ⟨hallow, rfl⟩

theorem acts_authorize (principal : Principal) (action : Action) (resource : ResourceSpec) :
    Acts config (.caller principal) φ (authorize config principal action resource) fun _ χ =>
      Allowed (.caller principal) χ action resource :=
  ((storeSink_earns principal).mediated_authorize action resource).weaken fun _ _ _ hgrant =>
    ⟨principal, rfl, hgrant⟩

theorem acts_authorizeSession (principal : Principal) (action : Action) (id : SessionId) :
    Acts config (.caller principal) φ (authorizeSession config principal action id) fun _ χ =>
      Allowed (.caller principal) χ action (.session id) :=
  acts_authorize principal action (.session id)

/-! ## Targets -/

theorem acts_resolveSelector (selector : Selector) (label : String) :
    Acts config x φ (resolveSelector selector label) fun _ _ => True := by
  refine acts_bind (acts_context _ (acts_store trivial)) fun sessions χ hχ _ => ?_
  split
  · exact acts_bail
  · exact Policy.mediated_pure trivial

theorem acts_requireSession (id : SessionId) (label : String) :
    Acts config x φ (requireSession id label) fun _ _ => True := by
  refine acts_bind (acts_context _ (acts_store trivial)) fun session χ hχ _ => ?_
  exact Policy.Mediated.toTrue acts_ensure

theorem mem_partition {outcomes : List (Except TargetError α)} {a : α}
    (h : a ∈ (partition outcomes).1) : .ok a ∈ outcomes := by
  obtain ⟨outcome, hmem, hok⟩ := List.mem_filterMap.mp h
  cases outcome with
  | ok b =>
      cases hok
      exact hmem
  | error e => cases hok

/-- A loop over targets: what holds of each result once holds of all that succeeded. -/
theorem acts_forTargets {targets : List Session} {apply : SessionId → HandlerProg α}
    {R : α → Set Grant → Prop} (hR : Policy.Stable (P := daemonPolicy config) R)
    (happly : ∀ id χ, φ ⊆ χ → Acts config x χ (apply id) R) :
    Acts config x φ (forTargets targets apply) fun result χ => ∀ a ∈ result.1, R a χ := by
  have hattempt : ∀ target χ, φ ⊆ χ →
      Acts config x χ (attemptTarget apply target) fun outcome ψ =>
        ∀ a, outcome = .ok a → R a ψ := by
    intro target χ hχ
    refine (happly target.id χ hχ).attempt.bind fun outcome ψ hψ houtcome => ?_
    refine Policy.mediated_pure fun a ha => ?_
    cases outcome with
    | ok b =>
        cases ha
        exact houtcome _ rfl
    | error e => cases ha
  have hstable : Policy.Stable (P := daemonPolicy config)
      fun (outcome : Except TargetError α) ψ => ∀ a, outcome = .ok a → R a ψ :=
    fun outcome ψ ψ' hψ houtcome a ha => hR a ψ ψ' hψ (houtcome a ha)
  refine (Policy.mediated_traverse hstable fun target _ χ hχ => hattempt target χ hχ).bind
    fun outcomes χ hχ houtcomes => ?_
  exact Policy.mediated_pure fun a ha => houtcomes _ (mem_partition ha) a rfl

theorem acts_collectTargetSessions {selector : Selector} {apply : SessionId → HandlerProg Session}
    {R : Session → Set Grant → Prop} (hR : Policy.Stable (P := daemonPolicy config) R)
    (happly : ∀ id χ, φ ⊆ χ → Acts config x χ (apply id) R) :
    Acts config x φ (collectTargetSessions selector apply) fun response χ =>
      ∀ session ∈ response.sessions, R session χ := by
  refine (acts_resolveSelector selector "session").bind fun targets χ hχ _ => ?_
  refine (acts_forTargets hR fun id ψ hψ => happly id ψ (hχ.trans hψ)).bind
    fun collected ψ hψ hcollected => ?_
  exact Policy.mediated_pure hcollected

/-- A right to each session is kept by more grants. -/
theorem stable_allowedSession (action : Action) :
    Policy.Stable (P := daemonPolicy config)
      fun (session : Session) χ => Allowed x χ action (.session session.id) :=
  fun _ _ _ hχ hallowed => hallowed.mono hχ

end LittleOrgans.Handler
