import LittleOrgans.Handler.SessionActs
import LittleOrgans.Handler.Spawn

/-!
# Spawns and namespaces within the policy

The decision on a spawn is recorded in the transaction that inserts the intent, so that the
transaction is worth the right to the session by itself (`earns_beginBody`). Everything that
follows, in the request or after a restart, is about the session of an intent.
-/

set_option autoImplicit false

namespace LittleOrgans.Handler

open LittleOrgans.Core
open LittleOrgans.Library
open LittleOrgans.Store
open LittleOrgans.Daemon (SpawnRequest SpawnLocation)
open LittleOrgans.Concurrency (OnCommitFailure)
open LittleOrgans.Identity

variable {config : DaemonConfig} {x : Subject} {φ : Set Grant} {principal : Principal}

/-! ## Transactions -/

theorem tx_statement {t : Statement} (hpermitted : t.permitted config x φ) :
    (txPolicy config).Mediated x φ (statement t) fun u χ =>
      TxOp.earned (.statement t) (.ok u) ⊆ χ :=
  Policy.mediated_call hpermitted fun _ _ => Set.subset_union_right

/-- A caller may record its own decisions in a transaction. -/
theorem txSink_earns (principal : Principal) :
    txSink.Earns (txPolicy config) config.localUid (.caller principal) principal
      fun action resource => .allowed principal action resource where
  auditId χ := Policy.mediated_call trivial fun _ _ => trivial
  now χ := Policy.mediated_call trivial fun _ _ => trivial
  record row χ hprincipal hdecision := by
    subst hprincipal
    exact Policy.mediated_call ⟨rfl, hdecision⟩ fun _ _ hallow => Or.inr ⟨hallow, rfl⟩

/-- An intent is about one session. -/
structure Coherent (intent : PendingSpawnIntent) : Prop where
  request : intent.spawnRequest.sessionId = intent.sessionId
  draft : intent.sessionDraft.id = intent.sessionId

/-- The subject goes on with this intent. -/
structure Intended (x : Subject) (φ : Set Grant) (intent : PendingSpawnIntent) : Prop where
  id : MaySpawn φ intent.sessionId x
  draft : MaySpawn φ intent.sessionDraft.id x
  drafted : .drafted intent.sessionDraft ∈ φ

theorem Intended.mono {ψ : Set Grant} (h : φ ⊆ ψ) {intent : PendingSpawnIntent}
    (hintended : Intended x φ intent) : Intended x ψ intent :=
  ⟨hintended.id.mono h, hintended.draft.mono h, h hintended.drafted⟩

/-- What an allowed spawn of the session leaves: the decision, and the intent. -/
def spawnGrants (principal : Principal) (resource : ResourceSpec) (intent : PendingSpawnIntent) :
    Set Grant :=
  {.allowed principal .spawn resource, .drafted intent.sessionDraft}

theorem mediated_beginBody {intent : PendingSpawnIntent} (hcoherent : Coherent intent)
    {resource : ResourceSpec} (hresource : resource.sessionId = some intent.sessionId) :
    (txPolicy config).Mediated (.caller principal) φ (beginBody config principal resource intent)
      fun outcome χ => outcome = .ok () → spawnGrants principal resource intent ⊆ χ := by
  have hsink : txSink.Earns (txPolicy config) config.localUid (.caller principal) principal
      fun action resource => .allowed principal action resource := txSink_earns principal
  have hauthorize := (hsink.mediated_authorizeInTx (φ := φ) .spawn resource).attempt
  refine Policy.Mediated.bind hauthorize fun answer χ hχ hanswer => ?_
  cases answer with
  | error report => exact Policy.mediated_pure fun hok => by cases hok
  | ok u =>
      have hgrant : .allowed principal .spawn resource ∈ χ := hanswer u rfl
      have hspawn : ∀ ψ, χ ⊆ ψ → MaySpawn ψ intent.sessionId (.caller principal) :=
        fun ψ hψ => ⟨resource, hresource, hψ hgrant⟩
      have hintent : (Statement.insertPendingSpawnIntent intent).permitted config
          (.caller principal) χ :=
        ⟨Subject.noConfusion, hspawn χ Set.Subset.rfl, hcoherent.request, hcoherent.draft⟩
      refine Policy.Mediated.bind ((tx_statement hintent).mapError _) fun _ χ₁ hχ₁ hdrafted => ?_
      have hforking : (Statement.insertForking (Database.forkingLifecycle intent)).permitted config
          (.caller principal) χ₁ := hspawn χ₁ hχ₁
      refine Policy.Mediated.bind ((tx_statement hforking).mapError _) fun _ χ₂ hχ₂ _ => ?_
      refine Policy.mediated_pure fun _ => Set.insert_subset (hχ₂ (hχ₁ hgrant)) ?_
      exact hdrafted.trans hχ₂

theorem mediated_commitBody {id : SessionId} {session : Session} {lifecycle : Lifecycle}
    (hid : MaySpawn φ id x) (hsession : MaySpawn φ session.id x ∧ MayStore φ session)
    (hlifecycle : MaySpawn φ lifecycle.sessionId x) :
    (txPolicy config).Mediated x φ (commitBody id session lifecycle) fun _ _ => True := by
  refine Policy.Mediated.bind (Policy.Mediated.mapError _ (tx_statement hsession))
    fun _ χ hχ _ => ?_
  refine Policy.Mediated.bind (Policy.Mediated.mapError _ (tx_statement (hlifecycle.mono hχ)))
    fun _ χ₁ hχ₁ _ => ?_
  refine Policy.Mediated.bind (Policy.Mediated.mapError _ (tx_statement (hid.mono (hχ.trans hχ₁))))
    fun _ _ _ _ => ?_
  exact Policy.mediated_pure trivial

theorem mediated_abortBody {id : SessionId} (hid : MaySpawn φ id x) (reason : AbortReason) :
    (txPolicy config).Mediated x φ (abortBody id reason) fun _ _ => True := by
  refine Policy.Mediated.bind (Policy.Mediated.mapError _ (tx_statement hid)) fun _ χ hχ _ => ?_
  refine Policy.Mediated.bind (Policy.Mediated.mapError _ (tx_statement (hid.mono hχ)))
    fun _ _ _ _ => ?_
  exact Policy.mediated_pure trivial

/-! ## The request -/

theorem acts_validateDir (dir : String) : Acts config x φ (validateDir dir) fun _ _ => True := by
  refine acts_bind acts_ensure fun _ χ hχ _ => ?_
  refine acts_bind acts_ensure fun _ χ₁ hχ₁ _ => ?_
  refine acts_bind (acts_host trivial) fun isDir χ₂ hχ₂ _ => ?_
  exact Policy.Mediated.toTrue acts_ensure

theorem acts_normalizeSpawnRequest (request : SpawnRequest) :
    Acts config x φ (normalizeSpawnRequest request) fun _ _ => True := by
  refine acts_bind (acts_validateDir _) fun _ χ hχ _ => ?_
  refine acts_bind (acts_context _ (acts_store trivial)) fun exists_ χ₁ hχ₁ _ => ?_
  refine acts_bind acts_ensure fun _ χ₂ hχ₂ _ => ?_
  exact Policy.mediated_pure trivial

theorem acts_resolveAgentConfig (requested : Option String) :
    Acts config x φ (resolveAgentConfig requested) fun _ _ => True := by
  cases requested with
  | none => exact Policy.mediated_pure trivial
  | some requested =>
      exact acts_bind (acts_host trivial) fun _ _ _ _ => Policy.mediated_pure trivial

theorem sessionId_runtimeSpawnRequest {id : SessionId} {request : SpawnRequest}
    {spawnRequest : RuntimeSpawnRequest} (h : runtimeSpawnRequest id request = .ok spawnRequest) :
    spawnRequest.sessionId = id := by
  obtain ⟨target, -, h⟩ := Except.bind_eq_ok.mp h
  cases h
  rfl

theorem acts_spawnIntent (id : SessionId) (request : SpawnRequest) (location : SpawnLocation)
    (agentConfig : Option String) :
    Acts config x φ (spawnIntent id request location agentConfig) fun intent _ =>
      intent.sessionId = id ∧ Coherent intent := by
  refine acts_bind acts_ofExcept fun spawnRequest χ hχ hrequest => ?_
  refine acts_bind (acts_host trivial) fun draftCreatedAt χ₁ hχ₁ _ => ?_
  refine acts_bind (acts_host trivial) fun operationId χ₂ hχ₂ _ => ?_
  refine acts_bind (acts_host trivial) fun createdAt χ₃ hχ₃ _ => ?_
  exact Policy.mediated_pure ⟨rfl, sessionId_runtimeSpawnRequest hrequest, rfl⟩

/-! ## Transactions of a request -/

theorem acts_transact {acquireContext : String} {body : TxProg (Except Report Unit)} {G : Set Grant}
    (hpermitted : (txPolicy config).Mediated x φ body fun _ _ => True)
    (hearned : ∀ g ∈ G, (txPolicy config).Mediated x ∅ body fun r ψ => r = .ok () → g ∈ ψ) :
    Acts config x φ (transact acquireContext body) fun _ χ => G ⊆ χ := by
  refine acts_bind (acts_transaction hpermitted hearned) fun outcome χ hχ houtcome => ?_
  exact Policy.mediated_ofExcept fun u hok => houtcome hok

theorem acts_beginSpawnIntent {context : RequestContext} (hcontext : context.principal = principal)
    (request : SpawnRequest) {intent : PendingSpawnIntent} (hcoherent : Coherent intent) :
    Acts config (.caller principal) φ (beginSpawnIntent config context request intent) fun _ χ =>
      Intended (.caller principal) χ intent := by
  subst hcontext
  have hbody : ∀ ψ, (txPolicy config).Mediated (.caller context.principal) ψ
      (beginBody config context.principal (spawnResource request intent.sessionId) intent)
      fun outcome χ => outcome = .ok () →
        spawnGrants context.principal (spawnResource request intent.sessionId) intent ⊆ χ :=
    fun ψ => mediated_beginBody hcoherent rfl
  refine (acts_transact (Policy.Mediated.toTrue (hbody φ))
    (G := spawnGrants context.principal (spawnResource request intent.sessionId) intent)
    fun g hg => (hbody ∅).weaken fun _ χ _ hχ hok => hχ hok hg).weaken fun _ χ _ hG => ?_
  have hspawn : MaySpawn χ intent.sessionId (.caller context.principal) :=
    ⟨spawnResource request intent.sessionId, rfl, hG (.inl rfl)⟩
  refine ⟨hspawn, ?_, hG (.inr rfl)⟩
  rw [hcoherent.draft]
  exact hspawn

theorem acts_abortSpawnIntent {id : SessionId} (hid : MaySpawn φ id x) (reason : AbortReason) :
    Acts config x φ (abortSpawnIntent id reason) fun _ _ => True :=
  (acts_transact (G := ∅) (mediated_abortBody hid reason) fun _ hg => hg.elim).weaken
    fun _ _ _ _ => trivial

theorem acts_abortRunningSpawn {id : SessionId} (hid : MaySpawn φ id x) (reason : AbortReason) :
    Acts config x φ (abortRunningSpawn id reason) fun _ _ => True := by
  have hterminate : Acts config x φ (port (.terminate id .term 5)) fun _ _ => True :=
    Policy.Mediated.toTrue (acts_port (.inr hid))
  refine acts_bind hterminate.attempt fun _ χ hχ _ => ?_
  exact acts_abortSpawnIntent (hid.mono hχ) reason

/-! ## Completing a spawn -/

theorem runningSession_of_intent {intent : PendingSpawnIntent} {lifecycle : Lifecycle}
    {stdoutPath : Option String} {updatedAt : DateTime} {session : Session}
    (h : sessionOfIntent intent lifecycle stdoutPath updatedAt = .ok session) :
    intent.sessionDraft.runningSession lifecycle stdoutPath updatedAt = .ok session := by
  rw [sessionOfIntent] at h
  cases hsession : intent.sessionDraft.runningSession lifecycle stdoutPath updatedAt with
  | error error =>
      rw [hsession] at h
      cases h
  | ok found =>
      rw [hsession] at h
      cases h
      rfl

theorem acts_afterCommit {id : SessionId} (hid : MaySpawn φ id x) (session : Session)
    {event : RuntimeEvent} (hevent : MaySpawn φ event.sessionId x)
    (onCommitFailure : OnCommitFailure) (committed : Except Report Unit) :
    Acts config x φ (afterCommit id session event onCommitFailure committed) fun found _ =>
      found = session := by
  cases committed with
  | ok u =>
      refine acts_bind (acts_context _ (acts_port hevent)) fun _ χ hχ _ => ?_
      exact Policy.mediated_pure rfl
  | error report =>
      cases onCommitFailure with
      | leavePending => exact Policy.mediated_fail
      | abortRunning =>
          refine acts_bind (acts_abortRunningSpawn hid _).attempt fun _ _ _ _ => ?_
          exact Policy.mediated_fail

/-- What is committed is the session of the intent. -/
theorem acts_completeSpawnIntent {intent : PendingSpawnIntent} (hintent : Intended x φ intent)
    {lifecycle : Lifecycle} (hlifecycle : MaySpawn φ lifecycle.sessionId x) {event : RuntimeEvent}
    (hevent : MaySpawn φ event.sessionId x) (stdoutPath : Option String)
    (onCommitFailure : OnCommitFailure) :
    Acts config x φ (completeSpawnIntent intent lifecycle event stdoutPath onCommitFailure)
      fun session χ => MaySpawn χ session.id x := by
  refine acts_bind (acts_host trivial) fun updatedAt χ hχ _ => ?_
  refine acts_bind (acts_context _ acts_ofExcept) fun session χ₁ hχ₁ hsession => ?_
  -- the session has the id of the intent, so the grant for the intent is enough
  have hrunning := runningSession_of_intent hsession
  have hid := (SessionDraft.runningSession_eq_ok hrunning).2.1
  refine acts_bind (acts_context _ (acts_store trivial)) fun found χ₂ hχ₂ _ => ?_
  have hmono := hχ.trans (hχ₁.trans hχ₂)
  cases found with
  | false =>
      refine acts_bind (acts_abortRunningSpawn (hintent.id.mono hmono) _) fun _ _ _ _ => ?_
      exact acts_bail
  | true =>
      have hown : MaySpawn φ session.id x := by
        rw [hid]
        exact hintent.draft
      have hstore : MayStore φ session :=
        ⟨intent.sessionDraft, hintent.drafted, hid.symm,
          SessionRow.origin_of_runningSession hrunning⟩
      have hbody : (txPolicy config).Mediated x χ₂ (commitBody intent.sessionId session lifecycle)
          fun _ _ => True :=
        mediated_commitBody (hintent.id.mono hmono) ⟨hown.mono hmono, hstore.mono hmono⟩
          (hlifecycle.mono hmono)
      refine acts_bind (acts_transaction (G := ∅) hbody fun _ hg => hg.elim)
        fun committed χ₃ hχ₃ _ => ?_
      have hmono₃ := hmono.trans hχ₃
      refine (acts_afterCommit (hintent.id.mono hmono₃) session (hevent.mono hmono₃) onCommitFailure
        committed).weaken fun found χ₄ hχ₄ hfound => ?_
      rw [hfound]
      exact hown.mono (hmono₃.trans hχ₄)

theorem acts_runningEvent (lifecycle : Lifecycle) :
    Acts config x φ (runningEvent lifecycle) fun event _ =>
      event.sessionId = lifecycle.sessionId := by
  refine acts_bind acts_ensure fun _ χ hχ _ => ?_
  refine acts_bind acts_required fun runtimePid χ₁ hχ₁ _ => ?_
  cases lifecycle.startTime with
  | some startTime => exact Policy.mediated_pure rfl
  | none => exact acts_bind (acts_host trivial) fun _ _ _ _ => Policy.mediated_pure rfl

theorem acts_runtimeSpawnFailed {id : SessionId} (hid : MaySpawn φ id x) (failure : String)
    {Q : Session → Set Grant → Prop} : Acts config x φ (runtimeSpawnFailed id failure) Q :=
  acts_bind (acts_abortSpawnIntent hid _) fun _ _ _ _ => acts_bail

theorem acts_afterRuntimeSpawn {intent : PendingSpawnIntent} (hcoherent : Coherent intent)
    (hintent : Intended x φ intent) {answer : Except Report SpawnAnswer}
    (hpossible : ∀ a, answer = .ok a → (PortOp.spawn intent.spawnRequest).possible a = true) :
    Acts config x φ (afterRuntimeSpawn intent answer) fun session χ => MaySpawn χ session.id x := by
  cases answer with
  | error report => exact acts_runtimeSpawnFailed hintent.id _
  | ok a =>
      cases a with
      | conflict kind message => exact acts_runtimeSpawnFailed hintent.id _
      | spawned process =>
          -- the process runs under the id of the request, which is that of the intent
          have hsame := of_decide_eq_true (hpossible _ rfl)
          rw [hcoherent.request] at hsame
          have hlifecycle : MaySpawn φ process.lifecycle.sessionId x := by
            rw [hsame]
            exact hintent.id
          refine acts_bind (acts_runningEvent process.lifecycle) fun event χ hχ hevent => ?_
          rw [← hevent] at hlifecycle
          refine acts_completeSpawnIntent (hintent.mono hχ) ?_ (hlifecycle.mono hχ) _ _
          rw [← hevent]
          exact hlifecycle.mono hχ

theorem acts_spawn {context : RequestContext} (hcontext : context.principal = principal)
    (request : SpawnRequest) :
    Acts config (.caller principal) φ (spawn config context request) fun response χ =>
      Justified (.caller principal) χ response := by
  refine acts_bind (acts_host trivial) fun id χ hχ _ => ?_
  refine acts_bind (acts_normalizeSpawnRequest request) fun normalized χ₁ hχ₁ _ => ?_
  refine acts_bind (acts_resolveAgentConfig request.agentConfig) fun agentConfig χ₂ hχ₂ _ => ?_
  refine acts_bind (acts_spawnIntent id _ _ agentConfig) fun intent χ₃ hχ₃ hintent => ?_
  obtain ⟨-, hcoherent⟩ := hintent
  refine acts_bind (acts_beginSpawnIntent hcontext _ hcoherent) fun _ χ₄ hχ₄ hintended => ?_
  have hallowed : (PortOp.spawn intent.spawnRequest).permitted (.caller principal) χ₄ := by
    refine ⟨Subject.noConfusion, ?_⟩
    rw [hcoherent.request]
    exact hintended.id
  refine acts_bind (acts_port hallowed).attempt fun answer χ₅ hχ₅ hanswer => ?_
  refine acts_bind (acts_afterRuntimeSpawn hcoherent (hintended.mono hχ₅) hanswer)
    fun session χ₆ hχ₆ hsession => ?_
  exact Policy.mediated_pure hsession

/-! ## Intents that were left pending -/

theorem acts_reconcilePendingSpawnIntent {intent : PendingSpawnIntent}
    (hintent : Intended .daemon φ intent) :
    Acts config .daemon φ (reconcilePendingSpawnIntent intent) fun _ _ => True := by
  have hstatus : Acts config .daemon φ (port (.status (.forSession intent.sessionId)))
      fun _ _ => True := Policy.Mediated.toTrue (acts_port (.inl rfl))
  refine acts_bind hstatus.attempt fun answer χ hχ _ => ?_
  have habort : ∀ reason, Acts config .daemon χ (abortSpawnIntent intent.sessionId reason)
      fun _ _ => True := fun reason => acts_abortSpawnIntent (hintent.id.mono hχ) reason
  cases answer with
  | error report => exact habort _
  | ok lifecycles =>
      cases hfind : lifecycles.find? fun lifecycle => lifecycle.sessionId = intent.sessionId with
      | none =>
          simp only [hfind]
          exact habort _
      | some lifecycle =>
          simp only [hfind]
          have hsame : lifecycle.sessionId = intent.sessionId := by
            have hfound := List.find?_some hfind
            exact of_decide_eq_true hfound
          split
          · refine acts_bind (acts_runningEvent lifecycle) fun event χ₁ hχ₁ hevent => ?_
            have hlifecycle : MaySpawn χ₁ lifecycle.sessionId .daemon := by
              rw [hsame]
              exact hintent.id.mono (hχ.trans hχ₁)
            refine acts_bind (acts_completeSpawnIntent (hintent.mono (hχ.trans hχ₁)) hlifecycle
              ?_ none .leavePending)
              fun _ _ _ _ => Policy.mediated_pure trivial
            rw [hevent]
            exact hlifecycle
          · exact habort _

theorem acts_reconcilePendingSpawnIntents :
    Acts config .daemon φ reconcilePendingSpawnIntents fun _ _ => True := by
  have hlist : Acts config .daemon φ (store .listPendingSpawnIntents) fun intents χ =>
      intentGrants intents ⊆ χ := acts_store_earns rfl
  refine acts_bind (acts_context _ hlist) fun pending χ hχ hgrants => ?_
  refine Policy.mediated_forEach fun intent hintent ψ hψ => ?_
  have hintended : Intended .daemon ψ intent :=
    ⟨hψ (hgrants ⟨intent, hintent, .inl rfl⟩), hψ (hgrants ⟨intent, hintent, .inr (.inl rfl)⟩),
      hψ (hgrants ⟨intent, hintent, .inr (.inr rfl)⟩)⟩
  have hreconcile : Acts config .daemon ψ (reconcilePendingSpawnIntent intent) fun _ _ => True :=
    acts_reconcilePendingSpawnIntent hintended
  exact acts_bind hreconcile.attempt fun _ _ _ _ => Policy.mediated_pure trivial

/-! ## Namespaces -/

theorem acts_createMissing (hcreate : Allowed x φ .create .default) (slug : String) :
    Acts config x φ (createMissing slug) fun _ _ => True := by
  refine acts_bind (acts_context _ (acts_store trivial)) fun found χ hχ _ => ?_
  cases found with
  | true => exact Policy.mediated_pure trivial
  | false =>
      refine acts_bind (acts_host trivial) fun now χ₁ hχ₁ _ => ?_
      refine acts_bind (acts_context _ (acts_store (hcreate.mono (hχ.trans hχ₁)))) fun _ _ _ _ => ?_
      exact Policy.mediated_pure trivial

theorem acts_createNamespace (hcreate : Allowed x φ .create .default)
    (request : NamespaceCreateRequest) :
    Acts config x φ (createNamespace config request) fun response χ => Justified x χ response := by
  refine acts_bind acts_ofExcept fun found χ hχ _ => ?_
  refine acts_bind acts_ofExcept fun _ χ₁ hχ₁ _ => ?_
  have hcreate₁ := hcreate.mono (hχ.trans hχ₁)
  refine acts_bind (acts_createMissing hcreate₁ found.slug) fun created χ₂ hχ₂ _ => ?_
  refine acts_bind (acts_context _ (acts_store (.inr (.inr (hcreate₁.mono hχ₂)))))
    fun records χ₃ hχ₃ _ => ?_
  refine acts_bind acts_required fun record χ₄ hχ₄ _ => ?_
  exact Policy.mediated_pure (hcreate₁.mono (hχ₂.trans (hχ₃.trans hχ₄)))

theorem acts_listNamespaces (hlist : Allowed x φ .list .default) :
    Acts config x φ listNamespaces fun response χ => Justified x χ response := by
  refine acts_bind (acts_context _ (acts_store (.inl hlist))) fun records χ hχ _ => ?_
  exact Policy.mediated_pure (hlist.mono hχ)

theorem acts_getNamespace (hread : Allowed x φ .read .default) (request : NamespaceGetRequest) :
    Acts config x φ (getNamespace config request) fun response χ => Justified x χ response := by
  refine acts_bind acts_ofExcept fun found χ hχ _ => ?_
  refine acts_bind (acts_context _ (acts_store (.inr (.inl (hread.mono hχ)))))
    fun records χ₁ hχ₁ _ => ?_
  exact Policy.mediated_pure (hread.mono (hχ.trans hχ₁))

variable {callerSessionId : Option SessionId}

theorem acts_cascadeTarget (target : Session) :
    Acts config (.caller principal) φ (cascadeTarget config ⟨principal, callerSessionId⟩ target)
      fun outcome χ => ∀ session, outcome = .ok session →
        Allowed (.caller principal) χ .kill (.session session.id) := by
  refine acts_bind (acts_deleteOne 5 .term target.id).attempt fun outcome χ hχ houtcome => ?_
  refine Policy.mediated_pure fun session hsession => ?_
  cases outcome with
  | ok found =>
      cases hsession
      exact houtcome _ rfl
  | error report => cases hsession

theorem acts_cascadeTerminateNamespace (slug : String) :
    Acts config (.caller principal) φ
      (cascadeTerminateNamespace config ⟨principal, callerSessionId⟩ slug) fun sessions χ =>
        ∀ session ∈ sessions, Allowed (.caller principal) χ .kill (.session session.id) := by
  refine acts_bind (acts_context _ (acts_store trivial)) fun targets χ hχ _ => ?_
  have hstable : Policy.Stable (P := daemonPolicy config)
      fun (outcome : Except String Session) χ => ∀ session, outcome = .ok session →
        Allowed (.caller principal) χ .kill (.session session.id) :=
    fun outcome χ χ' hχ houtcome session hok => (houtcome session hok).mono hχ
  refine acts_bind (Policy.mediated_traverse hstable fun target _ _ _ => acts_cascadeTarget target)
    fun outcomes χ₁ hχ₁ houtcomes => ?_
  refine acts_bind acts_ensure fun _ χ₂ hχ₂ _ => ?_
  refine Policy.mediated_pure fun session hsession => ?_
  obtain ⟨outcome, hmem, hok⟩ := List.mem_filterMap.mp hsession
  cases outcome with
  | ok found =>
      cases hok
      exact (houtcomes _ hmem _ rfl).mono hχ₂
  | error error => cases hok

theorem acts_removeNamespaceCatalog (hkill : Allowed x φ .kill .default) (slug : String) :
    Acts config x φ (removeNamespaceCatalog slug) fun _ _ => True := by
  refine acts_bind (acts_context _ (acts_store hkill)) fun active χ hχ _ => ?_
  refine acts_bind acts_ensure fun _ χ₁ hχ₁ _ => ?_
  have hkill₁ := hkill.mono (hχ.trans hχ₁)
  refine acts_bind (acts_context _ (acts_store hkill₁)) fun _ χ₂ hχ₂ _ => ?_
  refine acts_bind (acts_context _ (acts_store (hkill₁.mono hχ₂))) fun removed χ₃ hχ₃ _ => ?_
  exact Policy.Mediated.toTrue acts_ensure

theorem acts_deleteNamespace (request : NamespaceDeleteRequest) :
    Acts config (.caller principal) φ
      (deleteNamespace config ⟨principal, callerSessionId⟩ request) fun response χ =>
        Justified (.caller principal) χ response := by
  refine acts_bind acts_ofExcept fun _ χ hχ _ => ?_
  refine acts_bind (acts_authorize principal .kill .default) fun _ χ₁ hχ₁ hkill => ?_
  refine acts_bind (acts_context _ (acts_store trivial)) fun found χ₂ hχ₂ _ => ?_
  refine acts_bind acts_ensure fun _ χ₃ hχ₃ _ => ?_
  refine acts_bind (acts_cascadeTerminateNamespace _) fun sessions χ₄ hχ₄ hsessions => ?_
  have hkill₄ := hkill.mono (hχ₂.trans (hχ₃.trans hχ₄))
  refine acts_bind (acts_removeNamespaceCatalog hkill₄ _) fun _ χ₅ hχ₅ _ => ?_
  exact Policy.mediated_pure ⟨hkill₄.mono hχ₅, fun session hs => (hsessions session hs).mono hχ₅⟩

end LittleOrgans.Handler
