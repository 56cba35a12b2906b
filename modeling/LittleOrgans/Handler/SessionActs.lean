import LittleOrgans.Handler.Acts

/-!
# Session requests within the policy

Every request on sessions, and the background tasks they share, calls only what its own audit
rows permit, and its response rests on them.
-/

set_option autoImplicit false

namespace LittleOrgans.Handler

open LittleOrgans.Core
open LittleOrgans.Library
open LittleOrgans.Store
open LittleOrgans.Daemon (ChildExit)
open LittleOrgans.Concurrency (RuntimeSignal)
open LittleOrgans.Identity

variable {config : DaemonConfig} {x : Subject} {φ : Set Grant}

/-- The session that is kept is the one that was asked for. -/
theorem ConcernsSession.id_eq {id : SessionId} {session : Session}
    (h : ConcernsSession id (.ok (some session))) : session.id = id := h session rfl

/-! ## Exits -/

theorem acts_persistChildExit (hrefresh : MayRefresh x φ) (exit : ChildExit) :
    Acts config x φ (persistChildExit exit) fun answer _ =>
      ConcernsSession exit.sessionId (.ok answer) := by
  refine acts_bind (acts_host trivial) fun now χ hχ _ => ?_
  cases exit.transcriptPath with
  | none => exact acts_store_answers (hrefresh.mono hχ)
  | some path =>
      refine acts_bind (acts_context _ (acts_store (hrefresh.mono hχ))) fun _ ψ hψ _ => ?_
      exact acts_store_answers (hrefresh.mono (hχ.trans hψ))

theorem acts_refreshExits (hrefresh : MayRefresh x φ) :
    Acts config x φ refreshExits fun _ _ => True := by
  refine acts_bind (acts_context _ (acts_port hrefresh)) fun exits χ hχ _ => ?_
  refine Policy.mediated_forEach fun exit _ ψ hψ => acts_context _ ?_
  refine acts_bind (acts_persistChildExit (hrefresh.mono (hχ.trans hψ)) exit) fun _ _ _ _ => ?_
  exact Policy.mediated_pure trivial

/-! ## Reconciling with the runtime -/

theorem acts_markLost (hreconcile : MayReconcile x φ) (id : SessionId) (evidence : LostEvidence) :
    Acts config x φ (markLost id evidence) fun _ _ => True := by
  refine acts_bind (acts_host trivial) fun now χ hχ _ => ?_
  refine acts_bind (acts_context _ (acts_store (hreconcile.mono hχ))) fun _ _ _ _ => ?_
  exact Policy.mediated_pure trivial

theorem acts_recordLifecycleTranscript (hreconcile : MayReconcile x φ) (lifecycle : Lifecycle) :
    Acts config x φ (recordLifecycleTranscript lifecycle) fun _ _ => True := by
  rw [recordLifecycleTranscript]
  cases lifecycleTranscriptPath lifecycle with
  | none => exact Policy.mediated_ret trivial
  | some path =>
      refine acts_bind (acts_host trivial) fun now χ hχ _ => ?_
      refine acts_bind (acts_context _ (acts_store (hreconcile.mayRefresh.mono hχ)))
        fun _ _ _ _ => ?_
      exact Policy.mediated_pure trivial

theorem acts_reconcileState (hreconcile : MayReconcile x φ) (lifecycle : Lifecycle) :
    Acts config x φ (reconcileState lifecycle) fun _ _ => True := by
  rw [reconcileState]
  cases lifecycle.state with
  | forking => exact Policy.mediated_ret trivial
  | running => exact Policy.mediated_ret trivial
  | exited exit =>
      refine acts_bind (acts_host trivial) fun now χ hχ _ => ?_
      refine acts_bind (acts_context _ (acts_store (hreconcile.mayRefresh.mono hχ)))
        fun _ _ _ _ => ?_
      exact Policy.mediated_pure trivial
  | lost evidence =>
      refine acts_bind (acts_markLost hreconcile _ _) fun _ _ _ _ => ?_
      exact Policy.mediated_pure trivial

theorem acts_reconcileLifecycles (hreconcile : MayReconcile x φ) (lifecycles : List Lifecycle) :
    Acts config x φ (reconcileLifecycles lifecycles) fun _ _ => True := by
  refine acts_bind (Q := fun _ _ => True) ?_ fun _ _ _ _ => Policy.mediated_pure trivial
  have hloop : Acts config x φ (Prog.traverse reconcileLifecycle lifecycles) fun findings χ =>
      ∀ finding ∈ findings, True := by
    refine Policy.mediated_traverse (fun _ _ _ _ _ => trivial) fun lifecycle _ χ hχ => ?_
    refine acts_bind (acts_recordLifecycleTranscript (hreconcile.mono hχ) lifecycle)
      fun _ ψ hψ _ => ?_
    exact acts_reconcileState (hreconcile.mono (hχ.trans hψ)) lifecycle
  exact Policy.Mediated.toTrue hloop

theorem acts_reconcileOnce (hreconcile : MayReconcile x φ) :
    Acts config x φ reconcileOnce fun _ _ => True := by
  refine acts_bind (acts_context _ (acts_port hreconcile)) fun lifecycles χ hχ _ => ?_
  exact acts_reconcileLifecycles (hreconcile.mono hχ) lifecycles

/-! ## The event loop -/

theorem acts_handleBatch (batch : EventBatch) :
    Acts config .daemon φ (handleBatch batch) fun _ _ => True := by
  cases batch with
  | events events next =>
      refine acts_bind (acts_host trivial) fun now χ hχ _ => ?_
      refine acts_bind (acts_context _ (acts_store rfl)) fun _ _ _ _ => ?_
      exact Policy.mediated_pure trivial
  | cursorExpired oldest =>
      refine acts_bind (acts_context _ (acts_port (.inl rfl))) fun lifecycles χ hχ _ => ?_
      refine acts_bind (acts_reconcileLifecycles (.inl rfl) lifecycles) fun _ _ _ _ => ?_
      refine acts_bind (acts_context _ (acts_store rfl)) fun _ _ _ _ => ?_
      exact Policy.mediated_pure trivial

theorem acts_eventLoopRound (cursor : Option EventCursor) :
    Acts config .daemon φ (eventLoopRound cursor) fun _ _ => True := by
  have hpoll : Acts config .daemon φ (port (.pollEvents cursor)) fun _ _ => True :=
    Policy.Mediated.toTrue (acts_port rfl)
  refine acts_bind hpoll.attempt fun polled χ hχ _ => ?_
  cases polled with
  | error report => exact Policy.mediated_pure trivial
  | ok batch =>
      refine acts_bind (acts_handleBatch batch).attempt fun handled ψ hψ _ => ?_
      cases handled with
      | ok next => exact Policy.mediated_pure trivial
      | error report => exact Policy.mediated_pure trivial

/-- By induction on the rounds. -/
theorem acts_eventLoop (rounds : Nat) (cursor : Option EventCursor) :
    Acts config .daemon φ (eventLoop rounds cursor) fun _ _ => True := by
  induction rounds generalizing cursor φ with
  | zero => exact Policy.mediated_ret trivial
  | succ n ih =>
      refine acts_bind (acts_eventLoopRound cursor) fun next χ hχ _ => ?_
      exact acts_bind (acts_host trivial) fun _ _ _ _ => ih next

theorem acts_runEventLoop (rounds : Nat) :
    Acts config .daemon φ (runEventLoop rounds) fun _ _ => True :=
  acts_bind (acts_context _ (acts_store rfl)) fun cursor _ _ _ => acts_eventLoop rounds cursor

/-! ## Requests -/

theorem acts_list (hlist : Allowed x φ .list .default) (request : ListRequest) :
    Acts config x φ (list request) fun response χ => Justified x χ response := by
  refine acts_bind (acts_context _ (acts_store trivial)) fun sessions χ hχ _ => ?_
  exact Policy.mediated_pure (hlist.mono hχ)

variable {principal : Principal} {callerSessionId : Option SessionId}

theorem acts_capture (request : CaptureRequest) :
    Acts config (.caller principal) φ (capture config ⟨principal, callerSessionId⟩ request)
      fun response χ => Justified (.caller principal) χ response := by
  refine acts_bind (acts_context _ (acts_store trivial)) fun found χ hχ _ => ?_
  refine acts_bind acts_required fun session χ₁ hχ₁ _ => ?_
  refine acts_bind (acts_authorizeSession principal .read session.id) fun _ χ₂ hχ₂ hread => ?_
  refine acts_bind (acts_context _ (acts_port hread)) fun _ χ₃ hχ₃ _ => ?_
  exact Policy.mediated_pure (hread.mono hχ₃)

theorem acts_terminateSession {id : SessionId} (hkill : Allowed x φ .kill (.session id))
    (signal : RuntimeSignal) (graceSecs : Nat) :
    Acts config x φ (terminateSession id signal graceSecs) fun session χ =>
      Allowed x χ .kill (.session session.id) := by
  refine acts_bind (acts_context _ (acts_port (.inl hkill))) fun ended χ hχ hended => ?_
  refine acts_bind acts_required fun exit χ₁ hχ₁ hexit => ?_
  -- the exit is that of the session that was terminated
  subst hexit
  have hid : exit.sessionId = id := of_decide_eq_true hended
  have hrefresh : MayRefresh x χ₁ := .inr (.inl ⟨id, hkill.mono (hχ.trans hχ₁)⟩)
  refine acts_bind (acts_context _ (acts_persistChildExit hrefresh exit))
    fun persisted χ₂ hχ₂ htells => ?_
  refine acts_required.weaken fun session χ₃ hχ₃ hsession => ?_
  subst hsession
  rw [htells.id_eq, hid]
  exact hkill.mono (hχ.trans (hχ₁.trans (hχ₂.trans hχ₃)))

theorem acts_deleteOne (graceSecs : Nat) (signal : RuntimeSignal) (id : SessionId) :
    Acts config (.caller principal) φ
      (deleteOne config ⟨principal, callerSessionId⟩ graceSecs signal id) fun session χ =>
        Allowed (.caller principal) χ .kill (.session session.id) := by
  refine acts_bind (acts_authorizeSession principal .kill id) fun _ χ hχ hkill => ?_
  refine acts_bind (acts_refreshExits (.inr (.inl ⟨id, hkill⟩))) fun _ χ₁ hχ₁ _ => ?_
  refine acts_bind (acts_context _ (acts_store trivial)) fun found χ₂ hχ₂ htells => ?_
  refine acts_bind acts_required fun session χ₃ hχ₃ hfound => ?_
  subst hfound
  have hkill₃ := hkill.mono (hχ₁.trans (hχ₂.trans hχ₃))
  split
  · refine Policy.mediated_pure ?_
    rw [ConcernsSession.id_eq htells.1]
    exact hkill₃
  · exact acts_terminateSession hkill₃ signal graceSecs

theorem acts_delete (request : DeleteRequest) :
    Acts config (.caller principal) φ (delete config ⟨principal, callerSessionId⟩ request)
      fun response χ => Justified (.caller principal) χ response := by
  refine acts_bind (acts_context _ acts_ofExcept) fun signal χ hχ _ => ?_
  refine acts_bind (acts_collectTargetSessions (stable_allowedSession .kill) fun id ψ _ =>
    acts_deleteOne request.graceSecs signal id) fun response ψ hψ hresponse => ?_
  exact Policy.mediated_pure hresponse

theorem acts_labelOne (mutation : LabelMutation) (id : SessionId) :
    Acts config (.caller principal) φ (labelOne config ⟨principal, callerSessionId⟩ mutation id)
      fun session χ => Allowed (.caller principal) χ .link (.session session.id) := by
  refine acts_bind (acts_authorizeSession principal .link id) fun _ χ hχ hlink => ?_
  refine acts_bind (acts_context _ (acts_store hlink)) fun stored χ₁ hχ₁ htells => ?_
  refine acts_required.weaken fun session χ₂ hχ₂ hstored => ?_
  subst hstored
  rw [ConcernsSession.id_eq htells.1]
  exact hlink.mono (hχ₁.trans hχ₂)

theorem acts_label (request : LabelRequest) :
    Acts config (.caller principal) φ (label config ⟨principal, callerSessionId⟩ request)
      fun response χ => Justified (.caller principal) χ response := by
  refine acts_bind (acts_collectTargetSessions (stable_allowedSession .link) fun id ψ _ =>
    acts_labelOne request.mutation id) fun response ψ hψ hresponse => ?_
  exact Policy.mediated_pure hresponse

theorem acts_singleSession (selector : Selector) (label : String) :
    Acts config x φ (singleSession selector label) fun _ _ => True := by
  refine acts_bind (acts_resolveSelector selector label) fun sessions χ hχ _ => ?_
  refine acts_bind acts_ensure fun _ χ₁ hχ₁ _ => ?_
  exact Policy.Mediated.toTrue acts_required

theorem acts_logs (request : LogsRequest) :
    Acts config (.caller principal) φ (logs config ⟨principal, callerSessionId⟩ request)
      fun response χ => Justified (.caller principal) χ response := by
  refine acts_bind (acts_singleSession request.selector "logs") fun session χ hχ _ => ?_
  refine acts_bind (acts_authorizeSession principal .logs session.id) fun _ χ₁ hχ₁ hlogs => ?_
  refine acts_bind acts_required fun path χ₂ hχ₂ _ => ?_
  have hread : Acts config (.caller principal) χ₂ (readTranscript path request.maxBytes)
      fun _ _ => True :=
    acts_bind (acts_host ⟨session.id, hlogs.mono hχ₂⟩) fun _ _ _ _ => Policy.mediated_pure trivial
  refine acts_bind (acts_context _ hread) fun content χ₃ hχ₃ _ => ?_
  exact Policy.mediated_pure (hlogs.mono (hχ₂.trans hχ₃))

/-- By induction on the rounds before the deadline. -/
theorem acts_waitRounds (hread : Allowed x φ .read .default) (request : WaitRequest)
    (rounds : Nat) :
    Acts config x φ (waitRounds request rounds) fun response χ => Justified x χ response := by
  induction rounds generalizing φ with
  | zero =>
      refine acts_bind (acts_context _ (acts_store trivial)) fun sessions χ hχ _ => ?_
      exact Policy.mediated_pure (hread.mono hχ)
  | succ n ih =>
      refine acts_bind (acts_context _ (acts_store trivial)) fun sessions χ hχ _ => ?_
      split
      · exact Policy.mediated_pure (hread.mono hχ)
      · exact acts_bind (acts_host trivial) fun _ ψ hψ _ => ih (hread.mono (hχ.trans hψ))

theorem acts_wait (hread : Allowed x φ .read .default) (request : WaitRequest) :
    Acts config x φ (wait request) fun response χ => Justified x χ response :=
  acts_bind (acts_host trivial) fun rounds _ hχ _ => acts_waitRounds (hread.mono hχ) request rounds

theorem acts_runtimeDoctor (hdoctor : Allowed x φ .doctor .default) :
    Acts config x φ runtimeDoctor fun _ _ => True := by
  have hport : Acts config x φ (port .doctor) fun _ _ => True :=
    Policy.Mediated.toTrue (acts_port hdoctor)
  refine acts_bind hport.attempt fun answer χ hχ _ => ?_
  cases answer with
  | ok report => exact Policy.mediated_pure trivial
  | error report => exact Policy.mediated_pure trivial

theorem acts_doctor :
    Acts config (.caller principal) φ (doctor config ⟨principal, callerSessionId⟩)
      fun response χ => Justified (.caller principal) χ response := by
  refine acts_bind (acts_authorize principal .doctor .default) fun _ χ hχ hdoctor => ?_
  refine acts_bind (acts_reconcileOnce (.inr hdoctor)).attempt fun fresh χ₁ hχ₁ _ => ?_
  refine acts_bind (acts_runtimeDoctor (hdoctor.mono hχ₁)) fun runtimeMatters χ₂ hχ₂ _ => ?_
  refine acts_bind (acts_context _ (acts_store trivial)) fun sessions χ₃ hχ₃ _ => ?_
  exact Policy.mediated_pure (hdoctor.mono (hχ₁.trans (hχ₂.trans hχ₃)))

theorem acts_shutdown :
    Acts config (.caller principal) φ (shutdown config ⟨principal, callerSessionId⟩)
      fun response χ => Justified (.caller principal) χ response :=
  acts_bind (acts_authorize principal .daemon .default) fun _ _ _ hdaemon =>
    Policy.mediated_pure hdaemon

end LittleOrgans.Handler
