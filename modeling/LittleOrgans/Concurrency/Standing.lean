import LittleOrgans.Concurrency.Effects

/-!
# Which programs are under way

The standing of the threads: a boot is alone and knows the stage it has reached,
spawns run once the daemon listens and never share a session id, and only the
program that was started for it begins an intent, launches, or removes a
namespace. `standing` is an invariant of all runs, crashes and failures included.
-/

set_option autoImplicit false

namespace LittleOrgans.Concurrency

open LittleOrgans.Core
open LittleOrgans.Library
open LittleOrgans.Store
open LittleOrgans.Daemon

/-- What each thread was started for and knows. -/
abbrev Minds := Nat → Option (Origin × Knowledge)

namespace Knowledge

/-! ## Duties along one operation -/

theorem Spends.next_os (φ : Knowledge) (o : OsOp) (r : Except DaemonError o.Res) :
    φ.Spends (φ.next (.os o) r) := by
  by_cases hlaunch : ∃ request, o = .launchShim request
  · obtain ⟨request, rfl⟩ := hlaunch
    cases r with
    | ok a => exact .inr (Grows.refl φ.spent)
    | error e => exact .inl (Grows.refl φ)
  · exact .inl (Grows.next_os φ (fun request h => hlaunch ⟨request, h⟩) r)

theorem Spends.launchable {φ φ' : Knowledge} (h : φ.Spends φ') (hl : φ'.launchable = true) :
    φ.launchable = true := by
  rcases h with h | h
  · rw [← h.launchable, hl]
  · rw [h.launchable] at hl
    cases hl

theorem Spends.requested {φ φ' : Knowledge} (h : φ.Spends φ') : φ'.requested = φ.requested :=
  h.elim Grows.requested Grows.requested

theorem Spends.booting {φ φ' : Knowledge} (h : φ.Spends φ') : φ'.booting = φ.booting :=
  h.elim Grows.booting Grows.booting

theorem Spends.removing {φ φ' : Knowledge} (h : φ.Spends φ') : φ'.removing = φ.removing :=
  h.elim (fun h => by rw [h.duties]) fun h => by rw [h.duties]; rfl

variable (φ : Knowledge) {o : Op} (r : Except DaemonError o.Res)

theorem next_removing : (φ.next o r).removing = φ.removing := by
  cases o with
  | os o => exact (Spends.next_os φ o r).removing
  | store o => cases r <;> cases o <;> rfl
  | log o => cases r <;> cases o <;> rfl
  | memory o =>
      cases r with
      | error e => rfl
      | ok a =>
          cases o with
          | awaitReady channel => cases a <;> rfl
          | _ => rfl

/-- A launch that is spent does not come back. -/
theorem launchable_of_next (h : (φ.next o r).launchable = true) : φ.launchable = true := by
  cases o with
  | os o => exact (Spends.next_os φ o r).launchable h
  | store o => cases r <;> cases o <;> first | exact h | cases h
  | log o => cases r <;> cases o <;> exact h
  | memory o =>
      cases r with
      | error e => exact h
      | ok a =>
          cases o with
          | awaitReady channel => cases a <;> exact h
          | _ => exact h

/-- An intent that is still requested was requested before. -/
theorem requested_of_next {intent : PendingSpawnIntent}
    (h : (φ.next o r).requested = some intent) : φ.requested = some intent := by
  cases o with
  | os o => exact (Spends.next_os φ o r).requested.symm.trans h
  | store o => cases r <;> cases o <;> first | exact h | cases h
  | log o => cases r <;> cases o <;> exact h
  | memory o =>
      cases r with
      | error e => exact h
      | ok a =>
          cases o with
          | awaitReady channel => cases a <;> exact h
          | _ => exact h

/-- Only a boot that enters a stage moves on. -/
theorem next_booting (hstage : ∀ stage, o ≠ .memory (.enterStage stage)) :
    (φ.next o r).booting = φ.booting := by
  cases o with
  | os o => exact (Spends.next_os φ o r).booting
  | store o => cases r <;> cases o <;> rfl
  | log o => cases r <;> cases o <;> rfl
  | memory o =>
      cases r with
      | error e => rfl
      | ok a =>
          cases o with
          | awaitReady channel => cases a <;> rfl
          | enterStage stage => exact absurd rfl (hstage stage)
          | _ => rfl

end Knowledge

/-! ## The invariant -/

/-- What a thread was started for says what it may have left to do. -/
structure ThreadStanding (w : World) (origin : Origin) (φ : Knowledge) : Prop where
  requested : ∀ intent, φ.requested = some intent → ∃ call, origin = .spawn call ∧
    call.intent = intent
  launchable : φ.launchable = true → ∃ call, origin = .spawn call
  booting : ∀ stage, φ.booting = some stage → origin = .boot ∧ w.stage = stage
  boots : origin = .boot → φ.booting = some w.stage
  removing : ∀ slug, φ.removing = some slug → origin = .removeNamespaceCatalog slug
  spawns : ∀ call, origin = .spawn call →
    w.stage = .listening ∧ call.intent.sessionId ∈ w.usedIds

structure Standing (w : World) (minds : Minds) : Prop where
  threads : ∀ t origin φ, minds t = some (origin, φ) → ThreadStanding w origin φ
  oneBoot : ∀ t t' φ φ', minds t = some (.boot, φ) → minds t' = some (.boot, φ') → t = t'
  oneSpawn : ∀ t t' call call' φ φ', minds t = some (.spawn call, φ) →
    minds t' = some (.spawn call', φ') → call.intent.sessionId = call'.intent.sessionId → t = t'
  down : w.stage = .down → ∀ t, minds t = none

/-- An operation leaves the origins of all threads as they are. -/
theorem origin_of_update {minds : Minds} {t t' : Nat} {origin origin' : Origin}
    {φ φ' ψ : Knowledge} (hmind : minds t = some (origin, φ))
    (h : Function.update minds t (some (origin, φ')) t' = some (origin', ψ)) :
    ∃ ψ', minds t' = some (origin', ψ') := by
  rcases Pool.of_update h with ⟨rfl, heq⟩ | ⟨-, heq⟩
  · cases heq
    exact ⟨φ, hmind⟩
  · exact ⟨ψ, heq⟩

/-- The stage of the others is not moved: they are not boots. -/
theorem ThreadStanding.of_enterStage {w : World} {origin : Origin} {φ : Knowledge}
    (h : ThreadStanding w origin φ) (hboot : origin ≠ .boot) (hstage : w.stage ≠ .listening)
    (stage : Stage) : ThreadStanding { w with stage := stage } origin φ where
  requested := h.requested
  launchable := h.launchable
  booting stage hbooting := absurd (h.booting stage hbooting).1 hboot
  boots horigin := absurd horigin hboot
  removing := h.removing
  spawns call horigin := absurd (h.spawns call horigin).1 hstage

theorem ThreadStanding.of_eq {w w' : World} {origin : Origin} {φ : Knowledge}
    (h : ThreadStanding w origin φ) (hstage : w'.stage = w.stage)
    (hused : w.usedIds ⊆ w'.usedIds) : ThreadStanding w' origin φ where
  requested := h.requested
  launchable := h.launchable
  booting stage hbooting := hstage ▸ h.booting stage hbooting
  boots horigin := hstage ▸ h.boots horigin
  removing := h.removing
  spawns call horigin :=
    ⟨hstage ▸ (h.spawns call horigin).1, hused (h.spawns call horigin).2⟩

/-- An operation that enters no stage. -/
theorem ThreadStanding.next {w : World} {origin : Origin} {φ : Knowledge}
    (h : ThreadStanding w origin φ) {o : Op} (r : Except DaemonError o.Res)
    (hstage : ∀ stage, o ≠ .memory (.enterStage stage)) :
    ThreadStanding w origin (φ.next o r) where
  requested intent hrequested := h.requested intent (φ.requested_of_next r hrequested)
  launchable hlaunchable := h.launchable (φ.launchable_of_next r hlaunchable)
  booting stage hbooting := h.booting stage (φ.next_booting r hstage ▸ hbooting)
  boots horigin := φ.next_booting r hstage ▸ h.boots horigin
  removing slug hremoving := h.removing slug (φ.next_removing r ▸ hremoving)
  spawns := h.spawns

/-- A boot that enters a stage. -/
theorem ThreadStanding.enterStage {w : World} {φ : Knowledge} (h : ThreadStanding w .boot φ)
    (stage : Stage) :
    ThreadStanding { w with stage := stage } .boot { φ with booting := some stage } where
  requested := h.requested
  launchable := h.launchable
  booting stage' hbooting := ⟨rfl, Option.some.inj hbooting⟩
  boots _ := rfl
  removing := h.removing
  spawns call horigin := by cases horigin

theorem Standing.op {w w' : World} {minds : Minds} {t : Nat} {origin : Origin} {φ : Knowledge}
    {choice : Choice} {o : Op} {r : Except DaemonError o.Res} (h : Standing w minds)
    (hmind : minds t = some (origin, φ)) (hallows : φ.allows o)
    (hexec : o.exec choice w = some (r, w')) :
    Standing w' (Function.update minds t (some (origin, φ.next o r))) := by
  have hthread := h.threads t origin φ hmind
  refine ⟨?_, ?_, ?_, ?_⟩
  · intro t' origin' ψ ht'
    by_cases henter : ∃ stage, o = .memory (.enterStage stage)
    · obtain ⟨stage, rfl⟩ := henter
      obtain ⟨rfl, rfl⟩ := MemoryOp.enterStage_exec hexec
      obtain ⟨old, hold, hlistening⟩ :
          ∃ old, φ.booting = some old ∧ old ≠ .listening := by
        cases stage with
        | built => exact ⟨_, hallows, nofun⟩
        | listening => exact ⟨_, hallows, nofun⟩
        | down => exact hallows.elim
        | booting => exact hallows.elim
      -- Only the thread that boots enters a stage, and there is one.
      obtain ⟨rfl, hstage⟩ := hthread.booting old hold
      rcases Pool.of_update ht' with ⟨rfl, heq⟩ | ⟨hne, hother⟩
      · cases heq
        exact hthread.enterStage stage
      · refine (h.threads t' origin' ψ hother).of_enterStage ?_ (hstage ▸ hlistening) stage
        rintro rfl
        exact hne (h.oneBoot t' t ψ φ hother hmind)
    · have hstage : ∀ stage, o ≠ .memory (.enterStage stage) := fun stage ho => henter ⟨stage, ho⟩
      refine ThreadStanding.of_eq ?_ (Op.stage_exec hexec hstage)
        (Op.usedIds_exec hexec ▸ List.Subset.refl _)
      rcases Pool.of_update ht' with ⟨rfl, heq⟩ | ⟨-, hother⟩
      · cases heq
        exact hthread.next r hstage
      · exact h.threads t' origin' ψ hother
  · intro t₁ t₂ φ₁ φ₂ h₁ h₂
    obtain ⟨ψ₁, h₁⟩ := origin_of_update hmind h₁
    obtain ⟨ψ₂, h₂⟩ := origin_of_update hmind h₂
    exact h.oneBoot t₁ t₂ ψ₁ ψ₂ h₁ h₂
  · intro t₁ t₂ call₁ call₂ φ₁ φ₂ h₁ h₂ hid
    obtain ⟨ψ₁, h₁⟩ := origin_of_update hmind h₁
    obtain ⟨ψ₂, h₂⟩ := origin_of_update hmind h₂
    exact h.oneSpawn t₁ t₂ call₁ call₂ ψ₁ ψ₂ h₁ h₂ hid
  · intro hdown t'
    exfalso
    have hnotDown : w.stage ≠ .down := fun hd => by rw [h.down hd t] at hmind; cases hmind
    by_cases henter : ∃ stage, o = .memory (.enterStage stage)
    · obtain ⟨stage, rfl⟩ := henter
      obtain ⟨-, rfl⟩ := MemoryOp.enterStage_exec hexec
      cases (show stage = .down from hdown)
      exact hallows
    · rw [Op.stage_exec hexec fun stage ho => henter ⟨stage, ho⟩] at hdown
      exact hnotDown hdown

/-- A thread without duties of its own. -/
theorem ThreadStanding.idle {w : World} {origin : Origin} {φ : Knowledge}
    (hrequested : φ.requested = none) (hlaunchable : φ.launchable = false)
    (hbooting : φ.booting = none) (hremoving : φ.removing = none) (hboot : origin ≠ .boot)
    (hspawn : ∀ call, origin ≠ .spawn call) : ThreadStanding w origin φ where
  requested intent h := by
    rw [hrequested] at h
    cases h
  launchable h := by
    rw [hlaunchable] at h
    cases h
  booting stage h := by
    rw [hbooting] at h
    cases h
  boots h := absurd h hboot
  removing slug h := by
    rw [hremoving] at h
    cases h
  spawns call h := absurd h (hspawn call)

/-- A thread that starts knows what it was started for. -/
theorem threadStanding_first {w w' : World} {origin : Origin} (h : w.start origin = some w') :
    ThreadStanding w' origin (Knowledge.first origin) := by
  cases origin with
  | boot =>
      obtain ⟨-, rfl⟩ := World.start_boot h
      exact
        { requested := fun intent h => nomatch h
          launchable := fun h => nomatch h
          booting := fun stage hstage => ⟨rfl, Option.some.inj hstage⟩
          boots := fun _ => rfl
          removing := fun slug h => nomatch h
          spawns := fun call h => nomatch h }
  | spawn call =>
      obtain ⟨hstage, -, rfl⟩ := World.start_spawn h
      exact
        { requested := fun intent hrequested => ⟨call, rfl, Option.some.inj hrequested⟩
          launchable := fun _ => ⟨call, rfl⟩
          booting := fun stage h => nomatch h
          boots := fun h => nomatch h
          removing := fun slug h => nomatch h
          spawns := fun call' hcall => by
            cases hcall
            exact ⟨hstage, List.mem_cons_self⟩ }
  | removeNamespaceCatalog slug =>
      exact
        { requested := fun intent h => nomatch h
          launchable := fun h => nomatch h
          booting := fun stage h => nomatch h
          boots := fun h => nomatch h
          removing := fun slug' hslug => by
            cases hslug
            rfl
          spawns := fun call h => nomatch h }
  | _ => exact .idle rfl rfl rfl rfl (fun h => by cases h) fun _ h => by cases h

theorem Standing.start {w w' : World} {minds : Minds} {t : Nat} {origin : Origin}
    (h : Standing w minds) (hstart : w.start origin = some w') :
    Standing w' (Function.update minds t (some (origin, Knowledge.first origin))) := by
  have hnew := threadStanding_first hstart
  by_cases hboot : origin = .boot
  · subst hboot
    -- The daemon was down, so the boot is the only thread.
    obtain ⟨hdown, rfl⟩ := World.start_boot hstart
    have honly : ∀ t' x, Function.update minds t (some (.boot, Knowledge.first .boot)) t' =
        some x → t' = t ∧ x = (.boot, Knowledge.first .boot) := by
      intro t' x hx
      rcases Pool.of_update hx with hx | ⟨-, hx⟩
      · exact hx
      · rw [h.down hdown t'] at hx
        cases hx
    refine ⟨fun t' origin φ ht' => ?_, fun t₁ t₂ _ _ h₁ h₂ => ?_, fun t₁ t₂ _ _ _ _ h₁ h₂ _ => ?_,
      fun hdown => by cases hdown⟩
    · obtain ⟨-, heq⟩ := honly t' _ ht'
      cases heq
      exact hnew
    · rw [(honly t₁ _ h₁).1, (honly t₂ _ h₂).1]
    · rw [(honly t₁ _ h₁).1, (honly t₂ _ h₂).1]
  · obtain ⟨hnotDown, hstage⟩ := World.start_stage hstart hboot
    refine ⟨fun t' origin' φ ht' => ?_, fun t₁ t₂ φ₁ φ₂ h₁ h₂ => ?_,
      fun t₁ t₂ call₁ call₂ φ₁ φ₂ h₁ h₂ hid => ?_, fun hdown => ?_⟩
    · rcases Pool.of_update ht' with ⟨-, heq⟩ | ⟨-, hother⟩
      · cases heq
        exact hnew
      · exact (h.threads t' origin' φ hother).of_eq hstage (World.start_usedIds hstart)
    · rcases Pool.of_update h₁ with ⟨-, heq⟩ | ⟨-, h₁⟩
      · cases heq
        exact absurd rfl hboot
      · rcases Pool.of_update h₂ with ⟨-, heq⟩ | ⟨-, h₂⟩
        · cases heq
          exact absurd rfl hboot
        · exact h.oneBoot t₁ t₂ φ₁ φ₂ h₁ h₂
    · -- a new spawn has an id that no other thread was started with
      have hfresh : ∀ {t' call' φ' call}, minds t' = some (.spawn call', φ') →
          origin = .spawn call → call.intent.sessionId ≠ call'.intent.sessionId := by
        rintro t' call' φ' call ht' rfl hsame
        obtain ⟨-, hunused, -⟩ := World.start_spawn hstart
        exact hunused (hsame ▸ ((h.threads t' _ φ' ht').spawns call' rfl).2)
      rcases Pool.of_update h₁ with ⟨ht₁, heq₁⟩ | ⟨-, hold₁⟩ <;>
        rcases Pool.of_update h₂ with ⟨ht₂, heq₂⟩ | ⟨-, hold₂⟩
      · rw [ht₁, ht₂]
      · cases heq₁
        exact absurd hid (hfresh hold₂ rfl)
      · cases heq₂
        exact absurd hid.symm (hfresh hold₁ rfl)
      · exact h.oneSpawn t₁ t₂ call₁ call₂ φ₁ φ₂ hold₁ hold₂ hid
    · exact absurd (hstage ▸ hdown) hnotDown

theorem Standing.of_stage {w w' : World} {minds : Minds} (h : Standing w minds)
    (hstage : w'.stage = w.stage) (hused : w'.usedIds = w.usedIds) : Standing w' minds where
  threads t origin φ ht := (h.threads t origin φ ht).of_eq hstage (hused ▸ List.Subset.refl _)
  oneBoot := h.oneBoot
  oneSpawn := h.oneSpawn
  down hdown := h.down (hstage ▸ hdown)

theorem standing_none (w : World) : Standing w fun _ => none where
  threads _ _ _ h := nomatch h
  oneBoot _ _ _ _ h := nomatch h
  oneSpawn _ _ _ _ _ _ h := nomatch h
  down _ _ := rfl

theorem standing : Pool.Invariant watched (.none watched) Standing where
  op h hmind hallows _ hexec := h.op hmind hallows hexec
  start h _ hstart _ := h.start hstart
  env {w minds event w'} h _ henv := by
    have hframe := World.env_frame henv
    refine h.of_stage ?_ ?_ <;> rw [hframe]
  crash _ _ := standing_none _

end LittleOrgans.Concurrency
