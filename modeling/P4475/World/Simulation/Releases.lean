import P4475.World.Strides

/-!
# Releases and deliveries are strides

Every command that publishes can end in a cascade: a session that cannot take its
batch is closed, which may release its identity and so take a user out of a room and of
a MyRoom. A release waits until the hub has carried it out; only an error leaves one over.
-/

namespace P4475

open Lib ProtocolRoomState

namespace World

variable {H Q P : Type} (env : WorldEnv H Q P) {w w' : World H} {id : RoomId}
  {room room' : ProtocolRoomState}

theorem removeProtocolUser_within (w : World H) (userNo : UserNo) :
    Within w (w.removeProtocolUser env userNo).2 := by
  have hremove : Within w { w with protocol := (w.protocol.removeUser userNo).1 } :=
    .edit rfl rfl (.unseat userNo) (removeUser_shrinks w.protocol userNo) rfl
      fun h => h.move (.removeUser w.protocol userNo) rfl
  unfold removeProtocolUser
  dsimp only
  split
  next => exact hremove
  next => split <;> exact hremove

theorem leavePlainRoom_within (w : World H) (nickname : Text) :
    Within w (w.leavePlainRoom nickname) := by
  unfold leavePlainRoom
  split
  next => exact .refl w
  next =>
    dsimp only
    split
    next => exact .quiet rfl rfl rfl rfl rfl
    next room hr =>
      split
      next => exact .quiet rfl rfl rfl rfl rfl
      next => exact .quiet rfl rfl rfl rfl (plainIds_insert hr rfl)

theorem planMyroomRelease_some {identity : ReleasedIdentity}
    {unavailable : List ReleasedIdentity} {publishWire : Bool}
    {reserved : List OutboundDelivery} {next : H}
    (h : w.planMyroomRelease env identity unavailable publishWire = .ok (reserved, next)) :
    ∃ fanout, env.hub.disconnectReleased w.myroom identity = .ok (next, fanout) := by
  unfold planMyroomRelease at h
  split at h
  next => exact absurd h (by simp)
  next planned fanout hd =>
    have hnext : planned = next := by
      split at h
      next =>
        split at h
        next => exact absurd h (by simp)
        next deliveries _ =>
          cases hr : w.reserve [] deliveries with
          | error e => rw [hr] at h; exact absurd h (by simp [Except.map, Except.mapError])
          | ok _ => rw [hr] at h; cases h; rfl
      next => cases h; rfl
    exact ⟨fanout, hnext ▸ hd⟩

/-- A release that waits is carried out, or the actor stops. -/
theorem releaseIdentityState_leads (w : World H) (identity : ReleasedIdentity)
    (waiting unavailable : List ReleasedIdentity) (publishWire : Bool) :
    Leads env (w, identity :: waiting)
      (w.releaseIdentityState env identity unavailable publishWire).1.isOk
      ((w.releaseIdentityState env identity unavailable publishWire).2, waiting) := by
  have hports : Within w { w with
      observedP2pPorts := w.observedP2pPorts.erase identity.userNo } := .quiet rfl rfl rfl rfl rfl
  unfold releaseIdentityState
  dsimp only
  split
  next =>
    refine ⟨identity :: waiting, .single (.kept hports), fun h => ?_⟩
    exact absurd h (by simp [Except.isOk, Except.toBool])
  next reserved next hplan =>
    obtain ⟨fanout, hcleared⟩ := planMyroomRelease_some env hplan
    have hclears : Leads env (w, identity :: waiting) true
        ({ w with
          observedP2pPorts := w.observedP2pPorts.erase identity.userNo
          myroom := next }, waiting) := hports.then (.stride (.clears hcleared))
    have hpublished := hclears.within (.publishReserved _ reserved)
    have hevent := hpublished.within (.event _ (.release identity))
    have hplain := hevent.within (leavePlainRoom_within _ identity.nickname)
    exact (hplain.within (removeProtocolUser_within env _ identity.userNo)).weaken fun _ => rfl

/-- A batch of releases, one after the other. -/
theorem releaseAll_leads (unavailable : List ReleasedIdentity) (publishWire : Bool)
    (identities : List ReleasedIdentity) (w : World H) :
    Leads env (w, identities) (releaseAll env unavailable publishWire identities w).1.isOk
      ((releaseAll env unavailable publishWire identities w).2, []) := by
  induction identities generalizing w with
  | nil => exact .refl
  | cons identity rest ih =>
    have hfirst := releaseIdentityState_leads env w identity rest unavailable publishWire
    unfold releaseAll
    split
    next w₁ he =>
      rw [he] at hfirst
      obtain ⟨waiting, hpath, -⟩ := hfirst
      exact ⟨waiting, hpath, fun h => absurd h (by simp [Except.isOk, Except.toBool])⟩
    next first w₁ he =>
      rw [he] at hfirst
      refine hfirst.trans ((ih w₁).weaken fun hok => ?_)
      revert hok
      rcases releaseAll env unavailable publishWire rest w₁ with ⟨_ | _, w₂⟩
      · exact id
      · exact id

/-- The registry hands releases out, and they wait. -/
theorem releases_leads {w : World H} {s : IdentitySystem} (action : IdentityAction)
    (response : IdentityResponse)
    (step : w.identities.guard = none →
      w.identities.step env.unicode env.instantMax action = some (response, s))
    (quiet : ∀ result, response ≠ .completion result)
    (guard : s.guard = w.identities.guard) (leases : s.leases = w.identities.leases) :
    Leads env (w, []) true ({ w with identities := s }, IdentitySystem.stampsOf response) :=
  .stride (.releases step quiet guard leases)

/-- The registry disconnects a session, and its release waits. -/
theorem disconnectIdentity_leads (w : World H) (session : SessionId) (now : Instant) :
    Leads env (w, []) true ((w.disconnectIdentity env session now).2,
      IdentitySystem.stampsOf (.disconnected (w.disconnectIdentity env session now).1)) :=
  releases_leads env (.disconnect session now) _ (actor_step rfl rfl) (fun _ => by simp) rfl rfl

theorem closeSessionState_leads (w : World H) (session : SessionId) (now : Instant)
    (publishWire : Bool) :
    Leads env (w, []) (w.closeSessionState env session now publishWire).1.isOk
      ((w.closeSessionState env session now publishWire).2, []) := by
  have herase : Within w { w with sessions := w.sessions.erase session } := .quiet rfl rfl rfl rfl rfl
  have hdisconnect := herase.then (disconnectIdentity_leads env _ session now)
  unfold closeSessionState
  dsimp only
  split
  next identity w₁ he =>
    rw [he] at hdisconnect
    exact hdisconnect.trans (releaseIdentityState_leads env w₁ identity [] [] publishWire)
  next outcome w₁ hne he =>
    rw [he] at hdisconnect
    have hnobody : IdentitySystem.stampsOf (.disconnected outcome) = [] := by
      cases outcome with
      | released identity => exact absurd rfl (hne identity)
      | _ => rfl
    rw [hnobody] at hdisconnect
    exact hdisconnect

/-- A change that an image does not show. -/
theorem map_modify_same {α β : Type} {f : α → β} {g : α → α} (h : ∀ a, f (g a) = f a)
    (l : List α) (k : Nat) : (l.modify k g).map f = l.map f := by
  refine List.ext_getElem? fun i => ?_
  rw [List.getElem?_map, List.getElem?_map, List.getElem?_modify]
  cases l[i]? with
  | none => rfl
  | some a =>
    by_cases hk : k = i
    · simp [hk, h]
    · simp [hk]

/-- A close that is put off waits for the same writes. -/
theorem deferSessionClose_within {session : SessionId} (h : w.deferSessionClose session = some w') :
    Within w w' := by
  unfold deferSessionClose at h
  obtain ⟨k, -, rfl⟩ := Option.map_eq_some_iff.mp h
  refine .quiet rfl rfl rfl (Prod.ext rfl (Prod.ext ?_ rfl)) rfl
  unfold beside awaited
  dsimp only
  refine map_modify_same ?_ _ k
  intro pending
  rfl

theorem failSession_leads (w : World H) (session : SessionId) (now : Instant) :
    Leads env (w, []) (w.failSession env session now).1.isOk
      ((w.failSession env session now).2, []) := by
  unfold failSession
  split
  next w₁ hd => exact (deferSessionClose_within hd).leads
  next => exact closeSessionState_leads env w session now _

/-- A delivery round is a path, if what resumes after its failure is. -/
theorem deliverUntil_leads {now : Instant}
    {resume : List OutboundDelivery → List SessionId → World H →
      Except MyRoomLifecycleError Unit × World H}
    (hresume : ∀ deliveries failed w, Leads env (w, []) (resume deliveries failed w).1.isOk
      ((resume deliveries failed w).2, []))
    (deliveries : List OutboundDelivery) (failed : List SessionId) (w : World H) :
    Leads env (w, []) (deliverUntil env now resume deliveries failed w).1.isOk
      ((deliverUntil env now resume deliveries failed w).2, []) := by
  induction deliveries generalizing failed w with
  | nil => exact .refl
  | cons delivery rest ih =>
    unfold deliverUntil
    split
    next => exact ih failed w
    next state _ =>
      split
      next => exact (Within.send w delivery).then (ih failed _)
      next =>
        split
        next => exact ih failed w
        next =>
          have hfail := failSession_leads env w delivery.1 now
          split
          next w₁ he =>
            rw [he] at hfail
            exact hfail
          next more w₁ he =>
            rw [he] at hfail
            exact hfail.trans (hresume _ _ w₁)

theorem deliverLoop_leads (now : Instant) (n : Nat) (deliveries : List OutboundDelivery)
    (failed : List SessionId) (w : World H) :
    Leads env (w, []) (deliverLoop env now n deliveries failed w).1.isOk
      ((deliverLoop env now n deliveries failed w).2, []) := by
  induction n generalizing deliveries failed w with
  | zero => exact deliverUntil_leads env (fun _ _ _ => .refl) deliveries failed w
  | succ n ih => exact deliverUntil_leads env ih deliveries failed w

theorem deliver_leads (w : World H) (deliveries : List OutboundDelivery) (now : Instant) :
    Leads env (w, []) (w.deliver env deliveries now).1.isOk
      ((w.deliver env deliveries now).2, []) := deliverLoop_leads env now _ deliveries [] w

theorem thenDeliver_leads {now : Instant} {s : Stage H}
    {stage : Except MyRoomLifecycleError (List OutboundDelivery) × World H}
    (h : Leads env s stage.1.isOk (stage.2, [])) :
    Leads env s (thenDeliver env now stage).1.isOk ((thenDeliver env now stage).2, []) := by
  unfold thenDeliver
  split
  next => exact h
  next deliveries w₁ => exact h.trans (deliver_leads env w₁ deliveries now)

theorem closeSession_leads (w : World H) (session : SessionId) (now : Instant) :
    Leads env (w, []) (w.closeSession env session now).1.isOk
      ((w.closeSession env session now).2, []) :=
  thenDeliver_leads env (closeSessionState_leads env w session now _)

theorem sessionClosed_leads (w : World H) (session : SessionId) (now : Instant) :
    Leads env (w, []) (w.sessionClosed env session now).1.isOk
      ((w.sessionClosed env session now).2, []) := by
  unfold sessionClosed
  split
  next w₁ hd => exact (deferSessionClose_within hd).leads
  next => exact closeSession_leads env w session now

theorem expireMigrations_leads {visit : List Text} (hv : w.identities.registry.Visits visit)
    (now : Instant) (publishWire : Bool) :
    Leads env (w, []) (w.expireMigrations env visit now publishWire).1.isOk
      ((w.expireMigrations env visit now publishWire).2, []) := by
  rcases he : w.identities.registry.expireMigrations visit now with ⟨identities, r⟩
  have hstep : Leads env (w, []) true (w.withRegistry r, identities) := by
    refine releases_leads env (.expire visit now) (.released identities) (actor_step rfl ?_)
      (fun _ => by simp) rfl rfl
    unfold IdentitySystem.actorStep
    dsimp only
    rw [if_pos hv, he]
  unfold World.expireMigrations
  rw [he]
  exact thenDeliver_leads env (hstep.trans (releaseAll_leads env _ _ _ _))

theorem collectDrained_leads (w : World H) (now : Instant) :
    Leads env (w, []) (w.collectDrainedIdentityReleases env now).1.isOk
      ((w.collectDrainedIdentityReleases env now).2, []) := by
  rcases he : w.identities.registry.collectDrainedReleases with ⟨identities, r⟩
  have hstep : Leads env (w, []) true (w.withRegistry r, identities) := by
    refine releases_leads env .collect (.released identities) (actor_step rfl ?_)
      (fun _ => by simp) rfl rfl
    unfold IdentitySystem.actorStep
    dsimp only
    rw [he]
  unfold World.collectDrainedIdentityReleases
  rw [he]
  exact thenDeliver_leads env (hstep.trans (releaseAll_leads env _ _ _ _))

theorem drainSessions_leads {visit : List Text} (hv : w.identities.registry.Visits visit) :
    Leads env (w, []) (survives (w.drainSessionsForShutdown env visit).1)
      ((w.drainSessionsForShutdown env visit).2, []) := by
  unfold drainSessionsForShutdown
  split
  next =>
    split
    next => exact .refl
    next =>
      rcases hd : w.identities.registry.drainActive visit with ⟨released, r⟩
      have hdrain : Leads env (w, []) true ({ w.withRegistry r with sessions := ∅ }, released) := by
        have hsessions : Within w { w with sessions := ∅ } := .quiet rfl rfl rfl rfl rfl
        refine hsessions.then (releases_leads env (.drain visit) (.released released)
          (actor_step rfl ?_) (fun _ => by simp) rfl rfl)
        unfold IdentitySystem.actorStep
        dsimp only
        rw [if_pos hv, hd]
        rfl
      have hrelease := hdrain.trans (releaseAll_leads env released true released _)
      dsimp only
      split
      next w₁ he =>
        rw [he] at hrelease
        exact hrelease
      next w₁ he =>
        rw [he] at hrelease
        split
        next => exact hrelease.weaken fun h => absurd h (by simp [survives])
        next => exact hrelease
  next => exact .refl

end World

end P4475
