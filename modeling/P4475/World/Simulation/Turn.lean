import P4475.World.Simulation.Profiles

/-!
# A turn is a path of strides

The refinement, assembled: whatever the actor does in one turn, with the gate, the lease
of an admitted command and the tasks that share its queues, is at most one seat taken
by the command that asks for it, and then strides, which are a path of world edits.
-/

namespace P4475

open Lib ProtocolRoomState

namespace World

variable {H Q P : Type} (env : WorldEnv H Q P) {w w' : World H}

/-! ## Replies -/

theorem reply_snd {α : Type} (response : Except WorldError α → WorldResponse)
    (r : Except WorldError α × World H) : (reply response r).2.2 = r.2 := by
  rcases r with ⟨_ | _, w⟩ <;> rfl

theorem replyOperation_snd {α : Type} (response : Except WorldError α → WorldResponse)
    (r : Except WorldOperationError α × World H) : (replyOperation response r).2.2 = r.2 := by
  rcases r with ⟨(_ | _) | _, w⟩ <;> rfl

theorem finish_snd {ε α : Type} (r : Except ε α × World H) : (finish r).2.2 = r.2 := by
  rcases r with ⟨_ | _, w⟩ <;> rfl

end World

section Replies

variable {H Q P : Type} (env : WorldEnv H Q P) {w w' : World H}
  {command : WorldCommand Q P} {α : Type}

theorem World.CommandStrides.reply {response : Except WorldError α → WorldResponse}
    {r : Except WorldError α × World H} (h : World.Leads env (w, []) true (r.2, [])) :
    World.CommandStrides env command w (World.reply response r).2.1
      (World.reply response r).2.2 := by
  rw [World.reply_snd]
  exact .leads (h.weaken fun _ => rfl)

theorem World.running_replyOperation (response : Except WorldError α → WorldResponse)
    (r : Except WorldOperationError α × World H)
    (h : (World.replyOperation response r).2.1 = true) : World.survives r.1 = true := by
  rcases r with ⟨(_ | _) | _, w⟩
  · rfl
  · exact absurd h (by simp [World.replyOperation])
  · rfl

theorem World.CommandStrides.replyOperation {response : Except WorldError α → WorldResponse}
    {r : Except WorldOperationError α × World H}
    (h : World.CommandStrides env command w (World.survives r.1) r.2) :
    World.CommandStrides env command w (World.replyOperation response r).2.1
      (World.replyOperation response r).2.2 := by
  rw [World.replyOperation_snd]
  have hok := World.running_replyOperation response r
  cases h with
  | leads h => exact .leads (h.weaken hok)
  | seats takes seated h => exact .seats takes seated (h.weaken hok)

theorem World.Leads.finish {ε : Type} {s : World.Stage H} {r : Except ε α × World H}
    (h : World.Leads env s r.1.isOk (r.2, [])) :
    World.Leads env s (World.finish r).2.1 ((World.finish r).2.2, []) := by
  rcases r with ⟨_ | _, w⟩ <;> exact h

end Replies

namespace World

variable {H Q P : Type} (env : WorldEnv H Q P) {w w' : World H}

/-! ## Commands -/

theorem registerSession_within (w : World H) (state : SessionState) :
    Within w (w.registerSession state).2 := by
  unfold registerSession
  split
  next => exact .refl w
  next => exact .quiet rfl rfl rfl rfl rfl

theorem dispatch_strides {command : WorldCommand Q P} {turn : Turn H}
    (h : w.dispatch env command = some turn) (hk : command.ticketed = false) :
    CommandStrides env command w turn.2.1 turn.2.2 := by
  cases command with
  | updateRandomTracks tracks =>
    cases h
    exact .leads (Within.leads (.quiet rfl rfl rfl rfl rfl))
  | registerSession state =>
    cases h
    exact .reply env (registerSession_within w state).leads
  | sessionClosed session now =>
    cases h
    exact .leads (.finish env (sessionClosed_leads env w session now))
  | claimIdentity session nickname udpEpoch =>
    cases h
    exact .reply env (claimIdentity_leads env w session nickname udpEpoch)
  | preflightMigration destination userNo channelId token now =>
    cases h
    exact .reply env (preflightMigration_leads env w destination userNo channelId token now)
  | roomProtocol session payload visit now =>
    unfold dispatch at h
    dsimp only at h
    split at h
    next =>
      cases h
      exact .replyOperation env (roomProtocol_strides env w session payload visit now)
    next => exact absurd h (by simp)
  | enterClientStage session =>
    cases h
    exact .replyOperation env (.leads (enterClientStage_leads env w session))
  | myroom session request =>
    cases h
    exact .replyOperation env (.leads (myroomRequest_leads env w session request))
  | publishRoomEquipment session snapshot now =>
    cases h
    exact .replyOperation env (.leads (publishRoomEquipment_leads env w session snapshot now))
  | refreshRoomKartPhysics session codes =>
    cases h
    exact .replyOperation env (.leads (refreshRoomKartPhysics_within env w session codes).leads)
  | refreshMyroomPresentation session expected profile =>
    cases h
    exact .replyOperation env (.leads
      ((refreshMyroomPresentation_leads env w session expected profile).weaken fun _ => rfl))
  | lobby session payload =>
    cases h
    exact .reply env (lobbyCommand_within env w session payload).leads
  | race session payload now tick =>
    cases h
    exact .reply env (raceCommand_within env w session payload now tick).leads
  | registerRiderEquipmentWrite session admittedNickname elsewhere =>
    exact absurd hk (by simp [WorldCommand.ticketed])
  | createRoom =>
    cases h
    exact .leads (createRoom_within w).leads
  | joinRoom room identity =>
    cases h
    exact .reply env (joinRoom_within w room identity).leads
  | joinRoomForSession room session =>
    cases h
    exact .reply env (joinRoomForSession_within env w room session).leads
  | leaveRoom identity =>
    cases h
    exact .reply env (leaveRoom_within w identity).leads
  | takeDueRewardTasks visit now maximum =>
    unfold dispatch at h
    dsimp only at h
    split at h
    next =>
      cases h
      exact .reply env (takeDueRewardTasks_leads env w visit now maximum)
    next => exact absurd h (by simp)
  | completeRewardTask completion now =>
    cases h
    exact .replyOperation env (.leads
      ((completeRewardTask_leads env w completion now).weaken fun _ => rfl))
  | retryRewardDeadLetter letter now =>
    cases h
    exact .reply env (retryRewardDeadLetter_within w letter now).leads
  | quiesce =>
    cases h
    exact .leads (Within.leads (.quiet rfl rfl rfl rfl rfl))
  | drainOutboundProducers identityVisit visit now =>
    unfold dispatch at h
    dsimp only at h
    split at h
    next hv =>
      cases h
      exact .replyOperation env
        (.leads (drainOutboundProducersOnce_leads env hv.2 visit now))
    next => exact absurd h (by simp)
  | drainSessions visit =>
    unfold dispatch at h
    dsimp only at h
    split at h
    next hv =>
      cases h
      exact .replyOperation env (.leads (drainSessions_leads env hv))
    next => exact absurd h (by simp)

theorem dispatchCommand_strides {command : WorldCommand Q P} {turn : Turn H}
    (h : w.dispatchCommand env command = some turn) (hk : command.ticketed = false) :
    CommandStrides env command w turn.2.1 turn.2.2 := by
  unfold dispatchCommand at h
  split at h
  next =>
    cases h
    exact .leads .refl
  next => exact dispatch_strides env h hk

theorem CommandStrides.edits {command : WorldCommand Q P} {ok : Bool}
    (h : CommandStrides env command w ok w') : TurnEdits env command.opener w w' := by
  cases h with
  | leads h => exact .edits h.edits
  | seats _ seated h => exact TurnEdits.trans seated.edits h.edits

theorem dispatchCommand_edits {command : WorldCommand Q P} {turn : Turn H}
    (h : w.dispatchCommand env command = some turn) :
    TurnEdits env command.opener w turn.2.2 := by
  cases hk : command.ticketed with
  | false => exact (dispatchCommand_strides env h hk).edits env
  | true =>
    -- the one command that the tickets replace
    cases command with
    | registerRiderEquipmentWrite session admittedNickname elsewhere =>
      obtain ⟨pending, hsame⟩ :=
        registerRiderEquipmentWrite_same env w session admittedNickname elsewhere
      unfold dispatchCommand at h
      split at h
      next =>
        cases h
        exact .edits .refl
      next =>
        cases h
        rw [reply_snd, hsame]
        exact .edits (edits_of_same rfl rfl rfl)
    | _ => exact absurd hk (by simp [WorldCommand.ticketed])

/-- The holder of a lease drops it. -/
theorem dropLease_idles (w : World H) (lease : Nat) : ∃ s,
    w.dropLease lease = { w with identities := s } ∧
      Idles env.unicode env.instantMax w.identities s := by
  unfold dropLease
  split
  next response identities hs =>
    refine ⟨identities, rfl, ?_⟩
    unfold IdentitySystem.leaseStep at hs
    obtain ⟨operation, hl, he⟩ := Option.map_eq_some_iff.mp hs
    cases he
    refine .step (.dropLease lease) .dropped (fun _ => ?_) (fun hn => hn) rfl
    unfold IdentitySystem.step IdentitySystem.leaseStep
    dsimp only
    rw [hl]
    rfl
  next => exact ⟨w.identities, rfl, .refl _⟩

/-- An admitted command is the command, under a binding that it leaves as it was. -/
theorem dispatchAdmitted_edits {lease : Nat} {command : WorldCommand Q P} {turn : Turn H}
    (h : w.dispatchAdmitted env lease command = some turn) :
    TurnEdits env command.opener w turn.2.2 := by
  unfold dispatchAdmitted at h
  obtain ⟨operation, -, h⟩ := Option.bind_eq_some_iff.mp h
  obtain ⟨⟨response, running, next⟩, hd, rfl⟩ := Option.map_eq_some_iff.mp h
  have hcommand : TurnEdits env command.opener (w.withAdmitted (some operation.binding)) next :=
    dispatchCommand_edits env hd
  have hnext : TurnEdits env command.opener w next := by
    refine TurnEdits.congr ?_ ?_ ?_ hcommand <;> rfl
  obtain ⟨s, hs, hidles⟩ := dropLease_idles env (next.withAdmitted w.admittedIdentity) lease
  dsimp only
  rw [hs]
  have hback : WorldEdits env next (next.withAdmitted w.admittedIdentity) :=
    edits_of_same rfl rfl rfl
  exact TurnEdits.trans (TurnEdits.trans hnext hback) (edits_of_registry rfl rfl hidles.evolves)

/-! ## The registry alone -/

/-- No direct step takes the commit guard. -/
theorem direct_guard {s s' : IdentitySystem} {action : IdentityAction}
    {response : IdentityResponse} {unicode : Unicode} {instantMax : Instant}
    (hd : action.direct = true) (hg : s.guard = none)
    (h : s.step unicode instantMax action = some (response, s')) : s'.guard = none := by
  unfold IdentitySystem.step IdentitySystem.leaseStep IdentitySystem.actorStep at h
  rw [hg] at h
  cases action with
  | retain i =>
    cases hl : s.leases[i]? <;> simp [hl] at h
    rw [← h.2]
  | dropLease i =>
    cases hl : s.leases[i]? <;> simp [hl] at h
    rw [← h.2]
  | ensureKnown _ | offlineMyroom _ | admitOperation _ | beginMigration _ _ _ _ =>
    cases h
    rfl
  | abort i =>
    cases hl : s.preflights[i]? <;> simp [hl] at h
    rw [← h.2]
  | dropPreflight i =>
    cases hl : s.preflights[i]? <;> simp [hl] at h
    rw [← h.2]
  | _ => exact absurd hd (by simp [IdentityAction.direct])

/-- A direct step releases nobody, and completes nothing. -/
theorem direct_quiet {s s' : IdentitySystem} {action : IdentityAction}
    {response : IdentityResponse} {unicode : Unicode} {instantMax : Instant}
    (hd : action.direct = true) (hg : s.guard = none)
    (h : s.step unicode instantMax action = some (response, s')) : response.quiet = true := by
  unfold IdentitySystem.step IdentitySystem.leaseStep IdentitySystem.actorStep at h
  rw [hg] at h
  cases action with
  | retain i =>
    cases hl : s.leases[i]? <;> simp [hl] at h
    rw [← h.1]
    rfl
  | dropLease i =>
    cases hl : s.leases[i]? <;> simp [hl] at h
    rw [← h.1]
    rfl
  | ensureKnown _ | offlineMyroom _ | admitOperation _ | beginMigration _ _ _ _ =>
    cases h
    rfl
  | abort i =>
    cases hl : s.preflights[i]? <;> simp [hl] at h
    rw [← h.1]
    rfl
  | dropPreflight i =>
    cases hl : s.preflights[i]? <;> simp [hl] at h
    rw [← h.1]
    rfl
  | _ => exact absurd hd (by simp [IdentityAction.direct])

/-- A direct step is an idle one. -/
theorem identityStep_idles {action : IdentityAction} {turn : Turn H}
    (h : w.identityStep env action = some turn) : ∃ s,
    turn.2.2 = { w with identities := s } ∧ Idles env.unicode env.instantMax w.identities s := by
  unfold identityStep at h
  split at h
  next =>
    cases h
    exact ⟨w.identities, rfl, .refl _⟩
  next chosen _ _ _ =>
    split at h
    next hd =>
      obtain ⟨⟨response, identities⟩, hs, rfl⟩ := Option.map_eq_some_iff.mp h
      refine ⟨identities, rfl, fun hn => ⟨direct_guard hd hn hs, .single ⟨chosen, response, hs, ?_⟩⟩⟩
      exact direct_quiet hd hn hs
    next => exact absurd h (by simp)

theorem flushIdentityLifecycle_leads (w : World H) (now : Instant) :
    Leads env (w, []) (w.flushIdentityLifecycle env now).1.isOk
      ((w.flushIdentityLifecycle env now).2, []) := by
  have hcollect := collectDrained_leads env w now
  unfold flushIdentityLifecycle
  split
  next he =>
    rw [he] at hcollect
    exact hcollect
  next w₁ he =>
    rw [he] at hcollect
    exact hcollect.within (.quiet rfl rfl rfl rfl rfl)

/-! ## Datagrams -/

theorem dispatchUdp_shows (w : World H) (identity : IdentityBinding)
    (timeSync dispatched : Bool) (p2pPort : Option Nat) :
    Shows env w (w.dispatchUdp env identity timeSync dispatched p2pPort).2 := by
  unfold dispatchUdp
  dsimp only
  split
  next =>
    have hport : Shows env w (p2pPort.elim ((.ok (), w) : Except PublicationError Unit × World H)
        (w.recordObservedP2pPort env identity)).2 := by
      cases p2pPort with
      | none => exact .of_within env (.refl w)
      | some port => exact recordObservedP2pPort_shows env w identity port
    split
    next he =>
      rw [he] at hport
      exact hport
    next w₁ he =>
      rw [he] at hport
      split
      next =>
        cases w.loadingReadinessCandidate identity with
        | none => exact hport
        | some candidate => exact hport.trans_within env (markLoadingReady_within w₁ candidate)
      next => exact hport
  next => exact .of_within env (.refl w)

/-- What a datagram shows depends on no lease. -/
theorem Shows.reidentified {s : IdentitySystem} (h : Shows env w w')
    (hs : s.registry = w.identities.registry) :
    Shows env { w with identities := s } { w' with identities := s } := by
  obtain ⟨hhub, hwithin⟩ := h
  have hactive : World.activeIdentity { w with identities := s, myroom := w'.myroom } =
      World.activeIdentity { w with myroom := w'.myroom } := by
    funext userNo
    exact congrArg (·.activeIdentityByUserNo userNo) hs
  exact ⟨hhub, rfl, hwithin.attempts, hactive ▸ hwithin.tables, hwithin.members, rfl,
    hwithin.awaited, hwithin.admitted, fun h => (hwithin.roomIds (h.move (.refl _) rfl)).move
      (.refl _) rfl⟩

/-- A datagram runs under a lease that is dropped before the turn ends. -/
theorem dispatchUdpIngress_shows (w : World H) (userNo : UserNo) (arrivalEpoch : Nat)
    (timeSync dispatched : Bool) (p2pPort : Option Nat) : ∃ s s' w₂,
    Idles env.unicode env.instantMax w.identities s ∧
      Shows env { w with identities := s } w₂ ∧
      Idles env.unicode env.instantMax w₂.identities s' ∧
      (w.dispatchUdpIngress env userNo arrivalEpoch timeSync dispatched p2pPort).2 =
        { w₂ with identities := s' } := by
  have hadmitted : ∀ result r, w.identities.registry.admitUdpOperation userNo arrivalEpoch =
      (result, r) → Idles env.unicode env.instantMax w.identities { w.identities with
        registry := r, leases := IdentitySystem.keep w.identities.leases result } := by
    intro result r he
    refine .actor (.admitUdp userNo arrivalEpoch) (.lease result) rfl ?_ rfl rfl
    unfold IdentitySystem.actorStep
    dsimp only
    rw [he]
  unfold dispatchUdpIngress
  split
  next => exact ⟨_, _, w, .refl _, .of_within env (.refl w), .refl _, rfl⟩
  next =>
    split
    next he => exact ⟨_, _, _, hadmitted _ _ he, .of_within env (.refl _), .refl _, rfl⟩
    next operation r he =>
      have hdispatch := dispatchUdp_shows env (w.withRegistry r) operation.binding timeSync
        dispatched p2pPort
      rcases hd : (w.withRegistry r).dispatchUdp env operation.binding timeSync dispatched
        p2pPort with ⟨result, w₂⟩
      rw [hd] at hdispatch
      have hidentities : w₂.identities = { w.identities with registry := r } :=
        hdispatch.within.identities
      -- the same path, in worlds that hold the lease
      have hheld := hdispatch.reidentified env (s := { w.identities with
        registry := r, leases := w.identities.leases ++ [operation] }) rfl
      refine ⟨_, { w₂.identities with registry := w₂.identities.registry.dropLease operation },
        _, hadmitted _ _ he, hheld, ?_, rfl⟩
      rw [hidentities]
      refine .step (.dropLease w.identities.leases.length) .dropped (fun _ => ?_) (fun hn => hn)
        rfl
      unfold IdentitySystem.step IdentitySystem.leaseStep
      dsimp only
      rw [List.getElem?_concat_length, Option.map_some]
      dsimp only
      rw [eraseIdx_concat]

theorem transport_within (w : World H) (session : SessionId) (event : TransportEvent) :
    Within w (w.transport session event) := by
  unfold transport
  split
  next => exact .refl w
  next => exact .quiet rfl rfl rfl rfl rfl

/-! ## Turns -/

theorem expireMigrations_turn {visit : List Text} {now : Instant} {turn : Turn H}
    (h : w.turn env (.expireMigrations visit now) = some turn) :
    Leads env (w, []) turn.2.1 (turn.2.2, []) := by
  unfold World.turn at h
  dsimp only at h
  split at h
  next =>
    cases h
    exact .refl
  next =>
    split at h
    next hv =>
      cases h
      exact .finish env (expireMigrations_leads env hv now true)
    next => exact absurd h (by simp)

theorem advanceLoading_turn {visit : List RoomId} {awards : RoomId → List Packet}
    {rolls : RoomId → Nat → Nat × Nat} {now : Instant} {tick : Nat} {turn : Turn H}
    (h : w.turn env (.advanceLoading visit awards rolls now tick) = some turn) :
    Within w turn.2.2 := by
  unfold World.turn at h
  dsimp only at h
  split at h
  next hv =>
    cases h
    exact advanceLoading_within env hv.1 w awards rolls now tick
  next => exact absurd h (by simp)

theorem migrationReady_turn {i : Nat} {profile : Option P}
    {acknowledge capacity indexCapacity : Bool} {udpEpoch : Nat} {now : Instant} {turn : Turn H}
    (h : w.turn env (.migrationReady i profile acknowledge capacity indexCapacity udpEpoch now) =
      some turn) : Leads env (w, []) true (turn.2.2, []) := by
  obtain ⟨preflight, hi, rfl⟩ := Option.map_eq_some_iff.mp h
  rw [replyOperation_snd]
  exact completePreflightedMigration_leads env hi profile acknowledge capacity indexCapacity
    udpEpoch now

/-- **One turn of the actor refines the abstract system.** -/
theorem turn_edits {action : WorldAction Q P} {turn : Turn H}
    (h : w.turn env action = some turn) : TurnEdits env action.opener w turn.2.2 := by
  cases action with
  | command command => exact dispatchCommand_edits env h
  | admitted lease command => exact dispatchAdmitted_edits env h
  | identity action =>
    obtain ⟨s, hs, hidles⟩ := identityStep_idles env h
    rw [hs]
    exact .edits (edits_of_registry rfl rfl hidles.evolves)
  | expireMigrations visit now => exact .edits (expireMigrations_turn env h).edits
  | flushIdentityLifecycle now =>
    cases h
    exact .edits (Leads.finish env (flushIdentityLifecycle_leads env w now)).edits
  | advanceLoading visit awards rolls now tick => exact .edits (advanceLoading_turn env h).edits
  | riderEquipment ticket completion now =>
    obtain ⟨pending, -, rfl⟩ := Option.map_eq_some_iff.mp h
    rw [finish_snd]
    have htaken : WorldEdits env w { w with
        pendingRiderEquipmentWrites := w.pendingRiderEquipmentWrites.eraseIdx ticket } :=
      edits_of_same rfl rfl rfl
    exact .edits (htaken.trans
      (finishRiderEquipmentWrite_leads env w ticket pending completion now).edits)
  | mainEmblems expected emblems acknowledgement =>
    cases h
    rw [finish_snd]
    exact .edits (publishDurableMainEmblems_within env w expected emblems acknowledgement).edits
  | profilePresentation expected port =>
    cases h
    rw [finish_snd]
    exact .edits ((publishActiveP2pEndpoint_shows env w expected _).edits env)
  | migrationReady i profile acknowledge capacity indexCapacity udpEpoch now =>
    exact .edits (migrationReady_turn env h).edits
  | udpIngress userNo arrivalEpoch timeSync dispatched p2pPort =>
    cases h
    rw [finish_snd]
    obtain ⟨s, s', w₂, hs, hshows, hs', hend⟩ :=
      dispatchUdpIngress_shows env w userNo arrivalEpoch timeSync dispatched p2pPort
    rw [hend]
    have hstart : WorldEdits env w { w with identities := s } :=
      edits_of_registry rfl rfl hs.evolves
    exact .edits ((hstart.trans (hshows.edits env)).trans
      (edits_of_registry rfl rfl hs'.evolves))
  | transport session event =>
    cases h
    exact .edits (transport_within w session event).edits
  | forceShutdown =>
    cases h
    exact .edits (edits_of_same rfl rfl rfl)

end World

end P4475
