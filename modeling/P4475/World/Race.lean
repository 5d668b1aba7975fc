import P4475.World.LobbyCommands

/-!
# Loading, racing, settling

A race goes from Loading (the client handshake) through Running to Settling, and
back to the lobby once its rewards are durable and the ceremony is queued. The
heartbeat drives it; race commands and the readiness reports arrive in between.
Item pickups, race objects, the booster gauge and the game-slot relay are not
modelled: they touch none of the fields below.
-/

namespace P4475

open Lib

/-- `LOADING_READY_TIMEOUT`. -/
def loadingReadyTimeout : Nat := 30 * 10 ^ 9

/-- `RACE_START_DELAY`. -/
def raceStartDelay : Nat := 10 ^ 9

/-- `RACE_START_TICK_LEAD`. -/
def raceStartTickLead : Nat := 3000

/-- `SETTLEMENT_DELAY`. -/
def settlementDelay : Nat := 10 * 10 ^ 9

/-- `SETTLEMENT_TICK_LEAD`. -/
def settlementTickLead : Nat := 10000

/-- `Instant::checked_add`. -/
def checkedAdd (instantMax now delay : Nat) : Option Instant :=
  if now + delay ≤ instantMax then some (now + delay) else none

inductive RaceCommandPayload
  | gameControl (state : Int) (value0 : UInt32)
  | aiGoalIn (playerId : Int) (raceTime : UInt32)

inductive RaceCommandOutcome
  | ignoredDuplicate (roomId : RoomId) (raceEpoch : Nat)
  | loadingAwaiting (roomId : RoomId) (raceEpoch expectedParticipants : Nat)
  | finishRecorded (roomId : RoomId) (raceEpoch : Nat) (playerId : Int) (beganSettlement : Bool)
  deriving DecidableEq

structure LoadingReadinessCandidate where
  roomId : RoomId
  raceEpoch : GlobalRaceEpoch
  participant : FrozenParticipantStamp
  deriving DecidableEq

/-- `time_reward_from_rolls`. -/
def timeRewardFromRolls (playerRanking rpRoll lucciRoll : Nat) : Option TimeReward :=
  if 50 < rpRoll ∨ 500 < lucciRoll then none
  else
    let bonus := 8 - playerRanking
    some ⟨min (rpRoll + bonus / 3) 50, min (lucciRoll + bonus * 3) 500⟩

namespace ProtocolRoomState

/-- Replace the settlement's finalization, if a settlement is there. -/
def setFinalization (room : ProtocolRoomState)
    (f : SettlementFinalization → SettlementFinalization) : ProtocolRoomState :=
  { room with raceProgress := { room.raceProgress with
      settlement := room.raceProgress.settlement.map fun s =>
        { s with finalization := f s.finalization } } }

/-- The finalization of a settlement. -/
def finalization? (room : ProtocolRoomState) : Option SettlementFinalization :=
  room.raceProgress.settlement.map (·.finalization)

/-- The room once a settlement begins. -/
def beginSettlement (room : ProtocolRoomState) (endTick : Nat) (deadline : Instant)
    (finish : Option PendingRaceTime) (excluded : Option UserNo) : ProtocolRoomState :=
  { room with
    phase := .settling
    raceProgress := { room.raceProgress with
      settlement := some ⟨endTick, deadline, .awaitingDeadline⟩
      pendingFanouts := room.raceProgress.pendingFanouts ++
        [⟨finish, some ⟨endTick, excluded, .gameControl .beginSettlement endTick⟩⟩] } }

/-- The room with one more finish. -/
def withFinish (room : ProtocolRoomState) (playerId : Int) (raceTime : Nat) : ProtocolRoomState :=
  { room with raceProgress := { room.raceProgress with
      finishTimes := room.raceProgress.finishTimes.insert playerId raceTime } }

/-- The room with a finish to fan out and no settlement to announce. -/
def pushFinish (room : ProtocolRoomState) (finish : PendingRaceTime) : ProtocolRoomState :=
  { room with raceProgress := { room.raceProgress with
      pendingFanouts := room.raceProgress.pendingFanouts ++ [⟨some finish, none⟩] } }

/-- The room after its fan-outs are queued. -/
def clearFanouts (room : ProtocolRoomState) : ProtocolRoomState :=
  { room with raceProgress := { room.raceProgress with pendingFanouts := [] } }

/-- The room at the start of its race. -/
def startRunning (room : ProtocolRoomState) : ProtocolRoomState :=
  { room with phase := .running, loadingHandshake := .dormant }

/-- `reconcile_loading_handshake`. -/
def reconcileLoadingHandshake (instantMax : Instant) (room : ProtocolRoomState)
    (activeStamps : Finset FrozenParticipantStamp) (now : Instant) : ProtocolRoomState :=
  match room.loadingHandshake with
  | .awaiting expected ready deadline =>
    let expected := expected ∩ activeStamps
    let ready := ready ∩ expected
    let next := { room with loadingHandshake := .awaiting expected ready deadline }
    if ready.card = expected.card ∨ deadline ≤ now then
      match checkedAdd instantMax now raceStartDelay with
      | some at_ => { room with loadingHandshake := .startScheduled at_ }
      | none => next
    else next
  | .dormant => room
  | .startScheduled _ => room

/-- The reward entry that `plan_reward_persistence` gives a racer. -/
def planReward (unicode : Unicode) (ranking : SettlementRanking) (now : Instant)
    (humanCount : Nat) (participant : FrozenRaceParticipant) (rolls : Nat × Nat) :
    Except RaceError RewardPersistenceEntry :=
  match ranking.byPlayerId.lookup participant.playerId with
  | none => .error (.invalidSettlementRoster humanCount)
  | some ranked =>
    if ranked.rank < 0 then .error (.invalidSettlementRoster humanCount)
    else
      match timeRewardFromRolls ranked.rank.toNat rolls.1 rolls.2 with
      | none => .error (.rewardSampling participant.playerId)
      | some reward => .ok {
          userNo := participant.identity.userNo
          nickname := participant.nickname
          canonicalNickname := canonicalNicknameKey unicode participant.nickname
          playerId := participant.playerId
          proposedReward := reward
          status := .queued now 0 }

/-- `plan_reward_persistence`; `rolls` are the draws, by racer. -/
def planRewardPersistence (unicode : Unicode) (room : ProtocolRoomState) (now : Instant)
    (rolls : Nat → Nat × Nat) :
    Except RaceError (SettlementRanking × List RewardPersistenceEntry) :=
  match room.settlementRanking with
  | .error e => .error e
  | .ok ranking =>
    match room.frozenRace with
    | none => .error (.invalidSettlementRoster 0)
    | some frozen =>
      let humans := frozen.humans
      if 1 ≤ humans.length ∧ humans.length ≤ roomSlotCount then
        (humans.zipIdx.mapM fun (participant, k) =>
          planReward unicode ranking now humans.length participant (rolls k)).map (ranking, ·)
      else .error (.invalidSettlementRoster humans.length)

/-- The racer that a failed sampling names. -/
def sampledParticipant (room : ProtocolRoomState) (error : RaceError) :
    Option FrozenRaceParticipant :=
  match error with
  | .rewardSampling playerId =>
    room.frozenRace.bind fun frozen =>
      frozen.participants.find? fun p => !p.observer && p.playerId = playerId
  | _ => none

/-- `begin_reward_persistence`. -/
def beginRewardPersistence (unicode : Unicode) (room : ProtocolRoomState) (now : Instant)
    (rolls : Nat → Nat × Nat) : ProtocolRoomState :=
  if room.finalization? = some .awaitingDeadline then
    match room.planRewardPersistence unicode now rolls with
    | .ok (ranking, rewards) => room.setFinalization fun _ => .persisting ranking rewards
    | .error e =>
      let reason : RewardTerminalReason :=
        match e with
        | .rewardSampling _ => .rewardSampling
        | _ => .invalidRanking
      let failed := room.sampledParticipant e
      room.setFinalization (·.retainAsDeadLetter reason (failed.map (·.identity.userNo))
        (failed.map (·.nickname)))
  else room

/-- The check of `record_finish` against a settlement that has closed. -/
def settlementClosed (room : ProtocolRoomState) (now : Instant) : Bool :=
  room.phase = .settling && room.raceProgress.settlement.any fun s =>
    decide (s.deadline ≤ now ∨ s.finalization ≠ .awaitingDeadline)

end ProtocolRoomState

namespace World

variable {H Q P : Type} (env : WorldEnv H Q P)

/-- Change a room that is there. -/
def updateRoom (w : World H) (id : RoomId) (f : ProtocolRoomState → ProtocolRoomState) : World H :=
  match w.room? id with
  | some room => w.putRoom id (f room)
  | none => w

/-! ## Readiness -/

/-- `loading_readiness_candidate`. -/
def loadingReadinessCandidate (w : World H) (identity : IdentityBinding) :
    Option LoadingReadinessCandidate :=
  if w.activeIdentity identity.userNo = some identity then
    match (w.roomOf? identity.userNo) with
    | none => none
    | some roomId =>
      match w.room? roomId with
      | none => none
      | some room =>
        match room.frozenRace, room.loadingHandshake with
        | some frozen, .awaiting expected _ _ =>
          let stamp := FrozenParticipantStamp.ofIdentity identity
          if room.phase = .loading ∧ room.raceFence = some frozen.fence ∧
              (∃ p ∈ frozen.participants, p.identity = identity) ∧ stamp ∈ expected then
            some ⟨roomId, frozen.fence.raceEpoch, stamp⟩
          else none
        | _, _ => none
  else none

/-- `mark_loading_ready`. -/
def markLoadingReady (w : World H) (candidate : LoadingReadinessCandidate) : World H :=
  match w.activeIdentity candidate.participant.userNo with
  | none => w
  | some active =>
    if FrozenParticipantStamp.ofIdentity active = candidate.participant then
      match w.room? candidate.roomId with
      | none => w
      | some room =>
        match room.frozenRace, room.loadingHandshake with
        | some frozen, .awaiting expected ready deadline =>
          if room.phase = .loading ∧ room.raceFence.map (·.raceEpoch) = some candidate.raceEpoch ∧
              frozen.fence.raceEpoch = candidate.raceEpoch ∧
              (∃ p ∈ frozen.participants, p.identity = active) ∧
              candidate.participant ∈ expected then
            w.putRoom candidate.roomId { room with
              loadingHandshake := .awaiting expected (insert candidate.participant ready) deadline }
          else w
        | _, _ => w
    else w

/-- A time-sync datagram that was answered, from an identity. -/
def udpReadiness (w : World H) (identity : IdentityBinding) : World H :=
  match w.loadingReadinessCandidate identity with
  | some candidate => w.markLoadingReady candidate
  | none => w

/-! ## Race commands -/

/-- `arm_loading`. -/
def armLoading (w : World H) (roomId : RoomId) (room : ProtocolRoomState)
    (identity : IdentityBinding) (now : Instant) :
    Except RaceError RaceCommandOutcome × World H :=
  if room.phase ≠ .loading then (.error (.wrongPhase room.phase), w)
  else
    match room.frozenRace with
    | none => (.error (.panicked "a Loading room always has a frozen roster"), w)
    | some frozen =>
      if ∃ p ∈ frozen.participants, p.identity = identity then
        if room.loadingHandshake = .dormant then
          match checkedAdd env.instantMax now loadingReadyTimeout with
          | none => (.error .raceDeadlineOverflow, w)
          | some deadline =>
            let expected := (frozen.participants.map fun p =>
              FrozenParticipantStamp.ofIdentity p.identity).toFinset
            (.ok (.loadingAwaiting roomId frozen.fence.raceEpoch.get expected.card),
              w.putRoom roomId { room with loadingHandshake := .awaiting expected ∅ deadline })
        else (.ok (.ignoredDuplicate roomId frozen.fence.raceEpoch.get), w)
      else (.error .notFrozenParticipant, w)

/-- The packets that a fan-out owes a participant. -/
def fanoutPackets (participant : FrozenRaceParticipant) (fanout : PendingRaceFanout) :
    List Packet :=
  (fanout.raceTime.map (·.packet)).toList ++
    ((fanout.beginSettlement.filter (·.excludedUser ≠ some participant.identity.userNo)).map
      (·.packet)).toList

/-- The deliveries of `try_flush_pending_race_fanouts`. -/
def fanoutDeliveries (w : World H) (room : ProtocolRoomState) (frozen : FrozenRaceRoster) :
    List OutboundDelivery :=
  (w.activeFrozenRecipientSessions room frozen).filterMap fun (participant, session) =>
    let packets := room.raceProgress.pendingFanouts.flatMap (fanoutPackets participant)
    if packets = [] then none else some (session, packets)

/-- `try_flush_pending_race_fanouts`; without a roster the source would panic, and
nothing is flushed. -/
def tryFlushPendingRaceFanouts (w : World H) (roomId : RoomId) : Bool × World H :=
  match w.room? roomId with
  | none => (false, w)
  | some room =>
    if room.raceProgress.pendingFanouts = [] then (true, w)
    else
      match room.frozenRace with
      | none => (false, w)
      | some frozen =>
        match w.reserve [] (w.fanoutDeliveries room frozen) with
        | .error _ => (false, w)
        | .ok reserved => (true, (w.putRoom roomId room.clearFanouts).publishReserved reserved)

/-- `record_finish`. -/
def recordFinish (w : World H) (roomId : RoomId) (room : ProtocolRoomState)
    (frozen : FrozenRaceRoster) (playerId : Int) (raceTime : UInt32) (excluded : Option UserNo)
    (now : Instant) (tick : Nat) : Except RaceError RaceCommandOutcome × World H :=
  let raceEpoch := frozen.fence.raceEpoch.get
  if room.settlementClosed now then (.error .settlementClosed, w)
  else if room.raceProgress.finishTimes.lookup playerId ≠ none then
    (.ok (.ignoredDuplicate roomId raceEpoch), w)
  else
    let began : Bool := room.phase = .running
    let endTick := wrappingAdd32 tick settlementTickLead
    let deadline := checkedAdd env.instantMax now settlementDelay
    if began = true ∧ deadline = none then (.error .settlementDeadlineOverflow, w)
    else
      match env.wire.serialize (.gameRaceTime playerId raceTime.toNat) with
      | .error e => (.error (.protocol e), w)
      | .ok packet =>
        if roomSlotCount ≤ room.raceProgress.pendingFanouts.countP (·.raceTime.isSome) then
          (.error .pendingRaceFanoutFull, w)
        else
          let finish : PendingRaceTime := ⟨playerId, raceTime.toNat, packet⟩
          let room := room.withFinish playerId raceTime.toNat
          let room :=
            if began then room.beginSettlement endTick (deadline.getD now) (some finish) excluded
            else room.pushFinish finish
          let (_, w) := (w.putRoom roomId room).tryFlushPendingRaceFanouts roomId
          (.ok (.finishRecorded roomId raceEpoch playerId began), w)

/-- `record_human_finish`. -/
def recordHumanFinish (w : World H) (roomId : RoomId) (room : ProtocolRoomState)
    (identity : IdentityBinding) (raceTime : UInt32) (now : Instant) (tick : Nat) :
    Except RaceError RaceCommandOutcome × World H :=
  if room.phase ≠ .running ∧ room.phase ≠ .settling then (.error (.notRunning room.phase), w)
  else
    match room.frozenRace with
    | none => (.error (.panicked "an active race has a frozen roster"), w)
    | some frozen =>
      match frozen.participants.find? (·.identity = identity) with
      | none => (.error .notFrozenParticipant, w)
      | some participant =>
        if participant.observer then (.error .humanRacerRequired, w)
        else w.recordFinish env roomId room frozen participant.playerId raceTime
          (some identity.userNo) now tick

/-- `record_ai_finish`. -/
def recordAiFinish (w : World H) (roomId : RoomId) (room : ProtocolRoomState)
    (identity : IdentityBinding) (playerId : Int) (raceTime : UInt32) (now : Instant)
    (tick : Nat) :
    Except RaceError RaceCommandOutcome × World H :=
  if room.phase ≠ .running ∧ room.phase ≠ .settling then (.error (.notRunning room.phase), w)
  else
    match room.frozenRace with
    | none => (.error (.panicked "an active race has a frozen roster"), w)
    | some frozen =>
      if ∃ p ∈ frozen.participants, p.identity = identity then
        if ∃ ai ∈ frozen.ais, ai.playerId = playerId then
          w.recordFinish env roomId room frozen playerId raceTime none now tick
        else (.error (.noFrozenAiParticipant playerId), w)
      else (.error .notFrozenParticipant, w)

/-- `race_command_with_clock`, without its booster and game-slot arms. -/
def raceCommand (w : World H) (session : SessionId) (payload : RaceCommandPayload)
    (now : Instant) (tick : Nat) : Except WorldError RaceCommandOutcome × World H :=
  match w.authorizeSessionOperation env session with
  | .error e => (.error (.identity e), w)
  | .ok identity =>
    match w.roomOf? identity.userNo with
    | none => (.error (.race .notInRoom), w)
    | some roomId =>
      match w.room? roomId with
      | none => (.error (.race (.panicked
          "protocol membership always references an existing room")), w)
      | some room =>
        let (result, w) :=
          match payload with
          | .gameControl state value =>
            if state = 0 then w.armLoading env roomId room identity now
            else if state = 2 then
              w.recordHumanFinish env roomId room identity value now tick
            else (.error (.unsupportedGameControlState state), w)
          | .aiGoalIn playerId raceTime =>
            w.recordAiFinish env roomId room identity playerId raceTime now tick
        (result.mapError .race, w)

/-! ## The heartbeat -/

/-- `abort_loading_room`. -/
def abortLoadingRoom (w : World H) (roomId : RoomId) : World H :=
  match w.room? roomId with
  | none => w
  | some room =>
    { w with protocol :=
      (w.protocol.releaseFence room.raceFence).putRoom roomId room.abortLoading }

/-- `active_frozen_participant_stamps`. -/
def activeFrozenParticipantStamps (w : World H) (roomId : RoomId) (frozen : FrozenRaceRoster) :
    Finset FrozenParticipantStamp × Nat :=
  let active := frozen.participants.filter fun participant =>
    (w.exactIdentityInProtocolRoom roomId participant.identity).isSome
  ((active.map fun p => FrozenParticipantStamp.ofIdentity p.identity).toFinset,
    active.countP (!·.observer))

/-- The deliveries of `try_start_scheduled_room`. -/
def raceStartDeliveries (w : World H) (roomId : RoomId) (frozen : FrozenRaceRoster)
    (batch : OutboundBatch) : List OutboundDelivery :=
  frozen.participants.filterMap fun participant =>
    (w.exactIdentityInProtocolRoom roomId participant.identity).map fun identity =>
      (identity.owner, batch)

/-- The scheduled start has come. -/
def startDue (handshake : LoadingHandshake) (now : Instant) : Bool :=
  match handshake with
  | .startScheduled at_ => at_ ≤ now
  | .dormant => false
  | .awaiting _ _ _ => false

/-- `try_start_scheduled_room`; `awards` are the starting items it draws. -/
def tryStartScheduledRoom (w : World H) (roomId : RoomId) (awards : List Packet) (now : Instant)
    (tick : Nat) : World H :=
  match w.room? roomId with
  | none => w
  | some room =>
    match room.frozenRace with
    | none => w
    | some frozen =>
      if startDue room.loadingHandshake now then
        let batch := [Packet.aiMasterNotice,
          .gameControl .raceStart (wrappingAdd32 tick raceStartTickLead)] ++
          if room.settings.gameType = 2 ∨ room.settings.gameType = 4 then awards else []
        match w.reserve [] (w.raceStartDeliveries roomId frozen batch) with
        | .error _ => w
        | .ok reserved => (w.putRoom roomId room.startRunning).publishReserved reserved
      else w

/-- `advance_loading_room`. -/
def advanceLoadingRoom (w : World H) (roomId : RoomId) (awards : List Packet) (now : Instant)
    (tick : Nat) : World H :=
  match (w.room? roomId).bind (·.frozenRace) with
  | none => w
  | some frozen =>
    let (stamps, humans) := w.activeFrozenParticipantStamps roomId frozen
    if humans = 0 then w.abortLoadingRoom roomId
    else
      (w.updateRoom roomId fun room =>
        room.reconcileLoadingHandshake env.instantMax stamps now).tryStartScheduledRoom
          roomId awards now tick

/-- `reconcile_running_room`. -/
def reconcileRunningRoom (w : World H) (roomId : RoomId) (now : Instant) (tick : Nat) : World H :=
  match (w.room? roomId).bind (·.frozenRace) with
  | none => w
  | some frozen =>
    if (w.activeFrozenParticipantStamps roomId frozen).2 ≠ 0 then w
    else w.updateRoom roomId fun room =>
      room.beginSettlement (wrappingAdd32 tick settlementTickLead)
        ((checkedAdd env.instantMax now settlementDelay).getD now) none none

/-- The tables after `try_finalize_settlement`. -/
def finalizeTables (t : ProtocolTables) (roomId : RoomId) (room : ProtocolRoomState)
    (ranking : SettlementRanking) : ProtocolTables :=
  let t := t.releaseFence room.raceFence
  if room.isEmpty then t.removeRoom roomId
  else t.putRoom roomId (room.finalizeSettlement ranking)

/-- `try_finalize_settlement`. -/
def tryFinalizeSettlement (w : World H) (roomId : RoomId) : World H :=
  let (flushed, w) := w.tryFlushPendingRaceFanouts roomId
  if flushed then
    match w.room? roomId with
    | none => w
    | some room =>
      match room.finalization?, room.frozenRace with
      | some (.ready ranking _ packets), some frozen =>
        let deliveries := (w.activeFrozenRecipientSessions room frozen).map
          fun (_, session) => (session, packets)
        match w.reserve [] deliveries with
        | .error _ => w
        | .ok reserved =>
          { w with protocol := finalizeTables w.protocol roomId room ranking
          }.publishReserved reserved
      | _, _ => w
  else w

/-- What the heartbeat does with a room that is racing. -/
def advanceActiveRoom (w : World H) (roomId : RoomId) (now : Instant)
    (rolls : Nat → Nat × Nat) : World H :=
  match w.room? roomId with
  | none => w
  | some room =>
    let reached : Bool := room.phase = .settling &&
      room.raceProgress.settlement.any fun s => decide (s.deadline ≤ now)
    if reached then
      (w.updateRoom roomId fun room =>
        room.beginRewardPersistence env.unicode now rolls).tryFinalizeSettlement roomId
    else (w.tryFlushPendingRaceFanouts roomId).2

/-- The rooms among `visit` that are in one of some phases. -/
def roomsIn (w : World H) (visit : List RoomId) (phases : List RoomPhase) : List RoomId :=
  visit.filter fun id => (w.room? id).any fun room => room.phase ∈ phases

/-- `advance_loading`. `visit` is the walk of the room table, `awards` and `rolls`
are what the random sources draw for a room. -/
def advanceLoading (w : World H) (visit : List RoomId) (awards : RoomId → List Packet)
    (rolls : RoomId → Nat → Nat × Nat) (now : Instant) (tick : Nat) : World H :=
  if w.quiescing then w
  else
    let w := (w.roomsIn visit [.loading]).foldl
      (fun w id => w.advanceLoadingRoom env id (awards id) now tick) w
    let w := (w.roomsIn visit [.running]).foldl
      (fun w id => w.reconcileRunningRoom env id now tick) w
    (w.roomsIn visit [.running, .settling]).foldl
      (fun w id => w.advanceActiveRoom env id now (rolls id)) w

/-! ## Quiescing -/

/-- `quiesce`. -/
def quiesce (w : World H) : World H := { w with quiescing := true }

/-- A room with something still to publish. -/
def hasPendingWire (room : ProtocolRoomState) : Bool :=
  room.raceProgress.pendingFanouts ≠ [] ||
    match room.finalization? with
    | some (.ready _ _ _) => true
    | _ => false

/-- `drain_outbound_producers_once`. `identityVisit` walks the identities and
`visit` the rooms. -/
def drainOutboundProducersOnce (w : World H) (identityVisit : List Text) (visit : List RoomId)
    (now : Instant) : Except WorldOperationError Bool × World H :=
  if w.quiescing = false then
    (.error (.command .outboundProducerDrainRequiresQuiesce), w)
  else if w.outboundProducersSealed then (.ok true, w)
  else
    let deadline := (checkedAdd env.instantMax now migrationTtl).getD now
    match w.expireMigrations env identityVisit deadline false with
    | (.error e, w) => (.error (.myroom e), w)
    | (.ok (), w) =>
      let pending := visit.filter fun id => (w.room? id).any hasPendingWire
      let w := pending.foldl tryFinalizeSettlement w
      let drained : Bool := visit.all (fun id => !(w.room? id).any hasPendingWire) &&
        w.pendingRiderEquipmentWrites = [] &&
        w.identities.registry.transferInProgressCount = 0 &&
        w.identities.registry.outstandingOperationCount = 0
      (.ok drained, { w with outboundProducersSealed := w.outboundProducersSealed || drained })

end World

end P4475
