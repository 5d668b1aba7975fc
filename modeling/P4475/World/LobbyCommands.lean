import P4475.World.RoomCommands

/-!
# Lobby commands

A lobby command works on a copy of the room, serializes, reserves every queue slot
it needs, and only then installs the copy and publishes. `replaceRoom` is that last
stage; what differs between the commands is how they plan the copy.
-/

namespace P4475

open Lib

inductive LobbyCommandPayload
  | setSlotState (state : PlayerSlotState)
  | changeTeam (team : RoomTeam)
  | changeMaster (nickname : Text)
  | startRoom (plan : StartRoomPlan) (draw : Nat)
  | changeTrack (request : ChangeTrackRequest)
  | basicAi (request : BasicAiRequest) (first second : RoomAi)
  | closeSlot (request : CloseSlotRequest)
  | riderTalk (request : LobbyRiderTalkRequest)
  | macroChat (request : MacroChatRequest) (resolvedMessage : Text)
  | changeRoomInfo (request : ChangeRoomInfoRequest)
  | kick (request : KickRequest)

inductive LobbyCommandOutcome
  | slotStateChanged (roomId : RoomId) (playerId : Int) (state : PlayerSlotState)
  | teamChanged (roomId : RoomId) (playerId : Int) (team : RoomTeam) (slotId : Fin 8)
  | masterChanged (roomId : RoomId) (previousPlayerId nextPlayerId : Int)
  | trackChanged (roomId : RoomId) (track : Nat)
  | basicAiChanged (roomId : RoomId) (changed : Bool) (aiCount : Nat)
  | closedSlotsChanged (roomId : RoomId) (accepted : Bool) (closedCount : Nat)
  | roomInfoChanged (roomId : RoomId)
  | playerKicked (roomId : RoomId) (playerId : Int) (nickname : Text)
  | messageRelayed (roomId : RoomId) (recipients : Nat)
  | started (roomId : RoomId) (raceEpoch concreteTrack racerCount observerCount : Nat)
  deriving DecidableEq

namespace ProtocolRoomState

/-- Overwrite one member's state byte. -/
def setPlayerType (room : ProtocolRoomState) (i : Fin 8) (state : PlayerSlotState) :
    ProtocolRoomState :=
  { room with membersById := room.membersById.modify fun j member =>
      if j = i then { member with player := { member.player with playerType := state.wire } }
      else member }

/-- `require_lobby`. -/
def requireLobby (room : ProtocolRoomState) : Except LobbyError Unit :=
  if room.phase = .lobby then .ok () else .error (.notLobby room.phase)

/-- `require_lobby_master`. -/
def requireLobbyMaster (room : ProtocolRoomState) (userNo : UserNo) : Except LobbyError Int :=
  match room.requireLobby with
  | .error e => .error e
  | .ok () =>
    match room.equipmentPlayerId userNo with
    | none => .error .humanRacerRequired
    | some playerId => if room.roomMaster = playerId then .ok playerId else .error .notRoomMaster

/-- The slots of a `RoomTeam`. -/
def teamRange (team : RoomTeam) (slot : Fin 8) : Bool :=
  match team with
  | .blue => slot.val < 4
  | .red => 4 ≤ slot.val

/-- Move a member to a slot of a team. -/
def moveTeam (room : ProtocolRoomState) (i current target : Fin 8) (team : RoomTeam) :
    ProtocolRoomState :=
  { room with
    slotPositions := (room.slotPositions.put current none).put target (some i)
    membersById := room.membersById.modify fun j member =>
      if j = i then { member with player := { member.player with
        team := team.wire
        playerType := PlayerSlotState.notReady.wire } }
      else member }

/-- The room of `set_slot_state`. -/
def planSlotState (room : ProtocolRoomState) (userNo : UserNo) (state : PlayerSlotState) :
    Except LobbyError (Fin 8 × ProtocolRoomState) :=
  match room.requireLobby with
  | .error e => .error e
  | .ok () =>
    if (room.observerId userNo).isSome then .error .humanRacerRequired
    else
      match state with
      | .observer => .error .observerStateServerOwned
      | .preparing => .error .preparingStateServerOwned
      | _ =>
        match room.memberId userNo with
        | none => .error .humanRacerRequired
        | some i => .ok (i, room.setPlayerType i state)

/-- The room of `change_team`, with the member and the slot it ends up in. -/
def planTeam (room : ProtocolRoomState) (userNo : UserNo) (team : RoomTeam) :
    Except LobbyError (Fin 8 × Fin 8 × ProtocolRoomState) :=
  match room.requireLobby with
  | .error e => .error e
  | .ok () =>
    if room.teamMode = false then .error .teamModeRequired
    else
      match room.memberId userNo with
      | none => .error .humanRacerRequired
      | some i =>
        match room.slotPositions.position (· = i) with
        | none => .error (.panicked "every human racer occupies exactly one physical slot")
        | some current =>
          if (room.membersById i).any (·.player.team = team.wire) then .ok (i, current, room)
          else
            match room.freeSlot (teamRange team) with
            | none => .error (.teamFull team)
            | some target => .ok (i, target, room.moveTeam i current target team)

/-- The room of `change_master`, with the new master. -/
def planMaster (unicode : Unicode) (room : ProtocolRoomState) (userNo : UserNo)
    (targetNickname : Text) : Except LobbyError (Fin 8 × ProtocolRoomState) :=
  match room.requireLobby with
  | .error e => .error e
  | .ok () =>
    match room.memberId userNo with
    | none => .error .humanRacerRequired
    | some requester =>
      if room.roomMaster ≠ memberPlayerId requester then .error .notRoomMaster
      else
        match room.membersById.position fun member =>
            canonicalNicknameKey unicode member.player.nickname =
              canonicalNicknameKey unicode targetNickname with
        | none => .error (.invalidMasterTarget targetNickname)
        | some target => .ok (target, {
            (room.setPlayerType requester .notReady).setPlayerType target .notReady with
            roomMaster := memberPlayerId target })

/-- The room of `change_track`. -/
def withTrack (room : ProtocolRoomState) (request : ChangeTrackRequest) : ProtocolRoomState :=
  { room with settings := { room.settings with
      track := request.track
      roomDataHeader := request.roomDataHeader
      roomData := request.roomData } }

/-- The room of `change_room_info`. -/
def withInfo (room : ProtocolRoomState) (request : ChangeRoomInfoRequest) : ProtocolRoomState :=
  { room with settings := { room.settings with
      roomName := request.roomName
      password := request.password } }

/-- The room of `change_basic_ai`, with its delta packet; `none` is an unchanged
room. -/
def planBasicAi (room : ProtocolRoomState) (request : BasicAiRequest) (first second : RoomAi) :
    Except LobbyError (Option (ProtocolRoomState × Packet)) :=
  match room.removeAi request.playerId with
  | .panicked => .error (.panicked "every actor-owned AI occupies one physical room slot")
  | .removed playerId next =>
    .ok (some (next, .basicAiRemoved playerId next.wireSlotPositions))
  | .absent =>
    match room.addBasicAis first second with
    | none => .ok none
    | some (next, added) => .ok (some (next, .basicAiAdded added next.wireSlotPositions))

end ProtocolRoomState

namespace World

variable {H Q P : Type} (env : WorldEnv H Q P)

/-- A serializer of a lobby command. -/
def lobbyPacket (packet : Packet) : Except LobbyError Packet :=
  (env.wire.serialize packet).mapError .protocol

/-- `protocol_room_id` and the room behind it. -/
def lobbyRoom (w : World H) (identity : IdentityBinding) :
    Except LobbyError (RoomId × ProtocolRoomState) :=
  match w.roomOf? identity.userNo with
  | none => .error .notInRoom
  | some roomId =>
    match w.room? roomId with
    | none => .error (.panicked "protocol membership always references an existing room")
    | some room => .ok (roomId, room)

/-- Reserve, install the copy, publish. -/
def replaceRoom (w : World H) (roomId : RoomId) (next : ProtocolRoomState)
    (deliveries : Except LobbyError (List OutboundDelivery)) (outcome : LobbyCommandOutcome) :
    Except LobbyError LobbyCommandOutcome × World H :=
  match deliveries.bind w.reserveOutbound with
  | .error e => (.error e, w)
  | .ok reserved => (.ok outcome, (w.putRoom roomId next).publishReserved reserved)

/-- `set_slot_state`. -/
def setSlotState (w : World H) (identity : IdentityBinding) (state : PlayerSlotState) :
    Except LobbyError LobbyCommandOutcome × World H :=
  match w.lobbyRoom identity with
  | .error e => (.error e, w)
  | .ok (roomId, room) =>
    match room.planSlotState identity.userNo state with
    | .error e => (.error e, w)
    | .ok (i, next) =>
      let packets := [Packet.slotState next.slotStates,
        .setSlotStateReply identity.userNo.get true (memberPlayerId i) state,
        .grSlotData next.slotData].mapM (lobbyPacket env)
      w.replaceRoom roomId next (packets.bind (w.sameBatchForRoom next))
        (.slotStateChanged roomId (memberPlayerId i) state)

/-- `change_team`. -/
def changeTeam (w : World H) (identity : IdentityBinding) (team : RoomTeam) :
    Except LobbyError LobbyCommandOutcome × World H :=
  match w.lobbyRoom identity with
  | .error e => (.error e, w)
  | .ok (roomId, room) =>
    match room.planTeam identity.userNo team with
    | .error e => (.error e, w)
    | .ok (i, slot, next) =>
      let deliveries := do
        let teamPacket ← lobbyPacket env
          (.changeTeamReply (memberPlayerId i) team next.wireSlotPositions)
        let slotPacket ← lobbyPacket env (.grSlotData next.slotData)
        w.requesterThenRoomSnapshot next identity.userNo teamPacket slotPacket
      w.replaceRoom roomId next deliveries (.teamChanged roomId (memberPlayerId i) team slot)

/-- `change_master`. -/
def changeMaster (w : World H) (identity : IdentityBinding) (targetNickname : Text) :
    Except LobbyError LobbyCommandOutcome × World H :=
  match w.lobbyRoom identity with
  | .error e => (.error e, w)
  | .ok (roomId, room) =>
    match room.planMaster env.unicode identity.userNo targetNickname with
    | .error e => (.error e, w)
    | .ok (target, next) =>
      let packet := lobbyPacket env (.grSlotData next.slotData)
      w.replaceRoom roomId next (packet.bind fun p => w.sameBatchForRoom next [p])
        (.masterChanged roomId room.roomMaster (memberPlayerId target))

/-- `change_track`. -/
def changeTrack (w : World H) (identity : IdentityBinding) (request : ChangeTrackRequest) :
    Except LobbyError LobbyCommandOutcome × World H :=
  match w.lobbyRoom identity with
  | .error e => (.error e, w)
  | .ok (roomId, room) =>
    match room.requireLobbyMaster identity.userNo with
    | .error e => (.error e, w)
    | .ok _ =>
      let next := room.withTrack request
      let packet := lobbyPacket env (.grSlotData next.slotData)
      w.replaceRoom roomId next (packet.bind fun p => w.sameBatchForRoom next [p])
        (.trackChanged roomId request.track)

/-- `change_basic_ai`. -/
def changeBasicAi (w : World H) (identity : IdentityBinding) (request : BasicAiRequest)
    (first second : RoomAi) : Except LobbyError LobbyCommandOutcome × World H :=
  match w.lobbyRoom identity with
  | .error e => (.error e, w)
  | .ok (roomId, room) =>
    match room.requireLobbyMaster identity.userNo with
    | .error e => (.error e, w)
    | .ok _ =>
      match room.planBasicAi request first second with
      | .error e => (.error e, w)
      | .ok none =>
        w.replaceRoom roomId room (w.sameBatchForRoom room [.basicAiReply false])
          (.basicAiChanged roomId false room.aiCount)
      | .ok (some (next, delta)) =>
        w.replaceRoom roomId next
          ((lobbyPacket env delta).bind fun p => w.sameBatchForRoom next [p, .basicAiReply true])
          (.basicAiChanged roomId true next.aiCount)

/-- `change_closed_slots`. -/
def changeClosedSlots (w : World H) (identity : IdentityBinding) (request : CloseSlotRequest) :
    Except LobbyError LobbyCommandOutcome × World H :=
  match w.lobbyRoom identity with
  | .error e => (.error e, w)
  | .ok (roomId, room) =>
    match room.requireLobbyMaster identity.userNo with
    | .error e => (.error e, w)
    | .ok _ =>
      let accepted := room.setCloseSlots request
      let next := accepted.getD room
      let second := if room.teamMode then request.secondMemberId else request.firstMemberId
      let reply := lobbyPacket env (.closeSlotReply identity.userNo.get accepted.isSome
        request.firstMemberId second request.operation next.closedSlotIds)
      w.replaceRoom roomId next (reply.bind fun p => w.sameBatchForRoom next [p])
        (.closedSlotsChanged roomId accepted.isSome next.closedSlotIds.length)

/-- `change_room_info`. -/
def changeRoomInfo (w : World H) (identity : IdentityBinding) (request : ChangeRoomInfoRequest) :
    Except LobbyError LobbyCommandOutcome × World H :=
  match w.lobbyRoom identity with
  | .error e => (.error e, w)
  | .ok (roomId, room) =>
    match room.requireLobbyMaster identity.userNo with
    | .error e => (.error e, w)
    | .ok _ =>
      let next := room.withInfo request
      let reply := lobbyPacket env (.changeRoomInfoReply request)
      w.replaceRoom roomId next (reply.bind fun p => w.sameBatchForRoom next [p])
        (.roomInfoChanged roomId)

/-- The target of `kick_player`. -/
def kickTarget (room : ProtocolRoomState) (playerId : Int) :
    Except LobbyError ProtocolRoomMember :=
  if 0 ≤ playerId ∧ playerId < 8 then
    match room.memberByPlayerId playerId with
    | some member => .ok member
    | none => .error (.invalidKickTarget playerId)
  else .error (.invalidKickTarget playerId)

/-- The deliveries of `kick_player`. -/
def kickDeliveries (w : World H) (identity : IdentityBinding) (target : ProtocolRoomMember)
    (targetSession : SessionId) (next : ProtocolRoomState) :
    Except LobbyError (List OutboundDelivery) := do
  let broadcast ← lobbyPacket env (.kickBroadcast target.player.nickname)
  let slotData ← lobbyPacket env (.grSlotData next.slotData)
  let sessions ← w.activeRoomSessions next
  let others := sessions.map fun (userNo, session) =>
    (session, if userNo = identity.userNo then [broadcast, .kickReply, slotData]
      else [broadcast, slotData])
  let own : OutboundBatch :=
    if target.userNo = identity.userNo then [.chLeaveRoomReply true, .kickReply]
    else [.chLeaveRoomReply true]
  return others ++ [(targetSession, own)]

/-- The tables after `kick_player`. -/
def kickTables (t : ProtocolTables) (roomId : RoomId) (userNo : UserNo)
    (next : ProtocolRoomState) : ProtocolTables :=
  let t := t.dropMembership userNo
  if next.isEmpty then t.removeRoom roomId else t.putRoom roomId next

/-- `kick_player`. -/
def kickPlayer (w : World H) (identity : IdentityBinding) (request : KickRequest) :
    Except LobbyError LobbyCommandOutcome × World H :=
  match w.lobbyRoom identity with
  | .error e => (.error e, w)
  | .ok (roomId, room) =>
    match room.requireLobbyMaster identity.userNo with
    | .error e => (.error e, w)
    | .ok _ =>
      match kickTarget room request.targetPlayerId with
      | .error e => (.error e, w)
      | .ok target =>
        match w.activeIdentity target.userNo with
        | none => (.error (.inactiveRosterMember target.userNo.get), w)
        | some binding =>
          let next := (room.removeUser target.userNo).getD room
          match (w.kickDeliveries env identity target binding.owner next).bind
              w.reserveOutbound with
          | .error e => (.error e, w)
          | .ok reserved =>
            let tables := kickTables w.protocol roomId target.userNo next
            (.ok (.playerKicked roomId request.targetPlayerId target.player.nickname),
              { w with protocol := tables }.publishReserved reserved)

/-- Publish a message to some of the room, changing nothing. -/
def relay (w : World H) (roomId : RoomId)
    (deliveries : Except LobbyError (List OutboundDelivery)) :
    Except LobbyError LobbyCommandOutcome × World H :=
  match deliveries.bind w.reserveOutbound with
  | .error e => (.error e, w)
  | .ok reserved => (.ok (.messageRelayed roomId reserved.length), w.publishReserved reserved)

/-- `relay_rider_talk`. -/
def relayRiderTalk (w : World H) (identity : IdentityBinding) (request : LobbyRiderTalkRequest) :
    Except LobbyError LobbyCommandOutcome × World H :=
  match w.lobbyRoom identity with
  | .error e => (.error e, w)
  | .ok (roomId, room) =>
    match room.equipmentPlayerId identity.userNo with
    | none => (.error .humanRacerRequired, w)
    | some playerId =>
      w.relay roomId do
        let packet ← lobbyPacket env (.lobbyRiderEcho playerId request.message)
        let sessions ← w.activeRoomSessions room
        return (sessions.filter (·.1 ≠ identity.userNo)).map fun (_, session) => (session, [packet])

/-- `relay_macro_chat`. -/
def relayMacroChat (w : World H) (identity : IdentityBinding) (request : MacroChatRequest)
    (resolvedMessage : Text) : Except LobbyError LobbyCommandOutcome × World H :=
  match w.lobbyRoom identity with
  | .error e => (.error e, w)
  | .ok (roomId, room) =>
    match room.memberByUserNo identity.userNo with
    | none => (.error .humanRacerRequired, w)
    | some sender =>
      let senderTeam := sender.player.team
      w.relay roomId do
        let packet ← lobbyPacket env (.macroChatRelay identity.userNo.get request.chatType
          request.messageId resolvedMessage)
        let sessions ← w.activeRoomSessions room
        return (sessions.filter fun (userNo, _) => userNo ≠ identity.userNo ∧
          (request.chatType = 0 ∨ senderTeam = 0 ∨
            (room.memberByUserNo userNo).any (·.player.team = senderTeam))).map
          fun (_, session) => (session, [packet])

/-! ## Starting a race -/

/-- The first racer who may not start, in member order. -/
def startObstacle (w : World H) (room : ProtocolRoomState) (requesterPlayerId : Int) :
    List (Fin 8) → Option LobbyError
  | [] => none
  | i :: rest =>
    match room.membersById i with
    | none => startObstacle w room requesterPlayerId rest
    | some member =>
      if memberPlayerId i ≠ requesterPlayerId ∧
          member.player.playerType ≠ PlayerSlotState.ready.wire then
        some (.racerNotReady member.userNo.get)
      else
        match w.protocol.rewardLanes.lookup member.userNo with
        | some fence =>
          some (.rewardLaneOccupied member.userNo.get fence.roomId.get fence.raceEpoch.get)
        | none => startObstacle w room requesterPlayerId rest

/-- `validate_start_racers`. -/
def validateStartRacers (w : World H) (room : ProtocolRoomState) (requesterPlayerId : Int) :
    Except LobbyError Nat :=
  if room.membersById.entries.length = 0 then .error .noRacers
  else
    match w.startObstacle room requesterPlayerId (List.finRange 8) with
    | some e => .error e
    | none => .ok room.membersById.entries.length

/-- The frozen entry of a racer. -/
def freezeRacer (w : World H) (i : Fin 8) (member : ProtocolRoomMember) :
    Except LobbyError FrozenRaceParticipant :=
  match w.activeIdentity member.userNo with
  | none => .error (.inactiveRosterMember member.userNo.get)
  | some identity => .ok {
      identity := identity
      nickname := member.player.nickname
      playerId := memberPlayerId i
      observer := false
      team := member.player.team
      result := some {
        kartId := member.player.riderItemSnapshot.kartId
        floaterCodes := member.floaterCodes
        characterId := member.player.riderItemSnapshot.characterId
        clubMarkLogo := member.player.clubMarkLogo
        economy := .pending } }

/-- The frozen entry of an observer. -/
def freezeObserver (w : World H) (i : Fin 8) (member : ProtocolRoomMember) :
    Except LobbyError FrozenRaceParticipant :=
  match w.activeIdentity member.userNo with
  | none => .error (.inactiveRosterMember member.userNo.get)
  | some identity => .ok {
      identity := identity
      nickname := member.player.nickname
      playerId := observerPlayerId i
      observer := true
      team := 0
      result := none }

/-- The filled entries of an array with their indices. -/
def numbered {α : Type} (s : RoomSlots α) : List (Fin 8 × α) :=
  (List.finRange 8).filterMap fun i => (s i).map (i, ·)

/-- `freeze_race_roster`. -/
def freezeRaceRoster (w : World H) (room : ProtocolRoomState) (fence : RaceFence)
    (concreteTrack : Nat) : Except LobbyError FrozenRaceRoster :=
  match (numbered room.membersById).mapM fun (i, member) => w.freezeRacer i member with
  | .error e => .error e
  | .ok racers =>
    match (numbered room.observers).mapM fun (i, member) => w.freezeObserver i member with
    | .error e => .error e
    | .ok observers => .ok {
        fence := fence
        concreteTrack := concreteTrack
        participants := racers ++ observers
        ais := (numbered room.aisById).map fun (i, ai) =>
          ⟨memberPlayerId i, ai.team, ai.kart⟩ }

/-- `select_start_track`. -/
def selectStartTrack (room : ProtocolRoomState) (plan : StartRoomPlan) (draw : Nat) :
    Except LobbyError (Nat × ProtocolRoomState) :=
  let catalog := (plan.randomTracks.map fun tracks =>
    tracks room.settings.gameType room.settings.track (room.aiCount ≠ 0)).filter (· ≠ [])
  match room.selectConcreteTrack (catalog.getD plan.randomTrackCandidates) draw with
  | none => .error .missingTrackCandidates
  | some selected => .ok selected

/-- The command-start deliveries of `start_room`. -/
def startDeliveries (identity : IdentityBinding) (room : ProtocolRoomState)
    (frozen : FrozenRaceRoster) : Except LobbyError (List OutboundDelivery) :=
  frozen.participants.mapM fun participant =>
    (lobbyPacket env (.grCommandStart participant.identity.userNo room.sessionData
      { room.slotData with track := frozen.concreteTrack } frozen.concreteTrack)).map fun command =>
        (participant.identity.owner,
          if participant.identity.userNo = identity.userNo then
            [.startRoomReply .success, command]
          else [command])

/-- The epoch after one; the last has none. -/
def followingRaceEpoch (epoch : GlobalRaceEpoch) : Option GlobalRaceEpoch :=
  GlobalRaceEpoch.new (epoch.get + 1)

/-- A room on its way into Loading. -/
def loadingRoom (next : ProtocolRoomState) (fence : RaceFence) (frozen : FrozenRaceRoster) :
    ProtocolRoomState :=
  { next with
    phase := .loading
    raceFence := some fence
    frozenRace := some frozen
    raceProgress := .default
    loadingHandshake := .dormant }

/-- The tables after `start_room`. -/
def startTables (t : ProtocolTables) (roomId : RoomId) (room : ProtocolRoomState)
    (frozen : FrozenRaceRoster) (following : Option GlobalRaceEpoch) : ProtocolTables :=
  { t.putRoom roomId room with
    rewardLanes := frozen.humans.foldl (fun lanes p => lanes.insert p.identity.userNo frozen.fence)
      t.rewardLanes
    nextRaceEpoch := following }

/-- `start_room`. -/
def startRoom (w : World H) (identity : IdentityBinding) (plan : StartRoomPlan) (draw : Nat) :
    Except LobbyError LobbyCommandOutcome × World H :=
  if w.quiescing then (.error .worldQuiescing, w)
  else
    match w.lobbyRoom identity with
    | .error e => (.error e, w)
    | .ok (roomId, room) =>
      match room.requireLobbyMaster identity.userNo with
      | .error e => (.error e, w)
      | .ok requester =>
        if plan.aiSpecs ≠ [] then (.error .aiParticipantsUnsupported, w)
        else
          match w.validateStartRacers room requester with
          | .error e => (.error e, w)
          | .ok racerCount =>
            match w.protocol.nextRaceEpoch with
            | none => (.error .raceEpochExhausted, w)
            | some epoch =>
              let fence : RaceFence := ⟨roomId, epoch⟩
              match selectStartTrack room plan draw with
              | .error e => (.error e, w)
              | .ok (concreteTrack, next) =>
                match w.freezeRaceRoster room fence concreteTrack with
                | .error e => (.error e, w)
                | .ok frozen =>
                  match (startDeliveries env identity room frozen).bind w.reserveOutbound with
                  | .error e => (.error e, w)
                  | .ok reserved =>
                    let tables := startTables w.protocol roomId (loadingRoom next fence frozen)
                      frozen (followingRaceEpoch epoch)
                    (.ok (.started roomId epoch.get concreteTrack racerCount
                      (frozen.participants.countP (·.observer))),
                      { w with protocol := tables }.publishReserved reserved)

/-- `publish_start_rejection`. -/
def publishStartRejection (w : World H) (session : SessionId) : Except LobbyError Unit × World H :=
  match w.reserveOutbound [(session, [.startRoomReply .notAllReady])] with
  | .error e => (.error e, w)
  | .ok reserved => (.ok (), w.publishReserved reserved)

/-- The `StartRoom` arm of `lobby_command`. -/
def lobbyStart (w : World H) (session : SessionId) (identity : IdentityBinding)
    (plan : StartRoomPlan) (draw : Nat) : Except LobbyError LobbyCommandOutcome × World H :=
  let plan := if w.randomTracks.isSome then { plan with randomTracks := w.randomTracks } else plan
  match w.startRoom env identity plan draw with
  | (.ok outcome, w) => (.ok outcome, w)
  | (.error (.outboundUnavailable s), w) => (.error (.outboundUnavailable s), w)
  | (.error e, w) =>
    match w.publishStartRejection session with
    | (.error rejection, w) => (.error rejection, w)
    | (.ok (), w) => (.error e, w)

/-- The commands of `lobby_command`, for an authorized identity. -/
def runLobbyCommand (w : World H) (session : SessionId) (identity : IdentityBinding) :
    LobbyCommandPayload → Except LobbyError LobbyCommandOutcome × World H
  | .setSlotState state => w.setSlotState env identity state
  | .changeTeam team => w.changeTeam env identity team
  | .changeMaster nickname => w.changeMaster env identity nickname
  | .startRoom plan draw => w.lobbyStart env session identity plan draw
  | .changeTrack request => w.changeTrack env identity request
  | .basicAi request first second => w.changeBasicAi env identity request first second
  | .closeSlot request => w.changeClosedSlots env identity request
  | .riderTalk request => w.relayRiderTalk env identity request
  | .macroChat request message => w.relayMacroChat env identity request message
  | .changeRoomInfo request => w.changeRoomInfo env identity request
  | .kick request => w.kickPlayer env identity request

/-- `lobby_command`. -/
def lobbyCommand (w : World H) (session : SessionId) (payload : LobbyCommandPayload) :
    Except WorldError LobbyCommandOutcome × World H :=
  match w.authorizeSessionOperation env session with
  | .error e => (.error (.identity e), w)
  | .ok identity =>
    let (result, w) := w.runLobbyCommand env session identity payload
    (result.mapError .lobby, w)

end World

end P4475
