import P4475.World.Wire

/-!
# One protocol room

`ProtocolRoomState` and its operations. A method that takes `&mut self` returns
the room it leaves behind.
-/

namespace P4475

open Lib

structure PendingRaceTime where
  playerId : Int
  raceTime : Nat
  packet : Packet
  deriving DecidableEq

structure PendingBeginSettlement where
  endTick : Nat
  excludedUser : Option UserNo
  packet : Packet
  deriving DecidableEq

structure PendingRaceFanout where
  raceTime : Option PendingRaceTime
  beginSettlement : Option PendingBeginSettlement
  deriving DecidableEq

structure SettlementDeadLetterState where
  ranking : Option SettlementRanking
  rewards : List RewardPersistenceEntry
  packets : Option (List Packet)
  failedUserNo : Option UserNo
  failedNickname : Option Text
  reason : RewardTerminalReason
  deriving DecidableEq

inductive SettlementFinalization
  | awaitingDeadline
  | persisting (ranking : SettlementRanking) (rewards : List RewardPersistenceEntry)
  | ready (ranking : SettlementRanking) (rewards : List RewardPersistenceEntry)
      (packets : List Packet)
  | failed (state : SettlementDeadLetterState)
  deriving DecidableEq

/-- `retain_as_dead_letter`. -/
def SettlementFinalization.retainAsDeadLetter (finalization : SettlementFinalization)
    (reason : RewardTerminalReason) (failedUserNo : Option UserNo)
    (failedNickname : Option Text) : SettlementFinalization :=
  match finalization with
  | .persisting ranking rewards =>
    .failed ⟨some ranking, rewards, none, failedUserNo, failedNickname, reason⟩
  | .ready ranking rewards packets =>
    .failed ⟨some ranking, rewards, some packets, failedUserNo, failedNickname, reason⟩
  | .failed state => .failed state
  | .awaitingDeadline => .failed ⟨none, [], none, failedUserNo, failedNickname, reason⟩

structure SettlementState where
  endTick : Nat
  deadline : Instant
  finalization : SettlementFinalization
  deriving DecidableEq

structure RaceProgress where
  finishTimes : Map Int Nat
  settlement : Option SettlementState
  pendingFanouts : List PendingRaceFanout
  deriving DecidableEq

/-- `RaceProgress::default`. -/
def RaceProgress.default : RaceProgress := ⟨∅, none, []⟩

structure ProtocolRoomState where
  id : RoomId
  settings : RoomSettings
  phase : RoomPhase
  raceFence : Option RaceFence
  frozenRace : Option FrozenRaceRoster
  raceProgress : RaceProgress
  loadingHandshake : LoadingHandshake
  roomMaster : Int
  membersById : RoomSlots ProtocolRoomMember
  aisById : RoomSlots RoomAi
  closedSlotsById : RoomSlots (Fin 8)
  observers : RoomSlots ProtocolRoomMember
  slotPositions : RoomSlots (Fin 8)
  randomTrackPool : Option (Nat × Nat)
  randomTracksUsed : List Nat
  lastRandomTrack : Option Nat
  deriving DecidableEq

namespace ProtocolRoomState

/-- `ProtocolRoomState::new`. -/
def new (id : RoomId) (settings : RoomSettings) : ProtocolRoomState where
  id := id
  settings := settings
  phase := .lobby
  raceFence := none
  frozenRace := none
  raceProgress := .default
  loadingHandshake := .dormant
  roomMaster := 0
  membersById := Slots.empty
  aisById := Slots.empty
  closedSlotsById := Slots.empty
  observers := Slots.empty
  slotPositions := Slots.empty
  randomTrackPool := none
  randomTracksUsed := []
  lastRandomTrack := none

/-- `matches!(settings.game_type, 3 | 4)`. -/
def teamMode (room : ProtocolRoomState) : Bool :=
  room.settings.gameType = 3 ∨ room.settings.gameType = 4

/-! ## Lookups -/

/-- `is_empty`. -/
def isEmpty (room : ProtocolRoomState) : Bool :=
  room.membersById.IsEmpty ∧ room.observers.IsEmpty

/-- A member id that neither a member, nor an AI, nor a closed slot uses. -/
def Unused (room : ProtocolRoomState) (i : Fin 8) : Prop :=
  room.membersById i = none ∧ room.aisById i = none ∧ room.closedSlotsById i = none

/-- `vacant_member_id`. -/
def vacantMemberId (room : ProtocolRoomState) : Option (Fin 8) :=
  (List.finRange 8).find? fun i =>
    (room.membersById i).isNone && (room.aisById i).isNone && (room.closedSlotsById i).isNone

/-- `user_nos`. -/
def userNos (room : ProtocolRoomState) : List UserNo :=
  (room.membersById.entries ++ room.observers.entries).map (·.userNo)

/-- `member_id`. -/
def memberId (room : ProtocolRoomState) (userNo : UserNo) : Option (Fin 8) :=
  room.membersById.position (·.userNo = userNo)

/-- `observer_id`. -/
def observerId (room : ProtocolRoomState) (userNo : UserNo) : Option (Fin 8) :=
  room.observers.position (·.userNo = userNo)

/-- `member_by_user_no`. -/
def memberByUserNo (room : ProtocolRoomState) (userNo : UserNo) : Option ProtocolRoomMember :=
  (room.membersById.entries ++ room.observers.entries).find? (·.userNo = userNo)

/-- `member_by_player_id`. -/
def memberByPlayerId (room : ProtocolRoomState) (playerId : Int) : Option ProtocolRoomMember :=
  if h : 0 ≤ playerId ∧ playerId < 8 then
    room.membersById ⟨playerId.toNat, by omega⟩
  else if h : 8 ≤ playerId ∧ playerId < 16 then
    room.observers ⟨(playerId - 8).toNat, by omega⟩
  else none

/-- `equipment_player_id`. -/
def equipmentPlayerId (room : ProtocolRoomState) (userNo : UserNo) : Option Int :=
  match room.memberId userNo with
  | some i => some (memberPlayerId i)
  | none => (room.observerId userNo).map observerPlayerId

/-- `slot_states`. -/
def slotStates (room : ProtocolRoomState) (i : Fin 8) : Int :=
  match room.membersById i with
  | some member => member.player.playerType
  | none =>
    if (room.aisById i).isSome then 7
    else if (room.closedSlotsById i).isSome then 1 else 0

/-- `wire_slot_positions`. -/
def wireSlotPositions (room : ProtocolRoomState) (slot : Fin 8) : Int :=
  (room.slotPositions slot).elim (-1) fun i => (i.val : Int)

/-- `ai_count`. -/
def aiCount (room : ProtocolRoomState) : Nat := room.aisById.entries.length

/-- `closed_slot_ids`. -/
def closedSlotIds (room : ProtocolRoomState) : List Nat :=
  room.closedSlotsById.entries.map (·.val)

/-- `list_entry`. -/
def listEntry (room : ProtocolRoomState) : RoomListEntry where
  roomId := room.id.get
  roomName := room.settings.roomName
  track := room.settings.track
  locked := room.settings.password ≠ []
  gameType := room.settings.gameType
  speedType := room.settings.speedType
  started := room.phase ≠ .lobby
  availableSlots := roomSlotCount
  playerCount := room.membersById.entries.length

/-- `session_data`. -/
def sessionData (room : ProtocolRoomState) : RoomSessionData where
  roomName := room.settings.roomName
  password := room.settings.password
  gameType := room.settings.gameType
  speedType := room.settings.speedType

/-- `slot_data`. -/
def slotData (room : ProtocolRoomState) : RoomSlotData where
  track := room.settings.track
  roomDataHeader := room.settings.roomDataHeader
  roomData := room.settings.roomData
  roomMaster := room.roomMaster
  closedSlotIds := room.closedSlotIds
  membersById := fun i =>
    match room.membersById i with
    | some member => .player member.player
    | none =>
      match room.aisById i with
      | some ai => .ai ai
      | none => if (room.closedSlotsById i).isSome then .closed 1 else .empty
  observers := fun i => (room.observers i).map fun member => {
    playerType := 4
    userNo := member.userNo.get
    p2pAddress := member.player.p2pAddress
    p2pPort := member.player.p2pPort
    nickname := member.player.nickname }
  slotPositions := room.wireSlotPositions

/-! ## Admission -/

/-- The physical slots of a team's half: blue has the first four. -/
def inHalf (team : Nat) (slot : Fin 8) : Bool := if team = 2 then slot.val < 4 else 4 ≤ slot.val

/-- The first free slot among those a predicate admits. -/
def freeSlot (room : ProtocolRoomState) (admits : Fin 8 → Bool) : Option (Fin 8) :=
  (List.finRange 8).find? fun slot => admits slot && (room.slotPositions slot).isNone

/-- `team_count`. -/
def teamCount (room : ProtocolRoomState) (team : Nat) : Nat :=
  room.membersById.entries.countP (·.player.team = team) +
    room.aisById.entries.countP (·.team = team)

/-- `preferred_team`: the smaller one, blue on a tie. -/
def preferredTeam (room : ProtocolRoomState) : Nat :=
  if room.teamCount 2 ≤ room.teamCount 1 then 2 else 1

/-- `admission_slot_and_team`. -/
def admissionSlotAndTeam (room : ProtocolRoomState) : Option (Fin 8 × Nat) :=
  if room.teamMode then
    let preferred := room.preferredTeam
    let other := if preferred = 2 then 1 else 2
    match room.freeSlot (inHalf preferred) with
    | some slot => some (slot, preferred)
    | none => (room.freeSlot (inHalf other)).map (·, other)
  else (room.freeSlot fun _ => true).map (·, 0)

/-- The observer branch of `add_participant`. -/
def addObserver (room : ProtocolRoomState) (userNo : UserNo) (participant : RoomParticipant) :
    Option ProtocolRoomState :=
  room.observers.vacant.map fun i => { room with
    observers := room.observers.put i (some {
      userNo := userNo
      player := { participant.player with playerType := 4, team := 0 }
      floaterCodes := participant.floaterCodes })
    roomMaster := if participant.observerMaster then observerPlayerId i else room.roomMaster }

/-- Seat a racer at a member id and a slot. -/
def seatRacer (room : ProtocolRoomState) (userNo : UserNo) (participant : RoomParticipant)
    (i slot : Fin 8) (team : Nat) : ProtocolRoomState :=
  { room with
    membersById := room.membersById.put i (some {
      userNo := userNo
      player := { participant.player with
        playerType := 2
        team := team
        ranking := room.membersById.entries.length }
      floaterCodes := participant.floaterCodes })
    slotPositions := room.slotPositions.put slot (some i) }

/-- Make a player the master when the recorded one is nobody. -/
def claimMaster (room : ProtocolRoomState) (playerId : Int) : ProtocolRoomState :=
  if room.memberByPlayerId room.roomMaster = none then { room with roomMaster := playerId }
  else room

/-- The racer branch of `add_participant`. -/
def addRacer (room : ProtocolRoomState) (userNo : UserNo) (participant : RoomParticipant) :
    Option ProtocolRoomState :=
  match room.vacantMemberId with
  | none => none
  | some i =>
    (room.admissionSlotAndTeam).map fun (slot, team) =>
      (room.seatRacer userNo participant i slot team).claimMaster (memberPlayerId i)

/-- `add_participant`: `none` is `false`, which leaves the room as it was. -/
def addParticipant (room : ProtocolRoomState) (userNo : UserNo) (participant : RoomParticipant) :
    Option ProtocolRoomState :=
  if participant.observer then room.addObserver userNo participant
  else room.addRacer userNo participant

/-! ## Removal -/

/-- Overwrite the state byte of every member. -/
def resetMembers (room : ProtocolRoomState) : ProtocolRoomState :=
  { room with membersById := room.membersById.modify fun _ member =>
      { member with player := { member.player with playerType := PlayerSlotState.notReady.wire } } }

/-- `assign_next_room_master`: the first racer, else the first observer. -/
def assignNextRoomMaster (room : ProtocolRoomState) : ProtocolRoomState :=
  match room.membersById.occupied.head? with
  | some i => { room with
      roomMaster := memberPlayerId i
      membersById := room.membersById.modify fun j member =>
        if j = i then { member with player := { member.player with
          playerType := PlayerSlotState.notReady.wire } }
        else member }
  | none =>
    match room.observers.occupied.head? with
    | some i => { room with
        roomMaster := observerPlayerId i
        observers := room.observers.modify fun j member =>
          if j = i then { member with player := { member.player with
            playerType := PlayerSlotState.observer.wire } }
          else member }
    | none => { room with roomMaster := -1 }

/-- Give the members at the ids of `order` the rankings `0, 1, …`. -/
def rerank (room : ProtocolRoomState) (order : List (Fin 8)) : ProtocolRoomState :=
  { room with membersById := room.membersById.modify fun i member =>
      if i ∈ order then { member with player := { member.player with
        ranking := (order.idxOf i : Nat) } }
      else member }

/-- A member's recorded ranking; `0` where nobody sits. -/
def rankingOf (room : ProtocolRoomState) (i : Fin 8) : Int :=
  (room.membersById i).elim 0 (·.player.ranking)

/-- The members by recorded ranking, ties by id. -/
def rankedMembers (room : ProtocolRoomState) : List (Fin 8) :=
  sortByKey (fun i => toLex (room.rankingOf i, i)) room.membersById.occupied

/-- Clear the slot a member id occupies, if any. -/
def clearSlotOf (room : ProtocolRoomState) (i : Fin 8) : ProtocolRoomState :=
  match room.slotPositions.position (· = i) with
  | some slot => { room with slotPositions := room.slotPositions.put slot none }
  | none => room

/-- The observer branch of `remove_user`. -/
def removeObserver (room : ProtocolRoomState) (i : Fin 8) : ProtocolRoomState :=
  let next := { room with observers := room.observers.put i none }
  if room.roomMaster = observerPlayerId i then next.assignNextRoomMaster else next

/-- The member branch of `remove_user`. -/
def removeMember (room : ProtocolRoomState) (i : Fin 8) : ProtocolRoomState :=
  let next := { room with membersById := room.membersById.put i none }.clearSlotOf i
  let next :=
    if room.roomMaster = memberPlayerId i then next.assignNextRoomMaster else next
  next.rerank next.rankedMembers

/-- `remove_user`: `none` is `false`, which leaves the room as it was. -/
def removeUser (room : ProtocolRoomState) (userNo : UserNo) : Option ProtocolRoomState :=
  match room.observerId userNo with
  | some i => some (room.removeObserver i)
  | none => (room.memberId userNo).map room.removeMember

/-! ## AIs and closed slots -/

/-- A result of `remove_ai`. -/
inductive AiRemoval
  | absent
  | removed (playerId : Int) (room : ProtocolRoomState)
  /-- The source's `expect`: the AI occupied no slot. -/
  | panicked
  deriving DecidableEq

/-- `remove_ai`. -/
def removeAi (room : ProtocolRoomState) (playerId : Nat) : AiRemoval :=
  if h : playerId < 8 then
    let i : Fin 8 := ⟨playerId, h⟩
    match room.aisById i with
    | none => .absent
    | some _ =>
      match room.slotPositions.position (· = i) with
      | none => .panicked
      | some slot => .removed (memberPlayerId i) { room with
          aisById := room.aisById.put i none
          slotPositions := room.slotPositions.put slot none }
  else .absent

/-- The slots an AI of a team may take. -/
def aiSlots (team : Nat) (slot : Fin 8) : Bool :=
  if team = 2 then slot.val < 4 else if team = 1 then 4 ≤ slot.val else true

/-- One turn of the loop of `add_basic_ais`. -/
def addBasicAi (room : ProtocolRoomState) (team : Nat) (ai : RoomAi) :
    Option (ProtocolRoomState × (Int × RoomAi)) :=
  match room.vacantMemberId with
  | none => none
  | some i =>
    (room.freeSlot (aiSlots team)).map fun slot =>
      let ai := { ai with team := team }
      ({ room with
        aisById := room.aisById.put i (some ai)
        slotPositions := room.slotPositions.put slot (some i) }, (memberPlayerId i, ai))

/-- `add_basic_ais`; a failed second placement loses the copy it worked on. -/
def addBasicAis (room : ProtocolRoomState) (first second : RoomAi) :
    Option (ProtocolRoomState × List (Int × RoomAi)) :=
  if room.teamMode then
    match room.addBasicAi 2 first with
    | none => none
    | some (room, blue) =>
      (room.addBasicAi 1 second).map fun (room, red) => (room, [blue, red])
  else (room.addBasicAi 0 first).map fun (room, ai) => (room, [ai])

/-- The check of one pair in `set_close_slots`. -/
def closeAllowed (room : ProtocolRoomState) (close : Bool) (i slot : Fin 8) : Bool :=
  if close then
    (room.membersById i).isNone && (room.aisById i).isNone && (room.closedSlotsById i).isNone &&
      (room.slotPositions slot).isNone
  else room.closedSlotsById i = some slot ∧ room.slotPositions slot = some i

/-- The update of one pair in `set_close_slots`. -/
def closePair (room : ProtocolRoomState) (close : Bool) (i slot : Fin 8) : ProtocolRoomState :=
  { room with
    closedSlotsById := room.closedSlotsById.put i (if close then some slot else none)
    slotPositions := room.slotPositions.put slot (if close then some i else none) }

/-- A member id and a slot off the wire. -/
def wirePair (memberId slotId : Nat) : Option (Fin 8 × Fin 8) :=
  if h : memberId < 8 ∧ slotId < 8 then some (⟨memberId, h.1⟩, ⟨slotId, h.2⟩) else none

/-- `set_close_slots`: `none` is `false`, which leaves the room as it was. Every
pair is checked before the first is written. -/
def setCloseSlots (room : ProtocolRoomState) (request : CloseSlotRequest) :
    Option ProtocolRoomState :=
  let close := request.operation.isClose
  match wirePair request.firstMemberId request.firstSlotId with
  | none => none
  | some (i, s) =>
    if room.teamMode then
      match wirePair request.secondMemberId request.secondSlotId with
      | none => none
      | some (j, t) =>
        if i = j ∨ s = t then none
        else if room.closeAllowed close i s && room.closeAllowed close j t then
          some ((room.closePair close i s).closePair close j t)
        else none
    else if room.closeAllowed close i s then some (room.closePair close i s)
    else none

/-! ## Presentation -/

/-- Change the first entry of a user, members before observers. -/
def updateUser (room : ProtocolRoomState) (userNo : UserNo)
    (f : ProtocolRoomMember → ProtocolRoomMember) : Option ProtocolRoomState :=
  match room.memberId userNo with
  | some i => some { room with
      membersById := room.membersById.modify fun j m => if j = i then f m else m }
  | none => (room.observerId userNo).map fun i => { room with
      observers := room.observers.modify fun j m => if j = i then f m else m }

/-- Change the result of the first frozen participant that `p` selects. -/
def updateResult (roster : FrozenRaceRoster) (p : FrozenRaceParticipant → Bool)
    (f : FrozenHumanResultSnapshot → FrozenHumanResultSnapshot) : FrozenRaceRoster :=
  { roster with participants :=
      match roster.participants.findIdx? p with
      | none => roster.participants
      | some k => roster.participants.modify k fun participant =>
          { participant with result := participant.result.map f } }

/-- `set_equipment_snapshot`; `none` is `false`. -/
def setEquipmentSnapshot (room : ProtocolRoomState) (userNo : UserNo)
    (snapshot : RiderItemSnapshot) : Option ProtocolRoomState :=
  (room.updateUser userNo fun member =>
    { member with player := { member.player with riderItemSnapshot := snapshot } }).map
  fun room => { room with
    frozenRace := room.frozenRace.map fun frozen =>
      updateResult frozen (·.identity.userNo = userNo) fun result =>
        { result with characterId := snapshot.characterId, kartId := snapshot.kartId } }

/-- `set_main_emblems`; `none` is `false`. -/
def setMainEmblems (room : ProtocolRoomState) (userNo : UserNo) (emblems : Nat × Nat × Nat) :
    Option ProtocolRoomState :=
  room.updateUser userNo fun member =>
    { member with player := { member.player with
      emblem1 := emblems.1, emblem2 := emblems.2.1, emblem3 := emblems.2.2 } }

/-- `set_p2p_endpoint`; `none` is `false`. -/
def setP2pEndpoint (room : ProtocolRoomState) (userNo : UserNo) (address : BitVec 32)
    (port : Nat) : Option ProtocolRoomState :=
  room.updateUser userNo fun member =>
    { member with player := { member.player with p2pAddress := address, p2pPort := port } }

/-- The floater codes of `refresh_room_kart_physics`; the physics blocks beside
them are not modelled. -/
def setFloaterCodes (room : ProtocolRoomState) (userNo : UserNo) (codes : FloaterCodes) :
    Option ProtocolRoomState :=
  room.updateUser userNo fun member => { member with floaterCodes := codes }

/-! ## Track selection -/

/-- `is_random_track_selector`. -/
def isRandomTrackSelector (track : Nat) : Bool :=
  track ∈ [0, 1, 3, 4, 5, 6, 7, 8, 23, 30, 33, 40]

/-- `select_concrete_track`; `draw` stands for the random index, reduced to the
range the source draws from. `none` is `MissingTrackCandidates`. -/
def selectConcreteTrack (room : ProtocolRoomState) (randomTrackCandidates : List Nat)
    (draw : Nat) : Option (Nat × ProtocolRoomState) :=
  if isRandomTrackSelector room.settings.track then
    let candidates := (sortByKey (fun track : Nat => track)
      (randomTrackCandidates.filter fun track => !isRandomTrackSelector track)).dedup
    if candidates = [] then none
    else
      let catalogGameType :=
        if room.settings.gameType = 2 ∨ room.settings.gameType = 4 then 1 else 0
      let pool := (catalogGameType, room.settings.track)
      let samePool : Bool := room.randomTrackPool = some pool
      let used := (if samePool then room.randomTracksUsed else []).filter (· ∈ candidates)
      let last := if samePool then room.lastRandomTrack else none
      let used := if candidates.length ≤ used.length then [] else used
      let available := candidates.filter (· ∉ used)
      let available := if 1 < available.length then available.filter (some · ≠ last) else available
      let available := if available = [] then candidates else available
      let selected := available.getD (draw % available.length) 0
      some (selected, { room with
        randomTrackPool := some pool
        randomTracksUsed := used ++ [selected]
        lastRandomTrack := some selected })
  else some (room.settings.track, { room with
    randomTrackPool := none
    randomTracksUsed := []
    lastRandomTrack := none })

end ProtocolRoomState

end P4475
