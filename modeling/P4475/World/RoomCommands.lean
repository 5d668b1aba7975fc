import P4475.World.Release

/-!
# Room commands

`room_protocol` (list, create, join, leave, first state), the plain rooms that share
its ids, and the commands that take a user out of a protocol room on the way
somewhere else: client stages, MyRoom entry and migration.
-/

namespace P4475

open Lib

/-- `expected_room_game_type`. -/
def expectedRoomGameType (channelGameType : Nat) : Option Nat :=
  if channelGameType ∈ [67, 23, 14] then some 1
  else if channelGameType ∈ [65, 8] then some 2
  else if channelGameType ∈ [68, 24, 13] then some 3
  else if channelGameType ∈ [66, 7] then some 4
  else none

/-- `channel_default_speed_type`. -/
def channelDefaultSpeedType (channelGameType : Nat) : Nat :=
  if channelGameType ∈ [23, 24] then 4 else 7

/-- `is_ascii_alphanumeric`. -/
def isAsciiAlphanumeric (c : Char) : Bool :=
  ('0' ≤ c ∧ c ≤ '9') ∨ ('a' ≤ c ∧ c ≤ 'z') ∨ ('A' ≤ c ∧ c ≤ 'Z')

/-- `csharp_room_title_speed_type`, from a position whose left neighbour is given.
Every byte that the source compares is ASCII, so characters serve for bytes. -/
def csharpRoomTitleSpeedType : (left : Option Char) → Text → Option Nat
  | left, s :: digit :: rest =>
    if (s = 'S' ∨ s = 's') ∧ '0' ≤ digit ∧ digit ≤ '8' ∧
        left.any isAsciiAlphanumeric = false ∧ rest.head?.any isAsciiAlphanumeric = false then
      [3, 0, 1, 2, 4, 5, 6, 7, 8][digit.toNat - '0'.toNat]?
    else csharpRoomTitleSpeedType (some s) (digit :: rest)
  | _, _ => none

inductive RoomCommandPayload
  | list (request : ChGetRoomListRequest)
  | create (request : ChCreateRoomRequest) (participant : RoomParticipant)
  | join (request : ChJoinRoomRequest) (participant : RoomParticipant)
  | leave
  | firstState

/-- What `protocol_create_room` makes of a request. -/
def ChCreateRoomRequest.settings (request : ChCreateRoomRequest) (channel : ChannelBinding) :
    RoomSettings where
  channel := channel
  roomName := request.roomName
  password := request.password
  gameType := request.gameType
  speedType := (csharpRoomTitleSpeedType none request.roomName).getD
    (channelDefaultSpeedType channel.gameType)
  track := 0
  roomDataHeader := request.roomDataHeader
  roomData := request.roomData

/-- The result of a command from its delivery. -/
def delivered {H : Type} : Except MyRoomLifecycleError Unit × World H →
    Except WorldOperationError Unit × World H
  | (result, w) => (result.mapError .myroom, w)

namespace World

variable {H Q P : Type} (env : WorldEnv H Q P)

/-- `protocol_room_list`. -/
def protocolRoomList (w : World H) (session : SessionId) (identity : IdentityBinding)
    (request : ChGetRoomListRequest) (visit : List RoomId) (now : Instant) :
    Except WorldOperationError Unit × World H :=
  let entries :=
    match identity.channel with
    | none => []
    | some channel =>
      if expectedRoomGameType channel.gameType = some request.roomListType then
        let rooms := (visit.filterMap w.room?).filter fun room =>
          room.settings.channel = channel ∧ room.settings.gameType = request.roomListType
        let rooms := sortByKey (fun room : ProtocolRoomState => room.id.get) rooms
        ((rooms.drop (request.page * 10)).take 10).map (·.listEntry)
      else []
  match env.wire.serialize (.chGetRoomListReply request.page entries) with
  | .error e => (.error (.command (.roomProtocol e)), w)
  | .ok packet => delivered (w.deliver env [(session, [packet])] now)

/-- `prepare_participant`. -/
def prepareParticipant (w : World H) (identity : IdentityBinding)
    (participant : RoomParticipant) : RoomParticipant :=
  let observed := (w.observedP2pPorts.lookup identity.userNo).bind fun (seen, port) =>
    if seen = identity then some port else none
  let endpoint := legacyP2pEndpoint identity.sourceIp
    (observed.getD participant.player.p2pPort)
  { participant with player := { participant.player with
      userNo := identity.userNo.get
      nickname := identity.nickname
      p2pAddress := endpoint.1
      p2pPort := endpoint.2 } }

/-- Put a room with its newcomer into the tables. -/
def admitToRoom (w : World H) (id : RoomId) (room : ProtocolRoomState) (userNo : UserNo) :
    World H :=
  { w with protocol := { w.protocol with
      protocolRooms := w.protocol.protocolRooms.insert id room
      protocolRoomByUser := w.protocol.protocolRoomByUser.insert userNo id } }

/-- The guard of `protocol_create_room`: the channel it creates in. -/
def createChannel (w : World H) (identity : IdentityBinding) (gameType : Nat) :
    Option ChannelBinding :=
  identity.channel.filter fun channel =>
    expectedRoomGameType channel.gameType = some gameType ∧ w.roomOf? identity.userNo = none

/-- `protocol_create_room` up to its reply: whether a room was created. -/
def createRoomState (w : World H) (identity : IdentityBinding) (request : ChCreateRoomRequest)
    (participant : RoomParticipant) : Except WorldOperationError Bool × World H :=
  match w.createChannel identity request.gameType with
  | none => (.ok false, w)
  | some channel =>
    match w.allocateProtocolRoomId with
    | (none, w) => (.ok false, w)
    | (some roomId, w) =>
      let room := ProtocolRoomState.new roomId (request.settings channel)
      match room.addParticipant identity.userNo (w.prepareParticipant identity participant) with
      | none => (.ok false, w.freeRoomId roomId)
      | some room =>
        match env.wire.serialize (.grSlotData room.slotData) with
        | .error e => (.error (.command (.roomProtocol e)), w.freeRoomId roomId)
        | .ok _ => (.ok true, w.admitToRoom roomId room identity.userNo)

/-- `protocol_create_room`. -/
def protocolCreateRoom (w : World H) (session : SessionId) (identity : IdentityBinding)
    (request : ChCreateRoomRequest) (participant : RoomParticipant) (now : Instant) :
    Except WorldOperationError Unit × World H :=
  match w.createRoomState env identity request participant with
  | (.error e, w) => (.error e, w)
  | (.ok created, w) =>
    delivered (w.deliver env [(session, [.chCreateRoomReply created request.gameType])] now)

/-- The lobby, the channel and the room agree that the identity may ask to join. -/
def joinable (room : ProtocolRoomState) (identity : IdentityBinding) : Bool :=
  room.phase = .lobby ∧ ∃ channel ∈ identity.channel, room.settings.channel = channel ∧
    expectedRoomGameType channel.gameType = some room.settings.gameType

/-- The decision of `protocol_join_room`: status, game type, and the room with its
newcomer. -/
def planJoin (w : World H) (identity : IdentityBinding) (request : ChJoinRoomRequest)
    (participant : RoomParticipant) :
    Except WorldOperationError (JoinRoomStatus × Nat × Option ProtocolRoomState) :=
  match w.room? ⟨request.roomId⟩ with
  | none => .ok (.unavailable, 0, none)
  | some room =>
    let gameType := room.settings.gameType
    if joinable room identity = false then .ok (.unavailable, gameType, none)
    else if room.settings.password ≠ [] ∧ room.settings.password ≠ request.password then
      .ok (.wrongPassword, gameType, none)
    else if w.roomOf? identity.userNo ≠ none then .ok (.full, gameType, none)
    else
      match room.addParticipant identity.userNo (w.prepareParticipant identity participant) with
      | none => .ok (.full, gameType, none)
      | some next =>
        match env.wire.serialize (.grSlotData next.slotData) with
        | .error e => .error (.command (.roomProtocol e))
        | .ok _ => .ok (.success, next.settings.gameType, some next)

/-- `protocol_join_room`. -/
def protocolJoinRoom (w : World H) (session : SessionId) (identity : IdentityBinding)
    (request : ChJoinRoomRequest) (participant : RoomParticipant) (now : Instant) :
    Except WorldOperationError Unit × World H :=
  match w.planJoin env identity request participant with
  | .error e => (.error e, w)
  | .ok (status, gameType, replacement) =>
    let w :=
      match replacement with
      | some room => w.admitToRoom ⟨request.roomId⟩ room identity.userNo
      | none => w
    delivered (w.deliver env [(session, [.chJoinRoomReply status gameType])] now)

/-- `protocol_leave_room`. -/
def protocolLeaveRoom (w : World H) (session : SessionId) (identity : IdentityBinding)
    (now : Instant) : Except WorldOperationError Unit × World H :=
  let left := w.roomOf? identity.userNo ≠ none
  let reply : OutboundDelivery := (session, [.chLeaveRoomReply left])
  if left then
    match w.removeProtocolUser env identity.userNo with
    | (.error e, w) => (.error (.myroom e), w)
    | (.ok deliveries, w) => delivered (w.deliver env (reply :: deliveries) now)
  else delivered (w.deliver env [reply] now)

/-- `protocol_first_state`. -/
def protocolFirstState (w : World H) (session : SessionId) (identity : IdentityBinding)
    (now : Instant) : Except WorldOperationError Unit × World H :=
  match w.roomOf? identity.userNo with
  | none => (.ok (), w)
  | some roomId =>
    match w.room? roomId with
    | none => (.error (.myroom (.panicked
        "protocol membership always references an existing room")), w)
    | some room =>
      match env.wire.serialize (.grSessionData room.sessionData),
          env.wire.serialize (.grSlotData room.slotData) with
      | .ok first, .ok second =>
        delivered (w.deliver env [(session, [first, second])] now)
      | .error e, _ => (.error (.command (.roomProtocol e)), w)
      | _, .error e => (.error (.command (.roomProtocol e)), w)

/-- `room_protocol`. -/
def roomProtocol (w : World H) (session : SessionId) (payload : RoomCommandPayload)
    (visit : List RoomId) (now : Instant) : Except WorldOperationError Unit × World H :=
  match w.authorizeSessionOperation env session with
  | .error e => (.error (.command (.identity e)), w)
  | .ok identity =>
    match payload with
    | .list request => w.protocolRoomList env session identity request visit now
    | .create request participant =>
      w.protocolCreateRoom env session identity request participant now
    | .join request participant => w.protocolJoinRoom env session identity request participant now
    | .leave => w.protocolLeaveRoom env session identity now
    | .firstState => w.protocolFirstState env session identity now

/-! ## Plain rooms -/

/-- The loop of `create_room`; the id space is wider than any table. -/
def nextPlainId (w : World H) : Nat → Nat → Option Nat
  | 0, _ => none
  | n + 1, candidate =>
    if w.idTaken ⟨candidate⟩ then w.nextPlainId n (max ((candidate + 1) % 2 ^ 32) 1)
    else some candidate

/-- `create_room`; one more candidate than there are rooms is enough. -/
def createRoom (w : World H) : Option RoomId × World H :=
  match w.nextPlainId (w.rooms.keys.card + w.protocol.protocolRooms.keys.card + 1)
      w.nextRoomId with
  | none => (none, w)
  | some id =>
    (some ⟨id⟩, { w with
      nextRoomId := max ((id + 1) % 2 ^ 32) 1
      protocol := { w.protocol with
        freeProtocolRoomIds := w.protocol.freeProtocolRoomIds.erase id }
      rooms := w.rooms.insert ⟨id⟩ ⟨⟨id⟩, Slots.empty⟩ })

/-- `join_room`. -/
def joinRoom (w : World H) (roomId : RoomId) (identity : Text) :
    Except RoomError (Fin 8) × World H :=
  if w.roomByIdentity.lookup identity ≠ none then (.error (.alreadyJoined identity), w)
  else
    match w.rooms.lookup roomId with
    | none => (.error (.notFound roomId.get), w)
    | some room =>
      match room.slots.vacant with
      | none => (.error (.full roomId.get), w)
      | some slot => (.ok slot, { w with
          rooms := w.rooms.insert roomId { room with slots := room.slots.put slot (some identity) }
          roomByIdentity := w.roomByIdentity.insert identity roomId })

/-- `leave_room`. -/
def leaveRoom (w : World H) (identity : Text) : Except RoomError Unit × World H :=
  match w.roomByIdentity.lookup identity with
  | none => (.error (.notJoined identity), w)
  | some roomId =>
    let w := { w with roomByIdentity := w.roomByIdentity.erase identity }
    match w.rooms.lookup roomId with
    | none => (.error (.notFound roomId.get), w)
    | some room =>
      match room.slots.position (· = identity) with
      | none => (.error (.notJoined identity), w)
      | some slot => (.ok (), { w with
          rooms := w.rooms.insert roomId { room with slots := room.slots.put slot none } })

/-! ## Leaving for somewhere else -/

/-- `commit_client_stage_transition`: reserve, lock, commit the hub and the tables,
publish. -/
def commitStage (w : World H) (next : H) (delta : Option ProtocolMigrationDelta)
    (deliveries : List OutboundDelivery) (unavailable : SessionId → WorldError) :
    Except WorldOperationError Unit × World H :=
  match w.reserve [] deliveries with
  | .error session => (.error (.command (unavailable session)), w)
  | .ok reserved =>
    match lockDelta delta w.protocol with
    | .error e => (.error (.command e), w)
    | .ok () =>
      (.ok (), { w with
        myroom := next
        protocol := w.protocol.commitDelta delta }.publishReserved reserved)

/-- `enter_client_stage`. -/
def enterClientStage (w : World H) (session : SessionId) :
    Except WorldOperationError Unit × World H :=
  match w.authorizeSessionOperation env session with
  | .error e => (.error (.command (.identity e)), w)
  | .ok identity =>
    match env.hub.leave w.myroom identity with
    | .error e => (.error (.myroom e), w)
    | .ok left =>
      match w.planProtocolRoomExit env identity.userNo with
      | .error e => (.error e, w)
      | .ok (delta, deliveries) =>
        match w.myroomDeliveries (left.elim [] (·.2)) [] with
        | .error e => (.error (.myroom e), w)
        | .ok more =>
          w.commitStage (left.elim w.myroom (·.1)) delta (deliveries ++ more)
            .clientStageOutboundUnavailable

/-- The MyRoom commands. Entering leaves the protocol room in the same commit. -/
def myroomRequest (w : World H) (session : SessionId) (request : Q) :
    Except WorldOperationError Unit × World H :=
  match w.authorizeSessionOperation env session with
  | .error e => (.error (.command (.identity e)), w)
  | .ok identity =>
    match env.hub.request w.myroom identity request with
    | .failed e => (.error e, w)
    | .answered packet =>
      w.commitStage w.myroom none [(session, [packet])] .myRoomCommandOutboundUnavailable
    | .stays next fanout =>
      match w.myroomDeliveries fanout [] with
      | .error e => (.error (.myroom e), w)
      | .ok deliveries => w.commitStage next none deliveries .myRoomCommandOutboundUnavailable
    | .enters next fanout =>
      match w.planProtocolRoomExit env identity.userNo with
      | .error e => (.error e, w)
      | .ok (delta, deliveries) =>
        match w.myroomDeliveries fanout [] with
        | .error e => (.error (.myroom e), w)
        | .ok more =>
          w.commitStage next delta (deliveries ++ more) .myRoomCommandOutboundUnavailable

/-- `refresh_myroom_presentation`. -/
def refreshMyroomPresentation (w : World H) (session : SessionId) (expected : IdentityBinding)
    (profile : P) : Except WorldOperationError Unit × World H :=
  match w.authorizeSessionOperation env session with
  | .error e => (.error (.command (.identity e)), w)
  | .ok identity =>
    if identity ≠ expected then (.error (.command (.identity (.staleSession session))), w)
    else
      match env.hub.matchesNickname profile expected.nickname with
      | .error e => (.error (.command (.identity e)), w)
      | .ok false => (.error (.command .myRoomProfileSubjectMismatch), w)
      | .ok true =>
        match env.hub.refresh w.myroom identity profile with
        | .error e => (.error e, w)
        | .ok next => (.ok (), { w with myroom := next })

/-! ## Completing a migration -/

/-- Everything `complete_preflighted_migration_with_acknowledgement` prepares before
it takes its locks. -/
structure PreparedCompletion (H : Type) where
  candidate : MigrationCandidate
  next : H
  delta : Option ProtocolMigrationDelta
  acknowledgement : List OutboundDelivery
  publications : List OutboundDelivery

/-- The checks before the candidate: profile, address, preflight. -/
def checkCompletion (w : World H) (preflight : MigrationPreflight) (profile : Option P)
    (now : Instant) : Except WorldError Unit :=
  match (profile.elim (.ok true) (env.hub.matchesNickname · preflight.nickname) :
      Except IdentityError Bool) with
  | .error e => .error (.identity e)
  | .ok false => .error .myRoomProfileSubjectMismatch
  | .ok true =>
    match w.sessionIp preflight.destinationSession with
    | .error e => .error e
    | .ok ip =>
      if ip ≠ preflight.destinationIp then
        .error (.identity (.sourceIpMismatch preflight.destinationIp ip))
      else
        match w.identities.registry.validatePreflightedMigration preflight now with
        | .error e => .error (.identity e)
        | .ok _ => .ok ()

/-- The closure of `complete_preflighted_migration_with_acknowledgement`;
`capacity` is whether the lifecycle queue can grow. -/
def prepareCompletion (w : World H) (preflight : MigrationPreflight)
    (candidate : MigrationCandidate) (profile : Option P) (acknowledge capacity : Bool) :
    Except WorldOperationError (PreparedCompletion H) :=
  let completion := candidate.completion
  match env.hub.advance w.myroom completion.previousBinding completion.binding profile with
  | .error e => .error (.myroom e)
  | .ok next =>
    match w.planProtocolMigration env completion.binding with
    | .error e => .error e
    | .ok (delta, deliveries) =>
      match w.reserve [] (if acknowledge then
          [(preflight.destinationSession, [.migrationAcknowledgement])] else []) with
      | .error session => .error (.command (.migrationAcknowledgementUnavailable session))
      | .ok acknowledgement =>
        match w.reserve acknowledgement deliveries with
        | .error session => .error (.command (.migrationPublicationUnavailable session))
        | .ok reserved =>
          if capacity then .ok ⟨candidate, next, delta, acknowledgement,
            reserved.drop acknowledgement.length⟩
          else .error (.command .migrationCommitCapacityUnavailable)

/-- `abort_preflighted_migration`. -/
def abortCompletion (w : World H) (preflight : MigrationPreflight) : World H :=
  w.withRegistry (w.identities.registry.abortPreflightedMigration preflight).2

/-- Consume the preflight that a completion was given. -/
def takePreflight (w : World H) (i : Nat) : World H :=
  { w with identities := { w.identities with preflights := w.identities.preflights.eraseIdx i } }

/-- The part of the completion after the identity registry is locked. -/
def commitCompletion (w : World H) (prepared : PreparedCompletion H)
    (commit : IdentityRegistry.IdentityMigrationCommit) (udpEpoch : Nat) :
    Except WorldOperationError MigrationCompletion × World H :=
  let w := w.publishReserved prepared.acknowledgement
  match w.identities.registry.commitMigration commit udpEpoch with
  | (.error e, r) => (.error (.command (.identity e)), w.withRegistry r)
  | (.ok completion, r) =>
    let w := { w.withRegistry r with
      myroom := prepared.next
      protocol := w.protocol.commitDelta prepared.delta
      observedP2pPorts := w.observedP2pPorts.erase completion.binding.userNo
      identityLifecycle := w.identityLifecycle ++
        [IdentityLifecycleEvent.advance completion.previousIdentity completion.binding] }
    let w := completion.previousOwner.elim w w.cancelSession
    (.ok completion, w.publishReserved prepared.publications)

/-- `complete_preflighted_migration_with_acknowledgement`, on the caller's `i`th
preflight. -/
def completePreflightedMigration (w : World H) (i : Nat) (preflight : MigrationPreflight)
    (profile : Option P) (acknowledge capacity indexCapacity : Bool) (udpEpoch : Nat)
    (now : Instant) : Except WorldOperationError MigrationCompletion × World H :=
  let w := w.takePreflight i
  match w.checkCompletion env preflight profile now with
  | .error e => (.error (.command e), w.abortCompletion preflight)
  | .ok () =>
    match w.identities.registry.preparePreflightedMigration preflight now indexCapacity with
    | (.error e, r) => (.error (.command (.identity e)), w.withRegistry r)
    | (.ok candidate, r) =>
      let w := w.withRegistry r
      match w.prepareCompletion env preflight candidate profile acknowledge capacity with
      | .error e => (.error e, w.abortCompletion preflight)
      | .ok prepared =>
        match lockDelta prepared.delta w.protocol with
        | .error e => (.error (.command e), w.abortCompletion preflight)
        | .ok () =>
          match w.identities.registry.lockPreparedMigration preflight candidate now with
          | (.error e, r) => (.error (.command (.identity e)), w.withRegistry r)
          | (.ok commit, r) => (w.withRegistry r).commitCompletion prepared commit udpEpoch

/-- `claim_identity_at_udp_epoch`. -/
def claimIdentity (w : World H) (session : SessionId) (nickname : Text) (udpEpoch : Nat) :
    Except WorldError IdentityBinding × World H :=
  match w.sessionIp session with
  | .error e => (.error e, w)
  | .ok ip =>
    if env.identityCapacity ≤ w.identities.registry.retainedIdentityCount then
      (.error (.identityLimitReached env.identityCapacity), w)
    else
      match w.identities.registry.claimAt env.unicode session ip nickname udpEpoch with
      | (.error e, r) => (.error (.identity e), w.withRegistry r)
      | (.ok binding, r) =>
        (.ok binding, { w.withRegistry r with
          observedP2pPorts := w.observedP2pPorts.erase binding.userNo
          identityLifecycle := w.identityLifecycle ++ [IdentityLifecycleEvent.announce binding] })

end World

end P4475
