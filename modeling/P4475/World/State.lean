import P4475.Identity.System
import P4475.World.Settlement

/-!
# The world's state

`World` with what its protocol-room side reads and writes. The five tables of the
protocol rooms stand together as `ProtocolTables`, the part that a
`ProtocolMigrationCommit` borrows plus the epoch counter.

The MyRoom hub is a parameter: `H` is its state, `Q` a request and `P` a profile
presentation. `MyRoomHubOps` lists the hub methods that a protocol-room path
calls, each as planned and committed in one turn; nothing is assumed of them.
-/

namespace P4475

open Lib

/-- The bounded channel to a session's transport. `permits` are held across
turns; `closed` says that the receiver is gone. -/
structure OutboundQueue where
  capacity : Nat
  queued : List OutboundBatch
  permits : Nat
  closed : Bool
  deriving DecidableEq

/-- `acceptingOutbound` is the flag of the session's `WireOperationGate`, if it has
one; `cancellation` is whether its sender is still there. -/
structure SessionState where
  peer : IpAddr
  cancellation : Bool
  outbound : Option OutboundQueue
  acceptingOutbound : Option Bool
  deriving DecidableEq

/-- Whether the channel has room beyond `held` permits of this turn. -/
def OutboundQueue.available (queue : OutboundQueue) (held : Nat) : Bool :=
  !queue.closed && queue.queued.length + queue.permits + held < queue.capacity

/-- Whether one more batch can be reserved: a channel with room, and a gate, if
any, that still tracks (`track_outbound`). -/
def SessionState.accepts (state : SessionState) (held : Nat) : Bool :=
  state.outbound.any (·.available held) && state.acceptingOutbound.getD true

/-- Put a batch into the channel. -/
def SessionState.enqueue (state : SessionState) (batch : OutboundBatch) : SessionState :=
  { state with outbound := state.outbound.map fun queue =>
      { queue with queued := queue.queued ++ [batch] } }

structure RoomSnapshot where
  id : RoomId
  slots : RoomSlots Text
  deriving DecidableEq

inductive IdentityLifecycleEvent
  | announce (binding : IdentityBinding)
  | advance (previous : ReleasedIdentity) (next : IdentityBinding)
  | release (identity : ReleasedIdentity)
  deriving DecidableEq

structure PendingRiderEquipmentWrite where
  expected : IdentityBinding
  closeRequested : Bool
  deriving DecidableEq

/-- The tables of the protocol rooms. -/
structure ProtocolTables where
  protocolRooms : Map RoomId ProtocolRoomState
  protocolRoomByUser : Map UserNo RoomId
  freeProtocolRoomIds : Finset Nat
  rewardLanes : Map UserNo RaceFence
  nextRaceEpoch : Option GlobalRaceEpoch

/-- A packet for every member of an audience. -/
structure MyRoomFanout where
  audience : List IdentityBinding
  packet : Packet

/-- What the hub makes of a request: an error, a packet for the requester alone,
or a transition with its fan-out; `enters` also leaves the protocol room. -/
inductive MyRoomReply (H : Type)
  | failed (error : WorldOperationError)
  | answered (packet : Packet)
  | stays (next : H) (fanout : List MyRoomFanout)
  | enters (next : H) (fanout : List MyRoomFanout)

structure MyRoomHubOps (H Q P : Type) where
  disconnectReleased : H → ReleasedIdentity → Except MyRoomLifecycleError (H × List MyRoomFanout)
  leave : H → IdentityBinding → Except MyRoomLifecycleError (Option (H × List MyRoomFanout))
  advance : H → IdentityBinding → IdentityBinding → Option P → Except MyRoomLifecycleError H
  refresh : H → IdentityBinding → P → Except WorldOperationError H
  request : H → IdentityBinding → Q → MyRoomReply H
  matchesNickname : P → Text → Except IdentityError Bool
  rp : P → Nat
  rewarded : H → RoomId → UserNo → Text → P →
    Except WorldOperationError (Option (Except MyRoomLifecycleError H))
  equipped : H → IdentityBinding → P → Except MyRoomLifecycleError H
  endpointMoved : H → IdentityBinding → Nat → Except MyRoomLifecycleError H
  presentOwner : H → IdentityBinding → Except MyRoomLifecycleError Bool
  retains : H → Bool

/-- What a world runs in. -/
structure WorldEnv (H Q P : Type) where
  unicode : Unicode
  instantMax : Instant
  wire : Wire
  hub : MyRoomHubOps H Q P
  emptyHub : H
  identityCapacity : Nat

structure World (H : Type) where
  sessions : Map SessionId SessionState
  identities : IdentitySystem
  myroom : H
  rooms : Map RoomId RoomSnapshot
  roomByIdentity : Map Text RoomId
  protocol : ProtocolTables
  observedP2pPorts : Map UserNo (IdentityBinding × Nat)
  identityLifecycle : List IdentityLifecycleEvent
  nextSessionId : Nat
  nextRoomId : Nat
  nextRewardAttemptId : Option RewardAttemptId
  pendingRiderEquipmentWrites : List PendingRiderEquipmentWrite
  randomTracks : Option (Nat → Nat → Bool → List Nat)
  quiescing : Bool
  outboundProducersSealed : Bool
  admittedIdentity : Option IdentityBinding

/-- The attempt id of a fresh world. -/
def RewardAttemptId.first : RewardAttemptId := ⟨1, Nat.one_pos, by decide⟩

/-- `ProtocolTables` of a fresh world. -/
def ProtocolTables.initial : ProtocolTables where
  protocolRooms := ∅
  protocolRoomByUser := ∅
  freeProtocolRoomIds := ∅
  rewardLanes := ∅
  nextRaceEpoch := GlobalRaceEpoch.new 1

namespace World

variable {H Q P : Type}

/-- `World::default`. -/
def initial (hub : H) : World H where
  sessions := ∅
  identities := .initial
  myroom := hub
  rooms := ∅
  roomByIdentity := ∅
  protocol := .initial
  observedP2pPorts := ∅
  identityLifecycle := []
  nextSessionId := 1
  nextRoomId := 1
  nextRewardAttemptId := some RewardAttemptId.first
  pendingRiderEquipmentWrites := []
  randomTracks := none
  quiescing := false
  outboundProducersSealed := false
  admittedIdentity := none

/-! ## Field updates -/

def withRegistry (w : World H) (r : IdentityRegistry) : World H :=
  { w with identities := { w.identities with registry := r } }

def withRooms (w : World H) (rooms : Map RoomId ProtocolRoomState) : World H :=
  { w with protocol := { w.protocol with protocolRooms := rooms } }

/-- `protocol_rooms.get`. -/
def room? (w : World H) (id : RoomId) : Option ProtocolRoomState := w.protocol.protocolRooms.lookup id

/-- `protocol_rooms.insert`. -/
def putRoom (w : World H) (id : RoomId) (room : ProtocolRoomState) : World H :=
  w.withRooms (w.protocol.protocolRooms.insert id room)

/-- `protocol_room_by_user.get`. -/
def roomOf? (w : World H) (userNo : UserNo) : Option RoomId :=
  w.protocol.protocolRoomByUser.lookup userNo

/-- `identities.active_identity_by_user_no`. -/
def activeIdentity (w : World H) (userNo : UserNo) : Option IdentityBinding :=
  w.identities.registry.activeIdentityByUserNo userNo

/-! ## Sessions -/

/-- `register_session_with_operations`. -/
def registerSession (w : World H) (state : SessionState) :
    Except WorldError SessionId × World H :=
  if w.quiescing then (.error .sessionRegistrationClosed, w)
  else
    let session : SessionId := ⟨w.nextSessionId⟩
    (.ok session, { w with
      nextSessionId := max ((w.nextSessionId + 1) % 2 ^ 64) 1
      sessions := w.sessions.insert session state })

/-- `session_ip`. -/
def sessionIp (w : World H) (session : SessionId) : Except WorldError IpAddr :=
  match w.sessions.lookup session with
  | some state => .ok state.peer
  | none => .error (.unknownSession session)

/-- `authorize_session_operation`. -/
def authorizeSessionOperation (env : WorldEnv H Q P) (w : World H) (session : SessionId) :
    Except IdentityError IdentityBinding :=
  match w.admittedIdentity.filter (·.owner = session) with
  | some binding => .ok binding
  | none => w.identities.registry.authorize env.unicode session

/-- `cancel_session`. -/
def cancelSession (w : World H) (session : SessionId) : World H :=
  match w.sessions.lookup session with
  | some state => { w with
      sessions := w.sessions.insert session { state with cancellation := false } }
  | none => w

/-! ## Outbound -/

/-- `reserve_outbound`, on top of the batches `held` that the turn has already
reserved. The permits are the batches themselves, given back by dropping them. -/
def reserve (w : World H) : (held deliveries : List OutboundDelivery) →
    Except SessionId (List OutboundDelivery)
  | held, [] => .ok held
  | held, delivery :: rest =>
    match w.sessions.lookup delivery.1 with
    | none => .error delivery.1
    | some state =>
      if state.accepts (held.countP (·.1 = delivery.1)) then w.reserve (held ++ [delivery]) rest
      else .error delivery.1

/-- `reserve_outbound` with its lobby error. -/
def reserveOutbound (w : World H) (deliveries : List OutboundDelivery) :
    Except LobbyError (List OutboundDelivery) :=
  (w.reserve [] deliveries).mapError .outboundUnavailable

/-- One `permit.send`. -/
def send (w : World H) (delivery : OutboundDelivery) : World H :=
  match w.sessions.lookup delivery.1 with
  | some state => { w with sessions := w.sessions.insert delivery.1 (state.enqueue delivery.2) }
  | none => w

/-- `publish_reserved`. -/
def publishReserved (w : World H) (reserved : List OutboundDelivery) : World H :=
  reserved.foldl send w

/-- `deliveries_for_users`. -/
def deliveriesForUsers (w : World H) (users : List UserNo) (batch : OutboundBatch) :
    List OutboundDelivery :=
  users.filterMap fun userNo => (w.activeIdentity userNo).map fun identity =>
    (identity.owner, batch)

/-- `active_room_sessions`. -/
def activeRoomSessions (w : World H) (room : ProtocolRoomState) :
    Except LobbyError (List (UserNo × SessionId)) :=
  room.userNos.mapM fun userNo =>
    match w.activeIdentity userNo with
    | some identity => .ok (userNo, identity.owner)
    | none => .error (.inactiveRosterMember userNo.get)

/-- `same_batch_for_room`. -/
def sameBatchForRoom (w : World H) (room : ProtocolRoomState) (batch : OutboundBatch) :
    Except LobbyError (List OutboundDelivery) :=
  (w.activeRoomSessions room).map (·.map fun (_, session) => (session, batch))

/-- `requester_then_room_snapshot`. -/
def requesterThenRoomSnapshot (w : World H) (room : ProtocolRoomState) (requester : UserNo)
    (requesterPacket roomSnapshot : Packet) : Except LobbyError (List OutboundDelivery) :=
  (w.activeRoomSessions room).map (·.map fun (userNo, session) =>
    (session, if userNo = requester then [requesterPacket, roomSnapshot] else [roomSnapshot]))

/-- `exact_identity_in_protocol_room`. -/
def exactIdentityInProtocolRoom (w : World H) (roomId : RoomId) (frozen : IdentityBinding) :
    Option IdentityBinding :=
  if w.roomOf? frozen.userNo = some roomId then
    (w.activeIdentity frozen.userNo).filter (· = frozen)
  else none

/-- `active_frozen_recipient_sessions`, of the room's roster. -/
def activeFrozenRecipientSessions (w : World H) (room : ProtocolRoomState)
    (frozen : FrozenRaceRoster) : List (FrozenRaceParticipant × SessionId) :=
  frozen.participants.filterMap fun participant =>
    (w.exactIdentityInProtocolRoom room.id participant.identity).map fun identity =>
      (participant, identity.owner)

end World

end P4475
