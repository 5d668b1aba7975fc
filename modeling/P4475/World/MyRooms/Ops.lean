import P4475.World.MyRooms.State

/-!
# The hub of a world

The hub operations that the commands of a world use, each planned on the hub as it is,
committed, and answered with its fan-out. A presentation that the wire cannot carry is
passed over: the refresh is skipped, an advance keeps the presentation before.
-/

namespace P4475

open Lib MyRoom

/-- `myroom_hub_error`. -/
def myroomHubError {α : Type} (operation : String) (x : Except MyRoomHubError α) :
    Except MyRoomLifecycleError α :=
  x.mapError (.hub operation)

structure CharacterPositionRequest where
  slot : Nat
  transform : Vector (BitVec 32) 6
  deriving DecidableEq

/-- `MyRoomPeerCommandPayload`. -/
inductive MyRoomPeerCommandPayload
  | characterPosition (request : CharacterPositionRequest)
  | riderTalk (message : Text)
  deriving DecidableEq

/-- The slots that an ejected visitor is shown. -/
def emptySlots : List MyRoomSlot := List.replicate myroomSlotCount .empty

/-- What a publication sends. -/
def MyRoom.RoomPublication.fanout (publication : RoomPublication) : MyRoomFanout :=
  ⟨publication.audience, .myroom (.slotData publication.snapshot.slots)⟩

/-- What a room effect sends to those who are still there. -/
def MyRoom.RoomEffect.fanout : RoomEffect → List MyRoomFanout
  | .updated publication => [publication.fanout]
  | .deleted _ => []

/-- The packets of `myroom_disconnect_deliveries`. -/
def MyRoom.MyRoomDisconnectOutcome.fanout : MyRoomDisconnectOutcome → List MyRoomFanout
  | .notTracked => []
  | .applied effects =>
    effects.membershipRoom.elim [] RoomEffect.fanout ++
      effects.closedOwnedRoom.elim [] fun closed =>
        [⟨closed.ejected, .myroom (.slotData emptySlots)⟩]

/-- `Err(MyRoomHubError::Wire(_))` is passed over, for what `fallback` makes of it. -/
def skipWire {α : Type} (fallback : Except MyRoomLifecycleError α) (operation : String) :
    Except MyRoomHubError α → Except MyRoomLifecycleError α
  | .ok a => .ok a
  | .error (.wire _) => fallback
  | .error e => .error (.hub operation e)

namespace MyRooms

variable {u : Unicode} (self : MyRooms u)

/-- The MyRoom part of `release_identity_state_with_wire_policy`. -/
def disconnectReleased (identity : ReleasedIdentity) :
    Except MyRoomLifecycleError (MyRooms u × List MyRoomFanout) :=
  (myroomHubError "identity release"
    (self.transition (self.hub.disconnectReleased_planned identity))).map
      fun (outcome, next) => (next.withoutGrant identity.userNo, outcome.fanout)

/-- The MyRoom part of `enter_client_stage`. -/
def leave (identity : IdentityBinding) :
    Except MyRoomLifecycleError (Option (MyRooms u × List MyRoomFanout)) :=
  match self.hub.membershipIfMember identity with
  | .error e => .error (.hub "client-stage membership lookup" e)
  | .ok none => .ok (some (self.withoutGrant identity.userNo, []))
  | .ok (some _) =>
    (myroomHubError "client-stage MyRoom exit"
      (self.transition (self.hub.leave_planned identity))).map
        fun (effects, next) => some (next.withoutGrant identity.userNo, effects.room.fanout)

/-- `advance_migrated_identity_if_tracked` with its commit. -/
def advanceMigrated (operation : String) (previous replacement : IdentityBinding) :
    Except MyRoomLifecycleError (MyRooms u) :=
  myroomHubError operation
    (self.transitionIfAny (self.hub.advanceMigratedIdentityIfTracked_planned previous replacement))

/-- `advance_profiled_identity_if_tracked` with its commit; `fallback` names the advance
without a profile. -/
def advanceProfiled (operation fallback : String) (previous replacement : IdentityBinding)
    (presentation : MyRoomProfilePresentation) : Except MyRoomLifecycleError (MyRooms u) :=
  skipWire (self.advanceMigrated fallback previous replacement) operation
    (self.transitionIfAny
      (self.hub.advanceProfiledIdentityIfTracked_planned previous replacement presentation))

/-- The MyRoom part of `complete_preflighted_migration_with_acknowledgement`. -/
def advance (previous replacement : IdentityBinding) (profile : Option MyRoomProfileLease) :
    Except MyRoomLifecycleError (MyRooms u) :=
  let advanced :=
    match profile with
    | some profile => self.advanceProfiled "identity migration" "identity migration fallback"
        previous replacement profile.presentation
    | none => self.advanceMigrated "identity migration" previous replacement
  advanced.map fun next => next.withoutGrant replacement.userNo

/-- `refresh_profile_if_tracked` with its commit. -/
def refreshProfile (operation : String) (identity : IdentityBinding)
    (presentation : MyRoomProfilePresentation) : Except MyRoomLifecycleError (MyRooms u) :=
  skipWire (.ok self) operation
    (self.transitionIfAny (self.hub.refreshProfileIfTracked_planned identity presentation))

/-- The MyRoom part of `refresh_myroom_presentation`. A canonical identity that another
connection left behind is activated only when it is an offline one. -/
def refresh (identity : IdentityBinding) (profile : MyRoomProfileLease) :
    Except WorldOperationError (MyRooms u) :=
  match self.hub.canonicalIdentityIfTracked identity.userNo with
  | .error e => .error (.myroom (.hub "profile presentation owner query" e))
  | .ok canonical =>
    match canonical.filter fun previous =>
        previous ≠ identity ∧ previous.generation = .offlineMyroom with
    | some previous =>
      (self.advanceProfiled "offline MyRoom owner activation"
        "offline MyRoom owner activation fallback" previous identity
        profile.presentation).mapError .myroom
    | none =>
      (self.refreshProfile "profile presentation refresh" identity
        profile.presentation).mapError .myroom

/-- The packet of `myroom_peer_command`, if it is sent. -/
def peerPacket (audience : PeerAudience) : MyRoomPeerCommandPayload → Option MyRoomPacket
  | .characterPosition request =>
    if request.slot = audience.senderSlot.get then
      some (.characterPosition audience.senderSlot.get request.transform)
    else none
  | .riderTalk message =>
    if audience.riderTalkEnabled then some (.riderEcho audience.senderSlot.get message) else none

/-- The MyRoom part of `myroom_peer_command`. -/
def peer (wire : Wire) (identity : IdentityBinding) (payload : MyRoomPeerCommandPayload) :
    MyRoomReply (MyRooms u) :=
  match self.hub.peerAudienceIfMember identity with
  | .error e => .failed (.myroom (.hub "peer fanout audience" e))
  | .ok none => .stays self []
  | .ok (some audience) =>
    match peerPacket audience payload with
    | none => .stays self []
    | some packet =>
      match wire.serialize (.myroom packet) with
      | .error e => .failed (.myroom (.serialization e))
      | .ok packet => .stays self [⟨audience.peers, packet⟩]

/-- The MyRoom part of the durable arm of `complete_reward_task`. -/
def rewarded (roomId : RoomId) (userNo : UserNo) (canonicalNickname : Text)
    (profile : MyRoomProfileLease) :
    Except WorldOperationError (Option (Except MyRoomLifecycleError (MyRooms u))) :=
  match self.hub.canonicalIdentityIfTracked userNo with
  | .error e => .error (.myroom (.hub "durable reward profile refresh" e))
  | .ok none => .ok none
  | .ok (some identity) =>
    if canonicalNicknameKey u identity.nickname = canonicalNickname then
      match self.refreshProfile "durable reward profile refresh" identity
          profile.presentation with
      | .error e => .error (.myroom e)
      | .ok next => .ok (some (.ok next))
    else .error (.command (.rewardSchedulerInvariant roomId.get userNo.get))

/-- The hub part of `publish_active_p2p_endpoint`. -/
def endpointMoved (identity : IdentityBinding) (port : Nat) :
    Except MyRoomLifecycleError (MyRooms u) :=
  myroomHubError "P2P endpoint publication"
    (self.transitionIfAny (self.hub.refreshP2pEndpointIfTracked_planned identity port))

/-- The hub part of `publish_durable_main_emblems`. -/
def presentOwner (identity : IdentityBinding) : Except MyRoomLifecycleError Bool :=
  (myroomHubError "main-emblem publication" (self.hub.membershipIfMember identity)).map
    (·.any (·.isPresentOwner identity.userNo))

/-- Whether a room, a membership or a generation is left. -/
def retains : Bool :=
  self.hub.rooms.keys.card ≠ 0 ∨ self.hub.memberships.keys.card ≠ 0 ∨
    self.hub.generations.keys.card ≠ 0

/-- The hub operations of a world. The publications of durable writes have errors of
their own without the name of an operation. -/
def ops (u : Unicode) (wire : Wire) :
    MyRoomHubOps (MyRooms u) MyRoomPeerCommandPayload MyRoomProfileLease where
  disconnectReleased := disconnectReleased
  leave := leave
  advance := advance
  refresh := refresh
  request self identity payload := self.peer wire identity payload
  matchesNickname := MyRoomProfileLease.matchesNickname u
  rp profile := profile.presentation.rp
  rewarded := rewarded
  equipped self identity profile :=
    self.refreshProfile "rider-equipment publication" identity profile.presentation
  endpointMoved := endpointMoved
  presentOwner := presentOwner
  retains := retains

end MyRooms

/-- What a server's world runs in. -/
structure ServerEnv (u : Unicode) where
  instantMax : Instant
  wire : Wire
  identityCapacity : Nat

/-- The environment with the hub in its place. -/
def ServerEnv.world {u : Unicode} (env : ServerEnv u) :
    WorldEnv (MyRooms u) MyRoomPeerCommandPayload MyRoomProfileLease where
  unicode := u
  instantMax := env.instantMax
  wire := env.wire
  hub := MyRooms.ops u env.wire
  emptyHub := .initial u env.identityCapacity
  identityCapacity := env.identityCapacity

/-- A server's world. -/
abbrev ServerWorld (u : Unicode) := World (MyRooms u)

end P4475
