import P4475.Identity.Types
import P4475.Lib.Slots

/-!
# Protocol-room data

The records of `p4475-server/src/world.rs` and of the `p4475-core` room, lobby and
race protocols that a protocol room stores or reads. A member id, an observer id
and a physical slot index an eight-entry array, so each is a `Fin 8`; the wire's
`i32` player ids are `Int`.
-/

namespace P4475

open Lib

structure RoomId where
  get : Nat
  deriving DecidableEq

/-- A nonzero `u64`. -/
structure GlobalRaceEpoch where
  get : Nat
  pos : 0 < get
  bounded : get ≤ u64Max

theorem GlobalRaceEpoch.ext {a b : GlobalRaceEpoch} (h : a.get = b.get) : a = b := by
  cases a; cases b; cases h; rfl

instance : DecidableEq GlobalRaceEpoch := fun _ _ =>
  decidable_of_iff _ ⟨GlobalRaceEpoch.ext, congrArg GlobalRaceEpoch.get⟩

/-- `GlobalRaceEpoch::new`, with the width of its argument. -/
def GlobalRaceEpoch.new (value : Nat) : Option GlobalRaceEpoch :=
  if h : 0 < value ∧ value ≤ u64Max then some ⟨value, h.1, h.2⟩ else none

structure RaceFence where
  roomId : RoomId
  raceEpoch : GlobalRaceEpoch
  deriving DecidableEq

/-- `ROOM_SLOT_COUNT` and `ROOM_OBSERVER_COUNT` are both eight. -/
def roomSlotCount : Nat := 8

/-- An eight-entry array of a room. -/
abbrev RoomSlots (α : Type) := Slots 8 α

/-- The wire id of a member or an AI. -/
def memberPlayerId (i : Fin 8) : Int := i.val

/-- The wire id of an observer. -/
def observerPlayerId (i : Fin 8) : Int := 8 + i.val

inductive RoomPhase
  | lobby
  | loading
  | running
  | settling
  deriving DecidableEq

inductive PlayerSlotState
  | notReady
  | ready
  | observer
  | preparing
  deriving DecidableEq

/-- The discriminants of `PlayerSlotState`. -/
def PlayerSlotState.wire : PlayerSlotState → Int
  | .notReady => 2
  | .ready => 3
  | .observer => 4
  | .preparing => 5

inductive RoomTeam
  | red
  | blue
  deriving DecidableEq

/-- The discriminants of `RoomTeam`. -/
def RoomTeam.wire : RoomTeam → Nat
  | .red => 1
  | .blue => 2

/-- The first two bytes and the next pair of a snapshot carry the character and
the kart. -/
abbrev RiderItemSnapshot := Vector UInt8 65

/-- `u16::from_le_bytes`. -/
def u16FromLeBytes (low high : UInt8) : Nat := low.toNat + 256 * high.toNat

def RiderItemSnapshot.characterId (s : RiderItemSnapshot) : Nat := u16FromLeBytes s[0] s[1]

def RiderItemSnapshot.kartId (s : RiderItemSnapshot) : Nat := u16FromLeBytes s[4] s[5]

structure RoomPlayer where
  playerType : Int
  userNo : Nat
  p2pAddress : BitVec 32
  p2pPort : Nat
  nickname : Text
  emblem1 : Nat
  emblem2 : Nat
  emblem3 : Nat
  riderItemSnapshot : RiderItemSnapshot
  rp : Nat
  team : Nat
  ranking : Int
  clubMarkLogo : Int
  deriving DecidableEq

structure RoomAi where
  character : Int
  rider : Int
  kart : Int
  balloon : Int
  headBand : Int
  goggle : Int
  team : Nat
  deriving DecidableEq

/-- `[i16; 3]`. -/
abbrev FloaterCodes := Int × Int × Int

structure RoomParticipant where
  player : RoomPlayer
  observer : Bool
  observerMaster : Bool
  floaterCodes : FloaterCodes
  deriving DecidableEq

structure ProtocolRoomMember where
  userNo : UserNo
  player : RoomPlayer
  floaterCodes : FloaterCodes
  deriving DecidableEq

structure RoomSettings where
  channel : ChannelBinding
  roomName : Text
  password : Text
  gameType : Nat
  speedType : Nat
  track : Nat
  roomDataHeader : Nat
  roomData : List UInt8
  deriving DecidableEq

/-! ## Rewards and settlement -/

structure TimeReward where
  earnedRp : Nat
  earnedLucci : Nat
  deriving DecidableEq

structure AppliedTimeReward where
  currentRp : Nat
  earnedRp : Nat
  earnedLucci : Nat
  currentLucci : Nat
  deriving DecidableEq

/-- A nonzero `u64`. -/
structure RewardAttemptId where
  get : Nat
  pos : 0 < get
  bounded : get ≤ u64Max

theorem RewardAttemptId.ext {a b : RewardAttemptId} (h : a.get = b.get) : a = b := by
  cases a; cases b; cases h; rfl

instance : DecidableEq RewardAttemptId := fun _ _ =>
  decidable_of_iff _ ⟨RewardAttemptId.ext, congrArg RewardAttemptId.get⟩

inductive FrozenResultEconomy
  | pending
  | applied (reward : AppliedTimeReward)
  deriving DecidableEq

/-- `applied`. -/
def FrozenResultEconomy.applied? : FrozenResultEconomy → Option AppliedTimeReward
  | .pending => none
  | .applied reward => some reward

structure FrozenHumanResultSnapshot where
  kartId : Nat
  floaterCodes : FloaterCodes
  characterId : Nat
  clubMarkLogo : Int
  economy : FrozenResultEconomy
  deriving DecidableEq

structure FrozenRaceParticipant where
  identity : IdentityBinding
  nickname : Text
  playerId : Int
  observer : Bool
  team : Nat
  result : Option FrozenHumanResultSnapshot
  deriving DecidableEq

structure FrozenAiRaceParticipant where
  playerId : Int
  team : Nat
  kartId : Int
  deriving DecidableEq

structure FrozenRaceRoster where
  fence : RaceFence
  concreteTrack : Nat
  participants : List FrozenRaceParticipant
  ais : List FrozenAiRaceParticipant
  deriving DecidableEq

inductive ResultTeam
  | red
  | blue
  deriving DecidableEq

structure RankedRaceResult where
  finishTime : Nat
  rank : Int
  team : Option ResultTeam
  teamPoints : Int
  deriving DecidableEq

structure SettlementRanking where
  winningTeam : Option ResultTeam
  byPlayerId : Map Int RankedRaceResult
  deriving DecidableEq

inductive RewardPersistenceStatus
  | queued (dueAt : Instant) (failureCount : Nat)
  | inFlight (attemptId : RewardAttemptId) (failureCount : Nat) (leaseDeadline : Instant)
  | durable (reward : AppliedTimeReward)
  deriving DecidableEq

/-- `in_flight_attempt_id`. -/
def RewardPersistenceStatus.inFlightAttemptId : RewardPersistenceStatus → Option RewardAttemptId
  | .inFlight attemptId _ _ => some attemptId
  | .queued _ _ => none
  | .durable _ => none

/-- `matches!(status, Durable(_))`. -/
def RewardPersistenceStatus.isDurable : RewardPersistenceStatus → Bool
  | .durable _ => true
  | .queued _ _ => false
  | .inFlight _ _ _ => false

structure RewardPersistenceEntry where
  userNo : UserNo
  nickname : Text
  canonicalNickname : Text
  playerId : Int
  proposedReward : TimeReward
  status : RewardPersistenceStatus
  deriving DecidableEq

inductive RewardTerminalReason
  | invalidRanking
  | rewardSampling
  | rewardPersistence
  | rewardReceiptMismatch
  | rewardParticipantMissing
  | rewardRetryDeadlineOverflow
  | rewardAttemptIdExhausted
  | rewardAttemptLeaseDeadlineOverflow
  | resultSerialization
  | outboundReservation
  deriving DecidableEq

/-- `permits_persistence_retry`. -/
def RewardTerminalReason.permitsPersistenceRetry (reason : RewardTerminalReason) : Bool :=
  reason = .rewardPersistence

structure FrozenParticipantStamp where
  userNo : UserNo
  generation : IdentityGeneration
  deriving DecidableEq

/-- `FrozenParticipantStamp::from`. -/
def FrozenParticipantStamp.ofIdentity (identity : IdentityBinding) : FrozenParticipantStamp :=
  ⟨identity.userNo, identity.generation⟩

inductive LoadingHandshake
  | dormant
  | awaiting (expected ready : Finset FrozenParticipantStamp) (deadline : Instant)
  | startScheduled (at_ : Instant)
  deriving DecidableEq

/-! ## Requests -/

inductive CloseSlotOperation
  | open_
  | close
  deriving DecidableEq

/-- `is_close`. -/
def CloseSlotOperation.isClose (operation : CloseSlotOperation) : Bool := operation = .close

structure CloseSlotRequest where
  firstMemberId : Nat
  operation : CloseSlotOperation
  firstSlotId : Nat
  secondMemberId : Nat
  secondSlotId : Nat
  deriving DecidableEq

structure BasicAiRequest where
  playerId : Nat
  deriving DecidableEq

structure ChangeTrackRequest where
  track : Nat
  roomDataHeader : Nat
  roomData : List UInt8
  deriving DecidableEq

structure ChangeRoomInfoRequest where
  roomName : Text
  password : Text
  limitTime : Int
  rKeyAllowed : Nat
  deriving DecidableEq

structure KickRequest where
  targetPlayerId : Int
  deriving DecidableEq

structure LobbyRiderTalkRequest where
  message : Text
  deriving DecidableEq

structure MacroChatRequest where
  chatType : Int
  messageId : Nat
  deriving DecidableEq

structure ChGetRoomListRequest where
  page : Nat
  roomListType : Nat
  deriving DecidableEq

structure ChCreateRoomRequest where
  roomName : Text
  password : Text
  gameType : Nat
  roomDataHeader : Nat
  roomData : List UInt8
  deriving DecidableEq

/-- `room_id` is a `u16`. -/
structure ChJoinRoomRequest where
  roomId : Nat
  password : Text
  deriving DecidableEq

inductive JoinRoomStatus
  | success
  | unavailable
  | full
  | wrongPassword
  deriving DecidableEq

inductive StartRoomStatus
  | success
  | notAllReady
  deriving DecidableEq

/-- `randomTracks` is `ResolvedRandomTracks::candidates`, by game type, selector
and presence of AIs; `aiSpecs` are the client's AI parameters. -/
structure StartRoomPlan where
  randomTrackCandidates : List Nat
  randomTracks : Option (Nat → Nat → Bool → List Nat)
  aiSpecs : List (List UInt8)

end P4475
