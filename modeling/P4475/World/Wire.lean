import P4475.MyRoom.Packets
import P4475.World.Types

/-!
# Outbound packets

A packet is the value its serializer is given; the bytes are not modelled. A
serializer that can fail is one that a `Wire` may make refuse, so whatever holds
for every `Wire` holds for the real encoders.

Left out of `grCommandStart` are the kart-physics block and the AI parameters,
which nothing here reads; a `Wire` sees the recipient and may refuse on their
account.
-/

namespace P4475

open Lib

/-- `WireRoomMember`. -/
inductive RoomMember
  | player (player : RoomPlayer)
  | ai (ai : RoomAi)
  | closed (playerType : Int)
  | empty
  deriving DecidableEq

structure RoomObserver where
  playerType : Int
  userNo : Nat
  p2pAddress : BitVec 32
  p2pPort : Nat
  nickname : Text
  deriving DecidableEq

structure RoomSlotData where
  track : Nat
  roomDataHeader : Nat
  roomData : List UInt8
  roomMaster : Int
  closedSlotIds : List Nat
  membersById : Fin 8 → RoomMember
  observers : RoomSlots RoomObserver
  slotPositions : Fin 8 → Int
  deriving DecidableEq

structure RoomSessionData where
  roomName : Text
  password : Text
  gameType : Nat
  speedType : Nat
  deriving DecidableEq

structure RoomListEntry where
  roomId : Nat
  roomName : Text
  track : Nat
  locked : Bool
  gameType : Nat
  speedType : Nat
  started : Bool
  availableSlots : Nat
  playerCount : Nat
  deriving DecidableEq

inductive ServerGameControl
  | raceStart
  | beginSettlement
  | finalStage
  deriving DecidableEq

structure HumanRaceResult where
  playerId : Int
  finishTime : Nat
  kartId : Nat
  rank : Int
  currentRp : Nat
  earnedRp : Nat
  earnedLucci : Nat
  currentLucci : Nat
  team : Option ResultTeam
  teamPoints : Int
  characterId : Nat
  clubMarkLogo : Int
  deriving DecidableEq

structure AiRaceResult where
  playerId : Int
  finishTime : Nat
  kartId : Int
  rank : Int
  team : Option ResultTeam
  teamPoints : Int
  deriving DecidableEq

structure GameResult where
  winningTeam : Option ResultTeam
  humans : List HumanRaceResult
  ais : List AiRaceResult
  deriving DecidableEq

inductive Packet
  | chCreateRoomReply (created : Bool) (gameType : Nat)
  | chJoinRoomReply (status : JoinRoomStatus) (gameType : Nat)
  | chLeaveRoomReply (left : Bool)
  | chGetRoomListReply (page : Nat) (entries : List RoomListEntry)
  | grSessionData (data : RoomSessionData)
  | grSlotData (data : RoomSlotData)
  | slotState (states : Fin 8 → Int)
  | setSlotStateReply (userNo : Nat) (accepted : Bool) (playerId : Int) (state : PlayerSlotState)
  | changeTeamReply (playerId : Int) (team : RoomTeam) (slotPositions : Fin 8 → Int)
  | basicAiRemoved (playerId : Int) (slotPositions : Fin 8 → Int)
  | basicAiAdded (added : List (Int × RoomAi)) (slotPositions : Fin 8 → Int)
  | basicAiReply (changed : Bool)
  | closeSlotReply (userNo : Nat) (accepted : Bool) (firstMemberId secondMemberId : Nat)
      (operation : CloseSlotOperation) (closedSlotIds : List Nat)
  | changeRoomInfoReply (request : ChangeRoomInfoRequest)
  | kickBroadcast (nickname : Text)
  | kickReply
  | lobbyRiderEcho (playerId : Int) (message : Text)
  | macroChatRelay (userNo : Nat) (chatType : Int) (messageId : Nat) (message : Text)
  | startRoomReply (status : StartRoomStatus)
  | grCommandStart (recipient : UserNo) (session : RoomSessionData) (slots : RoomSlotData)
      (concreteTrack : Nat)
  | aiMasterNotice
  | directItemAward (playerId itemId : Nat) (startTick : Nat)
  | gameControl (control : ServerGameControl) (value : Nat)
  | gameRaceTime (playerId : Int) (raceTime : Nat)
  | gameNextStage (gameType : Nat)
  | gameResult (result : GameResult)
  | roomSlotItems (playerId : Int) (snapshot : RiderItemSnapshot)
  | migrationAcknowledgement
  | myroom (packet : MyRoom.MyRoomPacket)
  deriving DecidableEq

/-- Which packets the fallible serializers refuse, and why. -/
structure Wire where
  rejects : Packet → Option Text

/-- Run a fallible serializer. -/
def Wire.serialize (wire : Wire) (packet : Packet) : Except Text Packet :=
  match wire.rejects packet with
  | some error => .error error
  | none => .ok packet

/-- The packets of one queue entry, in order. -/
abbrev OutboundBatch := List Packet

abbrev OutboundDelivery := SessionId × OutboundBatch

end P4475
