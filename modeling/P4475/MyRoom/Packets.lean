import P4475.MyRoom.Types

/-!
# MyRoom packets

What the MyRoom serializers of `p4475-core/src/myroom_protocol.rs` are given, and the
small enumerations of the protocol that go with them. A transform is kept as the bits of
its six floats.
-/

namespace P4475.MyRoom

/-- `EnterMyRoomStatus`. -/
inductive EnterMyRoomStatus
  | success
  | full
  | ownerUnavailable
  | passwordMismatch
  | noAvailableRoom
  deriving DecidableEq

/-- `CheckPasswordStatus`. -/
inductive CheckPasswordStatus
  | unsupported
  | success
  | passwordRequired
  | wrongPassword
  deriving DecidableEq

/-- `MyRoomProtectedFeature`. -/
inductive MyRoomProtectedFeature
  | garage
  | emblem
  | career
  | itemDictionary
  deriving DecidableEq

/-- `MyRoomProtectedFeature::from_wire`. -/
def MyRoomProtectedFeature.fromWire (value : Int) : Option MyRoomProtectedFeature :=
  if value = 0 then some .garage
  else if value = 1 then some .emblem
  else if value = 2 then some .career
  else if value = 3 then some .itemDictionary
  else none

structure CheckPasswordRequest where
  passwordKind : Int
  password : Text
  deriving DecidableEq

/-- `protected_feature`. -/
def CheckPasswordRequest.protectedFeature (self : CheckPasswordRequest) :
    Option MyRoomProtectedFeature :=
  MyRoomProtectedFeature.fromWire self.passwordKind

/-- `MyRoomInfo::default`. -/
def MyRoomInfo.default : MyRoomInfo := ⟨0, 0, 0, 0, 1, [], [], 0, 0⟩

/-- `rider_talk_enabled`. -/
def MyRoomInfo.riderTalkEnabled (self : MyRoomInfo) : Bool := self.talkLock ≠ 0

/-- `redact_myroom_secrets`. -/
def redactMyroomSecrets (info : MyRoomInfo) : MyRoomInfo :=
  { info with roomPassword := [], itemPassword := [] }

/-- A packet of the MyRoom protocol; `prepared` is one that was serialized outside the
actor. -/
inductive MyRoomPacket
  | enterReply (ownerNickname : Text) (status : EnterMyRoomStatus) (info : MyRoomInfo)
  | passwordEnterCommand (ownerNickname : Text)
  | slotData (slots : List MyRoomSlot)
  | secedeReply
  | characterPosition (slot : Nat) (transform : Vector (BitVec 32) 6)
  | riderEcho (slot : Nat) (message : Text)
  | myroomInfo (info : MyRoomInfo)
  | updateMainEmblemReply (success : Bool)
  | missingOwnerItems
  | emptyOwnerCareerList
  | prepared (payload : List UInt8)
  deriving DecidableEq

end P4475.MyRoom
