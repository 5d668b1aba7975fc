import P4475.Identity.Types

/-!
# Messenger data

The records of `p4475-server/src/messenger_hub.rs`. An identity is presented together with
its generation and the address it came from; these three and the canonical key are its
stamp, and the hub compares stamps, never nicknames. Non-zero numbers carry their range as
fields.
-/

namespace P4475.Messenger

structure MessengerSessionId where
  get : Nat
  pos : 0 < get
  bounded : get ≤ u64Max

theorem MessengerSessionId.ext {a b : MessengerSessionId} (h : a.get = b.get) : a = b := by
  cases a; cases b; cases h; rfl

instance : DecidableEq MessengerSessionId := fun _ _ =>
  decidable_of_iff _ ⟨MessengerSessionId.ext, congrArg MessengerSessionId.get⟩

structure MessengerGeneration where
  get : Nat
  pos : 0 < get
  bounded : get ≤ u64Max

theorem MessengerGeneration.ext {a b : MessengerGeneration} (h : a.get = b.get) : a = b := by
  cases a; cases b; cases h; rfl

instance : DecidableEq MessengerGeneration := fun _ _ =>
  decidable_of_iff _ ⟨MessengerGeneration.ext, congrArg MessengerGeneration.get⟩

/-- `MessengerGeneration::new`. -/
def MessengerGeneration.new (value : Nat) : Option MessengerGeneration :=
  if hpos : 0 < value then
    if hbounded : value ≤ u64Max then some ⟨value, hpos, hbounded⟩ else none
  else none

structure MessengerRoomId where
  get : Nat
  pos : 0 < get
  bounded : get ≤ u32Max

theorem MessengerRoomId.ext {a b : MessengerRoomId} (h : a.get = b.get) : a = b := by
  cases a; cases b; cases h; rfl

instance : DecidableEq MessengerRoomId := fun _ _ =>
  decidable_of_iff _ ⟨MessengerRoomId.ext, congrArg MessengerRoomId.get⟩

/-- `MessengerRoomId::new`. -/
def MessengerRoomId.new (value : Nat) : Option MessengerRoomId :=
  if hpos : 0 < value then
    if hbounded : value ≤ u32Max then some ⟨value, hpos, hbounded⟩ else none
  else none

/-- `checked_add(1).and_then(NonZeroU32::new)`. -/
def MessengerRoomId.next (id : MessengerRoomId) : Option MessengerRoomId :=
  MessengerRoomId.new (id.get + 1)

theorem MessengerRoomId.new_get {value : Nat} {id : MessengerRoomId}
    (h : MessengerRoomId.new value = some id) : id.get = value := by
  unfold MessengerRoomId.new at h
  split at h
  · split at h
    · cases h
      rfl
    · exact absurd h (by simp)
  · exact absurd h (by simp)

theorem MessengerRoomId.next_get {id next : MessengerRoomId} (h : id.next = some next) :
    next.get = id.get + 1 := MessengerRoomId.new_get h

structure MessengerIdentity where
  userNo : UserNo
  nickname : Text
  generation : MessengerGeneration
  sourceIp : IpAddr
  key : Text
  deriving DecidableEq

structure MessengerHubLimits where
  maxSessions : Nat
  maxRooms : Nat
  maxRoomsPerIdentity : Nat
  maxMessageUtf16Units : Nat
  deriving DecidableEq

/-- `MessengerHubLimits::default`. -/
def MessengerHubLimits.default : MessengerHubLimits where
  maxSessions := 256
  maxRooms := 4096
  maxRoomsPerIdentity := 64
  maxMessageUtf16Units := 4096

structure EnterClaim where
  userNo : Nat
  chatType : Nat
  nickname : Text
  deriving DecidableEq

structure InviteClaim where
  inviterUserNo : Nat
  inviteeUserNo : Nat
  inviterNickname : Text
  inviteeNickname : Text
  deriving DecidableEq

structure ChatClaim where
  roomId : Nat
  nickname : Text
  message : Text
  deriving DecidableEq

structure LeaveClaim where
  userNo : Nat
  roomId : Nat
  deriving DecidableEq

/-- `MessengerEvent`; the guild channel, which knows no rooms, is not modelled. -/
inductive MessengerEvent
  | inviteChat (inviterUserNo inviteeUserNo : Nat) (inviterNickname inviteeNickname : Text)
      (roomId : MessengerRoomId) (result : Int)
  | chat (roomId : MessengerRoomId) (senderUserNo : Nat) (nickname message : Text) (result : Int)
  | leaveChat (userNo : Nat) (roomId : MessengerRoomId)
  deriving DecidableEq

/-- The room an event is about. -/
def MessengerEvent.room : MessengerEvent → MessengerRoomId
  | .inviteChat _ _ _ _ roomId _ => roomId
  | .chat roomId _ _ _ _ => roomId
  | .leaveChat _ roomId => roomId

structure MessengerDelivery where
  session : MessengerSessionId
  event : MessengerEvent
  deriving DecidableEq

structure EnterOutcome where
  replacedSession : Option MessengerSessionId
  deriving DecidableEq

structure GenerationAdvance where
  endpointUpdated : Bool
  roomMembersUpdated : Nat
  deriving DecidableEq

structure IdentityRelease where
  disconnectedSession : Option MessengerSessionId
  roomMembershipsRemoved : Nat
  emptyRoomsRemoved : Nat
  deriving DecidableEq

inductive MessengerHubError
  | invalidUserNo
  | invalidGeneration
  | emptyNickname
  | zeroLimit (name : String)
  | sessionAlreadyEntered (session : MessengerSessionId)
  | sessionLimitReached (maximum : Nat)
  | unauthenticatedSession (session : MessengerSessionId)
  | staleSession (session : MessengerSessionId)
  | sourceIpMismatch (expected received : IpAddr)
  | senderUserNoMismatch
  | senderNicknameMismatch
  | targetIdentityMismatch
  | selfInvite
  | roomLimitReached (maximum : Nat)
  | identityRoomLimitReached (nickname : Text) (maximum : Nat)
  | roomIdExhausted
  | invalidRoomId (roomId : Nat)
  | roomNotFound (roomId : MessengerRoomId)
  | notRoomMember (roomId : MessengerRoomId) (nickname : Text)
  | messageTooLong (length maximum : Nat)
  | migrationIdentityMismatch
  deriving DecidableEq

/-- `MessengerIdentity::new`. -/
def MessengerIdentity.new (u : Unicode) (userNo : Nat) (nickname : Text) (generation : Nat)
    (sourceIp : IpAddr) : Except MessengerHubError MessengerIdentity :=
  match UserNo.new userNo with
  | none => .error .invalidUserNo
  | some userNo =>
    match MessengerGeneration.new generation with
    | none => .error .invalidGeneration
    | some generation =>
      if trim nickname = [] then .error .emptyNickname
      else .ok
        { userNo, nickname, generation, sourceIp, key := canonicalNicknameKey u nickname }

/-! ## Stamps -/

/-- What is compared when two presentations of an identity are. -/
structure Stamp where
  key : Text
  userNo : UserNo
  generation : MessengerGeneration
  sourceIp : IpAddr
  deriving DecidableEq

def MessengerIdentity.stamp (identity : MessengerIdentity) : Stamp where
  key := identity.key
  userNo := identity.userNo
  generation := identity.generation
  sourceIp := identity.sourceIp

@[simp] theorem MessengerIdentity.stamp_key (identity : MessengerIdentity) :
    identity.stamp.key = identity.key := rfl

/-- `identity_stamp_matches`. -/
def identityStampMatches (left right : MessengerIdentity) : Bool :=
  left.key = right.key ∧ left.userNo = right.userNo ∧ left.generation = right.generation
    ∧ left.sourceIp = right.sourceIp

@[simp] theorem identityStampMatches_iff {left right : MessengerIdentity} :
    identityStampMatches left right = true ↔ left.stamp = right.stamp := by
  unfold identityStampMatches MessengerIdentity.stamp
  rw [decide_eq_true_iff, Stamp.mk.injEq]

theorem key_of_stamp {left right : MessengerIdentity} (h : left.stamp = right.stamp) :
    left.key = right.key := congrArg Stamp.key h

/-! ## Rooms -/

structure MessengerEndpoint where
  identity : MessengerIdentity
  chatType : Nat
  deriving DecidableEq

structure MessengerRoom where
  members : List MessengerIdentity
  deriving DecidableEq

/-- The keys of the members. -/
def MessengerRoom.keys (room : MessengerRoom) : List Text := room.members.map (·.key)

end P4475.Messenger
