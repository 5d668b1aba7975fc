import P4475.Identity.Types
import P4475.Lib.Slots

/-!
# MyRoom data

The records of `p4475-server/src/myroom_hub.rs` and the parts of
`p4475-core/src/myroom_protocol.rs` they are built from. A participant, an owner
and a room's info can only be built by constructors that check them, so the check
is a field: what a hub stores is well formed by type. `u` is the Unicode side of
the nickname comparison.
-/

namespace P4475.MyRoom

open Lib

/-- `MYROOM_SLOT_COUNT`. -/
def myroomSlotCount : Nat := 8

/-- `VISITOR_CAPACITY`. -/
abbrev visitorCapacity : Nat := 7

/-- `MAX_MYROOM_PASSWORD_UTF16_UNITS`. -/
def maxMyroomPasswordUtf16Units : Nat := 64

/-- `MAX_RIDER_NICKNAME_UTF16_UNITS`. -/
def maxRiderNicknameUtf16Units : Nat := 32

/-- `MAX_CLUB_NAME_UTF16_UNITS`. -/
def maxClubNameUtf16Units : Nat := 64

structure MyRoomInfo where
  roomId : Int
  bgm : Nat
  useRoomPassword : Nat
  useItemPassword : Nat
  talkLock : Nat
  roomPassword : Text
  itemPassword : Text
  kart1 : Int
  kart2 : Int
  deriving DecidableEq

/-- An IPv4 address. -/
abbrev Ipv4Addr := BitVec 32

structure MyRoomPlayerSlot where
  userNo : Nat
  p2pAddress : Ipv4Addr
  p2pPort : Nat
  nickname : Text
  riderItemSnapshot : List UInt8
  rp : Nat
  clubName : Text
  deriving DecidableEq

inductive MyRoomSlot
  | empty
  | player (slot : MyRoomPlayerSlot)
  deriving DecidableEq

/-- `MyRoomProtocolError`, as far as the two validators below return it. -/
inductive MyRoomProtocolError
  | stringTooLong (field : String) (actual maximum : Nat)
  deriving DecidableEq

/-- `validate_string`. -/
def validateString (field : String) (value : Text) (maximum : Nat) :
    Except MyRoomProtocolError Unit :=
  if maximum < utf16Length value then .error (.stringTooLong field (utf16Length value) maximum)
  else .ok ()

/-- `validate_myroom_info`. -/
def validateMyroomInfo (info : MyRoomInfo) : Except MyRoomProtocolError Unit := do
  validateString "MyRoom room password" info.roomPassword maxMyroomPasswordUtf16Units
  validateString "MyRoom item password" info.itemPassword maxMyroomPasswordUtf16Units

/-- `validate_myroom_player_slot`. -/
def validateMyroomPlayerSlot (player : MyRoomPlayerSlot) : Except MyRoomProtocolError Unit := do
  validateString "MyRoom rider nickname" player.nickname maxRiderNicknameUtf16Units
  validateString "MyRoom club name" player.clubName maxClubNameUtf16Units

/-- `Ipv6Addr::to_ipv4_mapped`: the addresses of `::ffff:0:0/96`. -/
def toIpv4Mapped (address : BitVec 128) : Option Ipv4Addr :=
  if address.toNat / 2 ^ 32 = 0xFFFF then some (address.setWidth 32) else none

/-- `legacy_p2p_endpoint`: a native IPv6 peer advertises no endpoint. -/
def legacyP2pEndpoint (sourceIp : IpAddr) (reportedPort : Nat) : Ipv4Addr × Nat :=
  match sourceIp with
  | .v4 address => (address, reportedPort)
  | .v6 address =>
    match toIpv4Mapped address with
    | none => (0, 0)
    | some address => (address, reportedPort)

inductive MyRoomInvariantViolation
  | emptyRoom (owner : UserNo)
  | wrongOwnerPresentation (owner actual : UserNo)
  | absentOwnerAdvertisesP2pPort (owner : UserNo) (port : Nat)
  | invalidPlayerSnapshot (owner : UserNo) (slot : Nat)
  | invalidRoomInfo (owner : UserNo)
  | duplicateRoomMember (owner member : UserNo)
  | missingReverseMembership (owner : UserNo) (slot : Nat) (member : UserNo)
  | missingMembershipRoom (member owner : UserNo)
  | membershipSlotMismatch (member : UserNo) (slot : Nat)
  | missingCanonicalGeneration (userNo : UserNo)
  | canonicalGenerationMismatch (userNo : UserNo) (expected actual : Nat)
  | orphanCanonicalGeneration (userNo : UserNo)
  | identityCapacityExceeded (actual maximum : Nat)
  deriving DecidableEq

inductive MyRoomHubError
  | wire (error : MyRoomProtocolError)
  | snapshotUserNoMismatch (identity : UserNo) (snapshot : Nat)
  | snapshotNicknameMismatch (identity snapshot : Text)
  | full (owner : UserNo)
  | notMember (userNo : UserNo)
  | staleGeneration (userNo : UserNo) (expected actual : Nat)
  | identityBindingMismatch (userNo : UserNo) (generation : Nat)
  | identityAdvanceUserMismatch (previous replacement : UserNo)
  | identityAdvanceNicknameMismatch (previous replacement : Text)
  | nonAdvancingGeneration (userNo : UserNo) (previous replacement : Nat)
  | identityCapacity (maximum requested : Nat)
  | roomMissing (owner : UserNo)
  | notPresentOwner (userNo : UserNo)
  | revisionExhausted
  | transitionTooLarge (rooms memberships generations : Nat)
  | wirePlanRequesterMismatch (plannedUserNo : UserNo) (plannedGeneration : Nat)
      (suppliedUserNo : UserNo) (suppliedGeneration : Nat)
  | staleWirePlan (owner : UserNo)
  | invariant (violation : MyRoomInvariantViolation)
  deriving DecidableEq

/-- `is_wire_plan_stale`. -/
def MyRoomHubError.isWirePlanStale : MyRoomHubError → Bool
  | .wirePlanRequesterMismatch _ _ _ _ => true
  | .staleWirePlan _ => true
  | _ => false

/-- What `MyRoomParticipant::new` checks. -/
structure Presents (u : Unicode) (identity : IdentityBinding) (player : MyRoomPlayerSlot) :
    Prop where
  wire : validateMyroomPlayerSlot player = .ok ()
  userNo : player.userNo = identity.userNo.get
  nickname : canonicalNicknameKey u player.nickname = canonicalNicknameKey u identity.nickname

structure MyRoomParticipant (u : Unicode) where
  identity : IdentityBinding
  player : MyRoomPlayerSlot
  presents : Presents u identity player

/-- `MyRoomOwner`, whose info has passed `validate_myroom_info`. -/
structure MyRoomOwner (u : Unicode) where
  participant : MyRoomParticipant u
  info : MyRoomInfo
  valid : validateMyroomInfo info = .ok ()

structure MyRoomProfilePresentation where
  p2pPort : Nat
  riderItemSnapshot : List UInt8
  rp : Nat
  clubName : Text
  deriving DecidableEq

/-- `player_for`. -/
def MyRoomProfilePresentation.playerFor (self : MyRoomProfilePresentation)
    (identity : IdentityBinding) : MyRoomPlayerSlot where
  userNo := identity.userNo.get
  p2pAddress := (legacyP2pEndpoint identity.sourceIp self.p2pPort).1
  p2pPort := (legacyP2pEndpoint identity.sourceIp self.p2pPort).2
  nickname := identity.nickname
  riderItemSnapshot := self.riderItemSnapshot
  rp := self.rp
  clubName := self.clubName

namespace MyRoomParticipant

variable {u : Unicode}

theorem ext {a b : MyRoomParticipant u} (hi : a.identity = b.identity)
    (hp : a.player = b.player) : a = b := by
  cases a; cases b; cases hi; cases hp; rfl

instance : DecidableEq (MyRoomParticipant u) := fun a b =>
  decidable_of_iff (a.identity = b.identity ∧ a.player = b.player)
    ⟨fun h => ext h.1 h.2, fun h => by rw [h]; exact ⟨rfl, rfl⟩⟩

/-- `MyRoomParticipant::new`. -/
def new (u : Unicode) (identity : IdentityBinding) (player : MyRoomPlayerSlot) :
    Except MyRoomHubError (MyRoomParticipant u) :=
  match hwire : validateMyroomPlayerSlot player with
  | .error e => .error (.wire e)
  | .ok () =>
    if huser : player.userNo = identity.userNo.get then
      if hnick : canonicalNicknameKey u player.nickname =
          canonicalNicknameKey u identity.nickname then
        .ok ⟨identity, player, hwire, huser, hnick⟩
      else
        .error (.snapshotNicknameMismatch identity.nickname player.nickname)
    else
      .error (.snapshotUserNoMismatch identity.userNo player.userNo)

/-- The participant a successful `new` returns. -/
theorem new_ok {identity : IdentityBinding} {player : MyRoomPlayerSlot}
    {p : MyRoomParticipant u} (h : new u identity player = .ok p) :
    p.identity = identity ∧ p.player = player := by
  unfold new at h
  split at h
  next => exact absurd h (by simp)
  next =>
    split at h
    next =>
      split at h
      next => rw [← Except.ok.inj h]; exact ⟨rfl, rfl⟩
      next => exact absurd h (by simp)
    next => exact absurd h (by simp)

/-- The assignment `participant.player.p2p_port = port`, which no check reads. -/
def withP2pPort (self : MyRoomParticipant u) (port : Nat) : MyRoomParticipant u where
  identity := self.identity
  player := { self.player with p2pPort := port }
  presents := ⟨self.presents.wire, self.presents.userNo, self.presents.nickname⟩

@[simp] theorem withP2pPort_identity (self : MyRoomParticipant u) (port : Nat) :
    (self.withP2pPort port).identity = self.identity := rfl

@[simp] theorem withP2pPort_port (self : MyRoomParticipant u) (port : Nat) :
    (self.withP2pPort port).player.p2pPort = port := rfl

/-- The user a participant is. -/
abbrev userNo (self : MyRoomParticipant u) : UserNo := self.identity.userNo

end MyRoomParticipant

/-- `MyRoomProfilePresentation::bind`. -/
def MyRoomProfilePresentation.bind (u : Unicode) (self : MyRoomProfilePresentation)
    (identity : IdentityBinding) : Except MyRoomHubError (MyRoomParticipant u) :=
  MyRoomParticipant.new u identity (self.playerFor identity)

/-- The slots a participant can be mapped to: the owner's, or a visitor's. -/
inductive MyRoomSlotIndex
  | owner
  | visitor (index : Fin visitorCapacity)
  deriving DecidableEq

/-- `MyRoomSlotIndex::get`. -/
def MyRoomSlotIndex.get : MyRoomSlotIndex → Nat
  | .owner => 0
  | .visitor index => index.val + 1

/-- `Membership`: the room of a user, named by its owner, and the slot there. -/
structure Membership where
  owner : UserNo
  slot : MyRoomSlotIndex
  deriving DecidableEq

/-! ## Comparing bindings -/

/-- `require_same_binding`. -/
def requireSameBinding (canonical claimed : IdentityBinding) : Except MyRoomHubError Unit :=
  if canonical.userNo ≠ claimed.userNo ∨ canonical.generation ≠ claimed.generation then
    .error (.staleGeneration claimed.userNo canonical.generation.get claimed.generation.get)
  else if canonical ≠ claimed then
    .error (.identityBindingMismatch claimed.userNo claimed.generation.get)
  else .ok ()

/-- `require_same_released_binding`: a release stamp has no session owner. -/
def requireSameReleasedBinding (canonical : IdentityBinding) (released : ReleasedIdentity) :
    Except MyRoomHubError Unit :=
  if canonical.userNo ≠ released.userNo ∨ canonical.generation ≠ released.generation then
    .error (.staleGeneration released.userNo canonical.generation.get released.generation.get)
  else if canonical.nickname ≠ released.nickname ∨ canonical.sourceIp ≠ released.sourceIp ∨
      canonical.channel ≠ released.channel then
    .error (.identityBindingMismatch released.userNo released.generation.get)
  else .ok ()

/-- `validate_identity_advance`. -/
def validateIdentityAdvance (u : Unicode) (previous replacement : IdentityBinding) :
    Except MyRoomHubError Unit :=
  if previous.userNo ≠ replacement.userNo then
    .error (.identityAdvanceUserMismatch previous.userNo replacement.userNo)
  else if canonicalNicknameKey u previous.nickname ≠
      canonicalNicknameKey u replacement.nickname then
    .error (.identityAdvanceNicknameMismatch previous.nickname replacement.nickname)
  else if replacement.generation.get ≤ previous.generation.get then
    .error (.nonAdvancingGeneration previous.userNo previous.generation.get
      replacement.generation.get)
  else .ok ()

/-! ## Presentations of one participant -/

variable {u : Unicode}

/-- `participant_with_p2p_endpoint`. -/
def participantWithP2pEndpoint (current : MyRoomParticipant u) (identity : IdentityBinding)
    (port : Nat) : Except MyRoomHubError (MyRoomParticipant u) :=
  let endpoint := legacyP2pEndpoint identity.sourceIp port
  MyRoomParticipant.new u current.identity
    { current.player with p2pAddress := endpoint.1, p2pPort := endpoint.2 }

/-- `participant_with_profile`. -/
def participantWithProfile (current : MyRoomParticipant u) (identity : IdentityBinding)
    (presentation : MyRoomProfilePresentation) : Except MyRoomHubError (MyRoomParticipant u) :=
  let endpoint := legacyP2pEndpoint identity.sourceIp current.player.p2pPort
  MyRoomParticipant.new u identity
    { presentation.playerFor identity with p2pAddress := endpoint.1, p2pPort := endpoint.2 }

/-- `migrated_participant`. -/
def migratedParticipant (current : MyRoomParticipant u) (replacement : IdentityBinding) :
    Except MyRoomHubError (MyRoomParticipant u) :=
  let endpoint := legacyP2pEndpoint replacement.sourceIp 0
  MyRoomParticipant.new u replacement
    { current.player with
      userNo := replacement.userNo.get
      nickname := replacement.nickname
      p2pAddress := endpoint.1
      p2pPort := endpoint.2 }

end P4475.MyRoom
