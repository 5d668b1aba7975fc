import P4475.Lib.Fallible
import P4475.Lib.Index
import P4475.Lib.Machine
import P4475.Messenger.Types

/-!
# The messenger hub

`p4475-server/src/messenger_hub.rs`, operation by operation and check by check. The caller
presents the login identity it knows for the acting session and for an invited user. A
hash set of rooms is walked in an order nobody promises, so an operation that walks one takes the
order as an argument, and `MessengerHub.step` runs it on every order that is one of the set.
-/

namespace P4475.Messenger

open Lib Lib.Index

structure MessengerHub where
  limits : MessengerHubLimits
  endpointsBySession : Map MessengerSessionId MessengerEndpoint
  sessionByIdentity : Map Text MessengerSessionId
  rooms : Map MessengerRoomId MessengerRoom
  roomsByIdentity : Map Text (Finset MessengerRoomId)
  nextRoomId : Option MessengerRoomId

/-- A `&mut self` operation that may return an error. -/
abbrev HubAction (α : Type) := Fallible MessengerHub MessengerHubError α

namespace MessengerHub

/-- `new`. -/
def new (limits : MessengerHubLimits) : Except MessengerHubError MessengerHub :=
  match [("max_sessions", limits.maxSessions), ("max_rooms", limits.maxRooms),
      ("max_rooms_per_identity", limits.maxRoomsPerIdentity),
      ("max_message_utf16_units", limits.maxMessageUtf16Units)].find? (·.2 = 0) with
  | some (name, _) => .error (.zeroLimit name)
  | none => .ok
    { limits
      endpointsBySession := ∅
      sessionByIdentity := ∅
      rooms := ∅
      roomsByIdentity := ∅
      nextRoomId := MessengerRoomId.new 1 }

variable (hub : MessengerHub)

/-- The rooms indexed under a key; none if the key has no entry. -/
def roomIds (key : Text) : Finset MessengerRoomId := entries hub.roomsByIdentity key

/-! ## Checks -/

/-- `authorize_session`. -/
def authorizeSession (session : MessengerSessionId) (active : MessengerIdentity) :
    Except MessengerHubError MessengerIdentity :=
  match hub.endpointsBySession.lookup session with
  | none => .error (.unauthenticatedSession session)
  | some endpoint =>
    if ¬ identityStampMatches endpoint.identity active
        ∨ hub.sessionByIdentity.lookup active.key ≠ some session then
      .error (.staleSession session)
    else .ok endpoint.identity

/-- `validate_sender_nickname`. -/
def validateSenderNickname (u : Unicode) (sender : MessengerIdentity) (claimedNickname : Text) :
    Except MessengerHubError Unit :=
  if canonicalNicknameKey u claimedNickname = sender.key then .ok ()
  else .error .senderNicknameMismatch

/-- `validate_sender`. -/
def validateSender (u : Unicode) (sender : MessengerIdentity) (claimedUserNo : Nat)
    (claimedNickname : Text) : Except MessengerHubError Unit :=
  if claimedUserNo ≠ sender.userNo.get then .error .senderUserNoMismatch
  else validateSenderNickname u sender claimedNickname

/-- `validate_message`. -/
def validateMessage (message : Text) : Except MessengerHubError Unit :=
  if hub.limits.maxMessageUtf16Units < utf16Length message then
    .error (.messageTooLong (utf16Length message) hub.limits.maxMessageUtf16Units)
  else .ok ()

/-- `ensure_identity_room_capacity`. -/
def ensureIdentityRoomCapacity (identity : MessengerIdentity) : Except MessengerHubError Unit :=
  if hub.limits.maxRoomsPerIdentity ≤ (hub.roomIds identity.key).card then
    .error (.identityRoomLimitReached identity.nickname hub.limits.maxRoomsPerIdentity)
  else .ok ()

/-- `MessengerRoomId::new(room_id).ok_or(InvalidRoomId)`. -/
def claimedRoomId (roomId : Nat) : Except MessengerHubError MessengerRoomId :=
  match MessengerRoomId.new roomId with
  | none => .error (.invalidRoomId roomId)
  | some roomId => .ok roomId

/-- `rooms.get(&room_id).ok_or(RoomNotFound)`. -/
def room (roomId : MessengerRoomId) : Except MessengerHubError MessengerRoom :=
  match hub.rooms.lookup roomId with
  | none => .error (.roomNotFound roomId)
  | some room => .ok room

/-- `members.iter().position(..).ok_or(NotRoomMember)`. -/
def memberIndex (roomId : MessengerRoomId) (room : MessengerRoom) (sender : MessengerIdentity) :
    Except MessengerHubError Nat :=
  match room.members.findIdx? (identityStampMatches · sender) with
  | none => .error (.notRoomMember roomId sender.nickname)
  | some index => .ok index

/-! ## Rooms -/

/-- `allocate_room_id`. -/
def allocateRoomId : HubAction MessengerRoomId := do
  let hub ← get
  set { hub with nextRoomId := none }
  match hub.nextRoomId with
  | none => throw .roomIdExhausted
  | some value => do
    set { hub with nextRoomId := value.next }
    return value

/-- Whom one member is delivered through, if its session is still on its stamp. -/
def memberSession (member : MessengerIdentity) : Option MessengerSessionId :=
  match hub.sessionByIdentity.lookup member.key with
  | none => none
  | some session =>
    match hub.endpointsBySession.lookup session with
    | none => none
    | some endpoint =>
      if identityStampMatches endpoint.identity member then some session else none

/-- `deliver_to_members`. -/
def deliverToMembers (members : List MessengerIdentity) (event : MessengerEvent) :
    List MessengerDelivery :=
  (members.filterMap hub.memberSession).map fun session => { session, event }

/-- `remove_inverse_room`. -/
def removeInverseRoom (identityKey : Text) (roomId : MessengerRoomId) : MessengerHub :=
  { hub with roomsByIdentity := unlink hub.roomsByIdentity identityKey roomId }

/-- A walk over rooms: the hub, and how many memberships and rooms it has removed. -/
structure Removal where
  hub : MessengerHub
  memberships : Nat
  emptied : Nat

/-- One room of `remove_identity_from_rooms`. -/
def removeIdentityFromRoom (identity : MessengerIdentity) (walk : Removal)
    (roomId : MessengerRoomId) : Removal :=
  match walk.hub.rooms.lookup roomId with
  | none => walk
  | some room =>
    let kept := room.members.filter fun member => !identityStampMatches member identity
    let removed := room.members.length - kept.length
    -- `retain` has written the room before anything is counted
    let hub := { walk.hub with rooms := walk.hub.rooms.insert roomId { members := kept } }
    if removed = 0 then { walk with hub }
    else
      let hub := hub.removeInverseRoom identity.key roomId
      if kept = [] then
        { hub := { hub with rooms := hub.rooms.erase roomId }
          memberships := walk.memberships + removed
          emptied := walk.emptied + 1 }
      else { walk with hub, memberships := walk.memberships + removed }

/-- `remove_identity_from_rooms`. -/
def removeIdentityFromRooms (identity : MessengerIdentity) (visit : List MessengerRoomId) :
    Removal :=
  visit.foldl (removeIdentityFromRoom identity) { hub, memberships := 0, emptied := 0 }

/-- One room of `advance_generation`: the first member on the previous stamp moves. -/
def advanceRoom (previous next : MessengerIdentity) (walk : MessengerHub × Nat)
    (roomId : MessengerRoomId) : MessengerHub × Nat :=
  match walk.1.rooms.lookup roomId with
  | none => walk
  | some room =>
    match room.members.findIdx? (identityStampMatches · previous) with
    | none => walk
    | some index =>
      ({ walk.1 with
          rooms := walk.1.rooms.insert roomId { members := room.members.set index next } },
        walk.2 + 1)

/-- The endpoint half of `advance_generation`. -/
def advanceEndpoint (previous next : MessengerIdentity) : MessengerHub × Bool :=
  match hub.sessionByIdentity.lookup previous.key with
  | none => (hub, false)
  | some session =>
    match hub.endpointsBySession.lookup session with
    | none => (hub, false)
    | some endpoint =>
      if identityStampMatches endpoint.identity previous then
        ({ hub with
            endpointsBySession :=
              hub.endpointsBySession.insert session { endpoint with identity := next } }, true)
      else (hub, false)

/-! ## Operations -/

/-- The endpoints, less the one of a replaced session. -/
def endpointsWithout (replacedSession : Option MessengerSessionId) :
    Map MessengerSessionId MessengerEndpoint :=
  match replacedSession with
  | none => hub.endpointsBySession
  | some previous => hub.endpointsBySession.erase previous

/-- `enter`. -/
def enter (u : Unicode) (session : MessengerSessionId) (peerIp : IpAddr)
    (active : MessengerIdentity) (claim : EnterClaim) : HubAction EnterOutcome := do
  let hub ← get
  ensure (hub.endpointsBySession.lookup session = none) (.sessionAlreadyEntered session)
  ensure (claim.userNo = active.userNo.get) .senderUserNoMismatch
  ensure (canonicalNicknameKey u claim.nickname = active.key) .senderNicknameMismatch
  ensure (peerIp = active.sourceIp) (.sourceIpMismatch active.sourceIp peerIp)
  let replacedSession := hub.sessionByIdentity.lookup active.key
  ensure (¬ (replacedSession = none
      ∧ hub.limits.maxSessions ≤ hub.endpointsBySession.keys.card))
    (.sessionLimitReached hub.limits.maxSessions)
  set { hub with
    endpointsBySession := (hub.endpointsWithout replacedSession).insert session
      { identity := active, chatType := claim.chatType }
    sessionByIdentity := hub.sessionByIdentity.insert active.key session }
  return { replacedSession }

/-- `invite`. -/
def invite (u : Unicode) (session : MessengerSessionId)
    (activeSender activeTarget : MessengerIdentity) (claim : InviteClaim) :
    HubAction (List MessengerDelivery) := do
  let hub ← get
  let sender ← liftResult (hub.authorizeSession session activeSender)
  liftResult (validateSender u sender claim.inviterUserNo claim.inviterNickname)
  ensure (claim.inviteeUserNo = activeTarget.userNo.get
      ∧ canonicalNicknameKey u claim.inviteeNickname = activeTarget.key) .targetIdentityMismatch
  ensure (sender.key ≠ activeTarget.key) .selfInvite
  ensure (hub.rooms.keys.card < hub.limits.maxRooms) (.roomLimitReached hub.limits.maxRooms)
  liftResult (hub.ensureIdentityRoomCapacity sender)
  liftResult (hub.ensureIdentityRoomCapacity activeTarget)
  let roomId ← allocateRoomId
  let members := [sender, activeTarget]
  modify fun hub => { hub with
    rooms := hub.rooms.insert roomId { members }
    roomsByIdentity := members.foldl (fun index member => link index member.key roomId)
      hub.roomsByIdentity }
  let hub ← get
  return hub.deliverToMembers members (.inviteChat sender.userNo.get activeTarget.userNo.get
    sender.nickname activeTarget.nickname roomId 0)

/-- `chat`. -/
def chat (u : Unicode) (session : MessengerSessionId) (activeSender : MessengerIdentity)
    (claim : ChatClaim) : HubAction (List MessengerDelivery) := do
  let hub ← get
  let sender ← liftResult (hub.authorizeSession session activeSender)
  liftResult (validateSenderNickname u sender claim.nickname)
  liftResult (hub.validateMessage claim.message)
  let roomId ← liftResult (claimedRoomId claim.roomId)
  let room ← liftResult (hub.room roomId)
  ensure (room.members.any (identityStampMatches · sender))
    (.notRoomMember roomId sender.nickname)
  return hub.deliverToMembers room.members
    (.chat roomId sender.userNo.get sender.nickname claim.message 0)

/-- `leave`. -/
def leave (session : MessengerSessionId) (activeSender : MessengerIdentity)
    (claim : LeaveClaim) : HubAction (List MessengerDelivery) := do
  let hub ← get
  let sender ← liftResult (hub.authorizeSession session activeSender)
  ensure (claim.userNo = sender.userNo.get) .senderUserNoMismatch
  let roomId ← liftResult (claimedRoomId claim.roomId)
  let room ← liftResult (hub.room roomId)
  let index ← liftResult (memberIndex roomId room sender)
  let remaining := room.members.eraseIdx index
  set ({ hub with rooms := hub.rooms.insert roomId { members := remaining } }.removeInverseRoom
    sender.key roomId)
  modify fun hub =>
    if remaining = [] then { hub with rooms := hub.rooms.erase roomId } else hub
  let hub ← get
  return hub.deliverToMembers remaining (.leaveChat sender.userNo.get roomId)

/-- `advance_generation`. -/
def advanceGeneration (previous next : MessengerIdentity) (visit : List MessengerRoomId) :
    HubAction GenerationAdvance := do
  let hub ← get
  ensure (previous.key = next.key ∧ previous.userNo = next.userNo
      ∧ previous.sourceIp = next.sourceIp ∧ previous.generation.get < next.generation.get)
    .migrationIdentityMismatch
  let (hub, endpointUpdated) := hub.advanceEndpoint previous next
  let (hub, roomMembersUpdated) := visit.foldl (advanceRoom previous next) (hub, 0)
  set hub
  return { endpointUpdated, roomMembersUpdated }

/-- The session of `release_identity`: the one of the key, if it is on the released stamp. -/
def releasedSession (identity : MessengerIdentity) : Option MessengerSessionId :=
  (hub.sessionByIdentity.lookup identity.key).filter fun session =>
    match hub.endpointsBySession.lookup session with
    | none => false
    | some endpoint => identityStampMatches endpoint.identity identity

/-- Forget an endpoint, and the key's session if that is the one. -/
def removeEndpoint (session : MessengerSessionId) (key : Text) : MessengerHub :=
  { hub with
    endpointsBySession := hub.endpointsBySession.erase session
    sessionByIdentity :=
      if hub.sessionByIdentity.lookup key = some session then hub.sessionByIdentity.erase key
      else hub.sessionByIdentity }

/-- The endpoint half of `release_identity`. -/
def releaseEndpoint (identity : MessengerIdentity) : MessengerHub :=
  match hub.releasedSession identity with
  | none => hub
  | some session => hub.removeEndpoint session identity.key

/-- `release_identity`. -/
def releaseIdentity (identity : MessengerIdentity) (visit : List MessengerRoomId) :
    IdentityRelease × MessengerHub :=
  let walk := (hub.releaseEndpoint identity).removeIdentityFromRooms identity visit
  ({ disconnectedSession := hub.releasedSession identity
     roomMembershipsRemoved := walk.memberships
     emptyRoomsRemoved := walk.emptied }, walk.hub)

/-- `disconnect_session`. -/
def disconnectSession (session : MessengerSessionId) (visit : List MessengerRoomId) :
    Option IdentityRelease × MessengerHub :=
  match hub.endpointsBySession.lookup session with
  | none => (none, hub)
  | some endpoint =>
    let hub := hub.removeEndpoint session endpoint.identity.key
    let walk := hub.removeIdentityFromRooms endpoint.identity visit
    (some { disconnectedSession := some session, roomMembershipsRemoved := walk.memberships,
            emptyRoomsRemoved := walk.emptied }, walk.hub)

end MessengerHub

/-! ## Runs -/

inductive HubCall
  | enter (session : MessengerSessionId) (peerIp : IpAddr) (active : MessengerIdentity)
      (claim : EnterClaim)
  | invite (session : MessengerSessionId) (activeSender activeTarget : MessengerIdentity)
      (claim : InviteClaim)
  | chat (session : MessengerSessionId) (activeSender : MessengerIdentity) (claim : ChatClaim)
  | leave (session : MessengerSessionId) (activeSender : MessengerIdentity) (claim : LeaveClaim)
  | advanceGeneration (previous next : MessengerIdentity) (visit : List MessengerRoomId)
  | releaseIdentity (identity : MessengerIdentity) (visit : List MessengerRoomId)
  | disconnectSession (session : MessengerSessionId) (visit : List MessengerRoomId)
  deriving DecidableEq

inductive HubResponse
  | entered (outcome : EnterOutcome)
  | delivered (deliveries : List MessengerDelivery)
  | advanced (advance : GenerationAdvance)
  | released (release : IdentityRelease)
  | disconnected (release : Option IdentityRelease)
  | failed (error : MessengerHubError)
  deriving DecidableEq

namespace MessengerHub

variable (hub : MessengerHub)

/-- Run an operation and answer with what it returns. -/
def perform {α : Type} (respond : α → HubResponse) (action : HubAction α) :
    HubResponse × MessengerHub :=
  match (action.run.run hub : Except MessengerHubError α × MessengerHub) with
  | (.ok a, hub') => (respond a, hub')
  | (.error e, hub') => (.failed e, hub')

/-- The list is one of the orders in which the rooms of a key can be walked. -/
def Walks (key : Text) (visit : List MessengerRoomId) : Prop :=
  visit.Nodup ∧ visit.toFinset = hub.roomIds key

instance (key : Text) (visit : List MessengerRoomId) : Decidable (hub.Walks key visit) :=
  inferInstanceAs (Decidable (_ ∧ _))

/-- There is an order for every key, so no call is ever refused for want of one. -/
theorem exists_walks (key : Text) : ∃ visit, hub.Walks key visit :=
  ⟨(hub.roomIds key).toList, Finset.nodup_toList _, Finset.toList_toFinset _⟩

/-- The rooms that a call walks are walked in an order of theirs. -/
def Admits : HubCall → Prop
  | .advanceGeneration previous _ visit => hub.Walks previous.key visit
  | .releaseIdentity identity visit => hub.Walks identity.key visit
  | .disconnectSession session visit =>
    match hub.endpointsBySession.lookup session with
    | none => visit = []
    | some endpoint => hub.Walks endpoint.identity.key visit
  | _ => True

instance (call : HubCall) : Decidable (hub.Admits call) := by
  unfold Admits
  split
  · infer_instance
  · infer_instance
  · split <;> infer_instance
  · infer_instance

/-- What a call does to the hub. -/
def call (u : Unicode) : HubCall → HubResponse × MessengerHub
  | .enter session peerIp active claim =>
    hub.perform .entered (enter u session peerIp active claim)
  | .invite session activeSender activeTarget claim =>
    hub.perform .delivered (invite u session activeSender activeTarget claim)
  | .chat session activeSender claim => hub.perform .delivered (chat u session activeSender claim)
  | .leave session activeSender claim => hub.perform .delivered (leave session activeSender claim)
  | .advanceGeneration previous next visit =>
    hub.perform .advanced (advanceGeneration previous next visit)
  | .releaseIdentity identity visit =>
    let (release, hub') := hub.releaseIdentity identity visit
    (.released release, hub')
  | .disconnectSession session visit =>
    let (release, hub') := hub.disconnectSession session visit
    (.disconnected release, hub')

/-- The calls of the runtime, one after the other, from a hub. -/
def machine (u : Unicode) : Machine MessengerHub HubCall HubResponse where
  init := hub
  step := fun hub call => if hub.Admits call then some (hub.call u call) else none

end MessengerHub

end P4475.Messenger
