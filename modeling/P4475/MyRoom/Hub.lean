import P4475.Lib.FinmapExt
import P4475.MyRoom.Room

/-!
# The MyRoom hub

`MyRoomHub` of `p4475-server/src/myroom_hub.rs`: rooms by owner, memberships by
user, and one full binding for every user with a role. An operation plans a
bounded list of changes against the hub and answers with an outcome; the plan is
committed later, if the revision has not moved.

A hash table is iterated in an order nobody specifies; `auditInvariants`, the one
function that iterates one, takes its three visit orders as arguments. The sum
that `validate_identity_capacity` saturates counts user numbers, of which there
are fewer than `2 ^ 32`, and is a plain sum here.
-/

namespace P4475.MyRoom

open Lib

variable {u : Unicode}

/-- `MAX_TRANSITION_ROOMS`. -/
def maxTransitionRooms : Nat := 2

/-- `MAX_TRANSITION_MEMBERSHIPS`. -/
def maxTransitionMemberships : Nat := myroomSlotCount

/-- `MAX_TRANSITION_GENERATIONS`: an owner who visits a one-member room while
owning a full one prunes itself, seven ejected visitors and the visited owner. -/
def maxTransitionGenerations : Nat := myroomSlotCount + 1

abbrev RoomChange (u : Unicode) := UserNo × Option (RoomState u)

abbrev MembershipChange := UserNo × Option Membership

abbrev GenerationChange := UserNo × Option IdentityBinding

structure MyRoomTransition (u : Unicode) (T : Type) where
  baseRevision : Nat
  nextRevision : Nat
  rooms : List (RoomChange u)
  memberships : List MembershipChange
  generations : List GenerationChange
  outcome : T

inductive RoomEffect
  | updated (publication : RoomPublication)
  | deleted (owner : UserNo)
  deriving DecidableEq

/-- The user a deleted room belonged to. -/
def RoomEffect.deletedOwner : RoomEffect → Option UserNo
  | .updated _ => none
  | .deleted owner => some owner

inductive EnterOutcome
  | reentered (slot : MyRoomSlotIndex) (publication : RoomPublication)
  | moved (slot : MyRoomSlotIndex) (previous : Option RoomEffect) (current : RoomPublication)
  deriving DecidableEq

structure LeaveEffects where
  room : RoomEffect
  deriving DecidableEq

structure ClosedOwnedRoom where
  owner : UserNo
  ejected : List IdentityBinding
  deriving DecidableEq

structure DisconnectEffects where
  membershipRoom : Option RoomEffect
  closedOwnedRoom : Option ClosedOwnedRoom
  deriving DecidableEq

inductive MyRoomDisconnectOutcome
  | notTracked
  | applied (effects : DisconnectEffects)
  deriving DecidableEq

structure OwnerInfoUpdate where
  owner : UserNo
  previous : MyRoomInfo
  current : MyRoomInfo
  deriving DecidableEq

structure ParticipantRefreshEffects where
  publications : List RoomPublication
  deriving DecidableEq

structure IdentityAdvanceEffects where
  previous : IdentityBinding
  current : IdentityBinding
  publications : List RoomPublication
  deriving DecidableEq

inductive MyRoomCommitError
  | staleRevision (planned current : Nat)
  deriving DecidableEq

structure MyRoomHub (u : Unicode) where
  revision : Nat
  rooms : Map UserNo (RoomState u)
  memberships : Map UserNo Membership
  generations : Map UserNo IdentityBinding
  identityCapacity : Nat

/-- `MyRoomTransition::lock` followed by `MyRoomCommit::commit`. -/
def MyRoomTransition.commit {T : Type} (self : MyRoomTransition u T) (live : MyRoomHub u) :
    Except MyRoomCommitError (MyRoomHub u) :=
  if live.revision ≠ self.baseRevision then
    .error (.staleRevision self.baseRevision live.revision)
  else
    .ok { live with
      rooms := live.rooms.applyAll self.rooms
      memberships := live.memberships.applyAll self.memberships
      generations := live.generations.applyAll self.generations
      revision := self.nextRevision }

/-- An error of a room operation, as `?` converts it. -/
def internal {α : Type} (result : Except MyRoomInvariantViolation α) : Except MyRoomHubError α :=
  result.mapError .invariant

/-- `push_generation_set`. -/
def pushGenerationSet (changes : List GenerationChange) (identity : IdentityBinding) :
    List GenerationChange :=
  if changes.any fun change => change.1 = identity.userNo then
    changes.map fun change => if change.1 = identity.userNo then (change.1, some identity) else change
  else
    changes ++ [(identity.userNo, some identity)]

/-- `push_membership_delete`. -/
def pushMembershipDelete (changes : List MembershipChange) (member : UserNo) :
    List MembershipChange :=
  if changes.any fun change => change.1 = member then changes else changes ++ [(member, none)]

namespace MyRoomHub

/-- `with_identity_capacity`. -/
def withIdentityCapacity (u : Unicode) (identityCapacity : Nat) : MyRoomHub u :=
  ⟨0, ∅, ∅, ∅, identityCapacity⟩

variable (self : MyRoomHub u)

/-- `next_revision`. -/
def nextRevision : Except MyRoomHubError Nat :=
  if self.revision + 1 ≤ u64Max then .ok (self.revision + 1) else .error .revisionExhausted

/-- `transition`. -/
def transition {T : Type} (nextRevision : Nat) (rooms : List (RoomChange u))
    (memberships : List MembershipChange) (generations : List GenerationChange) (outcome : T) :
    Except MyRoomHubError (MyRoomTransition u T) :=
  if rooms.length > maxTransitionRooms ∨ memberships.length > maxTransitionMemberships ∨
      generations.length > maxTransitionGenerations then
    .error (.transitionTooLarge rooms.length memberships.length generations.length)
  else
    .ok ⟨self.revision, nextRevision, rooms, memberships, generations, outcome⟩

/-- `room`. -/
def room (owner : UserNo) : Except MyRoomHubError (RoomState u) :=
  match self.rooms.lookup owner with
  | some room => .ok room
  | none => .error (.roomMissing owner)

/-- `require_canonical_identity`. -/
def requireCanonicalIdentity (identity : IdentityBinding) : Except MyRoomHubError Unit :=
  match self.generations.lookup identity.userNo with
  | none => .error (.invariant (.missingCanonicalGeneration identity.userNo))
  | some canonical => requireSameBinding canonical identity

/-- `validate_or_new_identity`. -/
def validateOrNewIdentity (identity : IdentityBinding) : Except MyRoomHubError Bool :=
  match self.generations.lookup identity.userNo with
  | some canonical => do
    requireSameBinding canonical identity
    return false
  | none => .ok true

/-- `require_exact_member`. -/
def requireExactMember (identity : IdentityBinding) (membership : Membership) :
    Except MyRoomHubError Unit := do
  let room ← self.room membership.owner
  match room.participant membership.slot with
  | none => .error (.invariant (.membershipSlotMismatch identity.userNo membership.slot.get))
  | some participant =>
    if participant.userNo ≠ identity.userNo then
      .error (.invariant (.membershipSlotMismatch identity.userNo membership.slot.get))
    else
      requireSameBinding participant.identity identity

/-- `membership_exact`. -/
def membershipExact (identity : IdentityBinding) : Except MyRoomHubError Membership := do
  self.requireCanonicalIdentity identity
  match self.memberships.lookup identity.userNo with
  | none => .error (.notMember identity.userNo)
  | some membership =>
    self.requireExactMember identity membership
    return membership

/-- `room_exact_owner`. -/
def roomExactOwner (owner : UserNo) (identity : IdentityBinding) :
    Except MyRoomHubError (RoomState u) := do
  let room ← self.room owner
  self.requireCanonicalIdentity identity
  requireSameBinding room.owner.identity identity
  return room

/-- Whether a user is a member somewhere or owns a room. -/
def rolePresent (userNo : UserNo) : Bool :=
  (self.memberships.lookup userNo).isSome || (self.rooms.lookup userNo).isSome

/-- `has_role`. -/
def hasRole (userNo : UserNo) : Except MyRoomHubError Bool :=
  if !self.rolePresent userNo ∧ (self.generations.lookup userNo).isSome then
    .error (.invariant (.orphanCanonicalGeneration userNo))
  else
    .ok (self.rolePresent userNo)

/-- `enter_prunes_old_owner_generation`. -/
def enterPrunesOldOwnerGeneration (membership : Membership) (movingUser : UserNo) : Bool :=
  membership.owner ≠ movingUser && (self.generations.lookup membership.owner).isSome &&
    (self.memberships.lookup membership.owner).isNone &&
    (self.rooms.lookup membership.owner).any fun room => room.mappedCount = 1

/-- `validate_identity_capacity`. -/
def validateIdentityCapacity (additional pruned : Nat) : Except MyRoomHubError Unit :=
  let requested := self.generations.keys.card + additional - pruned
  if self.identityCapacity < requested then
    .error (.identityCapacity self.identityCapacity requested)
  else
    .ok ()

/-- `user_referenced_after`. -/
def userReferencedAfter (userNo : UserNo) (rooms : List (RoomChange u))
    (memberships : List MembershipChange) : Bool :=
  (self.memberships.after memberships userNo).isSome || (self.rooms.after rooms userNo).isSome

/-- `push_generation_prune`. -/
def pushGenerationPrune (changes : List GenerationChange) (userNo : UserNo)
    (rooms : List (RoomChange u)) (memberships : List MembershipChange) :
    List GenerationChange :=
  if changes.any fun change => change.1 = userNo then changes
  else if (self.generations.lookup userNo).isSome &&
      !self.userReferencedAfter userNo rooms memberships then
    changes ++ [(userNo, none)]
  else changes

/-- The prunes of several users, one after the other. -/
def pushGenerationPrunes (changes : List GenerationChange) (users : List UserNo)
    (rooms : List (RoomChange u)) (memberships : List MembershipChange) :
    List GenerationChange :=
  users.foldl (fun changes userNo => self.pushGenerationPrune changes userNo rooms memberships)
    changes

/-- What removing a member leaves of its room: the change and its effect. -/
def vacated (owner : UserNo) (room : RoomState u) : RoomChange u × RoomEffect :=
  if room.mappedCount = 0 then ((owner, none), .deleted owner)
  else ((owner, some room), .updated (room.publication owner))

/-! ## Entering -/

/-- `EnterPlan`. -/
structure EnterPlan (u : Unicode) where
  member : MyRoomParticipant u
  owner : MyRoomOwner u
  destination : UserNo
  destinationSlot : MyRoomSlotIndex
  current : Option Membership
  ownerIsNew : Bool
  memberIsNew : Bool
  nextRevision : Nat

/-- The room a mover leaves behind. -/
def leaveOldRoom (member : MyRoomParticipant u) :
    Option Membership → Except MyRoomHubError (Option (RoomChange u × RoomEffect))
  | none => .ok none
  | some membership => do
    let oldRoom ← self.room membership.owner
    let oldRoom ← internal (oldRoom.removeParticipant membership.slot member.userNo)
    return some (vacated membership.owner oldRoom)

/-- The generation a new owner brings along. -/
def ownerGenerations (plan : EnterPlan u) : List GenerationChange :=
  if plan.ownerIsNew then pushGenerationSet [] plan.owner.participant.identity else []

/-- The generations a new owner and a new member bring along. -/
def enterGenerations (plan : EnterPlan u) : List GenerationChange :=
  if plan.memberIsNew then pushGenerationSet (ownerGenerations plan) plan.member.identity
  else ownerGenerations plan

/-- `build_enter_transition`. -/
def buildEnterTransition (plan : EnterPlan u) :
    Except MyRoomHubError (MyRoomTransition u EnterOutcome) := do
  let left ← self.leaveOldRoom plan.member plan.current
  let destinationRoom :=
    (self.rooms.lookup plan.destination).getD (RoomState.new plan.owner plan.nextRevision)
  let destinationRoom ← internal (destinationRoom.addMember plan.destinationSlot plan.member)
  let roomChanges := (left.map (·.1)).toList ++ [(plan.destination, some destinationRoom)]
  let membershipChanges := [(plan.member.userNo, some ⟨plan.destination, plan.destinationSlot⟩)]
  let previous := left.map (·.2)
  let generationChanges := self.pushGenerationPrunes (enterGenerations plan)
    (previous.bind RoomEffect.deletedOwner).toList roomChanges membershipChanges
  self.transition plan.nextRevision roomChanges membershipChanges generationChanges
    (.moved plan.destinationSlot previous (destinationRoom.publication plan.destination))

/-- The slot `enter` takes in its destination. -/
def destinationSlot (member : MyRoomParticipant u) (owner : MyRoomOwner u) :
    Except MyRoomHubError MyRoomSlotIndex :=
  let destination := owner.participant.userNo
  match self.rooms.lookup destination with
  | some room => do
    self.requireCanonicalIdentity room.owner.identity
    self.requireCanonicalIdentity owner.participant.identity
    match room.nextSlotFor member.userNo with
    | some slot => return slot
    | none => .error (.full destination)
  | none =>
    if member.userNo = destination then .ok .owner else .ok (.visitor 0)

/-- `enter`, once the member is known not to be in the destination. -/
def enterElsewhere (member : MyRoomParticipant u) (owner : MyRoomOwner u)
    (ownerIsNew memberIsNew : Bool) (current : Option Membership) :
    Except MyRoomHubError (MyRoomTransition u EnterOutcome) := do
  let destinationSlot ← self.destinationSlot member owner
  let additional := (if ownerIsNew then 1 else 0) +
    (if memberIsNew ∧ member.userNo ≠ owner.participant.userNo then 1 else 0)
  let pruned := if current.any fun membership =>
    self.enterPrunesOldOwnerGeneration membership member.userNo then 1 else 0
  self.validateIdentityCapacity additional pruned
  let nextRevision ← self.nextRevision
  self.buildEnterTransition
    ⟨member, owner, owner.participant.userNo, destinationSlot, current, ownerIsNew, memberIsNew,
      nextRevision⟩

/-- `enter`. -/
def enter (member : MyRoomParticipant u) (owner : MyRoomOwner u) :
    Except MyRoomHubError (MyRoomTransition u EnterOutcome) := do
  let destination := owner.participant.userNo
  let ownerIsNew ← self.validateOrNewIdentity owner.participant.identity
  let memberIsNew ← self.validateOrNewIdentity member.identity
  match self.memberships.lookup member.userNo with
  | none => self.enterElsewhere member owner ownerIsNew memberIsNew none
  | some membership => do
    self.requireExactMember member.identity membership
    if membership.owner = destination then
      let room ← self.roomExactOwner destination owner.participant.identity
      self.transition self.revision [] [] []
        (.reentered membership.slot (room.publication destination))
    else
      self.enterElsewhere member owner ownerIsNew memberIsNew (some membership)

/-! ## Leaving and disconnecting -/

/-- `leave`. -/
def leave (identity : IdentityBinding) :
    Except MyRoomHubError (MyRoomTransition u LeaveEffects) := do
  let membership ← self.membershipExact identity
  let nextRevision ← self.nextRevision
  let room ← self.room membership.owner
  let room ← internal (room.removeParticipant membership.slot identity.userNo)
  let left := vacated membership.owner room
  let roomChanges := [left.1]
  let membershipChanges : List MembershipChange := [(identity.userNo, none)]
  let generationChanges := self.pushGenerationPrunes [] [identity.userNo, membership.owner]
    roomChanges membershipChanges
  self.transition nextRevision roomChanges membershipChanges generationChanges ⟨left.2⟩

/-- `DisconnectPlan`. -/
structure DisconnectPlan (u : Unicode) where
  identity : IdentityBinding
  membership : Option Membership
  owned : Option (RoomState u)
  nextRevision : Nat

/-- The visited room of a disconnecting user, unless it is the owned one, which
closes anyway. -/
def leaveVisitedRoom (plan : DisconnectPlan u) :
    Except MyRoomHubError (Option (RoomChange u × RoomEffect)) :=
  match plan.membership with
  | none => .ok none
  | some membership =>
    if membership.owner ≠ plan.identity.userNo ∨ plan.owned.isNone then do
      let room ← self.room membership.owner
      let room ← internal (room.removeParticipant membership.slot plan.identity.userNo)
      return some (vacated membership.owner room)
    else
      .ok none

/-- The identities a closing owned room ejects. -/
def ejected (identity : IdentityBinding) (room : RoomState u) : List IdentityBinding :=
  (room.mappedParticipants.filter fun participant => participant.userNo ≠ identity.userNo).map
    (·.identity)

/-- `build_disconnect_transition`. -/
def buildDisconnectTransition (plan : DisconnectPlan u) :
    Except MyRoomHubError (MyRoomTransition u MyRoomDisconnectOutcome) := do
  let visited ← self.leaveVisitedRoom plan
  let own : List MembershipChange :=
    if plan.membership.isSome then [(plan.identity.userNo, none)] else []
  let closed := plan.owned.map fun room =>
    (⟨plan.identity.userNo, ejected plan.identity room⟩ : ClosedOwnedRoom)
  let ejectedUsers := (closed.elim [] ClosedOwnedRoom.ejected).map (·.userNo)
  let membershipChanges := ejectedUsers.foldl pushMembershipDelete own
  let roomChanges := (visited.map (·.1)).toList ++
    (if plan.owned.isSome then [(plan.identity.userNo, none)] else [])
  let membershipRoom := visited.map (·.2)
  let affectedUsers := plan.identity.userNo :: ejectedUsers ++
    (membershipRoom.bind RoomEffect.deletedOwner).toList
  let generationChanges :=
    self.pushGenerationPrunes [] affectedUsers roomChanges membershipChanges
  self.transition plan.nextRevision roomChanges membershipChanges generationChanges
    (.applied ⟨membershipRoom, closed⟩)

/-- The reverse membership of every mapped participant of a closing room. -/
def requireMapped (owner : UserNo) : List (MyRoomParticipant u) → Except MyRoomHubError Unit
  | [] => .ok ()
  | participant :: rest =>
    match self.memberships.lookup participant.userNo with
    | none => .error (.invariant (.missingReverseMembership owner 0 participant.userNo))
    | some mapped =>
      if mapped.owner ≠ owner then
        .error (.invariant (.missingReverseMembership owner mapped.slot.get participant.userNo))
      else
        requireMapped owner rest

/-- The membership of a disconnecting identity, if there is one, is its own. -/
def requireOwnMembership (identity : IdentityBinding) : Except MyRoomHubError Unit :=
  match self.memberships.lookup identity.userNo with
  | some membership => self.requireExactMember identity membership
  | none => .ok ()

/-- The owned room of a disconnecting identity, if there is one, is its own, and
everybody in it is mapped to it. -/
def requireOwnRoom (identity : IdentityBinding) : Except MyRoomHubError Unit :=
  match self.rooms.lookup identity.userNo with
  | some room => do
    requireSameBinding room.owner.identity identity
    self.requireMapped identity.userNo room.mappedParticipants
  | none => .ok ()

/-- `disconnect`. -/
def disconnect (identity : IdentityBinding) :
    Except MyRoomHubError (MyRoomTransition u MyRoomDisconnectOutcome) :=
  match self.generations.lookup identity.userNo with
  | none => self.transition self.revision [] [] [] .notTracked
  | some canonical => do
    requireSameBinding canonical identity
    self.requireOwnMembership identity
    self.requireOwnRoom identity
    if !self.rolePresent identity.userNo then
      .error (.invariant (.orphanCanonicalGeneration identity.userNo))
    else
      let nextRevision ← self.nextRevision
      self.buildDisconnectTransition ⟨identity, self.memberships.lookup identity.userNo,
        self.rooms.lookup identity.userNo, nextRevision⟩

/-- `disconnect_released`. -/
def disconnectReleased (released : ReleasedIdentity) :
    Except MyRoomHubError (MyRoomTransition u MyRoomDisconnectOutcome) := do
  let hasRole ← self.hasRole released.userNo
  if !hasRole then
    self.transition self.revision [] [] [] .notTracked
  else
    match self.generations.lookup released.userNo with
    | none => .error (.invariant (.missingCanonicalGeneration released.userNo))
    | some canonical =>
      requireSameReleasedBinding canonical released
      self.disconnect canonical

/-! ## Refreshing and advancing -/

/-- The seat of a user's membership, with the room and the participant there. -/
def seat (userNo : UserNo) (membership : Membership) :
    Except MyRoomHubError (RoomState u × MyRoomParticipant u) := do
  let room ← self.room membership.owner
  match room.participant membership.slot with
  | none => .error (.invariant (.membershipSlotMismatch userNo membership.slot.get))
  | some current => return (room, current)

/-- Whether the owned room of a user is another one than it is a member of. -/
def ownsElsewhere (userNo : UserNo) (membership : Option Membership) : Bool :=
  (self.rooms.lookup userNo).isSome && membership.all fun mapped => mapped.owner ≠ userNo

/-- The room a user is a member of, with `member`'s participant in its seat; `member`
may leave the room alone. -/
def replaceMember (userNo : UserNo)
    (member : Membership → Except MyRoomHubError (Option (RoomState u × MyRoomParticipant u))) :
    Except MyRoomHubError (List (UserNo × RoomState u)) :=
  match self.memberships.lookup userNo with
  | none => .ok []
  | some membership => do
    let replacement ← member membership
    match replacement with
    | none => return []
    | some (room, participant) =>
      let room ← internal (room.replaceParticipant membership.slot participant)
      return [(membership.owner, room)]

/-- A distinct owned room, with `owner`'s presentation; `owner` may leave the room
alone. -/
def replaceOwner (userNo : UserNo)
    (owner : RoomState u → Except MyRoomHubError (Option (MyRoomParticipant u))) :
    Except MyRoomHubError (List (UserNo × RoomState u)) :=
  if self.ownsElsewhere userNo (self.memberships.lookup userNo) then do
    let room ← self.room userNo
    let replacement ← owner room
    match replacement with
    | none => return []
    | some participant =>
      let room ← internal (room.replaceOwnerPresentation participant)
      return [(userNo, room)]
  else
    .ok []

/-- What the four refreshing operations share: the room the user is a member of,
then a distinct owned room. -/
def replaceRoles (userNo : UserNo)
    (member : Membership → Except MyRoomHubError (Option (RoomState u × MyRoomParticipant u)))
    (owner : RoomState u → Except MyRoomHubError (Option (MyRoomParticipant u))) :
    Except MyRoomHubError (List (UserNo × RoomState u)) :=
  if !self.rolePresent userNo then
    .error (.invariant (.orphanCanonicalGeneration userNo))
  else do
    let visited ← self.replaceMember userNo member
    let owned ← self.replaceOwner userNo owner
    return visited ++ owned

/-- The changes that store rooms. -/
def roomChanges (rooms : List (UserNo × RoomState u)) : List (RoomChange u) :=
  rooms.map fun entry => (entry.1, some entry.2)

/-- The publications of stored rooms. -/
def publications (rooms : List (UserNo × RoomState u)) : List RoomPublication :=
  rooms.map fun entry => entry.2.publication entry.1

/-- `replacement_rooms`. -/
def replacementRooms (userNo : UserNo) (replacement : MyRoomParticipant u) :
    Except MyRoomHubError (List (UserNo × RoomState u)) :=
  self.replaceRoles userNo
    (fun membership => do
      let room ← self.room membership.owner
      return some (room, replacement))
    (fun _ => return some replacement)

/-- `p2p_endpoint_replacement_rooms`: a role whose endpoint does not change, and an
absent owner, are left alone. -/
def p2pEndpointReplacementRooms (identity : IdentityBinding) (port : Nat) :
    Except MyRoomHubError (List (UserNo × RoomState u)) :=
  self.replaceRoles identity.userNo
    (fun membership => do
      let (room, current) ← self.seat identity.userNo membership
      let patched ← participantWithP2pEndpoint current identity port
      return if patched ≠ current then some (room, patched) else none)
    (fun room =>
      if room.ownerPresent then do
        let patched ← participantWithP2pEndpoint room.owner identity port
        return if patched ≠ room.owner then some patched else none
      else return none)

/-- `profile_replacement_rooms`. -/
def profileReplacementRooms (userNo : UserNo) (identity : IdentityBinding)
    (presentation : MyRoomProfilePresentation) :
    Except MyRoomHubError (List (UserNo × RoomState u)) :=
  self.replaceRoles userNo
    (fun membership => do
      let (room, current) ← self.seat userNo membership
      let replacement ← participantWithProfile current identity presentation
      return some (room, replacement))
    (fun room => do
      let replacement ← participantWithProfile room.owner identity presentation
      return some replacement)

/-- `migrated_replacement_rooms`. -/
def migratedReplacementRooms (userNo : UserNo) (replacement : IdentityBinding) :
    Except MyRoomHubError (List (UserNo × RoomState u)) :=
  self.replaceRoles userNo
    (fun membership => do
      let (room, current) ← self.seat userNo membership
      let migrated ← migratedParticipant current replacement
      return some (room, migrated))
    (fun room => do
      let migrated ← migratedParticipant room.owner replacement
      return some migrated)

/-- `update_owner_info`. -/
def updateOwnerInfo (identity : IdentityBinding) (info : MyRoomInfo) :
    Except MyRoomHubError (MyRoomTransition u OwnerInfoUpdate) :=
  match hinfo : validateMyroomInfo info with
  | .error e => .error (.wire e)
  | .ok () => do
    let membership ← self.membershipExact identity
    if membership.owner ≠ identity.userNo ∨ membership.slot ≠ .owner then
      .error (.notPresentOwner identity.userNo)
    else
      let nextRevision ← self.nextRevision
      let room ← self.room identity.userNo
      self.transition nextRevision
        [(identity.userNo,
          some { room with info := info, infoValid := hinfo, infoRevision := nextRevision })]
        [] [] ⟨identity.userNo, room.info, info⟩

/-- `refresh_participant`. -/
def refreshParticipant (participant : MyRoomParticipant u) :
    Except MyRoomHubError (MyRoomTransition u ParticipantRefreshEffects) := do
  self.requireCanonicalIdentity participant.identity
  let nextRevision ← self.nextRevision
  let rooms ← self.replacementRooms participant.userNo participant
  self.transition nextRevision (roomChanges rooms) [] [] ⟨publications rooms⟩

/-- `refresh_profile_if_tracked`. -/
def refreshProfileIfTracked (identity : IdentityBinding)
    (presentation : MyRoomProfilePresentation) :
    Except MyRoomHubError (Option (MyRoomTransition u Unit)) := do
  let hasRole ← self.hasRole identity.userNo
  if !hasRole then return none
  else
    self.requireCanonicalIdentity identity
    let nextRevision ← self.nextRevision
    let rooms ← self.profileReplacementRooms identity.userNo identity presentation
    let transition ← self.transition nextRevision (roomChanges rooms) [] [] ()
    return some transition

/-- `refresh_p2p_endpoint_if_tracked`. -/
def refreshP2pEndpointIfTracked (identity : IdentityBinding) (port : Nat) :
    Except MyRoomHubError (Option (MyRoomTransition u Unit)) := do
  let hasRole ← self.hasRole identity.userNo
  if !hasRole then return none
  else
    self.requireCanonicalIdentity identity
    let rooms ← self.p2pEndpointReplacementRooms identity port
    if rooms.isEmpty then return none
    else
      let nextRevision ← self.nextRevision
      let transition ← self.transition nextRevision (roomChanges rooms) [] [] ()
      return some transition

/-- `canonical_identity_if_tracked`. -/
def canonicalIdentityIfTracked (userNo : UserNo) :
    Except MyRoomHubError (Option IdentityBinding) := do
  let hasRole ← self.hasRole userNo
  if !hasRole then return none
  else
    match self.generations.lookup userNo with
    | none => .error (.invariant (.missingCanonicalGeneration userNo))
    | some canonical => return some canonical

/-- `advance_identity`. -/
def advanceIdentity (previous : IdentityBinding) (replacement : MyRoomParticipant u) :
    Except MyRoomHubError (MyRoomTransition u IdentityAdvanceEffects) := do
  self.requireCanonicalIdentity previous
  validateIdentityAdvance u previous replacement.identity
  let nextRevision ← self.nextRevision
  let rooms ← self.replacementRooms previous.userNo replacement
  self.transition nextRevision (roomChanges rooms) []
    [(previous.userNo, some replacement.identity)]
    ⟨previous, replacement.identity, publications rooms⟩

/-- `advance_profiled_identity_if_tracked`: the port of the loaded profile belongs to
the connection before and is cleared. -/
def advanceProfiledIdentityIfTracked (previous replacement : IdentityBinding)
    (presentation : MyRoomProfilePresentation) :
    Except MyRoomHubError (Option (MyRoomTransition u IdentityAdvanceEffects)) := do
  let hasRole ← self.hasRole previous.userNo
  if !hasRole then return none
  else
    let participant ← { presentation with p2pPort := 0 }.bind u replacement
    let transition ← self.advanceIdentity previous participant
    return some transition

/-- `advance_migrated_identity_if_tracked`. -/
def advanceMigratedIdentityIfTracked (previous replacement : IdentityBinding) :
    Except MyRoomHubError (Option (MyRoomTransition u IdentityAdvanceEffects)) := do
  let hasRole ← self.hasRole previous.userNo
  if !hasRole then return none
  else
    self.requireCanonicalIdentity previous
    validateIdentityAdvance u previous replacement
    let nextRevision ← self.nextRevision
    let rooms ← self.migratedReplacementRooms previous.userNo replacement
    let transition ← self.transition nextRevision (roomChanges rooms) []
      [(previous.userNo, some replacement)] ⟨previous, replacement, publications rooms⟩
    return some transition

end MyRoomHub

end P4475.MyRoom
