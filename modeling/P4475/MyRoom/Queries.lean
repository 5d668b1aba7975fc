import P4475.MyRoom.Hub
import P4475.MyRoom.Packets

/-!
# Queries of the hub

The read-only half of `MyRoomHub`: who is a member of what, whose room an entry would
lead to, who hears a peer, and the plans that a caller holds while it loads profiles
outside the actor. A plan is revalidated by planning again and comparing.
-/

namespace P4475.MyRoom

open Lib

variable {u : Unicode}

/-- `MyRoomOwnerResourcePlan`: everything that can invalidate an owner-scoped protected
read. Visitors are not part of it. -/
structure MyRoomOwnerResourcePlan where
  requester : IdentityBinding
  owner : IdentityBinding
  policyRevision : Nat
  visible : Bool
  deriving DecidableEq

structure MyRoomPresentOwnerPlan where
  owner : IdentityBinding
  deriving DecidableEq

/-- `MyRoomWirePlan`: the identities and ports of the eight slots. -/
structure MyRoomWirePlan where
  requester : IdentityBinding
  owner : UserNo
  slots : List (Option IdentityBinding)
  p2pPorts : List (Option Nat)
  deriving DecidableEq

structure PeerAudience where
  owner : UserNo
  senderSlot : MyRoomSlotIndex
  riderTalkEnabled : Bool
  peers : List IdentityBinding
  deriving DecidableEq

/-- `MyRoomVisitorEntryAvailability`. -/
inductive MyRoomVisitorEntryAvailability (u : Unicode)
  | available (owner : MyRoomOwner u)
  | full
  | unavailable

/-- `is_present_owner`. -/
def Membership.isPresentOwner (self : Membership) (userNo : UserNo) : Bool :=
  self.owner = userNo ∧ self.slot = .owner

namespace MyRoomHub

variable (self : MyRoomHub u)

/-- `membership_if_member`. -/
def membershipIfMember (identity : IdentityBinding) :
    Except MyRoomHubError (Option Membership) :=
  if self.rolePresent identity.userNo = false then
    if (self.generations.lookup identity.userNo).isSome then
      .error (.invariant (.orphanCanonicalGeneration identity.userNo))
    else .ok none
  else
    match self.generations.lookup identity.userNo with
    | none => .error (.invariant (.missingCanonicalGeneration identity.userNo))
    | some canonical => do
      requireSameBinding canonical identity
      match self.memberships.lookup identity.userNo with
      | none => return none
      | some membership =>
        self.requireExactMember identity membership
        return some membership

/-- The room of a member, whose owner presentation belongs to its owner. -/
def ownedRoom (owner : UserNo) : Except MyRoomHubError (RoomState u) := do
  let room ← self.room owner
  if room.owner.userNo ≠ owner then
    .error (.invariant (.wrongOwnerPresentation owner room.owner.userNo))
  else return room

/-- `owner_resource_plan_if_member`. -/
def ownerResourcePlanIfMember (identity : IdentityBinding) :
    Except MyRoomHubError (Option MyRoomOwnerResourcePlan) := do
  let membership ← self.membershipIfMember identity
  match membership with
  | none => return none
  | some membership =>
    let room ← self.ownedRoom membership.owner
    self.requireCanonicalIdentity room.owner.identity
    return some ⟨identity, room.owner.identity, room.infoRevision,
      identity.userNo = membership.owner ∨ room.info.useItemPassword = 0⟩

/-- `membership_owner_entry_input`. -/
def membershipOwnerEntryInput (identity : IdentityBinding) :
    Except MyRoomHubError (Option (MyRoomOwner u)) := do
  let membership ← self.membershipIfMember identity
  match membership with
  | none => return none
  | some membership =>
    let room ← self.ownedRoom membership.owner
    self.requireCanonicalIdentity room.owner.identity
    return some ⟨room.owner, room.info, room.infoValid⟩

/-- `tracked_owner_entry_input`. -/
def trackedOwnerEntryInput (identity : IdentityBinding) :
    Except MyRoomHubError (Option (MyRoomOwner u)) :=
  match self.rooms.lookup identity.userNo with
  | none => do
    let hasRole ← self.hasRole identity.userNo
    if hasRole then
      self.requireCanonicalIdentity identity
      return none
    else return none
  | some room => do
    self.requireCanonicalIdentity identity
    requireSameBinding room.owner.identity identity
    return some ⟨room.owner, room.info, room.infoValid⟩

/-- `present_owner_entry_input`. -/
def presentOwnerEntryInput (identity : IdentityBinding) :
    Except MyRoomHubError (Option (MyRoomOwner u)) := do
  let tracked ← self.trackedOwnerEntryInput identity
  match tracked with
  | none => return none
  | some owner =>
    let room ← self.room identity.userNo
    if room.ownerPresent = false then return none
    else
      let membership ← self.membershipExact identity
      if membership.owner ≠ identity.userNo ∨ membership.slot ≠ .owner then
        .error (.notPresentOwner identity.userNo)
      else return some owner

/-- `public_owner_entry_availability`. -/
def publicOwnerEntryAvailability (identity : IdentityBinding) :
    Except MyRoomHubError (MyRoomVisitorEntryAvailability u) := do
  let present ← self.presentOwnerEntryInput identity
  match present with
  | none => return .unavailable
  | some owner =>
    let room ← self.room identity.userNo
    if room.info.useRoomPassword ≠ 0 then return .unavailable
    else if room.visitors.vacant.isNone then return .full
    else return .available owner

/-- `peer_audience_if_member`. -/
def peerAudienceIfMember (identity : IdentityBinding) :
    Except MyRoomHubError (Option PeerAudience) := do
  let membership ← self.membershipIfMember identity
  match membership with
  | none => return none
  | some membership =>
    let room ← self.room membership.owner
    return some ⟨membership.owner, membership.slot, room.info.riderTalkEnabled,
      room.audience.filter (·.userNo ≠ identity.userNo)⟩

/-- `present_owner_plan`. -/
def presentOwnerPlan (identity : IdentityBinding) :
    Except MyRoomHubError (Option MyRoomPresentOwnerPlan) := do
  let present ← self.presentOwnerEntryInput identity
  return present.map fun _ => ⟨identity⟩

/-! ## Wire plans -/

/-- The slots of a room with their numbers, the owner's first. -/
def wireSlots (room : RoomState u) : List (MyRoomSlotIndex × Option (MyRoomParticipant u)) :=
  (.owner, some room.owner) ::
    (List.finRange visitorCapacity).map fun index => (.visitor index, room.visitors index)

/-- The check of one occupied slot in `wire_plan`. -/
def requireWireSlot (owner : UserNo) (room : RoomState u) :
    MyRoomSlotIndex × Option (MyRoomParticipant u) → Except MyRoomHubError Unit
  | (_, none) => .ok ()
  | (slot, some participant) => do
    self.requireCanonicalIdentity participant.identity
    if slot = .owner ∧ room.ownerPresent = false then return ()
    else if self.memberships.lookup participant.userNo ≠ some ⟨owner, slot⟩ then
      .error (.invariant (.missingReverseMembership owner slot.get participant.userNo))
    else return ()

/-- `wire_plan`. -/
def wirePlan (requester : IdentityBinding) (owner : UserNo) :
    Except MyRoomHubError MyRoomWirePlan := do
  let room ← self.ownedRoom owner
  (wireSlots room).forM (self.requireWireSlot owner room)
  return ⟨requester, owner, (wireSlots room).map (·.2.map (·.identity)),
    (wireSlots room).map (·.2.map (·.player.p2pPort))⟩

/-- `wire_plan_if_member`. -/
def wirePlanIfMember (identity : IdentityBinding) :
    Except MyRoomHubError (Option MyRoomWirePlan) := do
  let membership ← self.membershipIfMember identity
  match membership with
  | none => return none
  | some membership =>
    let plan ← self.wirePlan identity membership.owner
    return some plan

/-! ## Revalidation -/

/-- What the three revalidations share: the plan is made again for the same requester
and compared. -/
def revalidate {π : Type} [DecidableEq π] (planned requester : IdentityBinding)
    (owner : UserNo) (plan : π) (current : Except MyRoomHubError (Option π)) :
    Except MyRoomHubError Unit :=
  if requester ≠ planned then
    .error (.wirePlanRequesterMismatch planned.userNo planned.generation.get requester.userNo
      requester.generation.get)
  else
    match current with
    | .error e => .error e
    | .ok current => if current = some plan then .ok () else .error (.staleWirePlan owner)

/-- `revalidate_owner_resource_plan`. -/
def revalidateOwnerResourcePlan (requester : IdentityBinding) (plan : MyRoomOwnerResourcePlan) :
    Except MyRoomHubError Unit :=
  revalidate plan.requester requester plan.owner.userNo plan
    (self.ownerResourcePlanIfMember requester)

/-- `revalidate_present_owner_plan`. -/
def revalidatePresentOwnerPlan (identity : IdentityBinding) (plan : MyRoomPresentOwnerPlan) :
    Except MyRoomHubError Unit :=
  revalidate plan.owner identity plan.owner.userNo plan (self.presentOwnerPlan identity)

/-- `revalidate_wire_plan`. -/
def revalidateWirePlan (requester : IdentityBinding) (plan : MyRoomWirePlan) :
    Except MyRoomHubError Unit :=
  revalidate plan.requester requester plan.owner plan (self.wirePlanIfMember requester)

end MyRoomHub

end P4475.MyRoom
