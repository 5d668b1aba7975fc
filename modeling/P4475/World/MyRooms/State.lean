import P4475.Lib.Pending
import P4475.MyRoom.Lifecycle
import P4475.MyRoom.Projection
import P4475.World.State

/-!
# The MyRoom state of a world

What `World` keeps for its MyRooms: the hub, the one-shot password grants, and the
profile writes that wait for the disk, in three tables that share one ticket counter.
The hub is kept sound: a transition is committed together with what its plan promised.

`serialize_slot_data` refuses only a player that `validate_myroom_player_slot` refuses,
and a participant has passed it, so a snapshot is a packet as it stands.
-/

namespace P4475

open Lib MyRoom

/-- `MyRoomProtectedResource`. -/
inductive MyRoomProtectedResource
  | ownerItems
  | ownerEmblems
  | career
  deriving DecidableEq

/-- `From<MyRoomProtectedFeature>`. -/
def MyRoomProtectedResource.ofFeature : MyRoomProtectedFeature → MyRoomProtectedResource
  | .garage => .ownerItems
  | .emblem => .ownerEmblems
  | .career => .career
  | .itemDictionary => .ownerItems

structure MyRoomPasswordGrant where
  requester : IdentityBinding
  owner : IdentityBinding
  policyRevision : Nat
  resource : MyRoomProtectedResource
  deriving DecidableEq

/-- `for_owner_item_plan`. -/
def MyRoomPasswordGrant.forOwnerItemPlan (feature : MyRoomProtectedFeature)
    (plan : MyRoomOwnerResourcePlan) : MyRoomPasswordGrant :=
  ⟨plan.requester, plan.owner, plan.policyRevision, .ofFeature feature⟩

/-- `matches_resource`. -/
def MyRoomPasswordGrant.matchesResource (self : MyRoomPasswordGrant)
    (resource : MyRoomProtectedResource) (plan : MyRoomOwnerResourcePlan) : Bool :=
  self.resource = resource ∧ self.requester = plan.requester ∧ self.owner = plan.owner ∧
    self.policyRevision = plan.policyRevision

/-- A nonzero `u64`. -/
structure MyRoomProfileTicketId where
  get : Nat
  pos : 0 < get
  bounded : get ≤ u64Max

theorem MyRoomProfileTicketId.ext {a b : MyRoomProfileTicketId} (h : a.get = b.get) : a = b := by
  cases a; cases b; cases h; rfl

instance : DecidableEq MyRoomProfileTicketId := fun _ _ =>
  decidable_of_iff _ ⟨MyRoomProfileTicketId.ext, congrArg MyRoomProfileTicketId.get⟩

theorem MyRoomProfileTicketId.first_bounded : 1 ≤ u64Max := by decide

/-- `FIRST`. -/
def MyRoomProfileTicketId.first : MyRoomProfileTicketId := ⟨1, Nat.one_pos, first_bounded⟩

/-- `successor`. -/
def MyRoomProfileTicketId.successor (self : MyRoomProfileTicketId) :
    Option MyRoomProfileTicketId :=
  if h : self.get + 1 ≤ u64Max then some ⟨self.get + 1, Nat.succ_pos _, h⟩ else none

/-- The `u16` item codes of a `RiderItemSelection`, in order. -/
abbrev RiderItemSelection := List Nat

/-- A proposal has been serialized for its echo, so it is valid. -/
structure PendingMyRoomInfoWrite where
  expected : IdentityBinding
  proposed : MyRoomInfo
  echo : OutboundDelivery
  valid : validateMyroomInfo proposed = .ok ()

/-- `PendingRiderEquipmentWrite` with what its completion is compared with; whether its
session wants to close stands in the world's own list. -/
structure RequestedRiderEquipment where
  expected : IdentityBinding
  requested : RiderItemSelection
  deriving DecidableEq

structure PendingMainEmblemWrite where
  expected : IdentityBinding
  requested : Nat × Nat × Nat
  acknowledgement : OutboundDelivery
  deriving DecidableEq

structure MyRooms (u : Unicode) where
  hub : MyRoomHub u
  sound : hub.Ok
  passwordGrants : Map UserNo MyRoomPasswordGrant
  nextTicket : Option MyRoomProfileTicketId
  infoWrites : Pending UserNo MyRoomProfileTicketId PendingMyRoomInfoWrite
  equipmentWrites : Pending UserNo MyRoomProfileTicketId RequestedRiderEquipment
  emblemWrites : Pending UserNo MyRoomProfileTicketId PendingMainEmblemWrite

/-- `ProfileSubject` and the presentation of a `MyRoomProfileLease`. -/
structure MyRoomProfileLease where
  subject : Text
  presentation : MyRoomProfilePresentation
  deriving DecidableEq

/-- `ProfileSubject::matches_nickname`. -/
def subjectMatches (u : Unicode) (subject nickname : Text) : Except IdentityError Bool :=
  match normalizeNickname u nickname with
  | .error e => .error (.invalidNickname e)
  | .ok nickname => .ok (decide (canonicalNicknameKey u subject = canonicalNicknameKey u nickname))

/-- `matches_nickname`. -/
def MyRoomProfileLease.matchesNickname (u : Unicode) (self : MyRoomProfileLease)
    (nickname : Text) : Except IdentityError Bool :=
  subjectMatches u self.subject nickname

/-- `has_pending_profile_write`. -/
def MyRooms.hasPendingProfileWrite {u : Unicode} (self : MyRooms u) (userNo : UserNo) : Bool :=
  self.infoWrites.waits userNo || self.equipmentWrites.waits userNo ||
    self.emblemWrites.waits userNo

namespace MyRooms

variable {u : Unicode}

/-- The MyRooms of a fresh world. -/
def initial (u : Unicode) (identityCapacity : Nat) : MyRooms u where
  hub := .withIdentityCapacity u identityCapacity
  sound := MyRoomHub.withIdentityCapacity_ok u identityCapacity
  passwordGrants := ∅
  nextTicket := some .first
  infoWrites := .empty
  equipmentWrites := .empty
  emblemWrites := .empty

/-- The hub after a transition. -/
def land {T : Type} (self : MyRooms u) (t : MyRoomTransition u T)
    (planned : MyRoomHub.Planned self.hub t) : MyRooms u :=
  { self with hub := self.hub.apply t, sound := planned.lands self.sound }

/-- A transition commits where it was planned. -/
theorem commit_planned {T : Type} {self : MyRooms u} {t : MyRoomTransition u T}
    (planned : MyRoomHub.Planned self.hub t) :
    t.commit self.hub = .ok (self.land t planned).hub := by
  rw [MyRoomHub.commit_eq, if_neg (not_not.mpr planned.base.symm)]
  rfl

/-- A plan of this hub with its commit, which therefore cannot be refused. -/
def transition {T : Type} (self : MyRooms u)
    {x : Except MyRoomHubError (MyRoomTransition u T)}
    (planned : Outcome Sized (MyRoomHub.Planned self.hub) x) :
    Except MyRoomHubError (T × MyRooms u) :=
  planned.attach.map fun t => (t.1.outcome, self.land t.1 t.2)

/-- The same of a plan that there may be. -/
def transitionIfAny {T : Type} (self : MyRooms u)
    {x : Except MyRoomHubError (Option (MyRoomTransition u T))}
    (planned : Outcome Sized (MyRoomHub.Optional self.hub) x) :
    Except MyRoomHubError (MyRooms u) :=
  planned.attach.map fun t =>
    match t with
    | ⟨none, _⟩ => self
    | ⟨some t, planned⟩ => self.land t (planned t rfl)

/-- `pending_myroom_password_grants.remove`. -/
def withoutGrant (self : MyRooms u) (userNo : UserNo) : MyRooms u :=
  { self with passwordGrants := self.passwordGrants.erase userNo }

end MyRooms

end P4475
