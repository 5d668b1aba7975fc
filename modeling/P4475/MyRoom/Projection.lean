import P4475.Lib.Outcome
import P4475.MyRoom.Queries

/-!
# Projected rooms

A wire plan filled with profiles that were loaded outside the actor. `project` is not
modelled: what it checks of a slot is the field `projected`, so a projection that exists
has passed. `overlayPublication` shows a publication with the projected profiles.
-/

namespace P4475.MyRoom

open Lib

/-- `MyRoomWireProjectionError`, as far as `overlay_publication` returns it. -/
inductive MyRoomWireProjectionError
  | publicationOwnerMismatch (expected actual : UserNo)
  | publicationMissingOwner (owner : UserNo)
  | publicationUnexpectedPlayer (slot actual : Nat)
  | publicationPlayerMismatch (slot : Nat) (expected : UserNo) (actual : Nat)
  | publicationNicknameMismatch (slot : Nat) (expected actual : Text)
  | publicationMissingProjection (slot : Nat) (expected : UserNo)
  | publicationAudienceMismatch (userNo : UserNo) (generation : Nat)
  | publicationAudienceOrder (previous slot : Nat)
  | publicationMissingAudience (slot : Nat) (userNo : UserNo)
  deriving DecidableEq

/-- What `project` checks of a slot, after it has set the player's port. -/
inductive Projects (u : Unicode) : Option IdentityBinding → Option Nat →
    Option MyRoomPlayerSlot → Prop
  | empty : Projects u none none none
  | player {identity : IdentityBinding} {player : MyRoomPlayerSlot}
      (presents : Presents u identity player)
      (endpoint : (player.p2pAddress, player.p2pPort) =
        legacyP2pEndpoint identity.sourceIp player.p2pPort) :
      Projects u (some identity) (some player.p2pPort) (some player)

structure MyRoomWireProjection (u : Unicode) where
  plan : MyRoomWirePlan
  slots : List (Option MyRoomPlayerSlot)
  projected : ∀ i : Nat, Projects u ((plan.slots[i]?).getD none) ((plan.p2pPorts[i]?).getD none)
    ((slots[i]?).getD none)

/-- The slot that shows a player, or an empty one. -/
def MyRoomSlot.ofPlayer : Option MyRoomPlayerSlot → MyRoomSlot
  | some shown => .player shown
  | none => .empty

namespace MyRoomWireProjection

variable {u : Unicode} (self : MyRoomWireProjection u)

/-- `snapshot`. -/
def snapshot : MyRoomSnapshot := ⟨self.plan.owner, self.slots.map MyRoomSlot.ofPlayer⟩

/-- `validate_publication_owner`. -/
def validatePublicationOwner (publication : RoomPublication) :
    Except MyRoomWireProjectionError Unit :=
  if publication.owner ≠ self.plan.owner then
    .error (.publicationOwnerMismatch self.plan.owner publication.owner)
  else if publication.snapshot.owner ≠ self.plan.owner then
    .error (.publicationOwnerMismatch self.plan.owner publication.snapshot.owner)
  else if publication.snapshot.slots.head? = some .empty then
    .error (.publicationMissingOwner self.plan.owner)
  else .ok ()

/-- One slot of `overlay_publication`, with `validate_publication_player`: the port is
the publication's, the rest of the player is the projection's. -/
def overlaySlot (index : Nat) : MyRoomSlot → Except MyRoomWireProjectionError MyRoomSlot
  | .empty => .ok .empty
  | .player cached =>
    match (self.plan.slots[index]?).getD none with
    | none => .error (.publicationUnexpectedPlayer index cached.userNo)
    | some identity =>
      if cached.userNo ≠ identity.userNo.get then
        .error (.publicationPlayerMismatch index identity.userNo cached.userNo)
      else if canonicalNicknameKey u cached.nickname ≠
          canonicalNicknameKey u identity.nickname then
        .error (.publicationNicknameMismatch index identity.nickname cached.nickname)
      else
        match (self.slots[index]?).getD none with
        | none => .error (.publicationMissingProjection index identity.userNo)
        | some projected => .ok (.player { projected with p2pPort := cached.p2pPort })

/-- The first loop of `validate_publication_audience`, with the slots that it has seen. -/
def seenAudience (slots : List MyRoomSlot) :
    List IdentityBinding → Option Nat → List Nat →
      Except MyRoomWireProjectionError (List Nat)
  | [], _, seen => .ok seen
  | identity :: rest, previous, seen =>
    match self.plan.slots.findIdx? (· = some identity) with
    | none => .error (.publicationAudienceMismatch identity.userNo identity.generation.get)
    | some index =>
      if (slots[index]?).getD .empty = .empty then
        .error (.publicationAudienceMismatch identity.userNo identity.generation.get)
      else
        match previous.filter (index ≤ ·) with
        | some previous => .error (.publicationAudienceOrder previous index)
        | none => seenAudience slots rest (some index) (index :: seen)

/-- The second loop of `validate_publication_audience`. -/
def requireSeen (seen : List Nat) (index : Nat) : MyRoomSlot →
    Except MyRoomWireProjectionError Unit
  | .empty => .ok ()
  | .player player =>
    if index = 0 ∨ index ∈ seen then .ok ()
    else
      match (self.plan.slots[index]?).getD none with
      | none => .error (.publicationUnexpectedPlayer index player.userNo)
      | some identity => .error (.publicationMissingAudience index identity.userNo)

/-- `overlay_publication`. -/
def overlayPublication (publication : RoomPublication) :
    Except MyRoomWireProjectionError RoomPublication := do
  self.validatePublicationOwner publication
  let slots ← publication.snapshot.slots.zipIdx.mapM fun entry =>
    self.overlaySlot entry.2 entry.1
  let seen ← self.seenAudience publication.snapshot.slots publication.audience none []
  publication.snapshot.slots.zipIdx.forM fun entry => self.requireSeen seen entry.2 entry.1
  return ⟨publication.owner, ⟨publication.snapshot.owner, slots⟩, publication.audience⟩

variable {self}

end MyRoomWireProjection

end P4475.MyRoom
