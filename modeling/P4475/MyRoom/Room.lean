import P4475.Lib.Directory
import P4475.MyRoom.Types

/-!
# One MyRoom

`RoomState` of `p4475-server/src/myroom_hub.rs`: an owner, who may be absent and
then stands there as a tombstone without an endpoint, and seven visitor slots.
That a tombstone advertises no port is a field, so every operation that takes an
owner away or replaces one has to show it.

`shape` is what a directory (`Lib.Directory`) knows of a room: the owner's binding
and who sits where. Each operation is described by what it does to the shape.
-/

namespace P4475.MyRoom

open Lib

variable {u : Unicode}

structure RoomState (u : Unicode) where
  owner : MyRoomParticipant u
  info : MyRoomInfo
  infoValid : validateMyroomInfo info = .ok ()
  /-- Changes only when the owner updates the room's info. -/
  infoRevision : Nat
  ownerPresent : Bool
  visitors : Slots visitorCapacity (MyRoomParticipant u)
  tombstone : ownerPresent = false → owner.player.p2pPort = 0

structure MyRoomSnapshot where
  owner : UserNo
  slots : List MyRoomSlot
  deriving DecidableEq

/-- `RoomPublication`: a snapshot and its recipients in slot order. -/
structure RoomPublication where
  owner : UserNo
  snapshot : MyRoomSnapshot
  audience : List IdentityBinding
  deriving DecidableEq

namespace RoomState

/-- `RoomState::new`: the owner slot begins as a tombstone. -/
def new (owner : MyRoomOwner u) (infoRevision : Nat) : RoomState u where
  owner := owner.participant.withP2pPort 0
  info := owner.info
  infoValid := owner.valid
  infoRevision := infoRevision
  ownerPresent := false
  visitors := Slots.empty
  tombstone := fun _ => rfl

/-- `mapped_count`. -/
def mappedCount (self : RoomState u) : Nat :=
  (if self.ownerPresent then 1 else 0) + self.visitors.entries.length

/-- `next_slot_for`. -/
def nextSlotFor (self : RoomState u) (userNo : UserNo) : Option MyRoomSlotIndex :=
  if userNo = self.owner.userNo then some .owner
  else self.visitors.vacant.map .visitor

/-- `participant`. -/
def participant (self : RoomState u) : MyRoomSlotIndex → Option (MyRoomParticipant u)
  | .owner => if self.ownerPresent then some self.owner else none
  | .visitor index => self.visitors index

/-- `add_member`: an existing owner presentation is not refreshed. -/
def addMember (self : RoomState u) (slot : MyRoomSlotIndex) (participant : MyRoomParticipant u) :
    Except MyRoomInvariantViolation (RoomState u) :=
  match slot with
  | .owner =>
    if participant.identity ≠ self.owner.identity then
      .error (.canonicalGenerationMismatch participant.userNo self.owner.identity.generation.get
        participant.identity.generation.get)
    else
      .ok { self with
        owner := self.owner.withP2pPort participant.player.p2pPort
        ownerPresent := true
        tombstone := fun h => Bool.noConfusion h }
  | .visitor index =>
    if (self.visitors index).isSome then
      .error (.membershipSlotMismatch participant.userNo slot.get)
    else
      .ok { self with visitors := self.visitors.put index (some participant) }

/-- `replace_participant`. -/
def replaceParticipant (self : RoomState u) (slot : MyRoomSlotIndex)
    (participant : MyRoomParticipant u) : Except MyRoomInvariantViolation (RoomState u) :=
  match slot with
  | .owner =>
    if hseat : self.ownerPresent = false ∨ participant.userNo ≠ self.owner.userNo then
      .error (.membershipSlotMismatch participant.userNo slot.get)
    else
      .ok { self with owner := participant, tombstone := fun h => absurd (Or.inl h) hseat }
  | .visitor index =>
    match self.visitors index with
    | some current =>
      if current.userNo = participant.userNo then
        .ok { self with visitors := self.visitors.put index (some participant) }
      else
        .error (.membershipSlotMismatch participant.userNo slot.get)
    | none => .error (.membershipSlotMismatch participant.userNo slot.get)

/-- `replace_owner_presentation`. -/
def replaceOwnerPresentation (self : RoomState u) (participant : MyRoomParticipant u) :
    Except MyRoomInvariantViolation (RoomState u) :=
  if participant.userNo ≠ self.owner.userNo then
    .error (.wrongOwnerPresentation self.owner.userNo participant.userNo)
  else
    .ok { self with
      owner := if self.ownerPresent then participant else participant.withP2pPort 0
      tombstone := fun h => by rw [h]; rfl }

/-- `remove_participant`. -/
def removeParticipant (self : RoomState u) (slot : MyRoomSlotIndex) (expected : UserNo) :
    Except MyRoomInvariantViolation (RoomState u) :=
  match slot with
  | .owner =>
    if self.ownerPresent = false ∨ self.owner.userNo ≠ expected then
      .error (.membershipSlotMismatch expected slot.get)
    else
      .ok { self with
        owner := self.owner.withP2pPort 0
        ownerPresent := false
        tombstone := fun _ => rfl }
  | .visitor index =>
    match self.visitors index with
    | some participant =>
      if participant.userNo = expected then
        .ok { self with visitors := self.visitors.put index none }
      else
        .error (.membershipSlotMismatch expected slot.get)
    | none => .error (.membershipSlotMismatch expected slot.get)

/-- `snapshot`: slot zero shows the owner even while it is a tombstone. -/
def snapshot (self : RoomState u) (key : UserNo) : MyRoomSnapshot where
  owner := key
  slots := .player self.owner.player :: (List.finRange visitorCapacity).map fun index =>
    match self.visitors index with
    | none => .empty
    | some participant => .player participant.player

/-- `mapped_participants`. -/
def mappedParticipants (self : RoomState u) : List (MyRoomParticipant u) :=
  (if self.ownerPresent then [self.owner] else []) ++ self.visitors.entries

/-- `audience`. -/
def audience (self : RoomState u) : List IdentityBinding :=
  self.mappedParticipants.map (·.identity)

/-- `publication`. -/
def publication (owner : UserNo) (room : RoomState u) : RoomPublication where
  owner := owner
  snapshot := room.snapshot owner
  audience := room.audience

/-! ## Shapes -/

/-- Who owns the room and who sits where. -/
def shape (self : RoomState u) : Shape MyRoomSlotIndex IdentityBinding where
  owner := self.owner.identity
  seat slot := (self.participant slot).map (·.identity)

variable {room room' : RoomState u} {slot : MyRoomSlotIndex} {p : MyRoomParticipant u}

@[simp] theorem shape_owner : room.shape.owner = room.owner.identity := rfl

theorem shape_seat (slot : MyRoomSlotIndex) :
    room.shape.seat slot = (room.participant slot).map (·.identity) := rfl

theorem seat_of_participant (h : room.participant slot = some p) :
    room.shape.seat slot = some p.identity := by
  rw [shape_seat, h, Option.map_some]

theorem seat_some {b : IdentityBinding} (h : room.shape.seat slot = some b) :
    ∃ p, room.participant slot = some p ∧ p.identity = b :=
  Option.map_eq_some_iff.mp h

theorem shape_visitor (i : Fin visitorCapacity) :
    room.shape.seat (.visitor i) = (room.visitors i).map (·.identity) := rfl

/-- Writing one visitor entry writes one seat. -/
theorem shape_put_visitor {index : Fin visitorCapacity} {v : Option (MyRoomParticipant u)}
    (h : room'.visitors = room.visitors.put index v) (i : Fin visitorCapacity) :
    room'.shape.seat (.visitor i) = if MyRoomSlotIndex.visitor i = .visitor index then
      v.map (·.identity) else room.shape.seat (.visitor i) := by
  rw [shape_visitor, h, Slots.put_apply]
  by_cases hi : i = index
  · rw [if_pos hi, if_pos (by rw [hi])]
  · rw [if_neg hi, if_neg (by simpa using hi)]
    rfl

/-- A mapped owner is seated in the owner's slot. -/
theorem shape_present (h : room.ownerPresent = true) :
    room.shape.seat .owner = some room.owner.identity :=
  seat_of_participant (by unfold participant; exact if_pos h)

theorem shape_new (owner : MyRoomOwner u) (revision : Nat) : (new owner revision).shape.Vacant := by
  intro slot
  cases slot with
  | owner => rfl
  | visitor index => rfl

/-- Nobody is mapped exactly when every seat is free. -/
theorem mappedCount_eq_zero : room.mappedCount = 0 ↔ room.shape.Vacant := by
  unfold mappedCount
  have hentries : room.visitors.entries.length = 0 ↔ ∀ i, room.visitors i = none := by
    rw [Slots.length_entries, List.length_eq_zero_iff, ← Slots.isEmpty_iff]
    rfl
  constructor
  · intro h slot
    cases slot with
    | owner =>
      have hp : room.ownerPresent = false := by
        cases hp : room.ownerPresent with
        | false => rfl
        | true => rw [if_pos hp] at h; omega
      show ((if room.ownerPresent then some room.owner else none).map _ :
        Option IdentityBinding) = none
      rw [hp]
      rfl
    | visitor index =>
      have hv := hentries.mp (by omega) index
      rw [shape_visitor, hv]
      rfl
  · intro h
    have hp : room.ownerPresent ≠ true := by
      intro hp
      have ho := h .owner
      rw [shape_present hp] at ho
      exact absurd ho (by simp)
    have hv : ∀ i, room.visitors i = none := by
      intro i
      have hi := h (.visitor i)
      exact Option.map_eq_none_iff.mp hi
    rw [if_neg hp, hentries.mpr hv]

theorem addMember_ok (h : room.addMember slot p = .ok room') :
    room'.shape = room.shape.put slot (some p.identity) ∧
    (slot = .owner → p.identity = room.owner.identity) ∧
    (∀ i, slot = .visitor i → room.visitors i = none) := by
  cases slot with
  | owner =>
    unfold addMember at h
    dsimp only at h
    split at h
    next => exact absurd h (by simp)
    next hsame =>
      have hid : p.identity = room.owner.identity := not_not.mp hsame
      rw [← Except.ok.inj h]
      refine ⟨?_, fun _ => hid, fun i hi => absurd hi (by simp)⟩
      refine Shape.ext rfl fun slot => ?_
      rw [Shape.put_seat]
      cases slot with
      | owner => rw [if_pos rfl, hid]; rfl
      | visitor i => rw [if_neg (by simp)]; rfl
  | visitor index =>
    unfold addMember at h
    dsimp only at h
    split at h
    next => exact absurd h (by simp)
    next hfree =>
      rw [← Except.ok.inj h]
      refine ⟨?_, fun ho => absurd ho (by simp), ?_⟩
      · refine Shape.ext rfl fun slot => ?_
        rw [Shape.put_seat]
        cases slot with
        | owner => rw [if_neg (by simp)]; rfl
        | visitor i => exact shape_put_visitor (v := some p) (by rfl) i
      · intro i hi
        injection hi with hi
        rw [← hi]
        simpa using hfree

theorem removeParticipant_ok {expected : UserNo}
    (h : room.removeParticipant slot expected = .ok room') :
    room'.shape = room.shape.put slot none ∧
    ∃ b, room.shape.seat slot = some b ∧ b.userNo = expected := by
  cases slot with
  | owner =>
    unfold removeParticipant at h
    dsimp only at h
    split at h
    next => exact absurd h (by simp)
    next hseat =>
      have hpresent : room.ownerPresent = true := by
        by_contra hn
        exact hseat (Or.inl (Bool.eq_false_iff.mpr hn))
      have huser : room.owner.userNo = expected := by
        by_contra hn
        exact hseat (Or.inr hn)
      rw [← Except.ok.inj h]
      refine ⟨?_, room.owner.identity, ?_, huser⟩
      · refine Shape.ext rfl fun slot => ?_
        rw [Shape.put_seat]
        cases slot with
        | owner => rw [if_pos rfl]; rfl
        | visitor i => rw [if_neg (by simp)]; rfl
      · exact shape_present hpresent
  | visitor index =>
    unfold removeParticipant at h
    dsimp only at h
    split at h
    next participant hcur =>
      split at h
      next huser =>
        rw [← Except.ok.inj h]
        refine ⟨?_, participant.identity, seat_of_participant hcur, huser⟩
        refine Shape.ext rfl fun slot => ?_
        rw [Shape.put_seat]
        cases slot with
        | owner => rw [if_neg (by simp)]; rfl
        | visitor i => exact shape_put_visitor (v := none) (by rfl) i
      next => exact absurd h (by simp)
    next => exact absurd h (by simp)

/-- A removal unmaps one participant. -/
theorem removeParticipant_count {expected : UserNo}
    (h : room.removeParticipant slot expected = .ok room') :
    room.mappedCount = room'.mappedCount + 1 := by
  unfold mappedCount
  cases slot with
  | owner =>
    unfold removeParticipant at h
    dsimp only at h
    split at h
    next => exact absurd h (by simp)
    next hseat =>
      have hpresent : room.ownerPresent = true := by
        by_contra hn
        exact hseat (Or.inl (Bool.eq_false_iff.mpr hn))
      rw [← Except.ok.inj h, if_pos hpresent]
      show 1 + room.visitors.entries.length = 0 + room.visitors.entries.length + 1
      omega
  | visitor index =>
    unfold removeParticipant at h
    dsimp only at h
    split at h
    next participant hcur =>
      split at h
      next =>
        have hlen := (Slots.entries_put_none hcur).length_eq
        rw [List.length_cons] at hlen
        rw [← Except.ok.inj h]
        dsimp only
        omega
      next => exact absurd h (by simp)
    next => exact absurd h (by simp)

theorem replaceParticipant_ok (h : room.replaceParticipant slot p = .ok room') :
    (∃ b, room.shape.seat slot = some b ∧ b.userNo = p.userNo) ∧
    room'.shape.owner = (if slot = .owner then p.identity else room.shape.owner) ∧
    ∀ slot', room'.shape.seat slot' =
      if slot' = slot then some p.identity else room.shape.seat slot' := by
  cases slot with
  | owner =>
    unfold replaceParticipant at h
    dsimp only at h
    split at h
    next => exact absurd h (by simp)
    next hseat =>
      have hpresent : room.ownerPresent = true := by
        by_contra hn
        exact hseat (Or.inl (Bool.eq_false_iff.mpr hn))
      have huser : p.userNo = room.owner.userNo := by
        by_contra hn
        exact hseat (Or.inr hn)
      rw [← Except.ok.inj h]
      refine ⟨⟨room.owner.identity, ?_, huser.symm⟩, rfl, ?_⟩
      · exact shape_present hpresent
      · intro slot'
        cases slot' with
        | owner =>
          rw [if_pos rfl]
          exact shape_present hpresent
        | visitor i => rw [if_neg (by simp)]; rfl
  | visitor index =>
    unfold replaceParticipant at h
    dsimp only at h
    split at h
    next current hcur =>
      split at h
      next huser =>
        rw [← Except.ok.inj h]
        refine ⟨⟨current.identity, seat_of_participant hcur, huser⟩, rfl, ?_⟩
        intro slot'
        cases slot' with
        | owner => rw [if_neg (by simp)]; rfl
        | visitor i => exact shape_put_visitor (v := some p) (by rfl) i
      next => exact absurd h (by simp)
    next => exact absurd h (by simp)

theorem replaceOwnerPresentation_ok (h : room.replaceOwnerPresentation p = .ok room') :
    p.userNo = room.owner.userNo ∧ room'.shape.owner = p.identity ∧
    (∀ i, room'.shape.seat (.visitor i) = room.shape.seat (.visitor i)) ∧
    room'.shape.seat .owner = (room.shape.seat .owner).map fun _ => p.identity := by
  unfold replaceOwnerPresentation at h
  split at h
  next => exact absurd h (by simp)
  next huser =>
    rw [← Except.ok.inj h]
    refine ⟨not_not.mp huser, ?_, fun i => rfl, ?_⟩
    · show (if room.ownerPresent then p else p.withP2pPort 0).identity = p.identity
      split
      next => rfl
      next => rfl
    · rw [shape_seat, shape_seat]
      unfold participant
      dsimp only
      cases hp : room.ownerPresent with
      | false => rfl
      | true => rfl

/-- A free slot is offered to a visitor only while there is one. -/
theorem nextSlotFor_some {userNo : UserNo} (h : room.nextSlotFor userNo = some slot) :
    userNo = room.owner.userNo ↔ slot = .owner := by
  unfold nextSlotFor at h
  split at h
  next hu =>
    injection h with h
    exact ⟨fun _ => h.symm, fun _ => hu⟩
  next hu =>
    obtain ⟨i, -, rfl⟩ := Option.map_eq_some_iff.mp h
    exact ⟨fun he => absurd he hu, fun he => absurd he (by simp)⟩

end RoomState

end P4475.MyRoom
