import P4475.MyRoom.Departures

/-!
# Entering

A member enrols itself and the owner if they are new, leaves the room it is in, and
takes a seat. The changes are compared with those four edits of the directory.
-/

namespace P4475.MyRoom

open Lib

variable {u : Unicode}

namespace MyRoomHub

variable {self : MyRoomHub u}

/-- What `enter` knows about the two identities when it builds its transition. -/
structure Enters (hub : MyRoomHub u) (plan : EnterPlan u) : Prop where
  next : plan.nextRevision = hub.revision + 1
  destination : plan.destination = plan.owner.participant.userNo
  owner : hub.generations.lookup plan.owner.participant.userNo =
    if plan.ownerIsNew then none else some plan.owner.participant.identity
  member : hub.generations.lookup plan.member.userNo =
    if plan.memberIsNew then none else some plan.member.identity
  current : plan.current = hub.memberships.lookup plan.member.userNo
  elsewhere : ∀ m, plan.current = some m → m.owner ≠ plan.destination
  slot : ∀ room, hub.rooms.lookup plan.destination = some room →
    room.nextSlotFor plan.member.userNo = some plan.destinationSlot
  newSlot : hub.rooms.lookup plan.destination = none →
    (plan.member.userNo = plan.destination ↔ plan.destinationSlot = .owner)
  capacity : hub.generations.keys.card + ((if plan.ownerIsNew then 1 else 0) +
      (if plan.memberIsNew ∧ plan.member.userNo ≠ plan.owner.participant.userNo then 1 else 0)) -
      (if plan.current.any fun m => hub.enterPrunesOldOwnerGeneration m plan.member.userNo
        then 1 else 0) ≤ hub.identityCapacity

theorem destinationSlot_spec (member : MyRoomParticipant u) (owner : MyRoomOwner u) :
    Outcome Sized (fun slot =>
      (∀ room, self.rooms.lookup owner.participant.userNo = some room →
        room.nextSlotFor member.userNo = some slot) ∧
      (self.rooms.lookup owner.participant.userNo = none →
        (member.userNo = owner.participant.userNo ↔ slot = .owner)))
      (self.destinationSlot member owner) := by
  unfold destinationSlot
  dsimp only
  split
  next room hr =>
    refine (self.requireCanonicalIdentity_spec room.owner.identity).bind fun _ _ => ?_
    refine (self.requireCanonicalIdentity_spec owner.participant.identity).bind fun _ _ => ?_
    split
    next slot hslot =>
      refine ⟨?_, fun hn => ?_⟩
      · intro room' hr'
        rw [hr] at hr'
        injection hr' with hr'
        rw [← hr']
        exact hslot
      · rw [hr] at hn
        exact absurd hn (by simp)
    next =>
      intro _ _ _
      simp
  next hr =>
    refine Outcome.ite (fun he => ?_) fun he => ?_
    · exact ⟨fun room hr' => absurd (hr.symm.trans hr') (by simp), fun _ => ⟨fun _ => rfl, fun _ => he⟩⟩
    · exact ⟨fun room hr' => absurd (hr.symm.trans hr') (by simp),
        fun _ => ⟨fun h => absurd h he, fun h => absurd h (by simp)⟩⟩

/-! ## The identities that come along -/

variable {plan : EnterPlan u}

/-- One user cannot be both new and known. -/
theorem Enters.same_new (h : Enters self plan)
    (he : plan.member.userNo = plan.owner.participant.userNo) :
    plan.memberIsNew = plan.ownerIsNew := by
  have hm := h.member
  rw [he, h.owner] at hm
  cases hmn : plan.memberIsNew <;> cases hon : plan.ownerIsNew <;> rw [hmn, hon] at hm
  · exact absurd hm (by simp)
  · exact absurd hm (by simp)

/-- Overwriting in place what the changes say about one user. -/
theorem after_overwrite (identity : IdentityBinding) (changes : List GenerationChange)
    (k : UserNo) :
    self.generations.after (changes.map fun change =>
      if change.1 = identity.userNo then (change.1, some identity) else change) k =
    if k = identity.userNo ∧ (changes.any fun change => change.1 = k) = true then some identity
    else self.generations.after changes k := by
  induction changes using List.reverseRecOn with
  | nil => rw [if_neg (by simp)]; rfl
  | append_singleton changes change ih =>
    obtain ⟨x, v⟩ := change
    rw [List.map_append, List.map_singleton, List.any_append, List.any_cons, List.any_nil,
      Map.after_concat]
    by_cases hx : x = identity.userNo
    · rw [if_pos hx, Map.after_concat, ih]
      by_cases hk : k = x
      · rw [if_pos hk, if_pos ⟨hk.trans hx, by simp [hk]⟩]
      · have hkx : ¬ x = k := fun h => hk h.symm
        rw [if_neg hk, if_neg hk, decide_eq_false hkx, Bool.or_false, Bool.or_false]
    · rw [if_neg hx, Map.after_concat, ih]
      by_cases hk : k = x
      · rw [if_pos hk, if_pos hk, if_neg fun h => hx (hk.symm.trans h.1)]
      · have hkx : ¬ x = k := fun h => hk h.symm
        rw [if_neg hk, if_neg hk, decide_eq_false hkx, Bool.or_false, Bool.or_false]

theorem after_pushGenerationSet (changes : List GenerationChange) (identity : IdentityBinding)
    (k : UserNo) :
    self.generations.after (pushGenerationSet changes identity) k =
      if k = identity.userNo then some identity else self.generations.after changes k := by
  unfold pushGenerationSet
  split
  next hany =>
    rw [after_overwrite]
    by_cases hk : k = identity.userNo
    · rw [if_pos hk, if_pos ⟨hk, hk ▸ hany⟩]
    · rw [if_neg hk, if_neg fun h => hk h.1]
  next => rw [Map.after_concat]

theorem after_ownerGenerations (plan : EnterPlan u) (k : UserNo) :
    self.generations.after (ownerGenerations plan) k =
      if plan.ownerIsNew = true ∧ k = plan.owner.participant.userNo then
        some plan.owner.participant.identity
      else self.generations.lookup k := by
  unfold ownerGenerations
  cases plan.ownerIsNew with
  | false => simp
  | true => rw [if_pos rfl, after_pushGenerationSet]; simp

/-- The bindings with the new owner and the new member. -/
theorem after_enterGenerations (plan : EnterPlan u) (k : UserNo) :
    self.generations.after (enterGenerations plan) k =
      if plan.memberIsNew = true ∧ k = plan.member.userNo then some plan.member.identity
      else self.generations.after (ownerGenerations plan) k := by
  unfold enterGenerations
  cases plan.memberIsNew with
  | false => simp
  | true => rw [if_pos rfl, after_pushGenerationSet]; simp

theorem mem_pushGenerationSet {changes : List GenerationChange} {identity : IdentityBinding}
    {change : GenerationChange} (h : change ∈ pushGenerationSet changes identity) :
    change.1 = identity.userNo ∨ change ∈ changes := by
  unfold pushGenerationSet at h
  split at h
  next =>
    obtain ⟨c, hc, rfl⟩ := List.mem_map.mp h
    split
    next he => exact Or.inl he
    next => exact Or.inr hc
  next =>
    rcases List.mem_append.mp h with h | h
    · exact Or.inr h
    · rw [List.mem_singleton.mp h]
      exact Or.inl rfl

/-- Only the new users appear in the changes. -/
theorem mem_enterGenerations {change : GenerationChange}
    (h : change ∈ enterGenerations plan) :
    (plan.memberIsNew = true ∧ change.1 = plan.member.userNo) ∨
    (plan.ownerIsNew = true ∧ change.1 = plan.owner.participant.userNo) := by
  have howner : change ∈ ownerGenerations plan →
      plan.ownerIsNew = true ∧ change.1 = plan.owner.participant.userNo := by
    intro hm
    unfold ownerGenerations at hm
    split at hm
    next hn =>
      rcases mem_pushGenerationSet hm with he | hm
      · exact ⟨hn, he⟩
      · exact absurd hm List.not_mem_nil
    next => exact absurd hm List.not_mem_nil
  unfold enterGenerations at h
  split at h
  next hn =>
    rcases mem_pushGenerationSet h with he | h
    · exact Or.inl ⟨hn, he⟩
    · exact Or.inr (howner h)
  next => exact Or.inr (howner h)

theorem length_pushGenerationSet (changes : List GenerationChange) (identity : IdentityBinding) :
    (pushGenerationSet changes identity).length ≤ changes.length + 1 := by
  unfold pushGenerationSet
  split
  next =>
    rw [List.length_map]
    omega
  next => rw [List.length_append, List.length_singleton]

theorem length_enterGenerations (plan : EnterPlan u) : (enterGenerations plan).length ≤ 2 := by
  have howner : (ownerGenerations plan).length ≤ 1 := by
    unfold ownerGenerations
    split
    next => exact length_pushGenerationSet [] _
    next => exact Nat.zero_le _
  have hmember := length_pushGenerationSet (ownerGenerations plan) plan.member.identity
  unfold enterGenerations
  split
  next => omega
  next => omega

/-- One user who is enrolled, if it is new. -/
theorem sound_enrolIf {d : Directory UserNo MyRoomSlotIndex IdentityBinding}
    {b : IdentityBinding} (isNew : Prop) [Decidable isNew] {S : UserNo → Prop}
    (hd : d.Sound IdentityBinding.userNo MyRoomSlotIndex.owner) (hS : d.OrphansIn S)
    (hb : isNew → d.names b.userNo = none) (hSb : S b.userNo) :
    ({ d with names := fun k => if isNew ∧ k = b.userNo then some b else d.names k } :
      Directory _ _ _).Sound IdentityBinding.userNo MyRoomSlotIndex.owner ∧
    ({ d with names := fun k => if isNew ∧ k = b.userNo then some b else d.names k } :
      Directory _ _ _).OrphansIn S := by
  by_cases hn : isNew
  · have he : (fun k => if isNew ∧ k = b.userNo then some b else d.names k) =
        (d.enrol IdentityBinding.userNo b).names := by
      funext k
      rw [Directory.enrol_names]
      simp [hn]
    rw [he]
    refine ⟨hd.enrol (hb hn), (hS.enrol b).mono fun k hk _ _ => ?_⟩
    rcases hk with hk | hk
    · exact hk
    · rw [hk]
      exact hSb
  · have he : (fun k => if isNew ∧ k = b.userNo then some b else d.names k) = d.names := by
      funext k
      rw [if_neg fun h => hn h.1]
    rw [he]
    exact ⟨hd, hS⟩

/-- The directory with the owner and the member enrolled. -/
def enrolledDirectory (self : MyRoomHub u) (plan : EnterPlan u) :
    Directory UserNo MyRoomSlotIndex IdentityBinding :=
  { self.directory with names := self.generations.after (enterGenerations plan) }

theorem Enters.enrolled (h : Enters self plan) (hok : self.Ok)
    (hsame : plan.member.userNo = plan.owner.participant.userNo →
      plan.member.identity = plan.owner.participant.identity) :
    (self.enrolledDirectory plan).Sound IdentityBinding.userNo MyRoomSlotIndex.owner ∧
    (self.enrolledDirectory plan).OrphansIn fun k =>
      k = plan.member.userNo ∨ k = plan.owner.participant.userNo := by
  -- the owner first, then the member, unless they are one user
  obtain ⟨hd, hS⟩ := sound_enrolIf (b := plan.owner.participant.identity)
    (plan.ownerIsNew = true)
    (S := fun k => k = plan.member.userNo ∨ k = plan.owner.participant.userNo) hok.sound
    (hok.orphans.mono fun k hk _ _ => hk.elim)
    (fun hn => by
      show self.generations.lookup _ = none
      rw [h.owner, if_pos hn])
    (Or.inr rfl)
  obtain ⟨hd', hS'⟩ := sound_enrolIf (b := plan.member.identity)
    (plan.memberIsNew = true ∧ plan.member.userNo ≠ plan.owner.participant.userNo)
    hd hS
    (fun hn => by
      show (if plan.ownerIsNew = true ∧ plan.member.userNo = plan.owner.participant.userNo
        then _ else self.generations.lookup _) = none
      rw [if_neg fun hc => hn.2 hc.2, h.member, if_pos hn.1])
    (Or.inl rfl)
  have he : self.generations.after (enterGenerations plan) = fun k =>
      if (plan.memberIsNew = true ∧ plan.member.userNo ≠ plan.owner.participant.userNo) ∧
          k = plan.member.identity.userNo then some plan.member.identity
      else if plan.ownerIsNew = true ∧ k = plan.owner.participant.identity.userNo then
        some plan.owner.participant.identity
      else self.directory.names k := by
    funext k
    rw [after_enterGenerations, after_ownerGenerations]
    by_cases hm : plan.memberIsNew = true ∧ k = plan.member.userNo
    · rw [if_pos hm]
      by_cases hone : plan.member.userNo = plan.owner.participant.userNo
      · rw [if_neg fun hc => hc.1.2 hone,
          if_pos ⟨(h.same_new hone) ▸ hm.1, hm.2.trans hone⟩, hsame hone]
      · rw [if_pos ⟨⟨hm.1, hone⟩, hm.2⟩]
    · have hneg : ¬ ((plan.memberIsNew = true ∧
          plan.member.userNo ≠ plan.owner.participant.userNo) ∧ k = plan.member.userNo) :=
        fun hc => hm ⟨hc.1.1, hc.2⟩
      rw [if_neg hm]
      exact (if_neg hneg).symm
  unfold enrolledDirectory
  rw [he]
  exact ⟨hd', hS'⟩

/-! ## The room left behind -/

theorem leaveOldRoom_spec (member : MyRoomParticipant u) (current : Option Membership) :
    Outcome Sized (fun left =>
      (current = none ∧ left = none) ∨
      ∃ m room room', current = some m ∧ self.rooms.lookup m.owner = some room ∧
        room'.shape = room.shape.put m.slot none ∧
        room.mappedCount = room'.mappedCount + 1 ∧ left = some (vacated m.owner room'))
      (self.leaveOldRoom member current) := by
  unfold leaveOldRoom
  split
  next => exact Or.inl ⟨rfl, rfl⟩
  next m =>
    refine (self.room_spec m.owner).bind fun room hr => ?_
    refine (internal_spec fun room' hroom' => And.intro (RoomState.removeParticipant_ok hroom').1
      (RoomState.removeParticipant_count hroom')).bind fun room' ⟨hshape, hcount⟩ => ?_
    exact Or.inr ⟨m, room, room', rfl, hr, hshape, hcount, rfl⟩

/-- The directory once the member has left the room it was in. -/
noncomputable def movedDirectory (self : MyRoomHub u) (plan : EnterPlan u) :
    Option (Membership × RoomState u) → Directory UserNo MyRoomSlotIndex IdentityBinding
  | none => self.enrolledDirectory plan
  | some (m, room) =>
    (self.enrolledDirectory plan).vacate plan.member.userNo m.owner room.shape m.slot

/-- The room left behind, as the plan and the changes see it. -/
structure Leaves (hub : MyRoomHub u) (plan : EnterPlan u)
    (old : Option (Membership × RoomState u)) (left : Option (RoomChange u × RoomEffect)) :
    Prop where
  stays : old = none → plan.current = none ∧ left = none
  moves : ∀ m room, old = some (m, room) → plan.current = some m ∧
    hub.rooms.lookup m.owner = some room ∧
    ∃ room', room'.shape = room.shape.put m.slot none ∧
      room.mappedCount = room'.mappedCount + 1 ∧ left = some (vacated m.owner room')

variable {old : Option (Membership × RoomState u)} {left : Option (RoomChange u × RoomEffect)}

theorem Leaves.rooms (hl : Leaves self plan old left) (k : UserNo) :
    (self.rooms.after (left.map (·.1)).toList k).map RoomState.shape =
      (self.movedDirectory plan old).rooms k := by
  cases old with
  | none => rw [(hl.stays rfl).2]; rfl
  | some old =>
    obtain ⟨m, room⟩ := old
    obtain ⟨-, -, room', hshape, -, rfl⟩ := hl.moves m room rfl
    exact rooms_vacated (m := plan.member.userNo) hshape k

variable (plan old) in
theorem Leaves.names (k : UserNo) : (self.movedDirectory plan old).names k =
    self.generations.after (enterGenerations plan) k := by
  cases old with
  | none => rfl
  | some old => rfl

/-- The destination is not the room that is left. -/
theorem Leaves.destination (hl : Leaves self plan old left) (h : Enters self plan) :
    (self.movedDirectory plan old).rooms plan.destination =
      self.directory.rooms plan.destination := by
  cases old with
  | none => rfl
  | some old =>
    obtain ⟨m, room⟩ := old
    show ((self.enrolledDirectory plan).vacate _ _ _ _).rooms _ = _
    rw [Directory.vacate_rooms, if_neg fun he => h.elsewhere m (hl.moves m room rfl).1 he.symm]
    rfl

/-- The seats while the member is between two rooms. -/
theorem Leaves.seats (hl : Leaves self plan old left) (h : Enters self plan) (k : UserNo) :
    (self.movedDirectory plan old).seats k =
      if k = plan.member.userNo then none else self.directory.seats k := by
  cases old with
  | none =>
    show self.directory.seats k = _
    by_cases hk : k = plan.member.userNo
    · rw [if_pos hk, hk, directory_seats_none, ← h.current]
      exact (hl.stays rfl).1
    · rw [if_neg hk]
  | some old =>
    obtain ⟨m, room⟩ := old
    show ((self.enrolledDirectory plan).vacate _ _ _ _).seats _ = _
    rw [Directory.vacate_seats]
    rfl

theorem Leaves.sound (hl : Leaves self plan old left) (h : Enters self plan) (hok : self.Ok)
    (hsame : plan.member.userNo = plan.owner.participant.userNo →
      plan.member.identity = plan.owner.participant.identity) :
    (self.movedDirectory plan old).Sound IdentityBinding.userNo MyRoomSlotIndex.owner ∧
    (self.movedDirectory plan old).OrphansIn fun k =>
      k = plan.member.userNo ∨ k = plan.owner.participant.userNo ∨
      k ∈ ((left.map (·.2)).bind RoomEffect.deletedOwner).toList := by
  obtain ⟨hd, hS⟩ := h.enrolled hok hsame
  cases old with
  | none =>
    refine ⟨hd, hS.mono fun k hk _ _ => ?_⟩
    rcases hk with hk | hk
    · exact Or.inl hk
    · exact Or.inr (Or.inl hk)
  | some old =>
    obtain ⟨m, room⟩ := old
    obtain ⟨hm, hr, room', hshape, -, rfl⟩ := hl.moves m room rfl
    have hrooms : (self.enrolledDirectory plan).rooms m.owner = some room.shape :=
      directory_rooms hr
    have hseat : (self.enrolledDirectory plan).seats plan.member.userNo = some (m.owner, m.slot) :=
      directory_seats.mpr (h.current ▸ hm)
    refine ⟨hd.vacate hrooms hseat, hS.vacate.mono fun k hk _ hroom => ?_⟩
    rcases hk with (hk | hk) | hk | hk
    · exact Or.inl hk
    · exact Or.inr (Or.inl hk)
    · exact Or.inl hk
    · -- the old owner has lost its room, so the room was deleted
      refine Or.inr (Or.inr ?_)
      rw [Directory.vacate_rooms, if_pos hk, ← hshape, ← map_shape_vacated] at hroom
      show k ∈ (vacated m.owner room').2.deletedOwner.toList
      rw [vacated_snd]
      by_cases hz : room'.mappedCount = 0
      · rw [if_pos hz, hk]
        exact List.mem_singleton.mpr rfl
      · rw [if_neg hz] at hroom
        exact absurd hroom (by simp)

/-! ## The destination -/

/-- The room `enter` adds its member to. -/
def destinationRoom (self : MyRoomHub u) (plan : EnterPlan u) : RoomState u :=
  (self.rooms.lookup plan.destination).getD (RoomState.new plan.owner plan.nextRevision)

theorem Enters.destinationOwner (h : Enters self plan) (hok : self.Ok) :
    (self.destinationRoom plan).owner.userNo = plan.destination ∧
    (plan.member.userNo = plan.destination ↔ plan.destinationSlot = .owner) := by
  unfold destinationRoom
  cases hr : self.rooms.lookup plan.destination with
  | none => exact ⟨h.destination.symm, h.newSlot hr⟩
  | some room =>
    have howned : room.owner.userNo = plan.destination := hok.sound.owned (directory_rooms hr)
    refine ⟨howned, ?_⟩
    rw [← howned]
    exact RoomState.nextSlotFor_some (h.slot room hr)

/-- A member who is the owner enters under the owner's binding. -/
theorem Enters.same (h : Enters self plan) (hok : self.Ok)
    (hslot : plan.destinationSlot = .owner →
      plan.member.identity = (self.destinationRoom plan).owner.identity) :
    plan.member.userNo = plan.owner.participant.userNo →
      plan.member.identity = plan.owner.participant.identity := by
  intro he
  have howner := h.owner
  cases hon : plan.ownerIsNew with
  | false =>
    -- both are the canonical binding
    have hmember := h.member
    rw [h.same_new he, hon, he, howner, hon] at hmember
    simpa using hmember.symm
  | true =>
    -- a new owner has no room yet, so the owner's slot is taken in a new one
    rw [if_pos hon] at howner
    have hnameless : self.directory.rooms plan.destination = none := by
      rw [h.destination]
      exact (hok.sound.nameless howner).1
    have hr : self.rooms.lookup plan.destination = none := Option.map_eq_none_iff.mp hnameless
    have hown := hslot ((h.newSlot hr).mp (he.trans h.destination.symm))
    unfold destinationRoom at hown
    rw [hr] at hown
    exact hown

/-- The directory after an arrival. -/
noncomputable def arrivedDirectory (self : MyRoomHub u) (plan : EnterPlan u)
    (old : Option (Membership × RoomState u)) : Directory UserNo MyRoomSlotIndex IdentityBinding :=
  (self.movedDirectory plan old).sit IdentityBinding.userNo plan.destination
    (self.destinationRoom plan).shape plan.destinationSlot plan.member.identity

/-- The seat that the member takes is a seat it can take. -/
theorem Leaves.arrived (hl : Leaves self plan old left) (h : Enters self plan) (hok : self.Ok)
    (hslot : plan.destinationSlot = .owner →
      plan.member.identity = (self.destinationRoom plan).owner.identity)
    (hfree : ∀ i, plan.destinationSlot = .visitor i →
      (self.destinationRoom plan).visitors i = none) :
    (self.arrivedDirectory plan old).Sound IdentityBinding.userNo MyRoomSlotIndex.owner ∧
    (self.arrivedDirectory plan old).OrphansIn
      (· ∈ ((left.map (·.2)).bind RoomEffect.deletedOwner).toList) := by
  obtain ⟨hd, hS⟩ := hl.sound h hok (h.same hok hslot)
  obtain ⟨howned, hhome⟩ := h.destinationOwner hok
  have hseat : (self.movedDirectory plan old).seats plan.member.userNo = none := by
    rw [hl.seats h, if_pos rfl]
  have hname : (self.movedDirectory plan old).names plan.member.userNo =
      some plan.member.identity := by
    rw [Leaves.names, after_enterGenerations]
    cases hmn : plan.memberIsNew with
    | true => rw [if_pos ⟨rfl, rfl⟩]
    | false =>
      have hmember := h.member
      rw [hmn] at hmember
      have hnew : ¬ (plan.ownerIsNew = true ∧
          plan.member.userNo = plan.owner.participant.userNo) := by
        rintro ⟨hon, he⟩
        rw [← h.same_new he, hmn] at hon
        exact absurd hon (by simp)
      rw [if_neg (by simp), after_ownerGenerations, if_neg hnew]
      exact hmember
  have hroom : ((self.movedDirectory plan old).rooms plan.destination =
        some (self.destinationRoom plan).shape ∨
      ((self.movedDirectory plan old).rooms plan.destination = none ∧
        (self.destinationRoom plan).shape.Vacant)) ∧
      (self.movedDirectory plan old).names plan.destination =
        some (self.destinationRoom plan).owner.identity := by
    cases hr : self.rooms.lookup plan.destination with
    | some room =>
      have hdest : self.destinationRoom plan = room := by
        unfold destinationRoom
        rw [hr]
        rfl
      have hrooms : (self.movedDirectory plan old).rooms plan.destination = some room.shape := by
        rw [hl.destination h]
        exact directory_rooms hr
      rw [hdest]
      exact ⟨Or.inl hrooms, hd.ownerNamed hrooms⟩
    | none =>
      have hdest : self.destinationRoom plan = RoomState.new plan.owner plan.nextRevision := by
        unfold destinationRoom
        rw [hr]
        rfl
      have hrooms : (self.movedDirectory plan old).rooms plan.destination = none := by
        rw [hl.destination h]
        exact directory_rooms_none hr
      rw [hdest]
      refine ⟨Or.inr ⟨hrooms, RoomState.shape_new _ _⟩, ?_⟩
      rw [Leaves.names, after_enterGenerations, after_ownerGenerations, h.destination]
      by_cases hm : plan.memberIsNew = true ∧
          plan.owner.participant.userNo = plan.member.userNo
      · rw [if_pos hm, h.same hok hslot hm.2.symm]
        rfl
      · rw [if_neg hm]
        have howner := h.owner
        cases hon : plan.ownerIsNew with
        | true =>
          rw [if_pos ⟨rfl, rfl⟩]
          rfl
        | false =>
          rw [hon] at howner
          rw [if_neg (by simp)]
          exact howner
  have hvacant : (self.destinationRoom plan).shape.seat plan.destinationSlot = none := by
    cases hslot' : plan.destinationSlot with
    | visitor i =>
      rw [RoomState.shape_visitor, hfree i hslot']
      rfl
    | owner =>
      -- a mapped owner would be the member, who is seated nowhere
      cases hb : (self.destinationRoom plan).shape.seat .owner with
      | none => rfl
      | some b =>
        rcases hroom.1 with hrooms | ⟨-, hv⟩
        · have hat := hd.seated hrooms hb
          rw [(hd.home hrooms hb).mpr rfl, ← hhome.mpr hslot', hseat] at hat
          exact absurd hat (by simp)
        · rw [hv .owner] at hb
          exact absurd hb (by simp)
  refine ⟨hd.sit hroom.1 howned hroom.2 hvacant hname hseat hhome, hS.sit fun k hk hdest hm => ?_⟩
  rcases hk with hk | hk | hk
  · exact absurd hk hm
  · exact absurd (hk.trans h.destination.symm) hdest
  · exact hk

theorem Leaves.arrivedRooms (hl : Leaves self plan old left) {room' : RoomState u}
    (hshape : room'.shape = (self.destinationRoom plan).shape.put plan.destinationSlot
      (some plan.member.identity)) (k : UserNo) :
    (self.rooms.after ((left.map (·.1)).toList ++ [(plan.destination, some room')]) k).map
      RoomState.shape = (self.arrivedDirectory plan old).rooms k := by
  unfold arrivedDirectory
  rw [Map.after_concat, Directory.sit_rooms]
  by_cases hk : k = plan.destination
  · rw [if_pos hk, if_pos hk, ← hshape]
    rfl
  · rw [if_neg hk, if_neg hk, hl.rooms]

theorem Leaves.arrivedSeats (hl : Leaves self plan old left) (h : Enters self plan) (k : UserNo) :
    (self.memberships.after
      [(plan.member.userNo, some ⟨plan.destination, plan.destinationSlot⟩)] k).map
        (fun m => (m.owner, m.slot)) = (self.arrivedDirectory plan old).seats k := by
  unfold arrivedDirectory
  rw [Map.after_single, Directory.sit_seats, hl.seats h]
  by_cases hk : k = plan.member.userNo
  · rw [if_pos hk, if_pos hk]
    rfl
  · rw [if_neg hk, if_neg hk, if_neg hk]
    rfl

/-- The new users have a role once the member has its seat. -/
theorem Leaves.newRoles (h : Enters self plan)
    {change : GenerationChange} (hm : change ∈ enterGenerations plan) :
    (self.arrivedDirectory plan old).rooms change.1 ≠ none ∨
    (self.arrivedDirectory plan old).seats change.1 ≠ none := by
  unfold arrivedDirectory
  rcases mem_enterGenerations hm with ⟨-, he⟩ | ⟨-, he⟩
  · refine Or.inr ?_
    rw [Directory.sit_seats, if_pos he]
    simp
  · refine Or.inl ?_
    rw [Directory.sit_rooms, if_pos (he.trans h.destination.symm)]
    simp

/-! ## Capacity -/

/-- The users `enter` enrols. -/
def newUsers (plan : EnterPlan u) : Finset UserNo :=
  (if plan.ownerIsNew then {plan.owner.participant.userNo} else ∅) ∪
    (if plan.memberIsNew ∧ plan.member.userNo ≠ plan.owner.participant.userNo then
      {plan.member.userNo} else ∅)

theorem card_newUsers_le (plan : EnterPlan u) :
    (newUsers plan).card ≤ (if plan.ownerIsNew then 1 else 0) +
      (if plan.memberIsNew ∧ plan.member.userNo ≠ plan.owner.participant.userNo then 1
        else 0) := by
  unfold newUsers
  refine (Finset.card_union_le _ _).trans (Nat.add_le_add ?_ ?_)
  · split
    next => exact Nat.le_of_eq (Finset.card_singleton _)
    next => exact Nat.le_refl _
  · split
    next => exact Nat.le_of_eq (Finset.card_singleton _)
    next => exact Nat.le_refl _

/-- A user with a binding after the enrolments had one or is new. -/
theorem Enters.known_or_new (h : Enters self plan) {k : UserNo}
    (hk : self.generations.after (enterGenerations plan) k ≠ none) :
    k ∈ self.generations.keys ∪ newUsers plan := by
  rw [Finset.mem_union, Map.mem_keys_iff]
  rw [after_enterGenerations, after_ownerGenerations] at hk
  unfold newUsers
  rw [Finset.mem_union]
  by_cases hm : plan.memberIsNew = true ∧ k = plan.member.userNo
  · by_cases he : plan.member.userNo = plan.owner.participant.userNo
    · refine Or.inr (Or.inl ?_)
      rw [if_pos (h.same_new he ▸ hm.1)]
      exact Finset.mem_singleton.mpr (hm.2.trans he)
    · refine Or.inr (Or.inr ?_)
      rw [if_pos ⟨hm.1, he⟩]
      exact Finset.mem_singleton.mpr hm.2
  · rw [if_neg hm] at hk
    by_cases ho : plan.ownerIsNew = true ∧ k = plan.owner.participant.userNo
    · refine Or.inr (Or.inl ?_)
      rw [if_pos ho.1]
      exact Finset.mem_singleton.mpr ho.2
    · rw [if_neg ho] at hk
      exact Or.inl hk

/-- The user `enter_prunes_old_owner_generation` counts on loses its last role. -/
theorem Leaves.pruned (hl : Leaves self plan old left) (h : Enters self plan) {m : Membership}
    (hm : plan.current = some m)
    (hp : self.enterPrunesOldOwnerGeneration m plan.member.userNo = true) :
    m.owner ∈ self.generations.keys ∧
    m.owner ∈ ((left.map (·.2)).bind RoomEffect.deletedOwner).toList ∧
    (self.arrivedDirectory plan old).rooms m.owner = none ∧
    (self.arrivedDirectory plan old).seats m.owner = none ∧
    Erases (enterGenerations plan) m.owner := by
  unfold enterPrunesOldOwnerGeneration at hp
  rw [Bool.and_eq_true, Bool.and_eq_true, Bool.and_eq_true] at hp
  obtain ⟨⟨⟨hother, hknown⟩, hnowhere⟩, hlast⟩ := hp
  have hne : m.owner ≠ plan.member.userNo := by simpa using hother
  have hdest : m.owner ≠ plan.destination := h.elsewhere m hm
  have hgen : self.generations.lookup m.owner ≠ none := Option.isSome_iff_ne_none.mp hknown
  have hseat : self.directory.seats m.owner = none :=
    directory_seats_none.mpr (Option.isNone_iff_eq_none.mp hnowhere)
  obtain ⟨room, hold⟩ : ∃ room, old = some (m, room) := by
    cases old with
    | none => exact absurd (hm.symm.trans (hl.stays rfl).1) (by simp)
    | some old =>
      obtain ⟨m', room⟩ := old
      have hm' := (hl.moves m' room rfl).1
      rw [hm] at hm'
      injection hm' with hm'
      exact ⟨room, by rw [hm']⟩
  obtain ⟨-, hr, room', hshape, hcount, hleft⟩ := hl.moves m room hold
  have hzero : room'.mappedCount = 0 := by
    rw [hr, Option.any_some, decide_eq_true_eq] at hlast
    omega
  refine ⟨Map.mem_keys_iff.mpr hgen, ?_, ?_, ?_, ?_⟩
  · rw [hleft]
    show m.owner ∈ (vacated m.owner room').2.deletedOwner.toList
    rw [vacated_snd, if_pos hzero]
    exact List.mem_singleton.mpr rfl
  · unfold arrivedDirectory
    rw [Directory.sit_rooms, if_neg hdest, hold]
    show ((self.enrolledDirectory plan).vacate _ _ _ _).rooms _ = none
    rw [Directory.vacate_rooms, if_pos rfl, ← hshape, ← map_shape_vacated, if_pos hzero]
    rfl
  · unfold arrivedDirectory
    rw [Directory.sit_seats, if_neg hne, hl.seats h, if_neg hne]
    exact hseat
  · -- the pruned user was known before, so it is not one of the new ones
    intro change hmem he
    rcases mem_enterGenerations hmem with ⟨hn, hu⟩ | ⟨hn, hu⟩
    · exact absurd (he.symm.trans hu) hne
    · have howner := h.owner
      rw [if_pos hn, ← hu, he] at howner
      exact absurd howner hgen

/-- The bindings after an arrival fit the capacity that was validated: the new users
come on top, and the pruned one goes. -/
theorem Leaves.capacity (hl : Leaves self plan old left) (h : Enters self plan)
    {t : MyRoomTransition u EnterOutcome}
    (hgenerations : t.generations = self.pushGenerationPrunes (enterGenerations plan)
      ((left.map (·.2)).bind RoomEffect.deletedOwner).toList t.rooms t.memberships)
    (hreferenced : ∀ k, self.userReferencedAfter k t.rooms t.memberships = true ↔
      (self.arrivedDirectory plan old).rooms k ≠ none ∨
      (self.arrivedDirectory plan old).seats k ≠ none) :
    (self.apply t).generations.keys.card ≤ self.identityCapacity := by
  have hmem : ∀ k ∈ (self.apply t).generations.keys,
      k ∈ self.generations.keys ∪ newUsers plan := by
    intro k hk
    rw [Map.mem_keys_iff] at hk
    have hafter : self.generations.after t.generations k ≠ none := by
      rw [← Map.lookup_applyAll]
      exact hk
    rw [hgenerations] at hafter
    refine h.known_or_new (after_prunes_le ?_ hafter)
    intro change hc
    exact (hreferenced change.1).mpr (Leaves.newRoles h hc)
  have hunion : (self.generations.keys ∪ newUsers plan).card ≤
      self.generations.keys.card + ((if plan.ownerIsNew then 1 else 0) +
        (if plan.memberIsNew ∧ plan.member.userNo ≠ plan.owner.participant.userNo then 1
          else 0)) :=
    (Finset.card_union_le _ _).trans (Nat.add_le_add_left (card_newUsers_le plan) _)
  have hcapacity := h.capacity
  by_cases hp : (plan.current.any fun m =>
      self.enterPrunesOldOwnerGeneration m plan.member.userNo) = true
  · rw [if_pos hp] at hcapacity
    obtain ⟨m, hm, hprune⟩ : ∃ m, plan.current = some m ∧
        self.enterPrunesOldOwnerGeneration m plan.member.userNo = true := by
      cases hc : plan.current with
      | none => rw [hc] at hp; exact absurd hp (by simp)
      | some m => rw [hc] at hp; exact ⟨m, rfl, hp⟩
    obtain ⟨hknown, husers, hroom, hseat, herases⟩ := hl.pruned h hm hprune
    have hgone : m.owner ∉ (self.apply t).generations.keys := by
      rw [Map.mem_keys_iff, not_not]
      show (self.generations.applyAll t.generations).lookup m.owner = none
      rw [Map.lookup_applyAll, hgenerations]
      refine after_prunes_drop ?_ husers herases
      rw [← Bool.not_eq_true, hreferenced]
      rintro (hc | hc)
      · exact hc hroom
      · exact hc hseat
    have hsub : (self.apply t).generations.keys ⊆
        (self.generations.keys ∪ newUsers plan).erase m.owner := by
      intro k hk
      refine Finset.mem_erase.mpr ⟨?_, hmem k hk⟩
      intro he
      exact hgone (he ▸ hk)
    have hcard := Finset.card_le_card hsub
    rw [Finset.card_erase_of_mem (Finset.mem_union_left _ hknown)] at hcard
    omega
  · rw [if_neg hp] at hcapacity
    have hcard := Finset.card_le_card (fun k hk => hmem k hk :
      (self.apply t).generations.keys ⊆ self.generations.keys ∪ newUsers plan)
    omega

/-! ## The plans -/

theorem buildEnterTransition_planned (h : Enters self plan) :
    Outcome Sized (Planned self) (self.buildEnterTransition plan) := by
  unfold buildEnterTransition
  refine (leaveOldRoom_spec plan.member plan.current).bind fun left hleft => ?_
  obtain ⟨old, hl⟩ : ∃ old, Leaves self plan old left := by
    rcases hleft with ⟨hc, hn⟩ | ⟨m, room, room', hc, hr, hshape, hcount, hv⟩
    · exact ⟨none, fun _ => ⟨hc, hn⟩, fun m room he => absurd he (by simp)⟩
    · refine ⟨some (m, room), fun he => absurd he (by simp), fun m' room'' he => ?_⟩
      injection he with he
      injection he with hem her
      subst hem her
      exact ⟨hc, hr, room', hshape, hcount, hv⟩
  refine Outcome.bind (P := fun room' => room'.shape =
      (self.destinationRoom plan).shape.put plan.destinationSlot (some plan.member.identity) ∧
      (plan.destinationSlot = .owner →
        plan.member.identity = (self.destinationRoom plan).owner.identity) ∧
      (∀ i, plan.destinationSlot = .visitor i → (self.destinationRoom plan).visitors i = none))
    (internal_spec fun room' hroom' => RoomState.addMember_ok hroom')
    fun room' ⟨hshape, hslot, hfree⟩ => ?_
  refine (self.transition_spec _ _ _ _ _ ?_ ?_ ?_).mono ?_
  · have hone : (left.map (·.1)).toList.length ≤ 1 := by
      cases left with
      | none => exact Nat.zero_le _
      | some _ => exact Nat.le_refl _
    rw [List.length_append, List.length_singleton]
    show _ ≤ 2
    omega
  · show 1 ≤ 8
    omega
  · refine (length_pushGenerationPrunes _ _).trans ?_
    have hdeleted : ((left.map (·.2)).bind RoomEffect.deletedOwner).toList.length ≤ 1 := by
      cases (left.map (·.2)).bind RoomEffect.deletedOwner with
      | none => exact Nat.zero_le _
      | some _ => exact Nat.le_refl _
    have hnew := length_enterGenerations plan
    show _ ≤ 9
    omega
  · rintro t rfl
    refine ⟨rfl, Or.inl h.next, fun hok => ?_⟩
    obtain ⟨hsound, horphans⟩ := hl.arrived h hok hslot hfree
    have hrooms := hl.arrivedRooms hshape
    have hseats := hl.arrivedSeats h
    exact Ok.land hsound _ horphans _ rfl hrooms hseats
      (fun k => (Leaves.names plan old k).symm) (fun change hc => Leaves.newRoles h hc)
      (hl.capacity h rfl fun k => referenced_iff (hrooms k) (hseats k))

theorem enter_planned (member : MyRoomParticipant u) (owner : MyRoomOwner u) :
    Outcome Sized (Planned self) (self.enter member owner) := by
  unfold enter
  refine (self.validateOrNewIdentity_spec owner.participant.identity).bind
    fun ownerIsNew howner => ?_
  refine (self.validateOrNewIdentity_spec member.identity).bind fun memberIsNew hmember => ?_
  have helsewhere : ∀ current, current = self.memberships.lookup member.userNo →
      (∀ m, current = some m → m.owner ≠ owner.participant.userNo) →
      Outcome Sized (Planned self)
        (self.enterElsewhere member owner ownerIsNew memberIsNew current) := by
    intro current hcurrent hother
    unfold enterElsewhere
    refine (destinationSlot_spec member owner).bind fun slot ⟨hslot, hnewSlot⟩ => ?_
    refine (self.validateIdentityCapacity_spec _ _).bind fun _ hcapacity => ?_
    refine self.nextRevision_spec.bind fun next hnext => ?_
    exact buildEnterTransition_planned
      ⟨hnext, rfl, howner, hmember, hcurrent, hother, hslot, hnewSlot, hcapacity⟩
  split
  next hm => exact helsewhere none hm.symm fun m hc => absurd hc (by simp)
  next membership hm =>
    refine (self.requireExactMember_spec member.identity membership).bind fun _ _ => ?_
    refine Outcome.ite (fun _ => ?_) fun hne => ?_
    · refine (self.roomExactOwner_spec _ _).bind fun room _ => ?_
      refine (self.transition_spec _ _ _ _ _ ?_ ?_ ?_).mono ?_
      · exact Nat.zero_le _
      · exact Nat.zero_le _
      · exact Nat.zero_le _
      · rintro t rfl
        exact .quiet _
    · refine helsewhere (some membership) hm.symm ?_
      intro m hc
      injection hc with hc
      rw [← hc]
      exact hne

end MyRoomHub

end P4475.MyRoom
