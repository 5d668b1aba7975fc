import P4475.MyRoom.Hub

/-!
# The hub's audit

`audit_invariants`, and the invariant it audits: the hub is a sound directory
(`Lib.Directory`) without orphans, within its identity capacity. The audit walks
three hash tables; it answers `Ok` in every order.
-/

namespace P4475.MyRoom

open Lib

variable {u : Unicode}

/-- `?` over the elements of a collection. -/
def checkAll {α : Type} (check : α → Except MyRoomInvariantViolation Unit) :
    List α → Except MyRoomInvariantViolation Unit
  | [] => .ok ()
  | a :: rest => do
    check a
    checkAll check rest

theorem checkAll_ok {α : Type} {check : α → Except MyRoomInvariantViolation Unit} {l : List α}
    (h : ∀ a ∈ l, check a = .ok ()) : checkAll check l = .ok () := by
  induction l with
  | nil => rfl
  | cons a rest ih =>
    unfold checkAll
    rw [h a List.mem_cons_self]
    exact ih fun b hb => h b (List.mem_cons_of_mem a hb)

/-- `validate_player_snapshot`. -/
def validatePlayerSnapshot (owner : UserNo) (slot : Nat) (participant : MyRoomParticipant u) :
    Except MyRoomInvariantViolation Unit :=
  if validateMyroomPlayerSlot participant.player ≠ .ok () ∨
      participant.player.userNo ≠ participant.userNo.get ∨
      canonicalNicknameKey u participant.player.nickname ≠
        canonicalNicknameKey u participant.identity.nickname then
    .error (.invalidPlayerSnapshot owner slot)
  else
    .ok ()

namespace MyRoomHub

variable (self : MyRoomHub u)

/-- `audit_canonical`. -/
def auditCanonical (participant : MyRoomParticipant u) : Except MyRoomInvariantViolation Unit :=
  match self.generations.lookup participant.userNo with
  | none => .error (.missingCanonicalGeneration participant.userNo)
  | some canonical =>
    if canonical = participant.identity then .ok ()
    else
      .error (.canonicalGenerationMismatch participant.userNo canonical.generation.get
        participant.identity.generation.get)

/-- `require_reverse_membership`. -/
def requireReverseMembership (owner : UserNo) (slot : MyRoomSlotIndex)
    (participant : MyRoomParticipant u) : Except MyRoomInvariantViolation Unit :=
  if self.memberships.lookup participant.userNo = some ⟨owner, slot⟩ then .ok ()
  else .error (.missingReverseMembership owner slot.get participant.userNo)

/-- The visitors of one room, with the members seen before them. -/
def auditVisitors (owner : UserNo) (room : RoomState u) :
    List (Fin visitorCapacity) → List UserNo → Except MyRoomInvariantViolation Unit
  | [], _ => .ok ()
  | index :: rest, seen =>
    match room.visitors index with
    | none => auditVisitors owner room rest seen
    | some participant => do
      validatePlayerSnapshot owner (MyRoomSlotIndex.visitor index).get participant
      self.auditCanonical participant
      if participant.userNo = owner ∨ participant.userNo ∈ seen then
        .error (.duplicateRoomMember owner participant.userNo)
      else
        self.requireReverseMembership owner (.visitor index) participant
        auditVisitors owner room rest (participant.userNo :: seen)

/-- One room of the audit. -/
def auditRoom (owner : UserNo) (room : RoomState u) : Except MyRoomInvariantViolation Unit :=
  if room.mappedCount = 0 then .error (.emptyRoom owner)
  else if room.owner.userNo ≠ owner then
    .error (.wrongOwnerPresentation owner room.owner.userNo)
  else if room.ownerPresent = false ∧ room.owner.player.p2pPort ≠ 0 then
    .error (.absentOwnerAdvertisesP2pPort owner room.owner.player.p2pPort)
  else if validateMyroomInfo room.info ≠ .ok () then .error (.invalidRoomInfo owner)
  else do
    validatePlayerSnapshot owner 0 room.owner
    self.auditCanonical room.owner
    if room.ownerPresent then
      self.requireReverseMembership owner .owner room.owner
    self.auditVisitors owner room (List.finRange visitorCapacity)
      (if room.ownerPresent then [room.owner.userNo] else [])

/-- One membership of the audit. -/
def auditMembership (member : UserNo) (membership : Membership) :
    Except MyRoomInvariantViolation Unit :=
  match self.rooms.lookup membership.owner with
  | none => .error (.missingMembershipRoom member membership.owner)
  | some room =>
    match room.participant membership.slot with
    | none => .error (.membershipSlotMismatch member membership.slot.get)
    | some participant =>
      if participant.userNo ≠ member then
        .error (.membershipSlotMismatch member membership.slot.get)
      else
        self.auditCanonical participant

/-- `audit_invariants`, visiting the rooms, the members and the tracked users in the
given orders. -/
def auditInvariants (rooms members users : List UserNo) :
    Except MyRoomInvariantViolation Unit :=
  if self.identityCapacity < self.generations.keys.card then
    .error (.identityCapacityExceeded self.generations.keys.card self.identityCapacity)
  else do
    checkAll (fun owner => (self.rooms.lookup owner).elim (.ok ()) (self.auditRoom owner)) rooms
    checkAll (fun member =>
      (self.memberships.lookup member).elim (.ok ()) (self.auditMembership member)) members
    checkAll (fun userNo =>
      if (self.generations.lookup userNo).isSome ∧ !self.rolePresent userNo then
        .error (.orphanCanonicalGeneration userNo)
      else .ok ()) users

/-! ## The invariant -/

/-- The hub as a directory. -/
def directory : Directory UserNo MyRoomSlotIndex IdentityBinding where
  rooms owner := (self.rooms.lookup owner).map RoomState.shape
  seats member := (self.memberships.lookup member).map fun m => (m.owner, m.slot)
  names userNo := self.generations.lookup userNo

/-- A sound directory without orphans, within its capacity. -/
structure Ok (hub : MyRoomHub u) : Prop where
  sound : hub.directory.Sound IdentityBinding.userNo MyRoomSlotIndex.owner
  orphans : hub.directory.OrphansIn fun _ => False
  capacity : hub.generations.keys.card ≤ hub.identityCapacity

variable {self}

theorem directory_rooms {owner : UserNo} {room : RoomState u}
    (h : self.rooms.lookup owner = some room) : self.directory.rooms owner = some room.shape := by
  unfold directory
  dsimp only
  rw [h, Option.map_some]

theorem directory_rooms_none {owner : UserNo} (h : self.rooms.lookup owner = none) :
    self.directory.rooms owner = none := by
  unfold directory
  dsimp only
  rw [h, Option.map_none]

theorem directory_rooms_some {owner : UserNo} {s : Shape MyRoomSlotIndex IdentityBinding}
    (h : self.directory.rooms owner = some s) :
    ∃ room, self.rooms.lookup owner = some room ∧ room.shape = s :=
  Option.map_eq_some_iff.mp h

theorem directory_seats {member : UserNo} {membership : Membership} :
    self.directory.seats member = some (membership.owner, membership.slot) ↔
      self.memberships.lookup member = some membership := by
  unfold directory
  dsimp only
  rw [Option.map_eq_some_iff]
  constructor
  · rintro ⟨m, hm, he⟩
    injection he with ho hs
    rw [hm]
    cases m
    cases membership
    cases ho
    cases hs
    rfl
  · intro h
    exact ⟨membership, h, rfl⟩

theorem directory_seats_none {member : UserNo} :
    self.directory.seats member = none ↔ self.memberships.lookup member = none :=
  Option.map_eq_none_iff

/-- The bindings a room shows are the canonical ones. -/
theorem Ok.canonical (h : self.Ok) {owner : UserNo} {room : RoomState u} {slot : MyRoomSlotIndex}
    {p : MyRoomParticipant u} (hr : self.rooms.lookup owner = some room)
    (hp : room.participant slot = some p) :
    self.generations.lookup p.userNo = some p.identity ∧
    self.memberships.lookup p.userNo = some ⟨owner, slot⟩ ∧ (p.userNo = owner ↔ slot = .owner) := by
  have hshape := directory_rooms hr
  have hseat := RoomState.seat_of_participant hp
  exact ⟨h.sound.named hshape hseat, directory_seats.mp (h.sound.seated hshape hseat),
    h.sound.home hshape hseat⟩

/-- A membership leads to the participant it is about. -/
theorem Ok.membership (h : self.Ok) {member : UserNo} {membership : Membership}
    (hm : self.memberships.lookup member = some membership) :
    ∃ room p, self.rooms.lookup membership.owner = some room ∧
      room.participant membership.slot = some p ∧ p.userNo = member := by
  obtain ⟨s, b, hs, hb, hw⟩ := h.sound.member (directory_seats.mpr hm)
  obtain ⟨room, hr, rfl⟩ := directory_rooms_some hs
  obtain ⟨p, hp, rfl⟩ := RoomState.seat_some hb
  exact ⟨room, p, hr, hp, hw⟩

/-- A tracked user has a role. -/
theorem Ok.role (h : self.Ok) {userNo : UserNo} (hu : self.generations.lookup userNo ≠ none) :
    self.rolePresent userNo = true := by
  unfold rolePresent
  rw [Bool.or_eq_true]
  by_contra hn
  rw [not_or] at hn
  have hm : self.memberships.lookup userNo = none := by simpa using hn.1
  have hr : self.rooms.lookup userNo = none := by simpa using hn.2
  exact h.orphans userNo hu (directory_seats_none.mpr hm) (directory_rooms_none hr)

/-! ## The audit of a sound hub -/

theorem validatePlayerSnapshot_ok (owner : UserNo) (slot : Nat) (p : MyRoomParticipant u) :
    validatePlayerSnapshot owner slot p = .ok () := by
  unfold validatePlayerSnapshot
  rw [if_neg]
  rintro (h | h | h)
  · exact h p.presents.wire
  · exact h p.presents.userNo
  · exact h p.presents.nickname

theorem auditCanonical_ok {p : MyRoomParticipant u}
    (h : self.generations.lookup p.userNo = some p.identity) : self.auditCanonical p = .ok () := by
  unfold auditCanonical
  rw [h]
  dsimp only
  rw [if_pos rfl]

theorem requireReverseMembership_ok {owner : UserNo} {slot : MyRoomSlotIndex}
    {p : MyRoomParticipant u} (h : self.memberships.lookup p.userNo = some ⟨owner, slot⟩) :
    self.requireReverseMembership owner slot p = .ok () := by
  unfold requireReverseMembership
  rw [if_pos h]

/-- Nobody seen is seated at an index that is still to be visited. -/
theorem auditVisitors_ok (h : self.Ok) {owner : UserNo} {room : RoomState u}
    (hr : self.rooms.lookup owner = some room) (indices : List (Fin visitorCapacity)) :
    ∀ seen : List UserNo, indices.Nodup →
      (∀ x ∈ seen, ∀ i ∈ indices, self.memberships.lookup x ≠ some ⟨owner, .visitor i⟩) →
      self.auditVisitors owner room indices seen = .ok () := by
  induction indices with
  | nil =>
    intro seen _ _
    rfl
  | cons index rest ih =>
    intro seen hnodup hseen
    obtain ⟨hnew, hrest⟩ := List.nodup_cons.mp hnodup
    unfold auditVisitors
    cases hv : room.visitors index with
    | none =>
      dsimp only
      exact ih seen hrest fun x hx i hi => hseen x hx i (List.mem_cons_of_mem index hi)
    | some p =>
      have hp : room.participant (.visitor index) = some p := hv
      obtain ⟨hcanonical, hmember, hhome⟩ := h.canonical hr hp
      dsimp only
      rw [validatePlayerSnapshot_ok, auditCanonical_ok hcanonical]
      have hfresh : ¬ (p.userNo = owner ∨ p.userNo ∈ seen) := by
        rintro (he | he)
        · exact absurd (hhome.mp he) (by simp)
        · exact hseen p.userNo he index List.mem_cons_self hmember
      show (if p.userNo = owner ∨ p.userNo ∈ seen then _ else _) = _
      rw [if_neg hfresh, requireReverseMembership_ok hmember]
      refine ih (p.userNo :: seen) hrest ?_
      intro x hx i hi
      rcases List.mem_cons.mp hx with rfl | hx
      · intro he
        rw [hmember] at he
        injection he with he
        injection he with _ he
        injection he with he
        exact hnew (he ▸ hi)
      · exact hseen x hx i (List.mem_cons_of_mem index hi)

theorem auditRoom_ok (h : self.Ok) {owner : UserNo} {room : RoomState u}
    (hr : self.rooms.lookup owner = some room) : self.auditRoom owner room = .ok () := by
  have hshape := directory_rooms hr
  have howned : room.owner.userNo = owner := h.sound.owned hshape
  unfold auditRoom
  rw [if_neg, if_neg, if_neg, if_neg]
  · rw [validatePlayerSnapshot_ok]
    have hcanonical : self.generations.lookup room.owner.userNo = some room.owner.identity := by
      rw [howned]
      exact h.sound.ownerNamed hshape
    rw [auditCanonical_ok hcanonical]
    cases hp : room.ownerPresent with
    | false =>
      exact auditVisitors_ok h hr _ _ (List.nodup_finRange _)
        fun x hx => absurd hx List.not_mem_nil
    | true =>
      have hseat : room.participant .owner = some room.owner := by
        unfold RoomState.participant
        exact if_pos hp
      have hmember := (h.canonical hr hseat).2.1
      show (do
        self.requireReverseMembership owner .owner room.owner
        self.auditVisitors owner room (List.finRange visitorCapacity) [room.owner.userNo]) = _
      rw [requireReverseMembership_ok hmember]
      refine auditVisitors_ok h hr _ _ (List.nodup_finRange _) ?_
      intro x hx i _
      rw [List.mem_singleton.mp hx, hmember]
      simp
  · intro hn
    exact hn room.infoValid
  · intro hn
    exact hn.2 (room.tombstone hn.1)
  · intro hn
    exact hn howned
  · intro hn
    obtain ⟨i, hi⟩ := h.sound.occupied hshape
    exact hi (RoomState.mappedCount_eq_zero.mp hn i)

theorem auditMembership_ok (h : self.Ok) {member : UserNo} {membership : Membership}
    (hm : self.memberships.lookup member = some membership) :
    self.auditMembership member membership = .ok () := by
  obtain ⟨room, p, hr, hp, hw⟩ := h.membership hm
  unfold auditMembership
  rw [hr]
  dsimp only
  rw [hp]
  dsimp only
  rw [if_neg (not_not.mpr hw)]
  exact auditCanonical_ok (h.canonical hr hp).1

/-- **The audit of a sound hub is `Ok`**, whatever the iteration orders. -/
theorem Ok.audit (h : self.Ok) (rooms members users : List UserNo) :
    self.auditInvariants rooms members users = .ok () := by
  unfold auditInvariants
  rw [if_neg (Nat.not_lt.mpr h.capacity)]
  have hrooms : checkAll (fun owner =>
      (self.rooms.lookup owner).elim (.ok ()) (self.auditRoom owner)) rooms = .ok () := by
    refine checkAll_ok fun owner _ => ?_
    cases hr : self.rooms.lookup owner with
    | none => rfl
    | some room => exact auditRoom_ok h hr
  have hmembers : checkAll (fun member =>
      (self.memberships.lookup member).elim (.ok ()) (self.auditMembership member)) members =
      .ok () := by
    refine checkAll_ok fun member _ => ?_
    cases hm : self.memberships.lookup member with
    | none => rfl
    | some membership => exact auditMembership_ok h hm
  rw [hrooms, hmembers]
  refine checkAll_ok fun userNo _ => ?_
  rw [if_neg]
  rintro ⟨hu, hn⟩
  have hrole := h.role (Option.isSome_iff_ne_none.mp hu)
  rw [hrole] at hn
  exact absurd hn (by simp)

/-- An empty hub of any capacity. -/
theorem withIdentityCapacity_ok (u : Unicode) (identityCapacity : Nat) :
    (withIdentityCapacity u identityCapacity).Ok := by
  have hrooms : ∀ k, (withIdentityCapacity u identityCapacity).directory.rooms k = none :=
    fun k => rfl
  have hseats : ∀ k, (withIdentityCapacity u identityCapacity).directory.seats k = none :=
    fun k => rfl
  refine ⟨⟨?_, ?_, ?_, ?_, ?_, ?_, ?_⟩, ?_, Nat.zero_le _⟩
  · intro k s hs
    rw [hrooms] at hs
    exact absurd hs (by simp)
  · intro k s hs
    rw [hrooms] at hs
    exact absurd hs (by simp)
  · intro k s hs
    rw [hrooms] at hs
    exact absurd hs (by simp)
  · intro k s i b hs
    rw [hrooms] at hs
    exact absurd hs (by simp)
  · intro k s i b hs
    rw [hrooms] at hs
    exact absurd hs (by simp)
  · intro k s i b hs
    rw [hrooms] at hs
    exact absurd hs (by simp)
  · intro m k i hm
    rw [hseats] at hm
    exact absurd hm (by simp)
  · intro k hk
    exact absurd rfl hk

end MyRoomHub

end P4475.MyRoom
