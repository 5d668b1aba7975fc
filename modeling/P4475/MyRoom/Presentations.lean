import P4475.MyRoom.Arrivals

/-!
# Refreshing and advancing

The operations that replace what a user presents in every role it has, and with it
the user's binding when an identity advances. All of them are one renaming of the
directory; a refresh renames a user to the binding it has.
-/

namespace P4475.MyRoom

open Lib

variable {u : Unicode}

namespace MyRoomHub

variable {self : MyRoomHub u}

/-! ## The rooms that are replaced -/

/-- The member part of `replaceRoles`: the room of the membership, or nothing, and
nothing only for a user who is nowhere a member or keeps its binding. -/
def MemberReplaced (hub : MyRoomHub u) (b : IdentityBinding) (keeps : Prop)
    (rooms : List (UserNo × RoomState u)) : Prop :=
  (rooms = [] ∧ (hub.memberships.lookup b.userNo = none ∨ keeps)) ∨
  ∃ m room p room', hub.memberships.lookup b.userNo = some m ∧
    hub.rooms.lookup m.owner = some room ∧ (hub.Ok → p.identity = b) ∧
    room.replaceParticipant m.slot p = .ok room' ∧ rooms = [(m.owner, room')]

/-- The owner part: a distinct owned room, or nothing, and nothing only for a user who
owns no other room or keeps its binding. -/
def OwnerReplaced (hub : MyRoomHub u) (b : IdentityBinding) (keeps : Prop)
    (rooms : List (UserNo × RoomState u)) : Prop :=
  (rooms = [] ∧
    (hub.ownsElsewhere b.userNo (hub.memberships.lookup b.userNo) = false ∨ keeps)) ∨
  ∃ room p room', hub.ownsElsewhere b.userNo (hub.memberships.lookup b.userNo) = true ∧
    hub.rooms.lookup b.userNo = some room ∧ (hub.Ok → p.identity = b) ∧
    room.replaceOwnerPresentation p = .ok room' ∧ rooms = [(b.userNo, room')]

theorem replaceMember_spec {b : IdentityBinding} {keeps : Prop}
    {member : Membership → Except MyRoomHubError (Option (RoomState u × MyRoomParticipant u))}
    (hmember : ∀ m, self.memberships.lookup b.userNo = some m →
      Outcome Sized (fun r => (r = none ∧ keeps) ∨ ∃ room p, r = some (room, p) ∧
        self.rooms.lookup m.owner = some room ∧ (self.Ok → p.identity = b)) (member m)) :
    Outcome Sized (MemberReplaced self b keeps) (self.replaceMember b.userNo member) := by
  unfold replaceMember
  split
  next hm => exact Or.inl ⟨rfl, Or.inl hm⟩
  next m hm =>
    refine (hmember m hm).bind fun r hr => ?_
    rcases hr with ⟨rfl, hk⟩ | ⟨room, p, rfl, hroom, hp⟩
    · exact Or.inl ⟨rfl, Or.inr hk⟩
    · refine Outcome.bind (P := fun room' => room.replaceParticipant m.slot p = .ok room')
        (internal_spec fun _ h => h) fun room' hroom' => ?_
      exact Or.inr ⟨m, room, p, room', hm, hroom, hp, hroom', rfl⟩

theorem replaceOwner_spec {b : IdentityBinding} {keeps : Prop}
    {owner : RoomState u → Except MyRoomHubError (Option (MyRoomParticipant u))}
    (howner : ∀ room, self.rooms.lookup b.userNo = some room →
      Outcome Sized (fun r => (r = none ∧ keeps) ∨ ∃ p, r = some p ∧
        (self.Ok → p.identity = b))
        (owner room)) :
    Outcome Sized (OwnerReplaced self b keeps) (self.replaceOwner b.userNo owner) := by
  unfold replaceOwner
  refine Outcome.ite (fun hown => ?_) fun hown => ?_
  · refine (self.room_spec b.userNo).bind fun room hroom => ?_
    refine (howner room hroom).bind fun r hr => ?_
    rcases hr with ⟨rfl, hk⟩ | ⟨p, rfl, hp⟩
    · exact Or.inl ⟨rfl, Or.inr hk⟩
    · refine Outcome.bind (P := fun room' => room.replaceOwnerPresentation p = .ok room')
        (internal_spec fun _ h => h) fun room' hroom' => ?_
      exact Or.inr ⟨room, p, room', hown, hroom, hp, hroom', rfl⟩
  · exact Or.inl ⟨rfl, Or.inl (Bool.eq_false_iff.mpr hown)⟩

/-- What `replaceRoles` returns. -/
def Replaced (hub : MyRoomHub u) (b : IdentityBinding) (keeps : Prop)
    (rooms : List (UserNo × RoomState u)) : Prop :=
  ∃ visited owned, MemberReplaced hub b keeps visited ∧ OwnerReplaced hub b keeps owned ∧
    rooms = visited ++ owned

theorem replaceRoles_spec {b : IdentityBinding} {keeps : Prop}
    {member : Membership → Except MyRoomHubError (Option (RoomState u × MyRoomParticipant u))}
    {owner : RoomState u → Except MyRoomHubError (Option (MyRoomParticipant u))}
    (hmember : ∀ m, self.memberships.lookup b.userNo = some m →
      Outcome Sized (fun r => (r = none ∧ keeps) ∨ ∃ room p, r = some (room, p) ∧
        self.rooms.lookup m.owner = some room ∧ (self.Ok → p.identity = b)) (member m))
    (howner : ∀ room, self.rooms.lookup b.userNo = some room →
      Outcome Sized (fun r => (r = none ∧ keeps) ∨ ∃ p, r = some p ∧
        (self.Ok → p.identity = b))
        (owner room)) :
    Outcome Sized (Replaced self b keeps) (self.replaceRoles b.userNo member owner) := by
  unfold replaceRoles
  refine Outcome.ite (fun _ => ?_) fun _ => ?_
  · intro _ _ _
    simp
  · refine (replaceMember_spec hmember).bind fun visited hvisited => ?_
    refine (replaceOwner_spec howner).bind fun owned howned => ?_
    exact ⟨visited, owned, hvisited, howned, rfl⟩

theorem Replaced.length {b : IdentityBinding} {keeps : Prop}
    {rooms : List (UserNo × RoomState u)} (h : Replaced self b keeps rooms) :
    rooms.length ≤ 2 := by
  obtain ⟨visited, owned, hv, ho, rfl⟩ := h
  have hvisited : visited.length ≤ 1 := by
    rcases hv with ⟨rfl, -⟩ | ⟨m, room, p, room', -, -, -, -, rfl⟩
    · exact Nat.zero_le _
    · exact Nat.le_refl _
  have howned : owned.length ≤ 1 := by
    rcases ho with ⟨rfl, -⟩ | ⟨room, p, room', -, -, -, -, rfl⟩
    · exact Nat.zero_le _
    · exact Nat.le_refl _
  rw [List.length_append]
  omega

/-! ## The renaming -/

theorem ownsElsewhere_iff {userNo : UserNo} {membership : Option Membership} :
    self.ownsElsewhere userNo membership = true ↔
      self.rooms.lookup userNo ≠ none ∧ ∀ m, membership = some m → m.owner ≠ userNo := by
  unfold ownsElsewhere
  rw [Bool.and_eq_true, Option.isSome_iff_ne_none]
  refine and_congr Iff.rfl ?_
  cases membership with
  | none => simp
  | some m => simp

/-- One room of the renamed directory, when the changes leave it alone. -/
theorem Ok.unreplaced (hok : self.Ok) {b : IdentityBinding} {keeps : Prop}
    (hkeeps : keeps → self.generations.lookup b.userNo = some b) {k : UserNo}
    (hmember : ∀ m, self.memberships.lookup b.userNo = some m → m.owner = k → keeps)
    (howner : k = b.userNo →
      self.ownsElsewhere b.userNo (self.memberships.lookup b.userNo) = true → keeps) :
    self.directory.rooms k = (self.directory.rename IdentityBinding.userNo b).rooms k := by
  show _ = (self.directory.rooms k).map (Directory.Shape.rename IdentityBinding.userNo b)
  cases hs : self.directory.rooms k with
  | none => rfl
  | some s =>
    rw [Option.map_some]
    congr 1
    by_cases hk : keeps
    · exact (hok.sound.rename_self hs (hkeeps hk)).symm
    · have hseat : ∀ i, self.directory.seats b.userNo ≠ some (k, i) := by
        intro i hi
        have hm : self.memberships.lookup b.userNo = some ⟨k, i⟩ := directory_seats.mp hi
        exact hk (hmember ⟨k, i⟩ hm rfl)
      refine (hok.sound.rename_elsewhere hs ?_ hseat).symm
      intro he
      obtain ⟨room, hr, -⟩ := directory_rooms_some hs
      refine hk (howner he.symm (ownsElsewhere_iff.mpr ⟨?_, ?_⟩))
      · rw [he, hr]
        simp
      · intro m hm hmo
        exact hseat m.slot ((directory_seats.mpr hm).trans (by rw [hmo, he]))

/-- The renamed room a member is replaced in. -/
theorem Ok.member_renamed (hok : self.Ok) {b : IdentityBinding} {m : Membership}
    {room room' : RoomState u} {p : MyRoomParticipant u}
    (hm : self.memberships.lookup b.userNo = some m)
    (hroom : self.rooms.lookup m.owner = some room) (hp : p.identity = b)
    (hroom' : room.replaceParticipant m.slot p = .ok room') :
    (self.directory.rename IdentityBinding.userNo b).rooms m.owner = some room'.shape := by
  obtain ⟨-, hown, hseats⟩ := RoomState.replaceParticipant_ok hroom'
  have hshape := directory_rooms hroom
  show (self.directory.rooms m.owner).map _ = _
  rw [hshape, Option.map_some]
  congr 1
  refine hok.sound.rename_member hshape (directory_seats.mpr hm) ?_ ?_ ?_ ?_
  · intro h
    rw [hown, if_pos h, hp]
  · intro h
    rw [hown, if_neg h]
  · rw [hseats, if_pos rfl, hp]
  · intro j hj
    rw [hseats, if_neg hj]

/-- The renamed room of an owner who is a member of another one, or of none. -/
theorem Ok.owner_renamed (hok : self.Ok) {b : IdentityBinding} {room room' : RoomState u}
    {p : MyRoomParticipant u} (hroom : self.rooms.lookup b.userNo = some room)
    (hp : p.identity = b) (hroom' : room.replaceOwnerPresentation p = .ok room') :
    (self.directory.rename IdentityBinding.userNo b).rooms b.userNo = some room'.shape := by
  obtain ⟨-, hown, hvisitors, hhome⟩ := RoomState.replaceOwnerPresentation_ok hroom'
  have hshape := directory_rooms hroom
  show (self.directory.rooms b.userNo).map _ = _
  rw [hshape, Option.map_some]
  congr 1
  refine hok.sound.rename_owner hshape (hown.trans hp) ?_ (hp ▸ hhome)
  intro i hi
  cases i with
  | owner => exact absurd rfl hi
  | visitor i => exact hvisitors i

/-- Stored rooms are the rooms of a directory that holds each of them and agrees
with the hub elsewhere. -/
theorem rooms_stored {d : Directory UserNo MyRoomSlotIndex IdentityBinding}
    {rooms : List (UserNo × RoomState u)}
    (hstored : ∀ entry ∈ rooms, d.rooms entry.1 = some entry.2.shape)
    (hrest : ∀ k, (∀ entry ∈ rooms, entry.1 ≠ k) → self.directory.rooms k = d.rooms k)
    (k : UserNo) :
    (self.rooms.after (roomChanges rooms) k).map RoomState.shape = d.rooms k := by
  unfold Map.after
  split
  next change hfind =>
    have hkey : change.1 = k := by simpa using List.find?_some hfind
    have hmem := List.mem_reverse.mp (List.mem_of_find?_eq_some hfind)
    obtain ⟨entry, hentry, rfl⟩ := List.mem_map.mp hmem
    have hk : entry.1 = k := hkey
    rw [← hk, hstored entry hentry]
    rfl
  next hfind =>
    refine hrest k ?_
    intro entry hentry he
    have hmem : (entry.1, some entry.2) ∈ roomChanges rooms := List.mem_map.mpr ⟨entry, hentry, rfl⟩
    have hno := List.find?_eq_none.mp hfind _ (List.mem_reverse.mpr hmem)
    exact hno (by simpa using he)

/-- **Replacing the roles of one user is renaming it in the directory.** -/
theorem Replaced.renames {b : IdentityBinding} {keeps : Prop}
    {rooms : List (UserNo × RoomState u)} (h : Replaced self b keeps rooms) (hok : self.Ok)
    (hkeeps : keeps → self.generations.lookup b.userNo = some b) (k : UserNo) :
    (self.rooms.after (roomChanges rooms) k).map RoomState.shape =
      (self.directory.rename IdentityBinding.userNo b).rooms k := by
  obtain ⟨visited, owned, hv, ho, rfl⟩ := h
  refine rooms_stored ?_ ?_ k
  · intro entry hentry
    rcases List.mem_append.mp hentry with hmem | hmem
    · rcases hv with ⟨rfl, -⟩ | ⟨m, room, p, room', hm, hroom, hp, hroom', rfl⟩
      · exact absurd hmem List.not_mem_nil
      · rw [List.mem_singleton.mp hmem]
        exact hok.member_renamed hm hroom (hp hok) hroom'
    · rcases ho with ⟨rfl, -⟩ | ⟨room, p, room', -, hroom, hp, hroom', rfl⟩
      · exact absurd hmem List.not_mem_nil
      · rw [List.mem_singleton.mp hmem]
        exact hok.owner_renamed hroom (hp hok) hroom'
  · intro k hk
    refine hok.unreplaced hkeeps ?_ ?_
    · -- the room of a membership is among the visited, or the user keeps its binding
      intro m hm hmo
      rcases hv with ⟨-, hnone | hkeep⟩ | ⟨m', room, p, room', hm', -, -, -, rfl⟩
      · rw [hm] at hnone
        exact absurd hnone (by simp)
      · exact hkeep
      · rw [hm] at hm'
        injection hm' with hm'
        exact absurd (hm' ▸ hmo) (hk (m'.owner, room') (List.mem_append_left _ (by simp)))
    · intro he hown
      rcases ho with ⟨-, hnone | hkeep⟩ | ⟨room, p, room', -, -, -, -, rfl⟩
      · rw [hown] at hnone
        exact absurd hnone (by simp)
      · exact hkeep
      · exact absurd he.symm (hk (b.userNo, room') (List.mem_append_right _ (by simp)))

/-- Replaced roles land in a sound hub, with the user's binding written or kept. -/
theorem Replaced.lands {T : Type} {b : IdentityBinding} {keeps : Prop}
    {rooms : List (UserNo × RoomState u)} (h : Replaced self b keeps rooms)
    {t : MyRoomTransition u T} (hrooms : t.rooms = roomChanges rooms)
    (hmemberships : t.memberships = []) (htracked : self.generations.lookup b.userNo ≠ none)
    (hgenerations : t.generations = [(b.userNo, some b)] ∨
      (t.generations = [] ∧ self.generations.lookup b.userNo = some b))
    (hkeeps : keeps → self.generations.lookup b.userNo = some b) (hok : self.Ok) :
    (self.apply t).Ok := by
  have hafter : ∀ k, self.generations.after t.generations k =
      (self.directory.rename IdentityBinding.userNo b).names k := by
    intro k
    show _ = Function.update self.directory.names b.userNo (some b) k
    rw [Function.update_apply]
    rcases hgenerations with hg | ⟨hg, hb⟩
    · rw [hg, Map.after_single]
      rfl
    · rw [hg, Map.after_nil]
      by_cases he : k = b.userNo
      · rw [if_pos he, he, hb]
      · rw [if_neg he]
        rfl
  refine Ok.land (hok.sound.rename b) []
    ((hok.orphans.rename htracked).mono fun _ hf _ _ => hf.elim) t.generations rfl
    ?_ ?_ hafter ?_ ?_
  · rw [hrooms]
    exact h.renames hok hkeeps
  · rw [hmemberships]
    intro k
    rfl
  · -- the only change is about `b`, who is tracked and so has a role
    have hrole := hok.role htracked
    intro change hchange
    rcases hgenerations with hg | ⟨hg, -⟩
    · rw [hg, List.mem_singleton] at hchange
      rw [hchange]
      unfold rolePresent at hrole
      rw [Bool.or_eq_true, Option.isSome_iff_ne_none, Option.isSome_iff_ne_none] at hrole
      rcases hrole with hmember | howner
      · exact Or.inr fun hn => hmember (directory_seats_none.mp hn)
      · refine Or.inl fun hn => howner ?_
        exact Option.map_eq_none_iff.mp (Option.map_eq_none_iff.mp hn)
    · rw [hg] at hchange
      exact absurd hchange List.not_mem_nil
  · refine (card_apply_le fun k hk => ?_).trans hok.capacity
    by_cases he : k = b.userNo
    · rw [he]
      exact htracked
    · rw [hafter] at hk
      intro hn
      refine hk ?_
      show Function.update self.directory.names b.userNo (some b) k = none
      rw [Function.update_apply, if_neg he]
      exact hn

/-! ## The operations -/

/-- The seat of a user in a sound hub shows the user's binding. -/
theorem Ok.seat_identity (hok : self.Ok) {b : IdentityBinding} {m : Membership}
    {room : RoomState u} {p : MyRoomParticipant u}
    (hm : self.memberships.lookup b.userNo = some m)
    (hr : self.rooms.lookup m.owner = some room) (hp : room.participant m.slot = some p)
    (hb : self.generations.lookup b.userNo = some b) : p.identity = b := by
  obtain ⟨room', p', hr', hp', hw⟩ := hok.membership hm
  rw [hr] at hr'
  injection hr' with hr'
  subst hr'
  rw [hp] at hp'
  injection hp' with hp'
  subst hp'
  have hcanonical := (hok.canonical hr hp).1
  rw [hw, hb] at hcanonical
  injection hcanonical with hcanonical
  exact hcanonical.symm

/-- The owner of a room in a sound hub goes by its binding. -/
theorem Ok.owner_identity (hok : self.Ok) {b : IdentityBinding} {room : RoomState u}
    (hr : self.rooms.lookup b.userNo = some room)
    (hb : self.generations.lookup b.userNo = some b) : room.owner.identity = b := by
  have hnamed : self.generations.lookup b.userNo = some room.owner.identity :=
    hok.sound.ownerNamed (directory_rooms hr)
  rw [hb] at hnamed
  injection hnamed with hnamed
  exact hnamed.symm

theorem participantWithP2pEndpoint_spec (current : MyRoomParticipant u)
    (identity : IdentityBinding) (port : Nat) :
    Outcome Sized (fun p => p.identity = current.identity)
      (participantWithP2pEndpoint current identity port) :=
  newParticipant_spec _ _

theorem participantWithProfile_spec (current : MyRoomParticipant u) (identity : IdentityBinding)
    (presentation : MyRoomProfilePresentation) :
    Outcome Sized (fun p => p.identity = identity)
      (participantWithProfile current identity presentation) :=
  newParticipant_spec _ _

theorem migratedParticipant_spec (current : MyRoomParticipant u) (replacement : IdentityBinding) :
    Outcome Sized (fun p => p.identity = replacement) (migratedParticipant current replacement) :=
  newParticipant_spec _ _

theorem replacementRooms_spec {userNo : UserNo} {replacement : MyRoomParticipant u}
    (hu : userNo = replacement.identity.userNo) :
    Outcome Sized (Replaced self replacement.identity False)
      (self.replacementRooms userNo replacement) := by
  subst hu
  refine replaceRoles_spec ?_ ?_
  · intro m _
    refine (self.room_spec m.owner).bind fun room hr => ?_
    exact Or.inr ⟨room, replacement, rfl, hr, fun _ => rfl⟩
  · intro room _
    exact Or.inr ⟨replacement, rfl, fun _ => rfl⟩

theorem profileReplacementRooms_spec (identity : IdentityBinding)
    (presentation : MyRoomProfilePresentation) :
    Outcome Sized (Replaced self identity False)
      (self.profileReplacementRooms identity.userNo identity presentation) := by
  refine replaceRoles_spec ?_ ?_
  · intro m _
    refine (self.seat_spec identity.userNo m).bind fun (room, current) hseat => ?_
    refine (participantWithProfile_spec current identity presentation).bind fun p hp => ?_
    exact Or.inr ⟨room, p, rfl, hseat.1, fun _ => hp⟩
  · intro room _
    refine (participantWithProfile_spec room.owner identity presentation).bind fun p hp => ?_
    exact Or.inr ⟨p, rfl, fun _ => hp⟩

theorem migratedReplacementRooms_spec {userNo : UserNo} {replacement : IdentityBinding}
    (hu : userNo = replacement.userNo) :
    Outcome Sized (Replaced self replacement False)
      (self.migratedReplacementRooms userNo replacement) := by
  subst hu
  refine replaceRoles_spec ?_ ?_
  · intro m _
    refine (self.seat_spec replacement.userNo m).bind fun (room, current) hseat => ?_
    refine (migratedParticipant_spec current replacement).bind fun p hp => ?_
    exact Or.inr ⟨room, p, rfl, hseat.1, fun _ => hp⟩
  · intro room _
    refine (migratedParticipant_spec room.owner replacement).bind fun p hp => ?_
    exact Or.inr ⟨p, rfl, fun _ => hp⟩

/-- A role whose endpoint does not move is left alone: the binding stays. -/
theorem p2pEndpointReplacementRooms_spec {identity : IdentityBinding} (port : Nat)
    (hb : self.generations.lookup identity.userNo = some identity) :
    Outcome Sized (Replaced self identity True)
      (self.p2pEndpointReplacementRooms identity port) := by
  refine replaceRoles_spec ?_ ?_
  · intro m hm
    refine (self.seat_spec identity.userNo m).bind fun (room, current) hseat => ?_
    refine (participantWithP2pEndpoint_spec current identity port).bind fun p hp => ?_
    refine Outcome.ok ?_
    split
    next =>
      refine Or.inr ⟨room, p, rfl, hseat.1, fun hok => ?_⟩
      exact hp.trans (hok.seat_identity hm hseat.1 hseat.2 hb)
    next => exact Or.inl ⟨rfl, trivial⟩
  · intro room hr
    refine Outcome.ite (fun _ => ?_) fun _ => Or.inl ⟨rfl, trivial⟩
    refine (participantWithP2pEndpoint_spec room.owner identity port).bind fun p hp => ?_
    refine Outcome.ok ?_
    split
    next => exact Or.inr ⟨p, rfl, fun hok => hp.trans (hok.owner_identity hr hb)⟩
    next => exact Or.inl ⟨rfl, trivial⟩

/-- The transition that stores replaced roles. -/
theorem Replaced.planned {T : Type} {b : IdentityBinding} {keeps : Prop}
    {rooms : List (UserNo × RoomState u)} (h : Replaced self b keeps rooms)
    {generations : List GenerationChange} {next : Nat} (outcome : T)
    (hnext : next = self.revision + 1) (htracked : self.generations.lookup b.userNo ≠ none)
    (hgenerations : generations = [(b.userNo, some b)] ∨
      (generations = [] ∧ self.generations.lookup b.userNo = some b))
    (hkeeps : keeps → self.generations.lookup b.userNo = some b) :
    Outcome Sized (Planned self)
      (self.transition next (roomChanges rooms) [] generations outcome) := by
  refine (self.transition_spec _ _ _ _ _ ?_ (Nat.zero_le _) ?_).mono ?_
  · unfold roomChanges
    rw [List.length_map]
    exact h.length
  · rcases hgenerations with rfl | ⟨rfl, -⟩
    · show 1 ≤ 9
      omega
    · exact Nat.zero_le _
  · rintro t rfl
    exact ⟨rfl, Or.inl hnext, h.lands rfl rfl htracked hgenerations hkeeps⟩

/-- A plan, or the answer that there is nothing to plan. -/
def Optional {T : Type} (hub : MyRoomHub u) (t : Option (MyRoomTransition u T)) : Prop :=
  ∀ t', t = some t' → Planned hub t'

theorem Optional.nothing {T : Type} : Optional (T := T) self none :=
  fun _ h => absurd h (by simp)

theorem Optional.just {T : Type} {x : Except MyRoomHubError (MyRoomTransition u T)}
    (h : Outcome Sized (Planned self) x) :
    Outcome Sized (Optional self) (x >>= fun t => .ok (some t)) := by
  refine h.bind fun t ht => ?_
  intro t' he
  injection he with he
  exact he ▸ ht

theorem updateOwnerInfo_planned (identity : IdentityBinding) (info : MyRoomInfo) :
    Outcome Sized (Planned self) (self.updateOwnerInfo identity info) := by
  unfold updateOwnerInfo
  split
  next =>
    intro _ _ _
    simp
  next hinfo =>
    refine (self.membershipExact_spec identity).bind fun membership _ => ?_
    refine Outcome.ite (fun _ => ?_) fun _ => ?_
    · intro _ _ _
      simp
    refine self.nextRevision_spec.bind fun next hnext => ?_
    refine (self.room_spec identity.userNo).bind fun room hr => ?_
    refine (self.transition_spec _ _ _ _ _ ?_ (Nat.zero_le _) (Nat.zero_le _)).mono ?_
    · show 1 ≤ 2
      omega
    · rintro t rfl
      refine ⟨rfl, Or.inl hnext, fun hok => ?_⟩
      refine Ok.land hok.sound [] (hok.orphans.mono fun _ hf _ _ => hf.elim)
        [] rfl ?_ (fun _ => rfl) (fun _ => rfl)
        (fun _ h => absurd h List.not_mem_nil) ?_
      · -- the info is no part of the shape
        intro k
        rw [Map.after_single]
        split
        next he =>
          rw [he, directory_rooms hr]
          rfl
        next => rfl
      · refine (card_apply_le ?_).trans hok.capacity
        intro k hk
        exact hk

theorem refreshParticipant_planned (participant : MyRoomParticipant u) :
    Outcome Sized (Planned self) (self.refreshParticipant participant) := by
  unfold refreshParticipant
  refine (self.requireCanonicalIdentity_spec participant.identity).bind fun _ hb => ?_
  refine self.nextRevision_spec.bind fun next hnext => ?_
  refine (replacementRooms_spec rfl).bind fun rooms hrooms => ?_
  exact hrooms.planned _ hnext (by rw [hb]; simp) (Or.inr ⟨rfl, hb⟩) False.elim

theorem refreshProfileIfTracked_planned (identity : IdentityBinding)
    (presentation : MyRoomProfilePresentation) :
    Outcome Sized (Optional self) (self.refreshProfileIfTracked identity presentation) := by
  unfold refreshProfileIfTracked
  refine (self.hasRole_spec identity.userNo).bind fun _ _ => ?_
  refine Outcome.ite (fun _ => Optional.nothing) fun _ => ?_
  refine (self.requireCanonicalIdentity_spec identity).bind fun _ hb => ?_
  refine self.nextRevision_spec.bind fun next hnext => ?_
  refine (profileReplacementRooms_spec identity presentation).bind fun rooms hrooms => ?_
  exact Optional.just (hrooms.planned _ hnext (by rw [hb]; simp) (Or.inr ⟨rfl, hb⟩) False.elim)

theorem refreshP2pEndpointIfTracked_planned (identity : IdentityBinding) (port : Nat) :
    Outcome Sized (Optional self) (self.refreshP2pEndpointIfTracked identity port) := by
  unfold refreshP2pEndpointIfTracked
  refine (self.hasRole_spec identity.userNo).bind fun _ _ => ?_
  refine Outcome.ite (fun _ => Optional.nothing) fun _ => ?_
  refine (self.requireCanonicalIdentity_spec identity).bind fun _ hb => ?_
  refine (p2pEndpointReplacementRooms_spec port hb).bind fun rooms hrooms => ?_
  refine Outcome.ite (fun _ => Optional.nothing) fun _ => ?_
  refine self.nextRevision_spec.bind fun next hnext => ?_
  exact Optional.just (hrooms.planned _ hnext (by rw [hb]; simp) (Or.inr ⟨rfl, hb⟩) fun _ => hb)

theorem advanceIdentity_planned (previous : IdentityBinding)
    (replacement : MyRoomParticipant u) :
    Outcome Sized (Planned self) (self.advanceIdentity previous replacement) := by
  unfold advanceIdentity
  refine (self.requireCanonicalIdentity_spec previous).bind fun _ hb => ?_
  refine (validateIdentityAdvance_spec previous replacement.identity).bind fun _ hu => ?_
  refine self.nextRevision_spec.bind fun next hnext => ?_
  refine (replacementRooms_spec hu).bind fun rooms hrooms => ?_
  rw [hu] at hb ⊢
  exact hrooms.planned _ hnext (by rw [hb]; simp) (Or.inl rfl) False.elim

theorem advanceProfiledIdentityIfTracked_planned (previous replacement : IdentityBinding)
    (presentation : MyRoomProfilePresentation) :
    Outcome Sized (Optional self)
      (self.advanceProfiledIdentityIfTracked previous replacement presentation) := by
  unfold advanceProfiledIdentityIfTracked
  refine (self.hasRole_spec previous.userNo).bind fun _ _ => ?_
  refine Outcome.ite (fun _ => Optional.nothing) fun _ => ?_
  refine (newParticipant_spec replacement _).bind fun participant _ => ?_
  exact Optional.just (self.advanceIdentity_planned previous participant)

theorem advanceMigratedIdentityIfTracked_planned (previous replacement : IdentityBinding) :
    Outcome Sized (Optional self)
      (self.advanceMigratedIdentityIfTracked previous replacement) := by
  unfold advanceMigratedIdentityIfTracked
  refine (self.hasRole_spec previous.userNo).bind fun _ _ => ?_
  refine Outcome.ite (fun _ => Optional.nothing) fun _ => ?_
  refine (self.requireCanonicalIdentity_spec previous).bind fun _ hb => ?_
  refine (validateIdentityAdvance_spec previous replacement).bind fun _ hu => ?_
  refine self.nextRevision_spec.bind fun next hnext => ?_
  refine (migratedReplacementRooms_spec hu).bind fun rooms hrooms => ?_
  rw [hu] at hb ⊢
  exact Optional.just (hrooms.planned _ hnext (by rw [hb]; simp) (Or.inl rfl) False.elim)

end MyRoomHub

end P4475.MyRoom
