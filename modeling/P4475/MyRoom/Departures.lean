import P4475.MyRoom.Plans

/-!
# Leaving and disconnecting

Both vacate a seat; a disconnect also closes the room the user owns. The changes
are compared with `Directory.vacate` and `Directory.close`.
-/

namespace P4475.MyRoom

open Lib

variable {u : Unicode}

namespace MyRoomHub

variable {self : MyRoomHub u}

/-! ## One room after a removal -/

/-- The change `vacated` makes of its room. -/
theorem vacated_fst (owner : UserNo) (room : RoomState u) :
    (vacated owner room).1 = (owner, if room.mappedCount = 0 then none else some room) := by
  unfold vacated
  split
  next => rfl
  next => rfl

theorem map_shape_vacated (room : RoomState u) :
    (if room.mappedCount = 0 then none else some room).map RoomState.shape =
      room.shape.live := by
  unfold Shape.live
  by_cases h : room.mappedCount = 0
  · rw [if_pos h, if_pos (RoomState.mappedCount_eq_zero.mp h)]
    rfl
  · rw [if_neg h, if_neg fun hv => h (RoomState.mappedCount_eq_zero.mpr hv)]
    rfl

theorem vacated_snd (owner : UserNo) (room : RoomState u) :
    (vacated owner room).2.deletedOwner = if room.mappedCount = 0 then some owner else none := by
  unfold vacated
  split
  next => rfl
  next => rfl

/-- The rooms after one vacated room are those of the vacated directory. -/
theorem rooms_vacated {m k : UserNo} {room room' : RoomState u} {slot : MyRoomSlotIndex}
    (hshape : room'.shape = room.shape.put slot none) (k' : UserNo) :
    (self.rooms.after [(vacated k room').1] k').map RoomState.shape =
      (self.directory.vacate m k room.shape slot).rooms k' := by
  rw [vacated_fst, Map.after_single, Directory.vacate_rooms]
  by_cases he : k' = k
  · rw [if_pos he, if_pos he, map_shape_vacated, hshape]
  · rw [if_neg he, if_neg he]
    rfl

theorem seats_erased {m k : UserNo} {s : Shape MyRoomSlotIndex IdentityBinding}
    {slot : MyRoomSlotIndex} (k' : UserNo) :
    (self.memberships.after [(m, none)] k').map (fun x => (x.owner, x.slot)) =
      (self.directory.vacate m k s slot).seats k' := by
  rw [Map.after_single, Directory.vacate_seats]
  by_cases he : k' = m
  · rw [if_pos he, if_pos he]
    rfl
  · rw [if_neg he, if_neg he]
    rfl

/-! ## Leaving -/

theorem leave_planned (identity : IdentityBinding) :
    Outcome Sized (Planned self) (self.leave identity) := by
  unfold leave
  refine (self.membershipExact_spec identity).bind fun membership ⟨hm, _⟩ => ?_
  refine self.nextRevision_spec.bind fun next hnext => ?_
  refine (self.room_spec membership.owner).bind fun room hr => ?_
  refine (internal_spec fun room' => RoomState.removeParticipant_ok).bind
    fun room' ⟨hshape, _⟩ => ?_
  refine (self.transition_spec _ _ _ _ _ ?_ ?_ ?_).mono ?_
  · show 1 ≤ 2
    omega
  · show 1 ≤ 8
    omega
  · have hlen := @length_pushGenerationPrunes u self [(vacated membership.owner room').1]
      [(identity.userNo, none)] [identity.userNo, membership.owner] []
    simp only [List.length_nil, List.length_cons] at hlen
    show _ ≤ 9
    omega
  · rintro t rfl
    refine ⟨rfl, Or.inl hnext, fun hok => ?_⟩
    have hrooms := directory_rooms hr
    have hseat : self.directory.seats identity.userNo =
        some (membership.owner, membership.slot) := directory_seats.mpr hm
    refine Ok.land (hok.sound.vacate hrooms hseat)
      [identity.userNo, membership.owner] ?_ [] rfl
      (rooms_vacated hshape) seats_erased (fun _ => rfl)
      (fun change h => absurd h List.not_mem_nil) ?_
    · refine hok.orphans.vacate.mono fun k hk _ _ => ?_
      rcases hk with h | rfl | rfl
      · exact h.elim
      · exact List.mem_cons_self
      · exact List.mem_cons_of_mem _ List.mem_cons_self
    · exact (card_apply_le fun k => after_prunes_le fun _ h => absurd h List.not_mem_nil).trans
        hok.capacity

/-! ## Closing the owned room -/

theorem length_pushMembershipDelete (users : List UserNo) :
    ∀ changes : List MembershipChange,
      (users.foldl pushMembershipDelete changes).length ≤ changes.length + users.length := by
  induction users with
  | nil =>
    intro changes
    exact Nat.le_refl _
  | cons x rest ih =>
    intro changes
    have hone : (pushMembershipDelete changes x).length ≤ changes.length + 1 := by
      unfold pushMembershipDelete
      split
      next => omega
      next => rw [List.length_append, List.length_singleton]
    have hrest := ih (pushMembershipDelete changes x)
    rw [List.foldl_cons, List.length_cons]
    omega

/-- Deletions only: a named user loses the membership, the others keep theirs. -/
theorem after_pushMembershipDelete (users : List UserNo) :
    ∀ changes : List MembershipChange, (∀ change ∈ changes, change.2 = none) →
      ∀ k, self.memberships.after (users.foldl pushMembershipDelete changes) k =
        if k ∈ users then none else self.memberships.after changes k := by
  induction users with
  | nil =>
    intro changes _ k
    rfl
  | cons x rest ih =>
    intro changes hdeletes k
    have hone : (∀ change ∈ pushMembershipDelete changes x, change.2 = none) ∧
        self.memberships.after (pushMembershipDelete changes x) k =
          if k = x then none else self.memberships.after changes k := by
      unfold pushMembershipDelete
      split
      next hany =>
        refine ⟨hdeletes, ?_⟩
        by_cases he : k = x
        · rw [if_pos he]
          unfold Map.after
          split
          next change hfind =>
            exact hdeletes change (List.mem_reverse.mp (List.mem_of_find?_eq_some hfind))
          next hfind =>
            obtain ⟨change, hmem, hx⟩ := List.any_eq_true.mp hany
            have hno := List.find?_eq_none.mp hfind change (List.mem_reverse.mpr hmem)
            rw [he] at hno
            exact absurd hx hno
        · rw [if_neg he]
      next =>
        refine ⟨?_, ?_⟩
        · intro change hm
          rcases List.mem_append.mp hm with hm | hm
          · exact hdeletes change hm
          · rw [List.mem_singleton.mp hm]
        · rw [Map.after_concat]
    rw [List.foldl_cons, ih _ hone.1, hone.2]
    by_cases hx : k = x
    · rw [if_pos hx, if_pos (List.mem_cons.mpr (Or.inl hx))]
      split
      next => rfl
      next => rfl
    · rw [if_neg hx]
      by_cases hrest : k ∈ rest
      · rw [if_pos hrest, if_pos (List.mem_cons_of_mem x hrest)]
      · rw [if_neg hrest, if_neg]
        intro hm
        rcases List.mem_cons.mp hm with h | h
        · exact hx h
        · exact hrest h

theorem mem_mappedParticipants {room : RoomState u} {p : MyRoomParticipant u} :
    p ∈ room.mappedParticipants ↔ ∃ slot, room.participant slot = some p := by
  unfold RoomState.mappedParticipants
  rw [List.mem_append, Slots.mem_entries]
  constructor
  · rintro (h | ⟨i, hi⟩)
    · refine ⟨.owner, ?_⟩
      unfold RoomState.participant
      dsimp only
      cases hp : room.ownerPresent with
      | false => rw [hp] at h; exact absurd h List.not_mem_nil
      | true =>
        rw [hp] at h
        rw [List.mem_singleton.mp h]
        rfl
    · exact ⟨.visitor i, hi⟩
  · rintro ⟨slot, hslot⟩
    cases slot with
    | owner =>
      refine Or.inl ?_
      unfold RoomState.participant at hslot
      dsimp only at hslot
      cases hp : room.ownerPresent with
      | false => rw [hp] at hslot; exact absurd hslot (by simp)
      | true =>
        rw [hp] at hslot
        injection hslot with hslot
        rw [hslot]
        exact List.mem_singleton.mpr rfl
    | visitor i => exact Or.inr ⟨i, hslot⟩

/-- Who a closing room ejects: everybody seated in it but the owner. -/
theorem Ok.mem_ejected (h : self.Ok) {identity : IdentityBinding} {room : RoomState u}
    (hr : self.rooms.lookup identity.userNo = some room) {k : UserNo} :
    k ∈ (ejected identity room).map (·.userNo) ↔
      k ≠ identity.userNo ∧ ∃ slot, self.directory.seats k = some (identity.userNo, slot) := by
  unfold ejected
  rw [List.map_map, List.mem_map]
  constructor
  · rintro ⟨p, hp, rfl⟩
    obtain ⟨hmapped, hne⟩ := List.mem_filter.mp hp
    obtain ⟨slot, hslot⟩ := mem_mappedParticipants.mp hmapped
    refine ⟨by simpa using hne, slot, ?_⟩
    exact h.sound.seated (directory_rooms hr) (RoomState.seat_of_participant hslot)
  · rintro ⟨hne, slot, hseat⟩
    obtain ⟨b, hb, hw⟩ := (h.sound.seat_iff (directory_rooms hr)).mp hseat
    obtain ⟨p, hp, rfl⟩ := RoomState.seat_some hb
    refine ⟨p, List.mem_filter.mpr ⟨mem_mappedParticipants.mpr ⟨slot, hp⟩, ?_⟩, hw⟩
    rw [decide_eq_true_eq]
    intro he
    exact hne (hw ▸ he)

theorem length_ejected_le {identity : IdentityBinding} {room : RoomState u}
    (howner : room.owner.identity = identity) : (ejected identity room).length ≤ 7 := by
  unfold ejected RoomState.mappedParticipants
  rw [List.length_map, List.filter_append, List.length_append]
  have hown : ((if room.ownerPresent then [room.owner] else []).filter
      fun participant => participant.userNo ≠ identity.userNo).length = 0 := by
    cases hp : room.ownerPresent with
    | false => rfl
    | true =>
      have hsame : room.owner.userNo = identity.userNo := by rw [← howner]
      simp [hsame]
  have hvisitors : (room.visitors.entries.filter
      fun participant => participant.userNo ≠ identity.userNo).length ≤ 7 := by
    refine (List.length_filter_le _ _).trans ?_
    rw [Slots.length_entries]
    exact Slots.length_occupied_le _
  omega

/-! ## Disconnecting -/

/-- The visited room of a plan: left with a change, or none to leave. -/
theorem leaveVisitedRoom_spec (plan : DisconnectPlan u) :
    Outcome Sized (fun visited =>
      (visited = none ∧ ∀ m, plan.membership = some m →
        m.owner = plan.identity.userNo ∧ plan.owned ≠ none) ∨
      ∃ m room room', plan.membership = some m ∧
        (m.owner ≠ plan.identity.userNo ∨ plan.owned = none) ∧
        self.rooms.lookup m.owner = some room ∧ room'.shape = room.shape.put m.slot none ∧
        visited = some (vacated m.owner room'))
      (self.leaveVisitedRoom plan) := by
  unfold leaveVisitedRoom
  split
  next hm => exact Or.inl ⟨rfl, fun m hm' => absurd (hm.symm.trans hm') (by simp)⟩
  next m hm =>
    refine Outcome.ite (fun hvisit => ?_) fun hhome => ?_
    · refine (self.room_spec m.owner).bind fun room hr => ?_
      refine (internal_spec fun room' => RoomState.removeParticipant_ok).bind
        fun room' ⟨hshape, _⟩ => ?_
      refine Or.inr ⟨m, room, room', hm, ?_, hr, hshape, rfl⟩
      rcases hvisit with h | h
      · exact Or.inl h
      · exact Or.inr (Option.isNone_iff_eq_none.mp h)
    · refine Or.inl ⟨rfl, fun m' hm' => ?_⟩
      rw [hm] at hm'
      injection hm' with hm'
      rw [← hm']
      rw [not_or, not_not] at hhome
      exact ⟨hhome.1, fun hn => hhome.2 (by rw [hn]; rfl)⟩

/-- The directory once the visited room is left. -/
noncomputable def visitedDirectory (self : MyRoomHub u) (userNo : UserNo) :
    Option (Membership × RoomState u) → Directory UserNo MyRoomSlotIndex IdentityBinding
  | none => self.directory
  | some (m, room) => self.directory.vacate userNo m.owner room.shape m.slot

/-- The directory after a disconnect. -/
noncomputable def closedDirectory (self : MyRoomHub u) (userNo : UserNo)
    (left : Option (Membership × RoomState u)) (owned : Option (RoomState u)) :
    Directory UserNo MyRoomSlotIndex IdentityBinding :=
  match owned with
  | none => self.visitedDirectory userNo left
  | some _ => (self.visitedDirectory userNo left).close userNo

/-- The changes of a disconnect: the visited room, if it is left, and the owned one. -/
structure Disconnects (hub : MyRoomHub u) (plan : DisconnectPlan u)
    (left : Option (Membership × RoomState u)) (visited : Option (RoomChange u × RoomEffect)) :
    Prop where
  membership : plan.membership = hub.memberships.lookup plan.identity.userNo
  owned : plan.owned = hub.rooms.lookup plan.identity.userNo
  owner : ∀ room, plan.owned = some room → room.owner.identity = plan.identity
  stays : left = none → visited = none ∧
    ∀ m, plan.membership = some m → m.owner = plan.identity.userNo ∧ plan.owned ≠ none
  leaves : ∀ m room, left = some (m, room) → plan.membership = some m ∧
    (m.owner ≠ plan.identity.userNo ∨ plan.owned = none) ∧
    hub.rooms.lookup m.owner = some room ∧
    ∃ room', room'.shape = room.shape.put m.slot none ∧ visited = some (vacated m.owner room')

variable {plan : DisconnectPlan u} {left : Option (Membership × RoomState u)}
  {visited : Option (RoomChange u × RoomEffect)}

/-- The rooms after a disconnect. -/
theorem Disconnects.rooms (h : Disconnects self plan left visited) (k : UserNo) :
    (self.rooms.after ((visited.map (·.1)).toList ++
      (if plan.owned.isSome then [(plan.identity.userNo, none)] else [])) k).map
        RoomState.shape =
      (self.closedDirectory plan.identity.userNo left plan.owned).rooms k := by
  have hvisited : ∀ k', (self.rooms.after (visited.map (·.1)).toList k').map RoomState.shape =
      (self.visitedDirectory plan.identity.userNo left).rooms k' := by
    intro k'
    cases left with
    | none => rw [(h.stays rfl).1]; rfl
    | some left =>
      obtain ⟨m, room⟩ := left
      obtain ⟨-, -, -, room', hshape, rfl⟩ := h.leaves m room rfl
      exact rooms_vacated hshape k'
  cases ho : plan.owned with
  | none =>
    rw [if_neg (by simp), List.append_nil, hvisited]
    rfl
  | some room =>
    rw [if_pos (by simp), Map.after_concat]
    show _ = ((self.visitedDirectory plan.identity.userNo left).close _).rooms k
    rw [Directory.close_rooms]
    by_cases hk : k = plan.identity.userNo
    · rw [if_pos hk, if_pos hk]
      rfl
    · rw [if_neg hk, if_neg hk, hvisited]

/-- Who a disconnect ejects. -/
def ejectedUsers (plan : DisconnectPlan u) : List UserNo :=
  ((plan.owned.map fun room =>
    (⟨plan.identity.userNo, ejected plan.identity room⟩ : ClosedOwnedRoom)).elim []
      ClosedOwnedRoom.ejected).map (·.userNo)

theorem ejectedUsers_none (h : plan.owned = none) : ejectedUsers plan = [] := by
  unfold ejectedUsers
  rw [h]
  rfl

theorem ejectedUsers_some {room : RoomState u} (h : plan.owned = some room) :
    ejectedUsers plan = (ejected plan.identity room).map (·.userNo) := by
  unfold ejectedUsers
  rw [h]
  rfl

/-- The seats after a disconnect. -/
theorem Disconnects.seats (h : Disconnects self plan left visited) (hok : self.Ok)
    (k : UserNo) :
    (self.memberships.after ((ejectedUsers plan).foldl pushMembershipDelete
      (if plan.membership.isSome then [(plan.identity.userNo, none)] else [])) k).map
        (fun m => (m.owner, m.slot)) =
      (self.closedDirectory plan.identity.userNo left plan.owned).seats k := by
  have hdeletes : ∀ change ∈ (if plan.membership.isSome then
      [(plan.identity.userNo, (none : Option Membership))] else []), change.2 = none := by
    intro change hm
    split at hm
    next => rw [List.mem_singleton.mp hm]
    next => exact absurd hm List.not_mem_nil
  rw [after_pushMembershipDelete _ _ hdeletes]
  -- the member itself loses its seat, whether or not there is one
  have hself : self.memberships.after (if plan.membership.isSome then
      [(plan.identity.userNo, none)] else []) k =
        if k = plan.identity.userNo then none else self.memberships.lookup k := by
    cases hm : plan.membership with
    | none =>
      rw [if_neg (by simp), Map.after_nil]
      by_cases hk : k = plan.identity.userNo
      · rw [if_pos hk, hk, ← h.membership, hm]
      · rw [if_neg hk]
    | some m => rw [if_pos (by simp), Map.after_single]
  rw [hself]
  have hleft : ∀ k', k' ≠ plan.identity.userNo →
      (self.visitedDirectory plan.identity.userNo left).seats k' = self.directory.seats k' := by
    intro k' hk'
    cases left with
    | none => rfl
    | some left =>
      show (self.directory.vacate _ _ _ _).seats k' = _
      rw [Directory.vacate_seats, if_neg hk']
  cases ho : plan.owned with
  | none =>
    rw [ejectedUsers_none ho, if_neg List.not_mem_nil]
    show _ = (self.visitedDirectory plan.identity.userNo left).seats k
    by_cases hk : k = plan.identity.userNo
    · rw [if_pos hk]
      cases left with
      | none =>
        cases hm : plan.membership with
        | none =>
          rw [hk]
          exact (directory_seats_none.mpr (h.membership ▸ hm)).symm
        | some m => exact absurd ho ((h.stays rfl).2 m hm).2
      | some left =>
        show _ = (self.directory.vacate _ _ _ _).seats k
        rw [Directory.vacate_seats, if_pos hk]
        rfl
    · rw [if_neg hk, hleft k hk]
      rfl
  | some room =>
    rw [ejectedUsers_some ho]
    show _ = ((self.visitedDirectory plan.identity.userNo left).close _).seats k
    have hr : self.rooms.lookup plan.identity.userNo = some room := h.owned ▸ ho
    by_cases hk : k = plan.identity.userNo
    · -- the owner: seated in the visited room, in the owned one, or nowhere
      rw [if_pos hk]
      have hnone : ((self.visitedDirectory plan.identity.userNo left).close
          plan.identity.userNo).seats k = none := by
        rw [Option.eq_none_iff_forall_not_mem]
        rintro ⟨k', slot⟩ hm
        obtain ⟨hseat, hne⟩ := Directory.close_seats.mp hm
        cases left with
        | none =>
          have hseat' : self.directory.seats k = some (k', slot) := hseat
          have hlookup : self.memberships.lookup k = some ⟨k', slot⟩ := directory_seats.mp hseat'
          rw [hk, ← h.membership] at hlookup
          exact hne ((h.stays rfl).2 _ hlookup).1
        | some left =>
          have hseat' : (self.directory.vacate _ _ _ _).seats k = some (k', slot) := hseat
          rw [Directory.vacate_seats, if_pos hk] at hseat'
          exact absurd hseat' (by simp)
      rw [hnone]
      split
      next => rfl
      next => rfl
    · rw [if_neg hk]
      by_cases hm : k ∈ (ejected plan.identity room).map (·.userNo)
      · rw [if_pos hm]
        obtain ⟨-, slot, hseat⟩ := (hok.mem_ejected hr).mp hm
        rw [Option.map_none, eq_comm, Option.eq_none_iff_forall_not_mem]
        rintro ⟨k', slot'⟩ hm'
        obtain ⟨hseat', hne⟩ := Directory.close_seats.mp hm'
        rw [hleft k hk, hseat] at hseat'
        injection hseat' with hseat'
        injection hseat' with hseat' _
        exact hne hseat'.symm
      · rw [if_neg hm]
        have hkeep : ∀ at', self.directory.seats k = some at' → at'.1 ≠ plan.identity.userNo := by
          rintro ⟨k', slot⟩ hseat he
          exact hm ((hok.mem_ejected hr).mpr ⟨hk, slot, by rw [hseat, ← he]⟩)
        show self.directory.seats k = ((self.visitedDirectory _ left).seats k).filter _
        rw [hleft k hk]
        cases hs : self.directory.seats k with
        | none => rfl
        | some at' => rw [Option.filter_some, if_pos (by simpa using hkeep at' hs)]

theorem Disconnects.sound (h : Disconnects self plan left visited) (hok : self.Ok) :
    (self.closedDirectory plan.identity.userNo left plan.owned).Sound
      IdentityBinding.userNo MyRoomSlotIndex.owner := by
  have hvisited : (self.visitedDirectory plan.identity.userNo left).Sound
      IdentityBinding.userNo MyRoomSlotIndex.owner := by
    cases left with
    | none => exact hok.sound
    | some left =>
      obtain ⟨m, room⟩ := left
      obtain ⟨hm, -, hr, -⟩ := h.leaves m room rfl
      exact hok.sound.vacate (directory_rooms hr) (directory_seats.mpr (h.membership ▸ hm))
  unfold closedDirectory
  split
  next => exact hvisited
  next => exact hvisited.close _

/-- The users a disconnect may leave without a role are the ones it asks about. -/
theorem Disconnects.orphans (h : Disconnects self plan left visited) (hok : self.Ok) :
    (self.closedDirectory plan.identity.userNo left plan.owned).OrphansIn
      (· ∈ plan.identity.userNo :: ejectedUsers plan ++
        ((visited.map (·.2)).bind RoomEffect.deletedOwner).toList) := by
  have hvisited : (self.visitedDirectory plan.identity.userNo left).OrphansIn fun k =>
      k = plan.identity.userNo ∨
      k ∈ ((visited.map (·.2)).bind RoomEffect.deletedOwner).toList := by
    cases left with
    | none => exact hok.orphans.mono fun k hk _ _ => hk.elim
    | some left =>
      obtain ⟨m, room⟩ := left
      obtain ⟨-, -, -, room', hshape, rfl⟩ := h.leaves m room rfl
      refine hok.orphans.vacate.mono fun k hk _ hroom => ?_
      rcases hk with hk | hk | hk
      · exact hk.elim
      · exact Or.inl hk
      · -- the visited owner has lost its room, so the room was deleted
        refine Or.inr ?_
        rw [Directory.vacate_rooms, if_pos hk, ← hshape, ← map_shape_vacated] at hroom
        show k ∈ (vacated m.owner room').2.deletedOwner.toList
        rw [vacated_snd]
        by_cases hz : room'.mappedCount = 0
        · rw [if_pos hz, hk]
          exact List.mem_singleton.mpr rfl
        · rw [if_neg hz] at hroom
          exact absurd hroom (by simp)
  unfold closedDirectory
  split
  next => exact hvisited.mono fun k hk _ _ => by
            rw [List.cons_append, List.mem_cons, List.mem_append]
            rcases hk with hk | hk
            · exact Or.inl hk
            · exact Or.inr (Or.inr hk)
  next room ho =>
    have hr : self.rooms.lookup plan.identity.userNo = some room := h.owned ▸ ho
    refine (hvisited.close plan.identity.userNo).mono fun k hk _ _ => ?_
    rw [List.cons_append, List.mem_cons, List.mem_append]
    rcases hk with (hk | hk) | hk | ⟨slot, hseat⟩
    · exact Or.inl hk
    · exact Or.inr (Or.inr hk)
    · exact Or.inl hk
    · by_cases hself : k = plan.identity.userNo
      · exact Or.inl hself
      · refine Or.inr (Or.inl ?_)
        rw [ejectedUsers_some ho]
        refine (hok.mem_ejected hr).mpr ⟨hself, slot, ?_⟩
        cases left with
        | none => exact hseat
        | some left =>
          have hseat' : (self.directory.vacate _ _ _ _).seats k = _ := hseat
          rwa [Directory.vacate_seats, if_neg hself] at hseat'

theorem buildDisconnectTransition_planned (plan : DisconnectPlan u)
    (hnext : plan.nextRevision = self.revision + 1)
    (hmembership : plan.membership = self.memberships.lookup plan.identity.userNo)
    (howned : plan.owned = self.rooms.lookup plan.identity.userNo)
    (howner : ∀ room, plan.owned = some room → room.owner.identity = plan.identity) :
    Outcome Sized (Planned self) (self.buildDisconnectTransition plan) := by
  unfold buildDisconnectTransition
  refine (self.leaveVisitedRoom_spec plan).bind fun visited hvisited => ?_
  obtain ⟨left, hleft⟩ : ∃ left, Disconnects self plan left visited := by
    rcases hvisited with ⟨hv, hstays⟩ | ⟨m, room, room', hm, hvisit, hr, hshape, hv⟩
    · exact ⟨none, hmembership, howned, howner, fun _ => ⟨hv, hstays⟩,
        fun m room hl => absurd hl (by simp)⟩
    · refine ⟨some (m, room), hmembership, howned, howner,
        fun hl => absurd hl (by simp), fun m' room'' hl => ?_⟩
      injection hl with hl
      injection hl with hlm hlr
      subst hlm hlr
      exact ⟨hm, hvisit, hr, room', hshape, hv⟩
  have hejected : (ejectedUsers plan).length ≤ 7 := by
    cases ho : plan.owned with
    | none => rw [ejectedUsers_none ho]; exact Nat.zero_le _
    | some room =>
      rw [ejectedUsers_some ho, List.length_map]
      exact length_ejected_le (howner room ho)
  refine (self.transition_spec _ _ _ _ _ ?_ ?_ ?_).mono ?_
  · -- the visited room and the owned one
    have hone : (visited.map (·.1)).toList.length ≤ 1 := by
      cases visited with
      | none => exact Nat.zero_le _
      | some _ => exact Nat.le_refl _
    have htwo : (if plan.owned.isSome then [(plan.identity.userNo, (none : Option (RoomState u)))]
        else []).length ≤ 1 := by
      split
      next => exact Nat.le_refl _
      next => exact Nat.zero_le _
    rw [List.length_append]
    show _ ≤ 2
    omega
  · -- the member and at most seven visitors
    have hlen := length_pushMembershipDelete (ejectedUsers plan)
      (if plan.membership.isSome then [(plan.identity.userNo, none)] else [])
    have hown : (if plan.membership.isSome then
        [(plan.identity.userNo, (none : Option Membership))] else []).length ≤ 1 := by
      split
      next => exact Nat.le_refl _
      next => exact Nat.zero_le _
    show ((ejectedUsers plan).foldl pushMembershipDelete _).length ≤ 8
    omega
  · -- the member, the visitors and the visited owner
    refine (length_pushGenerationPrunes _ _).trans ?_
    have hdeleted : ((visited.map (·.2)).bind RoomEffect.deletedOwner).toList.length ≤ 1 := by
      cases (visited.map (·.2)).bind RoomEffect.deletedOwner with
      | none => exact Nat.zero_le _
      | some _ => exact Nat.le_refl _
    show ([] : List GenerationChange).length +
      (plan.identity.userNo :: ejectedUsers plan ++ _).length ≤ 9
    rw [List.length_nil, List.cons_append, List.length_cons, List.length_append]
    omega
  · rintro t rfl
    refine ⟨rfl, Or.inl hnext, fun hok => ?_⟩
    refine Ok.land (hleft.sound hok) _ (hleft.orphans hok) [] rfl
      hleft.rooms (hleft.seats hok) ?_ (fun change h => absurd h List.not_mem_nil) ?_
    · intro k
      unfold closedDirectory visitedDirectory
      split <;> cases left <;> rfl
    · exact (card_apply_le fun k => after_prunes_le fun _ h => absurd h List.not_mem_nil).trans
        hok.capacity

theorem requireOwnMembership_spec (identity : IdentityBinding) :
    Outcome Sized (fun _ => True) (self.requireOwnMembership identity) := by
  unfold requireOwnMembership
  split
  next membership _ =>
    exact (self.requireExactMember_spec identity membership).mono fun _ _ => trivial
  next => exact trivial

theorem requireOwnRoom_spec (identity : IdentityBinding) :
    Outcome Sized (fun _ => ∀ room, self.rooms.lookup identity.userNo = some room →
      room.owner.identity = identity) (self.requireOwnRoom identity) := by
  unfold requireOwnRoom
  split
  next room hr =>
    refine (requireSameBinding_spec room.owner.identity identity).bind fun _ he => ?_
    refine (self.requireMapped_spec identity.userNo room.mappedParticipants).mono fun _ _ => ?_
    intro room' hr'
    rw [hr] at hr'
    injection hr' with hr'
    rw [← hr', he]
  next hr =>
    intro room' hr'
    rw [hr] at hr'
    exact absurd hr' (by simp)

theorem disconnect_planned (identity : IdentityBinding) :
    Outcome Sized (Planned self) (self.disconnect identity) := by
  unfold disconnect
  split
  next =>
    refine (self.transition_spec _ _ _ _ _ ?_ ?_ ?_).mono ?_
    · exact Nat.zero_le _
    · exact Nat.zero_le _
    · exact Nat.zero_le _
    · rintro t rfl
      exact .quiet _
  next canonical hg =>
    refine (requireSameBinding_spec canonical identity).bind fun _ _ => ?_
    refine (requireOwnMembership_spec identity).bind fun _ _ => ?_
    refine (requireOwnRoom_spec identity).bind fun _ howner => ?_
    refine Outcome.ite (fun _ => ?_) fun _ => ?_
    · intro _ _ _
      simp
    · refine self.nextRevision_spec.bind fun next hnext => ?_
      exact buildDisconnectTransition_planned _ hnext rfl rfl howner

theorem disconnectReleased_planned (released : ReleasedIdentity) :
    Outcome Sized (Planned self) (self.disconnectReleased released) := by
  unfold disconnectReleased
  refine (self.hasRole_spec released.userNo).bind fun hasRole _ => ?_
  refine Outcome.ite (fun _ => ?_) fun _ => ?_
  · refine (self.transition_spec _ _ _ _ _ ?_ ?_ ?_).mono ?_
    · exact Nat.zero_le _
    · exact Nat.zero_le _
    · exact Nat.zero_le _
    · rintro t rfl
      exact .quiet _
  · split
    next =>
      intro _ _ _
      simp
    next canonical _ =>
      refine (requireSameReleasedBinding_spec canonical released).bind fun _ _ => ?_
      exact disconnect_planned canonical

end MyRoomHub

end P4475.MyRoom
