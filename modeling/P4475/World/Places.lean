import P4475.World.Edits

/-!
# Seats and zones under every edit

`Seated` and the zone rule of team rooms (`Zoned`) for each way in, each way out
and each lobby command.
-/

namespace P4475

open Lib

namespace ProtocolRoomState

variable {room room' : ProtocolRoomState} {i j slot : Fin 8} {userNo : UserNo}
  {participant : RoomParticipant} {team : Nat}

/-! ## Loads and users -/

theorem load_seatRacer (h : room.Unused i) (j : Fin 8) :
    (room.seatRacer userNo participant i slot team).load j =
      if j = i then 1 else room.load j := by
  unfold load seatRacer
  dsimp only
  rw [Slots.put_apply]
  split
  next he =>
    rw [he, h.2.1, h.2.2]
    rfl
  next => rfl

theorem load_withAi {ai : RoomAi} (h : room.Unused i) (j : Fin 8) :
    (room.withAi i slot ai).load j = if j = i then 1 else room.load j := by
  unfold load withAi
  dsimp only
  rw [Slots.put_apply]
  split
  next he =>
    rw [he, h.1, h.2.2]
    rfl
  next => rfl

theorem load_withoutAi (hm : room.membersById i = none) (hc : room.closedSlotsById i = none)
    (j : Fin 8) : (room.withoutAi i slot).load j = if j = i then 0 else room.load j := by
  unfold load withoutAi
  dsimp only
  rw [Slots.put_apply]
  split
  next he =>
    rw [he, hm, hc]
    rfl
  next => rfl

theorem userNos_seatRacer (h : room.membersById i = none) :
    (room.seatRacer userNo participant i slot team).userNos.Perm (userNo :: room.userNos) := by
  rw [userNos_eq, userNos_eq]
  unfold seatRacer
  dsimp only
  exact ((Slots.entries_put_some _ h).map _).append_right _

theorem userNos_addObserver (h : room.addObserver userNo participant = some room') :
    room'.userNos.Perm (userNo :: room.userNos) := by
  obtain ⟨i, hi, rfl⟩ := addObserver_cases h
  rw [userNos_eq, userNos_eq]
  dsimp only
  calc (room.membersById.entries.map (·.userNo) ++ _).Perm
        (room.membersById.entries.map (·.userNo) ++ userNo ::
          room.observers.entries.map (·.userNo)) :=
          ((Slots.entries_put_some _ hi).map _).append_left _
    _ |>.Perm _ := List.perm_middle

/-! ## Ways in -/

theorem Seated.seatRacer (h : room.Seated) (hi : room.Unused i)
    (hslot : room.slotPositions slot = none) (hu : userNo ∉ room.userNos) :
    (room.seatRacer userNo participant i slot team).Seated :=
  h.occupy (load_eq_zero.mpr hi) hslot (load_seatRacer hi) rfl (fun hc => Or.inl hc)
    ((userNos_seatRacer hi.1).nodup_iff.mpr (List.nodup_cons.mpr ⟨hu, h.users⟩))

theorem Seated.addObserver (h : room.Seated) (hu : userNo ∉ room.userNos)
    (ha : room.addObserver userNo participant = some room') : room'.Seated := by
  have husers := userNos_addObserver ha
  obtain ⟨i, hi, rfl⟩ := addObserver_cases ha
  exact ⟨h.single, h.places, h.closed,
    husers.nodup_iff.mpr (List.nodup_cons.mpr ⟨hu, h.users⟩)⟩

theorem userNos_addRacer (h : room.addRacer userNo participant = some room') :
    room'.userNos.Perm (userNo :: room.userNos) := by
  obtain ⟨i, slot, team, hi, -, rfl⟩ := addRacer_cases h
  rw [(claimMaster_samePlaces _ _).userNos]
  exact userNos_seatRacer hi.1

theorem Seated.addRacer (h : room.Seated) (hu : userNo ∉ room.userNos)
    (ha : room.addRacer userNo participant = some room') : room'.Seated := by
  obtain ⟨i, slot, team, hi, hs, rfl⟩ := addRacer_cases ha
  exact (claimMaster_samePlaces _ _).seated
    (h.seatRacer hi (admissionSlotAndTeam_some hs).1 hu)

theorem userNos_addParticipant (h : room.addParticipant userNo participant = some room') :
    room'.userNos.Perm (userNo :: room.userNos) := by
  unfold addParticipant at h
  split at h
  next => exact userNos_addObserver h
  next => exact userNos_addRacer h

theorem Seated.addParticipant (h : room.Seated) (hu : userNo ∉ room.userNos)
    (ha : room.addParticipant userNo participant = some room') : room'.Seated := by
  unfold ProtocolRoomState.addParticipant at ha
  split at ha
  next => exact h.addObserver hu ha
  next => exact h.addRacer hu ha

/-- A racer is turned away only when every id is used. -/
theorem Seated.addRacer_eq_none_iff (h : room.Seated) :
    room.addRacer userNo participant = none ↔ ∀ i, ¬ room.Unused i := by
  unfold ProtocolRoomState.addRacer
  constructor
  · intro ha
    split at ha
    next hnone => exact vacantMemberId_none hnone
    next i hi =>
      have hfree : i ∉ room.used := fun hu => hu (load_eq_zero.mpr (vacantMemberId_some hi))
      obtain ⟨s, hs⟩ := h.places.vacancy hfree
      obtain ⟨t, team, ht⟩ := admissionSlotAndTeam_isSome hs
      rw [ht] at ha
      exact absurd ha (by simp)
  · intro hfull
    split
    next => rfl
    next i hi => exact absurd (vacantMemberId_some hi) (hfull i)

/-! ## Ways out -/

/-- A room without one of its members. -/
def withoutMember (room : ProtocolRoomState) (i slot : Fin 8) : ProtocolRoomState :=
  { room with
    membersById := room.membersById.put i none
    slotPositions := room.slotPositions.put slot none }

theorem load_withoutMember (ha : room.aisById i = none) (hc : room.closedSlotsById i = none)
    (j : Fin 8) : (room.withoutMember i slot).load j = if j = i then 0 else room.load j := by
  unfold load withoutMember
  dsimp only
  rw [Slots.put_apply]
  split
  next he =>
    rw [he, ha, hc]
    rfl
  next => rfl

/-- Clearing the slot of a member clears the one slot that it has. -/
theorem Seated.clearSlotOf (h : room.Seated) (hslot : room.slotPositions slot = some i) :
    { room with membersById := room.membersById.put i none }.clearSlotOf i =
      room.withoutMember i slot := by
  unfold ProtocolRoomState.clearSlotOf
  obtain ⟨s, hs⟩ := Slots.position_isSome (p := fun j => j = i) hslot (by simp)
  obtain ⟨j, hj, he⟩ := Slots.position_some hs
  have hji : j = i := by simpa using he
  have hss : s = slot := h.places.inj (hji ▸ hj) hslot
  dsimp only
  rw [hs, hss]
  rfl

/-- What is left after the seat is vacated moves nobody. -/
theorem Seated.removeMember_samePlaces (h : room.Seated)
    (hslot : room.slotPositions slot = some i) :
    (room.withoutMember i slot).SamePlaces (room.removeMember i) := by
  unfold removeMember
  rw [h.clearSlotOf hslot]
  dsimp only
  refine SamePlaces.trans ?_ (rerank_samePlaces _ _)
  split
  next => exact assignNextRoomMaster_samePlaces _
  next => exact .refl _

theorem userNos_withoutMember {m : ProtocolRoomMember} (hm : room.membersById i = some m) :
    room.userNos.Perm (m.userNo :: (room.withoutMember i slot).userNos) := by
  rw [userNos_eq, userNos_eq]
  unfold withoutMember
  dsimp only
  exact ((Slots.entries_put_none hm).map (·.userNo)).append_right _

theorem Seated.withoutMember (h : room.Seated) {m : ProtocolRoomMember}
    (hm : room.membersById i = some m) (hslot : room.slotPositions slot = some i) :
    (room.withoutMember i slot).Seated := by
  obtain ⟨ha, hc⟩ := h.of_member hm
  refine h.vacate hslot (load_withoutMember ha hc) rfl (fun {j s} hj => ⟨?_, hj⟩) ?_
  · rintro rfl
    rw [show (room.withoutMember j slot).closedSlotsById j = none from hc] at hj
    exact absurd hj (by simp)
  · exact (List.nodup_cons.mp ((userNos_withoutMember hm).nodup_iff.mp h.users)).2

theorem removeObserver_samePlaces (room : ProtocolRoomState) (i : Fin 8) :
    { room with observers := room.observers.put i none }.SamePlaces (room.removeObserver i) := by
  unfold removeObserver
  dsimp only
  split
  next => exact assignNextRoomMaster_samePlaces _
  next => exact .refl _

theorem userNos_withoutObserver {m : ProtocolRoomMember} (hm : room.observers i = some m) :
    room.userNos.Perm
      (m.userNo :: { room with observers := room.observers.put i none }.userNos) := by
  rw [userNos_eq, userNos_eq]
  dsimp only
  calc (room.membersById.entries.map (·.userNo) ++ room.observers.entries.map (·.userNo)).Perm
        (room.membersById.entries.map (·.userNo) ++ m.userNo ::
          (room.observers.put i none).entries.map (·.userNo)) :=
          ((Slots.entries_put_none hm).map (·.userNo)).append_left _
    _ |>.Perm _ := List.perm_middle

/-- Removal takes exactly the user out. -/
theorem Seated.removeUser_userNos (h : room.Seated) (hr : room.removeUser userNo = some room') :
    room.userNos.Perm (userNo :: room'.userNos) := by
  rcases removeUser_cases hr with ⟨i, m, hm, rfl, rfl⟩ | ⟨i, m, hm, rfl, rfl⟩
  · rw [(room.removeObserver_samePlaces i).userNos]
    exact userNos_withoutObserver hm
  · obtain ⟨slot, hslot⟩ := h.hasSlot (load_of_member hm)
    rw [(h.removeMember_samePlaces hslot).userNos]
    exact userNos_withoutMember hm

theorem Seated.removeUser (h : room.Seated) (hr : room.removeUser userNo = some room') :
    room'.Seated := by
  rcases removeUser_cases hr with ⟨i, m, hm, rfl, rfl⟩ | ⟨i, m, hm, rfl, rfl⟩
  · exact (room.removeObserver_samePlaces i).seated ⟨h.single, h.places, h.closed,
      (List.nodup_cons.mp ((userNos_withoutObserver hm).nodup_iff.mp h.users)).2⟩
  · obtain ⟨slot, hslot⟩ := h.hasSlot (load_of_member hm)
    exact (h.removeMember_samePlaces hslot).seated (h.withoutMember hm hslot)

/-! ## Lobby commands -/

theorem load_moveTeam {current target : Fin 8} {t : RoomTeam} (j : Fin 8) :
    (room.moveTeam i current target t).load j = room.load j := by
  unfold load moveTeam
  simp

theorem userNos_moveTeam {current target : Fin 8} {t : RoomTeam} :
    (room.moveTeam i current target t).userNos = room.userNos := by
  rw [userNos_eq, userNos_eq]
  unfold moveTeam
  dsimp only
  congr 1
  refine Slots.map_entries_congr _ _ fun j => ?_
  rw [Slots.modify_apply, Option.map_map]
  congr 1
  funext m
  simp only [Function.comp_apply]
  split
  next => rfl
  next => rfl

theorem Seated.moveTeam (h : room.Seated) {current target : Fin 8} {t : RoomTeam}
    {m : ProtocolRoomMember} (hm : room.membersById i = some m)
    (hcur : room.slotPositions current = some i) (hfree : room.slotPositions target = none) :
    (room.moveTeam i current target t).Seated where
  single := fun j => by rw [load_moveTeam]; exact h.single j
  places := by
    have hused : (room.moveTeam i current target t).used = room.used := by
      ext j
      rw [mem_used, load_moveTeam, mem_used]
    rw [hused]
    refine h.places.move hcur ?_
    rw [Slots.put_apply]
    split
    next => rfl
    next => exact hfree
  closed := by
    intro j s hc
    have hs := h.closed hc
    have hji : j ≠ i := by
      rintro rfl
      have hc' : room.closedSlotsById j = some s := hc
      rw [(h.of_member hm).2] at hc'
      exact absurd hc' (by simp)
    show ((room.slotPositions.put current none).put target (some i)) s = some j
    rw [Slots.put_ne, Slots.put_ne, hs]
    · rintro rfl
      rw [hs] at hcur
      exact hji (Option.some.inj hcur)
    · rintro rfl
      rw [hs] at hfree
      exact absurd hfree (by simp)
  users := by rw [userNos_moveTeam]; exact h.users

theorem load_closePair_close (h : room.Unused i) (j : Fin 8) :
    (room.closePair true i slot).load j = if j = i then 1 else room.load j := by
  unfold load closePair
  simp only [if_true, Slots.put_apply]
  split
  next he =>
    rw [he, h.1, h.2.1]
    rfl
  next => rfl

theorem load_closePair_open (hm : room.membersById i = none) (ha : room.aisById i = none)
    (j : Fin 8) : (room.closePair false i slot).load j = if j = i then 0 else room.load j := by
  unfold load closePair
  simp only [Bool.false_eq_true, if_false, Slots.put_apply]
  split
  next he =>
    rw [he, hm, ha]
    rfl
  next => rfl

theorem closeAllowed_true (h : room.closeAllowed true i slot = true) :
    room.Unused i ∧ room.slotPositions slot = none := by
  unfold closeAllowed at h
  simpa [Unused, and_assoc] using h

theorem closeAllowed_false (h : room.closeAllowed false i slot = true) :
    room.closedSlotsById i = some slot ∧ room.slotPositions slot = some i := by
  unfold closeAllowed at h
  simpa using h

theorem Seated.closePair (h : room.Seated) {close : Bool}
    (hc : room.closeAllowed close i slot = true) : (room.closePair close i slot).Seated := by
  cases close with
  | true =>
    obtain ⟨hi, hs⟩ := closeAllowed_true hc
    refine h.occupy (load_eq_zero.mpr hi) hs (load_closePair_close hi) rfl (fun {j s} hj => ?_)
      h.users
    unfold ProtocolRoomState.closePair at hj
    dsimp only at hj
    rw [Slots.put_apply] at hj
    split at hj
    next he =>
      cases hj
      exact Or.inr ⟨he, rfl⟩
    next => exact Or.inl hj
  | false =>
    obtain ⟨hi, hs⟩ := closeAllowed_false hc
    obtain ⟨hm, ha⟩ := h.of_closed hi
    refine h.vacate hs (load_closePair_open hm ha) rfl (fun {j s} hj => ?_) h.users
    unfold ProtocolRoomState.closePair at hj
    dsimp only at hj
    rw [Slots.put_apply] at hj
    split at hj
    next => exact absurd hj (by simp)
    next he => exact ⟨he, hj⟩

theorem Seated.reseat (h : room.Seated) (hr : room.Reseat room') : room'.Seated := by
  cases hr with
  | team mode member current half free => exact h.moveTeam member current free
  | master member => exact (samePlaces_of_master room _).seated h
  | removeAi ai slot =>
    obtain ⟨hm, hc⟩ := h.of_ai ai
    refine h.vacate slot (load_withoutAi hm hc) rfl (fun {j s} hj => ⟨?_, hj⟩) h.users
    rintro rfl
    exact absurd (hc ▸ hj : none = some s) (by simp)
  | addAi unused free fits =>
    exact h.occupy (load_eq_zero.mpr unused) free (load_withAi unused) rfl
      (fun hc => Or.inl hc) h.users
  | close allowed => exact h.closePair allowed

theorem Reseat.userNos (hr : room.Reseat room') : room'.userNos = room.userNos := by
  cases hr with
  | team => exact userNos_moveTeam
  | master => rfl
  | removeAi => rfl
  | addAi => rfl
  | close => rfl

theorem RoomMove.userNos (e : room.RoomMove room') : room'.userNos = room.userNos := by
  cases e with
  | touch seats => exact seats.userNos
  | reseat _ h => exact h.userNos
  | run => rfl
  | settle => rfl

theorem Seated.edit (h : room.Seated) (e : room.RoomMove room') : room'.Seated := by
  cases e with
  | touch seats => exact seats.seated h
  | reseat _ hr => exact h.reseat hr
  | run => exact room.startRunning_sameSeats.seated h
  | settle => exact (room.beginSettlement_sameSeats _ _ _ _).seated h

/-! ## Zones -/

/-- Every racer and every AI sits in the half of its team; without teams, the team
is zero. -/
structure Zoned (room : ProtocolRoomState) : Prop where
  member : ∀ {i m s}, room.membersById i = some m → room.slotPositions s = some i →
    room.Fits s m.player.team
  ai : ∀ {i ai s}, room.aisById i = some ai → room.slotPositions s = some i →
    room.Fits s ai.team

theorem fits_congr (h : room'.settings.gameType = room.settings.gameType) :
    room'.Fits slot team ↔ room.Fits slot team := by
  unfold Fits teamMode
  rw [h]

/-- Whoever is new at a slot fits there. -/
theorem Zoned.update (h : room.Zoned)
    (hg : room'.settings.gameType = room.settings.gameType)
    (hm : ∀ {i m s}, room'.membersById i = some m → room'.slotPositions s = some i →
      (∃ m₀, room.membersById i = some m₀ ∧ m₀.player.team = m.player.team ∧
        room.slotPositions s = some i) ∨ room.Fits s m.player.team)
    (ha : ∀ {i ai s}, room'.aisById i = some ai → room'.slotPositions s = some i →
      (room.aisById i = some ai ∧ room.slotPositions s = some i) ∨ room.Fits s ai.team) :
    room'.Zoned where
  member := by
    intro i m s hi hs
    rw [fits_congr hg]
    rcases hm hi hs with ⟨m₀, h₀, ht, hs₀⟩ | hf
    · rw [← ht]
      exact h.member h₀ hs₀
    · exact hf
  ai := by
    intro i a s hi hs
    rw [fits_congr hg]
    rcases ha hi hs with ⟨h₀, hs₀⟩ | hf
    · exact h.ai h₀ hs₀
    · exact hf

theorem SamePlaces.zoned (hs : room.SamePlaces room') (h : room.Zoned) : room'.Zoned := by
  refine h.update hs.gameType (fun {i m s} hi hp => Or.inl ?_) fun {i a s} hi hp => Or.inl ?_
  · obtain ⟨m₀, h₀, -, ht⟩ := hs.member hi
    exact ⟨m₀, h₀, ht, hs.slots ▸ hp⟩
  · exact ⟨hs.ais ▸ hi, hs.slots ▸ hp⟩

/-- A slot that only lost its id, or got another one, still shows an old id. -/
theorem put_slot_ne {v : Option (Fin 8)} {s : Fin 8}
    (h : (room.slotPositions.put slot v) s = some j) (hv : v ≠ some j) :
    room.slotPositions s = some j := by
  rw [Slots.put_apply] at h
  split at h
  next => exact absurd h hv
  next => exact h

/-- An unused id has no slot. -/
theorem Seated.unplaced (h : room.Seated) (hi : room.Unused i) (s : Fin 8) :
    room.slotPositions s ≠ some i := fun hs =>
  (h.places.iff i).mp ⟨s, hs⟩ (load_eq_zero.mpr hi)

theorem Zoned.seatRacer (h : room.Zoned) (hs : room.Seated) (hi : room.Unused i)
    (hf : room.Fits slot team) : (room.seatRacer userNo participant i slot team).Zoned := by
  refine h.update rfl (fun {j m s} hj hp => ?_) fun {j a s} hj hp => Or.inl ⟨hj, ?_⟩
  · unfold ProtocolRoomState.seatRacer at hj hp
    dsimp only at hj hp
    rw [Slots.put_apply] at hj
    split at hj
    next he =>
      subst he
      cases hj
      rw [Slots.put_apply] at hp
      split at hp
      next hss => exact Or.inr (hss ▸ hf)
      next => exact absurd hp (hs.unplaced hi s)
    next he =>
      exact Or.inl ⟨m, hj, rfl, put_slot_ne hp fun hc => he (Option.some.inj hc).symm⟩
  · refine put_slot_ne hp fun hc => ?_
    cases hc
    have hj' : room.aisById i = some a := hj
    rw [hi.2.1] at hj'
    exact absurd hj' (by simp)

theorem Zoned.addParticipant (h : room.Zoned) (hs : room.Seated)
    (ha : room.addParticipant userNo participant = some room') : room'.Zoned := by
  unfold ProtocolRoomState.addParticipant at ha
  split at ha
  next =>
    obtain ⟨i, hi, rfl⟩ := addObserver_cases ha
    exact h.update rfl (fun {j m s} hj hp => Or.inl ⟨m, hj, rfl, hp⟩)
      fun hj hp => Or.inl ⟨hj, hp⟩
  next =>
    obtain ⟨i, slot, team, hi, hslot, rfl⟩ := addRacer_cases ha
    exact (claimMaster_samePlaces _ _).zoned
      (h.seatRacer hs hi (admissionSlotAndTeam_some hslot).2)

theorem Zoned.removeUser (h : room.Zoned) (hs : room.Seated)
    (hr : room.removeUser userNo = some room') : room'.Zoned := by
  rcases removeUser_cases hr with ⟨i, m, hm, rfl, rfl⟩ | ⟨i, m, hm, rfl, rfl⟩
  · refine (room.removeObserver_samePlaces i).zoned ?_
    exact h.update rfl (fun {j m s} hj hp => Or.inl ⟨m, hj, rfl, hp⟩)
      fun hj hp => Or.inl ⟨hj, hp⟩
  · obtain ⟨slot, hslot⟩ := hs.hasSlot (load_of_member hm)
    refine (hs.removeMember_samePlaces hslot).zoned ?_
    refine h.update rfl (fun {j m s} hj hp => Or.inl ?_) fun {j a s} hj hp => Or.inl ?_
    · unfold ProtocolRoomState.withoutMember at hj hp
      dsimp only at hj hp
      rw [Slots.put_apply] at hj
      split at hj
      next => exact absurd hj (by simp)
      next => exact ⟨m, hj, rfl, put_slot_ne hp (by simp)⟩
    · exact ⟨hj, put_slot_ne hp (by simp)⟩

theorem Zoned.reseat (h : room.Zoned) (hs : room.Seated) (hr : room.Reseat room') :
    room'.Zoned := by
  cases hr with
  | @team i current target m t mode member current_ half free =>
    refine h.update rfl (fun {j m' s} hj hp => ?_) fun {j a s} hj hp => Or.inl ⟨hj, ?_⟩
    · unfold moveTeam at hj hp
      dsimp only [Slots.modify_apply] at hj hp
      obtain ⟨m₀, h₀, he⟩ := Option.map_eq_some_iff.mp hj
      split at he
      next hji =>
        subst hji
        subst he
        rw [Slots.put_apply] at hp
        split at hp
        next hst =>
          refine Or.inr ?_
          subst hst
          unfold Fits
          rw [if_pos mode]
          cases t with
          | red => exact Or.inr ⟨rfl, by simpa [teamRange] using half⟩
          | blue => exact Or.inl ⟨rfl, by simpa [teamRange] using half⟩
        next =>
          rw [Slots.put_apply] at hp
          split at hp
          next => exact absurd hp (by simp)
          next hne => exact absurd (hs.places.inj hp current_) hne
      next hji =>
        subst he
        refine Or.inl ⟨m₀, h₀, rfl, ?_⟩
        rw [Slots.put_apply] at hp
        split at hp
        next => exact absurd (Option.some.inj hp).symm hji
        next => exact put_slot_ne hp (by simp)
    · have hji : j ≠ i := by
        rintro rfl
        exact absurd (hs.of_member member).1 (by rw [show room.aisById j = some a from hj]; simp)
      unfold moveTeam at hp
      dsimp only at hp
      rw [Slots.put_apply] at hp
      split at hp
      next => exact absurd (Option.some.inj hp).symm hji
      next => exact put_slot_ne hp (by simp)
  | master => exact (samePlaces_of_master room _).zoned h
  | @removeAi i slot ai ai_ slot_ =>
    refine h.update rfl (fun {j m s} hj hp => Or.inl ⟨m, hj, rfl, put_slot_ne hp (by simp)⟩)
      fun {j a s} hj hp => Or.inl ⟨?_, put_slot_ne hp (by simp)⟩
    unfold withoutAi at hj
    dsimp only at hj
    rw [Slots.put_apply] at hj
    split at hj
    next => exact absurd hj (by simp)
    next => exact hj
  | @addAi i slot ai unused free fits =>
    refine h.update rfl (fun {j m s} hj hp => Or.inl ⟨m, hj, rfl, put_slot_ne hp ?_⟩)
      fun {j a s} hj hp => ?_
    · intro hc
      cases hc
      exact absurd (show room.membersById i = some m from hj) (by rw [unused.1]; simp)
    · unfold withAi at hj hp
      dsimp only at hj hp
      rw [Slots.put_apply] at hj
      split at hj
      next he =>
        subst he
        cases hj
        rw [Slots.put_apply] at hp
        split at hp
        next hss => exact Or.inr (hss ▸ fits)
        next => exact absurd hp (hs.unplaced unused s)
      next he =>
        exact Or.inl ⟨hj, put_slot_ne hp fun hc => he (Option.some.inj hc).symm⟩
  | @close close i slot allowed =>
    have hempty : room.membersById i = none ∧ room.aisById i = none := by
      cases close with
      | true =>
        obtain ⟨hu, -⟩ := closeAllowed_true allowed
        exact ⟨hu.1, hu.2.1⟩
      | false => exact hs.of_closed (closeAllowed_false allowed).1
    have hold : ∀ {j s}, (room.closePair close i slot).slotPositions s = some j → j ≠ i →
        room.slotPositions s = some j := by
      intro j s hp hne
      refine put_slot_ne hp ?_
      split
      next => exact fun hc => hne (Option.some.inj hc).symm
      next => simp
    refine h.update rfl (fun {j m s} hj hp => Or.inl ⟨m, hj, rfl, hold hp ?_⟩)
      fun {j a s} hj hp => Or.inl ⟨hj, hold hp ?_⟩
    · rintro rfl
      exact absurd (show room.membersById j = some m from hj) (by rw [hempty.1]; simp)
    · rintro rfl
      exact absurd (show room.aisById j = some a from hj) (by rw [hempty.2]; simp)

theorem Zoned.edit (h : room.Zoned) (hs : room.Seated) (e : room.RoomMove room') :
    room'.Zoned := by
  cases e with
  | touch seats => exact seats.zoned h
  | reseat _ hr => exact h.reseat hs hr
  | run => exact room.startRunning_sameSeats.zoned h
  | settle => exact (room.beginSettlement_sameSeats _ _ _ _).zoned h

end ProtocolRoomState

end P4475
