import P4475.World.Seating

/-!
# What the room operations do

One inversion lemma for each operation of a room: which guard it passed and which
room it left behind. Everything later argues from these and never unfolds an
operation again.
-/

namespace P4475

open Lib

namespace ProtocolRoomState

variable {room room' : ProtocolRoomState} {i j slot : Fin 8} {userNo : UserNo}
  {participant : RoomParticipant}

/-! ## Searches -/

theorem freeSlot_some {admits : Fin 8 → Bool} (h : room.freeSlot admits = some slot) :
    admits slot = true ∧ room.slotPositions slot = none := by
  have hf := List.find?_some h
  simpa using hf

theorem freeSlot_none {admits : Fin 8 → Bool} (h : room.freeSlot admits = none)
    (hf : room.slotPositions slot = none) : admits slot = false := by
  have := List.find?_eq_none.mp h slot (List.mem_finRange slot)
  simpa [hf] using this

theorem vacantMemberId_some (h : room.vacantMemberId = some i) : room.Unused i := by
  have hf := List.find?_some h
  simpa [Unused, and_assoc] using hf

theorem vacantMemberId_none (h : room.vacantMemberId = none) (i : Fin 8) : ¬ room.Unused i := by
  have := List.find?_eq_none.mp h i (List.mem_finRange i)
  simpa [Unused, and_assoc] using this

theorem memberId_some (h : room.memberId userNo = some i) :
    ∃ m, room.membersById i = some m ∧ m.userNo = userNo := by
  obtain ⟨m, hm, he⟩ := Slots.position_some h
  exact ⟨m, hm, by simpa using he⟩

theorem observerId_some (h : room.observerId userNo = some i) :
    ∃ m, room.observers i = some m ∧ m.userNo = userNo := by
  obtain ⟨m, hm, he⟩ := Slots.position_some h
  exact ⟨m, hm, by simpa using he⟩

theorem mem_userNos : userNo ∈ room.userNos ↔
    (∃ i m, room.membersById i = some m ∧ m.userNo = userNo) ∨
      ∃ i m, room.observers i = some m ∧ m.userNo = userNo := by
  unfold userNos
  rw [List.map_append, List.mem_append, List.mem_map, List.mem_map]
  constructor
  · rintro (⟨m, hm, rfl⟩ | ⟨m, hm, rfl⟩)
    · obtain ⟨i, hi⟩ := Slots.mem_entries.mp hm
      exact Or.inl ⟨i, m, hi, rfl⟩
    · obtain ⟨i, hi⟩ := Slots.mem_entries.mp hm
      exact Or.inr ⟨i, m, hi, rfl⟩
  · rintro (⟨i, m, hi, rfl⟩ | ⟨i, m, hi, rfl⟩)
    · exact Or.inl ⟨m, Slots.mem_entries.mpr ⟨i, hi⟩, rfl⟩
    · exact Or.inr ⟨m, Slots.mem_entries.mpr ⟨i, hi⟩, rfl⟩

theorem userNos_eq (room : ProtocolRoomState) : room.userNos =
    room.membersById.entries.map (·.userNo) ++ room.observers.entries.map (·.userNo) :=
  List.map_append

/-! ## Player ids -/

theorem memberPlayerId_injective (h : memberPlayerId i = memberPlayerId j) : i = j := by
  unfold memberPlayerId at h
  exact Fin.ext (by omega)

@[simp] theorem memberByPlayerId_member (room : ProtocolRoomState) (i : Fin 8) :
    room.memberByPlayerId (memberPlayerId i) = room.membersById i := by
  have hi := i.isLt
  unfold memberByPlayerId memberPlayerId
  rw [dif_pos (by omega)]
  rfl

@[simp] theorem memberByPlayerId_observer (room : ProtocolRoomState) (i : Fin 8) :
    room.memberByPlayerId (observerPlayerId i) = room.observers i := by
  have hi := i.isLt
  unfold memberByPlayerId observerPlayerId
  rw [dif_neg (by omega), dif_pos (by omega)]
  congr 1
  exact Fin.ext (by simp)

/-- A player id that names somebody is a member's or an observer's. -/
theorem memberByPlayerId_some {playerId : Int} {m : ProtocolRoomMember}
    (h : room.memberByPlayerId playerId = some m) :
    (∃ i, playerId = memberPlayerId i ∧ room.membersById i = some m) ∨
      ∃ i, playerId = observerPlayerId i ∧ room.observers i = some m := by
  unfold memberByPlayerId at h
  split at h
  next hp => exact Or.inl ⟨⟨playerId.toNat, by omega⟩, by unfold memberPlayerId; simp [hp.1], h⟩
  next =>
    split at h
    next hp =>
      refine Or.inr ⟨⟨(playerId - 8).toNat, by omega⟩, ?_, h⟩
      unfold observerPlayerId
      simp only [Int.toNat_of_nonneg (show 0 ≤ playerId - 8 by omega)]
      omega
    next => exact absurd h (by simp)

/-! ## Admission -/

theorem addObserver_cases (h : room.addObserver userNo participant = some room') :
    ∃ i, room.observers i = none ∧ room' = { room with
      observers := room.observers.put i (some {
        userNo := userNo
        player := { participant.player with playerType := 4, team := 0 }
        floaterCodes := participant.floaterCodes })
      roomMaster := if participant.observerMaster then observerPlayerId i
        else room.roomMaster } := by
  obtain ⟨i, hi, he⟩ := Option.map_eq_some_iff.mp h
  exact ⟨i, Slots.vacant_some hi, he.symm⟩

theorem addRacer_cases (h : room.addRacer userNo participant = some room') :
    ∃ i slot team, room.Unused i ∧ room.admissionSlotAndTeam = some (slot, team) ∧
      room' = (room.seatRacer userNo participant i slot team).claimMaster (memberPlayerId i) := by
  unfold addRacer at h
  split at h
  next => exact absurd h (by simp)
  next i hi =>
    obtain ⟨⟨slot, team⟩, ha, he⟩ := Option.map_eq_some_iff.mp h
    exact ⟨i, slot, team, vacantMemberId_some hi, ha, he.symm⟩

/-- The rule for the half and the team of a place. -/
def Fits (room : ProtocolRoomState) (slot : Fin 8) (team : Nat) : Prop :=
  if room.teamMode then team = 2 ∧ slot.val < 4 ∨ team = 1 ∧ 4 ≤ slot.val else team = 0

theorem fits_of_inHalf (hm : room.teamMode = true) {team : Nat} (ht : team = 1 ∨ team = 2)
    (h : inHalf team slot = true) : room.Fits slot team := by
  unfold Fits
  unfold inHalf at h
  rw [if_pos hm]
  rcases ht with rfl | rfl
  · exact Or.inr ⟨rfl, by simpa using h⟩
  · exact Or.inl ⟨rfl, by simpa using h⟩

theorem preferredTeam_cases (room : ProtocolRoomState) :
    room.preferredTeam = 1 ∨ room.preferredTeam = 2 := by
  unfold preferredTeam
  split
  next => exact Or.inr rfl
  next => exact Or.inl rfl

theorem admissionSlotAndTeam_some {team : Nat}
    (h : room.admissionSlotAndTeam = some (slot, team)) :
    room.slotPositions slot = none ∧ room.Fits slot team := by
  unfold admissionSlotAndTeam at h
  split at h
  next hm =>
    dsimp only at h
    split at h
    next s hs =>
      cases h
      obtain ⟨ha, hf⟩ := freeSlot_some hs
      exact ⟨hf, fits_of_inHalf hm room.preferredTeam_cases ha⟩
    next =>
      obtain ⟨s, hs, he⟩ := Option.map_eq_some_iff.mp h
      cases he
      obtain ⟨ha, hf⟩ := freeSlot_some hs
      refine ⟨hf, fits_of_inHalf hm ?_ ha⟩
      split
      next => exact Or.inl rfl
      next => exact Or.inr rfl
  next hm =>
    obtain ⟨s, hs, he⟩ := Option.map_eq_some_iff.mp h
    cases he
    refine ⟨(freeSlot_some hs).2, ?_⟩
    unfold Fits
    rw [if_neg hm]

/-- A free slot admits somebody, in whichever half it is. -/
theorem admissionSlotAndTeam_isSome (hf : room.slotPositions slot = none) :
    ∃ s team, room.admissionSlotAndTeam = some (s, team) := by
  unfold admissionSlotAndTeam
  split
  next hm =>
    dsimp only
    split
    next s hs => exact ⟨s, _, rfl⟩
    next hnone =>
      have hout := freeSlot_none hnone hf
      cases ho : room.freeSlot (inHalf (if room.preferredTeam = 2 then 1 else 2)) with
      | some s => exact ⟨s, _, rfl⟩
      | none =>
        have hout' := freeSlot_none ho hf
        rcases room.preferredTeam_cases with hp | hp
        · simp only [hp, inHalf] at hout hout'
          simp at hout hout'
          omega
        · simp only [hp, inHalf] at hout hout'
          simp at hout hout'
          omega
  next =>
    cases ha : room.freeSlot fun _ => true with
    | some s => exact ⟨s, 0, rfl⟩
    | none => exact absurd (freeSlot_none ha hf) (by simp)

/-! ## Removal -/

theorem removeUser_cases (h : room.removeUser userNo = some room') :
    (∃ i m, room.observers i = some m ∧ m.userNo = userNo ∧ room' = room.removeObserver i) ∨
      ∃ i m, room.membersById i = some m ∧ m.userNo = userNo ∧ room' = room.removeMember i := by
  unfold removeUser at h
  split at h
  next i hi =>
    cases h
    obtain ⟨m, hm, hu⟩ := observerId_some hi
    exact Or.inl ⟨i, m, hm, hu, rfl⟩
  next =>
    obtain ⟨i, hi, he⟩ := Option.map_eq_some_iff.mp h
    obtain ⟨m, hm, hu⟩ := memberId_some hi
    exact Or.inr ⟨i, m, hm, hu, he.symm⟩

theorem removeUser_isSome (h : userNo ∈ room.userNos) : ∃ room', room.removeUser userNo = some room' := by
  unfold removeUser
  cases ho : room.observerId userNo with
  | some i => exact ⟨_, rfl⟩
  | none =>
    rcases mem_userNos.mp h with ⟨i, m, hm, hu⟩ | ⟨i, m, hm, hu⟩
    · obtain ⟨k, hk⟩ := Slots.position_isSome (p := fun m => m.userNo = userNo) hm (by simpa)
      exact ⟨room.removeMember k, by rw [show room.memberId userNo = some k from hk]; rfl⟩
    · obtain ⟨k, hk⟩ := Slots.position_isSome (p := fun m => m.userNo = userNo) hm (by simpa)
      rw [show room.observerId userNo = some k from hk] at ho
      exact absurd ho (by simp)

/-! ## AIs and closed slots -/

/-- A room without one of its AIs. -/
def withoutAi (room : ProtocolRoomState) (i slot : Fin 8) : ProtocolRoomState :=
  { room with
    aisById := room.aisById.put i none
    slotPositions := room.slotPositions.put slot none }

/-- A room with one more AI. -/
def withAi (room : ProtocolRoomState) (i slot : Fin 8) (ai : RoomAi) : ProtocolRoomState :=
  { room with
    aisById := room.aisById.put i (some ai)
    slotPositions := room.slotPositions.put slot (some i) }

theorem removeAi_cases {playerId : Nat} {removed : Int}
    (h : room.removeAi playerId = .removed removed room') :
    ∃ i ai slot, room.aisById i = some ai ∧ room.slotPositions slot = some i ∧
      room' = room.withoutAi i slot := by
  unfold removeAi at h
  split at h
  next hp =>
    dsimp only at h
    split at h
    next => exact absurd h (by simp)
    next ai hai =>
      split at h
      next => exact absurd h (by simp)
      next slot hs =>
        obtain ⟨i, hi, he⟩ := Slots.position_some hs
        cases h
        exact ⟨_, ai, slot, hai, by rw [hi]; simpa using he, rfl⟩
  next => exact absurd h (by simp)

/-- The `expect` of `remove_ai` fails only for an AI without a slot. -/
theorem removeAi_panicked {playerId : Nat} (h : room.removeAi playerId = .panicked) :
    ∃ i ai, room.aisById i = some ai ∧ ∀ slot, room.slotPositions slot ≠ some i := by
  unfold removeAi at h
  split at h
  next hp =>
    dsimp only at h
    split at h
    next => exact absurd h (by simp)
    next ai hai =>
      split at h
      next hnone =>
        refine ⟨_, ai, hai, fun slot hs => ?_⟩
        exact absurd (Slots.position_none hnone hs) (by simp)
      next => exact absurd h (by simp)
  next => exact absurd h (by simp)

theorem addBasicAi_cases {team : Nat} {ai : RoomAi} {added : Int × RoomAi}
    (h : room.addBasicAi team ai = some (room', added)) :
    ∃ i slot, room.Unused i ∧ aiSlots team slot = true ∧ room.slotPositions slot = none ∧
      room' = room.withAi i slot { ai with team := team } := by
  unfold addBasicAi at h
  split at h
  next => exact absurd h (by simp)
  next i hi =>
    obtain ⟨slot, hs, he⟩ := Option.map_eq_some_iff.mp h
    obtain ⟨ha, hf⟩ := freeSlot_some hs
    cases he
    exact ⟨i, slot, vacantMemberId_some hi, ha, hf, rfl⟩

/-- `set_close_slots` writes one pair, or two that do not touch each other. -/
theorem setCloseSlots_cases {request : CloseSlotRequest}
    (h : room.setCloseSlots request = some room') :
    (∃ i s, room.closeAllowed request.operation.isClose i s = true ∧
      room' = room.closePair request.operation.isClose i s) ∨
    ∃ i s j t, i ≠ j ∧ s ≠ t ∧ room.closeAllowed request.operation.isClose i s = true ∧
      room.closeAllowed request.operation.isClose j t = true ∧
      room' = (room.closePair request.operation.isClose i s).closePair
        request.operation.isClose j t := by
  unfold setCloseSlots at h
  dsimp only at h
  split at h
  next => exact absurd h (by simp)
  next i s _ =>
    split at h
    next =>
      split at h
      next => exact absurd h (by simp)
      next j t _ =>
        split at h
        next => exact absurd h (by simp)
        next hne =>
          split at h
          next hc =>
            rw [Bool.and_eq_true] at hc
            cases h
            exact Or.inr ⟨i, s, j, t, fun he => hne (Or.inl he), fun he => hne (Or.inr he),
              hc.1, hc.2, rfl⟩
          next => exact absurd h (by simp)
    next =>
      split at h
      next hc =>
        cases h
        exact Or.inl ⟨i, s, hc, rfl⟩
      next => exact absurd h (by simp)

/-- A pair elsewhere stays allowed. -/
theorem closeAllowed_closePair {close : Bool} {s t : Fin 8} (hij : i ≠ j) (hst : s ≠ t)
    (h : room.closeAllowed close j t = true) :
    (room.closePair close i s).closeAllowed close j t = true := by
  unfold closeAllowed closePair at *
  simp only [Slots.put_ne _ _ hij.symm, Slots.put_ne _ _ hst.symm]
  exact h

/-! ## Lobby plans -/

theorem requireLobby_ok (h : room.requireLobby = .ok ()) : room.phase = .lobby := by
  unfold requireLobby at h
  split at h
  next hp => exact hp
  next => exact absurd h (by simp)

theorem requireLobbyMaster_ok {playerId : Int} (h : room.requireLobbyMaster userNo = .ok playerId) :
    room.phase = .lobby ∧ room.equipmentPlayerId userNo = some playerId ∧
      room.roomMaster = playerId := by
  unfold requireLobbyMaster at h
  split at h
  next => exact absurd h (by simp)
  next hl =>
    split at h
    next => exact absurd h (by simp)
    next p hp =>
      split at h
      next hm =>
        cases h
        exact ⟨requireLobby_ok hl, hp, hm⟩
      next => exact absurd h (by simp)

theorem planSlotState_ok {state : PlayerSlotState}
    (h : room.planSlotState userNo state = .ok (i, room')) :
    room.phase = .lobby ∧ room' = room.setPlayerType i state := by
  unfold planSlotState at h
  split at h
  next => exact absurd h (by simp)
  next hl =>
    refine ⟨requireLobby_ok hl, ?_⟩
    split at h
    next => exact absurd h (by simp)
    next =>
      split at h
      next => exact absurd h (by simp)
      next => exact absurd h (by simp)
      next =>
        split at h
        next => exact absurd h (by simp)
        next =>
          cases h
          rfl

theorem planTeam_ok {team : RoomTeam} (h : room.planTeam userNo team = .ok (i, slot, room')) :
    room.phase = .lobby ∧ (room' = room ∨ ∃ m current, room.teamMode = true ∧
      room.membersById i = some m ∧ room.slotPositions current = some i ∧
      teamRange team slot = true ∧ room.slotPositions slot = none ∧
      room' = room.moveTeam i current slot team) := by
  unfold planTeam at h
  split at h
  next => exact absurd h (by simp)
  next hl =>
    refine ⟨requireLobby_ok hl, ?_⟩
    split at h
    next => exact absurd h (by simp)
    next htm =>
      split at h
      next => exact absurd h (by simp)
      next k hk =>
        obtain ⟨m, hm, -⟩ := memberId_some hk
        split at h
        next => exact absurd h (by simp)
        next current hc =>
          obtain ⟨v, hv, he⟩ := Slots.position_some hc
          split at h
          next =>
            cases h
            exact Or.inl rfl
          next =>
            split at h
            next => exact absurd h (by simp)
            next target ht =>
              obtain ⟨ha, hf⟩ := freeSlot_some ht
              cases h
              exact Or.inr ⟨m, current, by simpa using htm, hm, by rw [hv]; simpa using he,
                ha, hf, rfl⟩

theorem planMaster_ok {unicode : Unicode} {target : Text}
    (h : room.planMaster unicode userNo target = .ok (i, room')) :
    room.phase = .lobby ∧ ∃ requester m, room.membersById i = some m ∧ room' = {
      (room.setPlayerType requester .notReady).setPlayerType i .notReady with
      roomMaster := memberPlayerId i } := by
  unfold planMaster at h
  split at h
  next => exact absurd h (by simp)
  next hl =>
    refine ⟨requireLobby_ok hl, ?_⟩
    split at h
    next => exact absurd h (by simp)
    next requester _ =>
      split at h
      next => exact absurd h (by simp)
      next =>
        split at h
        next => exact absurd h (by simp)
        next k hk =>
          obtain ⟨m, hm, -⟩ := Slots.position_some hk
          cases h
          exact ⟨requester, m, hm, rfl⟩

end ProtocolRoomState

end P4475
