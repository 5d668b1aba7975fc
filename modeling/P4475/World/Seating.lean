import P4475.World.Profiles

/-!
# Who sits where

`load` counts how many of a member, an AI and a closed slot use an id; a room is
`Seated` when no id has two users, the physical slots hold exactly the used ids,
and nobody is there twice. Every operation that moves somebody either occupies an
unused id at a free slot or vacates one (`Seated.occupy`, `Seated.vacate`); the
others leave the same places (`SamePlaces`) and need no argument of their own.
-/

namespace P4475

open Lib

namespace ProtocolRoomState

/-! ## The invariant -/

/-- How many of a member, an AI and a closed slot use an id. -/
def load (room : ProtocolRoomState) (i : Fin 8) : Nat :=
  (room.membersById i).isSome.toNat + (room.aisById i).isSome.toNat +
    (room.closedSlotsById i).isSome.toNat

/-- The used ids. -/
def used (room : ProtocolRoomState) : Set (Fin 8) := {i | room.load i ≠ 0}

structure Seated (room : ProtocolRoomState) : Prop where
  single : ∀ i, room.load i ≤ 1
  places : Slots.Places room.slotPositions room.used
  closed : ∀ {i s}, room.closedSlotsById i = some s → room.slotPositions s = some i
  users : room.userNos.Nodup

variable {room room' : ProtocolRoomState} {i j slot : Fin 8} {userNo : UserNo}

theorem mem_used : i ∈ room.used ↔ room.load i ≠ 0 := Iff.rfl

theorem load_eq_zero : room.load i = 0 ↔ room.Unused i := by
  unfold load Unused
  cases room.membersById i <;> cases room.aisById i <;> cases room.closedSlotsById i <;> simp

theorem load_of_member {m : ProtocolRoomMember} (h : room.membersById i = some m) :
    room.load i ≠ 0 := by
  unfold load
  rw [h]
  simp

/-- A member's id is no AI's and no closed slot's. -/
theorem Seated.of_member (h : room.Seated) {m : ProtocolRoomMember}
    (hm : room.membersById i = some m) :
    room.aisById i = none ∧ room.closedSlotsById i = none := by
  have hs := h.single i
  unfold load at hs
  rw [hm] at hs
  cases ha : room.aisById i <;> cases hc : room.closedSlotsById i <;> simp [ha, hc] at hs ⊢

/-- An AI's id is no member's and no closed slot's. -/
theorem Seated.of_ai (h : room.Seated) {ai : RoomAi} (ha : room.aisById i = some ai) :
    room.membersById i = none ∧ room.closedSlotsById i = none := by
  have hs := h.single i
  unfold load at hs
  rw [ha] at hs
  cases hm : room.membersById i <;> cases hc : room.closedSlotsById i <;> simp [hm, hc] at hs ⊢

/-- A closed id is no member's and no AI's. -/
theorem Seated.of_closed (h : room.Seated) {s : Fin 8} (hc : room.closedSlotsById i = some s) :
    room.membersById i = none ∧ room.aisById i = none := by
  have hs := h.single i
  unfold load at hs
  rw [hc] at hs
  cases hm : room.membersById i <;> cases ha : room.aisById i <;> simp [hm, ha] at hs ⊢

/-- Whoever uses an id has a slot. -/
theorem Seated.hasSlot (h : room.Seated) (hi : room.load i ≠ 0) :
    ∃ s, room.slotPositions s = some i := (h.places.iff i).mpr hi

/-- An unused id is occupied at a free slot. -/
theorem Seated.occupy (h : room.Seated) (hi : room.load i = 0)
    (hslot : room.slotPositions slot = none)
    (hload : ∀ j, room'.load j = if j = i then 1 else room.load j)
    (hpos : room'.slotPositions = room.slotPositions.put slot (some i))
    (hclosed : ∀ {j s}, room'.closedSlotsById j = some s →
      room.closedSlotsById j = some s ∨ (j = i ∧ s = slot))
    (husers : room'.userNos.Nodup) : room'.Seated where
  single := by
    intro j
    rw [hload]
    split
    next => exact le_refl 1
    next => exact h.single j
  places := by
    have hused : room'.used = insert i room.used := by
      ext j
      rw [mem_used, hload, Set.mem_insert_iff, mem_used]
      by_cases hj : j = i <;> simp [hj]
    rw [hused, hpos]
    exact h.places.place hslot fun hu => hu hi
  closed := by
    intro j s hc
    rw [hpos]
    rcases hclosed hc with ho | ⟨rfl, rfl⟩
    · have ht := h.closed ho
      rw [Slots.put_ne _ _ fun he => by rw [he, hslot] at ht; exact absurd ht (by simp)]
      exact ht
    · exact Slots.put_same _ _ _
  users := husers

/-- A used id is vacated with its slot. -/
theorem Seated.vacate (h : room.Seated) (hslot : room.slotPositions slot = some i)
    (hload : ∀ j, room'.load j = if j = i then 0 else room.load j)
    (hpos : room'.slotPositions = room.slotPositions.put slot none)
    (hclosed : ∀ {j s}, room'.closedSlotsById j = some s →
      j ≠ i ∧ room.closedSlotsById j = some s)
    (husers : room'.userNos.Nodup) : room'.Seated where
  single := by
    intro j
    rw [hload]
    split
    next => exact Nat.zero_le 1
    next => exact h.single j
  places := by
    have hused : room'.used = room.used \ {i} := by
      ext j
      rw [mem_used, hload, Set.mem_sdiff, mem_used, Set.mem_singleton_iff]
      by_cases hj : j = i <;> simp [hj]
    rw [hused, hpos]
    exact h.places.clear hslot
  closed := by
    intro j s hc
    obtain ⟨hji, ho⟩ := hclosed hc
    have ht := h.closed ho
    rw [hpos, Slots.put_ne _ _ fun he => by
      rw [he, hslot] at ht
      exact hji (Option.some.inj ht).symm]
    exact ht
  users := husers

/-! ## The same places -/

/-- Both rooms have the same users and AIs, of the same teams, at the same ids and
slots. -/
structure SamePlaces (room room' : ProtocolRoomState) : Prop where
  id : room'.id = room.id
  gameType : room'.settings.gameType = room.settings.gameType
  members : ∀ i, (room'.membersById i).map (fun m => (m.userNo, m.player.team)) =
    (room.membersById i).map fun m => (m.userNo, m.player.team)
  ais : room'.aisById = room.aisById
  closed : room'.closedSlotsById = room.closedSlotsById
  observers : ∀ i, (room'.observers i).map (·.userNo) = (room.observers i).map (·.userNo)
  slots : room'.slotPositions = room.slotPositions

theorem SamePlaces.refl (room : ProtocolRoomState) : room.SamePlaces room :=
  ⟨rfl, rfl, fun _ => rfl, rfl, rfl, fun _ => rfl, rfl⟩

theorem SamePlaces.trans {room'' : ProtocolRoomState} (h : room.SamePlaces room')
    (h' : room'.SamePlaces room'') : room.SamePlaces room'' where
  id := h'.id.trans h.id
  gameType := h'.gameType.trans h.gameType
  members := fun i => (h'.members i).trans (h.members i)
  ais := h'.ais.trans h.ais
  closed := h'.closed.trans h.closed
  observers := fun i => (h'.observers i).trans (h.observers i)
  slots := h'.slots.trans h.slots

theorem SamePlaces.member_isSome (h : room.SamePlaces room') (i : Fin 8) :
    (room'.membersById i).isSome = (room.membersById i).isSome := by
  simpa using congrArg Option.isSome (h.members i)

theorem SamePlaces.observer_isSome (h : room.SamePlaces room') (i : Fin 8) :
    (room'.observers i).isSome = (room.observers i).isSome := by
  simpa using congrArg Option.isSome (h.observers i)

/-- A member after is a member before, the same user in the same team. -/
theorem SamePlaces.member (h : room.SamePlaces room') {m : ProtocolRoomMember}
    (hm : room'.membersById i = some m) : ∃ m₀, room.membersById i = some m₀ ∧
      m₀.userNo = m.userNo ∧ m₀.player.team = m.player.team := by
  have hi := h.members i
  rw [hm] at hi
  obtain ⟨m₀, hm₀, he⟩ := Option.map_eq_some_iff.mp hi.symm
  exact ⟨m₀, hm₀, congrArg Prod.fst he, congrArg Prod.snd he⟩

theorem SamePlaces.load (h : room.SamePlaces room') (i : Fin 8) : room'.load i = room.load i := by
  unfold ProtocolRoomState.load
  rw [h.member_isSome, h.ais, h.closed]

theorem SamePlaces.userNos (h : room.SamePlaces room') : room'.userNos = room.userNos := by
  have hm := Slots.map_entries_congr (s := room'.membersById) (t := room.membersById)
    (·.userNo) (·.userNo) fun i => by
      have := congrArg (Option.map Prod.fst) (h.members i)
      rw [Option.map_map, Option.map_map] at this
      exact this
  have ho := Slots.map_entries_congr (s := room'.observers) (t := room.observers)
    (·.userNo) (·.userNo) h.observers
  unfold ProtocolRoomState.userNos
  rw [List.map_append, List.map_append, hm, ho]

theorem SamePlaces.seated (hs : room.SamePlaces room') (h : room.Seated) : room'.Seated where
  single := fun i => by rw [hs.load]; exact h.single i
  places := by
    have hused : room'.used = room.used := by
      ext i
      rw [mem_used, hs.load, mem_used]
    rw [hused, hs.slots]
    exact h.places
  closed := by
    intro i s hc
    rw [hs.closed] at hc
    rw [hs.slots]
    exact h.closed hc
  users := by rw [hs.userNos]; exact h.users

/-- Members are changed in place, keeping their user and team. -/
theorem samePlaces_of_modify {f : Fin 8 → ProtocolRoomMember → ProtocolRoomMember}
    (hf : ∀ i m, (f i m).userNo = m.userNo ∧ (f i m).player.team = m.player.team) :
    room.SamePlaces { room with membersById := room.membersById.modify f } := by
  refine ⟨rfl, rfl, fun i => ?_, rfl, rfl, fun _ => rfl, rfl⟩
  show ((room.membersById i).map (f i)).map _ = _
  rw [Option.map_map]
  congr 1
  funext m
  exact Prod.ext (hf i m).1 (hf i m).2

/-- Observers are changed in place, keeping their user. -/
theorem samePlaces_of_modifyObservers {f : Fin 8 → ProtocolRoomMember → ProtocolRoomMember}
    (hf : ∀ i m, (f i m).userNo = m.userNo) :
    room.SamePlaces { room with observers := room.observers.modify f } := by
  refine ⟨rfl, rfl, fun _ => rfl, rfl, rfl, fun i => ?_, rfl⟩
  show ((room.observers i).map (f i)).map _ = _
  rw [Option.map_map]
  congr 1
  funext m
  exact hf i m

/-- Only the master changes. -/
theorem samePlaces_of_master (room : ProtocolRoomState) (master : Int) :
    room.SamePlaces { room with roomMaster := master } :=
  ⟨rfl, rfl, fun _ => rfl, rfl, rfl, fun _ => rfl, rfl⟩

theorem claimMaster_samePlaces (room : ProtocolRoomState) (playerId : Int) :
    room.SamePlaces (room.claimMaster playerId) := by
  unfold claimMaster
  split
  next => exact room.samePlaces_of_master playerId
  next => exact .refl room

theorem rerank_samePlaces (room : ProtocolRoomState) (order : List (Fin 8)) :
    room.SamePlaces (room.rerank order) := by
  refine samePlaces_of_modify fun i m => ?_
  split
  next => exact ⟨rfl, rfl⟩
  next => exact ⟨rfl, rfl⟩

theorem assignNextRoomMaster_samePlaces (room : ProtocolRoomState) :
    room.SamePlaces room.assignNextRoomMaster := by
  unfold assignNextRoomMaster
  split
  next i =>
    refine (samePlaces_of_modify fun j m => ?_).trans (samePlaces_of_master _ _)
    split
    next => exact ⟨rfl, rfl⟩
    next => exact ⟨rfl, rfl⟩
  next =>
    split
    next i =>
      refine (samePlaces_of_modifyObservers fun j m => ?_).trans (samePlaces_of_master _ _)
      split
      next => rfl
      next => rfl
    next => exact room.samePlaces_of_master _

theorem applyNextGridRanking_samePlaces (room : ProtocolRoomState)
    (ranking : SettlementRanking) : room.SamePlaces (room.applyNextGridRanking ranking) :=
  room.rerank_samePlaces _

theorem applyNextLobbyMaster_samePlaces (room : ProtocolRoomState)
    (ranking : SettlementRanking) : room.SamePlaces (room.applyNextLobbyMaster ranking).2 := by
  unfold applyNextLobbyMaster
  split
  next => exact .refl room
  next =>
    dsimp only
    split
    next => exact .refl room
    next => exact room.samePlaces_of_master _

end ProtocolRoomState

end P4475
