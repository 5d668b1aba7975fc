import P4475.World.Invariant

/-!
# Who is where

Every reachable room keeps its four arrays consistent, and the membership index lists
exactly the people of the rooms.
-/

namespace P4475

open Lib ProtocolRoomState

namespace ProtocolRoomState

/-- The arrays of a room agree, and its operations can rely on it. -/
structure Occupancy (room : ProtocolRoomState) : Prop where
  /-- At most one of a human racer, an AI and a closed slot has the id. -/
  single : ∀ i, room.load i ≤ 1
  /-- The slots that are filled are filled with the used ids, each once. -/
  placed : Slots.Places room.slotPositions room.used
  /-- A closed id points to its slot, and the slot back. -/
  closed : ∀ {i s}, room.closedSlotsById i = some s → room.slotPositions s = some i
  /-- A racer is turned away only if every id is used. -/
  full : ∀ userNo (participant : RoomParticipant), participant.observer = false →
    (room.addParticipant userNo participant = none ↔ ∀ i, ¬ room.Unused i)
  /-- `remove_ai` finds the slot of the AI. -/
  removal : ∀ playerId, room.removeAi playerId ≠ .panicked

variable {room : ProtocolRoomState}

theorem Seated.removeAi_ne (h : room.Seated) (playerId : Nat) :
    room.removeAi playerId ≠ .panicked := fun hp => by
  obtain ⟨i, ai, hai, hno⟩ := removeAi_panicked hp
  have hused : i ∈ room.used := mem_used.mpr fun hl => by
    have hnone : room.aisById i = none := (load_eq_zero.mp hl).2.1
    rw [hai] at hnone
    exact absurd hnone (by simp)
  obtain ⟨slot, hslot⟩ := (h.places.iff i).mpr hused
  exact hno slot hslot

theorem Seated.occupancy (h : room.Seated) : room.Occupancy where
  single := h.single
  placed := h.places
  closed := h.closed
  full := fun userNo participant ho => by
    unfold ProtocolRoomState.addParticipant
    rw [ho, if_neg (by simp)]
    exact h.addRacer_eq_none_iff
  removal := h.removeAi_ne

end ProtocolRoomState

/-- The rooms and the index of a world agree. -/
structure World.Occupied {H : Type} (w : World H) : Prop where
  rooms : ∀ {id room}, w.room? id = some room → room.Occupancy
  /-- The index sends every racer and observer to their room, and nobody else. -/
  index : ∀ {userNo id}, w.roomOf? userNo = some id ↔
    ∃ room, w.room? id = some room ∧ userNo ∈ room.userNos
  /-- Nobody is in a room twice. -/
  once : ∀ {id room}, w.room? id = some room → room.userNos.Nodup
  /-- Nobody is in two rooms. -/
  unique : ∀ {userNo id id' room room'}, w.room? id = some room → w.room? id' = some room' →
    userNo ∈ room.userNos → userNo ∈ room'.userNos → id = id'

variable {H Q P : Type} {env : WorldEnv H Q P}

theorem TablesOk.occupied {w : World H} (h : TablesOk w.protocol) : w.Occupied where
  rooms := fun hr => (h.rooms hr).2.seated.occupancy
  index := h.index
  once := fun hr => (h.rooms hr).2.seated.users
  unique := fun hr hr' hu hu' => by
    have hid := h.index.mpr ⟨_, hr, hu⟩
    have hid' := h.index.mpr ⟨_, hr', hu'⟩
    exact Option.some_inj.mp (hid.symm.trans hid')

/-- **Occupancy of every reachable world.** -/
theorem reachable_occupied {a : WorldActor H} (h : (WorldActor.machine env).Reachable a) :
    a.world.Occupied := (WorldActor.ok_of_reachable h).tables.occupied

theorem roomRun_occupied : roomRun.2.world.Occupied ∧
    (roomRun.2.world.room? ⟨1⟩).map ProtocolRoomState.userNos =
      some [IdentitySystem.sampleUser, sampleGuest] :=
  ⟨reachable_occupied roomRun_reachable, by decide +kernel⟩

end P4475
