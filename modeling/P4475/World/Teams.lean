import P4475.World.Occupancy

/-!
# Teams and halves

In a team room blue sits in the first four slots and red in the last four; a newcomer
joins the smaller team if its half has a place.
-/

namespace P4475

open Lib ProtocolRoomState

namespace ProtocolRoomState

/-- The team with fewer racers, AIs included; blue on a tie. -/
def Smaller (room : ProtocolRoomState) (team : Nat) : Prop :=
  team = 2 ∧ room.teamCount 2 ≤ room.teamCount 1 ∨
    team = 1 ∧ room.teamCount 1 < room.teamCount 2

/-- By how many racers the teams differ. -/
def imbalance (room : ProtocolRoomState) : Nat :=
  room.teamCount 1 - room.teamCount 2 + (room.teamCount 2 - room.teamCount 1)

/-- A newcomer at `i` in `team`. -/
structure JoinsTeam (room room' : ProtocolRoomState) (userNo : UserNo) (team : Nat) : Prop where
  newcomer : ∃ i m, room.membersById i = none ∧ room'.membersById i = some m ∧
    m.userNo = userNo ∧ m.player.team = team
  counts : ∀ t, room'.teamCount t = room.teamCount t + if t = team then 1 else 0

/-- Racers sit in the half of their team, and newcomers level the teams. -/
structure Teamed (room : ProtocolRoomState) : Prop where
  member : ∀ {i m}, room.membersById i = some m →
    ∃ slot, room.slotPositions slot = some i ∧ room.Fits slot m.player.team
  ai : ∀ {i ai}, room.aisById i = some ai →
    ∃ slot, room.slotPositions slot = some i ∧ room.Fits slot ai.team
  joins : ∀ {userNo participant room' team slot}, room.teamMode = true →
    participant.observer = false → room.addParticipant userNo participant = some room' →
    room.Smaller team → inHalf team slot = true → room.slotPositions slot = none →
    room.JoinsTeam room' userNo team
  levels : ∀ {userNo participant room' team slot}, room.teamMode = true →
    participant.observer = false → room.addParticipant userNo participant = some room' →
    room.Smaller team → inHalf team slot = true → room.slotPositions slot = none →
    room.imbalance ≠ 0 → room'.imbalance < room.imbalance

variable {room room' : ProtocolRoomState} {i slot : Fin 8} {team : Nat} {userNo : UserNo}
  {participant : RoomParticipant}

/-! ## Joining -/

theorem Smaller.preferred (h : room.Smaller team) : room.preferredTeam = team := by
  unfold preferredTeam
  rcases h with ⟨rfl, hle⟩ | ⟨rfl, hlt⟩
  · rw [if_pos hle]
  · rw [if_neg (by omega)]

/-- With a place in the half of the smaller team, that is the team. -/
theorem admissionSlotAndTeam_smaller (hm : room.teamMode = true) (hs : room.Smaller team)
    (hhalf : inHalf team slot = true) (hfree : room.slotPositions slot = none) :
    ∃ s, room.admissionSlotAndTeam = some (s, team) := by
  unfold admissionSlotAndTeam
  rw [if_pos hm, hs.preferred]
  dsimp only
  split
  next s _ => exact ⟨s, rfl⟩
  next hnone =>
    have hout := freeSlot_none hnone hfree
    rw [hhalf] at hout
    exact absurd hout (by simp)

theorem teamCount_congr (hm : room'.membersById = room.membersById)
    (ha : room'.aisById = room.aisById) (t : Nat) : room'.teamCount t = room.teamCount t := by
  unfold teamCount
  rw [hm, ha]

theorem claimMaster_members (room : ProtocolRoomState) (playerId : Int) :
    (room.claimMaster playerId).membersById = room.membersById ∧
      (room.claimMaster playerId).aisById = room.aisById := by
  unfold claimMaster
  split <;> exact ⟨rfl, rfl⟩

theorem seatRacer_teamCount (hi : room.membersById i = none) (t : Nat) :
    (room.seatRacer userNo participant i slot team).teamCount t =
      room.teamCount t + if t = team then 1 else 0 := by
  unfold teamCount seatRacer
  dsimp only
  rw [(Slots.entries_put_some _ hi).countP_eq, List.countP_cons]
  simp only [decide_eq_true_eq, eq_comm (a := team)]
  omega

theorem addParticipant_joins (hm : room.teamMode = true) (ho : participant.observer = false)
    (ha : room.addParticipant userNo participant = some room') (hs : room.Smaller team)
    (hhalf : inHalf team slot = true) (hfree : room.slotPositions slot = none) :
    room.JoinsTeam room' userNo team := by
  unfold addParticipant at ha
  rw [ho, if_neg (by simp)] at ha
  obtain ⟨i, s, t, hunused, hplace, rfl⟩ := addRacer_cases ha
  obtain ⟨s', hs'⟩ := admissionSlotAndTeam_smaller hm hs hhalf hfree
  rw [hplace] at hs'
  cases hs'
  have hclaim := claimMaster_members (room.seatRacer userNo participant i s team)
    (memberPlayerId i)
  refine ⟨⟨i, ?_⟩, fun t => ?_⟩
  · rw [hclaim.1]
    exact ⟨_, hunused.1, Slots.put_same _ _ _, rfl, rfl⟩
  · rw [teamCount_congr hclaim.1 hclaim.2]
    exact seatRacer_teamCount hunused.1 t

/-- Joining the smaller team makes the difference smaller. -/
theorem JoinsTeam.levels (h : room.JoinsTeam room' userNo team) (hs : room.Smaller team)
    (hne : room.imbalance ≠ 0) : room'.imbalance < room.imbalance := by
  have hred := h.counts 1
  have hblue := h.counts 2
  unfold imbalance at hne ⊢
  rcases hs with ⟨rfl, hle⟩ | ⟨rfl, hlt⟩
  · rw [if_neg (by decide)] at hred
    rw [if_pos rfl] at hblue
    omega
  · rw [if_pos rfl] at hred
    rw [if_neg (by decide)] at hblue
    omega

/-! ## Every room -/

theorem RoomOk.teamed (h : room.RoomOk) : room.Teamed where
  member := fun {i m} hm => by
    have hused : i ∈ room.used := mem_used.mpr fun hl => by
      have hnone : room.membersById i = none := (load_eq_zero.mp hl).1
      rw [hm] at hnone
      exact absurd hnone (by simp)
    obtain ⟨slot, hslot⟩ := (h.seated.places.iff i).mpr hused
    exact ⟨slot, hslot, h.zoned.member hm hslot⟩
  ai := fun {i ai} hai => by
    have hused : i ∈ room.used := mem_used.mpr fun hl => by
      have hnone : room.aisById i = none := (load_eq_zero.mp hl).2.1
      rw [hai] at hnone
      exact absurd hnone (by simp)
    obtain ⟨slot, hslot⟩ := (h.seated.places.iff i).mpr hused
    exact ⟨slot, hslot, h.zoned.ai hai hslot⟩
  joins := fun hm ho ha hs hhalf hfree => addParticipant_joins hm ho ha hs hhalf hfree
  levels := fun hm ho ha hs hhalf hfree hne =>
    (addParticipant_joins hm ho ha hs hhalf hfree).levels hs hne

end ProtocolRoomState

variable {H Q P : Type} {env : WorldEnv H Q P}

/-- **Teams of every reachable room.** -/
theorem reachable_teamed {a : WorldActor H} (h : (WorldActor.machine env).Reachable a)
    {id : RoomId} {room : ProtocolRoomState} (hr : a.world.room? id = some room) :
    room.Teamed := ((WorldActor.ok_of_reachable h).tables.rooms hr).2.teamed

theorem roomRun_teamed : ∃ room, roomRun.2.world.room? ⟨1⟩ = some room ∧ room.Teamed ∧
    room.membersById.entries.map (·.player.team) = [2, 1] := by
  have hsome : (roomRun.2.world.room? ⟨1⟩).isSome = true := by decide +kernel
  have hteams : (roomRun.2.world.room? ⟨1⟩).map
      (fun room => room.membersById.entries.map (·.player.team)) = some [2, 1] := by
    decide +kernel
  obtain ⟨room, hr⟩ := Option.isSome_iff_exists.mp hsome
  rw [hr] at hteams
  exact ⟨room, hr, reachable_teamed roomRun_reachable hr, Option.some_inj.mp hteams⟩

end P4475
