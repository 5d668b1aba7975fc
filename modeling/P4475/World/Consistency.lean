import P4475.World.Moves

/-!
# The invariant of the tables

`TablesOk`: every room is filed under its id and satisfies `RoomOk`, the membership
index is exactly who sits where, and the reward lanes are exactly who races where.
Every table edit changes the entries of one room; `TablesOk.replace` says what such a
change owes the rest.
-/

namespace P4475

open Lib ProtocolRoomState

/-- The user races in the room's race, which has this fence. -/
def ProtocolRoomState.Lane (room : ProtocolRoomState) (userNo : UserNo) (fence : RaceFence) :
    Prop :=
  ∃ roster, room.frozenRace = some roster ∧ roster.fence = fence ∧ roster.Races userNo

structure TablesOk (t : ProtocolTables) : Prop where
  rooms : ∀ {id room}, t.protocolRooms.lookup id = some room → room.id = id ∧ room.RoomOk
  index : ∀ {userNo id}, t.protocolRoomByUser.lookup userNo = some id ↔
    ∃ room, t.protocolRooms.lookup id = some room ∧ userNo ∈ room.userNos
  lanes : ∀ {userNo fence}, t.rewardLanes.lookup userNo = some fence ↔
    ∃ room, t.protocolRooms.lookup fence.roomId = some room ∧ room.Lane userNo fence

variable {t t' : ProtocolTables} {id : RoomId} {room room' next : ProtocolRoomState}
  {userNo : UserNo} {participant : RoomParticipant} {fence : RaceFence}

theorem ProtocolTables.initial_ok : TablesOk ProtocolTables.initial where
  rooms := fun h => absurd h (by simp [ProtocolTables.initial])
  index := by simp [ProtocolTables.initial]
  lanes := by simp [ProtocolTables.initial]

/-- Replacing the room of one id. -/
theorem TablesOk.replace (h : TablesOk t) (id : RoomId) (value : Option ProtocolRoomState)
    (hrooms : ∀ k, t'.protocolRooms.lookup k =
      if k = id then value else t.protocolRooms.lookup k)
    (hvalue : ∀ {room}, value = some room → room.id = id ∧ room.RoomOk)
    (hindex : ∀ u k, t'.protocolRoomByUser.lookup u = some k ↔
      if k = id then ∃ room, value = some room ∧ u ∈ room.userNos
      else t.protocolRoomByUser.lookup u = some k)
    (hlanes : ∀ u f, t'.rewardLanes.lookup u = some f ↔
      if f.roomId = id then ∃ room, value = some room ∧ room.Lane u f
      else t.rewardLanes.lookup u = some f) : TablesOk t' where
  rooms := fun {k room} hr => by
    rw [hrooms] at hr
    split at hr
    next he => rw [he]; exact hvalue hr
    next => exact h.rooms hr
  index := fun {u k} => by
    rw [hindex, hrooms]
    split
    next => exact Iff.rfl
    next => exact h.index
  lanes := fun {u f} => by
    rw [hlanes, hrooms]
    split
    next => exact Iff.rfl
    next => exact h.lanes

/-! ## Lanes -/

theorem TablesOk.lane_room (h : TablesOk t) (hp : t.protocolRooms.lookup id = some room)
    (hl : room.Lane userNo fence) : fence.roomId = id := by
  obtain ⟨roster, hf, rfl, -⟩ := hl
  obtain ⟨hid, hok⟩ := h.rooms hp
  have hphase : room.phase ≠ .lobby := fun hl => by
    rw [(hok.race.idle hl).2] at hf
    exact absurd hf (by simp)
  obtain ⟨roster', hf', -, hr⟩ := hok.race.racing hphase
  rw [hf] at hf'
  cases hf'
  exact hr.trans hid

/-- A room has lanes of its own fence only. -/
theorem ProtocolRoomState.RoomOk.lane_fence (h : room.RoomOk) (hl : room.Lane userNo fence) :
    room.raceFence = some fence := by
  obtain ⟨roster, hf, rfl, -⟩ := hl
  have hphase : room.phase ≠ .lobby := fun hl => by
    rw [(h.race.idle hl).2] at hf
    exact absurd hf (by simp)
  obtain ⟨roster', hf', hr, -⟩ := h.race.racing hphase
  rw [hf] at hf'
  cases hf'
  exact hr

theorem ProtocolRoomState.RoomOk.no_lane (h : room.RoomOk) (hl : room.phase = .lobby) :
    ¬ room.Lane userNo fence := fun ⟨_, hf, _⟩ => by
  rw [(h.race.idle hl).2] at hf
  exact absurd hf (by simp)

theorem lane_congr (h : room'.frozenRace.map FrozenRaceRoster.skeleton =
    room.frozenRace.map FrozenRaceRoster.skeleton) :
    room'.Lane userNo fence ↔ room.Lane userNo fence := by
  have key : ∀ {a b : ProtocolRoomState},
      b.frozenRace.map FrozenRaceRoster.skeleton = a.frozenRace.map FrozenRaceRoster.skeleton →
      b.Lane userNo fence → a.Lane userNo fence := by
    rintro a b hab ⟨roster, hf, rfl, hr⟩
    rw [hf, Option.map_some, eq_comm, Option.map_eq_some_iff] at hab
    obtain ⟨roster', hf', he⟩ := hab
    refine ⟨roster', hf', ?_, ?_⟩
    · rw [← roster'.fence_skeleton, he, roster.fence_skeleton]
    · unfold FrozenRaceRoster.Races at hr ⊢
      rwa [← roster'.entrants_skeleton, he, roster.entrants_skeleton]
  exact ⟨key h, key h.symm⟩

theorem ProtocolRoomState.RoomMove.lane (e : room.RoomMove room') :
    room'.Lane userNo fence ↔ room.Lane userNo fence := by
  cases e with
  | touch _ race => exact lane_congr race.frozen
  | reseat _ hr => exact lane_congr (by rw [hr.sameRun.frozen])
  | run => exact Iff.rfl
  | settle => exact Iff.rfl

theorem ProtocolRoomState.RoomMoves.lane (e : room.RoomMoves room') :
    room'.Lane userNo fence ↔ room.Lane userNo fence := by
  induction e with
  | refl => exact Iff.rfl
  | tail _ e ih => exact e.lane.trans ih

@[simp] theorem releaseRewardLanes_lookup (t : ProtocolTables) (fence f : RaceFence)
    (u : UserNo) : (t.releaseRewardLanes fence).rewardLanes.lookup u = some f ↔
      t.rewardLanes.lookup u = some f ∧ f ≠ fence := by
  unfold ProtocolTables.releaseRewardLanes
  rw [Map.lookup_retain, Option.filter_eq_some_iff, decide_eq_true_iff]

theorem releaseFence_lookup (t : ProtocolTables) (fence : Option RaceFence) (f : RaceFence)
    (u : UserNo) : (t.releaseFence fence).rewardLanes.lookup u = some f ↔
      t.rewardLanes.lookup u = some f ∧ some f ≠ fence := by
  unfold ProtocolTables.releaseFence
  split
  next fence =>
    rw [releaseRewardLanes_lookup]
    simp
  next => simp

@[simp] theorem releaseFence_rooms (t : ProtocolTables) (fence : Option RaceFence) :
    (t.releaseFence fence).protocolRooms = t.protocolRooms := by
  unfold ProtocolTables.releaseFence
  split <;> rfl

@[simp] theorem releaseFence_index (t : ProtocolTables) (fence : Option RaceFence) :
    (t.releaseFence fence).protocolRoomByUser = t.protocolRoomByUser := by
  unfold ProtocolTables.releaseFence
  split <;> rfl

/-- Once a room's fence is released, no lane of that room is left. -/
theorem TablesOk.released (h : TablesOk t) (hp : t.protocolRooms.lookup id = some room)
    (u : UserNo) (f : RaceFence) :
    (t.releaseFence room.raceFence).rewardLanes.lookup u = some f ↔
      if f.roomId = id then False else t.rewardLanes.lookup u = some f := by
  rw [releaseFence_lookup]
  split
  next hf =>
    refine iff_of_false (fun ⟨hu, hne⟩ => hne ?_) not_false
    obtain ⟨room', hp', hl⟩ := h.lanes.mp hu
    rw [hf, hp] at hp'
    cases hp'
    exact ((h.rooms hp).2.lane_fence hl).symm
  next hf =>
    refine ⟨fun hu => hu.1, fun hu => ⟨hu, fun he => hf ?_⟩⟩
    obtain ⟨hid, hok⟩ := h.rooms hp
    have hphase : room.phase ≠ .lobby := fun hl => by
      rw [(hok.race.idle hl).1] at he
      exact absurd he (by simp)
    obtain ⟨roster, -, hfence, hr⟩ := hok.race.racing hphase
    rw [hfence] at he
    cases he
    exact hr.trans hid

/-! ## The index -/

/-- Dropping a member of one room from the index. -/
theorem TablesOk.index_erase (h : TablesOk t) (hp : t.protocolRooms.lookup id = some room)
    (hu : userNo ∈ room.userNos) (hs : room.userNos.Perm (userNo :: room'.userNos)) (u : UserNo)
    (k : RoomId) : (t.protocolRoomByUser.erase userNo).lookup u = some k ↔
      if k = id then u ∈ room'.userNos else t.protocolRoomByUser.lookup u = some k := by
  have hown : t.protocolRoomByUser.lookup userNo = some id := h.index.mpr ⟨room, hp, hu⟩
  have hnodup : (userNo :: room'.userNos).Nodup :=
    hs.nodup_iff.mp (h.rooms hp).2.seated.users
  rw [Map.lookup_erase_ite]
  split
  next he =>
    subst he
    split
    next hk =>
      exact iff_of_false (by simp) (List.nodup_cons.mp hnodup).1
    next hk =>
      rw [hown, Option.some.injEq]
      exact iff_of_false (by simp) fun he => hk he.symm
  next hne =>
    split
    next hk =>
      subst hk
      rw [h.index]
      constructor
      · rintro ⟨room₁, hp₁, hm⟩
        rw [hp] at hp₁
        cases hp₁
        exact (List.mem_cons.mp (hs.mem_iff.mp hm)).resolve_left hne
      · exact fun hm => ⟨room, hp, hs.mem_iff.mpr (List.mem_cons_of_mem _ hm)⟩
    next => exact Iff.rfl

/-! ## The edits -/

theorem TablesOk.put (h : TablesOk t) (hp : t.protocolRooms.lookup id = some room)
    (hid : room'.id = room.id) (hok : room'.RoomOk)
    (hu : ∀ u, u ∈ room'.userNos ↔ u ∈ room.userNos)
    (hl : ∀ u f, room'.Lane u f ↔ room.Lane u f) : TablesOk (t.putRoom id room') := by
  refine h.replace id (some room') (fun k => Map.lookup_insert_ite _ _ _ _) ?_ ?_ ?_
  · rintro _ ⟨⟩
    exact ⟨hid.trans (h.rooms hp).1, hok⟩
  · intro u k
    show t.protocolRoomByUser.lookup u = some k ↔ _
    split
    next hk =>
      subst hk
      rw [h.index]
      simp [hp, hu]
    next => exact Iff.rfl
  · intro u f
    show t.rewardLanes.lookup u = some f ↔ _
    split
    next hf =>
      rw [h.lanes, hf]
      simp [hp, hl]
    next => exact Iff.rfl

/-- A departure, once the room that it leaves is known. -/
theorem TablesOk.unseat (h : TablesOk t) (hp : t.protocolRooms.lookup id = some room)
    (hr : room.removeUser userNo = some room') :
    TablesOk (if room'.removable then
      ((t.dropMembership userNo).releaseFence room'.abortedLoadingFence).removeRoom id
    else (t.dropMembership userNo).putRoom id room') := by
  obtain ⟨hid, hok⟩ := h.rooms hp
  have hu := mem_of_removeUser hr
  have hindex := h.index_erase hp hu (hok.seated.removeUser_userNos hr)
  have hrun := removeUser_sameRun hr
  have hlane : ∀ u f, room'.Lane u f ↔ room.Lane u f := fun _ _ =>
    lane_congr (by rw [hrun.frozen])
  split
  next hrem =>
    have hempty : room'.isEmpty = true ∧ (room'.phase = .lobby ∨ room'.phase = .loading) := by
      unfold removable at hrem
      rwa [Bool.and_eq_true, decide_eq_true_iff] at hrem
    have hfence : room'.abortedLoadingFence = room.raceFence := by
      unfold abortedLoadingFence
      rcases hempty.2 with hl | hl
      · rw [if_neg (by rw [hl]; exact RoomPhase.noConfusion), ← hrun.fence]
        rw [hrun.fence, (hok.race.idle (hrun.phase ▸ hl)).1]
      · rw [if_pos hl, hrun.fence]
    refine h.replace id none (fun k => ?_) (fun he => absurd he (by simp))
      (fun u k => ?_) (fun u f => ?_)
    · show ((((t.dropMembership userNo).releaseFence _).protocolRooms).erase id).lookup k = _
      rw [Map.lookup_erase_ite, releaseFence_rooms]
      rfl
    · show ((t.dropMembership userNo).releaseFence _).protocolRoomByUser.lookup u = some k ↔ _
      rw [releaseFence_index]
      show (t.protocolRoomByUser.erase userNo).lookup u = some k ↔ _
      rw [hindex u k, userNos_eq_nil.mpr hempty.1]
      simp
    · show ((t.dropMembership userNo).releaseFence _).rewardLanes.lookup u = some f ↔ _
      rw [hfence, releaseFence_lookup]
      show t.rewardLanes.lookup u = some f ∧ _ ↔ _
      rw [← releaseFence_lookup, h.released hp]
      simp
  next hrem =>
    refine h.replace id (some room') (fun k => Map.lookup_insert_ite _ _ _ _) ?_ ?_ ?_
    · rintro _ ⟨⟩
      exact ⟨hrun.id.trans hid, hok.removeUser hr (by simpa using hrem)⟩
    · intro u k
      show (t.protocolRoomByUser.erase userNo).lookup u = some k ↔ _
      rw [hindex u k]
      simp
    · intro u f
      show t.rewardLanes.lookup u = some f ↔ _
      split
      next hf =>
        rw [h.lanes, hf]
        simp [hp, hlane]
      next => exact Iff.rfl

theorem TablesOk.removeUser (h : TablesOk t) (userNo : UserNo) :
    TablesOk (t.removeUser userNo).1 := by
  unfold ProtocolTables.removeUser
  split
  next => exact h
  next id hi =>
    obtain ⟨room, hp, hu⟩ := h.index.mp hi
    obtain ⟨room', hr⟩ := removeUser_isSome hu
    have hp' : (t.dropMembership userNo).protocolRooms.lookup id = some room := hp
    simp only [hp', hr, Option.getD_some]
    have hunseat := h.unseat hp hr
    split
    next hrem => rwa [if_pos hrem] at hunseat
    next hrem => rwa [if_neg hrem] at hunseat

/-- In the lobby every empty room goes. -/
theorem removable_of_lobby (hl : room.phase = .lobby) : room.removable = room.isEmpty := by
  unfold removable
  rw [decide_eq_true (Or.inl hl), Bool.and_true]

theorem TablesOk.kick (h : TablesOk t) (hp : t.protocolRooms.lookup id = some room)
    (hl : room.phase = .lobby) (hu : userNo ∈ room.userNos) :
    TablesOk (World.kickTables t id userNo ((room.removeUser userNo).getD room)) := by
  obtain ⟨room', hr⟩ := removeUser_isSome hu
  have hunseat := h.unseat hp hr
  have hl' : room'.phase = .lobby := (removeUser_sameRun hr).phase.trans hl
  have hfence : room'.abortedLoadingFence = none := by
    unfold abortedLoadingFence
    rw [hl', if_neg RoomPhase.noConfusion]
  rw [removable_of_lobby hl', hfence] at hunseat
  rw [hr, Option.getD_some]
  exact hunseat

/-- A user enters the room of an id, which keeps its race. -/
theorem TablesOk.enter (h : TablesOk t) (before : List UserNo)
    (hbefore : ∀ u, t.protocolRoomByUser.lookup u = some id ↔ u ∈ before)
    (hnew : t.protocolRoomByUser.lookup userNo = none) (hid : room'.id = id)
    (hok : room'.RoomOk) (hl : room'.phase = .lobby)
    (hlanes : ∀ u f, f.roomId = id → t.rewardLanes.lookup u ≠ some f)
    (hu : room'.userNos.Perm (userNo :: before)) (free : Finset Nat) :
    TablesOk { t with
      protocolRooms := t.protocolRooms.insert id room'
      protocolRoomByUser := t.protocolRoomByUser.insert userNo id
      freeProtocolRoomIds := free } := by
  refine h.replace id (some room') (fun k => Map.lookup_insert_ite _ _ _ _) ?_ ?_ ?_
  · rintro _ ⟨⟩
    exact ⟨hid, hok⟩
  · intro u k
    show (t.protocolRoomByUser.insert userNo id).lookup u = some k ↔ _
    rw [Map.lookup_insert_ite]
    by_cases hk : k = id
    · subst hk
      rw [if_pos rfl]
      simp only [Option.some.injEq, exists_eq_left', hu.mem_iff, List.mem_cons, ← hbefore]
      split
      next he => exact iff_of_true rfl (Or.inl he)
      next hne => simp [hne]
    · rw [if_neg hk]
      split
      next he =>
        rw [he, hnew, Option.some.injEq]
        exact iff_of_false (fun he => hk he.symm) (by simp)
      next => exact Iff.rfl
  · intro u f
    show t.rewardLanes.lookup u = some f ↔ _
    split
    next hf =>
      refine iff_of_false (hlanes u f hf) ?_
      rintro ⟨_, ⟨⟩, hlane⟩
      exact hok.no_lane hl hlane
    next => exact Iff.rfl

theorem TablesOk.no_lane (h : TablesOk t) (hp : ∀ room, t.protocolRooms.lookup id = some room →
    room.phase = .lobby) (u : UserNo) (f : RaceFence) (hf : f.roomId = id) :
    t.rewardLanes.lookup u ≠ some f := fun hlane => by
  obtain ⟨room, hroom, hl⟩ := h.lanes.mp hlane
  rw [hf] at hroom
  exact (h.rooms hroom).2.no_lane (hp room hroom) hl

theorem TablesOk.not_member (h : TablesOk t) (hp : t.protocolRooms.lookup id = some room)
    (hnew : t.protocolRoomByUser.lookup userNo = none) : userNo ∉ room.userNos := fun hu => by
  rw [h.index.mpr ⟨room, hp, hu⟩] at hnew
  exact absurd hnew (by simp)

theorem TablesOk.seat (h : TablesOk t) (hp : t.protocolRooms.lookup id = some room)
    (hl : room.phase = .lobby) (hnew : t.protocolRoomByUser.lookup userNo = none)
    (ha : room.addParticipant userNo participant = some room') :
    TablesOk { t with
      protocolRooms := t.protocolRooms.insert id room'
      protocolRoomByUser := t.protocolRoomByUser.insert userNo id } := by
  obtain ⟨hid, hok⟩ := h.rooms hp
  have hrun := addParticipant_sameRun ha
  refine h.enter room.userNos (fun u => ?_) hnew (hrun.id.trans hid)
    (hok.addParticipant hl (h.not_member hp hnew) ha) (hrun.phase.trans hl)
    (h.no_lane fun room₁ hp₁ => ?_) (userNos_addParticipant ha) t.freeProtocolRoomIds
  · rw [h.index]
    simp [hp]
  · rw [hp] at hp₁
    cases hp₁
    exact hl

theorem TablesOk.opens (h : TablesOk t) (ho : Opens participant t t') : TablesOk t' := by
  obtain @⟨id, settings, userNo, prepared, room, free, absent, new, -, -, added⟩ := ho
  have hrun := addParticipant_sameRun added
  have hid : room.id = id := hrun.id
  refine h.enter [] (fun u => ?_) new hid (.opened added) hrun.phase
    (h.no_lane fun room₁ hp₁ => ?_) ?_ free
  · rw [h.index]
    simp [absent]
  · rw [absent] at hp₁
    exact absurd hp₁ (by simp)
  · refine (userNos_addParticipant added).trans ?_
    rw [userNos_eq_nil.mpr (isEmpty_iff.mpr ⟨fun _ => rfl, fun _ => rfl⟩)]

/-! ## Starting and ending a race -/

theorem lookup_foldl_insert (l : List FrozenRaceParticipant) (fence : RaceFence)
    (lanes : Map UserNo RaceFence) (u : UserNo) :
    (l.foldl (fun lanes p => lanes.insert p.identity.userNo fence) lanes).lookup u =
      if ∃ p ∈ l, p.identity.userNo = u then some fence else lanes.lookup u := by
  induction l generalizing lanes with
  | nil => simp
  | cons p l ih =>
    rw [List.foldl_cons, ih, Map.lookup_insert_ite]
    by_cases hl : ∃ q ∈ l, q.identity.userNo = u
    · obtain ⟨q, hq, he⟩ := hl
      rw [if_pos ⟨q, hq, he⟩, if_pos ⟨q, List.mem_cons_of_mem _ hq, he⟩]
    · rw [if_neg hl]
      by_cases hp : u = p.identity.userNo
      · rw [if_pos hp, if_pos ⟨p, List.mem_cons_self, hp.symm⟩]
      · rw [if_neg hp, if_neg]
        rintro ⟨q, hq, he⟩
        rcases List.mem_cons.mp hq with rfl | hq
        · exact hp he.symm
        · exact hl ⟨q, hq, he⟩

theorem TablesOk.start (h : TablesOk t) (hp : t.protocolRooms.lookup id = some room)
    (hl : room.phase = .lobby)
    (hfree : ∀ i m, room.membersById i = some m → t.rewardLanes.lookup m.userNo = none)
    (hs : room.SameSeats next) {active : UserNo → Option IdentityBinding}
    {roster : FrozenRaceRoster} {epoch : GlobalRaceEpoch}
    (hf : Freezes active room ⟨id, epoch⟩ roster)
    (ha : ∀ {u b}, active u = some b → b.userNo = u) (following : Option GlobalRaceEpoch) :
    TablesOk (World.startTables t id (World.loadingRoom next ⟨id, epoch⟩ roster) roster
      following) := by
  obtain ⟨hid, hok⟩ := h.rooms hp
  have hraces : ∀ u, roster.Races u ↔ ∃ i m, room.membersById i = some m ∧ m.userNo = u := by
    intro u
    constructor
    · rintro ⟨playerId, he⟩
      obtain ⟨i, m, hm, -, hu⟩ := (freezes_entrants hf ha).mp he
      exact ⟨i, m, hm, hu⟩
    · rintro ⟨i, m, hm, hu⟩
      exact ⟨memberPlayerId i, (freezes_entrants hf ha).mpr ⟨i, m, hm, rfl, hu⟩⟩
  have husers := hs.toSamePlaces.userNos
  refine h.replace id (some (World.loadingRoom next ⟨id, epoch⟩ roster))
    (fun k => Map.lookup_insert_ite _ _ _ _) ?_ ?_ ?_
  · rintro _ ⟨⟩
    exact ⟨hs.id.trans hid, hok.start hl hs hf hid.symm ha⟩
  · intro u k
    show t.protocolRoomByUser.lookup u = some k ↔ _
    split
    next hk =>
      subst hk
      rw [h.index]
      have hsame : (World.loadingRoom next ⟨k, epoch⟩ roster).userNos = next.userNos := rfl
      simp [hp, hsame, husers]
    next => exact Iff.rfl
  · intro u f
    show (roster.humans.foldl (fun lanes p => lanes.insert p.identity.userNo roster.fence)
      t.rewardLanes).lookup u = some f ↔ _
    have hlane : (∃ r, some (World.loadingRoom next ⟨id, epoch⟩ roster) = some r ∧ r.Lane u f) ↔
        roster.fence = f ∧ roster.Races u := by
      simp [Lane, World.loadingRoom]
    have hnone : roster.Races u → t.rewardLanes.lookup u = none := fun hr => by
      obtain ⟨i, m, hm, rfl⟩ := (hraces u).mp hr
      exact hfree i m hm
    rw [lookup_foldl_insert, hlane]
    by_cases hr : roster.Races u
    · rw [if_pos (FrozenRaceRoster.races_iff.mp hr), Option.some.injEq, hnone hr, hf.fence]
      split
      next => simp [hr]
      next hne => exact iff_of_false (fun he => hne (by rw [← he])) (by simp)
    · rw [if_neg fun he => hr (FrozenRaceRoster.races_iff.mpr he)]
      split
      next he =>
        exact iff_of_false (h.no_lane (fun room₁ hp₁ => by rw [hp] at hp₁; cases hp₁; exact hl)
          u f he) fun hc => hr hc.2
      next => exact Iff.rfl

theorem TablesOk.abort (h : TablesOk t) (hp : t.protocolRooms.lookup id = some room)
    (hl : room.phase = .loading) :
    TablesOk ((t.releaseFence room.raceFence).putRoom id room.abortLoading) := by
  obtain ⟨hid, hok⟩ := h.rooms hp
  refine h.replace id (some room.abortLoading) (fun k => ?_) ?_ ?_ ?_
  · show ((t.releaseFence room.raceFence).protocolRooms.insert id _).lookup k = _
    rw [Map.lookup_insert_ite, releaseFence_rooms]
  · rintro _ ⟨⟩
    exact ⟨hid, hok.abort hl⟩
  · intro u k
    show (t.releaseFence room.raceFence).protocolRoomByUser.lookup u = some k ↔ _
    rw [releaseFence_index]
    split
    next hk =>
      subst hk
      have husers : room.abortLoading.userNos = room.userNos := (clearRace_samePlaces room).userNos
      rw [h.index]
      simp [hp, husers]
    next => exact Iff.rfl
  · intro u f
    show (t.releaseFence room.raceFence).rewardLanes.lookup u = some f ↔ _
    rw [h.released hp]
    split
    next =>
      refine iff_of_false not_false fun ⟨_, he, hlane⟩ => ?_
      cases he
      exact (hok.abort hl).no_lane rfl hlane
    next => exact Iff.rfl

theorem plannedRanking?_ready {ranking : SettlementRanking}
    {rewards : List RewardPersistenceEntry} {packets : List Packet}
    (hr : room.finalization? = some (.ready ranking rewards packets)) :
    room.plannedRanking? = some ranking := by
  unfold plannedRanking?
  rw [hr]
  rfl

theorem TablesOk.finalize (h : TablesOk t) (hp : t.protocolRooms.lookup id = some room)
    {ranking : SettlementRanking} {rewards : List RewardPersistenceEntry}
    {packets : List Packet} (hr : room.finalization? = some (.ready ranking rewards packets)) :
    TablesOk (World.finalizeTables t id room ranking) := by
  obtain ⟨hid, hok⟩ := h.rooms hp
  have hk := plannedRanking?_ready hr
  unfold World.finalizeTables
  dsimp only
  split
  next hempty =>
    refine h.replace id none (fun k => ?_) (fun he => absurd he (by simp))
      (fun u k => ?_) (fun u f => ?_)
    · show ((t.releaseFence room.raceFence).protocolRooms.erase id).lookup k = _
      rw [Map.lookup_erase_ite, releaseFence_rooms]
    · show (t.releaseFence room.raceFence).protocolRoomByUser.lookup u = some k ↔ _
      rw [releaseFence_index]
      split
      next hk =>
        subst hk
        rw [h.index]
        simp [hp, userNos_eq_nil.mpr hempty]
      next => exact Iff.rfl
    · show (t.releaseFence room.raceFence).rewardLanes.lookup u = some f ↔ _
      rw [h.released hp]
      simp
  next hne =>
    have hok' := hok.finalize hk (by simpa using hne)
    refine h.replace id (some (room.finalizeSettlement ranking)) (fun k => ?_)
      ?_ ?_ ?_
    · show ((t.releaseFence room.raceFence).protocolRooms.insert id _).lookup k = _
      rw [Map.lookup_insert_ite, releaseFence_rooms]
    · rintro _ ⟨⟩
      exact ⟨(finalizeSettlement_samePlaces room ranking).id.trans hid, hok'⟩
    · intro u k
      show (t.releaseFence room.raceFence).protocolRoomByUser.lookup u = some k ↔ _
      rw [releaseFence_index]
      split
      next hk =>
        subst hk
        rw [h.index]
        simp [hp, (finalizeSettlement_samePlaces room ranking).userNos]
      next => exact Iff.rfl
    · intro u f
      show (t.releaseFence room.raceFence).rewardLanes.lookup u = some f ↔ _
      rw [h.released hp]
      split
      next =>
        refine iff_of_false not_false fun ⟨_, he, hlane⟩ => ?_
        cases he
        exact hok'.no_lane rfl hlane
      next => exact Iff.rfl

/-- **Every edit keeps the tables consistent.** -/
theorem TablesOk.edit {active : UserNo → Option IdentityBinding}
    {issued : Option RewardAttemptId} (h : TablesOk t)
    (ha : ∀ {u b}, active u = some b → b.userNo = u) (e : TableEdit active issued t t') :
    TablesOk t' := by
  cases e with
  | ids free => exact ⟨h.rooms, h.index, h.lanes⟩
  | room present edit =>
    exact h.put present edit.moves.id ((h.rooms present).2.moves edit.moves)
      (fun u => by rw [edit.moves.userNos]) fun u f => edit.moves.lane
  | seat present lobby new added => exact h.seat present lobby new added
  | unseat userNo => exact h.removeUser userNo
  | kick present lobby member => exact h.kick present lobby member
  | start present lobby _ free _ same frozen =>
    exact h.start present lobby free same frozen ha _
  | abort present loading => exact h.abort present loading
  | finalize present ready => exact h.finalize present ready

end P4475
