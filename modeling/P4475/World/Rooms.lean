import P4475.World.Roster

/-!
# The invariant of a room

`RoomOk` is what holds of every protocol room: seats, zones, grid, master and race.
Every edit of a room keeps it, and so do a newcomer, a departure that leaves the room
in the table, the start of a race and its two ends.
-/

namespace P4475

open Lib

namespace ProtocolRoomState

variable {room room' next : ProtocolRoomState} {i : Fin 8} {userNo : UserNo}
  {participant : RoomParticipant} {ranking : SettlementRanking}

structure RoomOk (room : ProtocolRoomState) : Prop where
  seated : room.Seated
  zoned : room.Zoned
  ranked : room.Ranked
  master : room.MasterOk
  race : room.RaceOk

/-! ## Edits in place -/

theorem Reseat.sameRun (h : room.Reseat room') : room.SameRun room' := by
  cases h <;> exact ⟨rfl, rfl, rfl, rfl, rfl, rfl⟩

/-- Only the users count for whether a room is empty. -/
theorem isEmpty_congr (h : room'.userNos = room.userNos) : room'.isEmpty = room.isEmpty := by
  rw [Bool.eq_iff_iff, ← userNos_eq_nil, ← userNos_eq_nil, h]

/-- A room in the lobby goes on with the fields of its race, if it is not empty. -/
theorem RaceOk.lobby (h : room.RaceOk) (hl : room.phase = .lobby) (hr : room.SameRun room')
    (hne : room'.isEmpty = false) : room'.RaceOk where
  idle := fun _ => by rw [hr.fence, hr.frozen]; exact h.idle hl
  racing := fun hp => absurd (hr.phase.trans hl) hp
  settling := by rw [hr.progress, hr.phase]; exact h.settling
  distinct := fun hf => h.distinct (hr.frozen ▸ hf)
  present := fun hf => by
    rw [hr.frozen, (h.idle hl).2] at hf
    exact absurd hf (by simp)
  planned := fun hk => by rw [hr.settlementRanking]; exact h.planned (hr.plannedRanking? ▸ hk)
  times := fun ht => h.times (hr.progress ▸ ht)
  populated := fun _ => hne

theorem RaceOk.edit (h : room.RaceOk) (e : room.RoomMove room') : room'.RaceOk := by
  cases e with
  | touch seats race => exact h.touch seats race
  | reseat lobby hr =>
    refine h.lobby lobby hr.sameRun ?_
    rw [isEmpty_congr hr.userNos]
    exact h.populated (Or.inl lobby)
  | run loading => exact h.startRunning loading
  | settle running => exact h.beginSettlement running

theorem RoomOk.edit (h : room.RoomOk) (e : room.RoomMove room') : room'.RoomOk where
  seated := h.seated.edit e
  zoned := h.zoned.edit h.seated e
  ranked := e.sameRankings.ranked h.ranked
  master := h.master.edit e
  race := h.race.edit e

/-! ## Coming and going -/

theorem addParticipant_sameRun (h : room.addParticipant userNo participant = some room') :
    room.SameRun room' := by
  unfold addParticipant at h
  split at h
  next =>
    obtain ⟨i, -, rfl⟩ := addObserver_cases h
    exact ⟨rfl, rfl, rfl, rfl, rfl, rfl⟩
  next =>
    obtain ⟨i, slot, team, -, -, rfl⟩ := addRacer_cases h
    unfold claimMaster
    split <;> exact ⟨rfl, rfl, rfl, rfl, rfl, rfl⟩

theorem addParticipant_populated (h : room.addParticipant userNo participant = some room') :
    room'.isEmpty = false :=
  not_isEmpty_of_mem ((userNos_addParticipant h).mem_iff.mpr List.mem_cons_self)

/-- A newcomer in the lobby. -/
theorem RoomOk.addParticipant (h : room.RoomOk) (hl : room.phase = .lobby)
    (hu : userNo ∉ room.userNos) (ha : room.addParticipant userNo participant = some room') :
    room'.RoomOk where
  seated := h.seated.addParticipant hu ha
  zoned := h.zoned.addParticipant h.seated ha
  ranked := h.ranked.addParticipant ha
  master := .addParticipant (h.master.live (h.race.populated (Or.inl hl))) ha
  race := h.race.lobby hl (addParticipant_sameRun ha) (addParticipant_populated ha)

theorem new_seated (id : RoomId) (settings : RoomSettings) : (new id settings).Seated where
  single := fun _ => Nat.zero_le 1
  places := ⟨fun h => absurd h (by simp [new, Slots.empty]), fun i => by
    refine iff_of_false (fun ⟨s, hs⟩ => ?_) fun hu => hu rfl
    exact absurd hs (by simp [new, Slots.empty])⟩
  closed := fun h => absurd h (by simp [new, Slots.empty])
  users := by
    have hnil : (new id settings).userNos = [] :=
      userNos_eq_nil.mpr (isEmpty_iff.mpr ⟨fun _ => rfl, fun _ => rfl⟩)
    rw [hnil]
    exact List.nodup_nil

/-- The first participant of a new room. -/
theorem RoomOk.opened {id : RoomId} {settings : RoomSettings}
    (ha : (new id settings).addParticipant userNo participant = some room') : room'.RoomOk where
  seated := (new_seated id settings).addParticipant (by
    rw [userNos_eq_nil.mpr (isEmpty_iff.mpr ⟨fun _ => rfl, fun _ => rfl⟩)]
    exact List.not_mem_nil) ha
  zoned := by
    refine Zoned.addParticipant ⟨fun h => ?_, fun h => ?_⟩ (new_seated id settings) ha
    · exact absurd h (by simp [new, Slots.empty])
    · exact absurd h (by simp [new, Slots.empty])
  ranked := by
    refine Ranked.addParticipant ?_ ha
    have hnil : (new id settings).rankings = [] := by
      have hocc : (new id settings).membersById.occupied = [] := Slots.isEmpty_iff.mp fun _ => rfl
      rw [rankings_eq, hocc]
      rfl
    unfold Ranked
    rw [hnil]
    exact .nil
  master := .addParticipant (Or.inr ⟨fun _ => rfl, rfl⟩) ha
  race := by
    have hr := addParticipant_sameRun ha
    exact .of_lobby hr.phase hr.fence hr.frozen hr.progress (addParticipant_populated ha)

/-- A departure that leaves the room in the table. -/
theorem RoomOk.removeUser (h : room.RoomOk) (hr : room.removeUser userNo = some room')
    (hp : room'.removable = false) : room'.RoomOk where
  seated := h.seated.removeUser hr
  zoned := h.zoned.removeUser h.seated hr
  ranked := h.ranked.removeUser hr
  master := h.master.removeUser hr
  race := h.race.removeUser h.seated hr hp

/-! ## The start of a race -/

section Freezing

variable {active : UserNo → Option IdentityBinding} {fence : RaceFence}
  {roster : FrozenRaceRoster}

theorem mem_numbered {α : Type} {s : RoomSlots α} {v : α} :
    (i, v) ∈ World.numbered s ↔ s i = some v := by
  unfold World.numbered
  simp only [List.mem_filterMap, List.mem_finRange, true_and, Option.map_eq_some_iff,
    Prod.mk.injEq]
  constructor
  · rintro ⟨j, v', hj, rfl, rfl⟩
    exact hj
  · exact fun h => ⟨i, v, h, rfl, rfl⟩

theorem numbered_fst {α : Type} (s : RoomSlots α) :
    (World.numbered s).map Prod.fst = s.occupied := by
  unfold World.numbered Slots.occupied
  rw [List.map_filterMap, ← List.filterMap_eq_filter]
  refine List.filterMap_congr fun i _ => ?_
  cases h : s i with
  | none => simp [Option.guard, h]
  | some v => simp [Option.guard, h]

theorem map_eq_of_forall₂ {α β γ : Type} {R : α → β → Prop} {l : List α} {l' : List β}
    (h : List.Forall₂ R l l') {f : α → γ} {g : β → γ} (hfg : ∀ {a b}, R a b → f a = g b) :
    l.map f = l'.map g := by
  have hmap : List.Forall₂ Eq (l.map f) (l'.map g) := List.rel_map (fun _ _ hr => hfg hr) h
  rwa [List.forall₂_eq_eq_eq] at hmap

theorem exists_of_forall₂_left {α β : Type} {R : α → β → Prop} {l : List α} {l' : List β}
    (h : List.Forall₂ R l l') {a : α} (ha : a ∈ l) : ∃ b ∈ l', R a b := by
  induction h with
  | nil => exact absurd ha List.not_mem_nil
  | cons hr _ ih =>
    rcases List.mem_cons.mp ha with rfl | ha
    · exact ⟨_, List.mem_cons_self, hr⟩
    · obtain ⟨b, hb, hr⟩ := ih ha
      exact ⟨b, List.mem_cons_of_mem _ hb, hr⟩

theorem exists_of_forall₂_right {α β : Type} {R : α → β → Prop} {l : List α} {l' : List β}
    (h : List.Forall₂ R l l') {b : β} (hb : b ∈ l') : ∃ a ∈ l, R a b :=
  exists_of_forall₂_left (List.Forall₂.flip h) hb

/-- The humans of a frozen roster are its racers, in the order of their ids. -/
theorem freezes_humans (h : Freezes active room fence roster) :
    List.Forall₂ (FreezesRacer active) (World.numbered room.membersById) roster.humans := by
  obtain ⟨racers, observers, hp, hr, ho⟩ := h.participants
  have hracers : racers.filter (!·.observer) = racers := by
    refine List.filter_eq_self.mpr fun p hp => ?_
    obtain ⟨_, _, hf⟩ := exists_of_forall₂_right hr hp
    rw [hf.2.2.1]
    rfl
  have hobservers : observers.filter (!·.observer) = [] := by
    refine List.filter_eq_nil_iff.mpr fun p hp => ?_
    obtain ⟨_, _, hf⟩ := exists_of_forall₂_right ho hp
    rw [hf.2.2]
    exact Bool.noConfusion
  unfold FrozenRaceRoster.humans
  rw [hp, List.filter_append, hracers, hobservers, List.append_nil]
  exact hr

theorem freezes_racers_fst (h : Freezes active room fence roster) :
    roster.racers.map Prod.fst =
      room.membersById.occupied.map memberPlayerId ++ room.aisById.occupied.map memberPlayerId := by
  have hhumans : (roster.humans.map fun p => p.playerId) =
      room.membersById.occupied.map memberPlayerId := by
    rw [← numbered_fst, List.map_map]
    exact (map_eq_of_forall₂ (freezes_humans h) fun hf => hf.2.1.symm).symm
  unfold FrozenRaceRoster.racers
  rw [List.map_append, List.map_map, List.map_map, h.ais, List.map_map, ← hhumans,
    ← numbered_fst room.aisById, List.map_map]
  rfl

/-- Whoever races was a member, under the id he is frozen with. -/
theorem freezes_entrants (h : Freezes active room fence roster)
    (ha : ∀ {u b}, active u = some b → b.userNo = u) {playerId : Int} :
    (false, playerId, userNo) ∈ roster.entrants ↔
      ∃ i m, room.membersById i = some m ∧ playerId = memberPlayerId i ∧ m.userNo = userNo := by
  rw [FrozenRaceRoster.mem_entrants]
  constructor
  · rintro ⟨p, hp, ho, rfl, rfl⟩
    have hh : p ∈ roster.humans := List.mem_filter.mpr ⟨hp, by rw [ho]; rfl⟩
    obtain ⟨⟨i, m⟩, hm, hf⟩ := exists_of_forall₂_right (freezes_humans h) hh
    exact ⟨i, m, mem_numbered.mp hm, hf.2.1, (ha hf.1).symm⟩
  · rintro ⟨i, m, hm, rfl, rfl⟩
    obtain ⟨p, hp, hf⟩ := exists_of_forall₂_left (freezes_humans h) (mem_numbered.mpr hm)
    exact ⟨p, (List.mem_filter.mp hp).1, hf.2.2.1, hf.2.1, ha hf.1⟩

theorem freezes_distinct (h : Freezes active room fence roster) (hs : room.Seated) :
    (roster.racers.map Prod.fst).Nodup := by
  have hinj : Function.Injective memberPlayerId := fun _ _ he => memberPlayerId_injective he
  rw [freezes_racers_fst h, ← List.map_append]
  refine List.Nodup.map hinj (List.nodup_append'.mpr
    ⟨Slots.nodup_occupied _, Slots.nodup_occupied _, fun i hm ha => ?_⟩)
  obtain ⟨m, hm⟩ := Option.isSome_iff_exists.mp (Slots.mem_occupied.mp hm)
  obtain ⟨ai, ha⟩ := Option.isSome_iff_exists.mp (Slots.mem_occupied.mp ha)
  rw [(hs.of_member hm).1] at ha
  exact absurd ha (by simp)

/-- The room that a race start installs. -/
theorem RoomOk.start (h : room.RoomOk) (hl : room.phase = .lobby) (hs : room.SameSeats next)
    (hf : Freezes active room fence roster) (hid : fence.roomId = room.id)
    (ha : ∀ {u b}, active u = some b → b.userNo = u) :
    (World.loadingRoom next fence roster).RoomOk := by
  have hseats : room.SameSeats (World.loadingRoom next fence roster) :=
    ⟨⟨hs.id, hs.gameType, hs.members, hs.ais, hs.closed, hs.observers, hs.slots⟩, hs.rankings,
      hs.master⟩
  have hpeople := hseats.toSamePlaces.samePeople hseats.master
  refine ⟨hseats.toSamePlaces.seated h.seated, hseats.toSamePlaces.zoned h.zoned,
    SameRankings.ranked hseats.rankings h.ranked, hpeople.masterOk h.master, ?_⟩
  exact {
    idle := fun hp => absurd hp (by simp [World.loadingRoom])
    racing := fun _ => ⟨roster, rfl, by rw [hf.fence]; rfl, by rw [hf.fence, hid, hseats.id]⟩
    settling := by simp [World.loadingRoom, RaceProgress.default]
    distinct := fun he => by
      cases he
      exact freezes_distinct hf h.seated
    present := fun he i m hm => by
      cases he
      obtain ⟨m₀, h₀, hu⟩ := hseats.toSamePlaces.member_userNo hm
      exact (freezes_entrants hf ha).mpr ⟨i, m₀, h₀, rfl, hu⟩
    planned := fun hk => by
      rw [plannedRanking?_of_settlement (World.loadingRoom next fence roster) rfl] at hk
      exact absurd hk (by simp)
    times := fun ht => absurd ht (by simp [World.loadingRoom, RaceProgress.default])
    populated := fun _ => by
      rw [hpeople.isEmpty]
      exact h.race.populated (Or.inl hl) }

end Freezing

/-! ## The end of a race -/

theorem clearRace_samePlaces (room : ProtocolRoomState) :
    room.SamePlaces room.clearRace.resetMembers := by
  have hclear : room.SamePlaces room.clearRace :=
    ⟨rfl, rfl, fun _ => rfl, rfl, rfl, fun _ => rfl, rfl⟩
  exact hclear.trans (samePlaces_of_modify fun _ _ => ⟨rfl, rfl⟩)

theorem clearRace_sameRankings (room : ProtocolRoomState) :
    room.SameRankings room.clearRace.resetMembers :=
  sameRankings_of_modify rfl fun _ _ => rfl

theorem RoomOk.abort (h : room.RoomOk) (hl : room.phase = .loading) :
    room.abortLoading.RoomOk where
  seated := (clearRace_samePlaces room).seated h.seated
  zoned := (clearRace_samePlaces room).zoned h.zoned
  ranked := (clearRace_sameRankings room).ranked h.ranked
  master := (resetMembers_samePeople room).masterOk h.master
  race := .clearRace (h.race.populated (Or.inr hl))

/-- Everybody who is still there when a race settles is in its ranking. -/
theorem RaceOk.rankedActive (h : room.RaceOk) (hk : room.plannedRanking? = some ranking) :
    room.rankedActive ranking = room.membersById.occupied := by
  obtain ⟨roster, -, hf, -⟩ := settlementRanking_ok (h.planned hk)
  refine List.filter_eq_self.mpr fun i hi => ?_
  obtain ⟨m, hm⟩ := Option.isSome_iff_exists.mp (Slots.mem_occupied.mp hi)
  obtain ⟨p, hp, ho, hid, -⟩ := FrozenRaceRoster.mem_entrants.mp (h.present hf hm)
  have hracer : memberPlayerId i ∈ roster.racers.map Prod.fst := by
    unfold FrozenRaceRoster.racers
    rw [List.map_append, List.mem_append, List.map_map]
    refine Or.inl (List.mem_map.mpr ⟨p, List.mem_filter.mpr ⟨hp, by rw [ho]; rfl⟩, hid⟩)
  obtain ⟨ranked, hr, -⟩ :=
    (settlementRanking_spec (h.planned hk) hf (h.distinct hf)).1 _ hracer
  rw [hr]
  rfl

theorem finalizeSettlement_samePlaces (room : ProtocolRoomState) (ranking : SettlementRanking) :
    room.SamePlaces (room.finalizeSettlement ranking) :=
  ((applyNextGridRanking_samePlaces room ranking).trans
    (applyNextLobbyMaster_samePlaces _ ranking)).trans (clearRace_samePlaces _)

theorem applyNextLobbyMaster_sameRankings (room : ProtocolRoomState)
    (ranking : SettlementRanking) : room.SameRankings (room.applyNextLobbyMaster ranking).2 := by
  rcases room.applyNextLobbyMaster_cases ranking with he | ⟨i, -, he⟩
  · rw [he]
    exact fun _ => rfl
  · rw [he]
    exact fun _ => rfl

/-- The next grid, as the frozen ranks order it. -/
theorem finalizeSettlement_sameRankings (room : ProtocolRoomState)
    (ranking : SettlementRanking) :
    (room.applyNextGridRanking ranking).SameRankings (room.finalizeSettlement ranking) := fun i =>
  (clearRace_sameRankings _ i).trans (applyNextLobbyMaster_sameRankings _ ranking i)

theorem RoomOk.finalize (h : room.RoomOk) (hk : room.plannedRanking? = some ranking)
    (hne : room.isEmpty = false) : (room.finalizeSettlement ranking).RoomOk := by
  have hplaces := finalizeSettlement_samePlaces room ranking
  have hlive : room.LiveMaster ∨ room.Unclaimed := h.master.live hne
  refine ⟨hplaces.seated h.seated, hplaces.zoned h.zoned, ?_, ⟨fun _ => ?_⟩, ?_⟩
  · refine (finalizeSettlement_sameRankings room ranking).ranked ?_
    unfold applyNextGridRanking
    rw [h.race.rankedActive hk]
    exact rerank_ranked (sortByKey_perm _ _)
  · rcases room.finalizeSettlement_master_cases ranking with hl | hs
    · exact Or.inl hl
    · rcases hlive with hl | hu
      · exact Or.inl (hs.liveMaster.mpr hl)
      · exact Or.inr (hs.unclaimed hu)
  · refine .clearRace ?_
    rw [← hne]
    exact isEmpty_congr ((applyNextGridRanking_samePlaces room ranking).trans
      (applyNextLobbyMaster_samePlaces _ ranking)).userNos

end ProtocolRoomState

end P4475
