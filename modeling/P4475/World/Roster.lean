import P4475.World.Master

/-!
# The race of a room

`RaceOk` ties a room to its frozen race: the roster lists every racer who is still
there under his own id, no id races twice, and once a ranking is planned it is the
one that the roster and the finish times determine. `settlementRanking_spec` says
what such a ranking is: ranks compare as finish times do, ties by player id.
-/

namespace P4475

open Lib

namespace FrozenRaceRoster

/-- Who was frozen where: observer flag, player id and user. -/
def entrants (roster : FrozenRaceRoster) : List (Bool × Int × UserNo) :=
  roster.participants.map fun p => (p.observer, p.playerId, p.identity.userNo)

theorem racers_skeleton (roster : FrozenRaceRoster) : roster.skeleton.racers = roster.racers := by
  unfold racers skeleton
  simp [List.filter_map, Function.comp_def]

theorem entrants_skeleton (roster : FrozenRaceRoster) :
    roster.skeleton.entrants = roster.entrants := by
  unfold entrants skeleton
  simp [Function.comp_def]

theorem fence_skeleton (roster : FrozenRaceRoster) : roster.skeleton.fence = roster.fence := rfl

theorem mem_entrants {roster : FrozenRaceRoster} {observer : Bool} {playerId : Int}
    {userNo : UserNo} : (observer, playerId, userNo) ∈ roster.entrants ↔
      ∃ p ∈ roster.participants, p.observer = observer ∧ p.playerId = playerId ∧
        p.identity.userNo = userNo := by
  unfold entrants
  simp [List.mem_map]

/-- The user races, or raced, in the race of the roster. -/
def Races (roster : FrozenRaceRoster) (userNo : UserNo) : Prop :=
  ∃ playerId, (false, playerId, userNo) ∈ roster.entrants

theorem races_iff {roster : FrozenRaceRoster} {userNo : UserNo} : roster.Races userNo ↔
    ∃ p ∈ roster.humans, p.identity.userNo = userNo := by
  unfold Races humans
  simp only [mem_entrants, List.mem_filter]
  constructor
  · rintro ⟨playerId, p, hp, ho, -, hu⟩
    exact ⟨p, ⟨hp, by simp [ho]⟩, hu⟩
  · rintro ⟨p, ⟨hp, ho⟩, hu⟩
    exact ⟨p.playerId, p, hp, by simpa using ho, rfl, hu⟩

end FrozenRaceRoster

/-! ## The ranking of a settlement -/

/-- The loop gives the `k`th racer the rank `rank + k`, and nobody else a result. -/
theorem rankRacers_spec {teamMode : Bool} {n : Nat} {racers : List Racer} {rank : Nat}
    {progress progress' : RankingProgress}
    (h : rankRacers teamMode n racers rank progress = .ok progress')
    (hn : (racers.map fun r => r.2.1).Nodup) :
    (∀ playerId, playerId ∉ racers.map (fun r => r.2.1) →
      progress'.byPlayerId.lookup playerId = progress.byPlayerId.lookup playerId) ∧
    ∀ k racer, racers[k]? = some racer → ∃ ranked,
      progress'.byPlayerId.lookup racer.2.1 = some ranked ∧
      ranked.finishTime = racer.1 ∧ ranked.rank = ((rank + k : Nat) : Int) := by
  induction racers generalizing rank progress with
  | nil =>
    cases h
    exact ⟨fun _ _ => rfl, fun k racer hk => absurd hk (by simp)⟩
  | cons first rest ih =>
    obtain ⟨finishTime, playerId, wireTeam⟩ := first
    unfold rankRacers at h
    split at h
    next => exact absurd h (by simp)
    next team _ =>
      split at h
      next => exact absurd h (by simp)
      next points _ =>
        obtain ⟨hfirst, hrest⟩ := List.nodup_cons.mp hn
        obtain ⟨hother, hranks⟩ := ih h hrest
        refine ⟨fun p hp => ?_, fun k racer hk => ?_⟩
        · have hne : p ≠ playerId := fun he => hp (by rw [he]; exact List.mem_cons_self)
          rw [hother p fun hm => hp (List.mem_cons_of_mem _ hm)]
          exact (Map.lookup_insert_ite _ _ _ _).trans (if_neg hne)
        · cases k with
          | zero =>
            cases hk
            refine ⟨⟨finishTime, rank, team, points⟩, ?_, rfl, by simp⟩
            rw [hother _ hfirst]
            exact (Map.lookup_insert_ite _ _ _ _).trans (if_pos rfl)
          | succ k =>
            obtain ⟨ranked, hl, ht, hr⟩ := hranks k racer hk
            exact ⟨ranked, hl, ht, by rw [hr]; push_cast; omega⟩

namespace ProtocolRoomState

variable {room room' : ProtocolRoomState} {i j : Fin 8} {userNo : UserNo}
  {participant : RoomParticipant} {ranking : SettlementRanking}

/-- The finish time that a ranking is made from. -/
def finishTimeOf (room : ProtocolRoomState) (playerId : Int) : Nat :=
  (room.raceProgress.finishTimes.lookup playerId).getD u32Max

theorem settlementRanking_ok (h : room.settlementRanking = .ok ranking) :
    ∃ roster progress, room.frozenRace = some roster ∧
      rankRacers room.teamMode (room.finishedRacers roster).length
        (sortByKey Racer.key (room.finishedRacers roster)) 0 ⟨0, 0, ∅⟩ = .ok progress ∧
      ranking.byPlayerId = progress.byPlayerId := by
  unfold settlementRanking at h
  split at h
  next => exact absurd h (by simp)
  next roster hf =>
    dsimp only at h
    split at h
    next =>
      rw [(sortByKey_perm _ _).length_eq] at h
      split at h
      next => exact absurd h (by simp)
      next progress hp =>
        refine ⟨roster, progress, hf, hp, ?_⟩
        split at h
        next =>
          cases hw : winningTeam room.settings.gameType
              (sortByKey Racer.key (room.finishedRacers roster)) progress with
          | error e => rw [hw] at h; exact absurd h (by simp [Except.map])
          | ok team =>
            rw [hw] at h
            cases h
            rfl
        next =>
          cases h
          rfl
    next => exact absurd h (by simp)

/-- What a ranking says: exactly the racers of the roster are ranked, with their
finish times, and one is ahead of another exactly when the earlier finish time, or
on a tie the smaller player id, is his. -/
theorem settlementRanking_spec {roster : FrozenRaceRoster}
    (h : room.settlementRanking = .ok ranking) (hf : room.frozenRace = some roster)
    (hn : (roster.racers.map Prod.fst).Nodup) :
    (∀ playerId ∈ roster.racers.map Prod.fst, ∃ ranked,
      ranking.byPlayerId.lookup playerId = some ranked ∧
        ranked.finishTime = room.finishTimeOf playerId) ∧
    ∀ {a b ra rb}, ranking.byPlayerId.lookup a = some ra →
      ranking.byPlayerId.lookup b = some rb →
      (ra.rank < rb.rank ↔ toLex (ra.finishTime, a) < toLex (rb.finishTime, b)) := by
  obtain ⟨roster', progress, hf', hp, he⟩ := settlementRanking_ok h
  rw [hf] at hf'
  cases hf'
  have hids : (room.finishedRacers roster).map (fun r => r.2.1) = roster.racers.map Prod.fst := by
    unfold finishedRacers
    rw [List.map_map]
    rfl
  have hsorted := (sortByKey_perm Racer.key (room.finishedRacers roster)).map fun r => r.2.1
  obtain ⟨hother, hranks⟩ := rankRacers_spec hp (hsorted.nodup_iff.mpr (hids ▸ hn))
  have htime : ∀ racer ∈ room.finishedRacers roster,
      racer.1 = room.finishTimeOf racer.2.1 := by
    intro racer hr
    obtain ⟨⟨playerId, team⟩, -, rfl⟩ := List.mem_map.mp hr
    rfl
  have hplace : ∀ playerId ranked, ranking.byPlayerId.lookup playerId = some ranked →
      ∃ (k : Nat) (racer : Racer),
        (sortByKey Racer.key (room.finishedRacers roster))[k]? = some racer ∧
        racer.2.1 = playerId ∧ ranked.finishTime = racer.1 ∧ ranked.rank = (k : Int) := by
    intro playerId ranked hl
    rw [he] at hl
    by_cases hmem : playerId ∈
        (sortByKey Racer.key (room.finishedRacers roster)).map fun r => r.2.1
    · obtain ⟨racer, hracer, rfl⟩ := List.mem_map.mp hmem
      obtain ⟨k, hk⟩ := List.mem_iff_getElem?.mp hracer
      obtain ⟨ranked', hl', ht, hr⟩ := hranks k racer hk
      rw [hl] at hl'
      cases hl'
      exact ⟨k, racer, hk, rfl, ht, by rw [hr, Nat.zero_add]⟩
    · rw [hother playerId hmem] at hl
      exact absurd hl (by simp)
  refine ⟨fun playerId hm => ?_, fun {a b ra rb} ha hb => ?_⟩
  · rw [← hids] at hm
    obtain ⟨racer, hracer, rfl⟩ := List.mem_map.mp hm
    have hsort : racer ∈ sortByKey Racer.key (room.finishedRacers roster) :=
      mem_sortByKey.mpr hracer
    obtain ⟨k, hk⟩ := List.mem_iff_getElem?.mp hsort
    obtain ⟨ranked, hl, ht, -⟩ := hranks k racer hk
    exact ⟨ranked, by rw [he]; exact hl, ht.trans (htime racer hracer)⟩
  · obtain ⟨k, x, hk, rfl, htx, hrx⟩ := hplace a ra ha
    obtain ⟨l, y, hl, rfl, hty, hry⟩ := hplace b rb hb
    have hpair := List.pairwise_iff_getElem.mp
      (sortByKey_pairwise Racer.key (room.finishedRacers roster))
    obtain ⟨hkl, hkx⟩ := List.getElem?_eq_some_iff.mp hk
    obtain ⟨hll, hly⟩ := List.getElem?_eq_some_iff.mp hl
    have hnd := hsorted.nodup_iff.mpr (hids ▸ hn)
    rw [hrx, hry, Int.ofNat_lt, htx, hty]
    show k < l ↔ Racer.key x < Racer.key y
    rcases Nat.lt_trichotomy k l with hlt | heq | hgt
    · have hle := hpair k l hkl hll hlt
      rw [hkx, hly] at hle
      refine iff_of_true hlt (lt_of_le_of_ne hle fun hkey => ?_)
      have hid : x.2.1 = y.2.1 := (Prod.ext_iff.mp (toLex_inj.mp hkey)).2
      have hmap : ((sortByKey Racer.key (room.finishedRacers roster)).map fun r => r.2.1)[k]? =
          ((sortByKey Racer.key (room.finishedRacers roster)).map fun r => r.2.1)[l]? := by
        rw [List.getElem?_map, List.getElem?_map, hk, hl, Option.map_some, Option.map_some, hid]
      have hkl' := (List.getElem?_inj (by simpa using hkl) hnd).mp hmap
      omega
    · subst heq
      rw [hk] at hl
      cases hl
      exact iff_of_false (lt_irrefl k) (lt_irrefl _)
    · have hle := hpair l k hll hkl hgt
      rw [hkx, hly] at hle
      exact iff_of_false (by omega) (not_lt.mpr hle)

/-- A ranking is made from the racers of the roster, the finish times and the game
type. -/
theorem settlementRanking_congr
    (hf : room'.frozenRace.map FrozenRaceRoster.skeleton =
      room.frozenRace.map FrozenRaceRoster.skeleton)
    (ht : room'.raceProgress.finishTimes = room.raceProgress.finishTimes)
    (hg : room'.settings.gameType = room.settings.gameType) :
    room'.settlementRanking = room.settlementRanking := by
  have hm : room'.teamMode = room.teamMode := by
    unfold teamMode
    rw [hg]
  unfold settlementRanking
  cases hr : room.frozenRace with
  | none =>
    rw [hr, Option.map_none, Option.map_eq_none_iff] at hf
    rw [hf]
  | some roster =>
    rw [hr, Option.map_some, Option.map_eq_some_iff] at hf
    obtain ⟨roster', hr', hs⟩ := hf
    have hracers : room'.finishedRacers roster' = room.finishedRacers roster := by
      unfold finishedRacers
      rw [← roster'.racers_skeleton, hs, roster.racers_skeleton, ht]
    rw [hr']
    simp only [hracers, hm, hg]

/-! ## The race of a room -/

/-- What ties a room to its race. -/
structure RaceOk (room : ProtocolRoomState) : Prop where
  /-- In the lobby there is no race. -/
  idle : room.phase = .lobby → room.raceFence = none ∧ room.frozenRace = none
  /-- Outside of it there is one, with a fence of this room. -/
  racing : room.phase ≠ .lobby → ∃ roster, room.frozenRace = some roster ∧
    room.raceFence = some roster.fence ∧ roster.fence.roomId = room.id
  settling : room.raceProgress.settlement.isSome = true ↔ room.phase = .settling
  distinct : ∀ {roster}, room.frozenRace = some roster → (roster.racers.map Prod.fst).Nodup
  /-- Every racer who is still there was frozen under his id. -/
  present : ∀ {roster}, room.frozenRace = some roster → ∀ {i m},
    room.membersById i = some m → (false, memberPlayerId i, m.userNo) ∈ roster.entrants
  planned : ∀ {ranking}, room.plannedRanking? = some ranking →
    room.settlementRanking = .ok ranking
  times : ∀ {playerId time}, room.raceProgress.finishTimes.lookup playerId = some time →
    time ≤ u32Max
  populated : room.phase = .lobby ∨ room.phase = .loading → room.isEmpty = false

/-- Two rooms with the same race. -/
structure SameRun (room room' : ProtocolRoomState) : Prop where
  id : room'.id = room.id
  settings : room'.settings = room.settings
  phase : room'.phase = room.phase
  fence : room'.raceFence = room.raceFence
  frozen : room'.frozenRace = room.frozenRace
  progress : room'.raceProgress = room.raceProgress

theorem SameRun.trans {room'' : ProtocolRoomState} (h : room.SameRun room')
    (h' : room'.SameRun room'') : room.SameRun room'' :=
  ⟨h'.id.trans h.id, h'.settings.trans h.settings, h'.phase.trans h.phase,
    h'.fence.trans h.fence, h'.frozen.trans h.frozen, h'.progress.trans h.progress⟩

theorem assignNextRoomMaster_sameRun (room : ProtocolRoomState) :
    room.SameRun room.assignNextRoomMaster := by
  unfold assignNextRoomMaster
  split
  next => exact ⟨rfl, rfl, rfl, rfl, rfl, rfl⟩
  next => split <;> exact ⟨rfl, rfl, rfl, rfl, rfl, rfl⟩

theorem clearSlotOf_sameRun (room : ProtocolRoomState) (i : Fin 8) :
    room.SameRun (room.clearSlotOf i) := by
  unfold clearSlotOf
  split <;> exact ⟨rfl, rfl, rfl, rfl, rfl, rfl⟩

theorem removeObserver_sameRun (room : ProtocolRoomState) (i : Fin 8) :
    room.SameRun (room.removeObserver i) := by
  unfold removeObserver
  have hput : room.SameRun { room with observers := room.observers.put i none } :=
    ⟨rfl, rfl, rfl, rfl, rfl, rfl⟩
  split
  next => exact hput.trans (assignNextRoomMaster_sameRun _)
  next => exact hput

theorem removeMember_sameRun (room : ProtocolRoomState) (i : Fin 8) :
    room.SameRun (room.removeMember i) := by
  have hput : room.SameRun { room with membersById := room.membersById.put i none } :=
    ⟨rfl, rfl, rfl, rfl, rfl, rfl⟩
  have hbefore : room.SameRun (room.beforeRerank i) := by
    unfold beforeRerank
    dsimp only
    split
    next => exact (hput.trans (clearSlotOf_sameRun _ i)).trans (assignNextRoomMaster_sameRun _)
    next => exact hput.trans (clearSlotOf_sameRun _ i)
  rw [removeMember_eq]
  exact hbefore.trans ⟨rfl, rfl, rfl, rfl, rfl, rfl⟩

/-- A departure leaves the race alone. -/
theorem removeUser_sameRun (h : room.removeUser userNo = some room') : room.SameRun room' := by
  rcases removeUser_cases h with ⟨i, _, _, _, rfl⟩ | ⟨i, _, _, _, rfl⟩
  · exact removeObserver_sameRun room i
  · exact removeMember_sameRun room i

/-- Whoever stays keeps his seat. -/
theorem Seated.removeUser_member (h : room.Seated) (hr : room.removeUser userNo = some room')
    {m : ProtocolRoomMember} (hm : room'.membersById i = some m) :
    ∃ m₀, room.membersById i = some m₀ ∧ m₀.userNo = m.userNo := by
  rcases removeUser_cases hr with ⟨k, _, _, _, rfl⟩ | ⟨k, _, hk, _, rfl⟩
  · obtain ⟨m₀, h₀, hu, -⟩ := (removeObserver_samePlaces room k).member hm
    exact ⟨m₀, h₀, hu⟩
  · obtain ⟨s, hs⟩ := h.hasSlot (load_of_member hk)
    obtain ⟨m₀, h₀, hu, -⟩ := (h.removeMember_samePlaces hs).member hm
    refine ⟨m₀, ?_, hu⟩
    have hput : (room.membersById.put k none) i = some m₀ := h₀
    rw [Slots.put_apply] at hput
    split at hput
    next => exact absurd hput (by simp)
    next => exact hput

theorem SameRun.plannedRanking? (h : room.SameRun room') :
    room'.plannedRanking? = room.plannedRanking? := by
  unfold ProtocolRoomState.plannedRanking? finalization?
  rw [h.progress]

theorem SameRun.settlementRanking (h : room.SameRun room') :
    room'.settlementRanking = room.settlementRanking :=
  settlementRanking_congr (by rw [h.frozen]) (by rw [h.progress]) (by rw [h.settings])

/-- The race survives a departure that leaves the room populated, or any while
racing. -/
theorem RaceOk.removeUser (h : room.RaceOk) (hs : room.Seated)
    (hr : room.removeUser userNo = some room') (hp : room'.removable = false) :
    room'.RaceOk := by
  have hrun := removeUser_sameRun hr
  refine ⟨fun hl => ?_, fun hl => ?_, ?_, fun hf => ?_, fun hf => ?_, fun hk => ?_, fun ht => ?_,
    fun hl => ?_⟩
  · rw [hrun.fence, hrun.frozen]
    exact h.idle (hrun.phase ▸ hl)
  · rw [hrun.fence, hrun.frozen, hrun.id]
    exact h.racing (hrun.phase ▸ hl)
  · rw [hrun.progress, hrun.phase]
    exact h.settling
  · exact h.distinct (hrun.frozen ▸ hf)
  · intro i m hm
    obtain ⟨m₀, h₀, hu⟩ := hs.removeUser_member hr hm
    rw [← hu]
    exact h.present (hrun.frozen ▸ hf) h₀
  · rw [hrun.settlementRanking]
    exact h.planned (hrun.plannedRanking? ▸ hk)
  · exact h.times (hrun.progress ▸ ht)
  · unfold removable at hp
    rw [decide_eq_true hl, Bool.and_true] at hp
    exact hp

/-- The members' users at their ids. -/
theorem SamePlaces.member_userNo (h : room.SamePlaces room') {m : ProtocolRoomMember}
    (hm : room'.membersById i = some m) :
    ∃ m₀, room.membersById i = some m₀ ∧ m₀.userNo = m.userNo := by
  obtain ⟨m₀, h₀, hu, -⟩ := h.member hm
  exact ⟨m₀, h₀, hu⟩

theorem plannedRanking?_of_settlement (room : ProtocolRoomState)
    (h : room.raceProgress.settlement = none) :
    room.plannedRanking? = none := by
  unfold plannedRanking? finalization?
  rw [h]
  rfl

theorem RaceOk.settlement_none (h : room.RaceOk) (hp : room.phase ≠ .settling) :
    room.raceProgress.settlement = none := by
  cases hs : room.raceProgress.settlement with
  | none => rfl
  | some s => exact absurd (h.settling.mp (by rw [hs]; rfl)) hp

/-- An edit that moves nobody and lets the race go on. -/
theorem RaceOk.touch (h : room.RaceOk) (hs : room.SameSeats room') (hr : room.SameRace room') :
    room'.RaceOk := by
  have hroster : ∀ {roster'}, room'.frozenRace = some roster' → ∃ roster,
      room.frozenRace = some roster ∧ roster'.skeleton = roster.skeleton := by
    intro roster' hf
    have hmap := hr.frozen
    rw [hf, Option.map_some, eq_comm, Option.map_eq_some_iff] at hmap
    obtain ⟨roster, h₀, he⟩ := hmap
    exact ⟨roster, h₀, he.symm⟩
  refine ⟨fun hl => ?_, fun hl => ?_, ?_, fun hf => ?_, fun hf => ?_, fun hk => ?_, fun ht => ?_,
    fun hl => ?_⟩
  · obtain ⟨hfence, hfrozen⟩ := h.idle (hr.phase ▸ hl)
    have hmap := hr.frozen
    rw [hfrozen, Option.map_none, Option.map_eq_none_iff] at hmap
    exact ⟨hr.fence.trans hfence, hmap⟩
  · obtain ⟨roster, hfrozen, hfence, hid⟩ := h.racing (hr.phase ▸ hl)
    have hmap := hr.frozen
    rw [hfrozen, Option.map_some, Option.map_eq_some_iff] at hmap
    obtain ⟨roster', h', he⟩ := hmap
    have hsame : roster'.fence = roster.fence := by
      rw [← roster'.fence_skeleton, he, roster.fence_skeleton]
    exact ⟨roster', h', by rw [hr.fence, hfence, hsame], by rw [hsame, hid, hs.id]⟩
  · rw [hr.settlement, hr.phase]
    exact h.settling
  · obtain ⟨roster, h₀, he⟩ := hroster hf
    rw [← FrozenRaceRoster.racers_skeleton, he, FrozenRaceRoster.racers_skeleton]
    exact h.distinct h₀
  · intro i m hm
    obtain ⟨roster, h₀, he⟩ := hroster hf
    obtain ⟨m₀, hm₀, hu⟩ := hs.toSamePlaces.member_userNo hm
    rw [← FrozenRaceRoster.entrants_skeleton, he, FrozenRaceRoster.entrants_skeleton, ← hu]
    exact h.present h₀ hm₀
  · by_cases hp : room.phase = .settling
    · obtain ⟨htimes, hcase⟩ := hr.planned hp _ hk
      rw [settlementRanking_congr hr.frozen htimes hs.gameType]
      rcases hcase with hplanned | hnow
      · exact h.planned hplanned
      · exact hnow
    · have hnone : room'.raceProgress.settlement = none := by
        rw [← Option.not_isSome_iff_eq_none, hr.settlement, h.settlement_none hp]
        exact Bool.noConfusion
      rw [plannedRanking?_of_settlement room' hnone] at hk
      exact absurd hk (by simp)
  · rcases hr.times ht with hold | hle
    · exact h.times hold
    · exact hle
  · rw [(hs.toSamePlaces.samePeople hs.master).isEmpty]
    exact h.populated (hr.phase ▸ hl)

/-- Only the phase and the handshake move when the race starts to run. -/
theorem RaceOk.startRunning (h : room.RaceOk) (hl : room.phase = .loading) :
    room.startRunning.RaceOk where
  idle := fun hp => absurd hp (by simp [ProtocolRoomState.startRunning])
  racing := fun _ => h.racing (by rw [hl]; exact RoomPhase.noConfusion)
  settling := by
    show room.raceProgress.settlement.isSome = true ↔ RoomPhase.running = .settling
    rw [h.settlement_none (by rw [hl]; exact RoomPhase.noConfusion)]
    simp
  distinct := h.distinct
  present := h.present
  planned := fun hk => by
    have hnone := h.settlement_none (by rw [hl]; exact RoomPhase.noConfusion)
    rw [plannedRanking?_of_settlement room.startRunning hnone] at hk
    exact absurd hk (by simp)
  times := h.times
  populated := fun hp => by
    rcases hp with hp | hp <;> exact absurd hp (by simp [ProtocolRoomState.startRunning])

theorem RaceOk.beginSettlement (h : room.RaceOk) (hp : room.phase = .running) {endTick : Nat}
    {deadline : Instant} {finish : Option PendingRaceTime} {excluded : Option UserNo} :
    (room.beginSettlement endTick deadline finish excluded).RaceOk where
  idle := fun hp => absurd hp (by simp [ProtocolRoomState.beginSettlement])
  racing := fun _ => h.racing (by rw [hp]; exact RoomPhase.noConfusion)
  settling := iff_of_true rfl rfl
  distinct := h.distinct
  present := h.present
  planned := fun hk => absurd hk (by
    simp [plannedRanking?, finalization?, ProtocolRoomState.beginSettlement,
      SettlementFinalization.ranking?])
  times := h.times
  populated := fun hp => by
    rcases hp with hp | hp <;> exact absurd hp (by simp [ProtocolRoomState.beginSettlement])

/-- A room in the lobby that is not empty, whose race fields are clear. -/
theorem RaceOk.of_lobby (hp : room.phase = .lobby) (hfence : room.raceFence = none)
    (hfrozen : room.frozenRace = none) (hprogress : room.raceProgress = .default)
    (hne : room.isEmpty = false) : room.RaceOk where
  idle := fun _ => ⟨hfence, hfrozen⟩
  racing := fun h => absurd hp h
  settling := by rw [hprogress, hp]; simp [RaceProgress.default]
  distinct := fun h => by rw [hfrozen] at h; exact absurd h (by simp)
  present := fun h => by rw [hfrozen] at h; exact absurd h (by simp)
  planned := fun h => by
    rw [plannedRanking?_of_settlement room (by rw [hprogress]; rfl)] at h
    exact absurd h (by simp)
  times := fun h => by rw [hprogress] at h; exact absurd h (by simp [RaceProgress.default])
  populated := fun _ => hne

theorem RaceOk.clearRace (hne : room.isEmpty = false) : room.clearRace.resetMembers.RaceOk :=
  .of_lobby rfl rfl rfl rfl (by rw [(resetMembers_samePeople room).isEmpty]; exact hne)

end ProtocolRoomState

end P4475
