import P4475.World.Mastership

/-!
# The starting grid

The rankings of the racers are always `0, …, n - 1`. A departure closes the gap it leaves
and a settlement takes over the order of the frozen ranking.
-/

namespace P4475

open Lib ProtocolRoomState

namespace ProtocolRoomState

/-- What a settlement by this ranking makes of the grid. -/
structure SettlesGrid (room : ProtocolRoomState) (ranking : SettlementRanking)
    (room' : ProtocolRoomState) : Prop where
  /-- Nobody comes or goes. -/
  stay : ∀ i, (room'.membersById i).map (·.userNo) = (room.membersById i).map (·.userNo)
  /-- Every racer who is still there is in the frozen ranking. -/
  listed : ∀ {i}, (room.membersById i).isSome = true →
    (ranking.byPlayerId.lookup (memberPlayerId i)).isSome = true
  /-- The new rankings start at zero and are in the order of the frozen ranks. -/
  ranked : room'.Ranked
  order : ∀ {i j ri rj}, (room.membersById i).isSome = true →
    (room.membersById j).isSome = true →
    ranking.byPlayerId.lookup (memberPlayerId i) = some ri →
    ranking.byPlayerId.lookup (memberPlayerId j) = some rj →
    (room'.rankingOf i < room'.rankingOf j ↔ ri.rank < rj.rank)
  /-- `u32::MAX` stands for a race that was not finished; such racers come last. -/
  finishers : ∀ {a b ra rb}, ranking.byPlayerId.lookup a = some ra →
    ranking.byPlayerId.lookup b = some rb → ra.finishTime ≠ u32Max → rb.finishTime = u32Max →
    ra.rank < rb.rank

structure Gridded (room : ProtocolRoomState) : Prop where
  ranked : room.Ranked
  removal : ∀ {userNo room'}, room.removeUser userNo = some room' → room'.Ranked ∧
    ∀ {i j}, (room'.membersById i).isSome = true → (room'.membersById j).isSome = true →
      (room'.rankingOf i < room'.rankingOf j ↔ room.rankingOf i < room.rankingOf j)
  settlement : ∀ {ranking rewards packets},
    room.finalization? = some (.ready ranking rewards packets) → room.isEmpty = false →
    room.SettlesGrid ranking (room.finalizeSettlement ranking)

variable {room : ProtocolRoomState} {ranking : SettlementRanking} {i j : Fin 8}
  {ri rj : RankedRaceResult}

theorem frozenRank_eq (h : ranking.byPlayerId.lookup (memberPlayerId i) = some ri) :
    frozenRank ranking i = ri.rank := by
  unfold frozenRank
  rw [h]
  rfl

/-- Finish times in a planned ranking are those of the race, so they are bounded. -/
theorem RaceOk.finishTime_le (h : room.RaceOk) (hk : room.plannedRanking? = some ranking)
    {a : Int} {ra : RankedRaceResult} (ha : ranking.byPlayerId.lookup a = some ra) :
    ra.finishTime ≤ u32Max := by
  obtain ⟨roster, progress, hf, hp, he⟩ := settlementRanking_ok (h.planned hk)
  have hn := h.distinct hf
  have hids : (room.finishedRacers roster).map (fun r => r.2.1) = roster.racers.map Prod.fst := by
    unfold finishedRacers
    rw [List.map_map]
    rfl
  have hsorted := (sortByKey_perm Racer.key (room.finishedRacers roster)).map fun r => r.2.1
  obtain ⟨hother, -⟩ := rankRacers_spec hp (hsorted.nodup_iff.mpr (hids ▸ hn))
  have hmem : a ∈ roster.racers.map Prod.fst := by
    by_contra hno
    rw [he, hother a fun hm => hno (hids ▸ hsorted.mem_iff.mp hm)] at ha
    exact absurd ha (by simp)
  obtain ⟨ranked, hl, ht⟩ := (settlementRanking_spec (h.planned hk) hf hn).1 a hmem
  rw [ha] at hl
  cases hl
  rw [ht]
  unfold finishTimeOf
  cases htime : room.raceProgress.finishTimes.lookup a with
  | none => exact Nat.le_refl _
  | some time => exact h.times htime

/-- Ranks are in the order of finish times, ties by player id. -/
theorem RaceOk.rank_lt_iff (h : room.RaceOk) (hk : room.plannedRanking? = some ranking)
    {a b : Int} {ra rb : RankedRaceResult} (ha : ranking.byPlayerId.lookup a = some ra)
    (hb : ranking.byPlayerId.lookup b = some rb) :
    ra.rank < rb.rank ↔ toLex (ra.finishTime, a) < toLex (rb.finishTime, b) := by
  obtain ⟨roster, -, hf, -⟩ := settlementRanking_ok (h.planned hk)
  exact (settlementRanking_spec (h.planned hk) hf (h.distinct hf)).2 ha hb

/-- Two racers never share a rank. -/
theorem RaceOk.rank_injective (h : room.RaceOk) (hk : room.plannedRanking? = some ranking)
    {a b : Int} {ra rb : RankedRaceResult} (ha : ranking.byPlayerId.lookup a = some ra)
    (hb : ranking.byPlayerId.lookup b = some rb) (he : ra.rank = rb.rank) : a = b := by
  have hab := mt (h.rank_lt_iff hk ha hb).mpr (not_lt.mpr he.ge)
  have hba := mt (h.rank_lt_iff hk hb ha).mpr (not_lt.mpr he.le)
  have heq := le_antisymm (not_lt.mp hba) (not_lt.mp hab)
  exact (Prod.ext_iff.mp (toLex_inj.mp heq)).2

theorem RoomOk.settlesGrid (h : room.RoomOk) (hk : room.plannedRanking? = some ranking)
    (hne : room.isEmpty = false) : room.SettlesGrid ranking (room.finalizeSettlement ranking) := by
  have hplaces := finalizeSettlement_samePlaces room ranking
  have hactive := h.race.rankedActive hk
  have hlisted : ∀ {i}, (room.membersById i).isSome = true →
      (ranking.byPlayerId.lookup (memberPlayerId i)).isSome = true := fun {i} hi => by
    have hmem : i ∈ room.rankedActive ranking := hactive ▸ Slots.mem_occupied.mpr hi
    exact (mem_rankedActive.mp hmem).2
  refine ⟨fun i => ?_, hlisted, (h.finalize hk hne).ranked, ?_, ?_⟩
  · have hmembers := hplaces.members i
    have hfst := congrArg (Option.map Prod.fst) hmembers
    simpa only [Option.map_map, Function.comp_def] using hfst
  · intro i j ri rj hi hj hri hrj
    have hsame := finalizeSettlement_sameRankings room ranking
    rw [hsame.rankingOf i, hsame.rankingOf j]
    unfold applyNextGridRanking
    have hkey : ∀ a ∈ room.rankedActive ranking, ∀ b ∈ room.rankedActive ranking,
        (toLex (frozenRank ranking a, a) : Int ×ₗ Fin 8) = toLex (frozenRank ranking b, b) →
        a = b := fun a _ b _ he => (Prod.ext_iff.mp (toLex_inj.mp he)).2
    rw [rerank_sorted_lt hactive hkey hi hj, Prod.Lex.toLex_lt_toLex, frozenRank_eq hri,
      frozenRank_eq hrj]
    refine ⟨fun hlt => ?_, Or.inl⟩
    rcases hlt with hlt | ⟨heq, hlt⟩
    · exact hlt
    · have hids := memberPlayerId_injective (h.race.rank_injective hk hri hrj heq)
      rw [hids] at hlt
      exact absurd hlt (lt_irrefl _)
  · intro a b ra rb ha hb hfinished hnot
    rw [h.race.rank_lt_iff hk ha hb, Prod.Lex.toLex_lt_toLex]
    have hle := h.race.finishTime_le hk ha
    exact Or.inl (by omega)

theorem RoomOk.gridded (h : room.RoomOk) : room.Gridded where
  ranked := h.ranked
  removal := fun hr => ⟨h.ranked.removeUser hr, fun hi hj => h.ranked.removeUser_order hr hi hj⟩
  settlement := fun hready hne => h.settlesGrid (plannedRanking?_ready hready) hne

end ProtocolRoomState

variable {H Q P : Type} {env : WorldEnv H Q P}

/-- **The grid of every room, at every moment of a run.** -/
theorem visited_grid {w : World H} (h : w.Visited env) {id : RoomId} {room : ProtocolRoomState}
    (hr : w.room? id = some room) : room.Gridded := (h.room hr).2.gridded

theorem roomRun_grid : ∃ room, roomRun.2.world.room? ⟨1⟩ = some room ∧ room.Gridded ∧
    room.rankings = [0, 1] := by
  have hsome : (roomRun.2.world.room? ⟨1⟩).isSome = true := by decide +kernel
  have hrankings : (roomRun.2.world.room? ⟨1⟩).map ProtocolRoomState.rankings = some [0, 1] := by
    decide +kernel
  obtain ⟨room, hr⟩ := Option.isSome_iff_exists.mp hsome
  rw [hr] at hrankings
  exact ⟨room, hr, visited_grid (WorldActor.visited roomRun_reachable) hr, Option.some_inj.mp hrankings⟩

end P4475
