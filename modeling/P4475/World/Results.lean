import Mathlib.Algebra.Ring.Int.Defs
import P4475.World.Roster

/-!
# The results of a race

What `settlement_ranking` computes: the racers in the order of their finish times, ties by
player id, each with the rank of his place, his team and the points of the place; and the team
that wins. It fails only where a racer of a team race has no team. `scored` is the line of one
racer at one place, and the loop is the fold of `scored` over the sorted racers.
-/

namespace P4475

open Lib

/-- The racer finished: `u32::MAX` stands for a race that was not finished. -/
def Racer.Finished (racer : Racer) : Prop := racer.1 ≠ u32Max

instance (racer : Racer) : Decidable racer.Finished := inferInstanceAs (Decidable (_ ≠ _))

/-- The wire team is one of the two. -/
def Racer.Teamed (racer : Racer) : Prop := racer.2.2 = 1 ∨ racer.2.2 = 2

instance (racer : Racer) : Decidable racer.Teamed := inferInstanceAs (Decidable (_ ∨ _))

/-- The team of a racer who has one. -/
def Racer.team (racer : Racer) : ResultTeam := if racer.2.2 = 1 then .red else .blue

/-- The result of a racer at a place. -/
def Racer.scored (teamMode : Bool) (rank : Nat) (racer : Racer) : RankedRaceResult where
  finishTime := racer.1
  rank := rank
  team := if teamMode then some racer.team else none
  teamPoints := if teamMode = true ∧ racer.Finished then teamPointsByRank.getD rank 0 else 0

/-- What a team gets from one result. -/
def teamShare (team : ResultTeam) (ranked : Option RankedRaceResult) : Int :=
  ranked.elim 0 fun ranked => if ranked.team = some team then ranked.teamPoints else 0

namespace SettlementRanking

/-- The total of a team over the racers. -/
def total (ranking : SettlementRanking) (racers : List Racer) (team : ResultTeam) : Int :=
  (racers.map fun racer => teamShare team (ranking.byPlayerId.lookup racer.2.1)).sum

/-- What a ranking of the racers says, in a race of this game type. -/
structure Settles (ranking : SettlementRanking) (gameType : Nat) (racers : List Racer) : Prop where
  /-- Exactly the racers are ranked. -/
  listed : ∀ playerId, (ranking.byPlayerId.lookup playerId).isSome ↔
    ∃ racer ∈ racers, racer.2.1 = playerId
  /-- The ranks are `0` to `n - 1`, each once. -/
  ranks : (racers.map fun racer => (ranking.byPlayerId.lookup racer.2.1).map (·.rank)).Perm
    ((List.range racers.length).map fun k : Nat => some (k : Int))
  /-- They are in the order of finish times, ties by player id. -/
  sorted : ∀ {a b : Racer} {ra rb : RankedRaceResult}, a ∈ racers → b ∈ racers →
    ranking.byPlayerId.lookup a.2.1 = some ra → ranking.byPlayerId.lookup b.2.1 = some rb →
    (ra.rank < rb.rank ↔ a.key < b.key)
  /-- So those who did not finish come last. -/
  last : ∀ {a b : Racer} {ra rb : RankedRaceResult}, a ∈ racers → b ∈ racers →
    ranking.byPlayerId.lookup a.2.1 = some ra → ranking.byPlayerId.lookup b.2.1 = some rb →
    a.1 < u32Max → ¬ b.Finished → ra.rank < rb.rank
  /-- A racer's line is that of his place. -/
  scored : ∀ {racer : Racer}, racer ∈ racers → ∃ rank : Nat,
    ranking.byPlayerId.lookup racer.2.1 =
      some (racer.scored (gameType = 3 ∨ gameType = 4) rank)
  noWinner : ¬ (gameType = 3 ∨ gameType = 4) → ranking.winningTeam = none
  /-- In a points race the strictly larger total wins. -/
  winner : ∀ {team other : ResultTeam}, gameType = 3 → team ≠ other →
    ranking.total racers other < ranking.total racers team → ranking.winningTeam = some team
  /-- On equal totals, and always in a race for the first place, its team wins. -/
  first : ∀ {racer : Racer} {ranked : RankedRaceResult}, racer ∈ racers →
    ranking.byPlayerId.lookup racer.2.1 = some ranked → ranked.rank = 0 →
    (gameType = 3 ∧ ranking.total racers .red = ranking.total racers .blue) ∨ gameType = 4 →
    ranking.winningTeam = some racer.team

end SettlementRanking

/-! ## The loop -/

/-- The loop of `settlement_ranking` over racers that all have a team. -/
def scoreRacers (teamMode : Bool) :
    List Racer → Nat → RankingProgress → RankingProgress
  | [], _, progress => progress
  | racer :: rest, rank, progress =>
    let ranked := racer.scored teamMode rank
    scoreRacers teamMode rest (rank + 1) {
      redScore := progress.redScore + teamShare .red (some ranked)
      blueScore := progress.blueScore + teamShare .blue (some ranked)
      byPlayerId := progress.byPlayerId.insert racer.2.1 ranked }

variable {teamMode : Bool} {n rank : Nat} {racers : List Racer}
  {progress progress' : RankingProgress}

theorem rankedTeam_ok {racer : Racer} (h : teamMode = true → racer.Teamed) :
    rankedTeam teamMode racer.2.2 = .ok (if teamMode then some racer.team else none) := by
  unfold rankedTeam
  cases teamMode with
  | false => rfl
  | true =>
    unfold resultTeamFromWire Racer.team
    rcases h rfl with h1 | h2
    · rw [h1]
      rfl
    · rw [h2]
      rfl

theorem rankedTeam_teamed {racer : Racer} {team : Option ResultTeam}
    (h : rankedTeam teamMode racer.2.2 = .ok team) : teamMode = true → racer.Teamed := by
  intro hmode
  unfold rankedTeam resultTeamFromWire at h
  rw [hmode, if_pos rfl] at h
  by_cases h1 : racer.2.2 = 1
  · exact .inl h1
  · by_cases h2 : racer.2.2 = 2
    · exact .inr h2
    · rw [if_neg h1, if_neg h2] at h
      exact absurd h (by simp [Except.map])

/-- Every place of a full room has points. -/
theorem teamPointsAt_ok {racer : Racer} (h : rank < 8) :
    teamPointsAt teamMode racer.1 rank n =
      .ok (if teamMode = true ∧ racer.Finished then teamPointsByRank.getD rank 0 else 0) := by
  unfold teamPointsAt Racer.Finished
  by_cases hc : teamMode = true ∧ racer.1 ≠ u32Max
  · have hlength : rank < teamPointsByRank.length := h
    rw [if_pos hc, if_pos hc, List.getD_eq_getElem?_getD, List.getElem?_eq_getElem hlength]
    rfl
  · rw [if_neg hc, if_neg hc]

theorem rankRacers_eq (hlength : rank + racers.length ≤ 8)
    (hteams : teamMode = true → ∀ racer ∈ racers, racer.Teamed) :
    rankRacers teamMode n racers rank progress = .ok (scoreRacers teamMode racers rank progress) := by
  induction racers generalizing rank progress with
  | nil => rfl
  | cons racer rest ih =>
    have hrank : rank < 8 := by
      rw [List.length_cons] at hlength
      omega
    have hrest : rank + 1 + rest.length ≤ 8 := by
      rw [List.length_cons] at hlength
      omega
    have hteam : rankedTeam teamMode racer.2.2 = .ok (if teamMode then some racer.team else none) :=
      rankedTeam_ok fun hm => hteams hm racer List.mem_cons_self
    have hpoints : teamPointsAt teamMode racer.1 rank n =
        .ok (if teamMode = true ∧ racer.Finished then teamPointsByRank.getD rank 0 else 0) :=
      teamPointsAt_ok hrank
    obtain ⟨finishTime, playerId, wireTeam⟩ := racer
    unfold rankRacers
    rw [hteam]
    dsimp only
    rw [hpoints]
    exact ih hrest fun hm racer hracer => hteams hm racer (List.mem_cons_of_mem _ hracer)

/-- A ranking that is made has a team for every racer of a team race. -/
theorem rankRacers_teamed (h : rankRacers teamMode n racers rank progress = .ok progress') :
    teamMode = true → ∀ racer ∈ racers, racer.Teamed := by
  intro hmode
  induction racers generalizing rank progress with
  | nil => exact fun racer hracer => absurd hracer List.not_mem_nil
  | cons first rest ih =>
    obtain ⟨finishTime, playerId, wireTeam⟩ := first
    unfold rankRacers at h
    split at h
    next => exact absurd h (by simp)
    next team hteam =>
      split at h
      next => exact absurd h (by simp)
      next points _ =>
        intro racer hracer
        rcases List.mem_cons.mp hracer with rfl | hracer
        · exact rankedTeam_teamed hteam hmode
        · exact ih h racer hracer

/-- The loop gives the `k`th racer the line of place `rank + k`, nobody else one, and adds up
what the lines give the teams. -/
theorem scoreRacers_spec (hn : (racers.map fun r => r.2.1).Nodup) :
    (∀ playerId, playerId ∉ racers.map (fun r => r.2.1) →
      (scoreRacers teamMode racers rank progress).byPlayerId.lookup playerId =
        progress.byPlayerId.lookup playerId) ∧
    (∀ (k : Nat) (racer : Racer), racers[k]? = some racer →
      (scoreRacers teamMode racers rank progress).byPlayerId.lookup racer.2.1 =
        some (racer.scored teamMode (rank + k))) ∧
    (scoreRacers teamMode racers rank progress).redScore = progress.redScore +
      (racers.map fun racer => teamShare .red
        ((scoreRacers teamMode racers rank progress).byPlayerId.lookup racer.2.1)).sum ∧
    (scoreRacers teamMode racers rank progress).blueScore = progress.blueScore +
      (racers.map fun racer => teamShare .blue
        ((scoreRacers teamMode racers rank progress).byPlayerId.lookup racer.2.1)).sum := by
  induction racers generalizing rank progress with
  | nil => exact ⟨fun _ _ => rfl, fun k racer hk => absurd hk (by simp), by simp [scoreRacers],
      by simp [scoreRacers]⟩
  | cons first rest ih =>
    obtain ⟨hfirst, hrest⟩ := List.nodup_cons.mp hn
    unfold scoreRacers
    dsimp only
    obtain ⟨hother, hplaces, hred, hblue⟩ := @ih (rank + 1)
      ⟨progress.redScore + teamShare .red (some (first.scored teamMode rank)),
        progress.blueScore + teamShare .blue (some (first.scored teamMode rank)),
        progress.byPlayerId.insert first.2.1 (first.scored teamMode rank)⟩ hrest
    generalize scoreRacers teamMode rest (rank + 1) _ = final at hother hplaces hred hblue ⊢
    -- the first racer is not ranked again
    have hline : final.byPlayerId.lookup first.2.1 = some (first.scored teamMode rank) := by
      rw [hother _ hfirst]
      exact (Map.lookup_insert_ite _ _ _ _).trans (if_pos rfl)
    refine ⟨fun playerId hp => ?_, fun k racer hk => ?_, ?_, ?_⟩
    · have hne : playerId ≠ first.2.1 := fun he => hp (by rw [he]; exact List.mem_cons_self)
      rw [hother playerId fun hm => hp (List.mem_cons_of_mem _ hm)]
      exact (Map.lookup_insert_ite _ _ _ _).trans (if_neg hne)
    · cases k with
      | zero =>
        cases hk
        exact hline
      | succ k =>
        rw [hplaces k racer hk, Nat.add_assoc, Nat.add_comm 1 k]
    · rw [hred, List.map_cons, List.sum_cons, hline]
      dsimp only
      omega
    · rw [hblue, List.map_cons, List.sum_cons, hline]
      dsimp only
      omega

/-! ## The lines of a ranking -/

/-- The lines of the racers, by their places. -/
structure Lines (teamMode : Bool) (order : List Racer) (byPlayerId : Map Int RankedRaceResult) :
    Prop where
  other : ∀ playerId, playerId ∉ order.map (fun r => r.2.1) → byPlayerId.lookup playerId = none
  place : ∀ (k : Nat) (racer : Racer), order[k]? = some racer →
    byPlayerId.lookup racer.2.1 = some (racer.scored teamMode k)

theorem scoreRacers_lines {order : List Racer} (hn : (order.map fun r => r.2.1).Nodup) :
    Lines teamMode order (scoreRacers teamMode order 0 ⟨0, 0, ∅⟩).byPlayerId := by
  obtain ⟨hother, hplaces, _, _⟩ := scoreRacers_spec hn
  refine ⟨fun playerId hp => hother playerId hp, fun k racer hk => ?_⟩
  have hplace := hplaces k racer hk
  rw [Nat.zero_add] at hplace
  exact hplace

namespace Lines

variable {order : List Racer} {byPlayerId : Map Int RankedRaceResult}

theorem scored (h : Lines teamMode order byPlayerId) {racer : Racer} (hr : racer ∈ order) :
    ∃ k, order[k]? = some racer ∧ byPlayerId.lookup racer.2.1 = some (racer.scored teamMode k) := by
  obtain ⟨k, hk⟩ := List.mem_iff_getElem?.mp hr
  exact ⟨k, hk, h.place k racer hk⟩

theorem listed (h : Lines teamMode order byPlayerId) (playerId : Int) :
    (byPlayerId.lookup playerId).isSome ↔ ∃ racer ∈ order, racer.2.1 = playerId := by
  constructor
  · intro hsome
    by_contra hno
    rw [h.other playerId fun hm => hno (List.mem_map.mp hm)] at hsome
    exact absurd hsome (by simp)
  · intro ⟨racer, hr, hid⟩
    obtain ⟨k, _, hline⟩ := h.scored hr
    rw [← hid, hline]
    rfl

theorem ranks (h : Lines teamMode order byPlayerId) :
    order.map (fun racer => (byPlayerId.lookup racer.2.1).map (·.rank)) =
      (List.range order.length).map fun k : Nat => some (k : Int) := by
  refine List.ext_getElem (by simp) fun k hk _ => ?_
  have hlt : k < order.length := by simpa using hk
  rw [List.getElem_map, List.getElem_map, List.getElem_range,
    h.place k order[k] (List.getElem?_eq_getElem hlt)]
  rfl

/-- Places compare as the keys of distinct racers do. -/
theorem rank_lt_iff (h : Lines teamMode order byPlayerId)
    (hsorted : order.Pairwise fun a b => a.key ≤ b.key)
    (hn : (order.map fun r => r.2.1).Nodup) {a b : Racer} {ra rb : RankedRaceResult}
    (ha : a ∈ order) (hb : b ∈ order) (hra : byPlayerId.lookup a.2.1 = some ra)
    (hrb : byPlayerId.lookup b.2.1 = some rb) : ra.rank < rb.rank ↔ a.key < b.key := by
  have hmono : ∀ {k l : Nat} {x y : Racer}, order[k]? = some x → order[l]? = some y → k < l →
      x.key < y.key := by
    intro k l x y hx hy hlt
    obtain ⟨hk, rfl⟩ := List.getElem?_eq_some_iff.mp hx
    obtain ⟨hl, rfl⟩ := List.getElem?_eq_some_iff.mp hy
    refine lt_of_le_of_ne (List.pairwise_iff_getElem.mp hsorted k l hk hl hlt) fun hkey => ?_
    -- equal keys mean equal ids, at two places
    have hid : order[k].2.1 = order[l].2.1 := (Prod.ext_iff.mp (toLex_inj.mp hkey)).2
    have hsame := List.inj_on_of_nodup_map hn (List.getElem_mem hk) (List.getElem_mem hl) hid
    have hplaces : k = l := (hn.of_map _).getElem_inj_iff.mp hsame
    omega
  obtain ⟨k, hk, hak⟩ := h.scored ha
  obtain ⟨l, hl, hbl⟩ := h.scored hb
  rw [hra] at hak
  rw [hrb] at hbl
  rw [Option.some.inj hak, Option.some.inj hbl]
  show ((k : Nat) : Int) < (l : Nat) ↔ _
  rw [Int.ofNat_lt]
  constructor
  · exact hmono hk hl
  · intro hkey
    rcases Nat.lt_trichotomy k l with hlt | heq | hgt
    · exact hlt
    · rw [heq, hl] at hk
      rw [Option.some.inj hk] at hkey
      exact absurd hkey (lt_irrefl _)
    · exact absurd (hmono hl hk hgt) (not_lt.mpr hkey.le)

/-- Only the first racer has rank zero. -/
theorem first (h : Lines teamMode order byPlayerId) {racer : Racer} {ranked : RankedRaceResult}
    (hr : racer ∈ order) (hranked : byPlayerId.lookup racer.2.1 = some ranked)
    (hzero : ranked.rank = 0) : order.head? = some racer := by
  obtain ⟨k, hk, hline⟩ := h.scored hr
  rw [hranked] at hline
  rw [Option.some.inj hline] at hzero
  have hk0 : k = 0 := Int.ofNat.inj hzero
  rw [hk0] at hk
  rw [List.head?_eq_getElem?]
  exact hk

end Lines

/-! ## The order of the roster -/

/-- Racers of distinct ids are sorted in one way only. -/
theorem sortRacers_congr {racers' : List Racer} (hp : racers'.Perm racers)
    (hn : (racers.map fun r => r.2.1).Nodup) :
    sortByKey Racer.key racers' = sortByKey Racer.key racers := by
  have hperm : (sortByKey Racer.key racers').Perm (sortByKey Racer.key racers) :=
    (sortByKey_perm _ _).trans (hp.trans (sortByKey_perm _ _).symm)
  refine List.Perm.eq_of_pairwise (fun a b ha hb hab hba => ?_)
    (sortByKey_pairwise _ _) (sortByKey_pairwise _ _) hperm
  -- the key contains the id, and no id occurs twice
  have hid : a.2.1 = b.2.1 := (Prod.ext_iff.mp (toLex_inj.mp (le_antisymm hab hba))).2
  have ha' : a ∈ racers := hp.mem_iff.mp (mem_sortByKey.mp ha)
  exact List.inj_on_of_nodup_map hn ha' (mem_sortByKey.mp hb) hid

namespace ProtocolRoomState

variable {room room' : ProtocolRoomState} {frozen frozen' : FrozenRaceRoster}
  {ranking : SettlementRanking}

theorem finishedRacers_ids (room : ProtocolRoomState) (frozen : FrozenRaceRoster) :
    (room.finishedRacers frozen).map (fun r => r.2.1) = frozen.racers.map Prod.fst := by
  unfold finishedRacers
  rw [List.map_map]
  rfl

theorem finishedRacers_perm (hp : frozen'.participants.Perm frozen.participants)
    (ha : frozen'.ais.Perm frozen.ais)
    (ht : room'.raceProgress.finishTimes = room.raceProgress.finishTimes) :
    (room'.finishedRacers frozen').Perm (room.finishedRacers frozen) := by
  unfold finishedRacers FrozenRaceRoster.racers
  rw [ht]
  exact (((hp.filter _).map _).append (ha.map _)).map _

/-- The ranking does not depend on the order of the roster. -/
theorem settlementRanking_perm (hf : room.frozenRace = some frozen)
    (hf' : room'.frozenRace = some frozen') (hn : (frozen.racers.map Prod.fst).Nodup)
    (hp : frozen'.participants.Perm frozen.participants) (ha : frozen'.ais.Perm frozen.ais)
    (ht : room'.raceProgress.finishTimes = room.raceProgress.finishTimes)
    (hg : room'.settings.gameType = room.settings.gameType) :
    room'.settlementRanking = room.settlementRanking := by
  have hracers := finishedRacers_perm hp ha ht
  have hsorted := sortRacers_congr hracers (finishedRacers_ids room frozen ▸ hn)
  have hmode : room'.teamMode = room.teamMode := by
    unfold teamMode
    rw [hg]
  unfold settlementRanking
  rw [hf, hf']
  dsimp only
  rw [hsorted, hracers.length_eq, hmode, hg]

/-! ## The ranking -/

/-- The winning team of racers who all have a team. -/
def winnerOf (gameType : Nat) (first : Racer) (progress : RankingProgress) : ResultTeam :=
  if gameType = 3 ∧ progress.redScore > progress.blueScore then .red
  else if gameType = 3 ∧ progress.blueScore > progress.redScore then .blue
  else first.team

theorem winningTeam_eq {gameType : Nat} {first : Racer} {rest : List Racer}
    (hline : progress.byPlayerId.lookup first.2.1 = some (first.scored true 0)) :
    winningTeam gameType (first :: rest) progress = .ok (winnerOf gameType first progress) := by
  obtain ⟨finishTime, playerId, wireTeam⟩ := first
  unfold winningTeam winnerOf
  dsimp only [List.head?_cons]
  rw [hline]
  simp only [Option.bind_some, Racer.scored, ↓reduceIte]
  by_cases hred : gameType = 3 ∧ progress.redScore > progress.blueScore
  · rw [if_pos hred, if_pos hred]
  · rw [if_neg hred, if_neg hred]
    by_cases hblue : gameType = 3 ∧ progress.blueScore > progress.redScore
    · rw [if_pos hblue, if_pos hblue]
    · rw [if_neg hblue, if_neg hblue]

/-- The ranking of a roster whose racers all have a team. -/
theorem settlementRanking_eq (hf : room.frozenRace = some frozen) {first : Racer}
    {rest : List Racer}
    (hsorted : sortByKey Racer.key (room.finishedRacers frozen) = first :: rest)
    (hsize : (first :: rest).length ≤ roomSlotCount)
    (hn : ((first :: rest).map fun r => r.2.1).Nodup)
    (hteams : room.teamMode = true → ∀ racer ∈ first :: rest, racer.Teamed) :
    room.settlementRanking = .ok
      ⟨if room.teamMode then some (winnerOf room.settings.gameType first
          (scoreRacers room.teamMode (first :: rest) 0 ⟨0, 0, ∅⟩)) else none,
        (scoreRacers room.teamMode (first :: rest) 0 ⟨0, 0, ∅⟩).byPlayerId⟩ := by
  have hlength : (room.finishedRacers frozen).length = (first :: rest).length := by
    rw [← hsorted, (sortByKey_perm _ _).length_eq]
  have hline : (scoreRacers room.teamMode (first :: rest) 0 ⟨0, 0, ∅⟩).byPlayerId.lookup first.2.1 =
      some (first.scored room.teamMode 0) := (scoreRacers_spec hn).2.1 0 first rfl
  unfold settlementRanking
  rw [hf]
  dsimp only
  rw [hlength, if_pos ⟨by rw [List.length_cons]; omega, hsize⟩, hsorted,
    rankRacers_eq (by rw [Nat.zero_add]; exact hsize) hteams]
  dsimp only
  cases hmode : room.teamMode with
  | false => rfl
  | true =>
    rw [hmode] at hline
    rw [if_pos rfl, winningTeam_eq hline]
    rfl

/-- A race has its first racer. -/
theorem sorted_cons {racers : List Racer} (h : 1 ≤ racers.length) :
    ∃ first rest, sortByKey Racer.key racers = first :: rest := by
  cases hs : sortByKey Racer.key racers with
  | nil =>
    have hlength := (sortByKey_perm Racer.key racers).length_eq
    rw [hs, List.length_nil] at hlength
    omega
  | cons first rest => exact ⟨first, rest, rfl⟩

theorem settlementRanking_settles (hf : room.frozenRace = some frozen)
    (hlow : 1 ≤ frozen.racers.length) (hhigh : frozen.racers.length ≤ roomSlotCount)
    (hn : (frozen.racers.map Prod.fst).Nodup) (h : room.settlementRanking = .ok ranking) :
    ranking.Settles room.settings.gameType (room.finishedRacers frozen) := by
  have hids := finishedRacers_ids room frozen
  have hcount : (room.finishedRacers frozen).length = frozen.racers.length := List.length_map _
  obtain ⟨first, rest, hsorted⟩ := sorted_cons (hcount ▸ hlow)
  have hperm : (first :: rest).Perm (room.finishedRacers frozen) :=
    hsorted ▸ sortByKey_perm Racer.key (room.finishedRacers frozen)
  have hnodup : ((first :: rest).map fun r => r.2.1).Nodup :=
    ((hperm.map fun r => r.2.1).nodup_iff).mpr (hids ▸ hn)
  have hteams : room.teamMode = true → ∀ racer ∈ first :: rest, racer.Teamed := by
    obtain ⟨roster, progress, hroster, hranked, _⟩ := settlementRanking_ok h
    rw [hf] at hroster
    rw [← Option.some.inj hroster, hsorted] at hranked
    exact rankRacers_teamed hranked
  have heq := settlementRanking_eq hf hsorted (by rw [hperm.length_eq, hcount]; exact hhigh)
    hnodup hteams
  rw [h] at heq
  have hranking := Except.ok.inj heq
  have hlines : Lines room.teamMode (first :: rest) ranking.byPlayerId := by
    rw [hranking]
    exact scoreRacers_lines hnodup
  have hmode : room.teamMode =
      decide (room.settings.gameType = 3 ∨ room.settings.gameType = 4) := rfl
  obtain ⟨_, _, hred, hblue⟩ := scoreRacers_spec hnodup
  have htotal : ∀ team, ranking.total (room.finishedRacers frozen) team =
      ((first :: rest).map fun racer => teamShare team (ranking.byPlayerId.lookup racer.2.1)).sum :=
    fun team => ((hperm.map _).sum_eq).symm
  have hwinner : room.settings.gameType = 3 ∨ room.settings.gameType = 4 →
      ranking.winningTeam = some (winnerOf room.settings.gameType first
        (scoreRacers room.teamMode (first :: rest) 0 ⟨0, 0, ∅⟩)) := by
    intro hgame
    rw [hranking]
    exact if_pos (by rw [hmode]; exact decide_eq_true hgame)
  have hreds : (scoreRacers room.teamMode (first :: rest) 0 ⟨0, 0, ∅⟩).redScore =
      ranking.total (room.finishedRacers frozen) .red := by
    rw [htotal, hranking, hred]
    exact Int.zero_add _
  have hblues : (scoreRacers room.teamMode (first :: rest) 0 ⟨0, 0, ∅⟩).blueScore =
      ranking.total (room.finishedRacers frozen) .blue := by
    rw [htotal, hranking, hblue]
    exact Int.zero_add _
  have hordered : ∀ {a b : Racer} {ra rb : RankedRaceResult}, a ∈ room.finishedRacers frozen →
      b ∈ room.finishedRacers frozen → ranking.byPlayerId.lookup a.2.1 = some ra →
      ranking.byPlayerId.lookup b.2.1 = some rb → (ra.rank < rb.rank ↔ a.key < b.key) := by
    intro a b ra rb ha hb hra hrb
    exact hlines.rank_lt_iff (hsorted ▸ sortByKey_pairwise _ _) hnodup (hperm.mem_iff.mpr ha)
      (hperm.mem_iff.mpr hb) hra hrb
  refine ⟨fun playerId => ?_, ?_, hordered, ?_, ?_, ?_, ?_, ?_⟩
  · rw [hlines.listed]
    simp only [hperm.mem_iff]
  · rw [← hperm.length_eq, ← hlines.ranks]
    exact hperm.symm.map _
  · intro a b ra rb ha hb hra hrb hfinished hout
    refine (hordered ha hb hra hrb).mpr (Prod.Lex.toLex_lt_toLex.mpr (.inl ?_))
    rw [not_not.mp hout]
    exact hfinished
  · intro racer hr
    obtain ⟨k, _, hline⟩ := hlines.scored (hperm.mem_iff.mpr hr)
    exact ⟨k, hline⟩
  · intro hgame
    rw [hranking]
    exact if_neg (by rw [hmode, decide_eq_true_iff]; exact hgame)
  · intro team other hgame hne hlt
    rw [hwinner (.inl hgame)]
    unfold winnerOf
    rw [hreds, hblues]
    cases team with
    | red =>
      have hother : other = .blue := by
        cases other with
        | red => exact absurd rfl hne
        | blue => rfl
      rw [hother] at hlt
      rw [if_pos ⟨hgame, hlt⟩]
    | blue =>
      have hother : other = .red := by
        cases other with
        | red => rfl
        | blue => exact absurd rfl hne
      rw [hother] at hlt
      rw [if_neg fun h => absurd h.2 (not_lt.mpr hlt.le), if_pos ⟨hgame, hlt⟩]
  · intro racer ranked hr hranked hzero hcase
    have hfirst : racer = first := by
      have hhead := hlines.first (hperm.mem_iff.mpr hr) hranked hzero
      exact (Option.some.inj hhead).symm
    rw [hwinner (hcase.imp_left And.left), hfirst]
    unfold winnerOf
    rw [hreds, hblues]
    rcases hcase with ⟨_, heq⟩ | hgame
    · rw [heq, if_neg fun h => absurd h.2 (lt_irrefl _), if_neg fun h => absurd h.2 (lt_irrefl _)]
    · rw [hgame, if_neg (by simp), if_neg (by simp)]

/-- **The results of a race.** A frozen roster of one to eight racers with distinct ids is ranked
unless it is a team race in which someone has no team; the ranking is that of the finish times
(`Settles`), and the order of the roster does not matter to it. -/
theorem settlement_results (hf : room.frozenRace = some frozen)
    (hlow : 1 ≤ frozen.racers.length) (hhigh : frozen.racers.length ≤ roomSlotCount)
    (hn : (frozen.racers.map Prod.fst).Nodup) :
    ((∃ ranking, room.settlementRanking = .ok ranking) ↔
      (room.teamMode = true → ∀ racer ∈ room.finishedRacers frozen, racer.Teamed)) ∧
    (∀ ranking, room.settlementRanking = .ok ranking →
      ranking.Settles room.settings.gameType (room.finishedRacers frozen)) ∧
    (∀ (room' : ProtocolRoomState) (frozen' : FrozenRaceRoster), room'.frozenRace = some frozen' →
      frozen'.participants.Perm frozen.participants → frozen'.ais.Perm frozen.ais →
      room'.raceProgress.finishTimes = room.raceProgress.finishTimes →
      room'.settings.gameType = room.settings.gameType →
      room'.settlementRanking = room.settlementRanking) := by
  have hcount : (room.finishedRacers frozen).length = frozen.racers.length := List.length_map _
  obtain ⟨first, rest, hsorted⟩ := sorted_cons (hcount ▸ hlow)
  have hperm : (first :: rest).Perm (room.finishedRacers frozen) :=
    hsorted ▸ sortByKey_perm Racer.key (room.finishedRacers frozen)
  refine ⟨⟨fun ⟨ranking, h⟩ hmode racer hr => ?_, fun hteams => ?_⟩,
    fun ranking h => settlementRanking_settles hf hlow hhigh hn h,
    fun room' frozen' hf' hp ha ht hg => settlementRanking_perm hf hf' hn hp ha ht hg⟩
  · obtain ⟨roster, progress, hroster, hranked, _⟩ := settlementRanking_ok h
    rw [hf] at hroster
    rw [← Option.some.inj hroster] at hranked
    exact rankRacers_teamed hranked hmode racer (mem_sortByKey.mpr hr)
  · have hnodup : ((first :: rest).map fun r => r.2.1).Nodup :=
      ((hperm.map fun r => r.2.1).nodup_iff).mpr (finishedRacers_ids room frozen ▸ hn)
    exact ⟨_, settlementRanking_eq hf hsorted (by rw [hperm.length_eq, hcount]; exact hhigh)
      hnodup fun hm racer hr => hteams hm racer (hperm.mem_iff.mp hr)⟩

/-! ## A race -/

theorem sampleEpoch_pos : 0 < 1 := by decide

theorem sampleEpoch_bounded : 1 ≤ u64Max := by decide

theorem sampleRacer_pos : 0 < 2 := by decide

theorem sampleRacer_bounded : 2 ≤ u32Max := by decide

/-- A human of the red team and an AI of the blue one, of whom only the AI finished. -/
def sampleRoster : FrozenRaceRoster where
  fence := ⟨⟨1⟩, ⟨1, sampleEpoch_pos, sampleEpoch_bounded⟩⟩
  concreteTrack := 5
  participants :=
    [⟨⟨[], ⟨2, sampleRacer_pos, sampleRacer_bounded⟩, ⟨1⟩, ⟨1⟩, .v4 5, none⟩, [], 0, false, 1, none⟩]
  ais := [⟨1, 2, 0⟩]

def sampleRace : ProtocolRoomState :=
  { ProtocolRoomState.new ⟨1⟩ ⟨⟨0, 3⟩, [], [], 3, 0, 5, 0, []⟩ with
    frozenRace := some sampleRoster
    raceProgress := ⟨(∅ : Map Int Nat).insert 1 4000, none, []⟩ }

theorem sampleRace_results : ∃ ranking, sampleRace.settlementRanking = .ok ranking ∧
    ranking.Settles 3 (sampleRace.finishedRacers sampleRoster) := by
  have hresults := settlement_results (show sampleRace.frozenRace = some sampleRoster from rfl)
    (by decide) (by decide) (by decide)
  obtain ⟨ranking, hranking⟩ := hresults.1.mpr fun _ racer hracer => by
    revert racer
    decide
  exact ⟨ranking, hranking, hresults.2.1 ranking hranking⟩

end ProtocolRoomState

end P4475
