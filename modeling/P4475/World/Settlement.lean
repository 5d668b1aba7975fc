import P4475.World.Room
import P4475.World.Errors

/-!
# Settling a race

The ranking that a Settling room freezes from its roster and the finish times,
the packets of the ceremony, and what the ranking then does to the members who
are still there: their next grid positions and the next lobby master.
-/

namespace P4475

open Lib

/-- `TEAM_POINTS_BY_RANK`. -/
def teamPointsByRank : List Int := [10, 8, 6, 5, 4, 3, 2, 1]

/-- `FINAL_STAGE_TICK_LEAD`. -/
def finalStageTickLead : Nat := 6000

/-- `u32::wrapping_add`. -/
def wrappingAdd32 (a b : Nat) : Nat := (a + b) % 2 ^ 32

/-- `race_team_from_wire` and `result_team`. -/
def resultTeamFromWire (team : Nat) : Except RaceError ResultTeam :=
  if team = 1 then .ok .red
  else if team = 2 then .ok .blue
  else .error (.invalidFrozenTeam team)

namespace FrozenRaceRoster

/-- The racers of a roster: humans who are not observers, then AIs. -/
def racers (roster : FrozenRaceRoster) : List (Int × Nat) :=
  ((roster.participants.filter (!·.observer)).map fun p => (p.playerId, p.team)) ++
    roster.ais.map fun ai => (ai.playerId, ai.team)

/-- The humans of a roster who race. -/
def humans (roster : FrozenRaceRoster) : List FrozenRaceParticipant :=
  roster.participants.filter (!·.observer)

end FrozenRaceRoster

/-- A racer on the way into the ranking: finish time, player id, wire team. -/
abbrev Racer := Nat × Int × Nat

/-- Racers sort by finish time, ties by player id. -/
def Racer.key (racer : Racer) : Nat ×ₗ Int := toLex (racer.1, racer.2.1)

/-- What the loop of `settlement_ranking` carries. -/
structure RankingProgress where
  redScore : Int
  blueScore : Int
  byPlayerId : Map Int RankedRaceResult

/-- `team_points` of a rank. -/
def teamPointsAt (teamMode : Bool) (finishTime rank racers : Nat) : Except RaceError Int :=
  if teamMode = true ∧ finishTime ≠ u32Max then
    match teamPointsByRank[rank]? with
    | some points => .ok points
    | none => .error (.invalidSettlementRoster racers)
  else .ok 0

/-- `team_mode.then(|| ..).transpose()`. -/
def rankedTeam (teamMode : Bool) (wireTeam : Nat) : Except RaceError (Option ResultTeam) :=
  if teamMode then (resultTeamFromWire wireTeam).map some else .ok none

/-- The loop of `settlement_ranking`, from a rank on. -/
def rankRacers (teamMode : Bool) (racers : Nat) :
    List Racer → Nat → RankingProgress → Except RaceError RankingProgress
  | [], _, progress => .ok progress
  | (finishTime, playerId, wireTeam) :: rest, rank, progress =>
    match rankedTeam teamMode wireTeam with
    | .error e => .error e
    | .ok team =>
      match teamPointsAt teamMode finishTime rank racers with
      | .error e => .error e
      | .ok points =>
        rankRacers teamMode racers rest (rank + 1) {
          redScore := progress.redScore + if team = some .red then points else 0
          blueScore := progress.blueScore + if team = some .blue then points else 0
          byPlayerId := progress.byPlayerId.insert playerId ⟨finishTime, rank, team, points⟩ }

/-- The winning team of a team race. -/
def winningTeam (gameType : Nat) (racers : List Racer) (progress : RankingProgress) :
    Except RaceError ResultTeam :=
  match racers.head? with
  | none => .error (.invalidSettlementRoster 0)
  | some (_, firstPlayerId, _) =>
    match (progress.byPlayerId.lookup firstPlayerId).bind (·.team) with
    | none => .error (.settlementInvariant "team-mode winner has no frozen team")
    | some firstTeam =>
      if gameType = 3 ∧ progress.redScore > progress.blueScore then .ok .red
      else if gameType = 3 ∧ progress.blueScore > progress.redScore then .ok .blue
      else .ok firstTeam

namespace ProtocolRoomState

/-- The roster's racers with their finish times, `u32::MAX` for one who has none. -/
def finishedRacers (room : ProtocolRoomState) (frozen : FrozenRaceRoster) : List Racer :=
  frozen.racers.map fun (playerId, team) =>
    ((room.raceProgress.finishTimes.lookup playerId).getD u32Max, playerId, team)

/-- `settlement_ranking`. -/
def settlementRanking (room : ProtocolRoomState) : Except RaceError SettlementRanking :=
  match room.frozenRace with
  | none => .error (.settlementInvariant "settlement ranking has no frozen race roster")
  | some frozen =>
    let racers := room.finishedRacers frozen
    if 1 ≤ racers.length ∧ racers.length ≤ roomSlotCount then
      let racers := sortByKey Racer.key racers
      match rankRacers room.teamMode racers.length racers 0 ⟨0, 0, ∅⟩ with
      | .error e => .error e
      | .ok progress =>
        if room.teamMode then
          (winningTeam room.settings.gameType racers progress).map fun team =>
            ⟨some team, progress.byPlayerId⟩
        else .ok ⟨none, progress.byPlayerId⟩
    else .error (.invalidSettlementRoster racers.length)

/-! ## The ceremony's packets -/

/-- The result line of a human. -/
def humanResult (teamMode : Bool) (ranking : SettlementRanking)
    (participant : FrozenRaceParticipant) : Except RaceError HumanRaceResult :=
  match ranking.byPlayerId.lookup participant.playerId with
  | none => .error (.settlementInvariant "human result is missing from frozen ranking")
  | some ranked =>
    match participant.result with
    | none => .error (.settlementInvariant "human racer has no result admission snapshot")
    | some snapshot =>
      match snapshot.economy.applied? with
      | none => .error .rewardsNotDurable
      | some economy => .ok {
          playerId := participant.playerId
          finishTime := ranked.finishTime
          kartId := snapshot.kartId
          rank := ranked.rank
          currentRp := economy.currentRp
          earnedRp := economy.earnedRp
          earnedLucci := economy.earnedLucci
          currentLucci := economy.currentLucci
          team := if teamMode then ranked.team else none
          teamPoints := ranked.teamPoints
          characterId := snapshot.characterId
          clubMarkLogo := snapshot.clubMarkLogo }

/-- The result line of an AI. -/
def aiResult (teamMode : Bool) (ranking : SettlementRanking) (ai : FrozenAiRaceParticipant) :
    Except RaceError AiRaceResult :=
  match ranking.byPlayerId.lookup ai.playerId with
  | none => .error (.settlementInvariant "AI result is missing from frozen ranking")
  | some ranked => .ok {
      playerId := ai.playerId
      finishTime := ranked.finishTime
      kartId := ai.kartId
      rank := ranked.rank
      team := if teamMode then ranked.team else none
      teamPoints := ranked.teamPoints }

/-- `serialize_settlement_result`. -/
def serializeSettlementResult (wire : Wire) (room : ProtocolRoomState)
    (ranking : SettlementRanking) : Except RaceError Packet :=
  match room.frozenRace with
  | none => .error (.settlementInvariant "Settling room has no frozen race roster")
  | some frozen =>
    match frozen.humans.mapM (humanResult room.teamMode ranking) with
    | .error e => .error e
    | .ok humans =>
      match frozen.ais.mapM (aiResult room.teamMode ranking) with
      | .error e => .error e
      | .ok ais =>
        (wire.serialize (.gameResult ⟨ranking.winningTeam, humans, ais⟩)).mapError .protocol

/-- `settlement_packets`. -/
def settlementPackets (wire : Wire) (room : ProtocolRoomState) (ranking : SettlementRanking) :
    Except RaceError (List Packet) :=
  match room.raceProgress.settlement with
  | none => .error (.settlementInvariant "Settling room has no settlement timing")
  | some settlement =>
    (room.serializeSettlementResult wire ranking).map fun result =>
      [.gameControl .finalStage (wrappingAdd32 settlement.endTick finalStageTickLead),
        .gameNextStage room.settings.gameType, result]

/-! ## Back to the lobby -/

/-- The frozen rank of a member; `0` for one the ranking does not list. -/
def frozenRank (ranking : SettlementRanking) (i : Fin 8) : Int :=
  (ranking.byPlayerId.lookup (memberPlayerId i)).elim 0 (·.rank)

/-- The frozen finish time of a member; `0` for one the ranking does not list. -/
def frozenFinishTime (ranking : SettlementRanking) (i : Fin 8) : Nat :=
  (ranking.byPlayerId.lookup (memberPlayerId i)).elim 0 (·.finishTime)

/-- The members whom the ranking lists. -/
def rankedActive (room : ProtocolRoomState) (ranking : SettlementRanking) : List (Fin 8) :=
  room.membersById.occupied.filter fun i =>
    (ranking.byPlayerId.lookup (memberPlayerId i)).isSome

/-- `apply_next_grid_ranking`. -/
def applyNextGridRanking (room : ProtocolRoomState) (ranking : SettlementRanking) :
    ProtocolRoomState :=
  room.rerank (sortByKey (fun i => toLex (frozenRank ranking i, i)) (room.rankedActive ranking))

/-- The candidates of `apply_next_lobby_master`. -/
def masterCandidates (room : ProtocolRoomState) (ranking : SettlementRanking) : List (Fin 8) :=
  (room.rankedActive ranking).filter fun i =>
    match ranking.winningTeam, ranking.byPlayerId.lookup (memberPlayerId i) with
    | none, _ => true
    | some _, none => true
    | some winner, some ranked => ranked.team = some winner

/-- `apply_next_lobby_master`. -/
def applyNextLobbyMaster (room : ProtocolRoomState) (ranking : SettlementRanking) :
    Option Int × ProtocolRoomState :=
  if 8 ≤ room.roomMaster ∧ (room.memberByPlayerId room.roomMaster).isSome then
    (some room.roomMaster, room)
  else
    let key (i : Fin 8) := toLex (frozenRank ranking i, toLex (frozenFinishTime ranking i, i))
    match (sortByKey key (room.masterCandidates ranking)).head? with
    | none => (none, room)
    | some i => (some (memberPlayerId i), { room with roomMaster := memberPlayerId i })

/-- The fields a race leaves behind, cleared. -/
def clearRace (room : ProtocolRoomState) : ProtocolRoomState :=
  { room with
    phase := .lobby
    raceFence := none
    frozenRace := none
    raceProgress := .default
    loadingHandshake := .dormant }

/-- The room part of `abort_loading_room`. -/
def abortLoading (room : ProtocolRoomState) : ProtocolRoomState := room.clearRace.resetMembers

/-- The room part of `try_finalize_settlement`, for a room that is not empty. -/
def finalizeSettlement (room : ProtocolRoomState) (ranking : SettlementRanking) :
    ProtocolRoomState :=
  ((room.applyNextGridRanking ranking).applyNextLobbyMaster ranking).2.clearRace.resetMembers

end ProtocolRoomState

end P4475
