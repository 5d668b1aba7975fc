import P4475.World.Actor
import P4475.World.Operations

/-!
# The edits of a world

What may happen to the protocol rooms, one edit at a time: the abstract system that
the world refines. A `RoomEdit` changes one room in place; a `TableEdit` is a room
edit or one of the transactions that touch several tables; a `WorldEdit` is a table
edit or a move of the identities. A turn of the actor is a path of them, after at
most one room has been opened. `RoomMove` is the coarser view of a room edit, which
is all that the invariants of seats, grid, master and race depend on.
-/

namespace P4475

open Lib

/-- A roster without the results, which fill up while its race settles. -/
def FrozenRaceRoster.skeleton (roster : FrozenRaceRoster) : FrozenRaceRoster :=
  { roster with participants := roster.participants.map fun p => { p with result := none } }

/-- What each participant of a roster has been paid. -/
def FrozenRaceRoster.economies (roster : FrozenRaceRoster) :
    List (Option FrozenResultEconomy) :=
  roster.participants.map fun p => p.result.map (·.economy)

/-- The ranking that a finalization keeps. -/
def SettlementFinalization.ranking? : SettlementFinalization → Option SettlementRanking
  | .awaitingDeadline => none
  | .persisting ranking _ => some ranking
  | .ready ranking _ _ => some ranking
  | .failed state => state.ranking

namespace ProtocolRoomState

/-- The ranking that a settlement has planned. -/
def plannedRanking? (room : ProtocolRoomState) : Option SettlementRanking :=
  room.finalization?.bind (·.ranking?)

/-! ## Moves of a room -/

/-- Nobody moves, and neither the grid nor the master changes. -/
structure SameSeats (room room' : ProtocolRoomState) : Prop extends SamePlaces room room' where
  rankings : ∀ i, (room'.membersById i).map (·.player.ranking) =
    (room.membersById i).map (·.player.ranking)
  master : room'.roomMaster = room.roomMaster

theorem startRunning_sameSeats (room : ProtocolRoomState) : room.SameSeats room.startRunning :=
  ⟨⟨rfl, rfl, fun _ => rfl, rfl, rfl, fun _ => rfl, rfl⟩, fun _ => rfl, rfl⟩

theorem beginSettlement_sameSeats (room : ProtocolRoomState) (endTick : Nat) (deadline : Instant)
    (finish : Option PendingRaceTime) (excluded : Option UserNo) :
    room.SameSeats (room.beginSettlement endTick deadline finish excluded) :=
  ⟨⟨rfl, rfl, fun _ => rfl, rfl, rfl, fun _ => rfl, rfl⟩, fun _ => rfl, rfl⟩

/-- The race goes on: a ranking is planned once, from finish times that stand. -/
structure SameRace (room room' : ProtocolRoomState) : Prop where
  phase : room'.phase = room.phase
  fence : room'.raceFence = room.raceFence
  frozen : room'.frozenRace.map FrozenRaceRoster.skeleton =
    room.frozenRace.map FrozenRaceRoster.skeleton
  settlement : room'.raceProgress.settlement.isSome = room.raceProgress.settlement.isSome
  times : ∀ {playerId time}, room'.raceProgress.finishTimes.lookup playerId = some time →
    room.raceProgress.finishTimes.lookup playerId = some time ∨ time ≤ u32Max
  planned : room.phase = .settling → ∀ ranking, room'.plannedRanking? = some ranking →
    room'.raceProgress.finishTimes = room.raceProgress.finishTimes ∧
      (room.plannedRanking? = some ranking ∨ room.settlementRanking = .ok ranking)

/-- What the commands of a lobby do to its seats. -/
inductive Reseat (room : ProtocolRoomState) : ProtocolRoomState → Prop
  | team {i current target : Fin 8} {m : ProtocolRoomMember} {team : RoomTeam}
      (mode : room.teamMode = true) (member : room.membersById i = some m)
      (current_ : room.slotPositions current = some i) (half : teamRange team target = true)
      (free : room.slotPositions target = none) :
      Reseat room (room.moveTeam i current target team)
  | master {i : Fin 8} {m : ProtocolRoomMember} (member : room.membersById i = some m) :
      Reseat room { room with roomMaster := memberPlayerId i }
  | removeAi {i slot : Fin 8} {ai : RoomAi} (ai_ : room.aisById i = some ai)
      (slot_ : room.slotPositions slot = some i) : Reseat room (room.withoutAi i slot)
  | addAi {i slot : Fin 8} {ai : RoomAi} (unused : room.Unused i)
      (free : room.slotPositions slot = none) (fits : room.Fits slot ai.team) :
      Reseat room (room.withAi i slot ai)
  | close {close : Bool} {i slot : Fin 8} (allowed : room.closeAllowed close i slot = true) :
      Reseat room (room.closePair close i slot)

/-- The coarse view of what may happen to a room in place. -/
inductive RoomMove (room : ProtocolRoomState) : ProtocolRoomState → Prop
  | touch {room' : ProtocolRoomState} (seats : room.SameSeats room')
      (race : room.SameRace room') : RoomMove room room'
  | reseat {room' : ProtocolRoomState} (lobby : room.phase = .lobby) (h : room.Reseat room') :
      RoomMove room room'
  | run (loading : room.phase = .loading) : RoomMove room room.startRunning
  | settle {endTick : Nat} {deadline : Instant} {finish : Option PendingRaceTime}
      {excluded : Option UserNo} (running : room.phase = .running) :
      RoomMove room (room.beginSettlement endTick deadline finish excluded)

/-- Any number of room moves. -/
abbrev RoomMoves := Relation.ReflTransGen RoomMove

/-! ## Edits of a room -/

/-- The race is left alone, up to what its results show of a rider. -/
structure SameCourse (room room' : ProtocolRoomState) : Prop where
  phase : room'.phase = room.phase
  fence : room'.raceFence = room.raceFence
  progress : room'.raceProgress = room.raceProgress
  frozen : room'.frozenRace.map FrozenRaceRoster.skeleton =
    room.frozenRace.map FrozenRaceRoster.skeleton
  economies : room'.frozenRace.map FrozenRaceRoster.economies =
    room.frozenRace.map FrozenRaceRoster.economies

/-- A racer of the room's race, human or AI. -/
def Racing (room : ProtocolRoomState) (playerId : Int) : Prop :=
  ∃ roster, room.frozenRace = some roster ∧ playerId ∈ roster.racers.map Prod.fst

/-- A user's entry while a settlement is persisting. -/
def rewardEntry? (room : ProtocolRoomState) (userNo : UserNo) : Option RewardPersistenceEntry :=
  room.persisting?.bind (rewardOf · userNo)

/-- A task describes the entry that it was issued for. -/
def TaskOf (room : ProtocolRoomState) (task : RewardSettlementTask)
    (entry : RewardPersistenceEntry) : Prop :=
  room.raceFence = some task.fence ∧ room.rewardEntry? task.userNo = some entry ∧
    entry.nickname = task.nickname ∧ entry.canonicalNickname = task.canonicalNickname ∧
    entry.proposedReward = task.proposedReward

/-- The steps of paying a race, on its room. `issued` is the attempt id that an issue
takes. -/
inductive RewardEdit (issued : Option RewardAttemptId) (room : ProtocolRoomState) :
    ProtocolRoomState → Prop
  | plan {unicode : Unicode} {now : Instant} {rolls : Nat → Nat × Nat}
      {settlement : SettlementState} (settling : room.phase = .settling)
      (settlement_ : room.raceProgress.settlement = some settlement)
      (due : settlement.deadline ≤ now) :
      RewardEdit issued room (room.beginRewardPersistence unicode now rolls)
  | issue {userNo : UserNo} {entry : RewardPersistenceEntry} {dueAt leaseDeadline : Instant}
      {failures : Nat} {attemptId : RewardAttemptId} (issued_ : issued = some attemptId)
      (entry_ : room.rewardEntry? userNo = some entry)
      (queued : entry.status = .queued dueAt failures) :
      RewardEdit issued room
        (room.setStatus userNo (.inFlight attemptId failures leaseDeadline))
  | requeue {task : RewardSettlementTask} {entry : RewardPersistenceEntry}
      {dueAt leaseDeadline : Instant} {failures failures' : Nat}
      (task_ : room.TaskOf task entry)
      (inFlight : entry.status = .inFlight task.attemptId failures leaseDeadline) :
      RewardEdit issued room (room.setStatus task.userNo (.queued dueAt failures'))
  | durable {task : RewardSettlementTask} {entry : RewardPersistenceEntry}
      {leaseDeadline : Instant} {failures : Nat} {applied : AppliedTimeReward}
      (task_ : room.TaskOf task entry)
      (inFlight : entry.status = .inFlight task.attemptId failures leaseDeadline)
      (result : room.hasResult task = true) :
      RewardEdit issued room (room.applyReward task applied)
  | orphan {task : RewardSettlementTask} {entry : RewardPersistenceEntry}
      {leaseDeadline : Instant} {failures : Nat} {applied : AppliedTimeReward}
      (task_ : room.TaskOf task entry)
      (inFlight : entry.status = .inFlight task.attemptId failures leaseDeadline)
      (participant : ∃ roster, room.frozenRace = some roster ∧
        ∃ p ∈ roster.participants, rewardedParticipant task p = true)
      (result : room.hasResult task = false) :
      RewardEdit issued room (room.setStatus task.userNo (.durable applied))
  | ready {wire : Wire} : RewardEdit issued room (room.prepareReadySettlement wire).2
  | fail {reason : RewardTerminalReason} {userNo : Option UserNo} {nickname : Option Text} :
      RewardEdit issued room (room.failSettlement reason userNo nickname)
  | retry {letter : RewardDeadLetter} {now : Instant} {room' : ProtocolRoomState}
      (retried : room.retryDeadLetter letter now = .ok room') : RewardEdit issued room room'

/-- What may happen to a room in place. -/
inductive RoomEdit (issued : Option RewardAttemptId) (room : ProtocolRoomState) :
    ProtocolRoomState → Prop
  | touch {room' : ProtocolRoomState} (seats : room.SameSeats room')
      (course : room.SameCourse room') : RoomEdit issued room room'
  | reseat {room' : ProtocolRoomState} (lobby : room.phase = .lobby) (h : room.Reseat room') :
      RoomEdit issued room room'
  | run (loading : room.phase = .loading) : RoomEdit issued room room.startRunning
  | first {playerId : Int} {raceTime endTick : Nat} {deadline : Instant} {packet : Packet}
      {excluded : Option UserNo} (running : room.phase = .running) (racer : room.Racing playerId)
      (new : room.raceProgress.finishTimes.lookup playerId = none)
      (bounded : raceTime ≤ u32Max) :
      RoomEdit issued room ((room.withFinish playerId raceTime).beginSettlement endTick deadline
        (some ⟨playerId, raceTime, packet⟩) excluded)
  | late {playerId : Int} {raceTime : Nat} {packet : Packet}
      (settling : room.phase = .settling) (racer : room.Racing playerId)
      (open_ : ∀ finalization, room.finalization? = some finalization →
        finalization = .awaitingDeadline)
      (new : room.raceProgress.finishTimes.lookup playerId = none)
      (bounded : raceTime ≤ u32Max) :
      RoomEdit issued room
        ((room.withFinish playerId raceTime).pushFinish ⟨playerId, raceTime, packet⟩)
  | settle {endTick : Nat} {deadline : Instant} (running : room.phase = .running) :
      RoomEdit issued room (room.beginSettlement endTick deadline none none)
  | flush : RoomEdit issued room room.clearFanouts
  | reward {room' : ProtocolRoomState} (h : room.RewardEdit issued room') :
      RoomEdit issued room room'

end ProtocolRoomState

open ProtocolRoomState

/-! ## Edits of the tables -/

/-- The frozen entry of a racer, given whom a user number stands for. -/
def FreezesRacer (active : UserNo → Option IdentityBinding) (seat : Fin 8 × ProtocolRoomMember)
    (p : FrozenRaceParticipant) : Prop :=
  active seat.2.userNo = some p.identity ∧ p.playerId = memberPlayerId seat.1 ∧
    p.observer = false ∧ p.team = seat.2.player.team ∧ p.nickname = seat.2.player.nickname

/-- The frozen entry of an observer. -/
def FreezesObserver (active : UserNo → Option IdentityBinding)
    (seat : Fin 8 × ProtocolRoomMember) (p : FrozenRaceParticipant) : Prop :=
  active seat.2.userNo = some p.identity ∧ p.playerId = observerPlayerId seat.1 ∧
    p.observer = true

/-- A roster of a room: everybody who is there, in seat order. -/
structure Freezes (active : UserNo → Option IdentityBinding) (room : ProtocolRoomState)
    (fence : RaceFence) (roster : FrozenRaceRoster) : Prop where
  fence : roster.fence = fence
  participants : ∃ racers observers, roster.participants = racers ++ observers ∧
    List.Forall₂ (FreezesRacer active) (World.numbered room.membersById) racers ∧
    List.Forall₂ (FreezesObserver active) (World.numbered room.observers) observers
  ais : roster.ais = (World.numbered room.aisById).map fun (i, ai) =>
    ⟨memberPlayerId i, ai.team, ai.kart⟩
  unpaid : ∀ p ∈ roster.humans, p.result.map (·.economy) = some .pending

/-- The transactions on the tables, besides opening a room. `active` says whom a user
number stands for, and `issued` is the attempt id that an issue takes. -/
inductive TableEdit (active : UserNo → Option IdentityBinding)
    (issued : Option RewardAttemptId) (t : ProtocolTables) : ProtocolTables → Prop
  | ids (free : Finset Nat) : TableEdit active issued t { t with freeProtocolRoomIds := free }
  | room {id : RoomId} {room room' : ProtocolRoomState}
      (present : t.protocolRooms.lookup id = some room) (edit : room.RoomEdit issued room') :
      TableEdit active issued t (t.putRoom id room')
  | seat {id : RoomId} {room room' : ProtocolRoomState} {userNo : UserNo}
      {participant : RoomParticipant} (present : t.protocolRooms.lookup id = some room)
      (lobby : room.phase = .lobby) (new : t.protocolRoomByUser.lookup userNo = none)
      (added : room.addParticipant userNo participant = some room') :
      TableEdit active issued t { t with
        protocolRooms := t.protocolRooms.insert id room'
        protocolRoomByUser := t.protocolRoomByUser.insert userNo id }
  | unseat (userNo : UserNo) : TableEdit active issued t (t.removeUser userNo).1
  | kick {id : RoomId} {room : ProtocolRoomState} {userNo : UserNo}
      (present : t.protocolRooms.lookup id = some room) (lobby : room.phase = .lobby)
      (member : userNo ∈ room.userNos) :
      TableEdit active issued t
        (World.kickTables t id userNo ((room.removeUser userNo).getD room))
  | start {id : RoomId} {room next : ProtocolRoomState} {epoch : GlobalRaceEpoch}
      {roster : FrozenRaceRoster} (present : t.protocolRooms.lookup id = some room)
      (lobby : room.phase = .lobby) (racers : room.membersById.entries.length ≠ 0)
      (free : ∀ i m, room.membersById i = some m → t.rewardLanes.lookup m.userNo = none)
      (epoch_ : t.nextRaceEpoch = some epoch) (same : room.SameSeats next)
      (frozen : Freezes active room ⟨id, epoch⟩ roster) :
      TableEdit active issued t (World.startTables t id (World.loadingRoom next ⟨id, epoch⟩ roster)
        roster (World.followingRaceEpoch epoch))
  | abort {id : RoomId} {room : ProtocolRoomState}
      (present : t.protocolRooms.lookup id = some room) (loading : room.phase = .loading) :
      TableEdit active issued t ((t.releaseFence room.raceFence).putRoom id room.abortLoading)
  | finalize {id : RoomId} {room : ProtocolRoomState} {ranking : SettlementRanking}
      {rewards : List RewardPersistenceEntry} {packets : List Packet}
      (present : t.protocolRooms.lookup id = some room)
      (ready : room.finalization? = some (.ready ranking rewards packets)) :
      TableEdit active issued t (World.finalizeTables t id room ranking)

/-- A room is opened by its first participant. -/
inductive Opens (participant : RoomParticipant) (t : ProtocolTables) : ProtocolTables → Prop
  | open_ {id : RoomId} {settings : RoomSettings} {userNo : UserNo}
      {prepared : RoomParticipant} {room : ProtocolRoomState} (free : Finset Nat)
      (absent : t.protocolRooms.lookup id = none)
      (new : t.protocolRoomByUser.lookup userNo = none)
      (observer : prepared.observer = participant.observer)
      (observerMaster : prepared.observerMaster = participant.observerMaster)
      (added : (ProtocolRoomState.new id settings).addParticipant userNo prepared =
        some room) :
      Opens participant t { t with
        protocolRooms := t.protocolRooms.insert id room
        protocolRoomByUser := t.protocolRoomByUser.insert userNo id
        freeProtocolRoomIds := free }

/-! ## Edits of a world -/

/-- The registry and its callers take some steps, none of which leaves a commit
guard behind. -/
def Evolves (unicode : Unicode) (instantMax : Instant) (s s' : IdentitySystem) : Prop :=
  s.guard = none → s'.guard = none ∧
    Relation.ReflTransGen
      (fun s s' => ∃ action response, s.step unicode instantMax action = some (response, s')) s s'

variable {H Q P : Type}

/-- An edit that issues an attempt takes the next attempt id. -/
def Consumes (issued next next' : Option RewardAttemptId) : Prop :=
  match issued with
  | none => next' = next
  | some attemptId => next = some attemptId ∧ next' = World.RewardAttemptId.following attemptId

theorem Consumes.keep (next : Option RewardAttemptId) : Consumes none next next := rfl

inductive WorldEdit (env : WorldEnv H Q P) (w w' : World H) : Prop
  | identities (tables : w'.protocol = w.protocol)
      (attempts : w'.nextRewardAttemptId = w.nextRewardAttemptId)
      (evolves : Evolves env.unicode env.instantMax w.identities w'.identities)
  | tables {issued : Option RewardAttemptId} (identities : w'.identities = w.identities)
      (attempts : Consumes issued w.nextRewardAttemptId w'.nextRewardAttemptId)
      (edit : TableEdit w.activeIdentity issued w.protocol w'.protocol)

/-- Any number of world edits. -/
abbrev WorldEdits (env : WorldEnv H Q P) := Relation.ReflTransGen (WorldEdit env)

/-- The participant with whom a command asks for a new room. -/
def WorldCommand.opener : WorldCommand Q P → Option RoomParticipant
  | .roomProtocol _ (.create _ participant) _ _ => some participant
  | _ => none

/-- The participant with whom an action asks for a new room. -/
def WorldAction.opener : WorldAction Q P → Option RoomParticipant
  | .command c => c.opener
  | .admitted _ c => c.opener
  | _ => none

/-- What a turn does: a path of edits, after opening a room if it is a create. -/
inductive TurnEdits (env : WorldEnv H Q P) (opener : Option RoomParticipant) (w w' : World H) :
    Prop
  | edits (h : WorldEdits env w w')
  | opens {participant : RoomParticipant} {w₁ : World H} (opener_ : opener = some participant)
      (identities : w₁.identities = w.identities)
      (attempts : w₁.nextRewardAttemptId = w.nextRewardAttemptId)
      (open_ : Opens participant w.protocol w₁.protocol) (h : WorldEdits env w₁ w')

end P4475
