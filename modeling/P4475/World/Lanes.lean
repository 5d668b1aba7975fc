import P4475.World.StartGrid

/-!
# Reward lanes

The lanes are exactly the racers of the races that are not settled. A race starts only
over free lanes, under a new epoch, and its lanes go only with it.
-/

namespace P4475

open Lib ProtocolRoomState

section Steps

variable {active : UserNo → Option IdentityBinding} {issued : Option RewardAttemptId}
  {t t' : ProtocolTables} {id : RoomId} {room room' : ProtocolRoomState} {userNo : UserNo}
  {fence : RaceFence} {v : Option ProtocolRoomState}

/-- How the lanes of a room end: its race is finalized, its Loading is aborted, or its
last member leaves while it is Loading. -/
inductive LaneEnds (room : ProtocolRoomState) : Option ProtocolRoomState → Prop
  | finalized {ranking : SettlementRanking} {rewards : List RewardPersistenceEntry}
      {packets : List Packet}
      (ready : room.finalization? = some (.ready ranking rewards packets)) :
      LaneEnds room (if room.isEmpty then none else some (room.finalizeSettlement ranking))
  | aborted (loading : room.phase = .loading) : LaneEnds room (some room.abortLoading)
  | deleted {userNo : UserNo} {room' : ProtocolRoomState} (loading : room.phase = .loading)
      (removed : room.removeUser userNo = some room') (empty : room'.isEmpty = true) :
      LaneEnds room none

/-- Whoever races keeps his lane, unless the lanes of the room end. -/
theorem RoomStep.lane (h : room.RoomOk) (hs : RoomStep active issued t id room v)
    (hl : room.Lane userNo fence) :
    (∃ room', v = some room' ∧ room'.Lane userNo fence) ∨ LaneEnds room v := by
  cases hs with
  | stay => exact Or.inl ⟨room, rfl, hl⟩
  | edit edit => exact Or.inl ⟨_, rfl, edit.moves.lane.mpr hl⟩
  | enter lobby _ => exact absurd hl (h.no_lane lobby)
  | @leave room' userNo removed =>
    have hrun := removeUser_sameRun removed
    split
    next hrem =>
      unfold removable at hrem
      rw [Bool.and_eq_true, decide_eq_true_iff] at hrem
      rcases hrem.2 with hlobby | hloading
      · exact absurd hl (h.no_lane (hrun.phase ▸ hlobby))
      · exact Or.inr (.deleted (hrun.phase ▸ hloading) removed hrem.1)
    next => exact Or.inl ⟨room', rfl, (lane_congr (by rw [hrun.frozen])).mpr hl⟩
  | start lobby _ _ _ _ _ => exact absurd hl (h.no_lane lobby)
  | abort loading => exact Or.inr (.aborted loading)
  | finalize ready => exact Or.inr (.finalized ready)

/-- A lane goes only with the race of its room. -/
theorem TablesOk.lane_ends (h : TablesOk t) (e : TableEdit active issued t t')
    (h' : TablesOk t') (hl : t.rewardLanes.lookup userNo = some fence)
    (hgone : t'.rewardLanes.lookup userNo ≠ some fence) :
    ∃ room, t.protocolRooms.lookup fence.roomId = some room ∧ room.raceFence = some fence ∧
      LaneEnds room (t'.protocolRooms.lookup fence.roomId) := by
  obtain ⟨room, hr, hlane⟩ := h.lanes.mp hl
  have hok := (h.rooms hr).2
  refine ⟨room, hr, hok.lane_fence hlane, ?_⟩
  rcases (h.roomStep e hr).lane hok hlane with ⟨room', hr', hlane'⟩ | hends
  · exact absurd (h'.lanes.mpr ⟨room', hr', hlane'⟩) hgone
  · exact hends

/-! ## Epochs -/

/-- The epochs of new races do not go back. -/
def EpochsGrow (t t' : ProtocolTables) : Prop :=
  ∀ epoch', t'.nextRaceEpoch = some epoch' →
    ∃ epoch, t.nextRaceEpoch = some epoch ∧ epoch.get ≤ epoch'.get

theorem EpochsGrow.refl (t : ProtocolTables) : EpochsGrow t t := fun epoch he =>
  ⟨epoch, he, Nat.le_refl _⟩

theorem EpochsGrow.of_eq (h : t'.nextRaceEpoch = t.nextRaceEpoch) : EpochsGrow t t' :=
  fun epoch he => ⟨epoch, h ▸ he, Nat.le_refl _⟩

theorem EpochsGrow.trans {t'' : ProtocolTables} (h : EpochsGrow t t') (h' : EpochsGrow t' t'') :
    EpochsGrow t t'' := fun epoch'' he => by
  obtain ⟨epoch', he', hle'⟩ := h' epoch'' he
  obtain ⟨epoch, he₀, hle⟩ := h epoch' he'
  exact ⟨epoch, he₀, hle.trans hle'⟩

theorem followingRaceEpoch_get {epoch next : GlobalRaceEpoch}
    (h : World.followingRaceEpoch epoch = some next) : next.get = epoch.get + 1 := by
  unfold World.followingRaceEpoch GlobalRaceEpoch.new at h
  split at h
  next =>
    cases h
    rfl
  next => exact absurd h (by simp)

@[simp] theorem releaseFence_epoch (t : ProtocolTables) (fence : Option RaceFence) :
    (t.releaseFence fence).nextRaceEpoch = t.nextRaceEpoch := by
  unfold ProtocolTables.releaseFence
  split <;> rfl

theorem removeUser_epoch (t : ProtocolTables) (userNo : UserNo) :
    (t.removeUser userNo).1.nextRaceEpoch = t.nextRaceEpoch := by
  unfold ProtocolTables.removeUser
  split
  next => rfl
  next =>
    dsimp only
    split
    next => rfl
    next =>
      split
      next => exact releaseFence_epoch _ _
      next => rfl

/-- Only a start moves the epoch, to the next one. -/
theorem TableEdit.epoch (e : TableEdit active issued t t') :
    t'.nextRaceEpoch = t.nextRaceEpoch ∨
      ∃ epoch, t.nextRaceEpoch = some epoch ∧
        t'.nextRaceEpoch = World.followingRaceEpoch epoch := by
  cases e with
  | ids _ => exact Or.inl rfl
  | room _ _ => exact Or.inl rfl
  | seat _ _ _ _ => exact Or.inl rfl
  | unseat userNo => exact Or.inl (removeUser_epoch t userNo)
  | kick _ _ _ =>
    unfold World.kickTables
    dsimp only
    split <;> exact Or.inl rfl
  | start _ _ _ _ epoch_ _ _ => exact Or.inr ⟨_, epoch_, rfl⟩
  | abort _ _ => exact Or.inl (releaseFence_epoch _ _)
  | finalize _ _ =>
    unfold World.finalizeTables
    dsimp only
    split <;> exact Or.inl (releaseFence_epoch _ _)

theorem TableEdit.epochsGrow (e : TableEdit active issued t t') : EpochsGrow t t' := by
  rcases e.epoch with heq | ⟨epoch, he, hnext⟩
  · exact .of_eq heq
  · intro epoch' he'
    rw [hnext] at he'
    exact ⟨epoch, he, by rw [followingRaceEpoch_get he']; omega⟩

end Steps

/-! ## Every run -/

namespace World

variable {H Q P : Type} {env : WorldEnv H Q P} {w w' : World H}

theorem Onward.epochsGrow (e : Onward env w w') : EpochsGrow w.protocol w'.protocol := by
  cases e with
  | edit edit =>
    cases edit with
    | identities tables _ _ => exact .of_eq (by rw [tables])
    | tables _ _ edit => exact edit.epochsGrow
  | opens _ _ open_ =>
    have hepoch : w'.protocol.nextRaceEpoch = w.protocol.nextRaceEpoch := by
      generalize w'.protocol = t' at open_
      cases open_
      rfl
    exact .of_eq hepoch

theorem Later.epochsGrow (e : Later env w w') : EpochsGrow w.protocol w'.protocol := by
  induction e with
  | refl => exact .refl _
  | tail _ e ih => exact ih.trans e.epochsGrow

/-- What `start_room` answers: an error and nothing happened, or a new epoch over free
lanes. -/
theorem startRoom_cases (env : WorldEnv H Q P) (w : World H) (identity : IdentityBinding) (plan : StartRoomPlan)
    (draw : Nat) : (∃ e, w.startRoom env identity plan draw = (.error e, w)) ∨
      ∃ id room epoch track racers observers, w.lobbyRoom identity = .ok (id, room) ∧
        (∀ i m, room.membersById i = some m → w.protocol.rewardLanes.lookup m.userNo = none) ∧
        w.protocol.nextRaceEpoch = some epoch ∧
        (w.startRoom env identity plan draw).1 =
          .ok (.started id epoch.get track racers observers) ∧
        (w.startRoom env identity plan draw).2.protocol.nextRaceEpoch =
          followingRaceEpoch epoch := by
  unfold startRoom
  split
  next => exact Or.inl ⟨_, rfl⟩
  next =>
    split
    next => exact Or.inl ⟨_, rfl⟩
    next id room hl =>
      split
      next => exact Or.inl ⟨_, rfl⟩
      next =>
        split
        next => exact Or.inl ⟨_, rfl⟩
        next =>
          split
          next => exact Or.inl ⟨_, rfl⟩
          next count hvalid =>
            split
            next => exact Or.inl ⟨_, rfl⟩
            next epoch hepoch =>
              dsimp only
              split
              next => exact Or.inl ⟨_, rfl⟩
              next =>
                split
                next => exact Or.inl ⟨_, rfl⟩
                next =>
                  split
                  next => exact Or.inl ⟨_, rfl⟩
                  next =>
                    refine Or.inr ⟨id, room, epoch, _, _, _, hl, (validateStartRacers_ok hvalid).2,
                      hepoch, rfl, ?_⟩
                    rw [publishReserved_protocol]
                    rfl

/-- What the lanes of a world are good for. -/
structure Laned (env : WorldEnv H Q P) (w : World H) : Prop where
  /-- A lane is a racer of a race that has not settled, with the fence of that race. -/
  exact_ : ∀ {userNo fence}, w.protocol.rewardLanes.lookup userNo = some fence ↔
    ∃ id room roster, w.room? id = some room ∧ room.phase ≠ .lobby ∧
      room.raceFence = some fence ∧ room.frozenRace = some roster ∧
      ∃ p ∈ roster.participants, p.observer = false ∧ p.identity.userNo = userNo
  /-- Nobody races twice. -/
  once : ∀ {userNo id id' fence fence' room room'}, w.room? id = some room →
    w.room? id' = some room' → room.Lane userNo fence → room'.Lane userNo fence' →
    id = id' ∧ fence = fence'
  /-- Nobody starts a race over a lane. -/
  refused : ∀ {identity plan draw id room i m fence}, w.lobbyRoom identity = .ok (id, room) →
    room.membersById i = some m → w.protocol.rewardLanes.lookup m.userNo = some fence →
    ∃ e, w.startRoom env identity plan draw = (.error e, w)
  /-- Every later start has a later epoch. -/
  epochs : ∀ {identity identity' plan plan' draw draw' w₁ w₂ id id' epoch epoch' track track'
      racers racers' observers observers'},
    w.startRoom env identity plan draw = (.ok (.started id epoch track racers observers), w₁) →
    Later env w₁ w₂ →
    (w₂.startRoom env identity' plan' draw').1 =
      .ok (.started id' epoch' track' racers' observers') → epoch < epoch'
  /-- A lane goes with its race. -/
  ends : ∀ {w' userNo fence}, Later env w w' →
    w.protocol.rewardLanes.lookup userNo = some fence →
    w'.protocol.rewardLanes.lookup userNo ≠ some fence →
    ∃ w₁ w₂ room, Later env w w₁ ∧ Onward env w₁ w₂ ∧ Later env w₂ w' ∧
      w₁.room? fence.roomId = some room ∧ room.raceFence = some fence ∧
      LaneEnds room (w₂.room? fence.roomId)

/-- One step that takes a lane away ends the race of the lane. -/
theorem Ok.lane_step (h : w.Ok env) (e : Onward env w w') {userNo : UserNo} {fence : RaceFence}
    (hl : w.protocol.rewardLanes.lookup userNo = some fence)
    (hgone : w'.protocol.rewardLanes.lookup userNo ≠ some fence) :
    ∃ room, w.room? fence.roomId = some room ∧ room.raceFence = some fence ∧
      LaneEnds room (w'.room? fence.roomId) := by
  have h' := h.onward e
  cases e with
  | edit edit =>
    cases edit with
    | identities tables _ _ =>
      rw [tables] at hgone
      exact absurd hl hgone
    | tables _ _ edit => exact h.tables.lane_ends edit h'.tables hl hgone
  | opens _ _ open_ =>
    have hlanes : w'.protocol.rewardLanes = w.protocol.rewardLanes := by
      generalize w'.protocol = t' at open_
      cases open_
      rfl
    rw [hlanes] at hgone
    exact absurd hl hgone

/-- So does a run, at one of its steps. -/
theorem Ok.lane_later (h : w.Ok env) (e : Later env w w') {userNo : UserNo} {fence : RaceFence}
    (hl : w.protocol.rewardLanes.lookup userNo = some fence)
    (hgone : w'.protocol.rewardLanes.lookup userNo ≠ some fence) :
    ∃ w₁ w₂ room, Later env w w₁ ∧ Onward env w₁ w₂ ∧ Later env w₂ w' ∧
      w₁.room? fence.roomId = some room ∧ room.raceFence = some fence ∧
      LaneEnds room (w₂.room? fence.roomId) := by
  induction e with
  | refl => exact absurd hl hgone
  | @tail w₁ w₂ e step ih =>
    by_cases hmid : w₁.protocol.rewardLanes.lookup userNo = some fence
    · obtain ⟨room, hroom⟩ := (h.later e).lane_step step hmid hgone
      exact ⟨w₁, w₂, room, e, step, .refl, hroom⟩
    · obtain ⟨v₁, v₂, room, e₁, hstep, e₂, hroom⟩ := ih hmid
      exact ⟨v₁, v₂, room, e₁, hstep, e₂.tail step, hroom⟩

theorem Ok.lane_iff (h : w.Ok env) {userNo : UserNo} {fence : RaceFence} :
    w.protocol.rewardLanes.lookup userNo = some fence ↔
      ∃ id room roster, w.room? id = some room ∧ room.phase ≠ .lobby ∧
        room.raceFence = some fence ∧ room.frozenRace = some roster ∧
        ∃ p ∈ roster.participants, p.observer = false ∧ p.identity.userNo = userNo := by
  rw [h.tables.lanes]
  constructor
  · rintro ⟨room, hr, hlane⟩
    have hok := (h.tables.rooms hr).2
    have hphase : room.phase ≠ .lobby := fun hl => hok.no_lane hl hlane
    obtain ⟨roster, hf, -, hraces⟩ := id hlane
    obtain ⟨p, hp, hu⟩ := FrozenRaceRoster.races_iff.mp hraces
    obtain ⟨hmem, hobserver⟩ := List.mem_filter.mp hp
    exact ⟨fence.roomId, room, roster, hr, hphase, hok.lane_fence hlane, hf, p, hmem,
      by simpa using hobserver, hu⟩
  · rintro ⟨id, room, roster, hr, hphase, hfence, hf, p, hp, ho, hu⟩
    obtain ⟨roster', hf', hfence', -⟩ := (h.tables.rooms hr).2.race.racing hphase
    rw [hf] at hf'
    cases hf'
    rw [hfence] at hfence'
    cases hfence'
    have hlane : room.Lane userNo roster.fence := ⟨roster, hf, rfl,
      FrozenRaceRoster.races_iff.mpr ⟨p, List.mem_filter.mpr ⟨hp, by rw [ho]; rfl⟩, hu⟩⟩
    rw [h.tables.lane_room hr hlane]
    exact ⟨room, hr, hlane⟩

theorem Ok.laned (h : w.Ok env) : w.Laned env where
  exact_ := h.lane_iff
  once := fun {userNo id id' fence fence' room room'} hr hr' hl hl' => by
    have hid := h.tables.lane_room hr hl
    have hid' := h.tables.lane_room hr' hl'
    have hlookup := h.tables.lanes.mpr ⟨room, hid.symm ▸ hr, hl⟩
    rw [h.tables.lanes.mpr ⟨room', hid'.symm ▸ hr', hl'⟩] at hlookup
    cases hlookup
    exact ⟨hid.symm.trans hid', rfl⟩
  refused := fun {identity plan draw id room i m fence} hl hm hlane => by
    rcases startRoom_cases env w identity plan draw with
      he | ⟨_, _, _, _, _, _, hl', hfree, -⟩
    · exact he
    · rw [hl] at hl'
      cases hl'
      rw [hfree i m hm] at hlane
      exact absurd hlane (by simp)
  epochs := by
    intro identity identity' plan plan' draw draw' w₁ w₂ id id' epoch epoch' track track' racers
      racers' observers observers' hstart hlater hstart'
    rcases startRoom_cases env w identity plan draw with
      ⟨e, he⟩ | ⟨_, _, first, _, _, _, -, -, -, hresult, hnext⟩
    · rw [he] at hstart
      exact absurd hstart (by simp)
    · rcases startRoom_cases env w₂ identity' plan' draw' with
        ⟨e, he⟩ | ⟨_, _, second, _, _, _, -, -, hepoch, hresult', -⟩
      · rw [he] at hstart'
        exact absurd hstart' (by simp)
      · rw [hstart] at hresult hnext
        rw [hstart'] at hresult'
        cases hresult
        cases hresult'
        obtain ⟨between, hbetween, hle⟩ := hlater.epochsGrow second hepoch
        rw [hnext] at hbetween
        have hget := followingRaceEpoch_get hbetween
        omega
  ends := fun e hl hgone => h.lane_later e hl hgone

end World

variable {H Q P : Type} {env : WorldEnv H Q P}

/-- **The lanes at every moment of a run.** -/
theorem visited_laned {w : World H} (h : w.Visited env) : w.Laned env := h.ok.laned

/-- The guest gets ready and the race of `roomActions` starts. -/
def raceActions : List (WorldAction Unit Unit) :=
  roomActions ++ [.command (.lobby ⟨4⟩ (.setSlotState .ready)),
    .command (.lobby ⟨2⟩ (.startRoom ⟨[100], none, []⟩ 0))]

theorem raceActions_run :
    (sampleMachine.exec sampleMachine.init [] raceActions).isSome = true := by
  decide +kernel

/-- The run of `raceActions`. -/
def raceRun : List (WorldAction Unit Unit × WorldResponse) × WorldActor Unit :=
  (sampleMachine.exec sampleMachine.init [] raceActions).get raceActions_run

theorem raceRun_history : sampleMachine.History raceRun.1 raceRun.2 :=
  Machine.history_of_exec raceActions .init (Option.some_get raceActions_run).symm

theorem raceRun_visited : raceRun.2.world.Visited sampleEnv :=
  WorldActor.visited raceRun_history.reachable

theorem raceRun_laned : raceRun.2.world.Laned sampleEnv ∧
    ((raceRun.2.world.protocol.rewardLanes.lookup sampleGuest).map fun fence =>
      (fence.roomId, fence.raceEpoch.get)) = some (⟨1⟩, 1) :=
  ⟨visited_laned raceRun_visited, by decide +kernel⟩

end P4475
