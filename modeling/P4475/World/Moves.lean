import P4475.World.Rooms

/-!
# Room edits as moves

What the invariants of a room see of an edit: moves, which keep `RoomOk`. Paying a
race, reporting a finish and queueing the fan-outs are touches that plan a ranking at
most once.
-/

namespace P4475

open Lib

namespace FrozenRaceRoster

variable (roster : FrozenRaceRoster) (p : FrozenRaceParticipant → Bool)
  (f : FrozenHumanResultSnapshot → FrozenHumanResultSnapshot)

theorem map_modify_of {α β : Type} {g : α → β} {h : α → α} (hgh : ∀ a, g (h a) = g a)
    (l : List α) (k : Nat) : (l.modify k h).map g = l.map g := by
  refine List.ext_getElem? fun j => ?_
  rw [List.getElem?_map, List.getElem?_map, List.getElem?_modify]
  cases l[j]? with
  | none => rfl
  | some a =>
    simp only [Option.map_some]
    split
    next => exact congrArg some (hgh a)
    next => rfl

/-- What does not look at the changed result stays. -/
theorem updateResult_map {β : Type} {g : FrozenRaceParticipant → β}
    (hg : ∀ participant : FrozenRaceParticipant,
      g { participant with result := participant.result.map f } = g participant) :
    (ProtocolRoomState.updateResult roster p f).participants.map g =
      roster.participants.map g := by
  unfold ProtocolRoomState.updateResult
  cases roster.participants.findIdx? p with
  | none => rfl
  | some k => exact map_modify_of hg _ _

theorem updateResult_skeleton :
    (ProtocolRoomState.updateResult roster p f).skeleton = roster.skeleton := by
  have h := updateResult_map roster p f (g := fun q => { q with result := none }) fun _ => rfl
  unfold skeleton
  rw [h]
  rfl

/-- A result that keeps what was paid. -/
theorem updateResult_economies (hf : ∀ result, (f result).economy = result.economy) :
    (ProtocolRoomState.updateResult roster p f).economies = roster.economies := by
  refine updateResult_map roster p f fun participant => ?_
  rw [Option.map_map]
  exact congrArg (participant.result.map ·) (funext hf)

end FrozenRaceRoster

theorem SettlementFinalization.retainAsDeadLetter_ranking (finalization : SettlementFinalization)
    (reason : RewardTerminalReason) (userNo : Option UserNo) (nickname : Option Text) :
    (finalization.retainAsDeadLetter reason userNo nickname).ranking? =
      finalization.ranking? := by
  cases finalization <;> rfl

namespace ProtocolRoomState

variable {room room' : ProtocolRoomState} {issued : Option RewardAttemptId}
  {ranking : SettlementRanking}

theorem setFinalization_sameSeats (room : ProtocolRoomState)
    (f : SettlementFinalization → SettlementFinalization) :
    room.SameSeats (room.setFinalization f) :=
  ⟨⟨rfl, rfl, fun _ => rfl, rfl, rfl, fun _ => rfl, rfl⟩, fun _ => rfl, rfl⟩

theorem setFinalization_finalization? (room : ProtocolRoomState)
    (f : SettlementFinalization → SettlementFinalization) :
    (room.setFinalization f).finalization? = room.finalization?.map f := by
  unfold finalization? setFinalization
  rw [Option.map_map, Option.map_map]
  rfl

/-- Rewriting the finalization is a touch where it plans no ranking of its own. -/
theorem setFinalization_sameRace {f : SettlementFinalization → SettlementFinalization}
    (hf : ∀ finalization, room.finalization? = some finalization → ∀ ranking,
      (f finalization).ranking? = some ranking →
        finalization.ranking? = some ranking ∨ room.settlementRanking = .ok ranking) :
    room.SameRace (room.setFinalization f) where
  phase := rfl
  fence := rfl
  frozen := rfl
  settlement := Option.isSome_map ..
  times := fun h => Or.inl h
  planned := fun _ ranking hr => by
    refine ⟨rfl, ?_⟩
    unfold plannedRanking? at hr ⊢
    rw [setFinalization_finalization?] at hr
    cases hk : room.finalization? with
    | none => rw [hk] at hr; exact absurd hr (by simp)
    | some finalization =>
      rw [hk] at hr
      exact hf finalization hk ranking hr

theorem setStatus_sameRace (room : ProtocolRoomState) (userNo : UserNo)
    (status : RewardPersistenceStatus) : room.SameRace (room.setStatus userNo status) := by
  refine setFinalization_sameRace fun finalization _ ranking hr => Or.inl ?_
  cases finalization <;> exact hr

theorem failSettlement_sameRace (room : ProtocolRoomState) (reason : RewardTerminalReason)
    (userNo : Option UserNo) (nickname : Option Text) :
    room.SameRace (room.failSettlement reason userNo nickname) :=
  setFinalization_sameRace fun _ _ _ hr => by
    rw [SettlementFinalization.retainAsDeadLetter_ranking] at hr
    exact Or.inl hr

theorem planRewardPersistence_ranking {unicode : Unicode} {now : Instant}
    {rolls : Nat → Nat × Nat} {rewards : List RewardPersistenceEntry}
    (h : room.planRewardPersistence unicode now rolls = .ok (ranking, rewards)) :
    room.settlementRanking = .ok ranking := by
  unfold planRewardPersistence at h
  split at h
  next => exact absurd h (by simp)
  next planned hr =>
    split at h
    next => exact absurd h (by simp)
    next roster _ =>
      dsimp only at h
      split at h
      next =>
        cases hm : (roster.humans.zipIdx.mapM fun (participant, k) =>
            planReward unicode planned now roster.humans.length participant (rolls k)) with
        | error e => rw [hm] at h; exact absurd h (by simp [Except.map])
        | ok entries =>
          rw [hm] at h
          cases h
          exact hr
      next => exact absurd h (by simp)

theorem beginRewardPersistence_edit (room : ProtocolRoomState) (unicode : Unicode) (now : Instant)
    (rolls : Nat → Nat × Nat) :
    room.SameSeats (room.beginRewardPersistence unicode now rolls) ∧
      room.SameRace (room.beginRewardPersistence unicode now rolls) := by
  unfold beginRewardPersistence
  split
  next =>
    split
    next ranking rewards hp =>
      refine ⟨setFinalization_sameSeats _ _, setFinalization_sameRace fun _ _ r hr => Or.inr ?_⟩
      cases hr
      exact planRewardPersistence_ranking hp
    next e _ =>
      refine ⟨setFinalization_sameSeats _ _, setFinalization_sameRace fun _ _ r hr => Or.inl ?_⟩
      rwa [SettlementFinalization.retainAsDeadLetter_ranking] at hr
  next =>
    exact ⟨⟨⟨rfl, rfl, fun _ => rfl, rfl, rfl, fun _ => rfl, rfl⟩, fun _ => rfl, rfl⟩, rfl, rfl,
      rfl, rfl, fun h => Or.inl h, fun _ _ h => ⟨rfl, Or.inl h⟩⟩

theorem SameCourse.sameRace (h : room.SameCourse room') : room.SameRace room' where
  phase := h.phase
  fence := h.fence
  frozen := h.frozen
  settlement := by rw [h.progress]
  times := fun ht => Or.inl (h.progress ▸ ht)
  planned := fun _ ranking hr => by
    refine ⟨by rw [h.progress], Or.inl ?_⟩
    unfold plannedRanking? finalization? at hr ⊢
    rwa [h.progress] at hr

/-- Recording a durable reward changes a status and a result. -/
theorem applyReward_edit (room : ProtocolRoomState) (task : RewardSettlementTask)
    (applied : AppliedTimeReward) :
    room.SameSeats (room.applyReward task applied) ∧
      room.SameRace (room.applyReward task applied) := by
  have hstatus := setStatus_sameRace room task.userNo (.durable applied)
  refine ⟨⟨⟨rfl, rfl, fun _ => rfl, rfl, rfl, fun _ => rfl, rfl⟩, fun _ => rfl, rfl⟩,
    hstatus.phase, hstatus.fence, ?_, hstatus.settlement, hstatus.times, hstatus.planned⟩
  unfold applyReward
  dsimp only
  rw [Option.map_map]
  exact congrArg (room.frozenRace.map ·)
    (funext fun roster => roster.updateResult_skeleton _ _)

theorem prepareReadySettlement_edit (wire : Wire) (room : ProtocolRoomState) :
    room.SameSeats (room.prepareReadySettlement wire).2 ∧
      room.SameRace (room.prepareReadySettlement wire).2 := by
  have hrefl : room.SameSeats room ∧ room.SameRace room :=
    ⟨⟨SamePlaces.refl room, fun _ => rfl, rfl⟩, rfl, rfl, rfl, rfl, fun h => Or.inl h,
      fun _ _ h => ⟨rfl, Or.inl h⟩⟩
  unfold prepareReadySettlement
  split
  next ranking rewards hk =>
    split
    next =>
      split <;> dsimp only
      next packets _ =>
        refine ⟨setFinalization_sameSeats _ _, ?_⟩
        refine setFinalization_sameRace fun _ hk' r hr => ?_
        rw [hk] at hk'
        cases hk'
        exact Or.inl hr
      next => exact ⟨setFinalization_sameSeats _ _, failSettlement_sameRace _ _ _ _⟩
    next => exact hrefl
  next => exact hrefl

theorem retryDeadLetter_ok {letter : RewardDeadLetter} {now : Instant}
    (h : room.retryDeadLetter letter now = .ok room') : ∃ failed ranking,
      room.finalization? = some (.failed failed) ∧ failed.ranking = some ranking ∧
      failed.reason.permitsPersistenceRetry = true ∧ failed.packets = none ∧
      room' = room.setFinalization fun _ =>
        .persisting ranking (failed.rewards.map (requeue now)) := by
  unfold retryDeadLetter at h
  split at h
  next failed hk =>
    split at h
    next => exact absurd h (by simp)
    next =>
      split at h
      next => exact absurd h (by simp)
      next hpermits =>
        dsimp only at h
        split at h
        next => exact absurd h (by simp)
        next hsame =>
          split at h
          next => exact absurd h (by simp)
          next ranking hr =>
            cases h
            refine ⟨failed, ranking, hk, hr, by simpa using hpermits, ?_, rfl⟩
            simp only [not_or, not_not] at hsame
            exact hsame.2.2.2.2.2
  next => exact absurd h (by simp)

theorem RewardEdit.move (h : room.RewardEdit issued room') :
    room.SameSeats room' ∧ room.SameRace room' := by
  cases h with
  | plan => exact beginRewardPersistence_edit room _ _ _
  | issue => exact ⟨setFinalization_sameSeats _ _, setStatus_sameRace _ _ _⟩
  | requeue => exact ⟨setFinalization_sameSeats _ _, setStatus_sameRace _ _ _⟩
  | durable => exact applyReward_edit room _ _
  | orphan => exact ⟨setFinalization_sameSeats _ _, setStatus_sameRace _ _ _⟩
  | ready => exact prepareReadySettlement_edit _ room
  | fail => exact ⟨setFinalization_sameSeats _ _, failSettlement_sameRace _ _ _ _⟩
  | retry retried =>
    obtain ⟨failed, ranking, hk, hr, -, -, rfl⟩ := retryDeadLetter_ok retried
    refine ⟨setFinalization_sameSeats _ _, setFinalization_sameRace fun _ hk' r hr' => ?_⟩
    rw [hk] at hk'
    cases hk'
    exact Or.inl (hr.trans hr')

/-- A finish is a touch while no ranking is planned. -/
theorem withFinish_sameRace {playerId : Int} {raceTime : Nat} (hb : raceTime ≤ u32Max)
    (hopen : room.phase = .settling → room.plannedRanking? = none) :
    room.SameRace (room.withFinish playerId raceTime) where
  phase := rfl
  fence := rfl
  frozen := rfl
  settlement := rfl
  times := fun {p time} ht => by
    have hl : (room.raceProgress.finishTimes.insert playerId raceTime).lookup p = some time := ht
    rw [Map.lookup_insert_ite] at hl
    split at hl
    next => cases hl; exact Or.inr hb
    next => exact Or.inl hl
  planned := fun hp ranking hr => by
    have hsame : (room.withFinish playerId raceTime).plannedRanking? = room.plannedRanking? := rfl
    rw [hsame, hopen hp] at hr
    exact absurd hr (by simp)

theorem RoomEdit.moves (e : room.RoomEdit issued room') : room.RoomMoves room' := by
  have hseats : ∀ {playerId raceTime}, room.SameSeats (room.withFinish playerId raceTime) :=
    ⟨⟨rfl, rfl, fun _ => rfl, rfl, rfl, fun _ => rfl, rfl⟩, fun _ => rfl, rfl⟩
  cases e with
  | touch seats course => exact .single (.touch seats course.sameRace)
  | reseat lobby h => exact .single (.reseat lobby h)
  | run loading => exact .single (.run loading)
  | first running _ _ bounded =>
    refine .tail (.single (.touch hseats (withFinish_sameRace bounded fun hp => ?_)))
      (.settle running)
    rw [running] at hp
    exact RoomPhase.noConfusion hp
  | @late playerId raceTime _ settling _ open_ _ bounded =>
    have hopen : room.plannedRanking? = none := by
      unfold plannedRanking?
      cases hk : room.finalization? with
      | none => rfl
      | some finalization => rw [open_ _ hk]; rfl
    have hrace : room.SameRace (room.withFinish playerId raceTime) :=
      withFinish_sameRace bounded fun _ => hopen
    exact .single (.touch ⟨⟨rfl, rfl, fun _ => rfl, rfl, rfl, fun _ => rfl, rfl⟩, fun _ => rfl, rfl⟩
      ⟨hrace.phase, hrace.fence, hrace.frozen, hrace.settlement, hrace.times, hrace.planned⟩)
  | settle running => exact .single (.settle running)
  | flush =>
    exact .single (.touch ⟨⟨rfl, rfl, fun _ => rfl, rfl, rfl, fun _ => rfl, rfl⟩, fun _ => rfl, rfl⟩
      ⟨rfl, rfl, rfl, rfl, fun h => Or.inl h, fun _ _ h => ⟨rfl, Or.inl h⟩⟩)
  | reward h => exact .single (.touch h.move.1 h.move.2)

theorem RoomMove.id (e : room.RoomMove room') : room'.id = room.id := by
  cases e with
  | touch seats _ => exact seats.id
  | reseat _ hr => exact hr.sameRun.id
  | run => rfl
  | settle => rfl

theorem RoomMoves.id (e : room.RoomMoves room') : room'.id = room.id := by
  induction e with
  | refl => rfl
  | tail _ h ih => exact h.id.trans ih

theorem RoomMoves.userNos (e : room.RoomMoves room') : room'.userNos = room.userNos := by
  induction e with
  | refl => rfl
  | tail _ h ih => exact h.userNos.trans ih

theorem RoomOk.moves (h : room.RoomOk) (e : room.RoomMoves room') : room'.RoomOk := by
  induction e with
  | refl => exact h
  | tail _ e ih => exact ih.edit e

/-! ## Touches -/

/-- Any number of room edits that issue no attempt. -/
abbrev RoomEdits := Relation.ReflTransGen (RoomEdit none)

section Touches

variable {userNo : UserNo}

/-- A change of the settings that keeps the game type, and of the track state. -/
theorem RoomEdit.settings (room : ProtocolRoomState) {settings : RoomSettings}
    (hg : settings.gameType = room.settings.gameType) :
    room.RoomEdit issued { room with settings := settings } :=
  .touch ⟨⟨rfl, hg, fun _ => rfl, rfl, rfl, fun _ => rfl, rfl⟩, fun _ => rfl, rfl⟩
    ⟨rfl, rfl, rfl, rfl, rfl⟩

theorem RoomEdit.handshake (room : ProtocolRoomState) (handshake : LoadingHandshake) :
    room.RoomEdit issued { room with loadingHandshake := handshake } :=
  .touch ⟨⟨rfl, rfl, fun _ => rfl, rfl, rfl, fun _ => rfl, rfl⟩, fun _ => rfl, rfl⟩
    ⟨rfl, rfl, rfl, rfl, rfl⟩

theorem RoomEdit.refl (room : ProtocolRoomState) : room.RoomEdit issued room :=
  RoomEdit.handshake room room.loadingHandshake

/-- A change of members that nobody's seat, team or ranking shows. -/
theorem RoomEdit.members (room : ProtocolRoomState)
    {f : Fin 8 → ProtocolRoomMember → ProtocolRoomMember}
    (hf : ∀ i m, (f i m).userNo = m.userNo ∧ (f i m).player.team = m.player.team ∧
      (f i m).player.ranking = m.player.ranking) :
    room.RoomEdit issued { room with membersById := room.membersById.modify f } :=
  .touch ⟨samePlaces_of_modify fun i m => ⟨(hf i m).1, (hf i m).2.1⟩,
      sameRankings_of_modify rfl fun i m => (hf i m).2.2, rfl⟩
    ⟨rfl, rfl, rfl, rfl, rfl⟩

theorem RoomEdit.observers (room : ProtocolRoomState)
    {f : Fin 8 → ProtocolRoomMember → ProtocolRoomMember}
    (hf : ∀ i m, (f i m).userNo = m.userNo) :
    room.RoomEdit issued { room with observers := room.observers.modify f } :=
  .touch ⟨samePlaces_of_modifyObservers hf, fun _ => rfl, rfl⟩ ⟨rfl, rfl, rfl, rfl, rfl⟩

/-- A change of one user's presentation. -/
theorem updateUser_edit {f : ProtocolRoomMember → ProtocolRoomMember}
    (h : room.updateUser userNo f = some room')
    (hf : ∀ m, (f m).userNo = m.userNo ∧ (f m).player.team = m.player.team ∧
      (f m).player.ranking = m.player.ranking) : room.RoomEdit issued room' := by
  unfold updateUser at h
  split at h
  next i _ =>
    cases h
    refine .members room fun j m => ?_
    split
    next => exact hf m
    next => exact ⟨rfl, rfl, rfl⟩
  next =>
    obtain ⟨i, -, rfl⟩ := Option.map_eq_some_iff.mp h
    refine .observers room fun j m => ?_
    split
    next => exact (hf m).1
    next => rfl

theorem setEquipmentSnapshot_edit {snapshot : RiderItemSnapshot}
    (h : room.setEquipmentSnapshot userNo snapshot = some room') :
    room.RoomEdit issued room' := by
  unfold setEquipmentSnapshot at h
  obtain ⟨updated, hu, rfl⟩ := Option.map_eq_some_iff.mp h
  have hedit : room.SameSeats updated ∧ room.SameCourse updated := by
    unfold updateUser at hu
    split at hu
    next i _ =>
      cases hu
      refine ⟨⟨samePlaces_of_modify fun j m => ?_, sameRankings_of_modify rfl fun j m => ?_, rfl⟩,
        rfl, rfl, rfl, rfl, rfl⟩
      · split <;> exact ⟨rfl, rfl⟩
      · split <;> rfl
    next =>
      obtain ⟨i, -, rfl⟩ := Option.map_eq_some_iff.mp hu
      refine ⟨⟨samePlaces_of_modifyObservers fun j m => ?_, fun _ => rfl, rfl⟩,
        rfl, rfl, rfl, rfl, rfl⟩
      split <;> rfl
  obtain ⟨⟨hplaces, hrankings, hmaster⟩, hcourse⟩ := hedit
  refine .touch ⟨⟨hplaces.id, hplaces.gameType, hplaces.members, hplaces.ais, hplaces.closed,
    hplaces.observers, hplaces.slots⟩, hrankings, hmaster⟩
    ⟨hcourse.phase, hcourse.fence, hcourse.progress, ?_, ?_⟩
  · dsimp only
    rw [Option.map_map, ← hcourse.frozen]
    exact congrArg (updated.frozenRace.map ·)
      (funext fun roster => roster.updateResult_skeleton _ _)
  · dsimp only
    rw [Option.map_map, ← hcourse.economies]
    exact congrArg (updated.frozenRace.map ·)
      (funext fun roster => roster.updateResult_economies _ _ fun _ => rfl)

theorem setMainEmblems_edit {emblems : Nat × Nat × Nat}
    (h : room.setMainEmblems userNo emblems = some room') : room.RoomEdit issued room' :=
  updateUser_edit h fun _ => ⟨rfl, rfl, rfl⟩

theorem setP2pEndpoint_edit {address : BitVec 32} {port : Nat}
    (h : room.setP2pEndpoint userNo address port = some room') : room.RoomEdit issued room' :=
  updateUser_edit h fun _ => ⟨rfl, rfl, rfl⟩

theorem setFloaterCodes_edit {codes : FloaterCodes}
    (h : room.setFloaterCodes userNo codes = some room') : room.RoomEdit issued room' :=
  updateUser_edit h fun _ => ⟨rfl, rfl, rfl⟩

theorem setLiveRp_edit (room : ProtocolRoomState) (userNo : UserNo) (rp : Nat) :
    room.RoomEdit issued (room.setLiveRp userNo rp) := by
  unfold setLiveRp
  split
  next =>
    refine .members room fun j m => ?_
    split <;> exact ⟨rfl, rfl, rfl⟩
  next => exact .refl room

theorem setPlayerType_edit (room : ProtocolRoomState) (i : Fin 8) (state : PlayerSlotState) :
    room.RoomEdit issued (room.setPlayerType i state) := by
  refine .members room fun j m => ?_
  split <;> exact ⟨rfl, rfl, rfl⟩

theorem reconcileLoadingHandshake_edit (instantMax : Instant) (room : ProtocolRoomState)
    (stamps : Finset FrozenParticipantStamp) (now : Instant) :
    room.RoomEdit issued (room.reconcileLoadingHandshake instantMax stamps now) := by
  unfold reconcileLoadingHandshake
  split
  next =>
    dsimp only
    split
    next => split <;> exact .handshake room _
    next => exact .handshake room _
  next => exact .refl room
  next => exact .refl room

/-- Choosing a track changes what the choice remembers. -/
theorem selectConcreteTrack_sameSeats {candidates : List Nat} {draw track : Nat}
    (h : room.selectConcreteTrack candidates draw = some (track, room')) :
    room.SameSeats room' := by
  unfold selectConcreteTrack at h
  split at h
  next =>
    dsimp only at h
    split at h
    next => exact absurd h (by simp)
    next =>
      cases h
      exact ⟨⟨rfl, rfl, fun _ => rfl, rfl, rfl, fun _ => rfl, rfl⟩, fun _ => rfl, rfl⟩
  next =>
    cases h
    exact ⟨⟨rfl, rfl, fun _ => rfl, rfl, rfl, fun _ => rfl, rfl⟩, fun _ => rfl, rfl⟩

end Touches

end ProtocolRoomState

end P4475
