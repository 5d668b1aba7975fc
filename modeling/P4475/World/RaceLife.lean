import P4475.World.RaceAccounts

/-!
# The life of a race

A race is known by its fence. At two moments of a run at which a race is on, it is one
race: it has not gone back a stage, who is in it and every finish time are as they were,
the end of its settlement stands, and so do its ranking, its entries and what was paid. A
race that is over does not come back.
-/

namespace P4475

open Lib ProtocolRoomState

/-- How far a race has come. -/
def RoomPhase.stage : RoomPhase → Nat
  | .lobby => 0
  | .loading => 1
  | .running => 2
  | .settling => 3

namespace RewardPersistenceEntry

/-- An entry later on: its status moves, and not once it is durable. -/
structure Onward (e e' : RewardPersistenceEntry) : Prop where
  entry : { e' with status := e.status } = e
  durable : ∀ {reward}, e.status = .durable reward → e'.status = .durable reward

variable {e e' e'' : RewardPersistenceEntry}

theorem Onward.refl (e : RewardPersistenceEntry) : e.Onward e := ⟨rfl, fun h => h⟩

theorem Onward.trans (h : e.Onward e') (h' : e'.Onward e'') : e.Onward e'' where
  entry := by
    obtain ⟨he, -⟩ := h
    obtain ⟨he', -⟩ := h'
    rw [← he'] at he
    exact he
  durable := fun hd => h'.durable (h.durable hd)

theorem Onward.set (hs : e.status.isDurable = false) (status : RewardPersistenceStatus) :
    e.Onward { e with status := status } where
  entry := rfl
  durable := fun hd => by
    rw [hd] at hs
    cases hs

theorem forall₂_onward_trans {l l' l'' : List RewardPersistenceEntry}
    (h : List.Forall₂ Onward l l') (h' : List.Forall₂ Onward l' l'') :
    List.Forall₂ Onward l l'' := by
  induction h generalizing l'' with
  | nil => exact h'
  | cons he _ ih =>
    cases h' with
    | cons he' hrest => exact .cons (he.trans he') (ih hrest)

/-- What each entry becomes by a map is later on, if each of them is. -/
theorem forall₂_onward_map {l : List RewardPersistenceEntry}
    {f : RewardPersistenceEntry → RewardPersistenceEntry} (h : ∀ e ∈ l, e.Onward (f e)) :
    List.Forall₂ Onward l (l.map f) :=
  List.forall₂_map_right_iff.mpr (List.forall₂_same.mpr h)

end RewardPersistenceEntry

open RewardPersistenceEntry

namespace ProtocolRoomState

variable {room room' room'' : ProtocolRoomState} {issued : Option RewardAttemptId}

/-- The race of a room, later on. -/
structure GoesOn (room room' : ProtocolRoomState) : Prop where
  stage : room.phase.stage ≤ room'.phase.stage
  fence : room'.raceFence = room.raceFence
  roster : room'.frozenRace.map FrozenRaceRoster.skeleton =
    room.frozenRace.map FrozenRaceRoster.skeleton
  /-- A finish time stands. -/
  finish : ∀ {playerId time}, room.raceProgress.finishTimes.lookup playerId = some time →
    room'.raceProgress.finishTimes.lookup playerId = some time
  /-- A settlement begins once. -/
  settlement : ∀ {s}, room.raceProgress.settlement = some s → ∃ s',
    room'.raceProgress.settlement = some s' ∧ s'.endTick = s.endTick ∧ s'.deadline = s.deadline
  /-- It is planned once, and then nobody finishes any more. -/
  plan : ∀ {ranking rewards}, room.plan? = some (ranking, rewards) →
    room'.raceProgress.finishTimes = room.raceProgress.finishTimes ∧ ∃ rewards',
      room'.plan? = some (ranking, rewards') ∧ List.Forall₂ Onward rewards rewards'

theorem GoesOn.of_progress (hstage : room.phase.stage ≤ room'.phase.stage)
    (hfence : room'.raceFence = room.raceFence)
    (hroster : room'.frozenRace.map FrozenRaceRoster.skeleton =
      room.frozenRace.map FrozenRaceRoster.skeleton)
    (hprogress : room'.raceProgress = room.raceProgress) : room.GoesOn room' where
  stage := hstage
  fence := hfence
  roster := hroster
  finish := fun h => hprogress ▸ h
  settlement := fun {s} h => ⟨s, hprogress ▸ h, rfl, rfl⟩
  plan := fun {ranking rewards} h => by
    refine ⟨by rw [hprogress], rewards, ?_, List.forall₂_same.mpr fun e _ => .refl e⟩
    unfold plan? finalization? at h ⊢
    rwa [hprogress]

theorem GoesOn.refl (room : ProtocolRoomState) : room.GoesOn room :=
  .of_progress (Nat.le_refl _) rfl rfl rfl

theorem GoesOn.trans (h : room.GoesOn room') (h' : room'.GoesOn room'') : room.GoesOn room'' where
  stage := Nat.le_trans h.stage h'.stage
  fence := h'.fence.trans h.fence
  roster := h'.roster.trans h.roster
  finish := fun ht => h'.finish (h.finish ht)
  settlement := fun hs => by
    obtain ⟨s', hs', htick, hdeadline⟩ := h.settlement hs
    obtain ⟨s'', hs'', htick', hdeadline'⟩ := h'.settlement hs'
    exact ⟨s'', hs'', htick'.trans htick, hdeadline'.trans hdeadline⟩
  plan := fun hp => by
    obtain ⟨htimes, rewards', hp', hon⟩ := h.plan hp
    obtain ⟨htimes', rewards'', hp'', hon'⟩ := h'.plan hp'
    exact ⟨htimes'.trans htimes, rewards'', hp'', forall₂_onward_trans hon hon'⟩

theorem SameRun.goesOn (h : room.SameRun room') : room.GoesOn room' :=
  .of_progress (by rw [h.phase]) h.fence (by rw [h.frozen]) h.progress

/-- A settlement whose finalization is rewritten. -/
theorem GoesOn.refinalize {f : SettlementFinalization → SettlementFinalization}
    (hf : ∀ finalization, room.finalization? = some finalization → ∀ ranking rewards,
      finalization.plan? = some (ranking, rewards) → ∃ rewards',
        (f finalization).plan? = some (ranking, rewards') ∧
          List.Forall₂ Onward rewards rewards') : room.GoesOn (room.setFinalization f) where
  stage := Nat.le_refl _
  fence := rfl
  roster := rfl
  finish := fun h => h
  settlement := fun {s} h => by
    refine ⟨{ s with finalization := f s.finalization }, ?_, rfl, rfl⟩
    unfold setFinalization
    rw [h]
    rfl
  plan := fun {ranking rewards} h => by
    obtain ⟨finalization, hk, hp⟩ := Option.bind_eq_some_iff.mp h
    obtain ⟨rewards', hp', hon⟩ := hf finalization hk ranking rewards hp
    have hk' : (room.setFinalization f).finalization? = some (f finalization) := by
      rw [setFinalization_finalization?, hk]
      rfl
    exact ⟨rfl, rewards', (plan_of hk').trans hp', hon⟩

/-- The status of an entry that is not durable is rewritten. -/
theorem Accounts.setStatus_goesOn (h : room.Accounts) {userNo : UserNo}
    {entry : RewardPersistenceEntry} (he : room.rewardEntry? userNo = some entry)
    (hs : entry.status.isDurable = false) (status : RewardPersistenceStatus) :
    room.GoesOn (room.setStatus userNo status) := by
  obtain ⟨ranking, rewards, hk, hmem, hu⟩ := persisting_of_entry he
  have hp : room.plan? = some (ranking, rewards) := plan_of hk
  refine .refinalize fun finalization hk' ranking' rewards' hplan => ?_
  rw [hk] at hk'
  cases hk'
  cases hplan
  refine ⟨setRewardStatus rewards userNo status, rfl, ?_⟩
  rw [setRewardStatus_eq (h.owed hp).2]
  refine forall₂_onward_map fun e hmem' => ?_
  split
  next heq =>
    -- it is the one entry of the user
    have hsame := h.entry_unique hp hmem' hmem ((of_decide_eq_true heq).trans hu.symm)
    exact .set (hsame ▸ hs) status
  next => exact .refl e

theorem failSettlement_goesOn (room : ProtocolRoomState) (reason : RewardTerminalReason)
    (userNo : Option UserNo) (nickname : Option Text) :
    room.GoesOn (room.failSettlement reason userNo nickname) := by
  refine .refinalize fun finalization _ ranking rewards hp => ⟨rewards, ?_, ?_⟩
  · rw [← hp]
    cases finalization <;> rfl
  · exact List.forall₂_same.mpr fun e _ => .refl e

/-- **Paying a race moves nothing but the statuses that are not durable.** -/
theorem Accounts.reward_goesOn (h : room.Accounts) (e : room.RewardEdit issued room') :
    room.GoesOn room' := by
  have hsame : ∀ rewards : List RewardPersistenceEntry, List.Forall₂ Onward rewards rewards :=
    fun _ => List.forall₂_same.mpr fun e _ => .refl e
  cases e with
  | plan =>
    unfold ProtocolRoomState.beginRewardPersistence
    split
    next hk =>
      have hnone : ∀ {f}, room.GoesOn (room.setFinalization f) := by
        intro f
        refine .refinalize fun finalization hk' ranking rewards hp => ?_
        rw [hk] at hk'
        cases hk'
        cases hp
      split <;> exact hnone
    next => exact .refl room
  | issue _ entry_ queued => exact h.setStatus_goesOn entry_ (by rw [queued]; rfl) _
  | requeue task_ inFlight => exact h.setStatus_goesOn task_.2.1 (by rw [inFlight]; rfl) _
  | @durable task _ _ _ applied task_ inFlight _ =>
    have hon := h.setStatus_goesOn task_.2.1 (by rw [inFlight]; rfl) (.durable applied)
    refine ⟨hon.stage, hon.fence, ?_, hon.finish, hon.settlement, hon.plan⟩
    exact (applyReward_edit room task applied).2.frozen
  | orphan task_ inFlight => exact h.setStatus_goesOn task_.2.1 (by rw [inFlight]; rfl) _
  | ready =>
    unfold ProtocolRoomState.prepareReadySettlement
    split
    next ranking rewards hk =>
      split
      next =>
        split
        next packets _ =>
          show room.GoesOn (room.setFinalization fun _ => .ready ranking rewards packets)
          refine .refinalize fun finalization hk' ranking' rewards' hp => ?_
          rw [hk] at hk'
          cases hk'
          exact ⟨rewards', hp, hsame _⟩
        next => exact failSettlement_goesOn room _ _ _
      next => exact .refl room
    next => exact .refl room
  | fail => exact failSettlement_goesOn room _ _ _
  | retry retried =>
    obtain ⟨failed, ranking, hk, hranking, -, -, rfl⟩ := retryDeadLetter_ok retried
    refine .refinalize fun finalization hk' ranking' rewards' hp => ?_
    rw [hk] at hk'
    cases hk'
    have hplan : failed.ranking.map (·, failed.rewards) = some (ranking', rewards') := hp
    rw [hranking] at hplan
    cases hplan
    refine ⟨_, rfl, forall₂_onward_map fun e _ => ?_⟩
    unfold requeue
    split
    next => exact .refl e
    next hs => exact .set (by simpa using hs) _

/-- Before a settlement there is no plan. -/
theorem RaceOk.unplanned (h : room.RaceOk) (hp : room.phase ≠ .settling) :
    room.raceProgress.settlement = none ∧ room.plan? = none := by
  have hs : room.raceProgress.settlement = none :=
    Option.not_isSome_iff_eq_none.mp fun hsome => hp (h.settling.mp hsome)
  refine ⟨hs, ?_⟩
  unfold plan? finalization?
  rw [hs]
  rfl

/-- Where nothing is planned, a race may finish for one who has not. -/
theorem GoesOn.of_finish {playerId : Int} {raceTime : Nat}
    (hnew : room.raceProgress.finishTimes.lookup playerId = none)
    (htimes : room'.raceProgress.finishTimes =
      room.raceProgress.finishTimes.insert playerId raceTime)
    (hstage : room.phase.stage ≤ room'.phase.stage) (hfence : room'.raceFence = room.raceFence)
    (hroster : room'.frozenRace = room.frozenRace) (hplan : room.plan? = none)
    (hs : ∀ {s}, room.raceProgress.settlement = some s →
      room'.raceProgress.settlement = some s) : room.GoesOn room' where
  stage := hstage
  fence := hfence
  roster := by rw [hroster]
  finish := fun {other time} ht => by
    rw [htimes, Map.lookup_insert_ite, if_neg]
    · exact ht
    · rintro rfl
      rw [hnew] at ht
      cases ht
  settlement := fun {s} h => ⟨s, hs h, rfl, rfl⟩
  plan := fun h => by
    rw [hplan] at h
    cases h

theorem RoomEdit.goesOn (e : room.RoomEdit issued room') (hok : room.RoomOk)
    (ha : room.Accounts) : room.GoesOn room' := by
  cases e with
  | touch _ course =>
    exact .of_progress (by rw [course.phase]) course.fence course.frozen course.progress
  | reseat _ reseat => exact reseat.sameRun.goesOn
  | run loading =>
    refine .of_progress ?_ rfl rfl rfl
    rw [loading]
    show 1 ≤ 2
    omega
  | first running _ new _ =>
    obtain ⟨hs, hp⟩ := hok.race.unplanned (by rw [running]; exact RoomPhase.noConfusion)
    refine .of_finish new rfl ?_ rfl rfl hp fun h => ?_
    · rw [running]
      show 2 ≤ 3
      omega
    · rw [hs] at h
      cases h
  | late _ _ open_ new _ =>
    refine .of_finish new rfl (Nat.le_refl _) rfl rfl ?_ fun h => h
    unfold plan?
    cases hk : room.finalization? with
    | none => rfl
    | some finalization => rw [open_ _ hk]; rfl
  | settle running =>
    obtain ⟨hs, hp⟩ := hok.race.unplanned (by rw [running]; exact RoomPhase.noConfusion)
    refine ⟨?_, rfl, rfl, fun h => h, fun h => ?_, fun h => ?_⟩
    · rw [running]
      show 2 ≤ 3
      omega
    · rw [hs] at h
      cases h
    · rw [hp] at h
      cases h
  | flush =>
    exact ⟨Nat.le_refl _, rfl, rfl, fun h => h, fun {s} h => ⟨s, h, rfl, rfl⟩,
      fun {_ rewards} h => ⟨rfl, rewards, h, List.forall₂_same.mpr fun e _ => .refl e⟩⟩
  | reward e => exact ha.reward_goesOn e

theorem RoomMoves.fence (e : room.RoomMoves room') : room'.raceFence = room.raceFence := by
  induction e with
  | refl => rfl
  | tail _ move ih =>
    refine Eq.trans ?_ ih
    cases move with
    | touch _ race => exact race.fence
    | reseat _ reseat => exact reseat.sameRun.fence
    | run => rfl
    | settle => rfl

end ProtocolRoomState

section Steps

variable {active : UserNo → Option IdentityBinding} {issued : Option RewardAttemptId}
  {t t' : ProtocolTables} {id k : RoomId} {room room' : ProtocolRoomState} {fence : RaceFence}

/-- A race goes on or is over, or one begins where there was none. -/
theorem RoomStep.race (hok : room.RoomOk) (ha : room.Accounts)
    (hs : RoomStep active issued t id room (some room')) :
    room.GoesOn room' ∨ room'.raceFence = none ∨ room.raceFence = none := by
  generalize hv : some room' = v at hs
  cases hs with
  | stay => cases hv; exact .inl (.refl room)
  | edit edit => cases hv; exact .inl (edit.goesOn hok ha)
  | enter lobby _ => exact .inr (.inr (hok.race.idle lobby).1)
  | leave removed =>
    split at hv
    next => cases hv
    next => cases hv; exact .inl (removeUser_sameRun removed).goesOn
  | start lobby => exact .inr (.inr (hok.race.idle lobby).1)
  | abort => cases hv; exact .inr (.inl rfl)
  | finalize =>
    split at hv
    next => cases hv
    next => cases hv; exact .inr (.inl rfl)

/-- A fence comes only with the epoch that a start takes. -/
theorem TablesOk.fence_step (h : TablesOk t) (e : TableEdit active issued t t')
    (hk : t'.protocolRooms.lookup k = some room') (hf : room'.raceFence = some fence) :
    (∃ room, t.protocolRooms.lookup k = some room ∧ room.raceFence = some fence) ∨
      (t.nextRaceEpoch = some fence.raceEpoch ∧
        t'.nextRaceEpoch = World.followingRaceEpoch fence.raceEpoch) := by
  -- a room that is replaced has its old fence or none
  have key : ∀ {id room} {v : Option ProtocolRoomState},
      t.protocolRooms.lookup id = some room →
      (∀ k, t'.protocolRooms.lookup k = if k = id then v else t.protocolRooms.lookup k) →
      (∀ next, v = some next → next.raceFence = room.raceFence ∨ next.raceFence = none) →
      ∃ room, t.protocolRooms.lookup k = some room ∧ room.raceFence = some fence := by
    intro id room v hp hrooms hv
    rw [hrooms] at hk
    by_cases heq : k = id
    · rw [if_pos heq] at hk
      rcases hv room' hk with hsame | hnone
      · exact ⟨room, heq ▸ hp, hsame ▸ hf⟩
      · rw [hnone] at hf
        cases hf
    · rw [if_neg heq] at hk
      exact ⟨room', hk, hf⟩
  have hleave : ∀ {room next : ProtocolRoomState} {userNo : UserNo},
      room.removeUser userNo = some next → ∀ left,
        (if next.removable then none else some next) = some left →
          left.raceFence = room.raceFence ∨ left.raceFence = none := by
    intro room next userNo hr left hleft
    split at hleft
    next => cases hleft
    next => cases hleft; exact .inl (removeUser_sameRun hr).fence
  cases e with
  | ids free => exact .inl ⟨room', hk, hf⟩
  | room present edit =>
    refine .inl (key present (lookup_putRoom t _ · _) fun next hn => ?_)
    cases hn
    exact .inl (RoomMoves.fence edit.moves)
  | seat present lobby new added =>
    refine .inl (key present (fun _ => Map.lookup_insert_ite _ _ _ _) fun next hn => ?_)
    cases hn
    exact .inl (addParticipant_sameRun added).fence
  | unseat userNo =>
    cases hi : t.protocolRoomByUser.lookup userNo with
    | none =>
      rw [removeUser_absent hi] at hk
      exact .inl ⟨room', hk, hf⟩
    | some id =>
      obtain ⟨room, hp, hu⟩ := h.index.mp hi
      obtain ⟨next, hr⟩ := removeUser_isSome hu
      exact .inl (key hp (h.removeUser_lookup hp hr) (hleave hr))
  | @kick id room userNo present lobby member =>
    obtain ⟨next, hr⟩ := removeUser_isSome member
    have hl : next.phase = .lobby := (removeUser_sameRun hr).phase.trans lobby
    refine .inl (key (v := if next.removable then none else some next) present (fun k => ?_)
      (hleave hr))
    unfold World.kickTables
    rw [hr, Option.getD_some, removable_of_lobby hl]
    dsimp only
    split
    next => exact lookup_removeRoom _ _ _
    next => exact lookup_putRoom _ _ _ _
  | @start id room next epoch roster present lobby racers free epoch_ same frozen =>
    have hput : (t.putRoom id (World.loadingRoom next ⟨id, epoch⟩ roster)).protocolRooms.lookup k =
      some room' := hk
    rw [lookup_putRoom] at hput
    split at hput
    next =>
      cases hput
      cases hf
      exact .inr ⟨epoch_, rfl⟩
    next => exact .inl ⟨room', hput, hf⟩
  | @abort id room present loading =>
    refine .inl (key (v := some room.abortLoading) present (fun k => ?_) fun next hn => ?_)
    · rw [lookup_putRoom, releaseFence_rooms]
    · cases hn
      exact .inr rfl
  | @finalize id room ranking rewards packets present ready =>
    refine .inl (key (v := if room.isEmpty then none
      else some (room.finalizeSettlement ranking)) present (fun k => ?_) fun next hn => ?_)
    · unfold World.finalizeTables
      dsimp only
      split
      next => rw [lookup_removeRoom, releaseFence_rooms]
      next => rw [lookup_putRoom, releaseFence_rooms]
    · split at hn
      next => cases hn
      next => cases hn; exact .inr rfl

end Steps

/-! ## Every run -/

namespace World

variable {H Q P : Type} {env : WorldEnv H Q P} {w w' : World H} {fence : RaceFence}
  {room room' : ProtocolRoomState}

/-- The race of a fence is on. -/
def Racing (w : World H) (fence : RaceFence) : Prop :=
  ∃ room, w.room? fence.roomId = some room ∧ room.raceFence = some fence

/-- The epochs from here on are later than that of a fence. -/
def Epoch (w : World H) (fence : RaceFence) : Prop :=
  ∀ epoch, w.protocol.nextRaceEpoch = some epoch → fence.raceEpoch.get < epoch.get

theorem Epoch.grow (h : w.Epoch fence) (hg : EpochsGrow w.protocol w'.protocol) :
    w'.Epoch fence := by
  intro epoch he
  obtain ⟨before, hbefore, hle⟩ := hg epoch he
  have hlt := h before hbefore
  omega

/-- A room that is opened has no race. -/
theorem racing_of_opens {participant : RoomParticipant}
    (open_ : Opens participant w.protocol w'.protocol)
    (hr : w'.room? fence.roomId = some room) (hf : room.raceFence = some fence) :
    w.room? fence.roomId = some room := by
  have hroom : w'.protocol.protocolRooms.lookup fence.roomId = some room := hr
  generalize w'.protocol = t' at open_ hroom
  cases open_ with
  | open_ _ _ _ _ _ added =>
    rw [Map.lookup_insert_ite] at hroom
    split at hroom
    next =>
      cases hroom
      rw [(addParticipant_sameRun added).fence] at hf
      cases hf
    next => exact hroom

/-- A race that is on was on, or has just begun. -/
theorem Ok.racing_onward (h : w.Ok env) (e : Onward env w w') (hr : w'.Racing fence) :
    w.Racing fence ∨ (w.protocol.nextRaceEpoch = some fence.raceEpoch ∧ w'.Epoch fence) := by
  obtain ⟨room', hr', hf⟩ := hr
  cases e with
  | edit edit =>
    cases edit with
    | identities tables _ _ =>
      unfold World.room? at hr'
      rw [tables] at hr'
      exact .inl ⟨room', hr', hf⟩
    | tables _ _ edit =>
      rcases h.tables.fence_step edit hr' hf with ⟨room, hr, hf⟩ | ⟨hnext, hnext'⟩
      · exact .inl ⟨room, hr, hf⟩
      · refine .inr ⟨hnext, fun epoch he => ?_⟩
        rw [hnext'] at he
        have hget := followingRaceEpoch_get he
        omega
  | opens _ _ open_ => exact .inl ⟨room', racing_of_opens open_ hr' hf, hf⟩

/-- Where the next epoch is later, the race of a fence cannot begin. -/
theorem Epoch.racing (h : w.Epoch fence) (hok : w.Ok env) (e : Onward env w w')
    (hr : w'.Racing fence) : w.Racing fence := by
  rcases hok.racing_onward e hr with hbefore | ⟨hnext, -⟩
  · exact hbefore
  · exact absurd (h _ hnext) (Nat.lt_irrefl _)

theorem Visited.epoch (h : w.Visited env) : ∀ {fence}, w.Racing fence → w.Epoch fence := by
  refine h.induction (C := fun w => ∀ {fence}, w.Racing fence → w.Epoch fence) ?_ ?_
  · rintro fence ⟨room, hr, _⟩
    cases hr
  · intro w w' hok ih e fence hr
    rcases hok.racing_onward e hr with hbefore | ⟨-, hafter⟩
    · exact (ih hbefore).grow e.epochsGrow
    · exact hafter

/-- One step of a race that was on and is on. -/
theorem Ok.goesOn (h : w.Ok env) (ha : w.Accounted) (e : Onward env w w')
    (hr : w.room? fence.roomId = some room) (hf : room.raceFence = some fence)
    (hr' : w'.room? fence.roomId = some room') (hf' : room'.raceFence = some fence) :
    room.GoesOn room' := by
  have hsame : w'.room? fence.roomId = w.room? fence.roomId → room.GoesOn room' := by
    intro heq
    rw [heq, hr] at hr'
    cases hr'
    exact .refl room
  cases e with
  | edit edit =>
    cases edit with
    | identities tables _ _ =>
      refine hsame ?_
      unfold World.room?
      rw [tables]
    | tables _ _ edit =>
      have hstep := h.tables.roomStep edit hr
      rw [show w'.protocol.protocolRooms.lookup fence.roomId = some room' from hr'] at hstep
      rcases hstep.race (h.tables.rooms hr).2 (ha hr) with hgo | hnone | hnone
      · exact hgo
      · rw [hnone] at hf'
        cases hf'
      · rw [hnone] at hf
        cases hf
  | opens _ _ open_ => exact hsame (hr'.trans (racing_of_opens open_ hr' hf').symm)

/-- **One race, at any two moments at which it is on**; it was on all the time between. -/
theorem race_goes_on (h : w.Visited env) (e : Later env w w')
    (hr : w.room? fence.roomId = some room) (hf : room.raceFence = some fence)
    (hr' : w'.room? fence.roomId = some room') (hf' : room'.raceFence = some fence) :
    room.GoesOn room' ∧ ∀ {w₁}, Later env w w₁ → Later env w₁ w' → w₁.Racing fence := by
  have hepoch : w.Epoch fence := h.epoch ⟨room, hr, hf⟩
  constructor
  · induction e generalizing room' with
    | refl =>
      rw [hr] at hr'
      cases hr'
      exact .refl room
    | @tail w₁ w₂ e step ih =>
      have h₁ := h.later e
      obtain ⟨room₁, hr₁, hf₁⟩ :=
        (hepoch.grow (Later.epochsGrow e)).racing h₁.ok step ⟨room', hr', hf'⟩
      exact (ih hr₁ hf₁).trans (h₁.ok.goesOn (visited_accounted h₁) step hr₁ hf₁ hr' hf')
  · intro w₁ e₁ e₂
    -- back from the end, each step leaves the race on before it
    have h₁ := h.later e₁
    have hepoch₁ := hepoch.grow (Later.epochsGrow e₁)
    have hlast : w'.Racing fence := ⟨room', hr', hf'⟩
    clear hr' hf' e
    induction e₂ with
    | refl => exact hlast
    | tail e step ih =>
      exact ih ((hepoch₁.grow (Later.epochsGrow e)).racing (h₁.later e).ok step hlast)

end World

/-- The race of `finishRun` is the one that `payRun` settles. -/
theorem payRun_goes_on : ∃ fence room room',
    finishRun.2.world.room? fence.roomId = some room ∧ room.raceFence = some fence ∧
      payRun.2.world.room? fence.roomId = some room' ∧ room.GoesOn room' := by
  have hbefore : ((finishRun.2.world.room? ⟨1⟩).bind (·.raceFence)).map (·.roomId) =
      some ⟨1⟩ := by decide +kernel
  have hafter : (payRun.2.world.room? ⟨1⟩).bind (·.raceFence) =
      (finishRun.2.world.room? ⟨1⟩).bind (·.raceFence) := by decide +kernel
  obtain ⟨fence, hfence, hid⟩ := Option.map_eq_some_iff.mp hbefore
  rw [hfence] at hafter
  rw [← hid] at hfence hafter
  obtain ⟨room, hr, hf⟩ := Option.bind_eq_some_iff.mp hfence
  obtain ⟨room', hr', hf'⟩ := Option.bind_eq_some_iff.mp hafter
  exact ⟨fence, room, room', hr, hf, hr',
    (World.race_goes_on finishRun_visited payRun_later hr hf hr' hf').1⟩

end P4475
