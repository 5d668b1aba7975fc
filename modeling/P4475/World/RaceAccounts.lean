import P4475.Lib.FirstMatch
import P4475.World.Lanes
import P4475.World.LobbyBatches

/-!
# The accounts of a race

What the settlement of a race owes and has paid, in its two copies: the reward entries of
the plan, and the frozen results that the ceremony shows. The two agree in every world of
every run, one account for each human racer, whatever workers answer and in which order.
-/

namespace P4475

open Lib ProtocolRoomState

/-- What a racer is owed or has been paid. -/
structure RaceAccount where
  userNo : UserNo
  nickname : Text
  playerId : Int
  economy : Option FrozenResultEconomy
  deriving DecidableEq

/-- What the frozen result of a racer shows. -/
def FrozenRaceParticipant.account (p : FrozenRaceParticipant) : RaceAccount :=
  ⟨p.identity.userNo, p.nickname, p.playerId, p.result.map (·.economy)⟩

def FrozenRaceRoster.accounts (roster : FrozenRaceRoster) : List RaceAccount :=
  roster.humans.map (·.account)

def RewardPersistenceStatus.economy : RewardPersistenceStatus → FrozenResultEconomy
  | .queued _ _ => .pending
  | .inFlight _ _ _ => .pending
  | .durable reward => .applied reward

/-- What an entry of the plan says. -/
def RewardPersistenceEntry.account (e : RewardPersistenceEntry) : RaceAccount :=
  ⟨e.userNo, e.nickname, e.playerId, some e.status.economy⟩

/-- The ranking and the entries that a settlement has planned. -/
def SettlementFinalization.plan? :
    SettlementFinalization → Option (SettlementRanking × List RewardPersistenceEntry)
  | .awaitingDeadline => none
  | .persisting ranking rewards => some (ranking, rewards)
  | .ready ranking rewards _ => some (ranking, rewards)
  | .failed state => state.ranking.map (·, state.rewards)

/-- The account of a user with something new in it. -/
def RaceAccount.set (userNo : UserNo) (economy : FrozenResultEconomy) (a : RaceAccount) :
    RaceAccount :=
  if a.userNo = userNo then { a with economy := some economy } else a

theorem RaceAccount.set_userNo (userNo : UserNo) (economy : FrozenResultEconomy)
    (a : RaceAccount) : (a.set userNo economy).userNo = a.userNo := by
  unfold set
  split <;> rfl

namespace FrozenRaceRoster

variable {roster roster' : FrozenRaceRoster}

theorem accounts_eq (roster : FrozenRaceRoster) :
    roster.accounts = ((roster.skeleton.participants.zip roster.economies).filter
      (!·.1.observer)).map fun a => ⟨a.1.identity.userNo, a.1.nickname, a.1.playerId, a.2⟩ := by
  unfold accounts humans skeleton economies
  rw [List.zip_map', List.filter_map, List.map_map]
  rfl

/-- The accounts do not look at the rest of a result. -/
theorem accounts_congr (hs : roster'.skeleton = roster.skeleton)
    (he : roster'.economies = roster.economies) : roster'.accounts = roster.accounts := by
  rw [accounts_eq, accounts_eq, hs, he]

end FrozenRaceRoster

namespace ProtocolRoomState

variable {room room' : ProtocolRoomState} {issued : Option RewardAttemptId}

def plan? (room : ProtocolRoomState) :
    Option (SettlementRanking × List RewardPersistenceEntry) :=
  room.finalization?.bind (·.plan?)

/-- The accounts that the plan keeps. -/
def owed? (room : ProtocolRoomState) : Option (List RaceAccount) :=
  room.plan?.map fun plan => plan.2.map (·.account)

/-- The accounts that the results show. -/
def shown? (room : ProtocolRoomState) : Option (List RaceAccount) :=
  room.frozenRace.map (·.accounts)

section Lookups

variable {finalization : SettlementFinalization}

theorem plan_of (hk : room.finalization? = some finalization) :
    room.plan? = finalization.plan? := by
  unfold plan?
  rw [hk]
  rfl

theorem owed_of (hk : room.finalization? = some finalization) :
    room.owed? = finalization.plan?.map fun plan => plan.2.map (·.account) := by
  unfold owed?
  rw [plan_of hk]

theorem owed_congr (hk : room'.finalization? = room.finalization?) :
    room'.owed? = room.owed? := by
  unfold owed? plan?
  rw [hk]

theorem shown_of {roster : FrozenRaceRoster} (hf : room.frozenRace = some roster) :
    room.shown? = some roster.accounts := by
  unfold shown?
  rw [hf]
  rfl

theorem shown_congr (hf : room'.frozenRace = room.frozenRace) : room'.shown? = room.shown? := by
  unfold shown?
  rw [hf]

end Lookups

/-- The accounts of a room are in order. -/
structure Accounts (room : ProtocolRoomState) : Prop where
  /-- Nobody has two accounts. -/
  once : ∀ {accounts}, room.shown? = some accounts → (accounts.map (·.userNo)).Nodup
  /-- Before the plan nothing is paid. -/
  unpaid : ∀ {accounts}, room.shown? = some accounts → room.owed? = none →
    ∀ a ∈ accounts, a.economy = some .pending
  /-- From then on the entries say what the results show. -/
  planned : ∀ {accounts}, room.owed? = some accounts → room.shown? = some accounts
  /-- The ceremony waits for everybody's reward. -/
  ready : ∀ {ranking rewards packets},
    room.finalization? = some (.ready ranking rewards packets) →
      ∀ e ∈ rewards, e.status.isDurable = true

/-- Where the accounts are the same, only a settlement that gets ready needs a look. -/
theorem Accounts.congr (h : room.Accounts) (hs : room'.shown? = room.shown?)
    (ho : room'.owed? = room.owed?)
    (hr : ∀ {ranking rewards packets}, room'.finalization? = some (.ready ranking rewards packets) →
      ∀ e ∈ rewards, e.status.isDurable = true) : room'.Accounts where
  once := fun ha => h.once (hs ▸ ha)
  unpaid := fun ha hn => h.unpaid (hs ▸ ha) (ho ▸ hn)
  planned := fun ha => hs ▸ h.planned (ho ▸ ha)
  ready := hr

/-- Nothing is known of a race that is over. -/
theorem Accounts.of_idle (hf : room.frozenRace = none) (hs : room.finalization? = none) :
    room.Accounts where
  once := fun ha => by
    unfold shown? at ha
    rw [hf] at ha
    cases ha
  unpaid := fun ha => by
    unfold shown? at ha
    rw [hf] at ha
    cases ha
  planned := fun ha => by
    unfold owed? plan? at ha
    rw [hs] at ha
    cases ha
  ready := fun ha => by
    rw [hs] at ha
    cases ha

theorem Accounts.sameRun (h : room.Accounts) (hr : room.SameRun room') : room'.Accounts := by
  have hk : room'.finalization? = room.finalization? := by
    unfold finalization?
    rw [hr.progress]
  exact h.congr (shown_congr hr.frozen) (owed_congr hk) fun hready => h.ready (hk ▸ hready)

/-! ## Statuses -/

theorem persisting_of_entry {userNo : UserNo} {entry : RewardPersistenceEntry}
    (h : room.rewardEntry? userNo = some entry) : ∃ ranking rewards,
      room.finalization? = some (.persisting ranking rewards) ∧ entry ∈ rewards ∧
        entry.userNo = userNo := by
  unfold rewardEntry? persisting? at h
  split at h
  next ranking rewards hk =>
    rw [Option.bind_some] at h
    exact ⟨ranking, rewards, hk, List.mem_of_find?_eq_some h,
      by simpa using List.find?_some h⟩
  next => cases h

/-- An entry that gets a new status, where users have one entry each. -/
theorem setRewardStatus_eq {rewards : List RewardPersistenceEntry}
    (hn : (rewards.map (·.userNo)).Nodup) (userNo : UserNo) (status : RewardPersistenceStatus) :
    setRewardStatus rewards userNo status = rewards.map fun e =>
      if decide (e.userNo = userNo) then { e with status := status } else e := by
  have hone : rewards.Pairwise fun a b =>
      decide (a.userNo = userNo) = true → decide (b.userNo = userNo) = false := by
    refine (List.pairwise_map.mp hn).imp fun {a b} hne ha => ?_
    rw [decide_eq_true_iff] at ha
    exact decide_eq_false fun hb => hne (ha.trans hb.symm)
  unfold setRewardStatus
  split
  next hk => exact (map_unmatched hk).symm
  next k hk => exact modify_first hk hone

theorem setRewardStatus_accounts {rewards : List RewardPersistenceEntry}
    (hn : (rewards.map (·.userNo)).Nodup) (userNo : UserNo) (status : RewardPersistenceStatus) :
    (setRewardStatus rewards userNo status).map (·.account) =
      (rewards.map (·.account)).map (RaceAccount.set userNo status.economy) := by
  rw [setRewardStatus_eq hn, List.map_map, List.map_map]
  refine List.map_congr_left fun e _ => ?_
  show RewardPersistenceEntry.account (if decide (e.userNo = userNo) then _ else e) =
    RaceAccount.set userNo _ e.account
  unfold RaceAccount.set
  by_cases hu : e.userNo = userNo
  · rw [if_pos (decide_eq_true hu), if_pos (show e.account.userNo = userNo from hu)]
    rfl
  · rw [if_neg (by simp [hu]), if_neg (show ¬ e.account.userNo = userNo from hu)]

theorem Accounts.owed (h : room.Accounts) {ranking : SettlementRanking}
    {rewards : List RewardPersistenceEntry} (hp : room.plan? = some (ranking, rewards)) :
    room.owed? = some (rewards.map (·.account)) ∧ (rewards.map (·.userNo)).Nodup := by
  have ho : room.owed? = some (rewards.map (·.account)) := by
    unfold owed?
    rw [hp]
    rfl
  refine ⟨ho, ?_⟩
  have hn := h.once (h.planned ho)
  rwa [List.map_map] at hn

/-- The entry of a user is the only one of his. -/
theorem Accounts.entry_unique (h : room.Accounts) {ranking : SettlementRanking}
    {rewards : List RewardPersistenceEntry} (hp : room.plan? = some (ranking, rewards))
    {e e' : RewardPersistenceEntry} (he : e ∈ rewards) (he' : e' ∈ rewards)
    (hu : e.userNo = e'.userNo) : e = e' :=
  List.inj_on_of_nodup_map (h.owed hp).2 he he' hu

/-- A status that pays nothing leaves the accounts alone. -/
theorem Accounts.setStatus (h : room.Accounts) {userNo : UserNo} {entry : RewardPersistenceEntry}
    {status : RewardPersistenceStatus} (he : room.rewardEntry? userNo = some entry)
    (hs : status.economy = entry.status.economy) : (room.setStatus userNo status).Accounts := by
  obtain ⟨ranking, rewards, hk, hmem, hu⟩ := persisting_of_entry he
  have hp : room.plan? = some (ranking, rewards) := plan_of hk
  have hk' : (room.setStatus userNo status).finalization? =
      some (.persisting ranking (setRewardStatus rewards userNo status)) := by
    unfold ProtocolRoomState.setStatus
    rw [setFinalization_finalization?, hk]
    rfl
  obtain ⟨ho, hn⟩ := h.owed hp
  refine h.congr rfl ?_ fun hready => ?_
  · have hsame : (setRewardStatus rewards userNo status).map (·.account) =
        rewards.map (·.account) := by
      rw [setRewardStatus_accounts hn]
      refine (List.map_congr_left fun a ha => ?_).trans (List.map_id _)
      obtain ⟨e, hmem', rfl⟩ := List.mem_map.mp ha
      unfold RaceAccount.set
      split
      next hu' =>
        have heq := h.entry_unique hp hmem' hmem (Eq.trans hu' hu.symm)
        rw [hs, heq]
        rfl
      next => rfl
    rw [ho, owed_of hk']
    exact congrArg some hsame
  · rw [hk'] at hready
    cases hready

/-- The racer whom a current task is about, as the results show him. -/
theorem Accounts.racer (h : room.Accounts) {task : RewardSettlementTask}
    {entry : RewardPersistenceEntry} (ht : room.TaskOf task entry) : ∃ ranking rewards roster,
      room.finalization? = some (.persisting ranking rewards) ∧ entry ∈ rewards ∧
        (rewards.map (·.userNo)).Nodup ∧ room.frozenRace = some roster ∧
        rewards.map (·.account) = roster.accounts ∧
        ∀ p ∈ roster.humans, p.account.userNo = task.userNo → p.account = entry.account := by
  obtain ⟨-, he, -⟩ := ht
  obtain ⟨ranking, rewards, hk, hmem, hu⟩ := persisting_of_entry he
  have hp : room.plan? = some (ranking, rewards) := plan_of hk
  obtain ⟨ho, hn⟩ := h.owed hp
  obtain ⟨roster, hf, hshown⟩ := Option.map_eq_some_iff.mp (h.planned ho)
  refine ⟨ranking, rewards, roster, hk, hmem, hn, hf, hshown.symm, fun p hp' hpu => ?_⟩
  have hacc : p.account ∈ rewards.map (·.account) := hshown ▸ List.mem_map_of_mem hp'
  obtain ⟨e, hmem', heq⟩ := List.mem_map.mp hacc
  have heu : e.userNo = task.userNo := (congrArg RaceAccount.userNo heq).trans hpu
  rw [← heq, h.entry_unique hp hmem' hmem (heu.trans hu.symm)]

theorem rewardedParticipant_iff {task : RewardSettlementTask} {p : FrozenRaceParticipant} :
    rewardedParticipant task p = true ↔
      p.observer = false ∧ p.identity.userNo = task.userNo ∧ p.nickname = task.nickname := by
  unfold rewardedParticipant
  rw [decide_eq_true_iff, Bool.not_eq_true']

/-- Every racer of a plan has a result to write his reward to. -/
theorem Accounts.hasResult (h : room.Accounts) {task : RewardSettlementTask}
    {entry : RewardPersistenceEntry} (ht : room.TaskOf task entry) {roster : FrozenRaceRoster}
    (hf : room.frozenRace = some roster)
    (hp : ∃ p ∈ roster.participants, rewardedParticipant task p = true) :
    room.hasResult task = true := by
  obtain ⟨ranking, rewards, roster', -, -, -, hf', -, hracer⟩ := h.racer ht
  rw [hf] at hf'
  cases hf'
  obtain ⟨q, hq⟩ : ∃ q, roster.participants.find? (rewardedParticipant task) = some q :=
    Option.isSome_iff_exists.mp (List.find?_isSome.mpr hp)
  obtain ⟨ho, hu, -⟩ := rewardedParticipant_iff.mp (List.find?_some hq)
  have hh : q ∈ roster.humans :=
    List.mem_filter.mpr ⟨List.mem_of_find?_eq_some hq, by rw [ho]; rfl⟩
  have heconomy := congrArg RaceAccount.economy (hracer q hh hu)
  have hsome : q.result.map (·.economy) = some entry.status.economy := heconomy
  obtain ⟨result, hresult, -⟩ := Option.map_eq_some_iff.mp hsome
  unfold ProtocolRoomState.hasResult
  rw [hf, Option.any_some, hq, Option.any_some, hresult]
  rfl

/-- A durable reward is written to one result. -/
theorem updateResult_accounts {roster : FrozenRaceRoster} {task : RewardSettlementTask}
    {applied : AppliedTimeReward} (hn : (roster.accounts.map (·.userNo)).Nodup)
    (hracer : ∀ p ∈ roster.humans, p.identity.userNo = task.userNo →
      p.nickname = task.nickname ∧ p.result.isSome = true) :
    (updateResult roster (rewardedParticipant task) fun result =>
      { result with economy := .applied applied }).accounts =
        roster.accounts.map (RaceAccount.set task.userNo (.applied applied)) := by
  let paid := fun p : FrozenRaceParticipant => if rewardedParticipant task p then
    { p with result := p.result.map fun result => { result with economy := .applied applied } }
    else p
  have hone : roster.participants.Pairwise fun a b =>
      rewardedParticipant task a = true → rewardedParticipant task b = false := by
    have hpair : roster.humans.Pairwise fun a b => a.identity.userNo ≠ b.identity.userNo := by
      unfold FrozenRaceRoster.accounts at hn
      rw [List.map_map] at hn
      exact List.pairwise_map.mp hn
    refine (List.pairwise_filter.mp hpair).imp fun {a b} hne ha => ?_
    obtain ⟨hoa, hua, -⟩ := rewardedParticipant_iff.mp ha
    apply Bool.eq_false_iff.mpr
    intro hb
    obtain ⟨hob, hub, -⟩ := rewardedParticipant_iff.mp hb
    exact hne (by rw [hoa]; rfl) (by rw [hob]; rfl) (hua.trans hub.symm)
  have hparticipants : (updateResult roster (rewardedParticipant task) fun result =>
      { result with economy := .applied applied }).participants = roster.participants.map paid := by
    unfold updateResult
    dsimp only
    split
    next hk => exact (map_unmatched hk).symm
    next k hk => exact modify_first hk hone
  have hobserver : ((!·.observer) ∘ paid : FrozenRaceParticipant → Bool) = (!·.observer) := by
    funext p
    show (!(if rewardedParticipant task p then _ else p : FrozenRaceParticipant).observer) = _
    split <;> rfl
  unfold FrozenRaceRoster.accounts FrozenRaceRoster.humans
  rw [hparticipants, List.filter_map, hobserver, List.map_map, List.map_map]
  refine List.map_congr_left fun p hp => ?_
  show FrozenRaceParticipant.account (if rewardedParticipant task p then _ else p) =
    RaceAccount.set task.userNo (.applied applied) p.account
  unfold RaceAccount.set
  by_cases hu : p.identity.userNo = task.userNo
  · obtain ⟨hnick, hresult⟩ := hracer p hp hu
    obtain ⟨result, hresult⟩ := Option.isSome_iff_exists.mp hresult
    have ho : p.observer = false := by simpa using (List.mem_filter.mp hp).2
    rw [if_pos (rewardedParticipant_iff.mpr ⟨ho, hu, hnick⟩),
      if_pos (show p.account.userNo = task.userNo from hu)]
    unfold FrozenRaceParticipant.account
    rw [hresult]
    rfl
  · have hnot : rewardedParticipant task p ≠ true := fun hr =>
      hu (rewardedParticipant_iff.mp hr).2.1
    rw [if_neg hnot, if_neg (show ¬ p.account.userNo = task.userNo from hu)]

/-- A durable receipt is written to the entry and to the result. -/
theorem Accounts.applyReward (h : room.Accounts) {task : RewardSettlementTask}
    {entry : RewardPersistenceEntry} (ht : room.TaskOf task entry) (applied : AppliedTimeReward) :
    (room.applyReward task applied).Accounts := by
  obtain ⟨ranking, rewards, roster, hk, -, hn, hf, hsame, hracer⟩ := h.racer ht
  have hshown := shown_of hf
  have hresults : (room.applyReward task applied).shown? =
      some (roster.accounts.map (RaceAccount.set task.userNo (.applied applied))) := by
    unfold shown? ProtocolRoomState.applyReward
    rw [hf]
    refine congrArg some (updateResult_accounts (h.once hshown) fun p hp hu => ?_)
    have haccount := hracer p hp hu
    refine ⟨(congrArg RaceAccount.nickname haccount).trans ht.2.2.1, ?_⟩
    have hresult : p.result.map (·.economy) = some entry.status.economy :=
      congrArg RaceAccount.economy haccount
    rw [← Option.isSome_map, hresult]
    rfl
  have hk' : (room.applyReward task applied).finalization? =
      some (.persisting ranking (setRewardStatus rewards task.userNo (.durable applied))) := by
    show (room.setStatus task.userNo (.durable applied)).finalization? = _
    unfold ProtocolRoomState.setStatus
    rw [setFinalization_finalization?, hk]
    rfl
  have howed : (room.applyReward task applied).owed? =
      some (roster.accounts.map (RaceAccount.set task.userNo (.applied applied))) := by
    rw [owed_of hk']
    show some ((setRewardStatus rewards task.userNo (.durable applied)).map (·.account)) = _
    rw [setRewardStatus_accounts hn, hsame]
    rfl
  refine ⟨fun ha => ?_, fun _ hnone => ?_, fun ha => ?_, fun hready => ?_⟩
  · rw [hresults] at ha
    cases ha
    rw [List.map_map]
    have hkeep : (RaceAccount.userNo ∘ RaceAccount.set task.userNo (.applied applied)) =
        RaceAccount.userNo := funext fun a => a.set_userNo _ _
    rw [hkeep]
    exact h.once hshown
  · rw [howed] at hnone
    cases hnone
  · rw [hresults, ← howed, ha]
  · rw [hk'] at hready
    cases hready

/-! ## Steps of paying -/

/-- A new finalization with the accounts of the old one. -/
theorem Accounts.refinalize (h : room.Accounts) {finalization finalization' : SettlementFinalization}
    (f : SettlementFinalization → SettlementFinalization) (hf : f finalization = finalization')
    (hk : room.finalization? = some finalization)
    (hp : finalization'.plan?.map (fun plan => plan.2.map (·.account)) =
      finalization.plan?.map fun plan => plan.2.map (·.account))
    (hr : ∀ {ranking rewards packets}, finalization' = .ready ranking rewards packets →
      ∀ e ∈ rewards, e.status.isDurable = true) : (room.setFinalization f).Accounts := by
  have hk' : (room.setFinalization f).finalization? = some finalization' := by
    rw [setFinalization_finalization?, hk, Option.map_some, hf]
  refine h.congr rfl ?_ fun hready => ?_
  · rw [owed_of hk', owed_of hk]
    exact hp
  · rw [hk'] at hready
    exact hr (Option.some_inj.mp hready)

theorem Accounts.failSettlement (h : room.Accounts) (reason : RewardTerminalReason)
    (userNo : Option UserNo) (nickname : Option Text) :
    (room.failSettlement reason userNo nickname).Accounts := by
  cases hk : room.finalization? with
  | none =>
    have hsame : room.failSettlement reason userNo nickname = room := by
      unfold finalization? at hk
      rw [Option.map_eq_none_iff] at hk
      unfold ProtocolRoomState.failSettlement setFinalization
      rw [hk]
      show { room with raceProgress := { room.raceProgress with settlement := none } } = room
      rw [← hk]
    rw [hsame]
    exact h
  | some finalization =>
    refine h.refinalize _ rfl hk ?_ fun hready => ?_
    · cases finalization <;> rfl
    · cases finalization <;> cases hready

theorem planReward_account {unicode : Unicode} {ranking : SettlementRanking} {now : Instant}
    {humanCount : Nat} {rolls : Nat → Nat × Nat} (a : FrozenRaceParticipant × Nat)
    (e : RewardPersistenceEntry)
    (h : planReward unicode ranking now humanCount a.1 (rolls a.2) = .ok e) :
    e.account = { a.1.account with economy := some .pending } := by
  unfold planReward at h
  split at h
  next => cases h
  next =>
    split at h
    next => cases h
    next =>
      split at h
      next => cases h
      next =>
        cases h
        rfl

/-- The plan gives each racer one entry, and nobody is paid yet. -/
theorem planRewardPersistence_accounts {unicode : Unicode} {now : Instant}
    {rolls : Nat → Nat × Nat} {ranking : SettlementRanking} {rewards : List RewardPersistenceEntry}
    (h : room.planRewardPersistence unicode now rolls = .ok (ranking, rewards)) : ∃ roster,
      room.frozenRace = some roster ∧ rewards.map (·.account) =
        roster.humans.map fun p => { p.account with economy := some .pending } := by
  unfold planRewardPersistence at h
  cases hr : room.settlementRanking with
  | error e => rw [hr] at h; cases h
  | ok planned =>
    cases hf : room.frozenRace with
    | none => rw [hr, hf] at h; cases h
    | some roster =>
      rw [hr, hf] at h
      dsimp only at h
      split at h
      next =>
        cases hm : roster.humans.zipIdx.mapM fun (participant, k) =>
            planReward unicode planned now roster.humans.length participant (rolls k) with
        | error e => rw [hm] at h; cases h
        | ok entries =>
          rw [hm] at h
          cases h
          refine ⟨roster, rfl, ?_⟩
          have heach := mapM_forall₂ (R := fun a e => RewardPersistenceEntry.account e =
            { a.1.account with economy := some .pending }) planReward_account hm
          have hmap := map_eq_of_forall₂ heach
            (f := fun a => { a.1.account with economy := some .pending })
            (g := RewardPersistenceEntry.account) fun hR => hR.symm
          rw [← hmap]
          show roster.humans.zipIdx.map
            ((fun p => { p.account with economy := some .pending }) ∘ Prod.fst) = _
          rw [← List.map_map, List.zipIdx_map_fst]
      next => cases h

theorem Accounts.beginRewardPersistence (h : room.Accounts) (unicode : Unicode) (now : Instant)
    (rolls : Nat → Nat × Nat) : (room.beginRewardPersistence unicode now rolls).Accounts := by
  unfold ProtocolRoomState.beginRewardPersistence
  split
  next hk =>
    split
    next ranking rewards hplan =>
      obtain ⟨roster, hf, hentries⟩ := planRewardPersistence_accounts hplan
      have hnone : room.owed? = none := owed_of hk
      have hshown := shown_of hf
      -- nobody has been paid, so the new entries say what the results show
      have hsame : rewards.map (·.account) = roster.accounts := by
        rw [hentries]
        refine List.map_congr_left fun p hp => ?_
        have hpending := h.unpaid hshown hnone p.account (List.mem_map_of_mem hp)
        rw [← hpending]
      have hk' : (room.setFinalization fun _ => .persisting ranking rewards).finalization? =
          some (.persisting ranking rewards) := by
        rw [setFinalization_finalization?, hk]
        rfl
      have howed : (room.setFinalization fun _ => .persisting ranking rewards).owed? =
          some roster.accounts := by
        rw [owed_of hk', ← hsame]
        rfl
      refine ⟨h.once, fun _ hn => ?_, fun ha => ?_, fun hready => ?_⟩
      · rw [howed] at hn
        cases hn
      · rw [howed] at ha
        rw [← ha]
        exact hshown
      · rw [hk'] at hready
        cases hready
    next => exact h.failSettlement _ _ _
  next => exact h

theorem Accounts.prepareReadySettlement (h : room.Accounts) (wire : Wire) :
    (room.prepareReadySettlement wire).2.Accounts := by
  unfold ProtocolRoomState.prepareReadySettlement
  split
  next ranking rewards hk =>
    split
    next hall =>
      split
      next packets _ =>
        show (room.setFinalization fun _ => .ready ranking rewards packets).Accounts
        refine h.refinalize _ rfl hk rfl fun hready => ?_
        cases hready
        exact List.all_eq_true.mp hall
      next => exact h.failSettlement _ _ _
    next => exact h
  next => exact h

theorem Accounts.retryDeadLetter (h : room.Accounts) {letter : RewardDeadLetter} {now : Instant}
    (hr : room.retryDeadLetter letter now = .ok room') : room'.Accounts := by
  obtain ⟨failed, ranking, hk, hranking, -, -, rfl⟩ := retryDeadLetter_ok hr
  refine h.refinalize _ rfl hk ?_ fun hready => by cases hready
  show some ((failed.rewards.map (requeue now)).map (·.account)) =
    (failed.ranking.map (·, failed.rewards)).map _
  rw [hranking, List.map_map]
  refine congrArg some (List.map_congr_left fun e _ => ?_)
  -- a durable reward stays, and what is queued again was pending
  show (requeue now e).account = e.account
  unfold requeue RewardPersistenceEntry.account
  cases he : e.status <;> simp [RewardPersistenceStatus.isDurable, RewardPersistenceStatus.economy,
    he]

/-- **Paying a race keeps its accounts in order.** -/
theorem Accounts.reward (h : room.Accounts) (e : room.RewardEdit issued room') :
    room'.Accounts := by
  cases e with
  | plan => exact h.beginRewardPersistence _ _ _
  | issue _ entry_ queued => exact h.setStatus entry_ (by rw [queued]; rfl)
  | requeue task_ inFlight => exact h.setStatus task_.2.1 (by rw [inFlight]; rfl)
  | durable task_ => exact h.applyReward task_ _
  | orphan task_ _ participant result =>
    obtain ⟨roster, hf, hp⟩ := participant
    rw [h.hasResult task_ hf hp] at result
    cases result
  | ready => exact h.prepareReadySettlement _
  | fail => exact h.failSettlement _ _ _
  | retry retried => exact h.retryDeadLetter retried

/-- A settlement that only begins owes nothing yet. -/
theorem Accounts.settle (h : room.Accounts) (hok : room.RoomOk) (hr : room.phase = .running)
    (hs : room'.shown? = room.shown?) {endTick : Nat} {deadline : Instant}
    (hk : room'.raceProgress.settlement = some ⟨endTick, deadline, .awaitingDeadline⟩) :
    room'.Accounts := by
  have hnone : room.raceProgress.settlement = none := by
    apply Option.not_isSome_iff_eq_none.mp
    rw [hok.race.settling, hr]
    exact RoomPhase.noConfusion
  have hk' : room'.finalization? = some .awaitingDeadline := by
    unfold finalization?
    rw [hk]
    rfl
  refine h.congr hs ?_ fun hready => ?_
  · rw [owed_of hk']
    unfold owed? plan? finalization?
    rw [hnone]
    rfl
  · rw [hk'] at hready
    cases hready

theorem Accounts.edit (h : room.Accounts) (hok : room.RoomOk) (e : room.RoomEdit issued room') :
    room'.Accounts := by
  have hrun : ∀ {room' : ProtocolRoomState}, room'.frozenRace = room.frozenRace →
      room'.finalization? = room.finalization? → room'.Accounts := by
    intro room' hf hk
    exact h.congr (shown_congr hf) (owed_congr hk) fun hready => h.ready (hk ▸ hready)
  cases e with
  | touch _ course =>
    have hk : room'.finalization? = room.finalization? := by
      unfold finalization?
      rw [course.progress]
    refine h.congr ?_ (owed_congr hk) fun hready => h.ready (hk ▸ hready)
    unfold shown?
    cases hf : room.frozenRace with
    | none =>
      have hs := course.frozen
      rw [hf, Option.map_none, Option.map_eq_none_iff] at hs
      rw [hs]
    | some roster =>
      have hs := course.frozen
      have he := course.economies
      rw [hf] at hs he
      obtain ⟨roster', hf', hs'⟩ := Option.map_eq_some_iff.mp hs
      rw [hf'] at he ⊢
      exact congrArg some (FrozenRaceRoster.accounts_congr hs' (Option.some_inj.mp he))
  | reseat _ reseat => exact h.sameRun reseat.sameRun
  | run => exact hrun rfl rfl
  | first running => exact h.settle hok running rfl rfl
  | late => exact hrun rfl rfl
  | settle running => exact h.settle hok running rfl rfl
  | flush => exact hrun rfl rfl
  | reward e => exact h.reward e

/-! ## A race begins, and is over -/

/-- Whoever is frozen has one account, and has not been paid. -/
theorem Accounts.start {active : UserNo → Option IdentityBinding} {next : ProtocolRoomState}
    {fence : RaceFence} {roster : FrozenRaceRoster} (hs : room.Seated)
    (ha : ∀ {u b}, active u = some b → b.userNo = u) (hf : Freezes active room fence roster) :
    (World.loadingRoom next fence roster).Accounts where
  once := fun {accounts} hshown => by
    cases hshown
    have husers := map_eq_of_forall₂ (f := fun seat => seat.2.userNo)
      (g := fun p => p.account.userNo) (freezes_humans hf) fun hr => (ha hr.1).symm
    unfold FrozenRaceRoster.accounts
    rw [List.map_map]
    show (roster.humans.map fun p => p.account.userNo).Nodup
    rw [← husers]
    have hn := hs.users
    unfold userNos at hn
    rw [List.map_append, ← World.numbered_snd, List.map_map] at hn
    exact (List.nodup_append'.mp hn).1
  unpaid := fun {accounts} hshown _ a ha => by
    cases hshown
    obtain ⟨p, hp, rfl⟩ := List.mem_map.mp ha
    exact hf.unpaid p hp
  planned := fun h => by cases h
  ready := fun h => by cases h

end ProtocolRoomState

variable {active : UserNo → Option IdentityBinding} {issued : Option RewardAttemptId}
  {t : ProtocolTables} {id : RoomId} {room room' : ProtocolRoomState}

/-- **A table edit keeps the accounts of each room in order.** -/
theorem RoomStep.accounts (h : room.Accounts) (hok : room.RoomOk)
    (ha : ∀ {u b}, active u = some b → b.userNo = u)
    (hs : RoomStep active issued t id room (some room')) : room'.Accounts := by
  generalize hv : some room' = v at hs
  cases hs with
  | stay => cases hv; exact h
  | edit edit => cases hv; exact h.edit hok edit
  | enter _ added => cases hv; exact h.sameRun (addParticipant_sameRun added)
  | leave removed =>
    split at hv
    next => cases hv
    next => cases hv; exact h.sameRun (removeUser_sameRun removed)
  | start _ _ _ _ _ frozen => cases hv; exact .start hok.seated ha frozen
  | abort => cases hv; exact .of_idle rfl rfl
  | finalize =>
    split at hv
    next => cases hv
    next => cases hv; exact .of_idle rfl rfl

/-! ## Every run -/

namespace World

variable {H Q P : Type} {env : WorldEnv H Q P} {w w' : World H}

/-- The accounts of all rooms are in order. -/
def Accounted (w : World H) : Prop := ∀ {id room}, w.room? id = some room → room.Accounts

theorem Accounted.tables (h : w.Accounted) (ht : w'.protocol = w.protocol) : w'.Accounted := by
  intro id room hr
  unfold World.room? at hr
  rw [ht] at hr
  exact h hr

theorem Ok.accounted (hok : w.Ok env) (h : w.Accounted) (e : Onward env w w') :
    w'.Accounted := by
  cases e with
  | edit edit =>
    cases edit with
    | identities tables _ _ => exact h.tables tables
    | tables _ _ edit =>
      intro id room' hr'
      cases hr : w.protocol.protocolRooms.lookup id with
      | none =>
        have hnone := hok.tables.no_room edit hr
        rw [show w'.protocol.protocolRooms.lookup id = some room' from hr'] at hnone
        cases hnone
      | some room =>
        have hstep := hok.tables.roomStep edit hr
        rw [show w'.protocol.protocolRooms.lookup id = some room' from hr'] at hstep
        exact hstep.accounts (h hr) (hok.tables.rooms hr).2 hok.activeIdentity
  | opens _ _ open_ =>
    intro id room' hr'
    have hr : w'.protocol.protocolRooms.lookup id = some room' := hr'
    generalize w'.protocol = t' at open_ hr
    cases open_ with
    | @open_ newId settings userNo prepared room _ _ _ _ _ added =>
      rw [Map.lookup_insert_ite] at hr
      split at hr
      next =>
        cases hr
        have hrun := addParticipant_sameRun added
        exact Accounts.sameRun (.of_idle rfl rfl) hrun
      next => exact h hr

end World

/-- **The accounts of every race, at every moment of a run.** -/
theorem visited_accounted {H Q P : Type} {env : WorldEnv H Q P} {w : World H}
    (h : w.Visited env) : w.Accounted :=
  h.induction (C := World.Accounted) (fun hr => by cases hr) fun hok ih e => hok.accounted ih e

/-- The race of `raceActions` runs, and its master finishes. -/
def finishActions : List (WorldAction Unit Unit) :=
  raceActions ++ [.command (.race ⟨2⟩ (.gameControl 0 0) 40 0),
    .advanceLoading [⟨1⟩] (fun _ => []) (fun _ _ => (0, 0)) (10 ^ 12) 0,
    .advanceLoading [⟨1⟩] (fun _ => []) (fun _ _ => (0, 0)) (2 * 10 ^ 12) 0,
    .command (.race ⟨2⟩ (.gameControl 2 5000) (2 * 10 ^ 12) 100)]

theorem finishActions_run :
    (sampleMachine.exec sampleMachine.init [] finishActions).isSome = true := by
  decide +kernel

/-- The run of `finishActions`. -/
def finishRun : List (WorldAction Unit Unit × WorldResponse) × WorldActor Unit :=
  (sampleMachine.exec sampleMachine.init [] finishActions).get finishActions_run

theorem finishRun_visited : finishRun.2.world.Visited sampleEnv :=
  WorldActor.visited (Machine.history_of_exec finishActions .init
    (Option.some_get finishActions_run).symm).reachable

/-- The guest finishes, the rewards are planned, and a worker takes one of them. -/
def payActions : List (WorldAction Unit Unit) :=
  [.command (.race ⟨4⟩ (.gameControl 2 6000) (2 * 10 ^ 12) 200),
    .advanceLoading [⟨1⟩] (fun _ => []) (fun _ _ => (10, 100)) (3 * 10 ^ 12) 0,
    .command (.takeDueRewardTasks [⟨1⟩] (3 * 10 ^ 12) 1)]

theorem payActions_run :
    (sampleMachine.exec finishRun.2 [] payActions).isSome = true := by
  decide +kernel

/-- `finishRun`, and the run of `payActions` from there. -/
def payRun : List (WorldAction Unit Unit × WorldResponse) × WorldActor Unit :=
  (sampleMachine.exec finishRun.2 [] payActions).get payActions_run

theorem World.later_of_exec {H Q P : Type} {env : WorldEnv H Q P} (actions : List (WorldAction Q P))
    {tr tr' : List (WorldAction Q P × WorldResponse)} {a a' : WorldActor H}
    (h : (WorldActor.machine env).exec a tr actions = some (tr', a')) :
    Later env a.world a'.world := by
  induction actions generalizing a tr with
  | nil =>
    cases h
    exact .refl
  | cons action rest ih =>
    unfold Machine.exec at h
    split at h
    next => cases h
    next hs => exact (WorldActor.step_later hs).trans (ih h)

theorem payRun_later : World.Later sampleEnv finishRun.2.world payRun.2.world :=
  World.later_of_exec payActions (Option.some_get payActions_run).symm

theorem payRun_accounted : payRun.2.world.Accounted ∧
    ((payRun.2.world.room? ⟨1⟩).bind (·.owed?)).map (·.map (·.economy)) =
      some [some .pending, some .pending] :=
  ⟨visited_accounted (finishRun_visited.later payRun_later), by decide +kernel⟩

end P4475
