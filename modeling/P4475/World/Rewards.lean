import P4475.World.Race

/-!
# Paying rewards

A settlement past its deadline owes every human racer a durable reward. Workers
take the due entries as tasks under a lease, report back, and are retried; when
every entry is durable the ceremony's packets are serialized and the settlement is
ready. A settlement that cannot go on is kept as a dead letter, which an operator
may send back to the queue.
-/

namespace P4475

open Lib

/-- `MAX_REWARD_PERSISTENCE_FAILURES`. -/
def maxRewardPersistenceFailures : Nat := 8

/-- `REWARD_ATTEMPT_LEASE`. -/
def rewardAttemptLease : Nat := 30 * 10 ^ 9

/-- `MAX_DUE_REWARD_TASK_BATCH`. -/
def maxDueRewardTaskBatch : Nat := 64

/-- `reward_retry_delay`: doubling from a tenth of a second up to five seconds. -/
def rewardRetryDelay (failureCount : Nat) : Nat :=
  min (10 ^ 8 * 2 ^ min (failureCount - 1) 31) (5 * 10 ^ 9)

/-- `failure_count.saturating_add(1)`, of a `u8`. -/
def nextFailureCount (failureCount : Nat) : Nat := min (failureCount + 1) 255

structure RewardSettlementTask where
  fence : RaceFence
  attemptId : RewardAttemptId
  userNo : UserNo
  nickname : Text
  canonicalNickname : Text
  proposedReward : TimeReward
  deriving DecidableEq

structure ProfileRewardKey where
  runGeneration : Option Nat
  storeId : Option Nat
  roomId : Nat
  raceEpoch : GlobalRaceEpoch
  userNo : Nat
  canonicalNickname : Option Text
  deriving DecidableEq

structure DurableRewardReceipt (P : Type) where
  task : RewardSettlementTask
  key : ProfileRewardKey
  applied : AppliedTimeReward
  profile : Option P

inductive RewardPersistenceCompletion (P : Type)
  | durable (receipt : DurableRewardReceipt P)
  | retryableFailure (task : RewardSettlementTask)
  | fatalFailure (task : RewardSettlementTask)

/-- `RewardPersistenceCompletion::task`. -/
def RewardPersistenceCompletion.task {P : Type} :
    RewardPersistenceCompletion P → RewardSettlementTask
  | .durable receipt => receipt.task
  | .retryableFailure task => task
  | .fatalFailure task => task

inductive RewardCompletionDisposition
  | applied
  | retryScheduled (failureCount : Nat)
  | terminalFailure
  | ignoredStale
  deriving DecidableEq

inductive RewardLeaseExpiry
  | notCurrent
  | active
  | retryScheduled
  deriving DecidableEq

structure RewardDeadLetter where
  fence : RaceFence
  failedAttemptId : Option RewardAttemptId
  failedUserNo : Option UserNo
  failedNickname : Option Text
  failedCanonicalNickname : Option Text
  failedProposedReward : Option TimeReward
  reason : RewardTerminalReason
  retainedRanking : Option SettlementRanking
  retainedRewards : List RewardPersistenceEntry
  retainedPackets : Option (List Packet)
  deriving DecidableEq

/-! ## Entries -/

/-- The first entry of a user. -/
def rewardOf (rewards : List RewardPersistenceEntry) (userNo : UserNo) :
    Option RewardPersistenceEntry := rewards.find? (·.userNo = userNo)

/-- Overwrite the status of a user's first entry. -/
def setRewardStatus (rewards : List RewardPersistenceEntry) (userNo : UserNo)
    (status : RewardPersistenceStatus) : List RewardPersistenceEntry :=
  match rewards.findIdx? (·.userNo = userNo) with
  | none => rewards
  | some k => rewards.modify k fun entry => { entry with status := status }

/-- Queue again what is not durable. -/
def requeue (now : Instant) (entry : RewardPersistenceEntry) : RewardPersistenceEntry :=
  if entry.status.isDurable then entry else { entry with status := .queued now 0 }

namespace ProtocolRoomState

/-- The entries of a settlement that is persisting. -/
def persisting? (room : ProtocolRoomState) : Option (List RewardPersistenceEntry) :=
  match room.finalization? with
  | some (.persisting _ rewards) => some rewards
  | _ => none

/-- Overwrite one entry's status while persisting. -/
def setStatus (room : ProtocolRoomState) (userNo : UserNo) (status : RewardPersistenceStatus) :
    ProtocolRoomState :=
  room.setFinalization fun
    | .persisting ranking rewards => .persisting ranking (setRewardStatus rewards userNo status)
    | finalization => finalization

/-- Keep the settlement as a dead letter. -/
def failSettlement (room : ProtocolRoomState) (reason : RewardTerminalReason)
    (userNo : Option UserNo) (nickname : Option Text) : ProtocolRoomState :=
  room.setFinalization (·.retainAsDeadLetter reason userNo nickname)

/-- The racer a task is about. -/
def rewardedParticipant (task : RewardSettlementTask) (participant : FrozenRaceParticipant) :
    Bool :=
  !participant.observer ∧ participant.identity.userNo = task.userNo ∧
    participant.nickname = task.nickname

/-- Record a durable reward in the entry and in the frozen result. -/
def applyReward (room : ProtocolRoomState) (task : RewardSettlementTask)
    (applied : AppliedTimeReward) : ProtocolRoomState :=
  { room.setStatus task.userNo (.durable applied) with
    frozenRace := room.frozenRace.map fun frozen =>
      updateResult frozen (rewardedParticipant task) fun result =>
        { result with economy := .applied applied } }

/-- The task has a result to write its reward to. -/
def hasResult (room : ProtocolRoomState) (task : RewardSettlementTask) : Bool :=
  room.frozenRace.any fun frozen =>
    (frozen.participants.find? (rewardedParticipant task)).any (·.result.isSome)

/-- The update of `update_live_room_rp`, members only. -/
def setLiveRp (room : ProtocolRoomState) (userNo : UserNo) (rp : Nat) : ProtocolRoomState :=
  match room.memberId userNo with
  | some i => { room with membersById := room.membersById.modify fun j member =>
      if j = i then { member with player := { member.player with rp := rp } } else member }
  | none => room

/-- `prepare_ready_settlement`, on the room; `false` is a failed serialization. -/
def prepareReadySettlement (wire : Wire) (room : ProtocolRoomState) : Bool × ProtocolRoomState :=
  match room.finalization? with
  | some (.persisting ranking rewards) =>
    if rewards.all (·.status.isDurable) then
      match room.settlementPackets wire ranking with
      | .ok packets => (true, room.setFinalization fun _ => .ready ranking rewards packets)
      | .error _ => (false, room.failSettlement .resultSerialization none none)
    else (true, room)
  | _ => (true, room)

/-- `retry_reward_dead_letter`, on the room that the fence names. -/
def retryDeadLetter (room : ProtocolRoomState) (letter : RewardDeadLetter) (now : Instant) :
    Except WorldError ProtocolRoomState :=
  match room.finalization? with
  | some (.failed failed) =>
    if failed.reason ≠ letter.reason ∨ failed.ranking ≠ letter.retainedRanking ∨
        failed.rewards ≠ letter.retainedRewards ∨ failed.packets ≠ letter.retainedPackets then
      .error .staleRewardDeadLetter
    else if failed.reason.permitsPersistenceRetry = false then
      .error (.rewardDeadLetterNotRetryable failed.reason)
    else
      let reward := failed.failedUserNo.bind (rewardOf failed.rewards)
      if failed.failedUserNo ≠ letter.failedUserNo ∨
          failed.failedNickname ≠ letter.failedNickname ∨
          reward.bind (·.status.inFlightAttemptId) ≠ letter.failedAttemptId ∨
          reward.map (·.canonicalNickname) ≠ letter.failedCanonicalNickname ∨
          reward.map (·.proposedReward) ≠ letter.failedProposedReward ∨
          failed.packets ≠ none then
        .error .staleRewardDeadLetter
      else
        match failed.ranking with
        | none => .error .staleRewardDeadLetter
        | some ranking =>
          .ok (room.setFinalization fun _ =>
            .persisting ranking (failed.rewards.map (requeue now)))
  | _ => .error .staleRewardDeadLetter

end ProtocolRoomState

namespace World

variable {H Q P : Type} (env : WorldEnv H Q P)

/-! ## Leases -/

/-- `current_reward_attempt`. -/
def currentRewardAttempt (w : World H) (task : RewardSettlementTask) : Option (Nat × Instant) :=
  match (w.room? task.fence.roomId).filter (·.raceFence = some task.fence) with
  | none => none
  | some room =>
    match room.persisting?.bind (rewardOf · task.userNo) with
    | none => none
    | some reward =>
      if reward.nickname ≠ task.nickname ∨ reward.canonicalNickname ≠ task.canonicalNickname ∨
          reward.proposedReward ≠ task.proposedReward then none
      else
        match reward.status with
        | .inFlight attemptId failureCount leaseDeadline =>
          if attemptId = task.attemptId then some (failureCount, leaseDeadline) else none
        | .queued _ _ => none
        | .durable _ => none

/-- `fail_reward_settlement`. -/
def failRewardSettlement (w : World H) (task : RewardSettlementTask)
    (reason : RewardTerminalReason) : Except WorldError Unit × World H :=
  match (w.room? task.fence.roomId).filter fun room =>
      room.raceFence = some task.fence ∧ room.raceProgress.settlement.isSome with
  | none => (.error (.rewardSchedulerInvariant task.fence.roomId.get task.userNo.get), w)
  | some room =>
    (.ok (), w.putRoom task.fence.roomId
      (room.failSettlement reason (some task.userNo) (some task.nickname)))

/-- `fail_reward_settlement(..)?` and then the error of the caller. -/
def failReward (w : World H) (task : RewardSettlementTask) (reason : RewardTerminalReason)
    (error : WorldError) : WorldError × World H :=
  match w.failRewardSettlement task reason with
  | (.error e, w) => (e, w)
  | (.ok (), w) => (error, w)

/-- `expire_reward_attempt`. -/
def expireRewardAttempt (w : World H) (task : RewardSettlementTask) (now : Instant) :
    Except WorldError RewardLeaseExpiry × World H :=
  match w.currentRewardAttempt task with
  | none => (.ok .notCurrent, w)
  | some (failureCount, leaseDeadline) =>
    if now < leaseDeadline then (.ok .active, w)
    else
      let failureCount := nextFailureCount failureCount
      if maxRewardPersistenceFailures ≤ failureCount then
        let (e, w) := w.failReward task .rewardPersistence .rewardAttemptLeaseFailuresExhausted
        (.error e, w)
      else
        match checkedAdd env.instantMax now (rewardRetryDelay failureCount) with
        | none =>
          let (e, w) := w.failReward task .rewardRetryDeadlineOverflow .rewardRetryDeadlineOverflow
          (.error e, w)
        | some dueAt =>
          (.ok .retryScheduled, w.updateRoom task.fence.roomId
            (·.setStatus task.userNo (.queued dueAt failureCount)))

/-- The tasks of a room whose lease has run out. -/
def expiredTasks (room : ProtocolRoomState) (now : Instant) : List RewardSettlementTask :=
  (room.persisting?.getD []).filterMap fun reward =>
    match reward.status with
    | .inFlight attemptId _ leaseDeadline =>
      if leaseDeadline ≤ now then
        room.raceFence.map fun fence => ⟨fence, attemptId, reward.userNo, reward.nickname,
          reward.canonicalNickname, reward.proposedReward⟩
      else none
    | .queued _ _ => none
    | .durable _ => none

/-- The sort key of `expire_reward_attempt_leases`. -/
def RewardTaskKey (task : RewardSettlementTask) : Nat ×ₗ Nat ×ₗ Nat :=
  toLex (task.fence.roomId.get, toLex (task.fence.raceEpoch.get, task.userNo.get))

/-- The loop of `expire_reward_attempt_leases`. -/
def expireTasks (now : Instant) :
    List RewardSettlementTask → World H → Except WorldError Unit × World H
  | [], w => (.ok (), w)
  | task :: rest, w =>
    match w.expireRewardAttempt env task now with
    | (.error e, w) => (.error e, w)
    | (.ok _, w) => expireTasks now rest w

/-- `expire_reward_attempt_leases`; `visit` walks the room table. -/
def expireRewardAttemptLeases (w : World H) (visit : List RoomId) (now : Instant) :
    Except WorldError Unit × World H :=
  expireTasks env now (sortByKey RewardTaskKey
    ((visit.filterMap w.room?).flatMap fun room => expiredTasks room now)) w

/-! ## Taking tasks -/

/-- The queued entries of a room that are due. -/
def dueRewards (room : ProtocolRoomState) (now : Instant) : List UserNo :=
  (room.persisting?.getD []).filterMap fun reward =>
    match reward.status with
    | .queued dueAt _ => if dueAt ≤ now then some reward.userNo else none
    | .inFlight _ _ _ => none
    | .durable _ => none

/-- `due_reward_candidates`. -/
def dueRewardCandidates (w : World H) (visit : List RoomId) (now : Instant) (maximum : Nat) :
    List (RoomId × UserNo) :=
  let candidates := visit.flatMap fun id =>
    ((w.room? id).elim [] (dueRewards · now)).map (id, ·)
  (sortByKey (fun c : RoomId × UserNo => toLex (c.1.get, c.2.get)) candidates).take maximum

/-- Keep a candidate's settlement as a dead letter, with the error of the caller. -/
def failCandidate (w : World H) (roomId : RoomId) (userNo : UserNo)
    (reason : RewardTerminalReason) (error : WorldError) : WorldError × World H :=
  match w.room? roomId with
  | none => (.rewardSchedulerInvariant roomId.get userNo.get, w)
  | some room =>
    let nickname := (room.persisting?.bind (rewardOf · userNo)).map (·.nickname)
    (if room.raceFence.isSome then error else .rewardSchedulerInvariant roomId.get userNo.get,
      w.putRoom roomId (room.failSettlement reason (some userNo) nickname))

/-- `limit_candidates_to_attempt_id_capacity`. -/
def limitCandidates (w : World H) (candidates : List (RoomId × UserNo)) :
    Except WorldError (List (RoomId × UserNo)) × World H :=
  match candidates with
  | [] => (.ok [], w)
  | (roomId, userNo) :: rest =>
    match w.nextRewardAttemptId with
    | none =>
      let (e, w) := w.failCandidate roomId userNo .rewardAttemptIdExhausted
        .rewardAttemptIdExhausted
      (.error e, w)
    | some next =>
      (.ok (if next.get = u64Max then [(roomId, userNo)] else (roomId, userNo) :: rest), w)

/-- The attempt id after one; the last has none. -/
def RewardAttemptId.following (attempt : RewardAttemptId) : Option RewardAttemptId :=
  if h : attempt.get + 1 ≤ u64Max then some ⟨attempt.get + 1, Nat.succ_pos _, h⟩ else none

/-- The part of `issue_reward_task` after the attempt id and the lease. -/
def startAttempt (w : World H) (roomId : RoomId) (userNo : UserNo) (attemptId : RewardAttemptId)
    (leaseDeadline now : Instant) : Option RewardSettlementTask × World H :=
  match w.room? roomId with
  | none => (none, w)
  | some room =>
    match room.raceFence, room.persisting?.bind (rewardOf · userNo) with
    | some fence, some reward =>
      match reward.status with
      | .queued dueAt failureCount =>
        if now < dueAt then (none, w)
        else
          (some ⟨fence, attemptId, userNo, reward.nickname, reward.canonicalNickname,
              reward.proposedReward⟩,
            w.putRoom roomId
              (room.setStatus userNo (.inFlight attemptId failureCount leaseDeadline)))
      | .inFlight _ _ _ => (none, w)
      | .durable _ => (none, w)
    | _, _ => (none, w)

/-- `issue_reward_task`. -/
def issueRewardTask (w : World H) (roomId : RoomId) (userNo : UserNo) (now : Instant) :
    Except WorldError (Option RewardSettlementTask) × World H :=
  match w.nextRewardAttemptId with
  | none => (.error (.rewardSchedulerInvariant roomId.get userNo.get), w)
  | some attemptId =>
    let w := { w with nextRewardAttemptId := RewardAttemptId.following attemptId }
    match checkedAdd env.instantMax now rewardAttemptLease with
    | none =>
      let (e, w) := w.failCandidate roomId userNo .rewardAttemptLeaseDeadlineOverflow
        .rewardAttemptLeaseDeadlineOverflow
      (.error e, w)
    | some leaseDeadline =>
      let (task, w) := w.startAttempt roomId userNo attemptId leaseDeadline now
      (.ok task, w)

/-- The loop of `take_due_reward_tasks`. -/
def issueTasks (now : Instant) :
    List (RoomId × UserNo) → World H → Except WorldError (List RewardSettlementTask) × World H
  | [], w => (.ok [], w)
  | (roomId, userNo) :: rest, w =>
    match w.issueRewardTask env roomId userNo now with
    | (.error e, w) => (.error e, w)
    | (.ok task, w) =>
      let (others, w) := issueTasks now rest w
      (others.map (task.toList ++ ·), w)

/-- `take_due_reward_tasks`. -/
def takeDueRewardTasks (w : World H) (visit : List RoomId) (now : Instant) (maximum : Nat) :
    Except WorldError (List RewardSettlementTask) × World H :=
  match w.expireRewardAttemptLeases env visit now with
  | (.error e, w) => (.error e, w)
  | (.ok (), w) =>
    match w.limitCandidates
        (w.dueRewardCandidates visit now (min maximum maxDueRewardTaskBatch)) with
    | (.error e, w) => (.error e, w)
    | (.ok candidates, w) => issueTasks env now candidates w

/-! ## Completions -/

/-- A settlement that cannot go on, as a completion's answer. -/
def terminalFailure (w : World H) (task : RewardSettlementTask) (reason : RewardTerminalReason) :
    Except WorldOperationError RewardCompletionDisposition × World H :=
  match w.failRewardSettlement task reason with
  | (.error e, w) => (.error (.command e), w)
  | (.ok (), w) => (.ok .terminalFailure, w)

/-- The receipt names the task it answers. -/
def receiptMatches (receipt : DurableRewardReceipt P) : Bool :=
  let task := receipt.task
  receipt.key.runGeneration.isSome ∧ receipt.key.storeId.isSome ∧
    receipt.key.roomId = task.fence.roomId.get ∧ receipt.key.raceEpoch = task.fence.raceEpoch ∧
    receipt.key.userNo = task.userNo.get ∧
    receipt.key.canonicalNickname = some task.canonicalNickname ∧
    receipt.applied.earnedRp = task.proposedReward.earnedRp ∧
    receipt.applied.earnedLucci = task.proposedReward.earnedLucci

/-- The RP to show live, and the hub's refresh. -/
def planRewardRefresh (w : World H) (receipt : DurableRewardReceipt P) :
    Except WorldOperationError (Nat × Option (Except MyRoomLifecycleError H)) :=
  match receipt.profile with
  | none => .ok (receipt.applied.currentRp, none)
  | some profile =>
    match env.hub.matchesNickname profile receipt.task.nickname with
    | .error e => .error (.command (.identity e))
    | .ok false => .error (.command .myRoomProfileSubjectMismatch)
    | .ok true =>
      (env.hub.rewarded w.myroom receipt.task.fence.roomId receipt.task.userNo
        receipt.task.canonicalNickname profile).map (env.hub.rp profile, ·)

/-- `update_live_room_rp`. -/
def updateLiveRoomRp (w : World H) (userNo : UserNo) (rp : Nat) : World H :=
  match w.roomOf? userNo with
  | none => w
  | some roomId => w.updateRoom roomId (·.setLiveRp userNo rp)

/-- `commit_silent_myroom_transition`, if there is a transition. -/
def commitSilently (w : World H) : Option (Except MyRoomLifecycleError H) →
    Except MyRoomLifecycleError Unit × World H
  | none => (.ok (), w)
  | some (.error e) => (.error e, w)
  | some (.ok next) => (.ok (), { w with myroom := next })

/-- The part of `complete_reward_task` after a durable receipt is recorded. -/
def afterApplied (w : World H) (task : RewardSettlementTask) (rp : Nat)
    (refresh : Option (Except MyRoomLifecycleError H)) :
    Except WorldOperationError RewardCompletionDisposition × World H :=
  match (w.updateLiveRoomRp task.userNo rp).commitSilently refresh with
  | (.error e, w) => (.error (.myroom e), w)
  | (.ok (), w) =>
    match w.room? task.fence.roomId with
    | none => (.ok .applied, w)
    | some room =>
      let (ready, room) := room.prepareReadySettlement env.wire
      (.ok (if ready then .applied else .terminalFailure), w.putRoom task.fence.roomId room)

/-- The durable arm of `complete_reward_task`. -/
def completeDurable (w : World H) (receipt : DurableRewardReceipt P) :
    Except WorldOperationError RewardCompletionDisposition × World H :=
  let task := receipt.task
  if receiptMatches receipt = false then w.terminalFailure task .rewardReceiptMismatch
  else
    match w.room? task.fence.roomId with
    | none => w.terminalFailure task .rewardParticipantMissing
    | some room =>
      if room.frozenRace.any (·.participants.any
          (ProtocolRoomState.rewardedParticipant task)) = false then
        w.terminalFailure task .rewardParticipantMissing
      else
        match w.planRewardRefresh env receipt with
        | .error e => (.error e, w)
        | .ok (rp, refresh) =>
          if room.hasResult task then
            (w.putRoom task.fence.roomId (room.applyReward task receipt.applied)).afterApplied env
              task rp refresh
          else
            (w.putRoom task.fence.roomId
              (room.setStatus task.userNo (.durable receipt.applied))).terminalFailure task
                .rewardParticipantMissing

/-- The retryable arm of `complete_reward_task`. -/
def completeRetryable (w : World H) (task : RewardSettlementTask) (failureCount : Nat)
    (now : Instant) : Except WorldOperationError RewardCompletionDisposition × World H :=
  let failureCount := nextFailureCount failureCount
  if maxRewardPersistenceFailures ≤ failureCount then w.terminalFailure task .rewardPersistence
  else
    match checkedAdd env.instantMax now (rewardRetryDelay failureCount) with
    | none => w.terminalFailure task .rewardRetryDeadlineOverflow
    | some dueAt =>
      (.ok (.retryScheduled failureCount), w.updateRoom task.fence.roomId
        (·.setStatus task.userNo (.queued dueAt failureCount)))

/-- `complete_reward_task`. -/
def completeRewardTask (w : World H) (completion : RewardPersistenceCompletion P)
    (now : Instant) : Except WorldOperationError RewardCompletionDisposition × World H :=
  let task := completion.task
  match w.expireRewardAttempt env task now with
  | (.ok .notCurrent, w) => (.ok .ignoredStale, w)
  | (.ok .retryScheduled, w) => (.ok .ignoredStale, w)
  | (.error .rewardAttemptLeaseFailuresExhausted, w) => (.ok .terminalFailure, w)
  | (.error .rewardAttemptLeaseDeadlineOverflow, w) => (.ok .terminalFailure, w)
  | (.error .rewardRetryDeadlineOverflow, w) => (.ok .terminalFailure, w)
  | (.error e, w) => (.error (.command e), w)
  | (.ok .active, w) =>
    match w.currentRewardAttempt task with
    | none => (.ok .ignoredStale, w)
    | some (failureCount, _) =>
      match completion with
      | .retryableFailure task => w.completeRetryable env task failureCount now
      | .fatalFailure task => w.terminalFailure task .rewardPersistence
      | .durable receipt => w.completeDurable env receipt

/-- `retry_reward_dead_letter`. -/
def retryRewardDeadLetter (w : World H) (letter : RewardDeadLetter) (now : Instant) :
    Except WorldError Unit × World H :=
  match (w.room? letter.fence.roomId).filter (·.raceFence = some letter.fence) with
  | none => (.error .staleRewardDeadLetter, w)
  | some room =>
    match room.retryDeadLetter letter now with
    | .error e => (.error e, w)
    | .ok room => (.ok (), w.putRoom letter.fence.roomId room)

end World

end P4475
