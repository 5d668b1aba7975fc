import P4475.World.Simulation.Race

/-!
# Paying rewards is a path of strides

Only issuing a task takes an attempt id; everything else edits the room of the task in
place. A durable receipt also refreshes what the hub shows of its user.
-/

namespace P4475

open Lib ProtocolRoomState

namespace World

variable {H Q P : Type} (env : WorldEnv H Q P) {w w' : World H} {id : RoomId}
  {room room' : ProtocolRoomState} {task : RewardSettlementTask}

/-! ## Leases -/

/-- A current attempt is the in-flight entry of its task. -/
theorem currentRewardAttempt_some {failures : Nat} {leaseDeadline : Instant}
    (h : w.currentRewardAttempt task = some (failures, leaseDeadline)) :
    ∃ room entry, w.room? task.fence.roomId = some room ∧ room.TaskOf task entry ∧
      entry.status = .inFlight task.attemptId failures leaseDeadline := by
  unfold currentRewardAttempt at h
  split at h
  next => exact absurd h (by simp)
  next room hroom =>
    obtain ⟨hr, hfence⟩ := Option.filter_eq_some_iff.mp hroom
    split at h
    next => exact absurd h (by simp)
    next entry hentry =>
      split at h
      next => exact absurd h (by simp)
      next hsame =>
        simp only [not_or, not_not] at hsame
        split at h
        next attemptId failures' deadline hstatus =>
          split at h
          next hid =>
            cases h
            subst hid
            exact ⟨room, entry, hr, ⟨of_decide_eq_true hfence, hentry, hsame.1, hsame.2.1,
              hsame.2.2⟩, hstatus⟩
          next => exact absurd h (by simp)
        next => exact absurd h (by simp)
        next => exact absurd h (by simp)

theorem failRewardSettlement_within (w : World H) (task : RewardSettlementTask)
    (reason : RewardTerminalReason) : Within w (w.failRewardSettlement task reason).2 := by
  unfold failRewardSettlement
  split
  next => exact .refl w
  next room hroom =>
    exact .put (Option.filter_eq_some_iff.mp hroom).1 (.reward .fail)

theorem failReward_within (w : World H) (task : RewardSettlementTask)
    (reason : RewardTerminalReason) (error : WorldError) :
    Within w (w.failReward task reason error).2 := by
  have hfail := failRewardSettlement_within w task reason
  unfold failReward
  split
  next w₁ he => rw [he] at hfail; exact hfail
  next w₁ he => rw [he] at hfail; exact hfail

/-- Back into the queue. -/
theorem requeue_within {failures : Nat} {leaseDeadline : Instant}
    (h : w.currentRewardAttempt task = some (failures, leaseDeadline)) (dueAt : Instant)
    (failures' : Nat) : Within w (w.updateRoom task.fence.roomId
      (·.setStatus task.userNo (.queued dueAt failures'))) := by
  obtain ⟨room, entry, hr, htask, hstatus⟩ := currentRewardAttempt_some h
  refine .updateRoom fun room' hr' => ?_
  rw [hr] at hr'
  cases hr'
  exact .reward (.requeue htask hstatus)

theorem expireRewardAttempt_within (w : World H) (task : RewardSettlementTask) (now : Instant) :
    Within w (w.expireRewardAttempt env task now).2 := by
  unfold expireRewardAttempt
  split
  next => exact .refl w
  next failures leaseDeadline hcurrent =>
    split
    next => exact .refl w
    next =>
      dsimp only
      split
      next => exact failReward_within w task _ _
      next =>
        split
        next => exact failReward_within w task _ _
        next dueAt _ => exact requeue_within hcurrent dueAt _

theorem expireTasks_within (now : Instant) (tasks : List RewardSettlementTask) (w : World H) :
    Within w (expireTasks env now tasks w).2 := by
  induction tasks generalizing w with
  | nil => exact .refl w
  | cons task rest ih =>
    have hfirst := expireRewardAttempt_within env w task now
    unfold expireTasks
    split
    next w₁ he => rw [he] at hfirst; exact hfirst
    next w₁ he => rw [he] at hfirst; exact hfirst.trans (ih w₁)

/-! ## Taking tasks -/

theorem failCandidate_within (w : World H) (id : RoomId) (userNo : UserNo)
    (reason : RewardTerminalReason) (error : WorldError) :
    Within w (w.failCandidate id userNo reason error).2 := by
  unfold failCandidate
  split
  next => exact .refl w
  next room hr => exact .put hr (.reward .fail)

theorem limitCandidates_within (w : World H) (candidates : List (RoomId × UserNo)) :
    Within w (w.limitCandidates candidates).2 := by
  unfold limitCandidates
  split
  next => exact .refl w
  next id userNo rest =>
    split
    next => exact failCandidate_within w id userNo _ _
    next => exact .refl w

/-- An attempt id is taken, whether or not a task comes of it. -/
theorem consume_leads {attemptId : RewardAttemptId} (h : w.nextRewardAttemptId = some attemptId) :
    Leads env (w, []) true ({ w with
      nextRewardAttemptId := RewardAttemptId.following attemptId }, []) :=
  .stride (.issued h (.ids w.protocol.freeProtocolRoomIds) (.of_eq rfl) (.refl _))

theorem startAttempt_leads {attemptId : RewardAttemptId}
    (h : w.nextRewardAttemptId = some attemptId) (id : RoomId) (userNo : UserNo)
    (leaseDeadline now : Instant) :
    Leads env (w, []) true ((World.startAttempt { w with
      nextRewardAttemptId := RewardAttemptId.following attemptId } id userNo attemptId
        leaseDeadline now).2, []) := by
  unfold startAttempt
  split
  next => exact consume_leads env h
  next room hr =>
    split
    next fence reward _ hreward =>
      split
      next dueAt failures hstatus =>
        split
        next => exact consume_leads env h
        next =>
          have hr' : w.protocol.protocolRooms.lookup id = some room := hr
          exact .stride (.issued h (.room hr' (.reward (.issue rfl hreward hstatus)))
            (.of_eq rfl) (.put w.protocol _ hr' rfl rfl))
      next => exact consume_leads env h
      next => exact consume_leads env h
    next => exact consume_leads env h

theorem issueRewardTask_leads (w : World H) (id : RoomId) (userNo : UserNo) (now : Instant) :
    Leads env (w, []) true ((w.issueRewardTask env id userNo now).2, []) := by
  unfold issueRewardTask
  -- the lease's deadline stays a name: its literal is not to be evaluated
  generalize checkedAdd env.instantMax now rewardAttemptLease = lease
  cases h : w.nextRewardAttemptId with
  | none => exact .refl
  | some attemptId =>
    cases lease with
    | none =>
      have hfail := failCandidate_within ({ w with
        nextRewardAttemptId := RewardAttemptId.following attemptId } : World H) id userNo
        .rewardAttemptLeaseDeadlineOverflow .rewardAttemptLeaseDeadlineOverflow
      exact (consume_leads env h).within hfail
    | some leaseDeadline => exact startAttempt_leads env h id userNo leaseDeadline now

theorem issueTasks_leads (now : Instant) (candidates : List (RoomId × UserNo)) (w : World H) :
    Leads env (w, []) true ((issueTasks env now candidates w).2, []) := by
  induction candidates generalizing w with
  | nil => exact .refl
  | cons candidate rest ih =>
    obtain ⟨id, userNo⟩ := candidate
    have hfirst := issueRewardTask_leads env w id userNo now
    unfold issueTasks
    split
    next w₁ he => rw [he] at hfirst; exact hfirst
    next w₁ he => rw [he] at hfirst; exact hfirst.trans (ih w₁)

theorem takeDueRewardTasks_leads (w : World H) (visit : List RoomId) (now : Instant)
    (maximum : Nat) :
    Leads env (w, []) true ((w.takeDueRewardTasks env visit now maximum).2, []) := by
  have hexpire : Within w (w.expireRewardAttemptLeases env visit now).2 :=
    expireTasks_within env now _ w
  unfold takeDueRewardTasks
  split
  next w₁ he => rw [he] at hexpire; exact hexpire.leads
  next w₁ he =>
    rw [he] at hexpire
    have hlimit := limitCandidates_within w₁
      (w₁.dueRewardCandidates visit now (min maximum maxDueRewardTaskBatch))
    split
    next w₂ hl => rw [hl] at hlimit; exact (hexpire.trans hlimit).leads
    next candidates w₂ hl =>
      rw [hl] at hlimit
      exact (hexpire.trans hlimit).then (issueTasks_leads env now candidates w₂)

/-! ## Completions -/

theorem terminalFailure_within (w : World H) (task : RewardSettlementTask)
    (reason : RewardTerminalReason) : Within w (w.terminalFailure task reason).2 := by
  have hfail := failRewardSettlement_within w task reason
  unfold terminalFailure
  split
  next w₁ he => rw [he] at hfail; exact hfail
  next w₁ he => rw [he] at hfail; exact hfail

theorem updateLiveRoomRp_within (w : World H) (userNo : UserNo) (rp : Nat) :
    Within w (w.updateLiveRoomRp userNo rp) := by
  unfold updateLiveRoomRp
  split
  next => exact .refl w
  next => exact .updateRoom fun room _ => setLiveRp_edit room userNo rp

/-- What a receipt refreshes of the hub, if anything. -/
theorem planRewardRefresh_move {receipt : DurableRewardReceipt P} {rp : Nat}
    {refresh : Option (Except MyRoomLifecycleError H)} {next : H}
    (h : w.planRewardRefresh env receipt = .ok (rp, refresh)) (hn : refresh = some (.ok next)) :
    HubMove env w next := by
  unfold planRewardRefresh at h
  split at h
  next =>
    cases h
    exact absurd hn (by simp)
  next profile _ =>
    split at h
    next => exact absurd h (by simp)
    next => exact absurd h (by simp)
    next =>
      cases hr : env.hub.rewarded w.myroom receipt.task.fence.roomId receipt.task.userNo
        receipt.task.canonicalNickname profile with
      | error e => rw [hr] at h; exact absurd h (by simp [Except.map])
      | ok planned =>
        rw [hr] at h
        cases h
        exact .rewarded (hn ▸ hr)

theorem planRewardRefresh_congr {receipt : DurableRewardReceipt P}
    (hm : w'.myroom = w.myroom) :
    w'.planRewardRefresh env receipt = w.planRewardRefresh env receipt := by
  unfold planRewardRefresh
  rw [hm]

theorem commitSilently_leads {refresh : Option (Except MyRoomLifecycleError H)}
    (h : ∀ next, refresh = some (.ok next) → HubMove env w next) :
    Leads env (w, []) true ((w.commitSilently refresh).2, []) := by
  unfold commitSilently
  split
  next => exact .refl
  next => exact .refl
  next next => exact .move (h next rfl)

theorem afterApplied_leads (w : World H) (task : RewardSettlementTask) (rp : Nat)
    {refresh : Option (Except MyRoomLifecycleError H)}
    (h : ∀ w' : World H, w'.myroom = w.myroom → ∀ next, refresh = some (.ok next) →
      HubMove env w' next) :
    Leads env (w, []) true ((w.afterApplied env task rp refresh).2, []) := by
  have hlive := updateLiveRoomRp_within w task.userNo rp
  have hcommit := hlive.then (commitSilently_leads env (h _ hlive.myroom))
  unfold afterApplied
  split
  next w₁ he => rw [he] at hcommit; exact hcommit
  next w₁ he =>
    rw [he] at hcommit
    split
    next => exact hcommit
    next room hr => exact hcommit.within (.put hr (.reward .ready))

theorem completeDurable_leads {receipt : DurableRewardReceipt P} {failures : Nat}
    {leaseDeadline : Instant}
    (h : w.currentRewardAttempt receipt.task = some (failures, leaseDeadline)) :
    Leads env (w, []) true ((w.completeDurable env receipt).2, []) := by
  obtain ⟨room, entry, hr, htask, hstatus⟩ := currentRewardAttempt_some h
  unfold completeDurable
  dsimp only
  split
  next => exact (terminalFailure_within w receipt.task _).leads
  next =>
    rw [hr]
    dsimp only
    split
    next => exact (terminalFailure_within w receipt.task _).leads
    next hmember =>
      split
      next => exact .refl
      next rp refresh hrefresh =>
        split
        next hresult =>
          refine Within.then (.put hr (.reward (.durable htask hstatus hresult)))
            (afterApplied_leads env _ receipt.task rp ?_)
          intro w' hm next hn
          exact planRewardRefresh_move env ((planRewardRefresh_congr env hm).trans hrefresh) hn
        next hresult =>
          refine Within.leads (.trans
            (.put hr (.reward (.orphan htask hstatus ?_ (by simpa using hresult))))
            (terminalFailure_within _ receipt.task _))
          cases hf : room.frozenRace with
          | none => rw [hf] at hmember; exact absurd hmember (by simp)
          | some roster =>
            rw [hf, Option.any_some, Bool.not_eq_false, List.any_eq_true] at hmember
            exact ⟨roster, rfl, hmember⟩

theorem completeRetryable_within {failures : Nat} {leaseDeadline : Instant}
    (h : w.currentRewardAttempt task = some (failures, leaseDeadline)) (count : Nat)
    (now : Instant) : Within w (w.completeRetryable env task count now).2 := by
  unfold completeRetryable
  dsimp only
  split
  next => exact terminalFailure_within w task _
  next =>
    split
    next => exact terminalFailure_within w task _
    next dueAt _ => exact requeue_within h dueAt _

theorem completeRewardTask_leads (w : World H) (completion : RewardPersistenceCompletion P)
    (now : Instant) :
    Leads env (w, []) true ((w.completeRewardTask env completion now).2, []) := by
  have hexpire := expireRewardAttempt_within env w completion.task now
  unfold completeRewardTask
  dsimp only
  split
  case h_7 w₁ he =>
    rw [he] at hexpire
    refine hexpire.then ?_
    split
    next => exact .refl
    next failures leaseDeadline hcurrent =>
      cases completion with
      | retryableFailure task => exact (completeRetryable_within env hcurrent failures now).leads
      | fatalFailure task => exact (terminalFailure_within w₁ task _).leads
      | durable receipt => exact completeDurable_leads env hcurrent
  all_goals
    next he => rw [he] at hexpire; exact hexpire.leads

theorem retryRewardDeadLetter_within (w : World H) (letter : RewardDeadLetter) (now : Instant) :
    Within w (w.retryRewardDeadLetter letter now).2 := by
  unfold retryRewardDeadLetter
  split
  next => exact .refl w
  next room hroom =>
    split
    next => exact .refl w
    next room' hretry =>
      exact .put (Option.filter_eq_some_iff.mp hroom).1 (.reward (.retry hretry))

end World

end P4475
