import Mathlib.Data.Multiset.AddSub
import P4475.Profile.IoRuntime

/-!
# One permit a profile

`Moves` says once what a step of the profile I/O runtime can do. From it, per step: which
permits are made and which are given up (`balance`), and what happens to the lanes
(`LaneStep`). `LaneOk` then holds along every run: the table lists each lane that is held,
and a lane has one guard, so that a profile has one permit.
-/

namespace P4475.Profile

open Lib

/-! ## Events -/

namespace ProfileIoEvent

def grant : ProfileIoEvent → Option ProfileLanePermit
  | .granted permit => some permit
  | _ => none

def loss : ProfileIoEvent → Option ProfileLanePermit
  | .dropped permit => some permit
  | _ => none

def submission : ProfileIoEvent → Option Nat
  | .submitted id => some id
  | _ => none

def start : ProfileIoEvent → Option Nat
  | .started id _ => some id
  | _ => none

def work : ProfileIoEvent → Option Nat
  | .worked id => some id
  | _ => none

def completion : ProfileIoEvent → Option Nat
  | .completed id _ => some id
  | _ => none

def failure : ProfileIoEvent → Option ProfileIoRuntimeError
  | .completed _ failure => failure
  | _ => none

end ProfileIoEvent

/-- What happened, earliest first. -/
def logOf (tr : List (ProfileIoAction × List ProfileIoEvent)) : List ProfileIoEvent :=
  (tr.reverse.map Prod.snd).flatten

theorem logOf_cons (a : ProfileIoAction) (events : List ProfileIoEvent)
    (tr : List (ProfileIoAction × List ProfileIoEvent)) :
    logOf ((a, events) :: tr) = logOf tr ++ events := by
  unfold logOf
  rw [List.reverse_cons, List.map_append, List.flatten_append]
  simp

theorem pick_perm {α : Type} {l rest : List α} {i : Nat} {a : α}
    (h : pick l i = some (a, rest)) : l.Perm (a :: rest) := by
  unfold pick at h
  obtain ⟨a', ha, he⟩ := Option.map_eq_some_iff.mp h
  obtain ⟨rfl, rfl⟩ := Prod.mk.inj he
  obtain ⟨hlt, rfl⟩ := List.getElem?_eq_some_iff.mp ha
  exact (List.getElem_cons_eraseIdx_perm hlt).symm

namespace ProfileIo

/-! ## What a step can do -/

inductive Moves (limits : ProfileIoLimits) (unicode : Unicode) (s : ProfileIo) :
    List ProfileIoEvent → ProfileIo → Prop
  | invalid (nickname : Text) (e : NicknameError) :
    Moves limits unicode s [.refused nickname (.invalidNickname e)] s
  | admission (request : ProfileRequest) (stage : request.stage = .reserving)
    (canonical : request.subject.key = canonicalNicknameKey unicode request.subject.nickname)
    (handles : s.handles = true) :
    Moves limits unicode s [] { s with requests := request :: s.requests }
  | shut (request : ProfileRequest) (rest : List ProfileRequest)
    (perm : s.requests.Perm (request :: rest)) (stage : request.stage = .reserving) :
    Moves limits unicode s [.refused request.subject.nickname (.shuttingDown request.operation)]
      { s with requests := rest }
  | reserve (request : ProfileRequest) (rest : List ProfileRequest)
    (perm : s.requests.Perm (request :: rest)) (stage : request.stage = .reserving)
    (open_ : s.closed = false) :
    Moves limits unicode s []
      { s with requests := { request with stage := .slotted } :: rest }
  | exhaust (request : ProfileRequest) (rest : List ProfileRequest) (e : ProfileIoError)
    (perm : s.requests.Perm (request :: rest)) (stage : request.stage = .slotted)
    (table : acquireLane limits.lanes s.lanes (WeakTable.alive s.holders) request.subject.key =
      .error e) :
    Moves limits unicode s [.refused request.subject.nickname e] { s with requests := rest }
  | acquire (request : ProfileRequest) (rest : List ProfileRequest) (lane : Nat)
    (lanes : WeakTable Text) (perm : s.requests.Perm (request :: rest))
    (stage : request.stage = .slotted)
    (table : acquireLane limits.lanes s.lanes (WeakTable.alive s.holders) request.subject.key =
      .ok (lane, lanes)) :
    Moves limits unicode s []
      { s with lanes := lanes, requests := { request with stage := .waiting lane } :: rest }
  | lock (request : ProfileRequest) (rest : List ProfileRequest) (lane : Nat)
    (perm : s.requests.Perm (request :: rest)) (stage : request.stage = .waiting lane)
    (free : lane ∉ s.permits.map (·.lane)) :
    Moves limits unicode s [.granted ⟨request.subject, lane, s.nextSerial⟩]
      { s with
        requests :=
          { request with stage := .admitted ⟨request.subject, lane, s.nextSerial⟩ } :: rest
        nextSerial := s.nextSerial + 1 }
  | cancel (request : ProfileRequest) (rest : List ProfileRequest)
    (perm : s.requests.Perm (request :: rest)) :
    Moves limits unicode s (request.stage.permit.toList.map .dropped) { s with requests := rest }
  | submit (request : ProfileRequest) (rest : List ProfileRequest)
    (permit : ProfileLanePermit) (operation : Text) (perm : s.requests.Perm (request :: rest))
    (stage : request.stage = .admitted permit) :
    Moves limits unicode s [.submitted s.nextJob]
      { s with
        requests := rest
        queue := s.queue ++ [⟨s.nextJob, operation, permit⟩]
        nextJob := s.nextJob + 1 }
  | drop (permit : ProfileLanePermit) (rest : List ProfileLanePermit)
    (perm : s.derived.Perm (permit :: rest)) :
    Moves limits unicode s [.dropped permit] { s with derived := rest }
  | dropHandles : Moves limits unicode s [] { s with handles := false }
  | stop (running : s.result = none) :
    Moves limits unicode s [] { s with stopping := true, closed := true }
  | panic (job : ProfileJob) (rest : List ProfileWorker) (message : Text)
    (perm : s.workers.Perm (.running job :: rest)) :
    Moves limits unicode s [.dropped job.lane, .worked job.id]
      { s with workers := .finished ⟨job.id, job.operation,
          .error (.workerPanicked job.operation message)⟩ :: rest }
  | work (job : ProfileJob) (rest : List ProfileWorker)
    (perm : s.workers.Perm (.running job :: rest)) :
    Moves limits unicode s [.worked job.id]
      { s with workers := .finished ⟨job.id, job.operation, .ok job.lane⟩ :: rest }
  | join (completion : BlockingCompletion) (rest : List ProfileWorker)
    (failure : Option ProfileIoRuntimeError) (stopping closed : Bool)
    (perm : s.workers.Perm (.finished completion :: rest)) (running : s.result = none)
    (closes : s.closed = true → closed = true) :
    Moves limits unicode s [.completed completion.id failure]
      { s with
        workers := rest
        derived := completion.result.toOption.toList ++ s.derived
        firstFailure := s.firstFailure.or failure
        stopping := stopping
        closed := closed }
  | recv (job : ProfileJob) (rest : List ProfileJob) (queue : s.queue = job :: rest)
    (running : s.result = none) (input : s.inputDone = false)
    (room : s.workers.length < limits.inFlightJobs) :
    Moves limits unicode s [.started job.id job.lane]
      { s with queue := rest, workers := .running job :: s.workers }
  | recvNone (queue : s.queue = []) (running : s.result = none)
    (last : (s.closed = true ∧ s.slots = 0) ∨ (s.handles = false ∧ s.requests = [])) :
    Moves limits unicode s [] { s with inputDone := true, stopping := true }
  | finish (running : s.result = none) (input : s.inputDone = true) (workers : s.workers = [])
    (result : Except ProfileIoRuntimeError Unit)
    (verdict : result = s.firstFailure.elim (.ok ()) .error) :
    Moves limits unicode s [.returned result] { s with result := some result, closed := true }

variable {limits : ProfileIoLimits} {unicode : Unicode} {s s' : ProfileIo}
  {events : List ProfileIoEvent} {a : ProfileIoAction}

theorem subject_canonical {nickname : Text} {subject : ProfileSubject}
    (h : ProfileSubject.new unicode nickname = .ok subject) :
    subject.key = canonicalNicknameKey unicode subject.nickname := by
  unfold ProfileSubject.new at h
  cases hn : normalizeNickname unicode nickname with
  | error e =>
    rw [hn] at h
    exact absurd h (by simp [Except.map])
  | ok name =>
    rw [hn] at h
    cases h
    rfl

theorem admitCall_moves {nickname operation : Text}
    (h : s.admitCall unicode nickname operation = some (events, s')) :
    s.Moves limits unicode events s' := by
  unfold admitCall at h
  split at h
  next => exact absurd h (by simp)
  next hhandles =>
    split at h
    next e _ =>
      cases h
      exact .invalid nickname e
    next subject hs =>
      cases h
      exact .admission _ rfl (subject_canonical hs) (by simpa using hhandles)

theorem reserveSlot_moves {i : Nat} (h : s.reserveSlot limits i = some (events, s')) :
    s.Moves limits unicode events s' := by
  unfold reserveSlot at h
  split at h
  next request rest hp =>
    by_cases hstage : request.stage = .reserving
    · rw [if_neg (by simpa using hstage)] at h
      split at h
      next =>
        cases h
        exact .shut request rest (pick_perm hp) hstage
      next hopen =>
        split at h
        next =>
          cases h
          exact .reserve request rest (pick_perm hp) hstage (by simpa using hopen)
        next => exact absurd h (by simp)
    · rw [if_pos hstage] at h
      exact absurd h (by simp)
  next => exact absurd h (by simp)

theorem acquireStep_moves {i : Nat} (h : s.acquireStep limits i = some (events, s')) :
    s.Moves limits unicode events s' := by
  unfold acquireStep at h
  split at h
  next request rest hp =>
    by_cases hstage : request.stage = .slotted
    · rw [if_neg (by simpa using hstage)] at h
      split at h
      next e ht =>
        cases h
        exact .exhaust request rest e (pick_perm hp) hstage ht
      next lane lanes ht =>
        cases h
        exact .acquire request rest lane lanes (pick_perm hp) hstage ht
    · rw [if_pos hstage] at h
      exact absurd h (by simp)
  next => exact absurd h (by simp)

theorem lockLane_moves {i : Nat} (h : s.lockLane i = some (events, s')) :
    s.Moves limits unicode events s' := by
  unfold lockLane at h
  split at h
  next request rest hp =>
    split at h
    next lane hstage =>
      split at h
      next => exact absurd h (by simp)
      next hfree =>
        cases h
        exact .lock request rest lane (pick_perm hp) hstage hfree
    next => exact absurd h (by simp)
  next => exact absurd h (by simp)

theorem cancelCall_moves {i : Nat} (h : s.cancelCall i = some (events, s')) :
    s.Moves limits unicode events s' := by
  unfold cancelCall at h
  obtain ⟨⟨request, rest⟩, hp, he⟩ := Option.map_eq_some_iff.mp h
  cases he
  exact .cancel request rest (pick_perm hp)

theorem admitted_of_permit {stage : AdmitStage} {permit : ProfileLanePermit}
    (h : stage.permit = some permit) : stage = .admitted permit := by
  cases stage with
  | admitted lane => exact congrArg AdmitStage.admitted (Option.some.inj h)
  | reserving => exact absurd h (by simp [AdmitStage.permit])
  | slotted => exact absurd h (by simp [AdmitStage.permit])
  | waiting lane => exact absurd h (by simp [AdmitStage.permit])

theorem submitJob_moves {i : Nat} {operation : Text}
    (h : s.submitJob i operation = some (events, s')) : s.Moves limits unicode events s' := by
  unfold submitJob at h
  split at h
  next request rest hp =>
    obtain ⟨permit, hpermit, he⟩ := Option.map_eq_some_iff.mp h
    cases he
    exact .submit request rest permit operation (pick_perm hp) (admitted_of_permit hpermit)
  next => exact absurd h (by simp)

theorem dropDerived_moves {i : Nat} (h : s.dropDerived i = some (events, s')) :
    s.Moves limits unicode events s' := by
  unfold dropDerived at h
  obtain ⟨⟨permit, rest⟩, hp, he⟩ := Option.map_eq_some_iff.mp h
  cases he
  exact .drop permit rest (pick_perm hp)

theorem executeProfileJob_moves {i : Nat} {panic : Option Text}
    (h : s.executeProfileJob i panic = some (events, s')) : s.Moves limits unicode events s' := by
  unfold executeProfileJob at h
  split at h
  next job rest hp =>
    cases panic with
    | some message =>
      cases h
      exact .panic job rest message (pick_perm hp)
    | none =>
      cases h
      exact .work job rest (pick_perm hp)
  next => exact absurd h (by simp)

theorem joinWorker_moves {i : Nat} {panics : Bool} (hr : s.result = none)
    (h : s.joinWorker i panics = some (events, s')) : s.Moves limits unicode events s' := by
  unfold joinWorker at h
  split at h
  next completion rest hp =>
    cases h
    exact .join completion rest _ _ _ (pick_perm hp) hr fun hc => by rw [hc, Bool.true_or]
  next => exact absurd h (by simp)

theorem recvJob_moves (hr : s.result = none) (h : s.recvJob limits = some (events, s')) :
    s.Moves limits unicode events s' := by
  unfold recvJob at h
  split at h
  next => exact absurd h (by simp)
  next hready =>
    obtain ⟨hinput, hroom⟩ := not_or.mp hready
    split at h
    next job rest hq =>
      cases h
      exact .recv job rest hq hr (by simpa using hinput) (Nat.lt_of_not_le hroom)
    next hq =>
      split at h
      next hlast =>
        cases h
        exact .recvNone hq hr hlast
      next => exact absurd h (by simp)

theorem finishRuntime_moves (hr : s.result = none) (h : s.finishRuntime = some (events, s')) :
    s.Moves limits unicode events s' := by
  unfold finishRuntime at h
  split at h
  next hdone =>
    cases h
    refine .finish hr hdone.1 hdone.2 _ ?_
    cases s.firstFailure <;> rfl
  next => exact absurd h (by simp)

/-- **What a step can do.** -/
theorem moves_of_step (h : s.step limits unicode a = some (events, s')) :
    s.Moves limits unicode events s' := by
  cases a with
  | admission nickname operation => exact admitCall_moves h
  | reserve i => exact reserveSlot_moves h
  | acquire i => exact acquireStep_moves h
  | lock i => exact lockLane_moves h
  | cancel i => exact cancelCall_moves h
  | submit i operation => exact submitJob_moves h
  | drop i => exact dropDerived_moves h
  | dropHandles =>
    cases h
    exact .dropHandles
  | work i panic => exact executeProfileJob_moves h
  | stop =>
    simp only [step] at h
    split at h
    next => exact absurd h (by simp)
    next hr =>
      unfold stopSignal at h
      split at h
      next => exact absurd h (by simp)
      next =>
        cases h
        exact .stop (Option.not_isSome_iff_eq_none.mp hr)
  | join i panics =>
    simp only [step] at h
    split at h
    next => exact absurd h (by simp)
    next hr => exact joinWorker_moves (Option.not_isSome_iff_eq_none.mp hr) h
  | recv =>
    simp only [step] at h
    split at h
    next => exact absurd h (by simp)
    next hr => exact recvJob_moves (Option.not_isSome_iff_eq_none.mp hr) h
  | finish =>
    simp only [step] at h
    split at h
    next => exact absurd h (by simp)
    next hr => exact finishRuntime_moves (Option.not_isSome_iff_eq_none.mp hr) h

/-! ## Permits -/

@[simp] theorem permit_reserving : AdmitStage.reserving.permit = none := rfl
@[simp] theorem permit_slotted : AdmitStage.slotted.permit = none := rfl
@[simp] theorem permit_waiting (lane : Nat) : (AdmitStage.waiting lane).permit = none := rfl
@[simp] theorem permit_admitted (permit : ProfileLanePermit) :
    (AdmitStage.admitted permit).permit = some permit := rfl
@[simp] theorem permit_running (job : ProfileJob) :
    (ProfileWorker.running job).permit = some job.lane := rfl
@[simp] theorem permit_finished (completion : BlockingCompletion) :
    (ProfileWorker.finished completion).permit = completion.result.toOption := rfl

/-- What is picked from a list counts apart. -/
theorem count_filterMap_of_perm {α β : Type} [DecidableEq β] {l rest : List α} {x : α}
    (h : l.Perm (x :: rest)) (f : α → Option β) (b : β) :
    (l.filterMap f).count b = (f x).toList.count b + (rest.filterMap f).count b := by
  rw [(h.filterMap f).count_eq, List.filterMap_cons]
  cases f x with
  | none => rw [Option.toList_none, List.count_nil, Nat.zero_add]
  | some b' =>
    dsimp only
    rw [Option.toList_some, ← List.count_append, List.singleton_append]

theorem count_filterMap_cons {α β : Type} [DecidableEq β] (x : α) (rest : List α)
    (f : α → Option β) (b : β) :
    ((x :: rest).filterMap f).count b = (f x).toList.count b + (rest.filterMap f).count b :=
  count_filterMap_of_perm (.refl _) f b

theorem count_permits (s : ProfileIo) (p : ProfileLanePermit) : s.permits.count p =
    (s.requests.filterMap (·.stage.permit)).count p + (s.queue.map (·.lane)).count p +
      (s.workers.filterMap (·.permit)).count p + s.derived.count p := by
  unfold permits
  rw [List.count_append, List.count_append, List.count_append]

/-- The events of a dropped request. -/
theorem filterMap_dropped (stage : AdmitStage) :
    (stage.permit.toList.map ProfileIoEvent.dropped).filterMap (·.grant) = [] ∧
      (stage.permit.toList.map ProfileIoEvent.dropped).filterMap (·.loss) =
        stage.permit.toList := by
  cases stage.permit <;> exact ⟨rfl, rfl⟩

/-- **The permits balance**: what is made is held, and what is given up was held. -/
theorem Moves.balance (h : s.Moves limits unicode events s') (p : ProfileLanePermit) :
    s.permits.count p + (events.filterMap (·.grant)).count p =
      s'.permits.count p + (events.filterMap (·.loss)).count p := by
  rw [count_permits, count_permits]
  -- Each case counts what it takes from a list and what it puts into another one.
  cases h with
  | invalid | dropHandles | stop | recvNone | finish => rfl
  | admission request stage =>
    dsimp only
    rw [count_filterMap_cons, stage, permit_reserving, Option.toList_none, List.count_nil]
    exact congrArg (· + 0) (by omega)
  | shut request rest perm stage | exhaust request rest _ perm stage =>
    rw [count_filterMap_of_perm perm, stage]
    exact congrArg (· + _ + _ + _ + 0) (Nat.zero_add _)
  | reserve request rest perm stage | acquire request rest _ _ perm stage =>
    rw [count_filterMap_of_perm perm, count_filterMap_cons _ rest, stage]
    rfl
  | lock request rest lane perm stage =>
    have hgrant : [ProfileIoEvent.granted ⟨request.subject, lane, s.nextSerial⟩].filterMap
        (·.grant) = [⟨request.subject, lane, s.nextSerial⟩] := rfl
    have hloss : [ProfileIoEvent.granted ⟨request.subject, lane, s.nextSerial⟩].filterMap
        (·.loss) = [] := rfl
    dsimp only
    rw [hgrant, hloss, count_filterMap_of_perm perm, count_filterMap_cons, stage,
      permit_admitted, Option.toList_some, permit_waiting, Option.toList_none, List.count_nil]
    omega
  | cancel request rest perm =>
    obtain ⟨hgrant, hloss⟩ := filterMap_dropped request.stage
    dsimp only
    rw [count_filterMap_of_perm perm, hgrant, hloss, List.count_nil]
    omega
  | submit request rest permit operation perm stage =>
    have hlane : [(⟨s.nextJob, operation, permit⟩ : ProfileJob)].map (·.lane) = [permit] := rfl
    dsimp only
    rw [count_filterMap_of_perm perm, stage, permit_admitted, Option.toList_some,
      List.map_append, List.count_append, hlane]
    exact congrArg (· + 0) (by omega)
  | drop permit rest perm =>
    have hgrant : [ProfileIoEvent.dropped permit].filterMap (·.grant) = [] := rfl
    have hloss : [ProfileIoEvent.dropped permit].filterMap (·.loss) = [permit] := rfl
    dsimp only
    rw [perm.count_eq, ← List.singleton_append, List.count_append, hgrant, hloss, List.count_nil]
    omega
  | panic job rest message perm =>
    have hgrant : [ProfileIoEvent.dropped job.lane, .worked job.id].filterMap (·.grant) = [] := rfl
    have hloss : [ProfileIoEvent.dropped job.lane, .worked job.id].filterMap (·.loss) =
      [job.lane] := rfl
    dsimp only
    rw [hgrant, hloss, count_filterMap_of_perm perm, count_filterMap_cons _ rest, permit_running,
      permit_finished]
    show _ + _ + ([job.lane].count p + _) + _ + 0 = _ + _ + (0 + _) + _ + [job.lane].count p
    omega
  | work job rest perm =>
    dsimp only
    rw [count_filterMap_of_perm perm, count_filterMap_cons _ rest]
    rfl
  | join completion rest failure stopping closed perm =>
    dsimp only
    rw [count_filterMap_of_perm perm, List.count_append, permit_finished]
    exact congrArg (· + 0) (by omega)
  | recv job rest queue =>
    dsimp only
    rw [queue, count_filterMap_cons _ s.workers, List.map_cons, ← List.singleton_append,
      List.count_append, permit_running, Option.toList_some]
    exact congrArg (· + 0) (by omega)

/-- Without a new permit there are no others than before. -/
theorem Moves.permits_subperm (h : s.Moves limits unicode events s')
    (hgrant : events.filterMap (·.grant) = []) : s'.permits.Subperm s.permits := by
  refine List.subperm_ext_iff.mpr fun p _ => ?_
  have hbalance := h.balance p
  rw [hgrant, List.count_nil] at hbalance
  omega

/-- A new permit comes first. -/
theorem Moves.permits_perm (h : s.Moves limits unicode events s') (permit : ProfileLanePermit)
    (hgrant : events.filterMap (·.grant) = [permit]) (hloss : events.filterMap (·.loss) = []) :
    s'.permits.Perm (permit :: s.permits) := by
  refine List.perm_iff_count.mpr fun p => ?_
  have hbalance := h.balance p
  rw [hgrant, hloss, List.count_nil] at hbalance
  rw [← List.singleton_append, List.count_append]
  omega

/-! ## Lanes -/

/-- What a step does to the lanes: at most one is acquired, or its guard is taken. -/
inductive LaneStep (limits : ProfileIoLimits) (s s' : ProfileIo) : Prop
  | keep (lanes : s'.lanes = s.lanes) (permits : s'.permits.Subperm s.permits)
    (serial : s'.nextSerial = s.nextSerial)
    (waits : ∀ held ∈ s'.requests.filterMap (·.awaits), held ∈ s.requests.filterMap (·.awaits))
  | acquire (key : Text) (lane : Nat)
    (table : acquireLane limits.lanes s.lanes (WeakTable.alive s.holders) key =
      .ok (lane, s'.lanes))
    (permits : s'.permits.Subperm s.permits) (serial : s'.nextSerial = s.nextSerial)
    (waits : ∀ held ∈ s'.requests.filterMap (·.awaits),
      held = (key, lane) ∨ held ∈ s.requests.filterMap (·.awaits))
  | lock (permit : ProfileLanePermit) (lanes : s'.lanes = s.lanes)
    (free : permit.lane ∉ s.permits.map (·.lane)) (own : permit.serial = s.nextSerial)
    (serial : s'.nextSerial = s.nextSerial + 1) (permits : s'.permits.Perm (permit :: s.permits))
    (held : permit.holder ∈ s.requests.filterMap (·.awaits))
    (waits : ∀ held ∈ s'.requests.filterMap (·.awaits), held ∈ s.requests.filterMap (·.awaits))

theorem awaits_of_perm {requests rest : List ProfileRequest} {request : ProfileRequest}
    (perm : requests.Perm (request :: rest)) :
    ∀ held ∈ rest.filterMap (·.awaits), held ∈ requests.filterMap (·.awaits) := by
  intro held hmem
  obtain ⟨other, hother, he⟩ := List.mem_filterMap.mp hmem
  exact List.mem_filterMap.mpr ⟨other, perm.mem_iff.mpr (List.mem_cons_of_mem _ hother), he⟩

theorem awaits_cons {requests rest : List ProfileRequest} {request next : ProfileRequest}
    (perm : requests.Perm (request :: rest)) (hnext : next.awaits = none) :
    ∀ held ∈ (next :: rest).filterMap (·.awaits), held ∈ requests.filterMap (·.awaits) := by
  rw [List.filterMap_cons_none hnext]
  exact awaits_of_perm perm

theorem Moves.lanes (h : s.Moves limits unicode events s') : LaneStep limits s s' := by
  have hpermits := h.permits_subperm
  have hgranted := fun permit => h.permits_perm permit
  cases h with
  | invalid | dropHandles | stop | recvNone | finish | panic | work | join | recv | drop =>
    exact .keep rfl (hpermits rfl) rfl fun _ hmem => hmem
  | admission request stage =>
    have hnext : request.awaits = none := by
      unfold ProfileRequest.awaits
      rw [stage]
    refine .keep rfl (hpermits rfl) rfl ?_
    dsimp only
    rw [List.filterMap_cons_none hnext]
    exact fun _ hmem => hmem
  | shut request rest perm stage | exhaust request rest _ perm stage
  | submit request rest _ _ perm stage =>
    exact .keep rfl (hpermits rfl) rfl (awaits_of_perm perm)
  | reserve request rest perm stage =>
    exact .keep rfl (hpermits rfl) rfl (awaits_cons perm rfl)
  | acquire request rest lane lanes perm stage table =>
    refine .acquire request.subject.key lane table (hpermits rfl) rfl fun held hmem => ?_
    obtain ⟨other, hother, he⟩ := List.mem_filterMap.mp hmem
    rcases List.mem_cons.mp hother with rfl | hother
    · exact .inl (Option.some.inj he).symm
    · exact .inr (awaits_of_perm perm held (List.mem_filterMap.mpr ⟨other, hother, he⟩))
  | lock request rest lane perm stage free =>
    refine .lock ⟨request.subject, lane, s.nextSerial⟩ rfl free rfl rfl (hgranted _ rfl rfl) ?_
      (awaits_cons perm rfl)
    refine List.mem_filterMap.mpr ⟨request, perm.mem_iff.mpr List.mem_cons_self, ?_⟩
    unfold ProfileRequest.awaits
    rw [stage]
    rfl
  | cancel request rest perm =>
    exact .keep rfl (hpermits (filterMap_dropped request.stage).1) rfl (awaits_of_perm perm)

/-- What holds of the lanes between any two steps. -/
structure LaneOk (limits : ProfileIoLimits) (s : ProfileIo) : Prop where
  sound : s.lanes.Sound s.holders
  bounded : s.lanes.entries.length ≤ limits.lanes
  guards : (s.permits.map (·.lane)).Nodup
  serials : ∀ permit ∈ s.permits, permit.serial < s.nextSerial

theorem laneOk_spawn : LaneOk limits spawn where
  sound := .empty
  bounded := Nat.zero_le _
  guards := .nil
  serials := fun _ hmem => absurd hmem List.not_mem_nil

/-- A profile has one permit. -/
theorem LaneOk.keys (h : LaneOk limits s) : (s.permits.map (·.subject.key)).Nodup := by
  have hsame : ∀ p ∈ s.permits, ∀ q ∈ s.permits, p.subject.key = q.subject.key → p = q := by
    intro p hp q hq hkey
    have hp' : p.holder ∈ s.holders := List.mem_append_right _ (List.mem_map_of_mem hp)
    have hq' : (p.subject.key, q.lane) ∈ s.holders := by
      rw [hkey]
      exact List.mem_append_right _ (List.mem_map_of_mem (f := (·.holder)) hq)
    exact List.inj_on_of_nodup_map h.guards hp hq (h.sound.ref_eq hp' hq')
  exact List.Nodup.map_on hsame (List.Nodup.of_map _ h.guards)

/-- Acquiring a lane keeps the table sound for one more holder. -/
theorem acquireLane_sound {lanes lanes' : WeakTable Text} {holders : List (Text × Nat)}
    {maximum lane : Nat} {key : Text} (h : lanes.Sound holders) (hb : lanes.entries.length ≤ maximum)
    (ht : acquireLane maximum lanes (WeakTable.alive holders) key = .ok (lane, lanes')) :
    lanes'.Sound ((key, lane) :: holders) ∧ lanes'.entries.length ≤ maximum := by
  unfold acquireLane at ht
  split at ht
  next lane hu =>
    cases ht
    exact ⟨h.upgrade hu, hb⟩
  next =>
    have hpruned : (lanes.prune (WeakTable.alive holders)).entries.length ≤ maximum :=
      (List.length_filter_le _ _).trans hb
    dsimp only at ht
    split at ht
    next lane hu =>
      cases ht
      exact ⟨h.prune.upgrade hu, hpruned⟩
    next hu =>
      split at ht
      next => exact absurd ht (by simp)
      next hroom =>
        cases ht
        exact ⟨h.prune.insert (WeakTable.notMem_of_pruned hu), Nat.lt_of_not_le hroom⟩

/-- A refused lane: as many other keys as there may be are held. -/
theorem acquireLane_exhausted {lanes : WeakTable Text} {holders : List (Text × Nat)}
    {maximum : Nat} {key : Text} {e : ProfileIoError} (h : lanes.Sound holders)
    (hb : lanes.entries.length ≤ maximum)
    (ht : acquireLane maximum lanes (WeakTable.alive holders) key = .error e) :
    e = .laneCapacityExhausted maximum ∧ ∃ keys : List Text, keys.Nodup ∧
      keys.length = maximum ∧ key ∉ keys ∧ ∀ k ∈ keys, ∃ lane, (k, lane) ∈ holders := by
  unfold acquireLane at ht
  split at ht
  next => exact absurd ht (by simp)
  next =>
    dsimp only at ht
    split at ht
    next => exact absurd ht (by simp)
    next hu =>
      split at ht
      next hfull =>
        cases ht
        refine ⟨rfl, _, h.prune.keys, ?_, WeakTable.notMem_of_pruned hu, fun k hk => ?_⟩
        · rw [List.length_map]
          exact Nat.le_antisymm ((List.length_filter_le _ _).trans hb) hfull
        · obtain ⟨⟨k', lane⟩, hentry, he⟩ := List.mem_map.mp hk
          have hkey : k' = k := he
          exact ⟨lane, hkey ▸ h.held_of_pruned hentry⟩
      next => exact absurd ht (by simp)

theorem guards_of_subperm {l l' : List ProfileLanePermit} (h : l.Subperm l')
    (hn : (l'.map (·.lane)).Nodup) : (l.map (·.lane)).Nodup := by
  obtain ⟨kept, hperm, hsub⟩ := h
  exact (hperm.map _).nodup_iff.mp (hn.sublist (hsub.map _))

theorem LaneOk.step (h : LaneOk limits s) (hs : LaneStep limits s s') : LaneOk limits s' := by
  have hsub : ∀ {held : Text × Nat}, held ∈ s.requests.filterMap (·.awaits) → held ∈ s.holders :=
    List.mem_append_left _
  have hold : ∀ {permit : ProfileLanePermit}, permit ∈ s.permits → permit.holder ∈ s.holders :=
    fun hp => List.mem_append_right _ (List.mem_map_of_mem hp)
  cases hs with
  | keep lanes permits serial waits =>
    refine ⟨?_, lanes ▸ h.bounded, ?_, fun p hp => serial ▸ h.serials p (permits.subset hp)⟩
    · rw [lanes]
      refine h.sound.mono fun held hmem => ?_
      rcases List.mem_append.mp hmem with hmem | hmem
      · exact hsub (waits held hmem)
      · obtain ⟨p, hp, rfl⟩ := List.mem_map.mp hmem
        exact hold (permits.subset hp)
    · exact guards_of_subperm permits h.guards
  | acquire key lane table permits serial waits =>
    obtain ⟨hsound, hbounded⟩ := acquireLane_sound h.sound h.bounded table
    refine ⟨hsound.mono fun held hmem => ?_, hbounded, ?_,
      fun p hp => serial ▸ h.serials p (permits.subset hp)⟩
    · rcases List.mem_append.mp hmem with hmem | hmem
      · rcases waits held hmem with rfl | hmem
        · exact List.mem_cons_self
        · exact List.mem_cons_of_mem _ (hsub hmem)
      · obtain ⟨p, hp, rfl⟩ := List.mem_map.mp hmem
        exact List.mem_cons_of_mem _ (hold (permits.subset hp))
    · exact guards_of_subperm permits h.guards
  | lock permit lanes free own serial permits held waits =>
    refine ⟨?_, lanes ▸ h.bounded, ?_, fun p hp => ?_⟩
    · rw [lanes]
      refine h.sound.mono fun other hmem => ?_
      rcases List.mem_append.mp hmem with hmem | hmem
      · exact hsub (waits other hmem)
      · obtain ⟨p, hp, rfl⟩ := List.mem_map.mp hmem
        rcases List.mem_cons.mp (permits.mem_iff.mp hp) with rfl | hp
        · exact hsub held
        · exact hold hp
    · rw [(permits.map (·.lane)).nodup_iff]
      exact List.nodup_cons.mpr ⟨free, h.guards⟩
    · rcases List.mem_cons.mp (permits.mem_iff.mp hp) with rfl | hp
      · omega
      · have hlt := h.serials p hp
        omega

end ProfileIo

end P4475.Profile
