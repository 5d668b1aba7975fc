import P4475.Lib.Machine
import P4475.Lib.WeakTable
import P4475.Nickname

/-!
# The profile I/O runtime

Requesters reserve a slot of the job queue, acquire the lane of their profile, and submit a
job together with the lane; the supervisor spawns a worker for each job, at most so many at
once, and hands the result back through the completion of the job. The permit of a lane
moves along: from the admission into the job, from the job into the completion, and from
there to whatever the requester derives from it.

One action is one step of one party, so that a list of actions is a schedule. A step that
would block is not enabled. The supervisor may take any branch of its `select` that is
ready; the source prefers the earlier ones. What a job computes, and how long it takes, is up to
the schedule. A worker never fails outside of `catch_unwind`, and nothing cancels it.
-/

namespace P4475.Profile

open Lib

structure ProfileIoLimits where
  lanes : Nat
  queuedJobs : Nat
  inFlightJobs : Nat
  lanesPos : 0 < lanes
  queuedJobsPos : 0 < queuedJobs
  inFlightJobsPos : 0 < inFlightJobs

inductive ProfileIoError
  | invalidNickname (error : NicknameError)
  | laneCapacityExhausted (maximum : Nat)
  | shuttingDown (operation : Text)
  | workerPanicked (operation message : Text)
  deriving DecidableEq

inductive ProfileIoRuntimeError
  | workerPanicked (operation message : Text)
  deriving DecidableEq

/-- The nickname of a profile and its canonical key. -/
structure ProfileSubject where
  nickname : Text
  key : Text
  deriving DecidableEq

/-- `ProfileSubject::new`. -/
def ProfileSubject.new (unicode : Unicode) (nickname : Text) :
    Except NicknameError ProfileSubject :=
  (normalizeNickname unicode nickname).map fun nickname =>
    ⟨nickname, canonicalNicknameKey unicode nickname⟩

/-- The guard of a lane's mutex; `serial` tells the guards of one lane apart. -/
structure ProfileLanePermit where
  subject : ProfileSubject
  lane : Nat
  serial : Nat
  deriving DecidableEq

/-- How far a call of `admit` has got. From `slotted` on it holds a slot of the queue,
while `waiting` also the lane, and once `admitted` the lane's guard. -/
inductive AdmitStage
  | reserving
  | slotted
  | waiting (lane : Nat)
  | admitted (lane : ProfileLanePermit)
  deriving DecidableEq

structure ProfileRequest where
  subject : ProfileSubject
  operation : Text
  stage : AdmitStage
  deriving DecidableEq

structure ProfileJob where
  id : Nat
  operation : Text
  lane : ProfileLanePermit
  deriving DecidableEq

/-- What a worker leaves for the supervisor. Of the value of a job only the lane is kept. -/
structure BlockingCompletion where
  id : Nat
  operation : Text
  result : Except ProfileIoError ProfileLanePermit

inductive ProfileWorker
  | running (job : ProfileJob)
  | finished (completion : BlockingCompletion)

/-- The message of a completion that panicked. -/
def completionPanicked : Text := "profile completion callback panicked".toList

/-- What happens to a permit and to a job. -/
inductive ProfileIoEvent
  | refused (nickname : Text) (error : ProfileIoError)
  | granted (permit : ProfileLanePermit)
  | dropped (permit : ProfileLanePermit)
  | submitted (id : Nat)
  | started (id : Nat) (permit : ProfileLanePermit)
  | worked (id : Nat)
  | completed (id : Nat) (failure : Option ProfileIoRuntimeError)
  | returned (result : Except ProfileIoRuntimeError Unit)

/-- The table of lanes, the channel, and the state of the supervisor. `derived` are the
permits that completions have handed out, each with what was derived from it. -/
structure ProfileIo where
  lanes : WeakTable Text
  requests : List ProfileRequest
  queue : List ProfileJob
  workers : List ProfileWorker
  derived : List ProfileLanePermit
  handles : Bool
  closed : Bool
  stopping : Bool
  inputDone : Bool
  firstFailure : Option ProfileIoRuntimeError
  result : Option (Except ProfileIoRuntimeError Unit)
  nextSerial : Nat
  nextJob : Nat

/-- `ProfileIoBootstrap::spawn`. -/
def ProfileIo.spawn : ProfileIo where
  lanes := .empty
  requests := []
  queue := []
  workers := []
  derived := []
  handles := true
  closed := false
  stopping := false
  inputDone := false
  firstFailure := none
  result := none
  nextSerial := 0
  nextJob := 0

/-! ## What is held -/

def AdmitStage.permit : AdmitStage → Option ProfileLanePermit
  | .admitted lane => some lane
  | _ => none

/-- Whether a call holds a slot of the queue. -/
def AdmitStage.slot : AdmitStage → Bool
  | .reserving => false
  | _ => true

/-- The lane that a call waits for. -/
def ProfileRequest.awaits (request : ProfileRequest) : Option (Text × Nat) :=
  match request.stage with
  | .waiting lane => some (request.subject.key, lane)
  | _ => none

def ProfileWorker.permit : ProfileWorker → Option ProfileLanePermit
  | .running job => some job.lane
  | .finished completion => completion.result.toOption

def ProfileWorker.isRunning : ProfileWorker → Bool
  | .running _ => true
  | .finished _ => false

/-- A permit as a holder of its lane. -/
def ProfileLanePermit.holder (permit : ProfileLanePermit) : Text × Nat :=
  (permit.subject.key, permit.lane)

namespace ProfileIo

/-- Every permit there is. -/
def permits (s : ProfileIo) : List ProfileLanePermit :=
  s.requests.filterMap (·.stage.permit) ++ s.queue.map (·.lane) ++
    s.workers.filterMap (·.permit) ++ s.derived

/-- Who keeps a lane alive, by key: its permit and whoever waits for it. -/
def holders (s : ProfileIo) : List (Text × Nat) :=
  s.requests.filterMap (·.awaits) ++ s.permits.map (·.holder)

/-- The slots of the queue that calls hold. -/
def slots (s : ProfileIo) : Nat := s.requests.countP (·.stage.slot)

end ProfileIo

/-! ## Lanes -/

/-- The critical section of `ProfileLaneTable::acquire`: the lane of a key, or why there is
none. -/
def acquireLane (maximum : Nat) (lanes : WeakTable Text) (live : Nat → Bool) (key : Text) :
    Except ProfileIoError (Nat × WeakTable Text) :=
  match lanes.upgrade live key with
  | some lane => .ok (lane, lanes)
  | none =>
    let lanes := lanes.prune live
    match lanes.upgrade live key with
    | some lane => .ok (lane, lanes)
    | none =>
      if maximum ≤ lanes.entries.length then .error (.laneCapacityExhausted maximum)
      else .ok (lanes.next, lanes.insert key)

/-! ## Steps -/

/-- One entry of a list, and the others. -/
def pick {α : Type} (l : List α) (i : Nat) : Option (α × List α) :=
  l[i]?.map fun a => (a, l.eraseIdx i)

inductive ProfileIoAction
  | admission (nickname operation : Text)
  | reserve (i : Nat)
  | acquire (i : Nat)
  | lock (i : Nat)
  | cancel (i : Nat)
  | submit (i : Nat) (operation : Text)
  | drop (i : Nat)
  | dropHandles
  | stop
  | work (i : Nat) (panic : Option Text)
  | join (i : Nat) (panics : Bool)
  | recv
  | finish
  deriving DecidableEq

namespace ProfileIo

variable (limits : ProfileIoLimits) (unicode : Unicode)

/-- A call of `admit` begins. -/
def admitCall (s : ProfileIo) (nickname operation : Text) :
    Option (List ProfileIoEvent × ProfileIo) :=
  if s.handles = false then none
  else
    match ProfileSubject.new unicode nickname with
    | .error e => some ([.refused nickname (.invalidNickname e)], s)
    | .ok subject => some ([], { s with requests := ⟨subject, operation, .reserving⟩ :: s.requests })

/-- `reserve_owned`: a closed channel refuses, a full one makes the call wait. -/
def reserveSlot (s : ProfileIo) (i : Nat) : Option (List ProfileIoEvent × ProfileIo) :=
  match pick s.requests i with
  | some (request, rest) =>
    if request.stage ≠ .reserving then none
    else if s.closed then
      some ([.refused request.subject.nickname (.shuttingDown request.operation)],
        { s with requests := rest })
    else if s.slots + s.queue.length < limits.queuedJobs then
      some ([], { s with requests := { request with stage := .slotted } :: rest })
    else none
  | none => none

/-- `lanes.acquire`, up to the lock. -/
def acquireStep (s : ProfileIo) (i : Nat) : Option (List ProfileIoEvent × ProfileIo) :=
  match pick s.requests i with
  | some (request, rest) =>
    if request.stage ≠ .slotted then none
    else
      match acquireLane limits.lanes s.lanes (WeakTable.alive s.holders) request.subject.key with
      | .error e => some ([.refused request.subject.nickname e], { s with requests := rest })
      | .ok (lane, lanes) => some ([], { s with
          lanes := lanes
          requests := { request with stage := .waiting lane } :: rest })
  | none => none

/-- `lock_owned`: the mutex of the lane is free. -/
def lockLane (s : ProfileIo) (i : Nat) : Option (List ProfileIoEvent × ProfileIo) :=
  match pick s.requests i with
  | some (request, rest) =>
    match request.stage with
    | .waiting lane =>
      if lane ∈ s.permits.map (·.lane) then none
      else
        let permit : ProfileLanePermit := ⟨request.subject, lane, s.nextSerial⟩
        some ([.granted permit], { s with
          requests := { request with stage := .admitted permit } :: rest
          nextSerial := s.nextSerial + 1 })
    | _ => none
  | none => none

/-- The future of `admit`, or the admission it led to, is dropped. -/
def cancelCall (s : ProfileIo) (i : Nat) : Option (List ProfileIoEvent × ProfileIo) :=
  (pick s.requests i).map fun (request, rest) =>
    (request.stage.permit.toList.map .dropped, { s with requests := rest })

/-- `submit_with_completion`. -/
def submitJob (s : ProfileIo) (i : Nat) (operation : Text) :
    Option (List ProfileIoEvent × ProfileIo) :=
  match pick s.requests i with
  | some (request, rest) =>
    request.stage.permit.map fun permit =>
      ([.submitted s.nextJob], { s with
        requests := rest
        queue := s.queue ++ [⟨s.nextJob, operation, permit⟩]
        nextJob := s.nextJob + 1 })
  | none => none

/-- What a completion handed out is dropped. -/
def dropDerived (s : ProfileIo) (i : Nat) : Option (List ProfileIoEvent × ProfileIo) :=
  (pick s.derived i).map fun (permit, rest) => ([.dropped permit], { s with derived := rest })

/-- The last handle is dropped; a call of `admit` borrows one only until it has its own
sender. -/
def dropHandles (s : ProfileIo) : Option (List ProfileIoEvent × ProfileIo) :=
  some ([], { s with handles := false })

/-- The `stop` branch. -/
def stopSignal (s : ProfileIo) : Option (List ProfileIoEvent × ProfileIo) :=
  if s.stopping then none else some ([], { s with stopping := true, closed := true })

/-- `execute_profile_job`, to its end or to a panic of the job. -/
def executeProfileJob (s : ProfileIo) (i : Nat) (panic : Option Text) :
    Option (List ProfileIoEvent × ProfileIo) :=
  match pick s.workers i with
  | some (.running job, rest) =>
    match panic with
    | some message => some ([.dropped job.lane, .worked job.id], { s with
        workers := .finished ⟨job.id, job.operation,
          .error (.workerPanicked job.operation message)⟩ :: rest })
    | none => some ([.worked job.id], { s with
        workers := .finished ⟨job.id, job.operation, .ok job.lane⟩ :: rest })
  | _ => none

/-- How a joined worker fails: by itself, or else in its completion. -/
def joinFailure (completion : BlockingCompletion) (panics : Bool) :
    Option ProfileIoRuntimeError :=
  match completion.result with
  | .error (.workerPanicked operation message) => some (.workerPanicked operation message)
  | _ => if panics then some (.workerPanicked completion.operation completionPanicked) else none

/-- The `join_next` branch: the completion takes the result, and the first failure stops the
runtime. -/
def joinWorker (s : ProfileIo) (i : Nat) (panics : Bool) :
    Option (List ProfileIoEvent × ProfileIo) :=
  match pick s.workers i with
  | some (.finished completion, rest) =>
    let failure := joinFailure completion panics
    let fails := s.firstFailure.isNone && failure.isSome
    some ([.completed completion.id failure], { s with
      workers := rest
      derived := completion.result.toOption.toList ++ s.derived
      firstFailure := s.firstFailure.or failure
      stopping := s.stopping || fails
      closed := s.closed || fails })
  | _ => none

/-- The `recv` branch. The channel is at its end when the queue is empty and nothing can be
sent any more: it is closed and no slot is left, or there is no sender. -/
def recvJob (s : ProfileIo) : Option (List ProfileIoEvent × ProfileIo) :=
  if s.inputDone ∨ limits.inFlightJobs ≤ s.workers.length then none
  else
    match s.queue with
    | job :: rest => some ([.started job.id job.lane], { s with
        queue := rest
        workers := .running job :: s.workers })
    | [] =>
      if (s.closed ∧ s.slots = 0) ∨ (s.handles = false ∧ s.requests = []) then
        some ([], { s with inputDone := true, stopping := true })
      else none

/-- The end of the loop; the channel's receiver goes with it. -/
def finishRuntime (s : ProfileIo) : Option (List ProfileIoEvent × ProfileIo) :=
  if s.inputDone ∧ s.workers = [] then
    let result := match s.firstFailure with
      | some error => .error error
      | none => .ok ()
    some ([.returned result], { s with result := some result, closed := true })
  else none

/-- A step of `run_profile_io`, or of one of the other parties. -/
def step (s : ProfileIo) : ProfileIoAction → Option (List ProfileIoEvent × ProfileIo)
  | .admission nickname operation => s.admitCall unicode nickname operation
  | .reserve i => s.reserveSlot limits i
  | .acquire i => s.acquireStep limits i
  | .lock i => s.lockLane i
  | .cancel i => s.cancelCall i
  | .submit i operation => s.submitJob i operation
  | .drop i => s.dropDerived i
  | .dropHandles => s.dropHandles
  | .work i panic => s.executeProfileJob i panic
  | .stop => if s.result.isSome then none else s.stopSignal
  | .join i panics => if s.result.isSome then none else s.joinWorker i panics
  | .recv => if s.result.isSome then none else s.recvJob limits
  | .finish => if s.result.isSome then none else s.finishRuntime

def machine : Machine ProfileIo ProfileIoAction (List ProfileIoEvent) where
  init := spawn
  step := step limits unicode

end ProfileIo

end P4475.Profile
