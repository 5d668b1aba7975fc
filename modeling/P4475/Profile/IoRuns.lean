import P4475.Profile.IoLanes

/-!
# Every job runs once

Jobs balance as permits do: what was submitted is queued or started, what was started runs
or is done, and what is done was handed to its completion or still waits for the
supervisor. When the runtime returns, the queue and the workers are empty, so that every
job has gone all the way; the channel is at its end then, and nothing is submitted any more.
-/

namespace P4475.Profile

open Lib

def ProfileWorker.runningId : ProfileWorker → Option Nat
  | .running job => some job.id
  | .finished _ => none

def ProfileWorker.finishedId : ProfileWorker → Option Nat
  | .running _ => none
  | .finished completion => some completion.id

namespace ProfileIo

variable {limits : ProfileIoLimits} {unicode : Unicode} {s s' : ProfileIo}
  {events log : List ProfileIoEvent} {a : ProfileIoAction}
  {tr : List (ProfileIoAction × List ProfileIoEvent)}

/-! ## Jobs -/

/-- What a step does to one job. -/
structure JobStep (id : Nat) (events : List ProfileIoEvent) (s s' : ProfileIo) : Prop where
  queue : (s.queue.map (·.id)).count id + (events.filterMap (·.submission)).count id =
    (s'.queue.map (·.id)).count id + (events.filterMap (·.start)).count id
  running : (s.workers.filterMap (·.runningId)).count id + (events.filterMap (·.start)).count id =
    (s'.workers.filterMap (·.runningId)).count id + (events.filterMap (·.work)).count id
  finished : (s.workers.filterMap (·.finishedId)).count id + (events.filterMap (·.work)).count id =
    (s'.workers.filterMap (·.finishedId)).count id + (events.filterMap (·.completion)).count id

/-- A step without news of any job. -/
theorem JobStep.silent {id : Nat} (hqueue : s'.queue = s.queue) (hworkers : s'.workers = s.workers)
    (hevents : events.filterMap (·.submission) = [] ∧ events.filterMap (·.start) = [] ∧
      events.filterMap (·.work) = [] ∧ events.filterMap (·.completion) = []) :
    JobStep id events s s' := by
  obtain ⟨h₁, h₂, h₃, h₄⟩ := hevents
  refine ⟨?_, ?_, ?_⟩
  · rw [h₁, h₂, hqueue]
  · rw [h₂, h₃, hworkers]
  · rw [h₃, h₄, hworkers]

theorem silent_dropped (stage : AdmitStage) :
    (stage.permit.toList.map ProfileIoEvent.dropped).filterMap (·.submission) = [] ∧
      (stage.permit.toList.map ProfileIoEvent.dropped).filterMap (·.start) = [] ∧
      (stage.permit.toList.map ProfileIoEvent.dropped).filterMap (·.work) = [] ∧
      (stage.permit.toList.map ProfileIoEvent.dropped).filterMap (·.completion) = [] := by
  cases stage.permit <;> exact ⟨rfl, rfl, rfl, rfl⟩

/-- A worker is done with a job. -/
theorem JobStep.worked {id : Nat} {job : ProfileJob} {rest : List ProfileWorker}
    {completion : BlockingCompletion} (perm : s.workers.Perm (.running job :: rest))
    (hid : completion.id = job.id) (hqueue : s'.queue = s.queue)
    (hworkers : s'.workers = .finished completion :: rest)
    (hevents : events.filterMap (·.submission) = [] ∧ events.filterMap (·.start) = [] ∧
      events.filterMap (·.work) = [job.id] ∧ events.filterMap (·.completion) = []) :
    JobStep id events s s' := by
  obtain ⟨h₁, h₂, h₃, h₄⟩ := hevents
  have hrunning : (ProfileWorker.finished completion).runningId.toList = [] := rfl
  have hrunning' : (ProfileWorker.running job).runningId.toList = [job.id] := rfl
  have hfinished : (ProfileWorker.finished completion).finishedId.toList = [completion.id] := rfl
  have hfinished' : (ProfileWorker.running job).finishedId.toList = [] := rfl
  refine ⟨?_, ?_, ?_⟩
  · rw [h₁, h₂, hqueue]
  · rw [h₂, h₃, hworkers, count_filterMap_of_perm perm, count_filterMap_cons, hrunning, hrunning',
      List.count_nil]
    omega
  · rw [h₃, h₄, hworkers, count_filterMap_of_perm perm, count_filterMap_cons, hfinished,
      hfinished', hid, List.count_nil]
    omega

theorem Moves.jobs (h : s.Moves limits unicode events s') (id : Nat) : JobStep id events s s' := by
  cases h with
  | invalid | admission | shut | reserve | exhaust | acquire | lock | drop | dropHandles | stop
  | recvNone | finish => exact .silent rfl rfl ⟨rfl, rfl, rfl, rfl⟩
  | cancel request => exact .silent rfl rfl (silent_dropped request.stage)
  | submit request rest permit operation =>
    refine ⟨?_, rfl, rfl⟩
    have hid : [(⟨s.nextJob, operation, permit⟩ : ProfileJob)].map (·.id) = [s.nextJob] := rfl
    dsimp only
    rw [List.map_append, List.count_append, hid]
    rfl
  | panic job rest message perm => exact .worked perm rfl rfl rfl ⟨rfl, rfl, rfl, rfl⟩
  | work job rest perm => exact .worked perm rfl rfl rfl ⟨rfl, rfl, rfl, rfl⟩
  | join completion rest failure stopping closed perm =>
    have hrunning : (ProfileWorker.finished completion).runningId.toList = [] := rfl
    have hfinished : (ProfileWorker.finished completion).finishedId.toList = [completion.id] := rfl
    refine ⟨rfl, ?_, ?_⟩
    · dsimp only
      rw [count_filterMap_of_perm perm, hrunning, List.count_nil, Nat.zero_add]
      rfl
    · dsimp only
      rw [count_filterMap_of_perm perm, hfinished, Nat.add_comm ([completion.id].count id)]
      rfl
  | recv job rest queue =>
    have hrunning : (ProfileWorker.running job).runningId.toList = [job.id] := rfl
    have hfinished : (ProfileWorker.running job).finishedId.toList = [] := rfl
    refine ⟨?_, ?_, ?_⟩
    · dsimp only
      rw [queue, List.map_cons, ← List.singleton_append, List.count_append,
        Nat.add_comm ([job.id].count id)]
      rfl
    · dsimp only
      rw [count_filterMap_cons _ s.workers, hrunning, Nat.add_comm ([job.id].count id)]
      rfl
    · dsimp only
      rw [count_filterMap_cons _ s.workers, hfinished, List.count_nil, Nat.zero_add]
      rfl

/-- The jobs of a log are submitted one by one, and each is somewhere. -/
structure JobOk (log : List ProfileIoEvent) (s : ProfileIo) : Prop where
  queue : ∀ id, (log.filterMap (·.submission)).count id =
    (s.queue.map (·.id)).count id + (log.filterMap (·.start)).count id
  running : ∀ id, (log.filterMap (·.start)).count id =
    (s.workers.filterMap (·.runningId)).count id + (log.filterMap (·.work)).count id
  finished : ∀ id, (log.filterMap (·.work)).count id =
    (s.workers.filterMap (·.finishedId)).count id + (log.filterMap (·.completion)).count id
  fresh : ∀ id ∈ log.filterMap (·.submission), id < s.nextJob
  distinct : (log.filterMap (·.submission)).Nodup

/-- A step submits one job at most, under the next number. -/
theorem Moves.submissions (h : s.Moves limits unicode events s') :
    (events.filterMap (·.submission) = [] ∧ s'.nextJob = s.nextJob) ∨
      (events.filterMap (·.submission) = [s.nextJob] ∧ s'.nextJob = s.nextJob + 1) := by
  cases h with
  | cancel request => exact .inl ⟨(silent_dropped request.stage).1, rfl⟩
  | submit => exact .inr ⟨rfl, rfl⟩
  | _ => exact .inl ⟨rfl, rfl⟩

theorem JobOk.moves (h : JobOk log s) (hm : s.Moves limits unicode events s') :
    JobOk (log ++ events) s' := by
  refine ⟨fun id => ?_, fun id => ?_, fun id => ?_, ?_, ?_⟩
  · have hjob := (hm.jobs id).queue
    have hlog := h.queue id
    rw [List.filterMap_append, List.filterMap_append, List.count_append, List.count_append]
    omega
  · have hjob := (hm.jobs id).running
    have hlog := h.running id
    rw [List.filterMap_append, List.filterMap_append, List.count_append, List.count_append]
    omega
  · have hjob := (hm.jobs id).finished
    have hlog := h.finished id
    rw [List.filterMap_append, List.filterMap_append, List.count_append, List.count_append]
    omega
  · rw [List.filterMap_append]
    rcases hm.submissions with ⟨he, hn⟩ | ⟨he, hn⟩
    · rw [he, hn, List.append_nil]
      exact h.fresh
    · rw [he, hn]
      intro id hid
      rcases List.mem_append.mp hid with hid | hid
      · exact Nat.lt_succ_of_lt (h.fresh id hid)
      · rw [List.mem_singleton.mp hid]
        exact Nat.lt_succ_self _
  · rw [List.filterMap_append]
    rcases hm.submissions with ⟨he, -⟩ | ⟨he, -⟩
    · rw [he, List.append_nil]
      exact h.distinct
    · rw [he]
      refine List.nodup_append.mpr ⟨h.distinct, List.nodup_singleton _, ?_⟩
      intro id hid other hother heq
      rw [List.mem_singleton.mp hother] at heq
      have hlt := h.fresh id hid
      omega

theorem jobOk_spawn : JobOk [] spawn :=
  ⟨fun _ => rfl, fun _ => rfl, fun _ => rfl, fun _ hmem => absurd hmem List.not_mem_nil, .nil⟩

/-- Nothing happens to a job twice. -/
theorem JobOk.once (h : JobOk log s) (id : Nat) : (log.filterMap (·.start)).count id ≤ 1 ∧
    (log.filterMap (·.work)).count id ≤ 1 ∧ (log.filterMap (·.completion)).count id ≤ 1 := by
  have hsubmitted := List.nodup_iff_count_le_one.mp h.distinct id
  have hqueue := h.queue id
  have hrunning := h.running id
  have hfinished := h.finished id
  omega

/-- Where nothing waits and nothing runs, every submitted job has gone all the way. -/
theorem JobOk.complete (h : JobOk log s) (hq : s.queue = []) (hw : s.workers = []) {id : Nat}
    (hid : ProfileIoEvent.submitted id ∈ log) : (log.filterMap (·.start)).count id = 1 ∧
      (log.filterMap (·.work)).count id = 1 ∧ (log.filterMap (·.completion)).count id = 1 := by
  have hmem : id ∈ log.filterMap (·.submission) := List.mem_filterMap.mpr ⟨_, hid, rfl⟩
  have hsubmitted := List.count_eq_one_of_mem h.distinct hmem
  have hqueue := h.queue id
  have hrunning := h.running id
  have hfinished := h.finished id
  rw [hq, List.map_nil, List.count_nil] at hqueue
  rw [hw, List.filterMap_nil, List.count_nil] at hrunning hfinished
  omega

/-! ## The supervisor -/

/-- Nothing can be sent any more. -/
def Ended (s : ProfileIo) : Prop :=
  s.queue = [] ∧ ((s.closed = true ∧ s.slots = 0) ∨ (s.handles = false ∧ s.requests = []))

/-- What the supervisor knows: how many workers there are, that the channel is at its end
once it has seen the end, and the first failure. -/
structure SupervisorOk (limits : ProfileIoLimits) (log : List ProfileIoEvent) (s : ProfileIo) :
    Prop where
  workers : s.workers.length ≤ limits.inFlightJobs
  input : s.inputDone = true → s.Ended
  result : s.result.isSome = true → s.inputDone = true ∧ s.workers = []
  returned : ∀ result, .returned result ∈ log → s.result.isSome = true
  failure : s.firstFailure = (log.filterMap (·.failure)).head?

theorem supervisorOk_spawn : SupervisorOk limits [] spawn where
  workers := Nat.zero_le _
  input := fun h => absurd h (by decide)
  result := fun h => absurd h (by decide)
  returned := fun _ h => absurd h List.not_mem_nil
  failure := rfl

theorem slots_of_perm {rest : List ProfileRequest} {request : ProfileRequest}
    (perm : s.requests.Perm (request :: rest)) :
    s.slots = rest.countP (·.stage.slot) + if request.stage.slot then 1 else 0 := by
  unfold slots
  rw [perm.countP_eq, List.countP_cons]

/-- At the end of the channel no call holds a slot. -/
theorem Ended.no_slot (h : s.Ended) {rest : List ProfileRequest} {request : ProfileRequest}
    (perm : s.requests.Perm (request :: rest)) : request.stage.slot = false := by
  rcases h.2 with ⟨-, hslots⟩ | ⟨-, hnone⟩
  · rw [slots_of_perm perm] at hslots
    by_contra hslot
    rw [if_pos (by simpa using hslot)] at hslots
    omega
  · rw [hnone] at perm
    exact absurd perm.length_eq (by simp)

/-- A call that goes away frees nothing but its slot. -/
theorem Ended.without (h : s.Ended) {rest : List ProfileRequest} {request : ProfileRequest}
    (perm : s.requests.Perm (request :: rest)) :
    Ended { s with requests := rest } := by
  refine ⟨h.1, h.2.imp (fun hclosed => ⟨hclosed.1, ?_⟩) fun hnone => ?_⟩
  · have hslots := hclosed.2
    rw [slots_of_perm perm] at hslots
    show rest.countP (·.stage.slot) = 0
    omega
  · rw [hnone.2] at perm
    exact absurd perm.length_eq (by simp)

/-- The end of the channel is final. -/
theorem Ended.moves (h : s.Ended) (hm : s.Moves limits unicode events s') : s'.Ended := by
  cases hm with
  | invalid | drop | panic | work => exact h
  | admission request stage canonical handles =>
    refine ⟨h.1, h.2.imp (fun hclosed => ⟨hclosed.1, ?_⟩) fun hnone => ?_⟩
    · have hslots : s.slots = 0 := hclosed.2
      show (request :: s.requests).countP (·.stage.slot) = 0
      rw [List.countP_cons, stage]
      exact hslots
    · rw [handles] at hnone
      exact absurd hnone.1 (by simp)
  | shut request rest perm => exact h.without perm
  | reserve request rest perm stage open_ =>
    rcases h.2 with ⟨hclosed, -⟩ | ⟨-, hnone⟩
    · rw [open_] at hclosed
      exact absurd hclosed (by simp)
    · rw [hnone] at perm
      exact absurd perm.length_eq (by simp)
  | exhaust request rest e perm stage =>
    exact absurd (h.no_slot perm) (by simp [stage, AdmitStage.slot])
  | acquire request rest lane lanes perm stage =>
    exact absurd (h.no_slot perm) (by simp [stage, AdmitStage.slot])
  | lock request rest lane perm stage =>
    exact absurd (h.no_slot perm) (by simp [stage, AdmitStage.slot])
  | cancel request rest perm => exact h.without perm
  | submit request rest permit operation perm stage =>
    exact absurd (h.no_slot perm) (by simp [stage, AdmitStage.slot])
  | dropHandles => exact ⟨h.1, h.2.imp (fun hclosed => hclosed) fun hnone => ⟨rfl, hnone.2⟩⟩
  | stop => exact ⟨h.1, h.2.imp (fun hclosed => ⟨rfl, hclosed.2⟩) fun hnone => hnone⟩
  | join completion rest failure stopping closed perm running closes =>
    exact ⟨h.1, h.2.imp (fun hclosed => ⟨closes hclosed.1, hclosed.2⟩) fun hnone => hnone⟩
  | recv job rest queue =>
    rw [h.1] at queue
    exact absurd queue (by simp)
  | recvNone => exact h
  | finish => exact ⟨h.1, h.2.imp (fun hclosed => ⟨rfl, hclosed.2⟩) fun hnone => hnone⟩

theorem head?_append_or {α : Type} (l l' : List α) : (l ++ l').head? = l.head?.or l'.head? := by
  cases l <;> simp

theorem SupervisorOk.moves (h : SupervisorOk limits log s)
    (hm : s.Moves limits unicode events s') : SupervisorOk limits (log ++ events) s' := by
  -- A worker that changes its state leaves the others alone.
  have hwork : ∀ {w w' : ProfileWorker} {rest : List ProfileWorker},
      s.workers.Perm (w :: rest) → (w' :: rest).length ≤ limits.inFlightJobs ∧
        s.result.isSome = false := by
    intro w w' rest perm
    refine ⟨perm.length_eq ▸ h.workers, ?_⟩
    by_contra hresult
    have hempty := (h.result (Bool.not_eq_false _ ▸ hresult)).2
    rw [hempty] at perm
    exact absurd perm.length_eq (by simp)
  have hinput : s.inputDone = true → s'.Ended := fun hdone => (h.input hdone).moves hm
  have hfailure : s'.firstFailure = ((log ++ events).filterMap (·.failure)).head? := by
    rw [List.filterMap_append, head?_append_or, ← h.failure]
    cases hm with
    | join completion rest failure => cases failure <;> rfl
    | cancel request => cases request.stage.permit <;> exact (Option.or_none).symm
    | _ => exact (Option.or_none).symm
  have hreturned : ∀ result, .returned result ∈ log ++ events →
      (.returned result ∈ events ∨ s.result.isSome = true) := by
    intro result hmem
    rcases List.mem_append.mp hmem with hmem | hmem
    · exact .inr (h.returned result hmem)
    · exact .inl hmem
  cases hm with
  | invalid | admission | shut | reserve | exhaust | acquire | lock | submit | drop | dropHandles =>
    refine ⟨h.workers, hinput, h.result, fun result hmem => ?_, hfailure⟩
    exact (hreturned result hmem).resolve_left (by simp)
  | cancel request =>
    refine ⟨h.workers, hinput, h.result, fun result hmem => ?_, hfailure⟩
    exact (hreturned result hmem).resolve_left (by cases request.stage.permit <;> simp)
  | stop running =>
    refine ⟨h.workers, hinput, h.result, fun result hmem => ?_, hfailure⟩
    exact (hreturned result hmem).resolve_left (by simp)
  | panic job rest message perm =>
    obtain ⟨hlength, hresult⟩ := hwork perm
    refine ⟨hlength, hinput, fun hsome => ?_, fun result hmem => ?_, hfailure⟩
    · exact absurd (hresult.symm.trans hsome) (by simp)
    · exact (hreturned result hmem).resolve_left (by simp)
  | work job rest perm =>
    obtain ⟨hlength, hresult⟩ := hwork perm
    refine ⟨hlength, hinput, fun hsome => ?_, fun result hmem => ?_, hfailure⟩
    · exact absurd (hresult.symm.trans hsome) (by simp)
    · exact (hreturned result hmem).resolve_left (by simp)
  | join completion rest failure stopping closed perm running =>
    refine ⟨?_, hinput, fun hsome => ?_, fun result hmem => ?_, hfailure⟩
    · have hlength := perm.length_eq ▸ h.workers
      exact (Nat.le_succ _).trans hlength
    · exact absurd hsome (by simp [running])
    · exact (hreturned result hmem).resolve_left (by simp)
  | recv job rest queue running input room =>
    refine ⟨room, hinput, fun hsome => ?_, fun result hmem => ?_, hfailure⟩
    · exact absurd hsome (by simp [running])
    · exact (hreturned result hmem).resolve_left (by simp)
  | recvNone queue running last =>
    refine ⟨h.workers, fun _ => ⟨queue, last⟩, fun hsome => ?_, fun result hmem => ?_, hfailure⟩
    · exact absurd hsome (by simp [running])
    · exact (hreturned result hmem).resolve_left (by simp)
  | finish running input workers result verdict =>
    exact ⟨h.workers, hinput, fun _ => ⟨input, workers⟩, fun _ _ => rfl, hfailure⟩

/-! ## Whole runs -/

/-- Every key is the canonical key of its nickname. -/
structure Canonical (unicode : Unicode) (s : ProfileIo) : Prop where
  requests : ∀ request ∈ s.requests,
    request.subject.key = canonicalNicknameKey unicode request.subject.nickname
  permits : ∀ permit ∈ s.permits,
    permit.subject.key = canonicalNicknameKey unicode permit.subject.nickname

theorem Canonical.moves (h : s.Canonical unicode) (hm : s.Moves limits unicode events s') :
    s'.Canonical unicode := by
  have hsub := hm.permits_subperm
  have hperm := fun permit => hm.permits_perm permit
  have hold : ∀ {rest : List ProfileRequest} {request : ProfileRequest},
      s.requests.Perm (request :: rest) → ∀ other ∈ request :: rest,
        other.subject.key = canonicalNicknameKey unicode other.subject.nickname :=
    fun perm other hother => h.requests other (perm.mem_iff.mpr hother)
  -- A call that moves on keeps its subject.
  have hstage : ∀ {rest : List ProfileRequest} {request : ProfileRequest} {stage : AdmitStage},
      s.requests.Perm (request :: rest) → ∀ other ∈ { request with stage := stage } :: rest,
        other.subject.key = canonicalNicknameKey unicode other.subject.nickname := by
    intro rest request stage perm other hother
    rcases List.mem_cons.mp hother with rfl | hother
    · exact hold perm request List.mem_cons_self
    · exact hold perm other (List.mem_cons_of_mem _ hother)
  cases hm with
  | invalid | drop | dropHandles | stop | panic | work | join | recv | recvNone | finish =>
    exact ⟨h.requests, fun p hp => h.permits p ((hsub rfl).subset hp)⟩
  | admission request stage canonical =>
    refine ⟨fun other hother => ?_, fun p hp => h.permits p ((hsub rfl).subset hp)⟩
    rcases List.mem_cons.mp hother with rfl | hother
    · exact canonical
    · exact h.requests other hother
  | shut request rest perm | exhaust request rest _ perm | submit request rest _ _ perm =>
    exact ⟨fun other hother => hold perm other (List.mem_cons_of_mem _ hother),
      fun p hp => h.permits p ((hsub rfl).subset hp)⟩
  | reserve request rest perm | acquire request rest _ _ perm =>
    exact ⟨hstage perm, fun p hp => h.permits p ((hsub rfl).subset hp)⟩
  | lock request rest lane perm stage =>
    refine ⟨hstage perm, fun p hp => ?_⟩
    rcases List.mem_cons.mp ((hperm _ rfl rfl).mem_iff.mp hp) with rfl | hp
    · exact hold perm request List.mem_cons_self
    · exact h.permits p hp
  | cancel request rest perm =>
    exact ⟨fun other hother => hold perm other (List.mem_cons_of_mem _ hother),
      fun p hp => h.permits p ((hsub (filterMap_dropped request.stage).1).subset hp)⟩

/-- The permits of a log: each is made once, and is held until it is dropped. -/
structure PermitOk (log : List ProfileIoEvent) (s : ProfileIo) : Prop where
  balance : ∀ permit, (log.filterMap (·.grant)).count permit =
    s.permits.count permit + (log.filterMap (·.loss)).count permit
  distinct : (log.filterMap (·.grant)).Nodup
  serials : ∀ permit ∈ log.filterMap (·.grant), permit.serial < s.nextSerial

theorem permitOk_spawn : PermitOk [] spawn :=
  ⟨fun _ => rfl, .nil, fun _ hmem => absurd hmem List.not_mem_nil⟩

/-- A step makes one permit at most, with the next serial number. -/
theorem Moves.grants (h : s.Moves limits unicode events s') :
    (events.filterMap (·.grant) = [] ∧ s'.nextSerial = s.nextSerial) ∨
      ∃ permit, events.filterMap (·.grant) = [permit] ∧ permit.serial = s.nextSerial ∧
        s'.nextSerial = s.nextSerial + 1 := by
  cases h with
  | cancel request => exact .inl ⟨(filterMap_dropped request.stage).1, rfl⟩
  | lock => exact .inr ⟨_, rfl, rfl, rfl⟩
  | _ => exact .inl ⟨rfl, rfl⟩

theorem PermitOk.moves (h : PermitOk log s) (hm : s.Moves limits unicode events s') :
    PermitOk (log ++ events) s' := by
  refine ⟨fun permit => ?_, ?_, ?_⟩
  · have hlog := h.balance permit
    have hevents := hm.balance permit
    rw [List.filterMap_append, List.filterMap_append, List.count_append, List.count_append]
    omega
  · rw [List.filterMap_append]
    rcases hm.grants with ⟨he, -⟩ | ⟨permit, he, hserial, -⟩
    · rw [he, List.append_nil]
      exact h.distinct
    · rw [he]
      refine List.nodup_append.mpr ⟨h.distinct, List.nodup_singleton _, ?_⟩
      intro other hother new hnew heq
      rw [List.mem_singleton.mp hnew] at heq
      have hlt := h.serials other hother
      rw [heq] at hlt
      omega
  · rw [List.filterMap_append]
    intro other hother
    rcases hm.grants with ⟨he, hn⟩ | ⟨permit, he, hserial, hn⟩
    · rw [he, List.append_nil] at hother
      rw [hn]
      exact h.serials other hother
    · rw [he] at hother
      rw [hn]
      rcases List.mem_append.mp hother with hother | hother
      · exact Nat.lt_succ_of_lt (h.serials other hother)
      · rw [List.mem_singleton.mp hother, hserial]
        exact Nat.lt_succ_self _

/-- What was made is held, or it was dropped. -/
theorem PermitOk.held_or_dropped (h : PermitOk log s) {permit : ProfileLanePermit}
    (hp : .granted permit ∈ log) : permit ∈ s.permits ∨ .dropped permit ∈ log := by
  have hbalance := h.balance permit
  have hone := List.count_eq_one_of_mem h.distinct
    (List.mem_filterMap.mpr ⟨_, hp, rfl⟩ : permit ∈ log.filterMap (·.grant))
  by_cases hheld : permit ∈ s.permits
  · exact .inl hheld
  · rw [hone, List.count_eq_zero_of_not_mem hheld, Nat.zero_add] at hbalance
    have hmem : permit ∈ log.filterMap (·.loss) :=
      List.count_pos_iff.mp (by rw [← hbalance]; exact Nat.one_pos)
    obtain ⟨event, hevent, he⟩ := List.mem_filterMap.mp hmem
    cases event with
    | dropped other =>
      cases he
      exact .inr hevent
    | _ => exact absurd he (by simp [ProfileIoEvent.loss])

/-- What was dropped is held no more. -/
theorem PermitOk.gone (h : PermitOk log s) {permit : ProfileLanePermit}
    (hp : .dropped permit ∈ log) : permit ∉ s.permits := by
  intro hheld
  have hbalance := h.balance permit
  have hmost := List.nodup_iff_count_le_one.mp h.distinct permit
  have hdropped : 0 < (log.filterMap (·.loss)).count permit :=
    List.count_pos_iff.mpr (List.mem_filterMap.mpr ⟨_, hp, rfl⟩)
  have hcount := List.count_pos_iff.mpr hheld
  omega

/-- A key is in use: its lane has a guard, or somebody waits for it. -/
def InUse (s : ProfileIo) (key : Text) : Prop := ∃ lane, (key, lane) ∈ s.holders

/-- What every run guarantees, with its log and the state it leads to. -/
structure Contract (limits : ProfileIoLimits) (unicode : Unicode) (log : List ProfileIoEvent)
    (s : ProfileIo) : Prop where
  /-- A canonical nickname key has one permit. -/
  exclusive : (s.permits.map (·.subject.key)).Nodup
  canonical : ∀ permit ∈ s.permits,
    permit.subject.key = canonicalNicknameKey unicode permit.subject.nickname
  /-- A job starts once every earlier permit of its profile was dropped, and so is gone. -/
  sequential : ∀ before after id permit, log = before ++ .started id permit :: after →
    ∀ earlier, .granted earlier ∈ before → earlier.subject.key = permit.subject.key →
      earlier = permit ∨ .dropped earlier ∈ before
  gone : ∀ permit, .dropped permit ∈ log → permit ∉ s.permits
  /-- A lane is refused only while as many other keys as there may be are in use. -/
  exhausted : ∀ a events s' nickname maximum, s.step limits unicode a = some (events, s') →
    .refused nickname (.laneCapacityExhausted maximum) ∈ events → maximum = limits.lanes ∧
      ∃ keys : List Text, keys.Nodup ∧ keys.length = maximum ∧
        canonicalNicknameKey unicode nickname ∉ keys ∧ ∀ key ∈ keys, s.InUse key
  bounded : s.workers.countP (·.isRunning) ≤ limits.inFlightJobs
  once : ∀ id, (log.filterMap (·.start)).count id ≤ 1 ∧
    (log.filterMap (·.work)).count id ≤ 1 ∧ (log.filterMap (·.completion)).count id ≤ 1
  /-- The runtime returns after every submitted job has been run and completed, with the first
  failure if there was one. -/
  complete : ∀ before after result, log = before ++ .returned result :: after →
    (∀ id, .submitted id ∈ log → (before.filterMap (·.start)).count id = 1 ∧
      (before.filterMap (·.work)).count id = 1 ∧ (before.filterMap (·.completion)).count id = 1) ∧
    result = (before.filterMap (·.failure)).head?.elim (.ok ()) .error

/-- An event of a longer log is an earlier one or a new one. -/
theorem split_append {before after : List ProfileIoEvent} {event : ProfileIoEvent}
    (h : log ++ events = before ++ event :: after) :
    (∃ rest, log = before ++ event :: rest) ∨
      ∃ early, before = log ++ early ∧ events = early ++ event :: after := by
  rcases List.append_eq_append_iff.mp h with ⟨early, hbefore, hevents⟩ | ⟨late, hlog, hafter⟩
  · exact .inr ⟨early, hbefore, hevents⟩
  · cases late with
    | nil => exact .inr ⟨[], by rw [List.append_nil] at hlog ⊢; exact hlog.symm, hafter.symm⟩
    | cons first rest =>
      obtain ⟨rfl, -⟩ := List.cons.inj hafter
      exact .inl ⟨rest, hlog⟩

/-- A job is started alone, from the queue. -/
theorem Moves.started (h : s.Moves limits unicode events s') {early after : List ProfileIoEvent}
    {id : Nat} {permit : ProfileLanePermit}
    (he : events = early ++ .started id permit :: after) : early = [] ∧ permit ∈ s.permits := by
  have hmem : ProfileIoEvent.started id permit ∈ events := by rw [he]; simp
  cases h with
  | recv job rest queue =>
    have hsingle := List.append_eq_singleton_iff.mp he.symm
    rcases hsingle with ⟨hearly, hstart⟩ | ⟨-, hnil⟩
    · obtain ⟨hstart, -⟩ := List.cons.inj hstart
      cases hstart
      refine ⟨hearly, ?_⟩
      unfold permits
      rw [queue]
      simp
    · exact absurd hnil (by simp)
  | cancel request =>
    obtain ⟨p, -, hp⟩ := List.mem_map.mp hmem
    exact absurd hp (by simp)
  | _ => exact absurd hmem (by simp)

theorem Moves.returned (h : s.Moves limits unicode events s') {early after : List ProfileIoEvent}
    {result : Except ProfileIoRuntimeError Unit}
    (he : events = early ++ .returned result :: after) : early = [] ∧ after = [] ∧
      s.inputDone = true ∧ s.workers = [] ∧ result = s.firstFailure.elim (.ok ()) .error := by
  have hmem : ProfileIoEvent.returned result ∈ events := by rw [he]; simp
  cases h with
  | finish running input workers result' verdict =>
    rcases List.append_eq_singleton_iff.mp he.symm with ⟨hearly, hreturn⟩ | ⟨-, hnil⟩
    · obtain ⟨hreturn, hafter⟩ := List.cons.inj hreturn
      cases hreturn
      exact ⟨hearly, hafter, input, workers, verdict⟩
    · exact absurd hnil (by simp)
  | cancel request =>
    obtain ⟨p, -, hp⟩ := List.mem_map.mp hmem
    exact absurd hp (by simp)
  | _ => exact absurd hmem (by simp)

/-- Nothing is submitted at the end of the channel. -/
theorem Ended.no_submission (h : s.Ended) (hm : s.Moves limits unicode events s') :
    events.filterMap (·.submission) = [] := by
  cases hm with
  | cancel request => exact (silent_dropped request.stage).1
  | submit request rest permit operation perm stage =>
    exact absurd (h.no_slot perm) (by simp [stage, AdmitStage.slot])
  | _ => rfl

/-- A refused lane in a step. -/
theorem LaneOk.exhausted (h : LaneOk limits s) (hc : s.Canonical unicode)
    (hm : s.Moves limits unicode events s') {nickname : Text} {maximum : Nat}
    (he : .refused nickname (.laneCapacityExhausted maximum) ∈ events) :
    maximum = limits.lanes ∧ ∃ keys : List Text, keys.Nodup ∧ keys.length = maximum ∧
      canonicalNicknameKey unicode nickname ∉ keys ∧ ∀ key ∈ keys, s.InUse key := by
  cases hm with
  | exhaust request rest e perm stage table =>
    obtain ⟨rfl, keys, hn, hlength, hkey, hused⟩ := acquireLane_exhausted h.sound h.bounded table
    rw [List.mem_singleton] at he
    cases he
    rw [hc.requests request (perm.mem_iff.mpr List.mem_cons_self)] at hkey
    exact ⟨rfl, keys, hn, hlength, hkey, hused⟩
  | cancel request =>
    obtain ⟨p, -, hp⟩ := List.mem_map.mp he
    exact absurd hp (by simp)
  | _ => exact absurd he (by simp)

/-- All that holds along a run. -/
structure RunOk (limits : ProfileIoLimits) (unicode : Unicode) (log : List ProfileIoEvent)
    (s : ProfileIo) : Prop where
  lanes : LaneOk limits s
  canonical : s.Canonical unicode
  permits : PermitOk log s
  jobs : JobOk log s
  supervisor : SupervisorOk limits log s
  sequential : ∀ before after id permit, log = before ++ .started id permit :: after →
    ∀ earlier, .granted earlier ∈ before → earlier.subject.key = permit.subject.key →
      earlier = permit ∨ .dropped earlier ∈ before
  complete : ∀ before after result, log = before ++ .returned result :: after →
    (∀ id, .submitted id ∈ log → (before.filterMap (·.start)).count id = 1 ∧
      (before.filterMap (·.work)).count id = 1 ∧ (before.filterMap (·.completion)).count id = 1) ∧
    result = (before.filterMap (·.failure)).head?.elim (.ok ()) .error

theorem RunOk.moves (h : RunOk limits unicode log s) (hm : s.Moves limits unicode events s') :
    RunOk limits unicode (log ++ events) s' := by
  refine ⟨h.lanes.step hm.lanes, h.canonical.moves hm, h.permits.moves hm, h.jobs.moves hm,
    h.supervisor.moves hm, ?_, ?_⟩
  · intro before after id permit hsplit earlier hearlier hkey
    rcases split_append hsplit with ⟨rest, hlog⟩ | ⟨early, hbefore, hevents⟩
    · exact h.sequential before rest id permit hlog earlier hearlier hkey
    · -- The job starts now: its permit is held, so no other one of its profile is.
      obtain ⟨rfl, hheld⟩ := hm.started hevents
      rw [List.append_nil] at hbefore
      rw [hbefore] at hearlier ⊢
      rcases h.permits.held_or_dropped hearlier with hother | hdropped
      · exact .inl (List.inj_on_of_nodup_map h.lanes.keys hother hheld hkey)
      · exact .inr hdropped
  · intro before after result hsplit
    rcases split_append hsplit with ⟨rest, hlog⟩ | ⟨early, hbefore, hevents⟩
    · obtain ⟨hjobs, hresult⟩ := h.complete before rest result hlog
      refine ⟨fun id hid => hjobs id ?_, hresult⟩
      have hreturned := h.supervisor.returned result (by rw [hlog]; simp)
      have hended := h.supervisor.input (h.supervisor.result hreturned).1
      refine (List.mem_append.mp hid).resolve_right fun hnew => ?_
      have hmem : id ∈ events.filterMap (·.submission) := List.mem_filterMap.mpr ⟨_, hnew, rfl⟩
      rw [hended.no_submission hm] at hmem
      exact absurd hmem List.not_mem_nil
    · obtain ⟨rfl, rfl, hinput, hworkers, hresult⟩ := hm.returned hevents
      rw [List.append_nil] at hbefore
      rw [hbefore, ← h.supervisor.failure]
      refine ⟨fun id hid => h.jobs.complete (h.supervisor.input hinput).1 hworkers ?_, hresult⟩
      rw [hevents] at hid
      exact (List.mem_append.mp hid).resolve_right (by simp)

theorem runOk_of_history (h : (machine limits unicode).History tr s) :
    RunOk limits unicode (logOf tr) s := by
  refine h.invariant (P := fun tr s => RunOk limits unicode (logOf tr) s) ?_ ?_
  · exact ⟨laneOk_spawn, ⟨fun _ hmem => absurd hmem List.not_mem_nil,
      fun _ hmem => absurd hmem List.not_mem_nil⟩, permitOk_spawn, jobOk_spawn,
      supervisorOk_spawn, fun _ _ _ _ hsplit => absurd hsplit (by simp [logOf]),
      fun _ _ _ hsplit => absurd hsplit (by simp [logOf])⟩
  · intro tr s s' a events _ ih hs
    rw [logOf_cons]
    exact ih.moves (moves_of_step hs)

/-- **The profile I/O runtime keeps its contract** along every run. -/
theorem profile_io (h : (machine limits unicode).History tr s) :
    Contract limits unicode (logOf tr) s := by
  have hrun := runOk_of_history h
  exact {
    exclusive := hrun.lanes.keys
    canonical := hrun.canonical.permits
    sequential := hrun.sequential
    gone := fun _ => hrun.permits.gone
    exhausted := fun a events s' nickname maximum hs he =>
      hrun.lanes.exhausted hrun.canonical (moves_of_step hs) he
    bounded := List.countP_le_length.trans hrun.supervisor.workers
    once := hrun.jobs.once
    complete := hrun.complete }

/-! ## A run -/

theorem sampleLimits_pos : 0 < 1 := by decide

def sampleLimits : ProfileIoLimits := ⟨1, 2, 1, sampleLimits_pos, Nat.two_pos, sampleLimits_pos⟩

/-- Two jobs on one profile: the first panics, the second waits for its lane and is still run. -/
def sampleActions : List ProfileIoAction :=
  [.admission ['a'] ['x'], .reserve 0, .acquire 0, .lock 0, .submit 0 ['x'],
    .admission ['a'] ['y'], .reserve 0, .acquire 0, .recv, .work 0 (some ['!']), .lock 0,
    .submit 0 ['y'], .join 0 false, .recv, .work 0 none, .join 0 true, .drop 0, .recv, .finish]

abbrev sampleMachine := machine sampleLimits ⟨fun name => name, fun name => name⟩

theorem sampleActions_run :
    (sampleMachine.exec sampleMachine.init [] sampleActions).isSome = true := by
  decide +kernel

def sampleRun : List (ProfileIoAction × List ProfileIoEvent) × ProfileIo :=
  (sampleMachine.exec sampleMachine.init [] sampleActions).get sampleActions_run

theorem sampleRun_history : sampleMachine.History sampleRun.1 sampleRun.2 :=
  Machine.history_of_exec sampleActions .init (Option.some_get sampleActions_run).symm

/-- The run returns the panic of the first job, and keeps the contract. -/
theorem sampleRun_contract :
    sampleRun.2.result = some (.error (.workerPanicked ['x'] ['!'])) ∧
      Contract sampleLimits ⟨fun name => name, fun name => name⟩ (logOf sampleRun.1)
        sampleRun.2 :=
  ⟨rfl, profile_io sampleRun_history⟩

end ProfileIo

end P4475.Profile
