import P4475.Lib.Outcome
import P4475.RaceObject.Lifecycle

/-!
# Replays of an operation

An operation that was published and committed is recognised when it comes again. What the
registry recognises it by depends on its meaning (`Answers`): the phase, or the phase with some
of the fields the operation brought. Flag updates are recorded beside the last transition, so
they leave all of that alone, and operations without lifecycle meaning are never recorded.
-/

namespace P4475.RaceObject

open Lib

/-- The meanings whose replays are recognised. -/
def ItemLifecycleMeaning.Repeatable (meaning : ItemLifecycleMeaning) : Prop :=
  meaning = .initializeObject ∨ meaning = .place ∨ meaning = .launch ∨ meaning = .activate ∨
    meaning = .impact ∨ meaning = .remove ∨ meaning = .respawn

/-- The meanings that leave the last transition of an object alone. -/
def ItemLifecycleMeaning.Incidental (meaning : ItemLifecycleMeaning) : Prop :=
  meaning = .unknown ∨ meaning = .noClientAction ∨ meaning = .updateRuntimeFlag

/-- The record is of the object the operation is about. -/
structure RaceObjectRecord.Concerns (record : RaceObjectRecord)
    (operation : RaceObjectOperation) : Prop where
  class' : record.class' = operation.class'
  owner : ∀ owner, operation.ownerClaim = some owner → owner = record.owner

/-- The transition the record stands at is the one the operation asks for. -/
def RaceObjectRecord.Stands (record : RaceObjectRecord) (operation : RaceObjectOperation) : Prop :=
  match operation.meaning with
  | .initializeObject => True
  | .place | .launch | .activate =>
    ¬ (record.phase = .initialized ∧ record.lastMeaning = .initializeObject)
  | .impact =>
    record.phase = .hit ∧ record.lastState = operation.state ∧
      record.lastTransitionToken = operation.transitionToken ∧
      record.lastTargetObjectId = operation.targetObjectId
  | .remove => record.phase = .removed
  | .respawn =>
    record.phase = .active ∧ record.lastMeaning = .respawn ∧
      record.lastState = operation.state ∧
      record.lastTransitionToken = operation.transitionToken ∧
      record.lastSourceObjectId = operation.sourceObjectId ∧
      record.lastTargetObjectId = operation.targetObjectId
  | _ => False

/-- The record answers a replay of the operation. -/
structure RaceObjectRecord.Answers (record : RaceObjectRecord)
    (operation : RaceObjectOperation) : Prop where
  concerns : record.Concerns operation
  stands : record.Stands operation

namespace RaceObjectRegistry

variable {self self' : RaceObjectRegistry} {key : RaceObjectKey}
  {current : Option RaceObjectRecord} {record : RaceObjectRecord}
  {operation : RaceObjectOperation} {m : RaceObjectMutation}

/-! ## What is recorded -/

theorem validateExisting_concerns (h : validateExisting key record operation = .ok ()) :
    record.Concerns operation := by
  unfold validateExisting at h
  split at h
  next => exact absurd h (by simp)
  next hclass =>
    refine ⟨not_not.mp hclass, fun owner howner => ?_⟩
    rw [howner] at h
    dsimp only at h
    split at h
    next => exact absurd h (by simp)
    next hsame => exact not_not.mp hsame

theorem validateExisting_of_concerns (h : record.Concerns operation) :
    validateExisting key record operation = .ok () := by
  unfold validateExisting
  rw [if_neg (not_not.mpr h.class')]
  cases howner : operation.ownerClaim with
  | none => rfl
  | some owner => exact if_neg (not_not.mpr (h.owner owner howner))

/-- What `next_record` makes of the current record, or of none. -/
theorem nextRecord_eq {phase : RaceObjectPhase} {next : RaceObjectRecord}
    (h : self.nextRecord key current operation phase = .ok next) :
    next = current.elim (operation.install phase)
      fun record => { record.transition operation with phase := phase } := by
  unfold nextRecord at h
  cases current with
  | some record => exact (Except.ok.inj h).symm
  | none =>
    obtain ⟨u, _, hnext⟩ := bind_eq_ok h
    exact (Except.ok.inj hnext).symm

theorem install_concerns {phase : RaceObjectPhase} :
    (operation.install phase).Concerns operation := by
  refine ⟨rfl, fun owner howner => ?_⟩
  show owner = operation.ownerClaim.getD operation.reporter
  rw [howner]
  rfl

theorem transition_concerns {phase : RaceObjectPhase} (h : record.Concerns operation) :
    ({ record.transition operation with phase := phase } : RaceObjectRecord).Concerns operation :=
  ⟨h.class', h.owner⟩

/-- A recorded transition is of the operation's object, in the phase asked for, with the
fields the operation brings. -/
structure Recorded (operation : RaceObjectOperation) (phase : RaceObjectPhase)
    (next : RaceObjectRecord) : Prop where
  concerns : next.Concerns operation
  phase : next.phase = phase
  meaning : next.lastMeaning = operation.meaning
  state : next.lastState = operation.state
  token : next.lastTransitionToken = operation.transitionToken
  source : next.lastSourceObjectId = operation.sourceObjectId
  target : next.lastTargetObjectId = operation.targetObjectId

theorem install_recorded {phase : RaceObjectPhase} :
    Recorded operation phase (operation.install phase) :=
  ⟨install_concerns, rfl, rfl, rfl, rfl, rfl, rfl⟩

theorem nextRecord_recorded {phase : RaceObjectPhase}
    {events : Option RaceObjectLifecycleEvent × Option RaceObjectLifecycleEvent}
    (hcurrent : ∀ record, current = some record → record.Concerns operation)
    (h : (do
      let next ← self.nextRecord key current operation phase
      return self.tracked key next events) = .ok (.publishTracked m)) :
    Recorded operation phase m.next := by
  obtain ⟨next, hnext, htracked⟩ := bind_eq_ok h
  have hm : m.next = next := by rw [tracked_inj (Except.ok.inj htracked)]
  rw [hm, nextRecord_eq hnext]
  cases current with
  | none => exact install_recorded
  | some record =>
    exact ⟨transition_concerns (hcurrent record rfl), rfl, rfl, rfl, rfl, rfl, rfl⟩

theorem planInstall_recorded
    (hcurrent : ∀ record, current = some record → record.Concerns operation)
    (h : self.planInstall key current operation = .ok (.publishTracked m)) :
    (operation.meaning = .initializeObject ∧ Recorded operation .initialized m.next) ∨
      Recorded operation .active m.next := by
  unfold planInstall at h
  cases current with
  | some record =>
    dsimp only at h
    split at h
    next => exact .inr (nextRecord_recorded hcurrent h)
    next => exact absurd (Except.ok.inj h) suppressDuplicate_ne
  | none =>
    obtain ⟨u, _, h⟩ := bind_eq_ok h
    by_cases hinit : operation.meaning = .initializeObject
    · rw [if_pos hinit] at h
      have hm : m.next = operation.install .initialized := by rw [tracked_inj (Except.ok.inj h)]
      rw [hm]
      exact .inl ⟨hinit, install_recorded⟩
    · rw [if_neg hinit] at h
      have hm : m.next = operation.install .active := by rw [tracked_inj (Except.ok.inj h)]
      rw [hm]
      exact .inr install_recorded

theorem planHit_recorded
    (hcurrent : ∀ record, current = some record → record.Concerns operation)
    (h : self.planHit key current operation = .ok (.publishTracked m)) :
    Recorded operation .hit m.next := by
  unfold planHit at h
  dsimp only at h
  split at h
  next => exact absurd (Except.ok.inj h) suppressDuplicate_ne
  next => exact nextRecord_recorded hcurrent h

theorem planRemoval_recorded
    (hcurrent : ∀ record, current = some record → record.Concerns operation)
    (h : self.planRemoval key current operation = .ok (.publishTracked m)) :
    Recorded operation .removed m.next := by
  unfold planRemoval at h
  split at h
  next => exact absurd (Except.ok.inj h) suppressDuplicate_ne
  next =>
    split at h
    next => exact absurd (Except.ok.inj h) (by simp)
    next => exact nextRecord_recorded hcurrent h

theorem planRespawn_recorded
    (hcurrent : ∀ record, current = some record → record.Concerns operation)
    (h : self.planRespawn key current operation = .ok (.publishTracked m)) :
    Recorded operation .active m.next := by
  unfold planRespawn at h
  cases current with
  | none => exact absurd (Except.ok.inj h) (by simp)
  | some record =>
    dsimp only at h
    split at h
    next => exact absurd (Except.ok.inj h) suppressDuplicate_ne
    next => exact nextRecord_recorded hcurrent h

/-- The dispatch on the meaning, as far as the meanings with a fingerprint go. -/
theorem planMeaning_answers (hmeaning : operation.meaning.Repeatable)
    (hcurrent : ∀ record, current = some record → record.Concerns operation)
    (h : self.planMeaning key current operation = .ok (.publishTracked m)) :
    m.next.Answers operation := by
  unfold planMeaning at h
  unfold ItemLifecycleMeaning.Repeatable at hmeaning
  rcases hmeaning with hm | hm | hm | hm | hm | hm | hm
  · rw [hm] at h
    have hrecorded : m.next.Concerns operation := by
      rcases planInstall_recorded hcurrent h with ⟨_, hr⟩ | hr
      · exact hr.concerns
      · exact hr.concerns
    refine ⟨hrecorded, ?_⟩
    unfold RaceObjectRecord.Stands
    rw [hm]
    exact trivial
  all_goals rw [hm] at h
  iterate 3
    rcases planInstall_recorded hcurrent h with ⟨hinit, _⟩ | hr
    · rw [hm] at hinit
      exact absurd hinit (by simp)
    · refine ⟨hr.concerns, ?_⟩
      unfold RaceObjectRecord.Stands
      rw [hm]
      intro hstale
      rw [hr.phase] at hstale
      exact absurd hstale.1 (by simp)
  · have hr := planHit_recorded hcurrent h
    refine ⟨hr.concerns, ?_⟩
    unfold RaceObjectRecord.Stands
    rw [hm]
    exact ⟨hr.phase, hr.state, hr.token, hr.target⟩
  · have hr := planRemoval_recorded hcurrent h
    refine ⟨hr.concerns, ?_⟩
    unfold RaceObjectRecord.Stands
    rw [hm]
    exact hr.phase
  · have hr := planRespawn_recorded hcurrent h
    refine ⟨hr.concerns, ?_⟩
    unfold RaceObjectRecord.Stands
    rw [hm]
    exact ⟨hr.phase, hr.meaning.trans hm, hr.state, hr.token, hr.source, hr.target⟩

theorem repeatable_known (h : operation.meaning.Repeatable) :
    ¬ (operation.meaning = .unknown ∨ operation.meaning = .noClientAction) := by
  intro hquiet
  unfold ItemLifecycleMeaning.Repeatable at h
  rcases hquiet with hm | hm
  all_goals
    rw [hm] at h
    simp at h

/-- A plan reaches the dispatch on the meaning only for an object the operation is about. -/
theorem plan_dispatched (h : self.plan operation = .ok (.publishTracked m)) :
    (∀ record, self.objects.lookup operation.key = some record → record.Concerns operation) ∧
    self.planMeaning operation.key (self.objects.lookup operation.key) operation =
      .ok (.publishTracked m) := by
  have hknown : ¬ (operation.meaning = .unknown ∨ operation.meaning = .noClientAction) :=
    fun hquiet => hquiet.elim (plan_tracked h).2.1 (plan_tracked h).2.2.1
  unfold plan at h
  dsimp only at h
  rw [if_neg hknown] at h
  cases hcurrent : self.objects.lookup operation.key with
  | none =>
    rw [hcurrent] at h
    exact ⟨fun record hr => absurd hr (by simp), h⟩
  | some record =>
    rw [hcurrent] at h
    obtain ⟨u, hvalid, h⟩ := bind_eq_ok h
    refine ⟨fun record' hr => ?_, ?_⟩
    · rw [← Option.some.inj hr]
      exact validateExisting_concerns hvalid
    · split at h
      next => exact absurd (Except.ok.inj h) suppressDuplicate_ne
      next => exact h

/-- A mutation the plan publishes is recorded so that the record answers a replay. -/
theorem plan_answers (hmeaning : operation.meaning.Repeatable)
    (h : self.plan operation = .ok (.publishTracked m)) : m.next.Answers operation := by
  obtain ⟨hconcerns, hdispatched⟩ := plan_dispatched h
  exact planMeaning_answers hmeaning hconcerns hdispatched

/-! ## What is recognised -/

/-- The dispatch on the meaning suppresses what the record answers. -/
theorem planMeaning_suppressed (hmeaning : operation.meaning.Repeatable)
    (h : record.Answers operation) :
    ∃ kind, self.planMeaning key (some record) operation =
      .ok (suppressDuplicate record operation kind) := by
  have hstands := h.stands
  unfold RaceObjectRecord.Stands at hstands
  unfold planMeaning
  unfold ItemLifecycleMeaning.Repeatable at hmeaning
  rcases hmeaning with hm | hm | hm | hm | hm | hm | hm
  all_goals
    rw [hm] at hstands ⊢
    dsimp only at hstands ⊢
  · -- an initialization is recognised by the key alone
    refine ⟨.install, if_neg ?_⟩
    rw [hm]
    simp
  iterate 3
    exact ⟨.install, if_neg fun hfresh => hstands ⟨hfresh.1, hfresh.2.1⟩⟩
  · refine ⟨.hit, ?_⟩
    unfold planHit
    dsimp only
    rw [Option.filter_some, if_pos (by simpa using .inr hstands)]
  · refine ⟨.removal, ?_⟩
    unfold planRemoval
    rw [Option.filter_some, if_pos (by simpa using hstands)]
  · exact ⟨.activation, if_pos hstands⟩

theorem plan_suppressed (hmeaning : operation.meaning.Repeatable)
    (hrecord : self.objects.lookup operation.key = some record) (h : record.Answers operation) :
    ∃ kind, self.plan operation = .ok (suppressDuplicate record operation kind) := by
  unfold plan
  dsimp only
  rw [if_neg (repeatable_known hmeaning), hrecord]
  simp only [validateExisting_of_concerns h.concerns]
  by_cases hdead : record.phase = .removed ∧
      ¬ (operation.meaning = .remove ∨ operation.meaning = .respawn)
  · -- a removed object swallows everything but a removal and a respawn
    rw [Option.filter_some, if_pos (by simpa using hdead)]
    exact ⟨.terminalState, rfl⟩
  · rw [Option.filter_some, if_neg (by simpa using hdead)]
    exact planMeaning_suppressed hmeaning h

/-! ## What comes in between -/

/-- The registry has planned an operation and committed what the plan asks for, if anything. -/
def Handles (self : RaceObjectRegistry) (operation : RaceObjectOperation)
    (self' : RaceObjectRegistry) : Prop :=
  (∃ m, self.plan operation = .ok (.publishTracked m) ∧ self.commit m = .ok self') ∨
    ((∀ m, self.plan operation ≠ .ok (.publishTracked m)) ∧ self' = self)

/-- Operations of one kind, handled one after the other. -/
inductive HandledRun (C : RaceObjectOperation → Prop) (self : RaceObjectRegistry) :
    RaceObjectRegistry → Prop
  | refl : HandledRun C self self
  | step {between self' : RaceObjectRegistry} {operation : RaceObjectOperation} :
      HandledRun C self between → C operation → between.Handles operation self' →
      HandledRun C self self'

/-- What every handled operation keeps of the record of one key. -/
theorem HandledRun.keeps {C : RaceObjectOperation → Prop} {R : RaceObjectRecord → Prop}
    (h : HandledRun C self self')
    (hcommit : ∀ {between after : RaceObjectRegistry} {operation : RaceObjectOperation}
      {m : RaceObjectMutation} {record : RaceObjectRecord}, C operation →
      between.plan operation = .ok (.publishTracked m) → between.commit m = .ok after →
      between.objects.lookup key = some record → R record →
      ∃ record', after.objects.lookup key = some record' ∧ R record')
    (hrecord : self.objects.lookup key = some record) (hR : R record) :
    ∃ record', self'.objects.lookup key = some record' ∧ R record' := by
  induction h with
  | refl => exact ⟨record, hrecord, hR⟩
  | step _ hC hhandles ih =>
    obtain ⟨between, hbetween, hstill⟩ := ih
    rcases hhandles with ⟨m, hplan, hc⟩ | ⟨_, rfl⟩
    · exact hcommit hC hplan hc hbetween hstill
    · exact ⟨between, hbetween, hstill⟩

/-- The record of a key after a commit, whosever operation was committed. -/
theorem lookup_commit (hplan : self.plan operation = .ok (.publishTracked m))
    (hcommit : self.commit m = .ok self') :
    self'.objects.lookup key =
      if key = operation.key then some m.next else self.objects.lookup key := by
  rw [(commit_ok hcommit).2.2, Map.lookup_insert_ite, (plan_tracked hplan).1.key]

/-- A flag is recorded beside everything else. -/
theorem planRuntimeFlagUpdate_next
    (h : self.planRuntimeFlagUpdate key current operation = .publishTracked m) :
    ∃ record flag, current = some record ∧ operation.variant = some flag ∧
      m.next = { record with lastReporter := operation.reporter, runtimeFlag := some flag } := by
  unfold planRuntimeFlagUpdate at h
  split at h
  next => exact absurd h (by simp)
  next => exact absurd h (by simp)
  next record flag hflag =>
    split at h
    next => exact absurd h suppressDuplicate_ne
    next => exact ⟨record, flag, rfl, hflag, by rw [tracked_inj h]⟩

theorem plan_runtimeFlag (hmeaning : operation.meaning = .updateRuntimeFlag)
    (h : self.plan operation = .ok (.publishTracked m)) :
    ∃ record flag, self.objects.lookup operation.key = some record ∧
      operation.variant = some flag ∧
      m.next = { record with lastReporter := operation.reporter, runtimeFlag := some flag } := by
  have hdispatched := (plan_dispatched h).2
  unfold planMeaning at hdispatched
  rw [hmeaning] at hdispatched
  exact planRuntimeFlagUpdate_next (Except.ok.inj hdispatched)

theorem answers_flagged {reporter : RaceObjectActor} {flag : Option Nat}
    (h : record.Answers operation) :
    ({ record with lastReporter := reporter, runtimeFlag := flag } : RaceObjectRecord).Answers
      operation :=
  ⟨⟨h.concerns.class', h.concerns.owner⟩, h.stands⟩

/-- An incidental operation leaves the answer to every replay. -/
theorem commit_answers {replay : RaceObjectOperation} (hmeaning : operation.meaning.Incidental)
    (hplan : self.plan operation = .ok (.publishTracked m)) (hcommit : self.commit m = .ok self')
    (hrecord : self.objects.lookup key = some record) (hanswers : record.Answers replay) :
    ∃ record', self'.objects.lookup key = some record' ∧ record'.Answers replay := by
  obtain ⟨_, hunknown, hno, _⟩ := plan_tracked hplan
  -- of the incidental meanings only a flag update asks for anything
  have hflag : operation.meaning = .updateRuntimeFlag :=
    (hmeaning.resolve_left hunknown).resolve_left hno
  obtain ⟨current, flag, hcurrent, _, hnext⟩ := plan_runtimeFlag hflag hplan
  rw [lookup_commit hplan hcommit]
  by_cases hkey : key = operation.key
  · rw [if_pos hkey]
    rw [hkey, hcurrent] at hrecord
    refine ⟨m.next, rfl, ?_⟩
    rw [hnext, Option.some.inj hrecord]
    exact answers_flagged hanswers
  · rw [if_neg hkey]
    exact ⟨record, hrecord, hanswers⟩

/-! ## Flags -/

/-- The record has the flag an update brings, and is of the object it is about. -/
structure Flagged (operation : RaceObjectOperation) (record : RaceObjectRecord) : Prop where
  concerns : record.Concerns operation
  flag : record.runtimeFlag = operation.variant

/-- A transition keeps the flag: only an installation starts without one. -/
theorem nextRecord_flag {phase : RaceObjectPhase}
    {events : Option RaceObjectLifecycleEvent × Option RaceObjectLifecycleEvent}
    (h : (do
      let next ← self.nextRecord key (some record) operation phase
      return self.tracked key next events) = .ok (.publishTracked m)) :
    m.next.runtimeFlag = record.runtimeFlag := by
  rw [tracked_inj (Except.ok.inj h)]
  rfl

theorem planMeaning_flag (hmeaning : operation.meaning ≠ .updateRuntimeFlag)
    (h : self.planMeaning key (some record) operation = .ok (.publishTracked m)) :
    m.next.runtimeFlag = record.runtimeFlag := by
  have hinstall : ∀ {o : RaceObjectOperation},
      self.planInstall key (some record) o = .ok (.publishTracked m) →
      m.next.runtimeFlag = record.runtimeFlag := by
    intro o ho
    unfold planInstall at ho
    dsimp only at ho
    split at ho
    next => exact nextRecord_flag ho
    next => exact absurd (Except.ok.inj ho) suppressDuplicate_ne
  have hupdate : ∀ {o : RaceObjectOperation},
      self.planStateUpdate key (some record) o = .publishTracked m →
      m.next.runtimeFlag = record.runtimeFlag := by
    intro o ho
    unfold planStateUpdate at ho
    rw [tracked_inj ho]
    rfl
  unfold planMeaning at h
  split at h
  case h_5 =>
    unfold planHit at h
    dsimp only at h
    split at h
    next => exact absurd (Except.ok.inj h) suppressDuplicate_ne
    next => exact nextRecord_flag h
  case h_6 =>
    unfold planRemoval at h
    split at h
    next => exact absurd (Except.ok.inj h) suppressDuplicate_ne
    next =>
      split at h
      next => exact absurd (Except.ok.inj h) (by simp)
      next => exact nextRecord_flag h
  case h_7 =>
    unfold planRespawn at h
    dsimp only at h
    split at h
    next => exact absurd (Except.ok.inj h) suppressDuplicate_ne
    next => exact nextRecord_flag h
  case h_8 hflag => exact absurd hflag hmeaning
  case h_9 => exact absurd (Except.ok.inj h) (by simp)
  all_goals first
    | exact hinstall h
    | exact hupdate (Except.ok.inj h)

/-- A flag stays until another one is recorded. -/
theorem commit_flagged {update : RaceObjectOperation}
    (hother : operation.key = update.key → operation.meaning = .updateRuntimeFlag →
      operation.variant = update.variant)
    (hplan : self.plan operation = .ok (.publishTracked m)) (hcommit : self.commit m = .ok self')
    (hrecord : self.objects.lookup update.key = some record) (hflagged : Flagged update record) :
    ∃ record', self'.objects.lookup update.key = some record' ∧ Flagged update record' := by
  rw [lookup_commit hplan hcommit]
  by_cases hkey : update.key = operation.key
  · rw [if_pos hkey]
    rw [hkey] at hrecord
    obtain ⟨hclass, _, howner⟩ := (plan_tracked hplan).1.kept record hrecord
    have hconcerns : m.next.Concerns update := by
      refine ⟨hclass.trans hflagged.concerns.class', fun owner h => ?_⟩
      rw [howner]
      exact hflagged.concerns.owner owner h
    refine ⟨m.next, rfl, hconcerns, ?_⟩
    by_cases hmeaning : operation.meaning = .updateRuntimeFlag
    · obtain ⟨_, flag, _, hvariant, hnext⟩ := plan_runtimeFlag hmeaning hplan
      rw [hnext, ← hother hkey.symm hmeaning, hvariant]
    · have hdispatched := (plan_dispatched hplan).2
      rw [hrecord] at hdispatched
      rw [planMeaning_flag hmeaning hdispatched]
      exact hflagged.flag
  · rw [if_neg hkey]
    exact ⟨record, hrecord, hflagged⟩

/-- A flag that stands is not published: the update is suppressed, unless it is refused because
it is about another object under this key. -/
theorem plan_flag_suppressed (hmeaning : operation.meaning = .updateRuntimeFlag)
    {flag : Nat} (hvariant : operation.variant = some flag)
    (hrecord : self.objects.lookup operation.key = some record)
    (hflag : record.runtimeFlag = some flag) {admission : RaceObjectAdmission}
    (h : self.plan operation = .ok admission) :
    ∃ kind, admission = suppressDuplicate record operation kind := by
  unfold plan at h
  dsimp only at h
  rw [if_neg (by rw [hmeaning]; simp), hrecord] at h
  obtain ⟨_, _, h⟩ := bind_eq_ok h
  by_cases hdead : record.phase = .removed
  · rw [Option.filter_some, if_pos (by simp [hdead, hmeaning])] at h
    exact ⟨.terminalState, (Except.ok.inj h).symm⟩
  · rw [Option.filter_some, if_neg (by simp [hdead])] at h
    have hdispatched : self.planMeaning operation.key (some record) operation = .ok admission := h
    unfold planMeaning at hdispatched
    rw [hmeaning] at hdispatched
    refine ⟨.runtimeFlagUpdate, ?_⟩
    rw [← Except.ok.inj hdispatched]
    unfold planRuntimeFlagUpdate
    rw [hvariant]
    exact if_pos hflag

theorem plan_ok_of_concerns (hmeaning : operation.meaning = .updateRuntimeFlag)
    (hrecord : self.objects.lookup operation.key = some record)
    (hconcerns : record.Concerns operation) : ∃ admission, self.plan operation = .ok admission := by
  unfold plan
  dsimp only
  rw [if_neg (by rw [hmeaning]; simp), hrecord]
  simp only [validateExisting_of_concerns hconcerns]
  by_cases hdead : record.phase = .removed
  · rw [Option.filter_some, if_pos (by simp [hdead, hmeaning])]
    exact ⟨_, rfl⟩
  · rw [Option.filter_some, if_neg (by simp [hdead])]
    unfold planMeaning
    rw [hmeaning]
    exact ⟨_, rfl⟩

end RaceObjectRegistry

open RaceObjectRegistry

/-- **A published operation is not published again.** Once the mutation an operation was
admitted with is committed, the same operation is suppressed, whatever operations without
lifecycle meaning and flag updates have been handled on its key since. A flag update is
suppressed as well, until another flag is recorded, and so is any other update with its flag that
the registry takes to be about the same object. -/
theorem replay_suppressed {registry committed later : RaceObjectRegistry}
    {operation : RaceObjectOperation} {m : RaceObjectMutation}
    (hplan : registry.plan operation = .ok (.publishTracked m))
    (hcommit : registry.commit m = .ok committed) :
    (operation.meaning.Repeatable →
      HandledRun (fun o => o.key = operation.key ∧ o.meaning.Incidental) committed later →
      ∃ record kind, later.plan operation = .ok (suppressDuplicate record operation kind)) ∧
    (operation.meaning = .updateRuntimeFlag →
      HandledRun (fun o => o.key = operation.key → o.meaning = .updateRuntimeFlag →
        o.variant = operation.variant) committed later →
      (∃ record kind, later.plan operation = .ok (suppressDuplicate record operation kind)) ∧
      ∀ update admission, update.key = operation.key → update.meaning = .updateRuntimeFlag →
        update.variant = operation.variant → later.plan update = .ok admission →
        ∃ record kind, admission = suppressDuplicate record update kind) := by
  have hrecord : committed.objects.lookup operation.key = some m.next := by
    rw [lookup_commit hplan hcommit, if_pos rfl]
  constructor
  · intro hmeaning hrun
    obtain ⟨record, hlater, hanswers⟩ := hrun.keeps
      (fun hC hp hc hr ha => commit_answers hC.2 hp hc hr ha) hrecord (plan_answers hmeaning hplan)
    obtain ⟨kind, hkind⟩ := plan_suppressed hmeaning hlater hanswers
    exact ⟨record, kind, hkind⟩
  · intro hmeaning hrun
    obtain ⟨current, flag, hcurrent, hvariant, hnext⟩ := plan_runtimeFlag hmeaning hplan
    have hconcerns := (plan_dispatched hplan).1 current hcurrent
    have hflagged : Flagged operation m.next := by
      rw [hnext]
      exact ⟨⟨hconcerns.class', hconcerns.owner⟩, hvariant.symm⟩
    obtain ⟨record, hlater, hstill⟩ := hrun.keeps
      (fun hC hp hc hr hf => commit_flagged hC hp hc hr hf) hrecord hflagged
    have hflag : record.runtimeFlag = some flag := hstill.flag.trans hvariant
    refine ⟨?_, ?_⟩
    · obtain ⟨admission, hok⟩ := plan_ok_of_concerns hmeaning hlater hstill.concerns
      obtain ⟨kind, rfl⟩ := plan_flag_suppressed hmeaning hvariant hlater hflag hok
      exact ⟨record, kind, hok⟩
    · intro update admission hkey hupdate hsame hok
      rw [← hkey] at hlater
      obtain ⟨kind, hkind⟩ :=
        plan_flag_suppressed hupdate (hsame.trans hvariant) hlater hflag hok
      exact ⟨record, kind, hkind⟩

/-! ## A run -/

/-- The update of a flag of the banana. -/
def bananaFlag (flag : Nat) : RaceObjectOperation :=
  { bananaOperation .updateRuntimeFlag 2 with variant := some flag }

/-- The mutation the registry plans for an operation. -/
def planned (registry : RaceObjectRegistry) (operation : RaceObjectOperation) :
    Option RaceObjectMutation := admitted (registry.plan operation)

def hitPlan := planned installed.store (bananaOperation .impact 2)

theorem hitPlan_some : hitPlan.isSome := by decide +kernel

def hitStore : RaceObjectRegistry :=
  (installed.store.commit (hitPlan.get hitPlan_some)).toOption.getD .empty

def flagPlan := planned hitStore (bananaFlag 3)

theorem flagPlan_some : flagPlan.isSome := by decide +kernel

def flagStore : RaceObjectRegistry :=
  (hitStore.commit (flagPlan.get flagPlan_some)).toOption.getD .empty

theorem ok_of_toOption {registry : RaceObjectRegistry}
    {answer : Except RaceObjectRegistryError RaceObjectRegistry} (h : answer.toOption.isSome) :
    answer = .ok (answer.toOption.getD registry) := by
  cases answer with
  | ok a => rfl
  | error e => exact absurd h (by simp [Except.toOption])

theorem hit_handled : installed.store.plan (bananaOperation .impact 2) =
      .ok (.publishTracked (hitPlan.get hitPlan_some)) ∧
    installed.store.commit (hitPlan.get hitPlan_some) = .ok hitStore :=
  ⟨admitted_some (Option.some_get hitPlan_some).symm, ok_of_toOption (by decide +kernel)⟩

theorem flag_handled : hitStore.Handles (bananaFlag 3) flagStore :=
  .inl ⟨_, admitted_some (Option.some_get flagPlan_some).symm, ok_of_toOption (by decide +kernel)⟩

/-- The hit is suppressed after the flag. -/
theorem banana_hit_suppressed : ∃ record kind, flagStore.plan (bananaOperation .impact 2) =
    .ok (suppressDuplicate record (bananaOperation .impact 2) kind) :=
  (replay_suppressed hit_handled.1 hit_handled.2).1
    (.inr (.inr (.inr (.inr (.inl rfl)))))
    (HandledRun.step .refl (show (bananaFlag 3).key = _ ∧ _ from ⟨rfl, .inr (.inr rfl)⟩)
      flag_handled)

end P4475.RaceObject
