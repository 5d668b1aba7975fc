import P4475.Lib.Planner
import P4475.RaceObject.Registry

/-!
# Life of a race object

What a plan may ask for (`plan_tracked`), and from it what any order of plans and
commits leaves alone. The registry is run as a planner (`Lib.Planner`): plans
are kept and handed in at any time, so a stale plan is just a plan handed in
late. A commit is refused unless the revision is the planned one; the revision
is a `u64` that wraps, so the results are about plans handed in within `2 ^ 64`
commits.
-/

namespace P4475.RaceObject

open Lib

/-! ## What a plan may ask for -/

/-- The mutation `m` an operation asks for: planned on this revision, for the key
of the operation, and either the installation of a new object while there is room
or a transition that keeps the installed class, class name and owner. -/
structure Tracks (registry : RaceObjectRegistry) (key : RaceObjectKey)
    (current : Option RaceObjectRecord) (operation : RaceObjectOperation)
    (m : RaceObjectMutation) : Prop where
  revision : m.expectedRevision = registry.revision
  key : m.key = key
  room : current = none → registry.objects.keys.card < maxRaceObjects
  installed : current = none → m.next.class' = operation.class' ∧
    m.next.className = operation.className ∧
    m.next.owner = operation.ownerClaim.getD operation.reporter
  kept : ∀ r, current = some r → m.next.class' = r.class' ∧
    m.next.className = r.className ∧ m.next.owner = r.owner

namespace RaceObjectRegistry

variable {self : RaceObjectRegistry} {key : RaceObjectKey} {current : Option RaceObjectRecord}
  {operation : RaceObjectOperation} {m : RaceObjectMutation}

theorem ensureCapacity_ok (h : self.ensureCapacity key = .ok ()) :
    self.objects.keys.card < maxRaceObjects := by
  unfold ensureCapacity at h
  split at h
  next => exact absurd h (by simp)
  next hlt => exact Nat.lt_of_not_ge hlt

theorem tracked_inj {next : RaceObjectRecord}
    {events : Option RaceObjectLifecycleEvent × Option RaceObjectLifecycleEvent}
    (h : self.tracked key next events = .publishTracked m) :
    m = ⟨self.revision, key, next, events⟩ := by
  unfold tracked at h
  injection h with h
  exact h.symm

/-- A transition of a known object, whatever its phase becomes. -/
theorem tracks_transition {r next : RaceObjectRecord}
    {events : Option RaceObjectLifecycleEvent × Option RaceObjectLifecycleEvent}
    (h : self.tracked key next events = .publishTracked m)
    (hclass : next.class' = r.class') (hname : next.className = r.className)
    (howner : next.owner = r.owner) :
    Tracks self key (some r) operation m := by
  rw [tracked_inj h]
  refine ⟨rfl, rfl, fun hn => absurd hn (by simp), fun hn => absurd hn (by simp), ?_⟩
  intro r' hr
  injection hr with hr
  rw [← hr]
  exact ⟨hclass, hname, howner⟩

/-- An installation, in whichever phase. -/
theorem tracks_install {phase : RaceObjectPhase}
    {events : Option RaceObjectLifecycleEvent × Option RaceObjectLifecycleEvent}
    (hroom : self.ensureCapacity key = .ok ())
    (h : self.tracked key (operation.install phase) events = .publishTracked m) :
    Tracks self key none operation m := by
  rw [tracked_inj h]
  exact ⟨rfl, rfl, fun _ => ensureCapacity_ok hroom, fun _ => ⟨rfl, rfl, rfl⟩,
    fun r hr => absurd hr (by simp)⟩

/-- `next_record` followed by the mutation that stores it. -/
theorem nextRecord_tracks {phase : RaceObjectPhase}
    {events : Option RaceObjectLifecycleEvent × Option RaceObjectLifecycleEvent}
    (h : (do
      let next ← self.nextRecord key current operation phase
      return self.tracked key next events) = .ok (.publishTracked m)) :
    Tracks self key current operation m ∧ m.next.phase = phase := by
  cases current with
  | some r =>
    have ht := Except.ok.inj h
    refine ⟨tracks_transition ht rfl rfl rfl, ?_⟩
    rw [tracked_inj ht]
  | none =>
    unfold nextRecord at h
    cases hroom : self.ensureCapacity key with
    | error e => rw [hroom] at h; exact absurd h (by simp [bind, Except.bind])
    | ok u =>
      rw [hroom] at h
      have ht := Except.ok.inj h
      refine ⟨tracks_install hroom ht, ?_⟩
      rw [tracked_inj ht]
      rfl

theorem suppressDuplicate_ne {r : RaceObjectRecord} {kind : RaceObjectDuplicateKind} :
    suppressDuplicate r operation kind ≠ .publishTracked m := by
  unfold suppressDuplicate
  simp

theorem planInstall_tracks
    (h : self.planInstall key current operation = .ok (.publishTracked m)) :
    Tracks self key current operation m := by
  unfold planInstall at h
  split at h
  next r =>
    split at h
    next => exact (nextRecord_tracks h).1
    next => exact absurd (Except.ok.inj h) suppressDuplicate_ne
  next =>
    cases hroom : self.ensureCapacity key with
    | error e => rw [hroom] at h; exact absurd h (by simp [bind, Except.bind])
    | ok u =>
      rw [hroom] at h
      by_cases hinit : operation.meaning = .initializeObject
      · have h' : (if operation.meaning = .initializeObject then _ else _) = _ := h
        rw [if_pos hinit] at h'
        exact tracks_install hroom (Except.ok.inj h')
      · have h' : (if operation.meaning = .initializeObject then _ else _) = _ := h
        rw [if_neg hinit] at h'
        exact tracks_install hroom (Except.ok.inj h')

theorem planRespawn_tracks
    (h : self.planRespawn key current operation = .ok (.publishTracked m)) :
    Tracks self key current operation m ∧ m.next.phase = .active := by
  unfold planRespawn at h
  split at h
  next => exact absurd (Except.ok.inj h) (by simp)
  next r =>
    split at h
    next => exact absurd (Except.ok.inj h) suppressDuplicate_ne
    next => exact nextRecord_tracks h

theorem planHit_tracks (h : self.planHit key current operation = .ok (.publishTracked m)) :
    Tracks self key current operation m := by
  unfold planHit at h
  dsimp only at h
  split at h
  next => exact absurd (Except.ok.inj h) suppressDuplicate_ne
  next => exact (nextRecord_tracks h).1

/-- A removal is never recorded twice. -/
theorem planRemoval_tracks
    (h : self.planRemoval key current operation = .ok (.publishTracked m)) :
    Tracks self key current operation m ∧ ∀ r, current = some r → r.phase ≠ .removed := by
  unfold planRemoval at h
  split at h
  next => exact absurd (Except.ok.inj h) suppressDuplicate_ne
  next hlive =>
    split at h
    next => exact absurd (Except.ok.inj h) (by simp)
    next =>
      refine ⟨(nextRecord_tracks h).1, ?_⟩
      intro r hr hphase
      rw [hr, Option.filter_some, hphase] at hlive
      exact absurd hlive (by simp)

theorem planStateUpdate_tracks
    (h : self.planStateUpdate key current operation = .publishTracked m) :
    Tracks self key current operation m := by
  unfold planStateUpdate at h
  split at h
  next => exact absurd h (by simp)
  next r => exact tracks_transition h rfl rfl rfl

theorem planRuntimeFlagUpdate_tracks
    (h : self.planRuntimeFlagUpdate key current operation = .publishTracked m) :
    Tracks self key current operation m := by
  unfold planRuntimeFlagUpdate at h
  split at h
  next => exact absurd h (by simp)
  next => exact absurd h (by simp)
  next =>
    split at h
    next => exact absurd h suppressDuplicate_ne
    next => exact tracks_transition h rfl rfl rfl

theorem planMeaning_tracks
    (h : self.planMeaning key current operation = .ok (.publishTracked m)) :
    Tracks self key current operation m := by
  unfold planMeaning at h
  split at h
  all_goals first
    | exact planInstall_tracks h
    | exact planHit_tracks h
    | exact (planRemoval_tracks h).1
    | exact (planRespawn_tracks h).1
    | exact planRuntimeFlagUpdate_tracks (Except.ok.inj h)
    | exact planStateUpdate_tracks (Except.ok.inj h)
    | exact absurd (Except.ok.inj h) (by simp)

/-- What the dispatch does with a removed object is a respawn into `Active`. -/
theorem planMeaning_removed {r : RaceObjectRecord} (hr : r.phase = .removed)
    (hmeaning : operation.meaning = .remove ∨ operation.meaning = .respawn)
    (h : self.planMeaning key (some r) operation = .ok (.publishTracked m)) :
    operation.meaning = .respawn ∧ m.next.phase = .active := by
  unfold planMeaning at h
  rcases hmeaning with hremove | hrespawn
  · rw [hremove] at h
    exact absurd hr ((planRemoval_tracks h).2 r rfl)
  · rw [hrespawn] at h
    exact ⟨hrespawn, (planRespawn_tracks h).2⟩

theorem validateExisting_ok {r : RaceObjectRecord}
    (h : validateExisting key r operation = .ok ()) : r.class' = operation.class' := by
  unfold validateExisting at h
  split at h
  next => exact absurd h (by simp)
  next hclass => exact not_not.mp hclass

/-- Everything a plan that publishes a tracked mutation says. -/
theorem plan_tracked (h : self.plan operation = .ok (.publishTracked m)) :
    Tracks self operation.key (self.objects.lookup operation.key) operation m ∧
    operation.meaning ≠ .unknown ∧ operation.meaning ≠ .noClientAction ∧
    ∀ r, self.objects.lookup operation.key = some r → operation.class' = r.class' ∧
      (r.phase = .removed → operation.meaning = .respawn ∧ m.next.phase = .active) := by
  unfold plan at h
  dsimp only at h
  split at h
  next =>
    -- an operation without lifecycle meaning is suppressed or relayed untracked
    split at h
    next => exact absurd (Except.ok.inj h) suppressDuplicate_ne
    next => exact absurd (Except.ok.inj h) (by simp)
  next hmeaning =>
    have hknown : operation.meaning ≠ .unknown ∧ operation.meaning ≠ .noClientAction := by
      constructor
      · intro he
        exact hmeaning (Or.inl he)
      · intro he
        exact hmeaning (Or.inr he)
    cases hcur : self.objects.lookup operation.key with
    | none =>
      rw [hcur] at h
      refine ⟨planMeaning_tracks h, hknown.1, hknown.2, ?_⟩
      intro r hr
      exact absurd hr (by simp)
    | some r =>
      rw [hcur] at h
      cases hvalid : validateExisting operation.key r operation with
      | error e =>
        simp only [hvalid] at h
        exact absurd h (by simp [bind, Except.bind])
      | ok u =>
        simp only [hvalid] at h
        -- a removed object only lets a removal or a respawn through
        by_cases hdead : r.phase = .removed ∧
            ¬ (operation.meaning = .remove ∨ operation.meaning = .respawn)
        · rw [Option.filter_some, if_pos (by simpa using hdead)] at h
          exact absurd (Except.ok.inj h) suppressDuplicate_ne
        · rw [Option.filter_some, if_neg (by simpa using hdead)] at h
          refine ⟨planMeaning_tracks h, hknown.1, hknown.2, ?_⟩
          intro r' hr'
          injection hr' with hr'
          rw [← hr']
          refine ⟨(validateExisting_ok hvalid).symm, ?_⟩
          intro hphase
          have hallowed : operation.meaning = .remove ∨ operation.meaning = .respawn := by
            by_contra hnot
            exact hdead ⟨hphase, hnot⟩
          exact planMeaning_removed hphase hallowed h

theorem commit_ok {self' : RaceObjectRegistry} (h : self.commit m = .ok self') :
    m.expectedRevision = self.revision ∧ self'.revision = (self.revision + 1) % 2 ^ 64 ∧
    self'.objects = self.objects.insert m.key m.next := by
  unfold commit at h
  split at h
  next => exact absurd h (by simp)
  next he =>
    have hs := Except.ok.inj h
    rw [← hs]
    exact ⟨not_not.mp he, rfl, rfl⟩

/-! ## Every order of plans and commits -/

/-- The mutation in the hands of the caller of `plan`. -/
def admitted : Except RaceObjectRegistryError RaceObjectAdmission → Option RaceObjectMutation
  | .ok (.publishTracked m) => some m
  | _ => none

theorem admitted_some {answer : Except RaceObjectRegistryError RaceObjectAdmission}
    (h : admitted answer = some m) : answer = .ok (.publishTracked m) := by
  unfold admitted at h
  split at h
  next => injection h with h; rw [h]
  next => exact absurd h (by simp)

def planner : Planner RaceObjectRegistry RaceObjectOperation
    (Except RaceObjectRegistryError RaceObjectAdmission) RaceObjectMutation
    RaceObjectRegistryError where
  init := empty
  plan := plan
  mutation := admitted
  commit := commit
  effective := fun _ => true

/-- The revision check, with the counter's width. -/
def versioned : planner.Versioned (2 ^ 64) where
  version := revision
  base := RaceObjectMutation.expectedRevision
  version_init := rfl
  plan_base := fun h => (plan_tracked (admitted_some h)).1.revision
  commit_base := fun h => (commit_ok h).1
  commit_effective := fun _ h _ => (commit_ok h).2.1
  commit_quiet := fun _ _ h => absurd h (by simp [planner])

/-- Two records of one installed object. -/
structure SameObject (r r' : RaceObjectRecord) : Prop where
  class' : r'.class' = r.class'
  className : r'.className = r.className
  owner : r'.owner = r.owner

theorem SameObject.refl (r : RaceObjectRecord) : SameObject r r := ⟨rfl, rfl, rfl⟩

theorem SameObject.trans {r₁ r₂ r₃ : RaceObjectRecord} (h : SameObject r₁ r₂)
    (h' : SameObject r₂ r₃) : SameObject r₁ r₃ :=
  ⟨h'.class'.trans h.class', h'.className.trans h.className, h'.owner.trans h.owner⟩

/-- Every object of `s` is still the object it was in `s'`. -/
def Kept (s s' : RaceObjectRegistry) : Prop :=
  ∀ k r, s.objects.lookup k = some r → ∃ r', s'.objects.lookup k = some r' ∧ SameObject r r'

theorem Kept.refl (s : RaceObjectRegistry) : Kept s s :=
  fun _ r hr => ⟨r, hr, SameObject.refl r⟩

theorem Kept.trans {s₁ s₂ s₃ : RaceObjectRegistry} (h : Kept s₁ s₂) (h' : Kept s₂ s₃) :
    Kept s₁ s₃ := by
  intro k r hr
  obtain ⟨r', hr', hsame⟩ := h k r hr
  obtain ⟨r'', hr'', hsame'⟩ := h' k r' hr'
  exact ⟨r'', hr'', hsame.trans hsame'⟩

/-- A commit of a plan made on the store keeps every object. -/
theorem commit_kept {self' : RaceObjectRegistry} (hp : self.plan operation = .ok (.publishTracked m))
    (hc : self.commit m = .ok self') : Kept self self' := by
  have ht := (plan_tracked hp).1
  intro k r hr
  rw [(commit_ok hc).2.2, Map.lookup_insert_ite, ht.key]
  by_cases hk : k = operation.key
  · rw [if_pos hk]
    rw [hk] at hr
    obtain ⟨hclass, hname, howner⟩ := ht.kept r hr
    exact ⟨m.next, rfl, hclass, hname, howner⟩
  · rw [if_neg hk]
    exact ⟨r, hr, SameObject.refl r⟩

/-- A commit of a plan made on the store keeps the registry within its bound: only
an installation adds a key, and it was planned with room left. -/
theorem commit_bounded {self' : RaceObjectRegistry}
    (hp : self.plan operation = .ok (.publishTracked m)) (hc : self.commit m = .ok self')
    (hle : self.objects.keys.card ≤ maxRaceObjects) :
    self'.objects.keys.card ≤ maxRaceObjects := by
  have ht := (plan_tracked hp).1
  rw [(commit_ok hc).2.2, Map.keys_insert, ht.key]
  cases hcur : self.objects.lookup operation.key with
  | none =>
    have hroom := ht.room hcur
    exact (Finset.card_insert_le _ _).trans hroom
  | some r =>
    have hmem : operation.key ∈ self.objects.keys := by
      rw [Map.mem_keys_iff, hcur]
      simp
    rw [Finset.insert_eq_of_mem hmem]
    exact hle

end RaceObjectRegistry

open RaceObjectRegistry

/-- A plan in its caller's hands. -/
abbrev RegistryPlan := Held RaceObjectRegistry RaceObjectOperation RaceObjectMutation

abbrev RegistryDesk := Desk RaceObjectRegistry RaceObjectOperation RaceObjectMutation

/-- The registry at work: any plans, committed in any order, late or twice. -/
abbrev registryMachine := planner.machine

/-- Runs whose plans are all handed in within `2 ^ 64` commits. -/
abbrev YoungRun := registryMachine.RunBy (Planner.Young (2 ^ 64))

/-- A committed plan, read at the store that took it. -/
theorem committed_plan {d : RegistryDesk} (hd : versioned.Ok d) {i : Nat} {h : RegistryPlan}
    (hh : d.held[i]? = some h) (hy : d.commits < h.stamp + 2 ^ 64) {s : RaceObjectRegistry}
    (hc : d.store.commit h.mutation = .ok s) :
    d.store.plan h.operation = .ok (.publishTracked h.mutation) :=
  admitted_some (hd.taken (List.mem_of_getElem? hh) (Or.inr hy) hc)

/-- **The registry contract.** Along every run: installed objects keep their class,
class name and owner, at most `maxRaceObjects` keys exist, a removed object only
ever commits a respawn of its class, an operation without lifecycle meaning asks
for nothing, and a plan made before another commit is refused. -/
theorem registry_contract {d d' : RegistryDesk}
    (hbefore : YoungRun registryMachine.init d) (hafter : YoungRun d d') :
    Kept d.store d'.store ∧
    d'.store.objects.keys.card ≤ maxRaceObjects ∧
    (∀ (i : Nat) (h : RegistryPlan) (s : RaceObjectRegistry), d'.held[i]? = some h →
      d'.commits < h.stamp + 2 ^ 64 → d'.store.commit h.mutation = .ok s →
      ∀ r, d'.store.objects.lookup h.mutation.key = some r → r.phase = .removed →
        h.operation.meaning = .respawn ∧ h.operation.class' = r.class' ∧
        h.mutation.next.phase = .active) ∧
    (∀ operation, operation.meaning = .unknown ∨ operation.meaning = .noClientAction →
      ∀ m, d'.store.plan operation ≠ .ok (.publishTracked m)) ∧
    (∀ (i : Nat) (h : RegistryPlan), d'.held[i]? = some h →
      h.stamp < d'.commits → d'.commits < h.stamp + 2 ^ 64 →
      registryMachine.step d' (.commit i) = some (.refused
        (.stalePlan h.mutation.expectedRevision d'.store.revision), d')) := by
  have hd : versioned.Ok d := Planner.Versioned.ok_of_runBy versioned hbefore .init
  have hd' : versioned.Ok d' := Planner.Versioned.ok_of_runBy versioned hafter hd
  refine ⟨?_, ?_, ?_, ?_, ?_⟩
  · exact Planner.Versioned.run_invariant versioned (I := Kept d.store)
      (fun hk hm hc => hk.trans (commit_kept (admitted_some hm) hc)) hd hafter (Kept.refl _)
  · exact Planner.Versioned.run_invariant versioned
      (I := fun s => s.objects.keys.card ≤ maxRaceObjects)
      (fun hle hm hc => commit_bounded (admitted_some hm) hc hle) .init
      (hbefore.trans hafter) (Nat.zero_le _)
  · intro i h s hh hy hc r hr hphase
    obtain ⟨ht, -, -, hdead⟩ := plan_tracked (committed_plan hd' hh hy hc)
    rw [ht.key] at hr
    obtain ⟨hclass, hrevived⟩ := hdead r hr
    exact ⟨(hrevived hphase).1, hclass, (hrevived hphase).2⟩
  · intro operation hmeaning m hp
    obtain ⟨-, hunknown, hno, -⟩ := plan_tracked hp
    rcases hmeaning with he | he
    · exact hunknown he
    · exact hno he
  · intro i h hh hold hy
    obtain ⟨e, he⟩ := hd'.refused (List.mem_of_getElem? hh) hold (Or.inr hy)
    have hstale : e = .stalePlan h.mutation.expectedRevision d'.store.revision := by
      have he' : d'.store.commit h.mutation = .error e := he
      unfold RaceObjectRegistry.commit at he'
      split at he'
      next => injection he' with he'; exact he'.symm
      next => exact absurd he' (by simp)
    show planner.step d' (.commit i) = _
    unfold Planner.step
    dsimp only
    rw [hh]
    dsimp only
    rw [he, hstale]

/-! ## A run -/

/-- An operation on one banana of race 7, reported by its installer. -/
def bananaOperation (meaning : ItemLifecycleMeaning) (state : Nat) : RaceObjectOperation where
  raceEpoch := 7
  class' := ⟨0x1D8604A3, 0x2D0605C2⟩
  className := "GopBanana"
  objectId := 40
  state := state
  meaning := meaning
  evidence := .producerAndConsumer
  transitionToken := none
  sourceObjectId := none
  targetObjectId := none
  variant := none
  reporter := ⟨10, 1, 0⟩
  ownerClaim := none

def installActions : List (DeskAction RaceObjectOperation) :=
  [.plan (bananaOperation .place 1), .commit 0]

/-- A hit and a removal are planned together, so the hit is handed in too late. -/
def removeActions : List (DeskAction RaceObjectOperation) :=
  [.plan (bananaOperation .impact 2), .plan (bananaOperation .remove 3), .commit 2, .commit 1,
    .plan (bananaOperation .respawn 1)]

def installRun := registryMachine.exec registryMachine.init [] installActions

theorem installRun_some : installRun.isSome := by decide +kernel

def installed := (installRun.get installRun_some).2

def removeRun := registryMachine.exec installed [] removeActions

theorem removeRun_some : removeRun.isSome := by decide +kernel

def removed := (removeRun.get removeRun_some).2

theorem installed_young : YoungRun registryMachine.init installed :=
  (Planner.young_of_exec installActions (Option.some_get installRun_some).symm
    (by decide +kernel)).2

theorem removed_young : YoungRun installed removed :=
  (Planner.young_of_exec removeActions (Option.some_get removeRun_some).symm
    (by decide +kernel)).2

theorem removed_contract :
    Kept installed.store removed.store ∧
    removed.store.objects.keys.card ≤ maxRaceObjects ∧
    (∀ (i : Nat) (h : RegistryPlan) (s : RaceObjectRegistry), removed.held[i]? = some h →
      removed.commits < h.stamp + 2 ^ 64 → removed.store.commit h.mutation = .ok s →
      ∀ r, removed.store.objects.lookup h.mutation.key = some r → r.phase = .removed →
        h.operation.meaning = .respawn ∧ h.operation.class' = r.class' ∧
        h.mutation.next.phase = .active) ∧
    (∀ operation, operation.meaning = .unknown ∨ operation.meaning = .noClientAction →
      ∀ m, removed.store.plan operation ≠ .ok (.publishTracked m)) ∧
    (∀ (i : Nat) (h : RegistryPlan), removed.held[i]? = some h →
      h.stamp < removed.commits → removed.commits < h.stamp + 2 ^ 64 →
      registryMachine.step removed (.commit i) = some (.refused
        (.stalePlan h.mutation.expectedRevision removed.store.revision), removed)) :=
  registry_contract installed_young removed_young

/-- The run reaches a removed banana, with the refused hit and a respawn in hand. -/
example : removed.held.length = 4 ∧ removed.commits = 2 ∧
    (removed.store.objects.lookup ⟨7, 40⟩).map RaceObjectRecord.phase = some .removed := by
  decide +kernel

end P4475.RaceObject
