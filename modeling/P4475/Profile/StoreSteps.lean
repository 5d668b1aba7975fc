import P4475.Profile.Store

/-!
# What one step of a call does

Whatever a call of the profile store does in one step, it leaves the head of the revisions where it
is or puts a new one on top, removes only what is far behind, and touches no temporary but its own and
those whose revision is published.
-/

namespace P4475.Profile

open Lib

variable {P V : Type}

/-- A revision that has come to be, over the highest one there was; the profile it holds, and the
one this was made of. -/
structure Publication (P : Type) where
  revision : Nat
  head : Nat
  input : P
  output : P
  deriving DecidableEq, Repr

/-- The link was made. -/
def SaveStage.links : SaveStage → SaveStage → Bool
  | .linking _, .published _ => true
  | _, _ => false

/-- A step that has tried the name of a temporary. -/
def SaveStage.isWriting : SaveStage → Bool
  | .writing attempts => attempts < maxTemporaryFileAttempts
  | _ => false

namespace TransactionStage

/-- What a step publishes. -/
def publication (d : Directory) : TransactionStage P V → TransactionStage P V → Option (Publication P)
  | .saving _ snapshot _ profile request stage, .saving _ _ _ _ _ stage' =>
    if stage.links stage' then
      some ⟨request.revision, d.revisions.top, snapshot.profile, profile⟩
    else none
  | _, _ => none

def isWriting : TransactionStage P V → Bool
  | .saving _ _ _ _ _ stage => stage.isWriting
  | _ => false

def isSaving : TransactionStage P V → Bool
  | .saving .. => true
  | _ => false

end TransactionStage

/-! ## Temporaries -/

namespace Directory

variable (d : Directory) (name other : TemporaryName) (content : List UInt8)

theorem temporary?_removeTemporary : (d.removeTemporary name).temporary? other =
    if other = name then none else d.temporary? other := by
  unfold temporary? removeTemporary
  dsimp only
  induction d.temporaries with
  | nil =>
    rw [List.filter_nil, List.find?_nil]
    split <;> rfl
  | cons first rest ih =>
    by_cases hname : first.1 = name
    · rw [List.filter_cons_of_neg (by simp [hname]), ih]
      by_cases hother : other = name
      · rw [if_pos hother, if_pos hother]
      · rw [if_neg hother, if_neg hother,
          List.find?_cons_of_neg (by simp [hname, Ne.symm hother])]
    · rw [List.filter_cons_of_pos (by simp [hname])]
      by_cases hfirst : first.1 = other
      · rw [List.find?_cons_of_pos (by simp [hfirst]), List.find?_cons_of_pos (by simp [hfirst]),
          if_neg (by rw [← hfirst]; exact hname)]
      · rw [List.find?_cons_of_neg (by simp [hfirst]), List.find?_cons_of_neg (by simp [hfirst]),
          ih]

theorem temporary?_createTemporary : (d.createTemporary name).temporary? other =
    if other = name then some [] else d.temporary? other := by
  unfold temporary? createTemporary
  by_cases hother : other = name
  · rw [if_pos hother, List.find?_cons_of_pos (by simp [hother])]
    rfl
  · rw [if_neg hother, List.find?_cons_of_neg (by simpa using Ne.symm hother)]

theorem temporary?_fillTemporary : (d.fillTemporary name content).temporary? other =
    if other = name then (d.temporary? name).map fun _ => content else d.temporary? other := by
  unfold temporary? fillTemporary
  dsimp only
  induction d.temporaries with
  | nil =>
    rw [List.map_nil, List.find?_nil]
    split <;> rfl
  | cons first rest ih =>
    rw [List.map_cons]
    by_cases hname : first.1 = name
    · rw [if_pos hname]
      by_cases hother : other = name
      · rw [List.find?_cons_of_pos (by simp [hother]), if_pos hother,
          List.find?_cons_of_pos (by simp [hname])]
        rfl
      · rw [List.find?_cons_of_neg (by simpa using Ne.symm hother), ih, if_neg hother, if_neg hother,
          List.find?_cons_of_neg (by simp [hname, Ne.symm hother])]
    · rw [if_neg hname]
      by_cases hfirst : first.1 = other
      · rw [List.find?_cons_of_pos (by simp [hfirst]), if_neg (by rw [← hfirst]; exact hname),
          List.find?_cons_of_pos (by simp [hfirst])]
      · rw [List.find?_cons_of_neg (by simp [hfirst]), ih,
          List.find?_cons_of_neg (by simp [hname]), List.find?_cons_of_neg (by simp [hfirst])]

end Directory

/-- Nothing but temporaries has changed, and of these only the step's own came or changed. -/
structure Directory.Tends (mine : TemporaryName → Prop) (d d' : Directory) : Prop where
  revisions : d'.revisions = d.revisions
  legacy : d'.legacy = d.legacy
  temporaries : ∀ name, ¬ mine name → ∀ bytes, d'.temporary? name = some bytes →
    d.temporary? name = some bytes

namespace Directory.Tends

variable {mine : TemporaryName → Prop} {d d' : Directory} {name : TemporaryName}

theorem refl (d : Directory) : Tends mine d d := ⟨rfl, rfl, fun _ _ _ h => h⟩

theorem remove (d : Directory) (name : TemporaryName) : Tends mine d (d.removeTemporary name) := by
  refine ⟨rfl, rfl, fun other _ bytes h => ?_⟩
  rw [temporary?_removeTemporary] at h
  split at h
  next => cases h
  next => exact h

end Directory.Tends

/-! ## Listing and loading -/

/-- Not yet done: a stage that is over is gone at once. -/
def ListStage.Running : ListStage → Prop
  | .listed _ => False
  | _ => True

def LoadStage.Running : LoadStage P → Prop
  | .listing stage => stage.Running
  | .reading .. => True
  | .loaded _ => False

section

variable {d : Directory} {fault : Bool}

theorem ListStage.step_tends (stage : ListStage) :
    Directory.Tends (fun _ => False) d (stage.step fault d).1 := by
  cases stage with
  | sweeping =>
    unfold step
    dsimp only
    split <;> exact .refl d
  | inspecting rest removed overflow =>
    cases rest with
    | nil =>
      unfold step
      dsimp only
      split
      · exact .refl d
      · split <;> exact .refl d
    | cons temporary rest =>
      unfold step
      dsimp only
      split
      · exact .refl d
      · split <;> exact .refl d
  | removing temporary rest removed overflow =>
    unfold step
    dsimp only
    split
    · exact .refl d
    · exact .remove d temporary
  | listing =>
    unfold step
    dsimp only
    split <;> exact .refl d
  | listed result => exact .refl d

theorem Directory.revisionsDescending_eq_ok {numbers : List Nat}
    (h : d.revisionsDescending = .ok numbers) : numbers = d.revisions.numbers := by
  unfold revisionsDescending at h
  obtain ⟨-, h⟩ := check_bind.mp h
  obtain ⟨-, h⟩ := check_bind.mp h
  cases h
  rfl

/-- A listing is one of the directory as it stands. -/
theorem ListStage.listed_of_step {stage : ListStage} (hrunning : stage.Running)
    {numbers : List Nat} (h : (stage.step fault d).2 = .listed (.ok numbers)) :
    numbers = d.revisions.numbers ∧ (stage.step fault d).1 = d := by
  cases stage with
  | sweeping =>
    unfold step at h
    dsimp only at h
    split at h <;> cases h
  | inspecting rest removed overflow =>
    cases rest with
    | nil =>
      unfold step at h
      dsimp only at h
      split at h
      · cases h
      · split at h <;> cases h
    | cons temporary rest =>
      unfold step at h
      dsimp only at h
      split at h
      · cases h
      · split at h <;> cases h
  | removing temporary rest removed overflow =>
    unfold step at h
    dsimp only at h
    split at h <;> cases h
  | listing =>
    unfold step at h ⊢
    dsimp only at h ⊢
    split at h
    · cases h
    · rename_i hfault
      rw [if_neg hfault]
      refine ⟨Directory.revisionsDescending_eq_ok ?_, rfl⟩
      injection h
  | listed result => exact absurd hrunning id

theorem LoadStage.step_tends (format : ProfileFormat P) (stage : LoadStage P) :
    Directory.Tends (fun _ => False) d (stage.step format fault d).1 := by
  cases stage with
  | listing stage => exact stage.step_tends
  | reading rest progress =>
    unfold step
    dsimp only
    split
    · exact .refl d
    · cases rest with
      | nil => exact .refl d
      | cons revision rest =>
        dsimp only
        split
        · exact .refl d
        · split <;> exact .refl d
  | loaded result => exact .refl d

end

/-! ## Saving -/

namespace SaveStage

/-- The temporary of a save, as long as it may touch it. -/
def name? : SaveStage → Option TemporaryName
  | writing _ | syncing | saved _ => none
  | filling name | listing name _ | compacting name _ _ | linking name | rechecking name
  | published name | discarding name _ => some name

/-- The temporary holds what is to be published. -/
def isFilled : SaveStage → Bool
  | listing .. | compacting .. | linking _ => true
  | _ => false

/-- What is still to be removed before the link. -/
def removals : SaveStage → List Nat
  | compacting _ rest _ => rest
  | _ => []

/-- The link is made, and the save not yet over. -/
def isLinked : SaveStage → Bool
  | published _ | syncing => true
  | _ => false

/-- A save that is over without its link. -/
def Unpublished (outcome : Except ProfileStoreError PublishOutcome) : Prop :=
  ∀ revision durable, outcome ≠ .ok (.published revision durable)

def Running : SaveStage → Prop
  | listing _ stage => stage.Running
  | discarding _ outcome => Unpublished outcome
  | saved _ => False
  | _ => True

/-- What a save may do in one step. -/
inductive Moves (request : SaveRequest) (process sequence : Nat) (d : Directory) :
    SaveStage → Directory → SaveStage → Prop
  | retries (attempts : Nat) : attempts < maxTemporaryFileAttempts →
      Moves request process sequence d (writing attempts) d (writing (attempts + 1))
  | creates (attempts : Nat) : attempts < maxTemporaryFileAttempts →
      Moves request process sequence d (writing attempts)
      (d.createTemporary ⟨request.revision, process, sequence⟩)
      (filling ⟨request.revision, process, sequence⟩)
  | fills (name : TemporaryName) : Moves request process sequence d (filling name)
      (d.fillTemporary name request.bytes) (listing name .sweeping)
  | lists (name : TemporaryName) {stage stage' : ListStage} {d' : Directory} :
      d.Tends (fun _ => False) d' → stage'.Running →
      Moves request process sequence d (listing name stage) d' (listing name stage')
  | compacts (name : TemporaryName) (stage : ListStage) :
      Moves request process sequence d (listing name stage) d
        (compacting name (precompactProfileRevisions d.revisions.numbers request.protectedSource)
          false)
  | erases (name : TemporaryName) (x : Nat) (rest : List Nat) (changed : Bool) :
      Moves request process sequence d (compacting name (x :: rest) changed) (d.removeRevision x)
        (compacting name rest true)
  | prepares (name : TemporaryName) (changed : Bool) :
      Moves request process sequence d (compacting name [] changed) d (linking name)
  | publishes (name : TemporaryName) {bytes : List UInt8} {revisions : Versions (List UInt8)}
      (hpositive : 0 < request.revision) : d.temporary? name = some bytes →
      d.revisions.create request.revision bytes hpositive = some revisions →
      Moves request process sequence d (linking name) { d with revisions } (published name)
  | doubts (name : TemporaryName) :
      Moves request process sequence d (linking name) d (rechecking name)
  | discards {stage : SaveStage} {name : TemporaryName}
      {outcome : Except ProfileStoreError PublishOutcome} {d' : Directory} :
      stage.name? = some name ∨
        (stage.isWriting = true ∧ name = ⟨request.revision, process, sequence⟩) →
      stage.isLinked = false → Unpublished outcome →
      d.Tends (fun _ => False) d' → Moves request process sequence d stage d' (discarding name outcome)
  | synchronises (name : TemporaryName) {d' : Directory} : d.Tends (fun _ => False) d' →
      Moves request process sequence d (published name) d' syncing
  | confirms (durable : Bool) : Moves request process sequence d syncing d
      (saved (.ok (.published request.revision durable)))
  | abandons {stage : SaveStage} {outcome : Except ProfileStoreError PublishOutcome}
      {d' : Directory} : stage.isLinked = false → Unpublished outcome → d.Tends (fun _ => False) d' →
      Moves request process sequence d stage d' (saved outcome)

variable {request : SaveRequest} {process sequence : Nat} {fault : Bool} {d : Directory}

theorem unpublished_error (e : ProfileStoreError) : Unpublished (.error e) := fun _ _ h => nomatch h

theorem unpublished_exists : Unpublished (.ok .destinationExists) := fun _ _ h => nomatch h

/-- A save that has listed the directory again. -/
theorem moves_of_list (name : TemporaryName) {stage stage' : ListStage} {d' : Directory}
    (htends : d.Tends (fun _ => False) d')
    (hlisted : ∀ numbers, stage' = .listed (.ok numbers) →
      numbers = d.revisions.numbers ∧ d' = d) :
    Moves request process sequence d (listing name stage) d' (ofList request name stage') := by
  cases stage' with
  | listed result =>
    cases result with
    | error e => exact .abandons rfl (unpublished_error e) htends
    | ok numbers =>
      obtain ⟨rfl, rfl⟩ := hlisted numbers rfl
      unfold ofList
      dsimp only
      split
      · exact .discards (.inl rfl) rfl unpublished_exists htends
      · exact .compacts name stage
  | sweeping => exact .lists name htends trivial
  | inspecting rest removed overflow => exact .lists name htends trivial
  | removing temporary rest removed overflow => exact .lists name htends trivial
  | listing => exact .lists name htends trivial

theorem step_moves {stage : SaveStage} (hrunning : stage.Running) :
    Moves request process sequence d stage (stage.step request process sequence fault d).1
      (stage.step request process sequence fault d).2 := by
  have htends : d.Tends (fun _ => False) d := .refl d
  cases stage with
  | writing attempts =>
    unfold step
    dsimp only
    split
    · exact .abandons rfl (unpublished_error _) htends
    next htries =>
      have hlt : attempts < maxTemporaryFileAttempts := Nat.not_le.mp htries
      split
      · exact .discards (.inr ⟨decide_eq_true hlt, rfl⟩) rfl (unpublished_error _) htends
      · split
        · exact .retries attempts hlt
        · exact .creates attempts hlt
  | filling name =>
    unfold step
    dsimp only
    split
    · exact .discards (.inl rfl) rfl (unpublished_error _) htends
    · exact .fills name
  | listing name stage =>
    refine moves_of_list name stage.step_tends fun numbers hlisted => ?_
    exact ListStage.listed_of_step hrunning hlisted
  | compacting name rest changed =>
    cases rest with
    | nil =>
      unfold step
      dsimp only
      split
      · exact .discards (.inl rfl) rfl (unpublished_error _) htends
      · exact .prepares name changed
    | cons x rest =>
      unfold step
      dsimp only
      split
      · exact .discards (.inl rfl) rfl (unpublished_error _) htends
      · exact .erases name x rest changed
  | linking name =>
    unfold step
    dsimp only
    split
    · exact .doubts name
    · cases hbytes : d.temporary? name with
      | none => exact .doubts name
      | some bytes =>
        dsimp only
        by_cases hpositive : 0 < request.revision
        · rw [dif_pos hpositive]
          cases hcreate : d.revisions.create request.revision bytes hpositive with
          | none => exact .discards (.inl rfl) rfl unpublished_exists htends
          | some revisions => exact .publishes name hpositive hbytes hcreate
        · rw [dif_neg hpositive]
          exact .doubts name
  | rechecking name =>
    unfold step
    dsimp only
    split
    · exact .discards (.inl rfl) rfl unpublished_exists htends
    · exact .discards (.inl rfl) rfl (unpublished_error _) htends
  | published name =>
    unfold step
    dsimp only
    split
    · exact .synchronises name htends
    · exact .synchronises name (.remove d name)
  | syncing => exact .confirms _
  | discarding name outcome =>
    unfold step
    dsimp only
    split
    · exact .abandons rfl hrunning htends
    · exact .abandons rfl hrunning (.remove d name)
  | saved outcome => exact absurd hrunning id

/-- How far a call must fall behind before its number is free again. -/
def slack : Nat := 62

theorem slack_le_of_precompacted {v : Versions (List UInt8)} {protectedSource : Option Nat} {x : Nat}
    (h : x ∈ precompactProfileRevisions v.numbers protectedSource) :
    x + slack ≤ v.top ∧ some x ≠ protectedSource := by
  unfold precompactProfileRevisions at h
  obtain ⟨hdrop, hspared⟩ := List.mem_filter.mp h
  refine ⟨?_, of_decide_eq_true hspared⟩
  have hbound := v.add_le_top_of_mem_drop hdrop
  unfold slack
  unfold profileRevisionRetention at hbound
  split at hbound <;> omega

/-- What holds of a save at any stage. -/
structure Ok (request : SaveRequest) (process sequence : Nat) (d : Directory) (stage : SaveStage) :
    Prop where
  running : stage.Running
  named : ∀ name, stage.name? = some name → name.process = process ∧ name.sequence < sequence
  filled : stage.isFilled = true → ∀ name, stage.name? = some name →
    ∀ bytes, d.temporary? name = some bytes → bytes = request.bytes
  below : ∀ x ∈ stage.removals, x + slack ≤ d.revisions.top
  spared : ∀ x ∈ stage.removals, some x ≠ request.protectedSource

/-- What others do does not hurt: they keep the head, and leave the temporary as it is. -/
theorem Ok.undisturbed {stage : SaveStage} {d' : Directory} {sequence' : Nat}
    (h : Ok request process sequence d stage) (hsequence : sequence ≤ sequence')
    (htop : d.revisions.top ≤ d'.revisions.top)
    (htemporary : ∀ name, stage.name? = some name → ∀ bytes, d'.temporary? name = some bytes →
      d.temporary? name = some bytes) : Ok request process sequence' d' stage where
  running := h.running
  named name hname :=
    ⟨(h.named name hname).1, Nat.lt_of_lt_of_le (h.named name hname).2 hsequence⟩
  filled hfilled name hname bytes hbytes :=
    h.filled hfilled name hname bytes (htemporary name hname bytes hbytes)
  below x hx := Nat.le_trans (h.below x hx) htop
  spared := h.spared

/-- A stage without a full temporary and without removals. -/
theorem Ok.plain {stage : SaveStage} (hrunning : stage.Running) (hfilled : stage.isFilled = false)
    (hremovals : stage.removals = [])
    (hnamed : ∀ name, stage.name? = some name → name.process = process ∧ name.sequence < sequence) :
    Ok request process sequence d stage where
  running := hrunning
  named := hnamed
  filled htrue := by
    rw [hfilled] at htrue
    cases htrue
  below x hx := by
    rw [hremovals] at hx
    cases hx
  spared x hx := by
    rw [hremovals] at hx
    cases hx

/-- The number of the next temporary, after a step. -/
def nextSequence (stage : SaveStage) (sequence : Nat) : Nat :=
  if stage.isWriting then sequence + 1 else sequence

theorem name?_of_moves {stage stage' : SaveStage} {d' : Directory}
    (h : Moves request process sequence d stage d' stage') {name : TemporaryName}
    (hname : stage'.name? = some name) :
    stage.name? = some name ∨
      (stage.isWriting = true ∧ name = ⟨request.revision, process, sequence⟩) := by
  cases h with
  | retries => cases hname
  | creates attempts hlt =>
    cases hname
    exact .inr ⟨decide_eq_true hlt, rfl⟩
  | discards hstage =>
    cases hname
    exact hstage
  | synchronises => cases hname
  | confirms => cases hname
  | abandons => cases hname
  | fills => exact .inl hname
  | lists => exact .inl hname
  | compacts => exact .inl hname
  | erases => exact .inl hname
  | prepares => exact .inl hname
  | publishes => exact .inl hname
  | doubts => exact .inl hname

/-- What a step does to temporaries: none of another call's comes or changes. -/
theorem temporary?_of_moves {stage stage' : SaveStage} {d' : Directory}
    (h : Moves request process sequence d stage d' stage') {name : TemporaryName}
    (hother : stage.name? ≠ some name) (hfresh : name ≠ ⟨request.revision, process, sequence⟩)
    {bytes : List UInt8} (hbytes : d'.temporary? name = some bytes) :
    d.temporary? name = some bytes := by
  cases h with
  | creates =>
    rw [Directory.temporary?_createTemporary, if_neg hfresh] at hbytes
    exact hbytes
  | fills own =>
    rw [Directory.temporary?_fillTemporary, if_neg] at hbytes
    · exact hbytes
    · rintro rfl
      exact hother rfl
  | lists own htends => exact htends.temporaries name id bytes hbytes
  | discards hstage hlinked houtcome htends => exact htends.temporaries name id bytes hbytes
  | synchronises own htends => exact htends.temporaries name id bytes hbytes
  | abandons hlinked houtcome htends => exact htends.temporaries name id bytes hbytes
  | retries => exact hbytes
  | compacts => exact hbytes
  | erases => exact hbytes
  | prepares => exact hbytes
  | publishes => exact hbytes
  | doubts => exact hbytes
  | confirms => exact hbytes

theorem legacy_of_moves {stage stage' : SaveStage} {d' : Directory}
    (h : Moves request process sequence d stage d' stage') : d'.legacy = d.legacy := by
  cases h with
  | lists own htends => exact htends.legacy
  | discards hstage hlinked houtcome htends => exact htends.legacy
  | synchronises own htends => exact htends.legacy
  | abandons hlinked houtcome htends => exact htends.legacy
  | creates => rfl
  | fills => rfl
  | retries => rfl
  | compacts => rfl
  | erases => rfl
  | prepares => rfl
  | publishes => rfl
  | doubts => rfl
  | confirms => rfl

/-- What a step does to the revisions. -/
inductive Revises (request : SaveRequest) (d d' : Directory) (stage stage' : SaveStage) : Prop
  | keeps (hrevisions : d'.revisions = d.revisions) (hlinks : stage.links stage' = false)
  | erases (x : Nat) (hremoval : x ∈ stage.removals) (hrevisions : d'.revisions = d.revisions.erase x)
      (hlinks : stage.links stage' = false)
  | creates (name : TemporaryName) (bytes : List UInt8) (hpositive : 0 < request.revision)
      (hstage : stage = linking name) (hstage' : stage' = published name)
      (hbytes : d.temporary? name = some bytes)
      (hcreate : d.revisions.create request.revision bytes hpositive = some d'.revisions)

theorem revises_of_moves {stage stage' : SaveStage} {d' : Directory}
    (h : Moves request process sequence d stage d' stage') : Revises request d d' stage stage' := by
  cases h with
  | erases name x rest changed => exact .erases x List.mem_cons_self rfl rfl
  | publishes name hpositive hbytes hcreate =>
    exact .creates name _ hpositive rfl rfl hbytes hcreate
  | lists own htends => exact .keeps htends.revisions rfl
  | discards hstage hlinked houtcome htends =>
    refine .keeps htends.revisions ?_
    cases stage <;> rfl
  | synchronises own htends => exact .keeps htends.revisions rfl
  | abandons hlinked houtcome htends =>
    refine .keeps htends.revisions ?_
    cases stage <;> rfl
  | creates => exact .keeps rfl rfl
  | fills => exact .keeps rfl rfl
  | retries => exact .keeps rfl rfl
  | compacts => exact .keeps rfl rfl
  | prepares => exact .keeps rfl rfl
  | doubts => exact .keeps rfl rfl
  | confirms => exact .keeps rfl rfl

/-- A step goes on, or ends the save. -/
theorem running_of_moves {stage stage' : SaveStage} {d' : Directory}
    (h : Moves request process sequence d stage d' stage') :
    stage'.Running ∨ ∃ outcome, stage' = saved outcome := by
  cases h with
  | lists own htends hrunning => exact .inl hrunning
  | discards hstage hlinked houtcome => exact .inl houtcome
  | confirms durable => exact .inr ⟨_, rfl⟩
  | abandons => exact .inr ⟨_, rfl⟩
  | creates => exact .inl trivial
  | fills => exact .inl trivial
  | retries => exact .inl trivial
  | compacts => exact .inl trivial
  | erases => exact .inl trivial
  | prepares => exact .inl trivial
  | publishes => exact .inl trivial
  | doubts => exact .inl trivial
  | synchronises => exact .inl trivial

theorem Ok.moves {stage stage' : SaveStage} {d' : Directory}
    (hok : Ok request process sequence d stage)
    (h : Moves request process sequence d stage d' stage') (hrunning : stage'.Running) :
    Ok request process (stage.nextSequence sequence) d' stage' := by
  have hnamed : ∀ name, stage'.name? = some name →
      name.process = process ∧ name.sequence < stage.nextSequence sequence := by
    intro name hname
    unfold nextSequence
    rcases name?_of_moves h hname with hold | ⟨hwriting, rfl⟩
    · obtain ⟨hprocess, hlt⟩ := hok.named name hold
      exact ⟨hprocess, by split <;> omega⟩
    · rw [if_pos hwriting]
      exact ⟨rfl, Nat.lt_succ_self _⟩
  cases h with
  | retries => exact .plain hrunning rfl rfl hnamed
  | creates => exact .plain hrunning rfl rfl hnamed
  | doubts => exact .plain hrunning rfl rfl hnamed
  | publishes => exact .plain hrunning rfl rfl hnamed
  | discards => exact .plain hrunning rfl rfl hnamed
  | synchronises => exact .plain hrunning rfl rfl hnamed
  | confirms => exact absurd hrunning id
  | abandons => exact absurd hrunning id
  | fills name =>
    refine ⟨hrunning, hnamed, fun _ other hother bytes hbytes => ?_, nofun, nofun⟩
    obtain rfl : name = other := Option.some_inj.mp hother
    rw [Directory.temporary?_fillTemporary, if_pos rfl] at hbytes
    obtain ⟨_, -, rfl⟩ := Option.map_eq_some_iff.mp hbytes
    rfl
  | lists name htends =>
    refine ⟨hrunning, hnamed, fun _ other hother bytes hbytes => ?_, nofun, nofun⟩
    exact hok.filled rfl other hother bytes (htends.temporaries other id bytes hbytes)
  | compacts name stage =>
    refine ⟨hrunning, hnamed, fun _ => hok.filled rfl, fun x hx => ?_, fun x hx => ?_⟩
    · exact (slack_le_of_precompacted hx).1
    · exact (slack_le_of_precompacted hx).2
  | erases name x rest changed =>
    refine ⟨hrunning, hnamed, fun _ => hok.filled rfl, fun y hy => ?_, fun y hy => ?_⟩
    · -- what is removed is not the head
      have hx := hok.below x List.mem_cons_self
      have hne : x ≠ d.revisions.top := by
        unfold slack at hx
        omega
      have htop : (d.removeRevision x).revisions.top = d.revisions.top := Versions.top_erase hne
      rw [htop]
      exact hok.below y (List.mem_cons_of_mem _ hy)
    · exact hok.spared y (List.mem_cons_of_mem _ hy)
  | prepares name changed => exact ⟨hrunning, hnamed, fun _ => hok.filled rfl, nofun, nofun⟩

end SaveStage

/-! ## Calls -/

/-- A head that a call has seen: not below the first one, and not above the one there is. -/
def Seen (low : Nat) (d : Directory) (head : Option Nat) : Prop :=
  low < Versions.next head ∧ Versions.next head ≤ d.revisions.top + 1

theorem Seen.mono {low : Nat} {d d' : Directory} {head : Option Nat} (h : Seen low d head)
    (htop : d.revisions.top ≤ d'.revisions.top) : Seen low d' head :=
  ⟨h.1, Nat.le_trans h.2 (Nat.succ_le_succ htop)⟩

theorem nextRevision_eq_ok {head : Option Nat} {revision : Nat}
    (h : nextRevision head = .ok revision) : revision = Versions.next head := by
  unfold nextRevision at h
  cases head with
  | none =>
    cases h
    rfl
  | some n =>
    dsimp only at h
    split at h
    · cases h
      rfl
    · cases h

/-- What is asked of a save when it starts. -/
theorem SaveRequest.prepare_eq_ok {format : ProfileFormat P} {profile : P}
    {expectedHead protectedSource : Option Nat} {request : SaveRequest}
    (h : SaveRequest.prepare format profile expectedHead protectedSource = .ok request) :
    request.revision = Versions.next expectedHead ∧ request.expectedHead = expectedHead ∧
      request.protectedSource = protectedSource ∧
      request.bytes = format.serialize profile ++ [10] ∧
      request.bytes.length ≤ format.maximumBytes := by
  unfold prepare ProfileFormat.encode at h
  obtain ⟨revision, hrevision, h⟩ := bind_eq_ok h
  obtain ⟨bytes, hbytes, h⟩ := bind_eq_ok h
  obtain ⟨hlength, hbytes⟩ := check_bind.mp hbytes
  cases hbytes
  cases h
  exact ⟨nextRevision_eq_ok hrevision, rfl, rfl, rfl, hlength⟩

namespace TransactionStage

def name? : TransactionStage P V → Option TemporaryName
  | saving _ _ _ _ _ stage => stage.name?
  | _ => none

/-- What holds of a call at any stage. -/
def Ok (low process sequence : Nat) (d : Directory) : TransactionStage P V → Prop
  | loading _ (.listing stage) => stage.Running
  | loading _ (.reading _ progress) => Seen low d progress.head
  | loading _ (.loaded _) => False
  | saving _ _ _ _ request stage =>
    stage.Ok request process sequence d ∧ Seen low d request.expectedHead ∧
      request.revision = Versions.next request.expectedHead
  | confirming .. => True
  | finished _ => True

variable {low process sequence sequence' : Nat} {d d' : Directory} {stage : TransactionStage P V}

theorem Ok.undisturbed (h : stage.Ok low process sequence d) (hsequence : sequence ≤ sequence')
    (htop : d.revisions.top ≤ d'.revisions.top)
    (htemporary : ∀ name, stage.name? = some name → ∀ bytes, d'.temporary? name = some bytes →
      d.temporary? name = some bytes) : stage.Ok low process sequence' d' := by
  cases stage with
  | loading attempt stage =>
    cases stage with
    | listing stage => exact h
    | reading rest progress => exact Seen.mono h htop
    | loaded result => exact h
  | saving attempt snapshot value profile request stage =>
    obtain ⟨hsave, hseen, hrevision⟩ := h
    exact ⟨hsave.undisturbed hsequence htop htemporary, hseen.mono htop, hrevision⟩
  | confirming => trivial
  | finished => trivial

/-- The temporary of a call is one of its process, made earlier. -/
theorem Ok.named (h : stage.Ok low process sequence d) {name : TemporaryName}
    (hname : stage.name? = some name) : name.process = process ∧ name.sequence < sequence := by
  cases stage with
  | saving attempt snapshot value profile request stage => exact h.1.named name hname
  | loading => cases hname
  | confirming => cases hname
  | finished => cases hname

theorem Ok.running_load {attempt : Nat} {stage : LoadStage P}
    (h : (loading attempt stage : TransactionStage P V).Ok low process sequence d) :
    stage.Running := by
  cases stage with
  | listing stage => exact h
  | reading rest progress => trivial
  | loaded result => exact h

theorem ok_retry (attempt : Nat) :
    (retry attempt : TransactionStage P V).Ok low process sequence d := by
  unfold retry
  split
  · exact trivial
  · exact trivial

theorem ofSave_of_running (attempt : Nat) (snapshot : Snapshot P) (value : V) (profile : P)
    (request : SaveRequest) {stage : SaveStage} (h : stage.Running) :
    ofSave attempt snapshot value profile request stage =
      saving attempt snapshot value profile request stage := by
  cases stage with
  | saved outcome => exact absurd h id
  | writing => rfl
  | filling => rfl
  | listing => rfl
  | compacting => rfl
  | linking => rfl
  | rechecking => rfl
  | published => rfl
  | syncing => rfl
  | discarding => rfl

/-- A call whose load is over: it has failed, or it has an answer to its snapshot. -/
theorem ofLoad_loaded {format : ProfileFormat P} {call : ProfileCall P V} {attempt : Nat}
    {snapshot : Snapshot P} :
    ofLoad format call attempt (.loaded (.ok snapshot)) =
      match call.transaction attempt snapshot.profile snapshot.revision with
      | .unchanged value => .confirming value snapshot
      | .failed value => .finished (.rejected value)
      | .changed value profile =>
        match SaveRequest.prepare format profile snapshot.headRevision snapshot.revision with
        | .error e => .finished (.failed e)
        | .ok request => .saving attempt snapshot value profile request (.writing 0) := rfl

/-- What a load step leads to. -/
theorem ok_ofLoad {format : ProfileFormat P} {call : ProfileCall P V} {attempt : Nat}
    {snapshot : Snapshot P} (hseen : Seen low d snapshot.headRevision) :
    (ofLoad format call attempt (.loaded (.ok snapshot))).Ok low process sequence d := by
  rw [ofLoad_loaded]
  cases call.transaction attempt snapshot.profile snapshot.revision with
  | unchanged value => trivial
  | failed value => trivial
  | changed value profile =>
    dsimp only
    cases hprepare : SaveRequest.prepare format profile snapshot.headRevision snapshot.revision with
    | error e => trivial
    | ok request =>
      obtain ⟨hrevision, hhead, -⟩ := SaveRequest.prepare_eq_ok hprepare
      have hstart : (SaveStage.writing 0).Ok request process sequence d :=
        SaveStage.Ok.plain trivial rfl rfl nofun
      rw [← hhead] at hrevision hseen
      exact ⟨hstart, hseen, hrevision⟩

end TransactionStage

/-- What a load may do in one step. -/
inductive LoadStage.Moves (format : ProfileFormat P) (d : Directory) :
    LoadStage P → Directory → LoadStage P → Prop
  | lists {stage stage' : ListStage} {d' : Directory} : d.Tends (fun _ => False) d' →
      stage'.Running → Moves format d (.listing stage) d' (.listing stage')
  | fails {stage : LoadStage P} {d' : Directory} (e : ProfileStoreError) :
      d.Tends (fun _ => False) d' → Moves format d stage d' (.loaded (.error e))
  | begins (stage : ListStage) : Moves format d (.listing stage) d
      (.reading d.revisions.numbers (.start d.revisions.numbers))
  | passes (revision : Nat) (rest : List Nat) (progress : ProfileFormat.LoadProgress)
      {e : ProfileStoreError} : format.readRevision d revision = .error e → e.isCorruption = true →
      Moves format d (.reading (revision :: rest) progress) d
        (.reading rest (progress.pass revision e))
  | finds (revision : Nat) (rest : List Nat) (progress : ProfileFormat.LoadProgress) {profile : P} :
      format.readRevision d revision = .ok profile →
      Moves format d (.reading (revision :: rest) progress) d
        (.loaded (.ok ⟨profile, some revision, progress.head, progress.recovered⟩))
  | fallsBack (progress : ProfileFormat.LoadProgress) :
      Moves format d (.reading [] progress) d (.loaded (format.readLegacy d progress))

theorem LoadStage.step_moves (format : ProfileFormat P) {fault : Bool} {d : Directory}
    {stage : LoadStage P} (hrunning : stage.Running) :
    Moves format d stage (stage.step format fault d).1 (stage.step format fault d).2 := by
  cases stage with
  | listing stage =>
    have hlisted : ∀ numbers, (stage.step fault d).2 = .listed (.ok numbers) →
        numbers = d.revisions.numbers ∧ (stage.step fault d).1 = d :=
      fun numbers => ListStage.listed_of_step hrunning
    have htends : d.Tends (fun _ => False) (stage.step fault d).1 := stage.step_tends
    unfold step
    dsimp only
    generalize (stage.step fault d).1 = d', (stage.step fault d).2 = stage' at hlisted htends
    cases stage' with
    | listed result =>
      cases result with
      | error e => exact .fails e htends
      | ok numbers =>
        obtain ⟨rfl, rfl⟩ := hlisted numbers rfl
        exact .begins stage
    | sweeping => exact .lists htends trivial
    | inspecting => exact .lists htends trivial
    | removing => exact .lists htends trivial
    | listing => exact .lists htends trivial
  | reading rest progress =>
    unfold step
    dsimp only
    by_cases hfault : fault = true
    · rw [if_pos hfault]
      exact .fails _ (.refl d)
    · rw [if_neg hfault]
      cases rest with
      | nil => exact .fallsBack progress
      | cons revision rest =>
        dsimp only
        cases hread : format.readRevision d revision with
        | ok profile => exact .finds revision rest progress hread
        | error e =>
          dsimp only
          by_cases hcorrupt : e.isCorruption = true
          · rw [if_pos hcorrupt]
            exact .passes revision rest progress hread hcorrupt
          · rw [if_neg hcorrupt]
            exact .fails e (.refl d)
  | loaded result => exact absurd hrunning id

/-! ## Turns keep the calls in order -/

namespace TransactionStage

/-- What a turn does to the directory, for a call at this stage. -/
inductive Changes (d d' : Directory) (stage stage' : TransactionStage P V) : Prop
  | keeps (hrevisions : d'.revisions = d.revisions) (hnone : publication d stage stage' = none)
  | erases (attempt : Nat) (snapshot : Snapshot P) (value : V) (profile : P) (request : SaveRequest)
      (save : SaveStage) (hstage : stage = saving attempt snapshot value profile request save)
      (x : Nat) (hremoval : x ∈ save.removals) (hrevisions : d'.revisions = d.revisions.erase x)
      (hnone : publication d stage stage' = none)
  | creates (attempt : Nat) (snapshot : Snapshot P) (value : V) (profile : P)
      (request : SaveRequest) (name : TemporaryName) (bytes : List UInt8)
      (hpositive : 0 < request.revision)
      (hstage : stage = saving attempt snapshot value profile request (.linking name))
      (hstage' : stage' = saving attempt snapshot value profile request (.published name))
      (hbytes : d.temporary? name = some bytes)
      (hcreate : d.revisions.create request.revision bytes hpositive = some d'.revisions)

/-- What a turn keeps, and what it does. -/
structure Turned (low process sequence : Nat) (d d' : Directory)
    (stage stage' : TransactionStage P V) : Prop where
  changes : Changes d d' stage stage'
  head : d.revisions.top ≤ d'.revisions.top
  legacy : d'.legacy = d.legacy
  ok : stage'.Ok low process (if stage.isWriting then sequence + 1 else sequence) d'
  names : ∀ name, stage'.name? = some name → stage.name? = some name ∨
    (stage.isWriting = true ∧ name.process = process ∧ name.sequence = sequence)
  temporaries : ∀ name, stage.name? ≠ some name →
    ¬ (name.process = process ∧ name.sequence = sequence) →
    ∀ bytes, d'.temporary? name = some bytes → d.temporary? name = some bytes

variable {low process sequence : Nat} {d d' : Directory} {format : ProfileFormat P}
  {call : ProfileCall P V} {fault : Bool}

theorem name?_ofLoad (attempt : Nat) (stage : LoadStage P) :
    (ofLoad format call attempt stage).name? = none := by
  cases stage with
  | listing => rfl
  | reading => rfl
  | loaded result =>
    cases result with
    | error e => rfl
    | ok snapshot =>
      rw [ofLoad_loaded]
      cases call.transaction attempt snapshot.profile snapshot.revision with
      | unchanged => rfl
      | failed => rfl
      | changed value profile =>
        dsimp only
        cases SaveRequest.prepare format profile snapshot.headRevision snapshot.revision <;> rfl

/-- A turn of a load. -/
theorem turned_loading (attempt : Nat) {stage : LoadStage P}
    (htends : d.Tends (fun _ => False) d') {stage' : LoadStage P}
    (hok : (ofLoad format call attempt stage').Ok low process sequence d') :
    Turned low process sequence d d' (loading attempt stage) (ofLoad format call attempt stage') where
  changes := .keeps htends.revisions rfl
  head := Nat.le_of_eq (by rw [htends.revisions])
  legacy := htends.legacy
  ok := hok
  names name hname := by
    rw [name?_ofLoad] at hname
    cases hname
  temporaries name _ _ bytes hbytes := htends.temporaries name id bytes hbytes

theorem headRevision_readLegacy {progress : ProfileFormat.LoadProgress} {snapshot : Snapshot P}
    (h : format.readLegacy d progress = .ok snapshot) : snapshot.headRevision = progress.head := by
  unfold ProfileFormat.readLegacy at h
  cases hlegacy : d.legacy with
  | some bytes =>
    rw [hlegacy] at h
    obtain ⟨profile, -, h⟩ := bind_eq_ok h
    cases h
    rfl
  | none =>
    rw [hlegacy] at h
    dsimp only at h
    split at h
    · cases h
    · cases h
      rfl

theorem turned_of_loading {attempt : Nat} {stage : LoadStage P} (hlow : low ≤ d.revisions.top)
    (hok : (loading attempt stage : TransactionStage P V).Ok low process sequence d) :
    Turned low process sequence d (stage.step format fault d).1 (loading attempt stage)
      (ofLoad format call attempt (stage.step format fault d).2) := by
  have hrunning := hok.running_load
  refine turned_loading attempt (stage.step_tends format) ?_
  have hmoves : LoadStage.Moves format d stage (stage.step format fault d).1
      (stage.step format fault d).2 := stage.step_moves format hrunning
  generalize (stage.step format fault d).1 = d', (stage.step format fault d).2 = stage' at hmoves
  cases hmoves with
  | lists htends hrunning' => exact hrunning'
  | fails e htends => trivial
  | begins stage =>
    -- the head is the one there is
    refine ⟨?_, ?_⟩
    · show low < Versions.next d.revisions.newest
      rw [Versions.next_newest]
      omega
    · exact Nat.le_of_eq (Versions.next_newest _)
  | passes revision rest progress => exact hok
  | finds revision rest progress => exact ok_ofLoad hok
  | fallsBack progress =>
    cases hlegacy : format.readLegacy d progress with
    | error e => trivial
    | ok snapshot =>
      refine ok_ofLoad ?_
      rw [headRevision_readLegacy hlegacy]
      exact hok

theorem publication_of_not_saving {stage stage' : TransactionStage P V}
    (h : stage'.isSaving = false) : publication d stage stage' = none := by
  cases stage' with
  | saving => cases h
  | loading => cases stage <;> rfl
  | confirming => cases stage <;> rfl
  | finished => cases stage <;> rfl

theorem name?_of_not_saving {stage : TransactionStage P V} (h : stage.isSaving = false) :
    stage.name? = none := by
  cases stage with
  | saving => cases h
  | loading => rfl
  | confirming => rfl
  | finished => rfl

theorem isSaving_retry (attempt : Nat) :
    (retry attempt : TransactionStage P V).isSaving = false := by
  unfold retry
  split <;> rfl

theorem publication_saving {attempt attempt' : Nat} {snapshot snapshot' : Snapshot P} {value value' : V}
    {profile profile' : P} {request request' : SaveRequest} {stage stage' : SaveStage}
    (h : stage.links stage' = false) :
    publication d (saving attempt snapshot value profile request stage)
      (saving attempt' snapshot' value' profile' request' stage') = none := by
  unfold publication
  dsimp only
  rw [h]
  rfl

theorem turned_of_saving {attempt : Nat} {snapshot : Snapshot P} {value : V} {profile : P}
    {request : SaveRequest} {stage : SaveStage}
    (hok : (saving attempt snapshot value profile request stage).Ok low process sequence d) :
    Turned low process sequence d (stage.step request process sequence fault d).1
      (saving attempt snapshot value profile request stage)
      (ofSave attempt snapshot value profile request
        (stage.step request process sequence fault d).2) := by
  obtain ⟨hsave, hseen, hrevision⟩ := hok
  have hmoves : SaveStage.Moves request process sequence d stage
      (stage.step request process sequence fault d).1
      (stage.step request process sequence fault d).2 := SaveStage.step_moves hsave.running
  generalize (stage.step request process sequence fault d).1 = d',
    (stage.step request process sequence fault d).2 = stage' at hmoves
  have hrevises := SaveStage.revises_of_moves hmoves
  have htemporaries : ∀ name,
      (saving attempt snapshot value profile request stage).name? ≠ some name →
      ¬ (name.process = process ∧ name.sequence = sequence) →
      ∀ bytes, d'.temporary? name = some bytes → d.temporary? name = some bytes := by
    intro name hother hfresh bytes hbytes
    refine SaveStage.temporary?_of_moves hmoves hother ?_ hbytes
    rintro rfl
    exact hfresh ⟨rfl, rfl⟩
  have htop : d.revisions.top ≤ d'.revisions.top := by
    cases hrevises with
    | keeps hrevisions => exact Nat.le_of_eq (by rw [hrevisions])
    | erases x hremoval hrevisions =>
      have hbelow := hsave.below x hremoval
      unfold SaveStage.slack at hbelow
      exact Nat.le_of_eq (by rw [hrevisions, Versions.top_erase (by omega)])
    | creates name bytes hpositive hstage hstage' hbytes hcreate =>
      by_cases hempty : d.revisions.numbers = []
      · have hzero : d.revisions.top = 0 := by
          unfold Versions.top Versions.newest
          rw [hempty]
          rfl
        omega
      · exact Versions.le_top ((Versions.mem_create hcreate).mpr
          (.inr (Versions.top_mem hempty)))
  rcases SaveStage.running_of_moves hmoves with hrunning | ⟨outcome, rfl⟩
  · rw [ofSave_of_running _ _ _ _ _ hrunning]
    refine ⟨?_, htop, SaveStage.legacy_of_moves hmoves, ⟨?_, hseen.mono htop, hrevision⟩, ?_,
      htemporaries⟩
    · cases hrevises with
      | keeps hrevisions hlinks => exact .keeps hrevisions (publication_saving hlinks)
      | erases x hremoval hrevisions hlinks =>
        exact .erases _ _ _ _ _ _ rfl x hremoval hrevisions (publication_saving hlinks)
      | creates name bytes hpositive hstage hstage' hbytes hcreate =>
        subst hstage hstage'
        exact .creates _ _ _ _ _ name bytes hpositive rfl rfl hbytes hcreate
    · exact hsave.moves hmoves hrunning
    · intro name hname
      rcases SaveStage.name?_of_moves hmoves hname with hold | ⟨hwriting, rfl⟩
      · exact .inl hold
      · exact .inr ⟨hwriting, rfl, rfl⟩
  · -- The save is head, and names no temporary any more.
    have hended : ∀ stage' : TransactionStage P V, stage'.isSaving = false →
        (∀ sequence, stage'.Ok low process sequence d') →
        Turned low process sequence d d' (saving attempt snapshot value profile request stage)
          stage' := by
      intro stage' hnot hok'
      refine ⟨?_, htop, SaveStage.legacy_of_moves hmoves, hok' _, ?_, htemporaries⟩
      · have hnone : publication d (saving attempt snapshot value profile request stage) stage' =
            none := publication_of_not_saving hnot
        cases hrevises with
        | keeps hrevisions => exact .keeps hrevisions hnone
        | erases x hremoval hrevisions =>
          exact .erases _ _ _ _ _ _ rfl x hremoval hrevisions hnone
        | creates name bytes hpositive hstage hstage' => cases hstage'
      · intro name hsome
        rw [name?_of_not_saving hnot] at hsome
        cases hsome
    match outcome with
    | .error e => exact hended _ rfl fun _ => trivial
    | .ok (.published revision true) => exact hended _ rfl fun _ => trivial
    | .ok (.published revision false) => exact hended _ rfl fun _ => trivial
    | .ok .destinationExists => exact hended _ (isSaving_retry attempt) fun _ => ok_retry attempt

theorem turned {stage : TransactionStage P V} (hlow : low ≤ d.revisions.top)
    (hok : stage.Ok low process sequence d) :
    Turned low process sequence d (stage.step format call process sequence fault d).1 stage
      (stage.step format call process sequence fault d).2 := by
  cases stage with
  | loading attempt stage => exact turned_of_loading hlow hok
  | saving attempt snapshot value profile request stage => exact turned_of_saving hok
  | confirming value snapshot =>
    unfold step
    dsimp only
    split
    · exact ⟨.keeps rfl rfl, Nat.le_refl _, rfl, trivial, nofun, fun _ _ _ _ h => h⟩
    · exact ⟨.keeps rfl rfl, Nat.le_refl _, rfl, trivial, nofun, fun _ _ _ _ h => h⟩
  | finished report => exact ⟨.keeps rfl rfl, Nat.le_refl _, rfl, trivial, nofun, fun _ _ _ _ h => h⟩

/-- Only a link publishes. -/
theorem Changes.publishes {stage stage' : TransactionStage P V} {p : Publication P}
    (h : Changes d d' stage stage') (hp : publication d stage stage' = some p) :
    ∃ attempt snapshot value profile request name bytes, ∃ hpositive : 0 < request.revision,
      stage = saving attempt snapshot value profile request (.linking name) ∧
      stage' = saving attempt snapshot value profile request (.published name) ∧
      p = ⟨request.revision, d.revisions.top, snapshot.profile, profile⟩ ∧
      d.temporary? name = some bytes ∧
      d.revisions.create request.revision bytes hpositive = some d'.revisions := by
  cases h with
  | keeps hrevisions hnone =>
    rw [hnone] at hp
    cases hp
  | erases attempt snapshot value profile request save hstage x hremoval hrevisions hnone =>
    rw [hnone] at hp
    cases hp
  | creates attempt snapshot value profile request name bytes hpositive hstage hstage' hbytes hcreate =>
    subst hstage hstage'
    cases hp
    exact ⟨attempt, snapshot, value, profile, request, name, bytes, hpositive, rfl, rfl, rfl, hbytes,
      hcreate⟩

end TransactionStage

end P4475.Profile
