import Mathlib.Logic.Function.Basic
import P4475.Lib.Machine
import P4475.Profile.StoreSteps

/-!
# The profile store under interleaving

Any number of calls of any number of processes share one directory, and a turn is one step of one
of them. A call that gets no more turns has crashed. The head of the revisions never goes back, and a
revision is published right above it, unless its call has slept through some sixty others: only then
can its number, long since used and compacted away, be free again. A call publishes at most once, and
when it is over its report says whether it has: a committed call has published the profile it reports,
made by its closure of the one it had loaded; an unchanged, rejected or failed call has published
nothing.
-/

namespace P4475.Profile

open Lib

variable {P V : Type}

/-! ## Turns -/

/-- The calls, and the process of each. -/
structure Clients (P V : Type) where
  calls : Nat → ProfileCall P V
  process : Nat → Nat

structure Store (P V : Type) where
  directory : Directory
  /-- `TEMPORARY_FILE_SEQUENCE` of each process. -/
  sequences : Nat → Nat
  stages : Nat → TransactionStage P V

namespace Store

variable (format : ProfileFormat P) (clients : Clients P V)

/-- One step of call `i`. -/
def turn (s : Store P V) (i : Nat) (fault : Bool) : Option (Publication P) × Store P V :=
  let process := clients.process i
  let stage := s.stages i
  let next := stage.step format (clients.calls i) process (s.sequences process) fault s.directory
  (stage.publication s.directory next.2,
    { directory := next.1
      sequences :=
        if stage.isWriting then Function.update s.sequences process (s.sequences process + 1)
        else s.sequences
      stages := Function.update s.stages i next.2 })

/-- The store over a directory, with every call before its first step. -/
def machine (d : Directory) : Machine (Store P V) (Nat × Bool) (Option (Publication P)) where
  init := ⟨d, fun _ => 0, fun _ => .start⟩
  step s turn := some (s.turn format clients turn.1 turn.2)

end Store

/-! ## Whole histories -/

namespace Store

/-- What holds of the store at any time, `low` being the head it began with. -/
structure Ok (clients : Clients P V) (low : Nat) (s : Store P V) : Prop where
  stages : ∀ i, (s.stages i).Ok low (clients.process i) (s.sequences (clients.process i)) s.directory
  /-- No two calls have the same temporary. -/
  apart : ∀ i j, i ≠ j → ∀ name, (s.stages i).name? = some name → (s.stages j).name? ≠ some name
  low_le : low ≤ s.directory.revisions.top
  /-- A number that is free again is far behind. -/
  taken : ∀ n, low < n → n ≤ s.directory.revisions.top →
    n ∈ s.directory.revisions.numbers ∨ n + SaveStage.slack ≤ s.directory.revisions.top

variable {format : ProfileFormat P} {clients : Clients P V} {low : Nat} {s : Store P V}

theorem ok_start (d : Directory) :
    Ok clients d.revisions.top ⟨d, fun _ => 0, fun _ => (.start : TransactionStage P V)⟩ where
  stages _ := trivial
  apart _ _ _ _ h := nomatch h
  low_le := Nat.le_refl _
  taken _ hlow htop := absurd hlow (Nat.not_lt.mpr htop)

/-- What a turn of a call does to the store. -/
theorem turned (hok : s.Ok clients low) (i : Nat) (fault : Bool) :
    TransactionStage.Turned low (clients.process i) (s.sequences (clients.process i)) s.directory
      (s.turn format clients i fault).2.directory (s.stages i)
      ((s.turn format clients i fault).2.stages i) := by
  have h := @TransactionStage.turned P V low _ _ _ format (clients.calls i) fault _ hok.low_le
    (hok.stages i)
  unfold turn
  dsimp only
  rw [Function.update_self]
  exact h

theorem publication_turn (s : Store P V) (i : Nat) (fault : Bool) :
    (s.turn format clients i fault).1 =
      (s.stages i).publication s.directory ((s.turn format clients i fault).2.stages i) := by
  unfold turn
  dsimp only
  rw [Function.update_self]

/-- A turn publishes by linking the full temporary of its call. -/
theorem publishes_of_turn (hok : s.Ok clients low) (i : Nat) (fault : Bool) {p : Publication P}
    (hp : (s.turn format clients i fault).1 = some p) :
    ∃ attempt snapshot value profile request name bytes, ∃ hpositive : 0 < request.revision,
      s.stages i = .saving attempt snapshot value profile request (.linking name) ∧
      (s.turn format clients i fault).2.stages i =
        .saving attempt snapshot value profile request (.published name) ∧
      p = ⟨request.revision, s.directory.revisions.top, snapshot.profile, profile⟩ ∧
      s.directory.temporary? name = some bytes ∧
      s.directory.revisions.create request.revision bytes hpositive =
        some (s.turn format clients i fault).2.directory.revisions := by
  rw [publication_turn] at hp
  exact (turned hok i fault).changes.publishes hp

/-- The number a call publishes under: free, and no more than one above the head. -/
theorem Ok.linking (hok : s.Ok clients low) {i attempt : Nat} {snapshot : Snapshot P} {value : V}
    {profile : P} {request : SaveRequest} {name : TemporaryName}
    (hstage : s.stages i = .saving attempt snapshot value profile request (.linking name)) :
    low < request.revision ∧ request.revision ≤ s.directory.revisions.top + 1 := by
  have hcall := hok.stages i
  rw [hstage] at hcall
  obtain ⟨-, ⟨hlow, htop⟩, hrevision⟩ := hcall
  rw [hrevision]
  exact ⟨hlow, htop⟩

/-- A number that is free again is far behind, whatever a call does. -/
theorem taken_turn (hok : s.Ok clients low) (i : Nat) (fault : Bool) {n : Nat} (hlow : low < n)
    (htop : n ≤ (s.turn format clients i fault).2.directory.revisions.top) :
    n ∈ (s.turn format clients i fault).2.directory.revisions.numbers ∨
      n + SaveStage.slack ≤ (s.turn format clients i fault).2.directory.revisions.top := by
  cases (turned hok i fault).changes with
  | keeps hrevisions =>
    rw [hrevisions] at htop ⊢
    exact hok.taken n hlow htop
  | erases attempt snapshot value profile request save hstage x hremoval hrevisions =>
    have hcall := hok.stages i
    rw [hstage] at hcall
    have hbelow := hcall.1.below x hremoval
    have hkept : (s.directory.revisions.erase x).top = s.directory.revisions.top := by
      refine Versions.top_erase ?_
      unfold SaveStage.slack at hbelow
      omega
    rw [hrevisions, hkept] at htop ⊢
    by_cases hn : n = x
    · -- what is removed is far behind
      rw [hn]
      exact .inr hbelow
    · rcases hok.taken n hlow htop with hmem | hfar
      · exact .inl (Versions.mem_erase.mpr ⟨hmem, hn⟩)
      · exact .inr hfar
  | creates attempt snapshot value profile request name bytes hpositive hstage hstage' hbytes hcreate =>
    obtain ⟨-, hnext⟩ := hok.linking hstage
    have hold : n ≤ s.directory.revisions.top →
        n ∈ s.directory.revisions.numbers ∨
          n + SaveStage.slack ≤ s.directory.revisions.top := hok.taken n hlow
    rw [Versions.mem_create hcreate]
    by_cases hover : s.directory.revisions.top < request.revision
    · -- the new number is right above the head
      rw [Versions.top_create hcreate hover] at htop ⊢
      by_cases hn : n = request.revision
      · exact .inl (.inl hn)
      · rcases hold (by omega) with hmem | hfar
        · exact .inl (.inr hmem)
        · exact .inr (by omega)
    · rw [Versions.top_create_of_le hcreate (Nat.not_lt.mp hover)] at htop ⊢
      rcases hold htop with hmem | hfar
      · exact .inl (.inr hmem)
      · exact .inr hfar

/-- Every turn keeps the store in order. -/
theorem ok_turn (hok : s.Ok clients low) (i : Nat) (fault : Bool) :
    (s.turn format clients i fault).2.Ok clients low := by
  have hturned := @turned _ _ format _ _ _ hok i fault
  have hsequences : ∀ process, s.sequences process ≤
      (s.turn format clients i fault).2.sequences process := by
    intro process
    unfold turn
    dsimp only
    split
    · by_cases hprocess : process = clients.process i
      · rw [hprocess, Function.update_self]
        omega
      · exact Nat.le_of_eq (Function.update_of_ne hprocess _ _).symm
    · exact Nat.le_refl _
  have hothers : ∀ j, j ≠ i → (s.turn format clients i fault).2.stages j = s.stages j :=
    fun j hj => Function.update_of_ne hj _ _
  have hnames : ∀ j, j ≠ i → ∀ name, (s.stages j).name? = some name →
      (s.stages i).name? ≠ some name ∧
        ¬ (name.process = clients.process i ∧ name.sequence = s.sequences (clients.process i)) := by
    intro j hj name hname
    refine ⟨hok.apart j i hj name hname, ?_⟩
    -- the names of a process are of sequence numbers it has used up
    rintro ⟨hprocess, hsequence⟩
    have hnamed : name.process = clients.process j ∧
        name.sequence < s.sequences (clients.process j) := (hok.stages j).named hname
    rw [← hnamed.1, hprocess] at hnamed
    omega
  refine ⟨fun j => ?_, fun j k hjk name hj hk => ?_, ?_, fun n => taken_turn hok i fault⟩
  · by_cases hj : j = i
    · rw [hj]
      have hsequence : (s.turn format clients i fault).2.sequences (clients.process i) =
          if (s.stages i).isWriting then s.sequences (clients.process i) + 1
          else s.sequences (clients.process i) := by
        unfold turn
        dsimp only
        split
        · rw [Function.update_self]
        · rfl
      rw [hsequence]
      exact hturned.ok
    · rw [hothers j hj]
      refine (hok.stages j).undisturbed (hsequences _) hturned.head fun name hname bytes hbytes => ?_
      obtain ⟨hname', hfresh⟩ := hnames j hj name hname
      exact hturned.temporaries name hname' hfresh bytes hbytes
  · by_cases hj' : j = i
    · subst hj'
      rw [hothers k (Ne.symm hjk)] at hk
      obtain ⟨hold, hfresh⟩ := hnames k (Ne.symm hjk) name hk
      rcases hturned.names name hj with hbefore | ⟨-, hfresh'⟩
      · exact hold hbefore
      · exact hfresh hfresh'
    · rw [hothers j hj'] at hj
      by_cases hk' : k = i
      · subst hk'
        obtain ⟨hold, hfresh⟩ := hnames j hj' name hj
        rcases hturned.names name hk with hbefore | ⟨-, hfresh'⟩
        · exact hold hbefore
        · exact hfresh hfresh'
      · rw [hothers k hk'] at hk
        exact hok.apart j k hjk name hj hk
  · exact Nat.le_trans hok.low_le hturned.head

theorem ok_of_history {d : Directory} {tr : List ((Nat × Bool) × Option (Publication P))}
    (h : (machine format clients d).History tr s) : s.Ok clients d.revisions.top := by
  refine h.reachable.invariant (ok_start d) fun {s s' turn r} hok hs => ?_
  cases hs
  exact ok_turn hok turn.1 turn.2

/-- What a turn publishes is right above the head, or its number was long since used. -/
theorem over_of_turn (hok : s.Ok clients low) (i : Nat) (fault : Bool) {p : Publication P}
    (hp : (s.turn format clients i fault).1 = some p) :
    p.head = s.directory.revisions.top ∧
      (p.revision = p.head + 1 ∨ p.revision + SaveStage.slack ≤ p.head) := by
  obtain ⟨attempt, snapshot, value, profile, request, name, bytes, hpositive, hstage, -, rfl, -,
    hcreate⟩ := publishes_of_turn hok i fault hp
  refine ⟨rfl, ?_⟩
  show request.revision = _ + 1 ∨ request.revision + SaveStage.slack ≤ _
  obtain ⟨hlow, hnext⟩ := hok.linking hstage
  by_cases hover : request.revision = s.directory.revisions.top + 1
  · exact .inl hover
  · rcases hok.taken request.revision hlow (by omega) with hmem | hfar
    · rw [Versions.create_eq_none.mpr hmem] at hcreate
      cases hcreate
    · exact .inr hfar

/-- Profiles that are their own JSON. -/
def sampleFormat : ProfileFormat (List UInt8) where
  serialize profile := profile
  parse bytes := some bytes.dropLast
  default := []
  maximumBytes := 16
  parse_serialize _ := congrArg some List.dropLast_concat

/-- Each of two processes adds its own byte to the profile. -/
def sampleClients : Clients (List UInt8) Unit where
  calls i := ⟨fun _ profile _ => .changed () (profile ++ [UInt8.ofNat i])⟩
  process i := i

abbrev sampleMachine := machine sampleFormat sampleClients ⟨.empty, [], none, 0⟩

/-- They take turns, so that both load the empty directory, and the second has to try again. -/
def sampleTurns : List (Nat × Bool) := (List.range 72).map fun n => (n % 2, false)

theorem sampleTurns_run :
    (sampleMachine.exec sampleMachine.init [] sampleTurns).isSome = true := by
  decide +kernel

def sampleRun : List ((Nat × Bool) × Option (Publication (List UInt8))) × Store (List UInt8) Unit :=
  (sampleMachine.exec sampleMachine.init [] sampleTurns).get sampleTurns_run

theorem sampleRun_history : sampleMachine.History sampleRun.1 sampleRun.2 :=
  Machine.history_of_exec sampleTurns .init (Option.some_get sampleTurns_run).symm

end Store

/-! ## What a call reports -/

/-- The call has published once: the profile, as this revision. -/
def ProfileCall.Published (call : ProfileCall P V) (value : V) (profile : P) (revision : Nat)
    (publications : List (Publication P)) : Prop :=
  ∃ attempt source head input, publications = [⟨revision, head, input, profile⟩] ∧
    call.transaction attempt input source = .changed value profile

/-- What a report says of the publications of its call. -/
def Report.Accounted (call : ProfileCall P V) (publications : List (Publication P)) :
    Report P V → Prop
  | .committed value profile saved => call.Published value profile saved publications
  | .committedButDurabilityUncertain value profile saved =>
    call.Published value profile saved publications ∨
      publications = [] ∧ ∃ attempt, call.transaction attempt profile (some saved) = .unchanged value
  | .unchanged value profile saved =>
    publications = [] ∧ ∃ attempt, call.transaction attempt profile saved = .unchanged value
  | .rejected value =>
    publications = [] ∧ ∃ attempt profile source,
      call.transaction attempt profile source = .failed value
  | .failed _ => publications = []

namespace TransactionStage

/-- What a call has published so far. -/
def Accounted (call : ProfileCall P V) (publications : List (Publication P)) :
    TransactionStage P V → Prop
  | loading .. => publications = []
  | saving attempt snapshot value profile request stage =>
    call.transaction attempt snapshot.profile snapshot.revision = .changed value profile ∧
      if stage.isLinked then
        ∃ head, publications = [⟨request.revision, head, snapshot.profile, profile⟩]
      else publications = []
  | confirming value snapshot =>
    publications = [] ∧
      ∃ attempt, call.transaction attempt snapshot.profile snapshot.revision = .unchanged value
  | finished report => report.Accounted call publications

variable {call : ProfileCall P V} {publications : List (Publication P)} {format : ProfileFormat P}

theorem accounted_retry (attempt : Nat) :
    (retry attempt : TransactionStage P V).Accounted call [] := by
  unfold retry
  split
  · exact rfl
  · exact rfl

theorem accounted_ofLoad (attempt : Nat) (stage : LoadStage P) :
    (ofLoad format call attempt stage).Accounted call [] := by
  cases stage with
  | listing stage => rfl
  | reading rest progress => rfl
  | loaded result =>
    cases result with
    | error e => rfl
    | ok snapshot =>
      rw [ofLoad_loaded]
      cases htransaction : call.transaction attempt snapshot.profile snapshot.revision with
      | unchanged value => exact ⟨rfl, attempt, htransaction⟩
      | failed value => exact ⟨rfl, attempt, _, _, htransaction⟩
      | changed value profile =>
        dsimp only
        cases SaveRequest.prepare format profile snapshot.headRevision snapshot.revision with
        | error e => rfl
        | ok request => exact ⟨htransaction, rfl⟩

end TransactionStage

/-- After a step a save is linked if it was so, or has just been. -/
theorem SaveStage.isLinked_of_moves {request : SaveRequest} {process sequence : Nat}
    {d d' : Directory} {stage stage' : SaveStage}
    (h : Moves request process sequence d stage d' stage') (hrunning : stage'.Running) :
    stage'.isLinked = (stage.isLinked || stage.links stage') := by
  cases h with
  | discards hname hlinked => cases stage <;> first | rfl | cases hlinked
  | confirms => exact absurd hrunning id
  | abandons => exact absurd hrunning id
  | retries => rfl
  | creates => rfl
  | fills => rfl
  | lists => rfl
  | compacts => rfl
  | erases => rfl
  | prepares => rfl
  | publishes => rfl
  | doubts => rfl
  | synchronises => rfl

theorem SaveStage.isLinked_of_ended {request : SaveRequest} {process sequence : Nat}
    {d d' : Directory} {stage : SaveStage} {outcome : Except ProfileStoreError PublishOutcome}
    (h : Moves request process sequence d stage d' (saved outcome)) :
    (stage.isLinked = false ∧ Unpublished outcome) ∨
      (stage.isLinked = true ∧ ∃ durable, outcome = .ok (.published request.revision durable)) := by
  cases h with
  | confirms durable => exact .inr ⟨rfl, durable, rfl⟩
  | abandons hlinked houtcome => exact .inl ⟨hlinked, houtcome⟩

namespace TransactionStage

variable {low process sequence : Nat} {d : Directory} {format : ProfileFormat P}
  {call : ProfileCall P V} {fault : Bool} {publications : List (Publication P)}

/-- A turn of a save. -/
theorem accounted_of_saving {attempt : Nat} {snapshot : Snapshot P} {value : V} {profile : P}
    {request : SaveRequest} {stage stage' : SaveStage} {d' : Directory}
    (h : (saving attempt snapshot value profile request stage).Accounted call publications)
    (hmoves : SaveStage.Moves request process sequence d stage d' stage') :
    (ofSave attempt snapshot value profile request stage').Accounted call
      ((publication d (saving attempt snapshot value profile request stage)
        (ofSave attempt snapshot value profile request stage')).toList ++ publications) := by
  obtain ⟨htransaction, hpublications⟩ := h
  rcases SaveStage.running_of_moves hmoves with hrunning | ⟨outcome, rfl⟩
  · rw [ofSave_of_running _ _ _ _ _ hrunning]
    refine ⟨htransaction, ?_⟩
    rw [SaveStage.isLinked_of_moves hmoves hrunning]
    by_cases hlinks : stage.links stage' = true
    · -- the link was just made, so nothing was published before
      have hlinked : stage.isLinked = false := by
        cases stage <;> first | rfl | cases hlinks
      rw [hlinked, if_neg Bool.false_ne_true] at hpublications
      rw [hlinks, Bool.or_true, if_pos rfl, hpublications]
      refine ⟨d.revisions.top, ?_⟩
      unfold publication
      dsimp only
      rw [if_pos hlinks]
      rfl
    · rw [Bool.not_eq_true] at hlinks
      rw [hlinks, Bool.or_false, publication_saving hlinks]
      exact hpublications
  · have hended : ∀ stage' : TransactionStage P V, stage'.isSaving = false →
        stage'.Accounted call publications →
        stage'.Accounted call
          ((publication d (saving attempt snapshot value profile request stage) stage').toList ++
            publications) := by
      intro stage' hnot haccounted
      rw [publication_of_not_saving hnot]
      exact haccounted
    rcases SaveStage.isLinked_of_ended hmoves with ⟨hlinked, houtcome⟩ | ⟨hlinked, durable, rfl⟩
    · rw [hlinked, if_neg Bool.false_ne_true] at hpublications
      subst hpublications
      match outcome with
      | .error e => exact hended _ rfl rfl
      | .ok (.published revision durable) => exact absurd rfl (houtcome revision durable)
      | .ok .destinationExists =>
        exact hended _ (isSaving_retry attempt) (accounted_retry attempt)
    · rw [hlinked, if_pos rfl] at hpublications
      obtain ⟨head, hpublications⟩ := hpublications
      have hpublished : call.Published value profile request.revision publications :=
        ⟨attempt, snapshot.revision, head, snapshot.profile, hpublications, htransaction⟩
      cases durable with
      | true => exact hended _ rfl hpublished
      | false => exact hended _ rfl (.inl hpublished)

/-- A turn adds to the account of its call what it publishes. -/
theorem accounted_step {stage : TransactionStage P V} (hok : stage.Ok low process sequence d)
    (h : stage.Accounted call publications) :
    (stage.step format call process sequence fault d).2.Accounted call
      ((publication d stage (stage.step format call process sequence fault d).2).toList ++
        publications) := by
  cases stage with
  | loading attempt stage =>
    obtain rfl : publications = [] := h
    exact accounted_ofLoad attempt _
  | saving attempt snapshot value profile request stage =>
    exact accounted_of_saving h (SaveStage.step_moves hok.1.running)
  | confirming value snapshot =>
    obtain ⟨rfl, attempt, htransaction⟩ := h
    unfold step
    dsimp only
    cases hsource : snapshot.revision with
    | none =>
      rw [hsource] at htransaction
      exact ⟨rfl, attempt, htransaction⟩
    | some revision =>
      rw [hsource] at htransaction
      cases fault with
      | true => exact .inr ⟨rfl, attempt, htransaction⟩
      | false => exact ⟨rfl, attempt, htransaction⟩
  | finished report => exact h

/-- A call has published nothing, or once. -/
theorem Accounted.once {stage : TransactionStage P V} (h : stage.Accounted call publications) :
    publications = [] ∨ ∃ value profile revision,
      call.Published value profile revision publications := by
  cases stage with
  | loading => exact .inl h
  | saving attempt snapshot value profile request stage =>
    obtain ⟨htransaction, h⟩ := h
    split at h
    · obtain ⟨head, h⟩ := h
      exact .inr ⟨value, profile, _, attempt, _, head, _, h, htransaction⟩
    · exact .inl h
  | confirming => exact .inl h.1
  | finished report =>
    cases report with
    | committed => exact .inr ⟨_, _, _, h⟩
    | committedButDurabilityUncertain =>
      rcases h with h | h
      · exact .inr ⟨_, _, _, h⟩
      · exact .inl h.1
    | unchanged => exact .inl h.1
    | rejected => exact .inl h.1
    | failed => exact .inl h

end TransactionStage

namespace Store

/-- What call `i` has published, latest first. -/
def publishedBy (i : Nat) (tr : List ((Nat × Bool) × Option (Publication P))) :
    List (Publication P) :=
  tr.filterMap fun entry => if entry.1.1 = i then entry.2 else none

variable {format : ProfileFormat P} {clients : Clients P V} {d : Directory} {s : Store P V}
  {tr : List ((Nat × Bool) × Option (Publication P))}

theorem publishedBy_cons (i : Nat) (turn : Nat × Bool) (published : Option (Publication P)) :
    publishedBy i ((turn, published) :: tr) =
      (if turn.1 = i then published else none).toList ++ publishedBy i tr := by
  unfold publishedBy
  rw [List.filterMap_cons]
  dsimp only
  cases (if turn.1 = i then published else none) <;> rfl

theorem accounted (h : (machine format clients d).History tr s) (i : Nat) :
    (s.stages i).Accounted (clients.calls i) (publishedBy i tr) := by
  refine h.invariant (P := fun tr s => (s.stages i).Accounted (clients.calls i) (publishedBy i tr))
    rfl ?_
  intro tr s s' turn r hist ih hs
  cases hs
  have hok := ok_of_history hist
  rw [publishedBy_cons]
  dsimp only
  by_cases hi : turn.1 = i
  · subst hi
    rw [if_pos rfl, Function.update_self]
    exact TransactionStage.accounted_step (hok.stages turn.1) ih
  · rw [if_neg hi, Function.update_of_ne (Ne.symm hi)]
    exact ih

theorem mem_publishedBy {i : Nat} {fault : Bool} {p : Publication P}
    (h : ((i, fault), some p) ∈ tr) : p ∈ publishedBy i tr :=
  List.mem_filterMap.mpr ⟨_, h, if_pos rfl⟩

/-- What a call publishes is what its closure has made of the profile it was made of. -/
theorem made_by_call (h : (machine format clients d).History tr s) {i : Nat} {fault : Bool}
    {p : Publication P} (hp : ((i, fault), some p) ∈ tr) :
    ∃ attempt source value,
      (clients.calls i).transaction attempt p.input source = .changed value p.output := by
  have hmem := mem_publishedBy hp
  rcases (accounted h i).once with hnone | ⟨value, profile, revision, attempt, source, head, input, heq,
    htransaction⟩
  · rw [hnone] at hmem
    cases hmem
  · rw [heq] at hmem
    rw [List.mem_singleton.mp hmem]
    exact ⟨attempt, source, value, htransaction⟩

/-- No call publishes twice, even one that stops half way; and when a call is over, its report says
what it has published. -/
theorem reports_accounted (h : (machine format clients d).History tr s) (i : Nat) :
    (publishedBy i tr).length ≤ 1 ∧
      ∀ report, s.stages i = .finished report →
        report.Accounted (clients.calls i) (publishedBy i tr) := by
  have haccounted := accounted h i
  refine ⟨?_, fun report hfinished => ?_⟩
  · rcases haccounted.once with hnone | ⟨_, _, _, _, _, _, _, heq, _⟩
    · rw [hnone]
      exact Nat.zero_le _
    · rw [heq]
      exact Nat.le_refl _
  · rw [hfinished] at haccounted
    exact haccounted

/-- The second call of the run, whose first attempt came to nothing. -/
theorem sampleRun_accounted :
    publishedBy 1 sampleRun.1 = [⟨2, 1, [0], [0, 1]⟩] ∧
      (publishedBy 1 sampleRun.1).length ≤ 1 ∧
      ∀ report, sampleRun.2.stages 1 = .finished report →
        report.Accounted (sampleClients.calls 1) (publishedBy 1 sampleRun.1) :=
  ⟨by decide +kernel, reports_accounted sampleRun_history 1⟩

end Store

end P4475.Profile
