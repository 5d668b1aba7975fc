import P4475.Profile.FloaterEdits

/-!
# Runs of floater calls

A call that goes through writes the records it read with the addressed one changed, and the
loader accepts them; a failed one writes nothing. A reset clears the slots that no protection
keeps, so a protected code lives as long as its count (`held_of_undisturbed`): the invariant
of the run is that the slot holds the code and that this protection, and no other, is on it.
-/

namespace P4475.Profile

open Lib TuneState

variable {X : Type}

/-! ## Calls -/

/-- The record that a call is about, which a missing one stands for. -/
def addressedTune [Inhabited X] (states : List (TuneState X)) (key : Int × Int) : TuneState X :=
  (states.find? fun state => state.key = key).getD (.new key.1 key.2)

/-- The key that the call looks for. -/
def FloaterAction.key (action : FloaterAction X) : Int × Int :=
  (action.kartId, normalizeKartSerial action.kartId action.kartSerial)

/-- What the answer tells of the record before and after. -/
def FloaterAnswer.Tells (state next : TuneState X) : FloaterAnswer → Prop
  | .state outcome => outcome.value = next.asException
  | .reset outcome => outcome.value = ⟨state.asException, next.asException⟩

/-- The record of a kart in the file. -/
def recordOf (file : SidecarFile (TuneState X)) (key : Int × Int) : Option (TuneState X) :=
  match parseTuneStates file with
  | .ok states => states.find? fun state => state.key = key
  | .error _ => none

theorem recordOf_eq {file : SidecarFile (TuneState X)} {states : List (TuneState X)}
    (h : parseTuneStates file = .ok states) (key : Int × Int) :
    recordOf file key = states.find? fun state => state.key = key := by
  unfold recordOf
  rw [h]

theorem recordOf_valid {file : SidecarFile (TuneState X)} {key : Int × Int} {state : TuneState X}
    (h : recordOf file key = some state) : state.Valid := by
  unfold recordOf at h
  split at h
  next states hparse =>
    have hstored := (parseTuneStates_table hparse).each _ (List.mem_of_find?_eq_some h)
    exact validateTuneState_ok hstored.validated
  next => exact absurd h (by simp)

/-- The call overwrites the code of the slot, moves its protection away, or renews it. -/
def FloaterCall.Disturbs (i : Fin 3) (p : Protection) : FloaterCall → Prop
  | .setCodes _ => True
  | .applyTune selector _ => selector = 5
  | .protect protectKind slot => protectKind = p.kind ∨ slot = (i.val : Int)
  | _ => False

/-- The slot holds the code, and this protection keeps it for `n` resets; no other does. -/
structure Held (file : SidecarFile (TuneState X)) (key : Int × Int) (i : Fin 3) (p : Protection)
    (code : Int) (n : Int) (state : TuneState X) : Prop where
  record : recordOf file key = some state
  code : state.code i = code
  slot : state.slot p = (i.val : Int)
  count : state.count p = n
  alone : ¬ state.ActiveBy i p.other

theorem code_protected (state : TuneState X) (slot : Int) (p : Protection) (i : Fin 3) :
    (state.protected slot p).code i = state.code i := by
  cases p <;> match i with
  | 0 => rfl
  | 1 => rfl
  | 2 => rfl

/-- A call on the kart that neither resets it nor disturbs the slot. -/
theorem Held.keep {file file' : SidecarFile (TuneState X)} {call : FloaterCall} {key : Int × Int} {i : Fin 3} {p : Protection}
    {code n : Int} {state next : TuneState X} (h : Held file key i p code n state)
    (hcode : code ≠ 0) (hdoes : call.Does state next) (hreset : call ≠ .reset)
    (hquiet : ¬ call.Disturbs i p) (hrecord : recordOf file' key = some next) :
    Held file' key i p code n next := by
  cases call with
  | activate =>
    cases hdoes
    exact ⟨hrecord, h.code, h.slot, h.count, h.alone⟩
  | setCodes codes => exact absurd trivial hquiet
  | applyTune selector shuffle =>
    have hselector : selector ≠ 5 := hquiet
    have hfilled : Filled selector state next := by
      have hdoes : if selector = 5 then _ else _ := hdoes
      rw [if_neg hselector] at hdoes
      exact hdoes
    have hfull : state.code i ≠ 0 := h.code ▸ hcode
    refine ⟨hrecord, (hfilled.occupied i hfull).trans h.code, (hfilled.slot p).trans h.slot,
      (hfilled.count p).trans h.count, fun hactive => h.alone ?_⟩
    unfold ActiveBy at hactive ⊢
    rw [hfilled.slot, hfilled.count] at hactive
    exact hactive
  | protect protectKind slot =>
    obtain ⟨j, q, hslot, hkind, _, _, rfl⟩ := hdoes
    have hq : q ≠ p := fun he => hquiet (.inl (he ▸ hkind))
    have hj : slot ≠ (i.val : Int) := fun he => hquiet (.inr he)
    -- the protection that is set is the other one, and it is put on another slot
    cases p with
    | fourfold =>
      cases q with
      | fourfold => exact absurd rfl hq
      | threefold =>
        exact ⟨hrecord, (code_protected _ _ _ i).trans h.code, h.slot, h.count,
          fun hactive => hj hactive.2⟩
    | threefold =>
      cases q with
      | threefold => exact absurd rfl hq
      | fourfold =>
        exact ⟨hrecord, (code_protected _ _ _ i).trans h.code, h.slot, h.count,
          fun hactive => hj hactive.2⟩
  | reset => exact absurd rfl hreset

/-- A reset of the kart, while some are left. -/
theorem Held.use {file file' : SidecarFile (TuneState X)} {key : Int × Int} {i : Fin 3}
    {p : Protection} {code n : Int} {state next : TuneState X} (h : Held file key i p code n state)
    (hpos : 0 < n) (hdoes : Reset state next) (hrecord : recordOf file' key = some next) :
    Held file' key i p code (n - 1) next := by
  have hactive : state.ActiveBy i p := ⟨h.count.symm ▸ hpos, h.slot⟩
  have hany : state.Active i := by
    cases p with
    | fourfold => exact .inl hactive
    | threefold => exact .inr hactive
  obtain ⟨hslot, hcount⟩ := hdoes.used p hactive.1
  refine ⟨hrecord, (hdoes.kept i hany).trans h.code, hslot.trans h.slot,
    hcount.trans (by rw [h.count]), fun hother => ?_⟩
  -- a protection that was not on the slot does not come there by a reset
  by_cases hcount' : state.count p.other = 0
  · have hnone := (hdoes.ended p.other hcount').2
    have hsome := hother.1
    omega
  · have hnonneg := (recordOf_valid h.record).count p.other
    have hsome : 0 < state.count p.other := by omega
    obtain ⟨hslot', _⟩ := hdoes.used p.other hsome
    exact h.alone ⟨hsome, hslot' ▸ hother.2⟩

/-- The reset when none is left. -/
theorem Held.expire {file : SidecarFile (TuneState X)} {key : Int × Int} {i : Fin 3}
    {p : Protection} {code : Int} {state next : TuneState X} (h : Held file key i p code 0 state)
    (hdoes : Reset state next) : next.code i = 0 := by
  refine hdoes.cleared i fun hactive => ?_
  have hcount := h.count
  have halone := h.alone
  cases p with
  | fourfold =>
    rcases hactive with hactive | hactive
    · exact absurd hactive.1 (by omega)
    · exact halone hactive
  | threefold =>
    rcases hactive with hactive | hactive
    · exact halone hactive
    · exact absurd hactive.1 (by omega)

section Runs

variable [Inhabited X] {file file' : SidecarFile (TuneState X)} {action : FloaterAction X}

theorem atomic_mutateTuneState (io : SidecarIo (TuneState X)) (kartId kartSerial : Int)
    (insertIfMissing : Bool) (mutation : TuneState X → Except EquipmentStateError (TuneState X)) :
    Atomic (mutateTuneStateCapability io kartId kartSerial insertIfMissing mutation) := by
  unfold mutateTuneStateCapability
  refine (readsOnly_ensure _ _).bind fun _ => readsOnly_read.bind fun file => ?_
  refine (readsOnly_liftResult _).bind fun states => (readsOnly_liftResult _).bind fun spot => ?_
  refine (readsOnly_liftResult _).bind fun next => (readsOnly_liftResult _).bind fun _ => ?_
  exact (atomic_write _ _).bind fun _ => succeeds_pure _

/-- A call that fails leaves the file alone. -/
theorem atomic_floater_run (action : FloaterAction X) : Atomic action.run := by
  have hmutate := fun inserts mutation =>
    atomic_mutateTuneState action.io action.kartId action.kartSerial inserts mutation
  have hpure : ∀ {β γ : Type} (f : β → γ) (p : SidecarCall (TuneState X) β), Atomic p →
      Atomic (p >>= fun b => pure (f b)) := fun f p hp => hp.bind fun _ => succeeds_pure _
  unfold FloaterAction.run
  cases action.call with
  | activate => exact hpure _ _ (hpure _ _ (hmutate _ _))
  | setCodes codes => exact hpure _ _ (hpure _ _ (hmutate _ _))
  | applyTune selector shuffle =>
    exact hpure _ _ ((readsOnly_ensure _ _).bind fun _ => hpure _ _ (hmutate _ _))
  | protect protectKind slot =>
    exact hpure _ _ ((readsOnly_ensure _ _).bind fun _ => hpure _ _ (hmutate _ _))
  | reset => exact hpure _ _ (hpure _ _ (hmutate _ _))

theorem findOrInsert_at {states : List (TuneState X)} {kartId serial : Int} {inserts : Bool}
    {spot : Spot (TuneState X)}
    (h : findOrInsertTuneState states kartId serial inserts = .ok spot) :
    spot.At TuneState.key states (kartId, serial) (some (.new kartId serial)) ∧
      ((kartId, serial) ∉ states.map TuneState.key → states.length < maxEquipmentRecords) := by
  unfold findOrInsertTuneState at h
  split at h
  next spot' hfind =>
    cases h
    exact ⟨Spot.find?_at hfind _, fun hno => absurd (Spot.find?_mem hfind) hno⟩
  next hnone =>
    split at h
    next =>
      obtain ⟨hroom, h⟩ := check_bind.mp h
      cases h
      exact ⟨Spot.push_at (Spot.find?_none hnone) _, fun _ => hroom⟩
    next => exact absurd h (by simp)

theorem valid_new {kartId : Int} (h : 0 < kartId) (serial : Int) :
    (TuneState.new kartId serial : TuneState X).Valid := by
  have hcode : ∀ i, (TuneState.new kartId serial : TuneState X).code i = 0 := by
    intro i
    match i with
    | 0 => rfl
    | 1 => rfl
    | 2 => rfl
  have hslot : ∀ p, (TuneState.new kartId serial : TuneState X).slot p = -1 := by
    intro p
    cases p <;> rfl
  have hcount : ∀ p, (TuneState.new kartId serial : TuneState X).count p = 0 := by
    intro p
    cases p <;> rfl
  refine ⟨h, fun code hm => ?_, fun i _ _ hi => absurd (hcode i) hi, fun p => ?_, fun p => ?_,
    fun p _ => hcount p, fun i hboth => ?_⟩
  · have hzero : code = 0 := by
      simpa [codes, TuneState.new] using hm
    rw [hzero]
    rfl
  · rw [hslot]
    omega
  · exact Int.le_of_eq (hcount p).symm
  · exact absurd hboth.1.1 (by rw [hcount]; omega)

/-- The record that is changed is the addressed one. -/
theorem addressedTune_of_at {states : List (TuneState X)} (htable : TuneTable states)
    {kartId serial : Int} {spot : Spot (TuneState X)} (hid : 0 < kartId)
    (h : spot.At TuneState.key states (kartId, serial) (some (.new kartId serial))) :
    spot.row = addressedTune states (kartId, serial) ∧ spot.row.Valid ∧
      spot.row.key = (kartId, serial) := by
  have hrow := h.row
  unfold addressedTune
  cases hfind : states.find? (fun state => state.key = (kartId, serial)) with
  | none =>
    rw [hfind] at hrow
    rw [← Option.some.inj hrow]
    exact ⟨rfl, valid_new hid serial, rfl⟩
  | some row =>
    rw [hfind] at hrow
    rw [← Option.some.inj hrow]
    have hstored := htable.each _ (List.mem_of_find?_eq_some hfind)
    exact ⟨rfl, validateTuneState_ok hstored.validated, key_of_find hfind⟩

/-- A mutation that goes through. -/
theorem yields_mutateTuneState {io : SidecarIo (TuneState X)} {kartId kartSerial : Int}
    {inserts : Bool} {mutation : TuneState X → Except EquipmentStateError (TuneState X)}
    {visited : TuneState X} {outcome : EquipmentMutationOutcome TuneExcRecord}
    (h : Yields (mutateTuneStateCapability io kartId kartSerial inserts mutation) file
      (visited, outcome) file') :
    0 < kartId ∧ ∃ states spot next, parseTuneStates file = .ok states ∧
      findOrInsertTuneState states kartId (normalizeKartSerial kartId kartSerial) inserts =
        .ok spot ∧
      mutation spot.row = .ok next ∧ validateTuneState next = .ok () ∧ visited = spot.row ∧
      outcome.value = next.asException ∧ file' = some (spot.set next) := by
  obtain ⟨hid, h⟩ := yields_ensure_bind.mp h
  have h := yields_read_bind h
  obtain ⟨states, hparse, h⟩ := yields_liftResult_bind.mp h
  obtain ⟨spot, hspot, h⟩ := yields_liftResult_bind.mp h
  obtain ⟨next, hnext, h⟩ := yields_liftResult_bind.mp h
  obtain ⟨_, hvalid, h⟩ := yields_liftResult_bind.mp h
  obtain ⟨warning, written, hwrite, h⟩ := yields_bind.mp h
  obtain ⟨houtcome, rfl⟩ := yields_pure.mp h
  cases houtcome
  exact ⟨hid, states, spot, next, hparse, hspot, hnext, hvalid, rfl, rfl, yields_write hwrite⟩

/-- A call that goes through is a mutation that does, for the record of the call. -/
theorem floater_run_mutates {answer : FloaterAnswer} (h : Yields action.run file answer file') :
    action.call.Guard ∧ ∃ mutated,
      Yields (mutateTuneStateCapability action.io action.kartId action.kartSerial
        action.call.inserts action.call.mutation) file mutated file' ∧
      (answer = .state mutated.2 ∨ answer = .reset
        ⟨⟨mutated.1.asException, mutated.2.value⟩, mutated.2.durabilityWarning⟩) := by
  unfold FloaterAction.run at h
  dsimp only at h
  cases hcall : action.call with
  | activate =>
    rw [hcall] at h
    obtain ⟨outcome, hcallee, rfl⟩ := yields_bind_pure.mp h
    obtain ⟨mutated, hmutate, rfl⟩ := yields_bind_pure.mp hcallee
    exact ⟨trivial, mutated, hmutate, .inl rfl⟩
  | setCodes codes =>
    rw [hcall] at h
    obtain ⟨outcome, hcallee, rfl⟩ := yields_bind_pure.mp h
    obtain ⟨mutated, hmutate, rfl⟩ := yields_bind_pure.mp hcallee
    exact ⟨trivial, mutated, hmutate, .inl rfl⟩
  | applyTune selector shuffle =>
    rw [hcall] at h
    obtain ⟨outcome, hcallee, rfl⟩ := yields_bind_pure.mp h
    obtain ⟨hguard, hcallee⟩ := yields_ensure_bind.mp hcallee
    obtain ⟨mutated, hmutate, rfl⟩ := yields_bind_pure.mp hcallee
    exact ⟨hguard, mutated, hmutate, .inl rfl⟩
  | protect protectKind slot =>
    rw [hcall] at h
    obtain ⟨outcome, hcallee, rfl⟩ := yields_bind_pure.mp h
    obtain ⟨hguard, hcallee⟩ := yields_ensure_bind.mp hcallee
    obtain ⟨mutated, hmutate, rfl⟩ := yields_bind_pure.mp hcallee
    exact ⟨hguard, mutated, hmutate, .inl rfl⟩
  | reset =>
    rw [hcall] at h
    obtain ⟨outcome, hcallee, rfl⟩ := yields_bind_pure.mp h
    obtain ⟨mutated, hmutate, rfl⟩ := yields_bind_pure.mp hcallee
    exact ⟨trivial, mutated, hmutate, .inr rfl⟩

/-- What a call that went through has done to the records it read: the addressed one was
changed as the call says, and is in its place. -/
structure FloaterEdited (action : FloaterAction X) (states : List (TuneState X))
    (next : TuneState X) (answer : FloaterAnswer) : Prop where
  does : action.call.Does (addressedTune states action.key) next
  key : next.key = action.key
  extra : next.extra = (addressedTune states action.key).extra
  tells : answer.Tells (addressedTune states action.key) next
  table : TuneTable (upsert TuneState.key states next)

theorem floater_run_ok {answer : FloaterAnswer}
    (h : (action.run.run.run file : Except _ _ × _) = (.ok answer, file')) :
    ∃ states next, parseTuneStates file = .ok states ∧ FloaterEdited action states next answer ∧
      file' = some (upsert TuneState.key states next) := by
  obtain ⟨hguard, ⟨visited, outcome⟩, hmutate, hanswer⟩ := floater_run_mutates h
  obtain ⟨hid, states, spot, next, hparse, hspot, hnext, hvalid, rfl, hvalue, hfile⟩ :=
    yields_mutateTuneState hmutate
  have htable := parseTuneStates_table hparse
  obtain ⟨hat, hroom⟩ := findOrInsert_at hspot
  obtain ⟨hrow, hstate, hkey⟩ := addressedTune_of_at htable hid hat
  obtain ⟨hsame, hextra⟩ := FloaterCall.mutation_frame hnext
  have hnextkey : next.key = action.key := hsame.trans hkey
  have hdoes := FloaterCall.mutation_does hguard hstate hnext (validateTuneState_ok hvalid)
  rw [hat.set next hnextkey] at hfile
  have hserial : normalizeKartSerial next.id next.serial = next.serial := by
    have hids : next.id = action.kartId := congrArg Prod.fst hnextkey
    have hserials : next.serial = normalizeKartSerial action.kartId action.kartSerial :=
      congrArg Prod.snd hnextkey
    rw [hids, hserials]
    exact normalizeKartSerial_idem _ _
  have hnew : TuneTable (upsert TuneState.key states next) := by
    refine htable.upsert ⟨hvalid, hserial⟩ fun hm => hroom ?_
    rw [hnextkey] at hm
    exact hm
  have haddressed : spot.row = addressedTune states action.key := hrow
  rw [haddressed] at hdoes hextra hanswer
  refine ⟨states, next, hparse, ⟨hdoes, hnextkey, hextra, ?_, hnew⟩, hfile⟩
  rcases hanswer with rfl | rfl
  · exact hvalue
  · show FloaterResetOutcome.mk _ outcome.value = _
    rw [hvalue]

/-- What is promised of a call: if it fails the file stays, and else the loader accepts what
is written, in which only the addressed record has changed. -/
def FloaterKept (file : SidecarFile (TuneState X)) (action : FloaterAction X)
    (result : Except EquipmentStateError FloaterAnswer) (file' : SidecarFile (TuneState X)) :
    Prop :=
  (∀ e, result = .error e → file' = file) ∧
  ∀ answer, result = .ok answer → ∃ states written next, parseTuneStates file = .ok states ∧
    file' = some written ∧ parseTuneStates file' = .ok written ∧
    FloaterEdited action states next answer ∧
    written.find? (fun state => state.key = action.key) = some next ∧
    written.filter (fun state => state.key ≠ action.key) =
      states.filter (fun state => state.key ≠ action.key)

theorem floater_run_kept {result : Except EquipmentStateError FloaterAnswer}
    (h : (action.run.run.run file : Except _ _ × _) = (result, file')) :
    FloaterKept file action result file' := by
  refine ⟨fun e he => ?_, fun answer he => ?_⟩
  · rw [he] at h
    exact atomic_floater_run _ _ _ _ h
  · rw [he] at h
    obtain ⟨states, next, hparse, hedited, rfl⟩ := floater_run_ok h
    refine ⟨states, _, next, hparse, rfl, parse_tuneTable hedited.table, hedited, ?_, ?_⟩
    · rw [← hedited.key]
      exact find_upsert states next
    · rw [← hedited.key]
      exact filter_upsert states next

/-- Whatever calls are made, the file is accepted. -/
theorem accepted_of_reachable {records : SidecarFile (TuneState X)} {states : List (TuneState X)}
    (haccepted : parseTuneStates records = .ok states)
    (h : (floaterMachine records).Reachable file) : ∃ states, parseTuneStates file = .ok states := by
  refine h.invariant (P := fun file => ∃ states, parseTuneStates file = .ok states)
    ⟨states, haccepted⟩ ?_
  intro file file' action result ih hstep
  obtain ⟨hfailed, hdone⟩ := floater_run_kept (Option.some.inj hstep)
  cases result with
  | error e => exact hfailed e rfl ▸ ih
  | ok answer =>
    obtain ⟨_, written, _, _, _, hwritten, _⟩ := hdone answer rfl
    exact ⟨written, hwritten⟩

/-- A second activation finds the record that the first one left, and leaves it so. -/
def ActivatesOnce (file : SidecarFile (TuneState X)) : Prop :=
  ∀ (first second : FloaterAction X) (a b : FloaterAnswer) (file' file'' : SidecarFile (TuneState X)),
    first.call = .activate → second.call = .activate → second.key = first.key →
    (first.run.run.run file : Except _ _ × _) = (.ok a, file') →
    (second.run.run.run file' : Except _ _ × _) = (.ok b, file'') → file'' = file'

theorem activatesOnce (file : SidecarFile (TuneState X)) : ActivatesOnce file := by
  intro first second a b file' file'' hfirst hsecond hkey ha hb
  obtain ⟨states, next, _, hedited, rfl⟩ := floater_run_ok ha
  obtain ⟨states', next', hparse', hedited', rfl⟩ := floater_run_ok hb
  rw [parse_tuneTable hedited.table] at hparse'
  cases hparse'
  have hfind : (upsert TuneState.key states next).find? (fun state => state.key = next.key) =
      some next := find_upsert states next
  have hdoes : next' = addressedTune (upsert TuneState.key states next) second.key := by
    have hdoes := hedited'.does
    rw [hsecond] at hdoes
    exact hdoes
  have hnext : next' = next := by
    rw [hdoes, hkey, ← hedited.key]
    unfold addressedTune
    rw [hfind]
    rfl
  rw [hnext, upsert_self hfind]

/-! ## How long a protection lasts -/

/-- Any calls, of which `r` reset the kart and go through, and none of those on the kart that
go through disturbs the slot under the protection. -/
inductive Undisturbed (key : Int × Int) (i : Fin 3) (p : Protection)
    (file : SidecarFile (TuneState X)) : Nat → SidecarFile (TuneState X) → Prop
  | refl : Undisturbed key i p file 0 file
  | reset {r : Nat} {file₁ file₂ : SidecarFile (TuneState X)} {action : FloaterAction X}
      {answer : FloaterAnswer} (before : Undisturbed key i p file r file₁)
      (own : action.key = key) (call : action.call = .reset)
      (run : (action.run.run.run file₁ : Except _ _ × _) = (.ok answer, file₂)) :
      Undisturbed key i p file (r + 1) file₂
  | other {r : Nat} {file₁ file₂ : SidecarFile (TuneState X)} {action : FloaterAction X}
      {result : Except EquipmentStateError FloaterAnswer} (before : Undisturbed key i p file r file₁)
      (run : (action.run.run.run file₁ : Except _ _ × _) = (result, file₂))
      (quiet : result.isOk → action.key = key →
        action.call ≠ .reset ∧ ¬ action.call.Disturbs i p) :
      Undisturbed key i p file r file₂

/-- A call on another kart leaves the record, one on this kart changes it as it says. -/
theorem recordOf_run {key : Int × Int} {state : TuneState X} {answer : FloaterAnswer}
    (hrecord : recordOf file key = some state)
    (h : (action.run.run.run file : Except _ _ × _) = (.ok answer, file')) :
    (action.key ≠ key → recordOf file' key = some state) ∧
      (action.key = key → ∃ next, recordOf file' key = some next ∧ action.call.Does state next) := by
  obtain ⟨states, next, hparse, hedited, rfl⟩ := floater_run_ok h
  rw [recordOf_eq hparse] at hrecord
  rw [recordOf_eq (parse_tuneTable hedited.table)]
  constructor
  · intro hother
    exact (find_upsert_ne states (hedited.key.symm ▸ hother.symm)).trans hrecord
  · intro hown
    refine ⟨next, ?_, ?_⟩
    · rw [← hown, ← hedited.key]
      exact find_upsert states next
    · have hdoes := hedited.does
      unfold addressedTune at hdoes
      rw [hown, hrecord] at hdoes
      exact hdoes

/-- Up to the last reset that the protection is good for, the code is there. -/
theorem held_of_undisturbed {key : Int × Int} {i : Fin 3} {p : Protection} {code : Int} {n r : Nat}
    {state : TuneState X} (h : Held file key i p code n state) (hcode : code ≠ 0)
    (hcalls : Undisturbed key i p file r file') (hr : r ≤ n) :
    ∃ next, Held file' key i p code (n - r : Int) next := by
  induction hcalls with
  | refl => exact ⟨state, by simpa using h⟩
  | @reset r file₁ file₂ action answer _ own call run ih =>
    obtain ⟨middle, hmiddle⟩ := ih (by omega)
    obtain ⟨next, hrecord, hdoes⟩ := (recordOf_run hmiddle.record run).2 own
    rw [call] at hdoes
    have hnext := hmiddle.use (by omega) hdoes hrecord
    refine ⟨next, ?_⟩
    have hcount : ((n : Int) - ((r + 1 : Nat) : Int)) = (n : Int) - (r : Int) - 1 := by omega
    rw [hcount]
    exact hnext
  | @other r file₁ file₂ action result _ run quiet ih =>
    obtain ⟨middle, hmiddle⟩ := ih hr
    cases result with
    | error e =>
      have hfile : file₂ = file₁ := atomic_floater_run _ _ _ _ run
      exact ⟨middle, hfile.symm ▸ hmiddle⟩
    | ok answer =>
      obtain ⟨hother, hown⟩ := recordOf_run hmiddle.record run
      by_cases hkey : action.key = key
      · obtain ⟨next, hrecord, hdoes⟩ := hown hkey
        obtain ⟨hreset, hquiet⟩ := quiet rfl hkey
        exact ⟨next, hmiddle.keep hcode hdoes hreset hquiet hrecord⟩
      · exact ⟨middle, hother hkey, hmiddle.code, hmiddle.slot, hmiddle.count, hmiddle.alone⟩

/-- A code under a protection with `n` resets left stays for exactly `n` of them. -/
def ProtectedFor (file : SidecarFile (TuneState X)) : Prop :=
  ∀ (key : Int × Int) (i : Fin 3) (p : Protection) (state : TuneState X) (n r : Nat)
    (file' : SidecarFile (TuneState X)),
    recordOf file key = some state → state.code i ≠ 0 → state.ActiveBy i p → state.count p = n →
    Undisturbed key i p file r file' →
    (r ≤ n → ∃ state', recordOf file' key = some state' ∧ state'.code i = state.code i ∧
      state'.count p = (n - r : Int)) ∧
    (r = n → ∀ (action : FloaterAction X) (answer : FloaterAnswer)
      (file'' : SidecarFile (TuneState X)), action.key = key → action.call = .reset →
      (action.run.run.run file' : Except _ _ × _) = (.ok answer, file'') →
      ∃ state'', recordOf file'' key = some state'' ∧ state''.code i = 0)

theorem protectedFor (file : SidecarFile (TuneState X)) : ProtectedFor file := by
  intro key i p state n r file' hrecord hcode hactive hcount hcalls
  have halone : ¬ state.ActiveBy i p.other := by
    intro hother
    have hapart := (recordOf_valid hrecord).apart i
    cases p with
    | fourfold => exact hapart ⟨hactive, hother⟩
    | threefold => exact hapart ⟨hother, hactive⟩
  have hheld : Held file key i p (state.code i) n state :=
    ⟨hrecord, rfl, hactive.2, hcount, halone⟩
  refine ⟨fun hr => ?_, fun hr action answer file'' hkey hreset hrun => ?_⟩
  · obtain ⟨next, hnext⟩ := held_of_undisturbed hheld hcode hcalls hr
    exact ⟨next, hnext.record, hnext.code, hnext.count⟩
  · obtain ⟨last, hlast⟩ := held_of_undisturbed hheld hcode hcalls (Nat.le_of_eq hr)
    obtain ⟨next, hrecord', hdoes⟩ := (recordOf_run hlast.record hrun).2 hkey
    rw [hreset] at hdoes
    have hzero : (n : Int) - (r : Int) = 0 := by omega
    rw [hzero] at hlast
    exact ⟨next, hrecord', hlast.expire hdoes⟩

/-- Whatever calls were made on a file that was accepted: it is accepted still, the next call
keeps what is promised, activation is idempotent, and a protected code stays for as many
resets as its protection is good for. -/
theorem floater_calls_kept {records : SidecarFile (TuneState X)} {states : List (TuneState X)}
    (haccepted : parseTuneStates records = .ok states)
    (hreach : (floaterMachine records).Reachable file) :
    (∃ states, parseTuneStates file = .ok states) ∧
      (∀ action result file', (floaterMachine records).step file action = some (result, file') →
        FloaterKept file action result file') ∧
      ActivatesOnce file ∧ ProtectedFor file :=
  ⟨accepted_of_reachable haccepted hreach,
    fun _ _ _ hstep => floater_run_kept (Option.some.inj hstep), activatesOnce file,
    protectedFor file⟩

end Runs

/-! ## A kart with three codes -/

def sampleTuneIo : SidecarIo (TuneState Unit) where
  read := .ok ()
  serialized := fun states => .ok (200 * states.length)
  temporary := .ok ()
  rename := .ok ()
  sync := .ok ()

def sampleTune (slot1 count1 slot2 count2 : Int) : SidecarFile (TuneState Unit) :=
  some [⟨1401, 1, 103, 203, 303, slot1, count1, slot2, count2, ()⟩]

def sampleFloaterCall (call : FloaterCall) : FloaterAction Unit := ⟨sampleTuneIo, 1401, 1, call⟩

/-- The first slot is protected for three resets. -/
theorem sample_floater_calls_kept : ProtectedFor (sampleTune (-1) 0 0 3) := by
  have haccepted : parseTuneStates (sampleTune (-1) 0 (-1) 0) =
      .ok [⟨1401, 1, 103, 203, 303, -1, 0, -1, 0, ()⟩] := rfl
  have hprotect : (floaterMachine (sampleTune (-1) 0 (-1) 0)).step (sampleTune (-1) 0 (-1) 0)
      (sampleFloaterCall (.protect 53 0)) =
        some (.ok (.state ⟨⟨1401, 1, 103, 203, 303, -1, 0, 0, 3⟩, none⟩),
          sampleTune (-1) 0 0 3) := rfl
  exact (floater_calls_kept haccepted (Machine.Reachable.init.step hprotect)).2.2.2

/-- An item of one kind protects one slot: used on another one it leaves the first without
protection, and the next reset clears it. -/
theorem sample_protection_moved : ¬ ∀ (file file₁ file₂ : SidecarFile (TuneState Unit))
    (action₁ action₂ : FloaterAction Unit) (a₁ a₂ : FloaterAnswer) (key : Int × Int) (i : Fin 3)
    (p : Protection) (state : TuneState Unit),
    recordOf file key = some state → state.code i ≠ 0 → state.ActiveBy i p →
    (∀ codes, action₁.call ≠ .setCodes codes) →
    (∀ shuffle, action₁.call ≠ .applyTune 5 shuffle) →
    (floaterMachine file).step file action₁ = some (.ok a₁, file₁) → action₂.key = key →
    action₂.call = .reset → (floaterMachine file).step file₁ action₂ = some (.ok a₂, file₂) →
    ∃ state₂, recordOf file₂ key = some state₂ ∧ state₂.code i = state.code i := by
  intro h
  have hmoved : (floaterMachine (sampleTune 0 4 (-1) 0)).step (sampleTune 0 4 (-1) 0)
      (sampleFloaterCall (.protect 49 1)) =
        some (.ok (.state ⟨⟨1401, 1, 103, 203, 303, 1, 4, -1, 0⟩, none⟩),
          sampleTune 1 4 (-1) 0) := rfl
  have hreset : (floaterMachine (sampleTune 0 4 (-1) 0)).step (sampleTune 1 4 (-1) 0)
      (sampleFloaterCall .reset) =
        some (.ok (.reset ⟨⟨⟨1401, 1, 103, 203, 303, 1, 4, -1, 0⟩,
          ⟨1401, 1, 0, 203, 0, 1, 3, -1, 0⟩⟩, none⟩),
          some [⟨1401, 1, 0, 203, 0, 1, 3, -1, 0, ()⟩]) := rfl
  have hrecord : recordOf (sampleTune 0 4 (-1) 0) (1401, 1) =
      some ⟨1401, 1, 103, 203, 303, 0, 4, -1, 0, ()⟩ := rfl
  obtain ⟨state₂, hlast, hcode⟩ := h _ _ _ _ _ _ _ (1401, 1) 0 .fourfold _ hrecord
    (show (103 : Int) ≠ 0 by decide) ⟨show (0 : Int) < 4 by decide, rfl⟩ (fun _ hc => by cases hc)
    (fun _ hc => by cases hc) hmoved rfl rfl hreset
  have hcleared : recordOf (some [(⟨1401, 1, 0, 203, 0, 1, 3, -1, 0, ()⟩ : TuneState Unit)])
      (1401, 1) = some ⟨1401, 1, 0, 203, 0, 1, 3, -1, 0, ()⟩ := rfl
  rw [hcleared] at hlast
  cases hlast
  exact absurd hcode (show (0 : Int) ≠ 103 by decide)

end P4475.Profile
