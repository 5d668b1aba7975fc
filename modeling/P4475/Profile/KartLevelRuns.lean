import P4475.Profile.KartLevels

/-!
# Runs of kart-level calls

What the loader accepts is a `LevelTable`, and it reads such a table back as it is. One step
of it by any call is `CallKept`: the arithmetic of the calls keeps every bound but one, for
the difference of 35 and the levels fails on overflow only. So the exception is a call that
spends more than the 35 points there are (`Overspends`).
-/

namespace P4475.Profile

open Lib

variable {X : Type}

/-! ## What the loader accepts -/

namespace LevelState

def allocated (state : LevelState X) : Int :=
  state.level1 + state.level2 + state.level3 + state.level4

/-- A level is at most 10. -/
abbrev InRange (value : Int) : Prop := 0 ≤ value ∧ value ≤ 10

structure Valid (state : LevelState X) : Prop where
  id : 0 < state.id
  points : 0 ≤ state.points ∧ state.points ≤ 35
  level1 : InRange state.level1
  level2 : InRange state.level2
  level3 : InRange state.level3
  level4 : InRange state.level4
  budget : state.allocated ≤ 35

theorem Valid.allocated_nonneg {state : LevelState X} (h : state.Valid) : 0 ≤ state.allocated := by
  have h₁ := h.level1.1
  have h₂ := h.level2.1
  have h₃ := h.level3.1
  have h₄ := h.level4.1
  unfold allocated
  omega

theorem inRange_zero : InRange 0 := ⟨Int.le_refl 0, Int.zero_le_ofNat 10⟩

/-- A record with no levels is valid, with no points or with all of them. -/
theorem valid_of_zero {state : LevelState X} (hid : 0 < state.id)
    (hpoints : state.points = 0 ∨ state.points = 35) (hlevels : state.levels = [0, 0, 0, 0]) :
    state.Valid := by
  injection hlevels with e₁ hlevels
  injection hlevels with e₂ hlevels
  injection hlevels with e₃ hlevels
  injection hlevels with e₄ _
  refine ⟨hid, by omega, e₁ ▸ inRange_zero, e₂ ▸ inRange_zero, e₃ ▸ inRange_zero,
    e₄ ▸ inRange_zero, ?_⟩
  unfold allocated
  omega

end LevelState

open LevelState

/-- The sum of four levels in range cannot overflow. -/
theorem allocate_eq {a b c d : Int} (ha : InRange a) (hb : InRange b) (hc : InRange c)
    (hd : InRange d) : allocate [a, b, c, d] = .ok (a + b + c + d) := by
  have h₁ : checkedAdd 0 a = some (0 + a) := checkedAdd_of_range (by omega) (by omega)
  have h₂ : checkedAdd (0 + a) b = some (0 + a + b) := checkedAdd_of_range (by omega) (by omega)
  have h₃ : checkedAdd (0 + a + b) c = some (0 + a + b + c) :=
    checkedAdd_of_range (by omega) (by omega)
  have h₄ : checkedAdd (0 + a + b + c) d = some (0 + a + b + c + d) :=
    checkedAdd_of_range (by omega) (by omega)
  unfold allocate
  simp only [List.foldlM_cons, List.foldlM_nil]
  refine okOr_bind.mpr ⟨_, h₁, okOr_bind.mpr ⟨_, h₂, okOr_bind.mpr ⟨_, h₃, ?_⟩⟩⟩
  refine okOr_bind.mpr ⟨_, h₄, ?_⟩
  rw [Int.zero_add]
  rfl

/-- 35 minus the sum cannot overflow either: this is where a sum above 35 goes through. -/
theorem remainingPoints_eq {a b c d : Int} (ha : InRange a) (hb : InRange b) (hc : InRange c)
    (hd : InRange d) : remainingPoints [a, b, c, d] = .ok (35 - (a + b + c + d)) := by
  have hsum := allocate_eq ha hb hc hd
  have hsub : checkedSub 35 (a + b + c + d) = some (35 - (a + b + c + d)) :=
    checkedAdd_of_range (by omega) (by omega)
  unfold remainingPoints
  rw [hsum]
  show okOr _ (checkedSub 35 (a + b + c + d)) = _
  rw [hsub]
  rfl

theorem validateLevelState_ok {state : LevelState X} :
    validateLevelState state = .ok () ↔ state.Valid := by
  unfold validateLevelState checkLevel
  simp only [check_bind]
  constructor
  · intro ⟨hid, hpoints, h₁, h₂, h₃, h₄, hrest⟩
    have hsum : allocate state.levels = .ok state.allocated := allocate_eq h₁ h₂ h₃ h₄
    rw [hsum] at hrest
    exact ⟨hid, hpoints, h₁, h₂, h₃, h₄, check_eq_ok.mp hrest⟩
  · intro h
    have hsum : allocate state.levels = .ok state.allocated :=
      allocate_eq h.level1 h.level2 h.level3 h.level4
    refine ⟨h.id, h.points, h.level1, h.level2, h.level3, h.level4, ?_⟩
    rw [hsum]
    exact check_eq_ok.mpr h.budget

/-- A record as the file keeps it once it was written. -/
structure LevelState.Stored (state : LevelState X) : Prop where
  valid : state.Valid
  serial : normalizeKartSerial state.id state.serial = state.serial

theorem readLevelState_ok {state next : LevelState X} (h : readLevelState state = .ok next) :
    next.Stored := by
  obtain ⟨_, hvalid, hnext⟩ := bind_eq_ok h
  cases hnext
  have hstate := validateLevelState_ok.mp hvalid
  exact ⟨⟨hstate.id, hstate.points, hstate.level1, hstate.level2, hstate.level3, hstate.level4,
    hstate.budget⟩, normalizeKartSerial_idem _ _⟩

theorem LevelState.Stored.read {state : LevelState X} (h : state.Stored) :
    readLevelState state = .ok state := by
  refine bind_eq_ok_iff.mpr ⟨(), validateLevelState_ok.mpr h.valid, ?_⟩
  rw [h.serial]
  rfl

/-- The records that the loader returns. -/
abbrev LevelTable (states : List (LevelState X)) : Prop :=
  Table LevelState.key LevelState.Stored states

theorem parseLevelStates_table {file : SidecarFile (LevelState X)} {states : List (LevelState X)}
    (h : parseLevelStates file = .ok states) : LevelTable states := by
  cases file with
  | none =>
    cases h
    exact .nil
  | some records =>
    obtain ⟨hroom, h⟩ := check_bind.mp h
    obtain ⟨read, hread, hstates⟩ := bind_eq_ok h
    cases hstates
    refine table_deduplicateLast (fun state hm => ?_) ?_
    · obtain ⟨record, _, hs⟩ := mapM_mem hread hm
      exact readLevelState_ok hs
    · rw [← (mapM_forall₂ (R := fun _ _ => True) (fun _ _ _ => trivial) hread).length_eq]
      exact hroom

/-- What such a file is read back as. -/
theorem parse_levelTable {states : List (LevelState X)} (h : LevelTable states) :
    parseLevelStates (some states) = .ok states := by
  refine check_bind.mpr ⟨h.room, bind_eq_ok_iff.mpr ⟨states, ?_, ?_⟩⟩
  · exact mapM_self fun state hm => (h.each state hm).read
  · rw [deduplicateLast_of_keyed h.keyed]
    rfl

/-! ## What a call does to a record -/

/-- The call asks for levels that are each in range and together cost more than 35 points. -/
def LevelCall.Overspends (state : LevelState X) : LevelCall → Prop
  | .updatePoints additions =>
    InRange (state.level1 + additions.1) ∧ InRange (state.level2 + additions.2.1) ∧
    InRange (state.level3 + additions.2.2.1) ∧ InRange (state.level4 + additions.2.2.2) ∧
    35 < state.level1 + additions.1 + (state.level2 + additions.2.1) +
      (state.level3 + additions.2.2.1) + (state.level4 + additions.2.2.2)
  | _ => False

instance (state : LevelState X) : (call : LevelCall) → Decidable (call.Overspends state)
  | .upgrade => inferInstanceAs (Decidable False)
  | .updatePoints _ => inferInstanceAs (Decidable (_ ∧ _ ∧ _ ∧ _ ∧ _))
  | .clearPoints => inferInstanceAs (Decidable False)
  | .updateEffect _ => inferInstanceAs (Decidable False)

/-- The call spends or gives back points. -/
def LevelCall.budgets : LevelCall → Bool
  | .updateEffect _ => false
  | _ => true

/-- What becomes of a record: the same kart, with the unknown fields it had. -/
structure Edited (call : LevelCall) (state next : LevelState X) : Prop where
  key : next.key = state.key
  extra : next.extra = state.extra
  budget : call.budgets = true → next.points + next.allocated = 35
  valid : next.Valid ↔ ¬ call.Overspends state

theorem edited_renewed {state : LevelState X} (h : 0 < state.id) {call : LevelCall}
    (hno : ¬ call.Overspends state) (effect : Int) :
    Edited call state { state.renewed with effect } where
  key := rfl
  extra := rfl
  budget := fun _ => rfl
  valid := iff_of_true (valid_of_zero h (.inr rfl) rfl) hno

theorem raiseLevel_ok {slot : Nat} {current addition next : Int}
    (h : raiseLevel slot current addition = .ok next) :
    next = current + addition ∧ InRange next := by
  obtain ⟨sum, hsum, h⟩ := okOr_bind.mp h
  obtain ⟨hrange, hnext⟩ := check_bind.mp h
  cases hnext
  unfold checkedAdd at hsum
  split at hsum
  next =>
    cases hsum
    exact ⟨rfl, hrange⟩
  next => exact absurd hsum (by simp)

theorem upgradeMutation_edited {state next : LevelState X} {existed : Bool} (hv : state.Valid)
    (h : upgradeMutation state existed = .ok next) : Edited .upgrade state next := by
  unfold upgradeMutation at h
  by_cases hnew : existed = false ∨ state.grade ≠ 5
  · rw [if_pos hnew] at h
    cases h
    have hno : ¬ LevelCall.Overspends state .upgrade := fun h => h
    exact edited_renewed hv.id hno state.effect
  · rw [if_neg hnew] at h
    have hpoints : remainingPoints state.levels = .ok (35 - state.allocated) :=
      remainingPoints_eq hv.level1 hv.level2 hv.level3 hv.level4
    rw [hpoints] at h
    cases h
    refine ⟨rfl, rfl, fun _ => ?_, iff_of_true ?_ not_false⟩
    · show 35 - state.allocated + state.allocated = 35
      omega
    · refine ⟨hv.id, ?_, hv.level1, hv.level2, hv.level3, hv.level4, hv.budget⟩
      -- the levels of an accepted record are within the budget, so no point is owed
      have hlow := hv.allocated_nonneg
      have hbudget := hv.budget
      show 0 ≤ 35 - state.allocated ∧ 35 - state.allocated ≤ 35
      omega

theorem updateMutation_edited {additions : Int × Int × Int × Int} {state next : LevelState X}
    {existed : Bool} (hid : 0 < state.id)
    (h : updateMutation additions state existed = .ok next) :
    Edited (.updatePoints additions) state next := by
  obtain ⟨level1, h₁, h⟩ := bind_eq_ok h
  obtain ⟨level2, h₂, h⟩ := bind_eq_ok h
  obtain ⟨level3, h₃, h⟩ := bind_eq_ok h
  obtain ⟨level4, h₄, h⟩ := bind_eq_ok h
  obtain ⟨hl₁, hr₁⟩ := raiseLevel_ok h₁
  obtain ⟨hl₂, hr₂⟩ := raiseLevel_ok h₂
  obtain ⟨hl₃, hr₃⟩ := raiseLevel_ok h₃
  obtain ⟨hl₄, hr₄⟩ := raiseLevel_ok h₄
  rw [remainingPoints_eq hr₁ hr₂ hr₃ hr₄] at h
  cases h
  have hstate : (state.started existed).levels = state.levels ∧
      (state.started existed).id = state.id ∧ (state.started existed).key = state.key ∧
      (state.started existed).extra = state.extra := by
    cases existed <;> exact ⟨rfl, rfl, rfl, rfl⟩
  obtain ⟨hlevels, hid', hkey, hextra⟩ := hstate
  injection hlevels with e₁ hlevels
  injection hlevels with e₂ hlevels
  injection hlevels with e₃ hlevels
  injection hlevels with e₄ _
  rw [e₁] at hl₁
  rw [e₂] at hl₂
  rw [e₃] at hl₃
  rw [e₄] at hl₄
  refine ⟨hkey, hextra, fun _ => ?_, fun hvalid hspends => ?_, fun hspends => ?_⟩
  · show 35 - (level1 + level2 + level3 + level4) + (level1 + level2 + level3 + level4) = 35
    omega
  · -- the raised levels are those of the record that is written
    have hover := hspends.2.2.2.2
    rw [← hl₁, ← hl₂, ← hl₃, ← hl₄] at hover
    have hbudget : level1 + level2 + level3 + level4 ≤ 35 := hvalid.budget
    omega
  · have hbudget : level1 + level2 + level3 + level4 ≤ 35 := by
      by_contra hover
      exact hspends ⟨hl₁ ▸ hr₁, hl₂ ▸ hr₂, hl₃ ▸ hr₃, hl₄ ▸ hr₄, by omega⟩
    refine ⟨hid'.symm ▸ hid, ?_, hr₁, hr₂, hr₃, hr₄, hbudget⟩
    show 0 ≤ 35 - (level1 + level2 + level3 + level4) ∧ 35 - (level1 + level2 + level3 + level4) ≤ 35
    omega

theorem effectMutation_edited {effect : Int} {state next : LevelState X} {existed : Bool}
    (hv : state.Valid) (h : effectMutation effect state existed = .ok next) :
    Edited (.updateEffect effect) state next := by
  cases h
  cases existed with
  | true =>
    exact ⟨rfl, rfl, fun hb => absurd hb (by simp [LevelCall.budgets]), iff_of_true
      ⟨hv.id, hv.points, hv.level1, hv.level2, hv.level3, hv.level4, hv.budget⟩ not_false⟩
  | false =>
    have hpoints : (0 : Int) ≤ 35 ∧ (35 : Int) ≤ 35 := by decide
    exact ⟨rfl, rfl, fun hb => absurd hb (by simp [LevelCall.budgets]), iff_of_true
      ⟨hv.id, hpoints, hv.level1, hv.level2, hv.level3, hv.level4, hv.budget⟩ not_false⟩

theorem mutation_edited {call : LevelCall} {state next : LevelState X} {existed : Bool}
    (hv : state.Valid) (h : call.mutation state existed = .ok next) : Edited call state next := by
  cases call with
  | upgrade => exact upgradeMutation_edited hv h
  | updatePoints additions => exact updateMutation_edited hv.id h
  | clearPoints =>
    cases h
    have hno : ¬ LevelCall.Overspends state .clearPoints := fun h => h
    exact edited_renewed hv.id hno 0
  | updateEffect effect => exact effectMutation_edited hv h

/-! ## Calls and runs -/

/-- The record that a call is about, which a missing one stands for. -/
def addressed [Inhabited X] (states : List (LevelState X)) (key : Int × Int) : LevelState X :=
  (states.find? fun state => state.key = key).getD (.fresh key.1 key.2)

namespace LevelAction

/-- The key that the call looks for. -/
def key (action : LevelAction X) : Int × Int :=
  (action.kartId, normalizeKartSerial action.kartId action.kartSerial)

/-- The call would spend more than the 35 points on the record that the file has. -/
def Overspends [Inhabited X] (file : SidecarFile (LevelState X)) (action : LevelAction X) : Prop :=
  match parseLevelStates file with
  | .ok states => action.call.Overspends (addressed states action.key)
  | .error _ => False

theorem overspends_iff [Inhabited X] {file : SidecarFile (LevelState X)} {action : LevelAction X}
    {states : List (LevelState X)} (h : parseLevelStates file = .ok states) :
    action.Overspends file ↔ action.call.Overspends (addressed states action.key) := by
  unfold Overspends
  rw [h]

theorem not_overspends [Inhabited X] {file : SidecarFile (LevelState X)} {action : LevelAction X}
    {e : EquipmentStateError} (h : parseLevelStates file = .error e) :
    ¬ action.Overspends file := by
  unfold Overspends
  rw [h]
  exact not_false

instance [Inhabited X] (file : SidecarFile (LevelState X)) (action : LevelAction X) :
    Decidable (action.Overspends file) :=
  match h : parseLevelStates file with
  | .ok _ => decidable_of_iff _ (overspends_iff h).symm
  | .error _ => .isFalse (not_overspends h)

end LevelAction

/-- What a call that went through leaves: the records before it as the loader takes them,
with the addressed one edited, and this is what the loader takes now. -/
structure Published [Inhabited X] (action : LevelAction X) (states written : List (LevelState X))
    (value : KartLevelExcRecord) : Prop where
  accepted : parseLevelStates (some written) = .ok written
  table : LevelTable written
  record : ∃ next, written.find? (fun state => state.key = action.key) = some next ∧
    value = next.asException ∧ next.extra = (addressed states action.key).extra ∧
    (action.call.budgets = true →
      next.points + next.level1 + next.level2 + next.level3 + next.level4 = 35)
  others : written.filter (fun state => state.key ≠ action.key) =
    states.filter (fun state => state.key ≠ action.key)

/-- What is promised of a call: if it fails the file stays, and else it is published. -/
def CallKept [Inhabited X] (file : SidecarFile (LevelState X)) (action : LevelAction X)
    (result : Except EquipmentStateError (EquipmentMutationOutcome KartLevelExcRecord))
    (file' : SidecarFile (LevelState X)) : Prop :=
  (∀ e, result = .error e → file' = file) ∧
  ∀ outcome, result = .ok outcome → ∃ states written, parseLevelStates file = .ok states ∧
    file' = some written ∧ Published action states written outcome.value

/-- A record with the key of a call has a normalized serial. -/
theorem LevelAction.serial {action : LevelAction X} {next : LevelState X}
    (h : next.key = action.key) : normalizeKartSerial next.id next.serial = next.serial := by
  have hid : next.id = action.kartId := congrArg Prod.fst h
  have hserial : next.serial = normalizeKartSerial action.kartId action.kartSerial :=
    congrArg Prod.snd h
  rw [hid, hserial]
  exact normalizeKartSerial_idem _ _

section Runs

variable [Inhabited X] {file file' : SidecarFile (LevelState X)} {action : LevelAction X}

theorem run_eq (action : LevelAction X) : action.run =
    mutateLevelStateCapability action.io action.kartId action.kartSerial action.call.mutation := by
  unfold LevelAction.run
  cases action.call <;> rfl

theorem atomic_mutateLevelState (io : SidecarIo (LevelState X)) (kartId kartSerial : Int)
    (mutation : LevelState X → Bool → Except EquipmentStateError (LevelState X)) :
    Atomic (mutateLevelStateCapability io kartId kartSerial mutation) := by
  unfold mutateLevelStateCapability
  refine (readsOnly_ensure _ _).bind fun _ => readsOnly_read.bind fun file => ?_
  refine (readsOnly_liftResult _).bind fun states => (readsOnly_liftResult _).bind fun spot => ?_
  refine (readsOnly_liftResult _).bind fun next => ?_
  exact (atomic_write _ _).bind fun _ => succeeds_pure _

/-- The spot that is found or pushed. -/
theorem findOrPush_at {states : List (LevelState X)} {kartId serial : Int}
    {spot : Spot (LevelState X)} (h : findOrPushLevelState states kartId serial = .ok spot) :
    spot.At LevelState.key states (kartId, serial) (some (.fresh kartId serial)) ∧
      ((kartId, serial) ∉ states.map LevelState.key → states.length < maxEquipmentRecords) := by
  unfold findOrPushLevelState at h
  split at h
  next spot' hfind =>
    cases h
    have hspot := Spot.find?_at hfind (some (.fresh kartId serial))
    exact ⟨hspot, fun hno => absurd (Spot.find?_mem hfind) hno⟩
  next hnone =>
    obtain ⟨hroom, h⟩ := check_bind.mp h
    cases h
    exact ⟨Spot.push_at (Spot.find?_none hnone) _, fun _ => hroom⟩

/-- A call that goes through: what it read, changed and wrote. -/
theorem yields_mutateLevelState {io : SidecarIo (LevelState X)} {kartId kartSerial : Int}
    {mutation : LevelState X → Bool → Except EquipmentStateError (LevelState X)}
    {outcome : EquipmentMutationOutcome KartLevelExcRecord}
    (h : Yields (mutateLevelStateCapability io kartId kartSerial mutation) file outcome file') :
    0 < kartId ∧ ∃ states spot next, parseLevelStates file = .ok states ∧
      findOrPushLevelState states kartId (normalizeKartSerial kartId kartSerial) = .ok spot ∧
      mutation spot.row spot.existed = .ok next ∧ outcome.value = next.asException ∧
      file' = some (spot.set next) := by
  obtain ⟨hid, h⟩ := yields_ensure_bind.mp h
  have h := yields_read_bind h
  obtain ⟨states, hparse, h⟩ := yields_liftResult_bind.mp h
  obtain ⟨spot, hspot, h⟩ := yields_liftResult_bind.mp h
  obtain ⟨next, hnext, h⟩ := yields_liftResult_bind.mp h
  obtain ⟨warning, written, hwrite, h⟩ := yields_bind.mp h
  obtain ⟨rfl, rfl⟩ := yields_pure.mp h
  exact ⟨hid, states, spot, next, hparse, hspot, hnext, rfl, yields_write hwrite⟩

/-- The row that is changed is the addressed one, and it is valid. -/
theorem addressed_of_at {states : List (LevelState X)} (htable : LevelTable states)
    {kartId serial : Int} {spot : Spot (LevelState X)} (hid : 0 < kartId)
    (h : spot.At LevelState.key states (kartId, serial) (some (.fresh kartId serial))) :
    spot.row = addressed states (kartId, serial) ∧ spot.row.Valid ∧
      spot.row.key = (kartId, serial) := by
  have hrow := h.row
  unfold addressed
  cases hfind : states.find? (fun state => state.key = (kartId, serial)) with
  | none =>
    rw [hfind] at hrow
    rw [← Option.some.inj hrow]
    exact ⟨rfl, valid_of_zero hid (.inl rfl) rfl, rfl⟩
  | some row =>
    rw [hfind] at hrow
    rw [← Option.some.inj hrow]
    exact ⟨rfl, (htable.each _ (List.mem_of_find?_eq_some hfind)).valid,
      key_of_find hfind⟩

/-- A call that goes through edits the record that it is about. -/
theorem run_ok {outcome : EquipmentMutationOutcome KartLevelExcRecord}
    (h : (action.run.run.run file : Except _ _ × _) = (.ok outcome, file')) :
    ∃ states next, parseLevelStates file = .ok states ∧
      Edited action.call (addressed states action.key) next ∧ next.key = action.key ∧
      outcome.value = next.asException ∧ file' = some (upsert LevelState.key states next) ∧
      (action.key ∉ states.map LevelState.key → states.length < maxEquipmentRecords) := by
  rw [run_eq] at h
  obtain ⟨hid, states, spot, next, hparse, hspot, hnext, hvalue, hfile⟩ := yields_mutateLevelState h
  obtain ⟨hat, hroom⟩ := findOrPush_at hspot
  obtain ⟨hrow, hvalid, hkey⟩ := addressed_of_at (parseLevelStates_table hparse) hid hat
  have hedited := mutation_edited hvalid hnext
  have hnextkey : next.key = action.key := hedited.key.trans hkey
  rw [hat.set next hnextkey] at hfile
  exact ⟨states, next, hparse, hrow ▸ hedited, hnextkey, hvalue, hfile, hroom⟩

/-- One call keeps the file as the loader wants it, unless it overspends. -/
theorem run_kept (hspends : ¬ action.Overspends file)
    {result : Except EquipmentStateError (EquipmentMutationOutcome KartLevelExcRecord)}
    (h : (action.run.run.run file : Except _ _ × _) = (result, file')) :
    CallKept file action result file' := by
  refine ⟨fun e he => ?_, fun outcome he => ?_⟩
  · rw [he, run_eq] at h
    exact atomic_mutateLevelState _ _ _ _ _ _ _ h
  · rw [he] at h
    obtain ⟨states, next, hparse, hedited, hkey, hvalue, hfile, hroom⟩ := run_ok h
    rw [LevelAction.overspends_iff hparse] at hspends
    have hnew := (parseLevelStates_table hparse).upsert
      ⟨hedited.valid.mpr hspends, LevelAction.serial hkey⟩ (hkey ▸ hroom)
    refine ⟨states, _, hparse, hfile, parse_levelTable hnew, hnew, ⟨next, ?_, hvalue, hedited.extra,
      fun hb => ?_⟩, ?_⟩
    · rw [← hkey]
      exact find_upsert states next
    · have hbudget := hedited.budget hb
      unfold allocated at hbudget
      omega
    · rw [← hkey]
      exact filter_upsert states next

/-- A call that overspends and goes through leaves a file that the loader refuses. -/
theorem overspent_refused (hspends : action.Overspends file)
    {outcome : EquipmentMutationOutcome KartLevelExcRecord}
    (h : (action.run.run.run file : Except _ _ × _) = (.ok outcome, file'))
    (states : List (LevelState X)) : parseLevelStates file' ≠ .ok states := by
  intro hreread
  obtain ⟨read, next, hparse, hedited, _, _, rfl, _⟩ := run_ok h
  rw [LevelAction.overspends_iff hparse] at hspends
  obtain ⟨_, hreread⟩ := check_bind.mp hreread
  obtain ⟨_, hread, _⟩ := bind_eq_ok hreread
  have hmem : next ∈ Lib.upsert LevelState.key read next :=
    List.mem_of_find?_eq_some (find_upsert read next)
  obtain ⟨_, hnext⟩ := mapM_each hread hmem
  obtain ⟨_, hvalid, _⟩ := bind_eq_ok hnext
  exact hedited.valid.mp (validateLevelState_ok.mp hvalid) hspends

/-- Calls that do not overspend leave a file that is accepted. -/
theorem accepted_of_runBy {records : SidecarFile (LevelState X)} {states : List (LevelState X)}
    (haccepted : parseLevelStates records = .ok states)
    (h : (levelMachine records).RunBy (fun file action => ¬ action.Overspends file) records file) :
    ∃ states, parseLevelStates file = .ok states := by
  refine h.invariant (P := fun file => ∃ states, parseLevelStates file = .ok states)
    ⟨states, haccepted⟩ ?_
  intro file file' action result ih hspends hstep
  obtain ⟨hfailed, hdone⟩ := run_kept hspends (Option.some.inj hstep)
  cases result with
  | error e => exact hfailed e rfl ▸ ih
  | ok outcome =>
    obtain ⟨_, written, _, rfl, hpublished⟩ := hdone outcome rfl
    exact ⟨written, hpublished.accepted⟩

/-- Whatever calls a file has gone through, none of which overspends: it is accepted, and the
next call keeps what is promised, unless it overspends and goes through. -/
theorem level_calls_kept {records : SidecarFile (LevelState X)} {states : List (LevelState X)}
    (haccepted : parseLevelStates records = .ok states)
    (hrun : (levelMachine records).RunBy (fun file action => ¬ action.Overspends file)
      records file)
    {result : Except EquipmentStateError (EquipmentMutationOutcome KartLevelExcRecord)}
    (hstep : (levelMachine records).step file action = some (result, file')) :
    (∃ states, parseLevelStates file = .ok states) ∧
      (CallKept file action result file' ↔ ¬ (action.Overspends file ∧ result.isOk)) := by
  have hcall : (action.run.run.run file : Except _ _ × _) = (result, file') :=
    Option.some.inj hstep
  refine ⟨accepted_of_runBy haccepted hrun, fun hkept => ?_, fun hspends => ?_⟩
  · intro ⟨hspends, hok⟩
    cases result with
    | error e => exact absurd hok (by simp [Except.isOk, Except.toBool])
    | ok outcome =>
      obtain ⟨_, written, _, rfl, hpublished⟩ := hkept.2 outcome rfl
      exact overspent_refused hspends hcall written hpublished.accepted
  · cases result with
    | error e =>
      rw [run_eq] at hcall
      have hfile : file' = file := atomic_mutateLevelState _ _ _ _ _ _ _ hcall
      exact ⟨fun _ _ => hfile, fun _ h => absurd h (by simp)⟩
    | ok outcome => exact run_kept (fun h => hspends ⟨h, rfl⟩) hcall

end Runs

/-! ## A kart with one level to spare -/

def sampleLevelIo : SidecarIo (LevelState Unit) where
  read := .ok ()
  serialized := fun states => .ok (200 * states.length)
  temporary := .ok ()
  rename := .ok ()
  sync := .ok ()

/-- Thirty of the 35 points are spent. -/
def sampleLevels : SidecarFile (LevelState Unit) := some [⟨1401, 0, 5, 5, 10, 10, 10, 0, 0, ()⟩]

/-- The fourth level of this kart is raised. -/
def sampleRaise (points : Int) : LevelAction Unit :=
  ⟨sampleLevelIo, 1401, 1, .updatePoints (0, 0, 0, points)⟩

theorem sample_level_calls_kept : CallKept (some [⟨1401, 1, 5, 1, 10, 10, 10, 4, 0, ()⟩])
    (sampleRaise 1) (.ok ⟨⟨1401, 1, 5, 0, 10, 10, 10, 5, 0⟩, none⟩)
    (some [⟨1401, 1, 5, 0, 10, 10, 10, 5, 0, ()⟩]) := by
  have haccepted : parseLevelStates sampleLevels =
      .ok [⟨1401, 1, 5, 5, 10, 10, 10, 0, 0, ()⟩] := rfl
  have hrun : (levelMachine sampleLevels).RunBy (fun file action => ¬ action.Overspends file)
      sampleLevels (some [⟨1401, 1, 5, 1, 10, 10, 10, 4, 0, ()⟩]) := by
    have hspends : ¬ (sampleRaise 4).Overspends sampleLevels := by decide
    exact .step .refl hspends rfl
  exact (level_calls_kept haccepted hrun rfl).2.mpr (by decide)

/-- A raise by ten is written with minus five points left, and the file is refused from then
on. -/
theorem sample_overspent : ¬ ∀ (file file' : SidecarFile (LevelState Unit))
    (action : LevelAction Unit)
    (result : Except EquipmentStateError (EquipmentMutationOutcome KartLevelExcRecord)),
    (∃ states, parseLevelStates file = .ok states) →
      (levelMachine file).step file action = some (result, file') →
        CallKept file action result file' := by
  intro h
  have hwritten : (levelMachine sampleLevels).step sampleLevels (sampleRaise 10) =
      some (.ok ⟨⟨1401, 1, 5, -5, 10, 10, 10, 10, 0⟩, none⟩,
        some [⟨1401, 1, 5, -5, 10, 10, 10, 10, 0, ()⟩]) := rfl
  have haccepted : parseLevelStates sampleLevels =
      .ok [⟨1401, 1, 5, 5, 10, 10, 10, 0, 0, ()⟩] := rfl
  obtain ⟨_, written, _, hfile, hpublished⟩ := (h _ _ _ _ ⟨_, haccepted⟩ hwritten).2 _ rfl
  have hrefused : parseLevelStates (some [(⟨1401, 1, 5, -5, 10, 10, 10, 10, 0, ()⟩ :
      LevelState Unit)]) = .error (.invalidKartLevelRemainingPoints (-5)) := rfl
  have hreread := hpublished.accepted
  rw [← hfile, hrefused] at hreread
  cases hreread

end P4475.Profile
