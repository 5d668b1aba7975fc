import P4475.Lib.Machine

/-!
# The booster charger

The charger part of `native/p4475-xun-sidecar/src/xun_physics_state.cpp`: a part that switches
itself on after a number of booster uses and off after a time. The counters are 32-bit words and
wrap as in the source; the tuning's factors, which the transitions do not read, are left out, and
so is the null pointer, for which every call answers `none`.
-/

namespace P4475.Xun

open Lib

/-- `ChargerTuning`: the fields that the transitions read. -/
structure ChargerTuning where
  enabled : Bool
  boosterUseCount : UInt32
  useTimeMs : UInt32

structure ChargerState where
  active : Bool := false
  totalBoosterUses : UInt32 := 0
  activationCount : UInt32 := 0
  pendingBoosterUses : UInt32 := 0
  activeUntilMs : UInt32 := 0

inductive ChargerTransition
  | none
  | activated
  | deactivated
  deriving DecidableEq

namespace ChargerState

/-- `set_active`. -/
def setActive (state : ChargerState) (tuning : ChargerTuning) (nowMs : UInt32) (active : Bool) :
    ChargerTransition × ChargerState :=
  if !tuning.enabled || state.active == active then (.none, state)
  else if active && state.pendingBoosterUses != tuning.boosterUseCount then (.none, state)
  else if active then
    (.activated, { state with
      active := active
      pendingBoosterUses := 0
      activationCount := state.activationCount + 1
      activeUntilMs := nowMs + tuning.useTimeMs })
  else
    (.deactivated, { state with
      active := active
      pendingBoosterUses := 0
      activeUntilMs := 0 })

/-- The counters that an accepted booster event moves. -/
def countBooster (state : ChargerState) (tuning : ChargerTuning) : ChargerState :=
  { state with
    totalBoosterUses := state.totalBoosterUses + 1
    pendingBoosterUses :=
      if tuning.enabled && !state.active then state.pendingBoosterUses + 1
      else state.pendingBoosterUses }

/-- `observe_drive_event`. -/
def observeDriveEvent (state : ChargerState) (tuning : ChargerTuning) (nowMs : UInt32)
    (eventKind : UInt8) (excludedState : Bool) : ChargerTransition × ChargerState :=
  let state :=
    if !excludedState && (eventKind == 3 || eventKind == 4) then state.countBooster tuning
    else state
  if !tuning.enabled || tuning.boosterUseCount == 0 || state.active then (.none, state)
  else if state.totalBoosterUses / tuning.boosterUseCount ≤ state.activationCount ∨
      nowMs < state.activeUntilMs then (.none, state)
  else state.setActive tuning nowMs true

/-- `tick_charger`. -/
def tickCharger (state : ChargerState) (tuning : ChargerTuning) (nowMs : UInt32) :
    ChargerTransition × ChargerState :=
  if !tuning.enabled || !state.active then (.none, state)
  else if state.activeUntilMs ≠ 0 ∧ state.activeUntilMs < nowMs then
    state.setActive tuning nowMs false
  else (.none, state)

end ChargerState

/-- `reset_charger`: what it writes. -/
def resetCharger : ChargerState := {}

inductive ChargerCall
  | observeDriveEvent (nowMs : UInt32) (eventKind : UInt8) (excludedState : Bool)
  | tickCharger (nowMs : UInt32)

namespace ChargerCall

def nowMs : ChargerCall → UInt32
  | observeDriveEvent nowMs _ _ => nowMs
  | tickCharger nowMs => nowMs

/-- An accepted booster event: of kind 3 or 4, and not excluded. -/
def boosts : ChargerCall → Bool
  | observeDriveEvent _ eventKind excludedState =>
    !excludedState && (eventKind == 3 || eventKind == 4)
  | tickCharger _ => false

/-- A tick strictly later than `deadline`. -/
def ticksAfter (deadline : Nat) : ChargerCall → Bool
  | observeDriveEvent _ _ _ => false
  | tickCharger nowMs => decide (deadline < nowMs.toNat)

/-- What the call answers, and the state it leaves. -/
def apply (call : ChargerCall) (tuning : ChargerTuning) (state : ChargerState) :
    ChargerTransition × ChargerState :=
  match call with
  | observeDriveEvent nowMs eventKind excludedState =>
    state.observeDriveEvent tuning nowMs eventKind excludedState
  | tickCharger nowMs => state.tickCharger tuning nowMs

end ChargerCall

/-- The charger of one tuning, from its reset state. -/
def charger (tuning : ChargerTuning) : Machine ChargerState ChargerCall ChargerTransition where
  init := resetCharger
  step state call := some (call.apply tuning state)

/-! ## What a call does -/

section
variable {tuning : ChargerTuning} {state : ChargerState}

/-- A call that is no accepted booster event leaves an inactive charger alone while it has
fewer uses than it needs. -/
theorem apply_waiting (hactive : state.active = false)
    (hpending : state.pendingBoosterUses ≠ tuning.boosterUseCount) {call : ChargerCall}
    (hboost : call.boosts = false) : call.apply tuning state = (.none, state) := by
  cases call with
  | tickCharger nowMs =>
    show state.tickCharger tuning nowMs = _
    unfold ChargerState.tickCharger
    rw [if_pos (by simp [hactive])]
  | observeDriveEvent nowMs eventKind excludedState =>
    show state.observeDriveEvent tuning nowMs eventKind excludedState = _
    have hcond : (!excludedState && (eventKind == 3 || eventKind == 4)) = false := hboost
    unfold ChargerState.observeDriveEvent ChargerState.setActive
    simp only [hcond, Bool.false_eq_true, if_false]
    split
    · rfl
    · split
      · rfl
      · simp [hactive, hpending]

/-- An accepted booster event that does not complete the uses is counted. -/
theorem apply_booster (henabled : tuning.enabled = true) (hactive : state.active = false)
    (hpending : state.pendingBoosterUses + 1 ≠ tuning.boosterUseCount) {call : ChargerCall}
    (hboost : call.boosts = true) :
    call.apply tuning state = (.none, { state with
      totalBoosterUses := state.totalBoosterUses + 1
      pendingBoosterUses := state.pendingBoosterUses + 1 }) := by
  cases call with
  | tickCharger nowMs => exact absurd hboost Bool.false_ne_true
  | observeDriveEvent nowMs eventKind excludedState =>
    show state.observeDriveEvent tuning nowMs eventKind excludedState = _
    have hcond : (!excludedState && (eventKind == 3 || eventKind == 4)) = true := hboost
    unfold ChargerState.observeDriveEvent ChargerState.setActive ChargerState.countBooster
    simp only [hcond, if_true, hactive, henabled, Bool.not_false, Bool.and_self]
    split
    · rfl
    · split
      · rfl
      · simp [hpending]

/-- An accepted booster event that completes the uses activates, where the total has kept up. -/
theorem apply_last_booster (henabled : tuning.enabled = true) (hcount : tuning.boosterUseCount ≠ 0)
    (hactive : state.active = false) (huntil : state.activeUntilMs = 0)
    (hpending : state.pendingBoosterUses + 1 = tuning.boosterUseCount)
    (htotal : state.activationCount < (state.totalBoosterUses + 1) / tuning.boosterUseCount)
    {call : ChargerCall} (hboost : call.boosts = true) :
    call.apply tuning state = (.activated, {
      active := true
      totalBoosterUses := state.totalBoosterUses + 1
      activationCount := state.activationCount + 1
      pendingBoosterUses := 0
      activeUntilMs := call.nowMs + tuning.useTimeMs }) := by
  cases call with
  | tickCharger nowMs => exact absurd hboost Bool.false_ne_true
  | observeDriveEvent nowMs eventKind excludedState =>
    show state.observeDriveEvent tuning nowMs eventKind excludedState = _
    have hcond : (!excludedState && (eventKind == 3 || eventKind == 4)) = true := hboost
    have hquotient : ¬ ((state.totalBoosterUses + 1) / tuning.boosterUseCount ≤
        state.activationCount ∨ nowMs < 0) := by
      rw [UInt32.le_iff_toNat_le, UInt32.lt_iff_toNat_lt]
      rw [UInt32.lt_iff_toNat_lt] at htotal
      have hzero : (0 : UInt32).toNat = 0 := rfl
      omega
    unfold ChargerState.observeDriveEvent ChargerState.setActive ChargerState.countBooster
    simp only [hcond, if_true, hactive, henabled, huntil, Bool.not_false, Bool.and_self]
    rw [if_neg (by simp [hcount]), if_neg hquotient]
    simp [hpending, ChargerCall.nowMs]

/-- A tick after the deadline deactivates. -/
theorem apply_late_tick (henabled : tuning.enabled = true) (hactive : state.active = true)
    (huntil : state.activeUntilMs ≠ 0) {call : ChargerCall}
    (hlate : call.ticksAfter state.activeUntilMs.toNat = true) :
    call.apply tuning state = (.deactivated, { state with
      active := false
      pendingBoosterUses := 0
      activeUntilMs := 0 }) := by
  cases call with
  | observeDriveEvent nowMs eventKind excludedState => exact absurd hlate Bool.false_ne_true
  | tickCharger nowMs =>
    show state.tickCharger tuning nowMs = _
    have hnow : state.activeUntilMs < nowMs := UInt32.lt_iff_toNat_lt.mpr (of_decide_eq_true hlate)
    unfold ChargerState.tickCharger ChargerState.setActive
    rw [if_neg (by simp [henabled, hactive]), if_pos ⟨huntil, hnow⟩]
    simp [henabled, hactive]

/-- Any other call leaves an active charger active; boosts count towards the total alone. -/
theorem apply_running (hactive : state.active = true) {call : ChargerCall}
    (hlate : call.ticksAfter state.activeUntilMs.toNat = false) :
    call.apply tuning state = (.none, { state with
      totalBoosterUses :=
        if call.boosts then state.totalBoosterUses + 1 else state.totalBoosterUses }) := by
  cases call with
  | tickCharger nowMs =>
    show state.tickCharger tuning nowMs = _
    have hnow : ¬ (state.activeUntilMs ≠ 0 ∧ state.activeUntilMs < nowMs) := by
      intro hlt
      exact of_decide_eq_false hlate (UInt32.lt_iff_toNat_lt.mp hlt.2)
    unfold ChargerState.tickCharger
    rw [if_neg hnow]
    split <;> rfl
  | observeDriveEvent nowMs eventKind excludedState =>
    show state.observeDriveEvent tuning nowMs eventKind excludedState = _
    have hboosts : (ChargerCall.observeDriveEvent nowMs eventKind excludedState).boosts =
      (!excludedState && (eventKind == 3 || eventKind == 4)) := rfl
    unfold ChargerState.observeDriveEvent ChargerState.countBooster
    rw [hboosts]
    by_cases hcond : (!excludedState && (eventKind == 3 || eventKind == 4)) = true
    · simp [hcond, hactive]
    · simp only [hcond, hactive, Bool.or_true, Bool.false_eq_true, if_false, if_true]
      rw [← hactive]

end

end P4475.Xun
