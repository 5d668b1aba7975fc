import Mathlib.Algebra.Ring.Nat
import P4475.Xun.Charger

/-!
# What the charger answers along a run

`charger_run` states the transitions in terms of the transcript alone: the charger activates at
the booster event that is the `boosterUseCount`-th since the last deactivation, and deactivates at
the first tick past its use time. Its state is the transcript's: `ChargerInv` says which counter
holds what. The total may run ahead of the activations, as boosts of an active charger count
towards it; `ChargerInv.consumed` is the inequality that keeps the quotient test from holding an
activation back.
-/

namespace P4475.Xun

open Lib

/-- Calls and their answers, latest first. -/
abbrev Transcript := List (ChargerCall × ChargerTransition)

namespace Transcript

/-- When the charger was activated, while it is active. -/
def activeSince : Transcript → Option UInt32
  | [] => none
  | (call, .activated) :: _ => some call.nowMs
  | (_, .deactivated) :: _ => none
  | (_, .none) :: earlier => activeSince earlier

/-- The calls since the last one that answered `transition`, or since the reset. -/
def since (transition : ChargerTransition) (transcript : Transcript) : Transcript :=
  transcript.takeWhile fun entry => entry.2 != transition

/-- The accepted booster events since the last deactivation or the reset. -/
def boostsWaiting (transcript : Transcript) : Nat :=
  (since .deactivated transcript).countP fun entry => entry.1.boosts

def activations (transcript : Transcript) : Nat :=
  transcript.countP fun entry => entry.2 == .activated

@[simp] theorem activeSince_none (call : ChargerCall) (earlier : Transcript) :
    activeSince ((call, .none) :: earlier) = activeSince earlier := rfl

@[simp] theorem activeSince_activated (call : ChargerCall) (earlier : Transcript) :
    activeSince ((call, .activated) :: earlier) = some call.nowMs := rfl

@[simp] theorem activeSince_deactivated (call : ChargerCall) (earlier : Transcript) :
    activeSince ((call, .deactivated) :: earlier) = none := rfl

theorem since_self (transition : ChargerTransition) (call : ChargerCall) (earlier : Transcript) :
    since transition ((call, transition) :: earlier) = [] := by
  simp [since]

theorem since_cons {transition answer : ChargerTransition} (h : answer ≠ transition)
    (call : ChargerCall) (earlier : Transcript) :
    since transition ((call, answer) :: earlier) = (call, answer) :: since transition earlier := by
  simp [since, h]

theorem boostsWaiting_none (call : ChargerCall) (earlier : Transcript) :
    boostsWaiting ((call, .none) :: earlier) =
      boostsWaiting earlier + if call.boosts then 1 else 0 := by
  unfold boostsWaiting
  rw [since_cons (by decide), List.countP_cons]

theorem boostsWaiting_deactivated (call : ChargerCall) (earlier : Transcript) :
    boostsWaiting ((call, .deactivated) :: earlier) = 0 := by
  unfold boostsWaiting
  rw [since_self]
  rfl

theorem activations_le_length (transcript : Transcript) :
    activations transcript ≤ transcript.length := List.countP_le_length

theorem activations_cons (call : ChargerCall) (answer : ChargerTransition)
    (earlier : Transcript) :
    activations ((call, answer) :: earlier) =
      activations earlier + if answer = .activated then 1 else 0 := by
  unfold activations
  rw [List.countP_cons]
  cases answer <;> rfl

end Transcript

open Transcript

variable {tuning : ChargerTuning}

/-- The answer to a call after a transcript. -/
structure Answered (tuning : ChargerTuning) (transcript : Transcript) (call : ChargerCall)
    (answer : ChargerTransition) : Prop where
  /-- The uses are complete with this event: it is the `boosterUseCount`-th while inactive. -/
  activates : answer = .activated ↔ activeSince transcript = none ∧ call.boosts = true ∧
    boostsWaiting transcript + 1 = tuning.boosterUseCount.toNat
  /-- The first tick past the use time. -/
  deactivates : answer = .deactivated ↔ ∃ start, activeSince transcript = some start ∧
    call.ticksAfter (start.toNat + tuning.useTimeMs.toNat) = true ∧
    ∀ entry ∈ since .activated transcript,
      entry.1.ticksAfter (start.toNat + tuning.useTimeMs.toNat) = false

/-- The state is that of the transcript. -/
structure ChargerInv (tuning : ChargerTuning) (transcript : Transcript) (state : ChargerState) :
    Prop where
  consumed : tuning.boosterUseCount.toNat * state.activationCount.toNat +
    state.pendingBoosterUses.toNat ≤ state.totalBoosterUses.toNat
  total : state.totalBoosterUses.toNat ≤ transcript.length
  activations : state.activationCount.toNat = activations transcript
  inactive : activeSince transcript = none → state.active = false ∧ state.activeUntilMs = 0 ∧
    state.pendingBoosterUses.toNat = boostsWaiting transcript ∧
    state.pendingBoosterUses.toNat < tuning.boosterUseCount.toNat
  active : ∀ start, activeSince transcript = some start → state.active = true ∧
    state.pendingBoosterUses = 0 ∧
    state.activeUntilMs.toNat = start.toNat + tuning.useTimeMs.toNat ∧
    ∀ entry ∈ since .activated transcript,
      entry.1.ticksAfter (start.toNat + tuning.useTimeMs.toNat) = false

theorem ChargerInv.reset (hcount : 1 ≤ tuning.boosterUseCount.toNat) :
    ChargerInv tuning [] resetCharger where
  consumed := Nat.le_refl 0
  total := Nat.le_refl 0
  activations := rfl
  inactive := fun _ => ⟨rfl, rfl, rfl, hcount⟩
  active := fun start h => by cases h

/-- A 32-bit counter below its bound counts one more. -/
theorem toNat_succ {counter : UInt32} (h : counter.toNat + 1 < 2 ^ 32) :
    (counter + 1).toNat = counter.toNat + 1 := by
  have hone : (1 : UInt32).toNat = 1 := rfl
  rw [UInt32.toNat_add, hone]
  omega

section
variable {transcript : Transcript} {state : ChargerState} {call : ChargerCall}

/-- One call to an inactive charger. -/
theorem ChargerInv.step_inactive (h : ChargerInv tuning transcript state)
    (henabled : tuning.enabled = true) (hshort : transcript.length + 1 < 2 ^ 32)
    (hroom : call.nowMs.toNat + tuning.useTimeMs.toNat < 2 ^ 32)
    (hquiet : activeSince transcript = none) :
    Answered tuning transcript call (call.apply tuning state).1 ∧
      ChargerInv tuning ((call, (call.apply tuning state).1) :: transcript)
        (call.apply tuning state).2 := by
  obtain ⟨hactive, huntil, hpending, hfew⟩ := h.inactive hquiet
  have hconsumed := h.consumed
  have htotal := h.total
  have hactivations := h.activations
  have hle := activations_le_length transcript
  have hsucc : (state.totalBoosterUses + 1).toNat = state.totalBoosterUses.toNat + 1 :=
    toNat_succ (by omega)
  cases hboost : call.boosts with
  | false =>
    have hne : state.pendingBoosterUses ≠ tuning.boosterUseCount := by
      intro he
      rw [he] at hfew
      omega
    rw [apply_waiting hactive hne hboost]
    refine ⟨⟨by simp [hboost], by simp [hquiet]⟩, ?_⟩
    refine ⟨hconsumed, Nat.le_succ_of_le htotal, ?_, ?_, ?_⟩
    · rw [activations_cons]
      exact hactivations
    · intro _
      rw [boostsWaiting_none, hboost]
      exact ⟨hactive, huntil, hpending, hfew⟩
    · intro start hstart
      rw [activeSince_none, hquiet] at hstart
      cases hstart
  | true =>
    have hmore : (state.pendingBoosterUses + 1).toNat = state.pendingBoosterUses.toNat + 1 :=
      toNat_succ (by have := tuning.boosterUseCount.toNat_lt; omega)
    by_cases hlast : state.pendingBoosterUses.toNat + 1 = tuning.boosterUseCount.toNat
    · have hcount : tuning.boosterUseCount ≠ 0 := by
        intro he
        rw [he] at hfew
        exact Nat.not_lt_zero _ hfew
      have hpos : 0 < tuning.boosterUseCount.toNat := by omega
      -- the total holds one whole cycle more than was consumed
      have hquotient : state.activationCount <
          (state.totalBoosterUses + 1) / tuning.boosterUseCount := by
        rw [UInt32.lt_iff_toNat_lt, UInt32.toNat_div, hsucc, Nat.lt_div_iff_mul_lt hpos]
        rw [Nat.mul_comm state.activationCount.toNat]
        omega
      have hactivation : (state.activationCount + 1).toNat = state.activationCount.toNat + 1 :=
        toNat_succ (by omega)
      have hnext : state.pendingBoosterUses + 1 = tuning.boosterUseCount :=
        UInt32.toNat_inj.mp (hmore.trans hlast)
      rw [apply_last_booster henabled hcount hactive huntil hnext hquotient hboost]
      refine ⟨⟨by simp [hboost, hquiet, ← hpending, hlast], by simp [hquiet]⟩, ?_⟩
      refine ⟨?_, ?_, ?_, ?_, ?_⟩
      · show _ * (state.activationCount + 1).toNat + 0 ≤ (state.totalBoosterUses + 1).toNat
        rw [hactivation, hsucc, Nat.mul_succ]
        omega
      · show (state.totalBoosterUses + 1).toNat ≤ transcript.length + 1
        omega
      · rw [activations_cons, if_pos rfl, ← hactivations]
        exact hactivation
      · intro hnone
        cases hnone
      · intro start hstart
        rw [activeSince_activated, Option.some.injEq] at hstart
        subst hstart
        refine ⟨rfl, rfl, ?_, ?_⟩
        · show (call.nowMs + tuning.useTimeMs).toNat = _
          rw [UInt32.toNat_add]
          omega
        · rw [since_self]
          intro entry hm
          cases hm
    · have hnext : state.pendingBoosterUses + 1 ≠ tuning.boosterUseCount := by
        intro he
        rw [← he] at hlast
        omega
      rw [apply_booster henabled hactive hnext hboost]
      refine ⟨⟨by simp [← hpending, hlast], by simp [hquiet]⟩, ?_⟩
      refine ⟨?_, ?_, ?_, ?_, ?_⟩
      · show _ * state.activationCount.toNat + (state.pendingBoosterUses + 1).toNat ≤
          (state.totalBoosterUses + 1).toNat
        omega
      · show (state.totalBoosterUses + 1).toNat ≤ transcript.length + 1
        omega
      · rw [activations_cons]
        exact hactivations
      · intro _
        rw [boostsWaiting_none, hboost]
        refine ⟨hactive, huntil, ?_, ?_⟩
        · show (state.pendingBoosterUses + 1).toNat = boostsWaiting transcript + 1
          omega
        · show (state.pendingBoosterUses + 1).toNat < tuning.boosterUseCount.toNat
          omega
      · intro start hstart
        rw [activeSince_none, hquiet] at hstart
        cases hstart

/-- One call to an active charger. -/
theorem ChargerInv.step_active (h : ChargerInv tuning transcript state)
    (henabled : tuning.enabled = true) (hcount : 1 ≤ tuning.boosterUseCount.toNat)
    (htime : 1 ≤ tuning.useTimeMs.toNat) (hshort : transcript.length + 1 < 2 ^ 32)
    {start : UInt32} (hrunning : activeSince transcript = some start) :
    Answered tuning transcript call (call.apply tuning state).1 ∧
      ChargerInv tuning ((call, (call.apply tuning state).1) :: transcript)
        (call.apply tuning state).2 := by
  obtain ⟨hactive, hpending, huntil, hearly⟩ := h.active start hrunning
  have hconsumed := h.consumed
  have htotal := h.total
  have hzero : state.pendingBoosterUses.toNat = 0 := by rw [hpending]; rfl
  cases hlate : call.ticksAfter (start.toNat + tuning.useTimeMs.toNat) with
  | true =>
    have hset : state.activeUntilMs ≠ 0 := by
      intro he
      rw [he] at huntil
      have : (0 : UInt32).toNat = 0 := rfl
      omega
    rw [apply_late_tick henabled hactive hset (by rw [huntil]; exact hlate)]
    refine ⟨⟨by simp [hrunning], ?_⟩, ?_⟩
    · exact ⟨fun _ => ⟨start, hrunning, hlate, hearly⟩, fun _ => rfl⟩
    · refine ⟨?_, Nat.le_succ_of_le htotal, ?_, ?_, ?_⟩
      · show _ * state.activationCount.toNat + 0 ≤ state.totalBoosterUses.toNat
        omega
      · rw [activations_cons]
        exact h.activations
      · intro _
        rw [boostsWaiting_deactivated]
        exact ⟨rfl, rfl, rfl, hcount⟩
      · intro start hstart
        cases hstart
  | false =>
    rw [apply_running hactive (by rw [huntil]; exact hlate)]
    refine ⟨⟨by simp [hrunning], ?_⟩, ?_⟩
    · refine Iff.intro (fun he => nomatch he) ?_
      intro hdeactivates
      obtain ⟨start', hstart', hlate', -⟩ := hdeactivates
      rw [hrunning, Option.some.injEq] at hstart'
      rw [← hstart', hlate] at hlate'
      cases hlate'
    · have hkept : state.totalBoosterUses.toNat ≤
          (if call.boosts then state.totalBoosterUses + 1 else state.totalBoosterUses).toNat ∧
          (if call.boosts then state.totalBoosterUses + 1 else state.totalBoosterUses).toNat ≤
            transcript.length + 1 := by
        split
        · rw [toNat_succ (by omega)]
          omega
        · omega
      refine ⟨Nat.le_trans hconsumed hkept.1, hkept.2, ?_, ?_, ?_⟩
      · rw [activations_cons]
        exact h.activations
      · intro hnone
        rw [activeSince_none, hrunning] at hnone
        cases hnone
      · intro start' hstart'
        rw [activeSince_none, hrunning, Option.some.injEq] at hstart'
        subst hstart'
        refine ⟨hactive, hpending, huntil, ?_⟩
        have hnone : ChargerTransition.none ≠ .activated := by decide
        show ∀ entry ∈ since .activated ((call, .none) :: transcript), _
        rw [since_cons hnone]
        intro entry hm
        rcases List.mem_cons.mp hm with rfl | hm
        · exact hlate
        · exact hearly entry hm

end

/-! ## Whole runs -/

/-- Every call of a transcript was answered as it should be. -/
def AllAnswered (tuning : ChargerTuning) (transcript : Transcript) : Prop :=
  ∀ later call answer earlier, transcript = later ++ (call, answer) :: earlier →
    Answered tuning earlier call answer

theorem AllAnswered.cons {transcript : Transcript} {call : ChargerCall}
    {answer : ChargerTransition} (h : AllAnswered tuning transcript)
    (hlatest : Answered tuning transcript call answer) :
    AllAnswered tuning ((call, answer) :: transcript) := by
  intro later call' answer' earlier he
  cases later with
  | nil =>
    obtain ⟨hentry, rfl⟩ := List.cons.inj he
    obtain ⟨rfl, rfl⟩ := Prod.mk.inj hentry
    exact hlatest
  | cons latest later => exact h later call' answer' earlier (List.cons.inj he).2

theorem AllAnswered.tail {transcript : Transcript} {entry : ChargerCall × ChargerTransition}
    (h : AllAnswered tuning (entry :: transcript)) : AllAnswered tuning transcript := by
  intro later call answer earlier he
  exact h (entry :: later) call answer earlier (by rw [he]; rfl)

/-- The invariant along a run of fewer than 2^32 calls whose clock leaves room for the use time. -/
theorem charger_history (henabled : tuning.enabled = true)
    (hcount : 1 ≤ tuning.boosterUseCount.toNat) (htime : 1 ≤ tuning.useTimeMs.toNat)
    {transcript : Transcript} {state : ChargerState}
    (hist : (charger tuning).History transcript state) :
    transcript.length < 2 ^ 32 →
      (∀ entry ∈ transcript, entry.1.nowMs.toNat + tuning.useTimeMs.toNat < 2 ^ 32) →
      ChargerInv tuning transcript state ∧ AllAnswered tuning transcript := by
  refine hist.invariant (P := fun transcript state => transcript.length < 2 ^ 32 →
    (∀ entry ∈ transcript, entry.1.nowMs.toNat + tuning.useTimeMs.toNat < 2 ^ 32) →
    ChargerInv tuning transcript state ∧ AllAnswered tuning transcript) ?_ ?_
  · intro _ _
    refine ⟨ChargerInv.reset hcount, ?_⟩
    intro later call answer earlier he
    exact absurd he.symm (by simp)
  · intro transcript state state' call answer _ ih hstep hshort hroom
    obtain ⟨rfl, rfl⟩ := Prod.mk.inj (Option.some.inj hstep)
    have hlength : transcript.length + 1 < 2 ^ 32 := hshort
    obtain ⟨hinv, hall⟩ := ih (by omega)
      (fun entry hm => hroom entry (List.mem_cons_of_mem _ hm))
    have hnow := hroom _ List.mem_cons_self
    cases hsince : activeSince transcript with
    | none =>
      obtain ⟨hanswer, hnext⟩ := hinv.step_inactive henabled hlength hnow hsince
      exact ⟨hnext, hall.cons hanswer⟩
    | some start =>
      obtain ⟨hanswer, hnext⟩ := hinv.step_active henabled hcount htime hlength hsince
      exact ⟨hnext, hall.cons hanswer⟩

/-- While no call activates, an inactive charger counts every accepted booster event. -/
theorem boostsWaiting_append {earlier : Transcript} (hquiet : activeSince earlier = none) :
    ∀ {later : Transcript}, AllAnswered tuning (later ++ earlier) →
      (∀ entry ∈ later, entry.2 ≠ .activated) →
      activeSince (later ++ earlier) = none ∧ boostsWaiting (later ++ earlier) =
        boostsWaiting earlier + later.countP fun entry => entry.1.boosts := by
  intro later
  induction later with
  | nil => exact fun _ _ => ⟨hquiet, rfl⟩
  | cons latest later ih =>
    intro hall hnever
    obtain ⟨hnone, hwaiting⟩ := ih hall.tail fun entry hm => hnever entry (List.mem_cons_of_mem _ hm)
    obtain ⟨call, answer⟩ := latest
    have hanswer := hall [] call answer (later ++ earlier) rfl
    cases answer with
    | activated => exact absurd rfl (hnever _ List.mem_cons_self)
    | deactivated =>
      obtain ⟨start, hstart, -⟩ := hanswer.deactivates.mp rfl
      rw [hnone] at hstart
      cases hstart
    | none =>
      refine ⟨hnone, ?_⟩
      rw [List.cons_append, boostsWaiting_none, hwaiting, List.countP_cons, Nat.add_assoc]

/-- While no call deactivates, an active charger stays active. -/
theorem activeSince_append {earlier : Transcript} {start : UInt32}
    (hrunning : activeSince earlier = some start) :
    ∀ {later : Transcript}, AllAnswered tuning (later ++ earlier) →
      (∀ entry ∈ later, entry.2 ≠ .deactivated) →
      activeSince (later ++ earlier) = some start ∧
        ∀ entry ∈ later, entry ∈ since .activated (later ++ earlier) := by
  intro later
  induction later with
  | nil => exact fun _ _ => ⟨hrunning, fun entry hm => nomatch hm⟩
  | cons latest later ih =>
    intro hall hnever
    obtain ⟨hsome, hlisted⟩ := ih hall.tail fun entry hm => hnever entry (List.mem_cons_of_mem _ hm)
    obtain ⟨call, answer⟩ := latest
    have hanswer := hall [] call answer (later ++ earlier) rfl
    cases answer with
    | deactivated => exact absurd rfl (hnever _ List.mem_cons_self)
    | activated =>
      obtain ⟨hnone, -⟩ := hanswer.activates.mp rfl
      rw [hsome] at hnone
      cases hnone
    | none =>
      refine ⟨hsome, ?_⟩
      have hnone : ChargerTransition.none ≠ .activated := by decide
      rw [List.cons_append, since_cons hnone]
      intro entry hm
      rcases List.mem_cons.mp hm with rfl | hm
      · exact List.mem_cons_self
      · exact List.mem_cons_of_mem _ (hlisted entry hm)

/-- Every run of an enabled charger, of fewer than 2^32 calls at clock values that leave room for
the use time: each call is answered as the transcript before it says, the counters agree with the
transcript, and neither state is final. No order of the clock values is needed. -/
theorem charger_run (henabled : tuning.enabled = true)
    (hcount : 1 ≤ tuning.boosterUseCount.toNat) (htime : 1 ≤ tuning.useTimeMs.toNat)
    {transcript : Transcript} {state : ChargerState}
    (hist : (charger tuning).History transcript state) (hshort : transcript.length < 2 ^ 32)
    (hroom : ∀ entry ∈ transcript, entry.1.nowMs.toNat + tuning.useTimeMs.toNat < 2 ^ 32) :
    (∀ later call answer earlier, transcript = later ++ (call, answer) :: earlier →
        Answered tuning earlier call answer) ∧
      state.active = (activeSince transcript).isSome ∧
      state.activationCount.toNat = activations transcript ∧
      state.pendingBoosterUses.toNat ≤ tuning.boosterUseCount.toNat ∧
      (∀ later earlier, transcript = later ++ earlier → activeSince earlier = none →
        tuning.boosterUseCount.toNat ≤ later.countP (fun entry => entry.1.boosts) →
        ∃ entry ∈ later, entry.2 = .activated) ∧
      (∀ later earlier start, transcript = later ++ earlier →
        activeSince earlier = some start →
        (∃ entry ∈ later,
          entry.1.ticksAfter (start.toNat + tuning.useTimeMs.toNat) = true) →
        ∃ entry ∈ later, entry.2 = .deactivated) := by
  obtain ⟨hinv, hall⟩ := charger_history henabled hcount htime hist hshort hroom
  refine ⟨hall, ?_, hinv.activations, ?_, ?_, ?_⟩
  · cases hsince : activeSince transcript with
    | none => exact (hinv.inactive hsince).1
    | some start => exact (hinv.active start hsince).1
  · cases hsince : activeSince transcript with
    | none => exact Nat.le_of_lt (hinv.inactive hsince).2.2.2
    | some start =>
      rw [(hinv.active start hsince).2.1]
      exact Nat.zero_le _
  · intro later earlier he hquiet hboosts
    apply Classical.byContradiction
    intro hstuck
    have hnever : ∀ entry ∈ later, entry.2 ≠ .activated :=
      fun entry hm hentry => hstuck ⟨entry, hm, hentry⟩
    subst he
    obtain ⟨hnone, hwaiting⟩ := boostsWaiting_append hquiet hall hnever
    obtain ⟨-, -, hpending, hfew⟩ := hinv.inactive hnone
    omega
  · intro later earlier start he hrunning htick
    apply Classical.byContradiction
    intro hstuck
    have hnever : ∀ entry ∈ later, entry.2 ≠ .deactivated :=
      fun entry hm hentry => hstuck ⟨entry, hm, hentry⟩
    subst he
    obtain ⟨hsome, hlisted⟩ := activeSince_append hrunning hall hnever
    obtain ⟨entry, hm, hlate⟩ := htick
    have hearly := (hinv.active start hsome).2.2.2 entry (hlisted entry hm)
    rw [hlate] at hearly
    cases hearly

/-! ## A short run -/

def sampleTuning : ChargerTuning := ⟨true, 2, 100⟩

/-- Two boosts activate, a third is received while active, and a late tick deactivates. -/
def sampleTranscript : Transcript :=
  [(.tickCharger 121, .deactivated), (.tickCharger 120, .none),
    (.observeDriveEvent 50 3 false, .none), (.observeDriveEvent 20 4 false, .activated),
    (.observeDriveEvent 10 3 false, .none)]

theorem sampleTranscript_history : (charger sampleTuning).History sampleTranscript
    ⟨false, 3, 1, 0, 0⟩ :=
  Machine.history_of_exec (sampleTranscript.map Prod.fst).reverse .init rfl

/-- The tick at 121 is the first one later than 20 + 100, and one activation was counted. -/
theorem sampleCharger_run : Answered sampleTuning sampleTranscript.tail (.tickCharger 121)
      .deactivated ∧ activations sampleTranscript = 1 := by
  have hhistory : (charger sampleTuning).History sampleTranscript ⟨false, 3, 1, 0, 0⟩ :=
    sampleTranscript_history
  obtain ⟨hanswered, -, hcounted, -⟩ := charger_run rfl (by decide) (by decide) hhistory
    (by decide) (by decide)
  exact ⟨hanswered [] _ _ _ rfl, hcounted.symm⟩

end P4475.Xun
