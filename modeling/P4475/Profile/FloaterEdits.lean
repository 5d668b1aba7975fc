import P4475.Profile.Floaters

/-!
# What the floater calls do to a record

A record that passed the check has known codes that differ, and at most one protection on a
slot (`TuneState.Valid`). `FloaterCall.Does` says what each call makes of such a record,
whatever the shuffle of the codes comes to.
-/

namespace P4475.Profile

open Lib

variable {X : Type}

/-! ## What the loader accepts -/

/-- The two protections, by the kinds of the items that set them. -/
inductive Protection
  | fourfold
  | threefold
  deriving DecidableEq

namespace Protection

def kind : Protection → Int
  | fourfold => 49
  | threefold => 53

def other : Protection → Protection
  | fourfold => threefold
  | threefold => fourfold

end Protection

namespace TuneState

def code (state : TuneState X) : Fin 3 → Int
  | 0 => state.tune1
  | 1 => state.tune2
  | 2 => state.tune3

def slot (state : TuneState X) : Protection → Int
  | .fourfold => state.slot1
  | .threefold => state.slot2

def count (state : TuneState X) : Protection → Int
  | .fourfold => state.count1
  | .threefold => state.count2

/-- The protection is on this slot, and some resets are left. -/
def ActiveBy (state : TuneState X) (i : Fin 3) (p : Protection) : Prop :=
  0 < state.count p ∧ state.slot p = (i.val : Int)

def Active (state : TuneState X) (i : Fin 3) : Prop :=
  state.ActiveBy i .fourfold ∨ state.ActiveBy i .threefold

instance (state : TuneState X) (i : Fin 3) : Decidable (state.Active i) :=
  inferInstanceAs (Decidable ((_ ∧ _) ∨ (_ ∧ _)))

theorem code_mem (state : TuneState X) (i : Fin 3) : state.code i ∈ state.codes := by
  match i with
  | 0 => exact List.mem_cons_self
  | 1 => exact List.mem_cons_of_mem _ List.mem_cons_self
  | 2 => exact List.mem_cons_of_mem _ (List.mem_cons_of_mem _ List.mem_cons_self)

/-- A record that was checked. -/
structure Valid (state : TuneState X) : Prop where
  id : 0 < state.id
  known : ∀ code ∈ state.codes, isKnownFloaterCode code = true
  distinct : ∀ i j, i ≠ j → state.code i ≠ 0 → state.code i ≠ state.code j
  slot : ∀ p, -1 ≤ state.slot p ∧ state.slot p ≤ 2
  count : ∀ p, 0 ≤ state.count p
  free : ∀ p, state.slot p = -1 → state.count p = 0
  apart : ∀ i, ¬ (state.ActiveBy i .fourfold ∧ state.ActiveBy i .threefold)

end TuneState

open TuneState

theorem validateCodes_ok {seen codes : List Int} (h : validateCodes seen codes = .ok ()) :
    (∀ code ∈ codes, isKnownFloaterCode code = true) ∧
      (codes.filter (· ≠ 0)).Nodup ∧ ∀ code ∈ codes, code ≠ 0 → code ∉ seen := by
  induction codes generalizing seen with
  | nil => exact ⟨fun _ hm => absurd hm List.not_mem_nil, List.nodup_nil,
      fun _ hm => absurd hm List.not_mem_nil⟩
  | cons code rest ih =>
    obtain ⟨hknown, h⟩ := check_bind.mp h
    by_cases hzero : code ≠ 0
    · rw [if_pos hzero] at h
      obtain ⟨hseen, h⟩ := check_bind.mp h
      obtain ⟨hrest, hnodup, hnew⟩ := ih h
      refine ⟨List.forall_mem_cons.mpr ⟨hknown, hrest⟩, ?_, ?_⟩
      · rw [List.filter_cons_of_pos (by simpa using hzero)]
        refine List.nodup_cons.mpr ⟨fun hm => ?_, hnodup⟩
        have hmem := (List.mem_filter.mp hm).1
        exact hnew code hmem hzero (List.mem_append_right _ List.mem_cons_self)
      · intro c hc hne
        rcases List.mem_cons.mp hc with rfl | hc
        · exact hseen
        · exact fun hm => hnew c hc hne (List.mem_append_left _ hm)
    · rw [if_neg hzero] at h
      obtain ⟨hrest, hnodup, hnew⟩ := ih h
      refine ⟨List.forall_mem_cons.mpr ⟨hknown, hrest⟩, ?_, ?_⟩
      · rw [List.filter_cons_of_neg (by simpa using hzero)]
        exact hnodup
      · intro c hc hne
        rcases List.mem_cons.mp hc with rfl | hc
        · exact absurd hne hzero
        · exact hnew c hc hne

/-- Codes that occur once each, wherever they stand. -/
theorem distinct_of_nodup {state : TuneState X} (h : (state.codes.filter (· ≠ 0)).Nodup)
    (i j : Fin 3) (hij : i ≠ j) (hi : state.code i ≠ 0) : state.code i ≠ state.code j := by
  have hpairs := List.pairwise_filter.mp h
  unfold codes at hpairs
  simp only [List.pairwise_cons, List.mem_cons, List.not_mem_nil, or_false, forall_eq_or_imp,
    forall_eq, decide_eq_true_eq] at hpairs
  obtain ⟨⟨h₁₂, h₁₃⟩, h₂₃, _⟩ := hpairs
  intro heq
  have hj : state.code j ≠ 0 := heq ▸ hi
  match i, j with
  | 0, 0 => exact hij rfl
  | 1, 1 => exact hij rfl
  | 2, 2 => exact hij rfl
  | 0, 1 => exact h₁₂ hi hj heq
  | 0, 2 => exact h₁₃ hi hj heq
  | 1, 2 => exact h₂₃ hi hj heq
  | 1, 0 => exact h₁₂ hj hi heq.symm
  | 2, 0 => exact h₁₃ hj hi heq.symm
  | 2, 1 => exact h₂₃ hj hi heq.symm

theorem validateTuneState_ok {state : TuneState X} (h : validateTuneState state = .ok ()) :
    state.Valid := by
  obtain ⟨hid, h⟩ := check_bind.mp h
  obtain ⟨_, hcodes, h⟩ := bind_eq_ok h
  obtain ⟨_, h₁, h⟩ := bind_eq_ok h
  obtain ⟨_, h₂, h⟩ := bind_eq_ok h
  have hapart := check_eq_ok.mp h
  obtain ⟨hknown, hnodup, _⟩ := validateCodes_ok hcodes
  obtain ⟨hs₁, h₁⟩ := check_bind.mp h₁
  obtain ⟨hc₁, h₁⟩ := check_bind.mp h₁
  have hf₁ := check_eq_ok.mp h₁
  obtain ⟨hs₂, h₂⟩ := check_bind.mp h₂
  obtain ⟨hc₂, h₂⟩ := check_bind.mp h₂
  have hf₂ := check_eq_ok.mp h₂
  refine ⟨hid, hknown, distinct_of_nodup hnodup, ?_, ?_, ?_, ?_⟩
  · intro p
    cases p
    · exact hs₁
    · exact hs₂
  · intro p
    cases p
    · exact hc₁.1
    · exact hc₂.1
  · intro p
    cases p
    · show state.slot1 = -1 → state.count1 = 0
      omega
    · show state.slot2 = -1 → state.count2 = 0
      omega
  · intro i ⟨⟨hpos₁, hslot₁⟩, hpos₂, hslot₂⟩
    exact hapart ⟨hpos₁, hpos₂, hslot₁.trans hslot₂.symm⟩

/-- A record as the file keeps it once it was written. -/
structure TuneState.Stored (state : TuneState X) : Prop where
  validated : validateTuneState state = .ok ()
  serial : normalizeKartSerial state.id state.serial = state.serial

/-- The records that the loader returns. -/
abbrev TuneTable (states : List (TuneState X)) : Prop := Table TuneState.key TuneState.Stored states

theorem parseTuneStates_table {file : SidecarFile (TuneState X)} {states : List (TuneState X)}
    (h : parseTuneStates file = .ok states) : TuneTable states := by
  cases file with
  | none =>
    cases h
    exact .nil
  | some records =>
    obtain ⟨hroom, h⟩ := check_bind.mp h
    obtain ⟨read, hread, hstates⟩ := bind_eq_ok h
    cases hstates
    have hlength : (records.map TuneState.normalized).length ≤ maxEquipmentRecords := by
      rw [List.length_map]
      exact hroom
    refine ⟨fun state hm => ?_, keyed_deduplicateLast _,
      Nat.le_trans (length_deduplicateLast_le _ _) hlength⟩
    obtain ⟨_, hvalidated⟩ := mapM_each hread hm
    obtain ⟨record, _, rfl⟩ := List.mem_map.mp (mem_deduplicateLast hm)
    exact ⟨hvalidated, normalizeKartSerial_idem _ _⟩

/-- What such a file is read back as. -/
theorem parse_tuneTable {states : List (TuneState X)} (h : TuneTable states) :
    parseTuneStates (some states) = .ok states := by
  have hnormalized : states.map TuneState.normalized = states := by
    refine (List.map_congr_left fun state hm => ?_).trans (List.map_id states)
    unfold TuneState.normalized
    rw [(h.each state hm).serial]
    rfl
  refine check_bind.mpr ⟨h.room, ?_⟩
  rw [hnormalized, deduplicateLast_of_keyed h.keyed]
  obtain ⟨read, hread⟩ := mapM_all fun state hm => ⟨(), (h.each state hm).validated⟩
  exact bind_eq_ok_iff.mpr ⟨read, hread, rfl⟩

/-! ## What a call does to a record -/

/-- The record with the slot under this protection. -/
def TuneState.protected (state : TuneState X) (slot : Int) : Protection → TuneState X
  | .fourfold => { state with slot1 := slot, count1 := 4 }
  | .threefold => { state with slot2 := slot, count2 := 3 }

/-- What a selector other than 5 fills the empty slots with. -/
structure Filled (selector : Int) (state next : TuneState X) : Prop where
  occupied : ∀ i, state.code i ≠ 0 → next.code i = state.code i
  empty : ∀ i, state.code i = 0 → ∃ pool, floaterCodePool selector = some pool ∧ next.code i ∈ pool
  full : ∀ i, next.code i ≠ 0 ∧ isKnownFloaterCode (next.code i) = true
  distinct : ∀ i j, i ≠ j → next.code i ≠ next.code j
  slot : ∀ p, next.slot p = state.slot p
  count : ∀ p, next.count p = state.count p

/-- What a reset leaves: the codes under a protection, each of which has one reset less. -/
structure Reset (state next : TuneState X) : Prop where
  kept : ∀ i, state.Active i → next.code i = state.code i
  cleared : ∀ i, ¬ state.Active i → next.code i = 0
  used : ∀ p, 0 < state.count p → next.slot p = state.slot p ∧ next.count p = state.count p - 1
  ended : ∀ p, state.count p = 0 → next.slot p = -1 ∧ next.count p = 0

namespace FloaterCall

/-- What becomes of the record that the call is about. -/
def Does (state next : TuneState X) : FloaterCall → Prop
  | activate => next = state
  | setCodes codes => next = state.withCodes codes
  | applyTune selector _ =>
    if selector = 5 then next = state.withCodes blackFloaterCodes else Filled selector state next
  | protect protectKind slot => ∃ (i : Fin 3) (p : Protection), slot = (i.val : Int) ∧
      protectKind = p.kind ∧ state.code i ≠ 0 ∧ ¬ state.Active i ∧ next = state.protected slot p
  | reset => Reset state next

end FloaterCall

theorem fillSlot_ok {selector slot filled : Int} {available rest : List Int}
    (h : fillSlot selector slot available = .ok (filled, rest)) :
    (slot ≠ 0 → filled = slot) ∧ (slot = 0 → filled ∈ available) ∧ rest ⊆ available := by
  unfold fillSlot at h
  by_cases hzero : slot = 0
  · rw [if_pos hzero] at h
    split at h
    next code hlast =>
      cases h
      exact ⟨fun hne => absurd hzero hne, fun _ => List.mem_of_getLast? hlast,
        List.dropLast_subset available⟩
    next => exact absurd h (by simp)
  · rw [if_neg hzero] at h
    cases h
    exact ⟨fun _ => rfl, fun h => absurd h hzero, List.Subset.refl _⟩

theorem pool_ne_zero {selector : Int} {pool : List Int} (h : floaterCodePool selector = some pool)
    {code : Int} (hcode : code ∈ pool) : code ≠ 0 := by
  have hspeed : ∀ code ∈ speedFloaterCodes, code ≠ 0 := by decide
  have hitem : ∀ code ∈ itemFloaterCodes, code ≠ 0 := by decide
  unfold floaterCodePool at h
  split at h
  next => exact absurd h (by simp)
  next =>
    split at h
    next => exact hspeed code (Option.some.inj h ▸ hcode)
    next =>
      split at h
      next => exact hitem code (Option.some.inj h ▸ hcode)
      next =>
        rw [← Option.some.inj h] at hcode
        rcases List.mem_append.mp hcode with hcode | hcode
        · exact hspeed code hcode
        · exact hitem code hcode

theorem applyMutation_filled {selector : Int} {shuffle : Shuffle} {state next : TuneState X}
    (hselector : selector ≠ 5) (h : applyMutation selector shuffle state = .ok next)
    (hvalid : next.Valid) : Filled selector state next := by
  unfold applyMutation at h
  rw [if_neg hselector] at h
  obtain ⟨_, h⟩ := check_bind.mp h
  obtain ⟨pool, hpool, h⟩ := okOr_bind.mp h
  obtain ⟨⟨tune1, rest₁⟩, h₁, h⟩ := bind_eq_ok h
  obtain ⟨⟨tune2, rest₂⟩, h₂, h⟩ := bind_eq_ok h
  obtain ⟨⟨tune3, rest₃⟩, h₃, h⟩ := bind_eq_ok h
  cases h
  -- whatever the shuffle does, the codes are those of the pool that are not in use
  have hshuffled : ∀ code ∈ (shuffle (pool.filter (· ∉ state.codes))).val, code ∈ pool := by
    intro code hm
    exact (List.mem_filter.mp ((shuffle _).property.mem_iff.mp hm)).1
  obtain ⟨hs₁, he₁, hr₁⟩ := fillSlot_ok h₁
  obtain ⟨hs₂, he₂, hr₂⟩ := fillSlot_ok h₂
  obtain ⟨hs₃, he₃, hr₃⟩ := fillSlot_ok h₃
  have hoccupied : ∀ i, state.code i ≠ 0 →
      ({ state with tune1, tune2, tune3 } : TuneState X).code i = state.code i := by
    intro i hi
    match i with
    | 0 => exact hs₁ hi
    | 1 => exact hs₂ hi
    | 2 => exact hs₃ hi
  have hempty : ∀ i, state.code i = 0 →
      ({ state with tune1, tune2, tune3 } : TuneState X).code i ∈ pool := by
    intro i hi
    match i with
    | 0 => exact hshuffled _ (he₁ hi)
    | 1 => exact hshuffled _ (hr₁ (he₂ hi))
    | 2 => exact hshuffled _ (hr₁ (hr₂ (he₃ hi)))
  have hfull : ∀ i, ({ state with tune1, tune2, tune3 } : TuneState X).code i ≠ 0 := by
    intro i
    by_cases hi : state.code i = 0
    · exact pool_ne_zero hpool (hempty i hi)
    · rw [hoccupied i hi]
      exact hi
  exact ⟨hoccupied, fun i hi => ⟨pool, hpool, hempty i hi⟩,
    fun i => ⟨hfull i, hvalid.known _ (code_mem _ i)⟩,
    fun i j hij => hvalid.distinct i j hij (hfull i), fun p => by cases p <;> rfl,
    fun p => by cases p <;> rfl⟩

/-- A slot in range is one of the three. -/
theorem slot_cases {slot : Int} (h : 0 ≤ slot ∧ slot ≤ 2) : ∃ i : Fin 3, slot = (i.val : Int) :=
  ⟨⟨slot.toNat, by omega⟩, by show slot = (slot.toNat : Int); omega⟩

theorem codes_getD (state : TuneState X) (i : Fin 3) :
    state.codes.getD (i.val : Int).toNat 0 = state.code i := by
  match i with
  | 0 => rfl
  | 1 => rfl
  | 2 => rfl

theorem protectMutation_does {protectKind slot : Int} {state next : TuneState X}
    (hslot : 0 ≤ slot ∧ slot ≤ 2) (h : protectMutation protectKind slot state = .ok next) :
    (FloaterCall.protect protectKind slot).Does state next := by
  obtain ⟨i, rfl⟩ := slot_cases hslot
  obtain ⟨hfull, h⟩ := check_bind.mp h
  obtain ⟨hfree, h⟩ := check_bind.mp h
  rw [codes_getD] at hfull
  by_cases h₁ : protectKind = 49
  · rw [if_pos h₁] at h
    cases h
    exact ⟨i, .fourfold, rfl, h₁, hfull, hfree, rfl⟩
  · rw [if_neg h₁] at h
    by_cases h₂ : protectKind = 53
    · rw [if_pos h₂] at h
      cases h
      exact ⟨i, .threefold, rfl, h₂, hfull, hfree, rfl⟩
    · rw [if_neg h₂] at h
      exact absurd h (by simp)

/-- What one protection keeps in a reset, of slots that are kept already or not. -/
theorem resetProtection_spec {slot count : Int} (hcount : 0 ≤ count)
    (hslot : 0 < count → 0 ≤ slot) (kept : List Bool) :
    (0 < count → (resetProtection slot count kept).1 = slot ∧
      (resetProtection slot count kept).2.1 = count - 1) ∧
    (count = 0 → (resetProtection slot count kept).1 = -1 ∧
      (resetProtection slot count kept).2.1 = 0) ∧
    (resetProtection slot count kept).2.2.length = kept.length ∧
    ∀ i < kept.length, (resetProtection slot count kept).2.2.getD i false = true ↔
      (0 < count ∧ slot = (i : Int)) ∨ kept.getD i false = true := by
  unfold resetProtection consumeFloaterProtection
  by_cases hzero : count = 0
  · rw [if_pos hzero]
    refine ⟨fun h => absurd hzero (by omega), fun _ => ⟨rfl, hzero⟩, rfl, fun i hi => ?_⟩
    constructor
    · exact Or.inr
    · intro h
      rcases h with ⟨hpos, _⟩ | h
      · omega
      · exact h
  · have hpos : 0 < count := by omega
    have hnonneg := hslot hpos
    rw [if_neg hzero, if_neg (by omega), if_pos hnonneg]
    refine ⟨fun _ => ⟨rfl, rfl⟩, fun h => absurd h hzero, List.length_set, fun i hi => ?_⟩
    show (kept.set slot.toNat true).getD i false = true ↔ _
    by_cases hi' : slot = (i : Int)
    · have heq : slot.toNat = i := by omega
      rw [heq]
      refine iff_of_true ?_ (.inl ⟨hpos, hi'⟩)
      simp [List.getD_eq_getElem?_getD, hi]
    · have hne : slot.toNat ≠ i := by omega
      have hget : (kept.set slot.toNat true).getD i false = kept.getD i false := by
        simp [List.getD_eq_getElem?_getD, List.getElem?_set_ne hne]
      rw [hget]
      constructor
      · exact Or.inr
      · intro h
        rcases h with ⟨_, h⟩ | h
        · exact absurd h hi'
        · exact h

theorem resetMutation_reset {state : TuneState X} (hv : state.Valid) :
    Reset state (resetMutation state) := by
  have hslot : ∀ p, 0 < state.count p → 0 ≤ state.slot p := by
    intro p hpos
    have hlow := (hv.slot p).1
    have hfree := hv.free p
    omega
  obtain ⟨hu₁, he₁, hl₁, hk₁⟩ := resetProtection_spec (hv.count .fourfold) (hslot .fourfold)
    [false, false, false]
  obtain ⟨hu₂, he₂, hl₂, hk₂⟩ := resetProtection_spec (hv.count .threefold) (hslot .threefold)
    (resetProtection (state.slot .fourfold) (state.count .fourfold) [false, false, false]).2.2
  -- a slot is kept by the first protection or by the second
  have hkept : ∀ i : Fin 3, (resetProtection (state.slot .threefold) (state.count .threefold)
      (resetProtection (state.slot .fourfold) (state.count .fourfold)
        [false, false, false]).2.2).2.2.getD i.val false = true ↔ state.Active i := by
    intro i
    have hnone : [false, false, false].getD i.val false = false := by
      match i with
      | 0 => rfl
      | 1 => rfl
      | 2 => rfl
    rw [hk₂ i.val (by rw [hl₁]; exact i.isLt), hk₁ i.val i.isLt, hnone]
    unfold Active ActiveBy
    constructor
    · intro h
      rcases h with h | h | h
      · exact .inr h
      · exact .inl h
      · exact absurd h (by simp)
    · intro h
      rcases h with h | h
      · exact .inr (.inl h)
      · exact .inl h
  have hcode : ∀ i : Fin 3, (resetMutation state).code i =
      if (resetProtection (state.slot .threefold) (state.count .threefold)
        (resetProtection (state.slot .fourfold) (state.count .fourfold)
          [false, false, false]).2.2).2.2.getD i.val false then state.code i else 0 := by
    intro i
    match i with
    | 0 => rfl
    | 1 => rfl
    | 2 => rfl
  refine ⟨fun i hi => ?_, fun i hi => ?_, fun p hp => ?_, fun p hp => ?_⟩
  · rw [hcode, if_pos ((hkept i).mpr hi)]
  · rw [hcode, if_neg fun h => hi ((hkept i).mp h)]
  · cases p with
    | fourfold => exact hu₁ hp
    | threefold => exact hu₂ hp
  · cases p with
    | fourfold => exact he₁ hp
    | threefold => exact he₂ hp

namespace FloaterCall

/-- What a call does to the record of its kart. -/
def mutation : FloaterCall → TuneState X → Except EquipmentStateError (TuneState X)
  | activate => .ok
  | setCodes codes => fun state => .ok (state.withCodes codes)
  | applyTune selector shuffle => applyMutation selector shuffle
  | protect protectKind slot => protectMutation protectKind slot
  | reset => fun state => .ok (resetMutation state)

/-- Whether a missing record is inserted. -/
def inserts : FloaterCall → Bool
  | activate => true
  | setCodes _ => true
  | _ => false

/-- What a call checks before it reads. -/
def Guard : FloaterCall → Prop
  | applyTune selector _ => 4 ≤ selector ∧ selector ≤ 6
  | protect _ slot => 0 ≤ slot ∧ slot ≤ 2
  | _ => True

theorem mutation_frame {call : FloaterCall} {state next : TuneState X}
    (h : call.mutation state = .ok next) : next.key = state.key ∧ next.extra = state.extra := by
  cases call with
  | activate =>
    cases h
    exact ⟨rfl, rfl⟩
  | setCodes codes =>
    cases h
    exact ⟨rfl, rfl⟩
  | applyTune selector shuffle =>
    unfold mutation applyMutation at h
    dsimp only at h
    by_cases hblack : selector = 5
    · rw [if_pos hblack] at h
      cases h
      exact ⟨rfl, rfl⟩
    · rw [if_neg hblack] at h
      obtain ⟨_, h⟩ := check_bind.mp h
      obtain ⟨_, _, h⟩ := okOr_bind.mp h
      obtain ⟨_, _, h⟩ := bind_eq_ok h
      obtain ⟨_, _, h⟩ := bind_eq_ok h
      obtain ⟨_, _, h⟩ := bind_eq_ok h
      cases h
      exact ⟨rfl, rfl⟩
  | protect protectKind slot =>
    obtain ⟨_, h⟩ := check_bind.mp h
    obtain ⟨_, h⟩ := check_bind.mp h
    split at h
    next =>
      cases h
      exact ⟨rfl, rfl⟩
    next =>
      split at h
      next =>
        cases h
        exact ⟨rfl, rfl⟩
      next => exact absurd h (by simp)
  | reset =>
    cases h
    exact ⟨rfl, rfl⟩

theorem mutation_does {call : FloaterCall} {state next : TuneState X} (hguard : call.Guard)
    (hstate : state.Valid) (h : call.mutation state = .ok next) (hnext : next.Valid) :
    call.Does state next := by
  cases call with
  | activate =>
    cases h
    rfl
  | setCodes codes =>
    cases h
    rfl
  | applyTune selector shuffle =>
    show if selector = 5 then _ else _
    by_cases hblack : selector = 5
    · rw [if_pos hblack]
      unfold mutation applyMutation at h
      dsimp only at h
      rw [if_pos hblack] at h
      cases h
      rfl
    · rw [if_neg hblack]
      exact applyMutation_filled hblack h hnext
  | protect protectKind slot => exact protectMutation_does hguard h
  | reset =>
    cases h
    exact resetMutation_reset hstate

end FloaterCall

end P4475.Profile
