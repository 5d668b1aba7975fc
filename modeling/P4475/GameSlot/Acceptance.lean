import Mathlib.Data.Nat.Bitwise
import P4475.GameSlot.Protocol

/-!
# Accepted game-slot packets

No packet makes the parser panic. One that it accepts is kept byte for byte, its payload is the
declared rest of it, and its mask obeys the rule of its type.
-/

namespace P4475.GameSlot

open Lib
open MyRoom (checkedAdd)

variable {packet : Bytes} {packetType playerId mask : Nat}

/-! ## What a type says -/

/-- Where a type declares the length of its payload, which follows at once. -/
def lengthOffset : Nat → Nat
  | 1 | 2 => 45
  | 4 | 5 | 6 | 7 | 8 => 40
  | 10 | 16 => 22
  | 11 => 19
  | _ => 16

/-- The rule for a type's mask. -/
def maskRule : Nat → GameSlotMaskRule
  | 1 | 2 | 4 | 5 | 6 | 7 | 8 => .allBitsSet
  | 9 => .nonzeroLowSixteenBitsIncludingSender
  | 11 | 17 => .nonzeroLowSixteenBitsExcludingSender
  | 12 => .lowSixteenBits
  | _ => .lowSixteenBitsExcludingSender

/-- The rule, in terms of the players that the mask names. -/
def GameSlotMaskRule.Holds (mask playerId : Nat) : GameSlotMaskRule → Prop
  | allBitsSet => mask = u32Max
  | lowSixteenBits => mask < 2 ^ 16
  | lowSixteenBitsExcludingSender => mask < 2 ^ 16 ∧ mask.testBit playerId = false
  | nonzeroLowSixteenBits => mask < 2 ^ 16 ∧ mask ≠ 0
  | nonzeroLowSixteenBitsIncludingSender => mask < 2 ^ 16 ∧ mask.testBit playerId = true
  | nonzeroLowSixteenBitsExcludingSender =>
    mask < 2 ^ 16 ∧ mask ≠ 0 ∧ mask.testBit playerId = false

theorem low_iff (hmask : mask < 2 ^ 32) : mask &&& 0xffff0000 = 0 ↔ mask < 2 ^ 16 := by
  have hhigh : ∀ i, Nat.testBit 0xffff0000 i = (decide (16 ≤ i) && decide (i - 16 < 16)) := by
    intro i
    rw [show 0xffff0000 = (2 ^ 16 - 1) <<< 16 from rfl, Nat.testBit_shiftLeft,
      Nat.testBit_two_pow_sub_one]
  constructor
  · intro h
    refine Nat.lt_pow_two_of_testBit mask fun i hi => ?_
    have hbit : (mask &&& 0xffff0000).testBit i = false := by rw [h, Nat.zero_testBit]
    rw [Nat.testBit_and, hhigh] at hbit
    by_cases hlt : i < 32
    · rw [decide_eq_true hi, decide_eq_true (by omega)] at hbit
      simpa using hbit
    · exact Nat.testBit_lt_two_pow
        (Nat.lt_of_lt_of_le hmask (Nat.pow_le_pow_right (by decide) (Nat.le_of_not_lt hlt)))
  · intro h
    refine Nat.eq_of_testBit_eq fun i => ?_
    rw [Nat.testBit_and, hhigh, Nat.zero_testBit]
    by_cases hi : 16 ≤ i
    · rw [Nat.testBit_lt_two_pow
        (Nat.lt_of_lt_of_le h (Nat.pow_le_pow_right (by decide) hi)), Bool.false_and]
    · rw [decide_eq_false hi, Bool.false_and, Bool.and_false]

theorem sender_iff : mask &&& 1 <<< playerId = 0 ↔ mask.testBit playerId = false := by
  rw [Nat.one_shiftLeft, Nat.and_two_pow]
  cases mask.testBit playerId with
  | false => simp
  | true => simp

theorem GameSlotMaskRule.isMet_iff {rule : GameSlotMaskRule} (hmask : mask < 2 ^ 32) :
    rule.isMet mask playerId = true ↔ rule.Holds mask playerId := by
  have hlow := low_iff hmask
  have hsender : mask &&& 1 <<< playerId = 0 ↔ mask.testBit playerId = false := sender_iff
  cases rule with
  | allBitsSet => exact decide_eq_true_iff
  | lowSixteenBits => exact decide_eq_true_iff.trans hlow
  | lowSixteenBitsExcludingSender => exact decide_eq_true_iff.trans (and_congr hlow hsender)
  | nonzeroLowSixteenBits => exact decide_eq_true_iff.trans (and_congr_left' hlow)
  | nonzeroLowSixteenBitsIncludingSender =>
    refine decide_eq_true_iff.trans (and_congr hlow ?_)
    rw [ne_eq, ne_eq, hsender, Bool.not_eq_false]
    refine ⟨And.right, fun h => ⟨?_, h⟩⟩
    rintro rfl
    rw [Nat.zero_testBit] at h
    cases h
  | nonzeroLowSixteenBitsExcludingSender =>
    exact decide_eq_true_iff.trans (and_congr hlow (and_congr_right' hsender))

/-! ## Steps -/

/-- A drop, not a panic. -/
abbrev GameSlotFault.IsDrop (fault : GameSlotFault) : Prop := fault ≠ .panic

theorem isDrop_drop (reason : GameSlotDropReason) : (GameSlotFault.drop reason).IsDrop :=
  fun h => nomatch h

theorem require_outcome (c : Prop) [Decidable c] (reason : GameSlotDropReason) :
    Outcome GameSlotFault.IsDrop (fun _ => c) (require c reason) :=
  Outcome.of_check (isDrop_drop reason)

theorem okOr_outcome {α : Type} (reason : GameSlotDropReason) (o : Option α) :
    Outcome GameSlotFault.IsDrop (fun a => o = some a) (okOr (.drop reason) o) :=
  Outcome.of_okOr (isDrop_drop reason) o

theorem readArray_outcome (packet : Bytes) (place : ByteField) (context : String) :
    Outcome GameSlotFault.IsDrop (fun value => numberAt packet place = some value)
      (readArray packet place context) := by
  unfold readArray
  cases checkedAdd place.offset place.width with
  | none => exact isDrop_drop _
  | some minimum =>
    dsimp only
    cases numberAt packet place with
    | none => exact isDrop_drop _
    | some value => exact rfl

theorem readU32_outcome (packet : Bytes) (offset : Nat) (context : String) :
    Outcome GameSlotFault.IsDrop (fun value => u32At packet offset = some value)
      (readU32 packet offset context) := readArray_outcome packet _ context

theorem readU16_outcome (packet : Bytes) (offset : Nat) (context : String) :
    Outcome GameSlotFault.IsDrop (fun value => u16At packet offset = some value)
      (readU16 packet offset context) := readArray_outcome packet _ context

theorem readI32_outcome (packet : Bytes) (offset : Nat) (context : String) :
    Outcome GameSlotFault.IsDrop
      (fun value => ∃ bits, u32At packet offset = some bits ∧ value = signedOf 4 bits)
      (readI32 packet offset context) := by
  unfold readI32
  rw [← bind_pure_comp]
  refine (readArray_outcome packet _ context).bind fun bits hbits => ?_
  exact Outcome.ok ⟨bits, hbits, rfl⟩

theorem readI16_outcome (packet : Bytes) (offset : Nat) (context : String) :
    Outcome GameSlotFault.IsDrop (fun _ => True) (readI16 packet offset context) := by
  unfold readI16
  rw [← bind_pure_comp]
  exact (readArray_outcome packet _ context).bind fun bits hbits => Outcome.ok trivial

/-- An index that is in bounds. -/
theorem index_outcome {offset : Nat} (h : offset < packet.length) :
    Outcome GameSlotFault.IsDrop (fun value => byte packet offset = some value)
      (index packet offset) := by
  obtain ⟨value, hvalue⟩ := numberAt_within (show ByteField.Within packet.length ⟨offset, 1⟩ from h)
  have hbyte : byte packet offset = some value := hvalue
  unfold index
  rw [hbyte]
  exact rfl

theorem readPosition_outcome (packet : Bytes) (offset : Nat) (context : String)
    (nonFinite : Nat → GameSlotDropReason) :
    Outcome GameSlotFault.IsDrop
      (fun position => isFinite position.x = true ∧ isFinite position.y = true ∧
        isFinite position.z = true)
      (readPosition packet offset context nonFinite) := by
  refine (readArray_outcome packet _ context).bind fun x _ => ?_
  refine (readArray_outcome packet _ context).bind fun y _ => ?_
  refine (readArray_outcome packet _ context).bind fun z _ => ?_
  refine (Outcome.of_check (isDrop_drop _)).bind fun _ hx => ?_
  refine (Outcome.of_check (isDrop_drop _)).bind fun _ hy => ?_
  refine (Outcome.of_check (isDrop_drop _)).bind fun _ hz => ?_
  exact Outcome.ok ⟨hx, hy, hz⟩

theorem ensureMinimum_outcome (packet : Bytes) (context : String) (minimum : Nat) :
    Outcome GameSlotFault.IsDrop (fun _ => minimum ≤ packet.length)
      (ensureMinimum packet context minimum) := Outcome.of_check (isDrop_drop _)

theorem validateMask_outcome (packetType mask playerId : Nat) (rule : GameSlotMaskRule) :
    Outcome GameSlotFault.IsDrop (fun _ => rule.isMet mask playerId = true)
      (validateMask packetType mask playerId rule) := Outcome.of_check (isDrop_drop _)

/-- The blob ends where the packet does. -/
theorem validateBlob_outcome (packet : Bytes) (packetType offset declared : Nat) :
    Outcome GameSlotFault.IsDrop
      (fun range => range = ⟨offset, declared⟩ ∧ declared ≤ maxGameSlotBlobLength ∧
        offset + declared = packet.length)
      (validateBlob packet packetType offset declared) := by
  refine (Outcome.of_check (isDrop_drop _)).bind fun _ hcap => ?_
  refine (Outcome.of_check (isDrop_drop _)).bind fun _ hoffset => ?_
  refine (Outcome.of_check (isDrop_drop _)).bind fun _ hlength => ?_
  exact Outcome.ok ⟨rfl, hcap, by omega⟩

theorem mapM_outcome {α β : Type} {f : α → Parsing β} {l : List α}
    (h : ∀ a ∈ l, Outcome GameSlotFault.IsDrop (fun _ => True) (f a)) :
    Outcome GameSlotFault.IsDrop (fun values => values.length = l.length) (l.mapM f) := by
  induction l with
  | nil => exact rfl
  | cons a l ih =>
    rw [List.mapM_cons]
    refine (h a List.mem_cons_self).bind fun b _ => ?_
    refine (ih fun a ha => h a (List.mem_cons_of_mem _ ha)).bind fun values hvalues => ?_
    exact Outcome.ok (congrArg (· + 1) hvalues)

/-! ## Bodies -/

/-- The blob is all that follows the length of its type. -/
def BlobAt (packet : Bytes) (packetType : Nat) (range : GameSlotPayloadRange) : Prop :=
  u32At packet (lengthOffset packetType) = some range.length ∧
    range.offset = lengthOffset packetType + 4 ∧ range.length ≤ maxGameSlotBlobLength ∧
    range.offset + range.length = packet.length

/-- What the parser of a type owes. -/
structure Owed (packet : Bytes) (packetType playerId mask : Nat) (decoded : Decoded) : Prop where
  type_eq : decoded.1.packetType = packetType
  blob : BlobAt packet packetType decoded.1.payloadRange
  rule : (maskRule packetType).isMet mask playerId = true
  audience : decoded.2 = .relayOriginal .recipientMaskExceptSender →
    packetType ∈ [9, 10, 11, 16, 17]

theorem BlobAt.of_validate {packetType declared : Nat} {range : GameSlotPayloadRange}
    (hdeclared : u32At packet (lengthOffset packetType) = some declared)
    (h : range = ⟨lengthOffset packetType + 4, declared⟩ ∧ declared ≤ maxGameSlotBlobLength ∧
      lengthOffset packetType + 4 + declared = packet.length) : BlobAt packet packetType range := by
  obtain ⟨rfl, hcap, hend⟩ := h
  exact ⟨hdeclared, rfl, hcap, hend⟩

/-- The pickup of a type. -/
theorem parseItemPickupToken_outcome (hlength : 73 ≤ packet.length) :
    Outcome GameSlotFault.IsDrop
      (fun result => result.1 = if packetType = 1 then ItemPickupKind.type1 else .type2)
      (parseItemPickupToken packet packetType playerId) := by
  refine (index_outcome (by omega)).bind fun requestStatus _ => ?_
  refine (readU32_outcome packet _ _).bind fun requestItemId _ => ?_
  refine (require_outcome _ _).bind fun _ _ => ?_
  refine (readU32_outcome packet _ _).bind fun objectId _ => ?_
  refine (readU32_outcome packet _ _).bind fun nestedObjectId _ => ?_
  refine (require_outcome _ _).bind fun _ _ => ?_
  refine (readU32_outcome packet _ _).bind fun nestedState _ => ?_
  refine (require_outcome _ _).bind fun _ _ => ?_
  refine (readU32_outcome packet _ _).bind fun nestedOwner _ => ?_
  refine (require_outcome _ _).bind fun _ _ => ?_
  refine (readU32_outcome packet _ _).bind fun firstTick _ => ?_
  refine (readU32_outcome packet _ _).bind fun secondTick _ => ?_
  refine (readU32_outcome packet _ _).bind fun operationTick _ => ?_
  refine Outcome.ite (fun htype => ?_) fun htype => ?_
  · refine (require_outcome _ _).bind fun _ _ => ?_
    refine (require_outcome _ _).bind fun _ _ => ?_
    refine (require_outcome _ _).bind fun _ _ => ?_
    exact Outcome.ok (if_pos htype).symm
  · refine (require_outcome _ _).bind fun _ _ => ?_
    refine (require_outcome _ _).bind fun _ _ => ?_
    exact Outcome.ok (if_neg htype).symm

theorem parseItemPickup_outcome (htype : packetType = 1 ∨ packetType = 2) :
    Outcome GameSlotFault.IsDrop (Owed packet packetType playerId mask)
      (parseItemPickup packet packetType playerId mask) := by
  have hoffset : lengthOffset packetType = 45 := by
    rcases htype with rfl | rfl <;> rfl
  have hmaskRule : maskRule packetType = .allBitsSet := by
    rcases htype with rfl | rfl <;> rfl
  refine (ensureMinimum_outcome packet _ _).bind fun _ _ => ?_
  refine (validateMask_outcome _ _ _ _).bind fun _ hrule => ?_
  refine (readU32_outcome packet _ _).bind fun declared hdeclared => ?_
  refine (validateBlob_outcome packet _ _ _).bind fun blob hblob => ?_
  refine (require_outcome _ _).bind fun _ hlength => ?_
  refine (readU32_outcome packet _ _).bind fun operationHash _ => ?_
  refine (readU32_outcome packet _ _).bind fun operationBaseHash _ => ?_
  refine (require_outcome _ _).bind fun _ _ => ?_
  have hend : 73 ≤ packet.length := by
    obtain ⟨rfl, -, hend⟩ := hblob
    have hdeclared' : declared = 24 := hlength
    omega
  refine (parseItemPickupToken_outcome hend).bind ?_
  intro (kind, token) hkind
  refine (readPosition_outcome packet _ _ _).bind fun position _ => ?_
  refine (readI16_outcome packet _ _).bind fun liveRank _ => ?_
  refine Outcome.ok ⟨?_, .of_validate (hoffset ▸ hdeclared) (hoffset ▸ hblob), ?_, ?_⟩
  · obtain rfl : kind = _ := hkind
    rcases htype with rfl | rfl <;> rfl
  · rw [hmaskRule]
    exact hrule
  · intro h
    cases h

theorem parseWorldObjectCollection_outcome (htype : packetType = 4 ∨ packetType = 6) :
    Outcome GameSlotFault.IsDrop (Owed packet packetType playerId mask)
      (parseWorldObjectCollection packet packetType playerId mask) := by
  have hoffset : lengthOffset packetType = 40 := by
    rcases htype with rfl | rfl <;> rfl
  have hmaskRule : maskRule packetType = .allBitsSet := by
    rcases htype with rfl | rfl <;> rfl
  refine (ensureMinimum_outcome packet _ _).bind fun _ _ => ?_
  refine (validateMask_outcome _ _ _ _).bind fun _ hrule => ?_
  refine (readU32_outcome packet _ _).bind fun declared hdeclared => ?_
  refine (validateBlob_outcome packet _ _ _).bind fun blob hblob => ?_
  refine (require_outcome _ _).bind fun _ hlength => ?_
  refine (readU32_outcome packet _ _).bind fun operationHash _ => ?_
  refine (readU32_outcome packet _ _).bind fun operationBaseHash _ => ?_
  refine (require_outcome _ _).bind fun _ _ => ?_
  refine (readU32_outcome packet _ _).bind fun outerObjectId _ => ?_
  refine (readU32_outcome packet _ _).bind fun nestedObjectId _ => ?_
  refine (require_outcome _ _).bind fun _ _ => ?_
  refine (require_outcome _ _).bind fun _ _ => ?_
  refine (readU32_outcome packet _ _).bind fun state _ => ?_
  refine (require_outcome _ _).bind fun _ _ => ?_
  refine (readI32_outcome packet _ _).bind fun collector _ => ?_
  refine (okOr_outcome _ _).bind fun collectorId _ => ?_
  refine (readPosition_outcome packet _ _ _).bind fun position _ => ?_
  refine (readU32_outcome packet _ _).bind fun currentTick _ => ?_
  refine (readU32_outcome packet _ _).bind fun expiryTick _ => ?_
  refine (readU16_outcome packet _ _).bind fun trailingWord _ => ?_
  refine (readU32_outcome packet _ _).bind fun operationTick _ => ?_
  -- The variant is the last byte of the body, whose length was checked.
  have hend : 68 < packet.length := by
    obtain ⟨rfl, -, hend⟩ := hblob
    have hdeclared' : declared = 25 := hlength
    omega
  refine (index_outcome hend).bind fun variant _ => ?_
  refine Outcome.ok ⟨?_, .of_validate (hoffset ▸ hdeclared) (hoffset ▸ hblob), ?_, ?_⟩
  · rcases htype with rfl | rfl <;> rfl
  · rw [hmaskRule]
    exact hrule
  · intro h
    cases h

theorem readFiniteTeamFlagPosition_outcome (packet : Bytes) (packetType offset axisBase : Nat) :
    Outcome GameSlotFault.IsDrop (fun _ => True)
      (readFiniteTeamFlagPosition packet packetType offset axisBase) :=
  (readPosition_outcome packet _ _ _).mono fun _ _ => trivial

theorem parseTeamFlagVariantFields_outcome (packet : Bytes) (packetType payloadOffset : Nat)
    (kind : TeamFlagTransitionKind) :
    Outcome GameSlotFault.IsDrop (fun _ => True)
      (parseTeamFlagVariantFields packet packetType payloadOffset kind) := by
  cases kind with
  | pickupAttach =>
    refine (readI32_outcome packet _ _).bind fun carrier _ => ?_
    refine (okOr_outcome _ _).bind fun carrierId _ => ?_
    exact (readU32_outcome packet _ _).bind fun tick _ => Outcome.ok trivial
  | dropRelocate =>
    refine (readU32_outcome packet _ _).bind fun tick _ => ?_
    exact (readFiniteTeamFlagPosition_outcome packet _ _ _).bind fun _ _ => Outcome.ok trivial
  | returnReset =>
    refine (readU32_outcome packet _ _).bind fun tick _ => ?_
    exact (readFiniteTeamFlagPosition_outcome packet _ _ _).bind fun _ _ => Outcome.ok trivial

/-- The kind of a type that is dispatched here. -/
theorem teamFlagShape_outcome (htype : packetType = 5 ∨ packetType = 7 ∨ packetType = 8) :
    Outcome GameSlotFault.IsDrop
      (fun shape => ∀ transition : TeamFlagTransition, transition.kind = shape.1 →
        (GameSlotBody.teamFlagTransition transition).packetType = packetType)
      (teamFlagShape packetType) := by
  rcases htype with rfl | rfl | rfl <;>
  · rintro ⟨⟩ rfl
    rfl

theorem parseTeamFlagTransition_outcome
    (htype : packetType = 5 ∨ packetType = 7 ∨ packetType = 8) :
    Outcome GameSlotFault.IsDrop (Owed packet packetType playerId mask)
      (parseTeamFlagTransition packet packetType mask) := by
  have hoffset : lengthOffset packetType = 40 := by
    rcases htype with rfl | rfl | rfl <;> rfl
  have hmaskRule : maskRule packetType = .allBitsSet := by
    rcases htype with rfl | rfl | rfl <;> rfl
  refine (ensureMinimum_outcome packet _ _).bind fun _ _ => ?_
  refine (validateMask_outcome _ _ _ _).bind fun _ hrule => ?_
  refine (readU32_outcome packet _ _).bind fun declared hdeclared => ?_
  refine (validateBlob_outcome packet _ _ _).bind fun payload hpayload => ?_
  refine (teamFlagShape_outcome htype).bind ?_
  intro (kind, expectedState, expectedLength) hshape
  refine (require_outcome _ _).bind fun _ _ => ?_
  refine (readU32_outcome packet _ _).bind fun operationHash _ => ?_
  refine (readU32_outcome packet _ _).bind fun operationBaseHash _ => ?_
  refine (require_outcome _ _).bind fun _ _ => ?_
  refine (readU32_outcome packet _ _).bind fun objectId _ => ?_
  refine (readU32_outcome packet _ _).bind fun nestedObjectId _ => ?_
  refine (require_outcome _ _).bind fun _ _ => ?_
  refine (readU32_outcome packet _ _).bind fun state _ => ?_
  refine (require_outcome _ _).bind fun _ _ => ?_
  refine (readFiniteTeamFlagPosition_outcome packet _ _ _).bind fun outerPosition _ => ?_
  refine (parseTeamFlagVariantFields_outcome packet _ _ kind).bind ?_
  intro (carrierId, transitionTick, transitionPosition) _
  refine (readU32_outcome packet _ _).bind fun currentTick _ => ?_
  refine (readU32_outcome packet _ _).bind fun expiryTick _ => ?_
  refine (readU16_outcome packet _ _).bind fun trailingWord _ => ?_
  refine Outcome.ok ⟨hshape _ rfl, .of_validate (hoffset ▸ hdeclared) (hoffset ▸ hpayload), ?_, ?_⟩
  · rw [hmaskRule]
    exact hrule
  · intro h
    cases h

theorem parseItemVector_outcome :
    Outcome GameSlotFault.IsDrop (Owed packet 9 playerId mask)
      (parseItemVector packet playerId mask) := by
  refine (ensureMinimum_outcome packet _ _).bind fun _ _ => ?_
  refine (validateMask_outcome _ _ _ _).bind fun _ hrule => ?_
  refine (readU32_outcome packet _ _).bind fun declared hdeclared => ?_
  refine (validateBlob_outcome packet _ _ _).bind fun payload hpayload => ?_
  refine (readU32_outcome packet _ _).bind fun payloadHash _ => ?_
  refine (require_outcome _ _).bind fun _ _ => ?_
  refine (readU32_outcome packet _ _).bind fun count _ => ?_
  refine (require_outcome _ _).bind fun _ _ => ?_
  refine (require_outcome _ _).bind fun _ _ => ?_
  refine (mapM_outcome fun i _ => (readU32_outcome packet _ _).mono fun _ _ => trivial).bind ?_
  intro items _
  exact Outcome.ok ⟨rfl, .of_validate hdeclared hpayload, hrule, fun _ => by decide⟩

theorem parseItemUse_outcome (htype : packetType = 10 ∨ packetType = 16) :
    Outcome GameSlotFault.IsDrop (Owed packet packetType playerId mask)
      (parseItemUse packet packetType playerId mask) := by
  have hoffset : lengthOffset packetType = 22 := by
    rcases htype with rfl | rfl <;> rfl
  have hmaskRule : maskRule packetType = .lowSixteenBitsExcludingSender := by
    rcases htype with rfl | rfl <;> rfl
  refine (ensureMinimum_outcome packet _ _).bind fun _ hminimum => ?_
  refine (validateMask_outcome _ _ _ _).bind fun _ hrule => ?_
  refine (readU32_outcome packet _ _).bind fun declared hdeclared => ?_
  refine (validateBlob_outcome packet _ _ _).bind fun blob hblob => ?_
  refine (index_outcome (by omega)).bind fun rawByte13 _ => ?_
  refine (readU16_outcome packet _ _).bind fun status _ => ?_
  refine (readU16_outcome packet _ _).bind fun itemOrSkill _ => ?_
  refine (index_outcome (by omega)).bind fun rawByte18 _ => ?_
  refine (index_outcome (by omega)).bind fun rawByte19 _ => ?_
  refine (readU16_outcome packet _ _).bind fun ancillaryEffectCode _ => ?_
  refine Outcome.ok ⟨?_, .of_validate (hoffset ▸ hdeclared) (hoffset ▸ hblob), ?_, fun _ => ?_⟩
  · rcases htype with rfl | rfl <;> rfl
  · rw [hmaskRule]
    exact hrule
  · rcases htype with rfl | rfl <;> decide

theorem parseItemReaction_outcome :
    Outcome GameSlotFault.IsDrop (Owed packet 11 playerId mask)
      (parseItemReaction packet playerId mask) := by
  refine (ensureMinimum_outcome packet _ _).bind fun _ hminimum => ?_
  refine (validateMask_outcome _ _ _ _).bind fun _ hrule => ?_
  refine (readU32_outcome packet _ _).bind fun declared hdeclared => ?_
  refine (validateBlob_outcome packet _ _ _).bind fun blob hblob => ?_
  refine (index_outcome (by omega)).bind fun uni _ => ?_
  refine (readI16_outcome packet _ _).bind fun skill _ => ?_
  exact Outcome.ok ⟨rfl, .of_validate hdeclared hblob, hrule, fun _ => by decide⟩

theorem parseKartSnapshot_outcome :
    Outcome GameSlotFault.IsDrop (Owed packet 17 playerId mask)
      (parseKartSnapshot packet playerId mask) := by
  refine (ensureMinimum_outcome packet _ _).bind fun _ hminimum => ?_
  refine (validateMask_outcome _ _ _ _).bind fun _ hrule => ?_
  refine (readU16_outcome packet _ _).bind fun reservedWord _ => ?_
  refine (require_outcome _ _).bind fun _ _ => ?_
  refine (readU32_outcome packet _ _).bind fun declared hdeclared => ?_
  refine (validateBlob_outcome packet _ _ _).bind fun payload hpayload => ?_
  refine (readU32_outcome packet _ _).bind fun nestedHash _ => ?_
  refine (okOr_outcome _ _).bind fun kind _ => ?_
  refine (index_outcome (by omega)).bind fun flag0 _ => ?_
  refine (index_outcome (by omega)).bind fun flag1 _ => ?_
  refine (index_outcome (by omega)).bind fun flag2 _ => ?_
  refine (require_outcome _ _).bind fun _ _ => ?_
  refine (index_outcome (by omega)).bind fun common _ => ?_
  refine (readU32_outcome packet _ _).bind fun objectId _ => ?_
  exact Outcome.ok ⟨rfl, .of_validate hdeclared hpayload, hrule, fun _ => by decide⟩

theorem parseDashboardAllocationNotice_outcome :
    Outcome GameSlotFault.IsDrop (Owed packet 13 playerId mask)
      (parseDashboardAllocationNotice packet playerId mask) := by
  refine (ensureMinimum_outcome packet _ _).bind fun _ hminimum => ?_
  refine (validateMask_outcome _ _ _ _).bind fun _ hrule => ?_
  refine (readU16_outcome packet _ _).bind fun reservedWord _ => ?_
  refine (require_outcome _ _).bind fun _ _ => ?_
  refine (readU32_outcome packet _ _).bind fun declared hdeclared => ?_
  refine (validateBlob_outcome packet _ _ _).bind fun payload hpayload => ?_
  refine (require_outcome _ _).bind fun _ _ => ?_
  refine (index_outcome (by omega)).bind fun rawByte13 _ => ?_
  exact Outcome.ok ⟨rfl, .of_validate hdeclared hpayload, hrule, nofun⟩

/-! ## Item operations -/

theorem parseBarricadePlacement_outcome :
    Outcome GameSlotFault.IsDrop (fun placement => placement.ownerId = playerId)
      (parseBarricadePlacement packet playerId) := by
  refine (show Outcome GameSlotFault.IsDrop (fun _ => True)
    (validateBarricadePlacementOwner packet playerId) from ?_).bind fun _ _ => ?_
  · refine (readI32_outcome packet _ _).bind fun ownerId _ => ?_
    exact (require_outcome _ _).mono fun _ _ => trivial
  refine (readU32_outcome packet _ _).bind fun reserved _ => ?_
  refine (require_outcome _ _).bind fun _ _ => ?_
  refine (mapM_outcome fun i _ => ?_).bind fun transform _ => ?_
  · refine (readArray_outcome packet _ _).bind fun value _ => ?_
    exact (require_outcome _ _).bind fun _ _ => Outcome.ok trivial
  refine (readU32_outcome packet _ _).bind fun objectId _ => ?_
  exact (readU32_outcome packet _ _).bind fun tick _ => Outcome.ok rfl

theorem parseBarricadeTransition_outcome (packet : Bytes) (state : Nat) :
    Outcome GameSlotFault.IsDrop (fun _ => True) (parseBarricadeTransition packet state) := by
  refine (readI32_outcome packet _ _).bind fun claimed _ => ?_
  refine (okOr_outcome _ _).bind fun ownerId _ => ?_
  refine (readU32_outcome packet _ _).bind fun objectId _ => ?_
  refine (require_outcome _ _).bind fun _ _ => ?_
  refine (readU32_outcome packet _ _).bind fun tick _ => ?_
  exact (readU32_outcome packet _ _).bind fun trailing _ => Outcome.ok trivial

theorem parseBarricade_outcome (packet : Bytes) (playerId state : Nat) :
    Outcome GameSlotFault.IsDrop (fun _ => True) (parseBarricade packet playerId state) := by
  have htransition : ∀ state, Outcome GameSlotFault.IsDrop (fun _ => True)
      (do return some (BarricadeOperation.transition (← parseBarricadeTransition packet state))) :=
    fun state => (parseBarricadeTransition_outcome packet state).bind fun _ _ => Outcome.ok trivial
  unfold parseBarricade
  split
  · exact parseBarricadePlacement_outcome.bind fun _ _ => Outcome.ok trivial
  · exact htransition 2
  · exact htransition 3
  · exact htransition 4
  · exact Outcome.ok trivial

theorem barricade_pair : ∀ pair ∈ csharpRelayOnlyOperations, pair.1 ≠ gopBarricadeHash := by
  decide

/-- A barricade that is known at all has a schema. -/
theorem isSome_of_barricade {operationBaseHash : Nat}
    (h : (itemOperationSchema gopBarricadeHash operationBaseHash).isSome ∨
      isKnownItemOperationPair gopBarricadeHash operationBaseHash) :
    (itemOperationSchema gopBarricadeHash operationBaseHash).isSome = true := by
  rcases h with h | h
  · exact h
  · rcases (Bool.or_eq_true ..).mp h with h | h
    · exact h
    · exact absurd rfl (barricade_pair _ (List.contains_iff_mem.mp h))

theorem parseItemOperation_outcome :
    Outcome GameSlotFault.IsDrop (Owed packet 12 playerId mask)
      (parseItemOperation packet playerId mask) := by
  refine (ensureMinimum_outcome packet _ _).bind fun _ hminimum => ?_
  refine (validateMask_outcome _ _ _ _).bind fun _ hrule => ?_
  refine (readU16_outcome packet _ _).bind fun reservedWord _ => ?_
  refine (require_outcome _ _).bind fun _ _ => ?_
  refine (readU32_outcome packet _ _).bind fun declared hdeclared => ?_
  refine (validateBlob_outcome packet _ _ _).bind fun payload hpayload => ?_
  refine (readU32_outcome packet _ _).bind fun operationHash _ => ?_
  refine (readU32_outcome packet _ _).bind fun operationBaseHash _ => ?_
  refine (require_outcome _ _).bind fun _ hknown => ?_
  refine (okOr_outcome _ _).bind fun stop _ => ?_
  refine (okOr_outcome _ _).bind fun raw _ => ?_
  have hblob : BlobAt packet 12 payload := .of_validate hdeclared hpayload
  refine Outcome.ite (fun hbarricade => ?_) fun _ => ?_
  · subst hbarricade
    obtain ⟨schema, hschema⟩ := Option.isSome_iff_exists.mp (isSome_of_barricade hknown)
    rw [hschema]
    refine (show Outcome GameSlotFault.IsDrop (fun _ => True)
      ((schema.validate raw).mapError _) from Outcome.mapError (fun _ _ => trivial)
        fun _ => isDrop_drop _).bind fun validated _ => ?_
    refine (parseBarricade_outcome packet playerId _).bind fun barricade _ => ?_
    exact Outcome.ok ⟨rfl, hblob, hrule, nofun⟩
  · cases (itemOperationSchema operationHash operationBaseHash).bind
        fun schema => (schema.validate raw).toOption with
    | some validated => exact Outcome.ok ⟨rfl, hblob, hrule, nofun⟩
    | none => exact Outcome.ok ⟨rfl, hblob, hrule, nofun⟩

/-! ## Packets -/

theorem parseBody_outcome (packet : Bytes) (packetType playerId mask : Nat) :
    Outcome GameSlotFault.IsDrop (Owed packet packetType playerId mask)
      (parseBody packet packetType playerId mask) := by
  unfold parseBody
  split
  · exact parseItemPickup_outcome (.inl rfl)
  · exact parseItemPickup_outcome (.inr rfl)
  · exact parseWorldObjectCollection_outcome (.inl rfl)
  · exact parseWorldObjectCollection_outcome (.inr rfl)
  · exact parseTeamFlagTransition_outcome (.inl rfl)
  · exact parseTeamFlagTransition_outcome (.inr (.inl rfl))
  · exact parseTeamFlagTransition_outcome (.inr (.inr rfl))
  · exact parseItemVector_outcome
  · exact parseItemUse_outcome (.inl rfl)
  · exact parseItemUse_outcome (.inr rfl)
  · exact parseItemReaction_outcome
  · exact parseItemOperation_outcome
  · exact parseDashboardAllocationNotice_outcome
  · exact parseKartSnapshot_outcome
  · exact isDrop_drop _

/-- The id that a packet claims is the word itself. -/
theorem playerIdOf_signedOf {bits : Nat} (hlt : bits < 2 ^ 32)
    (h : playerIdOf (signedOf 4 bits) = some playerId) :
    bits = playerId ∧ playerId ≤ maxGameSlotPlayerId := by
  unfold playerIdOf at h
  by_cases hrange : 0 ≤ signedOf 4 bits ∧ signedOf 4 bits ≤ maxGameSlotPlayerId
  · rw [if_pos hrange, Option.some_inj] at h
    unfold maxGameSlotPlayerId at hrange ⊢
    by_cases hhalf : 2 * bits < 256 ^ 4
    · rw [signedOf, if_pos hhalf] at hrange h
      omega
    · -- A word with its top bit set is below zero.
      rw [signedOf, if_neg hhalf] at hrange h
      omega
  · rw [if_neg hrange] at h
    cases h

/-- What an accepted packet is. -/
structure Accepted (packet : Bytes) (parsed : ParsedGameSlotPacket) : Prop where
  raw_eq : parsed.raw = packet
  playerId_eq : u32At packet 4 = some parsed.playerId
  playerId_le : parsed.playerId ≤ maxGameSlotPlayerId
  mask_eq : u32At packet 8 = some parsed.itemOrRecipientMask
  type_eq : byte packet 12 = some parsed.body.packetType
  /-- The payload is the rest of the packet, as long as its type declares. -/
  payload_eq : ∃ front payload, packet = front ++ payload ∧
    front.length = lengthOffset parsed.body.packetType + 4 ∧
    u32At packet (lengthOffset parsed.body.packetType) = some payload.length ∧
    payload.length ≤ maxGameSlotBlobLength ∧ parsed.payload = some payload
  rule : (maskRule parsed.body.packetType).Holds parsed.itemOrRecipientMask parsed.playerId
  /-- Among the recipients of a packet that goes to its mask is its sender only for type 9. -/
  recipients : parsed.action = .relayOriginal .recipientMaskExceptSender →
    (parsed.itemOrRecipientMask.testBit parsed.playerId = true ↔ parsed.body.packetType = 9)

theorem payload_eq_of_blobAt {parsed : ParsedGameSlotPacket} (hraw : parsed.raw = packet)
    (hlength : packet.length ≤ maxGameSlotLogicalLength)
    (h : BlobAt packet packetType parsed.body.payloadRange) :
    ∃ front payload, packet = front ++ payload ∧ front.length = lengthOffset packetType + 4 ∧
      u32At packet (lengthOffset packetType) = some payload.length ∧
      payload.length ≤ maxGameSlotBlobLength ∧ parsed.payload = some payload := by
  obtain ⟨hdeclared, hoffset, hcap, hend⟩ := h
  have hdrop : (packet.drop (lengthOffset packetType + 4)).length =
      parsed.body.payloadRange.length := by
    rw [List.length_drop]
    omega
  refine ⟨packet.take (lengthOffset packetType + 4), packet.drop (lengthOffset packetType + 4),
    (List.take_append_drop _ _).symm, ?_, ?_, ?_, ?_⟩
  · rw [List.length_take]
    omega
  · rw [hdrop]
    exact hdeclared
  · rw [hdrop]
    exact hcap
  · have hadd : checkedAdd parsed.body.payloadRange.offset parsed.body.payloadRange.length =
        some packet.length := by
      unfold checkedAdd usizeMax u64Max
      unfold maxGameSlotLogicalLength at hlength
      rw [hend]
      exact if_pos (by omega)
    show (checkedAdd parsed.body.payloadRange.offset parsed.body.payloadRange.length).bind
      (fun stop => bytesAt parsed.raw ⟨parsed.body.payloadRange.offset, _⟩) = _
    rw [hadd, Option.bind_some, hraw, hoffset]
    have hwithin : ByteField.Within packet.length
        ⟨lengthOffset packetType + 4, packet.length - (lengthOffset packetType + 4)⟩ := by
      show _ + _ ≤ packet.length
      dsimp only
      omega
    rw [bytesAt_within hwithin]
    dsimp only
    rw [List.take_of_length_le (by rw [List.length_drop])]

theorem recipients_of_rule (hrule : (maskRule packetType).Holds mask playerId)
    (htype : packetType ∈ [9, 10, 11, 16, 17]) :
    mask.testBit playerId = true ↔ packetType = 9 := by
  simp only [List.mem_cons, List.not_mem_nil, or_false] at htype
  rcases htype with rfl | rfl | rfl | rfl | rfl
  · exact iff_of_true hrule.2 rfl
  · exact iff_of_false (by rw [hrule.2]; decide) (by decide)
  · exact iff_of_false (by rw [hrule.2.2]; decide) (by decide)
  · exact iff_of_false (by rw [hrule.2]; decide) (by decide)
  · exact iff_of_false (by rw [hrule.2.2]; decide) (by decide)

theorem parseGameSlotPacket_accepts (packet : Bytes) :
    Outcome GameSlotFault.IsDrop (Accepted packet) (parseGameSlotPacket packet) := by
  refine (ensureMinimum_outcome packet _ _).bind fun _ hminimum => ?_
  refine (require_outcome _ _).bind fun _ hmaximum => ?_
  refine (readU32_outcome packet _ _).bind fun actualHash _ => ?_
  refine (require_outcome _ _).bind fun _ _ => ?_
  refine (readI32_outcome packet _ _).bind fun claimed hclaimed => ?_
  refine (okOr_outcome _ _).bind fun playerId hplayer => ?_
  refine (readU32_outcome packet _ _).bind fun mask hmask => ?_
  refine (index_outcome hminimum).bind fun packetType htype => ?_
  refine (parseBody_outcome packet packetType playerId mask).bind ?_
  intro (body, action) howed
  obtain ⟨bits, hbits, rfl⟩ := hclaimed
  obtain ⟨rfl, hle⟩ := playerIdOf_signedOf (within_of_numberAt hbits).2 hplayer
  have htypeEq : body.packetType = packetType := howed.type_eq
  have hrule : (maskRule packetType).Holds mask bits :=
    (GameSlotMaskRule.isMet_iff (within_of_numberAt hmask).2).mp howed.rule
  refine Outcome.ok ⟨rfl, hbits, hle, hmask, ?_, ?_, ?_, ?_⟩
  · rw [htypeEq]
    exact htype
  · rw [htypeEq]
    exact payload_eq_of_blobAt rfl hmaximum howed.blob
  · rw [htypeEq]
    exact hrule
  · intro haction
    rw [htypeEq]
    exact recipients_of_rule hrule (howed.audience haction)

/-- **No packet makes the parser panic, and what it accepts is as its type says.** -/
theorem accepted_or_dropped (packet : Bytes) :
    parseGameSlotPacket packet ≠ .error .panic ∧
      ∀ parsed, parseGameSlotPacket packet = .ok parsed → Accepted packet parsed := by
  constructor
  · intro hpanic
    exact (parseGameSlotPacket_accepts packet).of_error hpanic rfl
  · intro parsed hparsed
    exact (parseGameSlotPacket_accepts packet).of_ok hparsed

end P4475.GameSlot
