import P4475.GameSlot.ItemFields

/-!
# Validated bodies

The table of shapes and the table of layouts agree: a validated body has every field that its state
reads, what is counted in it included. So what a body means is in its own fields.
-/

namespace P4475.GameSlot

open Lib
open MyRoom (checkedAdd checkedMul)

variable {raw raw' : Bytes} {schema : ItemOperationSchema} {validated : ValidatedItemOperation}

/-! ## The two tables agree -/

/-- The length of a body in this state, without what it counts. -/
def ItemOperationLengthRule.least (state : Nat) : ItemOperationLengthRule → Nat
  | fixed length _ => length
  | stateMap cases defaultLength => (caseLength cases defaultLength state).1
  | countedAnyState _ baseLength _ => baseLength
  | countedState counted _ baseLength _ cases defaultLength =>
    if state = counted then baseLength else (caseLength cases defaultLength state).1

/-- The same for all states, where they have the same length. -/
def ItemOperationLengthRule.leastOfAll : ItemOperationLengthRule → Nat
  | fixed length _ => length
  | countedAnyState _ baseLength _ => baseLength
  | _ => 0

theorem ItemOperationLengthRule.leastOfAll_le (rule : ItemOperationLengthRule) (state : Nat) :
    rule.leastOfAll ≤ rule.least state := by
  cases rule with
  | fixed => exact Nat.le_refl _
  | countedAnyState => exact Nat.le_refl _
  | stateMap => exact Nat.zero_le _
  | countedState => exact Nat.zero_le _

/-- The states that some class tells apart come before this one. -/
def firstLateState : Nat := 11

theorem PhaseField.fields_ofState (state : Nat) : (PhaseField.ofState state).fields = [] := by
  unfold ofState
  split <;> rfl

theorem fields_actorBoundNativePhase (state : Nat) :
    (actorBoundNativePhase state).fields = [⟨24, 4⟩, ⟨20, 4⟩, ⟨16, 4⟩] := by
  show [] ++ (PhaseField.ofState state).fields ++ _ ++ _ ++ _ ++ _ ++ _ = _
  rw [PhaseField.fields_ofState]
  rfl

theorem fields_bigTimebomb (state : Nat) :
    (bigTimebomb state).fields = [⟨25, 4⟩, ⟨21, 4⟩, ⟨25, 4⟩, ⟨21, 4⟩, ⟨17, 4⟩, ⟨12, 1⟩] := by
  show _ ++ ([] ++ (PhaseField.ofState state).fields ++ _ ++ _ ++ _ ++ _ ++ _) ++ _ = _
  rw [PhaseField.fields_ofState]
  rfl

/-- No class tells the later states apart. -/
theorem fields_late (className : ClassName) (k : Nat) :
    (layoutOf className (firstLateState + k)).fields = (layoutOf className firstLateState).fields := by
  rw [firstLateState, Nat.add_comm]
  cases className with
  | gopBigTimebomb => exact (fields_bigTimebomb _).trans (fields_bigTimebomb _).symm
  | gopGiantTalisman =>
    exact (fields_actorBoundNativePhase _).trans (fields_actorBoundNativePhase _).symm
  | gopWitchUnionMagic =>
    exact (fields_actorBoundNativePhase _).trans (fields_actorBoundNativePhase _).symm
  | _ => rfl

theorem early_within : ∀ schema ∈ type12Schemas, ∀ state < firstLateState,
    ∀ place ∈ (layoutOf schema.className state).fields,
      place.Within (schema.lengthRule.least state) := by
  decide +kernel

theorem late_within : ∀ schema ∈ type12Schemas,
    ∀ place ∈ (layoutOf schema.className firstLateState).fields,
      place.Within schema.lengthRule.leastOfAll := by
  decide +kernel

/-- **The tables agree**, in every state. -/
theorem fields_within (hschema : schema ∈ type12Schemas) (state : Nat) :
    ∀ place ∈ (layoutOf schema.className state).fields,
      place.Within (schema.lengthRule.least state) := by
  by_cases hlate : state < firstLateState
  · exact early_within schema hschema state hlate
  · obtain ⟨k, rfl⟩ := Nat.exists_eq_add_of_le (Nat.le_of_not_lt hlate)
    rw [fields_late]
    intro place hmem
    exact (late_within schema hschema place hmem).mono (schema.lengthRule.leastOfAll_le _)

/-! ## Validated bodies -/

/-- Some count does not fit the arithmetic of lengths. -/
def ItemOperationValidationError.IsOverflow : ItemOperationValidationError → Prop
  | countLengthOverflow .. => True
  | _ => False

/-- Never by overflow: what validation may report. -/
abbrev Reported (e : ItemOperationValidationError) : Prop := ¬ e.IsOverflow

theorem readField_outcome (raw : Bytes) (place : ByteField) (className : ClassName) (field : String) :
    Outcome Reported (fun value => numberAt raw place = some value)
      (readField raw place className field) := by
  unfold readField
  cases hvalue : numberAt raw place with
  | none => exact Outcome.error id
  | some value => exact Outcome.ok rfl

/-- A counted length is exact and under the cap; the count of a body always fits. -/
theorem countedLength_outcome (className : ClassName) {count baseLength elementWidth : Nat}
    (hcount : count < 2 ^ 32) (hbase : baseLength ≤ 30) (hwidth : elementWidth ≤ 4) :
    Outcome Reported
      (fun length => length = baseLength + count * elementWidth ∧
        length ≤ maxItemOperationRawLength)
      (countedLength className count baseLength elementWidth) := by
  have hsize : count * elementWidth ≤ 2 ^ 32 * 4 := Nat.mul_le_mul (Nat.le_of_lt hcount) hwidth
  have hmul : checkedMul count elementWidth = some (count * elementWidth) := by
    unfold checkedMul usizeMax u64Max
    exact if_pos (by omega)
  have hadd : checkedAdd baseLength (count * elementWidth) =
      some (baseLength + count * elementWidth) := by
    unfold checkedAdd usizeMax u64Max
    exact if_pos (by omega)
  unfold countedLength
  rw [hmul, Option.bind_some, hadd]
  exact Outcome.ite (fun _ => Outcome.error id) fun hle => Outcome.ok ⟨rfl, Nat.le_of_not_lt hle⟩

/-- The length of a body that counts its elements. -/
theorem counted_outcome (raw : Bytes) (className : ClassName)
    {countOffset baseLength elementWidth : Nat} (hbase : baseLength ≤ 30)
    (hwidth : elementWidth ≤ 4) (evidence : Nat → ItemOperationEvidence) :
    Outcome Reported
      (fun expected => (∃ count, u32At raw countOffset = some count ∧
        expected.1 = baseLength + count * elementWidth) ∧ expected.1 ≤ maxItemOperationRawLength)
      (do
        let count ← readField raw ⟨countOffset, 4⟩ className "element count"
        let expected ← countedLength className count baseLength elementWidth
        return (expected, evidence count)) := by
  refine (readField_outcome raw ⟨countOffset, 4⟩ className _).bind fun count hcount => ?_
  refine (countedLength_outcome className (within_of_numberAt hcount).2 hbase hwidth).bind ?_
  intro expected ⟨hexpected, hle⟩
  exact Outcome.ok ⟨⟨count, hcount, hexpected⟩, hle⟩

theorem caseLength_mem (cases : List StateLengthCase) (defaultLength state : Nat) :
    (caseLength cases defaultLength state).1 ∈ defaultLength :: cases.map (·.length) := by
  unfold caseLength
  cases hfind : cases.find? fun entry => entry.states.contains state with
  | none => exact List.mem_cons_self
  | some entry =>
    exact List.mem_cons_of_mem _ (List.mem_map.mpr ⟨entry, List.mem_of_find?_eq_some hfind, rfl⟩)

/-- The lengths that a rule names are under the cap, and its counted parts are small. -/
def ItemOperationLengthRule.Bounded : ItemOperationLengthRule → Prop
  | fixed length _ => length ≤ maxItemOperationRawLength
  | stateMap cases defaultLength =>
    ∀ length ∈ defaultLength :: cases.map (·.length), length ≤ maxItemOperationRawLength
  | countedAnyState _ baseLength elementWidth => baseLength ≤ 30 ∧ elementWidth ≤ 4
  | countedState _ _ baseLength elementWidth cases defaultLength =>
    (baseLength ≤ 30 ∧ elementWidth ≤ 4) ∧
      ∀ length ∈ defaultLength :: cases.map (·.length), length ≤ maxItemOperationRawLength

instance : (rule : ItemOperationLengthRule) → Decidable rule.Bounded
  | .fixed .. => inferInstanceAs (Decidable (_ ≤ _))
  | .stateMap .. => inferInstanceAs (Decidable (∀ _ ∈ _, _))
  | .countedAnyState .. => inferInstanceAs (Decidable (_ ∧ _))
  | .countedState .. => inferInstanceAs (Decidable (_ ∧ _))

theorem rules_bounded : ∀ schema ∈ type12Schemas, schema.lengthRule.Bounded := by
  decide +kernel

/-- The count that a rule reads in this state is the one that the length has. -/
def ItemOperationLengthRule.Counts (raw : Bytes) (state length : Nat) :
    ItemOperationLengthRule → Prop
  | fixed .. | stateMap .. => True
  | countedAnyState countOffset baseLength elementWidth =>
    ∃ count, u32At raw countOffset = some count ∧ length = baseLength + count * elementWidth
  | countedState counted countOffset baseLength elementWidth _ _ => state = counted →
    ∃ count, u32At raw countOffset = some count ∧ length = baseLength + count * elementWidth

/-- **The expected length**: exact where something is counted, never above the cap, and never
by an overflow missing. -/
theorem expectedLength_outcome (hschema : schema ∈ type12Schemas) (raw : Bytes) (state : Nat) :
    Outcome Reported
      (fun expected => schema.lengthRule.least state ≤ expected.1 ∧
        schema.lengthRule.Counts raw state expected.1 ∧ expected.1 ≤ maxItemOperationRawLength)
      (schema.expectedLength raw state) := by
  have hbounded := rules_bounded schema hschema
  unfold ItemOperationSchema.expectedLength
  cases hrule : schema.lengthRule with
  | fixed length evidence =>
    rw [hrule] at hbounded
    exact Outcome.ok ⟨Nat.le_refl _, trivial, hbounded⟩
  | stateMap cases defaultLength =>
    rw [hrule] at hbounded
    exact Outcome.ok ⟨Nat.le_refl _, trivial, hbounded _ (caseLength_mem ..)⟩
  | countedAnyState countOffset baseLength elementWidth =>
    rw [hrule] at hbounded
    obtain ⟨hbase, hwidth⟩ := hbounded
    refine (counted_outcome raw schema.className hbase hwidth _).mono ?_
    intro expected ⟨⟨count, hcount, hexpected⟩, hle⟩
    refine ⟨?_, ⟨count, hcount, hexpected⟩, hle⟩
    rw [hexpected]
    exact Nat.le_add_right _ _
  | countedState counted countOffset baseLength elementWidth cases defaultLength =>
    rw [hrule] at hbounded
    obtain ⟨⟨hbase, hwidth⟩, hcases⟩ := hbounded
    refine Outcome.ite (fun hstate => ?_) fun hstate => ?_
    · refine (counted_outcome raw schema.className hbase hwidth _).mono ?_
      intro expected ⟨⟨count, hcount, hexpected⟩, hle⟩
      refine ⟨?_, fun _ => ⟨count, hcount, hexpected⟩, hle⟩
      rw [ItemOperationLengthRule.least, if_pos hstate, hexpected]
      exact Nat.le_add_right _ _
    · refine Outcome.ok ⟨?_, fun hcounted => absurd hcounted hstate, hcases _ (caseLength_mem ..)⟩
      rw [ItemOperationLengthRule.least, if_neg hstate]

theorem readState_outcome (schema : ItemOperationSchema) (raw : Bytes) :
    Outcome Reported (fun _ => True) (schema.readState raw) := by
  unfold ItemOperationSchema.readState
  cases schema.stateField with
  | u8 offset => exact (readField_outcome raw _ _ _).mono fun _ _ => trivial
  | u32 offset => exact (readField_outcome raw _ _ _).mono fun _ _ => trivial

/-- What a validated body is. -/
structure Validated (schema : ItemOperationSchema) (raw : Bytes)
    (validated : ValidatedItemOperation) : Prop where
  schema_eq : validated.schema = schema
  objectId_eq : u32At raw 8 = some validated.objectId
  objectId_ne : validated.objectId ≠ u32Max
  least_le : schema.lengthRule.least validated.state ≤ raw.length
  counts : schema.lengthRule.Counts raw validated.state raw.length
  length_le : raw.length ≤ maxItemOperationRawLength

/-- Validation keeps what the table says, and no error of it is an overflow. -/
theorem validate_outcome (hschema : schema ∈ type12Schemas) (raw : Bytes) :
    Outcome Reported (Validated schema raw) (schema.validate raw) := by
  unfold ItemOperationSchema.validate
  refine (readField_outcome raw _ _ _).bind fun object hobject => ?_
  by_cases hmissing : object = u32Max
  · rw [if_pos hmissing]
    exact Outcome.error id
  · rw [if_neg hmissing]
    refine (readState_outcome schema raw).bind fun state _ => ?_
    refine (expectedLength_outcome hschema raw state).bind ?_
    intro (expected, evidence) ⟨hleast, hcounts, hle⟩
    by_cases hlength : raw.length = expected
    · dsimp only at hleast hcounts hle ⊢
      rw [if_neg (not_not.mpr hlength)]
      subst hlength
      exact Outcome.ok ⟨rfl, hobject, hmissing, hleast, hcounts, hle⟩
    · dsimp only
      rw [if_pos hlength]
      exact Outcome.error id

/-! ## Places that the body counts -/

/-- No dword stands behind a counted name. -/
def IdField.isPlain : IdField → Bool
  | behind .. => false
  | _ => true

def SemanticRow.isPlain (entry : SemanticRow) : Bool :=
  entry.source.isPlain && entry.target.isPlain && entry.token.isPlain

def Layout.isPlain : Layout → Bool
  | unknown => true
  | row entry => entry.isPlain
  | needs _ entry otherwise => entry.isPlain && otherwise.isPlain
  | ofKind _ _ entry => entry.isPlain
  | withEffect _ layout => layout.isPlain

theorem IdField.placed_plain {field : IdField} (h : field.isPlain = true) (raw : Bytes) :
    field.placed raw = [] := by
  cases field with
  | behind => cases h
  | absent => rfl
  | id => rfl
  | flagged => rfl
  | selected => rfl

theorem VariantField.last_of_placed {field : VariantField} {place : ByteField}
    (h : place ∈ field.placed raw) : place = ⟨raw.length - 1, 1⟩ := by
  cases field with
  | last => exact List.mem_singleton.mp h
  | absent => cases h
  | byte => cases h
  | narrow => cases h

theorem SemanticRow.last_of_placed {entry : SemanticRow} (h : entry.isPlain = true) {place : ByteField}
    (hmem : place ∈ entry.placed raw) : place = ⟨raw.length - 1, 1⟩ := by
  unfold isPlain at h
  rw [Bool.and_eq_true, Bool.and_eq_true] at h
  obtain ⟨⟨hsource, htarget⟩, htoken⟩ := h
  unfold placed at hmem
  rw [IdField.placed_plain hsource, IdField.placed_plain htarget, IdField.placed_plain htoken] at hmem
  exact VariantField.last_of_placed hmem

/-- A plain layout places no field but the last byte. -/
theorem Layout.last_of_placed {layout : Layout} (h : layout.isPlain = true) {place : ByteField}
    (hmem : place ∈ layout.placed raw) : place = ⟨raw.length - 1, 1⟩ := by
  induction layout with
  | unknown => cases hmem
  | row entry => exact SemanticRow.last_of_placed h hmem
  | needs ids entry otherwise =>
    obtain ⟨hentry, hother⟩ := (Bool.and_eq_true ..).mp h
    rcases List.mem_append.mp hmem with hmem | hmem
    · exact SemanticRow.last_of_placed hentry hmem
    · exact SemanticRow.last_of_placed hother hmem
  | ofKind kind override entry => exact SemanticRow.last_of_placed h hmem
  | withEffect effect layout ih => exact ih h hmem

theorem early_plain : ∀ schema ∈ type12Schemas, schema.className ≠ .gopCourse →
    ∀ state < firstLateState, (layoutOf schema.className state).isPlain = true := by
  decide +kernel

theorem isPlain_late (className : ClassName) (k : Nat) :
    (layoutOf className (firstLateState + k)).isPlain =
      (layoutOf className firstLateState).isPlain := by
  rw [firstLateState, Nat.add_comm]
  cases className <;> rfl

theorem late_plain : ∀ schema ∈ type12Schemas, schema.className ≠ .gopCourse →
    (layoutOf schema.className firstLateState).isPlain = true := by
  decide +kernel

theorem plain_of_ne_course (hschema : schema ∈ type12Schemas)
    (hclass : schema.className ≠ .gopCourse) (state : Nat) :
    (layoutOf schema.className state).isPlain = true := by
  by_cases hlate : state < firstLateState
  · exact early_plain schema hschema hclass state hlate
  · obtain ⟨k, rfl⟩ := Nat.exists_eq_add_of_le (Nat.le_of_not_lt hlate)
    rw [isPlain_late]
    exact late_plain schema hschema hclass

theorem course_rule : ∀ schema ∈ type12Schemas, schema.className = .gopCourse →
    schema.lengthRule = .countedAnyState 16 24 2 := by
  decide +kernel

/-- The counted dword of a course is the last one. -/
theorem course_token_place (hschema : schema ∈ type12Schemas)
    (hvalid : Validated schema raw validated) (hclass : schema.className = .gopCourse) :
    ∃ count, u32At raw 16 = some count ∧ raw.length = 24 + count * 2 ∧
      behindOffset raw 16 20 2 = some (raw.length - 4) := by
  have hcounts := hvalid.counts
  rw [course_rule schema hschema hclass] at hcounts
  obtain ⟨count, hcount, hlength⟩ := hcounts
  have hle := hvalid.length_le
  unfold maxItemOperationRawLength at hle
  refine ⟨count, hcount, hlength, ?_⟩
  have hmul : checkedMul count 2 = some (count * 2) := by
    unfold checkedMul usizeMax u64Max
    exact if_pos (by omega)
  have hadd : checkedAdd 20 (count * 2) = some (raw.length - 4) := by
    unfold checkedAdd usizeMax u64Max
    rw [if_pos (by omega), Option.some_inj]
    omega
  unfold behindOffset
  rw [hcount]
  show (checkedMul count 2).bind (checkedAdd 20) = _
  rw [hmul, Option.bind_some, hadd]

/-- **Every field that is read lies in the body**, those too that the body itself places. -/
theorem all_within (hschema : schema ∈ type12Schemas) (hvalid : Validated schema raw validated) :
    ∀ place ∈ (layoutOf schema.className validated.state).fields ++
      (layoutOf schema.className validated.state).placed raw, place.Within raw.length := by
  intro place hmem
  rcases List.mem_append.mp hmem with hmem | hmem
  · exact (fields_within hschema _ place hmem).mono hvalid.least_le
  · by_cases hclass : schema.className = .gopCourse
    · obtain ⟨count, hcount, hlength, hplace⟩ := course_token_place hschema hvalid hclass
      rw [hclass] at hmem
      have hcourse : (layoutOf .gopCourse validated.state).placed raw =
          ((behindOffset raw 16 20 2).toList.map (⟨·, 4⟩)) := List.append_nil _
      rw [hcourse, hplace] at hmem
      obtain rfl := List.mem_singleton.mp hmem
      show raw.length - 4 + 4 ≤ raw.length
      omega
    · rw [Layout.last_of_placed (plain_of_ne_course hschema hclass _) hmem]
      have hobject := (within_of_numberAt hvalid.objectId_eq).1
      show raw.length - 1 + 1 ≤ raw.length
      have : 8 + 4 ≤ raw.length := hobject
      omega

/-! ## Results -/

/-- **What a validated body means is in its own fields.** Each lies in the body, none else is
consulted, and an id that is missing is one that the body says is missing. -/
theorem semantics_of_own_fields (hschema : schema ∈ type12Schemas)
    (hvalid : schema.validate raw = .ok validated) :
    let layout := layoutOf schema.className validated.state
    let fields := layout.fields ++ layout.placed raw
    (∀ place ∈ fields, place.Within raw.length) ∧
      (∀ raw', Agree raw raw' fields → decodeItemOperationSemantics validated raw' =
        decodeItemOperationSemantics validated raw) ∧
      ((decodeItemOperationSemantics validated raw).evidence ≠ .unresolved → ∀ role,
        (decodeItemOperationSemantics validated raw).idOf role = none →
          layout.Missing raw role) := by
  have hbody := (validate_outcome hschema raw).of_ok hvalid
  have hwithin := all_within hschema hbody
  unfold decodeItemOperationSemantics
  rw [hbody.schema_eq]
  refine ⟨hwithin, fun raw' hagree => (Layout.decode_congr hagree).symm, ?_⟩
  intro hknown role hnone
  refine Layout.missing_of_decode (fun place hmem => ?_) hknown hnone
  exact hwithin place (List.mem_append_left _ hmem)

/-- A magnet from one kart to another. -/
def magnetBody : Bytes :=
  leBytes 4 0x10DE0382 ++ leBytes 4 0x1D0104A1 ++ leBytes 4 7 ++ leBytes 4 1 ++ leBytes 4 900 ++
    leBytes 4 3 ++ leBytes 4 5 ++ [0, 0]

theorem semantics_of_own_fields_magnet :
    ∃ validated,
      (mappedU32 .gopMagnet 0x10DE0382 0x1D0104A1 12 [writer [1] 30] 16).validate magnetBody =
        .ok validated ∧
      (decodeItemOperationSemantics validated magnetBody).sourceObjectId = some 3 ∧
      ∀ raw', Agree magnetBody raw' [⟨20, 4⟩, ⟨24, 4⟩, ⟨16, 4⟩] →
        decodeItemOperationSemantics validated raw' =
          decodeItemOperationSemantics validated magnetBody := by
  have hschema : mappedU32 .gopMagnet 0x10DE0382 0x1D0104A1 12 [writer [1] 30] 16 ∈
      type12Schemas := by
    decide +kernel
  refine ⟨⟨_, 7, 1, .staticWriterBranch⟩, rfl, rfl, ?_⟩
  intro raw' hagree
  exact (semantics_of_own_fields hschema rfl).2.1 raw' hagree

/-! ## Thunderbolts and courses -/

theorem thunderbolt_rule : ∀ schema ∈ type12Schemas, schema.className = .gopThunderbolt →
    schema.lengthRule = .countedState 1 25 30 4 [writer [2] 25, writer [3] 29] 16 := by
  decide +kernel

/-- A list that fits its body decodes to as many ids as are counted, each the dword at its
place. -/
theorem decode_objectIdList (list : ItemObjectIdList)
    (hfits : list.rawOffset + list.count * 4 ≤ raw.length) (hlength : raw.length ≤ usizeMax) :
    ∃ ids, list.decode raw = some ids ∧ ids.length = list.count ∧
      ∀ i < list.count, ids[i]? = u32At raw (list.rawOffset + i * 4) := by
  have hmul : checkedMul list.count 4 = some (list.count * 4) := by
    unfold checkedMul
    exact if_pos (by omega)
  have hadd : checkedAdd list.rawOffset (list.count * 4) =
      some (list.rawOffset + list.count * 4) := by
    unfold checkedAdd
    exact if_pos (by omega)
  have htake : ((raw.drop list.rawOffset).take (list.count * 4)).length = list.count * 4 := by
    rw [List.length_take, List.length_drop]
    omega
  refine ⟨((chunks 4 ((raw.drop list.rawOffset).take (list.count * 4))).map leValue), ?_, ?_, ?_⟩
  · unfold ItemObjectIdList.decode
    rw [hmul]
    show (checkedAdd list.rawOffset (list.count * 4)).bind _ = _
    rw [hadd]
    exact if_neg (Nat.not_lt.mpr hfits)
  · rw [List.length_map, length_chunks (by decide), htake]
    unfold divCeil
    rw [Nat.mul_mod_left, if_neg (Nat.lt_irrefl 0), Nat.mul_div_cancel _ (by decide)]
  · intro i hi
    have hplace : i * 4 < ((raw.drop list.rawOffset).take (list.count * 4)).length := by
      rw [htake]
      omega
    rw [List.getElem?_map, getElem?_chunks (by decide), if_pos hplace]
    have hwithin : ByteField.Within raw.length ⟨list.rawOffset + i * 4, 4⟩ :=
      show list.rawOffset + i * 4 + 4 ≤ raw.length by omega
    unfold u32At numberAt
    rw [bytesAt_within hwithin, List.drop_take, List.take_take, List.drop_drop, Nat.min_eq_left (by omega)]

/-- A thunderbolt's targets are all the counted ones, and its variant comes after them. -/
theorem thunderbolt_targets (hschema : schema ∈ type12Schemas)
    (hclass : schema.className = .gopThunderbolt) (hvalid : schema.validate raw = .ok validated)
    (hstate : validated.state = 1) :
    ∃ count ids, u32At raw 25 = some count ∧ raw.length = 30 + count * 4 ∧
      ((decodeItemOperationSemantics validated raw).targetObjectIds.bind (·.decode raw)) =
        some ids ∧ ids.length = count ∧ (∀ i < count, ids[i]? = u32At raw (29 + i * 4)) ∧
      (decodeItemOperationSemantics validated raw).variant = byte raw (29 + count * 4) := by
  have hbody := (validate_outcome hschema raw).of_ok hvalid
  have hcounts := hbody.counts
  rw [thunderbolt_rule schema hschema hclass] at hcounts
  obtain ⟨count, hcount, hlength⟩ := hcounts hstate
  have hle := hbody.length_le
  unfold maxItemOperationRawLength at hle
  have husize : raw.length ≤ usizeMax := by
    unfold usizeMax u64Max
    omega
  have hmul : checkedMul count 4 = some (count * 4) := by
    unfold checkedMul
    exact if_pos (by omega)
  have hadd : checkedAdd 29 (count * 4) = some (29 + count * 4) := by
    unfold checkedAdd
    exact if_pos (by omega)
  have hlist : objectIdList raw 25 29 = some ⟨29, count⟩ := by
    unfold objectIdList
    rw [hcount]
    show (checkedMul count 4).bind (fun byteLength => (checkedAdd 29 byteLength).bind _) = _
    rw [hmul, Option.bind_some, hadd]
    exact if_neg (by omega)
  have hdecode : decodeItemOperationSemantics validated raw =
      (thunderbolt 1).decode raw := by
    unfold decodeItemOperationSemantics
    rw [hbody.schema_eq, hclass, hstate]
    rfl
  obtain ⟨ids, hids, hidsLength, heach⟩ := decode_objectIdList ⟨29, count⟩
    (show 29 + count * 4 ≤ raw.length by omega) husize
  refine ⟨count, ids, hcount, hlength, ?_, hidsLength, heach, ?_⟩
  · rw [hdecode]
    show (objectIdList raw 25 29).bind _ = _
    rw [hlist]
    exact hids
  · rw [hdecode]
    show raw.getLast?.map UInt8.toNat = _
    rw [last_byte, show raw.length - 1 = 29 + count * 4 by omega]
    rfl

/-- A course's token is the last dword of its body. -/
theorem course_token (hschema : schema ∈ type12Schemas) (hclass : schema.className = .gopCourse)
    (hvalid : schema.validate raw = .ok validated) :
    (decodeItemOperationSemantics validated raw).transitionToken =
      u32At raw (raw.length - 4) := by
  have hbody := (validate_outcome hschema raw).of_ok hvalid
  obtain ⟨count, -, -, hplace⟩ := course_token_place hschema hbody hclass
  unfold decodeItemOperationSemantics
  rw [hbody.schema_eq, hclass]
  show (behindOffset raw 16 20 2).bind (u32At raw ·) = _
  rw [hplace]
  rfl

/-- **What a body counts.** No count is too large for the arithmetic of lengths, no body is longer
than the cap; a thunderbolt's targets are all the counted ones, and its variant comes after them;
a course's token is its last dword. -/
theorem counted_bodies (hschema : schema ∈ type12Schemas) (raw : Bytes) :
    (∀ className count, schema.validate raw ≠ .error (.countLengthOverflow className count)) ∧
      ∀ validated, schema.validate raw = .ok validated →
        raw.length ≤ maxItemOperationRawLength ∧
        (schema.className = .gopThunderbolt → validated.state = 1 →
          ∃ count ids, u32At raw 25 = some count ∧ raw.length = 30 + count * 4 ∧
            ((decodeItemOperationSemantics validated raw).targetObjectIds.bind (·.decode raw)) =
              some ids ∧ ids.length = count ∧
            (∀ i < count, ids[i]? = u32At raw (29 + i * 4)) ∧
            (decodeItemOperationSemantics validated raw).variant = byte raw (29 + count * 4)) ∧
        (schema.className = .gopCourse →
          (decodeItemOperationSemantics validated raw).transitionToken =
            u32At raw (raw.length - 4)) := by
  refine ⟨fun className count herror => ?_, fun validated hvalid => ⟨?_, ?_, ?_⟩⟩
  · exact (validate_outcome hschema raw).of_error herror trivial
  · exact ((validate_outcome hschema raw).of_ok hvalid).length_le
  · intro hclass hstate
    exact thunderbolt_targets hschema hclass hvalid hstate
  · intro hclass
    exact course_token hschema hclass hvalid

/-- A thunderbolt over two karts, then its variant. -/
def thunderboltBody : Bytes :=
  leBytes 4 0x297305B1 ++ leBytes 4 0x3B3106D0 ++ leBytes 4 7 ++ leBytes 4 1 ++ leBytes 4 900 ++
    [0] ++ leBytes 4 3 ++ leBytes 4 2 ++ leBytes 4 5 ++ leBytes 4 6 ++ [9]

theorem counted_bodies_thunderbolt :
    ∃ schema ∈ type12Schemas, ∃ validated, schema.validate thunderboltBody = .ok validated ∧
      ∃ count ids, u32At thunderboltBody 25 = some count ∧ thunderboltBody.length = 30 + count * 4 ∧
        ((decodeItemOperationSemantics validated thunderboltBody).targetObjectIds.bind
          (·.decode thunderboltBody)) = some ids ∧ ids.length = count ∧
        (∀ i < count, ids[i]? = u32At thunderboltBody (29 + i * 4)) ∧
        (decodeItemOperationSemantics validated thunderboltBody).variant =
          byte thunderboltBody (29 + count * 4) := by
  have hschema : ⟨.gopThunderbolt, 0x297305B1, 0x3B3106D0, .u32 12,
      .countedState 1 25 30 4 [writer [2] 25, writer [3] 29] 16⟩ ∈ type12Schemas := by
    decide +kernel
  refine ⟨_, hschema, ⟨_, 7, 1, .staticWriterBranch⟩, rfl, ?_⟩
  exact ((counted_bodies hschema thunderboltBody).2 _ rfl).2.1 rfl rfl

end P4475.GameSlot
