import P4475.GameSlot.ItemSemantics
import P4475.Lib.Outcome

/-!
# Item operations stay inside their bodies

The fields that a layout reads, and why an id may be missing from what it decodes.
-/

namespace P4475.GameSlot

open Lib
open MyRoom (checkedAdd checkedMul)

variable {raw raw' : Bytes} {schema : ItemOperationSchema} {validated : ValidatedItemOperation}

/-! ## What a layout reads -/

/-- The fields at fixed offsets. -/
def IdField.fields : IdField → List ByteField
  | absent => []
  | id offset => [⟨offset, 4⟩]
  | flagged flag offset => [⟨flag, 1⟩, ⟨offset, 4⟩]
  | selected selector _ offset => [⟨selector, 1⟩, ⟨offset, 4⟩]
  | behind count _ _ => [⟨count, 4⟩]

/-- The fields that the body itself places. -/
def IdField.placed (raw : Bytes) : IdField → List ByteField
  | behind count first width => (behindOffset raw count first width).toList.map (⟨·, 4⟩)
  | _ => []

def MeaningField.fields : MeaningField → List ByteField
  | always _ => []
  | flagged flag _ _ => [⟨flag, 1⟩]

def PhaseField.fields : PhaseField → List ByteField
  | absent | fixed _ => []
  | flagged flag _ _ => [⟨flag, 1⟩]
  | byVariant offset _ _ => [⟨offset, 1⟩]

def VariantField.fields : VariantField → List ByteField
  | absent | last => []
  | byte offset => [⟨offset, 1⟩]
  | narrow offset => [⟨offset, 4⟩]

/-- The last byte. -/
def VariantField.placed (raw : Bytes) : VariantField → List ByteField
  | last => [⟨raw.length - 1, 1⟩]
  | _ => []

def EffectField.fields : EffectField → List ByteField
  | item _ => []
  | word offset => [⟨offset, 2⟩]
  | byVariant offset _ => [⟨offset, 1⟩]

def SemanticRow.fields (entry : SemanticRow) : List ByteField :=
  entry.meaning.fields ++ entry.phase.fields ++ entry.source.fields ++ entry.target.fields ++
    entry.token.fields ++ entry.variant.fields ++ entry.targets.toList.map fun list => ⟨list.1, 4⟩

def SemanticRow.placed (entry : SemanticRow) (raw : Bytes) : List ByteField :=
  entry.source.placed raw ++ entry.target.placed raw ++ entry.token.placed raw ++
    entry.variant.placed raw

def Layout.fields : Layout → List ByteField
  | unknown => []
  | row entry => entry.fields
  | needs ids entry otherwise => ids.map (⟨·, 4⟩) ++ entry.fields ++ otherwise.fields
  | ofKind kind override entry => ⟨kind, 4⟩ :: (override.toList.map (⟨·, 2⟩) ++ entry.fields)
  | withEffect effect layout => effect.fields ++ layout.fields

def Layout.placed (raw : Bytes) : Layout → List ByteField
  | unknown => []
  | row entry => entry.placed raw
  | needs _ entry otherwise => entry.placed raw ++ otherwise.placed raw
  | ofKind _ _ entry => entry.placed raw
  | withEffect _ layout => layout.placed raw

/-- Two bodies of one length with the same bytes in these fields. -/
structure Agree (raw raw' : Bytes) (fields : List ByteField) : Prop where
  length : raw.length = raw'.length
  bytes : ∀ field ∈ fields, bytesAt raw field = bytesAt raw' field

section

variable {fields more : List ByteField}

theorem agree_append : Agree raw raw' (fields ++ more) ↔
    Agree raw raw' fields ∧ Agree raw raw' more := by
  constructor
  · intro h
    exact ⟨⟨h.length, fun field hmem => h.bytes field (List.mem_append_left _ hmem)⟩,
      ⟨h.length, fun field hmem => h.bytes field (List.mem_append_right _ hmem)⟩⟩
  · intro ⟨h, hmore⟩
    refine ⟨h.length, fun field hmem => ?_⟩
    rcases List.mem_append.mp hmem with hmem | hmem
    · exact h.bytes field hmem
    · exact hmore.bytes field hmem

theorem agree_cons {field : ByteField} : Agree raw raw' (field :: more) ↔
    Agree raw raw' [field] ∧ Agree raw raw' more := @agree_append raw raw' [field] more

theorem Agree.number {field : ByteField} (h : Agree raw raw' [field]) :
    numberAt raw field = numberAt raw' field :=
  numberAt_congr (h.bytes field List.mem_cons_self)

end

/-! ## Nothing else is read -/

theorem Agree.objectId {offset : Nat} (h : Agree raw raw' [⟨offset, 4⟩]) :
    objectId raw offset = objectId raw' offset := congrArg (Option.filter _) h.number

theorem Agree.hasFlag {offset : Nat} (h : Agree raw raw' [⟨offset, 1⟩]) :
    hasFlag raw offset = hasFlag raw' offset := congrArg (Option.any _) h.number

theorem IdField.read_congr {field : IdField}
    (h : Agree raw raw' (field.fields ++ field.placed raw)) : field.read raw = field.read raw' := by
  cases field with
  | absent => rfl
  | id offset => exact (agree_append.mp h).1.objectId
  | flagged flag offset =>
    obtain ⟨hflag, hid⟩ := agree_cons.mp (agree_append.mp h).1
    show (if hasFlag raw flag then GameSlot.objectId raw offset else none) = _
    rw [hflag.hasFlag, hid.objectId]
    rfl
  | selected selector value offset =>
    obtain ⟨hselector, hid⟩ := agree_cons.mp (agree_append.mp h).1
    show (if numberAt raw ⟨selector, 1⟩ = some value then GameSlot.objectId raw offset else none) = _
    rw [hselector.number, hid.objectId]
    rfl
  | behind count first width =>
    obtain ⟨hcount, hplaced⟩ := agree_append.mp h
    have hoffset : behindOffset raw count first width = behindOffset raw' count first width := by
      unfold behindOffset u32At
      rw [hcount.number]
    show (behindOffset raw count first width).bind (u32At raw ·) =
      (behindOffset raw' count first width).bind (u32At raw' ·)
    rw [← hoffset]
    cases ho : behindOffset raw count first width with
    | none => rfl
    | some offset =>
      have hdword : Agree raw raw' ((behindOffset raw count first width).toList.map (⟨·, 4⟩)) :=
        hplaced
      rw [ho] at hdword
      exact hdword.number

theorem MeaningField.read_congr {field : MeaningField} (h : Agree raw raw' field.fields) :
    field.read raw = field.read raw' := by
  cases field with
  | always meaning => rfl
  | flagged flag set clear => exact congrArg (fun set' : Bool => if set' then set else clear) h.hasFlag

theorem PhaseField.read_congr {field : PhaseField} (h : Agree raw raw' field.fields) :
    field.read raw = field.read raw' := by
  cases field with
  | absent => rfl
  | fixed phase => rfl
  | flagged flag set clear => exact congrArg (fun set' : Bool => if set' then set else clear) h.hasFlag
  | byVariant offset onZero other => exact congrArg (Option.map _) h.number

theorem last_byte (raw : Bytes) :
    raw.getLast?.map UInt8.toNat = numberAt raw ⟨raw.length - 1, 1⟩ := by
  rw [numberAt_byte, List.getLast?_eq_getElem?]

theorem VariantField.read_congr {field : VariantField}
    (h : Agree raw raw' (field.fields ++ field.placed raw)) : field.read raw = field.read raw' := by
  cases field with
  | absent => rfl
  | byte offset => exact (agree_append.mp h).1.number
  | narrow offset => exact congrArg (Option.filter _) (agree_append.mp h).1.number
  | last =>
    obtain ⟨-, hlast⟩ := agree_append.mp h
    show raw.getLast?.map UInt8.toNat = raw'.getLast?.map UInt8.toNat
    rw [last_byte, last_byte, ← h.length]
    exact hlast.number

theorem EffectField.read_congr {effect : EffectField} (h : Agree raw raw' effect.fields) :
    effect.read raw = effect.read raw' := by
  cases effect with
  | item itemId => rfl
  | word offset => exact h.number
  | byVariant offset items => exact congrArg (Option.bind · _) h.number

theorem objectIdList_congr {count first : Nat} (h : Agree raw raw' [⟨count, 4⟩]) :
    objectIdList raw count first = objectIdList raw' count first := by
  unfold objectIdList u32At
  rw [h.number, h.length]

theorem SemanticRow.decode_congr {entry : SemanticRow}
    (h : Agree raw raw' (entry.fields ++ entry.placed raw)) : entry.decode raw = entry.decode raw' := by
  unfold fields placed at h
  simp only [agree_append] at h
  obtain ⟨⟨⟨⟨⟨⟨⟨hmeaning, hphase⟩, hsource⟩, htarget⟩, htoken⟩, hvariant⟩, htargets⟩,
    ⟨⟨hsource', htarget'⟩, htoken'⟩, hvariant'⟩ := h
  unfold decode
  rw [MeaningField.read_congr hmeaning, PhaseField.read_congr hphase,
    IdField.read_congr (agree_append.mpr ⟨hsource, hsource'⟩),
    IdField.read_congr (agree_append.mpr ⟨htarget, htarget'⟩),
    IdField.read_congr (agree_append.mpr ⟨htoken, htoken'⟩),
    VariantField.read_congr (agree_append.mpr ⟨hvariant, hvariant'⟩)]
  cases hlist : entry.targets with
  | none => rfl
  | some list =>
    rw [hlist] at htargets
    dsimp only [Option.bind_some]
    rw [objectIdList_congr htargets]

theorem all_present_congr {ids : List Nat} (h : Agree raw raw' (ids.map (⟨·, 4⟩))) :
    (ids.all fun offset => (objectId raw offset).isSome) =
      ids.all fun offset => (objectId raw' offset).isSome := by
  induction ids with
  | nil => rfl
  | cons offset ids ih =>
    obtain ⟨hid, hrest⟩ := agree_cons.mp h
    rw [List.all_cons, List.all_cons, hid.objectId, ih hrest]

theorem shieldItem_congr {kind : Nat} {override : Option Nat}
    (hkind : Agree raw raw' [⟨kind, 4⟩]) (hoverride : Agree raw raw' (override.toList.map (⟨·, 2⟩))) :
    shieldItem raw kind override = shieldItem raw' kind override := by
  unfold shieldItem u32At
  rw [hkind.number]
  cases override with
  | none => rfl
  | some offset =>
    have hword : u16At raw offset = u16At raw' offset := hoverride.number
    simp only [Option.any_some, hword]

/-- **What a layout decodes depends on its fields alone.** -/
theorem Layout.decode_congr {layout : Layout}
    (h : Agree raw raw' (layout.fields ++ layout.placed raw)) :
    layout.decode raw = layout.decode raw' := by
  induction layout with
  | unknown => rfl
  | row entry => exact SemanticRow.decode_congr h
  | needs ids entry otherwise =>
    unfold fields placed at h
    simp only [agree_append] at h
    obtain ⟨⟨⟨hids, hentry⟩, hother⟩, hentry', hother'⟩ := h
    unfold decode
    rw [all_present_congr hids, SemanticRow.decode_congr (agree_append.mpr ⟨hentry, hentry'⟩),
      SemanticRow.decode_congr (agree_append.mpr ⟨hother, hother'⟩)]
  | ofKind kind override entry =>
    obtain ⟨hfields, hentry'⟩ := agree_append.mp h
    obtain ⟨hkind, hrest⟩ := agree_cons.mp hfields
    obtain ⟨hoverride, hentry⟩ := agree_append.mp hrest
    unfold decode
    rw [shieldItem_congr hkind hoverride,
      SemanticRow.decode_congr (agree_append.mpr ⟨hentry, hentry'⟩)]
  | withEffect effect layout ih =>
    obtain ⟨hfields, hplaced⟩ := agree_append.mp h
    obtain ⟨heffect, hlayout⟩ := agree_append.mp hfields
    unfold decode
    rw [EffectField.read_congr heffect, ih (agree_append.mpr ⟨hlayout, hplaced⟩)]

/-! ## Why an id is missing -/

inductive IdRole
  | source
  | target
  | token

def SemanticRow.idField (entry : SemanticRow) : IdRole → IdField
  | .source => entry.source
  | .target => entry.target
  | .token => entry.token

def ItemOperationSemantics.idOf (semantics : ItemOperationSemantics) : IdRole → Option Nat
  | .source => semantics.sourceObjectId
  | .target => semantics.targetObjectId
  | .token => semantics.transitionToken

/-- The body says that the id is missing. -/
def IdField.Missing (raw : Bytes) : IdField → Prop
  | absent => True
  | id offset => u32At raw offset = some u32Max
  | flagged flag offset => byte raw flag = some 0 ∨ u32At raw offset = some u32Max
  | selected selector value offset =>
    (∃ other, byte raw selector = some other ∧ other ≠ value) ∨ u32At raw offset = some u32Max
  | behind count first width => (behindOffset raw count first width).bind (u32At raw ·) = none

def Layout.Missing (raw : Bytes) (role : IdRole) : Layout → Prop
  | unknown => True
  | row entry => (entry.idField role).Missing raw
  | needs ids entry _ =>
    (∃ offset ∈ ids, u32At raw offset = some u32Max) ∨ (entry.idField role).Missing raw
  | ofKind _ _ entry => (entry.idField role).Missing raw
  | withEffect _ layout => layout.Missing raw role

/-- An id that is inside the body is missing only if all its bits are set. -/
theorem missing_objectId {offset : Nat} (hwithin : ByteField.Within raw.length ⟨offset, 4⟩)
    (h : objectId raw offset = none) : u32At raw offset = some u32Max := by
  obtain ⟨value, hvalue⟩ := numberAt_within hwithin
  unfold objectId at h
  have hu32 : u32At raw offset = some value := hvalue
  rw [hu32, Option.filter_eq_none_iff] at h
  rw [hu32, Option.some_inj]
  simpa using h value rfl

theorem clear_of_hasFlag {flag : Nat} (hwithin : ByteField.Within raw.length ⟨flag, 1⟩)
    (h : hasFlag raw flag = false) : byte raw flag = some 0 := by
  obtain ⟨value, hvalue⟩ := numberAt_within hwithin
  have hbyte : byte raw flag = some value := hvalue
  unfold hasFlag at h
  rw [hbyte] at h ⊢
  simpa using h

theorem IdField.missing_of_read {field : IdField}
    (hwithin : ∀ place ∈ field.fields, place.Within raw.length) (h : field.read raw = none) :
    field.Missing raw := by
  cases field with
  | absent => exact trivial
  | id offset => exact missing_objectId (hwithin _ List.mem_cons_self) h
  | flagged flag offset =>
    obtain ⟨hflag, hid⟩ := List.forall_mem_cons.mp hwithin
    have hread : (if hasFlag raw flag then GameSlot.objectId raw offset else none) = none := h
    cases hset : hasFlag raw flag with
    | false => exact .inl (clear_of_hasFlag hflag hset)
    | true =>
      rw [hset, if_pos rfl] at hread
      exact .inr (missing_objectId (hid _ List.mem_cons_self) hread)
  | selected selector value offset =>
    obtain ⟨hselector, hid⟩ := List.forall_mem_cons.mp hwithin
    have hread : (if byte raw selector = some value then GameSlot.objectId raw offset else none) =
      none := h
    obtain ⟨other, hother⟩ := numberAt_within hselector
    have hbyte : byte raw selector = some other := hother
    by_cases hsame : other = value
    · rw [hbyte, hsame, if_pos rfl] at hread
      exact .inr (missing_objectId (hid _ List.mem_cons_self) hread)
    · exact .inl ⟨other, hbyte, hsame⟩
  | behind count first width => exact h

theorem SemanticRow.mem_fields {entry : SemanticRow} {role : IdRole} {place : ByteField}
    (h : place ∈ (entry.idField role).fields) : place ∈ entry.fields := by
  unfold fields
  simp only [List.mem_append]
  cases role with
  | source => exact .inl (.inl (.inl (.inl (.inr h))))
  | target => exact .inl (.inl (.inl (.inr h)))
  | token => exact .inl (.inl (.inr h))

theorem SemanticRow.idOf_decode (entry : SemanticRow) (raw : Bytes) (role : IdRole) :
    (entry.decode raw).idOf role = (entry.idField role).read raw := by
  cases role <;> rfl

/-- **No id is missing by truncation.** -/
theorem Layout.missing_of_decode {layout : Layout} {role : IdRole}
    (hwithin : ∀ place ∈ layout.fields, place.Within raw.length)
    (hknown : (layout.decode raw).evidence ≠ .unresolved)
    (h : (layout.decode raw).idOf role = none) : layout.Missing raw role := by
  induction layout with
  | unknown => exact trivial
  | row entry =>
    refine IdField.missing_of_read (fun place hmem => hwithin place (SemanticRow.mem_fields hmem)) ?_
    rw [← SemanticRow.idOf_decode]
    exact h
  | needs ids entry otherwise =>
    unfold fields at hwithin
    simp only [List.mem_append] at hwithin
    by_cases hall : (ids.all fun offset => (objectId raw offset).isSome) = true
    · refine .inr (IdField.missing_of_read (fun place hmem =>
        hwithin place (.inl (.inr (SemanticRow.mem_fields hmem)))) ?_)
      rw [← SemanticRow.idOf_decode]
      rw [decode, if_pos hall] at h
      exact h
    · rw [List.all_eq_true] at hall
      push Not at hall
      obtain ⟨offset, hmem, hnone⟩ := hall
      refine .inl ⟨offset, hmem, missing_objectId ?_ (by simpa using hnone)⟩
      exact hwithin _ (.inl (.inl (List.mem_map_of_mem hmem)))
  | ofKind kind override entry =>
    rw [decode] at h hknown
    cases hitem : shieldItem raw kind override with
    | none =>
      rw [hitem] at hknown
      exact absurd rfl hknown
    | some item =>
      rw [hitem] at h
      refine IdField.missing_of_read (fun place hmem => hwithin place ?_) ?_
      · exact List.mem_cons_of_mem _ (List.mem_append_right _ (SemanticRow.mem_fields hmem))
      · rw [← SemanticRow.idOf_decode]
        cases role <;> exact h
  | withEffect effect layout ih =>
    refine ih (fun place hmem => hwithin place (List.mem_append_right _ hmem)) hknown ?_
    cases role <;> exact h

end P4475.GameSlot
