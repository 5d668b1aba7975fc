import P4475.Lib.Bytes

/-!
# Fields of a body

A body of bytes is read at given places. A read inside the body has a value, which the bytes of its
field determine; a read that does not lie inside has none.
-/

namespace P4475.Lib

/-- A place in a body. -/
structure ByteField where
  offset : Nat
  width : Nat
  deriving DecidableEq

/-- The field lies in a body of this length. -/
def ByteField.Within (length : Nat) (field : ByteField) : Prop := field.offset + field.width ≤ length

instance (length : Nat) (field : ByteField) : Decidable (field.Within length) :=
  inferInstanceAs (Decidable (_ ≤ _))

theorem ByteField.Within.mono {length length' : Nat} {field : ByteField} (h : field.Within length)
    (hle : length ≤ length') : field.Within length' := Nat.le_trans h hle

variable {body body' : List UInt8} {field : ByteField}

/-- `body.get(offset..offset + width)`. -/
def bytesAt (body : List UInt8) (field : ByteField) : Option (List UInt8) :=
  if field.offset + field.width ≤ body.length then
    some ((body.drop field.offset).take field.width)
  else none

/-- The little-endian number of a field. -/
def numberAt (body : List UInt8) (field : ByteField) : Option Nat := (bytesAt body field).map leValue

theorem bytesAt_within (h : field.Within body.length) :
    bytesAt body field = some ((body.drop field.offset).take field.width) := if_pos h

theorem length_bytesAt {bytes : List UInt8} (h : bytesAt body field = some bytes) :
    field.Within body.length ∧ bytes.length = field.width := by
  unfold bytesAt at h
  split at h
  next hwithin =>
    cases h
    refine ⟨hwithin, ?_⟩
    rw [List.length_take, List.length_drop]
    omega
  next => cases h

/-- A read inside the body has a value. -/
theorem numberAt_within (h : field.Within body.length) : ∃ value, numberAt body field = some value :=
  ⟨_, congrArg (Option.map leValue) (bytesAt_within h)⟩

theorem within_of_numberAt {value : Nat} (h : numberAt body field = some value) :
    field.Within body.length ∧ value < 256 ^ field.width := by
  unfold numberAt at h
  obtain ⟨bytes, hbytes, rfl⟩ := Option.map_eq_some_iff.mp h
  obtain ⟨hwithin, hlength⟩ := length_bytesAt hbytes
  refine ⟨hwithin, ?_⟩
  rw [← hlength]
  exact leValue_lt bytes

/-- The bytes of the field determine the number. -/
theorem numberAt_congr (h : bytesAt body field = bytesAt body' field) :
    numberAt body field = numberAt body' field := congrArg (Option.map leValue) h

/-- A field of one byte is that byte. -/
theorem numberAt_byte (body : List UInt8) (offset : Nat) :
    numberAt body ⟨offset, 1⟩ = body[offset]?.map UInt8.toNat := by
  unfold numberAt bytesAt
  by_cases h : offset + 1 ≤ body.length
  · rw [if_pos h, List.take_one, List.head?_drop, List.getElem?_eq_getElem h]
    simp [leValue]
  · rw [if_neg h, List.getElem?_eq_none (Nat.le_of_not_lt h)]
    rfl

/-- A field of a suffix is a field of the whole. -/
theorem bytesAt_drop {start : Nat} (hstart : start ≤ body.length) :
    bytesAt (body.drop start) field = bytesAt body ⟨start + field.offset, field.width⟩ := by
  unfold bytesAt
  rw [List.length_drop, List.drop_drop]
  by_cases h : field.offset + field.width ≤ body.length - start
  · rw [if_pos h, if_pos (show start + field.offset + field.width ≤ body.length by omega)]
  · rw [if_neg h, if_neg (show ¬ start + field.offset + field.width ≤ body.length by omega)]

/-- Another piece of the same length changes no field outside it. -/
theorem bytesAt_replace {front piece piece' rest : List UInt8}
    (hlength : piece.length = piece'.length)
    (houtside : field.offset + field.width ≤ front.length ∨
      front.length + piece.length ≤ field.offset) :
    bytesAt (front ++ piece ++ rest) field = bytesAt (front ++ piece' ++ rest) field := by
  have htotal : (front ++ piece ++ rest).length = (front ++ piece' ++ rest).length := by
    simp only [List.length_append, hlength]
  unfold bytesAt
  rw [htotal]
  congr 2
  rcases houtside with hbefore | hafter
  · -- The field lies in the front.
    have hpart (more : List UInt8) : ((front ++ more).drop field.offset).take field.width =
        (front.drop field.offset).take field.width := by
      rw [List.drop_append_of_le_length (by omega), List.take_append_of_le_length]
      rw [List.length_drop]
      omega
    rw [List.append_assoc, List.append_assoc, hpart, hpart]
  · -- The field lies in the rest.
    have hpart {whole : List UInt8} (hwhole : whole.length = front.length + piece.length) :
        (whole ++ rest).drop field.offset =
          rest.drop (field.offset - (front.length + piece.length)) := by
      rw [List.drop_append, List.drop_of_length_le (by omega), List.nil_append, hwhole]
    rw [hpart (List.length_append), hpart (by rw [List.length_append, hlength])]

theorem numberAt_append_right {front rest : List UInt8} {offset width : Nat}
    (h : front.length ≤ offset) :
    numberAt (front ++ rest) ⟨offset, width⟩ = numberAt rest ⟨offset - front.length, width⟩ := by
  have hdrop : bytesAt ((front ++ rest).drop front.length) ⟨offset - front.length, width⟩ =
      bytesAt (front ++ rest) ⟨front.length + (offset - front.length), width⟩ := by
    refine bytesAt_drop ?_
    rw [List.length_append]
    omega
  rw [List.drop_left, Nat.add_sub_cancel' h] at hdrop
  unfold numberAt
  rw [hdrop]

/-- A number reads back from where it was written. -/
theorem numberAt_leBytes_append (rest : List UInt8) (width value : Nat) :
    numberAt (leBytes width value ++ rest) ⟨0, width⟩ = some (value % 256 ^ width) := by
  have hwithin : ByteField.Within (leBytes width value ++ rest).length ⟨0, width⟩ := by
    show 0 + width ≤ _
    rw [List.length_append, length_leBytes]
    omega
  unfold numberAt
  rw [bytesAt_within hwithin, Option.map_some, List.drop_zero,
    List.take_left' (length_leBytes width value), leValue_leBytes]

end P4475.Lib
