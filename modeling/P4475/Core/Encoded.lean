import P4475.Core.Crypto
import P4475.Core.Single

/-!
# Encoded scalars

`p4475-core/src/encoded.rs`: a substitution of bytes in which a byte is shifted by its
position before it is looked up. The writer takes the shifted byte modulo 255 and the reader
undoes the shift modulo 256, as the original program does, so that a byte survives only when
the shift does not reach 255.
-/

namespace P4475

open Lib Crypto

/-- `MAX_ENCODED_SCALAR_BYTES`. -/
def maxEncodedScalarBytes : Nat := 255

inductive EncodedScalarError
  | tooLong (length : Nat)
  deriving DecidableEq

namespace Encoded

/-- `DECODE_TABLE`. -/
def decodeTable : List UInt8 :=
  [79, 200, 44, 182, 173, 43, 108, 229, 46, 65, 174, 137, 154, 120, 126, 207, 91, 124, 189,
   116, 251, 220, 5, 239, 42, 167, 225, 205, 215, 90, 41, 45, 13, 4, 245, 231, 180, 133, 208,
   59, 178, 20, 110, 150, 219, 99, 203, 243, 141, 160, 81, 195, 31, 78, 228, 57, 181, 121, 76,
   170, 21, 143, 240, 37, 222, 9, 152, 138, 113, 56, 254, 27, 100, 75, 62, 52, 107, 69, 25,
   196, 123, 30, 193, 39, 19, 197, 36, 11, 128, 80, 230, 29, 32, 145, 58, 209, 176, 50, 129,
   244, 147, 102, 112, 151, 97, 70, 40, 168, 96, 83, 190, 86, 2, 51, 177, 217, 172, 105, 118,
   38, 210, 206, 201, 183, 1, 248, 74, 17, 246, 139, 22, 164, 55, 185, 67, 237, 159, 3, 184,
   212, 235, 156, 117, 162, 142, 214, 33, 127, 48, 213, 136, 211, 26, 194, 199, 169, 161, 134,
   89, 227, 140, 87, 10, 144, 77, 247, 187, 125, 82, 241, 23, 103, 16, 95, 192, 85, 6, 68, 149,
   66, 165, 8, 253, 61, 157, 224, 0, 166, 92, 7, 179, 255, 73, 49, 242, 236, 54, 153, 104, 202,
   115, 64, 111, 28, 233, 53, 72, 232, 171, 252, 135, 101, 18, 146, 98, 71, 221, 148, 24, 234,
   198, 114, 163, 109, 106, 249, 84, 186, 238, 94, 223, 155, 132, 175, 60, 88, 226, 35, 122,
   15, 34, 63, 204, 158, 218, 14, 130, 131, 191, 188, 93, 47, 216, 119, 250, 12]

/-- `invert_decode_table`: every encoded byte is stored under its plain byte. -/
def invertDecodeTable : List UInt8 :=
  (List.range 256).foldl (fun inverse encoded =>
    inverse.set (decodeTable.getD encoded 0).toNat (UInt8.ofNat encoded)) (List.replicate 256 0)

/-- `ENCODE_TABLE`. -/
def encodeTable : List UInt8 := invertDecodeTable

/-- `ENCODE_TABLE` at an index that is in it. -/
def encodeAt (key : Nat) : UInt8 := encodeTable.getD key 0

/-- `DECODE_TABLE` at a byte. -/
def decodeAt (encoded : UInt8) : UInt8 := decodeTable.getD encoded.toNat 0

/-- `encode_array`, and what `encode_bytes` does to each byte. -/
def encodeArray (plain : List UInt8) : List UInt8 :=
  plain.mapIdx fun position value => encodeAt ((position + value.toNat) % 255)

/-- `decode_array`, and what `decode_bytes` does to each byte. Every position is a `u8`. -/
def decodeArray (encoded : List UInt8) : List UInt8 :=
  encoded.mapIdx fun position value => decodeAt value - UInt8.ofNat position

/-- `validate_length`. -/
def validateLength (length : Nat) : Except EncodedScalarError Unit :=
  if maxEncodedScalarBytes < length then throw (.tooLong length) else pure ()

/-- `encode_bytes`. -/
def encodeBytes (plain : List UInt8) : Except EncodedScalarError (List UInt8) := do
  validateLength plain.length
  return encodeArray plain

/-- `decode_bytes`. -/
def decodeBytes (encoded : List UInt8) : Except EncodedScalarError (List UInt8) := do
  validateLength encoded.length
  return decodeArray encoded

/-- `encode_u32`. -/
def encodeU32 (value : UInt32) : List UInt8 := encodeArray (wordBytes value)

/-- `decode_u32`. -/
def decodeU32 (value : List UInt8) : UInt32 := readWord (decodeArray value)

/-- `encode_i32`. -/
def encodeI32 (value : Int32) : List UInt8 := encodeArray (wordBytes value.toUInt32)

/-- `decode_i32`. -/
def decodeI32 (value : List UInt8) : Int32 := (readWord (decodeArray value)).toInt32

/-- `encode_f32`. -/
def encodeF32 (value : Single) : List UInt8 := encodeArray (wordBytes value.bits)

/-- `decode_f32`. -/
def decodeF32 (value : List UInt8) : Single := ⟨readWord (decodeArray value)⟩

/-! ## The tables -/

theorem length_decodeTable : decodeTable.length = 256 := by decide +kernel

/-- A set of numbers as the bits of one. -/
theorem testBit_mask (values : List Nat) (mask bit : Nat) :
    (values.foldl (fun mask value => mask ||| 2 ^ value) mask).testBit bit = true ↔
      mask.testBit bit = true ∨ bit ∈ values := by
  induction values generalizing mask with
  | nil => rw [List.foldl_nil, or_iff_left List.not_mem_nil]
  | cons value rest ih =>
    rw [List.foldl_cons, ih, Nat.testBit_or, Nat.testBit_two_pow, List.mem_cons, Bool.or_eq_true,
      decide_eq_true_eq, or_assoc, @eq_comm _ value bit]

/-- Every byte is in the decoding table. -/
theorem mem_decodeTable {plain : Nat} (h : plain < 256) :
    plain ∈ decodeTable.map UInt8.toNat := by
  have hmask : (decodeTable.map UInt8.toNat).foldl (fun mask value => mask ||| 2 ^ value) 0 =
      2 ^ 256 - 1 := by decide +kernel
  have hbit := testBit_mask (decodeTable.map UInt8.toNat) 0 plain
  rw [hmask, Nat.testBit_two_pow_sub_one, Nat.zero_testBit, decide_eq_true_eq] at hbit
  exact (hbit.mp h).resolve_left Bool.false_ne_true

/-- No byte is in it twice. -/
theorem nodup_decodeTable : (decodeTable.map UInt8.toNat).Nodup := by
  have hsub : List.range 256 ⊆ decodeTable.map UInt8.toNat := fun plain hplain =>
    mem_decodeTable (List.mem_range.mp hplain)
  have hlen : (decodeTable.map UInt8.toNat).length ≤ (List.range 256).length := by
    rw [List.length_map, length_decodeTable, List.length_range]
  exact ((List.subperm_of_subset List.nodup_range hsub).perm_of_length_le hlen).nodup
    List.nodup_range

theorem length_values : (decodeTable.map UInt8.toNat).length = 256 := by
  rw [List.length_map, length_decodeTable]

theorem getElem?_values {index : Nat} (h : index < 256) :
    (decodeTable.map UInt8.toNat)[index]? = some (decodeTable.getD index 0).toNat := by
  rw [List.getElem?_map, List.getD_eq_getElem?_getD,
    List.getElem?_eq_getElem (length_decodeTable ▸ h), Option.getD_some, Option.map_some]

/-- What the loop of `invert_decode_table` has stored after its first turns. -/
theorem inverse_stored (count : Nat) (h : count ≤ 256) (encoded : Nat) (hencoded : encoded < count) :
    ((List.range count).foldl (fun inverse encoded =>
      inverse.set (decodeTable.getD encoded 0).toNat (UInt8.ofNat encoded))
        (List.replicate 256 0))[(decodeTable.getD encoded 0).toNat]? =
      some (UInt8.ofNat encoded) := by
  have hlen : ∀ count, ((List.range count).foldl (fun inverse encoded =>
      inverse.set (decodeTable.getD encoded 0).toNat (UInt8.ofNat encoded))
        (List.replicate 256 (0 : UInt8))).length = 256 := by
    intro count
    induction count with
    | zero => exact List.length_replicate
    | succ count ih => rw [List.range_succ, List.foldl_concat, List.length_set, ih]
  induction count with
  | zero => exact absurd hencoded (Nat.not_lt_zero encoded)
  | succ count ih =>
    rw [List.range_succ, List.foldl_concat, List.getElem?_set, hlen]
    by_cases hlast : encoded = count
    · rw [hlast, if_pos rfl, if_pos (UInt8.toNat_lt _)]
    · -- no two encoded bytes have one plain byte
      have hother : ¬ (decodeTable.getD count 0).toNat = (decodeTable.getD encoded 0).toNat := by
        intro hsame
        have hvalues := getElem?_values (by omega : count < 256)
        rw [hsame, ← getElem?_values (by omega)] at hvalues
        have hlt : encoded < (decodeTable.map UInt8.toNat).length := by
          rw [length_values]
          omega
        exact hlast ((List.getElem?_inj hlt nodup_decodeTable).mp hvalues.symm)
      rw [if_neg hother]
      exact ih (by omega) (by omega)

/-- No byte is decoded from two. -/
theorem encodeAt_decodeAt (encoded : UInt8) : encodeAt (decodeAt encoded).toNat = encoded := by
  have hstored := inverse_stored 256 le_rfl encoded.toNat encoded.toNat_lt
  rw [UInt8.ofNat_toNat] at hstored
  exact (List.getD_eq_getElem?_getD ..).trans (congrArg (Option.getD · 0) hstored)

/-- Every plain byte has its place in the decoding table. -/
theorem decodeAt_encodeAt {key : Nat} (h : key < 256) : (decodeAt (encodeAt key)).toNat = key := by
  obtain ⟨encoded, hplain⟩ := List.getElem?_of_mem (mem_decodeTable h)
  have hlen : encoded < 256 := by
    obtain ⟨hlt, -⟩ := List.getElem?_eq_some_iff.mp hplain
    rwa [length_values] at hlt
  have hdecoded : (decodeAt (UInt8.ofNat encoded)).toNat = key := by
    unfold decodeAt
    rw [UInt8.toNat_ofNat', Nat.mod_eq_of_lt (by omega)]
    exact Option.some.inj ((getElem?_values hlen).symm.trans hplain)
  rw [← hdecoded, encodeAt_decodeAt]

theorem encodeAt_inj {key key' : Nat} (h : key < 256) (h' : key' < 256) :
    encodeAt key = encodeAt key' ↔ key = key' := by
  constructor
  · intro heq
    rw [← decodeAt_encodeAt h, heq, decodeAt_encodeAt h']
  · intro heq
    rw [heq]

/-! ## One byte -/

/-- What a byte comes back as: the shift is undone modulo 256 after a reduction modulo 255. -/
theorem decoded_byte {position : Nat} (h : position < 255) (value : UInt8) :
    decodeAt (encodeAt ((position + value.toNat) % 255)) - UInt8.ofNat position =
      if position + value.toNat < 255 then value else value + 1 := by
  have hvalue : value.toNat < 256 := value.toNat_lt
  have hkey := decodeAt_encodeAt (lt_trans (Nat.mod_lt (position + value.toNat) (by decide))
    (by decide : 255 < 256))
  apply UInt8.toNat.inj
  rw [UInt8.toNat_sub, hkey, UInt8.toNat_ofNat']
  split
  next hlow =>
    rw [Nat.mod_eq_of_lt hlow, Nat.mod_eq_of_lt (by omega : position < 2 ^ 8)]
    omega
  next hhigh =>
    rw [UInt8.toNat_add]
    have hmod : (position + value.toNat) % 255 = position + value.toNat - 255 := by
      rw [Nat.mod_eq_sub_mod (by omega), Nat.mod_eq_of_lt (by omega)]
    have hone : (1 : UInt8).toNat = 1 := rfl
    rw [hmod, hone]
    omega

theorem decoded_byte_iff {position : Nat} (h : position < 255) (value : UInt8) :
    decodeAt (encodeAt ((position + value.toNat) % 255)) - UInt8.ofNat position = value ↔
      position + value.toNat < 255 := by
  rw [decoded_byte h]
  split
  next hlow => exact iff_of_true rfl hlow
  next hhigh =>
    refine iff_of_false (fun hsame => ?_) hhigh
    have hone : value.toNat + 1 ≠ value.toNat := by omega
    have hnat := congrArg UInt8.toNat hsame
    rw [UInt8.toNat_add] at hnat
    have hlit : (1 : UInt8).toNat = 1 := rfl
    have hlt : value.toNat < 256 := value.toNat_lt
    omega

/-- The other way round a byte comes back when its plain byte is at least the position and not
255. -/
theorem encoded_byte_iff {position : Nat} (h : position < 255) (encoded : UInt8) :
    encodeAt ((position + (decodeAt encoded - UInt8.ofNat position).toNat) % 255) = encoded ↔
      position ≤ (decodeAt encoded).toNat ∧ (decodeAt encoded).toNat < 255 := by
  have hplain : (decodeAt encoded).toNat < 256 := (decodeAt encoded).toNat_lt
  conv_lhs => rhs; rw [← encodeAt_decodeAt encoded]
  rw [encodeAt_inj (by omega) hplain, UInt8.toNat_sub, UInt8.toNat_ofNat',
    Nat.mod_eq_of_lt (by omega : position < 2 ^ 8)]
  omega

/-! ## Buffers -/

theorem getElem?_decodeArray_encodeArray (plain : List UInt8) (position : Nat) :
    (decodeArray (encodeArray plain))[position]? = plain[position]?.map fun value =>
      decodeAt (encodeAt ((position + value.toNat) % 255)) - UInt8.ofNat position := by
  unfold decodeArray encodeArray
  rw [List.getElem?_mapIdx, List.getElem?_mapIdx, Option.map_map, Function.comp_def]

theorem getElem?_encodeArray_decodeArray (encoded : List UInt8) (position : Nat) :
    (encodeArray (decodeArray encoded))[position]? = encoded[position]?.map fun value =>
      encodeAt ((position + (decodeAt value - UInt8.ofNat position).toNat) % 255) := by
  unfold decodeArray encodeArray
  rw [List.getElem?_mapIdx, List.getElem?_mapIdx, Option.map_map, Function.comp_def]

theorem length_encodeArray (plain : List UInt8) : (encodeArray plain).length = plain.length :=
  List.length_mapIdx

theorem length_decodeArray (encoded : List UInt8) :
    (decodeArray encoded).length = encoded.length := List.length_mapIdx

/-- Two lists of one length are the same when each element is. -/
theorem mapped_eq_iff {l l' : List UInt8} {f : Nat → UInt8 → UInt8}
    (h : ∀ position, l'[position]? = l[position]?.map (f position)) :
    l' = l ↔ ∀ position (hp : position < l.length), f position l[position] = l[position] := by
  constructor
  · intro heq position hp
    have hat := h position
    rw [heq, List.getElem?_eq_getElem hp, Option.map_some, Option.some_inj] at hat
    exact hat.symm
  · intro hall
    refine List.ext_getElem? fun position => ?_
    rw [h]
    by_cases hp : position < l.length
    · rw [List.getElem?_eq_getElem hp, Option.map_some, hall position hp]
    · rw [List.getElem?_eq_none (by omega)]
      rfl

/-- A buffer comes back exactly when no shifted byte reaches 255. -/
theorem decodeArray_encodeArray_iff {plain : List UInt8} (h : plain.length ≤ 255) :
    decodeArray (encodeArray plain) = plain ↔
      ∀ position (hp : position < plain.length), position + plain[position].toNat < 255 := by
  rw [mapped_eq_iff (getElem?_decodeArray_encodeArray plain)]
  refine forall_congr' fun position => forall_congr' fun hp => ?_
  exact decoded_byte_iff (by omega) _

theorem encodeArray_decodeArray_iff {encoded : List UInt8} (h : encoded.length ≤ 255) :
    encodeArray (decodeArray encoded) = encoded ↔
      ∀ position (hp : position < encoded.length),
        position ≤ (decodeAt encoded[position]).toNat ∧
          (decodeAt encoded[position]).toNat < 255 := by
  rw [mapped_eq_iff (getElem?_encodeArray_decodeArray encoded)]
  refine forall_congr' fun position => forall_congr' fun hp => ?_
  exact encoded_byte_iff (by omega) _

/-- A byte that does not come back comes back as the next one. -/
theorem getElem?_of_reached {plain : List UInt8} (h : plain.length ≤ 255) {position : Nat}
    (hp : position < plain.length) (hreached : ¬ position + plain[position].toNat < 255) :
    (decodeArray (encodeArray plain))[position]? = some (plain[position] + 1) := by
  rw [getElem?_decodeArray_encodeArray, List.getElem?_eq_getElem hp, Option.map_some,
    decoded_byte (by omega), if_neg hreached]

theorem validateLength_ok {length : Nat} (h : length ≤ 255) : validateLength length = .ok () :=
  if_neg (not_lt.mpr h)

theorem encodeBytes_ok {plain : List UInt8} (h : plain.length ≤ 255) :
    encodeBytes plain = .ok (encodeArray plain) := by
  unfold encodeBytes
  rw [validateLength_ok h]
  rfl

theorem decodeBytes_ok {encoded : List UInt8} (h : encoded.length ≤ 255) :
    decodeBytes encoded = .ok (decodeArray encoded) := by
  unfold decodeBytes
  rw [validateLength_ok h]
  rfl

/-! ## Words -/

/-- A word comes back exactly when its four bytes do. -/
theorem readWord_iff (word : UInt32) :
    readWord (decodeArray (encodeArray (wordBytes word))) = word ↔
      ∀ position (hp : position < (wordBytes word).length),
        position + (wordBytes word)[position].toNat < 255 := by
  have hlen : (wordBytes word).length = 4 := length_wordBytes word
  rw [← decodeArray_encodeArray_iff (by omega)]
  constructor
  · intro h
    have hfour : (decodeArray (encodeArray (wordBytes word))).length = 4 := by
      rw [length_decodeArray, length_encodeArray, hlen]
    rw [← wordBytes_readWord hfour, h]
  · intro h
    rw [h, readWord_wordBytes]

end Encoded

open Encoded

/-- **Which buffers and which words come back.** A byte at a position comes back when the two
together stay below 255, and as the next byte otherwise; encoded bytes come back when each
stands for a byte from its position to 254. -/
theorem encoded_roundTrips :
    (∀ plain : List UInt8, plain.length ≤ 255 → ∃ encoded decoded,
      encodeBytes plain = .ok encoded ∧ decodeBytes encoded = .ok decoded ∧
      (decoded = plain ↔
        ∀ position (hp : position < plain.length), position + plain[position].toNat < 255) ∧
      ∀ position (hp : position < plain.length), ¬ position + plain[position].toNat < 255 →
        decoded[position]? = some (plain[position] + 1)) ∧
    (∀ encoded : List UInt8, encoded.length ≤ 255 → ∃ plain encoded',
      decodeBytes encoded = .ok plain ∧ encodeBytes plain = .ok encoded' ∧
      (encoded' = encoded ↔ ∀ position (hp : position < encoded.length),
        position ≤ (decodeAt encoded[position]).toNat ∧
          (decodeAt encoded[position]).toNat < 255)) ∧
    (∀ value : UInt32, decodeU32 (encodeU32 value) = value ↔
      ∀ position (hp : position < (wordBytes value).length),
        position + (wordBytes value)[position].toNat < 255) ∧
    (∀ value : Int32, decodeI32 (encodeI32 value) = value ↔
      ∀ position (hp : position < (wordBytes value.toUInt32).length),
        position + (wordBytes value.toUInt32)[position].toNat < 255) ∧
    ∀ value : Single, decodeF32 (encodeF32 value) = value ↔
      ∀ position (hp : position < (wordBytes value.bits).length),
        position + (wordBytes value.bits)[position].toNat < 255 := by
  refine ⟨fun plain h => ?_, fun encoded h => ?_, readWord_iff, fun value => ?_, fun value => ?_⟩
  · have hlen : (encodeArray plain).length ≤ 255 := by
      rw [length_encodeArray]
      exact h
    exact ⟨_, _, encodeBytes_ok h, decodeBytes_ok hlen, decodeArray_encodeArray_iff h,
      fun position hp hreached => getElem?_of_reached h hp hreached⟩
  · have hlen : (decodeArray encoded).length ≤ 255 := by
      rw [length_decodeArray]
      exact h
    exact ⟨_, _, decodeBytes_ok h, encodeBytes_ok hlen, encodeArray_decodeArray_iff h⟩
  · rw [← readWord_iff]
    unfold decodeI32 encodeI32
    constructor
    · intro hback
      exact congrArg Int32.toUInt32 hback
    · intro hback
      rw [hback]
      rfl
  · rw [← readWord_iff]
    obtain ⟨bits⟩ := value
    exact Single.mk.injEq .. ▸ Iff.rfl

/-- The scalar of the original program's tests, and a byte that comes back as another. -/
theorem encoded_samples : decodeU32 (encodeU32 0xDEADBEEF) = 0xDEADBEEF ∧
    ∃ encoded decoded, encodeBytes [255] = .ok encoded ∧ decodeBytes encoded = .ok decoded ∧
      decoded[0]? = some (255 + 1) := by
  obtain ⟨hbuffers, -, hwords, -, -⟩ := encoded_roundTrips
  obtain ⟨encoded, decoded, hencoded, hdecoded, -, hnext⟩ := hbuffers [255] (by decide)
  refine ⟨(hwords _).mpr (by decide), encoded, decoded, hencoded, hdecoded, ?_⟩
  exact hnext 0 (by decide) (by decide)

end P4475
