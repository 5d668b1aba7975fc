import P4475.Identity.Types
import P4475.Lib.Bytes
import P4475.Lib.Format

/-!
# Packet readers and writers

The part of `p4475-core/src/packet.rs` that reads and writes counts and strings: 32-bit
signed integers and length-prefixed UTF-16, both little-endian. A reader's offset is
never past the end of its slice, and a slice never longer than the address space, so
a range exists exactly when enough bytes remain.
-/

namespace P4475

open Lib

/-- `i32::MAX`. -/
def i32Max : Nat := 2 ^ 31 - 1

/-- `usize::MAX` of a 64-bit host. -/
def usizeMax : Nat := u64Max

inductive PacketError
  | truncated (offset needed : Nat)
  | negativeStringLength (length : Int)
  | stringTooLong
  | stringLengthOverflow
  | stringLimitExceeded (length maximum : Nat)
  | invalidUtf16
  deriving DecidableEq

abbrev PacketReader := Cursor UInt8

/-- The bytes written so far. -/
abbrev PacketWriter := List UInt8

abbrev Reading (ε α : Type) := Fallible PacketReader ε α

abbrev Writing (ε α : Type) := Fallible PacketWriter ε α

/-- The two's complement of a signed number, in `width` bytes. -/
def twosComplement (width : Nat) (value : Int) : Nat := (value % (256 ^ width : Nat)).toNat

/-- `i32::from_le_bytes`. -/
def i32FromLeBytes (bytes : List UInt8) : Int :=
  if leValue bytes ≤ i32Max then leValue bytes else leValue bytes - 2 ^ 32

namespace PacketReader

/-- `take`. -/
def take (length : Nat) : Reading PacketError (List UInt8) := do
  let reader ← get
  if reader.remaining.length < length then throw (.truncated reader.offset length)
  else
    set (reader.advance length)
    return (reader.remaining.take length)

/-- `read_i32`. -/
def readI32 : Reading PacketError Int := do
  let bytes ← take 4
  return i32FromLeBytes bytes

/-- The code units in some bytes, a pair each. -/
def unitsOf : List UInt8 → List Nat
  | low :: high :: rest => leValue [low, high] :: unitsOf rest
  | _ => []

/-- `read_utf16_bounded`. -/
def readUtf16Bounded (maximum : Nat) : Reading PacketError Text := do
  let signedLength ← readI32
  if signedLength < 0 then throw (.negativeStringLength signedLength)
  else if maximum < signedLength.toNat then
    throw (.stringLimitExceeded signedLength.toNat maximum)
  else if usizeMax < signedLength.toNat * 2 then throw .stringLengthOverflow
  else
    let bytes ← take (signedLength.toNat * 2)
    match decodeUtf16 (unitsOf bytes) with
    | none => throw .invalidUtf16
    | some text => return text

end PacketReader

namespace PacketWriter

/-- `write_bytes`. -/
def writeBytes {ε : Type} (bytes : List UInt8) : Writing ε PUnit := do
  let written ← get
  set (written ++ bytes)

/-- `write_i32`. -/
def writeI32 {ε : Type} (value : Int) : Writing ε PUnit :=
  writeBytes (leBytes 4 (twosComplement 4 value))

/-- `write_u16`. -/
def writeU16 {ε : Type} (value : Nat) : Writing ε PUnit := writeBytes (leBytes 2 value)

/-- `write_utf16`. -/
def writeUtf16 (value : Text) : Writing PacketError PUnit :=
  let units := encodeUtf16 value
  if i32Max < units.length then throw .stringTooLong
  else do
    writeI32 units.length
    units.forM writeU16

end PacketWriter

/-! ## Formats -/

/-- A count that is not negative, as an `i32`. -/
def countFormat : Format UInt8 Nat := fun count w => count ≤ i32Max ∧ w = leBytes 4 count

/-- The bytes of a string: the number of its code units, then the units. -/
def stringBytes (text : Text) : List UInt8 :=
  leBytes 4 (encodeUtf16 text).length ++ (encodeUtf16 text).flatMap (leBytes 2)

/-- A string of at most `maximum` code units. -/
def stringFormat (maximum : Nat) : Format UInt8 Text := fun text w =>
  (encodeUtf16 text).length ≤ maximum ∧ (encodeUtf16 text).length ≤ i32Max ∧
    w = stringBytes text

namespace PacketWriter

variable {ε : Type}

theorem writeBytes_emits (bytes : List UInt8) :
    Emits (writeBytes bytes : Writing ε PUnit) fun _ w => w = bytes := by
  intro out u out'
  unfold writeBytes
  rw [yields_bind]
  constructor
  · rintro ⟨s, s', hget, hset⟩
    obtain ⟨rfl, rfl⟩ := yields_get.mp hget
    exact ⟨bytes, rfl, yields_set.mp hset⟩
  · rintro ⟨w, rfl, rfl⟩
    exact ⟨out, out, yields_get.mpr ⟨rfl, rfl⟩, yields_set.mpr rfl⟩

theorem twosComplement_natCast {count : Nat} (h : count ≤ i32Max) :
    twosComplement 4 count = count := by
  unfold i32Max at h
  unfold twosComplement
  norm_cast
  exact Nat.mod_eq_of_lt (by omega)

theorem writeI32_emits {count : Nat} (h : count ≤ i32Max) :
    Emits (writeI32 (count : Int) : Writing ε PUnit) fun _ w => countFormat count w := by
  unfold writeI32
  rw [twosComplement_natCast h]
  exact (writeBytes_emits _).congr fun _ w => (and_iff_right h).symm

/-- One block after the other. -/
theorem list_bytes {α : Type} (f : α → List UInt8) (l : List α) (w : List UInt8) :
    Format.list (fun a w => w = f a) l w ↔ w = l.flatMap f := by
  induction l generalizing w with
  | nil => rfl
  | cons a rest ih =>
    constructor
    · rintro ⟨u, v, rfl, hv, rfl⟩
      rw [(ih v).mp hv, List.flatMap_cons]
    · rintro rfl
      exact ⟨f a, rest.flatMap f, rfl, (ih _).mpr rfl, List.flatMap_cons⟩

/-- A string that fits is written, any other is refused. -/
theorem writeUtf16_emits (text : Text) :
    Emits (writeUtf16 text) fun _ w =>
      (encodeUtf16 text).length ≤ i32Max ∧ w = stringBytes text := by
  refine (Emits.guard PacketError.stringTooLong fun hlen => (writeI32_emits (not_lt.mp hlen)).bind
    fun _ _ _ => Emits.forM (F := fun unit w => w = leBytes 2 unit)
      (fun unit => writeBytes_emits _) _).congr fun _ w => ?_
  constructor
  · rintro ⟨hlen, -, u, v, ⟨-, rfl⟩, hv, rfl⟩
    exact ⟨not_lt.mp hlen, by rw [(list_bytes _ _ _).mp hv]; rfl⟩
  · rintro ⟨hlen, rfl⟩
    exact ⟨not_lt.mpr hlen, PUnit.unit, _, _, ⟨hlen, rfl⟩, (list_bytes _ _ _).mpr rfl, rfl⟩

end PacketWriter

namespace PacketReader

theorem take_parses (length : Nat) :
    Parses (take length) fun bytes w => w = bytes ∧ bytes.length = length := by
  intro c bytes c'
  unfold take
  rw [yields_bind]
  constructor
  · rintro ⟨s, s', hget, hrest⟩
    obtain ⟨hs, rfl⟩ := yields_get.mp hget
    subst hs
    by_cases hshort : s.remaining.length < length
    · rw [if_pos hshort] at hrest
      exact absurd hrest yields_throw
    · rw [if_neg hshort, yields_bind] at hrest
      obtain ⟨u, s₁, hset, hpure⟩ := hrest
      obtain rfl := yields_set.mp hset
      obtain ⟨rfl, rfl⟩ := yields_pure.mp hpure
      have hcount : (s.remaining.take length).length = length := by
        rw [List.length_take]
        omega
      exact ⟨_, ⟨rfl, hcount⟩, List.take_prefix _ _, by rw [hcount]⟩
  · rintro ⟨w, ⟨rfl, hcount⟩, hprefix, rfl⟩
    have hle := hprefix.length_le
    refine ⟨c, c, yields_get.mpr ⟨rfl, rfl⟩, ?_⟩
    subst hcount
    rw [if_neg (by omega), yields_bind]
    exact ⟨PUnit.unit, _, yields_set.mpr rfl, yields_pure.mpr ⟨List.prefix_iff_eq_take.mp hprefix,
      rfl⟩⟩

/-- Reading a count that is not negative. -/
theorem i32FromLeBytes_natCast {bytes : List UInt8} {count : Nat} (hb : bytes.length = 4) :
    i32FromLeBytes bytes = count ↔ countFormat count bytes := by
  have hlt := leValue_lt bytes
  rw [hb] at hlt
  unfold i32FromLeBytes countFormat
  constructor
  · intro h
    split at h
    next hle =>
      have hcount : leValue bytes = count := by exact_mod_cast h
      exact ⟨hcount ▸ hle, by rw [← hcount, leBytes_of_length hb]⟩
    next => omega
  · rintro ⟨hle, rfl⟩
    have hvalue : leValue (leBytes 4 count) = count := by
      have hbound : count < 256 ^ 4 := lt_of_le_of_lt hle (by decide)
      rw [leValue_leBytes, Nat.mod_eq_of_lt hbound]
    rw [hvalue, if_pos hle]

theorem readI32_parses :
    Parses readI32 fun value w => w.length = 4 ∧ value = i32FromLeBytes w := by
  refine ((take_parses 4).bind fun bytes _ _ => parses_pure (i32FromLeBytes bytes)).congr
    fun value w => ?_
  constructor
  · rintro ⟨bytes, u, v, ⟨rfl, hb⟩, ⟨rfl, rfl⟩, rfl⟩
    rw [List.append_nil]
    exact ⟨hb, rfl⟩
  · rintro ⟨hb, rfl⟩
    exact ⟨w, w, [], ⟨rfl, hb⟩, ⟨rfl, rfl⟩, (List.append_nil w).symm⟩

theorem unitsOf_lt {bytes : List UInt8} : ∀ unit ∈ unitsOf bytes, unit < 2 ^ 16 := by
  induction bytes using unitsOf.induct with
  | case1 low high rest ih =>
    intro unit hu
    rw [unitsOf, List.mem_cons] at hu
    rcases hu with rfl | hu
    · have hvalue := leValue_lt [low, high]
      simpa using hvalue
    · exact ih unit hu
  | case2 bytes hshort =>
    intro unit hu
    rw [unitsOf] at hu
    · exact absurd hu List.not_mem_nil
    · exact hshort

/-- An even number of bytes is its units, low byte first. -/
theorem flatMap_unitsOf {count : Nat} {bytes : List UInt8} (h : bytes.length = count * 2) :
    (unitsOf bytes).length = count ∧ (unitsOf bytes).flatMap (leBytes 2) = bytes := by
  induction count generalizing bytes with
  | zero =>
    cases List.length_eq_zero_iff.mp (h.trans (Nat.zero_mul 2))
    exact ⟨rfl, rfl⟩
  | succ count ih =>
    match bytes, h with
    | low :: high :: rest, h =>
      have hrest : rest.length = count * 2 := by
        simp only [List.length_cons] at h
        omega
      obtain ⟨hlen, hflat⟩ := ih hrest
      refine ⟨congrArg (· + 1) hlen, ?_⟩
      have hpair : leBytes 2 (leValue [low, high]) = [low, high] := leBytes_leValue [low, high]
      rw [unitsOf, List.flatMap_cons, hflat, hpair]
      rfl
    | [_], h => simp at h; omega
    | [], h => simp at h

theorem unitsOf_flatMap {units : List Nat} (h : ∀ unit ∈ units, unit < 2 ^ 16) :
    unitsOf (units.flatMap (leBytes 2)) = units := by
  induction units with
  | nil => rfl
  | cons unit rest ih =>
    have hunit := h unit List.mem_cons_self
    have hvalue : leValue (leBytes 2 unit) = unit := by
      have hunit' : unit < 256 ^ 2 := hunit
      rw [leValue_leBytes, Nat.mod_eq_of_lt hunit']
    rw [List.flatMap_cons]
    show leValue (leBytes 2 unit) :: unitsOf (rest.flatMap (leBytes 2)) = unit :: rest
    rw [hvalue, ih fun u hu => h u (List.mem_cons_of_mem _ hu)]

/-- Decoding undoes the units of a text and nothing else. -/
theorem decode_iff {bytes : List UInt8} {count : Nat} {text : Text}
    (hb : bytes.length = count * 2) : decodeUtf16 (unitsOf bytes) = some text ↔
      (encodeUtf16 text).length = count ∧ bytes = (encodeUtf16 text).flatMap (leBytes 2) := by
  obtain ⟨hlen, hflat⟩ := flatMap_unitsOf hb
  constructor
  · intro h
    rw [encodeUtf16_of_decode unitsOf_lt h]
    exact ⟨hlen, hflat.symm⟩
  · rintro ⟨-, rfl⟩
    rw [unitsOf_flatMap fun _ => encodeUtf16_lt, decodeUtf16_encodeUtf16]

/-- The text of some units, once their number is read. -/
theorem readUnits_parses (count : Nat) :
    Parses (do
      let bytes ← take (count * 2)
      match decodeUtf16 (unitsOf bytes) with
      | none => throw .invalidUtf16
      | some text => return text) fun text w =>
        (encodeUtf16 text).length = count ∧ w = (encodeUtf16 text).flatMap (leBytes 2) := by
  have hdecode : ∀ bytes : List UInt8, Parses
      (match decodeUtf16 (unitsOf bytes) with
        | none => throw .invalidUtf16
        | some text => return text : Reading PacketError Text)
      fun text w => decodeUtf16 (unitsOf bytes) = some text ∧ w = [] := by
    intro bytes
    cases decodeUtf16 (unitsOf bytes) with
    | none => exact (parses_throw _).congr fun text w => iff_of_false id fun h => by cases h.1
    | some text =>
      refine (parses_pure text).congr fun text' w => and_congr_left fun _ => ?_
      rw [Option.some_inj, eq_comm]
  refine ((take_parses _).bind fun bytes _ _ => hdecode bytes).congr fun text w => ?_
  constructor
  · rintro ⟨bytes, u, v, ⟨rfl, hb⟩, ⟨htext, rfl⟩, rfl⟩
    rw [List.append_nil]
    exact (decode_iff hb).mp htext
  · rintro ⟨hcount, rfl⟩
    have hb : ((encodeUtf16 text).flatMap (leBytes 2)).length = count * 2 := by
      rw [length_flatMap_leBytes, hcount]
    exact ⟨_, _, [], ⟨rfl, hb⟩, ⟨(decode_iff hb).mpr ⟨hcount, rfl⟩, rfl⟩, (List.append_nil _).symm⟩

/-- **Strings are read in the format they are written in.** -/
theorem readUtf16Bounded_parses (maximum : Nat) :
    Parses (readUtf16Bounded maximum) (stringFormat maximum) := by
  refine (readI32_parses.bind fun value _ _ => Parses.guard (.negativeStringLength value) fun _ =>
    Parses.guard (.stringLimitExceeded value.toNat maximum) fun _ =>
      Parses.guard .stringLengthOverflow fun _ =>
        readUnits_parses value.toNat).congr fun text w => ?_
  unfold stringFormat stringBytes
  constructor
  · rintro ⟨value, u, v, ⟨hu, rfl⟩, ⟨hnonneg, hmax, -, hcount, rfl⟩, rfl⟩
    have hvalue : i32FromLeBytes u = ((encodeUtf16 text).length : Int) := by
      rw [hcount]
      omega
    obtain ⟨hle, rfl⟩ := (i32FromLeBytes_natCast hu).mp hvalue
    exact ⟨by omega, hle, rfl⟩
  · rintro ⟨hmax, hle, rfl⟩
    have hvalue : i32FromLeBytes (leBytes 4 (encodeUtf16 text).length) =
        ((encodeUtf16 text).length : Int) :=
      (i32FromLeBytes_natCast (length_leBytes 4 _)).mpr ⟨hle, rfl⟩
    refine ⟨_, leBytes 4 (encodeUtf16 text).length, _, ⟨length_leBytes 4 _, rfl⟩, ?_, rfl⟩
    rw [hvalue]
    dsimp only
    rw [Int.toNat_natCast]
    refine ⟨by omega, by omega, ?_, rfl, rfl⟩
    unfold i32Max at hle
    unfold usizeMax u64Max
    omega

end PacketReader

/-- A count that is not negative, read as a signed number first. -/
theorem natural_parses {ε : Type} {p : Reading ε Int}
    (h : Parses p fun value w => w.length = 4 ∧ value = i32FromLeBytes w) (e : Int → ε) :
    Parses (do
      let value ← p
      if value < 0 then throw (e value) else return value.toNat) countFormat := by
  refine (h.bind fun value _ _ => Parses.guard (e value) fun _ =>
    parses_pure value.toNat).congr fun count w => ?_
  constructor
  · intro ⟨value, u, v, ⟨hu, hvalue⟩, ⟨hnonneg, hcount, hv⟩, hw⟩
    rw [hw, hv, List.append_nil]
    apply (PacketReader.i32FromLeBytes_natCast hu).mp
    omega
  · intro ⟨hle, hw⟩
    have hvalue : i32FromLeBytes w = count := by
      rw [hw]
      exact (PacketReader.i32FromLeBytes_natCast (length_leBytes 4 _)).mpr ⟨hle, rfl⟩
    have hlen : w.length = 4 := by
      rw [hw]
      exact length_leBytes 4 count
    exact ⟨count, w, [], ⟨hlen, hvalue.symm⟩, ⟨by omega, rfl, rfl⟩, (List.append_nil w).symm⟩

end P4475
