import Mathlib.Algebra.Ring.Nat
import Mathlib.Data.List.Basic

/-!
# Little-endian numbers and UTF-16

`leBytes` and `leValue` are inverse up to the width of the number. A string is a list
of Unicode scalar values, and `encodeUtf16` and `decodeUtf16` are inverse to each other:
what decodes is what some string encodes to, so a text has one encoding only.
-/

namespace P4475.Lib

/-! ## Little-endian -/

/-- The `width` low bytes of a number, lowest first. -/
def leBytes : (width value : Nat) → List UInt8
  | 0, _ => []
  | width + 1, value => UInt8.ofNat value :: leBytes width (value / 256)

/-- The number with these bytes, lowest first. -/
def leValue : List UInt8 → Nat
  | [] => 0
  | byte :: rest => byte.toNat + 256 * leValue rest

@[simp] theorem length_leBytes (width value : Nat) : (leBytes width value).length = width := by
  induction width generalizing value with
  | zero => rfl
  | succ width ih => simp [leBytes, ih]

theorem length_flatMap_leBytes (width : Nat) (values : List Nat) :
    (values.flatMap (leBytes width)).length = values.length * width := by
  induction values with
  | nil => simp
  | cons value rest ih =>
    rw [List.flatMap_cons, List.length_append, length_leBytes, ih, List.length_cons,
      Nat.succ_mul, Nat.add_comm]

theorem leValue_lt (bytes : List UInt8) : leValue bytes < 256 ^ bytes.length := by
  induction bytes with
  | nil => simp [leValue]
  | cons byte rest ih =>
    have hbyte := byte.toNat_lt
    rw [leValue, List.length_cons, Nat.pow_succ]
    omega

theorem leValue_leBytes (width value : Nat) :
    leValue (leBytes width value) = value % 256 ^ width := by
  induction width generalizing value with
  | zero => simp [leBytes, leValue, Nat.mod_one]
  | succ width ih =>
    rw [leBytes, leValue, ih, UInt8.toNat_ofNat', Nat.pow_succ 256, Nat.mul_comm (256 ^ width),
      Nat.mod_mul]

theorem leBytes_leValue (bytes : List UInt8) : leBytes bytes.length (leValue bytes) = bytes := by
  induction bytes with
  | nil => rfl
  | cons byte rest ih =>
    have hbyte := byte.toNat_lt
    have hdiv : (byte.toNat + 256 * leValue rest) / 256 = leValue rest := by omega
    have hlow : UInt8.ofNat (byte.toNat + 256 * leValue rest) = byte := by
      apply UInt8.toNat_inj.mp
      rw [UInt8.toNat_ofNat']
      omega
    rw [leValue, List.length_cons, leBytes, hdiv, hlow, ih]

theorem leBytes_of_length {width : Nat} {bytes : List UInt8} (h : bytes.length = width) :
    leBytes width (leValue bytes) = bytes := by
  rw [← h, leBytes_leValue]

/-! ## UTF-16 -/

/-- `char::encode_utf16`: one unit, or a surrogate pair. -/
def utf16Units (c : Char) : List Nat :=
  if c.toNat < 0x10000 then [c.toNat]
  else [0xD800 + (c.toNat - 0x10000) / 0x400, 0xDC00 + (c.toNat - 0x10000) % 0x400]

/-- `str::encode_utf16`. -/
def encodeUtf16 (text : List Char) : List Nat := text.flatMap utf16Units

/-- `String::from_utf16`; `none` at an unpaired surrogate. -/
def decodeUtf16 : List Nat → Option (List Char)
  | [] => some []
  | unit :: rest =>
    if unit < 0xD800 ∨ 0xE000 ≤ unit then (decodeUtf16 rest).map (Char.ofNat unit :: ·)
    else if 0xDC00 ≤ unit then none
    else
      match rest with
      | [] => none
      | low :: rest =>
        if low < 0xDC00 ∨ 0xE000 ≤ low then none
        else (decodeUtf16 rest).map
          (Char.ofNat (0x10000 + (unit - 0xD800) * 0x400 + (low - 0xDC00)) :: ·)

/-- `String::from_utf16_lossy`: an unpaired surrogate becomes a replacement character. -/
def decodeUtf16Lossy : List Nat → List Char
  | [] => []
  | unit :: rest =>
    if unit < 0xD800 ∨ 0xE000 ≤ unit then Char.ofNat unit :: decodeUtf16Lossy rest
    else if 0xDC00 ≤ unit then Char.ofNat 0xFFFD :: decodeUtf16Lossy rest
    else
      match rest with
      | [] => [Char.ofNat 0xFFFD]
      | low :: rest =>
        if low < 0xDC00 ∨ 0xE000 ≤ low then
          Char.ofNat 0xFFFD :: decodeUtf16Lossy (low :: rest)
        else
          Char.ofNat (0x10000 + (unit - 0xD800) * 0x400 + (low - 0xDC00)) :: decodeUtf16Lossy rest

theorem decodeUtf16_plain {unit : Nat} {rest : List Nat} (h : unit < 0xD800 ∨ 0xE000 ≤ unit) :
    decodeUtf16 (unit :: rest) = (decodeUtf16 rest).map (Char.ofNat unit :: ·) := by
  rw [decodeUtf16.eq_def]
  exact if_pos h

theorem decodeUtf16_low {unit : Nat} {rest : List Nat} (h : ¬ (unit < 0xD800 ∨ 0xE000 ≤ unit))
    (hlow : 0xDC00 ≤ unit) : decodeUtf16 (unit :: rest) = none := by
  rw [decodeUtf16.eq_def]
  dsimp only
  rw [if_neg h, if_pos hlow]

theorem decodeUtf16_end {unit : Nat} (h : ¬ (unit < 0xD800 ∨ 0xE000 ≤ unit))
    (hlow : ¬ 0xDC00 ≤ unit) : decodeUtf16 [unit] = none := by
  rw [decodeUtf16.eq_def]
  dsimp only
  rw [if_neg h, if_neg hlow]

theorem decodeUtf16_pair {unit low : Nat} {rest : List Nat}
    (h : ¬ (unit < 0xD800 ∨ 0xE000 ≤ unit)) (hlow : ¬ 0xDC00 ≤ unit) :
    decodeUtf16 (unit :: low :: rest) =
      if low < 0xDC00 ∨ 0xE000 ≤ low then none
      else (decodeUtf16 rest).map
        (Char.ofNat (0x10000 + (unit - 0xD800) * 0x400 + (low - 0xDC00)) :: ·) := by
  rw [decodeUtf16.eq_def]
  dsimp only
  rw [if_neg h, if_neg hlow]

theorem char_valid (c : Char) : c.toNat < 0xD800 ∨ (0xDFFF < c.toNat ∧ c.toNat < 0x110000) :=
  c.valid

theorem utf16Units_lt {c : Char} {unit : Nat} (h : unit ∈ utf16Units c) : unit < 2 ^ 16 := by
  have hvalid := char_valid c
  unfold utf16Units at h
  split at h
  next hc =>
    rw [List.mem_singleton] at h
    omega
  next hc =>
    simp only [List.mem_cons, List.not_mem_nil, or_false] at h
    omega

theorem encodeUtf16_lt {text : List Char} {unit : Nat} (h : unit ∈ encodeUtf16 text) :
    unit < 2 ^ 16 := by
  obtain ⟨c, -, hc⟩ := List.mem_flatMap.mp h
  exact utf16Units_lt hc

/-- A text decodes from its units. -/
theorem decodeUtf16_encodeUtf16 (text : List Char) :
    decodeUtf16 (encodeUtf16 text) = some text := by
  induction text with
  | nil => rfl
  | cons c rest ih =>
    have hvalid := char_valid c
    have hcons : encodeUtf16 (c :: rest) = utf16Units c ++ encodeUtf16 rest := rfl
    rw [hcons]
    unfold utf16Units
    by_cases hc : c.toNat < 0x10000
    · have hplain : c.toNat < 0xD800 ∨ 0xE000 ≤ c.toNat := by omega
      rw [if_pos hc, List.singleton_append, decodeUtf16_plain hplain, ih, Char.ofNat_toNat]
      rfl
    · -- a pair: neither half can be read as a plain unit
      have hhigh : ¬ (0xD800 + (c.toNat - 0x10000) / 0x400 < 0xD800 ∨
          0xE000 ≤ 0xD800 + (c.toNat - 0x10000) / 0x400) := by omega
      have hhigh' : ¬ 0xDC00 ≤ 0xD800 + (c.toNat - 0x10000) / 0x400 := by omega
      have hlow : ¬ (0xDC00 + (c.toNat - 0x10000) % 0x400 < 0xDC00 ∨
          0xE000 ≤ 0xDC00 + (c.toNat - 0x10000) % 0x400) := by omega
      have hsum : 0x10000 + (0xD800 + (c.toNat - 0x10000) / 0x400 - 0xD800) * 0x400 +
          (0xDC00 + (c.toNat - 0x10000) % 0x400 - 0xDC00) = c.toNat := by omega
      rw [if_neg hc, List.cons_append, List.singleton_append, decodeUtf16_pair hhigh hhigh',
        if_neg hlow, hsum, ih, Char.ofNat_toNat]
      rfl

/-- The units of a scalar value that a decoder made. -/
theorem toNat_ofNat_of_valid {n : Nat} (h : n < 0xD800 ∨ (0xDFFF < n ∧ n < 0x110000)) :
    (Char.ofNat n).toNat = n := by
  unfold Char.ofNat
  rw [dif_pos h]
  rfl

/-- What decodes are the units of the text. -/
theorem encodeUtf16_of_decode {units : List Nat} {text : List Char}
    (hb : ∀ unit ∈ units, unit < 2 ^ 16) (h : decodeUtf16 units = some text) :
    encodeUtf16 text = units := by
  induction units using decodeUtf16.induct generalizing text with
  | case1 =>
    cases h
    rfl
  | case2 unit rest hplain ih =>
    rw [decodeUtf16_plain hplain, Option.map_eq_some_iff] at h
    obtain ⟨tail, ht, rfl⟩ := h
    have hunit := hb unit List.mem_cons_self
    have hvalue : (Char.ofNat unit).toNat = unit := toNat_ofNat_of_valid (by omega)
    have htail := ih (fun u hu => hb u (List.mem_cons_of_mem _ hu)) ht
    show utf16Units (Char.ofNat unit) ++ encodeUtf16 tail = unit :: rest
    unfold utf16Units
    rw [hvalue, if_pos (by omega), htail]
    rfl
  | case3 unit rest hplain hlow =>
    rw [decodeUtf16_low hplain hlow] at h
    exact absurd h (by simp)
  | case4 unit hplain hlow =>
    rw [decodeUtf16_end hplain hlow] at h
    exact absurd h (by simp)
  | case5 unit hplain hlow low rest hpair =>
    rw [decodeUtf16_pair hplain hlow, if_pos hpair] at h
    exact absurd h (by simp)
  | case6 unit hplain hlow low rest hpair ih =>
    rw [decodeUtf16_pair hplain hlow, if_neg hpair, Option.map_eq_some_iff] at h
    obtain ⟨tail, ht, rfl⟩ := h
    have hvalue : (Char.ofNat (0x10000 + (unit - 0xD800) * 0x400 + (low - 0xDC00))).toNat =
        0x10000 + (unit - 0xD800) * 0x400 + (low - 0xDC00) := toNat_ofNat_of_valid (by omega)
    have htail := ih (fun u hu => hb u (List.mem_cons_of_mem _ (List.mem_cons_of_mem _ hu))) ht
    show utf16Units (Char.ofNat _) ++ encodeUtf16 tail = unit :: low :: rest
    unfold utf16Units
    have hhigh : 0xD800 + (0x10000 + (unit - 0xD800) * 0x400 + (low - 0xDC00) - 0x10000) / 0x400 =
        unit := by omega
    have hrest : 0xDC00 + (0x10000 + (unit - 0xD800) * 0x400 + (low - 0xDC00) - 0x10000) % 0x400 =
        low := by omega
    rw [hvalue, if_neg (by omega), htail, hhigh, hrest]
    rfl

/-- What decodes, decodes to the same text when unpaired surrogates are allowed. -/
theorem decodeUtf16Lossy_of_decode {units : List Nat} {text : List Char}
    (h : decodeUtf16 units = some text) : decodeUtf16Lossy units = text := by
  induction units using decodeUtf16.induct generalizing text with
  | case1 =>
    cases h
    rfl
  | case2 unit rest hplain ih =>
    rw [decodeUtf16_plain hplain, Option.map_eq_some_iff] at h
    obtain ⟨tail, ht, htext⟩ := h
    rw [decodeUtf16Lossy.eq_def]
    dsimp only
    rw [if_pos hplain, ih ht, htext]
  | case3 unit rest hplain hlow =>
    rw [decodeUtf16_low hplain hlow] at h
    cases h
  | case4 unit hplain hlow =>
    rw [decodeUtf16_end hplain hlow] at h
    cases h
  | case5 unit hplain hlow low rest hpair =>
    rw [decodeUtf16_pair hplain hlow, if_pos hpair] at h
    cases h
  | case6 unit hplain hlow low rest hpair ih =>
    rw [decodeUtf16_pair hplain hlow, if_neg hpair, Option.map_eq_some_iff] at h
    obtain ⟨tail, ht, htext⟩ := h
    rw [decodeUtf16Lossy.eq_def]
    dsimp only
    rw [if_neg hplain, if_neg hlow, if_neg hpair, ih ht, htext]

end P4475.Lib
