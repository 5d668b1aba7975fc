import P4475.Connector.PinForms

/-!
# Encoded blocks

`p4475-connector/src/encoded_block.rs`. A block that does not start with the magic is taken
as it is, with the default encoding; every block that is written has the magic. What is
written under an encoding that has a key exactly when it is enciphered reads back as the
bytes and the encoding.
-/

namespace P4475

open Lib Crypto

/-- `FLAG_ZLIB`. -/
def flagZlib : UInt8 := 0x01

/-- `FLAG_KART_CRYPTO`. -/
def flagKartCrypto : UInt8 := 0x02

/-- `DEFAULT_KART_CRYPTO_KEY`. -/
def defaultKartCryptoKey : UInt32 := 0x33699633

/-- `ENCODED_MAGIC`. -/
def encodedMagic : UInt8 := 83

structure BlockEncoding where
  flags : UInt8
  kartCryptoKey : Option UInt32
  deriving DecidableEq

/-- `BlockEncoding::default`. -/
def BlockEncoding.default : BlockEncoding :=
  ⟨flagZlib ||| flagKartCrypto, some defaultKartCryptoKey⟩

structure DecodedBlock where
  bytes : List UInt8
  encoding : BlockEncoding
  deriving DecidableEq

namespace EncodedBlock

/-- `enforce_limit` of `encoded_block.rs`. -/
def enforceLimit (kind : String) (actual maximum : Nat) : Except EncodedBlockError Unit :=
  if maximum < actual then throw (.limitExceeded kind actual maximum) else pure ()

/-- `BlockReader::take`. -/
def take (length : Nat) : Reading EncodedBlockError (List UInt8) :=
  takeElse (fun reader => .truncated reader.offset length) length

/-- `BlockReader::read_u8`. -/
def readU8 : Reading EncodedBlockError UInt8 := do
  let bytes ← take 1
  return bytes.headD 0

/-- `BlockReader::read_u32`. -/
def readU32 : Reading EncodedBlockError UInt32 := do
  let bytes ← take 4
  return readWord bytes

/-- The declared length of a compressed block. -/
def readDeclaredLength (limits : CodecLimits) : Reading EncodedBlockError Nat := do
  let length ← readU32
  liftResult (enforceLimit "declared decoded block" length.toNat limits.maxDecodedBlockBytes)
  return length.toNat

/-- `decode_zlib_bounded`. -/
def decodeZlibBounded (zlib : Zlib) (body : List UInt8) (expectedLength : Nat)
    (limits : CodecLimits) : Except EncodedBlockError (List UInt8) := do
  let output ← (zlib.decompress body (min (limits.maxDecodedBlockBytes + 1) u64Max)).mapError .zlib
  enforceLimit "decoded zlib block" output.1.length limits.maxDecodedBlockBytes
  if output.1.length ≠ expectedLength then
    throw (.decodedLengthMismatch expectedLength output.1.length)
  else return output.1

/-- The plain bytes of a body. -/
def decodeBody (zlib : Zlib) (limits : CodecLimits) (body : List UInt8) :
    (declaredLength : Option Nat) → Except EncodedBlockError (List UInt8)
  | some expectedLength => decodeZlibBounded zlib body expectedLength limits
  | none => do
    enforceLimit "decoded block" body.length limits.maxDecodedBlockBytes
    return body

/-- `decode` of a block with the magic. -/
def readBlock (zlib : Zlib) (limits : CodecLimits) : Reading EncodedBlockError DecodedBlock := do
  let _ ← readU8
  let flags ← readU8
  let expectedChecksum ← readU32
  let kartCryptoKey ← flagged flags flagKartCrypto readU32
  let declaredLength ← flagged flags flagZlib (readDeclaredLength limits)
  let reader ← get
  let body := (kartCryptoKey.map (applyKartCrypto reader.remaining)).getD reader.remaining
  let decoded ← liftResult (decodeBody zlib limits body declaredLength)
  if hash decoded 0 ≠ expectedChecksum then
    throw (.checksumMismatch expectedChecksum (hash decoded 0))
  else return ⟨decoded, flags, kartCryptoKey⟩

/-- `decode`. -/
def decode (zlib : Zlib) (input : List UInt8) (limits : CodecLimits) :
    Except EncodedBlockError DecodedBlock := do
  enforceLimit "encoded block" input.length limits.maxEncodedBlockBytes
  if input.head? ≠ some encodedMagic then do
    enforceLimit "decoded block" input.length limits.maxDecodedBlockBytes
    return ⟨input, BlockEncoding.default⟩
  else scan (readBlock zlib limits) input

/-- The body of a block before it is enciphered. -/
def compressedBody (zlib : Zlib) (input : List UInt8) (flags : UInt8) :
    Except EncodedBlockError (List UInt8) :=
  if flags &&& flagZlib ≠ 0 then (zlib.compress input).mapError .zlib else return input

/-- The key that `encode` writes. -/
def writtenKey (encoding : BlockEncoding) (checksum : UInt32) : Option UInt32 :=
  if encoding.flags &&& flagKartCrypto ≠ 0 then some (encoding.kartCryptoKey.getD checksum)
  else none

/-- The length field that `encode` writes. -/
def writtenLength (input : List UInt8) (flags : UInt8) : List UInt8 :=
  if flags &&& flagZlib ≠ 0 then leBytes 4 input.length else []

/-- The length of what stands before the body. -/
def headerLength (key : Option UInt32) (flags : UInt8) : Nat :=
  6 + (if key.isSome then 4 else 0) + (if flags &&& flagZlib ≠ 0 then 4 else 0)

/-- `encode`. -/
def encode (zlib : Zlib) (input : List UInt8) (encoding : BlockEncoding) (limits : CodecLimits) :
    Except EncodedBlockError (List UInt8) := do
  enforceLimit "decoded block" input.length limits.maxDecodedBlockBytes
  let checksum := hash input 0
  let plainBody ← compressedBody zlib input encoding.flags
  let key := writtenKey encoding checksum
  let body := (key.map (applyKartCrypto plainBody)).getD plainBody
  let totalLength := headerLength key encoding.flags + body.length
  if usizeMax < totalLength then throw .lengthOverflow
  else do
    enforceLimit "encoded block" totalLength limits.maxEncodedBlockBytes
    if encoding.flags &&& flagZlib ≠ 0 ∧ u32Max < input.length then throw .lengthOverflow
    else
      return [encodedMagic] ++ ([encoding.flags] ++ (wordBytes checksum ++
        ((key.map wordBytes).getD [] ++ (writtenLength input encoding.flags ++ body))))

/-! ## Reading what is written -/

/-- An encoding has a key exactly when it enciphers. -/
def Keyed (encoding : BlockEncoding) : Prop :=
  encoding.kartCryptoKey.isSome = true ↔ encoding.flags &&& flagKartCrypto ≠ 0

theorem enforceLimit_ok {kind : String} {actual maximum : Nat} {u : Unit} :
    enforceLimit kind actual maximum = .ok u ↔ actual ≤ maximum := by
  unfold enforceLimit
  by_cases h : maximum < actual
  · rw [if_pos h]
    exact iff_of_false (fun he => by cases he) (by omega)
  · rw [if_neg h]
    exact iff_of_true rfl (by omega)

theorem readU8_reads (byte : UInt8) (rest : List UInt8) :
    Reads readU8 ([byte] ++ rest) byte rest :=
  (takeElse_front _ rfl rest).bind (reads_pure byte rest)

theorem readU32_reads (word : UInt32) (rest : List UInt8) :
    Reads readU32 (wordBytes word ++ rest) word rest := by
  refine (takeElse_front _ (length_wordBytes word) rest).bind ?_
  rw [readWord_wordBytes]
  exact reads_pure word rest

theorem readDeclaredLength_reads {limits : CodecLimits} {length : Nat} (h : length ≤ u32Max)
    (hmax : length ≤ limits.maxDecodedBlockBytes) (rest : List UInt8) :
    Reads (readDeclaredLength limits) (leBytes 4 length ++ rest) length rest := by
  have hword : (UInt32.ofNat length).toNat = length := by
    unfold u32Max at h
    rw [UInt32.toNat_ofNat']
    exact Nat.mod_eq_of_lt (by omega)
  have hread := readU32_reads (UInt32.ofNat length) rest
  unfold wordBytes at hread
  rw [hword] at hread
  refine hread.bind ?_
  rw [hword]
  have hfits : enforceLimit "declared decoded block" length limits.maxDecodedBlockBytes = .ok () :=
    enforceLimit_ok.mpr hmax
  exact (reads_liftResult hfits rest).bind (reads_pure length rest)

/-- Under a key that is there when it is needed, that key is written. -/
theorem writtenKey_of_keyed {encoding : BlockEncoding} (h : Keyed encoding)
    (checksum : UInt32) : writtenKey encoding checksum = encoding.kartCryptoKey := by
  unfold writtenKey
  cases hkey : encoding.kartCryptoKey with
  | none =>
    have hflag : ¬ encoding.flags &&& flagKartCrypto ≠ 0 := fun hflag => by
      have hsome := h.mpr hflag
      rw [hkey] at hsome
      cases hsome
    rw [if_neg hflag]
  | some key =>
    rw [if_pos (h.mp (by rw [hkey]; rfl))]
    rfl

/-- Enciphering twice under one key gives back the body. -/
theorem applyKartCrypto_twice (key : Option UInt32) (body : List UInt8) :
    (key.map (applyKartCrypto ((key.map (applyKartCrypto body)).getD body))).getD
      ((key.map (applyKartCrypto body)).getD body) = body := by
  cases key with
  | none => rfl
  | some key => exact applyKey_applyKey (expandedKey key) body

theorem length_enciphered (key : Option UInt32) (body : List UInt8) :
    ((key.map (applyKartCrypto body)).getD body).length = body.length := by
  cases key with
  | none => rfl
  | some key => exact length_applyKey (expandedKey key) body

theorem length_keyBytes (key : Option UInt32) :
    ((key.map wordBytes).getD []).length = if key.isSome then 4 else 0 := by
  cases key with
  | none => rfl
  | some key => exact length_wordBytes key

theorem length_writtenLength (input : List UInt8) (flags : UInt8) :
    (writtenLength input flags).length = if flags &&& flagZlib ≠ 0 then 4 else 0 := by
  unfold writtenLength
  split
  · exact length_leBytes 4 _
  · rfl

variable {zlib : Zlib} {limits : CodecLimits} {input bytes : List UInt8} {encoding : BlockEncoding}

/-- What `encode` writes under such an encoding. -/
theorem encode_ok (hkeyed : Keyed encoding) (h : encode zlib input encoding limits = .ok bytes) :
    ∃ body, input.length ≤ limits.maxDecodedBlockBytes ∧
      compressedBody zlib input encoding.flags = .ok body ∧
      bytes.length ≤ limits.maxEncodedBlockBytes ∧
      (encoding.flags &&& flagZlib ≠ 0 → input.length ≤ u32Max) ∧
      bytes = [encodedMagic] ++ ([encoding.flags] ++ (wordBytes (hash input 0) ++
        ((encoding.kartCryptoKey.map wordBytes).getD [] ++ (writtenLength input encoding.flags ++
          (encoding.kartCryptoKey.map (applyKartCrypto body)).getD body)))) := by
  obtain ⟨_, hdecoded, h⟩ := bind_eq_ok h
  obtain ⟨body, hbody, h⟩ := bind_eq_ok h
  rw [writtenKey_of_keyed hkeyed] at h
  dsimp only at h
  split at h
  next => cases h
  next =>
    obtain ⟨_, hencoded, h⟩ := bind_eq_ok h
    split at h
    next => cases h
    next hwide =>
      cases h
      refine ⟨body, enforceLimit_ok.mp hdecoded, hbody, ?_, fun hflag => ?_, rfl⟩
      · refine le_trans (le_of_eq ?_) (enforceLimit_ok.mp hencoded)
        unfold headerLength
        simp only [List.length_append, List.length_singleton, length_wordBytes, length_keyBytes,
          length_writtenLength, length_enciphered]
        omega
      · by_contra hlarge
        exact hwide ⟨hflag, by omega⟩

/-- The plain bytes come back from the body. -/
theorem decodeBody_compressed (hz : zlib.Lossless) {body : List UInt8}
    (hbody : compressedBody zlib input encoding.flags = .ok body)
    (hmax : input.length ≤ limits.maxDecodedBlockBytes)
    (hwide : encoding.flags &&& flagZlib ≠ 0 → input.length ≤ u32Max) :
    decodeBody zlib limits body
      (if encoding.flags &&& flagZlib ≠ 0 then some input.length else none) = .ok input := by
  unfold compressedBody at hbody
  by_cases hflag : encoding.flags &&& flagZlib ≠ 0
  · rw [if_pos hflag] at hbody ⊢
    have hstored : zlib.compress input = .ok body := by
      cases hc : zlib.compress input with
      | error e =>
        rw [hc] at hbody
        cases hbody
      | ok made =>
        rw [hc] at hbody
        cases hbody
        rfl
    have hlimit : input.length < min (limits.maxDecodedBlockBytes + 1) u64Max :=
      lt_min (by omega) (lt_of_le_of_lt (hwide hflag) (by decide))
    show decodeZlibBounded zlib body input.length limits = .ok input
    unfold decodeZlibBounded
    rw [hz hstored hlimit]
    refine bind_eq_ok_iff.mpr ⟨(input, body.length), rfl, ?_⟩
    refine bind_eq_ok_iff.mpr ⟨(), enforceLimit_ok.mpr hmax, ?_⟩
    rw [if_neg (by simp)]
    rfl
  · rw [if_neg hflag] at hbody ⊢
    cases hbody
    exact bind_eq_ok_iff.mpr ⟨(), enforceLimit_ok.mpr hmax, rfl⟩

/-- A written block reads back as its bytes and its encoding. -/
theorem decode_of_encode (hz : zlib.Lossless) (hkeyed : Keyed encoding)
    (h : encode zlib input encoding limits = .ok bytes) :
    decode zlib bytes limits = .ok ⟨input, encoding⟩ := by
  obtain ⟨body, hmax, hbody, hencoded, hwide, hbytes⟩ := encode_ok hkeyed h
  have hdecoded := decodeBody_compressed hz hbody hmax hwide
  have hlength : ∀ rest, Reads (flagged encoding.flags flagZlib (readDeclaredLength limits))
      (writtenLength input encoding.flags ++ rest)
      (if encoding.flags &&& flagZlib ≠ 0 then some input.length else none) rest := by
    intro rest
    unfold writtenLength
    by_cases hflag : encoding.flags &&& flagZlib ≠ 0
    · rw [if_pos hflag, if_pos hflag]
      exact flagged_on hflag (readDeclaredLength_reads (hwide hflag) hmax rest)
    · rw [if_neg hflag, if_neg hflag]
      exact flagged_off hflag _ rest
  have hkey : ∀ rest, Reads (flagged encoding.flags flagKartCrypto readU32)
      ((encoding.kartCryptoKey.map wordBytes).getD [] ++ rest) encoding.kartCryptoKey rest := by
    intro rest
    cases hkey : encoding.kartCryptoKey with
    | none =>
      refine flagged_off (fun hflag => ?_) _ rest
      have hsome := hkeyed.mpr hflag
      rw [hkey] at hsome
      cases hsome
    | some key => exact flagged_on (hkeyed.mp (by rw [hkey]; rfl)) (readU32_reads key rest)
  have hread : Reads (readBlock zlib limits) bytes ⟨input, encoding⟩
      ((encoding.kartCryptoKey.map (applyKartCrypto body)).getD body) := by
    rw [hbytes]
    unfold readBlock
    refine (readU8_reads encodedMagic _).bind ((readU8_reads encoding.flags _).bind
      ((readU32_reads (hash input 0) _).bind ((hkey _).bind ((hlength _).bind
        (reads_get_bind fun c hc => ?_)))))
    rw [hc]
    dsimp only
    rw [applyKartCrypto_twice]
    refine (reads_liftResult hdecoded _).bind ?_
    rw [if_neg (by simp)]
    exact reads_pure _ _
  unfold decode
  refine bind_eq_ok_iff.mpr ⟨(), enforceLimit_ok.mpr hencoded, ?_⟩
  have hmagic : bytes.head? = some encodedMagic := by
    rw [hbytes]
    rfl
  rw [if_neg (by simp [hmagic])]
  exact hread.scan

/-- Every block that is read has a key exactly when it was enciphered. -/
theorem decode_keyed {block : DecodedBlock} (h : decode zlib input limits = .ok block) :
    Keyed block.encoding := by
  obtain ⟨_, _, h⟩ := bind_eq_ok h
  split at h
  next =>
    obtain ⟨_, _, h⟩ := bind_eq_ok h
    cases h
    have hdefault : Keyed BlockEncoding.default := by
      unfold Keyed
      decide
    exact hdefault
  next =>
    have hflagged : ∀ flags, Ensures (flagged flags flagKartCrypto readU32) fun key =>
        key.isSome = true ↔ flags &&& flagKartCrypto ≠ 0 := by
      intro flags
      unfold flagged
      by_cases hflag : flags &&& flagKartCrypto ≠ 0
      · rw [if_pos hflag]
        exact (ensures_true _).bind fun _ _ => ensures_pure (iff_of_true rfl hflag)
      · rw [if_neg hflag]
        exact ensures_pure (iff_of_false (by simp) hflag)
    have hblock : Ensures (readBlock zlib limits) fun block => Keyed block.encoding := by
      refine (ensures_true _).bind fun _ _ => (ensures_true _).bind fun flags _ =>
        (ensures_true _).bind fun _ _ => (hflagged flags).bind fun key hkey =>
          (ensures_true _).bind fun _ _ => (ensures_true _).bind fun _ _ =>
            (ensures_true _).bind fun _ _ => Ensures.unless fun _ => ensures_pure hkey
    exact hblock.scan h

end EncodedBlock

end P4475
