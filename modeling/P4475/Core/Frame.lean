import P4475.Core.Crypto

/-!
# Encrypted frames

The framing of `p4475-core/src/frame.rs`: a header that declares the length of the body,
the transformed payload and a checksum, all under an initialization vector that both
ends advance once a frame. Either end keeps its vector when it fails.
-/

namespace P4475

open Lib Crypto

/-- `HEADER_XOR`. -/
def headerXor : UInt32 := 4164199944

/-- `CHECKSUM_XOR`. -/
def checksumXor : UInt32 := 3388492432

/-- `IV_INCREMENT`. -/
def ivIncrement : UInt32 := 21446425

inductive FrameError
  | payloadTooLarge (length maximum : Nat)
  | payloadLengthOverflow
  | truncated (expected actual : Nat)
  | invalidEncryptedLength (declared : UInt32)
  | lengthMismatch (expected actual : Nat)
  | checksumMismatch
  deriving DecidableEq

/-- `advance_iv`. -/
def advanceIv (iv : UInt32) : UInt32 :=
  let next := iv + ivIncrement
  if next = 0 then 1 else next

/-- `validate_payload_length`. -/
def validatePayloadLength (length maximum : Nat) : Except FrameError Unit :=
  if maximum < length then .error (.payloadTooLarge length maximum) else .ok ()

/-- `encrypted_body_length`. -/
def encryptedBodyLength (encodedHeader iv : UInt32) (maximum : Nat) : Except FrameError Nat :=
  let declared := iv ^^^ encodedHeader ^^^ headerXor
  if declared.toNat < 4 then .error (.invalidEncryptedLength declared)
  else
    match validatePayloadLength (declared.toNat - 4) maximum with
    | .error e => .error e
    | .ok () => .ok declared.toNat

/-- The body of `encode_encrypted` once the payload's length is checked. -/
def encryptedFrame (payload : List UInt8) (iv : UInt32) : List UInt8 :=
  let encrypted := encryptInPlace payload iv
  wordBytes (iv ^^^ UInt32.ofNat (payload.length + 4) ^^^ headerXor) ++ encrypted.1 ++
    wordBytes (iv ^^^ encrypted.2 ^^^ checksumXor)

/-- `encode_encrypted`, with the vector it leaves. -/
def encodeEncrypted (payload : List UInt8) (iv : UInt32) (maximum : Nat) :
    Except FrameError (List UInt8) × UInt32 :=
  match validatePayloadLength payload.length maximum with
  | .error e => (.error e, iv)
  | .ok () =>
    if u32Max < payload.length + 4 then (.error .payloadLengthOverflow, iv)
    else (.ok (encryptedFrame payload iv), advanceIv iv)

/-- `decode_encrypted`, with the vector it leaves. -/
def decodeEncrypted (frame : List UInt8) (iv : UInt32) (maximum : Nat) :
    Except FrameError (List UInt8) × UInt32 :=
  if frame.length < 4 then (.error (.truncated 4 frame.length), iv)
  else
    match encryptedBodyLength (readWord (frame.take 4)) iv maximum with
    | .error e => (.error e, iv)
    | .ok bodyLength =>
      if frame.length ≠ bodyLength + 4 then
        (.error (.lengthMismatch (bodyLength + 4) frame.length), iv)
      else
        let body := frame.drop 4
        let decrypted := decryptInPlace (body.take (bodyLength - 4)) iv
        let encodedChecksum := readWord (body.drop (bodyLength - 4))
        if decrypted.2 ≠ iv ^^^ encodedChecksum ^^^ checksumXor then
          (.error .checksumMismatch, iv)
        else (.ok decrypted.1, advanceIv iv)

/-- Encode payloads in order, with the vector after each. -/
def encodeAll (maximum : Nat) :
    List (List UInt8) → UInt32 → Except FrameError (List (List UInt8 × UInt32))
  | [], _ => .ok []
  | payload :: rest, iv =>
    match encodeEncrypted payload iv maximum with
    | (.error e, _) => .error e
    | (.ok frame, iv) => (encodeAll maximum rest iv).map ((frame, iv) :: ·)

/-- Decode frames in order, with the vector after each. -/
def decodeAll (maximum : Nat) :
    List (List UInt8) → UInt32 → Except FrameError (List (List UInt8 × UInt32))
  | [], _ => .ok []
  | frame :: rest, iv =>
    match decodeEncrypted frame iv maximum with
    | (.error e, _) => .error e
    | (.ok payload, iv) => (decodeAll maximum rest iv).map ((payload, iv) :: ·)

/-! ## One frame -/

variable {payload frame : List UInt8} {iv : UInt32} {maximum : Nat}

theorem advanceIv_ne_zero (iv : UInt32) : advanceIv iv ≠ 0 := by
  unfold advanceIv
  dsimp only
  split
  next => decide
  next h => exact h

theorem encodeEncrypted_of_fits (hm : payload.length ≤ maximum)
    (hl : payload.length + 4 ≤ u32Max) :
    encodeEncrypted payload iv maximum = (.ok (encryptedFrame payload iv), advanceIv iv) := by
  unfold encodeEncrypted validatePayloadLength
  rw [if_neg (not_lt.mpr hm)]
  exact if_neg (not_lt.mpr hl)

/-- A payload that the header cannot declare is refused. -/
theorem encodeEncrypted_overflow (hm : payload.length ≤ maximum)
    (hl : u32Max < payload.length + 4) :
    encodeEncrypted payload iv maximum = (.error .payloadLengthOverflow, iv) := by
  unfold encodeEncrypted validatePayloadLength
  rw [if_neg (not_lt.mpr hm)]
  exact if_pos hl

theorem length_encryptedFrame (payload : List UInt8) (iv : UInt32) :
    (encryptedFrame payload iv).length = payload.length + 8 := by
  have hlen : (encryptInPlace payload iv).1.length = payload.length := length_transform ..
  unfold encryptedFrame
  dsimp only
  rw [List.length_append, List.length_append, length_wordBytes, length_wordBytes, hlen]
  omega

/-- The header that a frame carries declares its body. -/
theorem encryptedBodyLength_header (hm : payload.length ≤ maximum)
    (hl : payload.length + 4 ≤ u32Max) :
    encryptedBodyLength (iv ^^^ UInt32.ofNat (payload.length + 4) ^^^ headerXor) iv maximum =
      .ok (payload.length + 4) := by
  have hdeclared : iv ^^^ (iv ^^^ UInt32.ofNat (payload.length + 4) ^^^ headerXor) ^^^ headerXor =
      UInt32.ofNat (payload.length + 4) := by
    rw [UInt32.xor_assoc, UInt32.xor_assoc, UInt32.xor_assoc, UInt32.xor_self, UInt32.xor_zero,
      ← UInt32.xor_assoc, UInt32.xor_self, UInt32.zero_xor]
  have hnat : (UInt32.ofNat (payload.length + 4)).toNat = payload.length + 4 := by
    rw [UInt32.toNat_ofNat', Nat.mod_eq_of_lt]
    unfold u32Max at hl
    omega
  unfold encryptedBodyLength validatePayloadLength
  dsimp only
  rw [hdeclared, hnat, if_neg (by omega), if_neg (by omega)]

/-- The frame of a payload decodes to it, under any maximum that the payload meets. -/
theorem decodeEncrypted_frame (hm : payload.length ≤ maximum)
    (hl : payload.length + 4 ≤ u32Max) :
    decodeEncrypted (encryptedFrame payload iv) iv maximum = (.ok payload, advanceIv iv) := by
  have hlen : (encryptInPlace payload iv).1.length = payload.length := length_transform ..
  have hframe := length_encryptedFrame payload iv
  have hchecksum : iv ^^^ (iv ^^^ (encryptInPlace payload iv).2 ^^^ checksumXor) ^^^ checksumXor =
      (encryptInPlace payload iv).2 := by
    rw [UInt32.xor_assoc, UInt32.xor_assoc, UInt32.xor_assoc, UInt32.xor_self, UInt32.xor_zero,
      ← UInt32.xor_assoc, UInt32.xor_self, UInt32.zero_xor]
  unfold decodeEncrypted
  rw [if_neg (by omega), hframe]
  unfold encryptedFrame
  dsimp only
  rw [List.append_assoc, List.take_left' (length_wordBytes _), readWord_wordBytes,
    encryptedBodyLength_header hm hl]
  dsimp only
  rw [if_neg (by omega), List.drop_left' (length_wordBytes _), Nat.add_sub_cancel,
    List.take_left' hlen, List.drop_left' hlen, decrypt_encrypt, readWord_wordBytes, hchecksum]
  exact if_neg fun h => h rfl

/-- What a frame that decodes looks like: its header declares its length. -/
theorem decodeEncrypted_ok {next : UInt32}
    (h : decodeEncrypted frame iv maximum = (.ok payload, next)) :
    next = advanceIv iv ∧ payload.length ≤ maximum ∧ frame.length = payload.length + 8 ∧
      (iv ^^^ readWord (frame.take 4) ^^^ headerXor).toNat = payload.length + 4 := by
  unfold decodeEncrypted at h
  split at h
  next => exact absurd h (by simp)
  next hshort =>
    split at h
    next => exact absurd h (by simp)
    next bodyLength hbody =>
      split at h
      next => exact absurd h (by simp)
      next hlen =>
        dsimp only at h
        split at h
        next => exact absurd h (by simp)
        next =>
          have hlen' : frame.length = bodyLength + 4 := not_not.mp hlen
          obtain ⟨hp, hn⟩ := Prod.mk.inj h
          have hpayload : payload.length = bodyLength - 4 := by
            have hcount : ((frame.drop 4).take (bodyLength - 4)).length = bodyLength - 4 := by
              rw [List.length_take, List.length_drop]
              omega
            rw [← Except.ok.inj hp]
            exact (length_transform ..).trans hcount
          unfold encryptedBodyLength validatePayloadLength at hbody
          dsimp only at hbody
          split at hbody
          next => exact absurd hbody (by simp)
          next hfour =>
            split at hbody
            next => exact absurd hbody (by simp)
            next hmax =>
              rw [Except.ok.injEq] at hbody
              split at hmax
              next => exact absurd hmax (by simp)
              next => exact ⟨hn.symm, by omega, by omega, by omega⟩

/-- A frame that does not decode leaves the vector where it was. -/
theorem decodeEncrypted_error {e : FrameError} {next : UInt32}
    (h : decodeEncrypted frame iv maximum = (.error e, next)) : next = iv := by
  unfold decodeEncrypted at h
  split at h
  next => exact (Prod.mk.inj h).2.symm
  next =>
    split at h
    next => exact (Prod.mk.inj h).2.symm
    next =>
      split at h
      next => exact (Prod.mk.inj h).2.symm
      next =>
        dsimp only at h
        split at h
        next => exact (Prod.mk.inj h).2.symm
        next => exact absurd h (by simp)

/-! ## A stream of frames -/

/-- The vectors of a stream, after each of its frames. -/
def advances : Nat → UInt32 → List UInt32
  | 0, _ => []
  | count + 1, iv => advanceIv iv :: advances count (advanceIv iv)

/-- The frames of some payloads, each under its own vector. -/
theorem roundTrip_all {payloads : List (List UInt8)}
    (h : ∀ payload ∈ payloads, payload.length ≤ maximum ∧ payload.length + 4 ≤ u32Max)
    (iv : UInt32) : ∃ sent, encodeAll maximum payloads iv = .ok sent ∧
      decodeAll maximum (sent.map Prod.fst) iv = .ok (payloads.zip (sent.map Prod.snd)) ∧
      sent.map Prod.snd = advances payloads.length iv := by
  induction payloads generalizing iv with
  | nil => exact ⟨[], rfl, rfl, rfl⟩
  | cons payload rest ih =>
    obtain ⟨hm, hl⟩ := h payload List.mem_cons_self
    obtain ⟨sent, hsent, hreceived, hivs⟩ :=
      ih (fun p hp => h p (List.mem_cons_of_mem _ hp)) (advanceIv iv)
    refine ⟨(encryptedFrame payload iv, advanceIv iv) :: sent, ?_, ?_, ?_⟩
    · rw [encodeAll, encodeEncrypted_of_fits hm hl]
      dsimp only
      rw [hsent, Except.map]
    · rw [List.map_cons, decodeAll, decodeEncrypted_frame hm hl]
      dsimp only
      rw [hreceived, Except.map, List.map_cons, List.zip_cons_cons]
    · rw [List.map_cons, hivs, List.length_cons, advances]

/-- Whatever is too long for the header is refused, however large the maximum. -/
theorem encodeAll_overflow {payload : List UInt8} (hm : payload.length ≤ maximum)
    (hl : u32Max < payload.length + 4) (rest : List (List UInt8)) (iv : UInt32) :
    encodeAll maximum (payload :: rest) iv = .error .payloadLengthOverflow := by
  rw [encodeAll, encodeEncrypted_overflow hm hl]

/-- A payload of four gigabytes meets a maximum of that size and has no frame. -/
theorem fourGigabytes_refused : ∃ payloads : List (List UInt8), ∃ maximum iv,
    (∀ payload ∈ payloads, payload.length ≤ maximum) ∧
      encodeAll maximum payloads iv = .error .payloadLengthOverflow := by
  obtain ⟨payload, hlen⟩ : ∃ payload : List UInt8, payload.length = u32Max :=
    ⟨List.replicate u32Max 0, List.length_replicate⟩
  refine ⟨[payload], u32Max, 1, fun p hp => ?_, ?_⟩
  · rw [List.mem_singleton.mp hp]
    exact hlen.le
  · exact encodeAll_overflow hlen.le (by omega) [] 1

/-- **Frames in order.** Both ends walk through the same vectors and the receiver reads
what was sent; a failed decode changes nothing, so the right frame still decodes after
it; only the declared length decodes; and no vector is ever advanced to zero. -/
theorem frames_roundTrip (maximum : Nat) :
    (∀ (payloads : List (List UInt8)) (iv : UInt32),
      (∀ payload ∈ payloads, payload.length ≤ maximum ∧ payload.length + 4 ≤ u32Max) →
        ∃ sent, encodeAll maximum payloads iv = .ok sent ∧
          decodeAll maximum (sent.map Prod.fst) iv = .ok (payloads.zip (sent.map Prod.snd))) ∧
    (∀ payload iv, payload.length ≤ maximum → u32Max < payload.length + 4 →
      encodeEncrypted payload iv maximum = (.error .payloadLengthOverflow, iv)) ∧
    (∀ frame iv e, (decodeEncrypted frame iv maximum).1 = .error e →
      (decodeEncrypted frame iv maximum).2 = iv ∧
        ∀ payload, payload.length ≤ maximum → payload.length + 4 ≤ u32Max →
          decodeEncrypted (encryptedFrame payload iv) (decodeEncrypted frame iv maximum).2 maximum =
            (.ok payload, advanceIv iv)) ∧
    (∀ frame iv payload, (decodeEncrypted frame iv maximum).1 = .ok payload →
      frame.length = (iv ^^^ readWord (frame.take 4) ^^^ headerXor).toNat + 4 ∧
        payload.length ≤ maximum ∧ (decodeEncrypted frame iv maximum).2 = advanceIv iv) ∧
    ∀ iv, advanceIv iv ≠ 0 := by
  refine ⟨fun payloads iv h => ?_, fun payload iv hm hl => encodeEncrypted_overflow hm hl,
    fun frame iv e h => ?_, fun frame iv payload h => ?_, advanceIv_ne_zero⟩
  · obtain ⟨sent, hsent, hreceived, -⟩ := roundTrip_all h iv
    exact ⟨sent, hsent, hreceived⟩
  · have hiv : (decodeEncrypted frame iv maximum).2 = iv :=
      decodeEncrypted_error (Prod.ext h rfl)
    refine ⟨hiv, fun payload hm hl => ?_⟩
    rw [hiv]
    exact decodeEncrypted_frame hm hl
  · obtain ⟨hnext, hmax, hlen, hdeclared⟩ := decodeEncrypted_ok (Prod.ext h rfl)
    exact ⟨by omega, hmax, hnext⟩

/-- The chain from an arbitrary vector. -/
example : (encodeAll 8 [[200, 4, 157, 30, 16, 50, 84, 118]] 0x51365136).toOption =
    some [([0x32, 0xf7, 0x02, 0xa9, 0x36, 0x52, 0x18, 0x5b, 0x8a, 0x71, 0xdd, 0xab, 0xa2, 0x30,
      0xce, 0x98], 0x527d904f)] := by
  decide +kernel

end P4475
