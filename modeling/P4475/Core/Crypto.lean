import P4475.Core.Packet

/-!
# The payload transform

`p4475-core/src/crypto.rs`: a keyed exclusive-or over blocks of four words and over the
bytes of a tail, with a checksum of the plaintext on the side. Encryption and decryption
differ in one thing, on which side of the exclusive-or the plaintext stands.
-/

namespace P4475

open Lib

namespace Crypto

/-- `KEY_XORS`. -/
def keyXors : List UInt32 := [347277256, 2361332396, 604215233, 4089260480]

/-- `derived_keys`. -/
def derivedKeys (key : UInt32) : List UInt32 := keyXors.map (key ^^^ ·)

/-- `u32::from_le_bytes`. -/
def readWord (bytes : List UInt8) : UInt32 := UInt32.ofNat (leValue bytes)

/-- `u32::to_le_bytes`. -/
def wordBytes (word : UInt32) : List UInt8 := leBytes 4 word.toNat

/-- `key_stream`. -/
def keyStream (keys : List UInt32) : List UInt8 := keys.flatMap wordBytes

/-- What one side does with a symbol under a key: its output and the plaintext. -/
structure Direction where
  word : (key input : UInt32) → UInt32 × UInt32
  byte : (key input : UInt8) → UInt8 × UInt8

/-- The plaintext comes in. -/
def encryption : Direction where
  word := fun key plaintext => (plaintext ^^^ key, plaintext)
  byte := fun key plaintext => (plaintext ^^^ key, plaintext)

/-- The plaintext goes out. -/
def decryption : Direction where
  word := fun key input => (input ^^^ key, input ^^^ key)
  byte := fun key input => (input ^^^ key, input ^^^ key)

/-- The words of one block, with the checksum so far. -/
def transformBlock (direction : Direction) :
    (keys : List UInt32) → (block : List UInt8) → (checksum : UInt32) → List UInt8 × UInt32
  | [], _, checksum => ([], checksum)
  | key :: keys, block, checksum =>
    let step := direction.word key (readWord (block.take 4))
    let rest := transformBlock direction keys (block.drop 4) (checksum ^^^ step.2)
    (wordBytes step.1 ++ rest.1, rest.2)

/-- `chunks_exact_mut(16)`. -/
def transformBlocks (direction : Direction) (keys : List UInt32) :
    (count : Nat) → (data : List UInt8) → (checksum : UInt32) → List UInt8 × UInt32
  | 0, _, checksum => ([], checksum)
  | count + 1, data, checksum =>
    let block := transformBlock direction keys (data.take 16) checksum
    let rest := transformBlocks direction keys count (data.drop 16) block.2
    (block.1 ++ rest.1, rest.2)

/-- The loop over the tail, which is shorter than the stream. -/
def transformTail (direction : Direction) (stream : List UInt8) :
    (index : Nat) → (data : List UInt8) → (checksum : UInt32) → List UInt8 × UInt32
  | _, [], checksum => ([], checksum)
  | index, byte :: data, checksum =>
    let step := direction.byte (stream.getD index 0) byte
    let rest := transformTail direction stream (index + 1) data
      (checksum ^^^ (step.2.toUInt32 <<< UInt32.ofNat index))
    (step.1 :: rest.1, rest.2)

/-- The transformed data and the checksum of the plaintext. -/
def transform (direction : Direction) (data : List UInt8) (key : UInt32) :
    List UInt8 × UInt32 :=
  let keys := derivedKeys key
  let count := data.length / 16
  let body := transformBlocks direction keys count (data.take (count * 16)) 0
  let tail := transformTail direction (keyStream keys) 0 (data.drop (count * 16)) body.2
  (body.1 ++ tail.1, tail.2)

/-- `encrypt_in_place`. -/
def encryptInPlace (data : List UInt8) (key : UInt32) : List UInt8 × UInt32 :=
  transform encryption data key

/-- `decrypt_in_place`. -/
def decryptInPlace (data : List UInt8) (key : UInt32) : List UInt8 × UInt32 :=
  transform decryption data key

/-! ## Words -/

@[simp] theorem length_wordBytes (word : UInt32) : (wordBytes word).length = 4 :=
  length_leBytes 4 _

@[simp] theorem readWord_wordBytes (word : UInt32) : readWord (wordBytes word) = word := by
  have hword : word.toNat < 256 ^ 4 := word.toNat_lt
  unfold readWord wordBytes
  rw [leValue_leBytes, Nat.mod_eq_of_lt hword, UInt32.ofNat_toNat]

theorem wordBytes_readWord {bytes : List UInt8} (h : bytes.length = 4) :
    wordBytes (readWord bytes) = bytes := by
  have hvalue : leValue bytes < 2 ^ 32 := by
    have hlt := leValue_lt bytes
    rw [h] at hlt
    exact hlt
  unfold readWord wordBytes
  rw [UInt32.toNat_ofNat', Nat.mod_eq_of_lt hvalue, leBytes_of_length h]

/-! ## Lengths -/

variable (direction : Direction)

theorem length_transformBlock (keys : List UInt32) (block : List UInt8) (checksum : UInt32) :
    (transformBlock direction keys block checksum).1.length = 4 * keys.length := by
  induction keys generalizing block checksum with
  | nil => rfl
  | cons key keys ih =>
    rw [transformBlock, List.length_append, length_wordBytes, ih, List.length_cons]
    omega

theorem length_transformBlocks {keys : List UInt32} (hk : keys.length = 4) (count : Nat)
    (data : List UInt8) (checksum : UInt32) :
    (transformBlocks direction keys count data checksum).1.length = count * 16 := by
  induction count generalizing data checksum with
  | zero => simp [transformBlocks]
  | succ count ih =>
    rw [transformBlocks, List.length_append, length_transformBlock, ih, hk]
    omega

theorem length_transformTail (stream : List UInt8) (index : Nat) (data : List UInt8)
    (checksum : UInt32) :
    (transformTail direction stream index data checksum).1.length = data.length := by
  induction data generalizing index checksum with
  | nil => rfl
  | cons byte data ih => rw [transformTail, List.length_cons, ih, List.length_cons]

theorem length_transform (data : List UInt8) (key : UInt32) :
    (transform direction data key).1.length = data.length := by
  unfold transform
  dsimp only
  rw [List.length_append, length_transformBlocks direction rfl, length_transformTail,
    List.length_drop]
  omega

/-! ## Decryption undoes encryption -/

theorem decrypt_block {keys : List UInt32} {block : List UInt8}
    (h : block.length = 4 * keys.length) (checksum : UInt32) :
    transformBlock decryption keys (transformBlock encryption keys block checksum).1 checksum =
      (block, (transformBlock encryption keys block checksum).2) := by
  induction keys generalizing block checksum with
  | nil =>
    cases List.length_eq_zero_iff.mp h
    rfl
  | cons key keys ih =>
    rw [List.length_cons] at h
    have hword : (block.take 4).length = 4 := by
      rw [List.length_take]
      omega
    have hrest : (block.drop 4).length = 4 * keys.length := by
      rw [List.length_drop]
      omega
    have hplain : readWord (block.take 4) ^^^ key ^^^ key = readWord (block.take 4) := by
      rw [UInt32.xor_assoc, UInt32.xor_self, UInt32.xor_zero]
    simp only [transformBlock, encryption, decryption]
    rw [List.take_left' (length_wordBytes _), List.drop_left' (length_wordBytes _),
      readWord_wordBytes, hplain]
    have hih := ih hrest (checksum ^^^ readWord (block.take 4))
    rw [encryption, decryption] at hih
    rw [hih, wordBytes_readWord hword, List.take_append_drop]

theorem decrypt_blocks {keys : List UInt32} (hk : keys.length = 4) {count : Nat}
    {data : List UInt8} (h : data.length = count * 16) (checksum : UInt32) :
    transformBlocks decryption keys count
        (transformBlocks encryption keys count data checksum).1 checksum =
      (data, (transformBlocks encryption keys count data checksum).2) := by
  induction count generalizing data checksum with
  | zero =>
    cases List.length_eq_zero_iff.mp (h.trans (Nat.zero_mul 16))
    rfl
  | succ count ih =>
    have hblock : (data.take 16).length = 4 * keys.length := by
      rw [List.length_take, hk]
      omega
    have hrest : (data.drop 16).length = count * 16 := by
      rw [List.length_drop]
      omega
    have hout : (transformBlock encryption keys (data.take 16) checksum).1.length = 16 := by
      rw [length_transformBlock, hk]
    rw [transformBlocks, transformBlocks]
    dsimp only
    rw [List.take_left' hout, List.drop_left' hout, decrypt_block hblock, ih hrest]
    dsimp only
    rw [List.take_append_drop]

theorem decrypt_tail (stream : List UInt8) (index : Nat) (data : List UInt8)
    (checksum : UInt32) :
    transformTail decryption stream index
        (transformTail encryption stream index data checksum).1 checksum =
      (data, (transformTail encryption stream index data checksum).2) := by
  induction data generalizing index checksum with
  | nil => rfl
  | cons byte data ih =>
    have hplain : byte ^^^ stream.getD index 0 ^^^ stream.getD index 0 = byte := by
      rw [UInt8.xor_assoc, UInt8.xor_self, UInt8.xor_zero]
    have hih := ih (index + 1) (checksum ^^^ (byte.toUInt32 <<< UInt32.ofNat index))
    rw [encryption, decryption] at hih
    simp only [transformTail, encryption, decryption]
    rw [hplain, hih]

/-- **Decryption gives back the payload, and the checksum that encryption gave.** -/
theorem decrypt_encrypt (data : List UInt8) (key : UInt32) :
    decryptInPlace (encryptInPlace data key).1 key = (data, (encryptInPlace data key).2) := by
  have hlen : (transform encryption data key).1.length = data.length := length_transform ..
  have hbody : (data.take (data.length / 16 * 16)).length = data.length / 16 * 16 := by
    rw [List.length_take]
    omega
  have hout : (transformBlocks encryption (derivedKeys key) (data.length / 16)
      (data.take (data.length / 16 * 16)) 0).1.length = data.length / 16 * 16 :=
    length_transformBlocks encryption rfl ..
  unfold decryptInPlace encryptInPlace
  unfold transform at hlen ⊢
  dsimp only at hlen ⊢
  rw [hlen, List.take_left' hout, List.drop_left' hout, decrypt_blocks rfl hbody]
  dsimp only
  rw [decrypt_tail]
  dsimp only
  rw [List.take_append_drop]

end Crypto

end P4475
