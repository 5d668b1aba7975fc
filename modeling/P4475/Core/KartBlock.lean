import P4475.Core.Crypto
import P4475.Lib.Scanning

/-!
# Stored blocks

What the two readers of checksummed blocks share, `p4475-rho5/src/aaa.rs` and
`p4475-connector/src/encoded_block.rs`: an Adler-32 with two sums that start at zero, a
cipher that repeats sixty-four bytes of key, and zlib. Zlib is not under this repository,
so it is a parameter; `Zlib.Lossless` is what both rely on.
-/

namespace P4475

open Lib Crypto

/-- An encoder and a decoder of zlib streams. The decoder stops at `limit` bytes of output
and also says how many bytes of its input it has consumed. -/
structure Zlib where
  compress : List UInt8 → Except String (List UInt8)
  decompress : List UInt8 → (limit : Nat) → Except String (List UInt8 × Nat)

/-- Decompression undoes compression and consumes all of it. -/
def Zlib.Lossless (zlib : Zlib) : Prop :=
  ∀ {plain stored : List UInt8} {limit : Nat}, zlib.compress plain = .ok stored →
    plain.length < limit → zlib.decompress stored limit = .ok (plain, stored.length)

/-- Zlib on one plaintext and its stream; anything else is kept as it is, behind a byte that
starts no stream. -/
def Zlib.known (plaintext stream : List UInt8) : Zlib where
  compress plain := if plain = plaintext then .ok stream else .ok (0 :: plain)
  decompress stored limit :=
    if stored = stream then .ok (plaintext.take limit, stored.length)
    else if stored.head? = some 0 then .ok (stored.tail.take limit, stored.length)
    else .error "corrupt deflate stream"

theorem Zlib.known_lossless {plaintext stream : List UInt8} (h : stream.head? ≠ some 0) :
    (Zlib.known plaintext stream).Lossless := by
  intro plain stored limit hcompress hlimit
  unfold Zlib.known at hcompress ⊢
  dsimp only at hcompress ⊢
  by_cases hplain : plain = plaintext
  · rw [if_pos hplain] at hcompress
    cases hcompress
    rw [if_pos rfl, ← hplain, List.take_of_length_le (by omega)]
  · rw [if_neg hplain] at hcompress
    cases hcompress
    have hkept : (0 :: plain).head? = some (0 : UInt8) := rfl
    have hother : (0 : UInt8) :: plain ≠ stream := fun hsame => h (hsame ▸ hkept)
    rw [if_neg hother, if_pos hkept, List.tail_cons, List.take_of_length_le (by omega)]

/-- A field that is there when the flags have its flag. -/
def flagged {ε α : Type} (flags flag : UInt8) (field : Reading ε α) : Reading ε (Option α) :=
  if flags &&& flag ≠ 0 then do
    let value ← field
    return some value
  else return none

section Flagged

variable {ε α : Type} {flags flag : UInt8} {field : Reading ε α} {input rest : List UInt8}

theorem flagged_on (h : flags &&& flag ≠ 0) {a : α} (hread : Reads field input a rest) :
    Reads (flagged flags flag field) input (some a) rest := by
  unfold flagged
  rw [if_pos h]
  exact hread.bind (reads_pure (some a) rest)

theorem flagged_off (h : ¬ flags &&& flag ≠ 0) (field : Reading ε α) (input : List UInt8) :
    Reads (flagged flags flag field) input none input := by
  unfold flagged
  rw [if_neg h]
  exact reads_pure none input

end Flagged

/-! ## Checksums -/

/-- The loop over the bytes, with both sums. -/
def adlerSums : (a b : UInt32) → List UInt8 → UInt32 × UInt32
  | a, b, [] => (a, b)
  | a, b, byte :: rest =>
    let a := (a + byte.toUInt32) % 65521
    adlerSums a ((b + a) % 65521) rest

/-- `adler32::hash` of `p4475-core`. -/
def hash (bytes : List UInt8) (seed : UInt32) : UInt32 :=
  let sums := adlerSums (seed &&& 0xffff) (seed >>> 16) bytes
  sums.1 ||| sums.2 <<< 16

/-- `legacy::adler32` of `p4475-rho5`. -/
def adler32 (bytes : List UInt8) : UInt32 :=
  let sums := adlerSums 0 0 bytes
  sums.1 ||| sums.2 <<< 16

/-- `packet_hash("PqLogin")`. -/
example : hash [80, 113, 76, 111, 103, 105, 110] 0 = 0x0a8302ba := by decide

/-! ## The cipher -/

/-- Words that step down from the first. -/
def keyWords : (count : Nat) → (word : UInt32) → List UInt32
  | 0, _ => []
  | count + 1, word => word :: keyWords count (word - 0x7b8c043f)

/-- The sixty-four bytes of a key. -/
def expandedKey (key : UInt32) : List UInt8 := (keyWords 16 (key ^^^ 0x8473fbc1)).flatMap wordBytes

/-- The loop over the bytes. -/
def applyKey (expanded data : List UInt8) : List UInt8 :=
  data.mapIdx fun index byte => byte ^^^ expanded.getD (index % 64) 0

/-- `decrypt_data`. -/
def decryptData (data : List UInt8) (key : UInt32) : List UInt8 := applyKey (expandedKey key) data

/-- `apply_kart_crypto`. -/
def applyKartCrypto (bytes : List UInt8) (key : UInt32) : List UInt8 :=
  applyKey (expandedKey key) bytes

@[simp] theorem length_applyKey (expanded data : List UInt8) :
    (applyKey expanded data).length = data.length := List.length_mapIdx

/-- The cipher is its own inverse. -/
theorem applyKey_applyKey (expanded data : List UInt8) :
    applyKey expanded (applyKey expanded data) = data := by
  unfold applyKey
  rw [List.mapIdx_mapIdx]
  have hbyte : ∀ (index : Nat) (byte : UInt8),
      byte ^^^ expanded.getD (index % 64) 0 ^^^ expanded.getD (index % 64) 0 = byte := by
    intro index byte
    rw [UInt8.xor_assoc, UInt8.xor_self, UInt8.xor_zero]
  apply List.ext_getElem
  · exact List.length_mapIdx
  · intro index _ _
    rw [List.getElem_mapIdx]
    exact hbyte index _

end P4475
