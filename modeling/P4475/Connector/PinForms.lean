import P4475.Core.KartBlock
import P4475.Lib.Outcome
import P4475.Lib.Scanning

/-!
# PIN files

`p4475-connector/src/pin.rs` with the parts of `bml.rs`, `encoded_block.rs` and `wire.rs`
under it: the envelope, the checksummed block in it, the payload in two layouts with its
configuration trees, and the patch that points a client at another server. Failures to
reserve memory are left out.
-/

namespace P4475

open Lib Crypto

structure CodecLimits where
  maxPinFileBytes : Nat
  maxEncodedBlockBytes : Nat
  maxDecodedBlockBytes : Nat
  maxStringCodeUnits : Nat
  maxCollectionItems : Nat
  maxBmlDepth : Nat
  maxBmlNodes : Nat
  deriving DecidableEq

/-- `CodecLimits::default`. -/
def CodecLimits.default : CodecLimits where
  maxPinFileBytes := 8 * 1024 * 1024
  maxEncodedBlockBytes := 8 * 1024 * 1024
  maxDecodedBlockBytes := 16 * 1024 * 1024
  maxStringCodeUnits := 32 * 1024
  maxCollectionItems := 4 * 1024
  maxBmlDepth := 32
  maxBmlNodes := 8 * 1024

inductive EncodedBlockError
  | limitExceeded (kind : String) (actual maximum : Nat)
  | truncated (offset needed : Nat)
  | checksumMismatch (expected actual : UInt32)
  | decodedLengthMismatch (expected actual : Nat)
  | zlib (source : String)
  | lengthOverflow
  deriving DecidableEq

inductive PinCodecError
  | limitExceeded (kind : String) (actual maximum : Nat)
  | negativeLength (field : String) (value : Int)
  | truncated (offset needed : Nat)
  | lengthOverflow (kind : String)
  | invalidPinMagic (expected actual : UInt32)
  | wrongProtocol (expected actual : UInt16)
  | missingAuthenticationMethods
  | endpointVerificationFailed
  | storageVerificationFailed
  | duplicateBmlAttribute (key : Text)
  | encodedBlock (error : EncodedBlockError)
  deriving DecidableEq

/-- `enforce_limit` of `wire.rs`. -/
def enforceLimit (kind : String) (actual maximum : Nat) : Except PinCodecError Unit :=
  if maximum < actual then throw (.limitExceeded kind actual maximum) else pure ()

theorem enforceLimit_ok {kind : String} {actual maximum : Nat} {u : Unit} :
    enforceLimit kind actual maximum = .ok u ↔ actual ≤ maximum := by
  unfold enforceLimit
  by_cases h : maximum < actual
  · rw [if_pos h]
    exact iff_of_false (fun he => by cases he) (by omega)
  · rw [if_neg h]
    exact iff_of_true rfl (by omega)

/-! ## Wire forms -/

namespace WireReader

/-- `take`. -/
def take (length : Nat) : Reading PinCodecError (List UInt8) :=
  takeElse (fun reader => .truncated reader.offset length) length

/-- `read_u8`. -/
def readU8 : Reading PinCodecError UInt8 := do
  let bytes ← take 1
  return bytes.headD 0

/-- `read_bool`: only the byte 1 is true. -/
def readBool : Reading PinCodecError Bool := do
  let byte ← readU8
  return byte = 1

/-- `read_u16`. -/
def readU16 : Reading PinCodecError UInt16 := do
  let bytes ← take 2
  return UInt16.ofNat (leValue bytes)

/-- `read_u32`. -/
def readU32 : Reading PinCodecError UInt32 := do
  let bytes ← take 4
  return readWord bytes

/-- `read_i32`. -/
def readI32 : Reading PinCodecError Int := do
  let bytes ← take 4
  return i32FromLeBytes bytes

/-- The first half of `read_count`. -/
def readLength (field : String) : Reading PinCodecError Nat := do
  let signed ← readI32
  if signed < 0 then throw (.negativeLength field signed) else return signed.toNat

/-- `read_count`. -/
def readCount (field : String) (maximum : Nat) : Reading PinCodecError Nat := do
  let count ← readLength field
  liftResult (enforceLimit field count maximum)
  return count

/-- `read_string`: malformed surrogate pairs are replaced. -/
def readString (limits : CodecLimits) : Reading PinCodecError Text := do
  let unitCount ← readCount "UTF-16 string" limits.maxStringCodeUnits
  if usizeMax < unitCount * 2 then throw (.lengthOverflow "UTF-16 string")
  else
    let bytes ← take (unitCount * 2)
    return decodeUtf16Lossy (PacketReader.unitsOf bytes)

end WireReader

namespace WireWriter

variable (maximum : Nat)

/-- `reserve`, without the allocation. -/
def reserve (additional : Nat) (kind : String) : Writing PinCodecError PUnit := do
  let output ← get
  if usizeMax < output.length + additional then throw (.lengthOverflow kind)
  else if maximum < output.length + additional then
    throw (.limitExceeded kind (output.length + additional) maximum)
  else return ⟨⟩

/-- `write_bytes`. -/
def writeBytes (bytes : List UInt8) : Writing PinCodecError PUnit := do
  reserve maximum bytes.length "PIN payload"
  PacketWriter.writeBytes bytes

/-- `write_u8`. -/
def writeU8 (value : UInt8) : Writing PinCodecError PUnit := writeBytes maximum [value]

/-- `write_bool`. -/
def writeBool (value : Bool) : Writing PinCodecError PUnit :=
  writeU8 maximum (if value then 1 else 0)

/-- `write_u16`. -/
def writeU16 (value : UInt16) : Writing PinCodecError PUnit :=
  writeBytes maximum (leBytes 2 value.toNat)

/-- `write_u32`. -/
def writeU32 (value : UInt32) : Writing PinCodecError PUnit := writeBytes maximum (wordBytes value)

/-- `write_i32`. -/
def writeI32 (value : Int) : Writing PinCodecError PUnit :=
  writeBytes maximum (leBytes 4 (twosComplement 4 value))

/-- `write_count`. -/
def writeCount (value : Nat) (field : String) (limit : Nat) : Writing PinCodecError PUnit := do
  liftResult (enforceLimit field value limit)
  if i32Max < value then throw (.lengthOverflow field) else writeI32 maximum value

/-- `write_string`. -/
def writeString (value : Text) (limits : CodecLimits) : Writing PinCodecError PUnit := do
  let unitCount := (encodeUtf16 value).length
  liftResult (enforceLimit "UTF-16 string" unitCount limits.maxStringCodeUnits)
  writeCount maximum unitCount "UTF-16 string" limits.maxStringCodeUnits
  if usizeMax < unitCount * 2 then throw (.lengthOverflow "UTF-16 string")
  else
    reserve maximum (unitCount * 2) "PIN payload"
    (encodeUtf16 value).forM PacketWriter.writeU16

end WireWriter

/-! ## Configuration trees -/

inductive BmlObject
  | object (name value : Text) (attributes : List (Text × Text)) (children : List BmlObject)

namespace BmlObject

def name : BmlObject → Text
  | object name _ _ _ => name

def value : BmlObject → Text
  | object _ value _ _ => value

def attributes : BmlObject → List (Text × Text)
  | object _ _ attributes _ => attributes

def children : BmlObject → List BmlObject
  | object _ _ _ children => children

mutual

/-- Equality of trees. -/
def same : BmlObject → BmlObject → Bool
  | object name value attributes children, object name' value' attributes' children' =>
    decide (name = name' ∧ value = value' ∧ attributes = attributes') && sameAll children children'

def sameAll : List BmlObject → List BmlObject → Bool
  | [], [] => true
  | child :: rest, child' :: rest' => same child child' && sameAll rest rest'
  | _, _ => false

end

mutual

theorem same_iff : (a b : BmlObject) → (same a b = true ↔ a = b)
  | object name value attributes children, object name' value' attributes' children' => by
    rw [same, Bool.and_eq_true, decide_eq_true_eq, sameAll_iff children children', object.injEq]
    simp only [and_assoc]

theorem sameAll_iff : (a b : List BmlObject) → (sameAll a b = true ↔ a = b)
  | [], [] => by simp [sameAll]
  | [], _ :: _ => by simp [sameAll]
  | _ :: _, [] => by simp [sameAll]
  | child :: rest, child' :: rest' => by
    rw [sameAll, Bool.and_eq_true, same_iff child child', sameAll_iff rest rest',
      List.cons.injEq]

end

instance : DecidableEq BmlObject := fun a b => decidable_of_iff (same a b = true) (same_iff a b)

/-- `eq_ignore_ascii_case`. -/
def eqIgnoreAsciiCase (a b : Text) : Bool := a.map Char.toLower = b.map Char.toLower

/-- `remove_direct_children_named`, with the number of those removed. -/
def removeDirectChildrenNamed : BmlObject → (name : Text) → BmlObject × Nat
  | object ownName value attributes children, name =>
    let kept := children.filter fun child => !eqIgnoreAsciiCase child.name name
    (object ownName value attributes kept, children.length - kept.length)

end BmlObject

/-- `BmlBudget::enter`, with the node count it leaves. -/
def enterBml (limits : CodecLimits) (depth nodes : Nat) : Except PinCodecError Nat :=
  if limits.maxBmlDepth < depth then
    throw (.limitExceeded "BML depth" depth limits.maxBmlDepth)
  else if usizeMax < nodes + 1 then throw (.lengthOverflow "BML node count")
  else if limits.maxBmlNodes < nodes + 1 then
    throw (.limitExceeded "BML node count" (nodes + 1) limits.maxBmlNodes)
  else return nodes + 1

theorem enterBml_ok {limits : CodecLimits} {depth nodes next : Nat} :
    enterBml limits depth nodes = .ok next ↔ depth ≤ limits.maxBmlDepth ∧
      nodes + 1 ≤ usizeMax ∧ nodes + 1 ≤ limits.maxBmlNodes ∧ next = nodes + 1 := by
  unfold enterBml
  by_cases hdepth : limits.maxBmlDepth < depth
  · rw [if_pos hdepth]
    exact iff_of_false (fun h => by cases h) fun h => by omega
  · rw [if_neg hdepth]
    by_cases hwide : usizeMax < nodes + 1
    · rw [if_pos hwide]
      exact iff_of_false (fun h => by cases h) fun h => by omega
    · rw [if_neg hwide]
      by_cases hmany : limits.maxBmlNodes < nodes + 1
      · rw [if_pos hmany]
        exact iff_of_false (fun h => by cases h) fun h => by omega
      · rw [if_neg hmany]
        constructor
        · intro h
          exact ⟨by omega, by omega, by omega, (Except.ok.inj h).symm⟩
        · intro h
          exact congrArg Except.ok h.2.2.2.symm

/-- The attribute loop of `read_bml`. -/
def readAttributes (limits : CodecLimits) :
    (count : Nat) → (attributes : List (Text × Text)) → Reading PinCodecError (List (Text × Text))
  | 0, attributes => return attributes
  | count + 1, attributes => do
    let key ← WireReader.readString limits
    if attributes.any fun existing => existing.1 = key then throw (.duplicateBmlAttribute key)
    else
      let value ← WireReader.readString limits
      readAttributes limits count (attributes ++ [(key, value)])

/-- `read_bml`, with the node count it leaves. -/
def readBml (limits : CodecLimits) (depth nodes : Nat) :
    Reading PinCodecError (BmlObject × Nat) :=
  match h : enterBml limits depth nodes with
  | .error e => throw e
  | .ok entered => do
    let name ← WireReader.readString limits
    let value ← WireReader.readString limits
    let attributeCount ← WireReader.readCount "BML attribute count" limits.maxCollectionItems
    let attributes ← readAttributes limits attributeCount []
    let childCount ← WireReader.readCount "BML child count" limits.maxCollectionItems
    if usizeMax < depth + 1 then throw (.lengthOverflow "BML depth")
    else
      let children ← repeatCounting (fun nodes => readBml limits (depth + 1) nodes) childCount
        entered
      return (.object name value attributes children.1, children.2)
termination_by limits.maxBmlDepth + 1 - depth
decreasing_by
  have hdepth := (enterBml_ok.mp h).1
  omega

/-- `read_optional_bml`, with the node count it leaves. -/
def readOptionalBml (limits : CodecLimits) (nodes : Nat) :
    Reading PinCodecError (Option BmlObject × Nat) := do
  let present ← WireReader.readBool
  if present then do
    let bml ← readBml limits 0 nodes
    return (some bml.1, bml.2)
  else return (none, nodes)

/-- One turn of the attribute loop of `write_bml`. -/
def writeBmlAttribute (maximum : Nat) (limits : CodecLimits) (entry : Text × Text) :
    Writing PinCodecError PUnit := do
  WireWriter.writeString maximum entry.1 limits
  WireWriter.writeString maximum entry.2 limits

mutual

/-- `write_bml`, with the node count it leaves. -/
def writeBml (maximum : Nat) (limits : CodecLimits) (depth : Nat) :
    BmlObject → (nodes : Nat) → Writing PinCodecError Nat
  | .object name value attributes children, nodes => do
    let entered ← liftResult (enterBml limits depth nodes)
    WireWriter.writeString maximum name limits
    WireWriter.writeString maximum value limits
    WireWriter.writeCount maximum attributes.length "BML attribute count" limits.maxCollectionItems
    attributes.forM (writeBmlAttribute maximum limits)
    WireWriter.writeCount maximum children.length "BML child count" limits.maxCollectionItems
    if usizeMax < depth + 1 then throw (.lengthOverflow "BML depth")
    else writeBmls maximum limits (depth + 1) children entered

/-- The child loop of `write_bml`. -/
def writeBmls (maximum : Nat) (limits : CodecLimits) (depth : Nat) :
    List BmlObject → (nodes : Nat) → Writing PinCodecError Nat
  | [], nodes => return nodes
  | child :: rest, nodes => do
    let nodes ← writeBml maximum limits depth child nodes
    writeBmls maximum limits depth rest nodes

end

/-- `write_optional_bml`, with the node count it leaves. -/
def writeOptionalBml (maximum : Nat) (limits : CodecLimits) :
    Option BmlObject → (nodes : Nat) → Writing PinCodecError Nat
  | none, nodes => do
    WireWriter.writeBool maximum false
    return nodes
  | some bml, nodes => do
    WireWriter.writeBool maximum true
    writeBml maximum limits 0 bml nodes

end P4475
