import P4475.Core.KartBlock
import P4475.Lib.FirstMatch
import P4475.Lib.Scanning

/-!
# The pack-folder index

`p4475-rho5/src/aaa.rs`: the tree of `aaa.pk`, its bounded binary form, the wrapper around
it, the mounts it declares and the edit that puts one archive into it. Reading and writing
files, and the I/O errors of both, are left out.
-/

namespace P4475

open Lib Crypto

structure AaaLimits where
  maxFileBytes : Nat
  maxPlaintextBytes : Nat
  maxNodes : Nat
  maxDepth : Nat
  maxAttributesPerNode : Nat
  maxChildrenPerNode : Nat
  maxStringUtf16Units : Nat
  deriving DecidableEq

/-- `AaaLimits::default`. -/
def AaaLimits.default : AaaLimits where
  maxFileBytes := 16 * 1024 * 1024
  maxPlaintextBytes := 64 * 1024 * 1024
  maxNodes := 1000000
  maxDepth := 128
  maxAttributesPerNode := 256
  maxChildrenPerNode := 1000000
  maxStringUtf16Units := 16 * 1024

inductive AaaNode
  | node (name text : Text) (attributes : List (Text × Text)) (children : List AaaNode)

inductive AaaError
  | invalidLimit (limit : String)
  | fileTooLarge (actual maximum : Nat)
  | payloadLength (declared actual : Nat)
  | truncated (context : String) (needed remaining : Nat)
  | invalidKrDataMagic (magic : UInt8)
  | invalidKrDataMode (mode : UInt8)
  | negativeValue (context : String) (value : Int)
  | plaintextLength (actual expected : Nat)
  | checksum (actual expected : UInt32)
  | trailingCompressedBytes (consumed stored : Nat)
  | decompression (source : String)
  | compression (source : String)
  | plaintextTooLarge (actual maximum : Nat)
  | tooDeep (maximum : Nat)
  | tooManyNodes (maximum : Nat)
  | countTooLarge (kind : String) (actual maximum : Nat)
  | stringTooLong (actual maximum : Nat)
  | invalidUtf16
  | trailingBinaryXml (remaining : Nat)
  | invalidRoot (name : Text)
  | missingAttribute (node attr : Text)
  | invalidAttribute (node attr value : Text)
  | arithmeticOverflow
  deriving DecidableEq

/-- `validate_limits`. -/
def validateLimits (limits : AaaLimits) : Except AaaError Unit :=
  [("max_file_bytes", limits.maxFileBytes), ("max_plaintext_bytes", limits.maxPlaintextBytes),
    ("max_nodes", limits.maxNodes), ("max_depth", limits.maxDepth),
    ("max_attributes_per_node", limits.maxAttributesPerNode),
    ("max_children_per_node", limits.maxChildrenPerNode),
    ("max_string_utf16_units", limits.maxStringUtf16Units)].forM fun limit =>
      if limit.2 = 0 then throw (.invalidLimit limit.1) else pure ()

/-! ## Nodes -/

namespace AaaNode

def name : AaaNode → Text
  | node name _ _ _ => name

def text : AaaNode → Text
  | node _ text _ _ => text

def attributes : AaaNode → List (Text × Text)
  | node _ _ attributes _ => attributes

def children : AaaNode → List AaaNode
  | node _ _ _ children => children

/-- `AaaNode::new`. -/
def new (name : Text) : AaaNode := node name [] [] []

def withChildren : AaaNode → List AaaNode → AaaNode
  | node name text attributes _, children => node name text attributes children

/-- `attribute`: the value of the first attribute of that name. -/
def attributeValue (n : AaaNode) (name : Text) : Option Text := assocGet name n.attributes

/-- `set_attribute`: the first attribute of that name gets the value, or a new one is
pushed. -/
def setAttribute : AaaNode → (name value : Text) → AaaNode
  | node nodeName text attributes children, name, value =>
    node nodeName text (assocSet name value attributes) children

end AaaNode

/-! ## Reading -/

/-- `check_count`. -/
def checkCount (kind : String) (actual maximum : Nat) : Except AaaError Unit :=
  if maximum < actual then throw (.countTooLarge kind actual maximum) else pure ()

namespace AaaReader

/-- `take`. -/
def take (length : Nat) (context : String) : Reading AaaError (List UInt8) :=
  takeElse (fun reader => .truncated context length reader.remaining.length) length

/-- `u8`. -/
def u8 (context : String) : Reading AaaError UInt8 := do
  let bytes ← take 1 context
  return bytes.headD 0

/-- `u32`. -/
def u32 (context : String) : Reading AaaError UInt32 := do
  let bytes ← take 4 context
  return readWord bytes

/-- `i32`. -/
def i32 (context : String) : Reading AaaError Int := do
  let bytes ← take 4 context
  return i32FromLeBytes bytes

/-- `nonnegative_i32`. -/
def nonnegativeI32 (context : String) : Reading AaaError Nat := do
  let value ← i32 context
  if value < 0 then throw (.negativeValue context value) else return value.toNat

/-- `bounded_count`. -/
def boundedCount (kind : String) (maximum : Nat) : Reading AaaError Nat := do
  let actual ← nonnegativeI32 kind
  liftResult (checkCount kind actual maximum)
  return actual

/-- `String::from_utf16` of the units in some bytes. -/
def decodeText (bytes : List UInt8) : Except AaaError Text :=
  match decodeUtf16 (PacketReader.unitsOf bytes) with
  | none => throw .invalidUtf16
  | some text => return text

/-- `utf16`. -/
def utf16 (maximum : Nat) : Reading AaaError Text := do
  let length ← nonnegativeI32 "UTF-16 string length"
  if maximum < length then throw (.stringTooLong length maximum)
  else if usizeMax < length * 2 then throw .arithmeticOverflow
  else
    let bytes ← take (length * 2) "UTF-16 string"
    liftResult (decodeText bytes)

end AaaReader

/-- The admission of a node by `decode_node` and `encode_node`, with the node count it
leaves. -/
def admitNode (limits : AaaLimits) (depth nodeCount : Nat) : Except AaaError Nat :=
  if limits.maxDepth < depth then throw (.tooDeep limits.maxDepth)
  else if usizeMax < nodeCount + 1 then throw .arithmeticOverflow
  else if limits.maxNodes < nodeCount + 1 then throw (.tooManyNodes limits.maxNodes)
  else return nodeCount + 1

theorem admitNode_ok {limits : AaaLimits} {depth nodeCount next : Nat} :
    admitNode limits depth nodeCount = .ok next ↔
      depth ≤ limits.maxDepth ∧ nodeCount + 1 ≤ usizeMax ∧ nodeCount + 1 ≤ limits.maxNodes ∧
        next = nodeCount + 1 := by
  unfold admitNode
  by_cases hdepth : limits.maxDepth < depth
  · rw [if_pos hdepth]
    exact iff_of_false (by simp [throw, throwThe, MonadExceptOf.throw]) fun h => by omega
  · rw [if_neg hdepth]
    by_cases hwide : usizeMax < nodeCount + 1
    · rw [if_pos hwide]
      exact iff_of_false (by simp [throw, throwThe, MonadExceptOf.throw]) fun h => by omega
    · rw [if_neg hwide]
      by_cases hmany : limits.maxNodes < nodeCount + 1
      · rw [if_pos hmany]
        exact iff_of_false (by simp [throw, throwThe, MonadExceptOf.throw]) fun h => by omega
      · rw [if_neg hmany]
        constructor
        · intro h
          exact ⟨by omega, by omega, by omega, (Except.ok.inj h).symm⟩
        · intro h
          exact congrArg Except.ok h.2.2.2.symm

/-- One turn of the attribute loop of `decode_node`. -/
def decodeAttribute (limits : AaaLimits) : Reading AaaError (Text × Text) := do
  let name ← AaaReader.utf16 limits.maxStringUtf16Units
  let value ← AaaReader.utf16 limits.maxStringUtf16Units
  return (name, value)

/-- `decode_node`, with the node count it leaves. -/
def decodeAaaNode (limits : AaaLimits) (depth nodeCount : Nat) :
    Reading AaaError (AaaNode × Nat) :=
  match h : admitNode limits depth nodeCount with
  | .error e => throw e
  | .ok admitted => do
    let name ← AaaReader.utf16 limits.maxStringUtf16Units
    let text ← AaaReader.utf16 limits.maxStringUtf16Units
    let attributeCount ← AaaReader.boundedCount "attribute" limits.maxAttributesPerNode
    let attributes ← repeatM (decodeAttribute limits) attributeCount
    let childCount ← AaaReader.boundedCount "child" limits.maxChildrenPerNode
    let children ← repeatCounting (fun count => decodeAaaNode limits (depth + 1) count) childCount
      admitted
    return (.node name text attributes children.1, children.2)
termination_by limits.maxDepth + 1 - depth
decreasing_by
  have hdepth := (admitNode_ok.mp h).1
  omega

/-- `decode_binary_xml`. -/
def AaaNode.decodeBinaryXml (bytes : List UInt8) (limits : AaaLimits) :
    Except AaaError AaaNode := do
  validateLimits limits
  if limits.maxPlaintextBytes < bytes.length then
    throw (.plaintextTooLarge bytes.length limits.maxPlaintextBytes)
  else
    scan (do
      let decoded ← decodeAaaNode limits 0 0
      let reader ← get
      if reader.remaining.length ≠ 0 then throw (.trailingBinaryXml reader.remaining.length)
      else return decoded.1) bytes

/-! ## Writing -/

/-- `push_i32`. -/
def pushI32 (value : Nat) : Writing AaaError PUnit :=
  if i32Max < value then throw .arithmeticOverflow else PacketWriter.writeI32 value

/-- `push_utf16`. -/
def pushUtf16 (value : Text) (limits : AaaLimits) : Writing AaaError PUnit :=
  let units := encodeUtf16 value
  if limits.maxStringUtf16Units < units.length then
    throw (.stringTooLong units.length limits.maxStringUtf16Units)
  else do
    pushI32 units.length
    units.forM PacketWriter.writeU16

/-- One turn of the attribute loop of `encode_node`. -/
def encodeAttribute (limits : AaaLimits) (entry : Text × Text) : Writing AaaError PUnit := do
  pushUtf16 entry.1 limits
  pushUtf16 entry.2 limits

mutual

/-- `encode_node`, with the node count it leaves. -/
def encodeAaaNode (limits : AaaLimits) (depth : Nat) :
    AaaNode → (nodeCount : Nat) → Writing AaaError Nat
  | .node name text attributes children, nodeCount => do
    let admitted ← liftResult (admitNode limits depth nodeCount)
    pushUtf16 name limits
    pushUtf16 text limits
    liftResult (checkCount "attribute" attributes.length limits.maxAttributesPerNode)
    pushI32 attributes.length
    attributes.forM (encodeAttribute limits)
    liftResult (checkCount "child" children.length limits.maxChildrenPerNode)
    pushI32 children.length
    encodeAaaNodes limits (depth + 1) children admitted

/-- The child loop of `encode_node`. -/
def encodeAaaNodes (limits : AaaLimits) (depth : Nat) :
    List AaaNode → (nodeCount : Nat) → Writing AaaError Nat
  | [], nodeCount => return nodeCount
  | child :: rest, nodeCount => do
    let nodeCount ← encodeAaaNode limits depth child nodeCount
    encodeAaaNodes limits depth rest nodeCount

end

/-- `encode_binary_xml`. -/
def AaaNode.encodeBinaryXml (n : AaaNode) (limits : AaaLimits) :
    Except AaaError (List UInt8) := do
  validateLimits limits
  let output ← emit (encodeAaaNode limits 0 n 0)
  if limits.maxPlaintextBytes < output.length then
    throw (.plaintextTooLarge output.length limits.maxPlaintextBytes)
  else return output

/-! ## The wrapper -/

/-- `KR_DATA_MAGIC`. -/
def krDataMagic : UInt8 := 0x53

/-- `KR_DATA_COMPRESSED`. -/
def krDataCompressed : UInt8 := 1

/-- `KR_DATA_ENCRYPTED`. -/
def krDataEncrypted : UInt8 := 2

/-- The body of a compressed block in plain. -/
def inflateBody (zlib : Zlib) (limits : AaaLimits) (stored : List UInt8) (expected : Nat) :
    Except AaaError (List UInt8) :=
  if limits.maxPlaintextBytes < expected then
    throw (.plaintextTooLarge expected limits.maxPlaintextBytes)
  else do
    let decoded ← (zlib.decompress stored (min (expected + 1) u64Max)).mapError .decompression
    if decoded.1.length ≠ expected then throw (.plaintextLength decoded.1.length expected)
    else if decoded.2 ≠ stored.length then
      throw (.trailingCompressedBytes decoded.2 stored.length)
    else return decoded.1

/-- The body of `decode_kr_data` in plain. -/
def krDataPlaintext (zlib : Zlib) (limits : AaaLimits) (stored : List UInt8) :
    (expectedPlaintext : Option Nat) → Except AaaError (List UInt8)
  | some expected => inflateBody zlib limits stored expected
  | none =>
    if limits.maxPlaintextBytes < stored.length then
      throw (.plaintextTooLarge stored.length limits.maxPlaintextBytes)
    else return stored

/-- `decode_kr_data`. -/
def decodeKrData (zlib : Zlib) (limits : AaaLimits) : Reading AaaError (List UInt8) := do
  let magic ← AaaReader.u8 "KRData magic"
  if magic ≠ krDataMagic then throw (.invalidKrDataMagic magic)
  else
    let mode ← AaaReader.u8 "KRData mode"
    if mode &&& ~~~(krDataCompressed ||| krDataEncrypted) ≠ 0 then throw (.invalidKrDataMode mode)
    else
      let expectedChecksum ← AaaReader.u32 "KRData checksum"
      let key ← flagged mode krDataEncrypted (AaaReader.u32 "KRData encryption key")
      let expectedPlaintext ← flagged mode krDataCompressed
        (AaaReader.nonnegativeI32 "KRData plaintext length")
      let reader ← get
      let body ← AaaReader.take reader.remaining.length "KRData body"
      let stored := (key.map (decryptData body)).getD body
      let plaintext ← liftResult (krDataPlaintext zlib limits stored expectedPlaintext)
      if adler32 plaintext ≠ expectedChecksum then
        throw (.checksum (adler32 plaintext) expectedChecksum)
      else return plaintext

structure AaaDocument where
  root : AaaNode

namespace AaaDocument

/-- `AaaDocument::decode`. -/
def decode (zlib : Zlib) (bytes : List UInt8) (limits : AaaLimits) :
    Except AaaError AaaDocument := do
  validateLimits limits
  if limits.maxFileBytes < bytes.length then
    throw (.fileTooLarge bytes.length limits.maxFileBytes)
  else
    let payload ← scan (do
      let payloadLength ← AaaReader.nonnegativeI32 "KRData payload length"
      let reader ← get
      if payloadLength ≠ reader.remaining.length then
        throw (.payloadLength payloadLength reader.remaining.length)
      else AaaReader.take payloadLength "KRData payload") bytes
    let plaintext ← scan (decodeKrData zlib limits) payload
    let root ← AaaNode.decodeBinaryXml plaintext limits
    return ⟨root⟩

/-- `AaaDocument::encode`. -/
def encode (zlib : Zlib) (document : AaaDocument) (limits : AaaLimits) :
    Except AaaError (List UInt8) := do
  validateLimits limits
  let plaintext ← document.root.encodeBinaryXml limits
  let compressed ← (zlib.compress plaintext).mapError .compression
  let payloadLength := 1 + 1 + 4 + 4 + compressed.length
  let fileLength := payloadLength + 4
  if usizeMax < payloadLength then throw .arithmeticOverflow
  else if usizeMax < fileLength then throw .arithmeticOverflow
  else if limits.maxFileBytes < fileLength then
    throw (.fileTooLarge fileLength limits.maxFileBytes)
  else
    emit (do
      pushI32 payloadLength
      PacketWriter.writeBytes [krDataMagic]
      PacketWriter.writeBytes [krDataCompressed]
      PacketWriter.writeBytes (wordBytes (adler32 plaintext))
      pushI32 plaintext.length
      PacketWriter.writeBytes compressed)

end AaaDocument

/-! ## Mounts -/

structure AaaRhoFolder where
  name : Text
  fileName : Text
  key : UInt32
  dataHash : UInt32
  mediaSize : UInt64
  deriving DecidableEq

structure AaaRhoMount where
  packPath : List Text
  folder : AaaRhoFolder
  deriving DecidableEq

/-- The node names of the index. -/
def packFolder : Text := "PackFolder".toList

def rhoFolder : Text := "RhoFolder".toList

namespace AaaNode

/-- `required_attribute`. -/
def requiredAttribute (n : AaaNode) (name : Text) : Except AaaError Text :=
  match n.attributeValue name with
  | some value => return value
  | none => throw (.missingAttribute n.name name)

/-- `parse_attribute`. -/
def parseAttribute (n : AaaNode) (name : Text) (maximum : Nat) : Except AaaError Nat := do
  let value ← n.requiredAttribute name
  match parseUnsigned maximum value with
  | some parsed => return parsed
  | none => throw (.invalidAttribute n.name name value)

/-- The mount of a `RhoFolder`. -/
def mount (n : AaaNode) (packPath : List Text) : Except AaaError AaaRhoMount := do
  let name ← n.requiredAttribute "name".toList
  let fileName ← n.requiredAttribute "fileName".toList
  let key ← n.parseAttribute "key".toList u32Max
  let dataHash ← n.parseAttribute "dataHash".toList u32Max
  let mediaSize ← n.parseAttribute "mediaSize".toList u64Max
  return ⟨packPath, name, fileName, UInt32.ofNat key, UInt32.ofNat dataHash, UInt64.ofNat mediaSize⟩

mutual

/-- `collect_rho_mounts`. -/
def collectRhoMounts : AaaNode → (packPath : List Text) → Except AaaError (List AaaRhoMount)
  | node _ _ _ children, packPath => collectChildren children packPath

/-- The loop of `collect_rho_mounts` over the children. -/
def collectChildren : List AaaNode → (packPath : List Text) → Except AaaError (List AaaRhoMount)
  | [], _ => return []
  | child :: rest, packPath => do
    let mounts ← collectChild child packPath
    let others ← collectChildren rest packPath
    return mounts ++ others

/-- One turn of the loop. -/
def collectChild : AaaNode → (packPath : List Text) → Except AaaError (List AaaRhoMount)
  | node childName text attributes children, packPath =>
    let child := node childName text attributes children
    if childName = packFolder then do
      let name ← child.requiredAttribute "name".toList
      collectChildren children (packPath ++ [name])
    else if childName = rhoFolder then do
      let mount ← child.mount packPath
      return [mount]
    else return []

end

end AaaNode

/-- `rho_mounts`. -/
def AaaDocument.rhoMounts (document : AaaDocument) : Except AaaError (List AaaRhoMount) :=
  if document.root.name ≠ packFolder then throw (.invalidRoot document.root.name)
  else document.root.collectRhoMounts []

/-! ## Upserting -/

namespace AaaRhoFolder

/-- The attributes `upsert_rho_folder` sets, in its order. -/
def fields (rho : AaaRhoFolder) : List (Text × Text) :=
  [("name".toList, rho.name), ("fileName".toList, rho.fileName),
    ("key".toList, Nat.toDigits 10 rho.key.toNat),
    ("dataHash".toList, Nat.toDigits 10 rho.dataHash.toNat),
    ("mediaSize".toList, Nat.toDigits 10 rho.mediaSize.toNat)]

/-- Whether a child is the entry that `upsert_rho_folder` looks for. -/
def isEntry (rho : AaaRhoFolder) (child : AaaNode) : Bool :=
  child.name = rhoFolder ∧ (child.attributeValue "fileName".toList = some rho.fileName ∨
    (rho.name ≠ [] ∧ child.attributeValue "name".toList = some rho.name))

/-- The assignments of `upsert_rho_folder` to its entry. -/
def assign (rho : AaaRhoFolder) (entry : AaaNode) : AaaNode :=
  rho.fields.foldl (fun n field => n.setAttribute field.1 field.2) entry

end AaaRhoFolder

/-- Whether a child is the folder a path goes on in. -/
def isFolder (component : Text) (child : AaaNode) : Bool :=
  child.name = packFolder ∧ child.attributeValue "name".toList = some component

/-- A new `PackFolder`. -/
def newFolder (component : Text) : AaaNode :=
  (AaaNode.new packFolder).setAttribute "name".toList component

/-- The descent of `upsert_rho_folder` along a path, and its edit at the end of it. -/
def AaaNode.upsert (rho : AaaRhoFolder) : (packPath : List Text) → AaaNode → AaaNode
  | [], current =>
    current.withChildren (editFirst rho.isEntry rho.assign (AaaNode.new rhoFolder) current.children)
  | component :: rest, current =>
    current.withChildren (editFirst (isFolder component) (AaaNode.upsert rho rest)
      (newFolder component) current.children)

/-- `upsert_rho_folder`. -/
def AaaDocument.upsertRhoFolder (document : AaaDocument) (packPath : List Text)
    (rho : AaaRhoFolder) : Except AaaError AaaDocument :=
  if document.root.name ≠ packFolder then throw (.invalidRoot document.root.name)
  else return ⟨document.root.upsert rho packPath⟩

end P4475
