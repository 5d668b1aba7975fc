import P4475.Core.KartBlock
import P4475.Core.Packet
import P4475.Lib.Chunks
import P4475.Lib.Outcome

/-!
# The owner-item packets of a MyRoom

`serialize_owner_item_enchants`, `serialize_owner_items` and `plan_owner_item_packets` of
`p4475-core/src/myroom_protocol.rs`. The planner repeats by hand how the two serializers cut an
inventory into packets. `usize` is that of a 64-bit host; a packet is the bytes written to it.
-/

namespace P4475.MyRoom

open Lib

def ownerItemEnchantName : String := "RmOwnerItemEnchantPacket"
def ownerItemName : String := "RmOwnerItemPacket"

/-- `MYROOM_ITEM_CHUNK_SIZE`. -/
def myroomItemChunkSize : Nat := 26
/-- `NAMED_PACKET_HEADER_LENGTH`. -/
def namedPacketHeaderLength : Nat := 4
/-- `OWNER_ENCHANT_PACKET_OVERHEAD`. -/
def ownerEnchantPacketOverhead : Nat := namedPacketHeaderLength + 4
/-- `OWNER_ITEM_PACKET_OVERHEAD`. -/
def ownerItemPacketOverhead : Nat := namedPacketHeaderLength + 28
/-- `OWNER_TUNE_WIRE_LENGTH`. -/
def ownerTuneWireLength : Nat := 24
/-- `OWNER_KART_WIRE_LENGTH`. -/
def ownerKartWireLength : Nat := 18
/-- `OWNER_PARTS_WIRE_LENGTH`. -/
def ownerPartsWireLength : Nat := 40

structure MyRoomTune where
  itemId : Int16
  serialNumber : Int16
  tune1 : Int16
  tune2 : Int16
  tune3 : Int16
  slot1 : Int16
  count1 : Int16
  slot2 : Int16
  count2 : Int16

structure MyRoomKart where
  kartId : UInt16
  serialNumber : UInt16

structure MyRoomParts where
  itemId : Int16
  serialNumber : Int16
  engine : Int16
  engineGrade : UInt8
  engineValue : Int16
  handle : Int16
  handleGrade : UInt8
  handleValue : Int16
  wheel : Int16
  wheelGrade : UInt8
  wheelValue : Int16
  booster : Int16
  boosterGrade : UInt8
  boosterValue : Int16
  coating : Int16
  tailLamp : Int16

structure MyRoomOwnerItemWirePlan where
  packetCount : Nat
  byteLen : Nat

/-- The one case of `MyRoomProtocolError` that owner items fail with. -/
inductive OwnerItemError
  | itemCollectionTooLarge (field : String) (actual : Nat)

/-! ## Bytes -/

/-- What `write_u16` appends. -/
def u16Bytes (value : UInt16) : List UInt8 := leBytes 2 value.toNat

/-- What `write_i16` appends. -/
def i16Bytes (value : Int16) : List UInt8 := u16Bytes value.toUInt16

/-- What `write_i32` appends. -/
def i32Bytes (value : Int) : List UInt8 := leBytes 4 (twosComplement 4 value)

/-- `PacketWriter::named`. -/
def named (name : String) : List UInt8 := leBytes 4 (hash name.toUTF8.toList 0).toNat

@[simp] theorem length_u16Bytes (value : UInt16) : (u16Bytes value).length = 2 := length_leBytes _ _

@[simp] theorem length_i16Bytes (value : Int16) : (i16Bytes value).length = 2 := length_leBytes _ _

@[simp] theorem length_i32Bytes (value : Int) : (i32Bytes value).length = 4 := length_leBytes _ _

@[simp] theorem length_named (name : String) :
    (named name).length = namedPacketHeaderLength := length_leBytes _ _

/-- The record of a tune in an enchant packet. -/
def MyRoomTune.bytes (tune : MyRoomTune) : List UInt8 :=
  i16Bytes 3 ++ i16Bytes tune.itemId ++ i16Bytes tune.serialNumber ++ i16Bytes 0 ++ i16Bytes 0 ++
    i16Bytes tune.tune1 ++ i16Bytes tune.tune2 ++ i16Bytes tune.tune3 ++ i16Bytes tune.slot1 ++
    i16Bytes tune.count1 ++ i16Bytes tune.slot2 ++ i16Bytes tune.count2

/-- The record of a kart in an owner-item packet. -/
def MyRoomKart.bytes (preventItem : Bool) (kart : MyRoomKart) : List UInt8 :=
  u16Bytes 3 ++ u16Bytes kart.kartId ++ u16Bytes kart.serialNumber ++ u16Bytes 1 ++
    [if preventItem then 1 else 0] ++ [0] ++ i16Bytes (-1) ++ i16Bytes 0 ++ [0] ++ [0] ++ i16Bytes 0

/-- `write_owner_part`. -/
def MyRoomParts.bytes (part : MyRoomParts) : List UInt8 :=
  i16Bytes part.itemId ++ i16Bytes part.serialNumber ++ i16Bytes 0 ++ i16Bytes (-1) ++ i16Bytes 0 ++
    i16Bytes part.engine ++ [part.engineGrade] ++ i16Bytes part.engineValue ++
    i16Bytes part.handle ++ [part.handleGrade] ++ i16Bytes part.handleValue ++
    i16Bytes part.wheel ++ [part.wheelGrade] ++ i16Bytes part.wheelValue ++
    i16Bytes part.booster ++ [part.boosterGrade] ++ i16Bytes part.boosterValue ++
    i16Bytes part.coating ++ [0] ++ i16Bytes 0 ++ i16Bytes part.tailLamp ++ [0] ++ i16Bytes 0

theorem length_tuneBytes (tune : MyRoomTune) : tune.bytes.length = ownerTuneWireLength := by
  simp only [MyRoomTune.bytes, List.length_append, length_i16Bytes]
  rfl

theorem length_kartBytes (preventItem : Bool) (kart : MyRoomKart) :
    (kart.bytes preventItem).length = ownerKartWireLength := by
  simp only [MyRoomKart.bytes, List.length_append, length_i16Bytes, length_u16Bytes,
    List.length_singleton]
  rfl

theorem length_partsBytes (part : MyRoomParts) : part.bytes.length = ownerPartsWireLength := by
  unfold MyRoomParts.bytes ownerPartsWireLength
  simp only [List.length_append, length_i16Bytes, List.length_singleton, Nat.reduceAdd]

/-! ## Counters -/

/-- `i32::try_from`. -/
def i32TryFrom (value : Nat) : Option Int := if value ≤ i32Max then some value else none

/-- `usize::checked_add`. -/
def checkedAdd (a b : Nat) : Option Nat := if a + b ≤ usizeMax then some (a + b) else none

/-- `usize::checked_mul`. -/
def checkedMul (a b : Nat) : Option Nat := if a * b ≤ usizeMax then some (a * b) else none

/-- `usize::saturating_add`. -/
def saturatingAdd (a b : Nat) : Nat := min (a + b) usizeMax

/-- `wire_count`. -/
def wireCount (field : String) (len : Nat) : Except OwnerItemError Int :=
  okOr (.itemCollectionTooLarge field len) (i32TryFrom len)

/-- `wire_chunk_count`. -/
def wireChunkCount (field : String) (len : Nat) : Except OwnerItemError Int :=
  okOr (.itemCollectionTooLarge field len) (i32TryFrom (divCeil len myroomItemChunkSize))

/-- `checked_collection_len`. -/
def checkedCollectionLen (field : String) (len : Nat) : Except OwnerItemError Unit :=
  (wireChunkCount field len).map fun _ => ()

/-- `wire_index`. -/
def wireIndex (field : String) (zeroBasedIndex : Nat) : Except OwnerItemError Int :=
  okOr (.itemCollectionTooLarge field zeroBasedIndex)
    ((checkedAdd zeroBasedIndex 1).bind i32TryFrom)

/-- `checked_wire_collection_len`. -/
def checkedWireCollectionLen (field : String)
    (packetCount packetOverhead recordCount recordWireLength : Nat) :
    Except OwnerItemError Nat :=
  okOr (.itemCollectionTooLarge field recordCount)
    ((checkedMul packetCount packetOverhead).bind fun overhead =>
      (checkedMul recordCount recordWireLength).bind fun records => checkedAdd overhead records)

/-! ## The serializers -/

/-- `serialize_owner_item_enchants`. -/
def serializeOwnerItemEnchants (tunes : List MyRoomTune) :
    Except OwnerItemError (List (List UInt8)) := do
  checkedCollectionLen "tune" tunes.length
  (chunks myroomItemChunkSize tunes).mapM fun chunk => do
    let packet := named ownerItemEnchantName
    let count ← wireCount "tune chunk" chunk.length
    let packet := packet ++ i32Bytes count
    return packet ++ chunk.flatMap MyRoomTune.bytes

/-- The packet of the `index`-th chunk of karts. -/
def serializeKartChunk (preventItem : Bool) (kartChunks allCount : Int) (chunk : List MyRoomKart)
    (index : Nat) : Except OwnerItemError (List UInt8) := do
  let packet := named ownerItemName ++ i32Bytes kartChunks
  let typeIndex ← wireIndex "kart" index
  let packet := packet ++ i32Bytes typeIndex
  let count ← wireCount "kart chunk" chunk.length
  let packet := packet ++ i32Bytes count
  let packet := packet ++ chunk.flatMap (MyRoomKart.bytes preventItem)
  let packet := packet ++ List.replicate 8 0 ++ i32Bytes allCount
  let ordinal ← wireIndex "owner item packet" index
  return packet ++ i32Bytes ordinal

/-- The packet of the `index`-th chunk of parts, after `kartChunkCount` packets of karts. -/
def serializePartsChunk (kartCount partsCount kartChunkCount : Nat) (partsChunks allCount : Int)
    (chunk : List MyRoomParts) (index : Nat) : Except OwnerItemError (List UInt8) := do
  let globalIndex ← okOr (.itemCollectionTooLarge "owner item packet"
    (saturatingAdd kartCount partsCount)) (checkedAdd kartChunkCount index)
  let packet := named ownerItemName ++ i32Bytes partsChunks
  let typeIndex ← wireIndex "parts" index
  let packet := packet ++ i32Bytes typeIndex ++ i32Bytes 0 ++ i32Bytes 0
  let count ← wireCount "parts chunk" chunk.length
  let packet := packet ++ i32Bytes count
  let packet := packet ++ chunk.flatMap MyRoomParts.bytes
  let packet := packet ++ i32Bytes allCount
  let ordinal ← wireIndex "owner item packet" globalIndex
  return packet ++ i32Bytes ordinal

/-- `serialize_owner_items`. -/
def serializeOwnerItems (karts : List MyRoomKart) (parts : List MyRoomParts) (preventItem : Bool) :
    Except OwnerItemError (List (List UInt8)) := do
  checkedCollectionLen "kart" karts.length
  checkedCollectionLen "parts" parts.length
  if karts.isEmpty && parts.isEmpty then
    return [named ownerItemName ++ i32Bytes 1 ++ i32Bytes 1 ++ i32Bytes 0 ++ List.replicate 8 0 ++
      i32Bytes 1 ++ i32Bytes 1]
  let kartChunkCount := divCeil karts.length myroomItemChunkSize
  let partsChunkCount := divCeil parts.length myroomItemChunkSize
  let totalChunkCount ← okOr (.itemCollectionTooLarge "owner item packet"
    (saturatingAdd karts.length parts.length)) (checkedAdd kartChunkCount partsChunkCount)
  let allCount ← wireCount "owner item packet" totalChunkCount
  let kartChunks ← wireChunkCount "kart" karts.length
  let partsChunks ← wireChunkCount "parts" parts.length
  let kartPackets ← (chunks myroomItemChunkSize karts).zipIdx.mapM fun entry =>
    serializeKartChunk preventItem kartChunks allCount entry.1 entry.2
  let partsPackets ← (chunks myroomItemChunkSize parts).zipIdx.mapM fun entry =>
    serializePartsChunk karts.length parts.length kartChunkCount partsChunks allCount
      entry.1 entry.2
  return kartPackets ++ partsPackets

/-! ## The planner -/

/-- `(item_packets, item_bytes)`: the packets and bytes of karts and parts. -/
def planItemPackets (kartCount partsCount : Nat) : Except OwnerItemError (Nat × Nat) := do
  if kartCount = 0 ∧ partsCount = 0 then return (1, ownerItemPacketOverhead)
  let kartPackets := divCeil kartCount myroomItemChunkSize
  let partsPackets := divCeil partsCount myroomItemChunkSize
  let itemPackets ← okOr (.itemCollectionTooLarge "owner item packet"
    (saturatingAdd kartCount partsCount)) (checkedAdd kartPackets partsPackets)
  let _ ← wireCount "owner item packet" itemPackets
  let kartBytes ← checkedWireCollectionLen "kart wire bytes" kartPackets ownerItemPacketOverhead
    kartCount ownerKartWireLength
  let partsBytes ← checkedWireCollectionLen "parts wire bytes" partsPackets ownerItemPacketOverhead
    partsCount ownerPartsWireLength
  let itemBytes ← okOr (.itemCollectionTooLarge "owner item wire bytes"
    (saturatingAdd kartCount partsCount)) (checkedAdd kartBytes partsBytes)
  return (itemPackets, itemBytes)

/-- `plan_owner_item_packets`. -/
def planOwnerItemPackets (tuneCount kartCount partsCount : Nat) :
    Except OwnerItemError MyRoomOwnerItemWirePlan := do
  checkedCollectionLen "tune" tuneCount
  checkedCollectionLen "kart" kartCount
  checkedCollectionLen "parts" partsCount
  let tunePackets := divCeil tuneCount myroomItemChunkSize
  let tuneBytes ← checkedWireCollectionLen "tune wire bytes" tunePackets
    ownerEnchantPacketOverhead tuneCount ownerTuneWireLength
  let items ← planItemPackets kartCount partsCount
  let packetCount ← okOr (.itemCollectionTooLarge "owner item packet"
    (saturatingAdd (saturatingAdd tuneCount kartCount) partsCount))
    (checkedAdd tunePackets items.1)
  let byteLen ← okOr (.itemCollectionTooLarge "owner item wire bytes"
    (saturatingAdd (saturatingAdd tuneCount kartCount) partsCount))
    (checkedAdd tuneBytes items.2)
  return ⟨packetCount, byteLen⟩

end P4475.MyRoom
