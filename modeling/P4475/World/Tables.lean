import Mathlib.Data.Finset.Sort
import P4475.World.State

/-!
# Editing the protocol tables

Removal of a user, the planned room exit that client stages and migrations commit
under a borrow, and the allocation of room ids. Whatever edits more than one table
is here.
-/

namespace P4475

open Lib

namespace ProtocolTables

/-- `release_reward_lanes`. -/
def releaseRewardLanes (t : ProtocolTables) (fence : RaceFence) : ProtocolTables :=
  { t with rewardLanes := Map.retain t.rewardLanes fun _ owned => owned ≠ fence }

/-- `protocol_rooms.insert`. -/
def putRoom (t : ProtocolTables) (id : RoomId) (room : ProtocolRoomState) : ProtocolTables :=
  { t with protocolRooms := t.protocolRooms.insert id room }

/-- Delete a room and give its id back. -/
def removeRoom (t : ProtocolTables) (id : RoomId) : ProtocolTables :=
  { t with
    protocolRooms := t.protocolRooms.erase id
    freeProtocolRoomIds := insert id.get t.freeProtocolRoomIds }

/-- `protocol_room_by_user.remove`. -/
def dropMembership (t : ProtocolTables) (userNo : UserNo) : ProtocolTables :=
  { t with protocolRoomByUser := t.protocolRoomByUser.erase userNo }

/-- Release the lanes of a fence, if there is one. -/
def releaseFence (t : ProtocolTables) : Option RaceFence → ProtocolTables
  | some fence => t.releaseRewardLanes fence
  | none => t

end ProtocolTables

/-- An empty room goes away in the Lobby and while Loading; after that its race
still has to settle. -/
def ProtocolRoomState.removable (room : ProtocolRoomState) : Bool :=
  room.isEmpty && decide (room.phase = .lobby ∨ room.phase = .loading)

/-- The fence whose lanes go with a removable room. -/
def ProtocolRoomState.abortedLoadingFence (room : ProtocolRoomState) : Option RaceFence :=
  if room.phase = .loading then room.raceFence else none

/-- The table part of `remove_protocol_user`, with the room to broadcast. -/
def ProtocolTables.removeUser (t : ProtocolTables) (userNo : UserNo) :
    ProtocolTables × Option ProtocolRoomState :=
  match t.protocolRoomByUser.lookup userNo with
  | none => (t, none)
  | some roomId =>
    let t := t.dropMembership userNo
    match t.protocolRooms.lookup roomId with
    | none => (t, none)
    | some room =>
      let room := (room.removeUser userNo).getD room
      if room.removable then
        ((t.releaseFence room.abortedLoadingFence).removeRoom roomId, none)
      else (t.putRoom roomId room, if room.isEmpty then none else some room)

/-! ## Planned exits -/

structure ProtocolMigrationDelta where
  userNo : UserNo
  roomId : RoomId
  expectedRoom : ProtocolRoomState
  nextRoom : Option ProtocolRoomState
  removeMembership : Bool
  removeRoom : Bool
  abortedLoadingFence : Option RaceFence
  deriving DecidableEq

/-- The check of `ProtocolMigrationDelta::lock`. -/
def ProtocolMigrationDelta.lock (delta : ProtocolMigrationDelta) (t : ProtocolTables) :
    Except WorldError Unit :=
  if t.protocolRoomByUser.lookup delta.userNo = some delta.roomId ∧
      t.protocolRooms.lookup delta.roomId = some delta.expectedRoom then .ok ()
  else .error (.protocolRoomTransitionInconsistent delta.userNo.get)

/-- `ProtocolMigrationCommit::commit`. -/
def ProtocolTables.commitMigration (t : ProtocolTables) (delta : ProtocolMigrationDelta) :
    ProtocolTables :=
  let t := if delta.removeMembership then t.dropMembership delta.userNo else t
  let t :=
    if delta.removeRoom then t.removeRoom delta.roomId
    else
      match delta.nextRoom with
      | some next => t.putRoom delta.roomId next
      | none => t
  t.releaseFence delta.abortedLoadingFence

/-- The lock of an optional delta. -/
def lockDelta (delta : Option ProtocolMigrationDelta) (t : ProtocolTables) :
    Except WorldError Unit :=
  match delta with
  | some delta => delta.lock t
  | none => .ok ()

/-- The commit of an optional delta. -/
def ProtocolTables.commitDelta (t : ProtocolTables) :
    Option ProtocolMigrationDelta → ProtocolTables
  | some delta => t.commitMigration delta
  | none => t

/-- `legacy_p2p_endpoint`. -/
def legacyP2pEndpoint (sourceIp : IpAddr) (reportedPort : Nat) : BitVec 32 × Nat :=
  match sourceIp with
  | .v4 address => (address, reportedPort)
  | .v6 address =>
    if address.toNat / 2 ^ 32 = 0xffff then (.ofNat 32 address.toNat, reportedPort) else (0, 0)

namespace World

variable {H Q P : Type} (env : WorldEnv H Q P)

/-- `plan_protocol_room_exit_from_snapshot`. -/
def planProtocolRoomExitFromSnapshot (w : World H) (userNo : UserNo) (roomId : RoomId)
    (expectedRoom : ProtocolRoomState) :
    Except WorldOperationError (ProtocolMigrationDelta × List OutboundDelivery) :=
  match expectedRoom.removeUser userNo with
  | none => .error (.command (.protocolRoomTransitionInconsistent userNo.get))
  | some nextRoom =>
    let delta : ProtocolMigrationDelta := {
      userNo := userNo
      roomId := roomId
      expectedRoom := expectedRoom
      nextRoom := if nextRoom.removable then none else some nextRoom
      removeMembership := true
      removeRoom := nextRoom.removable
      abortedLoadingFence := if nextRoom.removable then nextRoom.abortedLoadingFence else none }
    if nextRoom.isEmpty then .ok (delta, [])
    else
      match env.wire.serialize (.grSlotData nextRoom.slotData) with
      | .error e => .error (.command (.roomProtocol e))
      | .ok packet => .ok (delta, w.deliveriesForUsers nextRoom.userNos [packet])

/-- `plan_protocol_room_exit`. -/
def planProtocolRoomExit (w : World H) (userNo : UserNo) :
    Except WorldOperationError (Option ProtocolMigrationDelta × List OutboundDelivery) :=
  match w.roomOf? userNo with
  | none => .ok (none, [])
  | some roomId =>
    match w.room? roomId with
    | none => .error (.command (.protocolRoomTransitionInconsistent userNo.get))
    | some room =>
      (w.planProtocolRoomExitFromSnapshot env userNo roomId room).map fun (delta, deliveries) =>
        (some delta, deliveries)

/-- `plan_protocol_migration`. -/
def planProtocolMigration (w : World H) (replacement : IdentityBinding) :
    Except WorldOperationError (Option ProtocolMigrationDelta × List OutboundDelivery) :=
  match w.roomOf? replacement.userNo with
  | none => .ok (none, [])
  | some roomId =>
    match w.room? roomId with
    | none => .error (.command (.protocolRoomTransitionInconsistent replacement.userNo.get))
    | some room =>
      if replacement.channel = some room.settings.channel then
        let endpoint := legacyP2pEndpoint replacement.sourceIp 0
        match room.setP2pEndpoint replacement.userNo endpoint.1 endpoint.2 with
        | none => .error (.command (.protocolRoomTransitionInconsistent replacement.userNo.get))
        | some nextRoom =>
          if nextRoom = room then .ok (none, [])
          else .ok (some {
            userNo := replacement.userNo
            roomId := roomId
            expectedRoom := room
            nextRoom := some nextRoom
            removeMembership := false
            removeRoom := false
            abortedLoadingFence := none }, [])
      else
        (w.planProtocolRoomExitFromSnapshot env replacement.userNo roomId room).map
          fun (delta, deliveries) => (some delta, deliveries)

/-- `remove_protocol_user`. -/
def removeProtocolUser (w : World H) (userNo : UserNo) :
    Except MyRoomLifecycleError (List OutboundDelivery) × World H :=
  let (tables, broadcast) := w.protocol.removeUser userNo
  let w := { w with protocol := tables }
  match broadcast with
  | none => (.ok [], w)
  | some room =>
    match env.wire.serialize (.grSlotData room.slotData) with
    | .error _ => (.error (.panicked
        "validated protocol room state remains serializable after removal"), w)
    | .ok packet => (.ok (w.deliveriesForUsers room.userNos [packet]), w)

/-! ## Room ids -/

/-- A room of either kind has the id. -/
def idTaken (w : World H) (id : RoomId) : Bool :=
  (w.rooms.lookup id).isSome || (w.room? id).isSome

/-- The first loop of `allocate_protocol_room_id`: pop free ids in order until one
is not taken. -/
def takeFreeId (taken : RoomId → Bool) : List Nat → Option RoomId × List Nat
  | [] => (none, [])
  | candidate :: rest =>
    if taken ⟨candidate⟩ then takeFreeId taken rest else (some ⟨candidate⟩, rest)

/-- The second loop of `allocate_protocol_room_id`. -/
def scanIds (taken : RoomId → Bool) : Nat → Nat → Option Nat
  | 0, _ => none
  | n + 1, candidate =>
    if taken ⟨candidate⟩ then scanIds taken n (max ((candidate + 1) % 2 ^ 16) 1)
    else some candidate

/-- `allocate_protocol_room_id`. -/
def allocateProtocolRoomId (w : World H) : Option RoomId × World H :=
  let (free, rest) := takeFreeId w.idTaken (w.protocol.freeProtocolRoomIds.sort (· ≤ ·))
  let w := { w with protocol := { w.protocol with freeProtocolRoomIds := rest.toFinset } }
  match free with
  | some id => (some id, w)
  | none =>
    let start := if w.nextRoomId < 2 ^ 16 ∧ w.nextRoomId ≠ 0 then w.nextRoomId else 1
    match scanIds w.idTaken (2 ^ 16 - 1) start with
    | none => (none, w)
    | some candidate =>
      (some ⟨candidate⟩, { w with
        nextRoomId := if candidate = 2 ^ 16 - 1 then 1 else candidate + 1 })

/-- `free_protocol_room_ids.insert`. -/
def freeRoomId (w : World H) (id : RoomId) : World H :=
  { w with protocol := { w.protocol with
      freeProtocolRoomIds := insert id.get w.protocol.freeProtocolRoomIds } }

end World

end P4475
