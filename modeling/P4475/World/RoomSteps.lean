import P4475.World.Invariant

/-!
# One room of the tables

What a table edit can do to the room of one id, seen from that room: the projection by
which a claim about a room's whole life is proved.
-/

namespace P4475

open Lib ProtocolRoomState

/-- What becomes of a room in one table edit. -/
inductive RoomStep (active : UserNo → Option IdentityBinding) (issued : Option RewardAttemptId)
    (t : ProtocolTables) (id : RoomId) (room : ProtocolRoomState) :
    Option ProtocolRoomState → Prop
  | stay : RoomStep active issued t id room (some room)
  | edit {room' : ProtocolRoomState} (edit : room.RoomEdit issued room') :
      RoomStep active issued t id room (some room')
  | enter {room' : ProtocolRoomState} {userNo : UserNo} {participant : RoomParticipant}
      (lobby : room.phase = .lobby)
      (added : room.addParticipant userNo participant = some room') :
      RoomStep active issued t id room (some room')
  | leave {room' : ProtocolRoomState} {userNo : UserNo}
      (removed : room.removeUser userNo = some room') :
      RoomStep active issued t id room (if room'.removable then none else some room')
  | start {next : ProtocolRoomState} {epoch : GlobalRaceEpoch} {roster : FrozenRaceRoster}
      (lobby : room.phase = .lobby) (racers : room.membersById.entries.length ≠ 0)
      (free : ∀ i m, room.membersById i = some m → t.rewardLanes.lookup m.userNo = none)
      (epoch_ : t.nextRaceEpoch = some epoch) (same : room.SameSeats next)
      (frozen : Freezes active room ⟨id, epoch⟩ roster) :
      RoomStep active issued t id room (some (World.loadingRoom next ⟨id, epoch⟩ roster))
  | abort (loading : room.phase = .loading) :
      RoomStep active issued t id room (some room.abortLoading)
  | finalize {ranking : SettlementRanking} {rewards : List RewardPersistenceEntry}
      {packets : List Packet}
      (ready : room.finalization? = some (.ready ranking rewards packets)) :
      RoomStep active issued t id room
        (if room.isEmpty then none else some (room.finalizeSettlement ranking))

variable {active : UserNo → Option IdentityBinding} {issued : Option RewardAttemptId}
  {t t' : ProtocolTables} {id k : RoomId} {room room' : ProtocolRoomState} {userNo : UserNo}

theorem lookup_putRoom (t : ProtocolTables) (id k : RoomId) (room : ProtocolRoomState) :
    (t.putRoom id room).protocolRooms.lookup k =
      if k = id then some room else t.protocolRooms.lookup k :=
  Map.lookup_insert_ite _ _ _ _

theorem lookup_removeRoom (t : ProtocolTables) (id k : RoomId) :
    (t.removeRoom id).protocolRooms.lookup k =
      if k = id then none else t.protocolRooms.lookup k :=
  Map.lookup_erase_ite _ _ _

/-- Taking a user out, as a replacement of his room. -/
theorem TablesOk.removeUser_lookup (h : TablesOk t) (hp : t.protocolRooms.lookup id = some room)
    (hr : room.removeUser userNo = some room') (k : RoomId) :
    (t.removeUser userNo).1.protocolRooms.lookup k =
      if k = id then (if room'.removable then none else some room')
      else t.protocolRooms.lookup k := by
  have hi : t.protocolRoomByUser.lookup userNo = some id :=
    h.index.mpr ⟨room, hp, mem_of_removeUser hr⟩
  have hp' : (t.dropMembership userNo).protocolRooms.lookup id = some room := hp
  unfold ProtocolTables.removeUser
  simp only [hi, hp', hr, Option.getD_some]
  split
  next =>
    rw [lookup_removeRoom, releaseFence_rooms]
    rfl
  next =>
    rw [lookup_putRoom]
    rfl

/-- A user who is nowhere cannot be taken out. -/
theorem removeUser_absent (hi : t.protocolRoomByUser.lookup userNo = none) :
    (t.removeUser userNo).1 = t := by
  unfold ProtocolTables.removeUser
  rw [hi]

/-- A replacement of one room, seen from the rooms that were there. -/
theorem RoomStep.replace {v : Option ProtocolRoomState}
    (hrooms : ∀ k, t'.protocolRooms.lookup k =
      if k = id then v else t.protocolRooms.lookup k)
    (hp : t.protocolRooms.lookup id = some room) (hstep : RoomStep active issued t id room v)
    (hk : t.protocolRooms.lookup k = some room') :
    RoomStep active issued t k room' (t'.protocolRooms.lookup k) := by
  rw [hrooms]
  split
  next he =>
    subst he
    rw [hp] at hk
    cases hk
    exact hstep
  next =>
    rw [hk]
    exact .stay

/-- **What a table edit does to each room.** -/
theorem TablesOk.roomStep (h : TablesOk t) (e : TableEdit active issued t t')
    (hk : t.protocolRooms.lookup k = some room') :
    RoomStep active issued t k room' (t'.protocolRooms.lookup k) := by
  cases e with
  | ids free =>
    show RoomStep active issued t k room' (t.protocolRooms.lookup k)
    rw [hk]
    exact .stay
  | @room id room next present edit =>
    exact .replace (lookup_putRoom t id · next) present (.edit edit) hk
  | seat present lobby new added =>
    exact .replace (fun _ => Map.lookup_insert_ite _ _ _ _) present (.enter lobby added) hk
  | unseat userNo =>
    cases hi : t.protocolRoomByUser.lookup userNo with
    | none =>
      rw [removeUser_absent hi, hk]
      exact .stay
    | some id =>
      obtain ⟨room, hp, hu⟩ := h.index.mp hi
      obtain ⟨next, hr⟩ := removeUser_isSome hu
      exact .replace (h.removeUser_lookup hp hr) hp (.leave hr) hk
  | @kick id room userNo present lobby member =>
    obtain ⟨next, hr⟩ := removeUser_isSome member
    have hl : next.phase = .lobby := (removeUser_sameRun hr).phase.trans lobby
    refine .replace (v := if next.removable then none else some next) (fun k => ?_) present
      (.leave hr) hk
    unfold World.kickTables
    rw [hr, Option.getD_some, removable_of_lobby hl]
    dsimp only
    split
    next => exact lookup_removeRoom _ _ _
    next => exact lookup_putRoom _ _ _ _
  | start present lobby racers free epoch_ same frozen =>
    exact .replace (fun k => lookup_putRoom t _ k _) present
      (.start lobby racers free epoch_ same frozen) hk
  | @abort id room present loading =>
    refine .replace (fun k => ?_) present (.abort loading) hk
    rw [lookup_putRoom, releaseFence_rooms]
  | @finalize id room ranking rewards packets present ready =>
    refine .replace (fun k => ?_) present (.finalize ready) hk
    unfold World.finalizeTables
    dsimp only
    split
    next => rw [lookup_removeRoom, releaseFence_rooms]
    next => rw [lookup_putRoom, releaseFence_rooms]

/-- Only opening makes a room appear. -/
theorem TablesOk.no_room (h : TablesOk t) (e : TableEdit active issued t t')
    (hk : t.protocolRooms.lookup k = none) : t'.protocolRooms.lookup k = none := by
  have key : ∀ {id room} {v : Option ProtocolRoomState}, t.protocolRooms.lookup id = some room →
      (∀ k, t'.protocolRooms.lookup k = if k = id then v else t.protocolRooms.lookup k) →
      t'.protocolRooms.lookup k = none := by
    intro id room v hp hrooms
    rw [hrooms, if_neg, hk]
    rintro rfl
    rw [hk] at hp
    exact absurd hp (by simp)
  cases e with
  | ids free => exact hk
  | @room id room next present edit => exact key present (lookup_putRoom t id · next)
  | seat present lobby new added => exact key present fun _ => Map.lookup_insert_ite _ _ _ _
  | unseat userNo =>
    cases hi : t.protocolRoomByUser.lookup userNo with
    | none => rwa [removeUser_absent hi]
    | some id =>
      obtain ⟨room, hp, hu⟩ := h.index.mp hi
      obtain ⟨next, hr⟩ := removeUser_isSome hu
      exact key hp (h.removeUser_lookup hp hr)
  | @kick id room userNo present lobby member =>
    refine key (v := if ((room.removeUser userNo).getD room).isEmpty then none
      else some ((room.removeUser userNo).getD room)) present fun k => ?_
    unfold World.kickTables
    dsimp only
    split
    next => exact lookup_removeRoom _ _ _
    next => exact lookup_putRoom _ _ _ _
  | start present lobby racers free epoch_ same frozen =>
    exact key present fun k => lookup_putRoom t _ k _
  | @abort id room present loading =>
    refine key (v := some room.abortLoading) present fun k => ?_
    rw [lookup_putRoom, releaseFence_rooms]
  | @finalize id room ranking rewards packets present ready =>
    refine key (v := if room.isEmpty then none
      else some (room.finalizeSettlement ranking)) present fun k => ?_
    unfold World.finalizeTables
    dsimp only
    split
    next => rw [lookup_removeRoom, releaseFence_rooms]
    next => rw [lookup_putRoom, releaseFence_rooms]

end P4475
