import P4475.World.Edits

/-!
# Room ids

Protocol rooms and plain rooms share their ids. `RoomIdsOk` says what the free set and the two
room tables owe to each other, and the lemmas here are one for each way in which they change: a
room is opened, edited or removed, an id is taken or given back. An allocation pops free ids and
then goes round all ids from the cursor, so it fails only when every id is in use.
-/

namespace P4475

open Lib

/-- Which keys a table of rooms has, and the free ids. -/
inductive IdsMove (t t' : ProtocolTables) : Prop
  | same (free : t'.freeProtocolRoomIds = t.freeProtocolRoomIds)
      (rooms : ∀ id, (t'.protocolRooms.lookup id).isSome = (t.protocolRooms.lookup id).isSome)
  | vacates {id : RoomId} (present : (t.protocolRooms.lookup id).isSome = true)
      (free : t'.freeProtocolRoomIds = insert id.get t.freeProtocolRoomIds)
      (gone : (t'.protocolRooms.lookup id).isSome = false)
      (rooms : ∀ id', (t'.protocolRooms.lookup id').isSome = true →
        (t.protocolRooms.lookup id').isSome = true)

namespace IdsMove

variable {t t' : ProtocolTables} {id : RoomId} {room : ProtocolRoomState}

theorem refl (t : ProtocolTables) : IdsMove t t := .same rfl fun _ => rfl

/-- A room edited in place. -/
theorem put (t : ProtocolTables) (next : ProtocolRoomState)
    (h : t.protocolRooms.lookup id = some room) (hfree : t'.freeProtocolRoomIds =
      t.freeProtocolRoomIds) (hrooms : t'.protocolRooms = t.protocolRooms.insert id next) :
    IdsMove t t' := by
  refine .same hfree fun id' => ?_
  rw [hrooms, Map.lookup_insert_ite]
  split
  next he => rw [he, h, Option.isSome_some, Option.isSome_some]
  next => rfl

/-- A room removed. -/
theorem remove (h : t.protocolRooms.lookup id = some room) (hfree : t'.freeProtocolRoomIds =
      insert id.get t.freeProtocolRoomIds) (hrooms : t'.protocolRooms = t.protocolRooms.erase id) :
    IdsMove t t' := by
  apply IdsMove.vacates ?_ hfree ?_ fun id' hs => ?_
  · rw [h, Option.isSome_some]
  · rw [hrooms, Finmap.lookup_erase, Option.isSome_none]
  · rw [hrooms, Map.lookup_erase_ite] at hs
    split at hs
    next => cases hs
    next => exact hs

theorem removeUser (t : ProtocolTables) (userNo : UserNo) : IdsMove t (t.removeUser userNo).1 := by
  unfold ProtocolTables.removeUser
  split
  next => exact .refl t
  next roomId _ =>
    dsimp only
    split
    next => exact .same rfl fun _ => rfl
    next room hr =>
      have hroom : t.protocolRooms.lookup roomId = some room := hr
      split
      next =>
        have hfence : ∀ fence : Option RaceFence,
            ((t.dropMembership userNo).releaseFence fence).protocolRooms = t.protocolRooms ∧
            ((t.dropMembership userNo).releaseFence fence).freeProtocolRoomIds =
              t.freeProtocolRoomIds := by
          intro fence
          cases fence with
          | none => exact ⟨rfl, rfl⟩
          | some fence => exact ⟨rfl, rfl⟩
        obtain ⟨hrooms, hfree⟩ :=
          hfence ((room.removeUser userNo).getD room).abortedLoadingFence
        refine .remove hroom ?_ ?_
        · show insert _ _ = _
          rw [hfree]
        · show Finmap.erase _ _ = _
          rw [hrooms]
      next => exact .put t _ hroom rfl rfl

theorem kick (userNo : UserNo) (next : ProtocolRoomState)
    (h : t.protocolRooms.lookup id = some room) :
    IdsMove t (World.kickTables t id userNo next) := by
  unfold World.kickTables
  dsimp only
  split
  next => exact .remove h rfl rfl
  next => exact .put t next h rfl rfl

theorem finalize (ranking : SettlementRanking) (h : t.protocolRooms.lookup id = some room) :
    IdsMove t (World.finalizeTables t id room ranking) := by
  have hfence : (t.releaseFence room.raceFence).protocolRooms = t.protocolRooms ∧
      (t.releaseFence room.raceFence).freeProtocolRoomIds = t.freeProtocolRoomIds := by
    cases room.raceFence with
    | none => exact ⟨rfl, rfl⟩
    | some fence => exact ⟨rfl, rfl⟩
  unfold World.finalizeTables
  dsimp only
  split
  next =>
    refine .remove h ?_ ?_
    · show insert _ _ = _
      rw [hfence.2]
    · show Finmap.erase _ _ = _
      rw [hfence.1]
  next =>
    refine .put t (room.finalizeSettlement ranking) h hfence.2 ?_
    show Finmap.insert _ _ _ = _
    rw [hfence.1]

theorem abort (next : ProtocolRoomState) (fence : Option RaceFence)
    (h : t.protocolRooms.lookup id = some room) :
    IdsMove t ((t.releaseFence fence).putRoom id next) := by
  cases fence with
  | none => exact .put t next h rfl rfl
  | some fence => exact .put t next h rfl rfl

theorem commitMigration {delta : ProtocolMigrationDelta}
    (h : t.protocolRooms.lookup delta.roomId = some room) :
    IdsMove t (t.commitMigration delta) := by
  have hdrop : (if delta.removeMembership then t.dropMembership delta.userNo else t).protocolRooms =
        t.protocolRooms ∧
      (if delta.removeMembership then t.dropMembership delta.userNo else t).freeProtocolRoomIds =
        t.freeProtocolRoomIds := by
    split
    next => exact ⟨rfl, rfl⟩
    next => exact ⟨rfl, rfl⟩
  have hfence : ∀ (t₁ : ProtocolTables) (fence : Option RaceFence),
      (t₁.releaseFence fence).protocolRooms = t₁.protocolRooms ∧
      (t₁.releaseFence fence).freeProtocolRoomIds = t₁.freeProtocolRoomIds := by
    intro t₁ fence
    cases fence with
    | none => exact ⟨rfl, rfl⟩
    | some fence => exact ⟨rfl, rfl⟩
  unfold ProtocolTables.commitMigration
  dsimp only
  split
  next =>
    refine .remove h ?_ ?_
    · rw [(hfence _ _).2]
      show insert _ _ = _
      rw [hdrop.2]
    · rw [(hfence _ _).1]
      show Finmap.erase _ _ = _
      rw [hdrop.1]
  next =>
    split
    next next _ =>
      refine .put t next h ?_ ?_
      · rw [(hfence _ _).2]
        exact hdrop.2
      · rw [(hfence _ _).1]
        show Finmap.insert _ _ _ = _
        rw [hdrop.1]
    next =>
      refine .same ?_ fun id => ?_
      · rw [(hfence _ _).2]
        exact hdrop.2
      · rw [(hfence _ _).1, hdrop.1]

/-- A planned exit or move of a room that its lock has found. -/
theorem commitDelta {delta : Option ProtocolMigrationDelta} (h : lockDelta delta t = .ok ()) :
    IdsMove t (t.commitDelta delta) := by
  cases delta with
  | none => exact .refl t
  | some delta =>
    have hlock : delta.lock t = .ok () := h
    unfold ProtocolMigrationDelta.lock at hlock
    split at hlock
    next hfound => exact commitMigration hfound.2
    next => cases hlock

end IdsMove

namespace World

variable {H : Type} {w w' : World H} {id : RoomId}

/-- An id that a protocol room may have. -/
def isProtocolId (id : RoomId) : Prop := 1 ≤ id.get ∧ id.get ≤ 65535

/-- The free ids are ids that no room has, protocol rooms have ids of theirs, and no id is that of
two rooms. -/
structure RoomIdsOk (w : World H) : Prop where
  free : ∀ n ∈ w.protocol.freeProtocolRoomIds, isProtocolId ⟨n⟩ ∧ w.idTaken ⟨n⟩ = false
  protocol : ∀ id, (w.room? id).isSome = true → isProtocolId id
  apart : ∀ id, (w.room? id).isSome = true → (w.rooms.lookup id).isSome = false

/-- The keys of the plain rooms. -/
def plainIds (w : World H) : RoomId → Bool := fun id => (w.rooms.lookup id).isSome

/-- A plain room edited in place. -/
theorem plainIds_insert {snapshot next : RoomSnapshot} (h : w.rooms.lookup id = some snapshot)
    (hrooms : w'.rooms = w.rooms.insert id next) : w'.plainIds = w.plainIds := by
  funext id'
  unfold plainIds
  rw [hrooms, Map.lookup_insert_ite]
  split
  next he => rw [he, h, Option.isSome_some, Option.isSome_some]
  next => rfl

theorem idTaken_eq_false : w.idTaken id = false ↔
    (w.rooms.lookup id).isSome = false ∧ (w.room? id).isSome = false := by
  unfold idTaken
  exact Bool.or_eq_false_iff

theorem initial_roomIdsOk (hub : H) : (World.initial hub).RoomIdsOk where
  free := fun n hn => absurd hn (Finset.notMem_empty n)
  protocol := fun id h => absurd h (by simp [World.initial, World.room?, ProtocolTables.initial])
  apart := fun id h => absurd h (by simp [World.initial, World.room?, ProtocolTables.initial])

/-- The tables move, and the plain rooms keep their ids. -/
theorem RoomIdsOk.move (h : w.RoomIdsOk) (hm : IdsMove w.protocol w'.protocol)
    (hplain : w'.plainIds = w.plainIds) : w'.RoomIdsOk := by
  have hlookup : ∀ id, (w'.rooms.lookup id).isSome = (w.rooms.lookup id).isSome :=
    fun id => congrFun hplain id
  cases hm with
  | same hfree hrooms =>
    refine ⟨fun n hn => ?_, fun id hs => ?_, fun id hs => ?_⟩
    · rw [hfree] at hn
      obtain ⟨hrange, htaken⟩ := h.free n hn
      obtain ⟨hnot, hnone⟩ := idTaken_eq_false.mp htaken
      exact ⟨hrange, idTaken_eq_false.mpr ⟨(hlookup _).trans hnot, (hrooms _).trans hnone⟩⟩
    · exact h.protocol id ((hrooms id).symm.trans hs)
    · exact (hlookup id).trans (h.apart id ((hrooms id).symm.trans hs))
  | @vacates gone hpresent hfree hgone hrooms =>
    refine ⟨fun n hn => ?_, fun id hs => ?_, fun id hs => ?_⟩
    · rw [hfree] at hn
      rcases Finset.mem_insert.mp hn with rfl | hn
      · -- the room that is gone had an id that a plain room did not have
        exact ⟨h.protocol gone hpresent,
          idTaken_eq_false.mpr ⟨(hlookup gone).trans (h.apart gone hpresent), hgone⟩⟩
      · obtain ⟨hrange, htaken⟩ := h.free n hn
        obtain ⟨hnot, hnone⟩ := idTaken_eq_false.mp htaken
        refine ⟨hrange, idTaken_eq_false.mpr ⟨(hlookup _).trans hnot, ?_⟩⟩
        cases hs : (w'.room? ⟨n⟩).isSome with
        | false => rfl
        | true =>
          rw [show (w.room? ⟨n⟩).isSome = true from hrooms _ hs] at hnone
          cases hnone
    · exact h.protocol id (hrooms id hs)
    · exact (hlookup id).trans (h.apart id (hrooms id hs))

/-- Some free ids are forgotten. -/
theorem RoomIdsOk.forget (h : w.RoomIdsOk)
    (hfree : w'.protocol.freeProtocolRoomIds ⊆ w.protocol.freeProtocolRoomIds)
    (hrooms : w'.protocol.protocolRooms = w.protocol.protocolRooms) (hplain : w'.rooms = w.rooms) :
    w'.RoomIdsOk := by
  have hroom : ∀ id, w'.room? id = w.room? id := fun id => by
    unfold room?
    rw [hrooms]
  refine ⟨fun n hn => ?_, fun id hs => ?_, fun id hs => ?_⟩
  · obtain ⟨hrange, htaken⟩ := h.free n (hfree hn)
    refine ⟨hrange, ?_⟩
    unfold idTaken at htaken ⊢
    rw [hplain, hroom]
    exact htaken
  · exact h.protocol id (by rw [← hroom]; exact hs)
  · rw [hplain]
    exact h.apart id (by rw [← hroom]; exact hs)

/-- An id that no room has goes back. -/
theorem RoomIdsOk.giveBack (h : w.RoomIdsOk) (hrange : isProtocolId id)
    (htaken : w.idTaken id = false) : (w.freeRoomId id).RoomIdsOk := by
  refine ⟨fun n hn => ?_, h.protocol, h.apart⟩
  rcases Finset.mem_insert.mp hn with rfl | hn
  · exact ⟨hrange, htaken⟩
  · exact h.free n hn

/-- A room is opened under an id that was taken from the free ones. -/
theorem RoomIdsOk.opened (h : w.RoomIdsOk) (hrange : isProtocolId id)
    (htaken : w.idTaken id = false) (hfree : id.get ∉ w.protocol.freeProtocolRoomIds)
    (room : ProtocolRoomState) (userNo : UserNo) : (w.admitToRoom id room userNo).RoomIdsOk := by
  have hroom : ∀ id', (w.admitToRoom id room userNo).room? id' =
      if id' = id then some room else w.room? id' := fun id' => Map.lookup_insert_ite _ _ _ _
  refine ⟨fun n hn => ?_, fun id' hs => ?_, fun id' hs => ?_⟩
  · obtain ⟨hn', hnot⟩ := h.free n hn
    have hne : (⟨n⟩ : RoomId) ≠ id := by
      intro he
      rw [← he] at hfree
      exact hfree hn
    refine ⟨hn', ?_⟩
    unfold idTaken at hnot ⊢
    rw [hroom, if_neg hne]
    exact hnot
  · rw [hroom] at hs
    split at hs
    next he => exact he ▸ hrange
    next => exact h.protocol id' hs
  · rw [hroom] at hs
    split at hs
    next he => exact he ▸ (idTaken_eq_false.mp htaken).1
    next => exact h.apart id' hs

/-- Somebody joins a room that is there. -/
theorem RoomIdsOk.join {room : ProtocolRoomState} (h : w.RoomIdsOk) (hr : w.room? id = some room)
    (next : ProtocolRoomState) (userNo : UserNo) : (w.admitToRoom id next userNo).RoomIdsOk :=
  h.move (.put w.protocol next hr rfl rfl) rfl

/-! ## Allocation -/

theorem takeFreeId_some {taken : RoomId → Bool} {ids rest : List Nat}
    (h : takeFreeId taken ids = (some id, rest)) :
    taken id = false ∧ ∃ before, ids = before ++ id.get :: rest := by
  induction ids with
  | nil => exact absurd h (by simp [takeFreeId])
  | cons candidate ids ih =>
    unfold takeFreeId at h
    split at h
    next =>
      obtain ⟨hfree, before, rfl⟩ := ih h
      exact ⟨hfree, candidate :: before, rfl⟩
    next hfree =>
      cases h
      exact ⟨by simpa using hfree, [], rfl⟩

theorem takeFreeId_none {taken : RoomId → Bool} {ids rest : List Nat}
    (h : takeFreeId taken ids = (none, rest)) : rest = [] := by
  induction ids with
  | nil =>
    cases h
    rfl
  | cons candidate ids ih =>
    unfold takeFreeId at h
    split at h
    next => exact ih h
    next => cases h

/-- The `k`-th id of the round that begins at `start`. -/
def idAfter (start k : Nat) : Nat := (start - 1 + k) % 65535 + 1

theorem idAfter_zero {start : Nat} (h : isProtocolId ⟨start⟩) : idAfter start 0 = start := by
  unfold isProtocolId at h
  unfold idAfter
  dsimp only at h
  omega

/-- The successor of the loop, which wraps and leaves out zero. -/
theorem idAfter_succ {start : Nat} (h : isProtocolId ⟨start⟩) (k : Nat) :
    idAfter (max ((start + 1) % 2 ^ 16) 1) k = idAfter start (k + 1) := by
  unfold isProtocolId at h
  unfold idAfter
  dsimp only at h
  omega

theorem isProtocolId_wrapped (candidate : Nat) : isProtocolId ⟨max (candidate % 2 ^ 16) 1⟩ := by
  unfold isProtocolId
  dsimp only
  omega

/-- The round reaches every id. -/
theorem exists_idAfter {start : Nat} (h : isProtocolId ⟨start⟩) (hid : isProtocolId id) :
    ∃ k < 2 ^ 16 - 1, idAfter start k = id.get := by
  unfold isProtocolId at h hid
  dsimp only at h
  refine ⟨(id.get - 1 + 65535 - (start - 1)) % 65535, by omega, ?_⟩
  unfold idAfter
  omega

theorem scanIds_some {taken : RoomId → Bool} {n start candidate : Nat}
    (hstart : isProtocolId ⟨start⟩) (h : scanIds taken n start = some candidate) :
    isProtocolId ⟨candidate⟩ ∧ taken ⟨candidate⟩ = false := by
  induction n generalizing start with
  | zero => exact absurd h (by simp [scanIds])
  | succ n ih =>
    unfold scanIds at h
    split at h
    next => exact ih (isProtocolId_wrapped _) h
    next hfree =>
      cases h
      exact ⟨hstart, by simpa using hfree⟩

theorem scanIds_none {taken : RoomId → Bool} {n start : Nat} (hstart : isProtocolId ⟨start⟩)
    (h : scanIds taken n start = none) : ∀ k < n, taken ⟨idAfter start k⟩ = true := by
  induction n generalizing start with
  | zero =>
    intro k hk
    exact absurd hk (Nat.not_lt_zero k)
  | succ n ih =>
    unfold scanIds at h
    split at h
    next htaken =>
      intro k hk
      cases k with
      | zero =>
        rw [idAfter_zero hstart]
        exact htaken
      | succ k =>
        rw [← idAfter_succ hstart]
        exact ih (isProtocolId_wrapped _) h k (Nat.lt_of_succ_lt_succ hk)
    next => cases h

/-- The cursor, or one where it is no `u16`. -/
theorem start_range (cursor : Nat) :
    isProtocolId ⟨if cursor < 2 ^ 16 ∧ cursor ≠ 0 then cursor else 1⟩ := by
  unfold isProtocolId
  dsimp only
  split
  next h => omega
  next => omega

/-- What an allocation returns and leaves. -/
structure Allocated (w : World H) (result : Option RoomId) (w' : World H) : Prop where
  fresh : ∀ id, result = some id →
    w.idTaken id = false ∧ id.get ∉ w'.protocol.freeProtocolRoomIds
  range : (∀ n ∈ w.protocol.freeProtocolRoomIds, isProtocolId ⟨n⟩) →
    ∀ id, result = some id → isProtocolId id
  exhausted : result = none → ∀ id, isProtocolId id → w.idTaken id = true
  free : w'.protocol.freeProtocolRoomIds ⊆ w.protocol.freeProtocolRoomIds
  frame : ∃ free nextRoomId, w' = { w with
    protocol := { w.protocol with freeProtocolRoomIds := free }, nextRoomId := nextRoomId }

theorem allocateProtocolRoomId_allocated {result : Option RoomId}
    (h : w.allocateProtocolRoomId = (result, w')) : Allocated w result w' := by
  have hmem : ∀ n, n ∈ w.protocol.freeProtocolRoomIds.sort (· ≤ ·) ↔
      n ∈ w.protocol.freeProtocolRoomIds := fun n => Finset.mem_sort _
  have hnodup : (w.protocol.freeProtocolRoomIds.sort (· ≤ ·)).Nodup := Finset.sort_nodup _ _
  unfold allocateProtocolRoomId at h
  rcases ht : takeFreeId w.idTaken (w.protocol.freeProtocolRoomIds.sort (· ≤ ·)) with ⟨free, rest⟩
  rw [ht] at h
  dsimp only at h
  split at h
  next id =>
    cases h
    obtain ⟨hfree, before, hsplit⟩ := takeFreeId_some ht
    rw [hsplit] at hmem hnodup
    refine ⟨fun id' he => ?_, fun hrange id' he => ?_, fun he => (nomatch he), ?_, ⟨_, _, rfl⟩⟩
    · cases he
      refine ⟨hfree, ?_⟩
      show id.get ∉ rest.toFinset
      rw [List.mem_toFinset]
      exact (List.nodup_cons.mp (List.nodup_append.mp hnodup).2.1).1
    · cases he
      exact hrange id.get ((hmem _).mp (by simp))
    · intro n hn
      have hn' : n ∈ rest := List.mem_toFinset.mp hn
      exact (hmem n).mp (by simp [hn'])
  next =>
    have hempty : ∀ n : Nat, n ∉ rest.toFinset := by
      rw [takeFreeId_none ht]
      exact fun n => Finset.notMem_empty n
    have hsubset : rest.toFinset ⊆ w.protocol.freeProtocolRoomIds :=
      fun n hn => absurd hn (hempty n)
    have hstart := start_range w.nextRoomId
    split at h
    next hs =>
      cases h
      refine ⟨fun id he => (nomatch he), fun _ id he => (nomatch he), fun _ id hid => ?_, hsubset,
        ⟨_, _, rfl⟩⟩
      obtain ⟨k, hk, hreach⟩ := exists_idAfter hstart hid
      have htaken := scanIds_none hstart hs k hk
      rw [hreach] at htaken
      exact htaken
    next candidate hs =>
      cases h
      obtain ⟨hrange, hfree⟩ := scanIds_some hstart hs
      refine ⟨fun id he => ?_, fun _ id he => ?_, fun he => (nomatch he), hsubset, ⟨_, _, rfl⟩⟩
      · cases he
        exact ⟨hfree, hempty candidate⟩
      · cases he
        exact hrange

/-- **None is returned exactly when every id is in use.** -/
theorem allocateProtocolRoomId_none_iff (h : w.RoomIdsOk) :
    w.allocateProtocolRoomId.1 = none ↔ ∀ id, isProtocolId id → w.idTaken id = true := by
  have hallocated := allocateProtocolRoomId_allocated (w := w) rfl
  constructor
  · exact hallocated.exhausted
  · intro hall
    cases hresult : w.allocateProtocolRoomId.1 with
    | none => rfl
    | some id =>
      have htaken := hall id (hallocated.range (fun n hn => (h.free n hn).1) id hresult)
      rw [(hallocated.fresh id hresult).1] at htaken
      cases htaken

theorem RoomIdsOk.allocated {result : Option RoomId} (h : w.RoomIdsOk)
    (ha : Allocated w result w') : w'.RoomIdsOk := by
  have hfree := ha.free
  obtain ⟨free, nextRoomId, rfl⟩ := ha.frame
  exact h.forget hfree rfl rfl

/-- Allocation leaves the rooms alone. -/
theorem Allocated.idTaken_eq {result : Option RoomId} (ha : Allocated w result w') (id : RoomId) :
    w'.idTaken id = w.idTaken id := by
  obtain ⟨free, nextRoomId, rfl⟩ := ha.frame
  rfl

/-! ## Plain rooms -/

theorem nextPlainId_free {n start candidate : Nat}
    (h : w.nextPlainId n start = some candidate) : w.idTaken ⟨candidate⟩ = false := by
  induction n generalizing start with
  | zero => exact absurd h (by simp [nextPlainId])
  | succ n ih =>
    unfold nextPlainId at h
    split at h
    next => exact ih h
    next hfree =>
      cases h
      simpa using hfree

/-- A plain room is created: its id was nobody's, and is no longer free. -/
theorem RoomIdsOk.createRoom (h : w.RoomIdsOk) : w.createRoom.2.RoomIdsOk := by
  unfold World.createRoom
  split
  next => exact h
  next candidate hnext =>
    obtain ⟨-, hnone⟩ := idTaken_eq_false.mp (nextPlainId_free hnext)
    refine ⟨fun n hn => ?_, h.protocol, fun id hs => ?_⟩
    · obtain ⟨hne, hn⟩ := Finset.mem_erase.mp hn
      obtain ⟨hrange, htaken⟩ := h.free n hn
      obtain ⟨hplain, hroom⟩ := idTaken_eq_false.mp htaken
      refine ⟨hrange, idTaken_eq_false.mpr ⟨?_, hroom⟩⟩
      show ((w.rooms.insert ⟨candidate⟩ _).lookup ⟨n⟩).isSome = false
      rw [Map.lookup_insert_ite, if_neg (fun he => hne (congrArg RoomId.get he))]
      exact hplain
    · show ((w.rooms.insert ⟨candidate⟩ _).lookup id).isSome = false
      rw [Map.lookup_insert_ite]
      split
      next he =>
        subst he
        rw [show (w.room? ⟨candidate⟩).isSome = true from hs] at hnone
        cases hnone
      next => exact h.apart id hs

end World

end P4475
