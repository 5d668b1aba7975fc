import P4475.Messenger.Hub

/-!
# Rooms and their index

What the walks over rooms compute, and that they keep the rooms and their index
consistent. A removal takes one member out of each room that has it, a generation advance
replaces one; both are stated room by room, so that the order of a walk is gone from
everything after this file.
-/

namespace P4475.Messenger

open Lib Lib.Index

/-! ## Members -/

namespace MessengerRoom

/-- The room without an identity's stamp; gone if nobody is left. -/
def without (room : MessengerRoom) (identity : MessengerIdentity) : Option MessengerRoom :=
  let kept := room.members.filter fun member => !identityStampMatches member identity
  if kept = [] then none else some { members := kept }

/-- The room with one stamp moved to another identity. -/
def moved (room : MessengerRoom) (previous next : MessengerIdentity) : MessengerRoom where
  members := room.members.map fun member =>
    if member.stamp = previous.stamp then next else member

variable {room room' : MessengerRoom} {identity previous next member : MessengerIdentity}

theorem mem_keys {key : Text} : key ∈ room.keys ↔ ∃ member ∈ room.members, member.key = key := by
  unfold keys
  rw [List.mem_map]

/-- Members with one key are one member. -/
theorem member_unique (hnd : room.keys.Nodup) {m m' : MessengerIdentity} (hm : m ∈ room.members)
    (hm' : m' ∈ room.members) (hk : m.key = m'.key) : m = m' :=
  List.inj_on_of_nodup_map hnd hm hm' hk

theorem mem_without (h : room.without identity = some room') :
    member ∈ room'.members ↔ member ∈ room.members ∧ member.stamp ≠ identity.stamp := by
  unfold without at h
  dsimp only at h
  split at h
  · exact absurd h (by simp)
  · cases h
    simp [← identityStampMatches_iff]

theorem without_eq_none (h : room.without identity = none) (hm : member ∈ room.members) :
    member.stamp = identity.stamp := by
  unfold without at h
  dsimp only at h
  split at h
  next hempty =>
    have hkept := (List.filter_eq_nil_iff.mp hempty) member hm
    simpa using hkept
  next => exact absurd h (by simp)

/-- Nothing happens to a room that does not have the stamp. -/
theorem without_of_absent (hne : room.members ≠ [])
    (h : ∀ member ∈ room.members, member.stamp ≠ identity.stamp) :
    room.without identity = some room := by
  have hkept : (room.members.filter fun member => !identityStampMatches member identity)
      = room.members := by
    apply List.filter_eq_self.mpr
    intro member hm
    simp [← Bool.not_eq_true, h member hm]
  unfold without
  dsimp only
  rw [hkept, if_neg hne]

theorem moved_of_absent (h : ∀ member ∈ room.members, member.stamp ≠ previous.stamp) :
    room.moved previous next = room := by
  have hmap : (room.members.map fun member =>
      if member.stamp = previous.stamp then next else member) = room.members := by
    conv_rhs => rw [← List.map_id room.members]
    apply List.map_congr_left
    intro member hm
    rw [if_neg (h member hm)]
    rfl
  unfold moved
  rw [hmap]

@[simp] theorem keys_moved (hk : previous.key = next.key) :
    (room.moved previous next).keys = room.keys := by
  unfold moved keys
  rw [List.map_map]
  apply List.map_congr_left
  intro member _
  rw [Function.comp_apply]
  split
  next h => rw [← hk, key_of_stamp h]
  next => rfl

theorem mem_moved : member ∈ (room.moved previous next).members ↔
    (member = next ∧ ∃ m ∈ room.members, m.stamp = previous.stamp) ∨
      member ∈ room.members ∧ member.stamp ≠ previous.stamp := by
  unfold moved
  rw [List.mem_map]
  constructor
  · rintro ⟨m, hm, rfl⟩
    by_cases h : m.stamp = previous.stamp
    · rw [if_pos h]
      exact .inl ⟨rfl, m, hm, h⟩
    · rw [if_neg h]
      exact .inr ⟨hm, h⟩
  · rintro (⟨rfl, m, hm, h⟩ | ⟨hm, h⟩)
    · exact ⟨m, hm, if_pos h⟩
    · exact ⟨member, hm, if_neg h⟩

end MessengerRoom

/-- Where a stamp can be found only once, taking out the first is taking out all. -/
theorem eraseIdx_eq_filter {members : List MessengerIdentity} {identity : MessengerIdentity}
    {index : Nat} (hnd : (members.map (·.key)).Nodup)
    (h : members.findIdx? (identityStampMatches · identity) = some index) :
    members.eraseIdx index
      = members.filter fun member => !identityStampMatches member identity := by
  induction members generalizing index with
  | nil => exact absurd h (by simp)
  | cons member rest ih =>
    rw [List.map_cons, List.nodup_cons] at hnd
    rw [List.findIdx?_cons] at h
    cases hm : identityStampMatches member identity with
    | true =>
      rw [hm, if_pos rfl] at h
      cases h
      -- nobody behind has the key, so nobody behind has the stamp
      have hrest : (rest.filter fun member => !identityStampMatches member identity) = rest := by
        apply List.filter_eq_self.mpr
        intro other hother
        rw [Bool.not_eq_true', ← Bool.not_eq_true, identityStampMatches_iff]
        intro hstamp
        rw [identityStampMatches_iff] at hm
        apply hnd.1
        rw [List.mem_map]
        exact ⟨other, hother, key_of_stamp (hstamp.trans hm.symm)⟩
      rw [List.eraseIdx_cons_zero, List.filter_cons_of_neg (by simp [hm]), hrest]
    | false =>
      rw [hm, if_neg (by simp), Option.map_eq_some_iff] at h
      obtain ⟨index', h', rfl⟩ := h
      rw [List.eraseIdx_cons_succ, List.filter_cons_of_pos (by simp [hm]), ih hnd.2 h']

/-- Where a stamp can be found only once, replacing the first is replacing all. -/
theorem set_eq_map {members : List MessengerIdentity} {previous next : MessengerIdentity}
    {index : Nat} (hnd : (members.map (·.key)).Nodup)
    (h : members.findIdx? (identityStampMatches · previous) = some index) :
    members.set index next
      = members.map fun member => if member.stamp = previous.stamp then next else member := by
  induction members generalizing index with
  | nil => exact absurd h (by simp)
  | cons member rest ih =>
    rw [List.map_cons, List.nodup_cons] at hnd
    rw [List.findIdx?_cons] at h
    cases hm : identityStampMatches member previous with
    | true =>
      rw [hm, if_pos rfl] at h
      cases h
      rw [identityStampMatches_iff] at hm
      have hrest : (rest.map fun member =>
          if member.stamp = previous.stamp then next else member) = rest := by
        conv_rhs => rw [← List.map_id rest]
        apply List.map_congr_left
        intro other hother
        rw [if_neg, id_eq]
        intro hstamp
        apply hnd.1
        rw [List.mem_map]
        exact ⟨other, hother, key_of_stamp (hstamp.trans hm.symm)⟩
      rw [List.set_cons_zero, List.map_cons, if_pos hm, hrest]
    | false =>
      rw [hm, if_neg (by simp), Option.map_eq_some_iff] at h
      obtain ⟨index', h', rfl⟩ := h
      have hne : member.stamp ≠ previous.stamp := by
        rw [Ne, ← identityStampMatches_iff, hm]
        simp
      rw [List.set_cons_succ, List.map_cons, if_neg hne, ih hnd.2 h']

/-! ## Consistency -/

/-- The index of rooms is exactly the inverse of their member lists, a room is of one or two
identities, and both limits on rooms hold. -/
structure RoomsConsistent (hub : MessengerHub) : Prop where
  indexed : Inverse MessengerRoom.keys hub.rooms hub.roomsByIdentity
  noEmptyEntry : Full hub.roomsByIdentity
  occupied : ∀ roomId room, hub.rooms.lookup roomId = some room →
    (room.members.length = 1 ∨ room.members.length = 2) ∧ room.keys.Nodup
  roomLimit : hub.rooms.keys.card ≤ hub.limits.maxRooms
  identityLimit : ∀ key, (hub.roomIds key).card ≤ hub.limits.maxRoomsPerIdentity

/-- Nothing but the rooms and their index differs. -/
structure OnlyRooms (hub hub' : MessengerHub) : Prop where
  limits : hub'.limits = hub.limits
  endpoints : hub'.endpointsBySession = hub.endpointsBySession
  sessions : hub'.sessionByIdentity = hub.sessionByIdentity
  nextRoomId : hub'.nextRoomId = hub.nextRoomId

theorem OnlyRooms.refl (hub : MessengerHub) : OnlyRooms hub hub := ⟨rfl, rfl, rfl, rfl⟩

theorem OnlyRooms.trans {hub₁ hub₂ hub₃ : MessengerHub} (h : OnlyRooms hub₁ hub₂)
    (h' : OnlyRooms hub₂ hub₃) : OnlyRooms hub₁ hub₃ :=
  ⟨h'.limits.trans h.limits, h'.endpoints.trans h.endpoints, h'.sessions.trans h.sessions,
    h'.nextRoomId.trans h.nextRoomId⟩

namespace RoomsConsistent

variable {hub hub' : MessengerHub}

theorem congr (h : RoomsConsistent hub) (hl : hub'.limits = hub.limits)
    (hr : hub'.rooms = hub.rooms) (hi : hub'.roomsByIdentity = hub.roomsByIdentity) :
    RoomsConsistent hub' where
  indexed := by
    rw [hr, hi]
    exact h.indexed
  noEmptyEntry := by
    rw [hi]
    exact h.noEmptyEntry
  occupied := by
    rw [hr]
    exact h.occupied
  roomLimit := by
    rw [hr, hl]
    exact h.roomLimit
  identityLimit := by
    unfold MessengerHub.roomIds
    rw [hi, hl]
    exact h.identityLimit

theorem nonempty (h : RoomsConsistent hub) {roomId : MessengerRoomId} {room : MessengerRoom}
    (hr : hub.rooms.lookup roomId = some room) : room.members ≠ [] := by
  intro hempty
  have hlen := (h.occupied roomId room hr).1
  rw [hempty] at hlen
  simp at hlen

/-- A member's room is listed under its key. -/
theorem listed (h : RoomsConsistent hub) {roomId : MessengerRoomId} {room : MessengerRoom}
    (hr : hub.rooms.lookup roomId = some room) {member : MessengerIdentity}
    (hm : member ∈ room.members) : roomId ∈ hub.roomIds member.key :=
  (h.indexed _ _).mpr ⟨room, hr, MessengerRoom.mem_keys.mpr ⟨member, hm, rfl⟩⟩

end RoomsConsistent

/-! ## Losing a member -/

namespace MessengerHub

/-- A room loses one member, and goes if that was the last. -/
def lose (hub : MessengerHub) (roomId : MessengerRoomId) (kept : List MessengerIdentity)
    (key : Text) : MessengerHub :=
  { hub with
    rooms := if kept = [] then hub.rooms.erase roomId
      else hub.rooms.insert roomId { members := kept }
    roomsByIdentity := unlink hub.roomsByIdentity key roomId }

end MessengerHub

open MessengerHub

theorem onlyRooms_lose (hub : MessengerHub) (roomId : MessengerRoomId)
    (kept : List MessengerIdentity) (key : Text) : OnlyRooms hub (hub.lose roomId kept key) :=
  ⟨rfl, rfl, rfl, rfl⟩

/-- The keys that are left when a stamp is taken out. -/
theorem keys_kept {room : MessengerRoom} {identity member : MessengerIdentity}
    (hnd : room.keys.Nodup) (hm : member ∈ room.members) (hs : member.stamp = identity.stamp)
    (key : Text) :
    key ∈ ((room.members.filter fun m => !identityStampMatches m identity).map (·.key)) ↔
      key ∈ room.keys ∧ key ≠ identity.key := by
  rw [MessengerRoom.mem_keys, List.mem_map]
  constructor
  · rintro ⟨m, hkept, rfl⟩
    rw [List.mem_filter, Bool.not_eq_true', ← Bool.not_eq_true, identityStampMatches_iff]
      at hkept
    refine ⟨⟨m, hkept.1, rfl⟩, ?_⟩
    intro hk
    -- the only member with that key has the stamp
    have hsame := MessengerRoom.member_unique hnd hkept.1 hm (hk.trans (key_of_stamp hs).symm)
    rw [hsame] at hkept
    exact hkept.2 hs
  · rintro ⟨⟨m, hmem, rfl⟩, hk⟩
    refine ⟨m, ?_, rfl⟩
    rw [List.mem_filter, Bool.not_eq_true', ← Bool.not_eq_true, identityStampMatches_iff]
    exact ⟨hmem, fun hstamp => hk (key_of_stamp hstamp)⟩

@[simp] theorem lookup_lose (hub : MessengerHub) (roomId r : MessengerRoomId)
    (kept : List MessengerIdentity) (key : Text) :
    (hub.lose roomId kept key).rooms.lookup r =
      if r = roomId then (if kept = [] then none else some { members := kept })
      else hub.rooms.lookup r := by
  unfold MessengerHub.lose
  dsimp only
  by_cases hempty : kept = []
  · rw [if_pos hempty, if_pos hempty, Map.lookup_erase_ite]
  · rw [if_neg hempty, if_neg hempty, Map.lookup_insert_ite]

theorem RoomsConsistent.lose {hub : MessengerHub} (h : RoomsConsistent hub)
    {roomId : MessengerRoomId} {room : MessengerRoom} {identity member : MessengerIdentity}
    (hr : hub.rooms.lookup roomId = some room) (hm : member ∈ room.members)
    (hs : member.stamp = identity.stamp) :
    RoomsConsistent (hub.lose roomId
      (room.members.filter fun m => !identityStampMatches m identity) identity.key) := by
  obtain ⟨hlen, hnd⟩ := h.occupied roomId room hr
  have hkeys := keys_kept hnd hm hs
  generalize hkept : (room.members.filter fun m => !identityStampMatches m identity) = kept
    at hkeys
  have hsub : kept.Sublist room.members := by
    rw [← hkept]
    exact List.filter_sublist
  have hindexed : Inverse MessengerRoom.keys (hub.rooms.insert roomId { members := kept })
      (unlink hub.roomsByIdentity identity.key roomId) := h.indexed.lose hr hkeys
  constructor
  · unfold MessengerHub.lose
    dsimp only
    split
    next hempty =>
      have hlast : (hub.rooms.insert roomId { members := kept }).lookup roomId =
          some { members := kept } := by rw [Map.lookup_insert_ite, if_pos rfl]
      have herase := hindexed.erase hlast (by rw [hempty]; rfl)
      rw [Map.erase_of_insert] at herase
      exact herase
    next => exact hindexed
  · exact h.noEmptyEntry.unlink _ _
  · intro r room' hl
    rw [lookup_lose] at hl
    split at hl
    next =>
      split at hl
      next => exact absurd hl (by simp)
      next hne =>
        cases hl
        have hle := hsub.length_le
        have hpos := List.length_pos_iff.mpr hne
        refine ⟨?_, hnd.sublist (hsub.map _)⟩
        show kept.length = 1 ∨ kept.length = 2
        omega
    next => exact h.occupied r room' hl
  · unfold MessengerHub.lose
    dsimp only
    split
    next => exact (Map.card_keys_erase_le _ _).trans h.roomLimit
    next =>
      rw [Map.card_keys_insert_of_mem hr]
      exact h.roomLimit
  · intro key
    refine (Finset.card_le_card ?_).trans (h.identityLimit key)
    show entries (unlink hub.roomsByIdentity identity.key roomId) key ⊆ hub.roomIds key
    rw [entries_unlink]
    split
    next he =>
      rw [he]
      exact Finset.erase_subset _ _
    next => exact Finset.Subset.refl _

/-! ## Removals -/

/-- Nothing happens at a room that does not have the stamp. -/
theorem removeIdentityFromRoom_absent {walk : Removal} {identity : MessengerIdentity}
    {roomId : MessengerRoomId} (h : ∀ room, walk.hub.rooms.lookup roomId = some room →
      ∀ member ∈ room.members, member.stamp ≠ identity.stamp) :
    (removeIdentityFromRoom identity walk roomId).hub = walk.hub := by
  unfold removeIdentityFromRoom
  split
  next => rfl
  next room hr =>
    have hkept : (room.members.filter fun m => !identityStampMatches m identity)
        = room.members := by
      apply List.filter_eq_self.mpr
      intro member hm
      rw [Bool.not_eq_true', ← Bool.not_eq_true, identityStampMatches_iff]
      exact h room hr member hm
    dsimp only
    rw [hkept, Nat.sub_self, if_pos rfl, Map.insert_self hr]

/-- A room that has the stamp loses that member. -/
theorem removeIdentityFromRoom_member {walk : Removal} {identity member : MessengerIdentity}
    {roomId : MessengerRoomId} {room : MessengerRoom}
    (hr : walk.hub.rooms.lookup roomId = some room) (hm : member ∈ room.members)
    (hs : member.stamp = identity.stamp) :
    (removeIdentityFromRoom identity walk roomId).hub = walk.hub.lose roomId
      (room.members.filter fun m => !identityStampMatches m identity) identity.key := by
  have hfewer : (room.members.filter fun m => !identityStampMatches m identity).length
      < room.members.length := by
    rw [List.length_filter_lt_length_iff_exists]
    exact ⟨member, hm, by simp [hs]⟩
  unfold removeIdentityFromRoom
  rw [hr]
  dsimp only
  rw [if_neg (by omega)]
  unfold removeInverseRoom MessengerHub.lose
  split
  next => dsimp only; rw [Map.erase_of_insert]
  next => rfl

/-- One room of a removal. -/
theorem removeIdentityFromRoom_spec {walk : Removal} (h : RoomsConsistent walk.hub)
    (identity : MessengerIdentity) (roomId : MessengerRoomId) :
    RoomsConsistent (removeIdentityFromRoom identity walk roomId).hub ∧
      OnlyRooms walk.hub (removeIdentityFromRoom identity walk roomId).hub ∧
      ∀ r, (removeIdentityFromRoom identity walk roomId).hub.rooms.lookup r =
        if r = roomId then (walk.hub.rooms.lookup r).bind (·.without identity)
        else walk.hub.rooms.lookup r := by
  by_cases hex : ∃ room, walk.hub.rooms.lookup roomId = some room ∧
      ∃ member ∈ room.members, member.stamp = identity.stamp
  · obtain ⟨room, hr, member, hm, hs⟩ := hex
    rw [removeIdentityFromRoom_member hr hm hs]
    refine ⟨h.lose hr hm hs, onlyRooms_lose .., fun r => ?_⟩
    rw [lookup_lose]
    split
    next he => rw [he, hr]; rfl
    next => rfl
  · have habsent : ∀ room, walk.hub.rooms.lookup roomId = some room →
        ∀ member ∈ room.members, member.stamp ≠ identity.stamp := fun room hr member hm hs =>
      hex ⟨room, hr, member, hm, hs⟩
    rw [removeIdentityFromRoom_absent habsent]
    refine ⟨h, .refl _, fun r => ?_⟩
    split
    next he =>
      subst he
      cases hr : walk.hub.rooms.lookup r with
      | none => rfl
      | some room =>
        exact (MessengerRoom.without_of_absent (h.nonempty hr) (habsent room hr)).symm
    next => rfl

/-- A walk over rooms, by induction on the rooms it has still to visit. -/
theorem removal_spec (identity : MessengerIdentity) {visit : List MessengerRoomId}
    (hnd : visit.Nodup) (walk : Removal) (h : RoomsConsistent walk.hub) :
    RoomsConsistent (visit.foldl (removeIdentityFromRoom identity) walk).hub ∧
      OnlyRooms walk.hub (visit.foldl (removeIdentityFromRoom identity) walk).hub ∧
      ∀ r, (visit.foldl (removeIdentityFromRoom identity) walk).hub.rooms.lookup r =
        if r ∈ visit then (walk.hub.rooms.lookup r).bind (·.without identity)
        else walk.hub.rooms.lookup r := by
  induction visit generalizing walk with
  | nil => exact ⟨h, .refl _, fun r => by simp⟩
  | cons roomId rest ih =>
    obtain ⟨hfresh, hrest⟩ := List.nodup_cons.mp hnd
    obtain ⟨hok, honly, hlookup⟩ := removeIdentityFromRoom_spec h identity roomId
    obtain ⟨hok', honly', hlookup'⟩ := ih hrest _ hok
    rw [List.foldl_cons]
    refine ⟨hok', honly.trans honly', fun r => ?_⟩
    rw [hlookup', hlookup]
    by_cases hr : r = roomId
    · subst hr
      rw [if_neg hfresh, if_pos rfl, if_pos List.mem_cons_self]
    · rw [if_neg hr]
      simp [hr]

/-- After `remove_identity_from_rooms` no room has the stamp; all else is as before. -/
theorem removeIdentityFromRooms_spec {hub : MessengerHub} (h : RoomsConsistent hub)
    {identity : MessengerIdentity} {visit : List MessengerRoomId}
    (hv : hub.Walks identity.key visit) :
    RoomsConsistent (hub.removeIdentityFromRooms identity visit).hub ∧
      OnlyRooms hub (hub.removeIdentityFromRooms identity visit).hub ∧
      ∀ r, (hub.removeIdentityFromRooms identity visit).hub.rooms.lookup r =
        (hub.rooms.lookup r).bind (·.without identity) := by
  obtain ⟨hok, honly, hlookup⟩ :=
    removal_spec identity hv.1 { hub, memberships := 0, emptied := 0 } h
  refine ⟨hok, honly, fun r => ?_⟩
  unfold removeIdentityFromRooms
  rw [hlookup]
  split
  next => rfl
  next hr =>
    -- a room outside the walk has no member with the key
    cases hl : hub.rooms.lookup r with
    | none => rfl
    | some room =>
      refine (MessengerRoom.without_of_absent (h.nonempty hl) fun member hm hs => ?_).symm
      apply hr
      rw [← List.mem_toFinset, hv.2, ← key_of_stamp hs]
      exact h.listed hl hm

/-! ## Advances -/

/-- One room of a generation advance. -/
theorem advanceRoom_spec {walk : MessengerHub × Nat} (h : RoomsConsistent walk.1)
    {previous next : MessengerIdentity} (hk : previous.key = next.key)
    (roomId : MessengerRoomId) :
    RoomsConsistent (advanceRoom previous next walk roomId).1 ∧
      OnlyRooms walk.1 (advanceRoom previous next walk roomId).1 ∧
      ∀ r, (advanceRoom previous next walk roomId).1.rooms.lookup r =
        if r = roomId then (walk.1.rooms.lookup r).map (·.moved previous next)
        else walk.1.rooms.lookup r := by
  unfold advanceRoom
  split
  next hnone =>
    refine ⟨h, .refl _, fun r => ?_⟩
    split
    next he => rw [he, hnone]; rfl
    next => rfl
  next room hr =>
    obtain ⟨hlen, hnd⟩ := h.occupied roomId room hr
    split
    next hnone =>
      refine ⟨h, .refl _, fun r => ?_⟩
      split
      next he =>
        rw [he, hr, Option.map_some, MessengerRoom.moved_of_absent]
        intro member hm hs
        have hfind := List.findIdx?_eq_none_iff.mp hnone member hm
        rw [identityStampMatches_iff.mpr hs] at hfind
        exact absurd hfind (by simp)
      next => rfl
    next index hindex =>
      have hset : room.members.set index next = (room.moved previous next).members :=
        set_eq_map hnd hindex
      have hkeys : MessengerRoom.keys { members := room.members.set index next } = room.keys := by
        rw [hset]
        exact MessengerRoom.keys_moved hk
      refine ⟨⟨h.indexed.update hr hkeys, h.noEmptyEntry, ?_, ?_, h.identityLimit⟩,
        ⟨rfl, rfl, rfl, rfl⟩, ?_⟩
      · intro r room' hl
        dsimp only at hl
        rw [Map.lookup_insert_ite] at hl
        split at hl
        next =>
          cases hl
          rw [hkeys, List.length_set]
          exact ⟨hlen, hnd⟩
        next => exact h.occupied r room' hl
      · dsimp only
        rw [Map.card_keys_insert_of_mem hr]
        exact h.roomLimit
      · intro r
        dsimp only
        rw [Map.lookup_insert_ite]
        split
        next he => rw [he, hr, hset]; rfl
        next => rfl

/-- A walk of an advance, by induction on the rooms it has still to visit. -/
theorem advance_spec {previous next : MessengerIdentity} (hk : previous.key = next.key)
    {visit : List MessengerRoomId} (hnd : visit.Nodup) (walk : MessengerHub × Nat)
    (h : RoomsConsistent walk.1) :
    RoomsConsistent (visit.foldl (advanceRoom previous next) walk).1 ∧
      OnlyRooms walk.1 (visit.foldl (advanceRoom previous next) walk).1 ∧
      ∀ r, (visit.foldl (advanceRoom previous next) walk).1.rooms.lookup r =
        if r ∈ visit then (walk.1.rooms.lookup r).map (·.moved previous next)
        else walk.1.rooms.lookup r := by
  induction visit generalizing walk with
  | nil => exact ⟨h, .refl _, fun r => by simp⟩
  | cons roomId rest ih =>
    obtain ⟨hfresh, hrest⟩ := List.nodup_cons.mp hnd
    obtain ⟨hok, honly, hlookup⟩ := advanceRoom_spec h hk roomId
    obtain ⟨hok', honly', hlookup'⟩ := ih hrest _ hok
    rw [List.foldl_cons]
    refine ⟨hok', honly.trans honly', fun r => ?_⟩
    rw [hlookup', hlookup]
    by_cases hr : r = roomId
    · subst hr
      rw [if_neg hfresh, if_pos rfl, if_pos List.mem_cons_self]
    · rw [if_neg hr]
      simp [hr]

/-- After the walk of an advance the stamp has moved in every room. -/
theorem advanceRooms_spec {hub : MessengerHub} (h : RoomsConsistent hub)
    {previous next : MessengerIdentity} (hk : previous.key = next.key)
    {visit : List MessengerRoomId} (hv : hub.Walks previous.key visit) (count : Nat) :
    RoomsConsistent (visit.foldl (advanceRoom previous next) (hub, count)).1 ∧
      OnlyRooms hub (visit.foldl (advanceRoom previous next) (hub, count)).1 ∧
      ∀ r, (visit.foldl (advanceRoom previous next) (hub, count)).1.rooms.lookup r =
        (hub.rooms.lookup r).map (·.moved previous next) := by
  obtain ⟨hok, honly, hlookup⟩ := advance_spec hk hv.1 (hub, count) h
  refine ⟨hok, honly, fun r => ?_⟩
  rw [hlookup]
  split
  next => rfl
  next hr =>
    cases hl : hub.rooms.lookup r with
    | none => rfl
    | some room =>
      rw [Option.map_some, MessengerRoom.moved_of_absent]
      intro member hm hs
      apply hr
      rw [← List.mem_toFinset, hv.2, ← key_of_stamp hs]
      exact h.listed hl hm

/-! ## A new room -/

/-- Every room has an id from below the counter. -/
def MessengerHub.Numbered (hub : MessengerHub) : Prop :=
  ∀ roomId room, hub.rooms.lookup roomId = some room →
    ∀ next, hub.nextRoomId = some next → roomId.get < next.get

theorem MessengerHub.Numbered.fresh {hub : MessengerHub} (h : hub.Numbered)
    {roomId : MessengerRoomId} (hnext : hub.nextRoomId = some roomId) :
    hub.rooms.lookup roomId = none := by
  cases hr : hub.rooms.lookup roomId with
  | none => rfl
  | some room => exact absurd (h roomId room hr roomId hnext) (Nat.lt_irrefl _)

/-- A room of two identities that both may have one more. -/
theorem RoomsConsistent.open {hub hub' : MessengerHub} (h : RoomsConsistent hub)
    {roomId : MessengerRoomId} {sender target : MessengerIdentity}
    (hfresh : hub.rooms.lookup roomId = none) (hkeys : sender.key ≠ target.key)
    (hroom : hub.rooms.keys.card < hub.limits.maxRooms)
    (hsender : (hub.roomIds sender.key).card < hub.limits.maxRoomsPerIdentity)
    (htarget : (hub.roomIds target.key).card < hub.limits.maxRoomsPerIdentity)
    (hlimits : hub'.limits = hub.limits)
    (hrooms : hub'.rooms = hub.rooms.insert roomId { members := [sender, target] })
    (hindex : hub'.roomsByIdentity =
      link (link hub.roomsByIdentity sender.key roomId) target.key roomId) :
    RoomsConsistent hub' where
  indexed := by
    rw [hrooms, hindex]
    exact h.indexed.insert { members := [sender, target] } hfresh
  noEmptyEntry := by
    rw [hindex]
    exact (h.noEmptyEntry.link _ _).link _ _
  occupied := by
    intro r room hl
    rw [hrooms, Map.lookup_insert_ite] at hl
    split at hl
    next =>
      cases hl
      refine ⟨.inr rfl, ?_⟩
      show [sender.key, target.key].Nodup
      simp [hkeys]
    next => exact h.occupied r room hl
  roomLimit := by
    rw [hrooms, hlimits]
    have hcard := Map.card_keys_insert_le hub.rooms roomId { members := [sender, target] }
    omega
  identityLimit := by
    intro key
    unfold MessengerHub.roomIds at hsender htarget ⊢
    rw [hindex, hlimits, entries_link, entries_link, entries_link, if_neg hkeys.symm]
    split
    next =>
      have hcard := Finset.card_insert_le roomId (entries hub.roomsByIdentity target.key)
      omega
    next =>
      split
      next =>
        have hcard := Finset.card_insert_le roomId (entries hub.roomsByIdentity sender.key)
        omega
      next => exact h.identityLimit key

end P4475.Messenger
