import P4475.World.Places

/-!
# The starting grid

The rankings of the racers who are there are always `0, 1, …` in some order. A
newcomer takes the next number; whoever reranks hands out positions in a sorted
list of all racers, which compare as the sort keys do.
-/

namespace P4475

open Lib

namespace ProtocolRoomState

variable {room room' : ProtocolRoomState} {i j slot : Fin 8} {userNo : UserNo}
  {participant : RoomParticipant} {team : Nat}

/-- The rankings of the racers. -/
def rankings (room : ProtocolRoomState) : List Int :=
  room.membersById.entries.map (·.player.ranking)

/-- The rankings are a permutation of `0, …, n - 1`. -/
def Ranked (room : ProtocolRoomState) : Prop :=
  room.rankings.Perm ((List.range room.rankings.length).map fun k : Nat => (k : Int))

theorem rankings_eq (room : ProtocolRoomState) :
    room.rankings = room.membersById.occupied.map room.rankingOf :=
  Slots.entries_map _ _ _

/-- Two rooms with the same rankings at the same ids. -/
def SameRankings (room room' : ProtocolRoomState) : Prop :=
  ∀ i, (room'.membersById i).map (·.player.ranking) =
    (room.membersById i).map (·.player.ranking)

theorem SameRankings.rankings (h : room.SameRankings room') : room'.rankings = room.rankings :=
  Slots.map_entries_congr _ _ h

theorem SameRankings.ranked (h : room.SameRankings room') (hr : room.Ranked) : room'.Ranked := by
  unfold Ranked
  rw [h.rankings]
  exact hr

theorem SameRankings.rankingOf (h : room.SameRankings room') (i : Fin 8) :
    room'.rankingOf i = room.rankingOf i := by
  have hi := h i
  unfold ProtocolRoomState.rankingOf
  cases hs : room'.membersById i with
  | none =>
    rw [hs, Option.map_none, eq_comm, Option.map_eq_none_iff] at hi
    rw [hi]
  | some m =>
    rw [hs, Option.map_some, eq_comm, Option.map_eq_some_iff] at hi
    obtain ⟨m₀, h₀, he⟩ := hi
    rw [h₀]
    exact he.symm

/-- Members are changed in place, keeping their ranking. -/
theorem sameRankings_of_modify {f : Fin 8 → ProtocolRoomMember → ProtocolRoomMember}
    (h : room'.membersById = room.membersById.modify f)
    (hf : ∀ i m, (f i m).player.ranking = m.player.ranking) : room.SameRankings room' := by
  intro i
  rw [h, Slots.modify_apply, Option.map_map]
  congr 1
  funext m
  exact hf i m

theorem assignNextRoomMaster_sameRankings (room : ProtocolRoomState) :
    room.SameRankings room.assignNextRoomMaster := by
  unfold assignNextRoomMaster
  split
  next i =>
    refine sameRankings_of_modify rfl fun j m => ?_
    split
    next => rfl
    next => rfl
  next =>
    split
    next => exact fun _ => rfl
    next => exact fun _ => rfl

/-! ## Distinct rankings -/

theorem Ranked.nodup (h : room.Ranked) : room.rankings.Nodup :=
  h.nodup_iff.mpr (List.nodup_range.map fun _ _ => Int.ofNat.inj)

theorem Ranked.injective (h : room.Ranked) (hi : (room.membersById i).isSome = true)
    (hj : (room.membersById j).isSome = true) (he : room.rankingOf i = room.rankingOf j) :
    i = j := by
  have hn := h.nodup
  rw [rankings_eq] at hn
  exact List.inj_on_of_nodup_map hn (Slots.mem_occupied.mpr hi) (Slots.mem_occupied.mpr hj) he

/-! ## Reranking -/

theorem rerank_member_isSome (room : ProtocolRoomState) (order : List (Fin 8)) (i : Fin 8) :
    ((room.rerank order).membersById i).isSome = (room.membersById i).isSome :=
  (room.rerank_samePlaces order).member_isSome i

theorem rerank_rankingOf {order : List (Fin 8)} (hi : (room.membersById i).isSome = true)
    (ho : i ∈ order) : (room.rerank order).rankingOf i = (order.idxOf i : Int) := by
  obtain ⟨m, hm⟩ := Option.isSome_iff_exists.mp hi
  unfold rerank rankingOf
  dsimp only [Slots.modify_apply]
  rw [hm, Option.map_some, if_pos ho]
  rfl

/-- Reranking along a list of all members is a ranking. -/
theorem rerank_ranked {order : List (Fin 8)} (h : order.Perm room.membersById.occupied) :
    (room.rerank order).Ranked := by
  have hocc : (room.rerank order).membersById.occupied = room.membersById.occupied :=
    Slots.occupied_congr (rerank_member_isSome room order)
  have hlist : (room.rerank order).rankings =
      (room.membersById.occupied.map order.idxOf).map fun k : Nat => (k : Int) := by
    rw [rankings_eq, hocc, List.map_map]
    refine List.map_congr_left fun i hi => ?_
    exact rerank_rankingOf (Slots.mem_occupied.mp hi) (h.mem_iff.mpr hi)
  unfold Ranked
  rw [hlist]
  simp only [List.length_map]
  exact (idxOf_perm_range h (Slots.nodup_occupied _)).map _

/-- Reranking along a sorted list of all members orders them as the key does. -/
theorem rerank_sorted_lt {κ : Type} [LinearOrder κ] {key : Fin 8 → κ} {ids : List (Fin 8)}
    (hids : ids = room.membersById.occupied)
    (hk : ∀ a ∈ ids, ∀ b ∈ ids, key a = key b → a = b)
    (hi : (room.membersById i).isSome = true) (hj : (room.membersById j).isSome = true) :
    (room.rerank (sortByKey key ids)).rankingOf i <
      (room.rerank (sortByKey key ids)).rankingOf j ↔ key i < key j := by
  have hmi : i ∈ ids := hids ▸ Slots.mem_occupied.mpr hi
  have hmj : j ∈ ids := hids ▸ Slots.mem_occupied.mpr hj
  rw [rerank_rankingOf hi (mem_sortByKey.mpr hmi), rerank_rankingOf hj (mem_sortByKey.mpr hmj),
    Int.ofNat_lt]
  exact idxOf_sortByKey_lt (hids ▸ Slots.nodup_occupied _) hk hmi hmj

/-! ## Joining -/

theorem rankings_seatRacer (h : room.membersById i = none) :
    (room.seatRacer userNo participant i slot team).rankings.Perm
      ((room.rankings.length : Int) :: room.rankings) := by
  unfold rankings seatRacer
  dsimp only
  rw [List.length_map]
  exact (Slots.entries_put_some _ h).map _

theorem Ranked.seatRacer (h : room.Ranked) (hi : room.membersById i = none) :
    (room.seatRacer userNo participant i slot team).Ranked := by
  have hp : (room.seatRacer userNo participant i slot team).rankings.Perm
      ((room.rankings.length : Int) :: room.rankings) := rankings_seatRacer hi
  unfold Ranked
  rw [hp.length_eq, List.length_cons, List.range_succ, List.map_append]
  calc (room.seatRacer userNo participant i slot team).rankings.Perm
        ((room.rankings.length : Int) :: room.rankings) := hp
    _ |>.Perm ((room.rankings.length : Int) ::
        (List.range room.rankings.length).map fun k : Nat => (k : Int)) := h.cons _
    _ |>.Perm _ := (List.perm_append_singleton _ _).symm

theorem claimMaster_sameRankings (room : ProtocolRoomState) (playerId : Int) :
    room.SameRankings (room.claimMaster playerId) := by
  unfold claimMaster
  split
  next => exact fun _ => rfl
  next => exact fun _ => rfl

theorem Ranked.addParticipant (h : room.Ranked)
    (ha : room.addParticipant userNo participant = some room') : room'.Ranked := by
  unfold ProtocolRoomState.addParticipant at ha
  split at ha
  next =>
    obtain ⟨i, hi, rfl⟩ := addObserver_cases ha
    exact h
  next =>
    obtain ⟨i, slot, team, hi, -, rfl⟩ := addRacer_cases ha
    exact (claimMaster_sameRankings _ _).ranked (h.seatRacer hi.1)

/-! ## Leaving -/

/-- The room that a removal reranks. -/
def beforeRerank (room : ProtocolRoomState) (i : Fin 8) : ProtocolRoomState :=
  let next := { room with membersById := room.membersById.put i none }.clearSlotOf i
  if room.roomMaster = memberPlayerId i then next.assignNextRoomMaster else next

theorem removeMember_eq (room : ProtocolRoomState) (i : Fin 8) :
    room.removeMember i =
      (room.beforeRerank i).rerank (room.beforeRerank i).rankedMembers := rfl

theorem clearSlotOf_members (room : ProtocolRoomState) (i : Fin 8) :
    (room.clearSlotOf i).membersById = room.membersById := by
  unfold clearSlotOf
  split
  next => rfl
  next => rfl

/-- Until it reranks, a removal leaves the other rankings as they are. -/
theorem beforeRerank_sameRankings (room : ProtocolRoomState) (i : Fin 8) :
    { room with membersById := room.membersById.put i none }.SameRankings
      (room.beforeRerank i) := by
  have hclear : { room with membersById := room.membersById.put i none }.SameRankings
      ({ room with membersById := room.membersById.put i none }.clearSlotOf i) := by
    intro j
    rw [clearSlotOf_members]
  unfold beforeRerank
  dsimp only
  split
  next => exact fun j => (assignNextRoomMaster_sameRankings _ j).trans (hclear j)
  next => exact hclear

theorem rankedMembers_perm (room : ProtocolRoomState) :
    room.rankedMembers.Perm room.membersById.occupied := sortByKey_perm _ _

theorem removeMember_ranked (room : ProtocolRoomState) (i : Fin 8) :
    (room.removeMember i).Ranked := by
  rw [removeMember_eq]
  exact rerank_ranked (rankedMembers_perm _)

theorem removeObserver_sameRankings (room : ProtocolRoomState) (i : Fin 8) :
    room.SameRankings (room.removeObserver i) := by
  unfold removeObserver
  dsimp only
  split
  next => exact assignNextRoomMaster_sameRankings { room with observers := _ }
  next => exact fun _ => rfl

theorem Ranked.removeUser (h : room.Ranked) (hr : room.removeUser userNo = some room') :
    room'.Ranked := by
  rcases removeUser_cases hr with ⟨i, m, hm, rfl, rfl⟩ | ⟨i, m, hm, rfl, rfl⟩
  · exact (room.removeObserver_sameRankings i).ranked h
  · exact room.removeMember_ranked i

/-- A member who stays at an id was there. -/
theorem removeMember_member (h : ((room.removeMember i).membersById j).isSome = true) :
    j ≠ i ∧ (room.membersById j).isSome = true := by
  rw [removeMember_eq, rerank_member_isSome] at h
  have hs := congrArg Option.isSome (room.beforeRerank_sameRankings i j)
  rw [Option.isSome_map, Option.isSome_map, h] at hs
  have hp : ((room.membersById.put i none) j).isSome = true := hs.symm
  rw [Slots.put_apply] at hp
  split at hp
  next => exact absurd hp (by simp)
  next hne => exact ⟨hne, hp⟩

/-- The racers who stay keep their order. -/
theorem removeMember_order (h : room.Ranked) {a b : Fin 8}
    (ha : ((room.removeMember i).membersById a).isSome = true)
    (hb : ((room.removeMember i).membersById b).isSome = true) :
    (room.removeMember i).rankingOf a < (room.removeMember i).rankingOf b ↔
      room.rankingOf a < room.rankingOf b := by
  obtain ⟨hai, ha₀⟩ := removeMember_member ha
  obtain ⟨hbi, hb₀⟩ := removeMember_member hb
  have hsame : ∀ {c : Fin 8}, c ≠ i → (room.beforeRerank i).rankingOf c = room.rankingOf c := by
    intro c hc
    rw [(room.beforeRerank_sameRankings i).rankingOf c]
    unfold rankingOf
    dsimp only
    rw [Slots.put_ne _ _ hc]
  rw [removeMember_eq] at ha hb ⊢
  rw [rerank_member_isSome] at ha hb
  unfold rankedMembers
  rw [rerank_sorted_lt rfl (fun c _ d _ he => (Prod.ext_iff.mp (toLex_inj.mp he)).2) ha hb,
    Prod.Lex.toLex_lt_toLex, hsame hai, hsame hbi]
  constructor
  · rintro (hlt | ⟨heq, hlt⟩)
    · exact hlt
    · have hab := h.injective ha₀ hb₀ heq
      rw [hab] at hlt
      exact absurd hlt (lt_irrefl _)
  · exact Or.inl

/-- A removal keeps the order of the racers who stay. -/
theorem Ranked.removeUser_order (h : room.Ranked) (hr : room.removeUser userNo = some room')
    {a b : Fin 8} (ha : (room'.membersById a).isSome = true)
    (hb : (room'.membersById b).isSome = true) :
    room'.rankingOf a < room'.rankingOf b ↔ room.rankingOf a < room.rankingOf b := by
  rcases removeUser_cases hr with ⟨i, m, hm, rfl, rfl⟩ | ⟨i, m, hm, rfl, rfl⟩
  · rw [(room.removeObserver_sameRankings i).rankingOf,
      (room.removeObserver_sameRankings i).rankingOf]
  · exact removeMember_order h ha hb

/-! ## Lobby commands -/

theorem Reseat.sameRankings (hr : room.Reseat room') : room.SameRankings room' := by
  cases hr with
  | @team i current target m t =>
    refine sameRankings_of_modify rfl fun j m => ?_
    split
    next => rfl
    next => rfl
  | master => exact fun _ => rfl
  | removeAi => exact fun _ => rfl
  | addAi => exact fun _ => rfl
  | close => exact fun _ => rfl

theorem RoomMove.sameRankings (e : room.RoomMove room') : room.SameRankings room' := by
  cases e with
  | touch seats => exact seats.rankings
  | reseat _ h => exact h.sameRankings
  | run => exact fun _ => rfl
  | settle => exact fun _ => rfl

end ProtocolRoomState

end P4475
