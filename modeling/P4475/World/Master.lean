import P4475.World.Grid

/-!
# The room master

The master of a room with people in it names one of them, with one exception: a
room that nobody but plain observers ever entered still has the master `0` of a
fresh room. `MasterOk` is the invariant and `Headless` the exception as an edit
sees it; no edit makes a room headless, which is what singles out its creation.
-/

namespace P4475

open Lib

namespace ProtocolRoomState

variable {room room' : ProtocolRoomState} {i j : Fin 8} {userNo : UserNo}
  {participant : RoomParticipant}

/-- The master names a member or an observer. -/
def LiveMaster (room : ProtocolRoomState) : Prop :=
  (room.memberByPlayerId room.roomMaster).isSome = true

/-- No racer is there and the master is that of a fresh room. -/
def Unclaimed (room : ProtocolRoomState) : Prop :=
  room.membersById.IsEmpty ∧ room.roomMaster = 0

structure MasterOk (room : ProtocolRoomState) : Prop where
  live : room.isEmpty = false → room.LiveMaster ∨ room.Unclaimed

/-- Somebody is there and the master is nobody. -/
def Headless (room : ProtocolRoomState) : Prop := room.isEmpty = false ∧ ¬ room.LiveMaster

/-! ## Who is there -/

theorem isEmpty_iff : room.isEmpty = true ↔
    (∀ i, room.membersById i = none) ∧ ∀ i, room.observers i = none := by
  unfold isEmpty
  simp only [decide_eq_true_eq]
  rfl

theorem not_isEmpty_iff : room.isEmpty = false ↔
    (∃ i, (room.membersById i).isSome = true) ∨ ∃ i, (room.observers i).isSome = true := by
  rw [← Bool.not_eq_true, isEmpty_iff, not_and_or, not_forall, not_forall]
  simp only [Option.isSome_iff_ne_none, ne_eq]

theorem userNos_eq_nil : room.userNos = [] ↔ room.isEmpty = true := by
  constructor
  · intro h
    refine isEmpty_iff.mpr ⟨fun i => ?_, fun i => ?_⟩
    · by_contra hi
      obtain ⟨m, hm⟩ := Option.ne_none_iff_exists'.mp hi
      have := mem_userNos.mpr (Or.inl ⟨i, m, hm, rfl⟩)
      rw [h] at this
      exact absurd this (by simp)
    · by_contra hi
      obtain ⟨m, hm⟩ := Option.ne_none_iff_exists'.mp hi
      have := mem_userNos.mpr (Or.inr ⟨i, m, hm, rfl⟩)
      rw [h] at this
      exact absurd this (by simp)
  · intro h
    obtain ⟨hm, ho⟩ := isEmpty_iff.mp h
    refine List.eq_nil_iff_forall_not_mem.mpr fun u hu => ?_
    rcases mem_userNos.mp hu with ⟨i, m, hi, -⟩ | ⟨i, m, hi, -⟩
    · rw [hm i] at hi
      exact absurd hi (by simp)
    · rw [ho i] at hi
      exact absurd hi (by simp)

theorem liveMaster_of_member (h : (room.membersById i).isSome = true)
    (hm : room.roomMaster = memberPlayerId i) : room.LiveMaster := by
  unfold LiveMaster
  rw [hm, memberByPlayerId_member]
  exact h

theorem liveMaster_of_observer (h : (room.observers i).isSome = true)
    (hm : room.roomMaster = observerPlayerId i) : room.LiveMaster := by
  unfold LiveMaster
  rw [hm, memberByPlayerId_observer]
  exact h

/-- A live master is a racer or an observer. -/
theorem liveMaster_iff : room.LiveMaster ↔
    (∃ i, room.roomMaster = memberPlayerId i ∧ (room.membersById i).isSome = true) ∨
      ∃ i, room.roomMaster = observerPlayerId i ∧ (room.observers i).isSome = true := by
  constructor
  · intro h
    obtain ⟨m, hm⟩ := Option.isSome_iff_exists.mp h
    rcases memberByPlayerId_some hm with ⟨i, hi, hs⟩ | ⟨i, hi, hs⟩
    · exact Or.inl ⟨i, hi, by rw [hs]; rfl⟩
    · exact Or.inr ⟨i, hi, by rw [hs]; rfl⟩
  · rintro (⟨i, hi, hs⟩ | ⟨i, hi, hs⟩)
    · exact liveMaster_of_member hs hi
    · exact liveMaster_of_observer hs hi

/-! ## Rooms with the same people -/

/-- The same ids are filled, and the master is the same. -/
structure SamePeople (room room' : ProtocolRoomState) : Prop where
  members : ∀ i, (room'.membersById i).isSome = (room.membersById i).isSome
  observers : ∀ i, (room'.observers i).isSome = (room.observers i).isSome
  master : room'.roomMaster = room.roomMaster

theorem SamePlaces.samePeople (h : room.SamePlaces room')
    (hm : room'.roomMaster = room.roomMaster) : room.SamePeople room' :=
  ⟨h.member_isSome, h.observer_isSome, hm⟩

theorem SamePeople.isEmpty (h : room.SamePeople room') : room'.isEmpty = room.isEmpty := by
  rw [Bool.eq_iff_iff, isEmpty_iff, isEmpty_iff]
  simp only [← Option.isNone_iff_eq_none, ← Option.not_isSome, h.members, h.observers]

theorem SamePeople.liveMaster (h : room.SamePeople room') :
    room'.LiveMaster ↔ room.LiveMaster := by
  rw [liveMaster_iff, liveMaster_iff, h.master]
  simp only [h.members, h.observers]

theorem SamePeople.unclaimed (h : room.SamePeople room') (hu : room.Unclaimed) :
    room'.Unclaimed := by
  refine ⟨fun i => ?_, h.master.trans hu.2⟩
  have := h.members i
  rw [hu.1 i] at this
  simpa using this

theorem SamePeople.masterOk (h : room.SamePeople room') (hm : room.MasterOk) :
    room'.MasterOk where
  live := by
    intro he
    rw [h.isEmpty] at he
    rcases hm.live he with hl | hu
    · exact Or.inl (h.liveMaster.mpr hl)
    · exact Or.inr (h.unclaimed hu)

theorem SamePeople.headless (h : room.SamePeople room') (hh : room'.Headless) :
    room.Headless :=
  ⟨h.isEmpty ▸ hh.1, fun hl => hh.2 (h.liveMaster.mpr hl)⟩

/-- Whoever leaves a live master behind owes nothing more. -/
theorem MasterOk.of_live (h : room.isEmpty = false → room.LiveMaster) : room.MasterOk :=
  ⟨fun he => Or.inl (h he)⟩

/-! ## Reassignment -/

theorem head?_occupied {α : Type} {s : RoomSlots α} (h : s.occupied.head? = some i) :
    (s i).isSome = true :=
  Slots.mem_occupied.mp (List.mem_of_head? h)

theorem head?_occupied_none {α : Type} {s : RoomSlots α} (h : s.occupied.head? = none)
    (i : Fin 8) : s i = none :=
  Slots.isEmpty_iff.mpr (List.head?_eq_none_iff.mp h) i

/-- The next master is somebody, if anybody is there. -/
theorem assignNextRoomMaster_live (room : ProtocolRoomState)
    (h : room.assignNextRoomMaster.isEmpty = false) : room.assignNextRoomMaster.LiveMaster := by
  have hs := assignNextRoomMaster_samePlaces room
  unfold assignNextRoomMaster at h hs ⊢
  split
  next i hi =>
    refine liveMaster_of_member (i := i) ?_ rfl
    dsimp only [Slots.modify_apply]
    rw [Option.isSome_map]
    exact head?_occupied hi
  next hm =>
    split
    next i hi =>
      refine liveMaster_of_observer (i := i) ?_ rfl
      dsimp only [Slots.modify_apply]
      rw [Option.isSome_map]
      exact head?_occupied hi
    next ho =>
      rw [hm, ho] at h
      rcases not_isEmpty_iff.mp h with ⟨i, hi⟩ | ⟨i, hi⟩
      · have : (room.membersById i).isSome = true := hi
        rw [head?_occupied_none hm i] at this
        exact absurd this (by simp)
      · have : (room.observers i).isSome = true := hi
        rw [head?_occupied_none ho i] at this
        exact absurd this (by simp)

/-! ## Joining -/

/-- A racer who joins leaves a live master. -/
theorem addRacer_liveMaster (h : room.addRacer userNo participant = some room') :
    room'.LiveMaster := by
  obtain ⟨i, slot, team, hi, -, rfl⟩ := addRacer_cases h
  unfold claimMaster
  split
  next =>
    refine liveMaster_of_member (i := i) ?_ rfl
    unfold seatRacer
    simp
  next hne => exact Option.isSome_iff_ne_none.mpr hne

/-- An observer keeps a live master, and a master-observer becomes one. -/
theorem addObserver_liveMaster (h : room.addObserver userNo participant = some room')
    (hl : room.LiveMaster ∨ participant.observerMaster = true) : room'.LiveMaster := by
  obtain ⟨i, hi, rfl⟩ := addObserver_cases h
  by_cases hom : participant.observerMaster = true
  · refine liveMaster_of_observer (i := i) ?_ ?_
    · dsimp only
      simp
    · dsimp only
      rw [if_pos hom]
  · have hlive := hl.resolve_right hom
    rcases liveMaster_iff.mp hlive with ⟨j, hj, hs⟩ | ⟨j, hj, hs⟩
    · refine liveMaster_of_member (i := j) hs ?_
      dsimp only
      rw [if_neg hom, hj]
    · refine liveMaster_of_observer (i := j) ?_ ?_
      · dsimp only
        rw [Slots.put_apply]
        split
        next => rfl
        next => exact hs
      · dsimp only
        rw [if_neg hom, hj]

/-- A fresh room's master lasts until a racer or a master-observer comes. -/
theorem addObserver_unclaimed (h : room.addObserver userNo participant = some room')
    (hu : room.Unclaimed) (hom : participant.observerMaster = false) : room'.Unclaimed := by
  obtain ⟨i, hi, rfl⟩ := addObserver_cases h
  refine ⟨hu.1, ?_⟩
  dsimp only
  rw [hom, if_neg (by simp)]
  exact hu.2

theorem MasterOk.addParticipant (h : room.LiveMaster ∨ room.Unclaimed)
    (ha : room.addParticipant userNo participant = some room') : room'.MasterOk := by
  unfold ProtocolRoomState.addParticipant at ha
  split at ha
  next =>
    refine ⟨fun _ => ?_⟩
    cases hom : participant.observerMaster with
    | true => exact Or.inl (addObserver_liveMaster ha (Or.inr hom))
    | false =>
      rcases h with hl | hu
      · exact Or.inl (addObserver_liveMaster ha (Or.inl hl))
      · exact Or.inr (addObserver_unclaimed ha hu hom)
  next => exact .of_live fun _ => addRacer_liveMaster ha

/-- Only plain observers leave a room headless, and only one that was. -/
theorem headless_of_addParticipant (ha : room.addParticipant userNo participant = some room')
    (hh : room'.Headless) : participant.observer = true ∧ participant.observerMaster = false ∧
      ¬ room.LiveMaster := by
  unfold addParticipant at ha
  split at ha
  next hobs =>
    refine ⟨hobs, ?_, fun hl => hh.2 (addObserver_liveMaster ha (Or.inl hl))⟩
    by_contra hom
    exact hh.2 (addObserver_liveMaster ha (Or.inr (by simpa using hom)))
  next => exact absurd (addRacer_liveMaster ha) hh.2

/-! ## Leaving -/

theorem removeObserver_liveMaster (hne : (room.removeObserver i).isEmpty = false)
    (h : room.LiveMaster) : (room.removeObserver i).LiveMaster := by
  unfold removeObserver at hne ⊢
  dsimp only at hne ⊢
  split
  next hm =>
    rw [if_pos hm] at hne
    exact assignNextRoomMaster_live _ hne
  next hm =>
    rcases liveMaster_iff.mp h with ⟨j, hj, hs⟩ | ⟨j, hj, hs⟩
    · exact liveMaster_of_member (i := j) hs hj
    · refine liveMaster_of_observer (i := j) ?_ hj
      dsimp only
      rw [Slots.put_ne _ _ fun he => hm (by rw [hj, he])]
      exact hs

/-- The master after a removal, before the racers are reranked. -/
theorem beforeRerank_liveMaster (hne : (room.beforeRerank i).isEmpty = false)
    (h : room.LiveMaster) : (room.beforeRerank i).LiveMaster := by
  have hmembers := clearSlotOf_members { room with membersById := room.membersById.put i none } i
  have hrest : ({ room with membersById := room.membersById.put i none }.clearSlotOf i).observers =
        room.observers ∧
      ({ room with membersById := room.membersById.put i none }.clearSlotOf i).roomMaster =
        room.roomMaster := by
    unfold clearSlotOf
    split
    next => exact ⟨rfl, rfl⟩
    next => exact ⟨rfl, rfl⟩
  unfold beforeRerank at hne ⊢
  dsimp only at hne ⊢
  split
  next hm =>
    rw [if_pos hm] at hne
    exact assignNextRoomMaster_live _ hne
  next hm =>
    rcases liveMaster_iff.mp h with ⟨j, hj, hs⟩ | ⟨j, hj, hs⟩
    · refine liveMaster_of_member (i := j) ?_ (hrest.2.trans hj)
      rw [hmembers]
      dsimp only
      rw [Slots.put_ne _ _ fun he => hm (by rw [hj, he])]
      exact hs
    · exact liveMaster_of_observer (i := j) (by rw [hrest.1]; exact hs) (hrest.2.trans hj)

theorem rerank_samePeople (room : ProtocolRoomState) (order : List (Fin 8)) :
    room.SamePeople (room.rerank order) := (room.rerank_samePlaces order).samePeople rfl

theorem removeMember_liveMaster (hne : (room.removeMember i).isEmpty = false)
    (h : room.LiveMaster) : (room.removeMember i).LiveMaster := by
  rw [removeMember_eq] at hne ⊢
  rw [(rerank_samePeople _ _).isEmpty] at hne
  exact (rerank_samePeople _ _).liveMaster.mpr (beforeRerank_liveMaster hne h)

/-- Nobody's leaving costs a room its live master. -/
theorem removeUser_liveMaster (hr : room.removeUser userNo = some room')
    (hne : room'.isEmpty = false) (h : room.LiveMaster) : room'.LiveMaster := by
  rcases removeUser_cases hr with ⟨i, m, hm, rfl, rfl⟩ | ⟨i, m, hm, rfl, rfl⟩
  · exact removeObserver_liveMaster hne h
  · exact removeMember_liveMaster hne h

theorem not_isEmpty_of_mem (h : userNo ∈ room.userNos) : room.isEmpty = false := by
  rw [← Bool.not_eq_true, ← userNos_eq_nil]
  exact List.ne_nil_of_mem h

theorem mem_of_removeUser (hr : room.removeUser userNo = some room') : userNo ∈ room.userNos := by
  rcases removeUser_cases hr with ⟨i, m, hm, rfl, rfl⟩ | ⟨i, m, hm, rfl, rfl⟩
  · exact mem_userNos.mpr (Or.inr ⟨i, m, hm, rfl⟩)
  · exact mem_userNos.mpr (Or.inl ⟨i, m, hm, rfl⟩)

theorem MasterOk.removeUser (h : room.MasterOk) (hr : room.removeUser userNo = some room') :
    room'.MasterOk := by
  refine ⟨fun hne => ?_⟩
  rcases h.live (not_isEmpty_of_mem (mem_of_removeUser hr)) with hl | hu
  · exact Or.inl (removeUser_liveMaster hr hne hl)
  · rcases removeUser_cases hr with ⟨i, m, hm, rfl, rfl⟩ | ⟨i, m, hm, rfl, rfl⟩
    · unfold removeObserver at hne ⊢
      dsimp only at hne ⊢
      split
      next he =>
        rw [if_pos he] at hne
        exact Or.inl (assignNextRoomMaster_live _ hne)
      next => exact Or.inr hu
    · rw [hu.1 i] at hm
      exact absurd hm (by simp)

theorem headless_of_removeUser (hr : room.removeUser userNo = some room') (hh : room'.Headless) :
    room.Headless :=
  ⟨not_isEmpty_of_mem (mem_of_removeUser hr), fun hl => hh.2 (removeUser_liveMaster hr hh.1 hl)⟩

/-! ## In place -/

theorem Reseat.master_cases (hr : room.Reseat room') : room'.LiveMaster ∨ room.SamePeople room' := by
  cases hr with
  | @team i current target m t =>
    refine Or.inr ⟨fun j => ?_, fun _ => rfl, rfl⟩
    unfold moveTeam
    simp
  | master member =>
    refine Or.inl (liveMaster_of_member (i := _) ?_ rfl)
    rw [member]
    rfl
  | removeAi => exact Or.inr ⟨fun _ => rfl, fun _ => rfl, rfl⟩
  | addAi => exact Or.inr ⟨fun _ => rfl, fun _ => rfl, rfl⟩
  | close => exact Or.inr ⟨fun _ => rfl, fun _ => rfl, rfl⟩

/-- An edit in place leaves a live master or the same people. -/
theorem RoomMove.master_cases (e : room.RoomMove room') :
    room'.LiveMaster ∨ room.SamePeople room' := by
  cases e with
  | touch seats => exact Or.inr (seats.toSamePlaces.samePeople seats.master)
  | reseat _ h => exact h.master_cases
  | run => exact Or.inr ⟨fun _ => rfl, fun _ => rfl, rfl⟩
  | settle => exact Or.inr ⟨fun _ => rfl, fun _ => rfl, rfl⟩

theorem MasterOk.edit (h : room.MasterOk) (e : room.RoomMove room') : room'.MasterOk := by
  rcases e.master_cases with hl | hs
  · exact .of_live fun _ => hl
  · exact hs.masterOk h

theorem headless_of_edit (e : room.RoomMove room') (hh : room'.Headless) : room.Headless := by
  rcases e.master_cases with hl | hs
  · exact absurd hl hh.2
  · exact hs.headless hh

/-! ## After a race -/

/-- The next lobby master is a racer who is there, whom the ranking lists, and in a
team race one of the winners; or nothing changes. -/
theorem applyNextLobbyMaster_cases (room : ProtocolRoomState) (ranking : SettlementRanking) :
    (room.applyNextLobbyMaster ranking).2 = room ∨
      ∃ i, i ∈ room.masterCandidates ranking ∧
        room.applyNextLobbyMaster ranking =
          (some (memberPlayerId i), { room with roomMaster := memberPlayerId i }) := by
  unfold applyNextLobbyMaster
  split
  next => exact Or.inl rfl
  next =>
    dsimp only
    split
    next => exact Or.inl rfl
    next i hi =>
      exact Or.inr ⟨i, mem_sortByKey.mp (List.mem_of_head? hi), rfl⟩

theorem mem_rankedActive {ranking : SettlementRanking} :
    i ∈ room.rankedActive ranking ↔ (room.membersById i).isSome = true ∧
      (ranking.byPlayerId.lookup (memberPlayerId i)).isSome = true := by
  unfold rankedActive
  rw [List.mem_filter, Slots.mem_occupied]

theorem mem_masterCandidates {ranking : SettlementRanking} :
    i ∈ room.masterCandidates ranking ↔ i ∈ room.rankedActive ranking ∧
      ∀ winner, ranking.winningTeam = some winner →
        ∀ ranked, ranking.byPlayerId.lookup (memberPlayerId i) = some ranked →
          ranked.team = some winner := by
  unfold masterCandidates
  rw [List.mem_filter]
  refine and_congr_right fun hi => ?_
  obtain ⟨ranked, hr⟩ := Option.isSome_iff_exists.mp (mem_rankedActive.mp hi).2
  cases hw : ranking.winningTeam with
  | none => simp
  | some winner => simp [hr]

theorem applyNextLobbyMaster_master_cases (room : ProtocolRoomState)
    (ranking : SettlementRanking) :
    (room.applyNextLobbyMaster ranking).2.LiveMaster ∨
      room.SamePeople (room.applyNextLobbyMaster ranking).2 := by
  rcases room.applyNextLobbyMaster_cases ranking with he | ⟨i, hi, he⟩
  · rw [he]
    exact Or.inr ⟨fun _ => rfl, fun _ => rfl, rfl⟩
  · rw [he]
    have hm := (mem_rankedActive.mp (mem_masterCandidates.mp hi).1).1
    exact Or.inl (liveMaster_of_member (i := i) hm rfl)

theorem resetMembers_samePeople (room : ProtocolRoomState) :
    room.SamePeople room.clearRace.resetMembers := by
  refine ⟨fun i => ?_, fun _ => rfl, rfl⟩
  unfold clearRace resetMembers
  simp

/-- Settling leaves a live master or the same people. -/
theorem finalizeSettlement_master_cases (room : ProtocolRoomState) (ranking : SettlementRanking) :
    (room.finalizeSettlement ranking).LiveMaster ∨
      room.SamePeople (room.finalizeSettlement ranking) := by
  have hgrid : room.SamePeople (room.applyNextGridRanking ranking) := rerank_samePeople _ _
  have hreset := resetMembers_samePeople
    ((room.applyNextGridRanking ranking).applyNextLobbyMaster ranking).2
  rcases (room.applyNextGridRanking ranking).applyNextLobbyMaster_master_cases ranking with hl | hs
  · exact Or.inl (hreset.liveMaster.mpr hl)
  · exact Or.inr ⟨fun i => (hreset.members i).trans ((hs.members i).trans (hgrid.members i)),
      fun i => (hreset.observers i).trans ((hs.observers i).trans (hgrid.observers i)),
      hreset.master.trans (hs.master.trans hgrid.master)⟩

end ProtocolRoomState

end P4475
