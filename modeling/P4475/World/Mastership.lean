import P4475.World.RoomSteps

/-!
# Who the master is

A room with people in it has a live master, unless nobody but non-master observers has
ever been there; so an exceptional room has been one since a non-master observer opened
it. The transcript of a run says when that was.
-/

namespace P4475

open Lib ProtocolRoomState

/-! ## Headless rooms -/

section Steps

variable {active : UserNo → Option IdentityBinding} {issued : Option RewardAttemptId}
  {t t' : ProtocolTables} {id : RoomId} {room room' : ProtocolRoomState}
  {v : Option ProtocolRoomState}

theorem headless_of_moves (e : room.RoomMoves room') (hh : room'.Headless) : room.Headless := by
  induction e with
  | refl => exact hh
  | tail _ e ih => exact ih (headless_of_edit e hh)

/-- A room without a live master had none before. -/
theorem RoomStep.headless (h : room.RoomOk) (hs : RoomStep active issued t id room v)
    (hv : v = some room') (hh : room'.Headless) : room.Headless := by
  cases hs with
  | stay =>
    cases hv
    exact hh
  | edit edit =>
    cases hv
    exact headless_of_moves edit.moves hh
  | enter lobby added =>
    cases hv
    exact ⟨h.race.populated (Or.inl lobby), (headless_of_addParticipant added hh).2.2⟩
  | leave removed =>
    split at hv
    next => exact absurd hv (by simp)
    next =>
      cases hv
      exact headless_of_removeUser removed hh
  | start lobby _ _ _ same _ =>
    cases hv
    have hpeople := same.toSamePlaces.samePeople same.master
    exact hpeople.headless ⟨hh.1, hh.2⟩
  | abort _ =>
    cases hv
    exact (resetMembers_samePeople room).headless hh
  | finalize _ =>
    split at hv
    next => exact absurd hv (by simp)
    next =>
      cases hv
      rcases finalizeSettlement_master_cases room _ with hlive | hsame
      · exact absurd hlive hh.2
      · exact hsame.headless hh

end Steps

variable {H Q P : Type} {env : WorldEnv H Q P}

/-- The room of this id has people in it and no live master. -/
def World.HeadlessAt (w : World H) (id : RoomId) : Prop :=
  ∃ room, w.room? id = some room ∧ room.Headless

theorem headlessAt_of_edit {w w' : World H} {id : RoomId} (h : w.Ok env)
    (e : WorldEdit env w w') (hh : w'.HeadlessAt id) : w.HeadlessAt id := by
  obtain ⟨room', hr', hh'⟩ := hh
  cases e with
  | identities tables _ _ =>
    refine ⟨room', ?_, hh'⟩
    have hr : w'.protocol.protocolRooms.lookup id = some room' := hr'
    rwa [tables] at hr
  | tables _ _ edit =>
    cases hr : w.protocol.protocolRooms.lookup id with
    | none =>
      have hnone := h.tables.no_room edit hr
      rw [show w'.protocol.protocolRooms.lookup id = some room' from hr'] at hnone
      exact absurd hnone (by simp)
    | some room =>
      exact ⟨room, hr, (h.tables.roomStep edit hr).headless (h.tables.rooms hr).2 hr' hh'⟩

theorem headlessAt_of_edits {w w' : World H} {id : RoomId} (h : w.Ok env)
    (e : WorldEdits env w w') (hh : w'.HeadlessAt id) : w.HeadlessAt id := by
  induction e with
  | refl => exact hh
  | tail hpath he ih => exact ih (headlessAt_of_edit (h.edits hpath) he hh)

/-- Opening makes a headless room only for an observer who is not to be master. -/
theorem headlessAt_of_opens {t t' : ProtocolTables} {participant : RoomParticipant} {id : RoomId}
    {room' : ProtocolRoomState} (ho : Opens participant t t')
    (hr : t'.protocolRooms.lookup id = some room') (hh : room'.Headless) :
    t.protocolRooms.lookup id = some room' ∨ (t.protocolRooms.lookup id = none ∧
      participant.observer = true ∧ participant.observerMaster = false) := by
  cases ho with
  | @open_ k settings userNo prepared room free absent new observer observerMaster added =>
    rw [show _ = _ from Map.lookup_insert_ite _ _ _ _] at hr
    split at hr
    next he =>
      cases hr
      obtain ⟨hobserver, hmaster, -⟩ := headless_of_addParticipant added hh
      exact Or.inr ⟨he ▸ absent, observer ▸ hobserver, observerMaster ▸ hmaster⟩
    next => exact Or.inl hr

/-- A room of this id is opened by an observer who is not to be master. -/
def OpenedByObserver (id : RoomId) (a : WorldActor H) (action : WorldAction Q P)
    (_ : WorldActor H) : Prop :=
  a.world.room? id = none ∧ ∃ participant, action.opener = some participant ∧
    participant.observer = true ∧ participant.observerMaster = false

theorem headlessAt_of_step {a a' : WorldActor H} {action : WorldAction Q P}
    {response : WorldResponse} {id : RoomId} (h : a.world.Ok env)
    (hs : (WorldActor.machine env).step a action = some (response, a'))
    (hh : a'.world.HeadlessAt id) :
    a.world.HeadlessAt id ∨ OpenedByObserver id a action a' := by
  cases WorldActor.step_edits hs with
  | edits e => exact Or.inl (headlessAt_of_edits h e hh)
  | opens opener_ identities _ open_ e =>
    obtain ⟨room, hr, hroom⟩ := headlessAt_of_edits (h.opens identities open_) e hh
    rcases headlessAt_of_opens open_ hr hroom with hbefore | ⟨habsent, ho, hm⟩
    · exact Or.inl ⟨room, hbefore, hroom⟩
    · exact Or.inr ⟨habsent, _, opener_, ho, hm⟩

/-! ## Masters -/

/-- The candidate of `apply_next_lobby_master`: an observer who is the master already, or
a racer of the room who is ranked, in the winning team if there is one. -/
def ProtocolRoomState.Electable (room : ProtocolRoomState) (ranking : SettlementRanking)
    (playerId : Int) : Prop :=
  (playerId = room.roomMaster ∧ ∃ i, playerId = observerPlayerId i ∧
      (room.observers i).isSome = true) ∨
    ∃ i ranked, playerId = memberPlayerId i ∧ (room.membersById i).isSome = true ∧
      ranking.byPlayerId.lookup playerId = some ranked ∧
      ∀ winner, ranking.winningTeam = some winner → ranked.team = some winner

theorem applyNextLobbyMaster_electable (room : ProtocolRoomState) {ranking : SettlementRanking}
    {playerId : Int} {room' : ProtocolRoomState}
    (h : room.applyNextLobbyMaster ranking = (some playerId, room')) :
    room'.roomMaster = playerId ∧ room.Electable ranking playerId := by
  unfold applyNextLobbyMaster at h
  split at h
  next hobserver =>
    cases h
    refine ⟨rfl, Or.inl ⟨rfl, ?_⟩⟩
    obtain ⟨m, hm⟩ := Option.isSome_iff_exists.mp hobserver.2
    rcases memberByPlayerId_some hm with ⟨i, hi, -⟩ | ⟨i, hi, hsome⟩
    · have hlow : memberPlayerId i < 8 := by
        unfold memberPlayerId
        omega
      omega
    · exact ⟨i, hi, by rw [hsome, Option.isSome_some]⟩
  next =>
    dsimp only at h
    split at h
    next => exact absurd h (by simp)
    next i hi =>
      cases h
      refine ⟨rfl, Or.inr ?_⟩
      have hmem : i ∈ room.masterCandidates ranking :=
        (sortByKey_perm _ _).mem_iff.mp (List.mem_of_head? hi)
      obtain ⟨hranked, hteam⟩ := mem_masterCandidates.mp hmem
      obtain ⟨hmember, hsome⟩ := mem_rankedActive.mp hranked
      obtain ⟨ranked, hlookup⟩ := Option.isSome_iff_exists.mp hsome
      exact ⟨i, ranked, rfl, hmember, hlookup, fun winner hw => hteam winner hw ranked hlookup⟩

/-- **The master of every reachable room.** -/
theorem reachable_master {tr : List (WorldAction Q P × WorldResponse)} {a : WorldActor H}
    (h : (WorldActor.machine env).History tr a) {id : RoomId} {room : ProtocolRoomState}
    (hr : a.world.room? id = some room) (hpeople : room.isEmpty = false) :
    (room.LiveMaster ∨
      ((∀ i, room.membersById i = none) ∧ room.roomMaster = 0 ∧
        (WorldActor.machine env).Since (OpenedByObserver id) (fun a => a.world.HeadlessAt id)
          tr a)) ∧
    (∀ {userNo participant room'}, participant.observer = false →
      room.addParticipant userNo participant = some room' → room'.LiveMaster) ∧
    ∀ {ranking playerId room'}, room.applyNextLobbyMaster ranking = (some playerId, room') →
      room'.roomMaster = playerId ∧ room.Electable ranking playerId := by
  have hok := (WorldActor.ok_of_reachable h.reachable).tables.rooms hr
  refine ⟨?_, fun ho ha => ?_, fun he => applyNextLobbyMaster_electable room he⟩
  · by_cases hlive : room.LiveMaster
    · exact Or.inl hlive
    · rcases hok.2.master.live hpeople with hl | ⟨hnobody, hmaster⟩
      · exact Or.inl hl
      · refine Or.inr ⟨hnobody, hmaster, ?_⟩
        refine h.since ?_ (fun hist hs hh => headlessAt_of_step
          (WorldActor.ok_of_reachable hist.reachable) hs hh) ⟨room, hr, hpeople, hlive⟩
        rintro ⟨room₀, hr₀, -⟩
        exact absurd hr₀ (by simp [WorldActor.machine, World.room?, World.initial,
          ProtocolTables.initial])
  · unfold addParticipant at ha
    rw [ho, if_neg (by simp)] at ha
    exact addRacer_liveMaster ha

/-- The user who opened the room is its master. -/
theorem roomRun_master : ∃ room, roomRun.2.world.room? ⟨1⟩ = some room ∧ room.LiveMaster := by
  have hsome : (roomRun.2.world.room? ⟨1⟩).isSome = true := by decide +kernel
  have hmember : (roomRun.2.world.room? ⟨1⟩).map
      (fun room => (room.isEmpty, (room.membersById 0).isNone)) = some (false, false) := by
    decide +kernel
  obtain ⟨room, hr⟩ := Option.isSome_iff_exists.mp hsome
  rw [hr, Option.map_some, Option.some.injEq, Prod.mk.injEq] at hmember
  refine ⟨room, hr, ?_⟩
  rcases (reachable_master roomRun_history hr hmember.1).1 with hlive | ⟨hnobody, -, -⟩
  · exact hlive
  · rw [hnobody 0] at hmember
    exact absurd hmember.2 (by simp)

end P4475
