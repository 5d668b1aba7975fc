import P4475.World.Simulation.Rooms

/-!
# Lobby commands are paths of edits

A command that installs a copy of the room edits the room in place; a kick and the
start of a race are transactions of their own.
-/

namespace P4475

open Lib ProtocolRoomState

namespace World

variable {H Q P : Type} (env : WorldEnv H Q P) {w w' : World H} {id : RoomId}
  {room room' : ProtocolRoomState}

theorem lobbyRoom_ok {identity : IdentityBinding} (h : w.lobbyRoom identity = .ok (id, room)) :
    w.roomOf? identity.userNo = some id ∧ w.room? id = some room := by
  unfold lobbyRoom at h
  split at h
  next => exact absurd h (by simp)
  next k hk =>
    split at h
    next => exact absurd h (by simp)
    next r hr =>
      cases h
      exact ⟨hk, hr⟩

/-- A copy of the room takes its place, or nothing happens. -/
theorem replaceRoom_within (hr : w.room? id = some room) (he : room.RoomEdits room')
    (deliveries : Except LobbyError (List OutboundDelivery)) (outcome : LobbyCommandOutcome) :
    Within w (w.replaceRoom id room' deliveries outcome).2 := by
  unfold replaceRoom
  split
  next => exact .refl w
  next reserved _ => exact (Within.puts hr he).published reserved

theorem relay_within (w : World H) (id : RoomId)
    (deliveries : Except LobbyError (List OutboundDelivery)) :
    Within w (w.relay id deliveries).2 := by
  unfold relay
  split
  next => exact .refl w
  next reserved _ => exact .publishReserved w reserved

theorem setSlotState_within (w : World H) (identity : IdentityBinding) (state : PlayerSlotState) :
    Within w (w.setSlotState env identity state).2 := by
  unfold setSlotState
  split
  next => exact .refl w
  next id room hl =>
    split
    next => exact .refl w
    next i next hp =>
      obtain ⟨-, rfl⟩ := planSlotState_ok hp
      exact replaceRoom_within (lobbyRoom_ok hl).2 (.single (setPlayerType_edit room i state)) _ _

theorem changeTeam_within (w : World H) (identity : IdentityBinding) (team : RoomTeam) :
    Within w (w.changeTeam env identity team).2 := by
  unfold changeTeam
  split
  next => exact .refl w
  next id room hl =>
    split
    next => exact .refl w
    next i slot next hp =>
      refine replaceRoom_within (lobbyRoom_ok hl).2 ?_ _ _
      obtain ⟨lobby, rfl | ⟨m, current, mode, hm, hcurrent, half, free, rfl⟩⟩ := planTeam_ok hp
      · exact .refl
      · exact .single (.reseat lobby (.team mode hm hcurrent half free))

theorem planMaster_edits {unicode : Unicode} {userNo : UserNo} {target : Text} {i : Fin 8}
    (h : room.planMaster unicode userNo target = .ok (i, room')) : room.RoomEdits room' := by
  obtain ⟨lobby, requester, m, hm, rfl⟩ := planMaster_ok h
  refine .tail (.tail (.single (setPlayerType_edit room requester .notReady))
    (setPlayerType_edit _ i .notReady)) (.reseat lobby ?_)
  have hsome : (((room.setPlayerType requester .notReady).setPlayerType i
      .notReady).membersById i).isSome = true := by
    unfold setPlayerType
    simp [hm]
  obtain ⟨m', hm'⟩ := Option.isSome_iff_exists.mp hsome
  exact .master hm'

theorem changeMaster_within (w : World H) (identity : IdentityBinding) (nickname : Text) :
    Within w (w.changeMaster env identity nickname).2 := by
  unfold changeMaster
  split
  next => exact .refl w
  next id room hl =>
    split
    next => exact .refl w
    next i next hp => exact replaceRoom_within (lobbyRoom_ok hl).2 (planMaster_edits hp) _ _

theorem changeTrack_within (w : World H) (identity : IdentityBinding)
    (request : ChangeTrackRequest) : Within w (w.changeTrack env identity request).2 := by
  unfold changeTrack
  split
  next => exact .refl w
  next id room hl =>
    split
    next => exact .refl w
    next =>
      have hedit : room.RoomEdit none (room.withTrack request) := .settings room rfl
      exact replaceRoom_within (lobbyRoom_ok hl).2 (.single hedit) _ _

theorem changeRoomInfo_within (w : World H) (identity : IdentityBinding)
    (request : ChangeRoomInfoRequest) : Within w (w.changeRoomInfo env identity request).2 := by
  unfold changeRoomInfo
  split
  next => exact .refl w
  next id room hl =>
    split
    next => exact .refl w
    next =>
      have hedit : room.RoomEdit none (room.withInfo request) := .settings room rfl
      exact replaceRoom_within (lobbyRoom_ok hl).2 (.single hedit) _ _

/-- An AI placed in the half of its team. -/
theorem addBasicAi_edit {team : Nat} {ai : RoomAi} {added : Int × RoomAi}
    (lobby : room.phase = .lobby)
    (hteam : if room.teamMode then team = 1 ∨ team = 2 else team = 0)
    (h : room.addBasicAi team ai = some (room', added)) : room.RoomEdit none room' := by
  obtain ⟨i, slot, unused, half, free, rfl⟩ := addBasicAi_cases h
  refine .reseat lobby (.addAi unused free ?_)
  unfold Fits
  unfold aiSlots at half
  cases hm : room.teamMode with
  | false =>
    rw [hm] at hteam
    exact hteam
  | true =>
    rw [hm, if_pos rfl] at hteam
    rcases hteam with rfl | rfl
    · exact Or.inr ⟨rfl, of_decide_eq_true half⟩
    · exact Or.inl ⟨rfl, of_decide_eq_true half⟩

theorem addBasicAis_edits {first second : RoomAi} {added : List (Int × RoomAi)}
    (lobby : room.phase = .lobby) (h : room.addBasicAis first second = some (room', added)) :
    room.RoomEdits room' := by
  unfold addBasicAis at h
  split at h
  next hm =>
    split at h
    next => exact absurd h (by simp)
    next next blue hblue =>
      obtain ⟨⟨last, red⟩, hred, he⟩ := Option.map_eq_some_iff.mp h
      cases he
      have hfirst := addBasicAi_edit lobby (by rw [hm]; exact Or.inr rfl) hblue
      obtain ⟨i, slot, -, -, -, rfl⟩ := addBasicAi_cases hblue
      refine .tail (.single hfirst) (addBasicAi_edit lobby ?_ hred)
      have hmode : (room.withAi i slot { first with team := 2 }).teamMode = true := hm
      rw [hmode]
      exact Or.inl rfl
  next hm =>
    obtain ⟨⟨last, ai⟩, hai, he⟩ := Option.map_eq_some_iff.mp h
    cases he
    exact .single (addBasicAi_edit lobby (by rw [if_neg hm]) hai)

theorem planBasicAi_edits {request : BasicAiRequest} {first second : RoomAi} {delta : Packet}
    (lobby : room.phase = .lobby)
    (h : room.planBasicAi request first second = .ok (some (room', delta))) :
    room.RoomEdits room' := by
  unfold planBasicAi at h
  split at h
  next => exact absurd h (by simp)
  next playerId next hr =>
    cases h
    obtain ⟨i, ai, slot, hai, hslot, rfl⟩ := removeAi_cases hr
    exact .single (.reseat lobby (.removeAi hai hslot))
  next =>
    split at h
    next => exact absurd h (by simp)
    next next added ha =>
      cases h
      exact addBasicAis_edits lobby ha

theorem changeBasicAi_within (w : World H) (identity : IdentityBinding) (request : BasicAiRequest)
    (first second : RoomAi) : Within w (w.changeBasicAi env identity request first second).2 := by
  unfold changeBasicAi
  split
  next => exact .refl w
  next id room hl =>
    split
    next => exact .refl w
    next hmaster =>
      have lobby := (requireLobbyMaster_ok hmaster).1
      split
      next => exact .refl w
      next => exact replaceRoom_within (lobbyRoom_ok hl).2 .refl _ _
      next next delta hp =>
        exact replaceRoom_within (lobbyRoom_ok hl).2 (planBasicAi_edits lobby hp) _ _

theorem setCloseSlots_edits {request : CloseSlotRequest} (lobby : room.phase = .lobby)
    (h : room.setCloseSlots request = some room') : room.RoomEdits room' := by
  rcases setCloseSlots_cases h with ⟨i, s, ha, rfl⟩ | ⟨i, s, j, t, hij, hst, ha, hb, rfl⟩
  · exact .single (.reseat lobby (.close ha))
  · exact .tail (.single (.reseat lobby (.close ha)))
      (.reseat lobby (.close (closeAllowed_closePair hij hst hb)))

theorem changeClosedSlots_within (w : World H) (identity : IdentityBinding)
    (request : CloseSlotRequest) : Within w (w.changeClosedSlots env identity request).2 := by
  unfold changeClosedSlots
  split
  next => exact .refl w
  next id room hl =>
    split
    next => exact .refl w
    next hmaster =>
      refine replaceRoom_within (lobbyRoom_ok hl).2 ?_ _ _
      cases hs : room.setCloseSlots request with
      | none => exact .refl
      | some next => exact setCloseSlots_edits (requireLobbyMaster_ok hmaster).1 hs

/-! ## Kicking -/

theorem kickTarget_ok {playerId : Int} {target : ProtocolRoomMember}
    (h : kickTarget room playerId = .ok target) : target.userNo ∈ room.userNos := by
  unfold kickTarget at h
  split at h
  next =>
    split at h
    next member hm =>
      cases h
      rcases memberByPlayerId_some hm with ⟨i, -, hi⟩ | ⟨i, -, hi⟩
      · exact mem_userNos.mpr (Or.inl ⟨i, target, hi, rfl⟩)
      · exact mem_userNos.mpr (Or.inr ⟨i, target, hi, rfl⟩)
    next => exact absurd h (by simp)
  next => exact absurd h (by simp)

theorem kickPlayer_within (w : World H) (identity : IdentityBinding) (request : KickRequest) :
    Within w (w.kickPlayer env identity request).2 := by
  unfold kickPlayer
  split
  next => exact .refl w
  next id room hl =>
    split
    next => exact .refl w
    next hmaster =>
      split
      next => exact .refl w
      next target ht =>
        split
        next => exact .refl w
        next =>
          dsimp only
          split
          next => exact .refl w
          next reserved _ =>
            have hkick : Within w { w with
                protocol := kickTables w.protocol id target.userNo
                  ((room.removeUser target.userNo).getD room) } :=
              .edit rfl rfl (.kick (lobbyRoom_ok hl).2 (requireLobbyMaster_ok hmaster).1
                (kickTarget_ok ht)) (kickTables_shrinks _ _ _ _) rfl
                fun h => h.move (.kick target.userNo _ (lobbyRoom_ok hl).2) rfl
            exact hkick.published reserved

theorem relayRiderTalk_within (w : World H) (identity : IdentityBinding)
    (request : LobbyRiderTalkRequest) : Within w (w.relayRiderTalk env identity request).2 := by
  unfold relayRiderTalk
  split
  next => exact .refl w
  next =>
    split
    next => exact .refl w
    next => exact relay_within w _ _

theorem relayMacroChat_within (w : World H) (identity : IdentityBinding)
    (request : MacroChatRequest) (message : Text) :
    Within w (w.relayMacroChat env identity request message).2 := by
  unfold relayMacroChat
  split
  next => exact .refl w
  next =>
    split
    next => exact .refl w
    next => exact relay_within w _ _

/-! ## Starting a race -/

theorem startObstacle_none {requester : Int} {l : List (Fin 8)}
    (h : w.startObstacle room requester l = none) : ∀ i ∈ l, ∀ m, room.membersById i = some m →
      w.protocol.rewardLanes.lookup m.userNo = none := by
  induction l with
  | nil => exact fun i hi => absurd hi List.not_mem_nil
  | cons j rest ih =>
    unfold startObstacle at h
    intro i hi m hm
    split at h
    next hj =>
      rcases List.mem_cons.mp hi with rfl | hi
      · rw [hm] at hj
        exact absurd hj (by simp)
      · exact ih h i hi m hm
    next member hj =>
      split at h
      next => exact absurd h (by simp)
      next =>
        split at h
        next => exact absurd h (by simp)
        next hfree =>
          rcases List.mem_cons.mp hi with rfl | hi
          · rw [hm] at hj
            cases hj
            exact hfree
          · exact ih h i hi m hm

theorem validateStartRacers_ok {requester : Int} {count : Nat}
    (h : w.validateStartRacers room requester = .ok count) :
    room.membersById.entries.length ≠ 0 ∧ ∀ i m, room.membersById i = some m →
      w.protocol.rewardLanes.lookup m.userNo = none := by
  unfold validateStartRacers at h
  split at h
  next => exact absurd h (by simp)
  next hne =>
    split at h
    next => exact absurd h (by simp)
    next hnone => exact ⟨hne, fun i m hm => startObstacle_none hnone i (List.mem_finRange i) m hm⟩

theorem freezeRacer_ok {i : Fin 8} {member : ProtocolRoomMember} {p : FrozenRaceParticipant}
    (h : w.freezeRacer i member = .ok p) : FreezesRacer w.activeIdentity (i, member) p := by
  unfold freezeRacer at h
  split at h
  next => exact absurd h (by simp)
  next identity ha =>
    cases h
    exact ⟨ha, rfl, rfl, rfl, rfl⟩

theorem freezeObserver_ok {i : Fin 8} {member : ProtocolRoomMember} {p : FrozenRaceParticipant}
    (h : w.freezeObserver i member = .ok p) : FreezesObserver w.activeIdentity (i, member) p := by
  unfold freezeObserver at h
  split at h
  next => exact absurd h (by simp)
  next identity ha =>
    cases h
    exact ⟨ha, rfl, rfl⟩

theorem freezeRacer_unpaid {i : Fin 8} {member : ProtocolRoomMember} {p : FrozenRaceParticipant}
    (h : w.freezeRacer i member = .ok p) : p.result.map (·.economy) = some .pending := by
  unfold freezeRacer at h
  split at h
  next => exact absurd h (by simp)
  next =>
    cases h
    rfl

theorem freezeRaceRoster_ok {fence : RaceFence} {track : Nat} {roster : FrozenRaceRoster}
    (h : w.freezeRaceRoster room fence track = .ok roster) :
    Freezes w.activeIdentity room fence roster := by
  unfold freezeRaceRoster at h
  split at h
  next => exact absurd h (by simp)
  next racers hr =>
    split at h
    next => exact absurd h (by simp)
    next observers ho =>
      cases h
      have hobservers := mapM_forall₂ (fun ⟨i, m⟩ _ hf => freezeObserver_ok hf) ho
      have hunpaid := mapM_forall₂ (R := fun _ p => p.result.map (·.economy) = some .pending)
        (fun ⟨i, m⟩ _ hf => freezeRacer_unpaid hf) hr
      refine ⟨rfl, ⟨racers, observers, rfl,
        mapM_forall₂ (fun ⟨i, m⟩ _ hf => freezeRacer_ok hf) hr, hobservers⟩, rfl, fun p hp => ?_⟩
      obtain ⟨hmem, hracer⟩ := List.mem_filter.mp hp
      rcases List.mem_append.mp hmem with hmem | hmem
      · obtain ⟨_, _, hpending⟩ := exists_of_forall₂_right hunpaid hmem
        exact hpending
      · obtain ⟨_, _, hobserver⟩ := exists_of_forall₂_right hobservers hmem
        rw [hobserver.2.2] at hracer
        exact absurd hracer (by simp)

theorem selectStartTrack_sameSeats {plan : StartRoomPlan} {draw track : Nat}
    (h : selectStartTrack room plan draw = .ok (track, room')) : room.SameSeats room' := by
  unfold selectStartTrack at h
  dsimp only at h
  split at h
  next => exact absurd h (by simp)
  next selected hs =>
    cases h
    exact selectConcreteTrack_sameSeats hs

theorem startRoom_within (w : World H) (identity : IdentityBinding) (plan : StartRoomPlan)
    (draw : Nat) : Within w (w.startRoom env identity plan draw).2 := by
  unfold startRoom
  split
  next => exact .refl w
  next =>
    split
    next => exact .refl w
    next id room hl =>
      split
      next => exact .refl w
      next requester hmaster =>
        split
        next => exact .refl w
        next =>
          split
          next => exact .refl w
          next count hvalid =>
            split
            next => exact .refl w
            next epoch hepoch =>
              dsimp only
              split
              next => exact .refl w
              next track next htrack =>
                split
                next => exact .refl w
                next roster hfrozen =>
                  split
                  next => exact .refl w
                  next reserved _ =>
                    obtain ⟨hracers, hfree⟩ := validateStartRacers_ok hvalid
                    have hstart : Within w { w with
                        protocol := startTables w.protocol id (loadingRoom next ⟨id, epoch⟩ roster)
                          roster (followingRaceEpoch epoch) } :=
                      .edit rfl rfl (.start (lobbyRoom_ok hl).2 (requireLobbyMaster_ok hmaster).1
                        hracers hfree hepoch (selectStartTrack_sameSeats htrack)
                        (freezeRaceRoster_ok hfrozen)) (.of_eq rfl) rfl
                        fun h => h.move (.put w.protocol _ (lobbyRoom_ok hl).2 rfl rfl) rfl
                    exact hstart.published reserved

theorem publishStartRejection_within (w : World H) (session : SessionId) :
    Within w (w.publishStartRejection session).2 := by
  unfold publishStartRejection
  split
  next => exact .refl w
  next reserved _ => exact .publishReserved w reserved

theorem lobbyStart_within (w : World H) (session : SessionId) (identity : IdentityBinding)
    (plan : StartRoomPlan) (draw : Nat) :
    Within w (w.lobbyStart env session identity plan draw).2 := by
  unfold lobbyStart
  dsimp only
  generalize (if w.randomTracks.isSome then { plan with randomTracks := w.randomTracks }
    else plan : StartRoomPlan) = plan
  have hstart := startRoom_within env w identity plan draw
  split
  next w₁ he => rw [he] at hstart; exact hstart
  next w₁ he => rw [he] at hstart; exact hstart
  next e w₁ _ he =>
    rw [he] at hstart
    have hreject := publishStartRejection_within w₁ session
    split
    next w₂ hr => rw [hr] at hreject; exact hstart.trans hreject
    next w₂ hr => rw [hr] at hreject; exact hstart.trans hreject

theorem runLobbyCommand_within (w : World H) (session : SessionId) (identity : IdentityBinding)
    (payload : LobbyCommandPayload) :
    Within w (w.runLobbyCommand env session identity payload).2 := by
  cases payload with
  | setSlotState state => exact setSlotState_within env w identity state
  | changeTeam team => exact changeTeam_within env w identity team
  | changeMaster nickname => exact changeMaster_within env w identity nickname
  | startRoom plan draw => exact lobbyStart_within env w session identity plan draw
  | changeTrack request => exact changeTrack_within env w identity request
  | basicAi request first second =>
    exact changeBasicAi_within env w identity request first second
  | closeSlot request => exact changeClosedSlots_within env w identity request
  | riderTalk request => exact relayRiderTalk_within env w identity request
  | macroChat request message => exact relayMacroChat_within env w identity request message
  | changeRoomInfo request => exact changeRoomInfo_within env w identity request
  | kick request => exact kickPlayer_within env w identity request

theorem lobbyCommand_within (w : World H) (session : SessionId) (payload : LobbyCommandPayload) :
    Within w (w.lobbyCommand env session payload).2 := by
  unfold lobbyCommand
  split
  next => exact .refl w
  next identity _ => exact runLobbyCommand_within env w session identity payload

end World

end P4475
