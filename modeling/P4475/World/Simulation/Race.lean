import P4475.World.Simulation.Lobby

/-!
# The race is a path of edits

Race commands, readiness reports and the heartbeat. The heartbeat walks the rooms of a
phase; each step edits the room it visits and no other, so the phase still holds when
the walk arrives.
-/

namespace P4475

open Lib ProtocolRoomState

namespace World

variable {H Q P : Type} (env : WorldEnv H Q P) {w w' : World H} {id k : RoomId}
  {room room' : ProtocolRoomState}

/-! ## Readiness -/

theorem markLoadingReady_within (w : World H) (candidate : LoadingReadinessCandidate) :
    Within w (w.markLoadingReady candidate) := by
  unfold markLoadingReady
  split
  next => exact .refl w
  next =>
    split
    next =>
      split
      next => exact .refl w
      next room hr =>
        split
        next =>
          split
          next => exact .put hr (.handshake room _)
          next => exact .refl w
        next => exact .refl w
    next => exact .refl w

theorem armLoading_within (hr : w.room? id = some room) (identity : IdentityBinding)
    (now : Instant) : Within w (w.armLoading env id room identity now).2 := by
  unfold armLoading
  split
  next => exact .refl w
  next =>
    split
    next => exact .refl w
    next =>
      split
      next =>
        split
        next =>
          split
          next => exact .refl w
          next => exact .put hr (.handshake room _)
        next => exact .refl w
      next => exact .refl w

/-! ## Finishing -/

theorem tryFlushPendingRaceFanouts_within (w : World H) (id : RoomId) :
    Within w (w.tryFlushPendingRaceFanouts id).2 := by
  unfold tryFlushPendingRaceFanouts
  split
  next => exact .refl w
  next room hr =>
    split
    next => exact .refl w
    next =>
      split
      next => exact .refl w
      next =>
        split
        next => exact .refl w
        next reserved _ => exact (Within.put hr .flush).published reserved

theorem settlementClosed_false {now : Instant} (h : room.settlementClosed now = false)
    (hp : room.phase = .settling) (finalization : SettlementFinalization)
    (hf : room.finalization? = some finalization) : finalization = .awaitingDeadline := by
  unfold settlementClosed at h
  rw [hp, decide_eq_true rfl, Bool.true_and] at h
  unfold finalization? at hf
  obtain ⟨s, hs, rfl⟩ := Option.map_eq_some_iff.mp hf
  rw [hs] at h
  simp only [Option.any_some, decide_eq_false_iff_not, not_or, not_not] at h
  exact h.2

theorem recordFinish_within (hr : w.room? id = some room)
    (hp : room.phase = .running ∨ room.phase = .settling) {frozen : FrozenRaceRoster}
    {playerId : Int} (hracer : room.Racing playerId) (raceTime : UInt32)
    (excluded : Option UserNo) (now : Instant) (tick : Nat) :
    Within w (w.recordFinish env id room frozen playerId raceTime excluded now tick).2 := by
  have hbound : raceTime.toNat ≤ u32Max := Nat.le_of_lt_succ raceTime.toNat_lt
  unfold recordFinish
  dsimp only
  split
  next => exact .refl w
  next hclosed =>
    split
    next => exact .refl w
    next hnew =>
      have hnone : room.raceProgress.finishTimes.lookup playerId = none := by simpa using hnew
      split
      next => exact .refl w
      next =>
        split
        next => exact .refl w
        next packet _ =>
          split
          next => exact .refl w
          next =>
            refine Within.trans (.put hr ?_) (tryFlushPendingRaceFanouts_within _ id)
            by_cases hrun : room.phase = .running
            · rw [decide_eq_true hrun, if_pos rfl]
              exact .first hrun hracer hnone hbound
            · rw [decide_eq_false hrun, if_neg Bool.noConfusion]
              have hsettling := hp.resolve_left hrun
              exact .late hsettling hracer
                (settlementClosed_false (by simpa using hclosed) hsettling) hnone hbound

theorem recordHumanFinish_within (hr : w.room? id = some room) (identity : IdentityBinding)
    (raceTime : UInt32) (now : Instant) (tick : Nat) :
    Within w (w.recordHumanFinish env id room identity raceTime now tick).2 := by
  unfold recordHumanFinish
  split
  next => exact .refl w
  next hp =>
    split
    next => exact .refl w
    next frozen hf =>
      split
      next => exact .refl w
      next participant hfind =>
        split
        next => exact .refl w
        next ho =>
          refine recordFinish_within env hr ?_ ⟨frozen, hf, ?_⟩ raceTime _ now tick
          · by_cases hrun : room.phase = .running
            · exact Or.inl hrun
            · exact Or.inr (by simpa [hrun] using hp)
          · unfold FrozenRaceRoster.racers
            rw [List.map_append, List.mem_append, List.map_map]
            exact Or.inl (List.mem_map.mpr ⟨participant, List.mem_filter.mpr
              ⟨List.mem_of_find?_eq_some hfind, by simpa using ho⟩, rfl⟩)

theorem recordAiFinish_within (hr : w.room? id = some room) (identity : IdentityBinding)
    (playerId : Int) (raceTime : UInt32) (now : Instant) (tick : Nat) :
    Within w (w.recordAiFinish env id room identity playerId raceTime now tick).2 := by
  unfold recordAiFinish
  split
  next => exact .refl w
  next hp =>
    split
    next => exact .refl w
    next frozen hf =>
      split
      next =>
        split
        next hai =>
          obtain ⟨ai, ha, rfl⟩ := hai
          refine recordFinish_within env hr ?_ ⟨frozen, hf, ?_⟩ raceTime _ now tick
          · by_cases hrun : room.phase = .running
            · exact Or.inl hrun
            · exact Or.inr (by simpa [hrun] using hp)
          · unfold FrozenRaceRoster.racers
            rw [List.map_append, List.mem_append, List.map_map, List.map_map]
            exact Or.inr (List.mem_map.mpr ⟨ai, ha, rfl⟩)
        next => exact .refl w
      next => exact .refl w

theorem raceCommand_within (w : World H) (session : SessionId) (payload : RaceCommandPayload)
    (now : Instant) (tick : Nat) :
    Within w (w.raceCommand env session payload now tick).2 := by
  unfold raceCommand
  split
  next => exact .refl w
  next identity _ =>
    split
    next => exact .refl w
    next id _ =>
      split
      next => exact .refl w
      next room hr =>
        cases payload with
        | gameControl state value =>
          dsimp only
          split
          next => exact armLoading_within env hr identity now
          next =>
            split
            next => exact recordHumanFinish_within env hr identity value now tick
            next => exact .refl w
        | aiGoalIn playerId raceTime =>
          exact recordAiFinish_within env hr identity playerId raceTime now tick

/-! ## The heartbeat -/

theorem abortLoadingRoom_within (w : World H) (id : RoomId)
    (hl : ∀ room, w.room? id = some room → room.phase = .loading) :
    Within w (w.abortLoadingRoom id) := by
  unfold abortLoadingRoom
  split
  next => exact .refl w
  next room hr =>
    refine .edit rfl rfl (.abort hr (hl room hr)) ?_ rfl
      fun h => h.move (.abort room.abortLoading room.raceFence hr) rfl
    exact (releaseFence_shrinks w.protocol room.raceFence).trans (.of_eq rfl)

theorem abortLoadingRoom_room? (w : World H) (hk : k ≠ id) :
    (w.abortLoadingRoom id).room? k = w.room? k := by
  unfold abortLoadingRoom
  split
  next => rfl
  next room _ =>
    show (((w.protocol.releaseFence room.raceFence).protocolRooms).insert id _).lookup k = _
    rw [Map.lookup_insert_ite, if_neg hk, releaseFence_rooms]
    rfl

theorem tryStartScheduledRoom_within (w : World H) (id : RoomId) (awards : List Packet)
    (now : Instant) (tick : Nat) (hl : ∀ room, w.room? id = some room → room.phase = .loading) :
    Within w (w.tryStartScheduledRoom id awards now tick) := by
  unfold tryStartScheduledRoom
  split
  next => exact .refl w
  next room hr =>
    split
    next => exact .refl w
    next =>
      split
      next =>
        dsimp only
        split
        next => exact .refl w
        next reserved _ => exact (Within.put hr (.run (hl room hr))).published reserved
      next => exact .refl w

theorem tryStartScheduledRoom_room? (w : World H) (awards : List Packet) (now : Instant)
    (tick : Nat) (hk : k ≠ id) :
    (w.tryStartScheduledRoom id awards now tick).room? k = w.room? k := by
  unfold tryStartScheduledRoom
  split
  next => rfl
  next =>
    split
    next => rfl
    next =>
      split
      next =>
        dsimp only
        split
        next => rfl
        next => rw [publishReserved_room?, putRoom_room?, if_neg hk]
      next => rfl

theorem reconcileLoadingHandshake_phase (instantMax : Instant) (room : ProtocolRoomState)
    (stamps : Finset FrozenParticipantStamp) (now : Instant) :
    (room.reconcileLoadingHandshake instantMax stamps now).phase = room.phase := by
  unfold reconcileLoadingHandshake
  split
  next =>
    dsimp only
    split
    next => split <;> rfl
    next => rfl
  next => rfl
  next => rfl

theorem advanceLoadingRoom_within (w : World H) (id : RoomId) (awards : List Packet)
    (now : Instant) (tick : Nat) (hl : ∀ room, w.room? id = some room → room.phase = .loading) :
    Within w (w.advanceLoadingRoom env id awards now tick) := by
  unfold advanceLoadingRoom
  split
  next => exact .refl w
  next frozen _ =>
    dsimp only
    split
    next => exact abortLoadingRoom_within w id hl
    next =>
      refine Within.trans (.updateRoom fun room _ => reconcileLoadingHandshake_edit _ room _ now)
        (tryStartScheduledRoom_within _ id awards now tick fun room hr => ?_)
      rw [updateRoom_room?, if_pos rfl] at hr
      obtain ⟨before, hb, rfl⟩ := Option.map_eq_some_iff.mp hr
      rw [reconcileLoadingHandshake_phase]
      exact hl before hb

theorem advanceLoadingRoom_room? (w : World H) (awards : List Packet) (now : Instant)
    (tick : Nat) (hk : k ≠ id) :
    (w.advanceLoadingRoom env id awards now tick).room? k = w.room? k := by
  unfold advanceLoadingRoom
  split
  next => rfl
  next =>
    dsimp only
    split
    next => exact abortLoadingRoom_room? w hk
    next => rw [tryStartScheduledRoom_room? _ awards now tick hk, updateRoom_room?, if_neg hk]

theorem reconcileRunningRoom_within (w : World H) (id : RoomId) (now : Instant) (tick : Nat)
    (hl : ∀ room, w.room? id = some room → room.phase = .running) :
    Within w (w.reconcileRunningRoom env id now tick) := by
  unfold reconcileRunningRoom
  split
  next => exact .refl w
  next =>
    split
    next => exact .refl w
    next => exact .updateRoom fun room hr => .settle (hl room hr)

theorem reconcileRunningRoom_room? (w : World H) (now : Instant) (tick : Nat) (hk : k ≠ id) :
    (w.reconcileRunningRoom env id now tick).room? k = w.room? k := by
  unfold reconcileRunningRoom
  split
  next => rfl
  next =>
    split
    next => rfl
    next => rw [updateRoom_room?, if_neg hk]

theorem tryFinalizeSettlement_within (w : World H) (id : RoomId) :
    Within w (w.tryFinalizeSettlement id) := by
  have hflush := tryFlushPendingRaceFanouts_within w id
  unfold tryFinalizeSettlement
  rcases hf : w.tryFlushPendingRaceFanouts id with ⟨flushed, w₁⟩
  rw [hf] at hflush
  dsimp only
  split
  next =>
    split
    next => exact hflush
    next room hr =>
      split
      next ranking rewards packets frozen hready _ =>
        split
        next => exact hflush
        next reserved _ =>
          have hfinal : Within w₁ { w₁ with
              protocol := finalizeTables w₁.protocol id room ranking } :=
            .edit rfl rfl (.finalize hr hready) (finalizeTables_shrinks _ _ _ _) rfl
              fun h => h.move (.finalize ranking hr) rfl
          exact hflush.trans (hfinal.published reserved)
      next => exact hflush
  next => exact hflush

theorem advanceActiveRoom_within (w : World H) (id : RoomId) (now : Instant)
    (rolls : Nat → Nat × Nat) : Within w (w.advanceActiveRoom env id now rolls) := by
  unfold advanceActiveRoom
  split
  next => exact .refl w
  next room hr =>
    dsimp only
    split
    next hreached =>
      refine Within.trans (.updateRoom fun room' hr' => ?_) (tryFinalizeSettlement_within _ id)
      rw [hr] at hr'
      cases hr'
      rw [Bool.and_eq_true, decide_eq_true_iff] at hreached
      obtain ⟨hp, hs⟩ := hreached
      cases hset : room.raceProgress.settlement with
      | none => rw [hset] at hs; exact absurd hs (by simp)
      | some settlement =>
        rw [hset, Option.any_some] at hs
        exact .reward (.plan hp hset (of_decide_eq_true hs))
    next => exact tryFlushPendingRaceFanouts_within w id

theorem roomsIn_phase {visit : List RoomId} {phases : List RoomPhase}
    (hk : id ∈ w.roomsIn visit phases) (hr : w.room? id = some room) : room.phase ∈ phases := by
  unfold roomsIn at hk
  obtain ⟨-, h⟩ := List.mem_filter.mp hk
  rw [hr] at h
  simpa using h

theorem roomsIn_nodup {visit : List RoomId} (hn : visit.Nodup) (phases : List RoomPhase) :
    (w.roomsIn visit phases).Nodup := hn.filter _

theorem advanceLoading_within {visit : List RoomId} (hn : visit.Nodup) (w : World H)
    (awards : RoomId → List Packet) (rolls : RoomId → Nat → Nat × Nat) (now : Instant)
    (tick : Nat) : Within w (w.advanceLoading env visit awards rolls now tick) := by
  unfold advanceLoading
  split
  next => exact .refl w
  next =>
    dsimp only
    have hload := Within.foldl (C := fun room => room.phase = .loading)
      (fun w id hl => advanceLoadingRoom_within env w id (awards id) now tick hl)
      (fun w id k hk => advanceLoadingRoom_room? env w (awards id) now tick hk)
      (w.roomsIn visit [.loading]) w (roomsIn_nodup hn _)
      fun id hk room hr => by simpa using roomsIn_phase hk hr
    refine Within.trans hload ?_
    generalize (w.roomsIn visit [.loading]).foldl
      (fun w id => w.advanceLoadingRoom env id (awards id) now tick) w = w₁
    have hrun := Within.foldl (C := fun room => room.phase = .running)
      (fun w id hl => reconcileRunningRoom_within env w id now tick hl)
      (fun w id k hk => reconcileRunningRoom_room? env w now tick hk)
      (w₁.roomsIn visit [.running]) w₁ (roomsIn_nodup hn _)
      fun id hk room hr => by simpa using roomsIn_phase hk hr
    refine Within.trans hrun (Within.foldl' (fun w id => ?_) _ _)
    exact advanceActiveRoom_within env w id now (rolls id)

/-! ## Quiescing -/

theorem drainOutboundProducersOnce_leads {identityVisit : List Text}
    (hv : w.identities.registry.Visits identityVisit) (visit : List RoomId) (now : Instant) :
    Leads env (w, []) (survives (w.drainOutboundProducersOnce env identityVisit visit now).1)
      ((w.drainOutboundProducersOnce env identityVisit visit now).2, []) := by
  unfold drainOutboundProducersOnce
  split
  next => exact .refl
  next =>
    split
    next => exact .refl
    next =>
      dsimp only
      have hexpire := expireMigrations_leads env hv
        ((checkedAdd env.instantMax now migrationTtl).getD now) false
      split
      next w₁ he =>
        rw [he] at hexpire
        exact hexpire
      next w₁ he =>
        rw [he] at hexpire
        have hfinalize := Within.foldl' (fun w id => tryFinalizeSettlement_within w id)
          (visit.filter fun id => (w₁.room? id).any hasPendingWire) w₁
        refine ((hexpire.within hfinalize).within ?_).weaken fun _ => rfl
        exact .quiet rfl rfl rfl rfl rfl

end World

end P4475
