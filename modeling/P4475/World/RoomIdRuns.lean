import P4475.World.Invariant

/-!
# Room ids along a run

Every stride keeps `RoomIdsOk`, and so does a seat that is taken, so it holds of every world that
a run reaches. What allocation returns there follows from it.
-/

namespace P4475

open Lib

variable {H Q P : Type} {env : WorldEnv H Q P}

namespace World

variable {w w' : World H} {s s' : Stage H} {ok : Bool}

/-- The identities and the hub have no part in the room ids. -/
theorem RoomIdsOk.beside (h : w.RoomIdsOk) (hprotocol : w'.protocol = w.protocol)
    (hrooms : w'.rooms = w.rooms) : w'.RoomIdsOk :=
  h.move (hprotocol ▸ .refl _) (by
    funext id
    unfold plainIds
    rw [hrooms])

theorem Stride.roomIds (h : Stride env s s') (hok : s.1.RoomIdsOk) : s'.1.RoomIdsOk := by
  cases h with
  | kept within => exact within.roomIds hok
  | issued _ _ _ ids => exact hok.move ids rfl
  | admits => exact hok.beside rfl rfl
  | idles => exact hok.beside rfl rfl
  | releases => exact hok.beside rfl rfl
  | clears => exact hok.beside rfl rfl
  | moves => exact hok.beside rfl rfl
  | migrates => exact hok.beside rfl rfl
  | jams => exact hok.beside rfl rfl

theorem Leads.roomIds (h : Leads env s ok s') (hok : s.1.RoomIdsOk) : s'.1.RoomIdsOk := by
  obtain ⟨waiting, hpath, -⟩ := h
  have key : ∀ {stage : Stage H}, Strides env s stage → stage.1.RoomIdsOk := by
    intro stage hstrides
    induction hstrides with
    | refl => exact hok
    | tail _ hs ih => exact hs.roomIds ih
  have hend := key hpath
  exact hend

theorem CommandStrides.roomIds {command : WorldCommand Q P}
    (h : CommandStrides env command w ok w') (hok : w.RoomIdsOk) : w'.RoomIdsOk := by
  cases h with
  | leads h => exact h.roomIds hok
  | seats _ seated h => exact h.roomIds (seated.roomIds hok)

theorem Shows.roomIds (h : Shows env w w') (hok : w.RoomIdsOk) : w'.RoomIdsOk :=
  h.within.roomIds (hok.beside rfl rfl)

theorem dispatchCommand_roomIds {command : WorldCommand Q P} {turn : Turn H}
    (h : w.dispatchCommand env command = some turn) (hok : w.RoomIdsOk) : turn.2.2.RoomIdsOk := by
  cases hk : command.ticketed with
  | false => exact (dispatchCommand_strides env h hk).roomIds hok
  | true =>
    -- the one command that the tickets replace
    cases command with
    | registerRiderEquipmentWrite session admittedNickname elsewhere =>
      obtain ⟨pending, hsame⟩ :=
        registerRiderEquipmentWrite_same env w session admittedNickname elsewhere
      unfold dispatchCommand at h
      split at h
      next =>
        cases h
        exact hok
      next =>
        cases h
        rw [reply_snd, hsame]
        exact hok.beside rfl rfl
    | _ => exact absurd hk (by simp [WorldCommand.ticketed])

theorem dispatchAdmitted_roomIds {lease : Nat} {command : WorldCommand Q P} {turn : Turn H}
    (h : w.dispatchAdmitted env lease command = some turn) (hok : w.RoomIdsOk) :
    turn.2.2.RoomIdsOk := by
  unfold dispatchAdmitted at h
  obtain ⟨operation, -, h⟩ := Option.bind_eq_some_iff.mp h
  obtain ⟨⟨response, running, next⟩, hd, rfl⟩ := Option.map_eq_some_iff.mp h
  have hbound : (w.withAdmitted (some operation.binding)).RoomIdsOk := hok.beside rfl rfl
  have hnext : next.RoomIdsOk := dispatchCommand_roomIds hd hbound
  obtain ⟨s, hs, -⟩ := dropLease_idles env (next.withAdmitted w.admittedIdentity) lease
  dsimp only
  rw [hs]
  exact hnext.beside rfl rfl

/-- **One turn keeps the room ids.** -/
theorem turn_roomIds {action : WorldAction Q P} {turn : Turn H}
    (h : w.turn env action = some turn) (hok : w.RoomIdsOk) : turn.2.2.RoomIdsOk := by
  cases action with
  | command command => exact dispatchCommand_roomIds h hok
  | admitted lease command => exact dispatchAdmitted_roomIds h hok
  | identity action =>
    obtain ⟨s, hs, -⟩ := identityStep_idles env h
    rw [hs]
    exact hok.beside rfl rfl
  | expireMigrations visit now => exact (expireMigrations_turn env h).roomIds hok
  | flushIdentityLifecycle now =>
    cases h
    exact (Leads.finish env (flushIdentityLifecycle_leads env w now)).roomIds hok
  | advanceLoading visit awards rolls now tick => exact (advanceLoading_turn env h).roomIds hok
  | riderEquipment ticket completion now =>
    obtain ⟨pending, -, rfl⟩ := Option.map_eq_some_iff.mp h
    rw [finish_snd]
    have htaken : { w with
        pendingRiderEquipmentWrites :=
          w.pendingRiderEquipmentWrites.eraseIdx ticket }.RoomIdsOk := hok.beside rfl rfl
    exact (finishRiderEquipmentWrite_leads env w ticket pending completion now).roomIds htaken
  | mainEmblems expected emblems acknowledgement =>
    cases h
    rw [finish_snd]
    exact (publishDurableMainEmblems_within env w expected emblems acknowledgement).roomIds hok
  | profilePresentation expected port =>
    cases h
    rw [finish_snd]
    exact (publishActiveP2pEndpoint_shows env w expected _).roomIds hok
  | migrationReady i profile acknowledge capacity indexCapacity udpEpoch now =>
    exact (migrationReady_turn env h).roomIds hok
  | udpIngress userNo arrivalEpoch timeSync dispatched p2pPort =>
    cases h
    rw [finish_snd]
    obtain ⟨s, s', w₂, -, hshows, -, hend⟩ :=
      dispatchUdpIngress_shows env w userNo arrivalEpoch timeSync dispatched p2pPort
    rw [hend]
    exact (hshows.roomIds (hok.beside rfl rfl)).beside rfl rfl
  | transport session event =>
    cases h
    exact (transport_within w session event).roomIds hok
  | forceShutdown =>
    cases h
    exact hok.beside rfl rfl

end World

/-- The room ids of every world that a run reaches. -/
theorem WorldActor.roomIds_of_reachable {a : WorldActor H} (h : (machine env).Reachable a) :
    a.world.RoomIdsOk := by
  refine h.invariant (P := fun a => a.world.RoomIdsOk) (World.initial_roomIdsOk env.emptyHub) ?_
  intro s s' action response hok hs
  exact World.turn_roomIds (step_turn hs) hok

/-! ## Creations that fail -/

namespace World

variable {w : World H}

/-- Both tables of rooms. -/
def bothRooms (w : World H) : Map RoomId RoomSnapshot × Map RoomId ProtocolRoomState :=
  (w.rooms, w.protocol.protocolRooms)

/-- A creation that fails or is rejected leaves both tables as they were, up to its reply. -/
theorem createRoomState_bothRooms (w : World H) (identity : IdentityBinding)
    (request : ChCreateRoomRequest) (participant : RoomParticipant)
    (hnot : (w.createRoomState env identity request participant).1 ≠ .ok true) :
    (w.createRoomState env identity request participant).2.bothRooms = w.bothRooms := by
  unfold createRoomState at hnot ⊢
  split
  next => rfl
  next channel hchannel =>
    rw [hchannel] at hnot
    dsimp only at hnot
    split
    next w₁ ha =>
      obtain ⟨free, nextRoomId, rfl⟩ := (allocateProtocolRoomId_allocated ha).frame
      rfl
    next id w₁ ha =>
      obtain ⟨free, nextRoomId, rfl⟩ := (allocateProtocolRoomId_allocated ha).frame
      rw [ha] at hnot
      dsimp only at hnot ⊢
      split
      next => rfl
      next room hadd =>
        rw [hadd] at hnot
        dsimp only at hnot
        split
        next => rfl
        next hwire =>
          rw [hwire] at hnot
          exact absurd rfl hnot

theorem createRoomState_sessions (w : World H) (identity : IdentityBinding)
    (request : ChCreateRoomRequest) (participant : RoomParticipant) :
    (w.createRoomState env identity request participant).2.sessions = w.sessions := by
  unfold createRoomState
  split
  next => rfl
  next =>
    split
    next w₁ ha =>
      obtain ⟨free, nextRoomId, rfl⟩ := (allocateProtocolRoomId_allocated ha).frame
      rfl
    next id w₁ ha =>
      obtain ⟨free, nextRoomId, rfl⟩ := (allocateProtocolRoomId_allocated ha).frame
      dsimp only
      split
      next => rfl
      next => split <;> rfl

theorem send_bothRooms (w : World H) (delivery : OutboundDelivery) :
    (w.send delivery).bothRooms = w.bothRooms := by
  unfold send
  split
  next => rfl
  next => rfl

/-- A reply that its session can take, or that nobody waits for, changes no room. -/
theorem deliver_taken (w : World H) (session : SessionId) (batch : OutboundBatch) (now : Instant)
    (htaken : ∀ state, w.sessions.lookup session = some state → state.accepts 0 = true) :
    (w.deliver env [(session, batch)] now).2.bothRooms = w.bothRooms := by
  have key : ∀ resume, (deliverUntil env now resume [(session, batch)] [] w).2.bothRooms =
      w.bothRooms := by
    intro resume
    unfold deliverUntil
    cases hs : w.sessions.lookup session with
    | none => rfl
    | some state =>
      dsimp only
      rw [if_pos (htaken state hs)]
      exact send_bothRooms w _
  unfold deliver
  cases w.sessions.keys.card with
  | zero => exact key _
  | succ n => exact key _

end World

open World

/-- **The ids of rooms**, in every world that a run reaches: an allocation returns an id from 1 to
65535 that no room has, and none exactly when all are in use; the free set holds no zero and no id
of a room; and a creation that fails or is rejected changes no room, up to a reply that its session
cannot take, which closes that session. -/
theorem WorldActor.roomIds_exclusive {a : WorldActor H} (h : (machine env).Reachable a) :
    (∀ id, a.world.allocateProtocolRoomId.1 = some id →
      1 ≤ id.get ∧ id.get ≤ 65535 ∧ a.world.rooms.lookup id = none ∧ a.world.room? id = none) ∧
    (a.world.allocateProtocolRoomId.1 = none ↔ ∀ id : RoomId, 1 ≤ id.get → id.get ≤ 65535 →
      a.world.rooms.lookup id ≠ none ∨ a.world.room? id ≠ none) ∧
    (0 ∉ a.world.protocol.freeProtocolRoomIds ∧ ∀ n ∈ a.world.protocol.freeProtocolRoomIds,
      a.world.rooms.lookup ⟨n⟩ = none ∧ a.world.room? ⟨n⟩ = none) ∧
    (∀ identity request participant,
      (a.world.createRoomState env identity request participant).1 ≠ .ok true →
      (a.world.createRoomState env identity request participant).2.bothRooms =
        a.world.bothRooms ∧
      ∀ session now, (∀ state, a.world.sessions.lookup session = some state →
        state.accepts 0 = true) →
        (a.world.protocolCreateRoom env session identity request participant now).2.bothRooms =
          a.world.bothRooms) := by
  have hok := WorldActor.roomIds_of_reachable h
  have hfree : ∀ {id : RoomId}, a.world.idTaken id = false →
      a.world.rooms.lookup id = none ∧ a.world.room? id = none := by
    intro id htaken
    obtain ⟨hplain, hroom⟩ := idTaken_eq_false.mp htaken
    exact ⟨Option.isNone_iff_eq_none.mp (Option.isSome_eq_false_iff.mp hplain),
      Option.isNone_iff_eq_none.mp (Option.isSome_eq_false_iff.mp hroom)⟩
  refine ⟨?_, ?_, ⟨?_, ?_⟩, ?_⟩
  · intro id hid
    have hallocated := allocateProtocolRoomId_allocated (w := a.world) rfl
    obtain ⟨hlow, hhigh⟩ := hallocated.range (fun n hn => (hok.free n hn).1) id hid
    exact ⟨hlow, hhigh, hfree (hallocated.fresh id hid).1⟩
  · rw [allocateProtocolRoomId_none_iff hok]
    have htaken : ∀ id : RoomId, a.world.idTaken id = true ↔
        a.world.rooms.lookup id ≠ none ∨ a.world.room? id ≠ none := by
      intro id
      unfold idTaken
      rw [Bool.or_eq_true, Option.isSome_iff_ne_none, Option.isSome_iff_ne_none]
    constructor
    · intro hall id hlow hhigh
      exact (htaken id).mp (hall id ⟨hlow, hhigh⟩)
    · intro hall id hid
      exact (htaken id).mpr (hall id hid.1 hid.2)
  · intro hzero
    exact Nat.not_succ_le_zero 0 (hok.free 0 hzero).1.1
  · intro n hn
    exact hfree (hok.free n hn).2
  · intro identity request participant hnot
    have hstate := createRoomState_bothRooms a.world identity request participant hnot
    refine ⟨hstate, fun session now htaken => ?_⟩
    have hsessions :
        (a.world.createRoomState env identity request participant).2.sessions =
          a.world.sessions := createRoomState_sessions a.world identity request participant
    unfold protocolCreateRoom
    split
    next e w₁ he =>
      rw [he] at hstate
      exact hstate
    next created w₁ he =>
      rw [he] at hstate hsessions
      refine (deliver_taken w₁ session _ now ?_).trans hstate
      intro state hs
      exact htaken state (by rw [← hs]; exact congrArg (fun m => m.lookup session) hsessions.symm)

/-- The free set after the run of `roomActions`. -/
theorem roomRun_freeIds :
    0 ∉ roomRun.2.world.protocol.freeProtocolRoomIds ∧
      ∀ n ∈ roomRun.2.world.protocol.freeProtocolRoomIds,
        roomRun.2.world.rooms.lookup ⟨n⟩ = none ∧ roomRun.2.world.room? ⟨n⟩ = none :=
  (WorldActor.roomIds_exclusive roomRun_reachable).2.2.1

/-! ## A rejection that nobody hears -/

/-- A session whose queue takes a single packet. -/
def narrowSession : SessionState := ⟨.v4 5, true, some ⟨1, [], 0, false⟩, none⟩

def teamRoomRequest : ChCreateRoomRequest := ⟨['r'], [], 3, 0, []⟩

/-- One user opens a room; the reply stays in the queue. -/
def narrowActions : List (WorldAction Unit Unit) :=
  [.command (.registerSession sampleSession), .command (.claimIdentity ⟨1⟩ ['a'] 0),
    .identity (.beginMigration ⟨1⟩ ⟨3, 13⟩ IdentitySystem.sampleToken 10),
    .command (.registerSession narrowSession),
    .command (.preflightMigration ⟨2⟩ IdentitySystem.sampleUser 3 IdentitySystem.sampleToken 11),
    .migrationReady 0 (some ()) false true true 0 12,
    .command (.roomProtocol ⟨2⟩ (.create teamRoomRequest sampleParticipant) [] 20)]

theorem narrowActions_run :
    (sampleMachine.exec sampleMachine.init [] narrowActions).isSome = true := by
  decide +kernel

/-- The run of `narrowActions`. -/
def narrowRun : List (WorldAction Unit Unit × WorldResponse) × WorldActor Unit :=
  (sampleMachine.exec sampleMachine.init [] narrowActions).get narrowActions_run

theorem narrowRun_reachable : sampleMachine.Reachable narrowRun.2 := by
  have history : sampleMachine.History narrowRun.1 narrowRun.2 :=
    Machine.history_of_exec narrowActions .init (Option.some_get narrowActions_run).symm
  exact history.reachable

theorem narrowRun_authorized :
    (narrowRun.2.world.authorizeSessionOperation sampleEnv ⟨2⟩).toOption.isSome = true := by
  decide +kernel

/-- The user of `narrowActions`. -/
def narrowIdentity : IdentityBinding :=
  (narrowRun.2.world.authorizeSessionOperation sampleEnv ⟨2⟩).toOption.get narrowRun_authorized

/-- A second creation of the same user is rejected. Nobody took the first reply, so the rejection
finds the queue full: the session closes, its identity goes, and with it the first room. -/
theorem narrowRun_roomLost :
    sampleMachine.Reachable narrowRun.2 ∧
      (narrowRun.2.world.createRoomState sampleEnv narrowIdentity teamRoomRequest
        sampleParticipant).1 = .ok false ∧
      (narrowRun.2.world.protocolCreateRoom sampleEnv ⟨2⟩ narrowIdentity teamRoomRequest
        sampleParticipant 21).2.bothRooms ≠ narrowRun.2.world.bothRooms := by
  refine ⟨narrowRun_reachable, ?_, ?_⟩
  · decide +kernel
  · intro hsame
    have hroom := congrArg (fun rooms => (rooms.2.lookup ⟨1⟩).isSome) hsame
    revert hroom
    decide +kernel

end P4475
