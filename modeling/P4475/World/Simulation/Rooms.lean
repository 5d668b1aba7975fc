import P4475.World.Simulation.Releases

/-!
# Room commands are strides

Listing, creating, joining and leaving protocol rooms, the plain rooms, and the
commands that leave a room on the way somewhere else. Creating and joining a room are the
steps that no stride covers: they take a seat.
-/

namespace P4475

open Lib ProtocolRoomState

namespace World

variable {H Q P : Type} (env : WorldEnv H Q P) {w w' : World H} {id : RoomId}
  {room room' : ProtocolRoomState}

theorem survives_delivered (r : Except MyRoomLifecycleError Unit × World H) :
    survives (delivered r).1 = r.1.isOk := by
  rcases r with ⟨_ | _, w⟩ <;> rfl

theorem delivered_leads {s : Stage H} {r : Except MyRoomLifecycleError Unit × World H}
    (h : Leads env s r.1.isOk (r.2, [])) :
    Leads env s (survives (delivered r).1) ((delivered r).2, []) := by
  rw [survives_delivered]
  exact h

/-- A reply at the end of a command. -/
theorem answer_leads (w : World H) (deliveries : List OutboundDelivery) (now : Instant) :
    Leads env (w, []) (survives (delivered (w.deliver env deliveries now)).1)
      ((delivered (w.deliver env deliveries now)).2, []) :=
  delivered_leads env (deliver_leads env w deliveries now)

theorem protocolRoomList_leads (w : World H) (session : SessionId) (identity : IdentityBinding)
    (request : ChGetRoomListRequest) (visit : List RoomId) (now : Instant) :
    Leads env (w, []) (survives (w.protocolRoomList env session identity request visit now).1)
      ((w.protocolRoomList env session identity request visit now).2, []) := by
  unfold protocolRoomList
  dsimp only
  split
  next => exact .refl
  next => exact answer_leads env w _ now

/-! ## Creating -/

theorem idTaken_room (h : w.idTaken id = false) : w.room? id = none :=
  Option.isSome_eq_false_iff.mp (idTaken_eq_false.mp h).2 |> Option.isNone_iff_eq_none.mp

/-- An allocation moves the free ids and the cursor. -/
theorem allocated_within {result : Option RoomId} (ha : Allocated w result w') : Within w w' := by
  have hids : w.RoomIdsOk → w'.RoomIdsOk := fun h => h.allocated ha
  obtain ⟨free, nextRoomId, rfl⟩ := ha.frame
  exact .edit rfl rfl (.ids free) (.of_eq rfl) rfl hids

/-- An id that was allocated for nothing goes back. -/
theorem allocated_freeRoomId_within (ha : Allocated w (some id) w') :
    Within w (w'.freeRoomId id) := by
  have hids : w.RoomIdsOk → (w'.freeRoomId id).RoomIdsOk := fun h =>
    (h.allocated ha).giveBack (ha.range (fun n hn => (h.free n hn).1) id rfl)
      ((ha.idTaken_eq id).trans (ha.fresh id rfl).1)
  obtain ⟨free, nextRoomId, rfl⟩ := ha.frame
  exact .edit rfl rfl (.ids _) (.of_eq rfl) rfl hids

theorem createChannel_some {identity : IdentityBinding} {gameType : Nat}
    {channel : ChannelBinding} (h : w.createChannel identity gameType = some channel) :
    w.roomOf? identity.userNo = none := by
  unfold createChannel at h
  obtain ⟨-, hc⟩ := Option.filter_eq_some_iff.mp h
  exact (of_decide_eq_true hc).2

theorem lookup_insert_cases {K V : Type} [DecidableEq K] {m : Map K V} {k k' : K} {v v' : V}
    (h : (m.insert k v).lookup k' = some v') : k' = k ∨ m.lookup k' = some v' := by
  by_cases hk : k' = k
  · exact .inl hk
  · rw [Finmap.lookup_insert_of_ne _ hk] at h
    exact .inr h

/-- A room is created with its first participant, or what was set aside for it goes back. -/
theorem createRoomState_seats (w : World H) (identity : IdentityBinding)
    (request : ChCreateRoomRequest) (participant : RoomParticipant) :
    Within w (w.createRoomState env identity request participant).2 ∨
      (w.createRoomState env identity request participant).1 = .ok true ∧
        Seated env (some participant) identity.userNo w
          (w.createRoomState env identity request participant).2 := by
  unfold createRoomState
  split
  next => exact .inl (.refl w)
  next channel hc =>
    split
    next w₁ ha => exact .inl (allocated_within (allocateProtocolRoomId_allocated ha))
    next id w₁ ha =>
      have hallocated := allocateProtocolRoomId_allocated ha
      have hfree := allocated_freeRoomId_within hallocated
      dsimp only
      split
      next => exact .inl hfree
      next room hadd =>
        split
        next => exact .inl hfree
        next =>
          have habsent := idTaken_room (hallocated.fresh id rfl).1
          have hids : w.RoomIdsOk → (w₁.admitToRoom id room identity.userNo).RoomIdsOk := fun h =>
            (h.allocated hallocated).opened (hallocated.range (fun n hn => (h.free n hn).1) id rfl)
              ((hallocated.idTaken_eq id).trans (hallocated.fresh id rfl).1)
              (hallocated.fresh id rfl).2 room identity.userNo
          obtain ⟨free, nextRoomId, rfl⟩ := hallocated.frame
          refine .inr ⟨rfl, .opens rfl ?_ ?_ ?_ (.refl (a := World.admitToRoom _ id room _)), ?_,
            rfl, rfl, rfl, rfl, hids⟩
          · rfl
          · rfl
          · refine .open_ free habsent (createChannel_some hc) ?_ ?_ hadd <;> rfl
          · intro k i hi
            exact lookup_insert_cases hi

theorem protocolCreateRoom_strides {session : SessionId} {identity : IdentityBinding}
    (hauthorized : w.authorizeSessionOperation env session = .ok identity)
    (request : ChCreateRoomRequest) (participant : RoomParticipant) (visit : List RoomId)
    (now : Instant) :
    CommandStrides env (.roomProtocol session (.create request participant) visit now) w
      (survives (w.protocolCreateRoom env session identity request participant now).1)
      (w.protocolCreateRoom env session identity request participant now).2 := by
  have hcreate := createRoomState_seats env w identity request participant
  have htakes : (w.createRoomState env identity request participant).1 = .ok true →
      Takes env w (.roomProtocol session (.create request participant) visit now)
        identity.userNo := .create visit now hauthorized
  unfold protocolCreateRoom
  rcases he : w.createRoomState env identity request participant with ⟨e | created, w₁⟩
  · rw [he] at hcreate
    rcases hcreate with hkept | ⟨hcreated, -⟩
    · exact .leads hkept.leads
    · exact absurd hcreated (by simp)
  · rw [he] at hcreate htakes
    rcases hcreate with hkept | ⟨hcreated, hseated⟩
    · exact .leads (hkept.then (answer_leads env w₁ _ now))
    · exact .seats (htakes hcreated) hseated (answer_leads env w₁ _ now)

/-! ## Joining, leaving, looking -/

theorem planJoin_some {identity : IdentityBinding} {request : ChJoinRoomRequest}
    {participant : RoomParticipant} {status : JoinRoomStatus} {gameType : Nat}
    (h : w.planJoin env identity request participant = .ok (status, gameType, some room')) :
    ∃ room, w.room? ⟨request.roomId⟩ = some room ∧ room.phase = .lobby ∧
      w.roomOf? identity.userNo = none ∧ room.addParticipant identity.userNo
        (w.prepareParticipant identity participant) = some room' := by
  unfold planJoin at h
  split at h
  next => exact absurd h (by simp)
  next room hr =>
    dsimp only at h
    split at h
    next => exact absurd h (by simp)
    next hj =>
      split at h
      next => exact absurd h (by simp)
      next =>
        split at h
        next => exact absurd h (by simp)
        next hnew =>
          split at h
          next => exact absurd h (by simp)
          next next hadd =>
            split at h
            next => exact absurd h (by simp)
            next =>
              cases h
              refine ⟨room, hr, ?_, by simpa using hnew, hadd⟩
              unfold joinable at hj
              rw [Bool.not_eq_false, decide_eq_true_iff] at hj
              exact hj.1

theorem admitToRoom_seated {opener : Option RoomParticipant} {userNo : UserNo}
    {participant : RoomParticipant} (hr : w.room? id = some room) (hl : room.phase = .lobby)
    (hnew : w.roomOf? userNo = none) (hadd : room.addParticipant userNo participant = some room') :
    Seated env opener userNo w (w.admitToRoom id room' userNo) where
  edits := .edits (.single (.tables rfl (Consumes.keep _) (.seat hr hl hnew hadd)))
  members := fun _ _ hi => lookup_insert_cases hi
  identities := rfl
  myroom := rfl
  awaited := rfl
  admitted := rfl
  roomIds := fun h => h.join hr room' userNo

theorem protocolJoinRoom_strides {session : SessionId} {identity : IdentityBinding}
    (hauthorized : w.authorizeSessionOperation env session = .ok identity)
    (request : ChJoinRoomRequest) (participant : RoomParticipant) (visit : List RoomId)
    (now : Instant) :
    CommandStrides env (.roomProtocol session (.join request participant) visit now) w
      (survives (w.protocolJoinRoom env session identity request participant now).1)
      (w.protocolJoinRoom env session identity request participant now).2 := by
  unfold protocolJoinRoom
  split
  next => exact .leads .refl
  next status gameType replacement hplan =>
    dsimp only
    split
    next room' =>
      obtain ⟨room, hr, hl, hnew, hadd⟩ := planJoin_some env hplan
      exact .seats (.join visit now hauthorized hplan)
        (admitToRoom_seated env hr hl hnew hadd) (answer_leads env _ _ now)
    next => exact .leads (answer_leads env w _ now)

theorem protocolLeaveRoom_leads (w : World H) (session : SessionId) (identity : IdentityBinding)
    (now : Instant) :
    Leads env (w, []) (survives (w.protocolLeaveRoom env session identity now).1)
      ((w.protocolLeaveRoom env session identity now).2, []) := by
  unfold protocolLeaveRoom
  dsimp only
  split
  next =>
    have hremove := removeProtocolUser_within env w identity.userNo
    split
    next w₁ he =>
      rw [he] at hremove
      exact hremove.leads
    next w₁ he =>
      rw [he] at hremove
      exact hremove.then (answer_leads env w₁ _ now)
  next => exact answer_leads env w _ now

theorem protocolFirstState_leads (w : World H) (session : SessionId) (identity : IdentityBinding)
    (now : Instant) :
    Leads env (w, []) (survives (w.protocolFirstState env session identity now).1)
      ((w.protocolFirstState env session identity now).2, []) := by
  unfold protocolFirstState
  split
  next => exact .refl
  next =>
    split
    next => exact .refl
    next =>
      split
      next => exact answer_leads env w _ now
      next => exact .refl
      next => exact .refl

theorem roomProtocol_strides (w : World H) (session : SessionId) (payload : RoomCommandPayload)
    (visit : List RoomId) (now : Instant) :
    CommandStrides env (.roomProtocol session payload visit now) w
      (survives (w.roomProtocol env session payload visit now).1)
      (w.roomProtocol env session payload visit now).2 := by
  unfold roomProtocol
  split
  next => exact .leads .refl
  next identity hauthorized =>
    cases payload with
    | list request =>
      exact .leads (protocolRoomList_leads env w session identity request visit now)
    | create request participant =>
      exact protocolCreateRoom_strides env hauthorized request participant visit now
    | join request participant =>
      exact protocolJoinRoom_strides env hauthorized request participant visit now
    | leave => exact .leads (protocolLeaveRoom_leads env w session identity now)
    | firstState => exact .leads (protocolFirstState_leads env w session identity now)

/-! ## Plain rooms -/

theorem createRoom_within (w : World H) : Within w w.createRoom.2 := by
  have hids : w.RoomIdsOk → w.createRoom.2.RoomIdsOk := RoomIdsOk.createRoom
  unfold createRoom at hids ⊢
  split at hids
  next => exact .refl w
  next => exact .edit rfl rfl (.ids _) (.of_eq rfl) rfl hids

theorem joinRoom_within (w : World H) (room : RoomId) (identity : Text) :
    Within w (w.joinRoom room identity).2 := by
  unfold joinRoom
  split
  next => exact .refl w
  next =>
    split
    next => exact .refl w
    next room hr =>
      split
      next => exact .refl w
      next => exact .quiet rfl rfl rfl rfl (plainIds_insert hr rfl)

theorem leaveRoom_within (w : World H) (identity : Text) :
    Within w (w.leaveRoom identity).2 := by
  unfold leaveRoom
  split
  next => exact .refl w
  next =>
    dsimp only
    split
    next => exact .quiet rfl rfl rfl rfl rfl
    next room hr =>
      split
      next => exact .quiet rfl rfl rfl rfl rfl
      next => exact .quiet rfl rfl rfl rfl (plainIds_insert hr rfl)

theorem joinRoomForSession_within (w : World H) (room : RoomId) (session : SessionId) :
    Within w (w.joinRoomForSession env room session).2 := by
  unfold joinRoomForSession
  split
  next => exact .refl w
  next identity _ => exact joinRoom_within w room identity.nickname

/-! ## Leaving for somewhere else -/

/-- A stage transition commits: the planned exit, and the hub's move. -/
theorem commitStage_leads {delta : Option ProtocolMigrationDelta} {next : H}
    (hd : TableEdits w.activeIdentity w.protocol (w.protocol.commitDelta delta))
    (hnext : ∀ w' : World H, w'.myroom = w.myroom → w'.identities = w.identities →
      w'.admittedIdentity = w.admittedIdentity →
        Leads env (w', []) true ({ w' with myroom := next }, []))
    (deliveries : List OutboundDelivery) (unavailable : SessionId → WorldError) :
    Leads env (w, []) (survives (w.commitStage next delta deliveries unavailable).1)
      ((w.commitStage next delta deliveries unavailable).2, []) := by
  unfold commitStage
  split
  next => exact .refl
  next reserved _ =>
    split
    next => exact .refl
    next hlock =>
      have hexit : Within w { w with protocol := w.protocol.commitDelta delta } :=
        ⟨rfl, rfl, hd, commitDelta_shrinks _ _, rfl, rfl, rfl,
          fun h => h.move (.commitDelta hlock) rfl⟩
      have hcommit := hexit.then (hnext { w with protocol := w.protocol.commitDelta delta }
        rfl rfl rfl)
      exact (hcommit.within (.publishReserved _ reserved)).weaken fun _ => rfl

/-- The hub stays as it is. -/
theorem commitStage_within {delta : Option ProtocolMigrationDelta}
    (hd : TableEdits w.activeIdentity w.protocol (w.protocol.commitDelta delta))
    (deliveries : List OutboundDelivery) (unavailable : SessionId → WorldError) :
    Within w (w.commitStage w.myroom delta deliveries unavailable).2 := by
  unfold commitStage
  split
  next => exact .refl w
  next reserved _ =>
    split
    next => exact .refl w
    next hlock =>
      have hexit : Within w { w with protocol := w.protocol.commitDelta delta } :=
        ⟨rfl, rfl, hd, commitDelta_shrinks _ _, rfl, rfl, rfl,
          fun h => h.move (.commitDelta hlock) rfl⟩
      exact hexit.published reserved

theorem enterClientStage_leads (w : World H) (session : SessionId) :
    Leads env (w, []) (survives (w.enterClientStage env session).1)
      ((w.enterClientStage env session).2, []) := by
  unfold enterClientStage
  split
  next => exact .refl
  next identity _ =>
    split
    next => exact .refl
    next left hleft =>
      split
      next => exact .refl
      next delta deliveries hp =>
        split
        next => exact .refl
        next =>
          cases left with
          | none =>
            exact (commitStage_within (planProtocolRoomExit_edits _ hp) _ _).leads
          | some moved =>
            refine commitStage_leads env (planProtocolRoomExit_edits _ hp) ?_ _ _
            intro w' hm _ _
            exact .move (.left (hm ▸ hleft))

theorem myroomRequest_leads (w : World H) (session : SessionId) (request : Q) :
    Leads env (w, []) (survives (w.myroomRequest env session request).1)
      ((w.myroomRequest env session request).2, []) := by
  unfold myroomRequest
  split
  next => exact .refl
  next identity _ =>
    split
    next => exact .refl
    next => exact (commitStage_within .refl _ _).leads
    next next fanout hstays =>
      split
      next => exact .refl
      next =>
        refine commitStage_leads env .refl ?_ _ _
        intro w' hm _ _
        exact .move (.stays (hm ▸ hstays))
    next next fanout henters =>
      split
      next => exact .refl
      next delta deliveries hp =>
        split
        next => exact .refl
        next =>
          refine commitStage_leads env (planProtocolRoomExit_edits _ hp) ?_ _ _
          intro w' hm _ _
          exact .move (.enters (hm ▸ henters))

theorem refreshMyroomPresentation_leads (w : World H) (session : SessionId)
    (expected : IdentityBinding) (profile : P) :
    Leads env (w, []) true ((w.refreshMyroomPresentation env session expected profile).2, []) := by
  unfold refreshMyroomPresentation
  split
  next => exact .refl
  next hauthorized =>
    split
    next => exact .refl
    next =>
      split
      next => exact .refl
      next => exact .refl
      next =>
        split
        next => exact .refl
        next hnext => exact .move (.refreshed hauthorized hnext)

/-! ## Identity commands -/

theorem claimIdentity_leads (w : World H) (session : SessionId) (nickname : Text)
    (udpEpoch : Nat) :
    Leads env (w, []) true ((w.claimIdentity env session nickname udpEpoch).2, []) := by
  unfold claimIdentity
  split
  next => exact .refl
  next ip _ =>
    split
    next => exact .refl
    next =>
      rcases hc : w.identities.registry.claimAt env.unicode session ip nickname udpEpoch with
        ⟨result, r⟩
      have hclaim : Leads env (w, []) true (w.withRegistry r, []) := by
        refine .registry (.actor (.claim session ip nickname udpEpoch) (.binding result) rfl ?_
          rfl rfl) (.inr rfl)
        unfold IdentitySystem.actorStep
        dsimp only
        rw [hc]
      cases result with
      | error e => exact hclaim
      | ok binding => exact hclaim.within (.quiet rfl rfl rfl rfl rfl)

theorem preflightMigration_leads (w : World H) (destination : SessionId) (userNo : UserNo)
    (channelId : Nat) (token : MigrationToken) (now : Instant) :
    Leads env (w, []) true
      ((w.preflightMigration destination userNo channelId token now).2, []) := by
  unfold preflightMigration
  split
  next => exact .refl
  next ip _ =>
    exact .registry (.actor (.preflight destination ip userNo channelId token now) (.preflight _)
      rfl rfl rfl rfl) (.inr rfl)

theorem cancelSession_within (w : World H) (session : SessionId) :
    Within w (w.cancelSession session) := by
  unfold cancelSession
  split <;> exact .quiet rfl rfl rfl rfl rfl

/-- What a completion has planned: the tables' part is a path, and the hub advances. -/
theorem prepareCompletion_planned {preflight : MigrationPreflight}
    {candidate : MigrationCandidate} {profile : Option P} {acknowledge capacity : Bool}
    {prepared : PreparedCompletion H}
    (h : w.prepareCompletion env preflight candidate profile acknowledge capacity =
      .ok prepared) :
    (∀ active, TableEdits active w.protocol (w.protocol.commitDelta prepared.delta)) ∧
      env.hub.advance w.myroom candidate.completion.previousBinding candidate.completion.binding
        profile = .ok prepared.next := by
  unfold prepareCompletion at h
  dsimp only at h
  split at h
  next => exact absurd h (by simp)
  next next hadvance =>
    split at h
    next => exact absurd h (by simp)
    next delta deliveries hp =>
      split at h
      next => exact absurd h (by simp)
      next =>
        split at h
        next => exact absurd h (by simp)
        next =>
          split at h
          next =>
            cases h
            exact ⟨fun active => planProtocolMigration_edits active hp, hadvance⟩
          next => exact absurd h (by simp)

/-- A commit completes what its candidate announced. -/
theorem commitMigration_completion {r r' : IdentityRegistry}
    {commit : IdentityRegistry.IdentityMigrationCommit} {udpEpoch : Nat}
    {completion : MigrationCompletion}
    (h : r.commitMigration commit udpEpoch = (.ok completion, r')) :
    completion = commit.completion := by
  unfold IdentityRegistry.commitMigration at h
  dsimp only at h
  split at h
  next => exact absurd h (by simp)
  next =>
    split at h
    next => exact absurd h (by simp)
    next =>
      cases h
      rfl

/-- What follows the commit of the registry: the tables, and who is told. -/
theorem commitTables_within {delta : Option ProtocolMigrationDelta}
    (hd : ∀ active, TableEdits active w.protocol (w.protocol.commitDelta delta))
    (hlock : lockDelta delta w.protocol = .ok ()) (completion : MigrationCompletion) (publications : List OutboundDelivery) :
    Within w (World.publishReserved (completion.previousOwner.elim
      ({ w with
        protocol := w.protocol.commitDelta delta
        observedP2pPorts := w.observedP2pPorts.erase completion.binding.userNo
        identityLifecycle := w.identityLifecycle ++
          [IdentityLifecycleEvent.advance completion.previousIdentity completion.binding] } :
            World H)
      (World.cancelSession { w with
        protocol := w.protocol.commitDelta delta
        observedP2pPorts := w.observedP2pPorts.erase completion.binding.userNo
        identityLifecycle := w.identityLifecycle ++
          [IdentityLifecycleEvent.advance completion.previousIdentity completion.binding] }))
        publications) := by
  have htables : Within w { w with
      protocol := w.protocol.commitDelta delta
      observedP2pPorts := w.observedP2pPorts.erase completion.binding.userNo
      identityLifecycle := w.identityLifecycle ++
        [IdentityLifecycleEvent.advance completion.previousIdentity completion.binding] } :=
    ⟨rfl, rfl, hd _, commitDelta_shrinks _ _, rfl, rfl, rfl,
      fun h => h.move (.commitDelta hlock) rfl⟩
  refine Within.published ?_ publications
  cases completion.previousOwner with
  | none => exact htables
  | some session => exact htables.trans (cancelSession_within _ session)

/-- Publishing looks at no identity. -/
theorem publishReserved_reidentified (w : World H) (identities : IdentitySystem)
    (reserved : List OutboundDelivery) :
    World.publishReserved ({ w with identities := identities } : World H) reserved =
      { w.publishReserved reserved with identities := identities } := by
  have hsend : ∀ (w : World H) d, World.send ({ w with identities := identities } : World H) d =
      { w.send d with identities := identities } := by
    intro w d
    unfold World.send
    dsimp only
    cases w.sessions.lookup d.1 <;> rfl
  unfold World.publishReserved
  induction reserved generalizing w with
  | nil => rfl
  | cons d rest ih => rw [List.foldl_cons, hsend, ih, List.foldl_cons]

/-- The commit of a completion: the registry and the hub, then the planned tables. It begins
from the candidate in `s` and ends on the registry of `r`. -/
theorem commitCompletion_leads {s r : IdentitySystem} {prepared : PreparedCompletion H}
    {commit : IdentityRegistry.IdentityMigrationCommit} {udpEpoch : Nat} {profile : Option P}
    (hd : ∀ active, TableEdits active w.protocol (w.protocol.commitDelta prepared.delta))
    (hlock : lockDelta prepared.delta w.protocol = .ok ())
    (hadvance : env.hub.advance w.myroom commit.completion.previousBinding
      commit.completion.binding profile = .ok prepared.next)
    (hleases : r.leases = s.leases)
    (he : ∀ result r', r.registry.commitMigration commit udpEpoch = (result, r') →
      s.guard = none → Completes env.unicode env.instantMax s { r with registry := r' } result) :
    Leads env ({ w with identities := s }, []) true
      ((World.commitCompletion { w with identities := r } prepared commit udpEpoch).2, []) := by
  have hpublished := Within.publishReserved w prepared.acknowledgement
  have hstart : Leads env ({ w with identities := s }, []) true
      ({ w.publishReserved prepared.acknowledgement with identities := s }, []) := by
    rw [← publishReserved_reidentified]
    exact (Within.publishReserved _ _).leads
  rcases hc : r.registry.commitMigration commit udpEpoch with ⟨result, r'⟩
  unfold commitCompletion
  rw [publishReserved_reidentified]
  dsimp only
  rw [hc]
  cases result with
  | error e => exact hstart.trans (.stride (.jams (he _ _ hc) hleases))
  | ok completion =>
    obtain rfl := commitMigration_completion hc
    have hprotocol := publishReserved_protocol w prepared.acknowledgement
    have hmigrates : Stride env
        ({ w.publishReserved prepared.acknowledgement with identities := s }, [])
        ({ w.publishReserved prepared.acknowledgement with
          identities := { r with registry := r' }
          myroom := prepared.next }, []) :=
      .migrates (he _ _ hc) hleases (hpublished.myroom ▸ hadvance)
    refine hstart.trans (.trans (.stride hmigrates) (Within.leads (commitTables_within ?_ ?_ _ _)))
    · exact hprotocol ▸ hd
    · exact hprotocol ▸ hlock

/-- A completion takes a preflight that its caller holds, and commits what it planned. -/
theorem completePreflightedMigration_leads {i : Nat} {preflight : MigrationPreflight}
    (hi : w.identities.preflights[i]? = some preflight) (profile : Option P)
    (acknowledge capacity indexCapacity : Bool) (udpEpoch : Nat) (now : Instant) :
    Leads env (w, []) true ((w.completePreflightedMigration env i preflight profile acknowledge
      capacity indexCapacity udpEpoch now).2, []) := by
  have habandon : ∀ s : IdentitySystem, s.preflights = w.identities.preflights →
      Idles env.unicode env.instantMax s { s with
        registry := (s.registry.abortPreflightedMigration preflight).2
        preflights := w.identities.preflights.eraseIdx i } := by
    intro s hs
    rw [← hs] at hi ⊢
    exact .abandon hi
  unfold completePreflightedMigration
  dsimp only
  split
  next => exact .registry (habandon _ rfl) (.inr rfl)
  next =>
    rcases hprep : w.identities.registry.preparePreflightedMigration preflight now
      indexCapacity with ⟨result, r⟩
    have hprepare : Idles env.unicode env.instantMax w.identities _ := .prepare hi hprep
    have hprep' : (w.takePreflight i).identities.registry.preparePreflightedMigration preflight
      now indexCapacity = (result, r) := hprep
    rw [hprep']
    cases result with
    | error e => exact .registry (hprepare.trans (.dropPreflight hi)) (.inr rfl)
    | ok candidate =>
      have hfail : Idles env.unicode env.instantMax w.identities { w.identities with
          registry := (r.abortPreflightedMigration preflight).2
          preflights := w.identities.preflights.eraseIdx i } :=
        (hprepare.trans (habandon _ rfl)).trans (.dropCandidate { w.identities with
          registry := (r.abortPreflightedMigration preflight).2
          preflights := w.identities.preflights.eraseIdx i } candidate)
      dsimp only
      split
      next => exact .registry hfail (.inr rfl)
      next prepared hplan =>
        split
        next => exact .registry hfail (.inr rfl)
        next hdeltaLock =>
          rcases hlock : r.lockPreparedMigration preflight candidate now with ⟨locked, r₁⟩
          have hlock' : (World.withRegistry (w.takePreflight i)
            r).identities.registry.lockPreparedMigration preflight candidate now =
              (locked, r₁) := hlock
          rw [hlock']
          have hticket : ({ w.identities with registry := r }).preflights[i]? = some preflight := hi
          cases locked with
          | error e => exact .registry (hprepare.trans (.lock hticket hlock)) (.inr rfl)
          | ok commit =>
            have hcompletion : commit.completion = candidate.completion := by
              rcases r.lockPreparedMigration_cases preflight candidate now with ⟨e, he⟩ | hc
              · rw [hlock] at he
                exact absurd he (by simp)
              · obtain ⟨v, -, -, he⟩ := hc
                rw [hlock] at he
                cases he
                rfl
            obtain ⟨hdelta, hadvance⟩ := prepareCompletion_planned env hplan
            refine Leads.trans (.registry hprepare (.inr rfl))
              (commitCompletion_leads env (w := w) hdelta hdeltaLock (hcompletion ▸ hadvance) rfl ?_)
            intro result r₂ hc hn
            exact .of_lock hticket hlock hc hn

end World

end P4475
