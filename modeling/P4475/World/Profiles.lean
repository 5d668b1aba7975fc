import P4475.World.Rewards

/-!
# What a profile shows in a room

Equipment, kart physics, emblems and the P2P endpoint of a member are copies of
profile data. They change by a command of the session or when a durable write
completes; none of them moves anybody. A rider-equipment write that is pending
holds back the close of its session.
-/

namespace P4475

open Lib

/-- The failures of a publication, all of which stop the actor. -/
inductive PublicationError
  | protocolMembership (roomId userNo : Nat)
  | protocol (error : Text)
  | delivery (error : MyRoomLifecycleError)
  | hub (error : MyRoomLifecycleError)
  | acceptedOutcomeLost
  | completionMismatch
  deriving DecidableEq

/-- Outcomes of publishing a durable write. -/
inductive Publication
  | activeCachesUpdated
  | ownerlessCachesUpdated
  | persistedWhileOwnerless
  | persistedAfterSupersession
  | persistedAfterRoleChange
  | persistedAfterRelease
  deriving DecidableEq

inductive RiderEquipmentCompletion (P : Type)
  | abortedBeforeSubmission
  | acceptedOutcomeLost
  /-- The profile lane failed, or what it wrote is not what was asked for. -/
  | mismatched
  | rejected
  | finished (snapshot : RiderItemSnapshot) (profile : P)

namespace World

variable {H Q P : Type} (env : WorldEnv H Q P)

/-! ## Equipment -/

structure RoomEquipmentPlan where
  roomId : RoomId
  userNo : UserNo
  snapshot : RiderItemSnapshot
  packet : Packet
  recipients : List UserNo

/-- `plan_room_equipment`. -/
def planRoomEquipment (w : World H) (userNo : UserNo) (snapshot : RiderItemSnapshot) :
    Except Text (Option RoomEquipmentPlan) :=
  match w.roomOf? userNo with
  | none => .ok none
  | some roomId =>
    match w.room? roomId with
    | none => .ok none
    | some room =>
      match room.equipmentPlayerId userNo with
      | none => .ok none
      | some playerId =>
        (env.wire.serialize (.roomSlotItems playerId snapshot)).map fun packet => some {
          roomId := roomId
          userNo := userNo
          snapshot := snapshot
          packet := packet
          recipients := room.userNos.filter (· ≠ userNo) }

/-- `commit_room_equipment`. -/
def commitRoomEquipment (w : World H) (plan : RoomEquipmentPlan) (now : Instant) :
    Except MyRoomLifecycleError Unit × World H :=
  match w.room? plan.roomId with
  | none => (.error (.panicked "a preplanned protocol equipment room remains actor-owned"), w)
  | some room =>
    let w := w.putRoom plan.roomId ((room.setEquipmentSnapshot plan.userNo plan.snapshot).getD room)
    w.deliver env (w.deliveriesForUsers plan.recipients [plan.packet]) now

/-- `publish_room_equipment`. -/
def publishRoomEquipment (w : World H) (session : SessionId) (snapshot : RiderItemSnapshot)
    (now : Instant) : Except WorldOperationError Unit × World H :=
  match w.authorizeSessionOperation env session with
  | .error e => (.error (.command (.identity e)), w)
  | .ok identity =>
    match w.planRoomEquipment env identity.userNo snapshot with
    | .error e => (.error (.command (.roomProtocol e)), w)
    | .ok none => (.ok (), w)
    | .ok (some plan) => delivered (w.commitRoomEquipment env plan now)

/-- `refresh_room_kart_physics`. -/
def refreshRoomKartPhysics (w : World H) (session : SessionId) (floaterCodes : FloaterCodes) :
    Except WorldOperationError Bool × World H :=
  match w.authorizeSessionOperation env session with
  | .error e => (.error (.command (.identity e)), w)
  | .ok identity =>
    match w.roomOf? identity.userNo with
    | none => (.ok false, w)
    | some roomId =>
      match (w.room? roomId).filter (·.phase = .lobby) with
      | none => (.ok false, w)
      | some room =>
        match room.setFloaterCodes identity.userNo floaterCodes with
        | none => (.ok false, w)
        | some room => (.ok true, w.putRoom roomId room)

/-! ## Endpoints and emblems -/

/-- The publication for a write whose identity is no longer the active one. -/
def supersededPublication (w : World H) (expected : IdentityBinding) : Publication :=
  if (w.activeIdentity expected.userNo).isSome then .persistedAfterSupersession
  else if w.identities.registry.isCurrentOwnerlessBinding expected then .persistedWhileOwnerless
  else .persistedAfterRelease

/-- `publish_active_p2p_endpoint`. -/
def publishActiveP2pEndpoint (w : World H) (expected : IdentityBinding) (port : Nat) :
    Except PublicationError Publication × World H :=
  if w.activeIdentity expected.userNo ≠ some expected then
    (.ok (w.supersededPublication expected), w)
  else
    let endpoint := legacyP2pEndpoint expected.sourceIp port
    let next := (w.roomOf? expected.userNo).map fun roomId =>
      (roomId, (w.room? roomId).bind
        (·.setP2pEndpoint expected.userNo endpoint.1 endpoint.2))
    match next with
    | some (roomId, none) =>
      (.error (.protocolMembership roomId.get expected.userNo.get), w)
    | none =>
      match env.hub.endpointMoved w.myroom expected port with
      | .error e => (.error (.hub e), w)
      | .ok hub => (.ok .activeCachesUpdated, { w with myroom := hub })
    | some (roomId, some room) =>
      match env.hub.endpointMoved w.myroom expected port with
      | .error e => (.error (.hub e), w)
      | .ok hub => (.ok .activeCachesUpdated, { w with myroom := hub }.putRoom roomId room)

/-- `observed_p2p_port`. -/
def observedP2pPort (w : World H) (identity : IdentityBinding) : Option Nat :=
  (w.observedP2pPorts.lookup identity.userNo).bind fun (seen, port) =>
    if seen = identity then some port else none

/-- `record_observed_p2p_port`. -/
def recordObservedP2pPort (w : World H) (identity : IdentityBinding) (port : Nat) :
    Except PublicationError Unit × World H :=
  if w.activeIdentity identity.userNo ≠ some identity then (.ok (), w)
  else if w.observedP2pPort identity = some port then (.ok (), w)
  else
    let w := { w with
      observedP2pPorts := w.observedP2pPorts.insert identity.userNo (identity, port) }
    let (result, w) := w.publishActiveP2pEndpoint env identity port
    (result.map fun _ => (), w)

/-- `publish_durable_profile_presentation`, of a P2P port. -/
def publishDurableProfilePresentation (w : World H) (expected : IdentityBinding) (port : Nat) :
    Except PublicationError Publication × World H :=
  w.publishActiveP2pEndpoint env expected ((w.observedP2pPort expected).getD port)

/-- Send on a permit that an earlier turn reserved. -/
def sendReserved (w : World H) (delivery : OutboundDelivery) : World H :=
  match w.sessions.lookup delivery.1 with
  | some state => { w with sessions := w.sessions.insert delivery.1 { state with
      outbound := state.outbound.map fun queue => { queue with
        permits := queue.permits - 1
        queued := queue.queued ++ [delivery.2] } } }
  | none => w

/-- `publish_durable_main_emblems`. -/
def publishDurableMainEmblems (w : World H) (expected : IdentityBinding)
    (emblems : Nat × Nat × Nat) (acknowledgement : OutboundDelivery) :
    Except PublicationError Publication × World H :=
  if w.activeIdentity expected.userNo ≠ some expected then
    (.ok (if (w.activeIdentity expected.userNo).isSome then .persistedAfterSupersession
      else .persistedAfterRelease), w)
  else
    match env.hub.presentOwner w.myroom expected with
    | .error e => (.error (.hub e), w)
    | .ok false => (.ok .persistedAfterRoleChange, w)
    | .ok true =>
      match w.roomOf? expected.userNo with
      | none => (.ok .activeCachesUpdated, w.sendReserved acknowledgement)
      | some roomId =>
        match (w.room? roomId).bind (·.setMainEmblems expected.userNo emblems) with
        | none => (.error (.protocolMembership roomId.get expected.userNo.get), w)
        | some room =>
          (.ok .activeCachesUpdated, (w.putRoom roomId room).sendReserved acknowledgement)

/-! ## Rider equipment writes -/

/-- `register_rider_equipment_write`; `elsewhere` is a pending write of the user in
another profile lane. -/
def registerRiderEquipmentWrite (w : World H) (session : SessionId) (admittedNickname : Text)
    (elsewhere : Bool) : Except WorldError Unit × World H :=
  if w.quiescing then (.error .outboundProductionClosed, w)
  else
    match w.authorizeSessionOperation env session with
    | .error e => (.error (.identity e), w)
    | .ok identity =>
      if canonicalNicknameKey env.unicode admittedNickname ≠
          canonicalNicknameKey env.unicode identity.nickname then
        (.error .myRoomProfileSubjectMismatch, w)
      else if elsewhere ∨ w.pendingRiderEquipmentWrites.any
          (·.expected.userNo = identity.userNo) then (.error .riderEquipmentAlreadyPending, w)
      else (.ok (), { w with
        pendingRiderEquipmentWrites := w.pendingRiderEquipmentWrites ++ [⟨identity, false⟩] })

/-- The hub and room part of `publish_durable_rider_equipment`. -/
def publishEquipment (w : World H) (expected : IdentityBinding) (profile : P)
    (plan : Option RoomEquipmentPlan) (publication : Publication) (now : Instant) :
    Except PublicationError Publication × World H :=
  match env.hub.equipped w.myroom expected profile with
  | .error e => (.error (.hub e), w)
  | .ok hub =>
    let w := { w with myroom := hub }
    match plan with
    | none => (.ok publication, w)
    | some plan =>
      match w.commitRoomEquipment env plan now with
      | (.error e, w) => (.error (.delivery e), w)
      | (.ok (), w) => (.ok publication, w)

/-- `publish_durable_rider_equipment`. -/
def publishDurableRiderEquipment (w : World H) (expected : IdentityBinding)
    (snapshot : RiderItemSnapshot) (profile : P) (now : Instant) :
    Except PublicationError Publication × World H :=
  if w.activeIdentity expected.userNo = some expected then
    match w.planRoomEquipment env expected.userNo snapshot with
    | .error e => (.error (.protocol e), w)
    | .ok plan =>
      match w.roomOf? expected.userNo, plan with
      | some roomId, none => (.error (.protocolMembership roomId.get expected.userNo.get), w)
      | _, plan => w.publishEquipment env expected profile plan .activeCachesUpdated now
  else if (w.activeIdentity expected.userNo).isSome then (.ok .persistedAfterSupersession, w)
  else if w.identities.registry.isCurrentOwnerlessBinding expected then
    w.publishEquipment env expected profile none .ownerlessCachesUpdated now
  else (.ok .persistedAfterRelease, w)

/-- `finish_deferred_equipment_close`. -/
def finishDeferredEquipmentClose (w : World H) (pending : PendingRiderEquipmentWrite)
    (now : Instant) : Except PublicationError Unit × World H :=
  if pending.closeRequested then
    let (result, w) := w.closeSession env pending.expected.owner now
    (result.mapError .delivery, w)
  else (.ok (), w)

/-- `handle_rider_equipment_profile_completion`, on the `k`th pending write. -/
def finishRiderEquipmentWrite (w : World H) (k : Nat) (pending : PendingRiderEquipmentWrite)
    (completion : RiderEquipmentCompletion P) (now : Instant) :
    Except PublicationError Unit × World H :=
  let w := { w with
    pendingRiderEquipmentWrites := w.pendingRiderEquipmentWrites.eraseIdx k }
  match completion with
  | .abortedBeforeSubmission => w.finishDeferredEquipmentClose env pending now
  | .acceptedOutcomeLost => (.error .acceptedOutcomeLost, w)
  | .mismatched => (.error .completionMismatch, w)
  | .rejected => w.finishDeferredEquipmentClose env pending now
  | .finished snapshot profile =>
    match w.publishDurableRiderEquipment env pending.expected snapshot profile now with
    | (.error e, w) => (.error e, w)
    | (.ok _, w) => w.finishDeferredEquipmentClose env pending now

end World

end P4475
