import P4475.World.Tables

/-!
# Closing sessions and releasing identities

A delivery that a session cannot take closes that session, which may release its
identity, empty a room and add deliveries of its own; `deliver` runs until nothing
is pending. Each failure takes a session out of the table, so as many rounds as
there are sessions are enough.
-/

namespace P4475

open Lib

/-- `released_matches_binding`. -/
def releasedMatchesBinding (released : ReleasedIdentity) (binding : IdentityBinding) : Bool :=
  released.nickname = binding.nickname ∧ released.userNo = binding.userNo ∧
    released.generation = binding.generation ∧ released.sourceIp = binding.sourceIp ∧
    released.channel = binding.channel

/-- `UnavailableReleaseIndex::contains_exact`; a user's last release counts. -/
def containsExact (released : List ReleasedIdentity) (binding : IdentityBinding) : Bool :=
  (released.reverse.find? (·.userNo = binding.userNo)).any (releasedMatchesBinding · binding)

/-- Add a packet to a session's group, at the end if the session is new. -/
def groupPacket (grouped : List OutboundDelivery) (session : SessionId) (packet : Packet) :
    List OutboundDelivery :=
  match grouped.findIdx? (·.1 = session) with
  | some k => grouped.modify k fun (s, packets) => (s, packets ++ [packet])
  | none => grouped ++ [(session, [packet])]

namespace World

variable {H Q P : Type} (env : WorldEnv H Q P)

/-- One recipient of `myroom_deliveries_from_serialized`. -/
def addRecipient (w : World H) (unavailable : List ReleasedIdentity) (packet : Packet)
    (grouped : List OutboundDelivery) (recipient : IdentityBinding) :
    Except MyRoomLifecycleError (List OutboundDelivery) :=
  match w.activeIdentity recipient.userNo with
  | none =>
    if w.identities.registry.isCurrentOwnerlessBinding recipient ∨
        containsExact unavailable recipient then .ok grouped
    else .error (.audienceIdentityMismatch recipient.userNo)
  | some active =>
    if active = recipient then .ok (groupPacket grouped recipient.owner packet)
    else .error (.audienceIdentityMismatch recipient.userNo)

/-- `myroom_deliveries_from_serialized`. -/
def myroomDeliveries (w : World H) (fanout : List MyRoomFanout)
    (unavailable : List ReleasedIdentity) :
    Except MyRoomLifecycleError (List OutboundDelivery) :=
  fanout.foldlM (fun grouped f =>
    f.audience.foldlM (w.addRecipient unavailable f.packet) grouped) []

/-- Leave the plain room, if the nickname is in one. -/
def leavePlainRoom (w : World H) (nickname : Text) : World H :=
  match w.roomByIdentity.lookup nickname with
  | none => w
  | some roomId =>
    let w := { w with roomByIdentity := w.roomByIdentity.erase nickname }
    match w.rooms.lookup roomId with
    | none => w
    | some room =>
      match room.slots.position (· = nickname) with
      | none => w
      | some slot => { w with
          rooms := w.rooms.insert roomId { room with slots := room.slots.put slot none } }

/-- The MyRoom part of `release_identity_state_with_wire_policy`: what to publish,
and the next hub. -/
def planMyroomRelease (w : World H) (identity : ReleasedIdentity)
    (unavailable : List ReleasedIdentity) (publishWire : Bool) :
    Except MyRoomLifecycleError (List OutboundDelivery × H) :=
  match env.hub.disconnectReleased w.myroom identity with
  | .error e => .error e
  | .ok (next, fanout) =>
    if publishWire then
      match w.myroomDeliveries fanout unavailable with
      | .error e => .error e
      | .ok deliveries =>
        ((w.reserve [] deliveries).mapError .outboundUnavailable).map (·, next)
    else .ok ([], next)

/-- `release_identity_state_with_wire_policy`. -/
def releaseIdentityState (w : World H) (identity : ReleasedIdentity)
    (unavailable : List ReleasedIdentity) (publishWire : Bool) :
    Except MyRoomLifecycleError (List OutboundDelivery) × World H :=
  let w := { w with observedP2pPorts := w.observedP2pPorts.erase identity.userNo }
  match w.planMyroomRelease env identity unavailable publishWire with
  | .error e => (.error e, w)
  | .ok (reserved, next) =>
    let w := { w with myroom := next }.publishReserved reserved
    let w := { w with
      identityLifecycle := w.identityLifecycle ++ [IdentityLifecycleEvent.release identity] }
    let w := w.leavePlainRoom identity.nickname
    let (deliveries, w) := w.removeProtocolUser env identity.userNo
    (deliveries.map fun deliveries => if publishWire then deliveries else [], w)

/-- The loop over a batch of releases. -/
def releaseAll (unavailable : List ReleasedIdentity) (publishWire : Bool) :
    List ReleasedIdentity → World H → Except MyRoomLifecycleError (List OutboundDelivery) × World H
  | [], w => (.ok [], w)
  | identity :: rest, w =>
    match w.releaseIdentityState env identity unavailable publishWire with
    | (.error e, w) => (.error e, w)
    | (.ok first, w) =>
      let (others, w) := releaseAll unavailable publishWire rest w
      (others.map (first ++ ·), w)

/-- `identities.disconnect`. -/
def disconnectIdentity (w : World H) (session : SessionId) (now : Instant) :
    DisconnectOutcome × World H :=
  let (outcome, r) := w.identities.registry.disconnect env.unicode session now
  (outcome, w.withRegistry r)

/-- `close_session_state`, and with `publishWire` off `close_session_without_wire`. -/
def closeSessionState (w : World H) (session : SessionId) (now : Instant) (publishWire : Bool) :
    Except MyRoomLifecycleError (List OutboundDelivery) × World H :=
  let w := { w with sessions := w.sessions.erase session }
  match w.disconnectIdentity env session now with
  | (.released identity, w) => w.releaseIdentityState env identity [] publishWire
  | (_, w) => (.ok [], w)

/-- `defer_session_close_for_rider_equipment`; `none` is `false`. -/
def deferSessionClose (w : World H) (session : SessionId) : Option (World H) :=
  (w.pendingRiderEquipmentWrites.findIdx? (·.expected.owner = session)).map fun k => { w with
    pendingRiderEquipmentWrites := w.pendingRiderEquipmentWrites.modify k fun pending =>
      { pending with closeRequested := true }
    sessions := w.sessions.erase session }

/-- What `deliver` does with a session that could not take its batch. -/
def failSession (w : World H) (session : SessionId) (now : Instant) :
    Except MyRoomLifecycleError (List OutboundDelivery) × World H :=
  match w.deferSessionClose session with
  | some w => (.ok [], w)
  | none => w.closeSessionState env session now (!w.quiescing)

/-- The loop of `deliver` up to the next failure, from which `resume` goes on. -/
def deliverUntil (now : Instant)
    (resume : List OutboundDelivery → List SessionId → World H →
      Except MyRoomLifecycleError Unit × World H) :
    List OutboundDelivery → List SessionId → World H →
      Except MyRoomLifecycleError Unit × World H
  | [], _, w => (.ok (), w)
  | delivery :: rest, failed, w =>
    match w.sessions.lookup delivery.1 with
    | none => deliverUntil now resume rest failed w
    | some state =>
      if state.accepts 0 then deliverUntil now resume rest failed (w.send delivery)
      else if delivery.1 ∈ failed then deliverUntil now resume rest failed w
      else
        match w.failSession env delivery.1 now with
        | (.error e, w) => (.error e, w)
        | (.ok more, w) => resume (rest ++ more) (delivery.1 :: failed) w

/-- The loop of `deliver`, with a bound on the failures. -/
def deliverLoop (now : Instant) : Nat → List OutboundDelivery → List SessionId → World H →
    Except MyRoomLifecycleError Unit × World H
  | 0 => deliverUntil env now fun _ _ w => (.error (.panicked "more failures than sessions"), w)
  | n + 1 => deliverUntil env now (deliverLoop now n)

/-- `deliver`. -/
def deliver (w : World H) (deliveries : List OutboundDelivery) (now : Instant) :
    Except MyRoomLifecycleError Unit × World H :=
  deliverLoop env now w.sessions.keys.card deliveries [] w

/-- Deliver what a previous stage asks for. -/
def thenDeliver (now : Instant) :
    Except MyRoomLifecycleError (List OutboundDelivery) × World H →
      Except MyRoomLifecycleError Unit × World H
  | (.error e, w) => (.error e, w)
  | (.ok deliveries, w) => w.deliver env deliveries now

/-- `close_session` and `close_session_without_wire`, as `quiescing` selects. -/
def closeSession (w : World H) (session : SessionId) (now : Instant) :
    Except MyRoomLifecycleError Unit × World H :=
  thenDeliver env now (w.closeSessionState env session now (!w.quiescing))

/-- `dispatch_session_closed`, up to its reply. -/
def sessionClosed (w : World H) (session : SessionId) (now : Instant) :
    Except MyRoomLifecycleError Unit × World H :=
  match w.deferSessionClose session with
  | some w => (.ok (), w)
  | none => w.closeSession env session now

/-- `expire_migrations`, and with `publishWire` off `expire_migrations_without_wire`. -/
def expireMigrations (w : World H) (visit : List Text) (now : Instant) (publishWire : Bool) :
    Except MyRoomLifecycleError Unit × World H :=
  let (identities, r) := w.identities.registry.expireMigrations visit now
  thenDeliver env now (releaseAll env (if publishWire then identities else []) publishWire
    identities (w.withRegistry r))

/-- `collect_drained_identity_releases`. -/
def collectDrainedIdentityReleases (w : World H) (now : Instant) :
    Except MyRoomLifecycleError Unit × World H :=
  let (identities, r) := w.identities.registry.collectDrainedReleases
  thenDeliver env now (releaseAll env (if w.quiescing then [] else identities) (!w.quiescing)
    identities (w.withRegistry r))

/-- `drain_sessions_for_shutdown`. -/
def drainSessionsForShutdown (w : World H) (visit : List Text) :
    Except WorldOperationError Unit × World H :=
  if w.quiescing then
    if w.identities.registry.outstandingOperationCount ≠ 0 then
      (.error (.command (.identityOperationShutdownBlocked
        w.identities.registry.outstandingOperationCount)), w)
    else
      let (released, r) := w.identities.registry.drainActive visit
      match releaseAll env released true released { w.withRegistry r with sessions := ∅ } with
      | (.error e, w) => (.error (.myroom e), w)
      | (.ok _, w) =>
        if env.hub.retains w.myroom then (.error (.myroom .shutdownStateRetained), w)
        else (.ok (), w)
  else (.error (.command .sessionDrainRequiresQuiesce), w)

end World

end P4475
