import P4475.Lib.Machine
import P4475.World.Profiles

/-!
# The world actor

One action is one turn of `run_world_actor_with_timers`, or a step of a task that
shares a queue or a lease with it. The heartbeat that surrounds each command is an
action of its own, and so is the lifecycle flush that follows one, so that every
real schedule is a list of actions. An action fixes what the environment decides:
clock readings, random draws, and the order in which a hash table is walked.

A fatal error or a failed `expect` stops the actor.
-/

namespace P4475

open Lib

/-- `WorldCommand`, without the commands that only read. -/
inductive WorldCommand (Q P : Type)
  | updateRandomTracks (tracks : Nat → Nat → Bool → List Nat)
  | registerSession (state : SessionState)
  | sessionClosed (session : SessionId) (now : Instant)
  | claimIdentity (session : SessionId) (nickname : Text) (udpEpoch : Nat)
  | preflightMigration (destination : SessionId) (userNo : UserNo) (channelId : Nat)
      (token : MigrationToken) (now : Instant)
  | roomProtocol (session : SessionId) (payload : RoomCommandPayload) (visit : List RoomId)
      (now : Instant)
  | enterClientStage (session : SessionId)
  | myroom (session : SessionId) (request : Q)
  | publishRoomEquipment (session : SessionId) (snapshot : RiderItemSnapshot) (now : Instant)
  | refreshRoomKartPhysics (session : SessionId) (floaterCodes : FloaterCodes)
  | refreshMyroomPresentation (session : SessionId) (expected : IdentityBinding) (profile : P)
  | lobby (session : SessionId) (payload : LobbyCommandPayload)
  | race (session : SessionId) (payload : RaceCommandPayload) (now : Instant) (tick : Nat)
  | registerRiderEquipmentWrite (session : SessionId) (admittedNickname : Text)
      (elsewhere : Bool)
  | createRoom
  | joinRoom (room : RoomId) (identity : Text)
  | joinRoomForSession (room : RoomId) (session : SessionId)
  | leaveRoom (identity : Text)
  | takeDueRewardTasks (visit : List RoomId) (now : Instant) (maximum : Nat)
  | completeRewardTask (completion : RewardPersistenceCompletion P) (now : Instant)
  | retryRewardDeadLetter (letter : RewardDeadLetter) (now : Instant)
  | quiesce
  | drainOutboundProducers (identityVisit : List Text) (visit : List RoomId) (now : Instant)
  | drainSessions (visit : List Text)

/-- What happens to a queue outside the actor. -/
inductive TransportEvent
  | received
  | hungUp
  | permitTaken
  | permitReturned
  | gateClosed

inductive WorldAction (Q P : Type)
  | command (command : WorldCommand Q P)
  /-- `AdmittedIdentityOperation`, under the `lease`th lease. -/
  | admitted (lease : Nat) (command : WorldCommand Q P)
  | identity (action : IdentityAction)
  | expireMigrations (visit : List Text) (now : Instant)
  | flushIdentityLifecycle (now : Instant)
  | advanceLoading (visit : List RoomId) (awards : RoomId → List Packet)
      (rolls : RoomId → Nat → Nat × Nat) (now : Instant) (tick : Nat)
  | riderEquipment (ticket : Nat) (completion : RiderEquipmentCompletion P) (now : Instant)
  | mainEmblems (expected : IdentityBinding) (emblems : Nat × Nat × Nat)
      (acknowledgement : OutboundDelivery)
  | profilePresentation (expected : IdentityBinding) (port : Nat)
  | migrationReady (preflight : Nat) (profile : Option P)
      (acknowledge capacity indexCapacity : Bool) (udpEpoch : Nat) (now : Instant)
  | udpIngress (userNo : UserNo) (arrivalEpoch : Nat) (timeSync dispatched : Bool)
      (p2pPort : Option Nat)
  | transport (session : SessionId) (event : TransportEvent)
  | forceShutdown

inductive WorldResponse
  | done
  | unit (result : Except WorldError Unit)
  | session (result : Except WorldError SessionId)
  | binding (result : Except WorldError IdentityBinding)
  | preflight (result : Except WorldError MigrationPreflight)
  | lobby (result : Except WorldError LobbyCommandOutcome)
  | race (result : Except WorldError RaceCommandOutcome)
  | flag (result : Except WorldError Bool)
  | room (result : Option RoomId)
  | slot (result : Except WorldError (Fin 8))
  | tasks (result : Except WorldError (List RewardSettlementTask))
  | completed (result : Except WorldError RewardCompletionDisposition)
  | migration (result : Except WorldError MigrationCompletion)
  | identity (response : IdentityResponse)
  | fatal

structure WorldActor (H : Type) where
  world : World H
  running : Bool

/-- The error of an `expect` that did not hold. -/
def WorldError.isPanic : WorldError → Bool
  | .lobby (.panicked _) => true
  | .race (.panicked _) => true
  | .identity (.panicked _) => true
  | _ => false

/-- The steps on the registry alone that the world lets through: those of the
holders of leases and tickets, and commands that do nothing else. -/
def IdentityAction.direct : IdentityAction → Bool
  | .ensureKnown _ => true
  | .offlineMyroom _ => true
  | .admitOperation _ => true
  | .retain _ => true
  | .dropLease _ => true
  | .beginMigration _ _ _ _ => true
  | .abort _ => true
  | .dropPreflight _ => true
  | _ => false

namespace WorldCommand

variable {Q P : Type}

/-- What `admit_command_during_quiesce` answers to a command that it rejects. -/
def quiescedReply : WorldCommand Q P → Option WorldResponse
  | .registerSession _ => some (.session (.error .sessionRegistrationClosed))
  | .claimIdentity _ _ _ => some (.binding (.error .outboundProductionClosed))
  | .preflightMigration _ _ _ _ _ => some (.preflight (.error .outboundProductionClosed))
  | .roomProtocol _ _ _ _ => some (.unit (.error .outboundProductionClosed))
  | .enterClientStage _ => some (.unit (.error .outboundProductionClosed))
  | .myroom _ _ => some (.unit (.error .outboundProductionClosed))
  | .publishRoomEquipment _ _ _ => some (.unit (.error .outboundProductionClosed))
  | .refreshRoomKartPhysics _ _ => some (.flag (.error .outboundProductionClosed))
  | .lobby _ _ => some (.lobby (.error .outboundProductionClosed))
  | .race _ _ _ _ => some (.race (.error .outboundProductionClosed))
  | .createRoom => some (.unit (.error .outboundProductionClosed))
  | .joinRoom _ _ => some (.slot (.error .outboundProductionClosed))
  | .joinRoomForSession _ _ => some (.slot (.error .outboundProductionClosed))
  | .leaveRoom _ => some (.unit (.error .outboundProductionClosed))
  | .retryRewardDeadLetter _ _ => some (.unit (.error .outboundProductionClosed))
  | .updateRandomTracks _ => some (.unit (.error .outboundProductionClosed))
  | .sessionClosed _ _ => none
  | .refreshMyroomPresentation _ _ _ => none
  | .registerRiderEquipmentWrite _ _ _ => none
  | .takeDueRewardTasks _ _ _ => none
  | .completeRewardTask _ _ => none
  | .quiesce => none
  | .drainOutboundProducers _ _ _ => none
  | .drainSessions _ => none

end WorldCommand

/-- The commands and completions of durable writes that the tickets replace. -/
def WorldCommand.ticketed {Q P : Type} : WorldCommand Q P → Bool
  | .registerRiderEquipmentWrite _ _ _ => true
  | _ => false

/-- The same of an action. -/
def WorldAction.ticketed {Q P : Type} : WorldAction Q P → Bool
  | .command inner => inner.ticketed
  | .admitted _ inner => inner.ticketed
  | .riderEquipment _ _ _ => true
  | .mainEmblems _ _ _ => true
  | _ => false

namespace World

variable {H Q P : Type} (env : WorldEnv H Q P)

/-- A list that walks the room table: every key once. -/
def VisitsRooms (w : World H) (visit : List RoomId) : Prop :=
  visit.Nodup ∧ visit.toFinset = w.protocol.protocolRooms.keys

instance (w : World H) (visit : List RoomId) : Decidable (w.VisitsRooms visit) :=
  inferInstanceAs (Decidable (_ ∧ _))

/-- What a turn leaves behind: its response, and whether the actor goes on. -/
abbrev Turn (H : Type) := WorldResponse × Bool × World H

/-- Answer a command with a result that cannot be fatal. -/
def reply {α : Type} (response : Except WorldError α → WorldResponse) :
    Except WorldError α × World H → Turn H
  | (.ok a, w) => (response (.ok a), true, w)
  | (.error e, w) => (response (.error e), !e.isPanic, w)

/-- `reply_after_world_operation`. -/
def replyOperation {α : Type} (response : Except WorldError α → WorldResponse) :
    Except WorldOperationError α × World H → Turn H
  | (.ok a, w) => (response (.ok a), true, w)
  | (.error (.command e), w) => (response (.error e), !e.isPanic, w)
  | (.error (.myroom _), w) => (.fatal, false, w)

/-- A turn without a reply, any error of which is fatal. -/
def finish {ε α : Type} : Except ε α × World H → Turn H
  | (.ok _, w) => (.done, true, w)
  | (.error _, w) => (.fatal, false, w)

/-- `preflight_migration`. -/
def preflightMigration (w : World H) (destination : SessionId) (userNo : UserNo)
    (channelId : Nat) (token : MigrationToken) (now : Instant) :
    Except WorldError MigrationPreflight × World H :=
  match w.sessionIp destination with
  | .error e => (.error e, w)
  | .ok ip =>
    let (result, r) :=
      w.identities.registry.preflightMigration destination ip userNo channelId token now
    (result.mapError .identity, { w with identities := { w.identities with
      registry := r
      preflights := IdentitySystem.keep w.identities.preflights result } })

/-- `join_room_for_session`. -/
def joinRoomForSession (w : World H) (room : RoomId) (session : SessionId) :
    Except WorldError (Fin 8) × World H :=
  match w.authorizeSessionOperation env session with
  | .error e => (.error (.identity e), w)
  | .ok identity =>
    let (result, w) := w.joinRoom room identity.nickname
    (result.mapError .room, w)

/-- `dispatch_unwrapped_command` past its quiesce gate; `none` where an argument does
not walk the table that it should. -/
def dispatch (w : World H) : WorldCommand Q P → Option (Turn H)
  | .updateRandomTracks tracks =>
    some (.unit (.ok ()), true, { w with randomTracks := some tracks })
  | .registerSession state => some (reply .session (w.registerSession state))
  | .sessionClosed session now => some (finish (w.sessionClosed env session now))
  | .claimIdentity session nickname udpEpoch =>
    some (reply .binding (w.claimIdentity env session nickname udpEpoch))
  | .preflightMigration destination userNo channelId token now =>
    some (reply .preflight (w.preflightMigration destination userNo channelId token now))
  | .roomProtocol session payload visit now =>
    if w.VisitsRooms visit then
      some (replyOperation .unit (w.roomProtocol env session payload visit now))
    else none
  | .enterClientStage session => some (replyOperation .unit (w.enterClientStage env session))
  | .myroom session request => some (replyOperation .unit (w.myroomRequest env session request))
  | .publishRoomEquipment session snapshot now =>
    some (replyOperation .unit (w.publishRoomEquipment env session snapshot now))
  | .refreshRoomKartPhysics session codes =>
    some (replyOperation .flag (w.refreshRoomKartPhysics env session codes))
  | .refreshMyroomPresentation session expected profile =>
    some (replyOperation .unit (w.refreshMyroomPresentation env session expected profile))
  | .lobby session payload => some (reply .lobby (w.lobbyCommand env session payload))
  | .race session payload now tick =>
    some (reply .race (w.raceCommand env session payload now tick))
  | .registerRiderEquipmentWrite session admittedNickname elsewhere =>
    some (reply .unit (w.registerRiderEquipmentWrite env session admittedNickname elsewhere))
  | .createRoom =>
    let (room, w) := w.createRoom
    some (.room room, true, w)
  | .joinRoom room identity =>
    let (result, w) := w.joinRoom room identity
    some (reply .slot (result.mapError .room, w))
  | .joinRoomForSession room session => some (reply .slot (w.joinRoomForSession env room session))
  | .leaveRoom identity =>
    let (result, w) := w.leaveRoom identity
    some (reply .unit (result.mapError .room, w))
  | .takeDueRewardTasks visit now maximum =>
    if w.VisitsRooms visit then
      some (reply .tasks (w.takeDueRewardTasks env visit now maximum))
    else none
  | .completeRewardTask completion now =>
    some (replyOperation .completed (w.completeRewardTask env completion now))
  | .retryRewardDeadLetter letter now => some (reply .unit (w.retryRewardDeadLetter letter now))
  | .quiesce => some (.done, true, w.quiesce)
  | .drainOutboundProducers identityVisit visit now =>
    if w.VisitsRooms visit ∧ w.identities.registry.Visits identityVisit then
      some (replyOperation .flag (w.drainOutboundProducersOnce env identityVisit visit now))
    else none
  | .drainSessions visit =>
    if w.identities.registry.Visits visit then
      some (replyOperation .unit (w.drainSessionsForShutdown env visit))
    else none

/-- `dispatch_unwrapped_command`. -/
def dispatchCommand (w : World H) (command : WorldCommand Q P) : Option (Turn H) :=
  match if w.quiescing then command.quiescedReply else none with
  | some response => some (response, true, w)
  | none => w.dispatch env command

/-- Drop a lease, as its holder does. -/
def dropLease (w : World H) (lease : Nat) : World H :=
  match w.identities.leaseStep (.dropLease lease) with
  | some (_, identities) => { w with identities := identities }
  | none => w

def withAdmitted (w : World H) (binding : Option IdentityBinding) : World H :=
  { w with admittedIdentity := binding }

/-- The `AdmittedIdentityOperation` arm of `dispatch_command`. -/
def dispatchAdmitted (w : World H) (lease : Nat) (command : WorldCommand Q P) :
    Option (Turn H) :=
  (w.identities.leases[lease]?).bind fun operation =>
    ((w.withAdmitted (some operation.binding)).dispatchCommand env command).map
      fun (response, running, next) =>
        (response, running, (next.withAdmitted w.admittedIdentity).dropLease lease)

/-- A step of the registry with its callers. -/
def identityStep (w : World H) (action : IdentityAction) : Option (Turn H) :=
  match action, w.quiescing with
  | .admitOperation _, true => some (.unit (.error .outboundProductionClosed), true, w)
  | _, _ =>
    if action.direct then
      (w.identities.step env.unicode env.instantMax action).map fun (response, identities) =>
        (.identity response, true, { w with identities := identities })
    else none

/-- `flush_identity_lifecycle`. -/
def flushIdentityLifecycle (w : World H) (now : Instant) :
    Except MyRoomLifecycleError Unit × World H :=
  match w.collectDrainedIdentityReleases env now with
  | (.error e, w) => (.error e, w)
  | (.ok (), w) => (.ok (), { w with identityLifecycle := [] })

/-- The UDP part of `dispatch_udp_ingress` after its admission. `dispatched` says
that the UDP service took the datagram. -/
def dispatchUdp (w : World H) (identity : IdentityBinding) (timeSync dispatched : Bool)
    (p2pPort : Option Nat) : Except PublicationError Unit × World H :=
  let candidate := if timeSync then w.loadingReadinessCandidate identity else none
  if dispatched then
    match p2pPort.elim (.ok (), w) (w.recordObservedP2pPort env identity) with
    | (.error e, w) => (.error e, w)
    | (.ok (), w) => (.ok (), candidate.elim w w.markLoadingReady)
  else (.ok (), w)

/-- `dispatch_udp_ingress`. -/
def dispatchUdpIngress (w : World H) (userNo : UserNo) (arrivalEpoch : Nat)
    (timeSync dispatched : Bool) (p2pPort : Option Nat) :
    Except PublicationError Unit × World H :=
  if w.quiescing then (.ok (), w)
  else
    match w.identities.registry.admitUdpOperation userNo arrivalEpoch with
    | (.error _, r) => (.ok (), w.withRegistry r)
    | (.ok operation, r) =>
      let (result, w) :=
        (w.withRegistry r).dispatchUdp env operation.binding timeSync dispatched p2pPort
      (result, w.withRegistry (w.identities.registry.dropLease operation))

/-- An event on a session's queue. -/
def transport (w : World H) (session : SessionId) (event : TransportEvent) : World H :=
  match w.sessions.lookup session with
  | none => w
  | some state =>
    let queue (f : OutboundQueue → OutboundQueue) : SessionState :=
      { state with outbound := state.outbound.map f }
    let state : SessionState :=
      match event with
      | .received => queue fun q => { q with queued := q.queued.tail }
      | .hungUp => queue fun q => { q with closed := true }
      | .permitTaken => queue fun q => { q with permits := q.permits + 1 }
      | .permitReturned => queue fun q => { q with permits := q.permits - 1 }
      | .gateClosed => { state with acceptingOutbound := state.acceptingOutbound.map fun _ => false }
    { w with sessions := w.sessions.insert session state }

/-- `cancel_all_sessions`. -/
def cancelAllSessions (w : World H) : World H :=
  let cancel (state : SessionState) : SessionState := { state with cancellation := false }
  { w with sessions := Map.mapValues w.sessions cancel }

/-- One turn. -/
def turn (w : World H) : WorldAction Q P → Option (Turn H)
  | .command command => w.dispatchCommand env command
  | .admitted lease command => w.dispatchAdmitted env lease command
  | .identity action => w.identityStep env action
  | .expireMigrations visit now =>
    if w.quiescing then some (.done, true, w)
    else if w.identities.registry.Visits visit then
      some (finish (w.expireMigrations env visit now true))
    else none
  | .flushIdentityLifecycle now => some (finish (w.flushIdentityLifecycle env now))
  | .advanceLoading visit awards rolls now tick =>
    if w.VisitsRooms visit then
      some (.done, true, w.advanceLoading env visit awards rolls now tick)
    else none
  | .riderEquipment ticket completion now =>
    (w.pendingRiderEquipmentWrites[ticket]?).map fun pending =>
      finish (w.finishRiderEquipmentWrite env ticket pending completion now)
  | .mainEmblems expected emblems acknowledgement =>
    some (finish (w.publishDurableMainEmblems env expected emblems acknowledgement))
  | .profilePresentation expected port =>
    some (finish (w.publishDurableProfilePresentation env expected port))
  | .migrationReady i profile acknowledge capacity indexCapacity udpEpoch now =>
    (w.identities.preflights[i]?).map fun preflight =>
      replyOperation .migration (w.completePreflightedMigration env i preflight profile
        acknowledge capacity indexCapacity udpEpoch now)
  | .udpIngress userNo arrivalEpoch timeSync dispatched p2pPort =>
    some (finish (w.dispatchUdpIngress env userNo arrivalEpoch timeSync dispatched p2pPort))
  | .transport session event => some (.done, true, w.transport session event)
  | .forceShutdown => some (.done, false, w.cancelAllSessions)

end World

namespace WorldActor

variable {H Q P : Type} (env : WorldEnv H Q P)

/-- One action of a running actor. -/
def step (a : WorldActor H) (action : WorldAction Q P) : Option (WorldResponse × WorldActor H) :=
  if a.running then
    (a.world.turn env action).map fun (response, running, world) => (response, ⟨world, running⟩)
  else none

/-- The world as a machine. -/
def machine : Machine (WorldActor H) (WorldAction Q P) WorldResponse where
  init := ⟨.initial env.emptyHub, true⟩
  step := step env

end WorldActor

end P4475
