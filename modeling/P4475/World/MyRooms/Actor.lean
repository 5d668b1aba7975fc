import P4475.World.MyRooms.Writes

/-!
# The server's world

The world actor with its MyRooms. An action is one of the world, a MyRoom command with or
without a lease, or the completion of a durable write. The plans for protected resources
stand outside the actor until a publication spends them; a plan moves, so each is spent
once.

The world's own equipment and emblem actions are left to the registrations and completions
here, which carry the tickets.
-/

namespace P4475

open Lib MyRoom

/-- A plan that a caller holds. -/
inductive MyRoomOwnerPlan
  | items (plan : MyRoomOwnerItemsPlan)
  | emblems (plan : MyRoomOwnerResourceResponsePlan)
  | career (plan : MyRoomOwnerResourceResponsePlan)
  deriving DecidableEq

/-- The commands of the MyRooms; `plan` counts the plans that callers hold. -/
inductive MyRoomServerCommand (u : Unicode)
  | entry (session : SessionId) (input : MyRoomEntryInput u) (visit : List Text) (index : Nat)
  | command (session : SessionId) (payload : MyRoomCommandPayload)
      (prepared : MyRoomPreparedCommand u)
  | checkPassword (session : SessionId) (request : CheckPasswordRequest)
  | prepareOwnerItems (session : SessionId)
  | prepareOwnerEmblems (session : SessionId)
  | prepareOwnerCareerList (session : SessionId)
  | publishOwnerItems (session : SessionId) (plan : Nat) (loaded : Option MyRoomOwnerItemLoad)
  | publishOwnerEmblems (session : SessionId) (plan : Nat) (packet : List UInt8)
  | publishOwnerCareerList (session : SessionId) (plan : Nat)
  | prepareMainEmblemWrite (session : SessionId)
  | registerInfoWrite (session : SessionId) (admittedNickname : Text) (proposed : MyRoomInfo)
  | registerRiderEquipmentWrite (session : SessionId) (admittedNickname : Text)
      (selection : RiderItemSelection)
  | registerMainEmblemWrite (session : SessionId) (plan : MyRoomPresentOwnerPlan)
      (admittedNickname : Text) (requested : Nat × Nat × Nat)

inductive ServerAction (u : Unicode)
  | world (action : WorldAction MyRoomPeerCommandPayload MyRoomProfileLease)
  | myroom (command : MyRoomServerCommand u)
  /-- `AdmittedIdentityOperation`, under the `lease`th lease. -/
  | admitted (lease : Nat) (command : MyRoomServerCommand u)
  | infoCompletion (ticket : MyRoomProfileTicketId) (completion : ProfileCompletion MyRoomInfo)
  | riderEquipmentCompletion (ticket : MyRoomProfileTicketId)
      (completion : ProfileCompletion DurableRiderEquipment) (now : Instant)
  | mainEmblemCompletion (ticket : MyRoomProfileTicketId)
      (completion : ProfileCompletion (Nat × Nat × Nat))
  | dropPlan (plan : Nat)

inductive ServerResponse
  | done
  | world (response : WorldResponse)
  | unit (result : Except WorldError Unit)
  | password (result : Except WorldError CheckPasswordStatus)
  | plan (result : Except WorldError (Option MyRoomOwnerPlan))
  | published (result : Except WorldError Bool)
  | presentOwner (result : Except WorldError (Option MyRoomPresentOwnerPlan))
  | registered (result : Except ProfileWriteError MyRoomProfileTicketId)
  | infoPublication (publication : Option MyRoomInfoPublication)
  | emblemPublication (publication : Option Publication)
  | fatal

namespace MyRoomServerCommand

variable {u : Unicode}

/-- The plan that a command spends. -/
def spends : MyRoomServerCommand u → Option Nat
  | .publishOwnerItems _ plan _ => some plan
  | .publishOwnerEmblems _ plan _ => some plan
  | .publishOwnerCareerList _ plan => some plan
  | _ => none

/-- What `admit_command_during_quiesce` answers to a command that it rejects. -/
def quiescedReply : MyRoomServerCommand u → Option ServerResponse
  | .entry _ _ _ _ => some (.unit (.error .outboundProductionClosed))
  | .command _ _ _ => some (.unit (.error .outboundProductionClosed))
  | .checkPassword _ _ => some (.password (.error .outboundProductionClosed))
  | .prepareOwnerItems _ => none
  | .prepareOwnerEmblems _ => some (.plan (.error .outboundProductionClosed))
  | .prepareOwnerCareerList _ => some (.plan (.error .outboundProductionClosed))
  | .publishOwnerItems _ _ _ => some (.published (.error .outboundProductionClosed))
  | .publishOwnerEmblems _ _ _ => some (.published (.error .outboundProductionClosed))
  | .publishOwnerCareerList _ _ => some (.published (.error .outboundProductionClosed))
  | .prepareMainEmblemWrite _ => some (.presentOwner (.ok none))
  | .registerInfoWrite _ _ _ => none
  | .registerRiderEquipmentWrite _ _ _ => none
  | .registerMainEmblemWrite _ _ _ _ => none

end MyRoomServerCommand

namespace World

variable {u : Unicode} (env : ServerEnv u)

/-- What a MyRoom turn leaves behind. -/
abbrev ServerTurn (u : Unicode) := ServerResponse × Bool × ServerWorld u

/-- `reply_after_world_operation`. -/
def replyServer {α : Type} (response : Except WorldError α → ServerResponse) :
    Except WorldOperationError α × ServerWorld u → ServerTurn u
  | (.ok a, w) => (response (.ok a), true, w)
  | (.error (.command e), w) => (response (.error e), !e.isPanic, w)
  | (.error (.myroom _), w) => (.fatal, false, w)

/-- The reply of a registration. -/
def replyRegistration :
    Except RegistrationError MyRoomProfileTicketId × ServerWorld u → ServerTurn u
  | (.ok ticket, w) => (.registered (.ok ticket), true, w)
  | (.error (.request e), w) => (.registered (.error e), true, w)
  | (.error _, w) => (.fatal, false, w)

/-- The turn of a completion. -/
def replyCompletion {α : Type} (response : α → ServerResponse) :
    Except CompletionError α × ServerWorld u → ServerTurn u
  | (.ok a, w) => (response a, true, w)
  | (.error _, w) => (.fatal, false, w)

/-- A prepared resource plan under its wrapper. -/
def wrapPlan (wrap : MyRoomOwnerResourceResponsePlan → MyRoomOwnerPlan) :
    Except WorldOperationError (Option MyRoomOwnerResourceResponsePlan) × ServerWorld u →
      ServerTurn u
  | (result, w) => replyServer .plan (result.map (Option.map wrap), w)

/-- A MyRoom command past its quiesce gate, with the plan that it spends; `none` where
the plan is of another kind, or an argument does not walk the table that it should. -/
def dispatchMyroom (w : ServerWorld u) (plan : Option MyRoomOwnerPlan) :
    MyRoomServerCommand u → Option (ServerTurn u)
  | .entry session input visit index =>
    if w.identities.registry.Visits visit then
      some (replyServer .unit (w.myroomEntry env session input visit index))
    else none
  | .command session payload prepared =>
    some (replyServer .unit (w.myroomCommand env session payload prepared))
  | .checkPassword session request =>
    some (replyServer .password (w.myroomCheckPassword env session request))
  | .prepareOwnerItems session =>
    let (result, w) := w.prepareMyroomOwnerItems env session
    some (replyServer .plan (result.map fun plan => some (.items plan), w))
  | .prepareOwnerEmblems session =>
    some (wrapPlan .emblems (w.prepareMyroomOwnerResource env session .ownerEmblems))
  | .prepareOwnerCareerList session =>
    some (wrapPlan .career (w.prepareMyroomOwnerResource env session .career))
  | .publishOwnerItems session _ loaded =>
    match plan with
    | some (.items plan) =>
      some (replyServer .published (w.publishMyroomOwnerItems env session plan loaded))
    | _ => none
  | .publishOwnerEmblems session _ packet =>
    match plan with
    | some (.emblems plan) => some (replyServer .published
        (w.publishMyroomOwnerResource env session plan (.prepared packet)))
    | _ => none
  | .publishOwnerCareerList session _ =>
    match plan with
    | some (.career plan) => some (replyServer .published
        (w.publishMyroomOwnerResource env session plan .emptyOwnerCareerList))
    | _ => none
  | .prepareMainEmblemWrite session =>
    some (replyServer .presentOwner (w.prepareMainEmblemWrite env session, w))
  | .registerInfoWrite session admittedNickname proposed =>
    some (replyRegistration (w.registerMyroomInfoWrite env session admittedNickname proposed))
  | .registerRiderEquipmentWrite session admittedNickname selection =>
    some (replyRegistration (w.registerRiderEquipment env session admittedNickname selection))
  | .registerMainEmblemWrite session plan admittedNickname requested =>
    some (replyRegistration
      (w.registerMainEmblemWrite env session plan admittedNickname requested))

/-- A MyRoom command. -/
def dispatchMyroomCommand (w : ServerWorld u) (plan : Option MyRoomOwnerPlan)
    (command : MyRoomServerCommand u) : Option (ServerTurn u) :=
  match if w.quiescing then command.quiescedReply else none with
  | some response => some (response, true, w)
  | none => w.dispatchMyroom env plan command

/-- A MyRoom command under an admitted lease. -/
def dispatchAdmittedMyroom (w : ServerWorld u) (plan : Option MyRoomOwnerPlan) (lease : Nat)
    (command : MyRoomServerCommand u) : Option (ServerTurn u) :=
  (w.identities.leases[lease]?).bind fun operation =>
    ((w.withAdmitted (some operation.binding)).dispatchMyroomCommand env plan command).map
      fun (response, running, next) =>
        (response, running, (next.withAdmitted w.admittedIdentity).dropLease lease)

/-- One turn, of the plan that it spends. -/
def serverTurn (w : ServerWorld u) (plan : Option MyRoomOwnerPlan) :
    ServerAction u → Option (ServerTurn u)
  | .world action =>
    if action.ticketed then none
    else (w.turn env.world action).map fun (response, running, w) =>
      (.world response, running, w)
  | .myroom command => w.dispatchMyroomCommand env plan command
  | .admitted lease command => w.dispatchAdmittedMyroom env plan lease command
  | .infoCompletion ticket completion =>
    some (replyCompletion .infoPublication (w.completeMyroomInfoWrite ticket completion))
  | .riderEquipmentCompletion ticket completion now =>
    some (replyCompletion (fun _ => .done)
      (w.completeRiderEquipmentWrite env ticket completion now))
  | .mainEmblemCompletion ticket completion =>
    some (replyCompletion .emblemPublication (w.completeMainEmblemWrite env ticket completion))
  | .dropPlan _ => some (.done, true, w)

end World

/-- The plan that an action takes from those that callers hold. -/
def ServerAction.spends {u : Unicode} : ServerAction u → Option Nat
  | .myroom command => command.spends
  | .admitted _ command => command.spends
  | .dropPlan plan => some plan
  | _ => none

/-- The plan that a turn hands out. -/
def ServerResponse.minted : ServerResponse → Option MyRoomOwnerPlan
  | .plan (.ok minted) => minted
  | _ => none

structure ServerActor (u : Unicode) where
  world : ServerWorld u
  plans : List MyRoomOwnerPlan
  running : Bool

namespace ServerActor

variable {u : Unicode} (env : ServerEnv u)

/-- The plans that callers hold after a turn. -/
def plansAfter (plans : List MyRoomOwnerPlan) (spent : Option Nat) (response : ServerResponse) :
    List MyRoomOwnerPlan :=
  spent.elim plans plans.eraseIdx ++ response.minted.toList

/-- One action of a running actor. -/
def step (a : ServerActor u) (action : ServerAction u) :
    Option (ServerResponse × ServerActor u) :=
  if a.running then
    (a.world.serverTurn env (action.spends.bind (a.plans[·]?)) action).map
      fun (response, running, world) =>
        (response, ⟨world, plansAfter a.plans action.spends response, running⟩)
  else none

/-- The server's world as a machine. -/
def machine : Machine (ServerActor u) (ServerAction u) ServerResponse where
  init := ⟨.initial (.initial u env.identityCapacity), [], true⟩
  step := step env

end ServerActor

end P4475
