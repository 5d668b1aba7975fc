import P4475.World.MyRooms.Ops
import P4475.World.Operations

/-!
# Entering a MyRoom

`myroom_entry`: the owner is resolved (by name, again, or by chance), the hub plans the
entry, and the entry commits together with the exit from the protocol room. The order in
which `active_identities` walks its table is an argument, and so is the random choice.
-/

namespace P4475

open Lib MyRoom

/-- `MyRoomOwner::new`. -/
def MyRoom.MyRoomOwner.new {u : Unicode} (participant : MyRoomParticipant u) (info : MyRoomInfo) :
    Except MyRoomHubError (MyRoomOwner u) :=
  match hinfo : validateMyroomInfo info with
  | .error e => .error (.wire e)
  | .ok () => .ok ⟨participant, info, hinfo⟩

/-- `active_identity`. -/
def IdentityRegistry.activeIdentity (u : Unicode) (r : IdentityRegistry) (nickname : Text) :
    Option IdentityBinding :=
  (r.activeByName.lookup (canonicalNicknameKey u nickname)).bind activeIdentityBinding

/-- `active_identities`, in the order of `visit`. -/
def IdentityRegistry.activeIdentities (r : IdentityRegistry) (visit : List Text) :
    List IdentityBinding :=
  visit.filterMap fun key => (r.activeByName.lookup key).bind activeIdentityBinding

structure ProfiledMyRoomOwnerLoad where
  info : MyRoomInfo
  profile : MyRoomProfileLease

inductive MyRoomEntryIntent
  | direct (requestedOwner password : Text) (selfInfo : Option MyRoomInfo)
      (profiledOwner : Option ProfiledMyRoomOwnerLoad)
  | reenter (selfInfo : Except MyRoomProtocolError MyRoomInfo)
  | random

structure MyRoomEntryInput (u : Unicode) where
  expected : IdentityBinding
  member : MyRoomParticipant u
  intent : MyRoomEntryIntent

/-- `full_is_expected_rejection`. -/
def MyRoomEntryIntent.rejectsFull : MyRoomEntryIntent → Bool
  | .direct _ _ _ _ => true
  | .reenter _ => false
  | .random => false

inductive MyRoomEntryOwnerResolution (u : Unicode)
  | rejected (status : EnterMyRoomStatus)
  | passwordRequired (ownerNickname : Text)
  | tracked (owner : MyRoomOwner u)
  | bootstrap (info : MyRoomInfo)

/-- `classify_direct_myroom_owner`. -/
def classifyDirectMyroomOwner {u : Unicode} (owner : MyRoomOwner u) (password : Text) :
    MyRoomEntryOwnerResolution u :=
  if owner.info.useRoomPassword = 0 then .tracked owner
  else if password ≠ [] ∧ password = owner.info.roomPassword then .tracked owner
  else if password = [] then .passwordRequired owner.participant.identity.nickname
  else .rejected .passwordMismatch

/-- The resolution of an owner that there may be. -/
def classifyOwnerIfAny {u : Unicode} (owner : Option (MyRoomOwner u)) (password : Text) :
    MyRoomEntryOwnerResolution u :=
  owner.elim (.rejected .ownerUnavailable) (classifyDirectMyroomOwner · password)

/-- What an entry publishes, after its reply. -/
def MyRoom.EnterOutcome.fanout : EnterOutcome → List MyRoomFanout
  | .reentered _ publication => [publication.fanout]
  | .moved _ previous current => previous.elim [] RoomEffect.fanout ++ [current.fanout]

namespace World

variable {u : Unicode} (env : ServerEnv u)

/-- A packet of a command for its own session. -/
def answerMyroom (w : ServerWorld u) (session : SessionId) (packet : MyRoomPacket) :
    Except WorldOperationError Unit × ServerWorld u :=
  match env.wire.serialize (.myroom packet) with
  | .error e => (.error (.myroom (.serialization e)), w)
  | .ok packet =>
    w.commitStage w.myroom none [(session, [packet])] .myRoomCommandOutboundUnavailable

/-- The identity of a profiled owner: its active one, or the offline one. -/
def profiledOwnerIdentity (w : ServerWorld u) (requestedOwner : Text) :
    Option IdentityBinding → Except IdentityError IdentityBinding × ServerWorld u
  | some identity => (.ok identity, w)
  | none =>
    let (identity, r) := w.identities.registry.offlineMyroomBinding u requestedOwner
    (identity, w.withRegistry r)

/-- The owner that a loaded profile shows under an identity. -/
def profiledOwner (profiled : ProfiledMyRoomOwnerLoad) (identity : IdentityBinding) :
    Except MyRoomLifecycleError (MyRoomOwner u) := do
  let participant ← myroomHubError "profiled direct-entry owner binding"
    ({ profiled.profile.presentation with p2pPort := 0 }.bind u identity)
  myroomHubError "profiled direct-entry owner info" (MyRoomOwner.new participant profiled.info)

/-- `bind_profiled_myroom_owner`. -/
def bindProfiledMyroomOwner (w : ServerWorld u) (requestedOwner : Text)
    (active : Option IdentityBinding) (profiled : Option ProfiledMyRoomOwnerLoad) :
    Except WorldOperationError (Option (MyRoomOwner u)) × ServerWorld u :=
  match profiled with
  | none => (.ok none, w)
  | some profiled =>
    match profiled.profile.matchesNickname u requestedOwner with
    | .error e => (.error (.command (.identity e)), w)
    | .ok false => (.error (.command .myRoomProfileSubjectMismatch), w)
    | .ok true =>
      match w.profiledOwnerIdentity requestedOwner active with
      | (.error e, w) => (.error (.command (.identity e)), w)
      | (.ok identity, w) =>
        (((profiledOwner profiled identity).map some).mapError .myroom, w)

/-- `resolve_direct_myroom_entry_owner`, by what the requested name stands for. -/
def resolveDirectMyroomEntryOwner (w : ServerWorld u) (session : SessionId)
    (requester : IdentityBinding) (requestedOwner password : Text)
    (selfInfo : Option MyRoomInfo) (profiledOwner : Option ProfiledMyRoomOwnerLoad) :
    Except WorldOperationError (MyRoomEntryOwnerResolution u) × ServerWorld u :=
  let requestedSelf : Bool :=
    canonicalNicknameKey u requestedOwner = canonicalNicknameKey u requester.nickname
  let bindOwner (active : Option IdentityBinding) :
      Except WorldOperationError (MyRoomEntryOwnerResolution u) × ServerWorld u :=
    let (owner, w) := w.bindProfiledMyroomOwner requestedOwner active profiledOwner
    (owner.map (classifyOwnerIfAny · password), w)
  if requestedSelf ≠ selfInfo.isSome then
    (.error (.command (.myRoomEntrySelfInfoMismatch session requestedSelf selfInfo.isSome)), w)
  else
    match w.identities.registry.activeIdentity u requestedOwner with
    | none => bindOwner none
    | some target =>
      if target = requester then
        match w.myroom.hub.trackedOwnerEntryInput requester, selfInfo with
        | .error e, _ => (.error (.myroom (.hub "self-entry owner query" e)), w)
        | .ok (some owner), _ => (.ok (.tracked owner), w)
        | .ok none, some info => (.ok (.bootstrap info), w)
        | .ok none, none =>
          (.error (.command (.myRoomEntrySelfInfoMismatch session true false)), w)
      else
        match w.myroom.hub.presentOwnerEntryInput target with
        | .error e => (.error (.myroom (.hub "direct-entry owner query" e)), w)
        | .ok (some owner) => (.ok (classifyDirectMyroomOwner owner password), w)
        | .ok none => bindOwner (some target)

/-- `resolve_reenter_myroom_entry_owner`. -/
def resolveReenterMyroomEntryOwner (w : ServerWorld u) (session : SessionId)
    (requester : IdentityBinding) (selfInfo : Except MyRoomProtocolError MyRoomInfo) :
    Except WorldOperationError (MyRoomEntryOwnerResolution u) :=
  match w.myroom.hub.membershipOwnerEntryInput requester with
  | .error e => .error (.myroom (.hub "reentry membership owner query" e))
  | .ok (some owner) => .ok (.tracked owner)
  | .ok none =>
    match w.myroom.hub.trackedOwnerEntryInput requester, selfInfo with
    | .error e, _ => .error (.myroom (.hub "reentry owned-room query" e))
    | .ok (some owner), _ => .ok (.tracked owner)
    | .ok none, .error e => .error (.command (.myRoomEntrySelfInfoInvalid session e))
    | .ok none, .ok info => .ok (.bootstrap info)

/-- The owners whose rooms `resolve_random_myroom_entry_owner` may choose. -/
def randomCandidates (hub : MyRoomHub u) (requester : UserNo) (currentOwner : Option UserNo) :
    List IdentityBinding → Except MyRoomHubError (List (MyRoomOwner u))
  | [] => .ok []
  | candidate :: rest =>
    if candidate.userNo = requester ∨ currentOwner = some candidate.userNo then
      randomCandidates hub requester currentOwner rest
    else
      match hub.publicOwnerEntryAvailability candidate with
      | .error e => .error e
      | .ok (.available owner) =>
        (randomCandidates hub requester currentOwner rest).map (owner :: ·)
      | .ok .full => randomCandidates hub requester currentOwner rest
      | .ok .unavailable => randomCandidates hub requester currentOwner rest

/-- `resolve_random_myroom_entry_owner`. -/
def resolveRandomMyroomEntryOwner (w : ServerWorld u) (requester : IdentityBinding)
    (visit : List Text) (index : Nat) :
    Except WorldOperationError (MyRoomEntryOwnerResolution u) :=
  match w.myroom.hub.membershipIfMember requester with
  | .error e => .error (.myroom (.hub "random-entry requester membership query" e))
  | .ok membership =>
    match randomCandidates w.myroom.hub requester.userNo (membership.map (·.owner))
        (w.identities.registry.activeIdentities visit) with
    | .error e => .error (.myroom (.hub "random-entry owner query" e))
    | .ok candidates =>
      let sorted :=
        sortByKey (fun owner : MyRoomOwner u => owner.participant.userNo.get) candidates
      if sorted.isEmpty then .ok (.rejected .noAvailableRoom)
      else
        match sorted[index]? with
        | none => .error (.command (.myRoomRandomChoiceOutOfRange index sorted.length))
        | some owner => .ok (.tracked owner)

/-- `resolve_myroom_entry_owner`. -/
def resolveMyroomEntryOwner (w : ServerWorld u) (session : SessionId)
    (requester : IdentityBinding) (visit : List Text) (index : Nat) :
    MyRoomEntryIntent →
      Except WorldOperationError (MyRoomEntryOwnerResolution u) × ServerWorld u
  | .direct requestedOwner password selfInfo profiledOwner =>
    w.resolveDirectMyroomEntryOwner session requester requestedOwner password selfInfo
      profiledOwner
  | .reenter selfInfo => (w.resolveReenterMyroomEntryOwner session requester selfInfo, w)
  | .random => (w.resolveRandomMyroomEntryOwner requester visit index, w)

/-- The info of an enter reply: only the owner sees the passwords. -/
def enterReplyInfo (requester : UserNo) (owner : MyRoomOwner u) : MyRoomInfo :=
  if owner.participant.userNo = requester then owner.info else redactMyroomSecrets owner.info

/-- The part of `myroom_entry` after its owner is resolved. -/
def enterOwnedRoom (w : ServerWorld u) (session : SessionId) (identity : IdentityBinding)
    (member : MyRoomParticipant u) (owner : MyRoomOwner u) (rejectsFull : Bool) :
    Except WorldOperationError Unit × ServerWorld u :=
  match w.myroom.transition (w.myroom.hub.enter_planned member owner), rejectsFull with
  | .error (.full _), true => w.answerMyroom env session (.enterReply [] .full .default)
  | .error e, _ => (.error (.myroom (.hub "typed entry" e)), w)
  | .ok (outcome, next), _ =>
    match env.wire.serialize (.myroom (.enterReply owner.participant.identity.nickname .success
        (enterReplyInfo identity.userNo owner))) with
    | .error e => (.error (.myroom (.serialization e)), w)
    | .ok reply =>
      match w.planProtocolRoomExit env.world identity.userNo with
      | .error e => (.error e, w)
      | .ok (delta, deliveries) =>
        match w.myroomDeliveries (⟨[identity], reply⟩ :: outcome.fanout) [] with
        | .error e => (.error (.myroom e), w)
        | .ok more =>
          w.commitStage (next.withoutGrant identity.userNo) delta (deliveries ++ more)
            .myRoomCommandOutboundUnavailable

/-- `myroom_entry`. -/
def myroomEntry (w : ServerWorld u) (session : SessionId) (input : MyRoomEntryInput u)
    (visit : List Text) (index : Nat) : Except WorldOperationError Unit × ServerWorld u :=
  match w.authorizeSessionOperation env.world session with
  | .error e => (.error (.command (.identity e)), w)
  | .ok identity =>
    if identity ≠ input.expected ∨ input.member.identity ≠ input.expected then
      (.error (.command (.myRoomEntryIdentityStale session)), w)
    else
      match w.resolveMyroomEntryOwner session identity visit index input.intent with
      | (.error e, w) => (.error e, w)
      | (.ok (.rejected status), w) => w.answerMyroom env session (.enterReply [] status .default)
      | (.ok (.passwordRequired owner), w) =>
        w.answerMyroom env session (.passwordEnterCommand owner)
      | (.ok (.tracked owner), w) =>
        w.enterOwnedRoom env session identity input.member owner input.intent.rejectsFull
      | (.ok (.bootstrap info), w) =>
        match MyRoomOwner.new input.member info with
        | .error e => (.error (.myroom (.hub "self-entry owner construction" e)), w)
        | .ok owner =>
          w.enterOwnedRoom env session identity input.member owner input.intent.rejectsFull

end World

end P4475
