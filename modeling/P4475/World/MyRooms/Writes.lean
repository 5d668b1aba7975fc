import P4475.World.Actor
import P4475.World.MyRooms.Commands

/-!
# Durable profile writes

A write is registered under a ticket, performed outside the actor, and completed. Three
kinds share the ticket counter and the rule that a user has one pending write. What a
completion finds may have changed meanwhile: the identity, its role in the MyRooms, its
protocol room.

The three kinds have request errors and invariant errors of the same names, and share one
type of each here. A permit that is dropped goes back to its queue.
-/

namespace P4475

open Lib MyRoom

/-- `MyRoomInfoWriteError`, `RiderEquipmentWriteError` and `MainEmblemWriteError`, as far
as a registration returns them. -/
inductive ProfileWriteError
  | worldQuiescing
  | unauthenticatedSession (session : SessionId)
  | profileSubjectMismatch (admitted active : Text)
  | notMember (userNo : UserNo)
  | notPresentOwner (userNo : UserNo)
  | alreadyPending (userNo : UserNo)
  | invalidProposal (error : MyRoomProtocolError)
  | protocol (error : Text)
  | outboundUnavailable (session : SessionId)
  deriving DecidableEq

/-- Failures of a registration: its reply, or the end of the actor. -/
inductive RegistrationError
  | request (error : ProfileWriteError)
  | myroom (error : MyRoomLifecycleError)
  | ticketIdExhausted
  deriving DecidableEq

/-- `MyRoomPersistenceInvariantError` and its two siblings: a completion that fails stops
the actor. -/
inductive CompletionError
  | ticket (error : TakeError UserNo MyRoomProfileTicketId)
  | acceptedOutcomeLost
  | profileInfrastructure
  | completionSubjectMismatch (expected actual : Text)
  | durableValueMismatch
  | publication (error : PublicationError)

inductive MyRoomInfoPublication
  | activeOwnerEchoed
  | ownerlessGenerationUpdated
  | persistedAfterSupersession
  | persistedAfterRoleChange
  | persistedAfterRelease
  deriving DecidableEq

/-- What a profile job did: it broke, or it ran under the lane of `subject` and answered. -/
inductive ProfileJobResult (α : Type)
  | infrastructure
  | ran (subject : Text) (result : Except Text α)

inductive ProfileCompletion (α : Type)
  | abortedBeforeSubmission
  | acceptedOutcomeLost
  | finished (result : ProfileJobResult α)

/-- `DurableRiderEquipment`. -/
structure DurableRiderEquipment where
  selection : RiderItemSelection
  snapshot : RiderItemSnapshot
  profile : MyRoomProfileLease

/-- `MyRoomCompletionIdentityState`. -/
inductive MyRoomCompletionIdentityState
  | active
  | ownerless
  | superseded
  | released
  deriving DecidableEq

/-- What a completed write comes to: its value is missing where the profile lane refused
it. -/
def ProfileJobResult.outcome {α : Type} (u : Unicode) (expected : IdentityBinding) :
    ProfileJobResult α → Except CompletionError (Option α)
  | .infrastructure => .error .profileInfrastructure
  | .ran subject result =>
    match subjectMatches u subject expected.nickname with
    | .error _ => .error .profileInfrastructure
    | .ok false => .error (.completionSubjectMismatch expected.nickname subject)
    | .ok true => .ok result.toOption

namespace World

variable {u : Unicode} (env : ServerEnv u)

/-- A permit that its holder drops. -/
def dropReserved (w : ServerWorld u) (delivery : OutboundDelivery) : ServerWorld u :=
  w.transport delivery.1 .permitReturned

/-- The identity that a registration is for, if nothing else of its user is pending. -/
def admitProfileWrite (w : ServerWorld u) (identity : IdentityBinding) (admittedNickname : Text) :
    Except RegistrationError Unit :=
  if canonicalNicknameKey u admittedNickname ≠ canonicalNicknameKey u identity.nickname then
    .error (.request (.profileSubjectMismatch admittedNickname identity.nickname))
  else if w.myroom.hasPendingProfileWrite identity.userNo then
    .error (.request (.alreadyPending identity.userNo))
  else .ok ()

/-- The authorization of a registration. -/
def authorizeProfileWrite (w : ServerWorld u) (session : SessionId) :
    Except RegistrationError IdentityBinding :=
  if w.quiescing then .error (.request .worldQuiescing)
  else (w.authorizeSessionOperation env.world session).mapError fun _ =>
    .request (.unauthenticatedSession session)

/-- The permit that a registration holds until its completion. -/
def reserveEcho (w : ServerWorld u) (session : SessionId) : Except RegistrationError Unit :=
  if (w.sessions.lookup session).any (·.accepts 0) then .ok ()
  else .error (.request (.outboundUnavailable session))

/-- `register_myroom_info_write`, up to what it checks and reserves. The checks of a write
come in the order of the source: the role before the pending writes. -/
def admitMyroomInfoWrite (w : ServerWorld u) (session : SessionId) (admittedNickname : Text)
    (proposed : MyRoomInfo) : Except RegistrationError PendingMyRoomInfoWrite :=
  match w.authorizeProfileWrite env session with
  | .error e => .error e
  | .ok identity =>
    if canonicalNicknameKey u admittedNickname ≠ canonicalNicknameKey u identity.nickname then
      .error (.request (.profileSubjectMismatch admittedNickname identity.nickname))
    else
      match w.myroom.hub.membershipIfMember identity with
      | .error e => .error (.myroom (.hub "owner-info registration" e))
      | .ok none => .error (.request (.notMember identity.userNo))
      | .ok (some membership) =>
        if membership.isPresentOwner identity.userNo = false then
          .error (.request (.notPresentOwner identity.userNo))
        else
          match w.admitProfileWrite identity admittedNickname with
          | .error e => .error e
          | .ok () =>
            match hvalid : validateMyroomInfo proposed with
            | .error e => .error (.request (.invalidProposal e))
            | .ok () =>
              match env.wire.serialize (.myroom (.myroomInfo proposed)) with
              | .error e => .error (.request (.protocol e))
              | .ok packet =>
                (w.reserveEcho session).map fun () =>
                  ⟨identity, proposed, (session, [packet]), hvalid⟩

/-- `register_myroom_info_write`. -/
def registerMyroomInfoWrite (w : ServerWorld u) (session : SessionId) (admittedNickname : Text)
    (proposed : MyRoomInfo) : Except RegistrationError MyRoomProfileTicketId × ServerWorld u :=
  match w.admitMyroomInfoWrite env session admittedNickname proposed with
  | .error e => (.error e, w)
  | .ok pending =>
    match w.myroom.nextTicket with
    | none => (.error .ticketIdExhausted, w)
    | some ticket =>
      (.ok ticket, { w.transport session .permitTaken with
        myroom := { w.myroom with
          nextTicket := ticket.successor
          infoWrites := w.myroom.infoWrites.submit (·.expected.userNo) ticket pending } })

/-- `register_rider_equipment_write`. -/
def registerRiderEquipment (w : ServerWorld u) (session : SessionId) (admittedNickname : Text)
    (selection : RiderItemSelection) :
    Except RegistrationError MyRoomProfileTicketId × ServerWorld u :=
  match w.authorizeProfileWrite env session with
  | .error e => (.error e, w)
  | .ok identity =>
    match w.admitProfileWrite identity admittedNickname, w.myroom.nextTicket with
    | .error e, _ => (.error e, w)
    | .ok (), none => (.error .ticketIdExhausted, w)
    | .ok (), some ticket =>
      (.ok ticket, { w with
        pendingRiderEquipmentWrites := w.pendingRiderEquipmentWrites ++ [⟨identity, false⟩]
        myroom := { w.myroom with
          nextTicket := ticket.successor
          equipmentWrites := w.myroom.equipmentWrites.submit (·.expected.userNo) ticket
            ⟨identity, selection⟩ } })

/-- `prepare_main_emblem_write`. -/
def prepareMainEmblemWrite (w : ServerWorld u) (session : SessionId) :
    Except WorldOperationError (Option MyRoomPresentOwnerPlan) :=
  if w.quiescing then .ok none
  else
    match w.authorizeSessionOperation env.world session with
    | .error e => .error (.command (.identity e))
    | .ok expected =>
      if w.myroom.hasPendingProfileWrite expected.userNo then .ok none
      else
        (myroomHubError "main-emblem owner preflight"
          (w.myroom.hub.presentOwnerPlan expected)).mapError .myroom

/-- What `register_main_emblem_write` checks and reserves. -/
def admitMainEmblemWrite (w : ServerWorld u) (session : SessionId) (plan : MyRoomPresentOwnerPlan)
    (admittedNickname : Text) (requested : Nat × Nat × Nat) :
    Except RegistrationError PendingMainEmblemWrite :=
  match w.authorizeProfileWrite env session with
  | .error e => .error e
  | .ok identity =>
    if identity ≠ plan.owner then .error (.request (.notPresentOwner identity.userNo))
    else
      match w.myroom.hub.revalidatePresentOwnerPlan identity plan with
      | .error e =>
        if e.isWirePlanStale then .error (.request (.notPresentOwner identity.userNo))
        else .error (.myroom (.hub "main-emblem owner-plan revalidation" e))
      | .ok () =>
        match w.admitProfileWrite identity admittedNickname with
        | .error e => .error e
        | .ok () =>
          (w.reserveEcho session).map fun () =>
            ⟨identity, requested, (session, [.myroom (.updateMainEmblemReply true)])⟩

/-- `register_main_emblem_write`. -/
def registerMainEmblemWrite (w : ServerWorld u) (session : SessionId)
    (plan : MyRoomPresentOwnerPlan) (admittedNickname : Text) (requested : Nat × Nat × Nat) :
    Except RegistrationError MyRoomProfileTicketId × ServerWorld u :=
  match w.admitMainEmblemWrite env session plan admittedNickname requested with
  | .error e => (.error e, w)
  | .ok pending =>
    match w.myroom.nextTicket with
    | none => (.error .ticketIdExhausted, w)
    | some ticket =>
      (.ok ticket, { w.transport session .permitTaken with
        myroom := { w.myroom with
          nextTicket := ticket.successor
          emblemWrites := w.myroom.emblemWrites.submit (·.expected.userNo) ticket pending } })

/-! ## Completions -/

/-- The state of the identity that a write was registered for. -/
def completionIdentityState (w : ServerWorld u) (expected : IdentityBinding) :
    MyRoomCompletionIdentityState :=
  match w.activeIdentity expected.userNo with
  | some active => if active = expected then .active else .superseded
  | none =>
    if w.identities.registry.isCurrentOwnerlessBinding expected then .ownerless else .released

/-- The hub part of `publish_durable_myroom_info`; `success` is published with the echo
where the owner is there to hear it. -/
def updateOwnerInfo (w : ServerWorld u) (expected : IdentityBinding) (persisted : MyRoomInfo)
    (operation : String) (success : MyRoomInfoPublication)
    (settle : ServerWorld u → ServerWorld u) (echo : OutboundDelivery) :
    Except PublicationError MyRoomInfoPublication × ServerWorld u :=
  match w.myroom.transition (w.myroom.hub.updateOwnerInfo_planned expected persisted) with
  | .error (.notMember _) => (.ok .persistedAfterRoleChange, w.dropReserved echo)
  | .error (.notPresentOwner _) => (.ok .persistedAfterRoleChange, w.dropReserved echo)
  | .error e => (.error (.hub (.hub operation e)), w)
  | .ok (_, next) => (.ok success, settle { w with myroom := next })

/-- `publish_durable_myroom_info`. -/
def publishDurableMyroomInfo (w : ServerWorld u) (expected : IdentityBinding)
    (persisted : MyRoomInfo) (echo : OutboundDelivery) :
    Except PublicationError MyRoomInfoPublication × ServerWorld u :=
  match w.completionIdentityState expected with
  | .active => w.updateOwnerInfo expected persisted "active owner-info completion"
      .activeOwnerEchoed (·.sendReserved echo) echo
  | .ownerless => w.updateOwnerInfo expected persisted "ownerless owner-info completion"
      .ownerlessGenerationUpdated (·.dropReserved echo) echo
  | .superseded => (.ok .persistedAfterSupersession, w.dropReserved echo)
  | .released => (.ok .persistedAfterRelease, w.dropReserved echo)

/-- `handle_myroom_profile_completion` of a write that was taken: `none` where the write
was not persisted. -/
def finishMyroomInfoWrite (w : ServerWorld u) (pending : PendingMyRoomInfoWrite) :
    ProfileCompletion MyRoomInfo →
      Except CompletionError (Option MyRoomInfoPublication) × ServerWorld u
  | .abortedBeforeSubmission => (.ok none, w.dropReserved pending.echo)
  | .acceptedOutcomeLost => (.error .acceptedOutcomeLost, w)
  | .finished result =>
    match result.outcome u pending.expected with
    | .error e => (.error e, w)
    | .ok none => (.ok none, w.dropReserved pending.echo)
    | .ok (some durable) =>
      if durable ≠ pending.proposed then (.error .durableValueMismatch, w)
      else
        let (result, w) := w.publishDurableMyroomInfo pending.expected durable pending.echo
        ((result.map some).mapError .publication, w)

/-- `handle_myroom_profile_completion`. -/
def completeMyroomInfoWrite (w : ServerWorld u) (ticket : MyRoomProfileTicketId)
    (completion : ProfileCompletion MyRoomInfo) :
    Except CompletionError (Option MyRoomInfoPublication) × ServerWorld u :=
  let (taken, writes) := w.myroom.infoWrites.take (·.expected.userNo) ticket
  let w := { w with myroom := { w.myroom with infoWrites := writes } }
  match taken with
  | .error e => (.error (.ticket e), w)
  | .ok pending => w.finishMyroomInfoWrite pending completion

/-- The completion of an equipment write as the world's own table sees it. -/
def riderEquipmentCompletion (pending : RequestedRiderEquipment) :
    ProfileCompletion DurableRiderEquipment →
      Except CompletionError (RiderEquipmentCompletion MyRoomProfileLease)
  | .abortedBeforeSubmission => .ok .abortedBeforeSubmission
  | .acceptedOutcomeLost => .error .acceptedOutcomeLost
  | .finished result =>
    match result.outcome u pending.expected with
    | .error e => .error e
    | .ok none => .ok .rejected
    | .ok (some durable) =>
      if durable.selection ≠ pending.requested ∨
          durable.snapshot.toList ≠ durable.profile.presentation.riderItemSnapshot then
        .error .durableValueMismatch
      else .ok (.finished durable.snapshot durable.profile)

/-- `handle_rider_equipment_profile_completion`. -/
def completeRiderEquipmentWrite (w : ServerWorld u) (ticket : MyRoomProfileTicketId)
    (completion : ProfileCompletion DurableRiderEquipment) (now : Instant) :
    Except CompletionError Unit × ServerWorld u :=
  let (taken, writes) := w.myroom.equipmentWrites.take (·.expected.userNo) ticket
  let w := { w with myroom := { w.myroom with equipmentWrites := writes } }
  match taken with
  | .error e => (.error (.ticket e), w)
  | .ok requested =>
    match riderEquipmentCompletion (u := u) requested completion with
    | .error e => (.error e, w)
    | .ok completion =>
      let k := w.pendingRiderEquipmentWrites.findIdx (·.expected.userNo = requested.expected.userNo)
      let pending := (w.pendingRiderEquipmentWrites[k]?).getD ⟨requested.expected, false⟩
      let (result, w) := w.finishRiderEquipmentWrite env.world k pending completion now
      (result.mapError .publication, w)

/-- `publish_durable_main_emblems`, which drops the permit where it does not send. -/
def publishMainEmblems (w : ServerWorld u) (expected : IdentityBinding)
    (emblems : Nat × Nat × Nat) (acknowledgement : OutboundDelivery) :
    Except PublicationError Publication × ServerWorld u :=
  match w.publishDurableMainEmblems env.world expected emblems acknowledgement with
  | (.error e, w) => (.error e, w)
  | (.ok .activeCachesUpdated, w) => (.ok .activeCachesUpdated, w)
  | (.ok publication, w) => (.ok publication, w.dropReserved acknowledgement)

/-- `handle_main_emblem_profile_completion` of a write that was taken. -/
def finishMainEmblemWrite (w : ServerWorld u) (pending : PendingMainEmblemWrite) :
    ProfileCompletion (Nat × Nat × Nat) →
      Except CompletionError (Option Publication) × ServerWorld u
  | .abortedBeforeSubmission => (.ok none, w.dropReserved pending.acknowledgement)
  | .acceptedOutcomeLost => (.error .acceptedOutcomeLost, w)
  | .finished result =>
    match result.outcome u pending.expected with
    | .error e => (.error e, w)
    | .ok none => (.ok none, w.dropReserved pending.acknowledgement)
    | .ok (some durable) =>
      if durable ≠ pending.requested then (.error .durableValueMismatch, w)
      else
        let (result, w) :=
          w.publishMainEmblems env pending.expected durable pending.acknowledgement
        ((result.map some).mapError .publication, w)

/-- `handle_main_emblem_profile_completion`. -/
def completeMainEmblemWrite (w : ServerWorld u) (ticket : MyRoomProfileTicketId)
    (completion : ProfileCompletion (Nat × Nat × Nat)) :
    Except CompletionError (Option Publication) × ServerWorld u :=
  let (taken, writes) := w.myroom.emblemWrites.take (·.expected.userNo) ticket
  let w := { w with myroom := { w.myroom with emblemWrites := writes } }
  match taken with
  | .error e => (.error (.ticket e), w)
  | .ok pending => w.finishMainEmblemWrite env pending completion

end World

end P4475
