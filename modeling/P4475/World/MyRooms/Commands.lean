import P4475.World.MyRooms.Entry

/-!
# MyRoom commands

First state, secede, the item password, and the protected resources of an owner: a check
leaves a grant, a preparation takes the grant and mints a plan, and a publication spends
the plan, after what it was minted for has been looked up again.

A publication answers here whether the owner's resource went out; the source answers `()`
either way.
-/

namespace P4475

open Lib MyRoom

inductive MyRoomCommandPayload
  | firstState
  | secede
  deriving DecidableEq

structure MyRoomPreparedCommand (u : Unicode) where
  expected : IdentityBinding
  projection : Option (MyRoomWireProjection u)

structure MyRoomOwnerResourceResponsePlan where
  expected : IdentityBinding
  owner : MyRoomOwnerResourcePlan
  deriving DecidableEq

structure MyRoomOwnerItemsPlan where
  expected : IdentityBinding
  owner : Option MyRoomOwnerResourcePlan
  grant : Option MyRoomPasswordGrant
  deriving DecidableEq

/-- The owner's packets, with the subject of the profile lane they were loaded under. -/
structure MyRoomOwnerItemLoad where
  owner : IdentityBinding
  packets : List (List UInt8)
  subject : Text

/-- `owner_items_visible`. -/
def MyRoomOwnerItemsPlan.ownerItemsVisible (self : MyRoomOwnerItemsPlan) : Bool :=
  self.owner.any fun owner => owner.visible || self.grant.isSome

/-- The check of `MyRoomOwnerItemsPlan::complete`. -/
def MyRoomOwnerItemsPlan.complete (u : Unicode) (self : MyRoomOwnerItemsPlan)
    (loaded : Option MyRoomOwnerItemLoad) : Except WorldError Unit :=
  let mismatch : Except WorldError Unit :=
    .error (.myRoomOwnerItemPlanMismatch self.expected.owner)
  match self.owner, loaded with
  | none, none => .ok ()
  | some _, none => if self.ownerItemsVisible then mismatch else .ok ()
  | some plan, some loaded =>
    if self.ownerItemsVisible = false then mismatch
    else if loaded.owner ≠ plan.owner ∨
        canonicalNicknameKey u loaded.subject ≠ canonicalNicknameKey u plan.owner.nickname ∨
        loaded.packets = [] then mismatch
    else .ok ()
  | none, some _ => mismatch

namespace MyRooms

variable {u : Unicode} (self : MyRooms u)

/-- Remove the grant of a requester, if it is for this resource. -/
def takeGrant (userNo : UserNo) (resource : MyRoomProtectedResource) :
    Option MyRoomPasswordGrant × MyRooms u :=
  match self.passwordGrants.lookup userNo with
  | some grant =>
    if grant.resource = resource then (some grant, self.withoutGrant userNo) else (none, self)
  | none => (none, self)

/-- `present_owner_entry_input` of a plan's owner, as the question whether there is one. -/
def ownerIsPresent (operation : String) (plan : MyRoomOwnerResourcePlan) :
    Except MyRoomLifecycleError Bool :=
  (myroomHubError operation (self.hub.presentOwnerEntryInput plan.owner)).map (·.isSome)

/-- Whether a taken grant authorizes a plan that is not visible without it. -/
def authorizes (operation : String) (resource : MyRoomProtectedResource)
    (plan : MyRoomOwnerResourcePlan) (grant : Option MyRoomPasswordGrant) :
    Except MyRoomLifecycleError Bool :=
  if plan.visible = false ∧ grant.any (·.matchesResource resource plan) then
    self.ownerIsPresent operation plan
  else .ok false

/-- Put a grant into the table. -/
def withGrant (userNo : UserNo) (grant : MyRoomPasswordGrant) : MyRooms u :=
  { self with passwordGrants := self.passwordGrants.insert userNo grant }

/-- The answer of `myroom_check_password` about a protected feature, and whether it
grants. -/
def checkFeature (identity : IdentityBinding) (feature : MyRoomProtectedFeature)
    (password : Text) :
    Except MyRoomLifecycleError (CheckPasswordStatus × Option MyRoomPasswordGrant) :=
  match self.hub.ownerResourcePlanIfMember identity with
  | .error e => .error (.hub "item-password membership" e)
  | .ok none => .ok (.unsupported, none)
  | .ok (some plan) =>
    match self.hub.presentOwnerEntryInput plan.owner with
    | .error e => .error (.hub "item-password present owner" e)
    | .ok none => .ok (.unsupported, none)
    | .ok (some owner) =>
      if plan.visible then .ok (.success, none)
      else if password = [] then .ok (.passwordRequired, none)
      else if password = owner.info.itemPassword then
        .ok (.success, some (.forOwnerItemPlan feature plan))
      else .ok (.wrongPassword, none)

end MyRooms

namespace World

variable {u : Unicode} (env : ServerEnv u)

/-- `myroom_check_password`. -/
def myroomCheckPassword (w : ServerWorld u) (session : SessionId)
    (request : CheckPasswordRequest) :
    Except WorldOperationError CheckPasswordStatus × ServerWorld u :=
  match w.authorizeSessionOperation env.world session with
  | .error e => (.error (.command (.identity e)), w)
  | .ok identity =>
    let w := { w with myroom := w.myroom.withoutGrant identity.userNo }
    match request.protectedFeature with
    | none => (.ok .unsupported, w)
    | some feature =>
      match w.myroom.checkFeature identity feature request.password with
      | .error e => (.error (.myroom e), w)
      | .ok (status, none) => (.ok status, w)
      | .ok (status, some grant) =>
        (.ok status, { w with myroom := w.myroom.withGrant identity.userNo grant })

/-- `prepare_myroom_owner_items`. -/
def prepareMyroomOwnerItems (w : ServerWorld u) (session : SessionId) :
    Except WorldOperationError MyRoomOwnerItemsPlan × ServerWorld u :=
  match w.authorizeSessionOperation env.world session with
  | .error e => (.error (.command (.identity e)), w)
  | .ok expected =>
    match w.myroom.hub.ownerResourcePlanIfMember expected with
    | .error e => (.error (.myroom (.hub "owner-item plan query" e)), w)
    | .ok owner =>
      let (candidate, myroom) := w.myroom.takeGrant expected.userNo .ownerItems
      let w := { w with myroom := myroom }
      match owner with
      | none => (.ok ⟨expected, none, none⟩, w)
      | some plan =>
        match w.myroom.authorizes "owner-item grant present owner" .ownerItems plan candidate with
        | .error e => (.error (.myroom e), w)
        | .ok authorized => (.ok ⟨expected, some plan, candidate.filter fun _ => authorized⟩, w)

/-- `prepare_myroom_owner_resource`. -/
def prepareMyroomOwnerResource (w : ServerWorld u) (session : SessionId)
    (resource : MyRoomProtectedResource) :
    Except WorldOperationError (Option MyRoomOwnerResourceResponsePlan) × ServerWorld u :=
  match w.authorizeSessionOperation env.world session with
  | .error e => (.error (.command (.identity e)), w)
  | .ok expected =>
    match w.myroom.hub.ownerResourcePlanIfMember expected with
    | .error e => (.error (.myroom (.hub "owner-resource plan query" e)), w)
    | .ok none => (.ok none, w)
    | .ok (some owner) =>
      if owner.visible then (.ok (some ⟨expected, owner⟩), w)
      else
        let (candidate, myroom) := w.myroom.takeGrant expected.userNo resource
        let w := { w with myroom := myroom }
        match w.myroom.authorizes "owner-resource grant present owner" resource owner candidate with
        | .error e => (.error (.myroom e), w)
        | .ok true => (.ok (some ⟨expected, owner⟩), w)
        | .ok false => (.ok none, w)

/-- A batch for the requester of a command. -/
def answerPackets (w : ServerWorld u) (session : SessionId) (packets : List MyRoomPacket) :
    Except WorldOperationError Unit × ServerWorld u :=
  w.commitStage w.myroom none [(session, packets.map .myroom)] .myRoomCommandOutboundUnavailable

/-- The checks of `publish_myroom_owner_resource`. -/
def mayPublishOwnerResource (w : ServerWorld u) (identity : IdentityBinding)
    (prepared : MyRoomOwnerResourceResponsePlan) : Except MyRoomLifecycleError Bool :=
  if identity ≠ prepared.expected then .ok false
  else
    match w.myroom.hub.revalidateOwnerResourcePlan identity prepared.owner with
    | .error e =>
      if e.isWirePlanStale then .ok false
      else .error (.hub "owner-resource plan revalidation" e)
    | .ok () =>
      if prepared.owner.visible then .ok true
      else w.myroom.ownerIsPresent "owner-resource present owner revalidation" prepared.owner

/-- `publish_myroom_owner_resource`. -/
def publishMyroomOwnerResource (w : ServerWorld u) (session : SessionId)
    (prepared : MyRoomOwnerResourceResponsePlan) (packet : MyRoomPacket) :
    Except WorldOperationError Bool × ServerWorld u :=
  match w.authorizeSessionOperation env.world session with
  | .error e => (.error (.command (.identity e)), w)
  | .ok identity =>
    match w.mayPublishOwnerResource identity prepared with
    | .error e => (.error (.myroom e), w)
    | .ok false => (.ok false, w)
    | .ok true =>
      let (result, w) := w.answerPackets session [packet]
      (result.map fun _ => true, w)

/-- The checks of `publish_myroom_owner_items`. -/
def checkOwnerItems (w : ServerWorld u) (session : SessionId) (identity : IdentityBinding)
    (prepared : MyRoomOwnerItemsPlan) : Except WorldOperationError Unit :=
  let stale : Except WorldOperationError Unit := .error (.command (.myRoomWirePlanStale session))
  if identity ≠ prepared.expected then stale
  else
    match prepared.owner with
    | none =>
      match w.myroom.hub.ownerResourcePlanIfMember identity with
      | .error e => .error (.myroom (.hub "owner-item plan query" e))
      | .ok none => if prepared.grant.isSome then stale else .ok ()
      | .ok (some _) => stale
    | some plan =>
      match w.myroom.hub.revalidateOwnerResourcePlan identity plan with
      | .error e =>
        if e.isWirePlanStale then stale
        else .error (.myroom (.hub "owner-item plan revalidation" e))
      | .ok () =>
        if prepared.grant.isSome then
          match w.myroom.authorizes "owner-item grant revalidation" .ownerItems plan
              prepared.grant with
          | .error e => .error (.myroom e)
          | .ok true => .ok ()
          | .ok false => stale
        else .ok ()

/-- `complete` and `publish_myroom_owner_items`. -/
def publishMyroomOwnerItems (w : ServerWorld u) (session : SessionId)
    (prepared : MyRoomOwnerItemsPlan) (loaded : Option MyRoomOwnerItemLoad) :
    Except WorldOperationError Bool × ServerWorld u :=
  match prepared.complete u loaded with
  | .error e => (.error (.command e), w)
  | .ok () =>
    match w.authorizeSessionOperation env.world session with
    | .error e => (.error (.command (.identity e)), w)
    | .ok identity =>
      match w.checkOwnerItems session identity prepared with
      | .error e => (.error e, w)
      | .ok () =>
        let (result, w) := w.answerPackets session
          (loaded.elim [.missingOwnerItems] fun loaded => loaded.packets.map .prepared)
        (result.map fun _ => loaded.isSome, w)

/-! ## First state and secede -/

/-- The revalidation at the head of `myroom_command`. -/
def checkPreparedCommand (w : ServerWorld u) (session : SessionId) (identity : IdentityBinding)
    (prepared : MyRoomPreparedCommand u) : Except WorldOperationError Unit :=
  let stale : Except WorldOperationError Unit := .error (.command (.myRoomWirePlanStale session))
  if identity ≠ prepared.expected then stale
  else
    match prepared.projection with
    | none =>
      match w.myroom.hub.wirePlanIfMember identity with
      | .error e => .error (.myroom (.hub "live nonmember revalidation" e))
      | .ok none => .ok ()
      | .ok (some _) => stale
    | some projection =>
      match w.myroom.hub.revalidateWirePlan identity projection.plan with
      | .error e =>
        if e.isWirePlanStale then stale
        else .error (.myroom (.hub "live wire-plan revalidation" e))
      | .ok () => .ok ()

/-- The room that a secede leaves, as its projection shows it. -/
def secedeFanout (projection : MyRoomWireProjection u) :
    RoomEffect → Except MyRoomLifecycleError (List MyRoomFanout)
  | .updated publication =>
    ((projection.overlayPublication publication).mapError .wireProjection).map
      fun projected => [projected.fanout]
  | .deleted _ => .ok []

/-- The `Secede` arm of `myroom_command` of a member. -/
def secedeMember (w : ServerWorld u) (session : SessionId) (identity : IdentityBinding)
    (projection : MyRoomWireProjection u) : Except WorldOperationError Unit × ServerWorld u :=
  match w.myroom.transition (w.myroom.hub.leave_planned identity) with
  | .error e => (.error (.myroom (.hub "secede" e)), w)
  | .ok (effects, next) =>
    match secedeFanout projection effects.room with
    | .error e => (.error (.myroom e), w)
    | .ok fanout =>
      match w.myroomDeliveries fanout [] with
      | .error e => (.error (.myroom e), w)
      | .ok deliveries =>
        w.commitStage (next.withoutGrant identity.userNo) none
          (deliveries ++ [(session, [.myroom .secedeReply])]) .myRoomCommandOutboundUnavailable

/-- `myroom_command`. -/
def myroomCommand (w : ServerWorld u) (session : SessionId) (payload : MyRoomCommandPayload)
    (prepared : MyRoomPreparedCommand u) : Except WorldOperationError Unit × ServerWorld u :=
  match w.authorizeSessionOperation env.world session with
  | .error e => (.error (.command (.identity e)), w)
  | .ok identity =>
    match w.checkPreparedCommand session identity prepared with
    | .error e => (.error e, w)
    | .ok () =>
      match payload, prepared.projection with
      | .firstState, projection =>
        w.answerPackets session
          [.slotData (projection.elim emptySlots fun projection => projection.snapshot.slots)]
      | .secede, none =>
        w.commitStage (w.myroom.withoutGrant identity.userNo) none
          [(session, [.myroom .secedeReply])] .myRoomCommandOutboundUnavailable
      | .secede, some projection => w.secedeMember session identity projection

end World

end P4475
