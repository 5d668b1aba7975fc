import P4475.Identity.Gate

/-!
# The identity registry

`IdentityRegistry` and its operations. A method of the source that takes
`&mut self` returns its result together with the registry it leaves behind, on
the error paths too: an error after a number was allocated keeps the number.

The gates the registry shares with outstanding leases live in `gates`, indexed
by allocation. Where the source walks a hash table the walk's order is an
argument `visit`.
-/

namespace P4475

open Lib

structure IdentityRegistry where
  knownByName : Map Text KnownIdentity
  nameByUserNo : Map UserNo Text
  activeByName : Map Text ActiveIdentity
  sessionBindings : Map SessionId IdentityBinding
  deferredReleases : List DeferredRelease
  nextUserNo : Nat
  nextGeneration : Nat
  nextTransferId : Nat
  gates : GateRef → IdentityOperationGate
  nextGate : GateRef

namespace IdentityRegistry

/-- `IdentityRegistry::new`. -/
def new : IdentityRegistry where
  knownByName := ∅
  nameByUserNo := ∅
  activeByName := ∅
  sessionBindings := ∅
  deferredReleases := []
  nextUserNo := 1
  nextGeneration := 1
  nextTransferId := 1
  gates := fun _ => .shared 0
  nextGate := 0

/-! ## Field updates -/

def setActive (r : IdentityRegistry) (key : Text) (active : ActiveIdentity) : IdentityRegistry :=
  { r with activeByName := r.activeByName.insert key active }

def removeActive (r : IdentityRegistry) (key : Text) : IdentityRegistry :=
  { r with activeByName := r.activeByName.erase key }

def setGate (r : IdentityRegistry) (g : GateRef) (gate : IdentityOperationGate) :
    IdentityRegistry :=
  { r with gates := Function.update r.gates g gate }

/-- `IdentityOperationGate::shared`: allocate a gate. -/
def newGate (r : IdentityRegistry) (activatedUdpEpoch : Nat) : GateRef × IdentityRegistry :=
  (r.nextGate, { r with
    gates := Function.update r.gates r.nextGate (.shared activatedUdpEpoch)
    nextGate := r.nextGate + 1 })

/-- `deferred_releases.push`. -/
def pushDeferred (r : IdentityRegistry) (deferred : DeferredRelease) : IdentityRegistry :=
  { r with deferredReleases := r.deferredReleases ++ [deferred] }

/-! ## Number allocation -/

/-- `allocate_user_no`. -/
def allocateUserNo (r : IdentityRegistry) : Except IdentityError UserNo × IdentityRegistry :=
  if h : r.nextUserNo + 1 ≤ u32Max then
    if h0 : r.nextUserNo = 0 then
      (.error .userNoExhausted, { r with nextUserNo := r.nextUserNo + 1 })
    else
      (.ok ⟨r.nextUserNo, Nat.pos_of_ne_zero h0, Nat.le_of_succ_le h⟩,
        { r with nextUserNo := r.nextUserNo + 1 })
  else (.error .userNoExhausted, r)

/-- `allocate_generation`. -/
def allocateGeneration (r : IdentityRegistry) :
    Except IdentityError IdentityGeneration × IdentityRegistry :=
  if r.nextGeneration + 1 ≤ u64Max then
    (if r.nextGeneration = 0 then .error .generationExhausted else .ok ⟨r.nextGeneration⟩,
      { r with nextGeneration := r.nextGeneration + 1 })
  else (.error .generationExhausted, r)

/-- `allocate_transfer_id`. -/
def allocateTransferId (r : IdentityRegistry) :
    Except IdentityError MigrationTransferId × IdentityRegistry :=
  if r.nextTransferId + 1 ≤ u64Max then
    (if r.nextTransferId = 0 then .error .migrationTransferIdExhausted else .ok ⟨r.nextTransferId⟩,
      { r with nextTransferId := r.nextTransferId + 1 })
  else (.error .migrationTransferIdExhausted, r)

/-! ## Claiming -/

variable (u : Unicode)

/-- `known_user_no`. -/
def knownUserNo (r : IdentityRegistry) (nickname : Text) : Option UserNo :=
  (r.knownByName.lookup (canonicalNicknameKey u nickname)).map (·.userNo)

/-- `ensure_known_user_no`. -/
def ensureKnownUserNo (r : IdentityRegistry) (requestedNickname : Text) :
    Except IdentityError UserNo × IdentityRegistry :=
  match normalizeNickname u requestedNickname with
  | .error e => (.error (.invalidNickname e), r)
  | .ok nickname =>
    let key := canonicalNicknameKey u nickname
    match r.knownByName.lookup key with
    | some known => (.ok known.userNo, r)
    | none =>
      match r.allocateUserNo with
      | (.error e, r) => (.error e, r)
      | (.ok userNo, r) =>
        (.ok userNo, { r with
          knownByName := r.knownByName.insert key ⟨nickname, userNo⟩
          nameByUserNo := r.nameByUserNo.insert userNo key })

/-- `offline_myroom_binding`. -/
def offlineMyroomBinding (r : IdentityRegistry) (requestedNickname : Text) :
    Except IdentityError IdentityBinding × IdentityRegistry :=
  match normalizeNickname u requestedNickname with
  | .error e => (.error (.invalidNickname e), r)
  | .ok nickname =>
    let key := canonicalNicknameKey u nickname
    match r.ensureKnownUserNo u nickname with
    | (.error e, r) => (.error e, r)
    | (.ok userNo, r) =>
      match r.knownByName.lookup key with
      | none => (.error (.panicked
          "ensuring a known user number installs its nickname mapping"), r)
      | some known =>
        (.ok {
          nickname := known.nickname
          userNo := userNo
          generation := .offlineMyroom
          owner := ⟨0⟩
          sourceIp := .v4 0
          channel := none }, r)

/-- The part of `claim_at` after the nickname is known to be free: allocate a
generation and a gate, and install the record and its session binding. -/
def activateClaim (r : IdentityRegistry) (key : Text) (known : KnownIdentity)
    (session : SessionId) (sourceIp : IpAddr) (activatedUdpEpoch : Nat) :
    Except IdentityError IdentityBinding × IdentityRegistry :=
  match r.allocateGeneration with
  | (.error e, r) => (.error e, r)
  | (.ok generation, r) =>
    let (operationGate, r) := r.newGate activatedUdpEpoch
    let active : ActiveIdentity := {
      known := known
      generation := generation
      owner := some session
      ownerIp := sourceIp
      channel := none
      permit := none
      transferInProgress := none
      operationGate := operationGate }
    let binding := identityBinding active session
    (.ok binding, { r.setActive key active with
      sessionBindings := r.sessionBindings.insert session binding })

/-- `claim_at`. -/
def claimAt (r : IdentityRegistry) (session : SessionId) (sourceIp : IpAddr)
    (requestedNickname : Text) (activatedUdpEpoch : Nat) :
    Except IdentityError IdentityBinding × IdentityRegistry :=
  if trim requestedNickname = [] then (.error .emptyNickname, r)
  else
    match normalizeNickname u requestedNickname with
    | .error e => (.error (.invalidNickname e), r)
    | .ok nickname =>
      match r.sessionBindings.lookup session with
      | some binding => (.error (.sessionAlreadyAuthenticated session binding.nickname), r)
      | none =>
        let key := canonicalNicknameKey u nickname
        match r.activeByName.lookup key with
        | some active => (.error (.duplicateIdentity active.known.nickname), r)
        | none =>
          match r.deferredReleases.find? (·.canonicalNickname = key) with
          | some deferred => (.error (.duplicateIdentity deferred.identity.nickname), r)
          | none =>
            match r.ensureKnownUserNo u nickname with
            | (.error e, r) => (.error e, r)
            | (.ok _, r) =>
              match r.knownByName.lookup key with
              | none => (.error (.panicked
                  "ensuring a known user number installs its nickname mapping"), r)
              | some known => r.activateClaim key known session sourceIp activatedUdpEpoch

/-! ## Authorization and admission -/

/-- `authorize`. -/
def authorize (r : IdentityRegistry) (session : SessionId) :
    Except IdentityError IdentityBinding :=
  match r.sessionBindings.lookup session with
  | none => .error (.unauthenticatedSession session)
  | some binding =>
    match r.activeByName.lookup (canonicalNicknameKey u binding.nickname) with
    | none => .error (.staleSession session)
    | some active =>
      if active.owner ≠ some session ∨ active.generation ≠ binding.generation then
        .error (.staleSession session)
      else if active.transferInProgress.isSome then
        .error (.transferInProgress active.known.nickname)
      else .ok binding

/-- The tail of both admission paths: count the operation and issue a lease. -/
def issueLease (r : IdentityRegistry) (g : GateRef) (binding : IdentityBinding) :
    Except IdentityError IdentityOperationLease × IdentityRegistry :=
  match (r.gates g).tryAdmit with
  | .error e => (.error e, r)
  | .ok gate => (.ok ⟨g, binding⟩, r.setGate g gate)

/-- `admit_operation`. -/
def admitOperation (r : IdentityRegistry) (session : SessionId) :
    Except IdentityError IdentityOperationLease × IdentityRegistry :=
  match r.authorize u session with
  | .error e => (.error e, r)
  | .ok binding =>
    match r.activeByName.lookup (canonicalNicknameKey u binding.nickname) with
    | none => (.error (.staleSession session), r)
    | some active => r.issueLease active.operationGate binding

/-- `admit_udp_operation`. -/
def admitUdpOperation (r : IdentityRegistry) (userNo : UserNo) (arrivalEpoch : Nat) :
    Except IdentityError IdentityOperationLease × IdentityRegistry :=
  match r.nameByUserNo.lookup userNo with
  | none => (.error (.unknownUserNo userNo.get), r)
  | some key =>
    match r.activeByName.lookup key with
    | none => (.error (.identityOwnerUnavailable userNo.get), r)
    | some active =>
      match activeIdentityBinding active with
      | none => (.error (.identityOwnerUnavailable userNo.get), r)
      | some binding =>
        if active.transferInProgress.isSome then
          (.error (.transferInProgress active.known.nickname), r)
        else if arrivalEpoch ≤ (r.gates active.operationGate).activatedUdpEpoch then
          (.error .udpIngressPredatesGeneration, r)
        else r.issueLease active.operationGate binding

/-- `IdentityOperationLease::try_retain`. -/
def retainLease (r : IdentityRegistry) (lease : IdentityOperationLease) :
    Except IdentityError IdentityOperationLease × IdentityRegistry :=
  match (r.gates lease.gate).tryRetain with
  | .error e => (.error e, r)
  | .ok gate => (.ok lease, r.setGate lease.gate gate)

/-- `IdentityOperationLease::drop`. -/
def dropLease (r : IdentityRegistry) (lease : IdentityOperationLease) : IdentityRegistry :=
  r.setGate lease.gate (r.gates lease.gate).release

/-- `active_identity_by_user_no`. -/
def activeIdentityByUserNo (r : IdentityRegistry) (userNo : UserNo) : Option IdentityBinding :=
  match r.nameByUserNo.lookup userNo with
  | none => none
  | some key => (r.activeByName.lookup key).bind activeIdentityBinding

/-- `is_current_ownerless_binding`. -/
def isCurrentOwnerlessBinding (r : IdentityRegistry) (binding : IdentityBinding) : Bool :=
  match (r.nameByUserNo.lookup binding.userNo).bind r.activeByName.lookup with
  | none => false
  | some active =>
    active.permit.any fun permit =>
      active.owner = none ∧ identityBinding active permit.sourceSession = binding ∧
        permit.sourceGeneration = binding.generation

/-- `outstanding_operation_count`. -/
def outstandingOperationCount (r : IdentityRegistry) : Nat :=
  ((Map.values r.activeByName).map fun active =>
    (r.gates active.operationGate).activeOperations).sum +
  (r.deferredReleases.map fun deferred => (r.gates deferred.operationGate).activeOperations).sum

/-- `transfer_in_progress_count`. -/
def transferInProgressCount (r : IdentityRegistry) : Nat :=
  (Map.values r.activeByName).countP (·.transferInProgress.isSome)

/-- `retained_identity_count`. -/
def retainedIdentityCount (r : IdentityRegistry) : Nat :=
  r.activeByName.keys.card + r.deferredReleases.length

/-! ## Migration -/

/-- `begin_migration`; `instantMax` is the last instant the host clock can
represent. -/
def beginMigration (r : IdentityRegistry) (instantMax : Instant) (sourceSession : SessionId)
    (channel : ChannelBinding) (token : MigrationToken) (now : Instant) :
    Except IdentityError MigrationPermit × IdentityRegistry :=
  match r.authorize u sourceSession with
  | .error e => (.error e, r)
  | .ok source =>
    if instantMax < now + migrationTtl then (.error .migrationDeadlineOverflow, r)
    else
      let permit : MigrationPermit := {
        userNo := source.userNo
        sourceGeneration := source.generation
        sourceSession := sourceSession
        sourceIp := source.sourceIp
        channel := channel
        token := token
        expiresAt := now + migrationTtl }
      let key := canonicalNicknameKey u source.nickname
      match r.activeByName.lookup key with
      | none => (.error (.staleSession sourceSession), r)
      | some active => (.ok permit, r.setActive key { active with permit := some permit })

/-- `ValidatedMigration`. -/
structure ValidatedMigration where
  canonicalNickname : Text
  active : ActiveIdentity
  permit : MigrationPermit

/-- The nickname an error about an identity with no active record carries. The
source indexes `known_by_name[key]`, which `name_by_user_no` keeps present. -/
def knownNickname (r : IdentityRegistry) (key : Text) : Text :=
  ((r.knownByName.lookup key).map (·.nickname)).getD []

/-- `validate_migration`. -/
def validateMigration (r : IdentityRegistry) (destinationSession : SessionId)
    (destinationIp : IpAddr) (userNo : UserNo) (channelId : Nat) (token : MigrationToken)
    (now : Instant) : Except IdentityError ValidatedMigration :=
  match r.sessionBindings.lookup destinationSession with
  | some binding =>
    .error (.sessionAlreadyAuthenticated destinationSession binding.nickname)
  | none =>
    match r.nameByUserNo.lookup userNo with
    | none => .error (.unknownUserNo userNo.get)
    | some key =>
      match r.activeByName.lookup key with
      | none => .error (.noMigrationPermit (r.knownNickname key))
      | some active =>
        match active.permit with
        | none => .error (.noMigrationPermit active.known.nickname)
        | some permit =>
          if permit.expiresAt ≤ now then .error .migrationExpired
          else if permit.userNo ≠ userNo then .error (.unknownUserNo userNo.get)
          else if permit.channel.channelId ≠ channelId then
            .error (.channelMismatch permit.channel.channelId channelId)
          else if permit.token ≠ token then .error .tokenMismatch
          else if permit.sourceIp ≠ destinationIp then
            .error (.sourceIpMismatch permit.sourceIp destinationIp)
          else if permit.sourceGeneration ≠ active.generation
              ∨ active.owner.any (· ≠ permit.sourceSession) then
            .error .staleMigrationGeneration
          else .ok ⟨key, active, permit⟩

/-- `preflight_migration`. -/
def preflightMigration (r : IdentityRegistry) (destinationSession : SessionId)
    (destinationIp : IpAddr) (userNo : UserNo) (channelId : Nat) (token : MigrationToken)
    (now : Instant) : Except IdentityError MigrationPreflight × IdentityRegistry :=
  match r.validateMigration destinationSession destinationIp userNo channelId token now with
  | .error e => (.error e, r)
  | .ok validated =>
    if validated.active.transferInProgress.isSome then
      (.error (.transferInProgress validated.active.known.nickname), r)
    else
      match r.allocateTransferId with
      | (.error e, r) => (.error e, r)
      | (.ok transferId, r) =>
        let operationGate := validated.active.operationGate
        let preflight : MigrationPreflight := {
          transferId := transferId
          destinationSession := destinationSession
          destinationIp := destinationIp
          userNo := userNo
          channelId := channelId
          channel := validated.permit.channel
          token := token
          sourceGeneration := validated.permit.sourceGeneration
          sourceState := .fromOwner validated.active.owner
          sourceSession := validated.permit.sourceSession
          expiresAt := validated.permit.expiresAt
          nickname := validated.active.known.nickname
          canonicalNickname := validated.canonicalNickname
          drainGate := operationGate }
        match r.activeByName.lookup preflight.canonicalNickname with
        | none => (.error .staleMigrationPreflight, r)
        | some active =>
          if active.operationGate ≠ operationGate
              ∨ active.generation ≠ validated.permit.sourceGeneration then
            (.error .staleMigrationPreflight, r)
          else
            match (r.gates operationGate).freeze transferId with
            | (false, gate) => (.error .staleMigrationPreflight, r.setGate operationGate gate)
            | (true, gate) =>
              (.ok preflight, (r.setGate operationGate gate).setActive preflight.canonicalNickname
                { active with transferInProgress := some transferId })

/-- `validate_preflighted_migration`. -/
def validatePreflightedMigration (r : IdentityRegistry) (preflight : MigrationPreflight)
    (now : Instant) : Except IdentityError Unit :=
  match r.validateMigration preflight.destinationSession preflight.destinationIp
      preflight.userNo preflight.channelId preflight.token now with
  | .error e => .error e
  | .ok validated =>
    if validated.canonicalNickname ≠ preflight.canonicalNickname
        ∨ validated.active.known.nickname ≠ preflight.nickname
        ∨ preflight.sourceState.permitsCurrent validated.active.owner
            validated.permit.sourceSession = false
        ∨ validated.permit.channel ≠ preflight.channel
        ∨ validated.permit.sourceGeneration ≠ preflight.sourceGeneration
        ∨ validated.permit.sourceSession ≠ preflight.sourceSession
        ∨ validated.permit.expiresAt ≠ preflight.expiresAt
        ∨ validated.active.transferInProgress ≠ some preflight.transferId
        ∨ validated.active.operationGate ≠ preflight.drainGate
        ∨ (r.gates preflight.drainGate).isFrozenBy preflight.transferId = false then
      .error .staleMigrationPreflight
    else if (r.gates preflight.drainGate).isDrained = false then
      .error .migrationOperationsActive
    else if r.nextGeneration = 0 ∨ u64Max < r.nextGeneration + 1 then
      .error .generationExhausted
    else .ok ()

/-- The permit test of `abort_preflighted_migration`. -/
def exactPermit (permit : Option MigrationPermit) (preflight : MigrationPreflight) : Bool :=
  permit.any fun permit =>
    permit.userNo = preflight.userNo
      ∧ permit.sourceGeneration = preflight.sourceGeneration
      ∧ permit.sourceSession = preflight.sourceSession
      ∧ permit.channel = preflight.channel
      ∧ permit.token = preflight.token
      ∧ permit.expiresAt = preflight.expiresAt

/-- `abort_preflighted_migration`. -/
def abortPreflightedMigration (r : IdentityRegistry) (preflight : MigrationPreflight) :
    Bool × IdentityRegistry :=
  match r.activeByName.lookup preflight.canonicalNickname with
  | none => (false, r)
  | some active =>
    if active.generation ≠ preflight.sourceGeneration
        ∨ active.known.nickname ≠ preflight.nickname
        ∨ active.transferInProgress ≠ some preflight.transferId
        ∨ active.operationGate ≠ preflight.drainGate
        ∨ exactPermit active.permit preflight = false then
      (false, r)
    else
      match (r.gates active.operationGate).reopenExact preflight.transferId with
      | (false, gate) => (false, r.setGate active.operationGate gate)
      | (true, gate) =>
        (true, (r.setGate active.operationGate gate).setActive preflight.canonicalNickname
          { active with transferInProgress := none })

/-- The closure of `prepare_preflighted_migration`; `reserve` says whether the
session index could reserve one more entry. -/
def prepareCandidate (r : IdentityRegistry) (preflight : MigrationPreflight) (now : Instant)
    (reserve : Bool) : Except IdentityError MigrationCandidate × IdentityRegistry :=
  match r.validatePreflightedMigration preflight now with
  | .error e => (.error e, r)
  | .ok _ =>
    match r.validateMigration preflight.destinationSession preflight.destinationIp
        preflight.userNo preflight.channelId preflight.token now with
    | .error e => (.error e, r)
    | .ok validated =>
      match r.allocateGeneration with
      | (.error e, r) => (.error e, r)
      | (.ok generation, r) =>
        if reserve = false then (.error .sessionIndexCapacityUnavailable, r)
        else
          let binding : IdentityBinding := {
            nickname := validated.active.known.nickname
            userNo := validated.active.known.userNo
            generation := generation
            owner := preflight.destinationSession
            sourceIp := preflight.destinationIp
            channel := some validated.permit.channel }
          let (nextOperationGate, r) := r.newGate 0
          (.ok {
            canonicalNickname := validated.canonicalNickname
            operationGate := validated.active.operationGate
            nextOperationGate := nextOperationGate
            completion := {
              binding := binding
              previousBinding := identityBinding validated.active validated.permit.sourceSession
              previousIdentity := releasedIdentity validated.active
              previousOwner := validated.active.owner } }, r)

/-- `prepare_preflighted_migration`. -/
def preparePreflightedMigration (r : IdentityRegistry) (preflight : MigrationPreflight)
    (now : Instant) (reserve : Bool) :
    Except IdentityError MigrationCandidate × IdentityRegistry :=
  match r.prepareCandidate preflight now reserve with
  | (.ok candidate, r) => (.ok candidate, r)
  | (.error e, r) => (.error e, (r.abortPreflightedMigration preflight).2)

/-- `IdentityMigrationCommit`: the names behind the exclusive borrows that a
locked migration holds. -/
structure IdentityMigrationCommit where
  canonicalNickname : Text
  transferId : MigrationTransferId
  destinationSession : SessionId
  channel : ChannelBinding
  operationGate : GateRef
  nextOperationGate : GateRef
  completion : MigrationCompletion
  deriving DecidableEq

/-- `lock_prepared_migration`. -/
def lockPreparedMigration (r : IdentityRegistry) (preflight : MigrationPreflight)
    (candidate : MigrationCandidate) (now : Instant) :
    Except IdentityError IdentityMigrationCommit × IdentityRegistry :=
  match r.validatePreflightedMigration preflight now with
  | .error e => (.error e, (r.abortPreflightedMigration preflight).2)
  | .ok _ =>
    if candidate.canonicalNickname ≠ preflight.canonicalNickname
        ∨ candidate.completion.binding.owner ≠ preflight.destinationSession
        ∨ candidate.completion.binding.userNo ≠ preflight.userNo
        ∨ candidate.completion.binding.channel ≠ some preflight.channel
        ∨ candidate.completion.previousBinding.generation ≠ preflight.sourceGeneration
        ∨ candidate.operationGate ≠ preflight.drainGate then
      (.error .staleMigrationPreflight, (r.abortPreflightedMigration preflight).2)
    else
      match r.activeByName.lookup candidate.canonicalNickname with
      | none => (.error (.panicked
          "validated migration identity remains active while actor-owned"), r)
      | some _ =>
        (.ok {
          canonicalNickname := candidate.canonicalNickname
          transferId := preflight.transferId
          destinationSession := preflight.destinationSession
          channel := preflight.channel
          operationGate := candidate.operationGate
          nextOperationGate := candidate.nextOperationGate
          completion := candidate.completion }, r)

/-- `IdentityMigrationCommit::commit`. -/
def commitMigration (r : IdentityRegistry) (commit : IdentityMigrationCommit)
    (activatedUdpEpoch : Nat) : Except IdentityError MigrationCompletion × IdentityRegistry :=
  let r := r.setGate commit.nextOperationGate
    { r.gates commit.nextOperationGate with activatedUdpEpoch := activatedUdpEpoch }
  match (r.gates commit.operationGate).retireExact commit.transferId with
  | (false, gate) => (.error (.panicked
      "locked identity migration source must remain frozen and drained"),
      r.setGate commit.operationGate gate)
  | (true, gate) =>
    let r := r.setGate commit.operationGate gate
    match r.activeByName.lookup commit.canonicalNickname with
    | none => (.error (.panicked "the commit guard borrows an active identity"), r)
    | some active =>
      let completion := commit.completion
      (.ok completion, { r.setActive commit.canonicalNickname { active with
          generation := completion.binding.generation
          owner := some commit.destinationSession
          ownerIp := completion.binding.sourceIp
          channel := some commit.channel
          permit := none
          transferInProgress := none
          operationGate := commit.nextOperationGate } with
        sessionBindings := r.sessionBindings.insert commit.destinationSession
          completion.binding })

/-- `IdentityMigrationCommit::drop` before a commit. -/
def dropMigrationCommit (r : IdentityRegistry) (commit : IdentityMigrationCommit) :
    IdentityRegistry :=
  match r.activeByName.lookup commit.canonicalNickname with
  | none => r
  | some active =>
    if active.transferInProgress = some commit.transferId
        ∧ active.operationGate = commit.operationGate then
      (r.setActive commit.canonicalNickname { active with transferInProgress := none }).setGate
        commit.operationGate ((r.gates commit.operationGate).reopenExact commit.transferId).2
    else r

/-- `complete_preflighted_migration_at_udp_epoch`. -/
def completePreflightedMigrationAtUdpEpoch (r : IdentityRegistry)
    (preflight : MigrationPreflight) (now : Instant) (activatedUdpEpoch : Nat)
    (reserve : Bool) : Except IdentityError MigrationCompletion × IdentityRegistry :=
  match r.preparePreflightedMigration preflight now reserve with
  | (.error e, r) => (.error e, r)
  | (.ok candidate, r) =>
    match r.lockPreparedMigration preflight candidate now with
    | (.error e, r) => (.error e, r)
    | (.ok commit, r) => r.commitMigration commit activatedUdpEpoch

/-- `complete_migration`. -/
def completeMigration (r : IdentityRegistry) (destinationSession : SessionId)
    (destinationIp : IpAddr) (userNo : UserNo) (channelId : Nat) (token : MigrationToken)
    (now : Instant) (reserve : Bool) :
    Except IdentityError MigrationCompletion × IdentityRegistry :=
  match r.preflightMigration destinationSession destinationIp userNo channelId token now with
  | (.error e, r) => (.error e, r)
  | (.ok preflight, r) => r.completePreflightedMigrationAtUdpEpoch preflight now 0 reserve

/-! ## Release -/

/-- The tail of `disconnect` and `expire_migrations` for a record just taken
out of `active_by_name`: retire its gate, or park the release. -/
def retireOrDefer (r : IdentityRegistry) (key : Text) (active : ActiveIdentity) :
    Bool × IdentityRegistry :=
  match (r.gates active.operationGate).retireDrained with
  | (true, gate) => (true, r.setGate active.operationGate gate)
  | (false, gate) =>
    (false, (r.setGate active.operationGate gate).pushDeferred
      ⟨key, releasedIdentity active, active.operationGate⟩)

/-- The reopening of a removed record's gate in `disconnect`. -/
def reopenRemoved (r : IdentityRegistry) (active : ActiveIdentity) : IdentityRegistry :=
  match active.transferInProgress with
  | none => r
  | some t => r.setGate active.operationGate ((r.gates active.operationGate).reopenExact t).2

/-- `disconnect`. -/
def disconnect (r : IdentityRegistry) (session : SessionId) (now : Instant) :
    DisconnectOutcome × IdentityRegistry :=
  match r.sessionBindings.lookup session with
  | none => (.unauthenticated, r)
  | some binding =>
    let r := { r with sessionBindings := r.sessionBindings.erase session }
    let key := canonicalNicknameKey u binding.nickname
    match r.activeByName.lookup key with
    | none => (.stale binding, r)
    | some active =>
      if active.owner ≠ some session ∨ active.generation ≠ binding.generation then
        (.stale binding, r)
      else
        match active.permit.filter (now < ·.expiresAt) with
        | some permit => (.deferred binding permit, r.setActive key { active with owner := none })
        | none =>
          match ((r.removeActive key).reopenRemoved active).retireOrDefer key active with
          | (true, r) => (.released (releasedIdentity active), r)
          | (false, r) => (.draining (releasedIdentity active), r)

/-- The first loop body of `expire_migrations`: clear a due permit and the
transfer it protects. -/
def expirePermit (r : IdentityRegistry) (now : Instant) (key : Text) : IdentityRegistry :=
  match r.activeByName.lookup key with
  | none => r
  | some active =>
    if active.permit.any (·.expiresAt ≤ now) then
      match active.transferInProgress with
      | none => r.setActive key { active with permit := none }
      | some t =>
        match (r.gates active.operationGate).reopenExact t with
        | (true, gate) => (r.setGate active.operationGate gate).setActive key
            { active with permit := none, transferInProgress := none }
        | (false, gate) => (r.setGate active.operationGate gate).setActive key
            { active with permit := none }
    else r

/-- The first loop of `expire_migrations` decides the same way whether a key is
to be released. -/
def expiresOwnerless (r : IdentityRegistry) (now : Instant) (key : Text) : Bool :=
  (r.activeByName.lookup key).any fun active =>
    active.permit.any (·.expiresAt ≤ now) && active.owner.isNone

/-- The second loop body of `expire_migrations`. -/
def releaseExpired (r : IdentityRegistry) (released : List ReleasedIdentity) (key : Text) :
    List ReleasedIdentity × IdentityRegistry :=
  match r.activeByName.lookup key with
  | none => (released, r)
  | some active =>
    match (r.removeActive key).retireOrDefer key active with
    | (true, r) => (released ++ [releasedIdentity active], r)
    | (false, r) => (released, r)

/-- `expire_migrations`; `visit` is the order in which the active table is
walked. -/
def expireMigrations (r : IdentityRegistry) (visit : List Text) (now : Instant) :
    List ReleasedIdentity × IdentityRegistry :=
  let releaseKeys := visit.filter (r.expiresOwnerless now)
  let r := visit.foldl (fun r key => r.expirePermit now key) r
  releaseKeys.foldl (fun acc key => acc.2.releaseExpired acc.1 key) ([], r)

/-- One iteration of `collect_drained_releases`. -/
def collectDeferred (acc : List ReleasedIdentity × IdentityRegistry)
    (deferred : DeferredRelease) : List ReleasedIdentity × IdentityRegistry :=
  match (acc.2.gates deferred.operationGate).retireDrained with
  | (true, gate) => (acc.1 ++ [deferred.identity], acc.2.setGate deferred.operationGate gate)
  | (false, gate) => (acc.1, (acc.2.setGate deferred.operationGate gate).pushDeferred deferred)

/-- `collect_drained_releases`, returned in user-number order. -/
def collectDrainedReleases (r : IdentityRegistry) :
    List ReleasedIdentity × IdentityRegistry :=
  let acc := r.deferredReleases.foldl collectDeferred ([], { r with deferredReleases := [] })
  (acc.1.mergeSort fun a b => a.userNo.get ≤ b.userNo.get, acc.2)

/-- One iteration of `drain_active`. -/
def drainKey (r : IdentityRegistry) (key : Text) : IdentityRegistry :=
  match r.activeByName.lookup key with
  | none => r
  | some active =>
    (r.removeActive key).pushDeferred ⟨key, releasedIdentity active, active.operationGate⟩

/-- `drain_active`; `visit` is the order in which the active table is drained. -/
def drainActive (r : IdentityRegistry) (visit : List Text) :
    List ReleasedIdentity × IdentityRegistry :=
  (visit.foldl drainKey { r with sessionBindings := ∅ }).collectDrainedReleases

end IdentityRegistry

end P4475
