import P4475.Nickname
import P4475.Lib.FinmapExt

/-!
# Identity data

The records of `p4475-server/src/identity.rs`. Integers are `Nat` with the
width checked where the source checks it; the two numbers whose constructor
rejects a value (`UserNo`, `MigrationToken`) carry that check as fields, so an
invalid one cannot be built. An `Arc<IdentityOperationGate>` is a `GateRef`, the
name of one allocation: `Arc::ptr_eq` is equality of names.
-/

namespace P4475

/-- `Instant` and `Duration`, in nanoseconds since an arbitrary origin. -/
abbrev Instant := Nat

/-- `MIGRATION_TTL`: fifteen seconds. -/
def migrationTtl : Nat := 15 * 10 ^ 9

/-- `u64::MAX`, which is also `usize::MAX` on the supported hosts. -/
def u64Max : Nat := 2 ^ 64 - 1

/-- `u32::MAX`. -/
def u32Max : Nat := 2 ^ 32 - 1

structure SessionId where
  get : Nat
  deriving DecidableEq

inductive IpAddr
  | v4 (address : BitVec 32)
  | v6 (address : BitVec 128)
  deriving DecidableEq

structure UserNo where
  get : Nat
  pos : 0 < get
  bounded : get ≤ u32Max
  deriving DecidableEq

theorem UserNo.ext {a b : UserNo} (h : a.get = b.get) : a = b := by
  cases a; cases b; cases h; rfl

/-- `UserNo::new`. -/
def UserNo.new (value : Nat) : Option UserNo :=
  if h : 0 < value ∧ value ≤ u32Max then some ⟨value, h.1, h.2⟩ else none

structure IdentityGeneration where
  get : Nat
  deriving DecidableEq

theorem IdentityGeneration.ext {a b : IdentityGeneration} (h : a.get = b.get) : a = b := by
  cases a; cases b; cases h; rfl

/-- `IdentityGeneration::OFFLINE_MYROOM`. -/
def IdentityGeneration.offlineMyroom : IdentityGeneration := ⟨0⟩

structure MigrationToken where
  get : Nat
  pos : 0 < get
  bounded : get < 2 ^ 16
  deriving DecidableEq

structure ChannelBinding where
  channelId : Nat
  gameType : Nat
  deriving DecidableEq

structure IdentityBinding where
  nickname : Text
  userNo : UserNo
  generation : IdentityGeneration
  owner : SessionId
  sourceIp : IpAddr
  channel : Option ChannelBinding
  deriving DecidableEq

structure MigrationPermit where
  userNo : UserNo
  sourceGeneration : IdentityGeneration
  sourceSession : SessionId
  sourceIp : IpAddr
  channel : ChannelBinding
  token : MigrationToken
  expiresAt : Instant
  deriving DecidableEq

structure MigrationTransferId where
  get : Nat
  deriving DecidableEq

/-- The name of one shared gate allocation. -/
abbrev GateRef := Nat

/-- One admitted operation: the gate it counts against and the binding it was
admitted under. -/
structure IdentityOperationLease where
  gate : GateRef
  binding : IdentityBinding
  deriving DecidableEq

inductive MigrationSourceState
  | connected (session : SessionId)
  | disconnected
  deriving DecidableEq

namespace MigrationSourceState

/-- `from_owner`. -/
def fromOwner : Option SessionId → MigrationSourceState
  | some owner => .connected owner
  | none => .disconnected

/-- `permits_current`. -/
def permitsCurrent (state : MigrationSourceState) (currentOwner : Option SessionId)
    (permitSource : SessionId) : Bool :=
  match state, currentOwner with
  | .connected expected, some current => expected = permitSource ∧ current = expected
  | .connected expected, none => expected = permitSource
  | .disconnected, none => true
  | .disconnected, some _ => false

end MigrationSourceState

structure MigrationPreflight where
  transferId : MigrationTransferId
  destinationSession : SessionId
  destinationIp : IpAddr
  userNo : UserNo
  channelId : Nat
  channel : ChannelBinding
  token : MigrationToken
  sourceGeneration : IdentityGeneration
  sourceState : MigrationSourceState
  sourceSession : SessionId
  expiresAt : Instant
  nickname : Text
  canonicalNickname : Text
  drainGate : GateRef
  deriving DecidableEq

structure ReleasedIdentity where
  nickname : Text
  userNo : UserNo
  generation : IdentityGeneration
  sourceIp : IpAddr
  channel : Option ChannelBinding
  deriving DecidableEq

structure MigrationCompletion where
  binding : IdentityBinding
  previousBinding : IdentityBinding
  previousIdentity : ReleasedIdentity
  previousOwner : Option SessionId
  deriving DecidableEq

structure MigrationCandidate where
  canonicalNickname : Text
  operationGate : GateRef
  nextOperationGate : GateRef
  completion : MigrationCompletion
  deriving DecidableEq

inductive DisconnectOutcome
  | unauthenticated
  | stale (binding : IdentityBinding)
  | deferred (identity : IdentityBinding) (permit : MigrationPermit)
  | draining (identity : ReleasedIdentity)
  | released (identity : ReleasedIdentity)
  deriving DecidableEq

inductive IdentityError
  | emptyNickname
  | invalidNickname (error : NicknameError)
  | sessionAlreadyAuthenticated (session : SessionId) (nickname : Text)
  | duplicateIdentity (nickname : Text)
  | unauthenticatedSession (session : SessionId)
  | staleSession (session : SessionId)
  | unknownUserNo (userNo : Nat)
  | noMigrationPermit (nickname : Text)
  | migrationExpired
  | channelMismatch (expected received : Nat)
  | tokenMismatch
  | sourceIpMismatch (expected received : IpAddr)
  | staleMigrationGeneration
  | staleMigrationPreflight
  | transferInProgress (nickname : Text)
  | operationAdmissionClosed
  | operationGenerationRetired
  | operationCountExhausted
  | migrationOperationsActive
  | udpIngressPredatesGeneration
  | identityOwnerUnavailable (userNo : Nat)
  | userNoExhausted
  | generationExhausted
  | sessionIndexCapacityUnavailable
  | migrationTransferIdExhausted
  | migrationDeadlineOverflow
  /-- Not a Rust value: an `expect` of the source that did not hold. -/
  | panicked (message : String)
  deriving DecidableEq

structure KnownIdentity where
  nickname : Text
  userNo : UserNo
  deriving DecidableEq

structure ActiveIdentity where
  known : KnownIdentity
  generation : IdentityGeneration
  owner : Option SessionId
  ownerIp : IpAddr
  channel : Option ChannelBinding
  permit : Option MigrationPermit
  transferInProgress : Option MigrationTransferId
  operationGate : GateRef
  deriving DecidableEq

structure DeferredRelease where
  canonicalNickname : Text
  identity : ReleasedIdentity
  operationGate : GateRef
  deriving DecidableEq

/-- `released_identity`. -/
def releasedIdentity (active : ActiveIdentity) : ReleasedIdentity where
  nickname := active.known.nickname
  userNo := active.known.userNo
  generation := active.generation
  sourceIp := active.ownerIp
  channel := active.channel

/-- `identity_binding`. -/
def identityBinding (active : ActiveIdentity) (owner : SessionId) : IdentityBinding where
  nickname := active.known.nickname
  userNo := active.known.userNo
  generation := active.generation
  owner := owner
  sourceIp := active.ownerIp
  channel := active.channel

/-- `active_identity_binding`. -/
def activeIdentityBinding (active : ActiveIdentity) : Option IdentityBinding :=
  active.owner.map (identityBinding active)

@[simp] theorem releasedIdentity_generation (active : ActiveIdentity) :
    (releasedIdentity active).generation = active.generation := rfl

@[simp] theorem identityBinding_owner (active : ActiveIdentity) (owner : SessionId) :
    (identityBinding active owner).owner = owner := rfl

@[simp] theorem identityBinding_generation (active : ActiveIdentity) (owner : SessionId) :
    (identityBinding active owner).generation = active.generation := rfl

@[simp] theorem identityBinding_nickname (active : ActiveIdentity) (owner : SessionId) :
    (identityBinding active owner).nickname = active.known.nickname := rfl

end P4475
