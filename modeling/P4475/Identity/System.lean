import P4475.Identity.Registry
import P4475.Lib.Machine

/-!
# Runs of the registry

The actor's registry together with what its callers hold: leases, preflight
tickets, prepared candidates and at most one commit guard. A guard borrows the
registry exclusively, so while it lives only leases move; tickets and
candidates may be dropped at any time without telling the registry.

An action fixes everything the environment decides (sessions, clock readings,
whether the session index can grow, the walk order of a hash table), and the
response is the value the source's method returns.
-/

namespace P4475

open Lib

structure IdentitySystem where
  registry : IdentityRegistry
  leases : List IdentityOperationLease
  preflights : List MigrationPreflight
  candidates : List MigrationCandidate
  guard : Option IdentityRegistry.IdentityMigrationCommit

inductive IdentityAction
  | claim (session : SessionId) (sourceIp : IpAddr) (nickname : Text) (udpEpoch : Nat)
  | ensureKnown (nickname : Text)
  | offlineMyroom (nickname : Text)
  | admitOperation (session : SessionId)
  | admitUdp (userNo : UserNo) (arrivalEpoch : Nat)
  | retain (lease : Nat)
  | dropLease (lease : Nat)
  | beginMigration (session : SessionId) (channel : ChannelBinding) (token : MigrationToken)
      (now : Instant)
  | preflight (session : SessionId) (ip : IpAddr) (userNo : UserNo) (channelId : Nat)
      (token : MigrationToken) (now : Instant)
  | prepare (preflight : Nat) (now : Instant) (reserve : Bool)
  | lock (preflight candidate : Nat) (now : Instant)
  | commit (udpEpoch : Nat)
  | dropGuard
  | abort (preflight : Nat)
  | dropPreflight (preflight : Nat)
  | dropCandidate (candidate : Nat)
  | completePreflighted (preflight : Nat) (now : Instant) (udpEpoch : Nat) (reserve : Bool)
  | complete (session : SessionId) (ip : IpAddr) (userNo : UserNo) (channelId : Nat)
      (token : MigrationToken) (now : Instant) (reserve : Bool)
  | disconnect (session : SessionId) (now : Instant)
  | expire (visit : List Text) (now : Instant)
  | collect
  | drain (visit : List Text)

inductive IdentityResponse
  | binding (result : Except IdentityError IdentityBinding)
  | userNo (result : Except IdentityError UserNo)
  | lease (result : Except IdentityError IdentityOperationLease)
  | permit (result : Except IdentityError MigrationPermit)
  | preflight (result : Except IdentityError MigrationPreflight)
  | candidate (result : Except IdentityError MigrationCandidate)
  | locked (result : Except IdentityError Unit)
  | completion (result : Except IdentityError MigrationCompletion)
  | aborted (result : Bool)
  | disconnected (outcome : DisconnectOutcome)
  | released (identities : List ReleasedIdentity)
  | dropped

/-- A list that walks the active table: every key once. -/
def IdentityRegistry.Visits (r : IdentityRegistry) (visit : List Text) : Prop :=
  visit.Nodup ∧ visit.toFinset = r.activeByName.keys

instance (r : IdentityRegistry) (visit : List Text) : Decidable (r.Visits visit) :=
  inferInstanceAs (Decidable (_ ∧ _))

namespace IdentitySystem

/-- `IdentityRegistry::new` with nothing outstanding. -/
def initial : IdentitySystem := ⟨.new, [], [], [], none⟩

/-- Keep what a caller now holds. -/
def keep {ε β : Type} (held : List β) : Except ε β → List β
  | .ok b => held ++ [b]
  | .error _ => held

/-- Steps that other tasks take on the leases they hold. -/
def leaseStep (s : IdentitySystem) : IdentityAction → Option (IdentityResponse × IdentitySystem)
  | .retain i =>
    (s.leases[i]?).map fun lease =>
      let (result, r) := s.registry.retainLease lease
      (.lease result, { s with registry := r, leases := keep s.leases result })
  | .dropLease i =>
    (s.leases[i]?).map fun lease =>
      (.dropped, { s with registry := s.registry.dropLease lease, leases := s.leases.eraseIdx i })
  | _ => none

variable (u : Unicode) (instantMax : Instant)

/-- Steps of the actor, none of which runs while a guard borrows the registry. -/
def actorStep (s : IdentitySystem) : IdentityAction → Option (IdentityResponse × IdentitySystem)
  | .claim session ip nickname epoch =>
    let (result, r) := s.registry.claimAt u session ip nickname epoch
    some (.binding result, { s with registry := r })
  | .ensureKnown nickname =>
    let (result, r) := s.registry.ensureKnownUserNo u nickname
    some (.userNo result, { s with registry := r })
  | .offlineMyroom nickname =>
    let (result, r) := s.registry.offlineMyroomBinding u nickname
    some (.binding result, { s with registry := r })
  | .admitOperation session =>
    let (result, r) := s.registry.admitOperation u session
    some (.lease result, { s with registry := r, leases := keep s.leases result })
  | .admitUdp userNo epoch =>
    let (result, r) := s.registry.admitUdpOperation userNo epoch
    some (.lease result, { s with registry := r, leases := keep s.leases result })
  | .beginMigration session channel token now =>
    let (result, r) := s.registry.beginMigration u instantMax session channel token now
    some (.permit result, { s with registry := r })
  | .preflight session ip userNo channelId token now =>
    let (result, r) := s.registry.preflightMigration session ip userNo channelId token now
    some (.preflight result, { s with registry := r, preflights := keep s.preflights result })
  | .prepare i now reserve =>
    (s.preflights[i]?).map fun preflight =>
      let (result, r) := s.registry.preparePreflightedMigration preflight now reserve
      (.candidate result, { s with registry := r, candidates := keep s.candidates result })
  | .lock i j now =>
    (s.preflights[i]?).bind fun preflight =>
      (s.candidates[j]?).map fun candidate =>
        let (result, r) := s.registry.lockPreparedMigration preflight candidate now
        (.locked (result.map fun _ => ()), { s with
          registry := r
          preflights := s.preflights.eraseIdx i
          candidates := s.candidates.eraseIdx j
          guard := result.toOption })
  | .abort i =>
    (s.preflights[i]?).map fun preflight =>
      let (result, r) := s.registry.abortPreflightedMigration preflight
      (.aborted result, { s with registry := r })
  | .dropPreflight i =>
    (s.preflights[i]?).map fun _ =>
      (.dropped, { s with preflights := s.preflights.eraseIdx i })
  | .dropCandidate j =>
    (s.candidates[j]?).map fun _ =>
      (.dropped, { s with candidates := s.candidates.eraseIdx j })
  | .completePreflighted i now epoch reserve =>
    (s.preflights[i]?).map fun preflight =>
      let (result, r) :=
        s.registry.completePreflightedMigrationAtUdpEpoch preflight now epoch reserve
      (.completion result, { s with registry := r, preflights := s.preflights.eraseIdx i })
  | .complete session ip userNo channelId token now reserve =>
    let (result, r) := s.registry.completeMigration session ip userNo channelId token now reserve
    some (.completion result, { s with registry := r })
  | .disconnect session now =>
    let (outcome, r) := s.registry.disconnect u session now
    some (.disconnected outcome, { s with registry := r })
  | .expire visit now =>
    if s.registry.Visits visit then
      let (identities, r) := s.registry.expireMigrations visit now
      some (.released identities, { s with registry := r })
    else none
  | .collect =>
    let (identities, r) := s.registry.collectDrainedReleases
    some (.released identities, { s with registry := r })
  | .drain visit =>
    if s.registry.Visits visit then
      let (identities, r) := s.registry.drainActive visit
      some (.released identities, { s with registry := r })
    else none
  | _ => none

/-- Steps of the holder of a commit guard. -/
def guardStep (s : IdentitySystem) (commit : IdentityRegistry.IdentityMigrationCommit) :
    IdentityAction → Option (IdentityResponse × IdentitySystem)
  | .commit epoch =>
    let (result, r) := s.registry.commitMigration commit epoch
    some (.completion result, { s with registry := r, guard := none })
  | .dropGuard =>
    some (.dropped, { s with registry := s.registry.dropMigrationCommit commit, guard := none })
  | _ => none

/-- One step: a lease holder's, the guard holder's, or else the actor's. -/
def step (s : IdentitySystem) (a : IdentityAction) : Option (IdentityResponse × IdentitySystem) :=
  match s.leaseStep a with
  | some result => some result
  | none =>
    match s.guard with
    | some commit => s.guardStep commit a
    | none => s.actorStep u instantMax a

/-- The registry as a machine. -/
def machine : Machine IdentitySystem IdentityAction IdentityResponse where
  init := initial
  step := step u instantMax

end IdentitySystem

end P4475
