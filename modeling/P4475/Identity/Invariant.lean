import P4475.Identity.System

/-!
# What holds of every registry

Three layers, each about fewer fields than the next: the stable directory of
nicknames and user numbers (`KnownInv`), each active record against the tables
and the gate it points to (`RecordOk`), and the generations and gates that are
in use across active records, deferred releases, leases and unpublished
candidates (`LiveInv`). `Live key g γ` is the shared vocabulary: some record,
active or draining, holds generation `g` and gate `γ` under `key`. Moving a
record from the active table to the deferred queue does not change `Live`, which
is why the release paths need no case analysis of their own below.
-/

namespace P4475

open Lib

namespace IdentityRegistry

/-- The directory: both maps are inverse and every number was allocated. -/
structure KnownInv (u : Unicode) (r : IdentityRegistry) : Prop where
  key : ∀ {k n}, r.knownByName.lookup k = some n → canonicalNicknameKey u n.nickname = k
  user : ∀ {k n}, r.knownByName.lookup k = some n → r.nameByUserNo.lookup n.userNo = some k
  name : ∀ {x k}, r.nameByUserNo.lookup x = some k →
    ∃ n, r.knownByName.lookup k = some n ∧ n.userNo = x
  bounded : ∀ {x k}, r.nameByUserNo.lookup x = some k → x.get < r.nextUserNo

/-- The permit of a record names that record's own generation, user, address
and (while connected) session. -/
structure PermitOk (active : ActiveIdentity) (permit : MigrationPermit) : Prop where
  userNo : permit.userNo = active.known.userNo
  generation : permit.sourceGeneration = active.generation
  sourceIp : permit.sourceIp = active.ownerIp
  session : ∀ s, active.owner = some s → permit.sourceSession = s

/-- The gate word that a record's transfer flag stands for. -/
def GateMatches (transfer : Option MigrationTransferId) (gate : IdentityOperationGate) : Prop :=
  match transfer with
  | none => gate.state = IdentityOperationGate.open_
  | some t => gate.FrozenBy t

/-- One active record. `expiring` marks a record whose permit an expiry sweep
has just cleared and which the same sweep is about to remove. -/
structure RecordOk (r : IdentityRegistry) (expiring : Prop) (key : Text)
    (active : ActiveIdentity) : Prop where
  known : r.knownByName.lookup key = some active.known
  bound : ∀ s, active.owner = some s →
    r.sessionBindings.lookup s = some (identityBinding active s)
  permit : ∀ p, active.permit = some p → PermitOk active p
  ownerless : active.owner = none → active.permit.isSome ∨ expiring
  transfer : active.transferInProgress.isSome → active.permit.isSome
  gate : GateMatches active.transferInProgress (r.gates active.operationGate)

/-- Every active record is sound, up to the keys an expiry sweep is removing. -/
def RecordInv (expiring : List Text) (r : IdentityRegistry) : Prop :=
  ∀ ⦃key active⦄, r.activeByName.lookup key = some active →
    r.RecordOk (key ∈ expiring) key active

/-- `key` holds generation `g` and gate `γ`, in an active record or a draining
one. -/
def Live (r : IdentityRegistry) (key : Text) (g : IdentityGeneration) (γ : GateRef) : Prop :=
  (∃ a, r.activeByName.lookup key = some a ∧ a.generation = g ∧ a.operationGate = γ) ∨
  (∃ d ∈ r.deferredReleases,
    d.canonicalNickname = key ∧ d.identity.generation = g ∧ d.operationGate = γ)

/-- A prepared candidate that no record publishes yet. -/
structure FreshOk (u : Unicode) (r : IdentityRegistry) (c : MigrationCandidate) : Prop where
  known : r.knownByName.lookup c.canonicalNickname =
    some ⟨c.completion.binding.nickname, c.completion.binding.userNo⟩
  previous : c.completion.previousIdentity.generation = c.completion.previousBinding.generation
  later : c.completion.previousBinding.generation.get < c.completion.binding.generation.get
  bounded : c.completion.binding.generation.get < r.nextGeneration ∧
    c.nextOperationGate < r.nextGate
  generation : ∀ {k γ}, ¬ r.Live k c.completion.binding.generation γ
  gate : ∀ {k g}, ¬ r.Live k g c.nextOperationGate
  opened : (r.gates c.nextOperationGate).state = IdentityOperationGate.open_

/-- Two candidates never share a generation or a gate. -/
def Apart (c d : MigrationCandidate) : Prop :=
  c.completion.binding.generation ≠ d.completion.binding.generation ∧
    c.nextOperationGate ≠ d.nextOperationGate

/-- Generations and gates in use, against the leases that count on them and the
candidates not yet published. -/
structure LiveInv (u : Unicode) (r : IdentityRegistry) (leases : List IdentityOperationLease)
    (fresh : List MigrationCandidate) : Prop where
  generation : ∀ {k k' g γ γ'}, r.Live k g γ → r.Live k' g γ' → k = k'
  gate : ∀ {k k' g g' γ}, r.Live k g γ → r.Live k' g' γ → k = k'
  bounded : ∀ {k g γ}, r.Live k g γ → g.get < r.nextGeneration ∧ γ < r.nextGate
  unretired : ∀ {k g γ}, r.Live k g γ → (r.gates γ).state ≠ IdentityOperationGate.retired
  draining : (r.deferredReleases.map (·.canonicalNickname)).Nodup
  inactive : ∀ d ∈ r.deferredReleases, r.activeByName.lookup d.canonicalNickname = none
  lease : ∀ l ∈ leases, ∃ k, r.Live k l.binding.generation l.gate
  count : ∀ γ, (r.gates γ).activeOperations = leases.countP (·.gate = γ)
  candidates : ∀ c ∈ fresh, r.FreshOk u c
  apart : fresh.Pairwise Apart

/-- The whole invariant of a registry, the leases on its gates, and the
candidates its callers may still publish. -/
structure Inv (u : Unicode) (expiring : List Text) (r : IdentityRegistry)
    (leases : List IdentityOperationLease) (fresh : List MigrationCandidate) : Prop where
  directory : r.KnownInv u
  record : r.RecordInv expiring
  live : r.LiveInv u leases fresh

/-- The candidate behind a commit guard. -/
def IdentityMigrationCommit.candidate (commit : IdentityMigrationCommit) : MigrationCandidate :=
  ⟨commit.canonicalNickname, commit.operationGate, commit.nextOperationGate, commit.completion⟩

/-- What locking established and the exclusive borrow keeps true. -/
structure GuardOk (r : IdentityRegistry) (commit : IdentityMigrationCommit)
    (active : ActiveIdentity) : Prop where
  record : r.activeByName.lookup commit.canonicalNickname = some active
  transfer : active.transferInProgress = some commit.transferId
  gate : active.operationGate = commit.operationGate
  drained : (r.gates commit.operationGate).activeOperations = 0
  session : r.sessionBindings.lookup commit.destinationSession = none
  owner : commit.completion.binding.owner = commit.destinationSession
  channel : commit.completion.binding.channel = some commit.channel
  generation : commit.completion.previousBinding.generation = active.generation

/-! ## Views of a record -/

theorem Live.of_active {r : IdentityRegistry} {k : Text} {a : ActiveIdentity}
    (h : r.activeByName.lookup k = some a) : r.Live k a.generation a.operationGate :=
  Or.inl ⟨a, h, rfl, rfl⟩

theorem Live.of_deferred {r : IdentityRegistry} {d : DeferredRelease}
    (h : d ∈ r.deferredReleases) :
    r.Live d.canonicalNickname d.identity.generation d.operationGate :=
  Or.inr ⟨d, h, rfl, rfl, rfl⟩

variable {u : Unicode} {r : IdentityRegistry} {E : List Text}
  {leases : List IdentityOperationLease} {F : List MigrationCandidate}

/-- The record a key holds is unique: active and draining exclude each other. -/
theorem LiveInv.key (h : r.LiveInv u leases F) {k : Text} {g g' : IdentityGeneration}
    {γ γ' : GateRef} (h₁ : r.Live k g γ) (h₂ : r.Live k g' γ') : g = g' ∧ γ = γ' := by
  rcases h₁ with ⟨a, ha, rfl, rfl⟩ | ⟨d, hd, rfl, rfl, rfl⟩
  · rcases h₂ with ⟨a', ha', rfl, rfl⟩ | ⟨d', hd', hk, rfl, rfl⟩
    · rw [ha] at ha'
      cases ha'
      exact ⟨rfl, rfl⟩
    · have := h.inactive d' hd'
      rw [hk, ha] at this
      exact absurd this (by simp)
  · rcases h₂ with ⟨a', ha', rfl, rfl⟩ | ⟨d', hd', hk, rfl, rfl⟩
    · have := h.inactive d hd
      rw [ha'] at this
      exact absurd this (by simp)
    · have hdd : d' = d :=
        List.inj_on_of_nodup_map h.draining hd' hd hk
      subst hdd
      exact ⟨rfl, rfl⟩

/-- A gate with no outstanding operation has no lease on it. -/
theorem LiveInv.no_lease (h : r.LiveInv u leases F) {γ : GateRef}
    (hz : (r.gates γ).activeOperations = 0) : ∀ l ∈ leases, l.gate ≠ γ := by
  intro l hl hγ
  have hc := h.count γ
  rw [hz] at hc
  have := List.countP_eq_zero.mp hc.symm l hl
  exact this (by simpa using hγ)

/-- Dropping a caller's candidates keeps the invariant. -/
theorem Inv.sublist {F' : List MigrationCandidate} (h : r.Inv u E leases F)
    (hs : F'.Sublist F) : r.Inv u E leases F' :=
  ⟨h.directory, h.record, { h.live with
    candidates := fun c hc => h.live.candidates c (hs.subset hc)
    apart := h.live.apart.sublist hs }⟩

/-- The order in which callers hold their candidates does not matter. -/
theorem Inv.perm {F' : List MigrationCandidate} (h : r.Inv u E leases F)
    (hp : F.Perm F') : r.Inv u E leases F' :=
  ⟨h.directory, h.record, { h.live with
    candidates := fun c hc => h.live.candidates c (hp.symm.subset hc)
    apart := h.live.apart.perm hp fun hcd => ⟨hcd.1.symm, hcd.2.symm⟩ }⟩

theorem inv_new : new.Inv u [] [] [] := by
  refine ⟨⟨?_, ?_, ?_, ?_⟩, ?_, ?_⟩
  · intro k n h; simp [new] at h
  · intro k n h; simp [new] at h
  · intro x k h; simp [new] at h
  · intro x k h; simp [new] at h
  · intro k a h; simp [new] at h
  · have hlive : ∀ {k g γ}, ¬ new.Live k g γ := by
      intro k g γ h
      rcases h with ⟨a, ha, _⟩ | ⟨d, hd, _⟩
      · simp [new] at ha
      · simp [new] at hd
    exact {
      generation := fun h => absurd h hlive
      gate := fun h => absurd h hlive
      bounded := fun h => absurd h hlive
      unretired := fun h => absurd h hlive
      draining := by simp [new]
      inactive := by simp [new]
      lease := by simp
      count := by simp [new, IdentityOperationGate.shared]
      candidates := by simp
      apart := List.Pairwise.nil }

end IdentityRegistry

end P4475
