import P4475.Identity.Transcript

/-!
# What every reachable registry looks like

The consistency of the registry's tables, read off the invariant, and the order
of the generations it minted, read off the ledger.
-/

namespace P4475

open Lib IdentityRegistry

namespace IdentitySystem

/-- The tables of a registry agree with each other and with the gates. -/
structure Consistent (u : Unicode) (r : IdentityRegistry) : Prop where
  /-- The directory maps are inverse. -/
  inverse : ∀ k x, (r.knownByName.lookup k).map (·.userNo) = some x ↔
    r.nameByUserNo.lookup x = some k
  /-- Distinct canonical keys have distinct user numbers. -/
  distinct : ∀ k k' n n', r.knownByName.lookup k = some n → r.knownByName.lookup k' = some n' →
    n.userNo = n'.userNo → k = k'
  /-- No key is both active and draining, or draining twice. -/
  exclusive : ∀ d ∈ r.deferredReleases, r.activeByName.lookup d.canonicalNickname = none
  draining : (r.deferredReleases.map (·.canonicalNickname)).Nodup
  /-- A connected record is what its owner's session is bound to. -/
  owner : ∀ k a s, r.activeByName.lookup k = some a → a.owner = some s →
    r.sessionBindings.lookup s = some (identityBinding a s)
  /-- One session authorizes for a key. -/
  authorizer : ∀ s s' b b', r.authorize u s = .ok b → r.authorize u s' = .ok b' →
    keyOf u b = keyOf u b' → s = s'
  /-- An ownerless record waits on a permit. -/
  ownerless : ∀ k a, r.activeByName.lookup k = some a → a.owner = none → a.permit.isSome
  /-- A record's transfer flag and its gate say the same. -/
  frozen : ∀ k a t, r.activeByName.lookup k = some a →
    (a.transferInProgress = some t ↔ (r.gates a.operationGate).FrozenBy t)
  frozenPermit : ∀ k a, r.activeByName.lookup k = some a → a.transferInProgress.isSome →
    a.permit.isSome

/-- Generations come out of the registry in increasing order and each becomes
the generation of at most one record. -/
structure MintOrder (tr : Transcript) (r : IdentityRegistry) : Prop where
  increasing : (minted tr).Pairwise fun later earlier => earlier.get < later.get
  minted : ∀ b ∈ installs tr, b.generation ∈ minted tr
  distinct : ((installs tr).map (·.generation)).Nodup
  perUser : (installs tr).Pairwise fun later earlier => later.userNo = earlier.userNo →
    earlier.generation.get < later.generation.get
  held : ∀ g ∈ r.holdings, g ∈ (installs tr).map (·.generation)

variable {u : Unicode} {instantMax : Instant} {s : IdentitySystem} {tr : Transcript}

/-- A record's flag is exactly the transfer its gate is frozen by. -/
theorem gateMatches_iff {transfer : Option MigrationTransferId} {gate : IdentityOperationGate}
    (h : GateMatches transfer gate) (t : MigrationTransferId) :
    transfer = some t ↔ gate.FrozenBy t := by
  cases transfer with
  | none =>
    have hopen : gate.state = IdentityOperationGate.open_ := h
    exact ⟨fun ht => absurd ht (by simp), fun ht => absurd hopen ht.2.1⟩
  | some t' =>
    have hfrozen : gate.FrozenBy t' := h
    constructor
    · rintro ⟨⟩
      exact hfrozen
    · intro ht
      have he : t'.get = t.get := hfrozen.1.symm.trans ht.1
      cases t
      cases t'
      cases he
      rfl

theorem consistent_of_inv {r : IdentityRegistry} {leases : List IdentityOperationLease}
    {F : List MigrationCandidate} (h : r.Inv u [] leases F) : Consistent u r where
  inverse := by
    intro k x
    rw [Option.map_eq_some_iff]
    constructor
    · rintro ⟨n, hn, rfl⟩
      exact h.directory.user hn
    · exact fun hx => h.directory.name hx
  distinct := by
    intro k k' n n' hn hn' he
    have hk := h.directory.user hn
    rw [he, h.directory.user hn'] at hk
    exact (Option.some.inj hk).symm
  exclusive := h.live.inactive
  draining := h.live.draining
  owner := fun k a s ha ho => (h.record ha).bound s ho
  authorizer := by
    intro s s' b b' hb hb' hk
    obtain ⟨_, a, ha, ho, _⟩ := authorize_ok u hb
    obtain ⟨_, a', ha', ho', _⟩ := authorize_ok u hb'
    rw [show canonicalNicknameKey u b.nickname = canonicalNicknameKey u b'.nickname from hk,
      ha'] at ha
    cases ha
    exact Option.some.inj (ho.symm.trans ho')
  ownerless := by
    intro k a ha ho
    exact ((h.record ha).ownerless ho).resolve_right (by simp)
  frozen := fun k a t ha => gateMatches_iff (h.record ha).gate t
  frozenPermit := fun k a ha => (h.record ha).transfer

theorem Ledger.mintOrder_holds (h : Ledger u tr s) : MintOrder tr s.registry where
  increasing := h.mintOrder
  minted := h.mintedInstall
  distinct := h.distinct
  perUser := h.order
  held := by
    intro g hg
    rw [← Multiset.mem_coe, h.balance]
    exact Multiset.mem_add.mpr (Or.inl hg)

/-- **Every reachable registry is consistent**, and the generations minted on
the way to it are distinct and increasing. -/
theorem registry_consistent (h : (machine u instantMax).History tr s) :
    Consistent u s.registry ∧ MintOrder tr s.registry :=
  have hl := ledger_of_history h
  ⟨consistent_of_inv hl.good.inv, hl.mintOrder_holds⟩

/-! ## A run -/

/-- No normalization at all. -/
def plain : Unicode := ⟨id, id⟩

def sampleUser : UserNo := ⟨1, by decide, by decide⟩

def sampleToken : MigrationToken := ⟨7, by decide, by decide⟩

/-- Log in, run one operation across a migration attempt, hand over, leave. -/
def sampleActions : List IdentityAction :=
  [.claim ⟨1⟩ (.v4 5) ['a'] 0, .admitOperation ⟨1⟩,
    .beginMigration ⟨1⟩ ⟨3, 0⟩ sampleToken 10,
    .preflight ⟨2⟩ (.v4 5) sampleUser 3 sampleToken 11,
    .dropLease 0, .prepare 0 12 true, .lock 0 0 13, .commit 1,
    .disconnect ⟨1⟩ 14, .disconnect ⟨2⟩ 15]

theorem sampleActions_run :
    ((machine plain u64Max).exec .initial [] sampleActions).isSome = true := by
  decide +kernel

/-- The run of `sampleActions`. -/
def sample : Transcript × IdentitySystem :=
  ((machine plain u64Max).exec .initial [] sampleActions).get sampleActions_run

theorem sample_history : (machine plain u64Max).History sample.1 sample.2 :=
  Machine.history_of_exec sampleActions .init (Option.some_get sampleActions_run).symm

theorem sample_consistent : Consistent plain sample.2.registry ∧
    MintOrder sample.1 sample.2.registry :=
  registry_consistent sample_history

end IdentitySystem

end P4475
