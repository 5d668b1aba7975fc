import P4475.Identity.Exits

/-!
# The ledger of generations

A transcript read as a ledger: which generations were minted, which bindings
were installed under them, and which generations ended, superseded by a commit
or handed out for cleanup. One step either settles (`Settles`) or installs one
binding (`Installs`); `StepSpec` says which, for every action, and `Ledger` is
what the whole transcript then satisfies.
-/

namespace P4475

open Lib

namespace IdentityRegistry

variable {u : Unicode} {r r' r'' : IdentityRegistry} {E : List Text}
  {leases : List IdentityOperationLease} {F : List MigrationCandidate}

/-! ## Operations that only move records -/

theorem SameRecords.settles (h : SameRecords r r') : Settles r [] r' :=
  .of_same h.active h.deferred (fun _ => by rw [h.gates]) h.knows
    (Nat.le_of_eq h.nextGeneration.symm)

theorem offlineMyroomBinding_settles (h : r.KnownInv u) (nickname : Text) :
    Settles r [] (r.offlineMyroomBinding u nickname).2 := by
  rcases offlineMyroomBinding_registry u r nickname with he | ⟨n, he⟩
  · rw [he]; exact Settles.refl
  · rw [he]; exact (ensureKnownUserNo_same h n).1.settles

theorem beginMigration_settles (instantMax : Instant) (session : SessionId)
    (channel : ChannelBinding) (token : MigrationToken) (now : Instant) :
    Settles r [] (r.beginMigration u instantMax session channel token now).2 := by
  rcases beginMigration_cases u r instantMax session channel token now with
    ⟨e, he⟩ | ⟨b, a, p, _, ha, _, he⟩
  · rw [he]; exact Settles.refl
  · rw [he]; exact setActive_settles ha rfl rfl

theorem withTransfer_settles {key : Text} {a : ActiveIdentity}
    (ha : r.activeByName.lookup key = some a) (transfer : Option MigrationTransferId)
    (word : Nat) : Settles r [] (r.withTransfer key a transfer word) := by
  have hword : Settles r [] (r.setGate a.operationGate
      { r.gates a.operationGate with state := word }) := setGate_settles rfl
  exact hword.trans (setActive_settles ha rfl rfl)

theorem transferId_settles (n : Nat) : Settles r [] { r with nextTransferId := n } :=
  .of_same rfl rfl (fun _ => rfl) (Knows.of_eq rfl) (Nat.le_refl _)

theorem generation_settles {n : Nat} (hn : r.nextGeneration ≤ n) :
    Settles r [] { r with nextGeneration := n } :=
  .of_same rfl rfl (fun _ => rfl) (Knows.of_eq rfl) hn

theorem frozen_settles {key : Text} {a : ActiveIdentity}
    (ha : r.activeByName.lookup key = some a) : Settles r [] (r.frozen key a) :=
  (transferId_settles _).trans
    (withTransfer_settles (r := { r with nextTransferId := r.nextTransferId + 1 }) ha _ _)

theorem preflightMigration_settles (session : SessionId) (ip : IpAddr) (userNo : UserNo)
    (channelId : Nat) (token : MigrationToken) (now : Instant) :
    Settles r [] (r.preflightMigration session ip userNo channelId token now).2 := by
  rcases preflightMigration_cases r session ip userNo channelId token now with
    ⟨e, n, _, he⟩ | ⟨v, hv, _, _, _, _, he⟩
  · rw [he]; exact transferId_settles n
  · rw [he]; exact frozen_settles (validateMigration_ok hv).active

theorem abortPreflightedMigration_settles (preflight : MigrationPreflight) :
    Settles r [] (r.abortPreflightedMigration preflight).2 := by
  rcases abortPreflightedMigration_cases r preflight with he | ⟨a, ha, _, _, _, _, he⟩
  · rw [he]; exact Settles.refl
  · rw [he]; exact withTransfer_settles ha _ _

theorem lockPreparedMigration_settles (preflight : MigrationPreflight)
    (candidate : MigrationCandidate) (now : Instant) :
    Settles r [] (r.lockPreparedMigration preflight candidate now).2 := by
  rcases lockPreparedMigration_cases r preflight candidate now with ⟨e, he⟩ | ⟨v, _, _, he⟩
  · rw [he]; exact abortPreflightedMigration_settles preflight
  · rw [he]; exact Settles.refl

/-- A new gate counts nothing, as the unallocated one did. -/
theorem prepared_settles (h : r.LiveInv u leases F) : Settles r [] r.prepared := by
  refine .of_same rfl rfl (fun γ => ?_) (Knows.of_eq rfl) (Nat.le_succ _)
  by_cases hγ : γ = r.nextGate
  · subst hγ
    rw [show r.prepared.gates r.nextGate = .shared 0 from Function.update_self .., h.count]
    symm
    rw [show (IdentityOperationGate.shared 0).activeOperations = 0 from rfl,
      List.countP_eq_zero]
    intro l hl
    obtain ⟨k, hk⟩ := h.lease l hl
    simpa using Nat.ne_of_lt (h.bounded hk).2
  · rw [show r.prepared.gates γ = r.gates γ from Function.update_of_ne hγ _ _]

/-! ## Operations that install a binding -/

/-- The canonical key a binding is installed under. -/
def keyOf (u : Unicode) (b : IdentityBinding) : Text := canonicalNicknameKey u b.nickname

/-- A step that installs `b` and supersedes the generations `ended`. -/
structure Installs (u : Unicode) (r : IdentityRegistry) (b : IdentityBinding)
    (ended : List IdentityGeneration) (r' : IdentityRegistry) : Prop where
  holdings : r'.holdings + (ended : Multiset IdentityGeneration) =
    r.holdings + {b.generation}
  live : ∀ {k g γ}, r'.Live k g γ → r.Live k g γ ∨ k = keyOf u b ∧ g = b.generation
  drained : ∀ g ∈ ended, ∃ k γ, r.Live k g γ ∧ (r.gates γ).activeOperations = 0
  knows : Knows r r'
  next : r.nextGeneration ≤ r'.nextGeneration
  directory : r'.knownByName.lookup (keyOf u b) = some ⟨b.nickname, b.userNo⟩
  here : ∃ γ, r'.Live (keyOf u b) b.generation γ
  later : ∀ {g γ}, r.Live (keyOf u b) g γ → g.get < b.generation.get

theorem Settles.installs {b : IdentityBinding} {ended : List IdentityGeneration}
    (h : Settles r [] r') (h' : Installs u r' b ended r'')
    (hl : ∀ {g γ}, r.Live (keyOf u b) g γ → g.get < b.generation.get) :
    Installs u r b ended r'' where
  holdings := by
    rw [h'.holdings, ← h.holdings]
    simp [generations]
  live := fun hl => (h'.live hl).imp_left h.live
  drained := fun g hg => by
    obtain ⟨k, γ, hk, hc⟩ := h'.drained g hg
    exact ⟨k, γ, h.live hk, by rw [← h.count]; exact hc⟩
  knows := fun hn => h'.knows (h.knows hn)
  next := Nat.le_trans h.next h'.next
  directory := h'.directory
  here := h'.here
  later := hl

theorem claimed_installs (h : r.Inv u E leases F) {key : Text} {known : KnownIdentity}
    (session : SessionId) (ip : IpAddr) (epoch : Nat)
    (hfree : r.activeByName.lookup key = none)
    (hdef : ∀ d ∈ r.deferredReleases, d.canonicalNickname ≠ key)
    (hknown : r.knownByName.lookup key = some known) :
    Installs u r (identityBinding (claimedIdentity r known session ip) session) []
      (claimed r key known session ip epoch) := by
  have hkey : keyOf u (identityBinding (claimedIdentity r known session ip) session) = key :=
    h.directory.key hknown
  exact {
    holdings := by
      unfold holdings claimed
      dsimp only
      rw [Map.values_insert_new _ hfree, Multiset.map_cons, ← Multiset.singleton_add]
      simp only [Multiset.coe_nil, add_zero]
      show {_} + _ + _ = _
      rw [add_assoc, add_comm]
      rfl
    live := fun hl => by
      rw [hkey]
      rcases live_claimed hl with ⟨hk, hg, _⟩ | hl
      · exact Or.inr ⟨hk, IdentityGeneration.ext hg⟩
      · exact Or.inl hl
    drained := by simp
    knows := Knows.of_eq rfl
    next := Nat.le_succ _
    directory := by
      rw [hkey]
      exact hknown
    here := by
      rw [hkey]
      exact ⟨_, Or.inl ⟨claimedIdentity r known session ip, by simp [claimed], rfl, rfl⟩⟩
    later := by
      rw [hkey]
      rintro g γ (⟨a, ha, _⟩ | ⟨d, hd, hk, _⟩)
      · rw [hfree] at ha
        exact absurd ha (by simp)
      · exact absurd hk (hdef d hd) }

/-- What a claim does to the ledger: nothing, or one binding under the next
generation. -/
theorem claimAt_effect (h : r.Inv u E leases F) (session : SessionId) (ip : IpAddr)
    (nickname : Text) (epoch : Nat) :
    (∃ e, (r.claimAt u session ip nickname epoch).1 = .error e ∧
      Settles r [] (r.claimAt u session ip nickname epoch).2) ∨
    (∃ b, (r.claimAt u session ip nickname epoch).1 = .ok b ∧
      b.generation.get = r.nextGeneration ∧
      r.nextGeneration < (r.claimAt u session ip nickname epoch).2.nextGeneration ∧
      Installs u r b [] (r.claimAt u session ip nickname epoch).2) := by
  rcases claimAt_cases u r session ip nickname epoch with ⟨e, he⟩ | ⟨n, hs, ha, hd, hc⟩
  · rw [he]
    exact Or.inl ⟨e, rfl, Settles.refl⟩
  · have hsame := ensureKnownUserNo_same h.directory n
    have h' := hsame.1.inv h hsame.2
    rcases hc with ⟨e, he⟩ | ⟨known, hknown, he⟩
    · rw [he]
      exact Or.inl ⟨e, rfl, hsame.1.settles⟩
    · rw [he]
      rcases activateClaim_cases (r.ensureKnownUserNo u n).2 (canonicalNicknameKey u n) known
        session ip epoch with ⟨e, hx⟩ | ⟨e, hx⟩ | hx
      · rw [hx]
        exact Or.inl ⟨e, rfl, hsame.1.settles⟩
      · rw [hx]
        exact Or.inl ⟨e, rfl, hsame.1.settles.trans (generation_settles (Nat.le_succ _))⟩
      · rw [hx]
        have hi := claimed_installs h' session ip epoch
          (by rw [hsame.1.active]; exact ha) (by rw [hsame.1.deferred]; exact hd) hknown
        refine Or.inr ⟨_, rfl, hsame.1.nextGeneration, ?_, hsame.1.settles.installs hi ?_⟩
        · rw [← hsame.1.nextGeneration]
          exact Nat.lt_succ_self _
        · intro g γ hl
          refine hi.later (γ := γ) ?_
          unfold Live at hl ⊢
          rw [hsame.1.active, hsame.1.deferred]
          exact hl

variable {commit : IdentityMigrationCommit} {a : ActiveIdentity}

theorem committed_installs (h : r.Inv u E leases (commit.candidate :: F))
    (hg : r.GuardOk commit a) (epoch : Nat) :
    Installs u r commit.completion.binding [commit.completion.previousIdentity.generation]
      (r.committed commit a epoch) := by
  have hf := h.live.candidates _ (List.mem_cons_self ..)
  have hold : commit.completion.previousIdentity.generation = a.generation :=
    hf.previous.trans hg.generation
  have hkey : keyOf u commit.completion.binding = commit.canonicalNickname :=
    h.directory.key hf.known
  exact {
    holdings := by
      rw [hold]
      exact holdings_setActive (r := r.committedGates commit epoch) hg.record
    live := fun hl => by
      rw [hkey]
      rcases (live_committed h.live hg).mp hl with ⟨hk, hgen, _⟩ | ⟨_, hl⟩
      · exact Or.inr ⟨hk, hgen⟩
      · exact Or.inl hl
    drained := by
      intro g hmem
      rw [List.mem_singleton] at hmem
      subst hmem
      rw [hold]
      exact ⟨_, _, Live.of_active hg.record, by rw [hg.gate]; exact hg.drained⟩
    knows := Knows.of_eq rfl
    next := Nat.le_refl _
    directory := by
      rw [hkey]
      exact hf.known
    here := by
      rw [hkey]
      exact ⟨_, (live_committed h.live hg).mpr (Or.inl ⟨rfl, rfl, rfl⟩)⟩
    later := by
      rw [hkey]
      intro g γ hl
      rw [(h.live.key hl (Live.of_active hg.record)).1, ← hg.generation]
      exact hf.later }

theorem live_withTransfer {key : Text} (ha : r.activeByName.lookup key = some a)
    {transfer : Option MigrationTransferId} {word : Nat} {k : Text} {g : IdentityGeneration}
    {γ : GateRef} : (r.withTransfer key a transfer word).Live k g γ ↔ r.Live k g γ :=
  live_setActive (r := r.setGate a.operationGate _) ha rfl rfl

/-- What completing a preflighted migration does to the ledger. -/
theorem completePreflighted_effect (h : r.Inv u E leases F) (preflight : MigrationPreflight)
    (now : Instant) (epoch : Nat) (reserve : Bool) :
    (∃ e, (r.completePreflightedMigrationAtUdpEpoch preflight now epoch reserve).1 = .error e ∧
      Settles r [] (r.completePreflightedMigrationAtUdpEpoch preflight now epoch reserve).2) ∨
    (∃ m, (r.completePreflightedMigrationAtUdpEpoch preflight now epoch reserve).1 = .ok m ∧
      m.binding.generation.get = r.nextGeneration ∧
      r.nextGeneration <
        (r.completePreflightedMigrationAtUdpEpoch preflight now epoch reserve).2.nextGeneration ∧
      Installs u r m.binding [m.previousIdentity.generation]
        (r.completePreflightedMigrationAtUdpEpoch preflight now epoch reserve).2) := by
  rcases completePreflighted_cases h preflight now epoch reserve with
    ⟨e, n, hn, he⟩ | ⟨e, v, hv, he⟩ | ⟨v, hv, hg, he⟩
  · rw [he]
    exact Or.inl ⟨e, rfl, (generation_settles hn).trans (abortPreflightedMigration_settles _)⟩
  · rw [he]
    exact Or.inl ⟨e, rfl, (prepared_settles h.live).trans (abortPreflightedMigration_settles _)⟩
  · rw [he]
    have hp := (prepared_inv h hv).perm List.perm_append_comm
    have hi := committed_installs hp hg epoch
    exact Or.inr ⟨_, rfl, rfl, Nat.lt_succ_self _,
      (prepared_settles h.live).installs hi hi.later⟩

/-- What a one-call migration does to the ledger. -/
theorem completeMigration_effect (h : r.Inv u E leases F) (session : SessionId) (ip : IpAddr)
    (userNo : UserNo) (channelId : Nat) (token : MigrationToken) (now : Instant)
    (reserve : Bool) :
    (∃ e, (r.completeMigration session ip userNo channelId token now reserve).1 = .error e ∧
      Settles r [] (r.completeMigration session ip userNo channelId token now reserve).2) ∨
    (∃ m, (r.completeMigration session ip userNo channelId token now reserve).1 = .ok m ∧
      m.binding.generation.get = r.nextGeneration ∧
      r.nextGeneration <
        (r.completeMigration session ip userNo channelId token now reserve).2.nextGeneration ∧
      Installs u r m.binding [m.previousIdentity.generation]
        (r.completeMigration session ip userNo channelId token now reserve).2) := by
  unfold completeMigration
  rcases preflightMigration_cases r session ip userNo channelId token now with
    ⟨e, n, _, he⟩ | ⟨v, hv, _, h0, hmax, _, he⟩
  · rw [he]
    exact Or.inl ⟨e, rfl, transferId_settles n⟩
  · rw [he]
    have hval := validateMigration_ok hv
    have h' := frozen_inv h hval.active (by rw [hval.permit]; rfl) h0 hmax
    have hs := frozen_settles hval.active
    rcases completePreflighted_effect h' (r.ticket session ip userNo channelId token v) now 0
      reserve with ⟨e, he, hs'⟩ | ⟨m, he, hgen, hlt, hi⟩
    · exact Or.inl ⟨e, he, hs.trans hs'⟩
    · refine Or.inr ⟨m, he, hgen, hlt, hs.installs hi fun {g γ} hl => hi.later (γ := γ) ?_⟩
      exact (live_withTransfer (r := { r with nextTransferId := r.nextTransferId + 1 })
        hval.active).mpr hl

theorem completeMigration_inv (h : r.Inv u E leases F) (session : SessionId) (ip : IpAddr)
    (userNo : UserNo) (channelId : Nat) (token : MigrationToken) (now : Instant)
    (reserve : Bool) :
    (r.completeMigration session ip userNo channelId token now reserve).2.Inv u E leases F := by
  have hpre := preflightMigration_inv h session ip userNo channelId token now
  unfold completeMigration
  split
  next e r' he =>
    rw [he] at hpre
    exact hpre
  next preflight r' he =>
    rw [he] at hpre
    exact completePreflighted_inv hpre preflight now 0 reserve

end IdentityRegistry

end P4475
