import P4475.Identity.Frame

/-!
# Claiming, admission and permits keep the invariant

The operations that add: a directory entry, a claimed identity, a lease, a
permit. Each lemma ends in `Inv` for the registry the operation leaves behind,
whatever it returned.
-/

namespace P4475

open Lib

namespace IdentityRegistry

variable {u : Unicode} {r r' : IdentityRegistry} {E : List Text}
  {leases : List IdentityOperationLease} {F : List MigrationCandidate}

/-! ## The directory -/

/-- Two registries that differ in the directory and its counter only. -/
structure SameRecords (r r' : IdentityRegistry) : Prop where
  active : r'.activeByName = r.activeByName
  session : r'.sessionBindings = r.sessionBindings
  deferred : r'.deferredReleases = r.deferredReleases
  gates : r'.gates = r.gates
  nextGate : r'.nextGate = r.nextGate
  nextGeneration : r'.nextGeneration = r.nextGeneration
  nextTransferId : r'.nextTransferId = r.nextTransferId
  knows : Knows r r'

theorem SameRecords.refl : SameRecords r r :=
  ⟨rfl, rfl, rfl, rfl, rfl, rfl, rfl, fun h => h⟩

theorem SameRecords.inv (h : SameRecords r r') (hi : r.Inv u E leases F)
    (hd : r'.KnownInv u) : r'.Inv u E leases F where
  directory := hd
  record := hi.record.frame h.active h.knows h.session (fun _ => by rw [h.gates])
  live := hi.live.frame h.active h.deferred h.knows (by rw [h.nextGeneration])
    (by rw [h.nextGate]) h.gates

/-- What `ensure_known_user_no` can do: nothing, waste a number, or append one
entry under a number no entry has. -/
theorem ensureKnownUserNo_cases (u : Unicode) (r : IdentityRegistry) (nickname : Text) :
    ((r.ensureKnownUserNo u nickname).2 = r) ∨
    ((r.ensureKnownUserNo u nickname).2 = { r with nextUserNo := r.nextUserNo + 1 }) ∨
    (∃ n x, normalizeNickname u nickname = .ok n ∧
      r.knownByName.lookup (canonicalNicknameKey u n) = none ∧ x.get = r.nextUserNo ∧
      r.ensureKnownUserNo u nickname = (.ok x, { r with
        nextUserNo := r.nextUserNo + 1
        knownByName := r.knownByName.insert (canonicalNicknameKey u n) ⟨n, x⟩
        nameByUserNo := r.nameByUserNo.insert x (canonicalNicknameKey u n) })) := by
  unfold ensureKnownUserNo
  split
  next => exact Or.inl rfl
  next n hn =>
    dsimp only
    split
    next => exact Or.inl rfl
    next hl =>
      unfold allocateUserNo
      by_cases h : r.nextUserNo + 1 ≤ u32Max
      · by_cases h0 : r.nextUserNo = 0
        · rw [dif_pos h, dif_pos h0]
          exact Or.inr (Or.inl rfl)
        · rw [dif_pos h, dif_neg h0]
          exact Or.inr (Or.inr ⟨n, _, hn, hl, rfl, rfl⟩)
      · rw [dif_neg h]
        exact Or.inl rfl

theorem ensureKnownUserNo_same (hd : r.KnownInv u) (nickname : Text) :
    SameRecords r (r.ensureKnownUserNo u nickname).2 ∧
      (r.ensureKnownUserNo u nickname).2.KnownInv u := by
  rcases ensureKnownUserNo_cases u r nickname with h | h | ⟨n, x, hn, hl, hx, h⟩
  · rw [h]
    exact ⟨.refl, hd⟩
  · rw [h]
    exact ⟨⟨rfl, rfl, rfl, rfl, rfl, rfl, rfl, fun h => h⟩,
      { key := hd.key, user := hd.user, name := hd.name
        bounded := fun hk => Nat.lt_succ_of_lt (hd.bounded hk) }⟩
  · rw [h]
    have hfresh : ∀ {y k}, r.nameByUserNo.lookup y = some k → y ≠ x := by
      intro y k hy he
      have := hd.bounded hy
      rw [he, hx] at this
      exact Nat.lt_irrefl _ this
    refine ⟨⟨rfl, rfl, rfl, rfl, rfl, rfl, rfl, ?_⟩, ⟨?_, ?_, ?_, ?_⟩⟩
    · intro k m hm
      show (Finmap.insert _ _ r.knownByName).lookup k = some m
      rw [Map.lookup_insert_ite, if_neg]
      · exact hm
      · intro he
        rw [he, hl] at hm
        exact absurd hm (by simp)
    · intro k m hm
      simp only [Map.lookup_insert_ite] at hm
      split at hm
      next he => cases hm; exact he.symm
      next => exact hd.key hm
    · intro k m hm
      simp only [Map.lookup_insert_ite] at hm ⊢
      split at hm
      next he => cases hm; rw [if_pos rfl, he]
      next => rw [if_neg (hfresh (hd.user hm))]; exact hd.user hm
    · intro y k hy
      simp only [Map.lookup_insert_ite] at hy ⊢
      split at hy
      next he => cases hy; exact ⟨⟨n, x⟩, if_pos rfl, he.symm⟩
      next =>
        obtain ⟨m, hm, hmy⟩ := hd.name hy
        refine ⟨m, ?_, hmy⟩
        rw [if_neg]
        · exact hm
        · intro he
          rw [he, hl] at hm
          exact absurd hm (by simp)
    · intro y k hy
      simp only [Map.lookup_insert_ite] at hy
      show y.get < r.nextUserNo + 1
      split at hy
      next he => rw [he, hx]; exact Nat.lt_succ_self _
      next => exact Nat.lt_succ_of_lt (hd.bounded hy)

theorem ensureKnownUserNo_inv (h : r.Inv u E leases F) (nickname : Text) :
    (r.ensureKnownUserNo u nickname).2.Inv u E leases F :=
  have hs := ensureKnownUserNo_same h.directory nickname
  hs.1.inv h hs.2

theorem offlineMyroomBinding_registry (u : Unicode) (r : IdentityRegistry) (nickname : Text) :
    (r.offlineMyroomBinding u nickname).2 = r ∨
      ∃ n, (r.offlineMyroomBinding u nickname).2 = (r.ensureKnownUserNo u n).2 := by
  unfold offlineMyroomBinding
  split
  next => exact Or.inl rfl
  next n _ =>
    dsimp only
    refine Or.inr ⟨n, ?_⟩
    split
    next heq => rw [heq]
    next heq =>
      split
      · rw [heq]
      · rw [heq]

theorem offlineMyroomBinding_inv (h : r.Inv u E leases F) (nickname : Text) :
    (r.offlineMyroomBinding u nickname).2.Inv u E leases F := by
  rcases offlineMyroomBinding_registry u r nickname with he | ⟨n, he⟩
  · rw [he]; exact h
  · rw [he]; exact ensureKnownUserNo_inv h n

/-! ## Claiming -/

/-- The record a claim installs. -/
def claimedIdentity (r : IdentityRegistry) (known : KnownIdentity) (session : SessionId)
    (ip : IpAddr) : ActiveIdentity where
  known := known
  generation := ⟨r.nextGeneration⟩
  owner := some session
  ownerIp := ip
  channel := none
  permit := none
  transferInProgress := none
  operationGate := r.nextGate

/-- The registry a successful claim leaves behind. -/
def claimed (r : IdentityRegistry) (key : Text) (known : KnownIdentity) (session : SessionId)
    (ip : IpAddr) (epoch : Nat) : IdentityRegistry :=
  { r with
    nextGeneration := r.nextGeneration + 1
    nextGate := r.nextGate + 1
    gates := Function.update r.gates r.nextGate (.shared epoch)
    activeByName := r.activeByName.insert key (claimedIdentity r known session ip)
    sessionBindings := r.sessionBindings.insert session
      (identityBinding (claimedIdentity r known session ip) session) }

theorem activateClaim_cases (r : IdentityRegistry) (key : Text) (known : KnownIdentity)
    (session : SessionId) (ip : IpAddr) (epoch : Nat) :
    (∃ e, r.activateClaim key known session ip epoch = (.error e, r)) ∨
    (∃ e, r.activateClaim key known session ip epoch =
      (.error e, { r with nextGeneration := r.nextGeneration + 1 })) ∨
    (r.activateClaim key known session ip epoch =
      (.ok (identityBinding (claimedIdentity r known session ip) session),
        claimed r key known session ip epoch)) := by
  unfold activateClaim allocateGeneration
  by_cases h : r.nextGeneration + 1 ≤ u64Max
  · by_cases h0 : r.nextGeneration = 0
    · rw [if_pos h, if_pos h0]
      exact Or.inr (Or.inl ⟨_, rfl⟩)
    · rw [if_pos h, if_neg h0]
      exact Or.inr (Or.inr rfl)
  · rw [if_neg h]
    exact Or.inl ⟨_, rfl⟩

theorem live_claimed {key k : Text} {known : KnownIdentity} {session : SessionId} {ip : IpAddr}
    {epoch : Nat} {g : IdentityGeneration} {γ : GateRef}
    (h : (claimed r key known session ip epoch).Live k g γ) :
    (k = key ∧ g.get = r.nextGeneration ∧ γ = r.nextGate) ∨ r.Live k g γ := by
  rcases h with ⟨a, ha, rfl, rfl⟩ | hd
  · simp only [claimed, Map.lookup_insert_ite] at ha
    split at ha
    next he => cases ha; exact Or.inl ⟨he, rfl, rfl⟩
    next => exact Or.inr (Or.inl ⟨a, ha, rfl, rfl⟩)
  · exact Or.inr (Or.inr hd)

theorem live_claimed_mono {key k : Text} {known : KnownIdentity} {session : SessionId}
    {ip : IpAddr} {epoch : Nat} {g : IdentityGeneration} {γ : GateRef}
    (hfree : r.activeByName.lookup key = none) (h : r.Live k g γ) :
    (claimed r key known session ip epoch).Live k g γ := by
  rcases h with ⟨a, ha, hg, hγ⟩ | hd
  · refine Or.inl ⟨a, ?_, hg, hγ⟩
    simp only [claimed, Map.lookup_insert_ite]
    rw [if_neg]
    · exact ha
    · intro he
      rw [he, hfree] at ha
      exact absurd ha (by simp)
  · exact Or.inr hd

/-- A claim of a free key by a free session is the one step that makes a new
generation live; it and its gate are beyond every number in use. -/
theorem claimed_inv (h : r.Inv u E leases F) {key : Text} {known : KnownIdentity}
    {session : SessionId} {ip : IpAddr} {epoch : Nat}
    (hfree : r.activeByName.lookup key = none)
    (hdef : ∀ d ∈ r.deferredReleases, d.canonicalNickname ≠ key)
    (hsession : r.sessionBindings.lookup session = none)
    (hknown : r.knownByName.lookup key = some known) :
    (claimed r key known session ip epoch).Inv u E leases F := by
  have hgates : ∀ {γ}, γ < r.nextGate →
      (claimed r key known session ip epoch).gates γ = r.gates γ := by
    intro γ hγ
    simp only [claimed]
    exact Function.update_of_ne (Nat.ne_of_lt hγ) _ _
  have hnew : (claimed r key known session ip epoch).gates r.nextGate = .shared epoch := by
    simp [claimed]
  have hnolease : ∀ l ∈ leases, l.gate ≠ r.nextGate := by
    intro l hl he
    obtain ⟨k, hk⟩ := h.live.lease l hl
    have := (h.live.bounded hk).2
    rw [he] at this
    exact Nat.lt_irrefl _ this
  refine ⟨h.directory.frame rfl rfl rfl, ?_, ?_⟩
  · refine h.record.update key (Knows.of_eq rfl) ?_ ?_ ?_ (fun _ hE => hE) ?_
    · intro k a hne ha
      simp only [claimed, Map.lookup_insert_ite, if_neg hne] at ha
      exact ha
    · intro k a s _ ha hs
      simp only [claimed, Map.lookup_insert_ite]
      rw [if_neg]
      intro he
      have hbs := (h.record ha).bound s hs
      rw [he, hsession] at hbs
      exact absurd hbs (by simp)
    · intro k a _ ha
      rw [hgates (h.live.bounded (Live.of_active ha)).2]
    · intro a ha
      simp only [claimed, Map.lookup_insert_ite, if_true] at ha
      cases ha
      exact {
        known := hknown
        bound := fun s hs => by
          cases hs
          simp [claimed]
        permit := fun p hp => by simp [claimedIdentity] at hp
        ownerless := fun ho => by simp [claimedIdentity] at ho
        transfer := fun ht => by simp [claimedIdentity] at ht
        gate := by
          show GateMatches none ((claimed r key known session ip epoch).gates r.nextGate)
          rw [hnew]
          rfl }
  · exact {
      generation := by
        intro k k' g γ γ' h₁ h₂
        rcases live_claimed h₁ with ⟨hk₁, hg₁, _⟩ | hl₁
        · rcases live_claimed h₂ with ⟨hk₂, _, _⟩ | hl₂
          · exact hk₁.trans hk₂.symm
          · exact absurd hg₁ (Nat.ne_of_lt (h.live.bounded hl₂).1)
        · rcases live_claimed h₂ with ⟨_, hg₂, _⟩ | hl₂
          · exact absurd hg₂ (Nat.ne_of_lt (h.live.bounded hl₁).1)
          · exact h.live.generation hl₁ hl₂
      gate := by
        intro k k' g g' γ h₁ h₂
        rcases live_claimed h₁ with ⟨hk₁, _, hγ₁⟩ | hl₁
        · rcases live_claimed h₂ with ⟨hk₂, _, _⟩ | hl₂
          · exact hk₁.trans hk₂.symm
          · exact absurd hγ₁ (Nat.ne_of_lt (h.live.bounded hl₂).2)
        · rcases live_claimed h₂ with ⟨_, _, hγ₂⟩ | hl₂
          · exact absurd hγ₂ (Nat.ne_of_lt (h.live.bounded hl₁).2)
          · exact h.live.gate hl₁ hl₂
      bounded := by
        intro k g γ hl
        show g.get < r.nextGeneration + 1 ∧ γ < r.nextGate + 1
        rcases live_claimed hl with ⟨_, hg, hγ⟩ | hl
        · rw [hg, hγ]
          exact ⟨Nat.lt_succ_self _, Nat.lt_succ_self _⟩
        · have hb := h.live.bounded hl
          exact ⟨Nat.lt_succ_of_lt hb.1, Nat.lt_succ_of_lt hb.2⟩
      unretired := by
        intro k g γ hl
        rcases live_claimed hl with ⟨_, _, hγ⟩ | hl
        · rw [hγ, hnew]
          show IdentityOperationGate.open_ ≠ IdentityOperationGate.retired
          decide
        · rw [hgates (h.live.bounded hl).2]
          exact h.live.unretired hl
      draining := h.live.draining
      inactive := by
        intro d hd
        simp only [claimed, Map.lookup_insert_ite]
        rw [if_neg (hdef d hd)]
        exact h.live.inactive d hd
      lease := by
        intro l hl
        obtain ⟨k, hk⟩ := h.live.lease l hl
        exact ⟨k, live_claimed_mono hfree hk⟩
      count := by
        intro γ
        by_cases he : γ = r.nextGate
        · subst he
          rw [hnew]
          symm
          rw [show (IdentityOperationGate.shared epoch).activeOperations = 0 from rfl,
            List.countP_eq_zero]
          intro l hl
          simpa using hnolease l hl
        · simp only [claimed]
          rw [Function.update_of_ne he]
          exact h.live.count γ
      candidates := by
        intro c hc
        have hf := h.live.candidates c hc
        exact {
          known := hf.known
          previous := hf.previous
          later := hf.later
          bounded := ⟨Nat.lt_succ_of_lt hf.bounded.1, Nat.lt_succ_of_lt hf.bounded.2⟩
          generation := by
            intro k γ hl
            rcases live_claimed hl with ⟨_, hg, _⟩ | hl
            · exact absurd hg (Nat.ne_of_lt hf.bounded.1)
            · exact hf.generation hl
          gate := by
            intro k g hl
            rcases live_claimed hl with ⟨_, _, hγ⟩ | hl
            · exact absurd hγ (Nat.ne_of_lt hf.bounded.2)
            · exact hf.gate hl
          opened := by
            rw [hgates hf.bounded.2]
            exact hf.opened }
      apart := h.live.apart }

/-- Every way `claim_at` can end, with the success case in closed form over the
registry after `ensure_known_user_no`. -/
theorem claimAt_cases (u : Unicode) (r : IdentityRegistry) (session : SessionId) (ip : IpAddr)
    (nickname : Text) (epoch : Nat) :
    (∃ e, r.claimAt u session ip nickname epoch = (.error e, r)) ∨
    (∃ n, r.sessionBindings.lookup session = none ∧
      r.activeByName.lookup (canonicalNicknameKey u n) = none ∧
      (∀ d ∈ r.deferredReleases, d.canonicalNickname ≠ canonicalNicknameKey u n) ∧
      ((∃ e, r.claimAt u session ip nickname epoch = (.error e, (r.ensureKnownUserNo u n).2)) ∨
        ∃ known, (r.ensureKnownUserNo u n).2.knownByName.lookup (canonicalNicknameKey u n)
            = some known ∧
          r.claimAt u session ip nickname epoch =
            (r.ensureKnownUserNo u n).2.activateClaim (canonicalNicknameKey u n) known
              session ip epoch)) := by
  unfold claimAt
  split
  next => exact Or.inl ⟨_, rfl⟩
  next =>
    split
    next => exact Or.inl ⟨_, rfl⟩
    next n hn =>
      split
      next => exact Or.inl ⟨_, rfl⟩
      next hs =>
        dsimp only
        split
        next => exact Or.inl ⟨_, rfl⟩
        next ha =>
          split
          next => exact Or.inl ⟨_, rfl⟩
          next hd =>
            refine Or.inr ⟨n, hs, ha, ?_, ?_⟩
            · intro d hmem he
              have := List.find?_eq_none.mp hd d hmem
              exact this (by simpa using he)
            · split
              next heq => exact Or.inl ⟨_, by rw [heq]⟩
              next heq =>
                rw [heq]
                dsimp only
                split
                next => exact Or.inl ⟨_, rfl⟩
                next known hknown => exact Or.inr ⟨known, hknown, rfl⟩

theorem claimAt_inv (h : r.Inv u E leases F) (session : SessionId) (ip : IpAddr)
    (nickname : Text) (epoch : Nat) :
    (r.claimAt u session ip nickname epoch).2.Inv u E leases F := by
  rcases claimAt_cases u r session ip nickname epoch with ⟨e, he⟩ | ⟨n, hs, ha, hd, hc⟩
  · rw [he]; exact h
  · have hsame := ensureKnownUserNo_same h.directory n
    have h' := hsame.1.inv h hsame.2
    rcases hc with ⟨e, he⟩ | ⟨known, hknown, he⟩
    · rw [he]; exact h'
    · rw [he]
      rcases activateClaim_cases (r.ensureKnownUserNo u n).2 (canonicalNicknameKey u n) known
        session ip epoch with ⟨e, hx⟩ | ⟨e, hx⟩ | hx
      · rw [hx]; exact h'
      · rw [hx]
        exact h'.bump rfl rfl rfl rfl rfl rfl rfl (Nat.le_succ _) (Nat.le_refl _)
      · rw [hx]
        exact claimed_inv h' (by rw [hsame.1.active]; exact ha)
          (by rw [hsame.1.deferred]; exact hd) (by rw [hsame.1.session]; exact hs) hknown

/-! ## Authorization and leases -/

/-- What `authorize` vouches for. -/
theorem authorize_ok (u : Unicode) {r : IdentityRegistry} {session : SessionId}
    {b : IdentityBinding} (h : r.authorize u session = .ok b) :
    r.sessionBindings.lookup session = some b ∧
    ∃ a, r.activeByName.lookup (canonicalNicknameKey u b.nickname) = some a ∧
      a.owner = some session ∧ a.generation = b.generation ∧ a.transferInProgress = none := by
  unfold authorize at h
  split at h
  next => exact absurd h (by simp)
  next b' hb =>
    split at h
    next => exact absurd h (by simp)
    next a ha =>
      split at h
      next => exact absurd h (by simp)
      next hown =>
        split at h
        next => exact absurd h (by simp)
        next ht =>
          cases h
          simp only [ne_eq, not_or, Decidable.not_not] at hown
          exact ⟨hb, a, ha, hown.1, hown.2, by simpa using ht⟩

/-- A lease may be counted on a gate exactly when some record holds that gate
under the lease's generation. -/
theorem issue_inv (h : r.Inv u E leases F) {l : IdentityOperationLease} {k : Text}
    (hl : r.Live k l.binding.generation l.gate) :
    (r.setGate l.gate { r.gates l.gate with
      activeOperations := (r.gates l.gate).activeOperations + 1 }).Inv u E (leases ++ [l]) F := by
  have hstate : ∀ γ, ((r.setGate l.gate { r.gates l.gate with
      activeOperations := (r.gates l.gate).activeOperations + 1 }).gates γ).state =
      (r.gates γ).state := by
    intro γ
    rw [setGate_gates]
    split
    next he => rw [he]
    next => rfl
  refine ⟨h.directory.frame rfl rfl rfl, h.record.frame rfl (Knows.of_eq rfl) rfl
    (fun _ => hstate _), ?_⟩
  exact {
    generation := h.live.generation
    gate := h.live.gate
    bounded := h.live.bounded
    unretired := fun hl => by rw [hstate]; exact h.live.unretired hl
    draining := h.live.draining
    inactive := h.live.inactive
    lease := by
      intro l' hl'
      rcases List.mem_append.mp hl' with hm | hm
      · exact h.live.lease l' hm
      · rw [List.mem_singleton] at hm
        subst hm
        exact ⟨k, hl⟩
    count := by
      intro γ
      rw [setGate_gates, List.countP_append, List.countP_singleton]
      by_cases he : γ = l.gate
      · subst he
        simp [h.live.count]
      · simp only [if_neg he, h.live.count γ]
        simp [Ne.symm he]
    candidates := fun c hc => { h.live.candidates c hc with
      opened := by rw [hstate]; exact (h.live.candidates c hc).opened }
    apart := h.live.apart }

theorem issueLease_inv (h : r.Inv u E leases F) {g : GateRef} {b : IdentityBinding} {k : Text}
    (hl : r.Live k b.generation g) :
    (r.issueLease g b).2.Inv u E (IdentitySystem.keep leases (r.issueLease g b).1) F := by
  unfold issueLease
  split
  next => exact h
  next gate hg =>
    rw [(IdentityOperationGate.tryAdmit_ok hg).2]
    exact issue_inv (l := ⟨g, b⟩) h hl

theorem admitOperation_inv (h : r.Inv u E leases F) (session : SessionId) :
    (r.admitOperation u session).2.Inv u E
      (IdentitySystem.keep leases (r.admitOperation u session).1) F := by
  unfold admitOperation
  split
  next => exact h
  next b hb =>
    obtain ⟨_, a, ha, _, hg, _⟩ := authorize_ok u hb
    split
    next => exact h
    next a' ha' =>
      rw [ha] at ha'
      cases ha'
      exact issueLease_inv h (hg ▸ Live.of_active ha)

theorem admitUdpOperation_inv (h : r.Inv u E leases F) (userNo : UserNo) (epoch : Nat) :
    (r.admitUdpOperation userNo epoch).2.Inv u E
      (IdentitySystem.keep leases (r.admitUdpOperation userNo epoch).1) F := by
  unfold admitUdpOperation
  split
  next => exact h
  next key _ =>
    split
    next => exact h
    next a ha =>
      split
      next => exact h
      next b hb =>
        split
        next => exact h
        next =>
          split
          next => exact h
          next =>
            have hg : b.generation = a.generation := by
              unfold activeIdentityBinding at hb
              cases ho : a.owner with
              | none => rw [ho] at hb; simp at hb
              | some s => rw [ho] at hb; simp at hb; rw [← hb]; rfl
            exact issueLease_inv h (hg ▸ Live.of_active ha)

theorem retainLease_inv (h : r.Inv u E leases F) {l : IdentityOperationLease}
    (hl : l ∈ leases) :
    (r.retainLease l).2.Inv u E (IdentitySystem.keep leases (r.retainLease l).1) F := by
  obtain ⟨k, hk⟩ := h.live.lease l hl
  unfold retainLease
  split
  next => exact h
  next gate hg =>
    rw [(IdentityOperationGate.tryRetain_ok hg).2]
    exact issue_inv h hk

/-- Dropping a lease takes exactly its own count back. -/
theorem dropLease_inv (h : r.Inv u E leases F) {i : Nat} {l : IdentityOperationLease}
    (hl : leases[i]? = some l) : (r.dropLease l).Inv u E (leases.eraseIdx i) F := by
  obtain ⟨hi, hget⟩ := List.getElem?_eq_some_iff.mp hl
  have hperm : (l :: leases.eraseIdx i).Perm leases := by
    have := List.getElem_cons_eraseIdx_perm hi
    rw [hget] at this
    exact this
  have hstate : ∀ γ, ((r.dropLease l).gates γ).state = (r.gates γ).state := by
    intro γ
    unfold dropLease
    rw [setGate_gates]
    split
    next he => rw [he]; rfl
    next => rfl
  refine ⟨h.directory.frame rfl rfl rfl, h.record.frame rfl (Knows.of_eq rfl) rfl
    (fun _ => hstate _), ?_⟩
  exact {
    generation := h.live.generation
    gate := h.live.gate
    bounded := h.live.bounded
    unretired := fun hl => by rw [hstate]; exact h.live.unretired hl
    draining := h.live.draining
    inactive := h.live.inactive
    lease := fun l' hl' => h.live.lease l' (hperm.subset (List.mem_cons_of_mem _ hl'))
    count := by
      intro γ
      have hc := h.live.count γ
      rw [← hperm.countP_eq, List.countP_cons] at hc
      unfold dropLease
      rw [setGate_gates]
      by_cases he : γ = l.gate
      · subst he
        simp only [decide_true, if_true] at hc ⊢
        show (r.gates l.gate).activeOperations - 1 = _
        omega
      · simp only [Ne.symm he, decide_false, Bool.false_eq_true, if_false] at hc
        rw [if_neg he]
        exact hc
    candidates := fun c hc => { h.live.candidates c hc with
      opened := by rw [hstate]; exact (h.live.candidates c hc).opened }
    apart := h.live.apart }

/-! ## Permits -/

/-- `begin_migration` either leaves the registry alone or gives an authorized,
unfrozen record a permit for its own generation. -/
theorem beginMigration_cases (u : Unicode) (r : IdentityRegistry) (instantMax : Instant)
    (session : SessionId) (channel : ChannelBinding) (token : MigrationToken) (now : Instant) :
    (∃ e, r.beginMigration u instantMax session channel token now = (.error e, r)) ∨
    (∃ b a p, r.authorize u session = .ok b ∧
      r.activeByName.lookup (canonicalNicknameKey u b.nickname) = some a ∧
      p = { userNo := b.userNo, sourceGeneration := b.generation, sourceSession := session,
            sourceIp := b.sourceIp, channel := channel, token := token,
            expiresAt := now + migrationTtl } ∧
      r.beginMigration u instantMax session channel token now =
        (.ok p, r.setActive (canonicalNicknameKey u b.nickname) { a with permit := some p })) := by
  unfold beginMigration
  split
  next => exact Or.inl ⟨_, rfl⟩
  next b hb =>
    split
    next => exact Or.inl ⟨_, rfl⟩
    next =>
      dsimp only
      split
      next => exact Or.inl ⟨_, rfl⟩
      next a ha => exact Or.inr ⟨b, a, _, hb, ha, rfl, rfl⟩

theorem beginMigration_inv (h : r.Inv u E leases F) (instantMax : Instant)
    (session : SessionId) (channel : ChannelBinding) (token : MigrationToken) (now : Instant) :
    (r.beginMigration u instantMax session channel token now).2.Inv u E leases F := by
  rcases beginMigration_cases u r instantMax session channel token now with
    ⟨e, he⟩ | ⟨b, a, p, hb, ha, hp, he⟩
  · rw [he]; exact h
  · obtain ⟨hs, a', ha', hown, hgen, ht⟩ := authorize_ok u hb
    rw [ha] at ha'
    cases ha'
    have hr := h.record ha
    have hbind : b = identityBinding a session :=
      Option.some.inj (hs.symm.trans (hr.bound session hown))
    rw [he]
    have hself := setGate_self (r := r) a.operationGate
    have hok : ((r.setGate a.operationGate (r.gates a.operationGate)).setActive
        (canonicalNicknameKey u b.nickname) { a with permit := some p }).RecordOk
        (canonicalNicknameKey u b.nickname ∈ E) (canonicalNicknameKey u b.nickname)
        { a with permit := some p } := by
      rw [hself]
      exact {
        known := hr.known
        bound := hr.bound
        permit := by
          intro q hq
          cases hq
          subst hp
          rw [hbind]
          exact ⟨rfl, rfl, rfl, fun s hs => by rw [hown] at hs; exact Option.some.inj hs⟩
        ownerless := fun _ => Or.inl rfl
        transfer := fun _ => rfl
        gate := hr.gate }
    have hrec := h.record.adjust h.live ha hok
    have hlive : ((r.setGate a.operationGate (r.gates a.operationGate)).setActive _
        { a with permit := some p }).LiveInv u leases F :=
      h.live.adjust ha rfl rfl rfl (h.live.unretired (Live.of_active ha))
    rw [hself] at hrec hlive
    exact ⟨h.directory.frame rfl rfl rfl, hrec, hlive⟩

end IdentityRegistry

end P4475
