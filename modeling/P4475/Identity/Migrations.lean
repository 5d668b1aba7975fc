import P4475.Identity.Claims

/-!
# Migrations keep the invariant

Preflight freezes, prepare mints a candidate, lock checks it, commit publishes
it; every failure after the freeze goes through an abort. Each operation first
gets its closed form (`frozen`, `thawed`, `prepared`, `committed`), and the
invariant is proved about that form.
-/

namespace P4475

open Lib

namespace IdentityRegistry

variable {u : Unicode} {r r' : IdentityRegistry} {E : List Text}
  {leases : List IdentityOperationLease} {F : List MigrationCandidate}

/-! ## Validation -/

/-- Everything `validate_migration` checked about the permit it found. -/
structure Validated (r : IdentityRegistry) (session : SessionId) (ip : IpAddr)
    (userNo : UserNo) (channelId : Nat) (token : MigrationToken) (now : Instant)
    (v : ValidatedMigration) : Prop where
  session : r.sessionBindings.lookup session = none
  user : r.nameByUserNo.lookup userNo = some v.canonicalNickname
  active : r.activeByName.lookup v.canonicalNickname = some v.active
  permit : v.active.permit = some v.permit
  unexpired : now < v.permit.expiresAt
  userNo : v.permit.userNo = userNo
  channel : v.permit.channel.channelId = channelId
  token : v.permit.token = token
  sourceIp : v.permit.sourceIp = ip
  generation : v.permit.sourceGeneration = v.active.generation
  owner : ∀ s, v.active.owner = some s → s = v.permit.sourceSession

theorem validateMigration_ok {session : SessionId} {ip : IpAddr} {userNo : UserNo}
    {channelId : Nat} {token : MigrationToken} {now : Instant} {v : ValidatedMigration}
    (h : r.validateMigration session ip userNo channelId token now = .ok v) :
    r.Validated session ip userNo channelId token now v := by
  unfold validateMigration at h
  split at h
  next => exact absurd h (by simp)
  next hs =>
    split at h
    next => exact absurd h (by simp)
    next key hk =>
      split at h
      next => exact absurd h (by simp)
      next a ha =>
        split at h
        next => exact absurd h (by simp)
        next p hp =>
          split_ifs at h with h₁ h₂ h₃ h₄ h₅ h₆
          cases h
          simp only [ne_eq, not_or, Decidable.not_not] at h₂ h₃ h₄ h₅ h₆
          refine ⟨hs, hk, ha, hp, Nat.lt_of_not_le h₁, h₂, h₃, h₄, h₅, h₆.1, ?_⟩
          intro s hso
          have hany := h₆.2
          rw [hso] at hany
          simpa using hany

/-- What the second validation adds: the record is still the one the preflight
froze, its gate is drained, and one more generation is available. -/
structure Revalidated (r : IdentityRegistry) (preflight : MigrationPreflight)
    (now : Instant) (v : ValidatedMigration) : Prop where
  validated : r.Validated preflight.destinationSession preflight.destinationIp
    preflight.userNo preflight.channelId preflight.token now v
  result : r.validateMigration preflight.destinationSession preflight.destinationIp
    preflight.userNo preflight.channelId preflight.token now = .ok v
  nickname : v.canonicalNickname = preflight.canonicalNickname
  channel : v.permit.channel = preflight.channel
  generation : v.permit.sourceGeneration = preflight.sourceGeneration
  sourceSession : v.permit.sourceSession = preflight.sourceSession
  expiresAt : v.permit.expiresAt = preflight.expiresAt
  displayName : v.active.known.nickname = preflight.nickname
  transfer : v.active.transferInProgress = some preflight.transferId
  gate : v.active.operationGate = preflight.drainGate
  frozen : (r.gates preflight.drainGate).state = preflight.transferId.get
  drained : (r.gates preflight.drainGate).activeOperations = 0
  available : r.nextGeneration ≠ 0 ∧ r.nextGeneration + 1 ≤ u64Max

theorem validatePreflightedMigration_ok {preflight : MigrationPreflight} {now : Instant}
    (h : r.validatePreflightedMigration preflight now = .ok ()) :
    ∃ v, r.Revalidated preflight now v := by
  unfold validatePreflightedMigration at h
  split at h
  next => exact absurd h (by simp)
  next v hv =>
    split_ifs at h with h₁ h₂ h₃
    simp only [ne_eq, not_or, Decidable.not_not, Bool.not_eq_false] at h₁ h₂ h₃
    obtain ⟨hkey, hname, _, hch, hgen, hsrc, hexp, ht, hγ, hf⟩ := h₁
    refine ⟨v, {
      validated := validateMigration_ok hv
      result := hv
      nickname := hkey
      channel := hch
      generation := hgen
      sourceSession := hsrc
      expiresAt := hexp
      displayName := hname
      transfer := ht
      gate := hγ
      frozen := by simpa [IdentityOperationGate.isFrozenBy] using hf
      drained := by simpa [IdentityOperationGate.isDrained] using h₂
      available := ⟨h₃.1, Nat.le_of_not_lt h₃.2⟩ }⟩

/-! ## Freezing and thawing -/

/-- A record with its transfer flag rewritten and its gate word to match. -/
def withTransfer (r : IdentityRegistry) (key : Text) (a : ActiveIdentity)
    (transfer : Option MigrationTransferId) (word : Nat) : IdentityRegistry :=
  (r.setGate a.operationGate { r.gates a.operationGate with state := word }).setActive key
    { a with transferInProgress := transfer }

/-- Rewriting flag and word together keeps the invariant when they match. -/
theorem withTransfer_inv (h : r.Inv u E leases F) {key : Text} {a : ActiveIdentity}
    {transfer : Option MigrationTransferId} {word : Nat}
    (ha : r.activeByName.lookup key = some a)
    (hp : transfer.isSome → a.permit.isSome)
    (hm : GateMatches transfer { r.gates a.operationGate with state := word }) :
    (r.withTransfer key a transfer word).Inv u E leases F := by
  have hr := h.record ha
  have hw : word ≠ IdentityOperationGate.retired := by
    cases transfer with
    | none =>
      have hopen : word = IdentityOperationGate.open_ := hm
      rw [hopen]
      decide
    | some t => exact hm.2.2
  refine ⟨h.directory.frame rfl rfl rfl, h.record.adjust h.live ha ?_,
    h.live.adjust ha rfl rfl rfl hw⟩
  exact {
    known := hr.known
    bound := hr.bound
    permit := fun p hp => ⟨(hr.permit p hp).userNo, (hr.permit p hp).generation,
      (hr.permit p hp).sourceIp, (hr.permit p hp).session⟩
    ownerless := hr.ownerless
    transfer := hp
    gate := by
      show GateMatches transfer ((r.setGate a.operationGate _).gates a.operationGate)
      rw [setGate_gates, if_pos rfl]
      exact hm }

/-- The registry a successful preflight leaves behind. -/
def frozen (r : IdentityRegistry) (key : Text) (a : ActiveIdentity) : IdentityRegistry :=
  ({ r with nextTransferId := r.nextTransferId + 1 }).withTransfer key a
    (some ⟨r.nextTransferId⟩) r.nextTransferId

/-- The registry with a frozen record opened again. -/
def thawed (r : IdentityRegistry) (key : Text) (a : ActiveIdentity) : IdentityRegistry :=
  r.withTransfer key a none IdentityOperationGate.open_

/-- The ticket a successful preflight hands out. -/
def ticket (r : IdentityRegistry) (session : SessionId) (ip : IpAddr) (userNo : UserNo)
    (channelId : Nat) (token : MigrationToken) (v : ValidatedMigration) : MigrationPreflight where
  transferId := ⟨r.nextTransferId⟩
  destinationSession := session
  destinationIp := ip
  userNo := userNo
  channelId := channelId
  channel := v.permit.channel
  token := token
  sourceGeneration := v.permit.sourceGeneration
  sourceState := .fromOwner v.active.owner
  sourceSession := v.permit.sourceSession
  expiresAt := v.permit.expiresAt
  nickname := v.active.known.nickname
  canonicalNickname := v.canonicalNickname
  drainGate := v.active.operationGate

/-- Every way a preflight can end. On an error the transfer counter may have
moved; nothing else has. -/
theorem preflightMigration_cases (r : IdentityRegistry) (session : SessionId) (ip : IpAddr)
    (userNo : UserNo) (channelId : Nat) (token : MigrationToken) (now : Instant) :
    (∃ e n, r.nextTransferId ≤ n ∧
      r.preflightMigration session ip userNo channelId token now =
        (.error e, { r with nextTransferId := n })) ∨
    (∃ v, r.validateMigration session ip userNo channelId token now = .ok v ∧
      v.active.transferInProgress = none ∧ r.nextTransferId ≠ 0 ∧
      r.nextTransferId + 1 ≤ u64Max ∧
      (r.gates v.active.operationGate).state = IdentityOperationGate.open_ ∧
      r.preflightMigration session ip userNo channelId token now =
        (.ok (r.ticket session ip userNo channelId token v),
          r.frozen v.canonicalNickname v.active)) := by
  unfold preflightMigration
  split
  next => exact Or.inl ⟨_, _, Nat.le_refl _, rfl⟩
  next v hv =>
    have hval := validateMigration_ok hv
    split
    next => exact Or.inl ⟨_, _, Nat.le_refl _, rfl⟩
    next ht =>
      unfold allocateTransferId
      by_cases hmax : r.nextTransferId + 1 ≤ u64Max
      · by_cases h0 : r.nextTransferId = 0
        · rw [if_pos hmax, if_pos h0]
          exact Or.inl ⟨_, _, Nat.le_succ _, rfl⟩
        · rw [if_pos hmax, if_neg h0]
          dsimp only
          rw [hval.active]
          dsimp only
          by_cases hfree : (r.gates v.active.operationGate).state = IdentityOperationGate.open_
          · rw [if_neg (by simp [hval.generation])]
            refine Or.inr ⟨v, hv, by simpa using ht, h0, hmax, hfree, ?_⟩
            simp only [IdentityOperationGate.freeze, hfree, if_true]
            rfl
          · rw [if_neg (by simp [hval.generation])]
            refine Or.inl ⟨.staleMigrationPreflight, r.nextTransferId + 1, Nat.le_succ _, ?_⟩
            simp only [IdentityOperationGate.freeze, hfree, if_false]
            exact congrArg _ (setGate_self (r := { r with nextTransferId := r.nextTransferId + 1 })
              v.active.operationGate)
      · rw [if_neg hmax]
        exact Or.inl ⟨_, _, Nat.le_refl _, rfl⟩

theorem frozen_inv (h : r.Inv u E leases F) {key : Text} {a : ActiveIdentity}
    (ha : r.activeByName.lookup key = some a) (hp : a.permit.isSome)
    (h0 : r.nextTransferId ≠ 0) (hmax : r.nextTransferId + 1 ≤ u64Max) :
    (r.frozen key a).Inv u E leases F := by
  have hb : ({ r with nextTransferId := r.nextTransferId + 1 } : IdentityRegistry).Inv
      u E leases F := h.bump rfl rfl rfl rfl rfl rfl rfl (Nat.le_refl _) (Nat.le_refl _)
  exact withTransfer_inv hb ha (fun _ => hp) ⟨rfl, h0, Nat.ne_of_lt hmax⟩

theorem preflightMigration_inv (h : r.Inv u E leases F) (session : SessionId) (ip : IpAddr)
    (userNo : UserNo) (channelId : Nat) (token : MigrationToken) (now : Instant) :
    (r.preflightMigration session ip userNo channelId token now).2.Inv u E leases F := by
  rcases preflightMigration_cases r session ip userNo channelId token now with
    ⟨e, n, _, he⟩ | ⟨v, hv, _, h0, hmax, _, he⟩
  · rw [he]
    exact h.bump rfl rfl rfl rfl rfl rfl rfl (Nat.le_refl _) (Nat.le_refl _)
  · have hval := validateMigration_ok hv
    rw [he]
    exact frozen_inv h hval.active (by rw [hval.permit]; rfl) h0 hmax

/-- An abort thaws the exact transfer its ticket froze, or does nothing. -/
theorem abortPreflightedMigration_cases (r : IdentityRegistry)
    (preflight : MigrationPreflight) :
    (r.abortPreflightedMigration preflight = (false, r)) ∨
    (∃ a, r.activeByName.lookup preflight.canonicalNickname = some a ∧
      a.transferInProgress = some preflight.transferId ∧
      a.operationGate = preflight.drainGate ∧ a.generation = preflight.sourceGeneration ∧
      (r.gates a.operationGate).state = preflight.transferId.get ∧
      r.abortPreflightedMigration preflight =
        (true, r.thawed preflight.canonicalNickname a)) := by
  unfold abortPreflightedMigration
  split
  next => exact Or.inl rfl
  next a ha =>
    split_ifs with hc
    · exact Or.inl rfl
    · simp only [ne_eq, not_or, Decidable.not_not] at hc
      by_cases hw : (r.gates a.operationGate).state = preflight.transferId.get
      · refine Or.inr ⟨a, ha, hc.2.2.1, hc.2.2.2.1, hc.1, hw, ?_⟩
        simp only [IdentityOperationGate.reopenExact, hw, if_true]
        rfl
      · refine Or.inl ?_
        simp only [IdentityOperationGate.reopenExact, hw, if_false]
        exact congrArg _ (setGate_self a.operationGate)

theorem thawed_inv (h : r.Inv u E leases F) {key : Text} {a : ActiveIdentity}
    (ha : r.activeByName.lookup key = some a) : (r.thawed key a).Inv u E leases F :=
  withTransfer_inv h ha (fun ht => absurd ht (by simp)) rfl

theorem abortPreflightedMigration_inv (h : r.Inv u E leases F) (preflight : MigrationPreflight) :
    (r.abortPreflightedMigration preflight).2.Inv u E leases F := by
  rcases abortPreflightedMigration_cases r preflight with he | ⟨a, ha, _, _, _, _, he⟩
  · rw [he]; exact h
  · rw [he]; exact thawed_inv h ha

/-! ## Preparing a candidate -/

/-- The registry a successful prepare leaves behind: one generation and one gate
further on. -/
def prepared (r : IdentityRegistry) : IdentityRegistry :=
  { r with
    nextGeneration := r.nextGeneration + 1
    nextGate := r.nextGate + 1
    gates := Function.update r.gates r.nextGate (.shared 0) }

/-- The candidate a successful prepare returns. -/
def candidateOf (r : IdentityRegistry) (preflight : MigrationPreflight)
    (v : ValidatedMigration) : MigrationCandidate where
  canonicalNickname := v.canonicalNickname
  operationGate := v.active.operationGate
  nextOperationGate := r.nextGate
  completion := {
    binding := {
      nickname := v.active.known.nickname
      userNo := v.active.known.userNo
      generation := ⟨r.nextGeneration⟩
      owner := preflight.destinationSession
      sourceIp := preflight.destinationIp
      channel := some v.permit.channel }
    previousBinding := identityBinding v.active v.permit.sourceSession
    previousIdentity := releasedIdentity v.active
    previousOwner := v.active.owner }

theorem prepareCandidate_cases (r : IdentityRegistry) (preflight : MigrationPreflight)
    (now : Instant) (reserve : Bool) :
    (∃ e n, r.nextGeneration ≤ n ∧ r.prepareCandidate preflight now reserve =
      (.error e, { r with nextGeneration := n })) ∨
    (∃ v, r.Revalidated preflight now v ∧ r.prepareCandidate preflight now reserve =
      (.ok (r.candidateOf preflight v), r.prepared)) := by
  unfold prepareCandidate
  split
  next => exact Or.inl ⟨_, _, Nat.le_refl _, rfl⟩
  next _ hok =>
    obtain ⟨v, hv⟩ := validatePreflightedMigration_ok hok
    rw [hv.result]
    dsimp only
    unfold allocateGeneration
    rw [if_pos hv.available.2, if_neg hv.available.1]
    dsimp only
    cases reserve with
    | false => exact Or.inl ⟨_, _, Nat.le_succ _, rfl⟩
    | true => exact Or.inr ⟨v, hv, rfl⟩

/-- A prepared candidate is unpublished: its generation and gate are new. -/
theorem prepared_inv (h : r.Inv u E leases F) {preflight : MigrationPreflight}
    {now : Instant} {v : ValidatedMigration} (hv : r.Revalidated preflight now v) :
    r.prepared.Inv u E leases (F ++ [r.candidateOf preflight v]) := by
  have hgates : ∀ {γ}, γ < r.nextGate → r.prepared.gates γ = r.gates γ := by
    intro γ hγ
    exact Function.update_of_ne (Nat.ne_of_lt hγ) _ _
  have hnew : r.prepared.gates r.nextGate = .shared 0 := Function.update_self ..
  have hlive : ∀ {k g γ}, r.prepared.Live k g γ ↔ r.Live k g γ := Iff.rfl
  refine ⟨h.directory.frame rfl rfl rfl,
    h.record.frame rfl (Knows.of_eq rfl) rfl ?_, ?_⟩
  · intro k a ha
    rw [hgates (h.live.bounded (Live.of_active ha)).2]
  · have hold : ∀ c ∈ F, r.prepared.FreshOk u c := by
      intro c hc
      have hf := h.live.candidates c hc
      exact {
        known := hf.known
        previous := hf.previous
        later := hf.later
        bounded := ⟨Nat.lt_succ_of_lt hf.bounded.1, Nat.lt_succ_of_lt hf.bounded.2⟩
        generation := fun hl => hf.generation (hlive.mp hl)
        gate := fun hl => hf.gate (hlive.mp hl)
        opened := by rw [hgates hf.bounded.2]; exact hf.opened }
    have hrec := hv.validated.active
    exact {
      generation := h.live.generation
      gate := h.live.gate
      bounded := fun hl =>
        have hb := h.live.bounded (hlive.mp hl)
        ⟨Nat.lt_succ_of_lt hb.1, Nat.lt_succ_of_lt hb.2⟩
      unretired := fun hl => by
        rw [hgates (h.live.bounded (hlive.mp hl)).2]
        exact h.live.unretired (hlive.mp hl)
      draining := h.live.draining
      inactive := h.live.inactive
      lease := h.live.lease
      count := by
        intro γ
        by_cases he : γ = r.nextGate
        · rw [he, hnew]
          symm
          show leases.countP _ = 0
          rw [List.countP_eq_zero]
          intro l hl
          obtain ⟨k, hk⟩ := h.live.lease l hl
          simpa using Nat.ne_of_lt (h.live.bounded hk).2
        · rw [show r.prepared.gates γ = r.gates γ from Function.update_of_ne he _ _]
          exact h.live.count γ
      candidates := by
        intro c hc
        rcases List.mem_append.mp hc with hm | hm
        · exact hold c hm
        · rw [List.mem_singleton] at hm
          subst hm
          exact {
            known := (h.record hrec).known
            previous := rfl
            later := (h.live.bounded (Live.of_active hrec)).1
            bounded := ⟨Nat.lt_succ_self _, Nat.lt_succ_self _⟩
            generation := fun hl =>
              absurd (h.live.bounded (hlive.mp hl)).1 (Nat.lt_irrefl _)
            gate := fun hl =>
              absurd (h.live.bounded (hlive.mp hl)).2 (Nat.lt_irrefl _)
            opened := by
              show (r.prepared.gates r.nextGate).state = _
              rw [hnew]
              rfl }
      apart := by
        rw [List.pairwise_append]
        refine ⟨h.live.apart, List.pairwise_singleton _ _, ?_⟩
        intro c hc d hd
        rw [List.mem_singleton] at hd
        subst hd
        have hf := (h.live.candidates c hc).bounded
        exact ⟨fun he => Nat.ne_of_lt hf.1 (congrArg IdentityGeneration.get he),
          Nat.ne_of_lt hf.2⟩ }

/-- Every way a prepare can end: on an error the exact transfer is thawed. -/
theorem preparePreflightedMigration_cases (r : IdentityRegistry)
    (preflight : MigrationPreflight) (now : Instant) (reserve : Bool) :
    (∃ e n, r.nextGeneration ≤ n ∧ r.preparePreflightedMigration preflight now reserve =
      (.error e, (({ r with nextGeneration := n }).abortPreflightedMigration preflight).2)) ∨
    (∃ v, r.Revalidated preflight now v ∧ r.preparePreflightedMigration preflight now reserve =
      (.ok (r.candidateOf preflight v), r.prepared)) := by
  unfold preparePreflightedMigration
  rcases prepareCandidate_cases r preflight now reserve with ⟨e, n, hn, he⟩ | ⟨v, hv, he⟩
  · rw [he]
    exact Or.inl ⟨e, n, hn, rfl⟩
  · rw [he]
    exact Or.inr ⟨v, hv, rfl⟩

/-! ## Locking -/

/-- The guard that locking `candidate` under `preflight` returns. -/
def commitOf (preflight : MigrationPreflight) (candidate : MigrationCandidate) :
    IdentityMigrationCommit where
  canonicalNickname := candidate.canonicalNickname
  transferId := preflight.transferId
  destinationSession := preflight.destinationSession
  channel := preflight.channel
  operationGate := candidate.operationGate
  nextOperationGate := candidate.nextOperationGate
  completion := candidate.completion

@[simp] theorem commitOf_candidate (preflight : MigrationPreflight)
    (candidate : MigrationCandidate) : (commitOf preflight candidate).candidate = candidate := rfl

/-- Every way a lock can end: it fails and thaws, or it returns a guard whose
record is frozen, drained and still the candidate's source. -/
theorem lockPreparedMigration_cases (r : IdentityRegistry) (preflight : MigrationPreflight)
    (candidate : MigrationCandidate) (now : Instant) :
    (∃ e, r.lockPreparedMigration preflight candidate now =
      (.error e, (r.abortPreflightedMigration preflight).2)) ∨
    (∃ v, r.Revalidated preflight now v ∧
      r.GuardOk (commitOf preflight candidate) v.active ∧
      r.lockPreparedMigration preflight candidate now =
        (.ok (commitOf preflight candidate), r)) := by
  unfold lockPreparedMigration
  split
  next => exact Or.inl ⟨_, rfl⟩
  next _ hok =>
    obtain ⟨v, hv⟩ := validatePreflightedMigration_ok hok
    split_ifs with hc
    · exact Or.inl ⟨_, rfl⟩
    · simp only [ne_eq, not_or, Decidable.not_not] at hc
      obtain ⟨hkey, howner, _, hchannel, hgen, hgate⟩ := hc
      have hrec : r.activeByName.lookup candidate.canonicalNickname = some v.active := by
        rw [hkey, ← hv.nickname]
        exact hv.validated.active
      rw [hrec]
      refine Or.inr ⟨v, hv, {
        record := hrec
        transfer := hv.transfer
        gate := hv.gate.trans hgate.symm
        drained := by
          show (r.gates candidate.operationGate).activeOperations = 0
          rw [hgate]
          exact hv.drained
        session := hv.validated.session
        owner := howner
        channel := hchannel
        generation := ?_ }, rfl⟩
      show candidate.completion.previousBinding.generation = _
      rw [hgen, ← hv.generation]
      exact hv.validated.generation

theorem lockPreparedMigration_inv (h : r.Inv u E leases F) (preflight : MigrationPreflight)
    (candidate : MigrationCandidate) (now : Instant) :
    (r.lockPreparedMigration preflight candidate now).2.Inv u E leases F := by
  rcases lockPreparedMigration_cases r preflight candidate now with ⟨e, he⟩ | ⟨v, _, _, he⟩
  · rw [he]; exact abortPreflightedMigration_inv h preflight
  · rw [he]; exact h

/-! ## Committing -/

/-- The record a commit publishes in place of `a`. -/
def successor (a : ActiveIdentity) (commit : IdentityMigrationCommit) : ActiveIdentity :=
  { a with
    generation := commit.completion.binding.generation
    owner := some commit.destinationSession
    ownerIp := commit.completion.binding.sourceIp
    channel := some commit.channel
    permit := none
    transferInProgress := none
    operationGate := commit.nextOperationGate }

/-- The gate words after a commit: the successor's epoch, and the source retired. -/
def committedGates (r : IdentityRegistry) (commit : IdentityMigrationCommit) (epoch : Nat) :
    IdentityRegistry :=
  (r.setGate commit.nextOperationGate
      { r.gates commit.nextOperationGate with activatedUdpEpoch := epoch }).setGate
    commit.operationGate
    { r.gates commit.operationGate with state := IdentityOperationGate.retired }

/-- The registry a commit leaves behind. -/
def committed (r : IdentityRegistry) (commit : IdentityMigrationCommit) (a : ActiveIdentity)
    (epoch : Nat) : IdentityRegistry :=
  { (r.committedGates commit epoch).setActive commit.canonicalNickname (successor a commit) with
    sessionBindings := r.sessionBindings.insert commit.destinationSession
      commit.completion.binding }

variable {commit : IdentityMigrationCommit} {a : ActiveIdentity}

/-- The candidate's gate is not the one its commit retires. -/
theorem GuardOk.gate_ne (hg : r.GuardOk commit a) (hf : r.FreshOk u commit.candidate) :
    commit.nextOperationGate ≠ commit.operationGate := by
  intro he
  have hl := Live.of_active hg.record
  rw [hg.gate, ← he] at hl
  exact hf.gate hl

/-- The assertion inside `commit` never fires: the borrow kept the source frozen
and drained. -/
theorem commitMigration_eq (h : r.Inv u E leases (commit.candidate :: F))
    (hg : r.GuardOk commit a) (epoch : Nat) :
    r.commitMigration commit epoch = (.ok commit.completion, r.committed commit a epoch) := by
  have hf := h.live.candidates _ (List.mem_cons_self ..)
  have hne := hg.gate_ne hf
  have hword : (r.gates commit.operationGate).state = commit.transferId.get := by
    have hm := (h.record hg.record).gate
    rw [hg.transfer, hg.gate] at hm
    exact hm.1
  unfold commitMigration
  dsimp only
  rw [setGate_gates, if_neg (Ne.symm hne), IdentityOperationGate.retireExact_eq,
    if_pos ⟨hg.drained, hword⟩]
  dsimp only
  rw [show ((r.setGate _ _).setGate _ _).activeByName.lookup commit.canonicalNickname
    = some a from hg.record]
  rfl

theorem committed_gates_state {epoch : Nat} {γ : GateRef} (hγ : γ ≠ commit.operationGate) :
    ((r.committed commit a epoch).gates γ).state = (r.gates γ).state := by
  show (((r.setGate _ _).setGate _ _).gates γ).state = _
  rw [setGate_gates, if_neg hγ, setGate_gates]
  split
  next he => rw [he]
  next => rfl

theorem committed_gates_count {epoch : Nat} {γ : GateRef} :
    ((r.committed commit a epoch).gates γ).activeOperations =
      (r.gates γ).activeOperations := by
  show (((r.setGate _ _).setGate _ _).gates γ).activeOperations = _
  rw [setGate_gates]
  split
  next he => rw [he]
  next =>
    rw [setGate_gates]
    split
    next he => rw [he]
    next => rfl

/-- After a commit its key holds the new generation and gate; every other key is
as it was. -/
theorem live_committed (h : r.LiveInv u leases F) (hg : r.GuardOk commit a) {epoch : Nat}
    {k : Text} {g : IdentityGeneration} {γ : GateRef} :
    (r.committed commit a epoch).Live k g γ ↔
      (k = commit.canonicalNickname ∧ g = commit.completion.binding.generation ∧
        γ = commit.nextOperationGate) ∨
      (k ≠ commit.canonicalNickname ∧ r.Live k g γ) := by
  have hdef : ∀ d ∈ r.deferredReleases, d.canonicalNickname ≠ commit.canonicalNickname := by
    intro d hd he
    have hi := h.inactive d hd
    rw [he, hg.record] at hi
    exact absurd hi (by simp)
  have hlook : ∀ k', (r.committed commit a epoch).activeByName.lookup k' =
      if k' = commit.canonicalNickname then some (successor a commit)
        else r.activeByName.lookup k' := fun k' => setActive_lookup _ _ _
  constructor
  · rintro (⟨b, hb, rfl, rfl⟩ | ⟨d, hd, rfl, rfl, rfl⟩)
    · rw [hlook] at hb
      split at hb
      next he => cases hb; exact Or.inl ⟨he, rfl, rfl⟩
      next he => exact Or.inr ⟨he, Live.of_active hb⟩
    · exact Or.inr ⟨hdef d hd, Live.of_deferred hd⟩
  · rintro (⟨rfl, rfl, rfl⟩ | ⟨hk, ⟨b, hb, hbg, hbγ⟩ | hd⟩)
    · exact Or.inl ⟨successor a commit, by rw [hlook, if_pos rfl], rfl, rfl⟩
    · exact Or.inl ⟨b, by rw [hlook, if_neg hk]; exact hb, hbg, hbγ⟩
    · exact Or.inr hd

theorem committed_record (h : r.Inv u E leases (commit.candidate :: F))
    (hg : r.GuardOk commit a) (epoch : Nat) : (r.committed commit a epoch).RecordInv E := by
  have hf := h.live.candidates _ (List.mem_cons_self ..)
  have hne := hg.gate_ne hf
  have hold := h.record hg.record
  have hknown : a.known = ⟨commit.completion.binding.nickname,
      commit.completion.binding.userNo⟩ :=
    Option.some.inj (hold.known.symm.trans hf.known)
  have hlook : ∀ k, (r.committed commit a epoch).activeByName.lookup k =
      if k = commit.canonicalNickname then some (successor a commit)
        else r.activeByName.lookup k := fun k => setActive_lookup _ _ _
  refine h.record.update commit.canonicalNickname (Knows.of_eq rfl) ?_ ?_ ?_ (fun _ hE => hE) ?_
  · intro k b hk hb
    rw [hlook, if_neg hk] at hb
    exact hb
  · intro k b s _ hb hs
    show (Finmap.insert _ _ r.sessionBindings).lookup s = _
    rw [Map.lookup_insert_ite, if_neg]
    intro he
    have hbs := (h.record hb).bound s hs
    rw [he, hg.session] at hbs
    exact absurd hbs (by simp)
  · intro k b hk hb
    refine committed_gates_state ?_
    intro he
    have hl := Live.of_active hb
    rw [he, ← hg.gate] at hl
    exact hk (h.live.gate hl (Live.of_active hg.record))
  · intro b hb
    rw [hlook, if_pos rfl] at hb
    cases hb
    exact {
      known := hold.known
      bound := by
        intro s hs
        cases hs
        show (Finmap.insert _ _ r.sessionBindings).lookup _ = _
        rw [Map.lookup_insert_ite, if_pos rfl]
        simp only [identityBinding, successor, hknown, ← hg.owner, ← hg.channel]
      permit := fun p hp => absurd hp (by simp [successor])
      ownerless := fun ho => absurd ho (by simp [successor])
      transfer := fun ht => absurd ht (by simp [successor])
      gate := by
        show ((r.committed commit a epoch).gates commit.nextOperationGate).state = _
        rw [committed_gates_state hne]
        exact hf.opened }

/-- **A commit moves the key from its old generation to its candidate's.** -/
theorem committed_inv (h : r.Inv u E leases (commit.candidate :: F))
    (hg : r.GuardOk commit a) (epoch : Nat) :
    (r.committed commit a epoch).Inv u E leases F := by
  have hf := h.live.candidates _ (List.mem_cons_self ..)
  have hne := hg.gate_ne hf
  have hsource := Live.of_active hg.record
  rw [hg.gate] at hsource
  have hapart := List.pairwise_cons.mp h.live.apart
  have hother : ∀ {k g γ}, k ≠ commit.canonicalNickname → r.Live k g γ →
      γ ≠ commit.operationGate := by
    intro k g γ hk hl he
    rw [he] at hl
    exact hk (h.live.gate hl hsource)
  refine ⟨h.directory.frame rfl rfl rfl, committed_record h hg epoch, ?_⟩
  exact {
    generation := by
      intro k k' g γ γ' h₁ h₂
      rcases (live_committed h.live hg).mp h₁ with ⟨hk₁, hg₁, _⟩ | ⟨_, hl₁⟩
      · rcases (live_committed h.live hg).mp h₂ with ⟨hk₂, _, _⟩ | ⟨_, hl₂⟩
        · exact hk₁.trans hk₂.symm
        · exact absurd (hg₁ ▸ hl₂) hf.generation
      · rcases (live_committed h.live hg).mp h₂ with ⟨_, hg₂, _⟩ | ⟨_, hl₂⟩
        · exact absurd (hg₂ ▸ hl₁) hf.generation
        · exact h.live.generation hl₁ hl₂
    gate := by
      intro k k' g g' γ h₁ h₂
      rcases (live_committed h.live hg).mp h₁ with ⟨hk₁, _, hγ₁⟩ | ⟨_, hl₁⟩
      · rcases (live_committed h.live hg).mp h₂ with ⟨hk₂, _, _⟩ | ⟨_, hl₂⟩
        · exact hk₁.trans hk₂.symm
        · exact absurd (hγ₁ ▸ hl₂) hf.gate
      · rcases (live_committed h.live hg).mp h₂ with ⟨_, _, hγ₂⟩ | ⟨_, hl₂⟩
        · exact absurd (hγ₂ ▸ hl₁) hf.gate
        · exact h.live.gate hl₁ hl₂
    bounded := by
      intro k g γ hl
      rcases (live_committed h.live hg).mp hl with ⟨_, hg', hγ'⟩ | ⟨_, hl⟩
      · rw [hg', hγ']
        exact hf.bounded
      · exact h.live.bounded hl
    unretired := by
      intro k g γ hl
      rcases (live_committed h.live hg).mp hl with ⟨_, _, hγ'⟩ | ⟨hk, hl⟩
      · rw [hγ', committed_gates_state hne, show (r.gates commit.nextOperationGate).state = _ from hf.opened]
        decide
      · rw [committed_gates_state (hother hk hl)]
        exact h.live.unretired hl
    draining := h.live.draining
    inactive := by
      intro d hd
      have hi := h.live.inactive d hd
      rw [show (r.committed commit a epoch).activeByName.lookup d.canonicalNickname = _ from
        setActive_lookup _ _ _, if_neg]
      · exact hi
      · intro he
        rw [he, hg.record] at hi
        exact absurd hi (by simp)
    lease := by
      intro l hl
      obtain ⟨k, hk⟩ := h.live.lease l hl
      refine ⟨k, (live_committed h.live hg).mpr (Or.inr ⟨?_, hk⟩)⟩
      intro he
      rw [he] at hk
      exact h.live.no_lease hg.drained l hl (h.live.key hk hsource).2
    count := fun γ => by
      rw [committed_gates_count]
      exact h.live.count γ
    candidates := by
      intro c hc
      have hcf := h.live.candidates c (List.mem_cons_of_mem _ hc)
      have hcapart := hapart.1 c hc
      exact {
        known := hcf.known
        previous := hcf.previous
        later := hcf.later
        bounded := hcf.bounded
        generation := by
          intro k γ hl
          rcases (live_committed h.live hg).mp hl with ⟨_, hgen, _⟩ | ⟨_, hl⟩
          · exact hcapart.1 hgen.symm
          · exact hcf.generation hl
        gate := by
          intro k g hl
          rcases (live_committed h.live hg).mp hl with ⟨_, _, hγ⟩ | ⟨_, hl⟩
          · exact hcapart.2 hγ.symm
          · exact hcf.gate hl
        opened := by
          rw [committed_gates_state]
          · exact hcf.opened
          · intro he
            rw [← he] at hsource
            exact hcf.gate hsource }
    apart := hapart.2 }

/-- A guard dropped before its commit thaws its record. -/
theorem dropMigrationCommit_eq (h : r.Inv u E leases F) (hg : r.GuardOk commit a) :
    r.dropMigrationCommit commit = r.thawed commit.canonicalNickname a := by
  have hword : (r.gates commit.operationGate).state = commit.transferId.get := by
    have hm := (h.record hg.record).gate
    rw [hg.transfer, hg.gate] at hm
    exact hm.1
  unfold dropMigrationCommit
  rw [hg.record]
  dsimp only
  rw [if_pos ⟨hg.transfer, hg.gate⟩]
  simp only [IdentityOperationGate.reopenExact, hword, if_true]
  unfold thawed withTransfer
  rw [hg.gate]
  rfl

theorem dropMigrationCommit_inv (h : r.Inv u E leases F) (hg : r.GuardOk commit a) :
    (r.dropMigrationCommit commit).Inv u E leases F := by
  rw [dropMigrationCommit_eq h hg]
  exact thawed_inv h hg.record

/-! ## The one-call migration -/

/-- Every way the completion of a preflighted migration can end. The candidate
never leaves the call, so the only published outcome is a commit. -/
theorem completePreflighted_cases (h : r.Inv u E leases F) (preflight : MigrationPreflight)
    (now : Instant) (epoch : Nat) (reserve : Bool) :
    (∃ e n, r.nextGeneration ≤ n ∧
      r.completePreflightedMigrationAtUdpEpoch preflight now epoch reserve =
        (.error e, (({ r with nextGeneration := n }).abortPreflightedMigration preflight).2)) ∨
    (∃ e v, r.Revalidated preflight now v ∧
      r.completePreflightedMigrationAtUdpEpoch preflight now epoch reserve =
        (.error e, (r.prepared.abortPreflightedMigration preflight).2)) ∨
    (∃ v, r.Revalidated preflight now v ∧
      r.prepared.GuardOk (commitOf preflight (r.candidateOf preflight v)) v.active ∧
      r.completePreflightedMigrationAtUdpEpoch preflight now epoch reserve =
        (.ok (r.candidateOf preflight v).completion,
          r.prepared.committed (commitOf preflight (r.candidateOf preflight v))
            v.active epoch)) := by
  unfold completePreflightedMigrationAtUdpEpoch
  rcases preparePreflightedMigration_cases r preflight now reserve with
    ⟨e, n, hn, he⟩ | ⟨v, hv, he⟩
  · rw [he]
    exact Or.inl ⟨e, n, hn, rfl⟩
  · rw [he]
    dsimp only
    have hp := prepared_inv h hv
    rcases lockPreparedMigration_cases r.prepared preflight (r.candidateOf preflight v) now with
      ⟨e, hl⟩ | ⟨w, hw, hg, hl⟩
    · rw [hl]
      exact Or.inr (Or.inl ⟨e, v, hv, rfl⟩)
    · have hva : w.active = v.active := by
        have h₁ := hg.record
        have h₂ : r.prepared.activeByName.lookup v.canonicalNickname = some v.active :=
          hv.validated.active
        exact Option.some.inj (h₁.symm.trans h₂)
      rw [hva] at hg
      rw [hl]
      dsimp only
      have hp' : r.prepared.Inv u E leases
          ((commitOf preflight (r.candidateOf preflight v)).candidate :: []) := by
        refine hp.sublist ?_
        exact List.sublist_append_right _ _
      rw [commitMigration_eq hp' hg]
      exact Or.inr (Or.inr ⟨v, hv, hg, rfl⟩)

theorem completePreflighted_inv (h : r.Inv u E leases F) (preflight : MigrationPreflight)
    (now : Instant) (epoch : Nat) (reserve : Bool) :
    (r.completePreflightedMigrationAtUdpEpoch preflight now epoch reserve).2.Inv u E
      leases F := by
  rcases completePreflighted_cases h preflight now epoch reserve with
    ⟨e, n, hn, he⟩ | ⟨e, v, hv, he⟩ | ⟨v, hv, hg, he⟩
  · rw [he]
    have hb : ({ r with nextGeneration := n } : IdentityRegistry).Inv u E leases F :=
      h.bump rfl rfl rfl rfl rfl rfl rfl hn (Nat.le_refl _)
    exact abortPreflightedMigration_inv hb preflight
  · rw [he]
    have hp := (prepared_inv h hv).sublist (List.sublist_append_left _ _)
    exact abortPreflightedMigration_inv hp preflight
  · rw [he]
    have hp := (prepared_inv h hv).perm List.perm_append_comm
    exact committed_inv hp hg epoch

end IdentityRegistry

end P4475
