import P4475.Identity.Handover

/-!
# Tickets

A preflight hands out a ticket and freezes the record that it names. The record can lose
the freeze while the ticket is held, but as long as it bears the ticket's transfer it is
the record that the preflight froze: nothing else moves a frozen record. So an abort
undoes exactly the freeze of its ticket, or there is nothing left to undo.
-/

namespace P4475

open Lib

namespace IdentityRegistry

variable {u : Unicode} {r r' r'' : IdentityRegistry} {E : List Text}
  {leases : List IdentityOperationLease} {F : List MigrationCandidate} {key : Text}
  {a a' : ActiveIdentity}

/-- What a transfer in progress pins of its record. -/
structure SameTransfer (a a' : ActiveIdentity) : Prop where
  transfer : a'.transferInProgress = a.transferInProgress
  generation : a'.generation = a.generation
  known : a'.known = a.known
  gate : a'.operationGate = a.operationGate
  permit : a'.permit = a.permit

theorem SameTransfer.refl (a : ActiveIdentity) : SameTransfer a a := ⟨rfl, rfl, rfl, rfl, rfl⟩

theorem SameTransfer.trans {b : ActiveIdentity} (h : SameTransfer a a') (h' : SameTransfer a' b) :
    SameTransfer a b where
  transfer := h'.transfer.trans h.transfer
  generation := h'.generation.trans h.generation
  known := h'.known.trans h.known
  gate := h'.gate.trans h.gate
  permit := h'.permit.trans h.permit

/-- Every transfer in progress was in progress before, on the same record, or is newer. -/
structure Transfers (r r' : IdentityRegistry) : Prop where
  next : r.nextTransferId ≤ r'.nextTransferId
  record : ∀ {key a' t}, r'.activeByName.lookup key = some a' → a'.transferInProgress = some t →
    t.get < r.nextTransferId → ∃ a, r.activeByName.lookup key = some a ∧ SameTransfer a a'

theorem Transfers.of_same (ha : r'.activeByName = r.activeByName)
    (hn : r.nextTransferId ≤ r'.nextTransferId) : Transfers r r' where
  next := hn
  record := by
    intro key a' t hl _ _
    rw [ha] at hl
    exact ⟨a', hl, .refl a'⟩

theorem Transfers.refl (r : IdentityRegistry) : Transfers r r := .of_same rfl (Nat.le_refl _)

theorem Transfers.trans (h : Transfers r r') (h' : Transfers r' r'') : Transfers r r'' where
  next := Nat.le_trans h.next h'.next
  record := by
    intro key c t hl ht hlt
    obtain ⟨b, hb, hbc⟩ := h'.record hl ht (Nat.lt_of_lt_of_le hlt h.next)
    have htb : b.transferInProgress = some t := hbc.transfer.symm.trans ht
    obtain ⟨a, ha, hab⟩ := h.record hb htb hlt
    exact ⟨a, ha, hab.trans hbc⟩

/-- A record is written that bears no old transfer, or one that it bore before. -/
theorem Transfers.set (hn : r'.nextTransferId = r.nextTransferId)
    (ha : r'.activeByName = r.activeByName.insert key a')
    (hold : ∀ t, a'.transferInProgress = some t → t.get < r.nextTransferId →
      ∃ a, r.activeByName.lookup key = some a ∧ SameTransfer a a') : Transfers r r' where
  next := Nat.le_of_eq hn.symm
  record := by
    intro k c t hl ht hlt
    rw [ha, Map.lookup_insert_ite] at hl
    by_cases hk : k = key
    · rw [if_pos hk] at hl
      cases hl
      rw [hk]
      exact hold t ht hlt
    · rw [if_neg hk] at hl
      exact ⟨c, hl, .refl c⟩

theorem setActive_transfers (ha : r.activeByName.lookup key = some a) (h : SameTransfer a a') :
    Transfers r (r.setActive key a') := .set rfl rfl fun _ _ _ => ⟨a, ha, h⟩

theorem clearActive_transfers (h : a'.transferInProgress = none) :
    Transfers r (r.setActive key a') := .set rfl rfl fun t ht => by
  rw [h] at ht
  exact absurd ht (by simp)

/-- A record is taken out, whatever becomes of it. -/
theorem Transfers.remove (hn : r'.nextTransferId = r.nextTransferId)
    (ha : r'.activeByName = r.activeByName.erase key) : Transfers r r' where
  next := Nat.le_of_eq hn.symm
  record := by
    intro k c t hl _ _
    by_cases hk : k = key
    · rw [ha, hk, Finmap.lookup_erase] at hl
      exact absurd hl (by simp)
    · rw [ha, Finmap.lookup_erase_ne hk] at hl
      exact ⟨c, hl, .refl c⟩

theorem dropRecord_transfers (word : Nat) : Transfers r (r.dropRecord key a word) :=
  .remove rfl rfl

theorem parkRecord_transfers (word : Nat) : Transfers r (r.parkRecord key a word) :=
  .remove rfl rfl

theorem setGate_transfers (g : GateRef) (gate : IdentityOperationGate) :
    Transfers r (r.setGate g gate) := .of_same rfl (Nat.le_refl _)

theorem thawed_transfers : Transfers r (r.thawed key a) := .set rfl rfl fun _ ht => nomatch ht

/-! ## The operations -/

theorem SameRecords.transfers (h : SameRecords r r') : Transfers r r' :=
  .of_same h.active (Nat.le_of_eq h.nextTransferId.symm)

theorem ensureKnownUserNo_transfers (h : r.KnownInv u) (nickname : Text) :
    Transfers r (r.ensureKnownUserNo u nickname).2 := (ensureKnownUserNo_same h nickname).1.transfers

theorem offlineMyroomBinding_transfers (h : r.KnownInv u) (nickname : Text) :
    Transfers r (r.offlineMyroomBinding u nickname).2 := by
  rcases offlineMyroomBinding_registry u r nickname with he | ⟨n, he⟩
  · rw [he]; exact .refl r
  · rw [he]; exact ensureKnownUserNo_transfers h n

theorem claimAt_transfers (h : r.KnownInv u) (session : SessionId) (ip : IpAddr) (nickname : Text)
    (epoch : Nat) : Transfers r (r.claimAt u session ip nickname epoch).2 := by
  rcases claimAt_cases u r session ip nickname epoch with ⟨e, he⟩ | ⟨n, _, _, _, hc⟩
  · rw [he]; exact .refl r
  · have hknown := ensureKnownUserNo_transfers h n
    rcases hc with ⟨e, he⟩ | ⟨known, _, he⟩
    · rw [he]; exact hknown
    · rw [he]
      refine hknown.trans ?_
      rcases activateClaim_cases (r.ensureKnownUserNo u n).2 (canonicalNicknameKey u n) known
        session ip epoch with ⟨e, hx⟩ | ⟨e, hx⟩ | hx
      · rw [hx]; exact .refl _
      · rw [hx]; exact .of_same rfl (Nat.le_refl _)
      · rw [hx]
        exact .set rfl rfl fun _ ht => nomatch ht

/-- An admission counts on a gate. -/
theorem transfers_of_gate (h : r' = r ∨ ∃ γ gate, r' = r.setGate γ gate) : Transfers r r' := by
  rcases h with rfl | ⟨γ, gate, rfl⟩
  · exact .refl _
  · exact setGate_transfers γ gate

/-- A permit is given to a record that no transfer holds. -/
theorem beginMigration_transfers (instantMax : Instant) (session : SessionId)
    (channel : ChannelBinding) (token : MigrationToken) (now : Instant) :
    Transfers r (r.beginMigration u instantMax session channel token now).2 := by
  rcases beginMigration_cases u r instantMax session channel token now with
    ⟨e, he⟩ | ⟨b, a, p, hb, ha, _, he⟩
  · rw [he]; exact .refl r
  · rw [he]
    obtain ⟨_, a', ha', _, _, hidle⟩ := authorize_ok u hb
    rw [ha] at ha'
    cases ha'
    exact clearActive_transfers hidle

/-- A freeze takes a number that no transfer in progress has. -/
theorem frozen_transfers : Transfers r (r.frozen key a) where
  next := Nat.le_succ _
  record := by
    intro k c t hl ht hlt
    have hl' : (r.activeByName.insert key
        { a with transferInProgress := some ⟨r.nextTransferId⟩ }).lookup k = some c := hl
    rw [Map.lookup_insert_ite] at hl'
    by_cases hk : k = key
    · rw [if_pos hk] at hl'
      cases hl'
      cases ht
      exact absurd hlt (Nat.lt_irrefl _)
    · rw [if_neg hk] at hl'
      exact ⟨c, hl', .refl c⟩

theorem preflightMigration_transfers (session : SessionId) (ip : IpAddr) (userNo : UserNo)
    (channelId : Nat) (token : MigrationToken) (now : Instant) :
    Transfers r (r.preflightMigration session ip userNo channelId token now).2 := by
  rcases preflightMigration_cases r session ip userNo channelId token now with
    ⟨e, n, hn, he⟩ | ⟨v, _, _, _, _, _, he⟩
  · rw [he]; exact .of_same rfl hn
  · rw [he]; exact frozen_transfers

theorem abortPreflightedMigration_transfers (preflight : MigrationPreflight) :
    Transfers r (r.abortPreflightedMigration preflight).2 := by
  rcases abortPreflightedMigration_cases r preflight with he | ⟨a, _, _, _, _, _, he⟩
  · rw [he]; exact .refl r
  · rw [he]; exact thawed_transfers

theorem preparePreflightedMigration_transfers (preflight : MigrationPreflight) (now : Instant)
    (reserve : Bool) :
    Transfers r (r.preparePreflightedMigration preflight now reserve).2 := by
  rcases preparePreflightedMigration_cases r preflight now reserve with
    ⟨e, n, _, he⟩ | ⟨v, _, he⟩
  · rw [he]
    have hbump : Transfers r { r with nextGeneration := n } := .of_same rfl (Nat.le_refl _)
    exact hbump.trans (abortPreflightedMigration_transfers preflight)
  · rw [he]
    exact .of_same rfl (Nat.le_refl _)

theorem lockPreparedMigration_transfers (preflight : MigrationPreflight)
    (candidate : MigrationCandidate) (now : Instant) :
    Transfers r (r.lockPreparedMigration preflight candidate now).2 := by
  rcases lockPreparedMigration_cases r preflight candidate now with ⟨e, he⟩ | ⟨v, _, _, he⟩
  · rw [he]; exact abortPreflightedMigration_transfers preflight
  · rw [he]; exact .refl r

/-- The successor of a commit starts idle. -/
theorem committed_transfers (commit : IdentityMigrationCommit) (a : ActiveIdentity) (epoch : Nat) :
    Transfers r (r.committed commit a epoch) := .set rfl rfl fun _ ht => nomatch ht

theorem completePreflighted_transfers (h : r.Inv u E leases F) (preflight : MigrationPreflight)
    (now : Instant) (epoch : Nat) (reserve : Bool) :
    Transfers r (r.completePreflightedMigrationAtUdpEpoch preflight now epoch reserve).2 := by
  rcases completePreflighted_cases h preflight now epoch reserve with
    ⟨e, n, _, he⟩ | ⟨e, v, _, he⟩ | ⟨v, _, _, he⟩
  · rw [he]
    have hbump : Transfers r { r with nextGeneration := n } := .of_same rfl (Nat.le_refl _)
    exact hbump.trans (abortPreflightedMigration_transfers preflight)
  · rw [he]
    have hprepared : Transfers r r.prepared := .of_same rfl (Nat.le_refl _)
    exact hprepared.trans (abortPreflightedMigration_transfers preflight)
  · rw [he]
    have hprepared : Transfers r r.prepared := .of_same rfl (Nat.le_refl _)
    exact hprepared.trans (committed_transfers _ _ _)

theorem completeMigration_transfers (h : r.Inv u E leases F) (session : SessionId) (ip : IpAddr)
    (userNo : UserNo) (channelId : Nat) (token : MigrationToken) (now : Instant)
    (reserve : Bool) :
    Transfers r (r.completeMigration session ip userNo channelId token now reserve).2 := by
  have hi := preflightMigration_inv h session ip userNo channelId token now
  have ht := preflightMigration_transfers (r := r) session ip userNo channelId token now
  unfold completeMigration
  rcases hp : r.preflightMigration session ip userNo channelId token now with ⟨result, r₁⟩
  rw [hp] at hi ht
  cases result with
  | error e => exact ht
  | ok preflight => exact ht.trans (completePreflighted_transfers hi preflight now 0 reserve)

/-! ## Exits -/

theorem disconnect_transfers (h : r.Inv u E leases F) (session : SessionId) (now : Instant) :
    Transfers r (r.disconnect u session now).2 := by
  have hunbound : Transfers r (r.unbound session) := .of_same rfl (Nat.le_refl _)
  rcases disconnect_cases h session now with ⟨_, he⟩ | ⟨b, _, he⟩ |
    ⟨k, a, p, ha, _, _, _, he⟩ | ⟨k, a, _, _, ⟨_, he⟩ | ⟨_, he⟩⟩
  · rw [he]; exact .refl r
  · rw [he]; exact hunbound
  · rw [he]
    -- the freeze of an ownerless record stays
    exact hunbound.trans (setActive_transfers (a := a) ha ⟨rfl, rfl, rfl, rfl, rfl⟩)
  · rw [he]; exact hunbound.trans (dropRecord_transfers _)
  · rw [he]; exact hunbound.trans (parkRecord_transfers _)

/-- A permit that expires takes the transfer with it. -/
theorem expirePermit_transfers (h : r.RecordInv E) (now : Instant) (key : Text) :
    Transfers r (r.expirePermit now key) := by
  rcases expirePermit_cases h now key with he | ⟨a, p, _, _, _, he⟩
  · rw [he]; exact .refl r
  · rw [he]
    exact (setGate_transfers _ _).trans (clearActive_transfers rfl)

theorem expirePermits_transfers (now : Instant) {keys visit : List Text} (hv : visit.Nodup) :
    ∀ {r : IdentityRegistry}, r.Inv u keys leases F →
      (∀ k ∈ visit, r.expiresOwnerless now k → k ∈ keys) →
      Transfers r (visit.foldl (fun r key => r.expirePermit now key) r) := by
  induction visit with
  | nil => exact fun _ _ => .refl _
  | cons key visit ih =>
    intro r h hE
    obtain ⟨hnot, hv⟩ := List.nodup_cons.mp hv
    obtain ⟨h', _, hother⟩ := expirePermit_inv h (hE key (List.mem_cons_self ..))
    refine (expirePermit_transfers h.record now key).trans (ih hv h' fun k hk hex => ?_)
    refine hE k (List.mem_cons_of_mem _ hk) ?_
    unfold expiresOwnerless at hex ⊢
    rw [hother k (fun he => hnot (he ▸ hk))] at hex
    exact hex

theorem releaseExpired_transfers (released : List ReleasedIdentity) (key : Text) :
    Transfers r (r.releaseExpired released key).2 := by
  unfold releaseExpired
  split
  next => exact .refl r
  next a _ =>
    rw [retireOrDefer_removed]
    by_cases hz : (r.gates a.operationGate).activeOperations = 0
    · rw [if_pos hz]; exact dropRecord_transfers _
    · rw [if_neg hz]; exact parkRecord_transfers _

theorem releaseExpireds_transfers (keys : List Text) :
    ∀ (r : IdentityRegistry) (released : List ReleasedIdentity),
      Transfers r (keys.foldl (fun acc key => acc.2.releaseExpired acc.1 key) (released, r)).2 := by
  induction keys with
  | nil => exact fun r _ => .refl r
  | cons key keys ih =>
    intro r released
    exact (releaseExpired_transfers released key).trans (ih _ _)

theorem expireMigrations_transfers (h : r.Inv u [] leases F) {visit : List Text}
    (hv : r.Visits visit) (now : Instant) : Transfers r (r.expireMigrations visit now).2 := by
  have h₀ : r.Inv u (visit.filter (r.expiresOwnerless now)) leases F :=
    ⟨h.directory, h.record.weaken (by simp), h.live⟩
  have hswept := expirePermits_transfers now hv.1 h₀
    fun k hk hex => List.mem_filter.mpr ⟨hk, hex⟩
  exact hswept.trans (releaseExpireds_transfers _ _ _)

/-- The queue of releases holds no record. -/
theorem collectDeferreds_active (rest : List DeferredRelease) :
    ∀ (r : IdentityRegistry) (released : List ReleasedIdentity),
      (rest.foldl collectDeferred (released, r)).2.activeByName = r.activeByName ∧
        (rest.foldl collectDeferred (released, r)).2.nextTransferId = r.nextTransferId := by
  induction rest with
  | nil => exact fun _ _ => ⟨rfl, rfl⟩
  | cons d rest ih =>
    intro r released
    obtain ⟨ha, hn⟩ := ih (collectDeferred (released, r) d).2 (collectDeferred (released, r) d).1
    rw [List.foldl_cons]
    refine ⟨ha.trans ?_, hn.trans ?_⟩
    all_goals
      unfold collectDeferred
      split <;> rfl

theorem collectDrainedReleases_transfers (r : IdentityRegistry) :
    Transfers r r.collectDrainedReleases.2 := by
  obtain ⟨ha, hn⟩ :=
    collectDeferreds_active r.deferredReleases { r with deferredReleases := [] } []
  exact .of_same ha (Nat.le_of_eq hn.symm)

/-- A drained key parks its record, if it has one. -/
theorem drainKey_cases (r : IdentityRegistry) (key : Text) : r.drainKey key = r ∨
    ∃ a, r.activeByName.lookup key = some a ∧
      r.drainKey key = r.parkRecord key a (r.gates a.operationGate).state := by
  unfold drainKey
  split
  next => exact Or.inl rfl
  next a ha =>
    refine Or.inr ⟨a, ha, ?_⟩
    unfold parkRecord dropRecord
    rw [show r.setGate a.operationGate { r.gates a.operationGate with
      state := (r.gates a.operationGate).state } = r from setGate_self _]

theorem drainKeys_transfers (visit : List Text) :
    ∀ r : IdentityRegistry, Transfers r (visit.foldl drainKey r) := by
  induction visit with
  | nil => exact fun r => .refl r
  | cons key visit ih =>
    intro r
    refine Transfers.trans ?_ (ih _)
    rcases drainKey_cases r key with he | ⟨a, _, he⟩
    · rw [he]; exact .refl r
    · rw [he]; exact parkRecord_transfers _

theorem drainActive_transfers (r : IdentityRegistry) (visit : List Text) :
    Transfers r (r.drainActive visit).2 := by
  have hclear : Transfers r { r with sessionBindings := ∅ } := .of_same rfl (Nat.le_refl _)
  exact (hclear.trans (drainKeys_transfers visit _)).trans (collectDrainedReleases_transfers _)

/-! ## Tickets -/

/-- A ticket is older than the counter, and where its transfer is in progress, the record
is the one that the ticket names. -/
structure TicketOk (r : IdentityRegistry) (preflight : MigrationPreflight) : Prop where
  issued : preflight.transferId.get < r.nextTransferId
  exact : ∀ {a}, r.activeByName.lookup preflight.canonicalNickname = some a →
    a.transferInProgress = some preflight.transferId →
    a.generation = preflight.sourceGeneration ∧ a.known.nickname = preflight.nickname ∧
      a.operationGate = preflight.drainGate ∧ exactPermit a.permit preflight = true

theorem TicketOk.transfers {preflight : MigrationPreflight} (h : r.TicketOk preflight)
    (ht : Transfers r r') : r'.TicketOk preflight where
  issued := Nat.lt_of_lt_of_le h.issued ht.next
  exact := by
    intro a' ha' hprogress
    obtain ⟨a, ha, hs⟩ := ht.record ha' hprogress h.issued
    obtain ⟨hgen, hname, hgate, hpermit⟩ := h.exact ha (hs.transfer.symm.trans hprogress)
    exact ⟨hs.generation.trans hgen, (congrArg KnownIdentity.nickname hs.known).trans hname,
      hs.gate.trans hgate, by rw [hs.permit]; exact hpermit⟩

/-- The ticket of a new freeze. -/
theorem preflightMigration_ticket {session : SessionId} {ip : IpAddr} {userNo : UserNo}
    {channelId : Nat} {token : MigrationToken} {now : Instant} {preflight : MigrationPreflight}
    (h : (r.preflightMigration session ip userNo channelId token now).1 = .ok preflight) :
    (r.preflightMigration session ip userNo channelId token now).2.TicketOk preflight := by
  rcases preflightMigration_cases r session ip userNo channelId token now with
    ⟨e, n, _, he⟩ | ⟨v, hv, _, _, _, _, he⟩
  · rw [he] at h
    exact absurd h (by simp)
  · rw [he] at h ⊢
    cases h
    have hval := validateMigration_ok hv
    refine ⟨Nat.lt_succ_self _, fun {a} ha _ => ?_⟩
    have ha' : (r.activeByName.insert v.canonicalNickname
        { v.active with transferInProgress := some ⟨r.nextTransferId⟩ }).lookup
          v.canonicalNickname = some a := ha
    rw [Map.lookup_insert_ite, if_pos rfl] at ha'
    cases ha'
    refine ⟨hval.generation.symm, rfl, rfl, ?_⟩
    show v.active.permit.any _ = true
    rw [hval.permit]
    simp [ticket, hval.userNo, hval.token]

/-- The record still bears the transfer of a ticket. -/
def Bears (r : IdentityRegistry) (preflight : MigrationPreflight) : Prop :=
  ∃ a, r.activeByName.lookup preflight.canonicalNickname = some a ∧
    a.transferInProgress = some preflight.transferId

/-- The registry with the freeze of a ticket undone, where its record still bears it. -/
def undone (r : IdentityRegistry) (preflight : MigrationPreflight) : IdentityRegistry :=
  match r.activeByName.lookup preflight.canonicalNickname with
  | some a =>
    if a.transferInProgress = some preflight.transferId then
      r.thawed preflight.canonicalNickname a
    else r
  | none => r

theorem abortPreflightedMigration_undone (h : r.Inv u E leases F) {preflight : MigrationPreflight}
    (ht : r.TicketOk preflight) :
    ((r.abortPreflightedMigration preflight).1 = true ↔ r.Bears preflight) ∧
      (r.abortPreflightedMigration preflight).2 = r.undone preflight := by
  unfold undone Bears abortPreflightedMigration
  cases hl : r.activeByName.lookup preflight.canonicalNickname with
  | none => simp
  | some a =>
    dsimp only
    by_cases hp : a.transferInProgress = some preflight.transferId
    · rw [if_pos hp]
      obtain ⟨hgen, hname, hgate, hpermit⟩ := ht.exact hl hp
      have hword : (r.gates a.operationGate).state = preflight.transferId.get := by
        have hm := (h.record hl).gate
        rw [hp] at hm
        exact hm.1
      rw [if_neg (by simp [hgen, hname, hp, hgate, hpermit])]
      unfold IdentityOperationGate.reopenExact
      rw [if_pos hword]
      exact ⟨iff_of_true rfl ⟨a, rfl, hp⟩, rfl⟩
    · rw [if_neg hp, if_pos (by simp [hp])]
      refine ⟨iff_of_false Bool.false_ne_true ?_, rfl⟩
      rintro ⟨_, heq, hbears⟩
      cases heq
      exact hp hbears

end IdentityRegistry

namespace IdentitySystem

open IdentityRegistry

variable {u : Unicode} {instantMax : Instant} {s s' : IdentitySystem} {action : IdentityAction}
  {response : IdentityResponse}

/-- The tickets that callers hold. -/
def Tickets (s : IdentitySystem) : Prop := ∀ p ∈ s.preflights, s.registry.TicketOk p

theorem Tickets.step (h : s.Tickets) (ht : Transfers s.registry s'.registry)
    (hp : s'.preflights.Sublist s.preflights) : s'.Tickets :=
  fun p hm => (h p (hp.subset hm)).transfers ht

/-- A ticket was held before, or is the one handed out. -/
theorem preflight_tickets (h : s.Tickets) (session : SessionId) (ip : IpAddr) (userNo : UserNo)
    (channelId : Nat) (token : MigrationToken) (now : Instant) :
    ∀ p ∈ keep s.preflights
        (s.registry.preflightMigration session ip userNo channelId token now).1,
      (s.registry.preflightMigration session ip userNo channelId token now).2.TicketOk p := by
  intro p hm
  have ht := preflightMigration_transfers (r := s.registry) session ip userNo channelId token now
  cases hr : (s.registry.preflightMigration session ip userNo channelId token now).1 with
  | error e =>
    rw [hr] at hm
    exact (h p hm).transfers ht
  | ok preflight =>
    rw [hr] at hm
    rcases List.mem_append.mp hm with hold | hnow
    · exact (h p hold).transfers ht
    · rw [List.mem_singleton] at hnow
      rw [hnow]
      exact preflightMigration_ticket hr

theorem leaseStep_tickets (h : s.Tickets) (hs : s.leaseStep action = some (response, s')) :
    s'.Tickets := by
  unfold leaseStep at hs
  split at hs
  next i =>
    obtain ⟨l, _, he⟩ := Option.map_eq_some_iff.mp hs
    have hgate : Transfers s.registry (s.registry.retainLease l).2 := by
      unfold retainLease
      split
      next => exact .refl _
      next => exact setGate_transfers _ _
    cases he
    exact h.step hgate (.refl _)
  next i =>
    obtain ⟨l, _, he⟩ := Option.map_eq_some_iff.mp hs
    cases he
    exact h.step (setGate_transfers _ _) (.refl _)
  next => exact absurd hs (by simp)

theorem guardStep_tickets {commit : IdentityMigrationCommit} (hg : s.Good u) (h : s.Tickets)
    (hc : s.guard = some commit) (hs : s.guardStep commit action = some (response, s')) :
    s'.Tickets := by
  obtain ⟨a, hok⟩ := hg.guard commit hc
  have hinv := hg.inv
  unfold fresh at hinv
  rw [hc] at hinv
  unfold guardStep at hs
  split at hs
  next epoch =>
    rw [commitMigration_eq hinv hok] at hs
    cases hs
    exact h.step (committed_transfers _ _ _) (.refl _)
  next =>
    cases hs
    refine h.step ?_ (.refl _)
    rw [dropMigrationCommit_eq hinv hok]
    exact thawed_transfers
  next => exact absurd hs (by simp)

theorem actorStep_tickets (hg : s.Good u) (hn : s.guard = none) (h : s.Tickets)
    (hs : s.actorStep u instantMax action = some (response, s')) : s'.Tickets := by
  have hinv := hg.inv
  rw [fresh_none hn] at hinv
  have hd := hinv.directory
  cases action with
  | claim session ip nickname epoch =>
    cases hs
    exact h.step (claimAt_transfers hd session ip nickname epoch) (.refl _)
  | ensureKnown nickname =>
    cases hs
    exact h.step (ensureKnownUserNo_transfers hd nickname) (.refl _)
  | offlineMyroom nickname =>
    cases hs
    exact h.step (offlineMyroomBinding_transfers hd nickname) (.refl _)
  | admitOperation session =>
    cases hs
    exact h.step (transfers_of_gate (admitOperation_registry s.registry session)) (.refl _)
  | admitUdp userNo epoch =>
    cases hs
    exact h.step (transfers_of_gate (admitUdpOperation_registry s.registry userNo epoch)) (.refl _)
  | beginMigration session channel token now =>
    cases hs
    exact h.step (beginMigration_transfers instantMax session channel token now) (.refl _)
  | preflight session ip userNo channelId token now =>
    cases hs
    exact preflight_tickets h session ip userNo channelId token now
  | prepare i now reserve =>
    obtain ⟨preflight, _, he⟩ := Option.map_eq_some_iff.mp hs
    cases he
    exact h.step (preparePreflightedMigration_transfers preflight now reserve) (.refl _)
  | lock i j now =>
    obtain ⟨preflight, _, hs⟩ := Option.bind_eq_some_iff.mp hs
    obtain ⟨candidate, _, he⟩ := Option.map_eq_some_iff.mp hs
    cases he
    exact h.step (lockPreparedMigration_transfers preflight candidate now)
      (List.eraseIdx_sublist _ _)
  | abort i =>
    obtain ⟨preflight, _, he⟩ := Option.map_eq_some_iff.mp hs
    cases he
    exact h.step (abortPreflightedMigration_transfers preflight) (.refl _)
  | dropPreflight i =>
    obtain ⟨preflight, _, he⟩ := Option.map_eq_some_iff.mp hs
    cases he
    exact h.step (.refl _) (List.eraseIdx_sublist _ _)
  | dropCandidate j =>
    obtain ⟨candidate, _, he⟩ := Option.map_eq_some_iff.mp hs
    cases he
    exact h.step (.refl _) (.refl _)
  | completePreflighted i now epoch reserve =>
    obtain ⟨preflight, _, he⟩ := Option.map_eq_some_iff.mp hs
    cases he
    exact h.step (completePreflighted_transfers hinv preflight now epoch reserve)
      (List.eraseIdx_sublist _ _)
  | complete session ip userNo channelId token now reserve =>
    cases hs
    exact h.step (completeMigration_transfers hinv session ip userNo channelId token now reserve)
      (.refl _)
  | disconnect session now =>
    cases hs
    exact h.step (disconnect_transfers hinv session now) (.refl _)
  | expire visit now =>
    unfold actorStep at hs
    dsimp only at hs
    split at hs
    next hv =>
      cases hs
      exact h.step (expireMigrations_transfers hinv hv now) (.refl _)
    next => exact absurd hs (by simp)
  | collect =>
    cases hs
    exact h.step (collectDrainedReleases_transfers _) (.refl _)
  | drain visit =>
    unfold actorStep at hs
    dsimp only at hs
    split at hs
    next hv =>
      cases hs
      exact h.step (drainActive_transfers _ _) (.refl _)
    next => exact absurd hs (by simp)
  | retain _ | dropLease _ | commit _ | dropGuard => exact absurd hs (by simp [actorStep])

theorem step_tickets (hg : s.Good u) (h : s.Tickets)
    (hs : s.step u instantMax action = some (response, s')) : s'.Tickets := by
  unfold step at hs
  split at hs
  next result hl =>
    cases hs
    exact leaseStep_tickets h hl
  next =>
    split at hs
    next commit hc => exact guardStep_tickets hg h hc hs
    next hn => exact actorStep_tickets hg hn h hs

/-- **Every ticket names the record that bears its transfer**, in every reachable registry. -/
theorem tickets_of_reachable (h : (machine u instantMax).Reachable s) : s.Tickets := by
  have key : s.Good u ∧ s.Tickets := by
    refine h.invariant (P := fun s => s.Good u ∧ s.Tickets)
      ⟨good_of_reachable .init, fun p hp => absurd hp List.not_mem_nil⟩ ?_
    intro s s' action response hgood hs
    exact ⟨(step_spec hgood.1 hs).good, step_tickets hgood.1 hgood.2 hs⟩
  exact key.2

/-- **While a ticket is held, an abort undoes its freeze and nothing else**: it answers
whether the record still bears the transfer, and where it does the ticket fits the record. -/
theorem held_ticket_undone (h : (machine u instantMax).Reachable s)
    {preflight : MigrationPreflight} (hp : preflight ∈ s.preflights) :
    s.registry.TicketOk preflight ∧
      ((s.registry.abortPreflightedMigration preflight).1 = true ↔
        s.registry.Bears preflight) ∧
      (s.registry.abortPreflightedMigration preflight).2 = s.registry.undone preflight := by
  have hticket := tickets_of_reachable h preflight hp
  exact ⟨hticket, abortPreflightedMigration_undone (good_of_reachable h).inv hticket⟩

/-- The migration of `sampleActions` up to its ticket. -/
theorem frozenActions_run :
    ((machine plain u64Max).exec .initial [] (sampleActions.take 4)).isSome = true := by
  decide +kernel

def frozenSample : Transcript × IdentitySystem :=
  ((machine plain u64Max).exec .initial [] (sampleActions.take 4)).get frozenActions_run

theorem frozenSample_undone : ∃ preflight ∈ frozenSample.2.preflights,
    (frozenSample.2.registry.abortPreflightedMigration preflight).2 =
      frozenSample.2.registry.undone preflight := by
  have hheld : frozenSample.2.preflights.head?.isSome = true := by decide +kernel
  obtain ⟨preflight, hhead⟩ := Option.isSome_iff_exists.mp hheld
  have hmem : preflight ∈ frozenSample.2.preflights := List.mem_of_mem_head? hhead
  have hrun : (machine plain u64Max).Reachable frozenSample.2 :=
    (Machine.history_of_exec _ .init (Option.some_get frozenActions_run).symm).reachable
  exact ⟨preflight, hmem, (held_ticket_undone hrun hmem).2.2⟩

end IdentitySystem

end P4475
