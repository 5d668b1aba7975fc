import P4475.Identity.Releases

/-!
# The four exits

`disconnect`, `expire_migrations`, `collect_drained_releases` and
`drain_active`, each as a sum of the moves of `Releases`: the invariant it
leaves behind and the balance it settles.
-/

namespace P4475

open Lib

namespace IdentityRegistry

variable {u : Unicode} {r r' r'' : IdentityRegistry} {E : List Text}
  {leases : List IdentityOperationLease} {F : List MigrationCandidate}

/-- A record taken out and then retired or parked, in closed form. -/
theorem retireOrDefer_removed (r : IdentityRegistry) (key : Text) (a : ActiveIdentity) :
    (r.removeActive key).retireOrDefer key a =
      if (r.gates a.operationGate).activeOperations = 0 then
        (true, r.dropRecord key a IdentityOperationGate.retired)
      else (false, r.parkRecord key a (r.gates a.operationGate).state) := by
  have hself : (r.setGate a.operationGate (r.gates a.operationGate)) = r :=
    setGate_self a.operationGate
  unfold retireOrDefer
  rw [show (r.removeActive key).gates = r.gates from rfl,
    IdentityOperationGate.retireDrained_eq]
  by_cases hz : (r.gates a.operationGate).activeOperations = 0
  · rw [if_pos hz, if_pos hz]
    rfl
  · rw [if_neg hz, if_neg hz]
    unfold parkRecord dropRecord
    rw [hself]
    show (false, ((r.setGate _ (r.gates _)).removeActive key).pushDeferred _) = _
    rw [hself]

/-- The same when its gate was first reopened: an open gate and a gate frozen
by the record's own transfer end up with the same word. -/
theorem retireOrDefer_disconnect {key : Text} {a : ActiveIdentity}
    (hm : GateMatches a.transferInProgress (r.gates a.operationGate)) :
    ((r.removeActive key).reopenRemoved a).retireOrDefer key a =
      if (r.gates a.operationGate).activeOperations = 0 then
        (true, r.dropRecord key a IdentityOperationGate.retired)
      else (false, r.parkRecord key a IdentityOperationGate.open_) := by
  have hopened : (r.removeActive key).reopenRemoved a =
      (r.setGate a.operationGate { r.gates a.operationGate with
        state := IdentityOperationGate.open_ }).removeActive key := by
    unfold reopenRemoved
    split
    next ht =>
      rw [ht] at hm
      have hw : (r.gates a.operationGate).state = IdentityOperationGate.open_ := hm
      rw [← hw]
      exact congrArg (removeActive · key) (setGate_self a.operationGate).symm
    next t ht =>
      rw [ht] at hm
      have hw : ((r.removeActive key).gates a.operationGate).state = t.get := hm.1
      unfold IdentityOperationGate.reopenExact
      rw [if_pos hw]
      rfl
  have hset : ∀ word, (r.setGate a.operationGate { r.gates a.operationGate with
        state := IdentityOperationGate.open_ }).dropRecord key a word =
      r.dropRecord key a word := by
    intro word
    simp [dropRecord, setGate, removeActive]
  rw [hopened, retireOrDefer_removed, setGate_gates, if_pos rfl]
  unfold parkRecord
  rw [hset, hset]

/-! ## Disconnect -/

/-- `session_bindings.remove`. -/
def unbound (r : IdentityRegistry) (session : SessionId) : IdentityRegistry :=
  { r with sessionBindings := r.sessionBindings.erase session }

/-- The owner of a record is bound to it, under the record's own key. -/
theorem Inv.owner (h : r.Inv u E leases F) {k : Text} {a : ActiveIdentity} {s : SessionId}
    (ha : r.activeByName.lookup k = some a) (ho : a.owner = some s) :
    r.sessionBindings.lookup s = some (identityBinding a s) ∧
      canonicalNicknameKey u a.known.nickname = k :=
  ⟨(h.record ha).bound s ho, h.directory.key (h.record ha).known⟩

/-- A session owns at most one record. -/
theorem Inv.owner_unique (h : r.Inv u E leases F) {k k' : Text} {a a' : ActiveIdentity}
    {s : SessionId} (ha : r.activeByName.lookup k = some a) (ho : a.owner = some s)
    (ha' : r.activeByName.lookup k' = some a') (ho' : a'.owner = some s) : k = k' := by
  obtain ⟨hb, hk⟩ := h.owner ha ho
  obtain ⟨hb', hk'⟩ := h.owner ha' ho'
  have he : identityBinding a s = identityBinding a' s := Option.some.inj (hb.symm.trans hb')
  have hn : a.known.nickname = a'.known.nickname := congrArg IdentityBinding.nickname he
  rw [← hk, ← hk', hn]

theorem unbound_live (h : r.LiveInv u leases F) (session : SessionId) :
    (r.unbound session).LiveInv u leases F :=
  h.frame rfl rfl (Knows.of_eq rfl) (Nat.le_refl _) (Nat.le_refl _) rfl

/-- Every way a disconnect can end: a session nobody is owned by is forgotten;
an owner with an unexpired permit leaves its record ownerless; any other owner
takes its record out, which is released now or parked until it drains. -/
theorem disconnect_cases (h : r.Inv u E leases F) (session : SessionId) (now : Instant) :
    (r.sessionBindings.lookup session = none ∧
      r.disconnect u session now = (.unauthenticated, r)) ∨
    (∃ b, (∀ {k a}, r.activeByName.lookup k = some a → a.owner ≠ some session) ∧
      r.disconnect u session now = (.stale b, r.unbound session)) ∨
    (∃ k a p, r.activeByName.lookup k = some a ∧ a.owner = some session ∧
      a.permit = some p ∧ now < p.expiresAt ∧
      r.disconnect u session now = (.deferred (identityBinding a session) p,
        (r.unbound session).setActive k { a with owner := none })) ∨
    (∃ k a, r.activeByName.lookup k = some a ∧ a.owner = some session ∧
      ((r.gates a.operationGate).activeOperations = 0 ∧
        r.disconnect u session now = (.released (releasedIdentity a),
          (r.unbound session).dropRecord k a IdentityOperationGate.retired) ∨
      (r.gates a.operationGate).activeOperations ≠ 0 ∧
        r.disconnect u session now = (.draining (releasedIdentity a),
          (r.unbound session).parkRecord k a IdentityOperationGate.open_))) := by
  have hstale : ∀ b, r.sessionBindings.lookup session = some b →
      (∀ a, r.activeByName.lookup (canonicalNicknameKey u b.nickname) = some a →
        a.owner ≠ some session ∨ a.generation ≠ b.generation) →
      ∀ {k a}, r.activeByName.lookup k = some a → a.owner ≠ some session := by
    intro b hb hno k a ha ho
    obtain ⟨hb', hk⟩ := h.owner ha ho
    have he : b = identityBinding a session := Option.some.inj (hb.symm.trans hb')
    subst he
    rcases hno a (by rw [identityBinding_nickname, hk]; exact ha) with hne | hne
    · exact hne ho
    · exact hne rfl
  unfold disconnect
  split
  next hs => exact Or.inl ⟨hs, rfl⟩
  next b hb =>
    right
    dsimp only
    split
    next hl =>
      refine Or.inl ⟨b, hstale b hb fun a ha => ?_, rfl⟩
      rw [hl] at ha
      exact absurd ha (by simp)
    next a ha =>
      split
      next hne =>
        refine Or.inl ⟨b, hstale b hb fun a' ha' => ?_, rfl⟩
        rw [ha] at ha'
        cases ha'
        exact hne
      next hown =>
        right
        simp only [ne_eq, not_or, Decidable.not_not] at hown
        have hbind : b = identityBinding a session :=
          Option.some.inj (hb.symm.trans ((h.record ha).bound session hown.1))
        split
        next p hp =>
          rw [Option.filter_eq_some_iff] at hp
          exact Or.inl ⟨_, a, p, ha, hown.1, hp.1, by simpa using hp.2, by rw [← hbind]; rfl⟩
        next =>
          refine Or.inr ⟨_, a, ha, hown.1, ?_⟩
          have hclosed : (((r.unbound session).removeActive (canonicalNicknameKey u
              b.nickname)).reopenRemoved a).retireOrDefer (canonicalNicknameKey u b.nickname) a
                = _ := retireOrDefer_disconnect (r := r.unbound session) (h.record ha).gate
          by_cases hz : (r.gates a.operationGate).activeOperations = 0
          · rw [show ((r.unbound session).gates a.operationGate).activeOperations = 0 from hz,
              if_pos rfl] at hclosed
            refine Or.inl ⟨hz, ?_⟩
            split
            next r' he =>
              cases hclosed.symm.trans he
              rfl
            next r' he => exact absurd (hclosed.symm.trans he) (by simp)
          · rw [if_neg (show ¬ ((r.unbound session).gates a.operationGate).activeOperations = 0
              from hz)] at hclosed
            refine Or.inr ⟨hz, ?_⟩
            split
            next r' he => exact absurd (hclosed.symm.trans he) (by simp)
            next r' he =>
              cases hclosed.symm.trans he
              rfl

/-- What a disconnect hands out at once. -/
def ended : DisconnectOutcome → List ReleasedIdentity
  | .released identity => [identity]
  | _ => []

/-- Forgetting a session that owns nothing. -/
theorem unbound_inv (h : r.Inv u E leases F) {session : SessionId}
    (hno : ∀ {k a}, r.activeByName.lookup k = some a → a.owner ≠ some session) :
    (r.unbound session).Inv u E leases F where
  directory := h.directory.frame rfl rfl rfl
  record := by
    intro k a ha
    refine (h.record ha).frame (Knows.of_eq rfl) ?_ rfl id
    intro s hs
    show (Finmap.erase session r.sessionBindings).lookup s = _
    rw [Map.lookup_erase_ite, if_neg]
    rintro rfl
    exact hno ha hs
  live := unbound_live h.live session

/-- The sessions of the other records survive when one owner's is forgotten. -/
theorem Inv.other_sessions (h : r.Inv u E leases F) {session : SessionId} {key : Text}
    {a : ActiveIdentity} (ha : r.activeByName.lookup key = some a)
    (ho : a.owner = some session) {k : Text} {b : ActiveIdentity} {s : SessionId}
    (hne : k ≠ key) (hb : r.activeByName.lookup k = some b) (hs : b.owner = some s) :
    (r.unbound session).sessionBindings.lookup s = r.sessionBindings.lookup s := by
  show (Finmap.erase session r.sessionBindings).lookup s = _
  rw [Map.lookup_erase_ite, if_neg]
  rintro rfl
  exact hne (h.owner_unique hb hs ha ho)

/-- An owner that leaves behind an unexpired permit. -/
theorem ownerless_inv (h : r.Inv u E leases F) {session : SessionId} {key : Text}
    {a : ActiveIdentity} {p : MigrationPermit} (ha : r.activeByName.lookup key = some a)
    (ho : a.owner = some session) (hp : a.permit = some p) :
    ((r.unbound session).setActive key { a with owner := none }).Inv u E leases F := by
  have hr := h.record ha
  refine ⟨h.directory.frame rfl rfl rfl, ?_, ?_⟩
  · refine h.record.update key (Knows.of_eq rfl) ?_
      (fun hne hb hs => h.other_sessions ha ho hne hb hs) (fun _ _ => rfl) (fun _ hE => hE) ?_
    · intro k b hne hb
      rw [setActive_lookup, if_neg hne] at hb
      exact hb
    · intro b hb
      rw [setActive_lookup, if_pos rfl] at hb
      cases hb
      exact {
        known := hr.known
        bound := fun s hs => absurd hs (by simp)
        permit := fun q hq => ⟨(hr.permit q hq).userNo, (hr.permit q hq).generation,
          (hr.permit q hq).sourceIp, fun s hs => absurd hs (by simp)⟩
        ownerless := fun _ => Or.inl (by rw [hp]; rfl)
        transfer := hr.transfer
        gate := hr.gate }
  · have hset : (((r.unbound session).setGate a.operationGate
        (r.gates a.operationGate)).setActive key { a with owner := none }).LiveInv u leases F :=
      (unbound_live h.live session).adjust ha rfl rfl rfl (h.live.unretired (Live.of_active ha))
    rw [show (r.unbound session).setGate a.operationGate (r.gates a.operationGate) =
      r.unbound session from setGate_self a.operationGate] at hset
    exact hset

theorem RecordInv.weaken {E' : List Text} (h : r.RecordInv E) (hE : ∀ k ∈ E, k ∈ E') :
    r.RecordInv E' :=
  fun _ _ ha => (h ha).frame (Knows.of_eq rfl) (fun _ _ => rfl) rfl (hE _)

theorem disconnect_inv (h : r.Inv u E leases F) (session : SessionId) (now : Instant) :
    (r.disconnect u session now).2.Inv u E leases F := by
  rcases disconnect_cases h session now with ⟨_, he⟩ | ⟨b, hno, he⟩ | ⟨k, a, p, ha, ho, hp, _, he⟩
    | ⟨k, a, ha, ho, ⟨hz, he⟩ | ⟨_, he⟩⟩
  · rw [he]; exact h
  · rw [he]; exact unbound_inv h hno
  · rw [he]; exact ownerless_inv h ha ho hp
  · rw [he]
    refine ⟨h.directory.frame rfl rfl rfl, ?_, dropRecord_live (unbound_live h.live session) ha hz⟩
    exact (h.record.weaken fun _ => List.mem_cons_of_mem k).remove h.live ha rfl rfl
      (fun hne hb hs => h.other_sessions ha ho hne hb hs)
      (fun hγ => dropRecord_state k hγ)
  · rw [he]
    refine ⟨h.directory.frame rfl rfl rfl, ?_,
      parkRecord_live (unbound_live h.live session) ha (by decide)⟩
    exact (h.record.weaken fun _ => List.mem_cons_of_mem k).remove h.live ha rfl rfl
      (fun hne hb hs => h.other_sessions ha ho hne hb hs)
      (fun hγ => dropRecord_state k hγ)

theorem disconnect_settles (h : r.Inv u E leases F) (session : SessionId) (now : Instant) :
    Settles r (ended (r.disconnect u session now).1)
      (r.disconnect u session now).2 := by
  have hunbound : Settles r [] (r.unbound session) :=
    .of_same rfl rfl (fun _ => rfl) (Knows.of_eq rfl) (Nat.le_refl _)
  rcases disconnect_cases h session now with ⟨_, he⟩ | ⟨b, hno, he⟩ | ⟨k, a, p, ha, ho, hp, _, he⟩
    | ⟨k, a, ha, ho, ⟨hz, he⟩ | ⟨_, he⟩⟩
  · rw [he]; exact Settles.refl
  · rw [he]; exact hunbound
  · rw [he]
    exact hunbound.trans (setActive_settles (r := r.unbound session) ha rfl rfl)
  · rw [he]
    exact hunbound.trans (dropRecord_settles (r := r.unbound session) ha hz)
  · rw [he]
    exact hunbound.trans (parkRecord_settles (unbound_live h.live session) ha)

/-! ## Expiry -/

/-- An expiry leaves a record alone or clears its permit and transfer together,
opening its gate. -/
theorem expirePermit_cases (h : r.RecordInv E) (now : Instant) (key : Text) :
    r.expirePermit now key = r ∨
    ∃ a p, r.activeByName.lookup key = some a ∧ a.permit = some p ∧ p.expiresAt ≤ now ∧
      r.expirePermit now key = (r.setGate a.operationGate { r.gates a.operationGate with
        state := IdentityOperationGate.open_ }).setActive key
          { a with permit := none, transferInProgress := none } := by
  unfold expirePermit
  split
  next => exact Or.inl rfl
  next a ha =>
    split
    next hp =>
      obtain ⟨p, hperm, hexp⟩ : ∃ p, a.permit = some p ∧ p.expiresAt ≤ now := by
        cases hperm : a.permit with
        | none => rw [hperm] at hp; exact absurd hp (by simp)
        | some p => rw [hperm] at hp; exact ⟨p, rfl, by simpa using hp⟩
      refine Or.inr ⟨a, p, ha, hperm, hexp, ?_⟩
      have hm := (h ha).gate
      split
      next ht =>
        rw [ht] at hm
        have hw : (r.gates a.operationGate).state = IdentityOperationGate.open_ := hm
        rw [← hw, setGate_self, ← ht]
      next t ht =>
        rw [ht] at hm
        unfold IdentityOperationGate.reopenExact
        rw [if_pos hm.1]
    next => exact Or.inl rfl

/-- One iteration of the first sweep. An ownerless record may lose its permit
only because its key is on the list of keys about to be released. -/
theorem expirePermit_inv (h : r.Inv u E leases F) {now : Instant} {key : Text}
    (hE : r.expiresOwnerless now key → key ∈ E) :
    (r.expirePermit now key).Inv u E leases F ∧ Settles r [] (r.expirePermit now key) ∧
      ∀ k, k ≠ key → (r.expirePermit now key).activeByName.lookup k =
        r.activeByName.lookup k := by
  rcases expirePermit_cases h.record now key with he | ⟨a, p, ha, hp, hexp, he⟩
  · rw [he]
    exact ⟨h, Settles.refl, fun _ _ => rfl⟩
  · rw [he]
    have hr := h.record ha
    refine ⟨⟨h.directory.frame rfl rfl rfl, h.record.adjust h.live ha ?_,
      h.live.adjust ha rfl rfl rfl (by show IdentityOperationGate.open_ ≠ _; decide)⟩, ?_, ?_⟩
    · exact {
        known := hr.known
        bound := hr.bound
        permit := fun q hq => absurd hq (by simp)
        ownerless := by
          intro ho
          refine Or.inr (hE ?_)
          unfold expiresOwnerless
          rw [ha]
          show (a.permit.any _ && a.owner.isNone) = true
          rw [hp, show a.owner = none from ho]
          simpa using hexp
        transfer := fun ht => absurd ht (by simp)
        gate := by
          show ((r.setGate _ _).gates a.operationGate).state = _
          rw [setGate_gates, if_pos rfl] }
    · have hopen : Settles r [] (r.setGate a.operationGate { r.gates a.operationGate with
          state := IdentityOperationGate.open_ }) := setGate_settles rfl
      exact hopen.trans (setActive_settles ha rfl rfl)
    · intro k hk
      rw [setActive_lookup, if_neg hk]
      rfl

/-- The first sweep. Each key is visited once, so what it decides about a key
is what the untouched registry says about it. -/
theorem expirePermits_inv (now : Instant) {visit : List Text} (hv : visit.Nodup) :
    ∀ {r : IdentityRegistry}, r.Inv u E leases F →
      (∀ k ∈ visit, r.expiresOwnerless now k → k ∈ E) →
      (visit.foldl (fun r key => r.expirePermit now key) r).Inv u E leases F ∧
        Settles r [] (visit.foldl (fun r key => r.expirePermit now key) r) := by
  induction visit with
  | nil => exact fun h _ => ⟨h, Settles.refl⟩
  | cons key visit ih =>
    intro r h hE
    obtain ⟨hnot, hv⟩ := List.nodup_cons.mp hv
    obtain ⟨h', hs', hother⟩ := expirePermit_inv h (hE key (List.mem_cons_self ..))
    obtain ⟨h'', hs''⟩ := ih hv h' (by
      intro k hk hex
      refine hE k (List.mem_cons_of_mem _ hk) ?_
      unfold expiresOwnerless at hex ⊢
      rw [hother k (fun he => hnot (he ▸ hk))] at hex
      exact hex)
    exact ⟨h'', hs'.trans hs''⟩

/-- One iteration of the second sweep: the key it visits leaves the table. -/
theorem releaseExpired_inv {key : Text} (h : r.Inv u (key :: E) leases F)
    (released : List ReleasedIdentity) :
    (r.releaseExpired released key).2.Inv u E leases F ∧
      ∃ ended, (r.releaseExpired released key).1 = released ++ ended ∧
        Settles r ended (r.releaseExpired released key).2 := by
  unfold releaseExpired
  split
  next hnone =>
    refine ⟨⟨h.directory, ?_, h.live⟩, [], (List.append_nil _).symm, Settles.refl⟩
    refine h.record.update key (Knows.of_eq rfl) (fun _ hb => hb) (fun _ _ _ => rfl)
      (fun _ _ => rfl) (fun hne hk => (List.mem_cons.mp hk).resolve_left hne) ?_
    intro b hb
    rw [hnone] at hb
    exact absurd hb (by simp)
  next a ha =>
    rw [retireOrDefer_removed]
    by_cases hz : (r.gates a.operationGate).activeOperations = 0
    · rw [if_pos hz]
      refine ⟨⟨h.directory.frame rfl rfl rfl, ?_, dropRecord_live h.live ha hz⟩,
        [releasedIdentity a], rfl, dropRecord_settles ha hz⟩
      exact h.record.remove h.live ha rfl rfl (fun _ _ _ => rfl)
        (fun hγ => dropRecord_state key hγ)
    · rw [if_neg hz]
      refine ⟨⟨h.directory.frame rfl rfl rfl, ?_,
        parkRecord_live h.live ha (h.live.unretired (Live.of_active ha))⟩,
        [], (List.append_nil _).symm, parkRecord_settles h.live ha⟩
      exact h.record.remove h.live ha rfl rfl (fun _ _ _ => rfl)
        (fun hγ => dropRecord_state key hγ)

/-- The second sweep, by induction on the keys still to be released: they are
exactly the keys the invariant still excuses. -/
theorem releaseExpireds_inv (keys : List Text) :
    ∀ {r : IdentityRegistry} (released : List ReleasedIdentity), r.Inv u keys leases F →
      (keys.foldl (fun acc key => acc.2.releaseExpired acc.1 key) (released, r)).2.Inv
          u [] leases F ∧
        ∃ ended, (keys.foldl (fun acc key => acc.2.releaseExpired acc.1 key)
            (released, r)).1 = released ++ ended ∧
          Settles r ended
            (keys.foldl (fun acc key => acc.2.releaseExpired acc.1 key) (released, r)).2 := by
  induction keys with
  | nil => exact fun released h => ⟨h, [], (List.append_nil _).symm, Settles.refl⟩
  | cons key keys ih =>
    intro r released h
    obtain ⟨h', ended, he, hs⟩ := releaseExpired_inv h released
    obtain ⟨h'', ended', he', hs'⟩ := ih (r.releaseExpired released key).1 h'
    refine ⟨h'', ended ++ ended', ?_, hs.trans hs'⟩
    rw [List.foldl_cons, he', he, List.append_assoc]

theorem expireMigrations_inv (h : r.Inv u [] leases F) {visit : List Text}
    (hv : r.Visits visit) (now : Instant) :
    (r.expireMigrations visit now).2.Inv u [] leases F ∧
      Settles r (r.expireMigrations visit now).1 (r.expireMigrations visit now).2 := by
  have h₀ : r.Inv u (visit.filter (r.expiresOwnerless now)) leases F :=
    ⟨h.directory, h.record.weaken (by simp), h.live⟩
  obtain ⟨h₁, hs₁⟩ := expirePermits_inv now hv.1 h₀
    (fun k hk hex => List.mem_filter.mpr ⟨hk, hex⟩)
  obtain ⟨h₂, ended, he, hs₂⟩ := releaseExpireds_inv _ [] h₁
  refine ⟨h₂, ?_⟩
  rw [List.nil_append] at he
  have hs := hs₁.trans hs₂
  rw [List.nil_append] at hs
  unfold expireMigrations
  dsimp only
  rw [he]
  exact hs

/-! ## Collecting drained releases -/

/-- The registry with another deferred queue. -/
def withDeferred (r : IdentityRegistry) (ds : List DeferredRelease) : IdentityRegistry :=
  { r with deferredReleases := ds }

/-- A drained release leaves the queue and its gate is retired. -/
def undeferred (r : IdentityRegistry) (xs rest : List DeferredRelease) (d : DeferredRelease) :
    IdentityRegistry :=
  (r.setGate d.operationGate { r.gates d.operationGate with
    state := IdentityOperationGate.retired }).withDeferred (xs ++ rest)

theorem undeferred_inv {xs rest : List DeferredRelease} {d : DeferredRelease}
    (h : r.Inv u E leases F) (hd : r.deferredReleases = xs ++ d :: rest)
    (hz : (r.gates d.operationGate).activeOperations = 0) :
    (r.undeferred xs rest d).Inv u E leases F ∧
      Settles r [d.identity] (r.undeferred xs rest d) := by
  have hmem : d ∈ r.deferredReleases := by rw [hd]; simp
  have hsub : (xs ++ rest).Sublist r.deferredReleases := by
    rw [hd]
    exact List.Sublist.append_left (List.sublist_cons_self _ _) _
  have hlive : ∀ {k g γ}, (r.undeferred xs rest d).Live k g γ → r.Live k g γ := by
    rintro k g γ (hact | ⟨d', hd', he⟩)
    · exact Or.inl hact
    · exact Or.inr ⟨d', hsub.subset hd', he⟩
  have hretire : Settles r [] (r.setGate d.operationGate { r.gates d.operationGate with
      state := IdentityOperationGate.retired }) := setGate_settles rfl
  have hcount : ∀ γ, ((r.undeferred xs rest d).gates γ).activeOperations =
      (r.gates γ).activeOperations := hretire.count
  have hkeep : ∀ {γ}, γ ≠ d.operationGate →
      ((r.undeferred xs rest d).gates γ).state = (r.gates γ).state := by
    intro γ hγ
    show ((r.setGate _ _).gates γ).state = _
    rw [setGate_gates, if_neg hγ]
  have hnodup := h.live.draining
  rw [hd, List.map_append, List.map_cons] at hnodup
  have hother : ∀ d' ∈ xs ++ rest, d'.canonicalNickname ≠ d.canonicalNickname := by
    intro d' hd' he
    have hperm := (List.nodup_middle.mp hnodup)
    rw [← List.map_append] at hperm
    exact (List.nodup_cons.mp hperm).1 (he ▸ List.mem_map_of_mem hd')
  have hkeys : ∀ {k g γ}, (r.undeferred xs rest d).Live k g γ → k ≠ d.canonicalNickname := by
    rintro k g γ (⟨a, ha, _⟩ | ⟨d', hd', hk, _⟩)
    · intro he
      have hi := h.live.inactive d hmem
      rw [← he] at hi
      exact absurd (ha.symm.trans hi) (by simp)
    · rw [← hk]
      exact hother d' hd'
  refine ⟨⟨h.directory.frame rfl rfl rfl, h.record.frame rfl (Knows.of_eq rfl) rfl ?_, ?_⟩, ?_⟩
  · intro k a ha
    refine hkeep fun he => ?_
    have hl := Live.of_active ha
    rw [he] at hl
    refine hkeys (Or.inl ⟨a, ha, rfl, rfl⟩) (h.live.gate hl (Live.of_deferred hmem))
  · refine h.live.shrink hlive (h.live.draining.sublist (hsub.map _))
      (fun d' hd' => h.live.inactive d' (hsub.subset hd')) (Knows.of_eq rfl) (Nat.le_refl _)
      (Nat.le_refl _) hcount ?_ ?_ ?_
    · intro k g γ hl
      rw [hkeep]
      · exact h.live.unretired (hlive hl)
      · intro he
        have hl' := hlive hl
        rw [he] at hl'
        exact hkeys hl (h.live.gate hl' (Live.of_deferred hmem))
    · intro c hc
      exact hkeep fun he => (h.live.candidates c hc).gate (he ▸ Live.of_deferred hmem)
    · intro l hl
      obtain ⟨k, hk⟩ := h.live.lease l hl
      refine ⟨k, ?_⟩
      rcases hk with hact | ⟨d', hd', he⟩
      · exact Or.inl hact
      · refine Or.inr ⟨d', ?_, he⟩
        rw [hd, List.mem_append, List.mem_cons] at hd'
        rcases hd' with hm | rfl | hm
        · exact List.mem_append_left _ hm
        · exact absurd he.2.2.symm (h.live.no_lease hz l hl)
        · exact List.mem_append_right _ hm
  · exact {
      holdings := by
        unfold holdings generations undeferred withDeferred setGate
        dsimp only
        rw [hd]
        simp only [List.map_append, List.map_cons, List.map_nil, ← Multiset.coe_add,
          ← Multiset.cons_coe, ← Multiset.singleton_add, Multiset.coe_nil, add_zero]
        abel
      live := hlive
      drained := by
        intro id hid
        rw [List.mem_singleton] at hid
        subst hid
        exact ⟨_, _, Live.of_deferred hmem, hz⟩
      count := hcount
      knows := Knows.of_eq rfl
      next := Nat.le_refl _ }

/-- The collection loop, by induction on the releases still to be looked at. -/
theorem collectDeferreds_inv (rest : List DeferredRelease) :
    ∀ {r : IdentityRegistry} (released : List ReleasedIdentity),
      (r.withDeferred (r.deferredReleases ++ rest)).Inv u E leases F →
      (rest.foldl collectDeferred (released, r)).2.Inv u E leases F ∧
        ∃ ended, (rest.foldl collectDeferred (released, r)).1 = released ++ ended ∧
          Settles (r.withDeferred (r.deferredReleases ++ rest)) ended
            (rest.foldl collectDeferred (released, r)).2 := by
  induction rest with
  | nil =>
    intro r released h
    rw [List.append_nil] at h ⊢
    exact ⟨h, [], (List.append_nil _).symm, Settles.refl⟩
  | cons d rest ih =>
    intro r released h
    rw [List.foldl_cons]
    by_cases hz : (r.gates d.operationGate).activeOperations = 0
    · have hstep : collectDeferred (released, r) d = (released ++ [d.identity],
          r.setGate d.operationGate { r.gates d.operationGate with
            state := IdentityOperationGate.retired }) := by
        unfold collectDeferred
        rw [IdentityOperationGate.retireDrained_eq, if_pos hz]
      obtain ⟨h', hs⟩ := undeferred_inv h rfl hz
      rw [hstep]
      obtain ⟨h'', ended, he, hs'⟩ := ih (r := r.setGate d.operationGate
        { r.gates d.operationGate with state := IdentityOperationGate.retired })
        (released ++ [d.identity]) h'
      refine ⟨h'', d.identity :: ended, ?_, hs.trans hs'⟩
      rw [he, List.append_assoc]
      rfl
    · have hstep : collectDeferred (released, r) d = (released, r.pushDeferred d) := by
        unfold collectDeferred
        rw [IdentityOperationGate.retireDrained_eq, if_neg hz]
        show (released, (r.setGate _ (r.gates _)).pushDeferred d) = _
        rw [setGate_self]
      have hq : (r.pushDeferred d).withDeferred ((r.pushDeferred d).deferredReleases ++ rest) =
          r.withDeferred (r.deferredReleases ++ d :: rest) := by
        simp [withDeferred, pushDeferred]
      rw [hstep]
      obtain ⟨h'', ended, he, hs'⟩ := ih released (hq ▸ h)
      exact ⟨h'', ended, he, hq ▸ hs'⟩

theorem collectDrainedReleases_inv (h : r.Inv u E leases F) :
    r.collectDrainedReleases.2.Inv u E leases F ∧
      Settles r r.collectDrainedReleases.1 r.collectDrainedReleases.2 := by
  obtain ⟨h', ended, he, hs⟩ := collectDeferreds_inv (r := { r with deferredReleases := [] })
    r.deferredReleases [] h
  refine ⟨h', ?_⟩
  rw [List.nil_append] at he
  refine (show Settles r ended _ from hs).perm ?_
  rw [← he]
  exact (List.mergeSort_perm _ _).symm

/-! ## Shutdown -/

/-- One iteration of the drain loop. -/
theorem drainKey_inv (h : r.LiveInv u leases F) (key : Text) :
    (r.drainKey key).LiveInv u leases F ∧ Settles r [] (r.drainKey key) ∧
      (∀ k, (r.drainKey key).activeByName.lookup k =
        if k = key then none else r.activeByName.lookup k) ∧
      (r.drainKey key).knownByName = r.knownByName ∧
      (r.drainKey key).nameByUserNo = r.nameByUserNo ∧
      (r.drainKey key).nextUserNo = r.nextUserNo := by
  unfold drainKey
  split
  next hnone =>
    refine ⟨h, Settles.refl, fun k => ?_, rfl, rfl, rfl⟩
    split
    next he => rw [he, hnone]
    next => rfl
  next a ha =>
    have hpark : (r.removeActive key).pushDeferred ⟨key, releasedIdentity a, a.operationGate⟩ =
        r.parkRecord key a (r.gates a.operationGate).state := by
      unfold parkRecord dropRecord
      rw [show r.setGate a.operationGate { r.gates a.operationGate with
        state := (r.gates a.operationGate).state } = r from setGate_self _]
    rw [hpark]
    exact ⟨parkRecord_live h ha (h.unretired (Live.of_active ha)), parkRecord_settles h ha,
      fun k => dropRecord_lookup, rfl, rfl, rfl⟩

/-- The drain loop empties every visited key. -/
theorem drainKeys_inv (visit : List Text) :
    ∀ {r : IdentityRegistry}, r.LiveInv u leases F →
      (visit.foldl drainKey r).LiveInv u leases F ∧ Settles r [] (visit.foldl drainKey r) ∧
        (∀ k, (visit.foldl drainKey r).activeByName.lookup k =
          if k ∈ visit then none else r.activeByName.lookup k) ∧
        (visit.foldl drainKey r).knownByName = r.knownByName ∧
        (visit.foldl drainKey r).nameByUserNo = r.nameByUserNo ∧
        (visit.foldl drainKey r).nextUserNo = r.nextUserNo := by
  induction visit with
  | nil => exact fun h => ⟨h, Settles.refl, by simp, rfl, rfl, rfl⟩
  | cons key visit ih =>
    intro r h
    obtain ⟨h₁, hs₁, hl₁, hk₁, hn₁, hu₁⟩ := drainKey_inv h key
    obtain ⟨h₂, hs₂, hl₂, hk₂, hn₂, hu₂⟩ := ih h₁
    refine ⟨h₂, hs₁.trans hs₂, fun k => ?_, hk₂.trans hk₁, hn₂.trans hn₁, hu₂.trans hu₁⟩
    rw [List.foldl_cons, hl₂, hl₁]
    by_cases hk : k = key <;> by_cases hv : k ∈ visit <;> simp [hk, hv]

theorem drainActive_inv (h : r.Inv u [] leases F) {visit : List Text} (hv : r.Visits visit) :
    (r.drainActive visit).2.Inv u [] leases F ∧
      Settles r (r.drainActive visit).1 (r.drainActive visit).2 := by
  have hclear : ({ r with sessionBindings := ∅ } : IdentityRegistry).LiveInv u leases F :=
    h.live.frame rfl rfl (Knows.of_eq rfl) (Nat.le_refl _) (Nat.le_refl _) rfl
  obtain ⟨hl, hs, hlook, hk, hn, hu⟩ := drainKeys_inv visit hclear
  -- every key of the active table was visited, so no record is left to check
  have hempty : ∀ k, (visit.foldl drainKey { r with sessionBindings := ∅ }).activeByName.lookup k
      = none := by
    intro k
    rw [hlook]
    split
    next => rfl
    next hnot =>
      rw [Finmap.lookup_eq_none, ← Finmap.mem_keys, ← hv.2, List.mem_toFinset]
      exact hnot
  have hinv : (visit.foldl drainKey { r with sessionBindings := ∅ }).Inv u [] leases F := by
    refine ⟨h.directory.frame hk hn hu, ?_, hl⟩
    intro k a ha
    rw [hempty] at ha
    exact absurd ha (by simp)
  obtain ⟨h', hs'⟩ := collectDrainedReleases_inv hinv
  have hclear' : Settles r [] ({ r with sessionBindings := ∅ } : IdentityRegistry) :=
    .of_same rfl rfl (fun _ => rfl) (Knows.of_eq rfl) (Nat.le_refl _)
  exact ⟨h', (hclear'.trans hs).trans hs'⟩

end IdentityRegistry

end P4475
