import P4475.Identity.Lifecycle

/-!
# The one-call migration

`complete_migration` against its contract: when it accepts, what a success hands
over, and that a failure leaves everything but two counters as it was.
-/

namespace P4475

open Lib IdentityRegistry

namespace IdentitySystem

variable {u : Unicode} {r r' : IdentityRegistry} {leases : List IdentityOperationLease}
  {F : List MigrationCandidate}

/-- The record a request names, and every check the request passed against it. -/
structure Accepted (r : IdentityRegistry) (destination : SessionId) (ip : IpAddr)
    (userNo : UserNo) (channelId : Nat) (token : MigrationToken) (now : Instant)
    (key : Text) (a : ActiveIdentity) (p : MigrationPermit) : Prop where
  unauthenticated : r.sessionBindings.lookup destination = none
  user : r.nameByUserNo.lookup userNo = some key
  record : r.activeByName.lookup key = some a
  permit : a.permit = some p
  unexpired : now < p.expiresAt
  channel : p.channel.channelId = channelId
  token : p.token = token
  sourceIp : p.sourceIp = ip
  generation : p.sourceGeneration = a.generation
  owner : a.owner = none ∨ a.owner = some p.sourceSession
  idle : a.transferInProgress = none
  drained : (r.gates a.operationGate).activeOperations = 0

/-- What the destination holds after a success, and the source no longer does. -/
structure HandedOver (u : Unicode) (r r' : IdentityRegistry) (destination : SessionId)
    (userNo : UserNo) (key : Text) (a : ActiveIdentity) (m : MigrationCompletion) : Prop where
  authorized : r'.authorize u destination = .ok m.binding
  only : ∀ s b, r'.authorize u s = .ok b → keyOf u b = key → s = destination
  later : a.generation.get < m.binding.generation.get
  fresh : ∀ {k g γ}, r.Live k g γ → g.get < m.binding.generation.get
  consumed : ∃ a', r'.activeByName.lookup key = some a' ∧ a'.owner = some destination ∧
    a'.generation = m.binding.generation ∧ a'.permit = none
  repeated : ∀ destination' ip' channelId' token' now' reserve',
    ∃ e, (r'.completeMigration destination' ip' userNo channelId' token' now' reserve').1
      = .error e
  unauthorized : ∀ s, a.owner = some s → r'.authorize u s = .error (.staleSession s)
  undisturbed : ∀ s now', s ≠ destination →
    (r'.disconnect u s now').2.activeByName.lookup key = r'.activeByName.lookup key

/-- Equal in everything a caller can observe; the two counters may have grown. -/
structure Unchanged (r r' : IdentityRegistry) : Prop where
  active : r'.activeByName = r.activeByName
  sessions : r'.sessionBindings = r.sessionBindings
  known : r'.knownByName = r.knownByName
  users : r'.nameByUserNo = r.nameByUserNo
  deferred : r'.deferredReleases = r.deferredReleases
  nextUserNo : r'.nextUserNo = r.nextUserNo
  gates : ∀ γ < r.nextGate, r'.gates γ = r.gates γ
  generation : r.nextGeneration ≤ r'.nextGeneration
  transferId : r.nextTransferId ≤ r'.nextTransferId

/-! ## Failure -/

/-- Aborting a ticket on the record it froze, whatever the counters did since. -/
theorem abort_frozen {a : ActiveIdentity} (preflight : MigrationPreflight)
    (ha : r'.activeByName.lookup preflight.canonicalNickname =
      some { a with transferInProgress := some preflight.transferId })
    (hw : (r'.gates a.operationGate).state = preflight.transferId.get)
    (hgen : a.generation = preflight.sourceGeneration)
    (hname : a.known.nickname = preflight.nickname) (hγ : a.operationGate = preflight.drainGate)
    (hp : exactPermit a.permit preflight = true) :
    (r'.abortPreflightedMigration preflight).2 =
      r'.thawed preflight.canonicalNickname
        { a with transferInProgress := some preflight.transferId } := by
  unfold abortPreflightedMigration
  rw [ha]
  dsimp only
  rw [if_neg]
  · unfold IdentityOperationGate.reopenExact
    rw [if_pos hw]
    rfl
  · simp [hgen, hname, hγ, hp]

/-- Freezing a record and thawing it again leaves the registry as it was. -/
theorem thawed_unchanged {key : Text} {a : ActiveIdentity} {t : MigrationTransferId}
    (ha : r.activeByName.lookup key = some a) (ht : a.transferInProgress = none)
    (hopen : (r.gates a.operationGate).state = IdentityOperationGate.open_)
    (hγ : a.operationGate < r.nextGate)
    (hactive : r'.activeByName = r.activeByName.insert key { a with transferInProgress := some t })
    (hgates : ∀ γ < r.nextGate, r'.gates γ =
      if γ = a.operationGate then { r.gates γ with state := t.get } else r.gates γ)
    (hs : r'.sessionBindings = r.sessionBindings) (hk : r'.knownByName = r.knownByName)
    (hn : r'.nameByUserNo = r.nameByUserNo) (hd : r'.deferredReleases = r.deferredReleases)
    (hu : r'.nextUserNo = r.nextUserNo) (hgen : r.nextGeneration ≤ r'.nextGeneration)
    (htr : r.nextTransferId ≤ r'.nextTransferId) :
    Unchanged r (r'.thawed key { a with transferInProgress := some t }) where
  active := by
    show Finmap.insert key _ r'.activeByName = _
    rw [hactive, Finmap.insert_insert]
    refine Finmap.ext_lookup fun k => ?_
    rw [Map.lookup_insert_ite]
    split
    next he =>
      rw [he, ha, ← ht]
    next => rfl
  sessions := hs
  known := hk
  users := hn
  deferred := hd
  nextUserNo := hu
  gates := by
    intro γ hlt
    show (r'.setGate a.operationGate _).gates γ = _
    rw [setGate_gates]
    split
    next he =>
      subst he
      rw [hgates _ hγ, if_pos rfl, ← hopen]
    next he => rw [hgates γ hlt, if_neg he]
  generation := hgen
  transferId := htr

/-- **A failed migration changes nothing** but the two counters. -/
theorem completeMigration_error (h : r.Inv u [] leases F) {destination : SessionId}
    {ip : IpAddr} {userNo : UserNo} {channelId : Nat} {token : MigrationToken} {now : Instant}
    {reserve : Bool} {e : IdentityError}
    (he : r.completeMigration destination ip userNo channelId token now reserve =
      (.error e, r')) : Unchanged r r' := by
  unfold completeMigration at he
  rcases preflightMigration_cases r destination ip userNo channelId token now with
    ⟨e', n, hn, hp⟩ | ⟨v, hv, ht, h0, hmax, hopen, hp⟩
  · rw [hp] at he
    cases he
    exact ⟨rfl, rfl, rfl, rfl, rfl, rfl, fun _ _ => rfl, Nat.le_refl _, hn⟩
  · rw [hp] at he
    dsimp only at he
    have hval := validateMigration_ok hv
    have hbound := (h.live.bounded (Live.of_active hval.active)).2
    have hf := frozen_inv h hval.active (by rw [hval.permit]; rfl) h0 hmax
    have hexact : exactPermit v.active.permit
        (r.ticket destination ip userNo channelId token v) = true := by
      unfold exactPermit ticket
      rw [hval.permit]
      simp [hval.userNo, hval.token]
    -- the abort of either failure path meets the record exactly as it was frozen
    have habort : ∀ {x : IdentityRegistry},
        x.activeByName = (r.frozen v.canonicalNickname v.active).activeByName →
        (∀ γ < r.nextGate, x.gates γ = (r.frozen v.canonicalNickname v.active).gates γ) →
        x.sessionBindings = r.sessionBindings → x.knownByName = r.knownByName →
        x.nameByUserNo = r.nameByUserNo → x.deferredReleases = r.deferredReleases →
        x.nextUserNo = r.nextUserNo → r.nextGeneration ≤ x.nextGeneration →
        r.nextTransferId ≤ x.nextTransferId →
        Unchanged r (x.abortPreflightedMigration
          (r.ticket destination ip userNo channelId token v)).2 := by
      intro x hxa hxg hxs hxk hxn hxd hxu hgen htr
      have hgates : ∀ γ < r.nextGate, x.gates γ =
          if γ = v.active.operationGate then { r.gates γ with state := r.nextTransferId }
            else r.gates γ := by
        intro γ hlt
        rw [hxg γ hlt]
        show (IdentityRegistry.setGate _ _ _).gates γ = _
        rw [setGate_gates]
        split
        next hγ => rw [hγ]
        next => rfl
      have hrec : x.activeByName.lookup v.canonicalNickname =
          some { v.active with transferInProgress := some ⟨r.nextTransferId⟩ } := by
        rw [hxa]
        exact (setActive_lookup _ _ _).trans (if_pos rfl)
      have hword : (x.gates v.active.operationGate).state = r.nextTransferId := by
        rw [hgates _ hbound, if_pos rfl]
      rw [abort_frozen (r.ticket destination ip userNo channelId token v)
        hrec hword hval.generation.symm rfl rfl hexact]
      exact thawed_unchanged hval.active ht hopen hbound hxa hgates hxs hxk hxn hxd hxu hgen htr
    rcases completePreflighted_cases hf (r.ticket destination ip userNo channelId token v) now 0
      reserve with ⟨e', n, hn, hx⟩ | ⟨e', w, _, hx⟩ | ⟨w, _, _, hx⟩
    · rw [hx] at he
      cases he
      exact habort rfl (fun _ _ => rfl) rfl rfl rfl rfl rfl hn (Nat.le_succ _)
    · rw [hx] at he
      cases he
      refine habort rfl (fun γ hlt => ?_) rfl rfl rfl rfl rfl (Nat.le_succ _) (Nat.le_succ _)
      exact Function.update_of_ne (Nat.ne_of_lt hlt) _ _
    · rw [hx] at he
      exact absurd (congrArg Prod.fst he) (by simp)

/-! ## Success -/

theorem authorize_of {session : SessionId} {b : IdentityBinding} {a : ActiveIdentity}
    (hb : r.sessionBindings.lookup session = some b)
    (ha : r.activeByName.lookup (keyOf u b) = some a) (ho : a.owner = some session)
    (hg : a.generation = b.generation) (ht : a.transferInProgress = none) :
    r.authorize u session = .ok b := by
  unfold authorize
  rw [hb]
  dsimp only
  rw [show r.activeByName.lookup (canonicalNicknameKey u b.nickname) = some a from ha]
  dsimp only
  rw [if_neg (by simp [ho, hg]), if_neg (by simp [ht])]

/-- A session bound under a record that another session owns is stale. -/
theorem authorize_stale {session : SessionId} {b : IdentityBinding} {a : ActiveIdentity}
    (hb : r.sessionBindings.lookup session = some b)
    (ha : r.activeByName.lookup (keyOf u b) = some a) (ho : a.owner ≠ some session) :
    r.authorize u session = .error (.staleSession session) := by
  unfold authorize
  rw [hb]
  dsimp only
  rw [show r.activeByName.lookup (canonicalNicknameKey u b.nickname) = some a from ha]
  dsimp only
  rw [if_pos (Or.inl ho)]

/-- A disconnect by a session that does not own a record leaves it alone. -/
theorem disconnect_other (h : r.Inv u [] leases F) {key : Text} {a : ActiveIdentity}
    {session : SessionId} (ha : r.activeByName.lookup key = some a)
    (ho : a.owner ≠ some session) (now : Instant) :
    (r.disconnect u session now).2.activeByName.lookup key = some a := by
  have hne : ∀ {k b}, r.activeByName.lookup k = some b → b.owner = some session → key ≠ k := by
    rintro k b hb hbo rfl
    rw [ha] at hb
    cases hb
    exact ho hbo
  rcases disconnect_cases h session now with ⟨_, he⟩ | ⟨b, _, he⟩ | ⟨k, b, p, hb, hbo, _, _, he⟩
    | ⟨k, b, hb, hbo, ⟨_, he⟩ | ⟨_, he⟩⟩
  · rw [he]; exact ha
  · rw [he]; exact ha
  · rw [he]
    exact (setActive_lookup _ _ _).trans ((if_neg (hne hb hbo)).trans ha)
  · rw [he]
    exact dropRecord_lookup.trans ((if_neg (hne hb hbo)).trans ha)
  · rw [he]
    exact dropRecord_lookup.trans ((if_neg (hne hb hbo)).trans ha)

/-- A record without a permit turns every request for its user away. -/
theorem completeMigration_refused {key : Text} {a : ActiveIdentity} {userNo : UserNo}
    (hu : r.nameByUserNo.lookup userNo = some key) (ha : r.activeByName.lookup key = some a)
    (hp : a.permit = none) (destination : SessionId) (ip : IpAddr) (channelId : Nat)
    (token : MigrationToken) (now : Instant) (reserve : Bool) :
    ∃ e, (r.completeMigration destination ip userNo channelId token now reserve).1 = .error e := by
  have hv : ∃ e, r.validateMigration destination ip userNo channelId token now = .error e := by
    unfold validateMigration
    split
    · exact ⟨_, rfl⟩
    · rw [hu]
      dsimp only
      rw [ha]
      dsimp only
      rw [hp]
      exact ⟨_, rfl⟩
  obtain ⟨e, hv⟩ := hv
  refine ⟨e, ?_⟩
  unfold completeMigration preflightMigration
  rw [hv]

/-- **A successful migration** passed every check, and hands the record over
whole. -/
theorem completeMigration_success (h : r.Inv u [] leases F) {destination : SessionId}
    {ip : IpAddr} {userNo : UserNo} {channelId : Nat} {token : MigrationToken} {now : Instant}
    {reserve : Bool} {m : MigrationCompletion}
    (he : r.completeMigration destination ip userNo channelId token now reserve = (.ok m, r')) :
    ∃ key a p, Accepted r destination ip userNo channelId token now key a p ∧
      HandedOver u r r' destination userNo key a m := by
  have hinv := completeMigration_inv h destination ip userNo channelId token now reserve
  rw [he] at hinv
  unfold completeMigration at he
  rcases preflightMigration_cases r destination ip userNo channelId token now with
    ⟨e', n, hn, hp⟩ | ⟨v, hv, ht, h0, hmax, hopen, hp⟩
  · rw [hp] at he
    exact absurd (congrArg Prod.fst he) (by simp)
  · rw [hp] at he
    dsimp only at he
    have hval := validateMigration_ok hv
    have hold := h.record hval.active
    have hf := frozen_inv h hval.active (by rw [hval.permit]; rfl) h0 hmax
    rcases completePreflighted_cases hf (r.ticket destination ip userNo channelId token v) now 0
      reserve with ⟨e', n, hn, hx⟩ | ⟨e', w, _, hx⟩ | ⟨w, hw, hg, hx⟩
    · rw [hx] at he
      exact absurd (congrArg Prod.fst he) (by simp)
    · rw [hx] at he
      exact absurd (congrArg Prod.fst he) (by simp)
    · rw [hx] at he
      obtain ⟨hm, hr'⟩ := Prod.mk.inj he
      replace hm := Except.ok.inj hm
      have hkey : w.canonicalNickname = v.canonicalNickname := hw.nickname
      have hrecord : w.active = { v.active with transferInProgress := some ⟨r.nextTransferId⟩ } :=
        Option.some.inj (hw.validated.active.symm.trans
          (by rw [hkey]; exact (setActive_lookup _ _ _).trans (if_pos rfl)))
      have hactive : ∀ k, r'.activeByName.lookup k =
          if k = v.canonicalNickname then some (successor w.active
            (commitOf (r.ticket destination ip userNo channelId token v)
              ((r.frozen v.canonicalNickname v.active).candidateOf
                (r.ticket destination ip userNo channelId token v) w)))
          else (r.frozen v.canonicalNickname v.active).activeByName.lookup k := by
        intro k
        rw [← hr', ← hkey]
        exact setActive_lookup _ _ _
      have hrec := (hactive v.canonicalNickname).trans (if_pos rfl)
      have hsessions : ∀ s, r'.sessionBindings.lookup s =
          if s = destination then some m.binding else r.sessionBindings.lookup s := by
        intro s
        rw [← hr', ← hm]
        exact Map.lookup_insert_ite _ _ _ _
      have hgen : m.binding.generation.get = r.nextGeneration := by rw [← hm]; rfl
      have hnick : m.binding.nickname = v.active.known.nickname := by
        rw [← hm]
        show w.active.known.nickname = _
        rw [hrecord]
      have hkeyOf : keyOf u m.binding = v.canonicalNickname := by
        unfold keyOf
        rw [hnick]
        exact h.directory.key hold.known
      refine ⟨v.canonicalNickname, v.active, v.permit, {
        unauthenticated := hval.session
        user := hval.user
        record := hval.active
        permit := hval.permit
        unexpired := hval.unexpired
        channel := hval.channel
        token := hval.token
        sourceIp := hval.sourceIp
        generation := hval.generation
        owner := by
          cases ho : v.active.owner with
          | none => exact Or.inl rfl
          | some s => exact Or.inr (by rw [hval.owner s ho])
        idle := ht
        drained := by
          rw [← (frozen_settles hval.active).count]
          exact hw.drained }, {
        authorized := by
          refine authorize_of ((hsessions destination).trans (if_pos rfl))
            (by rw [hkeyOf]; exact hrec) rfl ?_ rfl
          rw [← hm]
          rfl
        only := by
          intro s b hb hk
          obtain ⟨_, b', hb', ho, _⟩ := authorize_ok u hb
          rw [show canonicalNicknameKey u b.nickname = v.canonicalNickname from hk, hrec] at hb'
          cases hb'
          exact (Option.some.inj ho).symm
        later := by
          rw [hgen]
          exact (h.live.bounded (Live.of_active hval.active)).1
        fresh := fun hl => by
          rw [hgen]
          exact (h.live.bounded hl).1
        consumed := ⟨_, hrec, rfl, by rw [← hm]; rfl, rfl⟩
        repeated := by
          refine completeMigration_refused ?_ hrec rfl
          rw [← hr']
          exact hval.user
        unauthorized := by
          intro s ho
          have hbound := hold.bound s ho
          have hne : s ≠ destination := by
            rintro rfl
            rw [hval.session] at hbound
            exact absurd hbound (by simp)
          have hbinding := (hsessions s).trans ((if_neg hne).trans hbound)
          have hsource : keyOf u (identityBinding v.active s) = v.canonicalNickname :=
            h.directory.key hold.known
          have hrecord' := hsource ▸ hrec
          exact authorize_stale hbinding hrecord' fun hs => hne (Option.some.inj hs).symm
        undisturbed := by
          intro s now' hne
          rw [hrec]
          refine disconnect_other hinv hrec ?_ now'
          intro hs
          exact hne (Option.some.inj hs).symm }⟩

/-- **The contract of `complete_migration`** in every reachable registry. -/
theorem completeMigration_contract {instantMax : Instant} {s : IdentitySystem}
    (h : (machine u instantMax).Reachable s) (destination : SessionId) (ip : IpAddr)
    (userNo : UserNo) (channelId : Nat) (token : MigrationToken) (now : Instant)
    (reserve : Bool) :
    (∀ m r', s.registry.completeMigration destination ip userNo channelId token now reserve
        = (.ok m, r') →
      ∃ key a p, Accepted s.registry destination ip userNo channelId token now key a p ∧
        HandedOver u s.registry r' destination userNo key a m) ∧
    (∀ e r', s.registry.completeMigration destination ip userNo channelId token now reserve
        = (.error e, r') → Unchanged s.registry r') :=
  have hinv := (good_of_reachable h).inv
  ⟨fun _ _ he => completeMigration_success hinv he,
    fun _ _ he => completeMigration_error hinv he⟩

/-- A login holding a permit for its next hop. -/
def permittedActions : List IdentityAction :=
  [.claim ⟨1⟩ (.v4 5) ['a'] 0, .beginMigration ⟨1⟩ ⟨3, 0⟩ sampleToken 10]

theorem permittedActions_run :
    ((machine plain u64Max).exec .initial [] permittedActions).isSome = true := by
  decide +kernel

/-- The run of `permittedActions`. -/
def permitted : Transcript × IdentitySystem :=
  ((machine plain u64Max).exec .initial [] permittedActions).get permittedActions_run

theorem permitted_reachable : (machine plain u64Max).Reachable permitted.2 :=
  ⟨permitted.1, Machine.history_of_exec permittedActions .init
    (Option.some_get permittedActions_run).symm⟩

theorem permitted_accepted : ∃ key a p,
    Accepted permitted.2.registry ⟨2⟩ (.v4 5) sampleUser 3 sampleToken 11 key a p := by
  have h := completeMigration_contract permitted_reachable ⟨2⟩ (.v4 5) sampleUser 3 sampleToken
    11 true
  have hok : (permitted.2.registry.completeMigration ⟨2⟩ (.v4 5) sampleUser 3 sampleToken 11
      true).1.toOption.isSome = true := by
    decide +kernel
  rcases hc : permitted.2.registry.completeMigration ⟨2⟩ (.v4 5) sampleUser 3 sampleToken 11
    true with ⟨result, r'⟩
  rw [hc] at hok
  cases result with
  | error e => exact absurd hok (by simp [Except.toOption])
  | ok m =>
    obtain ⟨key, a, p, hacc, _⟩ := h.1 m r' hc
    exact ⟨key, a, p, hacc⟩

end IdentitySystem

end P4475
