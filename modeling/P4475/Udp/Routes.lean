import P4475.Udp.Runs
import P4475.Identity.Safety

/-!
# Where a route comes from

Every resolved target goes back to a bind that was allowed to choose it. A step
is one or two primitive edits of the state (`Edit`), each leaving an event; the
events of a transcript say what the invariant `Routed` is about. The
strict order of activations is what keeps an entry of an older generation from
ever becoming current again.
-/

namespace P4475.Udp

open Lib

namespace UdpEndpointState

variable {s s' : UdpEndpointState}

/-! ## Events -/

/-- What a step did, as far as routes are concerned. -/
inductive UdpEvent
  | activated (userNo : UserNo) (generation : IdentityGeneration)
  | bound (transport : UdpTransport) (identity : IdentityBinding) (source : SocketAddr)
      (arrivalEpoch : Nat)
  | released (userNo : UserNo) (generation : IdentityGeneration)
  | cleared
  deriving DecidableEq

/-- The event of an activation. -/
def activatedEvent (activated : Option (UserNo × IdentityGeneration)) : List UdpEvent :=
  activated.toList.map fun a => .activated a.1 a.2

/-- The events of one step, latest first. -/
def eventsOf : UdpAction → UdpResponse → List UdpEvent
  | .bindAt transport identity source _ arrivalEpoch, ⟨.ingress (.ok _), _⟩ =>
    [.bound transport identity source arrivalEpoch]
  | .bindIngress _ transport _ source _, ⟨.ingress (.ok b), activated⟩ =>
    .bound transport b.identity source u64Max :: activatedEvent activated
  | .remove identity, _ => [.released identity.userNo identity.generation]
  | .clear, _ => [.cleared]
  | _, ⟨_, activated⟩ => activatedEvent activated

def events (tr : Transcript) : List UdpEvent := tr.flatMap fun e => eventsOf e.1 e.2

/-- Each activation of a user number is of a later generation than the ones
before it. -/
def ActivationsIncrease (evs : List UdpEvent) : Prop :=
  evs.Pairwise fun later earlier => ∀ x g g', later = .activated x g →
    earlier = .activated x g' → g'.get < g.get

/-- An event after which a route of this generation must be bound anew. -/
def EndsRoute (userNo : UserNo) (generation : IdentityGeneration) (event : UdpEvent) : Prop :=
  event = .cleared ∨ event = .released userNo generation

/-! ## Edits -/

/-- One primitive edit of the state and the event it leaves. -/
inductive Edit (s : UdpEndpointState) : List UdpEvent → UdpEndpointState → Prop
  | same : Edit s [] s
  | activate (identity : IdentityBinding) (h : s.activates identity = true) :
      Edit s [.activated identity.userNo identity.generation] (s.activated identity)
  | bind {transport : UdpTransport} {identity : IdentityBinding} {source : SocketAddr}
      {routeHash : BitVec 32} {arrivalEpoch : Nat} {b : UdpIngressBinding}
      {s' : UdpEndpointState} (h : BindOk s transport identity source routeHash arrivalEpoch b s') :
      Edit s [.bound transport identity source arrivalEpoch] s'
  | rebind {identity : IdentityBinding} {a : ActiveIdentity} {boundaryEpoch : Nat}
      (ha : s.active.lookup identity.userNo = some a)
      (hg : a.generation = identity.generation)
      (hb : s.advancesBoundary identity boundaryEpoch = true) :
      Edit s [] (s.rebound identity a boundaryEpoch)
  | remove (identity : ReleasedIdentity) (h : s.removes identity = true) :
      Edit s [.released identity.userNo identity.generation] (s.removed identity)
  | stale (identity : ReleasedIdentity) (h : s.removes identity = false) :
      Edit s [.released identity.userNo identity.generation] s
  | clear : Edit s [.cleared] s.clear

theorem advance_edit (s : UdpEndpointState) (identity : IdentityBinding) :
    Edit s (activatedEvent (s.activation identity)) (s.advanceIdentity identity).2 := by
  rcases advanceIdentity_cases s identity with ⟨ha, result, he⟩ | ⟨ha, he⟩
  · rw [he]
    unfold activation
    rw [ha]
    exact .same
  · rw [he]
    unfold activation
    rw [if_pos ha]
    exact .activate identity ha

/-- A step is at most two edits: `bind_ingress` advances, then binds. -/
theorem step_edit {action : UdpAction} {response : UdpResponse}
    (hs : s.step action = some (response, s')) :
    ∃ s₁ first second, Edit s first s₁ ∧ Edit s₁ second s' ∧ s'.active = s₁.active ∧
      eventsOf action response = second ++ first := by
  cases action with
  | advance identity =>
    have hedit := advance_edit s identity
    rcases hr : s.advanceIdentity identity with ⟨result, s₁⟩
    rw [hr] at hedit
    simp only [step, hr, Option.some.injEq, Prod.mk.injEq] at hs
    obtain ⟨rfl, rfl⟩ := hs
    exact ⟨_, _, _, hedit, .same, rfl, rfl⟩
  | bindAt transport identity source routeHash arrivalEpoch =>
    rcases bindAuthorizedIngressAt_cases s transport identity source routeHash arrivalEpoch with
      ⟨e, he⟩ | ⟨b, s₁, he, hb⟩
    · simp only [step, he, Option.some.injEq, Prod.mk.injEq] at hs
      obtain ⟨rfl, rfl⟩ := hs
      exact ⟨_, _, _, .same, .same, rfl, rfl⟩
    · simp only [step, he, Option.some.injEq, Prod.mk.injEq] at hs
      obtain ⟨rfl, rfl⟩ := hs
      exact ⟨_, _, _, .bind hb, .same, rfl, rfl⟩
  | bindIngress identities transport accountId source routeHash =>
    rcases bindIngress_cases s identities transport accountId source routeHash with
      ⟨hi, e, he⟩ | ⟨identity, hi, hc⟩
    · simp only [step, he, hi, Option.some.injEq, Prod.mk.injEq] at hs
      obtain ⟨rfl, rfl⟩ := hs
      exact ⟨_, _, _, .same, .same, rfl, rfl⟩
    · have hedit := advance_edit s identity
      rcases hc with ⟨e, he⟩ | he
      · simp only [step, he, hi, Option.some.injEq, Prod.mk.injEq] at hs
        obtain ⟨rfl, rfl⟩ := hs
        exact ⟨_, _, _, hedit, .same, rfl, rfl⟩
      · rcases bindAuthorizedIngressAt_cases (s.advanceIdentity identity).2 transport identity
          source routeHash u64Max with ⟨e, hx⟩ | ⟨b, s₁, hx, hb⟩
        · rw [hx] at he
          simp only [step, he, hi, Option.some.injEq, Prod.mk.injEq] at hs
          obtain ⟨rfl, rfl⟩ := hs
          exact ⟨_, _, _, hedit, .same, rfl, rfl⟩
        · rw [hx] at he
          simp only [step, he, hi, Option.some.injEq, Prod.mk.injEq] at hs
          obtain ⟨rfl, rfl⟩ := hs
          refine ⟨_, _, _, hedit, .bind hb, by rw [hb.state]; simp, ?_⟩
          show UdpEvent.bound transport b.identity source u64Max :: _ = _
          rw [hb.caller]
          rfl
  | rebind identity boundaryEpoch =>
    rcases authorizeRebind_cases s identity boundaryEpoch with ⟨_, result, he⟩ | ⟨hb, a, ha, hg, he⟩
    · simp only [step, he, Option.some.injEq, Prod.mk.injEq] at hs
      obtain ⟨rfl, rfl⟩ := hs
      exact ⟨_, _, _, .same, .same, rfl, rfl⟩
    · simp only [step, he, Option.some.injEq, Prod.mk.injEq] at hs
      obtain ⟨rfl, rfl⟩ := hs
      exact ⟨_, _, _, .rebind ha hg hb, .same, rfl, rfl⟩
  | remove identity =>
    simp only [step, removeReleasedIdentity_eq, Option.some.injEq, Prod.mk.injEq] at hs
    obtain ⟨rfl, rfl⟩ := hs
    cases hr : s.removes identity with
    | true => exact ⟨_, _, _, .remove identity hr, .same, rfl, rfl⟩
    | false => exact ⟨_, _, _, .stale identity hr, .same, rfl, rfl⟩
  | clear =>
    simp only [step, Option.some.injEq, Prod.mk.injEq] at hs
    obtain ⟨rfl, rfl⟩ := hs
    exact ⟨_, _, _, .clear, .same, rfl, rfl⟩

/-! ## Provenance -/

/-- A bind among `evs` that chose `endpoint` for this user and generation, with
nothing since that ends such a route. -/
def BoundBy (evs : List UdpEvent) (transport : UdpTransport) (userNo : UserNo)
    (a : ActiveIdentity) (endpoint : SocketAddr) : Prop :=
  ∃ later identity arrivalEpoch earlier,
    evs = later ++ .bound transport identity endpoint arrivalEpoch :: earlier ∧
    identity.userNo = userNo ∧ identity.generation = a.generation ∧
    identity.sourceIp = a.sourceIp ∧ endpoint.ip = a.sourceIp ∧ endpoint.port ≠ 0 ∧
    (∀ boundary, a.reconnectBoundaryEpoch = some boundary → boundary < arrivalEpoch) ∧
    ∀ event ∈ later, ¬ EndsRoute userNo a.generation event

/-- What the mirror and the tables owe to the events so far. -/
structure Routed (evs : List UdpEvent) (s : UdpEndpointState) : Prop where
  mirror : ∀ {x a}, s.active.lookup x = some a → .activated x a.generation ∈ evs
  entry : ∀ {t x e}, (s.table t).lookup x = some e → .activated x e.generation ∈ evs
  bound : ∀ {t x e a}, (s.table t).lookup x = some e → s.active.lookup x = some a →
    a.generation = e.generation → BoundBy evs t x a e.endpoint

/-- A bind stays the last word until its route is ended. -/
theorem BoundBy.cons {evs : List UdpEvent} {t : UdpTransport} {x : UserNo} {a : ActiveIdentity}
    {endpoint : SocketAddr} {event : UdpEvent} (h : BoundBy evs t x a endpoint)
    (he : ¬ EndsRoute x a.generation event) : BoundBy (event :: evs) t x a endpoint := by
  obtain ⟨later, identity, epoch, earlier, rfl, h₁, h₂, h₃, h₄, h₅, h₆, hno⟩ := h
  refine ⟨event :: later, identity, epoch, earlier, rfl, h₁, h₂, h₃, h₄, h₅, h₆, ?_⟩
  exact List.forall_mem_cons.mpr ⟨he, hno⟩

/-- A newly activated generation has no entry yet: it would have been activated
before. -/
theorem Routed.fresh {evs : List UdpEvent} (h : Routed evs s) {identity : IdentityBinding}
    (hinc : ActivationsIncrease (.activated identity.userNo identity.generation :: evs))
    {t : UdpTransport} {e : UdpEndpointBinding}
    (he : (s.table t).lookup identity.userNo = some e) :
    e.generation ≠ identity.generation := by
  intro hg
  have hlt := (List.pairwise_cons.mp hinc).1 _ (h.entry he) _ _ _ rfl rfl
  rw [hg] at hlt
  exact Nat.lt_irrefl _ hlt

/-- Each edit keeps provenance. -/
theorem Edit.routed {evs new : List UdpEvent} (hedit : Edit s new s') (h : Routed evs s)
    (hinc : ActivationsIncrease (new ++ evs)) : Routed (new ++ evs) s' := by
  cases hedit with
  | same => exact h
  | activate identity hact =>
    exact {
      mirror := by
        intro x a ha
        simp only [activated, Map.lookup_insert_ite] at ha
        split at ha
        next he => cases ha; rw [he]; exact List.mem_cons_self ..
        next => exact List.mem_cons_of_mem _ (h.mirror ha)
      entry := by
        intro t x e he
        rw [table_activated] at he
        exact List.mem_cons_of_mem _ (h.entry he)
      bound := by
        intro t x e a he ha hg
        rw [table_activated] at he
        simp only [activated, Map.lookup_insert_ite] at ha
        split at ha
        next hx =>
          subst hx
          cases ha
          exact absurd hg.symm (h.fresh hinc he)
        next => exact (h.bound he ha hg).cons (by simp [EndsRoute]) }
  | @bind t₀ identity source routeHash epoch b _ hb =>
    obtain ⟨a₀, ha₀, hg₀, hip₀, hboundary⟩ := hb.active
    have htable : ∀ t x, (s'.table t).lookup x =
        if t = t₀ ∧ x = identity.userNo then
          some ⟨source, routeHash, identity.generation, false⟩
        else (s.table t).lookup x := by
      intro t x
      rw [hb.state, setTable_table]
      by_cases ht : t = t₀
      · subst ht
        simp
      · simp [ht]
    have hactive : s'.active = s.active := by rw [hb.state]; simp
    exact {
      mirror := by
        intro x a ha
        rw [hactive] at ha
        exact List.mem_cons_of_mem _ (h.mirror ha)
      entry := by
        intro t x e he
        rw [htable] at he
        split at he
        next hx =>
          cases he
          rw [hx.2]
          exact List.mem_cons_of_mem _ (hg₀ ▸ h.mirror ha₀)
        next => exact List.mem_cons_of_mem _ (h.entry he)
      bound := by
        intro t x e a he ha hg
        rw [hactive] at ha
        rw [htable] at he
        split at he
        next hx =>
          obtain ⟨rfl, rfl⟩ := hx
          cases he
          cases ha₀.symm.trans ha
          exact ⟨[], identity, epoch, evs, rfl, rfl, hg.symm, hip₀.symm, hb.ip.trans hip₀.symm,
            hb.port, hboundary, by simp⟩
        next => exact (h.bound he ha hg).cons (by simp [EndsRoute]) }
  | @rebind identity a₀ boundaryEpoch ha₀ hg₀ _ =>
    have hold : ∀ {t x e}, ((s.rebound identity a₀ boundaryEpoch).table t).lookup x = some e →
        (s.table t).lookup x = some e ∧
          (x = identity.userNo → e.generation ≠ identity.generation) := by
      intro t x e he
      rw [table_rebound, GenerationEndpointTable.lookup_release] at he
      split at he
      next hx =>
        rw [Option.filter_eq_some_iff] at he
        exact ⟨he.1, fun _ => by simpa using he.2⟩
      next hx => exact ⟨he, fun hx' => absurd hx' hx⟩
    have hactive : ∀ {x a}, (s.rebound identity a₀ boundaryEpoch).active.lookup x = some a →
        (x = identity.userNo ∧ a.generation = identity.generation) ∨
          s.active.lookup x = some a := by
      intro x a ha
      simp only [rebound, Map.lookup_insert_ite] at ha
      split at ha
      next hx => cases ha; exact Or.inl ⟨hx, hg₀⟩
      next => exact Or.inr ha
    exact {
      mirror := by
        intro x a ha
        rcases hactive ha with ⟨hx, hg⟩ | ha
        · rw [hx, hg, ← hg₀]
          exact h.mirror ha₀
        · exact h.mirror ha
      entry := fun he => h.entry (hold he).1
      bound := by
        intro t x e a he ha hg
        obtain ⟨he, hne⟩ := hold he
        rcases hactive ha with ⟨hx, hg'⟩ | ha
        · exact absurd (hg.symm.trans hg') (hne hx)
        · exact h.bound he ha hg }
  | remove identity hr =>
    have hold : ∀ {t x e}, ((s.removed identity).table t).lookup x = some e →
        (s.table t).lookup x = some e := by
      intro t x e he
      rw [table_removed, GenerationEndpointTable.lookup_release] at he
      split at he
      next => exact (Option.filter_eq_some_iff.mp he).1
      next => exact he
    have hactive : ∀ {x a}, (s.removed identity).active.lookup x = some a →
        x ≠ identity.userNo ∧ s.active.lookup x = some a := by
      intro x a ha
      simp only [removed, Map.lookup_erase_ite] at ha
      split at ha
      next => exact absurd ha (by simp)
      next hx => exact ⟨hx, ha⟩
    exact {
      mirror := fun ha => List.mem_cons_of_mem _ (h.mirror (hactive ha).2)
      entry := fun he => List.mem_cons_of_mem _ (h.entry (hold he))
      bound := by
        intro t x e a he ha hg
        obtain ⟨hx, ha⟩ := hactive ha
        refine (h.bound (hold he) ha hg).cons ?_
        rintro (hc | hc)
        · exact absurd hc (by simp)
        · injection hc with hx'
          exact hx hx'.symm }
  | stale identity hr =>
    exact {
      mirror := fun ha => List.mem_cons_of_mem _ (h.mirror ha)
      entry := fun he => List.mem_cons_of_mem _ (h.entry he)
      bound := by
        intro t x e a he ha hg
        refine (h.bound he ha hg).cons ?_
        rintro (hc | hc)
        · exact absurd hc (by simp)
        · -- the release names a generation the mirror does not hold
          injection hc with hx hgen
          unfold removes at hr
          rw [hx, ha] at hr
          exact absurd hgen.symm (by simpa using hr) }
  | clear =>
    exact {
      mirror := fun ha => absurd ha (by simp [UdpEndpointState.clear])
      entry := by
        intro t x e he
        cases t <;> exact absurd he (by simp [UdpEndpointState.clear, table])
      bound := fun _ ha => absurd ha (by simp [UdpEndpointState.clear]) }

theorem ActivationsIncrease.of_append {xs ys : List UdpEvent}
    (h : ActivationsIncrease (xs ++ ys)) : ActivationsIncrease ys :=
  List.Pairwise.sublist (List.sublist_append_right _ _) h

/-- **Provenance of every run**, by induction on the transcript. -/
theorem routed_of_history {maximum : Nat} {tr : Transcript}
    (h : (machine maximum).History tr s) (hinc : ActivationsIncrease (events tr)) :
    Routed (events tr) s := by
  revert hinc
  refine Machine.History.invariant
    (P := fun tr s => ActivationsIncrease (events tr) → Routed (events tr) s) ?_ ?_ h
  · intro _
    have hempty : ∀ t, ((machine maximum).init.table t) = ∅ := fun t => by cases t <;> rfl
    exact {
      mirror := fun ha => absurd ha (by simp [machine, withMaxActiveIdentities])
      entry := fun he => by rw [hempty] at he; exact absurd he (by simp)
      bound := fun he => by rw [hempty] at he; exact absurd he (by simp) }
  · intro tr s s' action response _ ih hs hinc
    obtain ⟨s₁, first, second, h₁, h₂, _, hev⟩ := step_edit hs
    have hcons : events ((action, response) :: tr) = second ++ (first ++ events tr) := by
      unfold events
      rw [List.flatMap_cons, hev, List.append_assoc]
    rw [hcons] at hinc ⊢
    have hinc₁ := hinc.of_append
    exact h₂.routed (h₁.routed (ih hinc₁.of_append) hinc₁) hinc

/-! ## The first endpoint wins -/

/-- A step after which a user's route may point elsewhere: its generation
advances or is released, its boundary advances, or everything is cleared. -/
def disturbs (s : UdpEndpointState) (userNo : UserNo) : UdpAction → Bool
  | .advance identity => identity.userNo = userNo && s.activates identity
  | .bindAt .. => false
  | .bindIngress identities _ accountId _ _ =>
    (ingressIdentity identities accountId).any fun identity =>
      identity.userNo = userNo && s.activates identity
  | .rebind identity boundaryEpoch =>
    identity.userNo = userNo && s.advancesBoundary identity boundaryEpoch
  | .remove identity => identity.userNo = userNo && s.removes identity
  | .clear => true

theorem advance_undisturbed {identity : IdentityBinding} {x : UserNo}
    (h : (identity.userNo = x && s.activates identity) = false) :
    (s.advanceIdentity identity).2.active.lookup x = s.active.lookup x := by
  rcases advanceIdentity_cases s identity with ⟨_, result, he⟩ | ⟨ha, he⟩
  · rw [he]
  · rw [he]
    simp only [ha, Bool.and_true, decide_eq_false_iff_not] at h
    show (Finmap.insert identity.userNo _ s.active).lookup x = _
    rw [Map.lookup_insert_ite, if_neg (Ne.symm h)]

theorem bindAt_active (s : UdpEndpointState) (transport : UdpTransport)
    (identity : IdentityBinding) (source : SocketAddr) (routeHash : BitVec 32)
    (arrivalEpoch : Nat) :
    (s.bindAuthorizedIngressAt transport identity source routeHash arrivalEpoch).2.active =
      s.active := by
  rcases bindAuthorizedIngressAt_cases s transport identity source routeHash arrivalEpoch with
    ⟨e, he⟩ | ⟨b, s₁, he, hb⟩
  · rw [he]
  · rw [he, hb.state]
    simp

/-- A step that does not disturb a user leaves its mirror record as it was. -/
theorem step_undisturbed {action : UdpAction} {response : UdpResponse} {x : UserNo}
    (hs : s.step action = some (response, s')) (hd : s.disturbs x action = false) :
    s'.active.lookup x = s.active.lookup x := by
  cases action with
  | advance identity =>
    simp only [step, Option.some.injEq, Prod.mk.injEq] at hs
    obtain ⟨_, rfl⟩ := hs
    exact advance_undisturbed hd
  | bindAt transport identity source routeHash arrivalEpoch =>
    simp only [step, Option.some.injEq, Prod.mk.injEq] at hs
    obtain ⟨_, rfl⟩ := hs
    rw [bindAt_active]
  | bindIngress identities transport accountId source routeHash =>
    simp only [step, Option.some.injEq, Prod.mk.injEq] at hs
    obtain ⟨_, rfl⟩ := hs
    rcases bindIngress_cases s identities transport accountId source routeHash with
      ⟨_, e, he⟩ | ⟨identity, hi, hc⟩
    · rw [he]
    · simp only [disturbs, hi, Option.any_some] at hd
      have hadv := advance_undisturbed hd
      rcases hc with ⟨e, he⟩ | he
      · rw [he]; exact hadv
      · rw [he, bindAt_active]; exact hadv
  | rebind identity boundaryEpoch =>
    simp only [step, Option.some.injEq, Prod.mk.injEq] at hs
    obtain ⟨_, rfl⟩ := hs
    rcases authorizeRebind_cases s identity boundaryEpoch with ⟨_, result, he⟩ | ⟨hb, a, _, _, he⟩
    · rw [he]
    · rw [he]
      simp only [disturbs, hb, Bool.and_true, decide_eq_false_iff_not] at hd
      show (Finmap.insert identity.userNo _ s.active).lookup x = _
      rw [Map.lookup_insert_ite, if_neg (Ne.symm hd)]
  | remove identity =>
    simp only [step, Option.some.injEq, Prod.mk.injEq] at hs
    obtain ⟨_, rfl⟩ := hs
    rw [removeReleasedIdentity_eq]
    split
    next hr =>
      simp only [disturbs, hr, Bool.and_true, decide_eq_false_iff_not] at hd
      show (Finmap.erase identity.userNo s.active).lookup x = _
      rw [Map.lookup_erase_ite, if_neg (Ne.symm hd)]
    next => rfl
  | clear => exact absurd hd (by simp [disturbs])

/-- What resolving a target amounts to. -/
theorem currentAuthorizedTarget_eq_some {t : UdpTransport} {identity : IdentityBinding}
    {c : CurrentUdpEndpoint} : s.currentAuthorizedTarget t identity = some c ↔
      ∃ a e, s.active.lookup identity.userNo = some a ∧ a.generation = identity.generation ∧
        a.sourceIp = identity.sourceIp ∧ (s.table t).lookup identity.userNo = some e ∧
        e.generation = identity.generation ∧ e.endpoint.ip = identity.sourceIp ∧
        c = ⟨identity, e⟩ := by
  unfold currentAuthorizedTarget GenerationEndpointTable.getAuthorized
  constructor
  · intro h
    split at h
    next => exact absurd h (by simp)
    next a ha =>
      split at h
      next => exact absurd h (by simp)
      next hgen =>
        simp only [ne_eq, not_or, Decidable.not_not] at hgen
        split at h
        next => exact absurd h (by simp)
        next e he =>
          split at h
          next => exact absurd h (by simp)
          next hip =>
            simp only [ne_eq, not_or, Decidable.not_not] at hip
            exact ⟨a, e, ha, hgen.1, hgen.2, (Option.filter_eq_some_iff.mp he).1, hip.1, hip.2,
              (Option.some.inj h).symm⟩
  · rintro ⟨a, e, ha, hgen, hip, he, hegen, heip, rfl⟩
    simp [ha, hgen, hip, he, hegen, heip, Option.filter]

/-- An edit that leaves a user's mirror record alone leaves the address of its
current route alone. -/
theorem Edit.keeps {new : List UdpEvent} (hedit : Edit s new s') {x : UserNo}
    (hx : s'.active.lookup x = s.active.lookup x) {t : UdpTransport} {a : ActiveIdentity}
    {e : UdpEndpointBinding} (ha : s.active.lookup x = some a)
    (he : (s.table t).lookup x = some e) (hg : e.generation = a.generation) :
    ∃ e', (s'.table t).lookup x = some e' ∧ e'.generation = e.generation ∧
      e'.endpoint = e.endpoint := by
  cases hedit with
  | same => exact ⟨e, he, rfl, rfl⟩
  | stale => exact ⟨e, he, rfl, rfl⟩
  | activate identity => exact ⟨e, by rw [table_activated]; exact he, rfl, rfl⟩
  | @bind t₀ identity source routeHash epoch b _ hb =>
    by_cases hhere : t = t₀ ∧ x = identity.userNo
    · obtain ⟨rfl, rfl⟩ := hhere
      obtain ⟨a₀, ha₀, hg₀, _⟩ := hb.active
      cases ha₀.symm.trans ha
      refine ⟨⟨source, routeHash, identity.generation, false⟩, ?_, hg₀.symm.trans hg.symm, ?_⟩
      · rw [hb.state, setTable_table, if_pos rfl, Map.lookup_insert_ite, if_pos rfl]
      · exact (hb.first e he (hg.trans hg₀)).symm
    · refine ⟨e, ?_, rfl, rfl⟩
      rw [hb.state, setTable_table]
      split
      next ht =>
        subst ht
        rw [Map.lookup_insert_ite, if_neg fun hx' => hhere ⟨rfl, hx'⟩]
        exact he
      next => exact he
  | @rebind identity a₀ boundaryEpoch ha₀ _ hb =>
    have hne : x ≠ identity.userNo := by
      rintro rfl
      cases ha₀.symm.trans ha
      rw [ha] at hx
      simp only [rebound, Map.lookup_insert_ite, if_true, Option.some.injEq] at hx
      -- the boundary moved forward, so the record is not the one before
      have hboundary : a.reconnectBoundaryEpoch = some boundaryEpoch := by
        rw [← hx]
      unfold advancesBoundary at hb
      rw [ha] at hb
      simp [hboundary] at hb
    refine ⟨e, ?_, rfl, rfl⟩
    rw [table_rebound, GenerationEndpointTable.lookup_release, if_neg hne]
    exact he
  | remove identity hr =>
    have hne : x ≠ identity.userNo := by
      rintro rfl
      rw [ha] at hx
      simp [removed] at hx
    refine ⟨e, ?_, rfl, rfl⟩
    rw [table_removed, GenerationEndpointTable.lookup_release, if_neg hne]
    exact he
  | clear =>
    rw [ha] at hx
    exact absurd hx (by simp [UdpEndpointState.clear])

/-- The same for a whole step. -/
theorem step_target {action : UdpAction} {response : UdpResponse} {t : UdpTransport}
    {identity : IdentityBinding} {c : CurrentUdpEndpoint}
    (hs : s.step action = some (response, s'))
    (hd : s.disturbs identity.userNo action = false)
    (hc : s.currentAuthorizedTarget t identity = some c) :
    ∃ c', s'.currentAuthorizedTarget t identity = some c' ∧
      c'.endpoint.endpoint = c.endpoint.endpoint := by
  obtain ⟨a, e, ha, hgen, hip, he, hegen, heip, rfl⟩ := currentAuthorizedTarget_eq_some.mp hc
  have hx := step_undisturbed hs hd
  obtain ⟨s₁, first, second, h₁, h₂, hactive, _⟩ := step_edit hs
  have hx₁ : s₁.active.lookup identity.userNo = s.active.lookup identity.userNo := by
    rw [← hactive, hx]
  obtain ⟨e₁, he₁, hg₁, hend₁⟩ := h₁.keeps hx₁ ha he (hegen.trans hgen.symm)
  obtain ⟨e₂, he₂, hg₂, hend₂⟩ := h₂.keeps (by rw [hactive]) (hx₁.trans ha) he₁
    (hg₁.trans (hegen.trans hgen.symm))
  have hend := hend₂.trans hend₁
  exact ⟨⟨identity, e₂⟩, currentAuthorizedTarget_eq_some.mpr ⟨a, e₂, hx.trans ha, hgen, hip, he₂,
    hg₂.trans (hg₁.trans hegen), by rw [hend]; exact heip, rfl⟩, hend⟩

/-- A successful bind is resolved at once. -/
theorem bind_target {t : UdpTransport} {identity : IdentityBinding} {source : SocketAddr}
    {routeHash : BitVec 32} {arrivalEpoch : Nat} {b : UdpIngressBinding}
    (h : s.bindAuthorizedIngressAt t identity source routeHash arrivalEpoch = (.ok b, s')) :
    ∃ c, s'.currentAuthorizedTarget t identity = some c ∧ c.endpoint.endpoint = source := by
  rcases bindAuthorizedIngressAt_cases s t identity source routeHash arrivalEpoch with
    ⟨e, he⟩ | ⟨b', s₁, he, hb⟩
  · exact absurd (congrArg Prod.fst (he.symm.trans h)) (by simp)
  · obtain ⟨_, rfl⟩ := Prod.mk.inj (he.symm.trans h)
    obtain ⟨a, ha, hg, hip, _⟩ := hb.active
    refine ⟨⟨identity, ⟨source, routeHash, identity.generation, false⟩⟩,
      currentAuthorizedTarget_eq_some.mpr ⟨a, ⟨source, routeHash, identity.generation, false⟩,
        ?_, hg, hip, ?_, rfl, hb.ip, rfl⟩, rfl⟩
    · rw [hb.state]
      simpa using ha
    · rw [hb.state, setTable_table, if_pos rfl, Map.lookup_insert_ite, if_pos rfl]

/-- **A route goes where an allowed bind sent it.** Whenever a target resolves,
a bind on the same transport for that user and generation chose its address,
past the boundary now in force and with no release or clear since; a successful
bind resolves at once, and the address stays while nothing disturbs the user. -/
theorem target_provenance {maximum : Nat} {tr : Transcript}
    (h : (machine maximum).History tr s) (hinc : ActivationsIncrease (events tr))
    (t : UdpTransport) (identity : IdentityBinding) :
    (∀ c, s.currentAuthorizedTarget t identity = some c →
      (∃ later bindIdentity arrivalEpoch earlier,
        events tr = later ++ .bound t bindIdentity c.endpoint.endpoint arrivalEpoch :: earlier ∧
        bindIdentity.userNo = identity.userNo ∧
        bindIdentity.generation = identity.generation ∧
        c.endpoint.endpoint.ip = identity.sourceIp ∧ c.endpoint.endpoint.port ≠ 0 ∧
        (∀ a boundary, s.active.lookup identity.userNo = some a →
          a.reconnectBoundaryEpoch = some boundary → boundary < arrivalEpoch) ∧
        ∀ event ∈ later, ¬ EndsRoute identity.userNo identity.generation event) ∧
      ∀ s', (machine maximum).RunBy (fun s a => s.disturbs identity.userNo a = false) s s' →
        ∃ c', s'.currentAuthorizedTarget t identity = some c' ∧
          c'.endpoint.endpoint = c.endpoint.endpoint) ∧
    (∀ source routeHash arrivalEpoch b s',
      s.bindAuthorizedIngressAt t identity source routeHash arrivalEpoch = (.ok b, s') →
      ∃ c, s'.currentAuthorizedTarget t identity = some c ∧ c.endpoint.endpoint = source) := by
  refine ⟨fun c hc => ⟨?_, fun s' hrun => ?_⟩, fun _ _ _ _ _ hb => bind_target hb⟩
  · obtain ⟨a, e, ha, hgen, hip, he, hegen, heip, rfl⟩ := currentAuthorizedTarget_eq_some.mp hc
    obtain ⟨later, bindIdentity, epoch, earlier, hev, hx, hg, _, _, hport, hboundary, hno⟩ :=
      (routed_of_history h hinc).bound he ha (hgen.trans hegen.symm)
    refine ⟨later, bindIdentity, epoch, earlier, hev, hx, hg.trans hgen, heip, hport, ?_, ?_⟩
    · intro a' boundary ha' hb
      cases ha.symm.trans ha'
      exact hboundary boundary hb
    · rw [← hgen]
      exact hno
  · -- the address is the same after every step of an undisturbed run
    refine hrun.invariant (P := fun s' => ∃ c', s'.currentAuthorizedTarget t identity = some c' ∧
      c'.endpoint.endpoint = c.endpoint.endpoint) ⟨c, hc, rfl⟩ ?_
    rintro s₁ s₂ action response ⟨c₁, hc₁, he₁⟩ hd hs
    obtain ⟨c₂, hc₂, he₂⟩ := step_target hs hd hc₁
    exact ⟨c₂, hc₂, he₂.trans he₁⟩

/-! ## A run -/

def sampleBinding : IdentityBinding :=
  ⟨['a'], IdentitySystem.sampleUser, ⟨1⟩, ⟨1⟩, .v4 5, none⟩

/-- Log in, send a first game datagram, reconnect, send another. -/
def sampleActions : List UdpAction :=
  [.advance sampleBinding, .bindAt .game sampleBinding (.v4 5 51000) 1 3,
    .rebind sampleBinding 4, .bindAt .game sampleBinding (.v4 5 51001) 2 5]

theorem sampleActions_run :
    ((machine 1).exec (withMaxActiveIdentities 1) [] sampleActions).isSome = true := by
  decide +kernel

/-- The run of `sampleActions`. -/
def sample : Transcript × UdpEndpointState :=
  ((machine 1).exec (withMaxActiveIdentities 1) [] sampleActions).get sampleActions_run

theorem sample_history : (machine 1).History sample.1 sample.2 :=
  Machine.history_of_exec sampleActions .init (Option.some_get sampleActions_run).symm

theorem sample_provenance : ∃ later bindIdentity arrivalEpoch earlier,
    events sample.1 = later ++ .bound .game bindIdentity (.v4 5 51001) arrivalEpoch :: earlier ∧
      ∀ event ∈ later, ¬ EndsRoute sampleBinding.userNo sampleBinding.generation event := by
  have hinc : ActivationsIncrease (events sample.1) := by
    have hev : events sample.1 = [.bound .game sampleBinding (.v4 5 51001) 5,
        .bound .game sampleBinding (.v4 5 51000) 3,
        .activated sampleBinding.userNo sampleBinding.generation] := by
      decide +kernel
    rw [hev]
    simp [ActivationsIncrease]
  have hc : sample.2.currentAuthorizedTarget .game sampleBinding =
      some ⟨sampleBinding, ⟨.v4 5 51001, 2, ⟨1⟩, false⟩⟩ := by
    decide +kernel
  obtain ⟨⟨later, bindIdentity, epoch, earlier, hev, _, _, _, _, _, hno⟩, _⟩ :=
    (target_provenance sample_history hinc .game sampleBinding).1 _ hc
  exact ⟨later, bindIdentity, epoch, earlier, hev, hno⟩

end UdpEndpointState

end P4475.Udp
