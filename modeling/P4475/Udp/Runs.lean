import P4475.Udp.State
import P4475.Lib.Machine

/-!
# Runs of the endpoint state

The endpoint state as a machine, with one lemma for what each method can do.
A step also reports which generation it activated, if any: the source's
`advance_identity` answers `Ok` to a stale advance too, so its result alone does
not say.
-/

namespace P4475.Udp

open Lib

namespace UdpEndpointState

inductive UdpAction
  | advance (identity : IdentityBinding)
  | bindAt (transport : UdpTransport) (identity : IdentityBinding) (source : SocketAddr)
      (routeHash : BitVec 32) (arrivalEpoch : Nat)
  | bindIngress (identities : IdentityRegistry) (transport : UdpTransport) (accountId : Nat)
      (source : SocketAddr) (routeHash : BitVec 32)
  | rebind (identity : IdentityBinding) (boundaryEpoch : Nat)
  | remove (identity : ReleasedIdentity)
  | clear

inductive UdpResult
  | unit (result : Except UdpEndpointStateError Unit)
  | ingress (result : Except UdpEndpointStateError UdpIngressBinding)
  | done

/-- A method's result, and the generation the step put into the mirror. -/
structure UdpResponse where
  result : UdpResult
  activated : Option (UserNo × IdentityGeneration)

/-- Whether an advance installs its generation: the user is new and fits, or is
known under an older generation. -/
def activates (s : UdpEndpointState) (identity : IdentityBinding) : Bool :=
  match s.active.lookup identity.userNo with
  | none => s.active.keys.card < s.maximumActiveIdentities
  | some current => current.generation.get < identity.generation.get

/-- The generation an advance installs, if it does. -/
def activation (s : UdpEndpointState) (identity : IdentityBinding) :
    Option (UserNo × IdentityGeneration) :=
  if s.activates identity then some (identity.userNo, identity.generation) else none

/-- The identity that `bind_ingress` advances to. -/
def ingressIdentity (identities : IdentityRegistry) (accountId : Nat) :
    Option IdentityBinding :=
  (UserNo.new accountId).bind identities.activeIdentityByUserNo

/-- One method call. -/
def step (s : UdpEndpointState) : UdpAction → Option (UdpResponse × UdpEndpointState)
  | .advance identity =>
    let (result, s') := s.advanceIdentity identity
    some (⟨.unit result, s.activation identity⟩, s')
  | .bindAt transport identity source routeHash arrivalEpoch =>
    let (result, s') := s.bindAuthorizedIngressAt transport identity source routeHash arrivalEpoch
    some (⟨.ingress result, none⟩, s')
  | .bindIngress identities transport accountId source routeHash =>
    let (result, s') := s.bindIngress identities transport accountId source routeHash
    some (⟨.ingress result, (ingressIdentity identities accountId).bind s.activation⟩, s')
  | .rebind identity boundaryEpoch =>
    let (result, s') := s.authorizeRebind identity boundaryEpoch
    some (⟨.unit result, none⟩, s')
  | .remove identity => some (⟨.done, none⟩, s.removeReleasedIdentity identity)
  | .clear => some (⟨.done, none⟩, s.clear)

/-- The endpoint state as a machine, empty at first. -/
def machine (maximum : Nat) : Machine UdpEndpointState UdpAction UdpResponse where
  init := withMaxActiveIdentities maximum
  step := step

abbrev Transcript := List (UdpAction × UdpResponse)

/-! ## What each method can do -/

variable {s s' : UdpEndpointState}

/-- The mirror after an advance that installs. -/
def activated (s : UdpEndpointState) (identity : IdentityBinding) : UdpEndpointState :=
  { s with active := s.active.insert identity.userNo (.from identity) }

theorem advanceIdentity_cases (s : UdpEndpointState) (identity : IdentityBinding) :
    (s.activates identity = false ∧ ∃ result, s.advanceIdentity identity = (result, s)) ∨
    (s.activates identity = true ∧ s.advanceIdentity identity = (.ok (), s.activated identity)) := by
  unfold activates advanceIdentity
  cases hl : s.active.lookup identity.userNo with
  | none =>
    by_cases hfull : s.maximumActiveIdentities ≤ s.active.keys.card
    · exact Or.inl ⟨by simpa using hfull, _, if_pos ⟨rfl, hfull⟩⟩
    · exact Or.inr ⟨by simpa using hfull, if_neg fun h => hfull h.2⟩
  | some current =>
    dsimp only
    by_cases hlt : identity.generation.get < current.generation.get
    · exact Or.inl ⟨by simpa using Nat.le_of_lt hlt, _, if_pos hlt⟩
    · rw [if_neg hlt]
      by_cases heq : current.generation = identity.generation
      · rw [if_pos heq]
        refine Or.inl ⟨by simp [heq], ?_⟩
        split
        · exact ⟨_, rfl⟩
        · exact ⟨_, rfl⟩
      · rw [if_neg heq]
        refine Or.inr ⟨?_, if_neg fun h => absurd h.1 (by simp)⟩
        have hne : current.generation.get ≠ identity.generation.get := by
          intro he
          exact heq (IdentityGeneration.ext he)
        simp only [decide_eq_true_eq]
        omega

/-- What a successful bind checked, and the one entry it wrote. -/
structure BindOk (s : UdpEndpointState) (transport : UdpTransport)
    (identity : IdentityBinding) (source : SocketAddr) (routeHash : BitVec 32)
    (arrivalEpoch : Nat) (b : UdpIngressBinding) (s' : UdpEndpointState) : Prop where
  port : source.port ≠ 0
  active : ∃ a, s.active.lookup identity.userNo = some a ∧ a.generation = identity.generation ∧
    a.sourceIp = identity.sourceIp ∧
    ∀ boundary, a.reconnectBoundaryEpoch = some boundary → boundary < arrivalEpoch
  ip : source.ip = identity.sourceIp
  caller : b.identity = identity
  state : s' = s.setTable transport ((s.table transport).insert identity.userNo
    ⟨source, routeHash, identity.generation, false⟩)
  first : ∀ current, (s.table transport).lookup identity.userNo = some current →
    current.generation = identity.generation → current.endpoint = source

theorem setTable_self (s : UdpEndpointState) (transport : UdpTransport) :
    s.setTable transport (s.table transport) = s := by
  cases transport <;> rfl

theorem bindAuthorizedIngressAt_cases (s : UdpEndpointState) (transport : UdpTransport)
    (identity : IdentityBinding) (source : SocketAddr) (routeHash : BitVec 32)
    (arrivalEpoch : Nat) :
    (∃ e, s.bindAuthorizedIngressAt transport identity source routeHash arrivalEpoch =
      (.error e, s)) ∨
    (∃ b s', s.bindAuthorizedIngressAt transport identity source routeHash arrivalEpoch =
      (.ok b, s') ∧ BindOk s transport identity source routeHash arrivalEpoch b s') := by
  unfold bindAuthorizedIngressAt
  dsimp only
  split
  next => exact Or.inl ⟨_, rfl⟩
  next hport =>
    split
    next => exact Or.inl ⟨_, rfl⟩
    next a ha =>
      split
      next => exact Or.inl ⟨_, rfl⟩
      next hgen =>
        split
        next => exact Or.inl ⟨_, rfl⟩
        next hip =>
          split
          next => exact Or.inl ⟨_, rfl⟩
          next hboundary =>
            split
            next => exact Or.inl ⟨_, rfl⟩
            next hsource =>
              simp only [ne_eq, Decidable.not_not] at hgen hip hsource
              split
              next e t ht =>
                rw [GenerationEndpointTable.bind_error ht, setTable_self]
                exact Or.inl ⟨_, rfl⟩
              next status bound t ht =>
                obtain ⟨rfl, rfl, hfirst⟩ := GenerationEndpointTable.bind_ok ht
                refine Or.inr ⟨_, _, rfl, hport, ⟨a, ha, hgen, hip.symm, ?_⟩,
                  hsource.trans hip.symm, rfl, rfl, hfirst⟩
                intro boundary hb
                rw [hb, Option.filter_some] at hboundary
                by_contra hle
                exact absurd hboundary (by simp [Nat.le_of_not_lt hle])

/-- Whether a rebind moves the boundary of a user's current generation. -/
def advancesBoundary (s : UdpEndpointState) (identity : IdentityBinding) (boundaryEpoch : Nat) :
    Bool :=
  (s.active.lookup identity.userNo).any fun active =>
    active.generation = identity.generation ∧ active.sourceIp = identity.sourceIp
      ∧ active.reconnectBoundaryEpoch.all (· < boundaryEpoch)

/-- The state after a rebind that moves the boundary of `active`. -/
def rebound (s : UdpEndpointState) (identity : IdentityBinding) (active : ActiveIdentity)
    (boundaryEpoch : Nat) : UdpEndpointState :=
  { s with
    active := s.active.insert identity.userNo
      { active with reconnectBoundaryEpoch := some boundaryEpoch }
    game := s.game.release identity.userNo identity.generation
    p2p := s.p2p.release identity.userNo identity.generation }

theorem authorizeRebind_cases (s : UdpEndpointState) (identity : IdentityBinding)
    (boundaryEpoch : Nat) :
    (s.advancesBoundary identity boundaryEpoch = false ∧
      ∃ result, s.authorizeRebind identity boundaryEpoch = (result, s)) ∨
    (s.advancesBoundary identity boundaryEpoch = true ∧
      ∃ a, s.active.lookup identity.userNo = some a ∧ a.generation = identity.generation ∧
        s.authorizeRebind identity boundaryEpoch =
          (.ok (), s.rebound identity a boundaryEpoch)) := by
  unfold advancesBoundary authorizeRebind
  dsimp only
  cases hl : s.active.lookup identity.userNo with
  | none => exact Or.inl ⟨rfl, _, rfl⟩
  | some a =>
    dsimp only
    by_cases hgen : a.generation = identity.generation
    · rw [if_neg (by simp [hgen])]
      by_cases hip : a.sourceIp = identity.sourceIp
      · rw [if_neg (by simp [hip])]
        cases hb : a.reconnectBoundaryEpoch with
        | none =>
          exact Or.inr ⟨by simp [hgen, hip, hb], a, rfl, hgen, if_neg (by simp)⟩
        | some current =>
          by_cases hle : boundaryEpoch ≤ current
          · exact Or.inl ⟨by simp [hgen, hip, hb, hle], _, if_pos (by simpa using hle)⟩
          · exact Or.inr ⟨by simpa [hgen, hip, hb] using hle, a, rfl, hgen,
              if_neg (by simpa using hle)⟩
      · rw [if_pos hip]
        exact Or.inl ⟨by simp [hip], _, rfl⟩
    · rw [if_pos hgen]
      exact Or.inl ⟨by simp [hgen], _, rfl⟩

/-- Whether a release is of the user's current generation. -/
def removes (s : UdpEndpointState) (identity : ReleasedIdentity) : Bool :=
  (s.active.lookup identity.userNo).any (·.generation = identity.generation)

/-- The state after a release of the current generation. -/
def removed (s : UdpEndpointState) (identity : ReleasedIdentity) : UdpEndpointState :=
  { s with
    active := s.active.erase identity.userNo
    game := s.game.release identity.userNo identity.generation
    p2p := s.p2p.release identity.userNo identity.generation }

theorem removeReleasedIdentity_eq (s : UdpEndpointState) (identity : ReleasedIdentity) :
    s.removeReleasedIdentity identity =
      if s.removes identity then s.removed identity else s := rfl

theorem table_rebound (s : UdpEndpointState) (identity : IdentityBinding)
    (active : ActiveIdentity) (boundaryEpoch : Nat) (transport : UdpTransport) :
    (s.rebound identity active boundaryEpoch).table transport =
      (s.table transport).release identity.userNo identity.generation := by
  cases transport <;> rfl

theorem table_removed (s : UdpEndpointState) (identity : ReleasedIdentity)
    (transport : UdpTransport) : (s.removed identity).table transport =
      (s.table transport).release identity.userNo identity.generation := by
  cases transport <;> rfl

theorem table_activated (s : UdpEndpointState) (identity : IdentityBinding)
    (transport : UdpTransport) : (s.activated identity).table transport = s.table transport := by
  cases transport <;> rfl

/-- `bind_ingress` is an advance followed by a bind. -/
theorem bindIngress_cases (s : UdpEndpointState) (identities : IdentityRegistry)
    (transport : UdpTransport) (accountId : Nat) (source : SocketAddr) (routeHash : BitVec 32) :
    (ingressIdentity identities accountId = none ∧
      ∃ e, s.bindIngress identities transport accountId source routeHash = (.error e, s)) ∨
    (∃ identity, ingressIdentity identities accountId = some identity ∧
      ((∃ e, s.bindIngress identities transport accountId source routeHash =
        (.error e, (s.advanceIdentity identity).2)) ∨
      s.bindIngress identities transport accountId source routeHash =
        (s.advanceIdentity identity).2.bindAuthorizedIngressAt transport identity source
          routeHash u64Max)) := by
  unfold bindIngress ingressIdentity
  cases hu : UserNo.new accountId with
  | none => exact Or.inl ⟨rfl, _, rfl⟩
  | some userNo =>
    dsimp only [Option.bind_some]
    cases hi : identities.activeIdentityByUserNo userNo with
    | none => exact Or.inl ⟨rfl, _, rfl⟩
    | some identity =>
      refine Or.inr ⟨identity, rfl, ?_⟩
      dsimp only
      rcases ha : s.advanceIdentity identity with ⟨result, s'⟩
      cases result with
      | error e => exact Or.inl ⟨e, rfl⟩
      | ok _ => exact Or.inr rfl

end UdpEndpointState

end P4475.Udp
