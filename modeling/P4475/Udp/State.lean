import P4475.Identity.Registry

/-!
# UDP endpoint state

`p4475-server/src/udp_state.rs`: which socket address a player's game and P2P
datagrams go to. Two endpoint tables, one per transport, and a mirror of the
active generation of each user number. A method that takes `&mut self` returns
its result together with the state it leaves behind.
-/

namespace P4475.Udp

open Lib

/-- `DEFAULT_MAXIMUM_ACTIVE_UDP_IDENTITIES`. -/
def defaultMaximumActiveUdpIdentities : Nat := 4096

inductive UdpTransport
  | game
  | p2p
  deriving DecidableEq

/-- `std::net::SocketAddr`, with the two words only the sixth version carries. -/
inductive SocketAddr
  | v4 (ip : BitVec 32) (port : BitVec 16)
  | v6 (ip : BitVec 128) (port : BitVec 16) (flowinfo scopeId : BitVec 32)
  deriving DecidableEq

namespace SocketAddr

def ip : SocketAddr → IpAddr
  | .v4 ip _ => .v4 ip
  | .v6 ip _ _ _ => .v6 ip

def port : SocketAddr → BitVec 16
  | .v4 _ port => port
  | .v6 _ port _ _ => port

end SocketAddr

structure UdpEndpointBinding where
  endpoint : SocketAddr
  routeHash : BitVec 32
  generation : IdentityGeneration
  directP2p : Bool
  deriving DecidableEq

inductive UdpEndpointBindStatus
  | bound
  | refreshed
  | advancedGeneration
  deriving DecidableEq

structure UdpIngressBinding where
  identity : IdentityBinding
  endpoint : UdpEndpointBinding
  status : UdpEndpointBindStatus
  deriving DecidableEq

structure CurrentUdpEndpoint where
  identity : IdentityBinding
  endpoint : UdpEndpointBinding
  deriving DecidableEq

inductive UdpEndpointStateError
  | zeroAccountId
  | inactiveAccount (accountId : Nat)
  | activeIdentityCapacity (maximum : Nat)
  | invalidSourceEndpoint (endpoint : SocketAddr)
  | sourceIpMismatch (accountId : Nat) (expected received : IpAddr)
  | endpointMismatch (transport : UdpTransport) (accountId generation : Nat)
      (bound attempted : SocketAddr)
  | staleGeneration (transport : UdpTransport)
      (accountId attemptedGeneration currentGeneration : Nat)
  | ingressPredatesReconnect (transport : UdpTransport)
      (accountId arrivalEpoch boundaryEpoch : Nat)
  deriving DecidableEq

/-- The mirror's record of one active generation. -/
structure ActiveIdentity where
  generation : IdentityGeneration
  sourceIp : IpAddr
  reconnectBoundaryEpoch : Option Nat
  deriving DecidableEq

/-- `impl From<&IdentityBinding> for ActiveIdentity`. -/
def ActiveIdentity.from (identity : IdentityBinding) : ActiveIdentity :=
  ⟨identity.generation, identity.sourceIp, none⟩

inductive TableBindError
  | endpointMismatch (current : UdpEndpointBinding)
  | staleGeneration (current attempted : IdentityGeneration)
  deriving DecidableEq

/-! ## One transport's table -/

abbrev GenerationEndpointTable := Map UserNo UdpEndpointBinding

namespace GenerationEndpointTable

/-- `GenerationEndpointTable::bind`. -/
def bind (table : GenerationEndpointTable) (userNo : UserNo) (candidate : UdpEndpointBinding) :
    Except TableBindError (UdpEndpointBindStatus × UdpEndpointBinding) × GenerationEndpointTable :=
  match table.lookup userNo with
  | none => (.ok (.bound, candidate), table.insert userNo candidate)
  | some current =>
    if candidate.generation.get < current.generation.get then
      (.error (.staleGeneration current.generation candidate.generation), table)
    else if current.generation = candidate.generation
        ∧ current.endpoint ≠ candidate.endpoint then
      (.error (.endpointMismatch current), table)
    else if current.generation = candidate.generation then
      (.ok (.refreshed, candidate), table.insert userNo candidate)
    else (.ok (.advancedGeneration, candidate), table.insert userNo candidate)

/-- `get_authorized`. -/
def getAuthorized (table : GenerationEndpointTable) (userNo : UserNo)
    (generation : IdentityGeneration) : Option UdpEndpointBinding :=
  (table.lookup userNo).filter (·.generation = generation)

/-- `release`: only an entry of exactly this generation is removed. -/
def release (table : GenerationEndpointTable) (userNo : UserNo)
    (generation : IdentityGeneration) : GenerationEndpointTable :=
  if (table.lookup userNo).any (·.generation = generation) then table.erase userNo else table

theorem lookup_release (table : GenerationEndpointTable) (userNo : UserNo)
    (generation : IdentityGeneration) (x : UserNo) :
    (release table userNo generation).lookup x =
      if x = userNo then (table.lookup x).filter (·.generation ≠ generation)
        else table.lookup x := by
  unfold release
  split
  next h =>
    rw [Map.lookup_erase_ite]
    split
    next he =>
      subst he
      cases hl : table.lookup x with
      | none => rfl
      | some b =>
        rw [hl] at h
        simp only [Option.any_some, decide_eq_true_eq] at h
        simp [Option.filter, h]
    next => rfl
  next h =>
    split
    next he =>
      subst he
      cases hl : table.lookup x with
      | none => rfl
      | some b =>
        rw [hl] at h
        simp only [Option.any_some, decide_eq_true_eq] at h
        simp [Option.filter, h]
    next => rfl

/-- A successful bind leaves the candidate under its user and nothing else new;
a binding of the same generation that was there already had its endpoint. -/
theorem bind_ok {table table' : GenerationEndpointTable} {userNo : UserNo}
    {candidate bound : UdpEndpointBinding} {status : UdpEndpointBindStatus}
    (h : bind table userNo candidate = (.ok (status, bound), table')) :
    bound = candidate ∧ table' = table.insert userNo candidate ∧
      ∀ current, table.lookup userNo = some current →
        current.generation = candidate.generation → current.endpoint = candidate.endpoint := by
  unfold bind at h
  split at h
  next hl =>
    cases h
    exact ⟨rfl, rfl, fun _ hc => absurd (hl.symm.trans hc) (by simp)⟩
  next current hl =>
    split_ifs at h with h₁ h₂ h₃
    · exact absurd (congrArg Prod.fst h) (by simp)
    · exact absurd (congrArg Prod.fst h) (by simp)
    all_goals
      cases h
      refine ⟨rfl, rfl, fun c hc hg => ?_⟩
      cases hl.symm.trans hc
      by_contra hne
      exact h₂ ⟨hg, hne⟩

/-- A refused bind leaves the table alone. -/
theorem bind_error {table table' : GenerationEndpointTable} {userNo : UserNo}
    {candidate : UdpEndpointBinding} {e : TableBindError}
    (h : bind table userNo candidate = (.error e, table')) : table' = table := by
  unfold bind at h
  split at h
  next => exact absurd (congrArg Prod.fst h) (by simp)
  next =>
    split_ifs at h <;> first
      | exact (congrArg Prod.snd h).symm
      | exact absurd (congrArg Prod.fst h) (by simp)

end GenerationEndpointTable

/-- `map_table_error`. -/
def mapTableError (transport : UdpTransport) (userNo : UserNo) (attempted : SocketAddr) :
    TableBindError → UdpEndpointStateError
  | .endpointMismatch current =>
    .endpointMismatch transport userNo.get current.generation.get current.endpoint attempted
  | .staleGeneration current generation =>
    .staleGeneration transport userNo.get generation.get current.get

/-! ## The state -/

structure UdpEndpointState where
  active : Map UserNo ActiveIdentity
  maximumActiveIdentities : Nat
  game : GenerationEndpointTable
  p2p : GenerationEndpointTable

namespace UdpEndpointState

/-- `with_max_active_identities`. -/
def withMaxActiveIdentities (maximum : Nat) : UdpEndpointState :=
  ⟨∅, maximum, ∅, ∅⟩

/-- `table`. -/
def table (s : UdpEndpointState) : UdpTransport → GenerationEndpointTable
  | .game => s.game
  | .p2p => s.p2p

/-- What `table_mut` writes back. -/
def setTable (s : UdpEndpointState) (transport : UdpTransport) (t : GenerationEndpointTable) :
    UdpEndpointState :=
  match transport with
  | .game => { s with game := t }
  | .p2p => { s with p2p := t }

@[simp] theorem setTable_active (s : UdpEndpointState) (transport : UdpTransport)
    (t : GenerationEndpointTable) : (s.setTable transport t).active = s.active := by
  cases transport <;> rfl

@[simp] theorem setTable_maximum (s : UdpEndpointState) (transport : UdpTransport)
    (t : GenerationEndpointTable) :
    (s.setTable transport t).maximumActiveIdentities = s.maximumActiveIdentities := by
  cases transport <;> rfl

theorem setTable_table (s : UdpEndpointState) (transport transport' : UdpTransport)
    (t : GenerationEndpointTable) :
    (s.setTable transport t).table transport' =
      if transport' = transport then t else s.table transport' := by
  cases transport <;> cases transport' <;> rfl

/-- `advance_identity`. -/
def advanceIdentity (s : UdpEndpointState) (identity : IdentityBinding) :
    Except UdpEndpointStateError Unit × UdpEndpointState :=
  let install : Except UdpEndpointStateError Unit × UdpEndpointState :=
    if s.active.lookup identity.userNo = none
        ∧ s.maximumActiveIdentities ≤ s.active.keys.card then
      (.error (.activeIdentityCapacity s.maximumActiveIdentities), s)
    else
      (.ok (), { s with active := s.active.insert identity.userNo (.from identity) })
  match s.active.lookup identity.userNo with
  | none => install
  | some current =>
    if identity.generation.get < current.generation.get then (.ok (), s)
    else if current.generation = identity.generation then
      if current.sourceIp ≠ identity.sourceIp then
        (.error (.sourceIpMismatch identity.userNo.get current.sourceIp identity.sourceIp), s)
      else (.ok (), s)
    else install

/-- `bind_authorized_ingress_at`. -/
def bindAuthorizedIngressAt (s : UdpEndpointState) (transport : UdpTransport)
    (identity : IdentityBinding) (source : SocketAddr) (routeHash : BitVec 32)
    (arrivalEpoch : Nat) : Except UdpEndpointStateError UdpIngressBinding × UdpEndpointState :=
  let accountId := identity.userNo.get
  if source.port = 0 then (.error (.invalidSourceEndpoint source), s)
  else
    match s.active.lookup identity.userNo with
    | none => (.error (.inactiveAccount accountId), s)
    | some active =>
      if active.generation ≠ identity.generation then
        (.error (.staleGeneration transport accountId identity.generation.get
          active.generation.get), s)
      else if identity.sourceIp ≠ active.sourceIp then
        (.error (.sourceIpMismatch accountId active.sourceIp identity.sourceIp), s)
      else
        match active.reconnectBoundaryEpoch.filter (arrivalEpoch ≤ ·) with
        | some boundaryEpoch =>
          (.error (.ingressPredatesReconnect transport accountId arrivalEpoch boundaryEpoch), s)
        | none =>
          if source.ip ≠ active.sourceIp then
            (.error (.sourceIpMismatch accountId active.sourceIp source.ip), s)
          else
            match (s.table transport).bind identity.userNo
                ⟨source, routeHash, identity.generation, false⟩ with
            | (.error e, t) =>
              (.error (mapTableError transport identity.userNo source e), s.setTable transport t)
            | (.ok (status, endpoint), t) =>
              (.ok ⟨identity, endpoint, status⟩, s.setTable transport t)

/-- `bind_authorized_ingress`. -/
def bindAuthorizedIngress (s : UdpEndpointState) (transport : UdpTransport)
    (identity : IdentityBinding) (source : SocketAddr) (routeHash : BitVec 32) :
    Except UdpEndpointStateError UdpIngressBinding × UdpEndpointState :=
  s.bindAuthorizedIngressAt transport identity source routeHash u64Max

/-- `bind_ingress`. -/
def bindIngress (s : UdpEndpointState) (identities : IdentityRegistry)
    (transport : UdpTransport) (accountId : Nat) (source : SocketAddr) (routeHash : BitVec 32) :
    Except UdpEndpointStateError UdpIngressBinding × UdpEndpointState :=
  match UserNo.new accountId with
  | none => (.error .zeroAccountId, s)
  | some userNo =>
    match identities.activeIdentityByUserNo userNo with
    | none => (.error (.inactiveAccount accountId), s)
    | some identity =>
      match s.advanceIdentity identity with
      | (.error e, s) => (.error e, s)
      | (.ok _, s) => s.bindAuthorizedIngress transport identity source routeHash

/-- `authorize_rebind`. -/
def authorizeRebind (s : UdpEndpointState) (identity : IdentityBinding) (boundaryEpoch : Nat) :
    Except UdpEndpointStateError Unit × UdpEndpointState :=
  let accountId := identity.userNo.get
  match s.active.lookup identity.userNo with
  | none => (.error (.inactiveAccount accountId), s)
  | some active =>
    if active.generation ≠ identity.generation then
      (.error (.staleGeneration .game accountId identity.generation.get active.generation.get), s)
    else if active.sourceIp ≠ identity.sourceIp then
      (.error (.sourceIpMismatch accountId active.sourceIp identity.sourceIp), s)
    else if active.reconnectBoundaryEpoch.any (boundaryEpoch ≤ ·) then (.ok (), s)
    else
      (.ok (), { s with
        active := s.active.insert identity.userNo
          { active with reconnectBoundaryEpoch := some boundaryEpoch }
        game := s.game.release identity.userNo identity.generation
        p2p := s.p2p.release identity.userNo identity.generation })

/-- `current_authorized_target`. -/
def currentAuthorizedTarget (s : UdpEndpointState) (transport : UdpTransport)
    (identity : IdentityBinding) : Option CurrentUdpEndpoint :=
  match s.active.lookup identity.userNo with
  | none => none
  | some active =>
    if active.generation ≠ identity.generation ∨ active.sourceIp ≠ identity.sourceIp then none
    else
      match (s.table transport).getAuthorized identity.userNo identity.generation with
      | none => none
      | some endpoint =>
        if endpoint.generation ≠ identity.generation
            ∨ endpoint.endpoint.ip ≠ identity.sourceIp then none
        else some ⟨identity, endpoint⟩

/-- `current_target`. -/
def currentTarget (s : UdpEndpointState) (identities : IdentityRegistry)
    (transport : UdpTransport) (userNo : UserNo) : Option CurrentUdpEndpoint :=
  (identities.activeIdentityByUserNo userNo).bind (s.currentAuthorizedTarget transport)

/-- `remove_released_identity`. -/
def removeReleasedIdentity (s : UdpEndpointState) (identity : ReleasedIdentity) :
    UdpEndpointState :=
  if (s.active.lookup identity.userNo).any (·.generation = identity.generation) then
    { s with
      active := s.active.erase identity.userNo
      game := s.game.release identity.userNo identity.generation
      p2p := s.p2p.release identity.userNo identity.generation }
  else s

/-- `clear`. -/
def clear (s : UdpEndpointState) : UdpEndpointState :=
  { s with active := ∅, game := ∅, p2p := ∅ }

end UdpEndpointState

end P4475.Udp
