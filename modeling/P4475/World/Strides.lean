import P4475.World.Paths

/-!
# Strides

What a turn does in full, where an edit shows only the identities and the rooms: the hub
moves by one of its operations, and a release that the registry hands out waits until the
hub has carried it out. A stage is a world with the releases that still wait; while some
do, nothing but the hub and the tables moves. Every stride is a path of edits.
-/

namespace P4475

open Lib

namespace World

variable {H Q P : Type}

/-- A world with the releases that it has still to carry out. -/
abbrev Stage (H : Type) := World H × List ReleasedIdentity

/-- The hub takes an operation on its own. -/
inductive HubMove (env : WorldEnv H Q P) (w : World H) (next : H) : Prop
  | left {identity : IdentityBinding} {fanout : List MyRoomFanout}
      (left_ : env.hub.leave w.myroom identity = .ok (some (next, fanout)))
  | refreshed {session : SessionId} {identity : IdentityBinding} {profile : P}
      (authorized : w.authorizeSessionOperation env session = .ok identity)
      (refreshed_ : env.hub.refresh w.myroom identity profile = .ok next)
  | stays {identity : IdentityBinding} {request : Q} {fanout : List MyRoomFanout}
      (stays_ : env.hub.request w.myroom identity request = .stays next fanout)
  | enters {identity : IdentityBinding} {request : Q} {fanout : List MyRoomFanout}
      (enters_ : env.hub.request w.myroom identity request = .enters next fanout)
  | rewarded {id : RoomId} {userNo : UserNo} {nickname : Text} {profile : P}
      (rewarded_ : env.hub.rewarded w.myroom id userNo nickname profile = .ok (some (.ok next)))
  | equipped {identity : IdentityBinding} {profile : P}
      (equipped_ : env.hub.equipped w.myroom identity profile = .ok next)
  | endpointMoved {identity : IdentityBinding} {port : Nat}
      (moved : env.hub.endpointMoved w.myroom identity port = .ok next)

/-- A command under a lease has the binding of a lease. -/
def Admits (w : World H) (binding : Option IdentityBinding) : Prop :=
  ∀ b, binding = some b → ∃ lease ∈ w.identities.leases, lease.binding = b

inductive Stride (env : WorldEnv H Q P) : Stage H → Stage H → Prop
  | kept {w w' : World H} {waiting : List ReleasedIdentity} (within : Within w w') :
      Stride env (w, waiting) (w', waiting)
  | issued {w : World H} {attemptId : RewardAttemptId} {t : ProtocolTables}
      (attempt : w.nextRewardAttemptId = some attemptId)
      (edit : TableEdit w.activeIdentity (some attemptId) w.protocol t)
      (members : Shrinks w.protocol t) (ids : IdsMove w.protocol t) :
      Stride env (w, []) ({ w with
        nextRewardAttemptId := RewardAttemptId.following attemptId
        protocol := t }, [])
  | admits {w : World H} {binding : Option IdentityBinding} (lease : w.Admits binding) :
      Stride env (w, []) (w.withAdmitted binding, [])
  | idles {w : World H} {s : IdentitySystem}
      (idles_ : Idles env.unicode env.instantMax w.identities s)
      (leases : w.admittedIdentity = none ∨ s.leases = w.identities.leases) :
      Stride env (w, []) ({ w with identities := s }, [])
  | releases {w : World H} {s : IdentitySystem} {action : IdentityAction}
      {response : IdentityResponse}
      (step : w.identities.guard = none →
        w.identities.step env.unicode env.instantMax action = some (response, s))
      (quiet : ∀ result, response ≠ .completion result)
      (guard : s.guard = w.identities.guard) (leases : s.leases = w.identities.leases) :
      Stride env (w, []) ({ w with identities := s }, IdentitySystem.stampsOf response)
  | clears {w : World H} {identity : ReleasedIdentity} {waiting : List ReleasedIdentity}
      {next : H} {fanout : List MyRoomFanout}
      (cleared : env.hub.disconnectReleased w.myroom identity = .ok (next, fanout)) :
      Stride env (w, identity :: waiting) ({ w with myroom := next }, waiting)
  | moves {w : World H} {next : H} (move : HubMove env w next) :
      Stride env (w, []) ({ w with myroom := next }, [])
  | migrates {w : World H} {s : IdentitySystem} {completion : MigrationCompletion} {next : H}
      {profile : Option P}
      (completes : w.identities.guard = none →
        Completes env.unicode env.instantMax w.identities s (.ok completion))
      (leases : s.leases = w.identities.leases)
      (advanced : env.hub.advance w.myroom completion.previousBinding completion.binding profile =
        .ok next) :
      Stride env (w, []) ({ w with identities := s, myroom := next }, [])
  /-- A commit that the registry refuses. -/
  | jams {w : World H} {s : IdentitySystem} {e : IdentityError}
      (completes : w.identities.guard = none →
        Completes env.unicode env.instantMax w.identities s (.error e))
      (leases : s.leases = w.identities.leases) :
      Stride env (w, []) ({ w with identities := s }, [])

/-- Any number of strides. -/
abbrev Strides (env : WorldEnv H Q P) := Relation.ReflTransGen (Stride env)

/-- Strides from one stage to the other; where `ok` is false, releases may be left over. -/
def Leads (env : WorldEnv H Q P) (s : Stage H) (ok : Bool) (s' : Stage H) : Prop :=
  ∃ waiting, Strides env s (s'.1, waiting) ∧ (ok = true → waiting = s'.2)

/-- An error of the MyRooms stops the actor. -/
def survives {α : Type} : Except WorldOperationError α → Bool
  | .error (.myroom _) => false
  | _ => true

section Leads

variable {env : WorldEnv H Q P} {w w' w'' : World H} {s s' s'' : Stage H} {ok ok' : Bool}
  {waiting : List ReleasedIdentity}

theorem Stride.edits (h : Stride env s s') : WorldEdits env s.1 s'.1 := by
  cases h with
  | kept within => exact within.edits
  | issued attempt edit =>
    have hconsumes : Consumes (some _) _ (RewardAttemptId.following _) := ⟨attempt, rfl⟩
    exact .single (.tables rfl hconsumes edit)
  | admits => exact edits_of_same rfl rfl rfl
  | idles idles => exact edits_of_registry rfl rfl idles.evolves
  | releases step _ guard =>
    exact edits_of_registry rfl rfl (.step step fun hn => guard.trans hn)
  | clears => exact edits_of_same rfl rfl rfl
  | moves => exact edits_of_same rfl rfl rfl
  | migrates completes => exact edits_of_registry rfl rfl (Completes.evolves completes)
  | jams completes => exact edits_of_registry rfl rfl (Completes.evolves completes)

theorem Strides.edits (h : Strides env s s') : WorldEdits env s.1 s'.1 := by
  induction h with
  | refl => exact .refl
  | tail _ hs ih => exact ih.trans hs.edits

theorem Leads.edits (h : Leads env s ok s') : WorldEdits env s.1 s'.1 := by
  obtain ⟨waiting, hpath, -⟩ := h
  exact hpath.edits

theorem Leads.refl : Leads env s ok s := ⟨s.2, .refl, fun _ => rfl⟩

theorem Leads.trans (h : Leads env s true s') (h' : Leads env s' ok s'') :
    Leads env s ok s'' := by
  obtain ⟨waiting, hpath, hwaiting⟩ := h
  obtain ⟨waiting', hpath', hwaiting'⟩ := h'
  rw [hwaiting rfl] at hpath
  exact ⟨waiting', hpath.trans hpath', hwaiting'⟩

/-- A result that does not go on may end in any way. -/
theorem Leads.weaken (h : Leads env s ok s') (hok : ok' = true → ok = true) :
    Leads env s ok' s' := by
  obtain ⟨waiting, hpath, hwaiting⟩ := h
  exact ⟨waiting, hpath, fun ht => hwaiting (hok ht)⟩

theorem Leads.stride (h : Stride env s s') : Leads env s ok s' := ⟨s'.2, .single h, fun _ => rfl⟩

theorem Within.leads (h : Within w w') : Leads env (w, waiting) ok (w', waiting) :=
  .stride (.kept h)

/-- Something that leaves the identities alone, and what follows. -/
theorem Within.then (h : Within w w') (h' : Leads env (w', waiting) ok s') :
    Leads env (w, waiting) ok s' := .trans h.leads h'

theorem Leads.within (h : Leads env s ok (w, waiting)) (h' : Within w w') :
    Leads env s ok (w', waiting) := by
  obtain ⟨left, hpath, hleft⟩ := h
  exact ⟨left, .tail hpath (.kept h'), hleft⟩

/-- The registry is called, and nobody is released. -/
theorem Leads.registry {r : IdentitySystem}
    (h : Idles env.unicode env.instantMax w.identities r)
    (hl : w.admittedIdentity = none ∨ r.leases = w.identities.leases) :
    Leads env (w, []) ok ({ w with identities := r }, []) := .stride (.idles h hl)

/-- The hub moves. -/
theorem Leads.move {next : H} (h : HubMove env w next) :
    Leads env (w, []) ok ({ w with myroom := next }, []) := .stride (.moves h)

end Leads

/-! ## Taking a seat -/

/-- The command takes a seat in a protocol room, which it creates or joins. -/
inductive Takes (env : WorldEnv H Q P) (w : World H) : WorldCommand Q P → UserNo → Prop
  | create {session : SessionId} {identity : IdentityBinding} {request : ChCreateRoomRequest}
      {participant : RoomParticipant} (visit : List RoomId) (now : Instant)
      (authorized : w.authorizeSessionOperation env session = .ok identity)
      (created : (w.createRoomState env identity request participant).1 = .ok true) :
      Takes env w (.roomProtocol session (.create request participant) visit now) identity.userNo
  | join {session : SessionId} {identity : IdentityBinding} {request : ChJoinRoomRequest}
      {participant : RoomParticipant} {status : JoinRoomStatus} {gameType : Nat}
      {room : ProtocolRoomState} (visit : List RoomId) (now : Instant)
      (authorized : w.authorizeSessionOperation env session = .ok identity)
      (planned : w.planJoin env identity request participant =
        .ok (status, gameType, some room)) :
      Takes env w (.roomProtocol session (.join request participant) visit now) identity.userNo

/-- A user takes a seat, and nothing else happens. -/
structure Seated (env : WorldEnv H Q P) (opener : Option RoomParticipant) (userNo : UserNo)
    (w w' : World H) : Prop where
  edits : TurnEdits env opener w w'
  members : ∀ k id, w'.protocol.protocolRoomByUser.lookup k = some id →
    k = userNo ∨ w.protocol.protocolRoomByUser.lookup k = some id
  identities : w'.identities = w.identities
  myroom : w'.myroom = w.myroom
  awaited : w'.awaited = w.awaited
  admitted : w'.admittedIdentity = w.admittedIdentity
  roomIds : w.RoomIdsOk → w'.RoomIdsOk

/-- What a command does: strides, after it has taken a seat if it asks for one. -/
inductive CommandStrides (env : WorldEnv H Q P) (command : WorldCommand Q P) (w : World H)
    (ok : Bool) (w' : World H) : Prop
  | leads (h : Leads env (w, []) ok (w', []))
  | seats {userNo : UserNo} {w₁ : World H} (takes : Takes env w command userNo)
      (seated : Seated env command.opener userNo w w₁) (h : Leads env (w₁, []) ok (w', []))

end World

end P4475
