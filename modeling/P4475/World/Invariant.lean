import P4475.Identity.Safety
import P4475.Identity.Transcript
import P4475.World.Simulation.Turn

/-!
# Reachable worlds

`World.Ok` holds between any two edits of a run: the identities are a reachable identity
system without a commit guard, and the tables agree with each other. A turn is a path of
edits, so an invariant of worlds is proved by the rule `WorldActor.invariant`, one edit
at a time.
-/

namespace P4475

open Lib

variable {H Q P : Type} {env : WorldEnv H Q P}

namespace IdentityRegistry

variable {r : IdentityRegistry} {unicode : Unicode} {expiring : List Text}
  {leases : List IdentityOperationLease} {fresh : List MigrationCandidate}

/-- A user number stands for an identity of that user. -/
theorem Inv.activeIdentity_userNo (h : r.Inv unicode expiring leases fresh) {userNo : UserNo}
    {b : IdentityBinding} (hb : r.activeIdentityByUserNo userNo = some b) : b.userNo = userNo := by
  unfold activeIdentityByUserNo at hb
  split at hb
  next => exact absurd hb (by simp)
  next key hk =>
    obtain ⟨active, ha, hbind⟩ := Option.bind_eq_some_iff.mp hb
    unfold activeIdentityBinding at hbind
    obtain ⟨owner, -, rfl⟩ := Option.map_eq_some_iff.mp hbind
    obtain ⟨n, hn, rfl⟩ := h.directory.name hk
    have hknown := (h.record ha).known
    rw [hn] at hknown
    cases hknown
    rfl

end IdentityRegistry

namespace World

variable {w w' : World H}

structure Ok (env : WorldEnv H Q P) (w : World H) : Prop where
  identities : (IdentitySystem.machine env.unicode env.instantMax).Reachable w.identities
  guard : w.identities.guard = none
  tables : TablesOk w.protocol

theorem Ok.activeIdentity (h : w.Ok env) {userNo : UserNo} {b : IdentityBinding}
    (hb : w.activeIdentity userNo = some b) : b.userNo = userNo :=
  (IdentitySystem.good_of_reachable h.identities).inv.activeIdentity_userNo hb

theorem initial_ok (hub : H) : (World.initial hub).Ok env where
  identities := .init
  guard := rfl
  tables := ProtocolTables.initial_ok

/-- Registry steps stay within the reachable identity systems. -/
theorem Ok.evolves (h : w.Ok env) {s : IdentitySystem}
    (he : Evolves env.unicode env.instantMax w.identities s) :
    (IdentitySystem.machine env.unicode env.instantMax).Reachable s ∧ s.guard = none := by
  obtain ⟨hguard, hpath⟩ := he h.guard
  refine ⟨?_, hguard⟩
  clear he hguard
  induction hpath with
  | refl => exact h.identities
  | tail _ hstep ih =>
    obtain ⟨action, response, hs⟩ := hstep
    exact ih.step hs

theorem Ok.edit (h : w.Ok env) (e : WorldEdit env w w') : w'.Ok env := by
  cases e with
  | identities tables _ evolves =>
    have hnext := h.evolves evolves
    exact ⟨hnext.1, hnext.2, tables ▸ h.tables⟩
  | tables identities _ edit =>
    exact ⟨identities ▸ h.identities, identities ▸ h.guard, h.tables.edit h.activeIdentity edit⟩

theorem Ok.opens (h : w.Ok env) {participant : RoomParticipant}
    (hi : w'.identities = w.identities) (ho : Opens participant w.protocol w'.protocol) :
    w'.Ok env :=
  ⟨hi ▸ h.identities, hi ▸ h.guard, h.tables.opens ho⟩

theorem Ok.edits (h : w.Ok env) (e : WorldEdits env w w') : w'.Ok env := by
  induction e with
  | refl => exact h
  | tail _ he ih => exact ih.edit he

/-- The invariant rule for a path of edits. -/
theorem Ok.edits_induction {C : World H → Prop} (h : w.Ok env)
    (hedit : ∀ {w w'}, w.Ok env → C w → WorldEdit env w w' → C w') (e : WorldEdits env w w')
    (h0 : C w) : C w' := by
  induction e with
  | refl => exact h0
  | tail hpath he ih => exact hedit (h.edits hpath) ih he

end World

namespace WorldActor

variable {a a' : WorldActor H} {action : WorldAction Q P} {response : WorldResponse}

/-- A step of the actor is a turn of its world. -/
theorem step_turn (hs : (machine env).step a action = some (response, a')) :
    a.world.turn env action = some (response, a'.running, a'.world) := by
  have hs' : a.step env action = some (response, a') := hs
  unfold WorldActor.step at hs'
  split at hs'
  next =>
    obtain ⟨⟨_, _, _⟩, ht, he⟩ := Option.map_eq_some_iff.mp hs'
    cases he
    exact ht
  next => exact absurd hs' (by simp)

theorem step_edits (hs : (machine env).step a action = some (response, a')) :
    TurnEdits env action.opener a.world a'.world :=
  World.turn_edits env (step_turn hs)

/-- **The invariant rule for worlds**: initially, when a room is opened, and at each
edit. -/
theorem invariant {C : World H → Prop} (h0 : C (.initial env.emptyHub))
    (hopen : ∀ {w w' : World H} {participant}, w.Ok env → C w → w'.identities = w.identities →
      w'.nextRewardAttemptId = w.nextRewardAttemptId → Opens participant w.protocol w'.protocol →
      C w')
    (hedit : ∀ {w w' : World H}, w.Ok env → C w → WorldEdit env w w' → C w')
    (h : (machine env).Reachable a) : C a.world := by
  have key : a.world.Ok env ∧ C a.world := by
    refine h.invariant (P := fun a => a.world.Ok env ∧ C a.world)
      ⟨World.initial_ok env.emptyHub, h0⟩ ?_
    rintro s s' action response ⟨hok, hc⟩ hs
    cases step_edits hs with
    | edits e => exact ⟨hok.edits e, hok.edits_induction hedit e hc⟩
    | opens _ identities attempts open_ e =>
      have hok₁ := hok.opens identities open_
      exact ⟨hok₁.edits e,
        hok₁.edits_induction hedit e (hopen hok hc identities attempts open_)⟩
  exact key.2

theorem ok_of_reachable (h : (machine env).Reachable a) : a.world.Ok env :=
  invariant (World.initial_ok _) (fun hok _ hi _ ho => hok.opens hi ho)
    (fun hok _ e => hok.edit e) h

end WorldActor

/-! ## Worlds in the middle of a turn -/

/-- One edit, or a room opened. -/
inductive World.Onward (env : WorldEnv H Q P) (w w' : World H) : Prop
  | edit (edit : WorldEdit env w w')
  | opens {participant : RoomParticipant} (identities : w'.identities = w.identities)
      (attempts : w'.nextRewardAttemptId = w.nextRewardAttemptId)
      (open_ : Opens participant w.protocol w'.protocol)

/-- Any number of them. -/
abbrev World.Later (env : WorldEnv H Q P) := Relation.ReflTransGen (World.Onward env)

/-- The worlds that a run may pass through, between two turns or in the middle of one. -/
def World.Visited (env : WorldEnv H Q P) (w : World H) : Prop :=
  ∃ a, (WorldActor.machine env).Reachable a ∧ World.Later env a.world w

namespace World

variable {w w' : World H}

theorem Ok.onward (h : w.Ok env) (e : Onward env w w') : w'.Ok env := by
  cases e with
  | edit edit => exact h.edit edit
  | opens identities _ open_ => exact h.opens identities open_

theorem Ok.later (h : w.Ok env) (e : Later env w w') : w'.Ok env := by
  induction e with
  | refl => exact h
  | tail _ e ih => exact ih.onward e

theorem Visited.ok (h : w.Visited env) : w.Ok env := by
  obtain ⟨a, ha, e⟩ := h
  exact (WorldActor.ok_of_reachable ha).later e

theorem Visited.later (h : w.Visited env) (e : Later env w w') : w'.Visited env := by
  obtain ⟨a, ha, e₀⟩ := h
  exact ⟨a, ha, e₀.trans e⟩

/-- The invariant rule for every moment of a run, in the middle of a turn too. -/
theorem Visited.induction {C : World H → Prop} (h : w.Visited env)
    (h0 : C (.initial env.emptyHub))
    (hstep : ∀ {w w' : World H}, w.Ok env → C w → Onward env w w' → C w') : C w := by
  obtain ⟨a, ha, e⟩ := h
  have hbefore : C a.world := WorldActor.invariant h0
    (fun hok hc hi hn ho => hstep hok hc (.opens hi hn ho)) (fun hok hc e => hstep hok hc (.edit e)) ha
  induction e with
  | refl => exact hbefore
  | tail hpath e ih => exact hstep ((WorldActor.ok_of_reachable ha).later hpath) ih e

theorem Visited.room (h : w.Visited env) {id : RoomId} {room : ProtocolRoomState}
    (hr : w.room? id = some room) : room.id = id ∧ room.RoomOk := h.ok.tables.rooms hr

theorem later_of_edits (e : WorldEdits env w w') : Later env w w' := by
  induction e with
  | refl => exact .refl
  | tail _ e ih => exact ih.tail (.edit e)

theorem later_of_turn {opener : Option RoomParticipant} (e : TurnEdits env opener w w') :
    Later env w w' := by
  cases e with
  | edits e => exact later_of_edits e
  | opens _ identities attempts open_ e =>
    exact .head (.opens identities attempts open_) (later_of_edits e)

end World

theorem WorldActor.visited {a : WorldActor H} (h : (machine env).Reachable a) :
    a.world.Visited env := ⟨a, h, .refl⟩

theorem WorldActor.step_later {a a' : WorldActor H} {action : WorldAction Q P}
    {response : WorldResponse} (hs : (machine env).step a action = some (response, a')) :
    World.Later env a.world a'.world := World.later_of_turn (step_edits hs)

/-! ## A run -/

/-- A hub that nobody enters. -/
def idleHub : MyRoomHubOps Unit Unit Unit where
  disconnectReleased := fun _ _ => .ok ((), [])
  leave := fun _ _ => .ok none
  advance := fun _ _ _ _ => .ok ()
  refresh := fun _ _ _ => .ok ()
  request := fun _ _ _ => .stays () []
  matchesNickname := fun _ _ => .ok true
  rp := fun _ => 0
  rewarded := fun _ _ _ _ _ => .ok none
  equipped := fun _ _ _ => .ok ()
  endpointMoved := fun _ _ _ => .ok ()
  presentOwner := fun _ _ => .ok false
  retains := fun _ => false

def sampleEnv : WorldEnv Unit Unit Unit where
  unicode := IdentitySystem.plain
  instantMax := u64Max
  wire := ⟨fun _ => none⟩
  hub := idleHub
  emptyHub := ()
  identityCapacity := 8

abbrev sampleMachine := WorldActor.machine sampleEnv

def sampleSession : SessionState := ⟨.v4 5, true, some ⟨64, [], 0, false⟩, none⟩

def sampleParticipant : RoomParticipant where
  player := ⟨0, 1, 0, 0, [], 0, 0, 0, Vector.replicate 65 0, 0, 0, 0, 0⟩
  observer := false
  observerMaster := false
  floaterCodes := (0, 0, 0)

/-- A login on session `s`, handed over to a team channel on the next session. -/
def enterActions (s : Nat) (userNo : UserNo) (nickname : Text) : List (WorldAction Unit Unit) :=
  [.command (.registerSession sampleSession), .command (.claimIdentity ⟨s⟩ nickname 0),
    .identity (.beginMigration ⟨s⟩ ⟨3, 13⟩ IdentitySystem.sampleToken 10),
    .command (.registerSession sampleSession),
    .command (.preflightMigration ⟨s + 1⟩ userNo 3 IdentitySystem.sampleToken 11),
    .migrationReady 0 (some ()) false true true 0 12]

def sampleGuest : UserNo := ⟨2, by decide, by decide⟩

/-- One user opens a team room, another joins it. -/
def roomActions : List (WorldAction Unit Unit) :=
  enterActions 1 IdentitySystem.sampleUser ['a'] ++
    [.command (.roomProtocol ⟨2⟩ (.create ⟨['r'], [], 3, 0, []⟩ sampleParticipant) [] 20)] ++
    enterActions 3 sampleGuest ['b'] ++
    [.command (.roomProtocol ⟨4⟩ (.join ⟨1, []⟩ sampleParticipant) [⟨1⟩] 30)]

theorem roomActions_run :
    (sampleMachine.exec sampleMachine.init [] roomActions).isSome = true := by
  decide +kernel

/-- The run of `roomActions`. -/
def roomRun : List (WorldAction Unit Unit × WorldResponse) × WorldActor Unit :=
  (sampleMachine.exec sampleMachine.init [] roomActions).get roomActions_run

theorem roomRun_history : sampleMachine.History roomRun.1 roomRun.2 :=
  Machine.history_of_exec roomActions .init (Option.some_get roomActions_run).symm

theorem roomRun_reachable : sampleMachine.Reachable roomRun.2 := roomRun_history.reachable

end P4475
