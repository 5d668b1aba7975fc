import P4475.Identity.Safety
import P4475.Lib.Planner
import P4475.MyRoom.Presentations

/-!
# Life of the hub

Every planning operation of the hub as one, and the hub run as a planner: plans
are kept, handed in at any time, and refused once the revision has moved. What
each operation promised of its plan (`Planned`) is all the runs need.
-/

namespace P4475.MyRoom

open Lib

variable {u : Unicode}

/-- The planning operations, with what they are called with. -/
inductive HubOperation (u : Unicode)
  | enter (member : MyRoomParticipant u) (owner : MyRoomOwner u)
  | leave (identity : IdentityBinding)
  | disconnect (identity : IdentityBinding)
  | disconnectReleased (released : ReleasedIdentity)
  | updateOwnerInfo (identity : IdentityBinding) (info : MyRoomInfo)
  | refreshParticipant (participant : MyRoomParticipant u)
  | refreshProfileIfTracked (identity : IdentityBinding)
      (presentation : MyRoomProfilePresentation)
  | refreshP2pEndpointIfTracked (identity : IdentityBinding) (port : Nat)
  | advanceIdentity (previous : IdentityBinding) (replacement : MyRoomParticipant u)
  | advanceProfiledIdentityIfTracked (previous replacement : IdentityBinding)
      (presentation : MyRoomProfilePresentation)
  | advanceMigratedIdentityIfTracked (previous replacement : IdentityBinding)

inductive HubOutcome
  | entered (outcome : EnterOutcome)
  | left (effects : LeaveEffects)
  | disconnected (outcome : MyRoomDisconnectOutcome)
  | ownerInfoUpdated (update : OwnerInfoUpdate)
  | refreshed (effects : ParticipantRefreshEffects)
  | patched
  | advanced (effects : IdentityAdvanceEffects)
  deriving DecidableEq

/-- A transition with its outcome under a common type. -/
def MyRoomTransition.relabel {S T : Type} (f : S → T) (t : MyRoomTransition u S) :
    MyRoomTransition u T :=
  ⟨t.baseRevision, t.nextRevision, t.rooms, t.memberships, t.generations, f t.outcome⟩

namespace MyRoomHub

/-- The plan of an operation; the three `_if_tracked` operations may have none. -/
def plan (self : MyRoomHub u) :
    HubOperation u → Except MyRoomHubError (Option (MyRoomTransition u HubOutcome))
  | .enter member owner =>
    (self.enter member owner).map fun t => some (t.relabel .entered)
  | .leave identity => (self.leave identity).map fun t => some (t.relabel .left)
  | .disconnect identity =>
    (self.disconnect identity).map fun t => some (t.relabel .disconnected)
  | .disconnectReleased released =>
    (self.disconnectReleased released).map fun t => some (t.relabel .disconnected)
  | .updateOwnerInfo identity info =>
    (self.updateOwnerInfo identity info).map fun t => some (t.relabel .ownerInfoUpdated)
  | .refreshParticipant participant =>
    (self.refreshParticipant participant).map fun t => some (t.relabel .refreshed)
  | .refreshProfileIfTracked identity presentation =>
    (self.refreshProfileIfTracked identity presentation).map
      (Option.map fun t => t.relabel fun _ => .patched)
  | .refreshP2pEndpointIfTracked identity port =>
    (self.refreshP2pEndpointIfTracked identity port).map
      (Option.map fun t => t.relabel fun _ => .patched)
  | .advanceIdentity previous replacement =>
    (self.advanceIdentity previous replacement).map fun t => some (t.relabel .advanced)
  | .advanceProfiledIdentityIfTracked previous replacement presentation =>
    (self.advanceProfiledIdentityIfTracked previous replacement presentation).map
      (Option.map (MyRoomTransition.relabel .advanced))
  | .advanceMigratedIdentityIfTracked previous replacement =>
    (self.advanceMigratedIdentityIfTracked previous replacement).map
      (Option.map (MyRoomTransition.relabel .advanced))

variable {self : MyRoomHub u}

/-! ## One plan -/

theorem Planned.relabel {S T : Type} {t : MyRoomTransition u S} (h : Planned self t)
    (f : S → T) : Planned self (t.relabel f) :=
  ⟨h.base, h.stamp, h.lands⟩

theorem Optional.relabel {S T : Type} {t : Option (MyRoomTransition u S)} (h : Optional self t)
    (f : S → T) : Optional self (t.map fun t => t.relabel f) := by
  intro t' ht'
  obtain ⟨t, ht, rfl⟩ := Option.map_eq_some_iff.mp ht'
  exact (h t ht).relabel f

theorem Optional.always {T : Type} {t : MyRoomTransition u T} (h : Planned self t) :
    Optional self (some t) := by
  intro t' ht'
  injection ht' with ht'
  exact ht' ▸ h

/-- A certain plan among the optional ones. -/
theorem always_planned {S : Type} {x : Except MyRoomHubError (MyRoomTransition u S)}
    (f : S → HubOutcome) (h : Outcome Sized (Planned self) x) :
    Outcome Sized (Optional self) (x.map fun t => some (t.relabel f)) := by
  cases x with
  | error e => exact h
  | ok t => exact Optional.always (Planned.relabel h f)

theorem optional_planned {S : Type} {x : Except MyRoomHubError (Option (MyRoomTransition u S))}
    (f : S → HubOutcome) (h : Outcome Sized (Optional self) x) :
    Outcome Sized (Optional self) (x.map (Option.map fun t => t.relabel f)) := by
  cases x with
  | error e => exact h
  | ok t => exact Optional.relabel h f

/-- What every operation promises of its plan. -/
theorem plan_planned (operation : HubOperation u) :
    Outcome Sized (Optional self) (self.plan operation) := by
  cases operation with
  | enter member owner => exact always_planned _ (enter_planned member owner)
  | leave identity => exact always_planned _ (leave_planned identity)
  | disconnect identity => exact always_planned _ (disconnect_planned identity)
  | disconnectReleased released => exact always_planned _ (disconnectReleased_planned released)
  | updateOwnerInfo identity info => exact always_planned _ (updateOwnerInfo_planned identity info)
  | refreshParticipant participant =>
    exact always_planned _ (refreshParticipant_planned participant)
  | refreshProfileIfTracked identity presentation =>
    exact optional_planned _ (refreshProfileIfTracked_planned identity presentation)
  | refreshP2pEndpointIfTracked identity port =>
    exact optional_planned _ (refreshP2pEndpointIfTracked_planned identity port)
  | advanceIdentity previous replacement =>
    exact always_planned _ (advanceIdentity_planned previous replacement)
  | advanceProfiledIdentityIfTracked previous replacement presentation =>
    exact optional_planned _
      (advanceProfiledIdentityIfTracked_planned previous replacement presentation)
  | advanceMigratedIdentityIfTracked previous replacement =>
    exact optional_planned _ (advanceMigratedIdentityIfTracked_planned previous replacement)

/-! ## What the invariant says -/

/-- The invariant, read off the tables of the hub. -/
structure Consistent (hub : MyRoomHub u) : Prop where
  nonempty : ∀ owner room, hub.rooms.lookup owner = some room → room.mappedCount ≠ 0
  owned : ∀ owner room, hub.rooms.lookup owner = some room → room.owner.userNo = owner
  inverse : ∀ user owner slot, hub.memberships.lookup user = some ⟨owner, slot⟩ ↔
    ∃ room p, hub.rooms.lookup owner = some room ∧ room.participant slot = some p ∧
      p.userNo = user
  canonical : ∀ owner room slot p, hub.rooms.lookup owner = some room →
    room.participant slot = some p → hub.generations.lookup p.userNo = some p.identity
  tombstone : ∀ owner room, hub.rooms.lookup owner = some room →
    hub.generations.lookup owner = some room.owner.identity
  role : ∀ user, hub.generations.lookup user ≠ none → hub.rolePresent user = true
  absent : ∀ owner room, hub.rooms.lookup owner = some room → room.ownerPresent = false →
    room.owner.player.p2pPort = 0
  capacity : hub.generations.keys.card ≤ hub.identityCapacity

theorem Ok.consistent (h : self.Ok) : self.Consistent := by
  refine ⟨?_, ?_, ?_, ?_, ?_, fun user => h.role, ?_, h.capacity⟩
  · intro owner room hr hzero
    obtain ⟨i, hi⟩ := h.sound.occupied (directory_rooms hr)
    exact hi (RoomState.mappedCount_eq_zero.mp hzero i)
  · intro owner room hr
    exact h.sound.owned (directory_rooms hr)
  · intro user owner slot
    constructor
    · intro hm
      exact h.membership hm
    · rintro ⟨room, p, hr, hp, rfl⟩
      exact (h.canonical hr hp).2.1
  · intro owner room slot p hr hp
    exact (h.canonical hr hp).1
  · intro owner room hr
    exact h.sound.ownerNamed (directory_rooms hr)
  · intro owner room _ habsent
    exact room.tombstone habsent

/-! ## Runs -/

/-- The hub as a planner. A plan is effective when its commit moves the revision. -/
def planner (u : Unicode) (identityCapacity : Nat) :
    Planner (MyRoomHub u) (HubOperation u)
      (Except MyRoomHubError (Option (MyRoomTransition u HubOutcome)))
      (MyRoomTransition u HubOutcome) MyRoomCommitError where
  init := withIdentityCapacity u identityCapacity
  plan := MyRoomHub.plan
  mutation
    | .ok (some t) => some t
    | _ => none
  commit hub t := t.commit hub
  effective t := t.nextRevision ≠ t.baseRevision

variable {identityCapacity : Nat}

theorem mutation_planned {operation : HubOperation u} {t : MyRoomTransition u HubOutcome}
    (h : (planner u identityCapacity).mutation
      ((planner u identityCapacity).plan self operation) = some t) : Planned self t := by
  have hplan := @plan_planned u self operation
  have h' : (match self.plan operation with
    | .ok (some t) => some t
    | _ => none) = some t := h
  split at h'
  next t' ht =>
    rw [ht] at hplan
    injection h' with h'
    exact hplan t (congrArg some h')
  next => exact absurd h' (by simp)

theorem commit_ok {T : Type} {t : MyRoomTransition u T} {hub : MyRoomHub u}
    (h : t.commit self = .ok hub) : self.revision = t.baseRevision ∧ hub = self.apply t := by
  rw [commit_eq] at h
  split at h
  next => exact absurd h (by simp)
  next hbase => exact ⟨not_not.mp hbase, (Except.ok.inj h).symm⟩

/-- A plan that keeps the revision has nothing to change. -/
theorem apply_quiet {T : Type} {t : MyRoomTransition u T} (hr : t.rooms = [])
    (hm : t.memberships = []) (hg : t.generations = []) (hn : t.nextRevision = self.revision) :
    self.apply t = self := by
  unfold apply
  rw [hr, hm, hg, hn]
  rfl

/-- The commit of a plan, whenever it is handed in: nothing, or the next revision. -/
theorem Planned.commit {T : Type} {t : MyRoomTransition u T} {origin hub : MyRoomHub u}
    (h : Planned origin t) (hc : t.commit self = .ok hub) :
    (t.nextRevision = t.baseRevision ∧ hub = self) ∨
    (t.nextRevision ≠ t.baseRevision ∧ hub.revision = self.revision + 1) := by
  obtain ⟨hbase, rfl⟩ := commit_ok hc
  have hsame : origin.revision = self.revision := h.base.symm.trans hbase.symm
  rcases h.stamp with hnext | ⟨hnext, hr, hm, hg⟩
  · refine Or.inr ⟨?_, ?_⟩
    · rw [hnext, h.base]
      omega
    · show t.nextRevision = self.revision + 1
      rw [hnext, hsame]
  · exact Or.inl ⟨hnext.trans h.base.symm, apply_quiet hr hm hg (hnext.trans hsame)⟩

/-- The revision is the version of the hub; `next_revision` refuses to wrap. -/
def versioned (u : Unicode) (identityCapacity : Nat) :
    (planner u identityCapacity).Versioned 0 where
  version := MyRoomHub.revision
  base := MyRoomTransition.baseRevision
  version_init := rfl
  plan_base h := (mutation_planned h).base
  commit_base h := (commit_ok h).1.symm
  commit_effective hm hc he := by
    rcases (mutation_planned hm).commit hc with ⟨hn, -⟩ | ⟨-, hr⟩
    · exact absurd hn (of_decide_eq_true he)
    · rw [Nat.mod_zero]
      exact hr
  commit_quiet hm hc he := by
    rcases (mutation_planned hm).commit hc with ⟨-, hs⟩ | ⟨hn, -⟩
    · exact hs
    · exact absurd hn (of_decide_eq_false he)

/-- The machine of every order of plans and commits. -/
def machine (u : Unicode) (identityCapacity : Nat) :=
  (planner u identityCapacity).machine

/-- Every store a run reaches is sound. -/
theorem ok_of_reachable
    {d : Desk (MyRoomHub u) (HubOperation u) (MyRoomTransition u HubOutcome)}
    (h : (machine u identityCapacity).Reachable d) : d.store.Ok := by
  have hboth : (versioned u identityCapacity).Ok d ∧ d.store.Ok := by
    refine h.invariant (P := fun d => (versioned u identityCapacity).Ok d ∧ d.store.Ok)
      ⟨.init, withIdentityCapacity_ok u identityCapacity⟩ ?_
    intro d d' a r hi hs
    refine ⟨hi.1.step hs, ?_⟩
    rcases hi.1.step_store (fun _ _ _ _ => Or.inl rfl) hs with he | ⟨o, t, hm, hc⟩
    · rw [he]
      exact hi.2
    · rw [(commit_ok hc).2]
      exact (mutation_planned hm).lands hi.2
  exact hboth.2

/-- **The hub's contract.** After any run of plans and commits the audit passes in
every iteration order and the tables are consistent; an accepted plan leaves the hub
alone or raises the revision; a plan from before an effective commit is refused with
nothing changed; and no operation plans a transition beyond its bounds. -/
theorem hub_contract
    {d : Desk (MyRoomHub u) (HubOperation u) (MyRoomTransition u HubOutcome)}
    (h : (machine u identityCapacity).Reachable d) :
    (∀ rooms members users, d.store.auditInvariants rooms members users = .ok ()) ∧
    d.store.Consistent ∧ d.store.identityCapacity = identityCapacity ∧
    (∀ i held hub, d.held[i]? = some held → held.mutation.commit d.store = .ok hub →
      (machine u identityCapacity).step d (.commit i) =
        some (.committed, ⟨hub, d.held,
          if hub.revision = d.store.revision then d.commits else d.commits + 1⟩) ∧
      (hub = d.store ∨ d.store.revision < hub.revision)) ∧
    (∀ i held, d.held[i]? = some held → held.stamp < d.commits →
      (machine u identityCapacity).step d (.commit i) = some (.refused
        (.staleRevision held.mutation.baseRevision d.store.revision), d)) ∧
    (∀ operation rooms memberships generations,
      d.store.plan operation ≠ .error (.transitionTooLarge rooms memberships generations)) := by
  have hok := ok_of_reachable h
  have hdesk : (versioned u identityCapacity).Ok d := Planner.Versioned.ok_of_reachable _ h
  refine ⟨hok.audit, hok.consistent, ?_, ?_, ?_, ?_⟩
  · refine h.invariant (P := fun d => d.store.identityCapacity = identityCapacity) rfl ?_
    intro d d' a r hi hs
    rcases Planner.step_cases hs with rfl | ⟨o, m, -, -, rfl⟩ | ⟨i, held, s, -, -, hc, rfl⟩
    · exact hi
    · exact hi
    · show s.identityCapacity = identityCapacity
      rw [(commit_ok hc).2]
      exact hi
  · intro i held hub hh hc
    have hplan := mutation_planned (hdesk.planned held (List.mem_of_getElem? hh))
    have hstep : (machine u identityCapacity).step d (.commit i) =
        some (.committed, ⟨hub, d.held,
          if held.mutation.nextRevision ≠ held.mutation.baseRevision then d.commits + 1
          else d.commits⟩) := by
      show Planner.step _ d (.commit i) = _
      unfold Planner.step
      dsimp only
      rw [hh]
      dsimp only
      rw [show (planner u identityCapacity).commit d.store held.mutation = .ok hub from hc]
      simp [planner]
    rcases hplan.commit hc with ⟨hn, hs⟩ | ⟨hn, hr⟩
    · refine ⟨?_, Or.inl hs⟩
      rw [hstep, if_neg (not_not.mpr hn), if_pos (by rw [hs])]
    · refine ⟨?_, Or.inr (by omega)⟩
      rw [hstep, if_pos hn, if_neg (by omega)]
  · intro i held hh hold
    obtain ⟨e, he⟩ := hdesk.refused (List.mem_of_getElem? hh) hold (Or.inl rfl)
    have hcommit : held.mutation.commit d.store = .error e := he
    have hstale : e = .staleRevision held.mutation.baseRevision d.store.revision := by
      rw [commit_eq] at hcommit
      split at hcommit
      next => exact (Except.error.inj hcommit).symm
      next => exact absurd hcommit (by simp)
    show Planner.step _ d (.commit i) = _
    unfold Planner.step
    dsimp only
    rw [hh]
    dsimp only
    rw [he, hstale]
  · intro operation rooms memberships generations hbig
    exact (plan_planned operation).of_error hbig rooms memberships generations rfl

/-! ## A run -/

section Run

theorem visitor_pos : 0 < 2 := by omega

theorem visitor_le : 2 ≤ u32Max := by decide

/-- A participant with the player slot of its binding. -/
def sampleMyRoomPlayer (userNo : UserNo) : MyRoomParticipant IdentitySystem.plain where
  identity := ⟨['a'], userNo, ⟨1⟩, ⟨userNo.get⟩, .v4 5, none⟩
  player := ⟨userNo.get, 5, 9000, ['a'], [], 0, []⟩
  presents := ⟨rfl, rfl, rfl⟩

def host := sampleMyRoomPlayer IdentitySystem.sampleUser

def visitor := sampleMyRoomPlayer ⟨2, visitor_pos, visitor_le⟩

def hostRoom : MyRoomOwner IdentitySystem.plain where
  participant := host
  info := ⟨0, 0, 0, 0, 0, [], [], 0, 0⟩
  valid := rfl

/-- A visitor in a host's room plans to leave just before the host disconnects. -/
def visitActions : List (DeskAction (HubOperation IdentitySystem.plain)) :=
  [.plan (.enter host hostRoom), .commit 0, .plan (.enter visitor hostRoom), .commit 1,
    .plan (.leave visitor.identity), .plan (.disconnect host.identity), .commit 3]

theorem visitActions_run :
    ((machine IdentitySystem.plain 4).exec (machine IdentitySystem.plain 4).init []
      visitActions).isSome = true := by
  decide +kernel

/-- The run of `visitActions`. -/
def visitRun :=
  ((machine IdentitySystem.plain 4).exec (machine IdentitySystem.plain 4).init []
    visitActions).get visitActions_run

theorem visitRun_reachable : (machine IdentitySystem.plain 4).Reachable visitRun.2 :=
  (Machine.history_of_exec visitActions .init (Option.some_get visitActions_run).symm).reachable

/-- The leave is refused: the disconnect has ejected the visitor. -/
theorem visit_contract :
    visitRun.2.store.auditInvariants [] [] [] = .ok () ∧
    (machine IdentitySystem.plain 4).step visitRun.2 (.commit 2) =
      some (.refused (.staleRevision 2 visitRun.2.store.revision), visitRun.2) := by
  have h := hub_contract visitRun_reachable
  exact ⟨h.1 [] [] [], h.2.2.2.2.1 2 _ rfl (by decide +kernel)⟩

end Run

end MyRoomHub

end P4475.MyRoom
