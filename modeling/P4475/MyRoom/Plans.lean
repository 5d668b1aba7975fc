import P4475.Lib.Outcome
import P4475.MyRoom.Audit

/-!
# What a plan promises

`Planned hub t`: the transition `t` was made on this revision of the hub, either
changes nothing or carries the next revision, and lands in a sound hub if the hub
is sound. The specifications of the checks come first; each says what its success
means and that its failure is not `TransitionTooLarge`. `Ok.land` then compares a
planned list of changes with an edit of the directory.
-/

namespace P4475.MyRoom

open Lib

variable {u : Unicode}

/-- Any error but an oversized transition. -/
def Sized (e : MyRoomHubError) : Prop :=
  ∀ rooms memberships generations, e ≠ .transitionTooLarge rooms memberships generations

/-! ## Checks -/

theorem requireSameBinding_spec (canonical claimed : IdentityBinding) :
    Outcome Sized (fun _ => canonical = claimed) (requireSameBinding canonical claimed) := by
  unfold requireSameBinding
  refine Outcome.ite (fun _ => ?_) fun _ => Outcome.ite (fun _ => ?_) fun h => ?_
  · intro _ _ _
    simp
  · intro _ _ _
    simp
  · exact not_not.mp h

theorem requireSameReleasedBinding_spec (canonical : IdentityBinding)
    (released : ReleasedIdentity) :
    Outcome Sized (fun _ => canonical.userNo = released.userNo)
      (requireSameReleasedBinding canonical released) := by
  unfold requireSameReleasedBinding
  refine Outcome.ite (fun _ => ?_) fun h => Outcome.ite (fun _ => ?_) fun _ => ?_
  · intro _ _ _
    simp
  · intro _ _ _
    simp
  · by_contra hn
    exact h (Or.inl hn)

theorem validateIdentityAdvance_spec (previous replacement : IdentityBinding) :
    Outcome Sized (fun _ => previous.userNo = replacement.userNo)
      (validateIdentityAdvance u previous replacement) := by
  unfold validateIdentityAdvance
  refine Outcome.ite (fun _ => ?_) fun h =>
    Outcome.ite (fun _ => ?_) fun _ => Outcome.ite (fun _ => ?_) fun _ => ?_
  · intro _ _ _
    simp
  · intro _ _ _
    simp
  · intro _ _ _
    simp
  · exact not_not.mp h

theorem newParticipant_spec (identity : IdentityBinding) (player : MyRoomPlayerSlot) :
    Outcome Sized (fun p => p.identity = identity) (MyRoomParticipant.new u identity player) := by
  cases h : MyRoomParticipant.new u identity player with
  | ok p => exact (MyRoomParticipant.new_ok h).1
  | error e =>
    unfold MyRoomParticipant.new at h
    split at h
    next =>
      injection h with h
      rw [← h]
      intro _ _ _
      simp
    next =>
      split at h
      next =>
        split at h
        next => exact absurd h (by simp)
        next =>
          injection h with h
          rw [← h]
          intro _ _ _
          simp
      next =>
        injection h with h
        rw [← h]
        intro _ _ _
        simp

/-- A room operation fails with an internal violation, never with an oversized
transition. -/
theorem internal_spec {α : Type} {Q : α → Prop} {x : Except MyRoomInvariantViolation α}
    (h : ∀ a, x = .ok a → Q a) : Outcome Sized Q (internal x) :=
  Outcome.mapError h fun _ _ _ _ => by simp

namespace MyRoomHub

variable (self : MyRoomHub u)

theorem room_spec (owner : UserNo) :
    Outcome Sized (fun room => self.rooms.lookup owner = some room) (self.room owner) := by
  unfold room
  split
  next room h => exact h
  next =>
    intro _ _ _
    simp

theorem requireCanonicalIdentity_spec (identity : IdentityBinding) :
    Outcome Sized (fun _ => self.generations.lookup identity.userNo = some identity)
      (self.requireCanonicalIdentity identity) := by
  unfold requireCanonicalIdentity
  split
  next =>
    intro _ _ _
    simp
  next canonical h =>
    refine (requireSameBinding_spec canonical identity).mono fun _ he => ?_
    rw [h, he]

theorem validateOrNewIdentity_spec (identity : IdentityBinding) :
    Outcome Sized (fun isNew => self.generations.lookup identity.userNo =
      if isNew then none else some identity) (self.validateOrNewIdentity identity) := by
  unfold validateOrNewIdentity
  split
  next canonical h =>
    refine (requireSameBinding_spec canonical identity).bind fun _ he => ?_
    show self.generations.lookup identity.userNo = some identity
    rw [h, he]
  next h => exact h

theorem requireExactMember_spec (identity : IdentityBinding) (membership : Membership) :
    Outcome Sized (fun _ => ∃ room, self.rooms.lookup membership.owner = some room ∧
      room.shape.seat membership.slot = some identity)
      (self.requireExactMember identity membership) := by
  unfold requireExactMember
  refine (self.room_spec membership.owner).bind fun room hr => ?_
  split
  next =>
    intro _ _ _
    simp
  next participant hp =>
    refine Outcome.ite (fun _ => ?_) fun _ => ?_
    · intro _ _ _
      simp
    · refine (requireSameBinding_spec participant.identity identity).mono fun _ he => ?_
      exact ⟨room, hr, he ▸ RoomState.seat_of_participant hp⟩

theorem membershipExact_spec (identity : IdentityBinding) :
    Outcome Sized (fun membership =>
      self.memberships.lookup identity.userNo = some membership ∧
      self.generations.lookup identity.userNo = some identity)
      (self.membershipExact identity) := by
  unfold membershipExact
  refine (self.requireCanonicalIdentity_spec identity).bind fun _ hg => ?_
  split
  next =>
    intro _ _ _
    simp
  next membership hm =>
    refine (self.requireExactMember_spec identity membership).bind fun _ _ => ?_
    exact ⟨hm, hg⟩

theorem roomExactOwner_spec (owner : UserNo) (identity : IdentityBinding) :
    Outcome Sized (fun room => self.rooms.lookup owner = some room)
      (self.roomExactOwner owner identity) := by
  unfold roomExactOwner
  refine (self.room_spec owner).bind fun room hr => ?_
  refine (self.requireCanonicalIdentity_spec identity).bind fun _ _ => ?_
  refine (requireSameBinding_spec room.owner.identity identity).bind fun _ _ => ?_
  exact hr

theorem hasRole_spec (userNo : UserNo) :
    Outcome Sized (fun hasRole => hasRole = self.rolePresent userNo) (self.hasRole userNo) := by
  unfold hasRole
  refine Outcome.ite (fun _ => ?_) fun _ => ?_
  · intro _ _ _
    simp
  · exact rfl

theorem nextRevision_spec :
    Outcome Sized (fun next => next = self.revision + 1) self.nextRevision := by
  unfold nextRevision
  refine Outcome.ite (fun _ => ?_) fun _ => ?_
  · exact rfl
  · intro _ _ _
    simp

theorem validateIdentityCapacity_spec (additional pruned : Nat) :
    Outcome Sized
      (fun _ => self.generations.keys.card + additional - pruned ≤ self.identityCapacity)
      (self.validateIdentityCapacity additional pruned) := by
  unfold validateIdentityCapacity
  dsimp only
  refine Outcome.ite (fun _ => ?_) fun h => ?_
  · intro _ _ _
    simp
  · exact Nat.le_of_not_lt h

theorem seat_spec (userNo : UserNo) (membership : Membership) :
    Outcome Sized (fun seat => self.rooms.lookup membership.owner = some seat.1 ∧
        seat.1.participant membership.slot = some seat.2)
      (self.seat userNo membership) := by
  unfold seat
  refine (self.room_spec membership.owner).bind fun room hr => ?_
  split
  next =>
    intro _ _ _
    simp
  next current hp => exact ⟨hr, hp⟩

theorem requireMapped_spec (owner : UserNo) (participants : List (MyRoomParticipant u)) :
    Outcome Sized (fun _ => True) (self.requireMapped owner participants) := by
  induction participants with
  | nil => exact trivial
  | cons participant rest ih =>
    unfold requireMapped
    split
    next =>
      intro _ _ _
      simp
    next =>
      refine Outcome.ite (fun _ => ?_) fun _ => ih
      intro _ _ _
      simp

/-- A transition within its bounds is the record of its changes. -/
theorem transition_spec {T : Type} (next : Nat) (rooms : List (RoomChange u))
    (memberships : List MembershipChange) (generations : List GenerationChange) (outcome : T)
    (hr : rooms.length ≤ maxTransitionRooms)
    (hm : memberships.length ≤ maxTransitionMemberships)
    (hg : generations.length ≤ maxTransitionGenerations) :
    Outcome Sized (fun t => t = ⟨self.revision, next, rooms, memberships, generations, outcome⟩)
      (self.transition next rooms memberships generations outcome) := by
  unfold transition
  refine Outcome.ite (fun h => ?_) fun _ => rfl
  omega

/-! ## Pruned generations -/

variable {self}
variable {rooms : List (RoomChange u)} {memberships : List MembershipChange}

variable (self rooms memberships) in
theorem pushGenerationPrune_cases (changes : List GenerationChange) (x : UserNo) :
    self.pushGenerationPrune changes x rooms memberships = changes ∨
    (self.userReferencedAfter x rooms memberships = false ∧
      self.pushGenerationPrune changes x rooms memberships = changes ++ [(x, none)]) := by
  unfold pushGenerationPrune
  split
  next => exact Or.inl rfl
  next =>
    split
    next h =>
      rw [Bool.and_eq_true, Bool.not_eq_true'] at h
      exact Or.inr ⟨h.2, rfl⟩
    next => exact Or.inl rfl

theorem length_pushGenerationPrunes (users : List UserNo) :
    ∀ changes : List GenerationChange,
      (self.pushGenerationPrunes changes users rooms memberships).length ≤
        changes.length + users.length := by
  induction users with
  | nil =>
    intro changes
    exact Nat.le_refl _
  | cons x rest ih =>
    intro changes
    have hrest := ih (self.pushGenerationPrune changes x rooms memberships)
    have hone : (self.pushGenerationPrune changes x rooms memberships).length ≤
        changes.length + 1 := by
      rcases pushGenerationPrune_cases self rooms memberships changes x with he | ⟨-, he⟩
      · rw [he]
        omega
      · rw [he, List.length_append, List.length_singleton]
    show (self.pushGenerationPrunes (self.pushGenerationPrune changes x rooms memberships) rest
      rooms memberships).length ≤ _
    rw [List.length_cons]
    omega

/-- A user who keeps a role, or is not asked about, keeps the binding it has. -/
theorem after_prunes_keep {k : UserNo} (users : List UserNo)
    (hk : self.userReferencedAfter k rooms memberships = true ∨ k ∉ users) :
    ∀ changes : List GenerationChange,
      self.generations.after (self.pushGenerationPrunes changes users rooms memberships) k =
        self.generations.after changes k := by
  induction users with
  | nil =>
    intro changes
    rfl
  | cons x rest ih =>
    intro changes
    have hrest : self.userReferencedAfter k rooms memberships = true ∨ k ∉ rest := by
      rcases hk with h | h
      · exact Or.inl h
      · exact Or.inr fun hm => h (List.mem_cons_of_mem x hm)
    refine (ih hrest (self.pushGenerationPrune changes x rooms memberships)).trans ?_
    rcases pushGenerationPrune_cases self rooms memberships changes x with he | ⟨hx, he⟩
    · rw [he]
    · rw [he, Map.after_concat, if_neg]
      rintro rfl
      rcases hk with h | h
      · rw [hx] at h
        exact absurd h (by simp)
      · exact h List.mem_cons_self

/-- The changes say nothing about `k`, or erase it. -/
def Erases (changes : List GenerationChange) (k : UserNo) : Prop :=
  ∀ change ∈ changes, change.1 = k → change.2 = none

theorem Erases.after {changes : List GenerationChange} {k : UserNo} (h : Erases changes k)
    (hk : (changes.any fun change => change.1 = k) = true ∨ self.generations.lookup k = none) :
    self.generations.after changes k = none := by
  unfold Map.after
  split
  next change hfind =>
    have hmem := List.mem_reverse.mp (List.mem_of_find?_eq_some hfind)
    exact h change hmem (by simpa using List.find?_some hfind)
  next hfind =>
    rcases hk with hany | hn
    · obtain ⟨change, hmem, he⟩ := List.any_eq_true.mp hany
      have hno := List.find?_eq_none.mp hfind change (List.mem_reverse.mpr hmem)
      exact absurd he hno
    · exact hn

theorem Erases.push {changes : List GenerationChange} {k x : UserNo} (h : Erases changes k) :
    Erases (self.pushGenerationPrune changes x rooms memberships) k := by
  rcases pushGenerationPrune_cases self rooms memberships changes x with he | ⟨-, he⟩
  · rw [he]
    exact h
  · rw [he]
    intro change hm hk
    rcases List.mem_append.mp hm with hm | hm
    · exact h change hm hk
    · rw [List.mem_singleton.mp hm]

theorem Erases.pushes {k : UserNo} (users : List UserNo) : ∀ {changes : List GenerationChange},
    Erases changes k → Erases (self.pushGenerationPrunes changes users rooms memberships) k := by
  induction users with
  | nil =>
    intro changes h
    exact h
  | cons x rest ih =>
    intro changes h
    exact ih h.push

theorem any_pushGenerationPrunes {k : UserNo} (users : List UserNo) :
    ∀ {changes : List GenerationChange}, (changes.any fun change => change.1 = k) = true →
      ((self.pushGenerationPrunes changes users rooms memberships).any
        fun change => change.1 = k) = true := by
  induction users with
  | nil =>
    intro changes h
    exact h
  | cons x rest ih =>
    intro changes h
    have hone : ((self.pushGenerationPrune changes x rooms memberships).any
        fun change => change.1 = k) = true := by
      rcases pushGenerationPrune_cases self rooms memberships changes x with he | ⟨-, he⟩
      · rw [he]
        exact h
      · rw [he, List.any_append, h]
        rfl
    exact ih hone

/-- A user without a role who is asked about, and whom nothing re-enrols, loses the
binding. -/
theorem after_prunes_drop {k : UserNo} {changes : List GenerationChange} {users : List UserNo}
    (hk : self.userReferencedAfter k rooms memberships = false) (hmem : k ∈ users)
    (hbase : Erases changes k) :
    self.generations.after (self.pushGenerationPrunes changes users rooms memberships) k =
      none := by
  refine (hbase.pushes users).after ?_
  induction users generalizing changes with
  | nil => exact absurd hmem List.not_mem_nil
  | cons x rest ih =>
    rcases List.mem_cons.mp hmem with rfl | hrest
    · -- the prune of `k` itself: already decided, nothing to erase, or erased now
      by_cases hany : (changes.any fun change => change.1 = k) = true
      · exact Or.inl (any_pushGenerationPrunes (k :: rest) hany)
      · cases hg : self.generations.lookup k with
        | none => exact Or.inr rfl
        | some canonical =>
          refine Or.inl (any_pushGenerationPrunes rest ?_)
          have hpush : self.pushGenerationPrune changes k rooms memberships =
              changes ++ [(k, none)] := by
            unfold pushGenerationPrune
            rw [if_neg hany, if_pos (by rw [hg, hk]; rfl)]
          show ((self.pushGenerationPrune changes k rooms memberships).any _) = true
          rw [hpush, List.any_append]
          simp
    · exact ih hrest hbase.push

/-! ## Landing -/

/-- What a commit makes of the hub. -/
def apply {T : Type} (self : MyRoomHub u) (t : MyRoomTransition u T) : MyRoomHub u :=
  { self with
    rooms := self.rooms.applyAll t.rooms
    memberships := self.memberships.applyAll t.memberships
    generations := self.generations.applyAll t.generations
    revision := t.nextRevision }

theorem commit_eq {T : Type} (self : MyRoomHub u) (t : MyRoomTransition u T) :
    t.commit self = if self.revision ≠ t.baseRevision then
      .error (.staleRevision t.baseRevision self.revision) else .ok (self.apply t) := rfl

/-- What every planned transition promises. -/
structure Planned {T : Type} (hub : MyRoomHub u) (t : MyRoomTransition u T) : Prop where
  base : t.baseRevision = hub.revision
  stamp : t.nextRevision = hub.revision + 1 ∨
    (t.nextRevision = hub.revision ∧ t.rooms = [] ∧ t.memberships = [] ∧ t.generations = [])
  lands : hub.Ok → (hub.apply t).Ok

theorem Planned.quiet {T : Type} {hub : MyRoomHub u} (outcome : T) :
    Planned hub ⟨hub.revision, hub.revision, [], [], [], outcome⟩ :=
  ⟨rfl, Or.inr ⟨rfl, rfl, rfl, rfl⟩, fun h => h⟩

/-- A user is referenced after the changes exactly when the edited directory has a
role for it. -/
theorem referenced_iff {d : Directory UserNo MyRoomSlotIndex IdentityBinding} {k : UserNo}
    (hrooms : (self.rooms.after rooms k).map RoomState.shape = d.rooms k)
    (hseats : (self.memberships.after memberships k).map (fun m => (m.owner, m.slot)) =
      d.seats k) :
    self.userReferencedAfter k rooms memberships = true ↔
      d.rooms k ≠ none ∨ d.seats k ≠ none := by
  rw [← hrooms, ← hseats]
  unfold userReferencedAfter
  rw [Bool.or_eq_true, Option.isSome_iff_ne_none, Option.isSome_iff_ne_none, ne_eq, ne_eq,
    ne_eq, ne_eq, Option.map_eq_none_iff, Option.map_eq_none_iff]
  exact Or.comm

/-- Changes that amount to an edit of the directory, followed by prunes that cover
its orphans, land in a sound hub. -/
theorem Ok.land {T : Type} {t : MyRoomTransition u T}
    {d : Directory UserNo MyRoomSlotIndex IdentityBinding}
    (hd : d.Sound IdentityBinding.userNo MyRoomSlotIndex.owner)
    (users : List UserNo) (horphans : d.OrphansIn (· ∈ users))
    (changes : List GenerationChange)
    (hgenerations : t.generations =
      self.pushGenerationPrunes changes users t.rooms t.memberships)
    (hrooms : ∀ k, (self.rooms.after t.rooms k).map RoomState.shape = d.rooms k)
    (hseats : ∀ k, (self.memberships.after t.memberships k).map (fun m => (m.owner, m.slot)) =
      d.seats k)
    (hnames : ∀ k, self.generations.after changes k = d.names k)
    (hbase : ∀ change ∈ changes, d.rooms change.1 ≠ none ∨ d.seats change.1 ≠ none)
    (hcapacity : (self.apply t).generations.keys.card ≤ self.identityCapacity) :
    (self.apply t).Ok := by
  have hreferenced := fun k => referenced_iff (k := k) (hrooms k) (hseats k)
  have hdirectory : (self.apply t).directory =
      { d with names := fun k => self.generations.after t.generations k } := by
    have hr : (self.apply t).directory.rooms = d.rooms := by
      funext k
      show ((self.rooms.applyAll t.rooms).lookup k).map _ = _
      rw [Map.lookup_applyAll, hrooms]
    have hs : (self.apply t).directory.seats = d.seats := by
      funext k
      show ((self.memberships.applyAll t.memberships).lookup k).map _ = _
      rw [Map.lookup_applyAll, hseats]
    have hn : (self.apply t).directory.names =
        fun k => self.generations.after t.generations k := by
      funext k
      show (self.generations.applyAll t.generations).lookup k = _
      rw [Map.lookup_applyAll]
    rw [← hr, ← hs, ← hn]
  have hkeep : ∀ k, d.rooms k ≠ none ∨ d.seats k ≠ none ∨ k ∉ users →
      self.generations.after t.generations k = d.names k := by
    intro k hk
    rw [hgenerations, after_prunes_keep users ?_, hnames]
    rcases hk with h | h | h
    · exact Or.inl ((hreferenced k).mpr (Or.inl h))
    · exact Or.inl ((hreferenced k).mpr (Or.inr h))
    · exact Or.inr h
  have hdrop : ∀ k, d.rooms k = none → d.seats k = none → k ∈ users →
      self.generations.after t.generations k = none := by
    intro k hroom hseat hmem
    rw [hgenerations]
    refine after_prunes_drop ?_ hmem ?_
    · rw [← Bool.not_eq_true, hreferenced]
      rintro (h | h)
      · exact h hroom
      · exact h hseat
    · intro change hchange hk
      rcases hbase change hchange with h | h
      · exact absurd (hk ▸ hroom) h
      · exact absurd (hk ▸ hseat) h
  obtain ⟨hsound, hnone⟩ := hd.prune horphans hkeep hdrop
  exact ⟨hdirectory ▸ hsound, hdirectory ▸ hnone, hcapacity⟩

/-- Changes that only erase bindings keep the hub within its capacity. -/
theorem card_apply_le {T : Type} {t : MyRoomTransition u T}
    (h : ∀ k, self.generations.after t.generations k ≠ none →
      self.generations.lookup k ≠ none) :
    (self.apply t).generations.keys.card ≤ self.generations.keys.card := by
  refine Finset.card_le_card fun k hk => ?_
  rw [Map.mem_keys_iff] at hk ⊢
  refine h k ?_
  rw [← Map.lookup_applyAll]
  exact hk

/-- Prunes only erase bindings, if the changes before them are about users with a role. -/
theorem after_prunes_le {changes : List GenerationChange} {users : List UserNo} {k : UserNo}
    (hbase : ∀ change ∈ changes, self.userReferencedAfter change.1 rooms memberships = true)
    (h : self.generations.after
      (self.pushGenerationPrunes changes users rooms memberships) k ≠ none) :
    self.generations.after changes k ≠ none := by
  by_cases hk : self.userReferencedAfter k rooms memberships = true ∨ k ∉ users
  · rw [after_prunes_keep users hk] at h
    exact h
  · rw [not_or, not_not] at hk
    have hdrop : self.generations.after
        (self.pushGenerationPrunes changes users rooms memberships) k = none := by
      refine after_prunes_drop (Bool.eq_false_iff.mpr hk.1) hk.2 ?_
      intro change hm he
      exact absurd (he ▸ hbase change hm) hk.1
    exact absurd hdrop h

end MyRoomHub

end P4475.MyRoom
