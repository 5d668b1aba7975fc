import P4475.Udp.Routes

/-!
# The mirror and the tables

Table entries are meant to live no longer than their user's mirror record. A
release drops an entry only when entry and release carry one generation, so a
release of a newer generation than an entry strands it. `strands` is that one
branch; runs that never take it keep the tables inside the mirror.
-/

namespace P4475.Udp

open Lib

namespace UdpEndpointState

variable {s s' : UdpEndpointState}

/-- Every user with a table entry is in the mirror, and the mirror fits. -/
structure Mirrored (s : UdpEndpointState) : Prop where
  entry : ∀ t x, (s.table t).lookup x ≠ none → s.active.lookup x ≠ none
  bounded : s.active.keys.card ≤ s.maximumActiveIdentities

/-- A release of a user's current generation while a table holds an entry of
another one. -/
def strands (s : UdpEndpointState) : UdpAction → Bool
  | .remove identity => s.removes identity &&
    ([UdpTransport.game, .p2p].any fun t =>
      ((s.table t).lookup identity.userNo).any (·.generation ≠ identity.generation))
  | _ => false

/-- An advance fits the mirror or replaces a record that was in it. -/
theorem Mirrored.advance (h : Mirrored s) (identity : IdentityBinding) :
    Mirrored (s.advanceIdentity identity).2 := by
  rcases advanceIdentity_cases s identity with ⟨_, result, he⟩ | ⟨ha, he⟩
  · rw [he]; exact h
  · rw [he]
    constructor
    · intro t x hx
      rw [table_activated] at hx
      show (Finmap.insert identity.userNo _ s.active).lookup x ≠ none
      rw [Map.lookup_insert_ite]
      split
      next => simp
      next => exact h.entry t x hx
    · show (Finmap.insert identity.userNo _ s.active).keys.card ≤ s.maximumActiveIdentities
      rw [Map.keys_insert]
      unfold activates at ha
      cases hl : s.active.lookup identity.userNo with
      | none =>
        rw [hl] at ha
        have hlt : s.active.keys.card < s.maximumActiveIdentities := by simpa using ha
        exact Nat.le_trans (Finset.card_insert_le _ _) hlt
      | some current =>
        rw [Finset.insert_eq_of_mem (Map.mem_keys_iff.mpr (by rw [hl]; simp))]
        exact h.bounded

/-- A bind writes under a user the mirror holds. -/
theorem Mirrored.bind (h : Mirrored s) (transport : UdpTransport) (identity : IdentityBinding)
    (source : SocketAddr) (routeHash : BitVec 32) (arrivalEpoch : Nat) :
    Mirrored (s.bindAuthorizedIngressAt transport identity source routeHash arrivalEpoch).2 := by
  rcases bindAuthorizedIngressAt_cases s transport identity source routeHash arrivalEpoch with
    ⟨e, he⟩ | ⟨b, s₁, he, hb⟩
  · rw [he]; exact h
  · rw [he, hb.state]
    obtain ⟨a, ha, _⟩ := hb.active
    constructor
    · intro t x hx
      rw [setTable_table] at hx
      rw [setTable_active]
      split at hx
      next =>
        rw [Map.lookup_insert_ite] at hx
        split at hx
        next he => rw [he, ha]; simp
        next => exact h.entry _ x hx
      next => exact h.entry t x hx
    · simpa using h.bounded

/-- A table entry that a release leaves behind is one it did not match. -/
theorem lookup_release_ne {t : GenerationEndpointTable} {x y : UserNo}
    {g : IdentityGeneration} (h : (t.release x g).lookup y ≠ none) :
    t.lookup y ≠ none ∧ (y = x → (t.lookup y).any (·.generation ≠ g)) := by
  rw [GenerationEndpointTable.lookup_release] at h
  split at h
  next he =>
    cases hl : t.lookup y with
    | none => rw [hl] at h; exact absurd rfl h
    | some e =>
      refine ⟨by simp, fun _ => ?_⟩
      rw [hl] at h
      by_contra hg
      simp only [Option.any_some] at hg
      exact h (by rw [Option.filter_some, if_neg hg])
  next he => exact ⟨h, fun he' => absurd he' he⟩

theorem Mirrored.rebind (h : Mirrored s) (identity : IdentityBinding) (boundaryEpoch : Nat) :
    Mirrored (s.authorizeRebind identity boundaryEpoch).2 := by
  rcases authorizeRebind_cases s identity boundaryEpoch with ⟨_, result, he⟩ | ⟨_, a, ha, _, he⟩
  · rw [he]; exact h
  · rw [he]
    constructor
    · intro t x hx
      rw [table_rebound] at hx
      show (Finmap.insert identity.userNo _ s.active).lookup x ≠ none
      rw [Map.lookup_insert_ite]
      split
      next => simp
      next => exact h.entry t x (lookup_release_ne hx).1
    · show (Finmap.insert identity.userNo _ s.active).keys.card ≤ s.maximumActiveIdentities
      rw [Map.keys_insert, Finset.insert_eq_of_mem (Map.mem_keys_iff.mpr (by rw [ha]; simp))]
      exact h.bounded

/-- A release keeps the mirror unless it strands an entry. -/
theorem Mirrored.remove (h : Mirrored s) {identity : ReleasedIdentity}
    (hno : s.strands (.remove identity) = false) :
    Mirrored (s.removeReleasedIdentity identity) := by
  rw [removeReleasedIdentity_eq]
  split
  next hr =>
    constructor
    · intro t x hx
      rw [table_removed] at hx
      obtain ⟨hold, hother⟩ := lookup_release_ne hx
      show (Finmap.erase identity.userNo s.active).lookup x ≠ none
      rw [Map.lookup_erase_ite]
      split
      next he =>
        subst he
        simp only [strands, hr, Bool.true_and, List.any_eq_false] at hno
        exact absurd (hother rfl) (hno t (by cases t <;> simp))
      next => exact h.entry t x hold
    · show (Finmap.erase identity.userNo s.active).keys.card ≤ s.maximumActiveIdentities
      rw [Finmap.keys_erase]
      exact Nat.le_trans (Finset.card_erase_le) h.bounded
  next => exact h

/-- One step that strands nothing keeps the tables inside the mirror. -/
theorem Mirrored.step (h : Mirrored s) {action : UdpAction} {response : UdpResponse}
    (hno : s.strands action = false) (hs : s.step action = some (response, s')) :
    Mirrored s' := by
  cases action with
  | advance identity =>
    simp only [UdpEndpointState.step, Option.some.injEq, Prod.mk.injEq] at hs
    obtain ⟨_, rfl⟩ := hs
    exact h.advance identity
  | bindAt transport identity source routeHash arrivalEpoch =>
    simp only [UdpEndpointState.step, Option.some.injEq, Prod.mk.injEq] at hs
    obtain ⟨_, rfl⟩ := hs
    exact h.bind transport identity source routeHash arrivalEpoch
  | bindIngress identities transport accountId source routeHash =>
    simp only [UdpEndpointState.step, Option.some.injEq, Prod.mk.injEq] at hs
    obtain ⟨_, rfl⟩ := hs
    rcases bindIngress_cases s identities transport accountId source routeHash with
      ⟨_, e, he⟩ | ⟨identity, _, ⟨e, he⟩ | he⟩
    · rw [he]; exact h
    · rw [he]; exact h.advance identity
    · rw [he]; exact (h.advance identity).bind _ _ _ _ _
  | rebind identity boundaryEpoch =>
    simp only [UdpEndpointState.step, Option.some.injEq, Prod.mk.injEq] at hs
    obtain ⟨_, rfl⟩ := hs
    exact h.rebind identity boundaryEpoch
  | remove identity =>
    simp only [UdpEndpointState.step, Option.some.injEq, Prod.mk.injEq] at hs
    obtain ⟨_, rfl⟩ := hs
    exact h.remove hno
  | clear =>
    simp only [UdpEndpointState.step, Option.some.injEq, Prod.mk.injEq] at hs
    obtain ⟨_, rfl⟩ := hs
    exact ⟨fun t x hx => by cases t <;> simp [UdpEndpointState.clear, table] at hx,
      by simp [UdpEndpointState.clear]⟩

/-- A step that strands an entry leaves a user with a route and no record. -/
theorem strands_breaks {action : UdpAction} {response : UdpResponse}
    (hst : s.strands action = true) (hs : s.step action = some (response, s')) :
    ¬ Mirrored s' := by
  intro h
  cases action with
  | remove identity =>
    simp only [UdpEndpointState.step, Option.some.injEq, Prod.mk.injEq] at hs
    obtain ⟨_, rfl⟩ := hs
    simp only [strands, Bool.and_eq_true, List.any_eq_true] at hst
    obtain ⟨hr, t, _, ht⟩ := hst
    rw [removeReleasedIdentity_eq, if_pos hr] at h
    refine h.entry t identity.userNo ?_ ?_
    · rw [table_removed, GenerationEndpointTable.lookup_release, if_pos rfl]
      cases hl : (s.table t).lookup identity.userNo with
      | none => rw [hl] at ht; exact absurd ht (by simp)
      | some e =>
        rw [hl] at ht
        simp only [Option.any_some] at ht
        rw [Option.filter_some, if_pos ht]
        simp
    · show (Finmap.erase identity.userNo s.active).lookup identity.userNo = none
      exact Finmap.lookup_erase _ _
  | _ => exact absurd hst (by simp [strands])

/-- No user left in the mirror, no route left in a table. -/
theorem Mirrored.empty (h : Mirrored s) (he : s.active = ∅) (t : UdpTransport) :
    s.table t = ∅ := by
  refine Finmap.ext_lookup fun x => ?_
  rw [Finmap.lookup_empty]
  by_contra hx
  exact h.entry t x hx (by rw [he, Finmap.lookup_empty])

/-- Each table fits the capacity of the mirror. -/
theorem Mirrored.card (h : Mirrored s) (t : UdpTransport) :
    (s.table t).keys.card ≤ s.maximumActiveIdentities := by
  refine Nat.le_trans (Finset.card_le_card fun x hx => ?_) h.bounded
  exact Map.mem_keys_iff.mpr (h.entry t x (Map.mem_keys_iff.mp hx))

/-- **The tables stay inside the mirror exactly as long as no release strands
an entry**: runs without such a step keep every table entry's user in the
mirror, so an empty mirror means empty tables and each table fits the capacity;
the first such step breaks it. -/
theorem mirrored_unless_stranded (maximum : Nat) :
    (∀ s, (machine maximum).RunBy (fun s a => s.strands a = false)
        (withMaxActiveIdentities maximum) s →
      Mirrored s ∧ (s.active = ∅ → ∀ t, s.table t = ∅) ∧
        ∀ t, (s.table t).keys.card ≤ s.maximumActiveIdentities) ∧
    (∀ s action response s', (machine maximum).step s action = some (response, s') →
      s.strands action = true → ¬ Mirrored s') := by
  refine ⟨fun s h => ?_, fun s action response s' hs hst => strands_breaks hst hs⟩
  have hm : Mirrored s := by
    refine h.invariant ⟨?_, by simp [withMaxActiveIdentities]⟩
      fun ih hno hs => Mirrored.step ih hno hs
    intro t x hx
    cases t <;> simp [withMaxActiveIdentities, table] at hx
  exact ⟨hm, hm.empty, hm.card⟩

theorem mirrored_after_login :
    Mirrored ((withMaxActiveIdentities 1).advanceIdentity sampleBinding).2 :=
  ((mirrored_unless_stranded 1).1 _
    (.step (a := .advance sampleBinding) .refl rfl rfl)).1

/-- Log in, send a game datagram, move to another channel, leave before sending
again: the route of the first generation outlives the player. -/
def strandingActions : List UdpAction :=
  [.advance ⟨['a'], IdentitySystem.sampleUser, ⟨1⟩, ⟨1⟩, .v4 5, none⟩,
    .bindAt .game ⟨['a'], IdentitySystem.sampleUser, ⟨1⟩, ⟨1⟩, .v4 5, none⟩ (.v4 5 51000) 1 3,
    .advance ⟨['a'], IdentitySystem.sampleUser, ⟨2⟩, ⟨2⟩, .v4 5, some ⟨3, 0⟩⟩,
    .remove ⟨['a'], IdentitySystem.sampleUser, ⟨2⟩, .v4 5, some ⟨3, 0⟩⟩]

/-- The stamps a registry run hands to the endpoint state. -/
def MintedBy (tr : IdentitySystem.Transcript) : UdpAction → Prop
  | .advance identity | .bindAt _ identity _ _ _ | .rebind identity _ =>
    identity ∈ IdentitySystem.installs tr
  | .remove identity => identity ∈ IdentitySystem.stamps tr
  | .bindIngress .. => False
  | .clear => True

theorem strandingActions_run :
    ((machine 1).exec (withMaxActiveIdentities 1) [] strandingActions).isSome = true := by
  decide +kernel

/-- The run of `strandingActions`. -/
def stranded : Transcript × UdpEndpointState :=
  ((machine 1).exec (withMaxActiveIdentities 1) [] strandingActions).get strandingActions_run

theorem stranded_history : (machine 1).History stranded.1 stranded.2 :=
  Machine.history_of_exec strandingActions .init
    (Option.some_get strandingActions_run).symm

/-- One registry's stamps lead to a table entry whose user left the mirror. -/
theorem mirror_stranded :
    (IdentitySystem.machine IdentitySystem.plain u64Max).History IdentitySystem.sample.1
      IdentitySystem.sample.2 ∧
    (∀ action ∈ strandingActions, MintedBy IdentitySystem.sample.1 action) ∧
    (machine 1).History stranded.1 stranded.2 ∧
    stranded.2.active.lookup IdentitySystem.sampleUser = none ∧
    ((stranded.2.table .game).lookup IdentitySystem.sampleUser).isSome = true ∧
    ¬ Mirrored stranded.2 := by
  have hactive : stranded.2.active.lookup IdentitySystem.sampleUser = none := by
    decide +kernel
  have hentry : ((stranded.2.table .game).lookup IdentitySystem.sampleUser).isSome = true := by
    decide +kernel
  refine ⟨IdentitySystem.sample_history, ?_, stranded_history, hactive, hentry, ?_⟩
  · simp only [strandingActions, List.forall_mem_cons, MintedBy]
    exact ⟨by decide +kernel, by decide +kernel, by decide +kernel, by decide +kernel, by simp⟩
  · intro h
    refine h.entry .game _ ?_ hactive
    rw [Option.ne_none_iff_isSome]
    exact hentry

end UdpEndpointState

end P4475.Udp
