import P4475.Identity.Migrations
import Mathlib.Tactic.Abel

/-!
# Releases keep the invariant and the balance

The four exits that hand an identity out for cleanup. They share two primitive
moves on a record taken out of the active table, `dropRecord` and `parkRecord`,
and one on the deferred queue. `Settles r ended r'` is what each exit owes: the
generations still held plus the ones handed out are the ones held before, and
nothing was handed out whose gate still counted an operation. It composes, so
the loops are sums of their iterations.
-/

namespace P4475

open Lib

namespace IdentityRegistry

variable {u : Unicode} {r r' r'' : IdentityRegistry} {E : List Text}
  {leases : List IdentityOperationLease} {F : List MigrationCandidate}

/-! ## The balance -/

/-- The generations the registry holds, active and draining. -/
def holdings (r : IdentityRegistry) : Multiset IdentityGeneration :=
  (Map.values r.activeByName).map (·.generation) +
    ((r.deferredReleases.map (·.identity.generation) : List _) : Multiset IdentityGeneration)

/-- The generations of a list of released identities. -/
def generations (ended : List ReleasedIdentity) : Multiset IdentityGeneration :=
  ((ended.map (·.generation) : List _) : Multiset IdentityGeneration)

/-- A step that hands `ended` out and otherwise only moves records about. -/
structure Settles (r : IdentityRegistry) (ended : List ReleasedIdentity)
    (r' : IdentityRegistry) : Prop where
  holdings : r'.holdings + generations ended = r.holdings
  live : ∀ {k g γ}, r'.Live k g γ → r.Live k g γ
  drained : ∀ id ∈ ended, ∃ k γ, r.Live k id.generation γ ∧
    (r.gates γ).activeOperations = 0
  count : ∀ γ, (r'.gates γ).activeOperations = (r.gates γ).activeOperations
  knows : Knows r r'
  next : r.nextGeneration ≤ r'.nextGeneration

/-- A step that leaves both tables of records and every count alone. -/
theorem Settles.of_same (ha : r'.activeByName = r.activeByName)
    (hd : r'.deferredReleases = r.deferredReleases)
    (hc : ∀ γ, (r'.gates γ).activeOperations = (r.gates γ).activeOperations)
    (hk : Knows r r') (hn : r.nextGeneration ≤ r'.nextGeneration) : Settles r [] r' where
  holdings := by
    unfold IdentityRegistry.holdings generations
    rw [ha, hd]
    simp
  live := fun hl => by
    unfold Live at hl ⊢
    rw [ha, hd] at hl
    exact hl
  drained := by simp
  count := hc
  knows := hk
  next := hn

theorem Settles.refl : Settles r [] r :=
  .of_same rfl rfl (fun _ => rfl) (fun h => h) (Nat.le_refl _)

theorem Settles.trans {ended ended' : List ReleasedIdentity} (h : Settles r ended r')
    (h' : Settles r' ended' r'') : Settles r (ended ++ ended') r'' where
  holdings := by
    rw [← h.holdings, ← h'.holdings]
    unfold generations
    rw [List.map_append, ← Multiset.coe_add]
    abel
  live := fun hl => h.live (h'.live hl)
  drained := by
    intro id hid
    rcases List.mem_append.mp hid with hm | hm
    · exact h.drained id hm
    · obtain ⟨k, γ, hl, hc⟩ := h'.drained id hm
      exact ⟨k, γ, h.live hl, by rw [← h.count]; exact hc⟩
  count := fun γ => by rw [h'.count, h.count]
  knows := fun hn => h'.knows (h.knows hn)
  next := Nat.le_trans h.next h'.next

/-- Handing identities out in another order hands the same ones out. -/
theorem Settles.perm {ended ended' : List ReleasedIdentity} (h : Settles r ended r')
    (hp : ended.Perm ended') : Settles r ended' r' where
  holdings := by
    rw [← h.holdings]
    unfold generations
    rw [Multiset.coe_eq_coe.mpr (hp.map _)]
  live := h.live
  drained := fun id hid => h.drained id (hp.symm.subset hid)
  count := h.count
  knows := h.knows
  next := h.next

/-- A generation is held exactly when some key lives under it. -/
theorem mem_holdings {g : IdentityGeneration} : g ∈ r.holdings ↔ ∃ k γ, r.Live k g γ := by
  unfold holdings
  rw [Multiset.mem_add, Multiset.mem_map, Multiset.mem_coe, List.mem_map]
  constructor
  · rintro (⟨a, ha, rfl⟩ | ⟨d, hd, rfl⟩)
    · obtain ⟨k, hk⟩ := Map.mem_values.mp ha
      exact ⟨k, _, Live.of_active hk⟩
    · exact ⟨_, _, Live.of_deferred hd⟩
  · rintro ⟨k, γ, ⟨a, ha, rfl, rfl⟩ | ⟨d, hd, rfl, rfl, rfl⟩⟩
    · exact Or.inl ⟨a, Map.mem_values.mpr ⟨k, ha⟩, rfl⟩
    · exact Or.inr ⟨d, hd, rfl⟩

/-- Replacing the record under a key trades its generation for the new one. -/
theorem holdings_setActive {k : Text} {a b : ActiveIdentity}
    (ha : r.activeByName.lookup k = some a) :
    (r.setActive k b).holdings + {a.generation} = r.holdings + {b.generation} := by
  unfold holdings setActive
  dsimp only
  rw [Map.values_insert, Map.values_erase ha, Multiset.map_cons, Multiset.map_cons,
    ← Multiset.singleton_add, ← Multiset.singleton_add]
  abel

/-- An update in place keeps the generations. -/
theorem holdings_adjust {k : Text} {a b : ActiveIdentity}
    (ha : r.activeByName.lookup k = some a) (hg : b.generation = a.generation) :
    (r.setActive k b).holdings = r.holdings := by
  have h := holdings_setActive (b := b) ha
  rw [hg] at h
  exact add_right_cancel h

theorem setActive_settles {k : Text} {a b : ActiveIdentity}
    (ha : r.activeByName.lookup k = some a) (hg : b.generation = a.generation)
    (hγ : b.operationGate = a.operationGate) : Settles r [] (r.setActive k b) where
  holdings := by
    rw [holdings_adjust ha hg]
    simp [generations]
  live := fun hl => (live_setActive ha hg hγ).mp hl
  drained := by simp
  count := fun _ => rfl
  knows := Knows.of_eq rfl
  next := Nat.le_refl _

theorem setGate_settles {γ : GateRef} {gate : IdentityOperationGate}
    (hc : gate.activeOperations = (r.gates γ).activeOperations) :
    Settles r [] (r.setGate γ gate) := by
  refine .of_same rfl rfl (fun γ' => ?_) (Knows.of_eq rfl) (Nat.le_refl _)
  rw [setGate_gates]
  split
  next he => rw [he, hc]
  next => rfl

/-! ## Taking a record out -/

/-- The record under `key` taken out, its gate word rewritten. -/
def dropRecord (r : IdentityRegistry) (key : Text) (a : ActiveIdentity) (word : Nat) :
    IdentityRegistry :=
  (r.setGate a.operationGate { r.gates a.operationGate with state := word }).removeActive key

/-- The same record parked in the deferred queue. -/
def parkRecord (r : IdentityRegistry) (key : Text) (a : ActiveIdentity) (word : Nat) :
    IdentityRegistry :=
  (r.dropRecord key a word).pushDeferred ⟨key, releasedIdentity a, a.operationGate⟩

theorem dropRecord_count (key : Text) (a : ActiveIdentity) (word : Nat) (γ : GateRef) :
    ((r.dropRecord key a word).gates γ).activeOperations = (r.gates γ).activeOperations := by
  show ((r.setGate _ _).gates γ).activeOperations = _
  rw [setGate_gates]
  split
  next he => rw [he]
  next => rfl

theorem dropRecord_state (key : Text) {a : ActiveIdentity} {word : Nat} {γ : GateRef}
    (hγ : γ ≠ a.operationGate) :
    ((r.dropRecord key a word).gates γ).state = (r.gates γ).state := by
  show ((r.setGate _ _).gates γ).state = _
  rw [setGate_gates, if_neg hγ]

theorem dropRecord_lookup {key k : Text} {a : ActiveIdentity} {word : Nat} :
    (r.dropRecord key a word).activeByName.lookup k =
      if k = key then none else r.activeByName.lookup k := removeActive_lookup _ _

theorem live_dropRecord {key k : Text} {a : ActiveIdentity} {word : Nat}
    {g : IdentityGeneration} {γ : GateRef} (h : (r.dropRecord key a word).Live k g γ) :
    r.Live k g γ := live_setGate.mp (live_removeActive h)

/-- A draining record's key is not the active record's. -/
theorem LiveInv.deferred_ne (h : r.LiveInv u leases F) {key : Text} {a : ActiveIdentity}
    (ha : r.activeByName.lookup key = some a) :
    ∀ d ∈ r.deferredReleases, d.canonicalNickname ≠ key := by
  intro d hd he
  have hi := h.inactive d hd
  rw [he, ha] at hi
  exact absurd hi (by simp)

/-- What a record taken out no longer holds: every other key is as it was. -/
theorem live_dropRecord_iff (h : r.LiveInv u leases F) {key k : Text} {a : ActiveIdentity}
    {word : Nat} {g : IdentityGeneration} {γ : GateRef}
    (ha : r.activeByName.lookup key = some a) :
    (r.dropRecord key a word).Live k g γ ↔ k ≠ key ∧ r.Live k g γ := by
  constructor
  · intro hl
    refine ⟨?_, live_dropRecord hl⟩
    rintro rfl
    rcases hl with ⟨b, hb, _⟩ | ⟨d, hd, hk, _⟩
    · rw [dropRecord_lookup, if_pos rfl] at hb
      exact absurd hb (by simp)
    · exact h.deferred_ne ha d hd hk
  · rintro ⟨hk, ⟨b, hb, hg, hγ⟩ | hd⟩
    · exact Or.inl ⟨b, by rw [dropRecord_lookup, if_neg hk]; exact hb, hg, hγ⟩
    · exact Or.inr hd

/-- Parking moves a record from one table to the other and nothing else. -/
theorem live_parkRecord (h : r.LiveInv u leases F) {key k : Text} {a : ActiveIdentity}
    {word : Nat} {g : IdentityGeneration} {γ : GateRef}
    (ha : r.activeByName.lookup key = some a) :
    (r.parkRecord key a word).Live k g γ ↔ r.Live k g γ := by
  have hsplit : (r.parkRecord key a word).Live k g γ ↔
      (r.dropRecord key a word).Live k g γ ∨
        (key = k ∧ a.generation = g ∧ a.operationGate = γ) := by
    unfold Live
    show (_ ∨ ∃ d ∈ r.deferredReleases ++ [_], _) ↔ _
    constructor
    · rintro (hact | ⟨d, hd, he⟩)
      · exact Or.inl (Or.inl hact)
      · rcases List.mem_append.mp hd with hm | hm
        · exact Or.inl (Or.inr ⟨d, hm, he⟩)
        · rw [List.mem_singleton] at hm
          subst hm
          exact Or.inr he
    · rintro ((hact | ⟨d, hd, he⟩) | he)
      · exact Or.inl hact
      · exact Or.inr ⟨d, List.mem_append_left _ hd, he⟩
      · exact Or.inr ⟨_, List.mem_append_right _ (List.mem_singleton_self _), he⟩
  rw [hsplit, live_dropRecord_iff h ha]
  constructor
  · rintro (⟨_, hl⟩ | ⟨rfl, rfl, rfl⟩)
    · exact hl
    · exact Live.of_active ha
  · intro hl
    by_cases hk : k = key
    · subst hk
      obtain ⟨hg, hγ⟩ := h.key hl (Live.of_active ha)
      exact Or.inr ⟨rfl, hg.symm, hγ.symm⟩
    · exact Or.inl ⟨hk, hl⟩

theorem dropRecord_live (h : r.LiveInv u leases F) {key : Text} {a : ActiveIdentity}
    (ha : r.activeByName.lookup key = some a)
    (hz : (r.gates a.operationGate).activeOperations = 0) :
    (r.dropRecord key a IdentityOperationGate.retired).LiveInv u leases F := by
  refine h.shrink live_dropRecord h.draining ?_ (Knows.of_eq rfl) (Nat.le_refl _)
    (Nat.le_refl _) (dropRecord_count key a _) ?_ ?_ ?_
  · intro d hd
    rw [dropRecord_lookup, if_neg (h.deferred_ne ha d hd)]
    exact h.inactive d hd
  · intro k g γ hl
    obtain ⟨hk, hl⟩ := (live_dropRecord_iff h ha).mp hl
    rw [dropRecord_state]
    · exact h.unretired hl
    · intro he
      rw [he] at hl
      exact hk (h.gate hl (Live.of_active ha))
  · intro c hc
    refine dropRecord_state _ fun he => ?_
    exact (h.candidates c hc).gate (he ▸ Live.of_active ha)
  · intro l hl
    obtain ⟨k, hk⟩ := h.lease l hl
    refine ⟨k, (live_dropRecord_iff h ha).mpr ⟨?_, hk⟩⟩
    rintro rfl
    exact h.no_lease hz l hl (h.key hk (Live.of_active ha)).2

theorem parkRecord_live (h : r.LiveInv u leases F) {key : Text} {a : ActiveIdentity}
    {word : Nat} (ha : r.activeByName.lookup key = some a)
    (hw : word ≠ IdentityOperationGate.retired) :
    (r.parkRecord key a word).LiveInv u leases F := by
  have hne := h.deferred_ne ha
  refine h.shrink (fun hl => (live_parkRecord h ha).mp hl) ?_ ?_ (Knows.of_eq rfl)
    (Nat.le_refl _) (Nat.le_refl _) (dropRecord_count key a _) ?_ ?_ ?_
  · unfold parkRecord pushDeferred
    dsimp only
    rw [List.map_append, List.nodup_append]
    refine ⟨h.draining, List.nodup_singleton _, ?_⟩
    intro k hk k' hk' he
    obtain ⟨d, hd, rfl⟩ := List.mem_map.mp hk
    simp only [List.map_cons, List.map_nil, List.mem_singleton] at hk'
    exact hne d hd (he.trans hk')
  · intro d hd
    show (r.dropRecord key a word).activeByName.lookup _ = none
    rw [dropRecord_lookup]
    split
    next => rfl
    next hk =>
      rcases List.mem_append.mp hd with hm | hm
      · exact h.inactive d hm
      · rw [List.mem_singleton] at hm
        subst hm
        exact absurd rfl hk
  · intro k g γ hl
    rw [live_parkRecord h ha] at hl
    show ((r.setGate _ _).gates γ).state ≠ _
    rw [setGate_gates]
    split
    next => exact hw
    next => exact h.unretired hl
  · intro c hc
    refine dropRecord_state key fun he => ?_
    exact (h.candidates c hc).gate (he ▸ Live.of_active ha)
  · intro l hl
    obtain ⟨k, hk⟩ := h.lease l hl
    exact ⟨k, (live_parkRecord h ha).mpr hk⟩

/-- The records that stay after one is taken out are as they were, provided
their sessions are. -/
theorem RecordInv.remove (h : r.RecordInv (key :: E)) (hL : r.LiveInv u leases F)
    {a : ActiveIdentity} (ha : r.activeByName.lookup key = some a)
    (hact : r'.activeByName = (r.dropRecord key a 0).activeByName)
    (hk : r'.knownByName = r.knownByName)
    (hs : ∀ {k b s}, k ≠ key → r.activeByName.lookup k = some b → b.owner = some s →
      r'.sessionBindings.lookup s = r.sessionBindings.lookup s)
    (hγ : ∀ {γ}, γ ≠ a.operationGate → (r'.gates γ).state = (r.gates γ).state) :
    r'.RecordInv E := by
  refine h.update key (Knows.of_eq hk) ?_ hs ?_ ?_ ?_
  · intro k b hne hb
    rw [hact, dropRecord_lookup, if_neg hne] at hb
    exact hb
  · intro k b hne hb
    refine hγ fun he => ?_
    have hl := Live.of_active hb
    rw [he] at hl
    exact hne (hL.gate hl (Live.of_active ha))
  · intro k hne hk
    exact (List.mem_cons.mp hk).resolve_left hne
  · intro b hb
    rw [hact, dropRecord_lookup, if_pos rfl] at hb
    exact absurd hb (by simp)

theorem holdings_dropRecord {key : Text} {a : ActiveIdentity} (word : Nat)
    (ha : r.activeByName.lookup key = some a) :
    (r.dropRecord key a word).holdings + {a.generation} = r.holdings := by
  unfold holdings dropRecord setGate removeActive
  dsimp only
  rw [Map.values_erase ha, Multiset.map_cons, ← Multiset.singleton_add]
  abel

theorem dropRecord_settles {key : Text} {a : ActiveIdentity} {word : Nat}
    (ha : r.activeByName.lookup key = some a)
    (hz : (r.gates a.operationGate).activeOperations = 0) :
    Settles r [releasedIdentity a] (r.dropRecord key a word) where
  holdings := holdings_dropRecord _ ha
  live := live_dropRecord
  drained := by
    intro id hid
    rw [List.mem_singleton] at hid
    subst hid
    exact ⟨key, a.operationGate, Live.of_active ha, hz⟩
  count := dropRecord_count key a word
  knows := Knows.of_eq rfl
  next := Nat.le_refl _

theorem holdings_pushDeferred (d : DeferredRelease) :
    (r.pushDeferred d).holdings = r.holdings + {d.identity.generation} := by
  unfold holdings pushDeferred
  dsimp only
  rw [List.map_append, ← Multiset.coe_add, ← add_assoc]
  rfl

theorem parkRecord_settles (h : r.LiveInv u leases F) {key : Text} {a : ActiveIdentity}
    {word : Nat} (ha : r.activeByName.lookup key = some a) :
    Settles r [] (r.parkRecord key a word) where
  holdings := by
    unfold parkRecord
    rw [holdings_pushDeferred, ← holdings_dropRecord word ha]
    simp [generations]
  live := fun hl => (live_parkRecord h ha).mp hl
  drained := by simp
  count := dropRecord_count key a word
  knows := Knows.of_eq rfl
  next := Nat.le_refl _

end IdentityRegistry

end P4475
