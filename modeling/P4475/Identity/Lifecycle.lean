import P4475.Identity.Safety

/-!
# How a generation ends

The balance of the ledger, read one generation at a time: a generation that was
installed is held, or it ended once. The gate side says when: a generation ends
only while its gate counts nothing, and no lease of it exists from then on.
-/

namespace P4475

open Lib IdentityRegistry

namespace IdentitySystem

variable {u : Unicode} {instantMax : Instant} {s s' : IdentitySystem} {tr : Transcript}
  {action : IdentityAction} {response : IdentityResponse}

/-- Generation `g` is held by a gate without a single outstanding operation. -/
def Drained (s : IdentitySystem) (g : IdentityGeneration) : Prop :=
  ∃ k γ, s.registry.Live k g γ ∧ (s.registry.gates γ).activeOperations = 0 ∧
    ∀ l ∈ s.leases, l.gate ≠ γ ∧ l.binding.generation ≠ g

/-- Every installed generation is in one place: held, superseded or released. -/
theorem Ledger.count (h : Ledger u tr s) (g : IdentityGeneration) :
    s.registry.holdings.count g + (superseded tr).count g + (released tr).count g =
      ((installs tr).map (·.generation)).count g := by
  have hb := congrArg (Multiset.count g) h.balance
  rw [Multiset.count_add, Multiset.coe_count, Multiset.coe_count, List.count_append] at hb
  rw [hb, add_assoc]

/-- A lease answered by a step is a lease outstanding after it. -/
theorem step_lease {l : IdentityOperationLease}
    (hs : s.step u instantMax action = some (.lease (.ok l), s')) : l ∈ s'.leases := by
  have hkeep : ∀ {xs : List IdentityOperationLease} {result}, result = .ok l →
      l ∈ keep xs (result : Except IdentityError IdentityOperationLease) := by
    rintro xs _ rfl
    exact List.mem_append_right _ (List.mem_singleton_self l)
  unfold step at hs
  split at hs
  next result hl =>
    cases hs
    unfold leaseStep at hl
    split at hl
    next i =>
      obtain ⟨l', _, he⟩ := Option.map_eq_some_iff.mp hl
      rcases hr : s.registry.retainLease l' with ⟨result, r'⟩
      rw [hr] at he
      cases he
      exact hkeep rfl
    next =>
      obtain ⟨l', _, he⟩ := Option.map_eq_some_iff.mp hl
      exact absurd (congrArg Prod.fst he) (by simp)
    next => exact absurd hl (by simp)
  next =>
    split at hs
    next commit _ =>
      unfold guardStep at hs
      split at hs
      · exact absurd (congrArg (Option.map Prod.fst) hs) (by simp)
      · exact absurd (congrArg (Option.map Prod.fst) hs) (by simp)
      · exact absurd hs (by simp)
    next =>
      cases action with
      | admitOperation session =>
        rcases hr : s.registry.admitOperation u session with ⟨result, r'⟩
        simp only [actorStep, hr, Option.some.injEq, Prod.mk.injEq] at hs
        obtain ⟨he, rfl⟩ := hs
        cases he
        exact hkeep rfl
      | admitUdp userNo epoch =>
        rcases hr : s.registry.admitUdpOperation userNo epoch with ⟨result, r'⟩
        simp only [actorStep, hr, Option.some.injEq, Prod.mk.injEq] at hs
        obtain ⟨he, rfl⟩ := hs
        cases he
        exact hkeep rfl
      | expire | drain =>
        simp only [actorStep] at hs
        split at hs <;> simp at hs
      | lock => simp [actorStep, Option.bind_eq_some_iff] at hs
      | _ => simp [actorStep] at hs

/-- A generation that ended is held by nobody. -/
theorem Ledger.ended_not_held (h : Ledger u tr s) {g : IdentityGeneration}
    (hg : g ∈ superseded tr ∨ g ∈ released tr) : g ∉ s.registry.holdings := by
  intro hm
  have hc := h.count g
  have hone := List.nodup_iff_count_le_one.mp h.distinct g
  have hheld := Multiset.one_le_count_iff_mem.mpr hm
  rcases hg with hs | hr
  · have := List.one_le_count_iff.mpr hs
    omega
  · have := List.one_le_count_iff.mpr hr
    omega

/-- No outstanding lease is of a generation that ended. -/
theorem Ledger.no_lease (h : Ledger u tr s) {g : IdentityGeneration}
    (hg : g ∈ superseded tr ∨ g ∈ released tr) : ∀ l ∈ s.leases, l.binding.generation ≠ g := by
  rintro l hl rfl
  obtain ⟨k, hk⟩ := h.good.inv.live.lease l hl
  exact h.ended_not_held hg (mem_holdings.mpr ⟨k, _, hk⟩)

/-- A generation ends only while its gate is drained. -/
theorem Good.drained (h : s.Good u) (hs : s.step u instantMax action = some (response, s'))
    {g : IdentityGeneration} (hg : g ∈ endsOf response) : s.Drained g := by
  obtain ⟨k, γ, hl, hz⟩ : ∃ k γ, s.registry.Live k g γ ∧
      (s.registry.gates γ).activeOperations = 0 := by
    cases (step_spec h hs).effect with
    | settles _ _ _ hd _ _ => exact hd g hg
    | installs b _ hi => exact hi.drained g hg
  refine ⟨k, γ, hl, hz, fun l hmem => ?_⟩
  have hne := h.inv.live.no_lease hz l hmem
  refine ⟨hne, ?_⟩
  rintro rfl
  obtain ⟨k', hk'⟩ := h.inv.live.lease l hmem
  have hkk := h.inv.live.generation hk' hl
  subst hkk
  exact hne (h.inv.live.key hk' hl).2

/-- **A generation ends once.** Across every schedule, an installed generation is
superseded once, or handed out for cleanup once, or still held; it ends only at
a step that finds its gate drained, and afterwards no lease of it is outstanding
and no step answers with one. -/
theorem generation_ends_once (h : (machine u instantMax).History tr s)
    (g : IdentityGeneration) :
    (superseded tr).count g + (released tr).count g ≤ 1 ∧
    (g ∈ (installs tr).map (·.generation) →
      (superseded tr).count g + (released tr).count g = 1 ∨ g ∈ s.registry.holdings) ∧
    (g ∈ superseded tr ∨ g ∈ released tr →
      g ∈ (installs tr).map (·.generation) ∧ g ∉ s.registry.holdings ∧
      (∀ l ∈ s.leases, l.binding.generation ≠ g) ∧
      ∀ action s' l, s.step u instantMax action = some (.lease (.ok l), s') →
        l.binding.generation ≠ g) ∧
    (∀ action response s', s.step u instantMax action = some (response, s') →
      g ∈ endsOf response → s.Drained g) := by
  have hl := ledger_of_history h
  have hc := hl.count g
  have hone := List.nodup_iff_count_le_one.mp hl.distinct g
  refine ⟨by omega, ?_, ?_, fun _ _ _ hs hg => hl.good.drained hs hg⟩
  · intro hg
    have hin := List.one_le_count_iff.mpr hg
    by_cases hm : g ∈ s.registry.holdings
    · exact Or.inr hm
    · rw [Multiset.count_eq_zero_of_notMem hm] at hc
      exact Or.inl (by omega)
  · intro hg
    refine ⟨?_, hl.ended_not_held hg, hl.no_lease hg, ?_⟩
    · refine List.one_le_count_iff.mp ?_
      rcases hg with hs | hr
      · have := List.one_le_count_iff.mpr hs
        omega
      · have := List.one_le_count_iff.mpr hr
        omega
    · intro action s' l hs
      have hl' := ledger_of_history (h.step hs)
      refine hl'.no_lease ?_ l (step_lease hs)
      simp only [superseded, released, List.flatMap_cons, List.mem_append]
      exact hg.imp Or.inr Or.inr

theorem sample_ends_once :
    (⟨1⟩ : IdentityGeneration) ∈ (installs sample.1).map (·.generation) ∧
      (⟨1⟩ : IdentityGeneration) ∉ sample.2.registry.holdings :=
  have hg : (⟨1⟩ : IdentityGeneration) ∈ superseded sample.1 := by decide +kernel
  have h := (generation_ends_once sample_history ⟨1⟩).2.2.1 (Or.inl hg)
  ⟨h.1, h.2.1⟩

end IdentitySystem

end P4475
