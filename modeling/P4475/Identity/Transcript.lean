import P4475.Identity.Runs

/-!
# Whole runs

The ledger over every transcript: what was minted, installed and ended, against
the registry the transcript led to. `ledger_of_history` is the induction; the
lemmas before it are its two cases, a step that settles and one that installs.
-/

namespace P4475

open Lib IdentityRegistry

namespace IdentitySystem

variable {u : Unicode} {instantMax : Instant} {s s' : IdentitySystem} {action : IdentityAction}
  {response : IdentityResponse}

/-- What the transcript of a run records about the registry it led to. -/
structure Ledger (u : Unicode) (tr : Transcript) (s : IdentitySystem) : Prop where
  good : s.Good u
  bound : ∀ g ∈ minted tr, g.get < s.registry.nextGeneration
  mintOrder : (minted tr).Pairwise fun later earlier => earlier.get < later.get
  mintedInstall : ∀ b ∈ installs tr, b.generation ∈ minted tr
  mintedFresh : ∀ c ∈ s.fresh, c.completion.binding.generation ∈ minted tr
  unpublished : ∀ c ∈ s.fresh, ∀ b ∈ installs tr,
    b.generation ≠ c.completion.binding.generation
  directory : ∀ b ∈ installs tr,
    s.registry.knownByName.lookup (keyOf u b) = some ⟨b.nickname, b.userNo⟩
  latest : ∀ b ∈ installs tr, ∀ {g γ}, s.registry.Live (keyOf u b) g γ →
    b.generation.get ≤ g.get
  order : (installs tr).Pairwise fun later earlier => later.userNo = earlier.userNo →
    earlier.generation.get < later.generation.get
  distinct : ((installs tr).map (·.generation)).Nodup
  balance : (((installs tr).map (·.generation) : List _) : Multiset IdentityGeneration) =
    s.registry.holdings + ((superseded tr ++ released tr : List _) : Multiset _)

theorem ledger_init : Ledger u [] initial where
  good := Good.of_inv rfl inv_new
  bound := by simp [minted]
  mintOrder := List.Pairwise.nil
  mintedInstall := by simp [installs]
  mintedFresh := by simp [fresh, initial]
  unpublished := by simp [fresh, initial]
  directory := by simp [installs]
  latest := by simp [installs]
  order := List.Pairwise.nil
  distinct := List.nodup_nil
  balance := by simp [installs, superseded, released, holdings, initial, IdentityRegistry.new]

theorem mem_minted_cons {tr : Transcript} {g : IdentityGeneration} :
    g ∈ minted ((action, response) :: tr) ↔ g ∈ mintedOf action response ∨ g ∈ minted tr := by
  simp [minted]

/-- The part of the ledger that only grows by what a step mints. -/
theorem StepSpec.next (h : StepSpec u s action response s') :
    s.registry.nextGeneration ≤ s'.registry.nextGeneration := by
  cases h.effect with
  | settles _ _ _ _ _ hn => exact hn
  | installs b _ hi => exact hi.next

theorem StepSpec.knows (h : StepSpec u s action response s') :
    Knows s.registry s'.registry := by
  cases h.effect with
  | settles _ _ _ _ hk _ => exact hk
  | installs b _ hi => exact hi.knows

/-- A generation minted by a step is the old counter value, so it is later than
everything minted before. -/
theorem StepSpec.minted_next (h : StepSpec u s action response s') {g : IdentityGeneration}
    (hg : g ∈ mintedOf action response) : g.get = s.registry.nextGeneration ∧
      s.registry.nextGeneration < s'.registry.nextGeneration := by
  rcases h.mint with hm | ⟨g', hm, hget, hlt⟩
  · rw [hm] at hg; exact absurd hg (by simp)
  · rw [hm, List.mem_singleton] at hg
    exact ⟨by rw [hg, hget], hlt⟩

/-- A binding is installed later than every binding its key had before. -/
theorem Ledger.install_later {tr : Transcript} (h : Ledger u tr s)
    (hs : StepSpec u s action response s') {b b' : IdentityBinding}
    (hb : b ∈ installsOf action response) (hi : Installs u s.registry b (endsOf response)
      s'.registry) (hb' : b' ∈ installs tr) (hkey : keyOf u b' = keyOf u b) :
    b'.generation.get < b.generation.get := by
  rcases hs.origin b hb with hm | ⟨_, _, _, g, γ, hl⟩
  · rw [(hs.minted_next hm).1]
    exact h.bound _ (h.mintedInstall b' hb')
  · exact Nat.lt_of_le_of_lt (h.latest b' hb' (hkey ▸ hl)) (hi.later hl)

/-- An installed generation is new to the ledger. -/
theorem Ledger.install_new {tr : Transcript} (h : Ledger u tr s)
    (hs : StepSpec u s action response s') {b b' : IdentityBinding}
    (hb : b ∈ installsOf action response) (hb' : b' ∈ installs tr) :
    b'.generation ≠ b.generation := by
  rcases hs.origin b hb with hm | ⟨c, hc, rfl, _⟩
  · intro he
    have hlt := h.bound _ (h.mintedInstall b' hb')
    rw [he, (hs.minted_next hm).1] at hlt
    exact Nat.lt_irrefl _ hlt
  · exact h.unpublished c hc b' hb'

/-- Two bindings of one user number are bindings of one key. -/
theorem KnownInv.key_unique {r : IdentityRegistry} (h : r.KnownInv u) {b b' : IdentityBinding}
    (hb : r.knownByName.lookup (keyOf u b) = some ⟨b.nickname, b.userNo⟩)
    (hb' : r.knownByName.lookup (keyOf u b') = some ⟨b'.nickname, b'.userNo⟩)
    (he : b.userNo = b'.userNo) : keyOf u b' = keyOf u b := by
  have h₁ := h.user hb
  have h₂ := h.user hb'
  simp only at h₁ h₂
  rw [he, h₂] at h₁
  exact Option.some.inj h₁

/-- What a step mints comes after everything minted before. -/
theorem Ledger.mint_order {tr : Transcript} (h : Ledger u tr s)
    (hs : StepSpec u s action response s') :
    (minted ((action, response) :: tr)).Pairwise fun later earlier =>
      earlier.get < later.get := by
  show (mintedOf action response ++ minted tr).Pairwise _
  rcases hs.mint with hm | ⟨g, hm, hget, _⟩
  · rw [hm]
    exact h.mintOrder
  · rw [hm]
    refine List.pairwise_cons.mpr ⟨fun g' hg' => ?_, h.mintOrder⟩
    rw [hget]
    exact h.bound g' hg'

theorem Ledger.mint_bound {tr : Transcript} (h : Ledger u tr s)
    (hs : StepSpec u s action response s') :
    ∀ g ∈ minted ((action, response) :: tr), g.get < s'.registry.nextGeneration := by
  intro g hg
  rcases mem_minted_cons.mp hg with hm | hm
  · obtain ⟨he, hlt⟩ := hs.minted_next hm
    rw [he]
    exact hlt
  · exact Nat.lt_of_lt_of_le (h.bound g hm) hs.next

theorem Ledger.minted_fresh {tr : Transcript} (h : Ledger u tr s)
    (hs : StepSpec u s action response s') :
    ∀ c ∈ s'.fresh, c.completion.binding.generation ∈ minted ((action, response) :: tr) := by
  intro c hc
  rw [mem_minted_cons]
  rcases hs.fresh c hc with hold | hm
  · exact Or.inr (h.mintedFresh c hold)
  · exact Or.inl hm

/-- No earlier binding carries a candidate's generation, old or just minted. -/
theorem Ledger.unpublished_old {tr : Transcript} (h : Ledger u tr s)
    (hs : StepSpec u s action response s') :
    ∀ c ∈ s'.fresh, ∀ b ∈ installs tr, b.generation ≠ c.completion.binding.generation := by
  intro c hc b hb
  rcases hs.fresh c hc with hold | hm
  · exact h.unpublished c hold b hb
  · intro he
    have hlt := h.bound _ (h.mintedInstall b hb)
    rw [he, (hs.minted_next hm).1] at hlt
    exact Nat.lt_irrefl _ hlt

/-- What ends in a step joins what ended before it. -/
theorem ends_cons {tr : Transcript} :
    ((superseded ((action, response) :: tr) ++ released ((action, response) :: tr) : List _) :
      Multiset IdentityGeneration) =
      (endsOf response : Multiset IdentityGeneration) +
        ((superseded tr ++ released tr : List _) : Multiset IdentityGeneration) := by
  simp only [superseded, released, endsOf, List.flatMap_cons, ← Multiset.coe_add]
  abel

/-- The ledger after a step that settles. -/
theorem Ledger.settle {tr : Transcript} (h : Ledger u tr s)
    (hs : StepSpec u s action response s') (hinst : installsOf action response = [])
    (hbal : s'.registry.holdings + (endsOf response : Multiset IdentityGeneration) =
      s.registry.holdings)
    (hlive : ∀ {k g γ}, s'.registry.Live k g γ → s.registry.Live k g γ) :
    Ledger u ((action, response) :: tr) s' := by
  have hsame : installs ((action, response) :: tr) = installs tr := by
    simp [installs, hinst]
  exact {
    good := hs.good
    bound := h.mint_bound hs
    mintOrder := h.mint_order hs
    mintedInstall := fun b hb => by
      rw [hsame] at hb
      exact mem_minted_cons.mpr (Or.inr (h.mintedInstall b hb))
    mintedFresh := h.minted_fresh hs
    unpublished := fun c hc b hb => by
      rw [hsame] at hb
      exact h.unpublished_old hs c hc b hb
    directory := fun b hb => by
      rw [hsame] at hb
      exact hs.knows (h.directory b hb)
    latest := fun b hb _ _ hl => by
      rw [hsame] at hb
      exact h.latest b hb (hlive hl)
    order := by rw [hsame]; exact h.order
    distinct := by rw [hsame]; exact h.distinct
    balance := by
      rw [hsame, h.balance, ← hbal, ends_cons]
      abel }

/-- The ledger after a step that installs. -/
theorem Ledger.install {tr : Transcript} (h : Ledger u tr s)
    (hs : StepSpec u s action response s') {b : IdentityBinding}
    (hinst : installsOf action response = [b])
    (hi : Installs u s.registry b (endsOf response) s'.registry) :
    Ledger u ((action, response) :: tr) s' := by
  have hcons : installs ((action, response) :: tr) = b :: installs tr := by
    simp [installs, hinst]
  have hmem : b ∈ installsOf action response := by
    rw [hinst]
    exact List.mem_singleton_self _
  obtain ⟨γ, hhere⟩ := hi.here
  exact {
    good := hs.good
    bound := h.mint_bound hs
    mintOrder := h.mint_order hs
    mintedInstall := by
      rw [hcons]
      refine List.forall_mem_cons.mpr ⟨?_, fun b' hb' =>
        mem_minted_cons.mpr (Or.inr (h.mintedInstall b' hb'))⟩
      rw [mem_minted_cons]
      rcases hs.origin b hmem with hm | ⟨c, hc, rfl, _⟩
      · exact Or.inl hm
      · exact Or.inr (h.mintedFresh c hc)
    mintedFresh := h.minted_fresh hs
    unpublished := by
      intro c hc
      rw [hcons]
      refine List.forall_mem_cons.mpr ⟨fun he => ?_, h.unpublished_old hs c hc⟩
      exact (hs.good.inv.live.candidates c hc).generation (he ▸ hhere)
    directory := by
      rw [hcons]
      exact List.forall_mem_cons.mpr ⟨hi.directory, fun b' hb' => hs.knows (h.directory b' hb')⟩
    latest := by
      rw [hcons]
      refine List.forall_mem_cons.mpr ⟨fun {g γ'} hl => ?_, fun b' hb' g γ' hl => ?_⟩
      · rw [(hs.good.inv.live.key hl hhere).1]
      · rcases hi.live hl with hold | ⟨hkey, hg⟩
        · exact h.latest b' hb' hold
        · rw [hg]
          exact Nat.le_of_lt (h.install_later hs hmem hi hb' hkey)
    order := by
      rw [hcons]
      refine List.pairwise_cons.mpr ⟨fun b' hb' he => ?_, h.order⟩
      refine h.install_later hs hmem hi hb' ?_
      exact KnownInv.key_unique hs.good.inv.directory hi.directory
        (hs.knows (h.directory b' hb')) he
    distinct := by
      rw [hcons, List.map_cons, List.nodup_cons]
      refine ⟨fun hm => ?_, h.distinct⟩
      obtain ⟨b', hb', he⟩ := List.mem_map.mp hm
      exact h.install_new hs hmem hb' he
    balance := by
      rw [hcons, List.map_cons, ← Multiset.cons_coe, ← Multiset.singleton_add, h.balance,
        ends_cons, ← add_assoc, ← add_assoc, hi.holdings]
      congr 1
      exact add_comm _ _ }

/-- **Every run keeps its ledger**, by induction on the transcript. -/
theorem ledger_of_history {tr : Transcript}
    (h : (machine u instantMax).History tr s) : Ledger u tr s := by
  refine Machine.History.invariant (P := fun tr s => Ledger u tr s) ledger_init ?_ h
  intro tr s s' action response _ hl hs
  have hspec := step_spec hl.good hs
  cases hspec.effect with
  | settles hinst hbal hlive _ _ _ => exact hl.settle hspec hinst hbal hlive
  | installs b hinst hi => exact hl.install hspec hinst hi

/-- The invariant of every reachable system. -/
theorem good_of_reachable (h : (machine u instantMax).Reachable s) : s.Good u := by
  obtain ⟨tr, ht⟩ := h
  exact (ledger_of_history ht).good

end IdentitySystem

end P4475
