import P4475.Identity.Invariant

/-!
# Frame rules

Each operation of the registry touches a few fields. The rules here carry the
invariant across everything an operation leaves alone, so that the operation's
own proof is only about what it changes: `RecordOk.frame` for one record,
`LiveInv.shrink` for a step after which no new generation is live, and one rule
per primitive update (`setActive`, `removeActive`, `setGate`, the counters).
-/

namespace P4475

open Lib

namespace IdentityRegistry

variable {u : Unicode} {r r' : IdentityRegistry} {E : List Text}
  {leases : List IdentityOperationLease} {F : List MigrationCandidate}

@[simp] theorem setActive_lookup (k k' : Text) (a : ActiveIdentity) :
    (r.setActive k a).activeByName.lookup k' = if k' = k then some a
      else r.activeByName.lookup k' := by
  simp [setActive]

@[simp] theorem removeActive_lookup (k k' : Text) :
    (r.removeActive k).activeByName.lookup k' = if k' = k then none
      else r.activeByName.lookup k' := by
  simp [removeActive]

@[simp] theorem setGate_gates (γ γ' : GateRef) (gate : IdentityOperationGate) :
    (r.setGate γ gate).gates γ' = if γ' = γ then gate else r.gates γ' := by
  simp [setGate, Function.update_apply]

/-! ## `Live` under the primitive updates -/

theorem live_setGate {k : Text} {g : IdentityGeneration} {γ γ' : GateRef}
    {gate : IdentityOperationGate} : (r.setGate γ' gate).Live k g γ ↔ r.Live k g γ := Iff.rfl

/-- Updating a record in place keeps what it holds. -/
theorem live_setActive {k k' : Text} {a a' : ActiveIdentity} {g : IdentityGeneration}
    {γ : GateRef} (ha : r.activeByName.lookup k = some a) (hg : a'.generation = a.generation)
    (hγ : a'.operationGate = a.operationGate) :
    (r.setActive k a').Live k' g γ ↔ r.Live k' g γ := by
  have hl : ∀ b, (r.setActive k a').activeByName.lookup k' = some b →
      ∃ b₀, r.activeByName.lookup k' = some b₀ ∧ b₀.generation = b.generation ∧
        b₀.operationGate = b.operationGate := by
    intro b hb
    rw [setActive_lookup] at hb
    split at hb
    next he => subst he; cases hb; exact ⟨a, ha, hg.symm, hγ.symm⟩
    next => exact ⟨b, hb, rfl, rfl⟩
  constructor
  · rintro (⟨b, hb, rfl, rfl⟩ | hd)
    · obtain ⟨b₀, hb₀, hbg, hbγ⟩ := hl b hb
      exact Or.inl ⟨b₀, hb₀, hbg, hbγ⟩
    · exact Or.inr hd
  · rintro (⟨b, hb, rfl, rfl⟩ | hd)
    · by_cases he : k' = k
      · subst he
        rw [ha] at hb
        cases hb
        exact Or.inl ⟨a', by simp, hg, hγ⟩
      · exact Or.inl ⟨b, by simp [he, hb], rfl, rfl⟩
    · exact Or.inr hd

theorem live_removeActive {k k' : Text} {g : IdentityGeneration} {γ : GateRef}
    (h : (r.removeActive k).Live k' g γ) : r.Live k' g γ := by
  rcases h with ⟨a, ha, hg, hγ⟩ | hd
  · rw [removeActive_lookup] at ha
    split at ha
    next => exact absurd ha (by simp)
    next => exact Or.inl ⟨a, ha, hg, hγ⟩
  · exact Or.inr hd

/-! ## Frames -/

/-- Every directory entry of `r` is one of `r'`. -/
def Knows (r r' : IdentityRegistry) : Prop :=
  ∀ {k n}, r.knownByName.lookup k = some n → r'.knownByName.lookup k = some n

theorem Knows.of_eq (h : r'.knownByName = r.knownByName) : Knows r r' := by
  intro k n hn
  rw [h]
  exact hn

theorem RecordOk.frame {P P' : Prop} {key : Text} {a : ActiveIdentity}
    (h : r.RecordOk P key a) (hk : Knows r r')
    (hs : ∀ s, a.owner = some s → r'.sessionBindings.lookup s = r.sessionBindings.lookup s)
    (hγ : (r'.gates a.operationGate).state = (r.gates a.operationGate).state) (hP : P → P') :
    r'.RecordOk P' key a where
  known := hk h.known
  bound := fun s ho => by rw [hs s ho]; exact h.bound s ho
  permit := h.permit
  ownerless := fun ho => (h.ownerless ho).imp_right hP
  transfer := h.transfer
  gate := by
    have := h.gate
    unfold GateMatches IdentityOperationGate.FrozenBy at this ⊢
    rw [hγ]
    exact this

/-- The record invariant carries over when the active table, the sessions and
the gate words do. -/
theorem RecordInv.frame (h : r.RecordInv E) (ha : r'.activeByName = r.activeByName)
    (hk : Knows r r') (hs : r'.sessionBindings = r.sessionBindings)
    (hγ : ∀ {k a}, r.activeByName.lookup k = some a →
      (r'.gates a.operationGate).state = (r.gates a.operationGate).state) :
    r'.RecordInv E := by
  intro key a hl
  rw [ha] at hl
  exact (h hl).frame hk (fun s _ => by rw [hs]) (hγ hl) id

/-- A step that concerns the record under `key` only: every other record keeps
its session and its gate word, so only `key`'s record has to be checked again. -/
theorem RecordInv.update {E' : List Text} (key : Text) (h : r.RecordInv E) (hk : Knows r r')
    (hother : ∀ {k a}, k ≠ key → r'.activeByName.lookup k = some a →
      r.activeByName.lookup k = some a)
    (hs : ∀ {k a s}, k ≠ key → r.activeByName.lookup k = some a → a.owner = some s →
      r'.sessionBindings.lookup s = r.sessionBindings.lookup s)
    (hγ : ∀ {k a}, k ≠ key → r.activeByName.lookup k = some a →
      (r'.gates a.operationGate).state = (r.gates a.operationGate).state)
    (hE : ∀ {k}, k ≠ key → k ∈ E → k ∈ E')
    (hkey : ∀ {a}, r'.activeByName.lookup key = some a → r'.RecordOk (key ∈ E') key a) :
    r'.RecordInv E' := by
  intro k a ha
  by_cases he : k = key
  · subst he
    exact hkey ha
  · have ha₀ := hother he ha
    exact (h ha₀).frame hk (fun _ ho => hs he ha₀ ho) (hγ he ha₀) (hE he)

theorem KnownInv.frame (h : r.KnownInv u) (hk : r'.knownByName = r.knownByName)
    (hn : r'.nameByUserNo = r.nameByUserNo) (hu : r'.nextUserNo = r.nextUserNo) :
    r'.KnownInv u where
  key := by rw [hk]; exact h.key
  user := by rw [hk, hn]; exact h.user
  name := by rw [hk, hn]; exact h.name
  bounded := by rw [hn, hu]; exact h.bounded

/-- **The workhorse.** A step after which no new generation is live keeps the
generation invariant if it keeps the counts, retires no gate that is still live
and leaves every lease's record in place. -/
theorem LiveInv.shrink (h : r.LiveInv u leases F)
    (hlive : ∀ {k g γ}, r'.Live k g γ → r.Live k g γ)
    (hdrain : (r'.deferredReleases.map (·.canonicalNickname)).Nodup)
    (hinactive : ∀ d ∈ r'.deferredReleases, r'.activeByName.lookup d.canonicalNickname = none)
    (hk : Knows r r') (hgen : r.nextGeneration ≤ r'.nextGeneration)
    (hgate : r.nextGate ≤ r'.nextGate)
    (hcount : ∀ γ, (r'.gates γ).activeOperations = (r.gates γ).activeOperations)
    (hstate : ∀ {k g γ}, r'.Live k g γ →
      (r'.gates γ).state ≠ IdentityOperationGate.retired)
    (hopen : ∀ c ∈ F, (r'.gates c.nextOperationGate).state =
      (r.gates c.nextOperationGate).state)
    (hlease : ∀ l ∈ leases, ∃ k, r'.Live k l.binding.generation l.gate) :
    r'.LiveInv u leases F where
  generation := fun h₁ h₂ => h.generation (hlive h₁) (hlive h₂)
  gate := fun h₁ h₂ => h.gate (hlive h₁) (hlive h₂)
  bounded := fun h₁ =>
    have hb := h.bounded (hlive h₁)
    ⟨Nat.lt_of_lt_of_le hb.1 hgen, Nat.lt_of_lt_of_le hb.2 hgate⟩
  unretired := hstate
  draining := hdrain
  inactive := hinactive
  lease := hlease
  count := fun γ => by rw [hcount]; exact h.count γ
  candidates := fun c hc =>
    have hf := h.candidates c hc
    { known := hk hf.known
      previous := hf.previous
      later := hf.later
      bounded := ⟨Nat.lt_of_lt_of_le hf.bounded.1 hgen, Nat.lt_of_lt_of_le hf.bounded.2 hgate⟩
      generation := fun hl => hf.generation (hlive hl)
      gate := fun hl => hf.gate (hlive hl)
      opened := by rw [hopen c hc]; exact hf.opened }
  apart := h.apart

/-- A step that changes neither table of records nor any gate. -/
theorem LiveInv.frame (h : r.LiveInv u leases F) (ha : r'.activeByName = r.activeByName)
    (hd : r'.deferredReleases = r.deferredReleases) (hk : Knows r r')
    (hgen : r.nextGeneration ≤ r'.nextGeneration) (hgate : r.nextGate ≤ r'.nextGate)
    (hγ : r'.gates = r.gates) : r'.LiveInv u leases F := by
  have hlive : ∀ {k g γ}, r'.Live k g γ ↔ r.Live k g γ := by
    intro k g γ
    unfold Live
    rw [ha, hd]
  refine h.shrink (fun hl => hlive.mp hl) (by rw [hd]; exact h.draining) ?_ hk hgen hgate
    (fun γ => by rw [hγ]) (fun hl => by rw [hγ]; exact h.unretired (hlive.mp hl))
    (fun c _ => by rw [hγ]) ?_
  · rw [hd, ha]; exact h.inactive
  · intro l hl
    obtain ⟨k, hk⟩ := h.lease l hl
    exact ⟨k, hlive.mpr hk⟩

/-- A record update in place, together with a rewrite of its gate word that
neither retires the gate nor changes its count. -/
theorem LiveInv.adjust (h : r.LiveInv u leases F) {k : Text} {a a' : ActiveIdentity}
    {gate : IdentityOperationGate} (ha : r.activeByName.lookup k = some a)
    (hg : a'.generation = a.generation) (hγ : a'.operationGate = a.operationGate)
    (hc : gate.activeOperations = (r.gates a.operationGate).activeOperations)
    (hs : gate.state ≠ IdentityOperationGate.retired) :
    ((r.setGate a.operationGate gate).setActive k a').LiveInv u leases F := by
  have hlive : ∀ {k' g γ}, ((r.setGate a.operationGate gate).setActive k a').Live k' g γ ↔
      r.Live k' g γ := fun {_ _ _} => live_setActive (r := r.setGate a.operationGate gate) ha hg hγ
  refine h.shrink (fun hl => hlive.mp hl) h.draining ?_ (Knows.of_eq rfl) (Nat.le_refl _)
    (Nat.le_refl _) ?_ ?_ ?_ ?_
  · intro d hd
    have := h.inactive d hd
    rw [setActive_lookup]
    split
    next he => rw [he, ha] at this; exact absurd this (by simp)
    next => exact this
  · intro γ
    show ((r.setGate a.operationGate gate).gates γ).activeOperations = _
    rw [setGate_gates]
    split
    next he => rw [he]; exact hc
    next => rfl
  · intro k' g γ hl
    show ((r.setGate a.operationGate gate).gates γ).state ≠ _
    rw [setGate_gates]
    split
    next => exact hs
    next => exact h.unretired (hlive.mp hl)
  · intro c hc
    show ((r.setGate a.operationGate gate).gates c.nextOperationGate).state = _
    rw [setGate_gates, if_neg]
    intro he
    exact (h.candidates c hc).gate (he ▸ Live.of_active ha)
  · intro l hl
    obtain ⟨k', hk'⟩ := h.lease l hl
    exact ⟨k', hlive.mpr hk'⟩

/-- The record side of the same update: only `k`'s record is new. -/
theorem RecordInv.adjust (h : r.RecordInv E) (hL : r.LiveInv u leases F) {k : Text}
    {a a' : ActiveIdentity} {gate : IdentityOperationGate}
    (ha : r.activeByName.lookup k = some a)
    (hok : ((r.setGate a.operationGate gate).setActive k a').RecordOk (k ∈ E) k a') :
    ((r.setGate a.operationGate gate).setActive k a').RecordInv E := by
  refine h.update k (Knows.of_eq rfl) ?_ (fun _ _ _ => rfl) ?_ (fun _ hE => hE) ?_
  · intro key b hne hb
    rw [setActive_lookup, if_neg hne] at hb
    exact hb
  · intro key b hne hb
    show ((r.setGate a.operationGate gate).gates b.operationGate).state = _
    rw [setGate_gates, if_neg]
    intro he
    have hb' := Live.of_active (r := r) hb
    rw [he] at hb'
    exact hne (hL.gate hb' (Live.of_active ha))
  · intro b hb
    rw [setActive_lookup, if_pos rfl] at hb
    cases hb
    exact hok

/-- The counters may grow without touching anything the invariant reads. -/
theorem Inv.bump (h : r.Inv u E leases F) (hk : r'.knownByName = r.knownByName)
    (hn : r'.nameByUserNo = r.nameByUserNo) (hu : r'.nextUserNo = r.nextUserNo)
    (ha : r'.activeByName = r.activeByName) (hs : r'.sessionBindings = r.sessionBindings)
    (hd : r'.deferredReleases = r.deferredReleases) (hγ : r'.gates = r.gates)
    (hgen : r.nextGeneration ≤ r'.nextGeneration) (hgate : r.nextGate ≤ r'.nextGate) :
    r'.Inv u E leases F where
  directory := h.directory.frame hk hn hu
  record := h.record.frame ha (Knows.of_eq hk) hs (fun _ => by rw [hγ])
  live := h.live.frame ha hd (Knows.of_eq hk) hgen hgate hγ

/-- Writing back a gate as it was changes nothing. -/
theorem setGate_self (γ : GateRef) : r.setGate γ (r.gates γ) = r := by
  unfold setGate
  rw [Function.update_eq_self]

end IdentityRegistry

end P4475
