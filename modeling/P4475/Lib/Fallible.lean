import Mathlib.Logic.Basic
import Mathlib.Tactic.Cases

/-!
# Fallible computations

A `Fallible` computation changes a state and may then fail; what it has changed by then
stays. `Yields` says what a successful one returns and leaves, and `Atomic` that a failed
one leaves what it found. A computation is atomic when it only reads until the last point at
which it can fail.
-/

namespace P4475.Lib

/-- A computation on a state, which keeps its changes when it fails. -/
abbrev Fallible (σ ε α : Type) := ExceptT ε (StateM σ) α

section Fallible

variable {σ ε ε' α β : Type}

/-- The computation succeeds from `s` with `a`, and leaves `s'`. -/
def Yields (p : Fallible σ ε α) (s : σ) (a : α) (s' : σ) : Prop :=
  (p.run.run s : Except ε α × σ) = (.ok a, s')

/-- A result, as a computation that changes nothing. -/
def liftResult (result : Except ε α) : Fallible σ ε α := ExceptT.mk (pure result)

/-- `?` with a conversion of the error. -/
def orElseThrow (f : ε → ε') (p : Fallible σ ε α) : Fallible σ ε' α := ExceptT.adapt f p

theorem yields_pure {a b : α} {s s' : σ} :
    Yields (pure a : Fallible σ ε α) s b s' ↔ b = a ∧ s' = s := by
  constructor
  · intro h
    cases h
    exact ⟨rfl, rfl⟩
  · rintro ⟨rfl, rfl⟩
    rfl

theorem yields_throw {e : ε} {s s' : σ} {a : α} :
    ¬ Yields (throw e : Fallible σ ε α) s a s' := by
  intro h
  cases h

theorem yields_bind {p : Fallible σ ε α} {f : α → Fallible σ ε β} {s s'' : σ} {b : β} :
    Yields (p >>= f) s b s'' ↔ ∃ a s', Yields p s a s' ∧ Yields (f a) s' b s'' := by
  have hrun : ∀ r : Except ε α × σ, (p.run.run s : Except ε α × σ) = r →
      ((p >>= f).run.run s : Except ε β × σ) =
        (ExceptT.bindCont f r.1 : StateM σ (Except ε β)).run r.2 := by
    rintro _ rfl
    rfl
  unfold Yields
  cases hr : (p.run.run s : Except ε α × σ) with
  | mk result s' =>
    rw [hrun _ hr]
    cases result with
    | error e =>
      constructor
      · intro h
        cases h
      · rintro ⟨_, _, h, -⟩
        cases h
    | ok a =>
      constructor
      · intro h
        exact ⟨a, s', rfl, h⟩
      · rintro ⟨_, _, ha, h⟩
        cases ha
        exact h

theorem yields_bind_pure {p : Fallible σ ε α} {f : α → β} {s s' : σ} {b : β} :
    Yields (p >>= fun a => pure (f a)) s b s' ↔ ∃ a, Yields p s a s' ∧ b = f a := by
  rw [yields_bind]
  constructor
  · intro ⟨a, _, hp, hf⟩
    obtain ⟨rfl, rfl⟩ := yields_pure.mp hf
    exact ⟨a, hp, rfl⟩
  · intro ⟨a, hp, hb⟩
    exact ⟨a, s', hp, yields_pure.mpr ⟨hb, rfl⟩⟩

theorem yields_get {s t s' : σ} :
    Yields (get : Fallible σ ε σ) s t s' ↔ t = s ∧ s' = s := by
  constructor
  · intro h
    cases h
    exact ⟨rfl, rfl⟩
  · rintro ⟨rfl, rfl⟩
    rfl

theorem yields_set {s s₁ s' : σ} {u : PUnit} :
    Yields (set s₁ : Fallible σ ε PUnit) s u s' ↔ s' = s₁ := by
  constructor
  · intro h
    cases h
    rfl
  · rintro rfl
    rfl

theorem yields_orElseThrow {f : ε → ε'} {p : Fallible σ ε α} {s s' : σ} {a : α} :
    Yields (orElseThrow f p) s a s' ↔ Yields p s a s' := by
  have hrun : ((orElseThrow f p).run.run s : Except ε' α × σ) =
      ((p.run.run s : Except ε α × σ).1.mapError f, (p.run.run s : Except ε α × σ).2) := rfl
  unfold Yields
  rw [hrun]
  rcases (p.run.run s : Except ε α × σ) with ⟨e | b, s₁⟩
  · constructor <;> intro h <;> cases h
  · constructor <;> intro h <;> cases h <;> rfl

theorem yields_liftResult {result : Except ε α} {s s' : σ} {a : α} :
    Yields (liftResult result : Fallible σ ε α) s a s' ↔ result = .ok a ∧ s' = s := by
  constructor
  · intro h
    have h' : (result, s) = (.ok a, s') := h
    cases h'
    exact ⟨rfl, rfl⟩
  · rintro ⟨rfl, rfl⟩
    rfl

/-- Do it a number of times. -/
def repeatM (p : Fallible σ ε α) : Nat → Fallible σ ε (List α)
  | 0 => pure []
  | count + 1 => do
    let a ← p
    let rest ← repeatM p count
    return a :: rest

/-- Refuse unless the condition holds. -/
def ensure (c : Prop) [Decidable c] (e : ε) : Fallible σ ε Unit :=
  if c then pure () else throw e

theorem yields_ensure {c : Prop} [Decidable c] {e : ε} {s s' : σ} {a : Unit} :
    Yields (ensure c e : Fallible σ ε Unit) s a s' ↔ c ∧ s' = s := by
  unfold ensure
  by_cases h : c
  · rw [if_pos h, yields_pure, and_iff_right h]
    exact and_iff_right rfl
  · rw [if_neg h]
    exact iff_of_false yields_throw fun hc => h hc.1

/-! ## Sequences by their first step -/

section Steps

variable {s s' : σ} {b : β}

theorem yields_get_bind {f : σ → Fallible σ ε β} :
    Yields (get >>= f) s b s' ↔ Yields (f s) s b s' := Iff.rfl

theorem yields_set_bind {s₁ : σ} {f : PUnit → Fallible σ ε β} :
    Yields (set s₁ >>= f) s b s' ↔ Yields (f ⟨⟩) s₁ b s' := Iff.rfl

theorem yields_modify_bind {g : σ → σ} {f : PUnit → Fallible σ ε β} :
    Yields (modify g >>= f) s b s' ↔ Yields (f ⟨⟩) (g s) b s' := Iff.rfl

theorem yields_ensure_bind {c : Prop} [Decidable c] {e : ε} {f : Unit → Fallible σ ε β} :
    Yields (ensure c e >>= f) s b s' ↔ c ∧ Yields (f ()) s b s' := by
  rw [yields_bind]
  constructor
  · rintro ⟨_, _, hfirst, hrest⟩
    obtain ⟨hc, rfl⟩ := yields_ensure.mp hfirst
    exact ⟨hc, hrest⟩
  · rintro ⟨hc, hrest⟩
    exact ⟨(), s, yields_ensure.mpr ⟨hc, rfl⟩, hrest⟩

theorem yields_liftResult_bind {result : Except ε α} {f : α → Fallible σ ε β} :
    Yields (liftResult result >>= f) s b s' ↔ ∃ a, result = .ok a ∧ Yields (f a) s b s' := by
  rw [yields_bind]
  constructor
  · rintro ⟨a, _, hfirst, hrest⟩
    obtain ⟨ha, rfl⟩ := yields_liftResult.mp hfirst
    exact ⟨a, ha, hrest⟩
  · rintro ⟨a, ha, hrest⟩
    exact ⟨a, s, yields_liftResult.mpr ⟨ha, rfl⟩, hrest⟩

end Steps

/-! ## What a failure leaves -/

/-- A failure leaves the state as it was. -/
def Atomic (p : Fallible σ ε α) : Prop :=
  ∀ s e s', (p.run.run s : Except ε α × σ) = (.error e, s') → s' = s

/-- The state is only read. -/
def ReadsOnly (p : Fallible σ ε α) : Prop :=
  ∀ s, (p.run.run s : Except ε α × σ).2 = s

/-- The computation never fails. -/
def Succeeds (p : Fallible σ ε α) : Prop :=
  ∀ s e s', (p.run.run s : Except ε α × σ) ≠ (.error e, s')

theorem ReadsOnly.atomic {p : Fallible σ ε α} (h : ReadsOnly p) : Atomic p := by
  intro s e s' hs
  rw [← h s, hs]

theorem Succeeds.atomic {p : Fallible σ ε α} (h : Succeeds p) : Atomic p := by
  intro s e s' hs
  exact absurd hs (h s e s')

/-- A computation that succeeds has read only, if it always does. -/
theorem ReadsOnly.yields {p : Fallible σ ε α} (h : ReadsOnly p) {s s' : σ} {a : α}
    (hy : Yields p s a s') : s' = s := by
  have hs := h s
  unfold Yields at hy
  rw [hy] at hs
  exact hs

/-- How a failed sequence has failed: in its first part, or in its second. -/
theorem bind_error {p : Fallible σ ε α} {f : α → Fallible σ ε β} {s s'' : σ} {e : ε}
    (h : ((p >>= f).run.run s : Except ε β × σ) = (.error e, s'')) :
    (p.run.run s : Except ε α × σ) = (.error e, s'') ∨
      ∃ a s', Yields p s a s' ∧ ((f a).run.run s' : Except ε β × σ) = (.error e, s'') := by
  have hrun : ((p >>= f).run.run s : Except ε β × σ) =
      (ExceptT.bindCont f (p.run.run s : Except ε α × σ).1 : StateM σ (Except ε β)).run
        (p.run.run s : Except ε α × σ).2 := rfl
  rw [hrun] at h
  unfold Yields
  rcases hp : (p.run.run s : Except ε α × σ) with ⟨e' | a, s'⟩
  · rw [hp] at h
    cases h
    exact .inl rfl
  · rw [hp] at h
    exact .inr ⟨a, s', rfl, h⟩

/-- Reading first keeps what follows atomic. -/
theorem ReadsOnly.bind {p : Fallible σ ε α} {f : α → Fallible σ ε β} (hp : ReadsOnly p)
    (hf : ∀ a, Atomic (f a)) : Atomic (p >>= f) := by
  intro s e s'' h
  rcases bind_error h with hfirst | ⟨a, s', hyields, hsecond⟩
  · exact hp.atomic s e s'' hfirst
  · rw [hf a s' e s'' hsecond]
    exact hp.yields hyields

/-- After the last point of failure anything may be written. -/
theorem Atomic.bind {p : Fallible σ ε α} {f : α → Fallible σ ε β} (hp : Atomic p)
    (hf : ∀ a, Succeeds (f a)) : Atomic (p >>= f) := by
  intro s e s'' h
  rcases bind_error h with hfirst | ⟨a, s', -, hsecond⟩
  · exact hp s e s'' hfirst
  · exact absurd hsecond (hf a s' e s'')

theorem Succeeds.bind {p : Fallible σ ε α} {f : α → Fallible σ ε β} (hp : Succeeds p)
    (hf : ∀ a, Succeeds (f a)) : Succeeds (p >>= f) := by
  intro s e s'' h
  rcases bind_error h with hfirst | ⟨a, s', -, hsecond⟩
  · exact hp s e s'' hfirst
  · exact hf a s' e s'' hsecond

theorem readsOnly_pure (a : α) : ReadsOnly (pure a : Fallible σ ε α) := fun _ => rfl

theorem readsOnly_throw (e : ε) : ReadsOnly (throw e : Fallible σ ε α) := fun _ => rfl

theorem readsOnly_get : ReadsOnly (get : Fallible σ ε σ) := fun _ => rfl

theorem readsOnly_liftResult (result : Except ε α) :
    ReadsOnly (liftResult result : Fallible σ ε α) := fun _ => rfl

theorem readsOnly_ensure (c : Prop) [Decidable c] (e : ε) :
    ReadsOnly (ensure c e : Fallible σ ε Unit) := by
  unfold ensure
  split
  · exact readsOnly_pure ()
  · exact readsOnly_throw e

theorem succeeds_pure (a : α) : Succeeds (pure a : Fallible σ ε α) := by
  intro s e s' h
  cases h

theorem succeeds_set (s : σ) : Succeeds (set s : Fallible σ ε PUnit) := by
  intro s e s' h
  cases h

theorem succeeds_get : Succeeds (get : Fallible σ ε σ) := by
  intro s e s' h
  cases h

theorem succeeds_modify (f : σ → σ) : Succeeds (modify f : Fallible σ ε PUnit) := by
  intro s e s' h
  cases h

end Fallible

end P4475.Lib
