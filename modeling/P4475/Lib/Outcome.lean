import Mathlib.Data.List.Forall2

/-!
# Outcomes of fallible computations

`Outcome E Q x`: if `x` succeeds its value meets `Q`, if it fails its error meets
`E`. The rules follow the shape of the computation, so a specification of each
step of a `do` block composes to one of the block.
-/

namespace P4475.Lib

variable {ε ε' α β : Type} {E : ε → Prop} {P Q : α → Prop}

def Outcome (E : ε → Prop) (Q : α → Prop) : Except ε α → Prop
  | .ok a => Q a
  | .error e => E e

namespace Outcome

theorem ok {a : α} (h : Q a) : Outcome E Q (.ok a) := h

theorem error {e : ε} (h : E e) : Outcome E Q (.error e : Except ε α) := h

/-- The specification of a sequence, from those of its two parts. -/
theorem bind {R : β → Prop} {x : Except ε α} {f : α → Except ε β} (hx : Outcome E P x)
    (hf : ∀ a, P a → Outcome E R (f a)) : Outcome E R (x >>= f) := by
  cases x with
  | error e => exact hx
  | ok a => exact hf a hx

theorem mono {x : Except ε α} (hx : Outcome E P x) (h : ∀ a, P a → Q a) : Outcome E Q x := by
  cases x with
  | error e => exact hx
  | ok a => exact h a hx

theorem mapError {E' : ε' → Prop} {x : Except ε α} {f : ε → ε'}
    (hx : ∀ a, x = .ok a → Q a) (hf : ∀ e, E' (f e)) : Outcome E' Q (x.mapError f) := by
  cases x with
  | error e => exact hf e
  | ok a => exact hx a rfl

theorem ite {c : Prop} [Decidable c] {x y : Except ε α} (hx : c → Outcome E Q x)
    (hy : ¬ c → Outcome E Q y) : Outcome E Q (if c then x else y) := by
  by_cases h : c
  · rw [if_pos h]
    exact hx h
  · rw [if_neg h]
    exact hy h

theorem of_ok {x : Except ε α} {a : α} (hx : Outcome E Q x) (h : x = .ok a) : Q a := by
  rw [h] at hx
  exact hx

theorem of_error {x : Except ε α} {e : ε} (hx : Outcome E Q x) (h : x = .error e) : E e := by
  rw [h] at hx
  exact hx

/-- Keep with a value what its specification says of it. -/
def attach : {x : Except ε α} → Outcome E Q x → Except ε {a // Q a}
  | .ok a, h => .ok ⟨a, h⟩
  | .error e, _ => .error e

end Outcome

/-- A sequence succeeds when both of its parts do. -/
theorem bind_eq_ok {x : Except ε α} {f : α → Except ε β} {b : β} (h : (x >>= f) = .ok b) :
    ∃ a, x = .ok a ∧ f a = .ok b := by
  cases x with
  | error e => exact absurd h (by simp [bind, Except.bind])
  | ok a => exact ⟨a, rfl, h⟩

theorem ok_bind (a : α) (f : α → Except ε β) : (Except.ok a >>= f) = f a := rfl

theorem error_bind (e : ε) (f : α → Except ε β) : (Except.error e >>= f) = .error e := rfl

theorem bind_eq_ok_iff {x : Except ε α} {f : α → Except ε β} {b : β} :
    (x >>= f) = .ok b ↔ ∃ a, x = .ok a ∧ f a = .ok b := by
  constructor
  · exact bind_eq_ok
  · intro ⟨a, hx, hf⟩
    rw [hx]
    exact hf

/-- Only errors are replaced. -/
theorem mapError_eq_ok {x : Except ε α} {f : ε → ε'} {a : α} :
    x.mapError f = .ok a ↔ x = .ok a := by
  cases x with
  | error e => exact iff_of_false (fun h => by cases h) (fun h => by cases h)
  | ok b =>
    constructor
    · intro h
      cases h
      rfl
    · intro h
      cases h
      rfl

/-! ## Conditions and options -/

/-- Refuse unless the condition holds. -/
def check (c : Prop) [Decidable c] (e : ε) : Except ε Unit := if c then .ok () else .error e

/-- `ok_or`: nothing is an error. -/
def okOr (e : ε) : Option α → Except ε α
  | some a => .ok a
  | none => .error e

theorem check_eq_ok {c : Prop} [Decidable c] {e : ε} {u : Unit} :
    check c e = .ok u ↔ c := by
  unfold check
  by_cases hc : c
  · rw [if_pos hc]
    exact iff_of_true rfl hc
  · rw [if_neg hc]
    exact iff_of_false (by simp) hc

theorem Outcome.of_check {c : Prop} [Decidable c] {E : ε → Prop} {e : ε} (h : E e) :
    Outcome E (fun _ => c) (check c e) := by
  unfold check
  by_cases hc : c
  · rw [if_pos hc]
    exact hc
  · rw [if_neg hc]
    exact h

theorem check_bind {c : Prop} [Decidable c] {e : ε} {f : Unit → Except ε β} {b : β} :
    (check c e >>= f) = .ok b ↔ c ∧ f () = .ok b := by
  rw [bind_eq_ok_iff]
  constructor
  · intro ⟨_, hc, hf⟩
    exact ⟨check_eq_ok.mp hc, hf⟩
  · intro ⟨hc, hf⟩
    exact ⟨(), check_eq_ok.mpr hc, hf⟩

theorem okOr_some (e : ε) (a : α) : okOr e (some a) = .ok a := rfl

theorem okOr_eq_ok {e : ε} {o : Option α} {a : α} : okOr e o = .ok a ↔ o = some a := by
  cases o with
  | none => exact iff_of_false (by simp [okOr]) (by simp)
  | some b => simp [okOr]

theorem Outcome.of_okOr {E : ε → Prop} {e : ε} (h : E e) (o : Option α) :
    Outcome E (fun a => o = some a) (okOr e o) := by
  cases o with
  | none => exact h
  | some a => exact rfl

theorem okOr_bind {e : ε} {o : Option α} {f : α → Except ε β} {b : β} :
    (okOr e o >>= f) = .ok b ↔ ∃ a, o = some a ∧ f a = .ok b := by
  rw [bind_eq_ok_iff]
  simp only [okOr_eq_ok]

/-! ## Lists -/

/-- What each element's computation says of its result holds pairwise. -/
theorem mapM_forall₂ {f : α → Except ε β} {R : α → β → Prop}
    (hf : ∀ a b, f a = .ok b → R a b) {l : List α} {l' : List β} (h : l.mapM f = .ok l') :
    List.Forall₂ R l l' := by
  induction l generalizing l' with
  | nil =>
    rw [List.mapM_nil] at h
    cases h
    exact .nil
  | cons a rest ih =>
    rw [List.mapM_cons] at h
    obtain ⟨b, ha, h⟩ := bind_eq_ok h
    obtain ⟨bs, hr, h⟩ := bind_eq_ok h
    cases h
    exact .cons (hf a b ha) (ih hr)

/-- Each result is that of some element. -/
theorem mapM_mem {f : α → Except ε β} {l : List α} {l' : List β} (h : l.mapM f = .ok l') {b : β}
    (hb : b ∈ l') : ∃ a ∈ l, f a = .ok b := by
  induction l generalizing l' with
  | nil =>
    rw [List.mapM_nil] at h
    cases h
    exact absurd hb List.not_mem_nil
  | cons a rest ih =>
    rw [List.mapM_cons] at h
    obtain ⟨b', ha, h⟩ := bind_eq_ok h
    obtain ⟨bs, hr, h⟩ := bind_eq_ok h
    cases h
    rcases List.mem_cons.mp hb with hb | hb
    · exact ⟨a, List.mem_cons_self, hb ▸ ha⟩
    · obtain ⟨c, hc, hf⟩ := ih hr hb
      exact ⟨c, List.mem_cons_of_mem _ hc, hf⟩

/-- A list succeeds only if each of its elements does. -/
theorem mapM_each {f : α → Except ε β} {l : List α} {l' : List β} (h : l.mapM f = .ok l') {a : α}
    (ha : a ∈ l) : ∃ b, f a = .ok b := by
  induction l generalizing l' with
  | nil => exact absurd ha List.not_mem_nil
  | cons a' rest ih =>
    rw [List.mapM_cons] at h
    obtain ⟨b, hb, h⟩ := bind_eq_ok h
    obtain ⟨bs, hr, _⟩ := bind_eq_ok h
    rcases List.mem_cons.mp ha with rfl | ha
    · exact ⟨b, hb⟩
    · exact ih hr ha

/-- A list succeeds if each of its elements does. -/
theorem mapM_all {f : α → Except ε β} {l : List α} (h : ∀ a ∈ l, ∃ b, f a = .ok b) :
    ∃ l', l.mapM f = .ok l' := by
  induction l with
  | nil => exact ⟨[], rfl⟩
  | cons a rest ih =>
    obtain ⟨b, hb⟩ := h a List.mem_cons_self
    obtain ⟨bs, hbs⟩ := ih fun c hc => h c (List.mem_cons_of_mem _ hc)
    refine ⟨b :: bs, ?_⟩
    rw [List.mapM_cons, hb, hbs]
    rfl

/-- Where each element is its own result, so is the list. -/
theorem mapM_self {f : α → Except ε α} {l : List α} (h : ∀ a ∈ l, f a = .ok a) :
    l.mapM f = .ok l := by
  induction l with
  | nil => rfl
  | cons a rest ih =>
    rw [List.mapM_cons, h a List.mem_cons_self,
      ih fun b hb => h b (List.mem_cons_of_mem _ hb)]
    rfl

end P4475.Lib
