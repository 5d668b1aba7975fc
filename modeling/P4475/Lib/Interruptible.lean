/-!
# Computations that may be cut off

A `Program` reads and changes a state, one atomic change at a time. It may be cut off before any
of its steps, and then what it has changed by then stays. `Holds C Q` is its weakest precondition
with two postconditions: `C` holds wherever it may be cut off, and `Q` where it ends. `Cuts` are
the states it may leave when it is cut off, `run` is the whole of it, and `Holds` is exactly what
these two say (`holds_iff`).
-/

namespace P4475.Lib

variable {σ ε α β : Type}

/-- A computation on a state, one atomic step after another. -/
inductive Program (σ ε α : Type) : Type
  | done (result : Except ε α)
  | read (next : σ → Program σ ε α)
  | write (change : σ → σ) (next : Program σ ε α)

namespace Program

def bind : Program σ ε α → (α → Program σ ε β) → Program σ ε β
  | .done (.ok a), f => f a
  | .done (.error e), _ => .done (.error e)
  | .read next, f => .read fun s => (next s).bind f
  | .write change next, f => .write change (next.bind f)

instance : Monad (Program σ ε) where
  pure a := .done (.ok a)
  bind := bind

/-- The computation ends with an error. -/
def fail (e : ε) : Program σ ε α := .done (.error e)

/-- What the state says now. -/
def ask (f : σ → α) : Program σ ε α := .read fun s => .done (.ok (f s))

/-- One atomic change. -/
def change (f : σ → σ) : Program σ ε Unit := .write f (.done (.ok ()))

/-- One step from a state: what is left to do, and the state after it. -/
def step : Program σ ε α → σ → Option (Program σ ε α × σ)
  | .done _, _ => none
  | .read next, s => some (next s, s)
  | .write change next, s => some (next, change s)

/-- The whole computation. -/
def run : Program σ ε α → σ → Except ε α × σ
  | .done result, s => (result, s)
  | .read next, s => (next s).run s
  | .write change next, s => next.run (change s)

/-- The states the computation may be cut off in. -/
inductive Cuts : Program σ ε α → σ → σ → Prop
  | here {p : Program σ ε α} {s : σ} : Cuts p s s
  | read {next : σ → Program σ ε α} {s t : σ} : Cuts (next s) s t → Cuts (.read next) s t
  | write {change : σ → σ} {next : Program σ ε α} {s t : σ} :
      Cuts next (change s) t → Cuts (.write change next) s t

/-- `C` holds in every state the computation passes from `s`, and `Q` of what it ends with. -/
def Holds (C : σ → Prop) (Q : Except ε α → σ → Prop) : Program σ ε α → σ → Prop
  | .done result, s => C s ∧ Q result s
  | .read next, s => C s ∧ (next s).Holds C Q s
  | .write change next, s => C s ∧ next.Holds C Q (change s)

variable {C C' : σ → Prop} {Q Q' : Except ε α → σ → Prop} {p : Program σ ε α} {s : σ}

/-- A computation may be cut off before its first step. -/
theorem Holds.here (h : p.Holds C Q s) : C s := by
  cases p with
  | done result => exact h.1
  | read next => exact h.1
  | write change next => exact h.1

theorem Holds.step {p' : Program σ ε α} {s' : σ} (h : p.Holds C Q s)
    (hstep : p.step s = some (p', s')) : p'.Holds C Q s' := by
  cases p with
  | done result => exact absurd hstep (by simp [Program.step])
  | read next =>
    obtain ⟨rfl, rfl⟩ := Prod.mk.inj (Option.some.inj hstep)
    exact h.2
  | write change next =>
    obtain ⟨rfl, rfl⟩ := Prod.mk.inj (Option.some.inj hstep)
    exact h.2

/-- The postconditions are exactly about where the computation may be cut off, and how it ends. -/
theorem holds_iff : p.Holds C Q s ↔ (∀ t, Cuts p s t → C t) ∧ Q (p.run s).1 (p.run s).2 := by
  induction p generalizing s with
  | done result =>
    constructor
    · intro ⟨hc, hq⟩
      refine ⟨fun t hcut => ?_, hq⟩
      cases hcut
      exact hc
    · intro ⟨hc, hq⟩
      exact ⟨hc s .here, hq⟩
  | read next ih =>
    constructor
    · intro ⟨hc, hnext⟩
      obtain ⟨hcuts, hq⟩ := (ih s).mp hnext
      refine ⟨fun t hcut => ?_, hq⟩
      cases hcut with
      | here => exact hc
      | read hcut => exact hcuts t hcut
    · intro ⟨hc, hq⟩
      exact ⟨hc s .here, (ih s).mpr ⟨fun t hcut => hc t (.read hcut), hq⟩⟩
  | write change next ih =>
    constructor
    · intro ⟨hc, hnext⟩
      obtain ⟨hcuts, hq⟩ := ih.mp hnext
      refine ⟨fun t hcut => ?_, hq⟩
      cases hcut with
      | here => exact hc
      | write hcut => exact hcuts t hcut
    · intro ⟨hc, hq⟩
      exact ⟨hc s .here, ih.mpr ⟨fun t hcut => hc t (.write hcut), hq⟩⟩

theorem cuts_run : Cuts p s (p.run s).2 := by
  induction p generalizing s with
  | done result => exact .here
  | read next ih => exact .read (ih s)
  | write change next ih => exact .write ih

/-- Where the computation stands after some steps. -/
def cut : Nat → Program σ ε α → σ → σ
  | 0, _, s => s
  | _ + 1, .done _, s => s
  | n + 1, .read next, s => (next s).cut n s
  | n + 1, .write change next, s => next.cut n (change s)

theorem cuts_cut (n : Nat) : Cuts p s (p.cut n s) := by
  induction n generalizing p s with
  | zero => exact .here
  | succ n ih =>
    cases p with
    | done result => exact .here
    | read next => exact .read ih
    | write change next => exact .write ih

theorem run_bind {f : α → Program σ ε β} :
    (p >>= f).run s = match p.run s with
      | (.ok a, t) => (f a).run t
      | (.error e, t) => (.error e, t) := by
  show (p.bind f).run s = _
  induction p generalizing s with
  | done result =>
    cases result with
    | ok a => rfl
    | error e => rfl
  | read next ih => exact ih s
  | write change next ih => exact ih

theorem run_ask {g : σ → β} {f : β → Program σ ε α} :
    (ask g >>= f).run s = (f (g s)).run s := rfl

/-- A computation that succeeds succeeds in its parts. -/
theorem run_bind_ok {f : α → Program σ ε β} {b : β} {u : σ} :
    (p >>= f).run s = (.ok b, u) ↔ ∃ a t, p.run s = (.ok a, t) ∧ (f a).run t = (.ok b, u) := by
  rw [run_bind]
  cases hrun : p.run s with
  | mk result t =>
    cases result with
    | ok a =>
      constructor
      · exact fun h => ⟨a, t, rfl, h⟩
      · intro ⟨a', t', heq, h⟩
        obtain ⟨ha, ht⟩ := Prod.mk.inj heq
        rw [Except.ok.inj ha, ht]
        exact h
    | error e =>
      constructor
      · exact fun h => absurd (Prod.mk.inj h).1 (by simp)
      · exact fun ⟨a', t', heq, _⟩ => absurd (Prod.mk.inj heq).1 (by simp)

/-! ## Rules -/

theorem Holds.imp (h : p.Holds C Q s) (hC : ∀ t, C t → C' t)
    (hQ : ∀ r t, C t → Q r t → Q' r t) : p.Holds C' Q' s := by
  induction p generalizing s with
  | done result => exact ⟨hC s h.1, hQ result s h.1 h.2⟩
  | read next ih => exact ⟨hC s h.1, ih s h.2⟩
  | write change next ih => exact ⟨hC s h.1, ih h.2⟩

/-- What a computation ends with, when another one follows unless it fails. -/
def andThen (C : σ → Prop) (Q : Except ε β → σ → Prop) (f : α → Program σ ε β) :
    Except ε α → σ → Prop
  | .ok a, t => (f a).Holds C Q t
  | .error e, t => Q (.error e) t

theorem andThen_ok {f : α → Program σ ε β} {Q : Except ε β → σ → Prop} {a : α} :
    andThen C Q f (.ok a) s ↔ (f a).Holds C Q s := Iff.rfl

theorem holds_bind {f : α → Program σ ε β} {Q : Except ε β → σ → Prop} :
    (p >>= f).Holds C Q s ↔ p.Holds C (andThen C Q f) s := by
  show (p.bind f).Holds C Q s ↔ _
  induction p generalizing s with
  | done result =>
    cases result with
    | ok a => exact ⟨fun h => ⟨h.here, h⟩, fun h => h.2⟩
    | error e => exact Iff.rfl
  | read next ih => exact and_congr_right fun _ => ih s
  | write change next ih => exact and_congr_right fun _ => ih

theorem holds_ask {g : σ → β} {f : β → Program σ ε α} :
    (ask g >>= f).Holds C Q s ↔ C s ∧ (f (g s)).Holds C Q s := Iff.rfl

theorem holds_change {g : σ → σ} {f : Unit → Program σ ε α} :
    (change g >>= f).Holds C Q s ↔ C s ∧ (f ()).Holds C Q (g s) := Iff.rfl

/-! ## What every change keeps -/

/-- No change of the computation undoes `P`, whatever the state. -/
def Keeps (P : σ → Prop) : Program σ ε α → Prop
  | .done _ => True
  | .read next => ∀ s, (next s).Keeps P
  | .write change next => (∀ s, P s → P (change s)) ∧ next.Keeps P

variable {P : σ → Prop}

theorem Keeps.step {p' : Program σ ε α} {s' : σ} (h : p.Keeps P)
    (hstep : p.step s = some (p', s')) : p'.Keeps P ∧ (P s → P s') := by
  cases p with
  | done result => exact absurd hstep (by simp [Program.step])
  | read next =>
    obtain ⟨rfl, rfl⟩ := Prod.mk.inj (Option.some.inj hstep)
    exact ⟨h s, fun hs => hs⟩
  | write change next =>
    obtain ⟨rfl, rfl⟩ := Prod.mk.inj (Option.some.inj hstep)
    exact ⟨h.2, h.1 s⟩

theorem Keeps.bind {f : α → Program σ ε β} (h : p.Keeps P) (hf : ∀ a, (f a).Keeps P) :
    (p >>= f).Keeps P := by
  show (p.bind f).Keeps P
  induction p with
  | done result =>
    cases result with
    | ok a => exact hf a
    | error e => trivial
  | read next ih => exact fun s => ih s (h s)
  | write change next ih => exact ⟨h.1, ih h.2⟩

theorem keeps_ask {g : σ → β} {f : β → Program σ ε α} (h : ∀ s, (f (g s)).Keeps P) :
    (ask g >>= f).Keeps P := h

theorem keeps_change {g : σ → σ} (h : ∀ s, P s → P (g s)) :
    (change g : Program σ ε Unit).Keeps P := ⟨h, trivial⟩

end Program

end P4475.Lib
