/-!
# Machines with responses

A deterministic machine takes an action, answers it, and moves on; an action
that is not enabled answers nothing. Nondeterminism of the environment (which
task runs next, what a clock reads, in which order a hash table is walked) is
part of the action, so a claim about every list of actions is a claim about
every schedule.

`History` is a transcript of actions and responses, latest first, together with
the state it leads to; `RunBy C` is a run whose steps all meet a condition.
Invariants of states and properties of transcripts are proved by the rules
below, so a client only ever discharges "initially" and "one step".
-/

namespace P4475.Lib

variable {σ α ρ : Type}

/-- A machine: one initial state, and a partial step that answers an action. -/
structure Machine (σ α ρ : Type) where
  init : σ
  step : σ → α → Option (ρ × σ)

namespace Machine

variable (M : Machine σ α ρ)

/-- `M.History tr s`: the transcript `tr` (latest entry first) leads from the
initial state to `s`. -/
inductive History : List (α × ρ) → σ → Prop
  | init : History [] M.init
  | step {tr : List (α × ρ)} {s s' : σ} {a : α} {r : ρ} :
      History tr s → M.step s a = some (r, s') → History ((a, r) :: tr) s'

/-- At some step of the transcript `start` happened, and `C` has held ever since. -/
inductive Since (start : σ → α → σ → Prop) (C : σ → Prop) : List (α × ρ) → σ → Prop
  | here {tr : List (α × ρ)} {s s' : σ} {a : α} {r : ρ} : M.History tr s →
      M.step s a = some (r, s') → start s a s' → C s' → Since start C ((a, r) :: tr) s'
  | later {tr : List (α × ρ)} {s s' : σ} {a : α} {r : ρ} : Since start C tr s →
      M.step s a = some (r, s') → C s' → Since start C ((a, r) :: tr) s'

/-- Some transcript leads to `s`. -/
def Reachable (s : σ) : Prop := ∃ tr, M.History tr s

/-- The runs from `s` whose steps all meet `C`. -/
inductive RunBy (C : σ → α → Prop) (s : σ) : σ → Prop
  | refl : RunBy C s s
  | step {s₁ s₂ : σ} {a : α} {r : ρ} :
      RunBy C s s₁ → C s₁ a → M.step s₁ a = some (r, s₂) → RunBy C s s₂

/-- Run a list of actions (earliest first) from `s`, collecting the transcript. -/
def exec : σ → List (α × ρ) → List α → Option (List (α × ρ) × σ)
  | s, tr, [] => some (tr, s)
  | s, tr, a :: as =>
    match M.step s a with
    | none => none
    | some (r, s') => exec s' ((a, r) :: tr) as

variable {M}

/-- The invariant rule: what holds initially and survives each step from a
state with a history holds of every history. -/
theorem History.invariant {P : List (α × ρ) → σ → Prop} (h0 : P [] M.init)
    (hstep : ∀ {tr s s' a r}, M.History tr s → P tr s → M.step s a = some (r, s') →
      P ((a, r) :: tr) s') {tr : List (α × ρ)} {s : σ} (h : M.History tr s) : P tr s := by
  induction h with
  | init => exact h0
  | step hist hs ih => exact hstep hist ih hs

/-- What does not hold initially, and holds after a step only if it held before or
`start` happened, holds since `start`. -/
theorem History.since {start : σ → α → σ → Prop} {C : σ → Prop} (h0 : ¬ C M.init)
    (hstep : ∀ {tr s s' a r}, M.History tr s → M.step s a = some (r, s') → C s' →
      C s ∨ start s a s') {tr : List (α × ρ)} {s : σ} (h : M.History tr s) (hc : C s) :
    M.Since start C tr s := by
  induction h with
  | init => exact absurd hc h0
  | step hist hs ih =>
    rcases hstep hist hs hc with hbefore | hstart
    · exact .later (ih hbefore) hs hc
    · exact .here hist hs hstart hc

theorem History.reachable {tr : List (α × ρ)} {s : σ} (h : M.History tr s) :
    M.Reachable s := ⟨tr, h⟩

theorem Reachable.init : M.Reachable M.init := ⟨[], .init⟩

theorem Reachable.step {s s' : σ} {a : α} {r : ρ} (h : M.Reachable s)
    (hs : M.step s a = some (r, s')) : M.Reachable s' := by
  obtain ⟨tr, ht⟩ := h
  exact ⟨(a, r) :: tr, ht.step hs⟩

/-- The invariant rule for properties of the state alone. -/
theorem Reachable.invariant {P : σ → Prop} (h0 : P M.init)
    (hstep : ∀ {s s' a r}, P s → M.step s a = some (r, s') → P s')
    {s : σ} (h : M.Reachable s) : P s := by
  obtain ⟨tr, ht⟩ := h
  exact ht.invariant (P := fun _ s => P s) h0 (fun _ ih hs => hstep ih hs)

/-- The invariant rule for runs under a condition. -/
theorem RunBy.invariant {C : σ → α → Prop} {P : σ → Prop} {s s' : σ}
    (h : M.RunBy C s s') (h0 : P s)
    (hstep : ∀ {s₁ s₂ a r}, P s₁ → C s₁ a → M.step s₁ a = some (r, s₂) → P s₂) : P s' := by
  induction h with
  | refl => exact h0
  | step _ hc hs ih => exact hstep ih hc hs

/-- A run continued from where it stands. -/
theorem RunBy.trans {C : σ → α → Prop} {s₁ s₂ s₃ : σ} (h : M.RunBy C s₁ s₂)
    (h' : M.RunBy C s₂ s₃) : M.RunBy C s₁ s₃ := by
  induction h' with
  | refl => exact h
  | step _ hc hs ih => exact ih.step hc hs

/-- An executed list of actions is a history. -/
theorem history_of_exec (as : List α) {tr tr' : List (α × ρ)} {s s' : σ} :
    M.History tr s → M.exec s tr as = some (tr', s') → M.History tr' s' := by
  induction as generalizing tr s with
  | nil =>
    intro h he
    simp only [exec, Option.some.injEq, Prod.mk.injEq] at he
    rw [← he.1, ← he.2]
    exact h
  | cons a as ih =>
    intro h he
    unfold exec at he
    split at he
    next => exact absurd he (by simp)
    next r s₁ hs => exact ih (h.step hs) he

/-- Executed actions that meet a condition in every state are a run under it. -/
theorem runBy_of_exec {C : σ → α → Prop} (as : List α) (hC : ∀ a ∈ as, ∀ s, C s a)
    {tr tr' : List (α × ρ)} {s s' : σ} (h : M.exec s tr as = some (tr', s')) :
    M.RunBy C s s' := by
  induction as generalizing tr s with
  | nil =>
    obtain ⟨-, rfl⟩ := Prod.mk.inj (Option.some.inj h)
    exact .refl
  | cons a as ih =>
    unfold exec at h
    split at h
    next => exact absurd h (by simp)
    next r s₁ hs =>
      have hfirst : M.RunBy C s s₁ := .step .refl (hC a List.mem_cons_self s) hs
      exact hfirst.trans (ih (fun b hb => hC b (List.mem_cons_of_mem _ hb)) h)

end Machine

end P4475.Lib
