import Mathlib.Data.Nat.ModEq
import P4475.Lib.Machine

/-!
# Plan, then commit

Optimistic updates of one store. A caller asks for a plan, keeps the mutation it
got, and hands it back later; the store takes a mutation only while its version
is the one the mutation was planned on. Versions count the effective commits,
modulo `W` (`W = 0` for a counter that never wraps).

`Planner.machine` is the machine of every order of plans and commits, a plan
being kept for ever and handed in as often as its holder likes. `Held.origin`
and `Held.stamp` are bookkeeping: the store a plan was made on, and how many
effective commits there had been. The rules say that a commit which is taken is
one whose plan was made on this very store, so an invariant of the store only
ever meets plans of the store it is about.
-/

namespace P4475.Lib

variable {σ ω ρ μ ε : Type}

/-- A store with planned changes: an operation is answered by a plan, which may
hold a mutation, and a mutation is committed or refused. -/
structure Planner (σ ω ρ μ ε : Type) where
  init : σ
  plan : σ → ω → ρ
  mutation : ρ → Option μ
  commit : σ → μ → Except ε σ
  effective : μ → Bool

/-- A mutation in its caller's hands. -/
structure Held (σ ω μ : Type) where
  operation : ω
  mutation : μ
  origin : σ
  stamp : Nat

structure Desk (σ ω μ : Type) where
  store : σ
  held : List (Held σ ω μ)
  commits : Nat

inductive DeskAction (ω : Type)
  | plan (operation : ω)
  | commit (index : Nat)

inductive DeskAnswer (ρ ε : Type)
  | planned (answer : ρ)
  | committed
  | refused (error : ε)

namespace Planner

variable (P : Planner σ ω ρ μ ε)

/-- A plan leaves the store alone; a commit keeps the plan, so that it can be
handed in again. -/
def step (d : Desk σ ω μ) : DeskAction ω → Option (DeskAnswer ρ ε × Desk σ ω μ)
  | .plan o =>
    match P.mutation (P.plan d.store o) with
    | none => some (.planned (P.plan d.store o), d)
    | some m =>
      some (.planned (P.plan d.store o),
        { d with held := d.held ++ [⟨o, m, d.store, d.commits⟩] })
  | .commit i =>
    match d.held[i]? with
    | none => none
    | some h =>
      match P.commit d.store h.mutation with
      | .error e => some (.refused e, d)
      | .ok s =>
        some (.committed,
          { d with
            store := s
            commits := if P.effective h.mutation then d.commits + 1 else d.commits })

def machine : Machine (Desk σ ω μ) (DeskAction ω) (DeskAnswer ρ ε) where
  init := ⟨P.init, [], 0⟩
  step := P.step

/-- What a revision check promises. -/
structure Versioned (W : Nat) where
  version : σ → Nat
  base : μ → Nat
  version_init : version P.init = 0
  plan_base : ∀ {s o m}, P.mutation (P.plan s o) = some m → base m = version s
  commit_base : ∀ {s m s'}, P.commit s m = .ok s' → base m = version s
  commit_effective : ∀ {s₀ o s m s'}, P.mutation (P.plan s₀ o) = some m →
    P.commit s m = .ok s' → P.effective m = true → version s' = (version s + 1) % W
  commit_quiet : ∀ {s₀ o s m s'}, P.mutation (P.plan s₀ o) = some m →
    P.commit s m = .ok s' → P.effective m = false → s' = s

/-- The plan handed in is younger than one turn of the version counter. -/
def Young (W : Nat) (d : Desk σ ω μ) (a : DeskAction ω) : Prop :=
  ∀ i h, a = .commit i → d.held[i]? = some h → W = 0 ∨ d.commits < h.stamp + W

variable {P} {W : Nat}

/-- What holds of a desk in every reachable state. -/
structure Versioned.Ok (V : P.Versioned W) (d : Desk σ ω μ) : Prop where
  version : V.version d.store = d.commits % W
  stamped : ∀ h ∈ d.held, h.stamp ≤ d.commits
  planned : ∀ h ∈ d.held, P.mutation (P.plan h.origin h.operation) = some h.mutation
  base : ∀ h ∈ d.held, V.base h.mutation = h.stamp % W
  fresh : ∀ h ∈ d.held, h.stamp = d.commits → h.origin = d.store

/-- The three things a step can do. -/
theorem step_cases {d d' : Desk σ ω μ} {a : DeskAction ω} {r : DeskAnswer ρ ε}
    (hs : P.step d a = some (r, d')) :
    d' = d ∨
    (∃ o m, a = .plan o ∧ P.mutation (P.plan d.store o) = some m ∧
      d' = { d with held := d.held ++ [⟨o, m, d.store, d.commits⟩] }) ∨
    (∃ i h s, a = .commit i ∧ d.held[i]? = some h ∧ P.commit d.store h.mutation = .ok s ∧
      d' = { d with
        store := s
        commits := if P.effective h.mutation then d.commits + 1 else d.commits }) := by
  cases a with
  | plan o =>
    unfold step at hs
    dsimp only at hs
    split at hs
    next => simp only [Option.some.injEq, Prod.mk.injEq] at hs; exact Or.inl hs.2.symm
    next m hm =>
      simp only [Option.some.injEq, Prod.mk.injEq] at hs
      exact Or.inr (Or.inl ⟨o, m, rfl, hm, hs.2.symm⟩)
  | commit i =>
    unfold step at hs
    dsimp only at hs
    split at hs
    next => exact absurd hs (by simp)
    next h hh =>
      split at hs
      next => simp only [Option.some.injEq, Prod.mk.injEq] at hs; exact Or.inl hs.2.symm
      next s hc =>
        simp only [Option.some.injEq, Prod.mk.injEq] at hs
        exact Or.inr (Or.inr ⟨i, h, s, rfl, hh, hc, hs.2.symm⟩)

theorem step_commits_le {d d' : Desk σ ω μ} {a : DeskAction ω} {r : DeskAnswer ρ ε}
    (hs : P.machine.step d a = some (r, d')) : d.commits ≤ d'.commits := by
  rcases step_cases hs with rfl | ⟨o, m, -, -, rfl⟩ | ⟨i, h, s, -, -, -, rfl⟩
  · exact Nat.le_refl _
  · exact Nat.le_refl _
  · show d.commits ≤ if P.effective h.mutation then d.commits + 1 else d.commits
    split
    next => exact Nat.le_succ _
    next => exact Nat.le_refl _

/-- With fewer than `W` commits in all, every plan handed in is young. -/
theorem young_of_exec (as : List (DeskAction ω)) {tr tr' : List (DeskAction ω × DeskAnswer ρ ε)}
    {d d' : Desk σ ω μ} : P.machine.exec d tr as = some (tr', d') → d'.commits < W →
    d.commits ≤ d'.commits ∧ P.machine.RunBy (Young W) d d' := by
  induction as generalizing d tr with
  | nil =>
    intro he hlt
    simp only [Machine.exec, Option.some.injEq, Prod.mk.injEq] at he
    rw [← he.2]
    exact ⟨Nat.le_refl _, .refl⟩
  | cons a as ih =>
    intro he hlt
    unfold Machine.exec at he
    split at he
    next => exact absurd he (by simp)
    next r d₁ hs =>
      obtain ⟨hle, hrun⟩ := ih he hlt
      have hstep := step_commits_le hs
      have hyoung : Young W d a := by
        intro i h _ _
        omega
      exact ⟨Nat.le_trans hstep hle, (Machine.RunBy.refl.step hyoung hs).trans hrun⟩

namespace Versioned

variable {V : P.Versioned W}

theorem Ok.init : V.Ok P.machine.init := by
  refine ⟨?_, ?_, ?_, ?_, ?_⟩
  · show V.version P.init = 0 % W
    rw [V.version_init, Nat.zero_mod]
  all_goals intro h hm; exact absurd hm List.not_mem_nil

/-- A new plan is stamped with the version it was made on. -/
theorem Ok.plan {d : Desk σ ω μ} (hd : V.Ok d) {o : ω} {m : μ}
    (hm : P.mutation (P.plan d.store o) = some m) :
    V.Ok { d with held := d.held ++ [⟨o, m, d.store, d.commits⟩] } := by
  have hmem : ∀ h ∈ d.held ++ [⟨o, m, d.store, d.commits⟩], h ∈ d.held ∨
      h = ⟨o, m, d.store, d.commits⟩ := by
    intro h hh
    rwa [List.mem_append, List.mem_singleton] at hh
  refine ⟨hd.version, ?_, ?_, ?_, ?_⟩
  · intro h hh
    rcases hmem h hh with hold | rfl
    · exact hd.stamped h hold
    · exact Nat.le_refl _
  · intro h hh
    rcases hmem h hh with hold | rfl
    · exact hd.planned h hold
    · exact hm
  · intro h hh
    rcases hmem h hh with hold | rfl
    · exact hd.base h hold
    · exact (V.plan_base hm).trans hd.version
  · intro h hh
    rcases hmem h hh with hold | rfl
    · exact hd.fresh h hold
    · intro _
      rfl

/-- After an effective commit no plan in hand is fresh, after any other one the
store has not moved. -/
theorem Ok.commit {d : Desk σ ω μ} (hd : V.Ok d) {h : Held σ ω μ} (hh : h ∈ d.held) {s : σ}
    (hc : P.commit d.store h.mutation = .ok s) :
    V.Ok { d with
      store := s
      commits := if P.effective h.mutation then d.commits + 1 else d.commits } := by
  by_cases he : P.effective h.mutation = true
  · rw [if_pos he]
    refine ⟨?_, ?_, hd.planned, hd.base, ?_⟩
    · show V.version s = (d.commits + 1) % W
      rw [V.commit_effective (hd.planned h hh) hc he, hd.version, Nat.mod_add_mod]
    · intro h' hh'
      exact Nat.le_succ_of_le (hd.stamped h' hh')
    · intro h' hh' hstamp
      have hle := hd.stamped h' hh'
      have hlt : h'.stamp = d.commits + 1 := hstamp
      omega
  · rw [if_neg he]
    have hquiet : s = d.store :=
      V.commit_quiet (hd.planned h hh) hc (Bool.eq_false_iff.mpr he)
    rw [hquiet]
    exact hd

theorem Ok.step {d d' : Desk σ ω μ} {a : DeskAction ω} {r : DeskAnswer ρ ε} (hd : V.Ok d)
    (hs : P.machine.step d a = some (r, d')) : V.Ok d' := by
  rcases step_cases hs with rfl | ⟨o, m, -, hm, rfl⟩ | ⟨i, h, s, -, hh, hc, rfl⟩
  · exact hd
  · exact hd.plan hm
  · exact hd.commit (List.mem_of_getElem? hh) hc

theorem ok_of_reachable (V : P.Versioned W) {d : Desk σ ω μ} (h : P.machine.Reachable d) :
    V.Ok d :=
  h.invariant .init Ok.step

theorem ok_of_runBy (V : P.Versioned W) {C : Desk σ ω μ → DeskAction ω → Prop}
    {d d' : Desk σ ω μ} (h : P.machine.RunBy C d d') (hd : V.Ok d) : V.Ok d' :=
  h.invariant hd fun ih _ hs => Ok.step ih hs

/-- Two stamps less than one turn apart that read the same version are equal. -/
theorem stamp_eq {m n : Nat} (hle : m ≤ n) (hy : W = 0 ∨ n < m + W) (he : m % W = n % W) :
    m = n := by
  rcases hy with rfl | hlt
  · rwa [Nat.mod_zero, Nat.mod_zero] at he
  · have hdvd : W ∣ n - m := (Nat.modEq_iff_dvd' hle).mp he
    have hzero : n - m = 0 := Nat.eq_zero_of_dvd_of_lt hdvd (by omega)
    omega

/-- A young plan that is taken was made on the store that takes it. -/
theorem Ok.taken {d : Desk σ ω μ} (hd : V.Ok d) {h : Held σ ω μ} (hh : h ∈ d.held)
    (hy : W = 0 ∨ d.commits < h.stamp + W) {s : σ}
    (hc : P.commit d.store h.mutation = .ok s) :
    P.mutation (P.plan d.store h.operation) = some h.mutation := by
  have hbase : h.stamp % W = d.commits % W := by
    rw [← hd.base h hh, ← hd.version]
    exact V.commit_base hc
  have hnow : h.stamp = d.commits := stamp_eq (hd.stamped h hh) hy hbase
  have hfrom := hd.planned h hh
  rwa [hd.fresh h hh hnow] at hfrom

/-- A plan made before an effective commit, and less than one turn of the counter
ago, is refused. -/
theorem Ok.refused {d : Desk σ ω μ} (hd : V.Ok d) {h : Held σ ω μ} (hh : h ∈ d.held)
    (hold : h.stamp < d.commits) (hy : W = 0 ∨ d.commits < h.stamp + W) :
    ∃ e, P.commit d.store h.mutation = .error e := by
  cases hc : P.commit d.store h.mutation with
  | error e => exact ⟨e, rfl⟩
  | ok s =>
    have hbase : h.stamp % W = d.commits % W := by
      rw [← hd.base h hh, ← hd.version]
      exact V.commit_base hc
    have hnow := stamp_eq (hd.stamped h hh) hy hbase
    omega

/-- What a step does to the store: nothing, or the commit of a plan made on it. -/
theorem Ok.step_store {d d' : Desk σ ω μ} {a : DeskAction ω} {r : DeskAnswer ρ ε}
    (hd : V.Ok d) (hy : Young W d a) (hs : P.machine.step d a = some (r, d')) :
    d'.store = d.store ∨
    ∃ o m, P.mutation (P.plan d.store o) = some m ∧ P.commit d.store m = .ok d'.store := by
  rcases step_cases hs with rfl | ⟨o, m, -, -, rfl⟩ | ⟨i, h, s, ha, hh, hc, rfl⟩
  · exact Or.inl rfl
  · exact Or.inl rfl
  · exact Or.inr ⟨h.operation, h.mutation,
      hd.taken (List.mem_of_getElem? hh) (hy i h ha hh) hc, hc⟩

/-- The store rule: an invariant that survives the commit of a plan made on the
store survives every run of young commits. -/
theorem run_invariant (V : P.Versioned W) {I : σ → Prop}
    (hcommit : ∀ {s o m s'}, I s → P.mutation (P.plan s o) = some m →
      P.commit s m = .ok s' → I s')
    {d d' : Desk σ ω μ} (hd : V.Ok d) (h : P.machine.RunBy (Young W) d d')
    (h0 : I d.store) : I d'.store := by
  have hboth : V.Ok d' ∧ I d'.store := by
    refine h.invariant (P := fun d => V.Ok d ∧ I d.store) ⟨hd, h0⟩ ?_
    intro s₁ s₂ a r hi hy hs
    refine ⟨hi.1.step hs, ?_⟩
    rcases hi.1.step_store hy hs with he | ⟨o, m, hm, hc⟩
    · rw [he]
      exact hi.2
    · exact hcommit hi.2 hm hc
  exact hboth.2

end Versioned

end Planner

end P4475.Lib
