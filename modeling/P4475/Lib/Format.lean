import Mathlib.Data.List.Forall2
import P4475.Lib.Fallible

/-!
# Formats, read and written

A scanner is a `Fallible` computation that moves a cursor through a list of symbols, an
emitter one that appends to a list. A `Format` says which symbols stand for which value;
`Parses` and `Emits` say that a scanner and an emitter follow one. Both are proved program by program with the rules below, and when a
scanner and an emitter follow the same format, each undoes the other.
-/

namespace P4475.Lib

/-! ## Formats -/

/-- The symbols that stand for a value. -/
abbrev Format (σ α : Type) := α → List σ → Prop

namespace Format

variable {σ α β : Type}

def ret (a : α) : Format σ α := fun b w => b = a ∧ w = []

def fail : Format σ α := fun _ _ => False

def bind (F : Format σ α) (G : α → Format σ β) : Format σ β := fun b w =>
  ∃ a u v, F a u ∧ G a b v ∧ w = u ++ v

/-- One value after the other. -/
def list (F : Format σ α) : Format σ (List α)
  | [], w => w = []
  | a :: rest, w => ∃ u v, F a u ∧ list F rest v ∧ w = u ++ v

end Format

/-- A place in a list of symbols. -/
structure Cursor (σ : Type) where
  bytes : List σ
  offset : Nat

namespace Cursor

variable {σ : Type}

def remaining (c : Cursor σ) : List σ := c.bytes.drop c.offset

def advance (c : Cursor σ) (count : Nat) : Cursor σ := { c with offset := c.offset + count }

@[simp] theorem advance_zero (c : Cursor σ) : c.advance 0 = c := rfl

theorem advance_advance (c : Cursor σ) (m n : Nat) :
    (c.advance m).advance n = c.advance (m + n) := by
  unfold advance
  rw [Nat.add_assoc]

theorem remaining_advance (c : Cursor σ) (count : Nat) :
    (c.advance count).remaining = c.remaining.drop count := by
  unfold remaining advance
  rw [List.drop_drop]

/-- What is left behind a prefix. -/
theorem remaining_of_append {c : Cursor σ} {w rest : List σ} (h : c.remaining = w ++ rest) :
    (c.advance w.length).remaining = rest := by
  rw [remaining_advance, h, List.drop_left]

end Cursor

section Follows

variable {σ ε ε' α β : Type}

/-- The scanner takes exactly the symbols of a format. -/
def Parses (p : Fallible (Cursor σ) ε α) (F : Format σ α) : Prop :=
  ∀ c a c', Yields p c a c' ↔ ∃ w, F a w ∧ w <+: c.remaining ∧ c' = c.advance w.length

/-- The emitter appends exactly the symbols of a format. -/
def Emits (p : Fallible (List σ) ε α) (F : Format σ α) : Prop :=
  ∀ out a out', Yields p out a out' ↔ ∃ w, F a w ∧ out' = out ++ w

theorem Parses.congr {p : Fallible (Cursor σ) ε α} {F G : Format σ α} (h : Parses p F)
    (hFG : ∀ a w, F a w ↔ G a w) : Parses p G := by
  intro c a c'
  rw [h c a c']
  simp only [hFG]

theorem Emits.congr {p : Fallible (List σ) ε α} {F G : Format σ α} (h : Emits p F)
    (hFG : ∀ a w, F a w ↔ G a w) : Emits p G := by
  intro out a out'
  rw [h out a out']
  simp only [hFG]

theorem parses_pure (a : α) : Parses (pure a : Fallible (Cursor σ) ε α) (.ret a) := by
  intro c b c'
  rw [yields_pure]
  constructor
  · rintro ⟨rfl, rfl⟩
    exact ⟨[], ⟨rfl, rfl⟩, List.nil_prefix, rfl⟩
  · rintro ⟨w, ⟨rfl, rfl⟩, -, rfl⟩
    exact ⟨rfl, rfl⟩

theorem emits_pure (a : α) : Emits (pure a : Fallible (List σ) ε α) (.ret a) := by
  intro out b out'
  rw [yields_pure]
  constructor
  · rintro ⟨rfl, rfl⟩
    exact ⟨[], ⟨rfl, rfl⟩, (List.append_nil _).symm⟩
  · rintro ⟨w, ⟨rfl, rfl⟩, rfl⟩
    exact ⟨rfl, List.append_nil _⟩

theorem parses_throw (e : ε) : Parses (throw e : Fallible (Cursor σ) ε α) .fail := by
  intro c a c'
  exact iff_of_false yields_throw fun ⟨_, h, _⟩ => h

theorem emits_throw (e : ε) : Emits (throw e : Fallible (List σ) ε α) .fail := by
  intro out a out'
  exact iff_of_false yields_throw fun ⟨_, h, _⟩ => h

/-- One scanner after the other; the second may rely on what the first has read. -/
theorem Parses.bind {p : Fallible (Cursor σ) ε α} {f : α → Fallible (Cursor σ) ε β}
    {F : Format σ α} {G : α → Format σ β} (hp : Parses p F)
    (hf : ∀ a w, F a w → Parses (f a) (G a)) : Parses (p >>= f) (F.bind G) := by
  intro c b c''
  rw [yields_bind]
  constructor
  · rintro ⟨a, c', ha, hb⟩
    obtain ⟨u, hu, ⟨rest, hrest⟩, rfl⟩ := (hp c a c').mp ha
    obtain ⟨v, hv, hprefix, rfl⟩ := (hf a u hu _ b c'').mp hb
    refine ⟨u ++ v, ⟨a, u, v, hu, hv, rfl⟩, ?_, ?_⟩
    · rw [Cursor.remaining_of_append hrest.symm] at hprefix
      rw [← hrest]
      exact (List.prefix_append_right_inj u).mpr hprefix
    · rw [List.length_append, Cursor.advance_advance]
  · rintro ⟨w, ⟨a, u, v, hu, hv, rfl⟩, ⟨rest, hrest⟩, rfl⟩
    have hrest' : c.remaining = u ++ (v ++ rest) := by rw [← hrest, List.append_assoc]
    refine ⟨a, c.advance u.length, (hp c a _).mpr ⟨u, hu, ⟨v ++ rest, hrest'.symm⟩, rfl⟩,
      (hf a u hu _ b _).mpr ⟨v, hv, ?_, ?_⟩⟩
    · rw [Cursor.remaining_of_append hrest']
      exact List.prefix_append v rest
    · rw [List.length_append, Cursor.advance_advance]

theorem Emits.bind {p : Fallible (List σ) ε α} {f : α → Fallible (List σ) ε β}
    {F : Format σ α} {G : α → Format σ β} (hp : Emits p F)
    (hf : ∀ a w, F a w → Emits (f a) (G a)) : Emits (p >>= f) (F.bind G) := by
  intro out b out''
  rw [yields_bind]
  constructor
  · rintro ⟨a, out', ha, hb⟩
    obtain ⟨u, hu, rfl⟩ := (hp out a out').mp ha
    obtain ⟨v, hv, rfl⟩ := (hf a u hu _ b out'').mp hb
    exact ⟨u ++ v, ⟨a, u, v, hu, hv, rfl⟩, List.append_assoc ..⟩
  · rintro ⟨w, ⟨a, u, v, hu, hv, rfl⟩, rfl⟩
    exact ⟨a, out ++ u, (hp out a _).mpr ⟨u, hu, rfl⟩,
      (hf a u hu _ b _).mpr ⟨v, hv, (List.append_assoc ..).symm⟩⟩

theorem Parses.orElseThrow {p : Fallible (Cursor σ) ε α} {F : Format σ α} (h : Parses p F)
    (f : ε → ε') : Parses (orElseThrow f p) F := fun c a c' => by
  rw [yields_orElseThrow, h c a c']

theorem Emits.orElseThrow {p : Fallible (List σ) ε α} {F : Format σ α} (h : Emits p F)
    (f : ε → ε') : Emits (orElseThrow f p) F := fun out a out' => by
  rw [yields_orElseThrow, h out a out']

theorem parses_liftResult (result : Except ε α) :
    Parses (liftResult result : Fallible (Cursor σ) ε α) fun a w => result = .ok a ∧ w = [] := by
  intro c a c'
  rw [yields_liftResult]
  constructor
  · rintro ⟨h, rfl⟩
    exact ⟨[], ⟨h, rfl⟩, List.nil_prefix, rfl⟩
  · rintro ⟨w, ⟨h, rfl⟩, -, rfl⟩
    exact ⟨h, rfl⟩

theorem emits_liftResult (result : Except ε α) :
    Emits (liftResult result : Fallible (List σ) ε α) fun a w => result = .ok a ∧ w = [] := by
  intro out a out'
  rw [yields_liftResult]
  constructor
  · rintro ⟨h, rfl⟩
    exact ⟨[], ⟨h, rfl⟩, (List.append_nil _).symm⟩
  · rintro ⟨w, ⟨h, rfl⟩, rfl⟩
    exact ⟨h, List.append_nil _⟩

/-- A scanner that refuses on a condition. -/
theorem Parses.guard {p : Fallible (Cursor σ) ε α} {F : Format σ α} {c : Prop} [Decidable c]
    (e : ε) (h : ¬ c → Parses p F) :
    Parses (if c then throw e else p) fun a w => ¬ c ∧ F a w := by
  by_cases hc : c
  · rw [if_pos hc]
    exact (parses_throw e).congr fun a w => iff_of_false id fun h => h.1 hc
  · rw [if_neg hc]
    exact (h hc).congr fun a w => (and_iff_right hc).symm

theorem Emits.guard {p : Fallible (List σ) ε α} {F : Format σ α} {c : Prop} [Decidable c]
    (e : ε) (h : ¬ c → Emits p F) :
    Emits (if c then throw e else p) fun a w => ¬ c ∧ F a w := by
  by_cases hc : c
  · rw [if_pos hc]
    exact (emits_throw e).congr fun a w => iff_of_false id fun h => h.1 hc
  · rw [if_neg hc]
    exact (h hc).congr fun a w => (and_iff_right hc).symm

theorem Parses.repeatM {p : Fallible (Cursor σ) ε α} {F : Format σ α} (h : Parses p F)
    (count : Nat) : Parses (repeatM p count) fun l w => l.length = count ∧ F.list l w := by
  induction count with
  | zero =>
    refine (parses_pure []).congr fun l w => ?_
    constructor
    · rintro ⟨rfl, rfl⟩
      exact ⟨rfl, rfl⟩
    · rintro ⟨hl, hw⟩
      cases List.length_eq_zero_iff.mp hl
      exact ⟨rfl, hw⟩
  | succ count ih =>
    refine (h.bind fun a u _ => ih.bind fun rest v _ => parses_pure (a :: rest)).congr
      fun l w => ?_
    constructor
    · rintro ⟨a, u, v, ha, ⟨rest, v', _, ⟨hl, hrest⟩, ⟨rfl, rfl⟩, rfl⟩, rfl⟩
      exact ⟨congrArg (· + 1) hl, u, v', ha, hrest, by rw [List.append_nil]⟩
    · rintro ⟨hl, hw⟩
      cases l with
      | nil => exact absurd hl (by simp)
      | cons a rest =>
        obtain ⟨u, v, ha, hrest, rfl⟩ := hw
        exact ⟨a, u, v, ha, ⟨rest, v, [], ⟨Nat.succ.inj hl, hrest⟩, ⟨rfl, rfl⟩,
          (List.append_nil v).symm⟩, rfl⟩

theorem Emits.forM {q : α → Fallible (List σ) ε PUnit} {F : Format σ α}
    (h : ∀ a, Emits (q a) fun _ w => F a w) (l : List α) :
    Emits (l.forM q) fun _ w => F.list l w := by
  induction l with
  | nil => exact (emits_pure PUnit.unit).congr fun _ w => and_iff_right rfl
  | cons a rest ih =>
    refine ((h a).bind fun _ _ _ => ih).congr fun _ w => ?_
    constructor
    · rintro ⟨-, u, v, ha, hrest, rfl⟩
      exact ⟨u, v, ha, hrest, rfl⟩
    · rintro ⟨u, v, ha, hrest, rfl⟩
      exact ⟨⟨⟩, u, v, ha, hrest, rfl⟩

/-- What an emitter of the format has appended, the scanner reads, and stops there. -/
theorem Parses.of_emitted {p : Fallible (Cursor σ) ε α} {F : Format σ α} (h : Parses p F)
    {a : α} {w rest : List σ} {c : Cursor σ} (hw : F a w) (hc : c.remaining = w ++ rest) :
    Yields p c a (c.advance w.length) ∧ (c.advance w.length).remaining = rest :=
  ⟨(h c a _).mpr ⟨w, hw, ⟨rest, hc.symm⟩, rfl⟩, Cursor.remaining_of_append hc⟩

end Follows

end P4475.Lib
