import P4475.Lib.Format

/-!
# Scanning and emitting whole inputs

The rules of `Lib/Format` for whole runs of a scanner or an emitter, and for loops that
hand a counter from one turn to the next. `Reads` and `Writes` are for symbols that are known
beforehand: what is read from them, and that they are what was written.
-/

namespace P4475.Lib

section Whole

variable {σ ε α β : Type}

/-- The next symbols; where too few are left, an error that may say where. -/
def takeElse (short : Cursor σ → ε) (length : Nat) : Fallible (Cursor σ) ε (List σ) := do
  let place ← get
  if place.remaining.length < length then throw (short place)
  else
    set (place.advance length)
    return place.remaining.take length

theorem takeElse_parses (short : Cursor σ → ε) (length : Nat) :
    Parses (takeElse short length) fun symbols w => w = symbols ∧ symbols.length = length := by
  intro c symbols c'
  unfold takeElse
  rw [yields_get_bind]
  by_cases hshort : c.remaining.length < length
  · rw [if_pos hshort]
    refine iff_of_false yields_throw ?_
    intro ⟨w, ⟨hw, hlen⟩, hprefix, _⟩
    have hle := hprefix.length_le
    rw [hw] at hle
    omega
  · rw [if_neg hshort, yields_set_bind, yields_pure]
    have hcount : (c.remaining.take length).length = length := by
      rw [List.length_take]
      omega
    constructor
    · intro ⟨hsymbols, hplace⟩
      subst hsymbols
      exact ⟨_, ⟨rfl, hcount⟩, List.take_prefix _ _, by rw [hcount, hplace]⟩
    · intro ⟨w, ⟨hw, hlen⟩, hprefix, hplace⟩
      subst hw hlen
      exact ⟨List.prefix_iff_eq_take.mp hprefix, hplace⟩

/-- What a scanner makes of a list of symbols. -/
def scan (p : Fallible (Cursor σ) ε α) (input : List σ) : Except ε α := (p.run.run ⟨input, 0⟩).1

theorem scan_ok {p : Fallible (Cursor σ) ε α} {input : List σ} {a : α} :
    scan p input = .ok a ↔ ∃ c, Yields p ⟨input, 0⟩ a c := by
  constructor
  · intro h
    exact ⟨_, Prod.ext h rfl⟩
  · intro ⟨c, h⟩
    exact congrArg Prod.fst h

/-- A scanner that follows a format and then finds nothing left. -/
theorem Parses.scan_whole {p : Fallible (Cursor σ) ε α} {F : Format σ α} (h : Parses p F)
    (trailing : Nat → ε) (f : α → β) {input : List σ} {b : β} :
    scan (do
      let a ← p
      let place ← get
      if place.remaining.length ≠ 0 then throw (trailing place.remaining.length)
      else return f a) input = .ok b ↔ ∃ a, F a input ∧ b = f a := by
  have hstart : (⟨input, 0⟩ : Cursor σ).remaining = input := rfl
  rw [scan_ok]
  constructor
  · intro ⟨c, hc⟩
    obtain ⟨a, c', ha, hrest⟩ := yields_bind.mp hc
    obtain ⟨w, hw, ⟨rest, hinput⟩, hplace⟩ := (h _ _ _).mp ha
    rw [yields_get_bind] at hrest
    split at hrest
    next => exact absurd hrest yields_throw
    next hempty =>
      have hrem : c'.remaining = rest := by
        rw [hplace]
        exact Cursor.remaining_of_append hinput.symm
      rw [hrem, not_not] at hempty
      rw [List.length_eq_zero_iff.mp hempty, List.append_nil, hstart] at hinput
      exact ⟨a, hinput ▸ hw, (yields_pure.mp hrest).1⟩
  · intro ⟨a, ha, hb⟩
    have hinput : (⟨input, 0⟩ : Cursor σ).remaining = input ++ [] := (List.append_nil input).symm
    obtain ⟨hread, hrem⟩ := h.of_emitted ha hinput
    refine ⟨(⟨input, 0⟩ : Cursor σ).advance input.length, yields_bind.mpr ⟨a, _, hread, ?_⟩⟩
    rw [yields_get_bind, hrem, if_neg (by simp), yields_pure]
    exact ⟨hb, rfl⟩

/-- What an emitter makes from nothing. -/
def emit (q : Fallible (List σ) ε α) : Except ε (List σ) :=
  let result : Except ε α × List σ := q.run.run []
  result.1.map fun _ => result.2

theorem emit_ok {q : Fallible (List σ) ε α} {out : List σ} :
    emit q = .ok out ↔ ∃ a, Yields q [] a out := by
  unfold emit Yields
  rcases (q.run.run [] : Except ε α × List σ) with ⟨e | a, made⟩
  · refine iff_of_false ?_ ?_
    · intro h
      cases h
    · intro ⟨a, h⟩
      cases h
  · constructor
    · intro h
      exact ⟨a, congrArg (Prod.mk (Except.ok a)) (Except.ok.inj h)⟩
    · intro ⟨b, h⟩
      exact congrArg Except.ok (congrArg Prod.snd h)

theorem Emits.emit_ok {q : Fallible (List σ) ε α} {F : Format σ α} (h : Emits q F)
    {out : List σ} : emit q = .ok out ↔ ∃ a, F a out := by
  rw [Lib.emit_ok]
  refine exists_congr fun a => ?_
  rw [h]
  constructor
  · intro ⟨w, hw, hout⟩
    exact hout ▸ hw
  · intro hw
    exact ⟨out, hw, rfl⟩

end Whole

/-! ## Known inputs -/

section Reads

variable {σ ε α β : Type} {p : Fallible (Cursor σ) ε α} {input rest : List σ} {a : α} {b : β}

/-- From this input the scanner makes `a` and leaves the rest. -/
def Reads (p : Fallible (Cursor σ) ε α) (input : List σ) (a : α) (rest : List σ) : Prop :=
  ∀ c : Cursor σ, c.remaining = input → ∃ c', Yields p c a c' ∧ c'.remaining = rest

theorem Parses.reads {F : Format σ α} (h : Parses p F) {w : List σ} (hw : F a w)
    (rest : List σ) : Reads p (w ++ rest) a rest := by
  intro c hc
  exact ⟨_, h.of_emitted hw hc⟩

theorem reads_pure (a : α) (input : List σ) :
    Reads (pure a : Fallible (Cursor σ) ε α) input a input := by
  intro c hc
  exact ⟨c, yields_pure.mpr ⟨rfl, rfl⟩, hc⟩

theorem Reads.bind {f : α → Fallible (Cursor σ) ε β} {between : List σ}
    (hp : Reads p input a between) (hf : Reads (f a) between b rest) :
    Reads (p >>= f) input b rest := by
  intro c hc
  obtain ⟨c', hfirst, hbetween⟩ := hp c hc
  obtain ⟨c'', hsecond, hrest⟩ := hf c' hbetween
  exact ⟨c'', yields_bind.mpr ⟨a, c', hfirst, hsecond⟩, hrest⟩

/-- A scanner that looks at its place first. -/
theorem reads_get_bind {f : Cursor σ → Fallible (Cursor σ) ε β}
    (h : ∀ c : Cursor σ, c.remaining = input → Reads (f c) input b rest) :
    Reads (get >>= f) input b rest := by
  intro c hc
  obtain ⟨c', hread, hrest⟩ := h c hc c hc
  exact ⟨c', yields_get_bind.mpr hread, hrest⟩

theorem reads_liftResult {result : Except ε α} (h : result = .ok a) (input : List σ) :
    Reads (liftResult result : Fallible (Cursor σ) ε α) input a input := by
  intro c hc
  exact ⟨c, yields_liftResult.mpr ⟨h, rfl⟩, hc⟩

theorem takeElse_front (short : Cursor σ → ε) {symbols : List σ} {length : Nat}
    (h : symbols.length = length) (rest : List σ) :
    Reads (takeElse short length) (symbols ++ rest) symbols rest :=
  (takeElse_parses short length).reads ⟨rfl, h⟩ rest

/-- Everything that is left. -/
theorem takeElse_reads (short : Cursor σ → ε) (input : List σ) :
    Reads (takeElse short input.length) input input [] := by
  have hread := (takeElse_parses short input.length).reads ⟨rfl, rfl⟩ []
  rw [List.append_nil] at hread
  exact hread

theorem Reads.scan (h : Reads p input a rest) : Lib.scan p input = .ok a := by
  obtain ⟨c, hc, _⟩ := h ⟨input, 0⟩ rfl
  exact scan_ok.mpr ⟨c, hc⟩

end Reads

/-! ## Results and appended symbols -/

section Results

variable {σ τ ε α β : Type} {P : α → Prop} {Q : β → Prop}

/-- Whatever the computation returns has the property. -/
def Ensures (p : Fallible τ ε α) (P : α → Prop) : Prop := ∀ s a s', Yields p s a s' → P a

/-- Whatever the emitter returns has the property, and then it has appended these symbols. -/
def Writes (q : Fallible (List σ) ε α) (P : α → Prop) (symbols : List σ) : Prop :=
  ∀ out a out', Yields q out a out' → P a ∧ out' = out ++ symbols

theorem ensures_true (p : Fallible τ ε α) : Ensures p fun _ => True := fun _ _ _ _ => trivial

theorem ensures_pure {a : α} (h : P a) : Ensures (pure a : Fallible τ ε α) P := by
  intro s b s' hy
  rw [(yields_pure.mp hy).1]
  exact h

theorem Ensures.bind {p : Fallible τ ε α} {f : α → Fallible τ ε β} (hp : Ensures p P)
    (hf : ∀ a, P a → Ensures (f a) Q) : Ensures (p >>= f) Q := by
  intro s b s'' hy
  obtain ⟨a, s', ha, hb⟩ := yields_bind.mp hy
  exact hf a (hp s a s' ha) s' b s'' hb

theorem Ensures.unless {c : Prop} [Decidable c] {e : ε} {p : Fallible τ ε α}
    (h : ¬ c → Ensures p P) : Ensures (if c then throw e else p) P := by
  intro s a s' hy
  by_cases hc : c
  · rw [if_pos hc] at hy
    exact absurd hy yields_throw
  · rw [if_neg hc] at hy
    exact h hc s a s' hy

theorem Ensures.scan {p : Fallible (Cursor σ) ε α} (h : Ensures p P) {input : List σ} {a : α}
    (ha : scan p input = .ok a) : P a := by
  obtain ⟨c, hc⟩ := scan_ok.mp ha
  exact h _ a c hc

theorem Writes.mono {q : Fallible (List σ) ε α} {P' : α → Prop} {symbols : List σ}
    (h : Writes q P symbols) (hP : ∀ a, P a → P' a) : Writes q P' symbols := by
  intro out a out' hy
  obtain ⟨ha, hout⟩ := h out a out' hy
  exact ⟨hP a ha, hout⟩

theorem writes_pure (a : α) : Writes (pure a : Fallible (List σ) ε α) (fun b => b = a) [] := by
  intro out b out' hy
  obtain ⟨hb, hout⟩ := yields_pure.mp hy
  exact ⟨hb, by rw [hout, List.append_nil]⟩

theorem writes_liftResult (result : Except ε α) :
    Writes (liftResult result : Fallible (List σ) ε α) (fun a => result = .ok a) [] := by
  intro out a out' hy
  obtain ⟨ha, hout⟩ := yields_liftResult.mp hy
  exact ⟨ha, by rw [hout, List.append_nil]⟩

theorem Writes.bind {q : Fallible (List σ) ε α} {f : α → Fallible (List σ) ε β}
    {first second : List σ} (hq : Writes q P first) (hf : ∀ a, P a → Writes (f a) Q second) :
    Writes (q >>= f) Q (first ++ second) := by
  intro out b out'' hy
  obtain ⟨a, out', ha, hb⟩ := yields_bind.mp hy
  obtain ⟨hP, hout'⟩ := hq out a out' ha
  obtain ⟨hQ, hout''⟩ := hf a hP out' b out'' hb
  exact ⟨hQ, by rw [hout'', hout', List.append_assoc]⟩

theorem Writes.unless {c : Prop} [Decidable c] {e : ε} {q : Fallible (List σ) ε α}
    {symbols : List σ} (h : ¬ c → Writes q P symbols) :
    Writes (if c then throw e else q) P symbols := by
  intro out a out' hy
  by_cases hc : c
  · rw [if_pos hc] at hy
    exact absurd hy yields_throw
  · rw [if_neg hc] at hy
    exact h hc out a out' hy

theorem Writes.forM {ι : Type} {q : ι → Fallible (List σ) ε PUnit} {R : ι → Prop}
    {symbols : ι → List σ} (h : ∀ i, Writes (q i) (fun _ => R i) (symbols i)) (l : List ι) :
    Writes (l.forM q) (fun _ => ∀ i ∈ l, R i) (l.flatMap symbols) := by
  induction l with
  | nil =>
    exact (writes_pure PUnit.unit).mono fun _ _ i hi => absurd hi List.not_mem_nil
  | cons i rest ih =>
    rw [List.flatMap_cons]
    refine (h i).bind fun _ hi => ih.mono fun _ hrest => ?_
    exact List.forall_mem_cons.mpr ⟨hi, hrest⟩

theorem Writes.emit {q : Fallible (List σ) ε α} {symbols out : List σ} (h : Writes q P symbols)
    (hout : emit q = .ok out) : out = symbols ∧ ∃ a, P a := by
  obtain ⟨a, ha⟩ := Lib.emit_ok.mp hout
  obtain ⟨hP, hsymbols⟩ := h [] a out ha
  exact ⟨hsymbols, a, hP⟩

end Results

/-! ## Reading back

`ReadsBack p q f`: whatever the emitter `q` appends when it returns `b`, the scanner `p` reads
as `f b`, and nothing beyond it. The rules follow the two side by side.
-/

section ReadsBack

variable {σ ε ε' α α' β β' : Type} {p : Fallible (Cursor σ) ε α} {q : Fallible (List σ) ε' β}
  {f : β → α}

def ReadsBack (p : Fallible (Cursor σ) ε α) (q : Fallible (List σ) ε' β) (f : β → α) : Prop :=
  ∀ out b out', Yields q out b out' →
    ∃ symbols, out' = out ++ symbols ∧ ∀ rest, Reads p (symbols ++ rest) (f b) rest

theorem Writes.readsBack {P : β → Prop} {symbols : List σ} (h : Writes q P symbols)
    (hread : ∀ b, P b → ∀ rest, Reads p (symbols ++ rest) (f b) rest) : ReadsBack p q f := by
  intro out b out' hy
  obtain ⟨hb, hout⟩ := h out b out' hy
  exact ⟨symbols, hout, hread b hb⟩

theorem readsBack_pure (f : β → α) (b : β) :
    ReadsBack (pure (f b) : Fallible (Cursor σ) ε α) (pure b : Fallible (List σ) ε' β) f := by
  refine (writes_pure b).readsBack fun b' hb rest => ?_
  rw [hb]
  exact reads_pure (f b) rest

theorem ReadsBack.bind {p' : α → Fallible (Cursor σ) ε α'} {q' : β → Fallible (List σ) ε' β'}
    {g : β' → α'} (h : ReadsBack p q f) (h' : ∀ b, ReadsBack (p' (f b)) (q' b) g) :
    ReadsBack (p >>= p') (q >>= q') g := by
  intro out b' out'' hy
  obtain ⟨b, out', hfirst, hsecond⟩ := yields_bind.mp hy
  obtain ⟨u, hu, hreadu⟩ := h out b out' hfirst
  obtain ⟨v, hv, hreadv⟩ := h' b out' b' out'' hsecond
  refine ⟨u ++ v, by rw [hv, hu, List.append_assoc], fun rest => ?_⟩
  rw [List.append_assoc]
  exact (hreadu (v ++ rest)).bind (hreadv rest)

/-- The scanner makes something of what it has read. -/
theorem ReadsBack.map (h : ReadsBack p q f) (g : α → α') :
    ReadsBack (p >>= fun a => pure (g a)) q fun b => g (f b) := by
  intro out b out' hy
  obtain ⟨symbols, hout, hread⟩ := h out b out' hy
  exact ⟨symbols, hout, fun rest => (hread rest).bind (reads_pure (g (f b)) rest)⟩

/-- The emitter checks something first. -/
theorem ReadsBack.after {γ : Type} {check : Fallible (List σ) ε' γ} {P : γ → Prop}
    {q' : γ → Fallible (List σ) ε' β} (hcheck : Writes check P [])
    (h : ∀ c, P c → ReadsBack p (q' c) f) : ReadsBack p (check >>= q') f := by
  intro out b out'' hy
  obtain ⟨c, out', hfirst, hsecond⟩ := yields_bind.mp hy
  obtain ⟨hc, hout⟩ := hcheck out c out' hfirst
  rw [List.append_nil] at hout
  subst hout
  exact h c hc _ b out'' hsecond

theorem ReadsBack.unless {c : Prop} [Decidable c] {e : ε'} (h : ¬ c → ReadsBack p q f) :
    ReadsBack p (if c then throw e else q) f := by
  intro out b out' hy
  by_cases hc : c
  · rw [if_pos hc] at hy
    exact absurd hy yields_throw
  · rw [if_neg hc] at hy
    exact h hc out b out' hy

theorem ReadsBack.repeatM {ι : Type} {p : Fallible (Cursor σ) ε ι}
    {q : ι → Fallible (List σ) ε' PUnit} (h : ∀ i, ReadsBack p (q i) fun _ => i) (l : List ι) :
    ReadsBack (repeatM p l.length) (l.forM q) fun _ => l := by
  induction l with
  | nil => exact readsBack_pure (fun _ => []) PUnit.unit
  | cons i rest ih => exact (h i).bind fun _ => ih.map (i :: ·)

end ReadsBack

/-! ## Counters -/

section Counting

variable {σ ε α κ : Type}

/-- Do it a number of times, with a counter handed from one turn to the next. -/
def repeatCounting {τ : Type} (p : κ → Fallible τ ε (α × κ)) :
    (count : Nat) → κ → Fallible τ ε (List α × κ)
  | 0, counter => pure ([], counter)
  | count + 1, counter => do
    let first ← p counter
    let rest ← repeatCounting p count first.2
    return (first.1 :: rest.1, rest.2)

/-- One value after the other, with the counter before and after each. -/
def Format.chain (F : κ → κ → Format σ α) : (before after : κ) → Format σ (List α)
  | before, after, [], w => after = before ∧ w = []
  | before, after, a :: rest, w =>
    ∃ between u v, F before between a u ∧ chain F between after rest v ∧ w = u ++ v

theorem Parses.repeatCounting {p : κ → Fallible (Cursor σ) ε (α × κ)}
    {F : κ → κ → Format σ α} (h : ∀ before, Parses (p before) fun r w => F before r.2 r.1 w)
    (count : Nat) (before : κ) : Parses (repeatCounting p count before) fun r w =>
      r.1.length = count ∧ Format.chain F before r.2 r.1 w := by
  induction count generalizing before with
  | zero =>
    refine (parses_pure ([], before)).congr fun r w => ?_
    obtain ⟨values, after⟩ := r
    constructor
    · intro ⟨hr, hw⟩
      cases hr
      exact ⟨rfl, rfl, hw⟩
    · intro ⟨hlen, hw⟩
      cases List.length_eq_zero_iff.mp hlen
      exact ⟨congrArg (Prod.mk []) hw.1, hw.2⟩
  | succ count ih =>
    refine ((h before).bind fun first _ _ => (ih first.2).bind fun rest _ _ =>
      parses_pure (first.1 :: rest.1, rest.2)).congr fun r w => ?_
    obtain ⟨values, after⟩ := r
    constructor
    · intro ⟨first, u, v, hfirst, ⟨rest, v', _, ⟨hlen, hrest⟩, ⟨hr, hnil⟩, hv⟩, hw⟩
      cases hr
      refine ⟨congrArg (· + 1) hlen, first.2, u, v', hfirst, hrest, ?_⟩
      rw [hw, hv, hnil, List.append_nil]
    · intro ⟨hlen, hw⟩
      cases values with
      | nil => exact absurd hlen (by simp)
      | cons first rest =>
        obtain ⟨between, u, v, hfirst, hrest, hsplit⟩ := hw
        exact ⟨(first, between), u, v, hfirst, ⟨(rest, after), v, [], ⟨Nat.succ.inj hlen, hrest⟩,
          ⟨rfl, rfl⟩, (List.append_nil v).symm⟩, hsplit⟩

theorem Ensures.repeatCounting {τ : Type} {p : κ → Fallible τ ε (α × κ)} {P : α → Prop}
    (h : ∀ counter, Ensures (p counter) fun r => P r.1) (count : Nat) (counter : κ) :
    Ensures (repeatCounting p count counter) fun r => ∀ a ∈ r.1, P a := by
  induction count generalizing counter with
  | zero => exact ensures_pure fun a ha => absurd ha List.not_mem_nil
  | succ count ih =>
    refine (h counter).bind fun first hfirst => (ih first.2).bind fun rest hrest => ?_
    exact ensures_pure (List.forall_mem_cons.mpr ⟨hfirst, hrest⟩)

end Counting

section Repeating

variable {σ ε α : Type}

end Repeating

end P4475.Lib
