import P4475.World.Deliveries

/-!
# What a call of `deliver` does

A round takes a session out of the table or a batch off the list, which is the measure; who missed a
batch is not in the table any more, which is the invariant. Both hold whatever happens to the queues
between rounds, and `deliver` follows the rounds between which nothing does.
-/

namespace P4475

open Lib

variable {H Q P : Type}

/-! ## One round -/

namespace Delivering

variable (env : WorldEnv H Q P) (now : Instant)

/-- What a round can do. -/
inductive RoundCase (d : Delivering H) : Delivering H → Prop
  | done (hpending : d.pending = []) : RoundCase d { d with result := some (.ok ()) }
  | absent {delivery : OutboundDelivery} {rest : List OutboundDelivery}
      (hpending : d.pending = delivery :: rest)
      (hs : d.world.sessions.lookup delivery.1 = none) :
      RoundCase d { d with pending := rest, offers := d.offers ++ [delivery.offer false] }
  | sent {delivery : OutboundDelivery} {rest : List OutboundDelivery} {state : SessionState}
      (hpending : d.pending = delivery :: rest)
      (hs : d.world.sessions.lookup delivery.1 = some state) :
      RoundCase d { d with
        pending := rest
        world := d.world.send delivery
        offers := d.offers ++ [delivery.offer true] }
  | again {delivery : OutboundDelivery} {rest : List OutboundDelivery} {state : SessionState}
      (hpending : d.pending = delivery :: rest)
      (hs : d.world.sessions.lookup delivery.1 = some state) (hfailed : delivery.1 ∈ d.failed) :
      RoundCase d { d with pending := rest, offers := d.offers ++ [delivery.offer false] }
  | fails {delivery : OutboundDelivery} {rest : List OutboundDelivery} {state : SessionState}
      {pending : List OutboundDelivery} {world : World H}
      {log : List (Offer SessionId OutboundBatch)}
      {result : Option (Except MyRoomLifecycleError Unit)}
      (hpending : d.pending = delivery :: rest)
      (hs : d.world.sessions.lookup delivery.1 = some state)
      (hfills : { d.world with sessions := d.world.sessions.erase delivery.1 }.Fills world log)
      (hall : { d.world with sessions := d.world.sessions.erase delivery.1 }.AllOrNone log
        result.isNone) :
      RoundCase d {
        pending := pending
        failed := delivery.1 :: d.failed
        world := world
        offers := d.offers ++ [delivery.offer false] ++ log
        closings := d.closings ++ [delivery.1]
        result := result }

variable {env now} {d d' : Delivering H}

section

variable {delivery : OutboundDelivery} {rest : List OutboundDelivery} {state : SessionState}

theorem round_done (hpending : d.pending = []) :
    d.round env now = { d with result := some (.ok ()) } := by
  unfold round
  rw [hpending]

theorem round_absent (hpending : d.pending = delivery :: rest)
    (hs : d.world.sessions.lookup delivery.1 = none) :
    d.round env now =
      { d with pending := rest, offers := d.offers ++ [delivery.offer false] } := by
  unfold round
  rw [hpending]
  dsimp only
  rw [hs]

theorem round_sent (hpending : d.pending = delivery :: rest)
    (hs : d.world.sessions.lookup delivery.1 = some state) (haccepts : state.accepts 0 = true) :
    d.round env now = { d with
      pending := rest
      world := d.world.send delivery
      offers := d.offers ++ [delivery.offer true] } := by
  unfold round
  rw [hpending]
  dsimp only
  rw [hs]
  dsimp only
  rw [if_pos haccepts]

theorem round_again (hpending : d.pending = delivery :: rest)
    (hs : d.world.sessions.lookup delivery.1 = some state) (haccepts : ¬ state.accepts 0 = true)
    (hfailed : delivery.1 ∈ d.failed) :
    d.round env now =
      { d with pending := rest, offers := d.offers ++ [delivery.offer false] } := by
  unfold round
  rw [hpending]
  dsimp only
  rw [hs]
  dsimp only
  rw [if_neg haccepts, if_pos hfailed]

/-- The first failure of a session, in which its close fails too. -/
theorem round_error (hpending : d.pending = delivery :: rest)
    (hs : d.world.sessions.lookup delivery.1 = some state) (haccepts : ¬ state.accepts 0 = true)
    (hfailed : delivery.1 ∉ d.failed) {e : MyRoomLifecycleError} {w : World H}
    (hfail : d.world.failSession env delivery.1 now = (.error e, w)) :
    d.round env now =
      { pending := rest
        failed := delivery.1 :: d.failed
        world := w
        offers := d.offers ++ [delivery.offer false] ++ d.world.failOffers env delivery.1 now
        closings := d.closings ++ [delivery.1]
        result := some (.error e) } := by
  unfold round
  rw [hpending]
  dsimp only
  rw [hs]
  dsimp only
  rw [if_neg haccepts, if_neg hfailed, hfail]

/-- The first failure of a session. -/
theorem round_fails (hpending : d.pending = delivery :: rest)
    (hs : d.world.sessions.lookup delivery.1 = some state) (haccepts : ¬ state.accepts 0 = true)
    (hfailed : delivery.1 ∉ d.failed) {more : List OutboundDelivery} {w : World H}
    (hfail : d.world.failSession env delivery.1 now = (.ok more, w)) :
    d.round env now =
      { pending := rest ++ more
        failed := delivery.1 :: d.failed
        world := w
        offers := d.offers ++ [delivery.offer false] ++ d.world.failOffers env delivery.1 now
        closings := d.closings ++ [delivery.1]
        result := d.result } := by
  unfold round
  rw [hpending]
  dsimp only
  rw [hs]
  dsimp only
  rw [if_neg haccepts, if_neg hfailed, hfail]

end

theorem round_cases (hrunning : d.result = none) : RoundCase d (d.round env now) := by
  cases hpending : d.pending with
  | nil =>
    rw [round_done hpending]
    exact .done hpending
  | cons delivery rest =>
    cases hs : d.world.sessions.lookup delivery.1 with
    | none =>
      rw [round_absent hpending hs]
      exact .absent hpending hs
    | some state =>
      by_cases haccepts : state.accepts 0 = true
      · rw [round_sent hpending hs haccepts]
        exact .sent hpending hs
      · by_cases hfailed : delivery.1 ∈ d.failed
        · rw [round_again hpending hs haccepts hfailed]
          exact .again hpending hs hfailed
        · obtain ⟨hfills, hall⟩ := World.failSession_offers env d.world delivery.1 now
          cases hfail : d.world.failSession env delivery.1 now with
          | mk answer w =>
            rw [hfail] at hfills hall
            cases answer with
            | error e =>
              rw [round_error hpending hs haccepts hfailed hfail]
              exact .fails hpending hs hfills hall
            | ok more =>
              rw [round_fails hpending hs haccepts hfailed hfail, hrunning]
              exact .fails hpending hs hfills hall

/-- Sessions in the table, batches pending, and a last round that finds none. -/
def measure (d : Delivering H) : Nat × Nat :=
  (d.world.sessions.keys.card, d.pending.length + if d.result = none then 1 else 0)

/-- **A round gets closer to the end**: it takes a session out of the table, or a batch off the
list. -/
theorem RoundCase.measure_lt (h : RoundCase d d') (hrunning : d.result = none) :
    Prod.Lex (· < ·) (· < ·) d'.measure d.measure := by
  unfold measure
  rw [if_pos hrunning]
  cases h with
  | done hpending =>
    apply Prod.Lex.right
    dsimp only
    rw [if_neg (by simp)]
    omega
  | absent hpending =>
    apply Prod.Lex.right
    dsimp only
    rw [hpending, if_pos hrunning, List.length_cons]
    omega
  | @sent delivery rest state hpending =>
    have hcard := (World.send_fills d.world delivery).card
    dsimp only
    rw [hcard]
    apply Prod.Lex.right
    rw [hpending, if_pos hrunning, List.length_cons]
    omega
  | again hpending =>
    apply Prod.Lex.right
    dsimp only
    rw [hpending, if_pos hrunning, List.length_cons]
    omega
  | fails hpending hs hfills =>
    apply Prod.Lex.left
    have hcard := hfills.card
    have herase := Map.card_keys_erase hs
    dsimp only at hcard ⊢
    omega

/-- What holds between two rounds. -/
structure Ok (d : Delivering H) : Prop where
  orderly : NoneAfterMiss d.offers
  /-- While the call goes on, who missed a batch is not there. -/
  gone : d.result = none → ∀ offer ∈ d.offers, offer.taken = false →
    d.world.sessions.lookup offer.receiver = none
  once : d.closings.Nodup
  closed : ∀ s ∈ d.closings, d.world.sessions.lookup s = none
  failed : ∀ s ∈ d.failed, s ∈ d.closings

theorem start_ok (w : World H) (deliveries : List OutboundDelivery) :
    (start w deliveries).Ok where
  orderly := .nil
  gone := fun _ _ ho => absurd ho List.not_mem_nil
  once := List.nodup_nil
  closed := fun _ hs => absurd hs List.not_mem_nil
  failed := fun _ hs => absurd hs List.not_mem_nil

theorem Ok.requeued (h : d.Ok) {w : World H} (hw : d.world.Requeued w) :
    ({ d with world := w } : Delivering H).Ok where
  orderly := h.orderly
  gone := fun hrunning offer ho hmissed => hw.lookup_none (h.gone hrunning offer ho hmissed)
  once := h.once
  closed := fun s hs => hw.lookup_none (h.closed s hs)
  failed := h.failed

/-- A batch for a session that is not there. -/
theorem Ok.missed (h : d.Ok) (hrunning : d.result = none) {delivery : OutboundDelivery}
    (hs : d.world.sessions.lookup delivery.1 = none) (rest : List OutboundDelivery) :
    Ok { d with pending := rest, offers := d.offers ++ [delivery.offer false] } where
  orderly := h.orderly.missed _ _
  gone := fun _ offer ho hmissed => by
    rcases List.mem_append.mp ho with ho | ho
    · exact h.gone hrunning offer ho hmissed
    · rw [List.mem_singleton.mp ho]
      exact hs
  once := h.once
  closed := h.closed
  failed := h.failed

/-- **A round keeps the order.** -/
theorem RoundCase.ok (h : RoundCase d d') (hrunning : d.result = none) (hok : d.Ok) : d'.Ok := by
  cases h with
  | done => exact ⟨hok.orderly, fun hr => absurd hr (by simp), hok.once, hok.closed, hok.failed⟩
  | absent _ hs => exact hok.missed hrunning hs _
  | @sent delivery rest state _ hs =>
    have hfills := World.send_fills d.world delivery
    refine ⟨hok.orderly.taken ?_ ?_, fun _ offer ho hmissed => ?_, hok.once, fun s hc => ?_,
      hok.failed⟩
    · intro offer ho
      rw [List.mem_singleton.mp ho]
      rfl
    · intro earlier he hmissed offer ho hsame
      have hgone := hok.gone hrunning earlier he hmissed
      rw [hsame, List.mem_singleton.mp ho] at hgone
      rw [show d.world.sessions.lookup delivery.1 = none from hgone] at hs
      cases hs
    · rcases List.mem_append.mp ho with ho | ho
      · exact hfills.lookup_none (hok.gone hrunning offer ho hmissed)
      · rw [List.mem_singleton.mp ho] at hmissed
        cases hmissed
    · exact hfills.lookup_none (hok.closed s hc)
  | again _ hs hfailed =>
    -- a session that was closed is not in the table any more
    rw [hok.closed _ (hok.failed _ hfailed)] at hs
    cases hs
  | @fails delivery rest state pending world log result _ hs hfills hall =>
    have hlog := hok.orderly.missed delivery.1 delivery.2
    have herased : ∀ s, d.world.sessions.lookup s = none ∨ s = delivery.1 →
        (d.world.sessions.erase delivery.1).lookup s = none := by
      intro s hs
      rw [Map.lookup_erase_ite]
      split
      next => rfl
      next hne => exact hs.resolve_right hne
    have hmissing : ∀ offer ∈ d.offers ++ [delivery.offer false], offer.taken = false →
        (d.world.sessions.erase delivery.1).lookup offer.receiver = none := by
      intro offer ho hmissed
      rcases List.mem_append.mp ho with ho | ho
      · exact herased _ (.inl (hok.gone hrunning offer ho hmissed))
      · rw [List.mem_singleton.mp ho]
        exact herased _ (.inr rfl)
    refine ⟨?_, ?_, ?_, ?_, ?_⟩
    · rcases hall with htaken | ⟨-, hrefused⟩
      · refine hlog.taken (fun offer ho => (htaken offer ho).1) ?_
        intro earlier he hmissed offer ho hsame
        obtain ⟨-, state', hstate'⟩ := htaken offer ho
        have hnone := hmissing earlier he hmissed
        rw [hsame] at hnone
        rw [show (d.world.sessions.erase delivery.1).lookup offer.receiver = none from hnone]
          at hstate'
        cases hstate'
      · exact hlog.refused hrefused
    · intro hr offer ho hmissed
      rcases List.mem_append.mp ho with ho | ho
      · exact hfills.lookup_none (hmissing offer ho hmissed)
      · rcases hall with htaken | ⟨hstopped, -⟩
        · rw [(htaken offer ho).1] at hmissed
          cases hmissed
        · dsimp only at hr
          rw [hr] at hstopped
          cases hstopped
    · refine List.nodup_append.mpr ⟨hok.once, List.nodup_singleton _, ?_⟩
      intro s hc s' hs' he
      rw [he, List.mem_singleton.mp hs'] at hc
      rw [hok.closed _ hc] at hs
      cases hs
    · intro s hc
      apply hfills.lookup_none
      rcases List.mem_append.mp hc with hc | hc
      · exact herased s (.inl (hok.closed s hc))
      · exact herased s (.inr (List.mem_singleton.mp hc))
    · intro s hf
      rcases List.mem_cons.mp hf with rfl | hf
      · exact List.mem_append_right _ (List.mem_singleton_self _)
      · exact List.mem_append_left _ (hok.failed s hf)

theorem Goes.ok (h : Goes env now d d') (hok : d.Ok) : d'.Ok := by
  obtain ⟨hrunning, w, hw, rfl⟩ := h
  have hstill : ({ d with world := w } : Delivering H).result = none := hrunning
  exact (round_cases hstill).ok hstill (hok.requeued hw)

theorem Runs.ok (h : Runs env now d d') (hok : d.Ok) : d'.Ok := by
  induction h with
  | refl => exact hok
  | tail _ hgoes ih => exact hgoes.ok ih

/-- Every call ends. -/
theorem goes_wellFounded : WellFounded fun d' d : Delivering H => Goes env now d d' := by
  have hlex : WellFounded (Prod.Lex (· < · : Nat → Nat → Prop) (· < · : Nat → Nat → Prop)) :=
    (Prod.lex Nat.lt_wfRel Nat.lt_wfRel).wf
  apply Subrelation.wf ?_ (InvImage.wf measure hlex)
  intro d' d hgoes
  obtain ⟨hrunning, w, hw, rfl⟩ := hgoes
  have hstill : ({ d with world := w } : Delivering H).result = none := hrunning
  have hcases : RoundCase { d with world := w } ({ d with world := w }.round env now) :=
    round_cases hstill
  have hlt := hcases.measure_lt hstill
  show Prod.Lex _ _ _ d.measure
  have hsame : ({ d with world := w } : Delivering H).measure = d.measure := by
    unfold measure
    dsimp only
    rw [hw.card]
  rw [hsame] at hlt
  exact hlt

/-- A call that is not over has a next round. -/
theorem goes_of_running (hrunning : d.result = none) : Goes env now d (d.round env now) :=
  ⟨hrunning, d.world, .refl _, rfl⟩

/-! ## The call of the model -/

/-- Any number of rounds with quiet queues. -/
abbrev Rounds (env : WorldEnv H Q P) (now : Instant) : Delivering H → Delivering H → Prop :=
  Relation.ReflTransGen (Round env now)

theorem Rounds.runs (h : Rounds env now d d') : Runs env now d d' := by
  induction h with
  | refl => exact .refl
  | tail _ hround ih =>
    obtain ⟨hrunning, rfl⟩ := hround
    exact ih.tail (goes_of_running hrunning)

/-- Each session that is still there has what the record says it took. -/
def Filled (w : World H) (d : Delivering H) : Prop :=
  ∀ s, d.world.sessions.lookup s = if s ∈ d.closings then none else
    (w.sessions.lookup s).map fun state => (received d.offers s).foldl SessionState.enqueue state

theorem RoundCase.filled {w : World H} (h : RoundCase d d') (hfilled : Filled w d) :
    Filled w d' := by
  have key : ∀ (s : SessionId) {world : World H} {log : List (Offer SessionId OutboundBatch)},
      d.world.Fills world log → world.sessions.lookup s = if s ∈ d.closings then none else
        (w.sessions.lookup s).map fun state =>
          (received (d.offers ++ log) s).foldl SessionState.enqueue state := by
    intro s world log hfills
    rw [hfills s, hfilled s]
    split
    next => rfl
    next =>
      rw [Option.map_map]
      congr 1
      funext state
      rw [received_append, List.foldl_append]
      rfl
  cases h with
  | done => exact hfilled
  | @absent delivery => exact fun s => key s (World.missed_fills d.world delivery)
  | @sent delivery => exact fun s => key s (World.send_fills d.world delivery)
  | @again delivery => exact fun s => key s (World.missed_fills d.world delivery)
  | @fails delivery rest state pending world log result _ hs hfills =>
    intro s
    by_cases he : s = delivery.1
    · subst he
      rw [if_pos (List.mem_append_right _ (List.mem_singleton_self _))]
      apply hfills.lookup_none
      show (d.world.sessions.erase delivery.1).lookup delivery.1 = none
      rw [Map.lookup_erase_ite, if_pos rfl]
    · have hmem : s ∈ d.closings ++ [delivery.1] ↔ s ∈ d.closings := by
        rw [List.mem_append, List.mem_singleton]
        exact or_iff_left he
      have hkept : ({ d.world with
          sessions := d.world.sessions.erase delivery.1 } : World H).sessions.lookup s =
          d.world.sessions.lookup s := by
        show (d.world.sessions.erase delivery.1).lookup s = _
        rw [Map.lookup_erase_ite, if_neg he]
      show world.sessions.lookup s = _
      rw [hfills s, hkept, hfilled s]
      by_cases hc : s ∈ d.closings
      · rw [if_pos hc, if_pos (hmem.mpr hc)]
        rfl
      · rw [if_neg hc, if_neg fun hin => hc (hmem.mp hin), Option.map_map]
        congr 1
        funext state
        have hnone : received [delivery.offer false] s = [] := by
          simp [received, OutboundDelivery.offer]
        rw [received_append, received_append, hnone, List.append_nil, List.foldl_append]
        rfl

theorem start_filled (w : World H) (deliveries : List OutboundDelivery) :
    Filled w (start w deliveries) := by
  intro s
  show w.sessions.lookup s = if s ∈ [] then none else _
  rw [if_neg List.not_mem_nil]
  exact Option.map_id.symm ▸ rfl

theorem Rounds.filled {w : World H} (h : Rounds env now d d') (hfilled : Filled w d) :
    Filled w d' := by
  induction h with
  | refl => exact hfilled
  | tail _ hround ih =>
    obtain ⟨hrunning, rfl⟩ := hround
    exact (round_cases hrunning).filled ih

/-- Rounds lead to a result. -/
def Ends (env : WorldEnv H Q P) (now : Instant) (d : Delivering H)
    (outcome : Except MyRoomLifecycleError Unit × World H) : Prop :=
  ∃ d', Rounds env now d d' ∧ d'.result = some outcome.1 ∧ d'.world = outcome.2

variable {outcome : Except MyRoomLifecycleError Unit × World H}

theorem Ends.head (hrunning : d.result = none) (h : Ends env now (d.round env now) outcome) :
    Ends env now d outcome := by
  obtain ⟨d', hrounds, hresult⟩ := h
  exact ⟨d', .head ⟨hrunning, rfl⟩ hrounds, hresult⟩

theorem Ends.last (hrunning : d.result = none)
    (hresult : (d.round env now).result = some outcome.1)
    (hworld : (d.round env now).world = outcome.2) : Ends env now d outcome :=
  ⟨_, .single ⟨hrunning, rfl⟩, hresult, hworld⟩

/-- The loop up to a failure follows the rounds, if what resumes after it does. Each failure leaves
a session less, so `resume` only meets smaller tables. -/
theorem deliverUntil_ends {n : Nat}
    {resume : List OutboundDelivery → List SessionId → World H →
      Except MyRoomLifecycleError Unit × World H}
    (hresume : ∀ d : Delivering H, d.result = none → d.world.sessions.keys.card < n →
      Ends env now d (resume d.pending d.failed d.world))
    (deliveries : List OutboundDelivery) (d : Delivering H) (hrunning : d.result = none)
    (hpending : d.pending = deliveries) (hcard : d.world.sessions.keys.card ≤ n) :
    Ends env now d (World.deliverUntil env now resume deliveries d.failed d.world) := by
  induction deliveries generalizing d with
  | nil =>
    have hround : d.round env now = { d with result := some (.ok ()) } := round_done hpending
    exact .last hrunning (by rw [hround]; rfl) (by rw [hround]; rfl)
  | cons delivery rest ih =>
    unfold World.deliverUntil
    cases hs : d.world.sessions.lookup delivery.1 with
    | none =>
      apply Ends.head hrunning
      rw [round_absent hpending hs]
      exact ih _ hrunning rfl hcard
    | some state =>
      dsimp only
      by_cases haccepts : state.accepts 0 = true
      · rw [if_pos haccepts]
        apply Ends.head hrunning
        rw [round_sent hpending hs haccepts]
        have hsame := (World.send_fills d.world delivery).card
        exact ih _ hrunning rfl (by dsimp only; omega)
      · rw [if_neg haccepts]
        by_cases hfailed : delivery.1 ∈ d.failed
        · rw [if_pos hfailed]
          apply Ends.head hrunning
          rw [round_again hpending hs haccepts hfailed]
          exact ih _ hrunning rfl hcard
        · rw [if_neg hfailed]
          have hfills := (World.failSession_offers env d.world delivery.1 now).1
          have hless := Map.card_keys_erase hs
          have hnext := hfills.card
          cases hfail : d.world.failSession env delivery.1 now with
          | mk answer w =>
            rw [hfail] at hnext
            dsimp only at hnext
            cases answer with
            | error e =>
              have hround := round_error hpending hs haccepts hfailed hfail
              exact .last hrunning (by rw [hround]) (by rw [hround])
            | ok more =>
              apply Ends.head hrunning
              rw [round_fails hpending hs haccepts hfailed hfail]
              exact hresume _ hrunning (by dsimp only; omega)

theorem deliverLoop_ends (n : Nat) (d : Delivering H) (hrunning : d.result = none)
    (hcard : d.world.sessions.keys.card ≤ n) :
    Ends env now d (World.deliverLoop env now n d.pending d.failed d.world) := by
  induction n generalizing d with
  | zero =>
    refine deliverUntil_ends ?_ d.pending d hrunning rfl hcard
    intro d' _ hnone
    exact absurd hnone (Nat.not_lt_zero _)
  | succ n ih =>
    refine deliverUntil_ends ?_ d.pending d hrunning rfl hcard
    intro d' hrunning' hless
    exact ih d' hrunning' (Nat.le_of_lt_succ hless)

/-- **What a call of `deliver` does**, in whatever state the queues are at each round: it ends; it
closes a session at most once and the session is gone; and a session that misses a batch takes none
afterwards, so what it takes is the first part of what the call has for it. The function itself is
the call in whose queues nothing happens meanwhile. -/
theorem deliver_settles (env : WorldEnv H Q P) (w : World H)
    (deliveries : List OutboundDelivery) (now : Instant) :
    (WellFounded fun d' d : Delivering H => Goes env now d d') ∧
    (∀ d, Runs env now (.start w deliveries) d →
      (d.result = none → ∃ d', Goes env now d d') ∧
      d.closings.Nodup ∧ (∀ s ∈ d.closings, d.world.sessions.lookup s = none) ∧
      NoneAfterMiss d.offers ∧
      ∀ s, received d.offers s <+:
        offered (d.offers ++ d.pending.map (OutboundDelivery.offer · false)) s) ∧
    ∃ d, Runs env now (.start w deliveries) d ∧
      d.result = some (w.deliver env deliveries now).1 ∧
      d.world = (w.deliver env deliveries now).2 ∧ Filled w d := by
  refine ⟨goes_wellFounded, ?_, ?_⟩
  · intro d hruns
    have hok := hruns.ok (start_ok w deliveries)
    refine ⟨fun hrunning => ⟨_, goes_of_running hrunning⟩, hok.once, hok.closed, hok.orderly, ?_⟩
    intro s
    rw [offered_append]
    exact (hok.orderly.received_prefix s).trans (List.prefix_append _ _)
  · obtain ⟨d, hrounds, hresult, hworld⟩ : Ends env now (.start w deliveries)
        (w.deliver env deliveries now) :=
      deliverLoop_ends w.sessions.keys.card (.start w deliveries) rfl (Nat.le_refl _)
    exact ⟨d, hrounds.runs, hresult, hworld, hrounds.filled (start_filled w deliveries)⟩

end Delivering

end P4475
