import Mathlib.Data.Finset.Insert
import Mathlib.Data.List.Chain
import P4475.Identity.Types

/-!
# Item pickups

A racer reports which item box it picked up and at which tick of its clock. Reports go through a
bucket of tokens that refills with time, and through the ticks already seen: a report is refused
if the same box was reported at its tick, or if its tick lies behind in the serial order of 32-bit
ticks. `prepare` keeps nothing of a refused report. The arithmetic of the source panics where it
would leave its type, and `none` is that panic.
-/

namespace P4475

/-- `ITEM_PICKUP_BUCKET_CAPACITY`. -/
def itemPickupBucketCapacity : Nat := 6

/-- `ITEM_PICKUP_REFILL_INTERVAL`, 250 ms. -/
def itemPickupRefillInterval : Nat := 250000000

/-- `Duration::MAX`. -/
def durationMax : Nat := 18446744073709551615999999999

inductive ItemPickupKind
  | type1
  | type2
  deriving DecidableEq

/-- A report: when it arrives, and what it says. -/
structure ItemPickup where
  now : Instant
  playerId : Int
  kind : ItemPickupKind
  objectId : UInt32
  operationTick : UInt32
  deriving DecidableEq

structure ItemPickupReplayState where
  lastOperationTick : UInt32
  objectsSeenAtTick : Finset (ItemPickupKind × UInt32)
  tokens : Nat
  lastRefillAt : Instant
  deriving DecidableEq

/-- The errors of `prepare_item_pickup_admission`. -/
inductive ItemPickupError
  | duplicateItemPickup (playerId : Int) (kind : ItemPickupKind) (objectId operationTick : UInt32)
  | staleItemPickup (playerId : Int) (operationTick : UInt32)
  | itemPickupRateLimited (playerId : Int)
  deriving DecidableEq

/-- A `u8` addition. -/
def addU8 (a b : Nat) : Option Nat := if a + b ≤ 255 then some (a + b) else none

/-- An unsigned subtraction. -/
def subUnsigned (a b : Nat) : Option Nat := if b ≤ a then some (a - b) else none

namespace ItemPickupReplayState

/-- The bucket of a racer's first report. -/
def first (pickup : ItemPickup) : ItemPickupReplayState where
  lastOperationTick := pickup.operationTick
  objectsSeenAtTick := ∅
  tokens := itemPickupBucketCapacity
  lastRefillAt := pickup.now

/-- The ticks of a report against those already seen. -/
def checkFresh (state : ItemPickupReplayState) (pickup : ItemPickup) : Except ItemPickupError Unit :=
  let delta := pickup.operationTick - state.lastOperationTick
  if delta = 0 ∧ (pickup.kind, pickup.objectId) ∈ state.objectsSeenAtTick then
    .error (.duplicateItemPickup pickup.playerId pickup.kind pickup.objectId pickup.operationTick)
  else if delta ≥ 0x80000000 then .error (.staleItemPickup pickup.playerId pickup.operationTick)
  else .ok ()

/-- The tokens of the whole intervals since the last refill. A bucket that is filled up forgets
the rest of the interval; otherwise the rest counts for the next refill. -/
def refill (state : ItemPickupReplayState) (now instantMax : Instant) :
    Option ItemPickupReplayState :=
  let elapsed := now - state.lastRefillAt
  let refillIntervals := elapsed / itemPickupRefillInterval
  if refillIntervals ≠ 0 then
    match subUnsigned itemPickupBucketCapacity state.tokens with
    | none => none
    | some missing =>
      let earned := min refillIntervals missing
      let refill := if earned ≤ 255 then earned else missing
      match addU8 state.tokens refill with
      | none => none
      | some tokens =>
        if tokens = itemPickupBucketCapacity then
          some { state with
            tokens := tokens
            lastRefillAt := now }
        else
          let advance := min (itemPickupRefillInterval * refill) durationMax
          some { state with
            tokens := tokens
            lastRefillAt :=
              if state.lastRefillAt + advance ≤ instantMax then state.lastRefillAt + advance
              else now }
  else some state

/-- The report is noted: at a new tick the objects of the old one are forgotten. -/
def note (state : ItemPickupReplayState) (pickup : ItemPickup) : ItemPickupReplayState :=
  if state.lastOperationTick = pickup.operationTick then
    { state with
      objectsSeenAtTick := insert (pickup.kind, pickup.objectId) state.objectsSeenAtTick }
  else
    { state with
      lastOperationTick := pickup.operationTick
      objectsSeenAtTick := {(pickup.kind, pickup.objectId)} }

end ItemPickupReplayState

open ItemPickupReplayState

/-- `prepare_item_pickup_admission`. -/
def prepareItemPickupAdmission (state : Option ItemPickupReplayState) (pickup : ItemPickup)
    (instantMax : Instant) : Option (Except ItemPickupError ItemPickupReplayState) :=
  let checked := match state with
    | some state => (state.checkFresh pickup).map fun _ => state
    | none => .ok (first pickup)
  match checked with
  | .error e => some (.error e)
  | .ok next =>
    match next.refill pickup.now instantMax with
    | none => none
    | some next =>
      if next.tokens = 0 then some (.error (.itemPickupRateLimited pickup.playerId))
      else
        match subUnsigned next.tokens 1 with
        | none => none
        | some tokens => some (.ok ({ next with tokens := tokens }.note pickup))

/-! ## A racer's reports -/

/-- The state of a racer, and the reports that were admitted, earliest first. -/
structure PickupRun where
  state : Option ItemPickupReplayState
  admitted : List ItemPickup

/-- A report is answered; the state is kept only if it is admitted. -/
def PickupRun.report (run : PickupRun) (instantMax : Instant) (pickup : ItemPickup) :
    Option PickupRun :=
  match prepareItemPickupAdmission run.state pickup instantMax with
  | none => none
  | some (.error _) => some run
  | some (.ok next) => some ⟨some next, run.admitted ++ [pickup]⟩

def PickupRun.reports (instantMax : Instant) : PickupRun → List ItemPickup → Option PickupRun
  | run, [] => some run
  | run, pickup :: rest => (run.report instantMax pickup).bind fun run => run.reports instantMax rest

/-! ## Tokens -/

namespace ItemPickupReplayState

variable {state next : ItemPickupReplayState} {pickup : ItemPickup} {now instantMax : Instant}

/-- What a refill does: it earns no more tokens than whole intervals have passed. -/
structure Refills (state : ItemPickupReplayState) (now : Instant) (next : ItemPickupReplayState) :
    Prop where
  earned : ∃ earned, next.tokens = state.tokens + earned ∧
    state.lastRefillAt + itemPickupRefillInterval * earned ≤ next.lastRefillAt
  tokens : next.tokens ≤ itemPickupBucketCapacity
  time : next.lastRefillAt ≤ now
  tick : next.lastOperationTick = state.lastOperationTick
  seen : next.objectsSeenAtTick = state.objectsSeenAtTick

/-- The arithmetic of a refill stays in its types, however much time has passed. -/
theorem refill_refills (htokens : state.tokens ≤ itemPickupBucketCapacity)
    (htime : state.lastRefillAt ≤ now) (hnow : now ≤ instantMax) :
    ∃ next, state.refill now instantMax = some next ∧ state.Refills now next := by
  unfold refill
  dsimp only
  by_cases hidle : (now - state.lastRefillAt) / itemPickupRefillInterval = 0
  · rw [if_neg (not_not.mpr hidle)]
    exact ⟨state, rfl, ⟨0, rfl, Nat.le_refl _⟩, htokens, htime, rfl, rfl⟩
  · rw [if_pos hidle]
    have hmissing : subUnsigned itemPickupBucketCapacity state.tokens =
        some (itemPickupBucketCapacity - state.tokens) := if_pos htokens
    rw [hmissing]
    dsimp only
    -- what is earned is bounded by the room in the bucket, and by the time that passed
    have hroom : state.tokens + min ((now - state.lastRefillAt) / itemPickupRefillInterval)
        (itemPickupBucketCapacity - state.tokens) ≤ itemPickupBucketCapacity :=
      (Nat.add_le_add_left (Nat.min_le_right _ _) _).trans
        (Nat.le_of_eq (Nat.add_sub_of_le htokens))
    have hwhole : itemPickupRefillInterval *
        min ((now - state.lastRefillAt) / itemPickupRefillInterval)
          (itemPickupBucketCapacity - state.tokens) ≤ now - state.lastRefillAt :=
      (Nat.mul_le_mul_left _ (Nat.min_le_left _ _)).trans (Nat.mul_div_le _ _)
    obtain ⟨earned, hearned⟩ : ∃ earned : Nat, earned =
        min ((now - state.lastRefillAt) / itemPickupRefillInterval)
          (itemPickupBucketCapacity - state.tokens) := ⟨_, rfl⟩
    rw [← hearned] at hroom hwhole ⊢
    have hcapacity : itemPickupBucketCapacity = 6 := rfl
    have hsmall : earned ≤ 255 := by omega
    have hsum : addU8 state.tokens earned = some (state.tokens + earned) := if_pos (by omega)
    rw [if_pos hsmall, hsum]
    dsimp only
    have hadvance : state.lastRefillAt + itemPickupRefillInterval * earned ≤ now :=
      (Nat.add_le_add_left hwhole _).trans (Nat.le_of_eq (Nat.add_sub_of_le htime))
    by_cases hfull : state.tokens + earned = itemPickupBucketCapacity
    · -- a full bucket starts anew
      rw [if_pos hfull]
      exact ⟨_, rfl, ⟨earned, rfl, hadvance⟩, Nat.le_of_eq hfull, Nat.le_refl _, rfl, rfl⟩
    · rw [if_neg hfull]
      have hduration : min (itemPickupRefillInterval * earned) durationMax =
          itemPickupRefillInterval * earned := by
        refine Nat.min_eq_left ?_
        have hmost : itemPickupRefillInterval * earned ≤ itemPickupRefillInterval * 6 :=
          Nat.mul_le_mul_left _ (by omega)
        exact hmost.trans (by decide)
      rw [hduration, if_pos (hadvance.trans hnow)]
      refine ⟨_, rfl, ⟨earned, rfl, Nat.le_refl _⟩, ?_, hadvance, rfl, rfl⟩
      show state.tokens + earned ≤ itemPickupBucketCapacity
      omega

theorem note_tokens (state : ItemPickupReplayState) (pickup : ItemPickup) :
    (state.note pickup).tokens = state.tokens ∧
      (state.note pickup).lastRefillAt = state.lastRefillAt ∧
      (state.note pickup).lastOperationTick = pickup.operationTick := by
  unfold note
  by_cases htick : state.lastOperationTick = pickup.operationTick
  · rw [if_pos htick]
    exact ⟨rfl, rfl, htick⟩
  · rw [if_neg htick]
    exact ⟨rfl, rfl, rfl⟩

theorem note_seen {seen : ItemPickupKind × UInt32} :
    seen ∈ (state.note pickup).objectsSeenAtTick ↔ seen = (pickup.kind, pickup.objectId) ∨
      state.lastOperationTick = pickup.operationTick ∧ seen ∈ state.objectsSeenAtTick := by
  unfold note
  by_cases htick : state.lastOperationTick = pickup.operationTick
  · rw [if_pos htick]
    simp [htick]
  · rw [if_neg htick]
    simp [htick]

/-- A report that is let through by its tick: it is new at the tick, and the tick is not behind. -/
theorem checkFresh_ok {u : Unit} (h : state.checkFresh pickup = .ok u) :
    (pickup.operationTick = state.lastOperationTick →
      (pickup.kind, pickup.objectId) ∉ state.objectsSeenAtTick) ∧
    (pickup.operationTick - state.lastOperationTick).toNat < 2147483648 := by
  unfold checkFresh at h
  dsimp only at h
  split at h
  next => exact absurd h (by simp)
  next hnew =>
    split at h
    next => exact absurd h (by simp)
    next hserial =>
      constructor
      · intro htick hseen
        exact hnew ⟨by rw [htick, UInt32.sub_self], hseen⟩
      · have hlt : pickup.operationTick - state.lastOperationTick < 0x80000000 :=
          UInt32.not_le.mp hserial
        exact UInt32.lt_iff_toNat_lt.mp hlt

end ItemPickupReplayState

/-! ## One report -/

variable {state : Option ItemPickupReplayState} {next : ItemPickupReplayState}
  {pickup : ItemPickup} {instantMax : Instant}

/-- What an admitted report does to the state it finds, or to the first one. -/
structure Admits (found : ItemPickupReplayState) (pickup : ItemPickup)
    (next : ItemPickupReplayState) : Prop where
  tokens : ∃ earned, next.tokens + 1 = found.tokens + earned ∧
    found.lastRefillAt + itemPickupRefillInterval * earned ≤ next.lastRefillAt
  capacity : next.tokens ≤ itemPickupBucketCapacity
  time : next.lastRefillAt ≤ pickup.now
  tick : next.lastOperationTick = pickup.operationTick
  seen : ∀ seen, seen ∈ next.objectsSeenAtTick ↔ seen = (pickup.kind, pickup.objectId) ∨
    found.lastOperationTick = pickup.operationTick ∧ seen ∈ found.objectsSeenAtTick

/-- A report never panics, and an admitted one takes a token. -/
theorem prepare_spec (htokens : ∀ s, state = some s → s.tokens ≤ itemPickupBucketCapacity)
    (htime : ∀ s, state = some s → s.lastRefillAt ≤ pickup.now) (hnow : pickup.now ≤ instantMax) :
    ∃ answer, prepareItemPickupAdmission state pickup instantMax = some answer ∧
      ∀ next, answer = .ok next → Admits (state.getD (first pickup)) pickup next ∧
        ∀ s, state = some s → s.checkFresh pickup = .ok () := by
  have hbucket : ∀ found : ItemPickupReplayState, found.tokens ≤ itemPickupBucketCapacity →
      found.lastRefillAt ≤ pickup.now → ∃ answer : Except ItemPickupError ItemPickupReplayState,
      (match found.refill pickup.now instantMax with
        | none => none
        | some next =>
          if next.tokens = 0 then some (.error (.itemPickupRateLimited pickup.playerId))
          else
            match subUnsigned next.tokens 1 with
            | none => none
            | some tokens => some (.ok ({ next with tokens := tokens }.note pickup))) =
        some answer ∧ ∀ next, answer = .ok next → Admits found pickup next := by
    intro found hcapacity hlast
    obtain ⟨filled, hrefill, ⟨earned, hearned, hadvance⟩, hfilled, hfilledTime, htick, hseen⟩ :=
      refill_refills hcapacity hlast hnow
    rw [hrefill]
    dsimp only
    by_cases hempty : filled.tokens = 0
    · rw [if_pos hempty]
      exact ⟨_, rfl, fun next h => absurd h (by simp)⟩
    · have htoken : subUnsigned filled.tokens 1 = some (filled.tokens - 1) :=
        if_pos (Nat.one_le_iff_ne_zero.mpr hempty)
      rw [if_neg hempty, htoken]
      refine ⟨_, rfl, fun next h => ?_⟩
      rw [← Except.ok.inj h]
      obtain ⟨hnote, hnoteTime, hnoteTick⟩ :=
        note_tokens { filled with tokens := filled.tokens - 1 } pickup
      refine ⟨⟨earned, ?_, ?_⟩, ?_, ?_, hnoteTick, fun seen => ?_⟩
      · rw [hnote]
        show filled.tokens - 1 + 1 = _
        omega
      · rw [hnoteTime]
        exact hadvance
      · rw [hnote]
        show filled.tokens - 1 ≤ _
        omega
      · rw [hnoteTime]
        exact hfilledTime
      · rw [note_seen]
        show _ ∨ filled.lastOperationTick = _ ∧ seen ∈ filled.objectsSeenAtTick ↔ _
        rw [htick, hseen]
  unfold prepareItemPickupAdmission
  cases state with
  | none =>
    obtain ⟨answer, hanswer, hadmits⟩ :=
      hbucket (first pickup) (Nat.le_refl _) (Nat.le_refl _)
    exact ⟨answer, hanswer, fun next h => ⟨hadmits next h, fun s hs => absurd hs (by simp)⟩⟩
  | some s =>
    dsimp only
    cases hfresh : s.checkFresh pickup with
    | error e => exact ⟨.error e, rfl, fun next h => absurd h (by simp)⟩
    | ok u =>
      obtain ⟨answer, hanswer, hadmits⟩ := hbucket s (htokens s rfl) (htime s rfl)
      refine ⟨answer, hanswer, fun next h => ⟨hadmits next h, fun s' hs => ?_⟩⟩
      rw [← Option.some.inj hs]
      exact hfresh

/-! ## Ticks

The ticks of the admitted reports are followed as one walk: it only steps forward, each step by
less than half the circle of ticks. -/

def forwards (a b : UInt32) : Prop := (b - a).toNat < 2147483648

/-- How far a walk over ticks advances in all. -/
def serialAdvance : List UInt32 → Nat
  | a :: b :: rest => (b - a).toNat + serialAdvance (b :: rest)
  | _ => 0

theorem serialAdvance_snoc (a b : UInt32) (ticks : List UInt32) :
    serialAdvance (a :: (ticks ++ [b])) =
      serialAdvance (a :: ticks) + (b - ticks.getLastD a).toNat := by
  induction ticks generalizing a with
  | nil =>
    show (b - a).toNat + 0 = 0 + (b - a).toNat
    omega
  | cons c rest ih =>
    show (c - a).toNat + serialAdvance (c :: (rest ++ [b])) =
      (c - a).toNat + serialAdvance (c :: rest) + _
    rw [ih, List.getLastD_cons]
    omega

/-- A report as it is told from others. -/
def ItemPickup.triple (pickup : ItemPickup) : ItemPickupKind × UInt32 × UInt32 :=
  (pickup.kind, pickup.objectId, pickup.operationTick)

/-! ## What holds of a racer's bucket -/

/-- The tokens spent so far are those of the first bucket and what was earned since. -/
structure Bucket (state : ItemPickupReplayState) (first : ItemPickup)
    (admitted : List ItemPickup) (latest : Instant) : Prop where
  capacity : state.tokens ≤ itemPickupBucketCapacity
  time : state.lastRefillAt ≤ latest
  spent : ∃ earned, state.tokens + admitted.length = itemPickupBucketCapacity + earned ∧
    first.now + itemPickupRefillInterval * earned ≤ state.lastRefillAt
  rate : ∀ t : Instant, (admitted.filter fun p => p.now ≤ t).length ≤
    itemPickupBucketCapacity + (t - first.now) / itemPickupRefillInterval

theorem Bucket.start (pickup : ItemPickup) : Bucket (.first pickup) pickup [] pickup.now :=
  ⟨Nat.le_refl _, Nat.le_refl _, ⟨0, rfl, Nat.le_refl _⟩, fun _ => Nat.zero_le _⟩

theorem Bucket.admits {found next : ItemPickupReplayState} {first : ItemPickup}
    {admitted : List ItemPickup} {latest : Instant} (h : Bucket found first admitted latest)
    (hadmits : Admits found pickup next) :
    Bucket next first (admitted ++ [pickup]) pickup.now := by
  obtain ⟨taken, htaken, hadvance⟩ := hadmits.tokens
  obtain ⟨earned, hspent, hsince⟩ := h.spent
  have hspent' : next.tokens + (admitted ++ [pickup]).length =
      itemPickupBucketCapacity + (earned + taken) := by
    rw [List.length_append, List.length_singleton]
    omega
  have hsince' : first.now + itemPickupRefillInterval * (earned + taken) ≤ next.lastRefillAt :=
    calc first.now + itemPickupRefillInterval * (earned + taken)
        = first.now + itemPickupRefillInterval * earned + itemPickupRefillInterval * taken := by
          rw [Nat.mul_add, Nat.add_assoc]
      _ ≤ found.lastRefillAt + itemPickupRefillInterval * taken := Nat.add_le_add_right hsince _
      _ ≤ next.lastRefillAt := hadvance
  refine ⟨hadmits.capacity, hadmits.time, ⟨_, hspent', hsince'⟩, fun t => ?_⟩
  by_cases hdue : pickup.now ≤ t
  · -- every token was earned by then
    have hearned : earned + taken ≤ (t - first.now) / itemPickupRefillInterval := by
      refine (Nat.le_div_iff_mul_le (by decide)).mpr (Nat.le_sub_of_add_le ?_)
      rw [Nat.mul_comm, Nat.add_comm]
      exact hsince'.trans (hadmits.time.trans hdue)
    calc ((admitted ++ [pickup]).filter fun p => p.now ≤ t).length
        ≤ (admitted ++ [pickup]).length := List.length_filter_le _ _
      _ ≤ itemPickupBucketCapacity + (earned + taken) :=
          (Nat.le_add_left _ _).trans (Nat.le_of_eq hspent')
      _ ≤ _ := Nat.add_le_add_left hearned _
  · rw [List.filter_append, List.filter_singleton, decide_eq_false hdue, cond_false,
      List.append_nil]
    exact h.rate t

/-! ## What holds of a racer's ticks -/

structure Ticks (state : ItemPickupReplayState) (first : ItemPickup)
    (admitted : List ItemPickup) : Prop where
  last : state.lastOperationTick =
    (admitted.map ItemPickup.operationTick).getLastD first.operationTick
  forward : List.IsChain forwards (first.operationTick :: admitted.map ItemPickup.operationTick)
  advanced : state.lastOperationTick = first.operationTick + UInt32.ofNat
    (serialAdvance (first.operationTick :: admitted.map ItemPickup.operationTick))
  reached : ∀ p ∈ admitted, ∃ advance ≤
    serialAdvance (first.operationTick :: admitted.map ItemPickup.operationTick),
    p.operationTick = first.operationTick + UInt32.ofNat advance
  seen : serialAdvance (first.operationTick :: admitted.map ItemPickup.operationTick) < 2 ^ 32 →
    ∀ p ∈ admitted, p.operationTick = state.lastOperationTick →
      (p.kind, p.objectId) ∈ state.objectsSeenAtTick
  once : serialAdvance (first.operationTick :: admitted.map ItemPickup.operationTick) < 2 ^ 32 →
    (admitted.map ItemPickup.triple).Nodup

theorem Ticks.start (pickup : ItemPickup) : Ticks (.first pickup) pickup [] := by
  refine ⟨rfl, List.isChain_singleton _, ?_, fun p hp => absurd hp List.not_mem_nil,
    fun _ p hp => absurd hp List.not_mem_nil, fun _ => List.nodup_nil⟩
  show pickup.operationTick = pickup.operationTick + 0
  rw [UInt32.add_zero]

/-- Ticks that differ by less than the whole circle are told apart. -/
theorem ofNat_inj_of_lt {a b : Nat} {tick : UInt32} (ha : a < 2 ^ 32) (hb : b < 2 ^ 32)
    (h : tick + UInt32.ofNat a = tick + UInt32.ofNat b) : a = b := by
  have hoffset : UInt32.ofNat a = UInt32.ofNat b := (UInt32.add_right_inj _).mp h
  have hnat := congrArg UInt32.toNat hoffset
  rwa [UInt32.toNat_ofNat_of_lt' ha, UInt32.toNat_ofNat_of_lt' hb] at hnat

theorem Ticks.admits {found next : ItemPickupReplayState} {first pickup : ItemPickup}
    {admitted : List ItemPickup} (h : Ticks found first admitted)
    (hadmits : Admits found pickup next)
    (hnew : pickup.operationTick = found.lastOperationTick →
      (pickup.kind, pickup.objectId) ∉ found.objectsSeenAtTick)
    (hforward : forwards found.lastOperationTick pickup.operationTick) :
    Ticks next first (admitted ++ [pickup]) := by
  have hadvance : serialAdvance
        (first.operationTick :: (admitted ++ [pickup]).map ItemPickup.operationTick) =
      serialAdvance (first.operationTick :: admitted.map ItemPickup.operationTick) +
        (pickup.operationTick - found.lastOperationTick).toNat := by
    rw [List.map_append, List.map_singleton, serialAdvance_snoc, h.last]
  have hlast : pickup.operationTick = first.operationTick + UInt32.ofNat (serialAdvance
      (first.operationTick :: (admitted ++ [pickup]).map ItemPickup.operationTick)) := by
    rw [hadvance, UInt32.ofNat_add, UInt32.ofNat_toNat, ← UInt32.add_assoc, ← h.advanced,
      UInt32.add_comm, UInt32.sub_add_cancel]
  -- on a walk of less than the whole circle a tick is met again only while it is the last one
  have hagain : serialAdvance
        (first.operationTick :: (admitted ++ [pickup]).map ItemPickup.operationTick) < 2 ^ 32 →
      ∀ p ∈ admitted, p.operationTick = pickup.operationTick →
        pickup.operationTick = found.lastOperationTick ∧
          (p.kind, p.objectId) ∈ found.objectsSeenAtTick := by
    intro hshort p hp heq
    obtain ⟨advance, hle, htick⟩ := h.reached p hp
    have hsame : advance = serialAdvance
        (first.operationTick :: (admitted ++ [pickup]).map ItemPickup.operationTick) :=
      ofNat_inj_of_lt (by omega) hshort (by rw [← htick, heq, ← hlast])
    have hstill : (pickup.operationTick - found.lastOperationTick).toNat = 0 := by omega
    have hequal : pickup.operationTick = found.lastOperationTick := by
      have hzero : pickup.operationTick - found.lastOperationTick = 0 :=
        UInt32.toNat_inj.mp hstill
      rw [← UInt32.sub_add_cancel pickup.operationTick found.lastOperationTick, hzero,
        UInt32.zero_add]
    exact ⟨hequal, h.seen (by omega) p hp (heq.trans hequal)⟩
  refine ⟨?_, ?_, hadmits.tick.trans hlast, ?_, ?_, ?_⟩
  · rw [hadmits.tick, List.map_append, List.map_singleton, List.getLastD_concat]
  · rw [List.map_append, List.map_singleton, ← List.cons_append, List.isChain_append]
    refine ⟨h.forward, List.isChain_singleton _, fun a ha b hb => ?_⟩
    rw [List.getLast?_cons] at ha
    rw [← Option.some.inj ha, ← Option.some.inj hb, ← List.getLastD_eq_getLast?, ← h.last]
    exact hforward
  · intro p hp
    rcases List.mem_append.mp hp with hp | hp
    · obtain ⟨advance, hle, htick⟩ := h.reached p hp
      exact ⟨advance, by omega, htick⟩
    · rw [List.mem_singleton.mp hp]
      exact ⟨_, Nat.le_refl _, hlast⟩
  · intro hshort p hp heq
    rw [hadmits.tick] at heq
    rcases List.mem_append.mp hp with hp | hp
    · obtain ⟨hequal, hseen⟩ := hagain hshort p hp heq
      exact (hadmits.seen _).mpr (.inr ⟨hequal.symm, hseen⟩)
    · rw [List.mem_singleton.mp hp]
      exact (hadmits.seen _).mpr (.inl rfl)
  · intro hshort
    rw [List.map_append, List.map_singleton, List.nodup_append]
    refine ⟨h.once (by omega), List.nodup_singleton _, fun a ha b hb heq => ?_⟩
    obtain ⟨p, hp, rfl⟩ := List.mem_map.mp ha
    rw [List.mem_singleton.mp hb] at heq
    obtain ⟨hkind, hrest⟩ := Prod.mk.inj heq
    obtain ⟨hobject, htick⟩ := Prod.mk.inj hrest
    obtain ⟨hequal, hseen⟩ := hagain hshort p hp htick
    rw [hkind, hobject] at hseen
    exact hnew hequal hseen

/-! ## A run -/

/-- What holds of a racer between two reports, the latest of which came at `latest`. -/
structure PickupRun.Kept (run : PickupRun) (latest : Instant) : Prop where
  fresh : run.state = none → run.admitted = []
  started : ∀ state, run.state = some state → ∃ first, run.admitted.head? = some first ∧
    Bucket state first run.admitted latest ∧ Ticks state first run.admitted

theorem PickupRun.Kept.later {run : PickupRun} {latest now : Instant} (h : run.Kept latest)
    (hnow : latest ≤ now) : run.Kept now := by
  refine ⟨h.fresh, fun state hstate => ?_⟩
  obtain ⟨first, hfirst, hbucket, hticks⟩ := h.started state hstate
  exact ⟨first, hfirst, ⟨hbucket.capacity, hbucket.time.trans hnow, hbucket.spent, hbucket.rate⟩,
    hticks⟩

/-- The step: a report is answered, and what holds still does. -/
theorem PickupRun.Kept.report {run : PickupRun} {latest instantMax : Instant}
    {pickup : ItemPickup} (h : run.Kept latest) (htime : latest ≤ pickup.now)
    (hnow : pickup.now ≤ instantMax) :
    ∃ next, run.report instantMax pickup = some next ∧ next.Kept pickup.now := by
  obtain ⟨answer, hanswer, hadmits⟩ := prepare_spec
    (fun s hs => (h.started s hs).elim fun _ hkept => hkept.2.1.capacity)
    (fun s hs => (h.started s hs).elim fun _ hkept => hkept.2.1.time.trans htime) hnow
  unfold PickupRun.report
  rw [hanswer]
  cases answer with
  | error e => exact ⟨run, rfl, h.later htime⟩
  | ok next =>
    refine ⟨_, rfl, fun hnone => absurd hnone (by simp), fun state hstate => ?_⟩
    obtain ⟨hspec, hchecked⟩ := hadmits next rfl
    rw [← Option.some.inj hstate]
    cases hfound : run.state with
    | none =>
      rw [hfound] at hspec
      rw [h.fresh hfound]
      exact ⟨pickup, rfl, (Bucket.start pickup).admits hspec, (Ticks.start pickup).admits hspec
        (fun _ => Finset.notMem_empty _) (by simp [forwards, ItemPickupReplayState.first])⟩
    | some found =>
      rw [hfound] at hspec
      obtain ⟨first, hfirst, hbucket, hticks⟩ := h.started found hfound
      obtain ⟨hnew, hforward⟩ := checkFresh_ok (hchecked found hfound)
      refine ⟨first, ?_, hbucket.admits hspec, hticks.admits hspec hnew hforward⟩
      rw [List.head?_append, hfirst]
      rfl

/-- The run: reports that come in the order of their times keep what holds. -/
theorem PickupRun.Kept.reports {instantMax : Instant} (requests : List ItemPickup) :
    ∀ {run : PickupRun} {latest : Instant}, run.Kept latest →
      (∀ pickup ∈ requests, latest ≤ pickup.now ∧ pickup.now ≤ instantMax) →
      requests.Pairwise (fun a b => a.now ≤ b.now) →
      ∃ last now, PickupRun.reports instantMax run requests = some last ∧ last.Kept now := by
  induction requests with
  | nil => exact fun h _ _ => ⟨_, _, rfl, h⟩
  | cons pickup rest ih =>
    intro run latest h htimes horder
    obtain ⟨hafter, hrest⟩ := List.pairwise_cons.mp horder
    obtain ⟨hlatest, hnow⟩ := htimes pickup List.mem_cons_self
    obtain ⟨next, hreport, hkept⟩ := h.report hlatest hnow
    obtain ⟨last, now, hreports, hlast⟩ := ih hkept
      (fun p hp => ⟨hafter p hp, (htimes p (List.mem_cons_of_mem _ hp)).2⟩) hrest
    refine ⟨last, now, ?_, hlast⟩
    show (run.report instantMax pickup).bind _ = _
    rw [hreport]
    exact hreports

/-- A racer's reports in the order of their times: the arithmetic never leaves its types, the
bucket limits what is admitted by any time, the ticks never go backwards in serial order, and on
ticks that do not go around the circle nothing is admitted twice. -/
theorem item_pickups (instantMax : Instant) (requests : List ItemPickup)
    (horder : requests.Pairwise (fun a b => a.now ≤ b.now))
    (hmax : ∀ pickup ∈ requests, pickup.now ≤ instantMax) :
    ∃ run, PickupRun.reports instantMax ⟨none, []⟩ requests = some run ∧
      (∀ state, run.state = some state → state.tokens ≤ 6) ∧
      (∀ first, run.admitted.head? = some first → ∀ t : Instant,
        (run.admitted.filter fun p => p.now ≤ t).length ≤ 6 + (t - first.now) / 250000000) ∧
      (run.admitted.map ItemPickup.operationTick).IsChain
        (fun a b => (b - a).toNat < 2147483648) ∧
      (serialAdvance (run.admitted.map ItemPickup.operationTick) < 2 ^ 32 →
        (run.admitted.map ItemPickup.triple).Nodup) := by
  have hstart : PickupRun.Kept ⟨none, []⟩ 0 := ⟨fun _ => rfl, fun _ h => absurd h (by simp)⟩
  obtain ⟨run, now, hrun, hkept⟩ := PickupRun.Kept.reports requests hstart
    (fun pickup hp => ⟨Nat.zero_le _, hmax pickup hp⟩) horder
  refine ⟨run, hrun, ?_⟩
  cases hstate : run.state with
  | none =>
    rw [hkept.fresh hstate]
    exact ⟨fun _ h => absurd h (by simp), fun _ h => absurd h (by simp), List.isChain_nil,
      fun _ => List.nodup_nil⟩
  | some state =>
    obtain ⟨first, hfirst, hbucket, hticks⟩ := hkept.started state hstate
    obtain ⟨rest, hadmitted⟩ := List.head?_eq_some_iff.mp hfirst
    refine ⟨fun s hs => Option.some.inj hs ▸ hbucket.capacity, fun f hf t => ?_, ?_, fun h => ?_⟩
    · rw [← Option.some.inj (hfirst.symm.trans hf)]
      exact hbucket.rate t
    · exact (List.isChain_cons.mp hticks.forward).2
    · -- the walk is followed from the first tick on
      refine hticks.once ?_
      rw [hadmitted] at h ⊢
      show (first.operationTick - first.operationTick).toNat + _ < _
      rw [UInt32.sub_self]
      exact (Nat.zero_add _).symm ▸ h

/-- A box reported twice at one tick, then a tick later, then one that lies behind. -/
def samplePickups : List ItemPickup :=
  [⟨10, 5, .type1, 7, 4294967295⟩, ⟨20, 5, .type1, 7, 4294967295⟩, ⟨30, 5, .type1, 7, 0⟩,
    ⟨40, 5, .type2, 7, 4294967295⟩]

theorem samplePickups_admitted : ∃ run, PickupRun.reports 100 ⟨none, []⟩ samplePickups = some run ∧
    run.admitted = [⟨10, 5, .type1, 7, 4294967295⟩, ⟨30, 5, .type1, 7, 0⟩] ∧
    (run.admitted.map ItemPickup.triple).Nodup := by
  obtain ⟨run, hrun, -, -, -, honce⟩ := item_pickups 100 samplePickups (by decide) (by decide)
  have hadmitted : (PickupRun.reports 100 ⟨none, []⟩ samplePickups).map PickupRun.admitted =
      some [⟨10, 5, .type1, 7, 4294967295⟩, ⟨30, 5, .type1, 7, 0⟩] := by decide +kernel
  rw [hrun] at hadmitted
  have hrunAdmitted := Option.some.inj hadmitted
  refine ⟨run, hrun, hrunAdmitted, honce ?_⟩
  rw [hrunAdmitted]
  decide

end P4475
