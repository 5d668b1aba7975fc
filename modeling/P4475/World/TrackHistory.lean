import P4475.Lib.Bag
import P4475.World.Room

/-!
# The track history of a room

A room whose track is a random selector draws a concrete track at each start. It remembers the
tracks drawn from its pool, so that every candidate comes before one comes again, and no track
comes twice in a row while there is another. The draws of one pool are those of `Lib.Bag`, over
the candidates without selectors and repetitions; a call with another pool, or with a concrete
track, forgets them.
-/

namespace P4475

open Lib ProtocolRoomState

/-- One call of `select_concrete_track`: the settings of the room it finds, the candidates, and
what the random generator draws. -/
structure TrackCall where
  gameType : Nat
  track : Nat
  candidates : List Nat
  draw : Nat

/-- The distinct candidates that are no selectors, in ascending order. -/
def concreteCandidates (candidates : List Nat) : List Nat :=
  (sortByKey (fun track : Nat => track)
    (candidates.filter fun track => !isRandomTrackSelector track)).dedup

namespace TrackCall

variable (call : TrackCall)

/-- The room as the call finds it. -/
def configure (room : ProtocolRoomState) : ProtocolRoomState :=
  { room with settings := { room.settings with gameType := call.gameType, track := call.track } }

def select (room : ProtocolRoomState) : Option (Nat × ProtocolRoomState) :=
  (call.configure room).selectConcreteTrack call.candidates call.draw

/-- The call asks for a random track. -/
def Random : Prop := isRandomTrackSelector call.track = true

/-- `(catalog_game_type, settings.track)` -/
def pool : Nat × Nat := (if call.gameType = 2 ∨ call.gameType = 4 then 1 else 0, call.track)

/-- The tracks the room remembers of this pool. -/
def used (room : ProtocolRoomState) : List Nat :=
  if room.randomTrackPool = some call.pool then room.randomTracksUsed else []

def last (room : ProtocolRoomState) : Option Nat :=
  if room.randomTrackPool = some call.pool then room.lastRandomTrack else none

/-- What the random generator draws from. -/
def range (room : ProtocolRoomState) : List Nat :=
  available (concreteCandidates call.candidates) (call.used room) (call.last room)

/-- The room after the call: a failed one leaves it as it was found. -/
def after (room : ProtocolRoomState) : ProtocolRoomState :=
  ((call.select room).map Prod.snd).getD (call.configure room)

end TrackCall

/-- The room after some calls, and what they returned. -/
def selectTracks (room : ProtocolRoomState) : List TrackCall → List (Option Nat) × ProtocolRoomState
  | [] => ([], room)
  | call :: calls =>
    (((call.select room).map Prod.fst) :: (selectTracks (call.after room) calls).1,
      (selectTracks (call.after room) calls).2)

/-! ## Candidates -/

theorem mem_concreteCandidates {candidates : List Nat} {track : Nat} :
    track ∈ concreteCandidates candidates ↔
      track ∈ candidates ∧ isRandomTrackSelector track = false := by
  unfold concreteCandidates
  rw [List.mem_dedup, mem_sortByKey, List.mem_filter, Bool.not_eq_true']

theorem nodup_concreteCandidates (candidates : List Nat) : (concreteCandidates candidates).Nodup :=
  List.nodup_dedup _

/-- The candidates are those of the set, however they are listed. -/
theorem concreteCandidates_congr {candidates candidates' : List Nat}
    (h : ∀ track, isRandomTrackSelector track = false → (track ∈ candidates ↔ track ∈ candidates')) :
    concreteCandidates candidates = concreteCandidates candidates' := by
  have hsorted : ∀ tracks, (concreteCandidates tracks).Pairwise (· ≤ ·) := fun tracks =>
    (sortByKey_pairwise (fun track : Nat => track) _).sublist (List.dedup_sublist _)
  have hperm : (concreteCandidates candidates).Perm (concreteCandidates candidates') := by
    refine (List.perm_ext_iff_of_nodup (nodup_concreteCandidates _)
      (nodup_concreteCandidates _)).mpr fun track => ?_
    rw [mem_concreteCandidates, mem_concreteCandidates]
    exact and_congr_left (h track)
  exact List.Perm.eq_of_pairwise (fun _ _ _ _ => Nat.le_antisymm) (hsorted _) (hsorted _) hperm

namespace TrackCall

variable {call : TrackCall} {room room' : ProtocolRoomState} {track : Nat}

/-- A random call draws from its range, which is not empty, and remembers what it draws. -/
theorem select_eq (hrandom : call.Random) (h : concreteCandidates call.candidates ≠ []) :
    call.select room = some ((call.range room).getD (call.draw % (call.range room).length) 0,
      { call.configure room with
        randomTrackPool := some call.pool
        randomTracksUsed := carried (concreteCandidates call.candidates) (call.used room) ++
          [(call.range room).getD (call.draw % (call.range room).length) 0]
        lastRandomTrack :=
          some ((call.range room).getD (call.draw % (call.range room).length) 0) }) := by
  unfold select ProtocolRoomState.selectConcreteTrack
  dsimp only
  have htrack : isRandomTrackSelector (call.configure room).settings.track = true := hrandom
  have hconcrete : ¬ (sortByKey (fun track : Nat => track)
      (call.candidates.filter fun track => !isRandomTrackSelector track)).dedup = [] := h
  rw [if_pos htrack, if_neg hconcrete]
  unfold range available carried used last concreteCandidates
  by_cases hpool : room.randomTrackPool = some call.pool
  · have hsame : (call.configure room).randomTrackPool =
        some (if (call.configure room).settings.gameType = 2 ∨
          (call.configure room).settings.gameType = 4 then 1 else 0,
          (call.configure room).settings.track) := hpool
    simp only [hpool, hsame, decide_true, if_true]
    rfl
  · have hother : ¬ (call.configure room).randomTrackPool =
        some (if (call.configure room).settings.gameType = 2 ∨
          (call.configure room).settings.gameType = 4 then 1 else 0,
          (call.configure room).settings.track) := hpool
    simp only [hpool, hother, decide_false, if_false]
    rfl

theorem range_ne_nil (h : concreteCandidates call.candidates ≠ []) : call.range room ≠ [] :=
  available_ne_nil h

/-- A random call fails exactly for want of candidates. -/
theorem select_none : call.select room = none ↔
    call.Random ∧ concreteCandidates call.candidates = [] := by
  by_cases hrandom : call.Random
  · by_cases hempty : concreteCandidates call.candidates = []
    · refine iff_of_true ?_ ⟨hrandom, hempty⟩
      have htrack : isRandomTrackSelector (call.configure room).settings.track = true := hrandom
      have hconcrete : (sortByKey (fun track : Nat => track)
        (call.candidates.filter fun track => !isRandomTrackSelector track)).dedup = [] := hempty
      unfold select ProtocolRoomState.selectConcreteTrack
      dsimp only
      rw [if_pos htrack, if_pos hconcrete]
    · rw [select_eq hrandom hempty]
      exact iff_of_false (by simp) fun h => hempty h.2
  · refine iff_of_false ?_ fun h => hrandom h.1
    have htrack : ¬ isRandomTrackSelector (call.configure room).settings.track = true := hrandom
    unfold select ProtocolRoomState.selectConcreteTrack
    dsimp only
    rw [if_neg htrack]
    simp

/-- A concrete track is returned as it is set, whatever the candidates are. -/
theorem select_concrete (h : ¬ call.Random) :
    (call.select room).map Prod.fst = some call.track := by
  have htrack : ¬ isRandomTrackSelector (call.configure room).settings.track = true := h
  unfold select ProtocolRoomState.selectConcreteTrack
  dsimp only
  rw [if_neg htrack]
  rfl

/-- What a random call returns, and what the room remembers of it. -/
structure Draws (call : TrackCall) (room : ProtocolRoomState) (track : Nat)
    (room' : ProtocolRoomState) : Prop where
  range : track ∈ call.range room
  pool : room'.randomTrackPool = some call.pool
  used : room'.randomTracksUsed =
    carried (concreteCandidates call.candidates) (call.used room) ++ [track]
  last : room'.lastRandomTrack = some track

theorem select_draws (hrandom : call.Random) (h : call.select room = some (track, room')) :
    call.Draws room track room' := by
  have hne : concreteCandidates call.candidates ≠ [] := by
    intro hempty
    rw [select_none.mpr ⟨hrandom, hempty⟩] at h
    exact absurd h (by simp)
  have hpos : 0 < (call.range room).length := List.length_pos_iff.mpr (range_ne_nil hne)
  have hindex := Nat.mod_lt call.draw hpos
  rw [select_eq hrandom hne] at h
  obtain ⟨htrack, hroom⟩ := Prod.mk.inj (Option.some.inj h)
  rw [← hroom, ← htrack]
  refine ⟨?_, rfl, rfl, rfl⟩
  rw [List.getD_eq_getElem?_getD, List.getElem?_eq_getElem hindex]
  exact List.getElem_mem hindex

theorem Draws.candidate (h : call.Draws room track room') :
    track ∈ call.candidates ∧ isRandomTrackSelector track = false :=
  mem_concreteCandidates.mp (mem_of_available h.range)

/-! ## One track after the other -/

/-- The room remembers the track as the last one of the pool. -/
structure Remembers (pool : Nat × Nat) (track : Nat) (room : ProtocolRoomState) : Prop where
  pool : room.randomTrackPool = some pool
  last : room.lastRandomTrack = some track
  used : track ∈ room.randomTracksUsed

theorem Draws.remembers (h : call.Draws room track room') : Remembers call.pool track room' := by
  refine ⟨h.pool, h.last, ?_⟩
  rw [h.used]
  exact List.mem_append_right _ (List.mem_singleton_self track)

/-- A failed call forgets nothing. -/
theorem after_failed (h : call.select room = none) : call.after room = call.configure room := by
  unfold after
  rw [h]
  rfl

theorem Remembers.failed {pool : Nat × Nat} {calls : List TrackCall}
    (h : Remembers pool track room)
    (hfailed : ∀ answer ∈ (selectTracks room calls).1, answer = none) :
    Remembers pool track (selectTracks room calls).2 := by
  induction calls generalizing room with
  | nil => exact h
  | cons call calls ih =>
    unfold selectTracks at hfailed ⊢
    have hnone : call.select room = none :=
      Option.map_eq_none_iff.mp (hfailed _ List.mem_cons_self)
    refine ih ?_ fun answer ha => hfailed answer (List.mem_cons_of_mem _ ha)
    rw [after_failed hnone]
    exact ⟨h.pool, h.last, h.used⟩

/-- The remembered track is not drawn again while there is another one. -/
theorem Remembers.differs {previous : Nat} (h : Remembers call.pool previous room)
    (hmany : 2 ≤ (concreteCandidates call.candidates).length)
    (hdraws : call.Draws room track room') : track ≠ previous := by
  have hused : call.used room = room.randomTracksUsed := if_pos h.pool
  have hlast : call.last room = some previous := (if_pos h.pool).trans h.last
  have hrange := hdraws.range
  unfold TrackCall.range at hrange
  rw [hused, hlast] at hrange
  exact ne_last_of_available (nodup_concreteCandidates _) hmany h.used hrange

/-! ## Rounds -/

/-- The tracks the room remembers of a pool. -/
def remembered (pool : Nat × Nat) (room : ProtocolRoomState) : List Nat :=
  if room.randomTrackPool = some pool then room.randomTracksUsed else []

/-- Calls with one pool and one set of candidates draw round after round. -/
theorem selectTracks_rounds {pool : Nat × Nat} {items drawn : List Nat} (hn : items.Nodup)
    (hne : items ≠ []) {calls : List TrackCall}
    (hcalls : ∀ call ∈ calls, call.Random ∧ call.pool = pool ∧
      concreteCandidates call.candidates = items)
    (h : Rounds items drawn (remembered pool room)) :
    ∃ tracks : List Nat, (selectTracks room calls).1 = tracks.map some ∧
      Rounds items (drawn ++ tracks) (remembered pool (selectTracks room calls).2) := by
  induction calls generalizing room drawn with
  | nil => exact ⟨[], rfl, by rw [List.append_nil]; exact h⟩
  | cons call calls ih =>
    obtain ⟨hrandom, hpool, hitems⟩ := hcalls call List.mem_cons_self
    obtain ⟨⟨track, room'⟩, hselect⟩ : ∃ answer, call.select room = some answer := by
      rw [select_eq hrandom (hitems ▸ hne)]
      exact ⟨_, rfl⟩
    have hdraws := select_draws hrandom hselect
    have hafter : call.after room = room' := by
      unfold after
      rw [hselect]
      rfl
    have hstep : Rounds items (drawn ++ [track]) (remembered pool room') := by
      have hrange := hdraws.range
      have hused : call.used room = remembered pool room := by rw [← hpool]; rfl
      unfold TrackCall.range at hrange
      rw [hitems, hused] at hrange
      have hnext := h.draw hn hrange
      unfold remembered
      rw [if_pos (hdraws.pool.trans (congrArg some hpool)), hdraws.used, hitems, hused]
      exact hnext
    obtain ⟨tracks, htracks, hrounds⟩ := ih
      (fun c hc => hcalls c (List.mem_cons_of_mem _ hc)) hstep
    refine ⟨track :: tracks, ?_, ?_⟩
    · unfold selectTracks
      rw [hselect, hafter, htracks]
      rfl
    · unfold selectTracks
      rw [hafter]
      rw [List.append_assoc, List.singleton_append] at hrounds
      exact hrounds

/-- **The track history.** A random call returns one of its candidates that is no selector, drawn
from a range that is never empty, and it fails only if there is none, and then the history is left
alone. Two tracks returned one after the other in one pool differ if there are two candidates. And
from a reset on, while the pool and the set of candidates stay the same, the tracks are one
permutation of the candidates after the other. A call with a concrete track returns it. -/
theorem track_history (room : ProtocolRoomState) :
    (∀ call : TrackCall, ¬ call.Random →
      (call.select room).map Prod.fst = some call.track) ∧
    (∀ (call : TrackCall) (track : Nat) (room' : ProtocolRoomState), call.Random →
      call.select room = some (track, room') →
      track ∈ call.candidates ∧ isRandomTrackSelector track = false) ∧
    (∀ call : TrackCall, call.select room = none ↔
      call.Random ∧ ∀ track ∈ call.candidates, isRandomTrackSelector track = true) ∧
    (∀ call : TrackCall, call.select room = none → call.after room = call.configure room) ∧
    (∀ call : TrackCall, call.Random → call.select room ≠ none →
      ∃ h : 0 < (call.range room).length, (call.select room).map Prod.fst =
        some ((call.range room).get ⟨call.draw % (call.range room).length, Nat.mod_lt _ h⟩)) ∧
    (∀ (first second : TrackCall) (failed : List TrackCall) (t₁ t₂ : Nat)
        (room₁ room₂ : ProtocolRoomState), first.Random → second.Random →
      second.pool = first.pool → 2 ≤ (concreteCandidates second.candidates).length →
      first.select room = some (t₁, room₁) →
      (∀ answer ∈ (selectTracks room₁ failed).1, answer = none) →
      second.select (selectTracks room₁ failed).2 = some (t₂, room₂) → t₂ ≠ t₁) ∧
    (∀ (pool : Nat × Nat) (base : List Nat) (calls : List TrackCall),
      remembered pool room = [] → concreteCandidates base ≠ [] →
      (∀ call ∈ calls, call.Random ∧ call.pool = pool ∧ ∀ track,
        isRandomTrackSelector track = false → (track ∈ call.candidates ↔ track ∈ base)) →
      ∃ (rounds : List (List Nat)) (rest : List Nat),
        (selectTracks room calls).1 = (rounds.flatten ++ rest).map some ∧
        (∀ round ∈ rounds, round.Perm (concreteCandidates base)) ∧
        rest.Nodup ∧ ∀ track ∈ rest, track ∈ concreteCandidates base) := by
  refine ⟨fun call h => select_concrete h, fun call track room' hr h => (select_draws hr h).candidate,
    fun call => ?_, fun call h => after_failed h, fun call hr h => ?_, ?_, ?_⟩
  · rw [select_none, List.eq_nil_iff_forall_not_mem]
    refine and_congr_right fun _ => forall_congr' fun track => ?_
    rw [mem_concreteCandidates, not_and, Bool.not_eq_false]
  · have hne : concreteCandidates call.candidates ≠ [] := fun hempty =>
      h (select_none.mpr ⟨hr, hempty⟩)
    have hpos : 0 < (call.range room).length := List.length_pos_iff.mpr (range_ne_nil hne)
    refine ⟨hpos, ?_⟩
    rw [select_eq hr hne, List.getD_eq_getElem?_getD,
      List.getElem?_eq_getElem (Nat.mod_lt call.draw hpos)]
    rfl
  · intro first second failed t₁ t₂ room₁ room₂ hfirst hsecond hpool hmany h₁ hfailed h₂
    have hremembers := (select_draws hfirst h₁).remembers.failed hfailed
    rw [← hpool] at hremembers
    exact hremembers.differs hmany (select_draws hsecond h₂)
  · intro pool base calls hreset hne hcalls
    have hstart : Rounds (concreteCandidates base) [] (remembered pool room) := by
      rw [hreset]
      exact .start _
    obtain ⟨tracks, htracks, hrounds⟩ := selectTracks_rounds (nodup_concreteCandidates base) hne
      (fun call hc => ⟨(hcalls call hc).1, (hcalls call hc).2.1,
        concreteCandidates_congr (hcalls call hc).2.2⟩) hstart
    obtain ⟨⟨rounds, hwhole, hsplit⟩, hdistinct, hitems⟩ := hrounds
    rw [List.nil_append] at hsplit
    exact ⟨rounds, _, by rw [htracks, hsplit], hwhole, hdistinct, hitems⟩

/-! ## Some calls -/

/-- A room nobody has started a race in. -/
def sampleTrackRoom : ProtocolRoomState := .new ⟨1⟩ ⟨⟨0, 1⟩, [], [], 1, 0, 0, 0, []⟩

def sampleCandidates : List Nat := [12, 11, 12, 3]

/-- Three starts with a random track, and what the generator draws. -/
def sampleCalls : List TrackCall :=
  [⟨1, 0, sampleCandidates, 0⟩, ⟨1, 0, sampleCandidates, 5⟩, ⟨1, 0, sampleCandidates, 1⟩]

/-- The three tracks are a permutation of the two candidates, and part of the next one. -/
theorem sampleCalls_rounds : ∃ (rounds : List (List Nat)) (rest : List Nat),
    (selectTracks sampleTrackRoom sampleCalls).1 = (rounds.flatten ++ rest).map some ∧
    (∀ round ∈ rounds, round.Perm (concreteCandidates sampleCandidates)) ∧
    rest.Nodup ∧ ∀ track ∈ rest, track ∈ concreteCandidates sampleCandidates := by
  refine (track_history sampleTrackRoom).2.2.2.2.2.2 (0, 0) sampleCandidates sampleCalls rfl
    (by decide) fun call hcall => ?_
  have hsame : call.track = 0 ∧ call.gameType = 1 ∧ call.candidates = sampleCandidates := by
    revert call
    decide
  obtain ⟨htrack, hgame, hcandidates⟩ := hsame
  unfold Random pool
  rw [htrack, hgame, hcandidates]
  exact ⟨by decide, by decide, fun _ _ => Iff.rfl⟩

/-- A room with a concrete track returns it, though no candidate is given. -/
theorem sampleTrack_concrete : ∃ track,
    ((⟨1, 100, [], 0⟩ : TrackCall).select sampleTrackRoom).map Prod.fst = some track ∧
      track ∉ (⟨1, 100, [], 0⟩ : TrackCall).candidates := ⟨100, by decide, by decide⟩

end TrackCall

end P4475
