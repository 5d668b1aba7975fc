import Mathlib.Logic.Function.Basic
import Mathlib.Tactic.Common

/-!
# Directories of rooms

A room belongs to a user, who may or may not be in it, and has named slots that
seat users. A directory keeps the rooms by owner, the seat of each seated user,
and one binding for every user with a role (an owner or someone seated). Both
indexes are plain functions, so an edit of a concrete index is compared with an
edit here lookup by lookup.

`Sound` says that the two indexes are inverse to each other, that no room is
empty, and that every binding in a room is the directory's binding of that user.
`OrphansIn S` bounds the users who have a binding and no role. The edits are:
enrol a new user, seat a user, vacate a seat, close a room, rename a user
everywhere, and prune the bindings of users without a role.
-/

namespace P4475.Lib

/-- What a directory knows of one room. -/
structure Shape (ι β : Type) where
  owner : β
  seat : ι → Option β

structure Directory (κ ι β : Type) where
  rooms : κ → Option (Shape ι β)
  seats : κ → Option (κ × ι)
  names : κ → Option β

namespace Shape

variable {ι β : Type}

theorem ext {s t : Shape ι β} (ho : s.owner = t.owner) (hs : ∀ i, s.seat i = t.seat i) :
    s = t := by
  cases s with
  | mk owner seat =>
    cases t with
    | mk owner' seat' =>
      have hseat : seat = seat' := funext hs
      have howner : owner = owner' := ho
      rw [hseat, howner]

def Vacant (s : Shape ι β) : Prop := ∀ i, s.seat i = none

/-- A room is dropped with its last seated user. -/
noncomputable def live (s : Shape ι β) : Option (Shape ι β) :=
  open Classical in if s.Vacant then none else some s

theorem live_some {s t : Shape ι β} (h : s.live = some t) : t = s ∧ ∃ i, s.seat i ≠ none := by
  unfold live at h
  split at h
  next => exact absurd h (by simp)
  next hv =>
    injection h with h
    refine ⟨h.symm, ?_⟩
    by_contra hn
    exact hv fun i => not_not.mp fun hi => hn ⟨i, hi⟩

variable [DecidableEq ι]

/-- Write one seat. -/
def put (s : Shape ι β) (i : ι) (b : Option β) : Shape ι β :=
  { s with seat := Function.update s.seat i b }

@[simp] theorem put_owner (s : Shape ι β) (i : ι) (b : Option β) : (s.put i b).owner = s.owner :=
  rfl

theorem put_seat (s : Shape ι β) (i j : ι) (b : Option β) :
    (s.put i b).seat j = if j = i then b else s.seat j := by
  unfold put
  dsimp only
  rw [Function.update_apply]

end Shape

namespace Directory

variable {κ ι β : Type}

/-- The directory's contract. `who` reads the user off a binding, `o` is the
owner's slot. -/
structure Sound (who : β → κ) (o : ι) (d : Directory κ ι β) : Prop where
  occupied : ∀ {k s}, d.rooms k = some s → ∃ i, s.seat i ≠ none
  owned : ∀ {k s}, d.rooms k = some s → who s.owner = k
  ownerNamed : ∀ {k s}, d.rooms k = some s → d.names k = some s.owner
  named : ∀ {k s i b}, d.rooms k = some s → s.seat i = some b → d.names (who b) = some b
  home : ∀ {k s i b}, d.rooms k = some s → s.seat i = some b → (who b = k ↔ i = o)
  seated : ∀ {k s i b}, d.rooms k = some s → s.seat i = some b → d.seats (who b) = some (k, i)
  member : ∀ {m k i}, d.seats m = some (k, i) →
    ∃ s b, d.rooms k = some s ∧ s.seat i = some b ∧ who b = m

/-- The users with a binding and no role are among `S`. -/
def OrphansIn (S : κ → Prop) (d : Directory κ ι β) : Prop :=
  ∀ k, d.names k ≠ none → d.seats k = none → d.rooms k = none → S k

variable {who : β → κ} {o : ι} {d : Directory κ ι β}

/-- A user is seated in a room exactly where its seat says. -/
theorem Sound.seat_iff (h : d.Sound who o) {k : κ} {s : Shape ι β} (hs : d.rooms k = some s)
    {m : κ} {i : ι} : d.seats m = some (k, i) ↔ ∃ b, s.seat i = some b ∧ who b = m := by
  constructor
  · intro hm
    obtain ⟨s', b, hs', hb, hw⟩ := h.member hm
    rw [hs] at hs'
    injection hs' with hs'
    exact ⟨b, hs' ▸ hb, hw⟩
  · rintro ⟨b, hb, rfl⟩
    exact h.seated hs hb

/-- A bound on the orphans, read where it matters. -/
theorem OrphansIn.mono {S T : κ → Prop} (h : d.OrphansIn S)
    (hT : ∀ k, S k → d.seats k = none → d.rooms k = none → T k) : d.OrphansIn T :=
  fun k hk hseat hroom => hT k (h k hk hseat hroom) hseat hroom

/-- A user without a binding has no role. -/
theorem Sound.nameless (h : d.Sound who o) {k : κ} (hk : d.names k = none) :
    d.rooms k = none ∧ d.seats k = none := by
  constructor
  · cases hr : d.rooms k with
    | none => rfl
    | some s => rw [h.ownerNamed hr] at hk; exact absurd hk (by simp)
  · cases hm : d.seats k with
    | none => rfl
    | some at' =>
      obtain ⟨s, b, hs, hb, hw⟩ := h.member hm
      have hn := h.named hs hb
      rw [hw, hk] at hn
      exact absurd hn (by simp)

/-! ## Pruning -/

/-- Forgetting the bindings of orphans that are all among `S`, and of nobody else,
leaves a sound directory without orphans. -/
theorem Sound.prune (h : d.Sound who o) {S : κ → Prop} (hS : d.OrphansIn S)
    {names : κ → Option β}
    (hkeep : ∀ k, d.rooms k ≠ none ∨ d.seats k ≠ none ∨ ¬ S k → names k = d.names k)
    (hdrop : ∀ k, d.rooms k = none → d.seats k = none → S k → names k = none) :
    ({ d with names := names } : Directory κ ι β).Sound who o ∧
    ({ d with names := names } : Directory κ ι β).OrphansIn fun _ => False := by
  constructor
  · refine ⟨h.occupied, h.owned, ?_, ?_, h.home, h.seated, h.member⟩
    · intro k s hs
      show names k = some s.owner
      rw [hkeep k (Or.inl (by rw [show d.rooms k = some s from hs]; simp))]
      exact h.ownerNamed hs
    · intro k s i b hs hb
      show names (who b) = some b
      rw [hkeep (who b) (Or.inr (Or.inl (by rw [h.seated hs hb]; simp)))]
      exact h.named hs hb
  · intro k hk hseat hroom
    by_cases hSk : S k
    · exact hk (hdrop k hroom hseat hSk)
    · have hn : names k = d.names k := hkeep k (Or.inr (Or.inr hSk))
      exact hSk (hS k (by rw [← hn]; exact hk) hseat hroom)

variable [DecidableEq κ]

/-! ## Enrolling -/

/-- Give a user without a binding one. -/
def enrol (d : Directory κ ι β) (who : β → κ) (b : β) : Directory κ ι β :=
  { d with names := Function.update d.names (who b) (some b) }

theorem enrol_names (b : β) (k : κ) :
    (d.enrol who b).names k = if k = who b then some b else d.names k := by
  unfold enrol
  dsimp only
  rw [Function.update_apply]

theorem Sound.enrol (h : d.Sound who o) {b : β} (hb : d.names (who b) = none) :
    (d.enrol who b).Sound who o := by
  have hkeep : ∀ {k c}, d.names k = some c → (d.enrol who b).names k = some c := by
    intro k c hc
    rw [enrol_names, if_neg]
    · exact hc
    · intro he
      rw [he, hb] at hc
      exact absurd hc (by simp)
  exact ⟨h.occupied, h.owned, fun hs => hkeep (h.ownerNamed hs),
    fun hs hi => hkeep (h.named hs hi), h.home, h.seated, h.member⟩

theorem OrphansIn.enrol {S : κ → Prop} (h : d.OrphansIn S) (b : β) :
    (d.enrol who b).OrphansIn fun k => S k ∨ k = who b := by
  intro k hk hseat hroom
  by_cases he : k = who b
  · exact Or.inr he
  · rw [enrol_names, if_neg he] at hk
    exact Or.inl (h k hk hseat hroom)

/-! ## Closing -/

/-- Drop the room `k` and everybody's seat in it. -/
def close (d : Directory κ ι β) (k : κ) : Directory κ ι β :=
  { d with
    rooms := Function.update d.rooms k none
    seats := fun m => (d.seats m).filter fun at' => at'.1 ≠ k }

theorem close_rooms (k k' : κ) : (d.close k).rooms k' = if k' = k then none else d.rooms k' := by
  unfold close
  dsimp only
  rw [Function.update_apply]

theorem close_seats {k m k' : κ} {i : ι} :
    (d.close k).seats m = some (k', i) ↔ d.seats m = some (k', i) ∧ k' ≠ k := by
  unfold close
  dsimp only
  rw [Option.filter_eq_some_iff]
  simp

theorem Sound.close (h : d.Sound who o) (k : κ) : (d.close k).Sound who o := by
  have hshape : ∀ {k' t}, (d.close k).rooms k' = some t → d.rooms k' = some t ∧ k' ≠ k := by
    intro k' t ht
    rw [close_rooms] at ht
    by_cases he : k' = k
    · rw [if_pos he] at ht
      exact absurd ht (by simp)
    · rw [if_neg he] at ht
      exact ⟨ht, he⟩
  refine ⟨fun ht => h.occupied (hshape ht).1, fun ht => h.owned (hshape ht).1,
    fun ht => h.ownerNamed (hshape ht).1, fun ht hc => h.named (hshape ht).1 hc,
    fun ht hc => h.home (hshape ht).1 hc, ?_, ?_⟩
  · intro k' t j c ht hc
    exact close_seats.mpr ⟨h.seated (hshape ht).1 hc, (hshape ht).2⟩
  · intro m k' j hm
    obtain ⟨hm, hk⟩ := close_seats.mp hm
    obtain ⟨t, c, ht, hc, hw⟩ := h.member hm
    exact ⟨t, c, by rw [close_rooms, if_neg hk]; exact ht, hc, hw⟩

/-- Only the owner and the users seated in the room can lose their last role. -/
theorem OrphansIn.close {S : κ → Prop} (h : d.OrphansIn S) (k : κ) :
    (d.close k).OrphansIn fun x => S x ∨ x = k ∨ ∃ i, d.seats x = some (k, i) := by
  intro x hx hseat hroom
  rw [close_rooms] at hroom
  by_cases hk : x = k
  · exact Or.inr (Or.inl hk)
  · rw [if_neg hk] at hroom
    cases hs : d.seats x with
    | none => exact Or.inl (h x hx hs hroom)
    | some at' =>
      obtain ⟨k', i⟩ := at'
      by_cases he : k' = k
      · exact Or.inr (Or.inr ⟨i, by rw [← he]⟩)
      · have hkeep := (close_seats (d := d)).mpr ⟨hs, he⟩
        rw [hseat] at hkeep
        exact absurd hkeep (by simp)

/-! ## Renaming -/

/-- The binding `b` where the user it names had another. -/
def swap (who : β → κ) (b c : β) : β := if who c = who b then b else c

theorem who_swap (who : β → κ) (b c : β) : who (swap who b c) = who c := by
  unfold swap
  split
  next he => exact he.symm
  next => rfl

/-- A room in which one user goes by another binding. -/
def Shape.rename (who : β → κ) (b : β) (s : Shape ι β) : Shape ι β where
  owner := swap who b s.owner
  seat i := (s.seat i).map (swap who b)

/-- Give a user another binding, everywhere. -/
def rename (d : Directory κ ι β) (who : β → κ) (b : β) : Directory κ ι β where
  rooms k := (d.rooms k).map (Shape.rename who b)
  seats := d.seats
  names := Function.update d.names (who b) (some b)

theorem Sound.rename (h : d.Sound who o) (b : β) : (d.rename who b).Sound who o := by
  have hnames : ∀ {k c}, who c = k → d.names k = some c →
      (d.rename who b).names k = some (swap who b c) := by
    intro k c hw hc
    unfold Directory.rename
    dsimp only
    rw [Function.update_apply]
    unfold swap
    by_cases he : who c = who b
    · rw [if_pos he, if_pos (hw ▸ he)]
    · rw [if_neg he, if_neg (hw ▸ he)]
      exact hc
  have hshape : ∀ {k t}, (d.rename who b).rooms k = some t →
      ∃ s, d.rooms k = some s ∧ t = Shape.rename who b s := by
    intro k t ht
    obtain ⟨s, hs, rfl⟩ := Option.map_eq_some_iff.mp ht
    exact ⟨s, hs, rfl⟩
  have hseat : ∀ {s : Shape ι β} {i c}, (Shape.rename who b s).seat i = some c →
      ∃ c', s.seat i = some c' ∧ c = swap who b c' := by
    intro s i c hc
    obtain ⟨c', hc', rfl⟩ := Option.map_eq_some_iff.mp hc
    exact ⟨c', hc', rfl⟩
  refine ⟨?_, ?_, ?_, ?_, ?_, ?_, ?_⟩
  · intro k t ht
    obtain ⟨s, hs, rfl⟩ := hshape ht
    obtain ⟨i, hi⟩ := h.occupied hs
    refine ⟨i, ?_⟩
    intro hn
    exact hi (Option.map_eq_none_iff.mp hn)
  · intro k t ht
    obtain ⟨s, hs, rfl⟩ := hshape ht
    exact (who_swap who b s.owner).trans (h.owned hs)
  · intro k t ht
    obtain ⟨s, hs, rfl⟩ := hshape ht
    exact hnames (h.owned hs) (h.ownerNamed hs)
  · intro k t i c ht hc
    obtain ⟨s, hs, rfl⟩ := hshape ht
    obtain ⟨c', hc', rfl⟩ := hseat hc
    rw [who_swap who b c']
    exact hnames rfl (h.named hs hc')
  · intro k t i c ht hc
    obtain ⟨s, hs, rfl⟩ := hshape ht
    obtain ⟨c', hc', rfl⟩ := hseat hc
    rw [who_swap who b c']
    exact h.home hs hc'
  · intro k t i c ht hc
    obtain ⟨s, hs, rfl⟩ := hshape ht
    obtain ⟨c', hc', rfl⟩ := hseat hc
    rw [who_swap who b c']
    exact h.seated hs hc'
  · intro m k i hm
    obtain ⟨s, c, hs, hc, hw⟩ := h.member hm
    refine ⟨Shape.rename who b s, swap who b c, ?_, ?_, (who_swap who b c).trans hw⟩
    · exact Option.map_eq_some_iff.mpr ⟨s, hs, rfl⟩
    · exact Option.map_eq_some_iff.mpr ⟨c, hc, rfl⟩

theorem swap_of_ne {b c : β} (h : who c ≠ who b) : swap who b c = c := if_neg h

theorem swap_of_eq {b c : β} (h : who c = who b) : swap who b c = b := if_pos h

/-- Everywhere but in the rooms it has a role in, a renamed user leaves no trace. -/
theorem Sound.rename_elsewhere (h : d.Sound who o) {k : κ} {s : Shape ι β} {b : β}
    (hs : d.rooms k = some s) (hk : who b ≠ k) (hseat : ∀ i, d.seats (who b) ≠ some (k, i)) :
    Shape.rename who b s = s := by
  refine Shape.ext ?_ fun i => ?_
  · exact swap_of_ne (by rw [h.owned hs]; exact fun he => hk he.symm)
  · show (s.seat i).map (swap who b) = s.seat i
    cases hc : s.seat i with
    | none => rfl
    | some c =>
      rw [Option.map_some, swap_of_ne]
      intro he
      have hat := h.seated hs hc
      rw [he] at hat
      exact hseat i hat

/-- A renamed user in the room it is seated in. -/
theorem Sound.rename_member (h : d.Sound who o) {k : κ} {s t : Shape ι β} {b : β} {i : ι}
    (hs : d.rooms k = some s) (hseat : d.seats (who b) = some (k, i))
    (hown : i = o → t.owner = b) (hother : i ≠ o → t.owner = s.owner)
    (hi : t.seat i = some b) (hj : ∀ j, j ≠ i → t.seat j = s.seat j) :
    Shape.rename who b s = t := by
  obtain ⟨c, hc, hw⟩ := (h.seat_iff hs).mp hseat
  refine Shape.ext ?_ fun j => ?_
  · show swap who b s.owner = t.owner
    by_cases hio : i = o
    · have hk : who c = k := (h.home hs hc).mpr hio
      rw [hown hio, swap_of_eq (by rw [h.owned hs, ← hk, hw])]
    · rw [hother hio, swap_of_ne]
      intro he
      rw [h.owned hs, ← hw] at he
      exact hio ((h.home hs hc).mp he.symm)
  · show (s.seat j).map (swap who b) = t.seat j
    by_cases hji : j = i
    · rw [hji, hc, Option.map_some, swap_of_eq hw, hi]
    · rw [hj j hji]
      cases hb : s.seat j with
      | none => rfl
      | some c' =>
        rw [Option.map_some, swap_of_ne]
        intro he
        have hat := h.seated hs hb
        rw [he, hseat] at hat
        injection hat with hat
        injection hat with _ hat
        exact hji hat.symm

/-- A renamed user in the room it owns: only the owner's slot may seat it. -/
theorem Sound.rename_owner (h : d.Sound who o) {s t : Shape ι β} {b : β}
    (hs : d.rooms (who b) = some s) (hown : t.owner = b) (hsame : ∀ i, i ≠ o → t.seat i = s.seat i)
    (hhome : t.seat o = (s.seat o).map fun _ => b) : Shape.rename who b s = t := by
  refine Shape.ext ?_ fun i => ?_
  · exact (swap_of_eq (h.owned hs)).trans hown.symm
  · show (s.seat i).map (swap who b) = t.seat i
    by_cases hi : i = o
    · rw [hi, hhome]
      cases hc : s.seat o with
      | none => rfl
      | some c => rw [Option.map_some, Option.map_some, swap_of_eq ((h.home hs hc).mpr rfl)]
    · rw [hsame i hi]
      cases hc : s.seat i with
      | none => rfl
      | some c =>
        rw [Option.map_some, swap_of_ne]
        intro he
        exact hi ((h.home hs hc).mp he)

/-- Renaming a user to the binding it has changes nothing. -/
theorem Sound.rename_self (h : d.Sound who o) {k : κ} {s : Shape ι β} {b : β}
    (hs : d.rooms k = some s) (hb : d.names (who b) = some b) : Shape.rename who b s = s := by
  have hsame : ∀ {c}, d.names (who c) = some c → swap who b c = c := by
    intro c hc
    by_cases he : who c = who b
    · rw [he, hb] at hc
      injection hc with hc
      rw [swap_of_eq he, hc]
    · exact swap_of_ne he
  refine Shape.ext ?_ fun i => ?_
  · exact hsame (by rw [h.owned hs]; exact h.ownerNamed hs)
  · show (s.seat i).map (swap who b) = s.seat i
    cases hc : s.seat i with
    | none => rfl
    | some c => rw [Option.map_some, hsame (h.named hs hc)]

/-- Renaming a user who has a binding makes no orphans. -/
theorem OrphansIn.rename {S : κ → Prop} (h : d.OrphansIn S) {b : β}
    (hb : d.names (who b) ≠ none) : (d.rename who b).OrphansIn S := by
  intro k hk hseat hroom
  have hold : d.names k ≠ none := by
    unfold Directory.rename at hk
    dsimp only at hk
    rw [Function.update_apply] at hk
    by_cases he : k = who b
    · rw [he]
      exact hb
    · rwa [if_neg he] at hk
  exact h k hold hseat (Option.map_eq_none_iff.mp hroom)

variable [DecidableEq ι]

/-! ## Seating -/

/-- Seat a binding in the room `k`, whose shape before is `s`. -/
def sit (d : Directory κ ι β) (who : β → κ) (k : κ) (s : Shape ι β) (i : ι) (b : β) :
    Directory κ ι β :=
  { d with
    rooms := Function.update d.rooms k (some (s.put i (some b)))
    seats := Function.update d.seats (who b) (some (k, i)) }

theorem sit_rooms (k : κ) (s : Shape ι β) (i : ι) (b : β) (k' : κ) :
    (d.sit who k s i b).rooms k' = if k' = k then some (s.put i (some b)) else d.rooms k' := by
  unfold sit
  dsimp only
  rw [Function.update_apply]

theorem sit_seats (k : κ) (s : Shape ι β) (i : ι) (b : β) (m : κ) :
    (d.sit who k s i b).seats m = if m = who b then some (k, i) else d.seats m := by
  unfold sit
  dsimp only
  rw [Function.update_apply]

/-- A free slot of an existing room, or any slot of a new one, seats a user who is
seated nowhere. -/
theorem Sound.sit (h : d.Sound who o) {k : κ} {s : Shape ι β} {i : ι} {b : β}
    (hroom : d.rooms k = some s ∨ (d.rooms k = none ∧ s.Vacant))
    (howner : who s.owner = k) (hname : d.names k = some s.owner) (hfree : s.seat i = none)
    (hb : d.names (who b) = some b) (hseat : d.seats (who b) = none) (hhome : who b = k ↔ i = o) :
    (d.sit who k s i b).Sound who o := by
  -- what the seats of `s` say was already true before
  have hold : ∀ {j c}, s.seat j = some c → d.names (who c) = some c ∧ (who c = k ↔ j = o) ∧
      d.seats (who c) = some (k, j) := by
    intro j c hc
    rcases hroom with hs | ⟨-, hv⟩
    · exact ⟨h.named hs hc, h.home hs hc, h.seated hs hc⟩
    · rw [hv j] at hc
      exact absurd hc (by simp)
  have hshape : ∀ {k' t}, (d.sit who k s i b).rooms k' = some t →
      (k' = k ∧ t = s.put i (some b)) ∨ (k' ≠ k ∧ d.rooms k' = some t) := by
    intro k' t ht
    rw [sit_rooms] at ht
    by_cases he : k' = k
    · rw [if_pos he] at ht
      injection ht with ht
      exact Or.inl ⟨he, ht.symm⟩
    · rw [if_neg he] at ht
      exact Or.inr ⟨he, ht⟩
  have hput : ∀ {j c}, (s.put i (some b)).seat j = some c → (j = i ∧ c = b) ∨ s.seat j = some c := by
    intro j c hc
    rw [Shape.put_seat] at hc
    by_cases he : j = i
    · rw [if_pos he] at hc
      injection hc with hc
      exact Or.inl ⟨he, hc.symm⟩
    · rw [if_neg he] at hc
      exact Or.inr hc
  -- nobody seated before is the user who sits down
  have hother : ∀ {m at'}, d.seats m = some at' → (d.sit who k s i b).seats m = some at' := by
    intro m at' hm
    rw [sit_seats, if_neg]
    · exact hm
    · intro he
      rw [he, hseat] at hm
      exact absurd hm (by simp)
  refine ⟨?_, ?_, ?_, ?_, ?_, ?_, ?_⟩
  · intro k' t ht
    rcases hshape ht with ⟨-, rfl⟩ | ⟨-, hd⟩
    · refine ⟨i, ?_⟩
      rw [Shape.put_seat, if_pos rfl]
      simp
    · exact h.occupied hd
  · intro k' t ht
    rcases hshape ht with ⟨rfl, rfl⟩ | ⟨-, hd⟩
    · exact howner
    · exact h.owned hd
  · intro k' t ht
    rcases hshape ht with ⟨rfl, rfl⟩ | ⟨-, hd⟩
    · exact hname
    · exact h.ownerNamed hd
  · intro k' t j c ht hc
    rcases hshape ht with ⟨rfl, rfl⟩ | ⟨-, hd⟩
    · rcases hput hc with ⟨-, rfl⟩ | hc
      · exact hb
      · exact (hold hc).1
    · exact h.named hd hc
  · intro k' t j c ht hc
    rcases hshape ht with ⟨rfl, rfl⟩ | ⟨-, hd⟩
    · rcases hput hc with ⟨rfl, rfl⟩ | hc
      · exact hhome
      · exact (hold hc).2.1
    · exact h.home hd hc
  · intro k' t j c ht hc
    rcases hshape ht with ⟨rfl, rfl⟩ | ⟨-, hd⟩
    · rcases hput hc with ⟨rfl, rfl⟩ | hc
      · rw [sit_seats, if_pos rfl]
      · exact hother (hold hc).2.2
    · exact hother (h.seated hd hc)
  · intro m k' j hm
    rw [sit_seats] at hm
    by_cases he : m = who b
    · rw [if_pos he] at hm
      injection hm with hm
      injection hm with hk hi
      refine ⟨s.put i (some b), b, ?_, ?_, he.symm⟩
      · rw [sit_rooms, if_pos hk.symm]
      · rw [Shape.put_seat, if_pos hi.symm]
    · rw [if_neg he] at hm
      obtain ⟨t, c, ht, hc, hw⟩ := h.member hm
      by_cases hk : k' = k
      · refine ⟨s.put i (some b), c, ?_, ?_, hw⟩
        · rw [sit_rooms, if_pos hk]
        · have hts : t = s := by
            rcases hroom with hs | ⟨hs, -⟩
            · rw [hk, hs] at ht
              injection ht with ht
              exact ht.symm
            · rw [hk, hs] at ht
              exact absurd ht (by simp)
          rw [hts] at hc
          rw [Shape.put_seat, if_neg]
          · exact hc
          · intro hj
            rw [hj, hfree] at hc
            exact absurd hc (by simp)
      · exact ⟨t, c, by rw [sit_rooms, if_neg hk]; exact ht, hc, hw⟩

/-- Sitting down gives the owner and the user a role. -/
theorem OrphansIn.sit {S T : κ → Prop} (h : d.OrphansIn S) {k : κ} {s : Shape ι β} {i : ι} {b : β}
    (hT : ∀ x, S x → x ≠ k → x ≠ who b → T x) : (d.sit who k s i b).OrphansIn T := by
  intro x hx hseat hroom
  rw [sit_seats] at hseat
  rw [sit_rooms] at hroom
  by_cases hb : x = who b
  · rw [if_pos hb] at hseat
    exact absurd hseat (by simp)
  · by_cases hk : x = k
    · rw [if_pos hk] at hroom
      exact absurd hroom (by simp)
    · rw [if_neg hb] at hseat
      rw [if_neg hk] at hroom
      exact hT x (h x hx hseat hroom) hk hb

/-! ## Vacating -/

/-- Take the user `m` out of the slot `i` of the room `k`. -/
noncomputable def vacate (d : Directory κ ι β) (m k : κ) (s : Shape ι β) (i : ι) :
    Directory κ ι β :=
  { d with
    rooms := Function.update d.rooms k (s.put i none).live
    seats := Function.update d.seats m none }

theorem vacate_rooms (m k : κ) (s : Shape ι β) (i : ι) (k' : κ) :
    (d.vacate m k s i).rooms k' = if k' = k then (s.put i none).live else d.rooms k' := by
  unfold vacate
  dsimp only
  rw [Function.update_apply]

theorem vacate_seats (m k : κ) (s : Shape ι β) (i : ι) (m' : κ) :
    (d.vacate m k s i).seats m' = if m' = m then none else d.seats m' := by
  unfold vacate
  dsimp only
  rw [Function.update_apply]

theorem Sound.vacate (h : d.Sound who o) {m k : κ} {s : Shape ι β} {i : ι}
    (hs : d.rooms k = some s) (hm : d.seats m = some (k, i)) :
    (d.vacate m k s i).Sound who o := by
  have hshape : ∀ {k' t}, (d.vacate m k s i).rooms k' = some t →
      ∃ t', d.rooms k' = some t' ∧ t.owner = t'.owner ∧ (∃ j, t.seat j ≠ none) ∧
        ∀ {j c}, t.seat j = some c → t'.seat j = some c ∧ who c ≠ m := by
    intro k' t ht
    rw [vacate_rooms] at ht
    by_cases he : k' = k
    · rw [if_pos he] at ht
      obtain ⟨rfl, hocc⟩ := Shape.live_some ht
      refine ⟨s, he ▸ hs, rfl, hocc, ?_⟩
      intro j c hc
      rw [Shape.put_seat] at hc
      by_cases hj : j = i
      · rw [if_pos hj] at hc
        exact absurd hc (by simp)
      · rw [if_neg hj] at hc
        refine ⟨hc, ?_⟩
        intro hw
        have hat := h.seated hs hc
        rw [hw, hm] at hat
        injection hat with hat
        injection hat with _ hat
        exact hj hat.symm
    · rw [if_neg he] at ht
      refine ⟨t, ht, rfl, h.occupied ht, ?_⟩
      intro j c hc
      refine ⟨hc, ?_⟩
      intro hw
      have hat := h.seated ht hc
      rw [hw, hm] at hat
      injection hat with hat
      injection hat with hat
      exact he hat.symm
  refine ⟨?_, ?_, ?_, ?_, ?_, ?_, ?_⟩
  · intro k' t ht
    exact (hshape ht).choose_spec.2.2.1
  · intro k' t ht
    obtain ⟨t', ht', ho, -⟩ := hshape ht
    rw [ho]
    exact h.owned ht'
  · intro k' t ht
    obtain ⟨t', ht', ho, -⟩ := hshape ht
    rw [ho]
    exact h.ownerNamed ht'
  · intro k' t j c ht hc
    obtain ⟨t', ht', -, -, hold⟩ := hshape ht
    exact h.named ht' (hold hc).1
  · intro k' t j c ht hc
    obtain ⟨t', ht', -, -, hold⟩ := hshape ht
    exact h.home ht' (hold hc).1
  · intro k' t j c ht hc
    obtain ⟨t', ht', -, -, hold⟩ := hshape ht
    rw [vacate_seats, if_neg (hold hc).2]
    exact h.seated ht' (hold hc).1
  · intro m' k' j hm'
    rw [vacate_seats] at hm'
    by_cases he : m' = m
    · rw [if_pos he] at hm'
      exact absurd hm' (by simp)
    · rw [if_neg he] at hm'
      obtain ⟨t, c, ht, hc, hw⟩ := h.member hm'
      by_cases hk : k' = k
      · have hts : t = s := by
          rw [hk, hs] at ht
          injection ht with ht
          exact ht.symm
        rw [hts] at hc
        have hj : j ≠ i := by
          intro hj
          obtain ⟨b, hb, hwb⟩ := (h.seat_iff hs).mp hm
          rw [hj, hb] at hc
          injection hc with hc
          rw [← hc, hwb] at hw
          exact he hw.symm
        have hkeep : (s.put i none).seat j = some c := by
          rw [Shape.put_seat, if_neg hj]
          exact hc
        refine ⟨s.put i none, c, ?_, hkeep, hw⟩
        rw [vacate_rooms, if_pos hk]
        unfold Shape.live
        rw [if_neg]
        intro hv
        rw [hv j] at hkeep
        exact absurd hkeep (by simp)
      · exact ⟨t, c, by rw [vacate_rooms, if_neg hk]; exact ht, hc, hw⟩

/-- Only the user who leaves and the owner of the room can lose their last role. -/
theorem OrphansIn.vacate {S : κ → Prop} (h : d.OrphansIn S) {m k : κ} {s : Shape ι β} {i : ι} :
    (d.vacate m k s i).OrphansIn fun x => S x ∨ x = m ∨ x = k := by
  intro x hx hseat hroom
  rw [vacate_seats] at hseat
  rw [vacate_rooms] at hroom
  by_cases hm : x = m
  · exact Or.inr (Or.inl hm)
  · by_cases hk : x = k
    · exact Or.inr (Or.inr hk)
    · rw [if_neg hm] at hseat
      rw [if_neg hk] at hroom
      exact Or.inl (h x hx hseat hroom)

end Directory

end P4475.Lib
