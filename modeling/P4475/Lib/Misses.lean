import Mathlib.Data.List.Basic

/-!
# Receivers that miss something

A log says of every item that was offered to a receiver whether the receiver took it. When a
receiver that missed one item takes none afterwards, what it took is the first part of what it was
offered. A log is cut at any point: the rules add the end of a log to one that is already known.
-/

namespace P4475.Lib

variable {κ β : Type}

/-- An item for a receiver, and whether it was taken. -/
structure Offer (κ β : Type) where
  receiver : κ
  item : β
  taken : Bool

/-- After its first miss a receiver takes nothing. -/
def NoneAfterMiss (log : List (Offer κ β)) : Prop :=
  log.Pairwise fun earlier later =>
    earlier.receiver = later.receiver → earlier.taken = false → later.taken = false

theorem NoneAfterMiss.nil : NoneAfterMiss ([] : List (Offer κ β)) :=
  List.Pairwise.nil

theorem noneAfterMiss_append {log more : List (Offer κ β)} : NoneAfterMiss (log ++ more) ↔
    NoneAfterMiss log ∧ NoneAfterMiss more ∧ ∀ earlier ∈ log, ∀ later ∈ more,
      earlier.receiver = later.receiver → earlier.taken = false → later.taken = false :=
  List.pairwise_append

/-- One offer that is not taken spoils nothing. -/
theorem NoneAfterMiss.missed {log : List (Offer κ β)} (h : NoneAfterMiss log) (k : κ) (item : β) :
    NoneAfterMiss (log ++ [⟨k, item, false⟩]) := by
  refine noneAfterMiss_append.mpr ⟨h, List.pairwise_singleton _ _, ?_⟩
  intro earlier _ later hlater _ _
  rw [List.mem_singleton.mp hlater]

/-- Offers that are all taken, by receivers that missed nothing yet. -/
theorem NoneAfterMiss.taken {log more : List (Offer κ β)} (h : NoneAfterMiss log)
    (hmore : ∀ offer ∈ more, offer.taken = true)
    (hfresh : ∀ earlier ∈ log, earlier.taken = false →
      ∀ offer ∈ more, earlier.receiver ≠ offer.receiver) : NoneAfterMiss (log ++ more) := by
  refine noneAfterMiss_append.mpr ⟨h, ?_, ?_⟩
  · refine List.Pairwise.imp_of_mem (R := fun _ _ => True) ?_ (List.pairwise_of_forall fun _ _ => trivial)
    intro earlier later hearlier _ _ _ hmissed
    rw [hmore earlier hearlier] at hmissed
    cases hmissed
  · intro earlier hearlier later hlater hsame hmissed
    exact absurd hsame (hfresh earlier hearlier hmissed later hlater)

/-- Offers that nobody takes. -/
theorem NoneAfterMiss.refused {log more : List (Offer κ β)} (h : NoneAfterMiss log)
    (hmore : ∀ offer ∈ more, offer.taken = false) : NoneAfterMiss (log ++ more) := by
  have hlast : ∀ earlier ∈ log ++ more, ∀ later ∈ more,
      earlier.receiver = later.receiver → earlier.taken = false → later.taken = false := by
    intro _ _ later hlater _ _
    exact hmore later hlater
  refine noneAfterMiss_append.mpr ⟨h, ?_, fun earlier he => hlast earlier (List.mem_append_left _ he)⟩
  exact List.pairwise_of_forall_mem_list fun earlier he => hlast earlier (List.mem_append_right _ he)

section

variable [DecidableEq κ]

/-- What a receiver was offered. -/
def offered (log : List (Offer κ β)) (k : κ) : List β :=
  (log.filter fun offer => offer.receiver = k).map (·.item)

/-- What a receiver took. -/
def received (log : List (Offer κ β)) (k : κ) : List β :=
  (log.filter fun offer => offer.receiver = k ∧ offer.taken = true).map (·.item)

@[simp] theorem offered_append (log more : List (Offer κ β)) (k : κ) :
    offered (log ++ more) k = offered log k ++ offered more k := by
  simp [offered]

@[simp] theorem received_append (log more : List (Offer κ β)) (k : κ) :
    received (log ++ more) k = received log k ++ received more k := by
  simp [received]

theorem received_of_refused {log : List (Offer κ β)} (h : ∀ offer ∈ log, offer.taken = false)
    (k : κ) : received log k = [] := by
  unfold received
  rw [List.map_eq_nil_iff, List.filter_eq_nil_iff]
  intro offer ho
  simp [h offer ho]

theorem received_of_taken {log : List (Offer κ β)} (h : ∀ offer ∈ log, offer.taken = true)
    (k : κ) : received log k = offered log k := by
  unfold received offered
  congr 1
  refine List.filter_congr fun offer ho => ?_
  simp [h offer ho]

/-- Once a receiver has missed an item, the rest of the log gives it nothing. -/
theorem received_after_miss {offer : Offer κ β} {log : List (Offer κ β)}
    (h : NoneAfterMiss (offer :: log)) (hmissed : offer.taken = false) :
    received log offer.receiver = [] := by
  unfold received
  rw [List.map_eq_nil_iff, List.filter_eq_nil_iff]
  intro later hlater hboth
  obtain ⟨hreceiver, htaken⟩ := of_decide_eq_true hboth
  have hnot := (List.pairwise_cons.mp h).1 later hlater hreceiver.symm hmissed
  rw [htaken] at hnot
  cases hnot

/-- **What a receiver took is the first part of what it was offered.** -/
theorem NoneAfterMiss.received_prefix {log : List (Offer κ β)} (h : NoneAfterMiss log) (k : κ) :
    received log k <+: offered log k := by
  induction log with
  | nil => exact List.prefix_refl _
  | cons offer log ih =>
    have hrest := ih (List.pairwise_cons.mp h).2
    by_cases hk : offer.receiver = k
    · subst hk
      cases htaken : offer.taken with
      | true => simpa [received, offered, htaken] using hrest
      | false =>
        -- nothing is taken from here on
        have hnone := received_after_miss h htaken
        have hreceived : received (offer :: log) offer.receiver = [] := by
          rw [← hnone]
          simp [received, htaken]
        rw [hreceived]
        exact List.nil_prefix
    · simpa [received, offered, hk] using hrest

end

end P4475.Lib
