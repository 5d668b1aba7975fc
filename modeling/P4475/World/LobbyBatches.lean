import P4475.World.Invariant

/-!
# What a lobby command publishes

A command either leaves the tables alone or commits: it has reserved a queue slot for
each of its batches, the new tables are in place, and the batches go out. `Addressed` is
what the commit needs of the deliveries, one for each user of the room; that every
session then gets exactly one batch rests on two users never sharing a session.
-/

namespace P4475

open Lib ProtocolRoomState

variable {H Q P : Type} {env : WorldEnv H Q P}

namespace IdentityRegistry

variable {r : IdentityRegistry} {unicode : Unicode} {expiring : List Text}
  {leases : List IdentityOperationLease} {fresh : List MigrationCandidate}

end IdentityRegistry

namespace World

variable {w w' : World H}

/-- What is reserved is what was asked for, and each recipient is there. -/
theorem reserve_ok {held deliveries reserved : List OutboundDelivery}
    (h : w.reserve held deliveries = .ok reserved) : reserved = held ++ deliveries ∧
      ∀ d ∈ deliveries, ∃ state, w.sessions.lookup d.1 = some state := by
  induction deliveries generalizing held with
  | nil =>
    unfold reserve at h
    cases h
    exact ⟨(List.append_nil _).symm, fun d hd => absurd hd List.not_mem_nil⟩
  | cons d rest ih =>
    unfold reserve at h
    split at h
    next => exact absurd h (by simp)
    next state hs =>
      split at h
      next =>
        obtain ⟨he, hrest⟩ := ih h
        refine ⟨by rw [he, List.append_assoc]; rfl, fun d' hd' => ?_⟩
        rcases List.mem_cons.mp hd' with rfl | hd'
        · exact ⟨state, hs⟩
        · exact hrest d' hd'
      next => exact absurd h (by simp)

theorem send_lookup (w : World H) (d : OutboundDelivery) (s : SessionId) :
    (w.send d).sessions.lookup s =
      (w.sessions.lookup s).map fun state => if d.1 = s then state.enqueue d.2 else state := by
  unfold send
  by_cases he : d.1 = s
  · subst he
    split
    next state hs => rw [Map.lookup_insert_ite, if_pos rfl, hs, Option.map_some, if_pos rfl]
    next hs => rw [hs, Option.map_none]
  · split
    next state hs =>
      rw [Map.lookup_insert_ite, if_neg fun h => he h.symm]
      simp [he]
    next => simp [he]

/-- A session gets the batches that are addressed to it, in order. -/
theorem publishReserved_lookup (w : World H) (deliveries : List OutboundDelivery)
    (s : SessionId) : (w.publishReserved deliveries).sessions.lookup s =
      (w.sessions.lookup s).map fun state =>
        (deliveries.filter (·.1 = s)).foldl (fun state d => state.enqueue d.2) state := by
  unfold publishReserved
  induction deliveries generalizing w with
  | nil => simp
  | cons d rest ih =>
    rw [List.foldl_cons, ih, send_lookup, Option.map_map]
    congr 1
    funext state
    by_cases he : d.1 = s
    · simp [he]
    · simp [he]

/-! ## Batches for a room -/

/-- A delivery to the session of a user. -/
def Addresses (w : World H) (meant : UserNo → OutboundBatch → Prop) (userNo : UserNo)
    (d : OutboundDelivery) : Prop :=
  ∃ binding, w.activeIdentity userNo = some binding ∧ d.1 = binding.owner ∧ meant userNo d.2

/-- One delivery for each of the users, and others for somebody else. -/
def Addressed (w : World H) (users : List UserNo) (meant : UserNo → OutboundBatch → Prop)
    (deliveries : List OutboundDelivery) : Prop :=
  ∃ own others, deliveries = own ++ others ∧ List.Forall₂ (w.Addresses meant) users own ∧
    ∀ d ∈ others, ∃ userNo ∉ users, w.Addresses (fun _ _ => True) userNo d

variable {meant : UserNo → OutboundBatch → Prop} {users : List UserNo}

end World

/-! ## The packets of each command -/

namespace World

variable {w w' : World H} {identity : IdentityBinding} {room next : ProtocolRoomState}
  {id : RoomId} {meant : ProtocolRoomState → UserNo → OutboundBatch → Prop}

theorem Addressed.all {users : List UserNo} {meant : UserNo → OutboundBatch → Prop}
    {deliveries : List OutboundDelivery} (h : List.Forall₂ (w.Addresses meant) users deliveries) :
    w.Addressed users meant deliveries :=
  ⟨deliveries, [], (List.append_nil _).symm, h, fun _ hd => absurd hd List.not_mem_nil⟩

theorem numbered_snd {α : Type} (s : RoomSlots α) : (numbered s).map Prod.snd = s.entries := by
  unfold numbered Slots.entries
  rw [List.map_filterMap]
  refine List.filterMap_congr fun i _ => ?_
  cases s i <;> rfl

/-- A lobby command leads to a world that a run may pass through. -/
theorem Visited.lobbyCommand (h : w.Visited env) (session : SessionId)
    (payload : LobbyCommandPayload) : (w.lobbyCommand env session payload).2.Visited env :=
  h.later (later_of_edits (lobbyCommand_within env w session payload).edits)

end World

end P4475
