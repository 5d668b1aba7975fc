import P4475.Lib.Misses
import P4475.World.LobbyBatches

/-!
# A call of `deliver`

`Delivering` is the loop of `deliver` between two rounds, with a record of what became of each batch
and of the sessions that were closed. The transports empty and close the queues while the call runs,
so a run puts any change of the queues before each round. A close looks at every queue at most once,
after the one that failed, so nothing more can happen in its middle.
-/

namespace P4475

open Lib

variable {H Q P : Type}

/-- What became of a delivery. -/
def OutboundDelivery.offer (d : OutboundDelivery) (taken : Bool) :
    Offer SessionId OutboundBatch := ⟨d.1, d.2, taken⟩

namespace World

variable (env : WorldEnv H Q P)

/-- The batches that a release has for MyRoom members: all are put into the queues, or none. -/
def releaseOffers (w : World H) (identity : ReleasedIdentity) (publishWire : Bool) :
    List (Offer SessionId OutboundBatch) :=
  match env.hub.disconnectReleased w.myroom identity with
  | .error _ => []
  | .ok (_, fanout) =>
    if publishWire then
      match w.myroomDeliveries fanout [] with
      | .error _ => []
      | .ok deliveries => deliveries.map (OutboundDelivery.offer · (w.reserve [] deliveries).isOk)
    else []

/-- The batches of `closeSessionState` that do not wait. -/
def closeOffers (w : World H) (session : SessionId) (now : Instant) (publishWire : Bool) :
    List (Offer SessionId OutboundBatch) :=
  match { w with sessions := w.sessions.erase session }.disconnectIdentity env session now with
  | (.released identity, w) =>
    { w with observedP2pPorts := w.observedP2pPorts.erase identity.userNo }.releaseOffers env
      identity publishWire
  | _ => []

/-- The batches of `failSession` that do not wait. -/
def failOffers (w : World H) (session : SessionId) (now : Instant) :
    List (Offer SessionId OutboundBatch) :=
  match w.deferSessionClose session with
  | some _ => []
  | none => w.closeOffers env session now (!w.quiescing)

end World

/-- The loop of `deliver`. `offers` and `closings` record what it did; `result` is what it returns,
once it does. -/
structure Delivering (H : Type) where
  pending : List OutboundDelivery
  failed : List SessionId
  world : World H
  offers : List (Offer SessionId OutboundBatch)
  closings : List SessionId
  result : Option (Except MyRoomLifecycleError Unit)

namespace Delivering

def start (w : World H) (deliveries : List OutboundDelivery) : Delivering H :=
  ⟨deliveries, [], w, [], [], none⟩

section

variable (env : WorldEnv H Q P) (now : Instant)

/-- One round of the loop. -/
def round (d : Delivering H) : Delivering H :=
  match d.pending with
  | [] => { d with result := some (.ok ()) }
  | delivery :: rest =>
    match d.world.sessions.lookup delivery.1 with
    | none => { d with pending := rest, offers := d.offers ++ [delivery.offer false] }
    | some state =>
      if state.accepts 0 then { d with
        pending := rest
        world := d.world.send delivery
        offers := d.offers ++ [delivery.offer true] }
      else if delivery.1 ∈ d.failed then
        { d with pending := rest, offers := d.offers ++ [delivery.offer false] }
      else
        let d := { d with
          failed := delivery.1 :: d.failed
          offers := d.offers ++ [delivery.offer false] ++
            d.world.failOffers env delivery.1 now
          closings := d.closings ++ [delivery.1] }
        match d.world.failSession env delivery.1 now with
        | (.error e, w) => { d with pending := rest, world := w, result := some (.error e) }
        | (.ok more, w) => { d with pending := rest ++ more, world := w }

/-- A round of a call in whose queues nothing happens meanwhile. -/
def Round (d d' : Delivering H) : Prop := d.result = none ∧ d' = d.round env now

end

end Delivering

/-- The queues may have been filled, emptied or closed; the same sessions are there. -/
def World.Requeued (w w' : World H) : Prop :=
  ∃ sessions : Map SessionId SessionState,
    (∀ s, (sessions.lookup s).isSome = (w.sessions.lookup s).isSome) ∧
      w' = { w with sessions := sessions }

namespace Delivering

variable (env : WorldEnv H Q P) (now : Instant)

/-- A round, before which anything may have happened to the queues. -/
def Goes (d d' : Delivering H) : Prop :=
  d.result = none ∧ ∃ w, d.world.Requeued w ∧ d' = { d with world := w }.round env now

/-- Any number of rounds. -/
abbrev Runs : Delivering H → Delivering H → Prop := Relation.ReflTransGen (Goes env now)

end Delivering

/-! ## What a close does to the sessions -/

namespace World

variable {env : WorldEnv H Q P} {w w' w₁ : World H}

theorem Requeued.refl (w : World H) : w.Requeued w := ⟨w.sessions, fun _ => rfl, rfl⟩

theorem Requeued.lookup_none (h : w.Requeued w') {s : SessionId}
    (hs : w.sessions.lookup s = none) : w'.sessions.lookup s = none := by
  obtain ⟨sessions, hsame, rfl⟩ := h
  have hnone := hsame s
  rw [hs, Option.isSome_none] at hnone
  exact Option.isSome_eq_false_iff.mp hnone |> Option.isNone_iff_eq_none.mp

theorem Requeued.card (h : w.Requeued w') : w'.sessions.keys.card = w.sessions.keys.card := by
  obtain ⟨sessions, hsame, rfl⟩ := h
  congr 1
  ext s
  rw [Finmap.mem_keys, Finmap.mem_keys, ← Finmap.lookup_isSome, ← Finmap.lookup_isSome, hsame]

/-- Batches that all go out. -/
def published (reserved : List OutboundDelivery) : List (Offer SessionId OutboundBatch) :=
  reserved.map (OutboundDelivery.offer · true)

theorem published_lookup (w : World H) (reserved : List OutboundDelivery) (s : SessionId) :
    (w.publishReserved reserved).sessions.lookup s =
      (w.sessions.lookup s).map fun state =>
        (received (published reserved) s).foldl SessionState.enqueue state := by
  have htaken : ∀ offer ∈ published reserved, offer.taken = true := by
    intro offer ho
    obtain ⟨d, -, rfl⟩ := List.mem_map.mp ho
    rfl
  have hreceived : received (published reserved) s =
      (reserved.filter (·.1 = s)).map (·.2) := by
    rw [received_of_taken htaken]
    unfold offered published
    rw [List.filter_map, List.map_map]
    rfl
  rw [publishReserved_lookup, hreceived]
  congr 1
  funext state
  rw [List.foldl_map]

/-- A plan that succeeds puts every batch into a queue that is there. -/
theorem releaseOffers_planned {identity : ReleasedIdentity} {publishWire : Bool}
    {reserved : List OutboundDelivery} {next : H}
    (h : w.planMyroomRelease env identity [] publishWire = .ok (reserved, next)) :
    w.releaseOffers env identity publishWire = published reserved ∧
      ∀ d ∈ reserved, ∃ state, w.sessions.lookup d.1 = some state := by
  unfold planMyroomRelease at h
  unfold releaseOffers
  cases hhub : env.hub.disconnectReleased w.myroom identity with
  | error e =>
    rw [hhub] at h
    cases h
  | ok planned =>
    rw [hhub] at h
    dsimp only at h ⊢
    cases publishWire with
    | false =>
      cases h
      exact ⟨rfl, fun d hd => absurd hd List.not_mem_nil⟩
    | true =>
      rw [if_pos rfl] at h ⊢
      cases hdeliveries : w.myroomDeliveries planned.2 [] with
      | error e =>
        rw [hdeliveries] at h
        cases h
      | ok deliveries =>
        rw [hdeliveries] at h
        dsimp only at h ⊢
        cases hr : w.reserve [] deliveries with
        | error e =>
          rw [hr] at h
          cases h
        | ok r =>
          rw [hr] at h
          cases h
          obtain ⟨rfl, hthere⟩ := reserve_ok hr
          exact ⟨rfl, hthere⟩

/-- A plan that fails puts none into a queue. -/
theorem releaseOffers_refused {identity : ReleasedIdentity} {publishWire : Bool}
    {e : MyRoomLifecycleError}
    (h : w.planMyroomRelease env identity [] publishWire = .error e) :
    ∀ offer ∈ w.releaseOffers env identity publishWire, offer.taken = false := by
  unfold planMyroomRelease at h
  unfold releaseOffers
  cases hhub : env.hub.disconnectReleased w.myroom identity with
  | error e => exact fun offer ho => absurd ho List.not_mem_nil
  | ok planned =>
    rw [hhub] at h
    dsimp only at h ⊢
    cases publishWire with
    | false => cases h
    | true =>
      rw [if_pos rfl] at h ⊢
      cases hdeliveries : w.myroomDeliveries planned.2 [] with
      | error e => exact fun offer ho => absurd ho List.not_mem_nil
      | ok deliveries =>
        rw [hdeliveries] at h
        dsimp only at h ⊢
        cases hr : w.reserve [] deliveries with
        | error e' =>
          intro offer ho
          obtain ⟨d, -, rfl⟩ := List.mem_map.mp ho
          rfl
        | ok r =>
          rw [hr] at h
          cases h

theorem leavePlainRoom_sessions (w : World H) (nickname : Text) :
    (w.leavePlainRoom nickname).sessions = w.sessions := by
  unfold leavePlainRoom
  split
  next => rfl
  next =>
    dsimp only
    split
    next => rfl
    next => split <;> rfl

theorem removeProtocolUser_sessions (w : World H) (userNo : UserNo) :
    (w.removeProtocolUser env userNo).2.sessions = w.sessions := by
  unfold removeProtocolUser
  dsimp only
  split
  next => rfl
  next => split <;> rfl

/-- What a step does to the queues: it puts in what the log says was taken. -/
def Fills (w w' : World H) (log : List (Offer SessionId OutboundBatch)) : Prop :=
  ∀ s, w'.sessions.lookup s =
    (w.sessions.lookup s).map fun state => (received log s).foldl SessionState.enqueue state

variable {log : List (Offer SessionId OutboundBatch)} {ok : Bool}

theorem Fills.beside (h : w.Fills w' log) (hsame : w.sessions = w₁.sessions) :
    w₁.Fills w' log := by
  intro s
  rw [← hsame]
  exact h s

theorem Fills.refused (hsame : w'.sessions = w.sessions) (h : ∀ offer ∈ log, offer.taken = false) :
    w.Fills w' log := by
  intro s
  rw [hsame, received_of_refused h]
  exact Option.map_id.symm ▸ rfl

/-- Either every batch goes to a queue that is there, or none does and the call fails. -/
def AllOrNone (w : World H) (log : List (Offer SessionId OutboundBatch)) (ok : Bool) : Prop :=
  (∀ offer ∈ log, offer.taken = true ∧ ∃ state, w.sessions.lookup offer.receiver = some state) ∨
    ok = false ∧ ∀ offer ∈ log, offer.taken = false

theorem AllOrNone.beside (h : w.AllOrNone log ok) (hsame : w.sessions = w₁.sessions) :
    w₁.AllOrNone log ok := by
  unfold AllOrNone at h ⊢
  rw [← hsame]
  exact h

theorem AllOrNone.nil (ok : Bool) : w.AllOrNone [] ok :=
  .inl fun _ ho => absurd ho List.not_mem_nil

theorem releaseIdentityState_offers (env : WorldEnv H Q P) (w : World H)
    (identity : ReleasedIdentity) (publishWire : Bool) :
    let log := { w with observedP2pPorts := w.observedP2pPorts.erase identity.userNo }.releaseOffers
      env identity publishWire
    w.Fills (w.releaseIdentityState env identity [] publishWire).2 log ∧
      w.AllOrNone log (w.releaseIdentityState env identity [] publishWire).1.isOk := by
  intro log
  unfold releaseIdentityState
  dsimp only
  split
  next e hplan =>
    have hrefused := releaseOffers_refused hplan
    exact ⟨.refused rfl hrefused, .inr ⟨rfl, hrefused⟩⟩
  next reserved next hplan =>
    obtain ⟨hlog, hthere⟩ := releaseOffers_planned hplan
    refine ⟨fun s => ?_, .inl ?_⟩
    · rw [removeProtocolUser_sessions, leavePlainRoom_sessions]
      refine (published_lookup _ reserved s).trans ?_
      rw [← hlog]
    · show ∀ offer ∈ log, _
      rw [show log = published reserved from hlog]
      intro offer ho
      obtain ⟨d, hd, rfl⟩ := List.mem_map.mp ho
      exact ⟨rfl, hthere d hd⟩

theorem disconnectIdentity_sessions (env : WorldEnv H Q P) (w : World H) (session : SessionId)
    (now : Instant) :
    (w.disconnectIdentity env session now).2.sessions = w.sessions := rfl

/-- **A close** takes its session out, and gives the others what its release has for them. -/
theorem closeSessionState_offers (env : WorldEnv H Q P) (w : World H) (session : SessionId)
    (now : Instant) (publishWire : Bool) :
    let log := w.closeOffers env session now publishWire
    let closed := { w with sessions := w.sessions.erase session }
    closed.Fills (w.closeSessionState env session now publishWire).2 log ∧
      closed.AllOrNone log (w.closeSessionState env session now publishWire).1.isOk := by
  intro log closed
  have hsessions := disconnectIdentity_sessions env closed session now
  show closed.Fills _ (closeOffers env w session now publishWire) ∧
    closed.AllOrNone (closeOffers env w session now publishWire) _
  unfold closeSessionState closeOffers
  dsimp only
  cases he : World.disconnectIdentity env { w with sessions := w.sessions.erase session } session
    now with
  | mk outcome w₁ =>
    rw [show closed.disconnectIdentity env session now = (outcome, w₁) from he] at hsessions
    cases outcome with
    | released identity =>
      obtain ⟨hfills, hall⟩ := releaseIdentityState_offers env w₁ identity publishWire
      exact ⟨hfills.beside hsessions, hall.beside hsessions⟩
    | _ => exact ⟨.refused hsessions fun _ ho => absurd ho List.not_mem_nil, .nil _⟩

/-- **A failure** closes its session or puts the close off; either way the session is gone. -/
theorem failSession_offers (env : WorldEnv H Q P) (w : World H) (session : SessionId)
    (now : Instant) :
    let log := w.failOffers env session now
    let closed := { w with sessions := w.sessions.erase session }
    closed.Fills (w.failSession env session now).2 log ∧
      closed.AllOrNone log (w.failSession env session now).1.isOk := by
  intro log closed
  show closed.Fills _ (failOffers env w session now) ∧
    closed.AllOrNone (failOffers env w session now) _
  unfold failSession failOffers
  cases hdefer : w.deferSessionClose session with
  | some w₁ =>
    dsimp only
    unfold deferSessionClose at hdefer
    obtain ⟨k, -, rfl⟩ := Option.map_eq_some_iff.mp hdefer
    exact ⟨.refused rfl fun _ ho => absurd ho List.not_mem_nil, .nil _⟩
  | none => exact closeSessionState_offers env w session now _

theorem Fills.lookup_none (h : w.Fills w' log) {s : SessionId}
    (hs : w.sessions.lookup s = none) : w'.sessions.lookup s = none := by
  rw [h s, hs, Option.map_none]

theorem Fills.card (h : w.Fills w' log) : w'.sessions.keys.card = w.sessions.keys.card := by
  congr 1
  ext s
  rw [Finmap.mem_keys, Finmap.mem_keys, ← Finmap.lookup_isSome, ← Finmap.lookup_isSome, h s,
    Option.isSome_map]

theorem missed_fills (w : World H) (d : OutboundDelivery) : w.Fills w [d.offer false] := by
  refine .refused rfl fun offer ho => ?_
  rw [List.mem_singleton.mp ho]
  rfl

theorem send_fills (w : World H) (d : OutboundDelivery) : w.Fills (w.send d) [d.offer true] := by
  intro s
  rw [send_lookup]
  congr 1
  funext state
  by_cases hs : d.1 = s
  · simp [received, OutboundDelivery.offer, hs]
  · simp [received, OutboundDelivery.offer, hs]

end World

end P4475
