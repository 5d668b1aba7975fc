import P4475.World.Simulation.Rewards

/-!
# Showing a profile is a path of strides

Each publication rewrites what the room and the hub show of one member. What it delivers
may fail a session, and with it release an identity.
-/

namespace P4475

open Lib ProtocolRoomState

namespace World

variable {H Q P : Type} (env : WorldEnv H Q P) {w w' : World H} {id : RoomId}
  {room room' : ProtocolRoomState}

/-- A copy of a member's data is replaced, or there is none to replace. -/
theorem putGetD_within (hr : w.room? id = some room) {next : Option ProtocolRoomState}
    (h : ∀ room', next = some room' → room.RoomEdit none room') :
    Within w (w.putRoom id (next.getD room)) := by
  cases hn : next with
  | none => exact .puts hr .refl
  | some room' => exact .put hr (h room' hn)

/-! ## Equipment -/

theorem commitRoomEquipment_leads (w : World H) (plan : RoomEquipmentPlan) (now : Instant) :
    Leads env (w, []) (w.commitRoomEquipment env plan now).1.isOk
      ((w.commitRoomEquipment env plan now).2, []) := by
  unfold commitRoomEquipment
  split
  next => exact .refl
  next room hr =>
    exact (putGetD_within hr fun _ h => setEquipmentSnapshot_edit h).then
      (deliver_leads env _ _ now)

theorem publishRoomEquipment_leads (w : World H) (session : SessionId)
    (snapshot : RiderItemSnapshot) (now : Instant) :
    Leads env (w, []) (survives (w.publishRoomEquipment env session snapshot now).1)
      ((w.publishRoomEquipment env session snapshot now).2, []) := by
  unfold publishRoomEquipment
  split
  next => exact .refl
  next identity _ =>
    split
    next => exact .refl
    next => exact .refl
    next plan _ => exact delivered_leads env (commitRoomEquipment_leads env w plan now)

theorem refreshRoomKartPhysics_within (w : World H) (session : SessionId)
    (codes : FloaterCodes) : Within w (w.refreshRoomKartPhysics env session codes).2 := by
  unfold refreshRoomKartPhysics
  split
  next => exact .refl w
  next identity _ =>
    split
    next => exact .refl w
    next id _ =>
      split
      next => exact .refl w
      next room hr =>
        split
        next => exact .refl w
        next room' hc =>
          exact .put (Option.filter_eq_some_iff.mp hr).1 (setFloaterCodes_edit hc)

/-! ## Endpoints and emblems -/

/-- The hub may show another endpoint; besides, tables are edited. -/
structure Shows (w w' : World H) : Prop where
  hub : w'.myroom = w.myroom ∨
    ∃ identity port, env.hub.endpointMoved w.myroom identity port = .ok w'.myroom
  within : Within { w with myroom := w'.myroom } w'

theorem Shows.of_within (h : Within w w') : Shows env w w' where
  hub := .inl h.myroom
  within := by
    rw [h.myroom]
    exact h

theorem Shows.leads (ok : Bool) (h : Shows env w w') : Leads env (w, []) ok (w', []) := by
  have hhub : Leads env (w, []) true ({ w with myroom := w'.myroom }, []) := by
    rcases h.hub with hsame | ⟨identity, port, hmoved⟩
    · rw [hsame]
      exact .refl
    · exact .move (.endpointMoved hmoved)
  exact hhub.trans h.within.leads

theorem Shows.edits (h : Shows env w w') : WorldEdits env w w' :=
  (Shows.leads env true h).edits

theorem Shows.trans_within {w'' : World H} (h : Shows env w w') (h' : Within w' w'') :
    Shows env w w'' := by
  obtain ⟨hhub, hwithin⟩ := h
  rw [← h'.myroom] at hhub hwithin
  exact ⟨hhub, hwithin.trans h'⟩

theorem Shows.observed {ports : Map UserNo (IdentityBinding × Nat)}
    (h : Shows env { w with observedP2pPorts := ports } w') : Shows env w w' := by
  have hports : Within { w with myroom := w'.myroom }
      { w with observedP2pPorts := ports, myroom := w'.myroom } := .quiet rfl rfl rfl rfl rfl
  exact ⟨h.hub, hports.trans h.within⟩

theorem publishActiveP2pEndpoint_shows (w : World H) (expected : IdentityBinding) (port : Nat) :
    Shows env w (w.publishActiveP2pEndpoint env expected port).2 := by
  unfold publishActiveP2pEndpoint
  split
  next => exact .of_within env (.refl w)
  next =>
    dsimp only
    split
    next => exact .of_within env (.refl w)
    next =>
      split
      next => exact .of_within env (.refl w)
      next hub hmoved => exact ⟨.inr ⟨expected, port, hmoved⟩, .refl _⟩
    next id room' hn =>
      obtain ⟨id', -, he⟩ := Option.map_eq_some_iff.mp hn
      obtain ⟨rfl, hb⟩ := Prod.mk.inj he
      obtain ⟨room, hr, hp⟩ := Option.bind_eq_some_iff.mp hb
      split
      next => exact .of_within env (.refl w)
      next hub hmoved =>
        exact ⟨.inr ⟨expected, port, hmoved⟩, .put hr (setP2pEndpoint_edit hp)⟩

theorem recordObservedP2pPort_shows (w : World H) (identity : IdentityBinding) (port : Nat) :
    Shows env w (w.recordObservedP2pPort env identity port).2 := by
  unfold recordObservedP2pPort
  split
  next => exact .of_within env (.refl w)
  next =>
    split
    next => exact .of_within env (.refl w)
    next =>
      exact .observed env (publishActiveP2pEndpoint_shows env _ identity port)

theorem sendReserved_within (w : World H) (delivery : OutboundDelivery) :
    Within w (w.sendReserved delivery) := by
  unfold sendReserved
  split
  next => exact .quiet rfl rfl rfl rfl rfl
  next => exact .refl w

theorem publishDurableMainEmblems_within (w : World H) (expected : IdentityBinding)
    (emblems : Nat × Nat × Nat) (acknowledgement : OutboundDelivery) :
    Within w (w.publishDurableMainEmblems env expected emblems acknowledgement).2 := by
  unfold publishDurableMainEmblems
  split
  next => exact .refl w
  next =>
    split
    next => exact .refl w
    next => exact .refl w
    next =>
      split
      next => exact sendReserved_within w acknowledgement
      next id _ =>
        split
        next => exact .refl w
        next room' hb =>
          obtain ⟨room, hr, he⟩ := Option.bind_eq_some_iff.mp hb
          exact Within.trans (.put hr (setMainEmblems_edit he))
            (sendReserved_within _ acknowledgement)

/-! ## Rider equipment writes -/

/-- A registration only waits for its completion. -/
theorem registerRiderEquipmentWrite_same (w : World H) (session : SessionId)
    (admittedNickname : Text) (elsewhere : Bool) : ∃ pending,
    (w.registerRiderEquipmentWrite env session admittedNickname elsewhere).2 =
      { w with pendingRiderEquipmentWrites := pending } := by
  unfold registerRiderEquipmentWrite
  split
  next => exact ⟨_, rfl⟩
  next =>
    split
    next => exact ⟨_, rfl⟩
    next =>
      split
      next => exact ⟨_, rfl⟩
      next => split <;> exact ⟨_, rfl⟩

theorem publishEquipment_leads (w : World H) (expected : IdentityBinding) (profile : P)
    (plan : Option RoomEquipmentPlan) (publication : Publication) (now : Instant) :
    Leads env (w, []) (w.publishEquipment env expected profile plan publication now).1.isOk
      ((w.publishEquipment env expected profile plan publication now).2, []) := by
  unfold publishEquipment
  split
  next => exact .refl
  next hub hequipped =>
    have hmove : ∀ ok, Leads env (w, []) ok ({ w with myroom := hub }, []) := fun _ =>
      .move (.equipped hequipped)
    dsimp only
    split
    next => exact hmove _
    next plan =>
      have hcommit := commitRoomEquipment_leads env { w with myroom := hub } plan now
      split
      next he =>
        rw [he] at hcommit
        exact (hmove true).trans hcommit
      next he =>
        rw [he] at hcommit
        exact (hmove true).trans hcommit

theorem publishDurableRiderEquipment_leads (w : World H) (expected : IdentityBinding)
    (snapshot : RiderItemSnapshot) (profile : P) (now : Instant) :
    Leads env (w, []) (w.publishDurableRiderEquipment env expected snapshot profile now).1.isOk
      ((w.publishDurableRiderEquipment env expected snapshot profile now).2, []) := by
  unfold publishDurableRiderEquipment
  split
  next =>
    split
    next => exact .refl
    next =>
      split
      next => exact .refl
      next => exact publishEquipment_leads env w expected profile _ _ now
  next =>
    split
    next => exact .refl
    next =>
      split
      next => exact publishEquipment_leads env w expected profile none _ now
      next => exact .refl

theorem finishDeferredEquipmentClose_leads (w : World H) (pending : PendingRiderEquipmentWrite)
    (now : Instant) :
    Leads env (w, []) (w.finishDeferredEquipmentClose env pending now).1.isOk
      ((w.finishDeferredEquipmentClose env pending now).2, []) := by
  unfold finishDeferredEquipmentClose
  split
  next =>
    have hclose := closeSession_leads env w pending.expected.owner now
    refine hclose.weaken fun hok => ?_
    rcases hr : w.closeSession env pending.expected.owner now with ⟨_ | _, w'⟩
    · rw [hr] at hok
      exact hok
    · rfl
  next => exact .refl

/-- What follows once the write has been taken from those that wait. -/
theorem finishRiderEquipmentWrite_leads (w : World H) (k : Nat)
    (pending : PendingRiderEquipmentWrite) (completion : RiderEquipmentCompletion P)
    (now : Instant) :
    Leads env ({ w with
        pendingRiderEquipmentWrites := w.pendingRiderEquipmentWrites.eraseIdx k }, [])
      (w.finishRiderEquipmentWrite env k pending completion now).1.isOk
      ((w.finishRiderEquipmentWrite env k pending completion now).2, []) := by
  unfold finishRiderEquipmentWrite
  dsimp only
  split
  next => exact finishDeferredEquipmentClose_leads env _ pending now
  next => exact .refl
  next => exact .refl
  next => exact finishDeferredEquipmentClose_leads env _ pending now
  next snapshot profile =>
    have hpublish := publishDurableRiderEquipment_leads env { w with
      pendingRiderEquipmentWrites := w.pendingRiderEquipmentWrites.eraseIdx k }
      pending.expected snapshot profile now
    split
    next he =>
      rw [he] at hpublish
      exact hpublish
    next he =>
      rw [he] at hpublish
      exact hpublish.trans (finishDeferredEquipmentClose_leads env _ pending now)

end World

end P4475
