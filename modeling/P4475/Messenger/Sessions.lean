import P4475.Messenger.Rooms

/-!
# Sessions and their index

What the operations do to the endpoints, and that sessions and identities keep leading to each
other. An endpoint on a stamp is the one its key leads to, so comparing the stamp of that
one endpoint settles what happens to all of them.
-/

namespace P4475.Messenger

open Lib Lib.Index

/-- The endpoint with one stamp moved to another identity. -/
def MessengerEndpoint.moved (endpoint : MessengerEndpoint) (previous next : MessengerIdentity) :
    MessengerEndpoint :=
  if endpoint.identity.stamp = previous.stamp then { endpoint with identity := next } else endpoint

/-- The endpoint, unless it is on an identity's stamp. -/
def MessengerEndpoint.without (endpoint : MessengerEndpoint) (identity : MessengerIdentity) :
    Option MessengerEndpoint :=
  if endpoint.identity.stamp = identity.stamp then none else some endpoint

/-- The key an endpoint is found under. -/
def MessengerEndpoint.key (endpoint : MessengerEndpoint) : Text := endpoint.identity.key

/-- Sessions and identities lead to each other, and there are not too many. -/
structure SessionsConsistent (hub : MessengerHub) : Prop where
  inverse : Mutual MessengerEndpoint.key hub.endpointsBySession hub.sessionByIdentity
  sessionLimit : hub.endpointsBySession.keys.card ≤ hub.limits.maxSessions

theorem SessionsConsistent.congr {hub hub' : MessengerHub} (h : SessionsConsistent hub)
    (honly : OnlyRooms hub hub') : SessionsConsistent hub' where
  inverse := by
    rw [honly.endpoints, honly.sessions]
    exact h.inverse
  sessionLimit := by
    rw [honly.endpoints, honly.limits]
    exact h.sessionLimit

namespace MessengerHub

variable {hub hub' : MessengerHub} {session : MessengerSessionId}

theorem consistent_enter (h : SessionsConsistent hub) {active : MessengerIdentity}
    (chatType : Nat) {hub' : MessengerHub} (hfresh : hub.endpointsBySession.lookup session = none)
    (hroom : ¬ (hub.sessionByIdentity.lookup active.key = none
      ∧ hub.limits.maxSessions ≤ hub.endpointsBySession.keys.card))
    (hlimits : hub'.limits = hub.limits)
    (hendpoints : hub'.endpointsBySession =
      (hub.endpointsWithout (hub.sessionByIdentity.lookup active.key)).insert session
        { identity := active, chatType })
    (hsessions : hub'.sessionByIdentity = hub.sessionByIdentity.insert active.key session) :
    SessionsConsistent hub' ∧ ∀ s, hub'.endpointsBySession.lookup s =
      if s = session then some { identity := active, chatType }
      else if hub.sessionByIdentity.lookup active.key = some s then none
      else hub.endpointsBySession.lookup s := by
  cases hprevious : hub.sessionByIdentity.lookup active.key with
  | none =>
    rw [hprevious] at hendpoints
    unfold endpointsWithout at hendpoints
    dsimp only at hendpoints
    refine ⟨⟨?_, ?_⟩, fun s => ?_⟩
    · rw [hendpoints, hsessions]
      exact h.inverse.insert _ hfresh hprevious
    · rw [hendpoints, hlimits]
      refine (Map.card_keys_insert_le _ _ _).trans ?_
      by_contra hfull
      apply hroom
      exact ⟨hprevious, by omega⟩
    · rw [hendpoints, Map.lookup_insert_ite, if_neg (c := none = some s) (by simp)]
  | some previous =>
    rw [hprevious] at hendpoints
    unfold endpointsWithout at hendpoints
    dsimp only at hendpoints
    obtain ⟨endpoint, hendpoint, hkey⟩ := (h.inverse _ _).mp hprevious
    have herased := h.inverse.erase hendpoint
    rw [hkey] at herased
    refine ⟨⟨?_, ?_⟩, fun s => ?_⟩
    · rw [hendpoints, hsessions, ← Map.insert_of_erase hub.sessionByIdentity]
      refine herased.insert { identity := active, chatType } ?_ ?_
      · rw [Map.lookup_erase_ite, hfresh, ite_self]
      · exact (Map.lookup_erase_ite _ _ _).trans (if_pos rfl)
    · have hcard := Map.card_keys_erase hendpoint
      have hlimit := h.sessionLimit
      rw [hendpoints, hlimits]
      refine (Map.card_keys_insert_le _ _ _).trans ?_
      omega
    · rw [hendpoints, Map.lookup_insert_ite, Map.lookup_erase_ite]
      by_cases hs : s = previous
      · rw [if_pos hs, if_pos (congrArg some hs.symm)]
      · rw [if_neg hs, if_neg (fun he => hs (Option.some.inj he).symm)]

theorem consistent_removeEndpoint (h : SessionsConsistent hub) {endpoint : MessengerEndpoint}
    (he : hub.endpointsBySession.lookup session = some endpoint) :
    SessionsConsistent (hub.removeEndpoint session endpoint.identity.key) := by
  have hindex : hub.sessionByIdentity.lookup endpoint.identity.key = some session :=
    h.inverse.lookup he
  unfold removeEndpoint
  constructor
  · dsimp only
    rw [if_pos hindex]
    exact h.inverse.erase he
  · exact (Map.card_keys_erase_le _ _).trans h.sessionLimit

theorem advanceEndpoint_spec (h : SessionsConsistent hub) {previous next : MessengerIdentity}
    (hk : previous.key = next.key) :
    SessionsConsistent (hub.advanceEndpoint previous next).1 ∧
      (hub.advanceEndpoint previous next).1.limits = hub.limits ∧
      (hub.advanceEndpoint previous next).1.rooms = hub.rooms ∧
      (hub.advanceEndpoint previous next).1.roomsByIdentity = hub.roomsByIdentity ∧
      (hub.advanceEndpoint previous next).1.nextRoomId = hub.nextRoomId ∧
      ∀ s, (hub.advanceEndpoint previous next).1.endpointsBySession.lookup s =
        (hub.endpointsBySession.lookup s).map (·.moved previous next) := by
  -- an endpoint on the previous stamp is the one the key leads to
  have hsame : (∀ s endpoint, hub.sessionByIdentity.lookup previous.key = some s →
      hub.endpointsBySession.lookup s = some endpoint →
      endpoint.identity.stamp ≠ previous.stamp) → ∀ s, hub.endpointsBySession.lookup s =
        (hub.endpointsBySession.lookup s).map (·.moved previous next) := by
    intro hnone s
    cases hs : hub.endpointsBySession.lookup s with
    | none => rfl
    | some endpoint =>
      rw [Option.map_some]
      unfold MessengerEndpoint.moved
      rw [if_neg]
      intro hstamp
      have hindex := h.inverse.lookup hs
      rw [MessengerEndpoint.key, key_of_stamp hstamp] at hindex
      exact hnone s endpoint hindex hs hstamp
  unfold advanceEndpoint
  split
  next hnone =>
    refine ⟨h, rfl, rfl, rfl, rfl, hsame fun s endpoint hindex => ?_⟩
    rw [hnone] at hindex
    exact absurd hindex (by simp)
  next session hindex =>
    split
    next hnone =>
      refine ⟨h, rfl, rfl, rfl, rfl, hsame fun s endpoint hindex' hs => ?_⟩
      rw [hindex] at hindex'
      cases hindex'
      rw [hnone] at hs
      exact absurd hs (by simp)
    next endpoint he =>
      split
      next hmatch =>
        rw [identityStampMatches_iff] at hmatch
        refine ⟨⟨?_, ?_⟩, rfl, rfl, rfl, rfl, fun s => ?_⟩
        · exact h.inverse.update he (hk.symm.trans (key_of_stamp hmatch).symm)
        · dsimp only
          rw [Map.card_keys_insert_of_mem he]
          exact h.sessionLimit
        · dsimp only
          rw [Map.lookup_insert_ite]
          by_cases hs : s = session
          · subst hs
            rw [if_pos rfl, he, Option.map_some]
            unfold MessengerEndpoint.moved
            rw [if_pos hmatch]
          · rw [if_neg hs]
            cases hl : hub.endpointsBySession.lookup s with
            | none => rfl
            | some other =>
              rw [Option.map_some]
              unfold MessengerEndpoint.moved
              rw [if_neg]
              intro hstamp
              exact hs (h.inverse.unique hl he (key_of_stamp (hstamp.trans hmatch.symm)))
      next hmatch =>
        refine ⟨h, rfl, rfl, rfl, rfl, hsame fun s endpoint' hindex' hs => ?_⟩
        rw [hindex] at hindex'
        cases hindex'
        rw [he] at hs
        cases hs
        rw [Ne, ← identityStampMatches_iff]
        exact hmatch

/-- The endpoint half of `release_identity`. -/
theorem releaseEndpoint_spec (h : SessionsConsistent hub) (identity : MessengerIdentity) :
    SessionsConsistent (hub.releaseEndpoint identity) ∧
      (hub.releaseEndpoint identity).limits = hub.limits ∧
      (hub.releaseEndpoint identity).rooms = hub.rooms ∧
      (hub.releaseEndpoint identity).roomsByIdentity = hub.roomsByIdentity ∧
      (hub.releaseEndpoint identity).nextRoomId = hub.nextRoomId ∧
      ∀ s, (hub.releaseEndpoint identity).endpointsBySession.lookup s =
        (hub.endpointsBySession.lookup s).bind (·.without identity) := by
  unfold releaseEndpoint
  split
  next hreleased =>
    refine ⟨h, rfl, rfl, rfl, rfl, fun s => ?_⟩
    cases hs : hub.endpointsBySession.lookup s with
    | none => rfl
    | some endpoint =>
      have hstamp : endpoint.identity.stamp ≠ identity.stamp := by
        intro hstamp
        have hindex := h.inverse.lookup hs
        rw [MessengerEndpoint.key, key_of_stamp hstamp] at hindex
        unfold releasedSession at hreleased
        rw [hindex, Option.filter_some, hs] at hreleased
        simp [hstamp] at hreleased
      rw [Option.bind_some]
      exact (if_neg hstamp).symm
  next session hreleased =>
    unfold releasedSession at hreleased
    rw [Option.filter_eq_some_iff] at hreleased
    obtain ⟨hindex, hmatch⟩ := hreleased
    obtain ⟨endpoint, he, hkey⟩ := (h.inverse _ _).mp hindex
    rw [he, identityStampMatches_iff] at hmatch
    rw [MessengerEndpoint.key] at hkey
    rw [← hkey]
    refine ⟨consistent_removeEndpoint h he, rfl, rfl, rfl, rfl, fun s => ?_⟩
    unfold removeEndpoint
    rw [Map.lookup_erase_ite]
    by_cases hs : s = session
    · subst hs
      rw [if_pos rfl, he, Option.bind_some]
      exact (if_pos hmatch).symm
    · rw [if_neg hs]
      cases hl : hub.endpointsBySession.lookup s with
      | none => rfl
      | some other =>
        have hstamp : other.identity.stamp ≠ identity.stamp := by
          intro hstamp
          exact hs (h.inverse.unique hl he (key_of_stamp (hstamp.trans hmatch.symm)))
        rw [Option.bind_some]
        exact (if_neg hstamp).symm

end MessengerHub

end P4475.Messenger
