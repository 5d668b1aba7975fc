import Mathlib.Logic.Relation
import P4475.Messenger.Lifecycle

/-!
# Who speaks and who hears

A room is heard by the sessions on the stamp of a member, spoken into by the session of a member,
and joined by invitation only. Membership, endpoint and generation change at different times;
what ties them together is that each of the three is compared by the whole stamp.
-/

namespace P4475.Messenger

open Lib Lib.Index MessengerHub

variable {u : Unicode} {hub hub₀ hub' : MessengerHub}

/-! ## Sessions and members -/

/-- The session is the only one of the presented key, and on exactly the presented stamp. -/
structure SoleSession (hub : MessengerHub) (session : MessengerSessionId)
    (active : MessengerIdentity) : Prop where
  stamp : ∃ endpoint, hub.endpointsBySession.lookup session = some endpoint ∧
    endpoint.identity.stamp = active.stamp
  registered : hub.sessionByIdentity.lookup active.key = some session
  sole : ∀ s endpoint, hub.endpointsBySession.lookup s = some endpoint →
    endpoint.identity.key = active.key → s = session

theorem SoleSession.of_authorized (h : SessionsConsistent hub) {session : MessengerSessionId}
    {active sender : MessengerIdentity} (hauth : hub.Authorized session active sender) :
    SoleSession hub session active := by
  obtain ⟨⟨chatType, he⟩, hstamp, hindex⟩ := hauth
  refine ⟨⟨_, he, hstamp⟩, hindex, fun s endpoint hs hk => ?_⟩
  exact h.inverse.unique hs he (hk.trans (key_of_stamp hstamp).symm)

/-- The members of a room; none if it does not exist. -/
def MessengerHub.membersOf (hub : MessengerHub) (roomId : MessengerRoomId) :
    List MessengerIdentity :=
  match hub.rooms.lookup roomId with
  | none => []
  | some room => room.members

theorem membersOf_some {roomId : MessengerRoomId} {room : MessengerRoom}
    (h : hub.rooms.lookup roomId = some room) : hub.membersOf roomId = room.members := by
  unfold membersOf
  rw [h]

theorem membersOf_none {roomId : MessengerRoomId} (h : hub.rooms.lookup roomId = none) :
    hub.membersOf roomId = [] := by
  unfold membersOf
  rw [h]

theorem mem_membersOf {roomId : MessengerRoomId} {member : MessengerIdentity} :
    member ∈ hub.membersOf roomId ↔
      ∃ room, hub.rooms.lookup roomId = some room ∧ member ∈ room.members := by
  cases hr : hub.rooms.lookup roomId with
  | none => simp [membersOf_none hr]
  | some room => simp [membersOf_some hr]

theorem membersOf_without {roomId : MessengerRoomId} {room : MessengerRoom}
    {identity : MessengerIdentity} (h : hub.rooms.lookup roomId = room.without identity) :
    hub.membersOf roomId =
      room.members.filter fun member => !identityStampMatches member identity := by
  unfold MessengerRoom.without at h
  dsimp only at h
  by_cases hempty : (room.members.filter fun m => !identityStampMatches m identity) = []
  · rw [if_pos hempty] at h
    rw [membersOf_none h, hempty]
  · rw [if_neg hempty] at h
    exact membersOf_some h

theorem keys_membersOf_nodup (h : RoomsConsistent hub) (roomId : MessengerRoomId) :
    ((hub.membersOf roomId).map (·.key)).Nodup := by
  cases hr : hub.rooms.lookup roomId with
  | none =>
    rw [membersOf_none hr]
    exact List.nodup_nil
  | some room =>
    rw [membersOf_some hr]
    exact (h.occupied roomId room hr).2

/-- The deliveries are about the room and go, once each, to exactly the sessions on the stamp of
one of its members. -/
structure ReachesMembers (hub : MessengerHub) (roomId : MessengerRoomId)
    (deliveries : List MessengerDelivery) : Prop where
  about : ∀ delivery ∈ deliveries, delivery.event.room = roomId
  once : (deliveries.map (·.session)).Nodup
  exact : ∀ s, s ∈ deliveries.map (·.session) ↔
    ∃ endpoint, hub.endpointsBySession.lookup s = some endpoint ∧
      ∃ member ∈ hub.membersOf roomId, endpoint.identity.stamp = member.stamp

/-- Members of different keys have different sessions. -/
theorem filterMap_memberSession_nodup (h : SessionsConsistent hub)
    {members : List MessengerIdentity} (hnd : (members.map (·.key)).Nodup) :
    (members.filterMap hub.memberSession).Nodup := by
  induction members with
  | nil => exact List.nodup_nil
  | cons member rest ih =>
    obtain ⟨hfresh, hrest⟩ := List.nodup_cons.mp hnd
    cases hs : hub.memberSession member with
    | none =>
      rw [List.filterMap_cons_none hs]
      exact ih hrest
    | some session =>
      rw [List.filterMap_cons_some hs]
      refine List.nodup_cons.mpr ⟨fun hmem => hfresh ?_, ih hrest⟩
      obtain ⟨other, hother, hsession⟩ := List.mem_filterMap.mp hmem
      obtain ⟨endpoint, he, hstamp⟩ := (memberSession_iff h).mp hs
      obtain ⟨endpoint', he', hstamp'⟩ := (memberSession_iff h).mp hsession
      rw [he] at he'
      cases he'
      exact List.mem_map.mpr ⟨other, hother, key_of_stamp (hstamp'.symm.trans hstamp)⟩

theorem reachesMembers (h : hub.Consistent) {roomId : MessengerRoomId} {event : MessengerEvent}
    (habout : event.room = roomId) {members : List MessengerIdentity}
    (hmembers : hub.membersOf roomId = members) :
    ReachesMembers hub roomId (hub.deliverToMembers members event) := by
  constructor
  · intro delivery hd
    rw [event_of_mem_deliverToMembers hd]
    exact habout
  · rw [map_session_deliverToMembers, ← hmembers]
    exact filterMap_memberSession_nodup h.sessions (keys_membersOf_nodup h.rooms roomId)
  · intro s
    rw [map_session_deliverToMembers, List.mem_filterMap, hmembers]
    constructor
    · rintro ⟨member, hm, hs⟩
      obtain ⟨endpoint, he, hstamp⟩ := (memberSession_iff h.sessions).mp hs
      exact ⟨endpoint, he, member, hm, hstamp⟩
    · rintro ⟨endpoint, he, member, hm, hstamp⟩
      exact ⟨member, hm, (memberSession_iff h.sessions).mpr ⟨endpoint, he, hstamp⟩⟩

/-! ## Where members come from -/

/-- An advance of the run has moved a stamp. -/
def MovedIn (tr : List (HubCall × HubResponse)) (a b : Stamp) : Prop :=
  ∃ previous next visit outcome,
    (HubCall.advanceGeneration previous next visit, HubResponse.advanced outcome) ∈ tr ∧
      previous.stamp = a ∧ next.stamp = b

/-- A stamp came from another by advances of the run. -/
def Became (tr : List (HubCall × HubResponse)) : Stamp → Stamp → Prop :=
  Relation.ReflTransGen (MovedIn tr)

theorem Became.cons {tr : List (HubCall × HubResponse)} {a b : Stamp} (h : Became tr a b)
    (entry : HubCall × HubResponse) : Became (entry :: tr) a b := by
  induction h with
  | refl => exact .refl
  | tail _ hmoved ih =>
    obtain ⟨previous, next, visit, outcome, hmem, hstamps⟩ := hmoved
    exact ih.tail ⟨previous, next, visit, outcome, List.mem_cons_of_mem _ hmem, hstamps⟩

/-- The same user at the same address, no earlier. -/
structure Stamp.Precedes (a b : Stamp) : Prop where
  key : a.key = b.key
  userNo : a.userNo = b.userNo
  sourceIp : a.sourceIp = b.sourceIp
  generation : a.generation.get ≤ b.generation.get

theorem movedIn_precedes (h₀ : hub₀.Ok) {tr : List (HubCall × HubResponse)}
    (h : (hub₀.machine u).History tr hub) {a b : Stamp} (hmoved : MovedIn tr a b) :
    a.Precedes b := by
  induction h with
  | init =>
    obtain ⟨_, _, _, _, hmem, -⟩ := hmoved
    exact absurd hmem (by simp)
  | @step tr hub hub' call response hist hs ih =>
    obtain ⟨previous, next, visit, outcome, hmem, rfl, rfl⟩ := hmoved
    rcases List.mem_cons.mp hmem with heq | hmem
    · cases heq
      cases (step_effect (ok_of_history h₀ hist).1 hs).2.2 with
      | advanced same => exact ⟨same.1, same.2.1, same.2.2.1, same.2.2.2.le⟩
    · exact ih ⟨previous, next, visit, outcome, hmem, rfl, rfl⟩

/-- The stamp is that of one of the two users of the invitation that issued the room, or came
from it by advances. -/
def Invited (tr : List (HubCall × HubResponse)) (roomId : MessengerRoomId) (stamp : Stamp) :
    Prop :=
  ∃ session active target claim deliveries,
    (HubCall.invite session active target claim, HubResponse.delivered deliveries) ∈ tr ∧
      issuedBy (.invite session active target claim, .delivered deliveries) = some roomId ∧
      ∃ invited : MessengerIdentity, (invited = active ∨ invited = target) ∧
        Became tr invited.stamp stamp ∧ invited.stamp.Precedes stamp

theorem Invited.cons {tr : List (HubCall × HubResponse)} {roomId : MessengerRoomId}
    {stamp : Stamp} (h : Invited tr roomId stamp) (entry : HubCall × HubResponse) :
    Invited (entry :: tr) roomId stamp := by
  obtain ⟨session, active, target, claim, deliveries, hmem, hissued, invited, hwho, hbecame,
    hprecedes⟩ := h
  exact ⟨session, active, target, claim, deliveries, List.mem_cons_of_mem _ hmem, hissued,
    invited, hwho, hbecame.cons entry, hprecedes⟩

/-- A member has been invited, one call at a time. -/
theorem members_invited (h₀ : hub₀.Ok) (hempty : hub₀.rooms = ∅)
    {tr : List (HubCall × HubResponse)} (h : (hub₀.machine u).History tr hub) :
    ∀ roomId, ∀ member ∈ hub.membersOf roomId, Invited tr roomId member.stamp := by
  induction h with
  | init =>
    intro roomId member hm
    obtain ⟨room, hr, -⟩ := mem_membersOf.mp hm
    change hub₀.rooms.lookup roomId = some room at hr
    rw [hempty] at hr
    exact absurd hr (by simp)
  | @step tr hub hub' call response hist hs ih =>
    have hok := (ok_of_history h₀ hist).1
    obtain ⟨hok', -, heffect⟩ := step_effect hok hs
    -- who was a member before has been invited before
    have hkept : ∀ roomId member, (∃ room, hub.rooms.lookup roomId = some room ∧
        member ∈ room.members) → Invited ((call, response) :: tr) roomId member.stamp :=
      fun roomId member hex => (ih roomId member (mem_membersOf.mpr hex)).cons _
    intro roomId member hmember
    obtain ⟨room, hr, hm⟩ := mem_membersOf.mp hmember
    clear hmember
    cases heffect with
    | failed => exact hkept roomId member ⟨room, hr, hm⟩
    | entered _ _ hrooms =>
      rw [hrooms] at hr
      exact hkept roomId member ⟨room, hr, hm⟩
    | @invited session active target sender claim roomId' event _ hauth _ habout hendpoints
        hsessions hrooms =>
      rw [hrooms] at hr
      split at hr
      next heq =>
        cases hr
        subst heq
        have hauth' : hub'.Authorized session active sender := by
          unfold Authorized at hauth ⊢
          rw [hendpoints, hsessions]
          exact hauth
        have hissued : issuedBy (.invite session active target claim,
            .delivered (hub'.deliverToMembers [sender, target] event)) = some roomId := by
          rw [deliver_to_sender hok'.consistent.sessions hauth']
          exact congrArg some habout
        -- the inviter's member is on the presented stamp
        have hwho : ∃ invited : MessengerIdentity, (invited = active ∨ invited = target) ∧
            invited.stamp = member.stamp := by
          rcases List.mem_pair.mp hm with rfl | rfl
          · exact ⟨active, .inl rfl, hauth.2.1.symm⟩
          · exact ⟨member, .inr rfl, rfl⟩
        obtain ⟨invited, hinvited, hstamp⟩ := hwho
        refine ⟨session, active, target, claim, _, List.mem_cons_self, hissued, invited,
          hinvited, ?_⟩
        rw [hstamp]
        exact ⟨.refl, rfl, rfl, rfl, le_refl _⟩
      next => exact hkept roomId member ⟨room, hr, hm⟩
    | said => exact hkept roomId member ⟨room, hr, hm⟩
    | left _ _ found _ _ _ _ hrooms =>
      rw [hrooms] at hr
      split at hr
      next heq =>
        subst heq
        exact hkept roomId member ⟨_, found, ((MessengerRoom.mem_without hr).mp hm).1⟩
      next => exact hkept roomId member ⟨room, hr, hm⟩
    | @advanced previous next visit outcome _ same _ hrooms =>
      rw [hrooms, Option.map_eq_some_iff] at hr
      obtain ⟨room', hr', rfl⟩ := hr
      rcases MessengerRoom.mem_moved.mp hm with ⟨rfl, m, hm', hstamp⟩ | ⟨hm', -⟩
      · -- the member came from one that had been invited
        obtain ⟨session, active, target, claim, deliveries, hmem, hissued, invited, hwho,
          hbecame, hprecedes⟩ := hkept roomId m ⟨room', hr', hm'⟩
        have hmoved : MovedIn ((HubCall.advanceGeneration previous member visit,
            HubResponse.advanced outcome) :: tr) m.stamp member.stamp :=
          ⟨previous, member, visit, outcome, List.mem_cons_self, hstamp.symm, rfl⟩
        have hstep := movedIn_precedes h₀ (hist.step hs) hmoved
        exact ⟨session, active, target, claim, deliveries, hmem, hissued, invited, hwho,
          hbecame.tail hmoved, hprecedes.key.trans hstep.key,
          hprecedes.userNo.trans hstep.userNo, hprecedes.sourceIp.trans hstep.sourceIp,
          hprecedes.generation.trans hstep.generation⟩
      · exact hkept roomId member ⟨room', hr', hm'⟩
    | released _ hrooms =>
      rw [hrooms, Option.bind_eq_some_iff] at hr
      obtain ⟨room', hr', hwithout⟩ := hr
      exact hkept roomId member ⟨room', hr', ((MessengerRoom.mem_without hwithout).mp hm).1⟩
    | absent => exact hkept roomId member ⟨room, hr, hm⟩
    | disconnected _ _ hrooms =>
      rw [hrooms, Option.bind_eq_some_iff] at hr
      obtain ⟨room', hr', hwithout⟩ := hr
      exact hkept roomId member ⟨room', hr', ((MessengerRoom.mem_without hwithout).mp hm).1⟩

/-! ## Stale calls -/

/-- Endpoints and memberships on other stamps are as they were. -/
structure KeepsOthers (hub hub' : MessengerHub) (stamp : Stamp) : Prop where
  endpoints : ∀ s endpoint, hub.endpointsBySession.lookup s = some endpoint →
    endpoint.identity.stamp ≠ stamp → hub'.endpointsBySession.lookup s = some endpoint ∧
      hub'.sessionByIdentity.lookup endpoint.identity.key = some s
  members : ∀ roomId, ∀ member ∈ hub.membersOf roomId, member.stamp ≠ stamp →
    member ∈ hub'.membersOf roomId

theorem keepsOthers_release (h' : hub'.Consistent) {identity : MessengerIdentity}
    {visit : List MessengerRoomId} {response : HubResponse}
    (heffect : Effect hub (.releaseIdentity identity visit) response hub')
    (hsessions : SessionsConsistent hub) : KeepsOthers hub hub' identity.stamp := by
  cases heffect with
  | failed =>
    exact ⟨fun s endpoint he _ => ⟨he, hsessions.inverse.lookup he⟩, fun _ _ hm _ => hm⟩
  | released hendpoints hrooms =>
    constructor
    · intro s endpoint he hne
      have hkept : hub'.endpointsBySession.lookup s = some endpoint := by
        rw [hendpoints, he, Option.bind_some]
        exact if_neg hne
      exact ⟨hkept, h'.sessions.inverse.lookup hkept⟩
    · intro roomId member hmember hne
      obtain ⟨room, hr, hm⟩ := mem_membersOf.mp hmember
      cases hwithout : room.without identity with
      | none => exact absurd (MessengerRoom.without_eq_none hwithout hm) hne
      | some room' =>
        refine mem_membersOf.mpr ⟨room', ?_, (MessengerRoom.mem_without hwithout).mpr ⟨hm, hne⟩⟩
        rw [hrooms, hr]
        exact hwithout

theorem keepsOthers_advance (h' : hub'.Consistent) {previous next : MessengerIdentity}
    {visit : List MessengerRoomId} {response : HubResponse}
    (heffect : Effect hub (.advanceGeneration previous next visit) response hub')
    (hsessions : SessionsConsistent hub) : KeepsOthers hub hub' previous.stamp := by
  cases heffect with
  | failed =>
    exact ⟨fun s endpoint he _ => ⟨he, hsessions.inverse.lookup he⟩, fun _ _ hm _ => hm⟩
  | advanced _ hendpoints hrooms =>
    constructor
    · intro s endpoint he hne
      have hkept : hub'.endpointsBySession.lookup s = some endpoint := by
        rw [hendpoints, he, Option.map_some]
        exact congrArg some (if_neg hne)
      exact ⟨hkept, h'.sessions.inverse.lookup hkept⟩
    · intro roomId member hmember hne
      obtain ⟨room, hr, hm⟩ := mem_membersOf.mp hmember
      refine mem_membersOf.mpr ⟨room.moved previous next, ?_,
        MessengerRoom.mem_moved.mpr (.inr ⟨hm, hne⟩)⟩
      rw [hrooms, hr]
      rfl

/-! ## Privacy -/

/-- In every run, an answered invitation, message or departure comes from the one session of the
presented stamp, a message and a departure from a member of the room, and reaches exactly the
(remaining) members that are online on their stamp; members have been invited; and a release or an
advance of one stamp touches no other. -/
theorem room_privacy {limits : MessengerHubLimits} (hnew : MessengerHub.new limits = .ok hub₀)
    {tr : List (HubCall × HubResponse)} (h : (hub₀.machine u).History tr hub) :
    (∀ session active target claim deliveries hub',
      (hub₀.machine u).step hub (.invite session active target claim) =
        some (.delivered deliveries, hub') →
      SoleSession hub session active ∧ ∃ roomId, hub.rooms.lookup roomId = none ∧
        (hub'.membersOf roomId).map (·.stamp) = [active.stamp, target.stamp] ∧
        ReachesMembers hub' roomId deliveries) ∧
    (∀ session active claim deliveries hub',
      (hub₀.machine u).step hub (.chat session active claim) =
        some (.delivered deliveries, hub') →
      SoleSession hub session active ∧ hub' = hub ∧ ∃ roomId, claim.roomId = roomId.get ∧
        (∃ member ∈ hub.membersOf roomId, member.stamp = active.stamp) ∧
        ReachesMembers hub roomId deliveries) ∧
    (∀ session active claim deliveries hub',
      (hub₀.machine u).step hub (.leave session active claim) =
        some (.delivered deliveries, hub') →
      SoleSession hub session active ∧ ∃ roomId, claim.roomId = roomId.get ∧
        (∃ member ∈ hub.membersOf roomId, member.stamp = active.stamp) ∧
        (∀ member, member ∈ hub'.membersOf roomId ↔
          member ∈ hub.membersOf roomId ∧ member.stamp ≠ active.stamp) ∧
        ReachesMembers hub' roomId deliveries) ∧
    (∀ roomId, ∀ member ∈ hub.membersOf roomId, Invited tr roomId member.stamp) ∧
    (∀ identity visit response hub',
      (hub₀.machine u).step hub (.releaseIdentity identity visit) = some (response, hub') →
      KeepsOthers hub hub' identity.stamp) ∧
    (∀ previous next visit response hub',
      (hub₀.machine u).step hub (.advanceGeneration previous next visit) =
        some (response, hub') → KeepsOthers hub hub' previous.stamp) := by
  have h₀ := (new_ok hnew).1
  have hok := (ok_of_history h₀ h).1
  refine ⟨?_, ?_, ?_, ?_, ?_, ?_⟩
  · intro session active target claim deliveries hub' hs
    obtain ⟨hok', -, heffect⟩ := step_effect hok hs
    cases heffect with
    | @invited _ _ _ sender _ roomId event _ hauth hallocated habout _ _ hrooms =>
      have hmembers : hub'.membersOf roomId = [sender, target] := by
        have hroom : hub'.rooms.lookup roomId = some { members := [sender, target] } := by
          rw [hrooms, if_pos rfl]
        exact membersOf_some hroom
      refine ⟨.of_authorized hok.consistent.sessions hauth, roomId,
        hok.numbered.fresh hallocated, ?_, reachesMembers hok'.consistent habout hmembers⟩
      rw [hmembers, ← hauth.2.1]
      rfl
  · intro session active claim deliveries hub' hs
    obtain ⟨-, -, heffect⟩ := step_effect hok hs
    cases heffect with
    | said hauth hclaimed found hmember habout =>
      obtain ⟨m, hm, hstamp⟩ := hmember
      exact ⟨.of_authorized hok.consistent.sessions hauth, rfl, _, hclaimed,
        ⟨m, mem_membersOf.mpr ⟨_, found, hm⟩, hstamp.trans hauth.2.1⟩,
        reachesMembers hok.consistent habout (membersOf_some found)⟩
  · intro session active claim deliveries hub' hs
    obtain ⟨hok', -, heffect⟩ := step_effect hok hs
    cases heffect with
    | @left _ _ sender _ roomId room event _ hauth hclaimed found hmember habout _ _ hrooms =>
      obtain ⟨m, hm, hstamp⟩ := hmember
      have hlookup : hub'.rooms.lookup roomId = room.without sender := by
        rw [hrooms, if_pos rfl]
      have hmembers : hub'.membersOf roomId =
          room.members.filter fun m => !identityStampMatches m sender :=
        membersOf_without hlookup
      refine ⟨.of_authorized hok.consistent.sessions hauth, roomId, hclaimed,
        ⟨m, mem_membersOf.mpr ⟨_, found, hm⟩, hstamp.trans hauth.2.1⟩, fun member => ?_,
        reachesMembers hok'.consistent habout hmembers⟩
      rw [hmembers, membersOf_some found, List.mem_filter, ← hauth.2.1]
      simp [← identityStampMatches_iff]
  · refine members_invited h₀ ?_ h
    unfold MessengerHub.new at hnew
    split at hnew
    · exact absurd hnew (by simp)
    · cases hnew
      rfl
  · intro identity visit response hub' hs
    obtain ⟨hok', -, heffect⟩ := step_effect hok hs
    exact keepsOthers_release hok'.consistent heffect hok.consistent.sessions
  · intro previous next visit response hub' hs
    obtain ⟨hok', -, heffect⟩ := step_effect hok hs
    exact keepsOthers_advance hok'.consistent heffect hok.consistent.sessions

/-- After the run of an invitation: a message of the invitee reaches both members, once each. -/
theorem room_privacy_invite :
    ∃ deliveries hub', (sampleHub.machine verbatim).step inviteRun.2
        (.chat secondSession invitee ⟨1, ['b'], ['h', 'i']⟩) = some (.delivered deliveries, hub') ∧
      deliveries.map (·.session) = [firstSession, secondSession] ∧
      SoleSession inviteRun.2 secondSession invitee ∧
      ∃ roomId, ReachesMembers inviteRun.2 roomId deliveries := by
  have hs : (sampleHub.machine verbatim).step inviteRun.2
      (.chat secondSession invitee ⟨1, ['b'], ['h', 'i']⟩) =
        some (.delivered [⟨firstSession, .chat ⟨1, first_pos, first_le⟩ 2 ['b'] ['h', 'i'] 0⟩,
          ⟨secondSession, .chat ⟨1, first_pos, first_le⟩ 2 ['b'] ['h', 'i'] 0⟩], inviteRun.2) :=
    rfl
  obtain ⟨-, hchat, -⟩ := room_privacy (u := verbatim) sampleHub_new inviteRun_fed.history
  obtain ⟨hsole, -, roomId, -, -, hreaches⟩ := hchat _ _ _ _ _ hs
  exact ⟨_, _, hs, rfl, hsole, roomId, hreaches⟩

end P4475.Messenger
