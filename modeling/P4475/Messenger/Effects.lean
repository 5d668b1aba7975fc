import P4475.Messenger.Sessions

/-!
# What a call does

`Effect` says, call by call, what an accepted call has checked and what it leaves, and
`MessengerHub.call_effect` that this is what the operations do on a consistent hub, and that
they leave it consistent. Everything about runs is read off `Effect`.
-/

namespace P4475.Messenger

open Lib Lib.Index

/-- What holds of every hub between two calls. -/
structure MessengerHub.Consistent (hub : MessengerHub) : Prop where
  sessions : SessionsConsistent hub
  rooms : RoomsConsistent hub

namespace MessengerHub

variable {hub hub' : MessengerHub} {session : MessengerSessionId}

/-! ## Checks -/

/-- The session is the one of the presented identity, on exactly the presented stamp. -/
def Authorized (hub : MessengerHub) (session : MessengerSessionId)
    (active sender : MessengerIdentity) : Prop :=
  (∃ chatType, hub.endpointsBySession.lookup session = some { identity := sender, chatType }) ∧
    sender.stamp = active.stamp ∧ hub.sessionByIdentity.lookup active.key = some session

theorem authorizeSession_ok {active sender : MessengerIdentity}
    (h : hub.authorizeSession session active = .ok sender) :
    hub.Authorized session active sender := by
  unfold authorizeSession at h
  split at h
  next => exact absurd h (by simp)
  next endpoint he =>
    split at h
    next => exact absurd h (by simp)
    next hok =>
      cases h
      rw [not_or, not_not, not_not, identityStampMatches_iff] at hok
      exact ⟨⟨endpoint.chatType, he⟩, hok⟩

theorem claimedRoomId_ok {value : Nat} {roomId : MessengerRoomId}
    (h : claimedRoomId value = .ok roomId) : value = roomId.get := by
  unfold claimedRoomId at h
  split at h
  next => exact absurd h (by simp)
  next id hid =>
    cases h
    exact (MessengerRoomId.new_get hid).symm

theorem room_ok {roomId : MessengerRoomId} {room : MessengerRoom}
    (h : hub.room roomId = .ok room) : hub.rooms.lookup roomId = some room := by
  unfold MessengerHub.room at h
  split at h
  next => exact absurd h (by simp)
  next room' hr =>
    cases h
    exact hr

theorem ensureIdentityRoomCapacity_ok {identity : MessengerIdentity}
    (h : hub.ensureIdentityRoomCapacity identity = .ok ()) :
    (hub.roomIds identity.key).card < hub.limits.maxRoomsPerIdentity := by
  unfold ensureIdentityRoomCapacity at h
  split at h
  next => exact absurd h (by simp)
  next hlt => omega

theorem allocateRoomId_run (hub : MessengerHub) :
    (allocateRoomId.run.run hub : Except MessengerHubError MessengerRoomId × MessengerHub) =
      match hub.nextRoomId with
      | none => (.error .roomIdExhausted, hub)
      | some roomId => (.ok roomId, { hub with nextRoomId := roomId.next }) := by
  obtain ⟨limits, endpoints, sessions, rooms, index, next⟩ := hub
  cases next with
  | none => rfl
  | some roomId => rfl

theorem allocateRoomId_yields {roomId : MessengerRoomId}
    (h : Yields allocateRoomId hub roomId hub') :
    hub.nextRoomId = some roomId ∧ hub' = { hub with nextRoomId := roomId.next } := by
  unfold Yields at h
  rw [allocateRoomId_run] at h
  split at h
  next => cases h
  next value hv =>
    cases h
    exact ⟨hv, rfl⟩

/-- The counter is taken before it is looked at, but then there is nothing to take. -/
theorem allocateRoomId_atomic : Atomic allocateRoomId := by
  intro hub e hub' h
  rw [allocateRoomId_run] at h
  split at h
  next => cases h; rfl
  next => cases h

/-! ## A failure leaves the hub as it was -/

theorem enter_atomic (u : Unicode) (peerIp : IpAddr) (active : MessengerIdentity)
    (claim : EnterClaim) : Atomic (enter u session peerIp active claim) := by
  unfold enter
  refine readsOnly_get.bind fun hub => ?_
  refine (readsOnly_ensure _ _).bind fun _ => (readsOnly_ensure _ _).bind fun _ =>
    (readsOnly_ensure _ _).bind fun _ => (readsOnly_ensure _ _).bind fun _ =>
    (readsOnly_ensure _ _).bind fun _ => ?_
  exact ((succeeds_set _).bind fun _ => succeeds_pure _).atomic

theorem invite_atomic (u : Unicode) (activeSender activeTarget : MessengerIdentity)
    (claim : InviteClaim) : Atomic (invite u session activeSender activeTarget claim) := by
  unfold invite
  refine readsOnly_get.bind fun hub => ?_
  refine (readsOnly_liftResult _).bind fun sender => (readsOnly_liftResult _).bind fun _ =>
    (readsOnly_ensure _ _).bind fun _ => (readsOnly_ensure _ _).bind fun _ =>
    (readsOnly_ensure _ _).bind fun _ => (readsOnly_liftResult _).bind fun _ =>
    (readsOnly_liftResult _).bind fun _ => ?_
  exact allocateRoomId_atomic.bind fun _ => (succeeds_modify _).bind fun _ =>
    succeeds_get.bind fun _ => succeeds_pure _

theorem chat_atomic (u : Unicode) (activeSender : MessengerIdentity) (claim : ChatClaim) :
    Atomic (chat u session activeSender claim) := by
  unfold chat
  refine readsOnly_get.bind fun hub => ?_
  exact (readsOnly_liftResult _).bind fun _ => (readsOnly_liftResult _).bind fun _ =>
    (readsOnly_liftResult _).bind fun _ => (readsOnly_liftResult _).bind fun _ =>
    (readsOnly_liftResult _).bind fun _ => (readsOnly_ensure _ _).bind fun _ =>
    (readsOnly_pure _).atomic

theorem leave_atomic (activeSender : MessengerIdentity) (claim : LeaveClaim) :
    Atomic (leave session activeSender claim) := by
  unfold leave
  refine readsOnly_get.bind fun hub => ?_
  refine (readsOnly_liftResult _).bind fun sender => (readsOnly_ensure _ _).bind fun _ =>
    (readsOnly_liftResult _).bind fun _ => (readsOnly_liftResult _).bind fun _ =>
    (readsOnly_liftResult _).bind fun _ => ?_
  exact ((succeeds_set _).bind fun _ => (succeeds_modify _).bind fun _ =>
    succeeds_get.bind fun _ => succeeds_pure _).atomic

theorem advanceGeneration_atomic (previous next : MessengerIdentity)
    (visit : List MessengerRoomId) : Atomic (advanceGeneration previous next visit) := by
  unfold advanceGeneration
  refine readsOnly_get.bind fun hub => (readsOnly_ensure _ _).bind fun _ => ?_
  exact ((succeeds_set _).bind fun _ => succeeds_pure _).atomic

/-- What `perform` answers. -/
theorem perform_cases {α : Type} {respond : α → HubResponse} {action : HubAction α}
    (hatomic : Atomic action) {response : HubResponse}
    (h : hub.perform respond action = (response, hub')) :
    (∃ a, response = respond a ∧ Yields action hub a hub') ∨
      ∃ error, response = .failed error ∧ hub' = hub := by
  unfold perform at h
  split at h
  next a hub₁ hrun =>
    cases h
    exact .inl ⟨a, rfl, hrun⟩
  next e hub₁ hrun =>
    cases h
    exact .inr ⟨e, rfl, hatomic hub e _ hrun⟩

end MessengerHub

/-! ## Effects -/

open MessengerHub

/-- What calls do to a hub: the guards that have let them through, and what changes. -/
inductive Effect (hub : MessengerHub) : HubCall → HubResponse → MessengerHub → Prop
  | failed (call : HubCall) (error : MessengerHubError) : Effect hub call (.failed error) hub
  | entered {session : MessengerSessionId} {peerIp : IpAddr} {active : MessengerIdentity}
      {claim : EnterClaim} {hub' : MessengerHub}
      (fresh : hub.endpointsBySession.lookup session = none)
      (endpoints : ∀ s, hub'.endpointsBySession.lookup s =
        if s = session then some { identity := active, chatType := claim.chatType }
        else if hub.sessionByIdentity.lookup active.key = some s then none
        else hub.endpointsBySession.lookup s)
      (rooms : hub'.rooms = hub.rooms)
      (next : hub'.nextRoomId = hub.nextRoomId) :
      Effect hub (.enter session peerIp active claim)
        (.entered { replacedSession := hub.sessionByIdentity.lookup active.key }) hub'
  | invited {session : MessengerSessionId} {active target sender : MessengerIdentity}
      {claim : InviteClaim} {roomId : MessengerRoomId} {event : MessengerEvent}
      {hub' : MessengerHub}
      (authorized : hub.Authorized session active sender)
      (allocated : hub.nextRoomId = some roomId)
      (about : event.room = roomId)
      (endpoints : hub'.endpointsBySession = hub.endpointsBySession)
      (sessions : hub'.sessionByIdentity = hub.sessionByIdentity)
      (rooms : ∀ r, hub'.rooms.lookup r =
        if r = roomId then some { members := [sender, target] } else hub.rooms.lookup r)
      (next : hub'.nextRoomId = roomId.next) :
      Effect hub (.invite session active target claim)
        (.delivered (hub'.deliverToMembers [sender, target] event)) hub'
  | said {session : MessengerSessionId} {active sender : MessengerIdentity} {claim : ChatClaim}
      {roomId : MessengerRoomId} {room : MessengerRoom} {event : MessengerEvent}
      (authorized : hub.Authorized session active sender)
      (claimed : claim.roomId = roomId.get)
      (found : hub.rooms.lookup roomId = some room)
      (member : ∃ m ∈ room.members, m.stamp = sender.stamp)
      (about : event.room = roomId) :
      Effect hub (.chat session active claim)
        (.delivered (hub.deliverToMembers room.members event)) hub
  | left {session : MessengerSessionId} {active sender : MessengerIdentity} {claim : LeaveClaim}
      {roomId : MessengerRoomId} {room : MessengerRoom} {event : MessengerEvent}
      {hub' : MessengerHub}
      (authorized : hub.Authorized session active sender)
      (claimed : claim.roomId = roomId.get)
      (found : hub.rooms.lookup roomId = some room)
      (member : ∃ m ∈ room.members, m.stamp = sender.stamp)
      (about : event.room = roomId)
      (endpoints : hub'.endpointsBySession = hub.endpointsBySession)
      (sessions : hub'.sessionByIdentity = hub.sessionByIdentity)
      (rooms : ∀ r, hub'.rooms.lookup r =
        if r = roomId then room.without sender else hub.rooms.lookup r)
      (next : hub'.nextRoomId = hub.nextRoomId) :
      Effect hub (.leave session active claim)
        (.delivered (hub'.deliverToMembers
          (room.members.filter fun m => !identityStampMatches m sender) event)) hub'
  | advanced {previous identity : MessengerIdentity} {visit : List MessengerRoomId}
      {outcome : GenerationAdvance} {hub' : MessengerHub}
      (same : previous.key = identity.key ∧ previous.userNo = identity.userNo
        ∧ previous.sourceIp = identity.sourceIp
        ∧ previous.generation.get < identity.generation.get)
      (endpoints : ∀ s, hub'.endpointsBySession.lookup s =
        (hub.endpointsBySession.lookup s).map (·.moved previous identity))
      (rooms : ∀ r, hub'.rooms.lookup r =
        (hub.rooms.lookup r).map (·.moved previous identity))
      (next : hub'.nextRoomId = hub.nextRoomId) :
      Effect hub (.advanceGeneration previous identity visit) (.advanced outcome) hub'
  | released {identity : MessengerIdentity} {visit : List MessengerRoomId}
      {outcome : IdentityRelease} {hub' : MessengerHub}
      (endpoints : ∀ s, hub'.endpointsBySession.lookup s =
        (hub.endpointsBySession.lookup s).bind (·.without identity))
      (rooms : ∀ r, hub'.rooms.lookup r = (hub.rooms.lookup r).bind (·.without identity))
      (next : hub'.nextRoomId = hub.nextRoomId) :
      Effect hub (.releaseIdentity identity visit) (.released outcome) hub'
  | absent {session : MessengerSessionId} {visit : List MessengerRoomId}
      (unknown : hub.endpointsBySession.lookup session = none) :
      Effect hub (.disconnectSession session visit) (.disconnected none) hub
  | disconnected {session : MessengerSessionId} {visit : List MessengerRoomId}
      {endpoint : MessengerEndpoint} {outcome : IdentityRelease} {hub' : MessengerHub}
      (found : hub.endpointsBySession.lookup session = some endpoint)
      (endpoints : hub'.endpointsBySession = hub.endpointsBySession.erase session)
      (rooms : ∀ r, hub'.rooms.lookup r =
        (hub.rooms.lookup r).bind (·.without endpoint.identity))
      (next : hub'.nextRoomId = hub.nextRoomId) :
      Effect hub (.disconnectSession session visit) (.disconnected (some outcome)) hub'

namespace MessengerHub

variable {hub hub' : MessengerHub} {session : MessengerSessionId}

/-- What holds of every hub between two calls, with the counter it depends on. -/
structure Ok (hub : MessengerHub) : Prop where
  consistent : hub.Consistent
  numbered : hub.Numbered

/-- What the walk of a removal leaves of the numbering. -/
theorem Numbered.of_subset (h : hub.Numbered) (hnext : hub'.nextRoomId = hub.nextRoomId)
    (hsub : ∀ r room, hub'.rooms.lookup r = some room →
      ∃ room', hub.rooms.lookup r = some room') : hub'.Numbered := by
  intro r room hr next hn
  obtain ⟨room', hr'⟩ := hsub r room hr
  rw [hnext] at hn
  exact h r room' hr' next hn

theorem enter_effect (h : hub.Ok) {u : Unicode} {peerIp : IpAddr} {active : MessengerIdentity}
    {claim : EnterClaim} {outcome : EnterOutcome}
    (hy : Yields (enter u session peerIp active claim) hub outcome hub') :
    hub'.Ok ∧ hub'.limits = hub.limits ∧
      Effect hub (.enter session peerIp active claim) (.entered outcome) hub' := by
  unfold enter at hy
  simp only [yields_get_bind, yields_ensure_bind, yields_set_bind, yields_pure] at hy
  obtain ⟨hfresh, -, -, -, hroom, rfl, hset⟩ := hy
  have hlimits : hub'.limits = hub.limits := by rw [hset]
  have hrooms : hub'.rooms = hub.rooms := by rw [hset]
  have hindex : hub'.roomsByIdentity = hub.roomsByIdentity := by rw [hset]
  have hnext : hub'.nextRoomId = hub.nextRoomId := by rw [hset]
  obtain ⟨hsessions, hendpoints⟩ := consistent_enter h.consistent.sessions claim.chatType
    hfresh hroom hlimits (by rw [hset]) (by rw [hset])
  refine ⟨⟨⟨hsessions, h.consistent.rooms.congr hlimits hrooms hindex⟩, ?_⟩, hlimits,
    .entered hfresh hendpoints hrooms hnext⟩
  refine h.numbered.of_subset hnext fun r room hr => ⟨room, ?_⟩
  rw [← hrooms]
  exact hr

theorem invite_effect (h : hub.Ok) {u : Unicode} {active target : MessengerIdentity}
    {claim : InviteClaim} {deliveries : List MessengerDelivery}
    (hy : Yields (invite u session active target claim) hub deliveries hub') :
    hub'.Ok ∧ hub'.limits = hub.limits ∧
      Effect hub (.invite session active target claim) (.delivered deliveries) hub' := by
  unfold invite at hy
  simp only [yields_get_bind, yields_liftResult_bind, yields_ensure_bind] at hy
  obtain ⟨sender, hsender, _, -, -, hself, hroom, _, hsenderRoom, _, htargetRoom, hy⟩ := hy
  obtain ⟨roomId, hub₁, halloc, hy⟩ := yields_bind.mp hy
  obtain ⟨hnext, rfl⟩ := allocateRoomId_yields halloc
  simp only [yields_modify_bind, yields_get_bind, yields_pure] at hy
  obtain ⟨hdeliveries, hset⟩ := hy
  rw [← hset] at hdeliveries
  subst hdeliveries
  have hfresh := h.numbered.fresh hnext
  have hlimits : hub'.limits = hub.limits := by rw [hset]
  have hrooms : hub'.rooms = hub.rooms.insert roomId { members := [sender, target] } := by
    rw [hset]
  have hcounter : hub'.nextRoomId = roomId.next := by rw [hset]
  have honly : hub'.endpointsBySession = hub.endpointsBySession ∧
      hub'.sessionByIdentity = hub.sessionByIdentity := by
    rw [hset]
    exact ⟨rfl, rfl⟩
  refine ⟨⟨⟨⟨?_, ?_⟩, ?_⟩, ?_⟩, hlimits, ?_⟩
  · rw [honly.1, honly.2]
    exact h.consistent.sessions.inverse
  · rw [honly.1, hlimits]
    exact h.consistent.sessions.sessionLimit
  · exact h.consistent.rooms.open hfresh hself hroom (ensureIdentityRoomCapacity_ok hsenderRoom)
      (ensureIdentityRoomCapacity_ok htargetRoom) hlimits hrooms (by rw [hset]; rfl)
  · intro r room hr next hn
    rw [hcounter] at hn
    have hsucc := MessengerRoomId.next_get hn
    rw [hrooms, Map.lookup_insert_ite] at hr
    split at hr
    next he =>
      rw [he, hsucc]
      exact Nat.lt_succ_self _
    next =>
      have hlt := h.numbered r room hr roomId hnext
      omega
  · refine .invited (authorizeSession_ok hsender) hnext rfl honly.1 honly.2 (fun r => ?_) hcounter
    rw [hrooms, Map.lookup_insert_ite]

theorem chat_effect {u : Unicode} {active : MessengerIdentity} {claim : ChatClaim}
    {deliveries : List MessengerDelivery}
    (hy : Yields (chat u session active claim) hub deliveries hub') :
    hub' = hub ∧ Effect hub (.chat session active claim) (.delivered deliveries) hub' := by
  unfold chat at hy
  simp only [yields_get_bind, yields_liftResult_bind, yields_ensure_bind, yields_pure] at hy
  obtain ⟨sender, hsender, _, -, _, -, roomId, hid, room, hroom, hmember, rfl, rfl⟩ := hy
  refine ⟨rfl, .said (authorizeSession_ok hsender) (claimedRoomId_ok hid) (room_ok hroom) ?_ rfl⟩
  obtain ⟨m, hm, hmatch⟩ := List.any_eq_true.mp hmember
  exact ⟨m, hm, identityStampMatches_iff.mp hmatch⟩

theorem leave_effect (h : hub.Ok) {active : MessengerIdentity} {claim : LeaveClaim}
    {deliveries : List MessengerDelivery}
    (hy : Yields (leave session active claim) hub deliveries hub') :
    hub'.Ok ∧ hub'.limits = hub.limits ∧
      Effect hub (.leave session active claim) (.delivered deliveries) hub' := by
  unfold leave at hy
  simp only [yields_get_bind, yields_liftResult_bind, yields_ensure_bind, yields_set_bind,
    yields_modify_bind, yields_pure] at hy
  obtain ⟨sender, hsender, -, roomId, hid, room, hroom, index, hindex, hdeliveries, hset⟩ := hy
  rw [← hset] at hdeliveries
  subst hdeliveries
  have hr := room_ok hroom
  unfold memberIndex at hindex
  split at hindex
  next => exact absurd hindex (by simp)
  next i hfind =>
    cases hindex
    obtain ⟨hlt, hmatch, -⟩ := List.findIdx?_eq_some_iff_getElem.mp hfind
    have hm : room.members[index] ∈ room.members := List.getElem_mem hlt
    have hs : room.members[index].stamp = sender.stamp := identityStampMatches_iff.mp hmatch
    have hkept := eraseIdx_eq_filter (h.consistent.rooms.occupied roomId room hr).2 hfind
    have hlose : hub' = hub.lose roomId
        (room.members.filter fun m => !identityStampMatches m sender) sender.key := by
      rw [hset, hkept]
      unfold removeInverseRoom MessengerHub.lose
      split
      next => dsimp only; rw [Map.erase_of_insert]
      next => rfl
    have honly := onlyRooms_lose hub roomId
      (room.members.filter fun m => !identityStampMatches m sender) sender.key
    rw [← hlose] at honly
    have hrooms : ∀ r, hub'.rooms.lookup r =
        if r = roomId then room.without sender else hub.rooms.lookup r := by
      intro r
      rw [hlose, lookup_lose]
      rfl
    refine ⟨⟨⟨h.consistent.sessions.congr honly, ?_⟩, ?_⟩, honly.limits, ?_⟩
    · rw [hlose]
      exact h.consistent.rooms.lose hr hm hs
    · refine h.numbered.of_subset honly.nextRoomId fun r room' hr' => ?_
      rw [hrooms] at hr'
      split at hr'
      next he =>
        rw [he]
        exact ⟨room, hr⟩
      next => exact ⟨room', hr'⟩
    · rw [hkept]
      exact .left (authorizeSession_ok hsender) (claimedRoomId_ok hid) hr ⟨_, hm, hs⟩ rfl
        honly.endpoints honly.sessions hrooms honly.nextRoomId

theorem advanceGeneration_effect (h : hub.Ok) {previous next : MessengerIdentity}
    {visit : List MessengerRoomId} (hv : hub.Walks previous.key visit)
    {outcome : GenerationAdvance}
    (hy : Yields (advanceGeneration previous next visit) hub outcome hub') :
    hub'.Ok ∧ hub'.limits = hub.limits ∧
      Effect hub (.advanceGeneration previous next visit) (.advanced outcome) hub' := by
  unfold advanceGeneration at hy
  simp only [yields_get_bind, yields_ensure_bind, yields_set_bind, yields_pure] at hy
  obtain ⟨hsame, -, rfl⟩ := hy
  obtain ⟨hsessions, hlimits, hrooms, hindex, hnext, hendpoints⟩ :=
    advanceEndpoint_spec h.consistent.sessions hsame.1
  generalize hub.advanceEndpoint previous next = moved at *
  have hv' : moved.1.Walks previous.key visit := by
    unfold Walks roomIds at hv ⊢
    rw [hindex]
    exact hv
  obtain ⟨hok, honly, hlookup⟩ := advanceRooms_spec
    (h.consistent.rooms.congr hlimits hrooms hindex) hsame.1 hv' 0
  rw [hrooms] at hlookup
  have hnext' := honly.nextRoomId.trans hnext
  refine ⟨⟨⟨hsessions.congr honly, hok⟩, ?_⟩, honly.limits.trans hlimits, ?_⟩
  · refine h.numbered.of_subset hnext' fun r room hr => ?_
    rw [hlookup, Option.map_eq_some_iff] at hr
    obtain ⟨room', hr', -⟩ := hr
    exact ⟨room', hr'⟩
  · refine .advanced hsame (fun s => ?_) hlookup hnext'
    rw [honly.endpoints]
    exact hendpoints s

/-- The removal that a release and a disconnection end with. -/
theorem removal_ok (h : hub.Ok) {identity : MessengerIdentity} {visit : List MessengerRoomId}
    (hv : hub.Walks identity.key visit) {hub₁ : MessengerHub} (hsessions : SessionsConsistent hub₁)
    (hlimits : hub₁.limits = hub.limits) (hrooms : hub₁.rooms = hub.rooms)
    (hindex : hub₁.roomsByIdentity = hub.roomsByIdentity)
    (hnext : hub₁.nextRoomId = hub.nextRoomId) :
    (hub₁.removeIdentityFromRooms identity visit).hub.Ok ∧
      OnlyRooms hub₁ (hub₁.removeIdentityFromRooms identity visit).hub ∧
      ∀ r, (hub₁.removeIdentityFromRooms identity visit).hub.rooms.lookup r =
        (hub.rooms.lookup r).bind (·.without identity) := by
  have hv' : hub₁.Walks identity.key visit := by
    unfold Walks roomIds at hv ⊢
    rw [hindex]
    exact hv
  obtain ⟨hok, honly, hlookup⟩ := removeIdentityFromRooms_spec
    (h.consistent.rooms.congr hlimits hrooms hindex) hv'
  rw [hrooms] at hlookup
  refine ⟨⟨⟨hsessions.congr honly, hok⟩, ?_⟩, honly, hlookup⟩
  refine h.numbered.of_subset (honly.nextRoomId.trans hnext) fun r room hr => ?_
  rw [hlookup, Option.bind_eq_some_iff] at hr
  obtain ⟨room', hr', -⟩ := hr
  exact ⟨room', hr'⟩

theorem releaseIdentity_effect (h : hub.Ok) {identity : MessengerIdentity}
    {visit : List MessengerRoomId} (hv : hub.Walks identity.key visit)
    {release : IdentityRelease} (hy : hub.releaseIdentity identity visit = (release, hub')) :
    hub'.Ok ∧ hub'.limits = hub.limits ∧
      Effect hub (.releaseIdentity identity visit) (.released release) hub' := by
  unfold releaseIdentity at hy
  dsimp only at hy
  cases hy
  obtain ⟨hsessions, hlimits, hrooms, hindex, hnext, hendpoints⟩ :=
    releaseEndpoint_spec h.consistent.sessions identity
  obtain ⟨hok, honly, hlookup⟩ := removal_ok h hv hsessions hlimits hrooms hindex hnext
  refine ⟨hok, honly.limits.trans hlimits, .released (fun s => ?_) hlookup
    (honly.nextRoomId.trans hnext)⟩
  rw [honly.endpoints]
  exact hendpoints s

theorem disconnectSession_effect (h : hub.Ok) {visit : List MessengerRoomId}
    (hv : hub.Admits (.disconnectSession session visit)) {release : Option IdentityRelease}
    (hy : hub.disconnectSession session visit = (release, hub')) :
    hub'.Ok ∧ hub'.limits = hub.limits ∧
      Effect hub (.disconnectSession session visit) (.disconnected release) hub' := by
  unfold disconnectSession at hy
  split at hy
  next hnone =>
    cases hy
    exact ⟨h, rfl, .absent hnone⟩
  next endpoint he =>
    dsimp only at hy
    cases hy
    unfold Admits at hv
    dsimp only at hv
    rw [he] at hv
    obtain ⟨hok, honly, hlookup⟩ := removal_ok h hv
      (consistent_removeEndpoint h.consistent.sessions he) rfl rfl rfl rfl
    exact ⟨hok, honly.limits, .disconnected he honly.endpoints hlookup honly.nextRoomId⟩

/-- What any call does. -/
theorem call_effect {u : Unicode} (h : hub.Ok) {call : HubCall} (hv : hub.Admits call)
    {response : HubResponse} (hcall : hub.call u call = (response, hub')) :
    hub'.Ok ∧ hub'.limits = hub.limits ∧ Effect hub call response hub' := by
  cases call with
  | enter session peerIp active claim =>
    rcases perform_cases (enter_atomic u peerIp active claim) hcall with
      ⟨outcome, rfl, hy⟩ | ⟨error, rfl, rfl⟩
    · exact enter_effect h hy
    · exact ⟨h, rfl, .failed _ error⟩
  | invite session active target claim =>
    rcases perform_cases (invite_atomic u active target claim) hcall with
      ⟨deliveries, rfl, hy⟩ | ⟨error, rfl, rfl⟩
    · exact invite_effect h hy
    · exact ⟨h, rfl, .failed _ error⟩
  | chat session active claim =>
    rcases perform_cases (chat_atomic u active claim) hcall with
      ⟨deliveries, rfl, hy⟩ | ⟨error, rfl, rfl⟩
    · obtain ⟨rfl, heffect⟩ := chat_effect hy
      exact ⟨h, rfl, heffect⟩
    · exact ⟨h, rfl, .failed _ error⟩
  | leave session active claim =>
    rcases perform_cases (leave_atomic active claim) hcall with
      ⟨deliveries, rfl, hy⟩ | ⟨error, rfl, rfl⟩
    · exact leave_effect h hy
    · exact ⟨h, rfl, .failed _ error⟩
  | advanceGeneration previous next visit =>
    rcases perform_cases (advanceGeneration_atomic previous next visit) hcall with
      ⟨outcome, rfl, hy⟩ | ⟨error, rfl, rfl⟩
    · exact advanceGeneration_effect h hv hy
    · exact ⟨h, rfl, .failed _ error⟩
  | releaseIdentity identity visit =>
    unfold MessengerHub.call at hcall
    dsimp only at hcall
    cases hcall
    exact releaseIdentity_effect h hv rfl
  | disconnectSession session visit =>
    unfold MessengerHub.call at hcall
    dsimp only at hcall
    cases hcall
    exact disconnectSession_effect h hv rfl

end MessengerHub

end P4475.Messenger
