import P4475.Messenger.Effects

/-!
# The messenger hub over whole runs

From any limits the hub accepts, and after any calls: sessions and identities lead to each
other, the index of rooms is the inverse of their member lists, the limits hold, and a
room id is issued once. When the callers keep to one current stamp a key, a release of it
leaves nothing behind.
-/

namespace P4475.Messenger

open Lib Lib.Index MessengerHub

variable {u : Unicode} {hub hub₀ hub' : MessengerHub}

/-! ## Deliveries -/

/-- A member is reached through the session that is on its stamp. -/
theorem memberSession_iff (h : SessionsConsistent hub) {member : MessengerIdentity}
    {session : MessengerSessionId} :
    hub.memberSession member = some session ↔
      ∃ endpoint, hub.endpointsBySession.lookup session = some endpoint ∧
        endpoint.identity.stamp = member.stamp := by
  unfold memberSession
  constructor
  · intro hm
    split at hm
    next => exact absurd hm (by simp)
    next s hindex =>
      split at hm
      next => exact absurd hm (by simp)
      next endpoint he =>
        split at hm
        next hmatch =>
          cases hm
          exact ⟨endpoint, he, identityStampMatches_iff.mp hmatch⟩
        next => exact absurd hm (by simp)
  · rintro ⟨endpoint, he, hstamp⟩
    have hindex := h.inverse.lookup he
    rw [MessengerEndpoint.key, key_of_stamp hstamp] at hindex
    rw [hindex]
    dsimp only
    rw [he]
    dsimp only
    rw [if_pos (identityStampMatches_iff.mpr hstamp)]

theorem map_session_deliverToMembers (hub : MessengerHub) (members : List MessengerIdentity)
    (event : MessengerEvent) :
    (hub.deliverToMembers members event).map (·.session) =
      members.filterMap hub.memberSession := by
  unfold deliverToMembers
  rw [List.map_map]
  exact List.map_id _

theorem event_of_mem_deliverToMembers {members : List MessengerIdentity} {event : MessengerEvent}
    {delivery : MessengerDelivery} (h : delivery ∈ hub.deliverToMembers members event) :
    delivery.event = event := by
  unfold deliverToMembers at h
  rw [List.mem_map] at h
  obtain ⟨_, -, rfl⟩ := h
  rfl

/-- The inviter is on the endpoint that invites, so an invitation is always delivered. -/
theorem deliver_to_sender (h : SessionsConsistent hub) {session : MessengerSessionId}
    {active sender : MessengerIdentity} (hauth : hub.Authorized session active sender)
    (rest : List MessengerIdentity) (event : MessengerEvent) :
    hub.deliverToMembers (sender :: rest) event =
      { session, event } :: hub.deliverToMembers rest event := by
  obtain ⟨⟨chatType, he⟩, -, -⟩ := hauth
  have hsession := (memberSession_iff h).mpr ⟨_, he, rfl⟩
  unfold deliverToMembers
  rw [List.filterMap_cons_some hsession, List.map_cons]

/-! ## Issued ids -/

/-- The room id that an invitation answers with. -/
def issuedBy : HubCall × HubResponse → Option MessengerRoomId
  | (.invite _ _ _ _, .delivered (delivery :: _)) => some delivery.event.room
  | _ => none

/-- The room ids of a run, latest first. -/
def issued (tr : List (HubCall × HubResponse)) : List MessengerRoomId := tr.filterMap issuedBy

theorem new_ok {limits : MessengerHubLimits} (h : MessengerHub.new limits = .ok hub) :
    hub.Ok ∧ hub.limits = limits := by
  unfold MessengerHub.new at h
  split at h
  · exact absurd h (by simp)
  · cases h
    refine ⟨⟨⟨⟨.empty, Nat.zero_le _⟩, ⟨.empty, ?_, ?_, Nat.zero_le _, ?_⟩⟩, ?_⟩, rfl⟩
    · intro k listed hl
      exact absurd hl (by simp)
    · intro r room hl
      exact absurd hl (by simp)
    · intro key
      exact Nat.zero_le _
    · intro r room hl
      exact absurd hl (by simp)

theorem step_effect (h : hub.Ok) {call : HubCall} {response : HubResponse}
    (hs : (hub₀.machine u).step hub call = some (response, hub')) :
    hub'.Ok ∧ hub'.limits = hub.limits ∧ Effect hub call response hub' := by
  unfold machine at hs
  dsimp only at hs
  split at hs
  next hv => exact call_effect h hv (Option.some.inj hs)
  next => exact absurd hs (by simp)

theorem ok_of_history (h₀ : hub₀.Ok) {tr : List (HubCall × HubResponse)}
    (h : (hub₀.machine u).History tr hub) : hub.Ok ∧ hub.limits = hub₀.limits := by
  refine h.invariant (P := fun _ hub => hub.Ok ∧ hub.limits = hub₀.limits) ⟨h₀, rfl⟩ ?_
  intro tr s s' a r _ ih hs
  obtain ⟨hok, hlimits, -⟩ := step_effect ih.1 hs
  exact ⟨hok, hlimits.trans ih.2⟩

/-- Issued ids stay below the counter, so the next one is new. -/
theorem issued_of_history (h₀ : hub₀.Ok) {tr : List (HubCall × HubResponse)}
    (h : (hub₀.machine u).History tr hub) :
    (issued tr).Nodup ∧ ∀ id ∈ issued tr, ∀ next, hub.nextRoomId = some next →
      id.get < next.get := by
  induction h with
  | init => exact ⟨List.nodup_nil, fun _ hid => absurd hid (by simp [issued])⟩
  | @step tr hub hub' call response hist hs ih =>
    obtain ⟨hnodup, hbelow⟩ := ih
    have hok := (ok_of_history h₀ hist).1
    obtain ⟨hok', -, heffect⟩ := step_effect hok hs
    -- only an invitation issues, and only an invitation moves the counter
    have hquiet : issuedBy (call, response) = none → hub'.nextRoomId = hub.nextRoomId →
        (issued ((call, response) :: tr)).Nodup ∧ ∀ id ∈ issued ((call, response) :: tr),
          ∀ next, hub'.nextRoomId = some next → id.get < next.get := by
      intro hnone hnext
      unfold issued at hnodup hbelow ⊢
      rw [List.filterMap_cons_none hnone, hnext]
      exact ⟨hnodup, hbelow⟩
    cases heffect with
    | failed => exact hquiet (by unfold issuedBy; split <;> simp_all) rfl
    | entered _ _ _ hnext => exact hquiet rfl hnext
    | said => exact hquiet rfl rfl
    | left _ _ _ _ _ _ _ _ hnext => exact hquiet rfl hnext
    | advanced _ _ _ hnext => exact hquiet rfl hnext
    | released _ _ hnext => exact hquiet rfl hnext
    | absent => exact hquiet rfl rfl
    | disconnected _ _ _ hnext => exact hquiet rfl hnext
    | @invited session active target sender claim roomId event _ hauth hallocated habout
        hendpoints hsessions hrooms hnext =>
      have hauth' : hub'.Authorized session active sender := by
        unfold Authorized at hauth ⊢
        rw [hendpoints, hsessions]
        exact hauth
      have hissued : issuedBy (.invite session active target claim,
          .delivered (hub'.deliverToMembers [sender, target] event)) = some roomId := by
        rw [deliver_to_sender hok'.consistent.sessions hauth']
        exact congrArg some habout
      unfold issued at hnodup hbelow ⊢
      rw [List.filterMap_cons_some hissued]
      constructor
      · refine List.nodup_cons.mpr ⟨fun hmem => ?_, hnodup⟩
        exact absurd (hbelow roomId hmem roomId hallocated) (Nat.lt_irrefl _)
      · intro id hid next hn
        rw [hnext] at hn
        have hsucc := MessengerRoomId.next_get hn
        rcases List.mem_cons.mp hid with rfl | hmem
        · omega
        · have hlt := hbelow id hmem roomId hallocated
          omega

/-! ## Stamps that are fed consistently -/

/-- The stamp each key is logged in with. -/
abbrev Current := Text → Option Stamp

/-- Where a stamp is current, something else takes its place. -/
def Current.replace (current : Current) (stamp : Stamp) (next : Option Stamp) : Current :=
  if current stamp.key = some stamp then Function.update current stamp.key next else current

/-- `enter` and `invite` present current stamps. -/
def Current.Presents (current : Current) : HubCall → Prop
  | .enter _ _ active _ => current active.key = some active.stamp
  | .invite _ active target _ =>
    current active.key = some active.stamp ∧ current target.key = some target.stamp
  | _ => True

/-- An accepted advance from the current stamp moves it, a release of it ends it. -/
def Current.after (current : Current) : HubCall → HubResponse → Current
  | .advanceGeneration previous next _, .advanced _ =>
    current.replace previous.stamp (some next.stamp)
  | .releaseIdentity identity _, .released _ => current.replace identity.stamp none
  | _, _ => current

/-- The runs in which a key has one current stamp at a time; a key without one may get any. -/
inductive Fed (u : Unicode) (hub₀ : MessengerHub) :
    Current → List (HubCall × HubResponse) → MessengerHub → Prop
  | init : Fed u hub₀ (fun _ => none) [] hub₀
  | login {current : Current} {tr : List (HubCall × HubResponse)} {hub : MessengerHub}
      (stamp : Stamp) : Fed u hub₀ current tr hub → current stamp.key = none →
      Fed u hub₀ (Function.update current stamp.key (some stamp)) tr hub
  | step {current : Current} {tr : List (HubCall × HubResponse)} {hub hub' : MessengerHub}
      {call : HubCall} {response : HubResponse} : Fed u hub₀ current tr hub →
      current.Presents call → (hub₀.machine u).step hub call = some (response, hub') →
      Fed u hub₀ (current.after call response) ((call, response) :: tr) hub'

theorem Fed.history {current : Current} {tr : List (HubCall × HubResponse)}
    (h : Fed u hub₀ current tr hub) : (hub₀.machine u).History tr hub := by
  induction h with
  | init => exact .init
  | login _ _ _ ih => exact ih
  | step _ _ hs ih => exact ih.step hs

/-- What the hub holds is on current stamps. -/
structure OnCurrent (current : Current) (hub : MessengerHub) : Prop where
  endpoints : ∀ s endpoint, hub.endpointsBySession.lookup s = some endpoint →
    current endpoint.identity.key = some endpoint.identity.stamp
  members : ∀ r room, hub.rooms.lookup r = some room → ∀ member ∈ room.members,
    current member.key = some member.stamp

/-- Another stamp stays current. -/
theorem Current.replace_of_ne {current : Current} {stamp : Stamp} {identity : MessengerIdentity}
    (next : Option Stamp) (hcurrent : current identity.key = some identity.stamp)
    (hne : identity.stamp ≠ stamp) :
    current.replace stamp next identity.key = some identity.stamp := by
  unfold Current.replace
  split
  next hstamp =>
    rw [Function.update_of_ne]
    · exact hcurrent
    · intro hk
      rw [hk, hstamp] at hcurrent
      exact hne (Option.some.inj hcurrent).symm
  next => exact hcurrent

/-- A stamp that was current has moved. -/
theorem Current.replace_self {current : Current} {previous next : MessengerIdentity}
    (hcurrent : current previous.key = some previous.stamp) (hk : previous.key = next.key) :
    current.replace previous.stamp (some next.stamp) next.key = some next.stamp := by
  unfold Current.replace
  rw [MessengerIdentity.stamp_key, if_pos hcurrent, hk, Function.update_self]

/-- Taking stamps out leaves the rest current. -/
theorem OnCurrent.of_without {current current' : Current} (h : OnCurrent current hub)
    {identity : MessengerIdentity}
    (hafter : ∀ other : MessengerIdentity, current other.key = some other.stamp →
      other.stamp ≠ identity.stamp → current' other.key = some other.stamp)
    (hendpoints : ∀ s endpoint, hub'.endpointsBySession.lookup s = some endpoint →
      hub.endpointsBySession.lookup s = some endpoint ∧
        (endpoint.identity.stamp ≠ identity.stamp ∨ current' = current))
    (hrooms : ∀ r, hub'.rooms.lookup r = (hub.rooms.lookup r).bind (·.without identity)) :
    OnCurrent current' hub' := by
  constructor
  · intro s endpoint he
    obtain ⟨he', hne | hsame⟩ := hendpoints s endpoint he
    · exact hafter _ (h.endpoints s endpoint he') hne
    · rw [hsame]
      exact h.endpoints s endpoint he'
  · intro r room hr member hm
    rw [hrooms, Option.bind_eq_some_iff] at hr
    obtain ⟨room', hr', hwithout⟩ := hr
    rw [MessengerRoom.mem_without hwithout] at hm
    exact hafter _ (h.members r room' hr' member hm.1) hm.2

/-- One step keeps everything on current stamps. -/
theorem OnCurrent.effect {current : Current} (h : OnCurrent current hub) {call : HubCall}
    {response : HubResponse} (hpresents : current.Presents call)
    (heffect : Effect hub call response hub') :
    OnCurrent (current.after call response) hub' := by
  cases heffect with
  | failed call error =>
    have hsame : current.after call (.failed error) = current := by
      cases call <;> rfl
    rw [hsame]
    exact h
  | entered fresh hendpoints hrooms =>
    constructor
    · intro s endpoint he
      rw [hendpoints] at he
      split at he
      · cases he
        exact hpresents
      · split at he
        · exact absurd he (by simp)
        · exact h.endpoints s endpoint he
    · rw [hrooms]
      exact h.members
  | invited hauth _ _ hendpoints _ hrooms =>
    constructor
    · rw [hendpoints]
      exact h.endpoints
    · intro r room hr member hm
      rw [hrooms] at hr
      split at hr
      · cases hr
        rcases List.mem_pair.mp hm with rfl | rfl
        · obtain ⟨⟨chatType, he⟩, -⟩ := hauth
          exact h.endpoints _ _ he
        · exact hpresents.2
      · exact h.members r room hr member hm
  | said => exact h
  | left _ _ found _ _ hendpoints _ hrooms =>
    constructor
    · rw [hendpoints]
      exact h.endpoints
    · intro r room hr member hm
      rw [hrooms] at hr
      split at hr
      · rw [MessengerRoom.mem_without hr] at hm
        exact h.members _ _ found member hm.1
      · exact h.members r room hr member hm
  | @advanced previous next visit outcome _ same hendpoints hrooms =>
    constructor
    · intro s endpoint he
      rw [hendpoints, Option.map_eq_some_iff] at he
      obtain ⟨endpoint', he', rfl⟩ := he
      have hcurrent := h.endpoints s endpoint' he'
      unfold MessengerEndpoint.moved
      split
      next hstamp =>
        rw [hstamp, key_of_stamp hstamp] at hcurrent
        exact Current.replace_self hcurrent same.1
      next hstamp => exact Current.replace_of_ne _ hcurrent hstamp
    · intro r room hr member hm
      rw [hrooms, Option.map_eq_some_iff] at hr
      obtain ⟨room', hr', rfl⟩ := hr
      rcases MessengerRoom.mem_moved.mp hm with ⟨rfl, m, hm', hstamp⟩ | ⟨hm', hstamp⟩
      · have hcurrent := h.members r room' hr' m hm'
        rw [hstamp, key_of_stamp hstamp] at hcurrent
        exact Current.replace_self hcurrent same.1
      · exact Current.replace_of_ne _ (h.members r room' hr' member hm') hstamp
  | released hendpoints hrooms =>
    refine h.of_without (fun other hcurrent hne => Current.replace_of_ne _ hcurrent hne)
      (fun s endpoint he => ?_) hrooms
    rw [hendpoints, Option.bind_eq_some_iff] at he
    obtain ⟨endpoint', he', hwithout⟩ := he
    unfold MessengerEndpoint.without at hwithout
    split at hwithout
    · exact absurd hwithout (by simp)
    next hne =>
      cases hwithout
      exact ⟨he', .inl hne⟩
  | absent => exact h
  | disconnected found hendpoints hrooms =>
    refine h.of_without (fun _ hcurrent _ => hcurrent) (fun s endpoint he => ?_) hrooms
    rw [hendpoints, Map.lookup_erase_ite] at he
    split at he
    · exact absurd he (by simp)
    · exact ⟨he, .inr rfl⟩

theorem Fed.onCurrent (h₀ : hub₀.Ok) (hempty : OnCurrent (fun _ => none) hub₀)
    {current : Current} {tr : List (HubCall × HubResponse)} (h : Fed u hub₀ current tr hub) :
    OnCurrent current hub := by
  induction h with
  | init => exact hempty
  | login stamp _ hfree ih =>
    -- a key that was free is not in the hub
    have hkeep : ∀ identity : MessengerIdentity, ∀ current : Current,
        current stamp.key = none → current identity.key = some identity.stamp →
        Function.update current stamp.key (some stamp) identity.key = some identity.stamp := by
      intro identity current hfree hcurrent
      rw [Function.update_of_ne]
      · exact hcurrent
      · intro hk
        rw [hk, hfree] at hcurrent
        exact absurd hcurrent (by simp)
    exact ⟨fun s endpoint he => hkeep _ _ hfree (ih.endpoints s endpoint he),
      fun r room hr member hm => hkeep _ _ hfree (ih.members r room hr member hm)⟩
  | step hfed hpresents hs ih =>
    exact ih.effect hpresents (step_effect (ok_of_history h₀ hfed.history).1 hs).2.2

/-- Neither map of endpoints, no room and no index mentions the key. -/
structure Forgotten (hub : MessengerHub) (key : Text) : Prop where
  endpoints : ∀ s endpoint, hub.endpointsBySession.lookup s = some endpoint →
    endpoint.identity.key ≠ key
  session : hub.sessionByIdentity.lookup key = none
  rooms : ∀ r room, hub.rooms.lookup r = some room → ∀ member ∈ room.members, member.key ≠ key
  index : hub.roomsByIdentity.lookup key = none

/-- On a consistent hub it is enough to look at endpoints and rooms. -/
theorem Forgotten.of_consistent (h : hub.Consistent) {key : Text}
    (hendpoints : ∀ s endpoint, hub.endpointsBySession.lookup s = some endpoint →
      endpoint.identity.key ≠ key)
    (hrooms : ∀ r room, hub.rooms.lookup r = some room → ∀ member ∈ room.members,
      member.key ≠ key) : Forgotten hub key where
  endpoints := hendpoints
  session := by
    cases hl : hub.sessionByIdentity.lookup key with
    | none => rfl
    | some session =>
      obtain ⟨endpoint, he, hk⟩ := (h.sessions.inverse _ _).mp hl
      exact absurd hk (hendpoints session endpoint he)
  rooms := hrooms
  index := by
    cases hl : hub.roomsByIdentity.lookup key with
    | none => rfl
    | some listed =>
      obtain ⟨roomId, hmem⟩ := h.rooms.noEmptyEntry key listed hl
      have hentry : roomId ∈ entries hub.roomsByIdentity key := by
        unfold entries
        rw [hl]
        exact hmem
      obtain ⟨room, hr, hk⟩ := (h.rooms.indexed key roomId).mp hentry
      obtain ⟨member, hm, hk⟩ := MessengerRoom.mem_keys.mp hk
      exact absurd hk (hrooms roomId room hr member hm)

/-- A release of the current stamp leaves no trace of the key. -/
theorem Fed.forgotten (h₀ : hub₀.Ok) (hempty : OnCurrent (fun _ => none) hub₀)
    {current : Current} {tr : List (HubCall × HubResponse)} (h : Fed u hub₀ current tr hub)
    {identity : MessengerIdentity} (hcurrent : current identity.key = some identity.stamp)
    {visit : List MessengerRoomId} {response : HubResponse}
    (hs : (hub₀.machine u).step hub (.releaseIdentity identity visit) = some (response, hub')) :
    Forgotten hub' identity.key := by
  have hon := h.onCurrent h₀ hempty
  obtain ⟨hok', -, heffect⟩ := step_effect (ok_of_history h₀ h.history).1 hs
  -- with the key goes the stamp: there is only one
  have hstamp : ∀ other : MessengerIdentity, current other.key = some other.stamp →
      other.key = identity.key → other.stamp = identity.stamp := by
    intro other hother hk
    rw [hk, hcurrent] at hother
    exact (Option.some.inj hother).symm
  cases heffect with
  | failed =>
    -- a release does not fail
    unfold machine at hs
    dsimp only at hs
    split at hs
    · unfold MessengerHub.call at hs
      cases hs
    · exact absurd hs (by simp)
  | released hendpoints hrooms =>
    refine .of_consistent hok'.consistent (fun s endpoint he hk => ?_)
      fun r room hr member hm hk => ?_
    · rw [hendpoints, Option.bind_eq_some_iff] at he
      obtain ⟨endpoint', he', hwithout⟩ := he
      unfold MessengerEndpoint.without at hwithout
      split at hwithout
      next => exact absurd hwithout (by simp)
      next hne =>
        cases hwithout
        exact hne (hstamp _ (hon.endpoints s endpoint he') hk)
    · rw [hrooms, Option.bind_eq_some_iff] at hr
      obtain ⟨room', hr', hwithout⟩ := hr
      rw [MessengerRoom.mem_without hwithout] at hm
      exact hm.2 (hstamp _ (hon.members r room' hr' member hm.1) hk)

theorem onCurrent_new {limits : MessengerHubLimits} (h : MessengerHub.new limits = .ok hub) :
    OnCurrent (fun _ => none) hub := by
  unfold MessengerHub.new at h
  split at h
  · exact absurd h (by simp)
  · cases h
    constructor
    · intro s endpoint he
      exact absurd he (by simp)
    · intro r room hr
      exact absurd hr (by simp)

/-- An answered invitation has issued an id. -/
theorem invite_issues (h₀ : hub₀.Ok) {tr : List (HubCall × HubResponse)}
    (h : (hub₀.machine u).History tr hub) {session : MessengerSessionId}
    {active target : MessengerIdentity} {claim : InviteClaim}
    {deliveries : List MessengerDelivery}
    (hmem : (HubCall.invite session active target claim, HubResponse.delivered deliveries) ∈ tr) :
    ∃ id, issuedBy (.invite session active target claim, .delivered deliveries) = some id ∧
      ∀ delivery ∈ deliveries, delivery.event.room = id := by
  induction h with
  | init => exact absurd hmem (by simp)
  | @step tr hub hub' call response hist hs ih =>
    rcases List.mem_cons.mp hmem with heq | hmem
    · cases heq
      obtain ⟨hok', -, heffect⟩ := step_effect (ok_of_history h₀ hist).1 hs
      cases heffect with
      | invited hauth _ habout hendpoints hsessions =>
        unfold Authorized at hauth
        rw [← hendpoints, ← hsessions] at hauth
        refine ⟨_, ?_, fun delivery hd => congrArg _ (event_of_mem_deliverToMembers hd)⟩
        rw [deliver_to_sender hok'.consistent.sessions hauth]
        rfl
    · exact ih hmem

/-- The hub over all its runs: it stays consistent within the limits it was made with, each
answered invitation issues a room id of its own, a call that fails has changed nothing, and
under consistently fed stamps a released key is forgotten. -/
theorem hub_lifecycle {limits : MessengerHubLimits} (hnew : MessengerHub.new limits = .ok hub₀) :
    (∀ tr hub, (hub₀.machine u).History tr hub →
      hub.Consistent ∧ hub.limits = limits ∧ (issued tr).Nodup ∧
      ∀ session active target claim deliveries,
        (HubCall.invite session active target claim, HubResponse.delivered deliveries) ∈ tr →
        ∃ id, issuedBy (.invite session active target claim, .delivered deliveries) = some id ∧
          ∀ delivery ∈ deliveries, delivery.event.room = id) ∧
    (∀ hub call error hub', (hub₀.machine u).Reachable hub →
      (hub₀.machine u).step hub call = some (.failed error, hub') → hub' = hub) ∧
    (∀ current tr hub identity visit response hub', Fed u hub₀ current tr hub →
      current identity.key = some identity.stamp →
      (hub₀.machine u).step hub (.releaseIdentity identity visit) = some (response, hub') →
      Forgotten hub' identity.key) := by
  obtain ⟨h₀, hlimits⟩ := new_ok hnew
  refine ⟨fun tr hub h => ?_, fun hub call error hub' hreach hs => ?_, ?_⟩
  · obtain ⟨hok, hlimits'⟩ := ok_of_history h₀ h
    exact ⟨hok.consistent, hlimits'.trans hlimits, (issued_of_history h₀ h).1,
      fun _ _ _ _ _ hmem => invite_issues h₀ h hmem⟩
  · obtain ⟨tr, h⟩ := hreach
    cases (step_effect (ok_of_history h₀ h).1 hs).2.2
    rfl
  · intro current tr hub identity visit response hub' hfed hcurrent hs
    exact hfed.forgotten h₀ (onCurrent_new hnew) hcurrent hs

/-! ## A run -/

section Run

/-- A nickname is its own key. -/
def verbatim : Unicode := ⟨id, id⟩

def sampleLimits : MessengerHubLimits := .default

def sampleHub : MessengerHub where
  limits := sampleLimits
  endpointsBySession := ∅
  sessionByIdentity := ∅
  rooms := ∅
  roomsByIdentity := ∅
  nextRoomId := MessengerRoomId.new 1

theorem sampleHub_new : MessengerHub.new sampleLimits = .ok sampleHub := rfl

theorem first_pos : 0 < 1 := Nat.one_pos

theorem second_pos : 0 < 2 := Nat.two_pos

theorem first_le : 1 ≤ u32Max := by decide

theorem second_le : 2 ≤ u32Max := by decide

theorem first_le_u64 : 1 ≤ u64Max := by decide

theorem second_le_u64 : 2 ≤ u64Max := by decide

def firstSession : MessengerSessionId := ⟨1, first_pos, first_le_u64⟩

def secondSession : MessengerSessionId := ⟨2, second_pos, second_le_u64⟩

def inviter : MessengerIdentity :=
  ⟨⟨1, first_pos, first_le⟩, ['a'], ⟨1, first_pos, first_le_u64⟩, .v4 5, ['a']⟩

def invitee : MessengerIdentity :=
  ⟨⟨2, second_pos, second_le⟩, ['b'], ⟨1, first_pos, first_le_u64⟩, .v4 6, ['b']⟩

/-- Two users enter, and one invites the other. -/
def inviteCalls : List HubCall :=
  [.enter firstSession (.v4 5) inviter ⟨1, 2, ['a']⟩,
    .enter secondSession (.v4 6) invitee ⟨2, 2, ['b']⟩,
    .invite firstSession inviter invitee ⟨1, 2, ['a'], ['b']⟩]

theorem inviteCalls_run :
    ((sampleHub.machine verbatim).exec sampleHub [] inviteCalls).isSome = true := by
  decide +kernel

/-- The run of `inviteCalls`. -/
def inviteRun : List (HubCall × HubResponse) × MessengerHub :=
  ((sampleHub.machine verbatim).exec sampleHub [] inviteCalls).get inviteCalls_run

theorem inviteRun_issued : issued inviteRun.1 = [⟨1, first_pos, first_le⟩] := by
  decide +kernel

/-- Both users are logged in. -/
def bothCurrent : Current :=
  Function.update (Function.update (fun _ => none) ['a'] (some inviter.stamp)) ['b']
    (some invitee.stamp)

theorem Fed.of_exec (calls : List HubCall) {current : Current}
    (hsteady : ∀ call ∈ calls, current.Presents call ∧ ∀ r, current.after call r = current)
    {tr tr' : List (HubCall × HubResponse)} {hub hub' : MessengerHub} :
    Fed u hub₀ current tr hub → (hub₀.machine u).exec hub tr calls = some (tr', hub') →
    Fed u hub₀ current tr' hub' := by
  induction calls generalizing tr hub with
  | nil =>
    intro h he
    cases he
    exact h
  | cons call calls ih =>
    intro h he
    unfold Machine.exec at he
    split at he
    next => exact absurd he (by simp)
    next r hub₁ hs =>
      obtain ⟨hpresents, hafter⟩ := hsteady call List.mem_cons_self
      have hstep := h.step hpresents hs
      rw [hafter] at hstep
      exact ih (fun call hcall => hsteady call (List.mem_cons_of_mem _ hcall)) hstep he

theorem inviteRun_fed : Fed verbatim sampleHub bothCurrent inviteRun.1 inviteRun.2 := by
  have hlogin : Fed verbatim sampleHub bothCurrent [] sampleHub :=
    (Fed.init.login inviter.stamp rfl).login invitee.stamp (by decide)
  refine Fed.of_exec inviteCalls ?_ hlogin (Option.some_get inviteCalls_run).symm
  intro call hcall
  have hinviter : bothCurrent inviter.key = some inviter.stamp := by decide
  have hinvitee : bothCurrent invitee.key = some invitee.stamp := by decide
  simp only [inviteCalls, List.mem_cons, List.not_mem_nil, or_false] at hcall
  rcases hcall with rfl | rfl | rfl
  · exact ⟨hinviter, fun _ => rfl⟩
  · exact ⟨hinvitee, fun _ => rfl⟩
  · exact ⟨⟨hinviter, hinvitee⟩, fun _ => rfl⟩

/-- The run has issued one id; once the inviter is released, nothing mentions them. -/
theorem hub_lifecycle_invite :
    inviteRun.2.Consistent ∧ (issued inviteRun.1).Nodup ∧ (issued inviteRun.1).length = 1 ∧
      ∃ visit response hub', (sampleHub.machine verbatim).step inviteRun.2
        (.releaseIdentity inviter visit) = some (response, hub') ∧ Forgotten hub' ['a'] := by
  obtain ⟨hruns, -, hforgotten⟩ := hub_lifecycle (u := verbatim) sampleHub_new
  obtain ⟨hconsistent, -, hnodup, -⟩ := hruns _ _ inviteRun_fed.history
  obtain ⟨visit, hvisit⟩ := inviteRun.2.exists_walks inviter.key
  refine ⟨hconsistent, hnodup, by rw [inviteRun_issued]; rfl, visit, _, _, if_pos hvisit, ?_⟩
  exact hforgotten bothCurrent _ _ inviter visit _ _ inviteRun_fed (by decide) (if_pos hvisit)

end Run

end P4475.Messenger
