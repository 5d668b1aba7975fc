import P4475.Identity.Runs
import P4475.World.Consistency
import P4475.World.RoomIds

/-!
# Paths of edits

How edits compose: `Within` is a path that leaves the identities alone, `WorldEdits` one
that may move them. The lemmas here are what the simulation of each command uses: quiet
steps, a room edited in place, a registry call, a walk over the rooms.
-/

namespace P4475

open Lib

/-- Any number of table edits, none of which issues an attempt. -/
abbrev TableEdits (active : UserNo → Option IdentityBinding) :=
  Relation.ReflTransGen (TableEdit active none)

/-! ## Identities -/

/-- A response that neither releases an identity nor completes a migration. -/
def IdentityResponse.quiet : IdentityResponse → Bool
  | .completion _ => false
  | .released identities => identities.isEmpty
  | .disconnected (.released _) => false
  | _ => true

/-- The registry and its callers take some quiet steps, none of which leaves a commit guard
behind. -/
def Idles (unicode : Unicode) (instantMax : Instant) (s s' : IdentitySystem) : Prop :=
  s.guard = none → s'.guard = none ∧
    Relation.ReflTransGen (fun s s' => ∃ action response,
      s.step unicode instantMax action = some (response, s') ∧ response.quiet = true) s s'

section Identities

variable {unicode : Unicode} {instantMax : Instant} {s s' s'' : IdentitySystem}

theorem Evolves.refl (s : IdentitySystem) : Evolves unicode instantMax s s := fun h => ⟨h, .refl⟩

/-- One step that leaves no guard. -/
theorem Evolves.step {action : IdentityAction} {response : IdentityResponse}
    (h : s.guard = none → s.step unicode instantMax action = some (response, s'))
    (hg : s.guard = none → s'.guard = none) : Evolves unicode instantMax s s' := fun hn =>
  ⟨hg hn, .single ⟨action, response, h hn⟩⟩

theorem Idles.evolves (h : Idles unicode instantMax s s') : Evolves unicode instantMax s s' := by
  intro hn
  obtain ⟨hg, hpath⟩ := h hn
  refine ⟨hg, ?_⟩
  clear hg h
  induction hpath with
  | refl => exact .refl
  | tail _ hs ih =>
    obtain ⟨action, response, hs, _⟩ := hs
    exact .tail ih ⟨action, response, hs⟩

theorem Idles.refl (s : IdentitySystem) : Idles unicode instantMax s s := fun h => ⟨h, .refl⟩

theorem Idles.trans (h : Idles unicode instantMax s s') (h' : Idles unicode instantMax s' s'') :
    Idles unicode instantMax s s'' := fun hg =>
  have ⟨hg', hpath⟩ := h hg
  have ⟨hg'', hpath'⟩ := h' hg'
  ⟨hg'', hpath.trans hpath'⟩

/-- One quiet step that leaves no guard. -/
theorem Idles.step (action : IdentityAction) (response : IdentityResponse)
    (h : s.guard = none → s.step unicode instantMax action = some (response, s'))
    (hg : s.guard = none → s'.guard = none) (hq : response.quiet = true) :
    Idles unicode instantMax s s' := fun hn =>
  ⟨hg hn, .single ⟨action, response, h hn, hq⟩⟩

/-- The actor takes a step while nobody holds a guard. -/
theorem actor_step {action : IdentityAction} {response : IdentityResponse}
    (hl : s.leaseStep action = none)
    (h : s.actorStep unicode instantMax action = some (response, s')) (hn : s.guard = none) :
    s.step unicode instantMax action = some (response, s') := by
  unfold IdentitySystem.step
  rw [hl, hn]
  exact h

/-- A quiet step of the actor that keeps the guard. -/
theorem Idles.actor (action : IdentityAction) (response : IdentityResponse)
    (hl : s.leaseStep action = none)
    (h : s.actorStep unicode instantMax action = some (response, s'))
    (hg : s'.guard = s.guard) (hq : response.quiet = true) :
    Idles unicode instantMax s s' :=
  .step action response (actor_step hl h) (fun hn => hg.trans hn) hq

/-- A preflight is aborted and its ticket dropped. -/
theorem Idles.abandon {i : Nat} {preflight : MigrationPreflight}
    (hp : s.preflights[i]? = some preflight) : Idles unicode instantMax s { s with
      registry := (s.registry.abortPreflightedMigration preflight).2
      preflights := s.preflights.eraseIdx i } := by
  have habort : Idles unicode instantMax s { s with
      registry := (s.registry.abortPreflightedMigration preflight).2 } := by
    refine .actor (.abort i) (.aborted (s.registry.abortPreflightedMigration preflight).1) rfl
      ?_ rfl rfl
    unfold IdentitySystem.actorStep
    dsimp only
    rw [hp]
    rfl
  refine habort.trans (.actor (.dropPreflight i) .dropped rfl ?_ rfl rfl)
  unfold IdentitySystem.actorStep
  dsimp only
  rw [hp]
  rfl

/-- A preflight becomes a candidate, or fails and is dropped by its caller. -/
theorem Idles.prepare {i : Nat} {preflight : MigrationPreflight} {now : Instant}
    {reserve : Bool} {result : Except IdentityError MigrationCandidate} {r : IdentityRegistry}
    (hp : s.preflights[i]? = some preflight)
    (hr : s.registry.preparePreflightedMigration preflight now reserve = (result, r)) :
    Idles unicode instantMax s { s with
      registry := r, candidates := IdentitySystem.keep s.candidates result } := by
  refine .actor (.prepare i now reserve) (.candidate result) rfl ?_ rfl rfl
  unfold IdentitySystem.actorStep
  dsimp only
  rw [hp, Option.map_some, hr]

theorem Idles.dropPreflight {i : Nat} {preflight : MigrationPreflight}
    (hp : s.preflights[i]? = some preflight) :
    Idles unicode instantMax s { s with preflights := s.preflights.eraseIdx i } := by
  refine .actor (.dropPreflight i) .dropped rfl ?_ rfl rfl
  unfold IdentitySystem.actorStep
  dsimp only
  rw [hp]
  rfl

theorem eraseIdx_concat {α : Type} (l : List α) (a : α) : (l ++ [a]).eraseIdx l.length = l := by
  rw [List.eraseIdx_append_of_length_le (Nat.le_refl _), Nat.sub_self]
  exact List.append_nil l

/-- The candidate that was prepared last is dropped. -/
theorem Idles.dropCandidate (s : IdentitySystem) (candidate : MigrationCandidate) :
    Idles unicode instantMax { s with candidates := s.candidates ++ [candidate] } s := by
  refine .actor (.dropCandidate s.candidates.length) .dropped rfl ?_ rfl rfl
  unfold IdentitySystem.actorStep
  dsimp only
  rw [List.getElem?_concat_length, Option.map_some, eraseIdx_concat]

/-- The candidate that was prepared last is locked: refused, or committed under the
guard that this takes. -/
theorem Idles.lock {i : Nat} {preflight : MigrationPreflight} {candidate : MigrationCandidate}
    {now : Instant} {e : IdentityError} {r : IdentityRegistry}
    (hp : s.preflights[i]? = some preflight)
    (hr : s.registry.lockPreparedMigration preflight candidate now = (.error e, r)) :
    Idles unicode instantMax { s with candidates := s.candidates ++ [candidate] }
      { s with registry := r, preflights := s.preflights.eraseIdx i } := by
  refine .step (.lock i s.candidates.length now) (.locked (.error e))
    (fun hn => ?_) (fun hn => hn) rfl
  have hg : s.guard = none := hn
  unfold IdentitySystem.step IdentitySystem.leaseStep
  dsimp only
  rw [hg]
  unfold IdentitySystem.actorStep
  dsimp only
  rw [hp, List.getElem?_concat_length, Option.bind_some, Option.map_some, hr, eraseIdx_concat]
  simp [Except.toOption, Except.map]

/-- The end of a migration: its candidate is locked, and committed under the guard that this
takes. -/
structure Completes (unicode : Unicode) (instantMax : Instant) (s s' : IdentitySystem)
    (result : Except IdentityError MigrationCompletion) : Prop where
  idle : s'.guard = none
  steps : ∃ i j now udpEpoch s₁,
    s.step unicode instantMax (.lock i j now) = some (.locked (.ok ()), s₁) ∧
    s₁.step unicode instantMax (.commit udpEpoch) = some (.completion result, s')

theorem Completes.evolves {result : Except IdentityError MigrationCompletion}
    (h : s.guard = none → Completes unicode instantMax s s' result) :
    Evolves unicode instantMax s s' := fun hn => by
  obtain ⟨hidle, i, j, now, udpEpoch, s₁, hlock, hcommit⟩ := h hn
  exact ⟨hidle, .tail (.single ⟨_, _, hlock⟩) ⟨_, _, hcommit⟩⟩

theorem Completes.of_lock {i : Nat} {preflight : MigrationPreflight}
    {candidate : MigrationCandidate} {now : Instant} {r r' : IdentityRegistry}
    {commit : IdentityRegistry.IdentityMigrationCommit} {udpEpoch : Nat}
    {result : Except IdentityError MigrationCompletion}
    (hp : s.preflights[i]? = some preflight)
    (hr : s.registry.lockPreparedMigration preflight candidate now = (.ok commit, r))
    (hc : r.commitMigration commit udpEpoch = (result, r')) (hg : s.guard = none) :
    Completes unicode instantMax { s with candidates := s.candidates ++ [candidate] }
      { s with registry := r', preflights := s.preflights.eraseIdx i } result := by
  refine ⟨hg, i, s.candidates.length, now, udpEpoch, { s with
    registry := r, preflights := s.preflights.eraseIdx i, guard := some commit }, ?_, ?_⟩
  · unfold IdentitySystem.step IdentitySystem.leaseStep
    dsimp only
    rw [hg]
    unfold IdentitySystem.actorStep
    dsimp only
    rw [hp, List.getElem?_concat_length, Option.bind_some, Option.map_some, hr, eraseIdx_concat]
    rfl
  · unfold IdentitySystem.step IdentitySystem.leaseStep
    dsimp only
    unfold IdentitySystem.guardStep
    dsimp only
    rw [hc, ← hg]

end Identities

namespace World

variable {H Q P : Type} {env : WorldEnv H Q P} {w w' w'' : World H} {id : RoomId}
  {room room' : ProtocolRoomState}

/-! ## Memberships -/

/-- Nobody is in a room who was not there before. -/
def Shrinks (t t' : ProtocolTables) : Prop :=
  ∀ userNo id, t'.protocolRoomByUser.lookup userNo = some id →
    t.protocolRoomByUser.lookup userNo = some id

section Memberships

variable {t t' t'' : ProtocolTables}

theorem Shrinks.of_eq (h : t'.protocolRoomByUser = t.protocolRoomByUser) : Shrinks t t' := by
  intro userNo id hi
  rw [← h]
  exact hi

theorem Shrinks.trans (h : Shrinks t t') (h' : Shrinks t' t'') : Shrinks t t'' :=
  fun userNo id hi => h userNo id (h' userNo id hi)

theorem dropMembership_shrinks (t : ProtocolTables) (userNo : UserNo) :
    Shrinks t (t.dropMembership userNo) := by
  intro k id hi
  have hi' : (t.protocolRoomByUser.erase userNo).lookup k = some id := hi
  by_cases hk : k = userNo
  · rw [hk, Finmap.lookup_erase] at hi'
    exact absurd hi' (by simp)
  · rwa [Finmap.lookup_erase_ne hk] at hi'

theorem releaseFence_shrinks (t : ProtocolTables) (fence : Option RaceFence) :
    Shrinks t (t.releaseFence fence) := by
  cases fence with
  | none => exact .of_eq rfl
  | some fence => exact .of_eq rfl

theorem removeUser_shrinks (t : ProtocolTables) (userNo : UserNo) :
    Shrinks t (t.removeUser userNo).1 := by
  have hdrop := dropMembership_shrinks t userNo
  unfold ProtocolTables.removeUser
  split
  next => exact .of_eq rfl
  next =>
    dsimp only
    split
    next => exact hdrop
    next =>
      split
      next => exact hdrop.trans ((releaseFence_shrinks _ _).trans (.of_eq rfl))
      next => exact hdrop.trans (.of_eq rfl)

theorem kickTables_shrinks (t : ProtocolTables) (id : RoomId) (userNo : UserNo)
    (next : ProtocolRoomState) : Shrinks t (kickTables t id userNo next) := by
  unfold kickTables
  dsimp only
  split
  next => exact (dropMembership_shrinks t userNo).trans (.of_eq rfl)
  next => exact (dropMembership_shrinks t userNo).trans (.of_eq rfl)

theorem finalizeTables_shrinks (t : ProtocolTables) (id : RoomId) (room : ProtocolRoomState)
    (ranking : SettlementRanking) : Shrinks t (finalizeTables t id room ranking) := by
  unfold finalizeTables
  dsimp only
  split
  next => exact (releaseFence_shrinks t _).trans (.of_eq rfl)
  next => exact (releaseFence_shrinks t _).trans (.of_eq rfl)

theorem commitMigration_shrinks (t : ProtocolTables) (delta : ProtocolMigrationDelta) :
    Shrinks t (t.commitMigration delta) := by
  have hdrop : Shrinks t (if delta.removeMembership then t.dropMembership delta.userNo else t) := by
    split
    next => exact dropMembership_shrinks t _
    next => exact .of_eq rfl
  unfold ProtocolTables.commitMigration
  dsimp only
  refine hdrop.trans ((Shrinks.of_eq ?_).trans (releaseFence_shrinks _ _))
  split
  next => rfl
  next =>
    split
    next => rfl
    next => rfl

theorem commitDelta_shrinks (t : ProtocolTables) (delta : Option ProtocolMigrationDelta) :
    Shrinks t (t.commitDelta delta) := by
  cases delta with
  | none => exact .of_eq rfl
  | some delta => exact commitMigration_shrinks t delta

end Memberships

/-! ## Paths that leave the identities alone -/

/-- The identities that the pending equipment writes wait for. -/
def awaited (w : World H) : List IdentityBinding :=
  w.pendingRiderEquipmentWrites.map (·.expected)

/-- A path of table edits by which nobody enters a room; the hub stays as it is, and so do
the pending writes, up to which of their sessions want to close. -/
structure Within (w w' : World H) : Prop where
  identities : w'.identities = w.identities
  attempts : w'.nextRewardAttemptId = w.nextRewardAttemptId
  tables : TableEdits w.activeIdentity w.protocol w'.protocol
  members : Shrinks w.protocol w'.protocol
  myroom : w'.myroom = w.myroom
  awaited : w'.awaited = w.awaited
  admitted : w'.admittedIdentity = w.admittedIdentity
  roomIds : w.RoomIdsOk → w'.RoomIdsOk

theorem activeIdentity_congr (h : w'.identities = w.identities) :
    w'.activeIdentity = w.activeIdentity := by
  funext userNo
  unfold activeIdentity
  rw [h]

/-- What such a path leaves alone besides the identities. -/
def beside (w : World H) : H × List IdentityBinding × Option IdentityBinding :=
  (w.myroom, w.awaited, w.admittedIdentity)

theorem Within.quiet (hi : w'.identities = w.identities)
    (ha : w'.nextRewardAttemptId = w.nextRewardAttemptId) (hp : w'.protocol = w.protocol)
    (hb : w'.beside = w.beside) (hk : w'.plainIds = w.plainIds) : Within w w' :=
  ⟨hi, ha, hp ▸ .refl, .of_eq (by rw [hp]), congrArg (·.1) hb, congrArg (·.2.1) hb,
    congrArg (·.2.2) hb, fun h => h.move (hp ▸ .refl _) hk⟩

theorem Within.refl (w : World H) : Within w w := .quiet rfl rfl rfl rfl rfl

/-- An event is queued. -/
theorem Within.event (w : World H) (event : IdentityLifecycleEvent) :
    Within w { w with identityLifecycle := w.identityLifecycle ++ [event] } := .quiet rfl rfl rfl rfl rfl

theorem Within.trans (h : Within w w') (h' : Within w' w'') : Within w w'' where
  identities := h'.identities.trans h.identities
  attempts := h'.attempts.trans h.attempts
  tables := h.tables.trans (activeIdentity_congr h.identities ▸ h'.tables)
  members := h.members.trans h'.members
  myroom := h'.myroom.trans h.myroom
  awaited := h'.awaited.trans h.awaited
  admitted := h'.admitted.trans h.admitted
  roomIds := fun hok => h'.roomIds (h.roomIds hok)

theorem Within.edit (hi : w'.identities = w.identities)
    (ha : w'.nextRewardAttemptId = w.nextRewardAttemptId)
    (he : TableEdit w.activeIdentity none w.protocol w'.protocol)
    (hs : Shrinks w.protocol w'.protocol) (hb : w'.beside = w.beside)
    (hids : w.RoomIdsOk → w'.RoomIdsOk) : Within w w' :=
  ⟨hi, ha, .single he, hs, congrArg (·.1) hb, congrArg (·.2.1) hb, congrArg (·.2.2) hb, hids⟩

/-- A room edited in place. -/
theorem Within.put (hp : w.room? id = some room) (he : room.RoomEdit none room') :
    Within w (w.putRoom id room') := .edit rfl rfl (.room hp he) (.of_eq rfl) rfl
    fun h => h.move (.put w.protocol room' hp rfl rfl) rfl

/-- A room edited in place, in several steps. -/
theorem Within.puts (hp : w.room? id = some room) (he : room.RoomEdits room') :
    Within w (w.putRoom id room') := by
  induction he with
  | refl =>
    refine .quiet rfl rfl ?_ rfl rfl
    show { w.protocol with protocolRooms := w.protocol.protocolRooms.insert id room } = w.protocol
    rw [Map.insert_self hp]
  | @tail next last _ he ih =>
    have hlast : Within (w.putRoom id next) ((w.putRoom id next).putRoom id last) :=
      .put (by unfold World.putRoom World.withRooms World.room?; simp) he
    refine (ih.trans hlast).trans (.quiet rfl rfl ?_ rfl rfl)
    show { w.protocol with protocolRooms := w.protocol.protocolRooms.insert id last } =
      { w.protocol with
        protocolRooms := (w.protocol.protocolRooms.insert id next).insert id last }
    rw [Finmap.insert_insert]

/-- A path of table edits is a path of world edits. -/
theorem Within.edits (h : Within w w') : WorldEdits env w w' := by
  have key : ∀ {t}, TableEdits w.activeIdentity w.protocol t →
      WorldEdits env w { w with protocol := t } := by
    intro t ht
    induction ht with
    | refl => exact .refl
    | tail _ he ih => exact .tail ih (.tables rfl (Consumes.keep _) he)
  exact .tail (key h.tables) (.identities rfl h.attempts (by
    rw [h.identities]
    exact .refl _))

/-- A step that touches neither the identities nor the tables. -/
theorem edits_of_same (hi : w'.identities = w.identities)
    (ha : w'.nextRewardAttemptId = w.nextRewardAttemptId) (hp : w'.protocol = w.protocol) :
    WorldEdits env w w' :=
  .single (.identities hp ha (by rw [hi]; exact .refl _))

theorem edits_of_registry (hp : w'.protocol = w.protocol)
    (ha : w'.nextRewardAttemptId = w.nextRewardAttemptId)
    (he : Evolves env.unicode env.instantMax w.identities w'.identities) : WorldEdits env w w' :=
  .single (.identities hp ha he)

/-! ## Frames -/

@[simp] theorem send_protocol (w : World H) (d : OutboundDelivery) :
    (w.send d).protocol = w.protocol := by
  unfold send
  split <;> rfl

@[simp] theorem send_identities (w : World H) (d : OutboundDelivery) :
    (w.send d).identities = w.identities := by
  unfold send
  split <;> rfl

@[simp] theorem send_attempts (w : World H) (d : OutboundDelivery) :
    (w.send d).nextRewardAttemptId = w.nextRewardAttemptId := by
  unfold send
  split <;> rfl

theorem Within.send (w : World H) (d : OutboundDelivery) : Within w (w.send d) := by
  unfold World.send
  split
  next => exact .quiet rfl rfl rfl rfl rfl
  next => exact .refl w

theorem Within.publishReserved (w : World H) (reserved : List OutboundDelivery) :
    Within w (w.publishReserved reserved) := by
  unfold World.publishReserved
  induction reserved generalizing w with
  | nil => exact .refl w
  | cons d rest ih => exact (Within.send w d).trans (ih (w.send d))

@[simp] theorem publishReserved_protocol (w : World H) (reserved : List OutboundDelivery) :
    (w.publishReserved reserved).protocol = w.protocol := by
  unfold World.publishReserved
  induction reserved generalizing w with
  | nil => rfl
  | cons d rest ih => rw [List.foldl_cons, ih, send_protocol]

@[simp] theorem publishReserved_room? (w : World H) (reserved : List OutboundDelivery)
    (id : RoomId) : (w.publishReserved reserved).room? id = w.room? id := by
  unfold room?
  rw [publishReserved_protocol]

@[simp] theorem putRoom_room? (w : World H) (id k : RoomId) (room : ProtocolRoomState) :
    (w.putRoom id room).room? k = if k = id then some room else w.room? k :=
  Map.lookup_insert_ite _ _ _ _

/-- Publishing after something else. -/
theorem Within.published (h : Within w w') (reserved : List OutboundDelivery) :
    Within w (w'.publishReserved reserved) := h.trans (.publishReserved w' reserved)

/-! ## Rooms -/

theorem Within.updateRoom {f : ProtocolRoomState → ProtocolRoomState}
    (h : ∀ room, w.room? id = some room → room.RoomEdit none (f room)) :
    Within w (w.updateRoom id f) := by
  unfold World.updateRoom
  split
  next room hr => exact .put hr (h room hr)
  next => exact .refl w

theorem updateRoom_room? (w : World H) (id k : RoomId)
    (f : ProtocolRoomState → ProtocolRoomState) :
    (w.updateRoom id f).room? k = if k = id then (w.room? id).map f else w.room? k := by
  unfold World.updateRoom
  split
  next room hr => rw [putRoom_room?, hr, Option.map_some]
  next hr =>
    split
    next hk => rw [hk, hr, Option.map_none]
    next => rfl

/-- A walk over distinct rooms, each of which a step edits alone. -/
theorem Within.foldl {C : ProtocolRoomState → Prop} {f : World H → RoomId → World H}
    (hstep : ∀ w id, (∀ room, w.room? id = some room → C room) → Within w (f w id))
    (hframe : ∀ w id k, k ≠ id → (f w id).room? k = w.room? k) (ids : List RoomId) (w : World H)
    (hn : ids.Nodup) (hc : ∀ id ∈ ids, ∀ room, w.room? id = some room → C room) :
    Within w (ids.foldl f w) := by
  induction ids generalizing w with
  | nil => exact .refl w
  | cons id rest ih =>
    obtain ⟨hid, hrest⟩ := List.nodup_cons.mp hn
    refine (hstep w id (hc id List.mem_cons_self)).trans (ih (f w id) hrest fun k hk room hr => ?_)
    have hne : k ≠ id := fun he => hid (he ▸ hk)
    rw [hframe w id k hne] at hr
    exact hc k (List.mem_cons_of_mem _ hk) room hr

/-- A walk whose steps need no condition. -/
theorem Within.foldl' {f : World H → RoomId → World H} (hstep : ∀ w id, Within w (f w id))
    (ids : List RoomId) (w : World H) : Within w (ids.foldl f w) := by
  induction ids generalizing w with
  | nil => exact .refl w
  | cons id rest ih => exact (hstep w id).trans (ih (f w id))

/-! ## Planned exits -/

/-- Releasing a fence and deleting a room commute. -/
theorem releaseFence_removeRoom (t : ProtocolTables) (fence : Option RaceFence) (id : RoomId) :
    (t.removeRoom id).releaseFence fence = (t.releaseFence fence).removeRoom id := by
  cases fence <;> rfl

/-- An exit commits exactly what removing the user does. -/
theorem commitMigration_exit {userNo : UserNo} {delta : ProtocolMigrationDelta}
    {deliveries : List OutboundDelivery} (hi : w.roomOf? userNo = some id)
    (hp : w.room? id = some room)
    (h : w.planProtocolRoomExitFromSnapshot env userNo id room = .ok (delta, deliveries)) :
    w.protocol.commitMigration delta = (w.protocol.removeUser userNo).1 := by
  unfold planProtocolRoomExitFromSnapshot at h
  split at h
  next => exact absurd h (by simp)
  next next hr =>
    have hdelta : delta = {
        userNo := userNo
        roomId := id
        expectedRoom := room
        nextRoom := if next.removable then none else some next
        removeMembership := true
        removeRoom := next.removable
        abortedLoadingFence := if next.removable then next.abortedLoadingFence else none } := by
      dsimp only at h
      split at h
      next =>
        cases h
        rfl
      next =>
        split at h
        next => exact absurd h (by simp)
        next =>
          cases h
          rfl
    have hi' : w.protocol.protocolRoomByUser.lookup userNo = some id := hi
    have hp' : (w.protocol.dropMembership userNo).protocolRooms.lookup id = some room := hp
    unfold ProtocolTables.removeUser
    simp only [hi', hp', hr, Option.getD_some]
    rw [hdelta]
    unfold ProtocolTables.commitMigration
    dsimp only
    cases hrem : next.removable with
    | true => exact releaseFence_removeRoom _ _ _
    | false => rfl

/-- A planned exit is the removal of its user, or nothing. -/
theorem planProtocolRoomExit_edits (active : UserNo → Option IdentityBinding) {userNo : UserNo}
    {delta : Option ProtocolMigrationDelta} {deliveries : List OutboundDelivery}
    (h : w.planProtocolRoomExit env userNo = .ok (delta, deliveries)) :
    TableEdits active w.protocol (w.protocol.commitDelta delta) := by
  unfold planProtocolRoomExit at h
  split at h
  next =>
    cases h
    exact .refl
  next id hid =>
    split at h
    next => exact absurd h (by simp)
    next room hr =>
      cases he : w.planProtocolRoomExitFromSnapshot env userNo id room with
      | error e => rw [he] at h; exact absurd h (by simp [Except.map])
      | ok planned =>
        rw [he] at h
        cases h
        show TableEdits _ _ (w.protocol.commitMigration planned.1)
        rw [commitMigration_exit hid hr he]
        exact .single (.unseat userNo)

/-- A planned migration leaves the room, or shows a new endpoint in it. -/
theorem planProtocolMigration_edits (active : UserNo → Option IdentityBinding)
    {replacement : IdentityBinding} {delta : Option ProtocolMigrationDelta}
    {deliveries : List OutboundDelivery}
    (h : w.planProtocolMigration env replacement = .ok (delta, deliveries)) :
    TableEdits active w.protocol (w.protocol.commitDelta delta) := by
  unfold planProtocolMigration at h
  split at h
  next =>
    cases h
    exact .refl
  next id hid =>
    split at h
    next => exact absurd h (by simp)
    next room hr =>
      split at h
      next =>
        dsimp only at h
        split at h
        next => exact absurd h (by simp)
        next next hp =>
          split at h
          next =>
            cases h
            exact .refl
          next =>
            cases h
            exact .single (.room hr (ProtocolRoomState.setP2pEndpoint_edit hp))
      next =>
        cases he : w.planProtocolRoomExitFromSnapshot env replacement.userNo id room with
        | error e => rw [he] at h; exact absurd h (by simp [Except.map])
        | ok planned =>
          rw [he] at h
          cases h
          show TableEdits _ _ (w.protocol.commitMigration planned.1)
          rw [commitMigration_exit hid hr he]
          exact .single (.unseat replacement.userNo)

/-! ## Turns -/

variable {opener : Option RoomParticipant}

theorem TurnEdits.trans (h : TurnEdits env opener w w') (h' : WorldEdits env w' w'') :
    TurnEdits env opener w w'' := by
  cases h with
  | edits h => exact .edits (h.trans h')
  | opens opener_ identities attempts open_ h =>
    exact .opens opener_ identities attempts open_ (h.trans h')

/-- Only identities, tables and attempt ids matter. -/
theorem TurnEdits.congr (hi : w'.identities = w.identities)
    (ha : w'.nextRewardAttemptId = w.nextRewardAttemptId) (hp : w'.protocol = w.protocol)
    (h : TurnEdits env opener w' w'') : TurnEdits env opener w w'' := by
  cases h with
  | edits h => exact .edits ((edits_of_same hi ha hp).trans h)
  | opens opener_ identities attempts open_ h =>
    exact .opens opener_ (identities.trans hi) (attempts.trans ha) (hp ▸ open_) h

end World

end P4475
