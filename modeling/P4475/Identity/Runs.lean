import P4475.Identity.Ledger

/-!
# One step of a run

The invariant of the registry with its callers (`Good`), and what any one step
owes (`StepSpec`): actor steps, guard steps and lease steps get one lemma each.
-/

namespace P4475

open Lib IdentityRegistry

namespace IdentitySystem

/-! ## Reading a transcript -/

/-- The binding a step installs. -/
def installsOf : IdentityAction → IdentityResponse → List IdentityBinding
  | .claim .., .binding (.ok b) => [b]
  | _, .completion (.ok m) => [m.binding]
  | _, _ => []

/-- The generation a step mints. -/
def mintedOf : IdentityAction → IdentityResponse → List IdentityGeneration
  | .claim .., .binding (.ok b) => [b.generation]
  | .prepare .., .candidate (.ok c) => [c.completion.binding.generation]
  | .completePreflighted .., .completion (.ok m) => [m.binding.generation]
  | .complete .., .completion (.ok m) => [m.binding.generation]
  | _, _ => []

/-- The generation a step supersedes. -/
def supersededOf : IdentityResponse → List IdentityGeneration
  | .completion (.ok m) => [m.previousIdentity.generation]
  | _ => []

/-- The identities a step hands out for cleanup. -/
def stampsOf : IdentityResponse → List ReleasedIdentity
  | .disconnected outcome => ended outcome
  | .released identities => identities
  | _ => []

/-- Their generations. -/
def releasedOf (response : IdentityResponse) : List IdentityGeneration :=
  (stampsOf response).map (·.generation)

/-- The generations a step ends, one way or the other. -/
def endsOf (response : IdentityResponse) : List IdentityGeneration :=
  supersededOf response ++ releasedOf response

abbrev Transcript := List (IdentityAction × IdentityResponse)

def installs (tr : Transcript) : List IdentityBinding := tr.flatMap fun e => installsOf e.1 e.2
def minted (tr : Transcript) : List IdentityGeneration := tr.flatMap fun e => mintedOf e.1 e.2
def superseded (tr : Transcript) : List IdentityGeneration := tr.flatMap fun e => supersededOf e.2
def released (tr : Transcript) : List IdentityGeneration := tr.flatMap fun e => releasedOf e.2
def stamps (tr : Transcript) : List ReleasedIdentity := tr.flatMap fun e => stampsOf e.2

/-! ## One step -/

/-- The candidates that can still be published. -/
def fresh (s : IdentitySystem) : List MigrationCandidate :=
  (s.guard.map IdentityMigrationCommit.candidate).toList ++ s.candidates

/-- The invariant of a system. -/
structure Good (u : Unicode) (s : IdentitySystem) : Prop where
  inv : s.registry.Inv u [] s.leases s.fresh
  guard : ∀ commit, s.guard = some commit → ∃ a, s.registry.GuardOk commit a

/-- What a step does to the records: it settles what it ends, or installs what
its response says. -/
inductive Effect (u : Unicode) (s : IdentitySystem) (action : IdentityAction)
    (response : IdentityResponse) (s' : IdentitySystem) : Prop
  | settles (installs : installsOf action response = [])
      (holdings : s'.registry.holdings + (endsOf response : Multiset IdentityGeneration) =
        s.registry.holdings)
      (live : ∀ {k g γ}, s'.registry.Live k g γ → s.registry.Live k g γ)
      (drained : ∀ g ∈ endsOf response, ∃ k γ, s.registry.Live k g γ ∧
        (s.registry.gates γ).activeOperations = 0)
      (knows : Knows s.registry s'.registry)
      (next : s.registry.nextGeneration ≤ s'.registry.nextGeneration)
  | installs (b : IdentityBinding) (installs : installsOf action response = [b])
      (effect : Installs u s.registry b (endsOf response) s'.registry)

/-- What one step owes: the invariant, its effect, a minted generation that is
the next one, and candidates that are old or minted just now. -/
structure StepSpec (u : Unicode) (s : IdentitySystem) (action : IdentityAction)
    (response : IdentityResponse) (s' : IdentitySystem) : Prop where
  good : s'.Good u
  effect : Effect u s action response s'
  mint : mintedOf action response = [] ∨ ∃ g, mintedOf action response = [g] ∧
    g.get = s.registry.nextGeneration ∧
    s.registry.nextGeneration < s'.registry.nextGeneration
  fresh : ∀ c ∈ s'.fresh, c ∈ s.fresh ∨
    c.completion.binding.generation ∈ mintedOf action response
  origin : ∀ b ∈ installsOf action response, b.generation ∈ mintedOf action response ∨
    ∃ c ∈ s.fresh, c.completion.binding = b ∧ ∃ g γ, s.registry.Live (keyOf u b) g γ

variable {u : Unicode} {instantMax : Instant} {s s' : IdentitySystem} {action : IdentityAction}
  {response : IdentityResponse}

/-- A step that settles what its response ends and mints nothing. -/
theorem StepSpec.of_settles {ended : List ReleasedIdentity} (good : s'.Good u)
    (h : Settles s.registry ended s'.registry)
    (hends : endsOf response = ended.map (·.generation))
    (hinst : installsOf action response = []) (hmint : mintedOf action response = [])
    (hfresh : ∀ c ∈ s'.fresh, c ∈ s.fresh) : StepSpec u s action response s' where
  good := good
  effect := .settles hinst (by rw [hends]; exact h.holdings) h.live (by
    intro g hg
    rw [hends] at hg
    obtain ⟨id, hid, rfl⟩ := List.mem_map.mp hg
    exact h.drained id hid) h.knows h.next
  mint := Or.inl hmint
  fresh := fun c hc => Or.inl (hfresh c hc)
  origin := fun b hb => by rw [hinst] at hb; simp at hb

/-- A step that installs the binding it mints. -/
theorem StepSpec.of_installs {b : IdentityBinding} (good : s'.Good u)
    (h : Installs u s.registry b (endsOf response) s'.registry)
    (hgen : b.generation.get = s.registry.nextGeneration)
    (hlt : s.registry.nextGeneration < s'.registry.nextGeneration)
    (hinst : installsOf action response = [b])
    (hmint : mintedOf action response = [b.generation])
    (hfresh : ∀ c ∈ s'.fresh, c ∈ s.fresh) : StepSpec u s action response s' where
  good := good
  effect := .installs b hinst h
  mint := Or.inr ⟨_, hmint, hgen, hlt⟩
  fresh := fun c hc => Or.inl (hfresh c hc)
  origin := fun b' hb' => by
    rw [hinst, List.mem_singleton] at hb'
    subst hb'
    exact Or.inl (by rw [hmint]; exact List.mem_singleton_self _)

/-- A step that only counts on gates. -/
theorem StepSpec.of_leases (good : s'.Good u)
    (ha : s'.registry.activeByName = s.registry.activeByName)
    (hd : s'.registry.deferredReleases = s.registry.deferredReleases)
    (hk : s'.registry.knownByName = s.registry.knownByName)
    (hn : s'.registry.nextGeneration = s.registry.nextGeneration)
    (hends : endsOf response = []) (hinst : installsOf action response = [])
    (hmint : mintedOf action response = []) (hfresh : s'.fresh = s.fresh) :
    StepSpec u s action response s' where
  good := good
  effect := .settles hinst (by
      rw [hends]
      unfold holdings
      rw [ha, hd]
      simp)
    (fun hl => by
      unfold Live at hl ⊢
      rw [ha, hd] at hl
      exact hl)
    (by simp [hends]) (Knows.of_eq hk) (Nat.le_of_eq hn.symm)
  mint := Or.inl hmint
  fresh := fun c hc => Or.inl (by rw [← hfresh]; exact hc)
  origin := fun b hb => by rw [hinst] at hb; simp at hb

/-! ## The three kinds of step -/

/-- A guard stays valid while only gates it is not drained on are counted. -/
theorem GuardOk.count {r r' : IdentityRegistry} {commit : IdentityMigrationCommit}
    {a : ActiveIdentity} (h : r.GuardOk commit a)
    (ha : r'.activeByName = r.activeByName) (hs : r'.sessionBindings = r.sessionBindings)
    (hz : (r'.gates commit.operationGate).activeOperations = 0) : r'.GuardOk commit a where
  record := by rw [ha]; exact h.record
  transfer := h.transfer
  gate := h.gate
  drained := hz
  session := by rw [hs]; exact h.session
  owner := h.owner
  channel := h.channel
  generation := h.generation

/-- Leases move only on gates that count them, so a guard's drained gate is
never touched. -/
theorem leaseStep_spec (h : s.Good u) (hs : s.leaseStep action = some (response, s')) :
    StepSpec u s action response s' := by
  have hguard : ∀ l ∈ s.leases, ∀ commit, s.guard = some commit →
      l.gate ≠ commit.operationGate := by
    intro l hl commit hc
    obtain ⟨a, hg⟩ := h.guard commit hc
    exact h.inv.live.no_lease hg.drained l hl
  unfold leaseStep at hs
  split at hs
  next i =>
    obtain ⟨l, hl, he⟩ := Option.map_eq_some_iff.mp hs
    have hmem := List.mem_of_getElem? hl
    have hinv := retainLease_inv h.inv hmem
    have hsame : (s.registry.retainLease l).2 = s.registry ∨ ∃ gate,
        (s.registry.retainLease l).2 = s.registry.setGate l.gate gate := by
      unfold retainLease
      split
      · exact Or.inl rfl
      · exact Or.inr ⟨_, rfl⟩
    rcases hr : s.registry.retainLease l with ⟨result, r'⟩
    rw [hr] at he hinv hsame
    cases he
    have hguard' : ∀ commit, s.guard = some commit → ∃ a, r'.GuardOk commit a := by
      intro commit hc
      obtain ⟨a, hg⟩ := h.guard commit hc
      rcases hsame with rfl | ⟨gate, rfl⟩
      · exact ⟨a, hg⟩
      · refine ⟨a, GuardOk.count hg rfl rfl ?_⟩
        rw [setGate_gates, if_neg (hguard l hmem commit hc).symm]
        exact hg.drained
    have hfields : r'.activeByName = s.registry.activeByName ∧
        r'.deferredReleases = s.registry.deferredReleases ∧
        r'.knownByName = s.registry.knownByName ∧
        r'.nextGeneration = s.registry.nextGeneration := by
      rcases hsame with rfl | ⟨gate, rfl⟩ <;> exact ⟨rfl, rfl, rfl, rfl⟩
    exact .of_leases ⟨hinv, hguard'⟩ hfields.1 hfields.2.1 hfields.2.2.1 hfields.2.2.2
      rfl rfl rfl rfl
  next i =>
    obtain ⟨l, hl, he⟩ := Option.map_eq_some_iff.mp hs
    have hmem := List.mem_of_getElem? hl
    cases he
    refine .of_leases ⟨dropLease_inv h.inv hl, fun commit hc => ?_⟩ rfl rfl rfl rfl rfl rfl rfl rfl
    obtain ⟨a, hg⟩ := h.guard commit hc
    refine ⟨a, GuardOk.count hg rfl rfl ?_⟩
    unfold dropLease
    rw [setGate_gates, if_neg (hguard l hmem commit hc).symm]
    exact hg.drained
  next => exact absurd hs (by simp)

theorem fresh_none (hn : s.guard = none) : s.fresh = s.candidates := by
  unfold fresh
  rw [hn]
  rfl

theorem mem_fresh {c : MigrationCandidate} (h : c ∈ s.fresh) (hn : s.guard = none) :
    c ∈ s.candidates := by
  rw [fresh_none hn] at h
  exact h

theorem Good.of_inv (hn : s.guard = none)
    (hi : s.registry.Inv u [] s.leases s.candidates) : s.Good u where
  inv := by rw [fresh_none hn]; exact hi
  guard := fun commit hc => by rw [hn] at hc; exact absurd hc (by simp)

/-- The guard's holder commits its candidate or thaws its record. -/
theorem guardStep_spec {commit : IdentityMigrationCommit} (h : s.Good u)
    (hc : s.guard = some commit) (hs : s.guardStep commit action = some (response, s')) :
    StepSpec u s action response s' := by
  obtain ⟨a, hg⟩ := h.guard commit hc
  have hfresh : s.fresh = commit.candidate :: s.candidates := by
    unfold fresh
    rw [hc]
    rfl
  have hinv := h.inv
  rw [hfresh] at hinv
  unfold guardStep at hs
  split at hs
  next epoch =>
    rw [commitMigration_eq hinv hg] at hs
    cases hs
    have hi := committed_installs hinv hg epoch
    have hgood : Good u { s with
        registry := s.registry.committed commit a epoch, guard := none } :=
      Good.of_inv rfl (committed_inv hinv hg epoch)
    exact {
      good := hgood
      effect := .installs _ rfl hi
      mint := Or.inl rfl
      fresh := fun c hc => by
        have hm := mem_fresh hc rfl
        rw [hfresh]
        exact Or.inl (List.mem_cons_of_mem _ hm)
      origin := fun b hb => by
        have he : b = commit.completion.binding := List.mem_singleton.mp hb
        have hkey : keyOf u commit.completion.binding = commit.canonicalNickname :=
          hinv.directory.key (hinv.live.candidates _ (List.mem_cons_self ..)).known
        refine Or.inr ⟨commit.candidate, by rw [hfresh]; exact List.mem_cons_self ..,
          he.symm, a.generation, a.operationGate, ?_⟩
        rw [he, hkey]
        exact Live.of_active hg.record }
  next =>
    cases hs
    have hinv' := (dropMigrationCommit_inv hinv hg).sublist (List.sublist_cons_self _ _)
    refine .of_settles (Good.of_inv rfl hinv') (?_ : Settles _ [] _) rfl rfl rfl ?_
    · rw [dropMigrationCommit_eq hinv hg]
      exact withTransfer_settles hg.record _ _
    · intro c hc
      have hm := mem_fresh hc rfl
      rw [hfresh]
      exact List.mem_cons_of_mem _ hm
  next => exact absurd hs (by simp)

/-- A step of the actor that only moves records and hands `ended` out. -/
theorem StepSpec.of_actor {r' : IdentityRegistry} {ended : List ReleasedIdentity}
    {preflights : List MigrationPreflight} (hn : s.guard = none)
    (hi : r'.Inv u [] s.leases s.candidates) (h : Settles s.registry ended r')
    (hends : endsOf response = ended.map (·.generation))
    (hinst : installsOf action response = []) (hmint : mintedOf action response = []) :
    StepSpec u s action response { s with registry := r', preflights := preflights } :=
  .of_settles (Good.of_inv hn hi) h hends hinst hmint fun _ hc => hc

/-- A step of the actor that mints a generation and installs it at once. -/
theorem StepSpec.of_minted {r' : IdentityRegistry} {b : IdentityBinding}
    {preflights : List MigrationPreflight} (hn : s.guard = none)
    (hi : r'.Inv u [] s.leases s.candidates)
    (h : Installs u s.registry b (endsOf response) r')
    (hgen : b.generation.get = s.registry.nextGeneration)
    (hlt : s.registry.nextGeneration < r'.nextGeneration)
    (hinst : installsOf action response = [b])
    (hmint : mintedOf action response = [b.generation]) :
    StepSpec u s action response { s with registry := r', preflights := preflights } :=
  .of_installs (Good.of_inv hn hi) h hgen hlt hinst hmint fun _ hc => hc

/-- An admission counts on one gate and may hand out one lease. -/
theorem StepSpec.of_admission {r' : IdentityRegistry}
    {result : Except IdentityError IdentityOperationLease} (hn : s.guard = none)
    (hi : r'.Inv u [] (keep s.leases result) s.candidates)
    (hr : r' = s.registry ∨ ∃ γ gate, r' = s.registry.setGate γ gate)
    (hinst : installsOf action (.lease result) = [])
    (hmint : mintedOf action (.lease result) = []) :
    StepSpec u s action (.lease result)
      { s with registry := r', leases := keep s.leases result } := by
  have hgood : Good u { s with registry := r', leases := keep s.leases result } :=
    Good.of_inv hn hi
  rcases hr with rfl | ⟨γ, gate, rfl⟩ <;>
    exact .of_leases hgood rfl rfl rfl rfl rfl hinst hmint rfl

theorem issueLease_registry (r : IdentityRegistry) (g : GateRef) (b : IdentityBinding) :
    (r.issueLease g b).2 = r ∨ ∃ γ gate, (r.issueLease g b).2 = r.setGate γ gate := by
  unfold issueLease
  split
  · exact Or.inl rfl
  · exact Or.inr ⟨_, _, rfl⟩

theorem admitOperation_registry (r : IdentityRegistry) (session : SessionId) :
    (r.admitOperation u session).2 = r ∨
      ∃ γ gate, (r.admitOperation u session).2 = r.setGate γ gate := by
  unfold admitOperation
  split
  · exact Or.inl rfl
  · split
    · exact Or.inl rfl
    · exact issueLease_registry _ _ _

theorem admitUdpOperation_registry (r : IdentityRegistry) (userNo : UserNo) (epoch : Nat) :
    (r.admitUdpOperation userNo epoch).2 = r ∨
      ∃ γ gate, (r.admitUdpOperation userNo epoch).2 = r.setGate γ gate := by
  unfold admitUdpOperation
  repeat' split
  all_goals first
    | exact Or.inl rfl
    | exact issueLease_registry _ _ _

/-- Every step of the actor, one case for each action. -/
theorem actorStep_spec (h : s.Good u) (hn : s.guard = none)
    (hs : s.actorStep u instantMax action = some (response, s')) :
    StepSpec u s action response s' := by
  have hinv := h.inv
  rw [fresh_none hn] at hinv
  cases action with
  | claim session ip nickname epoch =>
    have hi := claimAt_inv hinv session ip nickname epoch
    have he := claimAt_effect hinv session ip nickname epoch
    rcases hr : s.registry.claimAt u session ip nickname epoch with ⟨result, r'⟩
    rw [hr] at hi he
    simp only [actorStep, hr, Option.some.injEq, Prod.mk.injEq] at hs
    obtain ⟨rfl, rfl⟩ := hs
    rcases he with ⟨e, rfl, hset⟩ | ⟨b, rfl, hgen, hlt, hinst⟩
    · exact .of_actor hn hi hset rfl rfl rfl
    · exact .of_minted hn hi hinst hgen hlt rfl rfl
  | ensureKnown nickname =>
    have hi := ensureKnownUserNo_inv hinv nickname
    have hset := (ensureKnownUserNo_same hinv.directory nickname).1.settles
    rcases hr : s.registry.ensureKnownUserNo u nickname with ⟨result, r'⟩
    rw [hr] at hi hset
    simp only [actorStep, hr, Option.some.injEq, Prod.mk.injEq] at hs
    obtain ⟨rfl, rfl⟩ := hs
    exact .of_actor hn hi hset rfl rfl rfl
  | offlineMyroom nickname =>
    have hi := offlineMyroomBinding_inv hinv nickname
    have hset := offlineMyroomBinding_settles hinv.directory nickname
    rcases hr : s.registry.offlineMyroomBinding u nickname with ⟨result, r'⟩
    rw [hr] at hi hset
    simp only [actorStep, hr, Option.some.injEq, Prod.mk.injEq] at hs
    obtain ⟨rfl, rfl⟩ := hs
    exact .of_actor hn hi hset rfl rfl rfl
  | admitOperation session =>
    have hi := admitOperation_inv hinv session
    have hreg := admitOperation_registry (u := u) s.registry session
    rcases hr : s.registry.admitOperation u session with ⟨result, r'⟩
    rw [hr] at hi hreg
    simp only [actorStep, hr, Option.some.injEq, Prod.mk.injEq] at hs
    obtain ⟨rfl, rfl⟩ := hs
    exact .of_admission hn hi hreg rfl rfl
  | admitUdp userNo epoch =>
    have hi := admitUdpOperation_inv hinv userNo epoch
    have hreg := admitUdpOperation_registry s.registry userNo epoch
    rcases hr : s.registry.admitUdpOperation userNo epoch with ⟨result, r'⟩
    rw [hr] at hi hreg
    simp only [actorStep, hr, Option.some.injEq, Prod.mk.injEq] at hs
    obtain ⟨rfl, rfl⟩ := hs
    exact .of_admission hn hi hreg rfl rfl
  | beginMigration session channel token now =>
    have hi := beginMigration_inv hinv instantMax session channel token now
    have hset := beginMigration_settles (u := u) (r := s.registry) instantMax session channel
      token now
    rcases hr : s.registry.beginMigration u instantMax session channel token now with
      ⟨result, r'⟩
    rw [hr] at hi hset
    simp only [actorStep, hr, Option.some.injEq, Prod.mk.injEq] at hs
    obtain ⟨rfl, rfl⟩ := hs
    exact .of_actor hn hi hset rfl rfl rfl
  | preflight session ip userNo channelId token now =>
    have hi := preflightMigration_inv hinv session ip userNo channelId token now
    have hset := preflightMigration_settles (r := s.registry) session ip userNo channelId token
      now
    rcases hr : s.registry.preflightMigration session ip userNo channelId token now with
      ⟨result, r'⟩
    rw [hr] at hi hset
    simp only [actorStep, hr, Option.some.injEq, Prod.mk.injEq] at hs
    obtain ⟨rfl, rfl⟩ := hs
    exact .of_actor hn hi hset rfl rfl rfl
  | prepare i now reserve =>
    simp only [actorStep] at hs
    obtain ⟨preflight, _, hs⟩ := Option.map_eq_some_iff.mp hs
    rcases preparePreflightedMigration_cases s.registry preflight now reserve with
      ⟨e, n, hle, he⟩ | ⟨v, hv, he⟩
    · rw [he] at hs
      cases hs
      have hbump : ({ s.registry with nextGeneration := n } : IdentityRegistry).Inv u []
          s.leases s.candidates :=
        hinv.bump rfl rfl rfl rfl rfl rfl rfl hle (Nat.le_refl _)
      exact .of_actor hn (abortPreflightedMigration_inv hbump preflight)
        ((generation_settles hle).trans (abortPreflightedMigration_settles _)) rfl rfl rfl
    · rw [he] at hs
      cases hs
      have hset := prepared_settles hinv.live
      exact {
        good := Good.of_inv hn (prepared_inv hinv hv)
        effect := .settles rfl hset.holdings hset.live (by simp [endsOf, supersededOf,
          releasedOf, stampsOf]) hset.knows hset.next
        mint := Or.inr ⟨_, rfl, rfl, Nat.lt_succ_self _⟩
        fresh := fun c hc => by
          rw [fresh_none hn]
          rcases List.mem_append.mp (mem_fresh hc hn) with hm | hm
          · exact Or.inl hm
          · rw [List.mem_singleton] at hm
            subst hm
            exact Or.inr (List.mem_singleton_self _)
        origin := fun b hb => absurd hb (by simp [installsOf]) }
  | lock i j now =>
    simp only [actorStep] at hs
    obtain ⟨preflight, _, hs⟩ := Option.bind_eq_some_iff.mp hs
    obtain ⟨candidate, hj, hs⟩ := Option.map_eq_some_iff.mp hs
    have hi := lockPreparedMigration_inv hinv preflight candidate now
    have hset := lockPreparedMigration_settles (r := s.registry) preflight candidate now
    rcases lockPreparedMigration_cases s.registry preflight candidate now with
      ⟨e, he⟩ | ⟨v, _, hg, he⟩
    · rw [he] at hs hi hset
      cases hs
      refine .of_settles (Good.of_inv rfl (hi.sublist (List.eraseIdx_sublist _ _))) hset
        rfl rfl rfl ?_
      intro c hc
      rw [fresh_none hn]
      exact (List.eraseIdx_sublist _ _).subset (mem_fresh hc rfl)
    · rw [he] at hs hi hset
      cases hs
      obtain ⟨hlt, hget⟩ := List.getElem?_eq_some_iff.mp hj
      have hperm : s.candidates.Perm (candidate :: s.candidates.eraseIdx j) := by
        have := (List.getElem_cons_eraseIdx_perm hlt).symm
        rw [hget] at this
        exact this
      have hgood : Good u { s with
          preflights := s.preflights.eraseIdx i
          candidates := s.candidates.eraseIdx j
          guard := some (commitOf preflight candidate) } :=
        ⟨hinv.perm hperm, fun commit hc => by cases hc; exact ⟨v.active, hg⟩⟩
      refine .of_settles hgood hset rfl rfl rfl ?_
      intro c hc
      rw [fresh_none hn]
      exact hperm.symm.subset hc
  | abort i =>
    simp only [actorStep] at hs
    obtain ⟨preflight, _, hs⟩ := Option.map_eq_some_iff.mp hs
    have hi := abortPreflightedMigration_inv hinv preflight
    have hset := abortPreflightedMigration_settles (r := s.registry) preflight
    rcases hr : s.registry.abortPreflightedMigration preflight with ⟨result, r'⟩
    rw [hr] at hi hset hs
    cases hs
    exact .of_actor hn hi hset rfl rfl rfl
  | dropPreflight i =>
    simp only [actorStep] at hs
    obtain ⟨_, _, hs⟩ := Option.map_eq_some_iff.mp hs
    cases hs
    exact .of_actor hn hinv .refl rfl rfl rfl
  | dropCandidate j =>
    simp only [actorStep] at hs
    obtain ⟨_, _, hs⟩ := Option.map_eq_some_iff.mp hs
    cases hs
    refine .of_settles (Good.of_inv hn (hinv.sublist (List.eraseIdx_sublist _ _))) .refl
      rfl rfl rfl ?_
    intro c hc
    rw [fresh_none hn]
    exact (List.eraseIdx_sublist _ _).subset (mem_fresh hc hn)
  | completePreflighted i now epoch reserve =>
    simp only [actorStep] at hs
    obtain ⟨preflight, _, hs⟩ := Option.map_eq_some_iff.mp hs
    have hi := completePreflighted_inv hinv preflight now epoch reserve
    have he := completePreflighted_effect hinv preflight now epoch reserve
    rcases hr : s.registry.completePreflightedMigrationAtUdpEpoch preflight now epoch reserve
      with ⟨result, r'⟩
    rw [hr] at hi he hs
    cases hs
    rcases he with ⟨e, rfl, hset⟩ | ⟨m, rfl, hgen, hlt, hinst⟩
    · exact .of_actor hn hi hset rfl rfl rfl
    · exact .of_minted hn hi hinst hgen hlt rfl rfl
  | complete session ip userNo channelId token now reserve =>
    have hi := completeMigration_inv hinv session ip userNo channelId token now reserve
    have he := completeMigration_effect hinv session ip userNo channelId token now reserve
    rcases hr : s.registry.completeMigration session ip userNo channelId token now reserve
      with ⟨result, r'⟩
    rw [hr] at hi he
    simp only [actorStep, hr, Option.some.injEq, Prod.mk.injEq] at hs
    obtain ⟨rfl, rfl⟩ := hs
    rcases he with ⟨e, rfl, hset⟩ | ⟨m, rfl, hgen, hlt, hinst⟩
    · exact .of_actor hn hi hset rfl rfl rfl
    · exact .of_minted hn hi hinst hgen hlt rfl rfl
  | disconnect session now =>
    have hi := disconnect_inv hinv session now
    have hset := disconnect_settles hinv session now
    rcases hr : s.registry.disconnect u session now with ⟨outcome, r'⟩
    rw [hr] at hi hset
    simp only [actorStep, hr, Option.some.injEq, Prod.mk.injEq] at hs
    obtain ⟨rfl, rfl⟩ := hs
    exact .of_actor hn hi hset rfl rfl rfl
  | expire visit now =>
    simp only [actorStep] at hs
    split at hs
    next hv =>
      obtain ⟨hi, hset⟩ := expireMigrations_inv hinv hv now
      rcases hr : s.registry.expireMigrations visit now with ⟨identities, r'⟩
      rw [hr] at hi hset hs
      cases hs
      exact .of_actor hn hi hset rfl rfl rfl
    next => exact absurd hs (by simp)
  | collect =>
    obtain ⟨hi, hset⟩ := collectDrainedReleases_inv hinv
    rcases hr : s.registry.collectDrainedReleases with ⟨identities, r'⟩
    rw [hr] at hi hset
    simp only [actorStep, hr, Option.some.injEq, Prod.mk.injEq] at hs
    obtain ⟨rfl, rfl⟩ := hs
    exact .of_actor hn hi hset rfl rfl rfl
  | drain visit =>
    simp only [actorStep] at hs
    split at hs
    next hv =>
      obtain ⟨hi, hset⟩ := drainActive_inv hinv hv
      rcases hr : s.registry.drainActive visit with ⟨identities, r'⟩
      rw [hr] at hi hset hs
      cases hs
      exact .of_actor hn hi hset rfl rfl rfl
    next => exact absurd hs (by simp)
  | retain _ | dropLease _ | commit _ | dropGuard => exact absurd hs (by simp [actorStep])

/-- **One step**: whoever takes it, it keeps the invariant and accounts for every
generation it mints, installs or ends. -/
theorem step_spec (h : s.Good u) (hs : s.step u instantMax action = some (response, s')) :
    StepSpec u s action response s' := by
  unfold step at hs
  split at hs
  next result hl =>
    cases hs
    exact leaseStep_spec h hl
  next =>
    split at hs
    next commit hc => exact guardStep_spec h hc hs
    next hn => exact actorStep_spec h hn hs

end IdentitySystem

end P4475
