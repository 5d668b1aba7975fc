import P4475.Lib.Machine
import P4475.Nickname
import P4475.Profile.StoreRegister

/-!
# Race rewards, once each

A profile keeps one receipt, that of the last race reward. A reward is applied only if its key is
ahead of the stored one: of a later run of the server, or of the same run and a later race; a repeated
key gets the stored receipt back. The calls on one profile act one after another, as
`Store.atomic_register` has it, so here they are the steps of a machine, with the runs of the server
between them.
-/

namespace P4475.Profile

open Lib

/-! ## Amounts -/

def defaultRp : UInt32 := 20000000

def maxTimeRewardRpRoll : UInt32 := 50

def maxTimeRewardLucciRoll : UInt32 := 500

inductive RewardAmountError
  | rp (actual maximum : UInt32)
  | lucci (actual maximum : UInt32)
  deriving DecidableEq, Repr

/-- A reward, within the limits of its rolls. -/
structure TimeReward where
  earnedRp : UInt32
  earnedLucci : UInt32
  rp_le : earnedRp ≤ maxTimeRewardRpRoll
  lucci_le : earnedLucci ≤ maxTimeRewardLucciRoll

def TimeReward.new (earnedRp earnedLucci : UInt32) : Except RewardAmountError TimeReward :=
  if hrp : earnedRp ≤ maxTimeRewardRpRoll then
    if hlucci : earnedLucci ≤ maxTimeRewardLucciRoll then
      .ok ⟨earnedRp, earnedLucci, hrp, hlucci⟩
    else .error (.lucci earnedLucci maxTimeRewardLucciRoll)
  else .error (.rp earnedRp maxTimeRewardRpRoll)

structure AppliedTimeReward where
  currentRp : UInt32
  earnedRp : UInt32
  earnedLucci : UInt32
  currentLucci : UInt32
  deriving DecidableEq, Repr

/-! ## Keys and receipts -/

/-- Sixteen bytes, not all of them zero. -/
structure ProfileStoreId where
  bytes : List UInt8
  deriving DecidableEq, Repr

/-- The capability of the one server that runs; its generation is not zero. -/
structure RaceRunLease where
  generation : Nat
  storeId : ProfileStoreId
  root : Text
  deriving DecidableEq, Repr

structure RaceRewardRecipient where
  canonicalStoreRoot : Text
  storeId : ProfileStoreId
  runGeneration : Nat
  nickname : Text
  canonicalNickname : Text
  userNo : UInt32
  deriving DecidableEq, Repr

inductive RaceRewardKeyKind
  | legacy (runId : List UInt8)
  | current (runGeneration : Nat) (storeId : ProfileStoreId) (canonicalNickname : Text)
  deriving DecidableEq, Repr

structure RaceRewardKey where
  kind : RaceRewardKeyKind
  roomId : UInt32
  raceEpoch : Nat
  userNo : UInt32
  deriving DecidableEq, Repr

namespace RaceRewardKey

def runGeneration (key : RaceRewardKey) : Option Nat :=
  match key.kind with
  | .legacy _ => none
  | .current runGeneration _ _ => some runGeneration

def storeId (key : RaceRewardKey) : Option ProfileStoreId :=
  match key.kind with
  | .legacy _ => none
  | .current _ storeId _ => some storeId

def canonicalNickname (key : RaceRewardKey) : Option Text :=
  match key.kind with
  | .legacy _ => none
  | .current _ _ canonicalNickname => some canonicalNickname

end RaceRewardKey

inductive RaceRewardKeyError
  | zeroRoomId
  | recipientLeaseStoreMismatch
  | recipientLeaseGenerationMismatch (recipientGeneration leaseGeneration : Nat)
  deriving DecidableEq, Repr

def RaceRewardKey.new (recipient : RaceRewardRecipient) (lease : RaceRunLease) (roomId : UInt32)
    (raceEpoch : Nat) : Except RaceRewardKeyError RaceRewardKey := do
  check (recipient.canonicalStoreRoot = lease.root ∧ recipient.storeId = lease.storeId)
    .recipientLeaseStoreMismatch
  check (recipient.runGeneration = lease.generation)
    (.recipientLeaseGenerationMismatch recipient.runGeneration lease.generation)
  check (roomId ≠ 0) .zeroRoomId
  return ⟨.current lease.generation lease.storeId recipient.canonicalNickname, roomId, raceEpoch,
    recipient.userNo⟩

structure PersistedRaceRewardReceipt where
  key : RaceRewardKey
  applied : AppliedTimeReward
  deriving DecidableEq, Repr

/-- A `Profile`, of which the rewards touch three fields; `rest` is everything else. -/
structure RewardedProfile (O : Type) where
  rp : UInt32
  lucci : UInt32
  raceRewardReceipt : Option PersistedRaceRewardReceipt
  rest : O
  deriving DecidableEq

/-! ## Errors -/

inductive RaceRewardOrderError
  | staleRunGeneration (attempted latest : Nat)
  | staleEpoch (attempted latest : Nat)
  | conflictingKeyAtEpoch (runGeneration raceEpoch : Nat) (userNo attemptedRoomId storedRoomId : UInt32)
  deriving DecidableEq, Repr

inductive RaceRewardBindingError
  | recipientStoreMismatch (issuedFor usedWith : Text)
  | recipientRunGenerationMismatch (recipientGeneration leaseGeneration : Nat)
  | keyStoreMismatch (keyStore : Option ProfileStoreId) (leaseStore : ProfileStoreId)
  | keyRunGenerationMismatch (keyGeneration : Option Nat) (leaseGeneration : Nat)
  | missingRunGeneration
  | missingCanonicalNickname
  | recipientMismatch (context : String) (expectedNickname : Text) (expectedUserNo : UInt32)
      (actualNickname : Option Text) (actualUserNo : UInt32)
  deriving DecidableEq, Repr

inductive InvalidStoredReceiptError
  | earnedRpOutOfRange (actual maximum : UInt32)
  | earnedLucciOutOfRange (actual maximum : UInt32)
  | currentRpNotNormalized (actual expected : UInt32)
  deriving DecidableEq, Repr

inductive RaceRewardPersistenceError
  | order (error : RaceRewardOrderError)
  | binding (error : RaceRewardBindingError)
  | invalidStoredReceipt (error : InvalidStoredReceiptError)
  deriving DecidableEq, Repr

/-! ## Checks -/

def recipientMismatch (context : String) (recipient : RaceRewardRecipient) (key : RaceRewardKey) :
    RaceRewardBindingError :=
  .recipientMismatch context recipient.canonicalNickname recipient.userNo key.canonicalNickname
    key.userNo

def validateAttemptedRecipient (lease : RaceRunLease) (recipient : RaceRewardRecipient)
    (key : RaceRewardKey) : Except RaceRewardBindingError Unit := do
  check (recipient.canonicalStoreRoot = lease.root ∧ recipient.storeId = lease.storeId)
    (.recipientStoreMismatch recipient.canonicalStoreRoot lease.root)
  check (recipient.runGeneration = lease.generation)
    (.recipientRunGenerationMismatch recipient.runGeneration lease.generation)
  check (key.storeId = some lease.storeId) (.keyStoreMismatch key.storeId lease.storeId)
  check (key.runGeneration = some lease.generation)
    (.keyRunGenerationMismatch key.runGeneration lease.generation)
  let canonicalNickname ← okOr .missingCanonicalNickname key.canonicalNickname
  check (canonicalNickname = recipient.canonicalNickname ∧ key.userNo = recipient.userNo)
    (recipientMismatch "attempted" recipient key)

def validateStoredRecipient (recipient : RaceRewardRecipient) (key : RaceRewardKey) :
    Except RaceRewardBindingError Unit := do
  check (∀ storeId ∈ key.storeId, storeId = recipient.storeId)
    (.keyStoreMismatch key.storeId recipient.storeId)
  let nicknameMatches := ∀ nickname ∈ key.canonicalNickname, nickname = recipient.canonicalNickname
  -- user numbers are of one run of the server
  let userMatches := key.runGeneration ≠ some recipient.runGeneration ∨ key.userNo = recipient.userNo
  check (nicknameMatches ∧ userMatches) (recipientMismatch "persisted" recipient key)

def validateStoredReceipt (receipt : PersistedRaceRewardReceipt) :
    Except InvalidStoredReceiptError Unit := do
  check (receipt.applied.earnedRp ≤ maxTimeRewardRpRoll)
    (.earnedRpOutOfRange receipt.applied.earnedRp maxTimeRewardRpRoll)
  check (receipt.applied.earnedLucci ≤ maxTimeRewardLucciRoll)
    (.earnedLucciOutOfRange receipt.applied.earnedLucci maxTimeRewardLucciRoll)
  check (receipt.applied.currentRp = defaultRp)
    (.currentRpNotNormalized receipt.applied.currentRp defaultRp)

/-! ## Applying a reward -/

variable {O : Type}

def applyTimeReward (profile : RewardedProfile O) (reward : TimeReward) : RewardedProfile O × AppliedTimeReward :=
  let lucci := profile.lucci + reward.earnedLucci
  ({ profile with rp := defaultRp, lucci }, ⟨defaultRp, reward.earnedRp, reward.earnedLucci, lucci⟩)

/-- What the stored receipt says of an attempt: an answer, or nothing against it. -/
def judgeStoredReceipt (recipient : RaceRewardRecipient) (key : RaceRewardKey) (attempted : Nat)
    (stored : PersistedRaceRewardReceipt) :
    Option (Except RaceRewardPersistenceError PersistedRaceRewardReceipt) :=
  match validateStoredReceipt stored, validateStoredRecipient recipient stored.key with
  | .error e, _ => some (.error (.invalidStoredReceipt e))
  | .ok (), .error e => some (.error (.binding e))
  | .ok (), .ok () =>
    if stored.key = key then some (.ok stored)
    else
      match stored.key.runGeneration with
      | none => none
      | some latest =>
        if attempted < latest then
          some (.error (.order (.staleRunGeneration attempted latest)))
        else if attempted = latest then
          if key.userNo ≠ stored.key.userNo then
            some (.error (.binding
              (recipientMismatch "same-generation persisted" recipient stored.key)))
          else if key.raceEpoch < stored.key.raceEpoch then
            some (.error (.order (.staleEpoch key.raceEpoch stored.key.raceEpoch)))
          else if key.raceEpoch = stored.key.raceEpoch then
            some (.error (.order (.conflictingKeyAtEpoch attempted key.raceEpoch key.userNo key.roomId
              stored.key.roomId)))
          else none
        else none

/-- The closure of `apply_race_reward_once`. -/
def rewardMutation (recipient : RaceRewardRecipient) (key : RaceRewardKey) (attempted : Nat)
    (proposedReward : TimeReward) (profile : RewardedProfile O) :
    ProfileMutation (RewardedProfile O) (Except RaceRewardPersistenceError PersistedRaceRewardReceipt) :=
  match profile.raceRewardReceipt.bind (judgeStoredReceipt recipient key attempted) with
  | some answer => .unchanged answer
  | none =>
    let applied := applyTimeReward profile proposedReward
    .changed (.ok ⟨key, applied.2⟩) { applied.1 with raceRewardReceipt := some ⟨key, applied.2⟩ }

/-- `apply_race_reward_once`, once its transaction is through: the answer, and the new profile if
there is one. -/
def applyRaceRewardOnce (lease : RaceRunLease) (recipient : RaceRewardRecipient) (key : RaceRewardKey)
    (proposedReward : TimeReward) (profile : RewardedProfile O) :
    Except RaceRewardPersistenceError PersistedRaceRewardReceipt × Option (RewardedProfile O) :=
  match validateAttemptedRecipient lease recipient key, key.runGeneration with
  | .error e, _ => (.error (.binding e), none)
  | .ok (), none => (.error (.binding .missingRunGeneration), none)
  | .ok (), some attempted =>
    match rewardMutation recipient key attempted proposedReward profile with
    | .unchanged answer => (answer, none)
    | .changed answer next => (answer, some next)
    | .failed answer => (answer, none)

/-! ## Stamps -/

/-- Where a key stands among all runs and races; a legacy key stands before them all. -/
def RaceRewardKey.stamp (key : RaceRewardKey) : Option (Nat × Nat) :=
  key.runGeneration.map fun generation => (generation, key.raceEpoch)

def RewardedProfile.stamp (profile : RewardedProfile O) : Option (Nat × Nat) :=
  profile.raceRewardReceipt.bind fun receipt => receipt.key.stamp

/-- In an earlier run, or earlier in the same one. -/
def Before : Option (Nat × Nat) → Option (Nat × Nat) → Prop
  | _, none => False
  | none, some _ => True
  | some a, some b => a.1 < b.1 ∨ (a.1 = b.1 ∧ a.2 < b.2)

namespace Before

theorem irrefl (a : Option (Nat × Nat)) : ¬ Before a a := by
  intro h
  cases a with
  | none => exact h
  | some a =>
    rcases h with h | ⟨-, h⟩
    · exact Nat.lt_irrefl _ h
    · exact Nat.lt_irrefl _ h

theorem trans {a b c : Option (Nat × Nat)} (hab : Before a b) (hbc : Before b c) : Before a c := by
  cases c with
  | none => cases b <;> exact hbc
  | some c =>
    cases b with
    | none => cases a <;> exact absurd hab id
    | some b =>
      cases a with
      | none => trivial
      | some a =>
        rcases hab with hab | ⟨hab, hab'⟩
        · rcases hbc with hbc | ⟨hbc, -⟩
          · exact .inl (Nat.lt_trans hab hbc)
          · exact .inl (by omega)
        · rcases hbc with hbc | ⟨hbc, hbc'⟩
          · exact .inl (by omega)
          · exact .inr ⟨by omega, by omega⟩

end Before

/-! ## What an attempt does -/

variable {lease : RaceRunLease} {recipient : RaceRewardRecipient} {key : RaceRewardKey}
  {reward : TimeReward} {profile : RewardedProfile O} {attempted : Nat}

/-- The profile once a reward is applied to it. -/
def credited (key : RaceRewardKey) (reward : TimeReward) (profile : RewardedProfile O) : RewardedProfile O :=
  { (applyTimeReward profile reward).1 with
    raceRewardReceipt := some ⟨key, (applyTimeReward profile reward).2⟩ }

/-- What an attempt comes to: the reward is applied, or the stored receipt is given back, or the
attempt is refused; only the first changes the profile. -/
inductive Attempted (generation : Nat) (key : RaceRewardKey) (reward : TimeReward)
    (profile : RewardedProfile O) :
    Except RaceRewardPersistenceError PersistedRaceRewardReceipt × Option (RewardedProfile O) → Prop
  | credits : key.runGeneration = some generation → Before profile.stamp key.stamp →
      Attempted generation key reward profile
        (.ok ⟨key, (applyTimeReward profile reward).2⟩, some (credited key reward profile))
  | repeats (stored : PersistedRaceRewardReceipt) : profile.raceRewardReceipt = some stored →
      stored.key = key → Attempted generation key reward profile (.ok stored, none)
  | refuses (error : RaceRewardPersistenceError) :
      Attempted generation key reward profile (.error error, none)

/-- Nothing is against a key only if it is ahead of the stored one. -/
theorem before_of_judge {stored : PersistedRaceRewardReceipt} (hkey : key.runGeneration = some attempted)
    (h : judgeStoredReceipt recipient key attempted stored = none) :
    Before stored.key.stamp key.stamp := by
  have hstamp : key.stamp = some (attempted, key.raceEpoch) := by
    unfold RaceRewardKey.stamp
    rw [hkey]
    rfl
  rw [hstamp]
  unfold judgeStoredReceipt at h
  cases hreceipt : validateStoredReceipt stored with
  | error e =>
    rw [hreceipt] at h
    cases h
  | ok u =>
    cases hrecipient : validateStoredRecipient recipient stored.key with
    | error e =>
      rw [hreceipt, hrecipient] at h
      cases h
    | ok u' =>
      rw [hreceipt, hrecipient] at h
      dsimp only at h
      split at h
      · cases h
      · unfold RaceRewardKey.stamp
        cases hstored : stored.key.runGeneration with
        | none => trivial
        | some latest =>
          rw [hstored] at h
          dsimp only at h
          show attempted > latest ∨ latest = attempted ∧ _
          -- the refusals leave only what is ahead
          split at h
          · cases h
          · split at h
            · split at h
              · cases h
              · split at h
                · cases h
                · split at h
                  · cases h
                  · exact .inr ⟨by omega, by dsimp only; omega⟩
            · exact .inl (by omega)

theorem repeated_of_judge {stored receipt : PersistedRaceRewardReceipt}
    (h : judgeStoredReceipt recipient key attempted stored = some (.ok receipt)) :
    receipt = stored ∧ stored.key = key := by
  unfold judgeStoredReceipt at h
  split at h
  · cases h
  · cases h
  · split at h
    next hkey =>
      cases h
      exact ⟨rfl, hkey⟩
    next =>
      split at h
      · cases h
      · split at h
        · cases h
        · split at h
          · split at h
            · cases h
            · split at h
              · cases h
              · split at h <;> cases h
          · cases h

theorem runGeneration_of_attempted {u : Unit}
    (h : validateAttemptedRecipient lease recipient key = .ok u) :
    key.runGeneration = some lease.generation := by
  unfold validateAttemptedRecipient at h
  obtain ⟨-, h⟩ := check_bind.mp h
  obtain ⟨-, h⟩ := check_bind.mp h
  obtain ⟨-, h⟩ := check_bind.mp h
  exact (check_bind.mp h).1

/-- A key that is made for a recipient is taken from him, as long as the lease is the same. -/
theorem attempted_of_new {roomId : UInt32} {raceEpoch : Nat}
    (h : RaceRewardKey.new recipient lease roomId raceEpoch = .ok key) :
    validateAttemptedRecipient lease recipient key = .ok () := by
  unfold RaceRewardKey.new at h
  obtain ⟨hstore, h⟩ := check_bind.mp h
  obtain ⟨hgeneration, h⟩ := check_bind.mp h
  obtain ⟨-, h⟩ := check_bind.mp h
  cases h
  unfold validateAttemptedRecipient
  refine check_bind.mpr ⟨hstore, check_bind.mpr ⟨hgeneration, ?_⟩⟩
  refine check_bind.mpr ⟨rfl, check_bind.mpr ⟨rfl, ?_⟩⟩
  exact check_eq_ok.mpr ⟨rfl, rfl⟩

theorem attempted_apply (lease : RaceRunLease) (recipient : RaceRewardRecipient)
    (key : RaceRewardKey) (reward : TimeReward) (profile : RewardedProfile O) :
    Attempted lease.generation key reward profile
      (applyRaceRewardOnce lease recipient key reward profile) := by
  unfold applyRaceRewardOnce
  cases hvalid : validateAttemptedRecipient lease recipient key with
  | error e => exact .refuses _
  | ok u =>
    have hlease := runGeneration_of_attempted hvalid
    cases hkey : key.runGeneration with
    | none => exact .refuses _
    | some attempted =>
      dsimp only
      unfold rewardMutation
      cases hstored : profile.raceRewardReceipt with
      | none =>
        refine .credits hlease ?_
        unfold RewardedProfile.stamp RaceRewardKey.stamp
        rw [hstored, hkey]
        trivial
      | some stored =>
        dsimp only [Option.bind_some]
        cases hjudge : judgeStoredReceipt recipient key attempted stored with
        | none =>
          refine .credits hlease ?_
          unfold RewardedProfile.stamp
          rw [hstored]
          exact before_of_judge hkey hjudge
        | some answer =>
          cases answer with
          | error e => exact .refuses e
          | ok receipt =>
            obtain ⟨rfl, hsame⟩ := repeated_of_judge hjudge
            exact .repeats receipt hstored hsame

/-- A key that is not ahead of the stored one changes nothing, and gets a receipt only if it is the
stored one. -/
theorem attempted_behind (h : ¬ Before profile.stamp key.stamp) :
    (applyRaceRewardOnce lease recipient key reward profile).2 = none ∧
      ∀ receipt, (applyRaceRewardOnce lease recipient key reward profile).1 = .ok receipt →
        profile.raceRewardReceipt = some receipt ∧ receipt.key = key := by
  have hcases := attempted_apply lease recipient key reward profile
  generalize applyRaceRewardOnce lease recipient key reward profile = result at hcases
  cases hcases with
  | credits hlease hbefore => exact absurd hbefore h
  | repeats stored hstored hkey =>
    refine ⟨rfl, fun receipt heq => ?_⟩
    cases heq
    exact ⟨hstored, hkey⟩
  | refuses e => exact ⟨rfl, nofun⟩

/-- What is stored for a reward is a receipt that later attempts take as valid. -/
theorem valid_credited (key : RaceRewardKey) (reward : TimeReward) (profile : RewardedProfile O) :
    ∃ receipt, (credited key reward profile).raceRewardReceipt = some receipt ∧
      validateStoredReceipt receipt = .ok () := by
  refine ⟨_, rfl, ?_⟩
  unfold validateStoredReceipt
  refine check_bind.mpr ⟨reward.rp_le, check_bind.mpr ⟨reward.lucci_le, ?_⟩⟩
  exact check_eq_ok.mpr rfl

/-! ## Runs of the server -/

/-- A transaction that has nothing to do with race rewards. -/
structure Edit (O : Type) where
  change : RewardedProfile O → RewardedProfile O
  keeps : ∀ profile, (change profile).raceRewardReceipt = profile.raceRewardReceipt

/-- One profile of a store, the newest run generation that was allocated, and that of the server which
holds the lease, if one does. -/
structure RewardStore (O : Type) where
  newest : Nat
  lease : Option Nat
  profile : RewardedProfile O

inductive RewardAction (O : Type)
  | acquire
  /-- The server stops or crashes, and the lock on its lease is gone. -/
  | release
  | apply (recipient : RaceRewardRecipient) (key : RaceRewardKey) (proposedReward : TimeReward)
  | edit (edit : Edit O)

inductive RewardReply
  | acquired (runGeneration : Nat)
  | done
  | answered (answer : Except RaceRewardPersistenceError PersistedRaceRewardReceipt) (changed : Bool)

namespace RewardStore

variable (root : Text) (storeId : ProfileStoreId)

def step (s : RewardStore O) : RewardAction O → Option (RewardReply × RewardStore O)
  | .acquire =>
    -- the lock is exclusive, and the counter is a `u64`
    if s.lease = none ∧ s.newest < maxRevision then
      some (.acquired (s.newest + 1), { s with newest := s.newest + 1, lease := some (s.newest + 1) })
    else none
  | .release => some (.done, { s with lease := none })
  | .apply recipient key proposedReward =>
    s.lease.map fun generation =>
      let result := applyRaceRewardOnce ⟨generation, storeId, root⟩ recipient key proposedReward
        s.profile
      (.answered result.1 result.2.isSome, { s with profile := result.2.getD s.profile })
  | .edit edit => some (.done, { s with profile := edit.change s.profile })

/-- The runs of the servers of one store, and what they do to one profile. -/
def machine (newest : Nat) (profile : RewardedProfile O) :
    Machine (RewardStore O) (RewardAction O) RewardReply :=
  ⟨⟨newest, none, profile⟩, fun s action => s.step root storeId action⟩

def creditOf : RewardAction O × RewardReply → Option (TimeReward × PersistedRaceRewardReceipt)
  | (.apply _ _ reward, .answered (.ok receipt) true) => some (reward, receipt)
  | _ => none

def generationOf : RewardAction O × RewardReply → Option Nat
  | (_, .acquired generation) => some generation
  | _ => none

/-- The rewards that were applied, latest first. -/
def credits (tr : List (RewardAction O × RewardReply)) :
    List (TimeReward × PersistedRaceRewardReceipt) := tr.filterMap creditOf

/-- The generations that were handed out, latest first. -/
def generations (tr : List (RewardAction O × RewardReply)) : List Nat := tr.filterMap generationOf

/-- What the rewards come to on top of the first balance; it wraps around as a `u32` does. -/
def balance (lucci : UInt32) : List (TimeReward × PersistedRaceRewardReceipt) → UInt32
  | [] => lucci
  | (reward, _) :: earlier => balance lucci earlier + reward.earnedLucci

/-- The books of one profile: each run has a later generation than all before; each reward applied
is of a run that was there, and ahead of all rewards before it, so that no key is applied twice; who
is told of a receipt is told of the one that was stored for his key; and the rewards applied are what
is added to the balance. -/
structure Books (newest : Nat) (first : RewardedProfile O) (tr : List (RewardAction O × RewardReply))
    (s : RewardStore O) : Prop where
  generations : (generations tr).Pairwise fun later earlier => earlier < later
  after : ∀ generation ∈ RewardStore.generations tr, newest < generation
  runs : ∀ credit ∈ credits tr, ∃ generation ∈ RewardStore.generations tr,
    credit.2.key.runGeneration = some generation
  ordered : (credits tr).Pairwise fun later earlier => Before earlier.2.key.stamp later.2.key.stamp
  ahead : ∀ credit ∈ credits tr, Before first.stamp credit.2.key.stamp
  keys : ((credits tr).map fun credit => credit.2.key).Nodup
  receipt : s.profile.raceRewardReceipt =
    ((credits tr).head?.map Prod.snd).or first.raceRewardReceipt
  answers : ∀ recipient key reward receipt changed,
    (.apply recipient key reward, .answered (.ok receipt) changed) ∈ tr →
      receipt.key = key ∧
        (first.raceRewardReceipt = some receipt ∨ ∃ credit ∈ credits tr, credit.2 = receipt)
  applied : ∀ credit ∈ credits tr, credit.2.applied.earnedRp = credit.1.earnedRp ∧
    credit.2.applied.earnedLucci = credit.1.earnedLucci ∧ credit.2.applied.currentRp = defaultRp
  lucci : (∀ edit reply, (.edit edit, reply) ∈ tr →
      ∀ profile, (edit.change profile).lucci = profile.lucci) →
    s.profile.lucci = balance first.lucci (credits tr)

/-- What the books are kept by. -/
structure Kept (newest : Nat) (first : RewardedProfile O) (tr : List (RewardAction O × RewardReply))
    (s : RewardStore O) : Prop extends Books newest first tr s where
  newest_le : newest ≤ s.newest
  bound : ∀ generation ∈ RewardStore.generations tr, generation ≤ s.newest
  lease : ∀ generation, s.lease = some generation → generation ∈ RewardStore.generations tr

variable {root storeId} {newest : Nat} {first : RewardedProfile O} {s : RewardStore O}
  {tr : List (RewardAction O × RewardReply)}

theorem Kept.start : Kept newest first [] ⟨newest, none, first⟩ where
  generations := .nil
  after := nofun
  runs := nofun
  ordered := .nil
  ahead := nofun
  keys := .nil
  receipt := rfl
  answers := nofun
  applied := nofun
  lucci _ := rfl
  newest_le := Nat.le_refl _
  bound := nofun
  lease := nofun

/-- What is stored was there from the first, or was applied. -/
theorem Books.stored (h : Books newest first tr s) {stored : PersistedRaceRewardReceipt}
    (hstored : s.profile.raceRewardReceipt = some stored) :
    first.raceRewardReceipt = some stored ∨ ∃ credit ∈ credits tr, credit.2 = stored := by
  have hreceipt := h.receipt
  rw [hstored] at hreceipt
  cases hcredits : credits tr with
  | nil =>
    rw [hcredits] at hreceipt
    exact .inl hreceipt.symm
  | cons credit earlier =>
    rw [hcredits] at hreceipt
    cases hreceipt
    exact .inr ⟨credit, List.mem_cons_self, rfl⟩

/-- An entry that is no credit leaves the books of the rewards as they are; an answer tells what is
stored for its key. -/
theorem Kept.plain (h : Kept newest first tr s) {entry : RewardAction O × RewardReply}
    {s' : RewardStore O} (hcredit : creditOf entry = none) (hgeneration : generationOf entry = none)
    (hanswer : ∀ recipient key reward receipt changed,
      entry = (.apply recipient key reward, .answered (.ok receipt) changed) →
        receipt.key = key ∧ s.profile.raceRewardReceipt = some receipt)
    (hnewest : s'.newest = s.newest)
    (hlease : ∀ generation, s'.lease = some generation → s.lease = some generation)
    (hreceipt : s'.profile.raceRewardReceipt = s.profile.raceRewardReceipt)
    (hlucci : (∀ edit reply, entry = (.edit edit, reply) →
      ∀ profile, (edit.change profile).lucci = profile.lucci) →
        s'.profile.lucci = s.profile.lucci) : Kept newest first (entry :: tr) s' := by
  have hcredits : credits (entry :: tr) = credits tr := List.filterMap_cons_none hcredit
  have hgenerations : RewardStore.generations (entry :: tr) = RewardStore.generations tr :=
    List.filterMap_cons_none hgeneration
  refine ⟨⟨?_, ?_, ?_, ?_, ?_, ?_, ?_, ?_, ?_, ?_⟩, ?_, ?_, ?_⟩
  · rw [hgenerations]
    exact h.generations
  · rw [hgenerations]
    exact h.after
  · rw [hcredits, hgenerations]
    exact h.runs
  · rw [hcredits]
    exact h.ordered
  · rw [hcredits]
    exact h.ahead
  · rw [hcredits]
    exact h.keys
  · rw [hcredits, hreceipt]
    exact h.receipt
  · intro recipient key reward receipt changed hmem
    rw [hcredits]
    rcases List.mem_cons.mp hmem with heq | hmem
    · obtain ⟨hkey, hstored⟩ := hanswer recipient key reward receipt changed heq.symm
      exact ⟨hkey, h.stored hstored⟩
    · exact h.answers recipient key reward receipt changed hmem
  · rw [hcredits]
    exact h.applied
  · intro hedits
    rw [hcredits, ← h.lucci fun edit reply hmem => hedits edit reply (List.mem_cons_of_mem _ hmem)]
    exact hlucci fun edit reply heq => hedits edit reply (heq ▸ List.mem_cons_self)
  · rw [hnewest]
    exact h.newest_le
  · rw [hgenerations, hnewest]
    exact h.bound
  · intro generation hsome
    rw [hgenerations]
    exact h.lease generation (hlease generation hsome)

theorem Kept.acquire (h : Kept newest first tr s) :
    Kept newest first ((.acquire, .acquired (s.newest + 1)) :: tr)
      { s with newest := s.newest + 1, lease := some (s.newest + 1) } where
  generations := List.pairwise_cons.mpr
    ⟨fun generation hmem => Nat.lt_succ_of_le (h.bound generation hmem), h.generations⟩
  after generation hmem := by
    rcases List.mem_cons.mp hmem with rfl | hmem
    · exact Nat.lt_succ_of_le h.newest_le
    · exact h.after generation hmem
  runs credit hmem := by
    obtain ⟨generation, hgeneration, hkey⟩ := h.runs credit hmem
    exact ⟨generation, List.mem_cons_of_mem _ hgeneration, hkey⟩
  ordered := h.ordered
  ahead := h.ahead
  keys := h.keys
  receipt := h.receipt
  answers recipient key reward receipt changed hmem := by
    rcases List.mem_cons.mp hmem with heq | hmem
    · cases heq
    · exact h.answers recipient key reward receipt changed hmem
  applied := h.applied
  lucci hedits := h.lucci fun edit reply hmem => hedits edit reply (List.mem_cons_of_mem _ hmem)
  newest_le := Nat.le_succ_of_le h.newest_le
  bound generation hmem := by
    rcases List.mem_cons.mp hmem with rfl | hmem
    · exact Nat.le_refl _
    · exact Nat.le_succ_of_le (h.bound generation hmem)
  lease generation hsome := by
    cases hsome
    exact List.mem_cons_self

/-- The stored stamp is that of the last reward. -/
theorem Books.stamp (h : Books newest first tr s) :
    (credits tr = [] ∧ s.profile.stamp = first.stamp) ∨
      ∃ credit earlier, credits tr = credit :: earlier ∧ s.profile.stamp = credit.2.key.stamp := by
  have hreceipt := h.receipt
  cases hcredits : credits tr with
  | nil =>
    rw [hcredits] at hreceipt
    refine .inl ⟨rfl, ?_⟩
    unfold RewardedProfile.stamp
    rw [hreceipt]
    rfl
  | cons credit earlier =>
    rw [hcredits] at hreceipt
    refine .inr ⟨credit, earlier, rfl, ?_⟩
    unfold RewardedProfile.stamp
    rw [hreceipt]
    rfl

/-- A reward that is ahead of the stored one is ahead of all. -/
theorem Books.before (h : Books newest first tr s) {stamp : Option (Nat × Nat)}
    (hstamp : Before s.profile.stamp stamp) :
    Before first.stamp stamp ∧ ∀ credit ∈ credits tr, Before credit.2.key.stamp stamp := by
  rcases h.stamp with ⟨hnil, heq⟩ | ⟨last, earlier, hcons, heq⟩
  · rw [heq] at hstamp
    refine ⟨hstamp, fun credit hmem => ?_⟩
    rw [hnil] at hmem
    cases hmem
  · rw [heq] at hstamp
    have hahead := h.ahead
    have hordered := h.ordered
    rw [hcons] at hahead hordered
    refine ⟨(hahead last List.mem_cons_self).trans hstamp, fun credit hmem => ?_⟩
    rw [hcons] at hmem
    rcases List.mem_cons.mp hmem with rfl | hmem
    · exact hstamp
    · exact ((List.pairwise_cons.mp hordered).1 credit hmem).trans hstamp

theorem Kept.credit (h : Kept newest first tr s) {generation : Nat} (hlease : s.lease = some generation)
    (recipient : RaceRewardRecipient) {key : RaceRewardKey} (reward : TimeReward)
    (hgeneration : key.runGeneration = some generation) (hstamp : Before s.profile.stamp key.stamp) :
    Kept newest first
      ((.apply recipient key reward, .answered (.ok ⟨key, (applyTimeReward s.profile reward).2⟩) true)
        :: tr)
      { s with profile := credited key reward s.profile } := by
  obtain ⟨hfirst, hall⟩ := h.before hstamp
  refine ⟨⟨h.generations, h.after, ?_, ?_, ?_, ?_, rfl, ?_, ?_, ?_⟩, h.newest_le, h.bound, h.lease⟩
  · intro credit hmem
    rcases List.mem_cons.mp hmem with rfl | hmem
    · exact ⟨generation, h.lease generation hlease, hgeneration⟩
    · exact h.runs credit hmem
  · exact List.pairwise_cons.mpr ⟨hall, h.ordered⟩
  · intro credit hmem
    rcases List.mem_cons.mp hmem with rfl | hmem
    · exact hfirst
    · exact h.ahead credit hmem
  · refine List.nodup_cons.mpr ⟨fun hmem => ?_, h.keys⟩
    -- a key that was applied before would be ahead of itself
    obtain ⟨credit, hcredit, heq⟩ := List.mem_map.mp hmem
    have hbefore := hall credit hcredit
    rw [show credit.2.key = key from heq] at hbefore
    exact Before.irrefl _ hbefore
  · intro recipient' key' reward' receipt changed hmem
    rcases List.mem_cons.mp hmem with heq | hmem
    · cases heq
      exact ⟨rfl, .inr ⟨_, List.mem_cons_self, rfl⟩⟩
    · obtain ⟨hkey, hknown⟩ := h.answers recipient' key' reward' receipt changed hmem
      refine ⟨hkey, hknown.imp_right fun ⟨credit, hcredit, heq⟩ => ?_⟩
      exact ⟨credit, List.mem_cons_of_mem _ hcredit, heq⟩
  · intro credit hmem
    rcases List.mem_cons.mp hmem with rfl | hmem
    · exact ⟨rfl, rfl, rfl⟩
    · exact h.applied credit hmem
  · intro hedits
    show s.profile.lucci + reward.earnedLucci = balance first.lucci (credits tr) + reward.earnedLucci
    rw [h.lucci fun edit reply hmem => hedits edit reply (List.mem_cons_of_mem _ hmem)]

theorem Kept.step (h : Kept newest first tr s) {action : RewardAction O} {reply : RewardReply}
    {s' : RewardStore O} (hs : s.step root storeId action = some (reply, s')) :
    Kept newest first ((action, reply) :: tr) s' := by
  cases action with
  | acquire =>
    unfold RewardStore.step at hs
    dsimp only at hs
    split at hs
    · cases hs
      exact h.acquire
    · cases hs
  | release =>
    cases hs
    exact h.plain rfl rfl nofun rfl nofun rfl fun _ => rfl
  | edit edit =>
    cases hs
    exact h.plain rfl rfl nofun rfl (fun _ hlease => hlease) (edit.keeps s.profile)
      fun hlucci => hlucci edit _ rfl s.profile
  | apply recipient key reward =>
    unfold RewardStore.step at hs
    dsimp only at hs
    obtain ⟨generation, hlease, heq⟩ := Option.map_eq_some_iff.mp hs
    have hcases := attempted_apply ⟨generation, storeId, root⟩ recipient key reward s.profile
    generalize applyRaceRewardOnce ⟨generation, storeId, root⟩ recipient key reward s.profile = result
      at heq hcases
    cases hcases with
    | credits hgeneration hstamp =>
      cases heq
      exact h.credit hlease recipient reward hgeneration hstamp
    | repeats stored hstored hkey =>
      cases heq
      refine h.plain rfl rfl (fun _ _ _ receipt _ hanswer => ?_) rfl (fun _ hlease => hlease) rfl
        fun _ => rfl
      cases hanswer
      exact ⟨hkey, hstored⟩
    | refuses e =>
      cases heq
      exact h.plain rfl rfl nofun rfl (fun _ hlease => hlease) rfl fun _ => rfl

/-- **Each reward once.** Over any runs of the server on one profile store, and any attempts in them,
repeated, late or refused, the books of a profile are kept. -/
theorem rewards_once (h : (machine root storeId newest first).History tr s) :
    Books newest first tr s := by
  have hkept : Kept newest first tr s := by
    refine h.invariant (P := fun tr s => Kept newest first tr s) .start ?_
    intro tr s s' action reply _ hkept hs
    exact hkept.step hs
  exact hkept.toBooks

/-! ## Two runs of the server

One crash lies between them. -/

theorem sampleReward_rp : (10 : UInt32) ≤ maxTimeRewardRpRoll := by decide

theorem sampleReward_lucci : (300 : UInt32) ≤ maxTimeRewardLucciRoll := by decide

def sampleReward : TimeReward := ⟨10, 300, sampleReward_rp, sampleReward_lucci⟩

def sampleRecipient (generation : Nat) : RaceRewardRecipient :=
  ⟨['r'], ⟨[1]⟩, generation, ['a'], ['a'], 1⟩

def sampleKey (generation raceEpoch : Nat) : RaceRewardKey :=
  ⟨.current generation ⟨[1]⟩ ['a'], 1, raceEpoch, 1⟩

def sampleAttempt (generation raceEpoch : Nat) : RewardAction Unit :=
  .apply (sampleRecipient generation) (sampleKey generation raceEpoch) sampleReward

/-- A race and its retry, a later race, and the first one once more; then a crash, the key of the
first run again, and a race of the second run. -/
def sampleAttempts : List (RewardAction Unit) :=
  [.acquire, sampleAttempt 1 1, sampleAttempt 1 1, sampleAttempt 1 2, sampleAttempt 1 1, .release,
    .acquire, sampleAttempt 1 2, sampleAttempt 2 1]

abbrev sampleRewards := machine ['r'] ⟨[1]⟩ 0 (⟨0, 1000, none, ()⟩ : RewardedProfile Unit)

theorem sampleAttempts_run :
    (sampleRewards.exec sampleRewards.init [] sampleAttempts).isSome = true := by
  decide +kernel

def sampleBooks : List (RewardAction Unit × RewardReply) × RewardStore Unit :=
  (sampleRewards.exec sampleRewards.init [] sampleAttempts).get sampleAttempts_run

theorem sampleBooks_history : sampleRewards.History sampleBooks.1 sampleBooks.2 :=
  Machine.history_of_exec sampleAttempts .init (Option.some_get sampleAttempts_run).symm

/-- Three of the six attempts are applied. -/
theorem sampleBooks_kept :
    generations sampleBooks.1 = [2, 1] ∧
      (credits sampleBooks.1).map (fun credit => credit.2.key) =
        [sampleKey 2 1, sampleKey 1 2, sampleKey 1 1] ∧
      sampleBooks.2.profile.lucci = 1900 ∧
      Books 0 ⟨0, 1000, none, ()⟩ sampleBooks.1 sampleBooks.2 :=
  ⟨by decide +kernel, by decide +kernel, by decide +kernel, rewards_once sampleBooks_history⟩

end RewardStore

/-! ## Under interleaving -/

/-- An attempt of one run of the server, past the checks that need no profile. -/
structure Attempt (lease : RaceRunLease) where
  recipient : RaceRewardRecipient
  key : RaceRewardKey
  proposedReward : TimeReward
  valid : validateAttemptedRecipient lease recipient key = .ok ()

/-- The transaction of an attempt; its key is one of the run. -/
def Attempt.call {lease : RaceRunLease} (attempt : Attempt lease) :
    ProfileCall (RewardedProfile O) (Except RaceRewardPersistenceError PersistedRaceRewardReceipt) :=
  ⟨fun _ profile _ => rewardMutation attempt.recipient attempt.key lease.generation
    attempt.proposedReward profile⟩

/-- What the transaction publishes is what the attempt comes to. -/
theorem Attempt.applies {lease : RaceRunLease} (attempt : Attempt lease)
    {profile next : RewardedProfile O}
    {answer : Except RaceRewardPersistenceError PersistedRaceRewardReceipt} {n : Nat}
    {source : Option Nat} (h : attempt.call.transaction n profile source = .changed answer next) :
    applyRaceRewardOnce lease attempt.recipient attempt.key attempt.proposedReward profile =
      (answer, some next) := by
  unfold applyRaceRewardOnce
  rw [attempt.valid, runGeneration_of_attempted attempt.valid]
  dsimp only
  have hmutation : rewardMutation attempt.recipient attempt.key lease.generation
      attempt.proposedReward profile = .changed answer next := h
  rw [hmutation]

/-- Only a reward that is applied is published. -/
theorem Attempt.credited_of_changed {lease : RaceRunLease} (attempt : Attempt lease)
    {profile next : RewardedProfile O}
    {answer : Except RaceRewardPersistenceError PersistedRaceRewardReceipt} {n : Nat}
    {source : Option Nat} (h : attempt.call.transaction n profile source = .changed answer next) :
    ∃ receipt, answer = .ok receipt := by
  have happlies := attempt.applies h
  have hcases := attempted_apply lease attempt.recipient attempt.key attempt.proposedReward profile
  rw [happlies] at hcases
  cases hcases
  exact ⟨_, rfl⟩

/-- **The store refines the books.** The attempts of one run of the server, in any number of
processes and at any steps of theirs, leave the profile as some of them do one after another, each
credited once for each revision that was published. -/
theorem Store.rewards_serial {lease : RaceRunLease} (hlease : 0 < lease.generation)
    (hmaximum : lease.generation ≤ maxRevision) (attempts : Nat → Attempt lease)
    (process : Nat → Nat) {format : ProfileFormat (RewardedProfile O)} {d : Directory}
    {first : Snapshot (RewardedProfile O)} (hfirst : format.loadOrDefault d = .ok first)
    {tr : List ((Nat × Bool) × Option (Publication (RewardedProfile O)))}
    {s : Store (RewardedProfile O) (Except RaceRewardPersistenceError PersistedRaceRewardReceipt)}
    (h : (Store.machine format ⟨fun i => (attempts i).call, process⟩ d).History tr s)
    (htimely : ∀ p ∈ Store.published tr, p.head < p.revision + SaveStage.slack) :
    ∃ books store, (RewardStore.machine lease.root lease.storeId (lease.generation - 1)
        first.profile).History books store ∧
      store.profile = (first.after (Store.published tr)).profile ∧
      (RewardStore.credits books).length = (Store.published tr).length := by
  have hregister := Store.atomic_register hfirst h htimely
  have hmade : ∀ p ∈ Store.published tr, ∃ i n source answer,
      (attempts i).call.transaction n p.input source = .changed answer p.output := by
    intro p hp
    obtain ⟨⟨⟨i, fault⟩, published⟩, hmem, heq⟩ := List.mem_filterMap.mp hp
    obtain rfl : published = some p := heq
    obtain ⟨n, source, answer, htransaction⟩ := hregister.2.1 i fault p hmem
    exact ⟨i, n, source, answer, htransaction⟩
  suffices hall : ∀ publications, Sequential d.revisions.top first publications →
      (∀ p ∈ publications, ∃ i n source answer,
        (attempts i).call.transaction n p.input source = .changed answer p.output) →
      ∃ books newest, (RewardStore.machine lease.root lease.storeId (lease.generation - 1)
          first.profile).History books ⟨newest, some lease.generation,
            (first.after publications).profile⟩ ∧
        (RewardStore.credits books).length = publications.length by
    obtain ⟨books, newest, hbooks, hlength⟩ := hall _ hregister.1 hmade
    exact ⟨books, _, hbooks, rfl, hlength⟩
  intro publications
  induction publications with
  | nil =>
    intro _ _
    have hacquire : (RewardStore.machine lease.root lease.storeId (lease.generation - 1)
        first.profile).step ⟨lease.generation - 1, none, first.profile⟩ .acquire =
        some (.acquired lease.generation, ⟨lease.generation, some lease.generation,
          first.profile⟩) := by
      show (if _ then some (RewardReply.acquired (lease.generation - 1 + 1), _) else none) = _
      have hnext : lease.generation - 1 < maxRevision := by omega
      rw [if_pos ⟨rfl, hnext⟩, Nat.sub_add_cancel hlease]
    exact ⟨_, _, .step .init hacquire, rfl⟩
  | cons p earlier ih =>
    intro hpublished hmade
    obtain ⟨-, hinput, hsequential⟩ := hpublished
    obtain ⟨books, newest, hbooks, hlength⟩ :=
      ih hsequential fun q hq => hmade q (List.mem_cons_of_mem _ hq)
    obtain ⟨i, n, source, answer, htransaction⟩ := hmade p List.mem_cons_self
    rw [hinput] at htransaction
    obtain ⟨receipt, rfl⟩ := (attempts i).credited_of_changed htransaction
    have hstep : (RewardStore.machine lease.root lease.storeId (lease.generation - 1)
        first.profile).step ⟨newest, some lease.generation, (first.after earlier).profile⟩
        (.apply (attempts i).recipient (attempts i).key (attempts i).proposedReward) =
        some (.answered (.ok receipt) true, ⟨newest, some lease.generation, p.output⟩) := by
      show some (RewardReply.answered _ _, _) = _
      rw [(attempts i).applies htransaction]
      rfl
    refine ⟨_, _, .step hbooks hstep, ?_⟩
    show (RewardStore.credits books).length + 1 = _
    rw [hlength]
    rfl

end P4475.Profile
