import P4475.Lib.Outcome
import P4475.Lib.Versions

/-!
# The profile store

The directory of one nickname holds immutable profile revisions, at most one legacy file, and
the temporaries of writers. A load lists the revisions and returns the newest one that reads
as a profile; only a file that is too large or does not parse is passed over. JSON is a
parameter, and a file is its bytes.

Processes share a directory without a lock, so a call is a program counter, and one step of it
touches the directory once: it lists it, looks at one name, removes or writes one file, or makes
one hard link. Between two steps of a call any other call may take any number of steps. `fault`
says whether the file system refuses the step; a refused step changes nothing.
-/

namespace P4475.Profile

open Lib

def maxProfileDirectoryEntries : Nat := 4096

def maxProfileRevisions : Nat := 1024

def profileRevisionRetention : Nat := 64

/-- The last number of a `u64` counter. -/
def maxRevision : Nat := 18446744073709551615

/-- `serde_json` for a profile, and the limits of a store. -/
structure ProfileFormat (P : Type) where
  serialize : P → List UInt8
  parse : List UInt8 → Option P
  default : P
  maximumBytes : Nat
  /-- What is written, with its newline, is read back. -/
  parse_serialize : ∀ profile, parse (serialize profile ++ [10]) = some profile

inductive ProfileFile
  | version (revision : Nat)
  | legacy
  deriving DecidableEq, Repr

inductive ProfileStoreError
  | io (operation : String)
  | json (file : ProfileFile)
  | profileTooLarge (file : ProfileFile) (length maximum : Nat)
  | revisionExhausted
  | transactionContention (attempts : Nat)
  | temporaryFileContention (attempts : Nat)
  | directoryEntryLimitExceeded (maximum : Nat)
  | profileRevisionLimitExceeded (maximum : Nat)
  | committedButDurabilityUncertain (revision : Nat)
  deriving DecidableEq, Repr

/-- A load passes over a revision only for these. -/
def ProfileStoreError.isCorruption : ProfileStoreError → Bool
  | .json _ => true
  | .profileTooLarge .. => true
  | _ => false

/-- `.{destination}.{process id}.{sequence}.tmp` -/
structure TemporaryName where
  destination : Nat
  process : Nat
  sequence : Nat
  deriving DecidableEq, Repr

/-- The directory of one nickname. The entries that no modelled step touches are counted. -/
structure Directory where
  revisions : Versions (List UInt8)
  temporaries : List (TemporaryName × List UInt8)
  legacy : Option (List UInt8)
  others : Nat

/-- What a load returns: the profile, the revision it stands in if it is from one, the highest
revision there was, and the corrupt ones above the source. -/
structure Snapshot (P : Type) where
  profile : P
  revision : Option Nat
  headRevision : Option Nat
  recoveredRevisions : List Nat

namespace Directory

variable (d : Directory)

def names : List TemporaryName := d.temporaries.map Prod.fst

def entries : Nat :=
  d.revisions.numbers.length + d.temporaries.length + (if d.legacy.isSome then 1 else 0) + d.others

def removeTemporary (name : TemporaryName) : Directory :=
  { d with temporaries := d.temporaries.filter fun temporary => temporary.1 ≠ name }

def createTemporary (name : TemporaryName) : Directory :=
  { d with temporaries := (name, []) :: d.temporaries }

def fillTemporary (name : TemporaryName) (bytes : List UInt8) : Directory :=
  { d with temporaries := d.temporaries.map fun temporary =>
      if temporary.1 = name then (name, bytes) else temporary }

def temporary? (name : TemporaryName) : Option (List UInt8) :=
  (d.temporaries.find? fun temporary => temporary.1 = name).map Prod.snd

def removeRevision (revision : Nat) : Directory :=
  { d with revisions := d.revisions.erase revision }

/-- The second pass of `revisions_descending`, over a directory it has cleaned. -/
def revisionsDescending : Except ProfileStoreError (List Nat) := do
  check (d.entries ≤ maxProfileDirectoryEntries)
    (.directoryEntryLimitExceeded maxProfileDirectoryEntries)
  check (d.revisions.numbers.length ≤ maxProfileRevisions)
    (.profileRevisionLimitExceeded maxProfileRevisions)
  return d.revisions.numbers

/-- `cleanup_published_temporary_files`: no temporary whose destination exists stays. -/
def cleanupPublishedTemporaries : Directory :=
  { d with temporaries := d.temporaries.filter fun temporary =>
      temporary.1.destination ∉ d.revisions.numbers }

end Directory

variable {P : Type}

namespace ProfileFormat

variable (format : ProfileFormat P)

/-- The bytes of a profile, if the store takes so many. -/
def encode (file : ProfileFile) (profile : P) : Except ProfileStoreError (List UInt8) := do
  let bytes := format.serialize profile ++ [10]
  check (bytes.length ≤ format.maximumBytes)
    (.profileTooLarge file bytes.length format.maximumBytes)
  return bytes

def decode (file : ProfileFile) (bytes : List UInt8) : Except ProfileStoreError P := do
  check (bytes.length ≤ format.maximumBytes)
    (.profileTooLarge file bytes.length format.maximumBytes)
  okOr (.json file) (format.parse bytes)

/-- `read_profile` of a revision. -/
def readRevision (d : Directory) (revision : Nat) : Except ProfileStoreError P := do
  let bytes ← okOr (.io "open profile") (d.revisions.lookup revision)
  format.decode (.version revision) bytes

/-- What a load remembers of the revisions it has read: the highest number there was, those it
has passed over, and why the first of them. -/
structure LoadProgress where
  head : Option Nat
  recovered : List Nat
  firstCorruption : Option ProfileStoreError

def LoadProgress.start (numbers : List Nat) : LoadProgress := ⟨numbers.head?, [], none⟩

def LoadProgress.pass (progress : LoadProgress) (revision : Nat) (e : ProfileStoreError) :
    LoadProgress :=
  { head := progress.head
    recovered := progress.recovered ++ [revision]
    firstCorruption := progress.firstCorruption.or (some e) }

/-- No revision is left to read: the legacy file, or else the default, but only if nothing was
passed over. -/
def readLegacy (d : Directory) (progress : LoadProgress) :
    Except ProfileStoreError (Snapshot P) :=
  match d.legacy with
  | some bytes => do
    let profile ← format.decode .legacy bytes
    return ⟨profile, none, progress.head, progress.recovered⟩
  | none =>
    match progress.firstCorruption with
    | some e => .error e
    | none => .ok ⟨format.default, none, progress.head, progress.recovered⟩

/-- Read the listed revisions, highest first. -/
def readNewest (d : Directory) : List Nat → LoadProgress → Except ProfileStoreError (Snapshot P)
  | [], progress => format.readLegacy d progress
  | revision :: rest, progress =>
    match format.readRevision d revision with
    | .ok profile => .ok ⟨profile, some revision, progress.head, progress.recovered⟩
    | .error e =>
      if e.isCorruption then readNewest d rest (progress.pass revision e) else .error e

/-- `load_or_default_from_disk`, in a directory that stands still. -/
def loadOrDefault (d : Directory) : Except ProfileStoreError (Snapshot P) := do
  check (d.entries ≤ maxProfileDirectoryEntries)
    (.directoryEntryLimitExceeded maxProfileDirectoryEntries)
  let numbers ← d.cleanupPublishedTemporaries.revisionsDescending
  format.readNewest d numbers (.start numbers)

end ProfileFormat

/-! ## What a load finds -/

/-- The revision is there, and a load passes over it. -/
def Directory.Corrupt (d : Directory) (format : ProfileFormat P) (revision : Nat) : Prop :=
  ∃ e, format.readRevision d revision = .error e ∧ e.isCorruption

/-- The snapshot is that of the newest revision that reads as a profile, or of what stands in
for one. -/
structure Snapshot.Current (format : ProfileFormat P) (d : Directory) (snapshot : Snapshot P) :
    Prop where
  head : snapshot.headRevision = d.revisions.newest
  /-- Everything above the source is corrupt. -/
  above : ∀ n ∈ d.revisions.numbers, (∀ r, snapshot.revision = some r → r < n) → d.Corrupt format n
  source : ∀ r, snapshot.revision = some r → format.readRevision d r = .ok snapshot.profile
  /-- Without a source among the revisions: the legacy file, or the default of an empty
  directory. -/
  behind : snapshot.revision = none →
    (∃ bytes, d.legacy = some bytes ∧ format.decode .legacy bytes = .ok snapshot.profile) ∨
    (d.legacy = none ∧ d.revisions.numbers = [] ∧ snapshot.profile = format.default)

/-! ## Calls, step by step -/

def maxTemporaryFileAttempts : Nat := 128

def maxTransactionCasAttempts : Nat := 16

variable {V : Type}

/-! ## `revisions_descending` -/

/-- The cleanup of published temporaries, then the listing. The cleanup sees no more than
`maxProfileDirectoryEntries` entries, and fails if there are more. -/
inductive ListStage
  | sweeping
  | inspecting (rest : List TemporaryName) (removed overflow : Bool)
  | removing (temporary : TemporaryName) (rest : List TemporaryName) (removed overflow : Bool)
  | listing
  | listed (result : Except ProfileStoreError (List Nat))

def ListStage.step (fault : Bool) (d : Directory) : ListStage → Directory × ListStage
  | .sweeping =>
    if fault then (d, .listed (.error (.io "list temporary immutable files")))
    else (d, .inspecting (d.names.take maxProfileDirectoryEntries) false
      (maxProfileDirectoryEntries < d.entries))
  | .inspecting [] removed overflow =>
    if overflow then
      (d, .listed (.error (.directoryEntryLimitExceeded maxProfileDirectoryEntries)))
    else if removed && fault then
      (d, .listed (.error (.io "sync published temporary immutable file cleanup")))
    else (d, .listing)
  | .inspecting (temporary :: rest) removed overflow =>
    if fault then (d, .listed (.error (.io "inspect temporary immutable file destination")))
    else if temporary.destination ∈ d.revisions.numbers then
      (d, .removing temporary rest removed overflow)
    else (d, .inspecting rest removed overflow)
  | .removing temporary rest removed overflow =>
    if fault then (d, .listed (.error (.io "clean published temporary immutable file")))
    else (d.removeTemporary temporary,
      .inspecting rest (removed || temporary ∈ d.names) overflow)
  | .listing =>
    if fault then (d, .listed (.error (.io "list profile revisions")))
    else (d, .listed d.revisionsDescending)
  | .listed result => (d, .listed result)

/-! ## `load_or_default_from_disk` -/

inductive LoadStage (P : Type)
  | listing (stage : ListStage)
  | reading (rest : List Nat) (progress : ProfileFormat.LoadProgress)
  | loaded (result : Except ProfileStoreError (Snapshot P))

/-- Once the revisions are listed, the load reads them. -/
def LoadStage.ofList : ListStage → LoadStage P
  | .listed (.ok numbers) => .reading numbers (.start numbers)
  | .listed (.error e) => .loaded (.error e)
  | stage => .listing stage

def LoadStage.step (format : ProfileFormat P) (fault : Bool) (d : Directory) :
    LoadStage P → Directory × LoadStage P
  | .listing stage => ((stage.step fault d).1, .ofList (stage.step fault d).2)
  | .reading rest progress =>
    if fault then (d, .loaded (.error (.io "open profile")))
    else
      match rest with
      | [] => (d, .loaded (format.readLegacy d progress))
      | revision :: rest =>
        match format.readRevision d revision with
        | .ok profile =>
          (d, .loaded (.ok ⟨profile, some revision, progress.head, progress.recovered⟩))
        | .error e =>
          if e.isCorruption then (d, .reading rest (progress.pass revision e))
          else (d, .loaded (.error e))
  | .loaded result => (d, .loaded result)

/-! ## `save_compare_and_swap_locked` -/

/-- `precompact_profile_revisions`: what is removed of the listed revisions before the new one
is published. The newest stay, and the protected one, and one slot is left free. -/
def precompactProfileRevisions (revisions : List Nat) (protectedSource : Option Nat) : List Nat :=
  let oldRevisionSlots := profileRevisionRetention - 1
  let protectedPosition := protectedSource.bind fun revision => revisions.findIdx? (· = revision)
  let newestSlots :=
    if protectedPosition.any fun position => oldRevisionSlots ≤ position then oldRevisionSlots - 1
    else oldRevisionSlots
  (revisions.drop newestSlots).filter fun revision => some revision ≠ protectedSource

/-- What is to be published, and over which head. -/
structure SaveRequest where
  revision : Nat
  bytes : List UInt8
  expectedHead : Option Nat
  protectedSource : Option Nat

/-- The number after the head, unless there is none. -/
def nextRevision : Option Nat → Except ProfileStoreError Nat
  | none => .ok 1
  | some revision => if revision < maxRevision then .ok (revision + 1) else .error .revisionExhausted

/-- The checks of a save before it touches the directory. -/
def SaveRequest.prepare (format : ProfileFormat P) (profile : P)
    (expectedHead protectedSource : Option Nat) : Except ProfileStoreError SaveRequest := do
  let revision ← nextRevision expectedHead
  let bytes ← format.encode (.version revision) profile
  return ⟨revision, bytes, expectedHead, protectedSource⟩

inductive PublishOutcome
  | published (revision : Nat) (durable : Bool)
  | destinationExists
  deriving DecidableEq, Repr

inductive SaveStage
  | writing (attempts : Nat)
  | filling (name : TemporaryName)
  | listing (name : TemporaryName) (stage : ListStage)
  | compacting (name : TemporaryName) (rest : List Nat) (changed : Bool)
  | linking (name : TemporaryName)
  /-- The link was refused; it may be that another writer made it. -/
  | rechecking (name : TemporaryName)
  | published (name : TemporaryName)
  | syncing
  /-- The temporary is removed, whether or not that works, and the save is over. -/
  | discarding (name : TemporaryName) (outcome : Except ProfileStoreError PublishOutcome)
  | saved (outcome : Except ProfileStoreError PublishOutcome)

/-- After the second listing the save goes on only over the head it expects. -/
def SaveStage.ofList (request : SaveRequest) (name : TemporaryName) : ListStage → SaveStage
  | .listed (.ok revisions) =>
    if revisions.head? ≠ request.expectedHead then .discarding name (.ok .destinationExists)
    else .compacting name (precompactProfileRevisions revisions request.protectedSource) false
  | .listed (.error e) => .saved (.error e)
  | stage => .listing name stage

/-- One step of a save, by the process `process`, whose next temporary is number `sequence`. -/
def SaveStage.step (request : SaveRequest) (process sequence : Nat) (fault : Bool) (d : Directory) :
    SaveStage → Directory × SaveStage
  | .writing attempts =>
    let name : TemporaryName := ⟨request.revision, process, sequence⟩
    if attempts ≥ maxTemporaryFileAttempts then
      (d, .saved (.error (.temporaryFileContention maxTemporaryFileAttempts)))
    else if fault then (d, .discarding name (.error (.io "write temporary immutable file")))
    else if name ∈ d.names then (d, .writing (attempts + 1))
    else (d.createTemporary name, .filling name)
  | .filling name =>
    if fault then (d, .discarding name (.error (.io "write temporary immutable file")))
    else (d.fillTemporary name request.bytes, .listing name .sweeping)
  | .listing name stage => ((stage.step fault d).1, .ofList request name (stage.step fault d).2)
  | .compacting name [] changed =>
    if changed && fault then
      (d, .discarding name (.error (.io "sync pre-compacted immutable profile revisions")))
    else (d, .linking name)
  | .compacting name (revision :: rest) _ =>
    if fault then
      (d, .discarding name (.error (.io "pre-compact immutable profile revision")))
    else (d.removeRevision revision, .compacting name rest true)
  | .linking name =>
    if fault then (d, .rechecking name)
    else
      match d.temporary? name with
      | none => (d, .rechecking name)
      | some bytes =>
        if h : 0 < request.revision then
          match d.revisions.create request.revision bytes h with
          | none => (d, .discarding name (.ok .destinationExists))
          | some revisions => ({ d with revisions }, .published name)
        else (d, .rechecking name)
  | .rechecking name =>
    if !fault && request.revision ∈ d.revisions.numbers then
      (d, .discarding name (.ok .destinationExists))
    else (d, .discarding name (.error (.io "publish profile revision")))
  | .published name => (if fault then d else d.removeTemporary name, .syncing)
  | .syncing => (d, .saved (.ok (.published request.revision (!fault))))
  | .discarding name outcome => (if fault then d else d.removeTemporary name, .saved outcome)
  | .saved outcome => (d, .saved outcome)

/-! ## `transaction_with_snapshot_locked` -/

/-- What the caller's closure makes of a snapshot. -/
inductive ProfileMutation (P V : Type)
  | unchanged (value : V)
  | changed (value : V) (profile : P)
  /-- The closure itself fails, and the transaction with it. -/
  | failed (value : V)

/-- The closure may answer differently each time it is called. A save is the transaction that
always answers with its own profile. -/
structure ProfileCall (P V : Type) where
  transaction : Nat → P → Option Nat → ProfileMutation P V

def ProfileCall.save (value : V) (profile : P) : ProfileCall P V :=
  ⟨fun _ _ _ => .changed value profile⟩

inductive Report (P V : Type)
  | unchanged (value : V) (profile : P) (saved : Option Nat)
  | committed (value : V) (profile : P) (saved : Nat)
  | committedButDurabilityUncertain (value : V) (profile : P) (saved : Nat)
  | rejected (value : V)
  | failed (error : ProfileStoreError)

inductive TransactionStage (P V : Type)
  | loading (attempt : Nat) (stage : LoadStage P)
  | saving (attempt : Nat) (snapshot : Snapshot P) (value : V) (profile : P)
      (request : SaveRequest) (stage : SaveStage)
  | confirming (value : V) (snapshot : Snapshot P)
  | finished (report : Report P V)

namespace TransactionStage

/-- The next attempt, while there is one. -/
def retry (attempt : Nat) : TransactionStage P V :=
  if attempt + 1 < maxTransactionCasAttempts then .loading (attempt + 1) (.listing .sweeping)
  else .finished (.failed (.transactionContention maxTransactionCasAttempts))

/-- The closure is asked as soon as the snapshot is loaded. -/
def ofLoad (format : ProfileFormat P) (call : ProfileCall P V) (attempt : Nat) :
    LoadStage P → TransactionStage P V
  | .loaded (.error e) => .finished (.failed e)
  | .loaded (.ok snapshot) =>
    match call.transaction attempt snapshot.profile snapshot.revision with
    | .unchanged value => .confirming value snapshot
    | .failed value => .finished (.rejected value)
    | .changed value profile =>
      match SaveRequest.prepare format profile snapshot.headRevision snapshot.revision with
      | .error e => .finished (.failed e)
      | .ok request => .saving attempt snapshot value profile request (.writing 0)
  | stage => .loading attempt stage

def ofSave (attempt : Nat) (snapshot : Snapshot P) (value : V) (profile : P)
    (request : SaveRequest) : SaveStage → TransactionStage P V
  | .saved (.error e) => .finished (.failed e)
  | .saved (.ok (.published revision true)) => .finished (.committed value profile revision)
  | .saved (.ok (.published revision false)) =>
    .finished (.committedButDurabilityUncertain value profile revision)
  | .saved (.ok .destinationExists) => retry attempt
  | stage => .saving attempt snapshot value profile request stage

def step (format : ProfileFormat P) (call : ProfileCall P V) (process sequence : Nat)
    (fault : Bool) (d : Directory) : TransactionStage P V → Directory × TransactionStage P V
  | .loading attempt stage =>
    ((stage.step format fault d).1, ofLoad format call attempt (stage.step format fault d).2)
  | .saving attempt snapshot value profile request stage =>
    let next := stage.step request process sequence fault d
    (next.1, ofSave attempt snapshot value profile request next.2)
  | .confirming value snapshot =>
    -- a snapshot that is from no revision has nothing to confirm
    match snapshot.revision, fault with
    | some revision, true =>
      (d, .finished (.committedButDurabilityUncertain value snapshot.profile revision))
    | saved, _ => (d, .finished (.unchanged value snapshot.profile saved))
  | .finished report => (d, .finished report)

def start : TransactionStage P V := .loading 0 (.listing .sweeping)

end TransactionStage

end P4475.Profile
