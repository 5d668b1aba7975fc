import P4475.Lib.Fallible
import P4475.Lib.Keyed

/-!
# Equipment sidecars

A sidecar is a JSON file of records for one rider. A call reads it whole, changes one record
and writes it whole: to a temporary file, which is then renamed over the old one. The model
keeps the records instead of the text; `SidecarIo` says what the file system and the JSON
library answer during one call, and only the rename changes the file.
-/

namespace P4475.Profile

open Lib

def maxEquipmentStateBytes : Nat := 16 * 1024 * 1024

def maxEquipmentRecords : Nat := 65535

/-- `i16::checked_add`. -/
def checkedAdd (a b : Int) : Option Int :=
  if -32768 ≤ a + b ∧ a + b ≤ 32767 then some (a + b) else none

/-- `i16::checked_sub`. -/
def checkedSub (a b : Int) : Option Int := checkedAdd a (-b)

theorem checkedAdd_of_range {a b : Int} (hlow : -32768 ≤ a + b) (hhigh : a + b ≤ 32767) :
    checkedAdd a b = some (a + b) := if_pos ⟨hlow, hhigh⟩

/-- A kart without a serial has serial 1. -/
def normalizeKartSerial (id serial : Int) : Int := if id ≠ 0 ∧ serial = 0 then 1 else serial

theorem normalizeKartSerial_idem (id serial : Int) :
    normalizeKartSerial id (normalizeKartSerial id serial) = normalizeKartSerial id serial := by
  unfold normalizeKartSerial
  by_cases h : id ≠ 0 ∧ serial = 0
  · rw [if_pos h, if_neg (by omega)]
  · rw [if_neg h, if_neg h]

inductive EquipmentStateError
  | io (operation path : String)
  | tooLarge (path : String) (actual maximum : Nat)
  | invalidStorageEntry (path : String)
  | json (path : String)
  | tooManyRecords (kind : String) (maximum : Nat)
  | invalidKartLevelKart (id : Int)
  | invalidKartLevelPoint (slot : Nat) (value : Int)
  | kartLevelPointBudgetExceeded (allocated : Int)
  | invalidKartLevelRemainingPoints (points : Int)
  | kartLevelPointOverflow
  | invalidFloaterKart (id : Int)
  | invalidFloaterSelector (selector : Int)
  | invalidFloaterCode (code : Int)
  | duplicateFloaterCode (code : Int)
  | invalidFloaterProtectionKind (kind : Int)
  | invalidFloaterProtectionSlot (slot : Int)
  | invalidFloaterProtectionCount (count : Int)
  | missingFloaterState (kartId kartSerial : Int)
  | floaterCodePoolExhausted (selector : Int)
  | floaterSlotsFull
  | emptyFloaterProtectionSlot (slot : Int)
  | duplicateFloaterProtectionSlot (slot : Int)
  deriving DecidableEq, Repr

/-- The records of the file, if it is there. -/
abbrev SidecarFile (α : Type) := Option (List α)

/-- What a call finds: how its read fails, how long the records are as JSON, whether the
temporary file is written and renamed, and whether the directory is synced at last. -/
structure SidecarIo (α : Type) where
  read : Except EquipmentStateError Unit
  serialized : List α → Except EquipmentStateError Nat
  temporary : Except EquipmentStateError Unit
  rename : Except EquipmentStateError Unit
  sync : Except EquipmentStateError Unit

structure EquipmentMutationOutcome (β : Type) where
  value : β
  durabilityWarning : Option EquipmentStateError
  deriving DecidableEq

/-- `Result::err`. -/
def syncWarning : Except EquipmentStateError Unit → Option EquipmentStateError
  | .error e => some e
  | .ok () => none

section Files

variable {α β : Type} (io : SidecarIo α)

/-- A computation of one call. -/
abbrev SidecarCall (α β : Type) := Fallible (SidecarFile α) EquipmentStateError β

def readOptionalBounded : SidecarCall α (SidecarFile α) := do
  liftResult io.read
  get

def writeEquipmentStates (path : String) (states : List α) :
    SidecarCall α (Option EquipmentStateError) := do
  let length ← liftResult (io.serialized states)
  ensure (length ≤ maxEquipmentStateBytes) (.tooLarge path length maxEquipmentStateBytes)
  liftResult io.temporary
  liftResult io.rename
  set (some states)
  return syncWarning io.sync

variable {io} {file file' : SidecarFile α}

theorem yields_read_bind {f : SidecarFile α → SidecarCall α β} {b : β}
    (h : Yields (readOptionalBounded io >>= f) file b file') : Yields (f file) file b file' := by
  obtain ⟨read, middle, hread, hrest⟩ := yields_bind.mp h
  obtain ⟨_, _, hget⟩ := yields_liftResult_bind.mp hread
  obtain ⟨rfl, rfl⟩ := yields_get.mp hget
  exact hrest

/-- What is written is what the file then holds. -/
theorem yields_write {path : String} {states : List α} {warning : Option EquipmentStateError}
    (h : Yields (writeEquipmentStates io path states) file warning file') :
    file' = some states := by
  unfold writeEquipmentStates at h
  obtain ⟨_, _, h⟩ := yields_liftResult_bind.mp h
  obtain ⟨_, h⟩ := yields_ensure_bind.mp h
  obtain ⟨_, _, h⟩ := yields_liftResult_bind.mp h
  obtain ⟨_, _, h⟩ := yields_liftResult_bind.mp h
  have hset := yields_set_bind.mp h
  exact (yields_pure.mp hset).2

theorem readsOnly_read : ReadsOnly (readOptionalBounded io) := by
  intro file
  unfold readOptionalBounded
  cases io.read <;> rfl

/-- Up to the rename a failure leaves the file alone, and from there nothing fails. -/
theorem atomic_write (path : String) (states : List α) :
    Atomic (writeEquipmentStates io path states) := by
  unfold writeEquipmentStates
  refine (readsOnly_liftResult _).bind fun length => (readsOnly_ensure _ _).bind fun _ => ?_
  refine (readsOnly_liftResult _).bind fun _ => (readsOnly_liftResult _).bind fun _ => ?_
  exact ((succeeds_set _).bind fun _ => succeeds_pure _).atomic

end Files

/-! ## Tables of records -/

/-- What a loader returns: records that each pass `P`, with keys of their own, and not too
many of them. -/
structure Table {α κ : Type} [DecidableEq κ] (key : α → κ) (P : α → Prop) (states : List α) :
    Prop where
  each : ∀ state ∈ states, P state
  keyed : Keyed key states
  room : states.length ≤ maxEquipmentRecords

section Tables

variable {α κ : Type} [DecidableEq κ] {key : α → κ} {P : α → Prop} {states : List α}

theorem Table.nil : Table key P [] :=
  ⟨fun _ h => absurd h List.not_mem_nil, List.nodup_nil, Nat.zero_le _⟩

theorem table_deduplicateLast (h : ∀ state ∈ states, P state)
    (hroom : states.length ≤ maxEquipmentRecords) : Table key P (deduplicateLast key states) :=
  ⟨fun state hm => h state (mem_deduplicateLast hm), keyed_deduplicateLast states,
    Nat.le_trans (length_deduplicateLast_le key states) hroom⟩

/-- A record goes into its place: a new one only where there is room for one more. -/
theorem Table.upsert (h : Table key P states) {next : α} (hnext : P next)
    (hroom : key next ∉ states.map key → states.length < maxEquipmentRecords) :
    Table key P (upsert key states next) := by
  refine ⟨fun state hm => ?_, h.keyed.upsert next, ?_⟩
  · rcases mem_upsert hm with rfl | hm
    · exact hnext
    · exact h.each state hm
  · by_cases hmem : key next ∈ states.map key
    · rw [length_upsert_of_mem hmem]
      exact h.room
    · have hlength := length_upsert_le key states next
      have hlt := hroom hmem
      omega

end Tables

end P4475.Profile
