import P4475.Identity.Types

/-!
# The operation gate

`IdentityOperationGate`: a count of admitted operations and a state word that
is open, frozen by one transfer, or retired. The actor is the only task that
admits, freezes, reopens or retires; other tasks hold leases, retain children
and drop them. Each gate operation below is the effect of the source's
compare-and-swap sequence when it runs between two such steps.
-/

namespace P4475

/-- The shared words of a gate. `Notify` only wakes waiters and is left out. -/
structure IdentityOperationGate where
  activatedUdpEpoch : Nat
  activeOperations : Nat
  state : Nat
  deriving DecidableEq

namespace IdentityOperationGate

/-- `OPEN`. -/
def open_ : Nat := 0

/-- `RETIRED`. -/
def retired : Nat := u64Max

/-- `shared`. -/
def shared (activatedUdpEpoch : Nat) : IdentityOperationGate :=
  ⟨activatedUdpEpoch, 0, open_⟩

/-- `increment`. -/
def increment (gate : IdentityOperationGate) : Except IdentityError IdentityOperationGate :=
  if gate.activeOperations + 1 ≤ u64Max then
    .ok { gate with activeOperations := gate.activeOperations + 1 }
  else .error .operationCountExhausted

/-- `release`: the count saturates at zero. -/
def release (gate : IdentityOperationGate) : IdentityOperationGate :=
  { gate with activeOperations := gate.activeOperations - 1 }

/-- The admission test of `try_admit`, made before and after the increment. -/
def admissionOpen (gate : IdentityOperationGate) : Except IdentityError Unit :=
  if gate.state = open_ then .ok ()
  else if gate.state = retired then .error .operationGenerationRetired
  else .error .operationAdmissionClosed

/-- `try_admit`, returning the gate that the caller's lease counts against. -/
def tryAdmit (gate : IdentityOperationGate) : Except IdentityError IdentityOperationGate :=
  match gate.admissionOpen with
  | .error e => .error e
  | .ok _ =>
    match gate.increment with
    | .error e => .error e
    | .ok admitted =>
      match admitted.admissionOpen with
      | .error e => .error e
      | .ok _ => .ok admitted

/-- `try_retain`. -/
def tryRetain (gate : IdentityOperationGate) : Except IdentityError IdentityOperationGate :=
  if gate.state = retired then .error .operationGenerationRetired
  else
    match gate.increment with
    | .error e => .error e
    | .ok retained =>
      if retained.state = retired then .error .operationGenerationRetired
      else .ok retained

/-- `freeze`. -/
def freeze (gate : IdentityOperationGate) (transferId : MigrationTransferId) :
    Bool × IdentityOperationGate :=
  if gate.state = open_ then (true, { gate with state := transferId.get }) else (false, gate)

/-- `reopen_exact`. -/
def reopenExact (gate : IdentityOperationGate) (transferId : MigrationTransferId) :
    Bool × IdentityOperationGate :=
  if gate.state = transferId.get then (true, { gate with state := open_ }) else (false, gate)

/-- `is_frozen_by`. -/
def isFrozenBy (gate : IdentityOperationGate) (transferId : MigrationTransferId) : Bool :=
  gate.state = transferId.get

/-- `is_drained`. -/
def isDrained (gate : IdentityOperationGate) : Bool := gate.activeOperations = 0

/-- `retire_exact`. -/
def retireExact (gate : IdentityOperationGate) (transferId : MigrationTransferId) :
    Bool × IdentityOperationGate :=
  if gate.isDrained = false then (false, gate)
  else if gate.state = transferId.get then (true, { gate with state := retired })
  else (false, gate)

/-- `retire_drained`. -/
def retireDrained (gate : IdentityOperationGate) : Bool × IdentityOperationGate :=
  if gate.isDrained = false then (false, gate)
  else (gate.isDrained, { gate with state := retired })

/-- A gate a transfer holds shut: frozen, and neither open nor retired. -/
def FrozenBy (gate : IdentityOperationGate) (transferId : MigrationTransferId) : Prop :=
  gate.state = transferId.get ∧ gate.state ≠ open_ ∧ gate.state ≠ retired

/-! ## What each operation can do -/

theorem tryAdmit_ok {gate gate' : IdentityOperationGate} (h : gate.tryAdmit = .ok gate') :
    gate.state = open_ ∧
      gate' = { gate with activeOperations := gate.activeOperations + 1 } := by
  unfold tryAdmit admissionOpen increment at h
  by_cases hs : gate.state = open_
  · by_cases hc : gate.activeOperations + 1 ≤ u64Max
    · simp only [hs, hc, if_true, Except.ok.injEq] at h
      exact ⟨hs, by rw [← h, hs]⟩
    · simp [hs, hc] at h
  · by_cases hr : gate.state = retired
    · simp [hr, show (retired = open_) ↔ False from by decide] at h
    · simp [hs, hr] at h

theorem tryRetain_ok {gate gate' : IdentityOperationGate} (h : gate.tryRetain = .ok gate') :
    gate.state ≠ retired ∧
      gate' = { gate with activeOperations := gate.activeOperations + 1 } := by
  unfold tryRetain increment at h
  by_cases hr : gate.state = retired
  · simp [hr] at h
  · by_cases hc : gate.activeOperations + 1 ≤ u64Max
    · simp only [hr, hc, if_true, if_false, Except.ok.injEq] at h
      exact ⟨hr, h.symm⟩
    · simp [hr, hc] at h

theorem retireDrained_eq (gate : IdentityOperationGate) :
    gate.retireDrained =
      if gate.activeOperations = 0 then (true, { gate with state := retired })
      else (false, gate) := by
  unfold retireDrained isDrained
  by_cases h : gate.activeOperations = 0 <;> simp [h]

theorem retireExact_eq (gate : IdentityOperationGate) (t : MigrationTransferId) :
    gate.retireExact t =
      if gate.activeOperations = 0 ∧ gate.state = t.get then
        (true, { gate with state := retired })
      else (false, gate) := by
  unfold retireExact isDrained
  by_cases h : gate.activeOperations = 0 <;> by_cases hs : gate.state = t.get <;> simp [h, hs]

end IdentityOperationGate

end P4475
