/-
# The durable operation store

The rows of the operations table and the five statements that workers run on
them: lease, renew, checkpoint, lock and finish. Each statement is one guarded
update under a row lock. The table's checks tie the lease columns to the
in-flight state, so the lease is stored inside that state and a row cannot be
leased in any other.
-/

import ControlPlane.Math.Json
import ControlPlane.Math.Table
import ControlPlane.Domain.Basic
import Mathlib.Data.List.MinMax
import Mathlib.Data.Prod.Lex

namespace ControlPlane.Persistence

open Domain Math

/-- The owner of an in-flight row and the moment its lease runs out. -/
structure Lease where
  leasedBy : String
  expiresAt : Timestamp
  deriving DecidableEq

inductive OperationState
  | pending
  | inFlight (lease : Lease)
  | awaitingReconciliation
  | succeeded
  | deadLetter
  deriving DecidableEq

/-- No statement takes a row out of these states. -/
def OperationState.terminal : OperationState → Bool
  | .succeeded | .deadLetter => true
  | _ => false

/-- A row of the operations table without the columns only `enqueue` reads. -/
structure OperationRow where
  kind : OperationKind
  queue : Queue
  (workshopId targetUserId : Option Uuid)
  desiredEpoch : Option Nat
  payload : Json
  state : OperationState
  (attempt maxAttempts : Nat)
  (nextAttemptAt createdAt : Timestamp)
  failureClass : Option String
  finishedAt : Option Timestamp
  progressPercent : Nat
  (progressPhase progressMessage : Option String)
  progressUpdatedAt : Option Timestamp
  checkpoint : Option Json
  (traceParent traceState : Option String)
  deriving DecidableEq

abbrev Operations := Table Uuid OperationRow

/-- The row `enqueue` inserts: the kind's own queue and the column defaults. -/
def OperationRow.enqueued (kind : OperationKind) (workshopId targetUserId : Option Uuid)
    (desiredEpoch : Option Nat) (payload : Json) (now : Timestamp) : OperationRow where
  kind := kind
  queue := kind.queue
  workshopId := workshopId
  targetUserId := targetUserId
  desiredEpoch := desiredEpoch
  payload := payload
  state := .pending
  attempt := 0
  maxAttempts := 12
  nextAttemptAt := now
  createdAt := now
  failureClass := none
  finishedAt := none
  progressPercent := 0
  progressPhase := none
  progressMessage := none
  progressUpdatedAt := none
  checkpoint := none
  traceParent := none
  traceState := none

/-- What `lease` hands to a worker: the authority to act as one attempt. -/
structure LeasedOperation where
  id : Uuid
  kind : OperationKind
  (workshopId targetUserId : Option Uuid)
  desiredEpoch : Option Nat
  payload : Json
  (attempt maxAttempts : Nat)
  leasedBy : String
  reconciling : Bool
  (traceParent traceState : Option String)
  deriving DecidableEq

inductive OperationOutcome
  | succeeded
  | retry (error : IntegrationError)
  | failed (error : IntegrationError)
  | unknown
  deriving DecidableEq

/-- Why a statement reports an error; the table is unchanged in every case. -/
inductive StoreError
  | database
  | checkpointNotPersisted
  | leaseWasLost
  deriving DecidableEq

/-- The largest value of the `attempt` column's integer type. -/
def integerMax : Nat := 2147483647

namespace OperationRow

variable (row : OperationRow) (now : Timestamp)

/-- The guard of renew, checkpoint, lock and finish: the row is in flight for
exactly this worker and attempt, and the lease has not run out. -/
def heldBy (worker : String) (attempt : Nat) : Bool :=
  match row.state with
  | .inFlight lease =>
    decide (lease.leasedBy = worker) && decide (row.attempt = attempt) &&
      decide (now < lease.expiresAt)
  | _ => false

/-- The rows a worker of `queue` may lease now. -/
def leasable (queue : Queue) : Bool :=
  decide (row.queue = queue) &&
    match row.state with
    | .pending | .awaitingReconciliation => decide (row.nextAttemptAt ≤ now)
    | .inFlight lease => decide (lease.expiresAt < now)
    | .succeeded | .deadLetter => false

/-- The row after it was leased at `now`. -/
def leaseTo (worker : String) : OperationRow :=
  { row with
    state := .inFlight ⟨worker, now + seconds 60⟩
    attempt := row.attempt + 1 }

def renewed : OperationRow :=
  match row.state with
  | .inFlight lease => { row with state := .inFlight { lease with expiresAt := now + seconds 60 } }
  | _ => row

def withCheckpoint (row : OperationRow) (checkpoint : Json) : OperationRow :=
  { row with checkpoint := some checkpoint }

/-- The handle returned with a lease of this row. -/
def handle (row : OperationRow) (id : Uuid) (worker : String) : LeasedOperation where
  id := id
  kind := row.kind
  workshopId := row.workshopId
  targetUserId := row.targetUserId
  desiredEpoch := row.desiredEpoch
  payload := row.payload
  attempt := row.attempt + 1
  maxAttempts := row.maxAttempts
  leasedBy := worker
  -- A pending row starts fresh work; the other two states may have left effects.
  reconciling :=
    match row.state with
    | .inFlight _ | .awaitingReconciliation => true
    | _ => false
  traceParent := row.traceParent
  traceState := row.traceState

end OperationRow

/-- Seconds before the next attempt: five doubling up to fifteen minutes. -/
def retryDelay (attempt : Nat) : Nat :=
  min (5 * 2 ^ min (attempt - 1) 8) 900

/-- A wait that is no `i64` is left out. -/
def effectiveRetryDelay (attempt : Nat) (error : IntegrationError) : Nat :=
  let wait := (error.retryAfter.filter fun seconds => decide (seconds < 2 ^ 63)).getD 0
  max (retryDelay attempt) (min wait 3600)

/-- The columns `finish` writes for an outcome. -/
structure FinishColumns where
  state : OperationState
  failure : Option String
  delay : Nat
  finished : Bool

def finishColumns (operation : LeasedOperation) : OperationOutcome → FinishColumns
  | .succeeded => ⟨.succeeded, none, 0, true⟩
  | .unknown =>
    ⟨.awaitingReconciliation, some "unknown_outcome", retryDelay operation.attempt, false⟩
  | .retry error =>
    if operation.attempt < operation.maxAttempts then
      ⟨.pending, some error.failureClass, effectiveRetryDelay operation.attempt error, false⟩
    else ⟨.deadLetter, some error.failureClass, 0, true⟩
  | .failed error => ⟨.deadLetter, some error.failureClass, 0, true⟩

/-- The row after `finish` wrote `columns` at `now`. -/
def OperationRow.finish (row : OperationRow) (now : Timestamp) (columns : FinishColumns) :
    OperationRow :=
  { row with
    state := columns.state
    failureClass := columns.failure
    nextAttemptAt := now + seconds columns.delay
    progressPercent := if columns.state = .succeeded then 100 else row.progressPercent
    progressPhase := if columns.state = .succeeded then some "complete" else row.progressPhase
    progressMessage := if columns.state = .succeeded then some "Complete" else row.progressMessage
    progressUpdatedAt := some now
    finishedAt := if columns.finished then some now else none }

namespace Store

variable (operations : Operations) (now : Timestamp)

/-- The row `lease` picks: the due row of the queue that is first by due time and
creation time among those no other transaction has locked. -/
def leaseCandidate (queue : Queue)
    (locked : Uuid → Bool) : Option (Sigma fun _ : Uuid => OperationRow) :=
  (operations.entries.filter fun entry =>
    entry.2.leasable now queue && !locked entry.1).argmin fun entry =>
      toLex (entry.2.nextAttemptAt, entry.2.createdAt)

def lease (queue : Queue) (worker : String)
    (locked : Uuid → Bool) : Except StoreError (Operations × Option LeasedOperation) :=
  match leaseCandidate operations now queue locked with
  | none => .ok (operations, none)
  | some ⟨id, row⟩ =>
    -- The attempt counter is a 32-bit column; passing its end aborts the statement.
    if row.attempt < integerMax then
      .ok (operations.insert id (row.leaseTo now worker), some (row.handle id worker))
    else .error .database

def renewLease (operationId : Uuid) (worker : String) (attempt : Nat) : Operations × Bool :=
  operations.update operationId (fun row => row.heldBy now worker attempt = true)
    fun row => row.renewed now

def saveOperationCheckpoint
    (operation : LeasedOperation) (checkpoint : Json) : Except StoreError Operations :=
  let (changed, affected) := operations.update operation.id
    (fun row => row.heldBy now operation.leasedBy operation.attempt = true ∧ row.checkpoint = none)
    fun row => row.withCheckpoint checkpoint
  if affected then
    -- The column only admits objects; the check aborts the statement otherwise.
    if checkpoint.asObject.isSome then .ok changed else .error .database
  else .error .checkpointNotPersisted

/-- `for update` takes the row lock and changes nothing. -/
def lockCurrentOperationLease (operation : LeasedOperation) : Bool :=
  match operations.lookup operation.id with
  | some row => row.heldBy now operation.leasedBy operation.attempt
  | none => false

def finish (operations : Operations) (now : Timestamp) (operation : LeasedOperation)
    (outcome : OperationOutcome) : Except StoreError Operations :=
  let (changed, affected) := operations.update operation.id
    (fun row => row.heldBy now operation.leasedBy operation.attempt = true)
    fun row => row.finish now (finishColumns operation outcome)
  if affected then .ok changed else .error .leaseWasLost

/-! ## What each statement can do to the table -/

variable {operations changed : Operations} {now : Timestamp} {operation : LeasedOperation}

theorem leaseCandidate_spec {queue : Queue} {locked : Uuid → Bool} {id : Uuid} {row : OperationRow}
    (h : leaseCandidate operations now queue locked = some ⟨id, row⟩) :
    operations.lookup id = some row ∧ row.leasable now queue = true := by
  have hmem := List.argmin_mem (Option.mem_def.mpr h)
  rw [List.mem_filter, Bool.and_eq_true] at hmem
  exact ⟨AList.mem_lookup_iff.mpr hmem.1, hmem.2.1⟩

theorem lease_spec {queue : Queue} {worker : String} {locked : Uuid → Bool}
    {granted : Option LeasedOperation}
    (h : lease operations now queue worker locked = .ok (changed, granted)) :
    (changed = operations ∧ granted = none) ∨
      ∃ id row, operations.lookup id = some row ∧ row.leasable now queue = true ∧
        changed = operations.insert id (row.leaseTo now worker) ∧
        granted = some (row.handle id worker) := by
  unfold lease at h
  split at h
  · cases h
    exact Or.inl ⟨rfl, rfl⟩
  rename_i id row hcandidate
  split at h
  · cases h
    obtain ⟨hrow, hleasable⟩ := leaseCandidate_spec hcandidate
    exact Or.inr ⟨id, row, hrow, hleasable, rfl, rfl⟩
  · cases h

theorem saveOperationCheckpoint_spec {checkpoint : Json}
    (h : saveOperationCheckpoint operations now operation checkpoint = .ok changed) :
    ∃ row, operations.lookup operation.id = some row ∧
      row.heldBy now operation.leasedBy operation.attempt = true ∧
      row.checkpoint = none ∧
      changed = operations.insert operation.id (row.withCheckpoint checkpoint) := by
  unfold saveOperationCheckpoint at h
  rcases Table.update_cases operations operation.id
      (fun row => row.heldBy now operation.leasedBy operation.attempt = true ∧
        row.checkpoint = none) (fun row => row.withCheckpoint checkpoint)
    with hnone | ⟨row, hrow, ⟨hheld, hempty⟩, hsome⟩
  · simp [hnone] at h
  · simp only [hsome, if_true] at h
    split at h
    · cases h
      exact ⟨row, hrow, hheld, hempty, rfl⟩
    · cases h

theorem finish_spec {outcome : OperationOutcome}
    (h : finish operations now operation outcome = .ok changed) :
    ∃ row, operations.lookup operation.id = some row ∧
      row.heldBy now operation.leasedBy operation.attempt = true ∧
      changed = operations.insert operation.id
        (row.finish now (finishColumns operation outcome)) := by
  unfold finish at h
  rcases Table.update_cases operations operation.id
      (fun row => row.heldBy now operation.leasedBy operation.attempt = true)
      (fun row => row.finish now (finishColumns operation outcome))
    with hnone | ⟨row, hrow, hheld, hsome⟩
  · simp [hnone] at h
  · simp only [hsome, if_true] at h
    cases h
    exact ⟨row, hrow, hheld, rfl⟩

end Store

end ControlPlane.Persistence
