/-
# The worker's driver call

A worker attempt sends one request to the deployment driver under the key of its
operation, reads the answer into an error class, and finishes the operation with
the outcome of that class. The worker and the driver classify the same situation
independently, so this module composes the two: the operation queue, the driver's
requests and receipts, and the calls in between, with lost leases, timeouts,
dropped requests and restarts between any two steps.
-/

import ControlPlane.Driver.Results
import ControlPlane.Persistence.Leases
import ControlPlane.Worker.Outcome

namespace ControlPlane.Worker

open Domain Math Persistence Driver

/-! ## Sending and reading -/

def superClassify (status : Nat) : IntegrationError :=
  if status = 400 ∨ status = 409 ∨ status = 422 then .rejected
  else if status = 401 ∨ status = 403 then .unauthorized
  else if status = 404 then .notFound
  else if status = 429 then .rateLimited none
  else if 500 ≤ status ∧ status ≤ 599 then .unavailable
  else .contractDrift

def classifyDriverResponse (action : DriverAction) (status : Nat) (body : Json) :
    IntegrationError :=
  if action = .release ∧ status = 503 ∧
      (body.get "error_code").bind Json.asStr = some "release_reconciliation_inconclusive" then
    .unknownOutcome
  else superClassify status

/-- The body of an error response. -/
def errorBody (error : DriverError) : Json :=
  if error.status = .serviceUnavailable ∧
      error.message = "fleet release forward observation was inconclusive" then
    .object [("error", .string error.message),
      ("error_code", .string "release_reconciliation_inconclusive")]
  else .object [("error", .string error.message)]

/-- How a call can fail without a readable answer. -/
inductive CallFailure
  | timeout
  | transport
  | unreadable
  | unsendable
  deriving DecidableEq

def CallFailure.error : CallFailure → IntegrationError
  | .timeout => .unknownOutcome
  | .transport => .unavailable
  | .unreadable | .unsendable => .contractDrift

def readResponse (action : DriverAction) : Response → Except IntegrationError Json
  | .ok value => .ok value
  | .error error =>
    .error (classifyDriverResponse action error.status.asU16 (errorBody error))

/-- One control operation's driver work: where its requests go, and what the worker
authorises them with. -/
structure DriverTask where
  (operation workshop : Uuid)
  action : DriverAction
  (actionText authorization : String)
  generic : action.usesGenericLedger = true
  parsed : DriverAction.parse actionText = some action

namespace DriverTask

/-- The receipt key all attempts share. -/
def key (task : DriverTask) : ReceiptKey :=
  ⟨task.workshop, task.action, task.operation.toText⟩

def headers (task : DriverTask) (operation : LeasedOperation) : TenantHeaders where
  authorization := .text task.authorization
  idempotencyKey := .text operation.id.toText
  controlOperationId := .text operation.id.toText
  controlOperationAttempt := .text (toString operation.attempt)
  controlOperationLeaseOwner := .text operation.leasedBy

end DriverTask

/-! ## The composed system -/

/-- The driver call of one attempt. -/
inductive Call
  | waiting (request : Nat)
  | returned (result : Except IntegrationError Json)
  | ended

/-- The queue, the driver and the calls of the task's attempts. -/
structure TaskState where
  queue : QueueState
  driver : DriverState
  calls : Table Nat Call

inductive TaskEvent
  | queue (call : QueueCall)
  | driver (event : DriverEvent)
  | send (operation : LeasedOperation) (request process : Nat) (payload : Json)
  | respond (operation : LeasedOperation)
  | fail (operation : LeasedOperation) (failure : CallFailure)
  | cancel (operation : LeasedOperation)
  | finish (operation : LeasedOperation)

/-- The driver's check of a lease against the operations table. -/
def leaseCurrent (queue : QueueState) (workshop : Uuid) (lease : ControlOperationLease) : Bool :=
  match queue.operations.lookup lease.id with
  | some row =>
    decide (row.workshopId = some workshop) && row.heldBy queue.now lease.owner lease.attempt
  | none => false

/-- A lease check is answered from the table unless its statement fails. -/
def answersFromTable (queue : QueueState) (request : Request) : RequestStep → Bool
  | .validateLease (some current) | .recheckLease (some current) =>
    match request.body.lease with
    | some lease => decide (current = leaseCurrent queue request.body.workshop lease)
    | none => false
  | _ => true

/-- Whether the statement finishes the task's own operation. -/
def finishesTask (task : DriverTask) : QueueCall → Bool
  | .finish operation _ => decide (operation.id = task.operation)
  | _ => false

namespace TaskState

/-- The driver steps that are not sent by the task: the progress of any request, and
requests under other keys. -/
def allowsDriver (task : DriverTask) (config : DriverConfig) (s : TaskState) : DriverEvent → Bool
  | .progress id step =>
    match s.driver.requests.lookup id with
    | some request => answersFromTable s.queue request step
    | none => false
  | .receive _ _ headers workshop action payload =>
    match acceptTenantRequest config headers workshop action payload with
    | .ok body => decide (body.key ≠ task.key)
    | .error _ => true

/-- The handle belongs to the task and was granted. -/
def Holds (task : DriverTask) (s : TaskState) (operation : LeasedOperation) : Prop :=
  operation ∈ s.queue.issued ∧ operation.id = task.operation

instance (task : DriverTask) (s : TaskState) (operation : LeasedOperation) :
    Decidable (s.Holds task operation) :=
  inferInstanceAs (Decidable (_ ∧ _))

def setCall (s : TaskState) (operation : LeasedOperation) (call : Call) : TaskState :=
  { s with calls := s.calls.insert operation.attempt call }

def step (task : DriverTask) (config : DriverConfig) (s : TaskState) : TaskEvent → Option TaskState
  | .queue call =>
    if finishesTask task call then none
    else (s.queue.step call).map fun queue => { s with queue := queue }
  | .driver event =>
    if s.allowsDriver task config event then
      (s.driver.step config event).map fun driver => { s with driver := driver }
    else none
  | .send operation request process payload =>
    if s.Holds task operation ∧ s.calls.lookup operation.attempt = none then
      match acceptTenantRequest config (task.headers operation) task.workshop task.actionText
          payload with
      | .error error =>
        some (s.setCall operation (.returned (readResponse task.action (.error error))))
      | .ok _ =>
        (s.driver.step config (.receive request process (task.headers operation)
          task.workshop task.actionText payload)).map fun driver =>
            { s with driver := driver }.setCall operation (.waiting request)
    else none
  | .respond operation =>
    if s.Holds task operation then
      match s.calls.lookup operation.attempt with
      | some (.waiting request) =>
        match (s.driver.requests.lookup request).map Request.stage with
        | some (.answered response) =>
          some (s.setCall operation (.returned (readResponse task.action response)))
        | _ => none
      | _ => none
    else none
  | .fail operation failure =>
    if s.Holds task operation then
      match s.calls.lookup operation.attempt with
      | none | some (.waiting _) =>
        some (s.setCall operation (.returned (.error failure.error)))
      | _ => none
    else none
  | .cancel operation =>
    -- The worker lost its lease; the attempt is dropped without a finish.
    if s.Holds task operation then some (s.setCall operation .ended) else none
  | .finish operation =>
    if s.Holds task operation then
      match s.calls.lookup operation.attempt with
      | some (.returned result) =>
        (s.queue.step (.finish operation
          (operationOutcome (result.map fun _ => ())))).map fun queue =>
            { s with queue := queue }.setCall operation .ended
      | _ => none
    else none

end TaskState

end ControlPlane.Worker
