/-
# The deployment driver's receipt ledger

A driver request that changes a tenant is guarded by a receipt under its
workshop, action and idempotency key. This module states what the handler accepts
and the statements it runs on one receipt: the insert that admits a new request,
the read that answers a repeated one, and the update that records a result.
-/

import ControlPlane.Math.Json
import ControlPlane.Domain.Basic

namespace ControlPlane.Driver

open Domain Math

/-! ## Errors and actions -/

/-- The statuses the driver answers an error with. -/
inductive StatusCode
  | badRequest
  | unauthorized
  | forbidden
  | notFound
  | conflict
  | payloadTooLarge
  | unprocessableEntity
  | serviceUnavailable
  deriving DecidableEq

def StatusCode.asU16 : StatusCode → Nat
  | .badRequest => 400
  | .unauthorized => 401
  | .forbidden => 403
  | .notFound => 404
  | .conflict => 409
  | .payloadTooLarge => 413
  | .unprocessableEntity => 422
  | .serviceUnavailable => 503

def StatusCode.isClientError (status : StatusCode) : Bool :=
  decide (400 ≤ status.asU16) && decide (status.asU16 < 500)

structure DriverError where
  status : StatusCode
  message : String
  deriving DecidableEq

namespace DriverError

def bad (message : String) : DriverError := ⟨.badRequest, message⟩

/-- Every failed statement is reported as an unavailable backend. -/
def internal : DriverError := ⟨.serviceUnavailable, "deployment backend unavailable"⟩

def leaseNotCurrent : DriverError :=
  ⟨.serviceUnavailable, "control operation lease is no longer current"⟩

end DriverError

/-- What a handler sends back. -/
abbrev Response := Except DriverError Json

/-- The actions of the tenant endpoint. -/
inductive DriverAction
  | provision
  | reconcile
  | lifecycle
  | rehearse
  | download
  | release
  | erasure
  | restrict
  | carrierSecret
  | carrierSecretDelete
  | routeProject
  | routeMaintenanceEnter
  | routeMaintenanceExit
  deriving DecidableEq

def DriverAction.parse : String → Option DriverAction
  | "provision" => some .provision
  | "reconcile" => some .reconcile
  | "lifecycle" => some .lifecycle
  | "rehearse" => some .rehearse
  | "download" => some .download
  | "release" => some .release
  | "erasure" => some .erasure
  | "restrict" => some .restrict
  | "carrier-secret" => some .carrierSecret
  | "carrier-secret-delete" => some .carrierSecretDelete
  | "route-project" => some .routeProject
  | "route-maintenance-enter" => some .routeMaintenanceEnter
  | "route-maintenance-exit" => some .routeMaintenanceExit
  | _ => none

/-- The actions admitted by `admit_driver_operation`; the others have ledgers of
their own or none. -/
def DriverAction.usesGenericLedger : DriverAction → Bool
  | .download | .release | .routeProject | .routeMaintenanceEnter | .routeMaintenanceExit =>
    false
  | _ => true

/-! ## What the handler accepts -/

/-- A header is absent, not readable as text, or a text. -/
inductive HeaderValue
  | absent
  | unreadable
  | text (value : String)
  deriving DecidableEq

def HeaderValue.toStr : HeaderValue → Option String
  | .text value => some value
  | _ => none

structure TenantHeaders where
  (authorization idempotencyKey controlOperationId controlOperationAttempt : HeaderValue)
  controlOperationLeaseOwner : HeaderValue
  deriving DecidableEq

/-- The authority of a control operation's current attempt. -/
structure ControlOperationLease where
  id : Uuid
  attempt : Nat
  owner : String
  deriving DecidableEq

/-- What the driver process is configured with, and the two functions it takes
from libraries: the digest of a payload and the parser of identifiers. -/
structure DriverConfig where
  token : String
  digest : Json → String
  parseUuid : String → Option Uuid

/-- A positive number that fits the attempt's 32-bit type. -/
def parseAttempt (text : String) : Option Nat :=
  let digits :=
    match text.toList with
    | '+' :: rest => rest
    | all => all
  if digits ≠ [] ∧ digits.all Char.isDigit = true then
    let value := digits.foldl (fun total digit => total * 10 + (digit.toNat - '0'.toNat)) 0
    if 0 < value ∧ value < 2 ^ 31 then some value else none
  else none

def leaseHeader (header : HeaderValue) : Except DriverError String :=
  match header.toStr with
  | some value =>
    if value ≠ "" ∧ value.utf8ByteSize ≤ 200 then .ok value
    else .error (.bad "release operation lease headers are required")
  | none => .error (.bad "release operation lease headers are required")

def releaseControlOperation (config : DriverConfig) (headers : TenantHeaders) :
    Except DriverError ControlOperationLease := do
  let idText ← leaseHeader headers.controlOperationId
  let id ←
    match config.parseUuid idText with
    | some id => pure id
    | none => throw (.bad "release operation id is invalid")
  let attemptText ← leaseHeader headers.controlOperationAttempt
  let attempt ←
    match parseAttempt attemptText with
    | some attempt => pure attempt
    | none => throw (.bad "release operation attempt is invalid")
  let owner ← leaseHeader headers.controlOperationLeaseOwner
  return ⟨id, attempt, owner⟩

def optionalControlOperation (config : DriverConfig) (headers : TenantHeaders) :
    Except DriverError (Option ControlOperationLease) :=
  match headers.controlOperationAttempt, headers.controlOperationLeaseOwner with
  | .absent, .absent => .ok none
  | .absent, _ | _, .absent =>
    .error (.bad "operation attempt and lease owner headers must be supplied together")
  | _, _ => (releaseControlOperation config headers).map some

/-- A request on the generic ledger path, after its headers were read. -/
structure TenantRequest where
  workshop : Uuid
  action : DriverAction
  idempotencyKey : String
  payload : Json
  lease : Option ControlOperationLease
  deriving DecidableEq

def idempotencyKeyHeader (header : HeaderValue) : Except DriverError String :=
  match header with
  | .text value =>
    if value ≠ "" ∧ value.utf8ByteSize ≤ 180 then .ok value
    else .error (.bad "idempotency-key is required")
  | _ => .error (.bad "idempotency-key is required")

/-- The checks of `tenant` before its first statement. -/
def acceptTenantRequest (config : DriverConfig) (headers : TenantHeaders) (workshop : Uuid)
    (action : String) (payload : Json) : Except DriverError TenantRequest :=
  if headers.authorization.toStr ≠ some ("Bearer " ++ config.token) then
    .error ⟨.unauthorized, "unauthorized"⟩
  else
    match DriverAction.parse action with
    | none => .error ⟨.notFound, "unknown action"⟩
    | some action =>
      match idempotencyKeyHeader headers.idempotencyKey with
      | .error error => .error error
      | .ok idempotencyKey =>
        match optionalControlOperation config headers with
        | .error error => .error error
        | .ok lease => .ok ⟨workshop, action, idempotencyKey, payload, lease⟩

/-- An accepted request carries the path, the key header and the payload it came with. -/
theorem acceptTenantRequest_spec {config : DriverConfig} {headers : TenantHeaders}
    {workshop : Uuid} {action : String} {payload : Json} {body : TenantRequest}
    (h : acceptTenantRequest config headers workshop action payload = .ok body) :
    body.workshop = workshop ∧ DriverAction.parse action = some body.action ∧
      headers.idempotencyKey = .text body.idempotencyKey ∧ body.payload = payload := by
  unfold acceptTenantRequest at h
  split at h
  · cases h
  split at h
  · cases h
  rename_i parsed hparsed
  split at h
  · cases h
  rename_i key hkey
  split at h
  · cases h
  cases h
  refine ⟨rfl, hparsed, ?_, rfl⟩
  unfold idempotencyKeyHeader at hkey
  split at hkey
  · split at hkey <;> cases hkey
    assumption
  · cases hkey

/-! ## Receipts -/

/-- The reasons a receipt stores. -/
inductive SafeError
  | runtimeOutcomeUnknown
  | requestRejected
  | controlOperationLeaseLost
  deriving DecidableEq

/-- A stored response exists exactly for a succeeded receipt. -/
inductive ReceiptState
  | inProgress
  | succeeded (response : Json)
  | failed
  deriving DecidableEq

def ReceiptState.isSucceeded : ReceiptState → Bool
  | .succeeded _ => true
  | .inProgress | .failed => false

structure Receipt where
  requestDigest : String
  state : ReceiptState
  safeError : Option SafeError
  deriving DecidableEq

/-- The unique scope of a receipt. -/
structure ReceiptKey where
  workshop : Uuid
  action : DriverAction
  idempotencyKey : String
  deriving DecidableEq

def TenantRequest.key (request : TenantRequest) : ReceiptKey :=
  ⟨request.workshop, request.action, request.idempotencyKey⟩

/-- The row `insert .. on conflict do nothing` leaves under the key. -/
def insertReceipt (requestDigest : String) : Option Receipt → Receipt
  | none => ⟨requestDigest, .inProgress, none⟩
  | some receipt => receipt

/-- The answer for a receipt that was there before: the stored response of a
success, or the error the receipt's state stands for. -/
def readReceipt (requestDigest : String) (receipt : Receipt) : Response :=
  if receipt.requestDigest ≠ requestDigest then
    .error ⟨.conflict, "idempotency key reused with different payload"⟩
  else
    match receipt.state with
    | .succeeded response => .ok response
    | .inProgress =>
      if receipt.safeError = some .runtimeOutcomeUnknown then
        .error ⟨.serviceUnavailable, "operation outcome requires reconciliation before retry"⟩
      else .error ⟨.conflict, "operation is already in progress"⟩
    | .failed => .error ⟨.unprocessableEntity, "idempotent operation previously failed"⟩

/-- The update of a receipt that is still in progress; any other row is lost scope. -/
def finishDriverOperation (state : ReceiptState) (safeError : Option SafeError) :
    Option Receipt → Except DriverError Receipt
  | some ⟨requestDigest, .inProgress, _⟩ => .ok ⟨requestDigest, state, safeError⟩
  | _ => .error .internal

/-- The state and reason the handler records for the effect's result. Only a
client error is a definitive rejection. -/
def recordedResult : Response → ReceiptState × Option SafeError
  | .ok value => (.succeeded value, none)
  | .error error =>
    if error.status.isClientError then (.failed, some .requestRejected)
    else (.inProgress, some .runtimeOutcomeUnknown)

end ControlPlane.Driver
