/-
# The tables of the route authority

The rows that decide over a workshop's route: immutable projections, the desired
and the applied head, the lease of the one driver that may change the route, and
the driver's receipts; and the calls that are made on them. The table checks tie
the columns of a lease to its state, so a phase carries the columns it fills.
-/

import ControlPlane.Persistence.Store
import ControlPlane.Routes.Projection

namespace ControlPlane.Routes

open Domain Driver Math Persistence

/-! ## Tables -/

/-- A projection is named by its generation and its digest. -/
structure RouteTarget where
  generation : Nat
  digest : String
  deriving DecidableEq

structure StoredProjection where
  digest : String
  projection : Json
  disposition : RouteDisposition
  deriving DecidableEq

/-- The projection a workshop's route should show. -/
structure DesiredRoute extends RouteTarget where
  disposition : RouteDisposition
  deriving DecidableEq

/-- The projection a workshop's route was last known to show. -/
structure AppliedRoute extends RouteTarget where
  renderedDigest : String
  driverOperation : Uuid
  fence : Nat
  deriving DecidableEq

/-- A row of the projection state. -/
structure RouteHead where
  desired : Option DesiredRoute
  applied : Option AppliedRoute
  deriving DecidableEq

def RouteHead.empty : RouteHead := ⟨none, none⟩

/-- The driver that may change a workshop's route. -/
structure RouteHolder where
  driverOperation : Uuid
  target : RouteTarget
  (owner token : Uuid)
  expiresAt : Timestamp
  deriving DecidableEq

/-- The states of a route lease with the columns each of them fills. A free lease is
idle, or uninitialized while its first application is outstanding. -/
inductive RoutePhase
  | free
  | held (holder : RouteHolder)
  | maintenance (effectRun : Uuid)
  | quarantined (driverOperation : Option Uuid)
  deriving DecidableEq

/-- A lease is bound to a driver operation while it is held and in quarantine. -/
def RoutePhase.driverOperation : RoutePhase → Option Uuid
  | .held holder => some holder.driverOperation
  | .quarantined driverOperation => driverOperation
  | .free | .maintenance _ => none

structure RouteLease where
  fence : Nat
  initializationRequired : Bool
  phase : RoutePhase
  deriving DecidableEq

/-- The token of a running execution; an ended one has none. -/
structure RouteExecution where
  token : Uuid
  expiresAt : Timestamp
  deriving DecidableEq

/-- The target of a receipt with the fence it was admitted under. -/
structure FencedTarget extends RouteTarget where
  fence : Nat
  deriving DecidableEq

/-- A driver receipt. Receipts of other actions, and of routes before projections
existed, have no target. -/
structure RouteReceipt where
  workshop : Uuid
  action : DriverAction
  (idempotencyKey requestDigest : String)
  state : ReceiptState
  safeError : Option String
  controlOperation : Option ControlOperationLease
  execution : Option RouteExecution
  target : Option FencedTarget
  deriving DecidableEq

inductive FleetPhase
  | idle
  | held
  | quarantined
  deriving DecidableEq

/-- The lease of the shared Odoo runtime. -/
structure FleetLease where
  phase : FleetPhase
  driverOperation : Option Uuid
  fence : Nat
  deriving DecidableEq

/-- The publication protocol of the fleet. -/
inductive ProtocolMode
  | flatV1
  | activatingV1
  | generationV1
  deriving DecidableEq

structure RouteState where
  now : Timestamp
  operations : Operations
  mode : ProtocolMode
  fleet : FleetLease
  projections : Table (Uuid × Nat) StoredProjection
  heads : Table Uuid RouteHead
  leases : Table Uuid RouteLease
  receipts : Table Uuid RouteReceipt
  /-- History: the workshop and fence of every acquisition, newest first. No call
  reads it. -/
  acquisitions : List (Uuid × Nat)
  deriving DecidableEq

/-- Why a function raised; its transaction is rolled back. -/
inductive Raised
  | operationLeaseNotCurrent
  | fleetNotIdle
  | routeNotSourceMutable
  | maintenanceStolen
  | driverLeaseLost
  | noDataFound
  | uniqueViolation
  deriving DecidableEq

/-! ## Calls and answers -/

inductive Materialization
  | created (target : RouteTarget) (projection : Json)
  | reused (target : RouteTarget) (projection : Json)
  | upstreamLeaseLost
  | invalid
  | digestConflict
  deriving DecidableEq

/-- The projection that a materialization names. -/
def Materialization.target : Materialization → Option RouteTarget
  | .created target _ | .reused target _ => some target
  | .upstreamLeaseLost | .invalid | .digestConflict => none

/-- The arguments of both materializing functions. -/
structure MaterializeCall where
  caller : ControlOperationLease
  workshop : Uuid
  projection : Json
  digest : String
  deriving DecidableEq

structure AdmitCall where
  caller : ControlOperationLease
  workshop : Uuid
  action : DriverAction
  (idempotencyKey requestDigest : String)
  target : RouteTarget
  (owner executionToken routeLeaseToken : Uuid)
  ttlSeconds : Nat
  /-- The identifier the database generates for a new receipt. -/
  receiptId : Uuid
  deriving DecidableEq

inductive AdmissionOutcome
  | invalid
  | upstreamLeaseLost
  | fleetBusy
  | fleetQuarantined
  | quarantined
  | digestConflict
  | legacyReceipt
  | replay
  | failed
  | busy
  | uninitialized
  | superseded
  | unreserved
  | acquired
  deriving DecidableEq

structure Admission where
  outcome : AdmissionOutcome
  driverOperation : Option Uuid
  fence : Option Nat
  storedResponse : Option Json
  deriving DecidableEq

/-- The driver may go on, or has its answer already. -/
def Admission.admitted (admission : Admission) : Prop :=
  admission.outcome = .acquired ∨ admission.outcome = .replay

/-- `btrim(text) = ''`. -/
def isBlank (text : String) : Bool :=
  text.toList.all (· == ' ')

/-- `^[0-9a-f]{64}$`. -/
def sqlHexDigest (text : String) : Bool :=
  decide (text.toList.length = 64) && text.toList.all isLowerHex

def AdmitCall.valid (call : AdmitCall) : Bool :=
  decide (call.action = .routeProject) && decide (60 ≤ call.ttlSeconds) &&
    decide (call.ttlSeconds ≤ 1200) && decide (0 < call.caller.attempt) &&
    !isBlank call.caller.owner && decide (1 ≤ call.idempotencyKey.toList.length) &&
    decide (call.idempotencyKey.toList.length ≤ 180) && sqlHexDigest call.requestDigest &&
    sqlDigest call.target.digest && decide (0 < call.target.generation)

/-- The receipt has the call's action and key. -/
def AdmitCall.exactKey (call : AdmitCall) (receipt : RouteReceipt) : Bool :=
  decide (receipt.workshop = call.workshop) && decide (receipt.action = call.action) &&
    decide (receipt.idempotencyKey = call.idempotencyKey)

/-- The receipt has the call's target, under any key. -/
def AdmitCall.sameTarget (call : AdmitCall) (receipt : RouteReceipt) : Bool :=
  decide (receipt.workshop = call.workshop) &&
    receipt.target.any fun target => decide (target.toRouteTarget = call.target)

variable (receipt : RouteReceipt)

/-- What a succeeded receipt keeps of the attempt that asked for it last. -/
def RouteReceipt.askedBy (caller : ControlOperationLease) :
    RouteReceipt :=
  { receipt with
    controlOperation := receipt.controlOperation.map fun stored =>
      { stored with attempt := caller.attempt, owner := caller.owner } }

/-- A receipt whose execution ended without a known result. -/
def RouteReceipt.outcomeUnknown : RouteReceipt :=
  { receipt with safeError := some "runtime_outcome_unknown", execution := none }

/-- The evidence of an applied head, without its disposition. -/
def AppliedRoute.evidence (applied : AppliedRoute) (workshop : Uuid) : Json :=
  .object [ ("driver_operation_id", .string applied.driverOperation.toText),
    ("projection_digest", .string applied.digest),
    ("rendered_digest", .string applied.renderedDigest),
    ("route_fence_token", .number applied.fence),
    ("route_generation", .number applied.generation),
    ("workshop_id", .string workshop.toText)]

/-- What an outdated request is told; an absent evidence is left out. -/
def supersededResponse (workshop : Uuid) (desired : DesiredRoute)
    (applied : Option AppliedRoute) : Json :=
  .object ([ ("desired_digest", .string desired.digest),
    ("desired_generation", .number desired.generation)] ++
    (applied.map fun applied => ("route_evidence", applied.evidence workshop)).toList ++
    [("superseded", .bool true)])

structure RenewCall where
  driverOperation : Uuid
  caller : ControlOperationLease
  (owner executionToken routeLeaseToken : Uuid)
  (fence ttlSeconds : Nat)
  deriving DecidableEq

/-- How an application ended. -/
inductive FinishOutcome
  | succeeded
  | failed
  | unknown
  deriving DecidableEq

structure FinishCall where
  (driverOperation owner executionToken routeLeaseToken : Uuid)
  fence : Nat
  outcome : FinishOutcome
  response : Option Json
  (renderedDigest safeError : Option String)
  deriving DecidableEq

/-- The evidence a response has to show for the lease it ends. -/
def FinishCall.evidenceMatches (call : FinishCall) (workshop : Uuid) (target : RouteTarget)
    (response : Json) : Bool :=
  match response.get "route_evidence", call.renderedDigest with
  | some (.object fields), some renderedDigest =>
    let evidence := Json.object fields
    decide (fields.length = 6) && sqlDigest renderedDigest &&
      Json.textIs (evidence.get "driver_operation_id") call.driverOperation.toText &&
      Json.textIs (evidence.get "workshop_id") workshop.toText &&
      Json.textIs (evidence.get "route_generation") (toString target.generation) &&
      Json.textIs (evidence.get "projection_digest") target.digest &&
      Json.textIs (evidence.get "rendered_digest") renderedDigest &&
      Json.textIs (evidence.get "route_fence_token") (toString call.fence)
  | _, _ => false

/-- The arguments an outcome may come with. -/
def FinishCall.wellFormed (call : FinishCall) (workshop : Uuid) (target : RouteTarget)
    (response : Option Json) : Bool :=
  match call.outcome with
  | .succeeded =>
    call.safeError.isNone && response.any fun response =>
        response.asObject.isSome && call.evidenceMatches workshop target response
  | .failed =>
    response.isNone && call.renderedDigest.isNone &&
      call.safeError.any fun safeError => !isBlank safeError
  | .unknown => response.isNone && call.renderedDigest.isNone && call.safeError.isNone

def RouteDisposition.asStr : RouteDisposition → String
  | .present => "present"
  | .absent => "absent"

/-- The response the older body checks: the evidence without its disposition, which has
to be the projection's. Six fields are the form of a request that began before
dispositions existed, and those are present. -/
def legacyResponse (disposition : RouteDisposition) (response : Json) : Option Json :=
  match response.get "route_evidence" with
  | some (.object fields) =>
    let evidence := Json.object fields
    if fields.length = 7 ∧ Json.textIs (evidence.get "disposition") disposition.asStr = true then
      some (response.insert "route_evidence" (evidence.remove "disposition"))
    else if fields.length = 6 ∧ disposition = .present then some response
    else none
  | _ => none

/-! ## Rows under a call -/

/-- The row of the lease that a renewal extends. -/
def RouteHolder.renewableBy (holder : RouteHolder) (now : Timestamp) (call : RenewCall) : Bool :=
  decide (holder.driverOperation = call.driverOperation) && decide (holder.owner = call.owner) &&
    decide (holder.token = call.routeLeaseToken) && decide (now < holder.expiresAt)

/-- The receipt that a renewal extends. -/
def RouteReceipt.renewableBy (now : Timestamp) (workshop : Uuid) (call : RenewCall) : Bool :=
  decide (receipt.workshop = workshop) && decide (receipt.state = .inProgress) &&
    decide (receipt.controlOperation = some call.caller) &&
    (receipt.execution.any fun execution =>
      decide (execution.token = call.executionToken) && decide (now < execution.expiresAt)) &&
    receipt.target.any fun target => decide (target.fence = call.fence)

def RouteReceipt.renewed (expiresAt : Timestamp) : RouteReceipt :=
  { receipt with execution := receipt.execution.map fun execution => ⟨execution.token, expiresAt⟩ }

/-- The lease a driver may end; an unknown outcome may be recorded late. -/
def RouteHolder.finishableBy (holder : RouteHolder) (now : Timestamp) (call : FinishCall) :
    Bool :=
  decide (holder.owner = call.owner) && decide (holder.token = call.routeLeaseToken) &&
    (decide (call.outcome = .unknown) || decide (now < holder.expiresAt))

/-- The receipt a driver may end. -/
def RouteReceipt.finishableBy (now : Timestamp) (target : RouteTarget) (call : FinishCall) : Bool :=
  decide (receipt.state = .inProgress) &&
    (receipt.execution.any fun execution => decide (execution.token = call.executionToken) &&
      (decide (call.outcome = .unknown) || decide (now < execution.expiresAt))) &&
    receipt.target.any fun bound =>
      decide (bound.toRouteTarget = target) && decide (bound.fence = call.fence)

/-- The columns of an ended receipt. -/
def RouteReceipt.finished (call : FinishCall) (response : Option Json) :
    RouteReceipt :=
  { receipt with
    state :=
      match call.outcome with
      | .succeeded => .succeeded (response.getD .null)
      | .failed => .failed
      | .unknown => .inProgress
    safeError :=
      match call.outcome with
      | .unknown => some "runtime_outcome_unknown"
      | .succeeded | .failed => call.safeError
    execution := none }

/-- The lease after an application of it ended. -/
def RouteLease.finished (lease : RouteLease) (holder : RouteHolder) : FinishOutcome → RouteLease
  | .succeeded => { lease with phase := .free, initializationRequired := false }
  | .failed => { lease with phase := .free }
  | .unknown => { lease with phase := .quarantined (some holder.driverOperation) }

/-- The head after a successful application. -/
def RouteHead.withApplied (head : RouteHead) (call : FinishCall) (target : RouteTarget) :
    RouteHead :=
  { head with
    applied := some ⟨target, call.renderedDigest.getD "", call.driverOperation, call.fence⟩ }

end ControlPlane.Routes
