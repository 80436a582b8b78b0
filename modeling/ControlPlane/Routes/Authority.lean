/-
# The database's route authority

The functions in which the database decides over a workshop's route: the two
that allocate a desired generation, the admission of one application, its
renewal and its end. Each function is one transaction; the rows it reads are
locked until it ends, so every concurrent history is a sequence of calls.

The functions are stated as the last migration leaves them. Where a later
migration wraps an earlier body, the body keeps its versioned name.
-/

import ControlPlane.Routes.Tables

namespace ControlPlane.Routes

open Domain Driver Math Persistence

namespace RouteState

variable (collationLe : String → String → Bool) (s : RouteState)

def head (workshop : Uuid) : RouteHead :=
  (s.heads.lookup workshop).getD .empty

/-- The last allocated generation, zero before the first. -/
def desiredGeneration (workshop : Uuid) : Nat :=
  ((s.head workshop).desired.map fun desired => desired.generation).getD 0

/-- The generation of the applied head, zero before the first. -/
def appliedGeneration (workshop : Uuid) : Nat :=
  ((s.head workshop).applied.map fun applied => applied.generation).getD 0

/-! ## The control operation behind a call -/

/-- The operations that change routes, each on its own queue. -/
def routeOperation : OperationKind → Queue → Bool
  | .tenantProvision, .tenantProvisioning => true
  | .tenantReconcile, .tenantReconciliation => true
  | .moduleEnable, .tenantReconciliation => true
  | .moduleRestrict, .tenantReconciliation => true
  | .webshopDomainReconcile, .tenantReconciliation => true
  | .tenantLifecycle, .tenantLifecycle => true
  | _, _ => false

/-- The row of the calling operation, if the caller's attempt still holds it. -/
def upstream (caller : ControlOperationLease) : Option OperationRow :=
  match s.operations.lookup caller.id with
  | some row =>
    if routeOperation row.kind row.queue && row.heldBy s.now caller.owner caller.attempt then
      some row
    else none
  | none => none

def upstreamFor (caller : ControlOperationLease) (workshop : Uuid) : Bool :=
  (s.upstream caller).any fun row => decide (row.workshopId = some workshop)

/-! ## Desired generations -/

/-- A source change needs the caller's own lease, an idle fleet, and a route that no
driver holds. -/
def lockWorkshopRouteProjection (caller : ControlOperationLease)
    (workshop : Uuid) : Except Raised Unit :=
  if s.upstreamFor caller workshop = false then .error .operationLeaseNotCurrent
  else if s.fleet.phase ≠ .idle then .error .fleetNotIdle
  else
    match s.leases.lookup workshop with
    | none => .error .noDataFound
    | some lease =>
      match lease.phase with
      | .free | .maintenance _ => .ok ()
      | .held _ | .quarantined _ => .error .routeNotSourceMutable

/-- The tables after a projection became the next generation. -/
def allocated (workshop : Uuid) (stored : StoredProjection) : RouteState :=
  { s with
    projections := s.projections.insert (workshop, s.desiredGeneration workshop + 1) stored
    heads := s.heads.insert workshop { s.head workshop with
      desired := some ⟨⟨s.desiredGeneration workshop + 1, stored.digest⟩, stored.disposition⟩ } }

/-- Insert the next projection; generations are a primary key. -/
def allocate (workshop : Uuid) (stored : StoredProjection) :
    Except Raised (RouteState × Materialization) :=
  match s.projections.lookup (workshop, s.desiredGeneration workshop + 1) with
  | some _ => .error .uniqueViolation
  | none =>
    .ok (s.allocated workshop stored,
      .created ⟨s.desiredGeneration workshop + 1, stored.digest⟩ stored.projection)

def materializeV1 (call : MaterializeCall) : Except Raised (RouteState × Materialization) :=
  if s.upstreamFor call.caller call.workshop = false then .ok (s, .upstreamLeaseLost)
  else if (sqlDigest call.digest && sqlProjection collationLe call.projection) = false then
    .ok (s, .invalid)
  else
    match (s.head call.workshop).desired with
    | some desired =>
      if desired.digest = call.digest then
        if (s.projections.lookup (call.workshop, desired.generation)).any (fun stored =>
            decide (stored.digest = call.digest) &&
              decide (stored.projection = call.projection)) then
          .ok (s, .reused ⟨desired.generation, call.digest⟩ call.projection)
        else .ok (s, .invalid)
      else s.allocate call.workshop ⟨call.digest, call.projection, .present⟩
    | none => s.allocate call.workshop ⟨call.digest, call.projection, .present⟩

/-- `materialize_workshop_route_projection`. -/
def materialize (call : MaterializeCall) : Except Raised (RouteState × Materialization) :=
  match s.lockWorkshopRouteProjection call.caller call.workshop with
  | .error raised => .error raised
  | .ok () => materializeV1 collationLe s call

/-- `materialize_workshop_route_tombstone`. -/
def materializeTombstone (call : MaterializeCall) : Except Raised (RouteState × Materialization) :=
  match s.lockWorkshopRouteProjection call.caller call.workshop with
  | .error raised => .error raised
  | .ok () =>
    if (s.operations.lookup call.caller.id).any (fun row =>
        decide (row.kind = .tenantLifecycle) && decide (row.queue = .tenantLifecycle)) = false ∨
        sqlDigest call.digest = false ∨ call.projection ≠ canonicalAbsentProjection then
      .ok (s, .invalid)
    else
      match s.heads.lookup call.workshop with
      | none => .error .noDataFound
      | some head =>
        match head.desired with
        | some ⟨target, .absent⟩ =>
          if target.digest = call.digest then
            .ok (s, .reused target canonicalAbsentProjection)
          else .ok (s, .digestConflict)
        | _ => s.allocate call.workshop ⟨call.digest, canonicalAbsentProjection, .absent⟩

/-! ## Admission -/

/-- The receipt that answers a call: one with its key before one with its target. -/
def existingReceipt (call : AdmitCall) : Option (Uuid × RouteReceipt) :=
  match s.receipts.find call.exactKey with
  | some found => some found
  | none => s.receipts.find call.sameTarget

def admitExisting (call : AdmitCall) (fence : Nat) (id : Uuid)
    (receipt : RouteReceipt) : RouteState × Admission :=
  if receipt.requestDigest ≠ call.requestDigest ∨
      (receipt.target.any fun target => decide (target.toRouteTarget ≠ call.target)) = true ∨
      (call.exactKey receipt = true ∧
        receipt.controlOperation.map (·.id) ≠ some call.caller.id) then
    (s, ⟨.digestConflict, some id, some fence, none⟩)
  else
    match receipt.target with
    | none => (s, ⟨.legacyReceipt, some id, some fence, none⟩)
    | some target =>
      match receipt.state with
      | .succeeded response =>
        (if call.exactKey receipt then
            { s with receipts := s.receipts.insert id (receipt.askedBy call.caller) }
          else s,
          ⟨.replay, some id, some target.fence, some response⟩)
      | .failed => (s, ⟨.failed, some id, some target.fence, none⟩)
      | .inProgress =>
        if receipt.safeError = some "runtime_outcome_unknown" then
          (s, ⟨.quarantined, some id, some target.fence, none⟩)
        else (s, ⟨.busy, some id, some target.fence, none⟩)

/-- The tables after an application was acquired. -/
def acquired (call : AdmitCall) (lease : RouteLease) : RouteState :=
  { s with
    receipts := s.receipts.insert call.receiptId {
      workshop := call.workshop
      action := call.action
      idempotencyKey := call.idempotencyKey
      requestDigest := call.requestDigest
      state := .inProgress
      safeError := none
      controlOperation := some call.caller
      execution := some ⟨call.executionToken, s.now + seconds call.ttlSeconds⟩
      target := some ⟨call.target, lease.fence + 1⟩ }
    leases := s.leases.insert call.workshop { lease with
      fence := lease.fence + 1
      phase := .held ⟨call.receiptId, call.target, call.owner, call.routeLeaseToken,
        s.now + seconds call.ttlSeconds⟩ }
    acquisitions := (call.workshop, lease.fence + 1) :: s.acquisitions }

/-- No receipt answers the call: it may acquire the lease for the desired projection. -/
def admitNew (call : AdmitCall) (head : RouteHead) (lease : RouteLease) :
    Except Raised (RouteState × Admission) :=
  match head.desired with
  | none => .ok (s, ⟨.uninitialized, none, some lease.fence, none⟩)
  | some desired =>
    if call.target.generation < desired.generation then
      .ok (s, ⟨.superseded, none, some lease.fence,
        some (supersededResponse call.workshop desired head.applied)⟩)
    else if call.target ≠ desired.toRouteTarget then
      .ok (s, ⟨.unreserved, none, some lease.fence, none⟩)
    else
      match lease.phase with
      | .held holder => .ok (s, ⟨.busy, some holder.driverOperation, some lease.fence, none⟩)
      | .maintenance _ | .quarantined _ => .error .maintenanceStolen
      | .free =>
        match s.receipts.lookup call.receiptId with
        | some _ => .error .uniqueViolation
        | none =>
          .ok (s.acquired call lease,
            ⟨.acquired, some call.receiptId, some (lease.fence + 1), none⟩)

def admitLive (call : AdmitCall) (head : RouteHead) (lease : RouteLease) :
    Except Raised (RouteState × Admission) :=
  match s.existingReceipt call with
  | some (id, receipt) => .ok (s.admitExisting call lease.fence id receipt)
  | none => s.admitNew call head lease

/-- The tables after a lease that ran out was found. -/
def expired (workshop : Uuid) (lease : RouteLease) (holder : RouteHolder) :
    RouteState :=
  { s with
    receipts := (s.receipts.update holder.driverOperation (fun receipt =>
      receipt.state = .inProgress) RouteReceipt.outcomeUnknown).1
    leases := s.leases.insert workshop { lease with
      phase := .quarantined (some holder.driverOperation) } }

def admitV1 (call : AdmitCall) : Except Raised (RouteState × Admission) :=
  if call.valid = false then .ok (s, ⟨.invalid, none, none, none⟩)
  else if s.upstreamFor call.caller call.workshop = false then
    .ok (s, ⟨.upstreamLeaseLost, none, none, none⟩)
  else
    match s.fleet.phase with
    | .held => .ok (s, ⟨.fleetBusy, s.fleet.driverOperation, some s.fleet.fence, none⟩)
    | .quarantined =>
      .ok (s, ⟨.fleetQuarantined, s.fleet.driverOperation, some s.fleet.fence, none⟩)
    | .idle =>
      match s.heads.lookup call.workshop, s.leases.lookup call.workshop with
      | some head, some lease =>
        match lease.phase with
        | .quarantined driverOperation =>
          .ok (s, ⟨.quarantined, driverOperation, some lease.fence, none⟩)
        | .held holder =>
          if holder.expiresAt ≤ s.now then
            .ok (s.expired call.workshop lease holder,
              ⟨.quarantined, some holder.driverOperation, some lease.fence, none⟩)
          else s.admitLive call head lease
        | .free | .maintenance _ => s.admitLive call head lease
      | _, _ => .error .noDataFound

/-- Evidence that was stored without a disposition is given its projection's. -/
def withDisposition (workshop : Uuid) (response : Json) : Json :=
  match response.get "route_evidence" with
  | some (.object fields) =>
    let evidence := Json.object fields
    if (evidence.get "disposition").isSome then response
    else
      match s.projections.entries.find? fun entry =>
          decide (entry.1.1 = workshop) &&
            Json.textIs (evidence.get "route_generation") (toString entry.1.2) &&
            Json.textIs (evidence.get "projection_digest") entry.2.digest with
      | some entry =>
        response.insert "route_evidence"
          (evidence.insert "disposition" (.string entry.2.disposition.asStr))
      | none => response
  | _ => response

def admitFlatV1 (call : AdmitCall) : Except Raised (RouteState × Admission) :=
  if s.upstreamFor call.caller call.workshop = false then
    .ok (s, ⟨.upstreamLeaseLost, none, none, none⟩)
  else
    match s.leases.lookup call.workshop with
    | none => .error .noDataFound
    | some lease =>
      match lease.phase with
      | .maintenance effectRun => .ok (s, ⟨.busy, some effectRun, some lease.fence, none⟩)
      | .free | .held _ | .quarantined _ =>
        match s.admitV1 call with
        | .error raised => .error raised
        | .ok (next, admission) =>
          .ok (next, { admission with
            storedResponse :=
              admission.storedResponse.map (s.withDisposition call.workshop) })

/-- `admit_workshop_route_application`. -/
def admitApplication (call : AdmitCall) : Except Raised (RouteState × Admission) :=
  match s.mode with
  | .activatingV1 | .generationV1 => .ok (s, ⟨.fleetBusy, none, none, none⟩)
  | .flatV1 => s.admitFlatV1 call

/-! ## Renewal and end of an application -/

/-- The tables after both rows of an application were extended. -/
def renewed (s : RouteState) (workshop : Uuid) (lease : RouteLease) (holder : RouteHolder)
    (receipt : RouteReceipt) (expiresAt : Timestamp) : RouteState :=
  { s with
    leases := s.leases.insert workshop { lease with phase := .held { holder with expiresAt } }
    receipts := s.receipts.insert holder.driverOperation (receipt.renewed expiresAt) }

/-- `renew_workshop_route_application`. -/
def renew (call : RenewCall) : Except Raised (RouteState × Bool) :=
  if call.ttlSeconds < 60 ∨ 1200 < call.ttlSeconds then .ok (s, false)
  else
    match (s.upstream call.caller).bind OperationRow.workshopId with
    | none => .ok (s, false)
    | some workshop =>
      if s.fleet.phase ≠ .idle then .ok (s, false)
      else
        match s.leases.lookup workshop with
        | none => .ok (s, false)
        | some lease =>
          match lease.phase with
          | .free | .maintenance _ | .quarantined _ => .ok (s, false)
          | .held holder =>
            if holder.renewableBy s.now call = true ∧ lease.fence = call.fence then
              match s.receipts.lookup holder.driverOperation with
              | some receipt =>
                if receipt.renewableBy s.now workshop call then
                  .ok (s.renewed workshop lease holder receipt
                    (s.now + seconds call.ttlSeconds), true)
                else .error .driverLeaseLost
              | none => .error .driverLeaseLost
            else .ok (s, false)

/-- The tables after an application ended. -/
def finished (s : RouteState) (call : FinishCall) (workshop : Uuid) (lease : RouteLease)
    (holder : RouteHolder) (receipt : RouteReceipt) (response : Option Json) : RouteState :=
  { s with
    receipts := s.receipts.insert call.driverOperation (receipt.finished call response)
    heads :=
      match call.outcome with
      | .succeeded =>
        (s.heads.update workshop (fun _ => True) fun head =>
          head.withApplied call holder.target).1
      | .failed | .unknown => s.heads
    leases := s.leases.insert workshop (lease.finished holder call.outcome) }

/-- The lease that is bound to a driver operation. -/
def leaseOf (driverOperation : Uuid) : Option (Uuid × RouteLease) :=
  s.leases.find fun lease => decide (lease.phase.driverOperation = some driverOperation)

def finishV1 (call : FinishCall) (response : Option Json) : RouteState × Bool :=
  match s.leaseOf call.driverOperation with
  | none => (s, false)
  | some (workshop, lease) =>
    match lease.phase with
    | .free | .maintenance _ | .quarantined _ => (s, false)
    | .held holder =>
      if holder.finishableBy s.now call = true ∧ lease.fence = call.fence ∧
          call.wellFormed workshop holder.target response = true then
        match s.receipts.lookup call.driverOperation with
        | some receipt =>
          if receipt.finishableBy s.now holder.target call then
            (s.finished call workshop lease holder receipt response, true)
          else (s, false)
        | none => (s, false)
      else (s, false)

/-- The disposition of the projection that a held lease applies. -/
def heldDisposition (driverOperation : Uuid) : Option RouteDisposition :=
  match s.leaseOf driverOperation with
  | some (workshop, ⟨_, _, .held holder⟩) =>
    match s.projections.lookup (workshop, holder.target.generation) with
    | some stored =>
      if stored.digest = holder.target.digest then some stored.disposition else none
    | none => none
  | _ => none

/-- Replace the stored response of a succeeded receipt by the whole evidence. -/
def storeResponse (driverOperation : Uuid) (response : Json) : RouteState :=
  { s with
    receipts := (s.receipts.update driverOperation (fun receipt => receipt.state.isSucceeded = true)
      fun receipt => { receipt with state := .succeeded response }).1 }

/-- `finish_workshop_route_application`. -/
def finish (call : FinishCall) : RouteState × Bool :=
  match call.outcome with
  | .failed | .unknown => s.finishV1 call call.response
  | .succeeded =>
    match call.response, s.heldDisposition call.driverOperation with
    | some response, some disposition =>
      match legacyResponse disposition response with
      | none => (s, false)
      | some legacy =>
        match s.finishV1 call (some legacy) with
        | (next, true) => (next.storeResponse call.driverOperation response, true)
        | (next, false) => (next, false)
    | _, _ => (s, false)

/-! ## Histories -/

/-- A call of one of the functions. -/
inductive RouteCall
  | materialize (call : MaterializeCall)
  | materializeTombstone (call : MaterializeCall)
  | admitApplication (call : AdmitCall)
  | renew (call : RenewCall)
  | finish (call : FinishCall)
  deriving DecidableEq

/-- The tables after a function returned; one that raises leaves them as they were. -/
def committed {α : Type} (s : RouteState) : Except Raised (RouteState × α) → RouteState
  | .ok (next, _) => next
  | .error _ => s

def perform : RouteCall → RouteState
  | .materialize call => s.committed (s.materialize collationLe call)
  | .materializeTombstone call => s.committed (s.materializeTombstone call)
  | .admitApplication call => s.committed (s.admitApplication call)
  | .renew call => s.committed (s.renew call)
  | .finish call => (s.finish call).1

/-- What can happen: a call, time passing, a new workshop, or a change of the rows that
the functions only read. -/
inductive RouteEvent
  | call (call : RouteCall)
  | advance (elapsed : Nat)
  | createWorkshop (workshop : Uuid)
  | operations (operations : Operations)
  | fleet (fleet : FleetLease)
  | mode (mode : ProtocolMode)
  deriving DecidableEq

/-- The trigger that seeds a new workshop. -/
def seeded (workshop : Uuid) : RouteState :=
  { s with
    heads := match s.heads.lookup workshop with
      | some _ => s.heads
      | none => s.heads.insert workshop .empty
    leases := match s.leases.lookup workshop with
      | some _ => s.leases
      | none => s.leases.insert workshop ⟨0, false, .free⟩ }

def step : RouteEvent → Option RouteState
  | .call call => some (s.perform collationLe call)
  | .advance elapsed => some { s with now := s.now + elapsed }
  | .createWorkshop workshop => some (s.seeded workshop)
  | .operations operations => some { s with operations }
  | .fleet fleet => some { s with fleet }
  | .mode mode => some { s with mode }

/-- A database without projections: no desired or applied route, no held lease, and no
receipt with a target. Leases may be idle, uninitialized, in maintenance or quarantined. -/
structure Initial (s : RouteState) : Prop where
  noProjection : s.projections = ∅
  noHead : ∀ workshop head, s.heads.lookup workshop = some head → head = .empty
  noHolder : ∀ workshop lease holder, s.leases.lookup workshop = some lease →
    lease.phase ≠ .held holder
  noTarget : ∀ id receipt, s.receipts.lookup id = some receipt → receipt.target = none
  noAcquisition : s.acquisitions = []

end RouteState

end ControlPlane.Routes
