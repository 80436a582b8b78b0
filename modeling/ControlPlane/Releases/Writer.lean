/-
# Publishing a fleet release

The functions by which the driver of a release takes the routes of the fleet, stages and
publishes the maintenance overlay, begins the external effects, stages and publishes the
candidate overlay, and ends the release or puts it in quarantine. Each function is one
transaction over rows that it locks first, so every concurrent history is a sequence of
calls. A function that raises leaves no trace.

The functions are stated as migration 0041 leaves them. Null arguments are left out: a null
token or digest fails the comparison it is read by.
-/

import ControlPlane.Releases.Evidence

namespace ControlPlane.Releases

open Domain Driver Math Persistence
open Routes Publications

/-- The exceptions that the functions, the triggers and the table checks raise. -/
inductive ReleaseRaised
  | headAdvancementDrifted
  | appliedBindingNotAuthorized
  | routeHeadSnapshotDrifted
  | candidateHeadDrifted
  | driverCompletionDrifted
  | driverCancellationDrifted
  | routeReleaseDrifted
  | globalReleaseDrifted
  | uniqueViolation
  | checkViolation
  deriving DecidableEq

/-- The texts that the functions return. -/
inductive ReleaseOutcome
  | acquired
  | appliedRecovered
  | approved
  | authorityInconsistent
  | authorityLost
  | authorized
  | blocked
  | busy
  | claimLost
  | claimed
  | conflict
  | countMismatch
  | decisionMismatch
  | digestMismatch
  | finished
  | identityMismatch
  | invalid
  | keptQuarantined
  | leaseLost
  | notApplied
  | notExpired
  | notFound
  | observationAbsent
  | observationMismatch
  | observed
  | outOfOrder
  | priorAbsent
  | quarantined
  | recorded
  | replay
  | resolutionAbsent
  | reviewRequired
  | reviewedFinishRequired
  | routeDrift
  | runtimeObservationRequired
  | sealed
  | snapshotDrift
  | started
  | stateDrift
  | terminal
  | unsupportedResolution
  | wrongPhase
  deriving DecidableEq

/-! ## Calls -/

/-- The rendering of one workshop, with the owner's columns that the caller saw. -/
structure RecordCall where
  workshop : Uuid
  target : RouteTarget
  (appliedRenderedDigest renderedDigest : String)
  deriving DecidableEq

/-- What a seal reports about the staged overlay. -/
structure SealCall where
  selector : String
  directory : Directory
  count : Nat
  digest : String
  deriving DecidableEq

/-- What an observation reports: the identity of the loaded overlay and its directory. -/
structure ObservationCall where
  protocolVersion : Nat
  (fleetRun driverOperation : Uuid)
  globalFence : Nat
  overlay : OverlayKind
  digest : String
  targetSlot : Slot
  selector : String
  directory : Directory
  deriving DecidableEq

/-! ## Authority -/

/-- The operation adopts a release under this attempt, and its lease has not run out. -/
def adopting (row : OperationRow) (now : Timestamp) (attempt : Nat) (owner : String) : Bool :=
  decide (row.kind = .odooReleaseAdopt) && decide (row.queue = .releaseAdoption) &&
    decide (row.workshopId = none) && Json.textIs (row.payload.get "phase") "adopt" &&
    row.heldBy now owner attempt

/-- The end of the shared lease, when it is held for the release. -/
def fleetHeldUntil (fleet : GlobalLease) (lease : ReleaseLease) : Option Timestamp :=
  match fleet.phase with
  | .held authority owner token expiresAt =>
    if authority = .release lease.driverOperation ∧ owner = lease.instanceOwner ∧
        token = lease.globalLeaseToken ∧ fleet.fence = lease.globalFence then
      some expiresAt
    else none
  | _ => none

/-- The end of the driver's execution, when it runs under the release's token. -/
def executingUntil (driver : ReleaseOperation) (lease : ReleaseLease) : Option Timestamp :=
  match driver.state with
  | .executing token expiresAt => if token = lease.executionToken then some expiresAt else none
  | _ => none

/-- The end of a route's lease, when it is held for the release. -/
def routeHeldUntil (route : AuthorityLease) (lease : ReleaseLease) (owner : RouteOwner) :
    Option Timestamp :=
  match route.phase with
  | .held authority target leaseOwner token expiresAt =>
    if authority = .releaseOverlay lease.driverOperation ∧ target = some owner.target ∧
        leaseOwner = lease.instanceOwner ∧ token = lease.routeLeaseToken ∧
        route.fence = owner.routeFence then
      some expiresAt
    else none
  | _ => none

namespace ReleaseState

variable (s : ReleaseState)

def routeUntil (lease : ReleaseLease) (owner : RouteOwner) : Option Timestamp :=
  (s.shared.leases.lookup owner.workshop).bind fun route => routeHeldUntil route lease owner

def live (expiresAt : Option Timestamp) : Bool :=
  expiresAt.any fun expiresAt => decide (s.now < expiresAt)

/-- The operation under `id` adopts a release under this attempt. -/
def adoptedBy (id : Uuid) (attempt : Nat) (owner : String) : Bool :=
  (s.queue.operations.lookup id).any fun row => adopting row s.now attempt owner

/-- `has_immutable_release_route_authority`. -/
def hasAuthority (lease : ReleaseLease) : Bool :=
  match s.publications.lookup lease.driverOperation,
      s.shared.drivers.lookup lease.driverOperation with
  | some publication, some driver =>
    let identity := publication.identity
    publication.interrupted.isNone &&
      decide (identity.lease lease.driverOperation = lease) &&
      decide (driver.controlOperation = identity.controlOperation) &&
      s.adoptedBy identity.controlOperation.id identity.controlOperation.attempt
        identity.controlOperation.owner &&
      s.live (executingUntil driver lease) && s.live (fleetHeldUntil s.shared.fleet lease) &&
      identity.owners.all fun owner => s.live (s.routeUntil lease owner)
  | _, _ => false

/-- The release's row, when the caller has the authority to change it. -/
def authorized (lease : ReleaseLease) : Option ReleasePublication :=
  if s.hasAuthority lease then s.publications.lookup lease.driverOperation else none

end ReleaseState

/-! ## Heads -/

/-- The head is as it was when the release froze it. -/
def frozenHead (owner : RouteOwner) (head : FleetHead) : Bool :=
  decide (head.desired = some owner.route) && head.applied.any fun applied =>
      decide (applied.toDesiredRoute = owner.route) &&
        decide (applied.renderedDigest = owner.appliedRenderedDigest) &&
        decide (applied.fence = owner.appliedFence)

/-- The head that shows the candidate. -/
def candidateHead (id : Uuid) (owner : RouteOwner) (renderedDigest : String)
    (head : FleetHead) : FleetHead :=
  { head with
    applied := head.applied.map fun applied =>
      { applied with
        renderedDigest := renderedDigest
        writer := .driver id
        fence := owner.routeFence } }

/-- The head shows the candidate under the release's fence. -/
def showsCandidate (id : Uuid) (owner : RouteOwner) (renderedDigest : String)
    (head : FleetHead) : Bool :=
  decide (head.desired = some owner.route) && head.applied.any fun applied =>
      decide (applied.toDesiredRoute = owner.route) &&
        decide (applied.renderedDigest = renderedDigest) &&
        decide (applied.writer = .driver id) && decide (applied.fence = owner.routeFence)

/-- The trigger `validate_workshop_route_applied_driver_binding` on a head that names a
release. A release names no workshop, so its driver operation is never the operation of
the workshop's own route, and the records of the publication have to authorize the head. -/
def bindingAuthorized (publications : Table Uuid ReleasePublication) (workshop : Uuid)
    (head : FleetHead) : Bool :=
  match head.applied with
  | none => true
  | some applied =>
    match applied.writer with
    | .effect _ => true
    | .driver id =>
      decide (applied.disposition = .present) &&
        decide (head.desired = some applied.toDesiredRoute) &&
        (publications.lookup id).any fun publication =>
          match publication.phase with
          | .live (.candidatePublicationStarted _ candidate)
          | .live (.awaitingWorkerFinalize _ candidate) =>
            publication.identity.owners.any fun owner =>
              decide (owner.workshop = workshop) &&
                decide (owner.target = applied.toRouteTarget) &&
                decide (owner.routeFence = applied.fence) &&
                decide (candidate.records.lookup workshop = some applied.renderedDigest)
          | _ => false

/-- Advance the heads of the owned workshops to the candidate. Every head has to be as
`expected` says, and the trigger looks at every change. -/
def advanceHeads (publications : Table Uuid ReleasePublication) (id : Uuid)
    (records : OverlayRecords) (expected : RouteOwner → FleetHead → Bool)
    (drifted : ReleaseRaised) :
    List RouteOwner → Table Uuid FleetHead → Except ReleaseRaised (Table Uuid FleetHead)
  | [], heads => .ok heads
  | owner :: owners, heads =>
    match heads.lookup owner.workshop, records.lookup owner.workshop with
    | some head, some renderedDigest =>
      if expected owner head then
        let next := candidateHead id owner renderedDigest head
        if bindingAuthorized publications owner.workshop next then
          advanceHeads publications id records expected drifted owners
            (heads.insert owner.workshop next)
        else .error .appliedBindingNotAuthorized
      else .error drifted
    | _, _ => .error drifted

/-! ## Admission -/

/-- The lease of a route that a release takes. -/
def takeRoute (lease : ReleaseLease) (owner : RouteOwner) (expiresAt : Timestamp)
    (route : AuthorityLease) : AuthorityLease :=
  { route with
    fence := owner.routeFence
    phase := .held (.releaseOverlay lease.driverOperation) (some owner.target)
      lease.instanceOwner lease.routeLeaseToken expiresAt }

/-- The route is idle under the fence that was frozen. -/
def routeIdle (owner : RouteOwner) (route : AuthorityLease) : Bool :=
  decide (route.phase = .idle) && !route.initializationRequired &&
    decide (route.fence = owner.snapshotFence)

/-- Change the leases of the owned workshops. -/
def mapRoutes (change : RouteOwner → AuthorityLease → AuthorityLease) :
    List RouteOwner → Table Uuid AuthorityLease → Table Uuid AuthorityLease
  | [], leases => leases
  | owner :: owners, leases =>
    mapRoutes change owners (match leases.lookup owner.workshop with
        | some route => leases.insert owner.workshop (change owner route)
        | none => leases)

/-- The slot that is not active. -/
def targetSlotFor : Option Slot → Slot
  | some .blue => .green
  | _ => .blue

def FleetRun.bound (run : FleetRun) (slot : Slot) (fence : Nat) : FleetRun :=
  { run with
    targetSlot := some (run.targetSlot.getD slot)
    driverFence := some (run.driverFence.getD fence) }

namespace ReleaseState

variable (env : DatabaseEnvironment) (s : ReleaseState) (lease : ReleaseLease)

/-- The rows that a release is admitted on. -/
def mayAdmit (driver : ReleaseOperation) (snapshot : ReleaseSnapshot) (run : FleetRun) : Bool :=
  s.live (fleetHeldUntil s.shared.fleet lease) && s.live (executingUntil driver lease) &&
    decide (driver.executorProtocolVersion = some 1) &&
    decide (driver.snapshotProtocolVersion = some 2) &&
    s.adoptedBy driver.controlOperation.id driver.controlOperation.attempt
      driver.controlOperation.owner &&
    decide (snapshot.globalFence = lease.globalFence) && decide (run.state = .preparing) &&
    run.targetSlot.all (fun slot => decide (slot = targetSlotFor s.activeSlot)) &&
    run.driverFence.all (fun fence => decide (fence = lease.globalFence)) && run.intents.isEmpty

/-- The snapshot is still what the workshops show, and their routes are idle. -/
def snapshotExact (s : ReleaseState) (owners : List RouteOwner) : Bool :=
  owners.all fun owner =>
    (s.shared.heads.lookup owner.workshop).any (frozenHead owner) &&
      (s.shared.leases.lookup owner.workshop).any (routeIdle owner)

/-- `admit_immutable_release_route_publication`. -/
def admitRelease (ttl : Nat) : ReleaseState × ReleaseOutcome :=
  if ttl < 60 ∨ 1200 < ttl then (s, .invalid)
  else
    match s.shared.drivers.lookup lease.driverOperation,
        s.shared.snapshots.lookup lease.driverOperation with
    | some driver, some snapshot =>
      match s.publications.lookup lease.driverOperation with
      | some publication =>
        if publication.identity.lease lease.driverOperation = lease then
          if publication.interrupted.isSome then (s, .quarantined)
          else if s.hasAuthority lease then (s, .replay)
          else (s, .authorityLost)
        else (s, .conflict)
      | none =>
        match s.runs.lookup snapshot.fleetRun with
        | none => (s, .authorityLost)
        | some run =>
          if s.mayAdmit lease driver snapshot run = false then (s, .authorityLost)
          else
            let slot := targetSlotFor s.activeSlot
            let bound := { s with
              runs := s.runs.insert snapshot.fleetRun (run.bound slot lease.globalFence) }
            if s.snapshotExact snapshot.owners = false then (bound, .routeDrift)
            else
              let identity : ReleaseIdentity := {
                fleetRun := snapshot.fleetRun
                instanceOwner := lease.instanceOwner
                executionToken := lease.executionToken
                globalLeaseToken := lease.globalLeaseToken
                routeLeaseToken := lease.routeLeaseToken
                globalFence := lease.globalFence
                controlOperation := driver.controlOperation
                targetSlot := slot
                owners := snapshot.owners
                ownersBounded := snapshot.ownersBounded
                ownersDistinct := snapshot.ownersDistinct }
              ({ bound with
                publications := s.publications.insert lease.driverOperation
                  ⟨identity, .live (.maintenanceStaging none ∅)⟩
                shared := { s.shared with
                  leases := mapRoutes (fun owner => takeRoute lease owner
                    (s.now + seconds ttl)) snapshot.owners s.shared.leases } },
                .acquired)
    | _, _ => (s, .notFound)

/-! ## Staging -/

/-- `renew_immutable_release_route_publication`. -/
def renewRelease (ttl : Nat) : ReleaseState × Bool :=
  if ttl < 60 ∨ 1200 < ttl then (s, false)
  else
    match s.authorized lease, s.shared.drivers.lookup lease.driverOperation with
    | some publication, some driver =>
      let expiresAt := s.now + seconds ttl
      ({ s with
        shared := { s.shared with
          fleet := { s.shared.fleet with phase := renewedPhase expiresAt s.shared.fleet.phase }
          drivers := s.shared.drivers.insert lease.driverOperation
            { driver with state := .executing lease.executionToken expiresAt }
          leases := mapRoutes (fun _ => renewedRoute expiresAt) publication.identity.owners
            s.shared.leases } }, true)
    | _, _ => (s, false)

/-- `record_immutable_release_route_prior`. -/
def recordPrior (prior : PriorRoutes) : ReleaseState × ReleaseOutcome :=
  match s.authorized lease with
  | none => (s, .authorityLost)
  | some publication =>
    match publication.phase with
    | .live (.maintenanceStaging (some recorded) _) =>
      if recorded = prior then (s, .replay) else (s, .conflict)
    | .live (.maintenanceStaging none records) =>
      if recordablePrior env prior.selector prior.loadedIdentity = false ∨
          prior.directory.valid = false ∨
          prior.selector = publication.identity.selector .maintenance ∨
          prior.selector = publication.identity.selector .candidate then (s, .invalid)
      else
        (s.withPhase lease.driverOperation publication
          (.live (.maintenanceStaging (some prior) records)), .recorded)
    | _ => (s, .wrongPhase)

/-- The next owner without a record. -/
def nextOwner (owners : List RouteOwner) (records : OverlayRecords) : Option RouteOwner :=
  owners.find? fun owner => (records.lookup owner.workshop).isNone

/-- The call repeats the columns of an owner. -/
def ownerSeen (owners : List RouteOwner) (call : RecordCall) : Bool :=
  owners.any fun owner =>
    decide (owner.workshop = call.workshop) && decide (owner.target = call.target) &&
      decide (owner.appliedRenderedDigest = call.appliedRenderedDigest)

/-- Record the rendering of one workshop in the order of the snapshot. -/
def recordEntry (owners : List RouteOwner) (records : OverlayRecords) (call : RecordCall) :
    Except ReleaseOutcome OverlayRecords :=
  match records.lookup call.workshop with
  | some recorded =>
    if ownerSeen owners call ∧ recorded = call.renderedDigest then .error .replay
    else .error .conflict
  | none =>
    if (nextOwner owners records).map RouteOwner.workshop ≠ some call.workshop then
      .error .outOfOrder
    else if ownerSeen owners call = false then .error .snapshotDrift
    else .ok (records.insert call.workshop call.renderedDigest)

/-- `record_immutable_release_route_candidate`. -/
def recordOverlay (overlay : OverlayKind) (call : RecordCall) : ReleaseState × ReleaseOutcome :=
  if sqlDigest call.renderedDigest = false then (s, .invalid)
  else
    match s.authorized lease with
    | none => (s, .authorityLost)
    | some publication =>
      match overlay, publication.phase with
      | .maintenance, .live (.maintenanceStaging prior records) =>
        match recordEntry publication.identity.owners records call with
        | .error outcome => (s, outcome)
        | .ok records =>
          (s.withPhase lease.driverOperation publication
            (.live (.maintenanceStaging prior records)), .recorded)
      | .candidate, .live (.candidateStaging maintenance records) =>
        match recordEntry publication.identity.owners records call with
        | .error outcome => (s, outcome)
        | .ok records =>
          (s.withPhase lease.driverOperation publication
            (.live (.candidateStaging maintenance records)), .recorded)
      | _, _ => (s, .wrongPhase)

/-- The checks of a seal on the staged records. -/
def sealCheck (env : DatabaseEnvironment) (identity : ReleaseIdentity) (overlay : OverlayKind)
    (prior : Option PriorRoutes) (records : OverlayRecords) (call : SealCall) :
    Except ReleaseOutcome PriorRoutes :=
  if call.directory.valid = false ∨ call.count ≠ identity.owners.length ∨
      call.selector ≠ identity.selector overlay then .error .invalid
  else
    match prior with
    | none => .error .priorAbsent
    | some prior =>
      if call.digest ≠ overlayDigest env identity.owners records then .error .digestMismatch
      else if call.count ≠ records.entries.length then .error .countMismatch
      else .ok prior

/-- The overlay was sealed with exactly these values. -/
def sealRepeated (identity : ReleaseIdentity) (overlay : OverlayKind)
    (sealing : Option OverlaySeal) (call : SealCall) : Bool :=
  decide (sealing = some ⟨call.digest, call.directory⟩) &&
    decide (call.count = identity.owners.length) &&
    decide (call.selector = identity.selector overlay)

/-- `seal_immutable_release_route_overlay`. -/
def sealOverlay (overlay : OverlayKind) (call : SealCall) : ReleaseState × ReleaseOutcome :=
  match s.authorized lease with
  | none => (s, .authorityLost)
  | some publication =>
    let identity := publication.identity
    match overlay, publication.phase with
    | .maintenance, .live (.maintenanceStaging prior records) =>
      match sealCheck env identity .maintenance prior records call with
      | .error outcome => (s, outcome)
      | .ok prior =>
        (s.withPhase lease.driverOperation publication
          (.live (.maintenanceSealed ⟨prior, ⟨call.digest, call.directory⟩⟩)), .sealed)
    | .candidate, .live (.candidateStaging maintenance records) =>
      match sealCheck env identity .candidate (some maintenance.prior) records call with
      | .error outcome => (s, outcome)
      | .ok _ =>
        (s.withPhase lease.driverOperation publication (.live (.candidateSealed maintenance
            ⟨records, ⟨call.digest, call.directory⟩⟩)), .sealed)
    | .maintenance, .live stage =>
      if sealRepeated identity .maintenance (stage.maintenance.map MaintenanceEvidence.sealing)
          call then (s, .replay)
      else (s, .wrongPhase)
    | .candidate, .live stage =>
      if sealRepeated identity .candidate (stage.candidate.map CandidateEvidence.sealing)
          call then (s, .replay)
      else (s, .wrongPhase)
    | _, _ => (s, .wrongPhase)

/-! ## Publishing -/

/-- `start_immutable_release_route_publication`. -/
def startOverlay (overlay : OverlayKind) : ReleaseState × ReleaseOutcome :=
  match s.authorized lease with
  | none => (s, .authorityLost)
  | some publication =>
    match overlay, publication.phase with
    | .maintenance, .live (.maintenancePublicationStarted _)
    | .candidate, .live (.candidatePublicationStarted _ _) => (s, .replay)
    | .maintenance, .live (.maintenanceSealed maintenance) =>
      (s.withPhase lease.driverOperation publication
        (.live (.maintenancePublicationStarted maintenance)), .started)
    | .candidate, .live (.candidateSealed maintenance candidate) =>
      (s.withPhase lease.driverOperation publication
        (.live (.candidatePublicationStarted maintenance candidate)), .started)
    | _, _ => (s, .wrongPhase)

/-- The reported identity is the release's. -/
def identityObserved (identity : ReleaseIdentity) (id : Uuid) (overlay : OverlayKind)
    (call : ObservationCall) : Bool :=
  decide (call.protocolVersion = 1) && decide (call.fleetRun = identity.fleetRun) &&
    decide (call.driverOperation = id) && decide (call.globalFence = identity.globalFence) &&
    decide (call.overlay = overlay) && decide (call.targetSlot = identity.targetSlot)

/-- The reported overlay is not the sealed one. An overlay that has no seal yet is compared
with nothing, and the phase refuses it afterwards. -/
def sealMissed (identity : ReleaseIdentity) (overlay : OverlayKind)
    (sealing : Option OverlaySeal) (call : ObservationCall) : Bool :=
  decide (call.selector ≠ identity.selector overlay) ||
    sealing.any fun sealing => decide (sealing ≠ ⟨call.digest, call.directory⟩)

/-- `observe_immutable_release_route_publication`. -/
def observeOverlay (overlay : OverlayKind)
    (call : ObservationCall) : Except ReleaseRaised (ReleaseState × ReleaseOutcome) :=
  match s.authorized lease with
  | none => .ok (s, .authorityLost)
  | some publication =>
    let identity := publication.identity
    let id := lease.driverOperation
    if identityObserved identity id overlay call = false then .ok (s, .identityMismatch)
    else
      match overlay, publication.phase with
      | .maintenance, .live stage =>
        if sealMissed identity .maintenance
            (stage.maintenance.map MaintenanceEvidence.sealing) call then
          .ok (s, .observationMismatch)
        else
          match stage with
          | .maintenanceObserved _ => .ok (s, .replay)
          | .maintenancePublicationStarted maintenance =>
            .ok (s.withPhase id publication (.live (.maintenanceObserved maintenance)), .observed)
          | _ => .ok (s, .wrongPhase)
      | .candidate, .live stage =>
        if sealMissed identity .candidate (stage.candidate.map CandidateEvidence.sealing) call then
          .ok (s, .observationMismatch)
        else
          match stage with
          | .awaitingWorkerFinalize _ _ => .ok (s, .replay)
          | .candidatePublicationStarted maintenance candidate =>
            match advanceHeads s.publications id candidate.records frozenHead
                .headAdvancementDrifted identity.owners s.shared.heads with
            | .error raised => .error raised
            | .ok heads =>
              .ok ({ s with shared := { s.shared with heads := heads } }.withPhase id
                publication (.live (.awaitingWorkerFinalize maintenance candidate)),
                .observed)
          | _ => .ok (s, .wrongPhase)
      | _, _ => .ok (s, .wrongPhase)

/-- `begin_immutable_release_external_effects`. -/
def beginExternalEffects : ReleaseState × ReleaseOutcome :=
  match s.authorized lease with
  | none => (s, .authorityLost)
  | some publication =>
    match publication.phase with
    | .live (.candidateStaging _ _) => (s, .replay)
    | .live (.maintenanceObserved maintenance) =>
      (s.withPhase lease.driverOperation publication
        (.live (.candidateStaging maintenance ∅)), .started)
    | _ => (s, .wrongPhase)

/-! ## Quarantine -/

/-- The reason that an interrupted release leaves its routes with. -/
def outcomeUnknownError : String := "release_route_publication_outcome_unknown"

def quarantinedRoute (lease : ReleaseLease) (owner : RouteOwner) (route : AuthorityLease) :
    AuthorityLease :=
  { route with
    phase := .quarantined (.releaseOverlay lease.driverOperation) (some owner.target)
      lease.instanceOwner outcomeUnknownError }

/-- The route is in quarantine for the release. -/
def routeQuarantined (lease : ReleaseLease) (owner : RouteOwner) (route : AuthorityLease) :
    Bool :=
  decide (route.fence = owner.routeFence) &&
    decide (route.phase = .quarantined (.releaseOverlay lease.driverOperation)
      (some owner.target) lease.instanceOwner outcomeUnknownError)

def fleetQuarantined (lease : ReleaseLease) (fleet : GlobalLease) : Bool :=
  decide (fleet.fence = lease.globalFence) &&
    decide (fleet.phase = .quarantined (.release lease.driverOperation) lease.instanceOwner)

/-- Every row of the release is in quarantine. -/
def allQuarantined (owners : List RouteOwner) : Bool :=
  owners.all (fun owner =>
      (s.shared.leases.lookup owner.workshop).any (routeQuarantined lease owner)) &&
    fleetQuarantined lease s.shared.fleet &&
    (s.shared.drivers.lookup lease.driverOperation).any fun driver =>
      decide (driver.state = .outcomeUnknown)

def mayQuarantineEarly : Stage → Bool
  | .maintenanceStaging .. | .maintenanceSealed .. => false
  | _ => true

/-- `quarantine_immutable_release_route_publication`. -/
def quarantineRelease (safeError : String) : ReleaseState × Bool :=
  let id := lease.driverOperation
  if safeError ≠ outcomeUnknownError then (s, false)
  else
    match s.publications.lookup id, s.shared.drivers.lookup id with
    | some publication, some driver =>
      let owners := publication.identity.owners
      if publication.identity.lease id ≠ lease then (s, false)
      else
        match publication.phase with
        | .quarantined _ => (s, s.allQuarantined lease owners)
        | .completed _ _ => (s, false)
        | .live stage =>
          match fleetHeldUntil s.shared.fleet lease, executingUntil driver lease with
          | some fleetUntil, some driverUntil =>
            if owners.all (fun owner => (s.routeUntil lease owner).isSome) = false then
              (s, false)
            else
              let expired := decide (fleetUntil ≤ s.now) || decide (driverUntil ≤ s.now) ||
                owners.any fun owner => !s.live (s.routeUntil lease owner)
              if expired = false ∧ mayQuarantineEarly stage = false then (s, false)
              else
                ({ s with
                  shared := { s.shared with
                    fleet := { s.shared.fleet with
                      phase := .quarantined (.release id) lease.instanceOwner }
                    drivers := s.shared.drivers.insert id
                      { driver with state := .outcomeUnknown }
                    leases := mapRoutes (quarantinedRoute lease) owners s.shared.leases }
                  }.withPhase id publication (.quarantined stage), true)
          | _, _ => (s, false)
    | _, _ => (s, false)

/-! ## The end of a release -/

/-- The routes are held for the release and show the candidate. -/
def candidateShown (candidate : CandidateEvidence) (owners : List RouteOwner) : Bool :=
  owners.all fun owner =>
    s.live (s.routeUntil lease owner) &&
      (candidate.records.lookup owner.workshop).any fun renderedDigest =>
        (s.shared.heads.lookup owner.workshop).any
          (showsCandidate lease.driverOperation owner renderedDigest)

def idleRoute (route : AuthorityLease) : AuthorityLease :=
  { route with initializationRequired := false, phase := .idle }

/-- `finish_immutable_release_route_publication_before_recovery`. -/
def finishBeforeRecovery (publication : ReleasePublication) (response : Json) :
    ReleaseState × ReleaseOutcome :=
  let id := lease.driverOperation
  let identity := publication.identity
  match completionEvidence env response, publication.phase with
  | none, _ => (s, .invalid)
  | some evidence, .live (.awaitingWorkerFinalize maintenance candidate) =>
    match s.shared.drivers.lookup id, s.runs.lookup identity.fleetRun with
    | some driver, some run =>
      if (s.adoptedBy identity.controlOperation.id identity.controlOperation.attempt
            identity.controlOperation.owner &&
          s.live (executingUntil driver lease) &&
          decide (driver.executorProtocolVersion = some 1) &&
          decide (driver.snapshotProtocolVersion = some 2) &&
          (decide (run.state = .preparing) || decide (run.state = .activating)) &&
          run.driverFence.all (fun fence => decide (fence = lease.globalFence)) &&
          s.live (fleetHeldUntil s.shared.fleet lease)) = false then (s, .authorityLost)
      else if s.candidateShown lease candidate identity.owners = false then (s, .stateDrift)
      else
        match run.release, run.intent identity with
        | some release, intent :: _ =>
          if intent.observed = false then (s, .stateDrift)
          else if evidenceMatches id identity run release intent evidence = false then
            (s, .invalid)
          else
            ({ s with
              completions := s.completions.insert id
                ⟨identity.selector .candidate, candidate.sealing, response⟩
              shared := { s.shared with
                fleet := { s.shared.fleet with phase := .idle }
                drivers := s.shared.drivers.insert id
                  { driver with state := .succeeded response }
                leases := mapRoutes (fun _ => idleRoute) identity.owners
                  s.shared.leases } }.withPhase id publication
                    (.completed maintenance candidate), .finished)
        | _, [] => (s, .stateDrift)
        | none, _ => (s, .invalid)
    | _, _ => (s, .authorityLost)
  | some _, _ => (s, .wrongPhase)

/-- `finish_immutable_release_route_publication`. A stored response answers the call,
whatever the phase of the release. -/
def finishRelease (response : Json) : ReleaseState × ReleaseOutcome × Option Json :=
  let id := lease.driverOperation
  match s.publications.lookup id with
  | none => (s, .notFound, none)
  | some publication =>
    if publication.identity.lease id ≠ lease then (s, .conflict, none)
    else
      match s.completions.lookup id with
      | some completion =>
        if completion.storedResponse = response then (s, .replay, some response)
        else (s, .conflict, none)
      | none =>
        let (t, outcome) := s.finishBeforeRecovery env lease publication response
        (t, outcome, if outcome = .finished then some response else none)

end ReleaseState

/-! ## A release of one workshop -/

def sampleOperation : Uuid := 0x00000000000040008000000000000008

def sampleRun : Uuid := 0x00000000000040008000000000000030

/-- The lease that the sample release presents. -/
def sampleLease : ReleaseLease where
  driverOperation := sampleOperation
  instanceOwner := 20
  executionToken := 21
  globalLeaseToken := 22
  routeLeaseToken := 23
  globalFence := 1

def sampleOwner : RouteOwner where
  workshop := 1
  target := ⟨2, "sha256:2"⟩
  appliedRenderedDigest := "sha256:a"
  appliedFence := 1
  snapshotFence := 1

/-- An operation that adopts a release. -/
def sampleAdoption : OperationRow :=
  { OperationRow.enqueued .odooReleaseAdopt none none none
      (.object [("phase", .string "adopt")]) 0 with
    state := .inFlight ⟨"worker-a", seconds 60⟩
    attempt := 1 }

/-- The release is adopted for one workshop. Its driver holds the shared lease, and no route
is taken yet. -/
def beforeRelease : ReleaseState where
  queue := ⟨0, AList.insert 3 sampleAdoption ∅, []⟩
  shared := {
    fleet := ⟨1, .held (.release sampleOperation) 20 22 (seconds 60)⟩
    leases := AList.insert 1 ⟨1, false, .idle⟩ ∅
    heads := AList.insert 1
      ⟨some sampleOwner.route, some ⟨sampleOwner.route, "sha256:a", .driver 7, 1⟩⟩ ∅
    drivers := AList.insert sampleOperation
      ⟨⟨3, 1, "worker-a"⟩, some 1, some 2, .executing 21 (seconds 60)⟩ ∅
    snapshots := AList.insert sampleOperation
      ⟨sampleRun, 1, [sampleOwner], by decide, by decide⟩ ∅ }
  activeSlot := some .blue
  runs := AList.insert sampleRun
    ⟨3, "release", .preparing, none, none, 1, .array [], none, [], []⟩ ∅
  publications := ∅
  completions := ∅
  recoveries := ∅

/-- The state after the sample release took the route. -/
def admitted : ReleaseState := (beforeRelease.admitRelease sampleLease 60).1

end ControlPlane.Releases
