/-
# The locking statements of the route authority's functions

One list of statements for each way through a function, under the name of the function
and in the order of its source. A function that calls another has the statements of the
other at the place of the call. Of the conditions on a row only the key is kept: where a
row does not match, the function returns, or goes on without the lock.
-/

import ControlPlane.Authority.Locks

namespace ControlPlane.Authority

namespace Path

/-! ## Application of projections -/

def lockWorkshopRouteProjection : Path :=
  [.operation .operation, .fleetLease, .routeLease .workshop]

def materializeWorkshopRouteProjectionV1 : Path := [.operation .operation]

def materializeWorkshopRouteProjection : Path :=
  lockWorkshopRouteProjection ++ materializeWorkshopRouteProjectionV1

def materializeWorkshopRouteTombstone : Path := lockWorkshopRouteProjection

/-- The receipt is the one of an expired lease, or the one that the request finds. -/
def admitWorkshopRouteApplicationV1 : Path :=
  [.operation .operation, .fleetLease, .routeLease .workshop, .receipt .driverOperation,
    .routeLease .workshop]

def admitWorkshopRouteApplicationFlatV1 : Path :=
  [.operation .operation, .fleetLease, .routeLease .workshop] ++ admitWorkshopRouteApplicationV1

def admitWorkshopRouteApplication : Path :=
  .protocolState :: admitWorkshopRouteApplicationFlatV1

def renewWorkshopRouteApplication : Path :=
  [.operation .operation, .fleetLease, .routeLease .workshop, .receipt .driverOperation]

def finishWorkshopRouteApplicationV1 : Path :=
  [.routeLease .workshop, .receipt .driverOperation, .routeLease .workshop]

def finishWorkshopRouteApplication : Path :=
  .routeLease .workshop :: finishWorkshopRouteApplicationV1 ++ [.receipt .driverOperation]

/-! ## Recovery maintenance -/

def admitWorkshopRouteMaintenanceFlatV1 : Path :=
  [.operation .operation, .fleetLease, .routeLease .workshop, .effectRun .effectRun,
    .routeLease .workshop]

def admitWorkshopRouteMaintenance : Path :=
  .protocolState :: admitWorkshopRouteMaintenanceFlatV1

def beginWorkshopRouteMaintenance : Path := [.effectRun .effectRun]

def renewWorkshopRouteEffect : Path :=
  [.operation .operation, .fleetLease, .routeLease .workshop, .effectRun .effectRun]

def finishWorkshopRouteMaintenanceEntry : Path :=
  [.effectRun .effectRun, .routeLease .workshop, .effectRun .effectRun]

def claimWorkshopRouteMaintenanceExitFlatV1 : Path :=
  [.operation .operation, .fleetLease, .effectRun .effectRun, .routeLease .workshop,
    .effectRun .effectRun, .routeLease .workshop]

def claimWorkshopRouteMaintenanceExit : Path :=
  .protocolState :: claimWorkshopRouteMaintenanceExitFlatV1

def finishWorkshopRouteMaintenanceExit : Path :=
  [.effectRun .effectRun, .routeLease .workshop, .effectRun .effectRun]

/-! ## Startup rebuild -/

/-- The admission that reserves the fleet. -/
def admitStartupRouteRebuildAcquired : Path :=
  [.fleetLease, .routeLeases, .routeLeases, .fleetLease]

def admitStartupRouteRebuildFlatV1 : List Path :=
  [ -- An expired release or rebuild holds the shared runtime.
    [.fleetLease, .routeLeases, .receipt .driverOperation, .fleetLease],
    [.fleetLease, .routeLeases, .effectRun .effectRun, .fleetLease],
    -- The boot has a run.
    [.fleetLease, .routeLeases, .effectRun .effectRun],
    -- A route lease has expired.
    [.fleetLease, .routeLeases, .receipt .driverOperation, .routeLeaseOf .workshop],
    [.fleetLease, .routeLeases, .effectRun .effectRun, .routeLeaseOf .workshop],
    admitStartupRouteRebuildAcquired]

def admitStartupRouteRebuild : List Path :=
  admitStartupRouteRebuildFlatV1.map (.protocolState :: ·)

def initializeStartupRouteProjection : Path := [.effectRun .effectRun, .routeLease .workshop]

def beginStartupRouteRebuild : Path := [.effectRun .effectRun]

def renewStartupRouteRebuild : Path :=
  [.fleetLease, .routeLeases, .effectRun .effectRun, .effectRun .effectRun, .fleetLease,
    .routeLeases]

def recordStartupRouteCandidate : Path := [.effectRun .effectRun]

def recordStartupRouteCandidateV2 : Path :=
  [.fleetLease, .routeLease .workshop, .effectRun .effectRun]

def finishStartupRouteRebuild (run : Key) : Path :=
  [.effectRun run, .fleetLease, .routeLeases, .routeLeases, .effectRun run, .fleetLease]

/-- Only a success is checked against the leases before the older function is called. -/
def finishStartupRouteRebuildV2 (succeeded : Bool) (run : Key) : Path :=
  if succeeded then [.fleetLease, .routeLeases] ++ finishStartupRouteRebuild run
  else finishStartupRouteRebuild run

/-! ## Staged publication of a startup rebuild -/

/-- An admission that cannot be staged is cancelled in its own transaction. -/
def admitStagedStartupRoutePublication : List Path :=
  admitStartupRouteRebuild ++ [.protocolState :: admitStartupRouteRebuildAcquired ++
      finishStartupRouteRebuildV2 false .newEffectRun]

/-- One row of a join is locked: the run and then the lease, as the query lists them. -/
def recordStagedStartupRoutePrior : Path :=
  [.effectRun .effectRun, .fleetLease, .startupPublication]

def beginStagedStartupRoutePublication : Path :=
  .startupPublication :: beginStartupRouteRebuild

def recordStagedStartupRouteCandidate : Path := [.startupPublication, .startupPublication]

def sealStagedStartupRoutePublication : Path :=
  [.fleetLease, .routeLeases, .startupPublication, .startupPublication]

def startStagedStartupRoutePublication : Path := [.startupPublication]

def observeStagedStartupRoutePublication : Path := [.startupPublication]

def finishStagedStartupRoutePublication : Path :=
  .startupPublication :: finishStartupRouteRebuildV2 true .effectRun ++ [.startupPublication]

def abortStagedStartupRoutePublication : Path :=
  [.fleetLease, .routeLeases, .effectRun .effectRun, .startupPublication, .routeLeases,
    .effectRun .effectRun, .fleetLease, .startupPublication]

def claimInterruptedStartupRoutePublicationFlatV1 : Path :=
  [.fleetLease, .startupPublication, .effectRun .effectRun, .routeLeases, .startupPublication,
    .routeLeases, .effectRun .effectRun, .fleetLease, .startupPublication]

def claimInterruptedStartupRoutePublication : Path :=
  .protocolState :: claimInterruptedStartupRoutePublicationFlatV1

def finishInterruptedStartupRoutePublication : List Path :=
  [[.fleetLease, .startupPublication, .routeLeases, .startupPublication],
    [.fleetLease, .startupPublication, .routeLeases, .effectRun .effectRun, .routeLeases,
      .fleetLease, .startupPublication]]

/-! ## Release of the shared runtime -/

def admitReleaseDriverOperationV1 : List Path :=
  [ -- The holder of the shared runtime has expired.
    [.operation .operation, .fleetLease, .routeLeases, .receipt .driverOperation, .fleetLease],
    -- The request has a receipt.
    [.operation .operation, .fleetLease, .routeLeases, .receipt .driverOperation,
      .receipt .driverOperation],
    -- Expired route leases are quarantined, and the request is refused or admitted.
    [.operation .operation, .fleetLease, .routeLeases, .receipts, .routeLeases, .fleetLease]]

/-- The function with the most arguments calls the one with fewer, which locks the
protocol state again. -/
def admitReleaseDriverOperation : List Path :=
  admitReleaseDriverOperationV1.map (.protocolState :: ·) ++
    admitReleaseDriverOperationV1.map ([.protocolState, .protocolState] ++ ·)

def renewReleaseDriverLeasePreRoutePublication : Path :=
  [.operation .operation, .fleetLease, .receipt .driverOperation]

def renewReleaseDriverLease : Path :=
  [.operation .operation, .fleetLease, .receipt .driverOperation] ++
    renewReleaseDriverLeasePreRoutePublication

def finishReleaseDriverOperationPreRoutePublication : Path :=
  [.fleetLease, .receipt .driverOperation, .fleetLease]

def finishReleaseDriverOperation : Path :=
  [.fleetLease, .receipt .driverOperation] ++ finishReleaseDriverOperationPreRoutePublication

def admitInitialReleaseReconciliation : Path :=
  [.protocolState, .operation .operation, .fleetLease, .receipt .driverOperation]

def finishInitialReleaseReconciliation : Path :=
  [.operation .operation, .fleetLease, .receipt .driverOperation, .receipt .driverOperation,
    .fleetLease]

def admitFleetReleaseReconciliationPreRoutePublication : Path :=
  [.operation .operation, .fleetLease, .receipt .driverOperation]

def admitFleetReleaseReconciliation : Path :=
  [.protocolState, .operation .operation, .fleetLease, .receipt .driverOperation] ++
    admitFleetReleaseReconciliationPreRoutePublication

def finishFleetReleaseReconciliationPreRoutePublication : Path :=
  [.operation .operation, .fleetLease, .receipt .driverOperation, .receipt .driverOperation,
    .fleetLease]

def finishFleetReleaseReconciliation : Path :=
  [.operation .operation, .fleetLease, .receipt .driverOperation] ++
    finishFleetReleaseReconciliationPreRoutePublication

/-! ## Publication of a release -/

def lockImmutableReleaseRouteAuthority : Path :=
  [.operation .operation, .fleetLease, .routeLeases, .receipt .driverOperation, .releasePublication]

def admitImmutableReleaseRoutePublication : Path :=
  [.protocolState, .operation .operation, .fleetLease, .routeLeases, .receipt .driverOperation,
    .releasePublication, .routeLeases]

def renewImmutableReleaseRoutePublication : Path :=
  lockImmutableReleaseRouteAuthority ++ [.fleetLease, .receipt .driverOperation, .routeLeases]

def readImmutableReleaseRouteSnapshotBatch : Path := lockImmutableReleaseRouteAuthority

/-- The functions that record a step of the publication lock its row again and update it:
the prior selector, a candidate, the seal, the start, the observation, and the effects
outside the gateway. -/
def recordImmutableReleaseRouteStep : Path :=
  lockImmutableReleaseRouteAuthority ++ [.releasePublication, .releasePublication]

def quarantineImmutableReleaseRoutePublication : Path :=
  [.operation .operation, .fleetLease, .routeLeases, .receipt .driverOperation,
    .releasePublication, .receipt .driverOperation, .fleetLease, .routeLeases,
    .releasePublication]

def finishImmutableReleaseRoutePublication : Path :=
  [.operation .operation, .fleetLease, .routeLeases, .receipt .driverOperation,
    .releasePublication, .receipt .driverOperation, .routeLeases, .fleetLease,
    .releasePublication]

/-! ## Recovery of a release's publication -/

def lockImmutableReleaseRouteRecoveryClaim : Path :=
  [.operation .operation, .protocolState, .fleetLease, .routeLeases, .receipt .driverOperation,
    .releasePublication]

def lockImmutableReleaseRouteRecoveryReview : Path :=
  [.operation .operation, .protocolState, .fleetLease, .routeLeases, .receipt .driverOperation,
    .releasePublication]

def claimInterruptedImmutableReleaseRoutePublication : Path :=
  [.operation .operation, .protocolState, .fleetLease, .routeLeases, .receipt .driverOperation,
    .releasePublication] ++ quarantineImmutableReleaseRoutePublication

def renewInterruptedImmutableReleaseRoutePublicationClaim : Path :=
  [.operation .operation, .protocolState]

def finishInterruptedImmutableReleaseRoutePublication : Path :=
  lockImmutableReleaseRouteRecoveryClaim ++ lockImmutableReleaseRouteRecoveryClaim ++
    [.receipt .driverOperation, .routeLeases, .fleetLease]

/-! ## Route-set publication -/

/-- The authority of a projection rests on a receipt, that of a recovery on a run. -/
def lockRouteSetPublicationAuthority (owner : Statement) : Path :=
  [.protocolState, .operation .operation, .fleetLease, .routeLease .workshop, owner,
    .routeSetPublication]

def authorityOwners : List Statement := [.receipt .driverOperation, .effectRun .effectRun]

def admitRouteSetPublication : List Path :=
  [[.protocolState, .operation .operation, .protocolState, .fleetLease, .routeLeases,
      .receipt .driverOperation, .routeSetPublication],
    [.protocolState, .operation .operation, .protocolState, .fleetLease, .routeLeases, .fleetLease,
      .routeLeaseOf .workshop]]

def renewRouteSetPublication : List Path :=
  authorityOwners.map fun owner =>
    lockRouteSetPublicationAuthority owner ++ [owner, .fleetLease, .routeLease .workshop]

def readRouteSetPublicationSnapshotBatch : List Path :=
  authorityOwners.map lockRouteSetPublicationAuthority

/-- The functions that record a step of the publication lock its row again and update it:
the prior selector, an entry, the seal, the start and the observation. -/
def recordRouteSetPublicationStep : List Path :=
  authorityOwners.map fun owner =>
    lockRouteSetPublicationAuthority owner ++ [.routeSetPublication, .routeSetPublication]

def quarantineRouteSetPublication : List Path :=
  [[.protocolState, .operation .operation, .protocolState, .fleetLease, .routeLease .workshop,
      .receipt .driverOperation, .routeSetPublication, .fleetLease, .routeLease .workshop,
      .receipt .driverOperation, .routeSetPublication],
    [.protocolState, .operation .operation, .fleetLease, .routeLease .workshop,
      .effectRun .effectRun, .routeSetPublication, .fleetLease, .routeLease .workshop,
      .effectRun .effectRun, .routeSetPublication]]

def finishRouteSetRecoveryPublication : List Path :=
  [lockRouteSetPublicationAuthority (.receipt .driverOperation) ++ [.routeSetPublication],
    lockRouteSetPublicationAuthority (.effectRun .effectRun) ++
      [.routeSetPublication, .effectRun .effectRun, .routeLease .workshop, .effectRun .effectRun,
        .fleetLease, .routeSetPublication]]

def finishRouteSetPublication : List Path :=
  finishRouteSetRecoveryPublication.map (.protocolState :: ·) ++
    [[.protocolState, .operation .operation, .protocolState, .fleetLease, .routeLease .workshop,
      .receipt .driverOperation, .routeSetPublication, .receipt .driverOperation,
      .routeLease .workshop, .fleetLease, .routeSetPublication]]

def admitRouteSetRecoveryMaintenance : Path :=
  [.protocolState, .operation .operation, .fleetLease, .routeLeases, .effectRun .effectRun,
    .fleetLease, .routeLeaseOf .workshop]

def admitRouteSetRecoveryRestore : Path :=
  [.protocolState, .operation .operation, .fleetLease, .routeLeases, .effectRun .effectRun,
    .effectRun .effectRun, .fleetLease, .routeLeaseOf .workshop]

def lockInterruptedRouteSetPublicationClaim : List Path :=
  [[.protocolState, .operations .operation .reconciliationOperation, .protocolState, .fleetLease,
      .routeLease .workshop, .receipt .driverOperation, .routeSetPublication],
    [.protocolState, .operations .operation .reconciliationOperation, .fleetLease,
      .routeLease .workshop, .effectRun .effectRun, .routeSetPublication]]

def claimInterruptedRouteSetPublication : List Path :=
  [[.protocolState, .operations .operation .reconciliationOperation, .protocolState, .fleetLease,
      .routeLease .workshop, .receipt .driverOperation, .routeSetPublication, .fleetLease,
      .routeLease .workshop, .receipt .driverOperation, .routeSetPublication],
    [.protocolState, .operations .operation .reconciliationOperation, .fleetLease,
      .routeLease .workshop, .effectRun .effectRun, .routeSetPublication, .fleetLease,
      .routeLease .workshop, .effectRun .effectRun, .routeSetPublication]]

def renewInterruptedRouteSetPublicationClaim : List Path :=
  lockInterruptedRouteSetPublicationClaim.map (· ++ [.routeSetPublication])

def resolveInterruptedRouteSetPublicationObservation : List Path :=
  lockInterruptedRouteSetPublicationClaim.map (· ++ [.routeSetPublication, .routeSetPublication])

def finishRouteSetPublicationRecovery : List Path :=
  [[.protocolState, .operations .operation .reconciliationOperation, .protocolState, .fleetLease,
      .routeLease .workshop, .receipt .driverOperation, .routeSetPublication,
      .receipt .driverOperation, .routeLease .workshop, .fleetLease, .routeSetPublication],
    [.protocolState, .operations .operation .reconciliationOperation, .fleetLease,
      .routeLease .workshop, .effectRun .effectRun, .routeSetPublication, .effectRun .effectRun,
      .effectRun .effectRun, .routeLease .workshop, .fleetLease, .routeSetPublication]]

/-! ## Route-set publication at startup -/

def lockRouteSetStartupAuthority : Path :=
  [.protocolState, .fleetLease, .routeLeases, .effectRun .effectRun, .routeSetPublication]

/-- An admission that cannot be published is cancelled in its own transaction. -/
def admitRouteSetStartupPublication : List Path :=
  admitStartupRouteRebuildFlatV1.map ([.protocolState, .fleetLease, .routeLeases] ++ ·) ++
    [[.protocolState, .fleetLease, .routeLeases] ++ admitStartupRouteRebuildAcquired ++
        finishStartupRouteRebuildV2 false .newEffectRun,
      [.protocolState, .fleetLease, .routeLeases] ++ admitStartupRouteRebuildAcquired ++
        [.fleetLease, .routeLeases]]

def renewRouteSetStartupPublication : Path :=
  lockRouteSetStartupAuthority ++ [.effectRun .effectRun, .fleetLease, .routeLeases]

/-- The functions that record a step of the publication update its row, and the run when
the prior selector is recorded. -/
def recordRouteSetStartupStep : Path :=
  lockRouteSetStartupAuthority ++ [.routeSetPublication, .effectRun .effectRun]

def finishRouteSetStartupPublication : Path :=
  lockRouteSetStartupAuthority ++
    [.effectRun .effectRun, .routeLeases, .fleetLease, .routeSetPublication]

def quarantineRouteSetStartupPublication : Path :=
  [.protocolState, .fleetLease, .routeLeases, .effectRun .effectRun, .routeSetPublication,
    .fleetLease, .routeLeases, .effectRun .effectRun, .routeSetPublication]

def claimInterruptedRouteSetStartupPublication : Path :=
  [.protocolState, .fleetLease, .routeLeases, .effectRun .effectRun, .routeSetPublication] ++
    quarantineRouteSetStartupPublication

def resolveInterruptedRouteSetStartupPublicationObservation : Path :=
  [.protocolState, .routeSetPublication]

def finishRouteSetStartupPublicationRecovery : Path :=
  [.protocolState, .fleetLease, .routeLeases, .effectRun .effectRun, .routeSetPublication,
    .effectRun .effectRun, .routeLeases, .fleetLease]

end Path

/-! ## The functions -/

/-- The functions that an application can call. -/
inductive Procedure
  | lockWorkshopRouteProjection
  | materializeWorkshopRouteProjection
  | materializeWorkshopRouteTombstone
  | admitWorkshopRouteApplication
  | renewWorkshopRouteApplication
  | finishWorkshopRouteApplication
  | admitWorkshopRouteMaintenance
  | beginWorkshopRouteMaintenance
  | renewWorkshopRouteEffect
  | finishWorkshopRouteMaintenanceEntry
  | claimWorkshopRouteMaintenanceExit
  | finishWorkshopRouteMaintenanceExit
  | admitStartupRouteRebuild
  | initializeStartupRouteProjection
  | beginStartupRouteRebuild
  | renewStartupRouteRebuild
  | recordStartupRouteCandidate
  | recordStartupRouteCandidateV2
  | finishStartupRouteRebuild
  | finishStartupRouteRebuildV2 (succeeded : Bool)
  | admitStagedStartupRoutePublication
  | recordStagedStartupRoutePrior
  | beginStagedStartupRoutePublication
  | recordStagedStartupRouteCandidate
  | sealStagedStartupRoutePublication
  | startStagedStartupRoutePublication
  | observeStagedStartupRoutePublication
  | finishStagedStartupRoutePublication
  | abortStagedStartupRoutePublication
  | claimInterruptedStartupRoutePublication
  | finishInterruptedStartupRoutePublication
  | admitReleaseDriverOperation
  | renewReleaseDriverLease
  | finishReleaseDriverOperation
  | admitInitialReleaseReconciliation
  | finishInitialReleaseReconciliation
  | admitFleetReleaseReconciliation
  | finishFleetReleaseReconciliation
  | admitImmutableReleaseRoutePublication
  | renewImmutableReleaseRoutePublication
  | readImmutableReleaseRouteSnapshotBatch
  | recordImmutableReleaseRoutePrior
  | recordImmutableReleaseRouteCandidate
  | sealImmutableReleaseRouteOverlay
  | startImmutableReleaseRoutePublication
  | observeImmutableReleaseRoutePublication
  | beginImmutableReleaseExternalEffects
  | quarantineImmutableReleaseRoutePublication
  | finishImmutableReleaseRoutePublication
  | claimInterruptedImmutableReleaseRoutePublication
  | renewInterruptedImmutableReleaseRoutePublicationClaim
  | readInterruptedImmutableReleaseRouteSnapshotBatch
  | readInterruptedImmutableReleaseRuntimeExpectation
  | recordInterruptedImmutableReleaseRouteCandidateEntry
  | sealInterruptedImmutableReleaseRouteCandidate
  | authorizeInterruptedImmutableReleaseRouteExchange
  | authorizeInterruptedImmutableReleaseRouteCandidateFromObservation
  | recordInterruptedImmutableReleaseRuntimeObservation
  | resolveInterruptedImmutableReleaseRoutePublication
  | reviewInterruptedImmutableReleaseRuntimeObservation
  | finishInterruptedImmutableReleaseRoutePublication
  | finishReviewedInterruptedImmutableReleaseRoutePublication
  | admitRouteSetPublication
  | renewRouteSetPublication
  | readRouteSetPublicationSnapshotBatch
  | recordRouteSetPublicationPrior
  | recordRouteSetPublicationEntry
  | sealRouteSetPublication
  | startRouteSetPublication
  | observeRouteSetPublication
  | quarantineRouteSetPublication
  | finishRouteSetRecoveryPublication
  | finishRouteSetPublication
  | admitRouteSetRecoveryMaintenance
  | admitRouteSetRecoveryRestore
  | claimInterruptedRouteSetPublication
  | renewInterruptedRouteSetPublicationClaim
  | resolveInterruptedRouteSetPublicationObservation
  | finishRouteSetPublicationRecovery
  | admitRouteSetStartupPublication
  | renewRouteSetStartupPublication
  | recordRouteSetStartupPrior
  | recordRouteSetStartupEntry
  | sealRouteSetStartupPublication
  | startRouteSetStartupPublication
  | observeRouteSetStartupPublication
  | finishRouteSetStartupPublication
  | quarantineRouteSetStartupPublication
  | claimInterruptedRouteSetStartupPublication
  | resolveInterruptedRouteSetStartupPublicationObservation
  | finishRouteSetStartupPublicationRecovery

open ControlPlane.Authority.Path in
/-- The ways through a function. -/
def lockPaths : Procedure → List Path
  | .lockWorkshopRouteProjection => [lockWorkshopRouteProjection]
  | .materializeWorkshopRouteProjection => [materializeWorkshopRouteProjection]
  | .materializeWorkshopRouteTombstone => [materializeWorkshopRouteTombstone]
  | .admitWorkshopRouteApplication => [admitWorkshopRouteApplication]
  | .renewWorkshopRouteApplication => [renewWorkshopRouteApplication]
  | .finishWorkshopRouteApplication => [finishWorkshopRouteApplication]
  | .admitWorkshopRouteMaintenance => [admitWorkshopRouteMaintenance]
  | .beginWorkshopRouteMaintenance => [beginWorkshopRouteMaintenance]
  | .renewWorkshopRouteEffect => [renewWorkshopRouteEffect]
  | .finishWorkshopRouteMaintenanceEntry => [finishWorkshopRouteMaintenanceEntry]
  | .claimWorkshopRouteMaintenanceExit => [claimWorkshopRouteMaintenanceExit]
  | .finishWorkshopRouteMaintenanceExit => [finishWorkshopRouteMaintenanceExit]
  | .admitStartupRouteRebuild => admitStartupRouteRebuild
  | .initializeStartupRouteProjection => [initializeStartupRouteProjection]
  | .beginStartupRouteRebuild => [beginStartupRouteRebuild]
  | .renewStartupRouteRebuild => [renewStartupRouteRebuild]
  | .recordStartupRouteCandidate => [recordStartupRouteCandidate]
  | .recordStartupRouteCandidateV2 => [recordStartupRouteCandidateV2]
  | .finishStartupRouteRebuild => [finishStartupRouteRebuild .effectRun]
  | .finishStartupRouteRebuildV2 succeeded => [finishStartupRouteRebuildV2 succeeded .effectRun]
  | .admitStagedStartupRoutePublication => admitStagedStartupRoutePublication
  | .recordStagedStartupRoutePrior => [recordStagedStartupRoutePrior]
  | .beginStagedStartupRoutePublication => [beginStagedStartupRoutePublication]
  | .recordStagedStartupRouteCandidate => [recordStagedStartupRouteCandidate]
  | .sealStagedStartupRoutePublication => [sealStagedStartupRoutePublication]
  | .startStagedStartupRoutePublication => [startStagedStartupRoutePublication]
  | .observeStagedStartupRoutePublication => [observeStagedStartupRoutePublication]
  | .finishStagedStartupRoutePublication => [finishStagedStartupRoutePublication]
  | .abortStagedStartupRoutePublication => [abortStagedStartupRoutePublication]
  | .claimInterruptedStartupRoutePublication => [claimInterruptedStartupRoutePublication]
  | .finishInterruptedStartupRoutePublication => finishInterruptedStartupRoutePublication
  | .admitReleaseDriverOperation => admitReleaseDriverOperation
  | .renewReleaseDriverLease => [renewReleaseDriverLease]
  | .finishReleaseDriverOperation => [finishReleaseDriverOperation]
  | .admitInitialReleaseReconciliation => [admitInitialReleaseReconciliation]
  | .finishInitialReleaseReconciliation => [finishInitialReleaseReconciliation]
  | .admitFleetReleaseReconciliation => [admitFleetReleaseReconciliation]
  | .finishFleetReleaseReconciliation => [finishFleetReleaseReconciliation]
  | .admitImmutableReleaseRoutePublication => [admitImmutableReleaseRoutePublication]
  | .renewImmutableReleaseRoutePublication => [renewImmutableReleaseRoutePublication]
  | .readImmutableReleaseRouteSnapshotBatch => [readImmutableReleaseRouteSnapshotBatch]
  | .recordImmutableReleaseRoutePrior | .recordImmutableReleaseRouteCandidate
  | .sealImmutableReleaseRouteOverlay | .startImmutableReleaseRoutePublication
  | .observeImmutableReleaseRoutePublication | .beginImmutableReleaseExternalEffects =>
    [recordImmutableReleaseRouteStep]
  | .quarantineImmutableReleaseRoutePublication => [quarantineImmutableReleaseRoutePublication]
  | .finishImmutableReleaseRoutePublication => [finishImmutableReleaseRoutePublication]
  | .claimInterruptedImmutableReleaseRoutePublication =>
    [claimInterruptedImmutableReleaseRoutePublication]
  | .renewInterruptedImmutableReleaseRoutePublicationClaim =>
    [renewInterruptedImmutableReleaseRoutePublicationClaim]
  | .readInterruptedImmutableReleaseRouteSnapshotBatch
  | .readInterruptedImmutableReleaseRuntimeExpectation
  | .recordInterruptedImmutableReleaseRouteCandidateEntry
  | .sealInterruptedImmutableReleaseRouteCandidate
  | .authorizeInterruptedImmutableReleaseRouteExchange
  | .authorizeInterruptedImmutableReleaseRouteCandidateFromObservation
  | .recordInterruptedImmutableReleaseRuntimeObservation
  | .resolveInterruptedImmutableReleaseRoutePublication =>
    [lockImmutableReleaseRouteRecoveryClaim]
  | .reviewInterruptedImmutableReleaseRuntimeObservation =>
    [lockImmutableReleaseRouteRecoveryReview]
  | .finishInterruptedImmutableReleaseRoutePublication
  | .finishReviewedInterruptedImmutableReleaseRoutePublication =>
    [finishInterruptedImmutableReleaseRoutePublication]
  | .admitRouteSetPublication => admitRouteSetPublication
  | .renewRouteSetPublication => renewRouteSetPublication
  | .readRouteSetPublicationSnapshotBatch => readRouteSetPublicationSnapshotBatch
  | .recordRouteSetPublicationPrior | .recordRouteSetPublicationEntry
  | .sealRouteSetPublication | .startRouteSetPublication | .observeRouteSetPublication =>
    recordRouteSetPublicationStep
  | .quarantineRouteSetPublication => quarantineRouteSetPublication
  | .finishRouteSetRecoveryPublication => finishRouteSetRecoveryPublication
  | .finishRouteSetPublication => finishRouteSetPublication
  | .admitRouteSetRecoveryMaintenance => [admitRouteSetRecoveryMaintenance]
  | .admitRouteSetRecoveryRestore => [admitRouteSetRecoveryRestore]
  | .claimInterruptedRouteSetPublication => claimInterruptedRouteSetPublication
  | .renewInterruptedRouteSetPublicationClaim => renewInterruptedRouteSetPublicationClaim
  | .resolveInterruptedRouteSetPublicationObservation =>
    resolveInterruptedRouteSetPublicationObservation
  | .finishRouteSetPublicationRecovery => finishRouteSetPublicationRecovery
  | .admitRouteSetStartupPublication => admitRouteSetStartupPublication
  | .renewRouteSetStartupPublication => [renewRouteSetStartupPublication]
  | .recordRouteSetStartupPrior | .recordRouteSetStartupEntry | .sealRouteSetStartupPublication
  | .startRouteSetStartupPublication | .observeRouteSetStartupPublication =>
    [recordRouteSetStartupStep]
  | .finishRouteSetStartupPublication => [finishRouteSetStartupPublication]
  | .quarantineRouteSetStartupPublication => [quarantineRouteSetStartupPublication]
  | .claimInterruptedRouteSetStartupPublication => [claimInterruptedRouteSetStartupPublication]
  | .resolveInterruptedRouteSetStartupPublicationObservation =>
    [resolveInterruptedRouteSetStartupPublicationObservation]
  | .finishRouteSetStartupPublicationRecovery => [finishRouteSetStartupPublicationRecovery]

end ControlPlane.Authority
