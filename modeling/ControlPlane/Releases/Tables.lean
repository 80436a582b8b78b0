/-
# The tables of immutable fleet releases

A fleet release replaces the routes of every workshop twice: by a maintenance overlay
before the runtime is exchanged, and by the candidate overlay after it. Its row keeps who
may publish, the workshops that it owns, and the evidence of every phase. The table checks
tie the evidence columns to the phase, so a phase carries the evidence that it requires.

Recovery of an interrupted release works on claims. Every table of recovery evidence has
the claim's fence in its primary key and refers to the claim, so the evidence is kept
inside the claim, and there is at most one row of each kind for a fence.

Timestamps that no function reads are left out. A timestamp that is only tested for
presence is present exactly in the phases whose constructor carries what it dates.
-/

import ControlPlane.Publications.Procedures

namespace ControlPlane.Releases

open Domain Driver Math Persistence
open Routes Publications

/-! ## Overlays -/

inductive Slot
  | blue
  | green
  deriving DecidableEq

def Slot.asStr : Slot → String
  | .blue => "blue"
  | .green => "green"

inductive OverlayKind
  | maintenance
  | candidate
  deriving DecidableEq

def OverlayKind.asStr : OverlayKind → String
  | .maintenance => "maintenance"
  | .candidate => "candidate"

/-- The directory that an overlay of a fleet run is selected by. -/
def overlaySelector (fleetRun : Uuid) (overlay : OverlayKind) : String :=
  "generations/release-" ++ fleetRun.simple ++ "-" ++ overlay.asStr

/-- A workshop whose route the release owns: the projection and the head that it had at
admission. -/
structure RouteOwner where
  workshop : Uuid
  target : RouteTarget
  appliedRenderedDigest : String
  (appliedFence snapshotFence : Nat)
  deriving DecidableEq

/-- The fence that the release takes a route under. -/
def RouteOwner.routeFence (owner : RouteOwner) : Nat := owner.snapshotFence + 1

/-- The route that the workshop shows, and is asked to show, during the release. -/
def RouteOwner.route (owner : RouteOwner) : DesiredRoute := ⟨owner.target, .present⟩

/-- The rendered digests that were recorded for an overlay. The other columns of a record
refer to the owner, and so repeat it. -/
abbrev OverlayRecords := Table Uuid String

structure OverlaySeal where
  digest : String
  directory : Directory
  deriving DecidableEq

/-- The bytes of one overlay record. -/
def overlayRecordBytes (owner : RouteOwner) (renderedDigest : String) : List UInt8 :=
  uuidSend owner.workshop ++ bigEndian 8 owner.target.generation ++
    lengthPrefixed owner.target.digest ++ lengthPrefixed owner.appliedRenderedDigest ++
    lengthPrefixed renderedDigest

/-- `release_route_overlay_digest` of the records, which are ordered as the owners are. -/
def overlayDigest (env : DatabaseEnvironment) (owners : List RouteOwner)
    (records : OverlayRecords) : String :=
  "sha256:" ++ hexDigest (env.sha256 (utf8 "mb-release-route-overlay-v1" ++ 0 ::
    owners.flatMap fun owner =>
      match records.lookup owner.workshop with
      | some renderedDigest => overlayRecordBytes owner renderedDigest
      | none => []))

/-! ## Publications -/

/-- The columns that never change, with the owner rows that are inserted with them. -/
structure ReleaseIdentity where
  (fleetRun instanceOwner executionToken globalLeaseToken routeLeaseToken : Uuid)
  globalFence : Nat
  controlOperation : ControlOperationLease
  targetSlot : Slot
  /-- The owned workshops in the order of their identifiers. -/
  owners : List RouteOwner
  /-- The snapshot count is between 1 and 500. -/
  ownersBounded : 1 ≤ owners.length ∧ owners.length ≤ 500
  /-- The owner rows are keyed by the workshop. -/
  ownersDistinct : (owners.map RouteOwner.workshop).Nodup
  deriving DecidableEq

def ReleaseIdentity.selector (identity : ReleaseIdentity) (overlay : OverlayKind) : String :=
  overlaySelector identity.fleetRun overlay

/-- What a call presents to act for a release. -/
structure ReleaseLease where
  (driverOperation instanceOwner executionToken globalLeaseToken routeLeaseToken : Uuid)
  globalFence : Nat
  deriving DecidableEq

/-- The tokens and the fence that were issued at admission. -/
def ReleaseIdentity.lease (identity : ReleaseIdentity) (driverOperation : Uuid) : ReleaseLease where
  driverOperation := driverOperation
  instanceOwner := identity.instanceOwner
  executionToken := identity.executionToken
  globalLeaseToken := identity.globalLeaseToken
  routeLeaseToken := identity.routeLeaseToken
  globalFence := identity.globalFence

/-- The identity that a worker with the overlay loaded reports. -/
def overlayIdentity (driverOperation : Uuid) (identity : ReleaseIdentity)
    (overlay : OverlayKind) (digest : String) : Json :=
  .object [ ("driver_operation_id", .string driverOperation.toText),
    ("fleet_run_id", .string identity.fleetRun.toText),
    ("original_global_fence_token", .number identity.globalFence),
    ("overlay_kind", .string overlay.asStr),
    ("protocol_version", .number 1),
    ("route_set_digest", .string digest),
    ("target_slot", .string identity.targetSlot.asStr)]

/-- The evidence of a sealed maintenance overlay, which requires the prior. -/
structure MaintenanceEvidence where
  prior : PriorRoutes
  sealing : OverlaySeal
  deriving DecidableEq

/-- The evidence of a sealed candidate overlay. -/
structure CandidateEvidence where
  records : OverlayRecords
  sealing : OverlaySeal
  deriving DecidableEq

/-- The phases of a live release with the evidence each of them requires. The external
effects have started from `candidateStaging` on. -/
inductive Stage
  | maintenanceStaging (prior : Option PriorRoutes) (records : OverlayRecords)
  | maintenanceSealed (maintenance : MaintenanceEvidence)
  | maintenancePublicationStarted (maintenance : MaintenanceEvidence)
  | maintenanceObserved (maintenance : MaintenanceEvidence)
  | candidateStaging (maintenance : MaintenanceEvidence) (records : OverlayRecords)
  | candidateSealed (maintenance : MaintenanceEvidence) (candidate : CandidateEvidence)
  | candidatePublicationStarted (maintenance : MaintenanceEvidence) (candidate : CandidateEvidence)
  | awaitingWorkerFinalize (maintenance : MaintenanceEvidence) (candidate : CandidateEvidence)
  deriving DecidableEq

namespace Stage

def maintenance : Stage → Option MaintenanceEvidence
  | .maintenanceStaging .. => none
  | .maintenanceSealed maintenance | .maintenancePublicationStarted maintenance
  | .maintenanceObserved maintenance | .candidateStaging maintenance _
  | .candidateSealed maintenance _ | .candidatePublicationStarted maintenance _
  | .awaitingWorkerFinalize maintenance _ => some maintenance

def candidate : Stage → Option CandidateEvidence
  | .candidateSealed _ candidate | .candidatePublicationStarted _ candidate
  | .awaitingWorkerFinalize _ candidate => some candidate
  | _ => none

def prior : Stage → Option PriorRoutes
  | .maintenanceStaging prior _ => prior
  | stage => stage.maintenance.map MaintenanceEvidence.prior

/-- `external_effects_started_at is not null`. -/
def effectsStarted : Stage → Bool
  | .candidateStaging .. | .candidateSealed .. | .candidatePublicationStarted ..
  | .awaitingWorkerFinalize .. => true
  | _ => false

/-- Nothing was recorded yet about what was selected before. -/
def withoutPrior : Stage → Bool
  | .maintenanceStaging none _ => true
  | _ => false

def isCandidateStaging : Stage → Bool
  | .candidateStaging .. => true
  | _ => false

def isAwaitingWorkerFinalize : Stage → Bool
  | .awaitingWorkerFinalize .. => true
  | _ => false

end Stage

inductive Phase
  | live (stage : Stage)
  | quarantined (interrupted : Stage)
  | completed (maintenance : MaintenanceEvidence) (candidate : CandidateEvidence)
  deriving DecidableEq

structure ReleasePublication where
  identity : ReleaseIdentity
  phase : Phase
  deriving DecidableEq

/-- The interrupted phase of a release in quarantine. -/
def ReleasePublication.interrupted (publication : ReleasePublication) : Option Stage :=
  match publication.phase with
  | .quarantined interrupted => some interrupted
  | _ => none

/-- The durable response of a release that was applied. -/
structure ReleaseCompletion where
  selector : String
  sealing : OverlaySeal
  storedResponse : Json
  deriving DecidableEq

/-! ## The driver's receipt and the frozen snapshot -/

/-- The states of the driver operation. An operation in progress either executes under a
token or has an unknown outcome. -/
inductive DriverState
  | executing (token : Uuid) (expiresAt : Timestamp)
  | outcomeUnknown
  | succeeded (response : Json)
  | failed (safeError : String)
  deriving DecidableEq

/-- A driver operation with the action `release`, which names no workshop. -/
structure ReleaseOperation where
  controlOperation : ControlOperationLease
  (executorProtocolVersion snapshotProtocolVersion : Option Nat)
  state : DriverState
  deriving DecidableEq

/-- The frozen routes of a fleet run. -/
structure ReleaseSnapshot where
  fleetRun : Uuid
  globalFence : Nat
  owners : List RouteOwner
  ownersBounded : 1 ≤ owners.length ∧ owners.length ≤ 500
  ownersDistinct : (owners.map RouteOwner.workshop).Nodup
  deriving DecidableEq

/-! ## The rows of the release itself -/

inductive FleetRunState
  | preflighting
  | preparing
  | paused
  | activating
  | active
  | failed
  deriving DecidableEq

structure ApplicationRelease where
  (odooSubjectDigest extensionSubjectDigest manifestDigest : String)
  manifest : Json
  deriving DecidableEq

structure ActivationIntent where
  (releaseId runtimeKey : String)
  targetSlot : Slot
  (odooSubjectDigest extensionSubjectDigest pairQualificationDigest : String)
  preparedTenants : Json
  gatewayConfigurationDigest : String
  observedConfigurationDigest : Option String
  driverActionId : Uuid
  (driverFence gatewayIdentityVersion : Option Nat)
  (activated abandoned : Bool)
  deriving DecidableEq

/-- A tenant's adoption of the release with what the functions read of its database and of
its recovery point. -/
structure Adoption where
  (id operation : Uuid)
  releaseId : String
  (workshop database : Uuid)
  databaseRef : String
  publicHostname : Option String
  (prepared verified : Bool)
  /-- A verified recovery point of the workshop, with the time it expires at. -/
  recoveryReady : Bool
  recoveryExpiresAt : Option Timestamp
  deriving DecidableEq

/-- A fleet run with the rows that belong to it. Adoptions are listed in the order of their
creation. -/
structure FleetRun where
  operation : Uuid
  releaseId : String
  state : FleetRunState
  targetSlot : Option Slot
  driverFence : Option Nat
  fleetGeneration : Nat
  tenantSnapshot : Json
  release : Option ApplicationRelease
  intents : List ActivationIntent
  adoptions : List Adoption
  deriving DecidableEq

/-! ## Recovery -/

/-- What a claimant may do. -/
inductive ClaimMode
  | writeCleanup
  | restorePrior
  | forwardOnly
  deriving DecidableEq

/-- The mode that an interrupted phase is recovered in. -/
def Stage.claimMode (stage : Stage) : ClaimMode :=
  if stage.effectsStarted then .forwardOnly
  else
    match stage with
    | .maintenancePublicationStarted _ | .maintenanceObserved _ => .restorePrior
    | _ => .writeCleanup

/-- What the claimant was allowed to do to the routes. A disposal may be recorded without
the overlay that it disposes of. -/
structure Authorizations where
  disposeOverlay : Option (Option OverlayKind)
  restorePrior : Bool
  publishCandidate : Option Json
  deriving DecidableEq

structure RuntimeObservation where
  owner : Uuid
  tokenDigest : String
  (observation completionResponse : Json)
  digest : String
  deriving DecidableEq

inductive ReleaseResolutionKind
  | candidate
  | prior
  | unstarted
  | inconclusive
  deriving DecidableEq

def ReleaseResolutionKind.asStr : ReleaseResolutionKind → String
  | .candidate => "candidate"
  | .prior => "prior"
  | .unstarted => "unstarted"
  | .inconclusive => "inconclusive"

structure ReleaseResolution where
  attempt : Nat
  leaseOwner : String
  owner : Uuid
  tokenDigest : String
  mode : ClaimMode
  kind : ReleaseResolutionKind
  evidence : Json
  candidateResponse : Option Json
  deriving DecidableEq

inductive ReviewDecision
  | acceptCandidate
  | keepQuarantined
  deriving DecidableEq

def ReviewDecision.asStr : ReviewDecision → String
  | .acceptCandidate => "accept_candidate"
  | .keepQuarantined => "keep_quarantined"

structure ReleaseReview where
  (observationDigest resolutionDigest : String)
  controlOperation : ControlOperationLease
  decision : ReviewDecision
  digest : String
  deriving DecidableEq

/-- A recovery claim with the evidence that was recorded under its fence. -/
structure RecoveryClaim where
  fence : Nat
  mode : ClaimMode
  attempt : Nat
  leaseOwner : String
  (owner token : Uuid)
  expiresAt : Timestamp
  /-- The heads of the owned workshops when the claim was made. -/
  heads : List (Uuid × FleetHead)
  authorizations : Authorizations
  records : OverlayRecords
  sealing : Option OverlaySeal
  observation : Option RuntimeObservation
  resolution : Option ReleaseResolution
  review : Option ReleaseReview
  deriving DecidableEq

structure RecoveryTerminal where
  (fence attempt : Nat)
  leaseOwner : String
  owner : Uuid
  kind : ReleaseResolutionKind
  decisionDigest : String
  response : Json
  deriving DecidableEq

/-- The recovery of one release: its claims, the newest first, and its decision. -/
structure RecoveryLedger where
  claims : List RecoveryClaim
  terminal : Option RecoveryTerminal
  deriving DecidableEq

namespace RecoveryLedger

def empty : RecoveryLedger := ⟨[], none⟩

variable (ledger : RecoveryLedger)

/-- The fence of the newest claim. -/
def latestFence : Nat :=
  match ledger.claims with
  | [] => 0
  | claim :: _ => claim.fence

def claim (ledger : RecoveryLedger) (fence : Nat) : Option RecoveryClaim :=
  ledger.claims.find? fun claim => claim.fence = fence

/-- The ledger with one more claim. -/
def add (claim : RecoveryClaim) : RecoveryLedger :=
  { ledger with claims := claim :: ledger.claims }

/-- The ledger with its decision. -/
def close (terminal : RecoveryTerminal) : RecoveryLedger :=
  { ledger with terminal := some terminal }

@[simp]
theorem add_claims (ledger : RecoveryLedger) (claim : RecoveryClaim) :
    (ledger.add claim).claims = claim :: ledger.claims := rfl

/-- Change the claim under a fence. -/
def modify (fence : Nat) (change : RecoveryClaim → RecoveryClaim) :
    RecoveryLedger :=
  { ledger with
    claims := ledger.claims.map fun claim => if claim.fence = fence then change claim else claim }

end RecoveryLedger

/-! ## The state -/

/-- The rows that releases share with the other writers of the fleet's routes. -/
structure SharedRows where
  fleet : GlobalLease
  leases : Table Uuid AuthorityLease
  heads : Table Uuid FleetHead
  drivers : Table Uuid ReleaseOperation
  snapshots : Table Uuid ReleaseSnapshot

structure ReleaseState where
  queue : QueueState
  shared : SharedRows
  activeSlot : Option Slot
  runs : Table Uuid FleetRun
  publications : Table Uuid ReleasePublication
  completions : Table Uuid ReleaseCompletion
  recoveries : Table Uuid RecoveryLedger

namespace ReleaseState

def now (s : ReleaseState) : Timestamp := s.queue.now

/-- The recovery of a release; one that was never claimed has none. -/
def recovery (s : ReleaseState) (driverOperation : Uuid) : RecoveryLedger :=
  (s.recoveries.lookup driverOperation).getD .empty

def withDriver (s : ReleaseState) (id : Uuid) (driver : ReleaseOperation) : ReleaseState :=
  { s with shared := { s.shared with drivers := s.shared.drivers.insert id driver } }

def withPhase (s : ReleaseState) (id : Uuid) (publication : ReleasePublication)
    (phase : Phase) : ReleaseState :=
  { s with publications := s.publications.insert id { publication with phase := phase } }

/-- Change the evidence under a claim. -/
def withClaim (s : ReleaseState) (id : Uuid) (fence : Nat)
    (change : RecoveryClaim → RecoveryClaim) : ReleaseState :=
  { s with recoveries := s.recoveries.insert id ((s.recovery id).modify fence change) }

end ReleaseState

end ControlPlane.Releases
