/-
# The tables of route-set publications

A publication replaces the routes of the whole fleet by one immutable generation. Its
row keeps who may publish, the fleet as it was frozen at admission, and the evidence of
every phase. The table checks tie the evidence columns to the phase, so a phase carries
the evidence that it requires, and a publication cannot be sealed without a seal.

Objects that the functions build with fixed fields are structures here. They are written
as JSON only where another table stores them as such, or where their text is hashed.
-/

import ControlPlane.Persistence.Leases
import ControlPlane.Routes.Authority
import Mathlib.Data.List.Sort

namespace ControlPlane.Publications

open Domain Driver Math Persistence
open Routes

/-! ## Hashed texts -/

/-- What the database computes outside the modelled functions: hashes, and the text and
the stored size of a `jsonb` value. -/
structure DatabaseEnvironment where
  sha256 : List UInt8 → BitVec 256
  jsonbText : Json → String
  columnSize : Json → Nat

/-- The big-endian bytes of a number, as `uuid_send`, `int8send` and `int4send` write them. -/
def bigEndian (width value : Nat) : List UInt8 :=
  (List.range width).map fun position => UInt8.ofNat (value / 256 ^ (width - 1 - position))

def uuidSend (id : Uuid) : List UInt8 := bigEndian 16 id.toNat

def utf8 (text : String) : List UInt8 := text.toUTF8.toList

/-- A text after its length in bytes. -/
def lengthPrefixed (text : String) : List UInt8 :=
  bigEndian 4 (utf8 text).length ++ utf8 text

/-- The sixty-four hexadecimal digits of a hash. -/
def hexDigest (hash : BitVec 256) : String :=
  String.ofList ((List.range 64).map fun position =>
    Nat.digitChar (hash.toNat / 16 ^ (63 - position) % 16))

/-! ## Heads and leases -/

/-- What put an applied route in place: a driver operation or an effect run. -/
inductive RouteWriter
  | driver (operation : Uuid)
  | effect (run : Uuid)
  deriving DecidableEq

/-- The route a workshop was last known to show, with what wrote it. -/
structure AppliedHead extends DesiredRoute where
  renderedDigest : String
  writer : RouteWriter
  fence : Nat
  deriving DecidableEq

structure FleetHead where
  desired : Option DesiredRoute
  applied : Option AppliedHead
  deriving DecidableEq

/-- Who holds the lease of the shared runtime. -/
inductive GlobalAuthority
  | release (driverOperation : Uuid)
  | startupRebuild (effectRun : Uuid)
  | routeSetPublication (publication : Uuid)
  deriving DecidableEq

inductive GlobalPhase
  | idle
  | held (authority : GlobalAuthority) (owner token : Uuid) (expiresAt : Timestamp)
  | quarantined (authority : GlobalAuthority) (owner : Uuid)
  deriving DecidableEq

/-- The lease of the shared runtime. -/
structure GlobalLease where
  fence : Nat
  phase : GlobalPhase
  deriving DecidableEq

/-- Who holds the lease of a workshop's route. -/
inductive RouteAuthority
  | projection (driverOperation : Uuid)
  | startupRebuild (effectRun : Uuid)
  | recoveryMaintenance (effectRun : Uuid)
  | releaseOverlay (releasePublication : Uuid)
  | routeSetPublication (publication : Uuid)
  deriving DecidableEq

inductive AuthorityPhase
  | idle
  | uninitialized
  | held (authority : RouteAuthority) (target : Option RouteTarget) (owner token : Uuid)
      (expiresAt : Timestamp)
  | maintenance (effectRun : Uuid) (target : RouteTarget)
  | quarantined (authority : RouteAuthority) (target : Option RouteTarget) (owner : Uuid)
      (safeError : String)
  deriving DecidableEq

/-- The lease of a workshop's route. -/
structure AuthorityLease where
  fence : Nat
  initializationRequired : Bool
  phase : AuthorityPhase
  deriving DecidableEq

/-! ## Effect runs of recovery maintenance -/

/-- The tokens of a running effect. -/
structure EffectLease where
  (instanceOwner executionToken routeLeaseToken : Uuid)
  expiresAt : Timestamp
  deriving DecidableEq

inductive EffectRunState
  | reserved (lease : EffectLease)
  | effectsStarted (lease : EffectLease)
  | restoreStarted (lease : EffectLease)
  | maintenance
  | succeeded (finishedAt : Timestamp)
  | cancelled (finishedAt : Timestamp)
  | quarantined (safeError : String) (finishedAt : Timestamp)
  deriving DecidableEq

inductive EffectRunKind
  | startupRebuild
  | recoveryMaintenance
  deriving DecidableEq

structure EffectRun where
  kind : EffectRunKind
  workshop : Option Uuid
  controlOperation : Option ControlOperationLease
  state : EffectRunState
  response : Option Json
  deriving DecidableEq

inductive ReservationState
  | reserved
  | candidate
  | maintenance
  | restored
  | succeeded
  | quarantined
  deriving DecidableEq

inductive ReservationAction
  | render
  | removeAbsent
  | removeUninitialized
  | maintenance
  deriving DecidableEq

/-- What an effect reserved of one workshop's route. -/
structure Reservation where
  (route baseline : Option DesiredRoute)
  fence : Nat
  action : ReservationAction
  state : ReservationState
  (maintenanceEvidence restoredEvidence : Option (String × Json))
  deriving DecidableEq

/-! ## Publications -/

inductive PublicationKind
  | projection
  | recoveryMaintenance
  | recoveryRestore
  deriving DecidableEq

def PublicationKind.asStr : PublicationKind → String
  | .projection => "projection"
  | .recoveryMaintenance => "recovery_maintenance"
  | .recoveryRestore => "recovery_restore"

/-- The kind as the last part of a selector. -/
def PublicationKind.selectorSuffix : PublicationKind → String
  | .projection => "projection"
  | .recoveryMaintenance => "recovery-maintenance"
  | .recoveryRestore => "recovery-restore"

/-- The durable owner of a publication, which determines its kind. -/
inductive PublicationSubject
  | projection (driverOperation : Uuid)
  | recoveryMaintenance (effectRun : Uuid)
  | recoveryRestore (effectRun : Uuid)
  deriving DecidableEq

def PublicationSubject.kind : PublicationSubject → PublicationKind
  | .projection _ => .projection
  | .recoveryMaintenance _ => .recoveryMaintenance
  | .recoveryRestore _ => .recoveryRestore

def PublicationSubject.effectRun : PublicationSubject → Option Uuid
  | .projection _ => none
  | .recoveryMaintenance effectRun | .recoveryRestore effectRun => some effectRun

/-- The directory that a publication's generation is selected by. -/
def publicationSelector (id : Uuid) (kind : PublicationKind) : String :=
  "generations/route-" ++ id.simple ++ "-" ++ kind.selectorSuffix

/-- One workshop of the frozen fleet: the route it is published with and the head it had. -/
structure SnapshotRow where
  workshop : Uuid
  route : DesiredRoute
  projection : Json
  baseline : AppliedHead
  isTarget : Bool
  deriving DecidableEq

/-- The columns that never change, with the target and the snapshot rows that are
inserted with them. -/
structure PublicationIdentity where
  subject : PublicationSubject
  controlOperation : ControlOperationLease
  (instanceOwner executionToken globalLeaseToken routeLeaseToken : Uuid)
  globalFence : Nat
  workshop : Uuid
  selector : String
  snapshotCount : Nat
  /-- The target's applied head at admission. -/
  prior : AppliedHead
  route : DesiredRoute
  routeFence : Nat
  snapshot : List SnapshotRow
  deriving DecidableEq

/-- What a call presents to act for a publication. -/
structure PublicationLease where
  (publication instanceOwner executionToken globalLeaseToken routeLeaseToken : Uuid)
  (globalFence routeFence : Nat)
  deriving DecidableEq

/-- The tokens and fences that were issued at admission. -/
def PublicationIdentity.lease (identity : PublicationIdentity) (id : Uuid) : PublicationLease where
  publication := id
  instanceOwner := identity.instanceOwner
  executionToken := identity.executionToken
  globalLeaseToken := identity.globalLeaseToken
  routeLeaseToken := identity.routeLeaseToken
  globalFence := identity.globalFence
  routeFence := identity.routeFence

/-- A value with the time it was recorded. -/
structure Stamped (α : Type) where
  value : α
  recordedAt : Timestamp
  deriving DecidableEq

structure Directory where
  (device inode : Int)
  deriving DecidableEq

def Directory.valid (directory : Directory) : Bool :=
  decide (0 < directory.device) && decide (0 < directory.inode)

/-- What the gateway showed before the publication. -/
structure PriorRoutes where
  selector : String
  directory : Directory
  loadedIdentity : Option Json
  deriving DecidableEq

/-- The complete staged generation. -/
structure Seal where
  (count presentCount : Nat)
  digest : String
  directory : Directory
  deriving DecidableEq

/-- What the gateway showed after the publication. -/
structure Observation where
  selector : String
  loadedIdentity : Json
  deriving DecidableEq

/-- The evidence of an observed publication. -/
structure ObservedEvidence where
  prior : Stamped PriorRoutes
  sealing : Seal
  startedAt : Timestamp
  observation : Stamped Observation
  deriving DecidableEq

/-- The phases of a live publication with the evidence each of them requires. -/
inductive Progress
  | staging (prior : Option (Stamped PriorRoutes))
  | sealed (prior : Stamped PriorRoutes) (sealing : Seal)
  | publicationStarted (prior : Stamped PriorRoutes) (sealing : Seal) (startedAt : Timestamp)
  | observed (evidence : ObservedEvidence)
  deriving DecidableEq

inductive LivePhase
  | staging
  | sealed
  | publicationStarted
  | observed
  deriving DecidableEq

namespace Progress

def phase : Progress → LivePhase
  | .staging _ => .staging
  | .sealed _ _ => .sealed
  | .publicationStarted _ _ _ => .publicationStarted
  | .observed _ => .observed

def prior : Progress → Option (Stamped PriorRoutes)
  | .staging prior => prior
  | .sealed prior _ | .publicationStarted prior _ _ => some prior
  | .observed evidence => some evidence.prior

def sealing : Progress → Option Seal
  | .staging _ => none
  | .sealed _ sealing | .publicationStarted _ sealing _ => some sealing
  | .observed evidence => some evidence.sealing

def startedAt : Progress → Option Timestamp
  | .staging _ | .sealed _ _ => none
  | .publicationStarted _ _ startedAt => some startedAt
  | .observed evidence => some evidence.startedAt

def observation : Progress → Option (Stamped Observation)
  | .staging _ | .sealed _ _ | .publicationStarted _ _ _ => none
  | .observed evidence => some evidence.observation

/-- Nothing was written to the selected directory yet. -/
def unstarted : Progress → Bool
  | .staging _ | .sealed _ _ => true
  | .publicationStarted _ _ _ | .observed _ => false

end Progress

/-- The route part of an applied response. -/
structure RouteEvidence where
  writer : RouteWriter
  workshop : Uuid
  route : DesiredRoute
  renderedDigest : String
  fence : Nat
  deriving DecidableEq

structure RouteSetEvidence where
  publication : Uuid
  kind : PublicationKind
  (selector digest : String)
  (snapshotCount presentCount globalFence : Nat)
  directory : Directory
  deriving DecidableEq

/-- What a completed publication answers. -/
structure AppliedResponse where
  route : RouteEvidence
  routeSet : RouteSetEvidence
  deriving DecidableEq

/-- The mode a response reports: projections are applied, recoveries by their kind. -/
def PublicationKind.appliedOutcome : PublicationKind → String
  | .projection => "applied"
  | .recoveryMaintenance => "maintenance"
  | .recoveryRestore => "restored"

def RouteSetEvidence.toJson (evidence : RouteSetEvidence) : Json :=
  .object [ ("directory_device", .number evidence.directory.device),
    ("directory_inode", .number evidence.directory.inode),
    ("global_fence_token", .number evidence.globalFence),
    ("present_count", .number evidence.presentCount),
    ("protocol_version", .number 1),
    ("publication_id", .string evidence.publication.toText),
    ("publication_kind", .string evidence.kind.asStr),
    ("route_set_digest", .string evidence.digest),
    ("selector", .string evidence.selector),
    ("snapshot_count", .number evidence.snapshotCount)]

def RouteEvidence.toJson (evidence : RouteEvidence) (mode : PublicationKind) : Json :=
  match evidence.writer with
  | .driver operation =>
    .object [ ("disposition", .string evidence.route.disposition.asStr),
      ("driver_operation_id", .string operation.toText),
      ("projection_digest", .string evidence.route.digest),
      ("rendered_digest", .string evidence.renderedDigest),
      ("route_fence_token", .number evidence.fence),
      ("route_generation", .number evidence.route.generation),
      ("workshop_id", .string evidence.workshop.toText)]
  | .effect run =>
    .object [ ("disposition", .string evidence.route.disposition.asStr),
      ("effect_run_id", .string run.toText),
      ("generation", .number evidence.route.generation),
      ("mode", .string mode.appliedOutcome),
      ("projection_digest", .string evidence.route.digest),
      ("rendered_digest", .string evidence.renderedDigest),
      ("route_fence_token", .number evidence.fence),
      ("workshop_id", .string evidence.workshop.toText)]

def AppliedResponse.toJson (response : AppliedResponse) : Json :=
  let kind := response.routeSet.kind
  match response.route.writer with
  | .driver _ =>
    .object [ ("outcome", .string kind.appliedOutcome),
      ("route_evidence", response.route.toJson kind),
      ("route_set_evidence", response.routeSet.toJson),
      ("workshop_id", .string response.route.workshop.toText)]
  | .effect run =>
    .object ([ ("effect_run_id", .string run.toText), ("outcome", .string kind.appliedOutcome),
      ("route_evidence", response.route.toJson kind)] ++
      -- Only the entry into maintenance repeats its fence.
      (if kind = .recoveryMaintenance then
        [("route_fence_token", .number response.route.fence)] else []) ++
      [("route_set_evidence", response.routeSet.toJson)])

/-- The phases of a publication. A quarantined one keeps the evidence it was
interrupted with. -/
inductive Status
  | active (progress : Progress)
  | completed (evidence : ObservedEvidence) (response : Stamped AppliedResponse)
  | quarantined (interrupted : Progress) (quarantinedAt : Timestamp)
  deriving DecidableEq

/-- The evidence of a publication in any phase. -/
def Status.progress : Status → Progress
  | .active progress => progress
  | .completed evidence _ => .observed evidence
  | .quarantined interrupted _ => interrupted

/-- One workshop's part of the staged generation. -/
structure PublicationRecord where
  route : DesiredRoute
  (appliedRenderedDigest renderedDigest : String)
  deriving DecidableEq

inductive ClaimMode
  | writeCleanup
  | observeOnly
  deriving DecidableEq

def ClaimMode.asStr : ClaimMode → String
  | .writeCleanup => "write_cleanup"
  | .observeOnly => "observe_only"

/-- The authority to recover an interrupted publication. -/
structure Claim where
  operation : ControlOperationLease
  (owner token : Uuid)
  expiresAt : Timestamp
  mode : ClaimMode
  deriving DecidableEq

inductive ResolutionKind
  | candidate
  | prior
  | unstarted
  | inconclusive
  deriving DecidableEq

def ResolutionKind.asStr : ResolutionKind → String
  | .candidate => "candidate"
  | .prior => "prior"
  | .unstarted => "unstarted"
  | .inconclusive => "inconclusive"

/-- What a claimant saw of the selected directory. -/
structure ObservedSelection where
  selector : Option String
  (device inode : Option Int)
  loadedIdentity : Option Json
  deriving DecidableEq

def ObservedSelection.nothing : ObservedSelection := ⟨none, none, none, none⟩

def LivePhase.asStr : LivePhase → String
  | .staging => "staging"
  | .sealed => "sealed"
  | .publicationStarted => "publication_started"
  | .observed => "observed"

/-- The evidence of one observation. -/
structure ResolutionEvidence where
  publication : Uuid
  claimFence : Nat
  mode : ClaimMode
  operation : ControlOperationLease
  kind : ResolutionKind
  interruptedPhase : LivePhase
  observed : ObservedSelection
  deriving DecidableEq

def optionalNumber : Option Int → Json
  | none => .null
  | some value => .number value

def ResolutionEvidence.toJson (evidence : ResolutionEvidence) : Json :=
  .object [ ("claim_fence", .number evidence.claimFence),
    ("claim_mode", .string evidence.mode.asStr),
    ("interrupted_phase", .string evidence.interruptedPhase.asStr),
    ("observed_directory_device", optionalNumber evidence.observed.device),
    ("observed_directory_inode", optionalNumber evidence.observed.inode),
    ("observed_loaded_identity", evidence.observed.loadedIdentity.getD .null),
    ("observed_selector", optionalText evidence.observed.selector),
    ("publication_id", .string evidence.publication.toText),
    ("reconciliation_operation_attempt", .number evidence.operation.attempt),
    ("reconciliation_operation_id", .string evidence.operation.id.toText),
    ("reconciliation_operation_lease_owner", .string evidence.operation.owner),
    ("resolution_kind", .string evidence.kind.asStr)]

/-- The observed identity as it is read back; a JSON null is read as no identity. -/
def ResolutionEvidence.loadedIdentity (evidence : ResolutionEvidence) : Option Json :=
  if evidence.observed.loadedIdentity = some .null then none
  else evidence.observed.loadedIdentity

/-- What was read back equals what a call says. -/
def ResolutionEvidence.matches (evidence : ResolutionEvidence) (observed : ObservedSelection) :
    Bool :=
  decide (evidence.observed.selector = observed.selector) &&
    decide (evidence.observed.device = observed.device) &&
    decide (evidence.observed.inode = observed.inode) &&
    decide (evidence.loadedIdentity = observed.loadedIdentity)

/-- A recorded observation. -/
structure Resolution where
  operation : ControlOperationLease
  owner : Uuid
  tokenDigest : String
  mode : ClaimMode
  kind : ResolutionKind
  evidence : ResolutionEvidence
  deriving DecidableEq

/-- The answer of a terminal recovery. -/
structure TerminalResponse where
  outcome : String
  publication : Uuid
  subject : PublicationSubject
  workshop : Uuid
  claimFence : Nat
  kind : ResolutionKind
  operation : ControlOperationLease
  decisionDigest : String
  applied : Option AppliedResponse
  deriving DecidableEq

/-- How a recovery ended a publication. -/
structure Terminal where
  kind : ResolutionKind
  claimFence : Nat
  operation : ControlOperationLease
  decisionDigest : String
  response : TerminalResponse
  deriving DecidableEq

structure Publication where
  identity : PublicationIdentity
  status : Status
  records : Table Uuid PublicationRecord
  claim : Option Claim
  claimFence : Nat
  recoveryEligibleAt : Option Timestamp
  recoveryWriteEligible : Bool
  terminal : Option (Stamped Terminal)
  resolutions : Table Nat Resolution
  deriving DecidableEq

structure PublicationState where
  queue : QueueState
  mode : ProtocolMode
  workshops : List Uuid
  fleet : GlobalLease
  leases : Table Uuid AuthorityLease
  heads : Table Uuid FleetHead
  projections : Table (Uuid × Nat) StoredProjection
  receipts : Table Uuid RouteReceipt
  effectRuns : Table Uuid EffectRun
  reservations : Table (Uuid × Uuid) Reservation
  publications : Table Uuid Publication

abbrev PublicationState.now (s : PublicationState) : Timestamp := s.queue.now

/-- Why a function raised; its transaction is rolled back. -/
inductive PublicationError
  | drifted (what : String)
  | evidenceImmutable
  | noDataFound
  | uniqueViolation
  deriving DecidableEq

/-! ## Digests and identities -/

/-- The records in the order of their workshops. -/
def canonicalRecords (records : Table Uuid PublicationRecord) :
    List (Sigma fun _ : Uuid => PublicationRecord) :=
  records.entries.insertionSort fun first second => first.1.toNat ≤ second.1.toNat

def recordBytes (workshop : Uuid) (record : PublicationRecord) : List UInt8 :=
  uuidSend workshop ++ bigEndian 8 record.route.generation ++
    lengthPrefixed record.route.digest ++ lengthPrefixed record.route.disposition.asStr ++
    lengthPrefixed record.appliedRenderedDigest ++ lengthPrefixed record.renderedDigest

/-- `route_set_publication_digest`. -/
def routeSetDigest (env : DatabaseEnvironment) (records : Table Uuid PublicationRecord) : String :=
  "sha256:" ++ hexDigest (env.sha256 (utf8 "mb-route-set-publication-v1" ++ [0] ++
    (canonicalRecords records).flatMap fun entry => recordBytes entry.1 entry.2))

/-- The digest under which a claimant's token is stored. -/
def tokenDigest (env : DatabaseEnvironment) (token : Uuid) : BitVec 256 :=
  env.sha256 (utf8 "mb-route-set-reconciliation-token-v1" ++ uuidSend token)

inductive TerminalDecision
  | accept
  | keepQuarantined
  deriving DecidableEq

def TerminalDecision.asStr : TerminalDecision → String
  | .accept => "accept"
  | .keepQuarantined => "keep_quarantined"

def presentCount (records : Table Uuid PublicationRecord) : Nat :=
  records.entries.countP fun entry => decide (entry.2.route.disposition = .present)

/-- The identity that the gateway reports for a publication. -/
def expectedIdentity (id : Uuid) (identity : PublicationIdentity) (routeSetDigest : Option String) :
    Json :=
  .object [ ("global_fence_token", .number identity.globalFence), ("protocol_version", .number 1),
    ("publication_id", .string id.toText),
    ("publication_kind", .string identity.subject.kind.asStr),
    ("route_set_digest", optionalText routeSetDigest),
    ("target_route_fence_token", .number identity.routeFence),
    ("target_workshop_id", .string identity.workshop.toText)]

/-- The writer that a publication's subject becomes. -/
def PublicationSubject.writer : PublicationSubject → RouteWriter
  | .projection driverOperation => .driver driverOperation
  | .recoveryMaintenance effectRun | .recoveryRestore effectRun => .effect effectRun

/-- The response of a publication whose target was rendered to `renderedDigest`. -/
def appliedResponse (id : Uuid) (identity : PublicationIdentity) (sealing : Seal)
    (renderedDigest : String) : AppliedResponse where
  route := {
    writer := identity.subject.writer
    workshop := identity.workshop
    route := identity.route
    renderedDigest := renderedDigest
    fence := identity.routeFence }
  routeSet := {
    publication := id
    kind := identity.subject.kind
    selector := identity.selector
    digest := sealing.digest
    snapshotCount := identity.snapshotCount
    presentCount := sealing.presentCount
    globalFence := identity.globalFence
    directory := sealing.directory }

/-- The applied head that a publication leaves at its target. -/
def PublicationIdentity.appliedHead (identity : PublicationIdentity) (renderedDigest : String) :
    AppliedHead where
  toDesiredRoute := identity.route
  renderedDigest := renderedDigest
  writer := identity.subject.writer
  fence := identity.routeFence

end ControlPlane.Publications
