/-
# Publishing a route set

The functions by which one driver admits a publication, stages a record for every
workshop of the frozen fleet, seals them, announces and observes the switch, and ends
the publication or puts it in quarantine. Each function is one transaction over rows
that it locks first, so every concurrent history is a sequence of calls.

The functions are stated as migration 0033 leaves them. Where it wraps an earlier body,
the body keeps its versioned name. Null arguments are refused before any row is read.
-/

import ControlPlane.Publications.Tables

namespace ControlPlane.Publications

open Domain Driver Math Persistence
open Routes

/-! ## Loaded identities -/

/-- The object has exactly these fields. -/
def hasExactly (fields : List (String × Json)) (keys : List String) : Bool :=
  keys.all (fun key => fields.any fun field => decide (field.1 = key)) &&
    fields.all fun field => keys.contains field.1

/-- A string field whose text passes. -/
def stringField (identity : Json) (key : String) (passes : String → Bool) : Bool :=
  match identity.get key with
  | some (.string text) => passes text
  | _ => false

/-- A number field with a positive value of the `bigint` range. -/
def positiveField (identity : Json) (key : String) : Bool :=
  match identity.get key with
  | some (.number value) => decide (0 < value) && decide (value ≤ 9223372036854775807)
  | _ => false

def versionOne (identity : Json) : Bool :=
  decide (identity.get "protocol_version" = some (.number 1))

def oneOf (texts : List String) (text : String) : Bool := texts.contains text

variable (id : Uuid) (publication : Publication) (env : DatabaseEnvironment)

/-- `valid_release_route_loaded_identity` for a value that is present. -/
def validReleaseLoadedIdentity (identity : Json) : Bool :=
  match identity with
  | .object fields =>
    decide (env.columnSize identity ≤ 4096) &&
      ((hasExactly fields ["effect_run_id", "sealed_digest"] &&
          stringField identity "effect_run_id" sqlUuid &&
          stringField identity "sealed_digest" sqlDigest) ||
        (hasExactly fields ["protocol_version", "fleet_run_id", "driver_operation_id",
            "original_global_fence_token", "overlay_kind", "route_set_digest",
            "target_slot"] &&
          versionOne identity && stringField identity "fleet_run_id" sqlUuid &&
          stringField identity "driver_operation_id" sqlUuid &&
          positiveField identity "original_global_fence_token" &&
          stringField identity "overlay_kind" (oneOf ["maintenance", "candidate"]) &&
          stringField identity "route_set_digest" sqlDigest &&
          stringField identity "target_slot" (oneOf ["blue", "green"])))
  | _ => false

/-- `valid_route_set_loaded_identity` for a value that is present. -/
def validLoadedIdentity (identity : Json) : Bool :=
  validReleaseLoadedIdentity env identity ||
    match identity with
    | .object fields =>
      decide (env.columnSize identity ≤ 4096) &&
        hasExactly fields ["protocol_version", "publication_id", "publication_kind",
          "global_fence_token", "target_workshop_id", "target_route_fence_token",
          "route_set_digest"] &&
        versionOne identity && stringField identity "publication_id" sqlUuid &&
        stringField identity "publication_kind"
          (oneOf ["projection", "recovery_maintenance", "recovery_restore"]) &&
        positiveField identity "global_fence_token" &&
        stringField identity "target_workshop_id" sqlUuid &&
        positiveField identity "target_route_fence_token" &&
        stringField identity "route_set_digest" sqlDigest
    | _ => false

/-- `^generations/[A-Za-z0-9][A-Za-z0-9-]{0,63}$`. -/
def sqlSelector (text : String) : Bool :=
  let chars := text.toList
  let name := chars.drop 12
  decide (chars.take 12 = "generations/".toList) && decide (1 ≤ name.length) &&
    decide (name.length ≤ 64) && name.head?.any Char.isAlphanum &&
    name.all fun c => c.isAlphanum || decide (c = '-')

def withoutHyphens (text : String) : String :=
  String.ofList (text.toList.filter (· != '-'))

/-- The selectors that an identity's generation can have. -/
def identitySelectors (identity : Json) : List String :=
  let text := fun key => (identity.get key).bind Json.asStr
  ((text "effect_run_id").map fun run => "generations/startup-" ++ run).toList ++
    (match text "fleet_run_id", text "overlay_kind" with
      | some run, some overlay => ["generations/release-" ++ withoutHyphens run ++ "-" ++ overlay]
      | _, _ => []) ++
    (match text "publication_id", text "publication_kind" with
      | some publication, some "projection" =>
        ["generations/route-" ++ withoutHyphens publication ++ "-projection"]
      | some publication, some "recovery_maintenance" =>
        ["generations/route-" ++ withoutHyphens publication ++ "-recovery-maintenance"]
      | some publication, some "recovery_restore" =>
        ["generations/route-" ++ withoutHyphens publication ++ "-recovery-restore"]
      | _, _ => [])

/-- `valid_route_set_prior_selector_identity`. -/
def validPriorSelectorIdentity (selector : String) (identity : Option Json) : Bool :=
  sqlSelector selector &&
    match identity with
    | none => decide (selector = "generations/boot-live")
    | some identity =>
      validLoadedIdentity env identity && (identitySelectors identity).contains selector

/-! ## The rows behind a publication -/

/-- The row is in flight under the recorded attempt and owner, whether or not its lease
has run out. -/
def recordedFor (row : OperationRow) (operation : ControlOperationLease) : Bool :=
  match row.state with
  | .inFlight lease =>
    decide (row.attempt = operation.attempt) && decide (lease.leasedBy = operation.owner)
  | _ => false

/-- The end of a receipt's execution, when it runs under this token. -/
def executingUntil (receipt : RouteReceipt) (token : Uuid) : Option Timestamp :=
  match receipt.state, receipt.execution with
  | .inProgress, some execution =>
    if execution.token = token then some execution.expiresAt else none
  | _, _ => none

/-- The receipt is the one that a publication's admission inserted. -/
def receiptBound (receipt : RouteReceipt) (identity : PublicationIdentity) : Bool :=
  decide (receipt.action = .routeProject) && decide (receipt.workshop = identity.workshop) &&
    decide (receipt.controlOperation = some identity.controlOperation) &&
    decide (receipt.target = some ⟨identity.route.toRouteTarget, identity.routeFence⟩)

/-- The tokens of an effect run in the state its publication works in. -/
def EffectRun.leaseFor (run : EffectRun) : PublicationKind → Option EffectLease
  | .projection => none
  | .recoveryMaintenance =>
    match run.state with
    | .reserved lease => some lease
    | _ => none
  | .recoveryRestore =>
    match run.state with
    | .restoreStarted lease => some lease
    | _ => none

/-- The operations that may publish: route operations for a projection, the tenant's
lifecycle for a recovery. -/
def publishingOperation (kind : PublicationKind) (row : OperationRow) : Bool :=
  match kind with
  | .projection => RouteState.routeOperation row.kind row.queue
  | .recoveryMaintenance | .recoveryRestore =>
    decide (row.kind = .tenantLifecycle) && decide (row.queue = .tenantLifecycle)

def Publication.kind (publication : Publication) : PublicationKind :=
  publication.identity.subject.kind

/-! ## Changes of a publication's row

Triggers check every change of the row: evidence stays as it was recorded, phases follow
their order, and a final receipt agrees with the tables it ends. -/

/-- What was recorded stays. -/
def kept {α : Type} [DecidableEq α] (old new : Option α) : Bool :=
  old.isNone || decide (new = old)

/-- The phases that may follow each other. -/
def phaseMayChange : Status → Status → Bool
  | .active old, .active new =>
    match old.phase, new.phase with
    | .staging, .sealed | .sealed, .publicationStarted | .publicationStarted, .observed => true
    | first, second => decide (first = second)
  | .active old, .completed _ _ => decide (old.phase = .observed)
  | .active _, .quarantined _ _ => true
  | .completed _ _, .completed _ _ | .quarantined _ _, .quarantined _ _ => true
  | _, _ => false

def Status.finished : Status → Option (Stamped AppliedResponse)
  | .completed _ response => some response
  | .active _ | .quarantined _ _ => none

/-- The phase a publication was interrupted in, and when. -/
def Status.interruption : Status → Option (LivePhase × Timestamp)
  | .quarantined interrupted quarantinedAt => some (interrupted.phase, quarantinedAt)
  | .active _ | .completed _ _ => none

def evidenceKept (old new : Publication) : Bool :=
  (match old.status with
    | .completed _ _ => decide (new = old)
    | .active _ | .quarantined _ _ => true) &&
    phaseMayChange old.status new.status &&
    kept old.status.progress.prior new.status.progress.prior &&
    kept old.status.progress.sealing new.status.progress.sealing &&
    kept old.status.progress.startedAt new.status.progress.startedAt &&
    kept old.status.progress.observation new.status.progress.observation &&
    kept old.status.finished new.status.finished &&
    kept old.status.interruption new.status.interruption

/-- An observation shows exactly the sealed generation. -/
def observationExact : Bool :=
  publication.status.progress.observation.all fun observation =>
    decide (observation.value.selector = publication.identity.selector) &&
      decide (observation.value.loadedIdentity = expectedIdentity id publication.identity
        (publication.status.progress.sealing.map Seal.digest))

/-- The eligibility for recovery is recorded once; the right to write only with it, and
only when the publication had not started. -/
def eligibilityKept (old new : Publication) : Bool :=
  kept old.recoveryEligibleAt new.recoveryEligibleAt &&
    (decide (new.recoveryWriteEligible = old.recoveryWriteEligible) ||
      (!old.recoveryWriteEligible && new.recoveryWriteEligible && (match old.status, new.status with
          | .active progress, .quarantined _ _ => progress.unstarted
          | _, _ => false) &&
        old.recoveryEligibleAt.isNone && new.recoveryEligibleAt.isSome))

/-- The outcomes that a terminal response can report for its kind. -/
def terminalOutcomeExact (kind : PublicationKind) (terminal : Terminal) : Bool :=
  match terminal.kind, kind with
  | .candidate, .projection =>
    decide (terminal.response.outcome = "applied_recovered") && terminal.response.applied.isSome
  | .candidate, _ =>
    (decide (terminal.response.outcome = "maintenance_recovered") ||
      decide (terminal.response.outcome = "restored_recovered")) &&
      terminal.response.applied.isSome
  | .prior, _ | .unstarted, _ =>
    decide (terminal.response.outcome = "not_applied") && terminal.response.applied.isNone
  | .inconclusive, _ => false

/-- A terminal response repeats the row that it ends. -/
def terminalExact : Bool :=
  publication.terminal.all fun terminal =>
    let response := terminal.value.response
    decide (response.publication = id) &&
    decide (response.subject = publication.identity.subject) &&
      decide (response.workshop = publication.identity.workshop) &&
      decide (response.claimFence = terminal.value.claimFence) &&
      decide (response.kind = terminal.value.kind) &&
      decide (response.operation = terminal.value.operation) &&
      decide (response.decisionDigest = terminal.value.decisionDigest) &&
      terminalOutcomeExact publication.kind terminal.value

/-! ## Staged records -/

/-- The digest of an empty rendering. -/
def emptyRendering : String :=
  "sha256:e3b0c44298fc1c149afbf4c8996fb92427ae41e4649b934ca495991b7852b855"

/-- The first workshop of the snapshot without a record. -/
def Publication.expectedWorkshop : Option Uuid :=
  (publication.identity.snapshot.find? fun row =>
    (publication.records.lookup row.workshop).isNone).map SnapshotRow.workshop

/-- The snapshot row that a record renders. -/
def Publication.snapshotOf (workshop : Uuid) (record : PublicationRecord) : Option SnapshotRow :=
  publication.identity.snapshot.find? fun row =>
    decide (row.workshop = workshop) && decide (row.route = record.route) &&
      decide (row.baseline.renderedDigest = record.appliedRenderedDigest)

/-- Only the target may render anew, an absent route renders to nothing, and maintenance
needs a present one. -/
def renderInvariant (kind : PublicationKind) (row : SnapshotRow) (record : PublicationRecord) :
    Bool :=
  (row.isTarget || decide (record.renderedDigest = row.baseline.renderedDigest)) &&
    (decide (record.route.disposition ≠ .absent) ||
      decide (record.renderedDigest = emptyRendering)) &&
    (!row.isTarget || decide (kind ≠ .recoveryMaintenance) ||
      decide (record.route.disposition = .present))

def validPrior (publication : Publication) (prior : PriorRoutes) :
    Bool :=
  sqlSelector prior.selector && prior.directory.valid &&
    decide (prior.selector ≠ publication.identity.selector) &&
    validPriorSelectorIdentity env prior.selector prior.loadedIdentity

/-- The row after a live publication moved on. -/
def withProgress (progress : Progress) : Publication :=
  { publication with status := .active progress }

/-- The observation shows the sealed candidate. -/
def observesCandidate (observation : Observation) (directory : Directory) : Bool :=
  decide (observation.selector = publication.identity.selector) &&
    decide (some directory = publication.status.progress.sealing.map Seal.directory) &&
    decide (observation.loadedIdentity = expectedIdentity id publication.identity
      (publication.status.progress.sealing.map Seal.digest))

/-! ## Leases and receipts of a publication -/

def renewedPhase (expiresAt : Timestamp) : GlobalPhase → GlobalPhase
  | .held authority owner token _ => .held authority owner token expiresAt
  | .idle => .idle
  | .quarantined authority owner => .quarantined authority owner

def renewedRoute (expiresAt : Timestamp) (lease : AuthorityLease) : AuthorityLease :=
  { lease with
    phase :=
      match lease.phase with
      | .held authority target owner token _ => .held authority target owner token expiresAt
      | other => other }

def GlobalLease.quarantine (lease : GlobalLease) : GlobalLease :=
  { lease with
    phase :=
      match lease.phase with
      | .held authority owner _ _ => .quarantined authority owner
      | other => other }

/-- The reason that the interrupted route of a publication is left with. -/
def outcomeUnknown : String := "route_set_publication_outcome_unknown"

def AuthorityLease.quarantine (lease : AuthorityLease) : AuthorityLease :=
  { lease with
    phase :=
      match lease.phase with
      | .held authority target owner _ _ => .quarantined authority target owner outcomeUnknown
      | other => other }

/-- The receipt's execution ended without a known result. -/
def receiptUnknown (receipt : RouteReceipt) : Bool :=
  decide (receipt.state = .inProgress) &&
    decide (receipt.safeError = some "runtime_outcome_unknown") &&
    decide (receipt.execution = none)

/-- A lease that runs out at `expiresAt`, or is not there. -/
def expiredOrGone (now : Timestamp) (expiresAt : Option Timestamp) : Bool :=
  expiresAt.all fun expiresAt => decide (expiresAt ≤ now)

/-- The end of an operation's lease. -/
def leaseEnd (row : OperationRow) : Option Timestamp :=
  match row.state with
  | .inFlight lease => some lease.expiresAt
  | _ => none

/-! ## Sealed and observed generations -/

/-- The records are the sealed ones. -/
def recordsSealed (publication : Publication) (sealing : Seal) : Bool :=
  decide (publication.records.entries.length = publication.identity.snapshotCount) &&
    decide (publication.records.entries.length = sealing.count) &&
    decide (presentCount publication.records = sealing.presentCount) &&
    decide (routeSetDigest env publication.records = sealing.digest)

/-- The target's record renders the target. -/
def Publication.targetRecord : Option PublicationRecord :=
  match publication.records.lookup publication.identity.workshop with
  | some record =>
    if record.route = publication.identity.route ∧
        record.appliedRenderedDigest = publication.identity.prior.renderedDigest then
      some record
    else none
  | none => none

/-- The observation is of the sealed generation. -/
def observationSealed (evidence : ObservedEvidence) :
    Bool :=
  decide (evidence.observation.value.selector = publication.identity.selector) &&
    decide (evidence.observation.value.loadedIdentity =
      expectedIdentity id publication.identity (some evidence.sealing.digest))

/-- A lease that was given back. -/
def AuthorityLease.released (lease : AuthorityLease) : AuthorityLease :=
  { lease with phase := .idle, initializationRequired := false }

/-- The receipt of an applied route. -/
def succeededReceipt (response : AppliedResponse) (receipt : RouteReceipt) : RouteReceipt :=
  { receipt with state := .succeeded response.toJson, safeError := none, execution := none }

/-- The head still is what admission froze, and the target still is desired. -/
def headFrozen (identity : PublicationIdentity) (head : FleetHead) : Bool :=
  decide (head.desired = some identity.route) && decide (head.applied = some identity.prior)

namespace PublicationState

variable (s : PublicationState)

/-- The operation behind a publication still runs the recorded attempt. -/
def upstreamRecorded (identity : PublicationIdentity) : Bool :=
  (s.queue.operations.lookup identity.controlOperation.id).any fun row =>
    recordedFor row identity.controlOperation &&
      decide (row.workshopId = some identity.workshop) &&
      RouteState.routeOperation row.kind row.queue

/-- The recorded attempt also still holds its lease. -/
def upstreamCurrent (identity : PublicationIdentity) : Bool :=
  (s.queue.operations.lookup identity.controlOperation.id).any fun row =>
    row.heldBy s.now identity.controlOperation.owner identity.controlOperation.attempt &&
      decide (row.workshopId = some identity.workshop) &&
      publishingOperation identity.subject.kind row

/-- The end of the global lease, when a publication holds it with these tokens. -/
def fleetHeldUntil (lease : PublicationLease) : Option Timestamp :=
  match s.fleet.phase with
  | .held (.routeSetPublication publication) owner token expiresAt =>
    if publication = lease.publication ∧ owner = lease.instanceOwner ∧
        token = lease.globalLeaseToken ∧ s.fleet.fence = lease.globalFence then
      some expiresAt
    else none
  | _ => none

/-- The end of the target's route lease, when a publication holds it with these tokens. -/
def routeHeldUntil (identity : PublicationIdentity) (lease : PublicationLease) : Option Timestamp :=
  match s.leases.lookup identity.workshop with
  | some row =>
    match row.phase with
    | .held (.routeSetPublication publication) target owner token expiresAt =>
      if publication = lease.publication ∧ target = some identity.route.toRouteTarget ∧
          owner = lease.instanceOwner ∧ token = lease.routeLeaseToken ∧
          row.fence = lease.routeFence then
        some expiresAt
      else none
    | _ => none
  | none => none

/-- The durable owner of a publication still executes it. -/
def subjectCurrent (identity : PublicationIdentity) (lease : PublicationLease) : Bool :=
  match identity.subject with
  | .projection driverOperation =>
    (s.receipts.lookup driverOperation).any fun receipt =>
      receipt.safeError.isNone && (executingUntil receipt lease.executionToken).any fun expiresAt =>
          decide (s.now < expiresAt)
  | .recoveryMaintenance run | .recoveryRestore run =>
    (s.effectRuns.lookup run).any fun effect =>
      decide (effect.kind = .recoveryMaintenance) &&
        decide (effect.workshop = some identity.workshop) &&
        decide (effect.controlOperation = some identity.controlOperation) &&
        (effect.leaseFor identity.subject.kind).any fun held =>
          decide (held.instanceOwner = lease.instanceOwner) &&
            decide (held.executionToken = lease.executionToken) &&
            decide (held.routeLeaseToken = lease.routeLeaseToken) &&
            decide (s.now < held.expiresAt)

/-- `has_route_set_publication_authority`. -/
def hasAuthority (lease : PublicationLease) : Bool :=
  match s.publications.lookup lease.publication with
  | some publication =>
    match publication.status with
    | .active _ =>
      decide (s.mode = .generationV1) &&
        decide (lease = publication.identity.lease lease.publication) &&
        s.upstreamCurrent publication.identity &&
        s.subjectCurrent publication.identity lease &&
        (s.fleetHeldUntil lease).any (fun expiresAt => decide (s.now < expiresAt)) &&
        (s.routeHeldUntil publication.identity lease).any fun expiresAt =>
          decide (s.now < expiresAt)
    | .completed _ _ | .quarantined _ _ => false
  | none => false

/-- `lock_route_set_publication_authority`, with the row that it locks. -/
def authorized (lease : PublicationLease) : Option Publication :=
  if s.hasAuthority lease then s.publications.lookup lease.publication else none

/-! ## The triggers -/

/-- The head, the leases and the owner that a completed publication leaves. -/
def completionExact (id : Uuid) (publication : Publication) : Bool :=
  match publication.status with
  | .completed evidence response =>
    let identity := publication.identity
    (publication.records.lookup identity.workshop).any fun record =>
      let expected := appliedResponse id identity evidence.sealing record.renderedDigest
      decide (response.value = expected) && decide (s.fleet = ⟨identity.globalFence, .idle⟩) &&
        match identity.subject with
        | .projection driverOperation =>
          ((s.receipts.lookup driverOperation).any fun receipt =>
            decide (receipt.state = .succeeded expected.toJson) &&
              decide (receipt.execution = none)) &&
            ((s.heads.lookup identity.workshop).any fun head =>
              decide (head.desired = some identity.route) &&
                decide (head.applied = some (identity.appliedHead record.renderedDigest))) &&
            (s.leases.lookup identity.workshop).any fun lease =>
              decide (lease.phase = .idle) && decide (lease.fence = identity.routeFence)
        | .recoveryMaintenance run =>
          ((s.effectRuns.lookup run).any fun effect =>
            decide (effect.response = some expected.toJson) &&
              decide (effect.state = .maintenance)) &&
            ((s.heads.lookup identity.workshop).any fun head =>
              decide (head.applied = some identity.prior)) &&
            (s.leases.lookup identity.workshop).any fun lease =>
              (match lease.phase with
                | .maintenance effectRun _ => decide (effectRun = run)
                | _ => false) && decide (lease.fence = identity.routeFence)
        | .recoveryRestore run =>
          ((s.effectRuns.lookup run).any fun effect =>
            decide (effect.response = some expected.toJson) &&
              match effect.state with
              | .succeeded _ => true
              | _ => false) &&
            ((s.heads.lookup identity.workshop).any fun head =>
              decide (head.desired = some identity.route) &&
                decide (head.applied = some (identity.appliedHead record.renderedDigest))) &&
            (s.leases.lookup identity.workshop).any fun lease =>
              decide (lease.phase = .idle) && decide (lease.fence = identity.routeFence)
  | .active _ | .quarantined _ _ => true

/-- The triggers of the publication table. -/
def mayUpdate (id : Uuid) (old new : Publication) : Bool :=
  decide (new.identity = old.identity) && evidenceKept old new && observationExact id new &&
    s.completionExact id new && eligibilityKept old new && terminalExact id new &&
    kept old.terminal new.terminal

/-- Update a publication's row. -/
def updatePublication (id : Uuid) (old new : Publication) :
    Except PublicationError PublicationState :=
  if s.mayUpdate id old new then
    .ok { s with publications := s.publications.insert id new }
  else .error .evidenceImmutable

end PublicationState

/-! ## Admission -/

structure AdmitPublicationCall where
  caller : ControlOperationLease
  workshop : Uuid
  kind : PublicationKind
  (idempotencyKey requestDigest : String)
  target : RouteTarget
  (instanceOwner executionToken globalLeaseToken routeLeaseToken : Uuid)
  ttlSeconds : Nat
  /-- The identifiers the database generates for the new rows. -/
  (publicationId receiptId : Uuid)
  deriving DecidableEq

def validTtl (ttlSeconds : Nat) : Bool :=
  decide (60 ≤ ttlSeconds) && decide (ttlSeconds ≤ 1200)

variable (call : AdmitPublicationCall)

def AdmitPublicationCall.valid : Bool :=
  decide (call.kind = .projection) && decide (0 < call.caller.attempt) &&
    !isBlank call.caller.owner && decide (1 ≤ call.idempotencyKey.toList.length) &&
    decide (call.idempotencyKey.toList.length ≤ 180) && sqlHexDigest call.requestDigest &&
    decide (0 < call.target.generation) && sqlDigest call.target.digest &&
    validTtl call.ttlSeconds

inductive PublicationAdmission
  | invalid
  | upstreamLeaseLost
  | protocolInactive
  | legacyReceipt (driverOperation : Uuid)
  | conflict (publication driverOperation : Uuid)
  | replay (lease : PublicationLease) (driverOperation : Uuid)
  | authorityLost (lease : PublicationLease) (driverOperation : Uuid)
  | fleetQuarantined
  | fleetBusy
  | fleetNotReady
  | acquired (lease : PublicationLease) (driverOperation : Uuid)
  deriving DecidableEq

/-- The receipt has the call's key. -/
def AdmitPublicationCall.exactKey (receipt : RouteReceipt) : Bool :=
  decide (receipt.workshop = call.workshop) && decide (receipt.action = .routeProject) &&
    decide (receipt.idempotencyKey = call.idempotencyKey)

/-- The receipt has the call's target, under any key. -/
def AdmitPublicationCall.sameTarget (receipt : RouteReceipt) :
    Bool :=
  decide (receipt.workshop = call.workshop) &&
    receipt.target.any fun target => decide (target.toRouteTarget = call.target)

/-- An earlier publication is the one the call asks for. -/
def AdmitPublicationCall.sameRequest (receipt : RouteReceipt)
    (identity : PublicationIdentity) : Bool :=
  call.exactKey receipt && decide (receipt.requestDigest = call.requestDigest) &&
    call.sameTarget receipt && decide (identity.subject.kind = call.kind) &&
    decide (identity.controlOperation = call.caller) &&
    decide (identity.workshop = call.workshop) &&
    decide (identity.route.toRouteTarget = call.target) &&
    decide (identity.instanceOwner = call.instanceOwner) &&
    decide (identity.executionToken = call.executionToken) &&
    decide (identity.globalLeaseToken = call.globalLeaseToken) &&
    decide (identity.routeLeaseToken = call.routeLeaseToken)

namespace PublicationState

variable (s : PublicationState)

def callerCurrent (call : AdmitPublicationCall) : Bool :=
  (s.queue.operations.lookup call.caller.id).any fun row =>
    decide (row.workshopId = some call.workshop) &&
      row.heldBy s.now call.caller.owner call.caller.attempt &&
      RouteState.routeOperation row.kind row.queue

/-- The receipt that answers a call: one with its key before one with its target. -/
def earlierReceipt (call : AdmitPublicationCall) : Option (Uuid × RouteReceipt) :=
  match s.receipts.find call.exactKey with
  | some found => some found
  | none => s.receipts.find call.sameTarget

def publicationOf (driverOperation : Uuid) : Option (Uuid × Publication) :=
  s.publications.find fun publication =>
    decide (publication.identity.subject = .projection driverOperation)

/-- The answer to a request that has a receipt. Presenting fresh tokens is a conflict. -/
def admitEarlier (call : AdmitPublicationCall) (driverOperation : Uuid)
    (receipt : RouteReceipt) : PublicationAdmission :=
  match s.publicationOf driverOperation with
  | none => .legacyReceipt driverOperation
  | some (id, publication) =>
    if call.sameRequest receipt publication.identity then
      let lease := publication.identity.lease id
      if s.hasAuthority lease then .replay lease driverOperation
      else .authorityLost lease driverOperation
    else .conflict id driverOperation

/-- The route a workshop is published with: the target's desired one, the others' applied
ones. -/
def selectedRoute (target workshop : Uuid) (head : FleetHead) : Option DesiredRoute :=
  if workshop = target then head.desired else head.applied.map AppliedHead.toDesiredRoute

/-- The stored projection of the selected route. -/
def selectedProjection (target workshop : Uuid) (head : FleetHead) : Option (DesiredRoute × Json) :=
  match selectedRoute target workshop head with
  | none => none
  | some route =>
    match s.projections.lookup (workshop, route.generation) with
    | some stored =>
      if stored.digest = route.digest ∧ stored.disposition = route.disposition then
        some (route, stored.projection)
      else none
    | none => none

def snapshotRow (target workshop : Uuid) (head : FleetHead) : Option SnapshotRow :=
  match s.selectedProjection target workshop head, head.applied with
  | some (route, projection), some applied =>
    some ⟨workshop, route, projection, applied, decide (workshop = target)⟩
  | _, _ => none

/-- The fleet as it is frozen, in the order of the workshops. -/
def fleetSnapshot (target : Uuid) : List SnapshotRow :=
  (s.heads.entries.filterMap fun entry => s.snapshotRow target entry.1 entry.2).insertionSort
    fun first second => first.workshop.toNat ≤ second.workshop.toNat

/-- Every workshop has an idle lease, an applied head and a selected projection. -/
def fleetReady (target : Uuid) : Bool :=
  let count := s.workshops.length
  let readyCount := s.workshops.countP fun workshop =>
    ((s.leases.lookup workshop).any fun lease => decide (lease.phase = .idle)) &&
      (s.heads.lookup workshop).any fun head =>
        head.applied.any fun applied => decide (0 < applied.fence)
  let selectedCount := s.workshops.countP fun workshop =>
    (s.heads.lookup workshop).any fun head => (s.selectedProjection target workshop head).isSome
  decide (1 ≤ count) && decide (count ≤ 500) && decide (s.leases.entries.length = count) &&
    decide (s.heads.entries.length = count) && decide (readyCount = count) &&
    decide (selectedCount = count)

/-- The rows of a new publication. -/
def newIdentity (call : AdmitPublicationCall) (route : DesiredRoute)
    (applied : AppliedHead) (routeFence : Nat) : PublicationIdentity where
  subject := .projection call.receiptId
  controlOperation := call.caller
  instanceOwner := call.instanceOwner
  executionToken := call.executionToken
  globalLeaseToken := call.globalLeaseToken
  routeLeaseToken := call.routeLeaseToken
  globalFence := s.fleet.fence + 1
  workshop := call.workshop
  selector := publicationSelector call.publicationId .projection
  snapshotCount := s.workshops.length
  prior := applied
  route := route
  routeFence := routeFence
  snapshot := s.fleetSnapshot call.workshop

def newPublication (identity : PublicationIdentity) : Publication where
  identity := identity
  status := .active (.staging none)
  records := ∅
  claim := none
  claimFence := 0
  recoveryEligibleAt := none
  recoveryWriteEligible := false
  terminal := none
  resolutions := ∅

def newReceipt (call : AdmitPublicationCall) (routeFence : Nat) (expiresAt : Timestamp) :
    RouteReceipt where
  workshop := call.workshop
  action := .routeProject
  idempotencyKey := call.idempotencyKey
  requestDigest := call.requestDigest
  state := .inProgress
  safeError := none
  controlOperation := some call.caller
  execution := some ⟨call.executionToken, expiresAt⟩
  target := some ⟨call.target, routeFence⟩

/-- The tables after a publication was admitted. -/
def admitted (call : AdmitPublicationCall) (route : DesiredRoute)
    (applied : AppliedHead) (lease : AuthorityLease) : PublicationState :=
  let expiresAt := s.now + seconds call.ttlSeconds
  let routeFence := max lease.fence applied.fence + 1
  { s with
    receipts := s.receipts.insert call.receiptId (newReceipt call routeFence expiresAt)
    publications := s.publications.insert call.publicationId
      (newPublication (s.newIdentity call route applied routeFence))
    fleet := ⟨s.fleet.fence + 1, .held (.routeSetPublication call.publicationId)
      call.instanceOwner call.globalLeaseToken expiresAt⟩
    leases := s.leases.insert call.workshop { lease with
      fence := routeFence
      phase := .held (.routeSetPublication call.publicationId) (some call.target)
        call.instanceOwner call.routeLeaseToken expiresAt } }

/-- The admission of a request without a receipt. -/
def admitNew (call : AdmitPublicationCall) :
    Except PublicationError (PublicationState × PublicationAdmission) :=
  match s.fleet.phase with
  | .quarantined _ _ => .ok (s, .fleetQuarantined)
  | .held _ _ _ _ => .ok (s, .fleetBusy)
  | .idle =>
    if s.fleetReady call.workshop then
      match s.leases.lookup call.workshop, s.heads.lookup call.workshop with
      | some lease, some ⟨some route, some applied⟩ =>
        if lease.phase ≠ .idle ∨ route.toRouteTarget ≠ call.target then
          .ok (s, .fleetNotReady)
        else if (s.fleetSnapshot call.workshop).length ≠ s.workshops.length then
          .error (.drifted "route-set snapshot cardinality drifted")
        else if (s.receipts.lookup call.receiptId).isSome ∨
            (s.publications.lookup call.publicationId).isSome then
          .error .uniqueViolation
        else
          .ok (s.admitted call route applied lease, .acquired ((s.newIdentity call route applied
              (max lease.fence applied.fence + 1)).lease call.publicationId) call.receiptId)
      | some _, some _ => .ok (s, .fleetNotReady)
      | _, _ => .error .noDataFound
    else .ok (s, .fleetNotReady)

/-- `admit_route_set_publication`. -/
def admitRouteSetPublication (call : AdmitPublicationCall) :
    Except PublicationError (PublicationState × PublicationAdmission) :=
  if call.valid = false then .ok (s, .invalid)
  else if s.callerCurrent call = false then .ok (s, .upstreamLeaseLost)
  else if s.mode ≠ .generationV1 then .ok (s, .protocolInactive)
  else
    match s.earlierReceipt call with
    | some (driverOperation, receipt) => .ok (s, s.admitEarlier call driverOperation receipt)
    | none => s.admitNew call

/-! ## Renewal -/

/-- Extend the execution of a publication's durable owner. -/
def renewSubject (identity : PublicationIdentity)
    (lease : PublicationLease) (expiresAt : Timestamp) : Option PublicationState :=
  match identity.subject with
  | .projection driverOperation =>
    (s.receipts.replace driverOperation
      (fun receipt => (executingUntil receipt lease.executionToken).any fun until_ =>
        decide (s.now < until_))
      fun receipt => receipt.renewed expiresAt).map fun receipts => { s with receipts }
  | .recoveryMaintenance run | .recoveryRestore run =>
    (s.effectRuns.replace run (fun effect => (effect.leaseFor identity.subject.kind).any fun held =>
        decide (held.instanceOwner = lease.instanceOwner) &&
          decide (held.executionToken = lease.executionToken) &&
          decide (held.routeLeaseToken = lease.routeLeaseToken) &&
          decide (s.now < held.expiresAt))
      fun effect => { effect with
        state :=
          match effect.state with
          | .reserved held => .reserved { held with expiresAt }
          | .restoreStarted held => .restoreStarted { held with expiresAt }
          | other => other }).map fun effectRuns => { s with effectRuns }

/-- `renew_route_set_publication`. A refused later update does not undo an earlier one. -/
def renewRouteSetPublication (lease : PublicationLease)
    (ttlSeconds : Nat) : PublicationState × Bool :=
  if validTtl ttlSeconds = false then (s, false)
  else
    match s.authorized lease with
    | none => (s, false)
    | some publication =>
      let expiresAt := s.now + seconds ttlSeconds
      match s.renewSubject publication.identity lease expiresAt with
      | none => (s, false)
      | some renewed =>
        if (renewed.fleetHeldUntil lease).isSome then
          let extended : PublicationState := { renewed with
            fleet := { renewed.fleet with
              phase := renewedPhase expiresAt renewed.fleet.phase } }
          if (extended.routeHeldUntil publication.identity lease).isSome then
            ({ extended with
              leases := extended.leases.modify publication.identity.workshop
                (renewedRoute expiresAt) }, true)
          else (extended, false)
        else (renewed, false)

/-! ## Evidence -/

/-- The answers of the functions that record evidence. -/
inductive EvidenceOutcome
  | authorityLost
  | invalid
  | replay
  | conflict
  | wrongPhase
  | priorAbsent
  | outOfOrder
  | snapshotDrift
  | renderInvariantMismatch
  | priorDirectoryReused
  | countMismatch
  | presentCountMismatch
  | digestMismatch
  | observationMismatch
  | recorded
  | sealed
  | started
  | observed
  deriving DecidableEq

/-- Update the row and answer. -/
def advance (id : Uuid) (publication : Publication) (progress : Progress)
    (outcome : EvidenceOutcome) : Except PublicationError (PublicationState × EvidenceOutcome) :=
  (s.updatePublication id publication (withProgress publication progress)).map fun next =>
    (next, outcome)

/-- `record_route_set_publication_prior`. -/
def recordRouteSetPublicationPrior (env : DatabaseEnvironment) (s : PublicationState)
    (lease : PublicationLease) (prior : PriorRoutes) :
    Except PublicationError (PublicationState × EvidenceOutcome) :=
  match s.authorized lease with
  | none => .ok (s, .authorityLost)
  | some publication =>
    match publication.status.progress.prior with
    | some recorded => .ok (s, if recorded.value = prior then .replay else .conflict)
    | none =>
      if publication.status.progress.phase ≠ .staging then .ok (s, .wrongPhase)
      else if validPrior env publication prior then
        s.advance lease.publication publication (.staging (some ⟨prior, s.now⟩)) .recorded
      else .ok (s, .invalid)

/-- `record_route_set_publication_entry`. -/
def recordRouteSetPublicationEntry (lease : PublicationLease)
    (workshop : Uuid) (record : PublicationRecord) : PublicationState × EvidenceOutcome :=
  if sqlDigest record.renderedDigest = false then (s, .invalid)
  else
    match s.authorized lease with
    | none => (s, .authorityLost)
    | some publication =>
      match publication.records.lookup workshop with
      | some existing => (s, if existing = record then .replay else .conflict)
      | none =>
        if publication.status.progress.phase ≠ .staging then (s, .wrongPhase)
        else if publication.status.progress.prior.isNone then (s, .priorAbsent)
        else if publication.expectedWorkshop ≠ some workshop then (s, .outOfOrder)
        else
          match publication.snapshotOf workshop record with
          | none => (s, .snapshotDrift)
          | some row =>
            if renderInvariant publication.kind row record then
              ({ s with
                publications := s.publications.insert lease.publication { publication with
                  records := publication.records.insert workshop record } }, .recorded)
            else (s, .renderInvariantMismatch)

/-- `seal_route_set_publication`. -/
def sealRouteSetPublication (env : DatabaseEnvironment) (s : PublicationState)
    (lease : PublicationLease) (selector : String) (sealing : Seal) :
    Except PublicationError (PublicationState × EvidenceOutcome) :=
  match s.authorized lease with
  | none => .ok (s, .authorityLost)
  | some publication =>
    match publication.status.progress with
    | .staging none => .ok (s, .priorAbsent)
    | .staging (some prior) =>
      if selector ≠ publication.identity.selector ∨ sealing.directory.valid = false ∨
          sealing.count ≠ publication.identity.snapshotCount ∨
          sealing.count < sealing.presentCount ∨ sqlDigest sealing.digest = false then
        .ok (s, .invalid)
      else if sealing.directory = prior.value.directory then .ok (s, .priorDirectoryReused)
      else if publication.records.entries.length ≠ sealing.count then .ok (s, .countMismatch)
      else if presentCount publication.records ≠ sealing.presentCount then
        .ok (s, .presentCountMismatch)
      else if routeSetDigest env publication.records ≠ sealing.digest then
        .ok (s, .digestMismatch)
      else s.advance lease.publication publication (.sealed prior sealing) .sealed
    | .sealed _ stored | .publicationStarted _ stored _ =>
      .ok (s, if stored = sealing ∧ selector = publication.identity.selector then .replay
        else .wrongPhase)
    | .observed evidence =>
      .ok (s, if evidence.sealing = sealing ∧ selector = publication.identity.selector then
        .replay else .wrongPhase)

/-- `start_route_set_publication`. -/
def startRouteSetPublication (lease : PublicationLease) :
    Except PublicationError (PublicationState × EvidenceOutcome) :=
  match s.authorized lease with
  | none => .ok (s, .authorityLost)
  | some publication =>
    match publication.status.progress with
    | .staging _ => .ok (s, .wrongPhase)
    | .sealed prior sealing =>
      s.advance lease.publication publication (.publicationStarted prior sealing s.now) .started
    | .publicationStarted _ _ _ | .observed _ => .ok (s, .replay)

/-- `observe_route_set_publication`. -/
def observeRouteSetPublication (lease : PublicationLease)
    (observation : Observation) (directory : Directory) :
    Except PublicationError (PublicationState × EvidenceOutcome) :=
  match s.authorized lease with
  | none => .ok (s, .authorityLost)
  | some publication =>
    if observesCandidate lease.publication publication observation directory = false then
      .ok (s, .observationMismatch)
    else
      match publication.status.progress with
      | .observed _ => .ok (s, .replay)
      | .publicationStarted prior sealing startedAt =>
        s.advance lease.publication publication
          (.observed ⟨prior, sealing, startedAt, ⟨observation, s.now⟩⟩) .observed
      | .staging _ | .sealed _ _ => .ok (s, .wrongPhase)

/-! ## Quarantine -/

/-- The leases and the receipt of an interrupted projection. -/
def quarantineAuthority (workshop driverOperation : Uuid) :
    PublicationState :=
  { s with
    fleet := GlobalLease.quarantine s.fleet
    leases := s.leases.modify workshop AuthorityLease.quarantine
    receipts := s.receipts.modify driverOperation RouteReceipt.outcomeUnknown }

/-- The global lease is quarantined for this publication. -/
def fleetQuarantinedFor (id : Uuid) (identity : PublicationIdentity) :
    Bool :=
  decide (s.fleet = ⟨identity.globalFence,
    .quarantined (.routeSetPublication id) identity.instanceOwner⟩)

/-- The target's route lease is quarantined for this publication. -/
def routeQuarantinedFor (id : Uuid) (identity : PublicationIdentity) :
    Bool :=
  (s.leases.lookup identity.workshop).any fun lease =>
    decide (lease.fence = identity.routeFence) &&
      decide (lease.phase = .quarantined (.routeSetPublication id)
        (some identity.route.toRouteTarget) identity.instanceOwner outcomeUnknown)

/-- `quarantine_route_set_publication` for a projection. Before the publication started,
an authority has to run out first. -/
def quarantineRouteSetPublicationProjectionV1 (lease : PublicationLease)
    (safeError : String) : Except PublicationError (PublicationState × Bool) :=
  if safeError ≠ outcomeUnknown then .ok (s, false)
  else
    match s.publications.lookup lease.publication with
    | none => .ok (s, false)
    | some publication =>
      match publication.identity.subject with
      | .recoveryMaintenance _ | .recoveryRestore _ => .ok (s, false)
      | .projection driverOperation =>
        if lease ≠ publication.identity.lease lease.publication then .ok (s, false)
        else
          match publication.status with
          | .completed _ _ => .ok (s, false)
          | .quarantined _ _ =>
            .ok (s, s.fleetQuarantinedFor lease.publication publication.identity &&
              s.routeQuarantinedFor lease.publication publication.identity &&
              (s.receipts.lookup driverOperation).any receiptUnknown)
          | .active progress =>
            let executing := (s.receipts.lookup driverOperation).bind fun receipt =>
              executingUntil receipt lease.executionToken
            let upstream := (s.queue.operations.lookup
              publication.identity.controlOperation.id).bind leaseEnd
            if (s.fleetHeldUntil lease).isNone ∨
                (s.routeHeldUntil publication.identity lease).isNone ∨ executing.isNone then
              .ok (s, false)
            else if progress.unstarted = true ∧ expiredOrGone s.now upstream = false ∧
                expiredOrGone s.now executing = false ∧
                expiredOrGone s.now (s.fleetHeldUntil lease) = false ∧
                expiredOrGone s.now (s.routeHeldUntil publication.identity lease) = false then
              .ok (s, false)
            else
              ((s.quarantineAuthority publication.identity.workshop
                  driverOperation).updatePublication lease.publication publication
                { publication with status := .quarantined progress s.now }).map
                fun next => (next, true)

/-! ## Completion -/

inductive FinishPublicationOutcome
  | invalid
  | conflict
  | authorityLost
  | replay
  | wrongPhase
  | projectionDrift
  | completed
  deriving DecidableEq

/-- A row of the functions that end a publication. -/
structure FinishRow where
  outcome : FinishPublicationOutcome
  response : Option AppliedResponse
  deriving DecidableEq

/-- Everything that is checked again before a projection is completed. -/
def finishAuthorized (lease : PublicationLease)
    (identity : PublicationIdentity) (driverOperation : Uuid) : Bool :=
  decide (s.mode = .generationV1) && s.upstreamCurrent identity &&
    ((s.receipts.lookup driverOperation).any fun receipt =>
      receipt.safeError.isNone && receiptBound receipt identity &&
        (executingUntil receipt lease.executionToken).any fun expiresAt =>
          decide (s.now < expiresAt)) &&
    (s.fleetHeldUntil lease).any (fun expiresAt => decide (s.now < expiresAt)) &&
    (s.routeHeldUntil identity lease).any fun expiresAt => decide (s.now < expiresAt)

/-- The tables that a completed projection changes beside its own row. -/
def appliedTables (identity : PublicationIdentity) (driverOperation : Uuid)
    (response : AppliedResponse) : PublicationState :=
  { s with
    receipts := s.receipts.modify driverOperation (succeededReceipt response)
    heads := s.heads.modify identity.workshop fun head =>
      { head with applied := some (identity.appliedHead response.route.renderedDigest) }
    leases := s.leases.modify identity.workshop AuthorityLease.released
    fleet := { s.fleet with phase := .idle } }

/-- `finish_route_set_publication` for a projection. -/
def finishRouteSetPublicationProjectionV1 (env : DatabaseEnvironment) (s : PublicationState)
    (lease : PublicationLease) : Except PublicationError (PublicationState × FinishRow) :=
  if lease.globalFence = 0 ∨ lease.routeFence = 0 then .ok (s, ⟨.invalid, none⟩)
  else
    match s.publications.lookup lease.publication with
    | none => .ok (s, ⟨.invalid, none⟩)
    | some publication =>
      if lease ≠ publication.identity.lease lease.publication then
        .ok (s, ⟨if publication.status.finished.isSome then .conflict else .authorityLost, none⟩)
      else
        match publication.status with
        | .completed _ response => .ok (s, ⟨.replay, some response.value⟩)
        | .quarantined _ _ =>
          .ok (s, ⟨if publication.kind = .projection then .wrongPhase else .invalid, none⟩)
        | .active progress =>
          match publication.identity.subject with
          | .recoveryMaintenance _ | .recoveryRestore _ => .ok (s, ⟨.invalid, none⟩)
          | .projection driverOperation =>
            match progress with
            | .staging _ | .sealed _ _ | .publicationStarted _ _ _ =>
              .ok (s, ⟨.wrongPhase, none⟩)
            | .observed evidence =>
              if s.finishAuthorized lease publication.identity driverOperation = false ∨
                  recordsSealed env publication evidence.sealing = false ∨
                  observationSealed lease.publication publication evidence = false then
                .ok (s, ⟨.authorityLost, none⟩)
              else
                match publication.targetRecord with
                | none => .ok (s, ⟨.authorityLost, none⟩)
                | some record =>
                  let response := appliedResponse lease.publication publication.identity
                    evidence.sealing record.renderedDigest
                  if (s.heads.lookup publication.identity.workshop).any
                      (headFrozen publication.identity) then
                    ((s.appliedTables publication.identity driverOperation
                        response).updatePublication lease.publication publication
                      { publication with status := .completed evidence ⟨response, s.now⟩ }).map
                      fun next => (next, ⟨.completed, some response⟩)
                  else .error (.drifted "route-set target projection CAS drifted")

end PublicationState

end ControlPlane.Publications
