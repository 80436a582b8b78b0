/-
# Recovery of an interrupted release

A release whose driver went away is recovered by a later attempt of the same operation. The
attempt claims the release under a fence, records what it finds and what it decides under
that fence, and finishes. From migration 0041 on a release whose external effects have
started is finished as the candidate only after a review of the runtime observation.

The functions are stated as migration 0041 leaves them: what 0037 defines is called through
the checks that 0040 and 0041 put in front of it. A function that raises leaves no trace.
-/

import ControlPlane.Releases.Writer

namespace ControlPlane.Releases

open Domain Driver Math Persistence
open Routes Publications

/-! ## Claims -/

/-- What a claimant presents. -/
structure ClaimKey where
  driverOperation : Uuid
  attempt : Nat
  leaseOwner : String
  (owner token : Uuid)
  fence : Nat
  deriving DecidableEq

/-- The kinds of authorization with the arguments that each of them reads. A response for
the first two kinds is refused. -/
inductive AuthorizationCall
  | disposeOverlay (overlay : Option OverlayKind) (response : Option Json)
  | restorePrior (overlay : Option OverlayKind) (response : Option Json)
  | publishCandidate (overlay : Option OverlayKind) (response : Option Json)
  deriving DecidableEq

/-- The claim is the caller's. -/
def RecoveryClaim.presentedBy (claim : RecoveryClaim) (key : ClaimKey) : Bool :=
  decide (claim.attempt = key.attempt) && decide (claim.leaseOwner = key.leaseOwner) &&
    decide (claim.owner = key.owner) && decide (claim.token = key.token)

def RecoveryClaim.live (claim : RecoveryClaim) (now : Timestamp) : Bool :=
  decide (now < claim.expiresAt)

/-- The end of the lease of an operation in flight. -/
def leaseEnd (row : OperationRow) : Timestamp :=
  match row.state with
  | .inFlight lease => lease.expiresAt
  | _ => 0

/-- The checks of a claim on the operation. A payload without a phase passes them. -/
def claimable (row : OperationRow) (now : Timestamp) (attempt : Nat) (owner : String) : Bool :=
  decide (row.kind = .odooReleaseAdopt) && decide (row.queue = .releaseAdoption) &&
    decide (row.workshopId = none) && !differs (row.payload.get "phase") "adopt" &&
    row.heldBy now owner attempt

namespace ReleaseState

/-- `valid_release_route_recovery_worker`. -/
def validRecoveryWorker (s : ReleaseState) (identity : ReleaseIdentity) (attempt : Nat)
    (leaseOwner : String) : Bool :=
  decide (identity.controlOperation.attempt < attempt) &&
    s.adoptedBy identity.controlOperation.id attempt leaseOwner

variable (env : DatabaseEnvironment) (s : ReleaseState) (key : ClaimKey)

/-- `lock_immutable_release_route_recovery_claim`, with the rows that it locks. -/
def lockClaim : Option (ReleasePublication × RecoveryClaim) :=
  match s.publications.lookup key.driverOperation,
      (s.recovery key.driverOperation).claim key.fence with
  | some publication, some claim =>
    if s.validRecoveryWorker publication.identity key.attempt key.leaseOwner ∧
        claim.presentedBy key ∧ claim.live s.now then
      some (publication, claim)
    else none
  | _, _ => none

/-- The leases and the receipt of a release that is not in quarantine have all run out. -/
def allExpired (s : ReleaseState) (id : Uuid) (identity : ReleaseIdentity)
    (driver : ReleaseOperation) : Bool :=
  (identity.owners.all fun owner =>
      (s.shared.leases.lookup owner.workshop).any fun route =>
        match route.phase with
        | .held authority _ _ _ expiresAt =>
          decide (authority = .releaseOverlay id) && decide (route.fence = owner.routeFence) &&
            decide (expiresAt ≤ s.now)
        | _ => false) &&
    (fleetHeldUntil s.shared.fleet (identity.lease id)).any (fun expiresAt =>
      decide (expiresAt ≤ s.now)) &&
    (executingUntil driver (identity.lease id)).any fun expiresAt => decide (expiresAt ≤ s.now)

/-- The release in quarantine: either it is there already, or its leases ran out and it is
moved there. -/
def interrupt (s : ReleaseState) (id : Uuid) (publication : ReleasePublication) :
    Except ReleaseOutcome (ReleaseState × Stage) :=
  match publication.phase, s.shared.drivers.lookup id with
  | .quarantined stage, _ => .ok (s, stage)
  | _, none => .error .notExpired
  | phase, some driver =>
    if s.allExpired id publication.identity driver = false then .error .notExpired
    else
      match phase, s.quarantineRelease (publication.identity.lease id) outcomeUnknownError with
      | .live stage, (t, true) => .ok (t, stage)
      | _, _ => .error .authorityInconsistent

/-- The head is as the interrupted phase left it. -/
def headInterrupted (id : Uuid) (stage : Stage) (owner : RouteOwner) (head : FleetHead) : Bool :=
  match stage with
  | .awaitingWorkerFinalize _ candidate =>
    (candidate.records.lookup owner.workshop).any fun renderedDigest =>
      showsCandidate id owner renderedDigest head
  | _ => frozenHead owner head

/-- The heads that a claim records. -/
def interruptedHeads (s : ReleaseState) (id : Uuid) (stage : Stage) (owners : List RouteOwner) :
    List (Uuid × FleetHead) :=
  owners.filterMap fun owner =>
    match s.shared.heads.lookup owner.workshop with
    | some head => if headInterrupted id stage owner head then some (owner.workshop, head) else none
    | none => none

/-- The claim that a call makes. -/
def newClaim (stage : Stage) (owners : List RouteOwner)
    (expiresAt : Timestamp) : RecoveryClaim where
  fence := (s.recovery key.driverOperation).latestFence + 1
  mode := stage.claimMode
  attempt := key.attempt
  leaseOwner := key.leaseOwner
  owner := key.owner
  token := key.token
  expiresAt := expiresAt
  heads := s.interruptedHeads key.driverOperation stage owners
  authorizations := ⟨none, false, none⟩
  records := ∅
  sealing := none
  observation := none
  resolution := none
  review := none

/-- The last part of a claim, on the release in quarantine. -/
def acquireClaim (identity : ReleaseIdentity) (stage : Stage)
    (expiresAt : Timestamp) : Except ReleaseRaised (ReleaseState × ReleaseOutcome) :=
  let id := key.driverOperation
  if s.allQuarantined (identity.lease id) identity.owners = false then
    .ok (s, .authorityInconsistent)
  else
    let claim := s.newClaim key stage identity.owners expiresAt
    if claim.heads.length ≠ identity.owners.length then .error .routeHeadSnapshotDrifted
    else
      .ok ({ s with recoveries := s.recoveries.insert id ((s.recovery id).add claim) }, .acquired)

/-- `claim_interrupted_immutable_release_route_publication`. The fence of the key is not
read: the call is given a new one. -/
def claimInterrupted (ttl : Nat) : Except ReleaseRaised (ReleaseState × ReleaseOutcome) :=
  let id := key.driverOperation
  if key.attempt = 0 ∨ isBlank key.leaseOwner ∨ ttl < 60 ∨ 1200 < ttl then .ok (s, .invalid)
  else
    match s.publications.lookup id with
    | none => .ok (s, .notFound)
    | some publication =>
      let identity := publication.identity
      if (s.recovery id).terminal.isSome then .ok (s, .terminal)
      else
        match s.queue.operations.lookup identity.controlOperation.id with
        | none => .ok (s, .authorityLost)
        | some row =>
          if claimable row s.now key.attempt key.leaseOwner = false ∨
              key.attempt ≤ identity.controlOperation.attempt then .ok (s, .authorityLost)
          else
            match (s.recovery id).claims.head?.filter fun claim => claim.live s.now with
            | some claim =>
              .ok (s, if claim.presentedBy key then .replay else .busy)
            | none =>
              match s.interrupt id publication with
              | .error outcome => .ok (s, outcome)
              | .ok (t, stage) =>
                t.acquireClaim key identity stage (min (s.now + seconds ttl) (leaseEnd row))

/-- `renew_interrupted_immutable_release_route_publication_claim`. -/
def renewClaim (ttl : Nat) : ReleaseState × Bool :=
  if ttl < 60 ∨ 1200 < ttl then (s, false)
  else
    match s.lockClaim key with
    | none => (s, false)
    | some (publication, _) =>
      match s.queue.operations.lookup publication.identity.controlOperation.id with
      | none => (s, false)
      | some row =>
        (s.withClaim key.driverOperation key.fence fun claim =>
          { claim with expiresAt := min (s.now + seconds ttl) (leaseEnd row) }, true)

/-! ## The candidate of the recovery -/

/-- `record_interrupted_immutable_release_route_candidate_entry`. The digest is checked by
the table only. -/
def recordCandidateEntry (call : RecordCall) :
    Except ReleaseRaised (ReleaseState × ReleaseOutcome) :=
  match s.lockClaim key with
  | none => .ok (s, .claimLost)
  | some (publication, claim) =>
    match publication.phase with
    | .quarantined (.candidateStaging _ _) =>
      match recordEntry publication.identity.owners claim.records call with
      | .error outcome => .ok (s, outcome)
      | .ok records =>
        if sqlDigest call.renderedDigest then
          .ok (s.withClaim key.driverOperation key.fence fun claim =>
            { claim with records := records }, .recorded)
        else .error .checkViolation
    | _ => .ok (s, .wrongPhase)

/-- `seal_interrupted_immutable_release_route_candidate`. -/
def sealCandidate (call : SealCall) : ReleaseState × ReleaseOutcome :=
  match s.lockClaim key with
  | none => (s, .claimLost)
  | some (publication, claim) =>
    let identity := publication.identity
    match publication.phase with
    | .quarantined (.candidateStaging _ _) =>
      if claim.sealing.isSome then
        (s, if sealRepeated identity .candidate claim.sealing call then .replay else .conflict)
      else if call.selector ≠ identity.selector .candidate ∨ call.directory.valid = false ∨
          call.count ≠ identity.owners.length then (s, .invalid)
      else if claim.records.entries.length ≠ call.count then (s, .countMismatch)
      else if overlayDigest env identity.owners claim.records ≠ call.digest then
        (s, .digestMismatch)
      else
        (s.withClaim key.driverOperation key.fence fun claim =>
          { claim with sealing := some ⟨call.digest, call.directory⟩ }, .sealed)
    | _ => (s, .wrongPhase)

/-! ## The runtime observation -/

/-- `read_interrupted_immutable_release_runtime_expectation`. -/
def readExpectation : Except ReleaseOutcome RuntimeExpectation :=
  if key.attempt = 0 ∨ isBlank key.leaseOwner ∨ key.fence = 0 then .error .invalid
  else
    match s.lockClaim key with
    | none => .error .claimLost
    | some (publication, claim) =>
      let id := key.driverOperation
      let identity := publication.identity
      match publication.interrupted with
      | none => .error .wrongPhase
      | some stage =>
        if claim.mode ≠ .forwardOnly ∨ stage.effectsStarted = false ∨
            (s.recovery id).terminal.isSome ∨ claim.resolution.isSome then .error .wrongPhase
        else
          match s.shared.drivers.lookup id, s.runs.lookup identity.fleetRun with
          | some driver, some run =>
            match run.release, run.intent identity with
            | some release, [intent] =>
              let prepared := run.prepared identity.controlOperation.id
              if driver.controlOperation.id ≠ identity.controlOperation.id ∨
                  driver.state ≠ .outcomeUnknown ∨
                  driver.executorProtocolVersion ≠ some 1 ∨
                  fleetQuarantined (identity.lease id) s.shared.fleet = false ∨
                  run.operation ≠ identity.controlOperation.id ∨
                  (run.state ≠ .preparing ∧ run.state ≠ .activating) ∨
                  run.targetSlot ≠ some identity.targetSlot ∨
                  run.driverFence ≠ some identity.globalFence ∨
                  (arrayLength run.tenantSnapshot).any (fun count =>
                    decide (1 ≤ count) && decide (count ≤ 500)) = false ∨
                  isObject (some release.manifest) = false ∨
                  intent.odooSubjectDigest ≠ release.odooSubjectDigest ∨
                  intent.extensionSubjectDigest ≠ release.extensionSubjectDigest ∨
                  intent.observed = false ∨ intent.preparedTenants ≠ prepared ∨
                  arrayLength prepared ≠ arrayLength run.tenantSnapshot then
                .error .stateDrift
              else .ok ⟨run, release, intent, prepared⟩
            | _, _ => .error .stateDrift
          | _, _ => .error .stateDrift

/-- The observation that is recorded when it agrees with the expectation. -/
def observe (identity : ReleaseIdentity) (expectation : RuntimeExpectation) (observation : Json) :
    Option RuntimeObservation :=
  let id := key.driverOperation
  let verified := verifiedAdoptions s.now expectation.run identity.controlOperation.id
  let response := completionResponse env id identity expectation observation
  if observationMatches identity expectation observation ∧
      arrayLength expectation.prepared = some verified.length ∧
      validCompletionResponse env id identity (s.runs.lookup identity.fleetRun) response then
    some {
      owner := key.owner
      tokenDigest := recoveryTokenDigest env key.token
      observation := observation
      completionResponse := response
      digest := runtimeObservationDigest env id identity.fleetRun key.fence observation response }
  else none

/-- `record_interrupted_immutable_release_runtime_observation`. The digest and the response
that the function returns are those of the recorded observation. -/
def recordRuntimeObservation
    (observation : Json) : ReleaseState × ReleaseOutcome × Option RuntimeObservation :=
  if observationValid env observation = false then (s, .invalid, none)
  else
    match s.readExpectation key, s.lockClaim key with
    | .error outcome, _ => (s, outcome, none)
    | .ok _, none => (s, .claimLost, none)
    | .ok expectation, some (publication, claim) =>
      match claim.observation with
      | some recorded =>
        if recorded.observation = observation then (s, .replay, some recorded)
        else (s, .conflict, none)
      | none =>
        match s.observe env key publication.identity expectation observation with
        | none => (s, .stateDrift, none)
        | some recorded =>
          (s.withClaim key.driverOperation key.fence fun claim =>
            { claim with observation := some recorded }, .recorded, some recorded)

/-! ## Authorizations -/

/-- The candidate is complete: its seal is in the claim when the release was interrupted
while it was staged, and in the publication otherwise. -/
def candidateComplete (stage : Stage) (claim : RecoveryClaim) : Bool :=
  if stage.isCandidateStaging then claim.sealing.isSome else stage.candidate.isSome

/-- `authorize_interrupted_immutable_release_route_exchange_unreceipted_v1`. -/
def authorizeUnreceipted (call : AuthorizationCall) : ReleaseState × ReleaseOutcome :=
  match s.lockClaim key with
  | none => (s, .claimLost)
  | some (publication, claim) =>
    let id := key.driverOperation
    let granted := claim.authorizations
    let allow := fun authorizations : Authorizations =>
      (s.withClaim id key.fence fun claim => { claim with authorizations := authorizations },
        ReleaseOutcome.authorized)
    match call with
    | .disposeOverlay overlay response =>
      match granted.disposeOverlay with
      | some recorded =>
        (s, if recorded = overlay ∧ response = none then .replay else .conflict)
      | none =>
        match publication.interrupted with
        | some (.maintenanceStaging _ _) | some (.maintenanceSealed _) =>
          if claim.mode ≠ .writeCleanup ∨ response ≠ none ∨
              overlay = some .candidate then (s, .invalid)
          else allow { granted with disposeOverlay := some overlay }
        | _ => (s, .invalid)
    | .restorePrior overlay response =>
      if granted.restorePrior then
        (s, if overlay = none ∧ response = none then .replay else .conflict)
      else
        match publication.interrupted with
        | some stage =>
          if claim.mode ≠ .restorePrior ∨ stage.effectsStarted ∨ stage.prior = none ∨
              overlay ≠ none ∨ response ≠ none then (s, .invalid)
          else allow { granted with restorePrior := true }
        | none => (s, .invalid)
    | .publishCandidate overlay response =>
      match granted.publishCandidate with
      | some recorded =>
        (s, if overlay = some .candidate ∧ response = some recorded then .replay
          else .conflict)
      | none =>
        match publication.interrupted, response with
        | some stage, some response =>
          if claim.mode ≠ .forwardOnly ∨ overlay ≠ some .candidate ∨
              stage.effectsStarted = false ∨ candidateComplete stage claim = false ∨
              validCompletionResponse env id publication.identity
                (s.runs.lookup publication.identity.fleetRun) response = false then
            (s, .invalid)
          else allow { granted with publishCandidate := some response }
        | _, _ => (s, .invalid)

/-- `authorize_interrupted_immutable_release_route_exchange`. -/
def authorizeExchange (call : AuthorizationCall) : ReleaseState × ReleaseOutcome :=
  match call with
  | .publishCandidate _ _ => (s, .runtimeObservationRequired)
  | call => s.authorizeUnreceipted env key call

/-- The observation that the claimant recorded. -/
def ownObservation (env : DatabaseEnvironment) (claim : RecoveryClaim) (key : ClaimKey) :
    Option RuntimeObservation :=
  claim.observation.filter fun observation =>
    decide (observation.owner = key.owner) &&
      decide (observation.tokenDigest = recoveryTokenDigest env key.token)

/-- `authorize_interrupted_immutable_release_route_candidate_from_observation`. -/
def authorizeFromObservation (observationDigest : String) : ReleaseState × ReleaseOutcome :=
  match s.lockClaim key with
  | none => (s, .claimLost)
  | some (_, claim) =>
    match (ownObservation env claim key).filter fun observation =>
        decide (observation.digest = observationDigest) with
    | none => (s, .observationAbsent)
    | some observation =>
      s.authorizeUnreceipted env key
        (.publishCandidate (some .candidate) (some observation.completionResponse))

end ReleaseState

/-! ## Resolutions -/

/-- The keys of the evidence that a resolution is recorded with. -/
def resolutionKeys : List String :=
  ["protocol_version", "driver_operation_id", "fleet_run_id", "claim_fence", "resolution_kind",
    "observed_selector", "observed_directory_device", "observed_directory_inode",
    "observed_loaded_identity", "maintenance_artifact", "candidate_artifact"]

def isNull : Option Json → Bool
  | some .null => true
  | _ => false

/-- Evidence of the expected form for the release, the fence and the kind. -/
def resolutionFormed (env : DatabaseEnvironment) (key : ClaimKey) (kind : ReleaseResolutionKind)
    (evidence : Json) : Bool :=
  match evidence with
  | .object fields =>
    decide (env.columnSize evidence ≤ 16384) && hasExactly fields resolutionKeys &&
      versionOne evidence &&
      decide (evidence.get "driver_operation_id" = some (.string key.driverOperation.toText)) &&
      isString (evidence.get "fleet_run_id") &&
      decide (evidence.get "claim_fence" = some (.number key.fence)) &&
      decide (evidence.get "resolution_kind" = some (.string kind.asStr)) &&
      (isString (evidence.get "observed_selector") || isNull (evidence.get "observed_selector")) &&
      (["observed_directory_device", "observed_directory_inode"].all fun key =>
        isNumber (evidence.get key) || isNull (evidence.get key)) &&
      (["observed_loaded_identity", "maintenance_artifact", "candidate_artifact"].all fun key =>
        isObject (evidence.get key) || isNull (evidence.get key))
  | _ => false

/-- The number of a field, which the cast to `bigint` refuses outside its range. -/
def bigintField (evidence : Json) (key : String) : Except ReleaseOutcome (Option Int) :=
  match evidence.get key with
  | some (.number value) =>
    if -9223372036854775808 ≤ value ∧ value ≤ 9223372036854775807 then .ok (some value)
    else .error .invalid
  | _ => .ok none

/-- What the claimant found selected. -/
structure ObservedRoutes where
  selector : Option String
  (device inode : Option Int)
  identity : Option Json

def observedRoutes (evidence : Json) : Except ReleaseOutcome ObservedRoutes := do
  let device ← bigintField evidence "observed_directory_device"
  let inode ← bigintField evidence "observed_directory_inode"
  pure {
    selector := textField evidence "observed_selector"
    device := device
    inode := inode
    identity := (evidence.get "observed_loaded_identity").filter fun value =>
      decide (value ≠ .null) }

/-- The directory that was found is this one. -/
def ObservedRoutes.foundIn (observed : ObservedRoutes) (directory : Directory) : Bool :=
  decide (observed.device = some directory.device) && decide (observed.inode = some directory.inode)

/-- An overlay directory as the evidence describes it. -/
def artifact (selector : String) (directory : Directory) (identity : Option Json) : Json :=
  .object [ ("directory_device", .number directory.device),
    ("directory_inode", .number directory.inode),
    ("loaded_identity", identity.getD .null),
    ("publication_started", .bool true),
    ("selector", .string selector)]

/-- The maintenance overlay of the release as the evidence describes it. -/
def maintenanceArtifact (id : Uuid) (identity : ReleaseIdentity) (sealing : OverlaySeal) : Json :=
  artifact (identity.selector .maintenance) sealing.directory
    (some (overlayIdentity id identity .maintenance sealing.digest))

/-- The seal of the candidate: in the claim when the release was interrupted while the
candidate was staged, and in the publication otherwise. -/
def candidateSeal (stage : Stage) (claim : RecoveryClaim) : Option OverlaySeal :=
  if stage.isCandidateStaging then claim.sealing
  else stage.candidate.map CandidateEvidence.sealing

/-- The candidate is selected and loaded, and its publication was authorized with this
response. An observation without a selector or an identity passes the comparisons. -/
def candidateObserved (env : DatabaseEnvironment) (id : Uuid) (identity : ReleaseIdentity)
    (run : Option FleetRun) (stage : Stage) (claim : RecoveryClaim) (evidence : Json)
    (observed : ObservedRoutes) (response : Option Json) : Bool :=
  match candidateSeal stage claim, stage.maintenance, response with
  | some sealing, some maintenance, some response =>
    decide (claim.mode = .forwardOnly) && stage.effectsStarted &&
      observed.selector.all (fun selector => decide (selector = identity.selector .candidate)) &&
      observed.foundIn sealing.directory &&
      observed.identity.all (fun found => validReleaseLoadedIdentity env found &&
        decide (found = overlayIdentity id identity .candidate sealing.digest)) &&
      decide (claim.authorizations.publishCandidate = some response) &&
      validCompletionResponse env id identity run response &&
      decide (evidence.get "maintenance_artifact" =
        some (maintenanceArtifact id identity maintenance.sealing)) &&
      decide (evidence.get "candidate_artifact" =
        some (artifact (identity.selector .candidate) sealing.directory observed.identity))
  | _, _, _ => false

/-- The prior is selected and loaded, and what was staged is gone or was replaced. -/
def priorObserved (env : DatabaseEnvironment) (id : Uuid) (identity : ReleaseIdentity)
    (stage : Stage) (claim : RecoveryClaim) (evidence : Json) (observed : ObservedRoutes) : Bool :=
  match stage.prior, observed.selector with
  | some prior, some selector =>
    !stage.effectsStarted && decide (selector = prior.selector) &&
      observed.foundIn prior.directory && decide (observed.identity = prior.loadedIdentity) &&
      validRouteSetPriorSelectorIdentity env selector observed.identity &&
      isNull (evidence.get "candidate_artifact") &&
      (match claim.mode with
        | .writeCleanup =>
          isNull (evidence.get "maintenance_artifact") &&
            decide (claim.authorizations.disposeOverlay = some (some .maintenance))
        | .restorePrior =>
          claim.authorizations.restorePrior && stage.maintenance.any fun maintenance =>
              decide (evidence.get "maintenance_artifact" =
                some (maintenanceArtifact id identity maintenance.sealing))
        | .forwardOnly => false)
  | _, _ => false

/-- The resolution was recorded by the caller. -/
def ReleaseResolution.recordedBy (resolution : ReleaseResolution) (env : DatabaseEnvironment)
    (key : ClaimKey) (kind : ReleaseResolutionKind) : Bool :=
  decide (resolution.kind = kind) && decide (resolution.attempt = key.attempt) &&
    decide (resolution.leaseOwner = key.leaseOwner) && decide (resolution.owner = key.owner) &&
    decide (resolution.tokenDigest = recoveryTokenDigest env key.token)

namespace ReleaseState

variable (env : DatabaseEnvironment) (s : ReleaseState) (key : ClaimKey)

/-- Every frozen head is as it was at admission and at the claim. -/
def headsFrozen (claim : RecoveryClaim) (owners : List RouteOwner) : Bool :=
  owners.all fun owner =>
    claim.heads.any fun recorded =>
      decide (recorded.1 = owner.workshop) && recorded.2.applied.any (fun applied =>
          decide (applied.renderedDigest = owner.appliedRenderedDigest) &&
            decide (applied.fence = owner.appliedFence)) &&
        decide (s.shared.heads.lookup owner.workshop = some recorded.2)

/-- The checks of a resolution against the rows, by its kind. The kind `unstarted` does not
reach them. -/
def resolutionChecked (identity : ReleaseIdentity) (stage : Stage) (claim : RecoveryClaim)
    (kind : ReleaseResolutionKind) (evidence : Json) (response : Option Json) :
    Except ReleaseOutcome Unit :=
  let id := key.driverOperation
  match observedRoutes evidence with
  | .error outcome => .error outcome
  | .ok observed =>
    match kind with
    | .candidate =>
      if candidateObserved env id identity (s.runs.lookup identity.fleetRun) stage claim evidence
          observed response then .ok ()
      else .error .observationMismatch
    | .prior =>
      if priorObserved env id identity stage claim evidence observed = false then
        .error .observationMismatch
      else if s.headsFrozen claim identity.owners then .ok ()
      else .error .snapshotDrift
    | .unstarted => .error .unsupportedResolution
    | .inconclusive => if response = none then .ok () else .error .invalid

/-- The resolution that a call records. -/
def newResolution (key : ClaimKey) (mode : ClaimMode)
    (kind : ReleaseResolutionKind) (evidence : Json) (response : Option Json) :
    ReleaseResolution where
  attempt := key.attempt
  leaseOwner := key.leaseOwner
  owner := key.owner
  tokenDigest := recoveryTokenDigest env key.token
  mode := mode
  kind := kind
  evidence := evidence
  candidateResponse := response

/-- `resolve_interrupted_immutable_release_route_publication_unsafe_v1`. Only a candidate is
stored with a response. -/
def resolveUnsafe (kind : ReleaseResolutionKind) (evidence : Json) (response : Option Json) :
    Except ReleaseRaised (ReleaseState × ReleaseOutcome) :=
  if resolutionFormed env key kind evidence = false then .ok (s, .invalid)
  else
    match s.lockClaim key with
    | none => .ok (s, .claimLost)
    | some (publication, claim) =>
      let identity := publication.identity
      if evidence.get "fleet_run_id" ≠ some (.string identity.fleetRun.toText) then
        .ok (s, .invalid)
      else
        match claim.resolution, publication.interrupted with
        | some recorded, _ =>
          .ok (s, if recorded.kind = kind ∧ recorded.evidence = evidence ∧
            recorded.candidateResponse = response then .replay else .conflict)
        | none, none => .ok (s, .observationMismatch)
        | none, some stage =>
          match s.resolutionChecked env key identity stage claim kind evidence response with
          | .error outcome => .ok (s, outcome)
          | .ok () =>
            if response.isSome ∧ kind ≠ .candidate then .error .checkViolation
            else
              let resolution := newResolution env key claim.mode kind evidence response
              .ok (s.withClaim key.driverOperation key.fence fun claim =>
                { claim with resolution := some resolution }, .recorded)

/-- A resolution that migration 0040 refuses: nothing tells that the prior is loaded. -/
def unsupported (kind : ReleaseResolutionKind) (evidence : Json) : Bool :=
  match kind with
  | .unstarted => true
  | .prior => !isObject (evidence.get "observed_loaded_identity")
  | _ => false

/-- `resolve_interrupted_immutable_release_route_publication_without_runtime_receipt_v2`. -/
def resolveWithoutReceipt
    (kind : ReleaseResolutionKind) (evidence : Json) (response : Option Json) :
    Except ReleaseRaised (ReleaseState × ReleaseOutcome) :=
  if (s.lockClaim key).isNone then .ok (s, .claimLost)
  else if unsupported kind evidence then .ok (s, .unsupportedResolution)
  else s.resolveUnsafe env key kind evidence response

/-- `resolve_interrupted_immutable_release_route_publication`. The response of a candidate is
the one of the runtime observation. -/
def resolveInterrupted (kind : ReleaseResolutionKind) (evidence : Json) (response : Option Json) :
    Except ReleaseRaised (ReleaseState × ReleaseOutcome) :=
  if kind ≠ .candidate then s.resolveWithoutReceipt env key kind evidence response
  else if response.isSome then .ok (s, .runtimeObservationRequired)
  else
    match s.lockClaim key with
    | none => .ok (s, .claimLost)
    | some (_, claim) =>
      match (ownObservation env claim key).filter fun observation =>
          decide (claim.authorizations.publishCandidate = some observation.completionResponse) with
      | none => .ok (s, .runtimeObservationRequired)
      | some observation =>
        s.resolveWithoutReceipt env key .candidate evidence (some observation.completionResponse)

/-! ## The review -/

/-- `lock_immutable_release_route_recovery_review`. -/
def lockReview (id : Uuid) (fence : Nat) (operation : ControlOperationLease) :
    Option (ReleasePublication × RecoveryClaim) :=
  match s.publications.lookup id, (s.recovery id).claim fence with
  | some publication, some claim =>
    if publication.identity.controlOperation.id = operation.id ∧
        s.adoptedBy operation.id operation.attempt operation.owner ∧
        claim.attempt = operation.attempt ∧ claim.leaseOwner = operation.owner ∧
        claim.live s.now then
      some (publication, claim)
    else none
  | _, _ => none

/-- The digest of a resolution of the kind `candidate`. -/
def candidateDigest (id fleetRun : Uuid) (fence : Nat) (resolution : ReleaseResolution) : String :=
  recoveryDecisionDigest env id fleetRun fence .candidate resolution.evidence
    resolution.candidateResponse

/-- The review that a call records. -/
def newReview (id fleetRun : Uuid) (fence : Nat)
    (observationDigest : String) (resolution : ReleaseResolution)
    (operation : ControlOperationLease) (decision : ReviewDecision) : ReleaseReview :=
  let resolutionDigest := candidateDigest env id fleetRun fence resolution
  { observationDigest := observationDigest
    resolutionDigest := resolutionDigest
    controlOperation := operation
    decision := decision
    digest := recoveryReviewDigest env id fleetRun fence observationDigest resolutionDigest
      operation decision }

/-- `review_interrupted_immutable_release_runtime_observation`. -/
def reviewObservation (s : ReleaseState) (id : Uuid) (fence : Nat)
    (operation : ControlOperationLease) (observationDigest : String) (decision : ReviewDecision) :
    ReleaseState × ReleaseOutcome × Option String :=
  if fence = 0 ∨ operation.attempt = 0 ∨ isBlank operation.owner ∨
      sqlDigest observationDigest = false then (s, .invalid, none)
  else
    match s.lockReview id fence operation with
    | none => (s, .leaseLost, none)
    | some (publication, claim) =>
      let identity := publication.identity
      match claim.observation.filter (fun observation =>
          decide (observation.digest = observationDigest)) with
      | none => (s, .observationAbsent, none)
      | some observation =>
        match claim.resolution.filter fun resolution => decide (resolution.kind = .candidate) with
        | none => (s, .resolutionAbsent, none)
        | some resolution =>
          if publication.interrupted = none ∨
              resolution.candidateResponse ≠ some observation.completionResponse ∨
              validCompletionResponse env id identity (s.runs.lookup identity.fleetRun)
                observation.completionResponse = false then (s, .stateDrift, none)
          else
            let review := newReview env id identity.fleetRun fence observationDigest
              resolution operation decision
            match claim.review with
            | some recorded =>
              if recorded.digest = review.digest then (s, .replay, some review.digest)
              else (s, .conflict, none)
            | none =>
              (s.withClaim id fence fun claim => { claim with review := some review },
                match decision with
                | .acceptCandidate => .approved
                | .keepQuarantined => .keptQuarantined, some review.digest)

/-! ## The end of a recovery -/

/-- The rendered digests of the candidate: of the claim when the release was interrupted while
the candidate was staged, and of the publication otherwise. -/
def candidateRecords (stage : Stage) (claim : RecoveryClaim) : OverlayRecords :=
  match stage with
  | .candidateStaging _ _ => claim.records
  | stage => (stage.candidate.map CandidateEvidence.records).getD ∅

/-- The number of recorded heads that show the candidate. -/
def headsShown (id : Uuid) (owners : List RouteOwner) (records : OverlayRecords)
    (claim : RecoveryClaim) : Nat :=
  claim.heads.countP fun recorded =>
    owners.any fun owner =>
      decide (owner.workshop = recorded.1) && recorded.2.applied.any fun applied =>
          decide (records.lookup recorded.1 = some applied.renderedDigest) &&
            decide (applied.writer = .driver id) && decide (applied.fence = owner.routeFence)

/-- The number of recorded heads that are still there. -/
def headsKept (claim : RecoveryClaim) : Nat :=
  claim.heads.countP fun recorded =>
    decide (s.shared.heads.lookup recorded.1 = some recorded.2)

/-- The heads of a candidate that is accepted. When none of the recorded heads shows it they
are advanced, and when all of them do they stay. -/
def candidateHeads (id : Uuid) (owners : List RouteOwner)
    (records : OverlayRecords) (claim : RecoveryClaim) :
    Except ReleaseRaised (Option (Table Uuid FleetHead)) :=
  if headsShown id owners records claim = 0 then
    match advanceHeads s.publications id records
        (fun owner head => decide ((owner.workshop, head) ∈ claim.heads)) .candidateHeadDrifted
          owners
        s.shared.heads with
    | .error raised => .error raised
    | .ok heads => .ok (some heads)
  else if headsShown id owners records claim = owners.length then .ok (some s.shared.heads)
  else .ok none

/-- The response that is stored for a release that was not applied. -/
def notAppliedResponse (id : Uuid) (identity : ReleaseIdentity) (kind : ReleaseResolutionKind)
    (decisionDigest : String) : Json :=
  .object [ ("decision_digest", .string decisionDigest), ("driver_operation_id", .string id.toText),
    ("fleet_run_id", .string identity.fleetRun.toText),
    ("outcome", .string "not_applied"),
    ("resolution_kind", .string kind.asStr)]

def notAppliedError : String := "release_route_publication_not_applied"

/-- Release the routes and the shared lease, and store the decision. -/
def closeRecovery (key : ClaimKey) (identity : ReleaseIdentity)
    (kind : ReleaseResolutionKind) (decisionDigest : String) (response : Json) :
    Except ReleaseRaised ReleaseState :=
  let id := key.driverOperation
  let lease := identity.lease id
  if (identity.owners.all fun owner =>
      (s.shared.leases.lookup owner.workshop).any (routeQuarantined lease owner)) = false then
    .error .routeReleaseDrifted
  else if fleetQuarantined lease s.shared.fleet = false then .error .globalReleaseDrifted
  else if (s.recovery id).terminal.isSome then .error .uniqueViolation
  else
    .ok { s with
      shared := { s.shared with
        leases := mapRoutes (fun _ => idleRoute) identity.owners s.shared.leases
        fleet := { s.shared.fleet with phase := .idle } }
      recoveries := s.recoveries.insert id ((s.recovery id).close {
        fence := key.fence
        attempt := key.attempt
        leaseOwner := key.leaseOwner
        owner := key.owner
        kind := kind
        decisionDigest := decisionDigest
        response := response }) }

/-- Accept the candidate: show it, keep its response and end the driver's receipt. -/
def finishCandidate (identity : ReleaseIdentity) (stage : Stage) (claim : RecoveryClaim)
    (resolution : ReleaseResolution) (decisionDigest : String) :
    Except ReleaseRaised (ReleaseState × ReleaseOutcome × Option Json) :=
  let id := key.driverOperation
  match resolution.candidateResponse with
  | none => .ok (s, .stateDrift, none)
  | some response =>
    if validCompletionResponse env id identity (s.runs.lookup identity.fleetRun) response = false ∨
        s.headsKept claim ≠ identity.owners.length then .ok (s, .stateDrift, none)
    else
      match s.candidateHeads id identity.owners (candidateRecords stage claim) claim with
      | .error raised => .error raised
      | .ok none => .ok (s, .stateDrift, none)
      | .ok (some heads) =>
        let shown := { s with shared := { s.shared with heads := heads } }
        match candidateSeal stage claim, s.completions.lookup id, s.shared.drivers.lookup id with
        | none, _, _ => .ok (shown, .stateDrift, none)
        | _, some _, _ => .error .uniqueViolation
        | _, _, none => .error .driverCompletionDrifted
        | some sealing, none, some driver =>
          if driver.state ≠ .outcomeUnknown then .error .driverCompletionDrifted
          else
            let ended := { shown.withDriver id { driver with state := .succeeded response } with
              completions := s.completions.insert id
                ⟨identity.selector .candidate, sealing, response⟩ }
            match ended.closeRecovery key identity .candidate decisionDigest response with
            | .error raised => .error raised
            | .ok t => .ok (t, .appliedRecovered, some response)

/-- Accept that the release was not applied, and end the driver's receipt. -/
def finishNotApplied (key : ClaimKey) (identity : ReleaseIdentity)
    (stage : Stage) (claim : RecoveryClaim) (kind : ReleaseResolutionKind)
    (decisionDigest : String) :
    Except ReleaseRaised (ReleaseState × ReleaseOutcome × Option Json) :=
  let id := key.driverOperation
  if stage.effectsStarted ∨ (kind = .unstarted ∧ stage.withoutPrior = false) ∨
      (kind = .prior ∧ stage.prior = none) then .ok (s, .stateDrift, none)
  else if s.headsFrozen claim identity.owners = false then .ok (s, .snapshotDrift, none)
  else
    match s.shared.drivers.lookup id with
    | none => .error .driverCancellationDrifted
    | some driver =>
      if driver.state ≠ .outcomeUnknown then .error .driverCancellationDrifted
      else
        let response := notAppliedResponse id identity kind decisionDigest
        let ended := s.withDriver id { driver with state := .failed notAppliedError }
        match ended.closeRecovery key identity kind decisionDigest response with
        | .error raised => .error raised
        | .ok t => .ok (t, .notApplied, some response)

/-- The stored decision, when the caller made it. -/
def ownTerminal : Option RecoveryTerminal :=
  let ledger := s.recovery key.driverOperation
  ledger.terminal.filter fun terminal =>
    decide (terminal.fence = key.fence) && decide (terminal.attempt = key.attempt) &&
      decide (terminal.leaseOwner = key.leaseOwner) && decide (terminal.owner = key.owner) &&
      (ledger.claim terminal.fence).any fun claim =>
        claim.resolution.any fun resolution =>
          decide (resolution.tokenDigest = recoveryTokenDigest env key.token)

/-- `finish_interrupted_immutable_release_route_publication_unsafe_v1`. -/
def finishUnsafe (kind : ReleaseResolutionKind) (decisionDigest : String) :
    Except ReleaseRaised (ReleaseState × ReleaseOutcome × Option Json) :=
  let id := key.driverOperation
  match s.ownTerminal env key with
  | some terminal =>
    if terminal.kind = kind ∧ terminal.decisionDigest = decisionDigest then
      .ok (s, .replay, some terminal.response)
    else .ok (s, .conflict, none)
  | none =>
    match s.lockClaim key with
    | none => .ok (s, .claimLost, none)
    | some (publication, claim) =>
      let identity := publication.identity
      match claim.resolution.filter (fun resolution =>
          resolution.recordedBy env key kind), publication.interrupted with
      | none, _ => .ok (s, .resolutionAbsent, none)
      | _, none => .ok (s, .stateDrift, none)
      | some resolution, some stage =>
        if kind = .inconclusive then .ok (s, .blocked, none)
        else if decisionDigest ≠ recoveryDecisionDigest env id identity.fleetRun key.fence kind
            resolution.evidence resolution.candidateResponse then
          .ok (s, .decisionMismatch, none)
        else if kind = .candidate then
          s.finishCandidate env key identity stage claim resolution decisionDigest
        else s.finishNotApplied key identity stage claim kind decisionDigest

/-- `finish_interrupted_immutable_release_route_publication_without_independent_review_v2`. -/
def finishWithoutReview (kind : ReleaseResolutionKind) (decisionDigest : String) :
    Except ReleaseRaised (ReleaseState × ReleaseOutcome × Option Json) :=
  if (s.lockClaim key).any fun found => found.2.resolution.any fun resolution =>
      unsupported resolution.kind resolution.evidence then
    .ok (s, .unsupportedResolution, none)
  else s.finishUnsafe env key kind decisionDigest

/-- `finish_interrupted_immutable_release_route_publication`. -/
def finishInterrupted (kind : ReleaseResolutionKind) (decisionDigest : String) :
    Except ReleaseRaised (ReleaseState × ReleaseOutcome × Option Json) :=
  if kind = .candidate then .ok (s, .reviewedFinishRequired, none)
  else s.finishWithoutReview env key kind decisionDigest

/-- The review that accepts the candidate of a claim. -/
def acceptingReview (id : Uuid) (fleetRun : Uuid) (claim : RecoveryClaim) : Option ReleaseReview :=
  match claim.review, claim.observation, claim.resolution with
  | some review, some observation, some resolution =>
    if review.observationDigest = observation.digest ∧ review.decision = .acceptCandidate ∧
        resolution.kind = .candidate ∧
        resolution.candidateResponse = some observation.completionResponse ∧
        review.resolutionDigest = candidateDigest env id fleetRun claim.fence resolution then
      some review
    else none
  | _, _, _ => none

/-- `finish_reviewed_interrupted_immutable_release_route_publication`. -/
def finishReviewed : Except ReleaseRaised (ReleaseState × ReleaseOutcome × Option Json) :=
  let id := key.driverOperation
  match s.publications.lookup id, (s.recovery id).claim key.fence with
  | some publication, some claim =>
    match acceptingReview env id publication.identity.fleetRun claim with
    | none => .ok (s, .reviewRequired, none)
    | some review => s.finishWithoutReview env key .candidate review.resolutionDigest
  | _, _ => .ok (s, .reviewRequired, none)

end ReleaseState

end ControlPlane.Releases
