/-
# Recovering an interrupted publication

A publication whose driver went away is recovered in three calls of a reconciliation
operation: claim it, record what the gateway shows, and end it by a reviewed decision
about one recorded observation. A claim fences the claims before it. It allows writing
only when the publication never started; otherwise it can only observe.
-/

import ControlPlane.Publications.Procedures

namespace ControlPlane.Publications

open Domain Driver Math Persistence
open Routes

/-! ## Calls and answers -/

structure ClaimCall where
  publication : Uuid
  operation : ControlOperationLease
  (owner token : Uuid)
  ttlSeconds : Nat
  deriving DecidableEq

def validOperation (operation : ControlOperationLease) : Bool :=
  decide (0 < operation.attempt) && !isBlank operation.owner

def ClaimCall.valid (call : ClaimCall) : Bool :=
  validOperation call.operation && validTtl call.ttlSeconds

inductive ClaimOutcome
  | invalid
  | absent
  | protocolInactive
  | terminal
  | reconciliationLeaseLost
  | replay
  | busy
  | wrongPhase
  | authorityInconsistent
  | notExpired
  | acquired
  deriving DecidableEq

/-- A row of the functions that claim a publication. -/
structure ClaimRow where
  outcome : ClaimOutcome
  fence : Option Nat
  mode : Option ClaimMode
  deriving DecidableEq

/-- What a claimant presents. -/
structure ClaimHolder where
  (publication owner token : Uuid)
  fence : Nat
  deriving DecidableEq

inductive RenewClaimOutcome
  | invalid
  | claimLost
  | renewed
  deriving DecidableEq

structure ResolveCall where
  holder : ClaimHolder
  kind : ResolutionKind
  observed : ObservedSelection
  deriving DecidableEq

inductive ResolveOutcome
  | replay
  | conflict
  | claimLost
  | evidenceMismatch
  | recorded
  deriving DecidableEq

/-- The arguments of a decision. Kind and decision are null when they are absent. -/
structure RecoveryFinishCall where
  publication : Uuid
  claimFence : Nat
  operation : ControlOperationLease
  (owner token : Uuid)
  kind : Option ResolutionKind
  decision : Option TerminalDecision
  decisionDigest : String
  deriving DecidableEq

inductive RecoveryOutcome
  | invalid
  | absent
  | replay
  | conflict
  | protocolInactive
  | observationMismatch
  | reconciliationLeaseLost
  | authorityInconsistent
  | blocked
  | completed
  deriving DecidableEq

/-- A row of the functions that end a recovery. -/
structure RecoveryRow where
  outcome : RecoveryOutcome
  response : Option TerminalResponse
  deriving DecidableEq

/-! ## Claims of a row -/

namespace Publication

variable (publication : Publication)

/-- The claim that has not run out. -/
def liveClaim (now : Timestamp) : Option Claim :=
  publication.claim.filter fun claim => decide (now < claim.expiresAt)

/-- Writing is allowed only when the quarantine proved that nothing was written. -/
def claimMode : ClaimMode :=
  if publication.recoveryEligibleAt.isSome && publication.recoveryWriteEligible &&
      publication.status.progress.startedAt.isNone && publication.status.progress.unstarted then
    .writeCleanup
  else .observeOnly

/-- The row of a publication that was interrupted with all of its leases run out. -/
def interrupted (progress : Progress) (now : Timestamp) :
    Publication :=
  { publication with
    status := .quarantined progress now
    recoveryEligibleAt := some now
    recoveryWriteEligible := progress.unstarted }

/-- The row under a new claim, with the next fence. -/
def claimedBy (call : ClaimCall) (now : Timestamp) (operationUntil : Timestamp) : Publication :=
  { publication with
    claim := some {
      operation := call.operation
      owner := call.owner
      token := call.token
      expiresAt := min operationUntil (now + seconds call.ttlSeconds)
      mode := publication.claimMode }
    claimFence := publication.claimFence + 1
    recoveryEligibleAt := publication.recoveryEligibleAt.or (some now) }

end Publication

/-- The claim was made with the same tokens. -/
def ClaimCall.holds (call : ClaimCall) (claim : Claim) : Bool :=
  decide (claim.operation = call.operation) && decide (claim.owner = call.owner) &&
    decide (claim.token = call.token)

namespace PublicationState

variable (s : PublicationState) (env : DatabaseEnvironment)

/-- The operation works on the recovery of this publication, and its lease runs until then. -/
def reconciliationUntil (id workshop : Uuid)
    (operation : ControlOperationLease) : Option Timestamp :=
  match s.queue.operations.lookup operation.id with
  | some row =>
    if row.workshopId = some workshop ∧ row.kind = .tenantReconcile ∧
        row.queue = .tenantReconciliation ∧
        row.heldBy s.now operation.owner operation.attempt = true ∧
        Json.textIs (row.payload.get "route_set_publication_id") id.toText = true ∧
        Json.textIs (row.payload.get "protocol_version") "1" = true then
      leaseEnd row
    else none
  | none => none

/-- The leases and the receipt of a live projection are the ones it was admitted with. -/
def liveConsistent (id : Uuid) (identity : PublicationIdentity) (driverOperation : Uuid) : Bool :=
  s.upstreamRecorded identity && (s.fleetHeldUntil (identity.lease id)).isSome &&
    (s.routeHeldUntil identity (identity.lease id)).isSome &&
    (s.receipts.lookup driverOperation).any fun receipt =>
      receipt.safeError.isNone && receiptBound receipt identity &&
        (executingUntil receipt identity.executionToken).isSome

/-- The leases and the receipt of an interrupted projection are in quarantine for it. -/
def quarantineConsistent (id : Uuid) (identity : PublicationIdentity)
    (driverOperation : Uuid) : Bool :=
  s.upstreamRecorded identity && s.fleetQuarantinedFor id identity &&
    s.routeQuarantinedFor id identity &&
    (s.receipts.lookup driverOperation).any fun receipt =>
      receiptUnknown receipt && receiptBound receipt identity

/-- A lease that has an end, which has passed. -/
def hasExpired (now : Timestamp) (expiresAt : Option Timestamp) : Bool :=
  expiresAt.any fun expiresAt => decide (expiresAt ≤ now)

/-- All four leases of a live projection have run out. -/
def allExpired (id : Uuid) (identity : PublicationIdentity) (driverOperation : Uuid) : Bool :=
  hasExpired s.now ((s.queue.operations.lookup identity.controlOperation.id).bind leaseEnd) &&
    hasExpired s.now ((s.receipts.lookup driverOperation).bind fun receipt =>
      executingUntil receipt identity.executionToken) &&
    hasExpired s.now (s.fleetHeldUntil (identity.lease id)) &&
    hasExpired s.now (s.routeHeldUntil identity (identity.lease id))

/-! ## Claiming -/

/-- Hand the next claim of an interrupted publication out. -/
def grantClaim (call : ClaimCall) (publication : Publication)
    (operationUntil : Timestamp) : Except PublicationError (PublicationState × ClaimRow) :=
  let claimed := publication.claimedBy call s.now operationUntil
  (s.updatePublication call.publication publication claimed).map fun next =>
    (next, ⟨.acquired, some claimed.claimFence, some publication.claimMode⟩)

/-- The claim of a publication that nobody else has claimed. A live one is put in
quarantine first. -/
def claimFree (call : ClaimCall) (publication : Publication)
    (driverOperation : Uuid) (operationUntil : Timestamp) :
    Except PublicationError (PublicationState × ClaimRow) :=
  match publication.status with
  | .completed _ _ => .ok (s, ⟨.wrongPhase, none, none⟩)
  | .active progress =>
    if s.liveConsistent call.publication publication.identity driverOperation = false then
      .ok (s, ⟨.authorityInconsistent, none, none⟩)
    else if s.allExpired call.publication publication.identity driverOperation = false then
      .ok (s, ⟨.notExpired, none, none⟩)
    else
      let interrupted := publication.interrupted progress s.now
      match (s.quarantineAuthority publication.identity.workshop
          driverOperation).updatePublication call.publication publication interrupted with
      | .error raised => .error raised
      | .ok next => next.grantClaim call interrupted operationUntil
  | .quarantined _ _ =>
    if s.quarantineConsistent call.publication publication.identity driverOperation = false then
      .ok (s, ⟨.authorityInconsistent, none, none⟩)
    else s.grantClaim call publication operationUntil

/-- `claim_interrupted_route_set_publication` for a projection. -/
def claimInterruptedRouteSetPublicationProjectionV1 (call : ClaimCall) :
    Except PublicationError (PublicationState × ClaimRow) :=
  if call.valid = false then .ok (s, ⟨.invalid, none, none⟩)
  else
    match s.publications.lookup call.publication with
    | none => .ok (s, ⟨.absent, none, none⟩)
    | some publication =>
      if s.mode ≠ .generationV1 then .ok (s, ⟨.protocolInactive, none, none⟩)
      else if publication.status.finished.isSome then
        .ok (s, ⟨.terminal, some publication.claimFence, none⟩)
      else
        match publication.identity.subject with
        | .recoveryMaintenance _ | .recoveryRestore _ => .ok (s, ⟨.invalid, none, none⟩)
        | .projection driverOperation =>
          if call.operation.id = publication.identity.controlOperation.id then
            .ok (s, ⟨.invalid, none, none⟩)
          else
            match s.reconciliationUntil call.publication publication.identity.workshop
                call.operation with
            | none => .ok (s, ⟨.reconciliationLeaseLost, none, none⟩)
            | some operationUntil =>
              match publication.liveClaim s.now with
              | some claim =>
                .ok (s, ⟨if call.holds claim then .replay else .busy,
                  some publication.claimFence, some claim.mode⟩)
              | none => s.claimFree call publication driverOperation operationUntil

/-! ## Holding a claim -/

/-- The presented claim is the row's current one, and its operation still runs. -/
def claimCurrent (holder : ClaimHolder) (publication : Publication) (claim : Claim) : Bool :=
  decide (claim.owner = holder.owner) && decide (claim.token = holder.token) &&
    decide (publication.claimFence = holder.fence) && decide (s.now < claim.expiresAt)

/-- `lock_interrupted_route_set_publication_claim`, with the claim that it locks. -/
def lockClaim (holder : ClaimHolder) : Option (Publication × Claim) :=
  if s.mode ≠ .generationV1 then none
  else
    match s.publications.lookup holder.publication with
    | none => none
    | some publication =>
      match publication.status, publication.claim with
      | .quarantined _ _, some claim =>
        let identity := publication.identity
        let current := s.claimCurrent holder publication claim &&
          match identity.subject with
          | .projection driverOperation =>
            (s.reconciliationUntil holder.publication identity.workshop claim.operation).isSome &&
              s.quarantineConsistent holder.publication identity driverOperation
          | .recoveryMaintenance run | .recoveryRestore run =>
            ((s.queue.operations.lookup claim.operation.id).any fun row =>
              decide (row.workshopId = some identity.workshop) &&
                decide (row.kind = .tenantReconcile) &&
                decide (row.queue = .tenantReconciliation) &&
                row.heldBy s.now claim.operation.owner claim.operation.attempt) &&
              (match s.fleet.phase with
                | .quarantined (.routeSetPublication id) _ =>
                  decide (id = holder.publication) &&
                    decide (s.fleet.fence = identity.globalFence)
                | _ => false) &&
              ((s.leases.lookup identity.workshop).any fun lease =>
                match lease.phase with
                | .quarantined (.routeSetPublication id) _ _ _ =>
                  decide (id = holder.publication) &&
                    decide (lease.fence = identity.routeFence)
                | _ => false) &&
              (s.effectRuns.lookup run).any fun effect =>
                decide (effect.kind = .recoveryMaintenance) &&
                  decide (effect.workshop = some identity.workshop) &&
                  match effect.state with
                  | .quarantined safeError _ =>
                    decide (safeError = "runtime_outcome_unknown")
                  | _ => false
        if current then some (publication, claim) else none
      | _, _ => none

/-- `renew_interrupted_route_set_publication_claim`. -/
def renewClaim (holder : ClaimHolder) (ttlSeconds : Nat) :
    Except PublicationError (PublicationState × RenewClaimOutcome) :=
  if holder.fence = 0 ∨ validTtl ttlSeconds = false then .ok (s, .invalid)
  else
    match s.lockClaim holder with
    | none => .ok (s, .claimLost)
    | some (publication, claim) =>
      let operationUntil := ((s.queue.operations.lookup claim.operation.id).bind leaseEnd).getD 0
      (s.updatePublication holder.publication publication { publication with
        claim := some { claim with
          expiresAt := min operationUntil (s.now + seconds ttlSeconds) } }).map
        fun next => (next, .renewed)

/-! ## Observations -/

/-- The observation agrees with what the row recorded before it was interrupted. -/
def observationMatches (id : Uuid) (publication : Publication) (kind : ResolutionKind)
    (observed : ObservedSelection) : Bool :=
  let progress := publication.status.progress
  let identity := publication.identity
  match kind with
  | .candidate =>
    match progress.startedAt, progress.sealing with
    | some _, some sealing =>
      decide (publication.records.entries.length = sealing.count) &&
        decide (observed = ⟨some identity.selector, some sealing.directory.device,
          some sealing.directory.inode,
          some (expectedIdentity id identity (some sealing.digest))⟩)
    | _, _ => false
  | .prior =>
    match progress.prior with
    | some prior =>
      decide (progress.phase ≠ .observed) &&
        decide (observed = ⟨some prior.value.selector, some prior.value.directory.device,
          some prior.value.directory.inode, prior.value.loadedIdentity⟩)
    | none => false
  | .unstarted =>
    decide (progress = .staging none) && decide (publication.records.entries.length = 0) &&
      decide (observed = .nothing)
  | .inconclusive => decide (observed = .nothing)

/-- The observation that a claim leaves. -/
def resolutionOf (call : ResolveCall) (publication : Publication) (claim : Claim) : Resolution where
  operation := claim.operation
  owner := call.holder.owner
  tokenDigest := hexDigest (tokenDigest env call.holder.token)
  mode := claim.mode
  kind := call.kind
  evidence := {
    publication := call.holder.publication
    claimFence := call.holder.fence
    mode := claim.mode
    operation := claim.operation
    kind := call.kind
    interruptedPhase := publication.status.progress.phase
    observed := call.observed }

/-- The call repeats a recorded observation. -/
def resolvedBy (call : ResolveCall) (resolution : Resolution) : Bool :=
  decide (resolution.owner = call.holder.owner) &&
    decide (resolution.tokenDigest = hexDigest (tokenDigest env call.holder.token)) &&
    decide (resolution.kind = call.kind) && resolution.evidence.matches call.observed

/-- `resolve_interrupted_route_set_publication_observation`. The recorded observation
ends the claim. -/
def resolveObservation (s : PublicationState) (call : ResolveCall) :
    Except PublicationError (PublicationState × ResolveOutcome) :=
  match (s.publications.lookup call.holder.publication).bind fun publication =>
      publication.resolutions.lookup call.holder.fence with
  | some resolution => .ok (s, if resolvedBy env call resolution then .replay else .conflict)
  | none =>
    match s.lockClaim call.holder with
    | none => .ok (s, .claimLost)
    | some (publication, claim) =>
      if observationMatches call.holder.publication publication call.kind call.observed = false then
        .ok (s, .evidenceMismatch)
      else
        (s.updatePublication call.holder.publication publication { publication with
          claim := none
          resolutions := publication.resolutions.insert call.holder.fence
            (resolutionOf env call publication claim) }).map fun next => (next, .recorded)

/-! ## Decisions -/

/-- The digest that names a decision about an observation. -/
def decisionDigest (call : RecoveryFinishCall) (kind : ResolutionKind)
    (decision : TerminalDecision) (evidence : ResolutionEvidence) : String :=
  hexDigest (env.sha256 (utf8 "mb-route-set-terminal-decision-v1" ++
    uuidSend call.publication ++ bigEndian 8 call.claimFence ++ uuidSend call.operation.id ++
    bigEndian 4 call.operation.attempt ++ lengthPrefixed call.operation.owner ++
    uuidSend call.owner ++ bigEndian 32 (tokenDigest env call.token).toNat ++
    lengthPrefixed kind.asStr ++ lengthPrefixed decision.asStr ++
    bigEndian 32 (env.sha256 (utf8 (env.jsonbText evidence.toJson))).toNat))

/-- The digest that a call has to show for an observation. -/
def expectedDecisionDigest (call : RecoveryFinishCall) (resolution : Resolution) : Option String :=
  match call.kind, call.decision with
  | some kind, some decision => some (decisionDigest env call kind decision resolution.evidence)
  | _, _ => none

/-- Only an inconclusive observation keeps the quarantine. -/
def validDecision (call : RecoveryFinishCall) : Bool :=
  decide (0 < call.claimFence) && validOperation call.operation &&
    sqlHexDigest call.decisionDigest &&
    match call.kind, call.decision with
    | some kind, some decision =>
      decide (kind = .inconclusive) == decide (decision = .keepQuarantined)
    | _, _ => false

/-- The call authenticates as the claimant of an observation. -/
def authenticates (call : RecoveryFinishCall) (resolution : Resolution) : Bool :=
  decide (resolution.owner = call.owner) &&
    decide (resolution.tokenDigest = hexDigest (tokenDigest env call.token)) &&
    decide (some call.decisionDigest = expectedDecisionDigest env call resolution)

/-- The call repeats the decision that ended the publication. -/
def repeatsTerminal (call : RecoveryFinishCall)
    (publication : Publication) (terminal : Terminal) : Bool :=
  (publication.resolutions.lookup call.claimFence).any (authenticates env call) &&
    decide (terminal.claimFence = call.claimFence) &&
    decide (terminal.operation = call.operation) && decide (some terminal.kind = call.kind) &&
    decide (terminal.decisionDigest = call.decisionDigest)

/-- The prior routes can be accepted only with an identity that was really loaded. -/
def priorAcceptable (publication : Publication) (resolution : Resolution) : Bool :=
  match publication.status.progress.prior with
  | some prior =>
    prior.value.loadedIdentity.isSome &&
      decide (prior.value.selector ≠ "generations/boot-live") &&
      validPriorSelectorIdentity env prior.value.selector prior.value.loadedIdentity &&
      decide (resolution.evidence.loadedIdentity = prior.value.loadedIdentity)
  | none => false

/-- The decision is about this observation, which is of the decided kind. -/
def decides (call : RecoveryFinishCall) (kind : ResolutionKind)
    (publication : Publication) (resolution : Resolution) : Bool :=
  decide (resolution.kind = kind) && decide (resolution.operation = call.operation) &&
    authenticates env call resolution &&
    decide (resolution.evidence.publication = call.publication) &&
    decide (resolution.evidence.claimFence = call.claimFence) &&
    decide (resolution.evidence.kind = kind) &&
    (decide (kind ≠ .prior) || priorAcceptable env publication resolution)

/-- The reconciliation operation names the decision in its payload. -/
def namesDecision (call : RecoveryFinishCall) (kind : ResolutionKind)
    (decision : TerminalDecision) (payload : Json) : Bool :=
  Json.textIs (payload.get "route_set_resolution_claim_fence") (toString call.claimFence) &&
    Json.textIs (payload.get "route_set_resolution_kind") kind.asStr &&
    Json.textIs (payload.get "route_set_terminal_decision") decision.asStr &&
    Json.textIs (payload.get "route_set_terminal_decision_digest") call.decisionDigest

def reviewed (call : RecoveryFinishCall) (workshop : Uuid)
    (kind : ResolutionKind) (decision : TerminalDecision) : Bool :=
  (s.reconciliationUntil call.publication workshop call.operation).isSome &&
    (s.queue.operations.lookup call.operation.id).any fun row =>
      namesDecision call kind decision row.payload

/-- A frozen head is as it was: every applied one, and the target's desired one. -/
def snapshotUndrifted (row : SnapshotRow) : Bool :=
  (s.heads.lookup row.workshop).any fun head =>
    (!row.isTarget || decide (head.desired = some row.route)) &&
      decide (head.applied = some row.baseline)

/-- A record still renders its snapshot row. -/
def recordUndrifted (snapshot : List SnapshotRow) (workshop : Uuid) (record : PublicationRecord) :
    Bool :=
  snapshot.any fun row =>
    decide (row.workshop = workshop) && decide (record.route = row.route) &&
      decide (record.appliedRenderedDigest = row.baseline.renderedDigest)

/-- The whole frozen fleet is proved again before a quarantine is released. -/
def fleetUndrifted (env : DatabaseEnvironment) (publication : Publication) :
    Bool :=
  let identity := publication.identity
  decide (identity.snapshot.length = identity.snapshotCount) &&
    identity.snapshot.all s.snapshotUndrifted &&
    publication.records.entries.all (fun entry =>
      recordUndrifted identity.snapshot entry.1 entry.2) &&
    (identity.snapshot.any fun row => decide (row.workshop = identity.workshop) && row.isTarget &&
      decide (row.route = identity.route)) &&
    publication.status.progress.sealing.all fun sealing =>
      decide (publication.records.entries.length = sealing.count) &&
        decide (routeSetDigest env publication.records = sealing.digest)

/-- The candidate's rendering, when the observation shows the sealed candidate. -/
def candidateRecord (id : Uuid) (publication : Publication)
    (resolution : Resolution) : Option (Seal × PublicationRecord) :=
  match publication.status.progress.sealing, publication.targetRecord with
  | some sealing, some record =>
    if resolution.evidence.observed.selector = some publication.identity.selector ∧
        resolution.evidence.observed.device = some sealing.directory.device ∧
        resolution.evidence.observed.inode = some sealing.directory.inode ∧
        resolution.evidence.loadedIdentity =
          some (expectedIdentity id publication.identity (some sealing.digest)) ∧
        recordsSealed env publication sealing = true then
      some (sealing, record)
    else none
  | _, _ => none

/-- The receipt of a publication that turned out not to be applied. -/
def notAppliedReceipt (receipt : RouteReceipt) : RouteReceipt :=
  { receipt with state := .failed, safeError := some "route_set_publication_not_applied" }

/-- The tables that a recovery without an applied route changes beside its own row. -/
def releasedTables (workshop driverOperation : Uuid) : PublicationState :=
  { s with
    receipts := s.receipts.modify driverOperation notAppliedReceipt
    leases := s.leases.modify workshop AuthorityLease.released
    fleet := { s.fleet with phase := .idle } }

/-- The end of a recovery. -/
def terminalFor (call : RecoveryFinishCall) (kind : ResolutionKind)
    (identity : PublicationIdentity) (applied : Option AppliedResponse) : Terminal where
  kind := kind
  claimFence := call.claimFence
  operation := call.operation
  decisionDigest := call.decisionDigest
  response := {
    outcome := if kind = .candidate then "applied_recovered" else "not_applied"
    publication := call.publication
    subject := identity.subject
    workshop := identity.workshop
    claimFence := call.claimFence
    kind := kind
    operation := call.operation
    decisionDigest := call.decisionDigest
    applied := applied }

/-- Write the terminal evidence and answer with it. -/
def terminalise (call : RecoveryFinishCall) (publication : Publication)
    (terminal : Terminal) : Except PublicationError (PublicationState × RecoveryRow) :=
  (s.updatePublication call.publication publication
    { publication with terminal := some ⟨terminal, s.now⟩ }).map fun next =>
      (next, ⟨.completed, some terminal.response⟩)

/-- A decision about an observation whose claimant and fleet were checked. -/
def concluded (s : PublicationState) (call : RecoveryFinishCall)
    (kind : ResolutionKind) (publication : Publication) (driverOperation : Uuid)
    (resolution : Resolution) : Except PublicationError (PublicationState × RecoveryRow) :=
  let identity := publication.identity
  match kind with
  | .inconclusive => .ok (s, ⟨.blocked, none⟩)
  | .candidate =>
    match candidateRecord env call.publication publication resolution with
    | none => .ok (s, ⟨.observationMismatch, none⟩)
    | some (sealing, record) =>
      if (s.heads.lookup identity.workshop).any (headFrozen identity) then
        let response := appliedResponse call.publication identity sealing record.renderedDigest
        (s.appliedTables identity driverOperation response).terminalise call publication
          (terminalFor call .candidate identity (some response))
      else .error (.drifted "route-set recovery applied-head CAS drifted")
  | .prior | .unstarted =>
    (s.releasedTables identity.workshop driverOperation).terminalise call publication
      (terminalFor call kind identity none)

/-- `finish_route_set_publication_recovery` for a projection. A terminal row answers from
its own evidence; no other table is read for it. -/
def finishRouteSetPublicationRecoveryProjectionV1
    (s : PublicationState) (call : RecoveryFinishCall) :
    Except PublicationError (PublicationState × RecoveryRow) :=
  if validDecision call = false then .ok (s, ⟨.invalid, none⟩)
  else
    match s.publications.lookup call.publication with
    | none => .ok (s, ⟨.absent, none⟩)
    | some publication =>
      match publication.terminal with
      | some terminal =>
        if repeatsTerminal env call publication terminal.value then
          .ok (s, ⟨.replay, some terminal.value.response⟩)
        else .ok (s, ⟨.conflict, none⟩)
      | none =>
        if s.mode ≠ .generationV1 then .ok (s, ⟨.protocolInactive, none⟩)
        else
          match call.kind, call.decision, publication.resolutions.lookup call.claimFence with
          | some kind, some decision, some resolution =>
            if decides env call kind publication resolution = false then
              .ok (s, ⟨.observationMismatch, none⟩)
            else if s.reviewed call publication.identity.workshop kind decision = false then
              .ok (s, ⟨.reconciliationLeaseLost, none⟩)
            else
              match publication.status, publication.identity.subject with
              | .quarantined _ _, .projection driverOperation =>
                if publication.claim.isSome = true ∨
                    s.quarantineConsistent call.publication publication.identity
                      driverOperation = false ∨
                    s.fleetUndrifted env publication = false then
                  .ok (s, ⟨.authorityInconsistent, none⟩)
                else concluded env s call kind publication driverOperation resolution
              | _, _ => .ok (s, ⟨.authorityInconsistent, none⟩)
          | _, _, _ => .ok (s, ⟨.observationMismatch, none⟩)

end PublicationState

end ControlPlane.Publications
