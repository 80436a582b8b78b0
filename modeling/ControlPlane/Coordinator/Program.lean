/-
# The coordinator of a route-set publication

`coordinate_route_set_publication` takes the host guard, has the publication admitted,
reads the frozen fleet, stages and seals a generation, and publishes it; `finalize`
confirms the result. Both race their work against a heartbeat. From the attempt to start
on, every end that is not a confirmed one has to leave the publication to a quarantine.

The functions below follow the source statement by statement, with `coordinate_acquired`
cut where the situation of the run changes. Spans and phases are only reported to the log
and have no counterpart.
-/

import ControlPlane.Coordinator.Ports

namespace ControlPlane.Coordinator

open Domain Driver Math Routes
open Math.Program (ensure ofExcept)

/-- Programs of the coordinator. -/
abbrev PublicationM := Program World Call Call.Reply Interrupt DriverError

inductive PublicationPhase
  | admission
  | priorObservation
  | snapshotRead
  | preparation
  | staging
  | sealing
  | startAttempted
  | publishing
  | runtimeReload
  | observation
  | finalization

/-- Every phase fails with the same answer. -/
def failure (_ : PublicationPhase) : DriverError := .internal

/-! ## Calls -/

/-- Call a port, with the call and the reply noted. -/
def ask (request : Call) : PublicationM request.Reply := do
  Program.modify (World.note (.called request))
  let reply ← Program.request request
  Program.modify (World.note (.replied request reply))
  pure reply

/-- Call a port and pass its error on. -/
def perform (request : Call) : PublicationM request.Value := do
  let reply ← ask request
  ofExcept reply

variable (lease : Lease) (fs : Filesystem) (plan : Plan)

def requireRenewal (phase : PublicationPhase) : PublicationM Unit := do
  let renewed ← perform (.renew lease)
  ensure renewed (failure phase)

/-! ## The heartbeat -/

def Interrupt.fail {α : Type} : Interrupt → Option (PublicationM α)
  | .heartbeat error => some (.throw error)
  | .abandoned => none

/-- The heartbeat is polled before the effect, and again whenever the effect is woken. -/
def withPublicationHeartbeat {α : Type} (effect : PublicationM α) :
    PublicationM (Except DriverError α) :=
  ((perform .pollHeartbeat >>= fun _ => effect).race Interrupt.fail).attempt

/-! ## The routes before the publication -/

def observeBoundPrior : PublicationM (PriorSelector × PriorLoadedIdentity) := do
  let observed ← perform .filesystemObservePrior
  ensure (observed.2 != .bootLive) (failure .priorObservation)
  perform (.runtimeObservePrior observed.2)
  let confirmed ← perform .filesystemObservePrior
  ensure (confirmed.1 == observed.1 && confirmed.2 == observed.2) (failure .priorObservation)
  pure observed

def databasePriorIdentity : PriorLoadedIdentity → Option PriorLoadedIdentity
  | .bootLive => none
  | .startup identity => some (.startup identity)
  | .releaseOverlay identity => some (.releaseOverlay identity)
  | .routeSet identity => some (.routeSet identity)

/-! ## The frozen fleet -/

/-- The last workshop of a batch, unless the batch does not go up from the one before. -/
def advance : Option Uuid → List SnapshotItem → Option (Option Uuid)
  | after, [] => some after
  | after, item :: rest =>
    if after.any fun previous => decide (item.workshopId ≤ previous) then none
    else advance (some item.workshopId) rest

/-- The loop of `read_complete_snapshot`. Every pass reads at least one row, so as many
passes as there are rows are enough. -/
def readBatches (lease : Lease) (batchSize : Nat) :
    Nat → List SnapshotItem → Option Uuid → PublicationM (List SnapshotItem)
  | 0, snapshot, _ => pure snapshot
  | passes + 1, snapshot, after =>
    if snapshot.length < lease.snapshotCount then do
      requireRenewal lease .snapshotRead
      let batch ← perform (.readSnapshot lease after
        (min batchSize (lease.snapshotCount - snapshot.length)))
      ensure (!batch.isEmpty &&
          decide (batch.length ≤ min batchSize (lease.snapshotCount - snapshot.length)) &&
          decide (batch.length ≤ lease.snapshotCount - snapshot.length))
        (failure .snapshotRead)
      let last ← ofExcept ((advance after batch).elim (.error (failure .snapshotRead)) .ok)
      readBatches lease batchSize passes (snapshot ++ batch) last
    else pure snapshot

def readCompleteSnapshot (batchSize : Nat) : PublicationM (List SnapshotItem) := do
  let snapshot ← readBatches lease batchSize lease.snapshotCount [] none
  ensure (snapshot.length == lease.snapshotCount) (failure .snapshotRead)
  pure snapshot

/-! ## Staging -/

/-- The target's evidence is kept, and has to agree with the lease and with itself. -/
def keepTargetEvidence (evidence : SealEvidence) : PublicationM Unit :=
  if evidence.workshopId = lease.targetWorkshopId then do
    ensure (evidence.disposition == lease.expectedDisposition) (failure .staging)
    let w ← Program.read
    ensure (w.targetEvidence.all (· == evidence)) (failure .staging)
    Program.modify fun w => { w with targetEvidence := some evidence }
  else pure ()

/-- `DatabaseRowRecorder::record`. -/
def record (evidence : SealEvidence) : PublicationM Unit := do
  keepTargetEvidence lease evidence
  let outcome ← perform (.recordEntry lease evidence)
  ensure outcome.accepted (failure .staging)
  requireRenewal lease .staging

def Interrupt.abandon {α : Type} : Interrupt → Option (PublicationM (Option α))
  | .heartbeat _ => none
  | .abandoned => some (.pure none)

/-- A recorder that the file system may stop waiting for. -/
def recordOrGiveUp (evidence : SealEvidence) : PublicationM (Option (Except DriverError Unit)) :=
  ((record lease evidence).attempt >>= fun result => pure (some result)).race Interrupt.abandon

/-- Run the file system's part of staging against the recorder. -/
def stageAndSeal (lease : Lease) : Staging → PublicationM SealedGeneration
  | .pure sealed => .pure sealed
  | .throw error => .throw error
  | .update _ rest => stageAndSeal lease rest
  | .get rest => stageAndSeal lease (rest ())
  | .call (.record evidence) _ replied _ =>
    (record lease evidence).attempt >>= fun result => stageAndSeal lease (replied result)
  | .call (.recordOrGiveUp evidence) _ replied _ =>
    recordOrGiveUp lease evidence >>= fun result => stageAndSeal lease (replied result)
  | .call .wait _ replied _ => ask .stageWait >>= fun _ => stageAndSeal lease (replied ())
  | .call .beginSeal _ replied _ =>
    ask .beginSeal >>= fun reply => stageAndSeal lease (replied reply)
  | .call (.stageRow row) _ replied _ =>
    ask (.stageRow row) >>= fun reply => stageAndSeal lease (replied reply)
  | .call .finishSeal _ replied _ =>
    ask .finishSeal >>= fun reply => stageAndSeal lease (replied reply)

def takeTargetEvidence : PublicationM SealEvidence := do
  let w ← Program.read
  ofExcept (w.targetEvidence.elim (.error (failure .staging)) .ok)

/-! ## Cancellation -/

/-- `ArmedCancellationQuarantine::new`, which takes the retained guard. -/
def World.hold (w : World) : World :=
  { w with cancellation := some ⟨lease, w.retainedHostGuard, false⟩, retainedHostGuard := false }

/-- The attempt to start: `risk` is raised and the cancellation armed. -/
def World.attemptStart (w : World) : World :=
  { w with
    risk := .startAttempted
    cancellation := w.cancellation.map fun c => { c with armed := true } }

def World.disarm (w : World) : World :=
  { w with
    cancellation := w.cancellation.map fun c =>
      { c with armed := false, retainedHostGuard := false } }

/-! ## The publication -/

structure Plan where
  admission : AdmissionRequest
  snapshotBatchSize : Nat

/-- `ObservedPublicationEvidence`. -/
structure ObservedEvidence where
  prior : PriorSelector
  sealed : SealedGeneration
  target : SealEvidence
  observed : PriorSelector

/-- `ObservedPendingFinalization`. -/
structure Pending where
  lease : Lease
  evidence : ObservedEvidence
  resultRequest : ResultRequest

/-- `coordinate_acquired` up to the recorded prior routes. -/
def recordBoundPrior (preflight : PriorSelector × PriorLoadedIdentity) : PublicationM Unit := do
  requireRenewal lease .priorObservation
  let confirmed ← observeBoundPrior
  ensure (confirmed.1 == preflight.1 && confirmed.2 == preflight.2) (failure .priorObservation)
  let priorOutcome ← perform (.recordPrior lease preflight.1 (databasePriorIdentity preflight.2))
  ensure priorOutcome.accepted (failure .priorObservation)

/-- `coordinate_acquired` from the snapshot up to the recorder. -/
def beginGeneration (snapshot : List SnapshotItem) : PublicationM RuntimeContext := do
  let frozen ← perform (.freezeContext snapshot)
  perform (.prepare lease frozen snapshot)
  requireRenewal lease .preparation
  perform (.begin lease)
  requireRenewal lease .staging
  Program.modify fun w => { w with targetEvidence := none }
  pure frozen

/-- `coordinate_acquired` up to the evidence of its target. -/
def stageGeneration (lease : Lease) (preflight : PriorSelector × PriorLoadedIdentity) :
    PublicationM (SealedGeneration × SealEvidence) := do
  recordBoundPrior lease preflight
  let snapshot ← readCompleteSnapshot lease plan.snapshotBatchSize
  let frozen ← beginGeneration lease snapshot
  let sealed ← stageAndSeal lease (fs.stageAndSeal lease frozen snapshot)
  let target ← takeTargetEvidence
  pure (sealed, target)

/-- The part of `coordinate_acquired` that seals the generation, the last that can still be
undone. -/
def sealGeneration (sealed : SealedGeneration) : PublicationM Unit := do
  let sealOutcome ← perform (.sealing lease sealed)
  ensure sealOutcome.accepted (failure .sealing)
  requireRenewal lease .sealing

/-- The part of `coordinate_acquired` after the generation was selected. -/
def observeGeneration (prior : PriorSelector) (sealed : SealedGeneration)
    (target : SealEvidence) : PublicationM ObservedEvidence := do
  perform (.reload sealed.identity.routeSetDigest)
  let runtimeIdentity ← perform (.runtimeObserveCandidate sealed.identity)
  ensure (runtimeIdentity == sealed.identity) (failure .observation)
  let observed ← perform .filesystemObserveCandidate
  ensure (observed.1 == sealed.selector && observed.2 == sealed.identity) (failure .observation)
  let outcome ← perform (.observe lease observed.1 observed.2)
  ensure outcome.accepted (failure .observation)
  pure ⟨prior, sealed, target, observed.1⟩

/-- The part of `coordinate_acquired` that cannot be undone. -/
def publishGeneration (prior : PriorSelector) (sealed : SealedGeneration)
    (target : SealEvidence) : PublicationM ObservedEvidence := do
  Program.modify World.attemptStart
  let startOutcome ← perform (.start lease)
  ensure startOutcome.accepted (failure .startAttempted)
  perform (.publish prior)
  observeGeneration lease prior sealed target

def coordinateAcquired (lease : Lease)
    (preflight : PriorSelector × PriorLoadedIdentity) : PublicationM ObservedEvidence := do
  let generation ← stageGeneration fs plan lease preflight
  sealGeneration lease generation.1
  publishGeneration lease preflight.1 generation.1 generation.2

/-- After an attempt to start, only a confirmed quarantine disarms the cancellation. -/
def quarantineAttempt : PublicationM Unit := do
  let w ← Program.read
  if w.risk = .startAttempted then do
    let reply ← ask (.quarantine lease)
    match reply with
    | .ok true => Program.modify World.disarm
    | .ok false | .error _ => pure ()
  else pure ()

/-- The end of `coordinate_route_set_publication`. -/
def concludeCoordination (plan : Plan) (lease : Lease) :
    Except DriverError ObservedEvidence → PublicationM Pending
  | .ok evidence => do
    Program.modify fun w => { w with pending := true }
    pure ⟨lease, evidence, .fromAdmission plan.admission⟩
  | .error error => do
    quarantineAttempt lease
    .throw error

/-- `coordinate_route_set_publication` once its admission is answered. -/
def coordinateAdmitted
    (preflight : PriorSelector × PriorLoadedIdentity) : Admission → PublicationM Pending
  | .acquired lease => do
    Program.modify (World.hold lease)
    let result ← withPublicationHeartbeat (coordinateAcquired fs plan lease preflight)
    concludeCoordination plan lease result
  | .replay _ | .refused _ => .throw (failure .admission)

def coordinateRouteSetPublication : PublicationM Pending := do
  ensure (plan.snapshotBatchSize != 0) (failure .admission)
  perform .acquire
  Program.modify fun w => { w.note .acquired with hostGuard := true }
  perform .retain
  Program.modify fun w => { w with retainedHostGuard := true }
  let preflight ← observeBoundPrior
  let admission ← perform (.admission plan.admission)
  coordinateAdmitted fs plan preflight admission

/-! ## Finalization -/

def acceptFinish : FinishOutcome → Except DriverError PublicationResponse
  | .completed response | .replay response => .ok response
  | .authorityLost | .conflict | .wrongPhase | .invalid => .error (failure .finalization)

/-- The effect that `finalize` races against the heartbeat. -/
def confirmPublication (pending : Pending) : PublicationM PublicationResponse := do
  ensure (pending.evidence.observed == pending.evidence.sealed.selector) (failure .finalization)
  let runtimeIdentity ← perform (.runtimeObserveCandidate pending.evidence.sealed.identity)
  ensure (runtimeIdentity == pending.evidence.sealed.identity) (failure .finalization)
  let selected ← perform .filesystemObserveCandidate
  ensure (selected.1 == pending.evidence.observed &&
    selected.1 == pending.evidence.sealed.selector &&
    selected.2 == pending.evidence.sealed.identity) (failure .finalization)
  let outcome ← perform (.finish pending.lease pending.evidence.sealed pending.evidence.target)
  ofExcept (acceptFinish outcome)

/-- The end of `finalize`: a failed confirmation reads the stored result once. -/
def concludeFinalization (pending : Pending) :
    Except DriverError PublicationResponse → PublicationM PublicationResponse
  | .ok response => do
    Program.modify World.disarm
    pure response
  | .error error => do
    let reply ← ask (.readResult pending.resultRequest)
    match reply with
    | .ok (.completed _ _ response) => do
      Program.modify World.disarm
      pure response
    | .ok .absent | .ok .conflict | .ok (.pending _ _) | .ok (.notApplied _) | .error _ =>
      .throw error

def finalize (pending : Pending) : PublicationM PublicationResponse := do
  let result ← withPublicationHeartbeat (confirmPublication pending)
  concludeFinalization pending result

/-! ## Executions -/

def publication : PublicationM PublicationResponse := do
  let pending ← coordinateRouteSetPublication fs plan
  finalize pending

/-- A whole execution, with the destructors that run at its end. -/
def execute (env : Environment Call Call.Reply Interrupt) :
    Outcome DriverError PublicationResponse × World :=
  ((publication fs plan).run Call.awaits env 0 .initial).map id World.unwind

end ControlPlane.Coordinator
