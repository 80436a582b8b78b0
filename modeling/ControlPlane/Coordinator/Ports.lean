/-
# The ports of a route-set publication

The coordinator of a publication sees the database, the heartbeat, the host guard, the
file system and the running gateway only through calls. This module has the values that
pass through them, the calls, and what an execution leaves behind: the order of every
call and reply, and of what happened to the host guard.

A lease has more columns than these. The coordinator hands it on as a whole and reads no
others.
-/

import ControlPlane.Math.Future
import ControlPlane.Publications.Tables

namespace ControlPlane.Coordinator

open Domain Driver Math Publications
open Routes

/-! ## Values -/

/-- `RouteSetPublicationAdmissionRequest`, with `control_operation` as its identifier. -/
structure AdmissionRequest where
  (controlOperation workshopId : Uuid)
  publicationKind : PublicationKind
  (idempotencyKey requestDigest : String)
  projectionGeneration : Int
  projectionDigest : String
  expectedDisposition : RouteDisposition
  deriving DecidableEq

/-- `RouteSetPublicationResultRequest`. -/
structure ResultRequest where
  (controlOperationId workshopId : Uuid)
  (idempotencyKey requestDigest : String)
  expectedGeneration : Int
  expectedProjectionDigest : String
  expectedDisposition : RouteDisposition
  deriving DecidableEq

def ResultRequest.fromAdmission (request : AdmissionRequest) : ResultRequest where
  controlOperationId := request.controlOperation
  workshopId := request.workshopId
  idempotencyKey := request.idempotencyKey
  requestDigest := request.requestDigest
  expectedGeneration := request.projectionGeneration
  expectedProjectionDigest := request.projectionDigest
  expectedDisposition := request.expectedDisposition

/-- `RouteSetPublicationLease`. -/
structure Lease where
  (publicationId targetWorkshopId : Uuid)
  expectedDisposition : RouteDisposition
  snapshotCount : Nat
  deriving DecidableEq

inductive RefusalKind
  | invalid
  | upstreamLeaseLost
  | protocolInactive
  | legacyReceipt
  | conflict
  | authorityLost
  | fleetQuarantined
  | fleetBusy
  | fleetNotReady
  deriving DecidableEq

inductive Admission
  | acquired (lease : Lease)
  | replay (lease : Lease)
  | refused (kind : RefusalKind)
  deriving DecidableEq

/-- `FrozenSnapshotItem`. -/
structure SnapshotItem where
  workshopId : Uuid
  projectionGeneration : Int
  projectionDigest : String
  disposition : RouteDisposition
  canonicalProjection : Json
  appliedRenderedDigest : String
  isTarget : Bool
  deriving DecidableEq

/-- `RouteSetSealEvidence`. -/
structure SealEvidence where
  workshopId : Uuid
  projectionGeneration : Int
  projectionDigest : String
  disposition : RouteDisposition
  appliedRenderedDigest : Option String
  renderedDigest : String
  deriving DecidableEq

structure PriorSelector where
  target : String
  (directoryDev directoryIno : Nat)
  deriving DecidableEq

inductive PublicationScope
  | fleet (startupEffectRunId : Uuid)
  | workshop (targetWorkshopId : Uuid) (targetRouteFenceToken : Int)
  deriving DecidableEq

/-- `RouteSetGenerationIdentity`. -/
structure GenerationIdentity where
  protocolVersion : Nat
  publicationId : Uuid
  publicationKind : PublicationKind
  globalFenceToken : Int
  routeSetDigest : String
  scope : PublicationScope
  deriving DecidableEq

structure StartupIdentity where
  effectRunId : Uuid
  sealedDigest : String
  deriving DecidableEq

structure ReleaseIdentity where
  protocolVersion : Nat
  (fleetRunId driverOperationId : Uuid)
  originalGlobalFenceToken : Int
  (overlayKind routeSetDigest targetSlot : String)
  deriving DecidableEq

inductive PriorLoadedIdentity
  | bootLive
  | startup (identity : StartupIdentity)
  | releaseOverlay (identity : ReleaseIdentity)
  | routeSet (identity : GenerationIdentity)
  deriving DecidableEq

/-- `SealedRouteSetGeneration`. -/
structure SealedGeneration where
  name : String
  identity : GenerationIdentity
  (routeCount presentRouteCount : Nat)
  selector : PriorSelector
  deriving DecidableEq

/-- `FrozenRouteRuntimeContext`. -/
structure RuntimeContext where
  odooUpstream : String
  paperlessUpstreams : List (Uuid × String)

/-- `RouteSetPublicationResponse`, whose evidence is stored as JSON. -/
structure PublicationResponse where
  outcome : String
  workshopId : Uuid
  (routeEvidence routeSetEvidence : Json)
  deriving DecidableEq

/-! ## Answers of the database -/

inductive RecordPriorOutcome
  | recorded
  | replay
  | authorityLost
  | conflict
  | wrongPhase
  | invalid
  deriving DecidableEq

inductive RecordEntryOutcome
  | recorded
  | replay
  | authorityLost
  | invalid
  | conflict
  | wrongPhase
  | priorAbsent
  | outOfOrder
  | snapshotDrift
  | renderInvariantMismatch
  deriving DecidableEq

inductive SealOutcome
  | sealed
  | replay
  | authorityLost
  | wrongPhase
  | priorAbsent
  | invalid
  | priorDirectoryReused
  | countMismatch
  | presentCountMismatch
  | digestMismatch
  deriving DecidableEq

inductive StartOutcome
  | started
  | replay
  | authorityLost
  | wrongPhase
  deriving DecidableEq

inductive ObserveOutcome
  | observed
  | replay
  | authorityLost
  | observationMismatch
  | wrongPhase
  deriving DecidableEq

inductive FinishOutcome
  | completed (response : PublicationResponse)
  | replay (response : PublicationResponse)
  | authorityLost
  | conflict
  | wrongPhase
  | invalid
  deriving DecidableEq

inductive ReadResult
  | absent
  | conflict
  | pending (publicationId driverOperationId : Uuid)
  | completed (publicationId driverOperationId : Uuid) (response : PublicationResponse)
  | notApplied (safeError : String)
  deriving DecidableEq

/-- `accept_prior`. -/
def RecordPriorOutcome.accepted : RecordPriorOutcome → Bool
  | .recorded | .replay => true
  | .authorityLost | .conflict | .wrongPhase | .invalid => false

/-- `accept_entry`. -/
def RecordEntryOutcome.accepted : RecordEntryOutcome → Bool
  | .recorded | .replay => true
  | .authorityLost | .invalid | .conflict | .wrongPhase | .priorAbsent | .outOfOrder
  | .snapshotDrift | .renderInvariantMismatch => false

/-- `accept_seal`. -/
def SealOutcome.accepted : SealOutcome → Bool
  | .sealed | .replay => true
  | .authorityLost | .wrongPhase | .priorAbsent | .invalid | .priorDirectoryReused
  | .countMismatch | .presentCountMismatch | .digestMismatch => false

/-- `accept_start`. -/
def StartOutcome.accepted : StartOutcome → Bool
  | .started | .replay => true
  | .authorityLost | .wrongPhase => false

/-- `accept_observe`. -/
def ObserveOutcome.accepted : ObserveOutcome → Bool
  | .observed | .replay => true
  | .authorityLost | .observationMismatch | .wrongPhase => false

/-! ## The file system's part of staging -/

/-- A row that is rendered and ready to be written. -/
structure PreparedRow where
  workshopId : Uuid
  projectionGeneration : Int
  (projectionDigest appliedRenderedDigest : String)
  contents : Option String
  deriving DecidableEq

/-- What `stage_and_seal` may do: hand a row to the recorder and wait for it, or only for as
long as it likes, wait for something else, or work on its own files. -/
inductive StageCall
  | record (evidence : SealEvidence)
  | recordOrGiveUp (evidence : SealEvidence)
  | wait
  | beginSeal
  | stageRow (row : PreparedRow)
  | finishSeal

/-- The replies: of the recorder unless it was given up, the digest of what was written, and
the generation that was sealed. -/
abbrev StageCall.Reply : StageCall → Type
  | .record _ => Except DriverError Unit
  | .recordOrGiveUp _ => Option (Except DriverError Unit)
  | .wait => Unit
  | .beginSeal => Except DriverError Unit
  | .stageRow _ => Except DriverError String
  | .finishSeal => Except DriverError SealedGeneration

/-- The steps of one implementation of `stage_and_seal`. -/
abbrev Staging := Program Unit StageCall StageCall.Reply Empty DriverError SealedGeneration

/-- A file-system port. Its other functions answer as the environment has it. -/
structure Filesystem where
  stageAndSeal : Lease → RuntimeContext → List SnapshotItem → Staging

/-! ## Calls -/

/-- The functions of the ports. The first poll of the heartbeat comes before the effect
that it is raced against. -/
inductive Call
  | acquire
  | retain
  | pollHeartbeat
  | readResult (request : ResultRequest)
  | admission (request : AdmissionRequest)
  | renew (lease : Lease)
  | readSnapshot (lease : Lease) (after : Option Uuid) (limit : Nat)
  | recordPrior (lease : Lease) (prior : PriorSelector) (loaded : Option PriorLoadedIdentity)
  | recordEntry (lease : Lease) (evidence : SealEvidence)
  | sealing (lease : Lease) (sealed : SealedGeneration)
  | start (lease : Lease)
  | observe (lease : Lease) (observed : PriorSelector) (identity : GenerationIdentity)
  | finish (lease : Lease) (sealed : SealedGeneration) (target : SealEvidence)
  | quarantine (lease : Lease)
  | filesystemObservePrior
  | prepare (lease : Lease) (runtime : RuntimeContext) (snapshot : List SnapshotItem)
  | begin (lease : Lease)
  | stageWait
  | beginSeal
  | stageRow (row : PreparedRow)
  | finishSeal
  | publish (prior : PriorSelector)
  | filesystemObserveCandidate
  | runtimeObservePrior (identity : PriorLoadedIdentity)
  | reload (expectedDigest : String)
  | freezeContext (snapshot : List SnapshotItem)
  | runtimeObserveCandidate (expected : GenerationIdentity)

/-- What a call answers when it succeeds. -/
abbrev Call.Value : Call → Type
  | .readResult _ => ReadResult
  | .admission _ => Admission
  | .renew _ | .quarantine _ => Bool
  | .readSnapshot _ _ _ => List SnapshotItem
  | .recordPrior _ _ _ => RecordPriorOutcome
  | .recordEntry _ _ => RecordEntryOutcome
  | .sealing _ _ => SealOutcome
  | .start _ => StartOutcome
  | .observe _ _ _ => ObserveOutcome
  | .finish _ _ _ => FinishOutcome
  | .filesystemObservePrior => PriorSelector × PriorLoadedIdentity
  | .stageRow _ => String
  | .finishSeal => SealedGeneration
  | .filesystemObserveCandidate => PriorSelector × GenerationIdentity
  | .freezeContext _ => RuntimeContext
  | .runtimeObserveCandidate _ => GenerationIdentity
  | .acquire | .retain | .pollHeartbeat | .prepare _ _ _ | .begin _ | .stageWait
  | .beginSeal | .publish _ | .runtimeObservePrior _ | .reload _ => Unit

abbrev Call.Reply (request : Call) : Type := Except DriverError request.Value

/-- The asynchronous functions. The others return without giving up control. -/
def Call.awaits : Call → Bool
  | .retain | .pollHeartbeat | .filesystemObservePrior | .prepare _ _ _ | .begin _
  | .beginSeal | .stageRow _ | .finishSeal | .publish _ | .filesystemObserveCandidate => false
  | .acquire | .readResult _ | .admission _ | .renew _ | .readSnapshot _ _ _
  | .recordPrior _ _ _ | .recordEntry _ _ | .sealing _ _ | .start _ | .observe _ _ _
  | .finish _ _ _ | .quarantine _ | .stageWait | .runtimeObservePrior _ | .reload _
  | .freezeContext _ | .runtimeObserveCandidate _ => true

/-- What cuts a wait short: the heartbeat ends with an error, or the file system gives up
on a row that it handed to the recorder. -/
inductive Interrupt
  | heartbeat (error : DriverError)
  | abandoned

/-! ## What an execution leaves behind -/

inductive Occurrence
  | called (request : Call)
  | replied (request : Call) (reply : request.Reply)
  /-- The host guard is held by the run from here on. -/
  | acquired
  /-- The run gives up its own handle of the host guard. -/
  | released
  /-- A cleanup task for the lease owns the retained handle. -/
  | scheduled (lease : Lease)

/-- `ArmedCancellationQuarantine`. -/
structure Cancellation where
  lease : Lease
  (retainedHostGuard armed : Bool)

inductive PublicationRisk
  | reversible
  | startAttempted
  deriving DecidableEq

/-- The values that the coordinator owns, with everything that happened so far. The guard
and the cancellation move into `ObservedPendingFinalization` when it is built. -/
structure World where
  (hostGuard retainedHostGuard : Bool)
  cancellation : Option Cancellation
  risk : PublicationRisk
  targetEvidence : Option SealEvidence
  pending : Bool
  history : List Occurrence

namespace World

def initial : World := ⟨false, false, none, .reversible, none, false, []⟩

def note (occurrence : Occurrence) (w : World) : World :=
  { w with history := w.history ++ [occurrence] }

/-- The destructor of the cancellation: an armed one hands its retained guard to a cleanup
task. -/
def dropCancellation (w : World) : World :=
  match w.cancellation with
  | some ⟨lease, true, true⟩ => { w.note (.scheduled lease) with cancellation := none }
  | _ => { w with cancellation := none }

def dropHostGuard (w : World) : World :=
  if w.hostGuard then { w.note .released with hostGuard := false } else w

/-- The destructors that run when the future ends or is dropped. Local values go in the
opposite order of their declarations, the fields of the pending value in theirs. -/
def unwind (w : World) : World :=
  if w.pending then w.dropHostGuard.dropCancellation else w.dropCancellation.dropHostGuard

end World

end ControlPlane.Coordinator
