/-
# Histories of route-set publications

The functions are called in any order and with any arguments, while workers run the
queue, operations are enqueued, and tenants change what they desire. Under the generation
protocol only projections are admitted here, so every publication of a history is one.

A function that raises leaves the tables as they were, so every call is a step.
-/

import ControlPlane.Publications.Dispatch

namespace ControlPlane.Publications

open Domain Driver Math Persistence
open Routes

/-- What can happen. -/
inductive PublicationEvent
  | admitPublication (call : AdmitPublicationCall)
  | renew (lease : PublicationLease) (ttlSeconds : Nat)
  | recordPrior (lease : PublicationLease) (prior : PriorRoutes)
  | recordEntry (lease : PublicationLease) (workshop : Uuid) (record : PublicationRecord)
  | sealRecords (lease : PublicationLease) (selector : String) (sealing : Seal)
  | start (lease : PublicationLease)
  | observe (lease : PublicationLease) (observation : Observation) (directory : Directory)
  | quarantine (lease : PublicationLease) (safeError : String)
  | finish (lease : PublicationLease)
  | claim (call : ClaimCall)
  | renewClaim (holder : ClaimHolder) (ttlSeconds : Nat)
  | readClaim (holder : ClaimHolder)
  | resolve (call : ResolveCall)
  | finishRecovery (call : RecoveryFinishCall)
  | queue (call : QueueCall)
  | enqueue (id : Uuid) (kind : OperationKind) (workshop : Option Uuid) (payload : Json)
  | review (operation : Uuid) (payload : Json)
  | desire (workshop : Uuid) (stored : StoredProjection)

namespace PublicationState

/-- The tables after a function returned; one that raises leaves them as they were. -/
def committed {α : Type} (s : PublicationState) :
    Except PublicationError (PublicationState × α) → PublicationState
  | .ok (next, _) => next
  | .error _ => s

/-- A new row of the queue; identifiers are a primary key. -/
def enqueue (s : PublicationState) (id : Uuid) (row : OperationRow) : PublicationState :=
  match s.queue.operations.lookup id with
  | some _ => s
  | none => { s with queue := { s.queue with operations := s.queue.operations.insert id row } }

/-- A reviewer writes a decision into the payload of an operation. -/
def review (s : PublicationState) (operation : Uuid) (payload : Json) : PublicationState :=
  { s with queue := { s.queue with
    operations := s.queue.operations.modify operation fun row => { row with payload } } }

/-- The next desired generation of a workshop. It needs an idle fleet, and a route that
no writer holds. -/
def desire (s : PublicationState) (workshop : Uuid) (stored : StoredProjection) :
    PublicationState :=
  match s.fleet.phase, s.leases.lookup workshop, s.heads.lookup workshop with
  | .idle, some lease, some head =>
    match lease.phase with
    | .held _ _ _ _ _ | .quarantined _ _ _ _ => s
    | .idle | .uninitialized | .maintenance _ _ =>
      let generation := (head.desired.map fun desired => desired.generation).getD 0 + 1
      match s.projections.lookup (workshop, generation) with
      | some _ => s
      | none =>
        { s with
          projections := s.projections.insert (workshop, generation) stored
          heads := s.heads.insert workshop { head with
            desired := some ⟨⟨generation, stored.digest⟩, stored.disposition⟩ } }
  | _, _, _ => s

def step (env : DatabaseEnvironment) (s : PublicationState) :
    PublicationEvent → Option PublicationState
  | .admitPublication call => some (s.committed (s.admitRouteSetPublication call))
  | .renew lease ttlSeconds => some (s.renewRouteSetPublication lease ttlSeconds).1
  | .recordPrior lease prior =>
    some (s.committed (recordRouteSetPublicationPrior env s lease prior))
  | .recordEntry lease workshop record =>
    some (s.recordRouteSetPublicationEntry lease workshop record).1
  | .sealRecords lease selector sealing =>
    some (s.committed (sealRouteSetPublication env s lease selector sealing))
  | .start lease => some (s.committed (s.startRouteSetPublication lease))
  | .observe lease observation directory =>
    some (s.committed (s.observeRouteSetPublication lease observation directory))
  | .quarantine lease safeError =>
    some (s.committed (s.quarantineRouteSetPublicationProjectionV1 lease safeError))
  | .finish lease => some (s.committed (finishRouteSetPublication env s (.complete lease)))
  | .claim call => some (s.committed (s.claimInterruptedRouteSetPublication (.complete call)))
  | .renewClaim holder ttlSeconds => some (s.committed (s.renewClaim holder ttlSeconds))
  | .readClaim _ => some s
  | .resolve call => some (s.committed (resolveObservation env s call))
  | .finishRecovery call =>
    some (s.committed (finishRouteSetPublicationRecovery env s (.complete call)))
  | .queue call => (s.queue.step call).map fun queue => { s with queue }
  | .enqueue id kind workshop payload =>
    some (s.enqueue id (.enqueued kind workshop none none payload s.now))
  | .review operation payload => some (s.review operation payload)
  | .desire workshop stored => some (s.desire workshop stored)

end PublicationState

/-- The publication that a global lease is held or quarantined for. -/
def GlobalPhase.publication : GlobalPhase → Option Uuid
  | .held (.routeSetPublication id) _ _ _ | .quarantined (.routeSetPublication id) _ => some id
  | _ => none

namespace PublicationState

/-- A database under the generation protocol in which nothing was published yet. Heads,
receipts, operations and the other leases are arbitrary. -/
structure Initial (s : PublicationState) : Prop where
  generation : s.mode = .generationV1
  noPublication : s.publications = ∅
  noHolder : s.fleet.phase.publication = none

end PublicationState

end ControlPlane.Publications
