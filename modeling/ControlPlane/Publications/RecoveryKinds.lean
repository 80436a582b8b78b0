/-
# Publications of a recovery

Entering and leaving recovery maintenance publishes a route set too. Such a publication
is owned by an effect run instead of a driver operation, and its functions end, claim and
recover it together with the run and its reservation.
-/

import ControlPlane.Publications.Recovery

namespace ControlPlane.Publications

open Domain Driver Math Persistence
open Routes AuthorityLease

/-- A lease that goes back to the maintenance of an effect run. -/
def AuthorityLease.maintained (run : Uuid) (target : RouteTarget) (lease : AuthorityLease) :
    AuthorityLease :=
  { lease with phase := .maintenance run target }

/-- A lease that is given back; recoveries keep its initialization flag. -/
def AuthorityLease.idled (lease : AuthorityLease) : AuthorityLease :=
  { lease with phase := .idle }

/-- The lease is held by this publication with the presented tokens. -/
def AuthorityLease.heldFor (call : PublicationLease) (lease : AuthorityLease) : Bool :=
  match lease.phase with
  | .held (.routeSetPublication id) _ owner token _ =>
    decide (id = call.publication) && decide (owner = call.instanceOwner) &&
      decide (token = call.routeLeaseToken) && decide (lease.fence = call.routeFence)
  | _ => false

/-- The lease is in quarantine for this publication. -/
def AuthorityLease.quarantinedFor (id : Uuid) (lease : AuthorityLease) : Bool :=
  match lease.phase with
  | .quarantined (.routeSetPublication publication) _ _ _ => decide (publication = id)
  | _ => false

def EffectRunState.isQuarantined : EffectRunState → Bool
  | .quarantined _ _ => true
  | _ => false

/-- The reservation of the published route, in the given state. -/
def Reservation.reserves (identity : PublicationIdentity) (state : ReservationState)
    (reservation : Reservation) : Bool :=
  decide (reservation.state = state) && decide (reservation.route = some identity.route) &&
    decide (reservation.fence = identity.routeFence)

/-- The route evidence of a response with its rendering. -/
def AppliedResponse.rendering (response : AppliedResponse) : String × Json :=
  (response.route.renderedDigest, response.route.toJson response.routeSet.kind)

namespace PublicationState

/-- Change the row under a key, which has to pass. -/
def mustReplace {κ ρ : Type} [DecidableEq κ] (table : Table κ ρ) (key : κ) (guard : ρ → Bool)
    (change : ρ → ρ) (what : String) : Except PublicationError (Table κ ρ) :=
  match table.replace key guard change with
  | some changed => .ok changed
  | none => .error (.drifted what)

/-! ## Completion -/

variable (s : PublicationState)

/-- The row of a recovery publication with the rows of its run, or the error that a strict
selection raises. -/
def recoveryRows (identity : PublicationIdentity) (run : Uuid) :
    Except PublicationError (EffectRun × Reservation × FleetHead) :=
  match s.effectRuns.lookup run, s.reservations.lookup (run, identity.workshop),
      s.heads.lookup identity.workshop with
  | some effect, some reservation, some head => .ok (effect, reservation, head)
  | _, _, _ => .error .noDataFound

/-- Everything a completed recovery publication changes beside its own row. -/
def completeRecovery (lease : PublicationLease)
    (identity : PublicationIdentity) (run : Uuid) (response : AppliedResponse) :
    Except PublicationError PublicationState :=
  match identity.subject.kind with
  | .recoveryMaintenance => do
    let reservations ← mustReplace s.reservations (run, identity.workshop)
      (Reservation.reserves identity .reserved)
      (fun reservation => { reservation with
        state := .maintenance
        maintenanceEvidence := some response.rendering })
      "maintenance reservation finalization drifted"
    let leases ← mustReplace s.leases identity.workshop (heldFor lease)
      (maintained run identity.route.toRouteTarget)
      "maintenance route release drifted"
    let effectRuns ← mustReplace s.effectRuns run
      (fun effect => (effect.leaseFor .recoveryMaintenance).any fun held =>
        decide (held.instanceOwner = lease.instanceOwner) &&
          decide (held.executionToken = lease.executionToken) &&
          decide (held.routeLeaseToken = lease.routeLeaseToken))
      (fun effect => { effect with state := .maintenance, response := some response.toJson })
      "recovery effect finalization drifted"
    return { s with reservations, leases, effectRuns, fleet := { s.fleet with phase := .idle } }
  | _ => do
    let reservations ← mustReplace s.reservations (run, identity.workshop)
      (Reservation.reserves identity .maintenance)
      (fun reservation => { reservation with
        state := .restored
        restoredEvidence := some response.rendering })
      "restore reservation finalization drifted"
    let leases ← mustReplace s.leases identity.workshop (heldFor lease)
      idled "restore route release drifted"
    let effectRuns ← mustReplace s.effectRuns run
      (fun effect => (effect.leaseFor .recoveryRestore).any fun held =>
        decide (held.instanceOwner = lease.instanceOwner) &&
          decide (held.executionToken = lease.executionToken) &&
          decide (held.routeLeaseToken = lease.routeLeaseToken))
      (fun effect => { effect with
        state := .succeeded s.now
        response := some response.toJson })
      "recovery effect finalization drifted"
    return { s with
      reservations, leases, effectRuns
      heads := s.heads.modify identity.workshop fun head =>
        { head with applied := some (identity.appliedHead response.route.renderedDigest) }
      fleet := { s.fleet with phase := .idle } }

/-- A maintenance publication keeps the applied head, a restoring one replaces it. -/
def headPublishable (identity : PublicationIdentity) (head : FleetHead) : Bool :=
  match identity.subject.kind with
  | .recoveryMaintenance => decide (head.applied = some identity.prior)
  | _ => headFrozen identity head

/-- `finish_route_set_recovery_publication`. -/
def finishRouteSetRecoveryPublication (env : DatabaseEnvironment) (s : PublicationState)
    (lease : PublicationLease) : Except PublicationError (PublicationState × FinishRow) :=
  if lease.globalFence = 0 ∨ lease.routeFence = 0 then .ok (s, ⟨.invalid, none⟩)
  else
    match s.authorized lease with
    | none =>
      match s.publications.lookup lease.publication with
      | some publication =>
        match publication.status with
        | .completed _ response =>
          -- The fence of the route is not compared for a replay.
          if { lease with routeFence := publication.identity.routeFence } =
              publication.identity.lease lease.publication then
            .ok (s, ⟨.replay, some response.value⟩)
          else .ok (s, ⟨.authorityLost, none⟩)
        | .active _ | .quarantined _ _ => .ok (s, ⟨.authorityLost, none⟩)
      | none => .ok (s, ⟨.authorityLost, none⟩)
    | some publication =>
      match publication.identity.subject.effectRun with
      | none => .error .noDataFound
      | some run =>
        match s.recoveryRows publication.identity run,
            publication.records.lookup publication.identity.workshop with
        | .error raised, _ => .error raised
        | .ok _, none => .error .noDataFound
        | .ok (_, reservation, head), some _ =>
          match publication.status.progress with
          | .staging _ | .sealed _ _ | .publicationStarted _ _ _ =>
            .ok (s, ⟨.wrongPhase, none⟩)
          | .observed evidence =>
            match publication.targetRecord with
            | none => .ok (s, ⟨.authorityLost, none⟩)
            | some record =>
              if recordsSealed env publication evidence.sealing = false ∨
                  observationSealed lease.publication publication evidence = false ∨
                  reservation.fence ≠ lease.routeFence then
                .ok (s, ⟨.authorityLost, none⟩)
              else if headPublishable publication.identity head = false then
                .ok (s, ⟨.projectionDrift, none⟩)
              else
                let response := appliedResponse lease.publication publication.identity
                  evidence.sealing record.renderedDigest
                match s.completeRecovery lease publication.identity run response with
                | .error raised => .error raised
                | .ok completed =>
                  (completed.updatePublication lease.publication publication
                    { publication with
                      status := .completed evidence ⟨response, s.now⟩ }).map
                    fun next => (next, ⟨.completed, some response⟩)

/-! ## Claiming -/

/-- The leases and the run of a live recovery publication. -/
def recoveryLive (id : Uuid) (identity : PublicationIdentity) (run : Uuid) : Bool :=
  (match s.fleet.phase with
    | .held (.routeSetPublication publication) _ _ _ => decide (publication = id)
    | _ => false) &&
    ((s.leases.lookup identity.workshop).any fun lease =>
      match lease.phase with
      | .held (.routeSetPublication publication) _ _ _ _ => decide (publication = id)
      | _ => false) &&
    (s.effectRuns.lookup run).any fun effect => (effect.leaseFor identity.subject.kind).isSome

/-- The leases and the run of an interrupted recovery publication. -/
def recoveryQuarantined (id : Uuid) (identity : PublicationIdentity) (run : Uuid) : Bool :=
  (match s.fleet.phase with
    | .quarantined (.routeSetPublication publication) _ => decide (publication = id)
    | _ => false) &&
    (s.leases.lookup identity.workshop).any (quarantinedFor id) &&
    (s.effectRuns.lookup run).any fun effect => effect.state.isQuarantined

/-- The end of a held global lease. -/
def fleetUntil : Option Timestamp :=
  match s.fleet.phase with
  | .held _ _ _ expiresAt => some expiresAt
  | .idle | .quarantined _ _ => none

/-- The end of a held route lease. -/
def routeUntil (workshop : Uuid) : Option Timestamp :=
  (s.leases.lookup workshop).bind fun lease =>
    match lease.phase with
    | .held _ _ _ _ expiresAt => some expiresAt
    | _ => none

/-- The state a reservation is in while its publication works. -/
def workingReservation : PublicationKind → ReservationState
  | .recoveryRestore => .maintenance
  | .recoveryMaintenance | .projection => .reserved

/-- Put the leases, the run and the reservation of a recovery publication in quarantine. -/
def quarantineRecovery (identity : PublicationIdentity) (run : Uuid) :
    Except PublicationError PublicationState := do
  let reservations ← mustReplace s.reservations (run, identity.workshop)
    (fun reservation => decide (reservation.state = workingReservation identity.subject.kind))
    (fun reservation => { reservation with state := .quarantined })
    "recovery reservation quarantine drifted"
  let effectRuns ← mustReplace s.effectRuns run
    (fun effect => (effect.leaseFor identity.subject.kind).isSome)
    (fun effect => { effect with state := .quarantined "runtime_outcome_unknown" s.now })
    "recovery effect quarantine drifted"
  return { s with
    reservations, effectRuns
    fleet := s.fleet.quarantine
    leases := s.leases.modify identity.workshop quarantine }

/-- The claim of a recovery publication that nobody else has claimed. -/
def claimFreeRecovery (call : ClaimCall) (publication : Publication)
    (run : Uuid) (operationUntil : Timestamp) :
    Except PublicationError (PublicationState × ClaimRow) :=
  -- A terminal row is not claimed again; the update finds no row then.
  let grant := fun (t : PublicationState) (row : Publication) =>
    if row.terminal.isSome then .error (.drifted "recovery claim ownership drifted")
    else t.grantClaim call row operationUntil
  match publication.status with
  | .completed _ _ => .ok (s, ⟨.authorityInconsistent, none, none⟩)
  | .active progress =>
    if s.recoveryLive call.publication publication.identity run = false then
      .ok (s, ⟨.authorityInconsistent, none, none⟩)
    else if (hasExpired s.now ((s.queue.operations.lookup
          publication.identity.controlOperation.id).bind leaseEnd) &&
        hasExpired s.now ((s.effectRuns.lookup run).bind fun effect =>
          (effect.leaseFor publication.kind).map EffectLease.expiresAt) &&
        hasExpired s.now s.fleetUntil &&
        hasExpired s.now (s.routeUntil publication.identity.workshop)) = false then
      .ok (s, ⟨.notExpired, none, none⟩)
    else
      match s.quarantineRecovery publication.identity run with
      | .error raised => .error raised
      | .ok quarantined =>
        let interrupted := publication.interrupted progress s.now
        match quarantined.updatePublication call.publication publication interrupted with
        | .error raised => .error raised
        | .ok next => grant next interrupted
  | .quarantined _ _ =>
    if s.recoveryQuarantined call.publication publication.identity run = false then
      .ok (s, ⟨.authorityInconsistent, none, none⟩)
    else grant s publication

/-- `claim_interrupted_recovery_route_set_publication`. -/
def claimInterruptedRecoveryRouteSetPublication (call : ClaimCall) :
    Except PublicationError (PublicationState × ClaimRow) :=
  if call.valid = false then .ok (s, ⟨.invalid, none, none⟩)
  else
    match s.publications.lookup call.publication with
    | none => .ok (s, ⟨.invalid, none, none⟩)
    | some publication =>
      match publication.identity.subject.effectRun with
      | none => .ok (s, ⟨.invalid, none, none⟩)
      | some run =>
        match s.reconciliationUntil call.publication publication.identity.workshop
            call.operation with
        | none => .ok (s, ⟨.reconciliationLeaseLost, none, none⟩)
        | some operationUntil =>
          match publication.liveClaim s.now with
          | some claim =>
            .ok (s, ⟨if call.holds claim then .replay else .busy,
              some publication.claimFence, some claim.mode⟩)
          | none => s.claimFreeRecovery call publication run operationUntil

/-! ## Decisions -/

/-- As for a projection, but two null texts agree with each other and pass. -/
def validRecoveryDecision (call : RecoveryFinishCall) : Bool :=
  decide (0 < call.claimFence) && validOperation call.operation &&
    sqlHexDigest call.decisionDigest &&
    match call.kind, call.decision with
    | some kind, some decision =>
      decide (kind = .inconclusive) == decide (decision = .keepQuarantined)
    | none, none => true
    | _, _ => false

/-- The fleet heads that a recovery decision proves again. Only a restored candidate needs
the target to be desired still. -/
def recoveryUndrifted (kind : ResolutionKind) (publication : Publication) :
    Bool :=
  let identity := publication.identity
  decide (identity.snapshot.length = identity.snapshotCount) &&
    (identity.snapshot.all fun row => (s.heads.lookup row.workshop).any fun head =>
      decide (head.applied = some row.baseline) &&
        (decide (kind ≠ .candidate) || decide (identity.subject.kind ≠ .recoveryRestore) ||
          !row.isTarget || decide (head.desired = some row.route))) &&
    publication.records.entries.all (fun entry =>
      recordUndrifted identity.snapshot entry.1 entry.2) &&
    identity.snapshot.any fun row => decide (row.workshop = identity.workshop) && row.isTarget &&
      decide (row.route = identity.route)

/-- The response of the run's entry into maintenance. -/
def entryResponse (run : Uuid) : Option AppliedResponse :=
  (s.publications.find fun publication =>
    decide (publication.identity.subject = .recoveryMaintenance run) &&
      match publication.status with
      | .completed _ _ => true
      | .quarantined _ _ => publication.terminal.any fun terminal =>
        decide (terminal.value.kind = .candidate) && terminal.value.response.applied.isSome
      | .active _ => false).bind fun (_, publication) =>
    match publication.status with
    | .completed _ response => some response.value
    | _ => publication.terminal.bind fun terminal => terminal.value.response.applied

/-- The run, the reservation, the lease and the head after a decision. -/
def recoverTables (id : Uuid) (identity : PublicationIdentity) (run : Uuid)
    (change : Reservation → Reservation) (state : EffectRunState) (response : Option Json)
    (route : AuthorityLease → AuthorityLease) : Except PublicationError PublicationState := do
  let reservations ← mustReplace s.reservations (run, identity.workshop)
    (fun reservation => decide (reservation.state = .quarantined)) change
    "recovered reservation drifted"
  let effectRuns ← mustReplace s.effectRuns run (fun effect => effect.state.isQuarantined)
    (fun effect => { effect with state, response }) "recovered effect drifted"
  let leases ← mustReplace s.leases identity.workshop (quarantinedFor id) route
    "recovered route drifted"
  return { s with reservations, effectRuns, leases, fleet := { s.fleet with phase := .idle } }

/-- The tables after an accepted candidate. -/
def recoverCandidate (id : Uuid) (identity : PublicationIdentity)
    (run : Uuid) (head : FleetHead) (response : AppliedResponse) :
    Except PublicationError PublicationState :=
  match identity.subject.kind with
  | .recoveryMaintenance =>
    s.recoverTables id identity run (fun reservation => { reservation with
        state := .maintenance
        maintenanceEvidence := some response.rendering })
      .maintenance (some response.toJson)
      (maintained run identity.route.toRouteTarget)
  | _ =>
    if headFrozen identity head then
      (s.recoverTables id identity run (fun reservation => { reservation with
          state := .restored
          restoredEvidence := some response.rendering })
        (.succeeded s.now) (some response.toJson) idled).map fun next =>
          { next with
            heads := next.heads.modify identity.workshop fun head =>
              { head with
                applied := some (identity.appliedHead response.route.renderedDigest) } }
    else .error (.drifted "recovered restore applied-head CAS drifted")

/-- The tables after a decision that nothing was applied: maintenance is called off, and a
restoration goes back to the maintenance it came from. -/
def recoverPrior (id : Uuid) (identity : PublicationIdentity)
    (run : Uuid) : Except PublicationError PublicationState :=
  match identity.subject.kind with
  | .recoveryMaintenance =>
    s.recoverTables id identity run (fun reservation => { reservation with state := .reserved })
      (.cancelled s.now) none idled
  | _ =>
    match s.entryResponse run with
    | none => .error .noDataFound
    | some entry =>
      s.recoverTables id identity run (fun reservation => { reservation with
          state := .maintenance
          route := reservation.baseline
          action := .maintenance })
        .maintenance (some entry.toJson)
        (maintained run identity.prior.toRouteTarget)

/-- The end of a recovery publication's recovery. -/
def recoveryTerminalFor (call : RecoveryFinishCall) (kind : ResolutionKind)
    (identity : PublicationIdentity) (applied : Option AppliedResponse) : Terminal :=
  let terminal := terminalFor call kind identity applied
  { terminal with
    response := { terminal.response with
      outcome :=
        match kind, identity.subject.kind with
        | .candidate, .recoveryMaintenance => "maintenance_recovered"
        | .candidate, _ => "restored_recovered"
        | _, _ => "not_applied" } }

/-- `finish_recovery_route_set_publication_recovery`. The protocol mode is not read. -/
def finishRecoveryRouteSetPublicationRecovery (env : DatabaseEnvironment) (s : PublicationState)
    (call : RecoveryFinishCall) : Except PublicationError (PublicationState × RecoveryRow) :=
  if validRecoveryDecision call = false then .ok (s, ⟨.invalid, none⟩)
  else
    match s.publications.lookup call.publication with
    | none => .ok (s, ⟨.absent, none⟩)
    | some publication =>
      match publication.terminal with
      | some terminal =>
        if repeatsTerminal env call publication terminal.value then
          .ok (s, ⟨.replay, some terminal.value.response⟩)
        else .ok (s, ⟨.conflict, none⟩)
      | none =>
        match publication.identity.subject.effectRun with
        | none => .error .noDataFound
        | some run =>
          match s.recoveryRows publication.identity run with
          | .error raised => .error raised
          | .ok (_, _, head) =>
            match publication.status, call.kind, call.decision,
                publication.resolutions.lookup call.claimFence with
            | .quarantined _ _, some kind, some decision, some resolution =>
              if s.recoveryQuarantined call.publication publication.identity run = false ∨
                  s.fleet.fence ≠ publication.identity.globalFence ∨
                  (s.leases.lookup publication.identity.workshop).any (fun lease =>
                    decide (lease.fence = publication.identity.routeFence)) = false ∨
                  decides env call kind publication resolution = false ∨
                  s.reviewed call publication.identity.workshop kind decision = false then
                .ok (s, ⟨.authorityInconsistent, none⟩)
              else
                match kind with
                | .inconclusive => .ok (s, ⟨.blocked, none⟩)
                | .candidate =>
                  if s.recoveryUndrifted kind publication = false then
                    .ok (s, ⟨.authorityInconsistent, none⟩)
                  else
                    match candidateRecord env call.publication publication resolution with
                    | none => .ok (s, ⟨.observationMismatch, none⟩)
                    | some (sealing, record) =>
                      let response := appliedResponse call.publication
                        publication.identity sealing record.renderedDigest
                      match s.recoverCandidate call.publication publication.identity
                          run head response with
                      | .error raised => .error raised
                      | .ok recovered =>
                        recovered.terminalise call publication
                          (recoveryTerminalFor call kind publication.identity (some response))
                | .prior | .unstarted =>
                  if s.recoveryUndrifted kind publication = false then
                    .ok (s, ⟨.authorityInconsistent, none⟩)
                  else
                    match s.recoverPrior call.publication publication.identity run with
                    | .error raised => .error raised
                    | .ok recovered =>
                      recovered.terminalise call publication
                        (recoveryTerminalFor call kind publication.identity none)
            | _, _, _, _ => .ok (s, ⟨.authorityInconsistent, none⟩)

end PublicationState

end ControlPlane.Publications
