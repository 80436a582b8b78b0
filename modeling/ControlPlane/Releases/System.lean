/-
# Releases as a system

The writer of a release, any number of claimants, the workers that lease the upstream
operation and the other writers of the fleet's routes act in any order. A call that raises
changes nothing.

Of the rows that releases share with other writers, a step of the environment may change
anything. The side condition `Respects` says what the other functions of the schema leave
alone: what a release left in quarantine is changed by its recovery only, and a snapshot
freezes a head under a fence that its lease has had.
-/

import ControlPlane.Releases.Recovery

namespace ControlPlane.Releases

open Domain Driver Math Persistence
open Routes Publications

/-! ## Events -/

/-- The calls of the writer of a release. -/
inductive WriterCall
  | admitRelease (ttl : Nat)
  | renew (ttl : Nat)
  | recordPrior (prior : PriorRoutes)
  | recordOverlay (overlay : OverlayKind) (call : RecordCall)
  | sealOverlay (overlay : OverlayKind) (call : SealCall)
  | startOverlay (overlay : OverlayKind)
  | observeOverlay (overlay : OverlayKind) (call : ObservationCall)
  | beginExternalEffects
  | quarantine (safeError : String)
  | finish (response : Json)

/-- The calls of a claimant. -/
inductive RecoveryCall
  | claim (ttl : Nat)
  | renew (ttl : Nat)
  | recordCandidate (call : RecordCall)
  | sealCandidate (call : SealCall)
  | recordObservation (observation : Json)
  | authorize (call : AuthorizationCall)
  | authorizeFromObservation (observationDigest : String)
  | resolve (kind : ReleaseResolutionKind) (evidence : Json) (response : Option Json)
  | finish (kind : ReleaseResolutionKind) (decisionDigest : String)
  | finishReviewed

inductive ReleaseEvent
  | queue (call : QueueCall)
  | shared (rows : SharedRows)
  | runs (activeSlot : Option Slot) (runs : Table Uuid FleetRun)
  | writer (lease : ReleaseLease) (call : WriterCall)
  | recovery (key : ClaimKey) (call : RecoveryCall)
  | review (id : Uuid) (fence : Nat) (operation : ControlOperationLease)
      (observationDigest : String) (decision : ReviewDecision)

namespace ReleaseState

/-- The state after a call that may have raised. -/
def after {α : Type} (s : ReleaseState) (result : Except ReleaseRaised (ReleaseState × α)) :
    ReleaseState :=
  match result with
  | .ok (t, _) => t
  | .error _ => s

def writerCall (env : DatabaseEnvironment) (s : ReleaseState) (lease : ReleaseLease) :
    WriterCall → ReleaseState
  | .admitRelease ttl => (s.admitRelease lease ttl).1
  | .renew ttl => (s.renewRelease lease ttl).1
  | .recordPrior prior => (s.recordPrior env lease prior).1
  | .recordOverlay overlay call => (s.recordOverlay lease overlay call).1
  | .sealOverlay overlay call => (s.sealOverlay env lease overlay call).1
  | .startOverlay overlay => (s.startOverlay lease overlay).1
  | .observeOverlay overlay call => s.after (s.observeOverlay lease overlay call)
  | .beginExternalEffects => (s.beginExternalEffects lease).1
  | .quarantine safeError => (s.quarantineRelease lease safeError).1
  | .finish response => (s.finishRelease env lease response).1

def recoveryCall (env : DatabaseEnvironment) (s : ReleaseState) (key : ClaimKey) :
    RecoveryCall → ReleaseState
  | .claim ttl => s.after (s.claimInterrupted key ttl)
  | .renew ttl => (s.renewClaim key ttl).1
  | .recordCandidate call => s.after (s.recordCandidateEntry key call)
  | .sealCandidate call => (s.sealCandidate env key call).1
  | .recordObservation observation => (s.recordRuntimeObservation env key observation).1
  | .authorize call => (s.authorizeExchange env key call).1
  | .authorizeFromObservation digest => (s.authorizeFromObservation env key digest).1
  | .resolve kind evidence response => s.after (s.resolveInterrupted env key kind evidence response)
  | .finish kind digest => s.after (s.finishInterrupted env key kind digest)
  | .finishReviewed => s.after (s.finishReviewed env key)

def step (env : DatabaseEnvironment) (s : ReleaseState) : ReleaseEvent → Option ReleaseState
  | .queue call => (s.queue.step call).map fun queue => { s with queue := queue }
  | .shared rows => some { s with shared := rows }
  | .runs activeSlot runs => some { s with activeSlot := activeSlot, runs := runs }
  | .writer lease call => some (s.writerCall env lease call)
  | .recovery key call => some (s.recoveryCall env key call)
  | .review id fence operation observationDigest decision =>
    some (s.reviewObservation env id fence operation observationDigest decision).1

end ReleaseState

/-! ## The environment -/

/-- A snapshot's heads were applied under fences that their leases have had. -/
def FencesOrdered (snapshots : Table Uuid ReleaseSnapshot) : Prop :=
  ∀ id snapshot, snapshots.lookup id = some snapshot →
    ∀ owner ∈ snapshot.owners, owner.appliedFence ≤ owner.snapshotFence

/-- The rows of a release and its routes are the same. -/
structure RowsKept (rows next : SharedRows) (id : Uuid) (owners : List RouteOwner) : Prop where
  fleet : next.fleet = rows.fleet
  driver : next.drivers.lookup id = rows.drivers.lookup id
  leases : ∀ owner ∈ owners, next.leases.lookup owner.workshop = rows.leases.lookup owner.workshop
  heads : ∀ owner ∈ owners, next.heads.lookup owner.workshop = rows.heads.lookup owner.workshop

/-- The release waits in quarantine. -/
def ReleaseState.Waiting (s : ReleaseState) (id : Uuid) (publication : ReleasePublication) : Prop :=
  s.publications.lookup id = some publication ∧ publication.interrupted.isSome = true ∧
    (s.recovery id).terminal = none

/-- What the other writers of the fleet's routes leave alone. -/
def Respects (s : ReleaseState) : ReleaseEvent → Prop
  | .shared rows =>
    (∀ id publication, s.Waiting id publication →
      RowsKept s.shared rows id publication.identity.owners) ∧ FencesOrdered rows.snapshots
  | _ => True

/-- No release has been admitted yet. -/
structure Initial (s : ReleaseState) : Prop where
  publications : s.publications = ∅
  completions : s.completions = ∅
  recoveries : s.recoveries = ∅
  snapshots : FencesOrdered s.shared.snapshots

/-! ## The routes of a release -/

variable {owners : List RouteOwner} {publication : ReleasePublication} {stage : Stage}

theorem mapRoutes_lookup_ne {change : RouteOwner → AuthorityLease → AuthorityLease}
    {workshop : Uuid} (leases : Table Uuid AuthorityLease)
    (hother : ∀ owner ∈ owners, owner.workshop ≠ workshop) :
    (mapRoutes change owners leases).lookup workshop = leases.lookup workshop := by
  induction owners generalizing leases with
  | nil => rfl
  | cons owner owners ih =>
    rw [mapRoutes, ih _ fun other hmem => hother other (List.mem_cons_of_mem _ hmem)]
    split
    · exact AList.lookup_insert_ne (hother owner List.mem_cons_self).symm
    · rfl

/-- Every owned route is changed once, because the owners are distinct. -/
theorem mapRoutes_lookup {change : RouteOwner → AuthorityLease → AuthorityLease}
    {owner : RouteOwner} {route : AuthorityLease} (leases : Table Uuid AuthorityLease)
    (hdistinct : (owners.map RouteOwner.workshop).Nodup) (hmem : owner ∈ owners)
    (hroute : leases.lookup owner.workshop = some route) :
    (mapRoutes change owners leases).lookup owner.workshop = some (change owner route) := by
  induction owners generalizing leases with
  | nil => cases hmem
  | cons first owners ih =>
    rw [List.map_cons, List.nodup_cons] at hdistinct
    rw [mapRoutes]
    rcases List.mem_cons.mp hmem with rfl | hmem
    · rw [mapRoutes_lookup_ne]
      · rw [hroute, AList.lookup_insert]
      · intro other hother heq
        exact hdistinct.1 (heq ▸ List.mem_map_of_mem hother)
    · have hne : owner.workshop ≠ first.workshop := fun heq =>
        hdistinct.1 (heq ▸ List.mem_map_of_mem hmem)
      refine ih _ hdistinct.2 hmem ?_
      split
      · rw [AList.lookup_insert_ne hne, hroute]
      · exact hroute

/-! ## What a writer can change -/

/-- What a call of the writer does to the publication of its release. -/
inductive PublicationMove (s t : ReleaseState) (id : Uuid) : Prop
  | same (publication : t.publications.lookup id = s.publications.lookup id)
      (completion : t.completions.lookup id = s.completions.lookup id)
  | admitted {snapshot : ReleaseSnapshot} {identity : ReleaseIdentity} {stage : Stage}
      (new : s.publications.lookup id = none)
      (frozen : s.shared.snapshots.lookup id = some snapshot)
      (owners : identity.owners = snapshot.owners)
      (publication : t.publications.lookup id = some ⟨identity, .live stage⟩)
      (completion : t.completions.lookup id = s.completions.lookup id)
  | moved {before : ReleasePublication} {stage : Stage} {phase : Phase}
      (lookup : s.publications.lookup id = some before) (live : before.phase = .live stage)
      (publication : t.publications.lookup id = some { before with phase := phase })
      (completion : t.completions.lookup id = s.completions.lookup id)
      (next : (∃ stage, phase = .live stage) ∨
        t.allQuarantined (before.identity.lease id) before.identity.owners = true)
  | completed {before : ReleasePublication} {stage : Stage} {maintenance : MaintenanceEvidence}
      {candidate : CandidateEvidence}
      (lookup : s.publications.lookup id = some before) (live : before.phase = .live stage)
      (publication : t.publications.lookup id =
        some { before with phase := .completed maintenance candidate })

/-- A call of the writer changes no recovery and no other release. -/
structure WriterFrame (s t : ReleaseState) (id : Uuid) : Prop where
  queue : t.queue = s.queue
  recoveries : t.recoveries = s.recoveries
  snapshots : t.shared.snapshots = s.shared.snapshots
  publications : ∀ other ≠ id, t.publications.lookup other = s.publications.lookup other
  completions : ∀ other ≠ id, t.completions.lookup other = s.completions.lookup other
  move : PublicationMove s t id

variable {env : DatabaseEnvironment} {s : ReleaseState} {lease : ReleaseLease}

theorem WriterFrame.refl (s : ReleaseState) (id : Uuid) : WriterFrame s s id :=
  ⟨rfl, rfl, rfl, fun _ _ => rfl, fun _ _ => rfl, .same rfl rfl⟩

/-- Authority is over a release that is not in quarantine. -/
theorem ReleaseState.lookup_of_authorized (h : s.authorized lease = some publication) :
    s.publications.lookup lease.driverOperation = some publication ∧
      publication.interrupted = none := by
  unfold ReleaseState.authorized at h
  split at h
  swap
  · cases h
  rename_i hauthority
  refine ⟨h, ?_⟩
  unfold ReleaseState.hasAuthority at hauthority
  rw [h] at hauthority
  cases hdriver : s.shared.drivers.lookup lease.driverOperation with
  | none =>
    rw [hdriver] at hauthority
    cases hauthority
  | some driver =>
    rw [hdriver] at hauthority
    simp only [Bool.and_eq_true, Option.isNone_iff_eq_none] at hauthority
    exact hauthority.1.1.1.1.1.1

theorem WriterFrame.withRows {phase : Phase} {rows : SharedRows}
    (hlookup : s.publications.lookup lease.driverOperation = some publication)
    (hlive : publication.phase = .live stage) (hrows : rows.snapshots = s.shared.snapshots)
    (hnext : (∃ stage, phase = .live stage) ∨ ({ s with shared := rows }.withPhase
      lease.driverOperation publication phase).allQuarantined
        (publication.identity.lease lease.driverOperation) publication.identity.owners = true) :
    WriterFrame s ({ s with shared := rows }.withPhase lease.driverOperation publication phase)
      lease.driverOperation where
  queue := rfl
  recoveries := rfl
  snapshots := hrows
  publications _ hother := AList.lookup_insert_ne hother
  completions _ _ := rfl
  move := .moved hlookup hlive (AList.lookup_insert _) rfl hnext

theorem WriterFrame.withStage {next : Stage} (hauthorized : s.authorized lease = some publication)
    (hlive : publication.phase = .live stage) :
    WriterFrame s (s.withPhase lease.driverOperation publication (.live next))
      lease.driverOperation :=
  WriterFrame.withRows (ReleaseState.lookup_of_authorized hauthorized).1 hlive rfl
    (Or.inl ⟨next, rfl⟩)

namespace ReleaseState

theorem admitRelease_frame (ttl : Nat) :
    WriterFrame s (s.admitRelease lease ttl).1 lease.driverOperation := by
  unfold admitRelease
  split
  · exact .refl s _
  split
  swap
  · exact .refl s _
  rename_i driver snapshot hdriver hsnapshot
  split
  · split
    · split
      · exact .refl s _
      · split <;> exact .refl s _
    · exact .refl s _
  · rename_i hnew
    split
    · exact .refl s _
    split
    · exact .refl s _
    · simp only
      split
      · exact ⟨rfl, rfl, rfl, fun _ _ => rfl, fun _ _ => rfl, .same rfl rfl⟩
      · exact ⟨rfl, rfl, rfl, fun _ hother => AList.lookup_insert_ne hother,
          fun _ _ => rfl, .admitted hnew hsnapshot rfl (AList.lookup_insert _) rfl⟩

theorem renewRelease_frame (ttl : Nat) :
    WriterFrame s (s.renewRelease lease ttl).1 lease.driverOperation := by
  unfold renewRelease
  split
  · exact .refl s _
  · split
    · exact ⟨rfl, rfl, rfl, fun _ _ => rfl, fun _ _ => rfl, .same rfl rfl⟩
    · exact .refl s _

theorem recordPrior_frame (prior : PriorRoutes) :
    WriterFrame s (s.recordPrior env lease prior).1 lease.driverOperation := by
  unfold recordPrior
  split
  · exact .refl s _
  split
  · split <;> exact .refl s _
  · split
    · exact .refl s _
    · exact .withStage ‹_› ‹_›
  · exact .refl s _

section

variable (overlay : OverlayKind)

theorem recordOverlay_frame (call : RecordCall) :
    WriterFrame s (s.recordOverlay lease overlay call).1 lease.driverOperation := by
  unfold recordOverlay
  split
  · exact .refl s _
  split
  · exact .refl s _
  split
  case h_1 | h_2 =>
    split
    · exact .refl s _
    · exact .withStage ‹_› ‹_›
  · exact .refl s _

theorem sealOverlay_frame (call : SealCall) :
    WriterFrame s (s.sealOverlay env lease overlay call).1 lease.driverOperation := by
  unfold sealOverlay
  split
  · exact .refl s _
  simp only
  split
  case h_1 | h_2 =>
    split
    · exact .refl s _
    · exact .withStage ‹_› ‹_›
  · split <;> exact .refl s _
  · split <;> exact .refl s _
  · exact .refl s _

theorem startOverlay_frame :
    WriterFrame s (s.startOverlay lease overlay).1 lease.driverOperation := by
  unfold startOverlay
  split
  · exact .refl s _
  split
  · exact .refl s _
  · exact .refl s _
  · exact .withStage ‹_› ‹_›
  · exact .withStage ‹_› ‹_›
  · exact .refl s _

theorem observeOverlay_frame (call : ObservationCall) :
    WriterFrame s (s.after (s.observeOverlay lease overlay call)) lease.driverOperation := by
  unfold observeOverlay
  split
  · exact .refl s _
  simp only
  split
  · exact .refl s _
  split
  · split
    · exact .refl s _
    · split
      · exact .refl s _
      · exact .withStage ‹_› ‹_›
      · exact .refl s _
  · split
    · exact .refl s _
    split
    · exact .refl s _
    · split
      · exact .refl s _
      · exact .withRows (lookup_of_authorized ‹_›).1 ‹_› rfl (Or.inl ⟨_, rfl⟩)
    · exact .refl s _
  · exact .refl s _

end

theorem beginExternalEffects_frame :
    WriterFrame s (s.beginExternalEffects lease).1 lease.driverOperation := by
  unfold beginExternalEffects
  split
  · exact .refl s _
  · split
    · exact .refl s _
    · exact .withStage ‹_› ‹_›
    · exact .refl s _

theorem fence_of_routeUntil {owner : RouteOwner} (h : (s.routeUntil lease owner).isSome = true) :
    ∃ route, s.shared.leases.lookup owner.workshop = some route ∧
      route.fence = owner.routeFence := by
  unfold routeUntil at h
  cases hroute : s.shared.leases.lookup owner.workshop with
  | none =>
    rw [hroute] at h
    cases h
  | some route =>
    refine ⟨route, rfl, ?_⟩
    rw [hroute, Option.bind_some, routeHeldUntil] at h
    split at h
    · split at h
      · rename_i hheld
        exact hheld.2.2.2.2
      · cases h
    · cases h

theorem fence_of_fleetHeldUntil {fleet : GlobalLease} {expiresAt : Timestamp}
    (h : fleetHeldUntil fleet lease = some expiresAt) : fleet.fence = lease.globalFence := by
  unfold fleetHeldUntil at h
  split at h
  · split at h
    · rename_i hheld
      exact hheld.2.2.2
    · cases h
  · cases h

theorem allQuarantined_of_held {owners : List RouteOwner} {driver : ReleaseOperation}
    {publications : Table Uuid ReleasePublication} {fleetUntil : Timestamp}
    (hdistinct : (owners.map RouteOwner.workshop).Nodup)
    (hfleet : fleetHeldUntil s.shared.fleet lease = some fleetUntil)
    (hroutes : owners.all (fun owner => (s.routeUntil lease owner).isSome) = true) :
    ({ s with
      publications := publications
      shared := { s.shared with
        fleet := { s.shared.fleet with
          phase := .quarantined (.release lease.driverOperation) lease.instanceOwner }
        drivers := s.shared.drivers.insert lease.driverOperation
          { driver with state := .outcomeUnknown }
        leases := mapRoutes (quarantinedRoute lease) owners s.shared.leases } } :
      ReleaseState).allQuarantined lease owners = true := by
  simp only [allQuarantined, Bool.and_eq_true, List.all_eq_true, AList.lookup_insert,
    Option.any_some, decide_true, and_true]
  refine ⟨fun owner hmem => ?_, ?_⟩
  · obtain ⟨route, hroute, hfence⟩ := fence_of_routeUntil (List.all_eq_true.mp hroutes owner hmem)
    simp only [mapRoutes_lookup _ hdistinct hmem hroute, Option.any_some, routeQuarantined,
      quarantinedRoute, hfence, decide_true, Bool.and_self]
  · simp only [fleetQuarantined, fence_of_fleetHeldUntil hfleet, decide_true, Bool.and_self]

theorem quarantineRelease_frame (safeError : String) :
    WriterFrame s (s.quarantineRelease lease safeError).1 lease.driverOperation := by
  unfold quarantineRelease
  simp only
  split
  · exact .refl s _
  split
  swap
  · exact .refl s _
  rename_i publication driver hlookup hdriver
  split
  · exact .refl s _
  rename_i hlease
  split
  · exact .refl s _
  · exact .refl s _
  split
  swap
  · exact .refl s _
  rename_i hfleet _
  split
  · exact .refl s _
  rename_i hroutes
  split
  · exact .refl s _
  · refine .withRows hlookup ‹_› rfl (Or.inr ?_)
    rw [not_not.mp hlease]
    exact allQuarantined_of_held publication.identity.ownersDistinct hfleet
      (Bool.not_eq_false _ ▸ hroutes)

theorem finishBeforeRecovery_frame {publication : ReleasePublication} (response : Json)
    (hlookup : s.publications.lookup lease.driverOperation = some publication) :
    WriterFrame s (s.finishBeforeRecovery env lease publication response).1
      lease.driverOperation := by
  unfold finishBeforeRecovery
  simp only
  split
  · exact .refl s _
  · split
    swap
    · exact .refl s _
    split
    · exact .refl s _
    split
    · exact .refl s _
    split
    · split
      · exact .refl s _
      · split
        · exact .refl s _
        · exact ⟨rfl, rfl, rfl, fun _ hother => AList.lookup_insert_ne hother,
            fun _ hother => AList.lookup_insert_ne hother,
            .completed hlookup ‹_› (AList.lookup_insert _)⟩
    · exact .refl s _
    · exact .refl s _
  · exact .refl s _

theorem finishRelease_frame (response : Json) :
    WriterFrame s (s.finishRelease env lease response).1 lease.driverOperation := by
  unfold finishRelease
  simp only
  split
  · exact .refl s _
  · split
    · exact .refl s _
    · split
      · split <;> exact .refl s _
      · exact finishBeforeRecovery_frame response ‹_›

theorem writerCall_frame (env : DatabaseEnvironment) (s : ReleaseState) (lease : ReleaseLease)
    (call : WriterCall) : WriterFrame s (s.writerCall env lease call) lease.driverOperation := by
  cases call with
  | admitRelease ttl => exact admitRelease_frame ttl
  | renew ttl => exact renewRelease_frame ttl
  | recordPrior prior => exact recordPrior_frame prior
  | recordOverlay overlay call => exact recordOverlay_frame overlay call
  | sealOverlay overlay call => exact sealOverlay_frame overlay call
  | startOverlay overlay => exact startOverlay_frame overlay
  | observeOverlay overlay call => exact observeOverlay_frame overlay call
  | beginExternalEffects => exact beginExternalEffects_frame
  | quarantine safeError => exact quarantineRelease_frame safeError
  | finish response => exact finishRelease_frame response

end ReleaseState

end ControlPlane.Releases
