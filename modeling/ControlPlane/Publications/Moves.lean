/-
# What one call changes

A call leaves the database as it is, or makes one of a few moves; only the claim of a
publication that is still live makes two, the quarantine and the claim. The moves are
listed here once, each with what the call has checked, and every property of a history
is proved about them.
-/

import ControlPlane.Publications.System

namespace ControlPlane.Publications

open Domain Driver Math Table Persistence
open Routes

/-- The evidence that a live publication can gain in one call. -/
inductive Gains (env : DatabaseEnvironment) (id : Uuid) (publication : Publication)
    (now : Timestamp) : Progress → Progress → Prop
  | prior {prior : PriorRoutes} :
      Gains env id publication now (.staging none) (.staging (some ⟨prior, now⟩))
  | sealing {prior : Stamped PriorRoutes} {sealing : Seal}
      (total : sealing.count = publication.identity.snapshotCount)
      (count : publication.records.entries.length = sealing.count)
      (digest : routeSetDigest env publication.records = sealing.digest) :
      Gains env id publication now (.staging (some prior)) (.sealed prior sealing)
  | started {prior : Stamped PriorRoutes} {sealing : Seal} :
      Gains env id publication now (.sealed prior sealing) (.publicationStarted prior sealing now)
  | observed {prior : Stamped PriorRoutes} {sealing : Seal} {startedAt : Timestamp}
      {observation : Observation}
      (selector : observation.selector = publication.identity.selector)
      (identity : observation.loadedIdentity =
        expectedIdentity id publication.identity (some sealing.digest)) :
      Gains env id publication now (.publicationStarted prior sealing startedAt)
        (.observed ⟨prior, sealing, startedAt, ⟨observation, now⟩⟩)

namespace PublicationState

/-- Replace the row of a publication. -/
def withPublication (s : PublicationState) (id : Uuid) (publication : Publication) :
    PublicationState :=
  { s with publications := s.publications.insert id publication }

/-- The tables after a renewal. -/
def renewedTables (s : PublicationState) (workshop driverOperation : Uuid)
    (expiresAt : Timestamp) : PublicationState :=
  { s with
    receipts := s.receipts.modify driverOperation fun receipt => receipt.renewed expiresAt
    fleet := { s.fleet with phase := renewedPhase expiresAt s.fleet.phase }
    leases := s.leases.modify workshop (renewedRoute expiresAt) }

/-- What an admission requires. -/
structure Admissible (s : PublicationState) (call : AdmitPublicationCall) (route : DesiredRoute)
    (applied : AppliedHead) (lease : AuthorityLease) : Prop where
  caller : s.callerCurrent call = true
  idle : s.fleet.phase = .idle
  ready : s.fleetReady call.workshop = true
  leaseRow : s.leases.lookup call.workshop = some lease
  leaseIdle : lease.phase = .idle
  headRow : s.heads.lookup call.workshop = some ⟨some route, some applied⟩
  target : route.toRouteTarget = call.target
  complete : (s.fleetSnapshot call.workshop).length = s.workshops.length
  publicationFree : s.publications.lookup call.publicationId = none

/-- The publication is live and holds both leases with its own tokens. -/
structure Interruptible (s : PublicationState) (id : Uuid) (publication : Publication)
    (progress : Progress) (driverOperation : Uuid) : Prop where
  row : s.publications.lookup id = some publication
  status : publication.status = .active progress
  subject : publication.identity.subject = .projection driverOperation
  fleet : (s.fleetHeldUntil (publication.identity.lease id)).isSome = true
  route : (s.routeHeldUntil publication.identity (publication.identity.lease id)).isSome = true

/-- The publication is in quarantine, and the decision is about one of its observations. -/
structure Decided (env : DatabaseEnvironment) (s : PublicationState) (call : RecoveryFinishCall)
    (kind : ResolutionKind) (publication : Publication) (driverOperation : Uuid) : Prop where
  row : s.publications.lookup call.publication = some publication
  unended : publication.terminal = none
  quarantined : ∃ progress quarantinedAt, publication.status = .quarantined progress quarantinedAt
  subject : publication.identity.subject = .projection driverOperation
  unclaimed : publication.claim = none
  consistent : s.quarantineConsistent call.publication publication.identity driverOperation = true
  named : call.kind = some kind
  observation : ∃ resolution, publication.resolutions.lookup call.claimFence = some resolution ∧
    decides env call kind publication resolution = true

/-- The queue went on: operations stay in it, under their later attempts. -/
structure QueueLater (queue later : QueueState) : Prop where
  now : queue.now ≤ later.now
  rows : ∀ id row, queue.operations.lookup id = some row →
    ∃ after, later.operations.lookup id = some after ∧ row.Later after

/-- One change of the database, with what was checked before it. -/
inductive Move (env : DatabaseEnvironment) (s : PublicationState) : PublicationState → Prop
  | queue {queue : QueueState} (later : QueueLater s.queue queue) : Move env s { s with queue }
  | desired {workshop : Uuid} {head : FleetHead} {desired : Option DesiredRoute}
      {projections : Table (Uuid × Nat) StoredProjection} (idle : s.fleet.phase = .idle)
      (row : s.heads.lookup workshop = some head) :
      Move env s { s with
        projections
        heads := s.heads.insert workshop { head with desired } }
  | admitted {call : AdmitPublicationCall} {route : DesiredRoute} {applied : AppliedHead}
      {lease : AuthorityLease} (admissible : s.Admissible call route applied lease) :
      Move env s (s.admitted call route applied lease)
  | renewed {lease : PublicationLease} {publication : Publication} {driverOperation : Uuid}
      {expiresAt : Timestamp} (authority : s.authorized lease = some publication)
      (subject : publication.identity.subject = .projection driverOperation) :
      Move env s (s.renewedTables publication.identity.workshop driverOperation expiresAt)
  | gained {lease : PublicationLease} {publication : Publication} {old new : Progress}
      (authority : s.authorized lease = some publication)
      (status : publication.status = .active old)
      (gains : Gains env lease.publication publication s.now old new) :
      Move env s (s.withPublication lease.publication (withProgress publication new))
  | recorded {lease : PublicationLease} {publication : Publication}
      {prior : Stamped PriorRoutes} {workshop : Uuid} {record : PublicationRecord}
      {row : SnapshotRow} (authority : s.authorized lease = some publication)
      (status : publication.status = .active (.staging (some prior)))
      (fresh : publication.records.lookup workshop = none)
      (snapshot : publication.snapshotOf workshop record = some row)
      (renders : renderInvariant publication.kind row record = true) :
      Move env s (s.withPublication lease.publication { publication with
        records := publication.records.insert workshop record })
  | quarantined {id : Uuid} {publication interrupted : Publication} {progress : Progress}
      {driverOperation : Uuid}
      (live : s.Interruptible id publication progress driverOperation)
      (change : interrupted = { publication with status := .quarantined progress s.now } ∨
        interrupted = publication.interrupted progress s.now) :
      Move env s ((s.quarantineAuthority publication.identity.workshop
        driverOperation).withPublication id interrupted)
  | claimed {call : ClaimCall} {publication : Publication} {progress : Progress}
      {quarantinedAt operationUntil : Timestamp}
      (row : s.publications.lookup call.publication = some publication)
      (status : publication.status = .quarantined progress quarantinedAt)
      (free : publication.liveClaim s.now = none) :
      Move env s (s.withPublication call.publication
        (publication.claimedBy call s.now operationUntil))
  | claimRenewed {holder : ClaimHolder} {publication : Publication} {claim : Claim}
      {expiresAt : Timestamp} (locked : s.lockClaim holder = some (publication, claim)) :
      Move env s (s.withPublication holder.publication { publication with
        claim := some { claim with expiresAt } })
  | resolved {call : ResolveCall} {publication : Publication} {claim : Claim}
      (locked : s.lockClaim call.holder = some (publication, claim))
      (fresh : publication.resolutions.lookup call.holder.fence = none) :
      Move env s (s.withPublication call.holder.publication { publication with
        claim := none
        resolutions := publication.resolutions.insert call.holder.fence
          (resolutionOf env call publication claim) })
  | completed {lease : PublicationLease} {publication : Publication}
      {evidence : ObservedEvidence} {record : PublicationRecord} {driverOperation : Uuid}
      (live : s.Interruptible lease.publication publication (.observed evidence) driverOperation)
      (sealedRecords : recordsSealed env publication evidence.sealing = true)
      (target : publication.targetRecord = some record)
      (frozen : (s.heads.lookup publication.identity.workshop).any
        (headFrozen publication.identity) = true) :
      Move env s ((s.appliedTables publication.identity driverOperation
        (appliedResponse lease.publication publication.identity evidence.sealing
          record.renderedDigest)).withPublication lease.publication { publication with
            status := .completed evidence ⟨appliedResponse lease.publication
              publication.identity evidence.sealing record.renderedDigest, s.now⟩ })
  | recovered {call : RecoveryFinishCall} {publication : Publication} {driverOperation : Uuid}
      {sealing : Seal} {record : PublicationRecord}
      (decided : s.Decided env call .candidate publication driverOperation)
      (sealingRow : publication.status.progress.sealing = some sealing)
      (target : publication.targetRecord = some record)
      (frozen : (s.heads.lookup publication.identity.workshop).any
        (headFrozen publication.identity) = true) :
      Move env s ((s.appliedTables publication.identity driverOperation
        (appliedResponse call.publication publication.identity sealing
          record.renderedDigest)).withPublication call.publication { publication with
            terminal := some ⟨terminalFor call .candidate publication.identity
              (some (appliedResponse call.publication publication.identity sealing
                record.renderedDigest)), s.now⟩ })
  | released {call : RecoveryFinishCall} {publication : Publication} {driverOperation : Uuid}
      {kind : ResolutionKind} (decided : s.Decided env call kind publication driverOperation)
      (notApplied : kind = .prior ∨ kind = .unstarted) :
      Move env s ((s.releasedTables publication.identity.workshop driverOperation).withPublication
        call.publication { publication with
          terminal := some ⟨terminalFor call kind publication.identity none, s.now⟩ })

/-- What a call changes. -/
inductive Effect (env : DatabaseEnvironment) (s : PublicationState) : PublicationState → Prop
  | unchanged : Effect env s s
  | moved {t : PublicationState} (move : Move env s t) : Effect env s t
  | claimedLive {call : ClaimCall} {publication : Publication} {progress : Progress}
      {driverOperation : Uuid} {operationUntil : Timestamp}
      (live : s.Interruptible call.publication publication progress driverOperation)
      (free : publication.liveClaim s.now = none) :
      Effect env s (((s.quarantineAuthority publication.identity.workshop
        driverOperation).withPublication call.publication
          (publication.interrupted progress s.now)).withPublication call.publication
            ((publication.interrupted progress s.now).claimedBy call s.now operationUntil))

/-! ## Rows

What a move does to the row of a publication that is there. -/

/-- The change of one row. -/
inductive RowMove (env : DatabaseEnvironment) (s : PublicationState) (id : Uuid) :
    Publication → Publication → Prop
  | same {publication : Publication} : RowMove env s id publication publication
  | gained {publication : Publication} {old new : Progress}
      (status : publication.status = .active old)
      (gains : Gains env id publication s.now old new) :
      RowMove env s id publication (withProgress publication new)
  | recorded {publication : Publication} {prior : Stamped PriorRoutes} {workshop : Uuid}
      {record : PublicationRecord} {row : SnapshotRow}
      (status : publication.status = .active (.staging (some prior)))
      (fresh : publication.records.lookup workshop = none)
      (snapshot : publication.snapshotOf workshop record = some row)
      (renders : renderInvariant publication.kind row record = true) :
      RowMove env s id publication { publication with
        records := publication.records.insert workshop record }
  | quarantined {publication interrupted : Publication} {progress : Progress}
      (status : publication.status = .active progress)
      (change : interrupted = { publication with status := .quarantined progress s.now } ∨
        interrupted = publication.interrupted progress s.now) :
      RowMove env s id publication interrupted
  | claimed {call : ClaimCall} {publication : Publication} {progress : Progress}
      {quarantinedAt operationUntil : Timestamp}
      (status : publication.status = .quarantined progress quarantinedAt) :
      RowMove env s id publication (publication.claimedBy call s.now operationUntil)
  | claimRenewed {publication : Publication} {claim : Claim} {expiresAt : Timestamp}
      (current : publication.claim = some claim) :
      RowMove env s id publication { publication with claim := some { claim with expiresAt } }
  | resolved {publication : Publication} {claim : Claim} {resolution : Resolution}
      (current : publication.claim = some claim)
      (fresh : publication.resolutions.lookup publication.claimFence = none) :
      RowMove env s id publication { publication with
        claim := none
        resolutions := publication.resolutions.insert publication.claimFence resolution }
  | completed {publication : Publication} {evidence : ObservedEvidence}
      {record : PublicationRecord} (status : publication.status = .active (.observed evidence))
      (sealedRecords : recordsSealed env publication evidence.sealing = true)
      (target : publication.targetRecord = some record) :
      RowMove env s id publication { publication with
        status := .completed evidence ⟨appliedResponse id publication.identity evidence.sealing
          record.renderedDigest, s.now⟩ }
  | ended {publication : Publication} {terminal : Stamped Terminal} {progress : Progress}
      {quarantinedAt : Timestamp} (unended : publication.terminal = none)
      (status : publication.status = .quarantined progress quarantinedAt) :
      RowMove env s id publication { publication with terminal := some terminal }

/-! ## Every step makes one of these changes -/

variable {env : DatabaseEnvironment} {s t : PublicationState}

variable {id driverOperation : Uuid} {old new publication : Publication} {lease : PublicationLease}
  {answer : EvidenceOutcome} {call : ClaimCall} {operationUntil : Timestamp}

theorem updatePublication_ok (h : s.updatePublication id old new = .ok t) :
    t = s.withPublication id new := by
  unfold updatePublication at h
  split at h
  · cases h
    rfl
  · cases h

theorem map_updatePublication_ok {α : Type} {answer : α}
    {f : PublicationState → PublicationState × α} (hf : ∀ u, (f u).1 = u)
    (h : (s.updatePublication id old new).map f = .ok (t, answer)) :
    t = s.withPublication id new ∧ answer = (f t).2 := by
  cases hupdate : s.updatePublication id old new with
  | error raised =>
    rw [hupdate] at h
    cases h
  | ok next =>
    rw [hupdate] at h
    have heq : f next = (t, answer) := Except.ok.inj h
    obtain rfl : next = t := by rw [← hf next, heq]
    exact ⟨updatePublication_ok hupdate, by rw [heq]⟩

theorem authorized_cases (h : s.authorized lease = some publication) :
    s.publications.lookup lease.publication = some publication ∧
      lease = publication.identity.lease lease.publication ∧
      (∃ progress, publication.status = .active progress) ∧
      (s.fleetHeldUntil lease).isSome = true ∧
      (s.routeHeldUntil publication.identity lease).isSome = true ∧
      s.upstreamCurrent publication.identity = true ∧
      s.subjectCurrent publication.identity lease = true := by
  unfold authorized at h
  split at h
  swap
  · cases h
  rename_i hauthority
  unfold hasAuthority at hauthority
  rw [h] at hauthority
  cases hstatus : publication.status with
  | active progress =>
    simp only [hstatus, Bool.and_eq_true, decide_eq_true_eq] at hauthority
    obtain ⟨⟨⟨⟨⟨-, hlease⟩, hupstream⟩, hsubject⟩, hfleet⟩, hroute⟩ := hauthority
    refine ⟨h, hlease, ⟨progress, rfl⟩, ?_, ?_, hupstream, hsubject⟩
    · exact Option.isSome_of_any hfleet
    · exact Option.isSome_of_any hroute
  | completed evidence response | quarantined progress quarantinedAt =>
    simp only [hstatus] at hauthority
    cases hauthority

variable {holder : ClaimHolder} {ttlSeconds : Nat} {progress : Progress} {workshop : Uuid}

theorem lockClaim_cases {claim : Claim} (h : s.lockClaim holder = some (publication, claim)) :
    s.publications.lookup holder.publication = some publication ∧ publication.claim = some claim ∧
      (∃ progress quarantinedAt, publication.status = .quarantined progress quarantinedAt) ∧
      claim.owner = holder.owner ∧ claim.token = holder.token ∧
      publication.claimFence = holder.fence := by
  unfold lockClaim at h
  split at h
  · cases h
  split at h
  · cases h
  rename_i row hrow
  split at h
  case h_1 progress quarantinedAt stored hstatus hclaim =>
    obtain ⟨hcurrent, heq⟩ := Option.ite_none_right_eq_some.mp h
    cases heq
    simp only [claimCurrent, Bool.and_eq_true, decide_eq_true_eq] at hcurrent
    obtain ⟨⟨⟨⟨howner, htoken⟩, hfence⟩, -⟩, -⟩ := hcurrent
    exact ⟨hrow, hclaim, ⟨progress, quarantinedAt, hstatus⟩, howner, htoken, hfence⟩
  case h_2 => cases h

theorem Move.table (h : Move env s t) : t.publications = s.publications ∨
      (∃ call route applied lease, s.Admissible call route applied lease ∧
        t = s.admitted call route applied lease) ∨
      ∃ key old new, s.publications.lookup key = some old ∧ RowMove env s key old new ∧
        t.publications = s.publications.insert key new := by
  cases h with
  | queue _ | desired _ _ | renewed _ _ => exact Or.inl rfl
  | admitted hadmissible => exact Or.inr (Or.inl ⟨_, _, _, _, hadmissible, rfl⟩)
  | gained hauthorized hstatus hgains =>
    exact Or.inr (Or.inr ⟨_, _, _, (authorized_cases hauthorized).1, .gained hstatus hgains, rfl⟩)
  | recorded hauthorized hstatus hfresh hsnapshot hrenders =>
    exact Or.inr (Or.inr ⟨_, _, _, (authorized_cases hauthorized).1,
      .recorded hstatus hfresh hsnapshot hrenders, rfl⟩)
  | quarantined hlive hchange =>
    exact Or.inr (Or.inr ⟨_, _, _, hlive.row, .quarantined hlive.status hchange, rfl⟩)
  | claimed hrow hstatus _ => exact Or.inr (Or.inr ⟨_, _, _, hrow, .claimed hstatus, rfl⟩)
  | claimRenewed hlocked =>
    obtain ⟨hrow, hclaim, -⟩ := lockClaim_cases hlocked
    exact Or.inr (Or.inr ⟨_, _, _, hrow, .claimRenewed hclaim, rfl⟩)
  | resolved hlocked hfresh =>
    obtain ⟨hrow, hclaim, -, -, -, hfence⟩ := lockClaim_cases hlocked
    rw [← hfence] at hfresh ⊢
    exact Or.inr (Or.inr ⟨_, _, _, hrow, .resolved hclaim hfresh, rfl⟩)
  | completed hlive hsealed htarget _ =>
    exact Or.inr (Or.inr ⟨_, _, _, hlive.row, .completed hlive.status hsealed htarget, rfl⟩)
  | recovered hdecided _ _ _ | released hdecided _ =>
    obtain ⟨progress, quarantinedAt, hstatus⟩ := hdecided.quarantined
    exact Or.inr (Or.inr ⟨_, _, _, hdecided.row, .ended hdecided.unended hstatus, rfl⟩)

theorem Move.row (h : Move env s t) (hpublication : s.publications.lookup id = some publication) :
    ∃ after, t.publications.lookup id = some after ∧ RowMove env s id publication after := by
  rcases h.table with hsame | ⟨call, _, _, _, hadmissible, rfl⟩ | ⟨key, old, new, hrow, hmove, hnew⟩
  · exact ⟨publication, hsame ▸ hpublication, .same⟩
  · refine ⟨publication, ?_, .same⟩
    have hid : id ≠ call.publicationId := by
      rintro rfl
      cases hpublication.symm.trans hadmissible.publicationFree
    exact (AList.lookup_insert_ne hid).trans hpublication
  · rw [hnew]
    by_cases hid : id = key
    · subst hid
      cases hpublication.symm.trans hrow
      exact ⟨new, AList.lookup_insert _, hmove⟩
    · exact ⟨publication, (AList.lookup_insert_ne hid).trans hpublication, .same⟩

theorem Move.new_row (h : Move env s t) (hnone : s.publications.lookup id = none)
    (hpublication : t.publications.lookup id = some publication) :
    ∃ call route applied lease, s.Admissible call route applied lease ∧
      t = s.admitted call route applied lease ∧ id = call.publicationId ∧
      publication = newPublication
        (s.newIdentity call route applied (max lease.fence applied.fence + 1)) := by
  rcases h.table with hsame | ⟨call, route, applied, lease, hadmissible, rfl⟩ |
    ⟨key, old, new, hrow, -, hnew⟩
  · rw [hsame] at hpublication
    cases hnone.symm.trans hpublication
  · rcases lookup_insert_cases hpublication with ⟨rfl, hnew⟩ | ⟨-, hold⟩
    · exact ⟨call, route, applied, lease, hadmissible, rfl, rfl, hnew⟩
    · cases hnone.symm.trans hold
  · rw [hnew] at hpublication
    rcases lookup_insert_cases hpublication with ⟨rfl, -⟩ | ⟨-, hold⟩
    · cases hnone.symm.trans hrow
    · cases hnone.symm.trans hold

theorem admitNew_effect {call : AdmitPublicationCall} {answer : PublicationAdmission}
    (hcaller : s.callerCurrent call = true) (h : s.admitNew call = .ok (t, answer)) :
    Effect env s t := by
  unfold admitNew at h
  split at h
  · cases h; exact .unchanged
  · cases h; exact .unchanged
  rename_i hidle
  split at h
  swap
  · cases h; exact .unchanged
  rename_i hready
  split at h
  case h_1 lease route applied hlease hhead =>
    split at h
    · cases h; exact .unchanged
    rename_i hserves
    split at h
    · cases h
    rename_i hcomplete
    split at h
    · cases h
    rename_i hfree
    cases h
    push Not at hserves hcomplete hfree
    exact .moved (.admitted ⟨hcaller, hidle, hready, hlease, hserves.1, hhead,
      hserves.2, hcomplete, Option.isNone_iff_eq_none.mp (by simpa using hfree.2)⟩)
  case h_2 => cases h; exact .unchanged
  case h_3 => cases h

theorem admitRouteSetPublication_effect {call : AdmitPublicationCall}
    {answer : PublicationAdmission} (h : s.admitRouteSetPublication call = .ok (t, answer)) :
    Effect env s t := by
  unfold admitRouteSetPublication at h
  split at h
  · cases h; exact .unchanged
  split at h
  · cases h; exact .unchanged
  rename_i hcaller
  split at h
  · cases h; exact .unchanged
  split at h
  case h_1 => cases h; exact .unchanged
  case h_2 => exact admitNew_effect (Bool.not_eq_false _ ▸ hcaller) h

/-- A renewal that is authorized extends all of its leases; none of its updates can fail
after the check. -/
theorem renewRouteSetPublication_cases
    (hprojection : ∀ id publication, s.publications.lookup id = some publication →
      ∃ driverOperation, publication.identity.subject = .projection driverOperation) :
    s.renewRouteSetPublication lease ttlSeconds = (s, false) ∨
      ∃ publication driverOperation, s.authorized lease = some publication ∧
        publication.identity.subject = .projection driverOperation ∧
        s.renewRouteSetPublication lease ttlSeconds =
          (s.renewedTables publication.identity.workshop driverOperation
            (s.now + seconds ttlSeconds), true) := by
  unfold renewRouteSetPublication
  split
  · exact Or.inl rfl
  split
  · exact Or.inl rfl
  rename_i publication hauthorized
  obtain ⟨hrow, -, -, hfleet, hroute, -, hsubject⟩ := authorized_cases hauthorized
  obtain ⟨driverOperation, hdriver⟩ := hprojection _ _ hrow
  unfold subjectCurrent at hsubject
  rw [hdriver] at hsubject
  obtain ⟨receipt, hreceipt, hexecuting⟩ := (Option.any_eq_true _ _).mp hsubject
  simp only [Bool.and_eq_true] at hexecuting
  have hrenewed : s.renewSubject publication.identity lease (s.now + seconds ttlSeconds) =
      some { s with
        receipts := s.receipts.modify driverOperation
          (fun row => row.renewed (s.now + seconds ttlSeconds)) } := by
    unfold renewSubject
    rw [hdriver, modify_of_lookup hreceipt]
    simp only [Option.map_eq_some_iff, replace_eq_some_iff]
    exact ⟨_, ⟨receipt, hreceipt, hexecuting.2, rfl⟩, rfl⟩
  right
  refine ⟨publication, driverOperation, hauthorized, hdriver, ?_⟩
  simp only [hrenewed]
  exact (if_pos hfleet).trans (if_pos hroute)

theorem staging_of_phase (h : progress.phase = .staging) : ∃ prior, progress = .staging prior := by
  cases progress with
  | staging prior => exact ⟨prior, rfl⟩
  | sealed _ _ | publicationStarted _ _ _ | observed _ => cases h

theorem advance_effect {old new : Progress} {outcome : EvidenceOutcome}
    (hauthorized : s.authorized lease = some publication)
    (hstatus : publication.status = .active old)
    (hgains : Gains env lease.publication publication s.now old new)
    (h : s.advance lease.publication publication new outcome = .ok (t, answer)) :
    Effect env s t := by
  rw [(map_updatePublication_ok (fun _ => rfl) h).1]
  exact .moved (.gained hauthorized hstatus hgains)

theorem recordPrior_effect {prior : PriorRoutes}
    (h : recordRouteSetPublicationPrior env s lease prior = .ok (t, answer)) : Effect env s t := by
  unfold recordRouteSetPublicationPrior at h
  split at h
  · cases h; exact .unchanged
  rename_i publication hauthorized
  obtain ⟨-, -, ⟨progress, hstatus⟩, -⟩ := authorized_cases hauthorized
  split at h
  · cases h; exact .unchanged
  rename_i hprior
  split at h
  · cases h; exact .unchanged
  rename_i hphase
  split at h
  swap
  · cases h; exact .unchanged
  rw [hstatus] at hprior hphase
  obtain ⟨recorded, rfl⟩ := staging_of_phase (not_not.mp hphase)
  obtain rfl : recorded = none := hprior
  exact advance_effect hauthorized hstatus .prior h

theorem recordEntry_effect {record : PublicationRecord} :
    Effect env s (s.recordRouteSetPublicationEntry lease workshop record).1 := by
  unfold recordRouteSetPublicationEntry
  split
  · exact .unchanged
  split
  · exact .unchanged
  rename_i publication hauthorized
  obtain ⟨-, -, ⟨progress, hstatus⟩, -⟩ := authorized_cases hauthorized
  split
  · exact .unchanged
  rename_i hfresh
  split
  · exact .unchanged
  rename_i hphase
  split
  · exact .unchanged
  rename_i hprior
  split
  · exact .unchanged
  split
  · exact .unchanged
  rename_i row hsnapshot
  split
  swap
  · exact .unchanged
  rename_i hrenders
  rw [hstatus] at hphase hprior
  obtain ⟨recorded, rfl⟩ := staging_of_phase (not_not.mp hphase)
  cases recorded with
  | none => exact absurd rfl hprior
  | some prior =>
    exact .moved (.recorded hauthorized hstatus hfresh hsnapshot hrenders)

theorem seal_effect {selector : String} {sealing : Seal}
    (h : sealRouteSetPublication env s lease selector sealing = .ok (t, answer)) :
    Effect env s t := by
  unfold sealRouteSetPublication at h
  split at h
  · cases h; exact .unchanged
  rename_i publication hauthorized
  obtain ⟨-, -, ⟨progress, hstatus⟩, -⟩ := authorized_cases hauthorized
  rw [hstatus] at h
  cases progress with
  | staging recorded =>
    cases recorded with
    | none => cases h; exact .unchanged
    | some prior =>
      simp only [Status.progress] at h
      split at h
      · cases h; exact .unchanged
      rename_i hvalid
      push Not at hvalid
      split at h
      · cases h; exact .unchanged
      split at h
      · cases h; exact .unchanged
      rename_i hcount
      split at h
      · cases h; exact .unchanged
      split at h
      · cases h; exact .unchanged
      rename_i hdigest
      exact advance_effect hauthorized hstatus
        (.sealing hvalid.2.2.1 (not_not.mp hcount) (not_not.mp hdigest)) h
  | sealed _ _ | publicationStarted _ _ _ | observed _ => cases h; exact .unchanged

theorem start_effect (h : s.startRouteSetPublication lease = .ok (t, answer)) : Effect env s t := by
  unfold startRouteSetPublication at h
  split at h
  · cases h; exact .unchanged
  rename_i publication hauthorized
  obtain ⟨-, -, ⟨progress, hstatus⟩, -⟩ := authorized_cases hauthorized
  rw [hstatus] at h
  cases progress with
  | staging _ | publicationStarted _ _ _ | observed _ => cases h; exact .unchanged
  | sealed prior sealing => exact advance_effect hauthorized hstatus .started h

theorem observe_effect {observation : Observation} {directory : Directory}
    (h : s.observeRouteSetPublication lease observation directory = .ok (t, answer)) :
    Effect env s t := by
  unfold observeRouteSetPublication at h
  split at h
  · cases h; exact .unchanged
  rename_i publication hauthorized
  obtain ⟨-, -, ⟨progress, hstatus⟩, -⟩ := authorized_cases hauthorized
  split at h
  · cases h; exact .unchanged
  rename_i hcandidate
  simp only [observesCandidate, hstatus, Status.progress, Bool.not_eq_false,
    Bool.and_eq_true, decide_eq_true_eq] at hcandidate
  obtain ⟨⟨hselector, -⟩, hidentity⟩ := hcandidate
  rw [hstatus] at h
  cases progress with
  | staging _ | sealed _ _ | observed _ => cases h; exact .unchanged
  | publicationStarted prior sealing startedAt =>
    exact advance_effect hauthorized hstatus (.observed hselector hidentity) h

theorem quarantine_effect {safeError : String} {answer : Bool}
    (h : s.quarantineRouteSetPublicationProjectionV1 lease safeError = .ok (t, answer)) :
    Effect env s t := by
  unfold quarantineRouteSetPublicationProjectionV1 at h
  split at h
  · cases h; exact .unchanged
  split at h
  · cases h; exact .unchanged
  rename_i publication hrow
  split at h
  · cases h; exact .unchanged
  · cases h; exact .unchanged
  rename_i driverOperation hsubject
  split at h
  · cases h; exact .unchanged
  rename_i hlease
  split at h
  · cases h; exact .unchanged
  · cases h; exact .unchanged
  rename_i progress hstatus
  simp only at h
  split at h
  · cases h; exact .unchanged
  rename_i hheld
  split at h
  · cases h; exact .unchanged
  simp only [not_or, Bool.not_eq_true, Option.isNone_eq_false_iff] at hheld
  rw [(map_updatePublication_ok (fun _ => rfl) h).1]
  rw [not_not.mp hlease] at hheld
  exact .moved (.quarantined ⟨hrow, hstatus, hsubject, hheld.1, hheld.2.1⟩ (Or.inl rfl))

theorem finish_effect {answer : FinishRow}
    (h : finishRouteSetPublicationProjectionV1 env s lease = .ok (t, answer)) : Effect env s t := by
  unfold finishRouteSetPublicationProjectionV1 at h
  split at h
  · cases h; exact .unchanged
  split at h
  · cases h; exact .unchanged
  rename_i publication hrow
  split at h
  · cases h; exact .unchanged
  rename_i hlease
  split at h
  · cases h; exact .unchanged
  · cases h; exact .unchanged
  rename_i progress hstatus
  split at h
  · cases h; exact .unchanged
  · cases h; exact .unchanged
  rename_i driverOperation hsubject
  split at h
  · cases h; exact .unchanged
  · cases h; exact .unchanged
  · cases h; exact .unchanged
  rename_i evidence
  split at h
  · cases h; exact .unchanged
  rename_i hchecked
  simp only [not_or, Bool.not_eq_false] at hchecked
  obtain ⟨hauthority, hsealed, -⟩ := hchecked
  split at h
  · cases h; exact .unchanged
  rename_i record htarget
  simp only at h
  split at h
  swap
  · cases h
  rename_i hfrozen
  simp only [finishAuthorized, Bool.and_eq_true] at hauthority
  obtain ⟨⟨-, hfleet⟩, hroute⟩ := hauthority
  rw [(map_updatePublication_ok (fun _ => rfl) h).1]
  rw [not_not.mp hlease] at hfleet hroute
  exact .moved (.completed ⟨hrow, hstatus, hsubject,
    Option.isSome_of_any hfleet, Option.isSome_of_any hroute⟩
    hsealed htarget hfrozen)

theorem grantClaim_ok {answer : ClaimRow}
    (h : s.grantClaim call publication operationUntil = .ok (t, answer)) :
    t = s.withPublication call.publication (publication.claimedBy call s.now operationUntil) ∧
      answer.fence = some (publication.claimFence + 1) := by
  simp only [grantClaim] at h
  obtain ⟨hstate, hanswer⟩ := map_updatePublication_ok (fun _ => rfl) h
  exact ⟨hstate, by rw [hanswer]; rfl⟩

/-- The claim of an unclaimed publication is refused without a change, or handed out for
an interrupted one, or for a live one after its quarantine. -/
theorem claimFree_cases {answer : ClaimRow}
    (h : s.claimFree call publication driverOperation operationUntil = .ok (t, answer)) :
    t = s ∧ answer.outcome ≠ .acquired ∨ answer.fence = some (publication.claimFence + 1) ∧
        s.upstreamRecorded publication.identity = true ∧
        ((∃ progress, publication.status = .active progress ∧
            (s.fleetHeldUntil (publication.identity.lease call.publication)).isSome = true ∧
            (s.routeHeldUntil publication.identity
              (publication.identity.lease call.publication)).isSome = true ∧
            t = ((s.quarantineAuthority publication.identity.workshop
              driverOperation).withPublication call.publication
                (publication.interrupted progress s.now)).withPublication call.publication
                  ((publication.interrupted progress s.now).claimedBy call s.now operationUntil)) ∨
          (∃ progress quarantinedAt, publication.status = .quarantined progress quarantinedAt ∧
            t = s.withPublication call.publication
              (publication.claimedBy call s.now operationUntil))) := by
  unfold claimFree at h
  split at h
  case h_1 => cases h; exact Or.inl ⟨rfl, nofun⟩
  case h_2 progress hstatus =>
    split at h
    · cases h; exact Or.inl ⟨rfl, nofun⟩
    rename_i hlive
    split at h
    · cases h; exact Or.inl ⟨rfl, nofun⟩
    simp only [liveConsistent, Bool.not_eq_false, Bool.and_eq_true] at hlive
    obtain ⟨⟨⟨hupstream, hfleet⟩, hroute⟩, -⟩ := hlive
    simp only at h
    split at h
    · cases h
    rename_i next hnext
    obtain ⟨rfl, hfence⟩ := grantClaim_ok h
    obtain rfl := updatePublication_ok hnext
    exact Or.inr ⟨hfence, hupstream, Or.inl ⟨progress, hstatus, hfleet, hroute, rfl⟩⟩
  case h_3 progress quarantinedAt hstatus =>
    split at h
    · cases h; exact Or.inl ⟨rfl, nofun⟩
    rename_i hquarantined
    simp only [quarantineConsistent, Bool.not_eq_false, Bool.and_eq_true] at hquarantined
    obtain ⟨rfl, hfence⟩ := grantClaim_ok h
    exact Or.inr ⟨hfence, hquarantined.1.1.1, Or.inr ⟨progress, quarantinedAt, hstatus, rfl⟩⟩

/-- A claim is refused without a change, or it is made on an unclaimed projection. -/
theorem claim_cases {answer : ClaimRow}
    (h : s.claimInterruptedRouteSetPublicationProjectionV1 call = .ok (t, answer)) :
    t = s ∧ answer.outcome ≠ .acquired ∨ ∃ publication driverOperation operationUntil,
        s.publications.lookup call.publication = some publication ∧
        publication.identity.subject = .projection driverOperation ∧
        publication.liveClaim s.now = none ∧
        s.claimFree call publication driverOperation operationUntil = .ok (t, answer) := by
  unfold claimInterruptedRouteSetPublicationProjectionV1 at h
  split at h
  · cases h; exact Or.inl ⟨rfl, nofun⟩
  split at h
  · cases h; exact Or.inl ⟨rfl, nofun⟩
  rename_i publication hrow
  split at h
  · cases h; exact Or.inl ⟨rfl, nofun⟩
  split at h
  · cases h; exact Or.inl ⟨rfl, nofun⟩
  split at h
  · cases h; exact Or.inl ⟨rfl, nofun⟩
  · cases h; exact Or.inl ⟨rfl, nofun⟩
  rename_i driverOperation hsubject
  split at h
  · cases h; exact Or.inl ⟨rfl, nofun⟩
  split at h
  · cases h; exact Or.inl ⟨rfl, nofun⟩
  rename_i operationUntil _
  split at h
  case h_1 claim _ =>
    cases h
    refine Or.inl ⟨rfl, ?_⟩
    cases call.holds claim <;> nofun
  case h_2 hfree =>
    exact Or.inr ⟨publication, driverOperation, operationUntil, hrow, hsubject, hfree, h⟩

/-- Whoever gets a claim found the recorded attempt in flight and gets the next fence. -/
theorem claim_of_acquired {fence : Option Nat} {mode : Option ClaimMode}
    (hrow : s.publications.lookup call.publication = some publication)
    (h : s.claimInterruptedRouteSetPublicationProjectionV1 call =
      .ok (t, ⟨.acquired, fence, mode⟩)) :
    s.upstreamRecorded publication.identity = true ∧ fence = some (publication.claimFence + 1) ∧
      ∃ after, t.publications.lookup call.publication = some after ∧
        after.claimFence = publication.claimFence + 1 := by
  rcases claim_cases h with ⟨-, hrefused⟩ | ⟨found, _, _, hfound, -, -, hclaim⟩
  · exact absurd rfl hrefused
  rw [hrow] at hfound
  cases hfound
  rcases claimFree_cases hclaim with ⟨-, hrefused⟩ | ⟨hfence, hrecorded, hlive | hquarantined⟩
  · exact absurd rfl hrefused
  · obtain ⟨progress, -, -, -, rfl⟩ := hlive
    exact ⟨hrecorded, hfence, _, AList.lookup_insert _, rfl⟩
  · obtain ⟨progress, quarantinedAt, -, rfl⟩ := hquarantined
    exact ⟨hrecorded, hfence, _, AList.lookup_insert _, rfl⟩

theorem claim_effect {answer : ClaimRow}
    (h : s.claimInterruptedRouteSetPublicationProjectionV1 call = .ok (t, answer)) :
    Effect env s t := by
  rcases claim_cases h with
    ⟨rfl, -⟩ | ⟨publication, driverOperation, operationUntil, hrow, hsubject, hfree, hclaim⟩
  · exact .unchanged
  rcases claimFree_cases hclaim with ⟨rfl, -⟩ | ⟨-, -, hlive | hquarantined⟩
  · exact .unchanged
  · obtain ⟨progress, hstatus, hfleet, hroute, rfl⟩ := hlive
    exact .claimedLive ⟨hrow, hstatus, hsubject, hfleet, hroute⟩ hfree
  · obtain ⟨progress, quarantinedAt, hstatus, rfl⟩ := hquarantined
    exact .moved (.claimed hrow hstatus hfree)

theorem renewClaim_effect {answer : RenewClaimOutcome}
    (h : s.renewClaim holder ttlSeconds = .ok (t, answer)) : Effect env s t := by
  unfold renewClaim at h
  split at h
  · cases h; exact .unchanged
  split at h
  · cases h; exact .unchanged
  rename_i publication claim hlocked
  rw [(map_updatePublication_ok (fun _ => rfl) h).1]
  exact .moved (.claimRenewed hlocked)

theorem resolve_effect {call : ResolveCall} {answer : ResolveOutcome}
    (h : resolveObservation env s call = .ok (t, answer)) : Effect env s t := by
  unfold resolveObservation at h
  split at h
  · cases h; exact .unchanged
  rename_i hnone
  split at h
  · cases h; exact .unchanged
  rename_i publication claim hlocked
  split at h
  · cases h; exact .unchanged
  rw [(map_updatePublication_ok (fun _ => rfl) h).1]
  refine .moved (.resolved hlocked ?_)
  rwa [(lockClaim_cases hlocked).1] at hnone

section

variable {call : RecoveryFinishCall} {answer : RecoveryRow}

theorem terminalise_ok {terminal : Terminal}
    (h : s.terminalise call publication terminal = .ok (t, answer)) :
    t = s.withPublication call.publication { publication with terminal := some ⟨terminal, s.now⟩ } ∧
      answer = ⟨.completed, some terminal.response⟩ := by
  exact map_updatePublication_ok (fun _ => rfl) h

/-- A decision whose claimant was checked ends the publication or changes nothing. -/
theorem concluded_cases {kind : ResolutionKind} {resolution : Resolution}
    (hdecided : s.Decided env call kind publication driverOperation)
    (h : concluded env s call kind publication driverOperation resolution = .ok (t, answer)) :
    t = s ∧ answer.outcome ≠ .completed ∨ Move env s t ∧ ∃ applied,
        t.publications.lookup call.publication = some { publication with
          terminal := some ⟨terminalFor call kind publication.identity applied, s.now⟩ } ∧
        answer = ⟨.completed, some (terminalFor call kind publication.identity
          applied).response⟩ := by
  cases kind with
  | inconclusive => cases h; exact Or.inl ⟨rfl, nofun⟩
  | candidate =>
    simp only [concluded] at h
    split at h
    · cases h; exact Or.inl ⟨rfl, nofun⟩
    rename_i sealing record hcandidate
    split at h
    swap
    · cases h
    rename_i hfrozen
    unfold candidateRecord at hcandidate
    split at hcandidate
    swap
    · cases hcandidate
    rename_i hsealing htarget
    obtain ⟨-, heq⟩ := Option.ite_none_right_eq_some.mp hcandidate
    cases heq
    obtain ⟨rfl, rfl⟩ := terminalise_ok h
    exact Or.inr ⟨.recovered hdecided hsealing htarget hfrozen, _, AList.lookup_insert _, rfl⟩
  | prior =>
    obtain ⟨rfl, rfl⟩ := terminalise_ok h
    exact Or.inr ⟨.released hdecided (Or.inl rfl), none, AList.lookup_insert _, rfl⟩
  | unstarted =>
    obtain ⟨rfl, rfl⟩ := terminalise_ok h
    exact Or.inr ⟨.released hdecided (Or.inr rfl), none, AList.lookup_insert _, rfl⟩

/-- A decision is refused without a change, or it is about one of the publication's
observations. -/
theorem finishRecovery_cases
    (h : finishRouteSetPublicationRecoveryProjectionV1 env s call = .ok (t, answer)) :
    t = s ∧ answer.outcome ≠ .completed ∨ Move env s t ∧ validDecision call = true ∧
        ∃ kind publication driverOperation applied,
          s.Decided env call kind publication driverOperation ∧
          t.publications.lookup call.publication = some { publication with
            terminal := some ⟨terminalFor call kind publication.identity applied, s.now⟩ } ∧
          answer =
            ⟨.completed, some (terminalFor call kind publication.identity applied).response⟩ := by
  unfold finishRouteSetPublicationRecoveryProjectionV1 at h
  split at h
  · cases h; exact Or.inl ⟨rfl, nofun⟩
  rename_i hvalid
  split at h
  · cases h; exact Or.inl ⟨rfl, nofun⟩
  rename_i publication hrow
  split at h
  case h_1 =>
    split at h
    · cases h; exact Or.inl ⟨rfl, nofun⟩
    · cases h; exact Or.inl ⟨rfl, nofun⟩
  case h_2 hunended =>
    split at h
    · cases h; exact Or.inl ⟨rfl, nofun⟩
    split at h
    swap
    · cases h; exact Or.inl ⟨rfl, nofun⟩
    rename_i kind decision resolution hkind hdecision hresolution
    split at h
    · cases h; exact Or.inl ⟨rfl, nofun⟩
    rename_i hdecides
    split at h
    · cases h; exact Or.inl ⟨rfl, nofun⟩
    split at h
    swap
    · cases h; exact Or.inl ⟨rfl, nofun⟩
    rename_i progress quarantinedAt driverOperation hstatus hsubject
    split at h
    · cases h; exact Or.inl ⟨rfl, nofun⟩
    rename_i hconsistent
    simp only [not_or, Bool.not_eq_true, Bool.not_eq_false,
      Option.isSome_eq_false_iff, Option.isNone_iff_eq_none] at hconsistent
    have hdecided : s.Decided env call kind publication driverOperation :=
      ⟨hrow, hunended, ⟨progress, quarantinedAt, hstatus⟩, hsubject,
        hconsistent.1, hconsistent.2.1, hkind, resolution, hresolution,
        Bool.not_eq_false _ ▸ hdecides⟩
    rcases concluded_cases hdecided h with
      hrefused | ⟨hmove, applied, hafter, hanswer⟩
    · exact Or.inl hrefused
    · exact Or.inr ⟨hmove, Bool.not_eq_false _ ▸ hvalid, kind, publication,
        driverOperation, applied, hdecided, hafter, hanswer⟩

theorem finishRecovery_effect
    (h : finishRouteSetPublicationRecoveryProjectionV1 env s call = .ok (t, answer)) :
    Effect env s t := by
  rcases finishRecovery_cases h with ⟨rfl, -⟩ | ⟨hmove, -⟩
  · exact .unchanged
  · exact .moved hmove

end

/-! ## Steps -/

/-- Every publication is a projection. -/
def OnlyProjections (s : PublicationState) : Prop :=
  ∀ id publication, s.publications.lookup id = some publication →
    ∃ driverOperation, publication.identity.subject = .projection driverOperation

theorem kindOf_of_onlyProjections (h : s.OnlyProjections) (id : Uuid) :
    s.kindOf (some id) = none ∧ s.publications.lookup id = none ∨
      ∃ publication driverOperation, s.publications.lookup id = some publication ∧
        publication.identity.subject = .projection driverOperation ∧
        s.kindOf (some id) = some .projection := by
  cases hrow : s.publications.lookup id with
  | none => exact Or.inl ⟨by simp [kindOf, hrow], rfl⟩
  | some publication =>
    obtain ⟨driverOperation, hsubject⟩ := h id publication hrow
    exact Or.inr ⟨publication, driverOperation, rfl, hsubject,
      by simp [kindOf, hrow, Publication.kind, hsubject, PublicationSubject.kind]⟩

theorem committed_effect {α : Type} {result : Except PublicationError (PublicationState × α)}
    (h : ∀ t answer, result = .ok (t, answer) → Effect env s t) :
    Effect env s (s.committed result) := by
  cases result with
  | error raised => exact .unchanged
  | ok result => exact h result.1 result.2 rfl

theorem committed_singleCall {α : Type} (result : Except PublicationError (PublicationState × α)) :
    s.committed (singleCall result) = s.committed result := by
  cases result with
  | error raised | ok result => rfl

theorem kindOf_not_isRecovery (h : s.OnlyProjections) (id : Uuid) :
    (s.kindOf (some id)).any PublicationKind.isRecovery = false := by
  rcases kindOf_of_onlyProjections h id with ⟨hnone, -⟩ | ⟨-, -, -, -, hprojection⟩
  · rw [hnone]
    rfl
  · rw [hprojection]
    rfl

theorem committed_finish (h : s.OnlyProjections) (lease : PublicationLease) :
    s.committed (finishRouteSetPublication env s (.complete lease)) =
      s.committed (finishRouteSetPublicationProjectionV1 env s lease) := by
  have hkind := kindOf_not_isRecovery h lease.publication
  unfold finishRouteSetPublication
  rw [if_neg (by rw [Arguments.publication, hkind]; decide)]
  exact committed_singleCall _

theorem finishRecovery_of_onlyProjections (h : s.OnlyProjections) (call : RecoveryFinishCall) :
    finishRouteSetPublicationRecovery env s (.complete call) =
      singleCall (finishRouteSetPublicationRecoveryProjectionV1 env s call) := by
  have hkind := kindOf_not_isRecovery h call.publication
  unfold finishRouteSetPublicationRecovery
  rw [if_neg (by rw [Arguments.publication, hkind]; decide)]
  rfl

theorem RowMove.identity {after : Publication} (h : RowMove env s id publication after) :
    after.identity = publication.identity := by
  cases h with
  | quarantined _ hchange => rcases hchange with rfl | rfl <;> rfl
  | _ => rfl

theorem Move.onlyProjections (h : Move env s t) (hs : s.OnlyProjections) :
    t.OnlyProjections := by
  intro id publication hpublication
  cases hrow : s.publications.lookup id with
  | none =>
    obtain ⟨call, route, applied, lease, -, -, -, rfl⟩ := h.new_row hrow hpublication
    exact ⟨call.receiptId, rfl⟩
  | some before =>
    obtain ⟨after, hafter, hmove⟩ := h.row hrow
    rw [hpublication] at hafter
    cases hafter
    rw [hmove.identity]
    exact hs id before hrow

/-- The claim of a live publication is its quarantine and a claim. -/
theorem Interruptible.moves (env : DatabaseEnvironment) (operationUntil : Timestamp)
    (hlive : s.Interruptible call.publication publication progress driverOperation)
    (hfree : publication.liveClaim s.now = none) :
    let interrupted := (s.quarantineAuthority publication.identity.workshop
      driverOperation).withPublication call.publication (publication.interrupted progress s.now)
    Move env s interrupted ∧ Move env interrupted (interrupted.withPublication call.publication
      ((publication.interrupted progress s.now).claimedBy call s.now operationUntil)) :=
  ⟨.quarantined hlive (Or.inr rfl), .claimed (AList.lookup_insert _) rfl hfree⟩

/-- What every move keeps or carries on is kept by every effect. -/
theorem Effect.induction {P : PublicationState → Prop} (hmove : ∀ s t, Move env s t → P s → P t)
    (h : Effect env s t) (hs : P s) : P t := by
  cases h with
  | unchanged => exact hs
  | moved hmoved => exact hmove s t hmoved hs
  | claimedLive hlive hfree =>
    obtain ⟨hfirst, hsecond⟩ := hlive.moves env _ hfree
    exact hmove _ _ hsecond (hmove _ _ hfirst hs)

theorem claimRecoveryKind_of_onlyProjections (h : s.OnlyProjections) (call : ClaimCall) :
    s.claimRecoveryKind (.complete call) = .ok (s, ⟨.invalid, none, none⟩) := by
  show s.claimInterruptedRecoveryRouteSetPublication call = _
  unfold claimInterruptedRecoveryRouteSetPublication
  split
  · rfl
  cases hrow : s.publications.lookup call.publication with
  | none => rfl
  | some publication =>
    obtain ⟨driverOperation, hsubject⟩ := h _ _ hrow
    simp [hsubject, PublicationSubject.effectRun]

/-- A projection is claimed by its own body, whose row comes first. -/
theorem claimInterruptedRouteSetPublication_of_onlyProjections (h : s.OnlyProjections)
    (hrow : s.publications.lookup call.publication = some publication) :
    s.claimInterruptedRouteSetPublication (.complete call) =
      (s.claimInterruptedRouteSetPublicationProjectionV1 call).map fun result =>
        (result.1, [result.2, ⟨.invalid, none, none⟩]) := by
  rcases kindOf_of_onlyProjections h call.publication with ⟨-, hnone⟩ | ⟨-, -, -, -, hkind⟩
  · rw [hnone] at hrow
    cases hrow
  refine (if_pos hkind).trans ?_
  show returnQuery (s.claimInterruptedRouteSetPublicationProjectionV1 call) _ = _
  cases hclaim : s.claimInterruptedRouteSetPublicationProjectionV1 call with
  | error raised => rfl
  | ok result =>
    obtain ⟨next, row⟩ := result
    have heffect : Effect ⟨fun _ => 0, fun _ => "", fun _ => 0⟩ s next := claim_effect hclaim
    have hnext := heffect.induction (fun _ _ hmove hs => hmove.onlyProjections hs) h
    exact returnQuery_two rfl (claimRecoveryKind_of_onlyProjections hnext call)

theorem committed_claim (h : s.OnlyProjections) (call : ClaimCall) :
    s.committed (s.claimInterruptedRouteSetPublication (.complete call)) =
      s.committed (s.claimInterruptedRouteSetPublicationProjectionV1 call) := by
  cases hrow : s.publications.lookup call.publication with
  | none =>
    have hkind : s.kindOf (some call.publication) = none := by simp [kindOf, hrow]
    have hbody : s.committed (s.claimInterruptedRouteSetPublicationProjectionV1 call) = s := by
      unfold claimInterruptedRouteSetPublicationProjectionV1
      rw [hrow]
      split <;> rfl
    unfold claimInterruptedRouteSetPublication
    rw [if_neg (by rw [Arguments.publication, hkind]; nofun), committed_singleCall,
      claimRecoveryKind_of_onlyProjections h, hbody]
    rfl
  | some publication =>
    rw [claimInterruptedRouteSetPublication_of_onlyProjections h hrow]
    cases s.claimInterruptedRouteSetPublicationProjectionV1 call with
    | error raised | ok result => rfl

theorem enqueue_effect {row : OperationRow} : Effect env s (s.enqueue id row) := by
  unfold enqueue
  split
  · exact .unchanged
  rename_i hfree
  refine .moved (.queue ⟨le_rfl, fun other before hbefore => ⟨before, ?_, .refl before⟩⟩)
  have hne : other ≠ id := by
    rintro rfl
    rw [hfree] at hbefore
    cases hbefore
  exact (AList.lookup_insert_ne hne).trans hbefore

theorem review_effect {operation : Uuid} {payload : Json} :
    Effect env s (s.review operation payload) := by
  refine .moved (.queue ⟨le_rfl, fun other before hbefore => ?_⟩)
  by_cases hother : other = operation
  · subst other
    refine ⟨{ before with payload }, ?_, rfl, rfl, rfl, le_rfl,
      fun _ lease hstate => ⟨lease, hstate, rfl⟩⟩
    show (s.queue.operations.modify operation _).lookup operation = _
    rw [lookup_modify_self, hbefore]
    rfl
  · exact ⟨before, (lookup_modify_of_ne hother).trans hbefore, .refl before⟩

theorem desire_effect {stored : StoredProjection} : Effect env s (s.desire workshop stored) := by
  unfold desire
  split
  case h_1 lease head hidle hlease hhead =>
    split
    case h_1 => exact .unchanged
    case h_2 => exact .unchanged
    all_goals
      simp only
      split
      · exact .unchanged
      · exact .moved (.desired hidle hhead)
  case h_2 => exact .unchanged

/-- Every step makes one of the listed changes. -/
theorem step_effect (h : s.OnlyProjections) {event : PublicationEvent}
    (hstep : step env s event = some t) : Effect env s t := by
  cases event with
  | admitPublication call =>
    cases hstep
    exact committed_effect fun _ _ => admitRouteSetPublication_effect
  | renew lease ttlSeconds =>
    cases hstep
    rcases renewRouteSetPublication_cases h with hnone | ⟨_, _, hauthorized, hsubject, hsome⟩
    · rw [hnone]
      exact .unchanged
    · rw [hsome]
      exact .moved (.renewed hauthorized hsubject)
  | recordPrior lease prior =>
    cases hstep
    exact committed_effect fun _ _ => recordPrior_effect
  | recordEntry lease workshop record =>
    cases hstep
    exact recordEntry_effect
  | sealRecords lease selector sealing =>
    cases hstep
    exact committed_effect fun _ _ => seal_effect
  | start lease =>
    cases hstep
    exact committed_effect fun _ _ => start_effect
  | observe lease observation directory =>
    cases hstep
    exact committed_effect fun _ _ => observe_effect
  | quarantine lease safeError =>
    cases hstep
    exact committed_effect fun _ _ => quarantine_effect
  | finish lease =>
    cases hstep
    rw [committed_finish h]
    exact committed_effect fun _ _ => finish_effect
  | claim call =>
    cases hstep
    rw [committed_claim h]
    exact committed_effect fun _ _ => claim_effect
  | renewClaim holder ttlSeconds =>
    cases hstep
    exact committed_effect fun _ _ => renewClaim_effect
  | readClaim holder =>
    cases hstep
    exact .unchanged
  | resolve call =>
    cases hstep
    exact committed_effect fun _ _ => resolve_effect
  | finishRecovery call =>
    cases hstep
    rw [finishRecovery_of_onlyProjections h, committed_singleCall]
    exact committed_effect fun _ _ => finishRecovery_effect
  | queue call =>
    obtain ⟨queue, hqueue, rfl⟩ := Option.map_eq_some_iff.mp hstep
    exact .moved (.queue ⟨(QueueState.step_rows hqueue).1,
      fun _ _ hrow => QueueState.step_later hqueue hrow⟩)
  | enqueue id kind workshop payload =>
    cases hstep
    exact enqueue_effect
  | review operation payload =>
    cases hstep
    exact review_effect
  | desire workshop stored =>
    cases hstep
    exact desire_effect

end PublicationState

end ControlPlane.Publications
