/-
# When an interrupted publication can be claimed

A claim checks the operation behind the publication again: its row has to be in flight
under the attempt and the owner that were recorded at admission, with the lease run out.
The queue does not wait for that. A worker takes an expired row over with the next
attempt, and a driver request that failed is finished, which ends the attempt; both make
the check fail, and attempts never come back. So an interrupted publication can be claimed
exactly as long as the queue has left its operation alone.
-/

import ControlPlane.Publications.Decisions

namespace ControlPlane.Publications

open Domain Driver Math Persistence
open Routes

namespace PublicationState

variable {env : DatabaseEnvironment} {s t u : PublicationState} {id : Uuid}
  {publication after : Publication} {identity : PublicationIdentity}

/-! ## The operation behind a publication -/

/-- The row of the operation has the columns it was admitted with, and has reached the
recorded attempt. -/
structure Upstream (s : PublicationState) (identity : PublicationIdentity) : Prop where
  row : ∃ row, s.queue.operations.lookup identity.controlOperation.id = some row ∧
    row.workshopId = some identity.workshop ∧
    RouteState.routeOperation row.kind row.queue = true ∧
    identity.controlOperation.attempt ≤ row.attempt

theorem Upstream.later (h : s.Upstream identity) (hqueue : QueueLater s.queue t.queue) :
    t.Upstream identity := by
  obtain ⟨row, hrow, hworkshop, hkind, hattempt⟩ := h.row
  obtain ⟨later, hlater, hrows⟩ := hqueue.rows _ _ hrow
  refine ⟨later, hlater, hrows.workshopId.trans hworkshop, ?_, hattempt.trans hrows.attempt⟩
  rw [hrows.kind, hrows.queue]
  exact hkind

theorem QueueLater.refl (queue : QueueState) : QueueLater queue queue :=
  ⟨le_rfl, fun _ row hrow => ⟨row, hrow, .refl row⟩⟩

theorem Move.queueLater (h : Move env s t) : QueueLater s.queue t.queue := by
  cases h with
  | queue hlater => exact hlater
  | _ => exact .refl _

theorem upstream_of_callerCurrent {call : AdmitPublicationCall} {route : DesiredRoute}
    {applied : AppliedHead} {routeFence : Nat} (h : s.callerCurrent call = true) :
    s.Upstream (s.newIdentity call route applied routeFence) := by
  obtain ⟨row, hrow, hcurrent⟩ := (Option.any_eq_true _ _).mp h
  simp only [Bool.and_eq_true, decide_eq_true_eq] at hcurrent
  obtain ⟨⟨hworkshop, hheld⟩, hkind⟩ := hcurrent
  obtain ⟨-, -, -, hattempt, -⟩ := OperationRow.heldBy_iff.mp hheld
  exact ⟨row, hrow, hworkshop, hkind, hattempt.ge⟩

/-- Every publication has its operation. -/
def UpstreamKept (s : PublicationState) : Prop :=
  ∀ id publication, s.publications.lookup id = some publication → s.Upstream publication.identity

theorem Move.upstreamKept (h : Move env s t) (hs : s.UpstreamKept) : t.UpstreamKept := by
  intro id publication hrow
  cases hbefore : s.publications.lookup id with
  | none =>
    obtain ⟨call, route, applied, lease, hadmissible, rfl, -, rfl⟩ := h.new_row hbefore hrow
    exact (upstream_of_callerCurrent hadmissible.caller).later (.refl _)
  | some before =>
    obtain ⟨found, hfound, hmove⟩ := h.row hbefore
    rw [hrow] at hfound
    cases hfound
    rw [hmove.identity]
    exact (hs id before hbefore).later h.queueLater

/-- The recorded attempt is still the one in flight. -/
def UpstreamInFlight (s : PublicationState) (identity : PublicationIdentity) : Prop :=
  ∃ row, s.queue.operations.lookup identity.controlOperation.id = some row ∧
    recordedFor row identity.controlOperation = true

theorem Upstream.recorded_iff (h : s.Upstream identity) :
    s.upstreamRecorded identity = true ↔ s.UpstreamInFlight identity := by
  obtain ⟨row, hrow, hworkshop, hkind, -⟩ := h.row
  unfold upstreamRecorded UpstreamInFlight
  rw [hrow]
  simp [hworkshop, hkind]

theorem recordedFor_iff {row : OperationRow} {operation : ControlOperationLease} :
    recordedFor row operation = true ↔ ∃ lease, row.state = .inFlight lease ∧
      row.attempt = operation.attempt ∧ lease.leasedBy = operation.owner := by
  unfold recordedFor
  cases hstate : row.state <;> simp

/-- An attempt that the queue has ended does not come back. -/
theorem Upstream.inFlight_before (h : s.Upstream identity) (hqueue : QueueLater s.queue t.queue)
    (hinFlight : t.UpstreamInFlight identity) : s.UpstreamInFlight identity := by
  obtain ⟨row, hrow, -, -, hattempt⟩ := h.row
  obtain ⟨later, hlater, hrows⟩ := hqueue.rows _ _ hrow
  obtain ⟨found, hfound, hrecorded⟩ := hinFlight
  rw [hlater] at hfound
  cases hfound
  obtain ⟨lease, hstate, hsame, howner⟩ := recordedFor_iff.mp hrecorded
  have hreached := hrows.attempt
  have hequal : later.attempt = row.attempt := by omega
  obtain ⟨earlier, hearlier, howners⟩ := hrows.owner hequal lease hstate
  exact ⟨row, hrow, recordedFor_iff.mpr ⟨earlier, hearlier, by omega, howners.trans howner⟩⟩

/-! ## The triggers allow a claim -/

theorem kept_self {α : Type} [DecidableEq α] (value : Option α) : kept value value = true := by
  simp [kept]

variable {call : ClaimCall} {operationUntil quarantinedAt : Timestamp} {progress : Progress}
  {driverOperation : Uuid} {events : List PublicationEvent}

theorem mayUpdate_of_claimedBy (hstatus : publication.status = .quarantined progress quarantinedAt)
    (hunended : publication.terminal = none) (hobserved : observationExact id publication = true) :
    s.mayUpdate id publication (publication.claimedBy call s.now operationUntil) = true := by
  have hobserved' : observationExact id (publication.claimedBy call s.now operationUntil) = true :=
    hobserved
  have heligible : kept publication.recoveryEligibleAt
      (some (publication.recoveryEligibleAt.getD s.now)) = true := by
    cases publication.recoveryEligibleAt <;> simp [kept]
  simp only [mayUpdate, hobserved', Bool.and_true]
  simp [evidenceKept, Publication.claimedBy, hstatus, phaseMayChange, kept_self, completionExact,
    eligibilityKept, heligible, terminalExact, hunended]

theorem mayUpdate_of_interrupted {now : Timestamp} (hstatus : publication.status = .active progress)
    (horder : ClaimOrder publication) (hobserved : observationExact id publication = true) :
    s.mayUpdate id publication (publication.interrupted progress now) = true := by
  obtain ⟨-, hunended, hineligible, hunwritten⟩ := horder.live progress hstatus
  have hobserved' : observationExact id (publication.interrupted progress now) = true := by
    unfold observationExact at hobserved ⊢
    rw [hstatus] at hobserved
    exact hobserved
  simp only [mayUpdate, hobserved', Bool.and_true]
  simp [evidenceKept, Publication.interrupted, hstatus, phaseMayChange, Status.progress,
    Status.finished, Status.interruption, completionExact, eligibilityKept, hineligible,
    hunwritten, terminalExact, hunended, kept]

/-! ## Claims of interrupted publications -/

/-- Every lease of the publication has run out or is in quarantine. -/
structure LeasesOver (s : PublicationState) (id : Uuid) (publication : Publication) : Prop where
  upstream : ∀ row, s.queue.operations.lookup publication.identity.controlOperation.id = some row →
    row.heldBy s.now publication.identity.controlOperation.owner
      publication.identity.controlOperation.attempt = false
  fleet : expiredOrGone s.now (s.fleetHeldUntil (publication.identity.lease id)) = true
  route : expiredOrGone s.now
    (s.routeHeldUntil publication.identity (publication.identity.lease id)) = true
  receipt : ∀ driverOperation, publication.identity.subject = .projection driverOperation →
    expiredOrGone s.now ((s.receipts.lookup driverOperation).bind fun receipt =>
      executingUntil receipt publication.identity.executionToken) = true

/-- An operation that works on the recovery of this publication with a live lease, and
finds no other claim. -/
structure CanClaim (s : PublicationState) (call : ClaimCall) (publication : Publication) :
    Prop where
  valid : call.valid = true
  operation : (s.reconciliationUntil call.publication publication.identity.workshop
    call.operation).isSome = true
  free : publication.liveClaim s.now = none

theorem grantClaim_eq (hstatus : publication.status = .quarantined progress quarantinedAt)
    (hunended : publication.terminal = none)
    (hobserved : observationExact call.publication publication = true) :
    s.grantClaim call publication operationUntil =
      .ok (s.withPublication call.publication (publication.claimedBy call s.now operationUntil),
        ⟨.acquired, some (publication.claimFence + 1), some publication.claimMode⟩) := by
  have hallowed : s.mayUpdate call.publication publication
      (publication.claimedBy call s.now operationUntil) = true :=
    mayUpdate_of_claimedBy hstatus hunended hobserved
  simp only [grantClaim, updatePublication, hallowed, if_true]
  rfl

/-- A valid call of an operation other than the publication's own gets as far as the
check of the authority. -/
theorem claim_eq_claimFree (hmode : s.mode = .generationV1)
    (hrow : s.publications.lookup call.publication = some publication)
    (hunfinished : publication.unfinished = true)
    (hsubject : publication.identity.subject = .projection driverOperation)
    (hvalid : call.valid = true) (hfree : publication.liveClaim s.now = none)
    (hother : call.operation.id ≠ publication.identity.controlOperation.id)
    (huntil : s.reconciliationUntil call.publication publication.identity.workshop
      call.operation = some operationUntil) :
    s.claimInterruptedRouteSetPublicationProjectionV1 call =
      s.claimFree call publication driverOperation operationUntil := by
  have hnotFinished : publication.status.finished = none := by
    unfold Publication.unfinished at hunfinished
    cases hstatus : publication.status with
    | completed _ _ =>
      rw [hstatus] at hunfinished
      cases hunfinished
    | active _ | quarantined _ _ => rfl
  simp [claimInterruptedRouteSetPublicationProjectionV1, hvalid, hrow, hmode, hnotFinished,
    hsubject, hother, huntil, hfree]

/-- The expired leases of a live publication whose attempt is still recorded. -/
theorem allExpired_of_leasesOver (hheld : s.Held id publication.identity)
    (hsubject : publication.identity.subject = .projection driverOperation)
    (hover : s.LeasesOver id publication) (hinFlight : s.UpstreamInFlight publication.identity) :
    s.allExpired id publication.identity driverOperation = true := by
  obtain ⟨row, hrow, hrecorded⟩ := hinFlight
  obtain ⟨lease, hstate, hattempt, howner⟩ := recordedFor_iff.mp hrecorded
  have hupstream : lease.expiresAt ≤ s.now := by
    have hover' := hover.upstream row hrow
    by_contra hlive
    rw [OperationRow.heldBy_iff.mpr ⟨lease, hstate, howner, hattempt, not_le.mp hlive⟩] at hover'
    cases hover'
  have hexpired : ∀ {expiresAt : Option Timestamp}, expiresAt.isSome = true →
      expiredOrGone s.now expiresAt = true → hasExpired s.now expiresAt = true := by
    intro expiresAt hsome hgone
    obtain ⟨value, rfl⟩ := Option.isSome_iff_exists.mp hsome
    exact hgone
  obtain ⟨fleetUntil, hfleet⟩ := hheld.fleet
  obtain ⟨routeLease, routeUntil, hroute⟩ := hheld.route
  obtain ⟨operation, receipt, receiptUntil, hoperation, hreceipt, -, hworking, -, hexecution⟩ :=
    hheld.receipt
  rw [hsubject] at hoperation
  cases hoperation
  have hfleetUntil : s.fleetHeldUntil (publication.identity.lease id) = some fleetUntil :=
    fleetHeldUntil_eq_some_iff.mpr hfleet
  have hrouteUntil : s.routeHeldUntil publication.identity (publication.identity.lease id) =
      some routeUntil := routeHeldUntil_eq_some_iff.mpr ⟨routeLease, hroute⟩
  have hreceiptUntil : ((s.receipts.lookup driverOperation).bind fun receipt =>
      executingUntil receipt publication.identity.executionToken) = some receiptUntil := by
    simp [hreceipt, executingUntil, hworking, hexecution]
  simp only [allExpired, Bool.and_eq_true]
  refine ⟨⟨⟨?_, ?_⟩, ?_⟩, ?_⟩
  · simp [hrow, leaseEnd, hstate, hasExpired, hupstream]
  · exact hexpired (by rw [hreceiptUntil]; rfl) (hover.receipt _ hsubject)
  · exact hexpired (by rw [hfleetUntil]; rfl) hover.fleet
  · exact hexpired (by rw [hrouteUntil]; rfl) hover.route

/-- The tables of a live publication are consistent as far as the attempt is recorded. -/
theorem Held.liveConsistent_eq (h : s.Held id identity)
    (hsubject : identity.subject = .projection driverOperation) :
    s.liveConsistent id identity driverOperation = s.upstreamRecorded identity := by
  obtain ⟨fleetUntil, hfleet⟩ := h.fleet
  obtain ⟨routeLease, routeUntil, hroute⟩ := h.route
  obtain ⟨operation, receipt, receiptUntil, hoperation, hreceipt, hbound, hworking, herror,
    hexecution⟩ := h.receipt
  rw [hsubject] at hoperation
  cases hoperation
  have hfleetUntil : s.fleetHeldUntil (identity.lease id) = some fleetUntil :=
    fleetHeldUntil_eq_some_iff.mpr hfleet
  have hrouteUntil : s.routeHeldUntil identity (identity.lease id) = some routeUntil :=
    routeHeldUntil_eq_some_iff.mpr ⟨routeLease, hroute⟩
  simp [liveConsistent, hfleetUntil, hrouteUntil, hreceipt, hbound, herror, executingUntil,
    hworking, hexecution]

theorem Quarantined.consistent_eq (h : s.Quarantined id identity)
    (hsubject : identity.subject = .projection driverOperation) :
    s.quarantineConsistent id identity driverOperation = s.upstreamRecorded identity := by
  obtain ⟨operation, receipt, hoperation, hreceipt, hunknown, hbound⟩ := h.receipt
  rw [hsubject] at hoperation
  cases hoperation
  simp [quarantineConsistent, h.fleet, h.route, hreceipt, hunknown, hbound]

/-- The publication's own operation, taken over under a later attempt, cannot claim it. -/
theorem not_inFlight_of_own_operation (hover : s.LeasesOver id publication)
    (huntil : (s.reconciliationUntil call.publication publication.identity.workshop
      call.operation).isSome = true)
    (hown : call.operation.id = publication.identity.controlOperation.id) :
    ¬ s.UpstreamInFlight publication.identity := by
  rintro ⟨row, hrow, hrecorded⟩
  obtain ⟨lease, hstate, hattempt, howner⟩ := recordedFor_iff.mp hrecorded
  have hover' := hover.upstream row hrow
  unfold reconciliationUntil at huntil
  rw [hown, hrow] at huntil
  simp only at huntil
  split at huntil
  swap
  · cases huntil
  rename_i hoperation
  obtain ⟨live, hlive, -, -, hexpires⟩ := OperationRow.heldBy_iff.mp hoperation.2.2.2.1
  rw [hstate] at hlive
  cases hlive
  rw [OperationRow.heldBy_iff.mpr ⟨lease, hstate, howner, hattempt, hexpires⟩] at hover'
  cases hover'

/-- The body for projections hands a claim out exactly when the recorded attempt is still
in flight. -/
theorem claim_acquired_iff (hinv : Inv env s) (hkept : s.UpstreamKept)
    (hrow : s.publications.lookup call.publication = some publication)
    (hunfinished : publication.unfinished = true)
    (hover : s.LeasesOver call.publication publication) (hcan : s.CanClaim call publication) :
    (∃ t fence mode, s.claimInterruptedRouteSetPublicationProjectionV1 call =
      .ok (t, ⟨.acquired, fence, mode⟩)) ↔ s.UpstreamInFlight publication.identity := by
  obtain ⟨driverOperation, hsubject⟩ := (hinv.evidence _ _ hrow).projection
  have hobserved := (hinv.evidence _ _ hrow).observed
  have hrecorded := (hkept _ _ hrow).recorded_iff
  by_cases hown : call.operation.id = publication.identity.controlOperation.id
  · refine ⟨?_, fun hinFlight =>
      absurd hinFlight (not_inFlight_of_own_operation hover hcan.operation hown)⟩
    rintro ⟨t, fence, mode, hclaim⟩
    simp [claimInterruptedRouteSetPublicationProjectionV1, hcan.valid, hrow, hinv.mode, hsubject,
      hown] at hclaim
    split at hclaim <;> simp at hclaim
  · obtain ⟨operationUntil, huntil⟩ := Option.isSome_iff_exists.mp hcan.operation
    rw [claim_eq_claimFree hinv.mode hrow hunfinished hsubject hcan.valid hcan.free hown huntil]
    cases hinv.holds hrow (hinv.named _ _ hrow hunfinished) with
    | @live progress hstatus _ hheld =>
      rw [claimFree, hstatus]
      simp only [hheld.liveConsistent_eq hsubject]
      constructor
      · rintro ⟨t, fence, mode, hclaim⟩
        rw [← hrecorded]
        by_contra hlost
        rw [if_pos (Bool.eq_false_iff.mpr hlost)] at hclaim
        cases hclaim
      · intro hinFlight
        have hinterrupted := hinv.claims _ _ hrow
        have hallowed : (s.quarantineAuthority publication.identity.workshop
            driverOperation).mayUpdate call.publication publication
              (publication.interrupted progress s.now) = true :=
          mayUpdate_of_interrupted hstatus hinterrupted hobserved
        have hexact : observationExact call.publication
            (publication.interrupted progress s.now) = true := by
          unfold observationExact at hobserved ⊢
          rw [hstatus] at hobserved
          exact hobserved
        rw [if_neg (by rw [hrecorded.mpr hinFlight]; decide),
          if_neg (by rw [allExpired_of_leasesOver hheld hsubject hover hinFlight]; decide),
          updatePublication, if_pos hallowed]
        exact ⟨_, _, _, grantClaim_eq rfl (hinterrupted.live progress hstatus).2.1 hexact⟩
    | interrupted hstatus hunended _ hquarantined =>
      rw [claimFree, hstatus]
      simp only [hquarantined.consistent_eq hsubject]
      constructor
      · rintro ⟨t, fence, mode, hclaim⟩
        rw [← hrecorded]
        by_contra hlost
        rw [if_pos (Bool.eq_false_iff.mpr hlost)] at hclaim
        cases hclaim
      · intro hinFlight
        rw [if_neg (by rw [hrecorded.mpr hinFlight]; decide)]
        exact ⟨_, _, _, grantClaim_eq hstatus hunended hobserved⟩

/-! ## Whole histories -/

/-- The dispatching function hands a claim out when the body for projections does. -/
theorem dispatch_acquired_iff (h : s.OnlyProjections)
    (hrow : s.publications.lookup call.publication = some publication) :
    (∃ t fence mode rest, s.claimInterruptedRouteSetPublication (.complete call) =
      .ok (t, ⟨.acquired, fence, mode⟩ :: rest)) ↔
      ∃ t fence mode, s.claimInterruptedRouteSetPublicationProjectionV1 call =
        .ok (t, ⟨.acquired, fence, mode⟩) := by
  rw [claimInterruptedRouteSetPublication_of_onlyProjections h hrow]
  cases s.claimInterruptedRouteSetPublicationProjectionV1 call with
  | error raised =>
    constructor
    · rintro ⟨t, fence, mode, rest, heq⟩
      cases heq
    · rintro ⟨t, fence, mode, heq⟩
      cases heq
  | ok result =>
    obtain ⟨next, row⟩ := result
    constructor
    · rintro ⟨t, fence, mode, rest, heq⟩
      cases heq
      exact ⟨_, _, _, rfl⟩
    · rintro ⟨t, fence, mode, heq⟩
      cases heq
      exact ⟨_, _, _, _, rfl⟩

theorem upstreamKept_of_run (hinitial : s.Initial) (hrun : Run (step env) s events t) :
    t.UpstreamKept := by
  have hstart : Inv env s ∧ s.UpstreamKept :=
    ⟨inv_of_initial hinitial, fun id publication hrow => by
      rw [hinitial.noPublication] at hrow
      cases hrow⟩
  refine (hrun.invariant (P := fun s => Inv env s ∧ s.UpstreamKept) ?_ hstart).2
  intro before event after hbefore _ hstep
  exact ⟨step_inv hstep hbefore.1, (step_effect hbefore.1.onlyProjections hstep).induction
    (fun _ _ hmove hs => hmove.upstreamKept hs) hbefore.2⟩

/-- Along a history a publication stays, with its identity, and its lost attempt stays
lost. -/
structure LostFrom (id : Uuid) (identity : PublicationIdentity) (s : PublicationState) :
    Prop where
  row : ∃ publication, s.publications.lookup id = some publication ∧ publication.identity = identity
  lost : ¬ s.UpstreamInFlight identity

theorem Move.lostFrom (h : Move env s t) (hkept : s.UpstreamKept)
    (hlost : LostFrom id identity s) : LostFrom id identity t := by
  obtain ⟨publication, hrow, rfl⟩ := hlost.row
  obtain ⟨after, hafter, hmove⟩ := h.row hrow
  refine ⟨⟨after, hafter, hmove.identity⟩, fun hinFlight => hlost.lost ?_⟩
  exact (hkept id publication hrow).inFlight_before h.queueLater hinFlight

theorem lostFrom_of_run (hinv : Inv env s) (hkept : s.UpstreamKept) (hlost : LostFrom id identity s)
    (hrun : Run (step env) s events t) : Inv env t ∧ t.UpstreamKept ∧ LostFrom id identity t := by
  refine hrun.invariant
    (P := fun s => Inv env s ∧ s.UpstreamKept ∧ LostFrom id identity s) ?_ ⟨hinv, hkept, hlost⟩
  rintro before event after ⟨hinv, hkept, hlost⟩ - hstep
  have heffect := step_effect hinv.onlyProjections hstep
  exact ⟨step_inv hstep hinv, heffect.induction
    (P := fun s => s.UpstreamKept ∧ LostFrom id identity s)
    (fun _ _ hmove hs => ⟨hmove.upstreamKept hs.1, hmove.lostFrom hs.1 hs.2⟩) ⟨hkept, hlost⟩⟩

/-- No call gets a claim of this publication any more, in any later state. -/
def Unrecoverable (env : DatabaseEnvironment) (s : PublicationState) (id : Uuid) : Prop :=
  ∀ events t, Run (step env) s events t → ∀ call : ClaimCall, call.publication = id →
    ¬ ∃ u fence mode rest, t.claimInterruptedRouteSetPublication (.complete call) =
      .ok (u, ⟨.acquired, fence, mode⟩ :: rest)

theorem unrecoverable_of_lost (hinv : Inv env s) (hkept : s.UpstreamKept)
    (hlost : LostFrom id identity s) : Unrecoverable env s id := by
  rintro events t hrun call rfl hacquired
  obtain ⟨hinv', hkept', hlost'⟩ := lostFrom_of_run hinv hkept hlost hrun
  obtain ⟨publication, hrow, rfl⟩ := hlost'.row
  obtain ⟨u, fence, mode, hclaim⟩ := (dispatch_acquired_iff hinv'.onlyProjections hrow).mp hacquired
  exact hlost'.lost ((hkept' _ _ hrow).recorded_iff.mp (claim_of_acquired hrow hclaim).1)

/-- **An interrupted publication can be claimed exactly as long as its recorded attempt is
in flight.** In every history, take an unfinished projection whose leases have all run out
or are in quarantine, and a reconciliation operation with a live lease that names it while
no claim is live. The operation gets a claim if and only if the publication's own
operation is still in flight under the recorded attempt and owner; otherwise nobody will
get one again. -/
theorem recoverable_iff_inFlight {events : List PublicationEvent} (hinitial : s.Initial)
    (hrun : Run (step env) s events t) {call : ClaimCall}
    (hrow : t.publications.lookup call.publication = some publication)
    (hunfinished : publication.unfinished = true)
    (hover : t.LeasesOver call.publication publication) (hcan : t.CanClaim call publication) :
    ((∃ u fence mode rest, t.claimInterruptedRouteSetPublication (.complete call) =
        .ok (u, ⟨.acquired, fence, mode⟩ :: rest)) ↔ t.UpstreamInFlight publication.identity) ∧
      (¬ t.UpstreamInFlight publication.identity → Unrecoverable env t call.publication) := by
  have hinv := inv_of_run hinitial hrun
  have hkept := upstreamKept_of_run hinitial hrun
  constructor
  · rw [dispatch_acquired_iff hinv.onlyProjections hrow]
    exact claim_acquired_iff hinv hkept hrow hunfinished hover hcan
  · intro hlost
    exact unrecoverable_of_lost hinv hkept ⟨⟨publication, hrow, rfl⟩, hlost⟩

/-! ## A publication whose operation is taken over -/

/-- The driver goes away after the admission, and every lease runs out. -/
def abandoned : List PublicationEvent :=
  [.admitPublication publishCall, .queue (.advance (seconds 61))]

/-- Then another worker takes the operation over, as the queue does with expired rows. -/
def takenOver : List PublicationEvent :=
  abandoned ++ [.queue (.lease .tenantProvisioning "worker-d" fun _ => false)]

def recoveryClaim : ClaimCall := ⟨9, ⟨4, 1, "worker-b"⟩, 30, 31, 60⟩

/-- What the theorem requires of the publication and the claim, and whether the recorded
attempt is in flight. -/
def interruptedWith (inFlight : Bool) (t : PublicationState) : Bool :=
  (t.publications.lookup 9).any fun publication =>
    let identity := publication.identity
    publication.unfinished && decide (identity.subject = .projection 8) &&
      ((t.queue.operations.lookup identity.controlOperation.id).all fun row =>
        !row.heldBy t.now identity.controlOperation.owner identity.controlOperation.attempt) &&
      expiredOrGone t.now (t.fleetHeldUntil (identity.lease 9)) &&
      expiredOrGone t.now (t.routeHeldUntil identity (identity.lease 9)) &&
      expiredOrGone t.now ((t.receipts.lookup 8).bind fun receipt =>
        executingUntil receipt identity.executionToken) &&
      (t.reconciliationUntil 9 identity.workshop recoveryClaim.operation).isSome &&
      (publication.liveClaim t.now).isNone &&
      (((t.queue.operations.lookup identity.controlOperation.id).any fun row =>
        recordedFor row identity.controlOperation) == inFlight)

theorem of_interruptedWith {inFlight : Bool} (h : t.interruptedWith inFlight = true) :
    ∃ publication, t.publications.lookup 9 = some publication ∧ publication.unfinished = true ∧
      t.LeasesOver 9 publication ∧ t.CanClaim recoveryClaim publication ∧
      (t.UpstreamInFlight publication.identity ↔ inFlight = true) := by
  obtain ⟨publication, hrow, hchecked⟩ := (Option.any_eq_true _ _).mp h
  simp only [Bool.and_eq_true, decide_eq_true_eq, beq_iff_eq, Option.isNone_iff_eq_none] at hchecked
  obtain ⟨⟨⟨⟨⟨⟨⟨⟨hunfinished, hsubject⟩, hupstream⟩, hfleet⟩, hroute⟩, hreceipt⟩, hoperation⟩,
    hfree⟩, hinFlight⟩ := hchecked
  refine ⟨publication, hrow, hunfinished, ⟨?_, hfleet, hroute, ?_⟩,
    ⟨by decide, hoperation, hfree⟩, ?_⟩
  · intro row hlookup
    rw [hlookup] at hupstream
    exact Bool.not_eq_true' _ ▸ hupstream
  · intro driverOperation hdriver
    rw [hsubject] at hdriver
    cases hdriver
    exact hreceipt
  · rw [← hinFlight]
    exact (Option.any_eq_true _ _).symm

theorem abandoned_interrupted :
    (replay (step zeroHash) beforePublication abandoned).any (interruptedWith true) = true := by
  decide +kernel

theorem takenOver_interrupted :
    (replay (step zeroHash) beforePublication takenOver).any (interruptedWith false) = true := by
  decide +kernel

/-- Before the queue goes on, the abandoned publication can be claimed. -/
theorem recoverable_iff_inFlight_abandoned : ∃ t publication,
    Run (step zeroHash) beforePublication abandoned t ∧ t.publications.lookup 9 = some publication ∧
      ((∃ u fence mode rest, t.claimInterruptedRouteSetPublication (.complete recoveryClaim) =
        .ok (u, ⟨.acquired, fence, mode⟩ :: rest)) ↔ t.UpstreamInFlight publication.identity) ∧
      t.UpstreamInFlight publication.identity := by
  obtain ⟨t, hreplay, hchecked⟩ := (Option.any_eq_true _ _).mp abandoned_interrupted
  obtain ⟨publication, hrow, hunfinished, hover, hcan, hinFlight⟩ := of_interruptedWith hchecked
  have hrun := run_of_replay hreplay
  exact ⟨t, publication, hrun, hrow, (recoverable_iff_inFlight beforePublication_initial hrun hrow
    hunfinished hover hcan).1, hinFlight.mpr rfl⟩

/-- After one lease of the queue nobody can claim the publication any more. -/
theorem takenOver_unrecoverable : ∃ t publication,
    beforePublication.Initial ∧ Run (step zeroHash) beforePublication takenOver t ∧
      t.publications.lookup 9 = some publication ∧ publication.unfinished = true ∧
      t.LeasesOver 9 publication ∧ t.CanClaim recoveryClaim publication ∧
      Unrecoverable zeroHash t 9 := by
  obtain ⟨t, hreplay, hchecked⟩ := (Option.any_eq_true _ _).mp takenOver_interrupted
  obtain ⟨publication, hrow, hunfinished, hover, hcan, hinFlight⟩ := of_interruptedWith hchecked
  have hrun := run_of_replay hreplay
  refine ⟨t, publication, beforePublication_initial, hrun, hrow, hunfinished, hover, hcan, ?_⟩
  refine unrecoverable_of_lost (inv_of_run beforePublication_initial hrun)
    (upstreamKept_of_run beforePublication_initial hrun) ⟨⟨publication, hrow, rfl⟩, ?_⟩
  rw [hinFlight]
  decide

/-! ## One publication at a time -/

/-- An unfinished publication, live or interrupted, is the only one; the heads are those of
its snapshot, and the leases and the receipt are its own. -/
theorem unfinished_holds_fleet {events : List PublicationEvent} (hinitial : s.Initial)
    (hrun : Run (step env) s events t) {id : Uuid}
    (hrow : t.publications.lookup id = some publication)
    (hunfinished : publication.unfinished = true) :
    t.Holds id publication ∧ ∀ other found, t.publications.lookup other = some found →
      found.unfinished = true → other = id := by
  have hinv : Inv env t := inv_of_run hinitial hrun
  have hnamed := hinv.named id publication hrow hunfinished
  refine ⟨hinv.holds hrow hnamed, fun other found hother hopen => ?_⟩
  exact Option.some.inj ((hinv.named other found hother hopen).symm.trans hnamed)

theorem unfinished_holds_fleet_abandoned : ∃ t publication,
    Run (step zeroHash) beforePublication abandoned t ∧
      t.publications.lookup 9 = some publication ∧ t.Holds 9 publication := by
  obtain ⟨t, hreplay, hchecked⟩ := (Option.any_eq_true _ _).mp abandoned_interrupted
  obtain ⟨publication, hrow, hunfinished, -⟩ := of_interruptedWith hchecked
  have hrun := run_of_replay hreplay
  exact ⟨t, publication, hrun, hrow,
    (unfinished_holds_fleet beforePublication_initial hrun hrow hunfinished).1⟩

end PublicationState

end ControlPlane.Publications
