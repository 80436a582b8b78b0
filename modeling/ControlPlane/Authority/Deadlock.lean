/-
# Cyclic waits among the route authority's functions

The functions do not share one order of locks. The maintenance functions that end an
entry or an exit lock the effect run before the route lease, while the renewal of the
same authority locks the lease before the run. The functions of a startup rebuild differ
in the same way, and the recovery of a release locks an operation before the protocol
state, which every admission locks first. Two of them that meet on the same rows wait for
each other.

Three further functions lock against the order without harm: they hold the lease of the
shared runtime before, and so does every function that locks the same rows the other way.
-/

import ControlPlane.Authority.Procedures

namespace ControlPlane.Authority

open Domain Math ControlPlane.Authority.Path

/-! ## Functions that keep an order -/

/-- The functions that lock the tables in one order, and the rows of a table in the order
of their keys. -/
def Procedure.inOrder : Procedure → Bool
  | .finishWorkshopRouteMaintenanceEntry
  | .claimWorkshopRouteMaintenanceExit
  | .finishWorkshopRouteMaintenanceExit
  | .initializeStartupRouteProjection
  | .finishStartupRouteRebuild
  | .finishStartupRouteRebuildV2 false
  | .recordStagedStartupRoutePrior
  | .beginStagedStartupRoutePublication
  | .finishStagedStartupRoutePublication
  | .claimInterruptedStartupRoutePublication
  | .finishInterruptedStartupRoutePublication
  | .admitReleaseDriverOperation
  | .claimInterruptedImmutableReleaseRoutePublication
  | .renewInterruptedImmutableReleaseRoutePublicationClaim
  | .readInterruptedImmutableReleaseRouteSnapshotBatch
  | .readInterruptedImmutableReleaseRuntimeExpectation
  | .recordInterruptedImmutableReleaseRouteCandidateEntry
  | .sealInterruptedImmutableReleaseRouteCandidate
  | .authorizeInterruptedImmutableReleaseRouteExchange
  | .authorizeInterruptedImmutableReleaseRouteCandidateFromObservation
  | .recordInterruptedImmutableReleaseRuntimeObservation
  | .resolveInterruptedImmutableReleaseRoutePublication
  | .reviewInterruptedImmutableReleaseRuntimeObservation
  | .finishInterruptedImmutableReleaseRoutePublication
  | .finishReviewedInterruptedImmutableReleaseRoutePublication => false
  | _ => true

/-- The functions that lock in one order, or against it only under the lease of the shared
runtime. -/
def Procedure.safe : Procedure → Bool
  | .claimWorkshopRouteMaintenanceExit
  | .claimInterruptedStartupRoutePublication
  | .finishInterruptedStartupRoutePublication
  | .admitReleaseDriverOperation => true
  | procedure => procedure.inOrder

theorem kept_byTable_of_inOrder (procedure : Procedure) :
    procedure.inOrder = true → (lockPaths procedure).all LockOrder.byTable.kept = true := by
  cases procedure with
  | finishStartupRouteRebuildV2 succeeded => cases succeeded <;> decide +kernel
  | _ => decide +kernel

theorem kept_underFleetLease_of_safe (procedure : Procedure) :
    procedure.safe = true → (lockPaths procedure).all LockOrder.underFleetLease.kept = true := by
  cases procedure with
  | finishStartupRouteRebuildV2 succeeded => cases succeeded <;> decide +kernel
  | _ => decide +kernel

/-! ## Functions that meet -/

/-- The rows that calls of the allowed functions lock. -/
def Locks (allowed : Procedure → Prop) (body : List Row) : Prop :=
  ∃ procedure, allowed procedure ∧ ∃ path ∈ lockPaths procedure, ∃ call : Call,
    body = path.rows call

/-- A call for which every row exists. -/
def sampleCall (receipts : List Uuid) : Call where
  value
    | .operation => 1
    | .reconciliationOperation => 2
    | .workshop => 3
    | .effectRun => 4
    | .newEffectRun => 5
    | .driverOperation => 6
    | .publication => 7
  routes := ⟨[3], by decide⟩
  receipts := receipts
  found _ := true
  protocolState_found := rfl
  fleetLease_found := rfl

/-- Two transactions on the rows of one call, and how many locks each has taken when they
meet. -/
structure Meeting where
  mine : Path
  partner : Procedure
  theirs : Path
  (myLocks theirLocks : Nat)

def Meeting.events (meeting : Meeting) : List (LockEvent Nat Row) :=
  [.start 0 (meeting.mine.rows (sampleCall [])), .start 1 (meeting.theirs.rows (sampleCall []))] ++
    List.replicate meeting.myLocks (.lock 0) ++ List.replicate meeting.theirLocks (.lock 1)

def Meeting.blocks (meeting : Meeting) (procedure : Procedure) : Bool :=
  decide (meeting.mine ∈ lockPaths procedure) && meeting.partner.safe &&
    decide (meeting.theirs ∈ lockPaths meeting.partner) &&
    (replay LockState.step ∅ meeting.events).any fun s =>
      LockState.waits s 0 1 && LockState.waits s 1 0

/-- A safe function that a function can wait for in a cycle. The rows are those of one
live authority in each case: the renewal of the same maintenance or rebuild, the abort of
the same staged publication, the claim of a staged publication whose lease has run out
meanwhile, and the publication of the same release. -/
def meeting : Procedure → Meeting
  | .finishWorkshopRouteMaintenanceEntry =>
    ⟨finishWorkshopRouteMaintenanceEntry, .renewWorkshopRouteEffect, renewWorkshopRouteEffect, 1, 3⟩
  | .finishWorkshopRouteMaintenanceExit =>
    ⟨finishWorkshopRouteMaintenanceExit, .renewWorkshopRouteEffect, renewWorkshopRouteEffect, 1, 3⟩
  | .initializeStartupRouteProjection =>
    ⟨initializeStartupRouteProjection, .renewStartupRouteRebuild, renewStartupRouteRebuild, 1, 2⟩
  | .finishStartupRouteRebuild =>
    ⟨finishStartupRouteRebuild .effectRun, .renewStartupRouteRebuild,
      renewStartupRouteRebuild, 1, 2⟩
  | .finishStartupRouteRebuildV2 succeeded =>
    ⟨finishStartupRouteRebuildV2 succeeded .effectRun, .renewStartupRouteRebuild,
      renewStartupRouteRebuild, 1, 2⟩
  | .recordStagedStartupRoutePrior =>
    ⟨recordStagedStartupRoutePrior, .renewStartupRouteRebuild, renewStartupRouteRebuild, 1, 2⟩
  | .beginStagedStartupRoutePublication =>
    ⟨beginStagedStartupRoutePublication, .abortStagedStartupRoutePublication,
      abortStagedStartupRoutePublication, 1, 3⟩
  | .finishStagedStartupRoutePublication =>
    ⟨finishStagedStartupRoutePublication, .claimInterruptedStartupRoutePublication,
      claimInterruptedStartupRoutePublication, 1, 2⟩
  | .claimInterruptedImmutableReleaseRoutePublication =>
    ⟨claimInterruptedImmutableReleaseRoutePublication,
      .admitImmutableReleaseRoutePublication, admitImmutableReleaseRoutePublication, 1, 1⟩
  | .renewInterruptedImmutableReleaseRoutePublicationClaim =>
    ⟨renewInterruptedImmutableReleaseRoutePublicationClaim,
      .admitImmutableReleaseRoutePublication, admitImmutableReleaseRoutePublication, 1, 1⟩
  | .finishInterruptedImmutableReleaseRoutePublication
  | .finishReviewedInterruptedImmutableReleaseRoutePublication =>
    ⟨finishInterruptedImmutableReleaseRoutePublication,
      .admitImmutableReleaseRoutePublication, admitImmutableReleaseRoutePublication, 1, 1⟩
  | .reviewInterruptedImmutableReleaseRuntimeObservation =>
    ⟨lockImmutableReleaseRouteRecoveryReview,
      .admitImmutableReleaseRoutePublication, admitImmutableReleaseRoutePublication, 1, 1⟩
  | _ =>
    ⟨lockImmutableReleaseRouteRecoveryClaim,
      .admitImmutableReleaseRoutePublication, admitImmutableReleaseRoutePublication, 1, 1⟩

theorem blocks_of_not_safe (procedure : Procedure) :
    procedure.safe = false → (meeting procedure).blocks procedure = true := by
  cases procedure with
  | finishStartupRouteRebuildV2 succeeded => cases succeeded <;> decide +kernel
  | _ => decide +kernel

/-- Two calls that lock two rows in opposite orders. -/
structure Opposition where
  mine : Path
  myReceipts : List Uuid
  partner : Procedure
  theirs : Path
  theirReceipts : List Uuid
  (first second : Row)

def Opposition.holds (opposition : Opposition) (procedure : Procedure) : Bool :=
  decide (opposition.mine ∈ lockPaths procedure) &&
    decide (opposition.theirs ∈ lockPaths opposition.partner) &&
    locksBefore (opposition.mine.rows (sampleCall opposition.myReceipts)) opposition.first
      opposition.second &&
    locksBefore (opposition.theirs.rows (sampleCall opposition.theirReceipts)) opposition.second
      opposition.first

/-- A pair of rows for every function that is not in order, with a function that locks them
the other way. -/
def opposition : Procedure → Opposition
  | .finishWorkshopRouteMaintenanceEntry =>
    ⟨finishWorkshopRouteMaintenanceEntry, [], .renewWorkshopRouteEffect,
      renewWorkshopRouteEffect, [], .effectRun 4, .routeLease 3⟩
  | .claimWorkshopRouteMaintenanceExit =>
    ⟨claimWorkshopRouteMaintenanceExit, [], .renewWorkshopRouteEffect,
      renewWorkshopRouteEffect, [], .effectRun 4, .routeLease 3⟩
  | .finishWorkshopRouteMaintenanceExit =>
    ⟨finishWorkshopRouteMaintenanceExit, [], .renewWorkshopRouteEffect,
      renewWorkshopRouteEffect, [], .effectRun 4, .routeLease 3⟩
  | .initializeStartupRouteProjection =>
    ⟨initializeStartupRouteProjection, [], .renewStartupRouteRebuild,
      renewStartupRouteRebuild, [], .effectRun 4, .routeLease 3⟩
  | .finishStartupRouteRebuild =>
    ⟨finishStartupRouteRebuild .effectRun, [], .renewStartupRouteRebuild,
      renewStartupRouteRebuild, [], .effectRun 4, .fleetLease⟩
  | .finishStartupRouteRebuildV2 succeeded =>
    ⟨finishStartupRouteRebuildV2 succeeded .effectRun, [], .renewStartupRouteRebuild,
      renewStartupRouteRebuild, [], .effectRun 4, .fleetLease⟩
  | .recordStagedStartupRoutePrior =>
    ⟨recordStagedStartupRoutePrior, [], .renewStartupRouteRebuild,
      renewStartupRouteRebuild, [], .effectRun 4, .fleetLease⟩
  | .beginStagedStartupRoutePublication =>
    ⟨beginStagedStartupRoutePublication, [], .abortStagedStartupRoutePublication,
      abortStagedStartupRoutePublication, [], .startupPublication 4, .effectRun 4⟩
  | .finishStagedStartupRoutePublication =>
    ⟨finishStagedStartupRoutePublication, [], .abortStagedStartupRoutePublication,
      abortStagedStartupRoutePublication, [], .startupPublication 4, .fleetLease⟩
  | .claimInterruptedStartupRoutePublication =>
    ⟨claimInterruptedStartupRoutePublication, [], .abortStagedStartupRoutePublication,
      abortStagedStartupRoutePublication, [], .startupPublication 4, .effectRun 4⟩
  | .finishInterruptedStartupRoutePublication =>
    ⟨[.fleetLease, .startupPublication, .routeLeases, .startupPublication], [],
      .abortStagedStartupRoutePublication, abortStagedStartupRoutePublication, [],
      .startupPublication 4, .routeLease 3⟩
  | .admitReleaseDriverOperation =>
    ⟨[.protocolState, .operation .operation, .fleetLease, .routeLeases, .receipts, .routeLeases,
      .fleetLease], [8, 9], .admitReleaseDriverOperation,
      [.protocolState, .operation .operation, .fleetLease, .routeLeases, .receipts, .routeLeases,
      .fleetLease], [9, 8], .receipt 8, .receipt 9⟩
  | procedure =>
    ⟨(meeting procedure).mine, [], .admitImmutableReleaseRoutePublication,
      admitImmutableReleaseRoutePublication, [], .operation 1, .protocolState⟩

theorem opposition_holds (procedure : Procedure) :
    procedure.inOrder = false → (opposition procedure).holds procedure = true := by
  cases procedure with
  | finishStartupRouteRebuildV2 succeeded => cases succeeded <;> decide +kernel
  | _ => decide +kernel

/-- The function that locks the rows the other way is in order, or is the same one. -/
theorem opposition_partner (procedure : Procedure) : (opposition procedure).partner.inOrder = true ∨
      (opposition procedure).partner = procedure := by
  cases procedure with
  | admitReleaseDriverOperation => exact .inr rfl
  | _ => exact .inl rfl

/-! ## Results -/

theorem exists_cyclicWait {allowed : Procedure → Prop} {procedure : Procedure} {meeting : Meeting}
    (hallowed : allowed procedure) (hpartner : allowed meeting.partner)
    (hblocks : meeting.blocks procedure = true) :
    ∃ s : LockState Nat Row, s.Reachable (Locks allowed) ∧ s.CyclicWait := by
  simp only [Meeting.blocks, Bool.and_eq_true, decide_eq_true_eq] at hblocks
  obtain ⟨⟨⟨hmine, _⟩, htheirs⟩, hend⟩ := hblocks
  obtain ⟨s, hreplay, hwaits⟩ := (Option.any_eq_true _ _).mp hend
  rw [Bool.and_eq_true] at hwaits
  refine ⟨s, ⟨_, runWhere_of_replay ?_ hreplay⟩, LockState.cyclicWait_of_waits hwaits.1 hwaits.2⟩
  intro event hevent _
  simp only [Meeting.events, List.mem_append, List.mem_cons, List.not_mem_nil, or_false] at hevent
  rcases hevent with ((rfl | rfl) | hevent) | hevent
  · exact ⟨procedure, hallowed, meeting.mine, hmine, sampleCall [], rfl⟩
  · exact ⟨meeting.partner, hpartner, meeting.theirs, htheirs, sampleCall [], rfl⟩
  · rw [List.eq_of_mem_replicate hevent]
    trivial
  · rw [List.eq_of_mem_replicate hevent]
    trivial

/-- Two calls that lock two rows in opposite orders have no order in common. -/
theorem false_of_opposition {allowed : Procedure → Prop} {procedure : Procedure}
    {opposition : Opposition} {order : Row → Row → Prop} (hirrefl : ∀ row, ¬ order row row)
    (htrans : ∀ first second third, order first second → order second third → order first third)
    (hrespects : ∀ body, Locks allowed body → Respects order body)
    (hallowed : allowed procedure) (hpartner : allowed opposition.partner)
    (hholds : opposition.holds procedure = true) : False := by
  simp only [Opposition.holds, Bool.and_eq_true, decide_eq_true_eq] at hholds
  obtain ⟨⟨⟨hmine, htheirs⟩, hbefore⟩, hafter⟩ := hholds
  have hone := (hrespects _ ⟨procedure, hallowed, opposition.mine, hmine, _, rfl⟩).order hbefore
  have htwo := (hrespects _ ⟨opposition.partner, hpartner, opposition.theirs, htheirs, _,
    rfl⟩).order
    hafter
  exact hirrefl _ (htrans _ _ _ hone htwo)

/-- **Which functions can run together.** Take any set of functions, called with any
arguments and in any number at once. If the set contains the safe functions, no cyclic
wait can be reached exactly when it contains no others. If it contains the functions that
are in order, there is one strict order of the rows that all of them respect exactly when
it contains no others. -/
theorem lock_order_iff (allowed : Procedure → Prop) :
    ((∀ procedure, procedure.safe = true → allowed procedure) →
      ((∀ s : LockState Nat Row, s.Reachable (Locks allowed) → ¬ s.CyclicWait) ↔
        ∀ procedure, allowed procedure → procedure.safe = true)) ∧
    ((∀ procedure, procedure.inOrder = true → allowed procedure) →
      ((∃ order : Row → Row → Prop, (∀ row, ¬ order row row) ∧
          (∀ first second third, order first second → order second third → order first third) ∧
          ∀ body, Locks allowed body → Respects order body) ↔
        ∀ procedure, allowed procedure → procedure.inOrder = true)) := by
  refine ⟨fun hallowed => ⟨?_, ?_⟩, fun hallowed => ⟨?_, ?_⟩⟩
  · intro hfree procedure hprocedure
    by_contra hsafe
    rw [Bool.not_eq_true] at hsafe
    have hblocks := blocks_of_not_safe procedure hsafe
    have hpartner : (meeting procedure).partner.safe = true := by
      simp only [Meeting.blocks, Bool.and_eq_true] at hblocks
      exact hblocks.1.1.2
    obtain ⟨s, hreach, hcycle⟩ := exists_cyclicWait hprocedure (hallowed _ hpartner) hblocks
    exact hfree s hreach hcycle
  · intro hsafe s hreach
    have hordered : s.Reachable
        (Ordered LockOrder.underFleetLease.rank LockOrder.underFleetLease.gate) := by
      refine hreach.mono ?_
      rintro body ⟨procedure, hprocedure, path, hpath, call, rfl⟩
      have hkept := kept_underFleetLease_of_safe procedure (hsafe procedure hprocedure)
      exact ordered_of_kept (List.all_eq_true.mp hkept path hpath) call
    exact LockState.not_cyclicWait_of_ordered hordered
  · rintro ⟨order, hirrefl, htrans, hrespects⟩ procedure hprocedure
    by_contra hout
    rw [Bool.not_eq_true] at hout
    refine false_of_opposition hirrefl htrans hrespects hprocedure ?_
      (opposition_holds procedure hout)
    rcases opposition_partner procedure with hpartner | hpartner
    · exact hallowed _ hpartner
    · rwa [hpartner]
  · intro hinOrder
    refine ⟨fun first second => LockOrder.byTable.rank first < LockOrder.byTable.rank second,
      fun row => lt_irrefl _, fun first second third => lt_trans, ?_⟩
    rintro body ⟨procedure, hprocedure, path, hpath, call, rfl⟩
    have hkept := kept_byTable_of_inOrder procedure (hinOrder procedure hprocedure)
    exact (ordered_of_kept (List.all_eq_true.mp hkept path hpath) call).respects

/-- The safe functions are free of cyclic waits, and those in order share an order. -/
theorem lock_order_iff_safe :
    (∀ s : LockState Nat Row, s.Reachable (Locks fun procedure => procedure.safe = true) →
      ¬ s.CyclicWait) ∧
    ∃ order : Row → Row → Prop, (∀ row, ¬ order row row) ∧
      (∀ first second third, order first second → order second third → order first third) ∧
      ∀ body, Locks (fun procedure => procedure.inOrder = true) body → Respects order body :=
  ⟨((lock_order_iff fun procedure => procedure.safe = true).1 fun _ h => h).mpr fun _ h => h,
    ((lock_order_iff fun procedure => procedure.inOrder = true).2 fun _ h => h).mpr fun _ h => h⟩

/-- The end of a maintenance entry and the renewal of the same maintenance wait for each
other: the one holds the effect run and asks for the route lease, the other holds the
route lease and asks for the effect run. -/
theorem maintenance_entry_cyclicWait : ∃ s : LockState Nat Row,
      s.Reachable (Locks fun procedure => procedure = .finishWorkshopRouteMaintenanceEntry ∨
        procedure = .renewWorkshopRouteEffect) ∧ s.CyclicWait :=
  exists_cyclicWait (.inl rfl) (.inr rfl)
    (blocks_of_not_safe .finishWorkshopRouteMaintenanceEntry rfl)

end ControlPlane.Authority
