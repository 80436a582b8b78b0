/-
# Decisions about superseded observations

Several claimants can observe one interrupted publication, one after the other, and what
they see may differ. A decision names the observation it is about by its claim fence. The
function compares everything of that observation with the decision, but never its fence
with the row's current one, so a decision about an older observation is still carried out
when a newer one was recorded.

Claims end with their observation, so without a claim the row's current fence is the one
of the newest observation. A decision is about the newest observation exactly when it
names that fence.
-/

import ControlPlane.Publications.Holding

namespace ControlPlane.Publications

open Domain Driver Math Persistence
open Routes

namespace PublicationState

variable {env : DatabaseEnvironment} {s t u : PublicationState}

/-- A completing decision reaches the body for projections, which decides about one of
the observations of an unclaimed publication and writes the end down. -/
theorem decided_of_completed (h : s.OnlyProjections) {call : RecoveryFinishCall}
    {response : Option TerminalResponse}
    (hcall : finishRouteSetPublicationRecovery env s (.complete call) =
      .ok (t, [⟨.completed, response⟩])) :
    validDecision call = true ∧ ∃ kind publication driverOperation applied,
      s.Decided env call kind publication driverOperation ∧
      t.publications.lookup call.publication = some { publication with
        terminal := some ⟨terminalFor call kind publication.identity applied, s.now⟩ } ∧
      response = some (terminalFor call kind publication.identity applied).response := by
  rw [finishRecovery_of_onlyProjections h] at hcall
  cases hbody : finishRouteSetPublicationRecoveryProjectionV1 env s call with
  | error raised =>
    rw [hbody] at hcall
    cases hcall
  | ok result =>
    obtain ⟨next, row⟩ := result
    rw [hbody] at hcall
    cases hcall
    rcases finishRecovery_cases hbody with ⟨-, hrefused⟩ |
      ⟨-, hvalid, kind, publication, driverOperation, applied, hdecided, hafter, hanswer⟩
    · exact absurd rfl hrefused
    · cases hanswer
      exact ⟨hvalid, kind, publication, driverOperation, applied, hdecided, hafter, rfl⟩

/-- **A decision is about the newest observation exactly when it names the current fence.**
In every history, when a decision about the observation of some claim fence ends a
publication, no observation with a greater fence is recorded if and only if that fence is
the publication's current one. -/
theorem decision_newest_iff {events : List PublicationEvent} (hinitial : s.Initial)
    (hrun : Run (step env) s events t) {call : RecoveryFinishCall}
    {response : Option TerminalResponse} {publication : Publication}
    (hrow : t.publications.lookup call.publication = some publication)
    (hcall : finishRouteSetPublicationRecovery env t (.complete call) =
      .ok (u, [⟨.completed, response⟩])) :
    (∀ fence resolution, publication.resolutions.lookup fence = some resolution →
      fence ≤ call.claimFence) ↔ call.claimFence = publication.claimFence := by
  have hinv := inv_of_run hinitial hrun
  obtain ⟨-, kind, found, driverOperation, -, hdecided, -⟩ :=
    decided_of_completed hinv.onlyProjections hcall
  have hsame := hdecided.row
  rw [hrow] at hsame
  cases hsame
  have horder := hinv.claims _ _ hrow
  obtain ⟨resolution, hresolution, -⟩ := hdecided.observation
  have hbound := horder.bounded _ _ hresolution
  constructor
  · intro hnewest
    rcases Nat.eq_zero_or_pos publication.claimFence with hzero | hpositive
    · omega
    · obtain ⟨latest, hlatest⟩ :=
        Option.isSome_iff_exists.mp (horder.latest hdecided.unclaimed hpositive)
      exact le_antisymm hbound (hnewest _ _ hlatest)
  · intro hcurrent fence other hother
    rw [hcurrent]
    exact horder.bounded fence other hother

end PublicationState

/-! ## Two claimants -/

/-- Sixty-four hexadecimal digits. -/
def zeroDigest : String := String.ofList (List.replicate 64 '0')

namespace PublicationState

def publishedRoute : DesiredRoute := ⟨⟨2, "sha256:" ++ zeroDigest⟩, .present⟩

/-- An operation in flight on its first attempt. -/
def leasedRow (kind : OperationKind) (worker : String) (expiresAt : Timestamp) (payload : Json) :
    OperationRow :=
  { OperationRow.enqueued kind (some 1) none none payload 0 with
    state := .inFlight ⟨worker, expiresAt⟩
    attempt := 1 }

/-- The payload of an operation that recovers publication 9. -/
def recoveryPayload : Json :=
  .object [("protocol_version", .number 1), ("route_set_publication_id", .string (Uuid.toText 9))]

/-- One workshop, an operation that publishes its second generation, and two operations
that will recover the publication. -/
def beforePublication : PublicationState where
  queue := {
    now := 0
    operations := ((AList.insert 3 (leasedRow .tenantProvision "worker-a" (seconds 60) .null)
      ∅ : Operations).insert 4 (leasedRow .tenantReconcile "worker-b" (seconds 1000)
        recoveryPayload)).insert 5 (leasedRow .tenantReconcile "worker-c" (seconds 1000)
          recoveryPayload)
    issued := [] }
  mode := .generationV1
  workshops := [1]
  fleet := ⟨0, .idle⟩
  leases := AList.insert 1 ⟨1, false, .idle⟩ ∅
  heads := AList.insert 1 ⟨some publishedRoute, some samplePrior⟩ ∅
  projections := AList.insert (1, 2) ⟨"sha256:" ++ zeroDigest, .object [], .present⟩ ∅
  receipts := ∅
  effectRuns := ∅
  reservations := ∅
  publications := ∅

/-- A hash that is always zero. -/
def zeroHash : DatabaseEnvironment where
  sha256 _ := 0
  jsonbText _ := ""
  columnSize _ := 0

def publishCall : AdmitPublicationCall where
  caller := ⟨3, 1, "worker-a"⟩
  workshop := 1
  kind := .projection
  idempotencyKey := "publish"
  requestDigest := zeroDigest
  target := ⟨2, "sha256:" ++ zeroDigest⟩
  instanceOwner := 20
  executionToken := 21
  globalLeaseToken := 22
  routeLeaseToken := 23
  ttlSeconds := 60
  publicationId := 9
  receiptId := 8

/-- The decision to accept that the publication never started, by the first claimant. -/
def acceptUnstarted : RecoveryFinishCall where
  publication := 9
  claimFence := 1
  operation := ⟨4, 1, "worker-b"⟩
  owner := 30
  token := 31
  kind := some .unstarted
  decision := some .accept
  decisionDigest := zeroDigest

def reviewedPayload (kind : ResolutionKind) : Json :=
  .object [("protocol_version", .number 1), ("route_set_publication_id", .string (Uuid.toText 9)),
    ("route_set_resolution_claim_fence", .number 1),
    ("route_set_resolution_kind", .string kind.asStr),
    ("route_set_terminal_decision", .string "accept"),
    ("route_set_terminal_decision_digest", .string zeroDigest)]

/-- The publication is admitted and its driver goes away. The first claimant sees that it
never started, which is reviewed; then the second one cannot tell. -/
def twoClaims : List PublicationEvent :=
  [.admitPublication publishCall, .queue (.advance (seconds 61)),
    .claim ⟨9, ⟨4, 1, "worker-b"⟩, 30, 31, 60⟩,
    .resolve ⟨⟨9, 30, 31, 1⟩, .unstarted, .nothing⟩,
    .review 4 (reviewedPayload .unstarted),
    .claim ⟨9, ⟨5, 1, "worker-c"⟩, 32, 33, 60⟩,
    .resolve ⟨⟨9, 32, 33, 2⟩, .inconclusive, .nothing⟩]

theorem beforePublication_initial : beforePublication.Initial := ⟨rfl, rfl, rfl⟩

/-- The decision completes. -/
def completes (call : RecoveryFinishCall) (t : PublicationState) : Bool :=
  (finishRouteSetPublicationRecovery zeroHash t (.complete call)).toOption.any
    fun result => decide (result.2.map RecoveryRow.outcome = [.completed])

theorem exists_of_completes {call : RecoveryFinishCall} {t : PublicationState}
    (h : completes call t = true) : ∃ u response,
      finishRouteSetPublicationRecovery zeroHash t (.complete call) =
        .ok (u, [⟨.completed, response⟩]) := by
  obtain ⟨⟨u, rows⟩, hanswer, hrows⟩ := (Option.any_eq_true _ _).mp h
  obtain ⟨⟨outcome, response⟩, rfl, houtcome⟩ := List.map_eq_singleton_iff.mp (of_decide_eq_true
    hrows)
  cases houtcome
  refine ⟨u, response, ?_⟩
  cases hbody : finishRouteSetPublicationRecovery zeroHash t (.complete call) with
  | error raised =>
    rw [hbody] at hanswer
    cases hanswer
  | ok result =>
    rw [hbody] at hanswer
    cases hanswer
    rfl

/-- After both claims, the decision of the first claimant completes. -/
def acceptedAfterBoth (t : PublicationState) : Bool :=
  ((t.publications.lookup 9).any fun publication =>
    (publication.resolutions.lookup 2).isSome) && completes acceptUnstarted t

theorem twoClaims_accepted :
    (replay (step zeroHash) beforePublication twoClaims).any acceptedAfterBoth = true := by
  decide +kernel

/-- The state after both claims, with what is recorded in it and the answer to the first
claimant's decision. -/
theorem exists_twoClaims : ∃ t u response publication resolution,
    Run (step zeroHash) beforePublication twoClaims t ∧ t.publications.lookup 9 = some publication ∧
      publication.resolutions.lookup 2 = some resolution ∧
      finishRouteSetPublicationRecovery zeroHash t (.complete acceptUnstarted) =
        .ok (u, [⟨.completed, response⟩]) := by
  obtain ⟨t, hreplay, haccepted⟩ := (Option.any_eq_true _ _).mp twoClaims_accepted
  simp only [acceptedAfterBoth, Bool.and_eq_true] at haccepted
  obtain ⟨hpublication, hresult⟩ := haccepted
  obtain ⟨publication, hrow, hresolution⟩ := (Option.any_eq_true _ _).mp hpublication
  obtain ⟨resolution, hrecorded⟩ := Option.isSome_iff_exists.mp hresolution
  obtain ⟨u, response, hcall⟩ := exists_of_completes hresult
  exact ⟨t, u, response, publication, resolution, run_of_replay hreplay, hrow, hrecorded, hcall⟩

/-- The first claimant's decision, at which both sides fail. -/
theorem decision_newest_iff_twoClaims : ∃ t u response publication,
    finishRouteSetPublicationRecovery zeroHash t (.complete acceptUnstarted) =
        .ok (u, [⟨.completed, response⟩]) ∧
      t.publications.lookup 9 = some publication ∧
      ((∀ fence resolution, publication.resolutions.lookup fence = some resolution →
        fence ≤ acceptUnstarted.claimFence) ↔
          acceptUnstarted.claimFence = publication.claimFence) := by
  obtain ⟨t, u, response, publication, resolution, hrun, hrow, -, hcall⟩ := exists_twoClaims
  exact ⟨t, u, response, publication, hcall, hrow,
    decision_newest_iff beforePublication_initial hrun hrow hcall⟩

/-- A decision about the observation with fence 1 ends the publication although an
inconclusive observation with fence 2 is recorded. -/
theorem superseded_decision_completes : ∃ t u response publication resolution,
    beforePublication.Initial ∧ Run (step zeroHash) beforePublication twoClaims t ∧
      t.publications.lookup 9 = some publication ∧
      publication.resolutions.lookup 2 = some resolution ∧ acceptUnstarted.claimFence = 1 ∧
      finishRouteSetPublicationRecovery zeroHash t (.complete acceptUnstarted) =
        .ok (u, [⟨.completed, response⟩]) := by
  obtain ⟨t, u, response, publication, resolution, hrun, hrow, hresolution, hcall⟩ :=
    exists_twoClaims
  exact ⟨t, u, response, publication, resolution, beforePublication_initial, hrun, hrow,
    hresolution, rfl, hcall⟩

end PublicationState

end ControlPlane.Publications
