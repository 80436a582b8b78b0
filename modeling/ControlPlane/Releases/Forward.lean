/-
# Forward recovery

A release that was interrupted after its external effects had started is finished as the
candidate, on the evidence that one claim recorded. The finish advances the heads, and the
trigger `validate_workshop_route_applied_driver_binding` looks at every head that changes.
The trigger knows the records of a release while it publishes its candidate; it does not
know a release in quarantine, nor what a recovery recorded. So the finish goes through
exactly when there is nothing to advance: when the heads show the candidate already, because
the release was interrupted while it awaited its end.
-/

import ControlPlane.Releases.Quarantine

namespace ControlPlane.Releases

open Domain Driver Math Persistence
open Routes Publications ReleaseState
open PublicationState (zeroHash)

/-- The candidate is applied, and nothing is held any more. -/
structure CandidateApplied (t : ReleaseState) (id : Uuid) (identity : ReleaseIdentity)
    (records : OverlayRecords) : Prop where
  heads : ∀ owner ∈ identity.owners, ∃ renderedDigest head,
    records.lookup owner.workshop = some renderedDigest ∧
      t.shared.heads.lookup owner.workshop = some head ∧
      showsCandidate id owner renderedDigest head = true
  fleet : t.shared.fleet.phase = .idle
  routes : ∀ owner ∈ identity.owners, ∃ route,
    t.shared.leases.lookup owner.workshop = some route ∧ route.phase = .idle

/-! ## The evidence -/

section Evidence

variable {env : DatabaseEnvironment} {s t : ReleaseState} {id : Uuid} {fence : Nat}
  {publication : ReleasePublication} {claim : RecoveryClaim} {stage : Stage}

/-- A review that accepts a candidate finds the observation, the resolution and the rows in
agreement. -/
theorem reviewObservation_approved {operation : ControlOperationLease} {observationDigest : String}
    {digest : Option String}
    (h : s.reviewObservation env id fence operation observationDigest .acceptCandidate =
      (t, .approved, digest)) :
    ∃ publication claim observation review, s.publications.lookup id = some publication ∧
      (s.recovery id).claim fence = some claim ∧ claim.live s.now = true ∧
      claim.observation = some observation ∧
      acceptingReview env id publication.identity.fleetRun { claim with review := some review } =
        some review ∧
      validCompletionResponse env id publication.identity
        (s.runs.lookup publication.identity.fleetRun) observation.completionResponse = true ∧
      t = s.withClaim id fence fun claim => { claim with review := some review } := by
  unfold reviewObservation at h
  split at h
  · cases h
  split at h
  · cases h
  rename_i publication claim hlock
  obtain ⟨hlookup, hfound, hlive⟩ := lockReview_some hlock
  simp only at h
  split at h
  · cases h
  rename_i observation hobserved
  obtain ⟨hobservation, hobserved⟩ := Option.filter_eq_some_iff.mp hobserved
  split at h
  · cases h
  rename_i resolution hresolved
  obtain ⟨hresolution, hcandidate⟩ := Option.filter_eq_some_iff.mp hresolved
  split at h
  · cases h
  rename_i hagreed
  simp only [not_or, not_not, Bool.not_eq_false] at hagreed
  obtain ⟨-, hresponse, hvalid⟩ := hagreed
  split at h
  · split at h <;> cases h
  cases h
  have hfence : claim.fence = fence := by simpa using List.find?_some hfound
  refine ⟨publication, claim, observation, _, hlookup, hfound, hlive, hobservation, ?_, hvalid, rfl⟩
  simp only [acceptingReview, hobservation, hresolution, newReview,
    of_decide_eq_true hobserved, of_decide_eq_true hcandidate, hresponse, hfence,
    and_self, if_true]

theorem Sound.fences_nodup (h : Sound env s) (id : Uuid) :
    ((s.recovery id).claims.map RecoveryClaim.fence).Nodup := by
  rw [List.Nodup, List.pairwise_map]
  exact (h.fences_ordered id).imp fun hlt => Nat.ne_of_gt hlt

/-- What a claim recorded under a fence is found under the same fence later. -/
theorem Keeps.found {before : RecoveryClaim} (hkeeps : Keeps s t) (hsound : Sound env t)
    (hbefore : before ∈ (s.recovery id).claims)
    (hfound : (t.recovery id).claim before.fence = some claim) : ClaimGrows before claim := by
  obtain ⟨after, hafter, hgrows⟩ := hkeeps.claims id before hbefore
  have hfence : claim.fence = before.fence := by simpa using List.find?_some hfound
  have hsame : after = claim := List.inj_on_of_nodup_map (hsound.fences_nodup id) hafter
    (List.mem_of_find?_eq_some hfound) (hgrows.fence.trans hfence.symm)
  exact hsame ▸ hgrows

/-- Without a decision, the reviewed finish comes to the acceptance of the candidate. -/
theorem finishReviewed_eq_finishCandidate {key : ClaimKey} {review : ReleaseReview}
    (hsound : Sound env s) (hlocked : Locked s key publication claim)
    (hphase : publication.phase = .quarantined stage)
    (hopen : (s.recovery key.driverOperation).terminal = none)
    (hreview : acceptingReview env key.driverOperation publication.identity.fleetRun claim =
      some review) :
    ∃ resolution, claim.resolution = some resolution ∧
      s.finishReviewed env key = s.finishCandidate env key publication.identity stage claim
        resolution review.resolutionDigest := by
  obtain ⟨hfence, hclaim⟩ := hlocked.sound hsound hphase
  obtain ⟨observation, resolution, -, -, hresolution, -, -, hkind, -, hdigest⟩ :=
    acceptingReview_some hreview
  have hrecorded := hclaim.resolution resolution hresolution
  have hown : resolution.recordedBy env key .candidate = true := by
    simp only [ReleaseResolution.recordedBy, hkind, hrecorded.attempt, hlocked.attempt,
      hrecorded.leaseOwner, hlocked.leaseOwner, hrecorded.owner, hlocked.owner, hrecorded.token,
      hlocked.token, decide_true, Bool.and_self]
  have hinterrupted : publication.interrupted = some stage := by
    rw [ReleasePublication.interrupted, hphase]
  have hterminal : s.ownTerminal env key = none := by
    rw [ownTerminal, hopen]
    rfl
  refine ⟨resolution, hresolution, ?_⟩
  rw [candidateDigest, hfence] at hdigest
  simp only [finishReviewed, hlocked.lookup, hlocked.found, hreview, finishWithoutReview,
    lockClaim_eq_some_iff.mpr hlocked, hresolution, Option.any_some, hkind, unsupported,
    Bool.false_eq_true, if_false, finishUnsafe, hterminal, Option.filter_some, hown, if_true,
    hinterrupted, hdigest, reduceCtorEq, ne_eq, not_true_eq_false]

end Evidence

/-! ## The finish -/

section Finish

variable {env : DatabaseEnvironment} {s t : ReleaseState} {key : ClaimKey}
  {publication : ReleasePublication} {claim : RecoveryClaim} {stage : Stage}
  {resolution : ReleaseResolution} {decisionDigest : String}

/-- A candidate is accepted only for a release that awaited its end. -/
theorem awaiting_of_finishCandidate {answer : Option Json} (hsound : Sound env s)
    (hlocked : Locked s key publication claim) (hphase : publication.phase = .quarantined stage)
    (h : s.finishCandidate env key publication.identity stage claim resolution decisionDigest =
      .ok (t, .appliedRecovered, answer)) : stage.isAwaitingWorkerFinalize = true := by
  obtain ⟨-, hclaim⟩ := hlocked.sound hsound hphase
  unfold finishCandidate at h
  simp only at h
  split at h
  · cases h
  split at h
  · cases h
  split at h
  · cases h
  · cases h
  · rename_i heads hheads
    exact (awaiting_of_candidateHeads (hsound.releases _ _ hlocked.lookup) hlocked.lookup
      hphase hclaim hheads).2

/-- When the release awaited its end, the heads show the candidate. -/
theorem heads_of_awaiting {id : Uuid} (hheld : Held s id publication)
    (hhead : (s.recovery id).claims.head? = some claim)
    (hclaim : ClaimSound env id publication.identity stage claim)
    (hstage : stage.isAwaitingWorkerFinalize = true) {owner : RouteOwner}
    (howner : owner ∈ publication.identity.owners) :
    ∃ renderedDigest head, (candidateRecords stage claim).lookup owner.workshop =
        some renderedDigest ∧ s.shared.heads.lookup owner.workshop = some head ∧
      showsCandidate id owner renderedDigest head = true := by
  have hlisted := List.mem_map_of_mem (f := RouteOwner.workshop) howner
  rw [← hclaim.headsComplete] at hlisted
  obtain ⟨recorded, hmem, hworkshop⟩ := List.mem_map.mp hlisted
  obtain ⟨other, hother, hsame, hinterrupted⟩ := hclaim.heads recorded hmem
  obtain rfl := eq_of_workshop hother howner (hsame.trans hworkshop)
  cases stage with
  | awaitingWorkerFinalize maintenance candidate =>
    obtain ⟨renderedDigest, hrecord, hshows⟩ := (Option.any_eq_true _ _).mp hinterrupted
    exact ⟨renderedDigest, recorded.2, hrecord,
      hworkshop ▸ hheld.heads claim hhead recorded hmem, hshows⟩
  | _ => cases hstage

theorem closeRecovery_of_rows {identity : ReleaseIdentity} (kind : ReleaseResolutionKind)
    (decisionDigest : String) (response : Json)
    (hroutes : identity.owners.all (fun owner => (s.shared.leases.lookup owner.workshop).any
      (routeQuarantined (identity.lease key.driverOperation) owner)) = true)
    (hfleet : fleetQuarantined (identity.lease key.driverOperation) s.shared.fleet = true)
    (hopen : (s.recovery key.driverOperation).terminal = none) :
    ∃ t, s.closeRecovery key identity kind decisionDigest response = .ok t ∧
      t.shared.heads = s.shared.heads ∧ t.shared.fleet.phase = .idle ∧
      t.shared.leases = mapRoutes (fun _ => idleRoute) identity.owners s.shared.leases := by
  simp only [closeRecovery, hroutes, hfleet, hopen, Option.isSome_none, Bool.false_eq_true,
    Bool.true_eq_false, if_false]
  exact ⟨_, rfl, rfl, rfl, rfl⟩

theorem finishCandidate_of_awaiting {response : Json} (decisionDigest : String)
    (hsound : Sound env s)
    (hheld : Held s key.driverOperation publication) (hlocked : Locked s key publication claim)
    (hphase : publication.phase = .quarantined stage)
    (hopen : (s.recovery key.driverOperation).terminal = none)
    (hstage : stage.isAwaitingWorkerFinalize = true)
    (hresponse : resolution.candidateResponse = some response)
    (hvalid : validCompletionResponse env key.driverOperation publication.identity
      (s.runs.lookup publication.identity.fleetRun) response = true) :
    ∃ t, s.finishCandidate env key publication.identity stage claim resolution decisionDigest =
        .ok (t, .appliedRecovered, some response) ∧
      CandidateApplied t key.driverOperation publication.identity (candidateRecords stage
        claim) := by
  have hrelease := hsound.releases _ _ hlocked.lookup
  obtain ⟨-, hclaim⟩ := hlocked.sound hsound hphase
  obtain ⟨-, rest, hclaims⟩ := hrelease.head_of_live hlocked.found hlocked.live
  have hhead : (s.recovery key.driverOperation).claims.head? = some claim := by
    rw [hclaims, List.head?_cons]
  have hkept : s.headsKept claim = publication.identity.owners.length := by
    rw [headsKept, ← hclaim.heads_length, List.countP_eq_length]
    exact fun recorded hmem => decide_eq_true (hheld.heads claim hhead recorded hmem)
  have hshown : s.candidateHeads key.driverOperation publication.identity.owners
      (candidateRecords stage claim) claim = .ok (some s.shared.heads) := by
    have hbounded := publication.identity.ownersBounded.1
    rw [candidateHeads, headsShown_eq_length hclaim hstage, if_neg (by omega), if_pos rfl]
  have hcompletion : s.completions.lookup key.driverOperation = none := by
    cases hstored : s.completions.lookup key.driverOperation with
    | none => rfl
    | some completion =>
      rcases hrelease.completion completion hstored with ⟨_, _, hcompleted⟩ | ⟨_, hdecided, -⟩
      · cases hphase.symm.trans hcompleted
      · cases hopen.symm.trans hdecided
  have hsealed : ∃ sealing, candidateSeal stage claim = some sealing := by
    cases stage with
    | awaitingWorkerFinalize maintenance candidate => exact ⟨candidate.sealing, rfl⟩
    | _ => cases hstage
  obtain ⟨sealing, hsealing⟩ := hsealed
  have hrows := hheld.rows
  simp only [allQuarantined, Bool.and_eq_true] at hrows
  obtain ⟨⟨hroutes, hfleet⟩, hdriver⟩ := hrows
  obtain ⟨driver, hdriver, hunknown⟩ := (Option.any_eq_true _ _).mp hdriver
  obtain ⟨t, hclosed, hheads, hidle, hleases⟩ := closeRecovery_of_rows (s := {
      ({ s with shared := { s.shared with heads := s.shared.heads } } : ReleaseState).withDriver
        key.driverOperation { driver with state := .succeeded response } with
      completions := s.completions.insert key.driverOperation
        ⟨publication.identity.selector .candidate, sealing, response⟩ })
    .candidate decisionDigest response hroutes hfleet hopen
  refine ⟨t, ?_, ⟨fun owner howner => ?_, hidle, fun owner howner => ?_⟩⟩
  · have hlookup : s.shared.drivers.lookup key.driverOperation = some driver := hdriver
    simp only [finishCandidate, hresponse, hvalid, hkept, hshown, hsealing, hcompletion, hlookup,
      of_decide_eq_true hunknown, ne_eq, not_true_eq_false, Bool.true_eq_false, or_self, if_false,
      hclosed]
  · rw [hheads]
    exact heads_of_awaiting hheld hhead hclaim hstage howner
  · obtain ⟨route, hroute, -⟩ := (Option.any_eq_true _ _).mp (List.all_eq_true.mp hroutes owner
      howner)
    refine ⟨idleRoute route, ?_, rfl⟩
    rw [hleases]
    exact mapRoutes_lookup _ publication.identity.ownersDistinct howner hroute

end Finish

/-- **Forward recovery completes only from the last phase.** Take any run, the review that
accepts the candidate of a live claim, and any continuation in which the rows of the fleet
run are as they were at the review. As long as the claim is live, its worker adopts the
operation and nothing was decided, the reviewed finish applies the candidate exactly when the
release was interrupted while it awaited its end. -/
theorem finishReviewed_applied_iff {env : DatabaseEnvironment}
    {start reviewed approved s : ReleaseState} {before after : List ReleaseEvent} {key : ClaimKey}
    {operation : ControlOperationLease} {observationDigest : String} {digest : Option String}
    {publication : ReleasePublication} {claim : RecoveryClaim} {stage : Stage}
    (hstart : Initial start) (hbefore : RunWhere (step env) Respects start before reviewed)
    (hreview : reviewed.reviewObservation env key.driverOperation key.fence operation
      observationDigest .acceptCandidate = (approved, .approved, digest))
    (hafter : RunWhere (step env) Respects approved after s)
    (hlocked : Locked s key publication claim) (hphase : publication.phase = .quarantined stage)
    (hopen : (s.recovery key.driverOperation).terminal = none)
    (hrows : s.runs.lookup publication.identity.fleetRun =
      reviewed.runs.lookup publication.identity.fleetRun) :
    (∃ t response, s.finishReviewed env key = .ok (t, .appliedRecovered, some response) ∧
      CandidateApplied t key.driverOperation publication.identity (candidateRecords stage claim)) ↔
      stage.isAwaitingWorkerFinalize = true := by
  have hreviewed := hstart.run_sound hbefore
  have hstep : reviewed.step env (.review key.driverOperation key.fence operation
      observationDigest .acceptCandidate) = some approved := by
    simp only [ReleaseState.step, hreview]
  have hlink : RunWhere (step env) Respects reviewed
      [.review key.driverOperation key.fence operation observationDigest .acceptCandidate]
      approved := .single trivial hstep
  have hrun := (hbefore.append hlink).append hafter
  have hsound := hstart.run_sound hrun
  obtain ⟨found, earlier, observation, review, hlookup, hfound, hlive, hobservation, haccepted,
    hvalid, happroved⟩ := reviewObservation_approved hreview
  have hrelease := hreviewed.releases _ _ hlookup
  obtain ⟨hfence, rest, hclaims⟩ := hrelease.head_of_live hfound hlive
  have hledger : approved.recovery key.driverOperation =
      ⟨{ earlier with review := some review } :: rest,
        (reviewed.recovery key.driverOperation).terminal⟩ := by
    rw [happroved, ← hfence]
    exact recovery_withClaim (fun claim => { claim with review := some review }) hclaims
      hrelease.ordered
  -- The release is in quarantine at the review, so its row is the same in the end.
  obtain ⟨interrupted, hinterrupted, -⟩ := hrelease.claims earlier
    (by rw [hclaims]; exact List.mem_cons_self)
  have hkeeps : Keeps approved s :=
    keeps_of_run (hreviewed.step (by trivial) hstep) hafter
  have hsame : publication = found := by
    have hrow : approved.publications.lookup key.driverOperation = some found := by
      rw [happroved]
      exact hlookup
    exact Option.some.inj (hlocked.lookup.symm.trans
      (hkeeps.quarantined _ found interrupted hrow hinterrupted))
  subst hsame
  -- So is what the claim had recorded by then.
  have hgrows : ClaimGrows { earlier with review := some review } claim := by
    have hrecorded : { earlier with review := some review } ∈
        (approved.recovery key.driverOperation).claims := by
      rw [hledger]
      exact List.mem_cons_self
    exact hkeeps.found hsound hrecorded (hfence ▸ hlocked.found)
  have hreview' : acceptingReview env key.driverOperation publication.identity.fleetRun claim =
      some review := by
    rw [acceptingReview_grows hgrows (by rw [haccepted]; rfl), haccepted]
  obtain ⟨resolution, hresolution, hfinish⟩ :=
    finishReviewed_eq_finishCandidate hsound hlocked hphase hopen hreview'
  rw [hfinish]
  constructor
  · rintro ⟨t, response, hanswer, -⟩
    exact awaiting_of_finishCandidate hsound hlocked hphase hanswer
  intro hstage
  obtain ⟨seen, stored, -, hseen, hstored, -, -, -, hresponse, -⟩ :=
    acceptingReview_some hreview'
  obtain rfl := Option.some.inj (hresolution.symm.trans hstored)
  obtain rfl := Option.some.inj (hseen.symm.trans (hgrows.observation _ hobservation))
  have hheld : Held s key.driverOperation publication :=
    hstart.run_allHeld hrun _ _ ⟨hlocked.lookup,
      by rw [ReleasePublication.interrupted, hphase]; rfl, hopen⟩
  obtain ⟨t, hanswer, happlied⟩ := finishCandidate_of_awaiting review.resolutionDigest hsound
    hheld hlocked hphase hopen hstage hresponse (hrows ▸ hvalid)
  exact ⟨t, _, hanswer, happlied⟩

/-! ## Two interrupted releases -/

/-- The digest that every artifact of the sample has. -/
def sampleDigest : String := "sha256:" ++ zeroDigest

def sampleAdoptedTenant : Adoption where
  id := 51
  operation := 3
  releaseId := "release"
  workshop := 1
  database := 52
  databaseRef := "mb"
  publicHostname := none
  prepared := true
  verified := true
  recoveryReady := true
  recoveryExpiresAt := none

def sampleIntent : ActivationIntent where
  releaseId := "release"
  runtimeKey := "shared-odoo"
  targetSlot := .green
  odooSubjectDigest := sampleDigest
  extensionSubjectDigest := sampleDigest
  pairQualificationDigest := sampleDigest
  preparedTenants := .array [sampleAdoptedTenant.toJson]
  gatewayConfigurationDigest := sampleDigest
  observedConfigurationDigest := some sampleDigest
  driverActionId := 50
  driverFence := some 1
  gatewayIdentityVersion := some 1
  activated := true
  abandoned := false

def samplePlatform : Json := .object [
  ("platform", .string "linux"),
  ("manifest_digest", .string sampleDigest),
  ("config_digest", .string sampleDigest),
  ("payload_digest", .string sampleDigest)]

def sampleManifest : Json := .object [
  ("release_id", .string "release"),
  ("odoo_runtime", .object [ ("subject_digest", .string sampleDigest),
    ("deployment_ref", .string "runtime"),
    ("platforms", .array [samplePlatform])]),
  ("extension_bundle", .object [ ("subject_digest", .string sampleDigest),
    ("platforms", .array [samplePlatform])]),
  ("pair_qualifications", .array [.object [ ("platform", .string "linux"),
    ("odoo_manifest_digest", .string sampleDigest),
    ("extension_manifest_digest", .string sampleDigest),
    ("payload_digest", .string sampleDigest),
    ("qualification_digest", .string sampleDigest),
    ("qualification_result", .string "passed")]]),
  ("addons", .object []),
  ("bridge_contract_digest", .string sampleDigest)]

/-- The fleet run of the sample after the gateway was switched. -/
def switchedRun : FleetRun where
  operation := 3
  releaseId := "release"
  state := .preparing
  targetSlot := some .green
  driverFence := some 1
  fleetGeneration := 1
  tenantSnapshot := .array [.string "tenant"]
  release := some ⟨sampleDigest, sampleDigest, sampleDigest, sampleManifest⟩
  intents := [sampleIntent]
  adoptions := [sampleAdoptedTenant]

def sampleObservation : Json := .object [
  ("protocol_version", .number 1),
  ("odoo_manifest_digest", .string sampleDigest),
  ("odoo_config_digest", .string sampleDigest),
  ("extension_manifest_digest", .string sampleDigest),
  ("extension_config_digest", .string sampleDigest),
  ("payload_digest", .string sampleDigest),
  ("extension_volume", .string ("mb-ext-" ++ digestPart sampleDigest ++ "-" ++
    digestPart sampleDigest)),
  ("runtime_container", .string "mb-odoo-green"),
  ("runtime_config_digest", .string sampleDigest),
  ("external_executor_quiescent", .bool true),
  ("candidate_runtime_verified", .bool true),
  ("gateway_identity_verified", .bool true),
  ("target_database_access_verified", .bool true),
  ("old_runtime_retired", .bool true),
  ("tenant_recovery_verified", .bool true),
  ("candidate_smoke_verified", .bool true),
  ("candidate_restart_policy", .string "unless-stopped"),
  ("retained_restart_policy", .string "no"),
  ("observed_gateway_configuration_digest", .string sampleDigest),
  ("observed_target_slot", .string "green")]

/-- The directories of the two overlays. -/
def sampleDirectory : OverlayKind → Directory
  | .maintenance => ⟨3, 4⟩
  | .candidate => ⟨5, 6⟩

variable (overlay : OverlayKind)

def sampleLoaded : Json := .object [
  ("driver_operation_id", .string sampleOperation.toText),
  ("fleet_run_id", .string sampleRun.toText),
  ("original_global_fence_token", .number 1),
  ("overlay_kind", .string overlay.asStr),
  ("protocol_version", .number 1),
  ("route_set_digest", .string sampleDigest),
  ("target_slot", .string "green")]

def sampleArtifact : Json :=
  artifact (overlaySelector sampleRun overlay) (sampleDirectory overlay)
    (some (sampleLoaded overlay))

def candidateEvidence : Json := .object [
  ("protocol_version", .number 1),
  ("driver_operation_id", .string sampleOperation.toText),
  ("fleet_run_id", .string sampleRun.toText),
  ("claim_fence", .number 1),
  ("resolution_kind", .string "candidate"),
  ("observed_selector", .string (overlaySelector sampleRun .candidate)),
  ("observed_directory_device", .number 5),
  ("observed_directory_inode", .number 6),
  ("observed_loaded_identity", sampleLoaded .candidate),
  ("maintenance_artifact", sampleArtifact .maintenance),
  ("candidate_artifact", sampleArtifact .candidate)]

/-- Stage and publish an overlay of the sample. -/
def overlayEvents : List ReleaseEvent := [
  .writer sampleLease (.recordOverlay overlay ⟨1, sampleOwner.target, "sha256:a", sampleDigest⟩),
  .writer sampleLease (.sealOverlay overlay ⟨overlaySelector sampleRun overlay,
    sampleDirectory overlay, 1, sampleDigest⟩),
  .writer sampleLease (.startOverlay overlay)]

def observeEvent : ReleaseEvent :=
  .writer sampleLease (.observeOverlay overlay ⟨1, sampleRun, sampleOperation, 1, overlay,
    sampleDigest, .green, overlaySelector sampleRun overlay, sampleDirectory overlay⟩)

/-- The release publishes its maintenance overlay and exchanges the runtime. -/
def exchangeEvents : List ReleaseEvent :=
  [.writer sampleLease (.admitRelease 60),
    .writer sampleLease (.recordPrior ⟨"generations/boot-live", ⟨1, 2⟩, none⟩)] ++
  overlayEvents .maintenance ++ [observeEvent .maintenance,
    .writer sampleLease .beginExternalEffects] ++ overlayEvents .candidate

/-- Its driver goes away, and a second attempt records its evidence. -/
def evidenceEvents : List ReleaseEvent := [
  .runs (some .blue) (AList.insert sampleRun switchedRun ∅),
  .queue (.advance (seconds 61)),
  .queue (.lease .releaseAdoption "worker-b" fun _ => false),
  .recovery sampleKey (.claim 60),
  .recovery sampleKey (.recordObservation sampleObservation),
  .recovery sampleKey (.authorizeFromObservation sampleDigest),
  .recovery sampleKey (.resolve .candidate candidateEvidence none)]

def acceptReview (s : ReleaseState) : ReleaseState × ReleaseOutcome × Option String :=
  s.reviewObservation zeroHash sampleKey.driverOperation sampleKey.fence
    ⟨3, 2, "worker-b"⟩ sampleDigest .acceptCandidate

/-- The review accepts the candidate of a live claim, and the release that waits passes a
test. -/
def approvedWhere (test : ReleaseState → Stage → Bool) (s : ReleaseState) : Bool :=
  match acceptReview s with
  | (t, .approved, _) =>
    (t.lockClaim sampleKey).any (fun found => found.1.interrupted.any (test t)) &&
      (t.recovery sampleKey.driverOperation).terminal.isNone
  | _ => false

theorem sampleEvents_respect (extra : List OverlayKind) :
    ∀ event ∈ exchangeEvents ++ extra.map observeEvent ++ evidenceEvents, ∀ s, Respects s
      event := by
  intro event hmem s
  cases event with
  | shared rows =>
    simp [exchangeEvents, overlayEvents, observeEvent, evidenceEvents] at hmem
  | _ => trivial

theorem exists_approved (extra : List OverlayKind) (test : ReleaseState → Stage → Bool)
    (h : (replay (step zeroHash) beforeRelease
      (exchangeEvents ++ extra.map observeEvent ++ evidenceEvents)).any (approvedWhere test) =
        true) :
    ∃ reviewed approved digest publication claim stage,
      RunWhere (step zeroHash) Respects beforeRelease
        (exchangeEvents ++ extra.map observeEvent ++ evidenceEvents) reviewed ∧
      acceptReview reviewed = (approved, .approved, digest) ∧
      Locked approved sampleKey publication claim ∧ publication.phase = .quarantined stage ∧
      (approved.recovery sampleKey.driverOperation).terminal = none ∧ test approved stage =
        true := by
  obtain ⟨reviewed, hreplay, hchecks⟩ := (Option.any_eq_true _ _).mp h
  unfold approvedWhere at hchecks
  split at hchecks
  swap
  · cases hchecks
  rename_i approved digest hreview
  rw [Bool.and_eq_true, Option.isNone_iff_eq_none] at hchecks
  obtain ⟨⟨publication, claim⟩, hlock, htest⟩ := (Option.any_eq_true _ _).mp hchecks.1
  obtain ⟨stage, hstage, htest⟩ := (Option.any_eq_true _ _).mp htest
  refine ⟨reviewed, approved, digest, publication, claim, stage,
    runWhere_of_replay (sampleEvents_respect extra) hreplay, hreview,
    lockClaim_eq_some_iff.mp hlock, ?_, hchecks.2, htest⟩
  obtain ⟨other, hphase⟩ := phase_of_interrupted (by rw [hstage]; rfl)
  rw [ReleasePublication.interrupted, hphase] at hstage
  cases hstage
  exact hphase

/-- The finish is refused by the trigger. -/
def refusedByTrigger (s : ReleaseState) (stage : Stage) : Bool :=
  stage.effectsStarted &&
    match s.finishReviewed zeroHash sampleKey with
    | .error .appliedBindingNotAuthorized => true
    | _ => false

theorem approved_refused : (replay (step zeroHash) beforeRelease
    (exchangeEvents ++ [].map observeEvent ++ evidenceEvents)).any
      (approvedWhere refusedByTrigger) = true := by
  decide +kernel

/-- A release that was interrupted while it published its candidate. All the evidence is
recorded and accepted, and the finish raises. -/
theorem finishReviewed_raises : ∃ reviewed approved digest publication claim stage,
    Initial beforeRelease ∧
    RunWhere (step zeroHash) Respects beforeRelease
      (exchangeEvents ++ evidenceEvents) reviewed ∧
    acceptReview reviewed = (approved, .approved, digest) ∧
    Locked approved sampleKey publication claim ∧ publication.phase = .quarantined stage ∧
    stage.effectsStarted = true ∧
    (approved.recovery sampleKey.driverOperation).terminal = none ∧
    approved.finishReviewed zeroHash sampleKey =
      .error .appliedBindingNotAuthorized := by
  obtain ⟨reviewed, approved, digest, publication, claim, stage, hrun, hreview, hlocked, hphase,
    hopen, htest⟩ := exists_approved [] refusedByTrigger approved_refused
  unfold refusedByTrigger at htest
  rw [Bool.and_eq_true] at htest
  refine ⟨reviewed, approved, digest, publication, claim, stage, beforeRelease_initial, hrun,
    hreview, hlocked, hphase, htest.1, hopen, ?_⟩
  have hraised := htest.2
  split at hraised
  · assumption
  · cases hraised

/-- A release that was interrupted while it awaited its end is applied. -/
theorem finishReviewed_applies : ∃ (approved t : ReleaseState) (response : Json)
    (publication : ReleasePublication),
    approved.finishReviewed zeroHash sampleKey =
        .ok (t, .appliedRecovered, some response) ∧
      approved.publications.lookup sampleOperation = some publication ∧
      ∃ records, CandidateApplied t sampleOperation publication.identity records := by
  obtain ⟨reviewed, approved, digest, publication, claim, stage, hrun, hreview, hlocked, hphase,
    hopen, hstage⟩ := exists_approved [.candidate] (fun _ stage => stage.isAwaitingWorkerFinalize)
      (by decide +kernel)
  obtain ⟨_, _, _, _, _, _, _, _, _, _, happroved⟩ := reviewObservation_approved hreview
  obtain ⟨t, response, hanswer, happlied⟩ := (finishReviewed_applied_iff beforeRelease_initial
    hrun hreview (.nil approved) hlocked hphase hopen (by rw [happroved]; rfl)).mpr hstage
  exact ⟨approved, t, response, publication, hanswer, hlocked.lookup, _, happlied⟩

/-- The candidate is accepted and applied. -/
def acceptedEvents : List ReleaseEvent :=
  exchangeEvents ++ [observeEvent .candidate] ++ evidenceEvents ++
    [.review sampleKey.driverOperation sampleKey.fence ⟨3, 2, "worker-b"⟩ sampleDigest
      .acceptCandidate, .recovery sampleKey .finishReviewed]

/-- One release is decided as not applied and another one as its candidate; both decisions
are final. -/
theorem recovery_decides_once_either_way :
    (∃ s terminal, RunWhere (step zeroHash) Respects beforeRelease
        notAppliedEvents s ∧ (s.recovery sampleOperation).terminal = some terminal ∧
      Decided zeroHash s sampleOperation terminal) ∧
    ∃ s terminal completion, RunWhere (step zeroHash) Respects beforeRelease
        acceptedEvents s ∧ (s.recovery sampleOperation).terminal = some terminal ∧
      s.completions.lookup sampleOperation = some completion ∧ terminal.kind = .candidate ∧
      CandidateAccepted zeroHash s sampleOperation terminal ∧
      Decided zeroHash s sampleOperation terminal := by
  constructor
  · obtain ⟨s, terminal, hrun, hterminal, -⟩ := exists_notApplied
    exact ⟨s, terminal, hrun, hterminal, (((recovery_decides_once zeroHash
      beforeRelease_initial hrun (.nil s)).2 sampleOperation).2.2 terminal hterminal).1⟩
  · have hdecided : (replay (step zeroHash) beforeRelease acceptedEvents).any
        (fun s => (s.recovery sampleOperation).terminal.isSome &&
          (s.completions.lookup sampleOperation).isSome) = true := by
      decide +kernel
    obtain ⟨s, hreplay, hchecks⟩ := (Option.any_eq_true _ _).mp hdecided
    rw [Bool.and_eq_true] at hchecks
    obtain ⟨terminal, hterminal⟩ := Option.isSome_iff_exists.mp hchecks.1
    obtain ⟨completion, hcompletion⟩ := Option.isSome_iff_exists.mp hchecks.2
    have hrespects : ∀ event ∈ acceptedEvents, ∀ s, Respects s event := by
      intro event hmem s
      rcases List.mem_append.mp hmem with hsample | hlast
      · exact sampleEvents_respect [.candidate] event hsample s
      · simp only [List.mem_cons, List.not_mem_nil, or_false] at hlast
        rcases hlast with rfl | rfl <;> trivial
    have hrun := runWhere_of_replay hrespects hreplay
    obtain ⟨hfinal, haccepted, -, hkind⟩ := ((recovery_decides_once zeroHash
      beforeRelease_initial hrun (.nil s)).2 sampleOperation).2.2 terminal hterminal
    have hcandidate := hkind completion hcompletion
    exact ⟨s, terminal, completion, hrun, hterminal, hcompletion, hcandidate,
      haccepted hcandidate, hfinal⟩

/-! ## The fleet of an interrupted release -/

/-- A release that waits in quarantine holds its rows, no other release waits, and no call
of any writer changes anything. -/
theorem waiting_release_freezes {env : DatabaseEnvironment} {start s : ReleaseState}
    {events : List ReleaseEvent} (hstart : Initial start)
    (hrun : RunWhere (step env) Respects start events s) {id : Uuid}
    {publication : ReleasePublication} (hwaiting : s.Waiting id publication) :
    Held s id publication ∧ (∀ other found, s.Waiting other found → other = id) ∧
      ∀ lease call, s.writerCall env lease call = s := by
  have hall : AllHeld s := hstart.run_allHeld hrun
  have hheld := hall id publication hwaiting
  refine ⟨hheld, fun other found hother => ?_, fun lease call =>
    writerCall_fleetQuarantined hheld.fleetQuarantined call⟩
  -- The shared lease names the release that it is in quarantine for.
  have hphase := phase_of_fleetQuarantined (fleetQuarantined_of_rows hheld.rows)
  rw [phase_of_fleetQuarantined (fleetQuarantined_of_rows (hall other found hother).rows)] at hphase
  injection hphase with hauthority
  injection hauthority

theorem waiting_release_freezes_approved : ∃ (s : ReleaseState) (publication : ReleasePublication),
    s.Waiting sampleOperation publication ∧
      ∀ lease call, s.writerCall zeroHash lease call = s := by
  obtain ⟨reviewed, approved, digest, publication, claim, stage, hrun, hreview, hlocked, hphase,
    hopen, -⟩ := exists_approved [] refusedByTrigger approved_refused
  have hlast : RunWhere (step zeroHash) Respects reviewed
      [.review sampleKey.driverOperation sampleKey.fence ⟨3, 2, "worker-b"⟩ sampleDigest
        .acceptCandidate] approved :=
    .single trivial (congrArg some (congrArg Prod.fst hreview))
  have hwaiting : approved.Waiting sampleOperation publication :=
    ⟨hlocked.lookup, by rw [ReleasePublication.interrupted, hphase]; rfl, hopen⟩
  exact ⟨approved, publication, hwaiting, (waiting_release_freezes beforeRelease_initial
    (hrun.append hlast) hwaiting).2.2⟩

end ControlPlane.Releases
