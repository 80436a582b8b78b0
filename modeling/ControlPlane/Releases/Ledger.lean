/-
# The ledger of a recovery

What is written under the fence of a claim is never changed: a claim only grows. One
invariant about each release carries the rest. The claims are ordered by their fences and
only the newest can be live; a resolution repeats who made the claim and what it was
allowed to do; a review names the observation and the resolution of its own fence; and a
decision is the decision of the newest claim.

A decision for the candidate leaves the heads as they are. The head update of the finish
sets off the trigger on the route heads, which knows a release only while it publishes, and
a release in recovery is in quarantine. So the finish goes through only when the heads show
the candidate already.
-/

import ControlPlane.Releases.System

namespace ControlPlane.Releases

open Domain Driver Math Persistence
open Routes Publications ReleaseState

/-! ## Growing claims -/

/-- What was recorded under a fence is still recorded. -/
structure ClaimGrows (before after : RecoveryClaim) : Prop where
  fence : after.fence = before.fence
  mode : after.mode = before.mode
  attempt : after.attempt = before.attempt
  leaseOwner : after.leaseOwner = before.leaseOwner
  owner : after.owner = before.owner
  token : after.token = before.token
  heads : after.heads = before.heads
  disposal : ∀ overlay, before.authorizations.disposeOverlay = some overlay →
    after.authorizations.disposeOverlay = some overlay
  restore : before.authorizations.restorePrior = true → after.authorizations.restorePrior = true
  publish : ∀ response, before.authorizations.publishCandidate = some response →
    after.authorizations.publishCandidate = some response
  observation : ∀ observation, before.observation = some observation →
    after.observation = some observation
  resolution : ∀ resolution, before.resolution = some resolution →
    after.resolution = some resolution
  review : ∀ review, before.review = some review → after.review = some review

theorem ClaimGrows.refl (claim : RecoveryClaim) : ClaimGrows claim claim :=
  ⟨rfl, rfl, rfl, rfl, rfl, rfl, rfl, fun _ => id, id, fun _ => id, fun _ => id, fun _ => id,
    fun _ => id⟩

theorem ClaimGrows.trans {a b c : RecoveryClaim} (hab : ClaimGrows a b) (hbc : ClaimGrows b c) :
    ClaimGrows a c where
  fence := hbc.fence.trans hab.fence
  mode := hbc.mode.trans hab.mode
  attempt := hbc.attempt.trans hab.attempt
  leaseOwner := hbc.leaseOwner.trans hab.leaseOwner
  owner := hbc.owner.trans hab.owner
  token := hbc.token.trans hab.token
  heads := hbc.heads.trans hab.heads
  disposal overlay h := hbc.disposal overlay (hab.disposal overlay h)
  restore h := hbc.restore (hab.restore h)
  publish response h := hbc.publish response (hab.publish response h)
  observation observation h := hbc.observation observation (hab.observation observation h)
  resolution resolution h := hbc.resolution resolution (hab.resolution resolution h)
  review review h := hbc.review review (hab.review review h)

/-! ## One claim -/

/-- The kind of a resolution agrees with the mode of its claim and with what the claimant
was allowed to do. -/
def KindAllowed (claim : RecoveryClaim) (resolution : ReleaseResolution) : Prop :=
  match resolution.kind with
  | .candidate => claim.mode = .forwardOnly ∧ ∃ observation, claim.observation = some observation ∧
      resolution.candidateResponse = some observation.completionResponse ∧
      claim.authorizations.publishCandidate = some observation.completionResponse
  | .prior => isObject (resolution.evidence.get "observed_loaded_identity") = true ∧
      ((claim.mode = .writeCleanup ∧ claim.authorizations.disposeOverlay.isSome = true) ∨
        (claim.mode = .restorePrior ∧ claim.authorizations.restorePrior = true))
  | .unstarted => False
  | .inconclusive => True

/-- A resolution repeats its claim. -/
structure ResolutionSound (env : DatabaseEnvironment) (claim : RecoveryClaim)
    (resolution : ReleaseResolution) : Prop where
  attempt : resolution.attempt = claim.attempt
  leaseOwner : resolution.leaseOwner = claim.leaseOwner
  owner : resolution.owner = claim.owner
  token : resolution.tokenDigest = recoveryTokenDigest env claim.token
  kind : KindAllowed claim resolution

/-- A review is about the observation and the resolution of its own fence. -/
structure ReviewSound (env : DatabaseEnvironment) (id fleetRun : Uuid) (claim : RecoveryClaim)
    (review : ReleaseReview) : Prop where
  observation : ∃ observation, claim.observation = some observation ∧
    review.observationDigest = observation.digest
  resolution : ∃ resolution, claim.resolution = some resolution ∧ resolution.kind = .candidate ∧
    review.resolutionDigest = candidateDigest env id fleetRun claim.fence resolution

/-- What holds of every claim of a release that was interrupted in a stage. -/
structure ClaimSound (env : DatabaseEnvironment) (id : Uuid) (identity : ReleaseIdentity)
    (stage : Stage) (claim : RecoveryClaim) : Prop where
  mode : claim.mode = stage.claimMode
  attempt : identity.controlOperation.attempt < claim.attempt
  heads : ∀ recorded ∈ claim.heads, ∃ owner ∈ identity.owners, owner.workshop = recorded.1 ∧
    headInterrupted id stage owner recorded.2 = true
  headsComplete : claim.heads.map Prod.fst = identity.owners.map RouteOwner.workshop
  resolution : ∀ resolution, claim.resolution = some resolution →
    ResolutionSound env claim resolution
  review : ∀ review, claim.review = some review → ReviewSound env id identity.fleetRun claim review

variable {env : DatabaseEnvironment} {id fleetRun : Uuid} {identity : ReleaseIdentity}
  {stage : Stage} {claim before after : RecoveryClaim} {resolution : ReleaseResolution}
  {s : ReleaseState} {publication : ReleasePublication} {fence : Nat}

theorem ClaimSound.heads_length (h : ClaimSound env id identity stage claim) :
    claim.heads.length = identity.owners.length := by
  simpa using congrArg List.length h.headsComplete

theorem KindAllowed.grows (h : KindAllowed before resolution) (hgrows : ClaimGrows before after) :
    KindAllowed after resolution := by
  unfold KindAllowed at h ⊢
  cases hkind : resolution.kind with
  | candidate =>
    simp only [hkind] at h ⊢
    obtain ⟨hmode, observation, hrecorded, hresponse, hpublish⟩ := h
    exact ⟨hgrows.mode.trans hmode, observation, hgrows.observation _ hrecorded, hresponse,
      hgrows.publish _ hpublish⟩
  | prior =>
    simp only [hkind] at h ⊢
    obtain ⟨hidentity, ⟨hmode, hdisposal⟩ | ⟨hmode, hrestore⟩⟩ := h
    · obtain ⟨overlay, hoverlay⟩ := Option.isSome_iff_exists.mp hdisposal
      refine ⟨hidentity, Or.inl ⟨hgrows.mode.trans hmode, ?_⟩⟩
      rw [hgrows.disposal _ hoverlay, Option.isSome_some]
    · exact ⟨hidentity, Or.inr ⟨hgrows.mode.trans hmode, hgrows.restore hrestore⟩⟩
  | unstarted =>
    simp only [hkind] at h
  | inconclusive => trivial

theorem ResolutionSound.grows (h : ResolutionSound env before resolution)
    (hgrows : ClaimGrows before after) : ResolutionSound env after resolution where
  attempt := h.attempt.trans hgrows.attempt.symm
  leaseOwner := h.leaseOwner.trans hgrows.leaseOwner.symm
  owner := h.owner.trans hgrows.owner.symm
  token := by rw [hgrows.token, h.token]
  kind := h.kind.grows hgrows

theorem ReviewSound.grows {review : ReleaseReview} (h : ReviewSound env id fleetRun before review)
    (hgrows : ClaimGrows before after) : ReviewSound env id fleetRun after review where
  observation := by
    obtain ⟨observation, hrecorded, hdigest⟩ := h.observation
    exact ⟨observation, hgrows.observation _ hrecorded, hdigest⟩
  resolution := by
    obtain ⟨resolution, hrecorded, hkind, hdigest⟩ := h.resolution
    exact ⟨resolution, hgrows.resolution _ hrecorded, hkind, by rw [hgrows.fence, hdigest]⟩

/-- A claim that grows stays sound when what is new in it is. -/
theorem ClaimSound.grows (h : ClaimSound env id identity stage before)
    (hgrows : ClaimGrows before after)
    (hresolution : ∀ resolution, after.resolution = some resolution →
      before.resolution = some resolution ∨ ResolutionSound env after resolution)
    (hreview : ∀ review, after.review = some review →
      before.review = some review ∨ ReviewSound env id identity.fleetRun after review) :
    ClaimSound env id identity stage after where
  mode := hgrows.mode.trans h.mode
  attempt := by rw [hgrows.attempt]; exact h.attempt
  heads := by rw [hgrows.heads]; exact h.heads
  headsComplete := by rw [hgrows.heads]; exact h.headsComplete
  resolution resolution hrecorded := by
    rcases hresolution resolution hrecorded with hbefore | hnew
    · exact (h.resolution resolution hbefore).grows hgrows
    · exact hnew
  review review hrecorded := by
    rcases hreview review hrecorded with hbefore | hnew
    · exact (h.review review hbefore).grows hgrows
    · exact hnew

/-! ## One release -/

/-- A decision is the decision of the newest claim. For the candidate, the heads showed it
when the release was interrupted, and a review had accepted it. -/
structure TerminalSound (env : DatabaseEnvironment) (id fleetRun : Uuid) (stage : Stage)
    (claim : RecoveryClaim) (terminal : RecoveryTerminal) : Prop where
  fence : terminal.fence = claim.fence
  attempt : terminal.attempt = claim.attempt
  leaseOwner : terminal.leaseOwner = claim.leaseOwner
  owner : terminal.owner = claim.owner
  resolution : ∃ resolution, claim.resolution = some resolution ∧ resolution.kind = terminal.kind ∧
    (terminal.kind = .candidate → resolution.candidateResponse = some terminal.response ∧
      terminal.decisionDigest = candidateDigest env id fleetRun claim.fence resolution)
  sealed : stage.isCandidateStaging = false
  accepted : terminal.kind = .candidate → stage.isAwaitingWorkerFinalize = true ∧
    (acceptingReview env id fleetRun claim).isSome = true
  decided : terminal.kind ≠ .inconclusive

/-- The invariant of a release. -/
structure ReleaseSound (env : DatabaseEnvironment) (s : ReleaseState) (id : Uuid)
    (publication : ReleasePublication) : Prop where
  ordered : (s.recovery id).claims.Pairwise fun newer older => older.fence < newer.fence
  expired : ∀ claim ∈ (s.recovery id).claims.tail, claim.live s.now = false
  claims : ∀ claim ∈ (s.recovery id).claims, ∃ stage, publication.phase = .quarantined stage ∧
    ClaimSound env id publication.identity stage claim
  terminal : ∀ terminal, (s.recovery id).terminal = some terminal → ∃ stage claim,
    publication.phase = .quarantined stage ∧ (s.recovery id).claims.head? = some claim ∧
      TerminalSound env id publication.identity.fleetRun stage claim terminal
  completion : ∀ completion, s.completions.lookup id = some completion →
    (∃ maintenance candidate, publication.phase = .completed maintenance candidate) ∨
      ∃ terminal, (s.recovery id).terminal = some terminal ∧ terminal.kind = .candidate
  fences : ∀ owner ∈ publication.identity.owners, owner.appliedFence ≤ owner.snapshotFence

/-- The invariant of the system. -/
structure Sound (env : DatabaseEnvironment) (s : ReleaseState) : Prop where
  releases : ∀ id publication, s.publications.lookup id = some publication →
    ReleaseSound env s id publication
  absent : ∀ id, s.publications.lookup id = none →
    s.recovery id = .empty ∧ s.completions.lookup id = none
  snapshots : FencesOrdered s.shared.snapshots

theorem Initial.sound (h : Initial s) : Sound env s where
  releases id publication hlookup := by
    rw [h.publications] at hlookup
    cases hlookup
  absent id _ := by
    simp [recovery, h.recoveries, h.completions]
  snapshots := h.snapshots

/-- The invariant reads the time, the publication, the recovery and the completion. -/
theorem ReleaseSound.of_same {t : ReleaseState} (h : ReleaseSound env s id publication)
    (hnow : s.now ≤ t.now) (hrecovery : t.recovery id = s.recovery id)
    (hcompletion : t.completions.lookup id = s.completions.lookup id) :
    ReleaseSound env t id publication where
  ordered := by rw [hrecovery]; exact h.ordered
  expired claim hmem := by
    rw [hrecovery] at hmem
    have hexpired := h.expired claim hmem
    simp only [RecoveryClaim.live, decide_eq_false_iff_not, not_lt] at hexpired ⊢
    exact hexpired.trans hnow
  claims := by rw [hrecovery]; exact h.claims
  terminal := by rw [hrecovery]; exact h.terminal
  completion := by rw [hrecovery, hcompletion]; exact h.completion
  fences := h.fences

/-- A release that was never claimed has only its completion to account for. -/
theorem ReleaseSound.of_empty (hempty : s.recovery id = .empty)
    (hcompletion : ∀ completion, s.completions.lookup id = some completion →
      ∃ maintenance candidate, publication.phase = .completed maintenance candidate)
    (hfences : ∀ owner ∈ publication.identity.owners,
      owner.appliedFence ≤ owner.snapshotFence) : ReleaseSound env s id publication where
  ordered := by rw [hempty]; exact List.Pairwise.nil
  expired claim hmem := by rw [hempty] at hmem; cases hmem
  claims claim hmem := by rw [hempty] at hmem; cases hmem
  terminal terminal hterminal := by rw [hempty] at hterminal; cases hterminal
  completion completion hlookup := Or.inl (hcompletion completion hlookup)
  fences := hfences

/-- A release that is not in quarantine was never claimed. -/
theorem ReleaseSound.recovery_empty (h : ReleaseSound env s id publication)
    (hphase : ∀ stage, publication.phase ≠ .quarantined stage) : s.recovery id = .empty := by
  have hclaims : (s.recovery id).claims = [] := by
    rw [List.eq_nil_iff_forall_not_mem]
    intro claim hmem
    obtain ⟨stage, hquarantined, -⟩ := h.claims claim hmem
    exact hphase stage hquarantined
  have hterminal : (s.recovery id).terminal = none := by
    cases hdecided : (s.recovery id).terminal with
    | none => rfl
    | some terminal =>
      obtain ⟨stage, -, hquarantined, -⟩ := h.terminal terminal hdecided
      exact absurd hquarantined (hphase stage)
  cases hledger : s.recovery id with
  | mk claims terminal =>
    rw [hledger] at hclaims hterminal
    rw [RecoveryLedger.empty, ← hclaims, ← hterminal]

/-! ## Calls of the writer -/

theorem Sound.writerFrame {t : ReleaseState} (h : Sound env s) (hframe : WriterFrame s t id) :
    Sound env t := by
  have hrecovery : ∀ other, t.recovery other = s.recovery other := fun other => by
    rw [recovery, recovery, hframe.recoveries]
  have hnow : s.now ≤ t.now := by rw [now, now, hframe.queue]
  refine ⟨fun other publication hlookup => ?_, fun other hlookup => ?_, ?_⟩
  · by_cases hother : other = id
    · subst hother
      cases hframe.move with
      | same hsame hcompletion =>
        exact (h.releases _ _ (hsame ▸ hlookup)).of_same hnow (hrecovery _) hcompletion
      | admitted hnew hfrozen howners hadmitted hcompletion =>
        obtain ⟨hempty, hnone⟩ := h.absent _ hnew
        rw [hadmitted] at hlookup
        cases hlookup
        refine .of_empty ((hrecovery _).trans hempty) ?_ ?_
        · rw [hcompletion, hnone]
          intro completion hsome
          cases hsome
        · intro owner hmem
          rw [howners] at hmem
          exact h.snapshots _ _ hfrozen owner hmem
      | moved hbefore hlive hmoved hcompletion hnext =>
        have hsound := h.releases _ _ hbefore
        have hempty := hsound.recovery_empty fun stage => by rw [hlive]; simp
        rw [hmoved] at hlookup
        cases hlookup
        refine .of_empty ((hrecovery _).trans hempty) ?_ hsound.fences
        rw [hcompletion]
        intro completion hsome
        rcases hsound.completion completion hsome with ⟨_, _, hphase⟩ | ⟨terminal, hterminal, -⟩
        · rw [hlive] at hphase
          cases hphase
        · rw [hempty] at hterminal
          cases hterminal
      | completed hbefore hlive hcompleted =>
        have hsound := h.releases _ _ hbefore
        have hempty := hsound.recovery_empty fun stage => by rw [hlive]; simp
        rw [hcompleted] at hlookup
        cases hlookup
        exact .of_empty ((hrecovery _).trans hempty) (fun _ _ => ⟨_, _, rfl⟩) hsound.fences
    · rw [hframe.publications other hother] at hlookup
      exact (h.releases other publication hlookup).of_same hnow (hrecovery other)
        (hframe.completions other hother)
  · by_cases hother : other = id
    · subst hother
      cases hframe.move with
      | same hsame hcompletion =>
        obtain ⟨hempty, hnone⟩ := h.absent other (hsame ▸ hlookup)
        exact ⟨(hrecovery _).trans hempty, hcompletion.trans hnone⟩
      | admitted _ _ _ hadmitted _ | moved _ _ hadmitted _ _ | completed _ _ hadmitted =>
        rw [hadmitted] at hlookup
        cases hlookup
    · rw [hframe.publications other hother] at hlookup
      obtain ⟨hempty, hnone⟩ := h.absent other hlookup
      exact ⟨(hrecovery other).trans hempty, (hframe.completions other hother).trans hnone⟩
  · rw [hframe.snapshots]
    exact h.snapshots

/-! ## The newest claim -/

@[simp]
theorem recovery_insert_self (s : ReleaseState) (id : Uuid) (ledger : RecoveryLedger) :
    ({ s with recoveries := s.recoveries.insert id ledger } : ReleaseState).recovery id =
      ledger := by
  simp [recovery]

theorem recovery_insert_ne {other : Uuid} (hother : other ≠ id) (ledger : RecoveryLedger) :
    ({ s with recoveries := s.recoveries.insert id ledger } : ReleaseState).recovery other =
      s.recovery other := by
  simp [recovery, AList.lookup_insert_ne hother]

/-- Only the newest claim is live. -/
theorem ReleaseSound.head_of_live (h : ReleaseSound env s id publication)
    (hfound : (s.recovery id).claim fence = some claim) (hlive : claim.live s.now = true) :
    claim.fence = fence ∧ ∃ rest, (s.recovery id).claims = claim :: rest := by
  have hmem := List.mem_of_find?_eq_some hfound
  refine ⟨by simpa using List.find?_some hfound, ?_⟩
  cases hclaims : (s.recovery id).claims with
  | nil =>
    rw [hclaims] at hmem
    cases hmem
  | cons newest rest =>
    rw [hclaims, List.mem_cons] at hmem
    rcases hmem with rfl | hmem
    · exact ⟨rest, rfl⟩
    · have hexpired := h.expired claim (by rw [hclaims]; exact hmem)
      rw [hlive] at hexpired
      cases hexpired

theorem recovery_withClaim {rest : List RecoveryClaim} (change : RecoveryClaim → RecoveryClaim)
    (hclaims : (s.recovery id).claims = claim :: rest)
    (hordered : (s.recovery id).claims.Pairwise fun newer older => older.fence < newer.fence) :
    (s.withClaim id claim.fence change).recovery id =
      ⟨change claim :: rest, (s.recovery id).terminal⟩ := by
  rw [withClaim, recovery_insert_self, RecoveryLedger.modify]
  rw [hclaims] at hordered ⊢
  have hrest : rest.map (fun other => if other.fence = claim.fence then change other else other) =
      rest := by
    conv_rhs => rw [← List.map_id rest]
    apply List.map_congr_left
    intro other hmem
    have hlt := (List.pairwise_cons.mp hordered).1 other hmem
    exact if_neg (Nat.ne_of_lt hlt)
  rw [List.map_cons, if_pos rfl, hrest]

theorem acceptingReview_grows (hgrows : ClaimGrows before after)
    (h : (acceptingReview env id fleetRun before).isSome = true) :
    acceptingReview env id fleetRun after = acceptingReview env id fleetRun before := by
  unfold acceptingReview at h ⊢
  split at h
  · rename_i review observation resolution hreview hobservation hresolution
    simp only [hgrows.review _ hreview, hgrows.observation _ hobservation,
      hgrows.resolution _ hresolution, hgrows.fence]
  · cases h

theorem TerminalSound.grows {terminal : RecoveryTerminal}
    (h : TerminalSound env id fleetRun stage before terminal) (hgrows : ClaimGrows before after) :
    TerminalSound env id fleetRun stage after terminal where
  fence := h.fence.trans hgrows.fence.symm
  attempt := h.attempt.trans hgrows.attempt.symm
  leaseOwner := h.leaseOwner.trans hgrows.leaseOwner.symm
  owner := h.owner.trans hgrows.owner.symm
  resolution := by
    obtain ⟨resolution, hrecorded, hkind, hcandidate⟩ := h.resolution
    refine ⟨resolution, hgrows.resolution _ hrecorded, hkind, fun hterminal => ?_⟩
    rw [hgrows.fence]
    exact hcandidate hterminal
  sealed := h.sealed
  accepted hkind := by
    obtain ⟨hstage, hreview⟩ := h.accepted hkind
    refine ⟨hstage, ?_⟩
    rw [acceptingReview_grows hgrows hreview]
    exact hreview
  decided := h.decided

theorem ReleaseSound.grow {change : RecoveryClaim → RecoveryClaim}
    (h : ReleaseSound env s id publication) (hfound : (s.recovery id).claim fence = some claim)
    (hlive : claim.live s.now = true) (hgrows : ClaimGrows claim (change claim))
    (hsound : ∀ stage, publication.phase = .quarantined stage →
      ClaimSound env id publication.identity stage claim →
      ClaimSound env id publication.identity stage (change claim)) :
    ReleaseSound env (s.withClaim id fence change) id publication := by
  obtain ⟨rfl, rest, hclaims⟩ := h.head_of_live hfound hlive
  have hledger := recovery_withClaim change hclaims h.ordered
  have hordered := List.pairwise_cons.mp (hclaims ▸ h.ordered)
  refine ⟨?_, ?_, ?_, ?_, ?_, h.fences⟩
  · rw [hledger, List.pairwise_cons, hgrows.fence]
    exact hordered
  · rw [hledger]
    intro other hmem
    exact h.expired other (by rw [hclaims]; exact hmem)
  · rw [hledger]
    intro other hmem
    rcases List.mem_cons.mp hmem with rfl | hmem
    · obtain ⟨stage, hphase, hbefore⟩ := h.claims claim (by rw [hclaims]; exact List.mem_cons_self)
      exact ⟨stage, hphase, hsound stage hphase hbefore⟩
    · exact h.claims other (by rw [hclaims]; exact List.mem_cons_of_mem _ hmem)
  · rw [hledger]
    intro terminal hterminal
    obtain ⟨stage, newest, hphase, hhead, hdecided⟩ := h.terminal terminal hterminal
    rw [hclaims, List.head?_cons, Option.some.injEq] at hhead
    subst hhead
    exact ⟨stage, _, hphase, rfl, hdecided.grows hgrows⟩
  · rw [hledger]
    exact h.completion

/-- A change under the newest claim of one release keeps the invariant of all. -/
theorem Sound.grow {change : RecoveryClaim → RecoveryClaim} (h : Sound env s)
    (hlookup : s.publications.lookup id = some publication)
    (hfound : (s.recovery id).claim fence = some claim) (hlive : claim.live s.now = true)
    (hgrows : ClaimGrows claim (change claim))
    (hsound : ∀ stage, publication.phase = .quarantined stage →
      ClaimSound env id publication.identity stage claim →
      ClaimSound env id publication.identity stage (change claim)) :
    Sound env (s.withClaim id fence change) where
  releases other found hother := by
    by_cases hid : other = id
    · subst hid
      obtain rfl := Option.some.inj (hlookup.symm.trans hother)
      exact (h.releases _ _ hlookup).grow hfound hlive hgrows hsound
    · exact (h.releases other found hother).of_same (le_refl _) (recovery_insert_ne hid _) rfl
  absent other hother := by
    have hid : other ≠ id := by
      rintro rfl
      cases hlookup.symm.trans hother
    obtain ⟨hempty, hnone⟩ := h.absent other hother
    exact ⟨(recovery_insert_ne hid _).trans hempty, hnone⟩
  snapshots := h.snapshots

end ControlPlane.Releases
