/-
# What the calls of a recovery change

Every call of a claimant leaves the state as it is, grows the newest claim, makes a new
claim, or decides the recovery. Only the renewal of a claim reaches a release that is
decided already.
-/

import ControlPlane.Releases.Ledger

namespace ControlPlane.Releases

open Domain Driver Math Persistence
open Routes Publications ReleaseState ClaimGrows

/-- What a call of a claimant, other than a renewal, does to the state. -/
inductive RecoveryMove (env : DatabaseEnvironment) (s t : ReleaseState) (id : Uuid) : Prop
  | same (unchanged : t = s)
  | grown {fence : Nat} {publication : ReleasePublication} {claim : RecoveryClaim}
      {change : RecoveryClaim → RecoveryClaim}
      (lookup : s.publications.lookup id = some publication)
      (found : (s.recovery id).claim fence = some claim) (live : claim.live s.now = true)
      (undecided : (s.recovery id).terminal = none)
      (grows : ClaimGrows claim (change claim))
      (sound : ∀ stage, publication.phase = .quarantined stage →
        ClaimSound env id publication.identity stage claim →
        ClaimSound env id publication.identity stage (change claim))
      (changed : t = s.withClaim id fence change)
  | interrupted {publication : ReleasePublication} {stage : Stage}
      (lookup : s.publications.lookup id = some publication)
      (undecided : (s.recovery id).terminal = none)
      (interrupted : s.interrupt id publication = .ok (t, stage))
  | claimed {publication : ReleasePublication} {middle : ReleaseState} {stage : Stage}
      {claim : RecoveryClaim}
      (lookup : s.publications.lookup id = some publication)
      (undecided : (s.recovery id).terminal = none)
      (expired : ∀ newest ∈ (s.recovery id).claims.head?, newest.live s.now = false)
      (interrupted : s.interrupt id publication = .ok (middle, stage))
      (quarantined : middle.allQuarantined (publication.identity.lease id)
        publication.identity.owners = true)
      (fence : claim.fence = (s.recovery id).latestFence + 1)
      (sound : ClaimSound env id publication.identity stage claim)
      (heads : claim.heads = middle.interruptedHeads id stage publication.identity.owners)
      (changed : t = { middle with
        recoveries := s.recoveries.insert id ((s.recovery id).add claim) })
  | decided {publication : ReleasePublication} {claim : RecoveryClaim} {stage : Stage}
      {fence : Nat} {terminal : RecoveryTerminal}
      (lookup : s.publications.lookup id = some publication)
      (found : (s.recovery id).claim fence = some claim) (live : claim.live s.now = true)
      (phase : publication.phase = .quarantined stage)
      (undecided : (s.recovery id).terminal = none)
      (sound : TerminalSound env id publication.identity.fleetRun stage claim terminal)
      (fleet : fleetQuarantined (publication.identity.lease id) s.shared.fleet = true)
      (queue : t.queue = s.queue) (publications : t.publications = s.publications)
      (snapshots : t.shared.snapshots = s.shared.snapshots)
      (recoveries : t.recoveries = s.recoveries.insert id ((s.recovery id).close terminal))
      (completions : t.completions = s.completions ∨
        terminal.kind = .candidate ∧ s.completions.lookup id = none ∧
          ∃ completion, t.completions = s.completions.insert id completion)

section Locks

variable {env : DatabaseEnvironment} {s : ReleaseState} {key : ClaimKey}
  {publication : ReleasePublication} {claim : RecoveryClaim}

/-- What a locked claim is. -/
structure Locked (s : ReleaseState) (key : ClaimKey) (publication : ReleasePublication)
    (claim : RecoveryClaim) : Prop where
  lookup : s.publications.lookup key.driverOperation = some publication
  found : (s.recovery key.driverOperation).claim key.fence = some claim
  worker : s.validRecoveryWorker publication.identity key.attempt key.leaseOwner = true
  attempt : claim.attempt = key.attempt
  leaseOwner : claim.leaseOwner = key.leaseOwner
  owner : claim.owner = key.owner
  token : claim.token = key.token
  live : claim.live s.now = true

theorem lockClaim_eq_some_iff :
    s.lockClaim key = some (publication, claim) ↔ Locked s key publication claim := by
  unfold lockClaim
  constructor
  · intro h
    split at h
    swap
    · cases h
    rename_i found held hlookup hfound
    split at h
    · rename_i hchecks
      cases h
      obtain ⟨hworker, hpresented, hlive⟩ := hchecks
      simp only [RecoveryClaim.presentedBy, Bool.and_eq_true, decide_eq_true_eq] at hpresented
      obtain ⟨⟨⟨hattempt, hleaseOwner⟩, howner⟩, htoken⟩ := hpresented
      exact ⟨hlookup, hfound, hworker, hattempt, hleaseOwner, howner, htoken, hlive⟩
    · cases h
  · intro h
    simp only [h.lookup, h.found, h.worker, RecoveryClaim.presentedBy, h.attempt, h.leaseOwner,
      h.owner, h.token, h.live, decide_true, Bool.and_self, and_self, if_true]

variable {id : Uuid} {fence : Nat} {terminal : RecoveryTerminal} {identity : ReleaseIdentity}

theorem lockReview_some {operation : ControlOperationLease}
    (h : s.lockReview id fence operation = some (publication, claim)) :
    s.publications.lookup id = some publication ∧ (s.recovery id).claim fence = some claim ∧
      claim.live s.now = true := by
  unfold lockReview at h
  split at h
  · rename_i found held hlookup hfound
    split at h
    · rename_i hchecks
      cases h
      exact ⟨hlookup, hfound, hchecks.2.2.2.2⟩
    · cases h
  · cases h

/-- The newest claim of a decided release is the claim that decided it. -/
theorem ReleaseSound.decided_claim (h : ReleaseSound env s id publication)
    (hfound : (s.recovery id).claim fence = some claim) (hlive : claim.live s.now = true)
    (hterminal : (s.recovery id).terminal = some terminal) :
    ∃ stage, publication.phase = .quarantined stage ∧
      ClaimSound env id publication.identity stage claim ∧
      TerminalSound env id publication.identity.fleetRun stage claim terminal := by
  obtain ⟨-, rest, hclaims⟩ := h.head_of_live hfound hlive
  obtain ⟨stage, newest, hphase, hhead, hdecided⟩ := h.terminal terminal hterminal
  rw [hclaims, List.head?_cons, Option.some.injEq] at hhead
  subst hhead
  obtain ⟨other, hother, hsound⟩ := h.claims claim (by rw [hclaims]; exact List.mem_cons_self)
  rw [hphase] at hother
  cases hother
  exact ⟨stage, hphase, hsound, hdecided⟩

variable {stage : Stage}

/-- A claim that was decided has a resolution that allows the decision. -/
theorem TerminalSound.allowed {fleetRun : Uuid}
    (h : TerminalSound env id fleetRun stage claim terminal)
    (hclaim : ClaimSound env id identity stage claim) :
    ∃ resolution, claim.resolution = some resolution ∧ resolution.kind = terminal.kind ∧
      KindAllowed claim resolution := by
  obtain ⟨resolution, hrecorded, hkind, -⟩ := h.resolution
  exact ⟨resolution, hrecorded, hkind, (hclaim.resolution resolution hrecorded).kind⟩

/-- The newest claim grows, where a decision of the release would rule that out. -/
theorem RecoveryMove.ofLive {change : RecoveryClaim → RecoveryClaim} (hsystem : Sound env s)
    (hlookup : s.publications.lookup id = some publication)
    (hfound : (s.recovery id).claim fence = some claim) (hlive : claim.live s.now = true)
    (hgrows : ClaimGrows claim (change claim))
    (hsound : ∀ stage, publication.phase = .quarantined stage →
      ClaimSound env id publication.identity stage claim →
      ClaimSound env id publication.identity stage (change claim))
    (hopen : ∀ terminal stage, publication.phase = .quarantined stage →
      ClaimSound env id publication.identity stage claim →
      ¬ TerminalSound env id publication.identity.fleetRun stage claim terminal) :
    RecoveryMove env s (s.withClaim id fence change) id := by
  refine .grown hlookup hfound hlive ?_ hgrows hsound rfl
  cases hterminal : (s.recovery id).terminal with
  | none => rfl
  | some terminal =>
    obtain ⟨stage, hphase, hclaim, hdecided⟩ :=
      (hsystem.releases _ _ hlookup).decided_claim hfound hlive hterminal
    exact absurd hdecided (hopen terminal stage hphase hclaim)

/-- A claim stays sound when neither its resolution nor its review changes. -/
theorem ClaimSound.extend {before after : RecoveryClaim}
    (h : ClaimSound env id identity stage before) (hgrows : ClaimGrows before after)
    (hresolution : after.resolution = before.resolution) (hreview : after.review = before.review) :
    ClaimSound env id identity stage after :=
  h.grows hgrows (fun _ hrecorded => Or.inl (hresolution ▸ hrecorded))
    fun _ hrecorded => Or.inl (hreview ▸ hrecorded)

end Locks

/-! ## The candidate of the recovery -/

section Calls

variable {env : DatabaseEnvironment} {s : ReleaseState} {key : ClaimKey}

theorem recordCandidateEntry_move (hsystem : Sound env s) (call : RecordCall) :
    RecoveryMove env s (s.after (s.recordCandidateEntry key call)) key.driverOperation := by
  unfold recordCandidateEntry
  split
  · exact .same rfl
  rename_i publication claim hlock
  have hlocked := lockClaim_eq_some_iff.mp hlock
  split
  swap
  · exact .same rfl
  rename_i maintenance records hphase
  split
  · exact .same rfl
  split
  swap
  · exact .same rfl
  rename_i entries _ _
  have hgrows : ClaimGrows claim { claim with records := entries } :=
    { refl claim with }
  refine .ofLive hsystem hlocked.lookup hlocked.found hlocked.live hgrows
    (fun _ _ h => h.extend hgrows rfl rfl) ?_
  intro terminal stage hquarantined _ hdecided
  rw [hphase] at hquarantined
  cases hquarantined
  cases hdecided.sealed

theorem sealCandidate_move (hsystem : Sound env s) (call : SealCall) :
    RecoveryMove env s (s.sealCandidate env key call).1 key.driverOperation := by
  unfold sealCandidate
  split
  · exact .same rfl
  rename_i publication claim hlock
  have hlocked := lockClaim_eq_some_iff.mp hlock
  simp only
  split
  swap
  · exact .same rfl
  rename_i maintenance records hphase
  split
  · exact .same rfl
  split
  · exact .same rfl
  split
  · exact .same rfl
  split
  · exact .same rfl
  have hgrows : ClaimGrows claim
      { claim with sealing := some ⟨call.digest, call.directory⟩ } :=
    { refl claim with }
  refine .ofLive hsystem hlocked.lookup hlocked.found hlocked.live hgrows
    (fun _ _ h => h.extend hgrows rfl rfl) ?_
  intro terminal stage hquarantined _ hdecided
  rw [hphase] at hquarantined
  cases hquarantined
  cases hdecided.sealed

/-! ## The runtime observation -/

/-- An expectation is read of an undecided release only. -/
theorem undecided_of_readExpectation {expectation : RuntimeExpectation}
    (h : s.readExpectation key = .ok expectation) :
    (s.recovery key.driverOperation).terminal = none := by
  unfold readExpectation at h
  split at h
  · cases h
  split at h
  · cases h
  simp only at h
  split at h
  · cases h
  · split at h
    · cases h
    · rename_i hchecks
      simp only [not_or, Option.not_isSome_iff_eq_none] at hchecks
      exact hchecks.2.2.1

theorem recordRuntimeObservation_move (observation : Json) :
    RecoveryMove env s (s.recordRuntimeObservation env key observation).1 key.driverOperation := by
  unfold recordRuntimeObservation
  split
  · exact .same rfl
  split
  · exact .same rfl
  · exact .same rfl
  rename_i expectation publication claim hexpectation hlock
  have hlocked := lockClaim_eq_some_iff.mp hlock
  split
  · split <;> exact .same rfl
  rename_i hnone
  split
  · exact .same rfl
  rename_i recorded _
  have hgrows : ClaimGrows claim { claim with observation := some recorded } :=
    { refl claim with
      observation := fun _ hbefore => by
        rw [hnone] at hbefore
        cases hbefore }
  exact .grown hlocked.lookup hlocked.found hlocked.live
    (undecided_of_readExpectation hexpectation) hgrows
    (fun _ _ h => h.extend hgrows rfl rfl) rfl

/-! ## Authorizations -/

theorem authorizeUnreceipted_move (hsystem : Sound env s) (call : AuthorizationCall) :
    RecoveryMove env s (s.authorizeUnreceipted env key call).1 key.driverOperation := by
  unfold authorizeUnreceipted
  split
  · exact .same rfl
  rename_i publication claim hlock
  have hlocked := lockClaim_eq_some_iff.mp hlock
  simp only
  split
  · rename_i overlay response
    split
    · exact .same rfl
    rename_i hnone
    have hallow : claim.mode = .writeCleanup →
        RecoveryMove env s (s.withClaim key.driverOperation key.fence fun claim' =>
          { claim' with authorizations :=
            { claim.authorizations with disposeOverlay := some overlay } })
          key.driverOperation := by
      intro hmode
      have hgrows : ClaimGrows claim { claim with
          authorizations := { claim.authorizations with disposeOverlay := some overlay } } :=
        { refl claim with
          disposal := fun _ hbefore => by
            rw [hnone] at hbefore
            cases hbefore }
      refine .ofLive hsystem hlocked.lookup hlocked.found hlocked.live hgrows
        (fun _ _ h => h.extend hgrows rfl rfl) ?_
      intro terminal stage _ hclaim hdecided
      obtain ⟨resolution, -, hkind, hallowed⟩ := hdecided.allowed hclaim
      unfold KindAllowed at hallowed
      split at hallowed
      · simp [hmode] at hallowed
      · simp [hmode, hnone] at hallowed
      · exact hallowed
      · exact hdecided.decided (hkind.symm.trans ‹_›)
    split
    case h_1 | h_2 =>
      split
      · exact .same rfl
      · rename_i hchecks
        exact hallow (not_not.mp (not_or.mp hchecks).1)
    · exact .same rfl
  · split
    · exact .same rfl
    rename_i hfalse
    split
    swap
    · exact .same rfl
    split
    · exact .same rfl
    rename_i hchecks
    have hmode := not_not.mp (not_or.mp hchecks).1
    have hgrows : ClaimGrows claim { claim with
        authorizations := { claim.authorizations with restorePrior := true } } :=
      { refl claim with restore := fun _ => rfl }
    refine .ofLive hsystem hlocked.lookup hlocked.found hlocked.live hgrows
      (fun _ _ h => h.extend hgrows rfl rfl) ?_
    intro terminal stage _ hclaim hdecided
    obtain ⟨resolution, -, hkind, hallowed⟩ := hdecided.allowed hclaim
    unfold KindAllowed at hallowed
    split at hallowed
    · simp [hmode] at hallowed
    · simp [hmode, hfalse] at hallowed
    · exact hallowed
    · exact hdecided.decided (hkind.symm.trans ‹_›)
  · split
    · exact .same rfl
    rename_i hnone
    split
    swap
    · exact .same rfl
    split
    · exact .same rfl
    rename_i response _ hchecks
    have hmode := not_not.mp (not_or.mp hchecks).1
    have hgrows : ClaimGrows claim { claim with
        authorizations := { claim.authorizations with
          publishCandidate := some response } } :=
      { refl claim with
        publish := fun _ hbefore => by
          rw [hnone] at hbefore
          cases hbefore }
    refine .ofLive hsystem hlocked.lookup hlocked.found hlocked.live hgrows
      (fun _ _ h => h.extend hgrows rfl rfl) ?_
    intro terminal stage _ hclaim hdecided
    obtain ⟨resolution, -, hkind, hallowed⟩ := hdecided.allowed hclaim
    unfold KindAllowed at hallowed
    split at hallowed
    · simp [hnone] at hallowed
    · simp [hmode] at hallowed
    · exact hallowed
    · exact hdecided.decided (hkind.symm.trans ‹_›)

theorem authorizeExchange_move (hsystem : Sound env s) (call : AuthorizationCall) :
    RecoveryMove env s (s.authorizeExchange env key call).1 key.driverOperation := by
  unfold authorizeExchange
  split
  · exact .same rfl
  · exact authorizeUnreceipted_move hsystem _

theorem authorizeFromObservation_move (hsystem : Sound env s) (observationDigest : String) :
    RecoveryMove env s (s.authorizeFromObservation env key observationDigest).1
      key.driverOperation := by
  unfold authorizeFromObservation
  split
  · exact .same rfl
  · split
    · exact .same rfl
    · exact authorizeUnreceipted_move hsystem _

/-! ## Resolutions -/

variable {kind : ReleaseResolutionKind} {evidence : Json} {response : Option Json}

variable {claim : RecoveryClaim}

/-- A resolution that passes the checks is allowed. A candidate has to carry the response of
the claim's observation. -/
theorem kindAllowed_of_checked {identity : ReleaseIdentity} {stage : Stage}
    (hchecked : s.resolutionChecked env key identity stage claim kind evidence response = .ok ())
    (hsupported : unsupported kind evidence = false)
    (hreceipt : kind = .candidate → ∃ observation, claim.observation = some observation ∧
      response = some observation.completionResponse) :
    KindAllowed claim (newResolution env key claim.mode kind evidence response) := by
  unfold resolutionChecked at hchecked
  simp only at hchecked
  unfold KindAllowed newResolution
  simp only
  split at hchecked
  · cases hchecked
  cases kind with
  | candidate =>
    obtain ⟨observation, hobservation, rfl⟩ := hreceipt rfl
    simp only at hchecked ⊢
    split at hchecked
    swap
    · cases hchecked
    rename_i hobserved
    unfold candidateObserved at hobserved
    split at hobserved
    · rename_i hseal hmaintenance hsome
      cases hsome
      simp only [Bool.and_eq_true, decide_eq_true_eq] at hobserved
      exact ⟨hobserved.1.1.1.1.1.1.1.1, observation, hobservation, rfl, hobserved.1.1.1.2⟩
    · cases hobserved
  | prior =>
    simp only [unsupported, Bool.not_eq_false'] at hsupported
    simp only at hchecked ⊢
    refine ⟨hsupported, ?_⟩
    split at hchecked
    · cases hchecked
    rename_i hobserved
    rw [Bool.not_eq_false] at hobserved
    unfold priorObserved at hobserved
    split at hobserved
    swap
    · cases hobserved
    simp only [Bool.and_eq_true] at hobserved
    have hmode := hobserved.2
    split at hmode
    · rename_i hcleanup
      simp only [Bool.and_eq_true, decide_eq_true_eq] at hmode
      exact Or.inl ⟨hcleanup, by rw [hmode.2, Option.isSome_some]⟩
    · rename_i hrestore
      simp only [Bool.and_eq_true] at hmode
      exact Or.inr ⟨hrestore, hmode.1⟩
    · cases hmode
  | unstarted => cases hsupported
  | inconclusive => trivial

section Receipt

variable (hsystem : Sound env s)
  (hreceipt : ∀ publication claim, s.lockClaim key = some (publication, claim) →
    kind = .candidate → ∃ observation, claim.observation = some observation ∧
      response = some observation.completionResponse)

include hsystem hreceipt

theorem resolveUnsafe_move (hsupported : unsupported kind evidence = false) :
    RecoveryMove env s (s.after (s.resolveUnsafe env key kind evidence response))
      key.driverOperation := by
  unfold resolveUnsafe
  split
  · exact .same rfl
  split
  · exact .same rfl
  rename_i publication claim hlock
  have hlocked := lockClaim_eq_some_iff.mp hlock
  simp only
  split
  · exact .same rfl
  split
  · exact .same rfl
  · exact .same rfl
  rename_i stage hnone hstage
  split
  · exact .same rfl
  rename_i hchecked
  split
  · exact .same rfl
  have hgrows : ClaimGrows claim { claim with
      resolution := some (newResolution env key claim.mode kind evidence response) } :=
    { refl claim with
      resolution := fun _ hbefore => by
        rw [hnone] at hbefore
        cases hbefore }
  have hallowed := (kindAllowed_of_checked hchecked hsupported
    (hreceipt publication claim hlock)).grows hgrows
  refine .ofLive hsystem hlocked.lookup hlocked.found hlocked.live hgrows (fun stage _ h => ?_) ?_
  · refine h.grows hgrows (fun resolution hrecorded => Or.inr ?_)
      fun review hrecorded => Or.inl hrecorded
    cases hrecorded
    exact ⟨hlocked.attempt.symm, hlocked.leaseOwner.symm, hlocked.owner.symm,
      congrArg (recoveryTokenDigest env) hlocked.token.symm, hallowed⟩
  · intro terminal _ _ _ hdecided
    obtain ⟨resolution, hrecorded, -⟩ := hdecided.resolution
    rw [hnone] at hrecorded
    cases hrecorded

theorem resolveWithoutReceipt_move :
    RecoveryMove env s (s.after (s.resolveWithoutReceipt env key kind evidence response))
      key.driverOperation := by
  unfold resolveWithoutReceipt
  split
  · exact .same rfl
  · split
    · exact .same rfl
    · rename_i hsupported
      exact resolveUnsafe_move hsystem hreceipt (Bool.not_eq_true _ ▸ hsupported)

end Receipt

theorem ownObservation_some {observation : RuntimeObservation}
    (h : ownObservation env claim key = some observation) :
    claim.observation = some observation := by
  unfold ownObservation at h
  exact (Option.filter_eq_some_iff.mp h).1

theorem resolveInterrupted_move (hsystem : Sound env s) (kind : ReleaseResolutionKind)
    (evidence : Json) (response : Option Json) :
    RecoveryMove env s (s.after (s.resolveInterrupted env key kind evidence response))
      key.driverOperation := by
  unfold resolveInterrupted
  split
  · rename_i hkind
    exact resolveWithoutReceipt_move hsystem fun _ _ _ hcandidate => absurd hcandidate hkind
  split
  · exact .same rfl
  split
  · exact .same rfl
  rename_i publication claim hlock
  split
  · exact .same rfl
  · rename_i observation hfound
    refine resolveWithoutReceipt_move hsystem fun _ other hother _ => ?_
    rw [hlock] at hother
    cases hother
    exact ⟨observation, ownObservation_some (Option.filter_eq_some_iff.mp hfound).1, rfl⟩

/-! ## Reviews -/

theorem reviewObservation_move (hsystem : Sound env s) (id : Uuid) (fence : Nat)
    (operation : ControlOperationLease) (observationDigest : String) (decision : ReviewDecision) :
    RecoveryMove env s (s.reviewObservation env id fence operation observationDigest decision).1
      id := by
  unfold reviewObservation
  split
  · exact .same rfl
  split
  · exact .same rfl
  rename_i publication claim hlock
  obtain ⟨hlookup, hfound, hlive⟩ := lockReview_some hlock
  simp only
  split
  · exact .same rfl
  rename_i observation hobservation
  split
  · exact .same rfl
  rename_i resolution hresolution
  split
  · exact .same rfl
  split
  · split <;> exact .same rfl
  rename_i hnone
  have hobserved := Option.filter_eq_some_iff.mp hobservation
  have hresolved := Option.filter_eq_some_iff.mp hresolution
  have hgrows : ClaimGrows claim { claim with
      review := some (newReview env id publication.identity.fleetRun fence
        observationDigest resolution operation decision) } :=
    { refl claim with
      review := fun _ hbefore => by
        rw [hnone] at hbefore
        cases hbefore }
  obtain ⟨hfence, -⟩ := (hsystem.releases _ _ hlookup).head_of_live hfound hlive
  refine .ofLive hsystem hlookup hfound hlive hgrows (fun stage _ h => ?_) ?_
  · refine h.grows hgrows (fun _ hrecorded => Or.inl hrecorded)
      fun review hrecorded => Or.inr ?_
    cases hrecorded
    refine ⟨⟨observation, hobserved.1, ?_⟩,
      ⟨resolution, hresolved.1, of_decide_eq_true hresolved.2, ?_⟩⟩
    · exact (of_decide_eq_true hobserved.2).symm
    · rw [← hfence]
      rfl
  · intro terminal stage _ hclaim hdecided
    obtain ⟨recorded, hrecorded, hkind, -⟩ := hdecided.resolution
    rw [hresolved.1] at hrecorded
    cases hrecorded
    have hcandidate := hkind.symm.trans (of_decide_eq_true hresolved.2)
    have haccepted := (hdecided.accepted hcandidate).2
    simp only [acceptingReview, hnone] at haccepted
    cases haccepted

end Calls

/-! ## Claims -/

section Claims

variable {env : DatabaseEnvironment} {s middle : ReleaseState} {id : Uuid}
  {publication : ReleasePublication} {stage : Stage}

/-- A release that is moved to quarantine was live, and its recovery is untouched. -/
structure Interrupted (s middle : ReleaseState) (id : Uuid) (publication : ReleasePublication)
    (stage : Stage) : Prop where
  frame : WriterFrame s middle id
  completions : middle.completions = s.completions
  before : publication.phase = .quarantined stage ∧ middle = s ∨ publication.phase = .live stage
  publication : middle.publications.lookup id =
    some { publication with phase := .quarantined stage }

theorem quarantineRelease_live (lease : ReleaseLease) {safeError : String}
    (hlookup : s.publications.lookup lease.driverOperation = some publication)
    (hlive : publication.phase = .live stage)
    (h : s.quarantineRelease lease safeError = (middle, true)) :
    middle.completions = s.completions ∧ middle.publications.lookup lease.driverOperation =
        some { publication with phase := .quarantined stage } := by
  unfold quarantineRelease at h
  simp only [hlookup] at h
  split at h
  · cases h
  split at h
  swap
  · cases h
  rename_i found driver hfound hdriver
  cases hfound
  split at h
  · cases h
  split at h
  · rename_i hother
    rw [hlive] at hother
    cases hother
  · cases h
  rename_i other hother
  rw [hlive] at hother
  cases hother
  split at h
  · split at h
    · cases h
    · split at h
      · cases h
      · cases h
        exact ⟨rfl, AList.lookup_insert _⟩
  · cases h

theorem interrupt_ok (hlookup : s.publications.lookup id = some publication)
    (h : s.interrupt id publication = .ok (middle, stage)) :
    Interrupted s middle id publication stage := by
  unfold interrupt at h
  split at h
  · rename_i hphase
    cases h
    refine ⟨.refl s id, rfl, Or.inl ⟨hphase, rfl⟩, ?_⟩
    rw [hlookup, ← hphase]
  · cases h
  split at h
  · cases h
  split at h
  · rename_i hlive hmoved
    cases h
    have hspec := quarantineRelease_live (publication.identity.lease id) hlookup hlive hmoved
    have hframe : WriterFrame s (s.quarantineRelease (publication.identity.lease id)
        outcomeUnknownError).1 id := quarantineRelease_frame outcomeUnknownError
    rw [hmoved] at hframe
    exact ⟨hframe, hspec.1, Or.inr hlive, hspec.2⟩
  · cases h

variable {owners : List RouteOwner}

/-- The recorded heads are the heads of owners as the interrupted phase left them. -/
theorem mem_interruptedHeads {recorded : Uuid × FleetHead}
    (h : recorded ∈ s.interruptedHeads id stage owners) :
    ∃ owner ∈ owners, owner.workshop = recorded.1 ∧
      headInterrupted id stage owner recorded.2 = true := by
  obtain ⟨owner, hmem, hhead⟩ := List.mem_filterMap.mp h
  split at hhead
  · split at hhead
    · rename_i hinterrupted
      cases hhead
      exact ⟨owner, hmem, rfl, hinterrupted⟩
    · cases hhead
  · cases hhead

/-- When every owner has a recorded head, the heads are listed as the owners are. -/
theorem interruptedHeads_workshops
    (h : (s.interruptedHeads id stage owners).length = owners.length) :
    (s.interruptedHeads id stage owners).map Prod.fst = owners.map RouteOwner.workshop := by
  induction owners with
  | nil => rfl
  | cons owner owners ih =>
    have hle : (s.interruptedHeads id stage owners).length ≤ owners.length :=
      List.length_filterMap_le _ _
    unfold interruptedHeads at h hle ih ⊢
    rw [List.filterMap_cons] at h ⊢
    split at h
    · rw [List.length_cons] at h
      omega
    rename_i recorded hrecorded
    have hworkshop : recorded.1 = owner.workshop := by
      split at hrecorded
      · split at hrecorded
        · cases hrecorded
          rfl
        · cases hrecorded
      · cases hrecorded
    rw [List.length_cons, List.length_cons, Nat.add_right_cancel_iff] at h
    rw [List.map_cons, List.map_cons, hworkshop, ih h]

theorem claimInterrupted_move (key : ClaimKey) (ttl : Nat) :
    RecoveryMove env s (s.after (s.claimInterrupted key ttl)) key.driverOperation := by
  unfold claimInterrupted
  simp only
  split
  · exact .same rfl
  split
  · exact .same rfl
  rename_i publication hlookup
  split
  · exact .same rfl
  rename_i hopen
  split
  · exact .same rfl
  rename_i row hrow
  split
  · exact .same rfl
  rename_i hchecks
  split
  · exact .same rfl
  rename_i hexpired
  split
  · exact .same rfl
  rename_i middle stage hinterrupt
  have hinterrupted := interrupt_ok hlookup hinterrupt
  have hrecoveries := hinterrupted.frame.recoveries
  have hrecovery : middle.recovery key.driverOperation = s.recovery key.driverOperation := by
    rw [recovery, recovery, hrecoveries]
  unfold acquireClaim
  simp only
  split
  · exact .interrupted hlookup (Option.not_isSome_iff_eq_none.mp hopen) hinterrupt
  rename_i hquarantined
  split
  · exact .same rfl
  rename_i hheads
  have hclaim : ClaimSound env key.driverOperation publication.identity stage
      (middle.newClaim key stage publication.identity.owners
        (min (s.now + seconds ttl) (leaseEnd row))) :=
    ⟨rfl, Nat.lt_of_not_le (not_or.mp hchecks).2,
      fun recorded hmem => mem_interruptedHeads hmem,
      interruptedHeads_workshops (not_not.mp hheads),
      fun _ hnone => (by cases hnone), fun _ hnone => (by cases hnone)⟩
  refine .claimed hlookup (Option.not_isSome_iff_eq_none.mp hopen) ?_ hinterrupt
    (Bool.not_eq_false _ ▸ hquarantined) ?_ hclaim rfl ?_
  · intro newest hnewest
    rw [Option.filter_eq_none_iff] at hexpired
    exact Bool.not_eq_true _ ▸ hexpired newest hnewest
  · simp only [newClaim, hrecovery]
  · simp only [after, hrecovery, hrecoveries]

end Claims

/-! ## The heads of the candidate -/

section Heads

variable {env : DatabaseEnvironment} {s : ReleaseState} {id : Uuid}
  {publication : ReleasePublication} {stage : Stage} {claim : RecoveryClaim}

variable {publications : Table Uuid ReleasePublication} {records : OverlayRecords}
  {heads : Table Uuid FleetHead} {identity : ReleaseIdentity}

variable {owner : RouteOwner} {head : FleetHead}

/-- The trigger refuses the head of a release in quarantine. -/
theorem bindingAuthorized_quarantined {renderedDigest : String}
    (hlookup : publications.lookup id = some publication)
    (hphase : publication.phase = .quarantined stage) (happlied : head.applied.isSome = true) :
    bindingAuthorized publications owner.workshop (candidateHead id owner renderedDigest head) =
      false := by
  obtain ⟨applied, hsome⟩ := Option.isSome_iff_exists.mp happlied
  simp only [bindingAuthorized, candidateHead, hsome, Option.map_some, hlookup, Option.any_some,
    hphase, Bool.and_false]

theorem advanceHeads_quarantined {expected : RouteOwner → FleetHead → Bool}
    {drifted : ReleaseRaised} {owners : List RouteOwner} {changed : Table Uuid FleetHead}
    (hlookup : publications.lookup id = some publication)
    (hphase : publication.phase = .quarantined stage)
    (hexpected : ∀ owner head, expected owner head = true → head.applied.isSome = true)
    (hsome : 1 ≤ owners.length) :
    advanceHeads publications id records expected drifted owners heads ≠ .ok changed := by
  cases owners with
  | nil => cases hsome
  | cons owner owners =>
    intro h
    unfold advanceHeads at h
    split at h
    · split at h
      · rename_i head renderedDigest _ _ hhead
        simp only [bindingAuthorized_quarantined hlookup hphase (hexpected _ _ hhead)] at h
        cases h
      · cases h
    · cases h

theorem applied_of_headInterrupted (h : headInterrupted id stage owner head = true) :
    head.applied.isSome = true := by
  cases happlied : head.applied with
  | some applied => rfl
  | none =>
    unfold headInterrupted at h
    split at h
    · obtain ⟨renderedDigest, -, hshows⟩ := (Option.any_eq_true _ _).mp h
      simp [showsCandidate, happlied] at hshows
    · simp [frozenHead, happlied] at h

/-- The heads of an accepted candidate are the heads that are there, and all of them show the
candidate. -/
theorem candidateHeads_ok (hlookup : s.publications.lookup id = some publication)
    (hphase : publication.phase = .quarantined stage)
    (hclaim : ClaimSound env id publication.identity stage claim)
    (h : s.candidateHeads id publication.identity.owners records claim = .ok (some heads)) :
    heads = s.shared.heads ∧ headsShown id publication.identity.owners records claim =
        publication.identity.owners.length := by
  unfold candidateHeads at h
  split at h
  · split at h
    · cases h
    rename_i changed hadvanced
    refine absurd hadvanced (advanceHeads_quarantined hlookup hphase ?_
      publication.identity.ownersBounded.1)
    intro owner head hmem
    obtain ⟨_, _, _, hinterrupted⟩ := hclaim.heads _ (of_decide_eq_true hmem)
    exact applied_of_headInterrupted hinterrupted
  · split at h
    · rename_i hshown
      cases h
      exact ⟨rfl, hshown⟩
    · cases h

theorem eq_of_workshop {first second : RouteOwner} (hfirst : first ∈ identity.owners)
    (hsecond : second ∈ identity.owners) (heq : first.workshop = second.workshop) :
    first = second :=
  List.inj_on_of_nodup_map identity.ownersDistinct hfirst hsecond heq

/-- No recorded head shows the candidate before the release awaits its end: a frozen head was
applied under an older fence. -/
theorem headsShown_eq_zero (records : OverlayRecords)
    (hclaim : ClaimSound env id identity stage claim)
    (hfences : ∀ owner ∈ identity.owners, owner.appliedFence ≤ owner.snapshotFence)
    (hstage : stage.isAwaitingWorkerFinalize = false) :
    headsShown id identity.owners records claim = 0 := by
  rw [headsShown, List.countP_eq_zero]
  intro recorded hmem hshown
  obtain ⟨frozen, hfrozen, hworkshop, hinterrupted⟩ := hclaim.heads recorded hmem
  obtain ⟨owner, howner, hshows⟩ := List.any_eq_true.mp hshown
  rw [Bool.and_eq_true, decide_eq_true_eq] at hshows
  obtain rfl := eq_of_workshop hfrozen howner (hworkshop.trans hshows.1.symm)
  obtain ⟨applied, happlied, hcandidate⟩ := (Option.any_eq_true _ _).mp hshows.2
  simp only [Bool.and_eq_true, decide_eq_true_eq] at hcandidate
  have hfence : applied.fence = frozen.appliedFence := by
    unfold headInterrupted at hinterrupted
    split at hinterrupted
    · cases hstage
    · simp only [frozenHead, happlied, Option.any_some, Bool.and_eq_true,
        decide_eq_true_eq] at hinterrupted
      exact hinterrupted.2.2
  have hle := hfences frozen hfrozen
  have heq := hcandidate.2
  rw [hfence, RouteOwner.routeFence] at heq
  omega

/-- When the release awaits its end, every recorded head shows the candidate. -/
theorem headsShown_eq_length (hclaim : ClaimSound env id identity stage claim)
    (hstage : stage.isAwaitingWorkerFinalize = true) :
    headsShown id identity.owners (candidateRecords stage claim) claim =
      identity.owners.length := by
  rw [headsShown, ← hclaim.heads_length, List.countP_eq_length]
  intro recorded hmem
  obtain ⟨owner, howner, hworkshop, hinterrupted⟩ := hclaim.heads recorded hmem
  cases stage with
  | awaitingWorkerFinalize maintenance candidate =>
    obtain ⟨renderedDigest, hrecord, hshows⟩ := (Option.any_eq_true _ _).mp hinterrupted
    simp only [showsCandidate, Bool.and_eq_true] at hshows
    obtain ⟨applied, happlied, hcandidate⟩ := (Option.any_eq_true _ _).mp hshows.2
    simp only [Bool.and_eq_true, decide_eq_true_eq] at hcandidate
    refine List.any_eq_true.mpr ⟨owner, howner, ?_⟩
    rw [hworkshop] at hrecord
    simp only [candidateRecords, Stage.candidate, Option.map_some, Option.getD_some, hworkshop,
      happlied, Option.any_some, hrecord, hcandidate, decide_true, Bool.and_self]
  | _ => cases hstage

/-- Only a release that awaited its end has heads that a candidate is accepted with. -/
theorem awaiting_of_candidateHeads (hrelease : ReleaseSound env s id publication)
    (hlookup : s.publications.lookup id = some publication)
    (hphase : publication.phase = .quarantined stage)
    (hclaim : ClaimSound env id publication.identity stage claim)
    (h : s.candidateHeads id publication.identity.owners (candidateRecords stage claim) claim =
      .ok (some heads)) : heads = s.shared.heads ∧ stage.isAwaitingWorkerFinalize = true := by
  obtain ⟨hheads, hshown⟩ := candidateHeads_ok hlookup hphase hclaim h
  refine ⟨hheads, ?_⟩
  by_contra hother
  rw [headsShown_eq_zero _ hclaim hrelease.fences (Bool.not_eq_true _ ▸ hother)] at hshown
  have hbounded := publication.identity.ownersBounded.1
  omega

end Heads

/-! ## Decisions -/

section Decisions

variable {env : DatabaseEnvironment} {s t : ReleaseState} {key : ClaimKey}

variable {kind : ReleaseResolutionKind} {decisionDigest : String} {publication : ReleasePublication}
  {claim : RecoveryClaim} {stage : Stage} {resolution : ReleaseResolution}

/-- A recovery is closed once, and releases what was in quarantine. -/
theorem closeRecovery_ok {identity : ReleaseIdentity} {response : Json}
    (h : s.closeRecovery key identity kind decisionDigest response = .ok t) :
    fleetQuarantined (identity.lease key.driverOperation) s.shared.fleet = true ∧
      (s.recovery key.driverOperation).terminal = none ∧
      t = { s with
        shared := { s.shared with
          leases := mapRoutes (fun _ => idleRoute) identity.owners s.shared.leases
          fleet := { s.shared.fleet with phase := .idle } }
        recoveries := s.recoveries.insert key.driverOperation
          ((s.recovery key.driverOperation).close ⟨key.fence, key.attempt, key.leaseOwner,
            key.owner, kind, decisionDigest, response⟩) } := by
  unfold closeRecovery at h
  simp only at h
  split at h
  · cases h
  split at h
  · cases h
  rename_i hfleet
  split at h
  · cases h
  · rename_i hopen
    exact ⟨Bool.not_eq_false _ ▸ hfleet, Option.not_isSome_iff_eq_none.mp hopen,
      (Except.ok.inj h).symm⟩

theorem Locked.sound (hlocked : Locked s key publication claim) (hsystem : Sound env s)
    (hphase : publication.phase = .quarantined stage) :
    claim.fence = key.fence ∧
      ClaimSound env key.driverOperation publication.identity stage claim := by
  have hrelease := hsystem.releases _ _ hlocked.lookup
  obtain ⟨hfence, rest, hclaims⟩ := hrelease.head_of_live hlocked.found hlocked.live
  obtain ⟨other, hother, hsound⟩ := hrelease.claims claim
    (by rw [hclaims]; exact List.mem_cons_self)
  rw [hphase] at hother
  cases hother
  exact ⟨hfence, hsound⟩

section

variable (hsystem : Sound env s) (hlocked : Locked s key publication claim)
  (hphase : publication.phase = .quarantined stage)
  (hresolution : claim.resolution = some resolution)

include hsystem hlocked hphase hresolution

/-- A decision for the candidate changes the state only when every head shows it. -/
theorem finishCandidate_move (hkind : resolution.kind = .candidate)
    (hdigest : decisionDigest = candidateDigest env key.driverOperation
      publication.identity.fleetRun key.fence resolution)
    (hreview : (acceptingReview env key.driverOperation publication.identity.fleetRun
      claim).isSome = true) :
    RecoveryMove env s (s.after (s.finishCandidate env key publication.identity stage claim
      resolution decisionDigest)) key.driverOperation := by
  obtain ⟨hfence, hclaim⟩ := hlocked.sound hsystem hphase
  have hrelease := hsystem.releases _ _ hlocked.lookup
  unfold finishCandidate
  simp only
  split
  · exact .same rfl
  rename_i response hresponse
  split
  · exact .same rfl
  split
  · exact .same rfl
  · exact .same rfl
  rename_i heads hheads
  obtain ⟨rfl, hstage⟩ :=
    awaiting_of_candidateHeads hrelease hlocked.lookup hphase hclaim hheads
  have hsealed : stage.isCandidateStaging = false := by
    cases stage <;> first | rfl | cases hstage
  split
  · exact .same rfl
  · exact .same rfl
  · exact .same rfl
  rename_i hnone _
  split
  · exact .same rfl
  split
  · exact .same rfl
  rename_i closed hclosed
  obtain ⟨hfleet, hopen, rfl⟩ := closeRecovery_ok hclosed
  refine .decided hlocked.lookup hlocked.found hlocked.live hphase hopen ?_ hfleet rfl rfl
    rfl rfl (Or.inr ⟨rfl, hnone, _, rfl⟩)
  exact ⟨hfence.symm, hlocked.attempt.symm, hlocked.leaseOwner.symm, hlocked.owner.symm,
    ⟨resolution, hresolution, hkind, fun _ => ⟨hresponse, by rw [hfence, hdigest]⟩⟩,
    hsealed, fun _ => ⟨hstage, hreview⟩, by simp⟩

theorem finishNotApplied_move (hkind : resolution.kind = kind) (hcandidate : kind ≠ .candidate)
    (hinconclusive : kind ≠ .inconclusive) :
    RecoveryMove env s (s.after (s.finishNotApplied key publication.identity stage claim kind
      decisionDigest)) key.driverOperation := by
  obtain ⟨hfence, hclaim⟩ := hlocked.sound hsystem hphase
  unfold finishNotApplied
  simp only
  split
  · exact .same rfl
  rename_i hchecks
  have hsealed : stage.isCandidateStaging = false := by
    cases stage <;> first | rfl | exact absurd rfl (not_or.mp hchecks).1
  split
  · exact .same rfl
  split
  · exact .same rfl
  split
  · exact .same rfl
  split
  · exact .same rfl
  rename_i closed hclosed
  obtain ⟨hfleet, hopen, rfl⟩ := closeRecovery_ok hclosed
  refine .decided hlocked.lookup hlocked.found hlocked.live hphase hopen ?_ hfleet rfl rfl
    rfl rfl (Or.inl rfl)
  exact ⟨hfence.symm, hlocked.attempt.symm, hlocked.leaseOwner.symm, hlocked.owner.symm,
    ⟨resolution, hresolution, hkind, fun hterminal => absurd hterminal hcandidate⟩,
    hsealed, fun hterminal => absurd hterminal hcandidate, hinconclusive⟩

end

section

variable (hsystem : Sound env s)
  (hreview : kind = .candidate → ∀ publication claim, Locked s key publication claim →
    (acceptingReview env key.driverOperation publication.identity.fleetRun claim).isSome = true)

include hsystem hreview

theorem finishUnsafe_move :
    RecoveryMove env s (s.after (s.finishUnsafe env key kind decisionDigest))
      key.driverOperation := by
  unfold finishUnsafe
  simp only
  split
  · split <;> exact .same rfl
  split
  · exact .same rfl
  rename_i publication claim hlock
  have hlocked := lockClaim_eq_some_iff.mp hlock
  split
  · exact .same rfl
  · exact .same rfl
  rename_i resolution stage hfiltered hstage
  obtain ⟨hresolution, hrecorded⟩ := Option.filter_eq_some_iff.mp hfiltered
  simp only [ReleaseResolution.recordedBy, Bool.and_eq_true, decide_eq_true_eq] at hrecorded
  have hkind := hrecorded.1.1.1.1
  have hphase : publication.phase = .quarantined stage := by
    unfold ReleasePublication.interrupted at hstage
    split at hstage
    · rename_i hphase
      cases hstage
      exact hphase
    · cases hstage
  split
  · exact .same rfl
  rename_i hinconclusive
  split
  · exact .same rfl
  rename_i hdigest
  split
  · rename_i hcandidate
    subst hcandidate
    exact finishCandidate_move hsystem hlocked hphase hresolution hkind
      (not_not.mp hdigest) (hreview rfl publication claim hlocked)
  · rename_i hcandidate
    exact finishNotApplied_move hsystem hlocked hphase hresolution hkind hcandidate hinconclusive

theorem finishWithoutReview_move :
    RecoveryMove env s (s.after (s.finishWithoutReview env key kind decisionDigest))
      key.driverOperation := by
  unfold finishWithoutReview
  split
  · exact .same rfl
  · exact finishUnsafe_move hsystem hreview

end

theorem finishInterrupted_move (hsystem : Sound env s) (kind : ReleaseResolutionKind)
    (decisionDigest : String) :
    RecoveryMove env s (s.after (s.finishInterrupted env key kind decisionDigest))
      key.driverOperation := by
  unfold finishInterrupted
  split
  · exact .same rfl
  · rename_i hkind
    exact finishWithoutReview_move hsystem fun hcandidate => absurd hcandidate hkind

theorem finishReviewed_move (hsystem : Sound env s) :
    RecoveryMove env s (s.after (s.finishReviewed env key)) key.driverOperation := by
  unfold finishReviewed
  simp only
  split
  swap
  · exact .same rfl
  rename_i publication claim hlookup hfound
  split
  · exact .same rfl
  · rename_i review haccepting
    refine finishWithoutReview_move hsystem fun _ other held hlocked => ?_
    obtain rfl := Option.some.inj (hlookup.symm.trans hlocked.lookup)
    obtain rfl := Option.some.inj (hfound.symm.trans hlocked.found)
    rw [haccepting, Option.isSome_some]

/-- A claim can be renewed also when the release is decided; nothing else changes. -/
inductive RenewMove (s t : ReleaseState) (id : Uuid) : Prop
  | same (unchanged : t = s)
  | renewed {fence : Nat} {publication : ReleasePublication} {claim : RecoveryClaim}
      {expiresAt : Timestamp}
      (lookup : s.publications.lookup id = some publication)
      (found : (s.recovery id).claim fence = some claim) (live : claim.live s.now = true)
      (changed : t = s.withClaim id fence fun claim => { claim with expiresAt := expiresAt })

theorem renewClaim_move (ttl : Nat) : RenewMove s (s.renewClaim key ttl).1 key.driverOperation := by
  unfold renewClaim
  split
  · exact .same rfl
  split
  · exact .same rfl
  · rename_i publication claim hlock
    have hlocked := lockClaim_eq_some_iff.mp hlock
    split
    · exact .same rfl
    · exact .renewed hlocked.lookup hlocked.found hlocked.live rfl

/-- What every call of a claimant does. -/
theorem recoveryCall_move (hsystem : Sound env s) (key : ClaimKey) (call : RecoveryCall) :
    (∃ ttl, call = .renew ttl ∧ RenewMove s (s.recoveryCall env key call) key.driverOperation) ∨
      RecoveryMove env s (s.recoveryCall env key call) key.driverOperation := by
  cases call with
  | claim ttl => exact Or.inr (claimInterrupted_move key ttl)
  | renew ttl => exact Or.inl ⟨ttl, rfl, renewClaim_move ttl⟩
  | recordCandidate call => exact Or.inr (recordCandidateEntry_move hsystem call)
  | sealCandidate call => exact Or.inr (sealCandidate_move hsystem call)
  | recordObservation observation => exact Or.inr (recordRuntimeObservation_move observation)
  | authorize call => exact Or.inr (authorizeExchange_move hsystem call)
  | authorizeFromObservation digest => exact Or.inr (authorizeFromObservation_move hsystem digest)
  | resolve kind evidence response =>
    exact Or.inr (resolveInterrupted_move hsystem kind evidence response)
  | finish kind digest => exact Or.inr (finishInterrupted_move hsystem kind digest)
  | finishReviewed => exact Or.inr (finishReviewed_move hsystem)

end Decisions

end ControlPlane.Releases
