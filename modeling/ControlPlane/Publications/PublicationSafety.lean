/-
# Safety of publications

At most one publication is live. Its phases follow their order, its evidence is written
once, and calls that present anything but its own tokens and fences change nothing. When its
attempt is over or a lease has run out, its own calls change nothing either, but it can still
be put in quarantine. When it is completed, its records are the frozen fleet's, the seal is
their digest, the target shows the published route, and every other workshop shows what it
showed at the admission.
-/

import ControlPlane.Publications.RecoverySafety

namespace ControlPlane.Publications

open Domain Driver Math Table Persistence
open Routes

/-! ## Phases -/

inductive PublicationPhase
  | live (phase : LivePhase)
  | completed
  | quarantined
  deriving DecidableEq

def Status.phase : Status → PublicationPhase
  | .active progress => .live progress.phase
  | .completed _ _ => .completed
  | .quarantined _ _ => .quarantined

/-- The order of the phases. -/
inductive Follows : PublicationPhase → PublicationPhase → Prop
  | sealed : Follows (.live .staging) (.live .sealed)
  | started : Follows (.live .sealed) (.live .publicationStarted)
  | observed : Follows (.live .publicationStarted) (.live .observed)
  | completed : Follows (.live .observed) .completed
  | quarantined {phase : LivePhase} : Follows (.live phase) .quarantined

/-- The tokens that a call presents. -/
def PublicationEvent.lease : PublicationEvent → Option PublicationLease
  | .renew lease _ | .recordPrior lease _ | .recordEntry lease _ _ | .sealRecords lease _ _
  | .start lease | .observe lease _ _ | .quarantine lease _ | .finish lease => some lease
  | _ => none

namespace PublicationState

variable {env : DatabaseEnvironment} {s t : PublicationState} {id : Uuid}
  {publication after : Publication}

theorem RowMove.phase (h : RowMove env s id publication after) :
    after.status.phase = publication.status.phase ∨
      Follows publication.status.phase after.status.phase := by
  cases h with
  | same | recorded _ _ _ _ | claimed _ | claimRenewed _ | resolved _ _ | ended _ _ =>
    exact Or.inl rfl
  | gained hstatus hgains =>
    rw [hstatus]
    cases hgains with
    | prior => exact Or.inl rfl
    | sealing => exact Or.inr .sealed
    | started => exact Or.inr .started
    | observed => exact Or.inr .observed
  | quarantined hstatus hchange =>
    rw [hstatus]
    rcases hchange with rfl | rfl <;> exact Or.inr .quarantined
  | completed hstatus _ _ =>
    rw [hstatus]
    exact Or.inr .completed

theorem Effect.phase (h : Effect env s t) (hrow : s.publications.lookup id = some publication)
    (hafter : t.publications.lookup id = some after) :
    after.status.phase = publication.status.phase ∨
      Follows publication.status.phase after.status.phase := by
  cases h with
  | unchanged =>
    rw [hrow] at hafter
    cases hafter
    exact Or.inl rfl
  | moved hmove =>
    obtain ⟨found, hfound, hchange⟩ := hmove.row hrow
    rw [hafter] at hfound
    cases hfound
    exact hchange.phase
  | claimedLive hlive _ =>
    rcases lookup_insert_twice hafter with ⟨rfl, rfl⟩ | ⟨-, hold⟩
    · cases hrow.symm.trans hlive.row
      rw [hlive.status]
      exact Or.inr .quarantined
    · cases hrow.symm.trans hold
      exact Or.inl rfl

/-! ## Completed publications -/

theorem records_cover (hevidence : RowEvidence env id publication)
    (hcount : publication.records.entries.length = publication.identity.snapshotCount)
    (workshop : Uuid) :
    (∃ record, publication.records.lookup workshop = some record) ↔
      ∃ row ∈ publication.identity.snapshot, row.workshop = workshop := by
  constructor
  · rintro ⟨record, hrecord⟩
    obtain ⟨row, hrow, hworkshop, -⟩ := hevidence.records workshop record hrecord
    exact ⟨row, hrow, hworkshop⟩
  rintro ⟨row, hrow, rfl⟩
  have hsubset : publication.records.keys ⊆
      publication.identity.snapshot.map SnapshotRow.workshop := by
    intro key hkey
    obtain ⟨record, hrecord⟩ :=
      Option.isSome_iff_exists.mp (AList.lookup_isSome.mpr (AList.mem_keys.mp hkey))
    obtain ⟨found, hfound, hworkshop, -⟩ := hevidence.records key record hrecord
    exact List.mem_map.mpr ⟨found, hfound, hworkshop⟩
  -- As many distinct keys as distinct workshops, so none is missing.
  have hperm : List.Perm publication.records.keys
      (publication.identity.snapshot.map SnapshotRow.workshop) := by
    refine (List.subperm_of_subset publication.records.keys_nodup hsubset).perm_of_length_le ?_
    rw [List.length_map, hevidence.frozen.count, ← hcount]
    exact (List.length_map _).ge
  have hkey := hperm.mem_iff.mpr (List.mem_map_of_mem hrow)
  exact Option.isSome_iff_exists.mp (AList.lookup_isSome.mpr (AList.mem_keys.mpr hkey))

/-- The state that a completed publication leaves. -/
structure Completed (env : DatabaseEnvironment) (t : PublicationState) (publication : Publication)
    (evidence : ObservedEvidence) : Prop where
  covers : ∀ workshop, (∃ record, publication.records.lookup workshop = some record) ↔
    ∃ row ∈ publication.identity.snapshot, row.workshop = workshop
  renders : ∀ workshop record, publication.records.lookup workshop = some record →
    ∃ row ∈ publication.identity.snapshot, row.workshop = workshop ∧ Renders row record
  digest : routeSetDigest env publication.records = evidence.sealing.digest
  target : ∃ record, publication.records.lookup publication.identity.workshop = some record ∧
    record.route = publication.identity.route ∧
    t.heads.lookup publication.identity.workshop = some ⟨some publication.identity.route,
      some (publication.identity.appliedHead record.renderedDigest)⟩
  others : ∀ workshop head, workshop ≠ publication.identity.workshop →
    t.heads.lookup workshop = some head →
    ∃ row ∈ publication.identity.snapshot, row.workshop = workshop ∧
      head.applied = some row.baseline

theorem targetRecord_spec {record : PublicationRecord}
    (h : publication.targetRecord = some record) :
    publication.records.lookup publication.identity.workshop = some record ∧
      record.route = publication.identity.route := by
  unfold Publication.targetRecord at h
  split at h
  swap
  · cases h
  rename_i found hfound
  obtain ⟨hmatches, heq⟩ := Option.ite_none_right_eq_some.mp h
  cases heq
  exact ⟨hfound, hmatches.1⟩

/-- The heads of a frozen fleet whose target was applied. -/
theorem FleetFrozen.others {identity : PublicationIdentity} (h : s.FleetFrozen identity)
    {workshop : Uuid} {head : FleetHead} (hhead : s.heads.lookup workshop = some head) :
    ∃ row ∈ identity.snapshot, row.workshop = workshop ∧ head.applied = some row.baseline := by
  obtain ⟨row, hrow, rfl⟩ := h.covers workshop head hhead
  obtain ⟨found, hfound, happlied, -⟩ := h.heads row hrow
  rw [hhead] at hfound
  cases hfound
  exact ⟨row, hrow, rfl, happlied⟩

variable {evidence : ObservedEvidence} {response : Stamped AppliedResponse}

section

variable (hinv : Inv env s) (hrow : s.publications.lookup id = some publication)
  (hbefore : publication.status.phase ≠ .completed)
  (hafter : t.publications.lookup id = some after)
  (hcompleted : after.status = .completed evidence response)

include hinv hrow hbefore hafter hcompleted

theorem Move.completes (h : Move env s t) : Completed env t after evidence := by
  have hphase : after.status.phase = .completed := by rw [hcompleted]; rfl
  have hkept : ∀ {u : PublicationState} {key : Uuid} {old new : Publication},
      u.publications = s.publications → s.publications.lookup key = some old →
      (new.status.phase = .completed → new.status.phase = old.status.phase) →
      (u.withPublication key new).publications.lookup id ≠ some after := by
    intro u key old new hu hold hsame hlookup
    rcases lookup_insert_cases hlookup with ⟨rfl, rfl⟩ | ⟨-, hother⟩
    · rw [hrow] at hold
      cases hold
      exact hbefore ((hsame hphase).symm.trans hphase)
    · rw [hu, hrow] at hother
      cases hother
      exact hbefore hphase
  have hsame : s.publications.lookup id ≠ some after := by
    rw [hrow]
    rintro ⟨⟩
    exact hbefore hphase
  cases h with
  | queue _ | desired _ _ | renewed _ _ => exact absurd hafter hsame
  | admitted hadmissible =>
    rcases lookup_insert_cases hafter with ⟨rfl, -⟩ | ⟨-, hother⟩
    · rw [hadmissible.publicationFree] at hrow
      cases hrow
    · exact absurd hother hsame
  | gained hauthorized _ _ =>
    exact absurd hafter (hkept rfl (authorized_cases hauthorized).1 nofun)
  | recorded hauthorized _ _ _ _ =>
    exact absurd hafter (hkept rfl (authorized_cases hauthorized).1 fun _ => rfl)
  | quarantined hlive hchange =>
    refine absurd hafter (hkept rfl hlive.row ?_)
    rcases hchange with rfl | rfl <;> nofun
  | claimed hold _ _ => exact absurd hafter (hkept rfl hold fun _ => rfl)
  | claimRenewed hlocked | resolved hlocked _ =>
    exact absurd hafter (hkept rfl (lockClaim_cases hlocked).1 fun _ => rfl)
  | recovered hdecided _ _ _ | released hdecided _ =>
    exact absurd hafter (hkept rfl hdecided.row fun _ => rfl)
  | @completed lease live _ record driverOperation hlive hsealed htarget hfrozen =>
    rcases lookup_insert_cases hafter with ⟨rfl, rfl⟩ | ⟨-, hother⟩
    · cases hcompleted
      have hevidence := hinv.evidence _ _ hlive.row
      obtain ⟨hfleet, -⟩ := hinv.held hlive.row hlive.status
      simp only [recordsSealed, Bool.and_eq_true, decide_eq_true_eq] at hsealed
      obtain ⟨⟨⟨htotal, -⟩, -⟩, hdigest⟩ := hsealed
      have hcovers := records_cover hevidence htotal
      obtain ⟨hrecord, hroute⟩ := targetRecord_spec htarget
      obtain ⟨hhead, hothers⟩ := heads_appliedTables driverOperation
        (appliedResponse lease.publication live.identity evidence.sealing record.renderedDigest)
        hfrozen
      exact {
        covers := hcovers
        renders := hevidence.records
        digest := hdigest
        target := ⟨record, hrecord, hroute, hhead⟩
        others := fun workshop head hne hlookup =>
          hfleet.others ((hothers workshop hne).symm.trans hlookup) }
    · exact absurd hother hsame

theorem Effect.completes (h : Effect env s t) : Completed env t after evidence := by
  cases h with
  | unchanged =>
    rw [hrow] at hafter
    cases hafter
    rw [hcompleted] at hbefore
    exact absurd rfl hbefore
  | moved hmove => exact hmove.completes hinv hrow hbefore hafter hcompleted
  | claimedLive hlive _ =>
    -- The claimed row is in quarantine, and the others stay.
    rcases lookup_insert_twice hafter with ⟨rfl, rfl⟩ | ⟨-, hold⟩
    · cases hcompleted
    · cases hrow.symm.trans hold
      rw [hcompleted] at hbefore
      exact absurd rfl hbefore

end

/-! ## New publications -/

/-- A new publication freezes the fleet as it is: one row for every head. -/
structure Freezes (s : PublicationState) (publication : Publication) : Prop where
  staging : publication.status = .active (.staging none)
  covers : ∀ workshop head, s.heads.lookup workshop = some head →
    ∃ row ∈ publication.identity.snapshot, Copies publication.identity.workshop workshop head row
  copies : ∀ row ∈ publication.identity.snapshot, ∃ head, s.heads.lookup row.workshop = some head ∧
      Copies publication.identity.workshop row.workshop head row

theorem Effect.freezes (h : Effect env s t) (hnone : s.publications.lookup id = none)
    (hafter : t.publications.lookup id = some after) : Freezes s after := by
  cases h with
  | unchanged => exact absurd (hnone.symm.trans hafter) nofun
  | moved hmove =>
    obtain ⟨call, route, applied, lease, hadmissible, -, -, rfl⟩ := hmove.new_row hnone hafter
    refine ⟨rfl, fun workshop head hhead => ?_, fun row hrow => ?_⟩
    · exact fleetSnapshot_covers hadmissible.ready hadmissible.complete hhead
    · obtain ⟨workshop, head, hhead, hselected⟩ := mem_fleetSnapshot.mp hrow
      have hcopies := copies_of_snapshotRow hselected
      obtain rfl := hcopies.key
      exact ⟨head, hhead, hcopies⟩
  | claimedLive hlive _ =>
    rcases lookup_insert_twice hafter with ⟨rfl, -⟩ | ⟨-, hold⟩
    · exact absurd (hnone.symm.trans hlive.row) nofun
    · exact absurd (hnone.symm.trans hold) nofun

/-! ## Stale calls -/

/-- No live publication was admitted with these tokens and fences. -/
def Stale (s : PublicationState) (lease : PublicationLease) : Prop :=
  ∀ publication, s.publications.lookup lease.publication = some publication →
    lease = publication.identity.lease lease.publication →
    ∀ progress, publication.status ≠ .active progress

variable {lease : PublicationLease}

theorem hasAuthority_of_stale (h : s.Stale lease) :
    s.hasAuthority lease = false := by
  unfold hasAuthority
  split
  swap
  · rfl
  rename_i publication hrow
  split
  · rename_i progress hstatus
    have hlease : lease ≠ publication.identity.lease lease.publication := fun hlease =>
      h publication hrow hlease progress hstatus
    simp [decide_eq_false hlease]
  · rfl
  · rfl

theorem hasAuthority_of_notCurrent
    (h : ∀ publication, s.publications.lookup lease.publication = some publication →
      s.upstreamCurrent publication.identity = false) : s.hasAuthority lease = false := by
  unfold hasAuthority
  split
  swap
  · rfl
  rename_i publication hrow
  split
  · simp [h publication hrow]
  · rfl
  · rfl

theorem step_of_unauthorized (hlost : s.hasAuthority lease = false)
    {event : PublicationEvent} (hevent : event.lease = some lease)
    (hquarantine : ∀ safeError, event ≠ .quarantine lease safeError)
    (hfinish : event ≠ .finish lease) : step env s event = some s := by
  have h : s.authorized lease = none := by simp [authorized, hlost]
  cases event with
  | renew presented ttlSeconds =>
    cases hevent
    simp only [step, renewRouteSetPublication, h]
    split <;> rfl
  | recordPrior presented prior =>
    cases hevent
    simp only [step, recordRouteSetPublicationPrior, h]
    rfl
  | recordEntry presented workshop record =>
    cases hevent
    simp only [step, recordRouteSetPublicationEntry, h]
    split <;> rfl
  | sealRecords presented selector sealing =>
    cases hevent
    simp only [step, sealRouteSetPublication, h]
    rfl
  | start presented =>
    cases hevent
    simp only [step, startRouteSetPublication, h]
    rfl
  | observe presented observation directory =>
    cases hevent
    simp only [step, observeRouteSetPublication, h]
    rfl
  | quarantine presented safeError =>
    cases hevent
    exact absurd rfl (hquarantine safeError)
  | finish presented =>
    cases hevent
    exact absurd rfl hfinish
  | _ => cases hevent

theorem step_quarantine_of_stale (h : s.Stale lease)
    (safeError : String) : step env s (.quarantine lease safeError) = some s := by
  simp only [step, quarantineRouteSetPublicationProjectionV1]
  split
  · rfl
  split
  · rfl
  rename_i publication hrow
  split
  · rfl
  · rfl
  split
  · rfl
  rename_i hlease
  split
  · rfl
  · rfl
  rename_i progress hstatus
  exact absurd hstatus (h publication hrow (not_not.mp hlease) progress)

theorem finishBody_of_lost (h : s.hasAuthority lease = false) :
    ∃ row, finishRouteSetPublicationProjectionV1 env s lease = .ok (s, row) := by
  unfold finishRouteSetPublicationProjectionV1
  split
  · exact ⟨_, rfl⟩
  split
  · exact ⟨_, rfl⟩
  rename_i publication hrow
  split
  · exact ⟨_, rfl⟩
  rename_i hlease
  split
  · exact ⟨_, rfl⟩
  · exact ⟨_, rfl⟩
  rename_i progress hstatus
  split
  · exact ⟨_, rfl⟩
  · exact ⟨_, rfl⟩
  rename_i driverOperation hsubject
  split
  · exact ⟨_, rfl⟩
  · exact ⟨_, rfl⟩
  · exact ⟨_, rfl⟩
  -- A finish asks for all that the authority needs.
  have hauthority : s.finishAuthorized lease publication.identity driverOperation = false := by
    simp only [hasAuthority, hrow, hstatus, decide_eq_true (not_not.mp hlease), subjectCurrent,
      hsubject] at h
    cases hreceipt : s.receipts.lookup driverOperation <;> grind [finishAuthorized]
  rw [if_pos (Or.inl hauthority)]
  exact ⟨_, rfl⟩

theorem step_finish_of_body (h : s.OnlyProjections)
    (hbody : ∃ row, finishRouteSetPublicationProjectionV1 env s lease = .ok (s, row)) :
    step env s (.finish lease) = some s := by
  obtain ⟨row, hrow⟩ := hbody
  simp only [step, committed_finish h, hrow]
  rfl

theorem step_admit_of_stale {call : AdmitPublicationCall} (h : s.callerCurrent call = false) :
    step env s (.admitPublication call) = some s := by
  simp only [step, admitRouteSetPublication, h]
  split <;> rfl

/-! ## Safety -/

/-- What holds in a state. -/
structure PublicationSafe (env : DatabaseEnvironment) (s : PublicationState) : Prop where
  atMostOne : ∀ first second publication other progress progress',
    s.publications.lookup first = some publication → publication.status = .active progress →
    s.publications.lookup second = some other → other.status = .active progress' →
    first = second
  staleLease : ∀ event lease, event.lease = some lease → s.Stale lease → step env s event = some s
  /-- Also when only a lease of a live publication has run out. -/
  authorityLost : ∀ event lease, event.lease = some lease →
    (∀ safeError, event ≠ .quarantine lease safeError) → s.hasAuthority lease = false →
    step env s event = some s
  /-- An attempt that is over can still put its publication in quarantine. -/
  staleAttempt : ∀ event lease, event.lease = some lease →
    (∀ safeError, event ≠ .quarantine lease safeError) →
    (∀ publication, s.publications.lookup lease.publication = some publication →
      s.upstreamCurrent publication.identity = false) → step env s event = some s
  staleAdmission : ∀ call, s.callerCurrent call = false →
    step env s (.admitPublication call) = some s

/-- What one step does. -/
structure PublicationStepSafe (env : DatabaseEnvironment) (s t : PublicationState) : Prop where
  rows : ∀ id publication, s.publications.lookup id = some publication →
    ∃ after, t.publications.lookup id = some after ∧ Later publication after ∧
      (after.status.phase = publication.status.phase ∨
        Follows publication.status.phase after.status.phase)
  admission : ∀ id publication, s.publications.lookup id = none →
    t.publications.lookup id = some publication → Freezes s publication
  completion : ∀ id publication after evidence response,
    s.publications.lookup id = some publication → publication.status.phase ≠ .completed →
    t.publications.lookup id = some after → after.status = .completed evidence response →
    Completed env t after evidence

theorem Inv.step_of_lost (h : Inv env s) {event : PublicationEvent}
    (hevent : event.lease = some lease)
    (hquarantine : ∀ safeError, event ≠ .quarantine lease safeError)
    (hlost : s.hasAuthority lease = false) : step env s event = some s := by
  by_cases hfinish : event = .finish lease
  · subst hfinish
    exact step_finish_of_body h.onlyProjections (finishBody_of_lost hlost)
  · exact step_of_unauthorized hlost hevent hquarantine hfinish

theorem Inv.publicationSafe (h : Inv env s) : PublicationSafe env s where
  atMostOne first second publication other progress progress' hrow hstatus hother hstatus' := by
    have hfirst := (h.held hrow hstatus).2.names
    have hsecond := (h.held hother hstatus').2.names
    exact Option.some.inj (hfirst.symm.trans hsecond)
  staleLease event lease hevent hstale := by
    by_cases hquarantine : ∃ safeError, event = .quarantine lease safeError
    · obtain ⟨safeError, rfl⟩ := hquarantine
      exact step_quarantine_of_stale hstale safeError
    · exact h.step_of_lost hevent (fun safeError heq => hquarantine ⟨safeError, heq⟩)
        (hasAuthority_of_stale hstale)
  authorityLost event lease hevent hquarantine hlost := h.step_of_lost hevent hquarantine hlost
  staleAttempt event lease hevent hquarantine hover :=
    h.step_of_lost hevent hquarantine (hasAuthority_of_notCurrent hover)
  staleAdmission call hstale := step_admit_of_stale hstale

/-- **Publications are safe.** In every state of every history at most one publication is
live, stale tokens and fences change nothing, and stale attempts and leases nothing but that
the publication may be put in quarantine. Every step keeps the recorded evidence and follows
the order of the phases; an admission freezes the fleet as it is, and a completion leaves the
sealed records of exactly that fleet, the published route at the target, and every other
workshop as it was frozen. -/
theorem publication_safety {start : PublicationState} {events : List PublicationEvent}
    (hinitial : start.Initial) (hrun : Run (step env) start events s) :
    PublicationSafe env s ∧ ∀ event t, step env s event = some t → PublicationStepSafe env s t := by
  have hinv := inv_of_run hinitial hrun
  refine ⟨hinv.publicationSafe, fun event t hstep => ?_⟩
  have heffect := step_effect hinv.onlyProjections hstep
  refine ⟨fun id publication hrow => ?_, fun _ _ hnone hafter => heffect.freezes hnone hafter,
    fun _ _ _ _ _ hrow hbefore hafter hcompleted =>
      heffect.completes hinv hrow hbefore hafter hcompleted⟩
  obtain ⟨after, hafter, hlater⟩ := heffect.later hrow
  exact ⟨after, hafter, hlater, heffect.phase hrow hafter⟩

/-! ## One publication from admission to completion -/

/-- The writer's attempt is over, for another worker has the operation, and the writer puts
its publication in quarantine. -/
def overtaken : List PublicationEvent :=
  [.admitPublication publishCall, .queue (.advance (seconds 61)),
    .queue (.lease .tenantProvisioning "worker-d" fun _ => false)]

theorem overtaken_quarantined : (replay (step zeroHash) beforePublication overtaken).any (fun s =>
      ((s.publications.lookup 9).any fun publication =>
        decide (publication.status.phase = .live .staging) &&
          !s.upstreamCurrent publication.identity) &&
      (step zeroHash s (.quarantine publishedLease outcomeUnknown)).any fun t =>
        (t.publications.lookup 9).any fun publication =>
          decide (publication.status.phase = .quarantined)) = true := by
  decide +kernel

/-- A call for an attempt that is over moves the phase. -/
theorem quarantined_by_stale_attempt : ∃ s t publication after,
    beforePublication.Initial ∧ Run (step zeroHash) beforePublication overtaken s ∧
      s.publications.lookup 9 = some publication ∧
      publication.status.phase = .live .staging ∧
      s.upstreamCurrent publication.identity = false ∧
      step zeroHash s (.quarantine publishedLease outcomeUnknown) = some t ∧
      t.publications.lookup 9 = some after ∧ after.status.phase = .quarantined := by
  obtain ⟨s, hreplay, hchecked⟩ := (Option.any_eq_true _ _).mp overtaken_quarantined
  rw [Bool.and_eq_true] at hchecked
  obtain ⟨publication, hrow, hbefore⟩ := (Option.any_eq_true _ _).mp hchecked.1
  obtain ⟨t, hstep, hafter⟩ := (Option.any_eq_true _ _).mp hchecked.2
  obtain ⟨after, hlookup, hphase⟩ := (Option.any_eq_true _ _).mp hafter
  simp only [Bool.and_eq_true, decide_eq_true_eq, Bool.not_eq_true'] at hbefore
  exact ⟨s, t, publication, after, beforePublication_initial, run_of_replay hreplay, hrow,
    hbefore.1, hbefore.2, hstep, hlookup, of_decide_eq_true hphase⟩

def otherHead : AppliedHead := { samplePrior with renderedDigest := "sha256:" ++ zeroDigest }

/-- A second workshop beside the one that is published. -/
def twoWorkshops : PublicationState :=
  { beforePublication with
    workshops := [1, 2]
    leases := beforePublication.leases.insert 2 ⟨1, false, .idle⟩
    heads := beforePublication.heads.insert 2 ⟨some otherHead.toDesiredRoute, some otherHead⟩
    projections := beforePublication.projections.insert (2, 1)
      ⟨"sha256:1", .object [], .present⟩ }

def publishedIdentity : PublicationIdentity :=
  twoWorkshops.newIdentity publishCall publishedRoute samplePrior 2

/-- The driver publishes the second generation of the first workshop and comes to its end. -/
def published : List PublicationEvent :=
  [.admitPublication publishCall,
    .recordPrior publishedLease ⟨"generations/boot-live", ⟨1, 1⟩, none⟩,
    .recordEntry publishedLease 1 ⟨publishedRoute, "sha256:a", "sha256:" ++ zeroDigest⟩,
    .recordEntry publishedLease 2 ⟨otherHead.toDesiredRoute, otherHead.renderedDigest,
      otherHead.renderedDigest⟩,
    .sealRecords publishedLease publishedIdentity.selector ⟨2, 2, "sha256:" ++ zeroDigest, ⟨1, 2⟩⟩,
    .start publishedLease,
    .observe publishedLease ⟨publishedIdentity.selector,
      expectedIdentity 9 publishedIdentity (some ("sha256:" ++ zeroDigest))⟩ ⟨1, 2⟩]

theorem published_completed : (replay (step zeroHash) twoWorkshops published).any (fun s =>
      ((s.publications.lookup 9).any fun publication =>
        decide (publication.status.phase = .live .observed)) &&
      (step zeroHash s (.finish publishedLease)).any fun t =>
        (t.heads.lookup 2).isSome && (t.publications.lookup 9).any fun publication =>
          decide (publication.status.phase = .completed ∧ 2 ≠ publication.identity.workshop)) =
    true := by
  decide +kernel

/-- The theorem at the completion of a publication, with what the other workshop shows. -/
theorem publication_safety_published : ∃ s t publication evidence head row,
    Run (step zeroHash) twoWorkshops published s ∧ PublicationSafe zeroHash s ∧
      step zeroHash s (.finish publishedLease) = some t ∧
      t.publications.lookup 9 = some publication ∧ publication.status.phase = .completed ∧
      Completed zeroHash t publication evidence ∧ t.heads.lookup 2 = some head ∧
      row ∈ publication.identity.snapshot ∧ row.workshop = 2 ∧
      head.applied = some row.baseline := by
  obtain ⟨s, hreplay, hchecked⟩ := (Option.any_eq_true _ _).mp published_completed
  rw [Bool.and_eq_true] at hchecked
  obtain ⟨before, hbefore, hlive⟩ := (Option.any_eq_true _ _).mp hchecked.1
  obtain ⟨t, hstep, hafter⟩ := (Option.any_eq_true _ _).mp hchecked.2
  rw [Bool.and_eq_true] at hafter
  obtain ⟨head, hhead⟩ := Option.isSome_iff_exists.mp hafter.1
  obtain ⟨publication, hrow, hpublished⟩ := (Option.any_eq_true _ _).mp hafter.2
  obtain ⟨hphase, hne⟩ := of_decide_eq_true hpublished
  have hinitial : twoWorkshops.Initial := ⟨rfl, rfl, rfl⟩
  have hrun := run_of_replay hreplay
  obtain ⟨hstate, hsteps⟩ := publication_safety hinitial hrun
  cases hstatus : publication.status with
  | completed evidence response =>
    have hcompleted := (hsteps _ t hstep).completion 9 before publication evidence response hbefore
      (by rw [of_decide_eq_true hlive]; nofun) hrow hstatus
    obtain ⟨row, hmem, hworkshop, happlied⟩ := hcompleted.others 2 head hne hhead
    exact ⟨s, t, publication, evidence, head, row, hrun, hstate, hstep, hrow, hphase, hcompleted,
      hhead, hmem, hworkshop, happlied⟩
  | active progress | quarantined progress quarantinedAt =>
    rw [hstatus] at hphase
    cases hphase

end PublicationState

end ControlPlane.Publications
