/-
# What the row of a publication proves

Three kinds of facts about a single row hold in every history: the snapshot is a copy of
the fleet, the evidence fits the snapshot and the phase, and the claims and observations
are in the order of their fences. None of them reads another table, so they are proved
along the changes of one row.
-/

import ControlPlane.Publications.Moves

namespace ControlPlane.Publications

open Domain Driver Math Table Persistence
open Routes

/-! ## The frozen fleet -/

namespace PublicationState

variable {s : PublicationState} {target : Uuid}

/-- What a snapshot row copies from its head. -/
structure Copies (target workshop : Uuid) (head : FleetHead) (row : SnapshotRow) : Prop where
  key : row.workshop = workshop
  applied : head.applied = some row.baseline
  isTarget : row.isTarget = decide (workshop = target)
  desired : workshop = target → head.desired = some row.route
  others : workshop ≠ target → row.route = row.baseline.toDesiredRoute

variable {workshop : Uuid} {head : FleetHead} {row : SnapshotRow}

theorem copies_of_snapshotRow (h : s.snapshotRow target workshop head = some row) :
    Copies target workshop head row := by
  unfold snapshotRow at h
  split at h
  swap
  · cases h
  rename_i route projection applied hselected happlied
  cases h
  unfold selectedProjection at hselected
  split at hselected
  · cases hselected
  rename_i selected hroute
  split at hselected
  swap
  · cases hselected
  rename_i stored _
  obtain ⟨-, heq⟩ := Option.ite_none_right_eq_some.mp hselected
  cases heq
  unfold selectedRoute at hroute
  refine ⟨rfl, happlied, rfl, ?_, ?_⟩
  · intro htarget
    rwa [if_pos htarget] at hroute
  · intro hother
    rw [if_neg hother, happlied] at hroute
    exact (Option.some.inj hroute).symm

theorem mem_fleetSnapshot :
    row ∈ s.fleetSnapshot target ↔ ∃ workshop head, s.heads.lookup workshop = some head ∧
      s.snapshotRow target workshop head = some row := by
  unfold fleetSnapshot
  rw [List.mem_insertionSort]
  exact mem_filterMap_entries

theorem nodup_fleetSnapshot : ((s.fleetSnapshot target).map SnapshotRow.workshop).Nodup := by
  have hselected : ((s.heads.entries.filterMap fun entry =>
      s.snapshotRow target entry.1 entry.2).map SnapshotRow.workshop).Nodup :=
    nodup_filterMap_entries fun _ _ _ hrow => (copies_of_snapshotRow hrow).key
  exact ((List.perm_insertionSort _ _).map _).nodup_iff.mpr hselected

/-- A snapshot of the expected length has a row for every head. -/
theorem fleetSnapshot_covers (hready : s.fleetReady target = true)
    (hcomplete : (s.fleetSnapshot target).length = s.workshops.length)
    (hhead : s.heads.lookup workshop = some head) :
    ∃ row ∈ s.fleetSnapshot target, Copies target workshop head row := by
  simp only [fleetReady, Bool.and_eq_true, decide_eq_true_eq] at hready
  obtain ⟨⟨⟨-, hheads⟩, -⟩, -⟩ := hready
  have hlength : (s.heads.entries.filterMap fun entry =>
      s.snapshotRow target entry.1 entry.2).length = s.heads.entries.length := by
    rw [hheads, ← hcomplete]
    exact (List.length_insertionSort _ _).symm
  obtain ⟨row, hrow⟩ := select_of_length_eq hlength hhead
  exact ⟨row, mem_fleetSnapshot.mpr ⟨workshop, head, hhead, hrow⟩, copies_of_snapshotRow hrow⟩

end PublicationState

/-- A snapshot with one row per workshop, of which one is the target's. -/
structure PublicationIdentity.Frozen (identity : PublicationIdentity) : Prop where
  count : identity.snapshot.length = identity.snapshotCount
  distinct : (identity.snapshot.map SnapshotRow.workshop).Nodup
  isTarget : ∀ row ∈ identity.snapshot, row.isTarget = decide (row.workshop = identity.workshop)
  target : ∃ row ∈ identity.snapshot, row.workshop = identity.workshop
  route : ∀ row ∈ identity.snapshot, row.workshop = identity.workshop →
    row.route = identity.route ∧ row.baseline = identity.prior
  others : ∀ row ∈ identity.snapshot, row.workshop ≠ identity.workshop →
    row.route = row.baseline.toDesiredRoute

namespace PublicationState

theorem newIdentity_frozen {s : PublicationState} {call : AdmitPublicationCall}
    {route : DesiredRoute} {applied : AppliedHead} {routeFence : Nat}
    (hready : s.fleetReady call.workshop = true)
    (hhead : s.heads.lookup call.workshop = some ⟨some route, some applied⟩)
    (hcomplete : (s.fleetSnapshot call.workshop).length = s.workshops.length) :
    (s.newIdentity call route applied routeFence).Frozen where
  count := hcomplete
  distinct := nodup_fleetSnapshot
  isTarget row hrow := by
    obtain ⟨workshop, head, -, hselected⟩ := mem_fleetSnapshot.mp hrow
    have hcopies := copies_of_snapshotRow hselected
    rw [hcopies.isTarget, hcopies.key]
    rfl
  target := by
    obtain ⟨row, hrow, hcopies⟩ := fleetSnapshot_covers hready hcomplete hhead
    exact ⟨row, hrow, hcopies.key⟩
  route row hrow htarget := by
    obtain ⟨workshop, head, hlookup, hselected⟩ := mem_fleetSnapshot.mp hrow
    have hcopies := copies_of_snapshotRow hselected
    have hworkshop : workshop = call.workshop := hcopies.key.symm.trans htarget
    subst hworkshop
    rw [hhead] at hlookup
    cases hlookup
    exact ⟨(Option.some.inj (hcopies.desired rfl)).symm, (Option.some.inj hcopies.applied).symm⟩
  others row hrow hother := by
    obtain ⟨workshop, head, -, hselected⟩ := mem_fleetSnapshot.mp hrow
    have hcopies := copies_of_snapshotRow hselected
    exact hcopies.others fun htarget => hother (hcopies.key.trans htarget)

end PublicationState

/-! ## Evidence -/

/-- A record renders its snapshot row; only the target may render anew. -/
structure Renders (row : SnapshotRow) (record : PublicationRecord) : Prop where
  route : record.route = row.route
  applied : record.appliedRenderedDigest = row.baseline.renderedDigest
  others : row.isTarget = false → record.renderedDigest = row.baseline.renderedDigest

/-- The seal counts and digests the records that are there. -/
structure Seals (env : DatabaseEnvironment) (publication : Publication) (sealing : Seal) :
    Prop where
  total : sealing.count = publication.identity.snapshotCount
  count : publication.records.entries.length = sealing.count
  digest : routeSetDigest env publication.records = sealing.digest

/-- The evidence of a row fits its snapshot and its phase. -/
structure RowEvidence (env : DatabaseEnvironment) (id : Uuid) (publication : Publication) :
    Prop where
  projection : ∃ driverOperation, publication.identity.subject = .projection driverOperation
  frozen : publication.identity.Frozen
  records : ∀ workshop record, publication.records.lookup workshop = some record →
    ∃ row ∈ publication.identity.snapshot, row.workshop = workshop ∧ Renders row record
  sealing : ∀ sealing, publication.status.progress.sealing = some sealing →
    Seals env publication sealing
  observed : observationExact id publication = true

/-- Claims and observations of a row in the order of their fences. -/
structure ClaimOrder (publication : Publication) : Prop where
  /-- A live publication has nothing of a recovery yet. -/
  live : ∀ progress, publication.status = .active progress →
    publication.claim = none ∧ publication.terminal = none ∧
      publication.recoveryEligibleAt = none ∧ publication.recoveryWriteEligible = false
  writing : ∀ claim, publication.claim = some claim → claim.mode = .writeCleanup →
    publication.status.progress.startedAt = none
  quarantined : publication.claim.isSome = true ∨ publication.terminal.isSome = true →
    ∃ progress quarantinedAt, publication.status = .quarantined progress quarantinedAt
  bounded : ∀ fence resolution, publication.resolutions.lookup fence = some resolution →
    fence ≤ publication.claimFence
  /-- A claim ends with its observation, so without a claim the last fence is observed. -/
  latest : publication.claim = none → 0 < publication.claimFence →
    (publication.resolutions.lookup publication.claimFence).isSome = true

namespace PublicationState

variable {env : DatabaseEnvironment} {s t : PublicationState} {id : Uuid}
  {publication after : Publication}

theorem rowEvidence_new {call : AdmitPublicationCall} {route : DesiredRoute}
    {applied : AppliedHead} {routeFence : Nat}
    (hready : s.fleetReady call.workshop = true)
    (hhead : s.heads.lookup call.workshop = some ⟨some route, some applied⟩)
    (hcomplete : (s.fleetSnapshot call.workshop).length = s.workshops.length) :
    RowEvidence env id (newPublication (s.newIdentity call route applied routeFence)) where
  projection := ⟨call.receiptId, rfl⟩
  frozen := newIdentity_frozen hready hhead hcomplete
  records _ _ h := by cases h
  sealing _ h := by cases h
  observed := rfl

theorem claimOrder_new (identity : PublicationIdentity) : ClaimOrder (newPublication identity) where
  live _ _ := ⟨rfl, rfl, rfl, rfl⟩
  writing _ h := by cases h
  quarantined h := by rcases h with h | h <;> cases h
  bounded _ _ h := by cases h
  latest _ h := by cases h

end PublicationState

/-! ## One change of a row -/

section Rows

variable {env : DatabaseEnvironment} {id : Uuid} {publication after : Publication}

theorem Gains.sealing_cases {now : Timestamp} {old new : Progress}
    (h : Gains env id publication now old new) {sealing : Seal}
    (hsealing : new.sealing = some sealing) :
    old.sealing = some sealing ∨ Seals env publication sealing := by
  cases h with
  | prior => cases hsealing
  | sealing htotal hcount hdigest =>
    cases hsealing
    exact Or.inr ⟨htotal, hcount, hdigest⟩
  | started | observed => exact Or.inl hsealing

/-- A row whose identity, records, seal and observation are another's has its evidence. -/
theorem RowEvidence.congr (h : RowEvidence env id publication)
    (hidentity : after.identity = publication.identity)
    (hrecords : after.records = publication.records)
    (hsealing : after.status.progress.sealing = publication.status.progress.sealing)
    (hobservation : after.status.progress.observation = publication.status.progress.observation) :
    RowEvidence env id after where
  projection := by rw [hidentity]; exact h.projection
  frozen := by rw [hidentity]; exact h.frozen
  records := by rw [hidentity, hrecords]; exact h.records
  sealing sealing hseal := by
    rw [hsealing] at hseal
    obtain ⟨htotal, hcount, hdigest⟩ := h.sealing sealing hseal
    exact ⟨by rw [hidentity]; exact htotal, by rw [hrecords]; exact hcount,
      by rw [hrecords]; exact hdigest⟩
  observed := by
    have hobserved := h.observed
    unfold observationExact at hobserved ⊢
    rw [hobservation, hsealing, hidentity]
    exact hobserved

theorem renders_of_snapshotOf {workshop : Uuid} {record : PublicationRecord} {row : SnapshotRow}
    (hsnapshot : publication.snapshotOf workshop record = some row)
    (hrenders : renderInvariant publication.kind row record = true) :
    row ∈ publication.identity.snapshot ∧ row.workshop = workshop ∧ Renders row record := by
  have hrow := List.find?_some hsnapshot
  simp only [Bool.and_eq_true, decide_eq_true_eq] at hrow
  obtain ⟨⟨hworkshop, hroute⟩, hdigest⟩ := hrow
  refine ⟨List.mem_of_find?_eq_some hsnapshot, hworkshop, hroute.symm, hdigest.symm, ?_⟩
  intro hother
  simp only [renderInvariant, hother, Bool.and_eq_true, Bool.false_or,
    decide_eq_true_eq] at hrenders
  exact hrenders.1.1

end Rows

namespace PublicationState

variable {env : DatabaseEnvironment} {s t : PublicationState} {id : Uuid}
  {publication after : Publication}

theorem RowMove.evidence (h : RowMove env s id publication after)
    (hevidence : RowEvidence env id publication) : RowEvidence env id after := by
  cases h with
  | same => exact hevidence
  | gained hstatus hgains =>
    refine ⟨hevidence.projection, hevidence.frozen, hevidence.records, ?_, ?_⟩
    · intro sealing hsealing
      rcases Gains.sealing_cases hgains hsealing with hold | ⟨htotal, hcount, hdigest⟩
      · have hseals := hevidence.sealing sealing (by rw [hstatus]; exact hold)
        exact ⟨hseals.total, hseals.count, hseals.digest⟩
      · exact ⟨htotal, hcount, hdigest⟩
    · cases hgains with
      | prior | sealing | started => rfl
      | observed hselector hidentity =>
        simp only [observationExact, withProgress, Status.progress, Progress.observation,
          Progress.sealing, Option.all_some, Option.map_some, hselector, hidentity,
          decide_true, Bool.and_self]
  | @recorded _ prior workshop record row hstatus hfresh hsnapshot hrenders =>
    refine ⟨hevidence.projection, hevidence.frozen, ?_, ?_, ?_⟩
    · intro other value hvalue
      rcases lookup_insert_cases hvalue with ⟨rfl, rfl⟩ | ⟨-, hold⟩
      · obtain ⟨hmem, hworkshop, hrender⟩ := renders_of_snapshotOf hsnapshot hrenders
        exact ⟨row, hmem, hworkshop, hrender⟩
      · exact hevidence.records other value hold
    · intro sealing hsealing
      rw [hstatus] at hsealing
      cases hsealing
    · show observationExact id publication = true
      exact hevidence.observed
  | @quarantined _ interrupted progress hstatus hchange =>
    have hprogress : publication.status.progress = progress := by rw [hstatus]; rfl
    rcases hchange with rfl | rfl <;>
      exact hevidence.congr rfl rfl (by rw [hprogress]; rfl) (by rw [hprogress]; rfl)
  | claimed _ | claimRenewed _ | resolved _ _ | ended _ _ => exact hevidence.congr rfl rfl rfl rfl
  | completed hstatus _ _ =>
    exact hevidence.congr rfl rfl (by rw [hstatus]; rfl) (by rw [hstatus]; rfl)

theorem RowMove.claimOrder (h : RowMove env s id publication after)
    (horder : ClaimOrder publication) : ClaimOrder after := by
  cases h with
  | same => exact horder
  | gained hstatus _ =>
    have hlive := horder.live _ hstatus
    refine ⟨fun _ _ => hlive, ?_, ?_, horder.bounded, horder.latest⟩
    · intro claim hclaim
      rw [show publication.claim = some claim from hclaim] at hlive
      cases hlive.1
    · intro hsome
      rw [show (withProgress publication _).claim = none from hlive.1,
        show (withProgress publication _).terminal = none from hlive.2.1] at hsome
      rcases hsome with hsome | hsome <;> cases hsome
  | recorded hstatus _ _ _ =>
    exact ⟨horder.live, horder.writing, horder.quarantined, horder.bounded, horder.latest⟩
  | @quarantined _ _ progress hstatus hchange =>
    obtain ⟨hclaim, -⟩ := horder.live progress hstatus
    have hrow : after.status = .quarantined progress s.now ∧ after.claim = publication.claim ∧
        after.claimFence = publication.claimFence ∧
        after.resolutions = publication.resolutions := by
      rcases hchange with rfl | rfl <;> exact ⟨rfl, rfl, rfl, rfl⟩
    obtain ⟨hnew, hclaims, hfence, hresolutions⟩ := hrow
    refine ⟨?_, ?_, fun _ => ⟨progress, s.now, hnew⟩, ?_, ?_⟩
    · intro other hother
      rw [hnew] at hother
      cases hother
    · intro claim hsome
      rw [hclaims, hclaim] at hsome
      cases hsome
    · rw [hresolutions, hfence]
      exact horder.bounded
    · rw [hclaims, hresolutions, hfence]
      exact horder.latest
  | @claimed call _ progress quarantinedAt operationUntil hstatus =>
    refine ⟨?_, ?_, fun _ => ⟨progress, quarantinedAt, hstatus⟩, ?_, ?_⟩
    · intro other hother
      rw [show (publication.claimedBy call s.now operationUntil).status =
        publication.status from rfl, hstatus] at hother
      cases hother
    · intro claim hclaim hmode
      cases hclaim
      simp only [Publication.claimMode] at hmode
      split at hmode
      case isTrue heligible =>
        simp only [Bool.and_eq_true, Option.isNone_iff_eq_none] at heligible
        exact heligible.1.2
      case isFalse => cases hmode
    · intro fence resolution hresolution
      exact Nat.le_succ_of_le (horder.bounded fence resolution hresolution)
    · intro hclaim
      cases hclaim
  | @claimRenewed _ claim expiresAt hclaim =>
    refine ⟨?_, ?_, ?_, horder.bounded, ?_⟩
    · intro progress hstatus
      have hlive := horder.live progress hstatus
      rw [hclaim] at hlive
      cases hlive.1
    · intro other hother hmode
      cases hother
      exact horder.writing claim hclaim hmode
    · intro _
      exact horder.quarantined (Or.inl (by rw [hclaim]; rfl))
    · intro hnone
      cases hnone
  | @resolved _ claim resolution hclaim hfresh =>
    have hquarantined := horder.quarantined (Or.inl (by rw [hclaim]; rfl))
    refine ⟨?_, ?_, fun _ => hquarantined, ?_, ?_⟩
    · intro progress hstatus
      have hlive := horder.live progress hstatus
      rw [hclaim] at hlive
      cases hlive.1
    · intro other hother
      cases hother
    · exact forall_insert horder.bounded (le_refl _)
    · intro _ _
      show (AList.lookup publication.claimFence (publication.resolutions.insert _ _)).isSome = _
      rw [AList.lookup_insert]
      rfl
  | completed hstatus _ _ =>
    obtain ⟨hclaim, hterminal, -⟩ := horder.live _ hstatus
    refine ⟨?_, ?_, ?_, horder.bounded, horder.latest⟩
    · intro progress hnew
      cases hnew
    · intro claim hsome
      rw [show publication.claim = some claim from hsome] at hclaim
      cases hclaim
    · intro hsome
      simp only [hclaim, hterminal] at hsome
      rcases hsome with hsome | hsome <;> cases hsome
  | @ended _ terminal progress quarantinedAt hunended hstatus =>
    refine ⟨?_, horder.writing, fun _ => ⟨progress, quarantinedAt, hstatus⟩, horder.bounded,
      horder.latest⟩
    intro other hother
    rw [show publication.status = .active other from hother] at hstatus
    cases hstatus

end PublicationState

/-! ## Later rows -/

/-- What a row keeps for ever. -/
structure Later (old new : Publication) : Prop where
  identity : new.identity = old.identity
  prior : ∀ prior, old.status.progress.prior = some prior → new.status.progress.prior = some prior
  records : ∀ workshop record, old.records.lookup workshop = some record →
    new.records.lookup workshop = some record
  sealing : ∀ sealing, old.status.progress.sealing = some sealing →
    new.status.progress.sealing = some sealing ∧ new.records = old.records
  startedAt : ∀ startedAt, old.status.progress.startedAt = some startedAt →
    new.status.progress.startedAt = some startedAt
  observation : ∀ observation, old.status.progress.observation = some observation →
    new.status.progress.observation = some observation
  quarantined : ∀ progress quarantinedAt, old.status = .quarantined progress quarantinedAt →
    new.status = .quarantined progress quarantinedAt
  completed : ∀ evidence response, old.status = .completed evidence response →
    new.status = .completed evidence response
  claimFence : old.claimFence ≤ new.claimFence
  /-- Under one fence, a claim only gets another end. -/
  holder : new.claimFence = old.claimFence → ∀ claim, new.claim = some claim →
    ∃ earlier, old.claim = some earlier ∧ claim = { earlier with expiresAt := claim.expiresAt }
  resolutions : ∀ fence resolution, old.resolutions.lookup fence = some resolution →
    new.resolutions.lookup fence = some resolution
  terminal : ∀ terminal, old.terminal = some terminal → new.terminal = some terminal

theorem Later.refl (publication : Publication) : Later publication publication where
  identity := rfl
  prior _ h := h
  records _ _ h := h
  sealing _ h := ⟨h, rfl⟩
  startedAt _ h := h
  observation _ h := h
  quarantined _ _ h := h
  completed _ _ h := h
  claimFence := le_refl _
  holder _ claim h := ⟨claim, h, rfl⟩
  resolutions _ _ h := h
  terminal _ h := h

theorem Later.trans {first second third : Publication} (h : Later first second)
    (h' : Later second third) : Later first third where
  identity := h'.identity.trans h.identity
  prior prior hprior := h'.prior prior (h.prior prior hprior)
  records workshop record hrecord := h'.records workshop record (h.records workshop record hrecord)
  sealing sealing hsealing := by
    obtain ⟨hsecond, hrecords⟩ := h.sealing sealing hsealing
    obtain ⟨hthird, hrecords'⟩ := h'.sealing sealing hsecond
    exact ⟨hthird, hrecords'.trans hrecords⟩
  startedAt startedAt hstarted := h'.startedAt startedAt (h.startedAt startedAt hstarted)
  observation observation hobserved :=
    h'.observation observation (h.observation observation hobserved)
  quarantined progress quarantinedAt hstatus :=
    h'.quarantined progress quarantinedAt (h.quarantined progress quarantinedAt hstatus)
  completed evidence response hstatus :=
    h'.completed evidence response (h.completed evidence response hstatus)
  claimFence := h.claimFence.trans h'.claimFence
  holder hfence claim hclaim := by
    have hfirst := h.claimFence
    have hsecond := h'.claimFence
    obtain ⟨middle, hmiddle, heq⟩ := h'.holder (by omega) claim hclaim
    obtain ⟨earlier, hearlier, heq'⟩ := h.holder (by omega) middle hmiddle
    refine ⟨earlier, hearlier, ?_⟩
    rw [heq, heq']
  resolutions fence resolution hresolution :=
    h'.resolutions fence resolution (h.resolutions fence resolution hresolution)
  terminal terminal hterminal := h'.terminal terminal (h.terminal terminal hterminal)

/-- A live row whose status changes keeps what its progress holds, if the new one does. -/
theorem Later.of_active {publication : Publication} {old : Progress} {status : Status}
    (hstatus : publication.status = .active old)
    (hprior : ∀ prior, old.prior = some prior → status.progress.prior = some prior)
    (hsealing : ∀ sealing, old.sealing = some sealing → status.progress.sealing = some sealing)
    (hstarted : ∀ startedAt, old.startedAt = some startedAt →
      status.progress.startedAt = some startedAt)
    (hobserved : ∀ observation, old.observation = some observation →
      status.progress.observation = some observation) :
    Later publication { publication with status := status } where
  __ := Later.refl publication
  prior := by rwa [hstatus]
  sealing sealing h := ⟨hsealing sealing (by rwa [hstatus] at h), rfl⟩
  startedAt := by rwa [hstatus]
  observation := by rwa [hstatus]
  quarantined _ _ h := by rw [hstatus] at h; cases h
  completed _ _ h := by rw [hstatus] at h; cases h

namespace PublicationState

variable {env : DatabaseEnvironment} {s t : PublicationState} {id : Uuid}
  {publication after : Publication}

theorem RowMove.later (h : RowMove env s id publication after) : Later publication after := by
  cases h with
  | same => exact .refl _
  | gained hstatus hgains =>
    refine .of_active hstatus ?_ ?_ ?_ ?_
    · intro prior hprior
      cases hgains <;> first | cases hprior; done | exact hprior
    · intro sealing hsealing
      cases hgains <;> first | cases hsealing; done | exact hsealing
    · intro startedAt hstarted
      cases hgains <;> first | cases hstarted; done | exact hstarted
    · intro observation hobserved
      cases hgains <;> cases hobserved
  | @recorded _ prior workshop record row hstatus hfresh _ _ =>
    refine { Later.refl publication with records := le_insert hfresh record, sealing := ?_ }
    intro sealing hsealing
    rw [hstatus] at hsealing
    cases hsealing
  | @quarantined _ _ progress hstatus hchange =>
    have hlater : Later publication { publication with status := .quarantined progress s.now } :=
      .of_active hstatus (fun _ h => h) (fun _ h => h) (fun _ h => h) fun _ h => h
    rcases hchange with rfl | rfl
    · exact hlater
    · exact { hlater with }
  | claimed _ =>
    exact { Later.refl publication with
      claimFence := Nat.le_succ _
      holder := fun h => absurd h (Nat.succ_ne_self _) }
  | @claimRenewed _ claim expiresAt hclaim =>
    refine { Later.refl publication with holder := ?_ }
    intro _ other hother
    cases hother
    exact ⟨claim, hclaim, rfl⟩
  | resolved hclaim hfresh =>
    exact { Later.refl publication with
      holder := nofun
      resolutions := le_insert hfresh _ }
  | completed hstatus _ _ =>
    exact .of_active hstatus (fun _ h => h) (fun _ h => h) (fun _ h => h) fun _ h => h
  | ended hunended _ =>
    refine { Later.refl publication with terminal := ?_ }
    intro other hother
    rw [hunended] at hother
    cases hother

end PublicationState

end ControlPlane.Publications
