/-
# Who holds the fleet

While a publication is unfinished the fleet's lease names it, and what it froze at
admission stays as it is. Live, it holds the fleet, its target's route and its receipt
with the tokens and fences of its admission; interrupted, the three are in quarantine for
it. At most one publication can be unfinished, because there is one lease of the fleet.
-/

import ControlPlane.Publications.Rows

namespace ControlPlane.Publications

open Domain Driver Math Table Persistence
open Routes

/-- Neither completed nor ended by a recovery. -/
def Publication.unfinished (publication : Publication) : Bool :=
  match publication.status with
  | .active _ => true
  | .quarantined _ _ => publication.terminal.isNone
  | .completed _ _ => false

namespace PublicationState

/-! ## The tables of an unfinished publication -/

/-- The heads are the ones of the snapshot. -/
structure FleetFrozen (s : PublicationState) (identity : PublicationIdentity) : Prop where
  heads : ∀ row ∈ identity.snapshot, ∃ head, s.heads.lookup row.workshop = some head ∧
    head.applied = some row.baseline ∧
    (row.workshop = identity.workshop → head.desired = some row.route)
  covers : ∀ workshop head, s.heads.lookup workshop = some head →
    ∃ row ∈ identity.snapshot, row.workshop = workshop

/-- The leases and the receipt of a live publication. -/
structure Held (s : PublicationState) (id : Uuid) (identity : PublicationIdentity) : Prop where
  fleet : ∃ expiresAt, s.fleet = ⟨identity.globalFence, .held (.routeSetPublication id)
    identity.instanceOwner identity.globalLeaseToken expiresAt⟩
  route : ∃ lease expiresAt, s.leases.lookup identity.workshop = some lease ∧
    lease.fence = identity.routeFence ∧
    lease.phase = .held (.routeSetPublication id) (some identity.route.toRouteTarget)
      identity.instanceOwner identity.routeLeaseToken expiresAt
  receipt : ∃ driverOperation receipt expiresAt, identity.subject = .projection driverOperation ∧
    s.receipts.lookup driverOperation = some receipt ∧ receiptBound receipt identity = true ∧
    receipt.state = .inProgress ∧ receipt.safeError = none ∧
    receipt.execution = some ⟨identity.executionToken, expiresAt⟩

/-- The leases and the receipt of an interrupted publication. -/
structure Quarantined (s : PublicationState) (id : Uuid) (identity : PublicationIdentity) :
    Prop where
  fleet : s.fleetQuarantinedFor id identity = true
  route : s.routeQuarantinedFor id identity = true
  receipt : ∃ driverOperation receipt, identity.subject = .projection driverOperation ∧
    s.receipts.lookup driverOperation = some receipt ∧ receiptUnknown receipt = true ∧
    receiptBound receipt identity = true

/-- What an unfinished publication has of the other tables. -/
inductive Holds (s : PublicationState) (id : Uuid) (publication : Publication) : Prop
  | live {progress : Progress} (status : publication.status = .active progress)
      (frozen : s.FleetFrozen publication.identity) (held : s.Held id publication.identity)
  | interrupted {progress : Progress} {quarantinedAt : Timestamp}
      (status : publication.status = .quarantined progress quarantinedAt)
      (unended : publication.terminal = none) (frozen : s.FleetFrozen publication.identity)
      (quarantined : s.Quarantined id publication.identity)

/-- The invariant of every history. -/
structure Inv (env : DatabaseEnvironment) (s : PublicationState) : Prop where
  mode : s.mode = .generationV1
  evidence : ∀ id publication, s.publications.lookup id = some publication →
    RowEvidence env id publication
  claims : ∀ id publication, s.publications.lookup id = some publication → ClaimOrder publication
  named : ∀ id publication, s.publications.lookup id = some publication →
    publication.unfinished = true → s.fleet.phase.publication = some id
  holder : ∀ id, s.fleet.phase.publication = some id →
    ∃ publication, s.publications.lookup id = some publication ∧ s.Holds id publication

variable {env : DatabaseEnvironment} {s t u : PublicationState} {id : Uuid}
  {publication after : Publication} {identity : PublicationIdentity}

theorem Inv.onlyProjections (h : Inv env s) : s.OnlyProjections :=
  fun id publication hrow => (h.evidence id publication hrow).projection

theorem inv_of_initial (h : s.Initial) : Inv env s where
  mode := h.generation
  evidence id publication hrow := by rw [h.noPublication] at hrow; cases hrow
  claims id publication hrow := by rw [h.noPublication] at hrow; cases hrow
  named id publication hrow := by rw [h.noPublication] at hrow; cases hrow
  holder id hid := by rw [h.noHolder] at hid; cases hid

/-! ## Reading the leases -/

variable {lease : PublicationLease} {expiresAt : Timestamp} {call : AdmitPublicationCall}
  {driverOperation : Uuid}

theorem fleetHeldUntil_eq_some_iff : s.fleetHeldUntil lease = some expiresAt ↔
      s.fleet = ⟨lease.globalFence, .held (.routeSetPublication lease.publication)
        lease.instanceOwner lease.globalLeaseToken expiresAt⟩ := by
  unfold fleetHeldUntil
  obtain ⟨fence, phase⟩ := s.fleet
  constructor
  · intro h
    split at h
    case h_1 id owner token until_ hphase =>
      obtain ⟨⟨rfl, rfl, rfl, hfence⟩, heq⟩ := Option.ite_none_right_eq_some.mp h
      cases heq
      rw [← hfence, ← show phase = _ from hphase]
    case h_2 => cases h
  · intro h
    cases h
    simp

theorem routeHeldUntil_eq_some_iff : s.routeHeldUntil identity lease = some expiresAt ↔
      ∃ row, s.leases.lookup identity.workshop = some row ∧ row.fence = lease.routeFence ∧
        row.phase = .held (.routeSetPublication lease.publication)
          (some identity.route.toRouteTarget) lease.instanceOwner lease.routeLeaseToken
          expiresAt := by
  unfold routeHeldUntil
  constructor
  · intro h
    split at h
    swap
    · cases h
    rename_i row hrow
    split at h
    case h_1 id target owner token until_ hphase =>
      obtain ⟨⟨rfl, rfl, rfl, rfl, hfence⟩, heq⟩ := Option.ite_none_right_eq_some.mp h
      cases heq
      exact ⟨row, hrow, hfence, hphase⟩
    case h_2 => cases h
  · rintro ⟨row, hrow, hfence, hphase⟩
    simp [hrow, hphase, hfence]

theorem publication_of_fleetHeldUntil (h : (s.fleetHeldUntil lease).isSome = true) :
    s.fleet.phase.publication = some lease.publication := by
  obtain ⟨expiresAt, hexpires⟩ := Option.isSome_iff_exists.mp h
  rw [fleetHeldUntil_eq_some_iff.mp hexpires]
  rfl

theorem publication_of_fleetQuarantinedFor (h : s.fleetQuarantinedFor id identity = true) :
    s.fleet.phase.publication = some id := by
  rw [of_decide_eq_true h]
  rfl

theorem Held.names (h : s.Held id identity) : s.fleet.phase.publication = some id := by
  obtain ⟨expiresAt, hfleet⟩ := h.fleet
  rw [hfleet]
  rfl

theorem Holds.names (h : s.Holds id publication) : s.fleet.phase.publication = some id := by
  cases h with
  | live _ _ hheld => exact hheld.names
  | interrupted _ _ _ hquarantined => exact publication_of_fleetQuarantinedFor hquarantined.fleet

section

variable (h : Inv env s) (hrow : s.publications.lookup id = some publication)

include h hrow

theorem Inv.holds (hfleet : s.fleet.phase.publication = some id) : s.Holds id publication := by
  obtain ⟨found, hfound, hholds⟩ := h.holder id hfleet
  rw [hrow] at hfound
  cases hfound
  exact hholds

theorem Inv.held {progress : Progress} (hstatus : publication.status = .active progress) :
    s.FleetFrozen publication.identity ∧ s.Held id publication.identity := by
  have hunfinished : publication.unfinished = true := by simp [Publication.unfinished, hstatus]
  cases h.holds hrow (h.named id publication hrow hunfinished) with
  | live _ hfrozen hheld => exact ⟨hfrozen, hheld⟩
  | interrupted hother _ _ _ =>
    rw [hstatus] at hother
    cases hother

end

/-! ## Tables that stay -/

theorem FleetFrozen.congr (h : s.FleetFrozen identity) (hheads : t.heads = s.heads) :
    t.FleetFrozen identity where
  heads row hrow := by rw [hheads]; exact h.heads row hrow
  covers := by rw [hheads]; exact h.covers

theorem Held.congr (h : s.Held id identity) (hfleet : t.fleet = s.fleet)
    (hleases : t.leases = s.leases) (hreceipts : t.receipts = s.receipts) : t.Held id identity where
  fleet := by rw [hfleet]; exact h.fleet
  route := by rw [hleases]; exact h.route
  receipt := by rw [hreceipts]; exact h.receipt

theorem Quarantined.congr (h : s.Quarantined id identity) (hfleet : t.fleet = s.fleet)
    (hleases : t.leases = s.leases) (hreceipts : t.receipts = s.receipts) :
    t.Quarantined id identity where
  fleet := by unfold fleetQuarantinedFor; rw [hfleet]; exact h.fleet
  route := by unfold routeQuarantinedFor; rw [hleases]; exact h.route
  receipt := by rw [hreceipts]; exact h.receipt

theorem Holds.congr (h : s.Holds id publication) (hfleet : t.fleet = s.fleet)
    (hleases : t.leases = s.leases) (hreceipts : t.receipts = s.receipts)
    (hheads : t.heads = s.heads) : t.Holds id publication := by
  cases h with
  | live hstatus hfrozen hheld =>
    exact .live hstatus (hfrozen.congr hheads) (hheld.congr hfleet hleases hreceipts)
  | interrupted hstatus hunended hfrozen hquarantined =>
    exact .interrupted hstatus hunended (hfrozen.congr hheads)
      (hquarantined.congr hfleet hleases hreceipts)

/-! ## Tables that change -/

variable {route : DesiredRoute} {applied : AppliedHead}

theorem Admissible.holds {lease : AuthorityLease} (h : s.Admissible call route applied lease) :
    (s.admitted call route applied lease).Holds call.publicationId
      (newPublication (s.newIdentity call route applied (max lease.fence applied.fence + 1))) := by
  refine .live rfl ⟨?_, ?_⟩ ⟨⟨_, rfl⟩, ?_, ?_⟩
  · intro row hrow
    obtain ⟨workshop, head, hlookup, hselected⟩ := mem_fleetSnapshot.mp hrow
    have hcopies := copies_of_snapshotRow hselected
    rw [hcopies.key]
    exact ⟨head, hlookup, hcopies.applied, hcopies.desired⟩
  · intro workshop head hlookup
    obtain ⟨row, hrow, hcopies⟩ := fleetSnapshot_covers h.ready h.complete hlookup
    exact ⟨row, hrow, hcopies.key⟩
  · refine ⟨_, s.now + seconds call.ttlSeconds, AList.lookup_insert _, rfl, ?_⟩
    show AuthorityPhase.held _ (some call.target) _ _ _ = _
    rw [← h.target]
    rfl
  · refine ⟨call.receiptId, _, _, rfl, AList.lookup_insert _, ?_, rfl, rfl, rfl⟩
    simp [receiptBound, newReceipt, newPublication, newIdentity, h.target]

theorem Held.renewed {workshop : Uuid} (h : s.Held id identity)
    (hworkshop : workshop = identity.workshop)
    (hsubject : identity.subject = .projection driverOperation) :
    (s.renewedTables workshop driverOperation expiresAt).Held id identity := by
  subst hworkshop
  obtain ⟨until_, hfleet⟩ := h.fleet
  obtain ⟨lease, until', hlease, hfence, hphase⟩ := h.route
  obtain ⟨operation, receipt, until'', hoperation, hreceipt, hbound, hstate, herror, hexecution⟩ :=
    h.receipt
  rw [hsubject] at hoperation
  cases hoperation
  refine ⟨⟨expiresAt, ?_⟩, ⟨renewedRoute expiresAt lease, expiresAt, ?_, hfence, ?_⟩, ?_⟩
  · simp [renewedTables, hfleet, renewedPhase]
  · simp [renewedTables, lookup_modify_self, hlease]
  · simp [renewedRoute, hphase]
  · refine ⟨driverOperation, receipt.renewed expiresAt, expiresAt, hsubject, ?_, hbound, hstate,
      herror, ?_⟩
    · simp [renewedTables, lookup_modify_self, hreceipt]
    · simp [RouteReceipt.renewed, hexecution]

theorem Held.quarantine (h : s.Held id identity)
    (hsubject : identity.subject = .projection driverOperation) :
    (s.quarantineAuthority identity.workshop driverOperation).Quarantined id identity := by
  obtain ⟨until_, hfleet⟩ := h.fleet
  obtain ⟨lease, until', hlease, hfence, hphase⟩ := h.route
  obtain ⟨operation, receipt, until'', hoperation, hreceipt, hbound, hstate, herror, hexecution⟩ :=
    h.receipt
  rw [hsubject] at hoperation
  cases hoperation
  refine ⟨?_, ?_, driverOperation, receipt.outcomeUnknown, hsubject, ?_, ?_, hbound⟩
  · simp [fleetQuarantinedFor, quarantineAuthority, GlobalLease.quarantine, hfleet]
  · simp [routeQuarantinedFor, quarantineAuthority, lookup_modify_self, hlease,
      AuthorityLease.quarantine, hphase, hfence]
  · simp [quarantineAuthority, lookup_modify_self, hreceipt]
  · simp [receiptUnknown, RouteReceipt.outcomeUnknown, hstate]

/-! ## Every move keeps the invariant -/

section

variable (h : Inv env s) (hrow : s.publications.lookup id = some publication)

include h hrow

theorem Inv.rowOnly (hmove : RowMove env s id publication after)
    (hunfinished : after.unfinished = true → publication.unfinished = true)
    (hholds : s.Holds id publication → s.Holds id after) :
    Inv env (s.withPublication id after) where
  mode := h.mode
  evidence := forall_insert h.evidence (hmove.evidence (h.evidence _ _ hrow))
  claims := forall_insert h.claims (hmove.claimOrder (h.claims _ _ hrow))
  named := forall_insert h.named fun hopen => h.named _ _ hrow (hunfinished hopen)
  holder other hother := by
    obtain ⟨found, hfound, hfoundHolds⟩ := h.holder other hother
    by_cases hid : other = id
    · subst other
      rw [hrow] at hfound
      cases hfound
      exact ⟨after, AList.lookup_insert _, (hholds hfoundHolds).congr rfl rfl rfl rfl⟩
    · exact ⟨found, (AList.lookup_insert_ne hid).trans hfound, hfoundHolds.congr rfl rfl rfl rfl⟩

theorem Inv.transfer (hfleet : s.fleet.phase.publication = some id)
    (hpublications : u.publications = s.publications) (hmode : u.mode = s.mode)
    (hmove : RowMove env s id publication after)
    (hafter : u.Holds id after ∨ u.fleet.phase.publication = none ∧ after.unfinished = false) :
    Inv env (u.withPublication id after) where
  mode := hmode.trans h.mode
  evidence := forall_insert (by rw [hpublications]; exact h.evidence)
    (hmove.evidence (h.evidence _ _ hrow))
  claims := forall_insert (by rw [hpublications]; exact h.claims)
    (hmove.claimOrder (h.claims _ _ hrow))
  named other row hother hopen := by
    rcases lookup_insert_cases hother with ⟨rfl, rfl⟩ | ⟨hne, hold⟩
    · rcases hafter with hholds | ⟨-, hfinished⟩
      · exact hholds.names
      · rw [hfinished] at hopen
        cases hopen
    · -- Two unfinished publications would both be named by the one lease of the fleet.
      rw [hpublications] at hold
      have hnamed := h.named other row hold hopen
      rw [hfleet] at hnamed
      exact absurd (Option.some.inj hnamed).symm hne
  holder other hother := by
    rcases hafter with hholds | ⟨hnone, -⟩
    · have hsame : some other = some id := hother.symm.trans hholds.names
      cases hsame
      exact ⟨after, AList.lookup_insert _, hholds.congr rfl rfl rfl rfl⟩
    · rw [show (u.withPublication id after).fleet = u.fleet from rfl, hnone] at hother
      cases hother

end

theorem Inv.tables (h : Inv env s) (hmode : t.mode = s.mode)
    (hpublications : t.publications = s.publications)
    (hnames : t.fleet.phase.publication = s.fleet.phase.publication)
    (hholds : ∀ id publication, s.publications.lookup id = some publication →
      s.Holds id publication → t.Holds id publication) : Inv env t where
  mode := hmode.trans h.mode
  evidence := by rw [hpublications]; exact h.evidence
  claims := by rw [hpublications]; exact h.claims
  named := by rw [hpublications, hnames]; exact h.named
  holder id hid := by
    rw [hnames] at hid
    obtain ⟨publication, hrow, hheld⟩ := h.holder id hid
    exact ⟨publication, by rw [hpublications]; exact hrow, hholds id publication hrow hheld⟩

theorem publication_renewedPhase (expiresAt : Timestamp) (phase : GlobalPhase) :
    (renewedPhase expiresAt phase).publication = phase.publication := by
  cases phase with
  | idle | quarantined _ _ => rfl
  | held authority owner token _ => cases authority <;> rfl

theorem Inv.admitted (h : Inv env s) {lease : AuthorityLease}
    (hadmissible : s.Admissible call route applied lease) :
    Inv env (s.admitted call route applied lease) where
  mode := h.mode
  evidence := forall_insert h.evidence
    (rowEvidence_new hadmissible.ready hadmissible.headRow hadmissible.complete)
  claims := forall_insert h.claims (claimOrder_new _)
  named id publication hrow hopen := by
    rcases lookup_insert_cases hrow with ⟨rfl, -⟩ | ⟨-, hold⟩
    · rfl
    · have hnamed := h.named id publication hold hopen
      rw [hadmissible.idle] at hnamed
      cases hnamed
  holder id hid := by
    have hsame : some call.publicationId = some id := hid
    cases hsame
    exact ⟨_, AList.lookup_insert _, hadmissible.holds⟩

theorem Holds.ofLive (h : s.Holds id publication) {old new : Progress}
    (hold : publication.status = .active old) (hnew : after.status = .active new)
    (hidentity : after.identity = publication.identity) : s.Holds id after := by
  cases h with
  | live _ hfrozen hheld =>
    exact .live hnew (by rw [hidentity]; exact hfrozen) (by rw [hidentity]; exact hheld)
  | interrupted hstatus _ _ _ =>
    rw [hold] at hstatus
    cases hstatus

theorem Holds.ofClaim (h : s.Holds id publication) (hstatus : after.status = publication.status)
    (hterminal : after.terminal = publication.terminal)
    (hidentity : after.identity = publication.identity) : s.Holds id after := by
  cases h with
  | live hlive hfrozen hheld =>
    exact .live (hstatus.trans hlive) (by rw [hidentity]; exact hfrozen)
      (by rw [hidentity]; exact hheld)
  | interrupted hinterrupted hunended hfrozen hquarantined =>
    exact .interrupted (hstatus.trans hinterrupted) (hterminal.trans hunended)
      (by rw [hidentity]; exact hfrozen) (by rw [hidentity]; exact hquarantined)

theorem Decided.names {call : RecoveryFinishCall} {kind : ResolutionKind}
    (h : s.Decided env call kind publication driverOperation) :
    s.fleet.phase.publication = some call.publication := by
  have hconsistent := h.consistent
  simp only [quarantineConsistent, Bool.and_eq_true] at hconsistent
  exact publication_of_fleetQuarantinedFor hconsistent.1.1.2

/-- **Every move keeps the invariant.** -/
theorem Move.inv (h : Move env s t) (hinv : Inv env s) : Inv env t := by
  cases h with
  | queue _ =>
    exact hinv.tables rfl rfl rfl fun _ _ _ hholds => hholds.congr rfl rfl rfl rfl
  | desired hidle _ =>
    refine hinv.tables rfl rfl rfl fun id _ _ hholds => ?_
    have hnames := hholds.names
    rw [hidle] at hnames
    cases hnames
  | admitted hadmissible => exact hinv.admitted hadmissible
  | @renewed lease held driverOperation expiresAt hauthorized hsubject =>
    obtain ⟨hrow, -, ⟨progress, hstatus⟩, hfleet, -⟩ := authorized_cases hauthorized
    refine hinv.tables rfl rfl (publication_renewedPhase _ _) fun id other hother hholds => ?_
    have hsame : some lease.publication = some id :=
      (publication_of_fleetHeldUntil hfleet).symm.trans hholds.names
    cases hsame
    rw [hrow] at hother
    cases hother
    obtain ⟨hfrozen, hheld⟩ := hinv.held hrow hstatus
    exact .live hstatus (hfrozen.congr rfl) (hheld.renewed rfl hsubject)
  | gained hauthorized hstatus hgains =>
    have hrow := (authorized_cases hauthorized).1
    exact hinv.rowOnly hrow (.gained hstatus hgains)
      (fun _ => by simp [Publication.unfinished, hstatus])
      fun hholds => hholds.ofLive hstatus rfl rfl
  | recorded hauthorized hstatus hfresh hsnapshot hrenders =>
    have hrow := (authorized_cases hauthorized).1
    exact hinv.rowOnly hrow (.recorded hstatus hfresh hsnapshot hrenders) (fun hopen => hopen)
      fun hholds => hholds.ofLive hstatus hstatus rfl
  | @quarantined id before interrupted progress driverOperation hlive hchange =>
    obtain ⟨hfrozen, hheld⟩ := hinv.held hlive.row hlive.status
    have hterminal := ((hinv.claims _ _ hlive.row).live progress hlive.status).2.1
    have hafter : interrupted.status = .quarantined progress s.now ∧
        interrupted.terminal = before.terminal ∧ interrupted.identity = before.identity := by
      rcases hchange with rfl | rfl <;> exact ⟨rfl, rfl, rfl⟩
    refine hinv.transfer hlive.row hheld.names rfl rfl (.quarantined hlive.status hchange)
      (Or.inl (.interrupted hafter.1 (hafter.2.1.trans hterminal) ?_ ?_))
    · rw [hafter.2.2]
      exact hfrozen.congr rfl
    · rw [hafter.2.2]
      exact hheld.quarantine hlive.subject
  | claimed hrow hstatus _ =>
    exact hinv.rowOnly hrow (.claimed hstatus) (fun hopen => hopen)
      fun hholds => hholds.ofClaim rfl rfl rfl
  | claimRenewed hlocked =>
    obtain ⟨hrow, hclaim, -⟩ := lockClaim_cases hlocked
    exact hinv.rowOnly hrow (.claimRenewed hclaim) (fun hopen => hopen)
      fun hholds => hholds.ofClaim rfl rfl rfl
  | resolved hlocked hfresh =>
    obtain ⟨hrow, hclaim, -, -, -, hfence⟩ := lockClaim_cases hlocked
    rw [← hfence] at hfresh ⊢
    exact hinv.rowOnly hrow (.resolved hclaim hfresh) (fun hopen => hopen)
      fun hholds => hholds.ofClaim rfl rfl rfl
  | completed hlive hsealed htarget _ =>
    exact hinv.transfer hlive.row (hinv.held hlive.row hlive.status).2.names rfl rfl
      (.completed hlive.status hsealed htarget) (Or.inr ⟨rfl, rfl⟩)
  | recovered hdecided _ _ _ | released hdecided _ =>
    obtain ⟨progress, quarantinedAt, hstatus⟩ := hdecided.quarantined
    exact hinv.transfer hdecided.row hdecided.names rfl rfl (.ended hdecided.unended hstatus)
      (Or.inr ⟨rfl, by simp [Publication.unfinished, hstatus]⟩)

theorem step_inv {event : PublicationEvent} (h : step env s event = some t) (hinv : Inv env s) :
    Inv env t :=
  (step_effect hinv.onlyProjections h).induction (fun _ _ hmove hs => hmove.inv hs) hinv

/-- The invariant holds in every state of every history. -/
theorem inv_of_run {events : List PublicationEvent} (hinitial : s.Initial)
    (hrun : Run (step env) s events t) : Inv env t :=
  hrun.invariant (fun _ _ _ hs _ hstep => step_inv hstep hs) (inv_of_initial hinitial)

end PublicationState

end ControlPlane.Publications
