/-
# What a disconnected domain leaves behind

Two results about custom domains under every interleaving of attempts, API calls, lease
losses and crashes.

The deletion function keeps its budget, and an attempt finishes a row with a recorded
reference only after the absence of that reference was confirmed. This holds without any
condition.

That a disconnected domain leaves no hostname behind needs one. The worker removes what
the row records, and creating a hostname and recording it are two steps. An API call that
disconnects the domain between them rebinds the row, so the hostname is not recorded any
more and the disconnection believes that nothing was created. When every disconnection
comes at a moment at which no attempt may still create and all that was created is
recorded, nothing is left.
-/

import ControlPlane.Domains.Budget
import ControlPlane.Domains.Reconcile
import ControlPlane.Math.Custody

namespace ControlPlane.Domains

open Domain Math Table Persistence

/-! ## What a row keeps once it is being disconnected -/

variable {event : LedgerEvent} {domain : Uuid} {before after : Option DomainRow} {s : DomainSystem}

variable {row : DomainRow}

/-- A row that is to be disconnected stays so, and its reference is kept until the row is
finished. -/
theorem RowMove.unwanted {new : Uuid → Prop} (h : RowMove new event domain before after)
    (hbefore : before = some row) (hunwanted : row.desired = .disconnected) :
    ∃ row', after = some row' ∧ row'.desired = .disconnected ∧ (row'.providerRef = row.providerRef ∧
          (row'.state = .disconnected → row.state = .disconnected) ∨
        row'.providerRef = none ∧ ∃ operation workshop,
          event = .finalize operation workshop domain .disconnect) := by
  cases h with
  | missing | claimed => cases hbefore
  | kept same =>
    cases hbefore
    exact ⟨_, rfl, same.desired.trans hunwanted, Or.inl ⟨same.providerRef, same.state ▸ id⟩⟩
  | bound fresh operationId desired providerRef state
  | moved operationId desired providerRef state =>
    cases hbefore
    exact ⟨_, rfl, desired.trans hunwanted, Or.inl ⟨providerRef, state⟩⟩
  | closed fresh called =>
    cases hbefore
    exact ⟨_, rfl, rfl, Or.inl ⟨rfl, nofun⟩⟩
  | observed wanted =>
    cases hbefore
    rw [hunwanted] at wanted
    cases wanted
  | finalized unwanted current called =>
    cases hbefore
    exact ⟨_, rfl, unwanted, Or.inr ⟨rfl, _, _, called⟩⟩

/-- Only rows that are to be disconnected are finished. -/
def FinishedUnwanted (s : DomainLedger) : Prop :=
  ∀ domain row, s.domains.lookup domain = some row → row.state = .disconnected →
    row.desired = .disconnected

theorem FinishedUnwanted.step {s t : DomainLedger} (h : FinishedUnwanted s)
    (hstep : s.step event = some t) : FinishedUnwanted t := by
  intro domain row hrow hstate
  have hmove := (DomainLedger.step_effect hstep).rows domain
  rw [hrow] at hmove
  generalize hbefore : s.domains.lookup domain = before at hmove
  cases hmove with
  | kept same =>
    exact same.desired.trans (h domain _ hbefore (same.state.symm.trans hstate))
  | claimed => cases hstate
  | bound fresh operationId desired providerRef state
  | moved operationId desired providerRef state =>
    exact desired.trans (h domain _ hbefore (state hstate))
  | closed fresh called => rfl
  | observed wanted => exact absurd hstate (CustomHostnameObservation.nextState_ne_disconnected _)
  | finalized unwanted current called => exact unwanted

/-- A row stops being wanted only by the API's disconnection. -/
theorem RowMove.closes {new : Uuid → Prop} (h : RowMove new event domain before after)
    {row' : DomainRow} (hafter : after = some row') (hunwanted : row'.desired = .disconnected) :
    ∃ row, before = some row ∧ (row.desired = .disconnected ∨
      row'.providerRef = row.providerRef ∧ row'.state = .disconnecting ∧
        ∃ workshop version operation platformHostname,
          event = .disconnect domain workshop version operation platformHostname) := by
  cases h with
  | missing => cases hafter
  | kept same =>
    cases hafter
    exact ⟨_, rfl, Or.inl (same.desired.symm.trans hunwanted)⟩
  | claimed =>
    cases hafter
    cases hunwanted
  | bound fresh operationId desired providerRef state
  | moved operationId desired providerRef state =>
    cases hafter
    exact ⟨_, rfl, Or.inl (desired.symm.trans hunwanted)⟩
  | closed fresh called =>
    cases hafter
    exact ⟨_, rfl, Or.inr ⟨rfl, rfl, _, _, _, _, called⟩⟩
  | observed wanted =>
    cases hafter
    exact ⟨_, rfl, Or.inl hunwanted⟩
  | finalized unwanted current called =>
    cases hafter
    exact ⟨_, rfl, Or.inl unwanted⟩

/-! ## One step of the system -/

/-- The absence of a domain's reference was confirmed. -/
def Confirmed (ledger : DomainLedger) (domain : Uuid) (reference : String) : Prop :=
  ∃ row, ledger.deletions.lookup (domain, reference) = some row ∧ row.state = .absenceConfirmed

/-- Everything one step of the system can do. -/
structure SystemEffect (s : DomainSystem) (event : SystemEvent) (t : DomainSystem) : Prop where
  ledger : t.ledger = s.ledger ∨ ∃ made, s.ledger.step made = some t.ledger ∧
    (∀ domain workshop version operation hostname,
      made = .disconnect domain workshop version operation hostname →
        event = .outside made ∧ t.runs = s.runs ∧ t.created = s.created) ∧
    ∀ operation workshop domain, made = .finalize operation workshop domain .disconnect →
      ∃ id run reference, s.runs.lookup id = some run ∧ run.domainId = domain ∧
        run.position = .finalizeDisconnect reference
  created : ∀ entry ∈ t.created, entry ∈ s.created ∨
    ∃ id run, s.runs.lookup id = some run ∧ run.domainId = entry.1 ∧ run.position.mayCreate = true
  runs : ∀ id run, t.runs.lookup id = some run → s.runs.lookup id = some run ∨
    run.position = .load ∨ ∃ before, s.runs.lookup id = some before ∧
      run.domainId = before.domainId ∧ GoesOn s before t.ledger (some run.position)

theorem effect_of_taken {run : DomainRun} {turn : Turn} {id : Nat} {event : SystemEvent}
    (hrun : s.runs.lookup id = some run) (h : TurnEffect s run turn) :
    SystemEffect s event (s.taken run id turn) where
  ledger := by
    rcases h.ledger with hsame | ⟨made, hstep, hclose, hfinalize⟩
    · exact Or.inl hsame
    refine Or.inr ⟨made, hstep, ?_, ?_⟩
    · intro domain workshop version operation hostname hmade
      exact absurd hmade (hclose _ _ _ _ _)
    · intro operation workshop domain hmade
      obtain ⟨hdomain, reference, hposition⟩ := hfinalize _ _ _ hmade
      exact ⟨id, run, reference, hrun, hdomain.symm, hposition⟩
  created := by
    intro entry hmem
    rcases h.created with hsame | ⟨⟨reference, hcreated⟩, hposition, -⟩
    · rw [show (s.taken run id turn).created = turn.created from rfl, hsame] at hmem
      exact Or.inl hmem
    · rw [show (s.taken run id turn).created = turn.created from rfl, hcreated] at hmem
      rcases List.mem_cons.mp hmem with rfl | hold
      · exact Or.inr ⟨id, run, hrun, rfl, hposition⟩
      · exact Or.inl hold
  runs := by
    intro other run' hrun'
    simp only [DomainSystem.taken] at hrun'
    split at hrun'
    · rename_i position hnext
      rcases lookup_insert_cases hrun' with ⟨rfl, rfl⟩ | ⟨-, hold⟩
      · exact Or.inr (Or.inr ⟨run, hrun, rfl, hnext ▸ h.next⟩)
      · exact Or.inl hold
    · exact Or.inl (lookup_of_erase hrun')

theorem system_effect {t : DomainSystem} {event : SystemEvent} (h : s.step event = some t) :
    SystemEffect s event t := by
  cases event with
  | outside made =>
    simp only [DomainSystem.step] at h
    split at h
    · cases h
    rename_i houtside
    obtain ⟨ledger, hstep, rfl⟩ := Option.map_eq_some_iff.mp h
    refine ⟨Or.inr ⟨made, hstep, fun _ _ _ _ _ _ => ⟨rfl, rfl, rfl⟩, ?_⟩,
      fun _ hmem => Or.inl hmem, fun _ _ hrun => Or.inl hrun⟩
    intro operation workshop domain hmade
    rw [hmade] at houtside
    exact absurd rfl houtside
  | start id operation workshop domain =>
    simp only [DomainSystem.step] at h
    split at h
    · cases h
      refine ⟨Or.inl rfl, fun _ hmem => Or.inl hmem, ?_⟩
      intro other run hrun
      rcases lookup_insert_cases hrun with ⟨rfl, rfl⟩ | ⟨-, hold⟩
      · exact Or.inr (Or.inl rfl)
      · exact Or.inl hold
    · cases h
  | crash id =>
    cases h
    exact ⟨Or.inl rfl, fun _ hmem => Or.inl hmem, fun _ _ hrun => Or.inl (lookup_of_erase
      hrun)⟩
  | vanish reference =>
    cases h
    exact ⟨Or.inl rfl, fun _ hmem => Or.inl hmem, fun _ _ hrun => Or.inl hrun⟩
  | work id reply =>
    simp only [DomainSystem.step] at h
    split at h
    · cases h
    · rename_i run hrun
      obtain ⟨turn, hturn, rfl⟩ := Option.map_eq_some_iff.mp h
      exact effect_of_taken hrun (turn_effect hturn)

/-! ## What holds in every reachable state -/

/-- The ledger is accounted for, and every attempt to disconnect still knows the reference
of its row, unless the row has been finished. -/
structure SystemSound (s : DomainSystem) : Prop where
  accounted : Accounted s.ledger
  finished : FinishedUnwanted s.ledger
  loaded : ∀ id run reference, s.runs.lookup id = some run →
    run.position.disconnecting = some reference →
    ∃ row, s.ledger.domains.lookup run.domainId = some row ∧ row.desired = .disconnected ∧
      (row.providerRef = reference ∨ row.providerRef = none)
  confirmed : ∀ id run reference, s.runs.lookup id = some run →
    run.position = .finalizeDisconnect (some reference) →
    Confirmed s.ledger run.domainId reference

section Step

variable {s t : DomainSystem} {event : SystemEvent}

theorem Confirmed.step (hsound : SystemSound s) (heffect : SystemEffect s event t)
    {domain : Uuid} {reference : String} (h : Confirmed s.ledger domain reference) :
    Confirmed t.ledger domain reference := by
  rcases heffect.ledger with hsame | ⟨made, hstep, -⟩
  · rw [hsame]
    exact h
  · obtain ⟨row, hrow, hconfirmed⟩ := h
    exact confirmed_step hsound.accounted hstep hrow hconfirmed

theorem SystemEffect.unwanted (heffect : SystemEffect s event t) {domain : Uuid}
    (hrow : s.ledger.domains.lookup domain = some row)
    (hunwanted : row.desired = .disconnected) :
    ∃ row', t.ledger.domains.lookup domain = some row' ∧ row'.desired = .disconnected ∧
      (row'.providerRef = row.providerRef ∧
          (row'.state = .disconnected → row.state = .disconnected) ∨
        row'.providerRef = none ∧ ∃ id run reference, s.runs.lookup id = some run ∧
          run.domainId = domain ∧ run.position = .finalizeDisconnect reference) := by
  rcases heffect.ledger with hsame | ⟨made, hstep, -, hfinalize⟩
  · rw [hsame]
    exact ⟨row, hrow, hunwanted, Or.inl ⟨rfl, id⟩⟩
  · obtain ⟨row', hrow', hunwanted', hkept | ⟨hnone, operation, workshop, hmade⟩⟩ :=
      ((DomainLedger.step_effect hstep).rows domain).unwanted hrow hunwanted
    · exact ⟨row', hrow', hunwanted', Or.inl hkept⟩
    · exact ⟨row', hrow', hunwanted', Or.inr ⟨hnone, hfinalize _ _ _ hmade⟩⟩

theorem SystemSound.step (hsound : SystemSound s) (hstep : s.step event = some t) :
    SystemSound t := by
  have heffect := system_effect hstep
  refine ⟨?_, ?_, ?_, ?_⟩
  · rcases heffect.ledger with hsame | ⟨made, hmade, -⟩
    · rw [hsame]
      exact hsound.accounted
    · exact hsound.accounted.step hmade
  · rcases heffect.ledger with hsame | ⟨made, hmade, -⟩
    · rw [hsame]
      exact hsound.finished
    · exact hsound.finished.step hmade
  · intro id run reference hrun hposition
    have hbefore : ∃ row, s.ledger.domains.lookup run.domainId = some row ∧
        row.desired = .disconnected ∧ (row.providerRef = reference ∨ row.providerRef = none) := by
      rcases heffect.runs id run hrun with hold | hload | ⟨before, hold, hdomain, hnext⟩
      · exact hsound.loaded id run reference hold hposition
      · rw [hload] at hposition
        cases hposition
      · rw [hdomain]
        rcases hnext.loaded _ reference rfl hposition with hsame | ⟨row, hrow, hunwanted,
          hreference⟩
        · exact hsound.loaded id before reference hold hsame
        · exact ⟨row, hrow, hunwanted, Or.inl hreference⟩
    obtain ⟨row, hrow, hunwanted, hreference⟩ := hbefore
    obtain ⟨row', hrow', hunwanted', ⟨hkept, -⟩ | ⟨hnone, -⟩⟩ := heffect.unwanted hrow hunwanted
    · exact ⟨row', hrow', hunwanted', by rw [hkept]; exact hreference⟩
    · exact ⟨row', hrow', hunwanted', Or.inr hnone⟩
  · intro id run reference hrun hposition
    rcases heffect.runs id run hrun with hold | hload | ⟨before, hold, hdomain, hnext⟩
    · exact (hsound.confirmed id run reference hold hposition).step hsound heffect
    · rw [hload] at hposition
      cases hposition
    · rw [hdomain]
      exact hnext.confirmed reference (congrArg some hposition)

/-- An attempt that is about to finish a row has had the absence of the row's reference
confirmed. -/
theorem SystemSound.confirmed_of_finalizing (hsound : SystemSound s) {id : Nat} {run : DomainRun}
    {loaded : Option String} (hrun : s.runs.lookup id = some run)
    (hposition : run.position = .finalizeDisconnect loaded) {reference : String}
    (hrow : s.ledger.domains.lookup run.domainId = some row)
    (hreference : row.providerRef = some reference) :
    Confirmed s.ledger run.domainId reference := by
  obtain ⟨row', hrow', -, hloaded⟩ := hsound.loaded id run loaded hrun (by rw [hposition]; rfl)
  rw [hrow] at hrow'
  cases hrow'
  rw [hreference] at hloaded
  rcases hloaded with rfl | hnone
  · exact hsound.confirmed id run reference hrun hposition
  · cases hnone

end Step

theorem systemSound_start (now : Timestamp) : SystemSound (.start now) where
  accounted := accounted_start now
  finished := fun _ _ hrow => by cases hrow
  loaded := fun _ _ _ hrun => by cases hrun
  confirmed := fun _ _ _ hrun => by cases hrun

theorem systemSound_run {now : Timestamp} {good : DomainSystem → SystemEvent → Prop}
    {events : List SystemEvent} (hrun : RunWhere DomainSystem.step good (.start now) events s) :
    SystemSound s :=
  hrun.invariant (fun _ _ _ hsound _ hstep => hsound.step hstep) (systemSound_start now)

/-! ## The deletion protocol -/

/-- What the deletion function guarantees in a reachable ledger, for every domain and
reference. -/
structure DeletionBounded (s : DomainLedger) : Prop where
  /-- At most eight present observations are recorded, and the counter stops at eight. -/
  present : ∀ key, tally s.decisions key (.observed .present) ≤ 8
  counter : ∀ key row, s.deletions.lookup key = some row → row.observationCount ≤ 8
  /-- The one absent observation comes on top, whatever is left of the budget. -/
  absent : ∀ key, tally s.decisions key (.observed .absent) ≤ 1
  dispatched : ∀ key, tally s.decisions key .dispatched ≤ 4
  /-- A delete follows a present observation of the same attempt. -/
  preceded : ∀ earlier entry later, s.decisions = earlier ++ entry :: later →
    entry.decision = .dispatched → ⟨entry.key, entry.marker, .observed .present⟩ ∈ earlier
  /-- No attempt is given two deletes. -/
  once : s.decisions.Pairwise fun first second => first.decision = .dispatched →
    second.decision = .dispatched → first.key = second.key → first.marker ≠ second.marker
  /-- A confirmed absence is final. -/
  final : ∀ events t, Run DomainLedger.step s events t → ∀ key row,
    s.deletions.lookup key = some row → row.state = .absenceConfirmed →
    ∃ later, t.deletions.lookup key = some later ∧ later.state = .absenceConfirmed
  /-- A call without a current lease changes nothing. -/
  leased : ∀ call t, s.step (.advance call) = some t →
    call.leased s.queue.now s.queue.operations = false → t = s

theorem confirmed_run {s t : DomainLedger} {events : List LedgerEvent}
    (hrun : Run DomainLedger.step s events t) (h : Accounted s) {key : Uuid × String}
    (hconfirmed : ∃ row, s.deletions.lookup key = some row ∧ row.state = .absenceConfirmed) :
    ∃ later, t.deletions.lookup key = some later ∧ later.state = .absenceConfirmed := by
  have hinvariant : Accounted t ∧
      ∃ row, t.deletions.lookup key = some row ∧ row.state = .absenceConfirmed :=
    hrun.invariant (P := fun s => Accounted s ∧
        ∃ row, s.deletions.lookup key = some row ∧ row.state = .absenceConfirmed)
      (fun before event after hbefore _ hstep => by
        obtain ⟨haccounted, row, hrow, hstate⟩ := hbefore
        exact ⟨haccounted.step hstep, confirmed_step haccounted hstep hrow hstate⟩)
      ⟨h, hconfirmed⟩
  exact hinvariant.2

theorem Accounted.bounded {s : DomainLedger} (h : Accounted s) : DeletionBounded s := by
  have hcounted : ∀ key, (∃ row, s.deletions.lookup key = some row ∧
      Counted row.toDeletionColumns (tally s.decisions key)) ∨
      ∀ decision, tally s.decisions key decision = 0 := by
    intro key
    cases hrow : s.deletions.lookup key with
    | none => exact Or.inr fun decision => tally_eq_zero (h.unopened key hrow)
    | some row => exact Or.inl ⟨row, rfl, (h.rows key row hrow).counted⟩
  refine ⟨?_, fun key row _ => row.bounds.1, ?_, ?_, h.preceded, h.once, ?_, ?_⟩
  · intro key
    rcases hcounted key with ⟨row, -, hrow⟩ | hzero
    · exact hrow.present
    · rw [hzero]
      omega
  · intro key
    rcases hcounted key with ⟨row, -, hrow⟩ | hzero
    · exact hrow.absent
    · rw [hzero]
      omega
  · intro key
    rcases hcounted key with ⟨row, -, hrow⟩ | hzero
    · rw [← hrow.dispatched]
      exact row.bounds.2
    · rw [hzero]
      omega
  · intro events t hrun key row hrow hstate
    exact confirmed_run hrun h ⟨row, hrow, hstate⟩
  · intro call t hstep hleased
    obtain ⟨error, herror⟩ := advance_of_not_leased s.domains s.deletions hleased
    simp only [DomainLedger.step, herror] at hstep
    cases hstep
    rfl

/-- **The deletion protocol keeps its budget**, for any calls by any attempts: at most
eight present observations, one absent one and four deletes, each delete after a present
observation of its own attempt. And `reconcile` finishes a row that records a reference
only after the absence of that reference was confirmed. -/
theorem deletion_protocol_bounded {now : Timestamp} {events : List LedgerEvent}
    {s : DomainLedger} (hrun : Run DomainLedger.step (.start now) events s)
    {systemStart : Timestamp} {systemEvents : List SystemEvent} {u v : DomainSystem}
    {event : SystemEvent}
    (hsystem : Run DomainSystem.step (.start systemStart) systemEvents u)
    (hstep : u.step event = some v) :
    DeletionBounded s ∧ DeletionBounded u.ledger ∧
      ∀ domain before after reference, u.ledger.domains.lookup domain = some before →
        before.state ≠ .disconnected → before.providerRef = some reference →
        v.ledger.domains.lookup domain = some after → after.state = .disconnected →
        ∃ deletion, u.ledger.deletions.lookup (domain, reference) = some deletion ∧
          deletion.state = .absenceConfirmed := by
  have hsound := systemSound_run hsystem
  refine ⟨(accounted_run hrun).bounded, hsound.accounted.bounded, ?_⟩
  intro domain before after reference hbefore hopen hreference hafter hdone
  have heffect := system_effect hstep
  have hunwanted := (hsound.step hstep).finished domain after hafter hdone
  by_cases hwas : before.desired = .disconnected
  · obtain ⟨row', hrow', -, ⟨-, hkept⟩ | ⟨-, id, run, loaded, hfound, rfl, hposition⟩⟩ :=
      heffect.unwanted hbefore hwas
    · rw [hafter] at hrow'
      cases hrow'
      exact absurd (hkept hdone) hopen
    · exact hsound.confirmed_of_finalizing hfound hposition hbefore hreference
  · -- The step would have to disconnect and finish the row at once.
    rcases heffect.ledger with hsame | ⟨made, hmade, -⟩
    · rw [hsame, hbefore] at hafter
      cases hafter
      exact absurd hdone hopen
    · obtain ⟨row, hrow, hclosed⟩ :=
        ((DomainLedger.step_effect hmade).rows domain).closes hafter hunwanted
      rw [hbefore] at hrow
      cases hrow
      rcases hclosed with hold | ⟨-, hstate, -⟩
      · exact absurd hold hwas
      · rw [hdone] at hstate
        cases hstate

/-! ## Nothing is left behind -/

/-- The hostnames of a domain as resources in custody. -/
def custody (s : DomainSystem) (domain : Uuid) : Custody String where
  wanted := ∀ row, s.ledger.domains.lookup domain = some row → row.desired ≠ .disconnected
  creating := ∃ id run, s.runs.lookup id = some run ∧ run.domainId = domain ∧
    run.position.mayCreate = true
  recorded := { reference | ∃ row, s.ledger.domains.lookup domain = some row ∧
    row.providerRef = some reference }
  created := { reference | (domain, reference) ∈ s.created }
  gone := { reference | Confirmed s.ledger domain reference }
  released := ∃ row, s.ledger.domains.lookup domain = some row ∧ row.state = .disconnected

namespace DomainSystem

/-- No attempt may still create a hostname for the domain, and what was created for it is
the reference the row records. -/
def settled (s : DomainSystem) (domain : Uuid) : Bool :=
  (s.runs.allRows fun _ run => decide (run.domainId ≠ domain) || !run.position.mayCreate) &&
    s.created.all fun entry => decide (entry.1 ≠ domain) ||
      (s.ledger.domains.lookup domain).any fun row => decide (row.providerRef = some entry.2)

/-- A domain is disconnected through the API only when it is settled. -/
def disconnectsSettled (s : DomainSystem) : SystemEvent → Bool
  | .outside (.disconnect domain _ _ _ _) => s.settled domain
  | _ => true

end DomainSystem

theorem settled_iff : s.settled domain = true ↔
      ¬ (custody s domain).creating ∧ (custody s domain).created ⊆ (custody s domain).recorded := by
  simp only [DomainSystem.settled, Bool.and_eq_true, allRows_iff, List.all_eq_true,
    Bool.or_eq_true, decide_eq_true_eq, Bool.not_eq_true', Option.any_eq_true]
  constructor
  · rintro ⟨hruns, hcreated⟩
    refine ⟨?_, ?_⟩
    · rintro ⟨id, run, hrun, hdomain, hcreate⟩
      rcases hruns id run hrun with hne | hnot
      · exact hne hdomain
      · rw [hcreate] at hnot
        cases hnot
    · intro reference hmem
      rcases hcreated _ hmem with hne | hrow
      · exact absurd rfl hne
      · exact hrow
  · rintro ⟨hquiet, hknown⟩
    refine ⟨?_, ?_⟩
    · intro id run hrun
      by_cases hdomain : run.domainId = domain
      · refine Or.inr (Bool.eq_false_iff.mpr fun hcreate => ?_)
        exact hquiet ⟨id, run, hrun, hdomain, hcreate⟩
      · exact Or.inl hdomain
    · rintro ⟨other, reference⟩ hmem
      by_cases hdomain : other = domain
      · subst hdomain
        exact Or.inr (hknown hmem)
      · exact Or.inl hdomain

section Custody

variable {s t : DomainSystem} {event : SystemEvent} {domain : Uuid}

theorem custody_removing (hsound : SystemSound s) (hcustody : (custody s domain).Sound)
    (heffect : SystemEffect s event t)
    (hrow : s.ledger.domains.lookup domain = some row) (hunwanted : row.desired = .disconnected) :
    Custody.Move (custody s domain) (custody t domain) := by
  have hbefore : ¬ (custody s domain).wanted := fun h => h row hrow hunwanted
  obtain ⟨hquiet, -⟩ := hcustody.settled hbefore
  obtain ⟨row', hrow', hunwanted', hrest⟩ := heffect.unwanted hrow hunwanted
  have hgone : (custody s domain).gone ⊆ (custody t domain).gone :=
    fun reference hconfirmed => Confirmed.step hsound heffect hconfirmed
  -- When the row is finished, what it recorded is known to be gone.
  have hfinished : ∀ id run loaded, s.runs.lookup id = some run → run.domainId = domain →
      run.position = .finalizeDisconnect loaded →
      (custody s domain).recorded ⊆ (custody t domain).gone := by
    rintro id run loaded hrun rfl hposition reference ⟨found, hfound, hreference⟩
    exact hgone (hsound.confirmed_of_finalizing hrun hposition hfound hreference)
  refine .removing hbefore (fun h => h row' hrow' hunwanted') ?_ ?_ ?_ hgone ?_
  · rintro ⟨id, run, hrun, rfl, hcreate⟩
    rcases heffect.runs id run hrun with hold | hload | ⟨before, hold, hdomain, hnext⟩
    · exact ⟨id, run, hold, rfl, hcreate⟩
    · rw [hload] at hcreate
      cases hcreate
    · rcases hnext.creating _ rfl hcreate with hmay | ⟨found, hfound, hwanted⟩
      · exact ⟨id, before, hold, hdomain.symm, hmay⟩
      · rw [← hdomain, hrow] at hfound
        cases hfound
        exact absurd hunwanted hwanted
  · intro reference hmem
    rcases heffect.created _ hmem with hold | ⟨id, run, hrun, hdomain, hcreate⟩
    · exact hold
    · exact absurd ⟨id, run, hrun, hdomain, hcreate⟩ hquiet
  · rcases hrest with ⟨hkept, -⟩ | ⟨-, id, run, loaded, hrun, hdomain, hposition⟩
    · rintro reference ⟨found, hfound, hreference⟩
      rw [hrow] at hfound
      cases hfound
      exact Or.inl ⟨row', hrow', hkept.trans hreference⟩
    · exact fun reference hmem => Or.inr (hfinished id run loaded hrun hdomain hposition hmem)
  · rintro ⟨found, hfound, hstate⟩
    rw [hrow'] at hfound
    cases hfound
    rcases hrest with ⟨-, hkept⟩ | ⟨-, id, run, loaded, hrun, hdomain, hposition⟩
    · exact Or.inl ⟨row, hrow, hkept hstate⟩
    · exact Or.inr (hfinished id run loaded hrun hdomain hposition)

/-- Every step is a move of each domain's custody, if disconnections come at settled
moments. -/
theorem custody_step (hsound : SystemSound s) (hcustody : (custody s domain).Sound)
    (hstep : s.step event = some t) (hgood : s.disconnectsSettled event = true) :
    Custody.Move (custody s domain) (custody t domain) := by
  have heffect := system_effect hstep
  have hfinished := (hsound.step hstep).finished
  by_cases hbefore : (custody s domain).wanted
  · by_cases hafter : (custody t domain).wanted
    · refine .acquiring hbefore hafter ?_
      rintro ⟨row, hrow, hstate⟩
      exact hafter row hrow (hfinished domain row hrow hstate)
    -- The row was wanted before and is not wanted now, so the step was the disconnection.
    simp only [custody, not_forall, not_not] at hafter
    obtain ⟨row', hrow', hunwanted⟩ := hafter
    rcases heffect.ledger with hsame | ⟨made, hmade, hclose, -⟩
    · rw [hsame] at hrow'
      exact absurd hunwanted (hbefore row' hrow')
    obtain ⟨row, hrow, hclosed⟩ :=
      ((DomainLedger.step_effect hmade).rows domain).closes hrow' hunwanted
    rcases hclosed with hwas | ⟨hreference, hstate, workshop, version, operation, hostname, rfl⟩
    · exact absurd hwas (hbefore row hrow)
    obtain ⟨rfl, hruns, hcreated⟩ := hclose _ _ _ _ _ rfl
    obtain ⟨hquiet, hknown⟩ := settled_iff.mp hgood
    refine .close ?_ ?_ ?_
    · rintro ⟨id, run, hrun, hdomain, hcreate⟩
      rw [hruns] at hrun
      exact hquiet ⟨id, run, hrun, hdomain, hcreate⟩
    · intro reference hmem
      have hold : reference ∈ (custody s domain).created := by
        simpa only [custody, hcreated] using hmem
      obtain ⟨found, hfound, hfoundRef⟩ := hknown hold
      rw [hrow] at hfound
      cases hfound
      exact Or.inl ⟨row', hrow', hreference.trans hfoundRef⟩
    · rintro ⟨found, hfound, hdone⟩
      rw [hrow'] at hfound
      cases hfound
      rw [hstate] at hdone
      cases hdone
  · simp only [custody, not_forall, not_not] at hbefore
    obtain ⟨row, hrow, hunwanted⟩ := hbefore
    exact custody_removing hsound hcustody heffect hrow hunwanted

end Custody

theorem custody_start (now : Timestamp) (domain : Uuid) : (custody (.start now) domain).Sound := by
  constructor
  · intro hunwanted
    refine absurd ?_ hunwanted
    intro row hrow
    cases hrow
  · rintro ⟨row, hrow, -⟩
    cases hrow

/-- **A disconnected domain leaves no hostname behind**, in every run in which domains are
disconnected only at settled moments. Every hostname that was created for it, recorded or
not, has its absence confirmed. -/
theorem disconnected_leaves_no_hostname {now : Timestamp} {events : List SystemEvent}
    {s : DomainSystem}
    (hrun : RunWhere DomainSystem.step
      (fun before event => before.disconnectsSettled event = true) (.start now) events s)
    {domain : Uuid} (hrow : s.ledger.domains.lookup domain = some row)
    (hstate : row.state = .disconnected) {reference : String}
    (hcreated : (domain, reference) ∈ s.created) :
    ∃ deletion, s.ledger.deletions.lookup (domain, reference) = some deletion ∧
      deletion.state = .absenceConfirmed := by
  have hinvariant : SystemSound s ∧ (custody s domain).Sound :=
    hrun.invariant (P := fun s => SystemSound s ∧ (custody s domain).Sound)
      (fun before event after hsound hgood hstep =>
        ⟨hsound.1.step hstep, hsound.2.move (custody_step hsound.1 hsound.2 hstep hgood)⟩)
      ⟨systemSound_start now, custody_start now domain⟩
  exact (hinvariant.2.empty ⟨row, hrow, hstate⟩).2 hcreated

/-! ## One shop -/

section Shop

def shopReport : ProviderReport := ⟨"pending", "initializing", none⟩

/-- The handle of the first attempt of a reconcile operation. -/
def shopAttempt (operation : Uuid) (extra : List (String × Json)) : LeasedOperation :=
  (OperationRow.enqueued .webshopDomainReconcile (some 7) none none (domainPayload 1 extra)
    0).handle
    operation "worker"

def shopLease : SystemEvent :=
  .outside (.queue (.lease .tenantReconciliation "worker" fun _ => false))

/-- The domain is claimed and verified, and an attempt creates its hostname. -/
def shopConnecting : List SystemEvent :=
  [.outside (.claim 1 7 "shop.example"), .outside (.readForVerification 1 7),
    .outside (.verify 1 7 true 100), shopLease, .start 0 (shopAttempt 100 []) 7 1,
    .work 0 .ok, .work 0 (.report shopReport), .work 0 (.created "ref-1" shopReport)]

/-- The domain is disconnected through the API, and the attempt for that starts. -/
def shopDisconnecting (version : Nat) : List SystemEvent :=
  [.outside (.disconnect 1 7 version 101 "platform.example"), shopLease,
    .start 1 (shopAttempt 101 [("reason", .string "disconnect"),
      ("restore_platform_canonical", .bool false)]) 7 1]

/-- The disconnection comes before the hostname is recorded. -/
def shopOvertaken : List SystemEvent :=
  shopConnecting ++ shopDisconnecting 2 ++ [.work 0 .ok, .work 1 .ok, .work 1 .ok, .work 1 .ok]

/-- The hostname is recorded first; then it is deleted and seen to be gone. -/
def shopOrderly : List SystemEvent :=
  shopConnecting ++ [.work 0 .ok] ++ shopDisconnecting 3 ++
    [.work 1 .ok, .work 1 .ok, .work 1 .ok, .work 1 (.report shopReport), .work 1 .ok,
      .work 1 .ok, .work 1 .ok, .work 1 (.report shopReport), .work 1 .ok, .work 1 .ok]

/-- The domain is finished, although its hostname was created. -/
def shopFinished (s : DomainSystem) : Bool :=
  (s.ledger.domains.lookup 1).any (fun row => decide (row.state = .disconnected)) &&
    decide ((1, "ref-1") ∈ s.created)

/-- An API call that disconnects the domain while its hostname is being created leaves the
hostname at the provider, and nothing about it in the ledger. -/
theorem overtaken_hostname_left_behind : ∃ s, Run DomainSystem.step (.start 0) shopOvertaken s ∧
      (∃ row, s.ledger.domains.lookup 1 = some row ∧ row.state = .disconnected) ∧
      (1, "ref-1") ∈ s.created ∧ s.hostnames.lookup "ref-1" = some "shop.example" ∧
      s.ledger.deletions.lookup (1, "ref-1") = none := by
  have hreplay : (replay DomainSystem.step (.start 0) shopOvertaken).any (fun s =>
      shopFinished s && decide (s.hostnames.lookup "ref-1" = some "shop.example") &&
        decide (s.ledger.deletions.lookup (1, "ref-1") = none)) = true := by
    decide +kernel
  obtain ⟨s, hs, hfacts⟩ := (Option.any_eq_true _ _).mp hreplay
  simp only [shopFinished, Bool.and_eq_true, decide_eq_true_eq] at hfacts
  obtain ⟨⟨⟨hfinished, hcreated⟩, hhostname⟩, hdeletion⟩ := hfacts
  obtain ⟨row, hrow, hstate⟩ := (Option.any_eq_true _ _).mp hfinished
  exact ⟨s, run_of_replay hs, ⟨row, hrow, of_decide_eq_true hstate⟩, hcreated, hhostname, hdeletion⟩

/-- The orderly disconnection meets the condition, and confirms the absence of the
hostname it created. -/
theorem orderly_leaves_no_hostname : ∃ s, RunWhere DomainSystem.step
        (fun before event => before.disconnectsSettled event = true) (.start 0) shopOrderly s ∧
      (1, "ref-1") ∈ s.created ∧ ∃ deletion,
        s.ledger.deletions.lookup (1, "ref-1") = some deletion ∧
          deletion.state = .absenceConfirmed := by
  have hreplay : (replayWhere DomainSystem.step DomainSystem.disconnectsSettled (.start 0)
      shopOrderly).any shopFinished = true := by
    decide +kernel
  obtain ⟨s, hs, hfacts⟩ := (Option.any_eq_true _ _).mp hreplay
  rw [shopFinished, Bool.and_eq_true, decide_eq_true_eq] at hfacts
  obtain ⟨row, hrow, hstate⟩ := (Option.any_eq_true _ _).mp hfacts.1
  have hrun := runWhere_of_replayWhere hs
  exact ⟨s, hrun, hfacts.2,
    disconnected_leaves_no_hostname hrun hrow (of_decide_eq_true hstate) hfacts.2⟩

/-- The attempt that disconnects the shop, calling the deletion function. -/
def shopCall (action : DeletionAction) : LedgerEvent :=
  .advance ⟨101, 1, "worker", 7, 1, "ref-1", "shop.example", action⟩

/-- The shop's hostname is seen eight times, and then it is gone. -/
def shopObservations : List LedgerEvent :=
  [.claim 1 7 "shop.example", .readForVerification 1 7, .verify 1 7 true 100,
    .queue (.lease .tenantReconciliation "worker" fun _ => false),
    .recordObservation (shopAttempt 100 []) 7 1 (shopReport.observation "ref-1" "shop.example"),
    .disconnect 1 7 3 101 "platform.example",
    .queue (.lease .tenantReconciliation "worker" fun _ => false), shopCall .begin] ++
    List.replicate 8 (shopCall .observePresent) ++ [shopCall .observeAbsent]

theorem shopObservations_replay :
    (replay DomainLedger.step (.start 0) shopObservations).any (fun s =>
      decide (tally s.decisions (1, "ref-1") (.observed .present) = 8) &&
        decide (tally s.decisions (1, "ref-1") (.observed .absent) = 1)) = true := by
  decide +kernel

/-- Nine observations are recorded when the ninth is the absent one. -/
theorem nine_observations_recorded : ∃ s, Run DomainLedger.step (.start 0) shopObservations s ∧
      tally s.decisions (1, "ref-1") (.observed .present) = 8 ∧
      tally s.decisions (1, "ref-1") (.observed .absent) = 1 := by
  obtain ⟨s, hs, hfacts⟩ := (Option.any_eq_true _ _).mp shopObservations_replay
  simp only [Bool.and_eq_true, decide_eq_true_eq] at hfacts
  exact ⟨s, run_of_replay hs, hfacts⟩

/-- The orderly run up to its last step, which finishes the row. -/
theorem orderly_finalized_after_absence :
    ∃ (s : DomainLedger) (u v : DomainSystem), DeletionBounded s ∧ DeletionBounded u.ledger ∧
      u.step (.work 1 .ok) = some v ∧ shopFinished v = true ∧
      ∃ deletion, u.ledger.deletions.lookup (1, "ref-1") = some deletion ∧
        deletion.state = .absenceConfirmed := by
  obtain ⟨s, hs, -⟩ := (Option.any_eq_true _ _).mp shopObservations_replay
  have hreplay : (replay DomainSystem.step (.start 0) shopOrderly.dropLast).any (fun u =>
      (u.ledger.domains.lookup 1).any (fun row => decide (row.state ≠ .disconnected) &&
        decide (row.providerRef = some "ref-1")) &&
        (u.step (.work 1 .ok)).any shopFinished) = true := by
    decide +kernel
  obtain ⟨u, hu, hfacts⟩ := (Option.any_eq_true _ _).mp hreplay
  rw [Bool.and_eq_true] at hfacts
  obtain ⟨before, hbefore, hopen⟩ := (Option.any_eq_true _ _).mp hfacts.1
  obtain ⟨v, hv, hfinished⟩ := (Option.any_eq_true _ _).mp hfacts.2
  simp only [Bool.and_eq_true, decide_eq_true_eq] at hopen
  have hafter := hfinished
  rw [shopFinished, Bool.and_eq_true] at hafter
  obtain ⟨after, hafter, hdone⟩ := (Option.any_eq_true _ _).mp hafter.1
  obtain ⟨hledger, hsystem, hconfirmed⟩ :=
    deletion_protocol_bounded (run_of_replay hs) (run_of_replay hu) hv
  exact ⟨s, u, v, hledger, hsystem, hv, hfinished,
    hconfirmed 1 before after "ref-1" hbefore hopen.1 hopen.2 hafter (of_decide_eq_true hdone)⟩

end Shop

end ControlPlane.Domains
