/-
# What a release leaves in quarantine

From its quarantine to the decision of its recovery a release keeps the shared lease, the
driver's receipt, its routes and their heads. Its own writer has lost the authority over
them. The writer of another release needs the shared lease, which is not held. The recovery
of another release is decided only on a shared lease that is in quarantine for that release.
That all other writers leave the rows is what `Respects` assumes of them.
-/

import ControlPlane.Releases.RecoverySafety

namespace ControlPlane.Releases

open Domain Driver Math Persistence
open Routes Publications ReleaseState

/-- The rows of a release are in quarantine, and its heads are those that the newest claim
recorded. -/
structure Held (s : ReleaseState) (id : Uuid) (publication : ReleasePublication) : Prop where
  rows : s.allQuarantined (publication.identity.lease id) publication.identity.owners = true
  heads : ∀ claim, (s.recovery id).claims.head? = some claim → ∀ recorded ∈ claim.heads,
    s.shared.heads.lookup recorded.1 = some recorded.2

/-- Every release that waits in quarantine holds its rows. -/
def AllHeld (s : ReleaseState) : Prop :=
  ∀ id publication, s.Waiting id publication → Held s id publication

/-- The shared lease is in quarantine. -/
def FleetQuarantined (s : ReleaseState) : Prop :=
  ∃ authority owner, s.shared.fleet.phase = .quarantined authority owner

section Rows

variable {env : DatabaseEnvironment} {s t : ReleaseState} {id : Uuid}
  {publication : ReleasePublication} {lease : ReleaseLease}

variable {owners : List RouteOwner}

theorem fleetQuarantined_of_rows (h : s.allQuarantined lease owners = true) :
    fleetQuarantined lease s.shared.fleet = true := by
  simp only [allQuarantined, Bool.and_eq_true] at h
  exact h.1.2

theorem phase_of_fleetQuarantined {fleet : GlobalLease} (h : fleetQuarantined lease fleet = true) :
    fleet.phase = .quarantined (.release lease.driverOperation) lease.instanceOwner := by
  simp only [fleetQuarantined, Bool.and_eq_true, decide_eq_true_eq] at h
  exact h.2

theorem Held.fleetQuarantined (h : Held s id publication) : FleetQuarantined s :=
  ⟨_, _, phase_of_fleetQuarantined (fleetQuarantined_of_rows h.rows)⟩

theorem fleetHeldUntil_eq_none (h : FleetQuarantined s) :
    fleetHeldUntil s.shared.fleet lease = none := by
  obtain ⟨authority, owner, hphase⟩ := h
  simp only [fleetHeldUntil, hphase]

/-- No writer changes anything while the shared lease is in quarantine. -/
theorem writerCall_fleetQuarantined (h : FleetQuarantined s) (call : WriterCall) :
    s.writerCall env lease call = s := by
  have hfleet : fleetHeldUntil s.shared.fleet lease = none := fleetHeldUntil_eq_none h
  have hlost : s.live (fleetHeldUntil s.shared.fleet lease) = false := by
    rw [hfleet]
    rfl
  refine writerCall_unauthorized ?_ ?_ ?_ ?_ call
  · have hauthority : s.hasAuthority lease = false := by
      unfold hasAuthority
      split
      · simp only [hlost, Bool.and_false, Bool.false_and]
      · rfl
    rw [authorized, hauthority]
    rfl
  · intro ttl
    cases hlookup : s.publications.lookup lease.driverOperation with
    | some publication => exact admitRelease_again ttl hlookup
    | none =>
      simp only [admitRelease, hlookup, mayAdmit, hlost, Bool.false_and, if_true]
      split
      · rfl
      · split
        · split <;> rfl
        · rfl
  · intro safeError
    unfold quarantineRelease
    simp only [hfleet]
    split
    · rfl
    · split
      · split
        · rfl
        · split <;> rfl
      · rfl
  · intro response
    unfold finishRelease
    simp only
    split
    · rfl
    split
    · rfl
    split
    · split <;> rfl
    unfold finishBeforeRecovery
    simp only [hlost, Bool.and_false, if_true]
    split
    · rfl
    · split <;> rfl
    · rfl

/-- A claim moves a release to quarantine only from a shared lease that is held. -/
theorem interrupt_changed {stage : Stage} (h : s.interrupt id publication = .ok (t, stage)) :
    t = s ∨ ¬ FleetQuarantined s := by
  unfold interrupt at h
  split at h
  · cases h
    exact Or.inl rfl
  · cases h
  split at h
  · cases h
  · rename_i hexpired
    refine Or.inr fun hfleet => hexpired ?_
    simp only [allExpired, fleetHeldUntil_eq_none hfleet, Option.any_none, Bool.and_false,
      Bool.false_and]

theorem RowsKept.allQuarantined {rows next : SharedRows}
    (hkept : RowsKept rows next lease.driverOperation owners)
    (h : ({ s with shared := rows } : ReleaseState).allQuarantined lease owners = true) :
    ({ s with shared := next } : ReleaseState).allQuarantined lease owners = true := by
  simp only [ReleaseState.allQuarantined, Bool.and_eq_true, List.all_eq_true] at h ⊢
  rw [hkept.fleet, hkept.driver]
  refine ⟨⟨fun owner hmem => ?_, h.1.2⟩, h.2⟩
  rw [hkept.leases owner hmem]
  exact h.1.1 owner hmem

end Rows

/-! ## Steps -/

section Steps

variable {env : DatabaseEnvironment} {s t : ReleaseState} {id : Uuid}
  {publication : ReleasePublication}

theorem Held.of_same (h : Held s id publication) (hshared : t.shared = s.shared)
    (hrecovery : t.recovery id = s.recovery id) : Held t id publication where
  rows := by
    have hrows := h.rows
    simp only [allQuarantined] at hrows ⊢
    rw [hshared]
    exact hrows
  heads := by
    rw [hshared, hrecovery]
    exact h.heads

theorem ReleaseState.Waiting.of_same (h : t.Waiting id publication)
    (hpublications : t.publications = s.publications)
    (hterminal : (t.recovery id).terminal = (s.recovery id).terminal) :
    s.Waiting id publication := by
  obtain ⟨hlookup, hinterrupted, hopen⟩ := h
  exact ⟨hpublications ▸ hlookup, hinterrupted, hterminal ▸ hopen⟩

theorem phase_of_interrupted (h : publication.interrupted.isSome = true) :
    ∃ stage, publication.phase = .quarantined stage := by
  unfold ReleasePublication.interrupted at h
  split at h
  · exact ⟨_, by assumption⟩
  · cases h

/-- A writer that can change anything finds no release in quarantine, and leaves at most its
own there. -/
theorem AllHeld.writerFrame (h : AllHeld s) (hsound : Sound env s) (hframe : WriterFrame s t id)
    (hchanged : t = s ∨ ¬ FleetQuarantined s) : AllHeld t := by
  rcases hchanged with rfl | hfleet
  · exact h
  have hnone : ∀ other publication, ¬ s.Waiting other publication := fun other publication
    hwaiting =>
    hfleet (h other publication hwaiting).fleetQuarantined
  have hrecovery : ∀ other, t.recovery other = s.recovery other := fun other => by
    rw [recovery, recovery, hframe.recoveries]
  intro other publication hwaiting
  obtain ⟨hlookup, hinterrupted, hopen⟩ := hwaiting
  rw [hrecovery] at hopen
  by_cases hid : other = id
  · subst hid
    cases hframe.move with
    | same hsame =>
      exact absurd ⟨hsame ▸ hlookup, hinterrupted, hopen⟩ (hnone other publication)
    | admitted _ _ _ hadmitted | completed _ _ hadmitted =>
      obtain rfl := Option.some.inj (hlookup.symm.trans hadmitted)
      cases hinterrupted
    | moved hbefore hlive hmoved _ hnext =>
      obtain rfl := Option.some.inj (hlookup.symm.trans hmoved)
      rcases hnext with ⟨stage, rfl⟩ | hrows
      · cases hinterrupted
      · refine ⟨hrows, fun claim hhead => ?_⟩
        rw [hrecovery, (hsound.releases _ _ hbefore).recovery_empty
          fun stage => by rw [hlive]; simp] at hhead
        cases hhead
  · rw [hframe.publications other hid] at hlookup
    exact absurd ⟨hlookup, hinterrupted, hopen⟩ (hnone other publication)

variable {claim : RecoveryClaim} {stage : Stage}

/-- What is recorded under a claim changes no row, and no recorded head. -/
theorem AllHeld.withClaim {fence : Nat} {change : RecoveryClaim → RecoveryClaim} (h : AllHeld s)
    (hsound : Sound env s) (hlookup : s.publications.lookup id = some publication)
    (hfound : (s.recovery id).claim fence = some claim) (hlive : claim.live s.now = true)
    (hheads : (change claim).heads = claim.heads) : AllHeld (s.withClaim id fence change) := by
  have hrelease := hsound.releases _ _ hlookup
  obtain ⟨rfl, rest, hclaims⟩ := hrelease.head_of_live hfound hlive
  have hledger := recovery_withClaim change hclaims hrelease.ordered
  intro other found hwaiting
  by_cases hid : other = id
  · subst hid
    have hheld := h other found (hwaiting.of_same rfl (by rw [hledger]))
    refine ⟨hheld.rows, fun newest hnewest => ?_⟩
    rw [hledger, List.head?_cons, Option.some.injEq] at hnewest
    subst hnewest
    rw [hheads]
    exact hheld.heads claim (by rw [hclaims, List.head?_cons])
  · have hrecovery := recovery_insert_ne (s := s) hid ((s.recovery id).modify claim.fence change)
    exact (h other found (hwaiting.of_same rfl (by rw [← hrecovery]; rfl))).of_same rfl hrecovery

theorem lookup_of_mem_interruptedHeads {owners : List RouteOwner} {recorded : Uuid × FleetHead}
    (h : recorded ∈ s.interruptedHeads id stage owners) :
    s.shared.heads.lookup recorded.1 = some recorded.2 := by
  obtain ⟨owner, -, hhead⟩ := List.mem_filterMap.mp h
  split at hhead
  · rename_i head hlookup
    split at hhead
    · cases hhead
      exact hlookup
    · cases hhead
  · cases hhead

theorem AllHeld.addClaim {middle : ReleaseState} (h : AllHeld middle)
    (hlookup : middle.publications.lookup id = some publication)
    (hrows : middle.allQuarantined (publication.identity.lease id) publication.identity.owners =
      true) (hheads : claim.heads = middle.interruptedHeads id stage publication.identity.owners) :
    AllHeld { middle with
      recoveries := middle.recoveries.insert id ((middle.recovery id).add claim) } := by
  intro other found hwaiting
  by_cases hid : other = id
  · subst hid
    obtain rfl := Option.some.inj (hlookup.symm.trans hwaiting.1)
    refine ⟨hrows, fun newest hnewest recorded hmem => ?_⟩
    rw [recovery_insert_self, RecoveryLedger.add_claims, List.head?_cons,
      Option.some.injEq] at hnewest
    subst hnewest
    rw [hheads] at hmem
    exact lookup_of_mem_interruptedHeads hmem
  · have hrecovery := recovery_insert_ne (s := middle) hid ((middle.recovery id).add claim)
    exact (h other found (hwaiting.of_same rfl (by rw [hrecovery]))).of_same rfl hrecovery

theorem RecoveryMove.allHeld (hmove : RecoveryMove env s t id) (h : AllHeld s)
    (hsound : Sound env s) : AllHeld t := by
  cases hmove with
  | same hsame => exact hsame ▸ h
  | grown hlookup hfound hlive hopen hgrows hclaim hchanged =>
    subst hchanged
    exact h.withClaim hsound hlookup hfound hlive hgrows.heads
  | interrupted hlookup hopen hinterrupt =>
    exact h.writerFrame hsound (interrupt_ok hlookup hinterrupt).frame
      (interrupt_changed hinterrupt)
  | claimed hlookup hopen hexpired hinterrupt hquarantined hfence hclaim hheads hchanged =>
    rename_i found middle stage claim
    have hinterrupted := interrupt_ok hlookup hinterrupt
    have hmiddle := h.writerFrame hsound hinterrupted.frame (interrupt_changed hinterrupt)
    have hrecovery : middle.recovery id = s.recovery id := by
      rw [recovery, recovery, hinterrupted.frame.recoveries]
    rw [hchanged, ← hinterrupted.frame.recoveries, ← hrecovery]
    exact hmiddle.addClaim hinterrupted.publication hquarantined hheads
  | decided hlookup hfound hlive hphase hopen hterminal hfleet hqueue hpublications hsnapshots
      hrecoveries hcompletions =>
    intro other found hwaiting
    obtain ⟨hfound, hinterrupted, hundecided⟩ := hwaiting
    by_cases hid : other = id
    · subst hid
      rw [recovery, hrecoveries, AList.lookup_insert, Option.getD_some] at hundecided
      cases hundecided
    · -- The shared lease is in quarantine for one release only.
      rw [recovery, hrecoveries, AList.lookup_insert_ne hid] at hundecided
      have hheld := h other found ⟨hpublications ▸ hfound, hinterrupted, hundecided⟩
      have hown := phase_of_fleetQuarantined (fleetQuarantined_of_rows hheld.rows)
      rw [phase_of_fleetQuarantined hfleet] at hown
      injection hown with hauthority
      injection hauthority with hsame
      exact absurd hsame.symm hid

theorem RenewMove.allHeld (hmove : RenewMove s t id) (h : AllHeld s) (hsound : Sound env s) :
    AllHeld t := by
  cases hmove with
  | same hsame => exact hsame ▸ h
  | renewed hlookup hfound hlive hchanged =>
    subst hchanged
    exact h.withClaim hsound hlookup hfound hlive rfl

theorem AllHeld.step {event : ReleaseEvent} (h : AllHeld s) (hsound : Sound env s)
    (hrespects : Respects s event) (hstep : s.step env event = some t) : AllHeld t := by
  cases event with
  | queue call =>
    obtain ⟨queue, -, rfl⟩ := Option.map_eq_some_iff.mp hstep
    exact fun other found hwaiting => (h other found hwaiting).of_same rfl rfl
  | shared rows =>
    cases hstep
    intro other found hwaiting
    have hwaited : s.Waiting other found := hwaiting
    have hkept := hrespects.1 other found hwaited
    have hheld := h other found hwaited
    refine ⟨RowsKept.allQuarantined hkept hheld.rows, fun claim hhead recorded hmem => ?_⟩
    obtain ⟨_, _, hclaim⟩ := (hsound.releases _ _ hwaited.1).claims claim
      (List.mem_of_mem_head? hhead)
    obtain ⟨owner, howner, hworkshop, -⟩ := hclaim.heads recorded hmem
    have hsame := hkept.heads owner howner
    rw [hworkshop] at hsame
    exact hsame.trans (hheld.heads claim hhead recorded hmem)
  | runs activeSlot runs =>
    cases hstep
    exact fun other found hwaiting => (h other found hwaiting).of_same rfl rfl
  | writer lease call =>
    cases hstep
    refine h.writerFrame hsound (writerCall_frame env s lease call) ?_
    by_cases hfleet : FleetQuarantined s
    · exact Or.inl (writerCall_fleetQuarantined hfleet call)
    · exact Or.inr hfleet
  | recovery key call =>
    cases hstep
    rcases recoveryCall_move hsound key call with ⟨_, _, hmove⟩ | hmove
    · exact hmove.allHeld h hsound
    · exact hmove.allHeld h hsound
  | review id fence operation observationDigest decision =>
    cases hstep
    exact (reviewObservation_move hsound id fence operation observationDigest decision).allHeld h
      hsound

/-- In every state that a run reaches, the releases in quarantine hold their rows. -/
theorem Initial.run_allHeld {start : ReleaseState} {events : List ReleaseEvent}
    (hstart : Initial start) (hrun : RunWhere (ReleaseState.step env) Respects start events s) :
    AllHeld s := by
  refine (hrun.invariant (P := fun s => Sound env s ∧ AllHeld s)
    (fun _ _ _ hbefore hrespects hstep => ⟨hbefore.1.step hrespects hstep,
      hbefore.2.step hbefore.1 hrespects hstep⟩) ⟨hstart.sound, ?_⟩).2
  intro id publication hwaiting
  have hlookup := hwaiting.1
  rw [hstart.publications] at hlookup
  cases hlookup

end Steps

end ControlPlane.Releases
