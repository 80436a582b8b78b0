/-
# Safety of release recovery

In every run, of any number of claimants with any tokens, of the original writer and of the
workers that lease the upstream operation, a release is decided at most once. The claims
are ordered by their fences, one of them at most is live, and what is recorded under a
fence stays. Once a release is decided, the same call is answered with the stored response,
and every other call changes nothing, with one exception: the claimant can still renew its
claim, because the renewal does not look for a decision.
-/

import ControlPlane.Releases.RecoveryMoves
import ControlPlane.Publications.Decisions

namespace ControlPlane.Releases

open Domain Driver Math Persistence
open Routes Publications ReleaseState
open PublicationState (zeroHash)

/-! ## The invariant -/

section Invariant

variable {env : DatabaseEnvironment} {s t : ReleaseState} {id : Uuid}
  {publication : ReleasePublication} {stage : Stage} {claim : RecoveryClaim}

variable {ledger : RecoveryLedger}

theorem fence_le_latestFence
    (hordered : ledger.claims.Pairwise fun newer older => older.fence < newer.fence)
    (hmem : claim ∈ ledger.claims) : claim.fence ≤ ledger.latestFence := by
  unfold RecoveryLedger.latestFence
  split
  · rename_i hnil
    rw [hnil] at hmem
    cases hmem
  · rename_i newest rest hcons
    rw [hcons] at hmem hordered
    rcases List.mem_cons.mp hmem with rfl | hmem
    · exact le_refl _
    · exact Nat.le_of_lt ((List.pairwise_cons.mp hordered).1 claim hmem)

theorem ReleaseSound.addClaim (h : ReleaseSound env s id publication)
    (hphase : publication.phase = .quarantined stage)
    (hopen : (s.recovery id).terminal = none)
    (hexpired : ∀ newest ∈ (s.recovery id).claims.head?, newest.live s.now = false)
    (hfence : claim.fence = (s.recovery id).latestFence + 1)
    (hclaim : ClaimSound env id publication.identity stage claim) :
    ReleaseSound env { s with recoveries := s.recoveries.insert id ((s.recovery id).add claim) } id
      publication := by
  refine ⟨?_, ?_, ?_, ?_, ?_, h.fences⟩
  · rw [recovery_insert_self, RecoveryLedger.add_claims, List.pairwise_cons]
    refine ⟨fun older hmem => ?_, h.ordered⟩
    have hle := fence_le_latestFence h.ordered hmem
    omega
  · rw [recovery_insert_self, RecoveryLedger.add_claims, List.tail_cons]
    intro older hmem
    cases hclaims : (s.recovery id).claims with
    | nil =>
      rw [hclaims] at hmem
      cases hmem
    | cons newest rest =>
      rw [hclaims] at hmem
      rcases List.mem_cons.mp hmem with rfl | hmem
      · exact hexpired older (by rw [hclaims]; rfl)
      · exact h.expired older (by rw [hclaims]; exact hmem)
  · rw [recovery_insert_self]
    intro older hmem
    rcases List.mem_cons.mp hmem with rfl | hmem
    · exact ⟨stage, hphase, hclaim⟩
    · exact h.claims older hmem
  · rw [recovery_insert_self]
    intro terminal hterminal
    cases hopen.symm.trans hterminal
  · rw [recovery_insert_self]
    exact h.completion

/-- A decision of the newest claim. The completion of a candidate is stored with it. -/
theorem ReleaseSound.decide {completions : Table Uuid ReleaseCompletion} {fence : Nat}
    {terminal : RecoveryTerminal} (h : ReleaseSound env s id publication)
    (hphase : publication.phase = .quarantined stage)
    (hfound : (s.recovery id).claim fence = some claim) (hlive : claim.live s.now = true)
    (hterminal : TerminalSound env id publication.identity.fleetRun stage claim terminal)
    (hcompletions : completions.lookup id = s.completions.lookup id ∨ terminal.kind = .candidate)
    (hopen : (s.recovery id).terminal = none) :
    ReleaseSound env { s with
      completions := completions
      recoveries := s.recoveries.insert id ((s.recovery id).close terminal) } id publication := by
  have hledger : ({ s with
      completions := completions
      recoveries := s.recoveries.insert id ((s.recovery id).close terminal) } :
      ReleaseState).recovery id = (s.recovery id).close terminal := by
    simp [recovery]
  obtain ⟨-, rest, hclaims⟩ := h.head_of_live hfound hlive
  refine ⟨?_, ?_, ?_, ?_, ?_, h.fences⟩
  · rw [hledger]
    exact h.ordered
  · rw [hledger]
    exact h.expired
  · rw [hledger]
    exact h.claims
  · rw [hledger]
    intro decided hdecided
    cases hdecided
    exact ⟨stage, claim, hphase, by rw [RecoveryLedger.close, hclaims]; rfl, hterminal⟩
  rw [hledger]
  intro completion hstored
  rcases hcompletions with hsame | hcandidate
  · rw [hsame] at hstored
    rcases h.completion completion hstored with hcompleted | ⟨before, hbefore, -⟩
    · exact Or.inl hcompleted
    · cases hopen.symm.trans hbefore
  · exact Or.inr ⟨terminal, rfl, hcandidate⟩

theorem Sound.recover (h : Sound env s) (hlookup : s.publications.lookup id = some publication)
    (hnow : t.now = s.now) (hpublications : t.publications = s.publications)
    (hsnapshots : t.shared.snapshots = s.shared.snapshots)
    (hrecoveries : t.recoveries = s.recoveries.insert id ledger)
    (hcompletions : ∀ other ≠ id, t.completions.lookup other = s.completions.lookup other)
    (hsound : ReleaseSound env t id publication) : Sound env t where
  releases other found hother := by
    rw [hpublications] at hother
    by_cases hid : other = id
    · subst hid
      obtain rfl := Option.some.inj (hlookup.symm.trans hother)
      exact hsound
    · refine (h.releases other found hother).of_same (le_of_eq hnow.symm) ?_
        (hcompletions other hid)
      rw [recovery, recovery, hrecoveries, AList.lookup_insert_ne hid]
  absent other hother := by
    rw [hpublications] at hother
    have hid : other ≠ id := by
      rintro rfl
      cases hlookup.symm.trans hother
    obtain ⟨hempty, hnone⟩ := h.absent other hother
    refine ⟨?_, (hcompletions other hid).trans hnone⟩
    rw [← hempty, recovery, recovery, hrecoveries, AList.lookup_insert_ne hid]
  snapshots := by
    rw [hsnapshots]
    exact h.snapshots

theorem RecoveryMove.sound (hmove : RecoveryMove env s t id) (h : Sound env s) : Sound env t := by
  cases hmove with
  | same hsame => exact hsame ▸ h
  | grown hlookup hfound hlive hopen hgrows hclaim hchanged =>
    subst hchanged
    exact h.grow hlookup hfound hlive hgrows hclaim
  | interrupted hlookup hopen hinterrupt =>
    exact h.writerFrame (interrupt_ok hlookup hinterrupt).frame
  | claimed hlookup hopen hexpired hinterrupt hquarantined hfence hclaim hheads hchanged =>
    rename_i found middle interrupted claim
    have hinterrupted := interrupt_ok hlookup hinterrupt
    have hmiddle := h.writerFrame hinterrupted.frame
    have hrecovery : middle.recovery id = s.recovery id := by
      rw [recovery, recovery, hinterrupted.frame.recoveries]
    rw [hchanged, ← hinterrupted.frame.recoveries, ← hrecovery]
    refine hmiddle.recover hinterrupted.publication rfl rfl rfl rfl (fun _ _ => rfl)
      (ReleaseSound.addClaim (hmiddle.releases _ _ hinterrupted.publication) rfl ?_ ?_ ?_ hclaim)
    · rw [hrecovery]
      exact hopen
    · intro newest hnewest
      rw [hrecovery] at hnewest
      rw [now, hinterrupted.frame.queue]
      exact hexpired newest hnewest
    · rw [hrecovery]
      exact hfence
  | decided hlookup hfound hlive hphase hopen hterminal hfleet hqueue hpublications hsnapshots
      hrecoveries hcompletions =>
    rename_i found claim interrupted fence terminal
    have hown : t.completions.lookup id = s.completions.lookup id ∨ terminal.kind = .candidate := by
      rcases hcompletions with hsame | ⟨hkind, -⟩
      · exact Or.inl (by rw [hsame])
      · exact Or.inr hkind
    have hdecided := (h.releases _ _ hlookup).decide hphase hfound hlive hterminal hown hopen
    refine h.recover hlookup (by rw [now, now, hqueue]) hpublications hsnapshots hrecoveries ?_
      (hdecided.of_same (le_of_eq (by rw [now, now, hqueue])) ?_ rfl)
    · intro other hother
      rcases hcompletions with hsame | ⟨-, -, completion, hsame⟩
      · rw [hsame]
      · rw [hsame, AList.lookup_insert_ne hother]
    · simp [recovery, hrecoveries]

theorem RenewMove.sound (hmove : RenewMove s t id) (h : Sound env s) : Sound env t := by
  cases hmove with
  | same hsame => exact hsame ▸ h
  | renewed hlookup hfound hlive hchanged =>
    subst hchanged
    have hgrows : ∀ (claim : RecoveryClaim) expiresAt,
        ClaimGrows claim { claim with expiresAt := expiresAt } := fun claim _ =>
      { ClaimGrows.refl claim with }
    exact h.grow hlookup hfound hlive (hgrows _ _)
      fun _ _ hclaim => hclaim.extend (hgrows _ _) rfl rfl

theorem Sound.step {event : ReleaseEvent} (h : Sound env s) (hrespects : Respects s event)
    (hstep : s.step env event = some t) : Sound env t := by
  cases event with
  | queue call =>
    obtain ⟨queue, hqueue, rfl⟩ := Option.map_eq_some_iff.mp hstep
    have hnow := (QueueState.step_rows hqueue).1
    exact ⟨fun other found hother => (h.releases other found hother).of_same hnow rfl rfl,
      h.absent, h.snapshots⟩
  | shared rows =>
    cases hstep
    exact ⟨fun other found hother => (h.releases other found hother).of_same (le_refl _) rfl rfl,
      h.absent, hrespects.2⟩
  | runs activeSlot runs =>
    cases hstep
    exact ⟨fun other found hother => (h.releases other found hother).of_same (le_refl _) rfl rfl,
      h.absent, h.snapshots⟩
  | writer lease call =>
    cases hstep
    exact h.writerFrame (writerCall_frame env s lease call)
  | recovery key call =>
    cases hstep
    rcases recoveryCall_move h key call with ⟨_, _, hmove⟩ | hmove
    · exact hmove.sound h
    · exact hmove.sound h
  | review id fence operation observationDigest decision =>
    cases hstep
    exact (reviewObservation_move h id fence operation observationDigest decision).sound h

/-- Every state that a run reaches is sound. -/
theorem Initial.run_sound {start : ReleaseState} {events : List ReleaseEvent}
    (hstart : Initial start) (hrun : RunWhere (step env) Respects start events s) : Sound env s :=
  hrun.invariant (P := Sound env) (fun _ _ _ hsound hrespects hstep => hsound.step hrespects hstep)
    hstart.sound

end Invariant

/-! ## What stays -/

/-- What was recorded stays recorded, and new claims have new fences. -/
structure Keeps (s t : ReleaseState) : Prop where
  claims : ∀ id, ∀ claim ∈ (s.recovery id).claims, ∃ after ∈ (t.recovery id).claims,
    ClaimGrows claim after
  fences : ∀ id, ∀ after ∈ (t.recovery id).claims,
    (∃ claim ∈ (s.recovery id).claims, claim.fence = after.fence) ∨
      (s.recovery id).latestFence < after.fence
  latest : ∀ id, (s.recovery id).latestFence ≤ (t.recovery id).latestFence
  terminal : ∀ id terminal, (s.recovery id).terminal = some terminal →
    (t.recovery id).terminal = some terminal
  completion : ∀ id completion, s.completions.lookup id = some completion →
    t.completions.lookup id = some completion
  quarantined : ∀ id publication stage, s.publications.lookup id = some publication →
    publication.phase = .quarantined stage → t.publications.lookup id = some publication

theorem Keeps.refl (s : ReleaseState) : Keeps s s where
  claims _ claim hmem := ⟨claim, hmem, .refl claim⟩
  fences _ claim hmem := Or.inl ⟨claim, hmem, rfl⟩
  latest _ := le_refl _
  terminal _ _ h := h
  completion _ _ h := h
  quarantined _ _ _ h _ := h

theorem Keeps.trans {s t u : ReleaseState} (hst : Keeps s t) (htu : Keeps t u) : Keeps s u where
  claims id claim hmem := by
    obtain ⟨middle, hmiddle, hgrows⟩ := hst.claims id claim hmem
    obtain ⟨after, hafter, hmore⟩ := htu.claims id middle hmiddle
    exact ⟨after, hafter, hgrows.trans hmore⟩
  fences id after hmem := by
    rcases htu.fences id after hmem with ⟨middle, hmiddle, hfence⟩ | hnew
    · rw [← hfence]
      exact hst.fences id middle hmiddle
    · exact Or.inr (lt_of_le_of_lt (hst.latest id) hnew)
  latest id := (hst.latest id).trans (htu.latest id)
  terminal id terminal h := htu.terminal id terminal (hst.terminal id terminal h)
  completion id completion h := htu.completion id completion (hst.completion id completion h)
  quarantined id publication stage h hphase :=
    htu.quarantined id publication stage (hst.quarantined id publication stage h hphase) hphase

section Kept

variable {env : DatabaseEnvironment} {s t : ReleaseState} {id : Uuid}

variable {ledger : RecoveryLedger} {publication : ReleasePublication}

section Rows

variable (hcompletions : ∀ id completion, s.completions.lookup id = some completion →
  t.completions.lookup id = some completion)
  (hquarantined : ∀ id publication stage, s.publications.lookup id = some publication →
    publication.phase = .quarantined stage → t.publications.lookup id = some publication)

include hcompletions hquarantined

/-- It is enough to look at the one recovery that changes. -/
theorem Keeps.of_ledger
    (hrecovery : ∀ other, t.recovery other = if other = id then ledger else s.recovery other)
    (hclaims : ∀ claim ∈ (s.recovery id).claims, ∃ after ∈ ledger.claims, ClaimGrows claim after)
    (hfences : ∀ after ∈ ledger.claims,
      (∃ claim ∈ (s.recovery id).claims, claim.fence = after.fence) ∨
        (s.recovery id).latestFence < after.fence)
    (hlatest : (s.recovery id).latestFence ≤ ledger.latestFence)
    (hterminal : ∀ terminal, (s.recovery id).terminal = some terminal →
      ledger.terminal = some terminal) : Keeps s t := by
  have hself := (hrecovery id).trans (if_pos rfl)
  have hother := fun other hne => (hrecovery other).trans (if_neg hne)
  refine ⟨fun other => ?_, fun other => ?_, fun other => ?_, fun other => ?_, hcompletions,
    hquarantined⟩
  all_goals by_cases hid : other = id
  · rw [hid, hself]
    exact hclaims
  · rw [hother other hid]
    exact (Keeps.refl s).claims other
  · rw [hid, hself]
    exact hfences
  · rw [hother other hid]
    exact (Keeps.refl s).fences other
  · rw [hid, hself]
    exact hlatest
  · rw [hother other hid]
  · rw [hid, hself]
    exact hterminal
  · rw [hother other hid]
    exact fun _ hterminal => hterminal

theorem Keeps.of_recoveries (hrecoveries : t.recoveries = s.recoveries) : Keeps s t := by
  have hkeeps := Keeps.refl s
  have hrecovery : ∀ id, t.recovery id = s.recovery id := fun id => by
    rw [recovery, recovery, hrecoveries]
  refine ⟨fun id => ?_, fun id => ?_, fun id => ?_, fun id => ?_, hcompletions, hquarantined⟩
  · rw [hrecovery]
    exact hkeeps.claims id
  · rw [hrecovery]
    exact hkeeps.fences id
  · rw [hrecovery]
  · rw [hrecovery]
    exact hkeeps.terminal id

end Rows

theorem recovery_of_insert (hrecoveries : t.recoveries = s.recoveries.insert id ledger)
    (other : Uuid) : t.recovery other = if other = id then ledger else s.recovery other := by
  rw [recovery, hrecoveries]
  split
  · rename_i hid
    rw [hid, AList.lookup_insert, Option.getD_some]
  · rename_i hid
    rw [AList.lookup_insert_ne hid, recovery]

/-- Changing the newest claim keeps everything when the claim only grows. -/
theorem Keeps.withClaim {fence : Nat} {claim : RecoveryClaim}
    {change : RecoveryClaim → RecoveryClaim} (h : Sound env s)
    (hlookup : s.publications.lookup id = some publication)
    (hfound : (s.recovery id).claim fence = some claim) (hlive : claim.live s.now = true)
    (hgrows : ClaimGrows claim (change claim)) : Keeps s (s.withClaim id fence change) := by
  have hrelease := h.releases _ _ hlookup
  obtain ⟨rfl, rest, hclaims⟩ := hrelease.head_of_live hfound hlive
  have hledger := recovery_withClaim change hclaims hrelease.ordered
  have hrecovery := recovery_of_insert
    (show (s.withClaim id claim.fence change).recoveries = s.recoveries.insert id _ from rfl)
  rw [← recovery_insert_self s id ((s.recovery id).modify claim.fence change),
    ← ReleaseState.withClaim, hledger] at hrecovery
  refine .of_ledger (fun _ _ hcompletion => hcompletion) (fun _ _ _ hpublication _ => hpublication)
    hrecovery ?_ ?_ ?_ fun _ hterminal => hterminal
  · intro older hmem
    rw [hclaims] at hmem
    rcases List.mem_cons.mp hmem with rfl | hmem
    · exact ⟨_, List.mem_cons_self, hgrows⟩
    · exact ⟨older, List.mem_cons_of_mem _ hmem, .refl older⟩
  · intro after hmem
    rw [hclaims]
    rcases List.mem_cons.mp hmem with rfl | hmem
    · exact Or.inl ⟨claim, List.mem_cons_self, hgrows.fence.symm⟩
    · exact Or.inl ⟨after, List.mem_cons_of_mem _ hmem, rfl⟩
  · simp only [RecoveryLedger.latestFence, hclaims, hgrows.fence, le_refl]

theorem WriterFrame.quarantined {other : Uuid} {stage : Stage} (hframe : WriterFrame s t id)
    (hlookup : s.publications.lookup other = some publication)
    (hphase : publication.phase = .quarantined stage) :
    t.publications.lookup other = some publication := by
  by_cases hid : other = id
  · subst hid
    cases hframe.move with
    | same hsame => rw [hsame, hlookup]
    | admitted hnew => cases hnew.symm.trans hlookup
    | moved hbefore hlive | completed hbefore hlive =>
      obtain rfl := Option.some.inj (hlookup.symm.trans hbefore)
      cases hphase.symm.trans hlive
  · rw [hframe.publications other hid, hlookup]

theorem RecoveryMove.keeps (hmove : RecoveryMove env s t id) (h : Sound env s) : Keeps s t := by
  cases hmove with
  | same hsame => exact hsame ▸ .refl s
  | grown hlookup hfound hlive hopen hgrows hclaim hchanged =>
    subst hchanged
    exact .withClaim h hlookup hfound hlive hgrows
  | interrupted hlookup hopen hinterrupt =>
    have hinterrupted := interrupt_ok hlookup hinterrupt
    refine .of_recoveries (fun _ _ hcompletion => ?_)
      (fun _ _ _ => hinterrupted.frame.quarantined) hinterrupted.frame.recoveries
    rw [hinterrupted.completions]
    exact hcompletion
  | claimed hlookup hopen hexpired hinterrupt hquarantined hfence hclaim hheads hchanged =>
    have hinterrupted := interrupt_ok hlookup hinterrupt
    subst hchanged
    refine .of_ledger ?_ (fun _ _ _ => hinterrupted.frame.quarantined) (recovery_of_insert rfl)
      ?_ ?_ ?_ ?_
    · intro other completion hcompletion
      rw [hinterrupted.completions]
      exact hcompletion
    · intro older hmem
      exact ⟨older, List.mem_cons_of_mem _ hmem, .refl older⟩
    · intro after hmem
      rcases List.mem_cons.mp hmem with rfl | hmem
      · exact Or.inr (by omega)
      · exact Or.inl ⟨after, hmem, rfl⟩
    · simp only [RecoveryLedger.latestFence, RecoveryLedger.add_claims] at hfence ⊢
      omega
    · intro terminal hterminal
      cases hopen.symm.trans hterminal
  | decided hlookup hfound hlive hphase hopen hterminal hfleet hqueue hpublications hsnapshots
      hrecoveries hcompletions =>
    refine .of_ledger ?_ (fun _ _ _ hpublication _ => by rw [hpublications, hpublication])
      (recovery_of_insert hrecoveries) ?_ ?_ ?_ ?_
    rotate_left
    · intro claim hmem
      exact ⟨claim, hmem, .refl claim⟩
    · intro claim hmem
      exact Or.inl ⟨claim, hmem, rfl⟩
    · exact le_refl _
    · intro terminal hbefore
      cases hopen.symm.trans hbefore
    intro other completion hstored
    rcases hcompletions with hsame | ⟨-, hnone, _, hinserted⟩
    · rw [hsame]
      exact hstored
    · have hid : other ≠ id := by
        rintro rfl
        cases hnone.symm.trans hstored
      rw [hinserted, AList.lookup_insert_ne hid]
      exact hstored

theorem RenewMove.keeps (hmove : RenewMove s t id) (h : Sound env s) : Keeps s t := by
  cases hmove with
  | same hsame => exact hsame ▸ .refl s
  | renewed hlookup hfound hlive hchanged =>
    subst hchanged
    exact .withClaim h hlookup hfound hlive { ClaimGrows.refl _ with }

/-- A writer ends a release once. -/
theorem WriterFrame.keeps (hframe : WriterFrame s t id) (h : Sound env s) : Keeps s t := by
  refine .of_recoveries (fun other completion hstored => ?_) (fun _ _ _ => hframe.quarantined)
    hframe.recoveries
  by_cases hid : other = id
  · subst hid
    cases hframe.move with
    | same _ hsame | admitted hnew _ _ _ hsame | moved _ _ _ hsame _ => rw [hsame, hstored]
    | completed hbefore hlive _ =>
      have hsound := h.releases _ _ hbefore
      rcases hsound.completion completion hstored with ⟨_, _, hphase⟩ | ⟨terminal, hterminal, -⟩
      · cases hlive.symm.trans hphase
      · obtain ⟨_, _, hphase, -⟩ := hsound.terminal terminal hterminal
        cases hlive.symm.trans hphase
  · rw [hframe.completions other hid, hstored]

theorem keeps_of_step {event : ReleaseEvent} (h : Sound env s)
    (hstep : s.step env event = some t) : Keeps s t := by
  cases event with
  | queue call =>
    obtain ⟨queue, -, rfl⟩ := Option.map_eq_some_iff.mp hstep
    exact .of_recoveries (fun _ _ hcompletion => hcompletion) (fun _ _ _ hsame _ => hsame) rfl
  | shared rows | runs activeSlot runs =>
    cases hstep
    exact .of_recoveries (fun _ _ hcompletion => hcompletion) (fun _ _ _ hsame _ => hsame) rfl
  | writer lease call =>
    cases hstep
    exact (writerCall_frame env s lease call).keeps h
  | recovery key call =>
    cases hstep
    rcases recoveryCall_move h key call with ⟨_, _, hmove⟩ | hmove
    · exact hmove.keeps h
    · exact hmove.keeps h
  | review id fence operation observationDigest decision =>
    cases hstep
    exact (reviewObservation_move h id fence operation observationDigest decision).keeps h

theorem keeps_of_run {events : List ReleaseEvent} (h : Sound env s)
    (hrun : RunWhere (step env) Respects s events t) : Keeps s t :=
  hrun.relation (P := Sound env) (R := Keeps) Keeps.refl Keeps.trans
    (fun _ _ _ hsound hrespects hstep => hsound.step hrespects hstep)
    (fun _ _ _ hsound _ hstep => keeps_of_step hsound hstep) h

end Kept

/-! ## Decided releases -/

section Decisions

variable {env : DatabaseEnvironment} {s t : ReleaseState} {id : Uuid}
  {publication : ReleasePublication} {stage : Stage} {terminal : RecoveryTerminal}

variable {lease : ReleaseLease} {key : ClaimKey}

theorem finishBeforeRecovery_quarantined (response : Json)
    (hphase : publication.phase = .quarantined stage) :
    (s.finishBeforeRecovery env lease publication response).1 = s := by
  unfold finishBeforeRecovery
  simp only
  split
  · rfl
  · rename_i hlive
    cases hphase.symm.trans hlive
  · rfl

/-- A call without authority changes nothing, when admission, quarantine and finish do not. -/
theorem writerCall_unauthorized (hnone : s.authorized lease = none)
    (hgranted : ∀ ttl, (s.admitRelease lease ttl).1 = s)
    (hquarantine : ∀ safeError, (s.quarantineRelease lease safeError).1 = s)
    (hfinish : ∀ response, (s.finishRelease env lease response).1 = s) (call : WriterCall) :
    s.writerCall env lease call = s := by
  cases call with
  | admitRelease ttl => exact hgranted ttl
  | renew ttl =>
    simp only [writerCall, renewRelease, hnone]
    split <;> rfl
  | recordPrior prior => simp only [writerCall, recordPrior, hnone]
  | recordOverlay overlay call =>
    simp only [writerCall, recordOverlay, hnone]
    split <;> rfl
  | sealOverlay overlay call => simp only [writerCall, sealOverlay, hnone]
  | startOverlay overlay => simp only [writerCall, startOverlay, hnone]
  | observeOverlay overlay call => simp only [writerCall, observeOverlay, hnone, after]
  | beginExternalEffects => simp only [writerCall, beginExternalEffects, hnone]
  | quarantine safeError => exact hquarantine safeError
  | finish response => exact hfinish response

theorem admitRelease_again (ttl : Nat)
    (hlookup : s.publications.lookup lease.driverOperation = some publication) :
    (s.admitRelease lease ttl).1 = s := by
  simp only [admitRelease, hlookup]
  split
  · rfl
  split
  · split
    · split
      · rfl
      · split <;> rfl
    · rfl
  · rfl

/-- The writer of a release in quarantine changes nothing. -/
theorem writerCall_quarantined
    (hlookup : s.publications.lookup lease.driverOperation = some publication)
    (hphase : publication.phase = .quarantined stage) (call : WriterCall) :
    s.writerCall env lease call = s := by
  refine writerCall_unauthorized ?_ (fun ttl => admitRelease_again ttl hlookup) ?_ ?_ call
  · cases hauthorized : s.authorized lease with
    | none => rfl
    | some found =>
      obtain ⟨hfound, hlive⟩ := lookup_of_authorized hauthorized
      obtain rfl := Option.some.inj (hlookup.symm.trans hfound)
      rw [ReleasePublication.interrupted, hphase] at hlive
      cases hlive
  · intro safeError
    simp only [quarantineRelease, hlookup]
    split
    · rfl
    split
    · rename_i found _ hfound _
      obtain rfl := Option.some.inj hfound
      simp only [hphase]
      split <;> rfl
    · rfl
  · intro response
    simp only [finishRelease, hlookup]
    split
    · rfl
    · split
      · split <;> rfl
      · exact finishBeforeRecovery_quarantined response hphase

/-- Of the moves of a claimant only the one that changes nothing reaches a decided release. -/
theorem RecoveryMove.eq_of_decided (hmove : RecoveryMove env s t id)
    (hterminal : (s.recovery id).terminal = some terminal) : t = s := by
  cases hmove with
  | same hsame => exact hsame
  | grown _ _ _ hopen | interrupted _ hopen | claimed _ hopen | decided _ _ _ _ hopen =>
    cases hopen.symm.trans hterminal

theorem Sound.decided (h : Sound env s) (hterminal : (s.recovery id).terminal = some terminal) :
    ∃ publication stage claim, s.publications.lookup id = some publication ∧
      publication.phase = .quarantined stage ∧
      (s.recovery id).claim terminal.fence = some claim ∧
      ClaimSound env id publication.identity stage claim ∧
      TerminalSound env id publication.identity.fleetRun stage claim terminal := by
  cases hlookup : s.publications.lookup id with
  | none =>
    rw [(h.absent id hlookup).1] at hterminal
    cases hterminal
  | some publication =>
    have hrelease := h.releases _ _ hlookup
    obtain ⟨stage, claim, hphase, hhead, hdecided⟩ := hrelease.terminal terminal hterminal
    obtain ⟨rest, hclaims⟩ := List.head?_eq_some_iff.mp hhead
    obtain ⟨other, hother, hclaim⟩ := hrelease.claims claim (by rw [hclaims]; exact
      List.mem_cons_self)
    obtain rfl : other = stage := by
      rw [hphase] at hother
      cases hother
      rfl
    refine ⟨publication, other, claim, rfl, hphase, ?_, hclaim, hdecided⟩
    rw [RecoveryLedger.claim, hclaims, hdecided.fence, List.find?_cons_of_pos (by simp)]

/-- The call repeats the decision: it presents the claim that made it. -/
def Repeats (s : ReleaseState) (key : ClaimKey) (terminal : RecoveryTerminal) : Prop :=
  key.fence = terminal.fence ∧
    ∃ claim, (s.recovery key.driverOperation).claim key.fence = some claim ∧
      claim.presentedBy key = true

section

variable (h : Sound env s) (hterminal : (s.recovery key.driverOperation).terminal = some terminal)

include h hterminal

theorem ownTerminal_of_repeats (hrepeats : Repeats s key terminal) :
    s.ownTerminal env key = some terminal := by
  obtain ⟨publication, stage, claim, -, -, hfound, hclaim, hdecided⟩ := h.decided hterminal
  obtain ⟨hfence, held, hheld, hpresented⟩ := hrepeats
  obtain rfl : held = claim := by
    rw [hfence, hfound] at hheld
    exact (Option.some.inj hheld).symm
  simp only [RecoveryClaim.presentedBy, Bool.and_eq_true, decide_eq_true_eq] at hpresented
  obtain ⟨⟨⟨hattempt, hleaseOwner⟩, howner⟩, htoken⟩ := hpresented
  obtain ⟨resolution, hresolution, -⟩ := hdecided.resolution
  have hdigest := (hclaim.resolution resolution hresolution).token
  simp only [ownTerminal, hterminal, Option.filter_some, hfound, hresolution, Option.any_some,
    hdigest, hfence, hdecided.attempt, hattempt, hdecided.leaseOwner, hleaseOwner, hdecided.owner,
    howner, htoken, decide_true, Bool.and_self, if_true]

/-- A decision is never one that migration 0040 refuses. -/
theorem not_unsupported_of_decided (hfence : key.fence = terminal.fence) :
    ((s.lockClaim key).any fun found => found.2.resolution.any fun resolution =>
      unsupported resolution.kind resolution.evidence) = false := by
  obtain ⟨publication, stage, claim, -, -, hfound, hclaim, hdecided⟩ := h.decided hterminal
  obtain ⟨resolution, hresolution, -, hallowed⟩ := hdecided.allowed hclaim
  cases hlock : s.lockClaim key with
  | none => rfl
  | some found =>
    have hlocked := lockClaim_eq_some_iff.mp hlock
    obtain rfl := Option.some.inj (hfound.symm.trans (hfence ▸ hlocked.found))
    rw [Option.any_some, hresolution, Option.any_some]
    unfold KindAllowed at hallowed
    cases hkind : resolution.kind with
    | candidate | inconclusive => rfl
    | prior =>
      simp only [hkind] at hallowed
      simp only [unsupported, hallowed.1, Bool.not_true]
    | unstarted => simp only [hkind] at hallowed

/-- The same decision again is answered with the stored response. -/
theorem finishWithoutReview_repeated (hrepeats : Repeats s key terminal) :
    s.finishWithoutReview env key terminal.kind terminal.decisionDigest =
      .ok (s, .replay, some terminal.response) := by
  rw [finishWithoutReview, not_unsupported_of_decided h hterminal hrepeats.1]
  simp only [Bool.false_eq_true, if_false, finishUnsafe,
    ownTerminal_of_repeats h hterminal hrepeats, and_self, if_true]

end

/-- What calls about a decided release do. -/
structure Decided (env : DatabaseEnvironment) (s : ReleaseState) (id : Uuid)
    (terminal : RecoveryTerminal) : Prop where
  /-- A claimant changes nothing, unless it renews its claim. -/
  claimants : ∀ key call, key.driverOperation = id → (∀ ttl, call ≠ .renew ttl) →
    s.recoveryCall env key call = s
  /-- A renewal moves the end of the live claim, and nothing else. -/
  renewals : ∀ key ttl, key.driverOperation = id → s.recoveryCall env key (.renew ttl) = s ∨
      ∃ fence claim expiresAt, (s.recovery id).claim fence = some claim ∧
        claim.live s.now = true ∧ s.recoveryCall env key (.renew ttl) =
          s.withClaim id fence fun claim => { claim with expiresAt := expiresAt }
  reviews : ∀ fence operation observationDigest decision,
    (s.reviewObservation env id fence operation observationDigest decision).1 = s
  writers : ∀ lease call, lease.driverOperation = id → s.writerCall env lease call = s
  /-- The same finish is answered with the stored response. -/
  repeated : ∀ key, key.driverOperation = id → Repeats s key terminal →
    (terminal.kind = .candidate →
      s.finishReviewed env key = .ok (s, .replay, some terminal.response)) ∧
    (terminal.kind ≠ .candidate →
      s.finishInterrupted env key terminal.kind terminal.decisionDigest =
        .ok (s, .replay, some terminal.response))

/-- The candidate of a release was accepted on the evidence of one fence. -/
def CandidateAccepted (env : DatabaseEnvironment) (s : ReleaseState) (id : Uuid)
    (terminal : RecoveryTerminal) : Prop :=
  ∃ publication stage claim observation resolution review,
    s.publications.lookup id = some publication ∧ publication.phase = .quarantined stage ∧
      stage.effectsStarted = true ∧ (s.recovery id).claim terminal.fence = some claim ∧
      claim.observation = some observation ∧
      claim.resolution = some resolution ∧ resolution.kind = .candidate ∧
      resolution.candidateResponse = some observation.completionResponse ∧
      claim.review = some review ∧ review.decision = .acceptCandidate ∧
      review.observationDigest = observation.digest ∧
      review.resolutionDigest =
        candidateDigest env id publication.identity.fleetRun terminal.fence resolution ∧
      terminal.response = observation.completionResponse

theorem acceptingReview_some {fleetRun : Uuid} {claim : RecoveryClaim} {review : ReleaseReview}
    (h : acceptingReview env id fleetRun claim = some review) :
    ∃ observation resolution, claim.review = some review ∧ claim.observation = some observation ∧
      claim.resolution = some resolution ∧ review.observationDigest = observation.digest ∧
      review.decision = .acceptCandidate ∧ resolution.kind = .candidate ∧
      resolution.candidateResponse = some observation.completionResponse ∧
      review.resolutionDigest = candidateDigest env id fleetRun claim.fence resolution := by
  unfold acceptingReview at h
  split at h
  · rename_i recorded observation resolution hreview hobservation hresolution
    split at h
    · rename_i hchecks
      cases h
      exact ⟨observation, resolution, hreview, hobservation, hresolution, hchecks⟩
    · cases h
  · cases h

theorem Stage.effectsStarted_of_awaiting (h : stage.isAwaitingWorkerFinalize = true) :
    stage.effectsStarted = true := by
  cases stage <;> first | rfl | cases h

section

variable (h : Sound env s)

include h

theorem Sound.candidateAccepted (hterminal : (s.recovery id).terminal = some terminal)
    (hkind : terminal.kind = .candidate) : CandidateAccepted env s id terminal := by
  obtain ⟨publication, stage, claim, hlookup, hphase, hfound, -, hdecided⟩ := h.decided hterminal
  obtain ⟨hawaiting, haccepted⟩ := hdecided.accepted hkind
  obtain ⟨review, hreview⟩ := Option.isSome_iff_exists.mp haccepted
  obtain ⟨observation, resolution, hrecorded, hobservation, hresolution, hdigest, hdecision,
    hcandidate, hresponse, hresolved⟩ := acceptingReview_some hreview
  obtain ⟨stored, hstored, -, hanswer⟩ := hdecided.resolution
  obtain rfl := Option.some.inj (hresolution.symm.trans hstored)
  refine ⟨publication, stage, claim, observation, resolution, review, hlookup, hphase,
    Stage.effectsStarted_of_awaiting hawaiting, hfound, hobservation, hresolution, hcandidate,
    hresponse, hrecorded, hdecision, hdigest, ?_, ?_⟩
  · rw [hdecided.fence]
    exact hresolved
  · exact Option.some.inj ((hanswer hkind).1.symm.trans hresponse)

/-- A release that recovery has decided was not completed by its writer, and a completion is
stored only with an accepted candidate. -/
theorem Sound.not_completed (hterminal : (s.recovery id).terminal = some terminal) :
    (∀ publication maintenance candidate, s.publications.lookup id = some publication →
      publication.phase ≠ .completed maintenance candidate) ∧
    ∀ completion, s.completions.lookup id = some completion → terminal.kind = .candidate := by
  obtain ⟨publication, stage, claim, hlookup, hphase, -⟩ := h.decided hterminal
  constructor
  · intro found maintenance candidate hfound hcompleted
    cases hlookup.symm.trans hfound
    cases hphase.symm.trans hcompleted
  · intro completion hcompletion
    rcases (h.releases _ _ hlookup).completion completion hcompletion with
      ⟨_, _, hcompleted⟩ | ⟨other, hother, hkind⟩
    · cases hphase.symm.trans hcompleted
    · cases hterminal.symm.trans hother
      exact hkind

theorem Sound.finishReviewed_repeated
    (hterminal : (s.recovery key.driverOperation).terminal = some terminal)
    (hkind : terminal.kind = .candidate) (hrepeats : Repeats s key terminal) :
    s.finishReviewed env key = .ok (s, .replay, some terminal.response) := by
  obtain ⟨publication, stage, claim, hlookup, -, hfound, -, hdecided⟩ := h.decided hterminal
  obtain ⟨-, haccepted⟩ := hdecided.accepted hkind
  obtain ⟨review, hreview⟩ := Option.isSome_iff_exists.mp haccepted
  obtain ⟨observation, resolution, -, -, hresolution, -, -, -, -, hresolved⟩ :=
    acceptingReview_some hreview
  obtain ⟨stored, hstored, -, hanswer⟩ := hdecided.resolution
  obtain rfl := Option.some.inj (hresolution.symm.trans hstored)
  rw [← hrepeats.1] at hfound
  have hanswered := finishWithoutReview_repeated h hterminal hrepeats
  rw [hkind, (hanswer hkind).2, ← hresolved] at hanswered
  simp only [finishReviewed, hlookup, hfound, hreview, hanswered]

theorem Sound.decided_calls (hterminal : (s.recovery id).terminal = some terminal) :
    Decided env s id terminal where
  claimants key call hid hrenew := by
    subst hid
    rcases recoveryCall_move h key call with ⟨ttl, hcall, -⟩ | hmove
    · exact absurd hcall (hrenew ttl)
    · exact hmove.eq_of_decided hterminal
  renewals key ttl hid := by
    subst hid
    have hmove : RenewMove s (s.recoveryCall env key (.renew ttl)) key.driverOperation :=
      renewClaim_move ttl
    cases hmove with
    | same hsame => exact Or.inl hsame
    | renewed _ hfound hlive hchanged => exact Or.inr ⟨_, _, _, hfound, hlive, hchanged⟩
  reviews fence operation observationDigest decision :=
    (reviewObservation_move h id fence operation observationDigest decision).eq_of_decided hterminal
  writers lease call hid := by
    subst hid
    obtain ⟨publication, stage, -, hlookup, hphase, -⟩ := h.decided hterminal
    exact writerCall_quarantined hlookup hphase call
  repeated key hid hrepeats := by
    subst hid
    refine ⟨fun hkind => h.finishReviewed_repeated hterminal hkind hrepeats, fun hkind => ?_⟩
    rw [finishInterrupted, if_neg hkind]
    exact finishWithoutReview_repeated h hterminal hrepeats

theorem Sound.live_length_le (id : Uuid) :
    ((s.recovery id).claims.filter fun claim => claim.live s.now).length ≤ 1 := by
  cases hlookup : s.publications.lookup id with
  | none =>
    rw [(h.absent id hlookup).1]
    exact Nat.zero_le 1
  | some publication =>
    have hexpired := (h.releases _ _ hlookup).expired
    cases hclaims : (s.recovery id).claims with
    | nil => exact Nat.zero_le 1
    | cons newest rest =>
      rw [hclaims, List.tail_cons] at hexpired
      have hrest : rest.filter (fun claim => claim.live s.now) = [] := by
        rw [List.filter_eq_nil_iff]
        intro claim hmem
        simp only [hexpired claim hmem, Bool.false_eq_true, not_false_eq_true]
      rw [List.filter_cons, hrest]
      split
      · exact le_refl 1
      · exact Nat.zero_le 1

theorem Sound.fences_ordered (id : Uuid) :
    (s.recovery id).claims.Pairwise fun newer older => older.fence < newer.fence := by
  cases hlookup : s.publications.lookup id with
  | none =>
    rw [(h.absent id hlookup).1]
    exact List.Pairwise.nil
  | some publication => exact (h.releases _ _ hlookup).ordered

end

end Decisions

/-- **Recovery decides a release at most once.** In every state that a run reaches, the
claims of a release have decreasing fences and one of them at most is live. From there on,
what is recorded under a fence, a decision and a completion stay as they are, and new claims
have larger fences. A decided release was not completed by its writer; it answers the same
finish with the stored response, and every other call leaves it, except that the live claim
may be renewed. The candidate is accepted only on an observation, a resolution with its
response and an accepting review of both, all under the fence of the decision. -/
theorem recovery_decides_once (env : DatabaseEnvironment) {start s t : ReleaseState}
    {before after : List ReleaseEvent} (hstart : Initial start)
    (hbefore : RunWhere (step env) Respects start before s)
    (hafter : RunWhere (step env) Respects s after t) :
    Keeps s t ∧ ∀ id,
      (s.recovery id).claims.Pairwise (fun newer older => older.fence < newer.fence) ∧
      ((s.recovery id).claims.filter fun claim => claim.live s.now).length ≤ 1 ∧
      ∀ terminal, (s.recovery id).terminal = some terminal → Decided env s id terminal ∧
          (terminal.kind = .candidate → CandidateAccepted env s id terminal) ∧
          (∀ publication maintenance candidate, s.publications.lookup id = some publication →
            publication.phase ≠ .completed maintenance candidate) ∧
          ∀ completion, s.completions.lookup id = some completion →
            terminal.kind = .candidate := by
  have hsound := hstart.run_sound hbefore
  exact ⟨keeps_of_run hsound hafter, fun id => ⟨hsound.fences_ordered id,
    hsound.live_length_le id, fun terminal hterminal =>
      ⟨hsound.decided_calls hterminal, hsound.candidateAccepted hterminal,
        hsound.not_completed hterminal⟩⟩⟩

/-! ## A release that was not applied -/

/-- The startup whose generation is selected before the release. -/
def startupRun : Uuid := 0x00000000000040008000000000000009

def startupRoutes : PriorRoutes where
  selector := "generations/startup-" ++ startupRun.toText
  directory := ⟨1, 2⟩
  loadedIdentity := some (.object [("effect_run_id", .string startupRun.toText),
    ("sealed_digest", .string ("sha256:" ++ zeroDigest))])

/-- A second attempt of the operation claims the release. -/
def sampleKey : ClaimKey := ⟨sampleOperation, 2, "worker-b", 40, 41, 1⟩

def startupEvidence : Json := .object [
  ("protocol_version", .number 1),
  ("driver_operation_id", .string sampleOperation.toText),
  ("fleet_run_id", .string sampleRun.toText),
  ("claim_fence", .number 1),
  ("resolution_kind", .string "prior"),
  ("observed_selector", .string startupRoutes.selector),
  ("observed_directory_device", .number 1),
  ("observed_directory_inode", .number 2),
  ("observed_loaded_identity", startupRoutes.loadedIdentity.getD .null),
  ("maintenance_artifact", .null),
  ("candidate_artifact", .null)]

/-- The driver goes away after it has recorded the prior, and the second attempt decides that
the release was not applied. Then it renews its lease. -/
def notAppliedEvents : List ReleaseEvent := [
  .writer sampleLease (.admitRelease 60),
  .writer sampleLease (.recordPrior startupRoutes),
  .queue (.advance (seconds 61)),
  .queue (.lease .releaseAdoption "worker-b" fun _ => false),
  .recovery sampleKey (.claim 60),
  .recovery sampleKey (.authorize (.disposeOverlay (some .maintenance) none)),
  .recovery sampleKey (.resolve .prior startupEvidence none),
  .recovery sampleKey (.finish .prior
    (recoveryDecisionDigest zeroHash sampleOperation sampleRun 1 .prior
      startupEvidence
      none)),
  .queue (.advance (seconds 10)),
  .queue (.renewLease (sampleAdoption.handle 3 "worker-b"))]

/-- The ends of the claims on the sample release. -/
def claimEnds (s : ReleaseState) : List Timestamp :=
  (s.recovery sampleOperation).claims.map RecoveryClaim.expiresAt

theorem notAppliedEvents_decided :
    (replay (step zeroHash) beforeRelease notAppliedEvents).any (fun s =>
      (s.recovery sampleOperation).terminal.isSome && decide (claimEnds s = [seconds 121]) &&
        decide (claimEnds (s.recoveryCall zeroHash sampleKey (.renew 60)) =
          [seconds 131])) = true := by
  decide +kernel

theorem beforeRelease_initial : Initial beforeRelease where
  publications := rfl
  completions := rfl
  recoveries := rfl
  snapshots := by
    intro id snapshot hlookup owner hmem
    by_cases hid : id = sampleOperation
    · subst hid
      cases hlookup
      simp only [List.mem_singleton] at hmem
      subst hmem
      exact le_refl 1
    · rw [beforeRelease, AList.lookup_insert_ne hid] at hlookup
      cases hlookup

theorem exists_notApplied : ∃ s terminal,
    RunWhere (step zeroHash) Respects beforeRelease notAppliedEvents s ∧
      (s.recovery sampleOperation).terminal = some terminal ∧ claimEnds s = [seconds 121] ∧
      claimEnds (s.recoveryCall zeroHash sampleKey (.renew 60)) =
        [seconds 131] := by
  obtain ⟨s, hreplay, hchecks⟩ := (Option.any_eq_true _ _).mp notAppliedEvents_decided
  simp only [Bool.and_eq_true, decide_eq_true_eq] at hchecks
  obtain ⟨⟨hdecided, hends⟩, hrenewed⟩ := hchecks
  obtain ⟨terminal, hterminal⟩ := Option.isSome_iff_exists.mp hdecided
  refine ⟨s, terminal, runWhere_of_replay ?_ hreplay, hterminal, hends, hrenewed⟩
  intro event hmem state
  simp only [notAppliedEvents, List.mem_cons, List.not_mem_nil, or_false] at hmem
  rcases hmem with rfl | rfl | rfl | rfl | rfl | rfl | rfl | rfl | rfl | rfl <;> trivial

/-- A claim is renewed after the release was decided. -/
theorem renewal_after_decision : ∃ s terminal, Initial beforeRelease ∧
    RunWhere (step zeroHash) Respects beforeRelease notAppliedEvents s ∧
    (s.recovery sampleOperation).terminal = some terminal ∧
    s.recoveryCall zeroHash sampleKey (.renew 60) ≠ s := by
  obtain ⟨s, terminal, hrun, hterminal, hends, hrenewed⟩ := exists_notApplied
  refine ⟨s, terminal, beforeRelease_initial, hrun, hterminal, fun hsame => ?_⟩
  rw [hsame, hends] at hrenewed
  exact absurd hrenewed (by decide)

end ControlPlane.Releases
