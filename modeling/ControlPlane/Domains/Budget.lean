/-
# The budget of a deletion

How often the deletion function lets the provider be asked and told, over any run of the
ledger: by any number of operations and attempts, under changing leases, while the domain
is bound to one operation after another.

The row only remembers the last attempt that was given a delete. That no attempt gets a
second one rests on the bindings: a domain is only ever bound to an operation that is new,
so an operation it has left does not come back, and the attempts of one operation only go
up. An attempt that is not the last one any more is superseded for good.
-/

import ControlPlane.Domains.Ledger
import Mathlib.Tactic.Common

namespace ControlPlane.Domains

open Domain Math Persistence

/-- How often a decision was taken for a domain and reference. -/
def tally (decisions : List DecisionEntry) (key : Uuid × String) (decision : Decision) : Nat :=
  decisions.countP fun entry => decide (entry.key = key ∧ entry.decision = decision)

theorem tally_append (decisions : List DecisionEntry) (entry : DecisionEntry)
    (key : Uuid × String) (decision : Decision) :
    tally (decisions ++ [entry]) key decision = tally decisions key decision +
        if entry.key = key ∧ entry.decision = decision then 1 else 0 := by
  rw [tally, List.countP_append, List.countP_singleton, tally]
  simp only [decide_eq_true_eq]

variable {decisions : List DecisionEntry} {decision : Decision} {columns : DeletionColumns}
  {row : DeletionRow} {event : LedgerEvent} {s t : DomainLedger} {call : AdvanceCall}

variable {key : Uuid × String}

theorem tally_eq_zero (h : ∀ entry ∈ decisions, entry.key ≠ key) :
    tally decisions key decision = 0 := by
  rw [tally, List.countP_eq_zero]
  intro entry hmem
  simp [h entry hmem]

/-! ## One row and its counts -/

/-- The columns agree with how often each decision was taken. -/
structure Counted (columns : DeletionColumns) (count : Decision → Nat) : Prop where
  dispatched : columns.dispatchCount = count .dispatched
  present : count (.observed .present) ≤ 8
  absent : count (.observed .absent) ≤ 1
  unconfirmed : columns.state ≠ .absenceConfirmed →
    columns.observationCount = count (.observed .present) ∧ count (.observed .absent) = 0
  confirmed : columns.state = .absenceConfirmed → columns.lastObservation = some .absent

/-- One more decision of a kind. -/
def countOne (count : Decision → Nat) (taken decision : Decision) : Nat :=
  count decision + if taken = decision then 1 else 0

/-- The check of the table keeps a confirmed absence: only spending the budget would
overwrite the state, and that row is refused. -/
theorem not_confirmed_of_exhausted {count : Decision → Nat} (hcounted : Counted columns count)
    (hrow : row.toDeletionColumns = columns.exhausted) : columns.state ≠ .absenceConfirmed := by
  intro hconfirmed
  have hlast : row.lastObservation = some .absent := by
    rw [hrow]
    exact hcounted.confirmed hconfirmed
  have hstate := (row.absent_iff hlast).mpr rfl
  rw [hrow] at hstate
  cases hstate

/-- Every action keeps the counts in step with the columns, provided the table accepts
the new row. -/
theorem Counted.acts {count : Decision → Nat} (hcounted : Counted columns count)
    (hacts : columns.Acts row.toDeletionColumns decision) :
    Counted row.toDeletionColumns (countOne count decision) := by
  have hbounds := row.bounds
  generalize hcolumns : row.toDeletionColumns = after at hacts hbounds ⊢
  cases hacts with
  | unchanged =>
    obtain ⟨hdispatched, hpresent, habsent, hunconfirmed, hconfirmed⟩ := hcounted
    exact ⟨hdispatched, hpresent, habsent, hunconfirmed, hconfirmed⟩
  | exhausted =>
    have hopen := not_confirmed_of_exhausted hcounted hcolumns
    obtain ⟨hdispatched, hpresent, habsent, hunconfirmed, -⟩ := hcounted
    exact ⟨hdispatched, hpresent, habsent, fun _ => hunconfirmed hopen, nofun⟩
  | present hopen hbudget =>
    obtain ⟨hcount, habsent⟩ := hcounted.unconfirmed hopen
    refine ⟨hcounted.dispatched, ?_, hcounted.absent, fun _ => ⟨?_, habsent⟩, ?_⟩
    · simp only [countOne, if_true]
      omega
    · simp only [countOne, if_true, DeletionColumns.seenPresent]
      omega
    · intro hstate
      simp only [DeletionColumns.seenPresent] at hstate
      split at hstate <;> cases hstate
  | absent hopen =>
    obtain ⟨hcount, habsent⟩ := hcounted.unconfirmed hopen
    refine ⟨hcounted.dispatched, hcounted.present, ?_, fun hnot => absurd rfl hnot, fun _ => rfl⟩
    simp only [countOne, if_true]
    omega
  | dispatched hbudget hmay =>
    have hstate := (DeletionColumns.of_mayDispatch hmay).1
    have hopen : columns.state ≠ .absenceConfirmed := by
      rw [hstate]
      decide
    refine ⟨?_, hcounted.present, hcounted.absent, fun _ => hcounted.unconfirmed hopen, nofun⟩
    simp only [countOne, if_true, DeletionColumns.dispatched, hcounted.dispatched]

theorem Counted.confirmed_acts {count : Decision → Nat} (hcounted : Counted columns count)
    (hconfirmed : columns.state = .absenceConfirmed)
    (hacts : columns.Acts row.toDeletionColumns decision) : row.state = .absenceConfirmed := by
  generalize hcolumns : row.toDeletionColumns = after at hacts ⊢
  cases hacts with
  | unchanged => exact hconfirmed
  | exhausted => exact absurd hconfirmed (not_confirmed_of_exhausted hcounted hcolumns)
  | present hopen hbudget => exact absurd hconfirmed hopen
  | absent hopen => rfl
  | dispatched hbudget hmay =>
    have hstate := (DeletionColumns.of_mayDispatch hmay).1
    rw [hconfirmed] at hstate
    cases hstate

/-! ## Attempts that have been left behind -/

/-- Nobody acts as this attempt for the domain any more: the domain has been bound to
another operation, or the operation has gone on to a later attempt. -/
def Superseded (s : DomainLedger) (domain : Uuid) (marker : AttemptMarker) : Prop :=
  (∃ row, s.domains.lookup domain = some row ∧ row.operationId ≠ some marker.operation) ∨
    ∃ row, s.queue.operations.lookup marker.operation = some row ∧ marker.attempt < row.attempt

/-- The operation exists and has got as far as this attempt. -/
def Reached (s : DomainLedger) (marker : AttemptMarker) : Prop :=
  ∃ row, s.queue.operations.lookup marker.operation = some row ∧ marker.attempt ≤ row.attempt

theorem RowMove.operationId {new : Uuid → Prop} {domain : Uuid} {before after : Option DomainRow}
    (h : RowMove new event domain before after) {row : DomainRow} (hbefore : before = some row) :
    ∃ row', after = some row' ∧ (row'.operationId = row.operationId ∨
        ∃ operation, new operation ∧ row'.operationId = some operation) := by
  cases h with
  | missing | claimed => cases hbefore
  | kept same =>
    cases hbefore
    exact ⟨_, rfl, Or.inl same.operationId⟩
  | bound fresh operationId desired providerRef state =>
    cases hbefore
    exact ⟨_, rfl, Or.inr ⟨_, fresh, operationId⟩⟩
  | closed fresh called =>
    cases hbefore
    exact ⟨_, rfl, Or.inr ⟨_, fresh, rfl⟩⟩
  | observed wanted | finalized unwanted current called =>
    cases hbefore
    exact ⟨_, rfl, Or.inl rfl⟩
  | moved operationId desired providerRef state =>
    cases hbefore
    exact ⟨_, rfl, Or.inl operationId⟩

section Step

variable {s t : DomainLedger} {event : LedgerEvent}

variable {marker : AttemptMarker}

theorem Reached.step (heffect : LedgerEffect s event t) (h : Reached s marker) :
    Reached t marker := by
  obtain ⟨row, hrow, hle⟩ := h
  obtain ⟨later, hlater, hle'⟩ := heffect.operations _ _ hrow
  exact ⟨later, hlater, hle.trans hle'.attempt⟩

/-- An attempt that was left behind stays behind: a domain is only bound to operations
that did not exist before. -/
theorem Superseded.step (heffect : LedgerEffect s event t) {domain : Uuid}
    (hreached : Reached s marker) (h : Superseded s domain marker) :
    Superseded t domain marker := by
  rcases h with ⟨row, hrow, hother⟩ | ⟨row, hrow, hlt⟩
  · obtain ⟨row', hrow', hbinding⟩ := (heffect.rows domain).operationId hrow
    refine Or.inl ⟨row', hrow', ?_⟩
    rcases hbinding with hsame | ⟨operation, ⟨hnew, -⟩, hoperation⟩
    · rw [hsame]
      exact hother
    · rw [hoperation]
      rintro heq
      obtain ⟨existing, hexisting, -⟩ := hreached
      rw [← Option.some.inj heq, hnew] at hexisting
      cases hexisting
  · obtain ⟨later, hlater, hle⟩ := heffect.operations _ _ hrow
    exact Or.inr ⟨later, hlater, hlt.trans_le hle.attempt⟩

end Step

section

variable (h : Advanced s.queue.now s.queue.operations s.domains s.deletions call row decision)

include h

/-- The rows a call that returns has found: the operation at the caller's attempt, and
the domain bound to it. -/
theorem Advanced.current :
    (∃ operation, s.queue.operations.lookup call.operationId = some operation ∧
      operation.attempt = call.attempt) ∧
      ∃ domain, s.domains.lookup call.domainId = some domain ∧
        domain.operationId = some call.operationId := by
  obtain ⟨operation, hoperation, hheld⟩ := (Option.any_eq_true _ _).mp h.leased
  obtain ⟨domain, hdomain, hbound⟩ := (Option.any_eq_true _ _).mp h.authorized
  simp only [Bool.and_eq_true, decide_eq_true_eq] at hheld hbound
  obtain ⟨lease, -, -, hattempt, -⟩ := OperationRow.heldBy_iff.mp hheld.2
  exact ⟨⟨operation, hoperation, hattempt⟩, domain, hdomain, hbound.1.1.1.1.2⟩

theorem Advanced.not_superseded : ¬ Superseded s call.domainId call.marker := by
  obtain ⟨⟨operation, hoperation, hattempt⟩, domain, hdomain, hbound⟩ := h.current
  rintro (⟨other, hother, hne⟩ | ⟨other, hother, hlt⟩)
  · rw [hdomain] at hother
    cases hother
    exact hne hbound
  · rw [show call.marker.operation = call.operationId from rfl, hoperation] at hother
    cases hother
    exact absurd hlt (by rw [hattempt]; exact lt_irrefl _)

/-- While a call is made, every other attempt that got anywhere has been left behind. -/
theorem Advanced.superseded {marker : AttemptMarker} (hreached : Reached s marker)
    (hne : marker ≠ call.marker) : Superseded s call.domainId marker := by
  obtain ⟨⟨operation, hoperation, hattempt⟩, domain, hdomain, hbound⟩ := h.current
  by_cases hsame : marker.operation = call.operationId
  · obtain ⟨existing, hexisting, hle⟩ := hreached
    refine Or.inr ⟨existing, hexisting, lt_of_le_of_ne hle ?_⟩
    rw [hsame, hoperation] at hexisting
    cases hexisting
    rintro heq
    refine hne ?_
    rw [hattempt] at heq
    cases marker
    cases hsame
    cases heq
    rfl
  · refine Or.inl ⟨domain, hdomain, ?_⟩
    rw [hbound]
    exact fun heq => hsame (Option.some.inj heq).symm

end

/-! ## The log and the rows -/

/-- The columns of a deletion agree with the log. `superseded` says which attempts have
been left behind. -/
structure Logged (decisions : List DecisionEntry) (superseded : AttemptMarker → Prop)
    (key : Uuid × String) (columns : DeletionColumns) : Prop where
  counted : Counted columns (tally decisions key)
  observed : ∀ observation marker, columns.lastObservation = some observation →
    columns.observedBy = some marker → ⟨key, marker, .observed observation⟩ ∈ decisions
  last : ∀ marker, ⟨key, marker, .dispatched⟩ ∈ decisions →
    columns.dispatchedBy = some marker ∨ superseded marker

/-- The whole log agrees with the rows, no attempt was given two deletes, and every delete
follows a present observation by the same attempt. -/
structure Accounted (s : DomainLedger) : Prop where
  reached : ∀ entry ∈ s.decisions, Reached s entry.marker
  rows : ∀ key row, s.deletions.lookup key = some row →
    Logged s.decisions (Superseded s key.1) key row.toDeletionColumns
  unopened : ∀ key, s.deletions.lookup key = none → ∀ entry ∈ s.decisions, entry.key ≠ key
  once : s.decisions.Pairwise fun first second => first.decision = .dispatched →
    second.decision = .dispatched → first.key = second.key → first.marker ≠ second.marker
  preceded : ∀ earlier entry later, s.decisions = earlier ++ entry :: later →
    entry.decision = .dispatched →
    ⟨entry.key, entry.marker, .observed .present⟩ ∈ earlier

theorem Logged.other {superseded : AttemptMarker → Prop}
    (h : Logged decisions superseded key columns) {entry : DecisionEntry} (hkey : entry.key ≠ key) :
    Logged (decisions ++ [entry]) superseded key columns := by
  have htally : tally (decisions ++ [entry]) key = tally decisions key := by
    funext decision
    rw [tally_append, if_neg (fun hboth => hkey hboth.1), Nat.add_zero]
  refine ⟨by rw [htally]; exact h.counted, ?_, ?_⟩
  · intro observation marker hlast hby
    exact List.mem_append_left _ (h.observed observation marker hlast hby)
  intro marker hmem
  rcases List.mem_append.mp hmem with hold | hnew
  · exact h.last marker hold
  · rw [List.mem_singleton] at hnew
    rw [← hnew] at hkey
    exact absurd rfl hkey

theorem tally_countOne (decisions : List DecisionEntry) (key : Uuid × String)
    (marker : AttemptMarker) (decision : Decision) :
    tally (decisions ++ [⟨key, marker, decision⟩]) key =
      countOne (tally decisions key) decision := by
  funext other
  rw [tally_append, countOne]
  simp

theorem Logged.acts {superseded : AttemptMarker → Prop}
    (h : Logged decisions superseded key columns)
    (hacts : columns.Acts row.toDeletionColumns decision)
    (hothers : ∀ entry ∈ decisions, entry.marker ≠ columns.marker → superseded entry.marker) :
    Logged (decisions ++ [⟨key, columns.marker, decision⟩]) superseded key
      row.toDeletionColumns := by
  refine ⟨?_, ?_, ?_⟩
  · rw [tally_countOne]
    exact h.counted.acts hacts
  · intro observation marker hlast hby
    generalize row.toDeletionColumns = after at hacts hlast hby
    cases hacts with
    | unchanged | exhausted | dispatched =>
      exact List.mem_append_left _ (h.observed observation marker hlast hby)
    | present | absent =>
      cases hlast
      cases hby
      exact List.mem_append_right _ (List.mem_singleton_self _)
  · intro marker hmem
    generalize row.toDeletionColumns = after at hacts
    rcases List.mem_append.mp hmem with hold | hnew
    · cases hacts with
      | unchanged | exhausted | present | absent => exact h.last marker hold
      | dispatched budget may =>
        by_cases hsame : marker = columns.marker
        · exact Or.inl (congrArg some hsame.symm)
        · exact Or.inr (hothers _ hold hsame)
    · rw [List.mem_singleton] at hnew
      cases hnew
      cases hacts
      exact Or.inl rfl

theorem Accounted.claimed (h : Accounted s) (hclaim : call.claim s.deletions = .ok columns) :
    Logged s.decisions (Superseded s call.domainId) call.key columns := by
  obtain ⟨-, ⟨hnone, rfl⟩ | ⟨row, hrow, rfl⟩⟩ := AdvanceCall.claim_ok hclaim
  · have hzero : ∀ decision, tally s.decisions call.key decision = 0 :=
      fun decision => tally_eq_zero (h.unopened _ hnone)
    refine ⟨⟨(hzero _).symm, by rw [hzero]; omega, by rw [hzero]; omega,
      fun _ => ⟨(hzero _).symm, hzero _⟩, nofun⟩, nofun, ?_⟩
    intro marker hmem
    exact absurd rfl (h.unopened _ hnone _ hmem)
  · obtain ⟨⟨hdispatched, hpresent, habsent, hunconfirmed, hconfirmed⟩, hobserved, hlast⟩ :=
      h.rows _ _ hrow
    exact ⟨⟨hdispatched, hpresent, habsent, hunconfirmed, hconfirmed⟩, hobserved, hlast⟩

theorem append_singleton_split {α : Type*} {old earlier later : List α} {new entry : α}
    (h : old ++ [new] = earlier ++ entry :: later) :
    earlier = old ∧ entry = new ∨ ∃ rest, old = earlier ++ entry :: rest := by
  rcases List.eq_nil_or_concat later with rfl | ⟨rest, last, rfl⟩
  · obtain ⟨hold, hnew⟩ := List.append_inj' h rfl
    cases hnew
    exact Or.inl ⟨hold.symm, rfl⟩
  · have hassoc : earlier ++ entry :: rest.concat last = (earlier ++ entry :: rest) ++ [last] := by
      simp
    rw [hassoc] at h
    exact Or.inr ⟨rest, (List.append_inj' h rfl).1⟩

theorem Accounted.advance (h : Accounted s)
    (hadvanced : Advanced s.queue.now s.queue.operations s.domains s.deletions call row decision)
    (hqueue : t.queue = s.queue) (hdomains : t.domains = s.domains)
    (hdeletions : t.deletions = s.deletions.insert call.key row)
    (hdecisions : t.decisions = s.decisions ++ [⟨call.key, call.marker, decision⟩]) :
    Accounted t := by
  have hsuperseded : Superseded t = Superseded s := by
    unfold Superseded
    rw [hqueue, hdomains]
  have hreachedEq : Reached t = Reached s := by
    unfold Reached
    rw [hqueue]
  obtain ⟨columns, hclaim, hrow, hdecision⟩ := hadvanced.acted
  have hmarker := (AdvanceCall.claim_ok hclaim).1
  have hlogged := h.claimed hclaim
  have hacts : columns.Acts row.toDeletionColumns decision := by
    rw [hrow, hdecision]
    exact columns.acts call.action
  have hmay : decision = .dispatched → columns.mayDispatch = true := by
    intro heq
    generalize row.toDeletionColumns = after at hacts
    subst heq
    cases hacts with
    | dispatched budget may => exact may
  constructor
  · rw [hdecisions, hreachedEq]
    intro entry hmem
    rcases List.mem_append.mp hmem with hold | hnew
    · exact h.reached entry hold
    · rw [List.mem_singleton] at hnew
      subst hnew
      obtain ⟨⟨operation, hoperation, hattempt⟩, -⟩ := hadvanced.current
      exact ⟨operation, hoperation, hattempt.ge⟩
  · intro key row' hrow'
    rw [hdecisions, hsuperseded]
    rw [hdeletions] at hrow'
    rcases Table.lookup_insert_cases hrow' with ⟨rfl, rfl⟩ | ⟨hne, hold⟩
    · have hall := hlogged.acts hacts fun entry hmem hne =>
        hadvanced.superseded (h.reached entry hmem) (hmarker ▸ hne)
      rw [hmarker] at hall
      exact hall
    · exact (h.rows key row' hold).other (Ne.symm hne)
  · intro key hnone entry hmem
    rw [hdeletions] at hnone
    have hne : key ≠ call.key := by
      rintro rfl
      rw [AList.lookup_insert] at hnone
      cases hnone
    rw [AList.lookup_insert_ne hne] at hnone
    rw [hdecisions] at hmem
    rcases List.mem_append.mp hmem with hold | hnew
    · exact h.unopened key hnone entry hold
    · rw [List.mem_singleton] at hnew
      subst hnew
      exact Ne.symm hne
  · rw [hdecisions, List.pairwise_append]
    refine ⟨h.once, List.pairwise_singleton _ _, ?_⟩
    intro old hold new hnew holdDispatched hnewDispatched hkey hsame
    rw [List.mem_singleton] at hnew
    subst hnew
    have hnotSelf := (DeletionColumns.of_mayDispatch (hmay hnewDispatched)).2.2.2
    have hentry : ⟨call.key, call.marker, .dispatched⟩ ∈ s.decisions := by
      obtain ⟨oldKey, oldMarker, oldDecision⟩ := old
      cases hkey
      cases hsame
      cases holdDispatched
      exact hold
    rcases hlogged.last call.marker hentry with hlast | hleft
    · exact hnotSelf (hmarker ▸ hlast)
    · exact hadvanced.not_superseded hleft
  · intro earlier entry later hsplit hdispatched
    rw [hdecisions] at hsplit
    rcases append_singleton_split hsplit with ⟨rfl, rfl⟩ | ⟨rest, hrest⟩
    · obtain ⟨-, hlast, hby, -⟩ := DeletionColumns.of_mayDispatch (hmay hdispatched)
      exact hlogged.observed .present call.marker hlast (hmarker ▸ hby)
    · exact h.preceded earlier entry rest hrest hdispatched

theorem Accounted.step (h : Accounted s) (hstep : s.step event = some t) : Accounted t := by
  have heffect := DomainLedger.step_effect hstep
  rcases heffect.ledger with ⟨hdeletions, hdecisions⟩ |
      ⟨call, row, decision, -, hadvanced, hqueue, hdomains, hdeletions, hdecisions⟩
  · refine ⟨?_, ?_, ?_, by rw [hdecisions]; exact h.once, by rw [hdecisions]; exact h.preceded⟩
    · rw [hdecisions]
      exact fun entry hmem => (h.reached entry hmem).step heffect
    · rw [hdecisions, hdeletions]
      intro key row hrow
      obtain ⟨hcounted, hobserved, hlast⟩ := h.rows key row hrow
      refine ⟨hcounted, hobserved, fun marker hmem => ?_⟩
      rcases hlast marker hmem with hself | hleft
      · exact Or.inl hself
      · exact Or.inr (hleft.step heffect (h.reached _ hmem))
    · rw [hdecisions, hdeletions]
      exact h.unopened
  · exact h.advance hadvanced hqueue hdomains hdeletions hdecisions

theorem accounted_start (now : Timestamp) : Accounted (.start now) :=
  ⟨nofun, nofun, nofun, .nil, fun earlier entry later h => by
    cases earlier <;> cases h⟩

theorem accounted_run {now : Timestamp} {events : List LedgerEvent}
    (hrun : Run DomainLedger.step (.start now) events s) : Accounted s :=
  hrun.invariant (fun _ _ _ hbefore _ hstep => hbefore.step hstep) (accounted_start now)

/-- **A confirmed absence is final.** -/
theorem confirmed_step (h : Accounted s) (hstep : s.step event = some t)
    (hrow : s.deletions.lookup key = some row) (hconfirmed : row.state = .absenceConfirmed) :
    ∃ later, t.deletions.lookup key = some later ∧ later.state = .absenceConfirmed := by
  rcases (DomainLedger.step_effect hstep).ledger with ⟨hdeletions, -⟩ |
      ⟨call, written, decision, -, hadvanced, -, -, hdeletions, -⟩
  · rw [hdeletions]
    exact ⟨row, hrow, hconfirmed⟩
  rw [hdeletions]
  by_cases hkey : key = call.key
  · subst hkey
    obtain ⟨columns, hclaim, hwritten, hdecision⟩ := hadvanced.acted
    refine ⟨written, AList.lookup_insert _, ?_⟩
    have hstate : columns.state = .absenceConfirmed := by
      rcases (AdvanceCall.claim_ok hclaim).2 with ⟨hnone, -⟩ | ⟨found, hfound, rfl⟩
      · rw [hrow] at hnone
        cases hnone
      · rw [hrow] at hfound
        cases hfound
        exact hconfirmed
    have hacts : columns.Acts written.toDeletionColumns decision := by
      rw [hwritten, hdecision]
      exact columns.acts call.action
    exact (h.claimed hclaim).counted.confirmed_acts hstate hacts
  · rw [AList.lookup_insert_ne hkey]
    exact ⟨row, hrow, hconfirmed⟩

end ControlPlane.Domains
