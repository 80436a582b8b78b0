/-
# Deleting a custom hostname at the provider

A deletion at the provider is a bounded protocol of observations and deletes, kept in one
row for each domain and provider reference. The worker asks the database before every
step, and the database answers from the row: absence is evidence only once it was
observed, and a budget bounds how often the provider is asked.

The function raises in three ways that the worker can see, and in a fourth when the new
row would violate a check of the table. A raised call changes nothing. Which branch a call
took is returned as a decision beside the columns of the row.
-/

import ControlPlane.Domains.Tables

namespace ControlPlane.Domains

open Domain Math Persistence

inductive DeletionState
  | observationRequired
  | observedPresent
  | deleteDispatched
  | absenceConfirmed
  | budgetExhausted
  deriving DecidableEq

inductive Observation
  | present
  | absent
  deriving DecidableEq

/-- One attempt of one operation. -/
structure AttemptMarker where
  operation : Uuid
  attempt : Nat
  deriving DecidableEq

/-- The columns of a deletion row. The operation and the attempt of each event are set
together, which is what the table's checks on their nulls say. -/
structure DeletionColumns where
  workshopId : Uuid
  hostname : String
  marker : AttemptMarker
  state : DeletionState
  (observationCount dispatchCount : Nat)
  lastObservation : Option Observation
  (observedBy dispatchedBy : Option AttemptMarker)
  deriving DecidableEq

/-- A text without upper-case letters, as hostnames are stored. -/
def isLowercase (text : String) : Bool :=
  text.toList.all fun c => !(decide ('A' ≤ c) && decide (c ≤ 'Z'))

/-- The characters of a provider reference. -/
def validReference (reference : String) : Bool :=
  let chars := reference.toList
  !chars.isEmpty && decide (chars.length ≤ 128) &&
    chars.all fun c => c.isAlphanum || decide (c = '-')

/-- The checks of the table. The one that ties absence to its observation passes while
nothing was observed. -/
def DeletionColumns.checks (columns : DeletionColumns) : Bool :=
  decide (0 < columns.marker.attempt) &&
    (isLowercase columns.hostname && decide (columns.hostname.toList.length ≤ 253)) &&
    decide (columns.observationCount ≤ 8) && decide (columns.dispatchCount ≤ 4) &&
    columns.lastObservation.all (fun observation =>
      decide (columns.state = .absenceConfirmed) == decide (observation = .absent)) &&
    (decide (columns.state ≠ .deleteDispatched) || columns.dispatchedBy.isSome) &&
    columns.observedBy.all (fun marker => decide (0 < marker.attempt)) &&
    columns.dispatchedBy.all fun marker => decide (0 < marker.attempt)

/-- A stored row passes the checks of its table. -/
structure DeletionRow extends DeletionColumns where
  checked : toDeletionColumns.checks = true
  deriving DecidableEq

/-- Store the columns, unless a check refuses them. -/
def DeletionRow.ofColumns (columns : DeletionColumns) : Option DeletionRow :=
  if h : columns.checks = true then some ⟨columns, h⟩ else none

abbrev Deletions := Table (Uuid × String) DeletionRow

inductive DeletionAction
  | begin
  | observePresent
  | observeAbsent
  | dispatchDelete
  deriving DecidableEq

/-- The branch a call took: nothing to do, the budget is spent, an observation was
recorded, or a delete was authorised. -/
inductive Decision
  | unchanged
  | exhausted
  | observed (observation : Observation)
  | dispatched
  deriving DecidableEq

namespace DeletionColumns

/-- The columns of a row that was just inserted. -/
def started (workshopId : Uuid) (hostname : String) (marker : AttemptMarker) : DeletionColumns where
  workshopId := workshopId
  hostname := hostname
  marker := marker
  state := .observationRequired
  observationCount := 0
  dispatchCount := 0
  lastObservation := none
  observedBy := none
  dispatchedBy := none

variable (columns : DeletionColumns)

def exhausted : DeletionColumns :=
  { columns with state := .budgetExhausted }

/-- A present observation by the current attempt. After its own delete the row stays
dispatched, so that the same attempt cannot delete twice. -/
def seenPresent : DeletionColumns :=
  { columns with
    state := if columns.dispatchedBy = some columns.marker then .deleteDispatched
      else .observedPresent
    observationCount := columns.observationCount + 1
    lastObservation := some .present
    observedBy := some columns.marker }

/-- An absence is recorded even when the budget of observations is used up; the counter
then stays where it is. -/
def seenAbsent : DeletionColumns :=
  { columns with
    state := .absenceConfirmed
    observationCount := min (columns.observationCount + 1) 8
    lastObservation := some .absent
    observedBy := some columns.marker }

def dispatched : DeletionColumns :=
  { columns with
    state := .deleteDispatched
    dispatchCount := columns.dispatchCount + 1
    dispatchedBy := some columns.marker }

/-- A delete needs a present observation by the same attempt, and an attempt gets one. -/
def mayDispatch : Bool :=
  decide (columns.state = .observedPresent) &&
    decide (columns.lastObservation = some .present) &&
    decide (columns.observedBy = some columns.marker) &&
    decide (columns.dispatchedBy ≠ some columns.marker)

/-- What an action does to a row that already carries the caller's marker. -/
def act : DeletionAction → DeletionColumns × Decision
  | .begin =>
    if columns.state ≠ .absenceConfirmed ∧ 8 ≤ columns.observationCount then
      (columns.exhausted, .exhausted)
    else (columns, .unchanged)
  | .observePresent =>
    if columns.state = .absenceConfirmed then (columns, .unchanged)
    else if columns.state = .budgetExhausted ∨ 8 ≤ columns.observationCount then
      (columns.exhausted, .exhausted)
    else (columns.seenPresent, .observed .present)
  | .observeAbsent =>
    if columns.state = .absenceConfirmed then (columns, .unchanged)
    else (columns.seenAbsent, .observed .absent)
  | .dispatchDelete =>
    -- Nothing here asks for the state: a row whose absence was confirmed is only
    -- protected by the table's check.
    if 4 ≤ columns.dispatchCount then (columns.exhausted, .exhausted)
    else if columns.mayDispatch then (columns.dispatched, .dispatched)
    else (columns, .unchanged)

end DeletionColumns

/-- The arguments of the database function. -/
structure AdvanceCall where
  operationId : Uuid
  attempt : Nat
  leaseOwner : String
  (workshopId domainId : Uuid)
  (providerRef hostname : String)
  action : DeletionAction
  deriving DecidableEq

variable (call : AdvanceCall)

def AdvanceCall.marker : AttemptMarker :=
  ⟨call.operationId, call.attempt⟩

def AdvanceCall.key : Uuid × String :=
  (call.domainId, call.providerRef)

inductive AdvanceError
  | invalidLeaseTuple
  | invalidIdentity
  | leaseNotCurrent
  | authorityNotCurrent
  | identityMismatch
  | checkViolated
  deriving DecidableEq

/-- The operation is in flight for exactly this attempt and owner. -/
def AdvanceCall.leased (now : Timestamp) (operations : Operations) : Bool :=
  (operations.lookup call.operationId).any fun row =>
    decide (row.workshopId = some call.workshopId) &&
      decide (row.kind = .webshopDomainReconcile) &&
      row.heldBy now call.leaseOwner call.attempt

/-- The domain is bound to the operation, is being disconnected and records exactly this
reference. -/
def AdvanceCall.authorized (domains : Table Uuid DomainRow) : Bool :=
  (domains.lookup call.domainId).any fun row =>
    decide (row.workshopId = call.workshopId) &&
      decide (row.operationId = some call.operationId) &&
      decide (row.desired = .disconnected) &&
      (decide (row.state = .disconnecting) || decide (row.state = .actionRequired)) &&
      decide (row.providerRef = some call.providerRef) &&
      decide (row.hostname = call.hostname)

/-- Insert the row, or take over the one there is. -/
def AdvanceCall.claim (deletions : Deletions) : Except AdvanceError DeletionColumns :=
  match deletions.lookup call.key with
  | none =>
    let columns := DeletionColumns.started call.workshopId call.hostname call.marker
    if validReference call.providerRef && columns.checks then .ok columns
    else .error .checkViolated
  | some row =>
    if row.workshopId = call.workshopId ∧ row.hostname = call.hostname then
      .ok { row.toDeletionColumns with marker := call.marker }
    else .error .identityMismatch

/-- `control.advance_webshop_domain_provider_deletion`: the row it leaves under the call's
key and the branch it took. -/
def advanceWebshopDomainProviderDeletion (now : Timestamp) (operations : Operations)
    (domains : Table Uuid DomainRow) (deletions : Deletions) (call : AdvanceCall) :
    Except AdvanceError (DeletionRow × Decision) :=
  if call.attempt < 1 ∨ call.leaseOwner.toList.all (· == ' ') then .error .invalidLeaseTuple
  else if call.providerRef.toList = [] ∨ 128 < call.providerRef.toList.length ∨
      isLowercase call.hostname = false ∨ 253 < call.hostname.toList.length then
    .error .invalidIdentity
  else if call.leased now operations = false then .error .leaseNotCurrent
  else if call.authorized domains = false then .error .authorityNotCurrent
  else
    match call.claim deletions with
    | .error error => .error error
    | .ok columns =>
      match DeletionRow.ofColumns (columns.act call.action).1 with
      | none => .error .checkViolated
      | some row => .ok (row, (columns.act call.action).2)

/-! ## What a call can do -/

variable {columns : DeletionColumns} {call : AdvanceCall} {operations : Operations}

variable {row : DeletionRow} {deletions : Deletions} {now : Timestamp}

theorem DeletionRow.ofColumns_eq_some (h : DeletionRow.ofColumns columns = some row) :
    row.toDeletionColumns = columns := by
  unfold DeletionRow.ofColumns at h
  split at h
  · cases h
    rfl
  · cases h

theorem DeletionRow.bounds (row : DeletionRow) :
    row.observationCount ≤ 8 ∧ row.dispatchCount ≤ 4 := by
  have hchecked := row.checked
  simp only [DeletionColumns.checks, Bool.and_eq_true, decide_eq_true_eq] at hchecked
  exact ⟨hchecked.1.1.1.1.1.2, hchecked.1.1.1.1.2⟩

/-- Absence is confirmed exactly by an absent observation, once there is one. -/
theorem DeletionRow.absent_iff (row : DeletionRow) {observation : Observation}
    (h : row.lastObservation = some observation) :
    row.state = .absenceConfirmed ↔ observation = .absent := by
  have hchecked := row.checked
  simp only [DeletionColumns.checks, Bool.and_eq_true] at hchecked
  have hlast := hchecked.1.1.1.2
  rw [h] at hlast
  simpa using hlast

/-- Whether a call finds a row to work on, and which columns it then has. -/
theorem AdvanceCall.claim_ok (h : call.claim deletions = .ok columns) :
    columns.marker = call.marker ∧ (deletions.lookup call.key = none ∧
          columns = .started call.workshopId call.hostname call.marker ∨
        ∃ row, deletions.lookup call.key = some row ∧
          columns = { row.toDeletionColumns with marker := call.marker }) := by
  unfold AdvanceCall.claim at h
  split at h
  · rename_i hnone
    simp only [Bool.and_eq_true] at h
    split at h
    · cases h
      exact ⟨rfl, Or.inl ⟨hnone, rfl⟩⟩
    · cases h
  · rename_i row hrow
    split at h
    · cases h
      exact ⟨rfl, Or.inr ⟨row, hrow, rfl⟩⟩
    · cases h

/-- What has to hold for a call to return, and what it leaves in the row. -/
structure Advanced (now : Timestamp) (operations : Operations)
    (domains : Table Uuid DomainRow) (deletions : Deletions) (call : AdvanceCall)
    (row : DeletionRow) (decision : Decision) : Prop where
  leased : call.leased now operations = true
  authorized : call.authorized domains = true
  acted : ∃ columns, call.claim deletions = .ok columns ∧
    row.toDeletionColumns = (columns.act call.action).1 ∧
    decision = (columns.act call.action).2

theorem advanced_of_ok {domains : Table Uuid DomainRow} {decision : Decision}
    (h : advanceWebshopDomainProviderDeletion now operations domains deletions call =
      .ok (row, decision)) : Advanced now operations domains deletions call row decision := by
  unfold advanceWebshopDomainProviderDeletion at h
  split at h
  · cases h
  split at h
  · cases h
  split at h
  · cases h
  rename_i hleased
  split at h
  · cases h
  rename_i hauthorized
  split at h
  · cases h
  rename_i columns hclaim
  split at h
  · cases h
  rename_i stored hstored
  cases h
  exact ⟨Bool.eq_true_of_not_eq_false hleased, Bool.eq_true_of_not_eq_false hauthorized,
    columns, hclaim, DeletionRow.ofColumns_eq_some hstored, rfl⟩

theorem advance_of_not_leased (domains : Table Uuid DomainRow) (deletions : Deletions)
    (h : call.leased now operations = false) :
    ∃ error, advanceWebshopDomainProviderDeletion now operations domains deletions call =
      .error error := by
  cases hresult : advanceWebshopDomainProviderDeletion now operations domains deletions call with
  | error error => exact ⟨error, rfl⟩
  | ok result =>
    have hleased := (advanced_of_ok hresult).leased
    rw [h] at hleased
    cases hleased

namespace DeletionColumns

/-- The four things an action can do to the columns. -/
inductive Acts (columns : DeletionColumns) : DeletionColumns → Decision → Prop
  | unchanged : Acts columns columns .unchanged
  | exhausted : Acts columns columns.exhausted .exhausted
  | present (open' : columns.state ≠ .absenceConfirmed) (budget : columns.observationCount < 8) :
      Acts columns columns.seenPresent (.observed .present)
  | absent (open' : columns.state ≠ .absenceConfirmed) :
      Acts columns columns.seenAbsent (.observed .absent)
  | dispatched (budget : columns.dispatchCount < 4) (may : columns.mayDispatch = true) :
      Acts columns columns.dispatched .dispatched

theorem acts (columns : DeletionColumns) (action : DeletionAction) :
    Acts columns (columns.act action).1 (columns.act action).2 := by
  cases action with
  | begin =>
    simp only [act]
    split
    · exact .exhausted
    · exact .unchanged
  | observePresent =>
    simp only [act]
    split
    · exact .unchanged
    · rename_i hopen
      split
      · exact .exhausted
      · rename_i hbudget
        exact .present hopen (not_le.mp fun h => hbudget (Or.inr h))
  | observeAbsent =>
    simp only [act]
    split
    · exact .unchanged
    · rename_i hopen
      exact .absent hopen
  | dispatchDelete =>
    simp only [act]
    split
    · exact .exhausted
    · rename_i hbudget
      split
      · rename_i hmay
        exact .dispatched (not_le.mp hbudget) hmay
      · exact .unchanged

theorem of_mayDispatch {columns : DeletionColumns} (h : columns.mayDispatch = true) :
    columns.state = .observedPresent ∧ columns.lastObservation = some .present ∧
      columns.observedBy = some columns.marker ∧
      columns.dispatchedBy ≠ some columns.marker := by
  simp only [mayDispatch, Bool.and_eq_true, decide_eq_true_eq] at h
  exact ⟨h.1.1.1, h.1.1.2, h.1.2, h.2⟩

end DeletionColumns

end ControlPlane.Domains
