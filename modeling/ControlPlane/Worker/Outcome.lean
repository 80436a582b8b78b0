/-
# One worker attempt: handler, compensation, outcome

After a handler returns, the worker decides twice what kind of failure it has
seen: once to decide whether the domain rows are compensated, and once to choose
the outcome that `finish` stores. The two decisions are written separately. This
module states both and proves for which operations and errors they agree.
-/

import ControlPlane.Persistence.Store

namespace ControlPlane.Worker

open Domain Math Persistence

/-- A leased operation must match its queue and workshop scope. -/
def validateOperation (queue : Queue) (operation : LeasedOperation) :
    Except IntegrationError OperationExecutionScope :=
  match operation.kind.executionScope queue operation.workshopId with
  | .ok scope => .ok scope
  | .error _ => .error .contractDrift

/-- The condition written out at four of the compensation sites. -/
def failureIsFinal (error : IntegrationError) (attempt maxAttempts : Nat) : Bool :=
  !error.retryable || decide (maxAttempts ≤ attempt)

def releaseFailureIsTerminal (error : IntegrationError) (attempt maxAttempts : Nat) : Bool :=
  decide (error ≠ .unknownOutcome) && failureIsFinal error attempt maxAttempts

def domainFailureIsTerminal (error : IntegrationError) (attempt maxAttempts : Nat) : Bool :=
  decide (error ≠ .unknownOutcome) && failureIsFinal error attempt maxAttempts

/-- The cleanup that marks a kind's domain rows as failed. -/
inductive Compensation
  | lifecycle (workshop : Uuid)
  | release
  | onboarding
  | domain (workshop : Uuid)
  | emailDomain
  | moduleActivation (workshop : Uuid) (moduleKey : String)
  deriving DecidableEq

/-- The kinds whose failure has a compensation. -/
def compensated : OperationKind → Bool
  | .tenantLifecycle | .odooReleaseAdopt | .webshopOnboardingReconcile
  | .webshopDomainReconcile | .webshopEmailDomainReconcile | .moduleEnable => true
  | _ => false

def moduleKey (operation : LeasedOperation) : Option String :=
  (operation.payload.get "module_key").bind Json.asStr

/-- The compensation a failed attempt runs, if any. Each site tests its own kind,
so at most one of them applies. -/
def terminalCompensation (operation : LeasedOperation) (error : IntegrationError) :
    Option Compensation :=
  let final := failureIsFinal error operation.attempt operation.maxAttempts
  match operation.kind with
  | .tenantLifecycle => if final then operation.workshopId.map .lifecycle else none
  | .odooReleaseAdopt =>
    if releaseFailureIsTerminal error operation.attempt operation.maxAttempts
    then some .release else none
  | .webshopOnboardingReconcile => if final then some .onboarding else none
  | .webshopDomainReconcile =>
    if domainFailureIsTerminal error operation.attempt operation.maxAttempts
    then operation.workshopId.map .domain else none
  | .webshopEmailDomainReconcile => if final then some .emailDomain else none
  | .moduleEnable =>
    if final then
      match operation.workshopId, moduleKey operation with
      | some workshop, some key => some (.moduleActivation workshop key)
      | _, _ => none
    else none
  | _ => none

/-- The attempt's work: the handler runs only for a valid operation, and a failed
compensation replaces the handler's error. The first component is the
compensation that was applied. -/
def operationWork (queue : Queue) (operation : LeasedOperation)
    (handled : Except IntegrationError Unit)
    (compensate : Compensation → Except IntegrationError Unit) :
    Option Compensation × Except IntegrationError Unit :=
  match validateOperation queue operation with
  | .error error => (none, .error error)
  | .ok _ =>
    match handled with
    | .ok () => (none, .ok ())
    | .error error =>
      match terminalCompensation operation error with
      | none => (none, .error error)
      | some compensation =>
        match compensate compensation with
        | .ok () => (some compensation, .error error)
        | .error .contractDrift => (some compensation, .error .contractDrift)
        | .error _ => (some compensation, .error .unknownOutcome)

/-- The outcome passed to `finish`. -/
def operationOutcome : Except IntegrationError Unit → OperationOutcome
  | .ok () => .succeeded
  | .error .unknownOutcome => .unknown
  | .error error => if error.retryable then .retry error else .failed error

/-! ## When an attempt dead-letters -/

/-- The stored state after a failed attempt: an unknown outcome always waits for
reconciliation, every other error is final or not by the shared condition. -/
theorem finishColumns_operationOutcome (operation : LeasedOperation) (error : IntegrationError) :
    (finishColumns operation (operationOutcome (.error error))).state = .deadLetter ↔
      error ≠ .unknownOutcome ∧
        failureIsFinal error operation.attempt operation.maxAttempts = true := by
  by_cases hlast : operation.maxAttempts ≤ operation.attempt
  · have hmore : ¬ operation.attempt < operation.maxAttempts := not_lt.mpr hlast
    cases error <;>
      simp [operationOutcome, IntegrationError.retryable, finishColumns, failureIsFinal,
        hlast, hmore]
  · have hmore : operation.attempt < operation.maxAttempts := not_le.mp hlast
    cases error <;>
      simp [operationOutcome, IntegrationError.retryable, finishColumns, failureIsFinal,
        hlast, hmore]

variable {operation : LeasedOperation} {queue : Queue} {scope : OperationExecutionScope}

/-- A finish by the current holder stores the state its columns name. -/
theorem finish_deadLetter_iff {operations : Operations} {now : Timestamp}
    {outcome : OperationOutcome}
    (hheld : Store.lockCurrentOperationLease operations now operation = true) :
    (∃ changed row, Store.finish operations now operation outcome = .ok changed ∧
      changed.lookup operation.id = some row ∧ row.state = .deadLetter) ↔
      (finishColumns operation outcome).state = .deadLetter := by
  unfold Store.lockCurrentOperationLease at hheld
  cases hrow : operations.lookup operation.id with
  | none => simp [hrow] at hheld
  | some row =>
    simp only [hrow] at hheld
    have hfinish : Store.finish operations now operation outcome =
        .ok (operations.insert operation.id
          (row.finish now (finishColumns operation outcome))) := by
      simp [Store.finish, Table.update, hrow, hheld]
    constructor
    · rintro ⟨changed, after, hok, hafter, hstate⟩
      rw [hfinish] at hok
      cases hok
      rw [AList.lookup_insert] at hafter
      cases hafter
      exact hstate
    · intro hstate
      exact ⟨_, _, hfinish, AList.lookup_insert _, hstate⟩

/-! ## When a compensation is applied -/

/-- Every compensated kind but the fleet-wide release adoption has a workshop. -/
theorem validateOperation_workshop (hscope : validateOperation queue operation = .ok scope) :
    operation.workshopId.isSome = operation.kind.requiresWorkshop := by
  unfold validateOperation at hscope
  split at hscope
  · rename_i scope' hok
    exact OperationKind.executionScope_workshop hok
  · cases hscope

/-- The two kinds whose compensation excludes an unknown outcome. -/
def excludesUnknownOutcome : OperationKind → Bool
  | .odooReleaseAdopt | .webshopDomainReconcile => true
  | _ => false

/-- Module activation is compensated by module key, so its payload must name one. -/
def CompensationTargetKnown (operation : LeasedOperation) : Prop :=
  operation.kind = .moduleEnable → (moduleKey operation).isSome = true

instance (operation : LeasedOperation) : Decidable (CompensationTargetKnown operation) :=
  inferInstanceAs (Decidable (_ → _))

/-- All six sites at once: a compensation is applied when the failure is final,
the module key is known, and the kind does not exclude an unknown outcome. -/
theorem terminalCompensation_isSome_iff (error : IntegrationError)
    (hscope : validateOperation queue operation = .ok scope)
    (hkind : compensated operation.kind = true) :
    (terminalCompensation operation error).isSome = true ↔
      failureIsFinal error operation.attempt operation.maxAttempts = true ∧
        CompensationTargetKnown operation ∧
        (error = .unknownOutcome → excludesUnknownOutcome operation.kind = false) := by
  have hworkshop := validateOperation_workshop hscope
  unfold terminalCompensation CompensationTargetKnown excludesUnknownOutcome
  cases hcase : operation.kind <;> rw [hcase] at hkind hworkshop <;>
    simp only [compensated, Bool.false_eq_true] at hkind
  case odooReleaseAdopt => simp [releaseFailureIsTerminal, and_comm]
  all_goals
    obtain ⟨workshop, hsome⟩ := Option.isSome_iff_exists.mp hworkshop
  case tenantLifecycle => simp [hsome]
  case webshopOnboardingReconcile => simp
  case webshopDomainReconcile => simp [hsome, domainFailureIsTerminal, and_comm]
  case webshopEmailDomainReconcile => simp
  case moduleEnable =>
      rw [hsome]
      cases hkey : moduleKey operation <;> simp

/-- When the two decisions agree. An unknown outcome never dead-letters, so a kind
must exclude it or still have attempts left; any other final failure dead-letters,
so its compensation must have a target. -/
def CompensationAgrees (operation : LeasedOperation) (error : IntegrationError) : Prop :=
  if error = .unknownOutcome then
    operation.attempt < operation.maxAttempts ∨ excludesUnknownOutcome operation.kind = true ∨
      ¬ CompensationTargetKnown operation
  else
    CompensationTargetKnown operation ∨
      (error.retryable = true ∧ operation.attempt < operation.maxAttempts)

instance (operation : LeasedOperation) (error : IntegrationError) :
    Decidable (CompensationAgrees operation error) :=
  inferInstanceAs (Decidable (ite _ _ _))

/-- What one attempt does after its handler failed and every compensation works. -/
def failedAttempt (queue : Queue) (operation : LeasedOperation) (error : IntegrationError) :
    Option Compensation × OperationOutcome :=
  let (applied, result) := operationWork queue operation (.error error) fun _ => .ok ()
  (applied, operationOutcome result)

theorem failedAttempt_eq (error : IntegrationError)
    (hscope : validateOperation queue operation = .ok scope) :
    failedAttempt queue operation error =
      (terminalCompensation operation error, operationOutcome (.error error)) := by
  unfold failedAttempt operationWork
  rw [hscope]
  cases hcompensation : terminalCompensation operation error <;> simp [hcompensation]

/-- **Compensation and dead letter.** For a compensated kind whose handler ran and
failed, the attempt applies its compensation exactly when the finish that follows
dead-letters the row, if and only if `CompensationAgrees` holds. -/
theorem compensation_iff_deadLetter_iff (queue : Queue) (operation : LeasedOperation)
    (error : IntegrationError) (operations : Operations) (now : Timestamp)
    (scope : OperationExecutionScope)
    (hscope : validateOperation queue operation = .ok scope)
    (hkind : compensated operation.kind = true)
    (hheld : Store.lockCurrentOperationLease operations now operation = true) :
    ((failedAttempt queue operation error).1.isSome = true ↔ ∃ changed row,
        Store.finish operations now operation (failedAttempt queue operation error).2 =
          .ok changed ∧
        changed.lookup operation.id = some row ∧ row.state = .deadLetter) ↔
      CompensationAgrees operation error := by
  rw [finish_deadLetter_iff hheld, failedAttempt_eq error hscope]
  rw [terminalCompensation_isSome_iff error hscope hkind, finishColumns_operationOutcome]
  unfold CompensationAgrees
  by_cases hunknown : error = .unknownOutcome
  · -- The retryable unknown outcome is final only because attempts ran out.
    subst hunknown
    simp only [failureIsFinal, IntegrationError.retryable, Bool.not_true, Bool.false_or,
      decide_eq_true_eq, ne_eq, not_true_eq_false, false_and, iff_false, if_true, true_imp_iff]
    rw [not_and_or, not_and_or, not_le, Bool.not_eq_false]
    tauto
  · rw [if_neg hunknown]
    have hfinal : failureIsFinal error operation.attempt operation.maxAttempts = false ↔
        error.retryable = true ∧ operation.attempt < operation.maxAttempts := by
      simp [failureIsFinal]
    rw [← hfinal]
    cases failureIsFinal error operation.attempt operation.maxAttempts <;> simp [hunknown]

/-- A lifecycle operation that is leased for its twelfth and last attempt. -/
private def lastLifecycleRow : OperationRow :=
  { OperationRow.enqueued .tenantLifecycle (some 7) none none (.object []) 0 with attempt := 11 }

private def lastLifecycleTable : Operations :=
  AList.singleton 1 (lastLifecycleRow.leaseTo 0 "worker")

private def lastLifecycleAttempt : LeasedOperation :=
  lastLifecycleRow.handle 1 "worker"

/-- At the last attempt an unavailable driver dead-letters and compensates. -/
theorem compensation_iff_deadLetter_iff_unavailable :
    validateOperation .tenantLifecycle lastLifecycleAttempt = .ok (.workshop 7) ∧
    ((failedAttempt .tenantLifecycle lastLifecycleAttempt .unavailable).1.isSome = true ↔
      ∃ changed row, Store.finish lastLifecycleTable 1 lastLifecycleAttempt
          (failedAttempt .tenantLifecycle lastLifecycleAttempt .unavailable).2 = .ok changed ∧
        changed.lookup lastLifecycleAttempt.id = some row ∧ row.state = .deadLetter) :=
  ⟨by decide, (compensation_iff_deadLetter_iff .tenantLifecycle lastLifecycleAttempt
    .unavailable lastLifecycleTable 1 (.workshop 7) (by decide) (by decide) (by decide)).mpr
    (by decide)⟩

/-- An unknown outcome at the last attempt compensates the lifecycle rows although
the operation only waits for reconciliation. -/
theorem unknownOutcome_compensated_without_deadLetter :
    validateOperation .tenantLifecycle lastLifecycleAttempt = .ok (.workshop 7) ∧
    Store.lockCurrentOperationLease lastLifecycleTable 1 lastLifecycleAttempt = true ∧
    (failedAttempt .tenantLifecycle lastLifecycleAttempt .unknownOutcome).1 = some (.lifecycle 7) ∧
    (finishColumns lastLifecycleAttempt
      (failedAttempt .tenantLifecycle lastLifecycleAttempt .unknownOutcome).2).state =
      .awaitingReconciliation ∧
    ¬ ((failedAttempt .tenantLifecycle lastLifecycleAttempt .unknownOutcome).1.isSome = true ↔
      ∃ changed row, Store.finish lastLifecycleTable 1 lastLifecycleAttempt
          (failedAttempt .tenantLifecycle lastLifecycleAttempt .unknownOutcome).2 =
          .ok changed ∧
        changed.lookup lastLifecycleAttempt.id = some row ∧ row.state = .deadLetter) := by
  have hheld : Store.lockCurrentOperationLease lastLifecycleTable 1 lastLifecycleAttempt = true :=
    by decide
  refine ⟨by decide, hheld, by decide, by decide, ?_⟩
  rw [finish_deadLetter_iff hheld]
  decide

end ControlPlane.Worker
