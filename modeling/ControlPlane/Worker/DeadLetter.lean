/-
# Dead letters of driver tasks

The worker dead-letters an operation when it reads a final error from the driver.
The driver, however, answers with a client error also when it knows nothing about
the effect: a receipt that is still in progress, a changed payload and a receipt
closed by a lost lease all look like a rejection. The first part states which
steps lead there; in every run without them a dead letter stands for a recorded
rejection of the effect. The second part is a run with one of them.
-/

import ControlPlane.Worker.DriverCall

namespace ControlPlane.Worker

open Domain Math Persistence Driver

/-- An unavailable driver is never a final error. -/
theorem classifyDriverResponse_unavailable (action : DriverAction) (error : DriverError)
    (h : error.status = .serviceUnavailable) :
    (classifyDriverResponse action error.status.asU16 (errorBody error)).retryable = true := by
  unfold classifyDriverResponse
  split
  · rfl
  · rw [h]
    rfl

/-! ## Undisturbed steps -/

/-- The receipt a repeated request may meet: it is for the same payload, it is not
the bare receipt of a request under way, and it was not closed by a lost lease. -/
def Answerable (receipt : Receipt) (requestDigest : String) : Prop :=
  receipt.requestDigest = requestDigest ∧ receipt.Settled ∧
    receipt.safeError ≠ some .controlOperationLeaseLost

/-- The steps after which the error classes of worker and driver agree: the driver
accepts the request and its answer can be read, a repeated request meets an
answerable receipt, and the last attempt does not end in a retryable error. -/
def Undisturbed (task : DriverTask) (config : DriverConfig) (s : TaskState) : TaskEvent → Prop
  | .driver (.progress id (.readReceipt true)) =>
    ∀ request receipt, s.driver.requests.lookup id = some request → request.key = task.key →
      s.driver.receipts.lookup task.key = some receipt →
        Answerable receipt (config.digest request.body.payload)
  | .send operation _ _ payload =>
    (acceptTenantRequest config (task.headers operation) task.workshop task.actionText
      payload).isOk = true
  | .fail _ failure => failure = .timeout ∨ failure = .transport
  | .finish operation =>
    ∀ error, s.calls.lookup operation.attempt = some (.returned (.error error)) →
      error.retryable = true → error = .unknownOutcome ∨ operation.attempt < operation.maxAttempts
  | _ => True

/-! ## The driver under undisturbed steps -/

/-- The task's receipt records a definitive rejection of the effect. -/
def EffectRejected (task : DriverTask) (driver : DriverState) : Prop :=
  ∃ receipt, driver.receipts.lookup task.key = some receipt ∧ receipt.Rejection

/-- The driver's own invariants, and what its error answers to the task mean. -/
structure AnswerInvariant (task : DriverTask) (config : DriverConfig)
    (driver : DriverState) : Prop where
  ledger : LedgerInvariant config driver
  results : ResultInvariant driver
  fenced : ∀ {id request error}, driver.requests.lookup id = some request →
    request.stage = .fenced error → error.status = .serviceUnavailable
  answers : ∀ {id request error}, driver.requests.lookup id = some request →
    request.key = task.key → request.stage = .answered (.error error) →
      error.status = .serviceUnavailable ∨ EffectRejected task driver

theorem answerInvariant_initial (task : DriverTask) (config : DriverConfig) :
    AnswerInvariant task config .initial where
  ledger := ledgerInvariant_initial config
  results := resultInvariant_initial
  fenced h := by simp [DriverState.initial] at h
  answers h := by simp [DriverState.initial] at h

variable {task : DriverTask} {config : DriverConfig} {d e : DriverState} {event : DriverEvent}
  {s : TaskState}

theorem EffectRejected.step (hrejected : EffectRejected task d) (hinv : LedgerInvariant config d)
    (h : d.step config event = some e) : EffectRejected task e := by
  obtain ⟨receipt, hreceipt, hrejection⟩ := hrejected
  exact ⟨receipt, (settled_step hrejection.settled d event e hinv h hreceipt).1, hrejection⟩

/-- An answerable receipt is answered with an error only if the driver cannot say
more or the effect was rejected. -/
theorem readReceipt_error (hres : ResultInvariant d) {key : ReceiptKey} {receipt : Receipt}
    {requestDigest : String} {error : DriverError} (hreceipt : d.receipts.lookup key = some receipt)
    (hanswerable : Answerable receipt requestDigest)
    (h : readReceipt requestDigest receipt = .error error) :
    error.status = .serviceUnavailable ∨ receipt.Rejection := by
  obtain ⟨hdigest, hsettled, hkept⟩ := hanswerable
  rcases hres.reflected hreceipt with ⟨hstate, hnone⟩ | ⟨-, hlost⟩ | ⟨result, -, hsame⟩
  · rcases hsettled with hstate' | hsome
    · exact absurd hstate hstate'
    · exact absurd hnone hsome
  · exact absurd hlost hkept
  cases result with
  | ok value =>
    have hstate : receipt.state = .succeeded value := congrArg Prod.fst hsame
    simp [readReceipt, hdigest, hstate] at h
  | error effectError =>
    simp only [recordedResult] at hsame
    split at hsame
    · exact Or.inr ⟨congrArg Prod.fst hsame, congrArg Prod.snd hsame⟩
    have hstate : receipt.state = .inProgress := congrArg Prod.fst hsame
    have hunknown : receipt.safeError = some .runtimeOutcomeUnknown :=
      congrArg Prod.snd hsame
    simp only [readReceipt, hdigest, hstate, hunknown, ne_eq, not_true_eq_false,
      if_false, if_true] at h
    cases h
    exact Or.inl rfl

theorem answerInvariant_step (hinv : AnswerInvariant task config d)
    (hread : ∀ id request receipt, event = .progress id (.readReceipt true) →
      d.requests.lookup id = some request → request.key = task.key →
      d.receipts.lookup task.key = some receipt →
        Answerable receipt (config.digest request.body.payload))
    (h : d.step config event = some e) : AnswerInvariant task config e := by
  have hledger := ledgerInvariant_step d event e hinv.ledger h
  have hresults := resultInvariant_step d event e hinv.ledger hinv.results h
  have hstays : EffectRejected task d → EffectRejected task e :=
    fun hrejected => hrejected.step hinv.ledger h
  rcases DriverState.step_cases h with rfl | ⟨id, process, body, -, rfl⟩ |
    ⟨id, step, request, cell, stage, rfl, hrequest, hadvance, rfl⟩
  · exact hinv
  · have hstage : body.firstStage = .validating ∨ body.firstStage = .admitting := by
      unfold TenantRequest.firstStage
      split
      · exact Or.inl rfl
      · exact Or.inr rfl
    refine ⟨hledger, hresults, ?_, ?_⟩
    · intro other found error hfound hfenced
      by_cases hid : other = id
      · subst hid
        rw [AList.lookup_insert] at hfound
        cases hfound
        rcases hstage with hstage | hstage <;> cases hstage.symm.trans hfenced
      · rw [AList.lookup_insert_ne hid] at hfound
        exact hinv.fenced hfound hfenced
    · intro other found error hfound hkey hanswered
      by_cases hid : other = id
      · subst hid
        rw [AList.lookup_insert] at hfound
        cases hfound
        rcases hstage with hstage | hstage <;> cases hstage.symm.trans hanswered
      · rw [AList.lookup_insert_ne hid] at hfound
        exact hinv.answers hfound hkey hanswered
  · refine ⟨hledger, hresults, ?_, ?_⟩
    · intro other found error hfound hfenced
      rcases lookup_requests_moveTo_cases hfound with ⟨rfl, rfl⟩ | ⟨-, hold⟩
      · have hstage : stage = .fenced error := hfenced
        subst hstage
        exact advance_fenced hadvance
      · exact hinv.fenced hold hfenced
    · intro other found error hfound hkey hanswered
      rcases lookup_requests_moveTo_cases hfound with ⟨rfl, rfl⟩ | ⟨-, hold⟩
      · have hstage : stage = .answered (.error error) := hanswered
        have hkey' : request.key = task.key := hkey
        subst hstage
        rcases advance_error_answer (fun lost hlost => hinv.fenced hrequest hlost) hadvance
          with hdown | ⟨rfl, receipt, hbefore, -, hanswer⟩ | ⟨receipt, rfl, hrejection⟩
        · exact Or.inl hdown
        · rw [hkey'] at hbefore
          have hanswerable := hread other request receipt rfl hrequest hkey' hbefore
          rcases readReceipt_error hinv.results hbefore hanswerable hanswer with hdown | hrej
          · exact Or.inl hdown
          · exact Or.inr (hstays ⟨receipt, hbefore, hrej⟩)
        · refine Or.inr ⟨receipt, ?_, hrejection⟩
          rw [← hkey']
          exact lookup_receipts_moveTo (advance_moved hadvance)
      · exact (hinv.answers hold hkey hanswered).imp_right hstays

theorem request_key_step (h : d.step config event = some e) {id : Nat} {request : Request}
    (hrequest : d.requests.lookup id = some request) :
    ∃ after, e.requests.lookup id = some after ∧ after.key = request.key := by
  rcases DriverState.step_cases h with rfl | ⟨new, process, body, hfresh, rfl⟩ |
    ⟨moving, step, found, cell, stage, -, hfound, -, rfl⟩
  · exact ⟨request, hrequest, rfl⟩
  · have hne : id ≠ new := by
      rintro rfl
      rw [hfresh] at hrequest
      cases hrequest
    exact ⟨request, (AList.lookup_insert_ne hne).trans hrequest, rfl⟩
  · by_cases hid : id = moving
    · subst hid
      rw [hfound] at hrequest
      cases hrequest
      exact ⟨_, lookup_requests_moveTo, rfl⟩
    · exact ⟨request, (lookup_requests_moveTo_of_ne hid).trans hrequest, rfl⟩

/-! ## The task under undisturbed steps -/

/-- A call waits on a request of the task; a final error was read from a recorded
rejection; and so was the error behind a dead letter. -/
structure TaskInvariant (task : DriverTask) (config : DriverConfig) (s : TaskState) : Prop where
  driver : AnswerInvariant task config s.driver
  waits : ∀ {attempt id}, s.calls.lookup attempt = some (.waiting id) →
    ∃ request, s.driver.requests.lookup id = some request ∧ request.key = task.key
  returns : ∀ {attempt error}, s.calls.lookup attempt = some (.returned (.error error)) →
    error.retryable = true ∨ EffectRejected task s.driver
  deadLetter : ∀ {row}, s.queue.operations.lookup task.operation = some row →
    row.state = .deadLetter → EffectRejected task s.driver

section

variable (hinv : TaskInvariant task config s)

include hinv

theorem TaskInvariant.setCall (operation : LeasedOperation) {call : Call}
    (hwaits : ∀ id, call = .waiting id →
      ∃ request, s.driver.requests.lookup id = some request ∧ request.key = task.key)
    (hreturns : ∀ error, call = .returned (.error error) →
      error.retryable = true ∨ EffectRejected task s.driver) :
    TaskInvariant task config (s.setCall operation call) := by
  refine ⟨hinv.driver, ?_, ?_, hinv.deadLetter⟩
  · intro attempt id hcall
    by_cases hattempt : attempt = operation.attempt
    · subst hattempt
      exact hwaits id (Option.some.inj ((AList.lookup_insert _).symm.trans hcall))
    · exact hinv.waits ((AList.lookup_insert_ne hattempt).symm.trans hcall)
  · intro attempt error hcall
    by_cases hattempt : attempt = operation.attempt
    · subst hattempt
      exact hreturns error (Option.some.inj ((AList.lookup_insert _).symm.trans hcall))
    · exact hinv.returns ((AList.lookup_insert_ne hattempt).symm.trans hcall)

theorem TaskInvariant.driver_step
    (hread : ∀ id request receipt, event = .progress id (.readReceipt true) →
      s.driver.requests.lookup id = some request → request.key = task.key →
      s.driver.receipts.lookup task.key = some receipt →
        Answerable receipt (config.digest request.body.payload))
    (h : s.driver.step config event = some e) :
    TaskInvariant task config { s with driver := e } := by
  have hstays : EffectRejected task s.driver → EffectRejected task e :=
    fun hrejected => hrejected.step hinv.driver.ledger h
  refine ⟨answerInvariant_step hinv.driver hread h, ?_, ?_, ?_⟩
  · intro attempt id hcall
    obtain ⟨request, hrequest, hkey⟩ := hinv.waits hcall
    obtain ⟨after, hafter, hsame⟩ := request_key_step h hrequest
    exact ⟨after, hafter, hsame.trans hkey⟩
  · intro attempt error hcall
    exact (hinv.returns hcall).imp_right hstays
  · intro row hrow hdead
    exact hstays (hinv.deadLetter hrow hdead)

/-- A statement dead-letters the task only by finishing it so. -/
theorem TaskInvariant.queue_step {call : QueueCall} {queue : QueueState}
    (hfinish : ∀ operation outcome, call = .finish operation outcome →
      operation.id = task.operation →
      (finishColumns operation outcome).state = .deadLetter → EffectRejected task s.driver)
    (h : s.queue.step call = some queue) : TaskInvariant task config { s with queue := queue } := by
  refine ⟨hinv.driver, hinv.waits, hinv.returns, ?_⟩
  intro row hrow hdead
  rcases (QueueState.step_rows h).2 task.operation with hsame | ⟨before, after, -, hafter,
    hchange, hcaller⟩
  · exact hinv.deadLetter (hsame.symm.trans hrow) hdead
  · have hsame : after = row := Option.some.inj (hafter.symm.trans hrow)
    subst hsame
    obtain ⟨operation, outcome, rfl, hstate⟩ := hchange.finish_of_terminal (by rw [hdead]; rfl)
    exact hfinish operation outcome rfl (hcaller operation rfl) (hstate ▸ hdead)

end

theorem send_request_key {operation : LeasedOperation} {id process : Nat} {payload : Json}
    {body : TenantRequest} (hid : operation.id = task.operation)
    (haccept : acceptTenantRequest config (task.headers operation) task.workshop
      task.actionText payload = .ok body)
    (h : d.step config (.receive id process (task.headers operation) task.workshop
      task.actionText payload) = some e) :
    ∃ request, e.requests.lookup id = some request ∧ request.key = task.key := by
  obtain ⟨hworkshop, haction, hkey, -⟩ := acceptTenantRequest_spec haccept
  have hbody : body.key = task.key := by
    have haction' : task.action = body.action :=
      Option.some.inj (task.parsed.symm.trans haction)
    have hkey' : operation.id.toText = body.idempotencyKey := HeaderValue.text.inj hkey
    rw [TenantRequest.key, DriverTask.key, hworkshop, ← haction', ← hkey', hid]
  simp only [DriverState.step, haccept] at h
  split at h
  · cases h
  · split at h
    · cases h
      exact ⟨_, AList.lookup_insert _, hbody⟩
    · cases h

theorem taskInvariant_step (s : TaskState) (event : TaskEvent) (t : TaskState)
    (hinv : TaskInvariant task config s) (hgood : Undisturbed task config s event)
    (h : s.step task config event = some t) : TaskInvariant task config t := by
  cases event with
  | queue call =>
    simp only [TaskState.step] at h
    split at h
    · cases h
    · rename_i hother
      obtain ⟨queue, hqueue, rfl⟩ := Option.map_eq_some_iff.mp h
      refine hinv.queue_step ?_ hqueue
      rintro operation outcome rfl hid
      simp [finishesTask, hid] at hother
  | driver event =>
    simp only [TaskState.step] at h
    split at h
    · obtain ⟨driver, hdriver, rfl⟩ := Option.map_eq_some_iff.mp h
      refine hinv.driver_step ?_ hdriver
      rintro id request receipt rfl
      exact hgood request receipt
    · cases h
  | send operation id process payload =>
    simp only [TaskState.step] at h
    split at h
    swap
    · cases h
    rename_i hready
    split at h
    · rename_i error haccept
      rw [Undisturbed, haccept] at hgood
      cases hgood
    · rename_i body haccept
      obtain ⟨driver, hdriver, rfl⟩ := Option.map_eq_some_iff.mp h
      have hkey := send_request_key hready.1.2 haccept hdriver
      refine (hinv.driver_step (by rintro _ _ _ ⟨⟩) hdriver).setCall operation ?_ ?_
      · rintro _ ⟨⟩
        exact hkey
      · rintro _ ⟨⟩
  | respond operation =>
    simp only [TaskState.step] at h
    split at h
    swap
    · cases h
    split at h
    swap
    · cases h
    rename_i id hwaiting
    split at h
    swap
    · cases h
    rename_i response hstage
    cases h
    refine hinv.setCall operation (by rintro _ ⟨⟩) ?_
    intro error hreturned
    obtain ⟨request, hrequest, hkey⟩ := hinv.waits hwaiting
    rw [hrequest] at hstage
    cases response with
    | ok value => cases hreturned
    | error answer =>
      cases hreturned
      refine (hinv.driver.answers hrequest hkey (Option.some.inj hstage)).imp_left ?_
      exact classifyDriverResponse_unavailable task.action answer
  | fail operation failure =>
    have hretry : failure.error.retryable = true := by
      rcases hgood with rfl | rfl <;> rfl
    have hset : TaskInvariant task config
        (s.setCall operation (.returned (.error failure.error))) := by
      refine hinv.setCall operation (by rintro _ ⟨⟩) ?_
      rintro _ ⟨⟩
      exact Or.inl hretry
    simp only [TaskState.step] at h
    split at h
    · split at h <;> cases h <;> exact hset
    · cases h
  | cancel operation =>
    simp only [TaskState.step] at h
    split at h
    · cases h
      exact hinv.setCall operation (by rintro _ ⟨⟩) (by rintro _ ⟨⟩)
    · cases h
  | finish operation =>
    simp only [TaskState.step] at h
    split at h
    swap
    · cases h
    rename_i hholds
    split at h
    swap
    · cases h
    rename_i result hcall
    obtain ⟨queue, hqueue, rfl⟩ := Option.map_eq_some_iff.mp h
    refine (hinv.queue_step ?_ hqueue).setCall operation (by rintro _ ⟨⟩) (by rintro _ ⟨⟩)
    intro _ _ hsame _ hdead
    cases hsame
    cases result with
    | ok value => cases hdead
    | error error =>
      obtain ⟨hknown, hfinal⟩ :=
        (finishColumns_operationOutcome operation error).mp hdead
      refine (hinv.returns hcall).resolve_left fun hretry => ?_
      -- A retryable error is final only at the last attempt.
      rcases hgood error hcall hretry with hunknown | hmore
      · exact hknown hunknown
      · simp only [failureIsFinal, hretry, Bool.not_true, Bool.false_or,
          decide_eq_true_eq] at hfinal
        omega

/-! ## Dead letters -/

/-- The composed system before the task's first attempt. -/
structure TaskState.Fresh (task : DriverTask) (s : TaskState) : Prop where
  driver : s.driver = .initial
  calls : s.calls = ∅
  working : ∀ row, s.queue.operations.lookup task.operation = some row → row.state ≠ .deadLetter

/-- What a dead letter stands for: the receipt records a rejection of the effect,
the effect is not running, and its one call failed with a client error. -/
def DeadLetterSound (task : DriverTask) (s : TaskState) : Prop :=
  ∀ row, s.queue.operations.lookup task.operation = some row → row.state = .deadLetter →
    (∃ receipt, s.driver.receipts.lookup task.key = some receipt ∧ receipt.Rejection) ∧
    (∀ id request, s.driver.requests.lookup id = some request → request.key = task.key →
      request.stage ≠ .executing) ∧
    (∃ error, (task.key, .error error) ∈ s.driver.completed ∧ error.status.isClientError = true) ∧
    ∀ value, (task.key, .ok value) ∉ s.driver.completed

/-- **Dead letters of undisturbed tasks.** In every run whose steps are undisturbed, a
dead-lettered operation has a receipt that records the rejection of its effect, and
the effect neither runs nor has succeeded. -/
theorem deadLetter_sound_of_undisturbed {task : DriverTask} {config : DriverConfig}
    {start s : TaskState} {events : List TaskEvent} (hfresh : start.Fresh task)
    (hrun : RunWhere (TaskState.step task config) (Undisturbed task config) start events s) :
    DeadLetterSound task s := by
  have hstart : TaskInvariant task config start := by
    refine ⟨?_, ?_, ?_, ?_⟩
    · rw [hfresh.driver]
      exact answerInvariant_initial task config
    · intro attempt id hcall
      simp [hfresh.calls] at hcall
    · intro attempt error hcall
      simp [hfresh.calls] at hcall
    · intro row hrow hdead
      exact absurd hdead (hfresh.working row hrow)
  have hinv : TaskInvariant task config s := hrun.invariant taskInvariant_step hstart
  intro row hrow hdead
  obtain ⟨receipt, hreceipt, hrejection⟩ := hinv.deadLetter hrow hdead
  obtain ⟨herror, hnone⟩ := hinv.driver.results.rejection hreceipt hrejection
  refine ⟨⟨receipt, hreceipt, hrejection⟩, ?_, herror, hnone⟩
  intro id request hrequest hkey hexecuting
  have hfree := hinv.driver.ledger.not_claims_of_settled hrequest (hkey ▸ hreceipt)
    hrejection.settled
  rw [hexecuting] at hfree
  cases hfree

/-! ## Two runs -/

private def provisionTask : DriverTask where
  operation := 5
  workshop := 7
  action := .provision
  actionText := "provision"
  authorization := "Bearer token"
  generic := rfl
  parsed := rfl

private def provisionConfig : DriverConfig where
  token := "token"
  digest _ := "digest"
  parseUuid text := if text = Uuid.toText 5 then some 5 else none

private def provisionRow : OperationRow :=
  .enqueued .tenantProvision (some 7) none none (.object []) 0

private def provisionStart : TaskState where
  queue := ⟨0, AList.singleton 5 provisionRow, []⟩
  driver := .initial
  calls := ∅

private def firstAttempt : LeasedOperation :=
  provisionRow.handle 5 "first"

private def secondAttempt : LeasedOperation :=
  { firstAttempt with attempt := 2, leasedBy := "second", reconciling := true }

/-- A second attempt overlaps the effect of the first one. -/
private def overlapEvents : List TaskEvent :=
  [.queue (.lease .tenantProvisioning "first" fun _ => false), .send firstAttempt 0 0 .null,
    .driver (.progress 0 (.validateLease (some true))),
    .driver (.progress 0 (.insertReceipt .committed)),
    .driver (.progress 0 .takeLock),
    .driver (.progress 0 (.recheckLease (some true))),
    .driver (.progress 0 .enterEffect),
    .queue (.advance (seconds 61)),
    .queue (.lease .tenantProvisioning "second" fun _ => false),
    .send secondAttempt 1 0 .null,
    .driver (.progress 1 (.validateLease (some true))),
    .driver (.progress 1 (.insertReceipt .committed)),
    .driver (.progress 1 (.readReceipt true)),
    .respond secondAttempt,
    .finish secondAttempt]

private def overlapState : TaskState :=
  (replay (TaskState.step provisionTask provisionConfig) provisionStart overlapEvents).getD
    provisionStart

private theorem provisionStart_fresh : provisionStart.Fresh provisionTask where
  driver := rfl
  calls := rfl
  working row hrow := by
    cases Option.some.inj (hrow : some provisionRow = some row)
    decide

/-- While the first request executes the effect, the second one is told that the
operation is in progress; the worker reads this as a rejection. -/
theorem deadLetter_while_executing : provisionStart.Fresh provisionTask ∧
    Run (TaskState.step provisionTask provisionConfig) provisionStart overlapEvents overlapState ∧
    (overlapState.queue.operations.lookup 5).map OperationRow.state = some .deadLetter ∧
    (overlapState.driver.receipts.lookup provisionTask.key).map Receipt.state = some .inProgress ∧
    (overlapState.driver.requests.lookup 0).map Request.stage = some .executing ∧
    ¬ DeadLetterSound provisionTask overlapState := by
  have hdead : (overlapState.queue.operations.lookup 5).map OperationRow.state =
      some .deadLetter := by decide
  have hreceipt : (overlapState.driver.receipts.lookup provisionTask.key).map Receipt.state =
      some .inProgress := by decide
  refine ⟨provisionStart_fresh, run_of_replay rfl, hdead, hreceipt, rfl, ?_⟩
  intro hsound
  obtain ⟨row, hrow, hstate⟩ := Option.map_eq_some_iff.mp hdead
  obtain ⟨receipt, hstored, hfailed, -⟩ := (hsound row hrow hstate).1
  rw [hstored, Option.map_some, hfailed] at hreceipt
  cases hreceipt

/-- The effect of a single attempt is rejected. -/
private def rejectedEvents : List TaskEvent :=
  [.driver (.progress 0 (.validateLease (some true))),
    .driver (.progress 0 (.insertReceipt .committed)),
    .driver (.progress 0 .takeLock),
    .driver (.progress 0 (.recheckLease (some true))),
    .driver (.progress 0 .enterEffect),
    .driver (.progress 0 (.effectReturns (.error ⟨.unprocessableEntity, "rejected"⟩))),
    .driver (.progress 0 (.recordResult .committed)),
    .respond firstAttempt]

private def leasedState : TaskState :=
  (provisionStart.step provisionTask provisionConfig
    (.queue (.lease .tenantProvisioning "first" fun _ => false))).getD provisionStart

private def sentState : TaskState :=
  (leasedState.step provisionTask provisionConfig (.send firstAttempt 0 0 .null)).getD leasedState

private def readState : TaskState :=
  (replay (TaskState.step provisionTask provisionConfig) sentState rejectedEvents).getD sentState

private def rejectedState : TaskState :=
  (readState.step provisionTask provisionConfig (.finish firstAttempt)).getD readState

private theorem rejected_run : RunWhere (TaskState.step provisionTask provisionConfig)
      (Undisturbed provisionTask provisionConfig) provisionStart
      (.queue (.lease .tenantProvisioning "first" fun _ => false) ::
        .send firstAttempt 0 0 .null :: (rejectedEvents ++ [.finish firstAttempt]))
      rejectedState := by
  refine .cons trivial (rfl : _ = some leasedState) (.cons ?_ (rfl : _ = some sentState)
    (RunWhere.append (runWhere_of_replay ?_ (rfl : _ = some readState))
      (.single ?_ (rfl : _ = some rejectedState))))
  · rfl
  · intro event hmem state
    simp only [rejectedEvents, List.mem_cons, List.not_mem_nil, or_false] at hmem
    rcases hmem with rfl | rfl | rfl | rfl | rfl | rfl | rfl | rfl <;> trivial
  intro error hcall hretry
  have hread : readState.calls.lookup firstAttempt.attempt =
      some (.returned (.error .rejected)) := rfl
  rw [hread] at hcall
  cases hcall
  cases hretry

theorem deadLetter_sound_of_undisturbed_rejection :
    (rejectedState.queue.operations.lookup 5).map OperationRow.state = some .deadLetter ∧
      DeadLetterSound provisionTask rejectedState :=
  ⟨by decide, deadLetter_sound_of_undisturbed provisionStart_fresh rejected_run⟩

end ControlPlane.Worker
