/-
# What a receipt says about its effect

A receipt that is no longer as inserted was written either by a request that lost
its lease before the effect or from the result of the one call of the effect. The
invariant ties each receipt to that result, so a recorded rejection means that the
effect itself was rejected and never succeeded.
-/

import ControlPlane.Driver.Idempotency

namespace ControlPlane.Driver

open Domain Math

/-- The request holds its receipt and its effect has not returned. -/
def Stage.beforeResult : Stage → Bool
  | .queued | .fencing | .fenced _ | .ready | .executing => true
  | _ => false

variable {stage : Stage} {receipt : Receipt} {config : DriverConfig} {s : DriverState}
  {step : RequestStep} {cell changed : Option Receipt} {error : DriverError}
  {request : TenantRequest}

theorem Stage.claims_of_beforeResult (h : stage.beforeResult = true) : stage.claims = true := by
  cases stage <;> first | rfl | cases h

theorem Stage.beforeResult_of_beforeEffect (h : stage.beforeEffect = true) :
    stage.beforeResult = true := by
  cases stage <;> first | rfl | cases h

/-- The three ways a receipt under `key` comes to be as it is. -/
def Receipt.Reflects (receipt : Receipt) (completed : List (ReceiptKey × Response))
    (key : ReceiptKey) : Prop :=
  (receipt.state = .inProgress ∧ receipt.safeError = none) ∨
  (receipt.state = .failed ∧ receipt.safeError = some .controlOperationLeaseLost) ∨
  ∃ result, (key, result) ∈ completed ∧ (receipt.state, receipt.safeError) = recordedResult result

variable {key : ReceiptKey}

theorem Receipt.Reflects.mono {completed later : List (ReceiptKey × Response)}
    (h : receipt.Reflects completed key) (hsub : completed ⊆ later) :
    receipt.Reflects later key := by
  rcases h with h | h | ⟨result, hmem, hsame⟩
  · exact Or.inl h
  · exact Or.inr (Or.inl h)
  · exact Or.inr (Or.inr ⟨result, hsub hmem, hsame⟩)

/-- Each effect returns at most once, and receipts reflect what it returned. -/
structure ResultInvariant (s : DriverState) : Prop where
  uncompleted : ∀ {id request result}, s.requests.lookup id = some request →
    request.stage.beforeResult = true → (request.key, result) ∉ s.completed
  recorded : ∀ {id request result}, s.requests.lookup id = some request →
    request.stage = .recording result → (request.key, result) ∈ s.completed
  receipted : ∀ {key result}, (key, result) ∈ s.completed → (s.receipts.lookup key).isSome = true
  once : s.completed.Pairwise fun first second => first.1 ≠ second.1
  reflected : ∀ {key receipt}, s.receipts.lookup key = some receipt →
    receipt.Reflects s.completed key

theorem resultInvariant_initial : ResultInvariant .initial where
  uncompleted h := by simp [DriverState.initial] at h
  recorded h := by simp [DriverState.initial] at h
  receipted h := by simp [DriverState.initial] at h
  once := List.Pairwise.nil
  reflected h := by simp [DriverState.initial] at h

section Moves

variable {config : DriverConfig} {s : DriverState} {id : Nat} {request : Request}
  {step : RequestStep} {cell : Option Receipt} {next : Stage}

variable {body : TenantRequest} {before : Option Receipt} {stage : Stage} {result : Response}

theorem Moved.complete_inv (h : Moved config body before stage (.effectReturns result) cell next) :
    stage = .executing ∧ next = .recording result := by
  cases h with
  | complete => exact ⟨rfl, rfl⟩
  | outside quiet | wait quiet | abandon quiet => cases quiet

theorem Moved.recording_inv (h : Moved config body before stage step cell (.recording result)) :
    stage = .executing ∧ step = .effectReturns result := by
  cases h with
  | complete => exact ⟨rfl, rfl⟩
  | outside quiet hbefore hafter kept | wait quiet hbefore hafter
  | abandon quiet hbefore hafter | leaseLost hafter | record hafter => cases hafter

/-- A request whose effect has not returned was in that position before, or has
just claimed an empty cell. -/
theorem Moved.beforeResult_before (h : Moved config body before stage step cell next)
    (hnext : next.beforeResult = true) : stage.beforeResult = true ∨ before = none := by
  have hclaims := Stage.claims_of_beforeResult hnext
  cases h with
  | outside quiet hout hafter kept | abandon quiet hstage hafter | leaseLost hafter
  | record hafter => simp [hafter] at hclaims
  | claim fate => exact Or.inr rfl
  | wait quiet hstage hafter => exact Or.inl (Stage.beforeResult_of_beforeEffect hstage)
  | enter => exact Or.inl rfl
  | complete => cases hnext

theorem mem_completed_moveTo
    (hmoved : Moved config request.body (s.receipts.lookup request.key) request.stage step
      cell next)
    (h : (key, result) ∈ (s.moveTo id request step cell next).completed) :
    (key, result) ∈ s.completed ∨
      (request.stage = .executing ∧ next = .recording result ∧ key = request.key) := by
  cases step with
  | effectReturns returned =>
    rcases List.mem_cons.mp h with hnew | hold
    · cases hnew
      exact Or.inr ⟨hmoved.complete_inv.1, hmoved.complete_inv.2, rfl⟩
    · exact Or.inl hold
  | _ => exact Or.inl h

theorem completed_subset_moveTo : s.completed ⊆ (s.moveTo id request step cell next).completed := by
  cases step with
  | effectReturns result => exact List.subset_cons_self _ _
  | _ => exact List.Subset.refl _

theorem Moved.reflects (h : Moved config body before stage step cell next)
    {completed : List (ReceiptKey × Response)}
    (hbefore : ∀ receipt, before = some receipt → receipt.Reflects completed key)
    (hrecorded : ∀ result, stage = .recording result → (key, result) ∈ completed)
    {receipt : Receipt} (hreceipt : cell = some receipt) : receipt.Reflects completed key := by
  cases h with
  | outside quiet hout hafter kept =>
    rcases kept with rfl | ⟨-, rfl⟩
    · exact hbefore receipt hreceipt
    · cases hreceipt
      exact Or.inl ⟨rfl, rfl⟩
  | claim fate =>
    cases hreceipt
    exact Or.inl ⟨rfl, rfl⟩
  | wait quiet hstage hafter | enter | complete | abandon quiet hstage hafter =>
    exact hbefore receipt hreceipt
  | leaseLost hafter =>
    cases hreceipt
    exact Or.inr (Or.inl ⟨rfl, rfl⟩)
  | record hafter =>
    cases hreceipt
    exact Or.inr (Or.inr ⟨_, hrecorded _ rfl, rfl⟩)

end Moves

theorem resultInvariant_moveTo (hinv : LedgerInvariant config s) (hres : ResultInvariant s)
    {id : Nat} {request : Request} {next : Stage} (hrequest : s.requests.lookup id = some request)
    (hmoved : Moved config request.body (s.receipts.lookup request.key) request.stage step
      cell next) : ResultInvariant (s.moveTo id request step cell next) := by
  constructor
  case uncompleted =>
    intro other found result hfound hstage hmem
    have hclaims := Stage.claims_of_beforeResult hstage
    rcases mem_completed_moveTo hmoved hmem with hold | ⟨hexecuting, hnext, hkey⟩
    · rcases lookup_requests_moveTo_cases hfound with ⟨rfl, rfl⟩ | ⟨hne, hfound⟩
      · rcases hmoved.beforeResult_before hstage with hbefore | hnone
        · exact hres.uncompleted hrequest hbefore hold
        · have hsome := hres.receipted hold
          rw [show Request.key { request with stage := next } = request.key from rfl,
            hnone] at hsome
          cases hsome
      · exact hres.uncompleted hfound hstage hold
    · rcases lookup_requests_moveTo_cases hfound with ⟨rfl, rfl⟩ | ⟨hne, hfound⟩
      · rw [hnext] at hstage
        cases hstage
      · -- Two requests would hold one receipt.
        exact hne (hinv.exclusive hfound hrequest hclaims (by rw [hexecuting]; rfl) hkey)
  case recorded =>
    intro other found result hfound hstage
    rcases lookup_requests_moveTo_cases hfound with ⟨rfl, rfl⟩ | ⟨hne, hfound⟩
    · have hstage' : next = .recording result := hstage
      subst hstage'
      rw [hmoved.recording_inv.2]
      exact List.mem_cons_self
    · exact completed_subset_moveTo (hres.recorded hfound hstage)
  case receipted =>
    intro key result hmem
    rcases mem_completed_moveTo hmoved hmem with hold | ⟨hexecuting, -, rfl⟩
    · obtain ⟨receipt, hreceipt⟩ := Option.isSome_iff_exists.mp (hres.receipted hold)
      obtain ⟨changed, hchanged, -⟩ := receipt_moveTo_digest id hmoved hreceipt
      rw [hchanged]
      rfl
    · have hreceipt := hinv.claimed hrequest (by rw [hexecuting]; rfl)
      obtain ⟨changed, hchanged, -⟩ := receipt_moveTo_digest id hmoved hreceipt
      rw [hchanged]
      rfl
  case once =>
    cases step with
    | effectReturns result =>
      refine List.pairwise_cons.mpr ⟨?_, hres.once⟩
      rintro ⟨key, earlier⟩ hmem hkey
      have hkey' : request.key = key := hkey
      subst hkey'
      exact hres.uncompleted hrequest (by rw [hmoved.complete_inv.1]; rfl) hmem
    | _ => exact hres.once
  case reflected =>
    intro key receipt hreceipt
    by_cases hkey : key = request.key
    · subst hkey
      rw [lookup_receipts_moveTo hmoved] at hreceipt
      refine hmoved.reflects ?_ ?_ hreceipt
      · intro stored hstored
        exact (hres.reflected hstored).mono completed_subset_moveTo
      · intro result hstage
        exact completed_subset_moveTo (hres.recorded hrequest hstage)
    · rw [lookup_receipts_moveTo_of_ne hkey] at hreceipt
      exact (hres.reflected hreceipt).mono completed_subset_moveTo

theorem resultInvariant_receive (hres : ResultInvariant s) (id process : Nat)
    (body : TenantRequest) :
    ResultInvariant
      { s with requests := s.requests.insert id ⟨process, body, body.firstStage⟩ } := by
  refine ⟨?_, ?_, hres.receipted, hres.once, hres.reflected⟩
  · intro other request result hrequest hstage
    have hclaims := Stage.claims_of_beforeResult hstage
    exact hres.uncompleted (lookup_receive_of_claims hrequest hclaims) hstage
  · intro other request result hrequest hstage
    exact hres.recorded (lookup_receive_of_claims hrequest (by rw [hstage]; rfl)) hstage

theorem resultInvariant_step (s : DriverState) (event : DriverEvent) (t : DriverState)
    (hinv : LedgerInvariant config s) (hres : ResultInvariant s)
    (h : s.step config event = some t) : ResultInvariant t := by
  rcases DriverState.step_cases h with rfl | ⟨id, process, body, -, rfl⟩ |
    ⟨id, step, request, cell, stage, -, hrequest, hadvance, rfl⟩
  · exact hres
  · exact resultInvariant_receive hres id process body
  · exact resultInvariant_moveTo hinv hres hrequest (advance_moved hadvance)

/-! ## A recorded rejection -/

/-- The receipt that records a definitive rejection of the effect. -/
def Receipt.Rejection (receipt : Receipt) : Prop :=
  receipt.state = .failed ∧ receipt.safeError = some .requestRejected

theorem Receipt.Rejection.settled (h : receipt.Rejection) : receipt.Settled :=
  Or.inl (by rw [h.1]; simp)

/-- Behind a recorded rejection is one call of the effect that failed with a client
error, so the effect did not succeed. -/
theorem ResultInvariant.rejection (hres : ResultInvariant s)
    (hreceipt : s.receipts.lookup key = some receipt) (hrejection : receipt.Rejection) :
    (∃ error, (key, .error error) ∈ s.completed ∧ error.status.isClientError = true) ∧
      ∀ value, (key, .ok value) ∉ s.completed := by
  obtain ⟨hfailed, hreason⟩ := hrejection
  rcases hres.reflected hreceipt with ⟨hstate, -⟩ | ⟨-, hlost⟩ | ⟨result, hmem, hsame⟩
  · rw [hfailed] at hstate
    cases hstate
  · rw [hreason] at hlost
    cases hlost
  rw [hfailed, hreason] at hsame
  cases result with
  | ok value => cases hsame
  | error error =>
    have hclient : error.status.isClientError = true := by
      by_contra hserver
      simp [recordedResult, hserver] at hsame
    refine ⟨⟨error, hmem, hclient⟩, ?_⟩
    intro value hvalue
    have hsymm : Std.Symm fun first second : ReceiptKey × Response =>
        first.1 ≠ second.1 := ⟨fun _ _ hne => hne.symm⟩
    exact hres.once.forall hmem hvalue (by simp) rfl

/-! ## Error answers -/

theorem StatusCode.serviceUnavailable_of_not_client {status : StatusCode}
    (h : status.isClientError = false) : status = .serviceUnavailable := by
  cases status <;> first | rfl | cases h

theorem validateControlOperationLease_error {current : Option Bool}
    (h : validateControlOperationLease current = .error error) :
    error.status = .serviceUnavailable := by
  rcases current with _ | _ | _ <;> cases h <;> rfl

theorem settle_answered (fate : StatementFate) (cell : Option Receipt)
    (updated : Except DriverError Receipt) (answer : Response) :
    ∃ response, (settle fate cell updated answer).2 = .answered response := by
  unfold settle
  split <;> exact ⟨_, rfl⟩

/-- A last update answers with an error of its own or with the one it was to report. -/
theorem settle_error {fate : StatementFate} {state : ReceiptState} {safeError : Option SafeError}
    {answer : Response} (h : settle fate cell (finishDriverOperation state safeError cell) answer =
      (changed, .answered (.error error))) :
    error = .internal ∨
      (answer = .error error ∧ ∃ requestDigest, changed = some ⟨requestDigest, state,
        safeError⟩) := by
  unfold settle at h
  split at h
  · cases h
    exact Or.inl rfl
  · rename_i hfinish
    cases h
    unfold finishDriverOperation at hfinish
    split at hfinish <;> cases hfinish
    exact Or.inl rfl
  · rename_i receipt hfinish
    cases h
    unfold finishDriverOperation at hfinish
    split at hfinish <;> cases hfinish
    exact Or.inr ⟨rfl, _, rfl⟩
  · cases h
    exact Or.inl rfl

/-- Only a failed second lease check fences a request. -/
theorem advance_fenced
    (h : advance config request cell stage step = some (changed, .fenced error)) :
    error.status = .serviceUnavailable := by
  have hsettle : ∀ {fate : StatementFate} {updated : Except DriverError Receipt}
      {answer : Response}, some (settle fate cell updated answer) ≠
        some (changed, .fenced error) := by
    intro fate updated answer heq
    obtain ⟨response, hanswered⟩ := settle_answered fate cell updated answer
    rw [Option.some.inj heq] at hanswered
    cases hanswered
  unfold advance at h
  split at h
  · split at h <;> cases h
  · rename_i fate
    cases fate <;> cases cell <;> cases h
  · split at h <;> cases h
  · cases hlease : request.lease <;> rw [hlease] at h <;> cases h
  · split at h
    · cases h
    · rename_i hcheck
      cases h
      exact validateControlOperationLease_error hcheck
  · exact absurd h hsettle
  · cases h
  · cases h
  · exact absurd h hsettle
  · split at h <;> cases h
  · cases h

/-- Where an error answer comes from: an unavailable backend, a receipt that was
there before, or a recorded rejection. -/
theorem advance_error_answer
    (hfenced : ∀ lost, stage = .fenced lost → lost.status = .serviceUnavailable)
    (h : advance config request cell stage step = some (changed, .answered (.error error))) :
    error.status = .serviceUnavailable ∨
    (step = .readReceipt true ∧ ∃ receipt, cell = some receipt ∧ changed = some receipt ∧
      readReceipt (config.digest request.payload) receipt = .error error) ∨
    ∃ receipt, changed = some receipt ∧ receipt.Rejection := by
  unfold advance at h
  split at h
  · split at h
    · cases h
    · rename_i hcheck
      cases h
      exact Or.inl (validateControlOperationLease_error hcheck)
  · rename_i fate
    cases fate with
    | committed => cases cell <;> cases h
    | failed | connectionLost => cases h; exact Or.inl rfl
  · split at h
    · rename_i receipt
      have hanswer := congrArg Prod.snd (Option.some.inj h)
      have hchanged := congrArg Prod.fst (Option.some.inj h)
      exact Or.inr (Or.inl ⟨rfl, receipt, rfl, hchanged.symm, by simpa using hanswer⟩)
    · cases h
      exact Or.inl rfl
  · cases hlease : request.lease <;> rw [hlease] at h <;> cases h
  · split at h <;> cases h
  · rename_i lost fate
    rcases settle_error (Option.some.inj h) with rfl | ⟨hanswer, -⟩
    · exact Or.inl rfl
    · cases hanswer
      exact Or.inl (hfenced _ rfl)
  · cases h
  · cases h
  · rename_i result fate
    rcases settle_error (Option.some.inj h) with rfl | ⟨rfl, requestDigest, rfl⟩
    · exact Or.inl rfl
    · cases hclient : error.status.isClientError with
      | false => exact Or.inl (StatusCode.serviceUnavailable_of_not_client hclient)
      | true =>
        refine Or.inr (Or.inr ⟨_, rfl, ?_⟩)
        simp [Receipt.Rejection, hclient]
  · split at h <;> cases h
  · cases h

/-! ## Receipts over whole runs -/

/-- In every run an effect returns at most once, a stored response is the one that it
returned, and behind a recorded rejection are a client error and no success. -/
theorem receipts_reflect_effects {config : DriverConfig} {s : DriverState}
    {events : List DriverEvent} (hrun : Run (DriverState.step config) .initial events s) :
    (s.completed.map Prod.fst).Nodup ∧ ∀ key receipt, s.receipts.lookup key = some receipt →
      (∀ response, receipt.state = .succeeded response → (key, .ok response) ∈ s.completed) ∧
      (receipt.Rejection → (∃ error, (key, .error error) ∈ s.completed ∧
        error.status.isClientError = true) ∧ ∀ value, (key, .ok value) ∉ s.completed) := by
  have hinv : LedgerInvariant config s ∧ ResultInvariant s :=
    hrun.invariant (P := fun s => LedgerInvariant config s ∧ ResultInvariant s)
      (fun s event t h _ hstep => ⟨ledgerInvariant_step s event t h.1 hstep,
        resultInvariant_step s event t h.1 h.2 hstep⟩)
      ⟨ledgerInvariant_initial config, resultInvariant_initial⟩
  refine ⟨List.pairwise_map.mpr hinv.2.once, fun key receipt hreceipt =>
    ⟨fun response hstate => ?_, hinv.2.rejection hreceipt⟩⟩
  rcases hinv.2.reflected hreceipt with ⟨hopen, -⟩ | ⟨hfailed, -⟩ | ⟨result, hmem, hsame⟩
  · cases hstate.symm.trans hopen
  · cases hstate.symm.trans hfailed
  · cases result with
    | ok value =>
      cases hstate.symm.trans (congrArg Prod.fst hsame)
      exact hmem
    | error error => grind [recordedResult]

/-- A workshop is provisioned. -/
def provisionedEvents : List DriverEvent :=
  [.receive 0 0 ⟨.text "Bearer token", .text "key", .absent, .absent, .absent⟩ 7 "provision"
      .null, .progress 0 (.insertReceipt .committed), .progress 0 .takeLock,
    .progress 0 .enterEffect, .progress 0 (.effectReturns (.ok .null)),
    .progress 0 (.recordResult .committed)]

theorem receipts_reflect_effects_provisioned : ∃ s,
    Run (DriverState.step ⟨"token", fun _ => "digest", fun _ => none⟩) .initial
        provisionedEvents s ∧
      (s.receipts.lookup ⟨7, .provision, "key"⟩).map Receipt.state = some (.succeeded .null) ∧
      (⟨7, .provision, "key"⟩, .ok .null) ∈ s.completed := by
  have hrun : Run (DriverState.step ⟨"token", fun _ => "digest", fun _ => none⟩) .initial
      provisionedEvents _ := run_of_replay rfl
  exact ⟨_, hrun, rfl, ((receipts_reflect_effects hrun).2 _ _ rfl).1 _ rfl⟩

end ControlPlane.Driver
