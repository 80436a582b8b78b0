/-
# Driver requests on the generic ledger

One request runs from its first lease check through admission, the workshop lock
and the second lease check to the effect and the final receipt update. It only
ever touches the receipt under its own key, so its program is a state machine
over that one cell. The driver is the table of all requests and receipts, and any
request may be dropped between any two of its steps: a process that stops drops
every request it holds.
-/

import ControlPlane.Math.Table
import ControlPlane.Math.Transition
import ControlPlane.Driver.Ledger

namespace ControlPlane.Driver

open Domain Math

/-! ## The program of one request -/

/-- Where the handler of a request is. -/
inductive Stage
  | validating
  | admitting
  | reading
  | queued
  | fencing
  | fenced (error : DriverError)
  | ready
  | executing
  | recording (result : Response)
  | answered (response : Response)
  | dropped

namespace Stage

/-- Nothing more happens to the request. -/
def finished : Stage → Bool
  | .answered _ | .dropped => true
  | _ => false

/-- The request inserted the receipt and has not yet let go of it. -/
def claims : Stage → Bool
  | .queued | .fencing | .fenced _ | .ready | .executing | .recording _ => true
  | _ => false

/-- The request holds its receipt and has not entered the effect. -/
def beforeEffect : Stage → Bool
  | .queued | .fencing | .fenced _ | .ready => true
  | _ => false

end Stage

/-- What becomes of one statement: it commits, it fails without effect, or it
commits and the connection is lost before the answer. -/
inductive StatementFate
  | committed
  | failed
  | connectionLost
  deriving DecidableEq

/-- One step of a request with what its environment decides. A lease check is
answered by the database or fails. -/
inductive RequestStep
  | validateLease (current : Option Bool)
  | insertReceipt (fate : StatementFate)
  | readReceipt (answered : Bool)
  | takeLock
  | recheckLease (current : Option Bool)
  | recordLeaseLost (fate : StatementFate)
  | enterEffect
  | effectReturns (result : Response)
  | recordResult (fate : StatementFate)
  | drop

/-- The steps that start or end a call of the effect function. -/
def RequestStep.callsEffect : RequestStep → Bool
  | .enterEffect | .effectReturns _ => true
  | _ => false

/-- The error of a lease check. -/
def validateControlOperationLease : Option Bool → Except DriverError Unit
  | some true => .ok ()
  | some false => .error .leaseNotCurrent
  | none => .error .internal

/-- The last update of a request: what it leaves in the cell and answers. -/
def settle (fate : StatementFate) (cell : Option Receipt)
    (updated : Except DriverError Receipt) (answer : Response) : Option Receipt × Stage :=
  match fate, updated with
  | .failed, _ => (cell, .answered (.error .internal))
  | _, .error error => (cell, .answered (.error error))
  | .committed, .ok receipt => (some receipt, .answered answer)
  | .connectionLost, .ok receipt => (some receipt, .answered (.error .internal))

/-- One step of the handler over the receipt under its key. -/
def advance (config : DriverConfig) (request : TenantRequest) (cell : Option Receipt) :
    Stage → RequestStep → Option (Option Receipt × Stage)
  | .validating, .validateLease current =>
    match validateControlOperationLease current with
    | .ok () => some (cell, .admitting)
    | .error error => some (cell, .answered (.error error))
  | .admitting, .insertReceipt fate =>
    let inserted := insertReceipt (config.digest request.payload) cell
    match fate with
    | .failed => some (cell, .answered (.error .internal))
    | .connectionLost => some (some inserted, .answered (.error .internal))
    | .committed => some (some inserted, if cell.isNone then .queued else .reading)
  | .reading, .readReceipt answered =>
    match cell, answered with
    | some receipt, true =>
      some (cell, .answered (readReceipt (config.digest request.payload) receipt))
    | _, _ => some (cell, .answered (.error .internal))
  | .queued, .takeLock => some (cell, if request.lease.isSome then .fencing else .ready)
  | .fencing, .recheckLease current =>
    -- The request may have waited for the lock, so its authority is checked again.
    match validateControlOperationLease current with
    | .ok () => some (cell, .ready)
    | .error error => some (cell, .fenced error)
  | .fenced error, .recordLeaseLost fate =>
    some (settle fate cell
      (finishDriverOperation .failed (some .controlOperationLeaseLost) cell) (.error error))
  | .ready, .enterEffect => some (cell, .executing)
  | .executing, .effectReturns result => some (cell, .recording result)
  | .recording result, .recordResult fate =>
    let (state, safeError) := recordedResult result
    some (settle fate cell (finishDriverOperation state safeError cell) result)
  | stage, .drop => if stage.finished then none else some (cell, .dropped)
  | _, _ => none

/-- Everything a step of a request can do to its receipt. The request claims the
receipt by inserting it, and only a claiming request changes one. -/
inductive Moved (config : DriverConfig) (request : TenantRequest) :
    Option Receipt → Stage → RequestStep → Option Receipt → Stage → Prop
  | outside {cell changed : Option Receipt} {stage next : Stage} {step : RequestStep}
      (quiet : step.callsEffect = false)
      (before : stage.claims = false) (after : next.claims = false)
      (kept : changed = cell ∨
        cell = none ∧ changed = some ⟨config.digest request.payload, .inProgress, none⟩) :
      Moved config request cell stage step changed next
  | claim (fate : StatementFate) : Moved config request none .admitting (.insertReceipt fate)
        (some ⟨config.digest request.payload, .inProgress, none⟩) .queued
  | wait {cell : Option Receipt} {stage next : Stage} {step : RequestStep}
      (quiet : step.callsEffect = false)
      (before : stage.beforeEffect = true) (after : next.beforeEffect = true) :
      Moved config request cell stage step cell next
  | enter (cell : Option Receipt) : Moved config request cell .ready .enterEffect cell .executing
  | complete (cell : Option Receipt) (result : Response) :
      Moved config request cell .executing (.effectReturns result) cell (.recording result)
  | abandon {cell : Option Receipt} {stage next : Stage} {step : RequestStep}
      (quiet : step.callsEffect = false)
      (before : stage.claims = true) (after : next.claims = false) :
      Moved config request cell stage step cell next
  | leaseLost {requestDigest : String} {safeError : Option SafeError} {error : DriverError}
      {fate : StatementFate} {next : Stage} (after : next.claims = false) :
      Moved config request (some ⟨requestDigest, .inProgress, safeError⟩) (.fenced error)
        (.recordLeaseLost fate)
        (some ⟨requestDigest, .failed, some .controlOperationLeaseLost⟩) next
  | record {requestDigest : String} {safeError : Option SafeError} {result : Response}
      {fate : StatementFate} {next : Stage} (after : next.claims = false) :
      Moved config request (some ⟨requestDigest, .inProgress, safeError⟩) (.recording result)
        (.recordResult fate)
        (some ⟨requestDigest, (recordedResult result).1, (recordedResult result).2⟩) next

variable {cell changed : Option Receipt} {next : Stage}

/-- The last update either leaves the cell or writes the finished receipt. -/
theorem settle_cases {fate : StatementFate} {state : ReceiptState} {safeError : Option SafeError}
    {answer : Response}
    (h : settle fate cell (finishDriverOperation state safeError cell) answer = (changed, next)) :
    next.claims = false ∧ (changed = cell ∨ ∃ requestDigest stored,
        cell = some ⟨requestDigest, .inProgress, stored⟩ ∧
        changed = some ⟨requestDigest, state, safeError⟩) := by
  unfold settle at h
  split at h
  · cases h
    exact ⟨rfl, Or.inl rfl⟩
  · cases h
    exact ⟨rfl, Or.inl rfl⟩
  all_goals
    rename_i receipt hfinish
    cases h
    refine ⟨rfl, Or.inr ?_⟩
    unfold finishDriverOperation at hfinish
    split at hfinish
    · rename_i requestDigest stored
      cases hfinish
      exact ⟨requestDigest, stored, rfl, rfl⟩
    · cases hfinish

theorem advance_moved {config : DriverConfig} {request : TenantRequest} {stage : Stage}
    {step : RequestStep} (h : advance config request cell stage step = some (changed, next)) :
    Moved config request cell stage step changed next := by
  unfold advance at h
  split at h
  · -- first lease check
    split at h <;> cases h <;> exact .outside rfl rfl rfl (Or.inl rfl)
  · -- insert
    rename_i fate
    cases cell with
    | none =>
      cases fate <;> cases h
      · exact .claim _
      · exact .outside rfl rfl rfl (Or.inl rfl)
      · exact .outside rfl rfl rfl (Or.inr ⟨rfl, rfl⟩)
    | some receipt =>
      cases fate <;> cases h <;> exact .outside rfl rfl rfl (Or.inl rfl)
  · -- read
    split at h <;> cases h <;> exact .outside rfl rfl rfl (Or.inl rfl)
  · -- lock
    cases h
    cases request.lease <;> exact .wait rfl rfl rfl
  · -- second lease check
    split at h <;> cases h <;> exact .wait rfl rfl rfl
  · -- lease lost
    rename_i error fate
    obtain ⟨hafter, rfl | ⟨requestDigest, stored, rfl, rfl⟩⟩ :=
      settle_cases (Option.some.inj h)
    · exact .abandon rfl rfl hafter
    · exact .leaseLost hafter
  · cases h
    exact .enter _
  · cases h
    exact .complete _ _
  · -- record the result
    rename_i result fate
    obtain ⟨hafter, rfl | ⟨requestDigest, stored, rfl, rfl⟩⟩ :=
      settle_cases (Option.some.inj h)
    · exact .abandon rfl rfl hafter
    · exact .record hafter
  · -- drop
    split at h
    · cases h
    · cases h
      cases hclaims : stage.claims with
      | true => exact .abandon rfl hclaims rfl
      | false => exact .outside rfl hclaims rfl (Or.inl rfl)
  · cases h

/-! ## The driver -/

/-- A request in the process that serves it. -/
structure Request where
  process : Nat
  body : TenantRequest
  stage : Stage

def Request.key (request : Request) : ReceiptKey := request.body.key

/-- One entry of an effect function. -/
structure EffectEntry where
  request : Nat
  key : ReceiptKey
  payload : Json

/-- Receipts, requests and workshop locks, with the history of effect calls. -/
structure DriverState where
  receipts : Table ReceiptKey Receipt
  requests : Table Nat Request
  locks : Table (Nat × Uuid) Nat
  entered : List EffectEntry
  completed : List (ReceiptKey × Response)

/-- The driver before its first request. -/
def DriverState.initial : DriverState :=
  ⟨∅, ∅, ∅, [], []⟩

inductive DriverEvent
  | receive (id process : Nat) (headers : TenantHeaders) (workshop : Uuid) (action : String)
      (payload : Json)
  | progress (id : Nat) (step : RequestStep)

/-- Requests without lease headers skip both lease checks. -/
def TenantRequest.firstStage (request : TenantRequest) : Stage :=
  if request.lease.isSome then .validating else .admitting

namespace DriverState

variable (s : DriverState)

def lockFree (request : Request) : RequestStep → Bool
  | .takeLock => (s.locks.lookup (request.process, request.body.workshop)).isNone
  | _ => true

/-- The lock is taken by its step and released when the handler ends. -/
def locksAfter (id : Nat) (request : Request) (step : RequestStep)
    (stage : Stage) : Table (Nat × Uuid) Nat :=
  let lock := (request.process, request.body.workshop)
  match step with
  | .takeLock => s.locks.insert lock id
  | _ =>
    if stage.finished ∧ s.locks.lookup lock = some id then s.locks.erase lock else s.locks

def enteredAfter (id : Nat) (request : Request) : RequestStep → List EffectEntry
  | .enterEffect => ⟨id, request.key, request.body.payload⟩ :: s.entered
  | _ => s.entered

def completedAfter (request : Request) : RequestStep → List (ReceiptKey × Response)
  | .effectReturns result => (request.key, result) :: s.completed
  | _ => s.completed

/-- No statement deletes a receipt, so an empty cell was empty before. -/
def moveTo (id : Nat) (request : Request) (step : RequestStep)
    (cell : Option Receipt) (stage : Stage) : DriverState where
  receipts :=
    match cell with
    | some receipt => s.receipts.insert request.key receipt
    | none => s.receipts
  requests := s.requests.insert id { request with stage := stage }
  locks := s.locksAfter id request step stage
  entered := s.enteredAfter id request step
  completed := s.completedAfter request step

/-- A refused request leaves no trace in the driver. -/
def step (config : DriverConfig) (s : DriverState) : DriverEvent → Option DriverState
  | .receive id process headers workshop action payload =>
    if (s.requests.lookup id).isSome then none
    else
      match acceptTenantRequest config headers workshop action payload with
      | .error _ => some s
      | .ok body =>
        if body.action.usesGenericLedger then
          some { s with requests := s.requests.insert id ⟨process, body, body.firstStage⟩ }
        else none
  | .progress id step =>
    match s.requests.lookup id with
    | none => none
    | some request =>
      if s.lockFree request step then
        match advance config request.body (s.receipts.lookup request.key) request.stage step with
        | none => none
        | some (cell, stage) => some (s.moveTo id request step cell stage)
      else none

variable {config : DriverConfig}

theorem step_progress {s : DriverState} {id : Nat} {request : Request} {step : RequestStep}
    {cell : Option Receipt} {stage : Stage} (hrequest : s.requests.lookup id = some request)
    (hfree : s.lockFree request step = true)
    (hadvance : advance config request.body (s.receipts.lookup request.key) request.stage
      step = some (cell, stage)) :
    s.step config (.progress id step) = some (s.moveTo id request step cell stage) := by
  simp only [DriverState.step, hrequest, hfree, hadvance, if_true]

/-- Everything a step of the driver can do. -/
theorem step_cases {s t : DriverState} {event : DriverEvent} (h : s.step config event = some t) :
    t = s ∨
    (∃ id process body, s.requests.lookup id = none ∧
      t = { s with requests := s.requests.insert id ⟨process, body, body.firstStage⟩ }) ∨
    ∃ id step request cell stage, event = .progress id step ∧ s.requests.lookup id = some request ∧
      advance config request.body (s.receipts.lookup request.key) request.stage step =
        some (cell, stage) ∧
      t = s.moveTo id request step cell stage := by
  cases event with
  | receive id process headers workshop action payload =>
    simp only [step] at h
    split at h
    · cases h
    rename_i hfresh
    split at h
    · cases h
      exact Or.inl rfl
    · rename_i body haccept
      split at h
      · cases h
        exact Or.inr (Or.inl ⟨id, process, body, by simpa using hfresh, rfl⟩)
      · cases h
  | progress id step =>
    simp only [DriverState.step] at h
    split at h
    · cases h
    rename_i request hrequest
    split at h
    · split at h
      · cases h
      · rename_i cell stage hadvance
        cases h
        exact Or.inr (Or.inr ⟨id, step, request, cell, stage, rfl, hrequest, hadvance, rfl⟩)
    · cases h

end DriverState

/-! ## Fields after a step -/

section MoveTo

variable {config : DriverConfig} {s : DriverState} {id : Nat} {request : Request}
  {step : RequestStep} {cell : Option Receipt} {stage : Stage}

variable {next : Stage} {other : Nat}

theorem Moved.kept_some {body : TenantRequest} {before : Option Receipt}
    (h : Moved config body before stage step cell next) (hcell : cell = none) : before = none := by
  cases h with
  | outside quiet hbefore hafter kept =>
    rcases kept with rfl | ⟨rfl, -⟩
    · exact hcell
    · rfl
  | claim fate => rfl
  | wait quiet hbefore hafter | enter | complete | abandon quiet hbefore hafter => exact hcell
  | leaseLost hafter | record hafter => cases hcell

theorem lookup_receipts_moveTo
    (h : Moved config request.body (s.receipts.lookup request.key) stage step cell next) :
    (s.moveTo id request step cell next).receipts.lookup request.key = cell := by
  cases cell with
  | none => exact h.kept_some rfl
  | some receipt => exact AList.lookup_insert _

theorem lookup_receipts_moveTo_of_ne {key : ReceiptKey} (hne : key ≠ request.key) :
    (s.moveTo id request step cell stage).receipts.lookup key = s.receipts.lookup key := by
  cases cell with
  | none => rfl
  | some receipt => exact AList.lookup_insert_ne hne

theorem lookup_requests_moveTo : (s.moveTo id request step cell stage).requests.lookup id =
      some { request with stage := stage } :=
  AList.lookup_insert _

theorem lookup_requests_moveTo_of_ne (hne : other ≠ id) :
    (s.moveTo id request step cell stage).requests.lookup other = s.requests.lookup other :=
  AList.lookup_insert_ne hne

theorem lookup_requests_moveTo_cases {found : Request}
    (h : (s.moveTo id request step cell stage).requests.lookup other = some found) :
    (other = id ∧ found = { request with stage := stage }) ∨
      (other ≠ id ∧ s.requests.lookup other = some found) := by
  by_cases hid : other = id
  · subst hid
    rw [lookup_requests_moveTo] at h
    exact Or.inl ⟨rfl, (Option.some.inj h).symm⟩
  · rw [lookup_requests_moveTo_of_ne hid] at h
    exact Or.inr ⟨hid, h⟩

end MoveTo

end ControlPlane.Driver
