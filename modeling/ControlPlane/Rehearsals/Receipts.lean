/-
# What a rehearsal's receipt decides

All attempts of a rehearsal meet the same receipt. A receipt that an attempt left
behind without a result that the scheduler recorded stands in the way of every
later one: in progress it is answered with a conflict, which the scheduler takes
for final even while the effect is still executing, and after an unclear outcome
each retry is turned away until the attempts are used up.

No receipt is left behind when a call that reached the driver is seen through: the
driver brings an admitted request to a definitive result, and the scheduler that
sent it stays, keeps its claim and records the answer. Then a rehearsal is, at any
time, untouched by the driver, in the hands of one call, or over.
-/

import ControlPlane.Rehearsals.Calls
import ControlPlane.Rehearsals.Safety

namespace ControlPlane.Rehearsals

open Domain Driver Math Table Rehearsal World

/-! ## Keys and results -/

def rehearsalKey (workshop rehearsal : Uuid) : ReceiptKey :=
  ⟨workshop, .rehearse, rehearsalIdempotencyKey rehearsal⟩

theorem rehearsalKey_injective {workshop other rehearsal another : Uuid}
    (h : rehearsalKey workshop rehearsal = rehearsalKey other another) :
    workshop = other ∧ rehearsal = another := by
  simp only [rehearsalKey, rehearsalIdempotencyKey, ReceiptKey.mk.injEq, true_and] at h
  refine ⟨h.1, ?_⟩
  have htext := congrArg Uuid.ofText (String.append_right_inj _ |>.mp h.2)
  rwa [Uuid.ofText_toText, Uuid.ofText_toText] at htext

def RehearsalClaim.key (claim : RehearsalClaim) : ReceiptKey :=
  rehearsalKey claim.workshop claim.rehearsal

/-- What the effect returned under a key, the last first. -/
def resultsFor (driver : DriverState) (key : ReceiptKey) : List Response :=
  driver.completed.filterMap fun entry => if entry.1 = key then some entry.2 else none

variable {driver : DriverState}

theorem mem_resultsFor {key : ReceiptKey} {result : Response} :
    result ∈ resultsFor driver key ↔ (key, result) ∈ driver.completed := by
  unfold resultsFor
  rw [List.mem_filterMap]
  constructor
  · rintro ⟨⟨other, found⟩, hmem, hfound⟩
    split at hfound
    · rename_i hkey
      cases hfound
      cases hkey
      exact hmem
    · cases hfound
  · intro hmem
    exact ⟨(key, result), hmem, by simp⟩

/-- No request under the key can still move. -/
def Quiet (driver : DriverState) (key : ReceiptKey) : Prop :=
  ∀ request found, driver.requests.lookup request = some found → found.key = key →
    found.stage.finished = true

/-- The next request under the key is the one that is admitted. -/
def Executable (driver : DriverState) (key : ReceiptKey) : Prop :=
  driver.receipts.lookup key = none ∧ Quiet driver key

/-! ## The property -/

/-- No call for the rehearsal is in flight. -/
def World.Unsent (w : World) (rehearsal : Uuid) : Prop :=
  ∀ scheduler call claim, w.calls.lookup scheduler = some call →
    w.current scheduler = some claim → claim.rehearsal ≠ rehearsal

/-- The way of a request from its admission into its effect. -/
def toEffect (request : Nat) : List WorldEvent :=
  [.drive request (.insertReceipt .committed), .drive request .takeLock,
    .drive request .enterEffect]

/-- The scheduler's next request is admitted and executes the effect, in any process in which
no other handler has the workshop's lock. -/
def World.ReachesEffect (config : DriverConfig) (driverToken : String) (w : World)
    (scheduler : Uuid) (claim : RehearsalClaim) : Prop :=
  ∀ request process, w.driver.requests.lookup request = none →
    w.driver.locks.lookup (process, claim.workshop) = none →
    ∃ u, Run (World.step config driverToken) w
        (.send scheduler request process :: toEffect request) u ∧
      u.driver.requests.lookup request = some ⟨process, claim.body, .executing⟩

/-- A success of the effect is never recorded as a final failure. A granted retry can execute
the effect, and so can an attempt that was claimed, until it is sent; then it does. -/
structure World.Consistent (config : DriverConfig) (driverToken : String) (w : World) :
    Prop where
  successKept : ∀ rehearsal row value finishedAt safeError,
    w.schedule.db.rehearsals.lookup rehearsal = some row →
    (rehearsalKey row.workshop rehearsal, .ok value) ∈ w.driver.completed →
    row.state ≠ .failed finishedAt safeError none
  retryExecutes : ∀ rehearsal row finishedAt safeError nextAttemptAt,
    w.schedule.db.rehearsals.lookup rehearsal = some row →
    row.state = .failed finishedAt safeError (some nextAttemptAt) →
    Executable w.driver (rehearsalKey row.workshop rehearsal)
  claimExecutes : ∀ rehearsal row, w.schedule.db.rehearsals.lookup rehearsal = some row →
    row.isRunning = true → w.Unsent rehearsal →
    Executable w.driver (rehearsalKey row.workshop rehearsal)
  sendReaches : ∀ scheduler claim row, w.current scheduler = some claim →
    w.calls.lookup scheduler = none →
    w.schedule.db.rehearsals.lookup claim.rehearsal = some row →
    row.claimedBy scheduler claim = true →
    acceptRehearsal config driverToken claim = .ok claim.body →
    w.ReachesEffect config driverToken scheduler claim

/-! ## Calls that are seen through -/

/-- A success or a rejection, after which nothing about the effect is unclear. -/
def definitive : Response → Bool
  | .ok _ => true
  | .error error => error.status.isClientError

/-- Once a request is admitted it comes to a definitive result that is recorded. -/
def steadyStep : Stage → RequestStep → Bool
  | _, .insertReceipt fate => decide (fate ≠ .connectionLost)
  | _, .effectReturns result => definitive result
  | _, .recordResult fate => decide (fate = .committed)
  | .admitting, .drop => true
  | _, .drop => false
  | _, _ => true

/-- A scheduler stays with its call, a rehearsal is not claimed again while a call
for it is in flight, a claim that was taken over is not sent, the driver is steady,
and the client gives up only on a request that was dropped before its admission. -/
def World.steady (w : World) : WorldEvent → Bool
  | .schedule (.crash scheduler) | .schedule (.abort scheduler) =>
    (w.calls.lookup scheduler).isNone
  | .schedule (.claimRetry scheduler _) =>
    match w.schedule.schedulers.lookup scheduler with
    | some (.retrying (candidate :: _) _) =>
      w.calls.allRows fun other _ =>
        (w.current other).all fun claim => decide (claim.rehearsal ≠ candidate.rehearsal)
    | _ => true
  | .send scheduler _ _ =>
    match w.current scheduler with
    | some claim =>
      (w.schedule.db.rehearsals.lookup claim.rehearsal).any (·.claimedBy scheduler claim)
    | none => true
  | .giveUp scheduler =>
    match w.calls.lookup scheduler with
    | some call =>
      match (w.driver.requests.lookup call.request).map Request.stage with
      | some .dropped => true
      | _ => false
    | none => true
  | .drive request step =>
    match w.driver.requests.lookup request with
    | some found =>
      decide (found.body.action ≠ .rehearse) || steadyStep found.stage step
    | none => true
  | _ => true

/-! ## One request -/

/-- Where a call can be: the stage of its request, the receipt and the results of
the effect under its key. -/
inductive Attempted (digest : String) : Stage → Option Receipt → List Response → Prop
  | waiting : Attempted digest .admitting none []
  | refused : Attempted digest (.answered (.error .internal)) none []
  | lost : Attempted digest .dropped none []
  | admitted {stage : Stage} (after : stage = .queued ∨ stage = .ready ∨ stage = .executing) :
      Attempted digest stage (some ⟨digest, .inProgress, none⟩) []
  | returned {result : Response} (clear : definitive result = true) :
      Attempted digest (.recording result) (some ⟨digest, .inProgress, none⟩) [result]
  | recorded {result : Response} (clear : definitive result = true) :
      Attempted digest (.answered result)
        (some ⟨digest, (recordedResult result).1, (recordedResult result).2⟩) [result]

/-- The results of the effect after a step. -/
def resultsAfter (results : List Response) : RequestStep → List Response
  | .effectReturns result => result :: results
  | _ => results

variable {cell : Option Receipt} {stage : Stage} {request : Nat} {found : Request}

theorem Attempted.advance {config : DriverConfig} {body : TenantRequest} {changed : Option Receipt}
    {next : Stage} {step : RequestStep} {results : List Response}
    (h : Attempted (config.digest body.payload) stage cell results) (hlease : body.lease = none)
    (hsteady : steadyStep stage step = true)
    (hadvance : Driver.advance config body cell stage step = some (changed, next)) :
    Attempted (config.digest body.payload) next changed (resultsAfter results step) := by
  cases h with
  | waiting =>
    cases step with
    | insertReceipt fate =>
      cases fate with
      | committed =>
        cases hadvance
        exact .admitted (Or.inl rfl)
      | failed =>
        cases hadvance
        exact .refused
      | connectionLost => cases hsteady
    | drop =>
      cases hadvance
      exact .lost
    | _ => cases hadvance
  | refused | lost | recorded clear => cases step <;> cases hadvance
  | admitted after =>
    rcases after with rfl | rfl | rfl
    · cases step with
      | takeLock =>
        simp only [Driver.advance, hlease] at hadvance
        cases hadvance
        exact .admitted (Or.inr (Or.inl rfl))
      | drop => cases hsteady
      | _ => cases hadvance
    · cases step with
      | enterEffect =>
        cases hadvance
        exact .admitted (Or.inr (Or.inr rfl))
      | drop => cases hsteady
      | _ => cases hadvance
    · cases step with
      | effectReturns result =>
        cases hadvance
        exact .returned hsteady
      | drop => cases hsteady
      | _ => cases hadvance
  | returned clear =>
    cases step with
    | recordResult fate =>
      have hfate : fate = .committed := of_decide_eq_true hsteady
      subst fate
      cases hadvance
      exact .recorded clear
    | drop => cases hsteady
    | _ => cases hadvance

/-! ## The driver seen from one key -/

/-- Nothing about the key is different. -/
structure SameAt (before after : DriverState) (key : ReceiptKey) : Prop where
  receipt : after.receipts.lookup key = before.receipts.lookup key
  results : resultsFor after key = resultsFor before key
  requests : ∀ request found, found.key = key →
    (after.requests.lookup request = some found ↔ before.requests.lookup request = some found)

theorem SameAt.quiet {before after : DriverState} {key : ReceiptKey}
    (h : SameAt before after key) (hquiet : Quiet before key) : Quiet after key := by
  intro request found hfound hkey
  exact hquiet request found ((h.requests request found hkey).mp hfound) hkey

theorem sameAt_moveTo {step : RequestStep} {key : ReceiptKey}
    (hfound : driver.requests.lookup request = some found) (hkey : key ≠ found.key) :
    SameAt driver (driver.moveTo request found step cell stage) key where
  receipt := lookup_receipts_moveTo_of_ne hkey
  results := by
    have hne : ¬ found.key = key := fun heq => hkey heq.symm
    cases step with
    | effectReturns result =>
      simp [resultsFor, DriverState.moveTo, DriverState.completedAfter, hne]
    | _ => rfl
  requests other value hvalue := by
    by_cases hother : other = request
    · subst other
      rw [lookup_requests_moveTo, hfound]
      constructor
      · intro h
        cases h
        exact absurd hvalue.symm hkey
      · intro h
        cases h
        exact absurd hvalue.symm hkey
    · rw [lookup_requests_moveTo_of_ne hother]

theorem sameAt_receive {key : ReceiptKey} (hnew : driver.requests.lookup request = none)
    (hkey : key ≠ found.key) :
    SameAt driver { driver with requests := driver.requests.insert request found } key where
  receipt := rfl
  results := rfl
  requests other value hvalue := by
    by_cases hother : other = request
    · subst other
      simp only [AList.lookup_insert, hnew, Option.some.injEq, reduceCtorEq, iff_false]
      rintro rfl
      exact hkey hvalue.symm
    · simp only [AList.lookup_insert_ne hother]

/-! ## The invariant -/

/-- No attempt of the rehearsal has left a trace in the driver. -/
structure Untouched (driver : DriverState) (key : ReceiptKey) : Prop where
  receipt : driver.receipts.lookup key = none
  results : resultsFor driver key = []
  quiet : Quiet driver key

/-- The scheduler runs the claim, and the row is running under it. -/
def Holding (s : System) (scheduler : Uuid) (claim : RehearsalClaim) : Prop :=
  (∃ later, s.schedulers.lookup scheduler = some (.rehearsing claim later)) ∧
    ∃ row, s.db.rehearsals.lookup claim.rehearsal = some row ∧ row.claimedBy scheduler claim = true

/-- The request of a call, the only one under its key that can still move. -/
structure Driving (config : DriverConfig) (driver : DriverState) (request : Nat)
    (claim : RehearsalClaim) (found : Request) : Prop where
  sent : driver.requests.lookup request = some found
  body : found.body = claim.body
  attempted : Attempted (config.digest claim.body.payload) found.stage
    (driver.receipts.lookup claim.key) (resultsFor driver claim.key)
  alone : ∀ other value, driver.requests.lookup other = some value → value.key = claim.key →
    other ≠ request → value.stage.finished = true

/-- The rehearsal has its last result, and a failure is a failure of the effect. -/
def Over (s : System) (driver : DriverState) (workshop rehearsal : Uuid) : Prop :=
  Quiet driver (rehearsalKey workshop rehearsal) ∧
    ∃ row, s.db.rehearsals.lookup rehearsal = some row ∧ row.isOpen = false ∧
      ∀ finishedAt safeError value, row.state = .failed finishedAt safeError none →
        .ok value ∉ resultsFor driver (rehearsalKey workshop rehearsal)

structure World.Sound (config : DriverConfig) (w : World) : Prop where
  /-- Every call in flight belongs to a claim that is still held. -/
  placed : ∀ scheduler call, w.calls.lookup scheduler = some call →
    ∃ claim found, Holding w.schedule scheduler claim ∧
      Driving config w.driver call.request claim found
  /-- Every rehearsal is untouched, over, or in the hands of a call. -/
  settled : ∀ workshop rehearsal, Untouched w.driver (rehearsalKey workshop rehearsal) ∨
    Over w.schedule w.driver workshop rehearsal ∨
    ∃ scheduler call claim, w.calls.lookup scheduler = some call ∧
      Holding w.schedule scheduler claim ∧ claim.key = rehearsalKey workshop rehearsal
  /-- Only schedulers send rehearsals. -/
  named : ∀ request found, w.driver.requests.lookup request = some found →
    found.body.action = .rehearse → ∃ workshop rehearsal, found.key = rehearsalKey workshop
      rehearsal

section Invariant

variable {config : DriverConfig} {driverToken : String} {w : World} {s t : System}
  {scheduler : Uuid} {claim : RehearsalClaim}

variable {later : List RehearsalClaim} {other rehearsal workshop : Uuid} {row : Rehearsal}
  {event : Event} {driver after : DriverState} {calls : Table Uuid Call} {answer : DriverAnswer}
  {next : World} {found : Request} {request : Nat} {cell : Option Receipt} {stage : Stage}

theorem Holding.pass {current : RehearsalClaim} (h : Holding s scheduler claim)
    (hpass : s.schedulers.lookup scheduler = some (.rehearsing current later)) :
    claim = current := by
  obtain ⟨⟨rest, hrest⟩, -⟩ := h
  cases hpass.symm.trans hrest
  rfl

/-- A row runs under one lease, so one scheduler holds it. -/
theorem Holding.owner (h : Holding s scheduler claim) {another : RehearsalClaim}
    (hrow : s.db.rehearsals.lookup claim.rehearsal = some row)
    (hclaimed : row.claimedBy other another = true) : scheduler = other := by
  obtain ⟨-, found, hfound, hheld⟩ := h
  cases hrow.symm.trans hfound
  obtain ⟨-, lease, hstate, rfl, -⟩ := claimedBy_iff.mp hclaimed
  obtain ⟨-, lease', hstate', rfl, -⟩ := claimedBy_iff.mp hheld
  cases hstate.symm.trans hstate'
  rfl

theorem Rehearsal.isOpen_of_claimedBy (h : row.claimedBy scheduler claim = true) :
    row.isOpen = true := by
  obtain ⟨-, lease, hstate, -⟩ := claimedBy_iff.mp h
  exact isOpen_of_isRunning (by simp [isRunning, hstate])

/-! ## Steps of the schedulers -/

/-- The event stops the scheduler or its pass. -/
def Event.stops : Event → Uuid → Bool
  | .crash scheduler, other | .abort scheduler, other => decide (scheduler = other)
  | _, _ => false

def Event.finishes : Event → Bool
  | .finish _ _ => true
  | _ => false

theorem lookup_enter_of_rehearsing {pass before : Pass}
    (hbefore : s.schedulers.lookup scheduler = some before)
    (hidle : ∀ current rest, before ≠ .rehearsing current rest)
    (hpass : s.schedulers.lookup other = some (.rehearsing claim later)) :
    (s.enter scheduler pass).schedulers.lookup other = some (.rehearsing claim later) := by
  have hne : other ≠ scheduler := by
    rintro rfl
    cases hbefore.symm.trans hpass
    exact hidle claim later rfl
  exact (AList.lookup_insert_ne hne).trans hpass

/-- A scheduler that runs a claim goes on with it unless it stops. -/
theorem rehearsing_step (hpass : s.schedulers.lookup scheduler = some (.rehearsing claim later))
    (hstep : s.step event = some t) (hfinish : event.finishes = false)
    (hstops : event.stops scheduler = false) :
    t.schedulers.lookup scheduler = some (.rehearsing claim later) := by
  cases event with
  | start other =>
    simp only [System.step] at hstep
    split at hstep
    · rename_i hnone
      cases hstep
      have hne : scheduler ≠ other := by
        rintro rfl
        rw [hpass] at hnone
        cases hnone
      exact (AList.lookup_insert_ne hne).trans hpass
    · cases hstep
  | crash other =>
    simp only [System.step] at hstep
    split at hstep
    · cases hstep
      have hne : scheduler ≠ other := fun heq => of_decide_eq_false hstops heq.symm
      exact (AList.lookup_erase_ne hne).trans hpass
    · cases hstep
  | abort other =>
    simp only [System.step] at hstep
    split at hstep
    · cases hstep
      have hne : scheduler ≠ other := fun heq => of_decide_eq_false hstops heq.symm
      exact (AList.lookup_insert_ne hne).trans hpass
    · cases hstep
  | discoverRetries other rows =>
    simp only [System.step] at hstep
    split at hstep
    · rename_i hbefore
      split at hstep
      · cases hstep
        exact lookup_enter_of_rehearsing hbefore (by simp) hpass
      · cases hstep
    · cases hstep
  | claimRetry other token =>
    simp only [System.step] at hstep
    split at hstep
    · rename_i candidate pending claims hbefore
      split at hstep
      · cases hstep
        exact lookup_enter_of_rehearsing hbefore (by simp) hpass
      · rename_i db granted _
        cases hstep
        exact lookup_enter_of_rehearsing (s := { s with db := db }) hbefore (by simp) hpass
    · cases hstep
  | discoverDue other rows =>
    simp only [System.step] at hstep
    split at hstep
    · rename_i claims hbefore
      split at hstep
      · cases hstep
        exact lookup_enter_of_rehearsing hbefore (by simp) hpass
      · cases hstep
    · cases hstep
  | claimNew other token rehearsal =>
    simp only [System.step] at hstep
    split at hstep
    · rename_i workshop recovery pending claims hbefore
      cases hstep
      exact lookup_enter_of_rehearsing (s := { s with db := _ }) hbefore (by simp) hpass
    · cases hstep
  | finish other answer => cases hfinish
  | advance elapsed =>
    cases hstep
    exact hpass
  | changeRecovery recovery point =>
    simp only [System.step] at hstep
    split at hstep
    · cases hstep
      exact hpass
    · cases hstep

/-- The candidate of the retry claim that an event runs. -/
def System.retries (s : System) : Event → Option RetryCandidate
  | .claimRetry scheduler _ =>
    match s.schedulers.lookup scheduler with
    | some (.retrying (candidate :: _) _) => some candidate
    | _ => none
  | _ => none

/-- Only a retry claim writes a row that is there, and only one that is open. -/
theorem row_step (hrow : s.db.rehearsals.lookup rehearsal = some row)
    (hstep : s.step event = some t) (hfinish : event.finishes = false) :
    t.db.rehearsals.lookup rehearsal = some row ∨ row.isOpen = true ∧
        ∃ candidate, s.retries event = some candidate ∧ candidate.rehearsal = rehearsal := by
  cases event with
  | claimRetry other token =>
    simp only [System.step] at hstep
    split at hstep
    swap
    · cases hstep
    rename_i candidate pending claims hpass
    rcases s.db.claimRehearsalRetry_cases other token candidate with
      hpassed | ⟨found, hfound, -, hretryable, ⟨-, hresult⟩ | ⟨-, hresult⟩⟩
    · rw [hpassed] at hstep
      cases hstep
      exact Or.inl hrow
    · rw [hresult] at hstep
      cases hstep
      exact Or.inl hrow
    · rw [hresult] at hstep
      cases hstep
      by_cases hsame : rehearsal = candidate.rehearsal
      · subst rehearsal
        cases hrow.symm.trans hfound
        exact Or.inr ⟨System.isOpen_of_retryable hretryable, candidate,
          by simp [System.retries, hpass], rfl⟩
      · exact Or.inl ((AList.lookup_insert_ne hsame).trans hrow)
  | claimNew other token new =>
    simp only [System.step] at hstep
    split at hstep
    swap
    · cases hstep
    rename_i workshop recovery pending claims hpass
    rcases s.db.claimNewRehearsal_cases other token new workshop recovery with
      hpassed | ⟨-, hnew, hresult⟩
    · rw [hpassed] at hstep
      cases hstep
      exact Or.inl hrow
    · rw [hresult] at hstep
      cases hstep
      have hne : rehearsal ≠ new := by
        rintro rfl
        cases hnew.symm.trans hrow
      exact Or.inl ((AList.lookup_insert_ne hne).trans hrow)
  | finish other answer => cases hfinish
  | advance elapsed =>
    cases hstep
    exact Or.inl hrow
  | discoverRetries other rows | discoverDue other rows =>
    simp only [System.step] at hstep
    split at hstep
    · split at hstep
      · cases hstep
        exact Or.inl hrow
      · cases hstep
    · cases hstep
  | start other | crash other | abort other | changeRecovery recovery point =>
    simp only [System.step] at hstep
    split at hstep
    · cases hstep
      exact Or.inl hrow
    · cases hstep

theorem Holding.step (h : Holding s scheduler claim) (hstep : s.step event = some t)
    (hfinish : event.finishes = false) (hstops : event.stops scheduler = false)
    (hretries : ∀ candidate, s.retries event = some candidate →
      claim.rehearsal ≠ candidate.rehearsal) : Holding t scheduler claim := by
  obtain ⟨⟨later, hpass⟩, row, hrow, hclaimed⟩ := h
  refine ⟨⟨later, rehearsing_step hpass hstep hfinish hstops⟩, row, ?_, hclaimed⟩
  rcases row_step hrow hstep hfinish with hkept | ⟨-, candidate, hcandidate, hsame⟩
  · exact hkept
  · exact absurd hsame.symm (hretries candidate hcandidate)

theorem Over.step (h : Over s driver workshop rehearsal) (hstep : s.step event = some t)
    (hfinish : event.finishes = false) : Over t driver workshop rehearsal := by
  obtain ⟨hquiet, row, hrow, hclosed, hfailed⟩ := h
  refine ⟨hquiet, row, ?_, hclosed, hfailed⟩
  rcases row_step hrow hstep hfinish with hkept | ⟨hopen, -⟩
  · exact hkept
  · rw [hopen] at hclosed
    cases hclosed

theorem World.Sound.reschedule (hw : w.Sound config) (hstep : w.schedule.step event = some t)
    (hfinish : event.finishes = false)
    (hcalls : ∀ scheduler, calls.lookup scheduler = w.calls.lookup scheduler)
    (hstops : ∀ scheduler call, w.calls.lookup scheduler = some call →
      event.stops scheduler = false)
    (hretries : ∀ scheduler call claim, w.calls.lookup scheduler = some call →
      Holding w.schedule scheduler claim → ∀ candidate, w.schedule.retries event = some candidate →
        claim.rehearsal ≠ candidate.rehearsal) :
    Sound config { w with schedule := t, calls := calls } where
  placed scheduler call hcall := by
    have hbefore := (hcalls scheduler).symm.trans hcall
    obtain ⟨claim, found, hholding, hdriving⟩ := hw.placed scheduler call hbefore
    exact ⟨claim, found, hholding.step hstep hfinish (hstops scheduler call hbefore)
      (hretries scheduler call claim hbefore hholding), hdriving⟩
  settled workshop rehearsal := by
    rcases hw.settled workshop rehearsal with huntouched | hover |
      ⟨scheduler, call, claim, hcall, hholding, hkey⟩
    · exact Or.inl huntouched
    · exact Or.inr (Or.inl (hover.step hstep hfinish))
    · exact Or.inr (Or.inr ⟨scheduler, call, claim, (hcalls scheduler).trans hcall,
        hholding.step hstep hfinish (hstops scheduler call hcall)
          (hretries scheduler call claim hcall hholding), hkey⟩)
  named := hw.named

/-! ## The end of a call -/

/-- A rehearsal of which no call is in flight is untouched while it runs. -/
theorem World.Sound.untouched (hw : w.Sound config)
    (hrow : w.schedule.db.rehearsals.lookup claim.rehearsal = some row)
    (hclaimed : row.claimedBy scheduler claim = true) (hcall : w.calls.lookup scheduler = none) :
    Untouched w.driver claim.key := by
  have hopen := isOpen_of_claimedBy hclaimed
  rcases hw.settled claim.workshop claim.rehearsal with huntouched | ⟨-, found, hfound, hclosed,
    -⟩ |
    ⟨other, call, another, hother, hholding, hkey⟩
  · exact huntouched
  · cases hrow.symm.trans hfound
    rw [hopen] at hclosed
    cases hclosed
  · obtain ⟨-, hsame⟩ := rehearsalKey_injective hkey
    have howner := hholding.owner (hsame.symm ▸ hrow) hclaimed
    subst other
    cases hcall.symm.trans hother

theorem World.step_drive {step : RequestStep}
    (h : w.driver.step config (.progress request step) = some after) :
    w.step config driverToken (.drive request step) = some { w with driver := after } := by
  simp [World.step, h]

/-- Without a receipt under its key, the request inserts one, takes the lock and enters the
effect. -/
theorem World.reachesEffect (hcurrent : w.current scheduler = some claim)
    (hcall : w.calls.lookup scheduler = none)
    (haccept : acceptRehearsal config driverToken claim = .ok claim.body)
    (hreceipt : w.driver.receipts.lookup claim.key = none) :
    w.ReachesEffect config driverToken scheduler claim := by
  intro request process hnew hlock
  let sent : DriverState := { w.driver with
    requests := w.driver.requests.insert request ⟨process, claim.body, .admitting⟩ }
  have hsend : w.step config driverToken (.send scheduler request process) =
      some { w with
        driver := sent, calls := w.calls.insert scheduler ⟨request, w.schedule.db.now⟩ } := by
    simp only [World.step, hcurrent, hcall, haccept, hnew, Option.isSome_none, Bool.false_eq_true,
      if_false]
    rfl
  let inserted : Receipt := ⟨config.digest claim.body.payload, .inProgress, none⟩
  let admitted := sent.moveTo request ⟨process, claim.body, .admitting⟩
    (.insertReceipt .committed) (some inserted) .queued
  have hinsert : sent.step config (.progress request (.insertReceipt .committed)) =
      some admitted := by
    refine DriverState.step_progress (AList.lookup_insert _) rfl ?_
    change Driver.advance config claim.body (w.driver.receipts.lookup claim.key) _ _ = _
    rw [hreceipt]
    rfl
  let locked := admitted.moveTo request ⟨process, claim.body, .queued⟩ .takeLock
    (admitted.receipts.lookup claim.key) .ready
  have htake : admitted.step config (.progress request .takeLock) = some locked :=
    DriverState.step_progress lookup_requests_moveTo (Option.isNone_iff_eq_none.mpr hlock) rfl
  have henter : locked.step config (.progress request .enterEffect) = some
      (locked.moveTo request ⟨process, claim.body, .ready⟩ .enterEffect
        (locked.receipts.lookup claim.key) .executing) :=
    DriverState.step_progress lookup_requests_moveTo rfl rfl
  exact ⟨_, .cons trivial hsend (.cons trivial (step_drive hinsert) (.cons trivial
    (step_drive htake) (.single trivial (step_drive henter)))), lookup_requests_moveTo⟩

theorem World.Sound.consistent (hw : w.Sound config) : w.Consistent config driverToken where
  successKept rehearsal row value finishedAt safeError hrow hsuccess hstate := by
    have hmem := mem_resultsFor.mpr hsuccess
    rcases hw.settled row.workshop rehearsal with huntouched | ⟨-, found, hfound, -, hfailed⟩ |
      ⟨scheduler, call, claim, -, ⟨-, found, hfound, hclaimed⟩, hkey⟩
    · rw [huntouched.results] at hmem
      cases hmem
    · cases hrow.symm.trans hfound
      exact hfailed finishedAt safeError value hstate hmem
    · obtain ⟨-, rfl⟩ := rehearsalKey_injective hkey
      cases hrow.symm.trans hfound
      obtain ⟨-, lease, hrunning, -⟩ := claimedBy_iff.mp hclaimed
      cases hstate.symm.trans hrunning
  retryExecutes rehearsal row finishedAt safeError nextAttemptAt hrow hstate := by
    rcases hw.settled row.workshop rehearsal with huntouched | ⟨-, found, hfound, hclosed, -⟩ |
      ⟨scheduler, call, claim, -, ⟨-, found, hfound, hclaimed⟩, hkey⟩
    · exact ⟨huntouched.receipt, huntouched.quiet⟩
    · cases hrow.symm.trans hfound
      simp [isOpen, isRunning, awaitsRetry, hstate] at hclosed
    · obtain ⟨-, rfl⟩ := rehearsalKey_injective hkey
      cases hrow.symm.trans hfound
      obtain ⟨-, lease, hrunning, -⟩ := claimedBy_iff.mp hclaimed
      cases hstate.symm.trans hrunning
  claimExecutes rehearsal row hrow hrunning hunsent := by
    rcases hw.settled row.workshop rehearsal with huntouched | ⟨-, found, hfound, hclosed, -⟩ |
      ⟨scheduler, call, claim, hcall, ⟨⟨later, hpass⟩, -⟩, hkey⟩
    · exact ⟨huntouched.receipt, huntouched.quiet⟩
    · cases hrow.symm.trans hfound
      rw [isOpen_of_isRunning hrunning] at hclosed
      cases hclosed
    · have hcurrent : w.current scheduler = some claim := by simp only [current, hpass]
      exact absurd (rehearsalKey_injective hkey).2 (hunsent scheduler call claim hcall hcurrent)
  sendReaches scheduler claim row hcurrent hcall hrow hclaimed haccept :=
    reachesEffect hcurrent hcall haccept (hw.untouched hrow hclaimed hcall).receipt

section

variable (hstep : s.step (.finish scheduler answer) = some t)

include hstep

/-- Recording an answer writes the row of a claim that is still held, or ends the pass. -/
theorem finish_cases :
    ∃ current later, s.schedulers.lookup scheduler = some (.rehearsing current later) ∧
      ((∃ row, s.db.rehearsals.lookup current.rehearsal = some row ∧
          row.claimedBy scheduler current = true ∧
          t.db = s.db.write current.rehearsal (row.recorded s.db.now current.attempts answer)) ∨
        (¬ Holding s scheduler current) ∧ t.db = s.db) ∧
      ∀ other, other ≠ scheduler → t.schedulers.lookup other = s.schedulers.lookup other := by
  simp only [System.step] at hstep
  split at hstep
  swap
  · cases hstep
  rename_i current later hpass
  refine ⟨current, later, hpass, ?_⟩
  cases hfinish : s.db.finishRehearsal scheduler current answer with
  | some db =>
    rw [hfinish] at hstep
    cases hstep
    obtain ⟨row, hrow, hclaimed, rfl⟩ := Db.finishRehearsal_eq_some_iff.mp hfinish
    exact ⟨Or.inl ⟨row, hrow, hclaimed, rfl⟩, fun other hne => AList.lookup_insert_ne hne⟩
  | none =>
    rw [hfinish] at hstep
    cases hstep
    refine ⟨Or.inr ⟨?_, rfl⟩, fun other hne => AList.lookup_insert_ne hne⟩
    rintro ⟨-, row, hrow, hclaimed⟩
    rw [Db.finishRehearsal_eq_some_iff.mpr ⟨row, hrow, hclaimed, rfl⟩] at hfinish
    cases hfinish

theorem Holding.finish (h : Holding s other claim) (hne : other ≠ scheduler) :
    Holding t other claim := by
  obtain ⟨current, later, -, hdb, hothers⟩ := finish_cases hstep
  obtain ⟨⟨rest, hrest⟩, found, hfound, hheld⟩ := id h
  refine ⟨⟨rest, (hothers other hne).trans hrest⟩, found, ?_, hheld⟩
  rcases hdb with ⟨row, hrow, hclaimed, hwritten⟩ | ⟨-, hsame⟩
  · have hrehearsal : claim.rehearsal ≠ current.rehearsal := by
      intro heq
      exact hne (h.owner (heq.symm ▸ hrow) hclaimed)
    rw [hwritten]
    exact (AList.lookup_insert_ne hrehearsal).trans hfound
  · rw [hsame]
    exact hfound

theorem Over.finish (h : Over s driver workshop rehearsal) : Over t driver workshop rehearsal := by
  obtain ⟨hquiet, found, hfound, hclosed, hfailed⟩ := h
  refine ⟨hquiet, found, ?_, hclosed, hfailed⟩
  obtain ⟨current, later, -, ⟨row, hrow, hclaimed, hwritten⟩ | ⟨-, hsame⟩, -⟩ := finish_cases hstep
  · have hne : rehearsal ≠ current.rehearsal := by
      rintro rfl
      cases hrow.symm.trans hfound
      rw [isOpen_of_claimedBy hclaimed] at hclosed
      cases hclosed
    rw [hwritten]
    exact (AList.lookup_insert_ne hne).trans hfound
  · rw [hsame]
    exact hfound

end

/-- Recording a result keeps the invariant when it leaves the rehearsal untouched, or
ends it without losing a success. -/
theorem World.Sound.record (hw : w.Sound config) (hrecord : w.record scheduler answer = some next)
    (hresult : ∀ call claim row, w.calls.lookup scheduler = some call →
      Holding w.schedule scheduler claim →
      w.schedule.db.rehearsals.lookup claim.rehearsal = some row →
      Untouched w.driver claim.key ∨ Quiet w.driver claim.key ∧
          (row.recorded w.schedule.db.now claim.attempts answer).isOpen = false ∧
          (answer.isSuccess = true ∨ ∀ value, .ok value ∉ resultsFor w.driver claim.key)) :
    next.Sound config := by
  obtain ⟨t, hstep, rfl⟩ := Option.map_eq_some_iff.mp hrecord
  refine ⟨?_, ?_, hw.named⟩
  · intro other call hcall
    have hne : other ≠ scheduler := by
      rintro rfl
      rw [AList.lookup_erase] at hcall
      cases hcall
    rw [AList.lookup_erase_ne hne] at hcall
    obtain ⟨claim, found, hholding, hdriving⟩ := hw.placed other call hcall
    exact ⟨claim, found, hholding.finish hstep hne, hdriving⟩
  · intro workshop rehearsal
    rcases hw.settled workshop rehearsal with huntouched | hover |
      ⟨other, call, claim, hcall, hholding, hkey⟩
    · exact Or.inl huntouched
    · exact Or.inr (Or.inl (hover.finish hstep))
    by_cases hne : other = scheduler
    · -- The call that ends here.
      subst other
      obtain ⟨current, later, hpass, hdb, -⟩ := finish_cases hstep
      cases hholding.pass hpass
      rcases hdb with ⟨row, hrow, hclaimed, hwritten⟩ | ⟨hlost, -⟩
      · obtain ⟨rfl, rfl⟩ := rehearsalKey_injective hkey
        rcases hresult call claim row hcall hholding hrow with
          huntouched | ⟨hquiet, hclosed, hsuccess⟩
        · exact Or.inl huntouched
        refine Or.inr (Or.inl ⟨hquiet, _, ?_, hclosed, ?_⟩)
        · rw [hwritten]
          exact AList.lookup_insert _
        · intro finishedAt safeError value hstate
          rcases hsuccess with hyes | hno
          · simp [recorded, recordedState, hyes] at hstate
          · exact hno value
      · exact absurd hholding hlost
    · exact Or.inr (Or.inr ⟨other, call, claim, (AList.lookup_erase_ne hne).trans hcall,
        hholding.finish hstep hne, hkey⟩)

/-! ## Steps of the driver -/

section SameAt

variable {driver after : DriverState} {request : Nat} {found : Request}

section

variable (h : Driving config driver request claim found)

include h

theorem Driving.key : found.key = claim.key := by
  rw [Request.key, h.body]
  rfl

theorem Driving.sameAt (hsame : SameAt driver after claim.key) :
    Driving config after request claim found where
  sent := (hsame.requests request found h.key).mpr h.sent
  body := h.body
  attempted := by
    rw [hsame.receipt, hsame.results]
    exact h.attempted
  alone other value hvalue hkey :=
    h.alone other value ((hsame.requests other value hkey).mp hvalue) hkey

/-- When the request of a call has ended, nothing moves under its key. -/
theorem Driving.quiet (hfinished : found.stage.finished = true) : Quiet driver claim.key := by
  intro other value hvalue hkey
  by_cases hother : other = request
  · subst other
    cases h.sent.symm.trans hvalue
    exact hfinished
  · exact h.alone other value hvalue hkey hother

end

theorem Untouched.sameAt {key : ReceiptKey} (h : Untouched driver key)
    (hsame : SameAt driver after key) : Untouched after key where
  receipt := hsame.receipt.trans h.receipt
  results := hsame.results.trans h.results
  quiet := hsame.quiet h.quiet

theorem Over.sameAt {workshop rehearsal : Uuid} (h : Over s driver workshop rehearsal)
    (hsame : SameAt driver after (rehearsalKey workshop rehearsal)) :
    Over s after workshop rehearsal := by
  obtain ⟨hquiet, row, hrow, hclosed, hfailed⟩ := h
  refine ⟨hsame.quiet hquiet, row, hrow, hclosed, ?_⟩
  intro finishedAt safeError value hstate
  rw [hsame.results]
  exact hfailed finishedAt safeError value hstate

theorem advance_of_finished {body : TenantRequest} {cell : Option Receipt} {stage : Stage}
    {step : RequestStep} (h : stage.finished = true) :
    Driver.advance config body cell stage step = none := by
  cases stage <;> cases h <;> cases step <;> rfl

end SameAt

theorem World.Sound.elsewhere (hw : w.Sound config)
    (hsame : ∀ workshop rehearsal, SameAt w.driver after (rehearsalKey workshop rehearsal))
    (hnamed : ∀ request found, after.requests.lookup request = some found →
      found.body.action = .rehearse →
      ∃ workshop rehearsal, found.key = rehearsalKey workshop rehearsal) :
    Sound config { w with driver := after } where
  placed scheduler call hcall := by
    obtain ⟨claim, found, hholding, hdriving⟩ := hw.placed scheduler call hcall
    exact ⟨claim, found, hholding, hdriving.sameAt (hsame _ _)⟩
  settled workshop rehearsal := by
    rcases hw.settled workshop rehearsal with huntouched | hover | hcalling
    · exact Or.inl (huntouched.sameAt (hsame _ _))
    · exact Or.inr (Or.inl (hover.sameAt (hsame _ _)))
    · exact Or.inr (Or.inr hcalling)
  named := hnamed

variable {call : Call} {process : Nat}

theorem World.Sound.atCall (hw : w.Sound config) (hholding : Holding w.schedule scheduler claim)
    (hdriving : Driving config after call.request claim found)
    (hcall : calls.lookup scheduler = some call)
    (hcalls : ∀ other, other ≠ scheduler → calls.lookup other = w.calls.lookup other)
    (hsame : ∀ workshop rehearsal, rehearsalKey workshop rehearsal ≠ claim.key →
      SameAt w.driver after (rehearsalKey workshop rehearsal))
    (hnamed : ∀ request found, after.requests.lookup request = some found →
      found.body.action = .rehearse →
      ∃ workshop rehearsal, found.key = rehearsalKey workshop rehearsal) :
    Sound config { w with driver := after, calls := calls } where
  placed other otherCall hother := by
    by_cases hne : other = scheduler
    · subst other
      cases hcall.symm.trans hother
      exact ⟨claim, found, hholding, hdriving⟩
    · obtain ⟨another, otherFound, hanother, hrest⟩ :=
        hw.placed other otherCall ((hcalls other hne).symm.trans hother)
      refine ⟨another, otherFound, hanother, hrest.sameAt (hsame _ _ ?_)⟩
      intro heq
      obtain ⟨-, hrehearsal⟩ := rehearsalKey_injective heq
      obtain ⟨-, row, hrow, hclaimed⟩ := hholding
      exact hne (hanother.owner (hrehearsal.symm ▸ hrow) hclaimed)
  settled workshop rehearsal := by
    by_cases hkey : rehearsalKey workshop rehearsal = claim.key
    · exact Or.inr (Or.inr ⟨scheduler, call, claim, hcall, hholding, hkey.symm⟩)
    rcases hw.settled workshop rehearsal with huntouched | hover |
      ⟨other, otherCall, another, hother, hanother, hsameKey⟩
    · exact Or.inl (huntouched.sameAt (hsame _ _ hkey))
    · exact Or.inr (Or.inl (hover.sameAt (hsame _ _ hkey)))
    have hne : other ≠ scheduler := by
      rintro rfl
      obtain ⟨⟨later, hpass⟩, -⟩ := hholding
      cases hanother.pass hpass
      exact hkey hsameKey.symm
    exact Or.inr (Or.inr ⟨other, otherCall, another, (hcalls other hne).trans hother,
      hanother, hsameKey⟩)
  named := hnamed

theorem resultsFor_moveTo {step : RequestStep} :
    resultsFor (driver.moveTo request found step cell stage) found.key =
      resultsAfter (resultsFor driver found.key) step := by
  cases step with
  | effectReturns result =>
    simp [resultsFor, resultsAfter, DriverState.moveTo, DriverState.completedAfter]
  | _ => rfl

theorem Driving.moveTo {step : RequestStep} (h : Driving config driver request claim found)
    (hsteady : steadyStep found.stage step = true)
    (hadvance : Driver.advance config found.body (driver.receipts.lookup found.key) found.stage
      step = some (cell, stage)) :
    Driving config (driver.moveTo request found step cell stage) request claim
      { found with stage := stage } where
  sent := lookup_requests_moveTo
  body := h.body
  attempted := by
    have hattempted := h.attempted
    rw [← h.key] at hattempted ⊢
    rw [lookup_receipts_moveTo (advance_moved hadvance), resultsFor_moveTo]
    rw [← h.body] at hattempted ⊢
    exact hattempted.advance (by rw [h.body]; rfl) hsteady hadvance
  alone other value hvalue hkey hother :=
    h.alone other value ((lookup_requests_moveTo_of_ne hother).symm.trans hvalue) hkey hother

theorem named_moveTo {step : RequestStep} (hw : w.Sound config)
    (hfound : w.driver.requests.lookup request = some found) :
    ∀ other value, (w.driver.moveTo request found step cell stage).requests.lookup other =
        some value → value.body.action = .rehearse →
      ∃ workshop rehearsal, value.key = rehearsalKey workshop rehearsal := by
  intro other value hvalue haction
  rcases lookup_requests_moveTo_cases hvalue with ⟨-, rfl⟩ | ⟨-, hbefore⟩
  · exact hw.named request found hfound haction
  · exact hw.named other value hbefore haction

theorem World.Sound.drive {step : RequestStep} (hw : w.Sound config)
    (hgood : w.steady (.drive request step) = true)
    (hstep : w.driver.step config (.progress request step) = some after) :
    Sound config { w with driver := after } := by
  simp only [DriverState.step] at hstep
  split at hstep
  · cases hstep
  rename_i found hfound
  simp only [steady, hfound] at hgood
  split at hstep
  swap
  · cases hstep
  split at hstep
  · cases hstep
  rename_i cell stage hadvance
  cases hstep
  have hmoving : found.stage.finished = false := by
    cases hfinished : found.stage.finished with
    | false => rfl
    | true => rw [advance_of_finished hfinished] at hadvance; cases hadvance
  by_cases haction : found.body.action = .rehearse
  · have hsteady : steadyStep found.stage step = true := by simpa [haction] using hgood
    obtain ⟨workshop, rehearsal, hkey⟩ := hw.named request found hfound haction
    have hnotQuiet : ¬ Quiet w.driver (rehearsalKey workshop rehearsal) := by
      intro hquiet
      rw [hquiet request found hfound hkey] at hmoving
      cases hmoving
    rcases hw.settled workshop rehearsal with huntouched | hover |
      ⟨scheduler, call, claim, hcall, hholding, hclaim⟩
    · exact absurd huntouched.quiet hnotQuiet
    · exact absurd hover.1 hnotQuiet
    obtain ⟨placed, sent, hplaced, hdriving⟩ := hw.placed scheduler call hcall
    obtain ⟨⟨later, hpass⟩, -⟩ := id hplaced
    cases hholding.pass hpass
    -- The request is the one of the call: every other under the key has ended.
    have hrequest : request = call.request := by
      by_contra hne
      rw [hdriving.alone request found hfound (hkey.trans hclaim.symm) hne] at hmoving
      cases hmoving
    subst hrequest
    cases hdriving.sent.symm.trans hfound
    refine hw.atCall hholding (hdriving.moveTo hsteady hadvance) hcall
      (fun other _ => rfl) ?_ (named_moveTo hw hfound)
    intro other another hne
    exact sameAt_moveTo hfound (hdriving.key.symm ▸ hne)
  · refine hw.elsewhere ?_ (named_moveTo hw hfound)
    intro workshop rehearsal
    refine sameAt_moveTo hfound ?_
    intro heq
    exact haction (congrArg ReceiptKey.action heq).symm

theorem World.Sound.receive {headers : TenantHeaders} {action : String} {payload : Json}
    (hw : w.Sound config) (haction : DriverAction.parse action ≠ some .rehearse)
    (hstep : w.driver.step config (.receive request process headers workshop action payload) =
      some after) : Sound config { w with driver := after } := by
  simp only [DriverState.step] at hstep
  split at hstep
  · cases hstep
  rename_i hfresh
  have hnew : w.driver.requests.lookup request = none := by simpa using hfresh
  split at hstep
  · cases hstep
    exact hw
  rename_i body haccept
  split at hstep
  swap
  · cases hstep
  cases hstep
  have hbody : body.action ≠ .rehearse := by
    intro heq
    exact haction ((acceptTenantRequest_spec haccept).2.1.trans (congrArg some heq))
  refine hw.elsewhere ?_ ?_
  · intro other rehearsal
    refine sameAt_receive hnew ?_
    intro heq
    exact hbody (congrArg ReceiptKey.action heq).symm
  · exact forall_insert hw.named fun hrehearse => absurd hrehearse hbody

/-! ## Steps of a call -/

theorem World.Sound.send (hw : w.Sound config)
    (hpass : w.schedule.schedulers.lookup scheduler = some (.rehearsing claim later))
    (hrow : w.schedule.db.rehearsals.lookup claim.rehearsal = some row)
    (hclaimed : row.claimedBy scheduler claim = true) (hcall : w.calls.lookup scheduler = none)
    (hnew : w.driver.requests.lookup request = none) (sentAt : Timestamp) :
    Sound config { w with
      driver := { w.driver with
        requests := w.driver.requests.insert request ⟨process, claim.body, .admitting⟩ }
      calls := w.calls.insert scheduler ⟨request, sentAt⟩ } := by
  have huntouched := hw.untouched hrow hclaimed hcall
  let after : DriverState := { w.driver with
    requests := w.driver.requests.insert request ⟨process, claim.body, .admitting⟩ }
  have hdriving : Driving config after request claim ⟨process, claim.body, .admitting⟩ := by
    refine ⟨AList.lookup_insert _, rfl, ?_, ?_⟩
    · have hreceipt : after.receipts.lookup claim.key = none := huntouched.receipt
      have hresults : resultsFor after claim.key = [] := huntouched.results
      rw [hreceipt, hresults]
      exact .waiting
    · intro other value hvalue hkey hne
      exact huntouched.quiet other value ((AList.lookup_insert_ne hne).symm.trans hvalue) hkey
  refine hw.atCall ⟨⟨later, hpass⟩, row, hrow, hclaimed⟩ hdriving (AList.lookup_insert _)
    (fun other hne => AList.lookup_insert_ne hne) (fun _ _ hne => sameAt_receive hnew hne) ?_
  exact forall_insert hw.named fun haction => ⟨claim.workshop, claim.rehearsal, rfl⟩

/-- A rejection is final for the scheduler. -/
theorem driverAnswer_of_isClientError {error : DriverError}
    (h : error.status.isClientError = true) :
    (driverAnswer (.error error)).isSuccess = false ∧
      (driverAnswer (.error error)).retryable = false := by
  obtain ⟨status, message⟩ := error
  cases status <;> first | exact ⟨rfl, rfl⟩ | cases h

/-- The answer of a call leaves nothing behind, or ends the rehearsal. -/
theorem Driving.answered {response : Response} {now : Timestamp}
    (h : Driving config driver request claim found) (hstage : found.stage = .answered response) :
    Untouched driver claim.key ∨ Quiet driver claim.key ∧
        (row.recorded now claim.attempts (driverAnswer response)).isOpen = false ∧
        ((driverAnswer response).isSuccess = true ∨
          ∀ value, .ok value ∉ resultsFor driver claim.key) := by
  have hquiet := h.quiet (by rw [hstage]; rfl)
  have hattempted := h.attempted
  rw [hstage] at hattempted
  generalize hcell : driver.receipts.lookup claim.key = cell at hattempted
  generalize hresults : resultsFor driver claim.key = results at hattempted
  cases hattempted with
  | refused => exact Or.inl ⟨hcell, hresults, hquiet⟩
  | admitted after => rcases after with hstage | hstage | hstage <;> cases hstage
  | recorded clear =>
    refine Or.inr ⟨hquiet, ?_⟩
    cases response with
    | ok value => exact ⟨rfl, Or.inl rfl⟩
    | error error =>
      obtain ⟨hfailed, hfinal⟩ := driverAnswer_of_isClientError clear
      refine ⟨?_, Or.inr (by simp)⟩
      simp [recorded, recordedState, hfailed, hfinal, isOpen, isRunning, awaitsRetry]

theorem Driving.dropped (h : Driving config driver request claim found)
    (hstage : found.stage = .dropped) : Untouched driver claim.key := by
  have hquiet := h.quiet (by rw [hstage]; rfl)
  have hattempted := h.attempted
  rw [hstage] at hattempted
  generalize hcell : driver.receipts.lookup claim.key = cell at hattempted
  generalize hresults : resultsFor driver claim.key = results at hattempted
  cases hattempted with
  | lost => exact ⟨hcell, hresults, hquiet⟩
  | admitted after => rcases after with hstage | hstage | hstage <;> cases hstage

theorem World.Sound.driving (hw : w.Sound config) (hcall : w.calls.lookup scheduler = some call)
    (hholding : Holding w.schedule scheduler claim)
    (hfound : w.driver.requests.lookup call.request = some found) :
    Driving config w.driver call.request claim found := by
  obtain ⟨placed, sent, hplaced, hdriving⟩ := hw.placed scheduler call hcall
  obtain ⟨⟨later, hpass⟩, -⟩ := hplaced
  cases hholding.pass hpass
  cases hdriving.sent.symm.trans hfound
  exact hdriving

theorem World.current_eq_some {claim : RehearsalClaim} (h : w.current scheduler = some claim) :
    ∃ later, w.schedule.schedulers.lookup scheduler = some (.rehearsing claim later) := by
  unfold current at h
  split at h
  · rename_i current later hpass
    cases h
    exact ⟨later, hpass⟩
  · cases h

theorem World.Sound.schedule (hw : w.Sound config) (hgood : w.steady (.schedule event) = true)
    (hstep : w.step config driverToken (.schedule event) = some next) : next.Sound config := by
  have hfree : ∀ stopped, (w.calls.lookup stopped).isNone = true →
      (∀ other, (w.calls.erase stopped).lookup other = w.calls.lookup other) ∧
        ∀ other call, w.calls.lookup other = some call → decide (stopped = other) = false := by
    intro stopped hnone
    rw [Option.isNone_iff_eq_none] at hnone
    constructor
    · intro other
      by_cases hother : other = stopped
      · rw [hother, AList.lookup_erase, hnone]
      · exact AList.lookup_erase_ne hother
    · rintro other call hcall
      refine decide_eq_false ?_
      rintro rfl
      cases hnone.symm.trans hcall
  cases event with
  | finish other answer => cases hstep
  | crash other | abort other =>
    obtain ⟨t, ht, rfl⟩ := Option.map_eq_some_iff.mp hstep
    obtain ⟨hcalls, hstops⟩ := hfree other hgood
    exact hw.reschedule ht rfl hcalls hstops (by intros; simp_all [System.retries])
  | claimRetry other token =>
    obtain ⟨t, ht, rfl⟩ := Option.map_eq_some_iff.mp hstep
    refine hw.reschedule ht rfl (fun _ => rfl) (fun _ _ _ => rfl) ?_
    intro scheduler call claim hcall hholding candidate hcandidate
    obtain ⟨⟨later, hpass⟩, -⟩ := hholding
    simp only [System.retries] at hcandidate
    split at hcandidate
    · rename_i head pending claims hother
      cases hcandidate
      simp only [steady, hother] at hgood
      have hkept := allRows_iff.mp hgood scheduler call hcall
      simpa [current, hpass] using hkept
    · cases hcandidate
  | advance elapsed =>
    simp only [World.step] at hstep
    split at hstep
    · obtain ⟨t, ht, rfl⟩ := Option.map_eq_some_iff.mp hstep
      exact hw.reschedule ht rfl (fun _ => rfl) (fun _ _ _ => rfl) (fun _ _ _ _ _ _ h => nomatch h)
    · cases hstep
  | start _ | discoverRetries _ _ | discoverDue _ _ | claimNew _ _ _ | changeRecovery _ _ =>
    obtain ⟨t, ht, rfl⟩ := Option.map_eq_some_iff.mp hstep
    exact hw.reschedule ht rfl (fun _ => rfl) (fun _ _ _ => rfl) (fun _ _ _ _ _ _ h => nomatch h)

theorem World.Sound.step {event : WorldEvent} (hw : w.Sound config) (hgood : w.steady event = true)
    (hstep : w.step config driverToken event = some next) : next.Sound config := by
  cases event with
  | schedule event => exact hw.schedule hgood hstep
  | send scheduler request process =>
    simp only [World.step] at hstep
    split at hstep
    swap
    · cases hstep
    rename_i claim hcurrent hcall
    split at hstep
    · refine hw.record hstep ?_
      intro call another row hsome
      cases hcall.symm.trans hsome
    rename_i body haccept
    cases acceptRehearsal_ok haccept
    split at hstep
    · cases hstep
    rename_i hfresh
    cases hstep
    obtain ⟨later, hpass⟩ := current_eq_some hcurrent
    simp only [steady, hcurrent] at hgood
    obtain ⟨row, hrow, hclaimed⟩ := (Option.any_eq_true _ _).mp hgood
    exact hw.send hpass hrow hclaimed hcall (by simpa using hfresh) _
  | unreachable scheduler =>
    simp only [World.step] at hstep
    split at hstep
    · rename_i hcall
      refine hw.record hstep ?_
      intro call claim row hsome
      cases hcall.symm.trans hsome
    · cases hstep
  | answer scheduler =>
    simp only [World.step] at hstep
    split at hstep
    · rename_i call hcall
      split at hstep
      · rename_i response hstage
        obtain ⟨found, hfound, hanswered⟩ := Option.map_eq_some_iff.mp hstage
        refine hw.record hstep ?_
        intro other claim row hother hholding hrow
        exact (hw.driving hcall hholding hfound).answered hanswered
      · cases hstep
    · cases hstep
  | giveUp scheduler =>
    simp only [World.step] at hstep
    split at hstep
    swap
    · cases hstep
    rename_i call hcall
    refine hw.record hstep ?_
    intro other claim row hother hholding hrow
    simp only [steady, hcall] at hgood
    split at hgood
    · rename_i hstage
      obtain ⟨found, hfound, hdropped⟩ := Option.map_eq_some_iff.mp hstage
      exact Or.inl ((hw.driving hcall hholding hfound).dropped hdropped)
    · cases hgood
  | drive request step =>
    obtain ⟨driver, hdriver, rfl⟩ := Option.map_eq_some_iff.mp hstep
    exact hw.drive hgood hdriver
  | receive request process headers workshop action payload =>
    simp only [World.step] at hstep
    split at hstep
    · cases hstep
    · rename_i haction
      obtain ⟨driver, hdriver, rfl⟩ := Option.map_eq_some_iff.mp hstep
      exact hw.receive haction hdriver

theorem World.sound_initial (config : DriverConfig) (now : Timestamp) :
    (initial now).Sound config where
  placed scheduler call hcall := by cases hcall
  settled workshop rehearsal := Or.inl ⟨rfl, rfl, fun request found hfound => by cases hfound⟩
  named request found hfound := by cases hfound

/-! ## Sample runs -/

/-- A driver whose digest of a payload is the text in it. -/
def sampleConfig : DriverConfig where
  token := "driver"
  digest payload :=
    match payload with
    | .object [(_, .string text)] => text
    | _ => ""
  parseUuid _ := none

/-- A scheduler claims the rehearsal `9` and sends it. -/
def sentCall : List WorldEvent :=
  [.schedule (.changeRecovery 7 (System.sampleBackup 1 0)), .schedule (.start 100),
    .schedule (.discoverRetries 100 []),
    .schedule (.discoverDue 100 [(1, 7)]),
    .schedule (.claimNew 100 100 9),
    .send 100 0 0]

/-- The driver drops the request before it is admitted, and the scheduler claims the retry. -/
def claimedRetry : List WorldEvent :=
  sentCall ++ [.drive 0 .drop, .giveUp 100, .schedule (.advance (seconds 60)),
      .schedule (.discoverRetries 100 [⟨9, 1, 7⟩]),
      .schedule (.claimRetry 100 101),
      .schedule (.discoverDue 100 [])]

/-- The effect succeeds and the scheduler hears of it. -/
def heard (scheduler : Uuid) (request : Nat) : List WorldEvent :=
  toEffect request ++ [.drive request (.effectReturns (.ok .null)),
    .drive request (.recordResult .committed),
    .answer scheduler]

/-- The effect takes longer than the client waits. -/
def timedOutCall : List WorldEvent :=
  sentCall ++ toEffect 0 ++ [.schedule (.advance clientTimeout), .giveUp 100]

/-- A pass has two claims. Its first call takes ten minutes, and so the lease of the second
claim runs out while its effect executes. Another scheduler takes the rehearsal over, meets
the receipt in progress, and then the effect succeeds. -/
def takenOverCall : List WorldEvent :=
  [.schedule (.changeRecovery 6 (System.sampleBackup 1 0)),
    .schedule (.changeRecovery 7 (System.sampleBackup 2 0)), .schedule (.start 100),
    .schedule (.discoverRetries 100 []),
    .schedule (.discoverDue 100 [(1, 6), (2, 7)]),
    .schedule (.claimNew 100 99 8),
    .schedule (.claimNew 100 100 9),
    .send 100 0 0,
    .schedule (.advance (seconds 600))] ++
  heard 100 0 ++ .send 100 1 0 :: toEffect 1 ++
  [.schedule (.advance (seconds 600)), .schedule (.start 101),
    .schedule (.discoverRetries 101 [⟨9, 2, 7⟩]),
    .schedule (.claimRetry 101 101),
    .schedule (.discoverDue 101 []),
    .send 101 2 0,
    .drive 2 (.insertReceipt .committed),
    .drive 2 (.readReceipt true),
    .answer 101,
    .drive 1 (.effectReturns (.ok .null))]

/-! ## Steady runs -/

/-- **Steady calls keep the two ledgers together.** In every run whose calls are seen
through, a rehearsal whose effect succeeded is not recorded as finally failed. A retry that
the scheduler grants can execute the effect, once it is claimed it still can, and its request
does. -/
theorem World.consistent_of_steady {now : Timestamp} {events : List WorldEvent} {last : World}
    (hrun : RunWhere (World.step config driverToken) (fun w event => w.steady event = true)
      (initial now) events last) : last.Consistent config driverToken := by
  have hsound : last.Sound config :=
    hrun.invariant (P := Sound config)
      (fun _ _ _ hw hgood hstep => hw.step hgood hstep) (sound_initial config now)
  exact hsound.consistent

end Invariant

/-- The claim of the retry is not sent yet. -/
def retryUnsent (w : World) : Bool :=
  (w.current 100).any (fun claim => decide (claim.rehearsal = 9 ∧ claim.attempts.attempt = 2 ∧
    acceptRehearsal sampleConfig "driver" claim = .ok claim.body ∧
    w.driver.requests.lookup 1 = none ∧ w.driver.locks.lookup (0, claim.workshop) = none) &&
    (w.schedule.db.rehearsals.lookup claim.rehearsal).any (·.claimedBy 100 claim)) &&
  (w.calls.lookup 100).isNone

theorem claimedRetry_unsent :
    (replayWhere (World.step sampleConfig "driver") steady (initial 0) claimedRetry).any
      retryUnsent = true := by
  decide +kernel

/-- A retry that was claimed after a request was lost: its request reaches the effect. -/
theorem World.consistent_of_claimedRetry : ∃ w claim u,
    RunWhere (World.step sampleConfig "driver") (fun w event => w.steady event = true)
      (initial 0) claimedRetry w ∧ w.Consistent sampleConfig "driver" ∧
      w.current 100 = some claim ∧ claim.rehearsal = 9 ∧ claim.attempts.attempt = 2 ∧
      Run (World.step sampleConfig "driver") w (.send 100 1 0 :: toEffect 1) u ∧
      u.driver.requests.lookup 1 = some ⟨0, claim.body, .executing⟩ := by
  obtain ⟨w, hreplay, hunsent⟩ := (Option.any_eq_true _ _).mp claimedRetry_unsent
  obtain ⟨hclaim, hcall⟩ := Bool.and_eq_true_iff.mp hunsent
  obtain ⟨claim, hcurrent, hclaim⟩ := (Option.any_eq_true _ _).mp hclaim
  obtain ⟨hfacts, hheld⟩ := Bool.and_eq_true_iff.mp hclaim
  obtain ⟨hrehearsal, hattempt, haccept, hnew, hlock⟩ := of_decide_eq_true hfacts
  obtain ⟨row, hrow, hclaimed⟩ := (Option.any_eq_true _ _).mp hheld
  have hrun := runWhere_of_replayWhere hreplay
  have hconsistent := consistent_of_steady hrun
  obtain ⟨u, hsent, hexecuting⟩ := hconsistent.sendReaches 100 claim row hcurrent
    (Option.isNone_iff_eq_none.mp hcall) hrow hclaimed haccept 1 0 hnew hlock
  exact ⟨w, claim, u, hrun, hconsistent, hcurrent, hrehearsal, hattempt, hsent, hexecuting⟩

/-! ## Calls that are not seen through -/

/-- After the timeout a retry is granted while the receipt of the first attempt is in
progress. After the lease ran out the retry is answered with a conflict and recorded as
final, and the effect succeeds. -/
theorem World.inconsistent_after_timeout_or_expiry : (∃ w row finishedAt safeError nextAttemptAt,
      Run (World.step sampleConfig "driver") (initial 0) timedOutCall w ∧
      w.schedule.db.rehearsals.lookup 9 = some row ∧
      row.state = .failed finishedAt safeError (some nextAttemptAt) ∧
      ¬ Executable w.driver (rehearsalKey row.workshop 9)) ∧
    ∃ w row value finishedAt safeError,
      Run (World.step sampleConfig "driver") (initial 0) takenOverCall w ∧
      w.schedule.db.rehearsals.lookup 9 = some row ∧
      (rehearsalKey row.workshop 9, .ok value) ∈ w.driver.completed ∧
      row.state = .failed finishedAt safeError none := by
  constructor
  · have hend : (replay (World.step sampleConfig "driver") (initial 0) timedOutCall).any
        (fun w => (w.schedule.db.rehearsals.lookup 9).any fun row =>
          row.awaitsRetry && (w.driver.receipts.lookup (rehearsalKey row.workshop 9)).isSome) =
        true := by
      decide +kernel
    obtain ⟨w, hreplay, hfacts⟩ := (Option.any_eq_true _ _).mp hend
    obtain ⟨row, hrow, hfacts⟩ := (Option.any_eq_true _ _).mp hfacts
    obtain ⟨hawaits, hreceipt⟩ := Bool.and_eq_true_iff.mp hfacts
    obtain ⟨finishedAt, safeError, nextAttemptAt, hstate⟩ := awaitsRetry_iff.mp hawaits
    refine ⟨w, row, finishedAt, safeError, nextAttemptAt, run_of_replay hreplay, hrow, hstate, ?_⟩
    rintro ⟨hnone, -⟩
    rw [hnone] at hreceipt
    cases hreceipt
  · have hend : (replay (World.step sampleConfig "driver") (initial 0) takenOverCall).any
        (fun w => (w.schedule.db.rehearsals.lookup 9).any fun row =>
          decide ((rehearsalKey row.workshop 9, .ok .null) ∈ w.driver.completed ∧
            row.state = .failed 1200000000 .driverRejected none)) = true := by
      decide +kernel
    obtain ⟨w, hreplay, hfacts⟩ := (Option.any_eq_true _ _).mp hend
    obtain ⟨row, hrow, hfacts⟩ := (Option.any_eq_true _ _).mp hfacts
    obtain ⟨hcompleted, hstate⟩ := of_decide_eq_true hfacts
    exact ⟨w, row, .null, _, _, run_of_replay hreplay, hrow, hcompleted, hstate⟩

end ControlPlane.Rehearsals
