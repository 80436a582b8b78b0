/-
# Rehearsals and the driver's receipts

A scheduler runs a claimed rehearsal by one request to the deployment driver. The
request's idempotency key names the rehearsal, not the attempt, so all attempts
share one receipt. This module puts the schedulers and the driver's generic ledger
together: calls in flight, answers, the client's timeout, and requests that the
driver drops.
-/

import ControlPlane.Driver.Requests
import ControlPlane.Rehearsals.Scheduler

namespace ControlPlane.Rehearsals

open Domain Driver Math

/-! ## The request of a claim -/

def rehearsalIdempotencyKey (rehearsal : Uuid) : String :=
  "rehearsal:" ++ rehearsal.toText

def rehearsalPayload (recovery : Uuid) : Json :=
  .object [("recovery_point_id", .string recovery.toText)]

/-- A rehearsal is no control operation, so its request carries no lease. -/
def rehearsalHeaders (driverToken : String) (rehearsal : Uuid) : TenantHeaders where
  authorization := .text ("Bearer " ++ driverToken)
  idempotencyKey := .text (rehearsalIdempotencyKey rehearsal)
  controlOperationId := .absent
  controlOperationAttempt := .absent
  controlOperationLeaseOwner := .absent

/-- What the driver makes of the request. -/
def RehearsalClaim.body (claim : RehearsalClaim) : TenantRequest where
  workshop := claim.workshop
  action := .rehearse
  idempotencyKey := rehearsalIdempotencyKey claim.rehearsal
  payload := rehearsalPayload claim.recovery
  lease := none

def acceptRehearsal (config : DriverConfig) (driverToken : String) (claim : RehearsalClaim) :
    Except DriverError TenantRequest :=
  acceptTenantRequest config (rehearsalHeaders driverToken claim.rehearsal) claim.workshop
    "rehearse" (rehearsalPayload claim.recovery)

theorem acceptRehearsal_ok {config : DriverConfig} {driverToken : String}
    {claim : RehearsalClaim} {body : TenantRequest}
    (h : acceptRehearsal config driverToken claim = .ok body) : body = claim.body := by
  unfold acceptRehearsal acceptTenantRequest at h
  split at h
  · cases h
  simp only [DriverAction.parse, rehearsalHeaders, idempotencyKeyHeader] at h
  split at h
  · cases h
  rename_i key hkey
  split at hkey
  · cases hkey
    cases h
    rfl
  · cases hkey

/-- The status of a response; a handler's value is sent with 200. -/
def driverAnswer : Response → DriverAnswer
  | .ok _ => .response 200
  | .error error => .response error.status.asU16

/-! ## Calls in flight -/

structure Call where
  request : Nat
  sentAt : Timestamp

/-- The driver client's timeout. -/
def clientTimeout : Timestamp := seconds 900

structure World where
  schedule : System
  driver : DriverState
  calls : Table Uuid Call

inductive WorldEvent
  | schedule (event : Event)
  | send (scheduler : Uuid) (request process : Nat)
  | unreachable (scheduler : Uuid)
  | answer (scheduler : Uuid)
  | giveUp (scheduler : Uuid)
  | drive (request : Nat) (step : RequestStep)
  | receive (request process : Nat) (headers : TenantHeaders) (workshop : Uuid)
      (action : String) (payload : Json)

namespace World

def initial (now : Timestamp) : World where
  schedule := .initial now
  driver := .initial
  calls := ∅

/-- The claim a scheduler is running. -/
def current (w : World) (scheduler : Uuid) : Option RehearsalClaim :=
  match w.schedule.schedulers.lookup scheduler with
  | some (.rehearsing current _) => some current
  | _ => none

/-- Record what the scheduler's call gave; the call is over. -/
def record (w : World) (scheduler : Uuid) (answer : DriverAnswer) : Option World :=
  (w.schedule.step (.finish scheduler answer)).map fun schedule =>
    { w with schedule := schedule, calls := w.calls.erase scheduler }

/-- A step that moves the schedulers alone. -/
def reschedule (w : World) (event : Event) : Option World :=
  (w.schedule.step event).map fun schedule => { w with schedule := schedule }

/-- Run one event; `none` when it is not possible. A result is recorded when the
call of it ends, no call outlives the client's timeout, and only schedulers send
rehearsals. -/
def step (config : DriverConfig) (driverToken : String) (w : World) : WorldEvent → Option World
  | .schedule (.finish _ _) => none
  | .schedule (.crash scheduler) =>
    { w with calls := w.calls.erase scheduler }.reschedule (.crash scheduler)
  | .schedule (.abort scheduler) =>
    { w with calls := w.calls.erase scheduler }.reschedule (.abort scheduler)
  | .schedule (.advance elapsed) =>
    if w.calls.allRows fun _ call =>
        decide (w.schedule.db.now + elapsed ≤ call.sentAt + clientTimeout)
    then w.reschedule (.advance elapsed)
    else none
  | .schedule event => w.reschedule event
  | .send scheduler request process =>
    match w.current scheduler, w.calls.lookup scheduler with
    | some claim, none =>
      match acceptRehearsal config driverToken claim with
      | .error error => w.record scheduler (.response error.status.asU16)
      | .ok body =>
        if (w.driver.requests.lookup request).isSome then none
        else some { w with
          driver := { w.driver with
            requests := w.driver.requests.insert request ⟨process, body, body.firstStage⟩ }
          calls := w.calls.insert scheduler ⟨request, w.schedule.db.now⟩ }
    | _, _ => none
  | .unreachable scheduler =>
    match w.calls.lookup scheduler with
    | none => w.record scheduler .unavailable
    | some _ => none
  | .answer scheduler =>
    match w.calls.lookup scheduler with
    | some call =>
      match (w.driver.requests.lookup call.request).map Request.stage with
      | some (.answered response) => w.record scheduler (driverAnswer response)
      | _ => none
    | none => none
  | .giveUp scheduler =>
    match w.calls.lookup scheduler with
    | some _ => w.record scheduler .unavailable
    | none => none
  | .drive request step =>
    (w.driver.step config (.progress request step)).map fun driver => { w with driver := driver }
  | .receive request process headers workshop action payload =>
    if DriverAction.parse action = some .rehearse then none
    else (w.driver.step config (.receive request process headers workshop action payload)).map
      fun driver => { w with driver := driver }

end World

end ControlPlane.Rehearsals
