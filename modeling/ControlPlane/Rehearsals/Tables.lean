/-
# Recovery rehearsals and the statements on them

A rehearsal restores a recovery point beside the workshop to see that it can be
restored. Each attempt runs under a lease, and a partial unique index admits one
running rehearsal per workshop. The backup scheduler is the only writer of the
table; it works with the three statements below, each in a transaction of its
own.
-/

import ControlPlane.Domain.Basic
import ControlPlane.Math.Table

namespace ControlPlane.Rehearsals

open Domain Math

/-! ## Rows -/

inductive RecoveryKind
  | snapshot
  | backup
  deriving DecidableEq

inductive RecoveryState
  | queued
  | creating
  | ready
  | failed
  | expired
  | deleted
  deriving DecidableEq

inductive VerificationState
  | pending
  | verified
  | failed
  deriving DecidableEq

inductive StorageLocation
  | localDisk
  | s3
  deriving DecidableEq

/-- The columns of a recovery point that rehearsals read. -/
structure RecoveryPoint where
  workshop : Uuid
  kind : RecoveryKind
  state : RecoveryState
  verification : VerificationState
  location : StorageLocation
  (readyAt expiresAt : Option Timestamp)
  deriving DecidableEq

/-- A recovery point that a claimed rehearsal may restore. -/
def RecoveryPoint.usable (point : RecoveryPoint) (now : Timestamp) : Bool :=
  decide (point.state = .ready) && decide (point.verification = .verified) &&
    point.expiresAt.all fun expiresAt => decide (now < expiresAt)

/-- A recovery point that a new rehearsal may be made of. -/
def RecoveryPoint.rehearsable (point : RecoveryPoint) (now : Timestamp) : Bool :=
  decide (point.kind = .backup) && decide (point.location = .s3) && point.usable now

/-- The attempts of a rehearsal under the table's check. -/
structure Attempts where
  (attempt maxAttempts : Nat)
  started : 1 ≤ attempt
  bounded : attempt ≤ maxAttempts
  deriving DecidableEq

namespace Attempts

/-- The columns' defaults. -/
def first : Attempts := ⟨1, 6, by decide, by decide⟩

def remain (attempts : Attempts) : Bool :=
  decide (attempts.attempt < attempts.maxAttempts)

/-- One attempt more, when one is left. -/
def next (attempts : Attempts) : Attempts :=
  if h : attempts.attempt < attempts.maxAttempts then
    ⟨attempts.attempt + 1, attempts.maxAttempts, Nat.le_add_left 1 _, h⟩
  else attempts

end Attempts

structure RehearsalLease where
  (owner token : Uuid)
  expiresAt : Timestamp
  deriving DecidableEq

inductive SafeError
  | driverRejected
  | driverUnavailable
  deriving DecidableEq

/-- The table's check ties the lease to the running state and the finish to the
other two. A failure without a next attempt is final. -/
inductive RehearsalState
  | running (lease : RehearsalLease)
  | succeeded (finishedAt : Timestamp)
  | failed (finishedAt : Timestamp) (safeError : SafeError) (nextAttemptAt : Option Timestamp)
  deriving DecidableEq

structure Rehearsal where
  (workshop recovery : Uuid)
  state : RehearsalState
  startedAt : Timestamp
  attempts : Attempts
  deriving DecidableEq

namespace Rehearsal

def isRunning (row : Rehearsal) : Bool :=
  match row.state with
  | .running _ => true
  | _ => false

/-- Failed with another attempt to come. -/
def awaitsRetry (row : Rehearsal) : Bool :=
  match row.state with
  | .failed _ _ nextAttemptAt => nextAttemptAt.isSome
  | _ => false

def isOpen (row : Rehearsal) : Bool :=
  row.isRunning || row.awaitsRetry

def finishedAt (row : Rehearsal) : Option Timestamp :=
  match row.state with
  | .running _ => none
  | .succeeded finishedAt | .failed finishedAt _ _ => some finishedAt

/-- The retry is due, or the lease of the attempt has run out. -/
def waits (row : Rehearsal) (now : Timestamp) : Bool :=
  match row.state with
  | .running lease => decide (lease.expiresAt ≤ now)
  | .failed _ _ nextAttemptAt => nextAttemptAt.any fun next => decide (next ≤ now)
  | .succeeded _ => false

theorem awaitsRetry_iff {row : Rehearsal} : row.awaitsRetry = true ↔
      ∃ finishedAt safeError nextAttemptAt,
        row.state = .failed finishedAt safeError (some nextAttemptAt) := by
  unfold awaitsRetry
  cases row.state with
  | running lease | succeeded finishedAt => simp
  | failed finishedAt safeError nextAttemptAt => simp [Option.isSome_iff_exists]

theorem isOpen_of_isRunning {row : Rehearsal} (h : row.isRunning = true) : row.isOpen = true := by
  simp [isOpen, h]

theorem isOpen_of_waits {row : Rehearsal} {now : Timestamp} (h : row.waits now = true) :
    row.isOpen = true := by
  unfold waits at h
  unfold isOpen isRunning awaitsRetry
  cases hstate : row.state with
  | running lease => rfl
  | succeeded finishedAt => simp [hstate] at h
  | failed finishedAt safeError nextAttemptAt =>
    cases nextAttemptAt with
    | none => simp [hstate] at h
    | some next => rfl

end Rehearsal

/-- The two tables under the database clock. -/
structure Db where
  now : Timestamp
  recoveries : Table Uuid RecoveryPoint
  rehearsals : Table Uuid Rehearsal

/-- Store a rehearsal. -/
def Db.write (db : Db) (rehearsal : Uuid) (row : Rehearsal) : Db :=
  { db with rehearsals := db.rehearsals.insert rehearsal row }

/-! ## Claims -/

/-- A row of the retry discovery. -/
structure RetryCandidate where
  (rehearsal workshop recovery : Uuid)
  deriving DecidableEq

/-- What a scheduler keeps of an attempt it was granted. -/
structure RehearsalClaim extends RetryCandidate where
  leaseToken : Uuid
  attempts : Attempts
  deriving DecidableEq

/-- The claim on a candidate's attempt. -/
def RetryCandidate.granted (candidate : RetryCandidate) (leaseToken : Uuid)
    (attempts : Attempts) : RehearsalClaim :=
  { candidate with leaseToken := leaseToken, attempts := attempts }

/-- The candidate that names a row. -/
def Rehearsal.candidate (row : Rehearsal) (rehearsal : Uuid) : RetryCandidate where
  rehearsal := rehearsal
  workshop := row.workshop
  recovery := row.recovery

/-- The unique index on running rehearsals refuses a second one of a workshop. -/
inductive ClaimError
  | oneRunningPerWorkshop
  deriving DecidableEq

/-- The lease of an attempt that starts now. -/
def rehearsalLease (now : Timestamp) (scheduler token : Uuid) : RehearsalLease where
  owner := scheduler
  token := token
  expiresAt := now + seconds (20 * 60)

/-- The row after its next attempt was claimed. -/
def Rehearsal.retried (row : Rehearsal) (now : Timestamp) (scheduler token : Uuid) : Rehearsal :=
  { row with
    state := .running (rehearsalLease now scheduler token)
    startedAt := now
    attempts := row.attempts.next }

namespace Db

/-- The recovery point of the rehearsal may be restored. -/
def recoveryUsable (db : Db) (row : Rehearsal) : Bool :=
  (db.recoveries.lookup row.recovery).any fun point =>
    decide (point.workshop = row.workshop) && point.usable db.now

/-- The condition that the retry discovery and the retry claim share. -/
def retryable (db : Db) (row : Rehearsal) : Bool :=
  row.waits db.now && row.attempts.remain && db.recoveryUsable row

/-- No rehearsal of the workshop is running, one row left out. -/
def noneRunning (db : Db) (workshop : Uuid) (except : Option Uuid) : Bool :=
  db.rehearsals.allRows fun key row =>
    decide (some key = except) || !(decide (row.workshop = workshop) && row.isRunning)

def claimRehearsalRetry (db : Db) (scheduler token : Uuid) (candidate : RetryCandidate) :
    Except ClaimError (Db × Option RehearsalClaim) :=
  match db.rehearsals.lookup candidate.rehearsal with
  | none => .ok (db, none)
  | some row =>
    if row.candidate candidate.rehearsal = candidate ∧ db.retryable row = true then
      if db.noneRunning row.workshop (some candidate.rehearsal) then
        let changed := row.retried db.now scheduler token
        .ok (db.write candidate.rehearsal changed, some (candidate.granted token changed.attempts))
      else .error .oneRunningPerWorkshop
    else .ok (db, none)

/-- The claims of a pass over the retries it discovered, each with a new token. An
error ends the pass. -/
def claimRetries (db : Db) (scheduler : Uuid) :
    List (RetryCandidate × Uuid) → Except ClaimError (Db × List RehearsalClaim)
  | [] => .ok (db, [])
  | (candidate, token) :: rest =>
    match db.claimRehearsalRetry scheduler token candidate with
    | .error error => .error error
    | .ok (db, claim) =>
      match db.claimRetries scheduler rest with
      | .error error => .error error
      | .ok (db, claims) => .ok (db, claim.toList ++ claims)

/-- The first attempt at a recovery point. -/
def claimNewRehearsal (db : Db) (scheduler token rehearsal workshop recovery : Uuid) :
    Db × Option RehearsalClaim :=
  match db.recoveries.lookup recovery with
  | none => (db, none)
  | some point =>
    if point.workshop = workshop ∧ point.rehearsable db.now = true ∧
        db.noneRunning workshop none = true ∧ db.rehearsals.lookup rehearsal = none then
      let row : Rehearsal :=
        { workshop := workshop
          recovery := recovery
          state := .running (rehearsalLease db.now scheduler token)
          startedAt := db.now
          attempts := .first }
      (db.write rehearsal row, some ((row.candidate rehearsal).granted token .first))
    else (db, none)

end Db

/-! ## Outcomes -/

/-- What the driver call gave: a status, or no response. -/
inductive DriverAnswer
  | response (status : Nat)
  | unavailable
  deriving DecidableEq

namespace DriverAnswer

def isSuccess : DriverAnswer → Bool
  | .response status => decide (200 ≤ status) && decide (status < 300)
  | .unavailable => false

def retryable : DriverAnswer → Bool
  | .response status =>
    decide (500 ≤ status) && decide (status < 600) || decide (status = 408) ||
      decide (status = 429)
  | .unavailable => true

def safeError : DriverAnswer → SafeError
  | .response _ => .driverRejected
  | .unavailable => .driverUnavailable

end DriverAnswer

def retryDelaySeconds (attempt : Nat) : Nat :=
  60 * 2 ^ min (attempt - 1) 6

/-- The state an answer is recorded as. -/
def recordedState (now : Timestamp) (attempts : Attempts) (answer : DriverAnswer) :
    RehearsalState :=
  if answer.isSuccess then .succeeded now
  else .failed now answer.safeError (if answer.retryable && attempts.remain then
      some (now + seconds (retryDelaySeconds attempts.attempt))
    else none)

/-- The row is running under the claim's lease. -/
def Rehearsal.claimedBy (row : Rehearsal) (scheduler : Uuid) (claim : RehearsalClaim) : Bool :=
  decide (row.candidate claim.rehearsal = claim.toRetryCandidate) &&
    match row.state with
    | .running lease => decide (lease.owner = scheduler) && decide (lease.token = claim.leaseToken)
    | _ => false

/-- The row after an answer was recorded. -/
def Rehearsal.recorded (row : Rehearsal) (now : Timestamp) (attempts : Attempts)
    (answer : DriverAnswer) : Rehearsal :=
  { row with state := recordedState now attempts answer }

/-- Record an answer; `none` when the claim was lost. The lease's expiry is not
asked for. -/
def Db.finishRehearsal (db : Db) (scheduler : Uuid) (claim : RehearsalClaim)
    (answer : DriverAnswer) : Option Db :=
  (db.rehearsals.replace claim.rehearsal (·.claimedBy scheduler claim)
    (·.recorded db.now claim.attempts answer)).map fun rehearsals =>
      { db with rehearsals := rehearsals }

end ControlPlane.Rehearsals
