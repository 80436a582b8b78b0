/-
# Passes of the backup schedulers

A pass discovers retries, claims them one by one, discovers due recovery points
in the places that are left, claims those, and then runs its claims in order. It
is not one transaction: between any two of its statements other schedulers run
theirs, the clock moves and the process may die. An error of a retry claim, or a
claim that was lost by the time its result is recorded, ends the pass and leaves
the other claims of the pass where they are.

A discovery is any list the query may return: ties of its order are not decided.
-/

import ControlPlane.Rehearsals.Tables

namespace ControlPlane.Rehearsals

open Domain Math

/-! ## Discoveries -/

/-- Ascending order with nulls last. -/
def nullsLast : Option Timestamp → Option Timestamp → Bool
  | some first, some second => decide (first ≤ second)
  | some _, none | none, none => true
  | none, some _ => false

/-- Descending order with nulls last. -/
def newestFirst : Option Timestamp → Option Timestamp → Bool
  | some first, some second => decide (second ≤ first)
  | some _, none | none, none => true
  | none, some _ => false

namespace Db

def retryCandidates (db : Db) : List RetryCandidate :=
  db.rehearsals.entries.filterMap fun entry =>
    if db.retryable entry.2 then some (entry.2.candidate entry.1) else none

def finishedAt (db : Db) (candidate : RetryCandidate) : Option Timestamp :=
  (db.rehearsals.lookup candidate.rehearsal).bind Rehearsal.finishedAt

/-- A result of the retry discovery: twenty candidates in the order of their last
finish, or all of them. -/
def isRetryDiscovery (db : Db) (rows : List RetryCandidate) : Bool :=
  decide rows.Nodup && (rows.all fun row => decide (row ∈ db.retryCandidates)) &&
    decide (rows.length = min 20 db.retryCandidates.length) &&
    decide (rows.Pairwise fun first second =>
      nullsLast (db.finishedAt first) (db.finishedAt second) = true) &&
    db.retryCandidates.all fun other =>
      decide (other ∈ rows) ||
        rows.all fun row => nullsLast (db.finishedAt row) (db.finishedAt other)

/-- The recovery point is due: its workshop has no success of the last thirty days
and it was not itself tried within a day. -/
def isDue (db : Db) (recovery : Uuid) (point : RecoveryPoint) : Bool :=
  point.rehearsable db.now && db.rehearsals.allRows fun _ row =>
      !(decide (row.workshop = point.workshop) && (match row.state with
          | .succeeded _ => decide (db.now < row.startedAt + seconds (30 * 86400))
          | _ => false) ||
        decide (row.workshop = point.workshop) && decide (row.recovery = recovery) &&
          decide (db.now < row.startedAt + seconds 86400))

/-- No due recovery point of the workshop became ready later. -/
def isNewestDue (db : Db) (recovery : Uuid) (point : RecoveryPoint) : Bool :=
  db.isDue recovery point && db.recoveries.allRows fun other row =>
      !(decide (row.workshop = point.workshop) && db.isDue other row) ||
        newestFirst point.readyAt row.readyAt

/-- A result of the due discovery: one recovery point for each of the first `limit`
workshops that have one. -/
def isDueDiscovery (db : Db) (limit : Nat) (rows : List (Uuid × Uuid)) : Bool :=
  (rows.all fun row => (db.recoveries.lookup row.2).any fun point =>
      decide (point.workshop = row.1) && db.isNewestDue row.2 point) &&
    decide ((rows.map fun row => row.1.toNat).Pairwise (· < ·)) &&
    decide (rows.length ≤ limit) &&
    db.recoveries.allRows fun recovery point =>
      !db.isDue recovery point || decide (point.workshop ∈ rows.map Prod.fst) ||
        decide (rows.length = limit) &&
          rows.all fun row => decide (row.1.toNat < point.workshop.toNat)

end Db

/-! ## Passes -/

/-- Where a scheduler is. -/
inductive Pass
  | idle
  | retrying (pending : List RetryCandidate) (claims : List RehearsalClaim)
  | claiming (pending : List (Uuid × Uuid)) (claims : List RehearsalClaim)
  | rehearsing (current : RehearsalClaim) (later : List RehearsalClaim)

namespace Pass

/-- The claims whose results are not recorded yet. -/
def claims : Pass → List RehearsalClaim
  | .idle => []
  | .retrying _ claims | .claiming _ claims => claims
  | .rehearsing current later => current :: later

/-- Go on to the claims; without one the pass is over. -/
def rehearse : List RehearsalClaim → Pass
  | [] => .idle
  | current :: later => .rehearsing current later

/-- Go on to the recovery points that are due. -/
def claimDue : List (Uuid × Uuid) → List RehearsalClaim → Pass
  | [], claims => .rehearse claims
  | row :: pending, claims => .claiming (row :: pending) claims

@[simp]
theorem claims_idle : Pass.idle.claims = [] := rfl

@[simp]
theorem claims_retrying (pending : List RetryCandidate) (claims : List RehearsalClaim) :
    (Pass.retrying pending claims).claims = claims := rfl

@[simp]
theorem claims_claiming (pending : List (Uuid × Uuid)) (claims : List RehearsalClaim) :
    (Pass.claiming pending claims).claims = claims := rfl

@[simp]
theorem claims_rehearsing (current : RehearsalClaim) (later : List RehearsalClaim) :
    (Pass.rehearsing current later).claims = current :: later := rfl

@[simp]
theorem claims_rehearse (claims : List RehearsalClaim) :
    (Pass.rehearse claims).claims = claims := by
  cases claims with
  | nil | cons current later => rfl

@[simp]
theorem claims_claimDue (pending : List (Uuid × Uuid)) (claims : List RehearsalClaim) :
    (Pass.claimDue pending claims).claims = claims := by
  cases pending with
  | nil => exact claims_rehearse claims
  | cons row pending => rfl

end Pass

/-! ## Schedulers -/

/-- The database and the schedulers that are alive. A process that is started again
has a new identifier. -/
structure System where
  db : Db
  schedulers : Table Uuid Pass

/-- A committed statement of a scheduler, the end of its process or of its pass, or
something that happens around it. `changeRecovery` is every write of other
components to a recovery point; none moves it to another workshop. -/
inductive Event
  | start (scheduler : Uuid)
  | crash (scheduler : Uuid)
  | abort (scheduler : Uuid)
  | discoverRetries (scheduler : Uuid) (rows : List RetryCandidate)
  | claimRetry (scheduler token : Uuid)
  | discoverDue (scheduler : Uuid) (rows : List (Uuid × Uuid))
  | claimNew (scheduler token rehearsal : Uuid)
  | finish (scheduler : Uuid) (answer : DriverAnswer)
  | advance (elapsed : Timestamp)
  | changeRecovery (recovery : Uuid) (point : RecoveryPoint)

namespace System

/-- No recovery point is rehearsed yet and no scheduler runs. -/
def initial (now : Timestamp) : System where
  db := { now := now, recoveries := ∅, rehearsals := ∅ }
  schedulers := ∅

def enter (s : System) (scheduler : Uuid) (pass : Pass) : System :=
  { s with schedulers := s.schedulers.insert scheduler pass }

/-- The claims that a scheduler holds. -/
def claimsOf (s : System) (scheduler : Uuid) : List RehearsalClaim :=
  ((s.schedulers.lookup scheduler).map Pass.claims).getD []

theorem claimsOf_of_lookup {s : System} {scheduler : Uuid} {pass : Pass}
    (h : s.schedulers.lookup scheduler = some pass) : s.claimsOf scheduler = pass.claims := by
  simp [claimsOf, h]

@[simp]
theorem claimsOf_enter (s : System) (scheduler : Uuid) (pass : Pass) :
    (s.enter scheduler pass).claimsOf scheduler = pass.claims := by
  simp [claimsOf, enter]

theorem claimsOf_enter_of_ne {s : System} {scheduler other : Uuid} {pass : Pass}
    (hne : other ≠ scheduler) : (s.enter scheduler pass).claimsOf other = s.claimsOf other := by
  simp [claimsOf, enter, AList.lookup_insert_ne hne]

/-- Run one event; `none` when it is not possible in the state. -/
def step (s : System) : Event → Option System
  | .start scheduler =>
    if s.schedulers.lookup scheduler |>.isNone then some (s.enter scheduler .idle) else none
  | .crash scheduler =>
    if s.schedulers.lookup scheduler |>.isSome then
      some { s with schedulers := s.schedulers.erase scheduler }
    else none
  | .abort scheduler =>
    if s.schedulers.lookup scheduler |>.isSome then some (s.enter scheduler .idle) else none
  | .discoverRetries scheduler rows =>
    match s.schedulers.lookup scheduler with
    | some .idle =>
      if s.db.isRetryDiscovery rows then some (s.enter scheduler (.retrying rows [])) else none
    | _ => none
  | .claimRetry scheduler token =>
    match s.schedulers.lookup scheduler with
    | some (.retrying (candidate :: pending) claims) =>
      match s.db.claimRehearsalRetry scheduler token candidate with
      | .error _ => some (s.enter scheduler .idle)
      | .ok (db, claim) =>
        some ({ s with db := db }.enter scheduler (.retrying pending (claims ++ claim.toList)))
    | _ => none
  | .discoverDue scheduler rows =>
    match s.schedulers.lookup scheduler with
    | some (.retrying [] claims) =>
      if s.db.isDueDiscovery (20 - claims.length) rows then
        some (s.enter scheduler (.claimDue rows claims))
      else none
    | _ => none
  | .claimNew scheduler token rehearsal =>
    match s.schedulers.lookup scheduler with
    | some (.claiming ((workshop, recovery) :: pending) claims) =>
      let (db, claim) := s.db.claimNewRehearsal scheduler token rehearsal workshop recovery
      some ({ s with db := db }.enter scheduler (.claimDue pending (claims ++ claim.toList)))
    | _ => none
  | .finish scheduler answer =>
    match s.schedulers.lookup scheduler with
    | some (.rehearsing current later) =>
      match s.db.finishRehearsal scheduler current answer with
      | some db => some ({ s with db := db }.enter scheduler (.rehearse later))
      | none => some (s.enter scheduler .idle)
    | _ => none
  | .advance elapsed => some { s with db := { s.db with now := s.db.now + elapsed } }
  | .changeRecovery recovery point =>
    if (s.db.recoveries.lookup recovery).all fun row => decide (row.workshop = point.workshop)
    then some { s with db :=
      { s.db with recoveries := s.db.recoveries.insert recovery point } }
    else none

end System

end ControlPlane.Rehearsals
