/-
# When rehearsals get stuck

A running rehearsal whose lease has run out must be given up by someone: by the
scheduler that still holds its claim, or by a retry claim of any scheduler. The
retry claim asks for an attempt that is left and for a usable recovery point, so
a rehearsal abandoned in its last attempt, or one whose recovery point expires
while nobody holds it, stays running for ever, and it keeps every new rehearsal
of its workshop out.

A retry is refused with an error by the unique index when another rehearsal of the
workshop is running, and an error ends the pass. A pass claims retries before
anything else, so one workshop with a failed rehearsal of an older recovery point
and a running one of a newer stops the rehearsals of all others.

In the runs that avoid these situations neither happens: every running rehearsal
is held or may be retried, and a workshop has at most one rehearsal that is not
over.
-/

import ControlPlane.Math.Transition
import ControlPlane.Rehearsals.Scheduler

namespace ControlPlane.Rehearsals

open Domain Math Table

/-! ## What a statement does -/

namespace Db

variable {db : Db} {scheduler token : Uuid}

theorem noneRunning_iff {workshop : Uuid} {except : Option Uuid} :
    db.noneRunning workshop except = true ↔
      ∀ key row, db.rehearsals.lookup key = some row → row.workshop = workshop →
        row.isRunning = true → some key = except := by
  unfold noneRunning
  rw [allRows_iff]
  constructor
  · intro h key row hrow hworkshop hrunning
    have hrow := h key row hrow
    simpa [hworkshop, hrunning] using hrow
  · intro h key row hrow
    by_cases hother : row.workshop = workshop ∧ row.isRunning = true
    · simp [h key row hrow hother.1 hother.2]
    · rw [not_and, Bool.not_eq_true] at hother
      by_cases hworkshop : row.workshop = workshop
      · simp [hother hworkshop]
      · simp [hworkshop]

/-- The tables after the retry claim of a row. -/
def retry (db : Db) (scheduler token rehearsal : Uuid) (row : Rehearsal) : Db :=
  db.write rehearsal (row.retried db.now scheduler token)

/-- A retry claim passes the row by, is refused by the index, or starts an attempt. -/
theorem claimRehearsalRetry_cases (db : Db) (scheduler token : Uuid) (candidate : RetryCandidate) :
    db.claimRehearsalRetry scheduler token candidate = .ok (db, none) ∨
      ∃ row, db.rehearsals.lookup candidate.rehearsal = some row ∧
        row.candidate candidate.rehearsal = candidate ∧ db.retryable row = true ∧
        (db.noneRunning row.workshop (some candidate.rehearsal) = false ∧
            db.claimRehearsalRetry scheduler token candidate = .error .oneRunningPerWorkshop ∨
          db.noneRunning row.workshop (some candidate.rehearsal) = true ∧
            db.claimRehearsalRetry scheduler token candidate =
              .ok (db.retry scheduler token candidate.rehearsal row,
                some (candidate.granted token row.attempts.next))) := by
  unfold claimRehearsalRetry
  cases hrow : db.rehearsals.lookup candidate.rehearsal with
  | none => exact Or.inl rfl
  | some row =>
    by_cases hmatches : row.candidate candidate.rehearsal = candidate ∧ db.retryable row = true
    · refine Or.inr ⟨row, rfl, hmatches.1, hmatches.2, ?_⟩
      cases hnone : db.noneRunning row.workshop (some candidate.rehearsal) with
      | false => exact Or.inl ⟨rfl, by simp [hmatches, hnone]⟩
      | true =>
        refine Or.inr ⟨rfl, ?_⟩
        simp only [hmatches, hnone, and_self, if_true]
        rfl
    · exact Or.inl (by simp [hmatches])

theorem claimRehearsalRetry_of_retryable {rehearsal : Uuid} {row : Rehearsal}
    (hrow : db.rehearsals.lookup rehearsal = some row) (hretryable : db.retryable row = true)
    (hnone : db.noneRunning row.workshop (some rehearsal) = true) :
    db.claimRehearsalRetry scheduler token (row.candidate rehearsal) =
      .ok (db.retry scheduler token rehearsal row,
        some ((row.candidate rehearsal).granted token row.attempts.next)) := by
  have hnamed : db.rehearsals.lookup (row.candidate rehearsal).rehearsal = some row := hrow
  unfold claimRehearsalRetry
  rw [hnamed]
  dsimp only
  rw [if_pos ⟨rfl, hretryable⟩]
  exact if_pos hnone

/-- The row of a new rehearsal. -/
def newRehearsal (db : Db) (scheduler token workshop recovery : Uuid) : Rehearsal where
  workshop := workshop
  recovery := recovery
  state := .running (rehearsalLease db.now scheduler token)
  startedAt := db.now
  attempts := .first

theorem claimNewRehearsal_cases (db : Db) (scheduler token rehearsal workshop recovery : Uuid) :
    db.claimNewRehearsal scheduler token rehearsal workshop recovery = (db, none) ∨
      db.noneRunning workshop none = true ∧ db.rehearsals.lookup rehearsal = none ∧
        db.claimNewRehearsal scheduler token rehearsal workshop recovery =
          (db.write rehearsal (db.newRehearsal scheduler token workshop recovery),
            some (((db.newRehearsal scheduler token workshop recovery).candidate
              rehearsal).granted token .first)) := by
  unfold claimNewRehearsal
  cases hpoint : db.recoveries.lookup recovery with
  | none => exact Or.inl rfl
  | some point =>
    dsimp only
    split
    · rename_i hmatches
      exact Or.inr ⟨hmatches.2.2.1, hmatches.2.2.2, rfl⟩
    · exact Or.inl rfl

theorem finishRehearsal_eq_some_iff {db changed : Db} {claim : RehearsalClaim}
    {answer : DriverAnswer} :
    db.finishRehearsal scheduler claim answer = some changed ↔
      ∃ row, db.rehearsals.lookup claim.rehearsal = some row ∧
        row.claimedBy scheduler claim = true ∧
        changed = db.write claim.rehearsal (row.recorded db.now claim.attempts answer) := by
  unfold finishRehearsal
  rw [Option.map_eq_some_iff]
  constructor
  · rintro ⟨rehearsals, hreplaced, rfl⟩
    obtain ⟨row, hrow, hclaimed, rfl⟩ := replace_eq_some_iff.mp hreplaced
    exact ⟨row, hrow, hclaimed, rfl⟩
  · rintro ⟨row, hrow, hclaimed, rfl⟩
    exact ⟨_, replace_eq_some_iff.mpr ⟨row, hrow, hclaimed, rfl⟩, rfl⟩

end Db

/-! ## The property -/

def Db.isRunning (db : Db) (rehearsal : Uuid) : Bool :=
  (db.rehearsals.lookup rehearsal).any Rehearsal.isRunning

/-- Whatever the driver answers, recording it ends the attempt of the claim. -/
def Db.Finishes (db : Db) (scheduler : Uuid) (claim : RehearsalClaim) : Prop :=
  ∀ answer, ∃ changed, db.finishRehearsal scheduler claim answer = some changed ∧
    changed.isRunning claim.rehearsal = false

/-- A scheduler that is alive holds a claim that finishes the rehearsal, or every
scheduler that tries gets one. -/
def System.CanLeave (s : System) (rehearsal : Uuid) : Prop :=
  (∃ scheduler, ∃ claim ∈ s.claimsOf scheduler,
      claim.rehearsal = rehearsal ∧ s.db.Finishes scheduler claim) ∨
    ∃ candidate : RetryCandidate, candidate.rehearsal = rehearsal ∧ ∀ scheduler token, ∃ db claim,
        s.db.claimRehearsalRetry scheduler token candidate = .ok (db, some claim) ∧
          claim.rehearsal = rehearsal ∧ db.Finishes scheduler claim

/-- No rehearsal is stuck and none stands in the way of a pass. -/
structure System.Unblocked (s : System) : Prop where
  /-- An attempt that outlived its lease can be ended. -/
  leaves : ∀ rehearsal row lease, s.db.rehearsals.lookup rehearsal = some row →
    row.state = .running lease → lease.expiresAt ≤ s.db.now → s.CanLeave rehearsal
  /-- A pass gets past its retries to the recovery points that are due, whatever it
  discovered. -/
  reaches : ∀ scheduler retries, ∃ db claims, s.db.claimRetries scheduler retries = .ok (db, claims)

/-! ## Held rehearsals -/

theorem Rehearsal.claimedBy_iff {row : Rehearsal} {scheduler : Uuid} {claim : RehearsalClaim} :
    row.claimedBy scheduler claim = true ↔ row.candidate claim.rehearsal = claim.toRetryCandidate ∧
        ∃ lease, row.state = .running lease ∧ lease.owner = scheduler ∧
          lease.token = claim.leaseToken := by
  unfold claimedBy
  rw [Bool.and_eq_true, decide_eq_true_iff, and_congr_right_iff]
  intro _
  cases hstate : row.state with
  | running lease | succeeded finishedAt | failed finishedAt safeError nextAttemptAt => simp

namespace System

/-- The scheduler holds the claim under which the row is running. -/
def heldBy (s : System) (scheduler rehearsal : Uuid) (row : Rehearsal) : Bool :=
  (s.claimsOf scheduler).any fun claim =>
    decide (claim.rehearsal = rehearsal) && row.claimedBy scheduler claim

def isHeld (s : System) (rehearsal : Uuid) (row : Rehearsal) : Bool :=
  match row.state with
  | .running lease => s.heldBy lease.owner rehearsal row
  | _ => false

variable {s t : System} {scheduler rehearsal : Uuid} {row : Rehearsal}

theorem heldBy_iff : s.heldBy scheduler rehearsal row = true ↔
      ∃ claim ∈ s.claimsOf scheduler, claim.rehearsal = rehearsal ∧
        row.claimedBy scheduler claim = true := by
  simp [heldBy, List.any_eq_true]

theorem isHeld_iff :
    s.isHeld rehearsal row = true ↔ ∃ scheduler, s.heldBy scheduler rehearsal row = true := by
  unfold isHeld
  constructor
  · intro h
    cases hstate : row.state with
    | running lease => exact ⟨lease.owner, by simpa [hstate] using h⟩
    | succeeded finishedAt | failed finishedAt safeError nextAttemptAt => simp [hstate] at h
  · rintro ⟨scheduler, h⟩
    obtain ⟨claim, -, -, hclaimed⟩ := heldBy_iff.mp h
    obtain ⟨-, lease, hstate, rfl, -⟩ := Rehearsal.claimedBy_iff.mp hclaimed
    simpa [hstate] using h

/-- A retry may be claimed once the lease has run out. -/
def spared (s : System) (row : Rehearsal) : Bool :=
  row.attempts.remain && s.db.recoveryUsable row

/-- Every attempt that the scheduler would abandon may be retried. -/
def releasable (s : System) (scheduler : Uuid) : Bool :=
  s.db.rehearsals.allRows fun rehearsal row =>
    !s.heldBy scheduler rehearsal row || s.spared row

/-- The running rehearsals that nobody holds keep a usable recovery point. -/
def keepsUsable (s : System) (changed : Db) : Bool :=
  s.db.rehearsals.allRows fun rehearsal row =>
    !row.isRunning || s.isHeld rehearsal row || changed.recoveryUsable row

/-- A scheduler stops only when its attempts may be retried, recovery points outlast
the abandoned attempts, and a new rehearsal is not begun while an older one of the
workshop awaits its retry. -/
def attended (s : System) : Event → Bool
  | .crash scheduler | .abort scheduler => s.releasable scheduler
  | .finish scheduler answer =>
    match s.schedulers.lookup scheduler with
    | some (.rehearsing current _) =>
      (s.db.finishRehearsal scheduler current answer).isSome || s.releasable scheduler
    | _ => true
  | .claimNew scheduler _ _ =>
    match s.schedulers.lookup scheduler with
    | some (.claiming ((workshop, _) :: _) _) =>
      s.db.rehearsals.allRows fun _ row =>
        !(decide (row.workshop = workshop) && row.awaitsRetry)
    | _ => true
  | .advance elapsed => s.keepsUsable { s.db with now := s.db.now + elapsed }
  | .changeRecovery recovery point =>
    s.keepsUsable { s.db with recoveries := s.db.recoveries.insert recovery point }
  | .start _ | .discoverRetries _ _ | .claimRetry _ _ | .discoverDue _ _ => true

/-! ## The invariant -/

/-- A workshop has at most one rehearsal that is not over. -/
def OneOpen (db : Db) : Prop :=
  ∀ first second a b, db.rehearsals.lookup first = some a → db.rehearsals.lookup second = some b →
    a.workshop = b.workshop → a.isOpen = true → b.isOpen = true → first = second

/-- The attempt is held, or may be retried. -/
def Recoverable (s : System) (rehearsal : Uuid) (row : Rehearsal) : Prop :=
  s.isHeld rehearsal row = true ∨ s.spared row = true

structure Sound (s : System) : Prop where
  recoverable : ∀ rehearsal row, s.db.rehearsals.lookup rehearsal = some row →
    row.isRunning = true → s.Recoverable rehearsal row
  oneOpen : OneOpen s.db

/-- A row stays recoverable while its claim is kept and its recovery point usable. -/
theorem Recoverable.mono (h : s.Recoverable rehearsal row)
    (hclaims : ∀ other, ∀ claim ∈ s.claimsOf other, claim.rehearsal = rehearsal →
      claim ∈ t.claimsOf other)
    (husable : s.db.recoveryUsable row = true → t.db.recoveryUsable row = true) :
    t.Recoverable rehearsal row := by
  rcases h with hheld | hspared
  · obtain ⟨scheduler, hheld⟩ := isHeld_iff.mp hheld
    obtain ⟨claim, hclaim, hrehearsal, hclaimed⟩ := heldBy_iff.mp hheld
    have hkept := hclaims scheduler claim hclaim hrehearsal
    exact Or.inl (isHeld_iff.mpr ⟨scheduler, heldBy_iff.mpr ⟨claim, hkept, hrehearsal, hclaimed⟩⟩)
  · obtain ⟨hremain, husableBefore⟩ := Bool.and_eq_true_iff.mp hspared
    exact Or.inr (Bool.and_eq_true_iff.mpr ⟨hremain, husable husableBefore⟩)

/-- A scheduler that gives up its claims leaves rows that may be retried. -/
theorem Recoverable.release (h : s.Recoverable rehearsal row)
    (hrow : s.db.rehearsals.lookup rehearsal = some row)
    (hreleasable : s.releasable scheduler = true) (hdb : t.db = s.db)
    (hclaims : ∀ other, other ≠ scheduler → t.claimsOf other = s.claimsOf other) :
    t.Recoverable rehearsal row := by
  have hspared : t.spared row = s.spared row := by simp [spared, hdb]
  rcases h with hheld | hretry
  · obtain ⟨holder, hholder⟩ := isHeld_iff.mp hheld
    by_cases hsame : holder = scheduler
    · subst holder
      have hrelease := allRows_iff.mp hreleasable rehearsal row hrow
      rw [hholder] at hrelease
      exact Or.inr (hspared.trans (by simpa using hrelease))
    · refine Or.inl (isHeld_iff.mpr ⟨holder, ?_⟩)
      obtain ⟨claim, hclaim, hrest⟩ := heldBy_iff.mp hholder
      exact heldBy_iff.mpr ⟨claim, (hclaims holder hsame).symm ▸ hclaim, hrest⟩
  · exact Or.inr (hspared.trans hretry)

/-! ## One open rehearsal -/

variable {db : Db} {token : Uuid}

/-- Writing a row keeps one open rehearsal per workshop when the row takes the
place of an open one, is over, or is the only one. -/
theorem OneOpen.insert (h : OneOpen db)
    (halone : row.isOpen = true → ∀ key other, db.rehearsals.lookup key = some other →
      other.workshop = row.workshop → other.isOpen = true → key = rehearsal) :
    OneOpen (db.write rehearsal row) := by
  intro first second a b ha hb hworkshop haOpen hbOpen
  rcases lookup_insert_cases ha with ⟨rfl, rfl⟩ | ⟨-, hfirst⟩
  · rcases lookup_insert_cases hb with ⟨rfl, rfl⟩ | ⟨-, hsecond⟩
    · rfl
    · exact (halone haOpen second b hsecond hworkshop.symm hbOpen).symm
  · rcases lookup_insert_cases hb with ⟨rfl, rfl⟩ | ⟨-, hsecond⟩
    · exact halone hbOpen first a hfirst hworkshop haOpen
    · exact h first second a b hfirst hsecond hworkshop haOpen hbOpen

theorem OneOpen.replace {changed : Rehearsal} (h : OneOpen db)
    (hrow : db.rehearsals.lookup rehearsal = some row) (hopen : row.isOpen = true)
    (hworkshop : changed.workshop = row.workshop) : OneOpen (db.write rehearsal changed) := by
  apply h.insert
  intro _ key other hother hsame hotherOpen
  exact h key rehearsal other row hother hrow (hsame.trans hworkshop) hotherOpen hopen

theorem isOpen_of_retryable (h : db.retryable row = true) : row.isOpen = true := by
  rw [Db.retryable, Bool.and_assoc] at h
  exact Rehearsal.isOpen_of_waits (Bool.and_eq_true_iff.mp h).1

theorem OneOpen.retry (h : OneOpen db) (scheduler token : Uuid)
    (hrow : db.rehearsals.lookup rehearsal = some row) (hretryable : db.retryable row = true) :
    OneOpen (db.retry scheduler token rehearsal row) :=
  h.replace hrow (isOpen_of_retryable hretryable) rfl

/-- With one open rehearsal per workshop the index refuses no retry. -/
theorem OneOpen.noneRunning (h : OneOpen db) (hrow : db.rehearsals.lookup rehearsal = some row)
    (hopen : row.isOpen = true) : db.noneRunning row.workshop (some rehearsal) = true := by
  rw [Db.noneRunning_iff]
  intro key other hother hworkshop hrunning
  exact congrArg some
    (h key rehearsal other row hother hrow hworkshop (Rehearsal.isOpen_of_isRunning hrunning) hopen)

/-- With one open rehearsal per workshop a retry claim does nothing or starts an
attempt. -/
theorem OneOpen.claimRehearsalRetry_cases (h : OneOpen db) (scheduler token : Uuid)
    (candidate : RetryCandidate) :
    db.claimRehearsalRetry scheduler token candidate = .ok (db, none) ∨
      ∃ row, db.rehearsals.lookup candidate.rehearsal = some row ∧
        row.candidate candidate.rehearsal = candidate ∧ db.retryable row = true ∧
        db.claimRehearsalRetry scheduler token candidate =
          .ok (db.retry scheduler token candidate.rehearsal row,
            some (candidate.granted token row.attempts.next)) := by
  rcases db.claimRehearsalRetry_cases scheduler token candidate with
    hpassed | ⟨row, hrow, hcandidate, hretryable, ⟨hnone, -⟩ | ⟨-, hclaimed⟩⟩
  · exact Or.inl hpassed
  · have hfree := h.noneRunning hrow (isOpen_of_retryable hretryable)
    rw [hnone] at hfree
    cases hfree
  · exact Or.inr ⟨row, hrow, hcandidate, hretryable, hclaimed⟩

theorem OneOpen.claimRetries (h : OneOpen db) (scheduler : Uuid)
    (retries : List (RetryCandidate × Uuid)) :
    ∃ changed claims, db.claimRetries scheduler retries = .ok (changed, claims) := by
  induction retries generalizing db with
  | nil => exact ⟨db, [], rfl⟩
  | cons retry rest ih =>
    obtain ⟨candidate, token⟩ := retry
    rcases h.claimRehearsalRetry_cases scheduler token candidate with
      hpassed | ⟨row, hrow, -, hretryable, hclaimed⟩
    · obtain ⟨changed, claims, hrest⟩ := ih h
      exact ⟨changed, claims, by simp [Db.claimRetries, hpassed, hrest]⟩
    · obtain ⟨changed, claims, hrest⟩ := ih (h.retry scheduler token hrow hretryable)
      refine ⟨changed, candidate.granted token row.attempts.next :: claims, ?_⟩
      simp only [Db.claimRetries, hclaimed, hrest]
      rfl

/-! ## Steps -/

variable {pass : Pass} {now : Timestamp} {answer : DriverAnswer}

/-- Discoveries, and claims that grant nothing, only move the scheduler on. -/
theorem Sound.enter (hs : s.Sound) (hclaims : s.claimsOf scheduler ⊆ pass.claims) :
    (s.enter scheduler pass).Sound where
  recoverable rehearsal row hrow hrunning := by
    refine (hs.recoverable rehearsal row hrow hrunning).mono ?_ id
    intro other claim hclaim _
    by_cases hother : other = scheduler
    · subst other
      rw [claimsOf_enter]
      exact hclaims hclaim
    · rwa [claimsOf_enter_of_ne hother]
  oneOpen := hs.oneOpen

theorem Sound.release (hs : s.Sound) (hreleasable : s.releasable scheduler = true)
    (hdb : t.db = s.db)
    (hclaims : ∀ other, other ≠ scheduler → t.claimsOf other = s.claimsOf other) : t.Sound where
  recoverable rehearsal row hrow hrunning := by
    rw [hdb] at hrow
    exact (hs.recoverable rehearsal row hrow hrunning).release hrow hreleasable hdb hclaims
  oneOpen := hdb ▸ hs.oneOpen

/-- A statement that writes a rehearsal: the scheduler keeps its other claims, and
an attempt that runs is one of them. -/
theorem Sound.write (hs : s.Sound) (hopen : OneOpen (s.db.write rehearsal row))
    (hrunning : row.isRunning = true →
      ∃ claim ∈ pass.claims, claim.rehearsal = rehearsal ∧ row.claimedBy scheduler claim = true)
    (hclaims : ∀ claim ∈ s.claimsOf scheduler, claim.rehearsal ≠ rehearsal → claim ∈ pass.claims) :
    ({ s with db := s.db.write rehearsal row }.enter scheduler pass).Sound where
  recoverable key value hvalue hvalueRunning := by
    rcases lookup_insert_cases hvalue with ⟨rfl, rfl⟩ | ⟨hkey, hbefore⟩
    · obtain ⟨claim, hclaim, hheld⟩ := hrunning hvalueRunning
      refine Or.inl (isHeld_iff.mpr ⟨scheduler, heldBy_iff.mpr ⟨claim, ?_, hheld⟩⟩)
      rwa [claimsOf_enter]
    · refine (hs.recoverable key value hbefore hvalueRunning).mono ?_ id
      intro other claim hclaim hrehearsal
      by_cases hother : other = scheduler
      · subst other
        rw [claimsOf_enter]
        exact hclaims claim hclaim (hrehearsal ▸ hkey)
      · rw [claimsOf_enter_of_ne hother]
        exact hclaim
  oneOpen := hopen

/-- The clock and the writers of recovery points leave the rehearsals alone. -/
theorem Sound.environment (hs : s.Sound) {changed : Db}
    (hrows : changed.rehearsals = s.db.rehearsals) (hkeeps : s.keepsUsable changed = true) :
    { s with db := changed }.Sound where
  recoverable rehearsal row hrow hrunning := by
    have hbefore : s.db.rehearsals.lookup rehearsal = some row := hrows ▸ hrow
    have hkept := allRows_iff.mp hkeeps rehearsal row hbefore
    rcases hs.recoverable rehearsal row hbefore hrunning with hheld | hspared
    · exact Or.inl hheld
    cases hheld : s.isHeld rehearsal row with
    | true => exact Or.inl hheld
    | false =>
      rw [hrunning, hheld] at hkept
      have husable : changed.recoveryUsable row = true := by simpa using hkept
      exact Or.inr (Bool.and_eq_true_iff.mpr ⟨(Bool.and_eq_true_iff.mp hspared).1, husable⟩)
  oneOpen := by
    intro first second a b ha hb
    exact hs.oneOpen first second a b (hrows ▸ ha) (hrows ▸ hb)

theorem retried_claimedBy {candidate : RetryCandidate}
    (hcandidate : row.candidate candidate.rehearsal = candidate) :
    (row.retried now scheduler token).claimedBy scheduler
      (candidate.granted token row.attempts.next) = true :=
  Rehearsal.claimedBy_iff.mpr ⟨hcandidate, _, rfl, rfl, rfl⟩

theorem Sound.claimRetry (hs : s.Sound) (hstep : s.step (.claimRetry scheduler token) = some t) :
    t.Sound := by
  simp only [step] at hstep
  split at hstep
  swap
  · cases hstep
  rename_i candidate pending claims hpass
  have hclaims : s.claimsOf scheduler = claims := claimsOf_of_lookup hpass
  rcases hs.oneOpen.claimRehearsalRetry_cases scheduler token candidate with
    hpassed | ⟨row, hrow, hcandidate, hretryable, hclaimed⟩
  · rw [hpassed] at hstep
    cases hstep
    exact hs.enter (by simp [hclaims])
  · rw [hclaimed] at hstep
    cases hstep
    apply hs.write (hs.oneOpen.retry scheduler token hrow hretryable)
    · intro _
      exact ⟨candidate.granted token row.attempts.next, by simp, rfl, retried_claimedBy hcandidate⟩
    · intro claim hclaim _
      simp [← hclaims, hclaim]

theorem Sound.claimNew (hs : s.Sound)
    (hgood : s.attended (.claimNew scheduler token rehearsal) = true)
    (hstep : s.step (.claimNew scheduler token rehearsal) = some t) : t.Sound := by
  simp only [step] at hstep
  split at hstep
  swap
  · cases hstep
  rename_i workshop recovery pending claims hpass
  have hclaims : s.claimsOf scheduler = claims := claimsOf_of_lookup hpass
  simp only [attended, hpass] at hgood
  rcases s.db.claimNewRehearsal_cases scheduler token rehearsal workshop recovery with
    hpassed | ⟨hnone, hnew, hclaimed⟩
  · rw [hpassed] at hstep
    cases hstep
    exact hs.enter (by simp [hclaims])
  rw [hclaimed] at hstep
  cases hstep
  apply hs.write
  · apply hs.oneOpen.insert
    -- The statement excludes a running rehearsal of the workshop, the condition
    -- one that awaits its retry.
    intro _ key other hother hworkshop hopen
    have hawaits := allRows_iff.mp hgood key other hother
    have hrunning := Db.noneRunning_iff.mp hnone key other hother hworkshop
    rcases Bool.or_eq_true_iff.mp hopen with hrun | hretry
    · cases hrunning hrun
    · have hsame : other.workshop = workshop := hworkshop
      simp [hsame, hretry] at hawaits
  · intro _
    let row := s.db.newRehearsal scheduler token workshop recovery
    exact ⟨(row.candidate rehearsal).granted token .first, by simp [row], rfl,
      Rehearsal.claimedBy_iff.mpr ⟨rfl, _, rfl, rfl, rfl⟩⟩
  · intro claim hclaim _
    simp [← hclaims, hclaim]

theorem isRunning_recorded {attempts : Attempts} :
    (row.recorded now attempts answer).isRunning = false := by
  unfold Rehearsal.isRunning Rehearsal.recorded recordedState
  by_cases hsuccess : answer.isSuccess = true
  · simp [hsuccess]
  · simp [hsuccess]

theorem Sound.finish (hs : s.Sound) (hgood : s.attended (.finish scheduler answer) = true)
    (hstep : s.step (.finish scheduler answer) = some t) : t.Sound := by
  simp only [step] at hstep
  split at hstep
  swap
  · cases hstep
  rename_i current later hpass
  have hclaims : s.claimsOf scheduler = current :: later := claimsOf_of_lookup hpass
  simp only [attended, hpass] at hgood
  cases hfinish : s.db.finishRehearsal scheduler current answer with
  | some db =>
    rw [hfinish] at hstep
    cases hstep
    obtain ⟨row, hrow, hclaimed, rfl⟩ := Db.finishRehearsal_eq_some_iff.mp hfinish
    obtain ⟨-, lease, hstate, -⟩ := Rehearsal.claimedBy_iff.mp hclaimed
    have hopen : row.isOpen = true :=
      Rehearsal.isOpen_of_isRunning (by simp [Rehearsal.isRunning, hstate])
    have hone : OneOpen (s.db.write current.rehearsal
        (row.recorded s.db.now current.attempts answer)) :=
      hs.oneOpen.replace hrow hopen rfl
    apply hs.write hone
    · intro hrunning
      rw [isRunning_recorded] at hrunning
      cases hrunning
    · intro claim hclaim hne
      rw [hclaims] at hclaim
      rw [Pass.claims_rehearse]
      exact (List.mem_cons.mp hclaim).resolve_left fun heq => hne (heq ▸ rfl)
  | none =>
    rw [hfinish] at hstep
    cases hstep
    rw [hfinish] at hgood
    exact hs.release hgood rfl fun other hne => claimsOf_enter_of_ne hne

theorem claimsOf_erase_of_ne {other : Uuid} (hne : other ≠ scheduler) :
    { s with schedulers := s.schedulers.erase scheduler }.claimsOf other = s.claimsOf other := by
  simp [claimsOf, AList.lookup_erase_ne hne]

theorem Sound.step {event : Event} (hs : s.Sound) (hgood : s.attended event = true)
    (hstep : s.step event = some t) : t.Sound := by
  cases event with
  | start scheduler =>
    simp only [System.step] at hstep
    split at hstep
    · rename_i hnone
      cases hstep
      have hempty : s.claimsOf scheduler = [] := by
        simp [claimsOf, Option.isNone_iff_eq_none.mp hnone]
      exact hs.enter (by simp [hempty])
    · cases hstep
  | crash scheduler =>
    simp only [System.step] at hstep
    split at hstep
    · cases hstep
      exact hs.release hgood rfl fun other hne => claimsOf_erase_of_ne hne
    · cases hstep
  | abort scheduler =>
    simp only [System.step] at hstep
    split at hstep
    · cases hstep
      exact hs.release hgood rfl fun other hne => claimsOf_enter_of_ne hne
    · cases hstep
  | discoverRetries scheduler rows =>
    simp only [System.step] at hstep
    split at hstep
    · rename_i hpass
      split at hstep
      · cases hstep
        exact hs.enter (by simp [claimsOf_of_lookup hpass])
      · cases hstep
    · cases hstep
  | claimRetry scheduler token => exact hs.claimRetry hstep
  | discoverDue scheduler rows =>
    simp only [System.step] at hstep
    split at hstep
    · rename_i claims hpass
      split at hstep
      · cases hstep
        exact hs.enter (by simp [claimsOf_of_lookup hpass])
      · cases hstep
    · cases hstep
  | claimNew scheduler token rehearsal => exact hs.claimNew hgood hstep
  | finish scheduler answer => exact hs.finish hgood hstep
  | advance elapsed =>
    cases hstep
    exact hs.environment rfl hgood
  | changeRecovery recovery point =>
    simp only [System.step] at hstep
    split at hstep
    · cases hstep
      exact hs.environment rfl hgood
    · cases hstep

theorem sound_initial (now : Timestamp) : (initial now).Sound where
  recoverable rehearsal row hrow := by cases hrow
  oneOpen first second a b ha := by cases ha

/-! ## Leaving -/

theorem finishes_of_claimedBy {claim : RehearsalClaim}
    (hrow : db.rehearsals.lookup claim.rehearsal = some row)
    (hclaimed : row.claimedBy scheduler claim = true) : db.Finishes scheduler claim := by
  intro answer
  refine ⟨_, Db.finishRehearsal_eq_some_iff.mpr ⟨row, hrow, hclaimed, rfl⟩, ?_⟩
  unfold Db.isRunning Db.write
  rw [AList.lookup_insert]
  exact isRunning_recorded

theorem Sound.canLeave (hs : s.Sound) {lease : RehearsalLease}
    (hrow : s.db.rehearsals.lookup rehearsal = some row) (hstate : row.state = .running lease)
    (hexpired : lease.expiresAt ≤ s.db.now) : s.CanLeave rehearsal := by
  have hrunning : row.isRunning = true := by simp [Rehearsal.isRunning, hstate]
  rcases hs.recoverable rehearsal row hrow hrunning with hheld | hspared
  · obtain ⟨scheduler, hholder⟩ := isHeld_iff.mp hheld
    obtain ⟨claim, hclaim, rfl, hclaimed⟩ := heldBy_iff.mp hholder
    exact Or.inl ⟨scheduler, claim, hclaim, rfl, finishes_of_claimedBy hrow hclaimed⟩
  have hwaits : row.waits s.db.now = true := by simp [Rehearsal.waits, hstate, hexpired]
  have hretryable : s.db.retryable row = true := by
    rw [Db.retryable, Bool.and_assoc, hwaits]
    exact hspared
  refine Or.inr ⟨row.candidate rehearsal, rfl, ?_⟩
  intro scheduler token
  have hfree := hs.oneOpen.noneRunning hrow (Rehearsal.isOpen_of_isRunning hrunning)
  refine ⟨s.db.retry scheduler token rehearsal row,
    (row.candidate rehearsal).granted token row.attempts.next, ?_, rfl, ?_⟩
  · exact Db.claimRehearsalRetry_of_retryable hrow hretryable hfree
  · exact finishes_of_claimedBy (AList.lookup_insert _) (retried_claimedBy rfl)

/-! ## Sample runs -/

/-- A verified backup of a workshop. -/
def sampleBackup (workshop : Uuid) (readyAt : Timestamp) : RecoveryPoint where
  workshop := workshop
  kind := .backup
  state := .ready
  verification := .verified
  location := .s3
  readyAt := some readyAt
  expiresAt := none

/-- A scheduler takes the rehearsal `9` of recovery point `7` up again and dies. -/
def crashedRetry (scheduler : Uuid) : List Event :=
  [.start scheduler, .discoverRetries scheduler [⟨9, 1, 7⟩], .claimRetry scheduler scheduler,
    .crash scheduler,
    .advance (seconds (20 * 60))]

/-- Six schedulers die one after another while they hold the rehearsal. -/
def crashedAttempts : List Event :=
  [.changeRecovery 7 (sampleBackup 1 0), .start 100, .discoverRetries 100 [],
    .discoverDue 100 [(1, 7)],
    .claimNew 100 100 9,
    .crash 100,
    .advance (seconds (20 * 60))] ++
  crashedRetry 101 ++ crashedRetry 102 ++ crashedRetry 103 ++ crashedRetry 104 ++
  crashedRetry 105

/-- The rehearsal `9` of recovery point `7` fails and awaits its retry, a newer
recovery point `8` of the workshop is taken up, and the scheduler dies. The
recovery point `6` belongs to another workshop. -/
def newerRehearsal : List Event :=
  [.changeRecovery 7 (sampleBackup 1 0), .start 100, .discoverRetries 100 [],
    .discoverDue 100 [(1, 7)],
    .claimNew 100 100 9,
    .finish 100 .unavailable,
    .changeRecovery 8 (sampleBackup 1 1),
    .discoverRetries 100 [],
    .discoverDue 100 [(1, 8)],
    .claimNew 100 101 10,
    .crash 100,
    .changeRecovery 6 (sampleBackup 2 2),
    .advance (seconds (20 * 60))]

/-! ## Attended runs -/

/-- **Rehearsals do not get stuck in attended runs.** Whatever the schedulers do and
however the clock moves, an attempt that outlived its lease is held by a scheduler
that will end it or may be retried by any, and the retry claims of a pass never
fail. -/
theorem unblocked_of_attended {now : Timestamp} {events : List Event}
    (hrun : RunWhere System.step (fun s event => s.attended event = true) (initial now) events t) :
    t.Unblocked := by
  have hsound : t.Sound :=
    hrun.invariant (P := Sound) (fun _ _ _ hs hgood hstep => hs.step hgood hstep)
      (sound_initial now)
  exact {
    leaves := fun _ _ _ hrow hstate hexpired => hsound.canLeave hrow hstate hexpired
    reaches := fun scheduler retries => hsound.oneOpen.claimRetries scheduler retries }

/-- A scheduler dies in its first attempt and the lease runs out. -/
theorem unblocked_after_crash :
    ∃ t, RunWhere System.step (fun s event => s.attended event = true) (initial 0)
        (crashedAttempts.take 7) t ∧
      (t.db.rehearsals.lookup 9).any (fun row => row.waits t.db.now && row.isRunning) = true ∧
      t.Unblocked := by
  have hend : (replayWhere System.step attended (initial 0) (crashedAttempts.take 7)).any
      (fun t => (t.db.rehearsals.lookup 9).any
        (fun row => row.waits t.db.now && row.isRunning)) = true := by
    decide +kernel
  obtain ⟨t, hreplay, hwaits⟩ := (Option.any_eq_true _ _).mp hend
  have hrun := runWhere_of_replayWhere hreplay
  exact ⟨t, hrun, hwaits, unblocked_of_attended hrun⟩

/-! ## Runs that get stuck -/

/-- A row that no retry claim matches, and that no scheduler holds, cannot leave. -/
theorem not_canLeave (hrow : s.db.rehearsals.lookup rehearsal = some row)
    (hretryable : s.db.retryable row = false) (hclaims : ∀ scheduler, s.claimsOf scheduler = []) :
    ¬ s.CanLeave rehearsal := by
  rintro (⟨scheduler, claim, hclaim, -⟩ | ⟨candidate, rfl, hretry⟩)
  · rw [hclaims scheduler] at hclaim
    cases hclaim
  obtain ⟨db, claim, hgranted, -⟩ := hretry 0 0
  rcases s.db.claimRehearsalRetry_cases 0 0 candidate with hpassed | ⟨other, hother, -, hyes, -⟩
  · rw [hpassed] at hgranted
    cases hgranted
  · rw [Option.some.inj (hrow.symm.trans hother), hyes] at hretryable
    cases hretryable

/-- A finished candidate comes before one that is running. -/
theorem head_of_discovery {rows : List RetryCandidate} {running finished : RetryCandidate}
    (hrows : db.isRetryDiscovery rows = true)
    (hcandidates : db.retryCandidates = [running, finished])
    (hrunning : (db.finishedAt running).isNone = true)
    (hfinished : (db.finishedAt finished).isSome = true) : ∃ rest, rows = finished :: rest := by
  simp only [Db.isRetryDiscovery, hcandidates, Bool.and_eq_true, decide_eq_true_iff,
    List.all_eq_true] at hrows
  obtain ⟨⟨⟨⟨hnodup, hmem⟩, hlength⟩, hordered⟩, -⟩ := hrows
  match rows, hlength with
  | [first, second], _ =>
    have hfirst : first = running ∨ first = finished := by simpa using hmem first (by simp)
    have hsecond : second = running ∨ second = finished := by simpa using hmem second (by simp)
    rcases hfirst with rfl | rfl
    · rcases hsecond with rfl | rfl
      · simp at hnodup
      · obtain ⟨at_, hat⟩ := Option.isSome_iff_exists.mp hfinished
        simp [hat, Option.isNone_iff_eq_none.mp hrunning, nullsLast] at hordered
    · exact ⟨[second], rfl⟩

/-- The index refuses the retry of a workshop that has another rehearsal running. -/
theorem claimRetries_error (candidate : RetryCandidate)
    (hrow : db.rehearsals.lookup candidate.rehearsal = some row)
    (hcandidate : row.candidate candidate.rehearsal = candidate)
    (hretryable : db.retryable row = true)
    (hnone : db.noneRunning row.workshop (some candidate.rehearsal) = false) (scheduler : Uuid)
    {retries : List (RetryCandidate × Uuid)} {rest : List RetryCandidate}
    (hretries : retries.map Prod.fst = candidate :: rest) :
    db.claimRetries scheduler retries = .error .oneRunningPerWorkshop := by
  obtain ⟨⟨first, token⟩, later, rfl, rfl, -⟩ := List.map_eq_cons_iff.mp hretries
  simp [Db.claimRetries, Db.claimRehearsalRetry, hrow, hcandidate, hretryable, hnone]

/-- After six crashes the rehearsal is running in its last attempt, its lease has
run out, and nothing can end it. After the newer rehearsal was abandoned every pass
ends with the index's error, while a recovery point of another workshop is due. -/
theorem rehearsals_blocked : (∃ events t rehearsal row lease, Run System.step (initial 0) events t ∧
      t.db.rehearsals.lookup rehearsal = some row ∧ row.state = .running lease ∧
      lease.expiresAt ≤ t.db.now ∧ ¬ t.CanLeave rehearsal) ∧
    ∃ events t, Run System.step (initial 0) events t ∧
      (∃ recovery point, t.db.recoveries.lookup recovery = some point ∧
        t.db.isDue recovery point = true ∧
        t.db.rehearsals.allRows (fun _ row => decide (row.workshop ≠ point.workshop)) = true) ∧
      ∀ rows, t.db.isRetryDiscovery rows = true → ∀ scheduler retries, retries.map Prod.fst = rows →
          t.db.claimRetries scheduler retries = .error .oneRunningPerWorkshop := by
  constructor
  · have hend : (replay System.step (initial 0) crashedAttempts).any (fun t =>
        decide (t.schedulers.entries.length = 0) &&
          (t.db.rehearsals.lookup 9).any fun row => !t.db.retryable row &&
            match row.state with
            | .running lease => decide (lease.expiresAt ≤ t.db.now)
            | _ => false) = true := by
      decide +kernel
    obtain ⟨t, hreplay, hfacts⟩ := (Option.any_eq_true _ _).mp hend
    obtain ⟨hschedulers, hrow⟩ := Bool.and_eq_true_iff.mp hfacts
    obtain ⟨row, hrow, hfacts⟩ := (Option.any_eq_true _ _).mp hrow
    obtain ⟨hretryable, hlease⟩ := Bool.and_eq_true_iff.mp hfacts
    have hempty : ∀ scheduler, t.claimsOf scheduler = [] := by
      intro scheduler
      have hentries : t.schedulers = ∅ :=
        AList.ext (List.length_eq_zero_iff.mp (of_decide_eq_true hschedulers))
      simp [claimsOf, hentries]
    cases hstate : row.state with
    | running lease =>
      rw [hstate] at hlease
      exact ⟨crashedAttempts, t, 9, row, lease, run_of_replay hreplay, hrow, hstate,
        of_decide_eq_true hlease, not_canLeave hrow (by simpa using hretryable) hempty⟩
    | succeeded finishedAt | failed finishedAt safeError nextAttemptAt => simp [hstate] at hlease
  · have hend : (replay System.step (initial 0) newerRehearsal).any (fun t =>
        ((t.db.recoveries.lookup 6).any fun point => t.db.isDue 6 point &&
          t.db.rehearsals.allRows (fun _ row => decide (row.workshop ≠ point.workshop))) &&
        decide (t.db.retryCandidates = [⟨10, 1, 8⟩, ⟨9, 1, 7⟩]) &&
        (t.db.finishedAt ⟨10, 1, 8⟩).isNone && (t.db.finishedAt ⟨9, 1, 7⟩).isSome &&
        (t.db.rehearsals.lookup 9).any fun row =>
          decide (row.candidate 9 = ⟨9, 1, 7⟩) && t.db.retryable row &&
            !t.db.noneRunning row.workshop (some 9)) = true := by
      decide +kernel
    obtain ⟨t, hreplay, hfacts⟩ := (Option.any_eq_true _ _).mp hend
    simp only [Bool.and_eq_true, Option.any_eq_true, decide_eq_true_iff,
      Bool.not_eq_true'] at hfacts
    obtain ⟨⟨⟨⟨⟨point, hpoint, hdue, hother⟩, hcandidates⟩, hrunning⟩, hfinished⟩,
      ⟨row, hrow, ⟨hcandidate, hretryable⟩, hnone⟩⟩ := hfacts
    refine ⟨newerRehearsal, t, run_of_replay hreplay, ⟨6, point, hpoint, hdue, hother⟩, ?_⟩
    intro rows hrows scheduler retries hretries
    obtain ⟨rest, rfl⟩ := head_of_discovery hrows hcandidates hrunning hfinished
    exact claimRetries_error ⟨9, 1, 7⟩ hrow hcandidate hretryable hnone scheduler hretries

end System

end ControlPlane.Rehearsals
