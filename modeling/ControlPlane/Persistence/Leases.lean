/-
# Lease safety of the operation queue

Workers call the store's statements in any order, each with any handle it was
ever given, while the database clock moves forward. The state keeps every handle
ever granted, which is what the statements about attempts are about: the table
itself only remembers the last one.

One lemma says everything a statement can do to a row. The safety properties
follow from it by the run rules.
-/

import ControlPlane.Math.Transition
import ControlPlane.Persistence.Store

namespace ControlPlane.Persistence

open Domain Math Store

/-- The table under a clock, with all handles granted so far, oldest first. -/
structure QueueState where
  now : Timestamp
  operations : Operations
  issued : List LeasedOperation

/-- One atomic statement, or the passing of time. `locked` is what the lease
statement's `skip locked` passes over. -/
inductive QueueCall
  | lease (queue : Queue) (worker : String) (locked : Uuid → Bool)
  | renewLease (operation : LeasedOperation)
  | saveOperationCheckpoint (operation : LeasedOperation) (checkpoint : Json)
  | lockCurrentOperationLease (operation : LeasedOperation)
  | finish (operation : LeasedOperation) (outcome : OperationOutcome)
  | advance (elapsed : Timestamp)

/-- The handle a statement is called with; a lease needs none. -/
def QueueCall.operation : QueueCall → Option LeasedOperation
  | .renewLease operation | .saveOperationCheckpoint operation _
  | .lockCurrentOperationLease operation | .finish operation _ => some operation
  | .lease _ _ _ | .advance _ => none

namespace QueueState

/-- Run a statement's effect on the table; an error leaves the table as it was. -/
def write (s : QueueState) (result : Except StoreError Operations) : QueueState :=
  match result with
  | .ok operations => { s with operations := operations }
  | .error _ => s

/-- A handle can be used only after it was granted. -/
def step (s : QueueState) : QueueCall → Option QueueState
  | .lease queue worker locked =>
    match lease s.operations s.now queue worker locked with
    | .ok (operations, some operation) =>
      some { s with operations := operations, issued := s.issued ++ [operation] }
    | .ok (operations, none) => some { s with operations := operations }
    | .error _ => some s
  | .renewLease operation =>
    if operation ∈ s.issued then
      some { s with
        operations := (renewLease s.operations s.now operation.id
          operation.leasedBy operation.attempt).1 }
    else none
  | .saveOperationCheckpoint operation checkpoint =>
    if operation ∈ s.issued then
      some (s.write (saveOperationCheckpoint s.operations s.now operation checkpoint))
    else none
  | .lockCurrentOperationLease operation =>
    if operation ∈ s.issued then some s else none
  | .finish operation outcome =>
    if operation ∈ s.issued then
      some (s.write (finish s.operations s.now operation outcome))
    else none
  | .advance elapsed => some { s with now := s.now + elapsed }

/-- Whether a handle passes the guard of renew, checkpoint, lock and finish. -/
def passes (s : QueueState) (operation : LeasedOperation) : Bool :=
  lockCurrentOperationLease s.operations s.now operation

end QueueState

/-! ## What one statement does to one row -/

/-- The four ways a statement at `now` changes a row. All but the lease are made
with a handle that holds the row. -/
inductive RowChange (now : Timestamp) : QueueCall → OperationRow → OperationRow → Prop
  | lease {row : OperationRow} {queue : Queue} {worker : String} {locked : Uuid → Bool}
      (due : row.leasable now queue = true) :
      RowChange now (.lease queue worker locked) row (row.leaseTo now worker)
  | renew {row : OperationRow} {operation : LeasedOperation}
      (held : row.heldBy now operation.leasedBy operation.attempt = true) :
      RowChange now (.renewLease operation) row (row.renewed now)
  | checkpoint {row : OperationRow} {operation : LeasedOperation} {value : Json}
      (held : row.heldBy now operation.leasedBy operation.attempt = true)
      (empty : row.checkpoint = none) :
      RowChange now (.saveOperationCheckpoint operation value) row (row.withCheckpoint value)
  | finish {row : OperationRow} {operation : LeasedOperation} {outcome : OperationOutcome}
      (held : row.heldBy now operation.leasedBy operation.attempt = true) :
      RowChange now (.finish operation outcome) row
        (row.finish now (finishColumns operation outcome))

variable {row : OperationRow}

variable {now : Timestamp} {worker : String} {attempt : Nat}

theorem OperationRow.heldBy_iff : row.heldBy now worker attempt = true ↔
      ∃ lease, row.state = .inFlight lease ∧ lease.leasedBy = worker ∧
        row.attempt = attempt ∧ now < lease.expiresAt := by
  unfold OperationRow.heldBy
  cases hstate : row.state <;> simp [and_assoc]

open OperationRow (heldBy_iff)

/-- Holding a row only gets harder as time passes. -/
theorem OperationRow.heldBy_antitone {early late : Timestamp} (hle : early ≤ late)
    (h : row.heldBy late worker attempt = true) :
    row.heldBy early worker attempt = true := by
  obtain ⟨lease, hstate, howner, hattempt, hlive⟩ := heldBy_iff.mp h
  exact heldBy_iff.mpr ⟨lease, hstate, howner, hattempt, hle.trans_lt hlive⟩

@[simp]
theorem OperationRow.renewed_attempt (row : OperationRow) (now : Timestamp) :
    (row.renewed now).attempt = row.attempt := by
  unfold OperationRow.renewed
  split <;> rfl

@[simp]
theorem OperationRow.renewed_checkpoint (row : OperationRow) (now : Timestamp) :
    (row.renewed now).checkpoint = row.checkpoint := by
  unfold OperationRow.renewed
  split <;> rfl

namespace RowChange

variable {now : Timestamp} {call : QueueCall} {row changed : OperationRow}

theorem held {operation : LeasedOperation} (h : RowChange now call row changed)
    (hcaller : call.operation = some operation) :
    row.heldBy now operation.leasedBy operation.attempt = true := by
  cases h with
  | lease due => cases hcaller
  | renew held | checkpoint held empty | finish held => cases hcaller; exact held

section

variable (h : RowChange now call row changed)

include h

/-- A lease takes the next attempt number; a call with a handle keeps it. -/
theorem attempt_eq :
    changed.attempt = if call.operation.isNone then row.attempt + 1 else row.attempt := by
  cases h <;> simp [QueueCall.operation, OperationRow.leaseTo, OperationRow.withCheckpoint,
    OperationRow.finish]

theorem not_terminal : row.state.terminal = false := by
  have of_held : ∀ {operation : LeasedOperation},
      row.heldBy now operation.leasedBy operation.attempt = true → row.state.terminal = false := by
    intro operation held
    obtain ⟨lease, hstate, -⟩ := heldBy_iff.mp held
    rw [hstate]
    rfl
  cases h with
  | lease due =>
    unfold OperationRow.leasable at due
    cases hstate : row.state <;> simp_all [OperationState.terminal]
  | renew held | checkpoint held empty | finish held => exact of_held held

/-- A stored checkpoint stays: the only statement that writes the column
requires it to be empty. -/
theorem checkpoint_kept {value : Json} (hstored : row.checkpoint = some value) :
    changed.checkpoint = some value := by
  cases h with
  | lease due | finish held => exact hstored
  | renew held => simpa using hstored
  | checkpoint held empty =>
    rw [hstored] at empty
    cases empty

/-- Only a finish takes a row to a terminal state. -/
theorem finish_of_terminal (hterminal : changed.state.terminal = true) :
    ∃ operation outcome, call = .finish operation outcome ∧
      changed.state = (finishColumns operation outcome).state := by
  cases h with
  | lease due => cases hterminal
  | renew held =>
    obtain ⟨lease, hstate, -⟩ := heldBy_iff.mp held
    simp [OperationRow.renewed, hstate, OperationState.terminal] at hterminal
  | checkpoint held empty =>
    obtain ⟨lease, hstate, -⟩ := heldBy_iff.mp held
    simp [OperationRow.withCheckpoint, hstate, OperationState.terminal] at hterminal
  | finish held => exact ⟨_, _, rfl, rfl⟩

end

end RowChange

/-- What a row keeps while attempts follow each other: its columns, and the owner of an
attempt in flight. -/
structure OperationRow.Later (row later : OperationRow) : Prop where
  kind : later.kind = row.kind
  queue : later.queue = row.queue
  workshopId : later.workshopId = row.workshopId
  attempt : row.attempt ≤ later.attempt
  owner : later.attempt = row.attempt → ∀ lease, later.state = .inFlight lease →
    ∃ earlier, row.state = .inFlight earlier ∧ earlier.leasedBy = lease.leasedBy

theorem OperationRow.Later.refl (row : OperationRow) : row.Later row :=
  ⟨rfl, rfl, rfl, le_rfl, fun _ lease hstate => ⟨lease, hstate, rfl⟩⟩

theorem finishColumns_not_inFlight (operation : LeasedOperation) (outcome : OperationOutcome)
    (lease : Lease) : (finishColumns operation outcome).state ≠ .inFlight lease := by
  intro h
  cases outcome with
  | succeeded | unknown | failed error => cases h
  | retry error =>
    simp only [finishColumns] at h
    split at h <;> cases h

theorem RowChange.later {call : QueueCall} {changed : OperationRow}
    (h : RowChange now call row changed) : row.Later changed := by
  cases h with
  | lease due =>
    exact ⟨rfl, rfl, rfl, Nat.le_succ _, fun hsame => absurd hsame (Nat.succ_ne_self _)⟩
  | renew held =>
    obtain ⟨lease, hstate, -⟩ := heldBy_iff.mp held
    have hrenewed : row.renewed now = { row with state := (row.renewed now).state } := by
      simp [OperationRow.renewed, hstate]
    rw [hrenewed]
    refine ⟨rfl, rfl, rfl, le_rfl, fun _ later hlater => ⟨lease, hstate, ?_⟩⟩
    simp only [OperationRow.renewed, hstate] at hlater
    cases hlater
    rfl
  | checkpoint held empty =>
    exact ⟨rfl, rfl, rfl, le_rfl, fun _ lease hstate => ⟨lease, hstate, rfl⟩⟩
  | finish held =>
    exact ⟨rfl, rfl, rfl, le_rfl,
      fun _ lease hstate => absurd hstate (finishColumns_not_inFlight _ _ lease)⟩

namespace QueueState

variable {s t : QueueState} {row : OperationRow} {call : QueueCall} {id : Uuid} {attempt : Nat}
  {first second : LeasedOperation}

private theorem lookup_insert_change (call : QueueCall) {target : Uuid} {changed : OperationRow}
    (hrow : s.operations.lookup target = some row) (hchange : RowChange s.now call row changed)
    (htarget : ∀ operation, call.operation = some operation → operation.id = target) (id : Uuid) :
    (s.operations.insert target changed).lookup id = s.operations.lookup id ∨
      ∃ before after, s.operations.lookup id = some before ∧
        (s.operations.insert target changed).lookup id = some after ∧
        RowChange s.now call before after ∧
        ∀ operation, call.operation = some operation → operation.id = id := by
  by_cases hid : id = target
  · subst id
    exact Or.inr ⟨row, changed, hrow, AList.lookup_insert _, hchange, htarget⟩
  · exact Or.inl (AList.lookup_insert_ne hid)

/-- Everything one step can do to the table and the clock. -/
theorem step_rows (h : s.step call = some t) :
    s.now ≤ t.now ∧ ∀ id, t.operations.lookup id = s.operations.lookup id ∨
      ∃ before after, s.operations.lookup id = some before ∧ t.operations.lookup id = some after ∧
        RowChange s.now call before after ∧
        ∀ operation, call.operation = some operation → operation.id = id := by
  cases call with
  | lease queue worker locked =>
    simp only [step] at h
    split at h
    · rename_i operations operation hlease
      cases h
      rcases lease_spec hlease with ⟨-, hnone⟩ | ⟨id, row, hrow, hdue, rfl, -⟩
      · cases hnone
      · exact ⟨le_rfl, lookup_insert_change (.lease queue worker locked) hrow
          (.lease hdue) (by intro operation hcaller; cases hcaller)⟩
    · rename_i operations hlease
      cases h
      rcases lease_spec hlease with ⟨rfl, -⟩ | ⟨_, _, _, _, _, hsome⟩
      · exact ⟨le_rfl, fun _ => Or.inl rfl⟩
      · cases hsome
    · cases h
      exact ⟨le_rfl, fun _ => Or.inl rfl⟩
  | renewLease operation =>
    simp only [step] at h
    split at h
    swap
    · cases h
    cases h
    refine ⟨le_rfl, ?_⟩
    rcases Table.update_cases s.operations operation.id
        (fun row => row.heldBy s.now operation.leasedBy operation.attempt = true)
        (fun row => row.renewed s.now) with hnone | ⟨row, hrow, hheld, hsome⟩
    · intro id
      exact Or.inl (by simp only [renewLease, hnone])
    · simp only [renewLease, hsome]
      exact lookup_insert_change (.renewLease operation) hrow (.renew hheld) (by rintro _ ⟨⟩; rfl)
  | saveOperationCheckpoint operation checkpoint =>
    simp only [step] at h
    split at h
    swap
    · cases h
    cases h
    cases hresult : saveOperationCheckpoint s.operations s.now operation checkpoint with
    | error error => exact ⟨le_rfl, fun _ => Or.inl rfl⟩
    | ok changed =>
      obtain ⟨row, hrow, hheld, hempty, rfl⟩ :=
        saveOperationCheckpoint_spec hresult
      exact ⟨le_rfl, lookup_insert_change (.saveOperationCheckpoint operation checkpoint) hrow
        (.checkpoint hheld hempty) (by rintro _ ⟨⟩; rfl)⟩
  | lockCurrentOperationLease operation =>
    simp only [step] at h
    split at h
    · cases h
      exact ⟨le_rfl, fun _ => Or.inl rfl⟩
    · cases h
  | finish operation outcome =>
    simp only [step] at h
    split at h
    · cases h
      cases hresult : finish s.operations s.now operation outcome with
      | error error => exact ⟨le_rfl, fun _ => Or.inl rfl⟩
      | ok changed =>
        obtain ⟨row, hrow, hheld, rfl⟩ := finish_spec hresult
        exact ⟨le_rfl, lookup_insert_change (.finish operation outcome) hrow
          (.finish hheld) (by rintro _ ⟨⟩; rfl)⟩
    · cases h
  | advance elapsed =>
    simp only [step] at h
    cases h
    exact ⟨Nat.le_add_right _ _, fun _ => Or.inl rfl⟩

/-- Rows stay in the table, under their later attempts. -/
theorem step_later (h : s.step call = some t) (hrow : s.operations.lookup id = some row) :
    ∃ later, t.operations.lookup id = some later ∧ row.Later later := by
  rcases (step_rows h).2 id with hsame | ⟨before, after, hbefore, hafter, hchange, -⟩
  · exact ⟨row, hsame.trans hrow, .refl row⟩
  · rw [hrow] at hbefore
    cases hbefore
    exact ⟨after, hafter, hchange.later⟩

/-- A step grants at most one handle: the next attempt of a row it leased. -/
theorem step_issued (h : s.step call = some t) : t.issued = s.issued ∨
      ∃ id row worker, s.operations.lookup id = some row ∧
        t.operations = s.operations.insert id (row.leaseTo s.now worker) ∧
        t.issued = s.issued ++ [row.handle id worker] := by
  cases call with
  | lease queue worker locked =>
    simp only [step] at h
    split at h
    · rename_i operations operation hlease
      cases h
      rcases lease_spec hlease with ⟨-, hnone⟩ | ⟨id, row, hrow, -, rfl, hgranted⟩
      · cases hnone
      · cases hgranted
        exact Or.inr ⟨id, row, worker, hrow, rfl, rfl⟩
    · cases h
      exact Or.inl rfl
    · cases h
      exact Or.inl rfl
  | renewLease operation | lockCurrentOperationLease operation =>
    simp only [step] at h
    split at h <;> cases h
    exact Or.inl rfl
  | saveOperationCheckpoint operation checkpoint | finish operation outcome =>
    simp only [step, write] at h
    split at h <;> cases h
    split <;> exact Or.inl rfl
  | advance elapsed =>
    simp only [step] at h
    cases h
    exact Or.inl rfl

/-! ## Handles and rows over whole runs -/

/-- Every granted handle belongs to a row that has reached its attempt, and of
two handles of one operation the later one has the larger attempt. -/
structure HandlesOrdered (s : QueueState) : Prop where
  reached : ∀ operation ∈ s.issued, ∃ row,
    s.operations.lookup operation.id = some row ∧ operation.attempt ≤ row.attempt
  increasing : s.issued.Pairwise fun first second =>
    first.id = second.id → first.attempt < second.attempt

theorem step_attempt_le (h : s.step call = some t) (hrow : s.operations.lookup id = some row) :
    ∃ after, t.operations.lookup id = some after ∧ row.attempt ≤ after.attempt := by
  rcases (step_rows h).2 id with hsame | ⟨before, after, hbefore, hafter, hchange, -⟩
  · exact ⟨row, hsame.trans hrow, le_rfl⟩
  · rw [hrow] at hbefore
    cases hbefore
    refine ⟨after, hafter, ?_⟩
    rw [hchange.attempt_eq]
    split <;> omega

theorem handlesOrdered_step (s : QueueState) (call : QueueCall) (t : QueueState)
    (hordered : s.HandlesOrdered) (h : s.step call = some t) : t.HandlesOrdered := by
  have hreached : ∀ operation ∈ s.issued, ∃ row,
      t.operations.lookup operation.id = some row ∧ operation.attempt ≤ row.attempt := by
    intro operation hmem
    obtain ⟨row, hrow, hle⟩ := hordered.reached operation hmem
    obtain ⟨after, hafter, hattempt⟩ := step_attempt_le h hrow
    exact ⟨after, hafter, hle.trans hattempt⟩
  rcases step_issued h with hissued | ⟨id, row, worker, hrow, hoperations, hissued⟩
  · exact ⟨by rw [hissued]; exact hreached, by rw [hissued]; exact hordered.increasing⟩
  constructor
  · rw [hissued]
    intro operation hmem
    rcases List.mem_append.mp hmem with hold | hnew
    · exact hreached operation hold
    · obtain rfl := List.mem_singleton.mp hnew
      refine ⟨row.leaseTo s.now worker, ?_, le_rfl⟩
      rw [hoperations]
      exact AList.lookup_insert _
  · rw [hissued, List.pairwise_append]
    refine ⟨hordered.increasing, List.pairwise_singleton _ _, ?_⟩
    -- The new handle is one past the row, and the row has passed every old handle.
    intro old hold new hnew hid
    obtain rfl := List.mem_singleton.mp hnew
    obtain ⟨before, hbefore, hle⟩ := hordered.reached old hold
    rw [hid] at hbefore
    have hsame : before = row := by
      rw [show (row.handle id worker).id = id from rfl, hrow] at hbefore
      exact (Option.some.inj hbefore).symm
    subst before
    exact Nat.lt_succ_of_le hle

/-- Attempt `attempt` of an operation can no longer act: the row has reached it,
and nobody holds the row under it. -/
def Spent (s : QueueState) (id : Uuid) (attempt : Nat) : Prop :=
  ∃ row, s.operations.lookup id = some row ∧ attempt ≤ row.attempt ∧
    ∀ worker, row.heldBy s.now worker attempt = false

/-- The lease of an attempt ran out while the row was still in flight for it. -/
def LeaseExpired (s : QueueState) (id : Uuid) (attempt : Nat) : Prop :=
  ∃ row lease, s.operations.lookup id = some row ∧ row.attempt = attempt ∧
    row.state = .inFlight lease ∧ lease.expiresAt ≤ s.now

/-- A handle with a larger attempt of the same operation was granted. -/
def LaterGranted (s : QueueState) (id : Uuid) (attempt : Nat) : Prop :=
  ∃ operation ∈ s.issued, operation.id = id ∧ attempt < operation.attempt

theorem LeaseExpired.spent (h : s.LeaseExpired id attempt) : s.Spent id attempt := by
  obtain ⟨row, lease, hrow, hattempt, hstate, hexpired⟩ := h
  refine ⟨row, hrow, hattempt.ge, fun worker => ?_⟩
  rw [OperationRow.heldBy, hstate]
  simp [hexpired]

theorem LaterGranted.spent (hordered : s.HandlesOrdered) (h : s.LaterGranted id attempt) :
    s.Spent id attempt := by
  obtain ⟨operation, hmem, rfl, hlt⟩ := h
  obtain ⟨row, hrow, hle⟩ := hordered.reached operation hmem
  refine ⟨row, hrow, (hlt.trans_le hle).le, fun worker => ?_⟩
  rw [Bool.eq_false_iff]
  intro hheld
  obtain ⟨lease, -, -, hattempt, -⟩ := heldBy_iff.mp hheld
  omega

theorem spent_step (s : QueueState) (call : QueueCall) (t : QueueState)
    (hspent : s.Spent id attempt) (h : s.step call = some t) : t.Spent id attempt := by
  obtain ⟨row, hrow, hle, hnone⟩ := hspent
  obtain ⟨hclock, hrows⟩ := step_rows h
  rcases hrows id with hsame | ⟨before, after, hbefore, hafter, hchange, -⟩
  · refine ⟨row, hsame.trans hrow, hle, fun worker => ?_⟩
    rw [Bool.eq_false_iff]
    intro hheld
    have hearly := OperationRow.heldBy_antitone hclock hheld
    rw [hnone worker] at hearly
    cases hearly
  · rw [hrow] at hbefore
    cases hbefore
    -- Whoever changed the row held it under another attempt or took the next one.
    have hlt : attempt < after.attempt := by
      rw [hchange.attempt_eq]
      cases hcaller : call.operation with
      | none => exact Nat.lt_succ_of_le hle
      | some operation =>
        have hheld := hchange.held hcaller
        have hattempt : row.attempt = operation.attempt :=
          (heldBy_iff.mp hheld).elim fun _ hlease => hlease.2.2.1
        have hne : attempt ≠ row.attempt := by
          intro heq
          rw [heq, hattempt] at hnone
          rw [hnone] at hheld
          cases hheld
        simp only [Option.isNone_some, Bool.false_eq_true, if_false]
        omega
    refine ⟨after, hafter, hlt.le, fun worker => ?_⟩
    rw [Bool.eq_false_iff]
    intro hheld
    obtain ⟨lease, -, -, hattempt, -⟩ := heldBy_iff.mp hheld
    omega

/-- A call made with a spent attempt leaves the row alone. -/
theorem spent_call_unchanged {operation : LeasedOperation}
    (hcaller : call.operation = some operation) (hspent : s.Spent operation.id operation.attempt)
    (h : s.step call = some t) :
    t.operations.lookup operation.id = s.operations.lookup operation.id := by
  obtain ⟨row, hrow, -, hnone⟩ := hspent
  rcases (step_rows h).2 operation.id with hsame | ⟨before, after, hbefore, -, hchange, -⟩
  · exact hsame
  · rw [hrow] at hbefore
    cases hbefore
    have hheld := hchange.held hcaller
    rw [hnone] at hheld
    cases hheld

theorem terminal_step (hterminal : row.state.terminal = true) (s : QueueState) (call : QueueCall)
    (t : QueueState) (hrow : s.operations.lookup id = some row) (h : s.step call = some t) :
    t.operations.lookup id = some row := by
  rcases (step_rows h).2 id with hsame | ⟨before, after, hbefore, -, hchange, -⟩
  · exact hsame.trans hrow
  · rw [hrow] at hbefore
    cases hbefore
    rw [hchange.not_terminal] at hterminal
    cases hterminal

theorem checkpoint_step {value : Json} (s : QueueState) (call : QueueCall) (t : QueueState)
    (hstored : ∃ row, s.operations.lookup id = some row ∧ row.checkpoint = some value)
    (h : s.step call = some t) :
    ∃ row, t.operations.lookup id = some row ∧ row.checkpoint = some value := by
  obtain ⟨row, hrow, hvalue⟩ := hstored
  rcases (step_rows h).2 id with hsame | ⟨before, after, hbefore, hafter, hchange, -⟩
  · exact ⟨row, hsame.trans hrow, hvalue⟩
  · rw [hrow] at hbefore
    cases hbefore
    exact ⟨after, hafter, hchange.checkpoint_kept hvalue⟩

/-- The guard names the worker and the attempt of the row, so it admits one pair. -/
theorem passes_unique (hid : first.id = second.id) (hfirst : s.passes first = true)
    (hsecond : s.passes second = true) :
    first.leasedBy = second.leasedBy ∧ first.attempt = second.attempt := by
  unfold passes lockCurrentOperationLease at hfirst hsecond
  rw [← hid] at hsecond
  cases hrow : s.operations.lookup first.id with
  | none => simp [hrow] at hfirst
  | some row =>
    rw [hrow] at hfirst hsecond
    obtain ⟨lease, hstate, howner, hattempt, -⟩ := heldBy_iff.mp hfirst
    obtain ⟨lease', hstate', howner', hattempt', -⟩ := heldBy_iff.mp hsecond
    rw [hstate] at hstate'
    cases hstate'
    exact ⟨howner.symm.trans howner', hattempt.symm.trans hattempt'⟩

/-- An attempt number is granted once, so it belongs to one worker. -/
theorem HandlesOrdered.granted_once (hordered : s.HandlesOrdered) (hfirst : first ∈ s.issued)
    (hsecond : second ∈ s.issued) (hid : first.id = second.id)
    (hattempt : first.attempt = second.attempt) : first = second := by
  have hdistinct : s.issued.Pairwise fun a b => a.id = b.id → a.attempt ≠ b.attempt :=
    hordered.increasing.imp fun hlt hid => (hlt hid).ne
  have hsymm : Std.Symm fun a b : LeasedOperation => a.id = b.id → a.attempt ≠ b.attempt :=
    ⟨fun _ _ h hid => (h hid.symm).symm⟩
  by_contra hne
  exact hdistinct.forall hfirst hsecond hne hid hattempt

/-- **Lease safety.** After any run of the queue's statements that starts before
any handle was granted: attempts of one operation are granted once each and in
increasing order; one worker and attempt passes the guard; an attempt whose
lease ran out or that was overtaken never changes its row again; finished rows
and stored checkpoints are permanent. -/
theorem lease_safety {start s : QueueState} {calls : List QueueCall}
    (hstart : start.issued = []) (hrun : Run step start calls s) :
    (s.issued.Pairwise fun first second =>
      first.id = second.id → first.attempt < second.attempt) ∧
    (∀ first ∈ s.issued, ∀ second ∈ s.issued, first.id = second.id →
      first.attempt = second.attempt → first = second) ∧
    (∀ first second : LeasedOperation, first.id = second.id →
      s.passes first = true → s.passes second = true →
      first.leasedBy = second.leasedBy ∧ first.attempt = second.attempt) ∧
    (∀ id attempt, s.LeaseExpired id attempt ∨ s.LaterGranted id attempt →
      ∀ later t u call operation, Run step s later t →
        QueueCall.operation call = some operation → operation.id = id →
        operation.attempt = attempt → t.step call = some u →
        u.operations.lookup id = t.operations.lookup id) ∧
    (∀ id row, s.operations.lookup id = some row → row.state.terminal = true →
      ∀ later t, Run step s later t → t.operations.lookup id = some row) ∧
    (∀ id row value, s.operations.lookup id = some row → row.checkpoint = some value →
      ∀ later t, Run step s later t →
        ∃ after, t.operations.lookup id = some after ∧ after.checkpoint = some value) := by
  have hordered : s.HandlesOrdered := hrun.invariant
    (fun a call b hkept _ hstep => handlesOrdered_step a call b hkept hstep)
    ⟨by simp [hstart], by simp [hstart]⟩
  refine ⟨hordered.increasing, fun _ hfirst _ => hordered.granted_once hfirst,
    fun _ _ => passes_unique, ?_, ?_, ?_⟩
  · rintro id attempt hdead later t u call operation hlater hcaller rfl rfl hstep
    have hspent : s.Spent operation.id operation.attempt :=
      hdead.elim LeaseExpired.spent (LaterGranted.spent hordered)
    have hspent' : t.Spent operation.id operation.attempt := hlater.invariant
      (fun a call b hkept _ hstep => spent_step a call b hkept hstep) hspent
    exact spent_call_unchanged hcaller hspent' hstep
  · intro id row hrow hterminal later t hlater
    exact hlater.invariant
      (fun a call b hkept _ hstep => terminal_step hterminal a call b hkept hstep) hrow
  · intro id row value hrow hvalue later t hlater
    exact hlater.invariant
      (fun a call b hkept _ hstep => checkpoint_step a call b hkept hstep) ⟨row, hrow, hvalue⟩

/-- One due operation and no handle yet. -/
private def takeoverStart : QueueState where
  now := 0
  operations := (∅ : Operations).insert 7
    (.enqueued .tenantReconcile (some 1) none none (.object []) 0)
  issued := []

/-- A worker leases the operation and goes silent; a second one takes over. -/
private def takeoverCalls : List QueueCall :=
  [.lease .tenantReconciliation "first" (fun _ => false), .advance (seconds 61),
    .lease .tenantReconciliation "second" (fun _ => false)]

/-- The theorem at a takeover: both handles exist and their attempts are ordered. -/
theorem lease_safety_at_takeover : ∃ s, replay step takeoverStart takeoverCalls = some s ∧
      s.issued.map LeasedOperation.attempt = [1, 2] ∧
      s.issued.Pairwise fun first second =>
        first.id = second.id → first.attempt < second.attempt := by
  have hreplay : (replay step takeoverStart takeoverCalls).map
      (fun s => s.issued.map LeasedOperation.attempt) = some [1, 2] := by decide
  obtain ⟨s, hs, hissued⟩ := Option.map_eq_some_iff.mp hreplay
  exact ⟨s, hs, hissued, (lease_safety rfl (run_of_replay hs)).1⟩

end QueueState

end ControlPlane.Persistence
