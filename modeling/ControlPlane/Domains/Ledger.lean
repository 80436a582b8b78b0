/-
# Transactions on custom domains

Every transaction that touches a custom domain, as one step of a shared ledger: the calls
of the operation queue, the API, the periodic admission, and the reconciliation worker's
own transactions. Any of them may be made at any time and with any arguments; the guards
are those of the statements.

Verification is two steps, because the API looks up a DNS record between reading the row
and changing it. The second step binds the row to the new operation whatever has become of
the row in between.

The ledger keeps the decision of every call of the deletion function, oldest first.
-/

import ControlPlane.Domains.Deletion
import ControlPlane.Persistence.Leases

namespace ControlPlane.Domains

open Domain Math Persistence

/-- What a call of the deletion function decided, and for whom. -/
structure DecisionEntry where
  key : Uuid × String
  marker : AttemptMarker
  decision : Decision
  deriving DecidableEq

structure DomainLedger where
  queue : QueueState
  domains : Table Uuid DomainRow
  deletions : Deletions
  /-- The verifications under way: the domain and the workshop that asked. -/
  verifying : List (Uuid × Uuid)
  decisions : List DecisionEntry

inductive DomainAction
  | activate
  | disconnect
  deriving DecidableEq

inductive LedgerEvent
  | queue (call : QueueCall)
  | enqueue (id : Uuid) (kind : OperationKind) (workshop : Option Uuid) (payload : Json)
  | claim (domain workshop : Uuid) (hostname : String)
  | readForVerification (domain workshop : Uuid)
  | verify (domain workshop : Uuid) (present : Bool) (operation : Uuid)
  | makeCanonical (domain workshop : Uuid) (version : Nat) (operation : Uuid)
  | disconnect (domain workshop : Uuid) (version : Nat) (operation : Uuid)
      (platformHostname : String)
  | admitDue (domain operation : Uuid)
  | recordObservation (operation : LeasedOperation) (workshop domain : Uuid)
      (observation : CustomHostnameObservation)
  | recordActionRequired (operation : LeasedOperation) (workshop domain : Uuid)
  | finalize (operation : LeasedOperation) (workshop domain : Uuid) (action : DomainAction)
  | advance (call : AdvanceCall)

/-- The payload of a reconcile operation, with its fields in key order. -/
def domainPayload (domain : Uuid) (extra : List (String × Json)) : Json :=
  .object (("domain_id", .string domain.toText) :: extra)

/-- An operation that is still to be worked on keeps the periodic admission away. -/
def operationLive (row : OperationRow) : Bool :=
  match row.state with
  | .pending | .inFlight _ | .awaitingReconciliation => true
  | _ => false

namespace DomainLedger

variable (s : DomainLedger)

/-- Insert a new operation; its identifier has not been used before. -/
def withOperation (id : Uuid) (kind : OperationKind)
    (workshop : Option Uuid) (payload : Json) : Option DomainLedger :=
  match s.queue.operations.lookup id with
  | some _ => none
  | none =>
    some { s with
      queue := { s.queue with
        operations := s.queue.operations.insert id
          (.enqueued kind workshop none none payload s.queue.now) } }

/-- Insert the operation that reconciles a domain. -/
def withReconcile (id workshop domain : Uuid)
    (extra : List (String × Json)) : Option DomainLedger :=
  s.withOperation id .webshopDomainReconcile (some workshop) (domainPayload domain extra)

/-- The row of a workshop's domain, when it passes the statement's guard. -/
def select (domain workshop : Uuid) (guard : DomainRow → Bool) : Option DomainRow :=
  (s.domains.lookup domain).filter fun row =>
    decide (row.workshopId = workshop) && guard row

def withDomain (domain : Uuid) (row : DomainRow) : DomainLedger :=
  { s with domains := s.domains.insert domain row }

/-- Change the workshop's other rows. -/
def withOthers (domain workshop : Uuid) (change : DomainRow → DomainRow) :
    DomainLedger :=
  { s with
    domains := s.domains.mapRows fun id row =>
      if id ≠ domain ∧ row.workshopId = workshop then change row else row }

/-- The lock every worker transaction on the domain starts with. -/
def locks (operation : LeasedOperation) (workshop : Uuid) : Bool :=
  s.queue.passes operation && decide (operation.workshopId = some workshop)

/-- No live row has the hostname. -/
def hostnameFree (hostname : String) : Bool :=
  s.domains.allRows fun _ row =>
    decide (row.state = .disconnected) || decide (row.hostname ≠ hostname)

/-- The rows the periodic admission binds to a new operation. -/
def dueFor (domain : Uuid) (row : DomainRow) : Bool :=
  row.due && !(row.operationId.bind s.queue.operations.lookup).any operationLive &&
    !(decide (row.desired = .disconnected) &&
      (row.providerRef.bind fun reference => s.deletions.lookup (domain, reference)).any
        fun deletion => decide (deletion.workshopId = row.workshopId) &&
          decide (deletion.state = .budgetExhausted))

/-- The row after the second step of a verification. -/
def verifiedRow (row : DomainRow) (present : Bool) (operation : Uuid) : DomainRow :=
  let row := if row.verifiable then row.verified present else row
  if present then row.bound operation else row

/-- One transaction; `none` when its guard refuses it. A call of the deletion function
that raises leaves the ledger as it is. -/
def step (s : DomainLedger) : LedgerEvent → Option DomainLedger
  | .queue call => (s.queue.step call).map fun queue => { s with queue := queue }
  | .enqueue id kind workshop payload => s.withOperation id kind workshop payload
  | .claim domain workshop hostname =>
    match s.domains.lookup domain with
    | some _ => none
    | none =>
      if validHostname hostname && s.hostnameFree hostname then
        some (s.withDomain domain (.claimed workshop hostname))
      else none
  | .readForVerification domain workshop =>
    (s.select domain workshop DomainRow.verifiable).map fun _ =>
      { s with verifying := (domain, workshop) :: s.verifying }
  | .verify domain workshop present operation =>
    if (domain, workshop) ∈ s.verifying then
      match s.select domain workshop (fun _ => true) with
      | none => none
      | some row =>
        if present then
          (s.withReconcile operation workshop domain []).map fun s =>
            s.withDomain domain (verifiedRow row present operation)
        else some (s.withDomain domain (verifiedRow row present operation))
    else none
  | .makeCanonical domain workshop version operation =>
    match s.select domain workshop fun row => row.promotable version with
    | none => none
    | some row =>
      (s.withReconcile operation workshop domain [("reason", .string "canonical_changed")]).map
        fun s => (s.withOthers domain workshop fun other => other.demoted row.hostname)
          |>.withDomain domain (row.promoted operation)
  | .disconnect domain workshop version operation platformHostname =>
    match s.select domain workshop fun row => row.disconnectable version with
    | none => none
    | some row =>
      (s.withReconcile operation workshop domain [("reason", .string "disconnect"),
          ("restore_platform_canonical", .bool row.canonical)]).map fun s =>
        (if row.canonical then
            s.withOthers domain workshop fun other => other.redirected platformHostname
          else s).withDomain domain (row.disconnecting operation platformHostname)
  | .admitDue domain operation =>
    match s.domains.lookup domain with
    | none => none
    | some row =>
      if s.dueFor domain row then
        (s.withReconcile operation row.workshopId domain
          [("reason", .string "periodic_observation"), ("restore_platform_canonical",
              .bool (decide (row.desired = .disconnected) && row.redirectTarget.isSome))]).map
          fun s => s.withDomain domain (row.readmitted operation)
      else none
  | .recordObservation operation workshop domain observation =>
    if s.locks operation workshop then
      (s.select domain workshop fun row =>
        decide (row.operationId = some operation.id) && decide (row.desired = .active)).map
        fun row => s.withDomain domain (row.observed observation)
    else none
  | .recordActionRequired operation workshop domain =>
    if s.locks operation workshop then
      (s.select domain workshop fun row =>
        decide (row.operationId = some operation.id) &&
          decide (row.state ≠ .disconnected)).map
        fun row => s.withDomain domain row.failed
    else none
  | .finalize operation workshop domain .activate =>
    if s.locks operation workshop then
      (s.select domain workshop fun row =>
        decide (row.operationId = some operation.id) && decide (row.state = .testing) &&
          row.mayBeActive).map
        fun row => s.withDomain domain row.activated
    else none
  | .finalize operation workshop domain .disconnect =>
    if s.locks operation workshop then
      (s.select domain workshop fun row =>
        decide (row.operationId = some operation.id) &&
          decide (row.desired = .disconnected)).map
        fun row => s.withDomain domain row.finalized
    else none
  | .advance call =>
    match advanceWebshopDomainProviderDeletion s.queue.now s.queue.operations s.domains
        s.deletions call with
    | .error _ => some s
    | .ok (row, decision) =>
      some { s with
        deletions := s.deletions.insert call.key row
        decisions := s.decisions ++ [⟨call.key, call.marker, decision⟩] }

/-- No domain, no operation and no call yet. -/
def start (now : Timestamp) : DomainLedger where
  queue := ⟨now, ∅, []⟩
  domains := ∅
  deletions := ∅
  verifying := []
  decisions := []

end DomainLedger

/-! ## What one transaction can do -/

/-- Nothing that the protocol depends on was changed. -/
structure DomainRow.Same (before after : DomainRow) : Prop where
  workshopId : after.workshopId = before.workshopId
  hostname : after.hostname = before.hostname
  state : after.state = before.state
  desired : after.desired = before.desired
  providerRef : after.providerRef = before.providerRef
  operationId : after.operationId = before.operationId

theorem DomainRow.Same.refl (row : DomainRow) : row.Same row := ⟨rfl, rfl, rfl, rfl, rfl, rfl⟩

theorem DomainRow.same_demoted (row : DomainRow) (hostname : String) :
    row.Same (row.demoted hostname) := by
  unfold DomainRow.demoted
  split <;> exact ⟨rfl, rfl, rfl, rfl, rfl, rfl⟩

theorem DomainRow.same_redirected (row : DomainRow) (hostname : String) :
    row.Same (row.redirected hostname) := by
  unfold DomainRow.redirected
  split <;> exact ⟨rfl, rfl, rfl, rfl, rfl, rfl⟩

/-- The ways a transaction changes the row of one domain. `new` says which operation
identifiers the transaction brought into use. -/
inductive RowMove (new : Uuid → Prop) (event : LedgerEvent) (domain : Uuid) :
    Option DomainRow → Option DomainRow → Prop
  | missing : RowMove new event domain none none
  | kept {before after : DomainRow} (same : before.Same after) :
      RowMove new event domain (some before) (some after)
  | claimed {workshop : Uuid} {hostname : String} :
      RowMove new event domain none (some (.claimed workshop hostname))
  /-- Bound to a new operation, which may come with a verified ownership. -/
  | bound {before after : DomainRow} {operation : Uuid} (fresh : new operation)
      (operationId : after.operationId = some operation)
      (desired : after.desired = before.desired)
      (providerRef : after.providerRef = before.providerRef)
      (state : after.state = .disconnected → before.state = .disconnected) :
      RowMove new event domain (some before) (some after)
  | closed {before : DomainRow} {workshop : Uuid} {version : Nat} {operation : Uuid}
      {platformHostname : String} (fresh : new operation)
      (called : event = .disconnect domain workshop version operation platformHostname) :
      RowMove new event domain (some before)
        (some (before.disconnecting operation platformHostname))
  | observed {before : DomainRow} {observation : CustomHostnameObservation}
      (wanted : before.desired = .active) :
      RowMove new event domain (some before) (some (before.observed observation))
  /-- Another state that is not the last one, under the same operation. -/
  | moved {before after : DomainRow} (operationId : after.operationId = before.operationId)
      (desired : after.desired = before.desired)
      (providerRef : after.providerRef = before.providerRef)
      (state : after.state = .disconnected → before.state = .disconnected) :
      RowMove new event domain (some before) (some after)
  | finalized {before : DomainRow} {operation : LeasedOperation} {workshop : Uuid}
      (unwanted : before.desired = .disconnected)
      (current : before.operationId = some operation.id)
      (called : event = .finalize operation workshop domain .disconnect) :
      RowMove new event domain (some before) (some before.finalized)

/-- The operation was not in the first queue and is in the second. -/
def Introduced (before after : Operations) (id : Uuid) : Prop :=
  before.lookup id = none ∧ ∃ row, after.lookup id = some row

/-- Everything one transaction can do. -/
structure LedgerEffect (s : DomainLedger) (event : LedgerEvent) (t : DomainLedger) : Prop where
  operations : ∀ id row, s.queue.operations.lookup id = some row →
    ∃ later, t.queue.operations.lookup id = some later ∧ row.Later later
  rows : ∀ domain, RowMove (Introduced s.queue.operations t.queue.operations) event domain
    (s.domains.lookup domain) (t.domains.lookup domain)
  ledger : t.deletions = s.deletions ∧ t.decisions = s.decisions ∨
    ∃ call row decision, event = .advance call ∧
      Advanced s.queue.now s.queue.operations s.domains s.deletions call row decision ∧
      t.queue = s.queue ∧ t.domains = s.domains ∧
      t.deletions = s.deletions.insert call.key row ∧
      t.decisions = s.decisions ++ [⟨call.key, call.marker, decision⟩]

variable {operations : Operations} {event : LedgerEvent} {domains : Table Uuid DomainRow}

theorem operations_kept (id : Uuid) (row : OperationRow) (h : operations.lookup id = some row) :
    ∃ later, operations.lookup id = some later ∧ row.Later later :=
  ⟨row, h, .refl row⟩

theorem operations_inserted {inserted : Uuid} {added : OperationRow}
    (hfresh : operations.lookup inserted = none) (id : Uuid) (row : OperationRow)
    (h : operations.lookup id = some row) :
    ∃ later, (operations.insert inserted added).lookup id = some later ∧ row.Later later :=
  ⟨row, Table.le_insert hfresh added id row h, .refl row⟩

theorem rows_kept {new : Uuid → Prop} (domain : Uuid) :
    RowMove new event domain (domains.lookup domain) (domains.lookup domain) := by
  cases domains.lookup domain with
  | none => exact .missing
  | some row => exact .kept (.refl row)

/-- One row moves and the others stay as they are, up to what nobody depends on. -/
theorem rows_of_one {new : Uuid → Prop} {others : Table Uuid DomainRow} {domain : Uuid}
    {before : Option DomainRow} {after : DomainRow} (hbefore : domains.lookup domain = before)
    (hothers : ∀ id ≠ domain, others.lookup id = domains.lookup id ∨
      ∃ row row', domains.lookup id = some row ∧ others.lookup id = some row' ∧ row.Same row')
    (hmove : RowMove new event domain before (some after)) (id : Uuid) :
    RowMove new event id (domains.lookup id) ((others.insert domain after).lookup id) := by
  by_cases hid : id = domain
  · subst id
    rw [hbefore, AList.lookup_insert]
    exact hmove
  · rw [AList.lookup_insert_ne hid]
    rcases hothers id hid with hsame | ⟨row, row', hrow, hrow', hsame⟩
    · rw [hsame]
      exact rows_kept id
    · rw [hrow, hrow']
      exact .kept hsame

namespace DomainLedger

variable {s t : DomainLedger}

theorem withOperation_eq_some {id : Uuid} {kind : OperationKind} {workshop : Option Uuid}
    {payload : Json} (h : s.withOperation id kind workshop payload = some t) :
    s.queue.operations.lookup id = none ∧ ∃ row, t = { s with
      queue := { s.queue with operations := s.queue.operations.insert id row } } := by
  unfold withOperation at h
  split at h
  · cases h
  · rename_i hnone
    cases h
    exact ⟨hnone, _, rfl⟩

variable {domain workshop operation : Uuid} {row after : DomainRow} {event : LedgerEvent}

theorem select_eq_some {guard : DomainRow → Bool} (h : s.select domain workshop guard = some row) :
    s.domains.lookup domain = some row ∧ guard row = true := by
  obtain ⟨hrow, hguard⟩ := Option.filter_eq_some_iff.mp h
  rw [Bool.and_eq_true] at hguard
  exact ⟨hrow, hguard.2⟩

theorem effect_withDomain {before : Option DomainRow} (hbefore : s.domains.lookup domain = before)
    (hmove : RowMove (Introduced s.queue.operations s.queue.operations) event domain before
      (some after)) : LedgerEffect s event (s.withDomain domain after) where
  operations := operations_kept
  rows := rows_of_one hbefore (fun _ _ => Or.inl rfl) hmove
  ledger := Or.inl ⟨rfl, rfl⟩

/-- A transaction that inserts an operation, changes one row, and changes in the others
only what nobody depends on. -/
theorem effect_bound {before : DomainRow} {added : OperationRow} {others : Table Uuid DomainRow}
    (hbefore : s.domains.lookup domain = some before)
    (hfresh : s.queue.operations.lookup operation = none)
    (hothers : ∀ id ≠ domain, others.lookup id = s.domains.lookup id ∨
      ∃ row row', s.domains.lookup id = some row ∧ others.lookup id = some row' ∧ row.Same row')
    (hmove : Introduced s.queue.operations (s.queue.operations.insert operation added) operation →
      RowMove (Introduced s.queue.operations (s.queue.operations.insert operation added)) event
        domain (some before) (some after)) :
    LedgerEffect s event { s with
      queue := { s.queue with operations := s.queue.operations.insert operation added }
      domains := others.insert domain after } where
  operations := operations_inserted hfresh
  rows := rows_of_one hbefore hothers (hmove ⟨hfresh, added, AList.lookup_insert _⟩)
  ledger := Or.inl ⟨rfl, rfl⟩

theorem others_withOthers {domains : Table Uuid DomainRow} {change : DomainRow → DomainRow}
    (hsame : ∀ row : DomainRow, row.Same (change row)) (id : Uuid) :
    let others := domains.mapRows fun id row =>
      if id ≠ domain ∧ row.workshopId = workshop then change row else row
    others.lookup id = domains.lookup id ∨
      ∃ row row', domains.lookup id = some row ∧ others.lookup id = some row' ∧ row.Same row' := by
  intro others
  have hlookup : others.lookup id = (domains.lookup id).map fun row =>
      if id ≠ domain ∧ row.workshopId = workshop then change row else row :=
    Table.lookup_mapRows
  cases hrow : domains.lookup id with
  | none =>
    rw [hrow] at hlookup
    exact Or.inl hlookup
  | some row =>
    rw [hrow, Option.map_some] at hlookup
    refine Or.inr ⟨row, _, rfl, hlookup, ?_⟩
    split
    · exact hsame row
    · exact .refl row

theorem verifiedRow_state {present : Bool}
    (h : (verifiedRow row present operation).state = .disconnected) :
    row.state = .disconnected := by
  unfold verifiedRow at h
  cases present <;> by_cases hverifiable : row.verifiable = true <;>
    simp_all [DomainRow.verified, DomainRow.bound]

theorem verifiedRow_kept (row : DomainRow) (present : Bool) (operation : Uuid) :
    (verifiedRow row present operation).desired = row.desired ∧
      (verifiedRow row present operation).providerRef = row.providerRef ∧
      (verifiedRow row present operation).operationId =
        if present then some operation else row.operationId := by
  unfold verifiedRow
  cases present <;> by_cases hverifiable : row.verifiable = true <;>
    simp [hverifiable, DomainRow.verified, DomainRow.bound]

/-- Everything one step of the ledger can do. -/
theorem step_effect (h : s.step event = some t) : LedgerEffect s event t := by
  cases event with
  | queue call =>
    obtain ⟨queue, hqueue, rfl⟩ := Option.map_eq_some_iff.mp h
    exact ⟨fun id row hrow => QueueState.step_later hqueue hrow, rows_kept, Or.inl ⟨rfl, rfl⟩⟩
  | enqueue id kind workshop payload =>
    obtain ⟨hfresh, row, rfl⟩ := withOperation_eq_some h
    exact ⟨operations_inserted hfresh, rows_kept, Or.inl ⟨rfl, rfl⟩⟩
  | claim domain workshop hostname =>
    simp only [step] at h
    split at h
    · cases h
    · rename_i hnone
      split at h
      · cases h
        exact effect_withDomain hnone .claimed
      · cases h
  | readForVerification domain workshop =>
    obtain ⟨row, -, rfl⟩ := Option.map_eq_some_iff.mp h
    exact ⟨operations_kept, rows_kept, Or.inl ⟨rfl, rfl⟩⟩
  | verify domain workshop present operation =>
    simp only [step] at h
    split at h
    swap
    · cases h
    split at h
    · cases h
    rename_i row hselect
    obtain ⟨hrow, -⟩ := select_eq_some hselect
    obtain ⟨hdesired, hreference, hoperation⟩ := verifiedRow_kept row present operation
    split at h
    · rename_i hpresent
      obtain ⟨u, hu, rfl⟩ := Option.map_eq_some_iff.mp h
      obtain ⟨hfresh, added, rfl⟩ := withOperation_eq_some hu
      rw [if_pos hpresent] at hoperation
      exact effect_bound hrow hfresh (fun _ _ => Or.inl rfl) fun hnew =>
        .bound hnew hoperation hdesired hreference verifiedRow_state
    · rename_i hpresent
      cases h
      rw [if_neg hpresent] at hoperation
      exact effect_withDomain hrow (.moved hoperation hdesired hreference verifiedRow_state)
  | makeCanonical domain workshop version operation =>
    simp only [step] at h
    split at h
    · cases h
    rename_i row hselect
    obtain ⟨hrow, -⟩ := select_eq_some hselect
    obtain ⟨u, hu, rfl⟩ := Option.map_eq_some_iff.mp h
    obtain ⟨hfresh, added, rfl⟩ := withOperation_eq_some hu
    exact effect_bound hrow hfresh
      (fun id _ => others_withOthers (fun other => other.same_demoted _) id) fun hnew =>
        .bound hnew rfl rfl rfl id
  | disconnect domain workshop version operation platformHostname =>
    simp only [step] at h
    split at h
    · cases h
    rename_i row hselect
    obtain ⟨hrow, -⟩ := select_eq_some hselect
    obtain ⟨u, hu, rfl⟩ := Option.map_eq_some_iff.mp h
    obtain ⟨hfresh, added, rfl⟩ := withOperation_eq_some hu
    split
    · exact effect_bound hrow hfresh
        (fun id _ => others_withOthers (fun other => other.same_redirected _) id)
        fun hnew => .closed hnew rfl
    · exact effect_bound hrow hfresh (fun _ _ => Or.inl rfl) fun hnew => .closed hnew rfl
  | admitDue domain operation =>
    simp only [step] at h
    split at h
    · cases h
    rename_i row hrow
    split at h
    · obtain ⟨u, hu, rfl⟩ := Option.map_eq_some_iff.mp h
      obtain ⟨hfresh, added, rfl⟩ := withOperation_eq_some hu
      exact effect_bound hrow hfresh (fun _ _ => Or.inl rfl) fun hnew =>
        .bound hnew rfl rfl rfl id
    · cases h
  | recordObservation operation workshop domain observation =>
    simp only [step] at h
    split at h
    · obtain ⟨row, hselect, rfl⟩ := Option.map_eq_some_iff.mp h
      obtain ⟨hrow, hguard⟩ := select_eq_some hselect
      simp only [Bool.and_eq_true, decide_eq_true_eq] at hguard
      exact effect_withDomain hrow (.observed hguard.2)
    · cases h
  | recordActionRequired operation workshop domain =>
    simp only [step] at h
    split at h
    · obtain ⟨row, hselect, rfl⟩ := Option.map_eq_some_iff.mp h
      obtain ⟨hrow, -⟩ := select_eq_some hselect
      exact effect_withDomain hrow (.moved rfl rfl rfl nofun)
    · cases h
  | finalize operation workshop domain action =>
    cases action with
    | activate =>
      simp only [step] at h
      split at h
      · obtain ⟨row, hselect, rfl⟩ := Option.map_eq_some_iff.mp h
        obtain ⟨hrow, -⟩ := select_eq_some hselect
        exact effect_withDomain hrow (.moved rfl rfl rfl nofun)
      · cases h
    | disconnect =>
      simp only [step] at h
      split at h
      · obtain ⟨row, hselect, rfl⟩ := Option.map_eq_some_iff.mp h
        obtain ⟨hrow, hguard⟩ := select_eq_some hselect
        simp only [Bool.and_eq_true, decide_eq_true_eq] at hguard
        exact effect_withDomain hrow (.finalized hguard.2 hguard.1 rfl)
      · cases h
  | advance call =>
    simp only [step] at h
    split at h
    · cases h
      exact ⟨operations_kept, rows_kept, Or.inl ⟨rfl, rfl⟩⟩
    · rename_i row decision hresult
      cases h
      exact ⟨operations_kept, rows_kept,
        Or.inr ⟨call, row, decision, rfl, advanced_of_ok hresult, rfl, rfl, rfl, rfl⟩⟩

end DomainLedger

end ControlPlane.Domains
