/-
# Reconciling custom domains

The reconciliation worker runs one attempt of an operation as a sequence of transactions
and provider calls. Here every such step is a position of its own, so any number of
attempts, API calls, lease losses and crashes interleave between any two of them.

The provider keeps its custom hostnames under references it never gives out twice. A
call to it can fail without an effect, take effect and answer, or take effect and lose the
answer. The same holds for a transaction. Hostnames may also disappear at the provider by
themselves. Nothing is assumed about whether the provider refuses a second hostname of the
same name.

Routing and the shop are other components: what this worker asks of them succeeds or fails,
and does not touch the rows here.
-/

import ControlPlane.Domains.Ledger

namespace ControlPlane.Domains

open Domain Math Persistence

/-- Where an attempt of `reconcile` stands: the step it takes next, with what it
remembers. -/
inductive Position
  | load
  /-- Disconnecting: the route and the shop, then the provider's hostname. -/
  | projectRoute (hostname : String) (reference : Option String)
  | begin (hostname reference : String)
  | observeBefore (hostname reference : String)
  | recordPresent (hostname reference : String)
  | dispatch (hostname reference : String)
  | delete (hostname reference : String)
  | observeAfter (hostname reference : String)
  | recordStillPresent (hostname reference : String)
  | recordAbsent (hostname reference : String)
  | finalizeDisconnect (reference : Option String)
  /-- Connecting: find or create the hostname, record it, then the route and the shop. -/
  | observe (hostname reference : String)
  | find (hostname : String)
  | create (hostname : String)
  | record (observation : CustomHostnameObservation)
  | projectConnected
  | finalizeActivate
  /-- Ask for the user's attention and stop. -/
  | actionRequired
  deriving DecidableEq

/-- One attempt under way. -/
structure DomainRun where
  operation : LeasedOperation
  (workshop domainId : Uuid)
  position : Position
  deriving DecidableEq

/-- What the provider reports beside the reference and the hostname. -/
structure ProviderReport where
  (hostnameStatus certificateStatus : String)
  errorClass : Option String
  deriving DecidableEq

/-- What becomes of a step. -/
inductive Reply
  /-- The transaction committed, or the request was done. -/
  | ok
  | report (report : ProviderReport)
  | created (reference : String) (report : ProviderReport)
  /-- Nothing was done. -/
  | error (error : IntegrationError)
  /-- It was done, and the answer was lost. -/
  | lost (error : IntegrationError)
  | createdLost (reference : String) (error : IntegrationError)
  deriving DecidableEq

structure DomainSystem where
  ledger : DomainLedger
  /-- The provider's hostnames by reference. -/
  hostnames : Table String String
  /-- Every hostname that was ever created, with the domain it was created for. -/
  created : List (Uuid × String)
  runs : Table Nat DomainRun

inductive SystemEvent
  /-- A transaction that is not made by `reconcile`. -/
  | outside (event : LedgerEvent)
  | start (id : Nat) (operation : LeasedOperation) (workshop domain : Uuid)
  | crash (id : Nat)
  | vanish (reference : String)
  | work (id : Nat) (reply : Reply)

/-- The transactions only `reconcile` makes. -/
def LedgerEvent.byReconcile : LedgerEvent → Bool
  | .recordObservation _ _ _ _ | .finalize _ _ _ _ | .advance _ => true
  | _ => false

/-- A step of an attempt: what it leaves behind, and where the attempt goes on, if it
does. -/
structure Turn where
  ledger : DomainLedger
  hostnames : Table String String
  created : List (Uuid × String)
  next : Option Position

def ProviderReport.observation (report : ProviderReport) (reference hostname : String) :
    CustomHostnameObservation where
  providerRef := reference
  hostname := hostname
  hostnameStatus := report.hostnameStatus
  certificateStatus := report.certificateStatus
  errorClass := report.errorClass

/-- An error while connecting is retried, or handed to the user. -/
def afterConnectError (error : IntegrationError) : Option Position :=
  if error.retryable then none else some .actionRequired

/-- The call an attempt makes of the deletion function. -/
def DomainRun.call (run : DomainRun) (hostname reference : String) (action : DeletionAction) :
    AdvanceCall where
  operationId := run.operation.id
  attempt := run.operation.attempt
  leaseOwner := run.operation.leasedBy
  workshopId := run.workshop
  domainId := run.domainId
  providerRef := reference
  hostname := hostname
  action := action

/-- Where an attempt goes on after the deletion function answered, by the position it
asked from. An exhausted budget is handed to the user. -/
def afterAdvance (position : Position) (state : DeletionState) (authorized : Bool) :
    Option Position :=
  match position with
  | .begin hostname reference =>
    match state with
    | .budgetExhausted => some .actionRequired
    | .absenceConfirmed => some (.finalizeDisconnect (some reference))
    | _ => some (.observeBefore hostname reference)
  | .recordPresent hostname reference =>
    if state = .budgetExhausted then some .actionRequired
    else some (.dispatch hostname reference)
  | .dispatch hostname reference =>
    if state = .budgetExhausted then some .actionRequired
    else if authorized then some (.delete hostname reference)
    else none
  | .recordStillPresent _ _ =>
    if state = .budgetExhausted then some .actionRequired else none
  | .recordAbsent _ reference =>
    if state = .absenceConfirmed then some (.finalizeDisconnect (some reference)) else none
  | _ => none

/-- What `load_snapshot` decides from the row. -/
def afterLoad (row : DomainRow) : Option Position :=
  if row.desired = .disconnected then some (.projectRoute row.hostname row.providerRef)
  else if row.ownershipVerified then
    match row.providerRef with
    | some reference => some (.observe row.hostname reference)
    | none => some (.find row.hostname)
  else none

namespace DomainSystem

variable (s : DomainSystem) (run : DomainRun)

/-- Go on without touching anything. -/
def goTo (next : Option Position) : Turn :=
  ⟨s.ledger, s.hostnames, s.created, next⟩

/-- Run a transaction. One that is refused ends the attempt. -/
def transact (event : LedgerEvent) (reply : Reply) (next : Option Position) : Option Turn :=
  match reply with
  | .ok =>
    match s.ledger.step event with
    | some ledger => some ⟨ledger, s.hostnames, s.created, next⟩
    | none => some (s.goTo none)
  | .lost _ =>
    match s.ledger.step event with
    | some ledger => some ⟨ledger, s.hostnames, s.created, none⟩
    | none => some (s.goTo none)
  | .error _ => some (s.goTo none)
  | _ => none

/-- Call the deletion function. A call that raises ends the attempt. -/
def advance (hostname reference : String) (action : DeletionAction) (reply : Reply) : Option Turn :=
  let call := run.call hostname reference action
  match advanceWebshopDomainProviderDeletion s.ledger.queue.now s.ledger.queue.operations
      s.ledger.domains s.ledger.deletions call with
  | .error _ => some (s.goTo none)
  | .ok (row, decision) =>
    s.transact (.advance call) reply
      (afterAdvance run.position row.state (decide (decision = .dispatched)))

/-- `observe_deletion` of a reference. A hostname under another name is a drifted
contract, which ends the attempt. -/
def observeDeletion (hostname reference : String) (reply : Reply)
    (present absent : Position) : Option Turn :=
  match reply with
  | .report _ =>
    match s.hostnames.lookup reference with
    | none => some (s.goTo (some absent))
    | some name => some (s.goTo (if name = hostname then some present else none))
  | .error _ => some (s.goTo none)
  | _ => none

/-- The provider creates the hostname under a reference it has never used. -/
def withHostname (hostname reference : String) (next : Option Position) : Option Turn :=
  if s.hostnames.lookup reference = none ∧ ∀ entry ∈ s.created, entry.2 ≠ reference then
    some ⟨s.ledger, s.hostnames.insert reference hostname,
      (run.domainId, reference) :: s.created, next⟩
  else none

/-- The references under which the provider has a hostname of this name. -/
def matching (hostname : String) : List String :=
  s.hostnames.entries.filterMap fun entry =>
    if entry.2 = hostname then some entry.1 else none

/-- The next step of an attempt. -/
def turn (reply : Reply) : Option Turn :=
  match run.position with
  | .load =>
    match reply with
    | .ok =>
      if s.ledger.locks run.operation run.workshop then
        match s.ledger.select run.domainId run.workshop fun row =>
            decide (row.operationId = some run.operation.id) with
        | some row => some (s.goTo (afterLoad row))
        | none => some (s.goTo none)
      else some (s.goTo none)
    | .error _ => some (s.goTo none)
    | _ => none
  | .projectRoute hostname reference =>
    match reply with
    | .ok =>
      match reference with
      | some reference => some (s.goTo (some (.begin hostname reference)))
      | none => some (s.goTo (some (.finalizeDisconnect none)))
    | .error _ => some (s.goTo none)
    | _ => none
  | .begin hostname reference => s.advance run hostname reference .begin reply
  | .observeBefore hostname reference =>
    s.observeDeletion hostname reference reply (.recordPresent hostname reference)
      (.recordAbsent hostname reference)
  | .recordPresent hostname reference => s.advance run hostname reference .observePresent reply
  | .dispatch hostname reference => s.advance run hostname reference .dispatchDelete reply
  | .delete hostname reference =>
    match reply with
    | .ok =>
      some ⟨s.ledger, s.hostnames.erase reference, s.created,
        some (.observeAfter hostname reference)⟩
    | .lost _ => some ⟨s.ledger, s.hostnames.erase reference, s.created, none⟩
    | .error _ => some (s.goTo none)
    | _ => none
  | .observeAfter hostname reference =>
    s.observeDeletion hostname reference reply (.recordStillPresent hostname reference)
      (.recordAbsent hostname reference)
  | .recordStillPresent hostname reference =>
    s.advance run hostname reference .observePresent reply
  | .recordAbsent hostname reference => s.advance run hostname reference .observeAbsent reply
  | .finalizeDisconnect _ =>
    s.transact (.finalize run.operation run.workshop run.domainId .disconnect) reply none
  | .observe hostname reference =>
    match reply with
    | .report report =>
      match s.hostnames.lookup reference with
      | some name =>
        some (s.goTo (if name = hostname then
          some (.record (report.observation reference name)) else none))
      | none => some (s.goTo (afterConnectError .notFound))
    | .error error => some (s.goTo (afterConnectError error))
    | _ => none
  | .find hostname =>
    match reply with
    | .report report =>
      match s.matching hostname with
      | [] => some (s.goTo (some (.create hostname)))
      | [reference] =>
        some (s.goTo (some (.record (report.observation reference hostname))))
      | _ => some (s.goTo (afterConnectError .contractDrift))
    | .error error => some (s.goTo (afterConnectError error))
    | _ => none
  | .create hostname =>
    match reply with
    | .created reference report =>
      s.withHostname run hostname reference (some (.record (report.observation reference hostname)))
    | .createdLost reference error =>
      s.withHostname run hostname reference (afterConnectError error)
    | .error error => some (s.goTo (afterConnectError error))
    | _ => none
  | .record observation =>
    s.transact (.recordObservation run.operation run.workshop run.domainId observation) reply
      (if observation.ready then some .projectConnected else none)
  | .projectConnected =>
    match reply with
    | .ok => some (s.goTo (some .finalizeActivate))
    | .error _ => some (s.goTo none)
    | _ => none
  | .finalizeActivate =>
    s.transact (.finalize run.operation run.workshop run.domainId .activate) reply none
  | .actionRequired =>
    s.transact (.recordActionRequired run.operation run.workshop run.domainId) reply none

/-- The state after a step of the attempt `id`. -/
def taken (id : Nat) (turn : Turn) : DomainSystem where
  ledger := turn.ledger
  hostnames := turn.hostnames
  created := turn.created
  runs :=
    match turn.next with
    | some position => s.runs.insert id { run with position := position }
    | none => s.runs.erase id

/-- The domain an operation is about. -/
def names (operation : LeasedOperation) (domain : Uuid) : Bool :=
  decide ((operation.payload.get "domain_id").bind Json.asStr = some domain.toText)

def step : SystemEvent → Option DomainSystem
  | .outside event =>
    if event.byReconcile then none
    else (s.ledger.step event).map fun ledger => { s with ledger := ledger }
  | .start id operation workshop domain =>
    if s.runs.lookup id = none ∧ operation ∈ s.ledger.queue.issued ∧
        operation.kind = .webshopDomainReconcile ∧ operation.workshopId = some workshop ∧
        names operation domain = true then
      some { s with runs := s.runs.insert id ⟨operation, workshop, domain, .load⟩ }
    else none
  | .crash id => some { s with runs := s.runs.erase id }
  | .vanish reference => some { s with hostnames := s.hostnames.erase reference }
  | .work id reply =>
    match s.runs.lookup id with
    | none => none
    | some run => (s.turn run reply).map (s.taken run id)

end DomainSystem

/-- Nothing has happened yet. -/
def DomainSystem.start (now : Timestamp) : DomainSystem where
  ledger := .start now
  hostnames := ∅
  created := []
  runs := ∅

/-! ## What a step of an attempt can do -/

/-- The reference an attempt to disconnect has loaded; `none` for the other positions. -/
def Position.disconnecting : Position → Option (Option String)
  | .projectRoute _ reference | .finalizeDisconnect reference => some reference
  | .begin _ reference | .observeBefore _ reference | .recordPresent _ reference
  | .dispatch _ reference | .delete _ reference | .observeAfter _ reference
  | .recordStillPresent _ reference | .recordAbsent _ reference => some (some reference)
  | _ => none

/-- The positions from which a hostname may still be created. -/
def Position.mayCreate : Position → Bool
  | .find _ | .create _ => true
  | _ => false

/-- Where an attempt may go on: it creates and disconnects only what it has loaded to, and
finishes a reference only when its absence was confirmed. -/
structure GoesOn (s : DomainSystem) (run : DomainRun) (ledger : DomainLedger)
    (next : Option Position) : Prop where
  creating : ∀ position, next = some position → position.mayCreate = true →
    run.position.mayCreate = true ∨
      ∃ row, s.ledger.domains.lookup run.domainId = some row ∧ row.desired ≠ .disconnected
  loaded : ∀ position reference, next = some position →
    position.disconnecting = some reference → run.position.disconnecting = some reference ∨
      ∃ row, s.ledger.domains.lookup run.domainId = some row ∧ row.desired = .disconnected ∧
        row.providerRef = reference
  confirmed : ∀ reference, next = some (.finalizeDisconnect (some reference)) →
    ∃ row, ledger.deletions.lookup (run.domainId, reference) = some row ∧
      row.state = .absenceConfirmed

/-- Everything one step of an attempt can do. -/
structure TurnEffect (s : DomainSystem) (run : DomainRun) (turn : Turn) : Prop where
  ledger : turn.ledger = s.ledger ∨ ∃ event, s.ledger.step event = some turn.ledger ∧
    (∀ domain workshop version operation hostname,
      event ≠ .disconnect domain workshop version operation hostname) ∧
    ∀ operation workshop domain, event = .finalize operation workshop domain .disconnect →
      domain = run.domainId ∧ ∃ reference, run.position = .finalizeDisconnect reference
  created : turn.created = s.created ∨
    (∃ reference, turn.created = (run.domainId, reference) :: s.created) ∧
      run.position.mayCreate = true ∧ turn.ledger = s.ledger
  next : GoesOn s run turn.ledger turn.next

section Turns

variable {s : DomainSystem} {run : DomainRun} {ledger : DomainLedger} {reply : Reply} {t : Turn}

theorem goesOn_none : GoesOn s run ledger none := ⟨nofun, nofun, nofun⟩

variable {position : Position} {row : DeletionRow}

theorem goesOn_quiet (hcreate : position.mayCreate = false)
    (hdisconnect : position.disconnecting = none) : GoesOn s run ledger (some position) := by
  refine ⟨?_, ?_, ?_⟩
  · rintro _ ⟨⟩ h
    rw [hcreate] at h
    cases h
  · rintro _ reference ⟨⟩ h
    rw [hdisconnect] at h
    cases h
  · rintro reference ⟨⟩
    cases hdisconnect

theorem goesOn_within (hcreate : position.mayCreate = false)
    (hdisconnect : position.disconnecting = run.position.disconnecting)
    (hlast : ∀ reference, position ≠ .finalizeDisconnect (some reference)) :
    GoesOn s run ledger (some position) := by
  refine ⟨?_, ?_, ?_⟩
  · rintro _ ⟨⟩ h
    rw [hcreate] at h
    cases h
  · rintro _ reference ⟨⟩ h
    exact Or.inl (hdisconnect ▸ h)
  · rintro reference ⟨⟩
    exact absurd rfl (hlast reference)

variable {reference hostname : String} {next : Option Position}

theorem goesOn_finalize (hloaded : run.position.disconnecting = some (some reference))
    (hrow : ledger.deletions.lookup (run.domainId, reference) = some row)
    (hconfirmed : row.state = .absenceConfirmed) :
    GoesOn s run ledger (some (.finalizeDisconnect (some reference))) := by
  refine ⟨nofun, ?_, ?_⟩
  · rintro _ other ⟨⟩ h
    exact Or.inl (hloaded.trans h)
  · rintro other ⟨⟩
    exact ⟨row, hrow, hconfirmed⟩

theorem goesOn_afterConnectError (error : IntegrationError) :
    GoesOn s run ledger (afterConnectError error) := by
  unfold afterConnectError
  split
  · exact goesOn_none
  · exact goesOn_quiet rfl rfl

theorem effect_goTo (h : GoesOn s run s.ledger next) : TurnEffect s run (s.goTo next) :=
  ⟨Or.inl rfl, Or.inl rfl, h⟩

theorem effect_stop : TurnEffect s run (s.goTo none) := effect_goTo goesOn_none

theorem effect_transact {event : LedgerEvent} (h : s.transact event reply next = some t)
    (hclose : ∀ domain workshop version operation hostname,
      event ≠ .disconnect domain workshop version operation hostname)
    (hfinalize : ∀ operation workshop domain,
      event = .finalize operation workshop domain .disconnect →
        domain = run.domainId ∧ ∃ reference, run.position = .finalizeDisconnect reference)
    (hnext : ∀ ledger, s.ledger.step event = some ledger → GoesOn s run ledger next) :
    TurnEffect s run t := by
  unfold DomainSystem.transact at h
  split at h
  · split at h
    · rename_i ledger hstep
      cases h
      exact ⟨Or.inr ⟨event, hstep, hclose, hfinalize⟩, Or.inl rfl, hnext ledger hstep⟩
    · cases h
      exact effect_stop
  · split at h
    · rename_i ledger hstep
      cases h
      exact ⟨Or.inr ⟨event, hstep, hclose, hfinalize⟩, Or.inl rfl, goesOn_none⟩
    · cases h
      exact effect_stop
  · cases h
    exact effect_stop
  · cases h

theorem goesOn_afterAdvance (authorized : Bool)
    (hposition : run.position ∈ [.begin hostname reference, .recordPresent hostname reference,
      .dispatch hostname reference, .recordStillPresent hostname reference,
      .recordAbsent hostname reference])
    (hrow : ledger.deletions.lookup (run.domainId, reference) = some row) :
    GoesOn s run ledger (afterAdvance run.position row.state authorized) := by
  have hloaded : run.position.disconnecting = some (some reference) := by
    simp only [List.mem_cons, List.not_mem_nil, or_false] at hposition
    rcases hposition with h | h | h | h | h <;> rw [h] <;> rfl
  simp only [List.mem_cons, List.not_mem_nil, or_false] at hposition
  rcases hposition with h | h | h | h | h <;> rw [h] <;> simp only [afterAdvance]
  · split
    · exact goesOn_quiet rfl rfl
    · rename_i hstate
      exact goesOn_finalize hloaded hrow hstate
    · exact goesOn_within rfl hloaded.symm nofun
  · split
    · exact goesOn_quiet rfl rfl
    · exact goesOn_within rfl hloaded.symm nofun
  · split
    · exact goesOn_quiet rfl rfl
    · split
      · exact goesOn_within rfl hloaded.symm nofun
      · exact goesOn_none
  · split
    · exact goesOn_quiet rfl rfl
    · exact goesOn_none
  · split
    · rename_i hstate
      exact goesOn_finalize hloaded hrow hstate
    · exact goesOn_none

theorem effect_advance {action : DeletionAction}
    (h : s.advance run hostname reference action reply = some t)
    (hposition : run.position ∈ [.begin hostname reference, .recordPresent hostname reference,
      .dispatch hostname reference, .recordStillPresent hostname reference,
      .recordAbsent hostname reference]) : TurnEffect s run t := by
  simp only [DomainSystem.advance] at h
  split at h
  · cases h
    exact effect_stop
  rename_i row decision hresult
  refine effect_transact h (by rintro _ _ _ _ _ ⟨⟩) (by rintro _ _ _ ⟨⟩) ?_
  intro ledger hstep
  simp only [DomainLedger.step, hresult] at hstep
  cases hstep
  exact goesOn_afterAdvance _ hposition (AList.lookup_insert _)

theorem effect_observeDeletion {present absent : Position}
    (h : s.observeDeletion hostname reference reply present absent = some t)
    (hpresent : GoesOn s run s.ledger (some present))
    (habsent : GoesOn s run s.ledger (some absent)) : TurnEffect s run t := by
  unfold DomainSystem.observeDeletion at h
  split at h
  · split at h
    · cases h
      exact effect_goTo habsent
    · cases h
      split
      · exact effect_goTo hpresent
      · exact effect_stop
  · cases h
    exact effect_stop
  · cases h

theorem effect_withHostname (h : s.withHostname run hostname reference next = some t)
    (hposition : run.position = .create hostname) (hnext : GoesOn s run s.ledger next) :
    TurnEffect s run t := by
  unfold DomainSystem.withHostname at h
  split at h
  · cases h
    exact ⟨Or.inl rfl, Or.inr ⟨⟨reference, rfl⟩, by rw [hposition]; rfl, rfl⟩, hnext⟩
  · cases h

theorem goesOn_afterLoad {row : DomainRow}
    (hrow : s.ledger.domains.lookup run.domainId = some row) :
    GoesOn s run ledger (afterLoad row) := by
  unfold afterLoad
  split
  · rename_i hdesired
    refine ⟨nofun, ?_, nofun⟩
    rintro _ reference ⟨⟩ hreference
    exact Or.inr ⟨row, hrow, hdesired, Option.some.inj hreference⟩
  · rename_i hdesired
    split
    · split
      · exact goesOn_quiet rfl rfl
      · exact ⟨fun _ _ _ => Or.inr ⟨row, hrow, hdesired⟩, by rintro _ _ ⟨⟩ ⟨⟩, nofun⟩
    · exact goesOn_none

theorem turn_effect (h : s.turn run reply = some t) : TurnEffect s run t := by
  unfold DomainSystem.turn at h
  split at h
  case h_1 hposition =>
    split at h
    · split at h
      · split at h
        · rename_i row hselect
          cases h
          exact effect_goTo (goesOn_afterLoad (DomainLedger.select_eq_some hselect).1)
        · cases h
          exact effect_stop
      · cases h
        exact effect_stop
    · cases h
      exact effect_stop
    · cases h
  case h_2 hostname reference hposition =>
    split at h
    · split at h <;> cases h
      all_goals exact effect_goTo (goesOn_within rfl (by rw [hposition]; rfl) nofun)
    · cases h
      exact effect_stop
    · cases h
  case h_3 hostname reference hposition => exact effect_advance h (by simp [hposition])
  case h_4 hostname reference hposition =>
    exact effect_observeDeletion h (goesOn_within rfl (by rw [hposition]; rfl) nofun)
      (goesOn_within rfl (by rw [hposition]; rfl) nofun)
  case h_5 hostname reference hposition => exact effect_advance h (by simp [hposition])
  case h_6 hostname reference hposition => exact effect_advance h (by simp [hposition])
  case h_7 hostname reference hposition =>
    split at h
    · cases h
      exact ⟨Or.inl rfl, Or.inl rfl, goesOn_within rfl (by rw [hposition]; rfl) nofun⟩
    · cases h
      exact ⟨Or.inl rfl, Or.inl rfl, goesOn_none⟩
    · cases h
      exact effect_stop
    · cases h
  case h_8 hostname reference hposition =>
    exact effect_observeDeletion h (goesOn_within rfl (by rw [hposition]; rfl) nofun)
      (goesOn_within rfl (by rw [hposition]; rfl) nofun)
  case h_9 hostname reference hposition => exact effect_advance h (by simp [hposition])
  case h_10 hostname reference hposition => exact effect_advance h (by simp [hposition])
  case h_11 reference hposition =>
    refine effect_transact h (by rintro _ _ _ _ _ ⟨⟩) ?_ fun _ _ => goesOn_none
    rintro _ _ _ ⟨⟩
    exact ⟨rfl, reference, hposition⟩
  case h_12 hostname reference hposition =>
    split at h
    · split at h
      · cases h
        split
        · exact effect_goTo (goesOn_quiet rfl rfl)
        · exact effect_stop
      · cases h
        exact effect_goTo (goesOn_afterConnectError _)
    · cases h
      exact effect_goTo (goesOn_afterConnectError _)
    · cases h
  case h_13 hostname hposition =>
    split at h
    · split at h
      · cases h
        exact effect_goTo ⟨fun _ _ _ => Or.inl (by rw [hposition]; rfl), by rintro _ _ ⟨⟩ ⟨⟩, nofun⟩
      · cases h
        exact effect_goTo (goesOn_quiet rfl rfl)
      · cases h
        exact effect_goTo (goesOn_afterConnectError _)
    · cases h
      exact effect_goTo (goesOn_afterConnectError _)
    · cases h
  case h_14 hostname hposition =>
    split at h
    · exact effect_withHostname h hposition (goesOn_quiet rfl rfl)
    · exact effect_withHostname h hposition (goesOn_afterConnectError _)
    · cases h
      exact effect_goTo (goesOn_afterConnectError _)
    · cases h
  case h_15 observation hposition =>
    refine effect_transact h (by rintro _ _ _ _ _ ⟨⟩) (by rintro _ _ _ ⟨⟩) fun _ _ => ?_
    split
    · exact goesOn_quiet rfl rfl
    · exact goesOn_none
  case h_16 hposition =>
    split at h
    · cases h
      exact effect_goTo (goesOn_quiet rfl rfl)
    · cases h
      exact effect_stop
    · cases h
  case h_17 hposition =>
    exact effect_transact h (by rintro _ _ _ _ _ ⟨⟩) (by rintro _ _ _ ⟨⟩)
      fun _ _ => goesOn_none
  case h_18 hposition =>
    exact effect_transact h (by rintro _ _ _ _ _ ⟨⟩) (by rintro _ _ _ ⟨⟩)
      fun _ _ => goesOn_none

end Turns

end ControlPlane.Domains
