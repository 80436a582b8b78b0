/-
# Branded email domains

A webshop's sender domain lives in one row, and at the mail provider as a domain and a
webhook. The worker runs an attempt of an operation as provider calls and updates. Unlike
custom domains, its updates are not fenced by the operation's lease: they only ask that the
row is still bound to the operation, and an update that matches no row goes unnoticed.

Every provider call and every update is a position of its own. A call can fail without an
effect, take effect and answer, or take effect and lose the answer. The provider never gives
out an identifier twice, and refuses to create a domain whose name it already has.
-/

import ControlPlane.Domains.Tables
import ControlPlane.Persistence.Leases

namespace ControlPlane.Domains

open Domain Math Persistence

inductive EmailState
  | registering
  | dnsPending
  | testing
  | active
  | actionRequired
  | disconnecting
  | disconnected
  deriving DecidableEq

/-- A row of the email domains table, without the columns that are only shown. -/
structure EmailRow where
  workshopId : Uuid
  domainName : String
  state : EmailState
  desired : DesiredState
  (providerRef webhookRef : Option Uuid)
  providerStatus : Option String
  testOutboxId : Option Uuid
  testDelivered : Bool
  operationId : Option Uuid
  version : Nat
  deriving DecidableEq

structure EmailDomainObservation where
  id : Uuid
  (name status : String)
  verification : Json
  deriving DecidableEq

/-- The status of one verified record. -/
def recordStatus (value : Json) (key : String) : Option String :=
  (((value.get key).filter fun field => field.asObject.isSome).bind fun field =>
    field.get "status").bind Json.asStr

/-- All three mail records are in place. -/
def EmailDomainObservation.dnsReady (observation : EmailDomainObservation) : Bool :=
  ["spf_record", "dkim_record", "dmarc_record"].all fun key =>
    decide (recordStatus observation.verification key = some "valid")

def EmailDomainObservation.ready (observation : EmailDomainObservation) : Bool :=
  decide (observation.status = "checked") && observation.dnsReady

/-- The state `store_observation` moves a row to. -/
def EmailDomainObservation.nextState (observation : EmailDomainObservation) : EmailState :=
  if observation.ready then .testing
  else if observation.status ∈ ["invalid", "locked", "revoked"] then .actionRequired
  else .dnsPending

namespace EmailRow

/-- The row of a new sender domain, with the column defaults. -/
def requested (workshopId : Uuid) (domainName : String) (operation : Uuid) : EmailRow where
  workshopId := workshopId
  domainName := domainName
  state := .registering
  desired := .active
  providerRef := none
  webhookRef := none
  providerStatus := none
  testOutboxId := none
  testDelivered := false
  operationId := some operation
  version := 1

variable (row : EmailRow)

/-- What the API's `queue` writes for a manual check or a disconnection. -/
def queued (operation : Uuid) (disconnect : Bool) : EmailRow :=
  { row with
    operationId := some operation
    desired := if disconnect then .disconnected else row.desired
    state := if disconnect then .disconnecting else row.state
    version := row.version + 1 }

/-- The rows the periodic admission considers, apart from their operation. -/
def due : Bool :=
  (decide (row.desired = .active) &&
      (decide (row.state = .registering) || decide (row.state = .dnsPending) ||
        decide (row.state = .testing))) ||
    (decide (row.desired = .disconnected) &&
      (decide (row.state = .disconnecting) || decide (row.state = .actionRequired)))

def readmitted (operation : Uuid) : EmailRow :=
  { row with operationId := some operation, version := row.version + 1 }

def observed (observation : EmailDomainObservation) : EmailRow :=
  { row with
    providerRef := some observation.id
    providerStatus := some observation.status
    state := observation.nextState
    version := row.version + 1 }

def withWebhook (webhook : Uuid) : EmailRow :=
  { row with webhookRef := some webhook }

/-- The table's check on active rows. -/
def mayBeActive : Bool :=
  row.providerRef.isSome && decide (row.providerStatus = some "checked") && row.testDelivered

def activated : EmailRow :=
  { row with state := .active, version := row.version + 1 }

def failed : EmailRow :=
  { row with state := .actionRequired, version := row.version + 1 }

def testing (outbox : Uuid) : EmailRow :=
  { row with testOutboxId := some outbox, version := row.version + 1 }

def delivered : EmailRow :=
  { row with testDelivered := true, version := row.version + 1 }

def finished : EmailRow :=
  { row with
    state := .disconnected
    providerStatus := some "revoked"
    version := row.version + 1 }

end EmailRow

/-! ## The mail provider -/

/-- What the provider can hold for a row. -/
inductive MailResource
  | domain (id : Uuid)
  | webhook (id : Uuid)
  deriving DecidableEq

structure MailDomain where
  name : String
  revoked : Bool
  deriving DecidableEq

/-- A webhook of a mail domain; its name is made from the row it was created for. -/
structure MailWebhook where
  (domain row : Uuid)
  deriving DecidableEq

structure MailProvider where
  domains : Table Uuid MailDomain
  webhooks : Table Uuid MailWebhook
  /-- Everything that was ever created, with the row it was created for. -/
  created : List (Uuid × MailResource)
  /-- What was revoked, deleted, or found missing by such a call. -/
  removed : List MailResource

namespace MailProvider

variable (provider : MailProvider)

/-- The provider has not used this identifier. -/
def unused (resource : MailResource) : Bool :=
  (provider.created.all fun entry => decide (entry.2 ≠ resource)) &&
    decide (resource ∉ provider.removed)

/-- A name can be created when no domain in use has it. -/
def nameFree (name : String) : Bool :=
  provider.domains.allRows fun _ domain => domain.revoked || decide (domain.name ≠ name)

def createDomain (row id : Uuid) (name : String) : Option MailProvider :=
  if provider.unused (.domain id) && provider.nameFree name then
    some { provider with
      domains := provider.domains.insert id ⟨name, false⟩
      created := (row, .domain id) :: provider.created }
  else none

def createWebhook (row domain id : Uuid) : Option MailProvider :=
  if provider.unused (.webhook id) then
    some { provider with
      webhooks := provider.webhooks.insert id ⟨domain, row⟩
      created := (row, .webhook id) :: provider.created }
  else none

/-- A missing domain counts as revoked. -/
def revoke (id : Uuid) : MailProvider :=
  { provider with
    domains := provider.domains.modify id fun domain => { domain with revoked := true }
    removed := .domain id :: provider.removed }

/-- A missing webhook counts as deleted. -/
def deleteWebhook (id : Uuid) : MailProvider :=
  { provider with
    webhooks := provider.webhooks.erase id
    removed := .webhook id :: provider.removed }

/-- The webhooks that `ensure_webhook` accepts for a domain and a row. -/
def matching (domain row : Uuid) : List Uuid :=
  provider.webhooks.entries.filterMap fun entry =>
    if entry.2 = ⟨domain, row⟩ then some entry.1 else none

/-- The resource is not in use: revoked or deleted, or never there. -/
def Gone : MailResource → Prop
  | .domain id => ∀ domain, provider.domains.lookup id = some domain → domain.revoked = true
  | .webhook id => provider.webhooks.lookup id = none

end MailProvider

/-! ## Attempts -/

/-- What an attempt to connect has read from its row. -/
structure EmailSnapshot where
  name : String
  testOutboxId : Option Uuid
  testDelivered : Bool
  deriving DecidableEq

/-- Where an attempt of `run` stands: the step it takes next, with what it remembers. -/
inductive EmailPosition
  | read
  /-- Disconnecting: the webhook and the domain that the row recorded. -/
  | deleteWebhook (webhook : Uuid) (domain : Option Uuid)
  | revoke (webhook : Option Uuid) (domain : Uuid)
  | finish (webhook domain : Option Uuid)
  /-- Connecting. -/
  | check (snapshot : EmailSnapshot) (domain : Uuid)
  | observe (snapshot : EmailSnapshot) (domain : Uuid)
  | create (snapshot : EmailSnapshot)
  | store (snapshot : EmailSnapshot) (observation : EmailDomainObservation)
  | listWebhooks (snapshot : EmailSnapshot) (domain : Uuid)
  | createWebhook (snapshot : EmailSnapshot) (domain : Uuid)
  | storeWebhook (snapshot : EmailSnapshot) (webhook : Uuid)
  | activate
  | suppression
  | sendTest
  deriving DecidableEq

structure EmailRun where
  operation : LeasedOperation
  (workshop rowId : Uuid)
  position : EmailPosition
  deriving DecidableEq

inductive MailReply
  /-- The update or the request was done. -/
  | ok
  | observed (status : String) (verification : Json)
  | created (id : Uuid) (status : String)
  /-- The recipient of the test mail is suppressed. -/
  | suppressed
  /-- The test mail was queued under these identifiers. -/
  | queued (outbox operation : Uuid)
  /-- Nothing was done. -/
  | error (error : IntegrationError)
  /-- It was done, and the answer was lost. -/
  | lost (error : IntegrationError)
  | createdLost (id : Uuid) (error : IntegrationError)
  deriving DecidableEq

structure EmailSystem where
  queue : QueueState
  rows : Table Uuid EmailRow
  provider : MailProvider
  runs : Table Nat EmailRun

inductive EmailEvent
  | queue (call : QueueCall)
  | enqueue (id : Uuid) (kind : OperationKind) (workshop : Option Uuid) (payload : Json)
  | create (row workshop : Uuid) (domainName : String) (operation : Uuid)
  | check (row workshop operation : Uuid)
  | disconnect (row workshop operation : Uuid)
  | admitDue (row operation : Uuid)
  | delivered (row : Uuid)
  | failed (operation : LeasedOperation) (workshop row : Uuid)
  | start (id : Nat) (operation : LeasedOperation) (workshop row : Uuid)
  | crash (id : Nat)
  | work (id : Nat) (reply : MailReply)

/-- The payload of a reconcile operation of a sender domain. -/
def emailPayload (row : Uuid) (reason : String) : Json :=
  .object [("email_domain_id", .string row.toText), ("reason", .string reason)]

/-- What is left to do at the provider before the row is finished. -/
def afterWebhook (webhook domain : Option Uuid) : EmailPosition :=
  match domain with
  | some domain => .revoke webhook domain
  | none => .finish webhook none

/-- Where an attempt goes from the row it has read. -/
def afterRead (row : EmailRow) : EmailPosition :=
  let snapshot : EmailSnapshot := ⟨row.domainName, row.testOutboxId, row.testDelivered⟩
  if row.desired = .disconnected then
    match row.webhookRef with
    | some webhook => .deleteWebhook webhook row.providerRef
    | none => afterWebhook none row.providerRef
  else
    match row.providerRef with
    | some domain => .check snapshot domain
    | none => .create snapshot

/-- An observation under another name is a drifted contract, which ends the attempt. -/
def afterObservation (snapshot : EmailSnapshot) (observation : EmailDomainObservation) :
    Option EmailPosition :=
  if observation.name = snapshot.name then some (.store snapshot observation) else none

/-- What follows once the webhook is stored. -/
def afterStoredWebhook (snapshot : EmailSnapshot) : Option EmailPosition :=
  if snapshot.testDelivered then some .activate
  else if snapshot.testOutboxId.isNone then some .suppression
  else none

namespace EmailSystem

variable (s : EmailSystem) (run : EmailRun)

/-- Insert a new operation; its identifier has not been used before. -/
def withOperation (id : Uuid) (kind : OperationKind) (workshop : Option Uuid) (payload : Json) :
    Option EmailSystem :=
  match s.queue.operations.lookup id with
  | some _ => none
  | none =>
    some { s with
      queue := { s.queue with
        operations := s.queue.operations.insert id
          (.enqueued kind workshop none none payload s.queue.now) } }

/-- Insert the operation that reconciles a row. -/
def withReconcile (id workshop row : Uuid) (reason : String) : Option EmailSystem :=
  s.withOperation id .webshopEmailDomainReconcile (some workshop) (emailPayload row reason)

def withRow (row : Uuid) (value : EmailRow) : EmailSystem :=
  { s with rows := s.rows.insert row value }

/-- The row of a workshop, when it passes the statement's guard. -/
def select (row workshop : Uuid) (guard : EmailRow → Bool) : Option EmailRow :=
  (s.rows.lookup row).filter fun value => decide (value.workshopId = workshop) && guard value

/-- An update by an attempt: of its row, as long as that is bound to its operation. -/
def update (guard : EmailRow → Bool) (change : EmailRow → EmailRow) : EmailSystem :=
  match s.select run.rowId run.workshop fun row =>
      decide (row.operationId = some run.operation.id) && guard row with
  | some row => s.withRow run.rowId (change row)
  | none => s

/-- A step that is done as a whole or not at all. -/
def commit (done : EmailSystem) (reply : MailReply) (next : Option EmailPosition) :
    Option (EmailSystem × Option EmailPosition) :=
  match reply with
  | .ok => some (done, next)
  | .lost _ => some (done, none)
  | .error _ => some (s, none)
  | _ => none

/-- The next step of an attempt, and where it goes on, if it does. Every error ends it. -/
def turn (reply : MailReply) : Option (EmailSystem × Option EmailPosition) :=
  match run.position with
  | .read =>
    match reply with
    | .ok =>
      match s.select run.rowId run.workshop fun row =>
          decide (row.operationId = some run.operation.id) with
      | some row => some (s, some (afterRead row))
      | none => some (s, none)
    | .error _ => some (s, none)
    | _ => none
  | .deleteWebhook webhook domain =>
    s.commit { s with provider := s.provider.deleteWebhook webhook } reply
      (some (afterWebhook (some webhook) domain))
  | .revoke webhook domain =>
    s.commit { s with provider := s.provider.revoke domain } reply
      (some (.finish webhook (some domain)))
  | .finish _ _ => s.commit (s.update run (fun _ => true) EmailRow.finished) reply none
  | .check snapshot domain =>
    match reply with
    | .ok => some (s, some (.observe snapshot domain))
    | .error _ => some (s, none)
    | _ => none
  | .observe snapshot domain =>
    match reply with
    | .observed status verification =>
      match s.provider.domains.lookup domain with
      | some found =>
        some (s, afterObservation snapshot ⟨domain, found.name, status, verification⟩)
      | none => some (s, none)
    | .error _ => some (s, none)
    | _ => none
  | .create snapshot =>
    match reply with
    | .created id status =>
      (s.provider.createDomain run.rowId id snapshot.name).map fun provider =>
        ({ s with provider := provider },
          afterObservation snapshot ⟨id, snapshot.name, status, .object []⟩)
    | .createdLost id _ =>
      (s.provider.createDomain run.rowId id snapshot.name).map fun provider =>
        ({ s with provider := provider }, none)
    | .error _ => some (s, none)
    | _ => none
  | .store snapshot observation =>
    s.commit (s.update run (fun row => decide (row.desired = .active))
        fun row => row.observed observation) reply
      (if observation.ready then some (.listWebhooks snapshot observation.id) else none)
  | .listWebhooks snapshot domain =>
    match reply with
    | .ok =>
      match s.provider.matching domain run.rowId with
      | [] => some (s, some (.createWebhook snapshot domain))
      | [webhook] => some (s, some (.storeWebhook snapshot webhook))
      | _ => some (s, none)
    | .error _ => some (s, none)
    | _ => none
  | .createWebhook snapshot domain =>
    match reply with
    | .created id _ =>
      (s.provider.createWebhook run.rowId domain id).map fun provider =>
        ({ s with provider := provider }, some (.storeWebhook snapshot id))
    | .createdLost id _ =>
      (s.provider.createWebhook run.rowId domain id).map fun provider =>
        ({ s with provider := provider }, none)
    | .error _ => some (s, none)
    | _ => none
  | .storeWebhook snapshot webhook =>
    s.commit (s.update run (fun _ => true) fun row => row.withWebhook webhook) reply
      (afterStoredWebhook snapshot)
  | .activate => s.commit (s.update run EmailRow.mayBeActive EmailRow.activated) reply none
  | .suppression =>
    match reply with
    | .suppressed => some (s.update run (fun _ => true) EmailRow.failed, none)
    | .ok => some (s, some .sendTest)
    | .error _ => some (s, none)
    | _ => none
  | .sendTest =>
    match reply with
    | .queued outbox operation =>
      (s.withOperation operation .emailDelivery (some run.workshop)
        (.object [("outbox_id", .string outbox.toText)])).map fun s =>
          (s.update run (fun _ => true) fun row => row.testing outbox, none)
    | .error _ => some (s, none)
    | _ => none

/-- The state after a step of the attempt `id`. -/
def taken (id : Nat) (result : EmailSystem × Option EmailPosition) : EmailSystem :=
  { result.1 with
    runs :=
      match result.2 with
      | some position => result.1.runs.insert id { run with position := position }
      | none => result.1.runs.erase id }

/-- An operation that is still to be worked on. -/
def hasWork (operation : Option Uuid) : Bool :=
  (operation.bind s.queue.operations.lookup).any fun row =>
    match row.state with
    | .pending | .inFlight _ | .awaitingReconciliation => true
    | _ => false

/-- The row an operation is about. -/
def names (operation : LeasedOperation) (row : Uuid) : Bool :=
  decide ((operation.payload.get "email_domain_id").bind Json.asStr = some row.toText)

def step : EmailEvent → Option EmailSystem
  | .queue call => (s.queue.step call).map fun queue => { s with queue := queue }
  | .enqueue id kind workshop payload => s.withOperation id kind workshop payload
  | .create row workshop domainName operation =>
    if s.rows.lookup row = none ∧
        (s.rows.allRows fun _ value => decide (value.domainName ≠ domainName)) = true then
      (s.withReconcile operation workshop row "created").map fun s =>
        s.withRow row (.requested workshop domainName operation)
    else none
  | .check row workshop operation =>
    match s.select row workshop fun value => decide (value.state ≠ .disconnected) with
    | some value =>
      (s.withReconcile operation workshop row "manual-check").map fun s =>
        s.withRow row (value.queued operation false)
    | none => none
  | .disconnect row workshop operation =>
    match s.select row workshop fun value => decide (value.state ≠ .disconnected) with
    | some value =>
      (s.withReconcile operation workshop row "disconnect").map fun s =>
        s.withRow row (value.queued operation true)
    | none => none
  | .admitDue row operation =>
    match s.rows.lookup row with
    | some value =>
      if value.due && !s.hasWork value.operationId then
        (s.withReconcile operation value.workshopId row "periodic_observation").map fun s =>
          s.withRow row (value.readmitted operation)
      else none
    | none => none
  | .delivered row =>
    match s.rows.lookup row with
    | some value =>
      if value.testOutboxId.isSome && decide (value.desired = .active) then
        some (s.withRow row value.delivered)
      else none
    | none => none
  | .failed operation workshop row =>
    if s.queue.passes operation then
      (s.select row workshop fun value =>
        decide (value.operationId = some operation.id) &&
          decide (value.state ≠ .disconnected)).map fun value => s.withRow row value.failed
    else none
  | .start id operation workshop row =>
    if s.runs.lookup id = none ∧ operation ∈ s.queue.issued ∧
        operation.kind = .webshopEmailDomainReconcile ∧ operation.workshopId = some workshop ∧
        names operation row = true then
      some { s with runs := s.runs.insert id ⟨operation, workshop, row, .read⟩ }
    else none
  | .crash id => some { s with runs := s.runs.erase id }
  | .work id reply =>
    match s.runs.lookup id with
    | none => none
    | some run => (s.turn run reply).map (taken run id)

end EmailSystem

/-- Nothing has happened yet. -/
def EmailSystem.start (now : Timestamp) : EmailSystem where
  queue := ⟨now, ∅, []⟩
  rows := ∅
  provider := ⟨∅, ∅, [], []⟩
  runs := ∅

end ControlPlane.Domains
