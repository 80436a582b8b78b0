/-
# Delivering one mail

One row of the outbox, the durable operation that delivers it, the attempts of that
operation, the mail gateway and the provider. An attempt reads the row, claims it by
moving it to `sending`, posts it to the gateway and writes what came of it. The gateway
posts it to the provider and answers with a status. Attempts can crash at any point or
go on after their lease was lost; statements can fail, before or after they took
effect; either answer can be lost; and the provider reports on mails it has accepted.

The contents of a mail decide only whether the gateway refuses it and whether it can be
prepared at all. Nothing else reads them, so the environment makes these choices.
-/

import ControlPlane.Worker.Outcome

namespace ControlPlane.Mail

open Domain Math Persistence Worker

/-! ## The outbox row -/

inductive MailKind
  | invitation
  | odooTransactional
  deriving DecidableEq

inductive MailState
  | queued
  | sending
  | sent
  | deferred
  | deadLetter
  deriving DecidableEq

/-- A reconciling attempt counts these states as settled. -/
def MailState.terminal : MailState → Bool
  | .sent | .deadLetter => true
  | _ => false

/-- The states a mail is picked up from. -/
def MailState.selectable : MailState → Bool
  | .queued | .deferred => true
  | _ => false

inductive DeliveryState
  | pending
  | submitted
  | delivered
  | deferred
  | bounced
  | complained
  | suppressed
  deriving DecidableEq

structure OutboxRow where
  (id workshopId : Uuid)
  kind : MailKind
  state : MailState
  attempts : Nat
  nextAttemptAt : Timestamp
  sentAt : Option Timestamp
  deliveryState : DeliveryState
  lastEventAt : Option Timestamp
  (providerMessageId providerDomainId : Option Uuid)
  deriving DecidableEq

namespace OutboxRow

/-- An update of the state and the due time. The due time is not nullable, so a statement
that clears it fails. -/
def reschedule (row : OutboxRow) (state : MailState) (due : Option Timestamp) : Option OutboxRow :=
  due.map fun due => { row with state := state, nextAttemptAt := due }

def claimed (row : OutboxRow) : OutboxRow :=
  { row with state := .sending, attempts := row.attempts + 1 }

def deferredAt (row : OutboxRow) (now : Timestamp) : OutboxRow :=
  { row with state := .deferred, nextAttemptAt := now + seconds 60 }

def sentAs (row : OutboxRow) (now : Timestamp) (messageId domainId : Uuid) : OutboxRow :=
  { row with
    state := .sent
    sentAt := some now
    deliveryState := .submitted
    providerMessageId := some messageId
    providerDomainId := some domainId }

end OutboxRow

/-! ## Provider events -/

inductive EventType
  | queued
  | deferred
  | delivered
  | dropped
  | mailboxNotFound
  | spam
  | blocklisted
  deriving DecidableEq

def EventType.deliveryState : EventType → DeliveryState
  | .queued => .submitted
  | .deferred => .deferred
  | .delivered => .delivered
  | .dropped | .mailboxNotFound => .bounced
  | .spam => .complained
  | .blocklisted => .suppressed

/-- A row of `email_delivery_events`. -/
structure EventRow where
  (outboxId workshopId providerMessageId snsMessageId : Uuid)
  eventType : EventType
  occurredAt : Timestamp
  deriving DecidableEq

/-- What the gateway forwards of a provider event about this mail. -/
structure MailDeliveryEvent where
  (eventId snsMessageId emailId domainId : Uuid)
  eventType : EventType
  createdAt : Timestamp
  deriving DecidableEq

def MailDeliveryEvent.row (event : MailDeliveryEvent) (outbox : OutboxRow) : EventRow where
  outboxId := outbox.id
  workshopId := outbox.workshopId
  providerMessageId := event.emailId
  snsMessageId := event.snsMessageId
  eventType := event.eventType
  occurredAt := event.createdAt

inductive EventOutcome
  | ignored
  | conflict
  | replayed
  | created
  deriving DecidableEq

/-- The row after a new event: only a mail that is being sent becomes sent by it. -/
def OutboxRow.withEvent (row : OutboxRow) (event : MailDeliveryEvent) (now : Timestamp) :
    OutboxRow :=
  { row with
    deliveryState := event.eventType.deliveryState
    lastEventAt := some event.createdAt
    providerMessageId := row.providerMessageId <|> some event.emailId
    providerDomainId := row.providerDomainId <|> some event.domainId
    state := if row.state = .sending then .sent else row.state
    sentAt := if row.state = .sending then row.sentAt <|> some now else row.sentAt }

/-- The rows the event function looks at: transactional mails whose provider ids are not
known yet or are those of the event. -/
def OutboxRow.matchesEvent (row : OutboxRow) (event : MailDeliveryEvent) : Bool :=
  decide (row.kind = .odooTransactional) &&
    row.providerMessageId.all (fun id => decide (id = event.emailId)) &&
    row.providerDomainId.all (fun id => decide (id = event.domainId))

/-- `record_transactional_outbox_delivery_event`, without what it writes to domains and
suppressions. -/
def recordTransactionalOutboxDeliveryEvent (row : OutboxRow) (events : Table Uuid EventRow)
    (now : Timestamp) (event : MailDeliveryEvent) :
    OutboxRow × Table Uuid EventRow × EventOutcome :=
  if row.matchesEvent event then
    match events.lookup event.eventId with
    | some existing => (row, events, if existing = event.row row then .replayed else .conflict)
    | none =>
      let updated :=
        if row.lastEventAt.all (fun last => decide (last ≤ event.createdAt)) then
          row.withEvent event now
        else row
      (updated, events.insert event.eventId (event.row row), .created)
  else (row, events, .ignored)

/-! ## The gateway -/

/-- The body of a provider response; an id that is no UUID reads as `none`. -/
inductive ProviderBody
  | tooLong
  | brokenOff
  | malformed
  | emails (ids : List (Option Uuid))
  deriving DecidableEq

/-- What the gateway sees of a submission. -/
inductive ProviderAnswer
  | transportFailure (timeout : Bool)
  | response (status : Nat) (body : ProviderBody)
  deriving DecidableEq

def isSuccess (status : Nat) : Bool := decide (200 ≤ status ∧ status < 300)

/-- The provider accepts a submission exactly when it produces a success status for it, so
a response that the gateway sees says whether it did. -/
def ProviderAnswer.consistent (answer : ProviderAnswer) (accepted : Bool) : Bool :=
  match answer with
  | .transportFailure _ => true
  | .response status _ => isSuccess status == accepted

/-- The gateway's answer: a status, and the provider's ids that go with acceptance. -/
structure GatewayAnswer where
  status : Nat
  ids : Option (Uuid × Uuid)
  deriving DecidableEq

/-- The end of `send`, after the provider was called. An answer with a success status that
is too long, broken off or malformed is a bad gateway like a refusal. -/
def gatewayAnswer (senderDomain : Option Uuid) (gatewayDomain : Uuid) :
    ProviderAnswer → GatewayAnswer
  | .transportFailure timeout => ⟨if timeout then 504 else 502, none⟩
  | .response status body =>
    if isSuccess status then
      match body with
      | .emails [some id] => ⟨202, some (id, senderDomain.getD gatewayDomain)⟩
      | _ => ⟨502, none⟩
    else ⟨502, none⟩

/-- The statuses of a request that does not pass the gateway's checks. -/
def gatewayRefusals : List Nat := [400, 401, 403, 413, 422]

/-! ## The attempt -/

def classifyStatus (status : Nat) : IntegrationError :=
  if status = 400 ∨ status = 409 ∨ status = 422 then .rejected
  else if status = 401 ∨ status = 403 then .unauthorized
  else if status = 404 then .notFound
  else if status = 413 then .tooLarge
  else if status = 429 then .rateLimited none
  else if 500 ≤ status ∧ status ≤ 599 then .unavailable
  else .contractDrift

/-- How much of a successful answer's body the attempt gets. -/
inductive ReplyBody
  | brokenOff
  | tooLong
  | malformed
  | whole
  deriving DecidableEq

/-- How far an attempt has come in `deliver`. -/
inductive Stage
  | leased
  | owned
  | selected (senderDomain : Option Uuid)
  | claimed (senderDomain : Option Uuid)
  | calling (senderDomain : Option Uuid)
  | unreachable
  | refused (error : IntegrationError)
  | answered (messageId domainId : Uuid)
  | returned (result : Except IntegrationError Unit)
  deriving DecidableEq

structure Attempt where
  handle : LeasedOperation
  stage : Stage
  deriving DecidableEq

/-- A request at the gateway: being served, lost with the gateway, or answered. -/
inductive Request
  | received (senderDomain : Option Uuid)
  | abandoned
  | answered (answer : GatewayAnswer)
  deriving DecidableEq

/-- A transaction takes effect and says so, fails, or takes effect and cannot say so. -/
inductive Fault
  | none
  | failed
  | unacknowledged
  deriving DecidableEq

/-- What a reconciling attempt returns: nothing is sent again before there is evidence. -/
def reconciled (state : MailState) : Except IntegrationError Unit :=
  if state.terminal then .ok () else .error .unknownOutcome

/-- What the attempt makes of the gateway's answer. -/
def heard (senderDomain : Option Uuid) (answer : GatewayAnswer) (body : ReplyBody) : Stage :=
  if answer.status = 504 then .returned (.error .unknownOutcome)
  else if isSuccess answer.status then
    match body, answer.ids with
    | .brokenOff, _ => .returned (.error .unavailable)
    | .tooLong, _ => .returned (.error .tooLarge)
    | .whole, some (messageId, domainId) =>
      if senderDomain.all (fun expected => decide (expected = domainId)) then
        .answered messageId domainId
      else .returned (.error .contractDrift)
    | _, _ => .returned (.error .contractDrift)
  else .refused (classifyStatus answer.status)

/-! ## The system -/

/-- The state of one delivery. `accepted` lists the provider's ids of the submissions it has
accepted. -/
structure Delivery where
  now : Timestamp
  row : OutboxRow
  invitationLive : Bool
  gatewayDomain : Uuid
  operation : OperationRow
  attempts : Table Nat Attempt
  requests : Table Nat Request
  events : Table Uuid EventRow
  accepted : List Uuid

inductive DeliveryStep
  | lease (worker : String)
  | renew (attempt : Nat)
  | own (attempt : Nat) (fault : Fault)
  | select (attempt : Nat) (senderDomain : Option Uuid) (fault : Fault)
  | prepareFails (attempt : Nat)
  | claim (attempt : Nat) (fault : Fault)
  | connectFails (attempt : Nat)
  | defer (attempt : Nat) (fault : Fault)
  | post (attempt : Nat)
  | refuse (attempt : Nat) (status : Nat)
  | submit (attempt : Nat) (messageId : Uuid) (accepted : Bool) (answer : ProviderAnswer)
  | gatewayCrash (attempt : Nat)
  | hear (attempt : Nat) (body : ReplyBody)
  | loseAnswer (attempt : Nat)
  | recordRefusal (attempt : Nat) (begun : Bool) (fault : Fault)
  | markSent (attempt : Nat) (fault : Fault)
  | finish (attempt : Nat) (fault : Fault)
  | crash (attempt : Nat)
  | event (event : MailDeliveryEvent)
  | foreignEvent (eventId : Uuid) (row : EventRow)
  | lapse
  | advance (elapsed : Nat)

namespace Delivery

variable (s : Delivery) (attempt : Nat) (handle : LeasedOperation)

/-- The row may be picked up: its invitation, if it has one, is still open. -/
def deliverable : Bool :=
  s.row.state.selectable && (decide (s.row.kind ≠ .invitation) || s.invitationLive)

/-- The attempt goes on to a stage. -/
def moveTo (stage : Stage) : Delivery :=
  { s with attempts := s.attempts.insert attempt ⟨handle, stage⟩ }

/-- A transaction that writes the row, and the stage that follows when it commits. -/
def perform (row : OutboxRow) (fault : Fault) (attempt : Nat)
    (handle : LeasedOperation) (stage : Stage) : Delivery :=
  match fault with
  | .none => { s.moveTo attempt handle stage with row := row }
  | .failed => s.moveTo attempt handle (.returned (.error .unavailable))
  | .unacknowledged =>
    { s.moveTo attempt handle (.returned (.error .unavailable)) with row := row }

/-- `owned_outbox`, and the end of a reconciling attempt. -/
def own (fault : Fault) : Delivery :=
  s.perform s.row fault attempt handle
    (if handle.reconciling then .returned (reconciled s.row.state) else .owned)

/-- The selection of the row. An invitation that is no longer open ends its mail. -/
def select (senderDomain : Option Uuid) (fault : Fault) : Delivery :=
  if s.deliverable then s.perform s.row fault attempt handle (.selected senderDomain)
  else
    let row :=
      if s.row.kind = .invitation ∧ s.row.state.selectable = true then
        { s.row with state := .deadLetter }
      else s.row
    s.perform row fault attempt handle (.returned (.ok ()))

def claim (senderDomain : Option Uuid) (fault : Fault) : Delivery :=
  if s.deliverable then
    s.perform s.row.claimed fault attempt handle (.claimed senderDomain)
  else s.perform s.row fault attempt handle (.returned (.ok ()))

/-- After a connection that was never made the row is put back. -/
def defer (fault : Fault) : Delivery :=
  s.perform (if s.row.state = .sending then s.row.deferredAt s.now else s.row) fault attempt
    handle (.returned (.error .unavailable))

/-- The row after a refusal was written, whatever state it was in. -/
def refusedRow (error : IntegrationError) : OutboxRow :=
  let written :=
    if error.retryable then s.row.reschedule .deferred (some (s.now + seconds 60))
    else s.row.reschedule .deadLetter none
  written.getD s.row

/-- The write after a refusal, whose own failure is ignored once it has begun. -/
def recordRefusal (error : IntegrationError) (begun : Bool) (fault : Fault) : Delivery :=
  if begun then
    { s.moveTo attempt handle (.returned (.error error)) with
      row := if fault = .failed then s.row else s.refusedRow error }
  else s.moveTo attempt handle (.returned (.error .unavailable))

def markSent (messageId domainId : Uuid) (fault : Fault) : Delivery :=
  if s.row.state = .sending then
    s.perform (s.row.sentAs s.now messageId domainId) fault attempt handle (.returned (.ok ()))
  else s.perform s.row fault attempt handle (.returned (.error .unknownOutcome))

/-- `Store::finish`, after which the attempt is over whatever was written. -/
def finish (s : Delivery) (attempt : Nat) (handle : LeasedOperation)
    (result : Except IntegrationError Unit) (fault : Fault) : Delivery :=
  let written :=
    if s.operation.heldBy s.now handle.leasedBy handle.attempt = true ∧ fault ≠ .failed then
      s.operation.finish s.now (finishColumns handle (operationOutcome result))
    else s.operation
  { s with operation := written, attempts := s.attempts.erase attempt }

/-- `mail_delivery_event`: an event from too far in the future is rejected, and reuse of an
event id for other contents is reported as a conflict. -/
def mailDeliveryEvent (event : MailDeliveryEvent) : Delivery :=
  if event.createdAt ≤ s.now + seconds 300 then
    let recorded := recordTransactionalOutboxDeliveryEvent s.row s.events s.now event
    { s with row := recorded.1, events := recorded.2.1 }
  else s

/-- The provider's decision on a submission, and the gateway's answer to it. -/
def submit (attempt : Nat) (senderDomain : Option Uuid) (messageId : Uuid)
    (accepted : Bool) (answer : ProviderAnswer) : Delivery :=
  { s with
    requests := s.requests.insert attempt
      (.answered (gatewayAnswer senderDomain s.gatewayDomain answer))
    accepted := if accepted then messageId :: s.accepted else s.accepted }

/-- A step of an attempt from the stage it has come to. -/
def attemptStep (attempt : Nat)
    (next : LeasedOperation → Stage → Option Delivery) : Option Delivery :=
  match s.attempts.lookup attempt with
  | some running => next running.handle running.stage
  | none => none

def step : DeliveryStep → Option Delivery
  | .lease worker =>
    if s.operation.leasable s.now .emailDelivery = true ∧ s.operation.attempt < integerMax then
      some { s with
        operation := s.operation.leaseTo s.now worker
        attempts := s.attempts.insert (s.operation.attempt + 1)
          ⟨s.operation.handle s.row.id worker, .leased⟩ }
    else none
  | .renew attempt => s.attemptStep attempt fun handle _ =>
    if s.operation.heldBy s.now handle.leasedBy handle.attempt then
      some { s with operation := s.operation.renewed s.now }
    else none
  | .own attempt fault => s.attemptStep attempt fun handle stage =>
    match stage with
    | .leased => some (s.own attempt handle fault)
    | _ => none
  | .select attempt senderDomain fault => s.attemptStep attempt fun handle stage =>
    match stage with
    | .owned => some (s.select attempt handle senderDomain fault)
    | _ => none
  | .prepareFails attempt => s.attemptStep attempt fun handle stage =>
    match stage with
    | .selected _ => some (s.moveTo attempt handle (.returned (.error .contractDrift)))
    | _ => none
  | .claim attempt fault => s.attemptStep attempt fun handle stage =>
    match stage with
    | .selected senderDomain => some (s.claim attempt handle senderDomain fault)
    | _ => none
  | .connectFails attempt => s.attemptStep attempt fun handle stage =>
    match stage with
    | .claimed _ => some (s.moveTo attempt handle .unreachable)
    | _ => none
  | .defer attempt fault => s.attemptStep attempt fun handle stage =>
    match stage with
    | .unreachable => some (s.defer attempt handle fault)
    | _ => none
  | .post attempt => s.attemptStep attempt fun handle stage =>
    match stage with
    | .claimed senderDomain =>
      some { s.moveTo attempt handle (.calling senderDomain) with
        requests := s.requests.insert attempt (.received senderDomain) }
    | _ => none
  | .refuse attempt status =>
    match s.requests.lookup attempt with
    | some (.received _) =>
      if status ∈ gatewayRefusals then
        some { s with requests := s.requests.insert attempt (.answered ⟨status, none⟩) }
      else none
    | _ => none
  | .submit attempt messageId accepted answer =>
    match s.requests.lookup attempt with
    | some (.received senderDomain) =>
      if answer.consistent accepted then
        some (s.submit attempt senderDomain messageId accepted answer)
      else none
    | _ => none
  | .gatewayCrash attempt =>
    match s.requests.lookup attempt with
    | some (.received _) => some { s with requests := s.requests.insert attempt .abandoned }
    | _ => none
  | .hear attempt body => s.attemptStep attempt fun handle stage =>
    match stage, s.requests.lookup attempt with
    | .calling senderDomain, some (.answered answer) =>
      some (s.moveTo attempt handle (heard senderDomain answer body))
    | _, _ => none
  | .loseAnswer attempt => s.attemptStep attempt fun handle stage =>
    match stage with
    | .calling _ => some (s.moveTo attempt handle (.returned (.error .unknownOutcome)))
    | _ => none
  | .recordRefusal attempt begun fault => s.attemptStep attempt fun handle stage =>
    match stage with
    | .refused error => some (s.recordRefusal attempt handle error begun fault)
    | _ => none
  | .markSent attempt fault => s.attemptStep attempt fun handle stage =>
    match stage with
    | .answered messageId domainId => some (s.markSent attempt handle messageId domainId fault)
    | _ => none
  | .finish attempt fault => s.attemptStep attempt fun handle stage =>
    match stage with
    | .returned result => some (s.finish attempt handle result fault)
    | _ => none
  | .crash attempt => s.attemptStep attempt fun _ _ =>
    some { s with attempts := s.attempts.erase attempt }
  | .event event =>
    -- The provider reports on the submissions it has accepted.
    if event.emailId ∈ s.accepted then some (s.mailDeliveryEvent event) else none
  | .foreignEvent eventId row =>
    if row.outboxId ≠ s.row.id ∧ s.events.lookup eventId = none then
      some { s with events := s.events.insert eventId row }
    else none
  | .lapse => some { s with invitationLive := false }
  | .advance elapsed => some { s with now := s.now + elapsed }

/-- A row just queued, with its operation just enqueued. -/
def initial (kind : MailKind) (outbox workshop gatewayDomain : Uuid) (payload : Json)
    (now : Timestamp) : Delivery where
  now := now
  row :=
    { id := outbox
      workshopId := workshop
      kind := kind
      state := .queued
      attempts := 0
      nextAttemptAt := now
      sentAt := none
      deliveryState := .pending
      lastEventAt := none
      providerMessageId := none
      providerDomainId := none }
  invitationLive := true
  gatewayDomain := gatewayDomain
  operation := .enqueued .emailDelivery (some workshop) none none payload now
  attempts := ∅
  requests := ∅
  events := ∅
  accepted := []

end Delivery

end ControlPlane.Mail
