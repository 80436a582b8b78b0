/-
# Custom webshop domains

The rows of the domains table, and what each statement on such a row writes: the API
claims, verifies, promotes and disconnects a domain, the periodic admission and the API
bind it to a new operation, and the reconciliation worker records what the provider
reports and finishes the row. A row is never claimed again: a hostname that was
disconnected gets a new row.
-/

import ControlPlane.Math.Text
import ControlPlane.Persistence.Store

namespace ControlPlane.Domains

open Domain Math Persistence

inductive DomainState
  | ownershipPending
  | dnsPending
  | certificatePending
  | testing
  | active
  | actionRequired
  | suspended
  | disconnecting
  | disconnected
  deriving DecidableEq

inductive DesiredState
  | active
  | disconnected
  deriving DecidableEq

inductive CertificateState
  | pending
  | provisioning
  | active
  | failed
  | expired
  deriving DecidableEq

/-- A row of the domains table, without the texts shown to the user and the timestamps
that no statement compares. -/
structure DomainRow where
  workshopId : Uuid
  hostname : String
  state : DomainState
  desired : DesiredState
  dnsVerified : Bool
  certificate : CertificateState
  (ownershipVerified canonical : Bool)
  (redirectTarget providerRef : Option String)
  operationId : Option Uuid
  version : Nat
  deriving DecidableEq

/-- What the provider reports about one custom hostname. -/
structure CustomHostnameObservation where
  (providerRef hostname hostnameStatus certificateStatus : String)
  errorClass : Option String
  deriving DecidableEq

/-- The table's check on hostnames: lower-case letters, digits, dots and hyphens, a
letter or digit at both ends, no empty label. -/
def validHostname (hostname : String) : Bool :=
  let chars := hostname.toList
  decide (2 ≤ chars.length) &&
    chars.all (fun c => isLowerAlphanumeric c || decide (c = '.') || decide (c = '-')) &&
    chars.head?.any isLowerAlphanumeric && chars.getLast?.any isLowerAlphanumeric &&
    !hasDouble '.' chars

def hostnameReady (status : String) : Bool :=
  decide (status ∈ ["active", "active_redeploying", "provisioned", "test_active",
    "test_active_apex"])

/-- The stored certificate state for the provider's status. -/
def certificateState (status : String) : CertificateState :=
  if status ∈ ["active", "staging_active", "backup_issued"] then .active
  else if status ∈ ["expired", "pending_expiration"] then .expired
  else if "_timed_out".toList.isSuffixOf status.toList || decide (status ∈ ["inactive", "deleted"])
  then .failed
  else if status ∈ ["initializing", "pending_validation"] then .pending
  else .provisioning

/-- The hostname and its certificate both serve. -/
def CustomHostnameObservation.ready (observation : CustomHostnameObservation) : Bool :=
  hostnameReady observation.hostnameStatus &&
    decide (certificateState observation.certificateStatus = .active)

/-- The state `record_observation` moves a row to. -/
def CustomHostnameObservation.nextState (observation : CustomHostnameObservation) :
    DomainState :=
  if observation.ready then .testing
  else if observation.errorClass.isSome ||
      decide (certificateState observation.certificateStatus = .failed) then .actionRequired
  else if hostnameReady observation.hostnameStatus then .certificatePending
  else .dnsPending

theorem CustomHostnameObservation.nextState_ne_disconnected
    (observation : CustomHostnameObservation) : observation.nextState ≠ .disconnected := by
  unfold nextState
  split
  · decide
  · split
    · decide
    · split <;> decide

namespace DomainRow

/-- The row of a new claim, with the column defaults. -/
def claimed (workshopId : Uuid) (hostname : String) : DomainRow where
  workshopId := workshopId
  hostname := hostname
  state := .ownershipPending
  desired := .active
  dnsVerified := false
  certificate := .pending
  ownershipVerified := false
  canonical := false
  redirectTarget := none
  providerRef := none
  operationId := none
  version := 1

variable (row : DomainRow)

/-- The rows `verify` looks at. -/
def verifiable : Bool :=
  decide (row.desired = .active) &&
    (decide (row.state = .ownershipPending) || decide (row.state = .actionRequired))

/-- The row after its ownership record was looked up. -/
def verified (present : Bool) : DomainRow :=
  { row with
    state := if present then .dnsPending else .ownershipPending
    ownershipVerified := row.ownershipVerified || present
    version := row.version + 1 }

/-- Bind the row to an operation. -/
def bound (operation : Uuid) : DomainRow :=
  { row with operationId := some operation }

/-- The rows `make_canonical` accepts. -/
def promotable (version : Nat) : Bool :=
  decide (row.state = .active) && decide (row.certificate = .active) &&
    decide (row.version = version)

def promoted (operation : Uuid) : DomainRow :=
  { row with
    canonical := true
    redirectTarget := none
    operationId := some operation
    version := row.version + 1 }

/-- What `make_canonical` does to the workshop's other rows. -/
def demoted (hostname : String) : DomainRow :=
  if row.canonical && decide (row.state ≠ .disconnected) then
    { row with
      canonical := false
      redirectTarget := some hostname
      version := row.version + 1 }
  else row

/-- The rows the API disconnects. -/
def disconnectable (version : Nat) : Bool :=
  decide (row.state ≠ .disconnected) && decide (row.desired = .active) &&
    decide (row.version = version)

def disconnecting (row : DomainRow) (operation : Uuid) (platformHostname : String) :
    DomainRow :=
  { row with
    state := .disconnecting
    desired := .disconnected
    canonical := false
    redirectTarget := if row.canonical then some platformHostname else none
    operationId := some operation
    version := row.version + 1 }

/-- What disconnecting the canonical domain does to the workshop's other rows. -/
def redirected (platformHostname : String) : DomainRow :=
  if row.desired = .active then
    { row with redirectTarget := some platformHostname, version := row.version + 1 }
  else row

/-- The rows the periodic admission considers, apart from their operation and their
deletion budget. -/
def due : Bool :=
  (decide (row.desired = .active) &&
      (decide (row.state = .dnsPending) || decide (row.state = .certificatePending) ||
        decide (row.state = .testing)) &&
      row.ownershipVerified) ||
    (decide (row.desired = .disconnected) &&
      (decide (row.state = .disconnecting) || decide (row.state = .actionRequired)))

def readmitted (operation : Uuid) : DomainRow :=
  { row with operationId := some operation, version := row.version + 1 }

/-- What `record_observation` writes. -/
def observed (observation : CustomHostnameObservation) : DomainRow :=
  { row with
    providerRef := some observation.providerRef
    state := observation.nextState
    dnsVerified := hostnameReady observation.hostnameStatus
    certificate := certificateState observation.certificateStatus
    version := row.version + 1 }

/-- What `record_action_required` writes. -/
def failed : DomainRow :=
  { row with state := .actionRequired, version := row.version + 1 }

/-- The table's check on active rows. -/
def mayBeActive : Bool :=
  row.ownershipVerified && row.dnsVerified && decide (row.certificate = .active) &&
    row.providerRef.isSome

/-- What `finalize` writes for a connected row. -/
def activated : DomainRow :=
  { row with state := .active, version := row.version + 1 }

/-- What `finalize` writes for a disconnected row. -/
def finalized : DomainRow :=
  { row with
    state := .disconnected
    providerRef := none
    certificate := .pending
    redirectTarget := none
    version := row.version + 1 }

end DomainRow

end ControlPlane.Domains
