/-
# Memberships and ownership transfers

A member of a workshop has a role, and every change of what the member may do gives
the membership a new authority epoch. Members come by creating the workshop or by an
invitation; ownership moves by a transfer that its creator offers and its recipient
accepts within two days. A deferred trigger refuses every commit after which a
workshop would have no active owner.

Each function below is one committed transaction. The commands that make a request
idempotent, and the rows that carry a change to other services, are not part of it.
-/

import ControlPlane.Domain.Basic
import ControlPlane.Math.Table

namespace ControlPlane.Memberships

open Domain Math

/-! ## Roles -/

inductive WorkshopRole
  | viewer
  | artisan
  | accountant
  | studioManager
  | owner
  deriving DecidableEq

inductive WorkshopPermission
  | viewWorkshop
  | manageMembers
  | manageModules
  | manageDatabase
  | transferOwnership
  deriving DecidableEq

def WorkshopRole.allows (role : WorkshopRole) : WorkshopPermission → Bool
  | .viewWorkshop => true
  | .manageMembers | .manageModules =>
    decide (role = .owner) || decide (role = .studioManager)
  | .manageDatabase | .transferOwnership => decide (role = .owner)

/-! ## Rows -/

inductive MembershipStatus
  | active
  | revoked
  deriving DecidableEq

structure Membership where
  role : WorkshopRole
  status : MembershipStatus
  (authorityEpoch version : Nat)
  deriving DecidableEq

structure Workshop where
  provisioning : Bool
  version : Nat
  deriving DecidableEq

/-- A transfer that nobody offers to oneself. -/
structure OwnershipTransfer where
  (workshop fromUser toUser : Uuid)
  expiresAt : Timestamp
  (acceptedAt revokedAt : Option Timestamp)
  distinct : fromUser ≠ toUser
  deriving DecidableEq

/-- An invitation; the table admits none to ownership. -/
structure Invitation where
  workshop : Uuid
  email : String
  role : WorkshopRole
  tokenGeneration : Nat
  expiresAt : Timestamp
  acceptedBy : Option Uuid
  revokedAt : Option Timestamp
  invitable : role ≠ .owner
  deriving DecidableEq

/-- The tables, with the transfers in the order of their acceptance. -/
structure Accounts where
  now : Timestamp
  users : Table Uuid String
  workshops : Table Uuid Workshop
  memberships : Table (Uuid × Uuid) Membership
  invitations : Table Uuid Invitation
  transfers : Table Uuid OwnershipTransfer
  accepted : List Uuid

/-- The authority a route has established for a request. -/
structure WorkshopScope where
  (workshop principal : Uuid)
  role : WorkshopRole
  authorityEpoch : Nat
  deriving DecidableEq

inductive ApiError
  | notFound
  | forbidden
  | conflict (message : String)
  | preconditionFailed (message : String)
  | database
  deriving DecidableEq

/-- An active owner's row. -/
def Membership.owns (row : Membership) : Bool :=
  decide (row.role = .owner) && decide (row.status = .active)

/-- The row with another role, at the next epoch and version. -/
def Membership.withRole (row : Membership) (role : WorkshopRole) : Membership where
  role := role
  status := row.status
  authorityEpoch := row.authorityEpoch + 1
  version := row.version + 1

def Membership.revoke (row : Membership) : Membership where
  role := row.role
  status := .revoked
  authorityEpoch := row.authorityEpoch + 1
  version := row.version + 1

/-- The row after an invitation was accepted. A row that is there keeps its version. -/
def Membership.invited (role : WorkshopRole) : Option Membership → Membership
  | none => ⟨role, .active, 1, 1⟩
  | some row => ⟨role, .active, row.authorityEpoch + 1, row.version⟩

namespace Accounts

variable (s : Accounts)

/-- The workshop has an active owner. -/
def hasOwner (workshop : Uuid) : Bool :=
  s.memberships.entries.any fun entry => decide (entry.1.1 = workshop) && entry.2.owns

/-- `assert_last_owner` at the commit of a transaction that changed memberships of the
workshop. -/
def commit (workshop : Uuid) : Except ApiError Accounts :=
  if s.hasOwner workshop then .ok s else .error .database

def writeMembership (workshop user : Uuid) (row : Membership) : Accounts :=
  { s with memberships := s.memberships.insert (workshop, user) row }

/-- The membership of a user while it is active. -/
def activeMembership (workshop user : Uuid) : Option Membership :=
  (s.memberships.lookup (workshop, user)).filter fun row => decide (row.status = .active)

def revalidateWorkshopScope (scope : WorkshopScope)
    (permission : WorkshopPermission) : Except ApiError Unit :=
  match s.activeMembership scope.workshop scope.principal with
  | none => .error .notFound
  | some row =>
    if row.authorityEpoch = scope.authorityEpoch ∧ row.role = scope.role ∧
        row.role.allows permission = true then .ok ()
    else .error .forbidden

/-! ## Transactions -/

/-- The capability asks for a workshop in provisioning that has no members yet. -/
def insertInitialWorkshopOwner (workshop user : Uuid) : Except ApiError Accounts :=
  if (s.workshops.lookup workshop).any Workshop.provisioning = true ∧
      s.memberships.allRows (fun key _ => decide (key.1 ≠ workshop)) = true then
    (s.writeMembership workshop user ⟨.owner, .active, 1, 1⟩).commit workshop
  else .error .database

/-- The tables after the user has accepted the invitation. -/
def joined (id : Uuid) (invitation : Invitation) (user : Uuid) : Accounts :=
  { s with
    memberships := s.memberships.insert (invitation.workshop, user)
      (Membership.invited invitation.role (s.memberships.lookup (invitation.workshop, user)))
    invitations := s.invitations.insert id { invitation with acceptedBy := some user } }

def acceptInvitationMembership (id user : Uuid) (tokenGeneration : Nat) :
    Except ApiError Accounts :=
  match s.invitations.lookup id with
  | none => .error .database
  | some invitation =>
    if invitation.tokenGeneration = tokenGeneration ∧ invitation.acceptedBy = none ∧
        invitation.revokedAt = none ∧ s.now < invitation.expiresAt ∧
        s.users.lookup user = some invitation.email then
      (s.joined id invitation user).commit invitation.workshop
    else .error .database

/-- `update_member`: an owner's role is not changed, and none is made owner. -/
def updateMember (scope : WorkshopScope) (user : Uuid) (role : WorkshopRole)
    (expected : Nat) : Except ApiError Accounts :=
  if role = .owner then .error .forbidden
  else
    match s.revalidateWorkshopScope scope .manageMembers with
    | .error error => .error error
    | .ok () =>
      match s.activeMembership scope.workshop user with
      | none => .error .notFound
      | some row =>
        if row.role = .owner then .error .forbidden
        else if row.version ≠ expected then .error (.preconditionFailed "If-Match is stale")
        else (s.writeMembership scope.workshop user (row.withRole role)).commit scope.workshop

def removeMember (scope : WorkshopScope) (user : Uuid) (expected : Nat) :
    Except ApiError Accounts :=
  match s.revalidateWorkshopScope scope .manageMembers with
  | .error error => .error error
  | .ok () =>
    match s.activeMembership scope.workshop user with
    | none => .error .notFound
    | some row =>
      if row.role = .owner then
        .error (.conflict "owner must be transferred before removal")
      else if row.version ≠ expected then .error (.preconditionFailed "If-Match is stale")
      else (s.writeMembership scope.workshop user row.revoke).commit scope.workshop

/-- The update of the workshop's version under `If-Match`. -/
def bumpWorkshop (workshop : Uuid) (expected : Nat) : Except ApiError (Table Uuid Workshop) :=
  match s.workshops.replace workshop (fun row => decide (row.version = expected))
      (fun row => { row with version := row.version + 1 }) with
  | some changed => .ok changed
  | none => .error (.preconditionFailed "If-Match is stale")

/-- A new transfer lives for 48 hours. -/
def offered (scope : WorkshopScope) (toUser : Uuid)
    (distinct : scope.principal ≠ toUser) : OwnershipTransfer where
  workshop := scope.workshop
  fromUser := scope.principal
  toUser := toUser
  expiresAt := s.now + seconds (48 * 3600)
  acceptedAt := none
  revokedAt := none
  distinct := distinct

def createOwnershipTransfer (scope : WorkshopScope) (id toUser : Uuid)
    (expected : Nat) : Except ApiError Accounts :=
  match s.revalidateWorkshopScope scope .transferOwnership with
  | .error error => .error error
  | .ok () =>
    if s.activeMembership scope.workshop toUser = none then .error .notFound
    else
      match s.bumpWorkshop scope.workshop expected with
      | .error error => .error error
      | .ok workshops =>
        -- The row is refused by the check on its users and by its primary key.
        if h : scope.principal ≠ toUser ∧ s.transfers.lookup id = none then
          .ok { s with
            workshops := workshops
            transfers := s.transfers.insert id (s.offered scope toUser h.1) }
        else .error .database

/-- The tables after a transfer was accepted. The creator becomes a manager whatever its
role is by now. -/
def handedOver (id : Uuid) (transfer : OwnershipTransfer)
    (creator recipient : Membership) (workshops : Table Uuid Workshop) : Accounts :=
  { s with
    workshops := workshops
    memberships :=
      (s.memberships.insert (transfer.workshop, transfer.fromUser)
        (creator.withRole .studioManager)).insert (transfer.workshop, transfer.toUser)
          (recipient.withRole .owner)
    transfers := s.transfers.insert id { transfer with acceptedAt := some s.now }
    accepted := id :: s.accepted }

/-- `clock` is the time of the process that serves the request. -/
def acceptOwnershipTransfer (user id : Uuid) (clock : Timestamp)
    (expected : Nat) : Except ApiError Accounts :=
  match s.transfers.lookup id with
  | none => .error .notFound
  | some transfer =>
    if transfer.toUser ≠ user then .error .forbidden
    else if transfer.acceptedAt.isSome ∨ transfer.revokedAt.isSome ∨
        transfer.expiresAt ≤ clock then .error .notFound
    else
      match s.bumpWorkshop transfer.workshop expected with
      | .error error => .error error
      | .ok workshops =>
        match s.activeMembership transfer.workshop transfer.fromUser,
            s.activeMembership transfer.workshop transfer.toUser with
        | some creator, some recipient =>
          (s.handedOver id transfer creator recipient workshops).commit transfer.workshop
        | _, _ => .error (.conflict "ownership transfer members are not both active")

end Accounts

/-! ## The system -/

/-- A committed transaction, or something that happens around the members: a write of a
user, an invitation or a workshop by other code, the passing of time. -/
inductive AccountEvent
  | insertInitialWorkshopOwner (workshop user : Uuid)
  | acceptInvitation (id user : Uuid) (tokenGeneration : Nat)
  | updateMember (scope : WorkshopScope) (user : Uuid) (role : WorkshopRole) (expected : Nat)
  | removeMember (scope : WorkshopScope) (user : Uuid) (expected : Nat)
  | createOwnershipTransfer (scope : WorkshopScope) (id toUser : Uuid) (expected : Nat)
  | acceptOwnershipTransfer (user id : Uuid) (clock : Timestamp) (expected : Nat)
  | addUser (user : Uuid) (email : String)
  | writeInvitation (id : Uuid) (invitation : Invitation)
  | writeWorkshop (workshop : Uuid) (row : Workshop)
  | advance (elapsed : Timestamp)

namespace Accounts

def initial (now : Timestamp) : Accounts where
  now := now
  users := ∅
  workshops := ∅
  memberships := ∅
  invitations := ∅
  transfers := ∅
  accepted := []

/-- Only what commits is a step. -/
def step (s : Accounts) : AccountEvent → Option Accounts
  | .insertInitialWorkshopOwner workshop user =>
    (s.insertInitialWorkshopOwner workshop user).toOption
  | .acceptInvitation id user tokenGeneration =>
    (s.acceptInvitationMembership id user tokenGeneration).toOption
  | .updateMember scope user role expected => (s.updateMember scope user role expected).toOption
  | .removeMember scope user expected => (s.removeMember scope user expected).toOption
  | .createOwnershipTransfer scope id toUser expected =>
    (s.createOwnershipTransfer scope id toUser expected).toOption
  | .acceptOwnershipTransfer user id clock expected =>
    (s.acceptOwnershipTransfer user id clock expected).toOption
  | .addUser user email => some { s with users := s.users.insert user email }
  | .writeInvitation id invitation =>
    some { s with invitations := s.invitations.insert id invitation }
  | .writeWorkshop workshop row =>
    some { s with workshops := s.workshops.insert workshop row }
  | .advance elapsed => some { s with now := s.now + elapsed }

end Accounts

end ControlPlane.Memberships
