/-
# Shared domain types

Identifiers, database time, the error classes an integration can report, and the
durable operation kinds with their queues and execution scopes. Kinds are an
enumeration because the operations table admits no other text, so parsing a
stored kind cannot fail.
-/

import Mathlib.Data.BitVec

namespace ControlPlane.Domain

/-- A 128-bit identifier. -/
abbrev Uuid := BitVec 128

instance : LawfulBEq Uuid := inferInstanceAs (LawfulBEq (BitVec 128))

/-- The all-zero identifier, which never names a workshop. -/
def Uuid.nil : Uuid := 0

/-- The thirty-two hexadecimal digits of an identifier. -/
def Uuid.hexDigits (id : Uuid) : List Char :=
  (List.range 32).map fun position => Nat.digitChar (id.toNat / 16 ^ (31 - position) % 16)

/-- The form without hyphens. -/
def Uuid.simple (id : Uuid) : String :=
  String.ofList id.hexDigits

/-- The usual text of an identifier, in groups of 8, 4, 4, 4 and 12 digits. -/
def Uuid.toText (id : Uuid) : String :=
  let digits := id.hexDigits
  String.ofList (digits.take 8 ++ '-' :: (digits.drop 8).take 4 ++ '-' ::
    (digits.drop 12).take 4 ++ '-' :: (digits.drop 16).take 4 ++ '-' :: digits.drop 20)

/-- The value of a hexadecimal digit. -/
def hexValue (c : Char) : Nat :=
  if c ≤ '9' then c.toNat - '0'.toNat else c.toNat - 'a'.toNat + 10

/-- The identifier written by the digits of a text, with hyphens left out. -/
def Uuid.ofText (text : String) : Uuid :=
  BitVec.ofNat 128 (((text.toList.filter (· != '-')).map hexValue).foldl
    (fun value digit => value * 16 + digit) 0)

theorem hexValue_digitChar : ∀ v < 16, hexValue (Nat.digitChar v) = v := by
  decide

theorem digitChar_ne_hyphen : ∀ v < 16, (Nat.digitChar v != '-') = true := by
  decide

/-- The leading digits of a number are its quotient. -/
theorem foldl_hexDigits (n : Nat) (count : Nat) (hcount : count ≤ 32) (hn : n < 16 ^ 32) :
    ((List.range count).map fun position => n / 16 ^ (31 - position) % 16).foldl
      (fun value digit => value * 16 + digit) 0 = n / 16 ^ (32 - count) := by
  induction count with
  | zero => exact (Nat.div_eq_of_lt hn).symm
  | succ count ih =>
    have hpow : 16 ^ (32 - count) = 16 ^ (31 - count) * 16 := by
      rw [← Nat.pow_succ]
      congr 1
      omega
    have hexp : 32 - (count + 1) = 31 - count := by omega
    rw [List.range_succ, List.map_append, List.foldl_append, ih (by omega), hexp, hpow,
      ← Nat.div_div_eq_div_mul]
    exact Nat.div_add_mod' _ 16

theorem Uuid.filter_toText (id : Uuid) : id.toText.toList.filter (· != '-') = id.hexDigits := by
  have hpiece : ∀ piece, piece ⊆ id.hexDigits → piece.filter (· != '-') = piece := by
    intro piece hsubset
    rw [List.filter_eq_self]
    intro c hc
    obtain ⟨position, -, rfl⟩ := List.mem_map.mp (hsubset hc)
    exact digitChar_ne_hyphen _ (Nat.mod_lt _ (by decide))
  have hdrop := fun count => List.drop_subset count id.hexDigits
  have hmiddle := fun skipped => List.Subset.trans
    (List.take_subset 4 (id.hexDigits.drop skipped)) (hdrop skipped)
  rw [Uuid.toText, String.toList_ofList]
  simp only [List.filter_append, List.filter_cons, bne_self_eq_false, Bool.false_eq_true,
    if_false, hpiece _ (List.take_subset 8 _), hpiece _ (hmiddle 8), hpiece _ (hmiddle 12),
    hpiece _ (hmiddle 16), hpiece _ (hdrop 20)]
  rfl

theorem Uuid.ofText_toText (id : Uuid) : Uuid.ofText id.toText = id := by
  have hvalues : id.hexDigits.map hexValue =
      (List.range 32).map fun position => id.toNat / 16 ^ (31 - position) % 16 := by
    rw [Uuid.hexDigits, List.map_map]
    apply List.map_congr_left
    intro position _
    exact hexValue_digitChar _ (Nat.mod_lt _ (by decide))
  rw [Uuid.ofText, Uuid.filter_toText, hvalues, foldl_hexDigits _ 32 (le_refl 32) id.isLt]
  simp

/-- The thirteenth digit is the version. -/
def Uuid.version (id : Uuid) : Nat :=
  id.toNat / 16 ^ 19 % 16

/-- The variant of ordinary identifiers, told by the seventeenth digit. -/
def Uuid.isRfc4122 (id : Uuid) : Bool :=
  let digit := id.toNat / 16 ^ 15 % 16
  decide (8 ≤ digit) && decide (digit ≤ 11)

/-- The name of the Odoo database that belongs to an identifier. -/
def opaqueDatabaseRef (id : Uuid) : String :=
  "mb_" ++ id.simple

/-- Database time in microseconds. -/
abbrev Timestamp := Nat

/-- An interval of whole seconds. -/
def seconds (count : Nat) : Timestamp := count * 1000000

/-- What an integration call can report instead of a result. -/
inductive IntegrationError
  | unauthorized
  | notFound
  | rejected
  | rateLimited (retryAfterSeconds : Option Nat)
  | unavailable
  | unknownOutcome
  | contractDrift
  | tooLarge
  deriving DecidableEq, Repr

namespace IntegrationError

def failureClass : IntegrationError → String
  | .unauthorized => "unauthorized"
  | .notFound => "not_found"
  | .rejected => "rejected"
  | .rateLimited _ => "rate_limited"
  | .unavailable => "upstream_unavailable"
  | .unknownOutcome => "unknown_outcome"
  | .contractDrift => "contract_drift"
  | .tooLarge => "document_too_large"

/-- Errors after which the same operation may be attempted again. An unknown
outcome counts as retryable even though it is never finished as a retry. -/
def retryable : IntegrationError → Bool
  | .rateLimited _ | .unavailable | .unknownOutcome => true
  | _ => false

def retryAfter : IntegrationError → Option Nat
  | .rateLimited retryAfterSeconds => retryAfterSeconds
  | _ => none

end IntegrationError

/-- The worker queues. -/
inductive Queue
  | tenantProvisioning
  | membershipProvisioning
  | invoiceCapture
  | inventoryCapture
  | emailDelivery
  | tenantReconciliation
  | tenantLifecycle
  | releaseAdoption
  | privacyOperations
  deriving DecidableEq, Repr

/-- The kinds of durable operation. -/
inductive OperationKind
  | tenantProvision
  | membershipReconcile
  | entitlementApply
  | invoiceCapture
  | inventoryCaptureExtract
  | tenantReconcile
  | tenantLifecycle
  | emailDelivery
  | moduleEnable
  | moduleRestrict
  | odooReleaseAdopt
  | privacyRetention
  | privacyDataSubjectRequest
  | webshopDomainReconcile
  | webshopEmailDomainReconcile
  | webshopOnboardingReconcile
  deriving DecidableEq, Repr

/-- The states of a workshop's module. -/
inductive ModuleState
  | requested
  | installing
  | enabled
  | failed
  | restricting
  | restricted
  deriving DecidableEq, Repr

/-- Where a leased operation runs. -/
inductive OperationExecutionScope
  | workshop (workshopId : Uuid)
  | fleet
  deriving DecidableEq

inductive OperationScopeError
  | queueMismatch
  | workshopScopeMismatch
  deriving DecidableEq

namespace OperationKind

def queue : OperationKind → Queue
  | .tenantProvision => .tenantProvisioning
  | .membershipReconcile => .membershipProvisioning
  | .entitlementApply => .membershipProvisioning
  | .invoiceCapture => .invoiceCapture
  | .inventoryCaptureExtract => .inventoryCapture
  | .tenantReconcile => .tenantReconciliation
  | .tenantLifecycle => .tenantLifecycle
  | .emailDelivery => .emailDelivery
  | .moduleEnable => .tenantReconciliation
  | .moduleRestrict => .tenantReconciliation
  | .odooReleaseAdopt => .releaseAdoption
  | .privacyRetention | .privacyDataSubjectRequest => .privacyOperations
  | .webshopDomainReconcile => .tenantReconciliation
  | .webshopEmailDomainReconcile => .tenantReconciliation
  | .webshopOnboardingReconcile => .tenantReconciliation

def requiresWorkshop : OperationKind → Bool
  | .odooReleaseAdopt | .privacyRetention | .privacyDataSubjectRequest => false
  | _ => true

/-- The scope an operation leased from `leasedQueue` may run in. -/
def executionScope (kind : OperationKind) (leasedQueue : Queue) (workshopId : Option Uuid) :
    Except OperationScopeError OperationExecutionScope :=
  if leasedQueue ≠ kind.queue then .error .queueMismatch
  else
    match kind.requiresWorkshop, workshopId with
    | true, some workshop =>
      if workshop ≠ Uuid.nil then .ok (.workshop workshop)
      else .error .workshopScopeMismatch
    | false, none => .ok .fleet
    | _, _ => .error .workshopScopeMismatch

theorem executionScope_workshop {kind : OperationKind} {queue : Queue}
    {workshopId : Option Uuid} {scope : OperationExecutionScope}
    (h : kind.executionScope queue workshopId = .ok scope) :
    workshopId.isSome = kind.requiresWorkshop := by
  unfold executionScope at h
  split at h
  · cases h
  · cases hrequires : kind.requiresWorkshop <;> cases workshopId <;>
      simp_all

end OperationKind

end ControlPlane.Domain
