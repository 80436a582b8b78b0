/-
# Fencing of route applications

What holds of the route authority over every history: one execution token passes
for a workshop, fences grow with every acquisition, generations are allocated one
after the other and never rewritten, the applied head follows the desired one and
never goes back, and a quarantine stays. One relation says what a step can do to
the tables, and every invariant is derived from it.
-/

import ControlPlane.Math.Transition
import ControlPlane.Routes.Authority

namespace ControlPlane.Routes.RouteState

open Domain Driver Math Table Persistence

/-! ## What one step can do -/

/-- Everything that can happen to the tables, with what the functions checked. -/
inductive Change (s : RouteState) : RouteState → Prop
  | quiet {t : RouteState} (projections : t.projections = s.projections)
      (heads : t.heads = s.heads) (leases : t.leases = s.leases)
      (receipts : t.receipts = s.receipts) (acquisitions : t.acquisitions = s.acquisitions) :
      Change s t
  | seeded (workshop : Uuid) : Change s (s.seeded workshop)
  | allocated {workshop : Uuid} {lease : RouteLease} (stored : StoredProjection)
      (hlease : s.leases.lookup workshop = some lease)
      (hholder : ∀ holder, lease.phase ≠ .held holder)
      (hnew : s.projections.lookup (workshop, s.desiredGeneration workshop + 1) = none) :
      Change s (s.allocated workshop stored)
  | asked {id : Uuid} {receipt : RouteReceipt} (caller : ControlOperationLease)
      (hreceipt : s.receipts.lookup id = some receipt)
      (hended : receipt.state.isSucceeded = true) :
      Change s { s with receipts := s.receipts.insert id (receipt.askedBy caller) }
  | acquired {call : AdmitCall} {lease : RouteLease} {desired : DesiredRoute}
      (hlease : s.leases.lookup call.workshop = some lease) (hphase : lease.phase = .free)
      (hdesired : (s.head call.workshop).desired = some desired)
      (htarget : call.target = desired.toRouteTarget)
      (hnew : s.receipts.lookup call.receiptId = none)
      (hunused : s.existingReceipt call = none) : Change s (s.acquired call lease)
  | expired {workshop : Uuid} {lease : RouteLease} {holder : RouteHolder}
      (hlease : s.leases.lookup workshop = some lease) (hphase : lease.phase = .held holder)
      (hexpired : holder.expiresAt ≤ s.now) : Change s (s.expired workshop lease holder)
  | renewed {workshop : Uuid} {lease : RouteLease} {holder : RouteHolder}
      {receipt : RouteReceipt} (expiresAt : Timestamp)
      (hlease : s.leases.lookup workshop = some lease) (hphase : lease.phase = .held holder)
      (hreceipt : s.receipts.lookup holder.driverOperation = some receipt)
      (hrunning : receipt.state = .inProgress) :
      Change s (s.renewed workshop lease holder receipt expiresAt)
  | finished {call : FinishCall} {workshop : Uuid} {lease : RouteLease} {holder : RouteHolder}
      {receipt : RouteReceipt} (response : Option Json)
      (hlease : s.leases.lookup workshop = some lease) (hphase : lease.phase = .held holder)
      (hbound : holder.driverOperation = call.driverOperation) (hfence : lease.fence = call.fence)
      (hreceipt : s.receipts.lookup call.driverOperation = some receipt)
      (hfinishable : receipt.finishableBy s.now holder.target call = true) :
      Change s (s.finished call workshop lease holder receipt response)

variable {s t : RouteState}

theorem Change.same (s : RouteState) : Change s s :=
  .quiet rfl rfl rfl rfl rfl

variable {workshop : Uuid} {head : RouteHead} {stored : StoredProjection} {answer : Materialization}
  {call : AdmitCall} {receipt : RouteReceipt} {admission : Admission} {response : Option Json}
  {holder : RouteHolder} {lease after : RouteLease} {events : List RouteEvent}

theorem head_eq_of_lookup (h : s.heads.lookup workshop = some head) : s.head workshop = head := by
  rw [RouteState.head, h, Option.getD_some]

/-! ## The functions -/

theorem lockWorkshopRouteProjection_spec {caller : ControlOperationLease}
    (h : s.lockWorkshopRouteProjection caller workshop = .ok ()) :
    s.upstreamFor caller workshop = true ∧
      ∃ lease, s.leases.lookup workshop = some lease ∧ ∀ holder, lease.phase ≠ .held holder := by
  unfold lockWorkshopRouteProjection at h
  split at h
  · cases h
  rename_i hupstream
  split at h
  · cases h
  split at h
  · cases h
  rename_i lease hlease
  split at h
  next hphase => exact ⟨by simpa using hupstream, lease, hlease, by simp [hphase]⟩
  next hphase => exact ⟨by simpa using hupstream, lease, hlease, by simp [hphase]⟩
  · cases h
  · cases h

theorem allocate_change (hlease : s.leases.lookup workshop = some lease)
    (hholder : ∀ holder, lease.phase ≠ .held holder)
    (h : s.allocate workshop stored = .ok (t, answer)) : Change s t := by
  unfold allocate at h
  split at h
  · cases h
  next hnew =>
    cases h
    exact .allocated stored hlease hholder hnew

variable {collationLe : String → String → Bool}

theorem materialize_change {call : MaterializeCall}
    (h : s.materialize collationLe call = .ok (t, answer)) : Change s t := by
  unfold materialize at h
  split at h
  · cases h
  rename_i hlock
  obtain ⟨-, lease, hlease, hholder⟩ := lockWorkshopRouteProjection_spec hlock
  unfold materializeV1 at h
  split at h
  · cases h
    exact .same s
  split at h
  · cases h
    exact .same s
  · split at h
    · split at h
      · split at h <;> cases h <;> exact .same s
      · exact allocate_change hlease hholder h
    · exact allocate_change hlease hholder h

theorem materializeTombstone_change {call : MaterializeCall}
    (h : s.materializeTombstone call = .ok (t, answer)) : Change s t := by
  unfold materializeTombstone at h
  split at h
  · cases h
  rename_i hlock
  obtain ⟨-, lease, hlease, hholder⟩ := lockWorkshopRouteProjection_spec hlock
  split at h
  · cases h
    exact .same s
  · split at h
    · cases h
    · split at h
      · split at h <;> cases h <;> exact .same s
      · exact allocate_change hlease hholder h

variable {id other : Uuid}

theorem existingReceipt_lookup (h : s.existingReceipt call = some (id, receipt)) :
    s.receipts.lookup id = some receipt := by
  unfold existingReceipt at h
  split at h
  next found hfound =>
    cases h
    exact (lookup_of_find hfound).1
  · exact (lookup_of_find h).1

theorem admitExisting_change {fence : Nat} (hreceipt : s.receipts.lookup id = some receipt) :
    Change s (s.admitExisting call fence id receipt).1 := by
  unfold admitExisting
  split
  · exact .same s
  split
  · exact .same s
  split
  next hstate =>
    split
    · exact .asked call.caller hreceipt (by rw [hstate]; rfl)
    · exact .same s
  · exact .same s
  · split <;> exact .same s

theorem admitNew_change (hhead : s.heads.lookup call.workshop = some head)
    (hlease : s.leases.lookup call.workshop = some lease) (hunused : s.existingReceipt call = none)
    (h : s.admitNew call head lease = .ok (t, admission)) : Change s t := by
  unfold admitNew at h
  split at h
  · cases h
    exact .same s
  rename_i desired hdesired
  split at h
  · cases h
    exact .same s
  split at h
  · cases h
    exact .same s
  rename_i htarget
  split at h
  · cases h
    exact .same s
  · cases h
  · cases h
  rename_i hphase
  split at h
  · cases h
  next hnew =>
    cases h
    have hdesired' : (s.head call.workshop).desired = some desired := by
      rw [head_eq_of_lookup hhead, hdesired]
    exact .acquired hlease hphase hdesired' (not_not.mp htarget) hnew hunused

theorem admitLive_change (hhead : s.heads.lookup call.workshop = some head)
    (hlease : s.leases.lookup call.workshop = some lease)
    (h : s.admitLive call head lease = .ok (t, admission)) : Change s t := by
  unfold admitLive at h
  split at h
  next id receipt hfound =>
    have hanswer := Except.ok.inj h
    have hnext : (s.admitExisting call lease.fence id receipt).1 = t :=
      congrArg Prod.fst hanswer
    rw [← hnext]
    exact admitExisting_change (existingReceipt_lookup hfound)
  next hunused => exact admitNew_change hhead hlease hunused h

theorem admitV1_change (h : s.admitV1 call = .ok (t, admission)) : Change s t := by
  unfold admitV1 at h
  split at h
  · cases h
    exact .same s
  split at h
  · cases h
    exact .same s
  split at h
  · cases h
    exact .same s
  · cases h
    exact .same s
  split at h
  swap
  · cases h
  rename_i head lease hhead hlease
  split at h
  · cases h
    exact .same s
  next holder hphase =>
    split at h
    next hexpired =>
      cases h
      exact .expired hlease hphase hexpired
    · exact admitLive_change hhead hlease h
  · exact admitLive_change hhead hlease h
  · exact admitLive_change hhead hlease h

/-- The two wrappers only add answers of their own. -/
theorem admit_inner (h : s.admitApplication call = .ok (t, admission)) :
    (t = s ∧ admission.outcome ≠ .acquired ∧ admission.outcome ≠ .replay) ∨
      ∃ inner, s.admitV1 call = .ok (t, inner) ∧ admission.outcome = inner.outcome ∧
        admission.fence = inner.fence := by
  unfold admitApplication at h
  split at h
  · cases h
    exact Or.inl ⟨rfl, by simp, by simp⟩
  · cases h
    exact Or.inl ⟨rfl, by simp, by simp⟩
  unfold admitFlatV1 at h
  split at h
  · cases h
    exact Or.inl ⟨rfl, by simp, by simp⟩
  split at h
  · cases h
  split at h
  · cases h
    exact Or.inl ⟨rfl, by simp, by simp⟩
  all_goals
    split at h
    · cases h
    next inner hinner =>
      cases h
      exact Or.inr ⟨inner, hinner, rfl, rfl⟩

theorem admit_change (h : s.admitApplication call = .ok (t, admission)) : Change s t := by
  rcases admit_inner h with ⟨rfl, -⟩ | ⟨inner, hinner, -⟩
  · exact .same t
  · exact admitV1_change hinner

/-- An accepted renewal found the held lease and its receipt. -/
theorem renew_spec {call : RenewCall} (h : s.renew call = .ok (t, true)) :
    ∃ workshop lease holder receipt,
      (s.upstream call.caller).bind OperationRow.workshopId = some workshop ∧
      s.leases.lookup workshop = some lease ∧ lease.phase = .held holder ∧
      holder.renewableBy s.now call = true ∧ lease.fence = call.fence ∧
      s.receipts.lookup holder.driverOperation = some receipt ∧
      receipt.renewableBy s.now workshop call = true ∧
      t = s.renewed workshop lease holder receipt (s.now + seconds call.ttlSeconds) := by
  unfold renew at h
  split at h
  · cases h
  split at h
  · cases h
  rename_i workshop hworkshop
  split at h
  · cases h
  split at h
  · cases h
  rename_i lease hlease
  split at h
  · cases h
  · cases h
  · cases h
  rename_i holder hphase
  split at h
  swap
  · cases h
  rename_i hholder
  split at h
  next receipt hreceipt =>
    split at h
    next hrenewable =>
      cases h
      exact ⟨workshop, lease, holder, receipt, hworkshop, hlease, hphase, hholder.1,
        hholder.2, hreceipt, hrenewable, rfl⟩
    · cases h
  · cases h

theorem renew_false {call : RenewCall} (h : s.renew call = .ok (t, false)) : t = s := by
  unfold renew at h
  repeat' split at h
  all_goals first | (cases h; rfl) | cases h

theorem renew_change {call : RenewCall} {answer : Bool} (h : s.renew call = .ok (t, answer)) :
    Change s t := by
  cases answer with
  | false =>
    rw [renew_false h]
    exact .same s
  | true =>
    obtain ⟨workshop, lease, holder, receipt, -, hlease, hphase, -, -, hreceipt, hrenewable,
      rfl⟩ := renew_spec h
    have hrunning : receipt.state = .inProgress := by
      simp only [RouteReceipt.renewableBy, Bool.and_eq_true, decide_eq_true_eq] at hrenewable
      exact hrenewable.1.1.1.2
    exact .renewed _ hlease hphase hreceipt hrunning

/-- A recorded end found the held lease and its running receipt. -/
def Finishes (s : RouteState) (call : FinishCall) (response : Option Json) (t : RouteState) :
    Prop :=
  ∃ workshop lease holder receipt,
    s.leaseOf call.driverOperation = some (workshop, lease) ∧ lease.phase = .held holder ∧
    holder.finishableBy s.now call = true ∧ lease.fence = call.fence ∧
    s.receipts.lookup call.driverOperation = some receipt ∧
    receipt.finishableBy s.now holder.target call = true ∧
    t = s.finished call workshop lease holder receipt response

theorem finishV1_spec {call : FinishCall} (h : s.finishV1 call response = (t, true)) :
    s.Finishes call response t := by
  unfold finishV1 at h
  split at h
  · cases h
  rename_i workshop lease hlease
  split at h
  · cases h
  · cases h
  · cases h
  rename_i holder hphase
  split at h
  swap
  · cases h
  rename_i hholder
  split at h
  next receipt hreceipt =>
    split at h
    next hfinishable =>
      cases h
      exact ⟨workshop, lease, holder, receipt, hlease, hphase, hholder.1, hholder.2.1,
        hreceipt, hfinishable, rfl⟩
    · cases h
  · cases h

theorem finishV1_false {call : FinishCall} (h : s.finishV1 call response = (t, false)) : t = s := by
  unfold finishV1 at h
  repeat' split at h
  all_goals first | (cases h; rfl) | cases h

/-- Storing the whole response is the same as having recorded it at once. -/
theorem storeResponse_finished {call : FinishCall} {legacy response : Json}
    (hsucceeded : call.outcome = .succeeded) :
    (s.finished call workshop lease holder receipt (some legacy)).storeResponse
        call.driverOperation response =
      s.finished call workshop lease holder receipt (some response) := by
  have hupdate := @update_of_guard Uuid RouteReceipt _
    (s.finished call workshop lease holder receipt (some legacy)).receipts call.driverOperation
    (receipt.finished call (some legacy)) (fun receipt => receipt.state.isSucceeded = true) _
    (fun receipt => { receipt with state := .succeeded response }) (AList.lookup_insert _)
    (by simp [RouteReceipt.finished, hsucceeded, ReceiptState.isSucceeded])
  rw [storeResponse, hupdate]
  simp [finished, AList.insert_insert, RouteReceipt.finished, hsucceeded]

theorem finish_spec {call : FinishCall} (h : s.finish call = (t, true)) :
    ∃ response, s.Finishes call response t := by
  unfold finish at h
  split at h
  case h_1 | h_2 => exact ⟨_, finishV1_spec h⟩
  rename_i houtcome
  split at h
  swap
  · cases h
  split at h
  · cases h
  rename_i legacy hlegacy
  split at h
  next next hinner =>
    obtain ⟨workshop, lease, holder, receipt, hlease, hphase, hholder, hfence, hreceipt,
      hfinishable, rfl⟩ := finishV1_spec hinner
    cases h
    exact ⟨_, workshop, lease, holder, receipt, hlease, hphase, hholder, hfence, hreceipt,
      hfinishable, storeResponse_finished houtcome⟩
  · cases h

theorem finish_false {call : FinishCall} (h : s.finish call = (t, false)) : t = s := by
  unfold finish at h
  split at h
  · exact finishV1_false h
  · exact finishV1_false h
  split at h
  swap
  · cases h
    rfl
  split at h
  · cases h
    rfl
  · split at h
    · cases h
    next hinner =>
      cases h
      exact finishV1_false hinner

theorem finish_change (call : FinishCall) : Change s (s.finish call).1 := by
  cases hfinish : s.finish call with
  | mk t answer =>
    cases answer with
    | false =>
      rw [finish_false hfinish]
      exact .same s
    | true =>
      obtain ⟨response, workshop, lease, holder, receipt, hlease, hphase, -, hfence, hreceipt,
        hfinishable, rfl⟩ := finish_spec hfinish
      obtain ⟨hlookup, hbound⟩ := lookup_of_find hlease
      rw [decide_eq_true_eq, hphase] at hbound
      exact .finished response hlookup hphase (Option.some.inj hbound) hfence hreceipt hfinishable

theorem step_change {event : RouteEvent}
    (h : s.step collationLe event = some t) : Change s t := by
  cases event with
  | call call =>
    cases h
    cases call with
    | materialize call =>
      rw [perform]
      cases hresult : s.materialize collationLe call with
      | error raised => exact .same s
      | ok answer => exact materialize_change hresult
    | materializeTombstone call =>
      rw [perform]
      cases hresult : s.materializeTombstone call with
      | error raised => exact .same s
      | ok answer => exact materializeTombstone_change hresult
    | admitApplication call =>
      rw [perform]
      cases hresult : s.admitApplication call with
      | error raised => exact .same s
      | ok answer => exact admit_change hresult
    | renew call =>
      rw [perform]
      cases hresult : s.renew call with
      | error raised => exact .same s
      | ok answer => exact renew_change hresult
    | finish call => exact finish_change call
  | advance elapsed | operations operations | fleet fleet | mode mode =>
    cases h
    exact .quiet rfl rfl rfl rfl rfl
  | createWorkshop workshop =>
    cases h
    exact .seeded workshop

/-! ## Heads and leases after a step -/

@[simp]
theorem head_seeded (workshop other : Uuid) : (s.seeded workshop).head other = s.head other := by
  unfold seeded RouteState.head
  cases hhead : s.heads.lookup workshop with
  | some head => simp
  | none =>
    by_cases hother : other = workshop
    · subst other
      simp [hhead]
    · simp [AList.lookup_insert_ne hother]

theorem head_allocated_self (workshop : Uuid) (stored : StoredProjection) :
    (s.allocated workshop stored).head workshop = { s.head workshop with
      desired := some ⟨⟨s.desiredGeneration workshop + 1, stored.digest⟩,
        stored.disposition⟩ } := by
  simp [allocated, RouteState.head]

theorem head_allocated_of_ne (stored : StoredProjection) (hne : other ≠ workshop) :
    (s.allocated workshop stored).head other = s.head other := by
  simp [allocated, RouteState.head, AList.lookup_insert_ne hne]

@[simp]
theorem desired_finished (call : FinishCall) (workshop other : Uuid) (lease : RouteLease)
    (holder : RouteHolder) (receipt : RouteReceipt) (response : Option Json) :
    ((s.finished call workshop lease holder receipt response).head other).desired =
      (s.head other).desired := by
  unfold finished RouteState.head
  cases call.outcome with
  | succeeded =>
    by_cases hother : other = workshop
    · subst other
      rw [lookup_update_self]
      cases s.heads.lookup workshop <;> rfl
    · rw [lookup_update_of_ne hother]
  | failed | unknown => rfl

/-- An end changes an applied head only to the target of the lease it ended. -/
theorem applied_finished (call : FinishCall) (workshop other : Uuid) (lease : RouteLease)
    (holder : RouteHolder) (receipt : RouteReceipt) (response : Option Json) :
    ((s.finished call workshop lease holder receipt response).head other).applied =
        (s.head other).applied ∨
      other = workshop ∧ ∃ applied, applied.toRouteTarget = holder.target ∧
        ((s.finished call workshop lease holder receipt response).head other).applied =
          some applied := by
  unfold finished RouteState.head
  cases call.outcome with
  | succeeded =>
    by_cases hother : other = workshop
    · subst other
      rw [lookup_update_self]
      cases hhead : s.heads.lookup workshop with
      | none => exact Or.inl rfl
      | some head => exact Or.inr ⟨rfl, _, rfl, rfl⟩
    · rw [lookup_update_of_ne hother]
      exact Or.inl rfl
  | failed | unknown => exact Or.inl rfl

/-- A step leaves the projections and every desired head, or allocates one projection for
a workshop whose lease nobody holds. -/
theorem Change.allocation (h : Change s t) : (t.projections = s.projections ∧
        ∀ workshop, (t.head workshop).desired = (s.head workshop).desired) ∨
      ∃ workshop stored lease, t = s.allocated workshop stored ∧
        s.leases.lookup workshop = some lease ∧ (∀ holder, lease.phase ≠ .held holder) ∧
        s.projections.lookup (workshop, s.desiredGeneration workshop + 1) = none := by
  cases h with
  | quiet projections heads leases receipts acquisitions =>
    exact Or.inl ⟨projections, fun workshop => by rw [RouteState.head, heads]; rfl⟩
  | seeded created => exact Or.inl ⟨rfl, fun workshop => by rw [head_seeded]⟩
  | allocated stored hlease hholder hnew =>
    exact Or.inr ⟨_, stored, _, rfl, hlease, hholder, hnew⟩
  | asked caller hreceipt hended | acquired hlease hphase hdesired htarget hnew hunused
  | expired hlease hphase hexpired | renewed expiresAt hlease hphase hreceipt hrunning =>
    exact Or.inl ⟨rfl, fun _ => rfl⟩
  | finished response hlease hphase hbound hfence hreceipt hfinishable =>
    exact Or.inl ⟨rfl, fun _ => desired_finished _ _ _ _ _ _ _⟩

theorem desiredGeneration_allocated_self (workshop : Uuid) (stored : StoredProjection) :
    (s.allocated workshop stored).desiredGeneration workshop =
      s.desiredGeneration workshop + 1 := by
  rw [desiredGeneration, head_allocated_self]
  rfl

theorem desiredGeneration_allocated_of_ne (stored : StoredProjection) (hne : other ≠ workshop) :
    (s.allocated workshop stored).desiredGeneration other = s.desiredGeneration other := by
  rw [desiredGeneration, head_allocated_of_ne stored hne]
  rfl

/-- Desired generations are allocated one by one. -/
theorem Change.desiredGeneration (h : Change s t) (workshop : Uuid) :
    t.desiredGeneration workshop = s.desiredGeneration workshop ∨
      t.desiredGeneration workshop = s.desiredGeneration workshop + 1 := by
  rcases h.allocation with ⟨-, hdesired⟩ | ⟨changed, stored, lease, rfl, -⟩
  · left
    rw [RouteState.desiredGeneration, hdesired]
    rfl
  · by_cases hworkshop : workshop = changed
    · subst workshop
      exact Or.inr (desiredGeneration_allocated_self changed stored)
    · exact Or.inl (desiredGeneration_allocated_of_ne stored hworkshop)

theorem Change.projection (h : Change s t) {key : Uuid × Nat}
    (hstored : s.projections.lookup key = some stored) :
    t.projections.lookup key = some stored := by
  rcases h.allocation with ⟨hprojections, -⟩ | ⟨workshop, inserted, lease, rfl, -, -, hnew⟩
  · rw [hprojections, hstored]
  · have hne : key ≠ (workshop, s.desiredGeneration workshop + 1) := by
      rintro rfl
      rw [hstored] at hnew
      cases hnew
    exact (AList.lookup_insert_ne hne).trans hstored

/-- A step leaves the applied head of a workshop or sets it to the target of a held lease. -/
theorem Change.applied (h : Change s t) (workshop : Uuid) :
    (t.head workshop).applied = (s.head workshop).applied ∨
      ∃ lease holder applied, s.leases.lookup workshop = some lease ∧
        lease.phase = .held holder ∧ applied.toRouteTarget = holder.target ∧
        (t.head workshop).applied = some applied ∧
        (t.head workshop).desired = (s.head workshop).desired := by
  cases h with
  | quiet projections heads leases receipts acquisitions =>
    exact Or.inl (by rw [RouteState.head, heads]; rfl)
  | seeded created => exact Or.inl (by rw [head_seeded])
  | @allocated changed lease stored hlease hholder hnew =>
    by_cases hworkshop : workshop = changed
    · subst workshop
      exact Or.inl (by rw [head_allocated_self])
    · exact Or.inl (by rw [head_allocated_of_ne stored hworkshop])
  | asked caller hreceipt hended | acquired hlease hphase hdesired htarget hnew hunused
  | expired hlease hphase hexpired | renewed expiresAt hlease hphase hreceipt hrunning =>
    exact Or.inl rfl
  | @finished call changed lease holder receipt response hlease hphase hbound hfence hreceipt
      hfinishable =>
    rcases applied_finished call changed workshop lease holder receipt response with
      hsame | ⟨rfl, applied, htarget, hset⟩
    · exact Or.inl hsame
    · exact Or.inr ⟨lease, holder, applied, hlease, hphase, htarget, hset,
        desired_finished _ _ _ _ _ _ _⟩

/-- What a step can do to one lease. -/
inductive LeaseStep (lease : RouteLease) : RouteLease → Prop
  | kept : LeaseStep lease lease
  | acquired (holder : RouteHolder) (hfree : lease.phase = .free) :
      LeaseStep lease { lease with fence := lease.fence + 1, phase := .held holder }
  | renewed {holder : RouteHolder} (hheld : lease.phase = .held holder) (expiresAt : Timestamp) :
      LeaseStep lease { lease with phase := .held { holder with expiresAt } }
  | ended {holder : RouteHolder} {after : RouteLease} (hheld : lease.phase = .held holder)
      (hfence : after.fence = lease.fence) (hafter : ∀ other, after.phase ≠ .held other) :
      LeaseStep lease after

theorem LeaseStep.fence_le (h : LeaseStep lease after) :
    lease.fence ≤ after.fence := by
  cases h with
  | kept | renewed hheld expiresAt => exact le_refl _
  | acquired holder hfree => exact Nat.le_succ _
  | ended hheld hfence hafter => exact hfence.ge

/-- No step takes a lease out of quarantine. -/
theorem LeaseStep.quarantined {driverOperation : Option Uuid}
    (h : LeaseStep lease after) (hquarantined : lease.phase = .quarantined driverOperation) :
    after = lease := by
  cases h with
  | kept => rfl
  | acquired holder hfree =>
    rw [hquarantined] at hfree
    cases hfree
  | renewed hheld expiresAt | ended hheld hfence hafter =>
    rw [hquarantined] at hheld
    cases hheld

private theorem leaseStep_insert {changed : Uuid} {lease row : RouteLease}
    (hlease : s.leases.lookup workshop = some lease) (hrow : s.leases.lookup changed = some row)
    (hstep : LeaseStep row after) :
    ∃ next, (s.leases.insert changed after).lookup workshop = some next ∧ LeaseStep lease next := by
  by_cases hworkshop : workshop = changed
  · subst workshop
    rw [hrow] at hlease
    cases hlease
    exact ⟨after, AList.lookup_insert _, hstep⟩
  · exact ⟨lease, by rw [AList.lookup_insert_ne hworkshop, hlease], .kept⟩

theorem lookup_seeded (hlease : s.leases.lookup workshop = some lease)
    (created : Uuid) : (s.seeded created).leases.lookup workshop = some lease := by
  unfold RouteState.seeded
  cases hcreated : s.leases.lookup created with
  | some row => exact hlease
  | none =>
    have hne : workshop ≠ created := by
      rintro rfl
      rw [hlease] at hcreated
      cases hcreated
    exact (AList.lookup_insert_ne hne).trans hlease

theorem Change.leaseStep (h : Change s t) (hlease : s.leases.lookup workshop = some lease) :
    ∃ after, t.leases.lookup workshop = some after ∧ LeaseStep lease after := by
  cases h with
  | quiet projections heads leases receipts acquisitions =>
    exact ⟨lease, by rw [leases, hlease], .kept⟩
  | seeded created => exact ⟨lease, lookup_seeded hlease created, .kept⟩
  | allocated stored hrow hholder hnew | asked caller hreceipt hended =>
    exact ⟨lease, hlease, .kept⟩
  | acquired hrow hphase hdesired htarget hnew hunused =>
    exact leaseStep_insert hlease hrow (.acquired _ hphase)
  | expired hrow hphase hexpired =>
    exact leaseStep_insert hlease hrow (.ended hphase rfl (by simp))
  | renewed expiresAt hrow hphase hreceipt hrunning =>
    exact leaseStep_insert hlease hrow (.renewed hphase expiresAt)
  | @finished call changed row holder receipt response hrow hphase hbound hfence hreceipt
      hfinishable =>
    refine leaseStep_insert hlease hrow (.ended hphase ?_ ?_)
    · cases call.outcome <;> rfl
    · cases call.outcome <;> simp [RouteLease.finished]

/-- A lease that is held after a step was held for the same target before it, or was
acquired for the desired projection. -/
theorem Change.held (h : Change s t) (hafter : t.leases.lookup workshop = some after)
    (hphase : after.phase = .held holder) :
    (∃ lease before, s.leases.lookup workshop = some lease ∧ lease.phase = .held before ∧
        before.target = holder.target) ∨
      ∃ desired, (s.head workshop).desired = some desired ∧
        (t.head workshop).desired = some desired ∧ holder.target = desired.toRouteTarget := by
  cases h with
  | quiet projections heads leases receipts acquisitions =>
    rw [leases] at hafter
    exact Or.inl ⟨after, holder, hafter, hphase, rfl⟩
  | seeded created =>
    unfold RouteState.seeded at hafter
    cases hcreated : s.leases.lookup created with
    | some row =>
      simp only [hcreated] at hafter
      exact Or.inl ⟨after, holder, hafter, hphase, rfl⟩
    | none =>
      simp only [hcreated] at hafter
      rcases lookup_insert_cases hafter with ⟨-, rfl⟩ | ⟨-, hbefore⟩
      · cases hphase
      · exact Or.inl ⟨after, holder, hbefore, hphase, rfl⟩
  | allocated stored hrow hholder hnew | asked caller hreceipt hended =>
    exact Or.inl ⟨after, holder, hafter, hphase, rfl⟩
  | acquired hrow hfree hdesired htarget hnew hunused =>
    rcases lookup_insert_cases hafter with ⟨rfl, rfl⟩ | ⟨-, hbefore⟩
    · cases hphase
      exact Or.inr ⟨_, hdesired, hdesired, htarget⟩
    · exact Or.inl ⟨after, holder, hbefore, hphase, rfl⟩
  | expired hrow hheld hexpired =>
    rcases lookup_insert_cases hafter with ⟨-, rfl⟩ | ⟨-, hbefore⟩
    · cases hphase
    · exact Or.inl ⟨after, holder, hbefore, hphase, rfl⟩
  | renewed expiresAt hrow hheld hreceipt hrunning =>
    rcases lookup_insert_cases hafter with ⟨rfl, rfl⟩ | ⟨-, hbefore⟩
    · cases hphase
      exact Or.inl ⟨_, _, hrow, hheld, rfl⟩
    · exact Or.inl ⟨after, holder, hbefore, hphase, rfl⟩
  | @finished call changed row before receipt response hrow hheld hbound hfence hreceipt
      hfinishable =>
    rcases lookup_insert_cases hafter with ⟨-, rfl⟩ | ⟨-, hbefore⟩
    · cases houtcome : call.outcome <;> simp [RouteLease.finished, houtcome] at hphase
    · exact Or.inl ⟨after, holder, hbefore, hphase, rfl⟩

/-! ## Invariants -/

/-- What holds of the tables in every reachable state. -/
structure Authoritative (s : RouteState) : Prop where
  /-- The stored generations are those from one to the desired one. -/
  consecutive : ∀ workshop generation, (s.projections.lookup (workshop, generation)).isSome = true ↔
      1 ≤ generation ∧ generation ≤ s.desiredGeneration workshop
  /-- A held lease applies the desired projection. -/
  held : ∀ workshop lease holder, s.leases.lookup workshop = some lease →
    lease.phase = .held holder → ∃ desired, (s.head workshop).desired = some desired ∧
      holder.target = desired.toRouteTarget
  /-- The applied head is not ahead of the desired one. -/
  applied : ∀ workshop, s.appliedGeneration workshop ≤ s.desiredGeneration workshop
  /-- A fence that was given out is not larger than its lease's. -/
  issued : ∀ acquisition ∈ s.acquisitions, ∃ lease,
    s.leases.lookup acquisition.1 = some lease ∧ acquisition.2 ≤ lease.fence
  /-- Later acquisitions of a workshop have larger fences. -/
  increasing : s.acquisitions.Pairwise fun later earlier =>
    later.1 = earlier.1 → earlier.2 < later.2

theorem Initial.head_eq (h : s.Initial) (workshop : Uuid) : s.head workshop = .empty := by
  unfold RouteState.head
  cases hhead : s.heads.lookup workshop with
  | none => rfl
  | some head => exact h.noHead workshop head hhead

theorem Initial.authoritative (h : s.Initial) : Authoritative s where
  consecutive := by
    intro workshop generation
    rw [h.noProjection, AList.lookup_empty, desiredGeneration, h.head_eq]
    simp [RouteHead.empty]
    omega
  held := fun workshop lease holder hlease hphase =>
    absurd hphase (h.noHolder workshop lease holder hlease)
  applied := by
    intro workshop
    rw [appliedGeneration, h.head_eq]
    exact Nat.zero_le _
  issued := by simp [h.noAcquisition]
  increasing := by simp [h.noAcquisition]

theorem Authoritative.consecutive_step (hinv : Authoritative s) (h : Change s t)
    (workshop : Uuid) (generation : Nat) :
    (t.projections.lookup (workshop, generation)).isSome = true ↔
      1 ≤ generation ∧ generation ≤ t.desiredGeneration workshop := by
  have hbefore := hinv.consecutive workshop generation
  rcases h.allocation with ⟨hprojections, hdesired⟩ | ⟨changed, stored, lease, rfl, -⟩
  · rw [hprojections, RouteState.desiredGeneration, hdesired]
    exact hbefore
  by_cases hworkshop : workshop = changed
  · subst workshop
    rw [desiredGeneration_allocated_self]
    by_cases hgeneration : generation = s.desiredGeneration changed + 1
    · subst generation
      simp [allocated]
    · have hne : (changed, generation) ≠ (changed, s.desiredGeneration changed + 1) := by
        simpa using hgeneration
      rw [allocated, AList.lookup_insert_ne hne, hbefore]
      omega
  · have hne : (workshop, generation) ≠ (changed, s.desiredGeneration changed + 1) := by
      simp [hworkshop]
    rw [desiredGeneration_allocated_of_ne stored hworkshop, allocated, AList.lookup_insert_ne hne]
    exact hbefore

/-- While a lease is held the desired projection stays. -/
theorem Change.desired_of_held (h : Change s t)
    (hlease : s.leases.lookup workshop = some lease) (hphase : lease.phase = .held holder) :
    (t.head workshop).desired = (s.head workshop).desired := by
  rcases h.allocation with ⟨-, hdesired⟩ | ⟨changed, stored, row, rfl, hrow, hholder, -⟩
  · exact hdesired workshop
  have hne : workshop ≠ changed := by
    rintro rfl
    rw [hlease] at hrow
    cases hrow
    exact hholder holder hphase
  rw [head_allocated_of_ne stored hne]

section

variable (hinv : Authoritative s) (h : Change s t)

include hinv h

theorem Authoritative.held_step (hafter : t.leases.lookup workshop = some after)
    (hphase : after.phase = .held holder) :
    ∃ desired, (t.head workshop).desired = some desired ∧
      holder.target = desired.toRouteTarget := by
  rcases h.held hafter hphase with ⟨lease, before, hlease, hheld, htarget⟩ |
    ⟨desired, -, hdesired, htarget⟩
  · obtain ⟨desired, hdesired, hbefore⟩ := hinv.held workshop lease before hlease hheld
    exact ⟨desired, (h.desired_of_held hlease hheld).trans hdesired, htarget.symm.trans hbefore⟩
  · exact ⟨desired, hdesired, htarget⟩

/-- A step that sets an applied head sets it to the desired projection. -/
theorem Authoritative.applied_cases (workshop : Uuid) :
    (t.head workshop).applied = (s.head workshop).applied ∨
      t.appliedGeneration workshop = s.desiredGeneration workshop ∧
        t.desiredGeneration workshop = s.desiredGeneration workshop := by
  rcases h.applied workshop with hsame | ⟨lease, holder, applied, hlease, hphase, htarget, hset,
    hdesired⟩
  · exact Or.inl hsame
  obtain ⟨desired, hhead, hbound⟩ := hinv.held workshop lease holder hlease hphase
  have hgeneration : applied.generation = desired.generation :=
    congrArg RouteTarget.generation (htarget.trans hbound)
  right
  rw [appliedGeneration, RouteState.desiredGeneration, RouteState.desiredGeneration, hset,
    hdesired, hhead]
  exact ⟨hgeneration, rfl⟩

theorem Authoritative.applied_le (workshop : Uuid) :
    s.appliedGeneration workshop ≤ t.appliedGeneration workshop := by
  rcases hinv.applied_cases h workshop with hsame | ⟨hset, -⟩
  · rw [appliedGeneration, appliedGeneration, hsame]
  · rw [hset]
    exact hinv.applied workshop

theorem Authoritative.applied_step (workshop : Uuid) :
    t.appliedGeneration workshop ≤ t.desiredGeneration workshop := by
  rcases hinv.applied_cases h workshop with hsame | ⟨hset, hdesired⟩
  · have hbefore := hinv.applied workshop
    have heq : t.appliedGeneration workshop = s.appliedGeneration workshop := by
      rw [appliedGeneration, appliedGeneration, hsame]
    rcases h.desiredGeneration workshop with hgeneration | hgeneration <;> omega
  · rw [hset, hdesired]

end

/-- A step gives out at most one fence, the next one of a lease. -/
theorem Change.acquisitions (h : Change s t) : t.acquisitions = s.acquisitions ∨
      ∃ workshop lease after, s.leases.lookup workshop = some lease ∧
        t.leases.lookup workshop = some after ∧ after.fence = lease.fence + 1 ∧
        t.acquisitions = (workshop, lease.fence + 1) :: s.acquisitions := by
  cases h with
  | quiet projections heads leases receipts acquisitions => exact Or.inl acquisitions
  | seeded created | allocated stored hlease hholder hnew | asked caller hreceipt hended
  | expired hlease hphase hexpired | renewed expiresAt hlease hphase hreceipt hrunning
  | finished response hlease hphase hbound hfence hreceipt hfinishable => exact Or.inl rfl
  | acquired hlease hphase hdesired htarget hnew hunused =>
    exact Or.inr ⟨_, _, _, hlease, AList.lookup_insert _, rfl, rfl⟩

section

variable (hinv : Authoritative s) (h : Change s t)

include hinv h

theorem Authoritative.issued_step : ∀ acquisition ∈ t.acquisitions, ∃ lease,
      t.leases.lookup acquisition.1 = some lease ∧ acquisition.2 ≤ lease.fence := by
  have hkept : ∀ acquisition ∈ s.acquisitions, ∃ lease,
      t.leases.lookup acquisition.1 = some lease ∧ acquisition.2 ≤ lease.fence := by
    intro acquisition hmem
    obtain ⟨lease, hlease, hfence⟩ := hinv.issued acquisition hmem
    obtain ⟨after, hafter, hstep⟩ := h.leaseStep hlease
    exact ⟨after, hafter, hfence.trans hstep.fence_le⟩
  rcases h.acquisitions with hsame | ⟨workshop, lease, after, -, hafter, hfence, hpushed⟩
  · rw [hsame]
    exact hkept
  · intro acquisition hmem
    rw [hpushed] at hmem
    rcases List.mem_cons.mp hmem with rfl | hmem
    · exact ⟨after, hafter, hfence.ge⟩
    · exact hkept acquisition hmem

theorem Authoritative.increasing_step :
    t.acquisitions.Pairwise fun later earlier => later.1 = earlier.1 → earlier.2 < later.2 := by
  rcases h.acquisitions with hsame | ⟨workshop, lease, after, hlease, -, -, hpushed⟩
  · rw [hsame]
    exact hinv.increasing
  rw [hpushed, List.pairwise_cons]
  refine ⟨?_, hinv.increasing⟩
  intro earlier hmem hworkshop
  obtain ⟨row, hrow, hfence⟩ := hinv.issued earlier hmem
  rw [← hworkshop, hlease] at hrow
  cases hrow
  exact Nat.lt_succ_of_le hfence

theorem Authoritative.change : Authoritative t where
  consecutive := hinv.consecutive_step h
  held := fun _ _ _ hlease hphase => hinv.held_step h hlease hphase
  applied := hinv.applied_step h
  issued := hinv.issued_step h
  increasing := hinv.increasing_step h

end

theorem authoritative_run
    (hrun : Run (step collationLe) s events t) (hinv : Authoritative s) : Authoritative t :=
  hrun.invariant (fun _ _ _ hbefore _ hstep => hbefore.change (step_change hstep)) hinv

/-! ## What later states keep -/

/-- What a state leaves to every later one. -/
structure Kept (s t : RouteState) : Prop where
  projection : ∀ key stored, s.projections.lookup key = some stored →
    t.projections.lookup key = some stored
  desired : ∀ workshop, s.desiredGeneration workshop ≤ t.desiredGeneration workshop
  applied : ∀ workshop, s.appliedGeneration workshop ≤ t.appliedGeneration workshop
  quarantine : ∀ workshop lease driverOperation, s.leases.lookup workshop = some lease →
    lease.phase = .quarantined driverOperation → t.leases.lookup workshop = some lease

theorem Kept.refl (s : RouteState) : Kept s s :=
  ⟨fun _ _ h => h, fun _ => le_refl _, fun _ => le_refl _, fun _ _ _ h _ => h⟩

theorem Kept.trans {u : RouteState} (hfirst : Kept s t) (hsecond : Kept t u) : Kept s u where
  projection := fun key stored h => hsecond.projection key stored (hfirst.projection key stored h)
  desired := fun workshop => (hfirst.desired workshop).trans (hsecond.desired workshop)
  applied := fun workshop => (hfirst.applied workshop).trans (hsecond.applied workshop)
  quarantine := fun workshop lease driverOperation hlease hphase =>
    hsecond.quarantine workshop lease driverOperation
      (hfirst.quarantine workshop lease driverOperation hlease hphase) hphase

theorem Authoritative.kept (hinv : Authoritative s) (h : Change s t) : Kept s t where
  projection := fun _ _ hstored => h.projection hstored
  desired := by
    intro workshop
    rcases h.desiredGeneration workshop with heq | heq <;> omega
  applied := hinv.applied_le h
  quarantine := by
    intro workshop lease driverOperation hlease hphase
    obtain ⟨after, hafter, hstep⟩ := h.leaseStep hlease
    rw [hafter, hstep.quarantined hphase]

theorem kept_run (hrun : Run (step collationLe) s events t)
    (hinv : Authoritative s) : Kept s t :=
  hrun.relation Kept.refl Kept.trans
    (fun _ _ _ hbefore _ hstep => hbefore.change (step_change hstep))
    (fun _ _ _ hbefore _ hstep => hbefore.kept (step_change hstep)) hinv

/-! ## Tokens -/

/-- A renewal or an end of the workshop's application with this execution token would be
accepted. -/
def TokenPasses (s : RouteState) (workshop token : Uuid) : Prop :=
  (∃ call t, call.executionToken = token ∧
      (s.upstream call.caller).bind OperationRow.workshopId = some workshop ∧
      s.renew call = .ok (t, true)) ∨
    ∃ call lease t, call.executionToken = token ∧
      s.leaseOf call.driverOperation = some (workshop, lease) ∧ s.finish call = (t, true)

/-- The token that the receipt of a held lease is executed under. -/
def executionToken (s : RouteState) (workshop : Uuid) : Option Uuid :=
  match s.leases.lookup workshop with
  | some ⟨_, _, .held holder⟩ =>
    ((s.receipts.lookup holder.driverOperation).bind RouteReceipt.execution).map
      RouteExecution.token
  | _ => none

theorem executionToken_of_held {execution : RouteExecution}
    (hlease : s.leases.lookup workshop = some lease) (hphase : lease.phase = .held holder)
    (hreceipt : s.receipts.lookup holder.driverOperation = some receipt)
    (hexecution : receipt.execution = some execution) :
    s.executionToken workshop = some execution.token := by
  obtain ⟨fence, initializationRequired, phase⟩ := lease
  cases hphase
  simp [executionToken, hlease, hreceipt, hexecution]

/-- A token passes only as the one of the held lease's receipt. -/
theorem TokenPasses.eq {token : Uuid} (h : s.TokenPasses workshop token) :
    s.executionToken workshop = some token := by
  rcases h with ⟨call, t, rfl, hworkshop, hrenew⟩ | ⟨call, lease, t, rfl, hlease, hfinish⟩
  · obtain ⟨renewed, lease, holder, receipt, hrenewed, hlease, hphase, -, -, hreceipt, hrenewable,
      -⟩ := renew_spec hrenew
    cases hworkshop.symm.trans hrenewed
    simp only [RouteReceipt.renewableBy, Bool.and_eq_true, Option.any_eq_true,
      decide_eq_true_eq] at hrenewable
    obtain ⟨⟨-, execution, hexecution, htoken, -⟩, -⟩ := hrenewable
    rw [← htoken]
    exact executionToken_of_held hlease hphase hreceipt hexecution
  · obtain ⟨response, found, row, holder, receipt, hfound, hphase, -, -, hreceipt, hfinishable,
      -⟩ := finish_spec hfinish
    cases hlease.symm.trans hfound
    obtain ⟨hlookup, hbound⟩ := lookup_of_find hlease
    rw [decide_eq_true_eq, hphase] at hbound
    simp only [RouteReceipt.finishableBy, Bool.and_eq_true, Option.any_eq_true,
      decide_eq_true_eq] at hfinishable
    obtain ⟨⟨-, execution, hexecution, htoken, -⟩, -⟩ := hfinishable
    rw [← htoken]
    rw [← Option.some.inj hbound] at hreceipt
    exact executionToken_of_held hlookup hphase hreceipt hexecution

/-! ## Acquisitions and outdated ends -/

/-- An admission that answers `acquired` found no receipt and took the next fence. -/
theorem admitV1_acquired (h : s.admitV1 call = .ok (t, admission))
    (houtcome : admission.outcome = .acquired) :
    ∃ lease, s.existingReceipt call = none ∧ t = s.acquired call lease ∧
      admission.fence = some (lease.fence + 1) := by
  have of_live : ∀ {head lease}, s.admitLive call head lease = .ok (t, admission) →
      ∃ lease, s.existingReceipt call = none ∧ t = s.acquired call lease ∧
        admission.fence = some (lease.fence + 1) := by
    intro head lease hlive
    unfold admitLive at hlive
    split at hlive
    next id receipt hfound =>
      have hanswer := congrArg (fun result => result.2.outcome) (Except.ok.inj hlive)
      rw [houtcome] at hanswer
      unfold admitExisting at hanswer
      repeat' split at hanswer
      all_goals cases hanswer
    next hunused =>
      unfold admitNew at hlive
      repeat' split at hlive
      all_goals cases hlive
      all_goals first | exact ⟨lease, hunused, rfl, rfl⟩ | cases houtcome
  unfold admitV1 at h
  split at h
  · cases h
    cases houtcome
  split at h
  · cases h
    cases houtcome
  split at h
  · cases h
    cases houtcome
  · cases h
    cases houtcome
  split at h
  swap
  · cases h
  split at h
  · cases h
    cases houtcome
  · split at h
    · cases h
      cases houtcome
    · exact of_live h
  · exact of_live h
  · exact of_live h

theorem admit_acquired (h : s.admitApplication call = .ok (t, admission))
    (houtcome : admission.outcome = .acquired) :
    ∃ lease, s.existingReceipt call = none ∧ t = s.acquired call lease ∧
      admission.fence = some (lease.fence + 1) := by
  rcases admit_inner h with ⟨-, hnot, -⟩ | ⟨inner, hinner, heq, hfence⟩
  · exact absurd houtcome hnot
  · rw [hfence]
    exact admitV1_acquired hinner (heq.symm.trans houtcome)

/-- An end for an older generation than the applied one changes no applied head. -/
theorem Authoritative.finish_outdated (hinv : Authoritative s) {call : FinishCall}
    {bound : FencedTarget} (hreceipt : s.receipts.lookup call.driverOperation = some receipt)
    (hbound : receipt.target = some bound)
    (holder : bound.generation < s.appliedGeneration workshop) :
    ((s.finish call).1.head workshop).applied = (s.head workshop).applied := by
  cases hfinish : s.finish call with
  | mk t answer =>
    cases answer with
    | false => rw [finish_false hfinish]
    | true =>
      obtain ⟨response, changed, lease, current, found, hlease, hphase, -, -, hfound,
        hfinishable, rfl⟩ := finish_spec hfinish
      cases hreceipt.symm.trans hfound
      have htarget : bound.toRouteTarget = current.target := by
        simp only [RouteReceipt.finishableBy, hbound, Bool.and_eq_true, Option.any_some,
          decide_eq_true_eq] at hfinishable
        exact hfinishable.2.1
      rcases applied_finished call changed workshop lease current receipt response with
        hsame | ⟨rfl, -⟩
      · exact hsame
      -- the lease applies the desired generation, which the applied one does not exceed
      exfalso
      obtain ⟨desired, hdesired, hcurrent⟩ := hinv.held workshop lease current
        (lookup_of_find hlease).1 hphase
      have hgeneration : bound.generation = s.desiredGeneration workshop := by
        rw [desiredGeneration, hdesired]
        exact congrArg RouteTarget.generation (htarget.trans hcurrent)
      have happlied := hinv.applied workshop
      omega

/-! ## Safety -/

/-- What the route authority guarantees in a state and from it on. -/
structure Safe (collationLe : String → String → Bool) (s : RouteState) : Prop where
  /-- One execution token passes for a workshop. -/
  token : ∀ workshop first second, s.TokenPasses workshop first →
    s.TokenPasses workshop second → first = second
  /-- The recorded acquisitions are those the admission answered, with their fences. -/
  recorded : ∀ call t admission, s.admitApplication call = .ok (t, admission) →
    admission.outcome = .acquired → ∃ fence, admission.fence = some fence ∧
      t.acquisitions = (call.workshop, fence) :: s.acquisitions
  /-- The fence of a workshop grows with each of its acquisitions. -/
  fence : s.acquisitions.Pairwise fun later earlier => later.1 = earlier.1 → earlier.2 < later.2
  /-- Generations are stored from one on without a gap. -/
  consecutive : ∀ workshop generation, (s.projections.lookup (workshop, generation)).isSome = true ↔
      1 ≤ generation ∧ generation ≤ s.desiredGeneration workshop
  /-- They are allocated one by one. -/
  allocation : ∀ event t, s.step collationLe event = some t → ∀ workshop,
    t.desiredGeneration workshop = s.desiredGeneration workshop ∨
      t.desiredGeneration workshop = s.desiredGeneration workshop + 1
  /-- The applied generation is at most the desired one. -/
  ordered : ∀ workshop, s.appliedGeneration workshop ≤ s.desiredGeneration workshop
  /-- Stored projections and quarantines stay, and no head goes back. -/
  kept : ∀ events t, Run (step collationLe) s events t → Kept s t
  /-- Once a generation was applied, no end for an older one changes the applied head. -/
  outdated : ∀ events t call receipt bound workshop, Run (step collationLe) s events t →
    t.receipts.lookup call.driverOperation = some receipt → receipt.target = some bound →
    bound.generation < s.appliedGeneration workshop →
    ((t.finish call).1.head workshop).applied = (t.head workshop).applied

/-- **Every state that the functions can reach, in any order of calls, is safe.** -/
theorem route_authority_safety (collationLe : String → String → Bool) {start s : RouteState}
    {events : List RouteEvent} (hstart : start.Initial)
    (hrun : Run (step collationLe) start events s) : s.Safe collationLe := by
  have hinv : Authoritative s := authoritative_run hrun hstart.authoritative
  exact {
    token := by
      intro workshop first second hfirst hsecond
      exact Option.some.inj (hfirst.eq.symm.trans hsecond.eq)
    recorded := by
      intro call t admission hgranted houtcome
      obtain ⟨lease, -, rfl, hfence⟩ := admit_acquired hgranted houtcome
      exact ⟨lease.fence + 1, hfence, rfl⟩
    fence := hinv.increasing
    consecutive := hinv.consecutive
    allocation := fun event t hstep workshop => (step_change hstep).desiredGeneration workshop
    ordered := hinv.applied
    kept := fun events t hlater => kept_run hlater hinv
    outdated := by
      intro later t call receipt bound workshop hlater hreceipt hbound hless
      have happlied := (kept_run hlater hinv).applied workshop
      exact (authoritative_run hlater hinv).finish_outdated hreceipt hbound
        (lt_of_lt_of_le hless happlied) }

/-! ## One acquired application -/

/-- Empty tables under the flat protocol, with the shared runtime free. -/
def emptyTables : RouteState :=
  ⟨0, ∅, .flatV1, ⟨.idle, none, 0⟩, ∅, ∅, ∅, ∅, []⟩

theorem emptyTables_initial : emptyTables.Initial where
  noProjection := rfl
  noHead := by
    intro workshop head h
    cases h
  noHolder := by
    intro workshop lease holder h
    cases h
  noTarget := by
    intro id receipt h
    cases h
  noAcquisition := rfl

/-- The first attempt of a lifecycle operation, in flight for an hour. -/
def lifecycleRow (workshop : Uuid) : OperationRow :=
  { OperationRow.enqueued .tenantLifecycle (some workshop) none none .null 0 with
    state := .inFlight ⟨"worker", seconds 3600⟩
    attempt := 1 }

def lifecycleCaller (id : Uuid) : ControlOperationLease := ⟨id, 1, "worker"⟩

/-- A digest of the form the database asks for. -/
def digestOf (c : Char) : String :=
  String.ofList ("sha256:".toList ++ List.replicate 64 c)

/-- Workshop 7 with two lifecycle operations in flight, and its tombstone as the first
desired projection. -/
def tombstoneEvents : List RouteEvent :=
  [.createWorkshop 7, .operations ((AList.singleton 1 (lifecycleRow 7)).insert 2 (lifecycleRow 7)),
    .call (.materializeTombstone ⟨lifecycleCaller 1, 7, canonicalAbsentProjection, digestOf 'a'⟩)]

/-- The first operation's application of the first projection. -/
def firstAdmission : AdmitCall where
  caller := lifecycleCaller 1
  workshop := 7
  action := .routeProject
  idempotencyKey := "key"
  requestDigest := String.ofList (List.replicate 64 'b')
  target := ⟨1, digestOf 'a'⟩
  owner := 20
  executionToken := 21
  routeLeaseToken := 22
  ttlSeconds := 60
  receiptId := 23

private def acquiredTables : RouteState :=
  (replay (step fun _ _ => true) emptyTables
    (tombstoneEvents ++ [.call (.admitApplication firstAdmission)])).getD emptyTables

/-- The guarantees after one application was acquired. -/
theorem route_authority_safety_acquired :
    acquiredTables.acquisitions = [(7, 1)] ∧ acquiredTables.executionToken 7 = some 21 ∧
      acquiredTables.Safe fun _ _ => true := by
  have hreplay : replay (step fun _ _ => true) emptyTables
      (tombstoneEvents ++ [.call (.admitApplication firstAdmission)]) = some acquiredTables := rfl
  refine ⟨by decide +kernel, by decide +kernel, ?_⟩
  exact route_authority_safety _ emptyTables_initial (run_of_replay hreplay)

end ControlPlane.Routes.RouteState
