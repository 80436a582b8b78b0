/-
# Readmission after a failed application

An application that fails before it touched a route releases its lease, so that
the desired projection can be applied by a later operation. The receipt of the
failure stays, and admission looks receipts up by their target: while the desired
head still names the failed generation, the same data is materialized to the same
target and every later admission is answered from that receipt.
-/

import ControlPlane.Routes.Fencing

namespace ControlPlane.Routes.RouteState

open Domain Driver Math Table Persistence

variable {s t : RouteState}

/-! ## Receipts after a step -/

/-- A receipt keeps its workshop and target, and does not start again. -/
structure ReceiptKept (before after : RouteReceipt) : Prop where
  workshop : after.workshop = before.workshop
  target : after.target = before.target
  running : after.state = .inProgress → before.state = .inProgress

theorem ReceiptKept.refl (receipt : RouteReceipt) : ReceiptKept receipt receipt :=
  ⟨rfl, rfl, fun h => h⟩

variable {id : Uuid} {receipt : RouteReceipt} {bound : FencedTarget} {lease : RouteLease}
  {desired : DesiredRoute} {source : MaterializeCall} {answer : Materialization} {retry : AdmitCall}

private theorem receiptKept_insert {changed : Uuid} {row next after : RouteReceipt}
    (hrow : s.receipts.lookup changed = some row) (hkept : ReceiptKept row next)
    (hafter : (s.receipts.insert changed next).lookup id = some after) :
    ∃ before, s.receipts.lookup id = some before ∧ ReceiptKept before after := by
  rcases lookup_insert_cases hafter with ⟨rfl, rfl⟩ | ⟨-, hbefore⟩
  · exact ⟨row, hrow, hkept⟩
  · exact ⟨after, hbefore, .refl after⟩

/-- A step makes no receipt, or it acquires one lease. -/
theorem Change.receipts (h : Change s t) : (∀ id after, t.receipts.lookup id = some after →
        ∃ before, s.receipts.lookup id = some before ∧ ReceiptKept before after) ∨
      ∃ call lease desired, t = s.acquired call lease ∧
        s.leases.lookup call.workshop = some lease ∧ lease.phase = .free ∧
        (s.head call.workshop).desired = some desired ∧
        call.target = desired.toRouteTarget ∧ s.existingReceipt call = none := by
  cases h with
  | quiet projections heads leases receipts acquisitions =>
    left
    intro id after hafter
    rw [receipts] at hafter
    exact ⟨after, hafter, .refl after⟩
  | seeded created | allocated stored hlease hholder hnew =>
    exact Or.inl fun id after hafter => ⟨after, hafter, .refl after⟩
  | asked caller hreceipt hended | renewed expiresAt hlease hphase hreceipt hrunning =>
    exact Or.inl fun id after => receiptKept_insert hreceipt ⟨rfl, rfl, fun h => h⟩
  | acquired hlease hphase hdesired htarget hnew hunused =>
    exact Or.inr ⟨_, _, _, rfl, hlease, hphase, hdesired, htarget, hunused⟩
  | @expired workshop lease holder hlease hphase hexpired =>
    left
    intro id after hafter
    rcases update_cases s.receipts holder.driverOperation
        (fun receipt => receipt.state = .inProgress) RouteReceipt.outcomeUnknown with
      hnone | ⟨row, hrow, -, hsome⟩
    · rw [RouteState.expired, hnone] at hafter
      exact ⟨after, hafter, .refl after⟩
    · rw [RouteState.expired, hsome] at hafter
      have hkept : ReceiptKept row row.outcomeUnknown := ⟨rfl, rfl, fun h => h⟩
      exact receiptKept_insert hrow hkept hafter
  | finished response hlease hphase hbound hfence hreceipt hfinishable =>
    simp only [RouteReceipt.finishableBy, Bool.and_eq_true, decide_eq_true_eq] at hfinishable
    exact Or.inl fun id after =>
      receiptKept_insert hreceipt ⟨rfl, rfl, fun _ => hfinishable.1.1⟩

/-- A call that no receipt answers has a target of its own. -/
theorem not_sameTarget_of_unused {call : AdmitCall} (hunused : s.existingReceipt call = none)
    (hreceipt : s.receipts.lookup id = some receipt) (hworkshop : receipt.workshop = call.workshop)
    (hbound : receipt.target = some bound) : bound.toRouteTarget ≠ call.target := by
  unfold existingReceipt at hunused
  split at hunused
  · cases hunused
  · have hfalse := not_of_find_none hunused hreceipt
    simpa [AdmitCall.sameTarget, hworkshop, hbound] using hfalse

/-! ## Invariants of receipts -/

/-- A lease speaks for a running application: it is bound to it, or in quarantine. -/
def RunsUnder (lease : RouteLease) (id : Uuid) : Prop :=
  lease.phase.driverOperation = some id ∨ ∃ other, lease.phase = .quarantined other

/-- A held lease speaks for the operation it is bound to. -/
theorem RunsUnder.eq_of_held {holder : RouteHolder} (h : RunsUnder lease id)
    (hphase : lease.phase = .held holder) : holder.driverOperation = id := by
  rcases h with hbound | ⟨other, hquarantined⟩
  · rw [hphase] at hbound
    exact Option.some.inj hbound
  · rw [hphase] at hquarantined
    cases hquarantined

/-- How receipts belong to projections and leases in every reachable state. -/
structure Accounted (s : RouteState) : Prop where
  /-- The desired head names a stored projection. -/
  desired : ∀ workshop desired, (s.head workshop).desired = some desired →
    ∃ stored, s.projections.lookup (workshop, desired.generation) = some stored ∧
      stored.digest = desired.digest
  /-- A receipt's target is a stored projection. -/
  stored : ∀ id receipt bound, s.receipts.lookup id = some receipt → receipt.target = some bound →
    ∃ stored, s.projections.lookup (receipt.workshop, bound.generation) = some stored ∧
      stored.digest = bound.digest
  /-- A workshop has one receipt for a target. -/
  unique : ∀ first second receipt other bound bound', s.receipts.lookup first = some receipt →
    s.receipts.lookup second = some other → receipt.workshop = other.workshop →
    receipt.target = some bound → other.target = some bound' →
    bound.toRouteTarget = bound'.toRouteTarget → first = second
  /-- An application that has not ended holds its workshop's lease, or left it in
  quarantine. -/
  running : ∀ id receipt bound, s.receipts.lookup id = some receipt →
    receipt.target = some bound → receipt.state = .inProgress →
    ∃ lease, s.leases.lookup receipt.workshop = some lease ∧ RunsUnder lease id

theorem Initial.accounted (h : s.Initial) : Accounted s where
  desired := by
    intro workshop desired hdesired
    rw [h.head_eq] at hdesired
    cases hdesired
  stored := by
    intro id receipt bound hreceipt hbound
    rw [h.noTarget id receipt hreceipt] at hbound
    cases hbound
  unique := by
    intro first second receipt other bound bound' hreceipt _ _ hbound
    rw [h.noTarget first receipt hreceipt] at hbound
    cases hbound
  running := by
    intro id receipt bound hreceipt hbound
    rw [h.noTarget id receipt hreceipt] at hbound
    cases hbound

section

variable (hinv : Accounted s) (h : Change s t)

include hinv h

theorem Accounted.desired_step {workshop : Uuid}
    (hdesired : (t.head workshop).desired = some desired) :
    ∃ stored, t.projections.lookup (workshop, desired.generation) = some stored ∧
      stored.digest = desired.digest := by
  have of_before : (s.head workshop).desired = some desired →
      ∃ stored, t.projections.lookup (workshop, desired.generation) = some stored ∧
        stored.digest = desired.digest := by
    intro hbefore
    obtain ⟨stored, hstored, hdigest⟩ := hinv.desired workshop desired hbefore
    exact ⟨stored, h.projection hstored, hdigest⟩
  rcases h.allocation with ⟨-, hsame⟩ | ⟨changed, stored, lease, rfl, -⟩
  · exact of_before ((hsame workshop).symm.trans hdesired)
  by_cases hworkshop : workshop = changed
  · subst workshop
    rw [head_allocated_self] at hdesired
    cases hdesired
    exact ⟨stored, AList.lookup_insert _, rfl⟩
  · rw [head_allocated_of_ne stored hworkshop] at hdesired
    exact of_before hdesired

theorem Accounted.stored_step (hreceipt : t.receipts.lookup id = some receipt)
    (hbound : receipt.target = some bound) :
    ∃ stored, t.projections.lookup (receipt.workshop, bound.generation) = some stored ∧
      stored.digest = bound.digest := by
  have of_before : ∀ before, s.receipts.lookup id = some before → ReceiptKept before receipt →
      ∃ stored, t.projections.lookup (receipt.workshop, bound.generation) = some stored ∧
        stored.digest = bound.digest := by
    intro before hbefore hkept
    obtain ⟨stored, hstored, hdigest⟩ := hinv.stored id before bound hbefore
      (hkept.target.symm.trans hbound)
    rw [hkept.workshop]
    exact ⟨stored, h.projection hstored, hdigest⟩
  rcases h.receipts with hkept | ⟨call, lease, desired, rfl, -, -, hdesired, htarget, -⟩
  · obtain ⟨before, hbefore, hrow⟩ := hkept id receipt hreceipt
    exact of_before before hbefore hrow
  rcases lookup_insert_cases hreceipt with ⟨rfl, rfl⟩ | ⟨-, hbefore⟩
  · cases hbound
    obtain ⟨stored, hstored, hdigest⟩ := hinv.desired call.workshop desired hdesired
    rw [← htarget] at hstored hdigest
    exact ⟨stored, hstored, hdigest⟩
  · exact of_before receipt hbefore (.refl receipt)

theorem Accounted.unique_step {first second : Uuid} {other : RouteReceipt} {bound' : FencedTarget}
    (hfirst : t.receipts.lookup first = some receipt)
    (hsecond : t.receipts.lookup second = some other)
    (hworkshop : receipt.workshop = other.workshop) (hbound : receipt.target = some bound)
    (hbound' : other.target = some bound') (htarget : bound.toRouteTarget = bound'.toRouteTarget) :
    first = second := by
  rcases h.receipts with hkept | ⟨call, lease, desired, rfl, -, -, -, -, hunused⟩
  · obtain ⟨before, hbefore, hrow⟩ := hkept first receipt hfirst
    obtain ⟨before', hbefore', hrow'⟩ := hkept second other hsecond
    exact hinv.unique first second before before' bound bound' hbefore hbefore'
      (by rw [← hrow.workshop, ← hrow'.workshop, hworkshop]) (hrow.target.symm.trans hbound)
      (hrow'.target.symm.trans hbound') htarget
  · rcases lookup_insert_cases hfirst with ⟨rfl, rfl⟩ | ⟨-, hbefore⟩
    · rcases lookup_insert_cases hsecond with ⟨rfl, rfl⟩ | ⟨-, hbefore'⟩
      · rfl
      · cases hbound
        exact absurd htarget.symm (not_sameTarget_of_unused hunused hbefore' hworkshop.symm hbound')
    · rcases lookup_insert_cases hsecond with ⟨rfl, rfl⟩ | ⟨-, hbefore'⟩
      · cases hbound'
        exact absurd htarget (not_sameTarget_of_unused hunused hbefore hworkshop hbound)
      · exact hinv.unique first second receipt other bound bound' hbefore hbefore' hworkshop
          hbound hbound' htarget

end

/-- The lease of an application stays bound to it while it runs. -/
theorem Change.runsUnder (h : Change s t) {workshop : Uuid} {after : RouteReceipt}
    (hafter : t.receipts.lookup id = some after) (hrunning : after.state = .inProgress)
    (hlease : s.leases.lookup workshop = some lease) (hbound : RunsUnder lease id) :
    ∃ next, t.leases.lookup workshop = some next ∧ RunsUnder next id := by
  -- only the insert of this workshop's own lease has to be looked at
  have of_insert : ∀ {changed row next}, s.leases.lookup changed = some row →
      (row = lease → RunsUnder next id) →
      ∃ found, (s.leases.insert changed next).lookup workshop = some found ∧
        RunsUnder found id := by
    intro changed row next hrow hnext
    by_cases hworkshop : workshop = changed
    · subst workshop
      rw [hlease] at hrow
      exact ⟨next, AList.lookup_insert _, hnext (Option.some.inj hrow).symm⟩
    · exact ⟨lease, by rw [AList.lookup_insert_ne hworkshop, hlease], hbound⟩
  cases h with
  | quiet projections heads leases receipts acquisitions =>
    exact ⟨lease, by rw [leases, hlease], hbound⟩
  | seeded created => exact ⟨lease, lookup_seeded hlease created, hbound⟩
  | allocated stored hrow hholder hnew | asked caller hreceipt hended =>
    exact ⟨lease, hlease, hbound⟩
  | acquired hrow hphase hdesired htarget hnew hunused =>
    apply of_insert hrow
    rintro rfl
    rcases hbound with hbound | ⟨other, hquarantined⟩
    · rw [hphase] at hbound
      cases hbound
    · rw [hphase] at hquarantined
      cases hquarantined
  | expired hrow hphase hexpired =>
    apply of_insert hrow
    rintro rfl
    exact Or.inr ⟨_, rfl⟩
  | renewed expiresAt hrow hphase hreceipt hrunning =>
    apply of_insert hrow
    rintro rfl
    have hid := hbound.eq_of_held hphase
    exact Or.inl (congrArg some hid)
  | @finished call changed row holder receipt response hrow hphase hdriver hfence hreceipt
      hfinishable =>
    apply of_insert hrow
    rintro rfl
    have hid : call.driverOperation = id := hdriver.symm.trans (hbound.eq_of_held hphase)
    subst hid
    rw [RouteState.finished, AList.lookup_insert] at hafter
    cases hafter
    cases houtcome : call.outcome with
    | succeeded | failed => simp [RouteReceipt.finished, houtcome] at hrunning
    | unknown => exact Or.inr ⟨_, rfl⟩

theorem Accounted.running_step (hinv : Accounted s) (h : Change s t)
    (hreceipt : t.receipts.lookup id = some receipt) (hbound : receipt.target = some bound)
    (hrunning : receipt.state = .inProgress) :
    ∃ lease, t.leases.lookup receipt.workshop = some lease ∧ RunsUnder lease id := by
  have of_before : ∀ before, s.receipts.lookup id = some before → ReceiptKept before receipt →
      ∃ lease, t.leases.lookup receipt.workshop = some lease ∧ RunsUnder lease id := by
    intro before hbefore hkept
    obtain ⟨lease, hlease, hunder⟩ := hinv.running id before bound hbefore
      (hkept.target.symm.trans hbound) (hkept.running hrunning)
    rw [hkept.workshop]
    exact h.runsUnder hreceipt hrunning hlease hunder
  rcases h.receipts with hkept | ⟨call, lease, desired, rfl, -⟩
  · obtain ⟨before, hbefore, hrow⟩ := hkept id receipt hreceipt
    exact of_before before hbefore hrow
  · rcases lookup_insert_cases hreceipt with ⟨rfl, rfl⟩ | ⟨-, hbefore⟩
    · exact ⟨_, AList.lookup_insert _, Or.inl rfl⟩
    · exact of_before receipt hbefore (.refl receipt)

theorem Accounted.change (hinv : Accounted s) (h : Change s t) : Accounted t where
  desired := fun _ _ hdesired => hinv.desired_step h hdesired
  stored := fun _ _ _ hreceipt hbound => hinv.stored_step h hreceipt hbound
  unique := fun _ _ _ _ _ _ hfirst hsecond hworkshop hbound hbound' htarget =>
    hinv.unique_step h hfirst hsecond hworkshop hbound hbound' htarget
  running := fun _ _ _ hreceipt hbound hrunning => hinv.running_step h hreceipt hbound hrunning

variable {collationLe : String → String → Bool}

theorem accounted_run {events : List RouteEvent}
    (hrun : Run (step collationLe) s events t) (hinv : Accounted s) : Accounted t :=
  hrun.invariant (fun _ _ _ hbefore _ hstep => hbefore.change (step_change hstep)) hinv

/-! ## The retry -/

/-- A projection was materialized, or a tombstone whose digest the present projection does not
have. -/
def Materialized (collationLe : String → String → Bool) (s : RouteState) (source : MaterializeCall)
    (t : RouteState) (answer : Materialization) : Prop :=
  s.materialize collationLe source = .ok (t, answer) ∨
    s.materializeTombstone source = .ok (t, answer) ∧
      ∀ desired, (s.head source.workshop).desired = some desired →
        desired.disposition = .present → desired.digest ≠ source.digest

theorem Materialized.change
    (h : s.Materialized collationLe source t answer) : Change s t :=
  h.elim materialize_change fun htombstone => materializeTombstone_change htombstone.1

/-- What a materialization does that names a target: it reuses the desired projection or
allocates the next one, which the desired projection's digest decides. -/
def Targets (s : RouteState) (source : MaterializeCall) (t : RouteState) (target : RouteTarget) :
    Prop :=
  (t = s ∧ ∃ desired, (s.head source.workshop).desired = some desired ∧
      desired.digest = source.digest ∧ target = desired.toRouteTarget) ∨
    ∃ stored, t = s.allocated source.workshop stored ∧ stored.digest = source.digest ∧
      target = ⟨s.desiredGeneration source.workshop + 1, source.digest⟩ ∧
      ∀ desired, (s.head source.workshop).desired = some desired → desired.digest ≠ source.digest

section

variable {target : RouteTarget} (htarget : answer.target = some target)

include htarget

theorem allocate_targets {projection : Json} {disposition : RouteDisposition}
    (hother : ∀ desired, (s.head source.workshop).desired = some desired →
      desired.digest ≠ source.digest)
    (h : s.allocate source.workshop ⟨source.digest, projection, disposition⟩ = .ok (t, answer)) :
    s.Targets source t target := by
  unfold allocate at h
  split at h
  · cases h
  · cases h
    cases htarget
    exact Or.inr ⟨_, rfl, rfl, rfl, hother⟩

theorem materialize_targets
    (h : s.materialize collationLe source = .ok (t, answer)) : s.Targets source t target := by
  unfold materialize at h
  split at h
  · cases h
  unfold materializeV1 at h
  split at h
  · cases h
    cases htarget
  split at h
  · cases h
    cases htarget
  split at h
  next desired hdesired =>
    split at h
    next hdigest =>
      split at h
      · cases h
        cases htarget
        exact Or.inl ⟨rfl, desired, hdesired, hdigest, by rw [← hdigest]⟩
      · cases h
        cases htarget
    next hdigest =>
      refine allocate_targets htarget (fun other hother => ?_) h
      cases hdesired.symm.trans hother
      exact hdigest
  next hdesired =>
    exact allocate_targets htarget (fun other hother => nomatch hdesired.symm.trans hother) h

theorem materializeTombstone_targets (h : s.materializeTombstone source = .ok (t, answer))
    (hpresent : ∀ desired, (s.head source.workshop).desired = some desired →
      desired.disposition = .present → desired.digest ≠ source.digest) :
    s.Targets source t target := by
  unfold materializeTombstone at h
  split at h
  · cases h
  split at h
  · cases h
    cases htarget
  split at h
  · cases h
  next head hhead =>
    have hcurrent : (s.head source.workshop).desired = head.desired := by
      simp [RouteState.head, hhead]
    split at h
    next absent hdesired =>
      split at h
      next hdigest =>
        cases h
        cases htarget
        exact Or.inl ⟨rfl, _, hcurrent.trans hdesired, hdigest, rfl⟩
      · cases h
        cases htarget
    next hnot =>
      refine allocate_targets htarget (fun desired hdesired => hpresent desired hdesired ?_) h
      obtain ⟨wanted, disposition⟩ := desired
      cases disposition with
      | present => rfl
      | absent => exact absurd (hcurrent.symm.trans hdesired) (hnot wanted)

theorem Materialized.targets
    (h : s.Materialized collationLe source t answer) : s.Targets source t target :=
  h.elim (materialize_targets htarget) fun htombstone =>
    materializeTombstone_targets htarget htombstone.1 htombstone.2

end

/-- What a worker's second attempt at a projection brings to the admission. Keys are the
operation's own and name their target, and the request is a function of the target. -/
structure Retry (s : RouteState) (source : MaterializeCall) (retry : AdmitCall) : Prop where
  workshop : retry.workshop = source.workshop
  caller : retry.caller = source.caller
  valid : retry.valid = true
  flat : s.mode = .flatV1
  fresh : s.receipts.lookup retry.receiptId = none
  /-- No other lease is live. -/
  free : ∃ lease, s.leases.lookup retry.workshop = some lease ∧ lease.phase = .free
  key : ∀ id receipt, s.receipts.lookup id = some receipt → retry.exactKey receipt = true →
    retry.sameTarget receipt = true ∧ receipt.controlOperation.map (·.id) = some retry.caller.id
  request : ∀ id receipt, s.receipts.lookup id = some receipt →
    retry.sameTarget receipt = true → receipt.requestDigest = retry.requestDigest

/-- Every failed generation of this data has since been replaced as the desired one. -/
def FailureSuperseded (s : RouteState) (workshop : Uuid) (digest : String) : Prop :=
  ∀ id receipt bound, s.receipts.lookup id = some receipt → receipt.workshop = workshop →
    receipt.state = .failed → receipt.target = some bound → bound.digest = digest →
    bound.generation < s.desiredGeneration workshop

theorem sameTarget_iff : retry.sameTarget receipt = true ↔ receipt.workshop = retry.workshop ∧
      ∃ bound, receipt.target = some bound ∧ bound.toRouteTarget = retry.target := by
  simp [AdmitCall.sameTarget, Option.any_eq_true]

theorem Retry.existing (h : s.Retry source retry)
    (hfound : s.existingReceipt retry = some (id, receipt)) :
    s.receipts.lookup id = some receipt ∧ retry.sameTarget receipt = true := by
  unfold existingReceipt at hfound
  split at hfound
  next found hexact =>
    cases hfound
    obtain ⟨hlookup, hkey⟩ := lookup_of_find hexact
    exact ⟨hlookup, (h.key id receipt hlookup hkey).1⟩
  · exact lookup_of_find hfound

theorem exists_existingReceipt (hlookup : s.receipts.lookup id = some receipt)
    (hsame : retry.sameTarget receipt = true) : ∃ found, s.existingReceipt retry = some found := by
  unfold existingReceipt
  cases s.receipts.find retry.exactKey with
  | some found => exact ⟨found, rfl⟩
  | none =>
    cases hfind : s.receipts.find retry.sameTarget with
    | some found => exact ⟨found, rfl⟩
    | none =>
      rw [not_of_find_none hfind hlookup] at hsame
      cases hsame

/-- With a free lease no application of the target is running. -/
theorem Retry.not_running (h : s.Retry source retry) (hinv : Accounted s)
    (hlookup : s.receipts.lookup id = some receipt) (hsame : retry.sameTarget receipt = true) :
    receipt.state ≠ .inProgress := by
  intro hrunning
  obtain ⟨lease, hlease, hphase⟩ := h.free
  obtain ⟨hworkshop, bound, hbound, -⟩ := sameTarget_iff.mp hsame
  obtain ⟨row, hrow, hunder⟩ := hinv.running id receipt bound hlookup hbound hrunning
  rw [hworkshop, hlease] at hrow
  cases hrow
  rcases hunder with hbound | ⟨other, hquarantined⟩
  · rw [hphase] at hbound
    cases hbound
  · rw [hphase] at hquarantined
    cases hquarantined

/-- The answer of a receipt to a retry is its own state. -/
theorem Retry.admitExisting (h : s.Retry source retry) {fence : Nat}
    (hlookup : s.receipts.lookup id = some receipt) (hsame : retry.sameTarget receipt = true)
    (hended : receipt.state ≠ .inProgress) :
    (s.admitExisting retry fence id receipt).2.admitted ↔ receipt.state.isSucceeded = true := by
  obtain ⟨-, bound, hbound, htarget⟩ := sameTarget_iff.mp hsame
  have hconflict : ¬ (receipt.requestDigest ≠ retry.requestDigest ∨
      (receipt.target.any fun target => decide (target.toRouteTarget ≠ retry.target)) = true ∨
      (retry.exactKey receipt = true ∧
        receipt.controlOperation.map (·.id) ≠ some retry.caller.id)) := by
    rintro (hrequest | hother | ⟨hexact, howner⟩)
    · exact hrequest (h.request id receipt hlookup hsame)
    · simp [hbound, htarget] at hother
    · exact howner (h.key id receipt hlookup hexact).2
  rw [RouteState.admitExisting, if_neg hconflict, hbound]
  cases hstate : receipt.state with
  | inProgress => exact absurd hstate hended
  | succeeded response | failed => simp [Admission.admitted, ReceiptState.isSucceeded]

/-- With a free lease and a current caller, admission is decided by the receipts. -/
theorem admit_eq {head : RouteHead} (hflat : s.mode = .flatV1) (hvalid : retry.valid = true)
    (hupstream : s.upstreamFor retry.caller retry.workshop = true) (hfleet : s.fleet.phase = .idle)
    (hhead : s.heads.lookup retry.workshop = some head)
    (hlease : s.leases.lookup retry.workshop = some lease) (hphase : lease.phase = .free) :
    s.admitApplication retry = (s.admitLive retry head lease).map fun (next, admission) =>
      (next, { admission with
        storedResponse := admission.storedResponse.map (s.withDisposition retry.workshop) }) := by
  have hinner : s.admitV1 retry = s.admitLive retry head lease := by
    unfold admitV1
    simp only [hvalid, hupstream, hfleet, hhead, hlease, hphase, Bool.true_eq_false, if_false]
  unfold admitApplication admitFlatV1
  simp only [hflat, hupstream, hlease, hphase, hinner, Bool.true_eq_false, if_false]
  cases s.admitLive retry head lease <;> rfl

/-- A retry for the desired projection is admitted unless a receipt says that it failed. -/
theorem Retry.admitted_iff (h : s.Retry source retry) (hinv : Accounted s)
    (hupstream : s.upstreamFor source.caller source.workshop = true)
    (hfleet : s.fleet.phase = .idle) (hdesired : (s.head source.workshop).desired = some desired)
    (htarget : retry.target = desired.toRouteTarget) :
    (∃ u admission, s.admitApplication retry = .ok (u, admission) ∧ admission.admitted) ↔
      ∀ id receipt, s.existingReceipt retry = some (id, receipt) →
        receipt.state.isSucceeded = true := by
  obtain ⟨lease, hlease, hphase⟩ := h.free
  rw [← h.workshop] at hupstream hdesired
  rw [← h.caller] at hupstream
  obtain ⟨head, hhead, hheadDesired⟩ : ∃ head, s.heads.lookup retry.workshop = some head ∧
      head.desired = some desired := by
    unfold RouteState.head at hdesired
    cases hhead : s.heads.lookup retry.workshop with
    | none =>
      rw [hhead] at hdesired
      cases hdesired
    | some head => exact ⟨head, rfl, by rwa [hhead] at hdesired⟩
  rw [admit_eq h.flat h.valid hupstream hfleet hhead hlease hphase]
  unfold admitLive
  cases hexisting : s.existingReceipt retry with
  | none =>
    have hnew : s.admitNew retry head lease = .ok (s.acquired retry lease,
        ⟨.acquired, some retry.receiptId, some (lease.fence + 1), none⟩) := by
      unfold admitNew
      simp only [hheadDesired, htarget, lt_irrefl, hphase, h.fresh, ne_eq, not_true_eq_false,
        if_false]
    rw [hnew]
    constructor
    · intro _ id receipt hfound
      cases hfound
    · intro _
      exact ⟨_, _, rfl, Or.inl rfl⟩
  | some found =>
    obtain ⟨id, receipt⟩ := found
    obtain ⟨hlookup, hsame⟩ := h.existing hexisting
    have hended := h.not_running hinv hlookup hsame
    have hanswer := @Retry.admitExisting s id receipt source retry h lease.fence hlookup hsame
      hended
    constructor
    · rintro ⟨u, admission, hok, hadmitted⟩ other found hfound
      cases hfound
      have houtcome : (s.admitExisting retry lease.fence id receipt).2.outcome =
          admission.outcome := congrArg (fun result => result.2.outcome) (Except.ok.inj hok)
      apply hanswer.mp
      rw [Admission.admitted, houtcome]
      exact hadmitted
    · intro hsucceeded
      exact ⟨_, _, rfl, hanswer.mpr (hsucceeded id receipt rfl)⟩

theorem Materialized.locked
    (h : s.Materialized collationLe source t answer) :
    s.lockWorkshopRouteProjection source.caller source.workshop = .ok () := by
  rcases h with h | ⟨h, -⟩
  · unfold materialize at h
    split at h
    · cases h
    · assumption
  · unfold materializeTombstone at h
    split at h
    · cases h
    · assumption

theorem Materialized.upstream
    (h : s.Materialized collationLe source t answer) :
    s.upstreamFor source.caller source.workshop = true ∧ s.fleet.phase = .idle := by
  have hlock := h.locked
  unfold lockWorkshopRouteProjection at hlock
  split at hlock
  · cases hlock
  next hupstream =>
    split at hlock
    · cases hlock
    next hfleet => exact ⟨by simpa using hupstream, not_not.mp hfleet⟩

/-- A generation of this data that failed and is still the desired one is the desired
projection itself. -/
theorem Accounted.desired_of_generation (hinv : Accounted s)
    (hreceipt : s.receipts.lookup id = some receipt) (hbound : receipt.target = some bound)
    (hgeneration : bound.generation = s.desiredGeneration receipt.workshop)
    (hpositive : 1 ≤ bound.generation) :
    ∃ desired, (s.head receipt.workshop).desired = some desired ∧
      desired.toRouteTarget = bound.toRouteTarget := by
  cases hdesired : (s.head receipt.workshop).desired with
  | none =>
    rw [desiredGeneration, hdesired] at hgeneration
    simp only [Option.map_none, Option.getD_none] at hgeneration
    omega
  | some desired =>
    obtain ⟨stored, hstored, hdigest⟩ := hinv.stored id receipt bound hreceipt hbound
    obtain ⟨current, hcurrent, hdigest'⟩ := hinv.desired receipt.workshop desired hdesired
    have heq : bound.generation = desired.generation := by
      rw [hgeneration, desiredGeneration, hdesired]
      rfl
    rw [heq, hcurrent] at hstored
    cases hstored
    refine ⟨desired, rfl, ?_⟩
    obtain ⟨⟨generation, digest⟩, disposition⟩ := desired
    obtain ⟨⟨generation', digest'⟩, fence⟩ := bound
    exact congrArg₂ RouteTarget.mk heq.symm (hdigest'.symm.trans hdigest)

/-- The generation of a receipt's target lies between one and the desired generation. -/
theorem Accounted.generation_bounds (hinv : Accounted s) (hauthority : Authoritative s)
    (hreceipt : s.receipts.lookup id = some receipt) (hbound : receipt.target = some bound) :
    1 ≤ bound.generation ∧ bound.generation ≤ s.desiredGeneration receipt.workshop := by
  obtain ⟨stored, hstored, -⟩ := hinv.stored id receipt bound hreceipt hbound
  exact (hauthority.consecutive receipt.workshop bound.generation).mp (by simp [hstored])

/-- The same data was materialized to the desired projection: a receipt that says it failed
is the one that answers. -/
theorem Retry.reused_iff (h : s.Retry source retry) (hauthority : Authoritative s)
    (hinv : Accounted s) (hdesired : (s.head source.workshop).desired = some desired)
    (hdigest : desired.digest = source.digest) (htarget : retry.target = desired.toRouteTarget) :
    (∀ id receipt, s.existingReceipt retry = some (id, receipt) →
        receipt.state.isSucceeded = true) ↔
      s.FailureSuperseded source.workshop source.digest := by
  constructor
  · intro hsucceeded id receipt bound hreceipt hworkshop hfailed hbound hdata
    obtain ⟨hpositive, hbounded⟩ := hinv.generation_bounds hauthority hreceipt hbound
    rw [← hworkshop]
    refine lt_of_le_of_ne hbounded ?_
    intro hequal
    obtain ⟨current, hcurrent, hsameTarget⟩ :=
      hinv.desired_of_generation hreceipt hbound hequal hpositive
    rw [hworkshop, hdesired] at hcurrent
    cases hcurrent
    have hsame : retry.sameTarget receipt = true := sameTarget_iff.mpr
      ⟨hworkshop.trans h.workshop.symm, bound, hbound, hsameTarget.symm.trans htarget.symm⟩
    obtain ⟨⟨found, other⟩, hfound⟩ := exists_existingReceipt hreceipt hsame
    obtain ⟨hlookup, hsame'⟩ := h.existing hfound
    obtain ⟨hworkshop', bound', hbound', htarget'⟩ := sameTarget_iff.mp hsame'
    obtain rfl := hinv.unique found id other receipt bound' bound hlookup hreceipt
      (by rw [hworkshop', hworkshop, h.workshop]) hbound' hbound
      (by rw [htarget', htarget, hsameTarget])
    rw [hlookup] at hreceipt
    cases hreceipt
    have hended := hsucceeded found receipt hfound
    rw [hfailed] at hended
    cases hended
  · intro hsuperseded id receipt hfound
    obtain ⟨hlookup, hsame⟩ := h.existing hfound
    obtain ⟨hworkshop, bound, hbound, hsameTarget⟩ := sameTarget_iff.mp hsame
    cases hstate : receipt.state with
    | inProgress => exact absurd hstate (h.not_running hinv hlookup hsame)
    | succeeded response => rfl
    | failed =>
      have htargetEq : bound.toRouteTarget = desired.toRouteTarget := hsameTarget.trans htarget
      have hless := hsuperseded id receipt bound hlookup (hworkshop.trans h.workshop) hstate
        hbound ((congrArg RouteTarget.digest htargetEq).trans hdigest)
      have hequal := congrArg RouteTarget.generation htargetEq
      rw [desiredGeneration, hdesired] at hless
      simp only [Option.map_some, Option.getD_some] at hless
      omega

/-- The data was materialized to a new generation: no receipt is of that target, and a
failure of the desired generation is one of other data. -/
theorem Retry.created_iff {stored : StoredProjection}
    (h : (s.allocated source.workshop stored).Retry source retry) (hauthority : Authoritative s)
    (hinv : Accounted s)
    (htarget : retry.target = ⟨s.desiredGeneration source.workshop + 1, source.digest⟩)
    (hother : ∀ desired, (s.head source.workshop).desired = some desired →
      desired.digest ≠ source.digest) :
    (∀ id receipt, (s.allocated source.workshop stored).existingReceipt retry =
        some (id, receipt) → receipt.state.isSucceeded = true) ↔
      s.FailureSuperseded source.workshop source.digest := by
  constructor
  · intro _ id receipt bound hreceipt hworkshop _ hbound hdata
    obtain ⟨hpositive, hbounded⟩ := hinv.generation_bounds hauthority hreceipt hbound
    rw [← hworkshop]
    refine lt_of_le_of_ne hbounded ?_
    intro hequal
    obtain ⟨current, hcurrent, hsameTarget⟩ :=
      hinv.desired_of_generation hreceipt hbound hequal hpositive
    rw [hworkshop] at hcurrent
    exact hother current hcurrent ((congrArg RouteTarget.digest hsameTarget).trans hdata)
  · intro _ id receipt hfound
    exfalso
    obtain ⟨hlookup, hsame⟩ := h.existing hfound
    obtain ⟨hworkshop, bound, hbound, hsameTarget⟩ := sameTarget_iff.mp hsame
    have hbounded := (hinv.generation_bounds hauthority hlookup hbound).2
    rw [hworkshop, h.workshop] at hbounded
    have hequal := congrArg RouteTarget.generation (hsameTarget.trans htarget)
    simp only at hequal
    omega

/-- A retry is admitted exactly when no failed generation of its data is the desired one. -/
theorem Retry.admitted_iff_superseded
    (hretry : t.Retry source retry) (hauthority : Authoritative s) (hinv : Accounted s)
    (hmaterialized : s.Materialized collationLe source t answer)
    (htarget : answer.target = some retry.target) :
    (∃ u admission, t.admitApplication retry = .ok (u, admission) ∧ admission.admitted) ↔
      s.FailureSuperseded source.workshop source.digest := by
  obtain ⟨hupstream, hfleet⟩ := hmaterialized.upstream
  have haccounted : Accounted t := hinv.change hmaterialized.change
  rcases hmaterialized.targets htarget with
    ⟨rfl, desired, hdesired, hdigest, hreused⟩ | ⟨stored, rfl, hstored, hcreated, hother⟩
  · rw [hretry.admitted_iff haccounted hupstream hfleet hdesired hreused]
    exact hretry.reused_iff hauthority hinv hdesired hdigest hreused
  · have hhead : ((s.allocated source.workshop stored).head source.workshop).desired = some
        ⟨⟨s.desiredGeneration source.workshop + 1, stored.digest⟩, stored.disposition⟩ := by
      rw [head_allocated_self]
    rw [hretry.admitted_iff haccounted hupstream hfleet hhead (by rw [hcreated, hstored])]
    exact hretry.created_iff hauthority hinv hcreated hother

/-- An application of a stored projection ended before it had an effect. -/
structure FailedApplication (before failed : RouteState) (failure : FinishCall)
    (receipt : RouteReceipt) (bound : FencedTarget) (stored : StoredProjection) : Prop where
  ended : before.finish failure = (failed, true)
  outcome : failure.outcome = .failed
  recorded : before.receipts.lookup failure.driverOperation = some receipt
  targeted : receipt.target = some bound
  projection : before.projections.lookup (receipt.workshop, bound.generation) = some stored

private def shopProjection (hostname : String) : Json :=
  .object [("custom_hostnames", .array []),
    ("database_id", .string "11111111-2222-4333-8444-555555555555"),
    ("database_ref", .string "mb_11111111222243338444555555555555"),
    ("paperless_hostname", .null), ("paperless_mode", .string "absent"),
    ("public_hostname", .string hostname)]

/-- The projection of workshop 7 as the operation reads it. -/
private def shopSource (operation : Uuid) : MaterializeCall :=
  ⟨lifecycleCaller operation, 7, shopProjection "shop.example", digestOf 'a'⟩

/-- The first operation's application lost its operation lease before any effect. -/
private def leaseLost : FinishCall where
  driverOperation := 23
  owner := 20
  executionToken := 21
  routeLeaseToken := 22
  fence := 1
  outcome := .failed
  response := none
  renderedDigest := none
  safeError := some "control_operation_lease_lost"

private def appliedEvents : List RouteEvent :=
  [.createWorkshop 7, .operations ((AList.singleton 1 (lifecycleRow 7)).insert 2 (lifecycleRow 7)),
    .call (.materialize (shopSource 1)), .call (.admitApplication firstAdmission)]

private def runningReceipt : RouteReceipt where
  workshop := 7
  action := .routeProject
  idempotencyKey := "key"
  requestDigest := String.ofList (List.replicate 64 'b')
  state := .inProgress
  safeError := none
  controlOperation := some (lifecycleCaller 1)
  execution := some ⟨21, seconds 60⟩
  target := some ⟨⟨1, digestOf 'a'⟩, 1⟩

/-- The tables of workshop 7 with one receipt. -/
private def shopTables (projections : Table (Uuid × Nat) StoredProjection)
    (desired : RouteTarget) (phase : RoutePhase) (receipt : RouteReceipt) : RouteState where
  now := 0
  operations := (AList.singleton 1 (lifecycleRow 7)).insert 2 (lifecycleRow 7)
  mode := .flatV1
  fleet := ⟨.idle, none, 0⟩
  projections := projections
  heads := AList.singleton 7 ⟨some ⟨desired, .present⟩, none⟩
  leases := AList.singleton 7 ⟨1, false, phase⟩
  receipts := AList.singleton 23 receipt
  acquisitions := [(7, 1)]

private def shopStored (hostname : String) (c : Char) : StoredProjection :=
  ⟨digestOf c, shopProjection hostname, .present⟩

/-- The first operation applies the first projection. -/
private def appliedTables : RouteState :=
  shopTables (AList.singleton (7, 1) (shopStored "shop.example" 'a')) ⟨1, digestOf 'a'⟩
    (.held ⟨23, ⟨1, digestOf 'a'⟩, 20, 22, seconds 60⟩) runningReceipt

/-- Its application failed. -/
private def failedTables : RouteState :=
  shopTables (AList.singleton (7, 1) (shopStored "shop.example" 'a')) ⟨1, digestOf 'a'⟩ .free
    (runningReceipt.finished leaseLost none)

private theorem applied_run : Run (step fun first second => decide (first ≤ second)) emptyTables
    appliedEvents appliedTables :=
  run_of_replay rfl

private theorem failed_finish : appliedTables.finish leaseLost = (failedTables, true) := rfl

/-- The second operation's application of the same projection, under its own key. -/
private def secondAdmission (generation : Nat) : AdmitCall where
  caller := lifecycleCaller 2
  workshop := 7
  action := .routeProject
  idempotencyKey := "second"
  requestDigest := String.ofList (List.replicate 64 'b')
  target := ⟨generation, digestOf 'a'⟩
  owner := 30
  executionToken := 31
  routeLeaseToken := 32
  ttlSeconds := 60
  receiptId := 33

/-- Other data became the desired projection after the failure. -/
private def supersededTables : RouteState :=
  shopTables ((AList.singleton (7, 1) (shopStored "shop.example" 'a')).insert (7, 2)
      (shopStored "other.example" 'c')) ⟨2, digestOf 'c'⟩ .free
    (runningReceipt.finished leaseLost none)

/-- The first data is desired again, as a generation of its own. -/
private def restoredTables : RouteState :=
  shopTables (((AList.singleton (7, 1) (shopStored "shop.example" 'a')).insert (7, 2)
      (shopStored "other.example" 'c')).insert (7, 3) (shopStored "shop.example" 'a'))
    ⟨3, digestOf 'a'⟩ .free (runningReceipt.finished leaseLost none)

private theorem superseded_run : Run (step fun first second => decide (first ≤ second)) failedTables
    [.call (.materialize ⟨lifecycleCaller 1, 7, shopProjection "other.example", digestOf 'c'⟩)]
    supersededTables :=
  .single trivial rfl

private theorem restored_materialize : supersededTables.materialize
    (fun first second => decide (first ≤ second)) (shopSource 2) = .ok (restoredTables,
      .created ⟨3, digestOf 'a'⟩ (shopProjection "shop.example")) := rfl

private theorem receipt_of_lookup {found : RouteReceipt}
    (h : (AList.singleton 23 receipt : Table Uuid RouteReceipt).lookup id = some found) :
    found = receipt := by
  have hinsert : ((∅ : Table Uuid RouteReceipt).insert 23 receipt).lookup id = some found := h
  rcases lookup_insert_cases hinsert with ⟨-, hreceipt⟩ | ⟨-, hnone⟩
  · exact hreceipt
  · cases hnone

private theorem restored_retry : restoredTables.Retry (shopSource 2) (secondAdmission 3) where
  workshop := rfl
  caller := rfl
  valid := by decide +kernel
  flat := rfl
  fresh := rfl
  free := ⟨⟨1, false, .free⟩, rfl, rfl⟩
  key := by
    intro id receipt hlookup hexact
    rw [receipt_of_lookup hlookup] at hexact
    exact absurd hexact (by decide)
  request := by
    intro id receipt hlookup _
    rw [receipt_of_lookup hlookup]
    rfl

/-- How a receipt stands among the others: its target is a stored projection, no other receipt
is of that target, and while it runs no other application of the workshop does, unless the
lease is in quarantine. -/
structure AppliesAlone (s : RouteState) (id : Uuid) (receipt : RouteReceipt)
    (bound : FencedTarget) : Prop where
  stored : ∃ stored, s.projections.lookup (receipt.workshop, bound.generation) = some stored ∧
    stored.digest = bound.digest
  once : ∀ other found bound', s.receipts.lookup other = some found →
    found.workshop = receipt.workshop → found.target = some bound' →
    bound'.toRouteTarget = bound.toRouteTarget → other = id
  alone : receipt.state = .inProgress → ∀ other found bound', s.receipts.lookup other = some found →
    found.workshop = receipt.workshop → found.target = some bound' → found.state = .inProgress →
    other = id ∨ ∃ lease quarantine, s.leases.lookup receipt.workshop = some lease ∧
      lease.phase = .quarantined quarantine

/-- In every history the applications of a workshop follow each other. -/
theorem applies_alone {start : RouteState}
    {events : List RouteEvent} {id : Uuid} {receipt : RouteReceipt} {bound : FencedTarget}
    (hstart : start.Initial) (hrun : Run (step collationLe) start events s)
    (hreceipt : s.receipts.lookup id = some receipt) (hbound : receipt.target = some bound) :
    AppliesAlone s id receipt bound := by
  have hinv : Accounted s := accounted_run hrun hstart.accounted
  refine ⟨hinv.stored id receipt bound hreceipt hbound, ?_, ?_⟩
  · intro other found bound' hfound hworkshop hbound' htarget
    exact hinv.unique other id found receipt bound' bound hfound hreceipt hworkshop hbound' hbound
      htarget
  · intro hruns other found bound' hfound hworkshop hbound' hruns'
    obtain ⟨lease, hlease, hunder⟩ := hinv.running id receipt bound hreceipt hbound hruns
    obtain ⟨lease', hlease', hunder'⟩ := hinv.running other found bound' hfound hbound' hruns'
    rw [hworkshop, hlease] at hlease'
    cases hlease'
    rcases hunder, hunder' with ⟨hid | ⟨quarantine, hphase⟩, hother | ⟨quarantine', hphase'⟩⟩
    · exact Or.inl (Option.some.inj (hother.symm.trans hid))
    all_goals exact Or.inr ⟨lease, _, hlease, by assumption⟩

/-- The second operation applies the first data again. -/
private def readmittedEvents : List RouteEvent :=
  appliedEvents ++ [.call (.finish leaseLost),
    .call (.materialize ⟨lifecycleCaller 1, 7, shopProjection "other.example", digestOf 'c'⟩),
    .call (.materialize (shopSource 2)), .call (.admitApplication (secondAdmission 3))]

theorem applies_alone_running : ∃ t ended running,
    Run (step fun first second => decide (first ≤ second)) emptyTables readmittedEvents t ∧
      t.receipts.lookup 23 = some ended ∧ ended.state = .failed ∧
      AppliesAlone t 23 ended ⟨⟨1, digestOf 'a'⟩, 1⟩ ∧
      t.receipts.lookup 33 = some running ∧ running.state = .inProgress ∧
      AppliesAlone t 33 running ⟨⟨3, digestOf 'a'⟩, 2⟩ := by
  have hrun : Run (step fun first second => decide (first ≤ second)) emptyTables
      readmittedEvents _ :=
    applied_run.append (.cons trivial (congrArg (some ∘ Prod.fst) failed_finish)
      (superseded_run.append (.cons trivial
        (congrArg (some ∘ committed supersededTables) restored_materialize)
        (.single trivial rfl))))
  exact ⟨_, _, _, hrun, rfl, rfl, applies_alone emptyTables_initial hrun rfl rfl, rfl, rfl,
    applies_alone emptyTables_initial hrun rfl rfl⟩

end ControlPlane.Routes.RouteState
