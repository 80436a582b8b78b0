/-
# Safety of the recovery of publications

Claims follow each other by their fences, observations and ends are written once, and the
quarantine of an interrupted publication is lifted only by the decision that ends it. The
original driver and any number of claimants may call at any time.
-/

import ControlPlane.Publications.Decisions

namespace ControlPlane.Publications

open Domain Driver Math Table Persistence
open Routes

namespace PublicationState

variable {env : DatabaseEnvironment} {s t u : PublicationState} {id : Uuid}
  {publication after : Publication}

/-! ## Rows over whole histories -/

theorem Effect.later (h : Effect env s t) (hrow : s.publications.lookup id = some publication) :
    ∃ after, t.publications.lookup id = some after ∧ Later publication after := by
  refine h.induction (P := fun s => ∃ after, s.publications.lookup id = some after ∧
    Later publication after) ?_ ⟨publication, hrow, .refl _⟩
  rintro before next hmove ⟨middle, hmiddle, hlater⟩
  obtain ⟨after, hafter, hrow⟩ := hmove.row hmiddle
  exact ⟨after, hafter, hlater.trans hrow.later⟩

theorem later_of_run {events : List PublicationEvent} (hinv : Inv env s)
    (hrun : Run (step env) s events t) (hrow : s.publications.lookup id = some publication) :
    ∃ after, t.publications.lookup id = some after ∧ Later publication after := by
  refine (hrun.invariant (P := fun s => Inv env s ∧ ∃ after,
    s.publications.lookup id = some after ∧ Later publication after) ?_
      ⟨hinv, publication, hrow, .refl _⟩).2
  rintro before event next ⟨hinv, middle, hmiddle, hlater⟩ - hstep
  obtain ⟨after, hafter, hrow⟩ := (step_effect hinv.onlyProjections hstep).later hmiddle
  exact ⟨step_inv hstep hinv, after, hafter, hlater.trans hrow⟩

/-! ## The end of a publication -/

/-- A decision ended this publication in this step. -/
def Ended (s t : PublicationState) (id : Uuid) : Prop :=
  ∃ publication after, s.publications.lookup id = some publication ∧
    publication.terminal = none ∧ t.publications.lookup id = some after ∧
    after.terminal.isSome = true

/-- What the end of a publication does to the heads and to its receipt. -/
inductive EndEffect (s t : PublicationState) (publication : Publication) :
    ResolutionKind → Prop
  | applied {record : PublicationRecord} {driverOperation : Uuid} {receipt : RouteReceipt}
      {response : AppliedResponse} (target : publication.targetRecord = some record)
      (subject : publication.identity.subject = .projection driverOperation)
      (head : t.heads.lookup publication.identity.workshop = some ⟨some publication.identity.route,
          some (publication.identity.appliedHead record.renderedDigest)⟩)
      (others : ∀ workshop, workshop ≠ publication.identity.workshop →
        t.heads.lookup workshop = s.heads.lookup workshop)
      (receiptRow : t.receipts.lookup driverOperation = some receipt)
      (succeeded : receipt.state = .succeeded response.toJson) :
      EndEffect s t publication .candidate
  | notApplied {kind : ResolutionKind} {driverOperation : Uuid} {receipt : RouteReceipt}
      (notCandidate : kind = .prior ∨ kind = .unstarted)
      (subject : publication.identity.subject = .projection driverOperation)
      (heads : t.heads = s.heads)
      (receiptRow : t.receipts.lookup driverOperation = some receipt)
      (failed : receipt.state = .failed) :
      EndEffect s t publication kind

variable {call : RecoveryFinishCall} {driverOperation : Uuid} {identity : PublicationIdentity}
  {terminal : Stamped Terminal} {lease : PublicationLease}

variable {kind : ResolutionKind} {owner workshop : Uuid}

theorem Decided.receipt (h : s.Decided env call kind publication driverOperation) :
    ∃ receipt, s.receipts.lookup driverOperation = some receipt := by
  have hconsistent := h.consistent
  simp only [quarantineConsistent, Bool.and_eq_true] at hconsistent
  obtain ⟨receipt, hreceipt, -⟩ := (Option.any_eq_true _ _).mp hconsistent.2
  exact ⟨receipt, hreceipt⟩

theorem head_of_frozen (h : (s.heads.lookup identity.workshop).any (headFrozen identity) = true) :
    s.heads.lookup identity.workshop = some ⟨some identity.route, some identity.prior⟩ := by
  obtain ⟨⟨desired, applied⟩, hhead, hfrozen⟩ := (Option.any_eq_true _ _).mp h
  simp only [headFrozen, Bool.and_eq_true, decide_eq_true_eq] at hfrozen
  rw [hhead, hfrozen.1, hfrozen.2]

theorem heads_appliedTables (driverOperation : Uuid) (response : AppliedResponse)
    (hfrozen : (s.heads.lookup identity.workshop).any (headFrozen identity) = true) :
    (s.appliedTables identity driverOperation response).heads.lookup identity.workshop =
        some ⟨some identity.route, some (identity.appliedHead response.route.renderedDigest)⟩ ∧
      ∀ workshop, workshop ≠ identity.workshop →
        (s.appliedTables identity driverOperation response).heads.lookup workshop =
          s.heads.lookup workshop := by
  constructor
  · show (s.heads.modify identity.workshop _).lookup identity.workshop = _
    rw [lookup_modify_self, head_of_frozen hfrozen]
    rfl
  · intro workshop hother
    exact lookup_modify_of_ne hother

theorem receipt_appliedTables (identity : PublicationIdentity) (response : AppliedResponse)
    {receipt : RouteReceipt} (h : s.receipts.lookup driverOperation = some receipt) :
    (s.appliedTables identity driverOperation response).receipts.lookup driverOperation =
      some (succeededReceipt response receipt) :=
  lookup_modify_self.trans (by rw [h]; rfl)

theorem receipt_releasedTables (workshop : Uuid) {receipt : RouteReceipt}
    (h : s.receipts.lookup driverOperation = some receipt) :
    (s.releasedTables workshop driverOperation).receipts.lookup driverOperation =
      some (notAppliedReceipt receipt) :=
  lookup_modify_self.trans (by rw [h]; rfl)

/-- Only a decision ends a publication, and it does to the tables what it decided. -/
theorem Move.ends (h : Move env s t) (hrow : s.publications.lookup id = some publication)
    (hunended : publication.terminal = none) (hafter : t.publications.lookup id = some after)
    (hended : after.terminal = some terminal) : EndEffect s t publication terminal.value.kind := by
  have hkept : ∀ {u : PublicationState} {key : Uuid} {old new : Publication},
      u.publications = s.publications → s.publications.lookup key = some old →
      new.terminal = old.terminal →
      (u.withPublication key new).publications.lookup id ≠ some after := by
    intro u key old new hu hold hterminal hlookup
    rcases lookup_insert_cases hlookup with ⟨rfl, rfl⟩ | ⟨-, hsame⟩
    · rw [hrow] at hold
      cases hold
      rw [hterminal, hunended] at hended
      cases hended
    · rw [hu, hrow] at hsame
      cases hsame
      rw [hunended] at hended
      cases hended
  have hsame : s.publications.lookup id ≠ some after := by
    rw [hrow]
    rintro ⟨⟩
    rw [hunended] at hended
    cases hended
  have hdecision : ∀ {u : PublicationState} {key : Uuid} {old : Publication}
      {written : Stamped Terminal},
      u.publications = s.publications → s.publications.lookup key = some old →
      (u.withPublication key { old with terminal := some written }).publications.lookup id =
        some after → publication = old ∧ terminal = written := by
    intro u key old written hu hold hlookup
    rcases lookup_insert_cases hlookup with ⟨rfl, rfl⟩ | ⟨-, hother⟩
    · rw [hrow] at hold
      cases hold
      exact ⟨rfl, (Option.some.inj hended).symm⟩
    · rw [hu] at hother
      exact absurd hother hsame
  cases h with
  | queue _ | desired _ _ | renewed _ _ => exact absurd hafter hsame
  | admitted hadmissible =>
    rcases lookup_insert_cases hafter with ⟨rfl, -⟩ | ⟨-, hother⟩
    · rw [hadmissible.publicationFree] at hrow
      cases hrow
    · exact absurd hother hsame
  | gained hauthorized _ _ | recorded hauthorized _ _ _ _ =>
    exact absurd hafter (hkept rfl (authorized_cases hauthorized).1 rfl)
  | quarantined hlive hchange =>
    refine absurd hafter (hkept rfl hlive.row ?_)
    rcases hchange with rfl | rfl <;> rfl
  | claimed hold _ _ => exact absurd hafter (hkept rfl hold rfl)
  | claimRenewed hlocked | resolved hlocked _ =>
    exact absurd hafter (hkept rfl (lockClaim_cases hlocked).1 rfl)
  | completed hlive _ _ _ => exact absurd hafter (hkept rfl hlive.row rfl)
  | @recovered call _ driverOperation sealing record hdecided _ htarget hfrozen =>
    obtain ⟨rfl, rfl⟩ := hdecision rfl hdecided.row hafter
    obtain ⟨receipt, hreceipt⟩ := hdecided.receipt
    obtain ⟨hhead, hothers⟩ := heads_appliedTables driverOperation
      (appliedResponse call.publication publication.identity sealing record.renderedDigest)
      hfrozen
    exact .applied htarget hdecided.subject hhead hothers
      (receipt_appliedTables publication.identity _ hreceipt) rfl
  | released hdecided hnotApplied =>
    obtain ⟨rfl, rfl⟩ := hdecision rfl hdecided.row hafter
    obtain ⟨receipt, hreceipt⟩ := hdecided.receipt
    exact .notApplied hnotApplied hdecided.subject rfl
      (receipt_releasedTables publication.identity.workshop hreceipt) rfl

/-! ## Quarantines -/

theorem not_quarantined_of_held (h : (s.fleetHeldUntil lease).isSome = true)
    (authority : GlobalAuthority) (owner : Uuid) :
    s.fleet.phase ≠ .quarantined authority owner := by
  obtain ⟨expiresAt, hexpires⟩ := Option.isSome_iff_exists.mp h
  rw [fleetHeldUntil_eq_some_iff.mp hexpires]
  nofun

/-- The fleet's quarantine is lifted only by the end of the publication. -/
theorem Effect.fleet_quarantine (h : Effect env s t)
    (hphase : s.fleet.phase = .quarantined (.routeSetPublication id) owner) :
    t.fleet = s.fleet ∨ Ended s t id := by
  have hnames : s.fleet.phase.publication = some id := by rw [hphase]; rfl
  cases h with
  | unchanged => exact Or.inl rfl
  | claimedLive hlive _ => exact absurd hphase (not_quarantined_of_held hlive.fleet _ _)
  | moved hmove =>
    cases hmove with
    | queue _ | desired _ _ | gained _ _ _ | recorded _ _ _ _ _ | claimed _ _ _
    | claimRenewed _ | resolved _ _ => exact Or.inl rfl
    | admitted hadmissible =>
      rw [hadmissible.idle] at hphase
      cases hphase
    | renewed hauthorized _ =>
      obtain ⟨-, -, -, hfleet, -⟩ := authorized_cases hauthorized
      exact absurd hphase (not_quarantined_of_held hfleet _ _)
    | quarantined hlive _ | completed hlive _ _ _ =>
      exact absurd hphase (not_quarantined_of_held hlive.fleet _ _)
    | recovered hdecided _ _ _ | released hdecided _ =>
      obtain rfl : _ = id := Option.some.inj (hdecided.names.symm.trans hnames)
      exact Or.inr ⟨_, _, hdecided.row, hdecided.unended, AList.lookup_insert _, rfl⟩

theorem lookup_leases_modify {target : Uuid} {lease : AuthorityLease}
    {change : AuthorityLease → AuthorityLease} (hrow : s.leases.lookup workshop = some lease)
    (hother : workshop ≠ target) : (s.leases.modify target change).lookup workshop = some lease :=
  (lookup_modify_of_ne hother).trans hrow

theorem phase_of_routeHeldUntil (h : (s.routeHeldUntil identity lease).isSome = true) :
    ∃ row authority target owner token expiresAt, s.leases.lookup identity.workshop = some row ∧
        row.phase = .held authority target owner token expiresAt := by
  obtain ⟨expiresAt, hexpires⟩ := Option.isSome_iff_exists.mp h
  obtain ⟨row, hrow, -, hphase⟩ := routeHeldUntil_eq_some_iff.mp hexpires
  exact ⟨row, _, _, _, _, _, hrow, hphase⟩

/-- A route's quarantine is lifted only by the end of the publication. -/
theorem Effect.route_quarantine (h : Effect env s t) {lease : AuthorityLease}
    {target : Option RouteTarget} {safeError : String}
    (hrow : s.leases.lookup workshop = some lease)
    (hphase : lease.phase = .quarantined (.routeSetPublication id) target owner safeError) :
    t.leases.lookup workshop = some lease ∨ Ended s t id := by
  have hheld : ∀ {identity : PublicationIdentity} {presented : PublicationLease},
      (s.routeHeldUntil identity presented).isSome = true → workshop ≠ identity.workshop := by
    rintro identity presented hroute rfl
    obtain ⟨row, _, _, _, _, _, hlookup, hother⟩ := phase_of_routeHeldUntil hroute
    rw [hrow] at hlookup
    cases hlookup
    rw [hphase] at hother
    cases hother
  have hdecided : ∀ {call : RecoveryFinishCall} {kind : ResolutionKind}
      {publication : Publication} {driverOperation : Uuid},
      s.Decided env call kind publication driverOperation →
      workshop = publication.identity.workshop → call.publication = id := by
    rintro call kind publication driverOperation hdecided rfl
    have hconsistent := hdecided.consistent
    simp only [quarantineConsistent, routeQuarantinedFor, Bool.and_eq_true] at hconsistent
    obtain ⟨row, hlookup, hother⟩ := (Option.any_eq_true _ _).mp hconsistent.1.2
    rw [hrow] at hlookup
    cases hlookup
    simp only [Bool.and_eq_true, decide_eq_true_eq] at hother
    have hsame := hphase.symm.trans hother.2
    cases hsame
    rfl
  cases h with
  | unchanged => exact Or.inl hrow
  | claimedLive hlive _ => exact Or.inl (lookup_leases_modify hrow (hheld hlive.route))
  | moved hmove =>
    cases hmove with
    | queue _ | desired _ _ | gained _ _ _ | recorded _ _ _ _ _ | claimed _ _ _
    | claimRenewed _ | resolved _ _ => exact Or.inl hrow
    | @admitted call _ _ idleLease hadmissible =>
      have hother : workshop ≠ call.workshop := by
        rintro rfl
        have hlookup := hadmissible.leaseRow
        rw [hrow] at hlookup
        cases hlookup
        rw [hadmissible.leaseIdle] at hphase
        cases hphase
      exact Or.inl ((AList.lookup_insert_ne hother).trans hrow)
    | renewed hauthorized _ =>
      obtain ⟨-, -, -, -, hroute, -⟩ := authorized_cases hauthorized
      exact Or.inl (lookup_leases_modify hrow (hheld hroute))
    | quarantined hlive _ | completed hlive _ _ _ =>
      exact Or.inl (lookup_leases_modify hrow (hheld hlive.route))
    | @recovered call publication _ _ _ hdecision _ _ _
    | @released call publication _ _ hdecision _ =>
      by_cases hworkshop : workshop = publication.identity.workshop
      · obtain rfl := hdecided hdecision hworkshop
        exact Or.inr ⟨_, _, hdecision.row, hdecision.unended, AList.lookup_insert _, rfl⟩
      · exact Or.inl (lookup_leases_modify hrow hworkshop)

/-! ## Claimants -/

theorem lockClaim_unique {first second : ClaimHolder}
    (hsame : first.publication = second.publication) (hfirst : (s.lockClaim first).isSome = true)
    (hsecond : (s.lockClaim second).isSome = true) : first = second := by
  obtain ⟨⟨row, claim⟩, hlocked⟩ := Option.isSome_iff_exists.mp hfirst
  obtain ⟨⟨row', claim'⟩, hlocked'⟩ := Option.isSome_iff_exists.mp hsecond
  obtain ⟨hrow, hclaim, -, howner, htoken, hfence⟩ := lockClaim_cases hlocked
  obtain ⟨hrow', hclaim', -, howner', htoken', hfence'⟩ := lockClaim_cases hlocked'
  rw [hsame, hrow'] at hrow
  cases hrow
  rw [hclaim'] at hclaim
  cases hclaim
  obtain ⟨publication, owner, token, fence⟩ := first
  obtain ⟨publication', owner', token', fence'⟩ := second
  simp_all

theorem step_renewClaim_of_lost {holder : ClaimHolder} (h : s.lockClaim holder = none)
    (ttlSeconds : Nat) : step env s (.renewClaim holder ttlSeconds) = some s := by
  simp only [step, renewClaim, h]
  split <;> rfl

theorem step_resolve_of_lost {call : ResolveCall} (h : s.lockClaim call.holder = none) :
    step env s (.resolve call) = some s := by
  simp only [step, resolveObservation, h]
  split <;> rfl

/-! ## Decisions about an ended publication -/

theorem finishRecovery_of_ended (env : DatabaseEnvironment)
    (hrow : s.publications.lookup call.publication = some publication)
    (hended : publication.terminal = some terminal) :
    ∃ row, finishRouteSetPublicationRecoveryProjectionV1 env s call = .ok (s, row) ∧
      (validDecision call = true → repeatsTerminal env call publication terminal.value = true →
        row = ⟨.replay, some terminal.value.response⟩) := by
  unfold finishRouteSetPublicationRecoveryProjectionV1
  simp only [hrow, hended]
  split
  case isTrue hinvalid =>
    refine ⟨_, rfl, fun hvalid => ?_⟩
    rw [hinvalid] at hvalid
    cases hvalid
  case isFalse =>
    split
    case isTrue => exact ⟨_, rfl, fun _ _ => rfl⟩
    case isFalse hdiffers => exact ⟨_, rfl, fun _ hrepeats => absurd hrepeats hdiffers⟩

/-- The decision that ended a publication repeats its end in every later row. -/
theorem repeatsTerminal_of_decided {applied : Option AppliedResponse}
    (hdecided : s.Decided env call kind publication driverOperation)
    (hlater : ∀ fence resolution, publication.resolutions.lookup fence = some resolution →
      after.resolutions.lookup fence = some resolution) :
    repeatsTerminal env call after (terminalFor call kind publication.identity applied) = true := by
  obtain ⟨resolution, hresolution, hdecides⟩ := hdecided.observation
  simp only [decides, Bool.and_eq_true] at hdecides
  obtain ⟨⟨⟨⟨⟨-, hauthenticates⟩, -⟩, -⟩, -⟩, -⟩ := hdecides
  simp [repeatsTerminal, hlater _ _ hresolution, hauthenticates, terminalFor, hdecided.named]

/-! ## Safety -/

/-- What holds in a state: at most one claimant, the others change nothing, only
publications that never started are written to, and ended ones stay as they are. -/
structure RecoverySafe (env : DatabaseEnvironment) (s : PublicationState) : Prop where
  oneClaimant : ∀ first second : ClaimHolder, first.publication = second.publication →
    (s.lockClaim first).isSome = true → (s.lockClaim second).isSome = true → first = second
  othersRefused : ∀ holder, s.lockClaim holder = none →
    (∀ ttlSeconds, step env s (.renewClaim holder ttlSeconds) = some s) ∧
      ∀ call : ResolveCall, call.holder = holder → step env s (.resolve call) = some s
  writing : ∀ id publication claim, s.publications.lookup id = some publication →
    publication.claim = some claim → claim.mode = .writeCleanup →
    publication.status.progress.startedAt = none ∧
      ∀ events t, Run (step env) s events t → ∃ after, t.publications.lookup id = some after ∧
        after.status.progress.startedAt = none
  nextFence : ∀ (call : ClaimCall) publication t fence mode rest,
    s.publications.lookup call.publication = some publication →
    s.claimInterruptedRouteSetPublication (.complete call) =
      .ok (t, ⟨.acquired, fence, mode⟩ :: rest) →
    fence = some (publication.claimFence + 1) ∧
      ∃ after, t.publications.lookup call.publication = some after ∧
        after.claimFence = publication.claimFence + 1
  ended : ∀ (call : RecoveryFinishCall) publication,
    s.publications.lookup call.publication = some publication →
    publication.terminal.isSome = true → step env s (.finishRecovery call) = some s
  repeated : ∀ (call : RecoveryFinishCall) t response,
    finishRouteSetPublicationRecovery env s (.complete call) = .ok (t, [⟨.completed, response⟩]) →
    ∀ events u, Run (step env) t events u →
      finishRouteSetPublicationRecovery env u (.complete call) = .ok (u, [⟨.replay, response⟩])

/-- What one step does: rows keep their fences, observations and ends, quarantines are
lifted only by the end of their publication, and an end does what was decided. -/
structure RecoveryStepSafe (s t : PublicationState) : Prop where
  rows : ∀ id publication, s.publications.lookup id = some publication →
    ∃ after, t.publications.lookup id = some after ∧ Later publication after
  fleet : ∀ id owner, s.fleet.phase = .quarantined (.routeSetPublication id) owner →
    t.fleet = s.fleet ∨ Ended s t id
  route : ∀ id workshop lease target owner safeError, s.leases.lookup workshop = some lease →
    lease.phase = .quarantined (.routeSetPublication id) target owner safeError →
    t.leases.lookup workshop = some lease ∨ Ended s t id
  ends : ∀ id publication after terminal, s.publications.lookup id = some publication →
    publication.terminal = none → t.publications.lookup id = some after →
    after.terminal = some terminal → EndEffect s t publication terminal.value.kind

theorem Effect.ends (h : Effect env s t) (hrow : s.publications.lookup id = some publication)
    (hunended : publication.terminal = none) (hafter : t.publications.lookup id = some after)
    (hended : after.terminal = some terminal) : EndEffect s t publication terminal.value.kind := by
  cases h with
  | unchanged =>
    rw [hrow] at hafter
    cases hafter
    rw [hunended] at hended
    cases hended
  | moved hmove => exact hmove.ends hrow hunended hafter hended
  | @claimedLive call live _ _ _ hlive _ =>
    -- Neither the quarantine nor the claim writes an end.
    have hterminal : after.terminal = publication.terminal := by
      rcases lookup_insert_twice hafter with ⟨rfl, rfl⟩ | ⟨-, hold⟩
      · cases hrow.symm.trans hlive.row
        rfl
      · cases hrow.symm.trans hold
        rfl
    rw [hterminal, hunended] at hended
    cases hended

theorem Inv.recoverySafe (h : Inv env s) : RecoverySafe env s where
  oneClaimant _ _ hsame hfirst hsecond := lockClaim_unique hsame hfirst hsecond
  othersRefused holder hlost := by
    refine ⟨step_renewClaim_of_lost hlost, ?_⟩
    rintro call rfl
    exact step_resolve_of_lost hlost
  writing id publication claim hrow hclaim hmode := by
    have hnone := (h.claims id publication hrow).writing claim hclaim hmode
    refine ⟨hnone, fun events t hrun => ?_⟩
    obtain ⟨progress, quarantinedAt, hstatus⟩ :=
      (h.claims id publication hrow).quarantined (Or.inl (by rw [hclaim]; rfl))
    obtain ⟨after, hafter, hlater⟩ := later_of_run h hrun hrow
    refine ⟨after, hafter, ?_⟩
    rw [hlater.quarantined progress quarantinedAt hstatus, ← hstatus]
    exact hnone
  nextFence call publication t fence mode rest hrow hclaim := by
    rw [claimInterruptedRouteSetPublication_of_onlyProjections h.onlyProjections hrow] at hclaim
    cases hbody : s.claimInterruptedRouteSetPublicationProjectionV1 call with
    | error raised =>
      rw [hbody] at hclaim
      cases hclaim
    | ok result =>
      obtain ⟨next, row⟩ := result
      rw [hbody] at hclaim
      cases hclaim
      exact (claim_of_acquired hrow hbody).2
  ended call publication hrow hended := by
    obtain ⟨terminal, hterminal⟩ := Option.isSome_iff_exists.mp hended
    obtain ⟨row, hbody, -⟩ := finishRecovery_of_ended env hrow hterminal
    simp only [step, finishRecovery_of_onlyProjections h.onlyProjections, committed_singleCall,
      hbody]
    rfl
  repeated call t response hcall events u hrun := by
    obtain ⟨hvalid, kind, publication, driverOperation, applied, hdecided, hafter, rfl⟩ :=
      decided_of_completed h.onlyProjections hcall
    have hstep : step env s (.finishRecovery call) = some t := by
      simp only [step, hcall]
      rfl
    have hinv := step_inv hstep h
    obtain ⟨later, hlater, hrows⟩ := later_of_run hinv hrun hafter
    have hinv' := hrun.invariant (P := Inv env) (fun _ _ _ hs _ hstep => step_inv hstep hs) hinv
    have hterminal := hrows.terminal _ rfl
    obtain ⟨row, hbody, hanswer⟩ := finishRecovery_of_ended env hlater hterminal
    rw [finishRecovery_of_onlyProjections hinv'.onlyProjections, hbody, hanswer hvalid]
    · rfl
    · exact repeatsTerminal_of_decided hdecided hrows.resolutions

/-- **The recovery of publications is safe.** In every state of every history there is at
most one claimant, claims are handed out with growing fences, a writing claim means that
the publication never starts, and the end of a publication is written once and repeated
to whoever decides the same again. Every step keeps fences, observations and ends, lifts a
quarantine only by ending its publication, and ends it with the tables that were
decided. -/
theorem recovery_safety {events : List PublicationEvent} (hinitial : s.Initial)
    (hrun : Run (step env) s events t) :
    RecoverySafe env t ∧ ∀ event u, step env t event = some u → RecoveryStepSafe t u := by
  have hinv := inv_of_run hinitial hrun
  refine ⟨hinv.recoverySafe, fun event u hstep => ?_⟩
  have heffect := step_effect hinv.onlyProjections hstep
  exact {
    rows := fun _ _ hrow => heffect.later hrow
    fleet := fun _ _ hphase => heffect.fleet_quarantine hphase
    route := fun _ _ _ _ _ _ hrow hphase => heffect.route_quarantine hrow hphase
    ends := fun _ _ _ _ hrow hunended hafter hended =>
      heffect.ends hrow hunended hafter hended }

/-! ## A publication that is recovered as the candidate -/

def publishedLease : PublicationLease := ⟨9, 20, 21, 22, 23, 1, 2⟩

def recoveredIdentity : PublicationIdentity :=
  beforePublication.newIdentity publishCall publishedRoute samplePrior 2

/-- The driver goes away after it started. The first claimant finds the candidate selected,
which is reviewed; the second one cannot tell. -/
def recovered : List PublicationEvent :=
  [.admitPublication publishCall,
    .recordPrior publishedLease ⟨"generations/boot-live", ⟨1, 1⟩, none⟩,
    .recordEntry publishedLease 1 ⟨publishedRoute, "sha256:a", "sha256:" ++ zeroDigest⟩,
    .sealRecords publishedLease recoveredIdentity.selector
      ⟨1, 1, "sha256:" ++ zeroDigest, ⟨1, 2⟩⟩,
    .start publishedLease, .queue (.advance (seconds 61)),
    .claim ⟨9, ⟨4, 1, "worker-b"⟩, 30, 31, 60⟩,
    .resolve ⟨⟨9, 30, 31, 1⟩, .candidate, ⟨some recoveredIdentity.selector, some 1, some 2,
      some (expectedIdentity 9 recoveredIdentity (some ("sha256:" ++ zeroDigest)))⟩⟩,
    .review 4 (reviewedPayload .candidate),
    .claim ⟨9, ⟨5, 1, "worker-c"⟩, 32, 33, 60⟩,
    .resolve ⟨⟨9, 32, 33, 2⟩, .inconclusive, .nothing⟩]

def acceptCandidate : RecoveryFinishCall := { acceptUnstarted with kind := some .candidate }

/-- The decision ends the publication as the candidate. -/
def endsAsCandidate (s : PublicationState) : Bool :=
  ((s.publications.lookup 9).any fun publication => decide (publication.terminal = none)) &&
    completes acceptCandidate s &&
    (step zeroHash s (.finishRecovery acceptCandidate)).any fun t =>
      (t.publications.lookup 9).any fun publication => publication.terminal.any fun terminal =>
        decide (terminal.value.kind = .candidate)

theorem recovered_endsAsCandidate :
    (replay (step zeroHash) beforePublication recovered).any endsAsCandidate = true := by
  decide +kernel

/-- The theorem after both claims were made: the first claimant's decision writes the
candidate's tables, and is repeated to it for ever. -/
theorem recovery_safety_twoClaims : ∃ s t response publication,
    Run (step zeroHash) beforePublication recovered s ∧ RecoverySafe zeroHash s ∧
      s.publications.lookup 9 = some publication ∧
      finishRouteSetPublicationRecovery zeroHash s (.complete acceptCandidate) =
        .ok (t, [⟨.completed, response⟩]) ∧
      EndEffect s t publication .candidate ∧
      ∀ events u, Run (step zeroHash) t events u →
        finishRouteSetPublicationRecovery zeroHash u (.complete acceptCandidate) =
          .ok (u, [⟨.replay, response⟩]) := by
  obtain ⟨s, hreplay, hends⟩ := (Option.any_eq_true _ _).mp recovered_endsAsCandidate
  simp only [endsAsCandidate, Bool.and_eq_true] at hends
  obtain ⟨⟨hbefore, hcompletes⟩, hafter⟩ := hends
  obtain ⟨publication, hrow, hunended⟩ := (Option.any_eq_true _ _).mp hbefore
  obtain ⟨t, response, hcall⟩ := exists_of_completes hcompletes
  have hstep : step zeroHash s (.finishRecovery acceptCandidate) = some t := by
    rw [step, hcall]
    rfl
  rw [hstep, Option.any_some] at hafter
  obtain ⟨after, hlookup, hterminal⟩ := (Option.any_eq_true _ _).mp hafter
  obtain ⟨terminal, hended, hkind⟩ := (Option.any_eq_true _ _).mp hterminal
  have hrun := run_of_replay hreplay
  obtain ⟨hsafe, hsteps⟩ := recovery_safety beforePublication_initial hrun
  have heffect := (hsteps _ t hstep).ends 9 publication after terminal hrow
    (of_decide_eq_true hunended) hlookup hended
  rw [of_decide_eq_true hkind] at heffect
  exact ⟨s, t, response, publication, hrun, hsafe, hrow, hcall, heffect,
    hsafe.repeated acceptCandidate t response hcall⟩

end PublicationState

end ControlPlane.Publications
