/-
# Idempotency of driver effects

Over any interleaving of requests, with drops between any two steps, the effect
under one receipt key is entered at most once and only for the payload that the
receipt was inserted for. The invariant behind this says that a request on the
way to its effect is the only one that holds the receipt, and that the receipt is
still as it was inserted.
-/

import ControlPlane.Driver.Requests

namespace ControlPlane.Driver

open Domain Math DriverState

variable {stage next : Stage} {step : RequestStep} {cell : Option Receipt}

theorem Stage.claims_of_beforeEffect (h : stage.beforeEffect = true) : stage.claims = true := by
  cases stage <;> first | rfl | cases h

theorem TenantRequest.firstStage_claims (request : TenantRequest) :
    request.firstStage.claims = false := by
  unfold TenantRequest.firstStage
  split <;> rfl

/-- Two requests for one key never both hold its receipt, and nothing was entered
under a key whose request is still before its effect. -/
structure LedgerInvariant (config : DriverConfig) (s : DriverState) : Prop where
  claimed : ∀ {id request}, s.requests.lookup id = some request → request.stage.claims = true →
      s.receipts.lookup request.key = some ⟨config.digest request.body.payload, .inProgress, none⟩
  exclusive : ∀ {id other first second}, s.requests.lookup id = some first →
    s.requests.lookup other = some second → first.stage.claims = true →
      second.stage.claims = true → first.key = second.key → id = other
  unentered : ∀ {id request entry}, s.requests.lookup id = some request →
    request.stage.beforeEffect = true → entry ∈ s.entered → entry.key ≠ request.key
  receipted : ∀ {entry}, entry ∈ s.entered → ∃ receipt, s.receipts.lookup entry.key = some receipt ∧
      receipt.requestDigest = config.digest entry.payload
  requested : ∀ {entry}, entry ∈ s.entered → ∃ request,
    s.requests.lookup entry.request = some request ∧ request.key = entry.key ∧
      request.body.payload = entry.payload
  once : s.entered.Pairwise fun first second => first.key ≠ second.key

theorem ledgerInvariant_initial (config : DriverConfig) : LedgerInvariant config .initial where
  claimed h := by simp [initial] at h
  exclusive h := by simp [initial] at h
  unentered h := by simp [initial] at h
  receipted h := by simp [initial] at h
  requested h := by simp [initial] at h
  once := List.Pairwise.nil

/-! ## What one move keeps -/

section Moves

variable {config : DriverConfig} {s : DriverState} {id : Nat} {request : Request}
  {step : RequestStep} {cell : Option Receipt} {next : Stage}

variable {body : TenantRequest} {before : Option Receipt} {stage : Stage} {receipt : Receipt}

section

variable (h : Moved config body before stage step cell next) (hclaims : next.claims = true)

include h hclaims

/-- A request holds its receipt after a move only if it did before or has just
inserted it into an empty cell. -/
theorem Moved.claims_before : stage.claims = true ∨ before = none := by
  cases h with
  | outside quiet hbefore hafter kept | leaseLost hafter | record hafter => simp [hafter] at hclaims
  | claim fate => exact Or.inr rfl
  | wait quiet hbefore hafter => exact Or.inl (Stage.claims_of_beforeEffect hbefore)
  | enter | complete => exact Or.inl rfl
  | abandon quiet hbefore hafter => exact Or.inl hbefore

/-- While a request keeps holding its receipt, the receipt stays as inserted. -/
theorem Moved.cell_of_claims (hbefore : stage.claims = true →
      before = some ⟨config.digest body.payload, .inProgress, none⟩) :
    cell = some ⟨config.digest body.payload, .inProgress, none⟩ := by
  cases h with
  | outside quiet hout hafter kept | abandon quiet hstage hafter | leaseLost hafter
  | record hafter => simp [hafter] at hclaims
  | claim fate => rfl
  | wait quiet hstage hafter => exact hbefore (Stage.claims_of_beforeEffect hstage)
  | enter | complete => exact hbefore rfl

end

section

variable (h : Moved config body (some receipt) stage step cell next)

include h

/-- A request that does not hold a receipt leaves a stored one alone. -/
theorem Moved.cell_of_not_claims (hclaims : stage.claims = false) : cell = some receipt := by
  cases h with
  | outside quiet hout hafter kept =>
    rcases kept with rfl | ⟨hnone, -⟩
    · rfl
    · cases hnone
  | wait quiet hstage hafter | enter | complete | abandon quiet hstage hafter => rfl
  | leaseLost hafter | record hafter => cases hclaims

theorem Moved.digest_kept :
    ∃ changed, cell = some changed ∧ changed.requestDigest = receipt.requestDigest := by
  cases h with
  | outside quiet hout hafter kept =>
    rcases kept with rfl | ⟨hnone, -⟩
    · exact ⟨receipt, rfl, rfl⟩
    · cases hnone
  | wait quiet hstage hafter | enter | complete | abandon quiet hstage hafter =>
    exact ⟨receipt, rfl, rfl⟩
  | leaseLost hafter | record hafter => exact ⟨_, rfl, rfl⟩

end

/-- The receipt another request holds is not touched. -/
theorem LedgerInvariant.lookup_moveTo_of_claims (hinv : LedgerInvariant config s)
    (hrequest : s.requests.lookup id = some request)
    (hmoved : Moved config request.body (s.receipts.lookup request.key) request.stage step
      cell next)
    {other : Nat} {second : Request} (hne : other ≠ id)
    (hsecond : s.requests.lookup other = some second) (hclaims : second.stage.claims = true) :
    (s.moveTo id request step cell next).receipts.lookup second.key =
      s.receipts.lookup second.key := by
  by_cases hkey : second.key = request.key
  · have hstored := hinv.claimed hsecond hclaims
    rw [hkey] at hstored ⊢
    rw [lookup_receipts_moveTo hmoved, hstored]
    rw [hstored] at hmoved
    refine hmoved.cell_of_not_claims ?_
    by_contra hholds
    exact hne (hinv.exclusive hsecond hrequest hclaims (by simpa using hholds) hkey)
  · exact lookup_receipts_moveTo_of_ne hkey

theorem receipt_moveTo_digest (id : Nat)
    (hmoved : Moved config request.body (s.receipts.lookup request.key) request.stage step
      cell next) {key : ReceiptKey} (hreceipt : s.receipts.lookup key = some receipt) :
    ∃ changed, (s.moveTo id request step cell next).receipts.lookup key = some changed ∧
      changed.requestDigest = receipt.requestDigest := by
  by_cases hkey : key = request.key
  · subst hkey
    rw [lookup_receipts_moveTo hmoved]
    rw [hreceipt] at hmoved
    exact hmoved.digest_kept
  · exact ⟨receipt, (lookup_receipts_moveTo_of_ne hkey).trans hreceipt, rfl⟩

/-- Only a fenced request enters its effect. -/
theorem Moved.enter_inv (h : Moved config body before stage .enterEffect cell next) :
    stage = .ready ∧ next = .executing ∧ cell = before := by
  cases h with
  | enter => exact ⟨rfl, rfl, rfl⟩
  | outside quiet | wait quiet | abandon quiet => cases quiet

/-- Entries after a move: the old ones, and the moving request's own when it enters. -/
theorem mem_entered_moveTo
    (hmoved : Moved config request.body (s.receipts.lookup request.key) request.stage step
      cell next)
    {entry : EffectEntry} (hentry : entry ∈ (s.moveTo id request step cell next).entered) :
    entry ∈ s.entered ∨ (request.stage = .ready ∧ next = .executing ∧
        entry = ⟨id, request.key, request.body.payload⟩) := by
  cases step with
  | enterEffect =>
    rcases List.mem_cons.mp hentry with hnew | hold
    · exact Or.inr ⟨hmoved.enter_inv.1, hmoved.enter_inv.2.1, hnew⟩
    · exact Or.inl hold
  | _ => exact Or.inl hentry

/-- A request before its effect was there before the move, or has just claimed an
empty cell. -/
theorem Moved.beforeEffect_before (h : Moved config body before stage step cell next)
    (hnext : next.beforeEffect = true) : stage.beforeEffect = true ∨ before = none := by
  have hclaims := Stage.claims_of_beforeEffect hnext
  cases h with
  | outside quiet hout hafter kept | abandon quiet hstage hafter | leaseLost hafter
  | record hafter => simp [hafter] at hclaims
  | claim fate => exact Or.inr rfl
  | wait quiet hstage hafter => exact Or.inl hstage
  | enter | complete => cases hnext

end Moves

/-! ## The invariant holds in every reachable state -/

variable {s t : DriverState} {id : Nat} {request : Request} {config : DriverConfig}
  {events : List DriverEvent} {receipt : Receipt} {key : ReceiptKey} {response : Json}

theorem lookup_receive_of_claims {process other : Nat} {body : TenantRequest}
    (hrequest : (s.requests.insert id ⟨process, body, body.firstStage⟩).lookup other =
      some request) (hclaims : request.stage.claims = true) :
    s.requests.lookup other = some request := by
  by_cases hid : other = id
  · subst hid
    rw [AList.lookup_insert] at hrequest
    cases hrequest
    rw [body.firstStage_claims] at hclaims
    cases hclaims
  · rwa [AList.lookup_insert_ne hid] at hrequest

theorem ledgerInvariant_receive (hinv : LedgerInvariant config s) (process : Nat)
    (body : TenantRequest) (hfresh : s.requests.lookup id = none) :
    LedgerInvariant config
      { s with requests := s.requests.insert id ⟨process, body, body.firstStage⟩ } := by
  refine ⟨?_, ?_, ?_, hinv.receipted, ?_, hinv.once⟩
  · intro other request hrequest hclaims
    exact hinv.claimed (lookup_receive_of_claims hrequest hclaims) hclaims
  · intro first second firstRequest secondRequest hfirst hsecond hclaims hclaims' hkey
    exact hinv.exclusive (lookup_receive_of_claims hfirst hclaims)
      (lookup_receive_of_claims hsecond hclaims') hclaims hclaims' hkey
  · intro other request entry hrequest hbefore hentry
    have hclaims := Stage.claims_of_beforeEffect hbefore
    exact hinv.unentered (lookup_receive_of_claims hrequest hclaims) hbefore hentry
  intro entry hentry
  obtain ⟨request, hrequest, hkey, hpayload⟩ := hinv.requested hentry
  refine ⟨request, ?_, hkey, hpayload⟩
  have hne : entry.request ≠ id := by
    intro hid
    rw [hid, hfresh] at hrequest
    cases hrequest
  exact (AList.lookup_insert_ne hne).trans hrequest

theorem ledgerInvariant_moveTo (hinv : LedgerInvariant config s)
    (hrequest : s.requests.lookup id = some request)
    (hmoved : Moved config request.body (s.receipts.lookup request.key) request.stage step
      cell next) : LedgerInvariant config (s.moveTo id request step cell next) := by
  -- The moving request and another holder of the same receipt cannot coexist.
  have hsole : ∀ {other : Nat} {second : Request}, other ≠ id →
      s.requests.lookup other = some second → second.stage.claims = true →
        next.claims = true → second.key ≠ request.key := by
    intro other second hne hsecond hclaims hnext hkey
    rcases hmoved.claims_before hnext with hbefore | hnone
    · exact hne (hinv.exclusive hsecond hrequest hclaims hbefore hkey)
    · rw [← hkey, hinv.claimed hsecond hclaims] at hnone
      cases hnone
  constructor
  case claimed =>
    intro other found hfound hclaims
    rcases lookup_requests_moveTo_cases hfound with ⟨rfl, rfl⟩ | ⟨hne, hold⟩
    · exact (lookup_receipts_moveTo hmoved).trans
        (hmoved.cell_of_claims hclaims fun hstage => hinv.claimed hrequest hstage)
    · rw [hinv.lookup_moveTo_of_claims hrequest hmoved hne hold hclaims]
      exact hinv.claimed hold hclaims
  case exclusive =>
    intro first second firstRequest secondRequest hfirst hsecond hclaims hclaims' hkey
    rcases lookup_requests_moveTo_cases hfirst with ⟨rfl, rfl⟩ | ⟨hne, hold⟩ <;>
      rcases lookup_requests_moveTo_cases hsecond with ⟨rfl, rfl⟩ | ⟨hne', hold'⟩
    · rfl
    · exact absurd hkey.symm (hsole hne' hold' hclaims' hclaims)
    · exact absurd hkey (hsole hne hold hclaims hclaims')
    · exact hinv.exclusive hold hold' hclaims hclaims' hkey
  case unentered =>
    intro other found entry hfound hbefore hentry hkey
    have hclaims := Stage.claims_of_beforeEffect hbefore
    rcases mem_entered_moveTo hmoved hentry with hearlier | ⟨-, hnext, rfl⟩
    · rcases lookup_requests_moveTo_cases hfound with ⟨rfl, rfl⟩ | ⟨hne, hold⟩
      · rcases hmoved.beforeEffect_before hbefore with hstage | hnone
        · exact hinv.unentered hrequest hstage hearlier hkey
        · obtain ⟨receipt, hreceipt, -⟩ := hinv.receipted hearlier
          rw [hkey] at hreceipt
          exact absurd (hnone.symm.trans hreceipt) (by simp)
      · exact hinv.unentered hold hbefore hearlier hkey
    · subst hnext
      rcases lookup_requests_moveTo_cases hfound with ⟨rfl, rfl⟩ | ⟨hne, hold⟩
      · cases hbefore
      · exact hsole hne hold hclaims rfl hkey.symm
  case receipted =>
    intro entry hentry
    rcases mem_entered_moveTo hmoved hentry with hearlier | ⟨hready, -, rfl⟩
    · obtain ⟨receipt, hreceipt, hdigest⟩ := hinv.receipted hearlier
      obtain ⟨changed, hchanged, hsame⟩ := receipt_moveTo_digest id hmoved hreceipt
      exact ⟨changed, hchanged, hsame.trans hdigest⟩
    · have hreceipt := hinv.claimed hrequest (by rw [hready]; rfl)
      obtain ⟨changed, hchanged, hsame⟩ := receipt_moveTo_digest id hmoved hreceipt
      exact ⟨changed, hchanged, hsame⟩
  case requested =>
    intro entry hentry
    rcases mem_entered_moveTo hmoved hentry with hearlier | ⟨-, -, rfl⟩
    · obtain ⟨found, hfound, hkey, hpayload⟩ := hinv.requested hearlier
      by_cases hid : entry.request = id
      · rw [hid, hrequest] at hfound
        cases hfound
        rw [hid]
        exact ⟨_, lookup_requests_moveTo, hkey, hpayload⟩
      · exact ⟨found, (lookup_requests_moveTo_of_ne hid).trans hfound, hkey, hpayload⟩
    · exact ⟨_, lookup_requests_moveTo, rfl, rfl⟩
  case once =>
    cases step with
    | enterEffect =>
      refine List.pairwise_cons.mpr ⟨fun entry hentry => ?_, hinv.once⟩
      exact (hinv.unentered hrequest (by rw [hmoved.enter_inv.1]; rfl) hentry).symm
    | _ => exact hinv.once

theorem ledgerInvariant_step (s : DriverState) (event : DriverEvent) (t : DriverState)
    (hinv : LedgerInvariant config s) (h : s.step config event = some t) :
    LedgerInvariant config t := by
  rcases step_cases h with rfl | ⟨id, process, body, hfresh, rfl⟩ |
    ⟨id, step, request, cell, stage, -, hrequest, hadvance, rfl⟩
  · exact hinv
  · exact ledgerInvariant_receive hinv process body hfresh
  · exact ledgerInvariant_moveTo hinv hrequest (advance_moved hadvance)

theorem ledgerInvariant_run (hrun : Run (DriverState.step config) s events t)
    (hinv : LedgerInvariant config s) : LedgerInvariant config t :=
  hrun.invariant (fun s event t hinv _ h => ledgerInvariant_step s event t hinv h) hinv

/-! ## Settled receipts -/

/-- The calls of the effect under one key. -/
def DriverState.entriesFor (s : DriverState) (key : ReceiptKey) : List EffectEntry :=
  s.entered.filter fun entry => entry.key = key

/-- A receipt that no longer is as it was inserted. -/
def Receipt.Settled (receipt : Receipt) : Prop :=
  receipt.state ≠ .inProgress ∨ receipt.safeError ≠ none

/-- A request that holds its receipt holds an unsettled one. -/
theorem LedgerInvariant.not_claims_of_settled (hinv : LedgerInvariant config s)
    (hrequest : s.requests.lookup id = some request)
    (hreceipt : s.receipts.lookup request.key = some receipt) (hsettled : receipt.Settled) :
    request.stage.claims = false := by
  by_contra hclaims
  rw [hinv.claimed hrequest (by simpa using hclaims)] at hreceipt
  cases hreceipt
  rcases hsettled with h | h <;> exact h rfl

/-- A settled receipt never changes and its effect is not entered again. -/
theorem settled_step (hsettled : receipt.Settled) (s : DriverState) (event : DriverEvent)
    (t : DriverState) (hinv : LedgerInvariant config s) (h : s.step config event = some t)
    (hreceipt : s.receipts.lookup key = some receipt) :
    t.receipts.lookup key = some receipt ∧ t.entriesFor key = s.entriesFor key := by
  rcases step_cases h with rfl | ⟨id, process, body, hfresh, rfl⟩ |
    ⟨id, step, request, cell, stage, -, hrequest, hadvance, rfl⟩
  · exact ⟨hreceipt, rfl⟩
  · exact ⟨hreceipt, rfl⟩
  have hmoved := advance_moved hadvance
  by_cases hkey : key = request.key
  · subst hkey
    have hfree := hinv.not_claims_of_settled hrequest hreceipt hsettled
    refine ⟨?_, ?_⟩
    · rw [lookup_receipts_moveTo hmoved]
      rw [hreceipt] at hmoved
      exact hmoved.cell_of_not_claims hfree
    · cases step with
      | enterEffect =>
        rw [hmoved.enter_inv.1] at hfree
        cases hfree
      | _ => rfl
  · refine ⟨(lookup_receipts_moveTo_of_ne hkey).trans hreceipt, ?_⟩
    cases step with
    | enterEffect =>
      refine List.filter_cons_of_neg ?_
      simpa using Ne.symm hkey
    | _ => rfl

theorem settled_run (hsettled : receipt.Settled) (hrun : Run (DriverState.step config) s events t)
    (hinv : LedgerInvariant config s) (hreceipt : s.receipts.lookup key = some receipt) :
    t.receipts.lookup key = some receipt ∧ t.entriesFor key = s.entriesFor key := by
  refine hrun.relation (P := LedgerInvariant config)
    (R := fun s t => s.receipts.lookup key = some receipt →
      t.receipts.lookup key = some receipt ∧ t.entriesFor key = s.entriesFor key)
    (fun s hs => ⟨hs, rfl⟩) ?_ (fun s event t hinv _ h => ledgerInvariant_step s event t hinv h)
    (fun s event t hinv _ h => settled_step hsettled s event t hinv h) hinv hreceipt
  intro first second third hfirst hsecond hlookup
  obtain ⟨hmiddle, hentries⟩ := hfirst hlookup
  exact ⟨(hsecond hmiddle).1, (hsecond hmiddle).2.trans hentries⟩

/-! ## Repeated requests -/

/-- The stages of a request that repeats a succeeded one: it never holds the
receipt, and its only answers are the stored response and the two errors of a
refused lease check and a failed statement. -/
def Stage.Serves (response : Json) : Stage → Prop
  | .validating | .admitting | .reading | .dropped => True
  | .answered answer =>
    answer = .ok response ∨ answer = .error .leaseNotCurrent ∨ answer = .error .internal
  | _ => False

theorem serves_advance {request : TenantRequest} {safeError : Option SafeError}
    (hstage : stage.Serves response) (h : advance config request
      (some ⟨config.digest request.payload, .succeeded response, safeError⟩) stage step =
        some (cell, next)) : next.Serves response := by
  cases stage with
  | validating =>
    cases step with
    | validateLease current =>
      rcases current with _ | _ | _ <;> cases h
      · exact Or.inr (Or.inr rfl)
      · exact Or.inr (Or.inl rfl)
      · trivial
    | drop => cases h; trivial
    | _ => cases h
  | admitting =>
    cases step with
    | insertReceipt fate =>
      cases fate <;> cases h
      · trivial
      · exact Or.inr (Or.inr rfl)
      · exact Or.inr (Or.inr rfl)
    | drop => cases h; trivial
    | _ => cases h
  | reading =>
    cases step with
    | readReceipt answered =>
      cases answered <;> cases h
      · exact Or.inr (Or.inr rfl)
      · left
        simp [readReceipt]
    | drop => cases h; trivial
    | _ => cases h
  | dropped | answered answer => cases step <;> cases h
  | _ => exact hstage.elim

/-- Every request for the key and digest of a succeeded receipt that was not there
at `start` is being served from the receipt. -/
def ServedSince (config : DriverConfig) (start : DriverState) (key : ReceiptKey)
    (receipt : Receipt) (response : Json) (s : DriverState) : Prop :=
  ∀ id request, start.requests.lookup id = none → s.requests.lookup id = some request →
    request.key = key → config.digest request.body.payload = receipt.requestDigest →
      request.stage.Serves response

theorem servedSince_step {start : DriverState} (hstate : receipt.state = .succeeded response)
    (s : DriverState) (event : DriverEvent) (t : DriverState)
    (hreceipt : s.receipts.lookup key = some receipt)
    (hserved : ServedSince config start key receipt response s) (h : s.step config event = some t) :
    ServedSince config start key receipt response t := by
  rcases step_cases h with rfl | ⟨id, process, body, hfresh, rfl⟩ |
    ⟨id, step, request, cell, stage, -, hrequest, hadvance, rfl⟩
  · exact hserved
  · intro other found hnew hfound hkey hdigest
    by_cases hid : other = id
    · subst hid
      rw [AList.lookup_insert] at hfound
      cases hfound
      unfold TenantRequest.firstStage
      split <;> trivial
    · rw [AList.lookup_insert_ne hid] at hfound
      exact hserved _ _ hnew hfound hkey hdigest
  · intro other found hnew hfound hkey hdigest
    rcases lookup_requests_moveTo_cases hfound with ⟨rfl, rfl⟩ | ⟨hne, hold⟩
    · have hstage := hserved _ _ hnew hrequest hkey hdigest
      have hcell : s.receipts.lookup request.key =
          some ⟨config.digest request.body.payload, .succeeded response, receipt.safeError⟩ := by
        rw [show request.key = key from hkey, hreceipt, ← hstate,
          show config.digest request.body.payload = receipt.requestDigest from hdigest]
      rw [hcell] at hadvance
      exact serves_advance hstage hadvance
    · exact hserved _ _ hnew hold hkey hdigest

theorem servedSince_run (hstate : receipt.state = .succeeded response)
    (hrun : Run (DriverState.step config) s events t) (hinv : LedgerInvariant config s)
    (hreceipt : s.receipts.lookup key = some receipt) :
    ServedSince config s key receipt response t := by
  have hsettled : receipt.Settled := Or.inl (by rw [hstate]; simp)
  have hall := hrun.invariant
    (P := fun u => LedgerInvariant config u ∧ u.receipts.lookup key = some receipt ∧
      ServedSince config s key receipt response u)
    (fun u event v hu _ h => ⟨ledgerInvariant_step u event v hu.1 h,
      (settled_step hsettled u event v hu.1 h hu.2.1).1,
      servedSince_step hstate u event v hu.2.1 hu.2.2 h⟩)
    ⟨hinv, hreceipt, fun _ _ hnew hfound => absurd (hnew.symm.trans hfound) (by simp)⟩
  exact hall.2.2

/-- A repeated request that reaches the ledger is answered with the stored
response by its two admission statements. -/
theorem repeated_request_answered (hrequest : s.requests.lookup id = some request)
    (hstage : request.stage = .admitting) (hreceipt : s.receipts.lookup request.key = some receipt)
    (hstate : receipt.state = .succeeded response)
    (hdigest : config.digest request.body.payload = receipt.requestDigest) :
    ∃ u, replay (DriverState.step config) s
        [.progress id (.insertReceipt .committed), .progress id (.readReceipt true)] = some u ∧
      (u.requests.lookup id).map Request.stage = some (.answered (.ok response)) := by
  let waiting := s.moveTo id request (.insertReceipt .committed) (some receipt) .reading
  have hinsert : s.step config (.progress id (.insertReceipt .committed)) = some waiting := by
    refine step_progress hrequest rfl ?_
    rw [hstage, hreceipt]
    rfl
  have hread : waiting.step config (.progress id (.readReceipt true)) =
      some (waiting.moveTo id { request with stage := .reading } (.readReceipt true)
        (some receipt) (.answered (.ok response))) := by
    refine step_progress lookup_requests_moveTo rfl ?_
    have hcell : waiting.receipts.lookup request.key = some receipt := AList.lookup_insert _
    rw [show Request.key { request with stage := .reading } = request.key from rfl, hcell]
    simp [advance, readReceipt, hdigest, hstate]
  refine ⟨_, (replay_cons hinsert).trans (replay_cons hread), ?_⟩
  rw [lookup_requests_moveTo]
  rfl

/-! ## Effects run once -/

theorem LedgerInvariant.entriesFor_length_le (hinv : LedgerInvariant config s) (key : ReceiptKey) :
    (s.entriesFor key).length ≤ 1 := by
  have honce : (s.entriesFor key).Pairwise fun first second => first.key ≠ second.key :=
    hinv.once.filter _
  have hkeys : ∀ entry ∈ s.entriesFor key, entry.key = key := by
    intro entry hentry
    simpa using List.of_mem_filter hentry
  match hlist : s.entriesFor key with
  | [] => simp
  | [_] => simp
  | first :: second :: rest =>
    rw [hlist] at honce hkeys
    have hne := (List.pairwise_cons.mp honce).1 second (by simp)
    rw [hkeys first (by simp), hkeys second (by simp)] at hne
    exact absurd rfl hne

/-- A driver whose digest of a text payload is the text. -/
private def textConfig : DriverConfig where
  token := "token"
  digest payload := payload.asStr.getD ""
  parseUuid _ := some 1

private def provisionHeaders : TenantHeaders :=
  ⟨.text "Bearer token", .text "key", .absent, .absent, .absent⟩

/-- Two requests under one key, the second with another payload, race for the receipt. -/
private def racingRequests : List DriverEvent :=
  [.receive 0 0 provisionHeaders 7 "provision" (.string "first"),
    .receive 1 0 provisionHeaders 7 "provision" (.string "second"),
    .progress 0 (.insertReceipt .committed), .progress 1 (.insertReceipt .committed),
    .progress 0 .takeLock, .progress 0 .enterEffect, .progress 1 (.readReceipt true),
    .progress 0 (.effectReturns (.ok .null)), .progress 0 (.recordResult .committed)]

private def racedState : DriverState :=
  (replay (DriverState.step textConfig) .initial racingRequests).getD .initial

end ControlPlane.Driver
