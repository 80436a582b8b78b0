/-
# What a disconnected sender domain leaves behind

An attempt that disconnects a sender domain deletes and revokes what the row records. It
does not look for anything else, so a mail domain whose creation was not recorded stays at
the provider: after a lost answer the provider refuses the name for good, and no later
attempt learns the reference.

When every disconnection comes at a moment at which all that was created is recorded and no
attempt may still create, a disconnected row leaves neither a mail domain nor a webhook.
-/

import ControlPlane.Domains.Email
import ControlPlane.Math.Custody

namespace ControlPlane.Domains

open Domain Math Table Persistence

/-! ## Positions -/

namespace EmailPosition

/-- The positions from which a mail domain or a webhook may still be created. Storing an
observation is one of them: it goes on even when the row did not take it. -/
def mayCreate : EmailPosition → Bool
  | .check _ _ | .observe _ _ | .create _ | .store _ _ | .listWebhooks _ _
  | .createWebhook _ _ => true
  | _ => false

/-- The positions of an attempt that has read a row to be connected. -/
def connecting : EmailPosition → Bool
  | .storeWebhook _ _ | .activate | .suppression | .sendTest => true
  | position => position.mayCreate

/-- The webhook and the mail domain an attempt to disconnect has read. -/
def removing : EmailPosition → Option (Option Uuid × Option Uuid)
  | .deleteWebhook webhook domain => some (some webhook, domain)
  | .revoke webhook domain => some (webhook, some domain)
  | .finish webhook domain => some (webhook, domain)
  | _ => none

/-- What such an attempt has already removed. -/
def removed : EmailPosition → List MailResource
  | .revoke webhook _ => (webhook.map MailResource.webhook).toList
  | .finish webhook domain =>
    (webhook.map MailResource.webhook).toList ++ (domain.map MailResource.domain).toList
  | _ => []

theorem connecting_of_mayCreate {position : EmailPosition} (h : position.mayCreate = true) :
    position.connecting = true := by
  cases position <;> first | exact h | rfl

end EmailPosition

/-! ## The provider -/

namespace MailProvider

variable {provider changed : MailProvider}

variable {row id : Uuid} {resource : MailResource}

/-- Creating a resource only touches an identifier that was not in use. -/
theorem gone_of_created {name : String} (h : provider.createDomain row id name = some changed) :
    changed.created = (row, .domain id) :: provider.created ∧ changed.removed = provider.removed ∧
      ∀ resource ∈ provider.removed, provider.Gone resource → changed.Gone resource := by
  unfold createDomain at h
  split at h
  swap
  · cases h
  rename_i hguard
  cases h
  simp only [unused, Bool.and_eq_true, decide_eq_true_eq] at hguard
  refine ⟨rfl, rfl, ?_⟩
  intro resource hremoved hgone
  cases resource with
  | domain other =>
    have hne : other ≠ id := by
      rintro rfl
      exact hguard.1.2 hremoved
    intro domain hdomain
    rw [AList.lookup_insert_ne hne] at hdomain
    exact hgone domain hdomain
  | webhook other => exact hgone

theorem gone_of_createdWebhook {domain : Uuid}
    (h : provider.createWebhook row domain id = some changed) :
    changed.created = (row, .webhook id) :: provider.created ∧ changed.removed = provider.removed ∧
      ∀ resource ∈ provider.removed, provider.Gone resource → changed.Gone resource := by
  unfold createWebhook at h
  split at h
  swap
  · cases h
  rename_i hguard
  cases h
  simp only [unused, Bool.and_eq_true, decide_eq_true_eq] at hguard
  refine ⟨rfl, rfl, ?_⟩
  intro resource hremoved hgone
  cases resource with
  | domain other => exact hgone
  | webhook other =>
    have hne : other ≠ id := by
      rintro rfl
      exact hguard.2 hremoved
    exact (AList.lookup_insert_ne hne).trans hgone

theorem gone_revoke (id : Uuid) (h : resource = .domain id ∨ provider.Gone resource) :
    (provider.revoke id).Gone resource := by
  cases resource with
  | domain other =>
    intro domain hdomain
    by_cases hother : other = id
    · subst hother
      rw [revoke, lookup_modify_self] at hdomain
      obtain ⟨before, -, rfl⟩ := Option.map_eq_some_iff.mp hdomain
      rfl
    · rcases h with hsame | hgone
      · cases hsame
        exact absurd rfl hother
      · rw [revoke, lookup_modify_of_ne hother] at hdomain
        exact hgone domain hdomain
  | webhook other =>
    rcases h with hsame | hgone
    · cases hsame
    · exact hgone

theorem gone_deleteWebhook (id : Uuid) (h : resource = .webhook id ∨ provider.Gone resource) :
    (provider.deleteWebhook id).Gone resource := by
  cases resource with
  | domain other =>
    rcases h with hsame | hgone
    · cases hsame
    · exact hgone
  | webhook other =>
    by_cases hother : other = id
    · subst hother
      exact AList.lookup_erase _ _
    · rcases h with hsame | hgone
      · cases hsame
        exact absurd rfl hother
      · exact (AList.lookup_erase_ne hother).trans hgone

end MailProvider

/-! ## What one step can do -/

/-- The ways a step changes one row. -/
inductive EmailMove (s : EmailSystem) (event : EmailEvent) (id : Uuid) :
    Option EmailRow → Option EmailRow → Prop
  | missing : EmailMove s event id none none
  | kept {before after : EmailRow} (desired : after.desired = before.desired)
      (providerRef : after.providerRef = before.providerRef)
      (webhookRef : after.webhookRef = before.webhookRef)
      (state : after.state = .disconnected → before.state = .disconnected)
      (operationId : after.operationId = before.operationId ∨
        ∃ operation, s.queue.operations.lookup operation = none ∧
          after.operationId = some operation) :
      EmailMove s event id (some before) (some after)
  | requested {workshop : Uuid} {name : String} {operation : Uuid}
      (fresh : s.queue.operations.lookup operation = none) :
      EmailMove s event id none (some (.requested workshop name operation))
  | closed {before : EmailRow} {workshop operation : Uuid}
      (fresh : s.queue.operations.lookup operation = none)
      (called : event = .disconnect id workshop operation) :
      EmailMove s event id (some before) (some (before.queued operation true))
  /-- Written by an attempt to connect the row, which is still bound to it. -/
  | written {before after : EmailRow} {number : Nat} {run : EmailRun}
      (found : s.runs.lookup number = some run) (own : run.rowId = id)
      (connecting : run.position.connecting = true)
      (current : before.operationId = some run.operation.id)
      (desired : after.desired = before.desired)
      (operationId : after.operationId = before.operationId)
      (state : after.state = .disconnected → before.state = .disconnected) :
      EmailMove s event id (some before) (some after)
  /-- Finished by an attempt to disconnect the row. -/
  | finished {before : EmailRow} {number : Nat} {run : EmailRun} {webhook domain : Option Uuid}
      (found : s.runs.lookup number = some run) (own : run.rowId = id)
      (last : run.position = .finish webhook domain) :
      EmailMove s event id (some before) (some before.finished)

/-- Where an attempt may go on. -/
structure EmailGoesOn (s : EmailSystem) (provider : MailProvider) (run : EmailRun)
    (position : EmailPosition) : Prop where
  creating : position.mayCreate = true → run.position.mayCreate = true ∨
    ∃ row, s.rows.lookup run.rowId = some row ∧ row.desired ≠ .disconnected
  connecting : position.connecting = true → run.position.connecting = true ∨
    ∃ row, s.rows.lookup run.rowId = some row ∧ row.desired ≠ .disconnected
  removing : ∀ recorded, position.removing = some recorded →
    run.position.removing = some recorded ∨ ∃ row, s.rows.lookup run.rowId = some row ∧
      row.desired = .disconnected ∧ (row.webhookRef, row.providerRef) = recorded
  removed : ∀ resource ∈ position.removed,
    resource ∈ run.position.removed ∨ resource ∈ provider.removed

/-- Everything one step of an attempt can do. -/
structure EmailTurnEffect (s : EmailSystem) (number : Nat) (run : EmailRun) (t : EmailSystem)
    (next : Option EmailPosition) : Prop where
  runs : t.runs = s.runs
  issued : t.queue.issued = s.queue.issued
  operations : ∀ id row, s.queue.operations.lookup id = some row →
    ∃ later, t.queue.operations.lookup id = some later
  rows : s.runs.lookup number = some run → ∀ event id,
    EmailMove s event id (s.rows.lookup id) (t.rows.lookup id)
  created : ∀ entry ∈ t.provider.created, entry ∈ s.provider.created ∨
    entry.1 = run.rowId ∧ run.position.mayCreate = true
  removed : ∀ resource ∈ s.provider.removed, resource ∈ t.provider.removed
  gone : (∀ resource ∈ s.provider.removed, s.provider.Gone resource) →
    ∀ resource ∈ t.provider.removed, t.provider.Gone resource
  next : ∀ position, next = some position → EmailGoesOn s t.provider run position

section Turns

variable {s t : EmailSystem} {number : Nat} {run : EmailRun} {reply : MailReply}
  {next : Option EmailPosition} {provider : MailProvider}

variable {event : EmailEvent} {rows : Table Uuid EmailRow} {resource : MailResource}

theorem email_rows_kept (id : Uuid) : EmailMove s event id (rows.lookup id) (rows.lookup id) := by
  cases rows.lookup id with
  | none => exact .missing
  | some row => exact .kept rfl rfl rfl (fun h => h) (Or.inl rfl)

theorem email_rows_of_one {own : Uuid} {before : Option EmailRow} {after : EmailRow}
    (hbefore : rows.lookup own = before) (hmove : EmailMove s event own before (some after))
    (id : Uuid) : EmailMove s event id (rows.lookup id) ((rows.insert own after).lookup id) := by
  by_cases hid : id = own
  · subst id
    rw [hbefore, AList.lookup_insert]
    exact hmove
  · rw [AList.lookup_insert_ne hid]
    exact email_rows_kept id

theorem email_select_eq_some {row workshop : Uuid} {guard : EmailRow → Bool} {value : EmailRow}
    (h : s.select row workshop guard = some value) :
    s.rows.lookup row = some value ∧ guard value = true := by
  obtain ⟨hrow, hguard⟩ := Option.filter_eq_some_iff.mp h
  rw [Bool.and_eq_true] at hguard
  exact ⟨hrow, hguard.2⟩

theorem email_withOperation_eq_some {id : Uuid} {kind : OperationKind} {workshop : Option Uuid}
    {payload : Json} (h : s.withOperation id kind workshop payload = some t) :
    s.queue.operations.lookup id = none ∧ ∃ row, t = { s with
      queue := { s.queue with operations := s.queue.operations.insert id row } } := by
  unfold EmailSystem.withOperation at h
  split at h
  · cases h
  · rename_i hnone
    cases h
    exact ⟨hnone, _, rfl⟩

theorem goesOn_connecting {position : EmailPosition} (hposition : position.connecting = true)
    (hrun : run.position.connecting = true)
    (hcreate : position.mayCreate = true → run.position.mayCreate = true) :
    EmailGoesOn s provider run position where
  creating := fun h => Or.inl (hcreate h)
  connecting := fun _ => Or.inl hrun
  removing := by
    intro recorded h
    cases position <;> cases h <;> cases hposition
  removed := by
    intro resource h
    cases position <;> first | cases h | cases hposition

theorem goesOn_afterObservation {snapshot : EmailSnapshot} {observation : EmailDomainObservation}
    (hrun : run.position.mayCreate = true) (position : EmailPosition)
    (h : afterObservation snapshot observation = some position) :
    EmailGoesOn s provider run position := by
  unfold afterObservation at h
  split at h
  · cases h
    exact goesOn_connecting rfl (EmailPosition.connecting_of_mayCreate hrun) fun _ => hrun
  · cases h

theorem email_effect_same
    (hnext : ∀ position, next = some position → EmailGoesOn s s.provider run position) :
    EmailTurnEffect s number run s next :=
  ⟨rfl, rfl, fun _ row hrow => ⟨row, hrow⟩, fun _ _ => email_rows_kept, fun _ h => Or.inl h,
    fun _ h => h, fun h => h, hnext⟩

theorem email_effect_stop : EmailTurnEffect s number run s none := email_effect_same nofun

theorem EmailTurnEffect.stop (h : EmailTurnEffect s number run t next) :
    EmailTurnEffect s number run t none :=
  { h with next := nofun }

theorem email_effect_commit {done : EmailSystem} {after : Option EmailPosition}
    (h : s.commit done reply next = some (t, after))
    (hdone : EmailTurnEffect s number run done next) :
    EmailTurnEffect s number run t after := by
  unfold EmailSystem.commit at h
  split at h
  · cases h
    exact hdone
  · cases h
    exact hdone.stop
  · cases h
    exact email_effect_stop
  · cases h

theorem email_effect_update {guard : EmailRow → Bool} {change : EmailRow → EmailRow}
    (hmove : s.runs.lookup number = some run → ∀ event row,
      row.operationId = some run.operation.id →
        EmailMove s event run.rowId (some row) (some (change row)))
    (hnext : ∀ position, next = some position → EmailGoesOn s s.provider run position) :
    EmailTurnEffect s number run (s.update run guard change) next := by
  unfold EmailSystem.update
  split
  · rename_i row hselect
    obtain ⟨hrow, hguard⟩ := email_select_eq_some hselect
    simp only [Bool.and_eq_true, decide_eq_true_eq] at hguard
    exact ⟨rfl, rfl, fun _ found hfound => ⟨found, hfound⟩,
      fun hrun event => email_rows_of_one hrow (hmove hrun event row hguard.1),
      fun _ h => Or.inl h, fun _ h => h, fun h => h, hnext⟩
  · exact email_effect_same hnext

theorem email_effect_write {guard : EmailRow → Bool} {change : EmailRow → EmailRow}
    (hconnecting : run.position.connecting = true)
    (hdesired : ∀ row, (change row).desired = row.desired)
    (hoperation : ∀ row, (change row).operationId = row.operationId)
    (hstate : ∀ row, (change row).state = .disconnected → row.state = .disconnected)
    (hnext : ∀ position, next = some position → EmailGoesOn s s.provider run position) :
    EmailTurnEffect s number run (s.update run guard change) next :=
  email_effect_update (fun hrun _ row hbound =>
    .written hrun rfl hconnecting hbound (hdesired row) (hoperation row) (hstate row)) hnext

theorem email_effect_created
    (hcreated : provider.created = (run.rowId, resource) :: s.provider.created)
    (hremoved : provider.removed = s.provider.removed)
    (hgone : ∀ resource ∈ s.provider.removed, s.provider.Gone resource → provider.Gone resource)
    (hcreate : run.position.mayCreate = true)
    (hnext : ∀ position, next = some position → EmailGoesOn s provider run position) :
    EmailTurnEffect s number run { s with provider := provider } next where
  runs := rfl
  issued := rfl
  operations := fun _ row hrow => ⟨row, hrow⟩
  rows := fun _ _ => email_rows_kept
  created := by
    intro entry hmem
    rw [hcreated] at hmem
    rcases List.mem_cons.mp hmem with rfl | hold
    · exact Or.inr ⟨rfl, hcreate⟩
    · exact Or.inl hold
  removed := fun _ h => hremoved ▸ h
  gone := by
    intro h found hfound
    rw [hremoved] at hfound
    exact hgone found hfound (h found hfound)
  next := hnext

theorem email_effect_removed (hcreated : provider.created = s.provider.created)
    (hremoved : provider.removed = resource :: s.provider.removed)
    (hgone : ∀ found, found = resource ∨ s.provider.Gone found → provider.Gone found)
    (hnext : ∀ position, next = some position → EmailGoesOn s provider run position) :
    EmailTurnEffect s number run { s with provider := provider } next where
  runs := rfl
  issued := rfl
  operations := fun _ row hrow => ⟨row, hrow⟩
  rows := fun _ _ => email_rows_kept
  created := fun _ h => Or.inl (hcreated ▸ h)
  removed := by
    intro found h
    rw [hremoved]
    exact List.mem_cons_of_mem _ h
  gone := by
    intro h found hfound
    rw [hremoved] at hfound
    rcases List.mem_cons.mp hfound with rfl | hold
    · exact hgone found (Or.inl rfl)
    · exact hgone found (Or.inr (h found hold))
  next := hnext

theorem goesOn_afterWebhook {webhook domain : Option Uuid}
    (hremoving : run.position.removing = some (webhook, domain) ∨
      ∃ row, s.rows.lookup run.rowId = some row ∧ row.desired = .disconnected ∧
        (row.webhookRef, row.providerRef) = (webhook, domain))
    (hremoved : ∀ id, webhook = some id → MailResource.webhook id ∈ provider.removed) :
    EmailGoesOn s provider run (afterWebhook webhook domain) := by
  have hgone : ∀ resource ∈ (webhook.map MailResource.webhook).toList,
      resource ∈ provider.removed := by
    intro resource hmem
    cases webhook with
    | none => cases hmem
    | some id =>
      obtain rfl := List.mem_singleton.mp hmem
      exact hremoved id rfl
  cases domain with
  | none =>
    refine ⟨nofun, nofun, ?_, ?_⟩
    · rintro _ ⟨⟩
      exact hremoving
    · intro resource hmem
      rcases List.mem_append.mp hmem with hwebhook | hnone
      · exact Or.inr (hgone resource hwebhook)
      · cases hnone
  | some id =>
    refine ⟨nofun, nofun, ?_, fun resource hmem => Or.inr (hgone resource hmem)⟩
    rintro _ ⟨⟩
    exact hremoving

theorem goesOn_afterRead {row : EmailRow} (hrow : s.rows.lookup run.rowId = some row) :
    EmailGoesOn s provider run (afterRead row) := by
  unfold afterRead
  split
  · rename_i hunwanted
    split
    · rename_i webhook hwebhook
      refine ⟨nofun, nofun, ?_, nofun⟩
      rintro _ ⟨⟩
      exact Or.inr ⟨row, hrow, hunwanted, by rw [hwebhook]⟩
    · rename_i hnone
      exact goesOn_afterWebhook (Or.inr ⟨row, hrow, hunwanted, by rw [hnone]⟩) nofun
  · rename_i hwanted
    split <;> exact ⟨fun _ => Or.inr ⟨row, hrow, hwanted⟩, fun _ => Or.inr ⟨row, hrow, hwanted⟩,
      nofun, nofun⟩

theorem nextState_ne_disconnected (observation : EmailDomainObservation) :
    observation.nextState ≠ .disconnected := by
  unfold EmailDomainObservation.nextState
  split
  · decide
  · split <;> decide

theorem email_turn_effect (h : s.turn run reply = some (t, next)) :
    EmailTurnEffect s number run t next := by
  unfold EmailSystem.turn at h
  split at h
  case h_1 hposition =>
    split at h
    · split at h
      · rename_i row hselect
        cases h
        refine email_effect_same ?_
        rintro _ ⟨⟩
        exact goesOn_afterRead (email_select_eq_some hselect).1
      · cases h
        exact email_effect_stop
    · cases h
      exact email_effect_stop
    · cases h
  case h_2 webhook domain hposition =>
    refine email_effect_commit h (email_effect_removed rfl rfl
      (fun _ => MailProvider.gone_deleteWebhook webhook) ?_)
    rintro _ ⟨⟩
    refine goesOn_afterWebhook (Or.inl (by rw [hposition]; rfl)) ?_
    rintro _ ⟨⟩
    exact List.mem_cons_self
  case h_3 webhook domain hposition =>
    refine email_effect_commit h (email_effect_removed rfl rfl
      (fun _ => MailProvider.gone_revoke domain) ?_)
    rintro _ ⟨⟩
    refine ⟨nofun, nofun, ?_, ?_⟩
    · rintro _ ⟨⟩
      exact Or.inl (by rw [hposition]; rfl)
    · intro resource hmem
      rcases List.mem_append.mp hmem with hwebhook | hdomain
      · exact Or.inl (by rw [hposition]; exact hwebhook)
      · obtain rfl := List.mem_singleton.mp hdomain
        exact Or.inr List.mem_cons_self
  case h_4 webhook domain hposition =>
    exact email_effect_commit h
      (email_effect_update (fun hrun _ _ _ => .finished hrun rfl hposition) nofun)
  case h_5 snapshot domain hposition =>
    have hcreate : run.position.mayCreate = true := by rw [hposition]; rfl
    split at h
    · cases h
      refine email_effect_same ?_
      rintro _ ⟨⟩
      exact goesOn_connecting rfl (EmailPosition.connecting_of_mayCreate hcreate) fun _ => hcreate
    · cases h
      exact email_effect_stop
    · cases h
  case h_6 snapshot domain hposition =>
    have hcreate : run.position.mayCreate = true := by rw [hposition]; rfl
    split at h
    · split at h
      · cases h
        exact email_effect_same (goesOn_afterObservation hcreate)
      · cases h
        exact email_effect_stop
    · cases h
      exact email_effect_stop
    · cases h
  case h_7 snapshot hposition =>
    have hcreate : run.position.mayCreate = true := by rw [hposition]; rfl
    split at h
    · obtain ⟨provider, hprovider, heq⟩ := Option.map_eq_some_iff.mp h
      cases heq
      obtain ⟨hcreated, hremoved, hgone⟩ := MailProvider.gone_of_created hprovider
      exact email_effect_created hcreated hremoved hgone hcreate (goesOn_afterObservation hcreate)
    · obtain ⟨provider, hprovider, heq⟩ := Option.map_eq_some_iff.mp h
      cases heq
      obtain ⟨hcreated, hremoved, hgone⟩ := MailProvider.gone_of_created hprovider
      exact email_effect_created hcreated hremoved hgone hcreate nofun
    · cases h
      exact email_effect_stop
    · cases h
  case h_8 snapshot observation hposition =>
    have hcreate : run.position.mayCreate = true := by rw [hposition]; rfl
    have hconnecting := EmailPosition.connecting_of_mayCreate hcreate
    refine email_effect_commit h (email_effect_write hconnecting (fun _ => rfl) (fun _ => rfl)
      (fun _ hstate => absurd hstate (nextState_ne_disconnected observation)) ?_)
    intro position hposition'
    split at hposition'
    · cases hposition'
      exact goesOn_connecting rfl hconnecting fun _ => hcreate
    · cases hposition'
  case h_9 snapshot domain hposition =>
    have hcreate : run.position.mayCreate = true := by rw [hposition]; rfl
    have hconnecting := EmailPosition.connecting_of_mayCreate hcreate
    split at h
    · split at h
      case h_1 | h_2 =>
        cases h
        refine email_effect_same ?_
        rintro _ ⟨⟩
        exact goesOn_connecting rfl hconnecting fun _ => hcreate
      · cases h
        exact email_effect_stop
    · cases h
      exact email_effect_stop
    · cases h
  case h_10 snapshot domain hposition =>
    have hcreate : run.position.mayCreate = true := by rw [hposition]; rfl
    split at h
    · obtain ⟨provider, hprovider, heq⟩ := Option.map_eq_some_iff.mp h
      cases heq
      obtain ⟨hcreated, hremoved, hgone⟩ := MailProvider.gone_of_createdWebhook hprovider
      refine email_effect_created hcreated hremoved hgone hcreate ?_
      rintro _ ⟨⟩
      exact goesOn_connecting rfl (EmailPosition.connecting_of_mayCreate hcreate) fun _ => hcreate
    · obtain ⟨provider, hprovider, heq⟩ := Option.map_eq_some_iff.mp h
      cases heq
      obtain ⟨hcreated, hremoved, hgone⟩ := MailProvider.gone_of_createdWebhook hprovider
      exact email_effect_created hcreated hremoved hgone hcreate nofun
    · cases h
      exact email_effect_stop
    · cases h
  case h_11 snapshot webhook hposition =>
    have hconnecting : run.position.connecting = true := by rw [hposition]; rfl
    refine email_effect_commit h (email_effect_write hconnecting (fun _ => rfl) (fun _ => rfl)
      (fun _ hstate => hstate) ?_)
    intro position hposition'
    unfold afterStoredWebhook at hposition'
    split at hposition'
    · cases hposition'
      exact goesOn_connecting rfl hconnecting nofun
    · split at hposition'
      · cases hposition'
        exact goesOn_connecting rfl hconnecting nofun
      · cases hposition'
  case h_12 hposition =>
    exact email_effect_commit h (email_effect_write (by rw [hposition]; rfl) (fun _ => rfl)
      (fun _ => rfl) (fun _ => nofun) nofun)
  case h_13 hposition =>
    have hconnecting : run.position.connecting = true := by rw [hposition]; rfl
    split at h
    · cases h
      exact email_effect_write hconnecting (fun _ => rfl) (fun _ => rfl) (fun _ => nofun) nofun
    · cases h
      refine email_effect_same ?_
      rintro _ ⟨⟩
      exact goesOn_connecting rfl hconnecting nofun
    · cases h
      exact email_effect_stop
    · cases h
  case h_14 hposition =>
    have hconnecting : run.position.connecting = true := by rw [hposition]; rfl
    split at h
    · rename_i outbox operation
      obtain ⟨u, hu, heq⟩ := Option.map_eq_some_iff.mp h
      cases heq
      obtain ⟨hfresh, added, rfl⟩ := email_withOperation_eq_some hu
      have hoperations : ∀ id row, s.queue.operations.lookup id = some row →
          ∃ later, (s.queue.operations.insert operation added).lookup id = some later :=
        fun id row hrow => ⟨row, le_insert hfresh added id row hrow⟩
      unfold EmailSystem.update
      split
      · rename_i row hselect
        obtain ⟨hrow, hguard⟩ := email_select_eq_some hselect
        simp only [Bool.and_eq_true, decide_eq_true_eq] at hguard
        exact ⟨rfl, rfl, hoperations, fun hrun event => email_rows_of_one hrow
            (.written hrun rfl hconnecting hguard.1 rfl rfl fun hstate => hstate),
          fun _ hmem => Or.inl hmem, fun _ hmem => hmem, fun hgone => hgone, nofun⟩
      · exact ⟨rfl, rfl, hoperations, fun _ _ => email_rows_kept, fun _ hmem => Or.inl hmem,
          fun _ hmem => hmem, fun hgone => hgone, nofun⟩
    · cases h
      exact email_effect_stop
    · cases h

end Turns

/-- Everything one step of the system can do. -/
structure EmailEffect (s : EmailSystem) (event : EmailEvent) (t : EmailSystem) : Prop where
  operations : ∀ id row, s.queue.operations.lookup id = some row →
    ∃ later, t.queue.operations.lookup id = some later
  issued : ∀ operation ∈ t.queue.issued, operation ∈ s.queue.issued ∨
    ∃ row, t.queue.operations.lookup operation.id = some row
  rows : ∀ id, EmailMove s event id (s.rows.lookup id) (t.rows.lookup id)
  created : ∀ entry ∈ t.provider.created, entry ∈ s.provider.created ∨
    ∃ number run, s.runs.lookup number = some run ∧ run.rowId = entry.1 ∧
      run.position.mayCreate = true
  removed : ∀ resource ∈ s.provider.removed, resource ∈ t.provider.removed
  gone : (∀ resource ∈ s.provider.removed, s.provider.Gone resource) →
    ∀ resource ∈ t.provider.removed, t.provider.Gone resource
  runs : ∀ number run, t.runs.lookup number = some run → s.runs.lookup number = some run ∨
    (run.position = .read ∧ run.operation ∈ s.queue.issued) ∨
    ∃ before, s.runs.lookup number = some before ∧ run.rowId = before.rowId ∧
      run.operation = before.operation ∧ EmailGoesOn s t.provider before run.position
  /-- The API's calls leave the attempts and the provider alone. -/
  closed : ∀ row workshop operation, event = .disconnect row workshop operation →
    t.runs = s.runs ∧ t.provider = s.provider

section Steps

variable {s t : EmailSystem} {event : EmailEvent}

theorem email_effect_of_rows (hoperations : ∀ id row, s.queue.operations.lookup id = some row →
      ∃ later, t.queue.operations.lookup id = some later)
    (hissued : t.queue.issued = s.queue.issued)
    (hrows : ∀ id, EmailMove s event id (s.rows.lookup id) (t.rows.lookup id))
    (hprovider : t.provider = s.provider) (hruns : t.runs = s.runs) : EmailEffect s event t where
  operations := hoperations
  issued := fun _ hmem => Or.inl (hissued ▸ hmem)
  rows := hrows
  created := fun _ hmem => Or.inl (hprovider ▸ hmem)
  removed := fun _ hmem => hprovider ▸ hmem
  gone := by
    rw [hprovider]
    exact fun h => h
  runs := fun _ _ hrun => Or.inl (hruns ▸ hrun)
  closed := fun _ _ _ _ => ⟨hruns, hprovider⟩

theorem email_operations_inserted {operations : Operations} {inserted : Uuid}
    {added : OperationRow} (hfresh : operations.lookup inserted = none) (id : Uuid)
    (row : OperationRow) (h : operations.lookup id = some row) :
    ∃ later, (operations.insert inserted added).lookup id = some later :=
  ⟨row, le_insert hfresh added id row h⟩

theorem email_effect (h : s.step event = some t) : EmailEffect s event t := by
  cases event with
  | queue call =>
    obtain ⟨queue, hqueue, rfl⟩ := Option.map_eq_some_iff.mp h
    refine ⟨fun id row hrow => ?_, ?_, email_rows_kept, fun _ h => Or.inl h, fun _ h => h,
      fun h => h, fun _ _ h => Or.inl h, nofun⟩
    · obtain ⟨later, hlater, -⟩ := QueueState.step_later hqueue hrow
      exact ⟨later, hlater⟩
    rcases QueueState.step_issued hqueue with hsame | ⟨id, row, worker, -, hinserted, hgranted⟩
    · intro operation hmem
      exact Or.inl (hsame ▸ hmem)
    intro operation hmem
    rw [show ({ s with queue := queue } : EmailSystem).queue = queue from rfl, hgranted] at hmem
    rcases List.mem_append.mp hmem with hold | hnew
    · exact Or.inl hold
    · obtain rfl := List.mem_singleton.mp hnew
      refine Or.inr ⟨row.leaseTo s.queue.now worker, ?_⟩
      rw [show ({ s with queue := queue } : EmailSystem).queue = queue from rfl, hinserted]
      exact AList.lookup_insert _
  | enqueue id kind workshop payload =>
    obtain ⟨hfresh, row, rfl⟩ := email_withOperation_eq_some h
    exact email_effect_of_rows (email_operations_inserted hfresh) rfl email_rows_kept rfl rfl
  | create row workshop domainName operation =>
    simp only [EmailSystem.step] at h
    split at h
    · rename_i hguard
      obtain ⟨u, hu, rfl⟩ := Option.map_eq_some_iff.mp h
      obtain ⟨hfresh, added, rfl⟩ := email_withOperation_eq_some hu
      exact email_effect_of_rows (email_operations_inserted hfresh) rfl
        (email_rows_of_one hguard.1 (.requested hfresh)) rfl rfl
    · cases h
  | check row workshop operation =>
    simp only [EmailSystem.step] at h
    split at h
    · rename_i value hselect
      obtain ⟨u, hu, rfl⟩ := Option.map_eq_some_iff.mp h
      obtain ⟨hfresh, added, rfl⟩ := email_withOperation_eq_some hu
      exact email_effect_of_rows (email_operations_inserted hfresh) rfl
        (email_rows_of_one (email_select_eq_some hselect).1
          (.kept rfl rfl rfl (fun hstate => hstate) (Or.inr ⟨operation, hfresh, rfl⟩))) rfl rfl
    · cases h
  | disconnect row workshop operation =>
    simp only [EmailSystem.step] at h
    split at h
    · rename_i value hselect
      obtain ⟨u, hu, rfl⟩ := Option.map_eq_some_iff.mp h
      obtain ⟨hfresh, added, rfl⟩ := email_withOperation_eq_some hu
      exact email_effect_of_rows (email_operations_inserted hfresh) rfl
        (email_rows_of_one (email_select_eq_some hselect).1 (.closed hfresh rfl)) rfl rfl
    · cases h
  | admitDue row operation =>
    simp only [EmailSystem.step] at h
    split at h
    · rename_i value hrow
      split at h
      · obtain ⟨u, hu, rfl⟩ := Option.map_eq_some_iff.mp h
        obtain ⟨hfresh, added, rfl⟩ := email_withOperation_eq_some hu
        exact email_effect_of_rows (email_operations_inserted hfresh) rfl (email_rows_of_one hrow
            (.kept rfl rfl rfl (fun hstate => hstate) (Or.inr ⟨operation, hfresh, rfl⟩))) rfl rfl
      · cases h
    · cases h
  | delivered row =>
    simp only [EmailSystem.step] at h
    split at h
    · rename_i value hrow
      split at h
      · cases h
        exact email_effect_of_rows (fun _ found hfound => ⟨found, hfound⟩) rfl
          (email_rows_of_one hrow (.kept rfl rfl rfl (fun hstate => hstate) (Or.inl rfl))) rfl rfl
      · cases h
    · cases h
  | failed operation workshop row =>
    simp only [EmailSystem.step] at h
    split at h
    · obtain ⟨value, hselect, rfl⟩ := Option.map_eq_some_iff.mp h
      exact email_effect_of_rows (fun _ found hfound => ⟨found, hfound⟩) rfl
        (email_rows_of_one (email_select_eq_some hselect).1
          (.kept rfl rfl rfl nofun (Or.inl rfl))) rfl rfl
    · cases h
  | start number operation workshop row =>
    simp only [EmailSystem.step] at h
    split at h
    · rename_i hguard
      cases h
      refine ⟨fun _ found hfound => ⟨found, hfound⟩, fun _ h => Or.inl h, email_rows_kept,
        fun _ h => Or.inl h, fun _ h => h, fun h => h, ?_, nofun⟩
      intro other run hrun
      rcases lookup_insert_cases hrun with ⟨rfl, rfl⟩ | ⟨-, hold⟩
      · exact Or.inr (Or.inl ⟨rfl, hguard.2.1⟩)
      · exact Or.inl hold
    · cases h
  | crash number =>
    cases h
    exact ⟨fun _ found hfound => ⟨found, hfound⟩, fun _ h => Or.inl h, email_rows_kept,
      fun _ h => Or.inl h, fun _ h => h, fun h => h,
      fun _ _ hrun => Or.inl (lookup_of_erase hrun), nofun⟩
  | work number reply =>
    simp only [EmailSystem.step] at h
    split at h
    · cases h
    rename_i run hrun
    obtain ⟨⟨u, next⟩, hturn, rfl⟩ := Option.map_eq_some_iff.mp h
    have heffect : EmailTurnEffect s number run u next := email_turn_effect hturn
    refine ⟨heffect.operations, ?_, heffect.rows hrun _, ?_, heffect.removed, heffect.gone,
      ?_, nofun⟩
    · intro operation hmem
      exact Or.inl (heffect.issued ▸ hmem)
    · intro entry hmem
      rcases heffect.created entry hmem with hold | ⟨hown, hcreate⟩
      · exact Or.inl hold
      · exact Or.inr ⟨number, run, hrun, hown.symm, hcreate⟩
    intro other run' hrun'
    simp only [EmailSystem.taken] at hrun'
    split at hrun'
    · rw [heffect.runs] at hrun'
      rcases lookup_insert_cases hrun' with ⟨rfl, rfl⟩ | ⟨-, hold⟩
      · exact Or.inr (Or.inr ⟨run, hrun, rfl, rfl, heffect.next _ rfl⟩)
      · exact Or.inl hold
    · rw [heffect.runs] at hrun'
      exact Or.inl (lookup_of_erase hrun')

end Steps

/-! ## What holds in every reachable state -/

/-- What the rows, the attempts and the provider know of each other. -/
structure EmailSound (s : EmailSystem) : Prop where
  issued : ∀ operation ∈ s.queue.issued, ∃ row, s.queue.operations.lookup operation.id = some row
  known : ∀ number run, s.runs.lookup number = some run →
    ∃ row, s.queue.operations.lookup run.operation.id = some row
  finished : ∀ id row, s.rows.lookup id = some row → row.state = .disconnected →
    row.desired = .disconnected
  /-- A row that is still bound to an attempt to connect it is wanted. -/
  connecting : ∀ number run row, s.runs.lookup number = some run →
    run.position.connecting = true → s.rows.lookup run.rowId = some row →
    row.operationId = some run.operation.id → row.desired ≠ .disconnected
  /-- An attempt to disconnect a row knows what the row records. -/
  removing : ∀ number run recorded, s.runs.lookup number = some run →
    run.position.removing = some recorded → ∃ row, s.rows.lookup run.rowId = some row ∧
      row.desired = .disconnected ∧ (row.webhookRef, row.providerRef) = recorded
  removed : ∀ number run, s.runs.lookup number = some run →
    ∀ resource ∈ run.position.removed, resource ∈ s.provider.removed
  gone : ∀ resource ∈ s.provider.removed, s.provider.Gone resource

section Sound

variable {s t : EmailSystem} {event : EmailEvent}

variable {id : Uuid}

/-- A row that is to be disconnected stays so and keeps what it records, until an attempt
that has removed all of it finishes the row. -/
theorem EmailSound.unwanted (hsound : EmailSound s) (heffect : EmailEffect s event t)
    {row : EmailRow} (hrow : s.rows.lookup id = some row)
    (hunwanted : row.desired = .disconnected) :
    ∃ row', t.rows.lookup id = some row' ∧ row'.desired = .disconnected ∧
      row'.providerRef = row.providerRef ∧ row'.webhookRef = row.webhookRef ∧
      ((row'.state = .disconnected → row.state = .disconnected) ∨
        ∃ number run webhook domain, s.runs.lookup number = some run ∧ run.rowId = id ∧
          run.position = .finish webhook domain) := by
  have hmove := heffect.rows id
  rw [hrow] at hmove
  generalize hafter : t.rows.lookup id = after at hmove
  cases hmove with
  | kept desired providerRef webhookRef state operationId =>
    exact ⟨_, rfl, desired.trans hunwanted, providerRef, webhookRef, Or.inl state⟩
  | closed fresh called => exact ⟨_, rfl, rfl, rfl, rfl, Or.inl nofun⟩
  | written found own connecting current desired operationId state =>
    subst own
    exact absurd hunwanted (hsound.connecting _ _ _ found connecting hrow current)
  | finished found own last =>
    exact ⟨_, rfl, hunwanted, rfl, rfl, Or.inr ⟨_, _, _, _, found, own, last⟩⟩

/-- A row that is wanted and bound to an operation that exists stays wanted as long as it is
bound to it. -/
theorem EmailEffect.bound_before (heffect : EmailEffect s event t) {operation : Uuid}
    {row' : EmailRow} {known : OperationRow}
    (hknown : s.queue.operations.lookup operation = some known)
    (hrow' : t.rows.lookup id = some row') (hbound : row'.operationId = some operation) :
    ∃ row, s.rows.lookup id = some row ∧ row.operationId = some operation ∧
      row'.desired = row.desired := by
  have hmove := heffect.rows id
  rw [hrow'] at hmove
  generalize hbefore : s.rows.lookup id = before at hmove
  have hfresh : ∀ other, s.queue.operations.lookup other = none → some other ≠ some operation := by
    rintro other hother heq
    rw [Option.some.inj heq, hknown] at hother
    cases hother
  cases hmove with
  | kept desired providerRef webhookRef state operationId =>
    rcases operationId with hsame | ⟨other, hother, hnew⟩
    · exact ⟨_, rfl, hsame.symm.trans hbound, desired⟩
    · exact absurd (hnew.symm.trans hbound) (hfresh other hother)
  | requested fresh | closed fresh called => exact absurd hbound (hfresh _ fresh)
  | written found own connecting current desired operationId state =>
    exact ⟨_, rfl, operationId.symm.trans hbound, desired⟩
  | finished found own last => exact ⟨_, rfl, hbound, rfl⟩

theorem EmailSound.step (hsound : EmailSound s) (hstep : s.step event = some t) : EmailSound t := by
  have heffect := email_effect hstep
  -- The attempts of the new state, traced back to those of the old one.
  have hknown : ∀ number run, t.runs.lookup number = some run →
      ∃ row, s.queue.operations.lookup run.operation.id = some row := by
    intro number run hrun
    rcases heffect.runs number run hrun with hold | ⟨-, hissued⟩ | ⟨before, hold, -, hsame, -⟩
    · exact hsound.known number run hold
    · exact hsound.issued _ hissued
    · rw [hsame]
      exact hsound.known number before hold
  refine ⟨?_, ?_, ?_, ?_, ?_, ?_, heffect.gone hsound.gone⟩
  · intro operation hmem
    rcases heffect.issued operation hmem with hold | hnew
    · obtain ⟨row, hrow⟩ := hsound.issued operation hold
      exact heffect.operations _ row hrow
    · exact hnew
  · intro number run hrun
    obtain ⟨row, hrow⟩ := hknown number run hrun
    exact heffect.operations _ row hrow
  · intro id row hrow hstate
    have hmove := heffect.rows id
    rw [hrow] at hmove
    generalize hbefore : s.rows.lookup id = before at hmove
    cases hmove with
    | kept desired providerRef webhookRef state operationId
    | written found own connecting current desired operationId state =>
      exact desired.trans (hsound.finished id _ hbefore (state hstate))
    | requested fresh => cases hstate
    | closed fresh called => rfl
    | finished found own last =>
      subst own
      obtain ⟨row, hfound, hunwanted, -⟩ := hsound.removing _ _ _ found (by rw [last]; rfl)
      rw [hbefore] at hfound
      cases hfound
      exact hunwanted
  · intro number run row hrun hconnecting hrow hbound
    obtain ⟨known, hknownRow⟩ := hknown number run hrun
    obtain ⟨before, hbefore, hboundBefore, hdesired⟩ :=
      heffect.bound_before hknownRow hrow hbound
    rw [hdesired]
    rcases heffect.runs number run hrun with hold | ⟨hread, -⟩ | ⟨earlier, hold, hown, hsame, hnext⟩
    · exact hsound.connecting number run before hold hconnecting hbefore hboundBefore
    · rw [hread] at hconnecting
      cases hconnecting
    rw [hown] at hbefore
    rw [hsame] at hboundBefore
    rcases hnext.connecting hconnecting with hwas | ⟨found, hfound, hwanted⟩
    · exact hsound.connecting number earlier before hold hwas hbefore hboundBefore
    · rw [hbefore] at hfound
      cases hfound
      exact hwanted
  · intro number run recorded hrun hremoving
    have hbefore : ∃ row, s.rows.lookup run.rowId = some row ∧ row.desired = .disconnected ∧
        (row.webhookRef, row.providerRef) = recorded := by
      rcases heffect.runs number run hrun with hold | ⟨hread, -⟩ | ⟨earlier, hold, hown, -, hnext⟩
      · exact hsound.removing number run recorded hold hremoving
      · rw [hread] at hremoving
        cases hremoving
      · rw [hown]
        rcases hnext.removing recorded hremoving with hwas | hfound
        · exact hsound.removing number earlier recorded hold hwas
        · exact hfound
    obtain ⟨row, hrow, hunwanted, hrecorded⟩ := hbefore
    obtain ⟨row', hrow', hunwanted', hprovider, hwebhook, -⟩ :=
      hsound.unwanted heffect hrow hunwanted
    exact ⟨row', hrow', hunwanted', by rw [hprovider, hwebhook]; exact hrecorded⟩
  · intro number run hrun resource hmem
    rcases heffect.runs number run hrun with hold | ⟨hread, -⟩ | ⟨earlier, hold, -, -, hnext⟩
    · exact heffect.removed _ (hsound.removed number run hold resource hmem)
    · rw [hread] at hmem
      cases hmem
    · rcases hnext.removed resource hmem with hwas | hnow
      · exact heffect.removed _ (hsound.removed number earlier hold resource hwas)
      · exact hnow

end Sound

theorem emailSound_start (now : Timestamp) : EmailSound (.start now) where
  issued := fun _ hmem => by cases hmem
  known := fun _ _ hrun => by cases hrun
  finished := fun _ _ hrow => by cases hrow
  connecting := fun _ _ _ hrun => by cases hrun
  removing := fun _ _ _ hrun => by cases hrun
  removed := fun _ _ hrun => by cases hrun
  gone := fun _ hmem => by cases hmem

/-! ## Nothing is left behind -/

/-- The row names the resource. -/
def EmailRow.Records (row : EmailRow) : MailResource → Prop
  | .domain id => row.providerRef = some id
  | .webhook id => row.webhookRef = some id

instance (row : EmailRow) : DecidablePred row.Records
  | .domain id => inferInstanceAs (Decidable (row.providerRef = some id))
  | .webhook id => inferInstanceAs (Decidable (row.webhookRef = some id))

/-- What the provider holds for a row, as resources in custody. -/
def mailCustody (s : EmailSystem) (id : Uuid) : Custody MailResource where
  wanted := ∀ row, s.rows.lookup id = some row → row.desired ≠ .disconnected
  creating := ∃ number run, s.runs.lookup number = some run ∧ run.rowId = id ∧
    run.position.mayCreate = true
  recorded := { resource | ∃ row, s.rows.lookup id = some row ∧ row.Records resource }
  created := { resource | (id, resource) ∈ s.provider.created }
  gone := { resource | resource ∈ s.provider.removed }
  released := ∃ row, s.rows.lookup id = some row ∧ row.state = .disconnected

namespace EmailSystem

/-- No attempt may still create anything for the row, and what was created for it is on
record there. -/
def settled (s : EmailSystem) (id : Uuid) : Bool :=
  (s.runs.allRows fun _ run => decide (run.rowId ≠ id) || !run.position.mayCreate) &&
    s.provider.created.all fun entry => decide (entry.1 ≠ id) ||
      (s.rows.lookup id).any fun row => decide (row.Records entry.2)

/-- A sender domain is disconnected through the API only when it is settled. -/
def disconnectsSettled (s : EmailSystem) : EmailEvent → Bool
  | .disconnect row _ _ => s.settled row
  | _ => true

end EmailSystem

theorem mail_settled_iff {s : EmailSystem} {id : Uuid} : s.settled id = true ↔
      ¬ (mailCustody s id).creating ∧ (mailCustody s id).created ⊆ (mailCustody s id).recorded := by
  simp only [EmailSystem.settled, Bool.and_eq_true, allRows_iff, List.all_eq_true,
    Bool.or_eq_true, decide_eq_true_eq, Bool.not_eq_true', Option.any_eq_true]
  constructor
  · rintro ⟨hruns, hcreated⟩
    refine ⟨?_, ?_⟩
    · rintro ⟨number, run, hrun, hown, hcreate⟩
      rcases hruns number run hrun with hne | hnot
      · exact hne hown
      · rw [hcreate] at hnot
        cases hnot
    · intro resource hmem
      rcases hcreated _ hmem with hne | hrow
      · exact absurd rfl hne
      · exact hrow
  · rintro ⟨hquiet, hknown⟩
    refine ⟨?_, ?_⟩
    · intro number run hrun
      by_cases hown : run.rowId = id
      · refine Or.inr (Bool.eq_false_iff.mpr fun hcreate => ?_)
        exact hquiet ⟨number, run, hrun, hown, hcreate⟩
      · exact Or.inl hown
    · rintro ⟨other, resource⟩ hmem
      by_cases hown : other = id
      · subst hown
        exact Or.inr (hknown hmem)
      · exact Or.inl hown

section Custody

variable {s t : EmailSystem} {event : EmailEvent} {id : Uuid}

/-- What an attempt that finishes a row has removed is all that the row records. -/
theorem EmailSound.removed_of_finishing (hsound : EmailSound s) {number : Nat} {run : EmailRun}
    {webhook domain : Option Uuid} (hrun : s.runs.lookup number = some run)
    (hposition : run.position = .finish webhook domain) :
    (mailCustody s run.rowId).recorded ⊆ (mailCustody s run.rowId).gone := by
  rintro resource ⟨row, hrow, hrecords⟩
  obtain ⟨found, hfound, -, hrecorded⟩ := hsound.removing number run _ hrun (by rw [hposition]; rfl)
  rw [hrow] at hfound
  cases hfound
  cases hrecorded
  refine hsound.removed number run hrun resource ?_
  rw [hposition]
  cases resource with
  | domain id =>
    rw [show row.providerRef = some id from hrecords]
    exact List.mem_append_right _ List.mem_cons_self
  | webhook id =>
    rw [show row.webhookRef = some id from hrecords]
    exact List.mem_append_left _ List.mem_cons_self

theorem mailCustody_removing (hsound : EmailSound s) (hcustody : (mailCustody s id).Sound)
    (heffect : EmailEffect s event t) {row : EmailRow} (hrow : s.rows.lookup id = some row)
    (hunwanted : row.desired = .disconnected) :
    Custody.Move (mailCustody s id) (mailCustody t id) := by
  have hbefore : ¬ (mailCustody s id).wanted := fun h => h row hrow hunwanted
  obtain ⟨hquiet, -⟩ := hcustody.settled hbefore
  obtain ⟨row', hrow', hunwanted', hprovider, hwebhook, hrest⟩ :=
    hsound.unwanted heffect hrow hunwanted
  refine .removing hbefore (fun h => h row' hrow' hunwanted') ?_ ?_ ?_ heffect.removed ?_
  · rintro ⟨number, run, hrun, rfl, hcreate⟩
    rcases heffect.runs number run hrun with hold | ⟨hread, -⟩ | ⟨before, hold, hown, -, hnext⟩
    · exact ⟨number, run, hold, rfl, hcreate⟩
    · rw [hread] at hcreate
      cases hcreate
    · rcases hnext.creating hcreate with hmay | ⟨found, hfound, hwanted⟩
      · exact ⟨number, before, hold, hown.symm, hmay⟩
      · rw [← hown, hrow] at hfound
        cases hfound
        exact absurd hunwanted hwanted
  · intro resource hmem
    rcases heffect.created _ hmem with hold | ⟨number, run, hrun, hown, hcreate⟩
    · exact hold
    · exact absurd ⟨number, run, hrun, hown, hcreate⟩ hquiet
  · rintro resource ⟨found, hfound, hrecords⟩
    rw [hrow] at hfound
    cases hfound
    refine Or.inl ⟨row', hrow', ?_⟩
    cases resource with
    | domain id => exact hprovider.trans hrecords
    | webhook id => exact hwebhook.trans hrecords
  · rintro ⟨found, hfound, hstate⟩
    rw [hrow'] at hfound
    cases hfound
    rcases hrest with hkept | ⟨number, run, webhook, domain, hrun, rfl, hposition⟩
    · exact Or.inl ⟨row, hrow, hkept hstate⟩
    · exact Or.inr fun resource hmem =>
        heffect.removed _ (hsound.removed_of_finishing hrun hposition hmem)

/-- Every step is a move of each row's custody, if disconnections come at settled moments. -/
theorem mailCustody_step (hsound : EmailSound s) (hcustody : (mailCustody s id).Sound)
    (hstep : s.step event = some t) (hgood : s.disconnectsSettled event = true) :
    Custody.Move (mailCustody s id) (mailCustody t id) := by
  have heffect := email_effect hstep
  have hfinished := (hsound.step hstep).finished
  by_cases hbefore : (mailCustody s id).wanted
  · by_cases hafter : (mailCustody t id).wanted
    · refine .acquiring hbefore hafter ?_
      rintro ⟨row, hrow, hstate⟩
      exact hafter row hrow (hfinished id row hrow hstate)
    -- The row was wanted before and is not wanted now, so the step was the disconnection.
    simp only [mailCustody, not_forall, not_not] at hafter
    obtain ⟨row', hrow', hunwanted⟩ := hafter
    have hmove := heffect.rows id
    rw [hrow'] at hmove
    generalize hfound : s.rows.lookup id = before at hmove
    cases hmove with
    | kept desired providerRef webhookRef state operationId
    | written found own connecting current desired operationId state =>
      exact absurd (desired.symm.trans hunwanted) (hbefore _ hfound)
    | requested fresh => cases hunwanted
    | finished found own last => exact (hbefore _ hfound hunwanted).elim
    | closed fresh called =>
      obtain ⟨hruns, hprovider⟩ := heffect.closed _ _ _ called
      rw [called] at hgood
      obtain ⟨hquiet, hknown⟩ := mail_settled_iff.mp hgood
      refine .close ?_ ?_ ?_
      · rintro ⟨number, run, hrun, hown, hcreate⟩
        rw [hruns] at hrun
        exact hquiet ⟨number, run, hrun, hown, hcreate⟩
      · intro resource hmem
        have hold : resource ∈ (mailCustody s id).created := by
          simpa only [mailCustody, hprovider] using hmem
        obtain ⟨row, hrow, hrecords⟩ := hknown hold
        rw [hfound] at hrow
        cases hrow
        refine Or.inl ⟨_, hrow', ?_⟩
        cases resource <;> exact hrecords
      · rintro ⟨row, hrow, hdone⟩
        rw [hrow'] at hrow
        cases hrow
        cases hdone
  · simp only [mailCustody, not_forall, not_not] at hbefore
    obtain ⟨row, hrow, hunwanted⟩ := hbefore
    exact mailCustody_removing hsound hcustody heffect hrow hunwanted

end Custody

theorem mailCustody_start (now : Timestamp) (id : Uuid) : (mailCustody (.start now) id).Sound := by
  constructor
  · intro hunwanted
    refine absurd ?_ hunwanted
    intro row hrow
    cases hrow
  · rintro ⟨row, hrow, -⟩
    cases hrow

/-- **A disconnected sender domain leaves nothing at the provider**, in every run in which
rows are disconnected only at settled moments: each mail domain that was created for it is
revoked, and each webhook is deleted. -/
theorem disconnected_leaves_no_mail_resource {now : Timestamp} {events : List EmailEvent}
    {s : EmailSystem}
    (hrun : RunWhere EmailSystem.step
      (fun before event => before.disconnectsSettled event = true) (.start now) events s)
    {id : Uuid} {row : EmailRow} (hrow : s.rows.lookup id = some row)
    (hstate : row.state = .disconnected) {resource : MailResource}
    (hcreated : (id, resource) ∈ s.provider.created) : s.provider.Gone resource := by
  have hinvariant : EmailSound s ∧ (mailCustody s id).Sound :=
    hrun.invariant (P := fun s => EmailSound s ∧ (mailCustody s id).Sound)
      (fun before event after hsound hgood hstep =>
        ⟨hsound.1.step hstep, hsound.2.move (mailCustody_step hsound.1 hsound.2 hstep hgood)⟩)
      ⟨emailSound_start now, mailCustody_start now id⟩
  exact hinvariant.1.gone _ ((hinvariant.2.empty ⟨row, hrow, hstate⟩).2 hcreated)

/-! ## One sender domain -/

section Sender

/-- The handle of the first attempt of a reconcile operation. -/
def senderAttempt (operation : Uuid) (reason : String) : LeasedOperation :=
  (OperationRow.enqueued .webshopEmailDomainReconcile (some 7) none none (emailPayload 1 reason)
    0).handle operation "worker"

def senderLease : EmailEvent :=
  .queue (.lease .tenantReconciliation "worker" fun _ => false)

/-- The sender domain is requested, and an attempt reads its row. -/
def senderConnecting : List EmailEvent :=
  [.create 1 7 "mail.example" 100, senderLease, .start 0 (senderAttempt 100 "created") 7 1,
    .work 0 .ok]

/-- The row is disconnected through the API, and an attempt reads it. -/
def senderDisconnecting : List EmailEvent :=
  [.disconnect 1 7 101, senderLease, .start 1 (senderAttempt 101 "disconnect") 7 1, .work 1 .ok]

/-- The answer to the creation is lost. -/
def senderLost : List EmailEvent :=
  senderConnecting ++ [.work 0 (.createdLost 50 .unavailable)] ++ senderDisconnecting ++
    [.work 1 .ok]

def senderVerified : Json :=
  .object [("dkim_record", .object [("status", .string "valid")]),
    ("dmarc_record", .object [("status", .string "valid")]),
    ("spf_record", .object [("status", .string "valid")])]

/-- The mail domain is created and recorded; a manual check then sees it verified and adds
the webhook; the disconnection removes both. -/
def senderOrderly : List EmailEvent :=
  senderConnecting ++ [.work 0 (.created 50 "pending"), .work 0 .ok, .check 1 7 102, senderLease,
      .start 2 (senderAttempt 102 "manual-check") 7 1, .work 2 .ok, .work 2 .ok,
      .work 2 (.observed "checked" senderVerified), .work 2 .ok, .work 2 .ok,
      .work 2 (.created 60 ""), .work 2 .ok, .crash 2] ++
    senderDisconnecting ++ [.work 1 .ok, .work 1 .ok, .work 1 .ok]

def senderFinished (s : EmailSystem) : Bool :=
  (s.rows.lookup 1).any fun row => decide (row.state = .disconnected)

/-- A lost answer leaves the mail domain at the provider, in use, after the row was
disconnected. -/
theorem lost_mail_domain_left_behind : ∃ s, Run EmailSystem.step (.start 0) senderLost s ∧
      (∃ row, s.rows.lookup 1 = some row ∧ row.state = .disconnected) ∧
      (1, .domain 50) ∈ s.provider.created ∧
      s.provider.domains.lookup 50 = some ⟨"mail.example", false⟩ := by
  have hreplay : (replay EmailSystem.step (.start 0) senderLost).any (fun s =>
      senderFinished s && decide ((1, .domain 50) ∈ s.provider.created) &&
        decide (s.provider.domains.lookup 50 = some ⟨"mail.example", false⟩)) = true := by
    decide +kernel
  obtain ⟨s, hs, hfacts⟩ := (Option.any_eq_true _ _).mp hreplay
  simp only [senderFinished, Bool.and_eq_true, decide_eq_true_eq] at hfacts
  obtain ⟨⟨hfinished, hcreated⟩, hdomain⟩ := hfacts
  obtain ⟨row, hrow, hstate⟩ := (Option.any_eq_true _ _).mp hfinished
  exact ⟨s, run_of_replay hs, ⟨row, hrow, of_decide_eq_true hstate⟩, hcreated, hdomain⟩

/-- The orderly run meets the condition, and removes the mail domain and the webhook it
created. -/
theorem orderly_leaves_no_mail_resource : ∃ s, RunWhere EmailSystem.step
        (fun before event => before.disconnectsSettled event = true) (.start 0) senderOrderly s ∧
      (1, .domain 50) ∈ s.provider.created ∧ s.provider.Gone (.domain 50) ∧
      (1, .webhook 60) ∈ s.provider.created ∧ s.provider.Gone (.webhook 60) := by
  have hreplay : (replayWhere EmailSystem.step EmailSystem.disconnectsSettled (.start 0)
      senderOrderly).any (fun s => senderFinished s &&
        decide ((1, .domain 50) ∈ s.provider.created) &&
        decide ((1, .webhook 60) ∈ s.provider.created)) = true := by
    decide +kernel
  obtain ⟨s, hs, hfacts⟩ := (Option.any_eq_true _ _).mp hreplay
  simp only [Bool.and_eq_true, decide_eq_true_eq] at hfacts
  obtain ⟨⟨hfinished, hdomain⟩, hwebhook⟩ := hfacts
  obtain ⟨row, hrow, hstate⟩ := (Option.any_eq_true _ _).mp hfinished
  have hrun := runWhere_of_replayWhere hs
  have hdone := of_decide_eq_true hstate
  exact ⟨s, hrun, hdomain, disconnected_leaves_no_mail_resource hrun hrow hdone hdomain, hwebhook,
    disconnected_leaves_no_mail_resource hrun hrow hdone hwebhook⟩

end Sender

end ControlPlane.Domains
