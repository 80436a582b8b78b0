/-
# Cancellation safety of a publication

Whatever the ports answer and wherever the future is dropped, the host guard covers the
whole run, a generation is published at most once and only after its seal and its start
were accepted, a response is only returned that the database reported, and an attempt to
start that does not end in such a response leaves a confirmed quarantine or exactly one
cleanup task.

The argument follows the three situations of a run: nothing is admitted yet, the lease is
held and everything can be undone, or a start was attempted and the cancellation is armed.
-/

import ControlPlane.Coordinator.Program

namespace ControlPlane.Coordinator

open Domain Driver Math Routes
open Math.Program Occurrence Call World

/-! ## What a history shows -/

namespace Occurrence

def isAdmission : Occurrence → Bool
  | .called (.admission _) => true
  | _ => false

def isStart : Occurrence → Bool
  | .called (.start _) => true
  | _ => false

def isPublish : Occurrence → Bool
  | .called (.publish _) => true
  | _ => false

def isScheduled : Occurrence → Bool
  | .scheduled _ => true
  | _ => false

/-- The database answers with rows of the snapshot, or for one of them. -/
def concernsRows : Occurrence → Bool
  | .replied (.readSnapshot _ _ _) _ | .replied (.recordEntry _ _) _ => true
  | _ => false

/-- Something the run does or learns, as opposed to what happens to its guard. -/
def isActivity : Occurrence → Bool
  | .called _ | .replied _ _ => true
  | .acquired | .released | .scheduled _ => false

end Occurrence

variable (lease : Lease) (history : List Occurrence)

def Admitted : Prop :=
  ∃ request, .replied (.admission request) (.ok (.acquired lease)) ∈ history

def SealAccepted : Prop :=
  ∃ sealed outcome, .replied (.sealing lease sealed) (.ok outcome) ∈ history ∧
    outcome.accepted = true

def StartAccepted : Prop :=
  ∃ outcome, .replied (.start lease) (.ok outcome) ∈ history ∧ outcome.accepted = true

def Quarantined : Prop :=
  .replied (.quarantine lease) (.ok true) ∈ history

/-- The database reported the response of a completed publication. -/
def Reported (response : PublicationResponse) (history : List Occurrence) : Prop :=
  (∃ lease sealed target outcome, .replied (.finish lease sealed target) (.ok outcome) ∈ history ∧
      acceptFinish outcome = .ok response) ∨
  ∃ request publicationId driverOperationId,
    .replied (.readResult request) (.ok (.completed publicationId driverOperationId response)) ∈
      history

/-- The guard is held before the publication is admitted, and given up only after the
last call. -/
def GuardHeld (history : List Occurrence) : Prop :=
  Preceded (fun o => o.isAdmission = true) (fun before => .acquired ∈ before) history ∧
  Preceded (fun o => o.isActivity = true) (fun before => .released ∉ before) history

/-- At most one generation is published, by a lease whose seal and start were accepted. -/
def PublishedOnce (history : List Occurrence) : Prop :=
  history.countP isPublish ≤ 1 ∧
  Preceded (fun o => o.isPublish = true)
    (fun before => ∃ lease, Admitted lease before ∧ SealAccepted lease before ∧
      StartAccepted lease before) history

/-- Every attempt to start is quarantined, or left to exactly one cleanup task. -/
def CleanedUp (history : List Occurrence) : Prop :=
  ∀ lease, .called (.start lease) ∈ history →
    Quarantined lease history ∨ history.filter isScheduled = [.scheduled lease]

/-- What holds of an execution that has ended. -/
structure Safe (outcome : Outcome DriverError PublicationResponse) (history : List Occurrence) :
    Prop where
  guardHeld : GuardHeld history
  publishedOnce : PublishedOnce history
  reported : ∀ response, outcome = .returned response → Reported response history
  cleanedUp : (∀ response, outcome ≠ .returned response) → CleanedUp history

/-! ## Rules for calls -/

section calls

variable {w : World} {request : Call} {inv : World → Prop}

theorem ensures_ask {post : Post World DriverError request.Reply}
    (hdropped : request.awaits = true → post.dropped (w.note (.called request)))
    (hreturned : ∀ reply,
      post.returned reply ((w.note (.called request)).note (.replied request reply))) :
    (ask request).Ensures awaits post w :=
  ⟨hdropped, hreturned, fun _ _ h => nomatch h⟩

theorem ensures_perform {post : Post World DriverError request.Value}
    (hdropped : request.awaits = true → post.dropped (w.note (.called request)))
    (hok : ∀ value,
      post.returned value ((w.note (.called request)).note (.replied request (.ok value))))
    (herror : ∀ error,
      post.failed error ((w.note (.called request)).note (.replied request (.error error)))) :
    (perform request).Ensures awaits post w := by
  apply Ensures.bind
  refine ensures_ask hdropped fun reply => ?_
  cases reply with
  | ok value => exact hok value
  | error error => exact herror error

theorem keeps_ask (hcalled : ∀ w, inv w → inv (w.note (.called request)))
    (hreplied : ∀ w reply, inv w → inv (w.note (.replied request reply))) :
    (ask request).Keeps awaits inv :=
  fun w h => ensures_ask (fun _ => hcalled w h) fun reply => hreplied _ reply (hcalled w h)

/-- An error of the heartbeat comes where the effect could also be dropped. -/
theorem ensures_withPublicationHeartbeat {α : Type} {effect : PublicationM α}
    {post : Post World DriverError (Except DriverError α)}
    (h : (perform .pollHeartbeat >>= fun _ => effect).Ensures awaits
      ⟨fun w => post.dropped w ∧ ∀ error, post.returned (.error error) w,
        fun error => post.returned (.error error), fun value => post.returned (.ok value)⟩ w) :
    (withPublicationHeartbeat effect).Ensures awaits post w := by
  apply Ensures.attempt
  apply Ensures.race
  refine h.mono ?_ (fun _ _ h => h) (fun _ _ h => h)
  rintro w ⟨hdropped, herror⟩
  refine ⟨hdropped, fun interrupt caught hcaught => ?_⟩
  cases interrupt with
  | heartbeat error =>
    cases hcaught
    exact herror error
  | abandoned => cases hcaught

end calls

/-! ## The situations of a run -/

/-- Nothing in the history contradicts the claims so far, and the run has not ended. -/
structure Sound (history : List Occurrence) : Prop where
  admissions : Preceded (fun o => o.isAdmission = true) (fun before => .acquired ∈ before) history
  publishedOnce : PublishedOnce history
  unreleased : .released ∉ history
  unscheduled : ∀ o ∈ history, o.isScheduled = false

variable {o : Occurrence}

theorem Sound.snoc {history : List Occurrence} (h : Sound history)
    (hend : o ≠ .released ∧ o.isScheduled = false)
    (hadmission : o.isAdmission = true → .acquired ∈ history)
    (hpublish : o.isPublish = true → history.countP isPublish = 0 ∧
      ∃ lease, Admitted lease history ∧ SealAccepted lease history ∧ StartAccepted lease history) :
    Sound (history ++ [o]) where
  admissions := h.admissions.snoc hadmission
  publishedOnce := by
    refine ⟨?_, h.publishedOnce.2.snoc fun htrue => (hpublish htrue).2⟩
    rw [List.countP_append]
    cases hvalue : o.isPublish with
    | false => simpa [hvalue] using h.publishedOnce.1
    | true => simp [hvalue, (hpublish hvalue).1]
  unreleased := by
    simpa [hend.1.symm] using h.unreleased
  unscheduled := by
    intro other hmem
    rcases List.mem_append.mp hmem with hmem | hmem
    · exact h.unscheduled other hmem
    · rw [List.mem_singleton.mp hmem]
      exact hend.2

/-- What holds where a run ends, before its destructors run. -/
structure EndsSafely (outcome : Outcome DriverError PublicationResponse) (w : World) : Prop where
  sound : Sound w.history
  reported : ∀ response, outcome = .returned response → Reported response w.history
  covered : (∀ response, outcome ≠ .returned response) → ∀ lease,
    .called (.start lease) ∈ w.history →
      Quarantined lease w.history ∨ w.cancellation = some ⟨lease, true, true⟩

/-- Before the publication has a lease. -/
structure Preliminary (guard retained : Bool) (w : World) : Prop where
  sound : Sound w.history
  hostGuard : w.hostGuard = guard
  retained : w.retainedHostGuard = retained
  risk : w.risk = .reversible
  acquired : guard = true → .acquired ∈ w.history
  calm : ∀ o ∈ w.history, o.isStart = false ∧ o.isPublish = false
  fresh : ∀ o ∈ w.history, o.concernsRows = false

/-- The lease is held and a start was not attempted. -/
structure Reversible (lease : Lease) (w : World) : Prop where
  sound : Sound w.history
  admitted : Admitted lease w.history
  cancellation : w.cancellation = some ⟨lease, true, false⟩
  risk : w.risk = .reversible
  calm : ∀ o ∈ w.history, o.isStart = false ∧ o.isPublish = false

/-- A start was attempted. -/
structure Attempted (lease : Lease) (w : World) : Prop where
  sound : Sound w.history
  cancellation : w.cancellation = some ⟨lease, true, true⟩
  risk : w.risk = .startAttempted
  starts : ∀ other, .called (.start other) ∈ w.history → other = lease

/-! ## The end of a run -/

/-- What the destructor of the cancellation leaves. -/
def World.handedOver (w : World) : List Occurrence :=
  match w.cancellation with
  | some ⟨lease, true, true⟩ => [.scheduled lease]
  | _ => []

section

variable (w : World)

theorem dropCancellation_history : w.dropCancellation.history = w.history ++ w.handedOver := by
  unfold dropCancellation handedOver
  split <;> simp_all [note]

theorem dropCancellation_hostGuard : w.dropCancellation.hostGuard = w.hostGuard := by
  unfold dropCancellation
  split <;> rfl

theorem dropHostGuard_history :
    w.dropHostGuard.history = w.history ++ if w.hostGuard then [.released] else [] := by
  unfold dropHostGuard
  split <;> simp [note]

theorem dropHostGuard_handedOver : w.dropHostGuard.handedOver = w.handedOver := by
  unfold dropHostGuard
  split <;> rfl

theorem handedOver_scheduled : ∀ o ∈ w.handedOver, o.isScheduled = true := by
  unfold handedOver
  split <;> simp [isScheduled]

/-- The destructors add the cleanup task, if there is one, and the release of the guard. -/
theorem unwind_history : ∃ rest, w.unwind.history = w.history ++ rest ∧
    (∀ o ∈ rest, o.isActivity = false) ∧ rest.filter isScheduled = w.handedOver := by
  have hactivity : ∀ o ∈ w.handedOver, o.isActivity = false := by
    intro o ho
    have hscheduled := handedOver_scheduled w o ho
    cases o with
    | scheduled lease => rfl
    | _ => cases hscheduled
  have hfilter : w.handedOver.filter isScheduled = w.handedOver :=
    List.filter_eq_self.mpr (handedOver_scheduled w)
  unfold unwind
  split
  · refine ⟨(if w.hostGuard then [.released] else []) ++ w.handedOver, ?_, ?_, ?_⟩
    · rw [dropCancellation_history, dropHostGuard_history, dropHostGuard_handedOver,
        List.append_assoc]
    · intro o ho
      rcases List.mem_append.mp ho with ho | ho
      · split at ho <;> simp_all [isActivity]
      · exact hactivity o ho
    · rw [List.filter_append, hfilter]
      split <;> simp [isScheduled]
  · refine ⟨w.handedOver ++ (if w.hostGuard then [.released] else []), ?_, ?_, ?_⟩
    · rw [dropHostGuard_history, dropCancellation_history, dropCancellation_hostGuard,
        List.append_assoc]
    · intro o ho
      rcases List.mem_append.mp ho with ho | ho
      · exact hactivity o ho
      · split at ho <;> simp_all [isActivity]
    · rw [List.filter_append, hfilter]
      split <;> simp [isScheduled]

end

theorem isAdmission_of_not_isActivity (h : o.isActivity = false) : ¬ o.isAdmission = true := by
  cases o with
  | called request | replied request reply => cases h
  | _ => simp [isAdmission]

theorem isPublish_of_not_isActivity (h : o.isActivity = false) : ¬ o.isPublish = true := by
  cases o with
  | called request | replied request reply => cases h
  | _ => simp [isPublish]

theorem EndsSafely.safe {outcome : Outcome DriverError PublicationResponse} {w : World}
    (h : EndsSafely outcome w) : Safe outcome w.unwind.history := by
  obtain ⟨rest, hhistory, hrest, hscheduled⟩ := unwind_history w
  have hsub : ∀ o ∈ w.history, o ∈ w.unwind.history := fun o ho => by
    rw [hhistory]
    exact List.mem_append_left _ ho
  have hstarts : ∀ lease, .called (.start lease) ∈ w.unwind.history →
      .called (.start lease) ∈ w.history := by
    intro lease hmem
    rw [hhistory] at hmem
    rcases List.mem_append.mp hmem with hmem | hmem
    · exact hmem
    · cases hrest _ hmem
  refine ⟨⟨?_, ?_⟩, ⟨?_, ?_⟩, ?_, ?_⟩
  · rw [hhistory]
    exact h.sound.admissions.append fun o ho => isAdmission_of_not_isActivity (hrest o ho)
  · rw [hhistory]
    refine Preceded.append ?_ fun o ho => by simp [hrest o ho]
    exact preceded_of_forall fun before after heq hmem =>
      h.sound.unreleased (heq ▸ List.mem_append_left _ hmem)
  · rw [hhistory, List.countP_append,
      List.countP_eq_zero.mpr fun o ho => isPublish_of_not_isActivity (hrest o ho)]
    exact h.sound.publishedOnce.1
  · rw [hhistory]
    exact h.sound.publishedOnce.2.append fun o ho => isPublish_of_not_isActivity (hrest o ho)
  · intro response hreturned
    rcases h.reported response hreturned with
      ⟨lease, sealed, target, result, hmem, haccept⟩ | ⟨request, publication, operation, hmem⟩
    · exact .inl ⟨lease, sealed, target, result, hsub _ hmem, haccept⟩
    · exact .inr ⟨request, publication, operation, hsub _ hmem⟩
  · intro hended lease hstart
    rcases h.covered hended lease (hstarts lease hstart) with hquarantined | harmed
    · exact .inl (hsub _ hquarantined)
    · right
      have hnone : w.history.filter isScheduled = [] :=
        List.filter_eq_nil_iff.mpr fun o ho => by simp [h.sound.unscheduled o ho]
      rw [hhistory, List.filter_append, hnone, hscheduled, handedOver, harmed]
      rfl

/-! ## What a situation allows -/

section situations

variable {w : World} {lease : Lease} {o : Occurrence} {guard retained : Bool}

variable {history : List Occurrence} {outcome : Outcome DriverError PublicationResponse}

theorem not_mem_start (hcalm : ∀ o ∈ history, o.isStart = false ∧ o.isPublish = false)
    (lease : Lease) : .called (.start lease) ∉ history :=
  fun hmem => nomatch (hcalm _ hmem).1

section

variable (houtcome : ∀ response, outcome ≠ .returned response)

include houtcome

theorem Preliminary.endsSafely (h : Preliminary guard retained w) : EndsSafely outcome w :=
  ⟨h.sound, fun response heq => absurd heq (houtcome response),
    fun _ lease hmem => absurd hmem (not_mem_start h.calm lease)⟩

theorem Reversible.endsSafely (h : Reversible lease w) : EndsSafely outcome w :=
  ⟨h.sound, fun response heq => absurd heq (houtcome response),
    fun _ lease hmem => absurd hmem (not_mem_start h.calm lease)⟩

theorem Attempted.endsSafely (h : Attempted lease w) : EndsSafely outcome w :=
  ⟨h.sound, fun response heq => absurd heq (houtcome response),
    fun _ other hmem => .inr (h.starts other hmem ▸ h.cancellation)⟩

end

/-- Activities that every situation allows. -/
def Occurrence.harmless (o : Occurrence) : Bool :=
  o.isActivity && !o.isAdmission && !o.isStart && !o.isPublish

theorem calm_note (hharmless : o.harmless = true)
    (hcalm : ∀ o ∈ history, o.isStart = false ∧ o.isPublish = false) :
    ∀ o' ∈ history ++ [o], o'.isStart = false ∧ o'.isPublish = false := by
  intro other hmem
  rcases List.mem_append.mp hmem with hmem | hmem
  · exact hcalm other hmem
  · rw [List.mem_singleton.mp hmem]
    simp only [harmless, Bool.and_eq_true, Bool.not_eq_true'] at hharmless
    exact ⟨hharmless.1.2, hharmless.2⟩

theorem Sound.snoc_harmless (h : Sound history) (hharmless : o.harmless = true) :
    Sound (history ++ [o]) := by
  simp only [harmless, Bool.and_eq_true, Bool.not_eq_true'] at hharmless
  refine h.snoc ?_ (fun htrue => by simp [hharmless.1.1.2] at htrue)
    fun htrue => by simp [hharmless.2] at htrue
  cases o with
  | called request | replied request reply => exact ⟨nofun, rfl⟩
  | _ => simp [isActivity] at hharmless

theorem fresh_note (hrows : o.concernsRows = false)
    (hfresh : ∀ o ∈ history, o.concernsRows = false) :
    ∀ o' ∈ history ++ [o], o'.concernsRows = false := by
  intro other hmem
  rcases List.mem_append.mp hmem with hmem | hmem
  · exact hfresh other hmem
  · rwa [List.mem_singleton.mp hmem]

theorem Preliminary.note (h : Preliminary guard retained w) (hharmless : o.harmless = true)
    (hrows : o.concernsRows = false) : Preliminary guard retained (w.note o) :=
  ⟨h.sound.snoc_harmless hharmless, h.hostGuard, h.retained, h.risk,
    fun hguard => List.mem_append_left _ (h.acquired hguard), calm_note hharmless h.calm,
    fresh_note hrows h.fresh⟩

theorem Reversible.note (h : Reversible lease w) (hharmless : o.harmless = true) :
    Reversible lease (w.note o) := by
  obtain ⟨request, hadmitted⟩ := h.admitted
  exact ⟨h.sound.snoc_harmless hharmless, ⟨request, List.mem_append_left _ hadmitted⟩,
    h.cancellation, h.risk, calm_note hharmless h.calm⟩

theorem Attempted.note (h : Attempted lease w) (hharmless : o.harmless = true) :
    Attempted lease (w.note o) := by
  refine ⟨h.sound.snoc_harmless hharmless, h.cancellation, h.risk, fun other hmem => ?_⟩
  rcases List.mem_append.mp hmem with hmem | hmem
  · exact h.starts other hmem
  · rw [← List.mem_singleton.mp hmem] at hharmless
    cases hharmless

end situations

/-! ## Functions that keep a situation -/

/-- An invariant that harmless activities apart from rows, and the recorder's own field, do
not touch. -/
structure Tolerant (inv : World → Prop) : Prop where
  note : ∀ w o, inv w → o.harmless = true → o.concernsRows = false → inv (w.note o)
  target : ∀ w target, inv w → inv { w with targetEvidence := target }

/-- An invariant that rows do not touch either. -/
structure Indifferent (inv : World → Prop) : Prop extends Tolerant inv where
  rows : ∀ w o, inv w → o.harmless = true → inv (w.note o)

theorem Preliminary.tolerant (guard retained : Bool) : Tolerant (Preliminary guard retained) :=
  ⟨fun _ _ h hharmless hrows => h.note hharmless hrows,
    fun _ _ h => ⟨h.sound, h.hostGuard, h.retained, h.risk, h.acquired, h.calm, h.fresh⟩⟩

theorem Reversible.indifferent (lease : Lease) : Indifferent (Reversible lease) where
  note := fun _ _ h hharmless _ => h.note hharmless
  target := fun _ _ h => ⟨h.sound, h.admitted, h.cancellation, h.risk, h.calm⟩
  rows := fun _ _ h hharmless => h.note hharmless

theorem Attempted.indifferent (lease : Lease) : Indifferent (Attempted lease) where
  note := fun _ _ h hharmless _ => h.note hharmless
  target := fun _ _ h => ⟨h.sound, h.cancellation, h.risk, h.starts⟩
  rows := fun _ _ h hharmless => h.note hharmless

theorem keeps_takeTargetEvidence {inv : World → Prop} : takeTargetEvidence.Keeps awaits inv :=
  Keeps.bind (fun _ h => h) fun _ => keeps_ofExcept _

namespace Tolerant

variable {inv : World → Prop} (ht : Tolerant inv)
include ht

theorem keeps_ask {request : Call} (hharmless : (called request).harmless = true)
    (hrows : ∀ reply, (replied request reply).concernsRows = false) :
    (ask request).Keeps awaits inv :=
  Coordinator.keeps_ask (fun w h => ht.note w _ h hharmless rfl)
    fun w reply h => ht.note w _ h rfl (hrows reply)

theorem keeps_perform {request : Call} (hharmless : (called request).harmless = true)
    (hrows : ∀ reply, (replied request reply).concernsRows = false) :
    (perform request).Keeps awaits inv :=
  Keeps.bind (ht.keeps_ask hharmless hrows) fun reply => keeps_ofExcept reply

theorem keeps_requireRenewal (lease : Lease) (phase : PublicationPhase) :
    (requireRenewal lease phase).Keeps awaits inv :=
  Keeps.bind (ht.keeps_perform rfl fun _ => rfl) fun _ => keeps_ensure _ _

theorem keeps_observeBoundPrior : observeBoundPrior.Keeps awaits inv := by
  refine Keeps.bind (ht.keeps_perform rfl fun _ => rfl) fun observed => ?_
  refine Keeps.bind (keeps_ensure _ _) fun _ => ?_
  refine Keeps.bind (ht.keeps_perform rfl fun _ => rfl) fun _ => ?_
  refine Keeps.bind (ht.keeps_perform rfl fun _ => rfl) fun confirmed => ?_
  exact Keeps.bind (keeps_ensure _ _) fun _ => keeps_pure _

theorem keeps_keepTargetEvidence (lease : Lease) (evidence : SealEvidence) :
    (keepTargetEvidence lease evidence).Keeps awaits inv := by
  unfold keepTargetEvidence
  split
  · refine Keeps.bind (keeps_ensure _ _) fun _ => ?_
    refine Keeps.bind (fun _ h => h) fun w => ?_
    refine Keeps.bind (keeps_ensure _ _) fun _ => ?_
    exact keeps_modify fun w h => ht.target w _ h
  · exact keeps_pure _

theorem keeps_recordBoundPrior (lease : Lease) (preflight : PriorSelector × PriorLoadedIdentity) :
    (recordBoundPrior lease preflight).Keeps awaits inv := by
  refine Keeps.bind (ht.keeps_requireRenewal _ _) fun _ => ?_
  refine Keeps.bind ht.keeps_observeBoundPrior fun confirmed => ?_
  refine Keeps.bind (keeps_ensure _ _) fun _ => ?_
  refine Keeps.bind (ht.keeps_perform rfl fun _ => rfl) fun priorOutcome => ?_
  exact keeps_ensure _ _

theorem keeps_beginGeneration (lease : Lease) (snapshot : List SnapshotItem) :
    (beginGeneration lease snapshot).Keeps awaits inv := by
  refine Keeps.bind (ht.keeps_perform rfl fun _ => rfl) fun frozen => ?_
  refine Keeps.bind (ht.keeps_perform rfl fun _ => rfl) fun _ => ?_
  refine Keeps.bind (ht.keeps_requireRenewal _ _) fun _ => ?_
  refine Keeps.bind (ht.keeps_perform rfl fun _ => rfl) fun _ => ?_
  refine Keeps.bind (ht.keeps_requireRenewal _ _) fun _ => ?_
  refine Keeps.bind (keeps_modify fun w h => ht.target w none h) fun _ => ?_
  exact keeps_pure _

theorem keeps_sealGeneration (lease : Lease) (sealed : SealedGeneration) :
    (sealGeneration lease sealed).Keeps awaits inv := by
  refine Keeps.bind (ht.keeps_perform rfl fun _ => rfl) fun outcome => ?_
  exact Keeps.bind (keeps_ensure _ _) fun _ => ht.keeps_requireRenewal _ _

end Tolerant

namespace Indifferent

variable {inv : World → Prop} (hi : Indifferent inv)
include hi

theorem keeps_ask {request : Call} (hharmless : (called request).harmless = true) :
    (ask request).Keeps awaits inv :=
  Coordinator.keeps_ask (fun w h => hi.rows w _ h hharmless) fun w _ h => hi.rows w _ h rfl

theorem keeps_perform {request : Call} (hharmless : (called request).harmless = true) :
    (perform request).Keeps awaits inv :=
  Keeps.bind (hi.keeps_ask hharmless) fun reply => keeps_ofExcept reply

section

variable (lease : Lease)

theorem keeps_readBatches (batchSize passes : Nat) (snapshot : List SnapshotItem)
    (after : Option Uuid) :
    (readBatches lease batchSize passes snapshot after).Keeps awaits inv := by
  induction passes generalizing snapshot after with
  | zero => exact keeps_pure _
  | succ passes ih =>
    unfold readBatches
    split
    · refine Keeps.bind (hi.keeps_requireRenewal _ _) fun _ => ?_
      refine Keeps.bind (hi.keeps_perform rfl) fun batch => ?_
      refine Keeps.bind (keeps_ensure _ _) fun _ => ?_
      exact Keeps.bind (keeps_ofExcept _) fun last => ih _ _
    · exact keeps_pure _

theorem keeps_readCompleteSnapshot (batchSize : Nat) :
    (readCompleteSnapshot lease batchSize).Keeps awaits inv := by
  refine Keeps.bind (hi.keeps_readBatches _ _ _ _ _) fun snapshot => ?_
  exact Keeps.bind (keeps_ensure _ _) fun _ => keeps_pure _

theorem keeps_record (evidence : SealEvidence) : (record lease evidence).Keeps awaits inv := by
  refine Keeps.bind (hi.keeps_keepTargetEvidence _ _) fun _ => ?_
  refine Keeps.bind (hi.keeps_perform rfl) fun outcome => ?_
  exact Keeps.bind (keeps_ensure _ _) fun _ => hi.keeps_requireRenewal _ _

theorem keeps_recordOrGiveUp (evidence : SealEvidence) :
    (recordOrGiveUp lease evidence).Keeps awaits inv := by
  refine Keeps.race ?_ fun interrupt caught hcaught => ?_
  · exact Keeps.bind (hi.keeps_record _ _).attempt fun _ => keeps_pure _
  · cases interrupt with
    | heartbeat error => cases hcaught
    | abandoned =>
      cases hcaught
      exact fun _ h => h

/-- Whatever the file system does while it stages, the situation stays. -/
theorem keeps_stageAndSeal (staging : Staging) : (stageAndSeal lease staging).Keeps awaits inv := by
  induction staging with
  | pure sealed | throw error => exact fun _ h => h
  | update change rest ih => exact ih
  | get rest ih => exact ih ()
  | call request enabled replied interrupted ih _ =>
    cases request with
    | record evidence =>
      exact Keeps.bind (hi.keeps_record _ _).attempt fun result => ih result
    | recordOrGiveUp evidence =>
      exact Keeps.bind (hi.keeps_recordOrGiveUp _ _) fun result => ih result
    | wait => exact Keeps.bind (hi.keeps_ask rfl) fun _ => ih ()
    | beginSeal | stageRow row | finishSeal =>
      exact Keeps.bind (hi.keeps_ask rfl) fun reply => ih reply

end

theorem keeps_stageGeneration (fs : Filesystem) (plan : Plan) (lease : Lease)
    (preflight : PriorSelector × PriorLoadedIdentity) :
    (stageGeneration fs plan lease preflight).Keeps awaits inv := by
  refine Keeps.bind (hi.keeps_recordBoundPrior _ _) fun _ => ?_
  refine Keeps.bind (hi.keeps_readCompleteSnapshot _ _) fun snapshot => ?_
  refine Keeps.bind (hi.keeps_beginGeneration _ _) fun frozen => ?_
  refine Keeps.bind (hi.keeps_stageAndSeal _ _) fun sealed => ?_
  exact Keeps.bind keeps_takeTargetEvidence fun _ => keeps_pure _

theorem keeps_observeGeneration (lease : Lease) (prior : PriorSelector)
    (sealed : SealedGeneration) (target : SealEvidence) :
    (observeGeneration lease prior sealed target).Keeps awaits inv := by
  refine Keeps.bind (hi.keeps_perform rfl) fun _ => ?_
  refine Keeps.bind (hi.keeps_perform rfl) fun runtimeIdentity => ?_
  refine Keeps.bind (keeps_ensure _ _) fun _ => ?_
  refine Keeps.bind (hi.keeps_perform rfl) fun observed => ?_
  refine Keeps.bind (keeps_ensure _ _) fun _ => ?_
  refine Keeps.bind (hi.keeps_perform rfl) fun observeOutcome => ?_
  exact Keeps.bind (keeps_ensure _ _) fun _ => keeps_pure _

end Indifferent

/-! ## The publication -/

section publication

variable {w : World} {lease : Lease}

/-- The seal was accepted and nothing was attempted yet. -/
def Startable (lease : Lease) (w : World) : Prop :=
  Reversible lease w ∧ SealAccepted lease w.history

theorem Startable.tolerant (lease : Lease) : Tolerant (Startable lease) where
  note := by
    rintro w o ⟨h, sealed, outcome, hmem, haccepted⟩ hharmless -
    exact ⟨h.note hharmless, sealed, outcome, List.mem_append_left _ hmem, haccepted⟩
  target := fun w target h => ⟨(Reversible.indifferent lease).target w target h.1, h.2⟩

theorem ensures_sealGeneration (sealed : SealedGeneration) (h : Reversible lease w) :
    (sealGeneration lease sealed).Ensures awaits
      ⟨Reversible lease, fun _ => Reversible lease, fun _ => Startable lease⟩ w := by
  have hcalled : Reversible lease (w.note (.called (.sealing lease sealed))) := h.note rfl
  apply Ensures.bind
  refine ensures_perform (fun _ => hcalled) (fun outcome => ?_) fun _ => hcalled.note rfl
  apply Ensures.bind
  refine ensures_ensure (fun haccepted => ?_) fun _ => hcalled.note rfl
  have hstartable : Startable lease _ :=
    ⟨hcalled.note rfl, sealed, outcome, List.mem_append_right _ (List.mem_singleton.mpr rfl),
      haccepted⟩
  exact ((Startable.tolerant lease).keeps_requireRenewal lease .sealing).ensures hstartable
    (fun _ h => h.1) (fun _ _ h => h.1) fun _ _ h => h

/-- The call that starts the publication is made with the cancellation armed. -/
theorem Startable.attempt (h : Startable lease w) :
    Attempted lease (w.attemptStart.note (.called (.start lease))) where
  sound := h.1.sound.snoc ⟨nofun, rfl⟩ nofun nofun
  cancellation := by
    simp [note, attemptStart, h.1.cancellation]
  risk := rfl
  starts := by
    intro other hmem
    rcases List.mem_append.mp hmem with hmem | hmem
    · exact absurd hmem (not_mem_start h.1.calm other)
    · cases List.mem_singleton.mp hmem
      rfl

theorem ensures_publishGeneration (prior : PriorSelector) (sealed : SealedGeneration)
    (target : SealEvidence) (h : Startable lease w) :
    (publishGeneration lease prior sealed target).Ensures awaits
      ⟨Attempted lease, fun _ => Attempted lease, fun _ => Attempted lease⟩ w := by
  have hcalled := h.attempt
  apply Ensures.bind
  apply Ensures.bind
  refine ensures_perform (fun _ => hcalled) (fun outcome => ?_) fun _ => hcalled.note rfl
  have hreplied : Attempted lease ((w.attemptStart.note (.called (.start lease))).note
      (.replied (.start lease) (.ok outcome))) := hcalled.note rfl
  apply Ensures.bind
  refine ensures_ensure (fun haccepted => ?_) fun _ => hreplied
  apply Ensures.bind
  -- The only call that publishes: everything that has to come before it is in the history.
  have hpublish : Attempted lease (((w.attemptStart.note (.called (.start lease))).note
      (.replied (.start lease) (.ok outcome))).note (.called (.publish prior))) := by
    obtain ⟨request, hadmitted⟩ := h.1.admitted
    obtain ⟨sealed, sealOutcome, hsealed, hsealAccepted⟩ := h.2
    refine ⟨hreplied.sound.snoc ⟨nofun, rfl⟩ nofun fun _ => ⟨?_, lease, ?_, ?_, ?_⟩,
      hreplied.cancellation, hreplied.risk, fun other hmem => ?_⟩
    · refine List.countP_eq_zero.mpr fun o ho => ?_
      have hmem : o ∈ w.history ∨ o = .called (.start lease) ∨
          o = .replied (.start lease) (.ok outcome) := by
        simpa [note, attemptStart, or_assoc] using ho
      rcases hmem with hmem | rfl | rfl
      · simp [(h.1.calm o hmem).2]
      · simp [isPublish]
      · simp [isPublish]
    · exact ⟨request, by simp [note, attemptStart, hadmitted]⟩
    · exact ⟨sealed, sealOutcome, by simp [note, attemptStart, hsealed], hsealAccepted⟩
    · exact ⟨outcome, by simp [note], haccepted⟩
    · rcases List.mem_append.mp hmem with hmem | hmem
      · exact hreplied.starts other hmem
      · cases List.mem_singleton.mp hmem
  refine ensures_perform (fun _ => hpublish) (fun _ => ?_) fun _ => hpublish.note rfl
  exact (Attempted.indifferent lease).keeps_observeGeneration lease prior sealed target _
    (hpublish.note rfl)

/-- With a lease, either everything can be undone or the cancellation is armed. -/
def Held (lease : Lease) (w : World) : Prop :=
  Reversible lease w ∨ Attempted lease w

theorem ensures_coordinateAcquired (fs : Filesystem) (plan : Plan)
    (preflight : PriorSelector × PriorLoadedIdentity) (h : Reversible lease w) :
    (coordinateAcquired fs plan lease preflight).Ensures awaits
      ⟨Held lease, fun _ => Held lease, fun _ => Attempted lease⟩ w := by
  apply Ensures.bind
  refine ((Reversible.indifferent lease).keeps_stageGeneration fs plan lease preflight).ensures h
    (fun _ h => .inl h) (fun _ _ h => .inl h) fun generation w h => ?_
  apply Ensures.bind
  refine (ensures_sealGeneration generation.1 h).mono (fun _ h => .inl h) (fun _ _ h => .inl h)
    fun _ w h => ?_
  exact (ensures_publishGeneration preflight.1 generation.1 generation.2 h).mono
    (fun _ h => .inr h) (fun _ _ h => .inr h) fun _ _ h => h

theorem Held.endsSafely (h : Held lease w) {outcome : Outcome DriverError PublicationResponse}
    (houtcome : ∀ response, outcome ≠ .returned response) : EndsSafely outcome w :=
  h.elim (fun h => h.endsSafely houtcome) fun h => h.endsSafely houtcome

/-- What the whole run has to ensure of a coordination: a pending finalization has its
cancellation armed. -/
def coordinationPost : Post World DriverError Pending :=
  ⟨EndsSafely .dropped, fun error => EndsSafely (.failed error),
    fun pending => Attempted pending.lease⟩

theorem ensures_quarantineAttempt (error : DriverError) (h : Held lease w) :
    (quarantineAttempt lease).Ensures awaits
      ⟨EndsSafely .dropped, fun _ _ => False, fun _ => EndsSafely (.failed error)⟩ w := by
  apply Ensures.bind
  show Ensures awaits _ (if w.risk = .startAttempted then _ else _) w
  rcases h with h | h
  · rw [if_neg (by simp [h.risk])]
    exact h.endsSafely nofun
  rw [if_pos h.risk]
  apply Ensures.bind
  have hcalled : Attempted lease (w.note (.called (.quarantine lease))) := h.note rfl
  refine ensures_ask (fun _ => hcalled.endsSafely nofun) fun reply => ?_
  have hreplied : Attempted lease ((w.note (.called (.quarantine lease))).note
      (.replied (.quarantine lease) reply)) := hcalled.note rfl
  match reply with
  | .ok true =>
    refine ⟨hreplied.sound, nofun, fun _ other hmem => .inl ?_⟩
    rw [hreplied.starts other hmem]
    exact List.mem_append_right _ (List.mem_singleton.mpr rfl)
  | .ok false => exact hreplied.endsSafely nofun
  | .error _ => exact hreplied.endsSafely nofun

theorem ensures_concludeCoordination_error (plan : Plan) (error : DriverError) (h : Held lease w) :
    (concludeCoordination plan lease (.error error)).Ensures awaits coordinationPost w :=
  Ensures.bind <| (ensures_quarantineAttempt error h).mono (fun _ h => h)
    (fun _ _ h => h.elim) fun _ _ h => h

theorem ensures_concludeCoordination_ok (plan : Plan) (evidence : ObservedEvidence)
    (h : Attempted lease w) :
    (concludeCoordination plan lease (.ok evidence)).Ensures awaits coordinationPost w :=
  Ensures.bind ⟨h.sound, h.cancellation, h.risk, h.starts⟩

theorem ensures_coordinateAdmitted (fs : Filesystem) (plan : Plan)
    (preflight : PriorSelector × PriorLoadedIdentity) {admission : Admission}
    (h : Preliminary true true w)
    (hadmitted : ∀ lease, admission = .acquired lease → Admitted lease w.history) :
    (coordinateAdmitted fs plan preflight admission).Ensures awaits coordinationPost w := by
  cases admission with
  | acquired lease =>
    have hheld : Reversible lease (w.hold lease) :=
      ⟨h.sound, hadmitted lease rfl, by rw [hold, h.retained], h.risk, h.calm⟩
    have hfailed : ∀ error w, Held lease w →
        (concludeCoordination plan lease (.error error)).Ensures awaits coordinationPost w :=
      fun error _ h => ensures_concludeCoordination_error plan error h
    apply Ensures.bind
    apply Ensures.bind
    apply ensures_withPublicationHeartbeat
    apply Ensures.bind
    refine ((Reversible.indifferent lease).keeps_perform rfl).ensures hheld
      (fun w h => ⟨h.endsSafely nofun, fun error => hfailed error w (.inl h)⟩)
      (fun error w h => hfailed error w (.inl h)) fun _ w h => ?_
    exact (ensures_coordinateAcquired fs plan preflight h).mono
      (fun w h => ⟨h.endsSafely nofun, fun error => hfailed error w h⟩)
      (fun error w h => hfailed error w h)
      fun evidence _ h => ensures_concludeCoordination_ok plan evidence h
  | replay lease | refused kind => exact h.endsSafely nofun

theorem preliminary_initial : Preliminary false false .initial where
  sound := ⟨preceded_nil, ⟨Nat.zero_le _, preceded_nil⟩, List.not_mem_nil,
    fun _ ho => absurd ho List.not_mem_nil⟩
  hostGuard := rfl
  retained := rfl
  risk := rfl
  acquired := nofun
  calm := fun _ ho => absurd ho List.not_mem_nil
  fresh := fun _ ho => absurd ho List.not_mem_nil

/-- The statements before the admission is answered, for whatever is to be shown of a run
in which nothing is admitted yet. -/
theorem ensures_coordinateRouteSetPublication {fs : Filesystem} {plan : Plan}
    {post : Post World DriverError Pending}
    (hdropped : ∀ guard retained w, Preliminary guard retained w → post.dropped w)
    (hfailed : ∀ guard retained error w, Preliminary guard retained w → post.failed error w)
    (hadmitted : ∀ preflight admission w, Preliminary true true w →
      (∀ lease, admission = .acquired lease → Admitted lease w.history) →
      (coordinateAdmitted fs plan preflight admission).Ensures awaits post w) :
    (coordinateRouteSetPublication fs plan).Ensures awaits post .initial := by
  apply Ensures.bind
  refine ensures_ensure (fun _ => ?_) fun _ => hfailed _ _ _ _ preliminary_initial
  apply Ensures.bind
  refine ((Preliminary.tolerant false false).keeps_perform rfl fun _ => rfl).ensures
    preliminary_initial (fun _ h => hdropped _ _ _ h) (fun _ _ h => hfailed _ _ _ _ h)
    fun _ w h => ?_
  apply Ensures.bind
  have hguard : Preliminary true false { w.note .acquired with hostGuard := true } := by
    refine ⟨h.sound.snoc ⟨nofun, rfl⟩ nofun nofun, rfl, h.retained, h.risk,
      fun _ => List.mem_append_right _ (List.mem_singleton.mpr rfl), fun o ho => ?_,
      fresh_note rfl h.fresh⟩
    rcases List.mem_append.mp ho with ho | ho
    · exact h.calm o ho
    · rw [List.mem_singleton.mp ho]
      exact ⟨rfl, rfl⟩
  apply Ensures.bind
  refine ((Preliminary.tolerant true false).keeps_perform rfl fun _ => rfl).ensures hguard
    (fun _ h => hdropped _ _ _ h) (fun _ _ h => hfailed _ _ _ _ h) fun _ w h => ?_
  apply Ensures.bind
  have hretained : Preliminary true true { w with retainedHostGuard := true } :=
    ⟨h.sound, h.hostGuard, rfl, h.risk, h.acquired, h.calm, h.fresh⟩
  apply Ensures.bind
  refine (Preliminary.tolerant true true).keeps_observeBoundPrior.ensures hretained
    (fun _ h => hdropped _ _ _ h) (fun _ _ h => hfailed _ _ _ _ h) fun preflight w h => ?_
  apply Ensures.bind
  -- The admission is not harmless: the guard has to be held here.
  have hcalled : Preliminary true true (w.note (.called (.admission plan.admission))) := by
    refine ⟨h.sound.snoc ⟨nofun, rfl⟩ (fun _ => h.acquired rfl) nofun, h.hostGuard, h.retained,
      h.risk, fun hguard => List.mem_append_left _ (h.acquired hguard), fun o ho => ?_,
      fresh_note rfl h.fresh⟩
    rcases List.mem_append.mp ho with ho | ho
    · exact h.calm o ho
    · rw [List.mem_singleton.mp ho]
      exact ⟨rfl, rfl⟩
  refine ensures_perform (fun _ => hdropped _ _ _ hcalled) (fun admission => ?_)
    fun _ => hfailed _ _ _ _ (hcalled.note rfl rfl)
  refine hadmitted preflight admission _ (hcalled.note rfl rfl) fun lease hacquired => ?_
  exact ⟨plan.admission, List.mem_append_right _ (List.mem_singleton.mpr (by rw [hacquired]))⟩

/-! ## Finalization -/

/-- The response that the run returns was reported, and nothing has to be cleaned up. -/
def Confirmed (response : PublicationResponse) (lease : Lease) (w : World) : Prop :=
  Attempted lease w ∧ Reported response w.history

theorem Confirmed.endsSafely {response : PublicationResponse} (h : Confirmed response lease w) :
    EndsSafely (.returned response) w.disarm :=
  ⟨h.1.sound, fun other heq => by cases heq; exact h.2, fun hended => absurd rfl (hended response)⟩

theorem ensures_confirmPublication (pending : Pending) (h : Attempted pending.lease w) :
    (confirmPublication pending).Ensures awaits
      ⟨Attempted pending.lease, fun _ => Attempted pending.lease,
        fun response => Confirmed response pending.lease⟩ w := by
  have hi := Attempted.indifferent pending.lease
  apply Ensures.bind
  refine ensures_ensure (fun _ => ?_) fun _ => h
  apply Ensures.bind
  refine (hi.keeps_perform rfl).ensures h (fun _ h => h) (fun _ _ h => h) fun identity w h => ?_
  apply Ensures.bind
  refine ensures_ensure (fun _ => ?_) fun _ => h
  apply Ensures.bind
  refine (hi.keeps_perform rfl).ensures h (fun _ h => h) (fun _ _ h => h) fun selected w h => ?_
  apply Ensures.bind
  refine ensures_ensure (fun _ => ?_) fun _ => h
  apply Ensures.bind
  refine ensures_perform (fun _ => h.note rfl) (fun outcome => ?_) fun _ => (h.note rfl).note rfl
  refine ensures_ofExcept (fun response haccept => ⟨(h.note rfl).note rfl, .inl ?_⟩)
    fun _ _ => (h.note rfl).note rfl
  exact ⟨_, _, _, outcome, List.mem_append_right _ (List.mem_singleton.mpr rfl), haccept⟩

theorem ensures_concludeFinalization_error (pending : Pending) (error : DriverError)
    (h : Attempted pending.lease w) :
    (concludeFinalization pending (.error error)).Ensures awaits
      ⟨EndsSafely .dropped, fun error => EndsSafely (.failed error),
        fun response => EndsSafely (.returned response)⟩ w := by
  have hcalled : Attempted pending.lease
      (w.note (.called (.readResult pending.resultRequest))) := h.note rfl
  apply Ensures.bind
  refine ensures_ask (fun _ => hcalled.endsSafely nofun) fun reply => ?_
  have hreplied : Attempted pending.lease
      ((w.note (.called (.readResult pending.resultRequest))).note
        (.replied (.readResult pending.resultRequest) reply)) := hcalled.note rfl
  match reply with
  | .ok (.completed publication operation response) =>
    have hconfirmed : Confirmed response pending.lease _ :=
      ⟨hreplied, .inr ⟨_, publication, operation,
        List.mem_append_right _ (List.mem_singleton.mpr rfl)⟩⟩
    exact hconfirmed.endsSafely
  | .ok .absent => exact hreplied.endsSafely nofun
  | .ok .conflict => exact hreplied.endsSafely nofun
  | .ok (.pending _ _) => exact hreplied.endsSafely nofun
  | .ok (.notApplied _) => exact hreplied.endsSafely nofun
  | .error _ => exact hreplied.endsSafely nofun

theorem ensures_finalize (pending : Pending) (h : Attempted pending.lease w) :
    (finalize pending).Ensures awaits ⟨EndsSafely .dropped, fun error => EndsSafely (.failed error),
        fun response => EndsSafely (.returned response)⟩ w := by
  have hfailed : ∀ error w, Attempted pending.lease w →
      (concludeFinalization pending (.error error)).Ensures awaits
        ⟨EndsSafely .dropped, fun error => EndsSafely (.failed error),
          fun response => EndsSafely (.returned response)⟩ w :=
    fun error _ h => ensures_concludeFinalization_error pending error h
  apply Ensures.bind
  apply ensures_withPublicationHeartbeat
  apply Ensures.bind
  refine ((Attempted.indifferent pending.lease).keeps_perform rfl).ensures h
    (fun w h => ⟨h.endsSafely nofun, fun error => hfailed error w h⟩)
    (fun error w h => hfailed error w h) fun _ w h => ?_
  exact (ensures_confirmPublication pending h).mono
    (fun w h => ⟨h.endsSafely nofun, fun error => hfailed error w h⟩)
    (fun error w h => hfailed error w h) fun _ _ h => h.endsSafely

end publication

/-- Every execution, against any ports and dropped anywhere, is safe. -/
theorem execute_safe (fs : Filesystem) (plan : Plan) (env : Environment Call Reply Interrupt) :
    Safe (execute fs plan env).1 (execute fs plan env).2.history := by
  have hcoordinated : (coordinateRouteSetPublication fs plan).Ensures awaits
      coordinationPost .initial :=
    ensures_coordinateRouteSetPublication (fun _ _ _ h => h.endsSafely nofun)
      (fun _ _ _ _ h => h.endsSafely nofun)
      fun preflight _ _ h hadmitted => ensures_coordinateAdmitted fs plan preflight h hadmitted
  have hpublication : (publication fs plan).Ensures awaits
      ⟨EndsSafely .dropped, fun error => EndsSafely (.failed error),
        fun response => EndsSafely (.returned response)⟩ .initial :=
    Ensures.bind <| hcoordinated.mono (fun _ h => h) (fun _ _ h => h)
      fun pending _ h => ensures_finalize pending h
  have hends := hpublication.run env 0
  unfold execute
  generalize (publication fs plan).run awaits env 0 .initial = ended at hends ⊢
  obtain ⟨outcome, w⟩ := ended
  cases outcome with
  | returned response | failed error | dropped => exact hends.safe

end ControlPlane.Coordinator
