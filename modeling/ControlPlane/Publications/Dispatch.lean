/-
# Dispatch by the kind of a publication

Three functions choose the body for a publication's kind. They are table functions:
`return query` appends the rows of a query to the result and goes on, and only `return`
leaves the function. None of the three returns after the first query, so a publication of
the kind that is tested for is handed to both bodies, the second one in the tables that
the first one left.
-/

import ControlPlane.Publications.RecoveryKinds

namespace ControlPlane.Publications

open Domain Driver Math Persistence
open Routes PublicationKind

/-! ## Table functions -/

section TableFunctions

variable {σ ρ ε : Type}

/-- Append the row of a call and go on in the state it leaves. -/
def returnQuery (call : Except ε (σ × ρ)) (rest : σ → Except ε (σ × List ρ)) :
    Except ε (σ × List ρ) :=
  match call with
  | .error raised => .error raised
  | .ok (next, row) => (rest next).map fun result => (result.1, row :: result.2)

/-- The end of a function's body. -/
def returnRows (s : σ) : Except ε (σ × List ρ) := .ok (s, [])

/-- A function that is one call: its row, its state, its error. -/
def singleCall (call : Except ε (σ × ρ)) : Except ε (σ × List ρ) :=
  returnQuery call returnRows

variable {call : Except ε (σ × ρ)} {rest : σ → Except ε (σ × List ρ)} {s t : σ} {row other : ρ}
  {raised : ε}

theorem returnQuery_two {second : σ → Except ε (σ × ρ)} {u : σ} (hcall : call = .ok (t, row))
    (hsecond : second t = .ok (u, other)) :
    returnQuery call (fun next => singleCall (second next)) = .ok (u, [row, other]) := by
  subst hcall
  simp only [returnQuery, hsecond]
  rfl

end TableFunctions

/-- A complete list of arguments, or one with a null or a text outside its enumeration in
it, of which only the identifier of the publication matters. -/
inductive Arguments (α : Type)
  | complete (call : α)
  | incomplete (publication : Option Uuid)
  deriving DecidableEq

/-- The first check of every function. -/
def checked {σ α ρ ε : Type} (invalid : ρ) (body : σ → α → Except ε (σ × ρ)) (s : σ) :
    Arguments α → Except ε (σ × ρ)
  | .complete call => body s call
  | .incomplete _ => .ok (s, invalid)

def Arguments.publication {α : Type} (id : α → Uuid) : Arguments α → Option Uuid
  | .complete call => some (id call)
  | .incomplete publication => publication

def PublicationKind.isRecovery : PublicationKind → Bool
  | .projection => false
  | .recoveryMaintenance | .recoveryRestore => true

namespace PublicationState

/-- The kind of the publication that a call names. -/
def kindOf (s : PublicationState) (id : Option Uuid) : Option PublicationKind :=
  (id.bind s.publications.lookup).map Publication.kind

/-! ## The bodies for each kind -/

variable (env : DatabaseEnvironment)

def finishProjection : PublicationState → Arguments PublicationLease →
      Except PublicationError (PublicationState × FinishRow) :=
  checked ⟨.invalid, none⟩ (finishRouteSetPublicationProjectionV1 env)

def finishRecoveryKind : PublicationState → Arguments PublicationLease →
      Except PublicationError (PublicationState × FinishRow) :=
  checked ⟨.invalid, none⟩ (finishRouteSetRecoveryPublication env)

def decideProjection : PublicationState → Arguments RecoveryFinishCall →
      Except PublicationError (PublicationState × RecoveryRow) :=
  checked ⟨.invalid, none⟩ (finishRouteSetPublicationRecoveryProjectionV1 env)

def decideRecoveryKind : PublicationState → Arguments RecoveryFinishCall →
      Except PublicationError (PublicationState × RecoveryRow) :=
  checked ⟨.invalid, none⟩ (finishRecoveryRouteSetPublicationRecovery env)

def claimProjection : PublicationState → Arguments ClaimCall →
      Except PublicationError (PublicationState × ClaimRow) :=
  checked ⟨.invalid, none, none⟩ claimInterruptedRouteSetPublicationProjectionV1

def claimRecoveryKind : PublicationState → Arguments ClaimCall →
      Except PublicationError (PublicationState × ClaimRow) :=
  checked ⟨.invalid, none, none⟩ claimInterruptedRecoveryRouteSetPublication

/-! ## The dispatching functions -/

/-- `finish_route_set_publication`. -/
def finishRouteSetPublication (s : PublicationState) (arguments : Arguments PublicationLease) :
    Except PublicationError (PublicationState × List FinishRow) :=
  if (s.kindOf (arguments.publication PublicationLease.publication)).any isRecovery then
    returnQuery (finishRecoveryKind env s arguments) fun next =>
      singleCall (finishProjection env next arguments)
  else singleCall (finishProjection env s arguments)

/-- `finish_route_set_publication_recovery`. -/
def finishRouteSetPublicationRecovery (s : PublicationState)
    (arguments : Arguments RecoveryFinishCall) :
    Except PublicationError (PublicationState × List RecoveryRow) :=
  if (s.kindOf (arguments.publication RecoveryFinishCall.publication)).any isRecovery then
    returnQuery (decideRecoveryKind env s arguments) fun next =>
      singleCall (decideProjection env next arguments)
  else singleCall (decideProjection env s arguments)

/-- `claim_interrupted_route_set_publication`. -/
def claimInterruptedRouteSetPublication (s : PublicationState) (arguments : Arguments ClaimCall) :
    Except PublicationError (PublicationState × List ClaimRow) :=
  if s.kindOf (arguments.publication ClaimCall.publication) = some .projection then
    returnQuery (claimProjection s arguments) fun next =>
      singleCall (claimRecoveryKind next arguments)
  else singleCall (claimRecoveryKind s arguments)

/-- The body for the kind of the named publication. -/
def finishForKind (s : PublicationState) (arguments : Arguments PublicationLease) :
    Except PublicationError (PublicationState × FinishRow) :=
  if (s.kindOf (arguments.publication PublicationLease.publication)).any isRecovery then
    finishRecoveryKind env s arguments
  else finishProjection env s arguments

def decideForKind (s : PublicationState) (arguments : Arguments RecoveryFinishCall) :
    Except PublicationError (PublicationState × RecoveryRow) :=
  if (s.kindOf (arguments.publication RecoveryFinishCall.publication)).any isRecovery then
    decideRecoveryKind env s arguments
  else decideProjection env s arguments

def claimForKind (s : PublicationState) (arguments : Arguments ClaimCall) :
    Except PublicationError (PublicationState × ClaimRow) :=
  if s.kindOf (arguments.publication ClaimCall.publication) = some .projection then
    claimProjection s arguments
  else claimRecoveryKind s arguments

end PublicationState

/-! ## When dispatch is one call -/

section SingleCalls

variable {σ ρ ε : Type} {first : Except ε (σ × ρ)} {second : σ → Except ε (σ × ρ)}

/-- After an answer, a second query makes the function differ from the first call: it adds
a row, or it raises. -/
theorem returnQuery_ne_singleCall {t : σ} {row : ρ} (h : first = .ok (t, row)) :
    returnQuery first (fun next => singleCall (second next)) ≠ singleCall first := by
  subst h
  intro heq
  cases hsecond : second t with
  | error raised =>
    simp only [returnQuery, hsecond] at heq
    cases heq
  | ok result =>
    obtain ⟨u, other⟩ := result
    rw [returnQuery_two rfl hsecond] at heq
    cases heq

/-- A chain of two queries is the first call exactly when the condition that leads into
the chain is not met. -/
theorem ite_returnQuery_iff {taken : Prop} [Decidable taken] {other : Except ε (σ × ρ)} {t : σ}
    {row : ρ} (h : (if taken then first else other) = .ok (t, row)) :
    (if taken then returnQuery first (fun next => singleCall (second next))
      else singleCall other) = singleCall (if taken then first else other) ↔ ¬ taken := by
  by_cases htaken : taken
  · rw [if_pos htaken] at h
    rw [if_pos htaken, if_pos htaken]
    exact ⟨fun heq => absurd heq (returnQuery_ne_singleCall h), fun hnot => absurd htaken hnot⟩
  · rw [if_neg htaken, if_neg htaken]
    exact ⟨fun _ => htaken, fun _ => rfl⟩

theorem ite_returnQuery_error {taken : Prop} [Decidable taken] {other : Except ε (σ × ρ)}
    {raised : ε} (h : (if taken then first else other) = .error raised) :
    (if taken then returnQuery first (fun next => singleCall (second next))
      else singleCall other) = singleCall (if taken then first else other) := by
  by_cases htaken : taken
  · rw [if_pos htaken] at h
    rw [if_pos htaken, if_pos htaken, h]
    rfl
  · rw [if_neg htaken, if_neg htaken]

end SingleCalls

namespace PublicationState

/-- **Dispatch is one call for the kinds that are not tested for.** When the body for the
publication's kind answers, each dispatching function is that one call exactly when the
publication is not of the kind the function tests for first; when the body raises, the
function raises the same way. -/
theorem dispatch_single_call_iff (env : DatabaseEnvironment) (s : PublicationState)
    (finishing : Arguments PublicationLease) (deciding : Arguments RecoveryFinishCall)
    (claiming : Arguments ClaimCall) :
    ((∀ result, finishForKind env s finishing = .ok result →
        (finishRouteSetPublication env s finishing = singleCall (finishForKind env s finishing) ↔
          (s.kindOf (finishing.publication PublicationLease.publication)).any isRecovery = false)) ∧
      ∀ raised, finishForKind env s finishing = .error raised →
        finishRouteSetPublication env s finishing = singleCall (finishForKind env s finishing)) ∧
    ((∀ result, decideForKind env s deciding = .ok result →
        (finishRouteSetPublicationRecovery env s deciding =
            singleCall (decideForKind env s deciding) ↔
          (s.kindOf (deciding.publication RecoveryFinishCall.publication)).any
            isRecovery = false)) ∧
      ∀ raised, decideForKind env s deciding = .error raised →
        finishRouteSetPublicationRecovery env s deciding =
          singleCall (decideForKind env s deciding)) ∧
    ((∀ result, claimForKind s claiming = .ok result →
        (claimInterruptedRouteSetPublication s claiming = singleCall (claimForKind s claiming) ↔
          s.kindOf (claiming.publication ClaimCall.publication) ≠ some .projection)) ∧
      ∀ raised, claimForKind s claiming = .error raised →
        claimInterruptedRouteSetPublication s claiming = singleCall (claimForKind s claiming)) := by
  refine ⟨⟨?_, ?_⟩, ⟨?_, ?_⟩, ⟨?_, ?_⟩⟩
  · intro result h
    rw [← Bool.not_eq_true]
    exact ite_returnQuery_iff h
  · intro raised h
    exact ite_returnQuery_error h
  · intro result h
    rw [← Bool.not_eq_true]
    exact ite_returnQuery_iff h
  · intro raised h
    exact ite_returnQuery_error h
  · intro result h
    exact ite_returnQuery_iff h
  · intro raised h
    exact ite_returnQuery_error h

/-! ## A completed publication is claimed -/

/-- The first workshop's route. -/
def sampleRoute : DesiredRoute := ⟨⟨2, "sha256:2"⟩, .present⟩

def samplePrior : AppliedHead := ⟨⟨⟨1, "sha256:1"⟩, .present⟩, "sha256:a", .driver 7, 1⟩

/-- A publication of one workshop. -/
def sampleIdentity : PublicationIdentity where
  subject := .projection 8
  controlOperation := ⟨3, 1, "worker-a"⟩
  instanceOwner := 20
  executionToken := 21
  globalLeaseToken := 22
  routeLeaseToken := 23
  globalFence := 1
  workshop := 1
  selector := publicationSelector 9 .projection
  snapshotCount := 1
  prior := samplePrior
  route := sampleRoute
  routeFence := 2
  snapshot := [⟨1, sampleRoute, .object [], samplePrior, true⟩]

def sampleSeal : Seal := ⟨1, 1, "sha256:d", ⟨1, 2⟩⟩

def sampleEvidence : ObservedEvidence where
  prior := ⟨⟨"generations/boot-live", ⟨1, 1⟩, none⟩, 0⟩
  sealing := sampleSeal
  startedAt := 0
  observation :=
    ⟨⟨sampleIdentity.selector, expectedIdentity 9 sampleIdentity (some "sha256:d")⟩, 0⟩

/-- A database with one completed publication. -/
def completedState : PublicationState where
  queue := ⟨0, ∅, []⟩
  mode := .generationV1
  workshops := [1]
  fleet := ⟨1, .idle⟩
  leases := ∅
  heads := ∅
  projections := ∅
  receipts := ∅
  effectRuns := ∅
  reservations := ∅
  publications := (∅ : Table Uuid Publication).insert 9 { newPublication sampleIdentity with
    status := .completed sampleEvidence
      ⟨appliedResponse 9 sampleIdentity sampleSeal "sha256:b", 0⟩ }

def sampleClaim : ClaimCall := ⟨9, ⟨4, 1, "worker-b"⟩, 30, 31, 60⟩

/-- An environment whose hash is the length of its input. -/
def sampleEnvironment : DatabaseEnvironment where
  sha256 bytes := BitVec.ofNat 256 bytes.length
  jsonbText _ := ""
  columnSize _ := 0

/-- At a completed projection the body answers, and the claiming function is not that one
call. -/
theorem dispatch_single_call_at_completed :
    claimInterruptedRouteSetPublication completedState (.complete sampleClaim) =
        singleCall (claimForKind completedState (.complete sampleClaim)) ↔
      completedState.kindOf (some 9) ≠ some .projection :=
  (dispatch_single_call_iff sampleEnvironment completedState (.incomplete none)
    (.incomplete none) (.complete sampleClaim)).2.2.1 (completedState, ⟨.terminal, some 0, none⟩)
      rfl

/-- Claiming a completed projection answers `terminal`, as its own body does, and then
`invalid`, from the body for recoveries. -/
theorem claim_of_projection_answers_twice : claimForKind completedState (.complete sampleClaim) =
        .ok (completedState, ⟨.terminal, some 0, none⟩) ∧
      claimInterruptedRouteSetPublication completedState (.complete sampleClaim) =
        .ok (completedState, [⟨.terminal, some 0, none⟩, ⟨.invalid, none, none⟩]) :=
  ⟨rfl, rfl⟩

end PublicationState

end ControlPlane.Publications
