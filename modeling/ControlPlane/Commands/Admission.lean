/-
# Command admission

A command is admitted once for each actor, scope, kind and idempotency key. The insert
does nothing when there is a row under the key, and the row is then read under its
lock, so a transaction that admits or completes a command is one step. The row keeps
the digest of the canonical request: a later command under the key is answered from the
row when its request and version are the ones that were admitted, and is refused
otherwise. Nothing deletes a row, and only a row that was not completed changes.
-/

import ControlPlane.Domain.Basic
import ControlPlane.Math.Encoding
import ControlPlane.Math.Json
import ControlPlane.Math.Table
import ControlPlane.Math.Transition

namespace ControlPlane.Commands

open Domain Math Table

/-- The canonical form of a request, and the hash function. -/
structure CommandEnvironment where
  canonical : Json → List UInt8
  sha256 : List UInt8 → List UInt8

variable (env : CommandEnvironment)

def CommandEnvironment.requestDigest (request : Json) : List UInt8 :=
  env.sha256 (env.canonical request)

/-- What makes a command unique. -/
structure CommandKey where
  actorUserId : Uuid
  (scope commandKind idempotencyKey : String)
  deriving DecidableEq

structure NewCommand where
  key : CommandKey
  semanticRequest : Json
  expectedVersion : Option Int

structure CommandResult where
  operationId : Option Uuid
  responseStatus : Nat
  responseBody : Option Json
  resultRef : Option String

/-- The columns of the result are written when the command is completed. -/
inductive CommandState
  | admitted
  | completed (result : CommandResult)

structure CommandRow where
  id : Uuid
  requestDigest : List UInt8
  expectedVersion : Option Int
  state : CommandState

inductive CommandAdmission
  | new (commandId : Uuid)
  | replay (commandId : Uuid) (result : CommandResult)
  | inProgress (commandId : Uuid)

inductive CommandError
  | invalidIdempotencyKey
  | payloadMismatch
  | database

abbrev CommandTable := Table CommandKey CommandRow

def validIdempotencyKey (value : String) : Bool :=
  decide (1 ≤ byteLength value.toList ∧ byteLength value.toList ≤ 255) &&
    value.toList.all fun c => c.isAlphanum || decide (c ∈ ['.', '_', ':', '/', '-'])

/-- A text that is not blank and not longer than its bound. -/
def boundedText (bound : Nat) (text : String) : Bool :=
  text.toList.any (· ≠ ' ') && decide (text.length ≤ bound)

/-- The checks of the table that an insert meets before it looks for a conflict. -/
def NewCommand.storable (command : NewCommand) : Bool :=
  boundedText 200 command.key.scope && boundedText 100 command.key.commandKind &&
    command.expectedVersion.all fun version => decide (0 < version)

/-- The answer to a command that was admitted before. -/
def CommandRow.answer (row : CommandRow) : CommandAdmission :=
  match row.state with
  | .completed result => .replay row.id result
  | .admitted => .inProgress row.id

def NewCommand.row (command : NewCommand) (id : Uuid) : CommandRow where
  id := id
  requestDigest := env.requestDigest command.semanticRequest
  expectedVersion := command.expectedVersion
  state := .admitted

/-- `admit_command` under the new identifier `id`. A row can only be inserted for a known
actor and under an identifier that is not taken. -/
def admitCommand (commands : CommandTable) (command : NewCommand)
    (id : Uuid) (actorKnown : Bool) : Except CommandError (CommandTable × CommandAdmission) :=
  if !validIdempotencyKey command.key.idempotencyKey then .error .invalidIdempotencyKey
  else if !command.storable then .error .database
  else
    match commands.lookup command.key with
    | some row =>
      if row.requestDigest ≠ env.requestDigest command.semanticRequest ∨
          row.expectedVersion ≠ command.expectedVersion then .error .payloadMismatch
      else .ok (commands, row.answer)
    | none =>
      if actorKnown && (commands.find fun row => decide (row.id = id)).isNone then
        .ok (commands.insert command.key (command.row env id), .new id)
      else .error .database

/-- The checks of the table on a completed row. -/
def CommandResult.storable (result : CommandResult) : Bool :=
  decide (100 ≤ result.responseStatus ∧ result.responseStatus ≤ 599) &&
    (result.responseBody.isNone || result.resultRef.isNone)

/-- `complete_command`, which must change one admitted row. -/
def completeCommand (commands : CommandTable) (id : Uuid) (result : CommandResult)
    (operationKnown : Bool) : Except CommandError CommandTable :=
  let admitted (row : CommandRow) : Bool :=
    decide (row.id = id) && match row.state with
      | .admitted => true
      | .completed _ => false
  match commands.find admitted with
  | some (key, row) =>
    if result.storable && (result.operationId.isNone || operationKnown) then
      .ok (commands.insert key { row with state := .completed result })
    else .error .database
  | none => .error .database

inductive CommandEvent
  | admission (command : NewCommand) (id : Uuid) (actorKnown : Bool)
  | complete (id : Uuid) (result : CommandResult) (operationKnown : Bool)

/-- A transaction that fails is rolled back. -/
def step (commands : CommandTable) : CommandEvent → Option CommandTable
  | .admission command id actorKnown =>
    some (match admitCommand env commands command id actorKnown with
      | .ok (next, _) => next
      | .error _ => commands)
  | .complete id result operationKnown =>
    some (match completeCommand commands id result operationKnown with
      | .ok next => next
      | .error _ => commands)

/-! ## What becomes of a row -/

variable {env : CommandEnvironment} {s t u : CommandTable} {command : NewCommand} {id : Uuid}
  {known : Bool} {answer : CommandAdmission} {key : CommandKey} {row : CommandRow}

/-- A row that was admitted stays, and a result that was stored is final. -/
structure Lasts (before after : CommandRow) : Prop where
  id : after.id = before.id
  requestDigest : after.requestDigest = before.requestDigest
  expectedVersion : after.expectedVersion = before.expectedVersion
  state : ∀ result, before.state = .completed result → after.state = .completed result

theorem Lasts.refl (row : CommandRow) : Lasts row row := ⟨rfl, rfl, rfl, fun _ h => h⟩

theorem Lasts.trans {first second third : CommandRow} (h : Lasts first second)
    (h' : Lasts second third) : Lasts first third :=
  ⟨h'.id.trans h.id, h'.requestDigest.trans h.requestDigest,
    h'.expectedVersion.trans h.expectedVersion, fun result hresult =>
      h'.state result (h.state result hresult)⟩

/-- A completion stores its result in an admitted row. -/
theorem completeCommand_cases {result : CommandResult} {operationKnown : Bool}
    (h : completeCommand s id result operationKnown = .ok t) :
    ∃ key row, s.lookup key = some row ∧ row.id = id ∧ row.state = .admitted ∧
      t = s.insert key { row with state := .completed result } := by
  unfold completeCommand at h
  dsimp only at h
  split at h
  swap
  · cases h
  rename_i key row hfound
  obtain ⟨hrow, hadmitted⟩ := lookup_of_find hfound
  split at h
  swap
  · cases h
  cases h
  simp only [Bool.and_eq_true, decide_eq_true_eq] at hadmitted
  refine ⟨key, row, hrow, hadmitted.1, ?_, rfl⟩
  cases hstate : row.state with
  | admitted => rfl
  | completed result => simp [hstate] at hadmitted

theorem lasts_complete {result : CommandResult} {operationKnown : Bool}
    (h : completeCommand s id result operationKnown = .ok t) (hrow : s.lookup key = some row) :
    ∃ after, t.lookup key = some after ∧ Lasts row after := by
  obtain ⟨other, found, hlookup, -, hadmitted, rfl⟩ := completeCommand_cases h
  by_cases hkey : key = other
  · subst hkey
    cases hrow.symm.trans hlookup
    refine ⟨_, AList.lookup_insert _, rfl, rfl, rfl, fun result hresult => ?_⟩
    cases hadmitted.symm.trans hresult
  · exact ⟨row, (AList.lookup_insert_ne hkey).trans hrow, .refl row⟩

/-- An admission answers from the row under its key, or makes one. -/
theorem admitCommand_cases (h : admitCommand env s command id known = .ok (t, answer)) :
    validIdempotencyKey command.key.idempotencyKey = true ∧ command.storable = true ∧
      ((∃ row, s.lookup command.key = some row ∧ t = s ∧ answer = row.answer ∧
          row.requestDigest = env.requestDigest command.semanticRequest ∧
          row.expectedVersion = command.expectedVersion) ∨
        s.lookup command.key = none ∧ answer = .new id ∧
          (s.find fun row => decide (row.id = id)) = none ∧
          t = s.insert command.key (command.row env id)) := by
  unfold admitCommand at h
  split at h
  · cases h
  rename_i hkey
  split at h
  · cases h
  rename_i hstorable
  refine ⟨by simpa using hkey, by simpa using hstorable, ?_⟩
  split at h
  · rename_i row hrow
    split at h
    · cases h
    rename_i hsame
    push Not at hsame
    cases h
    exact Or.inl ⟨row, hrow, rfl, rfl, hsame⟩
  · rename_i hnone
    split at h
    · rename_i hinsert
      cases h
      rw [Bool.and_eq_true, Option.isNone_iff_eq_none] at hinsert
      exact Or.inr ⟨hnone, rfl, hinsert.2, rfl⟩
    · cases h

theorem lasts_step {event : CommandEvent} (hstep : step env s event = some t)
    (hrow : s.lookup key = some row) : ∃ after, t.lookup key = some after ∧ Lasts row after := by
  cases event with
  | admission command id known =>
    simp only [step, Option.some.injEq] at hstep
    subst hstep
    split
    · rename_i next answer hfirst
      rcases (admitCommand_cases hfirst).2.2 with ⟨_, _, rfl, _⟩ | ⟨hnone, _, _, rfl⟩
      · exact ⟨row, hrow, .refl row⟩
      · have hne : key ≠ command.key := by
          rintro rfl
          cases hrow.symm.trans hnone
        exact ⟨row, (AList.lookup_insert_ne hne).trans hrow, .refl row⟩
    · exact ⟨row, hrow, .refl row⟩
  | complete id result operationKnown =>
    simp only [step, Option.some.injEq] at hstep
    subst hstep
    split
    · rename_i next hcomplete
      exact lasts_complete hcomplete hrow
    · exact ⟨row, hrow, .refl row⟩

theorem lasts_run {events : List CommandEvent} (hrun : Run (step env) s events t)
    (hrow : s.lookup key = some row) : ∃ after, t.lookup key = some after ∧ Lasts row after :=
  hrun.invariant (P := fun u => ∃ after, u.lookup key = some after ∧ Lasts row after)
    (fun _ _ _ ⟨_, hbefore, hlasts⟩ _ hstep =>
      let ⟨after, hafter, hnext⟩ := lasts_step hstep hbefore
      ⟨after, hafter, hlasts.trans hnext⟩)
    ⟨row, hrow, .refl row⟩

/-- The identifier is the primary key. -/
def UniqueIds (s : CommandTable) : Prop :=
  ∀ key row other found, s.lookup key = some row → s.lookup other = some found →
    row.id = found.id → key = other

theorem uniqueIds_insert (h : UniqueIds s)
    (hid : ∀ other found, s.lookup other = some found → row.id = found.id → key = other) :
    UniqueIds (s.insert key row) := by
  intro first found second other hfirst hsecond hsame
  rcases lookup_insert_cases hfirst with ⟨rfl, rfl⟩ | ⟨-, hold⟩ <;>
    rcases lookup_insert_cases hsecond with ⟨rfl, rfl⟩ | ⟨-, hother⟩
  · rfl
  · exact hid second other hother hsame
  · exact (hid first found hold hsame.symm).symm
  · exact h first found second other hold hother hsame

theorem uniqueIds_admitCommand (h : UniqueIds s)
    (hcall : admitCommand env s command id known = .ok (t, answer)) : UniqueIds t := by
  rcases (admitCommand_cases hcall).2.2 with ⟨_, _, rfl, _⟩ | ⟨-, -, hfree, rfl⟩
  · exact h
  · refine uniqueIds_insert h fun other found hfound hsame => ?_
    simpa [NewCommand.row, hsame.symm] using not_of_find_none hfree hfound

theorem uniqueIds_step {event : CommandEvent} (h : UniqueIds s)
    (hstep : step env s event = some t) : UniqueIds t := by
  cases event with
  | admission command id known =>
    cases hstep
    split
    · rename_i hcall
      exact uniqueIds_admitCommand h hcall
    · exact h
  | complete id result operationKnown =>
    cases hstep
    split
    · rename_i hcomplete
      obtain ⟨key, row, hrow, -, -, rfl⟩ := completeCommand_cases hcomplete
      exact uniqueIds_insert h fun other found hfound => h key row other found hrow hfound
    · exact h

/-! ## Admissions under one key -/

section

variable (h : admitCommand env s command id known = .ok (t, answer))

include h

theorem row_of_admitCommand : ∃ row, t.lookup command.key = some row ∧
      row.requestDigest = env.requestDigest command.semanticRequest ∧
      row.expectedVersion = command.expectedVersion := by
  rcases (admitCommand_cases h).2.2 with ⟨row, hrow, rfl, -, hsame⟩ | ⟨-, -, -, rfl⟩
  · exact ⟨row, hrow, hsame⟩
  · exact ⟨_, AList.lookup_insert _, rfl, rfl⟩

theorem lookup_of_admitCommand (hother : key ≠ command.key) : t.lookup key = s.lookup key := by
  rcases (admitCommand_cases h).2.2 with ⟨_, _, rfl, _⟩ | ⟨_, _, _, rfl⟩
  · rfl
  · exact AList.lookup_insert_ne hother

end

/-- The answer depends on the row under the key, and on whether the identifier is taken. -/
theorem answer_eq_of_lookup (hrow : s.lookup command.key = t.lookup command.key)
    (htaken : (s.find fun row => decide (row.id = id)).isNone =
      (t.find fun row => decide (row.id = id)).isNone) :
    (admitCommand env s command id known).map Prod.snd =
      (admitCommand env t command id known).map Prod.snd := by
  unfold admitCommand
  rw [hrow, htaken]
  split
  · rfl
  split
  · rfl
  split
  · split <;> rfl
  · split <;> rfl

theorem answer_ne_new (row : CommandRow) (id : Uuid) : row.answer ≠ .new id := by
  unfold CommandRow.answer
  split <;> simp

/-- Whether a later command has the request and the version of an admitted one. -/
def NewCommand.sameAs (env : CommandEnvironment) (later command : NewCommand) : Prop :=
  env.canonical later.semanticRequest = env.canonical command.semanticRequest ∧
    later.expectedVersion = command.expectedVersion

theorem admitCommand_of_same (hfirst : admitCommand env s command id known = .ok (t, answer))
    {later : NewCommand} (hkey : later.key = command.key) (hsame : later.sameAs env command)
    (hrow : u.lookup command.key = some row)
    (hdigest : row.requestDigest = env.requestDigest command.semanticRequest)
    (hversion : row.expectedVersion = command.expectedVersion) (laterId : Uuid)
    (laterKnown : Bool) : admitCommand env u later laterId laterKnown = .ok (u, row.answer) := by
  obtain ⟨hvalid, hstorable, -⟩ := admitCommand_cases hfirst
  have hlater : later.storable = true := by
    simpa only [NewCommand.storable, hkey, hsame.2] using hstorable
  have hrequest : row.requestDigest = env.requestDigest later.semanticRequest :=
    hdigest.trans (congrArg env.sha256 hsame.1.symm)
  unfold admitCommand
  rw [if_neg (by simp [hkey, hvalid]), if_neg (by simp [hlater]), hkey, hrow]
  simp [hrequest, hversion, hsame.2]

/-- From this table on, the command is answered with this result. -/
def Replays (env : CommandEnvironment) (s : CommandTable) (command : NewCommand) (id : Uuid)
    (result : CommandResult) : Prop :=
  ∀ events t, Run (step env) s events t → ∀ newId known,
    admitCommand env t command newId known = .ok (t, .replay id result)

theorem replays_of_completed (hfirst : admitCommand env s command id known = .ok (t, answer))
    {later : NewCommand} (hkey : later.key = command.key) (hsame : later.sameAs env command)
    (hrow : u.lookup command.key = some row)
    (hdigest : row.requestDigest = env.requestDigest command.semanticRequest)
    (hversion : row.expectedVersion = command.expectedVersion) {result : CommandResult}
    (hresult : row.state = .completed result) : Replays env u later row.id result := by
  intro events v hrun newId newKnown
  obtain ⟨after, hafter, hlasts⟩ := lasts_run hrun hrow
  rw [admitCommand_of_same hfirst hkey hsame hafter (hlasts.requestDigest.trans hdigest)
    (hlasts.expectedVersion.trans hversion), CommandRow.answer, hlasts.state result hresult,
    hlasts.id]

theorem admitCommand_of_not_same (hsha : env.sha256.Injective) {later : NewCommand}
    (hkey : later.key = command.key) (hdiffers : ¬ later.sameAs env command)
    (hrow : u.lookup command.key = some row)
    (hdigest : row.requestDigest = env.requestDigest command.semanticRequest)
    (hversion : row.expectedVersion = command.expectedVersion) (laterId : Uuid)
    (laterKnown : Bool) : ∃ error, admitCommand env u later laterId laterKnown = .error error := by
  have hmismatch : row.requestDigest ≠ env.requestDigest later.semanticRequest ∨
      row.expectedVersion ≠ later.expectedVersion := by
    by_contra hsame
    push Not at hsame
    exact hdiffers ⟨hsha (hsame.1.symm.trans hdigest), hsame.2.symm.trans hversion⟩
  unfold admitCommand
  split
  · exact ⟨_, rfl⟩
  split
  · exact ⟨_, rfl⟩
  rw [hkey, hrow]
  exact ⟨_, if_pos hmismatch⟩

/-- **After an admission under a key no later one under the key is new. A later one with the
same canonical request and version is answered as in progress until the command is completed,
and from then on with the result that was stored; one that differs is refused. Admissions
under different keys do not touch each other's rows or answers.** -/
theorem admission_at_most_once (hsha : env.sha256.Injective) (hids : UniqueIds s)
    {events : List CommandEvent} (hfirst : admitCommand env s command id known = .ok (t, answer))
    (hlater : Run (step env) t events u) :
    (∀ later laterId laterKnown, later.key = command.key → (∀ next commandId,
        admitCommand env u later laterId laterKnown ≠ .ok (next, .new commandId)) ∧
      (later.sameAs env command → ∃ row, u.lookup command.key = some row ∧
        (row.state = .admitted →
          admitCommand env u later laterId laterKnown = .ok (u, .inProgress row.id) ∧
          ∀ result operationKnown v, completeCommand u row.id result operationKnown = .ok v →
            Replays env v later row.id result) ∧
        (∀ result, row.state = .completed result → Replays env u later row.id result) ∧
        ∀ events v, Run (step env) u events v →
          ∃ after, v.lookup command.key = some after ∧ Lasts row after) ∧
      (¬ later.sameAs env command →
        ∃ error, admitCommand env u later laterId laterKnown = .error error)) ∧
      ∀ other otherId otherKnown, other.key ≠ command.key →
        (∀ v w given, admitCommand env v other otherId otherKnown = .ok (w, given) →
          w.lookup command.key = v.lookup command.key) ∧
        ∀ v w : CommandTable, v.lookup other.key = w.lookup other.key →
          ((v.find fun row => decide (row.id = otherId)).isNone =
            (w.find fun row => decide (row.id = otherId)).isNone) →
          (admitCommand env v other otherId otherKnown).map Prod.snd =
            (admitCommand env w other otherId otherKnown).map Prod.snd := by
  obtain ⟨before, hbefore, hdigest, hversion⟩ := row_of_admitCommand hfirst
  obtain ⟨row, hrow, hlasts⟩ := lasts_run hlater hbefore
  have hrequest := hlasts.requestDigest.trans hdigest
  have hrowVersion := hlasts.expectedVersion.trans hversion
  have hunique : UniqueIds u := hlater.invariant (P := UniqueIds)
    (fun _ _ _ h _ hstep => uniqueIds_step h hstep) (uniqueIds_admitCommand hids hfirst)
  constructor
  · intro later laterId laterKnown hkey
    refine ⟨fun next commandId hnew => ?_, fun hsame => ⟨row, hrow, fun hadmitted => ⟨?_, ?_⟩,
      fun result hresult => ?_, fun events v hrun => lasts_run hrun hrow⟩, fun hdiffers => ?_⟩
    · rcases (admitCommand_cases hnew).2.2 with ⟨found, _, _, hanswer, _⟩ | ⟨hnone, _⟩
      · exact answer_ne_new found commandId hanswer.symm
      · rw [hkey, hrow] at hnone
        cases hnone
    · rw [admitCommand_of_same hfirst hkey hsame hrow hrequest hrowVersion, CommandRow.answer,
        hadmitted]
    · intro result operationKnown v hcomplete
      obtain ⟨other, found, hfound, hid, -, rfl⟩ := completeCommand_cases hcomplete
      obtain rfl := hunique other found command.key row hfound hrow hid
      cases hrow.symm.trans hfound
      have hstored := AList.lookup_insert (a := command.key) (b := { row with
        state := .completed result }) u
      exact replays_of_completed hfirst hkey hsame hstored hrequest hrowVersion rfl
    · exact replays_of_completed hfirst hkey hsame hrow hrequest hrowVersion hresult
    · exact admitCommand_of_not_same hsha hkey hdiffers hrow hrequest hrowVersion laterId laterKnown
  · intro other otherId otherKnown hne
    exact ⟨fun v w given hother => lookup_of_admitCommand hother hne.symm,
      fun v w hsame htaken => answer_eq_of_lookup hsame htaken⟩

/-- Requests that are texts, hashed by themselves. -/
def sampleEnvironment : CommandEnvironment where
  canonical
    | .string text => octets text
    | _ => []
  sha256 bytes := bytes

def sampleCommand (request : String) : NewCommand where
  key := ⟨1, "workshop:2", "member.invite", "invite:3"⟩
  semanticRequest := .string request
  expectedVersion := some 4

/-- A command is in progress until it is completed and answered with its result from then
on, and another request under its key is refused. -/
theorem admission_at_most_once_of_completed : ∃ t u result,
    admitCommand sampleEnvironment ∅ (sampleCommand "a") 7 true = .ok (t, .new 7) ∧
      admitCommand sampleEnvironment t (sampleCommand "a") 8 true = .ok (t, .inProgress 7) ∧
      completeCommand t 7 result true = .ok u ∧ result.responseStatus = 201 ∧
      Replays sampleEnvironment u (sampleCommand "a") 7 result ∧
      ∃ error, admitCommand sampleEnvironment t (sampleCommand "b") 9 true = .error error := by
  have hfirst : admitCommand sampleEnvironment ∅ (sampleCommand "a") 7 true =
      .ok ((∅ : CommandTable).insert (sampleCommand "a").key
        ((sampleCommand "a").row sampleEnvironment 7), .new 7) := rfl
  have hids : UniqueIds ∅ := fun _ _ _ _ hrow => by cases hrow
  obtain ⟨hunder, -⟩ := admission_at_most_once (fun _ _ h => h) hids hfirst (.nil _)
  obtain ⟨row, hrow, hadmitted, -⟩ := (hunder (sampleCommand "a") 8 true rfl).2.1 ⟨rfl, rfl⟩
  cases hrow.symm.trans (AList.lookup_insert _)
  obtain ⟨hprogress, hreplays⟩ := hadmitted rfl
  refine ⟨_, _, ⟨none, 201, none, none⟩, hfirst, hprogress, rfl, rfl, hreplays _ true _ rfl,
    (hunder (sampleCommand "b") 9 true rfl).2.2 fun hsame => ?_⟩
  exact absurd hsame.1 (by decide)

end ControlPlane.Commands
