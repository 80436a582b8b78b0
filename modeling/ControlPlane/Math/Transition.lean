/-
# Runs of guarded step functions

A component is modelled by one executable function `step : σ → ε → Option σ`:
an event is a call together with everything the environment decides about it,
and `none` means that the call is not possible in that state. Replaying a list
of events is then a computation, and the proof rules below turn facts about one
step into facts about whole runs.

Runs carry a side condition on every step. The unconditional run is the one
whose condition is `True`, so a statement about every run and a statement about
the runs that avoid some step are proved with the same rules.
-/

import Mathlib.Logic.Basic

namespace ControlPlane.Math

universe u v

variable {σ : Type u} {ε : Type v}

/-- `RunWhere step good s events t` holds when the events lead from `s` to `t`
and every step meets `good` in the state before it. -/
inductive RunWhere (step : σ → ε → Option σ) (good : σ → ε → Prop) :
    σ → List ε → σ → Prop
  | nil (s : σ) : RunWhere step good s [] s
  | cons {s next t : σ} {event : ε} {events : List ε}
      (meets : good s event) (moved : step s event = some next)
      (rest : RunWhere step good next events t) :
      RunWhere step good s (event :: events) t

/-- A run without a side condition. -/
abbrev Run (step : σ → ε → Option σ) : σ → List ε → σ → Prop :=
  RunWhere step fun _ _ => True

/-- Replay a list of events; `none` when some event is not possible. -/
def replay (step : σ → ε → Option σ) : σ → List ε → Option σ
  | s, [] => some s
  | s, event :: events =>
    match step s event with
    | none => none
    | some next => replay step next events

variable {step : σ → ε → Option σ} {good : σ → ε → Prop} {s t : σ} {events : List ε}

theorem replay_cons {next : σ} {event : ε} (h : step s event = some next) :
    replay step s (event :: events) = replay step next events := by
  rw [replay, h]

namespace RunWhere

theorem single {event : ε} (meets : good s event) (moved : step s event = some t) :
    RunWhere step good s [event] t :=
  .cons meets moved (.nil t)

theorem append {w : σ} {first second : List ε} (hfirst : RunWhere step good s first t)
    (hsecond : RunWhere step good t second w) :
    RunWhere step good s (first ++ second) w := by
  induction hfirst with
  | nil s => exact hsecond
  | cons meets moved rest ih => exact .cons meets moved (ih hsecond)

theorem mono {weaker : σ → ε → Prop}
    (hrun : RunWhere step good s events t) (himp : ∀ s event, good s event → weaker s event) :
    RunWhere step weaker s events t := by
  induction hrun with
  | nil s => exact .nil s
  | cons meets moved rest ih => exact .cons (himp _ _ meets) moved ih

/-- The invariant rule: what holds at the start and is kept by every step that
meets the condition holds at the end. -/
theorem invariant {P : σ → Prop}
    (kept : ∀ s event t, P s → good s event → step s event = some t → P t)
    {s t : σ} {events : List ε} (hrun : RunWhere step good s events t) (hstart : P s) :
    P t := by
  induction hrun with
  | nil s => exact hstart
  | cons meets moved rest ih => exact ih (kept _ _ _ hstart meets moved)

/-- The two-state rule: a reflexive and transitive relation that every step
satisfies relates the ends of every run. An invariant may be used on the way. -/
theorem relation {P : σ → Prop} {R : σ → σ → Prop}
    (refl : ∀ s, R s s) (trans : ∀ {a b c}, R a b → R b c → R a c)
    (kept : ∀ s event t, P s → good s event → step s event = some t → P t)
    (related : ∀ s event t, P s → good s event → step s event = some t → R s t)
    {s t : σ} {events : List ε} (hrun : RunWhere step good s events t) (hstart : P s) :
    R s t := by
  induction hrun with
  | nil s => exact refl s
  | cons meets moved rest ih =>
    exact trans (related _ _ _ hstart meets moved) (ih (kept _ _ _ hstart meets moved))

end RunWhere

theorem run_of_replay (h : replay step s events = some t) : Run step s events t := by
  induction events generalizing s with
  | nil =>
    cases h
    exact .nil _
  | cons event events ih =>
    rw [replay] at h
    cases hstep : step s event with
    | none =>
      rw [hstep] at h
      cases h
    | some next =>
      rw [hstep] at h
      exact .cons trivial hstep (ih h)

theorem runWhere_of_replay (hgood : ∀ event ∈ events, ∀ state, good state event)
    (h : replay step s events = some t) : RunWhere step good s events t := by
  have hrun := run_of_replay h
  induction hrun with
  | nil s => exact .nil s
  | cons meets moved rest ih =>
    refine .cons (hgood _ List.mem_cons_self _) moved ?_
    exact ih (fun event hmem => hgood event (List.mem_cons_of_mem _ hmem))
      ((replay_cons moved).symm.trans h)

/-- Replay a list of events that each pass a check in the state before them. -/
def replayWhere (step : σ → ε → Option σ) (check : σ → ε → Bool) : σ → List ε → Option σ
  | s, [] => some s
  | s, event :: events =>
    if check s event then
      match step s event with
      | none => none
      | some next => replayWhere step check next events
    else none

theorem runWhere_of_replayWhere {check : σ → ε → Bool}
    (h : replayWhere step check s events = some t) :
    RunWhere step (fun s event => check s event = true) s events t := by
  induction events generalizing s with
  | nil =>
    cases h
    exact .nil _
  | cons event events ih =>
    rw [replayWhere] at h
    split at h
    · rename_i hcheck
      cases hstep : step s event with
      | none =>
        rw [hstep] at h
        cases h
      | some next =>
        rw [hstep] at h
        exact .cons hcheck hstep (ih h)
    · cases h

end ControlPlane.Math
