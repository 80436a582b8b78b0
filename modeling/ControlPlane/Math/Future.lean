/-
# Cancellable programs

An asynchronous function is a tree: it changes its own state, calls something outside
and goes on with the reply. At a call that it awaits it can be dropped, and a race with
another future can cut it short. Neither can happen anywhere else, so everything between
two awaited calls is one uninterrupted piece.

Every call is answered by an environment that may answer anything. The rules below reduce
a statement about every environment to the tree: `Ensures` is the weakest condition under
which each way to end meets its own postcondition.
-/

import Mathlib.Logic.Basic

namespace ControlPlane.Math

variable {σ Call ι ε α β : Type} {Reply : Call → Type}

/-! ## Programs -/

/-- A program over the state `σ` that calls `Call`, can be interrupted by `ι`, fails with
`ε` and returns `α`. A call says which interruptions end its wait and what follows them. -/
inductive Program (σ Call : Type) (Reply : Call → Type) (ι ε α : Type)
  | pure (value : α)
  | throw (error : ε)
  | update (change : σ → σ) (next : Program σ Call Reply ι ε α)
  | get (next : σ → Program σ Call Reply ι ε α)
  | call (request : Call) (enabled : ι → Bool)
      (replied : Reply request → Program σ Call Reply ι ε α)
      (interrupted : (i : ι) → enabled i = true → Program σ Call Reply ι ε α)

namespace Program

/-- Sequencing: an error ends the program. -/
def bind : Program σ Call Reply ι ε α → (α → Program σ Call Reply ι ε β) →
    Program σ Call Reply ι ε β
  | .pure value, next => next value
  | .throw error, _ => .throw error
  | .update change rest, next => .update change (rest.bind next)
  | .get rest, next => .get fun state => (rest state).bind next
  | .call request enabled replied interrupted, next =>
    .call request enabled (fun reply => (replied reply).bind next)
      fun i h => (interrupted i h).bind next

instance : Monad (Program σ Call Reply ι ε) where
  pure := Program.pure
  bind := Program.bind

/-- The result of a program as a value, so that an error does not end the caller. -/
def attempt : Program σ Call Reply ι ε α → Program σ Call Reply ι ε (Except ε α)
  | .pure value => .pure (.ok value)
  | .throw error => .pure (.error error)
  | .update change rest => .update change rest.attempt
  | .get rest => .get fun state => (rest state).attempt
  | .call request enabled replied interrupted =>
    .call request enabled (fun reply => (replied reply).attempt)
      fun i h => (interrupted i h).attempt

/-- Race a program against the interruptions that have a handler. A race inside the
program keeps the ones that it handles itself. -/
def race (handler : ι → Option (Program σ Call Reply ι ε α)) :
    Program σ Call Reply ι ε α → Program σ Call Reply ι ε α
  | .pure value => .pure value
  | .throw error => .throw error
  | .update change rest => .update change (rest.race handler)
  | .get rest => .get fun state => (rest state).race handler
  | .call request enabled replied interrupted =>
    .call request (fun i => enabled i || (handler i).isSome)
      (fun reply => (replied reply).race handler)
      fun i h => if hinner : enabled i = true then (interrupted i hinner).race handler
        else (handler i).get (by simpa [hinner] using h)

/-- Call and wait, with nothing that cuts the wait short. -/
def request (request : Call) : Program σ Call Reply ι ε (Reply request) :=
  .call request (fun _ => false) .pure fun _ h => nomatch h

/-- Go on with a value or fail with an error. -/
def ofExcept : Except ε α → Program σ Call Reply ι ε α
  | .ok value => .pure value
  | .error error => .throw error

/-- Fail with the error unless the condition holds. -/
def ensure (condition : Bool) (error : ε) : Program σ Call Reply ι ε Unit :=
  if condition then .pure () else .throw error

def modify (change : σ → σ) : Program σ Call Reply ι ε Unit :=
  .update change (.pure ())

def read : Program σ Call Reply ι ε σ :=
  .get .pure

end Program

/-! ## Executions -/

/-- How an execution ends. -/
inductive Outcome (ε α : Type)
  | returned (value : α)
  | failed (error : ε)
  | dropped

/-- What the environment does at one call: the reply it has ready, an interruption that
comes first, and whether the program is dropped while it waits. -/
structure Choice (ι ρ : Type) where
  reply : ρ
  interrupt : Option ι
  drop : Bool

/-- What happens at every call, counted from the start of the execution. -/
abbrev Environment (Call : Type) (Reply : Call → Type) (ι : Type) :=
  Nat → (request : Call) → Choice ι (Reply request)

namespace Program

variable (awaits : Call → Bool)

section run

variable (env : Environment Call Reply ι)

/-- Execute a program. Interruptions and drops only reach it at calls that it awaits. -/
def run : Program σ Call Reply ι ε α → Nat → σ → Outcome ε α × σ
  | .pure value, _, state => (.returned value, state)
  | .throw error, _, state => (.failed error, state)
  | .update change rest, calls, state => rest.run calls (change state)
  | .get rest, calls, state => (rest state).run calls state
  | .call request enabled replied interrupted, calls, state =>
    if awaits request && (env calls request).drop then (.dropped, state)
    else
      match (env calls request).interrupt with
      | none => (replied (env calls request).reply).run (calls + 1) state
      | some i =>
        if h : (awaits request && enabled i) = true then
          (interrupted i (Bool.and_eq_true _ _ ▸ h).2).run (calls + 1) state
        else (replied (env calls request).reply).run (calls + 1) state

end run

/-! ## Postconditions -/

/-- A condition for every way to end. -/
structure Post (σ ε α : Type) where
  dropped : σ → Prop
  failed : ε → σ → Prop
  returned : α → σ → Prop

/-- The condition that an ended execution meets. -/
def Post.Holds (post : Post σ ε α) : Outcome ε α × σ → Prop
  | (.returned value, state) => post.returned value state
  | (.failed error, state) => post.failed error state
  | (.dropped, state) => post.dropped state

/-- Every execution from the state meets the postcondition. -/
def Ensures (post : Post σ ε α) : Program σ Call Reply ι ε α → σ → Prop
  | .pure value, state => post.returned value state
  | .throw error, state => post.failed error state
  | .update change rest, state => rest.Ensures post (change state)
  | .get rest, state => (rest state).Ensures post state
  | .call request _ replied interrupted, state =>
    (awaits request = true → post.dropped state) ∧
    (∀ reply, (replied reply).Ensures post state) ∧
    (awaits request = true → ∀ i h, (interrupted i h).Ensures post state)

variable {awaits} {post : Post σ ε α} {state : σ} {p : Program σ Call Reply ι ε α}

/-- **Adequacy.** Whatever the environment does, the execution ends as ensured. -/
theorem Ensures.run (h : p.Ensures awaits post state) (env : Environment Call Reply ι)
    (calls : Nat) : post.Holds (p.run awaits env calls state) := by
  induction p generalizing calls state with
  | pure value | throw error => exact h
  | update change rest ih => exact ih h calls
  | get rest ih => exact ih state h calls
  | call request enabled replied interrupted ihreplied ihinterrupted =>
    obtain ⟨hdrop, hreply, hinterrupt⟩ := h
    rw [Program.run]
    split
    · next hdropped =>
      exact hdrop (Bool.and_eq_true _ _ ▸ hdropped).1
    split
    · exact ihreplied _ (hreply _) _
    · split
      · next hawaits =>
        exact ihinterrupted _ _ (hinterrupt (Bool.and_eq_true _ _ ▸ hawaits).1 _ _) _
      · exact ihreplied _ (hreply _) _

theorem Ensures.mono {weaker : Post σ ε α} (h : p.Ensures awaits post state)
    (hdropped : ∀ state, post.dropped state → weaker.dropped state)
    (hfailed : ∀ error state, post.failed error state → weaker.failed error state)
    (hreturned : ∀ value state, post.returned value state → weaker.returned value state) :
    p.Ensures awaits weaker state := by
  induction p generalizing state with
  | pure value => exact hreturned _ _ h
  | throw error => exact hfailed _ _ h
  | update change rest ih => exact ih h
  | get rest ih => exact ih state h
  | call request enabled replied interrupted ihreplied ihinterrupted =>
    exact ⟨fun hawaits => hdropped _ (h.1 hawaits), fun reply => ihreplied _ (h.2.1 reply),
      fun hawaits i hi => ihinterrupted _ _ (h.2.2 hawaits i hi)⟩

theorem Ensures.bind {post : Post σ ε β} {next : α → Program σ Call Reply ι ε β}
    (h : p.Ensures awaits ⟨post.dropped, post.failed,
      fun value state => (next value).Ensures awaits post state⟩ state) :
    (p >>= next).Ensures awaits post state := by
  show (p.bind next).Ensures awaits post state
  induction p generalizing state with
  | pure value | throw error => exact h
  | update change rest ih => exact ih h
  | get rest ih => exact ih state h
  | call request enabled replied interrupted ihreplied ihinterrupted =>
    exact ⟨h.1, fun reply => ihreplied _ (h.2.1 reply),
      fun hawaits i hi => ihinterrupted _ _ (h.2.2 hawaits i hi)⟩

theorem Ensures.attempt {post : Post σ ε (Except ε α)}
    (h : p.Ensures awaits ⟨post.dropped, fun error => post.returned (.error error),
      fun value => post.returned (.ok value)⟩ state) :
    p.attempt.Ensures awaits post state := by
  induction p generalizing state with
  | pure value | throw error => exact h
  | update change rest ih => exact ih h
  | get rest ih => exact ih state h
  | call request enabled replied interrupted ihreplied ihinterrupted =>
    exact ⟨h.1, fun reply => ihreplied _ (h.2.1 reply),
      fun hawaits i hi => ihinterrupted _ _ (h.2.2 hawaits i hi)⟩

/-- An interruption comes in a state in which the program could also have been dropped. -/
theorem Ensures.race {handler : ι → Option (Program σ Call Reply ι ε α)}
    (h : p.Ensures awaits ⟨fun state => post.dropped state ∧
        ∀ i caught, handler i = some caught → caught.Ensures awaits post state,
      post.failed, post.returned⟩ state) :
    (p.race handler).Ensures awaits post state := by
  induction p generalizing state with
  | pure value | throw error => exact h
  | update change rest ih => exact ih h
  | get rest ih => exact ih state h
  | call request enabled replied interrupted ihreplied ihinterrupted =>
    refine ⟨fun hawaits => (h.1 hawaits).1, fun reply => ihreplied _ (h.2.1 reply),
      fun hawaits i hi => ?_⟩
    dsimp only
    split
    · next hinner => exact ihinterrupted _ _ (h.2.2 hawaits i hinner)
    · exact (h.1 hawaits).2 i _ (Option.some_get _).symm

theorem ensures_ofExcept {result : Except ε α}
    (hok : ∀ value, result = .ok value → post.returned value state)
    (herror : ∀ error, result = .error error → post.failed error state) :
    (ofExcept result : Program σ Call Reply ι ε α).Ensures awaits post state := by
  cases result with
  | ok value => exact hok value rfl
  | error error => exact herror error rfl

theorem ensures_ensure {condition : Bool} {error : ε} {post : Post σ ε Unit}
    (htrue : condition = true → post.returned () state)
    (hfalse : condition = false → post.failed error state) :
    (ensure condition error : Program σ Call Reply ι ε Unit).Ensures awaits post state := by
  cases condition with
  | true => exact htrue rfl
  | false => exact hfalse rfl

/-! ## Invariants -/

/-- The program keeps an invariant of the state up to every way to end. -/
def Keeps (awaits : Call → Bool) (inv : σ → Prop) (p : Program σ Call Reply ι ε α) : Prop :=
  ∀ state, inv state → p.Ensures awaits ⟨inv, fun _ => inv, fun _ => inv⟩ state

variable {inv : σ → Prop}

theorem keeps_pure (value : α) : (Pure.pure value : Program σ Call Reply ι ε α).Keeps awaits inv :=
  fun _ h => h

theorem keeps_throw (error : ε) : (.throw error : Program σ Call Reply ι ε α).Keeps awaits inv :=
  fun _ h => h

theorem Keeps.bind {next : α → Program σ Call Reply ι ε β} (hfirst : p.Keeps awaits inv)
    (hnext : ∀ value, (next value).Keeps awaits inv) : (p >>= next).Keeps awaits inv :=
  fun state h => Ensures.bind <|
    (hfirst state h).mono (fun _ h => h) (fun _ _ h => h) fun value _ h => hnext value _ h

theorem keeps_ofExcept (result : Except ε α) :
    (ofExcept result : Program σ Call Reply ι ε α).Keeps awaits inv :=
  fun _ h => ensures_ofExcept (fun _ _ => h) fun _ _ => h

theorem keeps_ensure (condition : Bool) (error : ε) :
    (ensure condition error : Program σ Call Reply ι ε Unit).Keeps awaits inv :=
  fun _ h => ensures_ensure (fun _ => h) fun _ => h

theorem keeps_modify {change : σ → σ} (hchange : ∀ state, inv state → inv (change state)) :
    (modify change : Program σ Call Reply ι ε Unit).Keeps awaits inv :=
  fun state h => hchange state h

theorem Keeps.attempt (h : p.Keeps awaits inv) : p.attempt.Keeps awaits inv :=
  fun state hinv => Ensures.attempt (h state hinv)

theorem Keeps.race {handler : ι → Option (Program σ Call Reply ι ε α)} (h : p.Keeps awaits inv)
    (hhandler : ∀ i caught, handler i = some caught → caught.Keeps awaits inv) :
    (p.race handler).Keeps awaits inv := by
  intro state hinv
  apply Ensures.race
  refine (h state hinv).mono ?_ (fun _ _ h => h) (fun _ _ h => h)
  exact fun state hstate => ⟨hstate, fun i caught hcaught => hhandler i caught hcaught state hstate⟩

/-- Use that a part of a program keeps an invariant. -/
theorem Keeps.ensures (hkeeps : p.Keeps awaits inv) (h : inv state)
    (hdropped : ∀ state, inv state → post.dropped state)
    (hfailed : ∀ error state, inv state → post.failed error state)
    (hreturned : ∀ value state, inv state → post.returned value state) :
    p.Ensures awaits post state :=
  (hkeeps state h).mono hdropped hfailed hreturned

end Program

/-! ## Histories -/

section histories

variable {ω : Type} {trigger : ω → Prop} {cause : List ω → Prop} {history : List ω}

/-- Every occurrence that triggers comes after a history with the cause. -/
def Preceded (trigger : ω → Prop) (cause : List ω → Prop) (history : List ω) : Prop :=
  ∀ before occurrence after, history = before ++ occurrence :: after → trigger occurrence →
    cause before

theorem preceded_nil : Preceded trigger cause [] := by
  intro before occurrence after heq
  simp at heq

theorem Preceded.snoc (h : Preceded trigger cause history) {occurrence : ω}
    (hlast : trigger occurrence → cause history) :
    Preceded trigger cause (history ++ [occurrence]) := by
  intro before other after heq htrigger
  rcases List.append_eq_append_iff.mp heq with ⟨middle, hbefore, hrest⟩ | ⟨middle, hhistory, hrest⟩
  · cases middle with
    | nil =>
      obtain ⟨rfl, -⟩ := List.cons.inj hrest
      rw [hbefore, List.append_nil]
      exact hlast htrigger
    | cons first middle => simp at hrest
  · cases middle with
    | nil =>
      obtain ⟨rfl, -⟩ := List.cons.inj hrest
      rw [hhistory, List.append_nil] at hlast
      exact hlast htrigger
    | cons first middle =>
      obtain ⟨rfl, -⟩ := List.cons.inj hrest
      exact h before other middle hhistory htrigger

theorem Preceded.append (h : Preceded trigger cause history) {rest : List ω}
    (hrest : ∀ occurrence ∈ rest, ¬ trigger occurrence) :
    Preceded trigger cause (history ++ rest) := by
  induction rest generalizing history with
  | nil => simpa using h
  | cons first rest ih =>
    have hfirst : Preceded trigger cause (history ++ [first]) :=
      h.snoc fun htrigger => absurd htrigger (hrest first (List.mem_cons_self ..))
    have hmore := ih hfirst fun o ho => hrest o (List.mem_cons_of_mem _ ho)
    rwa [List.append_assoc, List.singleton_append] at hmore

/-- The first trigger comes after everything that is none. -/
theorem Preceded.takeWhile {p : ω → Bool} (h : Preceded (fun o => p o = true) cause history)
    (hany : history.any p = true) : cause (history.takeWhile fun o => !p o) := by
  induction history generalizing cause with
  | nil => cases hany
  | cons first rest ih =>
    cases hfirst : p first with
    | true =>
      rw [List.takeWhile_cons_of_neg (by simp [hfirst])]
      exact h [] first rest rfl hfirst
    | false =>
      rw [List.takeWhile_cons_of_pos (by simp [hfirst])]
      have hrest : Preceded (fun o => p o = true) (fun before => cause (first :: before))
          rest := by
        intro before o after heq htrigger
        exact h (first :: before) o after (by rw [heq]; rfl) htrigger
      exact ih hrest (by simpa [hfirst] using hany)

theorem preceded_of_forall (h : ∀ before after, history = before ++ after → cause before) :
    Preceded trigger cause history :=
  fun before _ _ heq _ => h before _ heq

end histories

end ControlPlane.Math
