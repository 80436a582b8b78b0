/-
# Transactions that lock rows

A transaction takes row locks one after another, waits while another transaction holds
the next one, and gives all of them back when it ends. In a cyclic wait each of some
transactions waits for the next, so none of them can go on.

The rule that excludes it is that every transaction takes its locks in one order. Two
weakenings of it are covered. A lock that the transaction holds already may be taken
again at any place. Locks that the order does not separate may be taken in any sequence
under a gate, one lock that every transaction which does so has to hold.
-/

import ControlPlane.Math.Table
import ControlPlane.Math.Transition
import Mathlib.Logic.Relation
import Mathlib.Order.Lattice

namespace ControlPlane.Math

open Table

universe u v w

variable {ι : Type u} {ρ : Type v}

/-- A running transaction: the rows it holds, newest first, and the rows it has still to
lock. -/
structure Transaction (ρ : Type v) where
  (held body : List ρ)
  deriving DecidableEq

/-- The running transactions. -/
abbrev LockState (ι : Type u) (ρ : Type v) [DecidableEq ι] := Table ι (Transaction ρ)

/-- A transaction may end at any time: it returns, it raises, or it is rolled back. -/
inductive LockEvent (ι : Type u) (ρ : Type v)
  | start (id : ι) (body : List ρ)
  | lock (id : ι)
  | finish (id : ι)

/-- The event starts no transaction but those whose rows satisfy `P`. -/
def LockEvent.StartsOnly (P : List ρ → Prop) : LockEvent ι ρ → Prop
  | .start _ body => P body
  | .lock _ | .finish _ => True

/-- Every row that is locked for the first time comes after the rows locked before it. -/
def Respects (order : ρ → ρ → Prop) (body : List ρ) : Prop :=
  ∀ done row rest, body = done ++ row :: rest → row ∈ done ∨ ∀ earlier ∈ done, order earlier row

/-- After the rows `held`, the rows `body` are locked in the order of `rank`. A held row
may be locked again, and rows of one rank may follow each other while the gate, if there
is one, is held. -/
def OrderedAfter {α : Type w} [LT α] (rank : ρ → α) (gate : Option ρ) (held body : List ρ) :
    Prop :=
  ∀ done row rest, body = done ++ row :: rest → row ∈ held ++ done ∨ ∀ earlier ∈ held ++ done,
      rank earlier < rank row ∨ rank earlier = rank row ∧ ∃ lock ∈ gate, lock ∈ held ++ done

/-- The rows of a whole transaction are locked in the order of `rank`. -/
def Ordered {α : Type w} [LT α] (rank : ρ → α) (gate : Option ρ) (body : List ρ) : Prop :=
  OrderedAfter rank gate [] body

/-- The first lock on `second` comes after a lock on `first`. -/
def locksBefore [DecidableEq ρ] (body : List ρ) (first second : ρ) : Bool :=
  decide (second ∈ body) && decide (first ∈ body.takeWhile (· ≠ second))

theorem Respects.order [DecidableEq ρ] {order : ρ → ρ → Prop} {body : List ρ} {first second : ρ}
    (h : Respects order body) (hbefore : locksBefore body first second = true) :
    order first second := by
  rw [locksBefore, Bool.and_eq_true, decide_eq_true_eq, decide_eq_true_eq] at hbefore
  obtain ⟨hsecond, hfirst⟩ := hbefore
  obtain ⟨done, rest, rfl, hnew⟩ := List.eq_append_cons_of_mem hsecond
  have htake : (done ++ second :: rest).takeWhile (· ≠ second) = done := by
    rw [List.takeWhile_append_of_pos]
    · simp
    · intro row hrow
      exact decide_eq_true fun heq => hnew (heq ▸ hrow)
  rw [htake] at hfirst
  rcases h done second rest rfl with hheld | habove
  · exact absurd hheld hnew
  · exact habove first hfirst

/-- Without a gate the ranks are a strict order of the rows. -/
theorem Ordered.respects {α : Type w} [LT α] {rank : ρ → α} {body : List ρ}
    (h : Ordered rank none body) :
    Respects (fun first second => rank first < rank second) body := by
  intro done row rest hbody
  refine (h done row rest hbody).imp_right fun habove earlier hearlier => ?_
  rcases habove earlier hearlier with hlt | ⟨_, lock, hlock, _⟩
  · exact hlt
  · cases hlock

namespace OrderedAfter

variable {α : Type w} [LT α] {rank : ρ → α} {gate : Option ρ} {held body more : List ρ}

theorem nil : OrderedAfter rank gate held [] := by
  intro done row rest h
  simp at h

theorem append (hbody : OrderedAfter rank gate held body)
    (hmore : OrderedAfter rank gate (held ++ body) more) :
    OrderedAfter rank gate held (body ++ more) := by
  intro done row rest h
  -- The row is one of `body`, or one of `more` after all of `body`.
  rcases List.append_eq_append_iff.mp h with ⟨between, rfl, hrest⟩ | ⟨between, rfl, hrest⟩
  · have := hmore between row rest hrest
    rwa [List.append_assoc] at this
  cases between with
  | nil =>
    have := hmore [] row rest hrest.symm
    simpa only [List.append_nil] using this
  | cons first between =>
    obtain ⟨rfl, -⟩ := List.cons_eq_cons.mp hrest
    exact hbody done row between rfl

theorem of_subset (h : ∀ row ∈ body, row ∈ held) : OrderedAfter rank gate held body := by
  rintro done row rest rfl
  exact .inl (List.mem_append_left _ (h row (by simp)))

/-- Rows above the held ones, in order. -/
theorem of_pairwise (habove : ∀ earlier ∈ held, ∀ row ∈ body, rank earlier < rank row)
    (hbody : body.Pairwise fun first second => rank first < rank second) :
    OrderedAfter rank gate held body := by
  rintro done row rest rfl
  refine .inr fun earlier hearlier => .inl ?_
  rcases List.mem_append.mp hearlier with hearlier | hearlier
  · exact habove earlier hearlier row (by simp)
  · exact (List.pairwise_append.mp hbody).2.2 earlier hearlier row (by simp)

/-- Rows not below the held ones nor each other, in any sequence under the gate. -/
theorem of_gate {lock : ρ} (hgate : gate = some lock) (hlock : lock ∈ held)
    (habove : ∀ earlier ∈ held, ∀ row ∈ body, rank earlier < rank row ∨ rank earlier = rank row)
    (hbody : ∀ first ∈ body, ∀ second ∈ body, rank first = rank second) :
    OrderedAfter rank gate held body := by
  rintro done row rest rfl
  have hheld : ∃ lock ∈ gate, lock ∈ held ++ done := ⟨lock, hgate, List.mem_append_left _ hlock⟩
  refine .inr fun earlier hearlier => ?_
  rcases List.mem_append.mp hearlier with hearlier | hearlier
  · exact (habove earlier hearlier row (by simp)).imp_right fun heq => ⟨heq, hheld⟩
  · exact .inr ⟨hbody earlier (List.mem_append_left _ hearlier) row (by simp), hheld⟩

end OrderedAfter

namespace LockState

variable [DecidableEq ι]

section Steps

variable [DecidableEq ρ]

/-- Another transaction holds the row. -/
def heldByOther (s : LockState ι ρ) (id : ι) (row : ρ) : Bool :=
  s.entries.any fun entry => decide (entry.1 ≠ id) && decide (row ∈ entry.2.held)

def step (s : LockState ι ρ) : LockEvent ι ρ → Option (LockState ι ρ)
  | .start id body =>
    match s.lookup id with
    | none => some (s.insert id ⟨[], body⟩)
    | some _ => none
  | .lock id =>
    match s.lookup id with
    | some ⟨held, row :: body⟩ =>
      if heldByOther s id row then none else some (s.insert id ⟨row :: held, body⟩)
    | some ⟨_, []⟩ | none => none
  | .finish id =>
    match s.lookup id with
    | some _ => some (s.erase id)
    | none => none

/-- The states that can be reached while only transactions with `P` are started. -/
def Reachable (P : List ρ → Prop) (s : LockState ι ρ) : Prop :=
  ∃ events, RunWhere step (fun _ event => event.StartsOnly P) ∅ events s

end Steps

/-- The next row of `waiter` is held by `holder`. -/
def Waits (s : LockState ι ρ) (waiter holder : ι) : Prop :=
  ∃ held row body other, s.lookup waiter = some ⟨held, row :: body⟩ ∧ holder ≠ waiter ∧
    s.lookup holder = some other ∧ row ∈ other.held

/-- Some transaction waits, over others, for itself. -/
def CyclicWait (s : LockState ι ρ) : Prop :=
  ∃ id, Relation.TransGen s.Waits id id

/-! ## Exclusive locks -/

theorem heldByOther_eq_false_iff [DecidableEq ρ] {s : LockState ι ρ} {id : ι} {row : ρ} :
    heldByOther s id row = false ↔
      ∀ other transaction, s.lookup other = some transaction → row ∈ transaction.held →
        other = id := by
  rw [heldByOther, List.any_eq_false]
  constructor
  · intro hnone other transaction hlookup hheld
    by_contra hne
    exact hnone ⟨other, transaction⟩ (AList.mem_lookup_iff.mp hlookup) (by simp [hne, hheld])
  · intro hall entry hentry
    have hlookup : s.lookup entry.1 = some entry.2 := AList.mem_lookup_iff.mpr hentry
    have := hall entry.1 entry.2 hlookup
    simp only [Bool.and_eq_true, decide_eq_true_eq, not_and]
    exact fun hne hheld => hne (this hheld)

theorem step_cases [DecidableEq ρ] {s t : LockState ι ρ} {event : LockEvent ι ρ}
    (hstep : step s event = some t) :
    (∃ id body, event = .start id body ∧ s.lookup id = none ∧ t = s.insert id ⟨[], body⟩) ∨
    (∃ id held row body, event = .lock id ∧ s.lookup id = some ⟨held, row :: body⟩ ∧
      heldByOther s id row = false ∧ t = s.insert id ⟨row :: held, body⟩) ∨
    ∃ id, event = .finish id ∧ t = s.erase id := by
  cases event with
  | start id body =>
    simp only [step] at hstep
    split at hstep
    · rename_i hnone
      exact .inl ⟨id, body, rfl, hnone, (Option.some.inj hstep).symm⟩
    · cases hstep
  | lock id =>
    simp only [step] at hstep
    split at hstep
    · rename_i held row body hlookup
      split at hstep
      · cases hstep
      · rename_i hfree
        exact .inr (.inl ⟨id, held, row, body, rfl, hlookup, Bool.not_eq_true _ ▸ hfree,
          (Option.some.inj hstep).symm⟩)
    · cases hstep
    · cases hstep
  | finish id =>
    simp only [step] at hstep
    split at hstep
    · exact .inr (.inr ⟨id, rfl, (Option.some.inj hstep).symm⟩)
    · cases hstep

/-- No two transactions hold one row, and every transaction is part of a way through its
body that was allowed. -/
structure Disciplined (P : List ρ → Prop) (s : LockState ι ρ) : Prop where
  exclusive : ∀ first second one two row, s.lookup first = some one →
    s.lookup second = some two → row ∈ one.held → row ∈ two.held → first = second
  allowed : ∀ id transaction, s.lookup id = some transaction →
    P (transaction.held.reverse ++ transaction.body)

variable {P : List ρ → Prop} {s t : LockState ι ρ}

theorem disciplined_empty : Disciplined P (∅ : LockState ι ρ) where
  exclusive := by
    intro first second one two row hone
    simp at hone
  allowed := by
    intro id transaction hlookup
    simp at hlookup

theorem Disciplined.start (h : Disciplined P s) {id : ι} {body : List ρ} (hbody : P body) :
    Disciplined P (s.insert id ⟨[], body⟩) where
  exclusive := by
    intro first second one two row hone htwo hrow hrow'
    obtain ⟨_, rfl⟩ | ⟨_, hone⟩ := lookup_insert_cases hone
    · cases hrow
    obtain ⟨_, rfl⟩ | ⟨_, htwo⟩ := lookup_insert_cases htwo
    · cases hrow'
    exact h.exclusive first second one two row hone htwo hrow hrow'
  allowed := forall_insert h.allowed hbody

theorem Disciplined.lock [DecidableEq ρ] (h : Disciplined P s) {id : ι} {held : List ρ} {row : ρ}
    {body : List ρ}
    (hlookup : s.lookup id = some ⟨held, row :: body⟩)
    (hfree : heldByOther s id row = false) :
    Disciplined P (s.insert id ⟨row :: held, body⟩) where
  exclusive := by
    rw [heldByOther_eq_false_iff] at hfree
    -- A row that `id` shares with another transaction is the new one, and that is free.
    have shared : ∀ other two row', other ≠ id → s.lookup other = some two →
        row' ∈ row :: held → row' ∉ two.held := by
      intro other two row' hne htwo hrow hrow'
      rcases List.mem_cons.mp hrow with rfl | hrow
      · exact hne (hfree other two htwo hrow')
      · exact hne (h.exclusive other id two _ row' htwo hlookup hrow' hrow)
    intro first second one two row' hone htwo hrow hrow'
    obtain ⟨hfirst, rfl⟩ | ⟨hfirst, hbefore⟩ := lookup_insert_cases hone
    · obtain ⟨hsecond, _⟩ | ⟨hsecond, hbefore⟩ := lookup_insert_cases htwo
      · exact hfirst.trans hsecond.symm
      · exact absurd hrow' (shared second two row' hsecond hbefore hrow)
    · obtain ⟨_, rfl⟩ | ⟨_, hbefore'⟩ := lookup_insert_cases htwo
      · exact absurd hrow (shared first one row' hfirst hbefore hrow')
      · exact h.exclusive first second one two row' hbefore hbefore' hrow hrow'
  allowed := forall_insert h.allowed (by simpa using h.allowed id _ hlookup)

theorem Disciplined.finish (h : Disciplined P s) (id : ι) : Disciplined P (s.erase id) := by
  have kept : ∀ other transaction, (s.erase id).lookup other = some transaction →
      s.lookup other = some transaction := by
    intro other transaction hlookup
    by_cases hother : other = id
    · subst other
      rw [AList.lookup_erase] at hlookup
      cases hlookup
    · rwa [AList.lookup_erase_ne hother] at hlookup
  exact {
    exclusive := fun first second one two row hone htwo =>
      h.exclusive first second one two row (kept first one hone) (kept second two htwo)
    allowed := fun other transaction hlookup =>
      h.allowed other transaction (kept other transaction hlookup) }

theorem step_disciplined [DecidableEq ρ] {event : LockEvent ι ρ} (h : Disciplined P s)
    (hstarts : event.StartsOnly P) (hstep : step s event = some t) : Disciplined P t := by
  obtain ⟨id, body, rfl, _, rfl⟩ | ⟨id, held, row, body, rfl, hlookup, hfree, rfl⟩ |
    ⟨id, rfl, rfl⟩ := step_cases hstep
  · exact h.start hstarts
  · exact h.lock hlookup hfree
  · exact h.finish id

theorem Reachable.mono [DecidableEq ρ] {Q : List ρ → Prop} (h : Reachable P s)
    (himp : ∀ body, P body → Q body) : Reachable Q s := by
  obtain ⟨events, hrun⟩ := h
  refine ⟨events, hrun.mono fun _ event hgood => ?_⟩
  cases event with
  | start id body => exact himp body hgood
  | lock | finish => trivial

theorem Reachable.disciplined [DecidableEq ρ] (h : Reachable P s) : Disciplined P s := by
  obtain ⟨events, hrun⟩ := h
  exact hrun.invariant (fun _ _ _ hs hgood hstep => step_disciplined hs hgood hstep)
    disciplined_empty

/-! ## No cycle -/

section Rank

variable {α : Type w} {rank : ρ → α} {gate : Option ρ}

/-- The rank of the row that a transaction asks for next. -/
def Asks (rank : ρ → α) (s : LockState ι ρ) (id : ι) (level : α) : Prop :=
  ∃ held row body, s.lookup id = some ⟨held, row :: body⟩ ∧ rank row = level

/-- The transaction holds the gate. -/
def HoldsGate (gate : Option ρ) (s : LockState ι ρ) (id : ι) : Prop :=
  ∃ transaction, s.lookup id = some transaction ∧ ∃ lock ∈ gate, lock ∈ transaction.held

theorem Asks.unique {id : ι} {level other : α} (h : Asks rank s id level)
    (h' : Asks rank s id other) : level = other := by
  obtain ⟨held, row, body, hlookup, rfl⟩ := h
  obtain ⟨held', row', body', hlookup', rfl⟩ := h'
  rw [hlookup] at hlookup'
  cases hlookup'
  rfl

theorem Waits.asks {waiter holder : ι} (h : s.Waits waiter holder) (rank : ρ → α) :
    ∃ level, Asks rank s waiter level := by
  obtain ⟨held, row, body, other, hlookup, _⟩ := h
  exact ⟨rank row, held, row, body, hlookup, rfl⟩

variable [LinearOrder α]

/-- The holder of a row asks, if it asks at all, for a row further up; at the same height
only if it holds the gate. -/
theorem Waits.climbs (hs : Disciplined (Ordered rank gate) s) {waiter holder : ι}
    (h : s.Waits waiter holder) {level top : α} (hwaiter : Asks rank s waiter level)
    (hholder : Asks rank s holder top) (hnext : ∃ next, s.Waits holder next) :
    level < top ∨ level = top ∧ HoldsGate gate s holder := by
  obtain ⟨held, row, body, other, hlookup, hne, hother, hrow⟩ := h
  obtain rfl : level = rank row := hwaiter.unique ⟨held, row, body, hlookup, rfl⟩
  obtain ⟨held', row', body', hlookup', rfl⟩ := hholder
  rw [hlookup'] at hother
  cases hother
  have hordered := hs.allowed holder _ hlookup' held'.reverse row' body' rfl
  -- The holder waits for its next row, so it does not hold that row already.
  have hfresh : row' ∉ held' := by
    intro hheld
    obtain ⟨next, held₂, row₂, body₂, third, hlookup₂, hne₂, hthird, hrow₂⟩ := hnext
    rw [hlookup'] at hlookup₂
    cases hlookup₂
    exact hne₂ (hs.exclusive next holder third _ row' hthird hlookup' hrow₂ hheld)
  rcases hordered with hheld | habove
  · exact absurd (List.mem_reverse.mp hheld) hfresh
  · rcases habove row (List.mem_reverse.mpr hrow) with hlt | ⟨heq, lock, hgate, hlock⟩
    · exact .inl hlt
    · exact .inr ⟨heq, _, hlookup', lock, hgate, List.mem_reverse.mp hlock⟩

/-- Along a chain of waits the rows asked for only go up, and stay at one height only if
the last transaction holds the gate. -/
theorem chain_climbs (hs : Disciplined (Ordered rank gate) s) {first last : ι}
    (hchain : Relation.TransGen s.Waits first last) {level top : α}
    (hfirst : Asks rank s first level) (hlast : Asks rank s last top)
    (hnext : ∃ next, s.Waits last next) :
    level < top ∨ level = top ∧ HoldsGate gate s last := by
  induction hchain generalizing top with
  | single hwait => exact hwait.climbs hs hfirst hlast hnext
  | tail hchain hwait ih =>
    obtain ⟨middle, hmiddle⟩ := hwait.asks rank
    have hstep := hwait.climbs hs hmiddle hlast hnext
    rcases ih hmiddle ⟨_, hwait⟩ with hlt | ⟨rfl, _⟩
    · rcases hstep with hlt' | ⟨rfl, _⟩
      · exact .inl (hlt.trans hlt')
      · exact .inl hlt
    · exact hstep

/-- **Transactions that respect one order never wait for each other in a cycle.** -/
theorem not_cyclicWait_of_ordered [DecidableEq ρ] (h : Reachable (Ordered rank gate) s) :
    ¬ s.CyclicWait := by
  have hs := h.disciplined
  rintro ⟨id, hcycle⟩
  -- The cycle goes from `id` to another transaction and from there back.
  obtain ⟨next, hwait, hback⟩ := Relation.TransGen.head'_iff.mp hcycle
  have hne : next ≠ id := by
    obtain ⟨_, _, _, _, _, hne, _⟩ := hwait
    exact hne
  have hreturn : Relation.TransGen s.Waits next id := by
    rcases Relation.reflTransGen_iff_eq_or_transGen.mp hback with rfl | hreturn
    · exact absurd rfl hne
    · exact hreturn
  obtain ⟨after, hafter, _⟩ := Relation.TransGen.head'_iff.mp hreturn
  obtain ⟨level, hlevel⟩ := hwait.asks rank
  obtain ⟨top, htop⟩ := hafter.asks rank
  have hup := hwait.climbs hs hlevel htop ⟨after, hafter⟩
  have hdown := chain_climbs hs hreturn htop hlevel ⟨next, hwait⟩
  -- Both go up, so both stay, and then two transactions hold the gate.
  rcases hup with hlt | ⟨rfl, one, hone, lock, hgate, hlock⟩
  · rcases hdown with hlt' | ⟨heq, _⟩
    · exact lt_asymm hlt hlt'
    · exact hlt.ne heq.symm
  · rcases hdown with hlt' | ⟨_, two, htwo, lock', hgate', hlock'⟩
    · exact lt_irrefl _ hlt'
    · obtain rfl : lock = lock' := Option.some.inj (hgate.symm.trans hgate')
      exact hne (hs.exclusive next id one two lock hone htwo hlock hlock')

end Rank

/-! ## Reaching a cycle -/

/-- Whether the next row of `waiter` is held by `holder`. -/
def waits [DecidableEq ρ] (s : LockState ι ρ) (waiter holder : ι) : Bool :=
  match s.lookup waiter, s.lookup holder with
  | some ⟨_, row :: _⟩, some other => decide (holder ≠ waiter) && decide (row ∈ other.held)
  | _, _ => false

theorem waits_of_waits_eq_true [DecidableEq ρ] {waiter holder : ι}
    (h : waits s waiter holder = true) :
    s.Waits waiter holder := by
  unfold waits at h
  split at h
  · rename_i held row body other hwaiter hholder
    rw [Bool.and_eq_true, decide_eq_true_eq, decide_eq_true_eq] at h
    exact ⟨held, row, body, other, hwaiter, h.1, hholder, h.2⟩
  · cases h

theorem cyclicWait_of_waits [DecidableEq ρ] {first second : ι} (h : waits s first second = true)
    (h' : waits s second first = true) : s.CyclicWait :=
  ⟨first, .tail (.single (waits_of_waits_eq_true h)) (waits_of_waits_eq_true h')⟩

end LockState

end ControlPlane.Math
