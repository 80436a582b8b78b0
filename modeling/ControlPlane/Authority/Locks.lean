/-
# Row locks of the route authority

The functions that decide over routes are PL/pgSQL: each locks the rows it reads, and
keeps the locks until its transaction ends. Which rows a statement locks depends on the
arguments of the call and on what the function has read, so a function is given here by
the statements on its paths, in the order in which the source executes them, and a call
by what its statements name.

Seven kinds of rows are kept: the protocol state, operations, the lease of the shared
runtime, route leases, effect runs, driver receipts, and publications, of which there
are three tables. The locks of foreign keys are left out: they fall on rows that the
transaction has locked or inserted.
-/

import ControlPlane.Domain.Basic
import ControlPlane.Math.Locks
import Mathlib.Data.Prod.Lex

namespace ControlPlane.Authority

open Domain Math

/-! ## Rows -/

inductive Row
  | protocolState
  | operation (id : Uuid)
  | fleetLease
  | routeLease (workshop : Uuid)
  | effectRun (id : Uuid)
  | receipt (id : Uuid)
  | routeSetPublication (id : Uuid)
  | startupPublication (run : Uuid)
  | releasePublication (driverOperation : Uuid)
  deriving DecidableEq

/-- The tables of the rows. -/
inductive RowKind
  | protocolState
  | operation
  | fleetLease
  | routeLease
  | effectRun
  | receipt
  | routeSetPublication
  | startupPublication
  | releasePublication
  deriving DecidableEq

def Row.kind : Row → RowKind
  | .protocolState => .protocolState
  | .operation _ => .operation
  | .fleetLease => .fleetLease
  | .routeLease _ => .routeLease
  | .effectRun _ => .effectRun
  | .receipt _ => .receipt
  | .routeSetPublication _ => .routeSetPublication
  | .startupPublication _ => .startupPublication
  | .releasePublication _ => .releasePublication

/-- The place of a row in its table. -/
def Row.key : Row → Nat
  | .protocolState | .fleetLease => 0
  | .operation id | .effectRun id | .receipt id | .routeSetPublication id => id.toNat
  | .routeLease workshop => workshop.toNat
  | .startupPublication run => run.toNat
  | .releasePublication driverOperation => driverOperation.toNat

/-- An order of the rows: the tables by level, and the rows of a keyed table by key. Rows
that it does not separate are locked under the lease of the shared runtime, if the order
is gated, and not at all otherwise. -/
structure LockOrder where
  level : RowKind → Nat
  keyed : RowKind → Bool
  gated : Bool

namespace LockOrder

variable (order : LockOrder)

def rank (row : Row) : Nat ×ₗ Nat :=
  toLex (order.level row.kind, if order.keyed row.kind then row.key else 0)

def gate : Option Row := if order.gated then some .fleetLease else none

/-- The order of the tables, with the rows of each in the order of their keys. -/
def byTable : LockOrder where
  level
    | .protocolState => 0
    | .operation => 1
    | .fleetLease => 2
    | .routeLease => 3
    | .effectRun => 4
    | .receipt => 5
    | .routeSetPublication => 6
    | .startupPublication => 7
    | .releasePublication => 8
  keyed _ := true
  gated := false

/-- The order that is left when the lease of the shared runtime is a gate: route leases,
effect runs and staged publications are not separated, nor are receipts. -/
def underFleetLease : LockOrder where
  level
    | .protocolState => 0
    | .operation => 1
    | .fleetLease => 2
    | .routeLease | .effectRun | .startupPublication => 3
    | .receipt => 4
    | .routeSetPublication => 5
    | .releasePublication => 6
  keyed
    | .routeLease | .effectRun | .startupPublication | .receipt => false
    | .protocolState | .operation | .fleetLease | .routeSetPublication | .releasePublication =>
      true
  gated := true

end LockOrder

/-! ## Statements -/

/-- What a statement of a function names: an argument of the call, or a column that the
function has read. -/
inductive Key
  | operation
  | reconciliationOperation
  | workshop
  | effectRun
  | newEffectRun
  | driverOperation
  | publication
  deriving DecidableEq

/-- The keys of the rows that a query with `order by` finds. -/
structure OrderedKeys where
  keys : List Uuid
  ordered : keys.Pairwise fun first second => first.toNat < second.toNat

/-- A call: what its keys stand for, the rows that its queries over several rows find,
and the rows that exist. The protocol state and the lease of the shared runtime are
single rows that the migrations insert. -/
structure Call where
  value : Key → Uuid
  routes : OrderedKeys
  receipts : List Uuid
  found : Row → Bool
  protocolState_found : found .protocolState = true
  fleetLease_found : found .fleetLease = true

/-- A statement that locks rows: `select … for update`, or an update. -/
inductive Statement
  | protocolState
  | operation (key : Key)
  /-- Two operations, `order by id`. -/
  | operations (first second : Key)
  | fleetLease
  | routeLease (key : Key)
  /-- The leases that a query finds, `order by workshop_id`. -/
  | routeLeases
  /-- An update of one of the leases that `routeLeases` has locked. -/
  | routeLeaseOf (key : Key)
  | effectRun (key : Key)
  | receipt (key : Key)
  /-- An update of all receipts that a subquery names; it has no order. -/
  | receipts
  | routeSetPublication
  | startupPublication
  | releasePublication
  deriving DecidableEq

/-- The rows a statement locks, in the order of the locks. -/
def Statement.rows (call : Call) : Statement → List Row
  | .protocolState => [.protocolState]
  | .operation key => [.operation (call.value key)]
  | .operations first second =>
    let (one, two) := (call.value first, call.value second)
    if one.toNat < two.toNat then [.operation one, .operation two]
    else if two.toNat < one.toNat then [.operation two, .operation one]
    else [.operation one]
  | .fleetLease => [.fleetLease]
  | .routeLease key => [.routeLease (call.value key)]
  | .routeLeases => call.routes.keys.map .routeLease
  | .routeLeaseOf key =>
    if call.value key ∈ call.routes.keys then [.routeLease (call.value key)] else []
  | .effectRun key => [.effectRun (call.value key)]
  | .receipt key => [.receipt (call.value key)]
  | .receipts => call.receipts.map .receipt
  | .routeSetPublication => [.routeSetPublication (call.value .publication)]
  | .startupPublication => [.startupPublication (call.value .effectRun)]
  | .releasePublication => [.releasePublication (call.value .driverOperation)]

/-- The statements on one way through a function that lock rows. A function may return
after any of them. -/
abbrev Path := List Statement

/-- The rows a call locks on a path. A statement that finds no row locks none. -/
def Path.rows (call : Call) (path : Path) : List Row :=
  (path.flatMap (Statement.rows call)).filter call.found

/-! ## Paths that keep an order -/

def Statement.kind : Statement → RowKind
  | .protocolState => .protocolState
  | .operation _ | .operations _ _ => .operation
  | .fleetLease => .fleetLease
  | .routeLease _ | .routeLeases | .routeLeaseOf _ => .routeLease
  | .effectRun _ => .effectRun
  | .receipt _ | .receipts => .receipt
  | .routeSetPublication => .routeSetPublication
  | .startupPublication => .startupPublication
  | .releasePublication => .releasePublication

/-- The statement locks several rows. -/
def Statement.several : Statement → Bool
  | .operations _ _ | .routeLeases | .receipts => true
  | _ => false

/-- The rows of the statement are sorted by key. -/
def Statement.sorted : Statement → Bool
  | .receipts => false
  | _ => true

/-- The statement locks no row that is not locked already. -/
def Statement.again (statement : Statement) (earlier : List Statement) : Bool :=
  decide (statement ∈ earlier) ||
    match statement with
    | .routeLeaseOf _ => decide (.routeLeases ∈ earlier)
    | _ => false

namespace LockOrder

variable (order : LockOrder)

/-- After the statements `earlier`, the statement locks rows further up, in the order of
their keys. -/
def climbs (statement : Statement) (earlier : List Statement) : Bool :=
  (earlier.all fun before => decide (order.level before.kind < order.level statement.kind)) &&
    (!statement.several || statement.sorted && order.keyed statement.kind)

/-- After the statements `earlier`, of which one has locked the gate, the statement locks
rows that are not further down. -/
def passes (statement : Statement) (earlier : List Statement) : Bool :=
  order.gated && decide (.fleetLease ∈ earlier) && !order.keyed statement.kind &&
    earlier.all fun before =>
      decide (order.level before.kind < order.level statement.kind) ||
        decide (order.level before.kind = order.level statement.kind) && !order.keyed before.kind

def keptAfter (earlier : List Statement) : Path → Bool
  | [] => true
  | statement :: rest =>
    (statement.again earlier || order.climbs statement earlier ||
      order.passes statement earlier) && keptAfter (earlier ++ [statement]) rest

/-- The path keeps the order. -/
def kept (path : Path) : Bool := order.keptAfter [] path

end LockOrder

variable {call : Call} {statement : Statement}

theorem Statement.kind_of_mem_rows {row : Row} (h : row ∈ statement.rows call) :
    row.kind = statement.kind := by
  cases statement with
  | operations first second =>
    simp only [Statement.rows] at h
    split at h
    · simp only [List.mem_cons, List.not_mem_nil, or_false] at h
      rcases h with rfl | rfl <;> rfl
    · split at h
      · simp only [List.mem_cons, List.not_mem_nil, or_false] at h
        rcases h with rfl | rfl <;> rfl
      · rw [List.mem_singleton.mp h]
        rfl
  | routeLeases =>
    obtain ⟨workshop, _, rfl⟩ := List.mem_map.mp h
    rfl
  | routeLeaseOf key =>
    simp only [Statement.rows] at h
    split at h
    · rw [List.mem_singleton.mp h]
      rfl
    · cases h
  | receipts =>
    obtain ⟨id, _, rfl⟩ := List.mem_map.mp h
    rfl
  | protocolState | operation | fleetLease | routeLease | effectRun | receipt
  | routeSetPublication | startupPublication | releasePublication =>
    rw [List.mem_singleton.mp h]
    rfl

theorem Statement.pairwise_key_rows (h : statement.sorted = true) :
    (statement.rows call).Pairwise fun first second => first.key < second.key := by
  cases statement with
  | operations first second =>
    simp only [Statement.rows]
    split
    · rename_i hlt
      exact List.pairwise_pair.mpr hlt
    · split
      · rename_i hlt
        exact List.pairwise_pair.mpr hlt
      · exact List.pairwise_singleton _ _
  | routeLeases => exact List.pairwise_map.mpr call.routes.ordered
  | routeLeaseOf key =>
    simp only [Statement.rows]
    split
    · exact List.pairwise_singleton _ _
    · exact List.Pairwise.nil
  | receipts => cases h
  | protocolState | operation | fleetLease | routeLease | effectRun | receipt
  | routeSetPublication | startupPublication | releasePublication =>
    exact List.pairwise_singleton _ _

theorem Statement.length_rows_le_one (call : Call) (h : statement.several = false) :
    (statement.rows call).length ≤ 1 := by
  cases statement with
  | operations | routeLeases | receipts => cases h
  | routeLeaseOf key =>
    simp only [Statement.rows]
    split <;> simp
  | protocolState | operation | fleetLease | routeLease | effectRun | receipt
  | routeSetPublication | startupPublication | releasePublication => exact le_refl 1

section Soundness

variable {order : LockOrder} {call : Call} {earlier : List Statement} {statement : Statement}

variable {path : Path} {row : Row}

private theorem mem_rows_iff : row ∈ path.rows call ↔
      (∃ statement ∈ path, row ∈ statement.rows call) ∧ call.found row = true := by
  simp [Path.rows, List.mem_filter, List.mem_flatMap]

private theorem rows_append (path more : Path) :
    Path.rows call (path ++ more) = path.rows call ++ more.rows call := by
  simp [Path.rows]

private theorem rows_singleton (statement : Statement) :
    Path.rows call [statement] = (statement.rows call).filter call.found := by
  simp [Path.rows]

private theorem kind_of_mem_singleton (h : row ∈ Path.rows call [statement]) :
    row.kind = statement.kind := by
  rw [rows_singleton, List.mem_filter] at h
  exact Statement.kind_of_mem_rows h.1

private theorem exists_of_mem_rows (h : row ∈ Path.rows call earlier) :
    ∃ before ∈ earlier, row.kind = before.kind := by
  obtain ⟨⟨before, hbefore, hin⟩, _⟩ := mem_rows_iff.mp h
  exact ⟨before, hbefore, Statement.kind_of_mem_rows hin⟩

private theorem rank_lt_of_level_lt {first second : Row}
    (h : order.level first.kind < order.level second.kind) :
    order.rank first < order.rank second :=
  Prod.Lex.toLex_lt_toLex.mpr (.inl h)

private theorem orderedAfter_of_again (h : statement.again earlier = true) :
    OrderedAfter order.rank order.gate (Path.rows call earlier) (Path.rows call [statement]) := by
  refine OrderedAfter.of_subset fun row hrow => ?_
  rw [rows_singleton, List.mem_filter] at hrow
  obtain ⟨hin, hfound⟩ := hrow
  unfold Statement.again at h
  rw [Bool.or_eq_true] at h
  rcases h with hagain | hlocked
  · exact mem_rows_iff.mpr ⟨⟨statement, of_decide_eq_true hagain, hin⟩, hfound⟩
  split at hlocked
  swap
  · cases hlocked
  rename_i key
  refine mem_rows_iff.mpr ⟨⟨.routeLeases, of_decide_eq_true hlocked, ?_⟩, hfound⟩
  simp only [Statement.rows] at hin
  split at hin
  · rename_i hkey
    rw [List.mem_singleton.mp hin]
    exact List.mem_map_of_mem hkey
  · cases hin

private theorem orderedAfter_of_climbs (h : order.climbs statement earlier = true) :
    OrderedAfter order.rank order.gate (Path.rows call earlier) (Path.rows call [statement]) := by
  rw [LockOrder.climbs, Bool.and_eq_true, Bool.or_eq_true, Bool.not_eq_true', Bool.and_eq_true] at h
  obtain ⟨hall, hinside⟩ := h
  refine OrderedAfter.of_pairwise ?_ ?_
  · intro before hbefore row hrow
    obtain ⟨first, hfirst, hkind⟩ := exists_of_mem_rows hbefore
    refine rank_lt_of_level_lt ?_
    rw [hkind, kind_of_mem_singleton hrow]
    exact of_decide_eq_true (List.all_eq_true.mp hall first hfirst)
  · rw [rows_singleton]
    refine List.Pairwise.filter _ ?_
    rcases hinside with hone | ⟨hsorted, hkeyed⟩
    · match hrows : statement.rows call, Statement.length_rows_le_one call hone with
      | [], _ => exact List.Pairwise.nil
      | [row], _ => exact List.pairwise_singleton _ _
    · refine (Statement.pairwise_key_rows hsorted).imp_of_mem fun {first second} hfirst hsecond
        hlt => ?_
      refine Prod.Lex.toLex_lt_toLex.mpr (.inr ⟨?_, ?_⟩)
      · rw [Statement.kind_of_mem_rows hfirst, Statement.kind_of_mem_rows hsecond]
      · rw [Statement.kind_of_mem_rows hfirst, Statement.kind_of_mem_rows hsecond, if_pos hkeyed,
          if_pos hkeyed]
        exact hlt

private theorem orderedAfter_of_passes (h : order.passes statement earlier = true) :
    OrderedAfter order.rank order.gate (Path.rows call earlier) (Path.rows call [statement]) := by
  simp only [LockOrder.passes, Bool.and_eq_true, Bool.not_eq_true'] at h
  obtain ⟨⟨⟨hgated, hgate⟩, hkeyed⟩, hall⟩ := h
  -- The rows of one statement have one rank, since their table is not keyed.
  have hrank : ∀ row ∈ Path.rows call [statement],
      order.rank row = toLex (order.level statement.kind, 0) := by
    intro row hrow
    rw [LockOrder.rank, kind_of_mem_singleton hrow, hkeyed]
    rfl
  refine OrderedAfter.of_gate (if_pos hgated) ?_ ?_ ?_
  · exact mem_rows_iff.mpr ⟨⟨.fleetLease, of_decide_eq_true hgate, List.mem_singleton.mpr rfl⟩,
      call.fleetLease_found⟩
  · intro before hbefore row hrow
    obtain ⟨first, hfirst, hkind⟩ := exists_of_mem_rows hbefore
    have hlevel := List.all_eq_true.mp hall first hfirst
    rw [Bool.or_eq_true, Bool.and_eq_true, Bool.not_eq_true', decide_eq_true_eq,
      decide_eq_true_eq] at hlevel
    rcases hlevel with hlt | ⟨heq, hunkeyed⟩
    · refine .inl (rank_lt_of_level_lt ?_)
      rwa [hkind, kind_of_mem_singleton hrow]
    · refine .inr ?_
      rw [hrank row hrow, LockOrder.rank, hkind, hunkeyed, heq]
      rfl
  · intro first hfirst second hsecond
    rw [hrank first hfirst, hrank second hsecond]

private theorem orderedAfter_of_keptAfter (h : order.keptAfter earlier path = true) :
    OrderedAfter order.rank order.gate (Path.rows call earlier) (path.rows call) := by
  induction path generalizing earlier with
  | nil => exact OrderedAfter.nil
  | cons statement rest ih =>
    rw [LockOrder.keptAfter, Bool.and_eq_true, Bool.or_eq_true, Bool.or_eq_true] at h
    obtain ⟨hfirst, hrest⟩ := h
    have hone : OrderedAfter order.rank order.gate (Path.rows call earlier)
        (Path.rows call [statement]) := by
      rcases hfirst with (hagain | hclimbs) | hpasses
      · exact orderedAfter_of_again hagain
      · exact orderedAfter_of_climbs hclimbs
      · exact orderedAfter_of_passes hpasses
    have hmore := ih hrest
    rw [rows_append] at hmore
    have := hone.append hmore
    rwa [← rows_append] at this

/-- Every call locks its rows in order on a path that keeps the order. -/
theorem ordered_of_kept (h : order.kept path = true) (call : Call) :
    Ordered order.rank order.gate (path.rows call) :=
  orderedAfter_of_keptAfter h

end Soundness

end ControlPlane.Authority
