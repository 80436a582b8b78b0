/-
# Keyed tables and guarded updates

A table is a finite association list with distinct keys. The one operation that
matters for concurrent code is the guarded update: change the row under a key
when the row satisfies a condition, and report whether a row was changed. One
such statement is atomic, so every concurrent history is a sequence of them.
-/

import Mathlib.Data.List.AList

namespace ControlPlane.Math

universe u v

/-- A finite table of rows `ρ` under keys `κ`. -/
abbrev Table (κ : Type u) (ρ : Type v) := AList fun _ : κ => ρ

namespace Table

variable {κ : Type u} {ρ : Type v} [DecidableEq κ]

/-- Change the row under `key` when it satisfies `guard`. The flag says whether
a row was changed, which for a unique key is the affected-row count. -/
def update (table : Table κ ρ) (key : κ) (guard : ρ → Prop) [DecidablePred guard]
    (change : ρ → ρ) : Table κ ρ × Bool :=
  match table.lookup key with
  | none => (table, false)
  | some row =>
    if guard row then (table.insert key (change row), true) else (table, false)

variable {table : Table κ ρ} {key : κ} {row : ρ}

/-- A row of a table after an insert is the new one or an old one under another key. -/
theorem lookup_insert_cases {key other : κ} {row value : ρ}
    (h : (table.insert key row).lookup other = some value) :
    other = key ∧ value = row ∨ other ≠ key ∧ table.lookup other = some value := by
  by_cases hother : other = key
  · subst other
    rw [AList.lookup_insert] at h
    exact Or.inl ⟨rfl, (Option.some.inj h).symm⟩
  · rw [AList.lookup_insert_ne hother] at h
    exact Or.inr ⟨hother, h⟩

theorem lookup_insert_twice {key other : κ} {first row value : ρ}
    (h : ((table.insert key first).insert key row).lookup other = some value) :
    other = key ∧ value = row ∨ other ≠ key ∧ table.lookup other = some value := by
  rw [AList.insert_insert] at h
  exact lookup_insert_cases h

theorem forall_insert {p : κ → ρ → Prop}
    (h : ∀ other value, table.lookup other = some value → p other value) (hnew : p key row) :
    ∀ other value, (table.insert key row).lookup other = some value → p other value := by
  intro other value hvalue
  rcases lookup_insert_cases hvalue with ⟨rfl, rfl⟩ | ⟨-, hold⟩
  · exact hnew
  · exact h other value hold

theorem lookup_of_erase {key other : κ} {value : ρ}
    (h : (table.erase key).lookup other = some value) : table.lookup other = some value := by
  by_cases hother : other = key
  · subst hother
    rw [AList.lookup_erase] at h
    cases h
  · rwa [AList.lookup_erase_ne hother] at h

/-- The first row that satisfies `p`, with its key. -/
def find (table : Table κ ρ) (p : ρ → Bool) : Option (κ × ρ) :=
  (table.entries.find? fun entry => p entry.2).map fun entry => (entry.1, entry.2)

theorem lookup_of_find {p : ρ → Bool}
    (h : table.find p = some (key, row)) : table.lookup key = some row ∧ p row = true := by
  obtain ⟨entry, hentry, heq⟩ := Option.map_eq_some_iff.mp h
  cases heq
  have hsatisfies := List.find?_some hentry
  exact ⟨AList.mem_lookup_iff.mpr (List.mem_of_find?_eq_some hentry), hsatisfies⟩

theorem not_of_find_none {p : ρ → Bool}
    (h : table.find p = none) (hrow : table.lookup key = some row) : p row = false := by
  have hentries := List.find?_eq_none.mp (Option.map_eq_none_iff.mp h)
  exact Bool.eq_false_iff.mpr (hentries ⟨key, row⟩ (AList.mem_lookup_iff.mp hrow))

variable {guard : ρ → Prop} [DecidablePred guard] {change : ρ → ρ}

theorem update_of_guard (hrow : table.lookup key = some row) (hguard : guard row) :
    table.update key guard change = (table.insert key (change row), true) := by
  simp [update, hrow, hguard]

theorem update_of_not_guard (hrow : table.lookup key = some row)
    (hguard : ¬ guard row) : table.update key guard change = (table, false) := by
  simp [update, hrow, hguard]

theorem update_of_missing (hrow : table.lookup key = none) :
    table.update key guard change = (table, false) := by
  simp [update, hrow]

/-- A guarded update either does nothing or replaces one row that passed. -/
theorem update_cases (table : Table κ ρ) (key : κ) (guard : ρ → Prop) [DecidablePred guard]
    (change : ρ → ρ) :
    table.update key guard change = (table, false) ∨
      ∃ row, table.lookup key = some row ∧ guard row ∧
        table.update key guard change = (table.insert key (change row), true) := by
  cases hrow : table.lookup key with
  | none => exact Or.inl (update_of_missing hrow)
  | some row =>
    by_cases hguard : guard row
    · exact Or.inr ⟨row, rfl, hguard, update_of_guard hrow hguard⟩
    · exact Or.inl (update_of_not_guard hrow hguard)

theorem lookup_update_self : (table.update key guard change).1.lookup key =
      (table.lookup key).map fun row => if guard row then change row else row := by
  rcases update_cases table key guard change with h | ⟨row, hrow, hguard, h⟩
  · rw [h]
    cases hrow : table.lookup key with
    | none => rfl
    | some row =>
      by_cases hguard : guard row
      · simp [update_of_guard hrow hguard] at h
      · simp [hguard]
  · simp [h, hrow, hguard]

theorem lookup_update_of_ne {other : κ} (hne : other ≠ key) :
    (table.update key guard change).1.lookup other = table.lookup other := by
  rcases update_cases table key guard change with h | ⟨row, -, -, h⟩
  · rw [h]
  · rw [h]
    exact AList.lookup_insert_ne hne

/-! ## Replacing one row

A transaction that must change exactly one row goes on with the changed table and
gives up otherwise. -/

/-- The table after the row under `key` was changed, if there is one that passes. -/
def replace (table : Table κ ρ) (key : κ) (guard : ρ → Bool) (change : ρ → ρ) :
    Option (Table κ ρ) :=
  match table.lookup key with
  | some row => if guard row then some (table.insert key (change row)) else none
  | none => none

theorem replace_eq_some_iff {table changed : Table κ ρ} {guard : ρ → Bool}
    {change : ρ → ρ} :
    table.replace key guard change = some changed ↔
      ∃ row, table.lookup key = some row ∧ guard row = true ∧
        changed = table.insert key (change row) := by
  unfold replace
  cases hrow : table.lookup key with
  | none => simp
  | some row =>
    simp only [Option.some.injEq, exists_eq_left']
    by_cases hguard : guard row = true
    · rw [if_pos hguard, Option.some.injEq, and_iff_right hguard]
      exact eq_comm
    · simp [hguard]

/-- Change the row under `key`, if there is one. -/
def modify (table : Table κ ρ) (key : κ) (change : ρ → ρ) : Table κ ρ :=
  match table.lookup key with
  | some row => table.insert key (change row)
  | none => table

theorem modify_of_lookup {change : ρ → ρ}
    (h : table.lookup key = some row) :
    table.modify key change = table.insert key (change row) := by
  simp [modify, h]

theorem lookup_modify_of_ne {key other : κ} {change : ρ → ρ}
    (hne : other ≠ key) : (table.modify key change).lookup other = table.lookup other := by
  unfold modify
  cases table.lookup key with
  | none => rfl
  | some row => exact AList.lookup_insert_ne hne

theorem lookup_modify_self {change : ρ → ρ} :
    (table.modify key change).lookup key = (table.lookup key).map change := by
  cases hrow : table.lookup key with
  | none => simp [modify, hrow]
  | some row => rw [modify_of_lookup hrow, AList.lookup_insert, Option.map_some]

/-! ## Selecting from the rows -/

section Selecting

variable {β : Type*} {select : κ → ρ → Option β}

theorem mem_filterMap_entries {value : β} :
    value ∈ table.entries.filterMap (fun entry => select entry.1 entry.2) ↔
      ∃ key row, table.lookup key = some row ∧ select key row = some value := by
  rw [List.mem_filterMap]
  constructor
  · rintro ⟨⟨key, row⟩, hentry, hvalue⟩
    exact ⟨key, row, AList.mem_lookup_iff.mpr hentry, hvalue⟩
  · rintro ⟨key, row, hrow, hvalue⟩
    exact ⟨⟨key, row⟩, AList.mem_lookup_iff.mp hrow, hvalue⟩

omit [DecidableEq κ] in
/-- Values that remember the key they were selected under have distinct keys. -/
theorem nodup_filterMap_entries {keyOf : β → κ}
    (hkey : ∀ key row value, select key row = some value → keyOf value = key) :
    ((table.entries.filterMap fun entry => select entry.1 entry.2).map keyOf).Nodup := by
  have hdistinct : table.entries.Pairwise fun first second => first.1 ≠ second.1 :=
    List.pairwise_map.mp table.nodupKeys
  refine List.pairwise_map.mpr (hdistinct.filterMap _ ?_)
  intro first second hne value hvalue other hother heq
  exact hne ((hkey _ _ _ hvalue).symm.trans (heq.trans (hkey _ _ _ hother)))

theorem select_of_length_eq
    (h : (table.entries.filterMap fun entry => select entry.1 entry.2).length =
      table.entries.length) (hrow : table.lookup key = some row) :
    ∃ value, select key row = some value := by
  have hentry := AList.mem_lookup_iff.mp hrow
  have hall := List.filterMap_length_eq_length.mp h ⟨key, row⟩ hentry
  exact Option.isSome_iff_exists.mp hall

end Selecting

/-! ## Statements over all rows -/

/-- The rows that `change` keeps, under their keys. -/
def filterMap {ρ' : Type*} (table : Table κ ρ) (change : κ → ρ → Option ρ') : Table κ ρ' where
  entries := table.entries.filterMap fun entry =>
    (change entry.1 entry.2).map fun row => (⟨entry.1, row⟩ : Sigma fun _ : κ => ρ')
  nodupKeys := by
    have hkeys : ∀ key row value, (change key row).map (fun row =>
        (⟨key, row⟩ : Sigma fun _ : κ => ρ')) = some value → value.1 = key := by
      intro key row value hvalue
      obtain ⟨changed, -, rfl⟩ := Option.map_eq_some_iff.mp hvalue
      rfl
    exact nodup_filterMap_entries hkeys

theorem lookup_filterMap {ρ' : Type*} {change : κ → ρ → Option ρ'} :
    (table.filterMap change).lookup key = (table.lookup key).bind (change key) := by
  ext value
  rw [← Option.mem_def, AList.mem_lookup_iff, filterMap, List.mem_filterMap,
    Option.bind_eq_some_iff]
  constructor
  · rintro ⟨⟨other, row⟩, hentry, hvalue⟩
    obtain ⟨changed, hchanged, heq⟩ := Option.map_eq_some_iff.mp hvalue
    cases heq
    exact ⟨row, AList.mem_lookup_iff.mpr hentry, hchanged⟩
  · rintro ⟨row, hrow, hchanged⟩
    exact ⟨⟨key, row⟩, AList.mem_lookup_iff.mp hrow,
      Option.map_eq_some_iff.mpr ⟨value, hchanged, rfl⟩⟩

/-- Change every row. -/
def mapRows (table : Table κ ρ) (change : κ → ρ → ρ) : Table κ ρ :=
  table.filterMap fun key row => some (change key row)

theorem lookup_mapRows {change : κ → ρ → ρ} :
    (table.mapRows change).lookup key = (table.lookup key).map (change key) := by
  rw [mapRows, lookup_filterMap]
  cases table.lookup key <;> rfl

/-- Every row satisfies `p`. -/
def allRows (table : Table κ ρ) (p : κ → ρ → Bool) : Bool :=
  table.entries.all fun entry => p entry.1 entry.2

theorem allRows_iff {p : κ → ρ → Bool} :
    table.allRows p = true ↔ ∀ key row, table.lookup key = some row → p key row = true := by
  rw [allRows, List.all_eq_true]
  constructor
  · intro h key row hrow
    exact h ⟨key, row⟩ (AList.mem_lookup_iff.mp hrow)
  · rintro h ⟨key, row⟩ hentry
    exact h key row (AList.mem_lookup_iff.mpr hentry)

/-- Every row of the first table is in the second. -/
def Le (first second : Table κ ρ) : Prop :=
  ∀ key row, first.lookup key = some row → second.lookup key = some row

theorem le_insert (hnew : table.lookup key = none) (row : ρ) :
    Le table (table.insert key row) := by
  intro other value hvalue
  have hne : other ≠ key := by
    rintro rfl
    rw [hnew] at hvalue
    cases hvalue
  rw [AList.lookup_insert_ne hne]
  exact hvalue

end Table

end ControlPlane.Math
