import Mathlib.Data.List.AList

/-!
# Finite tables

A table is a finite map whose entries carry distinct keys.  Mathlib's `AList`
is used for the carrier and for single-entry updates; this module adds the two
operations of a relational store which it lacks: updating every entry in place
and updating one entry when it is present.
-/

namespace DbosRelay.Library.Tables

variable {Key Value : Type*}

/-- Finite maps from keys to values. -/
abbrev Table (Key Value : Type*) :=
  AList fun _ : Key => Value

/-- Update every entry in place. -/
def mapValues (update : Key → Value → Value)
    (table : Table Key Value) : Table Key Value where
  entries :=
    table.entries.map fun entry => ⟨entry.1, update entry.1 entry.2⟩
  nodupKeys := by
    have sameKeys :
        (table.entries.map fun entry : (_ : Key) × Value =>
          (⟨entry.1, update entry.1 entry.2⟩ : (_ : Key) × Value)).keys =
          table.entries.keys := by
      simp [List.keys, Function.comp_def]
    rw [List.NodupKeys, sameKeys]
    exact table.nodupKeys

variable [DecidableEq Key]

/-- Update one entry when it is present. -/
def modify (table : Table Key Value) (key : Key)
    (update : Value → Value) : Table Key Value :=
  match table.lookup key with
  | none => table
  | some value => table.insert key (update value)

theorem lookup_insert_eq
    (table : Table Key Value) (key other : Key) (value : Value) :
    (table.insert key value).lookup other =
      if other = key then some value else table.lookup other := by
  split_ifs with same
  · subst other
    exact AList.lookup_insert table
  · exact AList.lookup_insert_ne same

/-- What is found after an insertion was inserted or has been there before. -/
theorem lookup_insert_cases
    {table after : Table Key Value} {key other : Key} {value found : Value}
    (inserted : after = table.insert key value)
    (present : after.lookup other = some found) :
    other = key ∧ found = value ∨
      other ≠ key ∧ table.lookup other = some found := by
  rw [inserted, lookup_insert_eq] at present
  split_ifs at present with same
  · cases present
    exact Or.inl ⟨same, rfl⟩
  · exact Or.inr ⟨same, present⟩

theorem lookup_erase_eq
    (table : Table Key Value) (key other : Key) :
    (table.erase key).lookup other =
      if other = key then none else table.lookup other := by
  split_ifs with same
  · subst other
    exact AList.lookup_erase key table
  · exact AList.lookup_erase_ne same

theorem lookup_modify_eq
    (table : Table Key Value) (key other : Key) (update : Value → Value) :
    (modify table key update).lookup other =
      if other = key then (table.lookup key).map update
      else table.lookup other := by
  unfold modify
  cases present : table.lookup key with
  | none =>
      split_ifs with same
      · subst other
        simp [present]
      · rfl
  | some value =>
      rw [lookup_insert_eq]
      rfl

/-- Membership among the entries is lookup. -/
theorem mem_entries_iff
    {table : Table Key Value} {key : Key} {value : Value} :
    (⟨key, value⟩ : (_ : Key) × Value) ∈ table.entries ↔
      table.lookup key = some value := by
  rw [← AList.mem_lookup_iff]
  exact Option.mem_def

@[simp]
theorem lookup_mapValues
    (update : Key → Value → Value) (table : Table Key Value) (key : Key) :
    (mapValues update table).lookup key =
      (table.lookup key).map (update key) := by
  cases present : table.lookup key with
  | none =>
      rw [Option.map_none]
      by_contra notNone
      obtain ⟨value, found⟩ := Option.ne_none_iff_exists'.mp notNone
      have member := mem_entries_iff.mpr found
      obtain ⟨⟨old, oldValue⟩, oldMember, same⟩ := List.mem_map.mp member
      obtain ⟨rfl, -⟩ := Sigma.mk.inj_iff.mp same
      rw [mem_entries_iff.mp oldMember] at present
      cases present
  | some value =>
      rw [Option.map_some]
      exact mem_entries_iff.mp
        (List.mem_map.mpr ⟨⟨key, value⟩, mem_entries_iff.mpr present, rfl⟩)

/-- Keep the entries whose values pass a test. -/
def keepValues (keeps : Value → Bool) (table : Table Key Value) :
    Table Key Value where
  entries := table.entries.filter fun entry => keeps entry.2
  nodupKeys := table.nodupKeys.sublist List.filter_sublist

@[simp]
theorem lookup_keepValues (keeps : Value → Bool) (table : Table Key Value)
    (key : Key) :
    (keepValues keeps table).lookup key = (table.lookup key).filter keeps := by
  ext value
  rw [Option.filter_eq_some_iff, ← mem_entries_iff, ← mem_entries_iff]
  exact List.mem_filter

/-- Keep the entries whose keys pass a test. -/
def keepKeys (keeps : Key → Bool) (table : Table Key Value) :
    Table Key Value where
  entries := table.entries.filter fun entry => keeps entry.1
  nodupKeys := table.nodupKeys.sublist List.filter_sublist

@[simp]
theorem lookup_keepKeys (keeps : Key → Bool) (table : Table Key Value)
    (key : Key) :
    (keepKeys keeps table).lookup key =
      if keeps key then table.lookup key else none := by
  ext value
  rw [Option.ite_none_right_eq_some, and_comm, ← mem_entries_iff,
    ← mem_entries_iff]
  exact List.mem_filter

section Pairs

variable {First Second : Type*} [DecidableEq First] [DecidableEq Second]

/-- The entries whose keys have the given first component. -/
def under (table : Table (First × Second) Value) (first : First) :
    Table Second Value :=
  table.entries.foldr
    (fun entry rest =>
      if entry.1.1 = first then rest.insert entry.1.2 entry.2 else rest) ∅

theorem lookup_under (table : Table (First × Second) Value) (first : First)
    (second : Second) :
    (under table first).lookup second = table.lookup (first, second) := by
  unfold under
  show _ = table.entries.dlookup (first, second)
  induction table.entries with
  | nil => rfl
  | cons entry rest induction =>
      obtain ⟨⟨one, other⟩, value⟩ := entry
      rw [List.foldr_cons]
      by_cases isFirst : one = first
      · subst isFirst
        rw [if_pos rfl, lookup_insert_eq]
        by_cases same : second = other
        · subst same
          rw [if_pos rfl, List.dlookup_cons_eq]
        · rw [if_neg same, induction, List.dlookup_cons_ne]
          simp [same]
      · rw [if_neg isFirst, induction, List.dlookup_cons_ne]
        simp [Ne.symm isFirst]

end Pairs

end DbosRelay.Library.Tables
