import Mathlib.Algebra.GroupWithZero.Nat
import Mathlib.Algebra.Order.Group.Nat
import Mathlib.Data.List.Basic
import Mathlib.Data.List.Dedup
import Mathlib.Data.List.Nodup

/-!
# Counts by group

The result of a grouped count: one row for each key which occurs, with the
number of the items of that key.  What is summed over the rows of some keys is
the number of the items whose key is one of them.
-/

namespace DbosRelay.Library.Grouping

variable {Item Key : Type*} [DecidableEq Key]

/-- The rows are a grouped count of the items. -/
structure Grouped (key : Item → Key) (items : List Item)
    (rows : List (Key × Nat)) : Prop where
  distinct : (rows.map Prod.fst).Nodup
  complete : ∀ item ∈ items, key item ∈ rows.map Prod.fst
  counted : ∀ row ∈ rows, row.2 = items.countP fun item => key item = row.1

/-- Disjoint keys count apart. -/
theorem countP_mem_cons {key : Item → Key} {items : List Item} {first : Key}
    {others : List Key} (fresh : first ∉ others) :
    (items.countP fun item => key item ∈ first :: others) =
      (items.countP fun item => key item = first) +
        items.countP fun item => key item ∈ others := by
  induction items with
  | nil => rfl
  | cons item items induction =>
      rw [List.countP_cons, List.countP_cons, List.countP_cons, induction]
      by_cases isFirst : key item = first
      · simp [isFirst, fresh]
        omega
      · simp [isFirst]
        omega

/-- The counts of distinct keys add up to the count of all of them. -/
theorem sum_countP {key : Item → Key} {items : List Item} {keys : List Key}
    (distinct : keys.Nodup) :
    (keys.map fun one => items.countP fun item => key item = one).sum =
      items.countP fun item => key item ∈ keys := by
  induction keys with
  | nil => simp
  | cons first others induction =>
      rw [List.nodup_cons] at distinct
      rw [List.map_cons, List.sum_cons, induction distinct.2,
        countP_mem_cons distinct.1]

/-- The rows of some keys add up to the items of these keys. -/
theorem Grouped.sum_filter {key : Item → Key} {items : List Item}
    {rows : List (Key × Nat)} (grouped : Grouped key items rows)
    (chosen : Key → Bool) :
    ((rows.filter fun row => chosen row.1).map Prod.snd).sum =
      items.countP fun item => chosen (key item) := by
  have counts :
      (rows.filter fun row => chosen row.1).map Prod.snd =
        ((rows.filter fun row => chosen row.1).map Prod.fst).map
          fun one => items.countP fun item => key item = one := by
    rw [List.map_map]
    apply List.map_congr_left
    intro row member
    exact grouped.counted row (List.mem_of_mem_filter member)
  have distinct :
      ((rows.filter fun row => chosen row.1).map Prod.fst).Nodup :=
    grouped.distinct.sublist (List.filter_sublist.map Prod.fst)
  rw [counts, sum_countP distinct]
  apply List.countP_congr
  intro item member
  rw [decide_eq_true_eq]
  constructor
  · intro among
    obtain ⟨row, inRows, same⟩ := List.mem_map.mp among
    rw [← same]
    exact (List.mem_filter.mp inRows).2
  · intro isChosen
    obtain ⟨row, inRows, same⟩ := List.mem_map.mp (grouped.complete item member)
    refine List.mem_map.mpr ⟨row, List.mem_filter.mpr ⟨inRows, ?_⟩, same⟩
    rw [same]
    exact isChosen

/-- A grouped count, by the keys in the order of their last occurrences. -/
def countByKey (key : Item → Key) (items : List Item) : List (Key × Nat) :=
  (items.map key).dedup.map fun one =>
    (one, items.countP fun item => key item = one)

theorem grouped_countByKey (key : Item → Key) (items : List Item) :
    Grouped key items (countByKey key items) := by
  have keys : (countByKey key items).map Prod.fst = (items.map key).dedup := by
    rw [countByKey, List.map_map]
    exact List.map_id _
  refine ⟨?_, ?_, ?_⟩
  · rw [keys]
    exact List.nodup_dedup _
  · intro item member
    rw [keys, List.mem_dedup]
    exact List.mem_map_of_mem member
  · intro row member
    obtain ⟨one, -, rfl⟩ := List.mem_map.mp member
    rfl

end DbosRelay.Library.Grouping
