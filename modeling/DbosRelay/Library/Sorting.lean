import Mathlib.Data.List.Sort

/-!
# Sorting by a key

An order given as a program compares is that of a key in a linear order.  A list
sorted by it is sorted by the key, and the part of it which is kept comes before
the part which is cut off.
-/

namespace DbosRelay.Library.Sorting

variable {α Key : Type*}

/-- A list sorted by an order which is a key's is sorted by the key. -/
theorem pairwise_insertionSort_key [LinearOrder Key] {key : α → Key}
    {notAfter : α → α → Prop} [DecidableRel notAfter]
    (ordered : ∀ first second,
      notAfter first second ↔ key first ≤ key second) (items : List α) :
    (items.insertionSort notAfter).Pairwise
      fun first second => key first ≤ key second := by
  have total : Std.Total notAfter := by
    constructor
    intro first second
    rw [ordered, ordered]
    exact le_total _ _
  have transitive : IsTrans α notAfter := by
    constructor
    intro first second third
    rw [ordered, ordered, ordered]
    exact le_trans
  apply (List.pairwise_insertionSort notAfter items).imp
  intro first second
  exact (ordered first second).mp

/-- What is kept of a sorted list comes before what is not. -/
theorem rel_of_mem_take_of_not_mem {rel : α → α → Prop} {items : List α}
    {count : Nat} {kept cut : α} (sorted : items.Pairwise rel)
    (isKept : kept ∈ items.take count) (member : cut ∈ items)
    (isCut : cut ∉ items.take count) : rel kept cut := by
  rw [← List.take_append_drop count items, List.pairwise_append] at sorted
  rw [← List.take_append_drop count items, List.mem_append] at member
  exact sorted.2.2 kept isKept cut (member.resolve_left isCut)

/--
If the items of a kind come first, one of another kind is among the first `count`
when there is one and there are fewer than `count` of the kind.
-/
theorem exists_mem_take_iff {kind : α → Prop} [DecidablePred kind]
    {items : List α}
    (first : items.Pairwise fun before after => kind after → kind before)
    (count : Nat) :
    (∃ item ∈ items.take count, ¬kind item) ↔
      items.countP kind < count ∧ ∃ item ∈ items, ¬kind item := by
  induction items generalizing count with
  | nil => simp
  | cons item items induction =>
      rw [List.pairwise_cons] at first
      cases count with
      | zero => simp
      | succ count =>
          rw [List.take_succ_cons]
          by_cases isKind : kind item
          · rw [List.countP_cons_of_pos (by simpa using isKind)]
            simp only [List.exists_mem_cons_iff, isKind, not_true_eq_false,
              false_or, induction first.2, Nat.add_lt_add_iff_right]
          · have none : items.countP kind = 0 := by
              rw [List.countP_eq_zero]
              intro later member
              simpa using fun isLater => isKind (first.1 later member isLater)
            rw [List.countP_cons_of_neg (by simpa using isKind), none]
            simp [isKind]

end DbosRelay.Library.Sorting
