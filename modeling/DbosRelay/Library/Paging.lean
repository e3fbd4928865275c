import Mathlib.Algebra.Order.Group.Nat
import Mathlib.Data.List.Basic
import Mathlib.Data.List.Flatten

/-!
# Listing by pages

The pages of a listing, one after the other, are the listing, and the first page
which is not full is the last one with anything in it.
-/

namespace DbosRelay.Library.Paging

variable {Row : Type*} {size : Nat} {rows : List Row}

/-- A page of a listing; pages are numbered from zero. -/
def pageOf (size : Nat) (rows : List Row) (number : Nat) : List Row :=
  (rows.drop (number * size)).take size

/-- A page is full unless the listing ends in it or before it. -/
theorem length_pageOf_lt_iff {number : Nat} (positive : 0 < size) :
    (pageOf size rows number).length < size ↔
      rows.length < (number + 1) * size := by
  unfold pageOf
  rw [List.length_take, List.length_drop, Nat.add_mul, Nat.one_mul]
  omega

/-- The first pages are the first rows. -/
theorem flatMap_pageOf (count : Nat) :
    (List.range count).flatMap (pageOf size rows) =
      rows.take (count * size) := by
  induction count with
  | zero => rw [Nat.zero_mul, List.take_zero, List.range_zero, List.flatMap_nil]
  | succ count induction =>
      rw [List.range_succ, List.flatMap_append, induction, List.flatMap_singleton,
        Nat.add_mul, Nat.one_mul, List.take_add]
      rfl

/-- The page where the listing ends: all before it are full, and it is not. -/
theorem pageOf_last (positive : 0 < size) :
    (∀ number < rows.length / size,
      ¬(pageOf size rows number).length < size) ∧
      (pageOf size rows (rows.length / size)).length < size := by
  constructor
  · intro number before
    rw [length_pageOf_lt_iff positive, not_lt]
    exact (Nat.le_div_iff_mul_le positive).mp before
  · rw [length_pageOf_lt_iff positive]
    exact Nat.lt_mul_of_div_lt (Nat.lt_succ_self _) positive

/-- The pages up to one which is not full are the listing. -/
theorem flatMap_pageOf_of_short {last : Nat}
    (short : (pageOf size rows last).length < size) :
    (List.range (last + 1)).flatMap (pageOf size rows) = rows := by
  have positive : 0 < size := lt_of_le_of_lt (Nat.zero_le _) short
  rw [flatMap_pageOf]
  apply List.take_of_length_le
  exact le_of_lt ((length_pageOf_lt_iff positive).mp short)

end DbosRelay.Library.Paging
