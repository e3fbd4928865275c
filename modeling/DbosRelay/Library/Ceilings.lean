import Mathlib.Data.Rat.Floor

/-!
# Quotients rounded up

The least integer which is not below a quotient, the way programs compute it by
adding the divisor less one, and what becomes of it when that sum is wrapped: it is
exact if the sum is in range, and otherwise not positive.
-/

namespace DbosRelay.Library.Ceilings

variable {number divisor : Int}

theorem ceil_div_le_iff (positive : 0 < divisor) {bound : Int} :
    ⌈(number : ℚ) / divisor⌉ ≤ bound ↔ number ≤ bound * divisor := by
  have positiveRat : (0 : ℚ) < divisor := Int.cast_pos.mpr positive
  rw [Int.ceil_le, div_le_iff₀ positiveRat]
  exact_mod_cast Iff.rfl

theorem ceil_div_pos_iff (positive : 0 < divisor) :
    0 < ⌈(number : ℚ) / divisor⌉ ↔ 0 < number := by
  have bounded : ⌈(number : ℚ) / divisor⌉ ≤ 0 ↔ number ≤ 0 * divisor :=
    ceil_div_le_iff positive
  rw [Int.zero_mul] at bounded
  rw [← not_le, bounded, not_le]

theorem ceil_div_nonneg (positive : 0 < divisor) (notNegative : 0 ≤ number) :
    0 ≤ ⌈(number : ℚ) / divisor⌉ := by
  by_contra negative
  have below : ⌈(number : ℚ) / divisor⌉ ≤ -1 := by omega
  rw [ceil_div_le_iff positive] at below
  omega

/-- One is enough for numbers up to the divisor. -/
theorem ceil_div_le_one_iff (positive : 0 < divisor) :
    ⌈(number : ℚ) / divisor⌉ ≤ 1 ↔ number ≤ divisor := by
  rw [ceil_div_le_iff positive, Int.one_mul]

/-- The sum a program divides. -/
theorem add_sub_one_div_eq_ceil (positive : 0 < divisor) :
    (number + divisor - 1) / divisor = ⌈(number : ℚ) / divisor⌉ := by
  apply eq_of_forall_ge_iff
  intro bound
  rw [ceil_div_le_iff positive, ← Int.lt_add_one_iff,
    Int.ediv_lt_iff_lt_mul positive, Int.add_mul, Int.one_mul]
  omega

section Wrapped

variable {size : Nat}

/-- A sum in range is divided as it is. -/
theorem wrapped_tdiv_eq_ceil (positive : 0 < divisor)
    (notNegative : 0 ≤ number)
    (fits : number + divisor - 1 < ((size : Int) + 1) / 2) :
    ((number + divisor - 1).bmod size).tdiv divisor =
      ⌈(number : ℚ) / divisor⌉ := by
  have nonneg : 0 ≤ number + divisor - 1 := by omega
  have same : (number + divisor - 1).bmod size = number + divisor - 1 := by
    apply Int.bmod_eq_of_le
    · omega
    · exact fits
  rw [same, Int.tdiv_eq_ediv_of_nonneg nonneg,
    add_sub_one_div_eq_ceil positive]

/-- A sum beyond the range has come out as negative. -/
theorem wrapped_tdiv_nonpos (positive : 0 < divisor)
    (beyond : ((size : Int) + 1) / 2 ≤ number + divisor - 1)
    (once : number + divisor - 1 < size) :
    ((number + divisor - 1).bmod size).tdiv divisor ≤ 0 ∧
      (((number + divisor - 1).bmod size).tdiv divisor = 0 ↔
        (size : Int) < number + 2 * divisor - 1) := by
  have wrapped : (number + divisor - 1).bmod size =
      -(size - (number + divisor - 1)) := by
    rw [← Int.sub_mul_bmod_self_right _ 1 size]
    rw [Int.bmod_eq_of_le]
    · omega
    · omega
    · omega
  have nonneg : 0 ≤ size - (number + divisor - 1) := by omega
  rw [wrapped, Int.neg_tdiv, Int.tdiv_eq_ediv_of_nonneg nonneg]
  have quotient := Int.ediv_nonneg nonneg (le_of_lt positive)
  have zero : (size - (number + divisor - 1)) / divisor < 1 ↔
      (size : Int) < number + 2 * divisor - 1 := by
    rw [Int.ediv_lt_iff_lt_mul positive]
    omega
  constructor
  · omega
  · rw [← zero]
    omega

end Wrapped

end DbosRelay.Library.Ceilings
