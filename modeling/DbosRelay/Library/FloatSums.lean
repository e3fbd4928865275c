import DbosRelay.Library.Floats
import Mathlib.Algebra.BigOperators.Group.List.Basic
import Mathlib.Algebra.Order.BigOperators.Group.List
import Mathlib.Data.List.Induction
import Mathlib.Tactic.Ring

/-!
# Sums of `float64`s

Numbers are added up one after another, and each sum is rounded to the nearest
`float64`.  What comes out depends on the order of three or more numbers, but stays
close to the exact sum: of numbers which are not negative and not tiny, each
rounding loses or gains one part in `2 ^ 53` at most.
-/

namespace DbosRelay.Library.FloatSums

open DbosRelay.Library.GoJson

/-- The nearest `float64`; a number which is out of range stays what it is. -/
def float64 (number : ℚ) : ℚ := (roundFloat64 number).getD number

/-- The numbers are added to zero one after another. -/
def floatSum (values : List ℚ) : ℚ :=
  values.foldl (fun total value => float64 (total + value)) 0

/-- The greatest relative error of a rounding. -/
def unitRoundoff : ℚ := 1 / 2 ^ 53

/-- A number is what so many roundings may leave of an exact one. -/
def Near (roundings : Nat) (exact number : ℚ) : Prop :=
  exact * (1 - unitRoundoff) ^ roundings ≤ number ∧
    number ≤ exact * (1 + unitRoundoff) ^ roundings

/-- A number is zero, or at least the given power of two. -/
def ZeroOrAtLeast (exponent : Int) (number : ℚ) : Prop :=
  number = 0 ∨ 2 ^ exponent ≤ number

variable {exponent : Int} {number : ℚ} {values : List ℚ}

theorem unitRoundoff_pos : 0 < unitRoundoff := by
  norm_num [unitRoundoff]

theorem one_sub_unitRoundoff_pos : 0 < 1 - unitRoundoff := by
  norm_num [unitRoundoff]

namespace Near

variable {roundings more : Nat} {exact : ℚ}

theorem zero : Near roundings 0 0 := by
  simp [Near]

/-- Roundings of what was rounded before. -/
theorem trans {other : ℚ} (first : Near roundings exact number)
    (second : Near more number other) : Near (roundings + more) exact other := by
  have low := pow_pos one_sub_unitRoundoff_pos more
  have high : 0 < (1 + unitRoundoff) ^ more := by
    have := unitRoundoff_pos
    positivity
  rw [Near, pow_add, pow_add, ← mul_assoc, ← mul_assoc]
  exact ⟨(mul_le_mul_of_nonneg_right first.1 low.le).trans second.1,
    second.2.trans (mul_le_mul_of_nonneg_right first.2 high.le)⟩

theorem add {otherExact other : ℚ} (first : Near roundings exact number)
    (second : Near roundings otherExact other) :
    Near roundings (exact + otherExact) (number + other) := by
  rw [Near, add_mul, add_mul]
  exact ⟨add_le_add first.1 second.1, add_le_add first.2 second.2⟩

theorem div {divisor : ℚ} (near : Near roundings exact number)
    (positive : 0 < divisor) :
    Near roundings (exact / divisor) (number / divisor) := by
  rw [Near, div_mul_eq_mul_div, div_mul_eq_mul_div]
  exact ⟨(div_le_div_iff_of_pos_right positive).mpr near.1,
    (div_le_div_iff_of_pos_right positive).mpr near.2⟩

/-- A number which is exact is near. -/
theorem of_nonneg (nonneg : 0 ≤ number) : Near roundings number number := by
  have positive := unitRoundoff_pos
  have low := one_sub_unitRoundoff_pos
  refine ⟨mul_le_of_le_one_right nonneg (pow_le_one₀ low.le (by linarith)),
    le_mul_of_one_le_right nonneg (one_le_pow₀ (by linarith))⟩

end Near

theorem ZeroOrAtLeast.nonneg (atLeast : ZeroOrAtLeast exponent number) :
    0 ≤ number := by
  rcases atLeast with rfl | atLeast
  · exact le_rfl
  · exact (two_zpow_pos exponent).le.trans atLeast

theorem ZeroOrAtLeast.add {other : ℚ}
    (first : ZeroOrAtLeast exponent number)
    (second : ZeroOrAtLeast exponent other) :
    ZeroOrAtLeast exponent (number + other) := by
  rcases first with rfl | first
  · rwa [zero_add]
  · exact Or.inr (le_add_of_le_of_nonneg first second.nonneg)

/-! ## One rounding -/

@[simp]
theorem float64_zero : float64 0 = 0 := rfl

theorem float64_of_pos (positive : 0 < number) :
    float64 number = number ∨
      float64 number = nearestDigits number * 2 ^ lastBit number := by
  rw [float64, roundFloat64_of_pos positive]
  split_ifs
  · exact Or.inl rfl
  · exact Or.inr rfl

/-- A number which is not tiny has all 53 binary digits. -/
theorem lastBit_of_le (normal : -1022 ≤ exponent)
    (atLeast : 2 ^ exponent ≤ number) :
    exponent ≤ leadingBit number ∧ lastBit number = leadingBit number - 52 := by
  have positive := (two_zpow_pos exponent).trans_le atLeast
  have below := (leadingBit_spec positive).2
  have leading : exponent < leadingBit number + 1 :=
    two_zpow_lt_iff.mp (atLeast.trans_lt below)
  unfold lastBit
  omega

/-- The error of a rounding is half a unit in the last binary digit. -/
theorem float64_near (normal : -1022 ≤ exponent)
    (atLeast : ZeroOrAtLeast exponent number) :
    Near 1 number (float64 number) := by
  rcases atLeast with rfl | atLeast
  · exact Near.zero
  have positive := (two_zpow_pos exponent).trans_le atLeast
  have unit := two_zpow_pos (lastBit number)
  have error : 2 ^ lastBit number * (1 / 2) ≤ number * unitRoundoff := by
    have leading := (leadingBit_spec positive).1
    have digits : (2 : ℚ) ^ leadingBit number = 2 ^ lastBit number * 2 ^ 52 := by
      rw [(lastBit_of_le normal atLeast).2, ← zpow_natCast,
        ← zpow_add₀ two_ne_zero]
      congr 1
      omega
    rw [digits] at leading
    unfold unitRoundoff
    linarith
  rcases float64_of_pos positive with same | rounded
  · rw [same]
    exact Near.of_nonneg positive.le
  · have near := abs_le.mp (roundHalfEven_near (number / 2 ^ lastBit number))
    have whole : number = number / 2 ^ lastBit number * 2 ^ lastBit number :=
      (div_mul_cancel₀ number unit.ne').symm
    have distance : |number - float64 number| ≤ 2 ^ lastBit number * (1 / 2) := by
      rw [rounded]
      nth_rewrite 1 [whole]
      rw [← sub_mul, abs_mul, abs_of_pos unit, mul_comm]
      exact mul_le_mul_of_nonneg_left (abs_le.mpr near) unit.le
    have bounds := abs_le.mp (distance.trans error)
    rw [Near, pow_one, pow_one]
    constructor <;> linarith [bounds.1, bounds.2]

/-- A power of two is not rounded, so what is above it stays above it. -/
theorem zeroOrAtLeast_float64 (normal : -1022 ≤ exponent)
    (atLeast : ZeroOrAtLeast exponent number) :
    ZeroOrAtLeast exponent (float64 number) := by
  rcases atLeast with rfl | atLeast
  · exact Or.inl rfl
  refine Or.inr ?_
  have positive := (two_zpow_pos exponent).trans_le atLeast
  rcases float64_of_pos positive with same | rounded
  · rw [same]
    exact atLeast
  · rcases lastBit_of_le normal atLeast with ⟨leading, last⟩
    have unit := two_zpow_pos (lastBit number)
    have digits : (2 : ℚ) ^ leadingBit number = 2 ^ 52 * 2 ^ lastBit number := by
      rw [last, ← zpow_natCast, ← zpow_add₀ two_ne_zero]
      congr 1
      omega
    have enough : (2 : ℚ) ^ 52 ≤ number / 2 ^ lastBit number := by
      rw [le_div_iff₀ unit, ← digits]
      exact (leadingBit_spec positive).1
    have near := abs_le.mp (roundHalfEven_near (number / 2 ^ lastBit number))
    have above : (2 : ℚ) ^ 52 - 1 < nearestDigits number := by
      unfold nearestDigits
      linarith [near.2]
    have aboveInt : 2 ^ 52 ≤ nearestDigits number := by
      have : (2 : Int) ^ 52 - 1 < nearestDigits number := by exact_mod_cast above
      omega
    calc
      (2 : ℚ) ^ exponent ≤ 2 ^ leadingBit number := two_zpow_le_iff.mpr leading
      _ = 2 ^ 52 * 2 ^ lastBit number := digits
      _ ≤ nearestDigits number * 2 ^ lastBit number := by
        apply mul_le_mul_of_nonneg_right _ unit.le
        exact_mod_cast aboveInt
      _ = float64 number := rounded.symm

theorem float64_neg (number : ℚ) : float64 (-number) = -float64 number := by
  rw [float64, float64, roundFloat64_neg]
  cases roundFloat64 number with
  | none => rfl
  | some float => rfl

theorem float64_float64_of_pos (positive : 0 < number) :
    float64 (float64 number) = float64 number := by
  cases rounded : roundFloat64 number with
  | none =>
      have same : float64 number = number := by
        rw [float64, rounded, Option.getD_none]
      rw [same, same]
  | some float =>
      have isRounded : float64 number = float := by
        rw [float64, rounded, Option.getD_some]
      rw [isRounded]
      by_cases zero : float = 0
      · rw [zero]
        rfl
      · have isFloat := isFloat64_of_roundFloat64 positive rounded zero
        have same : roundFloat64 float = some float := by
          apply roundFloat64_near isFloat
          rw [sub_self, abs_zero]
          have := isFloat.positive
          positivity
        rw [float64, same, Option.getD_some]

/-- A `float64` is rounded to itself. -/
theorem float64_float64 (number : ℚ) :
    float64 (float64 number) = float64 number := by
  rcases lt_trichotomy number 0 with negative | rfl | positive
  · have opposite := float64_float64_of_pos (neg_pos.mpr negative)
    rwa [float64_neg, float64_neg, neg_inj] at opposite
  · rfl
  · exact float64_float64_of_pos positive

/-! ## Sums -/

theorem floatSum_append (values : List ℚ) (value : ℚ) :
    floatSum (values ++ [value]) = float64 (floatSum values + value) :=
  List.foldl_concat _ _ _ _

/--
A sum of numbers which are not negative and not tiny is off by one part in `2 ^ 53`
for each of them at most.
-/
theorem floatSum_near (normal : -1022 ≤ exponent)
    (atLeast : ∀ value ∈ values, ZeroOrAtLeast exponent value) :
    Near values.length values.sum (floatSum values) ∧
      ZeroOrAtLeast exponent (floatSum values) := by
  induction values using List.reverseRecOn with
  | nil => exact ⟨Near.zero, Or.inl rfl⟩
  | append_singleton values value induction =>
      rw [List.forall_mem_append, List.forall_mem_singleton] at atLeast
      rcases induction atLeast.1 with ⟨near, clear⟩
      have next := clear.add atLeast.2
      rw [floatSum_append, List.sum_append, List.sum_singleton,
        List.length_append, List.length_singleton]
      exact ⟨(near.add (Near.of_nonneg atLeast.2.nonneg)).trans
        (float64_near normal next), zeroOrAtLeast_float64 normal next⟩

/-- The exact sum of numbers each of which is near. -/
theorem near_sum {Element : Type} {roundings : Nat} {exact value : Element → ℚ}
    {elements : List Element}
    (near : ∀ element ∈ elements,
      Near roundings (exact element) (value element)) :
    Near roundings (elements.map exact).sum (elements.map value).sum := by
  induction elements with
  | nil => exact Near.zero
  | cons element elements induction =>
      rw [List.forall_mem_cons] at near
      rw [List.map_cons, List.map_cons, List.sum_cons, List.sum_cons]
      exact near.1.add (induction near.2)

/-- The numbers have one sum, whatever their order. -/
def OrderFree (values : List ℚ) : Prop :=
  ∀ others : List ℚ, others.Perm values → floatSum others = floatSum values

/-- Two `float64`s have one sum. -/
theorem orderFree_of_length_le_two
    (rounded : ∀ value ∈ values, float64 value = value)
    (few : values.length ≤ 2) : OrderFree values := by
  intro others perm
  induction perm with
  | nil => rfl
  | cons value perm induction =>
      rename_i first second
      have one : second.length ≤ 1 := by
        simpa using few
      have same : first = second := by
        match second, one with
        | [], _ => rw [perm.eq_nil]
        | [only], _ => rw [List.perm_singleton.mp perm]
      rw [same]
  | swap first second rest =>
      have empty : rest = [] := by
        simpa using few
      subst empty
      have isFirst : float64 first = first := rounded first (by simp)
      have isSecond : float64 second = second := rounded second (by simp)
      simp only [floatSum, List.foldl_cons, List.foldl_nil, zero_add, isFirst,
        isSecond]
      rw [add_comm]
  | trans perm between first second =>
      rw [first (fun value member => rounded value (between.mem_iff.mp member))
        (between.length_eq ▸ few), second rounded few]

end DbosRelay.Library.FloatSums
