import DbosRelay.Library.GoAny
import Mathlib.Algebra.Order.Field.Power
import Mathlib.Tactic.FieldSimp
import Mathlib.Tactic.Linarith
import Mathlib.Tactic.NormNum
import Mathlib.Tactic.Positivity

/-!
# The decimals of `float64`s

`formatFloat64` writes the shortest decimal which is read as the given float.
There always is one of at most seventeen digits, because `10 ^ 16` exceeds
`2 ^ 53`: half a unit in the seventeenth digit is less than half a unit in the last
binary digit.  So a document which came through an `any` once comes through a
second time unchanged (`throughAny_throughAny`).
-/

namespace DbosRelay.Library.GoJson

/-! ## The nearest integer -/

theorem roundHalfEven_near (number : ℚ) :
    |number - roundHalfEven number| ≤ 1 / 2 := by
  have below := Rat.floor_le number
  have above := Rat.lt_floor_add_one number
  push_cast at above
  simp only [roundHalfEven]
  split_ifs with low high even
  · rw [abs_le]
    constructor <;> linarith
  · push_cast
    rw [abs_le]
    constructor <;> linarith
  · rw [abs_le]
    constructor <;> linarith
  · push_cast
    rw [abs_le]
    constructor <;> linarith

/-- Only one integer is nearer than a half. -/
theorem roundHalfEven_eq {number : ℚ} {nearest : Int}
    (near : |number - nearest| < 1 / 2) : roundHalfEven number = nearest := by
  have other := roundHalfEven_near number
  rw [abs_lt] at near
  rw [abs_le] at other
  have below : (roundHalfEven number : ℚ) < nearest + 1 := by linarith
  have above : (nearest : ℚ) < roundHalfEven number + 1 := by linarith
  have belowInt : roundHalfEven number < nearest + 1 := by exact_mod_cast below
  have aboveInt : nearest < roundHalfEven number + 1 := by exact_mod_cast above
  omega

/-! ## Binary digits -/

section Binary

variable {number float : ℚ}

theorem two_zpow_pos (exponent : Int) : (0 : ℚ) < 2 ^ exponent := by positivity

theorem two_zpow_succ (exponent : Int) :
    (2 : ℚ) ^ (exponent + 1) = 2 ^ exponent * 2 :=
  zpow_add_one₀ two_ne_zero exponent

theorem two_zpow_lt_iff {first second : Int} :
    (2 : ℚ) ^ first < 2 ^ second ↔ first < second :=
  zpow_lt_zpow_iff_right₀ one_lt_two

theorem two_zpow_le_iff {first second : Int} :
    (2 : ℚ) ^ first ≤ 2 ^ second ↔ first ≤ second :=
  zpow_le_zpow_iff_right₀ one_lt_two

/-- A larger power of two is a multiple of a smaller one. -/
theorem two_zpow_multiple {small large : Int} (le : small ≤ large) :
    ∃ factor : Int, (2 : ℚ) ^ large = factor * 2 ^ small := by
  refine ⟨2 ^ (large - small).toNat, ?_⟩
  have exponent : large = ((large - small).toNat : Int) + small := by omega
  push_cast
  rw [← zpow_natCast, ← zpow_add₀ two_ne_zero, ← exponent]

theorem leadingBit_spec (positive : 0 < number) :
    (2 : ℚ) ^ leadingBit number ≤ number ∧
      number < 2 ^ (leadingBit number + 1) := by
  have numPositive : 0 < number.num := Rat.num_pos.mpr positive
  have numLow := Nat.log2_self_le (n := number.num.natAbs) (by omega)
  have numHigh := Nat.lt_log2_self (n := number.num.natAbs)
  have denLow := Nat.log2_self_le number.den_ne_zero
  have denHigh := Nat.lt_log2_self (n := number.den)
  set num := Nat.log2 number.num.natAbs
  set den := Nat.log2 number.den
  have isQuotient : number * number.den = (number.num.natAbs : ℚ) := by
    rw [Rat.mul_den_eq_num, ← Int.cast_natCast,
      Int.natAbs_of_nonneg numPositive.le]
  have denPositive : (0 : ℚ) < number.den := by exact_mod_cast number.den_pos
  have numLow' : (2 : ℚ) ^ num ≤ number.num.natAbs := by exact_mod_cast numLow
  have numHigh' : (number.num.natAbs : ℚ) < 2 ^ (num + 1) := by
    exact_mod_cast numHigh
  have denLow' : (2 : ℚ) ^ den ≤ number.den := by exact_mod_cast denLow
  have denHigh' : (number.den : ℚ) < 2 ^ (den + 1) := by exact_mod_cast denHigh
  have estimate : (2 : ℚ) ^ ((num : Int) - den) * 2 ^ den = 2 ^ num := by
    rw [← zpow_natCast, ← zpow_natCast, ← zpow_add₀ two_ne_zero]
    congr 1
    omega
  have power := two_zpow_pos ((num : Int) - den)
  have low : (2 : ℚ) ^ ((num : Int) - den) < number * 2 := by
    rw [pow_succ] at denHigh'
    nlinarith
  have high : number < 2 ^ ((num : Int) - den) * 2 := by
    rw [pow_succ] at numHigh'
    nlinarith
  unfold leadingBit
  simp only []
  split_ifs with less
  · have half := two_zpow_succ ((num : Int) - den - 1)
    rw [sub_add_cancel] at half ⊢
    exact ⟨by linarith, less⟩
  · rw [two_zpow_succ]
    exact ⟨not_lt.mp less, high⟩

/-- The exponent of the last binary digit of the floats around a number. -/
def lastBit (number : ℚ) : Int := max (leadingBit number - 52) (-1074)

/-- The binary digits of the nearest float, as an integer. -/
def nearestDigits (number : ℚ) : Int :=
  roundHalfEven (number / 2 ^ lastBit number)

theorem roundFloat64_of_pos (positive : 0 < number) :
    roundFloat64 number =
      if (2 : ℚ) ^ (1024 : Int) ≤
          (nearestDigits number : ℚ) * 2 ^ lastBit number then none
      else some ((nearestDigits number : ℚ) * 2 ^ lastBit number) := by
  rw [roundFloat64, if_neg positive.ne']
  simp only [abs_of_pos positive, if_neg positive.not_gt]
  rfl

/-- There are at most 53 binary digits. -/
theorem lt_lastBit (positive : 0 < number) :
    number < 2 ^ 53 * 2 ^ lastBit number := by
  calc
    number < 2 ^ (leadingBit number + 1) := (leadingBit_spec positive).2
    _ ≤ 2 ^ ((53 : Int) + lastBit number) := by
      rw [two_zpow_le_iff]
      unfold lastBit
      omega
    _ = 2 ^ 53 * 2 ^ lastBit number := by
      rw [zpow_add₀ two_ne_zero]
      norm_num

theorem nearestDigits_le (positive : 0 < number) :
    0 ≤ nearestDigits number ∧ nearestDigits number ≤ 2 ^ 53 := by
  have near := abs_le.mp (roundHalfEven_near (number / 2 ^ lastBit number))
  have unit := two_zpow_pos (lastBit number)
  have quotient : 0 < number / 2 ^ lastBit number := div_pos positive unit
  have bounded : number / 2 ^ lastBit number < 2 ^ 53 :=
    (div_lt_iff₀ unit).mpr (lt_lastBit positive)
  constructor
  · have above : (-1 : ℚ) < nearestDigits number := by
      unfold nearestDigits
      linarith
    have aboveInt : -1 < nearestDigits number := by exact_mod_cast above
    omega
  · have below : (nearestDigits number : ℚ) < 2 ^ 53 + 1 := by
      unfold nearestDigits
      linarith
    have belowInt : nearestDigits number < 2 ^ 53 + 1 := by exact_mod_cast below
    omega

/-- There are no other positive floats. -/
structure IsFloat64 (float : ℚ) : Prop where
  digits : ∃ mantissa exponent : Int, float = mantissa * 2 ^ exponent ∧
    0 < mantissa ∧ mantissa ≤ 2 ^ 53 ∧ -1074 ≤ exponent
  range : float < (2 : ℚ) ^ (1024 : Int)

theorem IsFloat64.positive (isFloat : IsFloat64 float) : 0 < float := by
  obtain ⟨mantissa, exponent, rfl, positive, _, _⟩ := isFloat.digits
  have power := two_zpow_pos exponent
  have positive' : (0 : ℚ) < mantissa := by exact_mod_cast positive
  positivity

theorem isFloat64_of_roundFloat64 (positive : 0 < number)
    (rounded : roundFloat64 number = some float) (nonzero : float ≠ 0) :
    IsFloat64 float := by
  rw [roundFloat64_of_pos positive] at rounded
  split_ifs at rounded with large
  cases rounded
  obtain ⟨nonnegative, bounded⟩ := nearestDigits_le positive
  refine ⟨⟨_, _, rfl, ?_, bounded, le_max_right _ _⟩, not_le.mp large⟩
  apply lt_of_le_of_ne nonnegative
  intro zero
  rw [← zero] at nonzero
  simp at nonzero

/-- A float is a multiple of its last binary digit. -/
theorem IsFloat64.multiple (isFloat : IsFloat64 float) :
    ∃ mantissa : Int, float = mantissa * 2 ^ lastBit float := by
  obtain ⟨low, _⟩ := leadingBit_spec isFloat.positive
  obtain ⟨mantissa, exponent, isProduct, positive, bounded, least⟩ :=
    isFloat.digits
  have power := two_zpow_pos exponent
  have split : (2 : ℚ) ^ ((53 : Int) + exponent) = 2 ^ 53 * 2 ^ exponent := by
    rw [zpow_add₀ two_ne_zero]
    norm_num
  rcases lt_or_eq_of_le bounded with less | largest
  · have lessRat : (mantissa : ℚ) < 2 ^ 53 := by exact_mod_cast less
    have leading : leadingBit float < 53 + exponent := by
      rw [← two_zpow_lt_iff, split]
      nlinarith
    have last : lastBit float ≤ exponent := by
      unfold lastBit
      omega
    obtain ⟨factor, isMultiple⟩ := two_zpow_multiple last
    refine ⟨mantissa * factor, isProduct.trans ?_⟩
    rw [isMultiple]
    push_cast
    ring
  · -- The float is a power of two, and has one binary digit.
    have isPower : float = 2 ^ ((53 : Int) + exponent) := by
      rw [split, isProduct, largest]
      norm_num
    have leading : leadingBit float ≤ 53 + exponent := by
      rw [← two_zpow_le_iff, ← isPower]
      exact low
    have last : lastBit float ≤ 53 + exponent := by
      unfold lastBit
      omega
    obtain ⟨factor, isMultiple⟩ := two_zpow_multiple last
    exact ⟨factor, isPower.trans isMultiple⟩

/-- No number close to a float has a coarser last binary digit. -/
theorem IsFloat64.multiple_near (isFloat : IsFloat64 float)
    (positive : 0 < number) (near : number - float ≤ float / (2 * 10 ^ 16)) :
    ∃ mantissa : Int, float = mantissa * 2 ^ lastBit number := by
  obtain ⟨mantissa, isProduct⟩ := isFloat.multiple
  by_cases finer : lastBit number ≤ lastBit float
  · obtain ⟨factor, isMultiple⟩ := two_zpow_multiple finer
    refine ⟨mantissa * factor, isProduct.trans ?_⟩
    rw [isMultiple]
    push_cast
    ring
  · -- The next power of two would lie between them, one unit above the float.
    exfalso
    have unit := two_zpow_pos (lastBit float)
    have floatPositive := isFloat.positive
    have digits := lt_lastBit floatPositive
    have leading : leadingBit float + 1 ≤ leadingBit number := by
      unfold lastBit at finer
      omega
    have above : (2 : ℚ) ^ (leadingBit float + 1) ≤ number :=
      (two_zpow_le_iff.mpr leading).trans (leadingBit_spec positive).1
    have below := (leadingBit_spec floatPositive).2
    have mantissaPositive : 0 < mantissa := by
      by_contra nonpositive
      have : (mantissa : ℚ) ≤ 0 := by exact_mod_cast not_lt.mp nonpositive
      nlinarith
    have last : lastBit float ≤ leadingBit float + 1 := by
      have one : (1 : ℚ) ≤ mantissa := by exact_mod_cast mantissaPositive
      rw [← two_zpow_le_iff]
      nlinarith
    obtain ⟨power, isMultiple⟩ := two_zpow_multiple last
    have less : mantissa < power := by
      have : (mantissa : ℚ) < power := by
        rw [isMultiple] at below
        exact lt_of_mul_lt_mul_right (isProduct.symm.trans_lt below) unit.le
      exact_mod_cast this
    have next : (mantissa : ℚ) + 1 ≤ power := by exact_mod_cast less
    have gap : float + 2 ^ lastBit float ≤ number := by
      calc
        float + 2 ^ lastBit float = (mantissa + 1) * 2 ^ lastBit float := by
          rw [add_mul, one_mul, ← isProduct]
        _ ≤ power * 2 ^ lastBit float := by gcongr
        _ ≤ number := isMultiple ▸ above
    linarith

/-- What is close enough to a float is read as that float. -/
theorem roundFloat64_near (isFloat : IsFloat64 float)
    (near : |number - float| ≤ float / (2 * 10 ^ 16)) :
    roundFloat64 number = some float := by
  have floatPositive := isFloat.positive
  obtain ⟨below, above⟩ := abs_le.mp near
  have positive : 0 < number := by linarith
  have unit := two_zpow_pos (lastBit number)
  obtain ⟨mantissa, isProduct⟩ := isFloat.multiple_near positive above
  have nearest : nearestDigits number = mantissa := by
    apply roundHalfEven_eq
    have distance : number / 2 ^ lastBit number - mantissa =
        (number - float) / 2 ^ lastBit number := by
      rw [sub_div, ← (eq_div_iff unit.ne').mpr isProduct.symm]
    rw [distance, abs_div, abs_of_pos unit, div_lt_iff₀ unit]
    have digits := lt_lastBit positive
    linarith
  rw [roundFloat64_of_pos positive, nearest, ← isProduct,
    if_neg (not_le.mpr isFloat.range)]

end Binary

/-! ## Decimals -/

section Decimal

variable {number float : ℚ}

theorem leadingDigit_le (positive : 0 < float) :
    (10 : ℚ) ^ leadingDigit float ≤ float := by
  unfold leadingDigit
  split_ifs with large
  · have isInteger : 1 ≤ float.floor := by
      rw [Rat.le_floor_iff]
      exact_mod_cast large
    have power := Nat.pow_log_le_self 10 (x := float.floor.toNat) (by omega)
    rw [zpow_natCast]
    calc
      (10 : ℚ) ^ Nat.log 10 float.floor.toNat ≤ float.floor.toNat := by
        exact_mod_cast power
      _ = float.floor := by
        rw [← Int.cast_natCast, Int.toNat_of_nonneg (by omega)]
      _ ≤ float := Rat.floor_le float
  · have power := Nat.le_pow_clog (b := 10) (by norm_num) (1 / float).ceil.toNat
    have inverse : 1 / float ≤ 10 ^ Nat.clog 10 (1 / float).ceil.toNat := by
      calc
        1 / float ≤ (1 / float).ceil := Rat.le_ceil
        _ ≤ (1 / float).ceil.toNat := by exact_mod_cast Int.self_le_toNat _
        _ ≤ 10 ^ Nat.clog 10 (1 / float).ceil.toNat := by exact_mod_cast power
    rw [zpow_neg, zpow_natCast]
    apply inv_le_of_inv_le₀ positive
    rwa [← one_div]

/-- A decimal is only chosen if it is read as the float. -/
theorem decimalOf_reads {digits : Nat} {mantissa exponent : Int}
    (chosen : decimalOf float digits = some (mantissa, exponent)) :
    roundFloat64 (mantissa * (10 : ℚ) ^ exponent) = some float := by
  simp only [decimalOf, decide_eq_true_eq] at chosen
  split_ifs at chosen with nearest lower upper
  · cases chosen
    exact nearest
  · cases chosen
    exact lower
  · cases chosen
    exact upper

/-- Seventeen digits are enough. -/
theorem decimalOf_seventeen (isFloat : IsFloat64 float) :
    (decimalOf float 17).isSome := by
  set exponent : Int := leadingDigit float - (17 : Nat) + 1 with isExponent
  have power : (0 : ℚ) < 10 ^ exponent := by positivity
  have least : (10 : ℚ) ^ exponent * 10 ^ 16 ≤ float := by
    have leading := leadingDigit_le isFloat.positive
    have sum : leadingDigit float = exponent + (16 : Nat) := by omega
    rwa [sum, zpow_add₀ (by norm_num), zpow_natCast] at leading
  have reads : roundFloat64
      (roundHalfEven (float / 10 ^ exponent) * (10 : ℚ) ^ exponent) =
        some float := by
    apply roundFloat64_near isFloat
    have near := roundHalfEven_near (float / 10 ^ exponent)
    have distance : (roundHalfEven (float / 10 ^ exponent) : ℚ) * 10 ^ exponent -
        float = -((float / 10 ^ exponent -
          roundHalfEven (float / 10 ^ exponent)) * 10 ^ exponent) := by
      field_simp
      ring
    rw [distance, abs_neg, abs_mul, abs_of_pos power,
      le_div_iff₀ (by norm_num)]
    nlinarith
  simp only [decimalOf, ← isExponent, reads, decide_true, if_true,
    Option.isSome_some]

theorem shortestDecimal_reads (isFloat : IsFloat64 float) :
    roundFloat64 ((shortestDecimal float).1 *
      (10 : ℚ) ^ (shortestDecimal float).2) = some float := by
  obtain ⟨⟨mantissa, exponent⟩, chosen⟩ :
      ∃ decimal, (List.range' 1 17).findSome? (decimalOf float) =
        some decimal := by
    rw [← Option.isSome_iff_exists, List.findSome?_isSome_iff]
    exact ⟨17, by decide, decimalOf_seventeen isFloat⟩
  obtain ⟨digits, _, isDecimal⟩ := List.exists_of_findSome?_eq_some chosen
  rw [shortestDecimal, chosen]
  exact decimalOf_reads isDecimal

/-- A decimal without fraction is the integer it is written as. -/
theorem exists_integer {digits exponent : Int}
    (whole : 0 ≤ exponent ∨ digits % 10 ^ exponent.natAbs = 0) :
    ∃ value : Int, digits * (10 : ℚ) ^ exponent = value := by
  rcases le_total 0 exponent with nonnegative | nonpositive
  · lift exponent to Nat using nonnegative
    refine ⟨digits * 10 ^ exponent, ?_⟩
    push_cast
    rfl
  · obtain ⟨size, rfl⟩ := Int.exists_eq_neg_ofNat nonpositive
    have divides : (10 ^ size : Int) ∣ digits := by
      rcases whole with zero | isZero
      · have : size = 0 := by omega
        subst this
        exact one_dvd digits
      · rw [Int.natAbs_neg, Int.natAbs_natCast] at isZero
        exact Int.dvd_of_emod_eq_zero isZero
    obtain ⟨value, rfl⟩ := divides
    refine ⟨value, ?_⟩
    push_cast
    rw [zpow_neg, zpow_natCast]
    field_simp

/-- What is written is the shortest decimal, whichever form it is given. -/
theorem formatFloat64_value (nonzero : float ≠ 0) :
    (formatFloat64 float).value =
      (if float < 0 then -1 else 1) * ((shortestDecimal |float|).1 *
        (10 : ℚ) ^ (shortestDecimal |float|).2) := by
  cases isDecimal : shortestDecimal |float| with
  | mk digits exponent =>
      rw [formatFloat64, if_neg nonzero, isDecimal]
      have signed : ((if float < 0 then -digits else digits : Int) : ℚ) *
          10 ^ exponent =
            (if float < 0 then -1 else 1) * (digits * (10 : ℚ) ^ exponent) := by
        by_cases negative : float < 0
        · rw [if_pos negative, if_pos negative]
          push_cast
          ring
        · rw [if_neg negative, if_neg negative, one_mul]
      rw [← signed]
      show Number.value (if _ then _ else _) = _
      by_cases integral : (decide (0 ≤ exponent) ||
          decide (digits % 10 ^ exponent.natAbs = 0)) &&
            decide (|float| < (10 : ℚ) ^ (21 : Int))
      · rw [if_pos integral]
        rw [Bool.and_eq_true, Bool.or_eq_true, decide_eq_true_eq,
          decide_eq_true_eq] at integral
        obtain ⟨value, isInteger⟩ := exists_integer integral.1
        have mantissa : ∃ value : Int,
            ((if float < 0 then -digits else digits : Int) : ℚ) *
              10 ^ exponent = value := by
          rw [signed, isInteger]
          by_cases negative : float < 0
          · exact ⟨-value, by rw [if_pos negative]; push_cast; ring⟩
          · exact ⟨value, by rw [if_neg negative, one_mul]⟩
        obtain ⟨written, isWritten⟩ := mantissa
        rw [isWritten]
        simp [Number.value]
      · rw [if_neg integral]
        rfl

end Decimal

/-! ## The passage a second time -/

theorem membersThroughAny_eq_map (members : List (String × Json)) :
    membersThroughAny members =
      members.map fun entry => (entry.1, throughAny entry.2) := by
  induction members with
  | nil => rfl
  | cons entry members induction => rw [membersThroughAny, induction]; rfl

theorem roundFloat64_neg (number : ℚ) :
    roundFloat64 (-number) = (roundFloat64 number).map Neg.neg := by
  simp only [roundFloat64, abs_neg, neg_eq_zero, Left.neg_neg_iff]
  rcases lt_trichotomy number 0 with negative | rfl | positive
  · rw [if_neg negative.ne, if_neg negative.ne, if_neg negative.not_gt,
      if_pos negative]
    split_ifs
    · rfl
    · simp
  · rfl
  · rw [if_neg positive.ne', if_neg positive.ne', if_pos positive,
      if_neg positive.not_gt]
    split_ifs
    · rfl
    · rfl

/-- What is written for a float is read as that float. -/
theorem roundFloat64_formatFloat64 {number float : ℚ}
    (rounded : roundFloat64 number = some float) :
    roundFloat64 (formatFloat64 float).value = some float := by
  by_cases zero : float = 0
  · subst zero
    rfl
  rw [formatFloat64_value zero]
  rcases lt_trichotomy number 0 with negative | rfl | positive
  · have opposite : roundFloat64 (-number) = some (-float) := by
      rw [roundFloat64_neg, rounded]
      rfl
    have isFloat := isFloat64_of_roundFloat64 (neg_pos.mpr negative) opposite
      (neg_ne_zero.mpr zero)
    have floatNegative : float < 0 := neg_pos.mp isFloat.positive
    rw [if_pos floatNegative, abs_of_neg floatNegative, neg_one_mul,
      roundFloat64_neg, shortestDecimal_reads isFloat]
    simp
  · cases rounded
    exact absurd rfl zero
  · have isFloat := isFloat64_of_roundFloat64 positive rounded zero
    rw [if_neg isFloat.positive.not_gt, abs_of_pos isFloat.positive, one_mul,
      shortestDecimal_reads isFloat]

mutual

/-- The second passage changes nothing. -/
theorem throughAny_throughAny : (json : Json) →
    throughAny (throughAny json) = throughAny json
  | .null => rfl
  | .bool _ => rfl
  | .number literal => by
      cases rounded : roundFloat64 literal.value with
      | none => simp only [throughAny, rounded]
      | some float =>
          simp only [throughAny, rounded, roundFloat64_formatFloat64 rounded]
  | .string _ => rfl
  | .array elements => by
      simp only [throughAny, elementsThroughAny_twice elements]
  | .object members => by
      simp only [throughAny]
      rw [membersThroughAny_eq_map, ← sortMembers_map, sortMembers_sortMembers,
        ← membersThroughAny_eq_map, membersThroughAny_twice members]

/-- The elements one by one. -/
theorem elementsThroughAny_twice : (elements : List Json) →
    elementsThroughAny (elementsThroughAny elements) =
      elementsThroughAny elements
  | [] => rfl
  | json :: elements => by
      simp only [elementsThroughAny, throughAny_throughAny json,
        elementsThroughAny_twice elements]

/-- The members one by one. -/
theorem membersThroughAny_twice : (members : List (String × Json)) →
    membersThroughAny (membersThroughAny members) = membersThroughAny members
  | [] => rfl
  | (name, json) :: members => by
      simp only [membersThroughAny, throughAny_throughAny json,
        membersThroughAny_twice members]

end

end DbosRelay.Library.GoJson
