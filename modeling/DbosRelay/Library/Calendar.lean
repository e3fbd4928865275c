import Mathlib.Data.Int.Order.Basic
import Mathlib.Data.List.GetD
import Mathlib.Order.Lattice

/-!
# The proleptic Gregorian calendar

Days are counted from the first of January of year one.  A date is found by
cutting the days into years and the days of a year into months; both cuts are
into consecutive blocks, so dates are ordered as their days are.
-/

namespace DbosRelay.Library.Calendar

/-! ## Consecutive blocks -/

section Blocks

variable {Key : Type*} [LinearOrder Key] (start finish : Key → Int)

/-- Positions in consecutive blocks are ordered by the block, then within it. -/
theorem lt_iff_of_blocks
    (consecutive : ∀ first second, first < second →
      finish first ≤ start second)
    {position other : Int} {block otherBlock : Key}
    (inside : start block ≤ position ∧ position < finish block)
    (otherInside : start otherBlock ≤ other ∧ other < finish otherBlock) :
    position < other ↔
      block < otherBlock ∨
        block = otherBlock ∧
          position - start block < other - start otherBlock := by
  rcases lt_trichotomy block otherBlock with less | same | greater
  · have := consecutive block otherBlock less
    refine iff_of_true ?_ (Or.inl less)
    omega
  · subst same
    simp only [lt_irrefl, true_and, false_or]
    omega
  · have := consecutive otherBlock block greater
    refine iff_of_false ?_ ?_
    · omega
    · rintro (less | ⟨same, -⟩)
      · exact lt_asymm less greater
      · exact (ne_of_gt greater) same

end Blocks

/-! ## Years -/

/-- The days before the first of January. -/
def daysBeforeYear (year : Int) : Int :=
  365 * (year - 1) + (year - 1) / 4 - (year - 1) / 100 + (year - 1) / 400

/-- A year with a twenty-ninth of February. -/
def isLeap (year : Int) : Bool :=
  year % 4 = 0 && (year % 100 ≠ 0 || year % 400 = 0)

/-- The length of a year. -/
def yearLength (leap : Bool) : Int :=
  if leap then 366 else 365

theorem daysBeforeYear_succ (year : Int) :
    daysBeforeYear (year + 1) = daysBeforeYear year + yearLength (isLeap year) := by
  unfold daysBeforeYear yearLength isLeap
  simp only [decide_not, Bool.and_eq_true, decide_eq_true_eq, Bool.or_eq_true,
    Bool.not_eq_eq_eq_not, Bool.not_true, decide_eq_false_iff_not]
  split_ifs with leap <;> omega

theorem daysBeforeYear_consecutive (first second : Int)
    (before : first < second) :
    daysBeforeYear (first + 1) ≤ daysBeforeYear second := by
  unfold daysBeforeYear
  omega

/-- The year of a day, by cycles of 400, 100, 4 and 1 years. -/
def yearOf (days : Int) : Int :=
  let centuries := min 3 (days % 146097 / 36524)
  let inCentury := days % 146097 - 36524 * centuries
  let years := min 3 (inCentury % 1461 / 365)
  400 * (days / 146097) + 100 * centuries + 4 * (inCentury / 1461) + years + 1

/-- The days before the year which is `years` years after a cut of cycles. -/
theorem daysBeforeYear_cycles {cycles centuries fours years : Int}
    (someCenturies : 0 ≤ centuries ∧ centuries ≤ 3)
    (someFours : 0 ≤ fours ∧ fours ≤ 24) (someYears : 0 ≤ years ∧ years ≤ 3) :
    daysBeforeYear (400 * cycles + 100 * centuries + 4 * fours + years + 1) =
      146097 * cycles + 36524 * centuries + 1461 * fours + 365 * years := by
  unfold daysBeforeYear
  omega

/-- A day lies in its year. -/
theorem yearOf_spec (days : Int) :
    daysBeforeYear (yearOf days) ≤ days ∧
      days < daysBeforeYear (yearOf days + 1) := by
  unfold yearOf
  simp only
  generalize centuriesEq : min 3 (days % 146097 / 36524) = centuries
  generalize inCenturyEq : days % 146097 - 36524 * centuries = inCentury
  generalize yearsEq : min 3 (inCentury % 1461 / 365) = years
  have someCenturies : 0 ≤ centuries ∧ centuries ≤ 3 := by omega
  have someFours : 0 ≤ inCentury / 1461 ∧ inCentury / 1461 ≤ 24 := by omega
  have someYears : 0 ≤ years ∧ years ≤ 3 := by omega
  have before : daysBeforeYear (400 * (days / 146097) + 100 * centuries +
      4 * (inCentury / 1461) + years + 1) = _ :=
    daysBeforeYear_cycles someCenturies someFours someYears
  refine ⟨by omega, ?_⟩
  rw [daysBeforeYear_succ]
  have long : (365 : Int) ≤ yearLength (isLeap (400 * (days / 146097) +
      100 * centuries + 4 * (inCentury / 1461) + years + 1)) := by
    unfold yearLength
    split_ifs <;> omega
  by_cases short : inCentury % 1461 - 365 * years < 365
  · omega
  · -- Only the last year of a group of four has a day 365.
    have leap : isLeap (400 * (days / 146097) + 100 * centuries +
        4 * (inCentury / 1461) + years + 1) = true := by
      unfold isLeap
      simp only [decide_not, Bool.and_eq_true, decide_eq_true_eq,
        Bool.or_eq_true, Bool.not_eq_eq_eq_not, Bool.not_true,
        decide_eq_false_iff_not]
      omega
    rw [leap, yearLength, if_pos rfl]
    omega

/-! ## Months -/

/-- The days of a common year before the first of a month, from month zero. -/
def commonMonths : List Nat :=
  [0, 0, 31, 59, 90, 120, 151, 181, 212, 243, 273, 304, 334]

/-- The days of a year before the first of a month; months count from one. -/
def daysBeforeMonth (leap : Bool) (month : Nat) : Nat :=
  commonMonths.getD month 365 + if leap && decide (2 < month) then 1 else 0

theorem daysBeforeMonth_succ (leap : Bool) (month : Nat) :
    daysBeforeMonth leap month ≤ daysBeforeMonth leap (month + 1) ∧
      daysBeforeMonth leap (month + 1) ≤ daysBeforeMonth leap month + 31 := by
  rcases Nat.lt_or_ge month 13 with early | late
  · revert leap month
    decide
  · have afterYear : ∀ later, 13 ≤ later →
        daysBeforeMonth leap later = 365 + if leap then 1 else 0 := by
      intro later isLate
      have long : commonMonths.length ≤ later := isLate
      have afterFebruary : 2 < later := by omega
      rw [daysBeforeMonth, List.getD_eq_default _ _ long]
      simp only [afterFebruary, decide_true, Bool.and_true]
    rw [afterYear month late, afterYear (month + 1) (by omega)]
    omega

theorem daysBeforeMonth_consecutive (leap : Bool) (first second : Nat)
    (before : first < second) :
    daysBeforeMonth leap (first + 1) ≤ daysBeforeMonth leap second := by
  have monotone : Monotone (daysBeforeMonth leap) :=
    monotone_nat_of_le_succ fun month => (daysBeforeMonth_succ leap month).1
  exact monotone before

/-- The last month up to `month` which has begun. -/
def lastBegun (leap : Bool) (dayOfYear : Nat) : Nat → Nat
  | 0 => 0
  | month + 1 =>
      if daysBeforeMonth leap (month + 1) ≤ dayOfYear then month + 1
      else lastBegun leap dayOfYear month

/-- The month of a day of the year. -/
def monthOf (leap : Bool) (dayOfYear : Nat) : Nat :=
  lastBegun leap dayOfYear 12

theorem lastBegun_spec {leap : Bool} {dayOfYear month : Nat}
    (before : dayOfYear < daysBeforeMonth leap (month + 1)) :
    (daysBeforeMonth leap (lastBegun leap dayOfYear month) ≤ dayOfYear ∧
        dayOfYear < daysBeforeMonth leap (lastBegun leap dayOfYear month + 1)) ∧
      lastBegun leap dayOfYear month ≤ month := by
  induction month with
  | zero =>
      have first : daysBeforeMonth leap 0 = 0 := by cases leap <;> rfl
      refine ⟨⟨?_, before⟩, le_refl 0⟩
      rw [lastBegun, first]
      exact Nat.zero_le dayOfYear
  | succ month induction =>
      rw [lastBegun]
      split_ifs with begun
      · exact ⟨⟨begun, before⟩, le_refl _⟩
      · obtain ⟨inside, bound⟩ := induction (not_le.mp begun)
        exact ⟨inside, Nat.le_succ_of_le bound⟩

/-- A day lies in its month. -/
theorem monthOf_spec {leap : Bool} {dayOfYear : Nat}
    (inYear : (dayOfYear : Int) < yearLength leap) :
    (daysBeforeMonth leap (monthOf leap dayOfYear) ≤ dayOfYear ∧
        dayOfYear < daysBeforeMonth leap (monthOf leap dayOfYear + 1)) ∧
      monthOf leap dayOfYear ≤ 12 := by
  apply lastBegun_spec
  cases leap <;> simp [yearLength] at inYear <;>
    simp [daysBeforeMonth, commonMonths] <;> omega

/-! ## Dates -/

/-- A date of the calendar. -/
structure Date where
  year : Int
  month : Nat
  day : Nat
deriving DecidableEq, Repr

/-- The day of its year a day is. -/
def dayOfYear (days : Int) : Nat :=
  (days - daysBeforeYear (yearOf days)).toNat

/-- The date of a day. -/
def dateOf (days : Int) : Date :=
  let leap := isLeap (yearOf days)
  let month := monthOf leap (dayOfYear days)
  ⟨yearOf days, month, dayOfYear days - daysBeforeMonth leap month + 1⟩

theorem dayOfYear_spec (days : Int) :
    (dayOfYear days : Int) = days - daysBeforeYear (yearOf days) ∧
      (dayOfYear days : Int) < yearLength (isLeap (yearOf days)) := by
  have inside := yearOf_spec days
  rw [daysBeforeYear_succ] at inside
  unfold dayOfYear
  omega

/-- The fields of a date fit two digits. -/
theorem dateOf_bounds (days : Int) :
    (dateOf days).month < 100 ∧ (dateOf days).day < 100 := by
  have months := monthOf_spec (dayOfYear_spec days).2
  have short := daysBeforeMonth_succ (isLeap (yearOf days))
    (monthOf (isLeap (yearOf days)) (dayOfYear days))
  unfold dateOf
  simp only
  omega

/-- Days are ordered by year, month and day of the month. -/
theorem lt_iff_dateOf (first second : Int) :
    first < second ↔
      (dateOf first).year < (dateOf second).year ∨
        (dateOf first).year = (dateOf second).year ∧
          ((dateOf first).month < (dateOf second).month ∨
            (dateOf first).month = (dateOf second).month ∧
              (dateOf first).day < (dateOf second).day) := by
  rw [lt_iff_of_blocks daysBeforeYear (fun year => daysBeforeYear (year + 1))
    daysBeforeYear_consecutive (yearOf_spec first) (yearOf_spec second)]
  apply or_congr Iff.rfl
  apply and_congr_right
  intro sameYear
  obtain ⟨firstDay, firstInYear⟩ := dayOfYear_spec first
  obtain ⟨secondDay, secondInYear⟩ := dayOfYear_spec second
  rw [← firstDay, ← secondDay]
  unfold dateOf
  simp only [← sameYear] at secondInYear ⊢
  generalize isLeap (yearOf first) = leap at *
  have firstMonth := (monthOf_spec firstInYear).1
  have secondMonth := (monthOf_spec secondInYear).1
  rw [lt_iff_of_blocks (fun month : Nat => (daysBeforeMonth leap month : Int))
    (fun month : Nat => (daysBeforeMonth leap (month + 1) : Int))
    (fun earlier later before =>
      Int.ofNat_le.mpr (daysBeforeMonth_consecutive leap earlier later before))
    ⟨Int.ofNat_le.mpr firstMonth.1, Int.ofNat_lt.mpr firstMonth.2⟩
    ⟨Int.ofNat_le.mpr secondMonth.1, Int.ofNat_lt.mpr secondMonth.2⟩]
  apply or_congr Iff.rfl
  apply and_congr_right
  intro sameMonth
  omega

/-- Two days have one date only if they are the same. -/
theorem dateOf_injective : Function.Injective dateOf := by
  intro first second same
  have notBefore : ¬first < second := by
    rw [lt_iff_dateOf, same]
    simp
  have notAfter : ¬second < first := by
    rw [lt_iff_dateOf, same]
    simp
  omega

end DbosRelay.Library.Calendar
