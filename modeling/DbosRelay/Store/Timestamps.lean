import DbosRelay.Basic
import DbosRelay.Library.Calendar
import DbosRelay.Library.Decimals
import Mathlib.Data.Char
import Mathlib.Data.List.DropRight
import Mathlib.Data.List.Lex
import Mathlib.Data.Nat.Digits.Lemmas

/-!
# Timestamps in the SQLite store

The SQLite store keeps timestamps as text and compares them as text.  They are
written by `timestamptzToText` of `internal/store/sqlite_helpers.go`, which
drops the trailing zeros of the fraction, and by the column defaults of the
migrations, which write three digits.  The texts are ASCII, so SQLite's
comparison of their bytes is the order of lists of characters.
-/

namespace DbosRelay.Store

open DbosRelay.Basic
open DbosRelay.Library.Calendar
open DbosRelay.Library.Decimals

/-! ## The texts -/

/-- The digits of a year: as many as it has, and four at least. -/
def yearWidth (year : Nat) : Nat :=
  max 4 (Nat.digits 10 year).length

/-- The year as `appendInt` of Go's `time` package writes it. -/
def yearText (year : Int) : List Char :=
  if year < 0 then '-' :: padded (yearWidth year.natAbs) year.natAbs
  else padded (yearWidth year.natAbs) year.natAbs

/-- The days from the first of January of year one to the Unix epoch. -/
def unixEpochDays : Int := 719162

/-- The date of a second since the Unix epoch, in UTC. -/
def dateOfSecond (seconds : Int) : Date :=
  dateOf (seconds / 86400 + unixEpochDays)

/-- The hour, minute and second of a second since the Unix epoch, in UTC. -/
def clockOfSecond (seconds : Int) : Nat × Nat × Nat :=
  let secondOfDay := (seconds % 86400).toNat
  (secondOfDay / 3600, secondOfDay % 3600 / 60, secondOfDay % 60)

/-- What follows the year, up to the whole second. -/
def afterYearText (seconds : Int) : List Char :=
  let date := dateOfSecond seconds
  let clock := clockOfSecond seconds
  '-' :: padded 2 date.month ++ '-' :: padded 2 date.day ++
    'T' :: padded 2 clock.1 ++ ':' :: padded 2 clock.2.1 ++
      ':' :: padded 2 clock.2.2

/-- The text up to the whole second, which both writers share. -/
def secondText (seconds : Int) : List Char :=
  yearText (dateOfSecond seconds).year ++ afterYearText seconds

/-- The nanoseconds past the whole second. -/
def nanosecond (time : Time) : Nat := (time % second).toNat

/-- The fraction of `time.RFC3339Nano`: nine digits less the trailing zeros. -/
def trimmedFraction (nanoseconds : Nat) : List Char :=
  match (padded 9 nanoseconds).rdropWhile (· = '0') with
  | [] => []
  | digits => '.' :: digits

/-- `timestamptzToText` of a valid timestamp. -/
def timestamptzToText (time : Time) : List Char :=
  secondText (time / second) ++ trimmedFraction (nanosecond time) ++ ['Z']

/-- `strftime('%Y-%m-%dT%H:%M:%fZ', 'now')`, at a millisecond of the epoch. -/
def strftimeNow (milliseconds : Int) : List Char :=
  secondText (milliseconds / 1000) ++
    '.' :: padded 3 (milliseconds % 1000).toNat ++ ['Z']

/-! ## Stamps and the comparisons of the queries -/

/--
A timestamp in a column or bound to a parameter, by its writer.  The defaults
write the current time, which SQLite has for the years 0 to 9999 only.
-/
inductive Stamp where
  | encoded (time : Time)
  | defaulted (milliseconds : Int)
      (year : 0 ≤ (dateOfSecond (milliseconds / 1000)).year ∧
        (dateOfSecond (milliseconds / 1000)).year ≤ 9999)

/-- The instant a stamp stands for. -/
def Stamp.time : Stamp → Time
  | .encoded time => time
  | .defaulted milliseconds _ => milliseconds * 1000000

/-- The stored text. -/
def Stamp.text : Stamp → List Char
  | .encoded time => timestamptzToText time
  | .defaulted milliseconds _ => strftimeNow milliseconds

/-- The range conditions of the queries over timestamps, by their query. -/
inductive RangeQuery where
  | listHealthyInstances
  | deleteStaleInstances
  | reapExpiredExecutors
  | adoptExpiredExecutors
  | listAuditLogsFromStart
  | listAuditLogsToEnd
  | deleteExpiredAuditLogs
  | countRecentRecoveryDispatches
  | listRecentRecoveryDispatches
deriving DecidableEq, Repr

/-- The condition between the column and the bound of the query. -/
def RangeQuery.selects {Value : Type*} [LT Value] [LE Value]
    (query : RangeQuery) (column bound : Value) : Prop :=
  match query with
  | .listHealthyInstances => bound < column
  | .deleteStaleInstances => column < bound
  | .reapExpiredExecutors => column < bound
  | .adoptExpiredExecutors => column < bound
  | .listAuditLogsFromStart => bound ≤ column
  | .listAuditLogsToEnd => column ≤ bound
  | .deleteExpiredAuditLogs => column < bound
  | .countRecentRecoveryDispatches => bound ≤ column
  | .listRecentRecoveryDispatches => bound ≤ column

/--
The comparisons of two stamps as text are those of their times: the range
conditions, whichever of the two is the bound, and the order of `ORDER BY`.
-/
structure Chronological (first second : Stamp) : Prop where
  selects : ∀ query : RangeQuery,
    query.selects first.text second.text ↔
      query.selects first.time second.time
  selectsBack : ∀ query : RangeQuery,
    query.selects second.text first.text ↔
      query.selects second.time first.time
  orders : first.text < second.text ↔ first.time < second.time
  ordersBack : second.text < first.text ↔ second.time < first.time
  ties : first.text = second.text ↔ first.time = second.time

/-! ## Fractions -/

/-- The digits of a fraction which are left without its trailing zeros. -/
def significant : Nat → Nat → Nat
  | 0, _ => 0
  | width + 1, number =>
      if number % 10 = 0 then significant width (number / 10) else width + 1

/-- A fraction of `precision` digits, and nothing for no digits. -/
def fractionText (precision nanoseconds : Nat) : List Char :=
  if precision = 0 then []
  else '.' :: padded precision (nanoseconds / 10 ^ (9 - precision))

theorem significant_le (width number : Nat) :
    significant width number ≤ width := by
  induction width generalizing number with
  | zero => exact le_refl 0
  | succ width induction =>
      rw [significant]
      split_ifs
      · exact Nat.le_succ_of_le (induction _)
      · exact le_refl _

theorem dvd_of_significant (width number : Nat) (fits : number < 10 ^ width) :
    10 ^ (width - significant width number) ∣ number := by
  induction width generalizing number with
  | zero => exact one_dvd number
  | succ width induction =>
      rw [significant]
      split_ifs with zero
      · have shorter : number / 10 < 10 ^ width := by
          rw [Nat.div_lt_iff_lt_mul (by decide)]
          rwa [Nat.pow_succ] at fits
        obtain ⟨quotient, same⟩ := induction _ shorter
        refine ⟨quotient, ?_⟩
        have exponent : width + 1 - significant width (number / 10) =
            width - significant width (number / 10) + 1 := by
          have := significant_le width (number / 10)
          omega
        rw [exponent, Nat.pow_succ, Nat.mul_right_comm, ← same,
          Nat.div_mul_cancel (Nat.dvd_of_mod_eq_zero zero)]
      · rw [Nat.sub_self]
        exact one_dvd number

theorem rdropWhile_padded (width number : Nat) (fits : number < 10 ^ width) :
    (padded width number).rdropWhile (· = '0') =
      padded (significant width number)
        (number / 10 ^ (width - significant width number)) := by
  induction width generalizing number with
  | zero => rfl
  | succ width induction =>
      have shorter : number / 10 < 10 ^ width := by
        rw [Nat.div_lt_iff_lt_mul (by decide)]
        rwa [Nat.pow_succ] at fits
      have last : padded 1 (number % 10) = [Nat.digitChar (number % 10)] := by
        rw [padded, padded, Nat.pow_zero, Nat.div_one]
      have isZero : ∀ digit < 10,
          decide (Nat.digitChar digit = '0') = decide (digit = 0) := by
        decide
      rw [padded_add width 1 fits, Nat.pow_one, last, List.rdropWhile_concat,
        isZero _ (Nat.mod_lt _ (by decide)), significant]
      simp only [decide_eq_true_eq]
      split_ifs with zero
      · have exponent : width + 1 - significant width (number / 10) =
            1 + (width - significant width (number / 10)) := by
          have := significant_le width (number / 10)
          omega
        rw [induction _ shorter, exponent, Nat.pow_add, Nat.pow_one,
          Nat.div_div_eq_div_mul]
      · rw [Nat.sub_self, Nat.pow_zero, Nat.div_one, padded_add width 1 fits,
          Nat.pow_one, last]

theorem trimmedFraction_eq {nanoseconds : Nat} (fits : nanoseconds < 10 ^ 9) :
    trimmedFraction nanoseconds =
      fractionText (significant 9 nanoseconds) nanoseconds := by
  rw [trimmedFraction, rdropWhile_padded 9 nanoseconds fits, fractionText]
  cases significant 9 nanoseconds with
  | zero => rfl
  | succ precision => rfl

/-- The end of the text is larger than any further digits, then the end. -/
theorem padded_lt_end {extra number : Nat} (fits : number < 10 ^ extra) :
    ¬['Z'] < padded extra number ++ ['Z'] ∧
      (padded extra number ++ ['Z'] < ['Z'] ↔ 0 < extra) := by
  cases extra with
  | zero => simp [padded]
  | succ extra =>
      have digit : number / 10 ^ extra < 10 := by
        rwa [Nat.div_lt_iff_lt_mul (Nat.pow_pos (by decide)), Nat.mul_comm,
          ← Nat.pow_succ]
      have larger := (digitChar_bounds _ digit).2
      rw [padded, List.cons_append, List.cons_lt_cons_iff,
        List.cons_lt_cons_iff]
      refine ⟨?_, iff_of_true (Or.inl larger) (Nat.succ_pos extra)⟩
      rintro (smaller | ⟨same, -⟩)
      · exact lt_asymm smaller larger
      · exact (ne_of_lt larger) same.symm

/--
Two fractions of nanoseconds with at least as many digits in the second: they
compare by the digits both have, and on a tie the shorter text is the larger.
-/
theorem fractionText_lt {first second precision extra : Nat}
    (firstFits : first < 10 ^ 9) (secondFits : second < 10 ^ 9)
    (short : precision + extra ≤ 9) :
    (fractionText precision first ++ ['Z'] <
        fractionText (precision + extra) second ++ ['Z'] ↔
      first / 10 ^ (9 - precision) < second / 10 ^ (9 - precision)) ∧
    (fractionText (precision + extra) second ++ ['Z'] <
        fractionText precision first ++ ['Z'] ↔
      second / 10 ^ (9 - precision) < first / 10 ^ (9 - precision) ∨
        second / 10 ^ (9 - precision) = first / 10 ^ (9 - precision) ∧
          0 < extra) := by
  have leading : ∀ {number digits : Nat}, digits ≤ 9 → number < 10 ^ 9 →
      number / 10 ^ (9 - digits) < 10 ^ digits := by
    intro number digits few fits
    rwa [Nat.div_lt_iff_lt_mul (Nat.pow_pos (by decide)), ← Nat.pow_add,
      Nat.add_sub_cancel' few]
  cases precision with
  | zero =>
      have firstZero : first / 10 ^ (9 - 0) = 0 := Nat.div_eq_of_lt firstFits
      have secondZero : second / 10 ^ (9 - 0) = 0 := Nat.div_eq_of_lt secondFits
      have larger : '.' < 'Z' := by decide
      rw [firstZero, secondZero, Nat.zero_add]
      cases extra with
      | zero => simp [fractionText]
      | succ extra =>
          rw [fractionText, if_pos rfl, fractionText,
            if_neg (Nat.succ_ne_zero extra), List.nil_append, List.cons_append,
            List.cons_lt_cons_iff, List.cons_lt_cons_iff]
          refine ⟨iff_of_false ?_ (lt_irrefl 0),
            iff_of_true (Or.inl larger) (Or.inr ⟨rfl, Nat.succ_pos extra⟩)⟩
          rintro (smaller | ⟨same, -⟩)
          · exact lt_asymm smaller larger
          · exact (ne_of_lt larger) same.symm
  | succ precision =>
      have firstLeading := leading (by omega : precision + 1 ≤ 9) firstFits
      have secondLeading := leading short secondFits
      have quotient : second / 10 ^ (9 - (precision + 1 + extra)) / 10 ^ extra =
          second / 10 ^ (9 - (precision + 1)) := by
        have exponent : 9 - (precision + 1) =
            9 - (precision + 1 + extra) + extra := by omega
        rw [Nat.div_div_eq_div_mul, ← Nat.pow_add, exponent]
      obtain ⟨notBefore, before⟩ := padded_lt_end
        (Nat.mod_lt (second / 10 ^ (9 - (precision + 1 + extra)))
          (Nat.pow_pos (by decide) : 0 < 10 ^ extra))
      have moreDigits : precision + 1 + extra ≠ 0 := by omega
      rw [fractionText, if_neg (Nat.succ_ne_zero precision), fractionText,
        if_neg moreDigits, List.cons_append, List.cons_append,
        List.cons_lt_cons_iff, List.cons_lt_cons_iff,
        padded_append_lt_longer firstLeading secondLeading,
        padded_longer_append_lt secondLeading firstLeading, quotient, before]
      have irreflexive : ¬ ('.' < '.') := lt_irrefl _
      constructor
      · grind
      · grind

/-! ## Whole seconds -/

theorem clockOfSecond_bounds (seconds : Int) :
    (clockOfSecond seconds).1 < 100 ∧ (clockOfSecond seconds).2.1 < 100 ∧
      (clockOfSecond seconds).2.2 < 100 := by
  unfold clockOfSecond
  simp only
  omega

theorem clockOfSecond_lt (first second : Int) :
    first % 86400 < second % 86400 ↔
      (clockOfSecond first).1 < (clockOfSecond second).1 ∨
        (clockOfSecond first).1 = (clockOfSecond second).1 ∧
          ((clockOfSecond first).2.1 < (clockOfSecond second).2.1 ∨
            (clockOfSecond first).2.1 = (clockOfSecond second).2.1 ∧
              (clockOfSecond first).2.2 < (clockOfSecond second).2.2) := by
  unfold clockOfSecond
  simp only
  omega

theorem clockOfSecond_eq (first second : Int) :
    first % 86400 = second % 86400 ↔
      (clockOfSecond first).1 = (clockOfSecond second).1 ∧
        (clockOfSecond first).2.1 = (clockOfSecond second).2.1 ∧
          (clockOfSecond first).2.2 = (clockOfSecond second).2.2 := by
  unfold clockOfSecond
  simp only
  omega

theorem dateOfSecond_lt {first second : Int}
    (sameYear : (dateOfSecond first).year = (dateOfSecond second).year) :
    first / 86400 < second / 86400 ↔
      (dateOfSecond first).month < (dateOfSecond second).month ∨
        (dateOfSecond first).month = (dateOfSecond second).month ∧
          (dateOfSecond first).day < (dateOfSecond second).day := by
  have days := lt_iff_dateOf (first / 86400 + unixEpochDays)
    (second / 86400 + unixEpochDays)
  unfold dateOfSecond at sameYear ⊢
  rw [sameYear] at days
  simp only [lt_irrefl, true_and, false_or, add_lt_add_iff_right] at days
  exact days

theorem dateOfSecond_eq {first second : Int}
    (sameYear : (dateOfSecond first).year = (dateOfSecond second).year) :
    first / 86400 = second / 86400 ↔
      (dateOfSecond first).month = (dateOfSecond second).month ∧
        (dateOfSecond first).day = (dateOfSecond second).day := by
  constructor
  · intro same
    unfold dateOfSecond
    rw [same]
    exact ⟨rfl, rfl⟩
  · rintro ⟨sameMonth, sameDay⟩
    have same : dateOfSecond first = dateOfSecond second := by
      cases firstDate : dateOfSecond first
      cases secondDate : dateOfSecond second
      rw [firstDate, secondDate] at sameYear sameMonth sameDay
      simp only at sameYear sameMonth sameDay
      rw [sameYear, sameMonth, sameDay]
    have days := dateOf_injective same
    omega

/-- Within a year the texts compare as the seconds do. -/
theorem afterYearText_lt {first second : Int}
    (sameYear : (dateOfSecond first).year = (dateOfSecond second).year)
    (rest other : List Char) :
    afterYearText first ++ rest < afterYearText second ++ other ↔
      first < second ∨ first = second ∧ rest < other := by
  have firstDate := dateOf_bounds (first / 86400 + unixEpochDays)
  have secondDate := dateOf_bounds (second / 86400 + unixEpochDays)
  have firstClock := clockOfSecond_bounds first
  have secondClock := clockOfSecond_bounds second
  have irreflexive : ∀ letter : Char, ¬letter < letter := lt_irrefl
  have days := dateOfSecond_lt sameYear
  have sameDays := dateOfSecond_eq sameYear
  have clocks := clockOfSecond_lt first second
  have sameClocks := clockOfSecond_eq first second
  unfold afterYearText
  simp only [List.cons_append, List.append_assoc, List.cons_lt_cons_iff,
    irreflexive, false_or, true_and]
  rw [padded_append_lt firstDate.1 secondDate.1, List.cons_lt_cons_iff,
    padded_append_lt firstDate.2 secondDate.2, List.cons_lt_cons_iff,
    padded_append_lt firstClock.1 secondClock.1, List.cons_lt_cons_iff,
    padded_append_lt firstClock.2.1 secondClock.2.1, List.cons_lt_cons_iff,
    padded_append_lt firstClock.2.2 secondClock.2.2]
  simp only [irreflexive, false_or, true_and]
  have split : first < second ↔ first / 86400 < second / 86400 ∨
      first / 86400 = second / 86400 ∧ first % 86400 < second % 86400 := by
    omega
  have splitEq : first = second ↔ first / 86400 = second / 86400 ∧
      first % 86400 = second % 86400 := by
    omega
  rw [split, splitEq, days, sameDays, clocks, sameClocks]
  simp only [and_or_left, and_assoc, or_assoc]

/-! ## Years -/

theorem lt_pow_yearWidth (year : Nat) : year < 10 ^ yearWidth year :=
  lt_of_lt_of_le (Nat.lt_base_pow_length_digits (by decide))
    (Nat.pow_le_pow_right (by decide) (le_max_right _ _))

theorem yearWidth_monotone : Monotone yearWidth := by
  intro first second notAfter
  exact max_le_max (le_refl 4) (Nat.le_length_digits_le 10 first second notAfter)

/--
The text of the first year precedes that of the later second one.  Years which
are not negative are compared by the digits both have, and with a minus sign
the order is the other way round.
-/
def YearsInOrder (first second : Int) : Prop :=
  if second < 0 then
    first.natAbs / 10 ^ (yearWidth first.natAbs - yearWidth second.natAbs) <
      second.natAbs
  else if first < 0 then True
  else first.natAbs ≤
    second.natAbs / 10 ^ (yearWidth second.natAbs - yearWidth first.natAbs)

/-- Years of four digits are in order. -/
theorem yearsInOrder_of_fourDigits {first second : Int} (notNegative : 0 ≤ first)
    (before : first ≤ second) (fourDigits : second ≤ 9999) :
    YearsInOrder first second := by
  have width : ∀ year : Int, 0 ≤ year → year ≤ 9999 →
      yearWidth year.natAbs = 4 := by
    intro year notNegative fourDigits
    have fits : year.natAbs < 10 ^ 4 := by omega
    rw [yearWidth, max_eq_left]
    exact (Nat.digits_length_le_iff (by decide) year.natAbs).mpr fits
  have firstDigits := width first notNegative (by omega)
  have secondDigits := width second (by omega) fourDigits
  rw [YearsInOrder, if_neg (by omega), if_neg (by omega), firstDigits,
    secondDigits, Nat.sub_self, Nat.pow_zero, Nat.div_one]
  omega

/-- Two different numbers with a minus sign after them. -/
theorem yearDigits_lt {first second : Nat} (different : first ≠ second)
    (shorter : yearWidth first ≤ yearWidth second) (rest other : List Char) :
    (padded (yearWidth first) first ++ '-' :: rest <
        padded (yearWidth second) second ++ '-' :: other ↔
      first ≤ second / 10 ^ (yearWidth second - yearWidth first)) ∧
    (padded (yearWidth second) second ++ '-' :: other <
        padded (yearWidth first) first ++ '-' :: rest ↔
      ¬first ≤ second / 10 ^ (yearWidth second - yearWidth first)) := by
  obtain ⟨extra, width⟩ := Nat.exists_eq_add_of_le shorter
  have firstFits := lt_pow_yearWidth first
  have secondFits := lt_pow_yearWidth second
  rw [width] at secondFits ⊢
  rw [Nat.add_sub_cancel_left, padded_append_lt_longer firstFits secondFits,
    padded_longer_append_lt secondFits firstFits]
  cases extra with
  | zero =>
      rw [Nat.pow_zero, Nat.div_one]
      constructor
      · constructor
        · rintro (less | ⟨same, -⟩)
          · exact le_of_lt less
          · exact (different same).elim
        · intro notGreater
          exact Or.inl (lt_of_le_of_ne notGreater different)
      · constructor
        · rintro (less | ⟨same, -⟩)
          · exact not_le.mpr less
          · exact (different same.symm).elim
        · intro greater
          exact Or.inl (not_le.mp greater)
  | succ extra =>
      -- The digit after the leading ones is larger than the minus sign.
      have digit : second % 10 ^ (extra + 1) / 10 ^ extra < 10 := by
        rw [Nat.div_lt_iff_lt_mul (Nat.pow_pos (by decide)), Nat.mul_comm,
          ← Nat.pow_succ]
        exact Nat.mod_lt _ (Nat.pow_pos (by decide))
      have larger := (digitChar_bounds _ digit).1
      rw [padded, List.cons_append, List.cons_lt_cons_iff,
        List.cons_lt_cons_iff]
      have notSmaller := lt_asymm larger
      have distinct := ne_of_lt larger
      constructor
      · rw [le_iff_lt_or_eq]
        grind
      · rw [not_le]
        have distinctBack := distinct.symm
        grind

/-- Different years decide the comparison. -/
theorem yearText_lt {first second : Int} (before : first < second)
    (rest other : List Char) :
    (yearText first ++ '-' :: rest < yearText second ++ '-' :: other ↔
      YearsInOrder first second) ∧
    (yearText second ++ '-' :: other < yearText first ++ '-' :: rest ↔
      ¬YearsInOrder first second) := by
  have irreflexive : ¬ ('-' < '-') := lt_irrefl _
  unfold YearsInOrder yearText
  by_cases secondNegative : second < 0
  · have firstNegative : first < 0 := by omega
    have larger : second.natAbs < first.natAbs := by omega
    have digits := yearDigits_lt (ne_of_lt larger)
      (yearWidth_monotone (le_of_lt larger)) other rest
    simp only [if_pos secondNegative, if_pos firstNegative, List.cons_append,
      List.cons_lt_cons_iff, irreflexive, false_or, true_and]
    rw [digits.1, digits.2, not_le, not_lt]
    exact ⟨Iff.rfl, Iff.rfl⟩
  · rw [if_neg secondNegative, if_neg secondNegative]
    by_cases firstNegative : first < 0
    · -- The minus sign is smaller than the first digit.
      have fits := lt_pow_yearWidth second.natAbs
      obtain ⟨width, widthEq⟩ : ∃ width, yearWidth second.natAbs = width + 1 :=
        ⟨yearWidth second.natAbs - 1, by
          have : 4 ≤ yearWidth second.natAbs := le_max_left _ _
          omega⟩
      rw [widthEq, Nat.pow_succ, Nat.mul_comm] at fits
      have smaller := (digitChar_bounds _
        ((Nat.div_lt_iff_lt_mul (Nat.pow_pos (by decide))).mpr fits)).1
      rw [if_pos firstNegative, if_pos firstNegative, widthEq, padded,
        List.cons_append, List.cons_append, List.cons_lt_cons_iff,
        List.cons_lt_cons_iff]
      refine ⟨iff_of_true (Or.inl smaller) trivial, iff_of_false ?_ ?_⟩
      · rintro (larger | ⟨same, -⟩)
        · exact lt_asymm larger smaller
        · exact (ne_of_lt smaller) same.symm
      · exact fun negation => negation trivial
    · have larger : first.natAbs < second.natAbs := by omega
      rw [if_neg firstNegative, if_neg firstNegative]
      exact yearDigits_lt (ne_of_lt larger)
        (yearWidth_monotone (le_of_lt larger)) rest other

/-! ## The whole text -/

/-- The digits of the fraction a stamp is written with. -/
def Stamp.precision : Stamp → Nat
  | .encoded time => significant 9 (nanosecond time)
  | .defaulted _ _ => 3

/-- The year of a stamp, in UTC. -/
def Stamp.year (stamp : Stamp) : Int :=
  (dateOfSecond (stamp.time / second)).year

theorem nanosecond_lt (time : Time) : nanosecond time < 10 ^ 9 := by
  unfold nanosecond second
  omega

theorem Stamp.text_eq (stamp : Stamp) :
    stamp.text =
      secondText (stamp.time / second) ++
        fractionText stamp.precision (nanosecond stamp.time) ++ ['Z'] := by
  cases stamp with
  | encoded time =>
      show secondText (time / second) ++ trimmedFraction (nanosecond time) ++ _ = _
      rw [trimmedFraction_eq (nanosecond_lt time)]
      rfl
  | defaulted milliseconds year =>
      have seconds : milliseconds * 1000000 / second = milliseconds / 1000 := by
        unfold second
        omega
      have fraction : nanosecond (milliseconds * 1000000) / 10 ^ (9 - 3) =
          (milliseconds % 1000).toNat := by
        unfold nanosecond second
        omega
      show strftimeNow milliseconds = secondText (milliseconds * 1000000 / second) ++
        fractionText 3 (nanosecond (milliseconds * 1000000)) ++ ['Z']
      rw [seconds, fractionText, if_neg (by decide), fraction, strftimeNow]

theorem Stamp.precision_le (stamp : Stamp) : stamp.precision ≤ 9 := by
  cases stamp with
  | encoded time => exact significant_le 9 _
  | defaulted milliseconds year => exact Nat.le_of_ble_eq_true rfl

/-- A stamp is written with as many digits as its time has. -/
theorem Stamp.exact (stamp : Stamp) :
    10 ^ (9 - stamp.precision) ∣ nanosecond stamp.time := by
  cases stamp with
  | encoded time => exact dvd_of_significant 9 _ (nanosecond_lt time)
  | defaulted milliseconds year =>
      refine ⟨(milliseconds % 1000).toNat, ?_⟩
      show nanosecond (milliseconds * 1000000) = _
      unfold nanosecond second
      show _ = 10 ^ 6 * _
      omega

/--
Two numbers of nanoseconds with the digits they are written with: comparing the
common digits, the shorter one last on a tie, is comparing the numbers unless
the shorter one begins the longer one.
-/
theorem fractions_agree_iff {first second precision extra : Nat}
    (firstExact : 10 ^ (9 - precision) ∣ first)
    (secondExact : 10 ^ (9 - (precision + extra)) ∣ second)
    (short : precision + extra ≤ 9) :
    ((first / 10 ^ (9 - precision) < second / 10 ^ (9 - precision) ↔
        first < second) ∧
      (second / 10 ^ (9 - precision) < first / 10 ^ (9 - precision) ∨
          second / 10 ^ (9 - precision) = first / 10 ^ (9 - precision) ∧
            0 < extra ↔
        second < first)) ↔
      (first / 10 ^ (9 - precision) = second / 10 ^ (9 - precision) →
        precision = precision + extra) := by
  have positive : 0 < 10 ^ (9 - precision) := Nat.pow_pos (by decide)
  have firstParts := Nat.div_mul_cancel firstExact
  have secondParts := Nat.div_mul_le_self second (10 ^ (9 - precision))
  have back := lt_iff_div_mod positive second first
  have forth := lt_iff_div_mod positive first second
  rw [Nat.mod_eq_zero_of_dvd firstExact] at forth back
  by_cases tie : first / 10 ^ (9 - precision) = second / 10 ^ (9 - precision)
  · have notGreater : ¬second < first := by
      rw [tie] at firstParts
      omega
    simp only [tie, lt_irrefl, true_and, false_or, forall_const] at forth ⊢
    constructor
    · rintro ⟨-, none⟩
      by_contra longer
      exact notGreater (none.mp (by omega))
    · intro same
      have none : extra = 0 := by omega
      subst none
      have equal : first = second := by
        rw [← firstParts, tie]
        exact Nat.div_mul_cancel secondExact
      subst equal
      simp
  · simp only [tie, IsEmpty.forall_iff, iff_true]
    have tieBack := Ne.symm tie
    rw [forth, back]
    grind

/-- The order of two texts is the order of the times, both ways. -/
def OrdersByTime (first second : Stamp) : Prop :=
  (first.text < second.text ↔ first.time < second.time) ∧
    (second.text < first.text ↔ second.time < first.time)

theorem ordersByTime_comm {first second : Stamp} :
    OrdersByTime first second ↔ OrdersByTime second first :=
  and_comm

/-- A common beginning does not matter. -/
theorem append_lt_append_left (start rest other : List Char) :
    start ++ rest < start ++ other ↔ rest < other := by
  induction start with
  | nil => rfl
  | cons letter start induction =>
      rw [List.cons_append, List.cons_append, List.cons_lt_cons_iff, induction]
      exact ⟨fun either => (either.resolve_left (lt_irrefl letter)).2,
        fun less => Or.inr ⟨rfl, less⟩⟩

theorem secondText_lt {first second : Int}
    (sameYear : (dateOfSecond first).year = (dateOfSecond second).year)
    (rest other : List Char) :
    secondText first ++ rest < secondText second ++ other ↔
      first < second ∨ first = second ∧ rest < other := by
  rw [secondText, secondText, sameYear, List.append_assoc, List.append_assoc,
    append_lt_append_left, afterYearText_lt sameYear]

/-- Times are ordered by the second, then by the nanosecond. -/
theorem time_lt_iff (first second : Int) :
    first < second ↔
      first / Basic.second < second / Basic.second ∨
        first / Basic.second = second / Basic.second ∧
          nanosecond first < nanosecond second := by
  unfold nanosecond Basic.second
  omega

theorem Stamp.time_lt_of_year {first second : Stamp}
    (before : first.year < second.year) : first.time < second.time := by
  have days := (lt_iff_dateOf (first.time / Basic.second / 86400 + unixEpochDays)
    (second.time / Basic.second / 86400 + unixEpochDays)).mpr (Or.inl before)
  refine (time_lt_iff first.time second.time).mpr (Or.inl ?_)
  omega

/-- In different years only the texts of the years matter. -/
theorem ordersByTime_of_years {first second : Stamp}
    (before : first.year < second.year) :
    OrdersByTime first second ↔ YearsInOrder first.year second.year := by
  have earlier := Stamp.time_lt_of_year before
  have notLater := not_lt_of_gt earlier
  have starts : ∀ stamp : Stamp, ∃ rest,
      stamp.text = yearText stamp.year ++ '-' :: rest := by
    intro stamp
    rw [stamp.text_eq, secondText, afterYearText]
    simp only [List.cons_append, List.append_assoc]
    exact ⟨_, rfl⟩
  obtain ⟨firstRest, firstText⟩ := starts first
  obtain ⟨secondRest, secondText⟩ := starts second
  obtain ⟨texts, textsBack⟩ := yearText_lt before firstRest secondRest
  rw [OrdersByTime, firstText, secondText, texts, textsBack]
  grind

/-- In one year the texts of different seconds are in order. -/
theorem ordersByTime_of_seconds {first second : Stamp}
    (sameYear : first.year = second.year)
    (different : first.time / Basic.second ≠ second.time / Basic.second) :
    OrdersByTime first second := by
  rw [OrdersByTime, first.text_eq, second.text_eq, List.append_assoc,
    List.append_assoc, secondText_lt sameYear, secondText_lt sameYear.symm,
    time_lt_iff first.time, time_lt_iff second.time]
  have differentBack := different.symm
  grind

/-- In one second the fractions decide. -/
theorem ordersByTime_of_second {first second : Stamp}
    (sameSecond : first.time / Basic.second = second.time / Basic.second)
    (shorter : first.precision ≤ second.precision) :
    OrdersByTime first second ↔
      (nanosecond first.time / 10 ^ (9 - first.precision) =
          nanosecond second.time / 10 ^ (9 - first.precision) →
        first.precision = second.precision) := by
  obtain ⟨extra, precision⟩ := Nat.exists_eq_add_of_le shorter
  have short : first.precision + extra ≤ 9 := by
    rw [← precision]
    exact second.precision_le
  obtain ⟨texts, textsBack⟩ := fractionText_lt (nanosecond_lt first.time)
    (nanosecond_lt second.time) short
  rw [OrdersByTime, time_lt_iff first.time, time_lt_iff second.time,
    first.text_eq, second.text_eq, sameSecond, List.append_assoc,
    List.append_assoc, append_lt_append_left, append_lt_append_left, precision,
    texts, textsBack]
  simp only [lt_irrefl, false_or, true_and]
  exact fractions_agree_iff first.exact (precision ▸ second.exact) short

/--
The years of the two times do not collide with the width of their texts, and
the fractions of two times of one second are not one the beginning of the
other.
-/
structure WrittenInOrder (first second : Stamp) : Prop where
  years : first.year ≠ second.year →
    YearsInOrder (min first.year second.year) (max first.year second.year)
  fractions : first.time / Basic.second = second.time / Basic.second →
    nanosecond first.time / 10 ^ (9 - min first.precision second.precision) =
        nanosecond second.time /
          10 ^ (9 - min first.precision second.precision) →
      first.precision = second.precision

theorem WrittenInOrder.symm {first second : Stamp}
    (inOrder : WrittenInOrder first second) : WrittenInOrder second first where
  years := by
    intro different
    rw [min_comm, max_comm]
    exact inOrder.years different.symm
  fractions := by
    intro sameSecond samePart
    rw [min_comm] at samePart
    exact (inOrder.fractions sameSecond.symm samePart.symm).symm

theorem writtenInOrder_comm {first second : Stamp} :
    WrittenInOrder first second ↔ WrittenInOrder second first :=
  ⟨WrittenInOrder.symm, WrittenInOrder.symm⟩

theorem ordersByTime_iff_of_year_lt {first second : Stamp}
    (before : first.year < second.year) :
    OrdersByTime first second ↔ WrittenInOrder first second := by
  rw [ordersByTime_of_years before]
  have bounds := le_of_lt before
  constructor
  · intro inOrder
    refine ⟨fun _ => ?_, fun sameSecond => ?_⟩
    · rwa [min_eq_left bounds, max_eq_right bounds]
    · have sameYear : first.year = second.year := by
        rw [Stamp.year, sameSecond, ← Stamp.year]
      exact ((ne_of_lt before) sameYear).elim
  · intro written
    have inOrder := written.years (ne_of_lt before)
    rwa [min_eq_left bounds, max_eq_right bounds] at inOrder

theorem ordersByTime_iff_of_second {first second : Stamp}
    (sameSecond : first.time / Basic.second = second.time / Basic.second)
    (shorter : first.precision ≤ second.precision) :
    OrdersByTime first second ↔ WrittenInOrder first second := by
  rw [ordersByTime_of_second sameSecond shorter]
  constructor
  · intro fractions
    refine ⟨fun different => ?_, fun _ => ?_⟩
    · have sameYear : first.year = second.year := by
        rw [Stamp.year, sameSecond, ← Stamp.year]
      exact (different sameYear).elim
    · rwa [min_eq_left shorter]
  · intro written
    have fractions := written.fractions sameSecond
    rwa [min_eq_left shorter] at fractions

theorem ordersByTime_iff (first second : Stamp) :
    OrdersByTime first second ↔ WrittenInOrder first second := by
  rcases lt_trichotomy first.year second.year with before | sameYear | after
  · exact ordersByTime_iff_of_year_lt before
  · by_cases sameSecond :
        first.time / Basic.second = second.time / Basic.second
    · rcases le_total first.precision second.precision with shorter | longer
      · exact ordersByTime_iff_of_second sameSecond shorter
      · rw [ordersByTime_comm, writtenInOrder_comm]
        exact ordersByTime_iff_of_second sameSecond.symm longer
    · refine iff_of_true (ordersByTime_of_seconds sameYear sameSecond) ?_
      exact ⟨fun different => (different sameYear).elim,
        fun same => (sameSecond same).elim⟩
  · rw [ordersByTime_comm, writtenInOrder_comm]
    exact ordersByTime_iff_of_year_lt after

/-- The order settles every condition of the queries. -/
theorem chronological_of_ordersByTime {first second : Stamp}
    (orders : OrdersByTime first second) : Chronological first second := by
  obtain ⟨forth, back⟩ := orders
  have atMost : first.text ≤ second.text ↔ first.time ≤ second.time := by
    rw [← not_lt, ← not_lt, back]
  have atLeast : second.text ≤ first.text ↔ second.time ≤ first.time := by
    rw [← not_lt, ← not_lt, forth]
  refine ⟨fun query => ?_, fun query => ?_, forth, back, ?_⟩
  · cases query <;> simp only [RangeQuery.selects] <;> assumption
  · cases query <;> simp only [RangeQuery.selects] <;> assumption
  · rw [le_antisymm_iff, atMost, atLeast, ← le_antisymm_iff]

/--
The comparisons SQLite makes of two timestamps are those of their times exactly
if they are written in order.
-/
theorem chronological_iff_writtenInOrder (first second : Stamp) :
    Chronological first second ↔ WrittenInOrder first second := by
  rw [← ordersByTime_iff]
  constructor
  · intro chronological
    exact ⟨chronological.orders, chronological.ordersBack⟩
  · exact chronological_of_ordersByTime

/-- Half a second past a whole second is written before that second. -/
theorem halfSecond_notChronological :
    ¬Chronological (.encoded 0) (.encoded 500000000) := by
  intro chronological
  have before := chronological.orders.mpr (by decide)
  revert before
  decide

end DbosRelay.Store
