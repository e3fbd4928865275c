import Mathlib.Data.List.Basic
import Mathlib.Data.Nat.Digits.Defs
import Mathlib.Order.Lattice

/-!
# Decimal texts and their order

Numbers written with a fixed number of decimal digits.  The order of the texts
is the order of the numbers as long as both have the same number of digits;
with different numbers of digits the leading ones decide.
-/

namespace DbosRelay.Library.Decimals

/-- The last `width` decimal digits of a number, zeros included. -/
def padded : Nat → Nat → List Char
  | 0, _ => []
  | width + 1, number =>
      Nat.digitChar (number / 10 ^ width) :: padded width (number % 10 ^ width)

theorem digitChar_lt_iff :
    ∀ first < 10, ∀ second < 10,
      (Nat.digitChar first < Nat.digitChar second ↔ first < second) := by
  decide

theorem digitChar_eq_iff :
    ∀ first < 10, ∀ second < 10,
      (Nat.digitChar first = Nat.digitChar second ↔ first = second) := by
  decide

/-- The minus sign is smaller than every digit, and `Z` is larger. -/
theorem digitChar_bounds :
    ∀ digit < 10, '-' < Nat.digitChar digit ∧ Nat.digitChar digit < 'Z' := by
  decide

/-- A number is its quotient and its remainder, the quotient first. -/
theorem lt_iff_div_mod {divisor : Nat} (positive : 0 < divisor)
    (first second : Nat) :
    first < second ↔
      first / divisor < second / divisor ∨
        first / divisor = second / divisor ∧
          first % divisor < second % divisor := by
  have firstParts := Nat.div_add_mod first divisor
  have secondParts := Nat.div_add_mod second divisor
  have firstRest := Nat.mod_lt first positive
  have secondRest := Nat.mod_lt second positive
  constructor
  · intro before
    rcases Nat.lt_or_ge (first / divisor) (second / divisor) with less | notLess
    · exact Or.inl less
    · have same : first / divisor = second / divisor :=
        le_antisymm (Nat.div_le_div_right (le_of_lt before)) notLess
      refine Or.inr ⟨same, ?_⟩
      rw [same] at firstParts
      omega
  · rintro (less | ⟨same, less⟩)
    · exact Nat.lt_of_div_lt_div less
    · rw [same] at firstParts
      omega

theorem eq_iff_div_mod (divisor first second : Nat) :
    first = second ↔
      first / divisor = second / divisor ∧
        first % divisor = second % divisor := by
  constructor
  · rintro rfl
    exact ⟨rfl, rfl⟩
  · rintro ⟨quotients, rests⟩
    rw [← Nat.div_add_mod first divisor, quotients, rests, Nat.div_add_mod]

/-- With equally many digits the numbers decide, and then what follows. -/
theorem padded_append_lt {width first second : Nat}
    (firstFits : first < 10 ^ width) (secondFits : second < 10 ^ width)
    (rest other : List Char) :
    padded width first ++ rest < padded width second ++ other ↔
      first < second ∨ first = second ∧ rest < other := by
  induction width generalizing first second with
  | zero =>
      have firstZero : first = 0 := by simpa using firstFits
      have secondZero : second = 0 := by simpa using secondFits
      simp [padded, firstZero, secondZero]
  | succ width induction =>
      have positive : 0 < 10 ^ width := Nat.pow_pos (by decide)
      have firstDigit : first / 10 ^ width < 10 := by
        rwa [Nat.div_lt_iff_lt_mul positive, Nat.mul_comm, ← Nat.pow_succ]
      have secondDigit : second / 10 ^ width < 10 := by
        rwa [Nat.div_lt_iff_lt_mul positive, Nat.mul_comm, ← Nat.pow_succ]
      rw [padded, padded, List.cons_append, List.cons_append,
        List.cons_lt_cons_iff,
        digitChar_lt_iff _ firstDigit _ secondDigit,
        digitChar_eq_iff _ firstDigit _ secondDigit,
        induction (Nat.mod_lt _ positive) (Nat.mod_lt _ positive),
        lt_iff_div_mod positive first second,
        eq_iff_div_mod (10 ^ width) first second]
      tauto

/-- The leading digits are those of the quotient. -/
theorem padded_add (width extra : Nat) {number : Nat}
    (fits : number < 10 ^ (width + extra)) :
    padded (width + extra) number =
      padded width (number / 10 ^ extra) ++
        padded extra (number % 10 ^ extra) := by
  induction width generalizing number with
  | zero =>
      rw [Nat.zero_add] at fits ⊢
      rw [padded, List.nil_append, Nat.mod_eq_of_lt fits]
  | succ width induction =>
      have positive : 0 < 10 ^ (width + extra) := Nat.pow_pos (by decide)
      have leading : number / 10 ^ extra / 10 ^ width =
          number / 10 ^ (width + extra) := by
        rw [Nat.div_div_eq_div_mul, ← Nat.pow_add, Nat.add_comm extra width]
      have middle : number % 10 ^ (width + extra) / 10 ^ extra =
          number / 10 ^ extra % 10 ^ width := by
        rw [Nat.add_comm width extra, Nat.pow_add, Nat.mod_mul_right_div_self]
      have trailing : number % 10 ^ (width + extra) % 10 ^ extra =
          number % 10 ^ extra :=
        Nat.mod_mod_of_dvd _ (Nat.pow_dvd_pow 10 (Nat.le_add_left extra width))
      rw [Nat.add_right_comm, padded, padded, leading,
        induction (Nat.mod_lt _ positive), middle, trailing, List.cons_append]

/--
With fewer digits on the left, the leading digits decide; if they agree, what
follows the shorter number meets the next digits of the longer one.
-/
theorem padded_append_lt_longer {width extra first second : Nat}
    (firstFits : first < 10 ^ width) (secondFits : second < 10 ^ (width + extra))
    (rest other : List Char) :
    padded width first ++ rest < padded (width + extra) second ++ other ↔
      first < second / 10 ^ extra ∨
        first = second / 10 ^ extra ∧
          rest < padded extra (second % 10 ^ extra) ++ other := by
  have quotientFits : second / 10 ^ extra < 10 ^ width := by
    rwa [Nat.div_lt_iff_lt_mul (Nat.pow_pos (by decide)), ← Nat.pow_add]
  rw [padded_add width extra secondFits, List.append_assoc,
    padded_append_lt firstFits quotientFits]

/-- The same with more digits on the left. -/
theorem padded_longer_append_lt {width extra first second : Nat}
    (firstFits : first < 10 ^ (width + extra)) (secondFits : second < 10 ^ width)
    (rest other : List Char) :
    padded (width + extra) first ++ rest < padded width second ++ other ↔
      first / 10 ^ extra < second ∨
        first / 10 ^ extra = second ∧
          padded extra (first % 10 ^ extra) ++ rest < other := by
  have quotientFits : first / 10 ^ extra < 10 ^ width := by
    rwa [Nat.div_lt_iff_lt_mul (Nat.pow_pos (by decide)), ← Nat.pow_add]
  rw [padded_add width extra firstFits, List.append_assoc,
    padded_append_lt quotientFits secondFits]

end DbosRelay.Library.Decimals
