import Mathlib.Data.Int.Init

/-!
# Wrapped integers

An integer reduced to a range of `size` values around zero is some turns of the
range away from the exact one: it stays what it is exactly if it lies in the range,
and compares with a bound as the exact one does after some turns.
-/

namespace DbosRelay.Library.Wrapping

variable {size : Nat} {exact bound : Int}

/-- A wrapped result is in range, and some turns away from the exact one. -/
theorem exists_bmod_eq (positive : 0 < size) (exact : Int) :
    ∃ turns : Int, exact.bmod size = exact - turns * size ∧
      -((size : Int) / 2) ≤ exact.bmod size ∧
        exact.bmod size < ((size : Int) + 1) / 2 :=
  ⟨exact.bdiv size, Int.bmod_eq_self_sub_bdiv_mul exact size,
    Int.le_bmod positive, Int.bmod_lt positive⟩

/-- Wrapping changes what is out of range, and nothing else. -/
theorem bmod_eq_self_iff (positive : 0 < size) :
    exact.bmod size = exact ↔
      -((size : Int) / 2) ≤ exact ∧ exact < ((size : Int) + 1) / 2 := by
  constructor
  · intro same
    rw [← same]
    exact ⟨Int.le_bmod positive, Int.bmod_lt positive⟩
  · rintro ⟨lower, upper⟩
    exact Int.bmod_eq_of_le lower upper

/-- A wrapped result is below a bound if the exact one is, in some turn. -/
theorem bmod_le_iff (positive : 0 < size)
    (fits : bound < ((size : Int) + 1) / 2) :
    exact.bmod size ≤ bound ↔
      ∃ turns : Int, turns * size - (size : Int) / 2 ≤ exact ∧
        exact ≤ turns * size + bound := by
  constructor
  · intro below
    obtain ⟨turns, wrapped, lower, -⟩ := exists_bmod_eq positive exact
    refine ⟨turns, ?_, ?_⟩
    · omega
    · omega
  · rintro ⟨turns, atLeast, atMost⟩
    have inRange : (exact - turns * size).bmod size = exact - turns * size := by
      apply Int.bmod_eq_of_le
      · omega
      · omega
    rw [← Int.sub_mul_bmod_self_right exact turns size, inRange]
    omega

end DbosRelay.Library.Wrapping
