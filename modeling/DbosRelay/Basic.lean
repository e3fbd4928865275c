import DbosRelay.Library.Wrapping
import Mathlib.Algebra.Order.Ring.Int
import Mathlib.Data.List.AList
import Mathlib.Order.MinMax

/-!
# Identifiers and time

Shared vocabulary of the relay: identifiers of applications, instances and
executors, and the arithmetic of Go's `time` package.  Durations and instants
are counted in nanoseconds, instants from the Unix epoch.  Both are `int64` in
the source; where the source computes with them, wrapping and saturation are
explicit here.
-/

namespace DbosRelay.Basic

/-- Nanoseconds between two instants. -/
abbrev Duration := Int

/-- Nanoseconds since the Unix epoch. -/
abbrev Time := Int

/-- The least `int64`. -/
def minInt64 : Int := -(2 ^ 63)

/-- The greatest `int64`. -/
def maxInt64 : Int := 2 ^ 63 - 1

/-- Reduce an exact result to the `int64` the machine computes. -/
def int64 (value : Int) : Int :=
  value.bmod (2 ^ 64)

theorem int64_eq_self {value : Int}
    (lower : minInt64 ≤ value) (upper : value ≤ maxInt64) :
    int64 value = value := by
  unfold minInt64 at lower
  unfold maxInt64 at upper
  unfold int64
  apply Int.bmod_eq_of_le <;> omega

/-- What the machine computes is an `int64`, some turns away from the exact result. -/
theorem exists_int64_eq (value : Int) :
    ∃ turns : Int, int64 value = value - turns * 2 ^ 64 ∧
      -(2 ^ 63) ≤ int64 value ∧ int64 value < 2 ^ 63 :=
  @Library.Wrapping.exists_bmod_eq (2 ^ 64) (by decide) value

theorem int64_eq_self_iff {value : Int} :
    int64 value = value ↔ minInt64 ≤ value ∧ value ≤ maxInt64 := by
  have inRange := @Library.Wrapping.bmod_eq_self_iff (2 ^ 64) value
    (by decide)
  unfold minInt64 maxInt64
  unfold int64
  rw [inRange]
  omega

/-- The machine compares with a bound as the exact result does, some turns away. -/
theorem int64_le_iff {value bound : Int} (fits : bound ≤ maxInt64) :
    int64 value ≤ bound ↔
      ∃ turns : Int, turns * 2 ^ 64 - 2 ^ 63 ≤ value ∧
        value ≤ turns * 2 ^ 64 + bound := by
  unfold maxInt64 at fits
  exact @Library.Wrapping.bmod_le_iff (2 ^ 64) value bound (by decide) (by omega)

/-- `time.Second`. -/
def second : Duration := 1000000000

/-- `Time.Sub`, which saturates where the difference does not fit a duration. -/
def timeSub (time other : Time) : Duration :=
  max minInt64 (min maxInt64 (time - other))

/-- A later time or an earlier reference gives no smaller difference. -/
theorem timeSub_le_timeSub {time later other earlier : Time}
    (laterTime : time ≤ later) (earlierOther : earlier ≤ other) :
    timeSub time other ≤ timeSub later earlier := by
  apply max_le_max le_rfl
  apply min_le_min le_rfl
  exact Int.sub_le_sub laterTime earlierOther

/-- `Time.Unix`. -/
def unixSeconds (time : Time) : Int := int64 (time / second)

/-- The zero `time.Time`, the first instant of year one. -/
def zeroTime : Time := -62135596800 * second

/-- `time.Unix`, whose addition of the seconds between the epochs may wrap. -/
def timeUnix (sec nsec : Int) : Time :=
  (int64 (sec + 62135596800) - 62135596800) * second + nsec

/-- The bytes of a Go string. -/
abbrev Bytes := List UInt8

/-- An ASCII literal. -/
def ascii (text : String) : Bytes :=
  text.toList.map fun char => UInt8.ofNat char.toNat

/-- A 16-byte identifier, `pgtype.UUID` with its `Valid` flag set. -/
structure UUID where
  bytes : BitVec 128
deriving DecidableEq, Repr

/--
The key of an executor: in the `executors` table the unique pair of columns,
in the lifecycle manager the string `appID:executorID`, which the fixed width
of the printed application identifier makes injective in the pair.
-/
structure ExecutorKey where
  appID : UUID
  executorID : String
deriving DecidableEq, Repr

end DbosRelay.Basic
