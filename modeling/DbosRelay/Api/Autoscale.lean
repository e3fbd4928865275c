import DbosRelay.Library.Ceilings
import DbosRelay.Library.Sorting
import DbosRelay.Library.Tables
import Mathlib.Data.Prod.Lex
import Mathlib.Data.String.Basic

/-!
# Autoscaling recommendations

`computeAutoscale` of `internal/api/autoscale.go` recommends a number of executors
for each version of an application: enough for its part of a queue, and no more
than the queue's global concurrency and the policy admit.  It rounds quotients up
by adding the divisor less one, in 64 bits.  Where the sum wraps, the quotient is
not positive; the recommendation then is right only if it would not have mattered.
-/

namespace DbosRelay.Api

open DbosRelay.Library.Ceilings
open DbosRelay.Library.Sorting
open DbosRelay.Library.Tables

/-! ## `computeAutoscale` -/

/-- `QueueAutoscale`, without its `$schema`. -/
structure QueueAutoscale where
  applicationVersion : String
  desiredExecutors : Int64
  isLatest : Bool
  observedAt : Int64
  queueDepth : Int64
  queueName : String
deriving DecidableEq, Repr

/-- The depth of a queue by application version. -/
abbrev Depths := Table String Int64

/-- `depths[v]`. -/
def Depths.at (depths : Depths) (version : String) : Int64 :=
  (depths.lookup version).getD 0

/-- `ceilDiv`. -/
def ceilDiv (n d : Int64) : Int64 :=
  if d ≤ 0 then n else (n + d - 1) / d

/-- `globalCap`; `-1` is no cap. -/
def globalCap (workerConcurrency : Int64) (globalConcurrency : Option Int64) :
    Int64 :=
  match globalConcurrency with
  | none => -1
  | some limit => if 0 < limit then ceilDiv limit workerConcurrency else -1

/-- `desiredFor`. -/
def desiredFor (workerConcurrency : Int64)
    (globalConcurrency maxExecOld : Option Int64) (depth : Int64)
    (isLatest : Bool) : Int64 :=
  let cap := globalCap workerConcurrency globalConcurrency
  let desired := ceilDiv depth workerConcurrency
  let desired := if 0 ≤ cap ∧ cap < desired then cap else desired
  let desired := if isLatest ∧ desired < 1 then 1 else desired
  match maxExecOld with
  | none => desired
  | some most => if ¬isLatest ∧ most < desired then most else desired

/-- The version is asked for, by name or among all. -/
def inScope (onlyVersion version : String) : Bool :=
  onlyVersion = "" || version = onlyVersion

/-- The versions of the map which are in scope, and the latest. -/
def scopedVersions (latest : String) (depths : Depths) (onlyVersion : String) :
    List String :=
  let versions := depths.keys.filter (inScope onlyVersion)
  let versions :=
    if latest ≠ "" ∧ latest ∉ versions ∧
        (onlyVersion = "" ∨ onlyVersion = latest) then
      versions ++ [latest]
    else versions
  versions.insertionSort (· ≤ ·)

/-- The recommendation for a version. -/
def recommendation (queue latest : String) (depths : Depths)
    (workerConcurrency : Int64) (globalConcurrency maxExecOld : Option Int64)
    (observedAt : Int64) (version : String) : QueueAutoscale where
  applicationVersion := version
  desiredExecutors :=
    desiredFor workerConcurrency globalConcurrency maxExecOld
      (depths.at version) (version = latest)
  isLatest := version = latest
  observedAt := observedAt
  queueDepth := depths.at version
  queueName := queue

/-- The order of the result: the latest version first, then downwards. -/
def QueueAutoscale.before (first second : QueueAutoscale) : Bool :=
  if first.isLatest ≠ second.isLatest then first.isLatest
  else second.applicationVersion < first.applicationVersion

/-- `computeAutoscale`. -/
def computeAutoscale (queue latest : String) (depths : Depths)
    (workerConcurrency : Int64) (globalConcurrency maxExecOld : Option Int64)
    (onlyVersion : String) (observedAt : Int64) : List QueueAutoscale :=
  let kept :=
    (scopedVersions latest depths onlyVersion).filter fun version =>
      ¬(version ≠ latest ∧ depths.at version = 0)
  let out :=
    kept.map (recommendation queue latest depths workerConcurrency
      globalConcurrency maxExecOld observedAt)
  out.insertionSort fun first second => ¬second.before first

/-! ## What is recommended -/

/-- The number of executors a version should have. -/
def recommended (worker depth : Int) (global most : Option Int)
    (isLatest : Bool) : Int :=
  let load := ⌈(depth : ℚ) / worker⌉
  let load :=
    match global.filter (0 < ·) with
    | none => load
    | some limit => min load ⌈(limit : ℚ) / worker⌉
  if isLatest then max 1 load
  else
    match most with
    | none => load
    | some most => min load most

section Properties

variable (latest : String) (depths : Depths) (workerConcurrency : Int64)
variable (globalConcurrency maxExecOld : Option Int64) (onlyVersion : String)

/-- The versions which have a recommendation. -/
def Recommendable (version : String) : Prop :=
  inScope onlyVersion version = true ∧
    (version = latest ∧ latest ≠ "" ∨ 0 < (depths.at version).toInt)

/-- The result is what the formula says. -/
structure Recommends (out : List QueueAutoscale) : Prop where
  listed : ∀ version, version ∈ out.map QueueAutoscale.applicationVersion ↔
    Recommendable latest depths onlyVersion version
  once : (out.map QueueAutoscale.applicationVersion).Nodup
  latestFirst : ∀ rec ∈ out.tail, rec.applicationVersion ≠ latest
  desired : ∀ rec ∈ out,
    rec.desiredExecutors.toInt =
      recommended workerConcurrency.toInt
        (depths.at rec.applicationVersion).toInt
        (globalConcurrency.map Int64.toInt) (maxExecOld.map Int64.toInt)
        (rec.applicationVersion = latest)
  notNegative : ∀ rec ∈ out, 0 ≤ rec.desiredExecutors.toInt

end Properties

/-! ## The quotients -/

/-- The sum of the numbers, less one, is a machine word. -/
def Fits (worker number : Int) : Prop :=
  number + worker ≤ 2 ^ 63

instance (worker number : Int) : Decidable (Fits worker number) :=
  inferInstanceAs (Decidable (_ ≤ _))

section Quotients

variable {n d : Int64}

theorem toInt_ceilDiv (positive : 0 < d.toInt) :
    (ceilDiv n d).toInt =
      ((n.toInt + d.toInt - 1).bmod (2 ^ 64)).tdiv d.toInt := by
  have notNegative : ¬d ≤ 0 := by
    rw [Int64.le_iff_toInt_le]
    exact not_le.mpr positive
  have notMinusOne : d ≠ -1 := by
    rintro rfl
    exact absurd positive (by decide)
  rw [ceilDiv, if_neg notNegative, Int64.toInt_div_of_ne_right _ _ notMinusOne,
    Int64.toInt_sub, Int64.toInt_add]
  show (((n.toInt + d.toInt).bmod (2 ^ 64) - 1).bmod (2 ^ 64)).tdiv
    d.toInt = _
  rw [Int.bmod_sub_bmod]

theorem toInt_ceilDiv_of_fits (positive : 0 < d.toInt)
    (notNegative : 0 ≤ n.toInt) (fits : Fits d.toInt n.toInt) :
    (ceilDiv n d).toInt = ⌈(n.toInt : ℚ) / d.toInt⌉ := by
  rw [toInt_ceilDiv positive]
  apply wrapped_tdiv_eq_ceil positive notNegative
  unfold Fits at fits
  omega

theorem toInt_ceilDiv_of_not_fits (positive : 0 < d.toInt)
    (beyond : ¬Fits d.toInt n.toInt) :
    (ceilDiv n d).toInt ≤ 0 ∧
      ((ceilDiv n d).toInt = 0 ↔ 2 ^ 64 < n.toInt + 2 * d.toInt - 1) := by
  have numberBound := n.toInt_lt
  have divisorBound := d.toInt_lt
  unfold Fits at beyond
  rw [toInt_ceilDiv positive]
  exact wrapped_tdiv_nonpos positive (by omega) (by omega)

end Quotients

/-! ## One recommendation -/

/--
When the number recommended is the right one.  If the depth and the workers fit,
only a global limit which does not fit can do harm: it then is no cap, or a cap of
zero.  If they do not, the latest version is given one executor, and an old one
none or fewer.
-/
def DesiredExact (worker depth : Int) (global most : Option Int)
    (isLatest : Bool) : Prop :=
  if Fits worker depth then
    ∀ limit, global.filter (0 < ·) = some limit →
      Fits worker limit ∨
        if isLatest then ⌈(depth : ℚ) / worker⌉ ≤ ⌈(limit : ℚ) / worker⌉
        else if 2 ^ 64 < limit + 2 * worker - 1 then most = some 0
        else
          ⌈(depth : ℚ) / worker⌉ ≤ ⌈(limit : ℚ) / worker⌉ ∨
            ∃ cap, most = some cap ∧ cap ≤ ⌈(limit : ℚ) / worker⌉
  else if isLatest then
    depth ≤ worker ∨
      ∃ limit, global.filter (0 < ·) = some limit ∧ limit ≤ worker
  else most = some 0 ∧ 2 ^ 64 < depth + 2 * worker - 1

/-- `desiredFor`, of quotients which have been computed. -/
def desiredOf (load cap : Int) (most : Option Int) (isLatest : Bool) : Int :=
  let desired := if 0 ≤ cap ∧ cap < load then cap else load
  let desired := if isLatest ∧ desired < 1 then 1 else desired
  match most with
  | none => desired
  | some most => if ¬isLatest ∧ most < desired then most else desired

theorem toInt_desiredFor (workerConcurrency : Int64)
    (globalConcurrency maxExecOld : Option Int64) (depth : Int64)
    (isLatest : Bool) :
    (desiredFor workerConcurrency globalConcurrency maxExecOld depth
        isLatest).toInt =
      desiredOf (ceilDiv depth workerConcurrency).toInt
        (globalCap workerConcurrency globalConcurrency).toInt
        (maxExecOld.map Int64.toInt) isLatest := by
  cases maxExecOld with
  | none =>
      simp only [desiredFor, desiredOf, Int64.lt_iff_toInt_lt,
        Int64.le_iff_toInt_le, apply_ite Int64.toInt, Option.map_none,
        Int64.toInt_zero, Int64.toInt_one]
  | some most =>
      simp only [desiredFor, desiredOf, Int64.lt_iff_toInt_lt,
        Int64.le_iff_toInt_le, apply_ite Int64.toInt, Option.map_some,
        Int64.toInt_zero, Int64.toInt_one]

/-- The quotients, as far as they are known. -/
structure Quotient (worker number computed : Int) : Prop where
  fits : Fits worker number → computed = ⌈(number : ℚ) / worker⌉
  beyond : ¬Fits worker number → computed ≤ 0 ∧
    (computed = 0 ↔ 2 ^ 64 < number + 2 * worker - 1)

theorem quotient_ceilDiv {n d : Int64} (positive : 0 < d.toInt)
    (notNegative : 0 ≤ n.toInt) :
    Quotient d.toInt n.toInt (ceilDiv n d).toInt :=
  ⟨toInt_ceilDiv_of_fits positive notNegative,
    toInt_ceilDiv_of_not_fits positive⟩

section Desired

variable {worker depth limit load cap : Int} {most : Option Int}

/-- The limit on old versions. -/
def cappedOld (most : Option Int) (desired : Int) : Int :=
  match most with
  | none => desired
  | some most => min desired most

/-- The global limit. -/
def cappedGlobally (cap load : Int) : Int :=
  if 0 ≤ cap then min load cap else load

theorem desiredOf_latest :
    desiredOf load cap most true = max 1 (cappedGlobally cap load) := by
  unfold desiredOf cappedGlobally
  cases most with
  | none =>
      simp only [true_and]
      split_ifs <;> omega
  | some most =>
      simp only [true_and, not_true, false_and, if_false]
      split_ifs <;> omega

theorem desiredOf_old :
    desiredOf load cap most false =
      cappedOld most (cappedGlobally cap load) := by
  unfold desiredOf cappedGlobally cappedOld
  cases most with
  | none =>
      simp only [Bool.false_eq_true, false_and, if_false]
      split_ifs <;> omega
  | some most =>
      simp only [Bool.false_eq_true, false_and, if_false, not_false_eq_true,
        true_and]
      split_ifs <;> omega

/-- A wrapped quotient caps at zero, or not at all. -/
theorem cappedGlobally_of_nonpos (loadNonneg : 0 ≤ load) (nonpos : cap ≤ 0) :
    cappedGlobally cap load = if cap = 0 then 0 else load := by
  unfold cappedGlobally
  split_ifs <;> omega

theorem cappedGlobally_of_load_nonpos (nonpos : load ≤ 0) :
    cappedGlobally cap load = load := by
  unfold cappedGlobally
  split_ifs <;> omega

theorem cappedGlobally_of_nonneg (nonneg : 0 ≤ cap) :
    cappedGlobally cap load = min load cap :=
  if_pos nonneg

theorem cappedOld_nonneg (capped : ∀ cap, most = some cap → 0 ≤ cap)
    (nonneg : 0 ≤ load) : 0 ≤ cappedOld most load := by
  cases most with
  | none => exact nonneg
  | some most => exact le_min nonneg (capped most rfl)

/-- A positive number is capped to zero by zero only. -/
theorem cappedOld_eq_zero_iff (capped : ∀ cap, most = some cap → 0 ≤ cap)
    (positive : 0 < load) : cappedOld most load = 0 ↔ most = some 0 := by
  cases most with
  | none =>
      simp only [cappedOld, reduceCtorEq, iff_false]
      omega
  | some most =>
      have notNegative := capped most rfl
      simp only [cappedOld, Option.some.injEq]
      omega

/-- Numbers are capped alike if they are equal or both beyond the cap. -/
theorem cappedOld_eq_min_iff {bound : Int} :
    cappedOld most load = cappedOld most (min load bound) ↔
      load ≤ bound ∨ ∃ cap, most = some cap ∧ cap ≤ bound := by
  cases most with
  | none =>
      simp only [cappedOld, reduceCtorEq, false_and, exists_false, or_false]
      omega
  | some most =>
      simp only [cappedOld, Option.some.injEq, exists_eq_left']
      omega

theorem cappedOld_zero (capped : ∀ cap, most = some cap → 0 ≤ cap) :
    cappedOld most 0 = 0 := by
  cases most with
  | none => rfl
  | some most => exact min_eq_left (capped most rfl)

/-- The number, whose depth has wrapped. -/
theorem cappedOld_of_nonpos (capped : ∀ cap, most = some cap → 0 ≤ cap)
    (nonpos : load ≤ 0) : cappedOld most load = load := by
  cases most with
  | none => rfl
  | some most => exact min_eq_left (le_trans nonpos (capped most rfl))

/-- The executors for the depth, up to the global limit. -/
def shared (worker depth : Int) (global : Option Int) : Int :=
  match global.filter (0 < ·) with
  | none => ⌈(depth : ℚ) / worker⌉
  | some limit => min ⌈(depth : ℚ) / worker⌉ ⌈(limit : ℚ) / worker⌉

theorem recommended_latest {global : Option Int} :
    recommended worker depth global most true =
      max 1 (shared worker depth global) := by
  unfold recommended shared
  cases global.filter (0 < ·) with
  | none => rfl
  | some limit => rfl

theorem recommended_old {global : Option Int} :
    recommended worker depth global most false =
      cappedOld most (shared worker depth global) := by
  unfold recommended shared cappedOld
  cases global.filter (0 < ·) with
  | none => rfl
  | some limit => rfl

/-- What is known of the global cap. -/
inductive GlobalCap (worker : Int) (global : Option Int) : Int → Prop
  | unlimited (unset : global.filter (0 < ·) = none) : GlobalCap worker global (-1)
  | limited {limit cap : Int} (set : global.filter (0 < ·) = some limit)
      (positive : 0 < limit) (inRange : limit < 2 ^ 63)
      (quotient : Quotient worker limit cap) : GlobalCap worker global cap

section Roles

variable {global : Option Int} (positive : 0 < worker)
variable (quotient : Quotient worker depth load)
variable (globalCap : GlobalCap worker global cap)
include positive quotient globalCap

theorem desiredOf_latest_eq_iff (notNegative : 0 ≤ depth) :
    desiredOf load cap most true = recommended worker depth global most true ↔
      DesiredExact worker depth global most true := by
  have loadNonneg := ceil_div_nonneg positive notNegative
  have loadOne : ⌈(depth : ℚ) / worker⌉ ≤ 1 ↔ depth ≤ worker :=
    ceil_div_le_one_iff positive
  rw [desiredOf_latest, recommended_latest]
  unfold DesiredExact shared
  by_cases fits : Fits worker depth
  · rw [if_pos fits, quotient.fits fits]
    cases globalCap with
    | unlimited unset =>
        rw [unset]
        simp [cappedGlobally]
    | limited set limitPositive inRange limitQuotient =>
        rename_i limit
        have limitPos := (ceil_div_pos_iff positive).mpr limitPositive
        have limitOne : ⌈(limit : ℚ) / worker⌉ ≤ 1 ↔ limit ≤ worker :=
          ceil_div_le_one_iff positive
        simp only [set, Option.some.injEq, forall_eq', if_true]
        by_cases limitFits : Fits worker limit
        · rw [limitQuotient.fits limitFits,
            cappedGlobally_of_nonneg (le_of_lt limitPos)]
          simp [limitFits]
        · obtain ⟨nonpos, zero⟩ := limitQuotient.beyond limitFits
          rw [cappedGlobally_of_nonpos loadNonneg nonpos]
          unfold Fits at fits limitFits ⊢
          split_ifs <;> omega
  · obtain ⟨nonpos, -⟩ := quotient.beyond fits
    rw [if_neg fits, cappedGlobally_of_load_nonpos nonpos]
    unfold Fits at fits
    cases globalCap with
    | unlimited unset =>
        simp only [unset, reduceCtorEq, false_and, exists_false, or_false,
          if_true]
        omega
    | limited set limitPositive inRange limitQuotient =>
        rename_i limit
        have limitOne : ⌈(limit : ℚ) / worker⌉ ≤ 1 ↔ limit ≤ worker :=
          ceil_div_le_one_iff positive
        simp only [set, Option.some.injEq, exists_eq_left', if_true]
        omega

theorem desiredOf_old_eq_iff (waiting : 0 < depth)
    (capped : ∀ cap, most = some cap → 0 ≤ cap) :
    desiredOf load cap most false =
        recommended worker depth global most false ↔
      DesiredExact worker depth global most false := by
  have loadPos := (ceil_div_pos_iff positive).mpr waiting
  have loadOne : ⌈(depth : ℚ) / worker⌉ ≤ 1 ↔ depth ≤ worker :=
    ceil_div_le_one_iff positive
  rw [desiredOf_old, recommended_old]
  unfold DesiredExact
  by_cases fits : Fits worker depth
  · rw [if_pos fits, quotient.fits fits]
    cases globalCap with
    | unlimited unset => simp [shared, unset, cappedGlobally]
    | limited set limitPositive inRange limitQuotient =>
        rename_i limit
        have limitPos := (ceil_div_pos_iff positive).mpr limitPositive
        simp only [shared, set, Option.some.injEq, forall_eq',
          Bool.false_eq_true, if_false]
        by_cases limitFits : Fits worker limit
        · rw [limitQuotient.fits limitFits,
            cappedGlobally_of_nonneg (le_of_lt limitPos)]
          simp [limitFits]
        · obtain ⟨nonpos, zero⟩ := limitQuotient.beyond limitFits
          rw [cappedGlobally_of_nonpos (le_of_lt loadPos) nonpos]
          simp only [zero, limitFits, false_or]
          split_ifs with isZero
          · rw [cappedOld_zero capped, eq_comm]
            exact cappedOld_eq_zero_iff capped (lt_min loadPos limitPos)
          · exact cappedOld_eq_min_iff
  · obtain ⟨nonpos, zero⟩ := quotient.beyond fits
    rw [if_neg fits, cappedGlobally_of_load_nonpos nonpos,
      cappedOld_of_nonpos capped nonpos]
    have sharedPos : 0 < shared worker depth global := by
      unfold shared
      cases globalCap with
      | unlimited unset =>
          rw [unset]
          exact loadPos
      | limited set limitPositive inRange limitQuotient =>
          rw [set]
          exact lt_min loadPos ((ceil_div_pos_iff positive).mpr limitPositive)
    have nonneg := cappedOld_nonneg capped (le_of_lt sharedPos)
    rw [if_neg Bool.false_ne_true, ← cappedOld_eq_zero_iff capped sharedPos,
      ← zero]
    omega

end Roles

theorem globalCap_spec {workerConcurrency : Int64}
    (globalConcurrency : Option Int64)
    (positive : 0 < workerConcurrency.toInt) :
    GlobalCap workerConcurrency.toInt (globalConcurrency.map Int64.toInt)
      (globalCap workerConcurrency globalConcurrency).toInt := by
  cases globalConcurrency with
  | none => exact .unlimited rfl
  | some limit =>
      by_cases limited : 0 < limit
      · have limitPositive := Int64.lt_iff_toInt_lt.mp limited
        have computed : globalCap workerConcurrency (some limit) =
            ceilDiv limit workerConcurrency := if_pos limited
        rw [computed]
        apply GlobalCap.limited _ limitPositive limit.toInt_lt
        · exact quotient_ceilDiv positive (le_of_lt limitPositive)
        · simpa using limitPositive
      · have computed : globalCap workerConcurrency (some limit) = -1 :=
          if_neg limited
        rw [computed]
        apply GlobalCap.unlimited
        have notPositive := mt Int64.lt_iff_toInt_lt.mpr limited
        simpa using notPositive

/-- The computed recommendation is right under the condition only. -/
theorem desiredFor_eq_iff {workerConcurrency depth : Int64}
    {globalConcurrency maxExecOld : Option Int64} {isLatest : Bool}
    (positive : 0 < workerConcurrency.toInt) (notNegative : 0 ≤ depth.toInt)
    (capped : ∀ cap, maxExecOld = some cap → 0 ≤ cap.toInt)
    (waiting : isLatest = true ∨ 0 < depth.toInt) :
    (desiredFor workerConcurrency globalConcurrency maxExecOld depth
        isLatest).toInt =
        recommended workerConcurrency.toInt depth.toInt
          (globalConcurrency.map Int64.toInt) (maxExecOld.map Int64.toInt)
          isLatest ↔
      DesiredExact workerConcurrency.toInt depth.toInt
        (globalConcurrency.map Int64.toInt) (maxExecOld.map Int64.toInt)
        isLatest := by
  rw [toInt_desiredFor]
  have quotient := quotient_ceilDiv positive notNegative
  have globalCap := globalCap_spec globalConcurrency positive
  cases isLatest with
  | true => exact desiredOf_latest_eq_iff positive quotient globalCap notNegative
  | false =>
      apply desiredOf_old_eq_iff positive quotient globalCap
      · simpa using waiting
      · simpa using capped

end Desired

/-! ## The versions listed -/

/-- The order of the result is that of this key. -/
def QueueAutoscale.key (rec : QueueAutoscale) : Bool ×ₗ Stringᵒᵈ :=
  toLex (!rec.isLatest, OrderDual.toDual rec.applicationVersion)

theorem QueueAutoscale.not_before_iff {first second : QueueAutoscale} :
    second.before first = false ↔ first.key ≤ second.key := by
  have versions : decide (first.applicationVersion <
      second.applicationVersion) = false ↔
      OrderDual.toDual first.applicationVersion ≤
        OrderDual.toDual second.applicationVersion := by
    rw [decide_eq_false_iff_not, not_lt, OrderDual.toDual_le_toDual]
  unfold before key
  rw [Prod.Lex.toLex_le_toLex]
  cases first.isLatest <;> cases second.isLatest
  · simpa using versions
  · simp
  · simp
  · simpa using versions

section Listed

variable {queue latest onlyVersion version : String} {depths : Depths}
variable {workerConcurrency observedAt : Int64}
variable {globalConcurrency maxExecOld : Option Int64}

theorem mem_scopedVersions :
    version ∈ scopedVersions latest depths onlyVersion ↔
      inScope onlyVersion version = true ∧
        (version ∈ depths ∨ version = latest ∧ latest ≠ "") := by
  have membership : version ∈ depths.keys ↔ version ∈ depths := AList.mem_keys
  unfold scopedVersions
  rw [List.mem_insertionSort]
  split_ifs with added
  · rw [List.mem_append, List.mem_filter, List.mem_singleton, membership]
    unfold inScope at added ⊢
    grind
  · rw [List.mem_filter, membership]
    unfold inScope at added ⊢
    grind

theorem nodup_scopedVersions :
    (scopedVersions latest depths onlyVersion).Nodup := by
  unfold scopedVersions
  rw [(List.perm_insertionSort _ _).nodup_iff]
  have once : (depths.keys.filter (inScope onlyVersion)).Nodup :=
    depths.keys_nodup.filter _
  split_ifs with added
  · rw [List.nodup_append]
    refine ⟨once, List.nodup_singleton _, ?_⟩
    intro version member other isLatest same
    rw [List.mem_singleton] at isLatest
    rw [same, isLatest] at member
    exact added.2.1 member
  · exact once

/-- A record of the result is the recommendation for a version listed. -/
theorem mem_computeAutoscale {rec : QueueAutoscale} :
    rec ∈ computeAutoscale queue latest depths workerConcurrency
        globalConcurrency maxExecOld onlyVersion observedAt ↔
      ∃ version, inScope onlyVersion version = true ∧
        (version ∈ depths ∨ version = latest ∧ latest ≠ "") ∧
        (version = latest ∨ depths.at version ≠ 0) ∧
        rec = recommendation queue latest depths workerConcurrency
          globalConcurrency maxExecOld observedAt version := by
  unfold computeAutoscale
  rw [List.mem_insertionSort, List.mem_map]
  apply exists_congr
  intro version
  rw [List.mem_filter, mem_scopedVersions, decide_eq_true_iff, not_and_or,
    not_ne_iff, eq_comm (a := rec)]
  grind

/-- A record is the recommendation for its version. -/
theorem eq_recommendation_of_mem {rec : QueueAutoscale}
    (member : rec ∈ computeAutoscale queue latest depths workerConcurrency
      globalConcurrency maxExecOld onlyVersion observedAt) :
    rec = recommendation queue latest depths workerConcurrency
      globalConcurrency maxExecOld observedAt rec.applicationVersion := by
  obtain ⟨version, -, -, -, rfl⟩ := mem_computeAutoscale.mp member
  rfl

/-- The latest version's record, and no other, is marked. -/
theorem isLatest_computeAutoscale :
    ∀ rec ∈ computeAutoscale queue latest depths workerConcurrency
        globalConcurrency maxExecOld onlyVersion observedAt,
      rec.isLatest = decide (rec.applicationVersion = latest) := by
  intro rec member
  rw [eq_recommendation_of_mem member]
  rfl

theorem nodup_computeAutoscale :
    ((computeAutoscale queue latest depths workerConcurrency globalConcurrency
      maxExecOld onlyVersion observedAt).map
        QueueAutoscale.applicationVersion).Nodup := by
  unfold computeAutoscale
  rw [((List.perm_insertionSort _ _).map _).nodup_iff, List.map_map]
  have same : QueueAutoscale.applicationVersion ∘
      recommendation queue latest depths workerConcurrency globalConcurrency
        maxExecOld observedAt = id := rfl
  rw [same, List.map_id]
  exact nodup_scopedVersions.filter _

theorem pairwise_computeAutoscale :
    (computeAutoscale queue latest depths workerConcurrency globalConcurrency
      maxExecOld onlyVersion observedAt).Pairwise
        fun first second => first.key ≤ second.key := by
  unfold computeAutoscale
  apply pairwise_insertionSort_key
  intro first second
  rw [Bool.not_eq_true, QueueAutoscale.not_before_iff]

end Listed

/-- Of ordered records nothing but the first can be the latest version's. -/
theorem latest_not_mem_tail {latest : String} {out : List QueueAutoscale}
    (ordered : out.Pairwise fun first second => first.key ≤ second.key)
    (once : (out.map QueueAutoscale.applicationVersion).Nodup)
    (marked : ∀ rec ∈ out,
      rec.isLatest = decide (rec.applicationVersion = latest)) :
    ∀ rec ∈ out.tail, rec.applicationVersion ≠ latest := by
  cases out with
  | nil =>
      intro rec member
      cases member
  | cons first rest =>
      intro rec member isLatest
      rw [List.pairwise_cons] at ordered
      rw [List.map_cons, List.nodup_cons] at once
      have notAfter := QueueAutoscale.not_before_iff.mpr
        (ordered.1 rec member)
      have recMarked := marked rec (List.mem_cons_of_mem _ member)
      have firstMarked := marked first List.mem_cons_self
      have different : first.applicationVersion ≠ latest := by
        rintro same
        apply once.1
        rw [same, ← isLatest]
        exact List.mem_map_of_mem member
      rw [decide_eq_true isLatest] at recMarked
      rw [decide_eq_false different] at firstMarked
      unfold QueueAutoscale.before at notAfter
      simp [recMarked, firstMarked] at notAfter

theorem recommended_nonneg {worker depth : Int} {global most : Option Int}
    {isLatest : Bool} (positive : 0 < worker) (notNegative : 0 ≤ depth)
    (capped : ∀ cap, most = some cap → 0 ≤ cap) :
    0 ≤ recommended worker depth global most isLatest := by
  cases isLatest with
  | true =>
      rw [recommended_latest]
      exact le_trans (by decide) (le_max_left _ _)
  | false =>
      rw [recommended_old]
      apply cappedOld_nonneg capped
      unfold shared
      cases set : global.filter (0 < ·) with
      | none => exact ceil_div_nonneg positive notNegative
      | some limit =>
          obtain ⟨-, limitPositive⟩ := Option.filter_eq_some_iff.mp set
          apply le_min (ceil_div_nonneg positive notNegative)
          apply ceil_div_nonneg positive
          exact le_of_lt (of_decide_eq_true limitPositive)

/-! ## The result -/

section Result

variable {queue latest onlyVersion : String} {depths : Depths}
variable {workerConcurrency observedAt : Int64}
variable {globalConcurrency maxExecOld : Option Int64}
variable (positive : 0 < workerConcurrency.toInt)
variable (notNegative : ∀ version, 0 ≤ (depths.at version).toInt)
variable (capped : ∀ cap, maxExecOld = some cap → 0 ≤ cap.toInt)

theorem mem_versions :
    ∀ version, version ∈ (computeAutoscale queue latest depths
        workerConcurrency globalConcurrency maxExecOld onlyVersion
        observedAt).map QueueAutoscale.applicationVersion ↔
      inScope onlyVersion version = true ∧
        (version ∈ depths ∨ version = latest ∧ latest ≠ "") ∧
        (version = latest ∨ depths.at version ≠ 0) := by
  intro version
  rw [List.mem_map]
  constructor
  · rintro ⟨rec, member, rfl⟩
    obtain ⟨version, scope, known, kept, rfl⟩ :=
      mem_computeAutoscale.mp member
    exact ⟨scope, known, kept⟩
  · rintro ⟨scope, known, kept⟩
    exact ⟨_, mem_computeAutoscale.mpr ⟨version, scope, known, kept, rfl⟩, rfl⟩

theorem mem_of_at_ne_zero {version : String}
    (waiting : depths.at version ≠ 0) : version ∈ depths := by
  by_contra absent
  apply waiting
  unfold Depths.at
  rw [AList.lookup_eq_none.mpr absent]
  rfl

theorem lookup_of_at_eq_zero {version : String} (member : version ∈ depths)
    (drained : depths.at version = 0) : depths.lookup version = some 0 := by
  obtain ⟨depth, found⟩ := Option.isSome_iff_exists.mp
    (AList.lookup_isSome.mpr member)
  unfold Depths.at at drained
  rw [found, Option.getD_some] at drained
  rw [found, drained]

include notNegative in
theorem at_ne_zero_iff {version : String} :
    depths.at version ≠ 0 ↔ 0 < (depths.at version).toInt := by
  have nonneg := notNegative version
  rw [ne_eq, ← Int64.toInt_inj, Int64.toInt_zero]
  omega

include notNegative in
/-- The code lists the versions it should, and a version without a name. -/
theorem mem_versions_iff {version : String} :
    version ∈ (computeAutoscale queue latest depths workerConcurrency
        globalConcurrency maxExecOld onlyVersion observedAt).map
          QueueAutoscale.applicationVersion ↔
      Recommendable latest depths onlyVersion version ∨
        (latest = "" ∧ onlyVersion = "" ∧ depths.lookup "" = some 0) ∧
          version = "" := by
  have waiting : depths.at version ≠ 0 ↔ 0 < (depths.at version).toInt :=
    at_ne_zero_iff notNegative
  rw [mem_versions, Recommendable, ← waiting]
  constructor
  · rintro ⟨scope, known, kept⟩
    by_cases drained : depths.at version = 0
    · have isLatest : version = latest := by tauto
      by_cases unnamed : latest = ""
      · have member : version ∈ depths := by tauto
        have found := lookup_of_at_eq_zero member drained
        rw [isLatest, unnamed] at found scope
        have everything : onlyVersion = "" := by
          simpa [inScope, eq_comm] using scope
        exact Or.inr ⟨⟨unnamed, everything, found⟩, isLatest.trans unnamed⟩
      · exact Or.inl ⟨scope, Or.inl ⟨isLatest, unnamed⟩⟩
    · exact Or.inl ⟨scope, Or.inr drained⟩
  · rintro (⟨scope, isLatest | work⟩ | ⟨⟨unnamed, everything, found⟩, rfl⟩)
    · exact ⟨scope, Or.inr isLatest, Or.inl isLatest.1⟩
    · exact ⟨scope, Or.inl (mem_of_at_ne_zero work), Or.inr work⟩
    · refine ⟨?_, Or.inl ?_, Or.inl unnamed.symm⟩
      · rw [everything]
        rfl
      · rw [← AList.lookup_isSome, found]
        rfl

include positive notNegative capped in
/-- A record listed as it should be has the right number. -/
theorem desired_eq_iff {version : String}
    (listed : Recommendable latest depths onlyVersion version) :
    (recommendation queue latest depths workerConcurrency globalConcurrency
        maxExecOld observedAt version).desiredExecutors.toInt =
        recommended workerConcurrency.toInt (depths.at version).toInt
          (globalConcurrency.map Int64.toInt) (maxExecOld.map Int64.toInt)
          (version = latest) ↔
      DesiredExact workerConcurrency.toInt (depths.at version).toInt
        (globalConcurrency.map Int64.toInt) (maxExecOld.map Int64.toInt)
        (version = latest) := by
  apply desiredFor_eq_iff positive (notNegative version) capped
  rcases listed.2 with ⟨isLatest, -⟩ | waiting
  · exact Or.inl (decide_eq_true isLatest)
  · exact Or.inr waiting

include positive notNegative capped in
/--
The recommendations are those of the formula if and only if no quotient that counts
has wrapped, and a version without a name and without work is not taken for the
latest.
-/
theorem computeAutoscale_recommends_iff :
    Recommends latest depths workerConcurrency globalConcurrency maxExecOld
        onlyVersion
        (computeAutoscale queue latest depths workerConcurrency
          globalConcurrency maxExecOld onlyVersion observedAt) ↔
      (∀ version, Recommendable latest depths onlyVersion version →
        DesiredExact workerConcurrency.toInt (depths.at version).toInt
          (globalConcurrency.map Int64.toInt) (maxExecOld.map Int64.toInt)
          (version = latest)) ∧
        ¬(latest = "" ∧ onlyVersion = "" ∧ depths.lookup "" = some 0) := by
  have drainedUnnamed : depths.lookup "" = some 0 → depths.at "" = 0 := by
    intro found
    unfold Depths.at
    rw [found, Option.getD_some]
  constructor
  · intro recommends
    constructor
    · intro version recommendable
      apply (desired_eq_iff positive notNegative capped recommendable).mp
      obtain ⟨rec, member, rfl⟩ := List.mem_map.mp
        ((recommends.listed version).mpr recommendable)
      have right := recommends.desired rec member
      rw [eq_recommendation_of_mem member] at right
      exact right
    · intro corner
      have listed := (recommends.listed "").mp
        ((mem_versions_iff notNegative).mpr (Or.inr ⟨corner, rfl⟩))
      rcases listed.2 with ⟨-, named⟩ | waiting
      · exact named corner.1
      · rw [drainedUnnamed corner.2.2] at waiting
        exact absurd waiting (by decide)
  · rintro ⟨exactness, noCorner⟩
    have listed : ∀ version, version ∈ (computeAutoscale queue latest depths
        workerConcurrency globalConcurrency maxExecOld onlyVersion
        observedAt).map QueueAutoscale.applicationVersion ↔
          Recommendable latest depths onlyVersion version := by
      intro version
      rw [mem_versions_iff notNegative]
      grind
    have desired : ∀ rec ∈ computeAutoscale queue latest depths
        workerConcurrency globalConcurrency maxExecOld onlyVersion observedAt,
        rec.desiredExecutors.toInt =
          recommended workerConcurrency.toInt
            (depths.at rec.applicationVersion).toInt
            (globalConcurrency.map Int64.toInt) (maxExecOld.map Int64.toInt)
            (rec.applicationVersion = latest) := by
      intro rec member
      have recommendable := (listed _).mp (List.mem_map_of_mem member)
      rw [eq_recommendation_of_mem member]
      exact (desired_eq_iff positive notNegative capped recommendable).mpr
        (exactness _ recommendable)
    refine ⟨listed, nodup_computeAutoscale, ?_, desired, ?_⟩
    · exact latest_not_mem_tail pairwise_computeAutoscale
        nodup_computeAutoscale isLatest_computeAutoscale
    · intro rec member
      rw [desired rec member]
      apply recommended_nonneg positive (notNegative _)
      simpa using capped

end Result

/-- Five workflows of a version which is not the latest. -/
def sampleDepths : Depths :=
  (∅ : Depths).insert "v1" 5

theorem sampleDepths_at (version : String) :
    sampleDepths.at version = if version = "v1" then 5 else 0 := by
  unfold sampleDepths Depths.at
  rw [lookup_insert_eq]
  split_ifs <;> rfl

theorem sampleDepths_bounds (version : String) :
    0 ≤ (sampleDepths.at version).toInt ∧
      (sampleDepths.at version).toInt ≤ 5 := by
  rw [sampleDepths_at]
  split_ifs <;> decide

/-- Three executors would do; the global limit and the policy admit two. -/
theorem computeAutoscale_recommends_cappedTwice :
    Recommends "v2" sampleDepths 2 (some 4) (some 2) ""
      (computeAutoscale "jobs" "v2" sampleDepths 2 (some 4) (some 2) "" 0) := by
  have capped : ∀ cap : Int64, some 2 = some cap → 0 ≤ cap.toInt := by
    rintro cap ⟨⟩
    decide
  apply (computeAutoscale_recommends_iff (by decide)
    (fun version => (sampleDepths_bounds version).1) capped).mpr
  constructor
  · intro version _
    have small := (sampleDepths_bounds version).2
    have fits : Fits (2 : Int64).toInt (sampleDepths.at version).toInt :=
      le_trans (Int.add_le_add_right small _) (by decide)
    have limitFits : Fits (2 : Int64).toInt (4 : Int64).toInt := by decide
    rw [DesiredExact, if_pos fits]
    intro limit set
    obtain ⟨same, -⟩ := Option.filter_eq_some_iff.mp set
    cases same
    exact Or.inl limitFits
  · rintro ⟨unnamed, -⟩
    exact absurd unnamed (by decide)

/--
An executor which reports the greatest number as its concurrency leaves an old
version without an executor for its five workflows.
-/
theorem not_recommends_greatestConcurrency :
    0 < (9223372036854775807 : Int64).toInt ∧
      (∀ version, 0 ≤ (sampleDepths.at version).toInt) ∧
      ¬Recommends "v2" sampleDepths 9223372036854775807 none none ""
        (computeAutoscale "jobs" "v2" sampleDepths 9223372036854775807 none
          none "" 0) := by
  refine ⟨by decide, fun version => (sampleDepths_bounds version).1, ?_⟩
  intro recommends
  have found : "v1" ∈ sampleDepths := AList.mem_insert _ |>.mpr (Or.inl rfl)
  have waiting : sampleDepths.at "v1" = 5 := by
    rw [sampleDepths_at]
    rfl
  have computed : (recommendation "jobs" "v2" sampleDepths
      9223372036854775807 none none 0 "v1").desiredExecutors.toInt = 0 := by
    unfold recommendation
    rw [waiting]
    decide
  have enough : 0 < ⌈(((5 : Int64).toInt : Int) : ℚ) /
      (9223372036854775807 : Int64).toInt⌉ := by
    rw [ceil_div_pos_iff (by decide)]
    decide
  have right := recommends.desired _ (mem_computeAutoscale.mpr
    ⟨"v1", by decide, Or.inl found, Or.inr (waiting ▸ by decide), rfl⟩)
  rw [computed] at right
  have idle : recommended (9223372036854775807 : Int64).toInt
      (5 : Int64).toInt none none false = 0 := by
    rw [right]
    unfold recommendation
    rw [waiting]
    rfl
  rw [recommended_old] at idle
  exact absurd idle (ne_of_gt enough)

end DbosRelay.Api
