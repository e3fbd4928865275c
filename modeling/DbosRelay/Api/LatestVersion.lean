import DbosRelay.Api.AutoscaleEndpoints
import DbosRelay.Store.Registrations

/-!
# The latest version of an application

`latestAutoscaleVersion` of `internal/api/autoscale.go`, for an application with no
recorded latest version, takes the version of the executor which has connected
last.  An executor which registers again keeps its connection time, so what
decides is when each executor was registered first.
-/

namespace DbosRelay.Api

open DbosRelay.Applications
open DbosRelay.Basic
open DbosRelay.Library.Tables
open DbosRelay.Store

/-! ## The executor connected last -/

/-- When an executor with a version connected, and the version. -/
def ExecutorRow.versionAt (executor : ExecutorRow) : Option (Time ×ₗ String) :=
  if executor.applicationVersion = "" then none
  else
    executor.connectedAt.map fun time =>
      toLex (time, executor.applicationVersion)

/-- The best executor so far, by its key. -/
def bestKey (best : String × Time) : Time ×ₗ String :=
  toLex (best.2, best.1)

theorem bestKey_injective : Function.Injective bestKey := by
  intro first second same
  have pairs : (first.2, first.1) = (second.2, second.1) := toLex.injective same
  exact Prod.ext (congrArg Prod.snd pairs) (congrArg Prod.fst pairs)

theorem laterConnected_none (executor : ExecutorRow) :
    (laterConnected none executor).map bestKey = executor.versionAt := by
  unfold laterConnected ExecutorRow.versionAt
  cases executor.connectedAt with
  | none => exact (ite_self _).symm
  | some time =>
      by_cases empty : executor.applicationVersion = ""
      · simp [empty]
      · simp [empty, bestKey]

/-- A round of the loop keeps the greater key. -/
theorem laterConnected_some (best : String × Time) (executor : ExecutorRow) :
    (laterConnected (some best) executor).map bestKey =
      some (executor.versionAt.elim (bestKey best) (max (bestKey best))) := by
  obtain ⟨version, bestTime⟩ := best
  unfold laterConnected ExecutorRow.versionAt
  cases executor.connectedAt with
  | none => simp
  | some time =>
      by_cases empty : executor.applicationVersion = ""
      · simp [empty]
      · have later : (bestTime < time ∨
            time = bestTime ∧ version < executor.applicationVersion) ↔
              bestKey (version, bestTime) <
                toLex (time, executor.applicationVersion) := by
          rw [bestKey, Prod.Lex.toLex_lt_toLex, eq_comm]
        simp only [empty, if_false, Option.map_some, Option.elim_some, later]
        split_ifs with less
        · rw [max_eq_right less.le]
          rfl
        · rw [max_eq_left (not_lt.mp less)]
          rfl

theorem foldl_laterConnected_some (best : String × Time)
    (execs : List ExecutorRow) :
    (execs.foldl laterConnected (some best)).map bestKey =
      some ((execs.filterMap ExecutorRow.versionAt).foldl max
        (bestKey best)) := by
  induction execs generalizing best with
  | nil => rfl
  | cons executor execs induction =>
      obtain ⟨next, taken, same⟩ := Option.map_eq_some_iff.mp
        (laterConnected_some best executor)
      rw [List.foldl_cons, taken, induction, same]
      cases found : executor.versionAt with
      | none => rw [List.filterMap_cons_none found]; rfl
      | some key => rw [List.filterMap_cons_some found]; rfl

/-- The loop finds the greatest key. -/
theorem foldl_laterConnected (execs : List ExecutorRow) :
    (execs.foldl laterConnected none).map bestKey =
      (execs.filterMap ExecutorRow.versionAt).max? := by
  induction execs with
  | nil => rfl
  | cons executor execs induction =>
      have first := laterConnected_none executor
      rw [List.foldl_cons]
      cases taken : laterConnected none executor with
      | none =>
          rw [taken] at first
          rw [induction, List.filterMap_cons_none first.symm]
      | some best =>
          rw [taken] at first
          rw [foldl_laterConnected_some, List.filterMap_cons_some first.symm]
          rfl

/-! ## Without a recorded version -/

/-- The recorded latest version. -/
def recordedVersion (settings : Settings) : Option String :=
  (AppSettings.unmarshal settings).latestVersion.filter (· ≠ "")

/-- The answer is the version of the greatest key. -/
theorem latestAutoscaleVersion_of_max {settings : Settings}
    (unrecorded : recordedVersion settings = none) {execs : List ExecutorRow}
    {time : Time} {version : String}
    (greatest : (execs.filterMap ExecutorRow.versionAt).max? =
      some (toLex (time, version))) (depths : Depths) :
    latestAutoscaleVersion settings execs depths = version := by
  rw [← foldl_laterConnected, Option.map_eq_some_iff] at greatest
  obtain ⟨best, found, same⟩ := greatest
  have isBest : best = (version, time) := bestKey_injective same
  rw [isBest] at found
  unfold recordedVersion at unrecorded
  unfold latestAutoscaleVersion
  rw [unrecorded, found]

/-- A version is the answer when it has the greatest key, and only then. -/
theorem latestAutoscaleVersion_eq_iff {settings : Settings}
    (unrecorded : recordedVersion settings = none) {execs : List ExecutorRow}
    {version : String}
    (carried : ∃ time, toLex (time, version) ∈
      execs.filterMap ExecutorRow.versionAt) (depths : Depths) :
    latestAutoscaleVersion settings execs depths = version ↔
      ∀ otherTime other,
        toLex (otherTime, other) ∈ execs.filterMap ExecutorRow.versionAt →
        other ≠ version →
        ∃ time, toLex (time, version) ∈ execs.filterMap ExecutorRow.versionAt ∧
          (otherTime < time ∨ otherTime = time ∧ other < version) := by
  obtain ⟨carriedTime, carried⟩ := carried
  cases greatest : (execs.filterMap ExecutorRow.versionAt).max? with
  | none =>
      rw [List.max?_eq_none_iff] at greatest
      rw [greatest] at carried
      cases carried
  | some key =>
      obtain ⟨⟨maxTime, maxVersion⟩, rfl⟩ := toLex.surjective key
      rw [latestAutoscaleVersion_of_max unrecorded greatest]
      rw [List.max?_eq_some_iff] at greatest
      obtain ⟨member, most⟩ := greatest
      constructor
      · rintro rfl otherTime other otherMember different
        have less := most _ otherMember
        rw [Prod.Lex.toLex_le_toLex] at less
        refine ⟨maxTime, member, less.imp_right fun same => ⟨same.1, ?_⟩⟩
        exact lt_of_le_of_ne same.2 different
      · intro beaten
        by_contra different
        obtain ⟨time, versionMember, later⟩ :=
          beaten maxTime maxVersion member different
        have less : toLex (maxTime, maxVersion) < toLex (time, version) :=
          Prod.Lex.toLex_lt_toLex.mpr later
        exact absurd (most _ versionMember) (not_le.mpr less)

/-! ## Over histories -/

/-- The columns of a row which are read; its connection time is always valid. -/
def executorRow (row : Executor) : ExecutorRow :=
  ⟨row.applicationVersion, some row.connectedAt⟩

/-- The executors of an application after a history. -/
def executorsAfter (history : List Execution) (appID : UUID) :
    List ExecutorRow :=
  (listExecutorsByApplication (tableAfter history) appID).map executorRow

/-- The keys are the registrations with a version. -/
theorem mem_versionAt_executorsAfter {history : List Execution} {appID : UUID}
    {time : Time} {version : String} :
    toLex (time, version) ∈
        (executorsAfter history appID).filterMap ExecutorRow.versionAt ↔
      version ≠ "" ∧ ∃ key : ExecutorKey, key.appID = appID ∧
        registeredBy history key = some ⟨time, version⟩ := by
  unfold executorsAfter
  rw [List.filterMap_map, List.mem_filterMap]
  have keyed (row : Executor) :
      (ExecutorRow.versionAt ∘ executorRow) row = some (toLex (time, version)) ↔
        version ≠ "" ∧ row.registered = ⟨time, version⟩ := by
    show (if row.applicationVersion = "" then none
      else some (toLex (row.connectedAt, row.applicationVersion))) = _ ↔ _
    rw [Executor.registered, Registered.mk.injEq]
    split_ifs with empty
    · simp only [false_iff]
      rintro ⟨versioned, -, same⟩
      exact versioned (same ▸ empty)
    · rw [Option.some.injEq, toLex_inj, Prod.mk.injEq]
      constructor
      · rintro ⟨rfl, rfl⟩
        exact ⟨empty, rfl, rfl⟩
      · exact And.right
  constructor
  · rintro ⟨row, member, isKey⟩
    obtain ⟨versioned, registered⟩ := (keyed row).mp isKey
    obtain ⟨key, present, sameApp⟩ := mem_listExecutorsByApplication.mp member
    refine ⟨versioned, key, sameApp, ?_⟩
    rw [← lookup_tableAfter, present, ← registered]
    rfl
  · rintro ⟨versioned, key, sameApp, registered⟩
    rw [← lookup_tableAfter] at registered
    obtain ⟨row, present, same⟩ := Option.map_eq_some_iff.mp registered
    exact ⟨row, mem_listExecutorsByApplication.mpr ⟨key, present, sameApp⟩,
      (keyed row).mpr ⟨versioned, same⟩⟩

/--
A version some executor is registered with is the answer exactly when every
other version is beaten by an executor which carries it.
-/
theorem latestAutoscaleVersion_executorsAfter {settings : Settings}
    (unrecorded : recordedVersion settings = none) {history : List Execution}
    {key : ExecutorKey} {registered : Registered}
    (carried : registeredBy history key = some registered)
    (versioned : registered.version ≠ "") (depths : Depths) :
    latestAutoscaleVersion settings (executorsAfter history key.appID) depths =
        registered.version ↔
      ∀ (other : ExecutorKey) (rival : Registered),
        other.appID = key.appID → registeredBy history other = some rival →
        rival.version ≠ "" → rival.version ≠ registered.version →
        ∃ (same : ExecutorKey) (carrier : Registered),
          same.appID = key.appID ∧ registeredBy history same = some carrier ∧
            carrier.version = registered.version ∧ rival.Before carrier := by
  rw [latestAutoscaleVersion_eq_iff unrecorded
    ⟨registered.firstAt, mem_versionAt_executorsAfter.mpr
      ⟨versioned, key, rfl, carried⟩⟩]
  constructor
  · intro beaten other rival sameApp isRival rivalVersioned different
    obtain ⟨time, member, before⟩ := beaten rival.firstAt rival.version
      (mem_versionAt_executorsAfter.mpr
        ⟨rivalVersioned, other, sameApp, isRival⟩) different
    obtain ⟨-, same, sameApp, isCarrier⟩ :=
      mem_versionAt_executorsAfter.mp member
    exact ⟨same, _, sameApp, isCarrier, rfl, before⟩
  · intro beaten otherTime other member different
    obtain ⟨otherVersioned, rival, sameApp, isRival⟩ :=
      mem_versionAt_executorsAfter.mp member
    obtain ⟨same, carrier, sameApp, isCarrier, carries, before⟩ :=
      beaten rival _ sameApp isRival otherVersioned different
    refine ⟨carrier.firstAt, mem_versionAt_executorsAfter.mpr
      ⟨versioned, same, sameApp, ?_⟩, carries ▸ before⟩
    rw [isCarrier, ← carries]

/--
After every history, while the row of the executor of the most recent
registration carries the version it registered with, that version is the answer
exactly when every other version is carried only by executors which were
registered first before some executor which carries it.
-/
theorem latestAutoscaleVersion_eq_lastRegistration_iff {settings : Settings}
    (unrecorded : recordedVersion settings = none) {history : List Execution}
    {appID : UUID} {key : ExecutorKey} {version : String}
    (last : lastRegistration appID history = some (key, version))
    {row : Executor} (present : (tableAfter history).lookup key = some row)
    (unchanged : row.applicationVersion = version) (depths : Depths) :
    latestAutoscaleVersion settings (executorsAfter history appID) depths =
        version ↔
      ∀ (other : ExecutorKey) (rival : Registered),
        other.appID = appID → registeredBy history other = some rival →
        rival.version ≠ "" → rival.version ≠ version →
        ∃ (same : ExecutorKey) (carrier : Registered),
          same.appID = appID ∧ registeredBy history same = some carrier ∧
            carrier.version = version ∧ rival.Before carrier := by
  obtain ⟨rfl, versioned⟩ := lastRegistration_spec last
  have carried : registeredBy history key = some row.registered := by
    rw [← lookup_tableAfter, present]
    rfl
  subst unchanged
  exact latestAutoscaleVersion_executorsAfter unrecorded carried versioned
    depths

/-- An executor, a second one of a later version, and the first one redeployed. -/
def redeployment (appID : UUID) : List Execution :=
  [⟨1, .upsertExecutor ⟨appID, "e1"⟩ "v1" none none⟩,
    ⟨2, .upsertExecutor ⟨appID, "e2"⟩ "v2" none none⟩,
    ⟨3, .upsertExecutor ⟨appID, "e1"⟩ "v3" none none⟩]

/-- The redeployed version is not found: its executor has connected first. -/
theorem latestAutoscaleVersion_redeployment :
    recordedVersion ∅ = none ∧
      lastRegistration ⟨1⟩ (redeployment ⟨1⟩) = some (⟨⟨1⟩, "e1"⟩, "v3") ∧
      ((tableAfter (redeployment ⟨1⟩)).lookup ⟨⟨1⟩, "e1"⟩).map
          Executor.applicationVersion = some "v3" ∧
      latestAutoscaleVersion ∅ (executorsAfter (redeployment ⟨1⟩) ⟨1⟩) ∅ =
        "v2" := by
  refine ⟨by decide, by decide, by decide, by decide⟩

/-- An executor, a second one, and the second one redeployed. -/
def laterRedeployment (appID : UUID) : List Execution :=
  [⟨1, .upsertExecutor ⟨appID, "e1"⟩ "v1" none none⟩,
    ⟨2, .upsertExecutor ⟨appID, "e2"⟩ "v2" none none⟩,
    ⟨3, .upsertExecutor ⟨appID, "e2"⟩ "v3" none none⟩]

theorem latestAutoscaleVersion_laterRedeployment :
    latestAutoscaleVersion ∅ (executorsAfter (laterRedeployment ⟨1⟩) ⟨1⟩) ∅ =
      "v3" := by
  refine (@latestAutoscaleVersion_eq_lastRegistration_iff ∅ (by decide)
    (laterRedeployment ⟨1⟩) ⟨1⟩ ⟨⟨1⟩, "e2"⟩ "v3" (by decide)
    ⟨"v3", .connected, none, none, 2, 3, none⟩ (by decide) rfl ∅).mpr ?_
  intro other rival sameApp isRival versioned different
  refine ⟨⟨⟨1⟩, "e2"⟩, ⟨2, "v3"⟩, rfl, by decide, rfl, ?_⟩
  simp only [registeredBy, laterRedeployment, List.foldl_cons, List.foldl_nil,
    Registered.step] at isRival
  split_ifs at isRival with isSecond isFirst isFirst
  -- Only the first executor has kept another version.
  · cases isRival
    exact absurd rfl different
  · cases isRival
    exact absurd rfl different
  · cases isRival
    exact .inl (by decide)

/-- Where no executor registers again, the most recent version is the answer. -/
theorem latestAutoscaleVersion_of_inserting {settings : Settings}
    (unrecorded : recordedVersion settings = none) {history : List Execution}
    {appID : UUID} (inserting : Inserting appID history) {key : ExecutorKey}
    {version : String}
    (last : lastRegistration appID history = some (key, version))
    {registered : Registered}
    (isRegistered : registeredBy history key = some registered)
    (unchanged : registered.version = version) (depths : Depths) :
    latestAutoscaleVersion settings (executorsAfter history appID) depths =
      version := by
  obtain ⟨rfl, versioned⟩ := lastRegistration_spec last
  subst unchanged
  rw [latestAutoscaleVersion_executorsAfter unrecorded isRegistered versioned]
  intro other rival sameApp isRival rivalVersioned different
  refine ⟨key, registered, rfl, isRegistered, rfl, .inl ?_⟩
  apply inserting.firstAt_lt last isRegistered rfl sameApp isRival rivalVersioned
  rintro rfl
  rw [isRival, Option.some.injEq] at isRegistered
  exact different (congrArg Registered.version isRegistered)

end DbosRelay.Api
