import DbosRelay.Api.Autoscale
import DbosRelay.Applications.Settings
import DbosRelay.Identity.Handlers
import DbosRelay.Library.Results
import DbosRelay.Library.Sorting
import DbosRelay.Router.Dispatch
import Mathlib.Data.Int.ConditionallyCompleteOrder

/-!
# The autoscaling endpoints

`SetAutoscalingPolicy`, `GetAutoscale` and `GetAutoscaleVersion` of
`internal/api/autoscale.go`.  `GetAutoscale` computes the recommendations for all
versions, sorts the old ones by recency and keeps as many as the policy admits;
`GetAutoscaleVersion` computes one and makes it up for a version without work.
Both read the same answers of the store and of the executors, a `Snapshot`.
Entries of the audit log are left out.
-/

namespace DbosRelay.Api

open DbosRelay.Applications
open DbosRelay.Basic
open DbosRelay.Library.Results
open DbosRelay.Library.Sorting
open DbosRelay.Library.Tables
open DbosRelay.Protocol
open DbosRelay.Router

/-! ## Error models -/

/-- The status, title and detail of an `ErrorModel`, sent with its own status. -/
structure ErrorModel where
  status : Nat
  title : String
  detail : String
deriving DecidableEq, Repr

/-- The texts of a database's errors. -/
def databaseTexts : List String :=
  ["no rows", "SQLSTATE", "pgx", "postgres://", "failed to connect", "user=",
    "dial tcp"]

/-- `MakeErrorModel`. -/
def makeErrorModel (status : Nat) (title detail : String) : ErrorModel where
  status := status
  title := title
  detail :=
    if status = 500 then "internal server error"
    else if databaseTexts.any (contains detail) then title
    else detail

/-- `RouterErrorToModel`. -/
def routerErrorToModel (error : RouterError) : ErrorModel :=
  match error with
  | .wrapped .orgNotFound _ =>
      makeErrorModel 404 "Organisation not found" error.text
  | .wrapped .appNotFound _ =>
      makeErrorModel 404 "Application not found" error.text
  | .wrapped .operationUnsupported _ =>
      makeErrorModel 501 "Not Implemented" error.text
  | .wrapped .eventNotFound _ => makeErrorModel 404 "Not Found" error.text
  | .wrapped .noLiveExecutor _ =>
      makeErrorModel 503 "Service Unavailable" error.text
  | .wrapped .executorTimeout _ =>
      makeErrorModel 504 "Gateway Timeout" error.text
  | .wrapped .executorError _ => makeErrorModel 400 "Executor Error" error.text
  | .wrapped .storeUnavailable _ =>
      makeErrorModel 503 "Service Unavailable" "database store is unavailable"
  | .wrapped .dataPlaneUnavailable _ =>
      makeErrorModel 503 "Service Unavailable" "data-plane unavailable"
  | .wrapped .readOnlyMode _ => makeErrorModel 403 "Forbidden" error.text
  | .passed _ => makeErrorModel 500 "Internal Server Error" error.text

/-- How `fetchQueue` and `listQueuedBacklog` fail. -/
inductive QueueError where
  | validation (msg : String)
  | dispatch (error : RouterError)
deriving DecidableEq, Repr

/-- `queueDispatchError`. -/
def queueDispatchError : QueueError → ErrorModel
  | .validation msg => makeErrorModel 400 "Bad Request" msg
  | .dispatch error =>
      match error with
      | .wrapped .noLiveExecutor _ =>
          makeErrorModel 503 "Service Unavailable" error.text
      | _ => routerErrorToModel error

/-! ## What the handlers read -/

/-- The fields of `QueueOutput` which are read. -/
structure QueueOutput where
  concurrency : Option Int64
  workerConcurrency : Option Int64
  partitionQueue : Bool
deriving DecidableEq, Repr

/-- A row of `autoscaling_policies`; its only writer refuses negative limits. -/
structure AutoscalingPolicy where
  queue : String
  maxOldVersions : Option Int64
  maxExecutorsOld : Option Int64
  maxOldVersions_nonneg : ∀ most, maxOldVersions = some most → 0 ≤ most
  maxExecutorsOld_nonneg : ∀ most, maxExecutorsOld = some most → 0 ≤ most

/-- The columns of an executor which are read; `none` is a time not valid. -/
structure ExecutorRow where
  applicationVersion : String
  connectedAt : Option Time
deriving DecidableEq, Repr

/-- The names in the path of a request. -/
structure Target where
  orgName : String
  appName : String
deriving DecidableEq, Repr

/--
The answers of the store and of the executors to a request.  An executor listing
which fails is an empty one.
-/
structure Snapshot where
  organisation : Except StoreError Unit
  application : Except StoreError Settings
  policy : Except StoreError AutoscalingPolicy
  queue : String → Except QueueError QueueOutput
  backlog : String → Except QueueError Depths
  executors : List ExecutorRow

/-- `resolveAutoscaleApp`, with the settings of the application. -/
def resolveAutoscaleApp (snapshot : Snapshot) (target : Target) :
    Except ErrorModel Settings :=
  match snapshot.organisation with
  | .error .noRows =>
      .error (makeErrorModel 404 "Organisation not found"
        ("organisation " ++ (Identity.normalizeOrg target.orgName).quote ++
          " not found"))
  | .error (.failed _) =>
      .error (makeErrorModel 503 "Service Unavailable"
        "database store is unavailable")
  | .ok _ =>
      match snapshot.application with
      | .error .noRows =>
          .error (makeErrorModel 404 "Application not found"
            ("application " ++ target.appName.quote ++ " not found"))
      | .error (.failed _) =>
          .error (makeErrorModel 503 "Service Unavailable"
            "database store is unavailable")
      | .ok app => .ok app

/-! ## `SetAutoscalingPolicy` -/

/-- `RolloutPolicy`. -/
structure RolloutPolicy where
  maxExecutorsForOldApplicationVersions : Option Int64
  maxOldApplicationVersions : Option Int64
deriving DecidableEq, Repr

/-- `AutoscalePolicy`, the body of the request. -/
structure AutoscalePolicy where
  queue : String
  rollout : Option RolloutPolicy
deriving DecidableEq, Repr

/-- A limit which is set and negative. -/
def isNegative (limit : Option Int64) : Bool :=
  limit.any (· < 0)

theorem isNegative_eq_false {limit : Option Int64}
    (accepted : ¬isNegative limit = true) :
    ∀ most, limit = some most → 0 ≤ most := by
  rintro most rfl
  simpa [isNegative] using accepted

/-- The problem of a queue without a worker concurrency. -/
def noWorkerConcurrency (queue : String) : ErrorModel :=
  makeErrorModel 400 "Bad Request"
    ("queue " ++ queue.quote ++ " has no worker concurrency set")

/-- `*queue.WorkerConcurrency`, if it is set and positive. -/
def QueueOutput.workers (queue : QueueOutput) : Option Int64 :=
  queue.workerConcurrency.filter (0 < ·)

/-- `SetAutoscalingPolicy`, with the policy it stores. -/
def setAutoscalingPolicy (snapshot : Snapshot) (target : Target)
    (body : Option AutoscalePolicy) : Except ErrorModel AutoscalingPolicy := do
  let _ ← resolveAutoscaleApp snapshot target
  match body.filter (·.queue ≠ "") with
  | none =>
      throw (makeErrorModel 400 "Bad Request"
        "autoscaling policy must name a queue")
  | some body =>
      let rollout := body.rollout.getD ⟨none, none⟩
      if old : isNegative rollout.maxOldApplicationVersions then
        throw (makeErrorModel 400 "Bad Request"
          "maxOldApplicationVersions must not be negative")
      else if executors :
          isNegative rollout.maxExecutorsForOldApplicationVersions then
        throw (makeErrorModel 400 "Bad Request"
          "maxExecutorsForOldApplicationVersions must not be negative")
      else
        let queue ← (snapshot.queue body.queue).mapError queueDispatchError
        if queue.partitionQueue then
          throw (makeErrorModel 400 "Bad Request"
            ("queue " ++ body.queue.quote ++
              " is partitioned and cannot drive autoscaling"))
        else
          match queue.workers with
          | none => throw (noWorkerConcurrency body.queue)
          | some _ =>
              return {
                queue := body.queue
                maxOldVersions := rollout.maxOldApplicationVersions
                maxExecutorsOld := rollout.maxExecutorsForOldApplicationVersions
                maxOldVersions_nonneg := isNegative_eq_false old
                maxExecutorsOld_nonneg := isNegative_eq_false executors }

/-! ## The latest version -/

/-- A round of the loop for the executor connected last. -/
def laterConnected (best : Option (String × Time)) (executor : ExecutorRow) :
    Option (String × Time) :=
  match executor.connectedAt with
  | none => best
  | some time =>
      if executor.applicationVersion = "" then best
      else
        match best with
        | none => some (executor.applicationVersion, time)
        | some (version, bestTime) =>
            if bestTime < time ∨
                time = bestTime ∧ version < executor.applicationVersion then
              some (executor.applicationVersion, time)
            else best

/-- `latestAutoscaleVersion`. -/
def latestAutoscaleVersion (settings : Settings) (execs : List ExecutorRow)
    (depths : Depths) : String :=
  match (AppSettings.unmarshal settings).latestVersion.filter (· ≠ "") with
  | some version => version
  | none =>
      match execs.foldl laterConnected none with
      | some (version, _) => version
      | none =>
          depths.keys.foldl
            (fun latest version => if latest < version then version else latest)
            ""

/-! ## `GetAutoscale` and `GetAutoscaleVersion` -/

/-- What both handlers compute from. -/
structure Inputs where
  policy : AutoscalingPolicy
  workerConcurrency : Int64
  concurrency : Option Int64
  depths : Depths
  latest : String

/-- The policy of the application, or why there is none. -/
def autoscalingPolicy (snapshot : Snapshot) :
    Except ErrorModel AutoscalingPolicy :=
  match snapshot.policy with
  | .error .noRows =>
      .error (makeErrorModel 404 "Not Found"
        "no autoscaling policy configured for application")
  | .error (.failed text) =>
      .error (makeErrorModel 500 "Internal Server Error" text)
  | .ok policy => .ok policy

/-- The beginning of both handlers. -/
def autoscaleInputs (snapshot : Snapshot) (target : Target) :
    Except ErrorModel Inputs := do
  let app ← resolveAutoscaleApp snapshot target
  let policy ← autoscalingPolicy snapshot
  let queue ← (snapshot.queue policy.queue).mapError queueDispatchError
  match queue.workers with
  | none => throw (noWorkerConcurrency policy.queue)
  | some workerConcurrency =>
      let depths ← (snapshot.backlog policy.queue).mapError queueDispatchError
      return {
        policy := policy
        workerConcurrency := workerConcurrency
        concurrency := queue.concurrency
        depths := depths
        latest := latestAutoscaleVersion app snapshot.executors depths }

/-- `computeAutoscale`, of the inputs. -/
def Inputs.compute (inputs : Inputs) (onlyVersion : String)
    (observedAt : Int64) : List QueueAutoscale :=
  computeAutoscale inputs.policy.queue inputs.latest inputs.depths
    inputs.workerConcurrency inputs.concurrency inputs.policy.maxExecutorsOld
    onlyVersion observedAt

/-- When each version was connected last. -/
def latestSeen (execs : List ExecutorRow) : Table String Time :=
  execs.foldl
    (fun seen executor =>
      let time := executor.connectedAt.getD zeroTime
      if (seen.lookup executor.applicationVersion).getD zeroTime < time then
        seen.insert executor.applicationVersion time
      else seen) ∅

/-- The order of the old versions: connected versions, the last ones first. -/
def moreRecent (seen : Table String Time) (first second : QueueAutoscale) :
    Bool :=
  match seen.lookup first.applicationVersion,
      seen.lookup second.applicationVersion with
  | some _, none => true
  | none, some _ => false
  | some time, some other =>
      if time = other then second.applicationVersion < first.applicationVersion
      else other < time
  | none, none => second.applicationVersion < first.applicationVersion

/-- How many old versions the policy admits. -/
def AutoscalingPolicy.maxOld (policy : AutoscalingPolicy) : Int64 :=
  policy.maxOldVersions.getD 0

/-- The latest version's record, and as many others as are admitted. -/
def allVersions (seen : Table String Time) (maxOld : Int64)
    (recs : List QueueAutoscale) : List QueueAutoscale :=
  let latestRec := (recs.filter (·.isLatest)).getLast?
  let oldRecs := recs.filter fun rec => ¬rec.isLatest
  let oldRecs :=
    oldRecs.insertionSort fun first second => ¬moreRecent seen second first
  let oldRecs :=
    if maxOld.toInt < oldRecs.length then oldRecs.take maxOld.toInt.toNat
    else oldRecs
  latestRec.toList ++ oldRecs

/-- `GetAutoscale`. -/
def getAutoscale (snapshot : Snapshot) (target : Target)
    (observedAt : Int64) : Except ErrorModel (List QueueAutoscale) := do
  let inputs ← autoscaleInputs snapshot target
  return allVersions (latestSeen snapshot.executors) inputs.policy.maxOld
    (inputs.compute "" observedAt)

/-- The version has been heard of. -/
def Inputs.known (inputs : Inputs) (execs : List ExecutorRow)
    (version : String) : Bool :=
  version = inputs.latest || version ∈ inputs.depths ||
    execs.any fun executor => executor.applicationVersion = version

/-- The record of a known version without work. -/
def Inputs.drained (inputs : Inputs) (version : String) (observedAt : Int64) :
    QueueAutoscale where
  applicationVersion := version
  desiredExecutors := if version = inputs.latest then 1 else 0
  isLatest := version = inputs.latest
  observedAt := observedAt
  queueDepth := 0
  queueName := inputs.policy.queue

/-- The version a request is about. -/
def Inputs.resolve (inputs : Inputs) (requested : String) : String :=
  if requested = "latest" then inputs.latest else requested

/-- The response about a version, which may be missing or unknown. -/
def Inputs.respond (inputs : Inputs) (execs : List ExecutorRow)
    (requested version : String) (observedAt : Int64) :
    Except ErrorModel QueueAutoscale :=
  if version = "" then
    .error (makeErrorModel 404 "Not Found"
      "no application version is known for autoscaling")
  else if inputs.known execs version then
    match inputs.compute version observedAt with
    | [] => .ok (inputs.drained version observedAt)
    | rec :: _ => .ok rec
  else
    .error (makeErrorModel 404 "Not Found"
      ("application version " ++ requested.quote ++ " was never registered"))

/-- `GetAutoscaleVersion`. -/
def getAutoscaleVersion (snapshot : Snapshot) (target : Target)
    (requested : String) (observedAt : Int64) :
    Except ErrorModel QueueAutoscale := do
  let inputs ← autoscaleInputs snapshot target
  inputs.respond snapshot.executors requested (inputs.resolve requested)
    observedAt

/-! ## The order of the old versions -/

/-- A version not seen is before all times. -/
def seenAt (seen : Table String Time) (version : String) : WithBot Time :=
  match seen.lookup version with
  | none => ⊥
  | some time => time

/-- The order of the old versions is that of this key. -/
def recencyKey (seen : Table String Time) (rec : QueueAutoscale) :
    (WithBot Time)ᵒᵈ ×ₗ Stringᵒᵈ :=
  toLex
    (OrderDual.toDual (seenAt seen rec.applicationVersion),
      OrderDual.toDual rec.applicationVersion)

theorem moreRecent_iff {seen : Table String Time}
    {first second : QueueAutoscale} :
    moreRecent seen first second = true ↔
      recencyKey seen first < recencyKey seen second := by
  unfold moreRecent recencyKey seenAt
  rw [Prod.Lex.toLex_lt_toLex]
  cases seen.lookup first.applicationVersion with
  | none =>
      cases seen.lookup second.applicationVersion with
      | none => simp [OrderDual.toDual_lt_toDual]
      | some other =>
          have later : ¬(⊥ : WithBot Time) = (other : WithBot Time) :=
            WithBot.bot_ne_coe
          simp only [OrderDual.toDual_lt_toDual, OrderDual.toDual_inj, later,
            not_lt_bot, Bool.false_eq_true, false_and, or_false]
  | some time =>
      cases seen.lookup second.applicationVersion with
      | none =>
          have later : (⊥ : WithBot Time) < (time : WithBot Time) :=
            WithBot.bot_lt_coe time
          simp only [OrderDual.toDual_lt_toDual, later, true_or]
      | some other =>
          simp [OrderDual.toDual_lt_toDual]
          split_ifs with same
          · simp [same]
          · simp [same]

theorem version_eq_of_recencyKey_eq {seen : Table String Time}
    {first second : QueueAutoscale}
    (same : recencyKey seen first = recencyKey seen second) :
    first.applicationVersion = second.applicationVersion := by
  unfold recencyKey at same
  rw [toLex_inj, Prod.mk.injEq, OrderDual.toDual_inj, OrderDual.toDual_inj]
    at same
  exact same.2

/-! ## One version -/

section Version

variable {inputs : Inputs} {version : String} {observedAt : Int64}

/-- The recommendation for a version, of the inputs. -/
def Inputs.recommend (inputs : Inputs) (observedAt : Int64) (version : String) :
    QueueAutoscale :=
  recommendation inputs.policy.queue inputs.latest inputs.depths
    inputs.workerConcurrency inputs.concurrency inputs.policy.maxExecutorsOld
    observedAt version

/-- The version has a recommendation if all are asked for. -/
def Inputs.Reports (inputs : Inputs) (version : String) : Prop :=
  (version ∈ inputs.depths ∨ version = inputs.latest) ∧
    (version = inputs.latest ∨ inputs.depths.at version ≠ 0)

instance : Decidable (inputs.Reports version) :=
  inferInstanceAs (Decidable ((_ ∨ _) ∧ (_ ∨ _)))

theorem mem_compute_all {rec : QueueAutoscale}
    (named : rec.applicationVersion ≠ "") :
    rec ∈ inputs.compute "" observedAt ↔
      inputs.Reports rec.applicationVersion ∧
        rec = inputs.recommend observedAt rec.applicationVersion := by
  unfold Inputs.compute
  rw [mem_computeAutoscale]
  constructor
  · rintro ⟨version, -, known, kept, rfl⟩
    exact ⟨⟨known.imp_right And.left, kept⟩, rfl⟩
  · rintro ⟨⟨known, kept⟩, same⟩
    refine ⟨rec.applicationVersion, rfl, ?_, kept, same⟩
    exact known.imp_right fun isLatest => ⟨isLatest, isLatest ▸ named⟩

theorem mem_compute_only {rec : QueueAutoscale} (named : version ≠ "") :
    rec ∈ inputs.compute version observedAt ↔
      inputs.Reports version ∧ rec = inputs.recommend observedAt version := by
  unfold Inputs.compute
  rw [mem_computeAutoscale]
  constructor
  · rintro ⟨other, scope, known, kept, rfl⟩
    have same : other = version := by
      simpa [inScope, named] using scope
    subst same
    exact ⟨⟨known.imp_right And.left, kept⟩, rfl⟩
  · rintro ⟨⟨known, kept⟩, rfl⟩
    refine ⟨version, by simp [inScope], ?_, kept, rfl⟩
    exact known.imp_right fun isLatest => ⟨isLatest, isLatest ▸ named⟩

/-- A version asked for alone has its recommendation or none. -/
theorem compute_only (named : version ≠ "") :
    inputs.Reports version ∧
        inputs.compute version observedAt =
          [inputs.recommend observedAt version] ∨
      ¬inputs.Reports version ∧ inputs.compute version observedAt = [] := by
  by_cases reports : inputs.Reports version
  · refine Or.inl ⟨reports, List.perm_singleton.mp ?_⟩
    have once : (inputs.compute version observedAt).Nodup :=
      nodup_computeAutoscale.of_map _
    rw [List.perm_ext_iff_of_nodup once (List.nodup_singleton _)]
    intro rec
    rw [mem_compute_only named, List.mem_singleton, and_iff_right reports]
  · refine Or.inr ⟨reports, List.eq_nil_iff_forall_not_mem.mpr ?_⟩
    intro rec member
    exact reports ((mem_compute_only named).mp member).1

theorem known_of_reports {execs : List ExecutorRow}
    (reports : inputs.Reports version) :
    inputs.known execs version = true := by
  unfold Inputs.known
  rcases reports.1 with known | isLatest
  · simp [known]
  · simp [isLatest]

end Version

/-! ## All versions -/

section AllVersions

variable {seen : Table String Time} {maxOld : Int64} {latest : String}
variable {recs : List QueueAutoscale} {rec : QueueAutoscale}

/-- The old versions, sorted. -/
def oldVersions (seen : Table String Time) (recs : List QueueAutoscale) :
    List QueueAutoscale :=
  (recs.filter fun rec => ¬rec.isLatest).insertionSort
    fun first second => ¬moreRecent seen second first

theorem mem_oldVersions :
    rec ∈ oldVersions seen recs ↔ rec ∈ recs ∧ rec.isLatest = false := by
  unfold oldVersions
  rw [List.mem_insertionSort, List.mem_filter, decide_eq_true_iff,
    Bool.not_eq_true]

theorem pairwise_oldVersions (seen : Table String Time)
    (recs : List QueueAutoscale) :
    (oldVersions seen recs).Pairwise fun first second =>
      recencyKey seen first ≤ recencyKey seen second := by
  apply pairwise_insertionSort_key
  intro first second
  rw [moreRecent_iff, not_lt]

theorem allVersions_eq (admitted : 0 ≤ maxOld) :
    allVersions seen maxOld recs =
      (recs.filter (·.isLatest)).getLast?.toList ++
        (oldVersions seen recs).take maxOld.toInt.toNat := by
  have nonneg : 0 ≤ maxOld.toInt := by
    rwa [Int64.le_iff_toInt_le] at admitted
  unfold allVersions
  show _ ++ (if _ < ((oldVersions seen recs).length : Int) then
    (oldVersions seen recs).take _ else oldVersions seen recs) = _
  split_ifs with tooMany
  · rfl
  · rw [List.take_of_length_le]
    omega

theorem mem_of_mem_allVersions (admitted : 0 ≤ maxOld)
    (member : rec ∈ allVersions seen maxOld recs) : rec ∈ recs := by
  rw [allVersions_eq admitted, List.mem_append, Option.mem_toList] at member
  rcases member with latestRec | oldRec
  · exact List.mem_of_mem_filter (List.mem_of_getLast? latestRec)
  · exact (mem_oldVersions.mp (List.mem_of_mem_take oldRec)).1

/--
The policy's limit has cut the record off: as many old versions as are admitted are
listed, and all of them are more recent.
-/
structure CutOff (seen : Table String Time) (maxOld : Int64)
    (out : List QueueAutoscale) (rec : QueueAutoscale) : Prop where
  old : rec.isLatest = false
  full : ((out.filter fun rec => ¬rec.isLatest).length : Int) = maxOld.toInt
  recent : ∀ other ∈ out, other.isLatest = false →
    moreRecent seen other rec = true

theorem filter_old_allVersions (admitted : 0 ≤ maxOld) :
    (allVersions seen maxOld recs).filter (fun rec => ¬rec.isLatest) =
      (oldVersions seen recs).take maxOld.toInt.toNat := by
  have noOld : (recs.filter (·.isLatest)).getLast?.toList.filter
      (fun rec => ¬rec.isLatest) = [] := by
    rw [List.filter_eq_nil_iff]
    intro rec latestRec
    rw [Option.mem_toList] at latestRec
    have isLatest := (List.mem_filter.mp (List.mem_of_getLast? latestRec)).2
    simpa using isLatest
  rw [allVersions_eq admitted, List.filter_append, noOld, List.nil_append,
    List.filter_eq_self]
  intro rec member
  have old := (mem_oldVersions.mp (List.mem_of_mem_take member)).2
  simpa using old

section Once

variable (once : (recs.map QueueAutoscale.applicationVersion).Nodup)
include once

theorem latest_mem_allVersions (admitted : 0 ≤ maxOld)
    (marked : ∀ rec ∈ recs,
      rec.isLatest = decide (rec.applicationVersion = latest))
    (member : rec ∈ recs) (isLatest : rec.isLatest = true) :
    rec ∈ allVersions seen maxOld recs := by
  have kept : rec ∈ recs.filter (·.isLatest) :=
    List.mem_filter.mpr ⟨member, isLatest⟩
  have found := List.getLast?_eq_some_getLast (List.ne_nil_of_mem kept)
  generalize (recs.filter (·.isLatest)).getLast _ = last at found
  obtain ⟨lastMember, lastLatest⟩ :=
    List.mem_filter.mp (List.mem_of_getLast? found)
  have named : ∀ rec ∈ recs, rec.isLatest = true →
      rec.applicationVersion = latest := by
    intro rec member isLatest
    rw [marked rec member] at isLatest
    exact of_decide_eq_true isLatest
  have same : rec = last := by
    apply List.inj_on_of_nodup_map once member lastMember
    rw [named rec member isLatest, named last lastMember lastLatest]
  rw [allVersions_eq admitted, found, same]
  exact List.mem_append_left _ List.mem_cons_self

/-- An old version is listed unless the limit cuts it off. -/
theorem old_mem_or_cutOff (admitted : 0 ≤ maxOld) (member : rec ∈ recs)
    (old : rec.isLatest = false) :
    rec ∈ allVersions seen maxOld recs ∨
      CutOff seen maxOld (allVersions seen maxOld recs) rec := by
  have sorted : rec ∈ oldVersions seen recs :=
    mem_oldVersions.mpr ⟨member, old⟩
  have listed := @filter_old_allVersions seen maxOld recs admitted
  by_cases kept : rec ∈ (oldVersions seen recs).take maxOld.toInt.toNat
  · rw [allVersions_eq admitted]
    exact Or.inl (List.mem_append_right _ kept)
  · refine Or.inr ⟨old, ?_, ?_⟩
    · have longer : maxOld.toInt.toNat < (oldVersions seen recs).length := by
        by_contra short
        rw [List.take_of_length_le (not_lt.mp short)] at kept
        exact kept sorted
      rw [listed, List.length_take_of_le (le_of_lt longer), Int.toNat_of_nonneg]
      rwa [Int64.le_iff_toInt_le] at admitted
    · intro other otherMember otherOld
      have otherKept : other ∈ (oldVersions seen recs).take
          maxOld.toInt.toNat := by
        rw [← listed, List.mem_filter]
        exact ⟨otherMember, by simpa using otherOld⟩
      have notAfter := rel_of_mem_take_of_not_mem
        (pairwise_oldVersions seen recs) otherKept sorted kept
      rw [moreRecent_iff]
      apply lt_of_le_of_ne notAfter
      intro sameKey
      have same : other = rec :=
        List.inj_on_of_nodup_map once
          (mem_of_mem_allVersions admitted otherMember) member
          (version_eq_of_recencyKey_eq sameKey)
      exact kept (same ▸ otherKept)

end Once

end AllVersions

/-! ## Agreement -/

/-- The endpoints agree on every version which is not cut off. -/
structure EndpointsAgree (snapshot : Snapshot) (target : Target) : Prop where
  listed : ∀ listedAt observedAt out,
    getAutoscale snapshot target listedAt = .ok out →
      ∀ rec ∈ out, rec.applicationVersion ≠ "" →
        rec.applicationVersion ≠ "latest" →
          getAutoscaleVersion snapshot target rec.applicationVersion
              observedAt =
            .ok { rec with observedAt := observedAt }
  reported : ∀ listedAt observedAt requested rec,
    getAutoscaleVersion snapshot target requested observedAt = .ok rec →
      0 < rec.queueDepth.toInt ∨ rec.isLatest = true →
        ∃ policy out, snapshot.policy = .ok policy ∧
          getAutoscale snapshot target listedAt = .ok out ∧
          ({ rec with observedAt := listedAt } ∈ out ∨
            CutOff (latestSeen snapshot.executors) policy.maxOld out rec)

theorem autoscalingPolicy_eq_ok {snapshot : Snapshot}
    {policy : AutoscalingPolicy}
    (read : autoscalingPolicy snapshot = .ok policy) :
    snapshot.policy = .ok policy := by
  unfold autoscalingPolicy at read
  split at read
  · cases read
  · cases read
  · rename_i found
    cases read
    exact found

theorem autoscaleInputs_policy {snapshot : Snapshot} {target : Target}
    {inputs : Inputs} (read : autoscaleInputs snapshot target = .ok inputs) :
    snapshot.policy = .ok inputs.policy := by
  unfold autoscaleInputs at read
  obtain ⟨app, -, read⟩ := bind_ok_iff.mp read
  obtain ⟨policy, found, read⟩ := bind_ok_iff.mp read
  obtain ⟨queue, -, read⟩ := bind_ok_iff.mp read
  split at read
  · cases read
  · obtain ⟨depths, -, read⟩ := bind_ok_iff.mp read
    cases read
    exact autoscalingPolicy_eq_ok found

theorem getAutoscale_eq_ok {snapshot : Snapshot} {target : Target}
    {observedAt : Int64} {out : List QueueAutoscale} :
    getAutoscale snapshot target observedAt = .ok out ↔
      ∃ inputs, autoscaleInputs snapshot target = .ok inputs ∧
        allVersions (latestSeen snapshot.executors) inputs.policy.maxOld
          (inputs.compute "" observedAt) = out := by
  unfold getAutoscale
  rw [bind_ok_iff]
  simp only [pure, Except.pure, Except.ok.injEq]

/-- The response about a version: its recommendation, or that it has no work. -/
theorem respond_eq_ok {inputs : Inputs} {execs : List ExecutorRow}
    {requested version : String} {observedAt : Int64} {rec : QueueAutoscale} :
    inputs.respond execs requested version observedAt = .ok rec ↔
      version ≠ "" ∧ inputs.known execs version = true ∧
        rec =
          if inputs.Reports version then inputs.recommend observedAt version
          else inputs.drained version observedAt := by
  unfold Inputs.respond
  by_cases named : version = ""
  · simp [named]
  · by_cases known : inputs.known execs version = true
    · rw [if_neg named, if_pos known, and_iff_right named,
        and_iff_right known, eq_comm (a := rec)]
      rcases @compute_only inputs version observedAt named with
        ⟨reports, computed⟩ | ⟨unreported, computed⟩
      · rw [computed, if_pos reports, Except.ok.injEq]
      · rw [computed, if_neg unreported, Except.ok.injEq]
    · simp [named, known]

theorem getAutoscaleVersion_eq_ok {snapshot : Snapshot} {target : Target}
    {requested : String} {observedAt : Int64} {rec : QueueAutoscale} :
    getAutoscaleVersion snapshot target requested observedAt = .ok rec ↔
      ∃ inputs, autoscaleInputs snapshot target = .ok inputs ∧
        inputs.respond snapshot.executors requested
          (inputs.resolve requested) observedAt = .ok rec :=
  bind_ok_iff

theorem AutoscalingPolicy.maxOld_nonneg (policy : AutoscalingPolicy) :
    0 ≤ policy.maxOld := by
  unfold maxOld
  cases limit : policy.maxOldVersions with
  | none => exact Int64.le_refl 0
  | some most => exact policy.maxOldVersions_nonneg most limit

/--
Alone or among all, a version has one record, up to the time of observation; the
policy's limit on old versions is all that keeps one off the list.
-/
theorem endpointsAgree (snapshot : Snapshot) (target : Target) :
    EndpointsAgree snapshot target := by
  constructor
  · intro listedAt observedAt out found rec member named notAlias
    obtain ⟨inputs, read, rfl⟩ := getAutoscale_eq_ok.mp found
    have computed := mem_of_mem_allVersions inputs.policy.maxOld_nonneg member
    obtain ⟨reports, same⟩ := (mem_compute_all named).mp computed
    have resolved : inputs.resolve rec.applicationVersion =
        rec.applicationVersion := if_neg notAlias
    rw [getAutoscaleVersion_eq_ok]
    refine ⟨inputs, read, ?_⟩
    rw [respond_eq_ok, resolved, if_pos reports]
    refine ⟨named, known_of_reports reports, ?_⟩
    generalize rec.applicationVersion = version at same
    rw [same]
    rfl
  · intro listedAt observedAt requested rec found counted
    obtain ⟨inputs, read, response⟩ := getAutoscaleVersion_eq_ok.mp found
    obtain ⟨named, -, rfl⟩ := respond_eq_ok.mp response
    generalize inputs.resolve requested = version at named counted ⊢
    refine ⟨inputs.policy, _, autoscaleInputs_policy read,
      getAutoscale_eq_ok.mpr ⟨inputs, read, rfl⟩, ?_⟩
    have admitted := inputs.policy.maxOld_nonneg
    have reports : inputs.Reports version := by
      by_contra unreported
      rw [if_neg unreported] at counted
      have idle : ¬(0 : Int) < (0 : Int64).toInt := by decide
      rcases counted with waiting | isLatest
      · exact idle waiting
      · have same : version = inputs.latest := of_decide_eq_true isLatest
        exact unreported ⟨Or.inr same, Or.inl same⟩
    rw [if_pos reports] at counted ⊢
    have member : inputs.recommend listedAt version ∈
        inputs.compute "" listedAt :=
      (mem_compute_all named).mpr ⟨reports, rfl⟩
    by_cases isLatest : version = inputs.latest
    · exact Or.inl (latest_mem_allVersions nodup_computeAutoscale admitted
        isLatest_computeAutoscale member (decide_eq_true isLatest))
    · rcases @old_mem_or_cutOff (latestSeen snapshot.executors) _ _ _
        nodup_computeAutoscale admitted member (decide_eq_false isLatest)
        with listed | cut
      · exact Or.inl listed
      · exact Or.inr ⟨cut.old, cut.full, cut.recent⟩

end DbosRelay.Api
