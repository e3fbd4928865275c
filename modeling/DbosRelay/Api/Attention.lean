import DbosRelay.Alerting.Evaluation
import DbosRelay.Api.AutoscaleEndpoints
import DbosRelay.Library.GoAny
import DbosRelay.Library.Sorting
import Mathlib.Data.List.Dedup

/-!
# The needs-attention board

`GetNeedsAttention` of `internal/api/attention.go` and its route.  The board shows
what is wrong among the fifty newest workflows of each status it lists.  Its limit
for stuck workflows is the one it is called with, and the one in the settings of
the application only if there is none; the route always gives one.
-/

namespace DbosRelay.Api

open DbosRelay.Alerting (FloatConversion)
open DbosRelay.Applications
open DbosRelay.Basic
open DbosRelay.Library.GoJson
open DbosRelay.Library.Sorting
open DbosRelay.Library.Tables
open DbosRelay.Router

/-! ## What the board is made from -/

/-- The fields of `ListWorkflowsRequestBody` which are set. -/
structure AttentionQuery where
  status : List String
  limit : Nat
  sortDesc : Bool
deriving DecidableEq, Repr

/-- The fields of a listed workflow; its time is as `parseTimeString` reads it. -/
structure AttentionWorkflow where
  workflowUUID : String
  applicationVersion : Option String
  createdAt : Option Time
  forkedFrom : Option String
  wasForkedFrom : Option Bool
deriving DecidableEq, Repr

/-- The columns of an executor which are read. -/
structure AttentionExecutor where
  status : String
  applicationVersion : String
deriving DecidableEq, Repr

/-- The columns of a recovery dispatch which are read. -/
structure RecoveryDispatch where
  deadExecutorID : String
  dispatchedAt : Option Time
deriving DecidableEq, Repr

/--
The answers of the store and of the router.  A listing which fails, or is answered
by a message of another type, is `none`.
-/
structure AttentionSnapshot where
  now : Time
  organisation : Except StoreError Unit
  application : Except StoreError Settings
  router : Option (AttentionQuery → Option (List AttentionWorkflow))
  executors : List AttentionExecutor
  recoveries : Option (Time → Nat → Option (List RecoveryDispatch))

/-- `FlappingExecutor`. -/
structure FlappingExecutor where
  executorID : String
  recoveryCount : Nat
  lastRecovery : Time
deriving DecidableEq, Repr

/-- `NeedsAttentionReport`. -/
structure NeedsAttentionReport where
  failedWorkflows : List AttentionWorkflow
  stuckWorkflows : List AttentionWorkflow
  orphanedWorkflows : List AttentionWorkflow
  strandedForks : List AttentionWorkflow
  flappingExecutors : List FlappingExecutor
  totalNeedsAttention : Nat
deriving DecidableEq, Repr

/-! ## The limit for stuck workflows -/

mutual

/-- Every number of a document is in the range of `float64`. -/
def inFloatRange : Json → Bool
  | .number literal => (roundFloat64 literal.value).isSome
  | .array elements => elementsInFloatRange elements
  | .object members => membersInFloatRange members
  | _ => true

/-- Every number of the elements is. -/
def elementsInFloatRange : List Json → Bool
  | [] => true
  | json :: elements => inFloatRange json && elementsInFloatRange elements

/-- Every number of the members is. -/
def membersInFloatRange : List (String × Json) → Bool
  | [] => true
  | (_, json) :: members => inFloatRange json && membersInFloatRange members

end

/-- `15 * time.Minute`. -/
def defaultStuckSLA : Duration := 15 * (60 * second)

/-- The limit in the settings, if they can be read and it is positive. -/
def settingsStuckSLA (conversion : FloatConversion) (settings : Settings) :
    Option Duration :=
  if inFloatRange (.object settings.members) then
    match settings.lookup "stuck_sla_secs" with
    | some (.number literal) =>
        ((roundFloat64 literal.value).filter (0 < ·)).map fun secs =>
          int64 (conversion.toInt secs * second)
    | _ => none
  else none

/-- The limit which is used. -/
def effectiveStuckSLA (conversion : FloatConversion) (settings : Settings)
    (stuckSLA : Duration) : Duration :=
  if stuckSLA ≤ 0 then
    (settingsStuckSLA conversion settings).getD defaultStuckSLA
  else stuckSLA

/-! ## The board -/

/-- `limit`. -/
def attentionLimit : Nat := 50

/-- The listing of a status, newest first; nothing where it fails. -/
def listByStatus (snapshot : AttentionSnapshot) (status : List String) :
    List AttentionWorkflow :=
  ((snapshot.router.bind fun dispatch =>
    dispatch ⟨status, attentionLimit, true⟩)).getD []

/-- `activeVersions`. -/
def activeVersions (snapshot : AttentionSnapshot) : List String :=
  (snapshot.executors.filter fun executor =>
    executor.status = "connected" ∧ executor.applicationVersion ≠ "").map
      AttentionExecutor.applicationVersion

/-- The workflow has a version, and none of the active versions is it. -/
def AttentionWorkflow.isOrphaned (workflow : AttentionWorkflow)
    (versions : List String) : Bool :=
  workflow.applicationVersion.any fun version =>
    decide (version ≠ "" ∧ version ∉ versions ∧ versions ≠ [])

/-- The workflow was created longer ago than the limit. -/
def AttentionWorkflow.isStuck (workflow : AttentionWorkflow) (now : Time)
    (stuckSLA : Duration) : Bool :=
  workflow.createdAt.any fun created =>
    decide (created ≠ zeroTime ∧ stuckSLA < timeSub now created)

/-- The workflow is a fork. -/
def AttentionWorkflow.isFork (workflow : AttentionWorkflow) : Bool :=
  workflow.forkedFrom.any (· ≠ "") || workflow.wasForkedFrom.getD false

/-- The executors with more than one dispatch, in the order of a map. -/
def flappingExecutors (dispatches : List RecoveryDispatch) :
    List FlappingExecutor :=
  let ids := dispatches.map RecoveryDispatch.deadExecutorID
  (ids.dedup.filter fun id => 1 < ids.count id).map fun id =>
    { executorID := id
      recoveryCount := ids.count id
      lastRecovery :=
        ((dispatches.filter (·.deadExecutorID = id)).filterMap
          RecoveryDispatch.dispatchedAt).foldl max zeroTime }

/-- The dispatches of the past hour; nothing where the store cannot tell. -/
def recentRecoveries (snapshot : AttentionSnapshot) : List RecoveryDispatch :=
  (snapshot.recoveries.bind fun listRecent =>
    listRecent (snapshot.now + -1 * (3600 * second)) 100).getD []

/-- The report, once the application is found. -/
def attentionReport (snapshot : AttentionSnapshot) (stuckSLA : Duration) :
    NeedsAttentionReport :=
  let versions := activeVersions snapshot
  let failed := listByStatus snapshot ["ERROR", "FAILED"]
  let pending := listByStatus snapshot ["PENDING"]
  let stuck := pending.filter fun workflow =>
    workflow.isStuck snapshot.now stuckSLA
  let orphaned := pending.filter fun workflow => workflow.isOrphaned versions
  let stranded := (listByStatus snapshot ["ENQUEUED"]).filter fun workflow =>
    workflow.isFork && workflow.isOrphaned versions
  let flapping := flappingExecutors (recentRecoveries snapshot)
  { failedWorkflows := failed
    stuckWorkflows := stuck
    orphanedWorkflows := orphaned
    strandedForks := stranded
    flappingExecutors := flapping
    totalNeedsAttention :=
      failed.length + stuck.length + orphaned.length + stranded.length +
        flapping.length }

/-- `GetNeedsAttention`. -/
def getNeedsAttention (conversion : FloatConversion)
    (snapshot : AttentionSnapshot) (target : Target) (stuckSLA : Duration) :
    Except ErrorModel NeedsAttentionReport :=
  match snapshot.organisation with
  | .error .noRows =>
      .error (makeErrorModel 404 "Not Found"
        ("organisation " ++ (Identity.normalizeOrg target.orgName).quote ++
          " not found"))
  | .error (.failed _) =>
      .error (makeErrorModel 503 "Service Unavailable"
        "database store is unavailable")
  | .ok _ =>
      match snapshot.application with
      | .error .noRows =>
          .error (makeErrorModel 404 "Not Found"
            ("application " ++ target.appName.quote ++ " not found"))
      | .error (.failed _) =>
          .error (makeErrorModel 503 "Service Unavailable"
            "database store is unavailable")
      | .ok settings =>
          .ok (attentionReport snapshot
            (effectiveStuckSLA conversion settings stuckSLA))

/-- `needsAttentionHandler`, which gives a limit of its own. -/
def needsAttentionHandler (conversion : FloatConversion)
    (snapshot : AttentionSnapshot) (target : Target) :
    Except ErrorModel NeedsAttentionReport :=
  getNeedsAttention conversion snapshot target (15 * (60 * second))

theorem length_stuckWorkflows_le (snapshot : AttentionSnapshot)
    (stuckSLA : Duration) :
    (attentionReport snapshot stuckSLA).stuckWorkflows.length ≤
      (attentionReport snapshot stuckSLA).totalNeedsAttention := by
  show (List.filter _ _).length ≤ _ + (List.filter _ _).length + _ + _ + _
  omega

/-! ## An application which is listed -/

/-- A workflow of an application, its time in milliseconds since the epoch. -/
structure StoredWorkflow where
  status : String
  workflowUUID : String
  applicationVersion : Option String
  createdAtMs : Nat
  forkedFrom : Option String
  wasForkedFrom : Option Bool
deriving DecidableEq, Repr

/-- When a workflow was created. -/
def StoredWorkflow.createdAt (workflow : StoredWorkflow) : Time :=
  workflow.createdAtMs * 1000000

/-- The workflow as it is listed. -/
def StoredWorkflow.listed (workflow : StoredWorkflow) : AttentionWorkflow where
  workflowUUID := workflow.workflowUUID
  applicationVersion := workflow.applicationVersion
  createdAt := some workflow.createdAt
  forkedFrom := workflow.forkedFrom
  wasForkedFrom := workflow.wasForkedFrom

/-- The workflows of a status, newest first. -/
def newestByStatus (workflows : List StoredWorkflow) (status : List String) :
    List StoredWorkflow :=
  (workflows.filter (·.status ∈ status)).insertionSort
    fun first second => second.createdAtMs ≤ first.createdAtMs

/-- What an executor answers: the newest workflows, as many as are asked for. -/
def answerNewest (workflows : List StoredWorkflow) (query : AttentionQuery) :
    Option (List AttentionWorkflow) :=
  some (((newestByStatus workflows query.status).take query.limit).map
    StoredWorkflow.listed)

/-- The application is found, and an executor answers the listings. -/
def AttentionSnapshot.reachable (snapshot : AttentionSnapshot)
    (settings : Settings) (workflows : List StoredWorkflow) :
    AttentionSnapshot :=
  { snapshot with
    organisation := .ok ()
    application := .ok settings
    router := some (answerNewest workflows) }

/-- The seconds the settings configure, if they are a positive number. -/
def configuredSeconds (settings : Settings) : Option ℚ :=
  match settings.lookup "stuck_sla_secs" with
  | some (.number literal) => if 0 < literal.value then some literal.value else none
  | _ => none

/-- The limit which is configured, by default a quarter of an hour. -/
def configuredStuckSLA (settings : Settings) : ℚ :=
  ((configuredSeconds settings).getD 900) * second

/-- A `PENDING` workflow older than the limit which is configured. -/
def StoredWorkflow.IsStuck (workflow : StoredWorkflow) (settings : Settings)
    (now : Time) : Prop :=
  workflow.status = "PENDING" ∧
    configuredStuckSLA settings < (now - workflow.createdAt : ℚ)

/-- A workflow not older than a quarter of an hour. -/
def StoredWorkflow.IsYoung (workflow : StoredWorkflow) (now : Time) : Prop :=
  now - workflow.createdAt ≤ defaultStuckSLA

instance (workflow : StoredWorkflow) (now : Time) :
    Decidable (workflow.IsYoung now) :=
  inferInstanceAs (Decidable (_ ≤ _))

/-- The board has something to show besides stuck workflows. -/
def AttentionSnapshot.ShowsOther (snapshot : AttentionSnapshot)
    (workflows : List StoredWorkflow) : Prop :=
  (∃ workflow ∈ workflows, workflow.status ∈ ["ERROR", "FAILED"]) ∨
  (∃ workflow ∈ (newestByStatus workflows ["PENDING"]).take attentionLimit,
    workflow.listed.isOrphaned (activeVersions snapshot) = true) ∨
  (∃ workflow ∈ (newestByStatus workflows ["ENQUEUED"]).take attentionLimit,
    (workflow.listed.isFork &&
      workflow.listed.isOrphaned (activeVersions snapshot)) = true) ∨
  ∃ id, 1 < ((recentRecoveries snapshot).map
    RecoveryDispatch.deadExecutorID).count id

/-! ## What the route shows -/

section Reachable

variable (conversion : FloatConversion) (snapshot : AttentionSnapshot)
variable (settings : Settings) (workflows : List StoredWorkflow)
variable (target : Target)

/-- The route shows the report with its own limit, whatever the settings. -/
theorem needsAttentionHandler_reachable :
    needsAttentionHandler conversion (snapshot.reachable settings workflows)
        target =
      .ok (attentionReport (snapshot.reachable settings workflows)
        defaultStuckSLA) :=
  rfl

theorem listByStatus_reachable (status : List String) :
    listByStatus (snapshot.reachable settings workflows) status =
      ((newestByStatus workflows status).take attentionLimit).map
        StoredWorkflow.listed :=
  rfl

/-- A workflow is listed as stuck when it is not young. -/
theorem isStuck_listed_iff (workflow : StoredWorkflow) (now : Time) :
    workflow.listed.isStuck now defaultStuckSLA = true ↔
      ¬workflow.IsYoung now := by
  have nonzero : workflow.createdAt ≠ zeroTime := by
    have nonneg : 0 ≤ workflow.createdAt := by
      unfold StoredWorkflow.createdAt
      positivity
    exact (lt_of_lt_of_le (by decide) nonneg).ne'
  show decide (workflow.createdAt ≠ zeroTime ∧
    defaultStuckSLA < timeSub now workflow.createdAt) = true ↔ _
  rw [decide_eq_true_iff, and_iff_right nonzero, StoredWorkflow.IsYoung, not_le]
  unfold timeSub
  have inRange : defaultStuckSLA < maxInt64 := by decide
  have above : minInt64 ≤ defaultStuckSLA := by decide
  rw [lt_max_iff, lt_min_iff]
  constructor
  · rintro (impossible | ⟨-, late⟩)
    · exact absurd above (not_le.mpr impossible)
    · exact late
  · intro late
    exact .inr ⟨inRange, late⟩

theorem mem_newestByStatus {status : List String} {workflow : StoredWorkflow} :
    workflow ∈ newestByStatus workflows status ↔
      workflow ∈ workflows ∧ workflow.status ∈ status := by
  unfold newestByStatus
  rw [List.mem_insertionSort, List.mem_filter, decide_eq_true_iff]

/-- Some workflow is listed when there is one of the status. -/
theorem listByStatus_ne_nil_iff (status : List String) :
    listByStatus (snapshot.reachable settings workflows) status ≠ [] ↔
      ∃ workflow ∈ workflows, workflow.status ∈ status := by
  rw [listByStatus_reachable, ne_eq, List.map_eq_nil_iff, List.take_eq_nil_iff,
    or_iff_right (by decide), List.eq_nil_iff_forall_not_mem, not_forall_not]
  simp only [mem_newestByStatus]

/-- Young workflows come first, so they hide the others when they are fifty. -/
theorem exists_old_listed_iff (now : Time) :
    (∃ workflow ∈ (newestByStatus workflows ["PENDING"]).take attentionLimit,
        ¬workflow.IsYoung now) ↔
      (workflows.countP fun workflow =>
          workflow.status = "PENDING" ∧ workflow.IsYoung now) < 50 ∧
        ∃ workflow ∈ workflows, workflow.status = "PENDING" ∧
          ¬workflow.IsYoung now := by
  have sorted : (newestByStatus workflows ["PENDING"]).Pairwise
      fun before after => after.IsYoung now → before.IsYoung now := by
    have newest := @pairwise_insertionSort_key StoredWorkflow Natᵒᵈ _
      (fun workflow => OrderDual.toDual workflow.createdAtMs)
      (fun first second => second.createdAtMs ≤ first.createdAtMs) _
      (fun _ _ => Iff.rfl) (workflows.filter (·.status ∈ ["PENDING"]))
    apply newest.imp
    intro before after later isYoung
    have laterMs : after.createdAtMs ≤ before.createdAtMs := later
    have laterTime : after.createdAt ≤ before.createdAt := by
      unfold StoredWorkflow.createdAt
      exact_mod_cast Nat.mul_le_mul_right 1000000 laterMs
    unfold StoredWorkflow.IsYoung at isYoung ⊢
    linarith
  have counted : (newestByStatus workflows ["PENDING"]).countP
      (fun workflow => workflow.IsYoung now) =
        workflows.countP fun workflow =>
          workflow.status = "PENDING" ∧ workflow.IsYoung now := by
    unfold newestByStatus
    rw [(List.perm_insertionSort _ _).countP_eq, List.countP_filter]
    simp only [List.mem_singleton, Bool.decide_and, Bool.and_comm]
  rw [exists_mem_take_iff sorted, counted]
  simp only [mem_newestByStatus, List.mem_singleton, and_assoc, attentionLimit]

/-- An executor flaps when it has more than one dispatch. -/
theorem flappingExecutors_ne_nil_iff (dispatches : List RecoveryDispatch) :
    flappingExecutors dispatches ≠ [] ↔
      ∃ id, 1 < (dispatches.map RecoveryDispatch.deadExecutorID).count id := by
  unfold flappingExecutors
  rw [ne_eq, List.map_eq_nil_iff, List.eq_nil_iff_forall_not_mem, not_forall_not]
  constructor
  · rintro ⟨id, member⟩
    exact ⟨id, by simpa using (List.mem_filter.mp member).2⟩
  · rintro ⟨id, many⟩
    refine ⟨id, List.mem_filter.mpr ⟨?_, by simpa using many⟩⟩
    exact List.mem_dedup.mpr (List.count_pos_iff.mp (by omega))

/-- Some listed workflow is kept by a filter. -/
theorem filter_listByStatus_ne_nil_iff (status : List String)
    (keeps : AttentionWorkflow → Bool) :
    (listByStatus (snapshot.reachable settings workflows) status).filter keeps ≠
        [] ↔
      ∃ workflow ∈ (newestByStatus workflows status).take attentionLimit,
        keeps workflow.listed = true := by
  rw [listByStatus_reachable, ne_eq, List.filter_eq_nil_iff, List.forall_mem_map]
  push Not
  rfl

/-- What makes the board not empty. -/
theorem totalNeedsAttention_pos_iff :
    0 < (attentionReport (snapshot.reachable settings workflows)
        defaultStuckSLA).totalNeedsAttention ↔
      ((workflows.countP fun workflow =>
          workflow.status = "PENDING" ∧ workflow.IsYoung snapshot.now) < 50 ∧
        ∃ workflow ∈ workflows, workflow.status = "PENDING" ∧
          ¬workflow.IsYoung snapshot.now) ∨
      snapshot.ShowsOther workflows := by
  have failed := listByStatus_ne_nil_iff snapshot settings workflows
    ["ERROR", "FAILED"]
  have stuck := filter_listByStatus_ne_nil_iff snapshot settings workflows
    ["PENDING"] fun workflow => workflow.isStuck snapshot.now defaultStuckSLA
  have orphaned := filter_listByStatus_ne_nil_iff snapshot settings workflows
    ["PENDING"] fun workflow => workflow.isOrphaned (activeVersions snapshot)
  have stranded := filter_listByStatus_ne_nil_iff snapshot settings workflows
    ["ENQUEUED"] fun workflow =>
      workflow.isFork && workflow.isOrphaned (activeVersions snapshot)
  have flapping := flappingExecutors_ne_nil_iff (recentRecoveries snapshot)
  simp only [isStuck_listed_iff] at stuck
  rw [exists_old_listed_iff] at stuck
  unfold AttentionSnapshot.ShowsOther
  rw [← failed, ← stuck, ← orphaned, ← stranded, ← flapping]
  simp only [← List.length_pos_iff_ne_nil]
  show 0 < _ + _ + _ + _ + _ ↔ _
  simp only [Nat.add_pos_iff_pos_or_pos, or_assoc]
  rw [or_left_comm]
  exact Iff.rfl

/-- The board lists every stuck workflow, or at least is not empty for one. -/
def BoardComplete : Prop :=
  ∃ report, needsAttentionHandler conversion
      (snapshot.reachable settings workflows) target = .ok report ∧
    ((∀ workflow ∈ workflows, workflow.IsStuck settings snapshot.now →
        workflow.listed ∈ report.stuckWorkflows) ∨
      ((∃ workflow ∈ workflows, workflow.IsStuck settings snapshot.now) →
        0 < report.totalNeedsAttention))

/--
The board is complete when no workflow is stuck, when there is an older one than a
quarter of an hour and not fifty younger ones, or when it has something else to
show, and only then.
-/
theorem boardComplete_iff :
    BoardComplete conversion snapshot settings workflows target ↔
      (∀ workflow ∈ workflows, ¬workflow.IsStuck settings snapshot.now) ∨
      ((workflows.countP fun workflow =>
          workflow.status = "PENDING" ∧ workflow.IsYoung snapshot.now) < 50 ∧
        ∃ workflow ∈ workflows, workflow.status = "PENDING" ∧
          ¬workflow.IsYoung snapshot.now) ∨
      snapshot.ShowsOther workflows := by
  rw [← totalNeedsAttention_pos_iff snapshot settings workflows]
  constructor
  · rintro ⟨report, shown, complete⟩
    rw [needsAttentionHandler_reachable, Except.ok.injEq] at shown
    subst shown
    by_cases stuck : ∃ workflow ∈ workflows,
        workflow.IsStuck settings snapshot.now
    · right
      rcases complete with listed | shows
      · obtain ⟨workflow, member, isStuck⟩ := stuck
        exact lt_of_lt_of_le
          (List.length_pos_of_mem (listed workflow member isStuck))
          (length_stuckWorkflows_le _ _)
      · exact shows stuck
    · left
      push Not at stuck
      exact stuck
  · intro complete
    refine ⟨_, needsAttentionHandler_reachable conversion snapshot settings
      workflows target, ?_⟩
    rcases complete with noneStuck | shows
    · left
      intro workflow member isStuck
      exact absurd isStuck (noneStuck workflow member)
    · exact .inr fun _ => shows

end Reachable

/-- Settings with a limit of ten minutes. -/
def tenMinutes : Settings :=
  (∅ : Settings).insert "stuck_sla_secs" (.number (.integer 600))

/-- A workflow which has been `PENDING` since the epoch. -/
def pendingSinceEpoch : StoredWorkflow where
  status := "PENDING"
  workflowUUID := "w"
  applicationVersion := none
  createdAtMs := 0
  forkedFrom := none
  wasForkedFrom := none

/-- Twelve minutes after the epoch it is stuck, and the board is empty. -/
theorem needsAttentionHandler_twelveMinutes :
    pendingSinceEpoch.IsStuck tenMinutes (720 * second) ∧
      (needsAttentionHandler Alerting.amd64
        (AttentionSnapshot.reachable
          ⟨720 * second, .ok (), .ok ∅, none, [], none⟩
          tenMinutes [pendingSinceEpoch]) ⟨"acme", "app"⟩).map
        NeedsAttentionReport.totalNeedsAttention = .ok 0 := by
  constructor
  · refine ⟨rfl, ?_⟩
    decide +kernel
  · decide +kernel

end DbosRelay.Api
