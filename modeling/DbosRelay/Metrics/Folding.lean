import DbosRelay.Library.FloatSums
import DbosRelay.Metrics.Windows
import Mathlib.Algebra.BigOperators.Group.List.Basic
import Mathlib.Algebra.Order.Ring.Unbundled.Rat
import Mathlib.Data.List.Induction

/-!
# Folding of metrics

How a scrape of `internal/metrics/metrics.go` makes one value of the rows which map
to a label set.  The applications in scope are queried at the same time, and every
row writes to the series of the collector: rates are added up, everything else is
overwritten.  Of the applications of one name only the first is queried.

Values are `float64`s, and every quotient and sum is rounded to one, so that three
rates may have another sum in another order.
-/

namespace DbosRelay.Metrics

open DbosRelay.Basic
open DbosRelay.Library.FloatSums

/-! ## Series -/

/-- What is written with `setPoint`. -/
inductive PointSeries where
  | enqueued
  | pending
  | oldestEnq
  | oldestPend
deriving DecidableEq, Repr

/-- What is written with `setWindowed`. -/
inductive WindowedSeries where
  | maxWait
  | maxLatency
  | stepMaxDur
deriving DecidableEq, Repr

/-- The maps of `aggregateCollector`. -/
inductive Series where
  | rate (family : Family)
  | point (series : PointSeries)
  | windowed (series : WindowedSeries)
deriving DecidableEq, Repr

/-- The name a series is emitted under. -/
def Series.metric : Series → String
  | .rate family => family.metric
  | .point .enqueued => "dbos_conductor_v1_workflow_enqueued_count"
  | .point .pending => "dbos_conductor_v1_workflow_pending_count"
  | .point .oldestEnq =>
      "dbos_conductor_v1_workflow_oldest_enqueued_timestamp_seconds"
  | .point .oldestPend =>
      "dbos_conductor_v1_workflow_oldest_pending_timestamp_seconds"
  | .windowed .maxWait =>
      "dbos_conductor_v1_workflow_max_queue_wait_seconds"
  | .windowed .maxLatency =>
      "dbos_conductor_v1_workflow_max_total_latency_seconds"
  | .windowed .stepMaxDur => "dbos_conductor_v1_step_max_duration_seconds"

/-- `floatWithTS`; a timestamp which is not set is `none`. -/
structure FloatWithTS where
  value : ℚ
  timestamp : Option Int
deriving DecidableEq, Repr

/-- `aggregateCollector`. -/
abbrev AggregateCollector := Series → String → Option FloatWithTS

/-- A call of `addRate`, `setPoint` or `setWindowed`. -/
inductive Write where
  | addRate (family : Family) (labels : String) (count : Int)
  | setPoint (series : PointSeries) (labels : String) (value : ℚ)
  | setWindowed (series : WindowedSeries) (labels : String) (value : ℚ)
deriving DecidableEq, Repr

/-- The rate of a count of a minute. -/
def perSecond (count : Int) : ℚ := float64 (float64 count / 60)

namespace Write

/-- The series a call is about. -/
def series : Write → Series
  | addRate family _ _ => .rate family
  | setPoint series _ _ => .point series
  | setWindowed series _ _ => .windowed series

/-- The labels of a call. -/
def labels : Write → String
  | addRate _ labels _ => labels
  | setPoint _ labels _ => labels
  | setWindowed _ labels _ => labels

/-- The value of a call. -/
def value : Write → ℚ
  | addRate _ _ count => perSecond count
  | setPoint _ _ value => value
  | setWindowed _ _ value => value

/-- A call with a negative count does nothing. -/
def takesEffect : Write → Bool
  | addRate _ _ count => decide (0 ≤ count)
  | _ => true

/-- What a call makes of the old entry of its labels. -/
def entry (windowTS : Int) (old : Option FloatWithTS) :
    Write → Option FloatWithTS
  | addRate _ _ count =>
      if count < 0 then old
      else
        some ⟨float64 ((old.elim 0 FloatWithTS.value) + perSecond count),
          some windowTS⟩
  | setPoint _ _ value => some ⟨value, none⟩
  | setWindowed _ _ value => some ⟨value, some windowTS⟩

/-- A call is for a series and labels. -/
def IsTo (write : Write) (series : Series) (labels : String) : Prop :=
  write.series = series ∧ write.labels = labels

instance (write : Write) (series : Series) (labels : String) :
    Decidable (write.IsTo series labels) :=
  inferInstanceAs (Decidable (_ ∧ _))

/-- `addRate`, `setPoint` and `setWindowed`. -/
def apply (windowTS : Int) (collector : AggregateCollector) (write : Write) :
    AggregateCollector := fun series labels =>
  if write.IsTo series labels then
    write.entry windowTS (collector series labels)
  else collector series labels

end Write

/-- `newAggregateCollector`, and the calls in the order they are made. -/
def collect (windowTS : Int) (writes : List Write) : AggregateCollector :=
  writes.foldl (Write.apply windowTS) fun _ _ => none

/-! ## What an application writes -/

/-- `WorkflowAggregateRow`. -/
structure WorkflowAggregateRow where
  group : Group
  count : Option Int
  minCreatedAt : Option Int
  maxQueueWaitMs : Option Int
  maxTotalLatencyMs : Option Int
deriving DecidableEq, Repr

/-- `StepAggregateRow`. -/
structure StepAggregateRow where
  group : Group
  count : Option Int
  maxDurationMs : Option Int
deriving DecidableEq, Repr

/--
The answers of an application to the six requests.  One which fails, or is of
another type, is `none`.
-/
structure AppAnswers where
  started : Option (List WorkflowAggregateRow)
  completed : Option (List WorkflowAggregateRow)
  dequeued : Option (List WorkflowAggregateRow)
  enqueued : Option (List WorkflowAggregateRow)
  pending : Option (List WorkflowAggregateRow)
  steps : Option (List StepAggregateRow)
deriving DecidableEq, Repr

/-- Milliseconds in seconds. -/
def seconds (milliseconds : Int) : ℚ := float64 (float64 milliseconds / 1000)

/-- `workflowPendingLabel`. -/
def workflowPendingLabel (app workflow : String) : String :=
  "\x7bapplication=\"" ++ sanitizeLabel app ++ "\",workflow_name=\"" ++
    sanitizeLabel workflow ++ "\"\x7d"

namespace Scraper

variable (scraper : Scraper)

/-- The series is asked for. -/
def wants (series : Series) : Bool :=
  wantsMetric scraper.metricsFilter [series.metric]

/-- What a row of started or dequeued workflows writes. -/
def countWrites (family : Family) (row : WorkflowAggregateRow) : List Write :=
  match row.count, scraper.countedRow family row.group with
  | some count, some (family, labels) => [.addRate family labels count]
  | _, _ => []

/-- What a row of completed workflows writes. -/
def completedWrites (row : WorkflowAggregateRow) : List Write :=
  let name := groupString row.group ["workflow_name", "name"]
  let queue := groupString row.group ["queue_name", "queue"]
  let status := scraper.toUpper (groupString row.group ["status"])
  let labels := workflowLabel scraper.appName name queue
  if scraper.keepsName name then
    (match row.count, scraper.wanted (completionFamily status) with
      | some count, some family => [.addRate family labels count]
      | _, _ => []) ++
    if status = "SUCCESS" ∨ status = "" then
      (match row.maxQueueWaitMs with
        | some wait =>
            if scraper.wants (.windowed .maxWait) then
              [.setWindowed .maxWait labels (seconds wait)]
            else []
        | none => []) ++
      match row.maxTotalLatencyMs with
      | some latency =>
          if scraper.wants (.windowed .maxLatency) then
            [.setWindowed .maxLatency labels (seconds latency)]
          else []
      | none => []
    else []
  else []

/-- What a row of the workflows of a status writes, by its labels. -/
def snapshotWrites (count oldest : PointSeries) (labels : String)
    (row : WorkflowAggregateRow) : List Write :=
  (match row.count with
    | some number =>
        if scraper.wants (.point count) then
          [.setPoint count labels (float64 number)]
        else []
    | none => []) ++
  match row.minCreatedAt with
  | some created =>
      if scraper.wants (.point oldest) then
        [.setPoint oldest labels (seconds created)]
      else []
  | none => []

/-- What a row of enqueued workflows writes. -/
def enqueuedWrites (row : WorkflowAggregateRow) : List Write :=
  let name := groupString row.group ["workflow_name", "name"]
  let queue := groupString row.group ["queue_name", "queue"]
  if scraper.keepsName name then
    scraper.snapshotWrites .enqueued .oldestEnq
      (workflowLabel scraper.appName name queue) row
  else []

/-- What a row of pending workflows writes. -/
def pendingWrites (row : WorkflowAggregateRow) : List Write :=
  let name := groupString row.group ["workflow_name", "name"]
  if scraper.keepsName name then
    scraper.snapshotWrites .pending .oldestPend
      (workflowPendingLabel scraper.appName name) row
  else []

/-- What a row of completed steps writes. -/
def stepWrites (row : StepAggregateRow) : List Write :=
  let name := groupString row.group ["function_name", "step_name", "name"]
  let status := scraper.toUpper (groupString row.group ["status"])
  let labels := stepLabel scraper.appName name
  if name = "" then []
  else
    (match row.count, scraper.wanted (stepFamily status) with
      | some count, some family => [.addRate family labels count]
      | _, _ => []) ++
    match row.maxDurationMs with
    | some duration =>
        if status = "SUCCESS" ∧ scraper.wants (.windowed .stepMaxDur) then
          [.setWindowed .stepMaxDur labels (seconds duration)]
        else []
    | none => []

/-- What the rows of an answer write, if the request is made. -/
def answerWrites {Row : Type} (asked : Bool) (writes : Row → List Write)
    (answer : Option (List Row)) : List Write :=
  if asked then (answer.getD []).flatMap writes else []

/-- `collectAppAggregates`, as the calls it makes. -/
def appWrites (answers : AppAnswers) : List Write :=
  answerWrites (scraper.wants (.rate .started))
      (scraper.countWrites .started) answers.started ++
    answerWrites (wantsMetric scraper.metricsFilter completionMetrics)
      scraper.completedWrites answers.completed ++
    answerWrites (scraper.wants (.rate .dequeued))
      (scraper.countWrites .dequeued) answers.dequeued ++
    answerWrites (scraper.wants (.point .enqueued) ||
        scraper.wants (.point .oldestEnq))
      scraper.enqueuedWrites answers.enqueued ++
    answerWrites (scraper.wants (.point .pending) ||
        scraper.wants (.point .oldestPend))
      scraper.pendingWrites answers.pending ++
    answerWrites (wantsMetric scraper.metricsFilter stepMetrics)
      scraper.stepWrites answers.steps

end Scraper

/-! ## Every value is a `float64` -/

/-- The value of a call is a `float64`. -/
def Write.Rounded (write : Write) : Prop := float64 write.value = write.value

theorem rounded_addRate (family : Family) (labels : String) (count : Int) :
    (Write.addRate family labels count).Rounded :=
  float64_float64 _

theorem rounded_setPoint (series : PointSeries) (labels : String) (number : ℚ) :
    (Write.setPoint series labels (float64 number)).Rounded :=
  float64_float64 _

theorem rounded_setWindowed (series : WindowedSeries) (labels : String)
    (milliseconds : Int) :
    (Write.setWindowed series labels (seconds milliseconds)).Rounded :=
  float64_float64 _

namespace Scraper

variable (scraper : Scraper)

theorem rounded_countWrites (family : Family) (row : WorkflowAggregateRow) :
    ∀ write ∈ scraper.countWrites family row, write.Rounded := by
  unfold countWrites
  split
  · exact List.forall_mem_singleton.mpr (rounded_addRate _ _ _)
  · exact List.forall_mem_nil _

theorem rounded_completedWrites (row : WorkflowAggregateRow) :
    ∀ write ∈ scraper.completedWrites row, write.Rounded := by
  intro write member
  simp only [completedWrites, List.mem_ite_nil_right, List.mem_append] at member
  rcases member with ⟨-, counted | ⟨-, waited | total⟩⟩
  · split at counted
    · cases List.mem_singleton.mp counted
      exact rounded_addRate _ _ _
    · cases counted
  · split at waited
    · cases List.mem_singleton.mp (List.mem_ite_nil_right.mp waited).2
      exact rounded_setWindowed _ _ _
    · cases waited
  · split at total
    · cases List.mem_singleton.mp (List.mem_ite_nil_right.mp total).2
      exact rounded_setWindowed _ _ _
    · cases total

theorem rounded_snapshotWrites (count oldest : PointSeries) (labels : String)
    (row : WorkflowAggregateRow) :
    ∀ write ∈ scraper.snapshotWrites count oldest labels row, write.Rounded := by
  intro write member
  rw [snapshotWrites, List.mem_append] at member
  rcases member with counted | created
  · split at counted
    · cases List.mem_singleton.mp (List.mem_ite_nil_right.mp counted).2
      exact rounded_setPoint _ _ _
    · cases counted
  · split at created
    · cases List.mem_singleton.mp (List.mem_ite_nil_right.mp created).2
      exact rounded_setPoint _ _ _
    · cases created

theorem rounded_enqueuedWrites (row : WorkflowAggregateRow) :
    ∀ write ∈ scraper.enqueuedWrites row, write.Rounded := by
  intro write member
  exact scraper.rounded_snapshotWrites _ _ _ row write
    (List.mem_ite_nil_right.mp member).2

theorem rounded_pendingWrites (row : WorkflowAggregateRow) :
    ∀ write ∈ scraper.pendingWrites row, write.Rounded := by
  intro write member
  exact scraper.rounded_snapshotWrites _ _ _ row write
    (List.mem_ite_nil_right.mp member).2

theorem rounded_stepWrites (row : StepAggregateRow) :
    ∀ write ∈ scraper.stepWrites row, write.Rounded := by
  intro write member
  simp only [stepWrites, List.mem_ite_nil_left, List.mem_append] at member
  rcases member with ⟨-, counted | lasted⟩
  · split at counted
    · cases List.mem_singleton.mp counted
      exact rounded_addRate _ _ _
    · cases counted
  · split at lasted
    · cases List.mem_singleton.mp (List.mem_ite_nil_right.mp lasted).2
      exact rounded_setWindowed _ _ _
    · cases lasted

theorem rounded_answerWrites {Row : Type} {asked : Bool}
    {writes : Row → List Write} {answer : Option (List Row)}
    (each : ∀ row, ∀ write ∈ writes row, write.Rounded) :
    ∀ write ∈ answerWrites asked writes answer, write.Rounded := by
  intro write member
  rcases List.mem_flatMap.mp (List.mem_ite_nil_right.mp member).2 with
    ⟨row, -, among⟩
  exact each row write among

theorem rounded_appWrites (answers : AppAnswers) :
    ∀ write ∈ scraper.appWrites answers, write.Rounded := by
  simp only [appWrites, List.forall_mem_append]
  exact ⟨⟨⟨⟨⟨rounded_answerWrites (scraper.rounded_countWrites .started),
    rounded_answerWrites scraper.rounded_completedWrites⟩,
    rounded_answerWrites (scraper.rounded_countWrites .dequeued)⟩,
    rounded_answerWrites scraper.rounded_enqueuedWrites⟩,
    rounded_answerWrites scraper.rounded_pendingWrites⟩,
    rounded_answerWrites scraper.rounded_stepWrites⟩

end Scraper

/-! ## The applications of a scrape -/

/-- An application, with what its executor would answer. -/
structure MetricsApp where
  name : String
  org : Option UUID
  answers : AppAnswers
deriving DecidableEq, Repr

/-- What a scrape is made for: the caller and the filters of the request. -/
structure Scrape where
  isAdmin : Bool
  orgID : UUID
  applicationNames : List String
  appsFilter : List String
  workflowNamesFilter : List String
  metricsFilter : List String
  toUpper : String → String

/-- The checks of `collectScopedApp`, less the one for seen names. -/
def Scrape.inScope (scrape : Scrape) (app : MetricsApp) : Bool :=
  decide (scrape.appsFilter = [] ∨ app.name ∈ scrape.appsFilter) &&
    (scrape.isAdmin ||
      (app.org.all (· = scrape.orgID) &&
        decide (scrape.applicationNames = [] ∨
          app.name ∈ scrape.applicationNames)))

/-- `collectScopedApp`: of the applications of one name only the first. -/
def Scrape.collectScopedApp (scrape : Scrape) (scopedApps : List MetricsApp)
    (app : MetricsApp) : List MetricsApp :=
  if scrape.inScope app ∧ app.name ∉ scopedApps.map MetricsApp.name then
    scopedApps ++ [app]
  else scopedApps

/-- `scopedApps`. -/
def Scrape.scopedApps (scrape : Scrape) (apps : List MetricsApp) :
    List MetricsApp :=
  apps.foldl scrape.collectScopedApp []

/-- The scraper of an application. -/
def Scrape.scraper (scrape : Scrape) (app : MetricsApp) : Scraper where
  appName := app.name
  workflowNamesFilter := scrape.workflowNamesFilter
  metricsFilter := scrape.metricsFilter
  toUpper := scrape.toUpper

/-- What the rows of some applications write. -/
def Scrape.writesOf (scrape : Scrape) (apps : List MetricsApp) : List Write :=
  apps.flatMap fun app => (scrape.scraper app).appWrites app.answers

/-! ## What a series has of its writes -/

/-- The values which are written to a series with some labels. -/
def valuesTo (writes : List Write) (series : Series) (labels : String) :
    List ℚ :=
  (writes.filter fun write => write.IsTo series labels).map Write.value

/-- The writes which take effect. -/
def effective (writes : List Write) : List Write :=
  writes.filter Write.takesEffect

theorem valuesTo_effective_append (writes : List Write) (write : Write)
    (series : Series) (labels : String) :
    valuesTo (effective (writes ++ [write])) series labels =
      valuesTo (effective writes) series labels ++
        if write.IsTo series labels ∧ write.takesEffect then [write.value]
        else [] := by
  unfold valuesTo effective
  rw [List.filter_append, List.filter_append, List.map_append,
    List.filter_filter, List.filter_filter]
  congr 1
  by_cases isTo : write.IsTo series labels
  · cases effect : write.takesEffect with
    | false => simp [isTo, effect]
    | true => simp [isTo, effect]
  · simp [isTo]

theorem collect_append (windowTS : Int) (writes : List Write) (write : Write) :
    collect windowTS (writes ++ [write]) =
      write.apply windowTS (collect windowTS writes) :=
  List.foldl_concat _ _ _ _

/-- The sum of values in their order, if there are any. -/
def sumOf (values : List ℚ) : Option ℚ :=
  if values = [] then none else some (floatSum values)

theorem sumOf_append (values : List ℚ) (value : ℚ) :
    sumOf (values ++ [value]) =
      some (float64 ((sumOf values).getD 0 + value)) := by
  unfold sumOf
  rw [if_neg (by simp), floatSum_append]
  split_ifs with empty
  · rw [empty]
    rfl
  · rfl

/-- A rate is the sum of what is written to it. -/
theorem collect_rate (windowTS : Int) (writes : List Write) (family : Family)
    (labels : String) :
    (collect windowTS writes (.rate family) labels).map FloatWithTS.value =
      sumOf (valuesTo (effective writes) (.rate family) labels) := by
  induction writes using List.reverseRecOn with
  | nil => rfl
  | append_singleton writes write induction =>
      rw [collect_append, valuesTo_effective_append, Write.apply]
      by_cases isTo : write.IsTo (.rate family) labels
      · rw [if_pos isTo]
        have isFamily := isTo.1
        cases write with
        | addRate other otherLabels count =>
            rw [Write.entry]
            by_cases negative : count < 0
            · rw [if_pos negative, if_neg, List.append_nil, induction]
              rintro ⟨-, effect⟩
              exact absurd (of_decide_eq_true effect) (not_le.mpr negative)
            · rw [if_neg negative, if_pos ⟨isTo, by
                simpa [Write.takesEffect] using negative⟩, sumOf_append,
                ← induction]
              cases collect windowTS writes (.rate family) labels with
              | none => rfl
              | some entry => rfl
        | setPoint series labels value => cases isFamily
        | setWindowed series labels value => cases isFamily
      · rw [if_neg isTo, if_neg fun both => isTo both.1, List.append_nil,
          induction]

/-- Any other series has what is written last. -/
theorem collect_gauge (windowTS : Int) (writes : List Write) {series : Series}
    (isGauge : ∀ family, series ≠ .rate family) (labels : String) :
    (collect windowTS writes series labels).map FloatWithTS.value =
      (valuesTo (effective writes) series labels).getLast? := by
  induction writes using List.reverseRecOn with
  | nil => rfl
  | append_singleton writes write induction =>
      rw [collect_append, valuesTo_effective_append, Write.apply]
      by_cases isTo : write.IsTo series labels
      · rw [if_pos isTo]
        have isSeries := isTo.1
        cases write with
        | addRate family otherLabels count =>
            exact absurd isSeries.symm (isGauge family)
        | setPoint point otherLabels value =>
            rw [if_pos ⟨isTo, rfl⟩, List.getLast?_concat]
            rfl
        | setWindowed windowed otherLabels value =>
            rw [if_pos ⟨isTo, rfl⟩, List.getLast?_concat]
            rfl
      · rw [if_neg isTo, if_neg fun both => isTo both.1, List.append_nil,
          induction]

/-! ## What a scrape should emit -/

/-- How the values of one label set make one. -/
def Series.fold : Series → List ℚ → Option ℚ
  | .rate _ => sumOf
  | .point .enqueued => sumOf
  | .point .pending => sumOf
  | .point .oldestEnq => List.min?
  | .point .oldestPend => List.min?
  | .windowed _ => List.max?

namespace Scrape

variable (scrape : Scrape) (apps : List MetricsApp)

/-- What the applications which are queried write, in some order. -/
def queried : List Write :=
  scrape.writesOf (scrape.scopedApps apps)

/-- What all applications in scope would write. -/
def meant : List Write :=
  scrape.writesOf (apps.filter scrape.inScope)

/--
In whatever order the rows arrive, the value of every label set is the sum, the
minimum or the maximum over the rows of all applications in scope, in whatever order
these are taken.
-/
def Folded : Prop :=
  ∀ (windowTS : Int) (order rows : List Write),
    order.Perm (scrape.queried apps) → rows.Perm (scrape.meant apps) →
      ∀ (series : Series) (labels : String),
        (collect windowTS order series labels).map FloatWithTS.value =
          series.fold (valuesTo rows series labels)

/-- The rows decide the values, whatever their order. -/
structure Decided : Prop where
  /-- A label set of an application in scope is one of an application queried. -/
  present : ∀ series labels, valuesTo (scrape.meant apps) series labels ≠ [] →
    valuesTo (effective (scrape.queried apps)) series labels ≠ []
  /-- The rates of all rows in scope have one sum. -/
  steady : ∀ family labels,
    OrderFree (valuesTo (scrape.meant apps) (.rate family) labels)
  /-- It is the only sum of the rates which are not left out. -/
  rate : ∀ family labels (values : List ℚ),
    values.Perm (valuesTo (effective (scrape.queried apps)) (.rate family)
      labels) →
    floatSum values =
      floatSum (valuesTo (scrape.meant apps) (.rate family) labels)
  /-- Each row of another series has the value by itself. -/
  gauge : ∀ series labels, (∀ family, series ≠ .rate family) →
    ∀ value ∈ valuesTo (effective (scrape.queried apps)) series labels,
      ∀ values : List ℚ,
        values.Perm (valuesTo (scrape.meant apps) series labels) →
          series.fold values = some value

end Scrape

theorem sumOf_eq_none_iff {values : List ℚ} :
    sumOf values = none ↔ values = [] := by
  unfold sumOf
  split_ifs with empty
  · exact iff_of_true rfl empty
  · exact iff_of_false (by nofun) empty

theorem floatSum_eq_of_sumOf {values others : List ℚ}
    (same : sumOf values = sumOf others) : floatSum values = floatSum others := by
  have sums (values : List ℚ) : (sumOf values).getD 0 = floatSum values := by
    unfold sumOf
    split_ifs with empty
    · rw [empty]
      rfl
    · rfl
  rw [← sums, same, sums]

/-- Values make one exactly when there are any. -/
theorem Series.fold_eq_none_iff (series : Series) {values : List ℚ} :
    series.fold values = none ↔ values = [] := by
  cases series with
  | rate family => exact sumOf_eq_none_iff
  | point series =>
      cases series with
      | enqueued => exact sumOf_eq_none_iff
      | pending => exact sumOf_eq_none_iff
      | oldestEnq => exact List.min?_eq_none_iff
      | oldestPend => exact List.min?_eq_none_iff
  | windowed series => exact List.max?_eq_none_iff

/-- One `float64` is the value. -/
theorem Series.fold_singleton (series : Series) {value : ℚ}
    (rounded : float64 value = value) : series.fold [value] = some value := by
  have sum : sumOf [value] = some value := by
    rw [sumOf, if_neg (List.cons_ne_nil _ _), floatSum, List.foldl_cons,
      List.foldl_nil, zero_add, rounded]
  cases series with
  | rate family => exact sum
  | point series =>
      cases series with
      | enqueued => exact sum
      | pending => exact sum
      | oldestEnq => rfl
      | oldestPend => rfl
  | windowed series => rfl

theorem valuesTo_perm {writes others : List Write} (perm : writes.Perm others)
    (series : Series) (labels : String) :
    (valuesTo writes series labels).Perm (valuesTo others series labels) :=
  (perm.filter _).map _

theorem valuesTo_effective_perm {writes others : List Write}
    (perm : writes.Perm others) (series : Series) (labels : String) :
    (valuesTo (effective writes) series labels).Perm
      (valuesTo (effective others) series labels) :=
  valuesTo_perm (perm.filter _) series labels

/-- Any order of the values is one of the calls. -/
theorem exists_order {writes : List Write} {series : Series} {labels : String}
    {values : List ℚ} (perm : values.Perm (valuesTo writes series labels)) :
    ∃ order : List Write, order.Perm writes ∧
      valuesTo order series labels = values := by
  let isTo (write : Write) : Bool := decide (write.IsTo series labels)
  rcases (congrFun₂ (List.eq_map_comp_perm Write.value) values
    (writes.filter isTo)).mpr perm with ⟨chosen, isChosen, chosenPerm⟩
  refine ⟨chosen ++ writes.filter fun write => !isTo write, ?_, ?_⟩
  · exact (chosenPerm.append_right _).trans (List.filter_append_perm isTo writes)
  · have kept : chosen.filter isTo = chosen := by
      rw [List.filter_eq_self]
      intro write member
      exact (List.mem_filter.mp (chosenPerm.mem_iff.mp member)).2
    have dropped : (writes.filter fun write => !isTo write).filter isTo = [] := by
      rw [List.filter_filter, List.filter_eq_nil_iff]
      simp
    rw [valuesTo, List.filter_append, kept, dropped, List.append_nil, isChosen]

/-- Any order of the values which take effect is one of the calls. -/
theorem exists_order_effective {writes : List Write} {series : Series}
    {labels : String} {values : List ℚ}
    (perm : values.Perm (valuesTo (effective writes) series labels)) :
    ∃ order : List Write, order.Perm writes ∧
      valuesTo (effective order) series labels = values := by
  rcases exists_order perm with ⟨order, orderPerm, isOrder⟩
  refine ⟨order ++ writes.filter fun write => !write.takesEffect, ?_, ?_⟩
  · exact (orderPerm.append_right _).trans
      (List.filter_append_perm Write.takesEffect writes)
  · have kept : effective order = order := by
      rw [effective, List.filter_eq_self]
      intro write member
      exact (List.mem_filter.mp (orderPerm.mem_iff.mp member)).2
    have dropped :
        effective (writes.filter fun write => !write.takesEffect) = [] := by
      rw [effective, List.filter_filter, List.filter_eq_nil_iff]
      simp
    rw [effective, List.filter_append, ← effective, ← effective, kept, dropped,
      List.append_nil, isOrder]

/-- A value which is written can be the last one which is. -/
theorem exists_last_of_mem {writes : List Write} {series : Series}
    {labels : String} {value : ℚ}
    (member : value ∈ valuesTo (effective writes) series labels) :
    ∃ order : List Write, order.Perm writes ∧
      (valuesTo (effective order) series labels).getLast? = some value := by
  obtain ⟨write, isEffective, rfl⟩ := List.mem_map.mp member
  obtain ⟨isEffective, isTo⟩ := List.mem_filter.mp isEffective
  obtain ⟨isWrite, effect⟩ := List.mem_filter.mp isEffective
  refine ⟨writes.erase write ++ [write], ?_, ?_⟩
  · exact (List.perm_append_singleton _ _).trans
      (List.perm_cons_erase isWrite).symm
  · rw [valuesTo_effective_append, if_pos ⟨of_decide_eq_true isTo, effect⟩,
      List.getLast?_concat]

namespace Scrape

variable {scrape : Scrape} {apps : List MetricsApp}

/-- Only applications in scope are queried. -/
theorem mem_scopedApps {app : MetricsApp}
    (member : app ∈ scrape.scopedApps apps) :
    app ∈ apps.filter scrape.inScope := by
  unfold scopedApps at member
  induction apps using List.reverseRecOn with
  | nil => cases member
  | append_singleton apps next induction =>
      rw [List.foldl_concat, collectScopedApp] at member
      rw [List.filter_append, List.mem_append]
      split_ifs at member with isNew
      · rw [List.mem_append] at member
        rcases member with before | isNext
        · exact .inl (induction before)
        · rw [List.mem_singleton] at isNext
          subst isNext
          exact .inr (List.mem_filter.mpr ⟨List.mem_singleton_self _, isNew.1⟩)
      · exact .inl (induction member)

/-- What is written is meant. -/
theorem meant_ne_nil {series : Series} {labels : String}
    (written : valuesTo (effective (scrape.queried apps)) series labels ≠ []) :
    valuesTo (scrape.meant apps) series labels ≠ [] := by
  obtain ⟨value, member⟩ := List.exists_mem_of_ne_nil _ written
  obtain ⟨write, isEffective, -⟩ := List.mem_map.mp member
  obtain ⟨isEffective, isTo⟩ := List.mem_filter.mp isEffective
  obtain ⟨app, isScoped, isWrite⟩ :=
    List.mem_flatMap.mp (List.mem_of_mem_filter isEffective)
  refine List.ne_nil_of_mem (List.mem_map_of_mem (List.mem_filter.mpr ⟨?_, isTo⟩))
  exact List.mem_flatMap.mpr ⟨app, mem_scopedApps isScoped, isWrite⟩

/-- The emitted value does not depend on the order if the rows decide it. -/
theorem folded_of_decided (decided : scrape.Decided apps) :
    scrape.Folded apps := by
  intro windowTS order rows perm rowsPerm series labels
  have samePerm := valuesTo_effective_perm perm series labels
  have meantPerm := valuesTo_perm rowsPerm series labels
  have written : valuesTo (effective order) series labels = [] ↔
      valuesTo rows series labels = [] := by
    rw [← List.length_eq_zero_iff, samePerm.length_eq, List.length_eq_zero_iff,
      ← List.length_eq_zero_iff (l := valuesTo rows series labels),
      meantPerm.length_eq, List.length_eq_zero_iff]
    constructor
    · intro empty
      by_contra isMeant
      exact decided.present series labels isMeant empty
    · intro empty
      by_contra isWritten
      exact meant_ne_nil isWritten empty
  by_cases isRate : ∃ family, series = .rate family
  · obtain ⟨family, rfl⟩ := isRate
    rw [collect_rate]
    show sumOf _ = sumOf _
    unfold sumOf
    simp only [written, decided.rate family labels _ samePerm,
      decided.steady family labels _ meantPerm]
  · push Not at isRate
    rw [collect_gauge windowTS order isRate]
    cases last : (valuesTo (effective order) series labels).getLast? with
    | none =>
        rw [List.getLast?_eq_none_iff, written] at last
        exact (series.fold_eq_none_iff.mpr last).symm
    | some value =>
        have member := samePerm.subset (List.mem_of_getLast? last)
        exact (decided.gauge series labels isRate value member _ meantPerm).symm

/--
The emitted values are the folds over all rows in scope, whatever the order of
arrival, when the rows decide them, and only then.
-/
theorem folded_iff_decided (scrape : Scrape) (apps : List MetricsApp) :
    scrape.Folded apps ↔ scrape.Decided apps := by
  constructor
  · intro folded
    constructor
    · intro series labels isMeant notWritten
      have emitted := folded 0 _ _ (List.Perm.refl _) (List.Perm.refl _) series
        labels
      by_cases isRate : ∃ family, series = .rate family
      · obtain ⟨family, rfl⟩ := isRate
        rw [collect_rate, notWritten] at emitted
        exact isMeant ((Series.fold_eq_none_iff _).mp emitted.symm)
      · push Not at isRate
        rw [collect_gauge _ _ isRate, notWritten] at emitted
        exact isMeant ((Series.fold_eq_none_iff _).mp emitted.symm)
    · intro family labels values perm
      rcases exists_order perm with ⟨rows, rowsPerm, rfl⟩
      have first := folded 0 _ _ (List.Perm.refl _) rowsPerm (.rate family) labels
      have second := folded 0 _ _ (List.Perm.refl _) (List.Perm.refl _)
        (.rate family) labels
      exact floatSum_eq_of_sumOf (first.symm.trans second)
    · intro family labels values perm
      rcases exists_order_effective perm with ⟨order, orderPerm, rfl⟩
      have emitted := folded 0 _ _ orderPerm (List.Perm.refl _) (.rate family)
        labels
      rw [collect_rate] at emitted
      exact floatSum_eq_of_sumOf emitted
    · intro series labels isGauge value member values perm
      rcases exists_last_of_mem member with ⟨order, orderPerm, last⟩
      rcases exists_order perm with ⟨rows, rowsPerm, rfl⟩
      have emitted := folded 0 order rows orderPerm rowsPerm series labels
      rw [collect_gauge _ _ isGauge, last] at emitted
      exact emitted.symm
  · exact folded_of_decided

/-- Applications of distinct names are all queried. -/
theorem scopedApps_eq_filter
    (names : ((apps.filter scrape.inScope).map MetricsApp.name).Nodup) :
    scrape.scopedApps apps = apps.filter scrape.inScope := by
  unfold scopedApps
  induction apps using List.reverseRecOn with
  | nil => rfl
  | append_singleton apps next induction =>
      rw [List.filter_append, List.map_append, List.nodup_append] at names
      rw [List.foldl_concat, induction names.1, collectScopedApp,
        List.filter_append]
      cases isScoped : scrape.inScope next with
      | false => simp [isScoped]
      | true =>
          have isNew : next.name ∉
              (apps.filter scrape.inScope).map MetricsApp.name := by
            intro seen
            exact names.2.2 _ seen next.name (by simp [isScoped]) rfl
          rw [if_pos ⟨rfl, isNew⟩]
          simp [isScoped]

theorem rounded_of_mem_meant {write : Write}
    (member : write ∈ scrape.meant apps) : write.Rounded := by
  rcases List.mem_flatMap.mp member with ⟨app, -, isWrite⟩
  exact (scrape.scraper app).rounded_appWrites app.answers write isWrite

/--
Without shared names, negative counts, label sets of more than two rates and other
shared label sets the values are right.
-/
theorem folded_of_distinct
    (names : ((apps.filter scrape.inScope).map MetricsApp.name).Nodup)
    (counts : ∀ write ∈ scrape.meant apps, write.takesEffect = true)
    (few : ∀ family labels,
      (valuesTo (scrape.meant apps) (.rate family) labels).length ≤ 2)
    (distinct : ∀ series labels, (∀ family, series ≠ .rate family) →
      (valuesTo (scrape.meant apps) series labels).length ≤ 1) :
    scrape.Folded apps := by
  have queriedAll : effective (scrape.queried apps) = scrape.meant apps := by
    unfold effective queried
    rw [scopedApps_eq_filter names]
    exact List.filter_eq_self.mpr counts
  have rounded (series : Series) (labels : String) :
      ∀ value ∈ valuesTo (scrape.meant apps) series labels,
        float64 value = value := by
    intro value member
    rcases List.mem_map.mp member with ⟨write, isWrite, rfl⟩
    exact rounded_of_mem_meant (List.mem_of_mem_filter isWrite)
  have steady (family : Family) (labels : String) :=
    orderFree_of_length_le_two (rounded (.rate family) labels) (few family labels)
  apply folded_of_decided
  constructor
  · intro series labels isMeant
    rw [queriedAll]
    exact isMeant
  · exact steady
  · intro family labels values perm
    rw [queriedAll] at perm
    exact steady family labels values perm
  · intro series labels isGauge value member values perm
    rw [queriedAll] at member
    have one := distinct series labels isGauge
    rcases List.length_eq_one_iff.mp
      (le_antisymm one (List.length_pos_of_mem member)) with ⟨only, isOnly⟩
    have isRounded := rounded series labels value member
    rw [isOnly, List.mem_singleton] at member
    rw [isOnly, ← member, List.perm_singleton] at perm
    rw [perm]
    exact series.fold_singleton isRounded

/-- Three rates of one label set may have two sums. -/
example :
    floatSum [perSecond 1, perSecond 1, perSecond 3] ≠
      floatSum [perSecond 1, perSecond 3, perSecond 1] := by
  decide +kernel

end Scrape

/-! ## Two long names -/

/-- A completed workflow whose name is a letter after 64 others, and its wait. -/
def longNameRow (last : Char) (wait : Int) : WorkflowAggregateRow where
  group := [("name", some (String.ofList (List.replicate 64 'a' ++ [last]))),
    ("status", some "SUCCESS")]
  count := none
  minCreatedAt := none
  maxQueueWaitMs := some wait
  maxTotalLatencyMs := none

/-- An application with two such workflows. -/
def longNamesApp : MetricsApp where
  name := "shop"
  org := some ⟨1⟩
  answers :=
    { started := none
      completed := some [longNameRow '1' 5000, longNameRow '2' 3000]
      dequeued := none
      enqueued := none
      pending := none
      steps := none }

/-- A scrape of a member of its organisation, with no filters. -/
def longNamesScrape : Scrape where
  isAdmin := false
  orgID := ⟨1⟩
  applicationNames := []
  appsFilter := []
  workflowNamesFilter := []
  metricsFilter := []
  toUpper := id

/-- The label set of both workflows. -/
def longNameLabels : String :=
  workflowLabel "shop" (String.ofList (List.replicate 64 'a')) ""

/-- What follows the first 64 characters is cut. -/
theorem sanitizeLabel_append {chars : List Char} (long : chars.length = 64)
    (rest : List Char) :
    sanitizeLabel (String.ofList (chars ++ rest)) =
      sanitizeLabel (String.ofList chars) := by
  simp only [sanitizeLabel, String.toList_ofList,
    List.take_append_of_le_length long.ge]

theorem workflowLabel_congr {first second : String}
    (same : sanitizeLabel first = sanitizeLabel second) (app queue : String) :
    workflowLabel app first queue = workflowLabel app second queue := by
  unfold workflowLabel
  rw [same]

/-- The row writes its wait under the label set of both workflows. -/
theorem completedWrites_longNameRow (last : Char) (wait : Int) :
    (longNamesScrape.scraper longNamesApp).completedWrites
        (longNameRow last wait) =
      [.setWindowed .maxWait longNameLabels (seconds wait)] := by
  have name : groupString (longNameRow last wait).group
      ["workflow_name", "name"] =
        String.ofList (List.replicate 64 'a' ++ [last]) := rfl
  have labels : workflowLabel "shop"
      (String.ofList (List.replicate 64 'a' ++ [last])) "" = longNameLabels :=
    workflowLabel_congr (sanitizeLabel_append List.length_replicate [last]) _ _
  have nonempty : String.ofList (List.replicate 64 'a' ++ [last]) ≠ "" := by
    intro empty
    have chars := congrArg String.toList empty
    rw [String.toList_ofList] at chars
    simp at chars
  have queue : groupString (longNameRow last wait).group
      ["queue_name", "queue"] = "" := rfl
  have status : groupString (longNameRow last wait).group ["status"] =
      "SUCCESS" := rfl
  have app : (longNamesScrape.scraper longNamesApp).appName = "shop" := rfl
  have kept : (longNamesScrape.scraper longNamesApp).keepsName
      (String.ofList (List.replicate 64 'a' ++ [last])) = true :=
    decide_eq_true ⟨nonempty, Or.inl rfl⟩
  have wants (series : Series) :
      (longNamesScrape.scraper longNamesApp).wants series = true := by
    unfold Scraper.wants wantsMetric
    exact decide_eq_true (Or.inl rfl)
  have same : (longNamesScrape.scraper longNamesApp).toUpper "SUCCESS" =
    "SUCCESS" := rfl
  simp only [Scraper.completedWrites, name, queue, status, app, labels, kept,
    same, wants, if_true, true_or]
  rfl

/-- The maximum of the waits is five seconds, but three are emitted. -/
theorem collect_longNames :
    (collect 0 (longNamesScrape.queried [longNamesApp]) (.windowed .maxWait)
        longNameLabels).map FloatWithTS.value = some 3 ∧
      (Series.windowed .maxWait).fold (valuesTo
        (longNamesScrape.meant [longNamesApp]) (.windowed .maxWait)
          longNameLabels) = some 5 := by
  have five : seconds 5000 = 5 := by decide +kernel
  have three : seconds 3000 = 3 := by decide +kernel
  have rows : longNamesScrape.writesOf [longNamesApp] = [longNameRow '1' 5000,
      longNameRow '2' 3000].flatMap
        (longNamesScrape.scraper longNamesApp).completedWrites := by
    simp only [Scrape.writesOf, List.flatMap_cons, List.flatMap_nil,
      List.append_nil]
    rfl
  have writes : longNamesScrape.writesOf [longNamesApp] =
      [.setWindowed .maxWait longNameLabels 5,
        .setWindowed .maxWait longNameLabels 3] := by
    rw [rows, List.flatMap_cons, List.flatMap_cons, List.flatMap_nil,
      completedWrites_longNameRow, completedWrites_longNameRow, five, three,
      List.append_nil, List.singleton_append]
  have alone : longNamesScrape.scopedApps [longNamesApp] = [longNamesApp] := rfl
  have inScope : [longNamesApp].filter longNamesScrape.inScope =
      [longNamesApp] := rfl
  have isTo (value : ℚ) : (Write.setWindowed .maxWait longNameLabels value).IsTo
      (.windowed .maxWait) longNameLabels := ⟨rfl, rfl⟩
  rw [Scrape.queried, Scrape.meant, alone, inScope, writes]
  constructor
  · simp only [collect, List.foldl_cons, List.foldl_nil, Write.apply,
      if_pos (isTo _), Write.entry, Option.map_some]
  · simp only [valuesTo, List.filter_cons, decide_eq_true (isTo _), if_true,
      List.filter_nil, List.map_cons, List.map_nil, Write.value]
    show ([5, 3] : List ℚ).max? = some 5
    decide

end DbosRelay.Metrics
