import DbosRelay.Basic
import DbosRelay.Library.Grouping
import Mathlib.Algebra.Order.Field.Basic
import Mathlib.Algebra.Order.Ring.Rat
import Mathlib.Tactic.Ring

/-!
# Metric windows

The rates of `internal/metrics/metrics.go`.  A scrape covers the last complete
minute of the clock: `collectAppAggregates` asks for the workflows which were
created, dequeued or completed in it and for the steps which completed in it,
and adds the counts it gets to the rates of their labels.

The bounds go through the data plane to the aggregate queries of the SDK, which
take both as inclusive, in milliseconds.  The SDK is a parameter here.

Rates are exact here, so that a rate tells of every single occurrence.  Rounded to
`float64`s, as the source has them and `DbosRelay.Metrics.Folding` takes them, a
rate of more than `2 ^ 53` would not.
-/

namespace DbosRelay.Metrics

open DbosRelay.Basic
open DbosRelay.Library.Grouping

/-! ## The aggregate queries -/

/-- A workflow as the aggregates see it, its times in milliseconds. -/
structure Workflow where
  name : String
  queueName : Option String
  status : String
  createdAt : Int
  dequeuedAt : Option Int
  completedAt : Option Int
deriving DecidableEq, Repr

/-- A step as the aggregates see it. -/
structure Step where
  functionName : String
  status : Option String
  completedAt : Option Int
deriving DecidableEq, Repr

/-- The fields of `GetWorkflowAggregatesRequestBody` which the rates use. -/
structure WorkflowAggregatesBody where
  groupByStatus : Bool := false
  groupByName : Bool := false
  groupByQueueName : Bool := false
  selectCount : Bool := false
  startTime : Option Time := none
  endTime : Option Time := none
  completedAfter : Option Time := none
  completedBefore : Option Time := none
  dequeuedAfter : Option Time := none
  dequeuedBefore : Option Time := none
  name : List String := []

/-- The fields of `GetStepAggregatesRequestBody` which the rates use. -/
structure StepAggregatesBody where
  groupByFunctionName : Bool := false
  groupByStatus : Bool := false
  selectCount : Bool := false
  completedAfter : Option Time := none
  completedBefore : Option Time := none

/-- The columns of a group. -/
abbrev Group := List (String × Option String)

/-- `WorkflowAggregateRow` and `StepAggregateRow`. -/
structure AggregateRow where
  group : Group
  count : Option Int
deriving DecidableEq, Repr

/-- `time.Time.UnixMilli`. -/
def unixMilli (time : Time) : Int := time / 1000000

/-- An inclusive lower bound; an unset one admits everything. -/
def notBefore (bound : Option Time) (time : Option Int) : Bool :=
  match bound, time with
  | none, _ => true
  | some _, none => false
  | some bound, some time => decide (unixMilli bound ≤ time)

/-- An inclusive upper bound. -/
def notAfter (bound : Option Time) (time : Option Int) : Bool :=
  match bound, time with
  | none, _ => true
  | some _, none => false
  | some bound, some time => decide (time ≤ unixMilli bound)

@[simp]
theorem notBefore_none (time : Option Int) : notBefore none time = true := by
  cases time <;> rfl

@[simp]
theorem notAfter_none (time : Option Int) : notAfter none time = true := by
  cases time <;> rfl

/-- The filters of the workflow query. -/
def WorkflowAggregatesBody.selects (body : WorkflowAggregatesBody)
    (workflow : Workflow) : Bool :=
  notBefore body.startTime (some workflow.createdAt) &&
    notAfter body.endTime (some workflow.createdAt) &&
    notBefore body.completedAfter workflow.completedAt &&
    notAfter body.completedBefore workflow.completedAt &&
    notBefore body.dequeuedAfter workflow.dequeuedAt &&
    notAfter body.dequeuedBefore workflow.dequeuedAt &&
    decide (body.name = [] ∨ workflow.name ∈ body.name)

/-- The group a workflow is counted in. -/
def WorkflowAggregatesBody.groupOf (body : WorkflowAggregatesBody)
    (workflow : Workflow) : Group :=
  (if body.groupByStatus then [("status", some workflow.status)] else []) ++
    (if body.groupByName then [("name", some workflow.name)] else []) ++
    if body.groupByQueueName then [("queue_name", workflow.queueName)] else []

/-- The filters of the step query. -/
def StepAggregatesBody.selects (body : StepAggregatesBody) (step : Step) :
    Bool :=
  notBefore body.completedAfter step.completedAt &&
    notAfter body.completedBefore step.completedAt

/-- The group a step is counted in. -/
def StepAggregatesBody.groupOf (body : StepAggregatesBody) (step : Step) :
    Group :=
  (if body.groupByFunctionName then
      [("function_name", some step.functionName)] else []) ++
    if body.groupByStatus then [("status", step.status)] else []

/-- The workflows and steps of an application. -/
structure SystemDatabase where
  workflows : List Workflow
  steps : List Step

/-- The aggregate queries, as `Dispatch` of the data plane makes them. -/
structure Aggregates where
  getWorkflowAggregates : SystemDatabase → WorkflowAggregatesBody →
    Except String (List AggregateRow)
  getStepAggregates : SystemDatabase → StepAggregatesBody →
    Except String (List AggregateRow)

/-- A query answers with the count of every group. -/
def CountsBy {Item : Type} (selects : Item → Bool) (groupOf : Item → Group)
    (items : List Item) (answer : Except String (List AggregateRow)) : Prop :=
  ∃ rows, Grouped groupOf (items.filter selects) rows ∧
    answer = .ok (rows.map fun row => ⟨row.1, some row.2⟩)

/-- The queries are answered, filter inclusively and count by group. -/
structure Aggregates.Faithful (aggregates : Aggregates) : Prop where
  workflows : ∀ database body, body.selectCount = true →
    CountsBy body.selects body.groupOf database.workflows
      (aggregates.getWorkflowAggregates database body)
  steps : ∀ database body, body.selectCount = true →
    CountsBy body.selects body.groupOf database.steps
      (aggregates.getStepAggregates database body)

/-! ## The collector -/

/-- The rates. -/
inductive Family where
  | started
  | dequeued
  | success
  | failed
  | cancelled
  | stepSucc
  | stepFail
deriving DecidableEq, Repr

/-- The name a rate is emitted under. -/
def Family.metric : Family → String
  | .started => "dbos_conductor_v1_workflow_started_rate"
  | .dequeued => "dbos_conductor_v1_workflow_dequeued_rate"
  | .success => "dbos_conductor_v1_workflow_success_rate"
  | .failed => "dbos_conductor_v1_workflow_failed_rate"
  | .cancelled => "dbos_conductor_v1_workflow_cancelled_rate"
  | .stepSucc => "dbos_conductor_v1_step_success_rate"
  | .stepFail => "dbos_conductor_v1_step_failed_rate"

/-- `aggregateCollector`: the value of every rate at every label set. -/
abbrev Collector := Family → String → ℚ

/-- A call of `addRate`. -/
structure RateCall where
  family : Family
  labels : String
  count : Int
deriving DecidableEq, Repr

/-- `addRate`. -/
def addRate (collector : Collector) (call : RateCall) : Collector :=
  if call.count < 0 then collector
  else fun family labels =>
    if family = call.family ∧ labels = call.labels then
      collector family labels + call.count / 60
    else collector family labels

/-- `groupString`: the first of the keys which has a value. -/
def groupString (group : Group) (keys : List String) : String :=
  (keys.findSome? fun key => (group.lookup key).join).getD ""

/-- One character of a label value. -/
def escapeLabel : Char → List Char
  | '\\' => ['\\', '\\']
  | '"' => ['\\', '"']
  | '\n' => ['\\', 'n']
  | char => [char]

/-- `sanitizeLabel`. -/
def sanitizeLabel (label : String) : String :=
  String.ofList ((label.toList.take 64).flatMap escapeLabel)

/-- `workflowLabel`. -/
def workflowLabel (app workflow queue : String) : String :=
  "\x7bapplication=\"" ++ sanitizeLabel app ++ "\",workflow_name=\"" ++
    sanitizeLabel workflow ++ "\",queue_name=\"" ++ sanitizeLabel queue ++
      "\"\x7d"

/-- `stepLabel`. -/
def stepLabel (app step : String) : String :=
  "\x7bapplication=\"" ++ sanitizeLabel app ++ "\",step_name=\"" ++
    sanitizeLabel step ++ "\"\x7d"

/-- `wantsMetric`. -/
def wantsMetric (metricsFilter names : List String) : Bool :=
  decide (metricsFilter = [] ∨ ∃ name ∈ names, name ∈ metricsFilter)

/-- What a scrape asks for, and how it upper-cases a status. -/
structure Scraper where
  appName : String
  workflowNamesFilter : List String
  metricsFilter : List String
  toUpper : String → String

/-- `time.Minute`. -/
def minute : Duration := 60 * second

/-- The minute of the clock a scrape is made in. -/
def minuteOf (now : Time) : Int := now / minute

/-- The end of the window of a scrape: `now.Truncate(time.Minute)`. -/
def windowEnd (now : Time) : Time := minuteOf now * minute

/-- The start of the window. -/
def windowStart (now : Time) : Time := windowEnd now - minute

namespace Scraper

variable (scraper : Scraper)

/-- A workflow's rows are dropped without a name, or when its name is not asked for. -/
def keepsName (name : String) : Bool :=
  decide (name ≠ "" ∧
    (scraper.workflowNamesFilter = [] ∨ name ∈ scraper.workflowNamesFilter))

/-- Where a row of workflows started or dequeued is counted. -/
def countedRow (family : Family) (group : Group) : Option (Family × String) :=
  let name := groupString group ["workflow_name", "name"]
  let queue := groupString group ["queue_name", "queue"]
  if scraper.keepsName name then
    some (family, workflowLabel scraper.appName name queue)
  else none

/-- The rate of a status. -/
def completionFamily (status : String) : Option Family :=
  if status = "SUCCESS" then some .success
  else if status = "ERROR" ∨ status = "MAX_RECOVERY_ATTEMPTS_EXCEEDED" then
    some .failed
  else if status = "CANCELLED" ∨ status = "CANCELED" then some .cancelled
  else none

/-- The rate of the status of a step; an empty one is not classified. -/
def stepFamily (status : String) : Option Family :=
  if status = "SUCCESS" then some .stepSucc
  else if status ≠ "" then some .stepFail
  else none

/-- The rate, if it is asked for. -/
def wanted (family : Option Family) : Option Family :=
  family.filter fun family => wantsMetric scraper.metricsFilter [family.metric]

/-- Where a row of completed workflows is counted. -/
def completedRow (group : Group) : Option (Family × String) :=
  let name := groupString group ["workflow_name", "name"]
  let queue := groupString group ["queue_name", "queue"]
  let status := scraper.toUpper (groupString group ["status"])
  if scraper.keepsName name then
    (scraper.wanted (completionFamily status)).map fun family =>
      (family, workflowLabel scraper.appName name queue)
  else none

/-- Where a row of completed steps is counted. -/
def stepRow (group : Group) : Option (Family × String) :=
  let name := groupString group ["function_name", "step_name", "name"]
  let status := scraper.toUpper (groupString group ["status"])
  if name = "" then none
  else
    (scraper.wanted (stepFamily status)).map fun family =>
      (family, stepLabel scraper.appName name)

/-- The workflows which started in the window. -/
def startedBody (now : Time) : WorkflowAggregatesBody :=
  { groupByName := true
    groupByQueueName := true
    selectCount := true
    startTime := some (windowStart now)
    endTime := some (windowEnd now)
    name := scraper.workflowNamesFilter }

/-- The workflows which completed in the window. -/
def completedBody (now : Time) : WorkflowAggregatesBody :=
  { groupByStatus := true
    groupByName := true
    groupByQueueName := true
    selectCount := true
    completedAfter := some (windowStart now)
    completedBefore := some (windowEnd now)
    name := scraper.workflowNamesFilter }

/-- The workflows which were dequeued in the window. -/
def dequeuedBody (now : Time) : WorkflowAggregatesBody :=
  { groupByName := true
    groupByQueueName := true
    selectCount := true
    dequeuedAfter := some (windowStart now)
    dequeuedBefore := some (windowEnd now)
    name := scraper.workflowNamesFilter }

/-- The steps which completed in the window. -/
def stepBody (now : Time) : StepAggregatesBody :=
  { groupByFunctionName := true
    groupByStatus := true
    selectCount := true
    completedAfter := some (windowStart now)
    completedBefore := some (windowEnd now) }

/-- The calls of `addRate` for an answer; a failed query has none. -/
def callsOf (row : Group → Option (Family × String))
    (answer : Except String (List AggregateRow)) : List RateCall :=
  match answer with
  | .error _ => []
  | .ok rows =>
      rows.filterMap fun aggregate =>
        match aggregate.count with
        | none => none
        | some count =>
            (row aggregate.group).map fun target =>
              ⟨target.1, target.2, count⟩

/-- The metrics for which the completed workflows are asked. -/
def completionMetrics : List String :=
  [Family.success.metric, Family.failed.metric, Family.cancelled.metric,
    "dbos_conductor_v1_workflow_max_queue_wait_seconds",
    "dbos_conductor_v1_workflow_max_total_latency_seconds"]

/-- The metrics for which the steps are asked. -/
def stepMetrics : List String :=
  [Family.stepSucc.metric, Family.stepFail.metric,
    "dbos_conductor_v1_step_max_duration_seconds"]

/-- `collectAppAggregates`, the calls of `addRate` it makes. -/
def rateCalls (aggregates : Aggregates) (database : SystemDatabase)
    (now : Time) : List RateCall :=
  (if wantsMetric scraper.metricsFilter [Family.started.metric] then
      callsOf (scraper.countedRow .started)
        (aggregates.getWorkflowAggregates database (scraper.startedBody now))
    else []) ++
  (if wantsMetric scraper.metricsFilter completionMetrics then
      callsOf scraper.completedRow
        (aggregates.getWorkflowAggregates database (scraper.completedBody now))
    else []) ++
  (if wantsMetric scraper.metricsFilter [Family.dequeued.metric] then
      callsOf (scraper.countedRow .dequeued)
        (aggregates.getWorkflowAggregates database (scraper.dequeuedBody now))
    else []) ++
  if wantsMetric scraper.metricsFilter stepMetrics then
    callsOf scraper.stepRow
      (aggregates.getStepAggregates database (stepBody now))
  else []

/-- `collectAppAggregates`, the rates. -/
def collectAppAggregates (aggregates : Aggregates) (database : SystemDatabase)
    (now : Time) : Collector :=
  (scraper.rateCalls aggregates database now).foldl addRate fun _ _ => 0

end Scraper

/-! ## Contributions -/

/-- What happens to a workflow, and the completion of a step. -/
inductive Occurrence where
  | started (workflow : Workflow)
  | dequeued (workflow : Workflow)
  | completed (workflow : Workflow)
  | stepCompleted (step : Step)
deriving DecidableEq, Repr

/-- When it happened, in milliseconds. -/
def Occurrence.time : Occurrence → Option Int
  | .started workflow => some workflow.createdAt
  | .dequeued workflow => workflow.dequeuedAt
  | .completed workflow => workflow.completedAt
  | .stepCompleted step => step.completedAt

/-- The rates which are about it. -/
def Occurrence.families : Occurrence → List Family
  | .started _ => [.started]
  | .dequeued _ => [.dequeued]
  | .completed _ => [.success, .failed, .cancelled]
  | .stepCompleted _ => [.stepSucc, .stepFail]

/-- The database with one more workflow or step, the one it happened to. -/
def Occurrence.addTo (occurrence : Occurrence) (database : SystemDatabase) :
    SystemDatabase :=
  match occurrence with
  | .started workflow | .dequeued workflow | .completed workflow =>
      { database with workflows := workflow :: database.workflows }
  | .stepCompleted step => { database with steps := step :: database.steps }

/-- It contributes to the rates of a scrape: without it one of them is another. -/
def Contributes (scraper : Scraper) (aggregates : Aggregates)
    (database : SystemDatabase) (now : Time) (occurrence : Occurrence) : Prop :=
  ∃ family ∈ occurrence.families, ∃ labels,
    scraper.collectAppAggregates aggregates (occurrence.addTo database) now
        family labels ≠
      scraper.collectAppAggregates aggregates database now family labels

/-- The scrapes are made in consecutive minutes, some minutes after `first`. -/
def CoversMinutes (scrapes : List Time) (first : Int) (count : Nat) : Prop :=
  ∀ index, (∃ now ∈ scrapes, minuteOf now = index) ↔
    first < index ∧ index ≤ first + count

/-- The occurrence is one the rates count at all. -/
def Scraper.Counts (scraper : Scraper) : Occurrence → Prop
  | .started workflow =>
      scraper.keepsName workflow.name = true ∧
        wantsMetric scraper.metricsFilter [Family.started.metric] = true
  | .dequeued workflow =>
      scraper.keepsName workflow.name = true ∧
        wantsMetric scraper.metricsFilter [Family.dequeued.metric] = true
  | .completed workflow =>
      scraper.keepsName workflow.name = true ∧
        scraper.wanted
          (Scraper.completionFamily (scraper.toUpper workflow.status)) ≠ none
  | .stepCompleted step =>
      step.functionName ≠ "" ∧
        scraper.wanted
          (Scraper.stepFamily (scraper.toUpper (step.status.getD ""))) ≠ none

/-! ## Rates are counts -/

/-- The count some calls of `addRate` add to one rate at one label set. -/
def totalOf (family : Family) (labels : String) (calls : List RateCall) : Int :=
  ((calls.filter fun call => family = call.family ∧ labels = call.labels).map
    (·.count)).sum

theorem foldl_addRate {calls : List RateCall} (collector : Collector)
    (notNegative : ∀ call ∈ calls, 0 ≤ call.count) (family : Family)
    (labels : String) :
    calls.foldl addRate collector family labels =
      collector family labels + totalOf family labels calls / 60 := by
  induction calls generalizing collector with
  | nil => simp [totalOf]
  | cons call calls induction =>
      rw [List.forall_mem_cons] at notNegative
      rw [List.foldl_cons, induction _ notNegative.2, addRate,
        if_neg (not_lt.mpr notNegative.1)]
      by_cases here : family = call.family ∧ labels = call.labels
      · simp only [totalOf, List.filter_cons, here, and_self, decide_true,
          if_true, List.map_cons, List.sum_cons]
        push_cast
        ring
      · simp only [totalOf, List.filter_cons, here, decide_false, if_false]
        simp

theorem totalOf_append (family : Family) (labels : String)
    (first second : List RateCall) :
    totalOf family labels (first ++ second) =
      totalOf family labels first + totalOf family labels second := by
  simp [totalOf]

section Calls

variable {Item : Type} {selects : Item → Bool} {groupOf : Item → Group}
variable {items : List Item} {answer : Except String (List AggregateRow)}

theorem callsOf_notNegative (row : Group → Option (Family × String))
    (counts : CountsBy selects groupOf items answer) :
    ∀ call ∈ Scraper.callsOf row answer, 0 ≤ call.count := by
  obtain ⟨rows, -, rfl⟩ := counts
  intro call member
  simp only [Scraper.callsOf, List.mem_filterMap, List.mem_map] at member
  obtain ⟨_, ⟨group, -, rfl⟩, called⟩ := member
  obtain ⟨target, -, rfl⟩ := Option.map_eq_some_iff.mp called
  exact Int.natCast_nonneg group.2

/-- The calls for a query add the number of the items of these labels. -/
theorem totalOf_callsOf (row : Group → Option (Family × String))
    (counts : CountsBy selects groupOf items answer) (family : Family)
    (labels : String) :
    totalOf family labels (Scraper.callsOf row answer) =
      ((items.filter selects).countP fun item =>
        row (groupOf item) = some (family, labels) : Nat) := by
  obtain ⟨rows, grouped, rfl⟩ := counts
  rw [← grouped.sum_filter fun group => row group = some (family, labels)]
  clear grouped
  induction rows with
  | nil => rfl
  | cons first rows induction =>
      have calls :
          Scraper.callsOf row (.ok ((first :: rows).map fun row =>
              (⟨row.1, some (row.2 : Int)⟩ : AggregateRow))) =
            ((row first.1).map fun target =>
              (⟨target.1, target.2, first.2⟩ : RateCall)).toList ++
            Scraper.callsOf row (.ok (rows.map fun row =>
              (⟨row.1, some (row.2 : Int)⟩ : AggregateRow))) := by
        cases target : row first.1 <;>
          simp [Scraper.callsOf, target]
      rw [calls, totalOf_append, induction]
      by_cases counted : row first.1 = some (family, labels)
      · simp [totalOf, counted]
      · cases target : row first.1 with
        | none => simp [totalOf, target]
        | some other =>
            have elsewhere : ¬(family = other.1 ∧ labels = other.2) := by
              rintro ⟨rfl, rfl⟩
              exact counted target
            have notCounted : other ≠ (family, labels) := by
              rintro rfl
              exact elsewhere ⟨rfl, rfl⟩
            simp [totalOf, target, elsewhere, notCounted]

end Calls

/-- The items of a query which one rate counts at one label set. -/
def partOf {Item : Type} (asked : Bool) (row : Group → Option (Family × String))
    (selects : Item → Bool) (groupOf : Item → Group) (items : List Item)
    (family : Family) (labels : String) : Nat :=
  if asked then
    (items.filter selects).countP fun item =>
      row (groupOf item) = some (family, labels)
  else 0

theorem totalOf_part {Item : Type} {selects : Item → Bool}
    {groupOf : Item → Group} {items : List Item}
    {answer : Except String (List AggregateRow)} (asked : Bool)
    (row : Group → Option (Family × String))
    (counts : CountsBy selects groupOf items answer) (family : Family)
    (labels : String) :
    totalOf family labels (if asked then Scraper.callsOf row answer else []) =
      partOf asked row selects groupOf items family labels := by
  cases asked with
  | false => rfl
  | true => exact totalOf_callsOf row counts family labels

/-- One more item counts where it is selected and its row is counted. -/
theorem partOf_cons {Item : Type} {asked : Bool}
    {row : Group → Option (Family × String)} {selects : Item → Bool}
    {groupOf : Item → Group} {items : List Item} {family : Family}
    {labels : String} (item : Item) :
    partOf asked row selects groupOf (item :: items) family labels =
      partOf asked row selects groupOf items family labels +
        if asked = true ∧ selects item = true ∧
          row (groupOf item) = some (family, labels) then 1 else 0 := by
  cases asked with
  | false => simp [partOf]
  | true =>
      by_cases selected : selects item = true
      · by_cases counted : row (groupOf item) = some (family, labels)
        · simp [partOf, selected, counted]
        · simp [partOf, selected, counted]
      · simp [partOf, selected]

/-- An item whose row is never counted in the rate changes nothing. -/
theorem partOf_cons_of_ne {Item : Type} {asked : Bool}
    {row : Group → Option (Family × String)} {selects : Item → Bool}
    {groupOf : Item → Group} {items : List Item} {family : Family}
    {labels : String} (item : Item)
    (elsewhere : ∀ group, row group ≠ some (family, labels)) :
    partOf asked row selects groupOf (item :: items) family labels =
      partOf asked row selects groupOf items family labels := by
  rw [partOf_cons, if_neg, Nat.add_zero]
  rintro ⟨-, -, counted⟩
  exact elsewhere _ counted

namespace Scraper

variable (scraper : Scraper)

/-- The occurrences which one rate counts at one label set. -/
def tally (database : SystemDatabase) (now : Time) (family : Family)
    (labels : String) : Nat :=
  partOf (wantsMetric scraper.metricsFilter [Family.started.metric])
      (scraper.countedRow .started) (scraper.startedBody now).selects
      (scraper.startedBody now).groupOf database.workflows family labels +
    partOf (wantsMetric scraper.metricsFilter completionMetrics)
      scraper.completedRow (scraper.completedBody now).selects
      (scraper.completedBody now).groupOf database.workflows family labels +
    partOf (wantsMetric scraper.metricsFilter [Family.dequeued.metric])
      (scraper.countedRow .dequeued) (scraper.dequeuedBody now).selects
      (scraper.dequeuedBody now).groupOf database.workflows family labels +
    partOf (wantsMetric scraper.metricsFilter stepMetrics)
      scraper.stepRow (stepBody now).selects (stepBody now).groupOf
      database.steps family labels

/-- Every rate is its tally by the second. -/
theorem collectAppAggregates_eq {aggregates : Aggregates}
    (faithful : aggregates.Faithful) (database : SystemDatabase) (now : Time)
    (family : Family) (labels : String) :
    scraper.collectAppAggregates aggregates database now family labels =
      (scraper.tally database now family labels : ℚ) / 60 := by
  have started := faithful.workflows database (scraper.startedBody now) rfl
  have completed := faithful.workflows database (scraper.completedBody now) rfl
  have dequeued := faithful.workflows database (scraper.dequeuedBody now) rfl
  have steps := faithful.steps database (stepBody now) rfl
  have notNegative : ∀ call ∈ scraper.rateCalls aggregates database now,
      0 ≤ call.count := by
    intro call member
    simp only [rateCalls, List.mem_append] at member
    rcases member with ((member | member) | member) | member
    all_goals
      split_ifs at member
      · exact callsOf_notNegative _ (by assumption) call member
      · cases member
  rw [collectAppAggregates, foldl_addRate _ notNegative, zero_add, rateCalls,
    totalOf_append, totalOf_append, totalOf_append,
    totalOf_part _ _ started, totalOf_part _ _ completed,
    totalOf_part _ _ dequeued, totalOf_part _ _ steps, tally]
  push_cast
  rfl

theorem family_of_countedRow {scraper : Scraper} {family counted : Family}
    {group : Group} {labels : String}
    (row : scraper.countedRow family group = some (counted, labels)) :
    counted = family := by
  rw [countedRow] at row
  split_ifs at row
  cases row
  rfl

theorem family_of_completedRow {scraper : Scraper} {counted : Family}
    {group : Group} {labels : String}
    (row : scraper.completedRow group = some (counted, labels)) :
    counted ∈ [Family.success, .failed, .cancelled] := by
  simp only [completedRow] at row
  split_ifs at row
  obtain ⟨family, isWanted, same⟩ := Option.map_eq_some_iff.mp row
  cases same
  have classified := (Option.filter_eq_some_iff.mp isWanted).1
  rw [completionFamily] at classified
  split_ifs at classified <;> cases classified <;> decide

theorem family_of_stepRow {scraper : Scraper} {counted : Family}
    {group : Group} {labels : String}
    (row : scraper.stepRow group = some (counted, labels)) :
    counted ∈ [Family.stepSucc, .stepFail] := by
  simp only [stepRow] at row
  split_ifs at row
  obtain ⟨family, isWanted, same⟩ := Option.map_eq_some_iff.mp row
  cases same
  have classified := (Option.filter_eq_some_iff.mp isWanted).1
  rw [stepFamily] at classified
  split_ifs at classified <;> cases classified <;> decide

/-- The occurrence is selected by its query and its row is counted. -/
def Hits (now : Time) (occurrence : Occurrence) (family : Family)
    (labels : String) : Prop :=
  match occurrence with
  | .started workflow =>
      wantsMetric scraper.metricsFilter [Family.started.metric] = true ∧
        (scraper.startedBody now).selects workflow = true ∧
        scraper.countedRow .started
          ((scraper.startedBody now).groupOf workflow) = some (family, labels)
  | .dequeued workflow =>
      wantsMetric scraper.metricsFilter [Family.dequeued.metric] = true ∧
        (scraper.dequeuedBody now).selects workflow = true ∧
        scraper.countedRow .dequeued
          ((scraper.dequeuedBody now).groupOf workflow) = some (family, labels)
  | .completed workflow =>
      wantsMetric scraper.metricsFilter completionMetrics = true ∧
        (scraper.completedBody now).selects workflow = true ∧
        scraper.completedRow
          ((scraper.completedBody now).groupOf workflow) = some (family, labels)
  | .stepCompleted step =>
      wantsMetric scraper.metricsFilter stepMetrics = true ∧
        (stepBody now).selects step = true ∧
        scraper.stepRow ((stepBody now).groupOf step) = some (family, labels)

/-- A number changes by one more exactly where there is one more. -/
theorem counted_ne_iff {hits : Prop} [Decidable hits] {before after : Nat}
    (counted : after = before + if hits then 1 else 0) :
    after ≠ before ↔ hits := by
  split_ifs at counted with isHit
  · exact iff_of_true (by omega) isHit
  · exact iff_of_false (by omega) isHit

/-- The tally of a rate about the occurrence changes exactly where it hits. -/
theorem tally_addTo_ne_iff {now : Time} {occurrence : Occurrence}
    {family : Family} (about : family ∈ occurrence.families)
    (database : SystemDatabase) (labels : String) :
    scraper.tally (occurrence.addTo database) now family labels ≠
        scraper.tally database now family labels ↔
      scraper.Hits now occurrence family labels := by
  have notStarted : family ≠ .started → ∀ group,
      scraper.countedRow .started group ≠ some (family, labels) :=
    fun other _ row => other (family_of_countedRow row)
  have notDequeued : family ≠ .dequeued → ∀ group,
      scraper.countedRow .dequeued group ≠ some (family, labels) :=
    fun other _ row => other (family_of_countedRow row)
  have notCompleted : family ∉ [Family.success, .failed, .cancelled] →
      ∀ group, scraper.completedRow group ≠ some (family, labels) :=
    fun other _ row => other (family_of_completedRow row)
  cases occurrence with
  | started workflow =>
      obtain rfl := List.mem_singleton.mp about
      simp only [tally, Occurrence.addTo, Hits]
      rw [partOf_cons, partOf_cons_of_ne workflow (notCompleted (by decide)),
        partOf_cons_of_ne workflow (notDequeued (by decide))]
      exact counted_ne_iff (by omega)
  | dequeued workflow =>
      obtain rfl := List.mem_singleton.mp about
      simp only [tally, Occurrence.addTo, Hits]
      rw [partOf_cons_of_ne workflow (notStarted (by decide)),
        partOf_cons_of_ne workflow (notCompleted (by decide)), partOf_cons]
      exact counted_ne_iff (by omega)
  | completed workflow =>
      have others : family ≠ .started ∧ family ≠ .dequeued := by
        constructor <;> rintro rfl <;> simp [Occurrence.families] at about
      simp only [tally, Occurrence.addTo, Hits]
      rw [partOf_cons_of_ne workflow (notStarted others.1), partOf_cons,
        partOf_cons_of_ne workflow (notDequeued others.2)]
      exact counted_ne_iff (by omega)
  | stepCompleted step =>
      simp only [tally, Occurrence.addTo, Hits]
      rw [partOf_cons]
      exact counted_ne_iff (by omega)

/-- A time lies in the window of a scrape, both ends included. -/
def InWindow (now : Time) (time : Option Int) : Prop :=
  ∃ moment, time = some moment ∧ unixMilli (windowStart now) ≤ moment ∧
    moment ≤ unixMilli (windowEnd now)

theorem inWindow_iff (now : Time) (time : Option Int) :
    InWindow now time ↔
      notBefore (some (windowStart now)) time = true ∧
        notAfter (some (windowEnd now)) time = true := by
  cases time with
  | none => simp [InWindow, notBefore]
  | some moment => simp [InWindow, notBefore, notAfter]

theorem startedBody_selects_iff {now : Time} {workflow : Workflow} :
    (scraper.startedBody now).selects workflow = true ↔
      InWindow now (some workflow.createdAt) ∧
        (scraper.workflowNamesFilter = [] ∨
          workflow.name ∈ scraper.workflowNamesFilter) := by
  rw [inWindow_iff]
  simp only [WorkflowAggregatesBody.selects, Bool.and_eq_true,
    decide_eq_true_eq]
  simp [startedBody]

theorem dequeuedBody_selects_iff {now : Time} {workflow : Workflow} :
    (scraper.dequeuedBody now).selects workflow = true ↔
      InWindow now workflow.dequeuedAt ∧
        (scraper.workflowNamesFilter = [] ∨
          workflow.name ∈ scraper.workflowNamesFilter) := by
  rw [inWindow_iff]
  simp only [WorkflowAggregatesBody.selects, Bool.and_eq_true,
    decide_eq_true_eq]
  simp [dequeuedBody]

theorem completedBody_selects_iff {now : Time} {workflow : Workflow} :
    (scraper.completedBody now).selects workflow = true ↔
      InWindow now workflow.completedAt ∧
        (scraper.workflowNamesFilter = [] ∨
          workflow.name ∈ scraper.workflowNamesFilter) := by
  rw [inWindow_iff]
  simp only [WorkflowAggregatesBody.selects, Bool.and_eq_true,
    decide_eq_true_eq]
  simp [completedBody]

theorem stepBody_selects_iff {now : Time} {step : Step} :
    (stepBody now).selects step = true ↔ InWindow now step.completedAt := by
  rw [inWindow_iff]
  simp [stepBody, StepAggregatesBody.selects]

/-- The name and the queue of a row of workflows. -/
theorem groupString_groupOf (body : WorkflowAggregatesBody)
    (byName : body.groupByName = true) (byQueue : body.groupByQueueName = true)
    (workflow : Workflow) :
    groupString (body.groupOf workflow) ["workflow_name", "name"] =
        workflow.name ∧
      groupString (body.groupOf workflow) ["queue_name", "queue"] =
        workflow.queueName.getD "" := by
  rcases workflow with ⟨name, queueName, status, createdAt, dequeuedAt,
    completedAt⟩
  simp only [WorkflowAggregatesBody.groupOf, byName, byQueue]
  cases body.groupByStatus <;> cases queueName <;> exact ⟨rfl, rfl⟩

/-- A workflow which started or was dequeued is counted where its name is kept. -/
theorem countedRow_groupOf_iff (family : Family) (body : WorkflowAggregatesBody)
    (byName : body.groupByName = true) (byQueue : body.groupByQueueName = true)
    (workflow : Workflow) :
    (∃ labels, scraper.countedRow family (body.groupOf workflow) =
        some (family, labels)) ↔
      scraper.keepsName workflow.name = true := by
  rcases groupString_groupOf body byName byQueue workflow with ⟨name, queue⟩
  rw [countedRow, name, queue]
  constructor
  · rintro ⟨labels, row⟩
    by_contra dropped
    rw [if_neg dropped] at row
    cases row
  · intro kept
    exact ⟨_, if_pos kept⟩

/-- A row which is kept is counted where its rate is asked for. -/
theorem exists_labelled_iff {kept : Prop} [Decidable kept]
    {wanted : Option Family} {label : String} :
    (∃ family labels,
        (if kept then wanted.map fun family => (family, label) else none) =
          some (family, labels)) ↔
      kept ∧ wanted ≠ none := by
  constructor
  · rintro ⟨family, labels, row⟩
    split_ifs at row with isKept
    obtain ⟨found, isWanted, -⟩ := Option.map_eq_some_iff.mp row
    exact ⟨isKept, Option.ne_none_iff_exists'.mpr ⟨found, isWanted⟩⟩
  · rintro ⟨isKept, isWanted⟩
    obtain ⟨family, isWanted⟩ := Option.ne_none_iff_exists'.mp isWanted
    rw [if_pos isKept, isWanted]
    exact ⟨family, _, rfl⟩

theorem completedRow_groupOf_iff (now : Time) (workflow : Workflow) :
    (∃ family labels, scraper.completedRow
        ((scraper.completedBody now).groupOf workflow) =
          some (family, labels)) ↔
      scraper.keepsName workflow.name = true ∧
        scraper.wanted (completionFamily (scraper.toUpper workflow.status)) ≠
          none := by
  rcases groupString_groupOf (scraper.completedBody now) rfl rfl workflow with
    ⟨name, queue⟩
  have status : groupString ((scraper.completedBody now).groupOf workflow)
      ["status"] = workflow.status := rfl
  rw [completedRow, name, queue, status]
  exact exists_labelled_iff

theorem stepRow_groupOf_iff (now : Time) (step : Step) :
    (∃ family labels, scraper.stepRow ((stepBody now).groupOf step) =
        some (family, labels)) ↔
      step.functionName ≠ "" ∧
        scraper.wanted (stepFamily (scraper.toUpper (step.status.getD ""))) ≠
          none := by
  have name : groupString ((stepBody now).groupOf step)
      ["function_name", "step_name", "name"] = step.functionName := rfl
  have status : groupString ((stepBody now).groupOf step) ["status"] =
      step.status.getD "" := by
    rcases step with ⟨functionName, status, completedAt⟩
    cases status <;> rfl
  rw [stepRow, name, status]
  have labelled := @exists_labelled_iff (step.functionName ≠ "") _
    (scraper.wanted (stepFamily (scraper.toUpper (step.status.getD ""))))
    (stepLabel scraper.appName step.functionName)
  simp only [ne_eq, ite_not] at labelled ⊢
  exact labelled

/-- A rate which is asked for is asked for among others. -/
theorem wantsMetric_of_wanted {status family : Option Family}
    {metrics : List String}
    (among : ∀ one, status = some one → one.metric ∈ metrics)
    (isWanted : scraper.wanted status = family) (found : family ≠ none) :
    wantsMetric scraper.metricsFilter metrics = true := by
  obtain ⟨one, rfl⟩ := Option.ne_none_iff_exists'.mp found
  obtain ⟨isStatus, wants⟩ := Option.filter_eq_some_iff.mp isWanted
  simp only [wantsMetric, decide_eq_true_eq, List.mem_singleton] at wants ⊢
  rcases wants with unfiltered | ⟨name, rfl, listed⟩
  · exact Or.inl unfiltered
  · exact Or.inr ⟨one.metric, among one isStatus, listed⟩

theorem completionFamily_metric {status : String} {family : Family}
    (classified : completionFamily status = some family) :
    family.metric ∈ completionMetrics := by
  rw [completionFamily] at classified
  split_ifs at classified <;> cases classified <;> decide

theorem stepFamily_metric {status : String} {family : Family}
    (classified : stepFamily status = some family) :
    family.metric ∈ stepMetrics := by
  rw [stepFamily] at classified
  split_ifs at classified <;> cases classified <;> decide

/-- An occurrence hits a rate of a scrape when it is counted and in the window. -/
theorem hits_iff (now : Time) (occurrence : Occurrence) :
    (∃ family ∈ occurrence.families, ∃ labels,
        scraper.Hits now occurrence family labels) ↔
      scraper.Counts occurrence ∧ InWindow now occurrence.time := by
  cases occurrence with
  | started workflow =>
      have row := scraper.countedRow_groupOf_iff .started
        (scraper.startedBody now) rfl rfl workflow
      simp only [Occurrence.families, List.mem_singleton, exists_eq_left, Hits,
        exists_and_left, row, startedBody_selects_iff, Counts, Occurrence.time,
        keepsName, decide_eq_true_eq]
      grind
  | dequeued workflow =>
      have row := scraper.countedRow_groupOf_iff .dequeued
        (scraper.dequeuedBody now) rfl rfl workflow
      simp only [Occurrence.families, List.mem_singleton, exists_eq_left, Hits,
        exists_and_left, row, dequeuedBody_selects_iff, Counts, Occurrence.time,
        keepsName, decide_eq_true_eq]
      grind
  | completed workflow =>
      have row := scraper.completedRow_groupOf_iff now workflow
      constructor
      · rintro ⟨family, -, labels, -, selected, counted⟩
        have inside := (scraper.completedBody_selects_iff.mp selected).1
        exact ⟨row.mp ⟨family, labels, counted⟩, inside⟩
      · rintro ⟨⟨kept, isWanted⟩, inside⟩
        obtain ⟨family, labels, counted⟩ := row.mpr ⟨kept, isWanted⟩
        refine ⟨family, family_of_completedRow counted, labels, ?_, ?_, counted⟩
        · exact scraper.wantsMetric_of_wanted
            (fun _ classified => completionFamily_metric classified) rfl isWanted
        · rw [keepsName, decide_eq_true_eq] at kept
          exact scraper.completedBody_selects_iff.mpr ⟨inside, kept.2⟩
  | stepCompleted step =>
      have row := scraper.stepRow_groupOf_iff now step
      constructor
      · rintro ⟨family, -, labels, -, selected, counted⟩
        exact ⟨row.mp ⟨family, labels, counted⟩,
          stepBody_selects_iff.mp selected⟩
      · rintro ⟨counts, inside⟩
        obtain ⟨family, labels, counted⟩ := row.mpr counts
        refine ⟨family, family_of_stepRow counted, labels, ?_,
          stepBody_selects_iff.mpr inside, counted⟩
        exact scraper.wantsMetric_of_wanted
          (fun _ classified => stepFamily_metric classified) rfl counts.2

end Scraper

/-! ## Windows and minutes -/

theorem contributes_iff (scraper : Scraper) {aggregates : Aggregates}
    (faithful : aggregates.Faithful) (database : SystemDatabase) (now : Time)
    (occurrence : Occurrence) :
    Contributes scraper aggregates database now occurrence ↔
      scraper.Counts occurrence ∧ Scraper.InWindow now occurrence.time := by
  rw [← scraper.hits_iff]
  have changes : ∀ family ∈ occurrence.families, ∀ labels,
      scraper.collectAppAggregates aggregates (occurrence.addTo database) now
          family labels ≠
        scraper.collectAppAggregates aggregates database now family labels ↔
      scraper.Hits now occurrence family labels := by
    intro family about labels
    rw [scraper.collectAppAggregates_eq faithful,
      scraper.collectAppAggregates_eq faithful,
      ← scraper.tally_addTo_ne_iff about database labels, ne_eq, ne_eq,
      div_left_inj' (by norm_num), Nat.cast_inj]
  constructor
  · rintro ⟨family, about, labels, changed⟩
    exact ⟨family, about, labels, (changes family about labels).mp changed⟩
  · rintro ⟨family, about, labels, hits⟩
    exact ⟨family, about, labels, (changes family about labels).mpr hits⟩

/-- The window of a scrape by the number of its minute. -/
theorem inWindow_iff_minute (now : Time) (moment : Int) :
    Scraper.InWindow now (some moment) ↔
      (minuteOf now - 1) * 60000 ≤ moment ∧ moment ≤ minuteOf now * 60000 := by
  have ends : unixMilli (windowEnd now) = minuteOf now * 60000 := by
    unfold unixMilli windowEnd minute second
    omega
  have starts : unixMilli (windowStart now) = (minuteOf now - 1) * 60000 := by
    unfold unixMilli windowStart windowEnd minute second
    omega
  rw [Scraper.InWindow, ends, starts]
  simp

/-- Scrapes have the same window exactly in the same minute. -/
theorem windowEnd_eq_iff (first other : Time) :
    windowEnd first = windowEnd other ↔ minuteOf first = minuteOf other := by
  have positive : minute ≠ 0 := by decide
  exact mul_left_inj' positive

section Minutes

variable {scraper : Scraper} {aggregates : Aggregates}
variable {database : SystemDatabase} {scrapes : List Time} {first : Int}
variable {count : Nat} {occurrence : Occurrence} {moment : Int}

/-- The occurrence contributes to the rates of exactly one window. -/
def ContributesOnce (scraper : Scraper) (aggregates : Aggregates)
    (database : SystemDatabase) (scrapes : List Time)
    (occurrence : Occurrence) : Prop :=
  ∃! window, ∃ now ∈ scrapes, windowEnd now = window ∧
    Contributes scraper aggregates database now occurrence

theorem contributes_iff_minute (faithful : aggregates.Faithful)
    (happened : occurrence.time = some moment) (now : Time) :
    Contributes scraper aggregates database now occurrence ↔
      scraper.Counts occurrence ∧ (minuteOf now - 1) * 60000 ≤ moment ∧
        moment ≤ minuteOf now * 60000 := by
  rw [contributes_iff scraper faithful, happened, inWindow_iff_minute]

/-- On the boundary of two windows it contributes to both. -/
theorem not_contributesOnce_of_boundary (faithful : aggregates.Faithful)
    (covers : CoversMinutes scrapes first count)
    (happened : occurrence.time = some moment)
    (counts : scraper.Counts occurrence) (onBoundary : moment % 60000 = 0)
    (inside : first * 60000 < moment ∧ moment < (first + count) * 60000) :
    ¬ ContributesOnce scraper aggregates database scrapes occurrence := by
  rintro ⟨window, -, unique⟩
  obtain ⟨before, inBefore, beforeMinute⟩ :=
    (covers (moment / 60000)).mpr (by omega)
  obtain ⟨after, inAfter, afterMinute⟩ :=
    (covers (moment / 60000 + 1)).mpr (by omega)
  have beforeWindow := unique (windowEnd before) ⟨before, inBefore, rfl,
    (contributes_iff_minute faithful happened before).mpr
      ⟨counts, by omega, by omega⟩⟩
  have afterWindow := unique (windowEnd after) ⟨after, inAfter, rfl,
    (contributes_iff_minute faithful happened after).mpr
      ⟨counts, by omega, by omega⟩⟩
  have sameMinute := (windowEnd_eq_iff before after).mp
    (beforeWindow.trans afterWindow.symm)
  omega

/-- Elsewhere it contributes to the window of its minute alone. -/
theorem contributesOnce_of_inside (faithful : aggregates.Faithful)
    (covers : CoversMinutes scrapes first count)
    (happened : occurrence.time = some moment)
    (counts : scraper.Counts occurrence)
    (covered : first * 60000 ≤ moment ∧ moment < (first + count) * 60000)
    (notBoundary : ¬(moment % 60000 = 0 ∧ first * 60000 < moment)) :
    ContributesOnce scraper aggregates database scrapes occurrence := by
  obtain ⟨now, scraped, inMinute⟩ :=
    (covers (moment / 60000 + 1)).mpr (by omega)
  refine ⟨windowEnd now, ⟨now, scraped, rfl,
    (contributes_iff_minute faithful happened now).mpr
      ⟨counts, by omega, by omega⟩⟩, ?_⟩
  rintro window ⟨other, otherScraped, rfl, contributed⟩
  obtain ⟨-, starts, ends⟩ :=
    (contributes_iff_minute faithful happened other).mp contributed
  have inRange := (covers (minuteOf other)).mp ⟨other, otherScraped, rfl⟩
  rw [windowEnd_eq_iff]
  omega

end Minutes

/--
Over scrapes of consecutive minutes, what happened in one of these minutes
contributes to the rates of exactly one window when the rates count it at all
and it did not happen on the boundary of two of the windows.  Both windows
count the boundary, as the end of the one and the start of the other.
-/
theorem contributesOnce_iff (scraper : Scraper) (aggregates : Aggregates)
    (faithful : aggregates.Faithful) (database : SystemDatabase)
    (scrapes : List Time) (first : Int) (count : Nat)
    (covers : CoversMinutes scrapes first count) (occurrence : Occurrence)
    (moment : Int) (happened : occurrence.time = some moment)
    (covered : first * 60000 ≤ moment ∧ moment < (first + count) * 60000) :
    ContributesOnce scraper aggregates database scrapes occurrence ↔
      scraper.Counts occurrence ∧
        ¬(moment % 60000 = 0 ∧ first * 60000 < moment) := by
  constructor
  · intro once
    have counts : scraper.Counts occurrence := by
      obtain ⟨window, ⟨now, -, -, contributed⟩, -⟩ := once
      exact ((contributes_iff_minute faithful happened now).mp contributed).1
    refine ⟨counts, ?_⟩
    rintro ⟨onBoundary, inside⟩
    exact not_contributesOnce_of_boundary faithful covers happened counts
      onBoundary ⟨inside, covered.2⟩ once
  · rintro ⟨counts, notBoundary⟩
    exact contributesOnce_of_inside faithful covers happened counts covered
      notBoundary

/-- The queries carried out on the lists. -/
def listAggregates : Aggregates where
  getWorkflowAggregates database body :=
    .ok ((countByKey body.groupOf (database.workflows.filter body.selects)).map
      fun row => ⟨row.1, some row.2⟩)
  getStepAggregates database body :=
    .ok ((countByKey body.groupOf (database.steps.filter body.selects)).map
      fun row => ⟨row.1, some row.2⟩)

theorem listAggregates_faithful : listAggregates.Faithful where
  workflows database body _ :=
    ⟨_, grouped_countByKey body.groupOf (database.workflows.filter body.selects),
      rfl⟩
  steps database body _ :=
    ⟨_, grouped_countByKey body.groupOf (database.steps.filter body.selects),
      rfl⟩

/-- A scrape of everything. -/
def unfiltered : Scraper := ⟨"app", [], [], String.toUpper⟩

/-- Scrapes in two minutes which follow one another. -/
def twoScrapes : List Time := [90 * second, 150 * second]

theorem twoScrapes_covers : CoversMinutes twoScrapes 0 2 := by
  intro index
  constructor
  · rintro ⟨now, scraped, rfl⟩
    simp only [twoScrapes, List.mem_cons, List.not_mem_nil, or_false] at scraped
    rcases scraped with rfl | rfl <;> decide
  · rintro ⟨after, upTo⟩
    have minutes : index = 1 ∨ index = 2 := by omega
    rcases minutes with rfl | rfl
    · exact ⟨90 * second, by simp [twoScrapes], by decide⟩
    · exact ⟨150 * second, by simp [twoScrapes], by decide⟩

/-- A workflow which started at the given millisecond. -/
def startedAt (createdAt : Int) : Workflow :=
  ⟨"checkout", none, "PENDING", createdAt, none, none⟩

theorem startedAt_counts (createdAt : Int) :
    unfiltered.Counts (.started (startedAt createdAt)) :=
  ⟨rfl, rfl⟩

theorem started_on_boundary_twice :
    ¬ ∀ (scraper : Scraper) (aggregates : Aggregates),
      aggregates.Faithful → ∀ (database : SystemDatabase)
        (scrapes : List Time) (first : Int) (count : Nat),
        CoversMinutes scrapes first count → ∀ (occurrence : Occurrence)
          (moment : Int), scraper.Counts occurrence →
            occurrence.time = some moment →
              first * 60000 ≤ moment ∧ moment < (first + count) * 60000 →
                ContributesOnce scraper aggregates database scrapes
                  occurrence := by
  intro always
  refine not_contributesOnce_of_boundary listAggregates_faithful
    twoScrapes_covers rfl (startedAt_counts 60000) (by decide) (by decide)
    (always unfiltered listAggregates listAggregates_faithful ⟨[], []⟩ twoScrapes
      0 2 twoScrapes_covers (.started (startedAt 60000)) 60000
      (startedAt_counts 60000) rfl (by decide))

theorem started_inside_once :
    ContributesOnce unfiltered listAggregates ⟨[startedAt 60000], []⟩ twoScrapes
      (.started (startedAt 90000)) :=
  (contributesOnce_iff unfiltered listAggregates listAggregates_faithful
    ⟨[startedAt 60000], []⟩ twoScrapes 0 2 twoScrapes_covers
    (.started (startedAt 90000)) 90000 rfl (by decide)).mpr
      ⟨startedAt_counts 90000, by decide⟩

end DbosRelay.Metrics
