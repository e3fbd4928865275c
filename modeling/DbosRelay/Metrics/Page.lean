import DbosRelay.Library.Exposition
import DbosRelay.Library.Tables
import DbosRelay.Metrics.Folding
import Mathlib.Data.List.Sort

/-!
# The page of a scrape

The text `ServeHTTP` of `internal/metrics/metrics.go` answers a scrape with: the
counts of the executors, and the series of the aggregates.  Whoever reads it gets one
sample for each label set of each family which is asked for, and nothing else.

What `strconv` makes of a number which is no integer is a parameter.  The counts come
from the grouped query, which both stores have, and the request is not given up before
every application has answered or failed.
-/

namespace DbosRelay.Metrics

open DbosRelay.Basic
open DbosRelay.Library.Escaping
open DbosRelay.Library.Exposition
open DbosRelay.Library.Tables

/-! ## The counts of the executors -/

/-- `ExecutorCountRow`. -/
structure ExecutorCountRow where
  organisationID : Option UUID
  applicationName : String
  applicationVersion : String
  status : String
  count : Int
deriving DecidableEq, Repr

/-- The row is of an application in scope. -/
def Scrape.counts (scrape : Scrape) (row : ExecutorCountRow) : Bool :=
  decide (scrape.appsFilter = [] ∨ row.applicationName ∈ scrape.appsFilter) &&
    (scrape.isAdmin ||
      (row.organisationID.all (· = scrape.orgID) &&
        decide (scrape.applicationNames = [] ∨
          row.applicationName ∈ scrape.applicationNames)))

/-- The status an executor is counted under. -/
def executorStatus (status : String) : String :=
  if status = "connected" then "HEALTHY"
  else if status = "disconnected" then "DISCONNECTED"
  else if status = "dead" then "DEAD"
  else "HEALTHY"

/-- The label of a version. -/
def executorVersion (version : String) : String :=
  if sanitizeLabel version = "" then "unknown" else sanitizeLabel version

/-- The labels a row is counted under. -/
def executorLabel (row : ExecutorCountRow) : String :=
  "\x7bapplication=\"" ++ sanitizeLabel row.applicationName ++
    "\",application_version=\"" ++ executorVersion row.applicationVersion ++
      "\",status=\"" ++ executorStatus row.status ++ "\"\x7d"

/-- `executorCounts` after a row. -/
def Scrape.addCount (scrape : Scrape) (counts : Table String Int)
    (row : ExecutorCountRow) : Table String Int :=
  if scrape.counts row then
    counts.insert (executorLabel row)
      (int64 ((counts.lookup (executorLabel row)).getD 0 + row.count))
  else counts

/-- `executorCounts`. -/
def Scrape.executorCounts (scrape : Scrape) (rows : List ExecutorCountRow) :
    Table String Int :=
  rows.foldl scrape.addCount ∅

/-! ## The text -/

/-- An integer in base ten. -/
def formatDecimal (number : Int) : List Char :=
  if number < 0 then '-' :: Nat.toDigits 10 number.natAbs
  else Nat.toDigits 10 number.natAbs

/-- `formatMetricValue` of a finite number. -/
def formatMetricValue (formatFloat : ℚ → List Char) (value : ℚ) : List Char :=
  if value.den = 1 ∧ |value| < 10 ^ 15 then formatDecimal value.num
  else formatFloat value

/-- What follows the labels of a value. -/
structure Written where
  value : List Char
  timestamp : Option (List Char)

/-- A count as it is written. -/
def writtenCount (count : Int) : Written := ⟨formatDecimal count, none⟩

/-- A `floatWithTS` as it is written. -/
def writtenFloat (formatFloat : ℚ → List Char) (entry : FloatWithTS) : Written :=
  ⟨formatMetricValue formatFloat entry.value, entry.timestamp.map formatDecimal⟩

/-- The keys of a map as `sort.Strings` orders them. -/
def sortedKeys {Value : Type} (entries : Table String Value) : List String :=
  entries.keys.insertionSort (· ≤ ·)

/-- The line of one label set. -/
def sampleText (name labels : String) (written : Written) : List Char :=
  name.toList ++ labels.toList ++ ' ' :: (written.value ++
    (written.timestamp.map (' ' :: ·)).getD []) ++ ['\n']

/-- The line of a key of a map. -/
def keyText {Value : Type} (write : Value → Written) (name : String)
    (entries : Table String Value) (labels : String) : List Char :=
  match entries.lookup labels with
  | some value => sampleText name labels (write value)
  | none => []

/-- `emitMetric` and `emitFloatMetric`, by how they write a value. -/
def emit {Value : Type} (write : Value → Written) (metricsFilter : List String)
    (name help : String) (entries : Table String Value) : List Char :=
  if metricsFilter ≠ [] ∧ name ∉ metricsFilter then []
  else
    '#' :: (" HELP ".toList ++ name.toList ++ ' ' :: help.toList) ++ ['\n'] ++
      '#' :: (" TYPE ".toList ++ name.toList ++ " gauge".toList) ++ ['\n'] ++
      (sortedKeys entries).flatMap (keyText write name entries)

/-- `emitMetric`. -/
def emitMetric : List String → String → String → Table String Int → List Char :=
  emit writtenCount

/-- `emitFloatMetric`. -/
def emitFloatMetric (formatFloat : ℚ → List Char) :
    List String → String → String → Table String FloatWithTS → List Char :=
  emit (writtenFloat formatFloat)

/-- The name the counts of the executors are emitted under. -/
def executorCountMetric : String := "dbos_conductor_v1_executor_count"

/-- The series in the order of `emitTo`, with their help texts. -/
def emitted : List (Series × String) :=
  [(.rate .started, "Workflows created per second."),
    (.rate .dequeued, "Enqueued workflows dequeued per second."),
    (.rate .success, "Workflows that completed successfully per second."),
    (.rate .failed, "Workflows that terminated with an error per second."),
    (.rate .cancelled, "Workflows that were cancelled per second."),
    (.point .enqueued, "Workflows currently in the ENQUEUED state."),
    (.point .pending, "Workflows currently in the PENDING state."),
    (.point .oldestEnq, "Unix timestamp of the oldest ENQUEUED workflow."),
    (.point .oldestPend, "Unix timestamp of the oldest PENDING workflow."),
    (.windowed .maxWait,
      "Maximum queue wait across workflows completed successfully in the window."),
    (.windowed .maxLatency,
      "Maximum end-to-end latency across workflows completed successfully in the window."),
    (.rate .stepSucc, "Workflow steps that completed successfully per second."),
    (.rate .stepFail, "Workflow steps that terminated with an error per second."),
    (.windowed .stepMaxDur,
      "Maximum single-step duration across steps completed successfully in the window.")]

/-- A map of the collector after a call. -/
def addEntry (windowTS : Int) (series : Series)
    (table : Table String FloatWithTS) (write : Write) :
    Table String FloatWithTS :=
  if write.series = series then
    match write.entry windowTS (table.lookup write.labels) with
    | some entry => table.insert write.labels entry
    | none => table
  else table

/-- A map of the collector. -/
def seriesTable (windowTS : Int) (writes : List Write) (series : Series) :
    Table String FloatWithTS :=
  writes.foldl (addEntry windowTS series) ∅

/-- `windowTS`: seconds in the OpenMetrics format, milliseconds in the other one. -/
def windowTimestamp (isOpenMetrics : Bool) (now : Time) : Int :=
  if isOpenMetrics then unixSeconds (windowEnd now) else unixMilli (windowEnd now)

/-- The aggregates are collected. -/
def Scrape.aggregates (scrape : Scrape) (hasDispatcher : Bool)
    (apps : List MetricsApp) : Bool :=
  hasDispatcher && decide (scrape.scopedApps apps ≠ []) &&
    wantsMetric scrape.metricsFilter (emitted.map fun entry => entry.1.metric)

/-- The page of a scrape, with the calls on the collector in the order they are made. -/
def Scrape.page (scrape : Scrape) (formatFloat : ℚ → List Char)
    (isOpenMetrics hasDispatcher : Bool) (now : Time)
    (rows : List ExecutorCountRow) (apps : List MetricsApp)
    (writes : List Write) : List Char :=
  emitMetric scrape.metricsFilter executorCountMetric
      "Number of registered executors." (scrape.executorCounts rows) ++
    (if scrape.aggregates hasDispatcher apps then
      emitted.flatMap fun entry =>
        emitFloatMetric formatFloat scrape.metricsFilter entry.1.metric entry.2
          (seriesTable (windowTimestamp isOpenMetrics now) writes entry.1)
    else []) ++
    if isOpenMetrics then '#' :: " EOF".toList ++ ['\n'] else []

/-! ## Label sets -/

/-- What the labels in a key say. -/
def labelsOf (key : String) : List Label :=
  ((readLabels key.toList.length key.toList.tail).map Prod.fst).getD []

/-- A key is a set of labels as the format has them. -/
def Rendered (key : String) : Prop :=
  labelsOf key ≠ [] ∧
    (∀ label ∈ labelsOf key, '=' ∉ label.1 ∧ '\n' ∉ label.1) ∧
      key.toList = '{' :: writeLabels [] (labelsOf key)

/-- A key which is written as labels says these labels. -/
theorem labelsOf_eq {key : String} {labels : List Label} (labelled : labels ≠ [])
    (free : ∀ label ∈ labels, '=' ∉ label.1)
    (written : key.toList = '{' :: writeLabels [] labels) :
    labelsOf key = labels := by
  have enough : labels.length ≤ key.toList.length := by
    have long := length_writeLabels labels []
    rw [written, List.length_cons]
    omega
  rw [labelsOf, written, List.tail_cons, ← written,
    readLabels_writeLabels labelled free enough, Option.map_some,
    Option.getD_some]

theorem rendered_of_written {key : String} {labels : List Label}
    (labelled : labels ≠ [])
    (free : ∀ label ∈ labels, '=' ∉ label.1 ∧ '\n' ∉ label.1)
    (written : key.toList = '{' :: writeLabels [] labels) : Rendered key := by
  have same := labelsOf_eq labelled (fun label member => (free label member).1)
    written
  rw [Rendered, same]
  exact ⟨labelled, free, written⟩

theorem rendered_injective {key other : String} (rendered : Rendered key)
    (otherRendered : Rendered other) (same : labelsOf key = labelsOf other) :
    key = other := by
  rw [← String.toList_inj, rendered.2.2, otherRendered.2.2, same]

/-- The escape of a label value is that of the format. -/
theorem toList_sanitizeLabel (label : String) :
    (sanitizeLabel label).toList = labelValues.escape (label.toList.take 64) := by
  rw [sanitizeLabel, String.toList_ofList, Scheme.escape]
  refine List.flatMap_congr fun char _ => ?_
  unfold escapeLabel Scheme.write labelValues
  split
  · rfl
  · rfl
  · rfl
  · rename_i notBackslash notQuote notNewline
    simp only [if_neg notBackslash, if_neg notQuote, if_neg notNewline]

/-- A text which is spelled out has the characters it is spelled with. -/
theorem not_mem_of_spelled {text : String} {chars : List Char} {char : Char}
    (spelled : text = String.ofList chars) (free : char ∉ chars) :
    char ∉ text.toList := by
  rwa [spelled, String.toList_ofList]

/-- The names of the labels. -/
def labelNames : List String :=
  ["application", "workflow_name", "queue_name", "step_name",
    "application_version", "status"]

theorem labelNames_free : ∀ name ∈ labelNames,
    '=' ∉ name.toList ∧ '\n' ∉ name.toList := by
  simp only [labelNames, List.forall_mem_cons]
  refine ⟨?_, ?_, ?_, ?_, ?_, ?_, fun _ member => nomatch member⟩ <;>
    exact ⟨not_mem_of_spelled rfl (by decide), not_mem_of_spelled rfl (by decide)⟩

section Keys

variable {key app workflow queue step : String}

/-- Labels with the given names and the first 64 characters of the given values. -/
def shownLabels (labels : List (String × String)) : List Label :=
  labels.map fun label => (label.1.toList, label.2.toList.take 64)

theorem shownLabels_free {labels : List (String × String)}
    (named : ∀ label ∈ labels, label.1 ∈ labelNames) :
    ∀ label ∈ shownLabels labels, '=' ∉ label.1 ∧ '\n' ∉ label.1 := by
  intro label member
  rcases List.mem_map.mp member with ⟨given, isGiven, rfl⟩
  exact labelNames_free given.1 (named given isGiven)

/-- What stands before the value of the first label. -/
def opening (name : List Char) : List Char := '{' :: (name ++ ['=', '"'])

/-- What stands between the values of two labels. -/
def between (name : List Char) : List Char := '"' :: ',' :: (name ++ ['=', '"'])

/-- What stands after the value of the last label. -/
def closing : List Char := ['"', '}']

theorem writeLabels_two (first second : Label) :
    opening first.1 ++ labelValues.escape first.2 ++ between second.1 ++
        labelValues.escape second.2 ++ closing =
      '{' :: writeLabels [] [first, second] := by
  simp [opening, between, closing, writeLabels, writeLabel]

theorem writeLabels_three (first second third : Label) :
    opening first.1 ++ labelValues.escape first.2 ++ between second.1 ++
        labelValues.escape second.2 ++ between third.1 ++
          labelValues.escape third.2 ++ closing =
      '{' :: writeLabels [] [first, second, third] := by
  simp [opening, between, closing, writeLabels, writeLabel]

/-- The characters of a text. -/
def Spells (text : String) (chars : List Char) : Prop := text.toList = chars

theorem Spells.append {text other : String} {chars others : List Char}
    (first : Spells text chars) (second : Spells other others) :
    Spells (text ++ other) (chars ++ others) := by
  unfold Spells at first second ⊢
  rw [String.toList_append, first, second]

theorem spells_label (label : String) :
    Spells (sanitizeLabel label) (labelValues.escape (label.toList.take 64)) :=
  toList_sanitizeLabel label

theorem spells_literal {text : String} {chars : List Char}
    (spelled : text = String.ofList chars) : Spells text chars := by
  rw [Spells, spelled, String.toList_ofList]

/-- What stands around a name is spelled out with the name in it. -/
theorem spells_framed {text name : String} {letters : List Char}
    (frame : List Char → List Char) (named : name = String.ofList letters)
    (spelled : text = String.ofList (frame letters)) :
    Spells text (frame name.toList) := by
  rw [named, String.toList_ofList]
  exact spells_literal spelled

theorem spells_opening :
    Spells "\x7bapplication=\"" (opening "application".toList) :=
  spells_framed opening rfl rfl

theorem spells_workflowName :
    Spells "\",workflow_name=\"" (between "workflow_name".toList) :=
  spells_framed between rfl rfl

theorem spells_queueName :
    Spells "\",queue_name=\"" (between "queue_name".toList) :=
  spells_framed between rfl rfl

theorem spells_stepName :
    Spells "\",step_name=\"" (between "step_name".toList) :=
  spells_framed between rfl rfl

theorem spells_closing : Spells "\"\x7d" closing :=
  spells_literal rfl

theorem spells_workflowLabel (app workflow queue : String) :
    Spells (workflowLabel app workflow queue)
      ('{' :: writeLabels [] (shownLabels
        [("application", app), ("workflow_name", workflow),
          ("queue_name", queue)])) := by
  have spelled := (((((spells_opening.append (spells_label app)).append
    spells_workflowName).append (spells_label workflow)).append
      spells_queueName).append (spells_label queue)).append spells_closing
  exact spelled.trans (writeLabels_three ("application".toList, _)
    ("workflow_name".toList, _) ("queue_name".toList, _))

theorem spells_workflowPendingLabel (app workflow : String) :
    Spells (workflowPendingLabel app workflow)
      ('{' :: writeLabels [] (shownLabels
        [("application", app), ("workflow_name", workflow)])) := by
  have spelled := (((spells_opening.append (spells_label app)).append
    spells_workflowName).append (spells_label workflow)).append spells_closing
  exact spelled.trans (writeLabels_two ("application".toList, _)
    ("workflow_name".toList, _))

theorem spells_stepLabel (app step : String) :
    Spells (stepLabel app step)
      ('{' :: writeLabels [] (shownLabels
        [("application", app), ("step_name", step)])) := by
  have spelled := (((spells_opening.append (spells_label app)).append
    spells_stepName).append (spells_label step)).append spells_closing
  exact spelled.trans (writeLabels_two ("application".toList, _)
    ("step_name".toList, _))

end Keys

/-- The version an executor's label shows. -/
def shownVersion (version : String) : List Char :=
  if version = "" then "unknown".toList else version.toList.take 64

/-- The labels of a row's executors. -/
def executorLabels (row : ExecutorCountRow) : List Label :=
  [("application".toList, row.applicationName.toList.take 64),
    ("application_version".toList, shownVersion row.applicationVersion),
    ("status".toList, (executorStatus row.status).toList)]

theorem sanitizeLabel_eq_empty_iff (label : String) :
    sanitizeLabel label = "" ↔ label = "" := by
  rw [← String.toList_inj, toList_sanitizeLabel, ← String.toList_inj]
  have empty : "".toList = [] := rfl
  rw [empty]
  cases label.toList with
  | nil => exact ⟨fun _ => rfl, fun _ => rfl⟩
  | cons char rest =>
      rw [List.take_succ_cons, Scheme.escape_cons]
      rcases Scheme.write_cases labelValues char with
        ⟨letter, -, written⟩ | ⟨-, -, written⟩
      · simp [written]
      · simp [written]

theorem spells_version (version : String) :
    Spells (executorVersion version)
      (labelValues.escape (shownVersion version)) := by
  unfold executorVersion shownVersion
  by_cases empty : version = ""
  · rw [if_pos ((sanitizeLabel_eq_empty_iff version).mpr empty), if_pos empty]
    exact spells_framed labelValues.escape rfl rfl
  · rw [if_neg fun same => empty ((sanitizeLabel_eq_empty_iff version).mp same),
      if_neg empty]
    exact spells_label version

theorem spells_status (status : String) :
    Spells (executorStatus status)
      (labelValues.escape (executorStatus status).toList) := by
  unfold executorStatus
  split_ifs <;>
    exact spells_framed labelValues.escape rfl rfl

theorem spells_executorLabel (row : ExecutorCountRow) :
    Spells (executorLabel row)
      ('{' :: writeLabels [] (executorLabels row)) := by
  have second : Spells "\",application_version=\""
      (between "application_version".toList) :=
    spells_framed between rfl rfl
  have third : Spells "\",status=\"" (between "status".toList) :=
    spells_framed between rfl rfl
  have spelled := (((((spells_opening.append
    (spells_label row.applicationName)).append second).append
      (spells_version row.applicationVersion)).append third).append
        (spells_status row.status)).append spells_closing
  exact spelled.trans (writeLabels_three ("application".toList, _)
    ("application_version".toList, _) ("status".toList, _))

theorem executorLabels_free (row : ExecutorCountRow) :
    ∀ label ∈ executorLabels row, '=' ∉ label.1 ∧ '\n' ∉ label.1 := by
  intro label member
  simp only [executorLabels, List.mem_cons, List.not_mem_nil, or_false]
    at member
  rcases member with rfl | rfl | rfl
  · exact labelNames_free "application" (by simp [labelNames])
  · exact labelNames_free "application_version" (by simp [labelNames])
  · exact labelNames_free "status" (by simp [labelNames])

theorem rendered_executorLabel (row : ExecutorCountRow) :
    Rendered (executorLabel row) ∧
      labelsOf (executorLabel row) = executorLabels row :=
  ⟨rendered_of_written (List.cons_ne_nil _ _) (executorLabels_free row)
      (spells_executorLabel row),
    labelsOf_eq (List.cons_ne_nil _ _)
      (fun label member => (executorLabels_free row label member).1)
      (spells_executorLabel row)⟩

theorem rendered_of_spells {key : String} {labels : List (String × String)}
    (labelled : labels ≠ []) (named : ∀ label ∈ labels, label.1 ∈ labelNames)
    (spells : Spells key ('{' :: writeLabels [] (shownLabels labels))) :
    Rendered key :=
  rendered_of_written (List.map_eq_nil_iff.not.mpr labelled)
    (shownLabels_free named) spells

theorem rendered_workflowLabel (app workflow queue : String) :
    Rendered (workflowLabel app workflow queue) :=
  rendered_of_spells (List.cons_ne_nil _ _) (by simp [labelNames])
    (spells_workflowLabel app workflow queue)

theorem rendered_workflowPendingLabel (app workflow : String) :
    Rendered (workflowPendingLabel app workflow) :=
  rendered_of_spells (List.cons_ne_nil _ _) (by simp [labelNames])
    (spells_workflowPendingLabel app workflow)

theorem rendered_stepLabel (app step : String) :
    Rendered (stepLabel app step) :=
  rendered_of_spells (List.cons_ne_nil _ _) (by simp [labelNames])
    (spells_stepLabel app step)

/-! ## What the collector is called with -/

section Writes

variable {scraper : Scraper} {write : Write}

theorem rendered_countWrites {family : Family} {row : WorkflowAggregateRow}
    (member : write ∈ scraper.countWrites family row) :
    Rendered write.labels := by
  unfold Scraper.countWrites Scraper.countedRow at member
  dsimp only at member
  split at member
  · rename_i counted
    split_ifs at counted
    cases counted
    cases List.mem_singleton.mp member
    exact rendered_workflowLabel _ _ _
  · cases member

theorem rendered_completedWrites {row : WorkflowAggregateRow}
    (member : write ∈ scraper.completedWrites row) :
    Rendered write.labels := by
  have labels : write.labels = workflowLabel scraper.appName
      (groupString row.group ["workflow_name", "name"])
      (groupString row.group ["queue_name", "queue"]) := by
    simp only [Scraper.completedWrites, List.mem_ite_nil_right,
      List.mem_append] at member
    rcases member with ⟨-, counted | ⟨-, waited | total⟩⟩
    · split at counted
      · cases List.mem_singleton.mp counted
        rfl
      · cases counted
    · split at waited
      · cases List.mem_singleton.mp (List.mem_ite_nil_right.mp waited).2
        rfl
      · cases waited
    · split at total
      · cases List.mem_singleton.mp (List.mem_ite_nil_right.mp total).2
        rfl
      · cases total
  rw [labels]
  exact rendered_workflowLabel _ _ _

theorem labels_snapshotWrites {count oldest : PointSeries} {labels : String}
    {row : WorkflowAggregateRow}
    (member : write ∈ scraper.snapshotWrites count oldest labels row) :
    write.labels = labels := by
  unfold Scraper.snapshotWrites at member
  rw [List.mem_append] at member
  rcases member with counted | created
  · split at counted
    · split_ifs at counted
      · cases List.mem_singleton.mp counted
        rfl
      · cases counted
    · cases counted
  · split at created
    · split_ifs at created
      · cases List.mem_singleton.mp created
        rfl
      · cases created
    · cases created

theorem rendered_enqueuedWrites {row : WorkflowAggregateRow}
    (member : write ∈ scraper.enqueuedWrites row) : Rendered write.labels := by
  unfold Scraper.enqueuedWrites at member
  dsimp only at member
  split_ifs at member
  · rw [labels_snapshotWrites member]
    exact rendered_workflowLabel _ _ _
  · cases member

theorem rendered_pendingWrites {row : WorkflowAggregateRow}
    (member : write ∈ scraper.pendingWrites row) : Rendered write.labels := by
  unfold Scraper.pendingWrites at member
  dsimp only at member
  split_ifs at member
  · rw [labels_snapshotWrites member]
    exact rendered_workflowPendingLabel _ _
  · cases member

theorem rendered_stepWrites {row : StepAggregateRow}
    (member : write ∈ scraper.stepWrites row) : Rendered write.labels := by
  have labels : write.labels = stepLabel scraper.appName
      (groupString row.group ["function_name", "step_name", "name"]) := by
    simp only [Scraper.stepWrites, List.mem_ite_nil_left,
      List.mem_append] at member
    rcases member with ⟨-, counted | lasted⟩
    · split at counted
      · cases List.mem_singleton.mp counted
        rfl
      · cases counted
    · split at lasted
      · cases List.mem_singleton.mp (List.mem_ite_nil_right.mp lasted).2
        rfl
      · cases lasted
  rw [labels]
  exact rendered_stepLabel _ _

theorem rendered_answerWrites {Row : Type} {asked : Bool}
    {writes : Row → List Write} {answer : Option (List Row)}
    (each : ∀ row, ∀ write ∈ writes row, Rendered write.labels)
    (member : write ∈ Scraper.answerWrites asked writes answer) :
    Rendered write.labels := by
  unfold Scraper.answerWrites at member
  split_ifs at member
  · rcases List.mem_flatMap.mp member with ⟨row, -, among⟩
    exact each row write among
  · cases member

/-- Every key of the collector is a set of labels. -/
theorem rendered_queried {scrape : Scrape} {apps : List MetricsApp}
    (member : write ∈ scrape.queried apps) : Rendered write.labels := by
  rcases List.mem_flatMap.mp member with ⟨app, -, among⟩
  simp only [Scraper.appWrites, List.mem_append] at among
  rcases among with ((((started | completed) | dequeued) | enqueued) |
    pending) | steps
  · exact rendered_answerWrites (fun _ _ => rendered_countWrites) started
  · exact rendered_answerWrites (fun _ _ => rendered_completedWrites) completed
  · exact rendered_answerWrites (fun _ _ => rendered_countWrites) dequeued
  · exact rendered_answerWrites (fun _ _ => rendered_enqueuedWrites) enqueued
  · exact rendered_answerWrites (fun _ _ => rendered_pendingWrites) pending
  · exact rendered_answerWrites (fun _ _ => rendered_stepWrites) steps

end Writes

end DbosRelay.Metrics
