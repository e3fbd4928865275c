import DbosRelay.Metrics.Page

/-!
# What is read off the page of a scrape

The page has one sample for each entry of each map which is asked for: the counts of
the executors and what the collector has.  No two samples of a metric have the same
labels.
-/

namespace DbosRelay.Metrics

open DbosRelay.Basic
open DbosRelay.Library.Exposition
open DbosRelay.Library.FloatSums
open DbosRelay.Library.Tables

/-! ## The maps -/

/-- An entry which a call makes nothing of was no entry. -/
theorem Write.eq_none_of_entry {windowTS : Int} {old : Option FloatWithTS}
    {write : Write} (nothing : write.entry windowTS old = none) : old = none := by
  cases write with
  | addRate family labels count =>
      rw [Write.entry] at nothing
      split_ifs at nothing
      exact nothing
  | setPoint series labels value => cases nothing
  | setWindowed series labels value => cases nothing

/-- The maps of the collector are those of `collect`. -/
theorem lookup_seriesTable (windowTS : Int) (writes : List Write)
    (series : Series) (labels : String) :
    (seriesTable windowTS writes series).lookup labels =
      collect windowTS writes series labels := by
  induction writes using List.reverseRecOn with
  | nil => rfl
  | append_singleton writes write induction =>
      rw [collect_append, seriesTable, List.foldl_concat, ← seriesTable, addEntry,
        Write.apply, ← induction]
      by_cases isSeries : write.series = series
      · rw [if_pos isSeries]
        by_cases isLabels : write.labels = labels
        · rw [if_pos ⟨isSeries, isLabels⟩, isLabels]
          split
          · rename_i entry found
            rw [lookup_insert_eq, if_pos rfl, found]
          · rename_i found
            rw [found, Write.eq_none_of_entry found]
        · rw [if_neg fun isTo => isLabels isTo.2]
          split
          · rw [lookup_insert_eq, if_neg (Ne.symm isLabels)]
          · rfl
      · rw [if_neg isSeries, if_neg fun isTo => isSeries isTo.1]

/-- Every key of a map of the collector is the labels of a call. -/
theorem exists_labels_of_collect {windowTS : Int} {writes : List Write}
    {series : Series} {labels : String} {entry : FloatWithTS}
    (collected : collect windowTS writes series labels = some entry) :
    ∃ write ∈ writes, write.labels = labels := by
  induction writes using List.reverseRecOn generalizing entry with
  | nil => cases collected
  | append_singleton writes write induction =>
      rw [collect_append, Write.apply] at collected
      split_ifs at collected with isTo
      · exact ⟨write, by simp, isTo.2⟩
      · rcases induction collected with ⟨earlier, member, same⟩
        exact ⟨earlier, List.mem_append_left _ member, same⟩

section Counts

variable (scrape : Scrape) (rows : List ExecutorCountRow)

/-- The rows which are counted under a label. -/
def Scrape.rowsUnder (label : String) : List ExecutorCountRow :=
  rows.filter fun row => scrape.counts row && decide (executorLabel row = label)

/-- The executors which are counted under a label. -/
def Scrape.executorsUnder (label : String) : Int :=
  ((scrape.rowsUnder rows label).map ExecutorCountRow.count).sum

variable {scrape rows}

theorem mem_rowsUnder {label : String} {row : ExecutorCountRow} :
    row ∈ scrape.rowsUnder rows label ↔
      row ∈ rows ∧ scrape.counts row = true ∧ executorLabel row = label := by
  rw [Scrape.rowsUnder, List.mem_filter, Bool.and_eq_true, decide_eq_true_eq]

theorem lookup_executorCounts (label : String) :
    (scrape.executorCounts rows).lookup label =
      if scrape.rowsUnder rows label = [] then none
      else some (int64 (scrape.executorsUnder rows label)) := by
  induction rows using List.reverseRecOn with
  | nil => rfl
  | append_singleton rows row induction =>
      have more : scrape.rowsUnder (rows ++ [row]) label =
          scrape.rowsUnder rows label ++ scrape.rowsUnder [row] label := by
        rw [Scrape.rowsUnder, List.filter_append]
        rfl
      rw [Scrape.executorCounts, List.foldl_concat, ← Scrape.executorCounts,
        Scrape.addCount, Scrape.executorsUnder, more]
      by_cases counted : scrape.counts row = true
      · rw [if_pos counted, lookup_insert_eq]
        by_cases isLabel : label = executorLabel row
        · have one : scrape.rowsUnder [row] label = [row] := by
            simp [Scrape.rowsUnder, counted, isLabel]
          rw [if_pos isLabel, one, if_neg (by simp), ← isLabel, induction,
            List.map_append, List.sum_append, List.map_singleton,
            List.sum_singleton]
          split_ifs with empty
          · rw [empty]
            rfl
          · rw [Option.getD_some, int64, int64, Int.bmod_add_bmod]
            rfl
        · have nothing : scrape.rowsUnder [row] label = [] := by
            simp [Scrape.rowsUnder, Ne.symm isLabel]
          rw [if_neg isLabel, nothing, List.append_nil, induction]
          rfl
      · have nothing : scrape.rowsUnder [row] label = [] := by
          simp [Scrape.rowsUnder, counted]
        rw [if_neg counted, nothing, List.append_nil, induction]
        rfl

/-- Every key of the counts is the label of a row. -/
theorem rendered_executorCounts {label : String} {count : Int}
    (counted : (scrape.executorCounts rows).lookup label = some count) :
    Rendered label := by
  rw [lookup_executorCounts] at counted
  split_ifs at counted with empty
  rcases List.exists_mem_of_ne_nil _ empty with ⟨row, member⟩
  rw [← (mem_rowsUnder.mp member).2.2]
  exact (rendered_executorLabel row).1

end Counts

/-! ## The samples of a map -/

theorem wantsMetric_singleton_iff {metricsFilter : List String} {name : String} :
    wantsMetric metricsFilter [name] = true ↔
      ¬(metricsFilter ≠ [] ∧ name ∉ metricsFilter) := by
  simp only [wantsMetric, List.mem_singleton, exists_eq_left,
    decide_eq_true_eq]
  tauto

/-- What is written under a name and labels, as it is read. -/
def sampleOf (name key : String) (written : Written) : Sample where
  metric := name.toList
  labels := labelsOf key
  value := written.value
  timestamp := written.timestamp

/-- What tells the samples of a page apart. -/
def shownSeries (sample : Sample) : List Char × List Label :=
  (sample.metric, sample.labels)

/-- The value and the timestamp keep clear of what ends them. -/
structure Written.Plain (written : Written) : Prop where
  value : ' ' ∉ written.value ∧ '\n' ∉ written.value
  timestamp : ∀ timestamp, written.timestamp = some timestamp → '\n' ∉ timestamp

/-- The name of a metric keeps clear of what ends it. -/
structure PlainName (name : String) : Prop where
  free : '{' ∉ name.toList ∧ '\n' ∉ name.toList
  head : name.toList.head? ≠ some '#'

section Families

variable {Value : Type} {write : Value → Written} {metricsFilter : List String}
  {name help : String} {entries : Table String Value}

/-- The samples of some keys. -/
def samplesOf (write : Value → Written) (name : String)
    (entries : Table String Value) (keys : List String) : List Sample :=
  keys.filterMap fun key =>
    (entries.lookup key).map fun value => sampleOf name key (write value)

/-- The samples `emit` writes. -/
def familySamples (write : Value → Written) (metricsFilter : List String)
    (name : String) (entries : Table String Value) : List Sample :=
  if wantsMetric metricsFilter [name] then
    samplesOf write name entries (sortedKeys entries)
  else []

/-- The lines `emit` writes. -/
def familyLines (write : Value → Written) (metricsFilter : List String)
    (name help : String) (entries : Table String Value) : List Line :=
  if wantsMetric metricsFilter [name] then
    .comment (" HELP ".toList ++ name.toList ++ ' ' :: help.toList) ::
      .comment (" TYPE ".toList ++ name.toList ++ " gauge".toList) ::
      (samplesOf write name entries (sortedKeys entries)).map .sample
  else []

theorem mem_sortedKeys {key : String} :
    key ∈ sortedKeys entries ↔ ∃ value, entries.lookup key = some value := by
  rw [sortedKeys, List.mem_insertionSort, ← AList.mem_keys,
    ← AList.lookup_isSome, Option.isSome_iff_exists]

theorem sampleText_eq {key : String} (rendered : Rendered key)
    (written : Written) :
    sampleText name key written = (sampleOf name key written).write ++ ['\n'] := by
  rw [sampleText, Sample.write, sampleOf, rendered.2.2,
    writeLabels_append _ (' ' :: _)]
  simp [Sample.writeValue]

theorem writeLines_samplesOf {keys : List String}
    (rendered : ∀ key ∈ keys, Rendered key) :
    writeLines ((samplesOf write name entries keys).map .sample) =
      keys.flatMap (keyText write name entries) := by
  induction keys with
  | nil => rfl
  | cons key keys induction =>
      rw [List.forall_mem_cons] at rendered
      rw [List.flatMap_cons, ← induction rendered.2, samplesOf,
        List.filterMap_cons, keyText]
      cases found : entries.lookup key with
      | none => rfl
      | some value =>
          dsimp only [Option.map_some]
          rw [sampleText_eq rendered.1]
          rfl

/-- What `emit` writes is these lines. -/
theorem emit_eq
    (rendered : ∀ key value, entries.lookup key = some value → Rendered key) :
    emit write metricsFilter name help entries =
      writeLines (familyLines write metricsFilter name help entries) := by
  have keys : ∀ key ∈ sortedKeys entries, Rendered key := by
    intro key member
    rcases mem_sortedKeys.mp member with ⟨value, found⟩
    exact rendered key value found
  rw [emit, familyLines]
  by_cases isWanted : wantsMetric metricsFilter [name] = true
  · rw [if_neg (wantsMetric_singleton_iff.mp isWanted), if_pos isWanted,
      ← writeLines_samplesOf keys]
    simp [writeLines, Line.write]
  · rw [if_pos (not_not.mp fun wanted =>
      isWanted (wantsMetric_singleton_iff.mpr wanted)), if_neg isWanted]
    rfl

theorem filterMap_familyLines :
    (familyLines write metricsFilter name help entries).filterMap Line.sample? =
      familySamples write metricsFilter name entries := by
  have each : (Line.sample? ∘ Line.sample) = some := rfl
  rw [familyLines, familySamples]
  split_ifs
  · simp only [List.filterMap_cons, Line.sample?, List.filterMap_map, each,
      List.filterMap_some]
  · rfl

theorem mem_familySamples {sample : Sample} :
    sample ∈ familySamples write metricsFilter name entries ↔
      wantsMetric metricsFilter [name] = true ∧
        ∃ key value, entries.lookup key = some value ∧
          sample = sampleOf name key (write value) := by
  rw [familySamples, List.mem_ite_nil_right, samplesOf, List.mem_filterMap]
  refine and_congr_right fun _ => exists_congr fun key => ?_
  rw [mem_sortedKeys]
  constructor
  · rintro ⟨⟨value, found⟩, same⟩
    rw [found] at same
    exact ⟨value, found, (Option.some.inj same).symm⟩
  · rintro ⟨value, found, rfl⟩
    exact ⟨⟨value, found⟩, by rw [found]; rfl⟩

/-- The labels tell the samples of a map apart. -/
theorem nodup_familySamples
    (rendered : ∀ key value, entries.lookup key = some value → Rendered key) :
    ((familySamples write metricsFilter name entries).map shownSeries).Nodup := by
  rw [familySamples]
  split_ifs
  · have keys : (sortedKeys entries).Nodup :=
      (List.perm_insertionSort _ _).nodup_iff.mpr entries.keys_nodup
    rw [List.Nodup, List.pairwise_map, samplesOf, List.pairwise_filterMap]
    refine keys.imp fun {key other} distinct => ?_
    intro sample isSample later isLater same
    rcases Option.map_eq_some_iff.mp isSample with ⟨value, found, rfl⟩
    rcases Option.map_eq_some_iff.mp isLater with ⟨second, foundSecond, rfl⟩
    exact distinct (rendered_injective (rendered key value found)
      (rendered other second foundSecond) (Prod.mk.inj same).2)
  · exact List.nodup_nil

theorem plain_sampleOf {key : String} {written : Written}
    (named : PlainName name) (rendered : Rendered key)
    (plain : written.Plain) : (sampleOf name key written).Plain where
  metric := named.free
  named := named.head
  labelled := rendered.1
  names := rendered.2.1
  value := plain.value
  timestamp := plain.timestamp

theorem plain_familyLines (named : PlainName name) (helped : '\n' ∉ help.toList)
    (rendered : ∀ key value, entries.lookup key = some value → Rendered key)
    (plain : ∀ value, (write value).Plain) :
    ∀ line ∈ familyLines write metricsFilter name help entries, line.Plain := by
  intro line member
  rw [familyLines, List.mem_ite_nil_right, List.mem_cons, List.mem_cons]
    at member
  rcases member with ⟨isWanted, rfl | rfl | member⟩
  · simpa [Line.Plain, named.free.2] using helped
  · simp [Line.Plain, named.free.2]
  · rcases List.mem_map.mp member with ⟨sample, among, rfl⟩
    have inFamily : sample ∈ familySamples write metricsFilter name entries := by
      rw [familySamples, if_pos isWanted]
      exact among
    rcases (mem_familySamples.mp inFamily).2 with ⟨key, value, found, rfl⟩
    exact plain_sampleOf named (rendered key value found) (plain value)

end Families

/-! ## The numbers -/

theorem formatDecimal_free {number : Int} {char : Char}
    (notSign : char ≠ '-') (notDigit : char.isDigit = false) :
    char ∉ formatDecimal number := by
  intro member
  have among : char ∈ Nat.toDigits 10 number.natAbs := by
    rw [formatDecimal] at member
    split_ifs at member
    · exact List.mem_of_ne_of_mem notSign member
    · exact member
  rw [Nat.isDigit_of_mem_toDigits (by decide) (by decide) among] at notDigit
  cases notDigit

theorem formatDecimal_plain (number : Int) :
    ' ' ∉ formatDecimal number ∧ '\n' ∉ formatDecimal number :=
  ⟨formatDecimal_free (by decide) (by decide),
    formatDecimal_free (by decide) (by decide)⟩

theorem plain_writtenCount (count : Int) : (writtenCount count).Plain where
  value := formatDecimal_plain count
  timestamp _ isStamp := nomatch isStamp

/-- A number which is no integer is one word of one line. -/
def Legible (formatFloat : ℚ → List Char) : Prop :=
  ∀ value, ' ' ∉ formatFloat value ∧ '\n' ∉ formatFloat value

theorem plain_writtenFloat {formatFloat : ℚ → List Char}
    (legible : Legible formatFloat) (entry : FloatWithTS) :
    (writtenFloat formatFloat entry).Plain where
  value := by
    rw [writtenFloat, formatMetricValue]
    split_ifs
    · exact formatDecimal_plain _
    · exact legible _
  timestamp timestamp isStamp := by
    rcases Option.map_eq_some_iff.mp isStamp with ⟨stamp, -, rfl⟩
    exact (formatDecimal_plain stamp).2

/-! ## The page -/

theorem plainName_of_spelled {name : String} {chars : List Char}
    (spelled : name = String.ofList chars)
    (free : '{' ∉ chars ∧ '\n' ∉ chars) (head : chars.head? ≠ some '#') :
    PlainName name where
  free := ⟨not_mem_of_spelled spelled free.1, not_mem_of_spelled spelled free.2⟩
  head := by rwa [spelled, String.toList_ofList]

theorem plainName_metric (series : Series) : PlainName series.metric := by
  rcases series with ⟨⟨⟩⟩ | ⟨⟨⟩⟩ | ⟨⟨⟩⟩ <;>
    exact plainName_of_spelled rfl (by decide) (by decide)

theorem plainName_executorCountMetric : PlainName executorCountMetric :=
  plainName_of_spelled rfl (by decide) (by decide)

theorem newline_not_mem_help : ∀ entry ∈ emitted, '\n' ∉ entry.2.toList := by
  simp only [emitted, List.forall_mem_cons]
  refine ⟨?_, ?_, ?_, ?_, ?_, ?_, ?_, ?_, ?_, ?_, ?_, ?_, ?_, ?_,
    fun _ member => nomatch member⟩ <;>
    exact not_mem_of_spelled rfl (by decide)

/-- The families have names of their own. -/
theorem nodup_metrics :
    (executorCountMetric :: emitted.map fun entry => entry.1.metric).Nodup := by
  simp [emitted, executorCountMetric, Series.metric, Family.metric]

/-- Every series is emitted. -/
theorem exists_emitted (series : Series) : ∃ help, (series, help) ∈ emitted := by
  cases series with
  | rate family => cases family <;> simp [emitted]
  | point series => cases series <;> simp [emitted]
  | windowed series => cases series <;> simp [emitted]

theorem metric_ne_executorCountMetric (series : Series) :
    series.metric ≠ executorCountMetric := by
  intro same
  rcases exists_emitted series with ⟨help, isEmitted⟩
  exact (List.nodup_cons.mp nodup_metrics).1
    (List.mem_map.mpr ⟨(series, help), isEmitted, same⟩)

/-- No two series have one name. -/
theorem metric_injective : Function.Injective Series.metric := by
  intro series other same
  rcases exists_emitted series with ⟨help, isEmitted⟩
  rcases exists_emitted other with ⟨otherHelp, otherEmitted⟩
  exact congrArg Prod.fst (List.inj_on_of_nodup_map
    (List.nodup_cons.mp nodup_metrics).2 isEmitted otherEmitted same)

section Pages

variable (scrape : Scrape) (formatFloat : ℚ → List Char)
  (isOpenMetrics hasDispatcher : Bool) (now : Time)
  (rows : List ExecutorCountRow) (apps : List MetricsApp) (writes : List Write)

/-- The samples of the collector. -/
def Scrape.collectorSamples : List Sample :=
  if scrape.aggregates hasDispatcher apps then
    emitted.flatMap fun entry =>
      familySamples (writtenFloat formatFloat) scrape.metricsFilter
        entry.1.metric
        (seriesTable (windowTimestamp isOpenMetrics now) writes entry.1)
  else []

/-- The samples of a page. -/
def Scrape.pageSamples : List Sample :=
  familySamples writtenCount scrape.metricsFilter executorCountMetric
      (scrape.executorCounts rows) ++
    scrape.collectorSamples formatFloat isOpenMetrics hasDispatcher now apps
      writes

/-- The lines of the collector. -/
def Scrape.collectorLines : List Line :=
  if scrape.aggregates hasDispatcher apps then
    emitted.flatMap fun entry =>
      familyLines (writtenFloat formatFloat) scrape.metricsFilter
        entry.1.metric entry.2
        (seriesTable (windowTimestamp isOpenMetrics now) writes entry.1)
  else []

/-- The lines of a page. -/
def Scrape.pageLines : List Line :=
  familyLines writtenCount scrape.metricsFilter executorCountMetric
      "Number of registered executors." (scrape.executorCounts rows) ++
    scrape.collectorLines formatFloat isOpenMetrics hasDispatcher now apps
      writes ++
    if isOpenMetrics then [.comment " EOF".toList] else []

variable {scrape formatFloat isOpenMetrics hasDispatcher now rows apps writes}

theorem rendered_seriesTable
    (rendered : ∀ write ∈ writes, Rendered write.labels) {windowTS : Int}
    {series : Series} (key : String) (entry : FloatWithTS)
    (found : (seriesTable windowTS writes series).lookup key = some entry) :
    Rendered key := by
  rw [lookup_seriesTable] at found
  rcases exists_labels_of_collect found with ⟨write, member, rfl⟩
  exact rendered write member

/-- The page is these lines. -/
theorem page_eq (rendered : ∀ write ∈ writes, Rendered write.labels) :
    scrape.page formatFloat isOpenMetrics hasDispatcher now rows apps writes =
      writeLines (scrape.pageLines formatFloat isOpenMetrics hasDispatcher now
        rows apps writes) := by
  have counts : emitMetric scrape.metricsFilter executorCountMetric
      "Number of registered executors." (scrape.executorCounts rows) =
        writeLines (familyLines writtenCount scrape.metricsFilter
          executorCountMetric "Number of registered executors."
          (scrape.executorCounts rows)) :=
    emit_eq fun key count => rendered_executorCounts
  have collected : (if scrape.aggregates hasDispatcher apps then
      emitted.flatMap fun entry =>
        emitFloatMetric formatFloat scrape.metricsFilter entry.1.metric entry.2
          (seriesTable (windowTimestamp isOpenMetrics now) writes entry.1)
    else []) = writeLines (scrape.collectorLines formatFloat isOpenMetrics
      hasDispatcher now apps writes) := by
    rw [Scrape.collectorLines]
    split_ifs
    · rw [writeLines, List.flatMap_assoc]
      exact List.flatMap_congr fun entry _ =>
        emit_eq (rendered_seriesTable rendered)
    · rfl
  have ended : (if isOpenMetrics then '#' :: " EOF".toList ++ ['\n'] else []) =
      writeLines (if isOpenMetrics then [.comment " EOF".toList] else []) := by
    cases isOpenMetrics with
    | true => simp [writeLines, Line.write]
    | false => rfl
  rw [Scrape.page, Scrape.pageLines, writeLines_append, writeLines_append,
    counts, collected, ended]

theorem plain_pageLines (legible : Legible formatFloat)
    (rendered : ∀ write ∈ writes, Rendered write.labels) :
    ∀ line ∈ scrape.pageLines formatFloat isOpenMetrics hasDispatcher now rows
      apps writes, line.Plain := by
  intro line member
  rw [Scrape.pageLines, List.mem_append, List.mem_append] at member
  rcases member with (counted | collected) | ended
  · exact plain_familyLines plainName_executorCountMetric
      (not_mem_of_spelled rfl (by decide))
      (fun key count => rendered_executorCounts) plain_writtenCount line counted
  · rw [Scrape.collectorLines, List.mem_ite_nil_right, List.mem_flatMap]
      at collected
    rcases collected with ⟨-, entry, isEmitted, among⟩
    exact plain_familyLines (plainName_metric entry.1)
      (newline_not_mem_help entry isEmitted) (rendered_seriesTable rendered)
      (plain_writtenFloat legible) line among
  · rw [List.mem_ite_nil_right, List.mem_singleton] at ended
    rw [ended.2]
    exact not_mem_of_spelled rfl (by decide)

/-- Whoever reads the page reads these samples. -/
theorem readPage_eq (legible : Legible formatFloat)
    (rendered : ∀ write ∈ writes, Rendered write.labels) :
    readPage (scrape.page formatFloat isOpenMetrics hasDispatcher now rows apps
      writes) = some (scrape.pageSamples formatFloat isOpenMetrics hasDispatcher
        now rows apps writes) := by
  have collected : (scrape.collectorLines formatFloat isOpenMetrics
      hasDispatcher now apps writes).filterMap Line.sample? =
        scrape.collectorSamples formatFloat isOpenMetrics hasDispatcher now apps
          writes := by
    rw [Scrape.collectorLines, Scrape.collectorSamples]
    split_ifs
    · rw [List.filterMap_flatMap]
      exact List.flatMap_congr fun entry _ => filterMap_familyLines
    · rfl
  have ended : (if isOpenMetrics then [Line.comment " EOF".toList]
      else []).filterMap Line.sample? = [] := by
    cases isOpenMetrics <;> rfl
  rw [page_eq rendered, readPage_writeLines (plain_pageLines legible rendered),
    Scrape.pageLines, List.filterMap_append, List.filterMap_append,
    filterMap_familyLines, collected, ended, List.append_nil,
    Scrape.pageSamples]

theorem metric_of_mem_familySamples {Value : Type} {write : Value → Written}
    {metricsFilter : List String} {name : String} {entries : Table String Value}
    {sample : Sample}
    (member : sample ∈ familySamples write metricsFilter name entries) :
    sample.metric = name.toList := by
  rcases (mem_familySamples.mp member).2 with ⟨key, value, -, rfl⟩
  rfl

theorem mem_collectorSamples {sample : Sample} :
    sample ∈ scrape.collectorSamples formatFloat isOpenMetrics hasDispatcher now
        apps writes ↔
      scrape.aggregates hasDispatcher apps = true ∧
        ∃ series, wantsMetric scrape.metricsFilter [series.metric] = true ∧
          ∃ key entry, collect (windowTimestamp isOpenMetrics now) writes series
              key = some entry ∧
            sample = sampleOf series.metric key
              (writtenFloat formatFloat entry) := by
  rw [Scrape.collectorSamples, List.mem_ite_nil_right, List.mem_flatMap]
  refine and_congr_right fun _ => ?_
  simp only [mem_familySamples, lookup_seriesTable]
  constructor
  · rintro ⟨entry, -, isWanted, collected⟩
    exact ⟨entry.1, isWanted, collected⟩
  · rintro ⟨series, isWanted, collected⟩
    rcases exists_emitted series with ⟨help, isEmitted⟩
    exact ⟨(series, help), isEmitted, isWanted, collected⟩

/-- The labels tell the samples of a metric apart. -/
theorem nodup_pageSamples
    (rendered : ∀ write ∈ writes, Rendered write.labels) :
    ((scrape.pageSamples formatFloat isOpenMetrics hasDispatcher now rows apps
      writes).map shownSeries).Nodup := by
  have metrics := (List.nodup_cons.mp nodup_metrics).2
  have counts : ((familySamples writtenCount scrape.metricsFilter
      executorCountMetric (scrape.executorCounts rows)).map shownSeries).Nodup :=
    nodup_familySamples fun key count => rendered_executorCounts
  have collected : ((scrape.collectorSamples formatFloat isOpenMetrics
      hasDispatcher now apps writes).map shownSeries).Nodup := by
    rw [Scrape.collectorSamples]
    split_ifs
    · rw [List.map_flatMap, List.nodup_flatMap]
      constructor
      · exact fun entry _ => nodup_familySamples (rendered_seriesTable rendered)
      · refine (List.pairwise_map.mp metrics).imp
          fun {entry other} distinct => ?_
        intro shown first second
        rcases List.mem_map.mp first with ⟨sample, member, rfl⟩
        rcases List.mem_map.mp second with ⟨later, laterMember, same⟩
        have equal : later.metric = sample.metric := (Prod.mk.inj same).1
        rw [metric_of_mem_familySamples member,
          metric_of_mem_familySamples laterMember] at equal
        exact distinct (String.toList_inj.mp equal.symm)
    · exact List.nodup_nil
  rw [Scrape.pageSamples, List.map_append]
  refine List.Nodup.append counts collected ?_
  intro shown first second
  rcases List.mem_map.mp first with ⟨sample, member, rfl⟩
  rcases List.mem_map.mp second with ⟨later, laterMember, same⟩
  rcases (mem_collectorSamples.mp laterMember).2 with
    ⟨series, -, key, entry, -, rfl⟩
  have equal : series.metric.toList = sample.metric := (Prod.mk.inj same).1
  rw [metric_of_mem_familySamples member] at equal
  exact metric_ne_executorCountMetric series (String.toList_inj.mp equal)

theorem mem_pageSamples {sample : Sample} :
    sample ∈ scrape.pageSamples formatFloat isOpenMetrics hasDispatcher now rows
        apps writes ↔
      (wantsMetric scrape.metricsFilter [executorCountMetric] = true ∧
        ∃ label count,
          (scrape.executorCounts rows).lookup label = some count ∧
            sample = sampleOf executorCountMetric label (writtenCount count)) ∨
      (scrape.aggregates hasDispatcher apps = true ∧
        ∃ series, wantsMetric scrape.metricsFilter [series.metric] = true ∧
          ∃ label entry, collect (windowTimestamp isOpenMetrics now) writes
              series label = some entry ∧
            sample = sampleOf series.metric label
              (writtenFloat formatFloat entry)) := by
  rw [Scrape.pageSamples, List.mem_append, mem_familySamples,
    mem_collectorSamples]

theorem rendered_of_order (order : writes.Perm (scrape.queried apps)) :
    ∀ write ∈ writes, Rendered write.labels :=
  fun _ member => rendered_queried (order.mem_iff.mp member)

/-- An application which was asked to start 30 payments in the minute. -/
def paymentsApp : MetricsApp where
  name := "shop"
  org := some ⟨1⟩
  answers :=
    { started := some [⟨[("name", some "pay")], some 30, none, none, none⟩]
      completed := none
      dequeued := none
      enqueued := none
      pending := none
      steps := none }

/-- A half as it is written. -/
def writtenHalf (_ : ℚ) : List Char := ['0', '.', '5']

theorem legible_writtenHalf : Legible writtenHalf :=
  fun _ => ⟨by simp [writtenHalf], by simp [writtenHalf]⟩

/--
Whoever reads the page reads the entries of the maps which are asked for, and of no
metric two samples with the same labels.
-/
theorem readPage_page (legible : Legible formatFloat)
    (order : writes.Perm (scrape.queried apps)) :
    ∃ samples,
      readPage (scrape.page formatFloat isOpenMetrics hasDispatcher now rows
        apps writes) = some samples ∧
      (samples.map shownSeries).Nodup ∧
      ∀ sample, sample ∈ samples ↔
        (wantsMetric scrape.metricsFilter [executorCountMetric] = true ∧
          ∃ label count,
            (scrape.executorCounts rows).lookup label = some count ∧
              sample = sampleOf executorCountMetric label
                (writtenCount count)) ∨
        (scrape.aggregates hasDispatcher apps = true ∧
          ∃ series, wantsMetric scrape.metricsFilter [series.metric] = true ∧
            ∃ label entry, collect (windowTimestamp isOpenMetrics now) writes
                series label = some entry ∧
              sample = sampleOf series.metric label
                (writtenFloat formatFloat entry)) :=
  ⟨_, readPage_eq legible (rendered_of_order order),
    nodup_pageSamples (rendered_of_order order), fun _ => mem_pageSamples⟩

theorem formatMetricValue_half :
    formatMetricValue writtenHalf (1 / 2) = ['0', '.', '5'] := by
  decide +kernel

theorem queried_paymentsApp : longNamesScrape.queried [paymentsApp] =
    [.addRate .started (workflowLabel "shop" "pay" "") 30] :=
  rfl

/-- The rate of payments is read as a half. -/
theorem readPage_page_payments :
    ∃ samples,
      readPage (longNamesScrape.page writtenHalf false true (90 * second) []
        [paymentsApp] (longNamesScrape.queried [paymentsApp])) = some samples ∧
      (samples.map shownSeries).Nodup ∧
      sampleOf Family.started.metric (workflowLabel "shop" "pay" "")
        ⟨['0', '.', '5'], some ['6', '0', '0', '0', '0']⟩ ∈ samples := by
  obtain ⟨samples, read, nodup, members⟩ :=
    @readPage_page longNamesScrape writtenHalf false true (90 * second) []
      [paymentsApp] _ legible_writtenHalf (List.Perm.refl _)
  have collected : collect (windowTimestamp false (90 * second))
      (longNamesScrape.queried [paymentsApp]) (.rate .started)
      (workflowLabel "shop" "pay" "") = some ⟨1 / 2, some 60000⟩ := by
    rw [queried_paymentsApp, collect, List.foldl_cons, List.foldl_nil,
      Write.apply, if_pos ⟨rfl, rfl⟩]
    decide +kernel
  have stamp : formatDecimal 60000 = ['6', '0', '0', '0', '0'] := by decide
  refine ⟨samples, read, nodup, (members _).mpr (Or.inr ⟨rfl, .rate .started,
    rfl, _, _, collected, ?_⟩)⟩
  rw [writtenFloat, Option.map_some, formatMetricValue_half, stamp]
  rfl

/-! ## One value of a series -/

/-- The values which are read of a series. -/
def valuesRead (samples : List Sample) (metric : String) (labels : List Label) :
    List (List Char) :=
  (samples.filter fun sample =>
    decide (shownSeries sample = (metric.toList, labels))).map Sample.value

theorem valuesRead_eq_singleton {samples : List Sample}
    (nodup : (samples.map shownSeries).Nodup) {name key : String}
    {written : Written} (member : sampleOf name key written ∈ samples) :
    valuesRead samples name (labelsOf key) = [written.value] := by
  have only : (samples.filter fun sample =>
      decide (shownSeries sample = (name.toList, labelsOf key))).Perm
        [sampleOf name key written] := by
    rw [List.perm_ext_iff_of_nodup (nodup.of_map.filter _)
      (List.nodup_singleton _)]
    intro sample
    rw [List.mem_filter, List.mem_singleton, decide_eq_true_eq]
    constructor
    · rintro ⟨isSample, same⟩
      exact List.inj_on_of_nodup_map nodup isSample member same
    · rintro rfl
      exact ⟨member, rfl⟩
  rw [valuesRead, List.perm_singleton.mp only]
  rfl

theorem valuesRead_eq_nil {samples : List Sample} {metric : String}
    {labels : List Label}
    (other : ∀ sample ∈ samples, shownSeries sample ≠ (metric.toList, labels)) :
    valuesRead samples metric labels = [] := by
  rw [valuesRead, List.map_eq_nil_iff, List.filter_eq_nil_iff]
  exact fun sample member => by simpa using other sample member

variable (scrape rows) in
/-- The rows whose executors are shown with some labels. -/
def Scrape.rowsShown (labels : List Label) : List ExecutorCountRow :=
  rows.filter fun row => scrape.counts row && decide (executorLabels row = labels)

theorem mem_rowsShown {labels : List Label} {row : ExecutorCountRow} :
    row ∈ scrape.rowsShown rows labels ↔
      row ∈ rows ∧ scrape.counts row = true ∧ executorLabels row = labels := by
  rw [Scrape.rowsShown, List.mem_filter, Bool.and_eq_true, decide_eq_true_eq]

/-- Rows of one label are rows which show the same labels. -/
theorem executorLabel_eq_iff {row other : ExecutorCountRow} :
    executorLabel row = executorLabel other ↔
      executorLabels row = executorLabels other := by
  have first := rendered_executorLabel row
  have second := rendered_executorLabel other
  constructor
  · intro same
    rw [← first.2, same, second.2]
  · intro same
    exact rendered_injective first.1 second.1
      (first.2.trans (same.trans second.2.symm))

theorem rowsUnder_executorLabel (row : ExecutorCountRow) :
    scrape.rowsUnder rows (executorLabel row) =
      scrape.rowsShown rows (executorLabels row) := by
  unfold Scrape.rowsUnder Scrape.rowsShown
  simp only [executorLabel_eq_iff]

theorem rowsShown_ne_nil {label : String} {count : Int}
    (found : (scrape.executorCounts rows).lookup label = some count) :
    scrape.rowsShown rows (labelsOf label) ≠ [] := by
  rw [lookup_executorCounts] at found
  split_ifs at found with nothing
  rcases List.exists_mem_of_ne_nil _ nothing with ⟨row, isRow⟩
  have isLabel := (mem_rowsUnder.mp isRow).2.2
  rw [← isLabel, (rendered_executorLabel row).2, ← rowsUnder_executorLabel,
    isLabel]
  exact nothing

theorem valuesRead_executors
    (rendered : ∀ write ∈ writes, Rendered write.labels)
    (isWanted : wantsMetric scrape.metricsFilter [executorCountMetric] = true)
    (labels : List Label) :
    valuesRead (scrape.pageSamples formatFloat isOpenMetrics hasDispatcher now
        rows apps writes) executorCountMetric labels =
      if scrape.rowsShown rows labels = [] then []
      else [formatDecimal (int64 ((scrape.rowsShown rows labels).map
        ExecutorCountRow.count).sum)] := by
  split_ifs with empty
  · apply valuesRead_eq_nil
    intro sample member same
    have isMetric := congrArg Prod.fst same
    have isLabels := congrArg Prod.snd same
    rcases mem_pageSamples.mp member with
      ⟨-, label, count, found, isSample⟩ | ⟨-, series, -, label, entry, -, isSample⟩
    · rw [isSample] at isLabels
      have isShown : labelsOf label = labels := isLabels
      exact rowsShown_ne_nil found (isShown ▸ empty)
    · rw [isSample] at isMetric
      have isName : series.metric.toList = executorCountMetric.toList := isMetric
      exact metric_ne_executorCountMetric series (String.toList_inj.mp isName)
  · rcases List.exists_mem_of_ne_nil _ empty with ⟨row, isRow⟩
    have isShown := (mem_rowsShown.mp isRow).2.2
    have found : (scrape.executorCounts rows).lookup (executorLabel row) =
        some (int64 ((scrape.rowsShown rows labels).map
          ExecutorCountRow.count).sum) := by
      rw [lookup_executorCounts, Scrape.executorsUnder,
        rowsUnder_executorLabel, isShown, if_neg empty]
    have read := valuesRead_eq_singleton (nodup_pageSamples rendered)
      (mem_pageSamples.mpr (Or.inl ⟨isWanted, _, _, found, rfl⟩) :
        _ ∈ scrape.pageSamples formatFloat isOpenMetrics hasDispatcher now rows
          apps writes)
    rw [(rendered_executorLabel row).2, isShown] at read
    exact read

/-- Of every application, version and status the number of executors is read. -/
theorem readPage_executors (legible : Legible formatFloat)
    (order : writes.Perm (scrape.queried apps))
    (isWanted : wantsMetric scrape.metricsFilter [executorCountMetric] = true)
    (labels : List Label) :
    ∃ samples,
      readPage (scrape.page formatFloat isOpenMetrics hasDispatcher now rows
        apps writes) = some samples ∧
      valuesRead samples executorCountMetric labels =
        if scrape.rowsShown rows labels = [] then []
        else [formatDecimal (int64 ((scrape.rowsShown rows labels).map
          ExecutorCountRow.count).sum)] :=
  ⟨_, readPage_eq legible (rendered_of_order order),
    valuesRead_executors (rendered_of_order order) isWanted labels⟩

/-- Executors of a row, by their status and number. -/
def shopExecutors (status : String) (count : Int) : ExecutorCountRow :=
  ⟨some ⟨1⟩, "shop", "", status, count⟩

/-- Executors of which nobody knows the status are counted with the connected ones. -/
theorem readPage_executors_shop :
    ∃ samples,
      readPage (longNamesScrape.page writtenHalf false true (90 * second)
        [shopExecutors "connected" 2, shopExecutors "dead" 1,
          shopExecutors "draining" 3] [paymentsApp]
        (longNamesScrape.queried [paymentsApp])) = some samples ∧
      valuesRead samples executorCountMetric
        (executorLabels (shopExecutors "connected" 2)) = [['5']] := by
  obtain ⟨samples, read, values⟩ :=
    @readPage_executors longNamesScrape writtenHalf false true (90 * second)
      [shopExecutors "connected" 2, shopExecutors "dead" 1,
        shopExecutors "draining" 3] [paymentsApp] _ legible_writtenHalf
      (List.Perm.refl _) rfl
      (executorLabels (shopExecutors "connected" 2))
  have number : (if longNamesScrape.rowsShown
      [shopExecutors "connected" 2, shopExecutors "dead" 1,
        shopExecutors "draining" 3]
      (executorLabels (shopExecutors "connected" 2)) = [] then []
    else [formatDecimal (int64 ((longNamesScrape.rowsShown
      [shopExecutors "connected" 2, shopExecutors "dead" 1,
        shopExecutors "draining" 3]
      (executorLabels (shopExecutors "connected" 2))).map
        ExecutorCountRow.count).sum)]) = [['5']] := by
    decide +kernel
  exact ⟨samples, read, values.trans number⟩

/-! ## The rates -/

/-- The values which are written to a series with labels which show some labels. -/
def valuesShown (writes : List Write) (series : Series) (labels : List Label) :
    List ℚ :=
  (writes.filter fun write =>
    decide (write.series = series ∧ labelsOf write.labels = labels)).map
      Write.value

theorem valuesTo_eq_valuesShown
    (rendered : ∀ write ∈ writes, Rendered write.labels) {key : String}
    (isRendered : Rendered key) (series : Series) :
    valuesTo writes series key = valuesShown writes series (labelsOf key) := by
  unfold valuesTo valuesShown
  refine congrArg _ (List.filter_congr fun write member => ?_)
  rw [decide_eq_decide]
  refine and_congr_right fun _ => ⟨congrArg labelsOf, ?_⟩
  exact rendered_injective (rendered write member) isRendered

/-- The counts which are added to a rate with labels which show some labels. -/
def countsShown (writes : List Write) (family : Family) (labels : List Label) :
    List Int :=
  writes.filterMap fun
    | .addRate other key count =>
        if other = family ∧ labelsOf key = labels ∧ 0 ≤ count then some count
        else none
    | _ => none

theorem nonneg_of_mem_countsShown {family : Family} {labels : List Label}
    {count : Int} (member : count ∈ countsShown writes family labels) :
    0 ≤ count := by
  rcases List.mem_filterMap.mp member with ⟨write, -, isCount⟩
  cases write with
  | addRate other key number =>
      dsimp only at isCount
      split_ifs at isCount with shown
      cases isCount
      exact shown.2.2
  | setPoint series key value => cases isCount
  | setWindowed series key value => cases isCount

theorem valuesShown_effective (writes : List Write) (family : Family)
    (labels : List Label) :
    valuesShown (effective writes) (.rate family) labels =
      (countsShown writes family labels).map perSecond := by
  rw [valuesShown, effective, List.filter_filter, ← List.filterMap_eq_map,
    List.filterMap_filter, countsShown, List.map_filterMap]
  refine List.filterMap_congr fun write _ => ?_
  cases write with
  | addRate other key count =>
      have isSeries : (Write.addRate other key count).series = .rate family ↔
          other = family := by
        simp [Write.series]
      simp only [isSeries, Write.takesEffect, Write.labels, Function.comp_apply,
        Write.value, Bool.and_eq_true, decide_eq_true_eq, and_assoc]
      split_ifs
      · rfl
      · rfl
  | setPoint series key value => simp [Write.series]
  | setWindowed series key value => simp [Write.series]

theorem valuesRead_rates
    (rendered : ∀ write ∈ writes, Rendered write.labels) {family : Family}
    (isWanted : wantsMetric scrape.metricsFilter [family.metric] = true)
    (aggregated : scrape.aggregates hasDispatcher apps = true)
    (labels : List Label) :
    valuesRead (scrape.pageSamples formatFloat isOpenMetrics hasDispatcher now
        rows apps writes) family.metric labels =
      ((sumOf ((countsShown writes family labels).map perSecond)).map
        (formatMetricValue formatFloat)).toList := by
  rw [← valuesShown_effective]
  have effectives : ∀ write ∈ effective writes, Rendered write.labels :=
    fun write member => rendered write (List.mem_filter.mp member).1
  cases summed : sumOf (valuesShown (effective writes) (.rate family) labels) with
  | none =>
      apply valuesRead_eq_nil
      intro sample member same
      have isMetric := congrArg Prod.fst same
      have isLabels := congrArg Prod.snd same
      rcases mem_pageSamples.mp member with
        ⟨-, label, count, -, isSample⟩ |
          ⟨-, series, -, label, entry, found, isSample⟩
      · rw [isSample] at isMetric
        have isName : executorCountMetric.toList = family.metric.toList := isMetric
        exact metric_ne_executorCountMetric (.rate family)
          (String.toList_inj.mp isName.symm)
      · rw [isSample] at isMetric isLabels
        have isShown : labelsOf label = labels := isLabels
        have isRate : series = .rate family :=
          metric_injective (String.toList_inj.mp isMetric)
        rcases exists_labels_of_collect found with ⟨write, isWrite, isLabel⟩
        have folded := collect_rate (windowTimestamp isOpenMetrics now) writes
          family label
        rw [valuesTo_eq_valuesShown effectives
          (isLabel ▸ rendered write isWrite), isShown, summed, ← isRate,
          found] at folded
        cases folded
  | some total =>
      have nonempty : valuesShown (effective writes) (.rate family) labels ≠ [] := by
        intro empty
        rw [empty] at summed
        cases summed
      rcases List.exists_mem_of_ne_nil _ nonempty with ⟨value, isValue⟩
      rcases List.mem_map.mp isValue with ⟨write, among, -⟩
      rw [List.mem_filter, decide_eq_true_eq] at among
      rcases among with ⟨isWrite, -, isShown⟩
      have folded := collect_rate (windowTimestamp isOpenMetrics now) writes
        family write.labels
      rw [valuesTo_eq_valuesShown effectives (effectives write isWrite),
        isShown, summed] at folded
      rcases Option.map_eq_some_iff.mp folded with ⟨entry, found, isTotal⟩
      have read := valuesRead_eq_singleton (nodup_pageSamples rendered)
        (mem_pageSamples.mpr (Or.inr ⟨aggregated, .rate family, isWanted, _, _,
          found, rfl⟩) :
          _ ∈ scrape.pageSamples formatFloat isOpenMetrics hasDispatcher now
            rows apps writes)
      rw [isShown] at read
      rw [Option.map_some, Option.toList_some, ← isTotal]
      exact read

/-- Every minute has sixty seconds, and a count is rounded twice. -/
theorem perSecond_near {count : Int} (notNegative : 0 ≤ count) :
    Near 2 (count / 60) (perSecond count) ∧
      ZeroOrAtLeast (-6) (perSecond count) := by
  have whole : ZeroOrAtLeast 0 (count : ℚ) := by
    rcases notNegative.eq_or_lt with rfl | positive
    · exact Or.inl Int.cast_zero
    · exact Or.inr (by exact_mod_cast positive)
  have float := zeroOrAtLeast_float64 (by norm_num) whole
  have quotient : ZeroOrAtLeast (-6) (float64 count / 60) := by
    rcases float with zero | atLeast
    · exact Or.inl (by rw [zero, zero_div])
    · refine Or.inr ?_
      rw [le_div_iff₀ (by norm_num)]
      exact le_trans (by norm_num) atLeast
  exact ⟨((float64_near (by norm_num) whole).div (by norm_num)).trans
    (float64_near (by norm_num) quotient),
    zeroOrAtLeast_float64 (by norm_num) quotient⟩

theorem sum_map_div_sixty (counts : List Int) :
    (counts.map fun count : Int => (count : ℚ) / 60).sum = counts.sum / 60 := by
  induction counts with
  | nil => simp
  | cons count counts induction =>
      rw [List.map_cons, List.sum_cons, List.sum_cons, induction, Int.cast_add,
        add_div]

/-- A sum of rates is off by two roundings and one for each of them. -/
theorem floatSum_perSecond_near {counts : List Int}
    (notNegative : ∀ count ∈ counts, 0 ≤ count) :
    Near (2 + counts.length) (counts.sum / 60)
      (floatSum (counts.map perSecond)) := by
  have atLeast : ∀ value ∈ counts.map perSecond, ZeroOrAtLeast (-6) value := by
    rw [List.forall_mem_map]
    exact fun count member => (perSecond_near (notNegative count member)).2
  have summed := (floatSum_near (by norm_num) atLeast).1
  have each := near_sum fun count member =>
    (perSecond_near (notNegative count member)).1
  rw [sum_map_div_sixty] at each
  rw [List.length_map] at summed
  exact each.trans summed

/--
Of every rate which is asked for one value is read if an answer of a queried
application has a count, in whatever order the answers come: the sum of what the
counts make in a second, which is off by two roundings and one for each count.
-/
theorem readPage_rates (legible : Legible formatFloat)
    (order : writes.Perm (scrape.queried apps)) {family : Family}
    (isWanted : wantsMetric scrape.metricsFilter [family.metric] = true)
    (aggregated : scrape.aggregates hasDispatcher apps = true)
    (labels : List Label) :
    ∃ samples,
      readPage (scrape.page formatFloat isOpenMetrics hasDispatcher now rows
        apps writes) = some samples ∧
      valuesRead samples family.metric labels =
        (if countsShown (scrape.queried apps) family labels = [] then []
        else [formatMetricValue formatFloat (floatSum
          ((countsShown writes family labels).map perSecond))]) ∧
      Near (2 + (countsShown (scrape.queried apps) family labels).length)
        ((countsShown (scrape.queried apps) family labels).sum / 60)
        (floatSum ((countsShown writes family labels).map perSecond)) := by
  have rendered := rendered_of_order order
  have same : (countsShown writes family labels).Perm
      (countsShown (scrape.queried apps) family labels) := order.filterMap _
  refine ⟨_, readPage_eq legible rendered, ?_, ?_⟩
  · have empty : (countsShown writes family labels).map perSecond = [] ↔
        countsShown (scrape.queried apps) family labels = [] := by
      rw [List.map_eq_nil_iff, ← List.length_eq_zero_iff, same.length_eq,
        List.length_eq_zero_iff]
    rw [valuesRead_rates rendered isWanted aggregated, sumOf]
    by_cases nothing : countsShown (scrape.queried apps) family labels = []
    · rw [if_pos nothing, if_pos (empty.mpr nothing)]
      rfl
    · rw [if_neg nothing, if_neg (mt empty.mp nothing)]
      rfl
  · rw [← same.length_eq, ← same.sum_eq]
    exact floatSum_perSecond_near fun _ => nonneg_of_mem_countsShown

/-- The labels of the payments show two names and no queue. -/
theorem readPage_rates_payments :
    ∃ samples,
      readPage (longNamesScrape.page writtenHalf false true (90 * second) []
        [paymentsApp] (longNamesScrape.queried [paymentsApp])) = some samples ∧
      valuesRead samples Family.started.metric
        (shownLabels [("application", "shop"), ("workflow_name", "pay"),
          ("queue_name", "")]) = [['0', '.', '5']] := by
  rcases @readPage_rates longNamesScrape writtenHalf false true (90 * second) []
    [paymentsApp] _ legible_writtenHalf (List.Perm.refl _) .started rfl rfl
    (shownLabels [("application", "shop"), ("workflow_name", "pay"),
      ("queue_name", "")]) with ⟨samples, read, values, -⟩
  have shown : countsShown (longNamesScrape.queried [paymentsApp]) .started
      (shownLabels [("application", "shop"), ("workflow_name", "pay"),
        ("queue_name", "")]) = [30] := by
    rw [queried_paymentsApp]
    decide +kernel
  have half : floatSum ([30].map perSecond) = 1 / 2 := by decide +kernel
  rw [shown, if_neg (List.cons_ne_nil _ _), half, formatMetricValue_half]
    at values
  exact ⟨samples, read, values⟩

end Pages

end DbosRelay.Metrics
