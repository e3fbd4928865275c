import DbosRelay.Library.Escaping
import Mathlib.Data.List.TakeWhile

/-!
# The text format of metrics

The exposition format of metrics as far as samples go: a writer of one sample a line,
comments between them, and the reader of whoever scrapes.  A sample is the name of a
metric, its labels between braces, a value and perhaps a timestamp.  The values of
labels are escaped, so that a line is one line.

Samples without labels are not read.
-/

namespace DbosRelay.Library.Exposition

open DbosRelay.Library.Escaping

/--
The escapes of label values: a backslash, a quote and a line feed are written as a
backslash and a letter.
-/
def labelValues : Scheme Char where
  mark := '\\'
  letter char :=
    if char = '\\' then some '\\'
    else if char = '"' then some '"'
    else if char = '\n' then some 'n'
    else none
  meaning char :=
    if char = '\\' then some '\\'
    else if char = '"' then some '"'
    else if char = 'n' then some '\n'
    else none
  inverse := by
    intro symbol written equal
    split_ifs at equal with isBackslash isQuote isNewline
    · cases equal
      exact congrArg some isBackslash.symm
    · cases equal
      exact congrArg some isQuote.symm
    · cases equal
      exact congrArg some isNewline.symm
  marked := rfl

/-- A label: its name and its value. -/
abbrev Label := List Char × List Char

/-- A sample as it is scraped. -/
structure Sample where
  metric : List Char
  labels : List Label
  value : List Char
  timestamp : Option (List Char)
deriving DecidableEq, Repr

/-! ## Writing -/

/-- A label and what is written after it. -/
def writeLabel (label : Label) (rest : List Char) : List Char :=
  label.1 ++ '=' :: '"' :: (labelValues.escape label.2 ++ '"' :: rest)

/-- The labels after the opening brace, and what is written after them. -/
def writeLabels (rest : List Char) : List Label → List Char
  | [] => '}' :: rest
  | [label] => writeLabel label ('}' :: rest)
  | label :: other :: labels =>
      writeLabel label (',' :: writeLabels rest (other :: labels))

/-- The value and the timestamp. -/
def Sample.writeValue (sample : Sample) : List Char :=
  sample.value ++ (sample.timestamp.map (' ' :: ·)).getD []

/-- A sample, less the end of its line. -/
def Sample.write (sample : Sample) : List Char :=
  sample.metric ++ '{' ::
    writeLabels (' ' :: sample.writeValue) sample.labels

/-- A line of the format. -/
inductive Line where
  | comment (text : List Char)
  | sample (sample : Sample)
deriving DecidableEq, Repr

/-- A line, less its end. -/
def Line.write : Line → List Char
  | .comment text => '#' :: text
  | .sample known => known.write

/-- The sample of a line. -/
def Line.sample? : Line → Option Sample
  | .comment _ => none
  | .sample known => some known

/-- One line after the other. -/
def writeLines (lines : List Line) : List Char :=
  lines.flatMap fun line => line.write ++ ['\n']

theorem writeLines_append (lines others : List Line) :
    writeLines (lines ++ others) = writeLines lines ++ writeLines others :=
  List.flatMap_append

theorem writeLabels_append (labels : List Label) (rest : List Char) :
    writeLabels rest labels = writeLabels [] labels ++ rest := by
  induction labels with
  | nil => rfl
  | cons label labels induction =>
      cases labels with
      | nil => simp [writeLabels, writeLabel]
      | cons other labels =>
          rw [writeLabels, writeLabels, induction]
          simp [writeLabel]

/-! ## Reading -/

/-- A label, and what follows its closing quote. -/
def readLabel (text : List Char) : Option (Label × List Char) :=
  match text.dropWhile (· ≠ '=') with
  | '=' :: '"' :: quoted =>
      (labelValues.untilQuote '"' quoted).map fun (value, rest) =>
        ((text.takeWhile (· ≠ '='), value), rest)
  | _ => none

/-- The labels up to the closing brace, and what follows it. -/
def readLabels : Nat → List Char → Option (List Label × List Char)
  | 0, _ => none
  | fuel + 1, text =>
      (readLabel text).bind fun (label, after) =>
        match after with
        | ',' :: rest =>
            (readLabels fuel rest).map fun (labels, rest) =>
              (label :: labels, rest)
        | '}' :: rest => some ([label], rest)
        | _ => none

/-- The value and the timestamp of a sample whose labels have been read. -/
def readValue (metric : List Char) (labels : List Label) :
    List Char → Option Sample
  | ' ' :: words =>
      some
        { metric := metric
          labels := labels
          value := words.takeWhile (· ≠ ' ')
          timestamp :=
            if ' ' ∈ words then some (words.dropWhile (· ≠ ' ')).tail
            else none }
  | _ => none

/-- The sample in a line. -/
def readSample (line : List Char) : Option Sample :=
  (readLabels line.length (line.dropWhile (· ≠ '{')).tail).bind
    fun (labels, rest) => readValue (line.takeWhile (· ≠ '{')) labels rest

/-- The line has something to read. -/
def isRead (line : List Char) : Bool :=
  decide (line ≠ []) && decide (line.head? ≠ some '#')

/-- The samples of a text; `none` if there is a line which cannot be read. -/
def readPage (text : List Char) : Option (List Sample) :=
  ((text.splitOn '\n').filter isRead).mapM readSample

/-! ## Texts which can be read -/

/-- The parts of a sample keep clear of what ends them. -/
structure Sample.Plain (sample : Sample) : Prop where
  metric : '{' ∉ sample.metric ∧ '\n' ∉ sample.metric
  named : sample.metric.head? ≠ some '#'
  labelled : sample.labels ≠ []
  names : ∀ label ∈ sample.labels, '=' ∉ label.1 ∧ '\n' ∉ label.1
  value : ' ' ∉ sample.value ∧ '\n' ∉ sample.value
  timestamp : ∀ timestamp, sample.timestamp = some timestamp → '\n' ∉ timestamp

/-- The line is one line, and a sample in it can be read. -/
def Line.Plain : Line → Prop
  | .comment text => '\n' ∉ text
  | .sample known => known.Plain

theorem takeWhile_append_cons {stop : Char} {front rest : List Char}
    (free : stop ∉ front) :
    (front ++ stop :: rest).takeWhile (· ≠ stop) = front := by
  have all : ∀ char ∈ front, decide (char ≠ stop) = true := by
    intro char member
    exact decide_eq_true fun same => free (same ▸ member)
  rw [List.takeWhile_append_of_pos all, List.takeWhile_cons_of_neg (by simp),
    List.append_nil]

theorem dropWhile_append_cons {stop : Char} {front rest : List Char}
    (free : stop ∉ front) :
    (front ++ stop :: rest).dropWhile (· ≠ stop) = stop :: rest := by
  have all : ∀ char ∈ front, decide (char ≠ stop) = true := by
    intro char member
    exact decide_eq_true fun same => free (same ▸ member)
  rw [List.dropWhile_append_of_pos all, List.dropWhile_cons_of_neg (by simp)]

theorem readLabel_writeLabel {label : Label} (free : '=' ∉ label.1)
    (rest : List Char) :
    readLabel (writeLabel label rest) = some (label, rest) := by
  rw [readLabel, writeLabel, dropWhile_append_cons free,
    takeWhile_append_cons free]
  have quoted : labelValues.untilQuote '"'
      (labelValues.escape label.2 ++ '"' :: rest) = some (label.2, rest) :=
    Scheme.untilQuote_escape rfl (by decide) label.2 rest
  simp only [quoted, Option.map_some]

theorem readLabels_writeLabels {labels : List Label} (nonempty : labels ≠ [])
    (free : ∀ label ∈ labels, '=' ∉ label.1) {fuel : Nat}
    (enough : labels.length ≤ fuel) (rest : List Char) :
    readLabels fuel (writeLabels rest labels) = some (labels, rest) := by
  induction labels generalizing fuel with
  | nil => exact absurd rfl nonempty
  | cons label labels induction =>
      rw [List.forall_mem_cons] at free
      cases fuel with
      | zero => cases enough
      | succ fuel =>
          cases labels with
          | nil =>
              rw [writeLabels, readLabels, readLabel_writeLabel free.1]
              rfl
          | cons other labels =>
              have later := induction (List.cons_ne_nil other labels) free.2
                (Nat.le_of_succ_le_succ enough)
              rw [writeLabels, readLabels, readLabel_writeLabel free.1]
              simp only [Option.bind_some, later, Option.map_some]

theorem length_writeLabels (labels : List Label) (rest : List Char) :
    labels.length ≤ (writeLabels rest labels).length := by
  induction labels with
  | nil => exact Nat.zero_le _
  | cons label labels induction =>
      cases labels with
      | nil =>
          simp only [writeLabels, writeLabel, List.length_append,
            List.length_cons, List.length_nil]
          omega
      | cons other labels =>
          simp only [List.length_cons] at induction
          simp only [writeLabels, writeLabel, List.length_append,
            List.length_cons]
          omega

theorem readValue_writeValue {sample : Sample} (plain : sample.Plain) :
    readValue sample.metric sample.labels (' ' :: sample.writeValue) =
      some sample := by
  rcases sample with ⟨metric, labels, value, timestamp⟩
  have free : ' ' ∉ value := plain.value.1
  cases timestamp with
  | none =>
      have all : ∀ char ∈ value, decide (char ≠ ' ') = true := by
        intro char member
        exact decide_eq_true fun same => free (same ▸ member)
      simp only [readValue, Sample.writeValue, Option.map_none,
        Option.getD_none, List.append_nil, List.takeWhile_eq_self_iff.mpr all,
        free, if_false]
  | some timestamp =>
      simp only [readValue, Sample.writeValue, Option.map_some,
        Option.getD_some, takeWhile_append_cons free,
        dropWhile_append_cons free, List.tail_cons, List.mem_append,
        List.mem_cons, true_or, or_true, if_true]

/-- A sample which has been written can be read. -/
theorem readSample_write {sample : Sample} (plain : sample.Plain) :
    readSample sample.write = some sample := by
  have enough : sample.labels.length ≤ sample.write.length := by
    have long := length_writeLabels sample.labels (' ' :: sample.writeValue)
    rw [Sample.write, List.length_append, List.length_cons]
    omega
  have labels := readLabels_writeLabels plain.labelled
    (fun label member => (plain.names label member).1) enough
    (' ' :: sample.writeValue)
  rw [readSample]
  nth_rewrite 2 [Sample.write]
  nth_rewrite 2 [Sample.write]
  rw [dropWhile_append_cons plain.metric.1,
    takeWhile_append_cons plain.metric.1, List.tail_cons, labels,
    Option.bind_some]
  exact readValue_writeValue plain

/-! ## Lines -/

theorem newline_not_mem_escape (text : List Char) :
    '\n' ∉ labelValues.escape text := by
  apply Scheme.not_mem_escape rfl (by decide)
  intro other
  simp only [labelValues]
  split_ifs <;> decide

theorem newline_not_mem_writeLabels {labels : List Label}
    (free : ∀ label ∈ labels, '\n' ∉ label.1) {rest : List Char}
    (after : '\n' ∉ rest) : '\n' ∉ writeLabels rest labels := by
  induction labels with
  | nil => simpa [writeLabels] using after
  | cons label labels induction =>
      rw [List.forall_mem_cons] at free
      cases labels with
      | nil =>
          simp [writeLabels, writeLabel, free.1, newline_not_mem_escape, after]
      | cons other labels =>
          simp [writeLabels, writeLabel, free.1, newline_not_mem_escape,
            induction free.2]

theorem newline_not_mem_writeValue {sample : Sample} (plain : sample.Plain) :
    '\n' ∉ sample.writeValue := by
  rw [Sample.writeValue, List.mem_append, not_or]
  refine ⟨plain.value.2, ?_⟩
  cases stamped : sample.timestamp with
  | none => simp
  | some timestamp => simpa using plain.timestamp timestamp stamped

/-- A line is one line. -/
theorem newline_not_mem_write {line : Line} (plain : line.Plain) :
    '\n' ∉ line.write := by
  cases line with
  | comment text =>
      have free : '\n' ∉ text := plain
      simpa [Line.write] using free
  | sample known =>
      have plain : known.Plain := plain
      have words : '\n' ∉ ' ' :: known.writeValue := by
        simpa using newline_not_mem_writeValue plain
      have labels := newline_not_mem_writeLabels
        (fun label member => (plain.names label member).2) words
      simpa [Line.write, Sample.write] using ⟨plain.metric.2, labels⟩

/-- A sample is read, and a comment is not. -/
theorem isRead_write {line : Line} (plain : line.Plain) :
    isRead line.write = line.sample?.isSome := by
  cases line with
  | comment text => rfl
  | sample known =>
      have named := Sample.Plain.named plain
      rw [isRead, Line.write, Sample.write]
      cases equal : known.metric with
      | nil => rfl
      | cons first metric =>
          rw [equal] at named
          simpa [Line.sample?] using named

theorem splitOn_writeLines {lines : List Line}
    (plain : ∀ line ∈ lines, line.Plain) :
    (writeLines lines).splitOn '\n' = lines.map Line.write ++ [[]] := by
  induction lines with
  | nil => rfl
  | cons line lines induction =>
      rw [List.forall_mem_cons] at plain
      rw [writeLines, List.flatMap_cons, List.append_assoc,
        List.singleton_append, List.splitOn_append_cons_self_of_not_mem
          (newline_not_mem_write plain.1)]
      exact congrArg _ (induction plain.2)

/-- The samples of a text are those of its lines. -/
theorem readPage_writeLines {lines : List Line}
    (plain : ∀ line ∈ lines, line.Plain) :
    readPage (writeLines lines) = some (lines.filterMap Line.sample?) := by
  rw [readPage, splitOn_writeLines plain, List.filter_append]
  have trailing : [[]].filter isRead = [] := rfl
  rw [trailing, List.append_nil]
  induction lines with
  | nil => rfl
  | cons line lines induction =>
      rw [List.forall_mem_cons] at plain
      have later := induction plain.2
      rw [List.map_cons, List.filter_cons, isRead_write plain.1]
      cases line with
      | comment text => exact later
      | sample known =>
          rw [Line.sample?, Option.isSome_some, if_pos rfl, List.mapM_cons,
            Line.write, readSample_write plain.1, later]
          rfl

end DbosRelay.Library.Exposition
