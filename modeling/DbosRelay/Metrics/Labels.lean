import DbosRelay.Library.Escaping
import DbosRelay.Library.Runes
import DbosRelay.Metrics.Folding

/-!
# Label values

`sanitizeLabel` and the label sets it is used in, on the bytes of arbitrary
strings.  The rules of the exposition format for label values are an escape
scheme; three replacements, one after the other, are the escape of that scheme.
On strings which are UTF-8 these functions are those of the metric windows.
-/

namespace DbosRelay.Metrics.Exposition

open DbosRelay.Basic
open DbosRelay.Library
open DbosRelay.Library.Escaping

/-! ## The functions -/

/-- `sanitizeLabel`. -/
def sanitizeLabel (s : Bytes) : Bytes :=
  let runes := Runes.decode s
  let runes := if 64 < runes.length then runes.take 64 else runes
  let s := Runes.encode runes
  let s := replaceAll (ascii "\\") (ascii "\\\\") s
  let s := replaceAll (ascii "\"") (ascii "\\\"") s
  replaceAll (ascii "\n") (ascii "\\n") s

/-- `workflowLabel`. -/
def workflowLabel (app workflow queue : Bytes) : Bytes :=
  ascii "\x7bapplication=\"" ++ sanitizeLabel app ++
    ascii "\",workflow_name=\"" ++ sanitizeLabel workflow ++
      ascii "\",queue_name=\"" ++ sanitizeLabel queue ++ ascii "\"\x7d"

/-- `workflowPendingLabel`. -/
def workflowPendingLabel (app workflow : Bytes) : Bytes :=
  ascii "\x7bapplication=\"" ++ sanitizeLabel app ++
    ascii "\",workflow_name=\"" ++ sanitizeLabel workflow ++ ascii "\"\x7d"

/-- `stepLabel`. -/
def stepLabel (app step : Bytes) : Bytes :=
  ascii "\x7bapplication=\"" ++ sanitizeLabel app ++
    ascii "\",step_name=\"" ++ sanitizeLabel step ++ ascii "\"\x7d"

/-! ## The format -/

def backslash : UInt8 := 92

def quote : UInt8 := 34

def newline : UInt8 := 10

/--
Label values in the exposition format: a backslash, a quote and a line feed are
written as a backslash and a letter.
-/
def labelValues : Scheme UInt8 where
  mark := backslash
  letter byte :=
    if byte = backslash then some backslash
    else if byte = quote then some quote
    else if byte = newline then some 110
    else none
  meaning byte :=
    if byte = backslash then some backslash
    else if byte = quote then some quote
    else if byte = 110 then some newline
    else none
  inverse := by
    intro symbol written equal
    split_ifs at equal with isBackslash isQuote isNewline
    · cases equal
      exact congrArg some isBackslash.symm
    · cases equal
      exact congrArg some isQuote.symm
    · cases equal
      exact congrArg some isNewline.symm
  marked := rfl

/-- What a label shows of a string. -/
def shown (s : Bytes) : Bytes := Runes.encode ((Runes.decode s).take 64)

/-- The three replacements are the escape of the format. -/
theorem sanitizeLabel_eq (s : Bytes) :
    sanitizeLabel s = labelValues.escape (shown s) := by
  have cut : (if 64 < (Runes.decode s).length then (Runes.decode s).take 64
      else Runes.decode s) = (Runes.decode s).take 64 := by
    split_ifs with long
    · rfl
    · exact (List.take_of_length_le (Nat.not_lt.mp long)).symm
  have backslashes : ascii "\\" = [backslash] := rfl
  have quotes : ascii "\"" = [quote] := rfl
  have newlines : ascii "\n" = [newline] := rfl
  simp only [sanitizeLabel, cut, backslashes, quotes, newlines,
    replaceAll_singleton, List.flatMap_assoc]
  unfold Scheme.escape
  refine congrArg (List.flatMap · _) (funext fun byte => ?_)
  unfold Scheme.write labelValues
  by_cases isBackslash : byte = backslash
  · subst isBackslash
    decide
  by_cases isQuote : byte = quote
  · subst isQuote
    decide
  by_cases isNewline : byte = newline
  · subst isNewline
    decide
  · simp [isBackslash, isQuote, isNewline]

example : sanitizeLabel (ascii "a\"b\n\\" ++ [0xff]) =
    ascii "a\\\"b\\n\\\\" ++ [0xef, 0xbf, 0xbd] := by decide

/-! ## Label sets -/

/-- A label and what follows its closing quote can be told apart. -/
theorem sanitizeLabel_cancel {first second rest other : Bytes} :
    sanitizeLabel first ++ quote :: rest = sanitizeLabel second ++ quote :: other ↔
      shown first = shown second ∧ rest = other := by
  rw [sanitizeLabel_eq, sanitizeLabel_eq]
  constructor
  · intro same
    have read := congrArg (labelValues.untilQuote quote) same
    rw [Scheme.untilQuote_escape rfl (by decide),
      Scheme.untilQuote_escape rfl (by decide)] at read
    exact Prod.mk.inj (Option.some.inj read)
  · rintro ⟨same, rfl⟩
    rw [same]

/-- Workflows share their series exactly when their labels show the same. -/
theorem workflowLabel_eq_iff {app workflow queue other otherWorkflow
    otherQueue : Bytes} :
    workflowLabel app workflow queue =
        workflowLabel other otherWorkflow otherQueue ↔
      shown app = shown other ∧ shown workflow = shown otherWorkflow ∧
        shown queue = shown otherQueue := by
  have named : ascii "\",workflow_name=\"" =
      quote :: ascii ",workflow_name=\"" := rfl
  have queued : ascii "\",queue_name=\"" = quote :: ascii ",queue_name=\"" := rfl
  have closed : ascii "\"\x7d" = [quote, 125] := rfl
  simp only [workflowLabel, named, queued, closed, List.append_assoc,
    List.cons_append, List.append_cancel_left_eq, sanitizeLabel_cancel, and_true]

/-! ## Strings which are UTF-8 -/

/-- A character is escaped as its bytes are. -/
theorem encode_escapeLabel (char : Char) :
    Runes.encode (escapeLabel char) =
      labelValues.escape (String.utf8EncodeChar char) := by
  unfold escapeLabel
  split
  · decide
  · decide
  · decide
  · rename_i notBackslash notQuote notNewline
    rw [Scheme.escape_eq_self ?_]
    · exact List.append_nil _
    intro byte member
    have unwritten {written : UInt8} (small : written < 128)
        (other : char ≠ Char.ofNat written.toNat) : byte ≠ written := by
      rintro rfl
      exact other (Runes.eq_ofNat_of_mem_encodeChar small member)
    have notBackslash : byte ≠ backslash := unwritten (by decide) notBackslash
    have notQuote : byte ≠ quote := unwritten (by decide) notQuote
    have notNewline : byte ≠ newline := unwritten (by decide) notNewline
    simp [labelValues, notBackslash, notQuote, notNewline]

/-- The bytes of a string. -/
def Encodes (bytes : Bytes) (text : String) : Prop :=
  bytes = Runes.encode text.toList

/-- Every character of the text is an ASCII character. -/
def isASCII (text : String) : Bool :=
  text.toList.all fun char => decide (char.val.toNat < 128)

theorem encodes_ascii {text : String} (small : isASCII text = true) :
    Encodes (ascii text) text := by
  unfold Encodes Runes.encode ascii
  rw [List.map_eq_flatMap]
  refine (List.flatMap_congr fun char member => ?_).symm
  exact Runes.encodeChar_ascii
    (of_decide_eq_true (List.all_eq_true.mp small char member))

theorem isASCII_application : isASCII "\x7bapplication=\"" = true := by
  decide +kernel

theorem isASCII_workflowName : isASCII "\",workflow_name=\"" = true := by
  decide +kernel

theorem isASCII_closing : isASCII "\"\x7d" = true := by
  decide +kernel

namespace Encodes

variable {bytes other : Bytes} {text label : String}

theorem refl (text : String) : Encodes (Runes.encode text.toList) text := rfl

theorem append (first : Encodes bytes text) (second : Encodes other label) :
    Encodes (bytes ++ other) (text ++ label) := by
  unfold Encodes at first second ⊢
  rw [first, second, String.toList_append, Runes.encode_append]

theorem eq_iff (first : Encodes bytes text) (second : Encodes other label) :
    bytes = other ↔ text = label := by
  unfold Encodes at first second
  rw [first, second, Runes.encode_injective.eq_iff, String.toList_inj]

theorem shown_eq (encodes : Encodes bytes label) :
    shown bytes = Runes.encode (label.toList.take 64) := by
  unfold Encodes at encodes
  rw [encodes, shown, Runes.decode_encode]

theorem shown_eq_iff (first : Encodes bytes text)
    (second : Encodes other label) :
    shown bytes = shown other ↔ text.toList.take 64 = label.toList.take 64 := by
  rw [first.shown_eq, second.shown_eq, Runes.encode_injective.eq_iff]

theorem sanitizeLabel (encodes : Encodes bytes label) :
    Encodes (sanitizeLabel bytes) (Metrics.sanitizeLabel label) := by
  unfold Encodes Metrics.sanitizeLabel
  rw [sanitizeLabel_eq, encodes.shown_eq, String.toList_ofList]
  simp only [Runes.encode, Scheme.escape, List.flatMap_assoc]
  refine congrArg (List.flatMap · _) (funext fun char => ?_)
  exact (encode_escapeLabel char).symm

/-- A label and the text after it. -/
theorem labelled (before : Encodes bytes text) (value : Encodes other label)
    {after : String} (small : isASCII after = true) :
    Encodes (bytes ++ Exposition.sanitizeLabel other ++ ascii after)
      (text ++ Metrics.sanitizeLabel label ++ after) :=
  (before.append value.sanitizeLabel).append (encodes_ascii small)

end Encodes

section Strings

variable {app workflow queue step : Bytes}
variable {appName workflowName queueName stepName : String}

theorem encodes_workflowLabel (ofApp : Encodes app appName)
    (ofWorkflow : Encodes workflow workflowName)
    (ofQueue : Encodes queue queueName) :
    Encodes (workflowLabel app workflow queue)
      (Metrics.workflowLabel appName workflowName queueName) := by
  have queued : isASCII "\",queue_name=\"" = true := by decide +kernel
  have first :=
    (encodes_ascii isASCII_application).labelled ofApp isASCII_workflowName
  exact (first.labelled ofWorkflow queued).labelled ofQueue isASCII_closing

theorem encodes_workflowPendingLabel (ofApp : Encodes app appName)
    (ofWorkflow : Encodes workflow workflowName) :
    Encodes (workflowPendingLabel app workflow)
      (Metrics.workflowPendingLabel appName workflowName) := by
  have first :=
    (encodes_ascii isASCII_application).labelled ofApp isASCII_workflowName
  exact first.labelled ofWorkflow isASCII_closing

theorem encodes_stepLabel (ofApp : Encodes app appName)
    (ofStep : Encodes step stepName) :
    Encodes (stepLabel app step) (Metrics.stepLabel appName stepName) := by
  have named : isASCII "\",step_name=\"" = true := by decide +kernel
  have first := (encodes_ascii isASCII_application).labelled ofApp named
  exact first.labelled ofStep isASCII_closing

/-- The label sets of the metric windows tell 64 characters of each name. -/
theorem metricsWorkflowLabel_eq_iff {other otherWorkflow otherQueue : String} :
    Metrics.workflowLabel appName workflowName queueName =
        Metrics.workflowLabel other otherWorkflow otherQueue ↔
      appName.toList.take 64 = other.toList.take 64 ∧
        workflowName.toList.take 64 = otherWorkflow.toList.take 64 ∧
          queueName.toList.take 64 = otherQueue.toList.take 64 := by
  have first := encodes_workflowLabel (.refl appName) (.refl workflowName)
    (.refl queueName)
  have second := encodes_workflowLabel (.refl other) (.refl otherWorkflow)
    (.refl otherQueue)
  rw [← first.eq_iff second, workflowLabel_eq_iff,
    (Encodes.refl appName).shown_eq_iff (.refl other),
    (Encodes.refl workflowName).shown_eq_iff (.refl otherWorkflow),
    (Encodes.refl queueName).shown_eq_iff (.refl otherQueue)]

end Strings

/-! ## Faithfulness -/

/--
Reading a label gives back the first 64 characters of the string, with U+FFFD
for what is not UTF-8, and so does reading on from the quote before it, up to the
quote after it.  There is no raw line feed in a label, and every quote in it
comes after an odd number of backslashes.
-/
theorem sanitizeLabel_faithful (s : Bytes) :
    labelValues.unescape (sanitizeLabel s) =
        some (Runes.encode ((Runes.decode s).take 64)) ∧
      (∀ runes, s = Runes.encode runes →
        labelValues.unescape (sanitizeLabel s) =
          some (Runes.encode (runes.take 64))) ∧
        newline ∉ sanitizeLabel s ∧
          (∀ before after, sanitizeLabel s = before ++ quote :: after →
            Odd (labelValues.trailingMarks before)) ∧
            ∀ rest, labelValues.untilQuote quote
              (sanitizeLabel s ++ quote :: rest) =
                some (Runes.encode ((Runes.decode s).take 64), rest) := by
  rw [sanitizeLabel_eq]
  refine ⟨Scheme.unescape_escape _, ?_, ?_, ?_, ?_⟩
  · rintro runes rfl
    rw [Scheme.unescape_escape, shown, Runes.decode_encode]
  · refine Scheme.not_mem_escape rfl (by decide) (fun other => ?_) _
    unfold labelValues
    simp only
    split_ifs <;> decide
  · exact fun before after => Scheme.odd_trailingMarks rfl (by decide)
  · exact Scheme.untilQuote_escape rfl (by decide) _

end DbosRelay.Metrics.Exposition
