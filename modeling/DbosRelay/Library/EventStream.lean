import Mathlib.Data.List.Basic

/-!
# Event streams

The format `text/event-stream` of server-sent events, as far as event names and
data go: a writer of one field a line with a blank line after each event, and the
reader of a client.  The reader ends a line at a line feed, a carriage return or
both, takes a field up to the first colon, drops one blank after it, and gives an
event without a name the name `message`.  Fields of other names are skipped, and so
is an event without data.

A line which ends in the middle of the text is not read.
-/

namespace DbosRelay.Library.EventStream

/-- An event: its name and its data. -/
structure Event where
  name : List Char
  data : List Char
deriving DecidableEq, Repr

/-- The text has no end of a line. -/
def OneLine (text : List Char) : Prop :=
  '\n' ∉ text ∧ '\r' ∉ text

instance (text : List Char) : Decidable (OneLine text) :=
  inferInstanceAs (Decidable (_ ∧ _))

/-- The field of an event's name. -/
def eventField : List Char := ['e', 'v', 'e', 'n', 't']

/-- The field of an event's data. -/
def dataField : List Char := ['d', 'a', 't', 'a']

/-- The name of an event without a name. -/
def messageName : List Char := ['m', 'e', 's', 's', 'a', 'g', 'e']

/-! ## Writing -/

/-- A field on a line of its own. -/
def fieldLine (name value : List Char) : List Char :=
  name ++ ':' :: ' ' :: value

/-- One event as it is written. -/
def Event.write (event : Event) : List Char :=
  fieldLine eventField event.name ++ '\n' ::
    (fieldLine dataField event.data ++ ['\n', '\n'])

/-- One event after the other. -/
def writeAll (events : List Event) : List Char :=
  events.flatMap Event.write

/-! ## Reading -/

/--
The lines of a text which are complete, after the part of the first one which was
read already, in reverse, and after a carriage return or not.
-/
def linesAfter : Bool → List Char → List Char → List (List Char)
  | _, _, [] => []
  | returned, line, char :: text =>
      if char = '\r' then line.reverse :: linesAfter true [] text
      else if char = '\n' then
        if returned then linesAfter false [] text
        else line.reverse :: linesAfter false [] text
      else linesAfter false (char :: line) text

/-- What has been read of an event. -/
structure Reader where
  name : List Char
  data : List Char
deriving DecidableEq, Repr

/-- Nothing has been read. -/
def Reader.initial : Reader := ⟨[], []⟩

/-- The value of a field, without a blank in front. -/
def fieldValue : List Char → List Char
  | ' ' :: value => value
  | value => value

/-- The name and the value of the field in a line. -/
def field (line : List Char) : List Char × List Char :=
  (line.takeWhile (· ≠ ':'), fieldValue ((line.dropWhile (· ≠ ':')).drop 1))

/-- A line changes what has been read, or ends an event. -/
def Reader.line (reader : Reader) (line : List Char) :
    Reader × Option Event :=
  if line = [] then
    if reader.data = [] then (.initial, none)
    else
      (.initial, some
        ⟨if reader.name = [] then messageName else reader.name,
          reader.data.dropLast⟩)
  else
    let (name, value) := field line
    if name = eventField then ({ reader with name := value }, none)
    else if name = dataField then
      ({ reader with data := reader.data ++ value ++ ['\n'] }, none)
    else (reader, none)

/-- The events of the lines. -/
def Reader.readLines (reader : Reader) : List (List Char) → List Event
  | [] => []
  | line :: lines =>
      (reader.line line).2.toList ++ (reader.line line).1.readLines lines

/-- The events a client takes from a text. -/
def read (text : List Char) : List Event :=
  Reader.initial.readLines (linesAfter false [] text)

/-! ## The round trip -/

/-- A line without an end is read up to the line feed after it. -/
theorem linesAfter_append {line : List Char} (oneLine : OneLine line)
    (start text : List Char) :
    linesAfter false start (line ++ '\n' :: text) =
      (start.reverse ++ line) :: linesAfter false [] text := by
  induction line generalizing start with
  | nil => simp [linesAfter]
  | cons char line induction =>
      rcases oneLine with ⟨noFeed, noReturn⟩
      rw [List.mem_cons, not_or] at noFeed noReturn
      rw [List.cons_append, linesAfter, if_neg (Ne.symm noReturn.1),
        if_neg (Ne.symm noFeed.1),
        induction ⟨noFeed.2, noReturn.2⟩ (char :: start),
        List.reverse_cons, List.append_assoc, List.singleton_append]

/-- A field whose name has no colon. -/
theorem field_fieldLine {name : List Char} (plain : ':' ∉ name)
    (value : List Char) :
    field (fieldLine name value) = (name, value) := by
  have before : ∀ char ∈ name, decide (char ≠ ':') = true := by
    intro char member
    exact decide_eq_true fun same => plain (same ▸ member)
  rw [field, fieldLine, List.takeWhile_append_of_pos before,
    List.dropWhile_append_of_pos before]
  simp [fieldValue]

theorem oneLine_fieldLine {name value : List Char} (named : OneLine name)
    (filled : OneLine value) : OneLine (fieldLine name value) := by
  rcases named with ⟨nameFeed, nameReturn⟩
  rcases filled with ⟨valueFeed, valueReturn⟩
  constructor
  · simp [fieldLine, nameFeed, valueFeed]
  · simp [fieldLine, nameReturn, valueReturn]

/-- The lines of one event. -/
theorem linesAfter_write {event : Event} (named : OneLine event.name)
    (oneLine : OneLine event.data) (text : List Char) :
    linesAfter false [] (event.write ++ text) =
      fieldLine eventField event.name :: fieldLine dataField event.data ::
        [] :: linesAfter false [] text := by
  have splits : event.write ++ text =
      fieldLine eventField event.name ++ '\n' ::
        (fieldLine dataField event.data ++ '\n' ::
          ([] ++ '\n' :: text)) := by
    simp [Event.write]
  rw [splits,
    linesAfter_append (oneLine_fieldLine (by decide) named),
    linesAfter_append (oneLine_fieldLine (by decide) oneLine),
    linesAfter_append (by decide)]
  rfl

/-- What a client makes of an event: a missing name is `message`. -/
def Event.seen (event : Event) : Event :=
  ⟨if event.name = [] then messageName else event.name, event.data⟩

/-- The three lines of an event are read as that event. -/
theorem readLines_write (event : Event) (lines : List (List Char)) :
    Reader.initial.readLines
        (fieldLine eventField event.name ::
          fieldLine dataField event.data :: [] :: lines) =
      event.seen :: Reader.initial.readLines lines := by
  have filledName : fieldLine eventField event.name ≠ [] := by
    simp [fieldLine]
  have filledData : fieldLine dataField event.data ≠ [] := by
    simp [fieldLine]
  have differ : dataField ≠ eventField := by decide
  simp only [Reader.readLines, Reader.line, filledName, filledData,
    field_fieldLine (by decide : ':' ∉ eventField),
    field_fieldLine (by decide : ':' ∉ dataField), if_false, if_true, differ]
  simp [Reader.initial, Event.seen]

/-- What is written, a client reads, if no name and no data has an end of a line. -/
theorem read_writeAll {events : List Event}
    (oneLine : ∀ event ∈ events, OneLine event.name ∧ OneLine event.data) :
    read (writeAll events) = events.map Event.seen := by
  unfold read writeAll
  induction events with
  | nil => rfl
  | cons event events induction =>
      rw [List.forall_mem_cons] at oneLine
      rw [List.flatMap_cons, linesAfter_write oneLine.1.1 oneLine.1.2,
        readLines_write, induction oneLine.2, List.map_cons]

end DbosRelay.Library.EventStream
