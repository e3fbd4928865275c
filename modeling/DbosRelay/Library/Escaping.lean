import Mathlib.Algebra.Ring.Parity
import Mathlib.Data.List.Basic

/-!
# Escaped texts

Some symbols of an alphabet are written as a mark and a letter.  Such a text can
be read back, and between quotes which are among these symbols it ends where the
quotes end.  A text may come to be escaped by replacing one symbol after the
other; a replacement goes from left to right and does not look at what it has
put in.
-/

namespace DbosRelay.Library.Escaping

variable {Symbol : Type*}

/-! ## Replacement -/

section Replacement

variable [DecidableEq Symbol]

/-- The replaced text after the symbols which still belong to the last match. -/
def replaceAfter (old new : List Symbol) : Nat → List Symbol → List Symbol
  | _, [] => []
  | skipped + 1, _ :: text => replaceAfter old new skipped text
  | 0, symbol :: text =>
      if old.isPrefixOf (symbol :: text) then
        new ++ replaceAfter old new (old.length - 1) text
      else symbol :: replaceAfter old new 0 text

/-- Replace every occurrence of a text which is not empty. -/
def replaceAll (old new text : List Symbol) : List Symbol :=
  replaceAfter old new 0 text

/-- A single symbol is replaced wherever it stands. -/
theorem replaceAll_singleton (old : Symbol) (new text : List Symbol) :
    replaceAll [old] new text =
      text.flatMap fun symbol => if symbol = old then new else [symbol] := by
  induction text with
  | nil => rfl
  | cons symbol text induction =>
      rw [List.flatMap_cons, ← induction, replaceAll, replaceAfter]
      by_cases same : symbol = old
      · subst same
        rw [if_pos (by simp), if_pos rfl]
        rfl
      · rw [if_neg (by simpa using Ne.symm same), if_neg same]
        rfl

end Replacement

/-! ## Escapes -/

/-- Symbols which are written as a mark and a letter; the mark is one of them. -/
structure Scheme (Symbol : Type*) where
  mark : Symbol
  letter : Symbol → Option Symbol
  meaning : Symbol → Option Symbol
  inverse : ∀ {symbol written}, letter symbol = some written →
    meaning written = some symbol
  marked : (letter mark).isSome

variable (scheme : Scheme Symbol)

namespace Scheme

/-- How a symbol is written. -/
def write (symbol : Symbol) : List Symbol :=
  match scheme.letter symbol with
  | some letter => [scheme.mark, letter]
  | none => [symbol]

/-- How a text is written. -/
def escape (text : List Symbol) : List Symbol := text.flatMap scheme.write

variable {scheme} {symbol quote letter : Symbol}

@[simp]
theorem escape_cons (symbol : Symbol) (text : List Symbol) :
    scheme.escape (symbol :: text) = scheme.write symbol ++ scheme.escape text :=
  List.flatMap_cons

/-- A symbol is written as a mark and a letter, or as itself. -/
theorem write_cases (scheme : Scheme Symbol) (symbol : Symbol) :
    (∃ letter, scheme.letter symbol = some letter ∧
        scheme.write symbol = [scheme.mark, letter]) ∨
      scheme.letter symbol = none ∧ symbol ≠ scheme.mark ∧
        scheme.write symbol = [symbol] := by
  unfold write
  cases found : scheme.letter symbol with
  | some letter => exact Or.inl ⟨letter, rfl, rfl⟩
  | none =>
      refine Or.inr ⟨rfl, ?_, rfl⟩
      rintro rfl
      exact absurd found (Option.isSome_iff_ne_none.mp scheme.marked)

/-- A text without symbols to escape is written as it is. -/
theorem escape_eq_self {text : List Symbol}
    (plain : ∀ symbol ∈ text, scheme.letter symbol = none) :
    scheme.escape text = text := by
  induction text with
  | nil => rfl
  | cons symbol text induction =>
      rw [List.forall_mem_cons] at plain
      rw [escape_cons, induction plain.2, write, plain.1]
      rfl

/-- A symbol which is neither written as itself nor a letter does not occur. -/
theorem not_mem_escape (escaped : (scheme.letter symbol).isSome)
    (unmarked : symbol ≠ scheme.mark)
    (unwritten : ∀ other, scheme.letter other ≠ some symbol)
    (text : List Symbol) : symbol ∉ scheme.escape text := by
  rw [escape, List.mem_flatMap]
  rintro ⟨other, -, member⟩
  rcases scheme.write_cases other with
    ⟨letter, written, equal⟩ | ⟨plain, -, equal⟩
  · rw [equal, List.mem_pair] at member
    rcases member with rfl | rfl
    · exact unmarked rfl
    · exact unwritten other written
  · rw [equal, List.mem_singleton] at member
    subst member
    rw [plain] at escaped
    cases escaped

/-- A quote which has just been written comes after one mark. -/
theorem eq_mark_of_write (itself : scheme.letter quote = some quote)
    (distinct : quote ≠ scheme.mark) {before after : List Symbol}
    (split : scheme.write symbol = before ++ quote :: after) :
    before = [scheme.mark] := by
  rcases scheme.write_cases symbol with
    ⟨letter, -, equal⟩ | ⟨plain, -, equal⟩
  · rw [equal] at split
    cases before with
    | nil => exact absurd (List.cons.inj split).1.symm distinct
    | cons first before =>
        obtain ⟨rfl, split⟩ := List.cons.inj split
        cases before with
        | nil => rfl
        | cons second before => cases before <;> cases split
  · rw [equal] at split
    cases before with
    | nil =>
        cases split
        rw [itself] at plain
        cases plain
    | cons first before => cases before <;> cases split

/-! ## Reading -/

section Reading

variable [DecidableEq Symbol]

variable (scheme) in
/-- Read a text up to its end; `none` if it is not written as it should be. -/
def unescape : List Symbol → Option (List Symbol)
  | [] => some []
  | symbol :: text =>
      if symbol = scheme.mark then
        match text with
        | [] => none
        | letter :: text =>
            (scheme.meaning letter).bind fun meant =>
              (unescape text).map (meant :: ·)
      else if (scheme.letter symbol).isSome then none
      else (unescape text).map (symbol :: ·)

variable (scheme) in
/-- Read a text up to the quote which ends it, and what follows. -/
def untilQuote (quote : Symbol) :
    List Symbol → Option (List Symbol × List Symbol)
  | [] => none
  | symbol :: text =>
      if symbol = quote then some ([], text)
      else if symbol = scheme.mark then
        match text with
        | [] => none
        | letter :: text =>
            (scheme.meaning letter).bind fun meant =>
              (untilQuote quote text).map fun (value, rest) =>
                (meant :: value, rest)
      else if (scheme.letter symbol).isSome then none
      else
        (untilQuote quote text).map fun (value, rest) => (symbol :: value, rest)

variable (scheme) in
/-- How many marks a text ends with. -/
def trailingMarks (text : List Symbol) : Nat :=
  (text.reverse.takeWhile fun symbol => symbol = scheme.mark).length

theorem unescape_mark {meant : Symbol} (means : scheme.meaning letter = some meant)
    (text : List Symbol) :
    scheme.unescape (scheme.mark :: letter :: text) =
      (scheme.unescape text).map (meant :: ·) := by
  rw [unescape.eq_def]
  simp only [if_true, means, Option.bind_some]

theorem unescape_plain (plain : scheme.letter symbol = none)
    (unmarked : symbol ≠ scheme.mark) (text : List Symbol) :
    scheme.unescape (symbol :: text) =
      (scheme.unescape text).map (symbol :: ·) := by
  rw [unescape.eq_def]
  simp only [if_neg unmarked, plain, Option.isSome_none, Bool.false_eq_true,
    if_false]

theorem untilQuote_quote (text : List Symbol) :
    scheme.untilQuote quote (quote :: text) = some ([], text) := by
  rw [untilQuote.eq_def]
  exact if_pos rfl

theorem untilQuote_mark {meant : Symbol} (means : scheme.meaning letter = some meant)
    (distinct : quote ≠ scheme.mark) (text : List Symbol) :
    scheme.untilQuote quote (scheme.mark :: letter :: text) =
      (scheme.untilQuote quote text).map fun (value, rest) =>
        (meant :: value, rest) := by
  rw [untilQuote.eq_def]
  simp only [if_neg distinct.symm, if_true, means, Option.bind_some]

theorem untilQuote_plain (plain : scheme.letter symbol = none)
    (unquoted : symbol ≠ quote) (unmarked : symbol ≠ scheme.mark)
    (text : List Symbol) :
    scheme.untilQuote quote (symbol :: text) =
      (scheme.untilQuote quote text).map fun (value, rest) =>
        (symbol :: value, rest) := by
  rw [untilQuote.eq_def]
  simp only [if_neg unquoted, if_neg unmarked, plain, Option.isSome_none,
    Bool.false_eq_true, if_false]

/-- What has been written can be read. -/
@[simp]
theorem unescape_escape (text : List Symbol) :
    scheme.unescape (scheme.escape text) = some text := by
  induction text with
  | nil => rfl
  | cons symbol text induction =>
      rw [escape_cons]
      rcases scheme.write_cases symbol with
        ⟨letter, written, equal⟩ | ⟨plain, unmarked, equal⟩
      · rw [equal]
        exact (unescape_mark (scheme.inverse written) _).trans
          (congrArg (Option.map _) induction)
      · rw [equal]
        exact (unescape_plain plain unmarked _).trans
          (congrArg (Option.map _) induction)

/-- What has been written between quotes ends with them. -/
theorem untilQuote_escape (quoted : (scheme.letter quote).isSome)
    (distinct : quote ≠ scheme.mark) (text rest : List Symbol) :
    scheme.untilQuote quote (scheme.escape text ++ quote :: rest) =
      some (text, rest) := by
  induction text with
  | nil => exact untilQuote_quote rest
  | cons symbol text induction =>
      rw [escape_cons, List.append_assoc]
      rcases scheme.write_cases symbol with
        ⟨letter, written, equal⟩ | ⟨plain, unmarked, equal⟩
      · rw [equal]
        exact (untilQuote_mark (scheme.inverse written) distinct _).trans
          (congrArg (Option.map _) induction)
      · have unquoted : symbol ≠ quote := by
          rintro rfl
          rw [plain] at quoted
          cases quoted
        rw [equal]
        exact (untilQuote_plain plain unquoted unmarked _).trans
          (congrArg (Option.map _) induction)

/-- Marks before a text count only as far as the text has nothing else. -/
theorem trailingMarks_append (front text : List Symbol) :
    scheme.trailingMarks (front ++ text) =
      if scheme.trailingMarks text = text.length then
        text.length + scheme.trailingMarks front
      else scheme.trailingMarks text := by
  unfold trailingMarks
  rw [List.reverse_append, List.takeWhile_append, List.length_reverse]
  split_ifs
  · rw [List.length_append, List.length_reverse]
  · rfl

/-- A written symbol in front leaves the parity. -/
theorem odd_trailingMarks_append {front text : List Symbol}
    (even : Even (scheme.trailingMarks front))
    (odd : Odd (scheme.trailingMarks text)) :
    Odd (scheme.trailingMarks (front ++ text)) := by
  rw [trailingMarks_append]
  split_ifs with whole
  · rw [← whole]
    exact odd.add_even even
  · exact odd

theorem even_trailingMarks_write (symbol : Symbol) :
    Even (scheme.trailingMarks (scheme.write symbol)) := by
  rcases scheme.write_cases symbol with
    ⟨letter, -, equal⟩ | ⟨-, unmarked, equal⟩
  · rw [equal]
    by_cases marks : letter = scheme.mark
    · simp [trailingMarks, marks]
    · simp [trailingMarks, marks]
  · rw [equal]
    simp [trailingMarks, unmarked]

/-- Every quote in a written text comes after an odd number of marks. -/
theorem odd_trailingMarks (itself : scheme.letter quote = some quote)
    (distinct : quote ≠ scheme.mark) {text before after : List Symbol}
    (split : scheme.escape text = before ++ quote :: after) :
    Odd (scheme.trailingMarks before) := by
  induction text generalizing before with
  | nil => exact absurd split.symm (List.append_ne_nil_of_right_ne_nil _ nofun)
  | cons symbol text induction =>
      rw [escape_cons] at split
      rcases List.append_eq_append_iff.mp split with
        ⟨rest, rfl, later⟩ | ⟨rest, written, now⟩
      · exact odd_trailingMarks_append (even_trailingMarks_write symbol)
          (induction later)
      · cases rest with
        | nil =>
            -- The rest of the text cannot begin with a quote.
            have none := @induction [] now.symm
            exact absurd none (Nat.not_odd_zero)
        | cons first rest =>
            obtain ⟨rfl, -⟩ := List.cons.inj now
            rw [eq_mark_of_write itself distinct written]
            simp [trailingMarks]

end Reading

end Scheme

end DbosRelay.Library.Escaping
