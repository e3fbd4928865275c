import DbosRelay.Library.GoJson
import Mathlib.Data.Int.Order.Basic

/-!
# The text of Go's JSON

The text `Marshal` writes for a document: no blanks between the tokens, and strings
in which quotes, control characters, the characters of HTML and the two separators
of Unicode are escaped.  A `float64` is written in the shortest form that is read
back, with an exponent from `1e21` on and below `1e-6`.

The text has no control characters, so it is one line.
-/

namespace DbosRelay.Library.GoJson

/-- A hexadecimal digit. -/
def hexDigit (digit : Nat) : Char := Nat.digitChar (digit % 16)

/-- A character in a string. -/
def escapeChar (char : Char) : List Char :=
  if char = '"' then ['\\', '"']
  else if char = '\\' then ['\\', '\\']
  else if char = '\x08' then ['\\', 'b']
  else if char = '\x0c' then ['\\', 'f']
  else if char = '\n' then ['\\', 'n']
  else if char = '\r' then ['\\', 'r']
  else if char = '\t' then ['\\', 't']
  else if char.toNat < 0x20 ∨ char = '<' ∨ char = '>' ∨ char = '&' ∨
      char = '\u2028' ∨ char = '\u2029' then
    let code := char.toNat
    ['\\', 'u', hexDigit (code / 4096), hexDigit (code / 256),
      hexDigit (code / 16), hexDigit code]
  else [char]

/-- A string with its quotes. -/
def stringText (value : String) : List Char :=
  '"' :: (value.toList.flatMap escapeChar ++ ['"'])

/-- A decimal number without a fraction. -/
def integerText (value : Int) : List Char :=
  (if value < 0 then ['-'] else []) ++ Nat.toDigits 10 value.natAbs

/-- The digits of a number with the point after the given number of them. -/
def pointText (digits : List Char) (point : Int) : List Char :=
  if point ≤ 0 then
    '0' :: '.' :: (List.replicate point.natAbs '0' ++ digits)
  else if digits.length ≤ point.natAbs then
    digits ++ List.replicate (point.natAbs - digits.length) '0'
  else digits.take point.natAbs ++ '.' :: digits.drop point.natAbs

/-- The digits of a number with an exponent. -/
def exponentText (digits : List Char) (exponent : Int) : List Char :=
  (match digits with
    | [] => []
    | [digit] => [digit]
    | digit :: rest => digit :: '.' :: rest) ++
  'e' :: (if exponent < 0 then '-' else '+') ::
    Nat.toDigits 10 exponent.natAbs

/-- A number. -/
def numberText : Number → List Char
  | .integer value => integerText value
  | .decimal mantissa exponent =>
      let digits := Nat.toDigits 10 mantissa.natAbs
      let point : Int := digits.length + exponent
      (if mantissa < 0 then ['-'] else []) ++
        if point - 1 < -6 ∨ 21 ≤ point - 1 then exponentText digits (point - 1)
        else pointText digits point

mutual

/-- A document. -/
def Json.text : Json → List Char
  | .null => ['n', 'u', 'l', 'l']
  | .bool true => ['t', 'r', 'u', 'e']
  | .bool false => ['f', 'a', 'l', 's', 'e']
  | .number literal => numberText literal
  | .string value => stringText value
  | .array elements => '[' :: (elementTexts elements ++ [']'])
  | .object members => '\x7b' :: (memberTexts members ++ ['\x7d'])

/-- The elements, with commas between them. -/
def elementTexts : List Json → List Char
  | [] => []
  | [json] => json.text
  | json :: elements => json.text ++ ',' :: elementTexts elements

/-- The members, with commas between them. -/
def memberTexts : List (String × Json) → List Char
  | [] => []
  | [(name, json)] => stringText name ++ ':' :: json.text
  | (name, json) :: members =>
      stringText name ++ ':' :: (json.text ++ ',' :: memberTexts members)

end

/-! ## One line -/

/-- No control characters. -/
def Printable (text : List Char) : Prop :=
  ∀ char ∈ text, 0x20 ≤ char.toNat

section Printable

variable {first second text : List Char} {char : Char}

theorem printable_append :
    Printable (first ++ second) ↔ Printable first ∧ Printable second :=
  List.forall_mem_append

theorem printable_cons :
    Printable (char :: text) ↔ 0x20 ≤ char.toNat ∧ Printable text :=
  List.forall_mem_cons

theorem printable_nil : Printable [] := by
  intro char member
  cases member

theorem printable_toDigits (value : Nat) :
    Printable (Nat.toDigits 10 value) := by
  intro char member
  have isDigit := Nat.isDigit_of_mem_toDigits (by decide) (by decide) member
  rw [Char.isDigit, Bool.and_eq_true, decide_eq_true_iff] at isDigit
  have fromZero : '0'.toNat ≤ char.toNat := isDigit.1
  exact Nat.le_trans (by decide : 0x20 ≤ '0'.toNat) fromZero

theorem printable_replicate (many : Nat) :
    Printable (List.replicate many '0') := by
  intro char member
  rw [List.eq_of_mem_replicate member]
  decide

theorem hexDigit_printable (digit : Nat) : 0x20 ≤ (hexDigit digit).toNat := by
  have small : digit % 16 < 16 := Nat.mod_lt _ (by decide)
  unfold hexDigit
  generalize digit % 16 = value at small
  revert value
  decide

theorem printable_escapeChar (char : Char) : Printable (escapeChar char) := by
  unfold escapeChar
  split_ifs with _ _ _ _ _ _ _ escaped
  · simp [Printable]
  · simp [Printable]
  · simp [Printable]
  · simp [Printable]
  · simp [Printable]
  · simp [Printable]
  · simp [Printable]
  · simp only [printable_cons, hexDigit_printable, printable_nil, and_true]
    exact ⟨by decide, by decide⟩
  · rw [printable_cons]
    exact ⟨by omega, printable_nil⟩

theorem printable_stringText (value : String) : Printable (stringText value) := by
  rw [stringText, printable_cons, printable_append]
  refine ⟨by decide, ?_, ?_⟩
  · intro char member
    rcases List.mem_flatMap.mp member with ⟨source, -, written⟩
    exact printable_escapeChar source char written
  · rw [printable_cons]
    exact ⟨by decide, printable_nil⟩

theorem printable_sign (negative : Prop) [Decidable negative] :
    Printable (if negative then ['-'] else []) := by
  split_ifs <;> simp [Printable]

theorem printable_integerText (value : Int) :
    Printable (integerText value) := by
  rw [integerText, printable_append]
  exact ⟨printable_sign _, printable_toDigits _⟩

theorem printable_pointText {digits : List Char} (plain : Printable digits)
    (point : Int) : Printable (pointText digits point) := by
  unfold pointText
  split_ifs
  · rw [printable_cons, printable_cons, printable_append]
    exact ⟨by decide, by decide, printable_replicate _, plain⟩
  · rw [printable_append]
    exact ⟨plain, printable_replicate _⟩
  · rw [printable_append, printable_cons]
    exact ⟨fun char member => plain char (List.mem_of_mem_take member),
      by decide, fun char member => plain char (List.mem_of_mem_drop member)⟩

theorem printable_exponentText {digits : List Char} (plain : Printable digits)
    (exponent : Int) : Printable (exponentText digits exponent) := by
  unfold exponentText
  rw [printable_append, printable_cons, printable_cons]
  refine ⟨?_, by decide, by split_ifs <;> decide, printable_toDigits _⟩
  rcases digits with _ | ⟨digit, _ | ⟨next, rest⟩⟩
  · exact printable_nil
  · exact plain
  · rw [printable_cons] at plain
    rw [printable_cons, printable_cons]
    exact ⟨plain.1, by decide, plain.2⟩

theorem printable_numberText (literal : Number) :
    Printable (numberText literal) := by
  cases literal with
  | integer value => exact printable_integerText value
  | decimal mantissa exponent =>
      have digits := printable_toDigits mantissa.natAbs
      rw [numberText, printable_append]
      refine ⟨printable_sign _, ?_⟩
      split_ifs
      · exact printable_exponentText digits _
      · exact printable_pointText digits _

mutual

/-- The text of a document has no control characters. -/
theorem printable_text : (json : Json) → Printable json.text
  | .null => by simp [Json.text, Printable]
  | .bool true => by simp [Json.text, Printable]
  | .bool false => by simp [Json.text, Printable]
  | .number literal => printable_numberText literal
  | .string value => printable_stringText value
  | .array elements => by
      rw [Json.text, printable_cons, printable_append]
      exact ⟨by decide, printable_elementTexts elements, by simp [Printable]⟩
  | .object members => by
      rw [Json.text, printable_cons, printable_append]
      exact ⟨by decide, printable_memberTexts members, by simp [Printable]⟩

theorem printable_elementTexts :
    (elements : List Json) → Printable (elementTexts elements)
  | [] => printable_nil
  | [json] => printable_text json
  | json :: next :: elements => by
      rw [elementTexts, printable_append, printable_cons]
      exact ⟨printable_text json, by decide,
        printable_elementTexts (next :: elements)⟩
      simp

theorem printable_memberTexts :
    (members : List (String × Json)) → Printable (memberTexts members)
  | [] => printable_nil
  | [(name, json)] => by
      rw [memberTexts, printable_append, printable_cons]
      exact ⟨printable_stringText name, by decide, printable_text json⟩
  | (name, json) :: next :: members => by
      rw [memberTexts, printable_append, printable_cons, printable_append,
        printable_cons]
      exact ⟨printable_stringText name, by decide, printable_text json,
        by decide, printable_memberTexts (next :: members)⟩
      simp

end

end Printable

end DbosRelay.Library.GoJson
