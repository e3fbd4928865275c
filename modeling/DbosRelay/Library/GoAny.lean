import DbosRelay.Library.GoJson
import Mathlib.Data.List.Sort
import Mathlib.Data.Nat.Log
import Mathlib.Data.Rat.Floor
import Mathlib.Data.String.Basic

/-!
# JSON documents through Go's `any`

A document which is unmarshalled into an `any` and marshalled again is not
always the same document: its numbers become `float64`s, of the members of one
name the last one stays, and the names are sorted.  `throughAny` is that passage.
`Json.value` is what a document denotes, whatever the form of its numbers and the
order of its members.  A document all of whose numbers are `exact` denotes the same
on both sides of the passage.
-/

namespace DbosRelay.Library.GoJson

/-! ## What a document denotes -/

/-- The value of a literal. -/
def Number.value : Number → ℚ
  | .integer value => value
  | .decimal mantissa exponent => mantissa * (10 : ℚ) ^ exponent

/-- A JSON value: exact numbers, and members in the order of their names. -/
inductive JsonValue where
  | null
  | bool (value : Bool)
  | number (value : ℚ)
  | string (value : String)
  | array (elements : List JsonValue)
  | object (members : List (String × JsonValue))

/-- Of the members of one name the last one stays. -/
def lastMembers {Value : Type} :
    List (String × Value) → List (String × Value)
  | [] => []
  | entry :: members =>
      if entry.1 ∈ (lastMembers members).map Prod.fst then lastMembers members
      else entry :: lastMembers members

/-- The last members in the order of their names. -/
def sortMembers {Value : Type} (members : List (String × Value)) :
    List (String × Value) :=
  (lastMembers members).insertionSort fun first second => first.1 ≤ second.1

mutual

/-- The value of a document. -/
def Json.value : Json → JsonValue
  | .null => .null
  | .bool value => .bool value
  | .number literal => .number literal.value
  | .string value => .string value
  | .array elements => .array (elementValues elements)
  | .object members => .object (sortMembers (memberValues members))

/-- The values of the elements. -/
def elementValues : List Json → List JsonValue
  | [] => []
  | json :: elements => json.value :: elementValues elements

/-- The values of the members. -/
def memberValues : List (String × Json) → List (String × JsonValue)
  | [] => []
  | (name, json) :: members => (name, json.value) :: memberValues members

end

/-! ## `float64` -/

/-- The nearest integer, of two the even one. -/
def roundHalfEven (number : ℚ) : Int :=
  let below := number.floor
  let rest := number - below
  if rest < 1 / 2 then below
  else if 1 / 2 < rest then below + 1
  else if below % 2 = 0 then below
  else below + 1

/-- The exponent of the leading binary digit of a positive number. -/
def leadingBit (number : ℚ) : Int :=
  let estimate : Int :=
    Nat.log2 number.num.natAbs - Nat.log2 number.den
  if number < (2 : ℚ) ^ estimate then estimate - 1 else estimate

/-- `strconv.ParseFloat`: the nearest `float64`; `none` is out of range. -/
def roundFloat64 (number : ℚ) : Option ℚ :=
  if number = 0 then some 0
  else
    let unit := (2 : ℚ) ^ max (leadingBit |number| - 52) (-1074)
    let magnitude := roundHalfEven (|number| / unit) * unit
    if (2 : ℚ) ^ (1024 : Int) ≤ magnitude then none
    else some (if number < 0 then -magnitude else magnitude)

/-- The exponent of the leading decimal digit of a positive number. -/
def leadingDigit (number : ℚ) : Int :=
  if 1 ≤ number then Nat.log 10 number.floor.toNat
  else -(Nat.clog 10 (1 / number).ceil.toNat : Int)

/-- A decimal of the given number of digits which is read as the given float. -/
def decimalOf (float : ℚ) (digits : Nat) : Option (Int × Int) :=
  let exponent := leadingDigit float - digits + 1
  let scaled := float / (10 : ℚ) ^ exponent
  let reads (mantissa : Int) : Bool :=
    roundFloat64 (mantissa * (10 : ℚ) ^ exponent) = some float
  let nearest := roundHalfEven scaled
  if reads nearest then some (nearest, exponent)
  else if reads scaled.floor then some (scaled.floor, exponent)
  else if reads scaled.ceil then some (scaled.ceil, exponent)
  else none

/-- The shortest decimal which is read as the given positive float. -/
def shortestDecimal (float : ℚ) : Int × Int :=
  ((List.range' 1 17).findSome? (decimalOf float)).getD (0, 0)

/-- `Marshal` of a `float64`. -/
def formatFloat64 (float : ℚ) : Number :=
  if float = 0 then .integer 0
  else
    let (digits, exponent) := shortestDecimal |float|
    let mantissa := if float < 0 then -digits else digits
    if (0 ≤ exponent || digits % 10 ^ exponent.natAbs = 0) &&
        |float| < (10 : ℚ) ^ (21 : Int) then
      .integer (mantissa * (10 : ℚ) ^ exponent).num
    else .decimal mantissa exponent

/-! ## The passage -/

mutual

/-- `Unmarshal` into an `any`, and `Marshal` of that. -/
def throughAny : Json → Json
  | .null => .null
  | .bool value => .bool value
  | .number literal =>
      -- A number out of range is an error, and the value stays `nil`.
      match roundFloat64 literal.value with
      | none => .null
      | some float => .number (formatFloat64 float)
  | .string value => .string value
  | .array elements => .array (elementsThroughAny elements)
  | .object members => .object (sortMembers (membersThroughAny members))

/-- The elements one by one. -/
def elementsThroughAny : List Json → List Json
  | [] => []
  | json :: elements => throughAny json :: elementsThroughAny elements

/-- The members one by one. -/
def membersThroughAny : List (String × Json) → List (String × Json)
  | [] => []
  | (name, json) :: members =>
      (name, throughAny json) :: membersThroughAny members

end

/-- The literal is read as a float which is written as the same number. -/
def Number.exact (literal : Number) : Bool :=
  (roundFloat64 literal.value).any fun float =>
    (formatFloat64 float).value = literal.value

mutual

/-- All numbers of the document are exact. -/
def Json.exact : Json → Bool
  | .null => true
  | .bool _ => true
  | .number literal => literal.exact
  | .string _ => true
  | .array elements => exactElements elements
  | .object members => exactMembers members

/-- The elements one by one. -/
def exactElements : List Json → Bool
  | [] => true
  | json :: elements => json.exact && exactElements elements

/-- The members one by one. -/
def exactMembers : List (String × Json) → Bool
  | [] => true
  | (_, json) :: members => json.exact && exactMembers members

end

/-! ## Sorted members -/

section Sorted

variable {Value Image : Type}

theorem map_fst_mapped (update : Value → Image)
    (members : List (String × Value)) :
    (members.map fun entry => (entry.1, update entry.2)).map Prod.fst =
      members.map Prod.fst := by
  rw [List.map_map]
  rfl

theorem lastMembers_map (update : Value → Image)
    (members : List (String × Value)) :
    lastMembers (members.map fun entry => (entry.1, update entry.2)) =
      (lastMembers members).map fun entry => (entry.1, update entry.2) := by
  induction members with
  | nil => rfl
  | cons entry members induction =>
      rw [List.map_cons, lastMembers, lastMembers, induction, map_fst_mapped]
      by_cases later : entry.1 ∈ (lastMembers members).map Prod.fst
      · rw [if_pos later, if_pos later]
      · rw [if_neg later, if_neg later]
        rfl

theorem lastMembers_nodup (members : List (String × Value)) :
    ((lastMembers members).map Prod.fst).Nodup := by
  induction members with
  | nil => exact List.nodup_nil
  | cons entry members induction =>
      rw [lastMembers]
      split_ifs with later
      · exact induction
      · exact List.nodup_cons.mpr ⟨later, induction⟩

/-- Where the names are distinct, every member is the last of its name. -/
theorem lastMembers_eq_self {members : List (String × Value)}
    (distinct : (members.map Prod.fst).Nodup) : lastMembers members = members := by
  induction members with
  | nil => rfl
  | cons entry members induction =>
      rw [List.map_cons, List.nodup_cons] at distinct
      rw [lastMembers, induction distinct.2, if_neg distinct.1]

theorem sortMembers_map (update : Value → Image)
    (members : List (String × Value)) :
    sortMembers (members.map fun entry => (entry.1, update entry.2)) =
      (sortMembers members).map fun entry => (entry.1, update entry.2) := by
  rw [sortMembers, sortMembers, lastMembers_map]
  symm
  apply List.map_insertionSort
  intro first _ second _
  rfl

/-- Sorted members stay as they are. -/
theorem sortMembers_sortMembers (members : List (String × Value)) :
    sortMembers (sortMembers members) = sortMembers members := by
  have distinct : ((sortMembers members).map Prod.fst).Nodup :=
    ((List.perm_insertionSort _ _).map Prod.fst).nodup_iff.mpr
      (lastMembers_nodup members)
  rw [sortMembers, lastMembers_eq_self distinct]
  apply List.Pairwise.insertionSort_eq
  have total : Std.Total fun first second : String × Value =>
      first.1 ≤ second.1 :=
    ⟨fun first second => le_total first.1 second.1⟩
  have transitive : IsTrans (String × Value) fun first second =>
      first.1 ≤ second.1 :=
    ⟨fun _ _ _ below above => le_trans below above⟩
  exact List.pairwise_insertionSort _ _

end Sorted

/-! ## What the passage leaves as it was -/

theorem memberValues_eq_map (members : List (String × Json)) :
    memberValues members =
      members.map fun entry => (entry.1, entry.2.value) := by
  induction members with
  | nil => rfl
  | cons entry members induction => rw [memberValues, induction]; rfl

/-- Sorting the members in between makes no difference to what they denote. -/
theorem object_value_throughAny (members : List (String × Json)) :
    (throughAny (.object members)).value =
      .object (sortMembers (memberValues (membersThroughAny members))) := by
  rw [throughAny, Json.value, memberValues_eq_map, memberValues_eq_map,
    ← sortMembers_map, sortMembers_sortMembers]

mutual

/-- A document of exact numbers denotes the same after the passage. -/
theorem throughAny_value : (json : Json) → json.exact = true →
    (throughAny json).value = json.value
  | .null, _ => rfl
  | .bool _, _ => rfl
  | .number literal, exact => by
      rw [Json.exact, Number.exact] at exact
      rw [throughAny]
      cases rounded : roundFloat64 literal.value with
      | none =>
          rw [rounded] at exact
          cases exact
      | some float =>
          rw [rounded, Option.any_some, decide_eq_true_iff] at exact
          exact congrArg JsonValue.number exact
  | .string _, _ => rfl
  | .array elements, exact => by
      rw [throughAny, Json.value, Json.value,
        elementsThroughAny_value elements exact]
  | .object members, exact => by
      rw [object_value_throughAny, membersThroughAny_value members exact,
        Json.value]

/-- The elements one by one. -/
theorem elementsThroughAny_value : (elements : List Json) →
    exactElements elements = true →
      elementValues (elementsThroughAny elements) = elementValues elements
  | [], _ => rfl
  | json :: elements, exact => by
      rw [exactElements, Bool.and_eq_true] at exact
      rw [elementsThroughAny, elementValues, elementValues,
        throughAny_value json exact.1, elementsThroughAny_value elements exact.2]

/-- The members one by one. -/
theorem membersThroughAny_value : (members : List (String × Json)) →
    exactMembers members = true →
      memberValues (membersThroughAny members) = memberValues members
  | [], _ => rfl
  | (name, json) :: members, exact => by
      rw [exactMembers, Bool.and_eq_true] at exact
      rw [membersThroughAny, memberValues, memberValues,
        throughAny_value json exact.1, membersThroughAny_value members exact.2]

end

-- The least integer no `float64` is equal to.
example : (Number.integer 9007199254740993).exact = false := by decide +kernel

example : (Number.decimal 1 (-1)).exact = true := by decide +kernel

end DbosRelay.Library.GoJson
