import Mathlib.Data.List.Basic

/-!
# Go's `encoding/json`

`Marshal` and `Unmarshal` between Go values and JSON documents, for types built
from leaves by pointers, slices and structs.  A document is the tree its text
spells.  Leaves have a codec each; the codecs of strings, booleans and 64-bit
integers are here, and a development adds those it needs.

`Unmarshal` fills an existing value: it overwrites the fields the document names,
leaves the others, and goes on after a value of the wrong type.  It therefore
returns a value also where it reports an error.  A member belongs to the field of
exactly its name, or else to one of the same name up to case.

The main result is `GoType.decode_encode`: what `Marshal` writes, `Unmarshal`
reads back, except that an empty `omitempty` field is read back as the zero value.
-/

namespace DbosRelay.Library.GoJson

/-! ## Documents -/

/-- A number literal: one without fraction and exponent, or any other. -/
inductive Number where
  | integer (value : Int)
  | decimal (mantissa exponent : Int)
deriving DecidableEq, Repr

/-- A JSON document. -/
inductive Json where
  | null
  | bool (value : Bool)
  | number (literal : Number)
  | string (value : String)
  | array (elements : List Json)
  | object (members : List (String × Json))
deriving Repr

/-- The document is `null`. -/
def Json.isNull : Json → Bool
  | .null => true
  | _ => false

/-- The member of a name; of several the last one counts. -/
def member (members : List (String × Json)) (key : String) : Option Json :=
  (members.reverse.find? fun entry => entry.1 = key).map Prod.snd

theorem member_cons (name : String) (json : Json)
    (members : List (String × Json)) (key : String) :
    member ((name, json) :: members) key =
      (member members key).or (if name = key then some json else none) := by
  unfold member
  rw [List.reverse_cons, List.find?_append]
  cases List.find? (fun entry => decide (entry.1 = key)) members.reverse with
  | some entry => rfl
  | none =>
      by_cases same : name = key
      · simp [same]
      · simp [same]

theorem member_eq_none {members : List (String × Json)} {key : String}
    (absent : ∀ json, (key, json) ∉ members) : member members key = none := by
  rw [member, Option.map_eq_none_iff, List.find?_eq_none]
  rintro ⟨name, json⟩ written same
  cases of_decide_eq_true same
  exact absent json (List.mem_reverse.mp written)

theorem mem_of_member {members : List (String × Json)} {key : String}
    {json : Json} (found : member members key = some json) :
    (key, json) ∈ members := by
  obtain ⟨⟨name, value⟩, first, rfl⟩ := Option.map_eq_some_iff.mp found
  have same : name = key := by simpa using List.find?_some first
  subst same
  exact List.mem_reverse.mp (List.mem_of_find?_eq_some first)

/-! ## Types -/

/-- How the values of a leaf type are written and read. -/
structure Codec (Value : Type) where
  zero : Value
  /-- What `omitempty` leaves out. -/
  isEmpty : Value → Bool
  encode : Value → Option Json
  /-- Read over an old value; `none` is an error, and the old value stays. -/
  decode : Value → Json → Option Value

/-- What is written is read back. -/
def Codec.RoundTrip {Value : Type} (codec : Codec Value) : Prop :=
  ∀ value, ∃ json, codec.encode value = some json ∧
    codec.decode codec.zero json = some value

/-- Strings. -/
def stringCodec : Codec String where
  zero := ""
  isEmpty value := value = ""
  encode value := some (.string value)
  decode
    | _, .string value => some value
    | old, .null => some old
    | _, _ => none

/-- Booleans. -/
def boolCodec : Codec Bool where
  zero := false
  isEmpty value := !value
  encode value := some (.bool value)
  decode
    | _, .bool value => some value
    | old, .null => some old
    | _, _ => none

/-- 64-bit integers, for which only an integer literal in range will do. -/
def int64Codec : Codec Int64 where
  zero := 0
  isEmpty value := value = 0
  encode value := some (.number (.integer value.toInt))
  decode
    | _, .number (.integer value) =>
        if Int64.minValue.toInt ≤ value ∧ value ≤ Int64.maxValue.toInt then
          some (Int64.ofInt value)
        else none
    | old, .null => some old
    | _, _ => none

theorem stringCodec_roundTrip : stringCodec.RoundTrip := fun _ => ⟨_, rfl, rfl⟩

theorem boolCodec_roundTrip : boolCodec.RoundTrip := fun _ => ⟨_, rfl, rfl⟩

theorem int64Codec_roundTrip : int64Codec.RoundTrip := by
  intro value
  refine ⟨_, rfl, ?_⟩
  show (if _ then _ else _) = some value
  rw [if_pos ⟨value.minValue_le_toInt, value.toInt_le⟩, Int64.ofInt_toInt]

/-- An integer literal in range is read as the integer it spells. -/
theorem int64Codec_decode_integer {value : Int}
    (range : Int64.minValue.toInt ≤ value ∧ value ≤ Int64.maxValue.toInt)
    (old : Int64) :
    int64Codec.decode old (.number (.integer value)) =
      some (Int64.ofInt value) :=
  if_pos range

/-- And it is written as the same literal. -/
theorem int64Codec_encode_ofInt {value : Int}
    (range : Int64.minValue.toInt ≤ value ∧ value ≤ Int64.maxValue.toInt) :
    int64Codec.encode (Int64.ofInt value) =
      some (.number (.integer value)) := by
  have least : Int64.minValue.toInt = -2 ^ 63 := by decide
  have greatest : Int64.maxValue.toInt = 2 ^ 63 - 1 := by decide
  rw [least, greatest] at range
  have same : (Int64.ofInt value).toInt = value :=
    Int64.toInt_ofInt_of_le range.1 (by omega)
  show some (Json.number (.integer (Int64.ofInt value).toInt)) = _
  rw [same]

mutual

/-- Types built from leaves. -/
inductive GoType (Leaf : Type) where
  | leaf (leaf : Leaf)
  | pointer (type : GoType Leaf)
  | slice (type : GoType Leaf)
  | struct (fields : Fields Leaf)

/-- The fields of a struct, embedded ones in place. -/
inductive Fields (Leaf : Type) where
  | nil
  | cons (name : String) (omitempty : Bool) (type : GoType Leaf)
      (rest : Fields Leaf)

end

/-- The leaf types, their values and codecs. -/
structure Leaves (Leaf : Type) where
  Value : Leaf → Type
  codec : (leaf : Leaf) → Codec (Value leaf)

variable {Leaf : Type}

/-- Every leaf is read back as it was written. -/
def Leaves.RoundTrip (leaves : Leaves Leaf) : Prop :=
  ∀ leaf, (leaves.codec leaf).RoundTrip

/-- Induction over the fields of a struct, whatever their types. -/
@[elab_as_elim]
theorem Fields.fieldwise {motive : Fields Leaf → Prop} (nil : motive .nil)
    (cons : ∀ name omitempty type rest, motive rest →
      motive (.cons name omitempty type rest)) :
    (fields : Fields Leaf) → motive fields
  | .nil => nil
  | .cons name omitempty type rest =>
      cons name omitempty type rest (Fields.fieldwise nil cons rest)

/-- The names of the fields. -/
def Fields.names : Fields Leaf → List String
  | .nil => []
  | .cons name _ _ rest => name :: rest.names

mutual

/-- No struct has two fields of one name. -/
def GoType.wellFormed : GoType Leaf → Bool
  | .leaf _ => true
  | .pointer type => type.wellFormed
  | .slice type => type.wellFormed
  | .struct fields => fields.wellFormed

/-- No two fields have one name. -/
def Fields.wellFormed : Fields Leaf → Bool
  | .nil => true
  | .cons name _ type rest =>
      name ∉ rest.names && type.wellFormed && rest.wellFormed

end

mutual

/-- The values of a type; pointers and slices may be `nil`. -/
@[reducible]
def GoType.Value (leaves : Leaves Leaf) : GoType Leaf → Type
  | .leaf kind => leaves.Value kind
  | .pointer type => Option (type.Value leaves)
  | .slice type => Option (List (type.Value leaves))
  | .struct fields => fields.Values leaves

/-- The values of the fields. -/
@[reducible]
def Fields.Values (leaves : Leaves Leaf) : Fields Leaf → Type
  | .nil => Unit
  | .cons _ _ type rest => type.Value leaves × rest.Values leaves

end

mutual

/-- The zero value. -/
def GoType.zero (leaves : Leaves Leaf) : (type : GoType Leaf) → type.Value leaves
  | .leaf kind => (leaves.codec kind).zero
  | .pointer _ => none
  | .slice _ => none
  | .struct fields => fields.zero leaves

/-- The zero values of the fields. -/
def Fields.zero (leaves : Leaves Leaf) :
    (fields : Fields Leaf) → fields.Values leaves
  | .nil => ()
  | .cons _ _ type rest => (type.zero leaves, rest.zero leaves)

end

/-! ## `Marshal` -/

/-- Marshal the elements of a slice. -/
def encodeElements {Value : Type} (encode : Value → Option Json) :
    List Value → Option (List Json)
  | [] => some []
  | value :: values =>
      (encode value).bind fun json =>
        (encodeElements encode values).map (json :: ·)

/-- What `omitempty` leaves out. -/
def GoType.isEmpty (leaves : Leaves Leaf) :
    (type : GoType Leaf) → type.Value leaves → Bool
  | .leaf kind, value => (leaves.codec kind).isEmpty value
  | .pointer type, value => Option.isNone (α := type.Value leaves) value
  | .slice type, value => ((value : Option (List (type.Value leaves))).getD []).isEmpty
  | .struct _, _ => false

mutual

/-- `Marshal`. -/
def GoType.encode (leaves : Leaves Leaf) :
    (type : GoType Leaf) → type.Value leaves → Option Json
  | .leaf kind, value => (leaves.codec kind).encode value
  | .pointer type, value =>
      match (value : Option (type.Value leaves)) with
      | none => some .null
      | some value => type.encode leaves value
  | .slice type, value =>
      match (value : Option (List (type.Value leaves))) with
      | none => some .null
      | some values =>
          (encodeElements (type.encode leaves) values).map .array
  | .struct fields, values => (fields.encode leaves values).map .object

/-- The members of a struct. -/
def Fields.encode (leaves : Leaves Leaf) :
    (fields : Fields Leaf) → fields.Values leaves →
      Option (List (String × Json))
  | .nil, _ => some []
  | .cons name omitempty type rest, values =>
      if omitempty && type.isEmpty leaves values.1 then
        rest.encode leaves values.2
      else
        (type.encode leaves values.1).bind fun json =>
          (rest.encode leaves values.2).map ((name, json) :: ·)

end

/-! ## `Unmarshal` -/

/-- The case folding of a name, as far as ASCII names can tell. -/
def foldName (name : String) : List Char :=
  name.toList.map fun char =>
    if char = Char.ofNat 0x17F then 's'
    else if char = Char.ofNat 0x212A then 'k'
    else char.toLower

/-- The field a member belongs to. -/
def resolve (names : List String) (key : String) : Option String :=
  if key ∈ names then some key
  else names.find? fun name => foldName name = foldName key

/--
Unmarshal the elements of an array over the elements of a slice; `true` is the
absence of an error.
-/
def decodeElements {Value : Type} (zero : Value)
    (decode : Value → Json → Value × Bool) :
    List Value → List Json → List Value × Bool
  | _, [] => ([], true)
  | [], json :: elements =>
      let first := decode zero json
      let rest := decodeElements zero decode [] elements
      (first.1 :: rest.1, first.2 && rest.2)
  | old :: olds, json :: elements =>
      let first := decode old json
      let rest := decodeElements zero decode olds elements
      (first.1 :: rest.1, first.2 && rest.2)

/-- Unmarshal the members of an object one after the other. -/
def decodeMembers {Values : Type} (names : List String)
    (decodeField : String → Json → Values → Values × Bool) :
    List (String × Json) → Values → Values × Bool
  | [], values => (values, true)
  | (key, json) :: members, values =>
      match resolve names key with
      | none => decodeMembers names decodeField members values
      | some name =>
          let first := decodeField name json values
          let rest := decodeMembers names decodeField members first.1
          (rest.1, first.2 && rest.2)

mutual

/-- `Unmarshal` over an old value; `true` is the absence of an error. -/
def GoType.decode (leaves : Leaves Leaf) :
    (type : GoType Leaf) → type.Value leaves → Json →
      type.Value leaves × Bool
  | .leaf kind, old, json =>
      match (leaves.codec kind).decode old json with
      | some value => (value, true)
      | none => (old, false)
  | .pointer type, old, json =>
      if json.isNull then (none, true)
      else
        let pointee :=
          type.decode leaves
            ((old : Option (type.Value leaves)).getD (type.zero leaves)) json
        (some pointee.1, pointee.2)
  | .slice type, old, json =>
      match json with
      | .null => (none, true)
      | .array elements =>
          let decoded :=
            decodeElements (type.zero leaves) (type.decode leaves)
              ((old : Option (List (type.Value leaves))).getD []) elements
          (some decoded.1, decoded.2)
      | _ => (old, false)
  | .struct fields, old, json =>
      match json with
      | .null => (old, true)
      | .object members =>
          decodeMembers fields.names (fields.decodeField leaves) members old
      | _ => (old, false)

/-- Unmarshal a member over the field of its name. -/
def Fields.decodeField (leaves : Leaves Leaf) :
    (fields : Fields Leaf) → String → Json → fields.Values leaves →
      fields.Values leaves × Bool
  | .nil, _, _, values => (values, true)
  | .cons name _ type rest, key, json, values =>
      if key = name then
        let decoded := type.decode leaves values.1 json
        ((decoded.1, values.2), decoded.2)
      else
        let decoded := rest.decodeField leaves key json values.2
        ((values.1, decoded.1), decoded.2)

end

/-! ## Round trips -/

mutual

/--
What a value is read back as: an empty `omitempty` field as its zero value, and
a pointer to what is written as `null` as a `nil` pointer.
-/
def GoType.canonical (leaves : Leaves Leaf) :
    (type : GoType Leaf) → type.Value leaves → type.Value leaves
  | .leaf _, value => value
  | .pointer type, value =>
      match (value : Option (type.Value leaves)) with
      | none => none
      | some value =>
          if (type.encode leaves value).all Json.isNull then none
          else some (type.canonical leaves value)
  | .slice type, value =>
      (value : Option (List (type.Value leaves))).map fun values =>
        values.map (type.canonical leaves)
  | .struct fields, values => fields.canonical leaves values

/-- What the fields are read back as. -/
def Fields.canonical (leaves : Leaves Leaf) :
    (fields : Fields Leaf) → fields.Values leaves → fields.Values leaves
  | .nil, values => values
  | .cons _ omitempty type rest, values =>
      (if omitempty && type.isEmpty leaves values.1 then type.zero leaves
        else type.canonical leaves values.1,
        rest.canonical leaves values.2)

end

theorem resolve_of_mem {names : List String} {key : String}
    (known : key ∈ names) : resolve names key = some key :=
  if_pos known

section RoundTrip

variable {leaves : Leaves Leaf}

/-- Only names of fields are written. -/
theorem Fields.mem_names_of_encode {fields : Fields Leaf}
    {values : fields.Values leaves} {members : List (String × Json)}
    (encoded : fields.encode leaves values = some members)
    {key : String} {json : Json} (written : (key, json) ∈ members) :
    key ∈ fields.names := by
  induction fields using Fields.fieldwise generalizing members with
  | nil =>
      cases encoded
      cases written
  | cons name omitempty type rest induction =>
      rw [Fields.encode] at encoded
      rw [Fields.names, List.mem_cons]
      split_ifs at encoded
      · exact .inr (induction encoded written)
      · obtain ⟨first, -, mapped⟩ := Option.bind_eq_some_iff.mp encoded
        obtain ⟨others, restEncoded, rfl⟩ := Option.map_eq_some_iff.mp mapped
        rcases List.mem_cons.mp written with same | later
        · exact .inl (congrArg Prod.fst same)
        · exact .inr (induction restEncoded later)

/-- No name is written twice. -/
theorem Fields.nodup_encode {fields : Fields Leaf}
    (wellFormed : fields.wellFormed = true) {values : fields.Values leaves}
    {members : List (String × Json)}
    (encoded : fields.encode leaves values = some members) :
    (members.map Prod.fst).Nodup := by
  induction fields using Fields.fieldwise generalizing members with
  | nil =>
      cases encoded
      exact List.nodup_nil
  | cons name omitempty type rest induction =>
      rw [Fields.wellFormed, Bool.and_eq_true, Bool.and_eq_true,
        decide_eq_true_iff] at wellFormed
      obtain ⟨⟨fresh, -⟩, restWellFormed⟩ := wellFormed
      rw [Fields.encode] at encoded
      split_ifs at encoded
      · exact induction restWellFormed encoded
      · obtain ⟨first, -, mapped⟩ := Option.bind_eq_some_iff.mp encoded
        obtain ⟨others, restEncoded, rfl⟩ := Option.map_eq_some_iff.mp mapped
        rw [List.map_cons, List.nodup_cons]
        refine ⟨fun member => ?_, induction restWellFormed restEncoded⟩
        obtain ⟨⟨key, json⟩, written, same⟩ := List.mem_map.mp member
        cases same
        exact fresh (Fields.mem_names_of_encode restEncoded written)

/-- What is written for a field stands under its name. -/
theorem Fields.member_encode_self {name : String} {omitempty : Bool}
    {type : GoType Leaf} {rest : Fields Leaf} {value : type.Value leaves}
    {values : rest.Values leaves} {members : List (String × Json)}
    (fresh : name ∉ rest.names)
    (encoded : (Fields.cons name omitempty type rest).encode leaves
      (value, values) = some members) :
    member members name =
      if omitempty && type.isEmpty leaves value then none
      else type.encode leaves value := by
  have absent : ∀ {others}, rest.encode leaves values = some others →
      member others name = none := by
    intro others restEncoded
    apply member_eq_none
    intro json written
    exact fresh (Fields.mem_names_of_encode restEncoded written)
  rw [Fields.encode] at encoded
  split_ifs at encoded ⊢
  · exact absent encoded
  · obtain ⟨json, typeEncoded, mapped⟩ := Option.bind_eq_some_iff.mp encoded
    obtain ⟨others, restEncoded, rfl⟩ := Option.map_eq_some_iff.mp mapped
    rw [member_cons, absent restEncoded, if_pos rfl, typeEncoded]
    rfl

/-- What is written for the other fields stands under theirs. -/
theorem Fields.member_encode_of_ne {name : String} {omitempty : Bool}
    {type : GoType Leaf} {rest : Fields Leaf} {value : type.Value leaves}
    {values : rest.Values leaves} {members : List (String × Json)}
    (encoded : (Fields.cons name omitempty type rest).encode leaves
      (value, values) = some members) :
    ∃ others, rest.encode leaves values = some others ∧
      ∀ key, key ≠ name → member members key = member others key := by
  rw [Fields.encode] at encoded
  split_ifs at encoded
  · exact ⟨members, encoded, fun _ _ => rfl⟩
  · obtain ⟨json, -, mapped⟩ := Option.bind_eq_some_iff.mp encoded
    obtain ⟨others, restEncoded, rfl⟩ := Option.map_eq_some_iff.mp mapped
    refine ⟨others, restEncoded, fun key different => ?_⟩
    rw [member_cons, if_neg different.symm, Option.or_none]

theorem decodeMembers_cons {Values : Type} {names : List String}
    {decodeField : String → Json → Values → Values × Bool} {key : String}
    (known : key ∈ names) (json : Json) (members : List (String × Json))
    (values : Values) :
    decodeMembers names decodeField ((key, json) :: members) values =
      ((decodeMembers names decodeField members
          (decodeField key json values).1).1,
        (decodeField key json values).2 &&
          (decodeMembers names decodeField members
            (decodeField key json values).1).2) := by
  rw [decodeMembers, resolve_of_mem known]

/-- Members no field is named after are passed over. -/
theorem decodeMembers_filter {Values : Type} {names : List String}
    {decodeField : String → Json → Values → Values × Bool}
    (members : List (String × Json)) (values : Values) :
    decodeMembers names decodeField
        (members.filter fun entry => (resolve names entry.1).isSome) values =
      decodeMembers names decodeField members values := by
  induction members generalizing values with
  | nil => rfl
  | cons entry members induction =>
      obtain ⟨key, json⟩ := entry
      rw [List.filter_cons]
      cases named : resolve names key with
      | none =>
          simp only [Option.isSome_none, Bool.false_eq_true, if_false]
          rw [induction, decodeMembers, named]
      | some name =>
          simp only [Option.isSome_some, if_true]
          simp only [decodeMembers, named, induction]

theorem Fields.decodeField_self {name : String} {omitempty : Bool}
    {type : GoType Leaf} {rest : Fields Leaf} (json : Json)
    (value : type.Value leaves) (values : rest.Values leaves) :
    (Fields.cons name omitempty type rest).decodeField leaves name json
        (value, values) =
      (((type.decode leaves value json).1, values),
        (type.decode leaves value json).2) := by
  rw [Fields.decodeField, if_pos rfl]

theorem Fields.decodeField_of_ne {name key : String} {omitempty : Bool}
    {type : GoType Leaf} {rest : Fields Leaf} (different : key ≠ name)
    (json : Json) (value : type.Value leaves) (values : rest.Values leaves) :
    (Fields.cons name omitempty type rest).decodeField leaves key json
        (value, values) =
      ((value, (rest.decodeField leaves key json values).1),
        (rest.decodeField leaves key json values).2) := by
  rw [Fields.decodeField, if_neg different]

/-- Members of other names pass the first field by. -/
theorem decodeMembers_rest {name : String} {omitempty : Bool}
    {type : GoType Leaf} {rest : Fields Leaf} {names : List String}
    {members : List (String × Json)} (value : type.Value leaves)
    (values : rest.Values leaves)
    (others : ∀ entry ∈ members, entry.1 ≠ name ∧ entry.1 ∈ names) :
    decodeMembers names
        ((Fields.cons name omitempty type rest).decodeField leaves) members
        (value, values) =
      ((value,
          (decodeMembers names (rest.decodeField leaves) members values).1),
        (decodeMembers names (rest.decodeField leaves) members values).2) := by
  induction members generalizing values with
  | nil => rfl
  | cons entry members induction =>
      obtain ⟨key, json⟩ := entry
      rw [List.forall_mem_cons] at others
      obtain ⟨⟨different, known⟩, others⟩ := others
      rw [decodeMembers_cons known, decodeMembers_cons known,
        Fields.decodeField_of_ne different, induction _ others]

/-- The elements of a slice are read back one by one. -/
theorem decodeElements_encode {Value : Type} {zero : Value}
    {encode : Value → Option Json} {decode : Value → Json → Value × Bool}
    {canonical : Value → Value}
    (each : ∀ value, ∃ json, encode value = some json ∧
      decode zero json = (canonical value, true)) (values : List Value) :
    ∃ elements, encodeElements encode values = some elements ∧
      decodeElements zero decode [] elements =
        (values.map canonical, true) := by
  induction values with
  | nil => exact ⟨[], rfl, rfl⟩
  | cons value values induction =>
      obtain ⟨json, encoded, decoded⟩ := each value
      obtain ⟨elements, restEncoded, restDecoded⟩ := induction
      refine ⟨json :: elements, ?_, ?_⟩
      · rw [encodeElements, encoded, restEncoded]
        rfl
      · rw [decodeElements, decoded, restDecoded]
        rfl

mutual

/-- What `Marshal` writes, `Unmarshal` reads back. -/
theorem GoType.decode_encode (roundTrip : leaves.RoundTrip) :
    (type : GoType Leaf) → type.wellFormed = true →
      (value : type.Value leaves) →
      ∃ json, type.encode leaves value = some json ∧
        type.decode leaves (type.zero leaves) json =
          (type.canonical leaves value, true)
  | .leaf kind, _, value => by
      obtain ⟨json, encoded, decoded⟩ := roundTrip kind value
      refine ⟨json, encoded, ?_⟩
      rw [GoType.decode, GoType.zero, decoded]
      rfl
  | .pointer type, wellFormed, value => by
      cases value with
      | none => exact ⟨.null, rfl, rfl⟩
      | some value =>
          obtain ⟨json, encoded, decoded⟩ :=
            GoType.decode_encode roundTrip type wellFormed value
          refine ⟨json, encoded, ?_⟩
          simp only [GoType.decode, GoType.canonical, encoded, Option.all_some]
          by_cases isNull : json.isNull = true
          · rw [if_pos isNull, if_pos isNull]
          · rw [if_neg isNull, if_neg isNull]
            show (some (type.decode leaves (type.zero leaves) json).1,
              (type.decode leaves (type.zero leaves) json).2) = _
            rw [decoded]
  | .slice type, wellFormed, value => by
      cases value with
      | none => exact ⟨.null, rfl, rfl⟩
      | some values =>
          obtain ⟨elements, encoded, decoded⟩ :=
            decodeElements_encode
              (GoType.decode_encode roundTrip type wellFormed) values
          refine ⟨.array elements, ?_, ?_⟩
          · simp only [GoType.encode, encoded, Option.map_some]
          · show (some (decodeElements (type.zero leaves) (type.decode leaves)
                [] elements).1,
              (decodeElements (type.zero leaves) (type.decode leaves) []
                elements).2) = _
            rw [decoded]
            rfl
  | .struct fields, wellFormed, values => by
      obtain ⟨members, encoded, decoded⟩ :=
        Fields.decode_encode roundTrip fields wellFormed values fields.names
          (fun _ known => known)
      refine ⟨.object members, ?_, decoded⟩
      rw [GoType.encode, encoded]
      rfl

/-- The same of the fields, also among others. -/
theorem Fields.decode_encode (roundTrip : leaves.RoundTrip) :
    (fields : Fields Leaf) → fields.wellFormed = true →
      (values : fields.Values leaves) → (names : List String) →
        (∀ name ∈ fields.names, name ∈ names) →
          ∃ members, fields.encode leaves values = some members ∧
            decodeMembers names (fields.decodeField leaves) members
                (fields.zero leaves) =
              (fields.canonical leaves values, true)
  | .nil, _, _, _, _ => ⟨[], rfl, rfl⟩
  | .cons name omitempty type rest, wellFormed, (value, values), names,
      known => by
      rw [Fields.wellFormed, Bool.and_eq_true, Bool.and_eq_true,
        decide_eq_true_iff] at wellFormed
      obtain ⟨⟨fresh, typeWellFormed⟩, restWellFormed⟩ := wellFormed
      rw [Fields.names, List.forall_mem_cons] at known
      obtain ⟨json, encoded, decoded⟩ :=
        GoType.decode_encode roundTrip type typeWellFormed value
      obtain ⟨members, restEncoded, restDecoded⟩ :=
        Fields.decode_encode roundTrip rest restWellFormed values names known.2
      have others : ∀ entry ∈ members, entry.1 ≠ name ∧ entry.1 ∈ names := by
        rintro ⟨key, other⟩ written
        have among := Fields.mem_names_of_encode restEncoded written
        exact ⟨fun same => fresh (same ▸ among), known.2 key among⟩
      by_cases omitted : (omitempty && type.isEmpty leaves value) = true
      · refine ⟨members, ?_, ?_⟩
        · rw [Fields.encode, if_pos omitted]
          exact restEncoded
        · rw [Fields.zero, decodeMembers_rest _ _ others, restDecoded,
            Fields.canonical, if_pos omitted]
      · refine ⟨(name, json) :: members, ?_, ?_⟩
        · rw [Fields.encode, if_neg omitted, encoded, restEncoded]
          rfl
        · rw [Fields.zero, decodeMembers_cons known.1,
            Fields.decodeField_self, decoded, decodeMembers_rest _ _ others,
            restDecoded, Fields.canonical, if_neg omitted]
          rfl

end

end RoundTrip

/-! ## Reading an object and writing it back -/

/-- What the fields hold once a document has been read over old values. -/
def Fields.overlay (leaves : Leaves Leaf) :
    (fields : Fields Leaf) → (String → Option Json) → fields.Values leaves →
      fields.Values leaves
  | .nil, _, values => values
  | .cons name _ type rest, document, values =>
      ((match document name with
        | none => values.1
        | some json => (type.decode leaves values.1 json).1),
        rest.overlay leaves document values.2)

/-- What a field holds which is read into a fresh value, if it is read. -/
def GoType.read (leaves : Leaves Leaf) (type : GoType Leaf) :
    Option Json → type.Value leaves
  | none => type.zero leaves
  | some json => (type.decode leaves (type.zero leaves) json).1

/-- The field of a name is there, and writes the member as it was read. -/
def Fields.Holds (leaves : Leaves Leaf) :
    Fields Leaf → String → Json → Prop
  | .nil, _, _ => False
  | .cons name omitempty type rest, key, json =>
      if key = name then
        (omitempty && type.isEmpty leaves (type.read leaves (some json))) =
            false ∧
          type.encode leaves (type.read leaves (some json)) = some json
      else rest.Holds leaves key json

/-- Every field is left out while it has its zero value. -/
def Fields.allOptional (leaves : Leaves Leaf) : Fields Leaf → Bool
  | .nil => true
  | .cons _ omitempty type rest =>
      omitempty && type.isEmpty leaves (type.zero leaves) &&
        rest.allOptional leaves

section Overlay

variable {leaves : Leaves Leaf}

/-- A name which is not among them has no member. -/
theorem member_eq_none_of_fresh {members : List (String × Json)} {key : String}
    (fresh : key ∉ members.map Prod.fst) : member members key = none := by
  apply member_eq_none
  intro json written
  exact fresh (List.mem_map.mpr ⟨(key, json), written, rfl⟩)

/-- The members of distinct names are found. -/
theorem member_of_mem {members : List (String × Json)}
    (distinct : (members.map Prod.fst).Nodup) {key : String} {json : Json}
    (written : (key, json) ∈ members) : member members key = some json := by
  induction members with
  | nil => cases written
  | cons entry members induction =>
      obtain ⟨name, first⟩ := entry
      rw [List.map_cons, List.nodup_cons] at distinct
      rw [member_cons]
      rcases List.mem_cons.mp written with same | later
      · cases same
        rw [member_eq_none_of_fresh distinct.1, if_pos rfl]
        rfl
      · rw [induction distinct.2 later]
        rfl

/-- A document read into a fresh value is read field by field. -/
theorem Fields.overlay_zero {name : String} {omitempty : Bool}
    {type : GoType Leaf} {rest : Fields Leaf}
    (document : String → Option Json) :
    (Fields.cons name omitempty type rest).overlay leaves document
        ((Fields.cons name omitempty type rest).zero leaves) =
      (type.read leaves (document name),
        rest.overlay leaves document (rest.zero leaves)) := by
  rw [Fields.overlay]
  cases document name with
  | none => rfl
  | some json => rfl

/-- Only the members of the fields' names matter. -/
theorem Fields.overlay_congr {fields : Fields Leaf}
    {first second : String → Option Json} (values : fields.Values leaves)
    (same : ∀ name ∈ fields.names, first name = second name) :
    fields.overlay leaves first values =
      fields.overlay leaves second values := by
  induction fields using Fields.fieldwise with
  | nil => rfl
  | cons name omitempty type rest induction =>
      rw [Fields.names, List.forall_mem_cons] at same
      rw [Fields.overlay, Fields.overlay, same.1,
        induction values.2 same.2]

/-- Reading one member first is reading it with the rest. -/
theorem Fields.overlay_decodeField {fields : Fields Leaf}
    (wellFormed : fields.wellFormed = true) {document : String → Option Json}
    {key : String} (absent : document key = none) (json : Json)
    (values : fields.Values leaves) :
    fields.overlay leaves document
        (fields.decodeField leaves key json values).1 =
      fields.overlay leaves
        (fun name => (document name).or (if key = name then some json else none))
        values := by
  induction fields using Fields.fieldwise with
  | nil => rfl
  | cons name omitempty type rest induction =>
      rw [Fields.wellFormed, Bool.and_eq_true, Bool.and_eq_true,
        decide_eq_true_iff] at wellFormed
      obtain ⟨⟨fresh, -⟩, restWellFormed⟩ := wellFormed
      obtain ⟨value, values⟩ := values
      by_cases same : key = name
      · subst same
        rw [Fields.decodeField_self, Fields.overlay, Fields.overlay, absent,
          if_pos rfl]
        refine Prod.ext rfl (Fields.overlay_congr values ?_)
        intro other among
        have different : key ≠ other := fun same => fresh (same ▸ among)
        rw [if_neg different, Option.or_none]
      · rw [Fields.decodeField_of_ne same, Fields.overlay, Fields.overlay,
          if_neg same, Option.or_none, induction restWellFormed values]

/-- An empty object leaves the fields as they are. -/
theorem Fields.overlay_nil {fields : Fields Leaf}
    (values : fields.Values leaves) :
    fields.overlay leaves (member []) values = values := by
  induction fields using Fields.fieldwise with
  | nil => rfl
  | cons name omitempty type rest induction =>
      exact Prod.ext rfl (induction values.2)

/-- `Unmarshal` of an object of distinct names, all of them known. -/
theorem decodeMembers_eq_overlay {fields : Fields Leaf}
    (wellFormed : fields.wellFormed = true)
    {members : List (String × Json)}
    (distinct : (members.map Prod.fst).Nodup)
    (known : ∀ entry ∈ members, entry.1 ∈ fields.names)
    (values : fields.Values leaves) :
    (decodeMembers fields.names (fields.decodeField leaves) members values).1 =
      fields.overlay leaves (member members) values := by
  induction members generalizing values with
  | nil =>
      exact (Fields.overlay_nil values).symm
  | cons entry members induction =>
      obtain ⟨key, json⟩ := entry
      rw [List.map_cons, List.nodup_cons] at distinct
      rw [List.forall_mem_cons] at known
      rw [decodeMembers_cons known.1, induction distinct.2 known.2,
        Fields.overlay_decodeField wellFormed
          (member_eq_none_of_fresh distinct.1)]
      apply Fields.overlay_congr
      intro name _
      rw [member_cons]

/-- Members of different names may be read in either order. -/
theorem Fields.decodeField_comm {fields : Fields Leaf} {key other : String}
    (different : key ≠ other) (json otherJson : Json)
    (values : fields.Values leaves) :
    (fields.decodeField leaves other otherJson
          (fields.decodeField leaves key json values).1).1 =
        (fields.decodeField leaves key json
          (fields.decodeField leaves other otherJson values).1).1 ∧
      (fields.decodeField leaves other otherJson
          (fields.decodeField leaves key json values).1).2 =
        (fields.decodeField leaves other otherJson values).2 := by
  induction fields using Fields.fieldwise with
  | nil => exact ⟨rfl, rfl⟩
  | cons name omitempty type rest induction =>
      obtain ⟨value, values⟩ := values
      by_cases first : key = name
      · subst first
        have second := Ne.symm different
        simp only [Fields.decodeField_self, Fields.decodeField_of_ne second,
          and_self]
      · by_cases second : other = name
        · subst second
          simp only [Fields.decodeField_self, Fields.decodeField_of_ne first,
            and_self]
        · simp only [Fields.decodeField_of_ne first,
            Fields.decodeField_of_ne second]
          obtain ⟨same, success⟩ := induction values
          exact ⟨by rw [same], success⟩

/-- The order of an object's members does not matter. -/
theorem decodeMembers_perm {fields : Fields Leaf}
    {members others : List (String × Json)} (perm : members.Perm others)
    (distinct : (members.map Prod.fst).Nodup)
    (known : ∀ entry ∈ members, entry.1 ∈ fields.names)
    (values : fields.Values leaves) :
    decodeMembers fields.names (fields.decodeField leaves) members values =
      decodeMembers fields.names (fields.decodeField leaves) others values := by
  induction perm generalizing values with
  | nil => rfl
  | cons entry perm induction =>
      obtain ⟨key, json⟩ := entry
      rw [List.map_cons, List.nodup_cons] at distinct
      rw [List.forall_mem_cons] at known
      rw [decodeMembers_cons known.1, decodeMembers_cons known.1,
        induction distinct.2 known.2]
  | swap first second rest =>
      obtain ⟨key, json⟩ := first
      obtain ⟨other, otherJson⟩ := second
      rw [List.map_cons, List.map_cons, List.nodup_cons] at distinct
      rw [List.forall_mem_cons, List.forall_mem_cons] at known
      have different : key ≠ other := by
        rintro rfl
        exact distinct.1 (List.mem_cons_self ..)
      obtain ⟨same, success⟩ :=
        Fields.decodeField_comm different json otherJson values
      obtain ⟨-, otherSuccess⟩ :=
        Fields.decodeField_comm different.symm otherJson json values
      simp only [decodeMembers_cons known.1, decodeMembers_cons known.2.1,
        same, success, otherSuccess, Bool.and_left_comm]
  | trans first second induction induction' =>
      rw [induction distinct known]
      apply induction'
      · exact ((first.map Prod.fst).nodup_iff).mp distinct
      · intro entry member
        exact known entry (first.mem_iff.mpr member)

/--
A document whose members the fields hold is written back as it was read, if
fields which were not read are left out.
-/
theorem Fields.member_encode_overlay {fields : Fields Leaf}
    (wellFormed : fields.wellFormed = true)
    (optional : fields.allOptional leaves = true)
    {document : String → Option Json} {members : List (String × Json)}
    (encoded : fields.encode leaves
      (fields.overlay leaves document (fields.zero leaves)) = some members)
    (holds : ∀ key json, document key = some json →
      key ∈ fields.names → fields.Holds leaves key json)
    {key : String} (known : key ∈ fields.names) :
    member members key = document key := by
  induction fields using Fields.fieldwise generalizing members with
  | nil => cases known
  | cons name omitempty type rest induction =>
      rw [Fields.wellFormed, Bool.and_eq_true, Bool.and_eq_true,
        decide_eq_true_iff] at wellFormed
      obtain ⟨⟨fresh, -⟩, restWellFormed⟩ := wellFormed
      rw [Fields.allOptional, Bool.and_eq_true] at optional
      rw [Fields.overlay_zero] at encoded
      by_cases same : key = name
      · subst same
        rw [Fields.member_encode_self fresh encoded]
        cases found : document key with
        | none => exact if_pos optional.1
        | some json =>
            have kept := holds key json found (List.mem_cons_self ..)
            rw [Fields.Holds, if_pos rfl] at kept
            exact (if_neg (Bool.eq_false_iff.mp kept.1)).trans kept.2
      · obtain ⟨others, restEncoded, elsewhere⟩ :=
          Fields.member_encode_of_ne encoded
        rw [elsewhere key same]
        have among : key ∈ rest.names := by
          rcases List.mem_cons.mp known with same' | among
          · exact absurd same' same
          · exact among
        refine induction restWellFormed optional.2 restEncoded ?_ among
        intro other json found among
        have kept := holds other json found (List.mem_cons_of_mem _ among)
        have different : other ≠ name := fun same => fresh (same ▸ among)
        rwa [Fields.Holds, if_neg different] at kept

end Overlay

end DbosRelay.Library.GoJson
