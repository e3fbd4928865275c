import DbosRelay.Declarative.Manifest
import DbosRelay.Library.GoAny

/-!
# The writers of an application's settings

An application's settings are one `jsonb` object.  `UpdateApp`,
`SetLatestAppVersion` and `RegisterApp` of `internal/api/apps.go` write it through
the struct `appSettings`; `Apply` of `internal/declarative/declarative.go` writes it
through a `map[string]any`.  Each of them writes the whole object.

The struct drops the keys it has no field for, among them the two which only
`Apply` writes, and whatever its fields cannot hold; the map makes a `float64` of
every number.  `lookup_updateApp` and its companions say what becomes of the keys
an operation was not asked about.
-/

namespace DbosRelay.Applications

open DbosRelay.Declarative
open DbosRelay.Library.GoJson
open DbosRelay.Library.Tables

/-! ## The column -/

/-- The column `settings`, a `jsonb` object. -/
abbrev Settings := Table String Json

namespace Settings

/-- `jsonb` orders the members of an object by length and then by bytes. -/
def memberOrder (first second : String × Json) : Prop :=
  first.1.utf8ByteSize < second.1.utf8ByteSize ∨
    first.1.utf8ByteSize = second.1.utf8ByteSize ∧ first.1 ≤ second.1

instance : DecidableRel memberOrder := fun _ _ => by
  unfold memberOrder
  infer_instance

/-- The text of the column. -/
def members (settings : Settings) : List (String × Json) :=
  (settings.entries.map fun entry => (entry.1, entry.2)).insertionSort
    memberOrder

/-- The column a text is stored as; of members of one name the last one stays. -/
def ofMembers (members : List (String × Json)) : Settings :=
  members.foldl (fun settings entry => settings.insert entry.1 entry.2) ∅

theorem mem_members {settings : Settings} {key : String} {json : Json} :
    (key, json) ∈ settings.members ↔ settings.lookup key = some json := by
  rw [members, List.mem_insertionSort, List.mem_map, ← mem_entries_iff]
  constructor
  · rintro ⟨⟨name, value⟩, member, same⟩
    cases same
    exact member
  · intro member
    exact ⟨_, member, rfl⟩

theorem members_nodup (settings : Settings) :
    (settings.members.map Prod.fst).Nodup := by
  rw [members, ((List.perm_insertionSort _ _).map Prod.fst).nodup_iff,
    List.map_map]
  exact settings.nodupKeys

theorem member_members (settings : Settings) (key : String) :
    member settings.members key = settings.lookup key := by
  cases found : settings.lookup key with
  | some json =>
      exact member_of_mem settings.members_nodup (mem_members.mpr found)
  | none =>
      apply member_eq_none
      intro json written
      rw [mem_members.mp written] at found
      cases found

theorem lookup_foldl_insert (entries : List (String × Json))
    (settings : Settings) (key : String) :
    (entries.foldl (fun settings entry => settings.insert entry.1 entry.2)
        settings).lookup key =
      (member entries key).or (settings.lookup key) := by
  induction entries generalizing settings with
  | nil => rfl
  | cons entry rest induction =>
      obtain ⟨name, json⟩ := entry
      rw [List.foldl_cons, induction, member_cons, Option.or_assoc,
        lookup_insert_eq]
      by_cases same : name = key
      · rw [if_pos same.symm, if_pos same]
        rfl
      · rw [if_neg (Ne.symm same), if_neg same]
        rfl

theorem lookup_ofMembers (entries : List (String × Json)) (key : String) :
    (ofMembers entries).lookup key = member entries key := by
  rw [ofMembers, lookup_foldl_insert]
  exact Option.or_none

end Settings

/-! ## `appSettings` -/

/-- The types of the fields, pointers aside. -/
inductive SettingKind where
  | bool
  | int64
  | string
deriving DecidableEq, Repr

/-- Their values. -/
@[reducible]
def SettingKind.Value : SettingKind → Type
  | .bool => Bool
  | .int64 => Int64
  | .string => String

/-- Their values and codecs. -/
@[reducible]
def settingLeaves : Leaves SettingKind where
  Value := SettingKind.Value
  codec
    | .bool => boolCodec
    | .int64 => int64Codec
    | .string => stringCodec

/-- `appSettings`. -/
structure AppSettings where
  privateMode : Bool
  executorTimeoutSecs : Int64
  gcRowsThreshold : Option Int64
  gcTimeThresholdMs : Option Int64
  globalTimeoutMs : Option Int64
  latestVersion : Option String
deriving DecidableEq, Repr

namespace AppSettings

/-- The tags of its fields; every one has `omitempty`. -/
def fields : Fields SettingKind :=
  .cons "privateMode" true (.leaf .bool) <|
  .cons "executorTimeoutSecs" true (.leaf .int64) <|
  .cons "gcRowsThreshold" true (.pointer (.leaf .int64)) <|
  .cons "gcTimeThresholdMs" true (.pointer (.leaf .int64)) <|
  .cons "globalTimeoutMs" true (.pointer (.leaf .int64)) <|
  .cons "latestVersion" true (.pointer (.leaf .string)) .nil

/-- The struct of the values of its fields. -/
def ofValues : fields.Values settingLeaves → AppSettings
  | (privateMode, executorTimeoutSecs, gcRowsThreshold, gcTimeThresholdMs,
      globalTimeoutMs, latestVersion, ()) =>
      ⟨privateMode, executorTimeoutSecs, gcRowsThreshold, gcTimeThresholdMs,
        globalTimeoutMs, latestVersion⟩

/-- The values of its fields. -/
def toValues (settings : AppSettings) : fields.Values settingLeaves :=
  (settings.privateMode, settings.executorTimeoutSecs,
    settings.gcRowsThreshold, settings.gcTimeThresholdMs,
    settings.globalTimeoutMs, settings.latestVersion, ())

/-- `Unmarshal` into a fresh struct; the callers ignore its error. -/
def unmarshal (settings : Settings) : AppSettings :=
  .ofValues
    ((GoType.struct fields).decode settingLeaves (fields.zero settingLeaves)
      (.object settings.members)).1

/-- `Marshal`, and what the store makes of it. -/
def marshal (settings : AppSettings) : Option Settings :=
  (fields.encode settingLeaves settings.toValues).map .ofMembers

/-- What a field of the struct can hold and is not left out. -/
def holds (key : String) : Json → Bool
  | .bool value => key = "privateMode" && value
  | .number (.integer value) =>
      Int64.minValue.toInt ≤ value && value ≤ Int64.maxValue.toInt &&
        (key = "executorTimeoutSecs" && value ≠ 0 || key = "gcRowsThreshold" ||
          key = "gcTimeThresholdMs" || key = "globalTimeoutMs")
  | .string _ => key = "latestVersion"
  | _ => false

end AppSettings

/-! ## The operations -/

/-- A 64-bit integer in a document. -/
def integerJson (value : Int64) : Json := .number (.integer value.toInt)

/-- `UpdateAppJSONRequestBody`. -/
structure AppPatch where
  privateMode : Option Bool
  executorTimeoutSecs : Option Int64
  gcRowsThreshold : Option Int64
  gcTimeThresholdMs : Option Int64
  globalTimeoutMs : Option Int64
deriving DecidableEq, Repr

namespace AppPatch

/-- The body without fields. -/
def empty : AppPatch := ⟨none, none, none, none, none⟩

/-- `validateAppSettingsPatch`. -/
def validate (patch : AppPatch) : Except String Unit :=
  if patch.gcRowsThreshold.any (· < 0) then
    .error "gcRowsThreshold must not be negative"
  else if patch.gcTimeThresholdMs.any (· < 0) then
    .error "gcTimeThresholdMs must not be negative"
  else if patch.globalTimeoutMs.any (· < 0) then
    .error "globalTimeoutMs must not be negative"
  else if patch.executorTimeoutSecs.any (· ≤ 0) then
    .error "executorTimeoutSecs must be positive"
  else .ok ()

/-- The fields of the body over those of the settings. -/
def update (patch : AppPatch) (settings : AppSettings) : AppSettings where
  privateMode := patch.privateMode.getD settings.privateMode
  executorTimeoutSecs :=
    patch.executorTimeoutSecs.getD settings.executorTimeoutSecs
  gcRowsThreshold := patch.gcRowsThreshold.or settings.gcRowsThreshold
  gcTimeThresholdMs := patch.gcTimeThresholdMs.or settings.gcTimeThresholdMs
  globalTimeoutMs := patch.globalTimeoutMs.or settings.globalTimeoutMs
  latestVersion := settings.latestVersion

/--
The keys a patch is asked to change, and what they are to hold.  A public
application has no `privateMode`.
-/
def asked (patch : AppPatch) (key : String) : Option (Option Json) :=
  if key = "privateMode" then
    patch.privateMode.map fun value =>
      if value then some (.bool true) else none
  else if key = "executorTimeoutSecs" then
    patch.executorTimeoutSecs.map fun value => some (integerJson value)
  else if key = "gcRowsThreshold" then
    patch.gcRowsThreshold.map fun value => some (integerJson value)
  else if key = "gcTimeThresholdMs" then
    patch.gcTimeThresholdMs.map fun value => some (integerJson value)
  else if key = "globalTimeoutMs" then
    patch.globalTimeoutMs.map fun value => some (integerJson value)
  else none

end AppPatch

/-- The key `SetLatestAppVersion` is asked to change. -/
def askedVersion (versionName : String) (key : String) :
    Option (Option Json) :=
  if key = "latestVersion" then some (some (.string versionName)) else none

/-- What `UpdateApp` makes of the settings it has read; `none` is an error. -/
def updateApp (body : Option AppPatch) (settings : Settings) :
    Option Settings :=
  match body with
  | none => (AppSettings.unmarshal settings).marshal
  | some patch =>
      match patch.validate with
      | .error _ => none
      | .ok () => (patch.update (.unmarshal settings)).marshal

/-- What `SetLatestAppVersion` makes of them. -/
def setLatestAppVersion (body : Option String) (settings : Settings) :
    Option Settings :=
  body.bind fun versionName =>
    AppSettings.marshal
      { AppSettings.unmarshal settings with latestVersion := some versionName }

/-- What `RegisterApp` writes, whatever the settings are. -/
def registerApp (privateMode : Option Bool) : Option Settings :=
  AppSettings.marshal
    { AppSettings.ofValues (AppSettings.fields.zero settingLeaves) with
      privateMode := privateMode.getD false }

/-- What `Apply` makes of the settings it has read, if the application exists. -/
def appliedSettings (app : DeclaredApplication) (existing : Option Settings) :
    Settings :=
  let settings : Settings :=
    match existing with
    | none => ∅
    | some settings => mapValues (fun _ => throughAny) settings
  let settings :=
    if app.description ≠ "" then
      settings.insert "description" (.string app.description)
    else settings
  let settings :=
    if 0 < app.stuckSLASecs then
      settings.insert "stuck_sla_secs"
        (.number (.integer app.stuckSLASecs.toInt))
    else settings
  if 0 < app.executorTimeoutSecs then
    settings.insert "executorTimeoutSecs" (integerJson app.executorTimeoutSecs)
  else settings

/-- The keys `Apply` is asked to change. -/
def askedByManifest (app : DeclaredApplication) (key : String) :
    Option (Option Json) :=
  if key = "executorTimeoutSecs" ∧ 0 < app.executorTimeoutSecs then
    some (some (integerJson app.executorTimeoutSecs))
  else if key = "stuck_sla_secs" ∧ 0 < app.stuckSLASecs then
    some (some (.number (.integer app.stuckSLASecs.toInt)))
  else if key = "description" ∧ app.description ≠ "" then
    some (some (.string app.description))
  else none

/-! ## What comes through the struct -/

namespace AppSettings

theorem names_fields : fields.names =
    ["privateMode", "executorTimeoutSecs", "gcRowsThreshold",
      "gcTimeThresholdMs", "globalTimeoutMs", "latestVersion"] :=
  rfl

theorem mem_names_of_holds {key : String} {json : Json}
    (held : holds key json = true) : key ∈ fields.names := by
  rw [names_fields]
  unfold holds at held
  split at held <;> simp at held ⊢
  · exact .inl held.1
  · rcases held.2 with ((held | held) | held) | held
    · simp [held.1]
    · simp [held]
    · simp [held]
    · simp [held]
  · simp [held]

/-- An integer in range is read as it is. -/
theorem read_integer {value : Int}
    (range : Int64.minValue.toInt ≤ value ∧ value ≤ Int64.maxValue.toInt) :
    (GoType.leaf SettingKind.int64).read settingLeaves
        (some (.number (.integer value))) = Int64.ofInt value := by
  rw [GoType.read, GoType.decode]
  simp only [GoType.zero, int64Codec_decode_integer range]

theorem read_integerPointer {value : Int}
    (range : Int64.minValue.toInt ≤ value ∧ value ≤ Int64.maxValue.toInt) :
    (GoType.pointer (.leaf SettingKind.int64)).read settingLeaves
        (some (.number (.integer value))) = some (Int64.ofInt value) :=
  congrArg some (read_integer range)

theorem read_integerJson (value : Int64) :
    (GoType.leaf .int64).read settingLeaves (some (integerJson value)) =
      value := by
  rw [integerJson, read_integer ⟨value.minValue_le_toInt, value.toInt_le⟩,
    Int64.ofInt_toInt]

/-- What `holds` says is what the fields do. -/
theorem holds_fields {key : String} {json : Json}
    (held : holds key json = true) : fields.Holds settingLeaves key json := by
  unfold holds at held
  split at held
  · rw [Bool.and_eq_true, decide_eq_true_iff] at held
    obtain ⟨rfl, rfl⟩ := held
    exact ⟨rfl, rfl⟩
  · rename_i value
    simp only [Bool.and_eq_true, Bool.or_eq_true, decide_eq_true_iff] at held
    obtain ⟨range, named⟩ := held
    have encoded := int64Codec_encode_ofInt range
    have pointer : (GoType.pointer (.leaf .int64)).encode settingLeaves
        ((GoType.pointer (.leaf .int64)).read settingLeaves
          (some (.number (.integer value)))) =
            some (.number (.integer value)) := by
      rw [read_integerPointer range]
      exact encoded
    obtain ((⟨rfl, nonzero⟩ | rfl) | rfl) | rfl := named
    · show (true && (GoType.leaf .int64).isEmpty settingLeaves
          ((GoType.leaf .int64).read settingLeaves _)) = false ∧
        (GoType.leaf .int64).encode settingLeaves
          ((GoType.leaf .int64).read settingLeaves _) = _
      rw [read_integer range]
      -- A zero would be left out; only the pointers hold one.
      refine ⟨decide_eq_false fun zero => nonzero ?_, encoded⟩
      rw [zero] at encoded
      cases encoded
      rfl
    · exact ⟨rfl, pointer⟩
    · exact ⟨rfl, pointer⟩
    · exact ⟨rfl, pointer⟩
  · rw [decide_eq_true_iff] at held
    subst held
    exact ⟨rfl, rfl⟩
  · cases held

/-- The struct is what a document is read as. -/
def Reads (settings : AppSettings) (document : String → Option Json) : Prop :=
  settings.toValues =
    fields.overlay settingLeaves document (fields.zero settingLeaves)

theorem reads_unmarshal {settings : Settings}
    (known : ∀ key json, settings.lookup key = some json →
      key ∈ fields.names) :
    (unmarshal settings).Reads settings.lookup := by
  show (decodeMembers fields.names (fields.decodeField settingLeaves)
    settings.members (fields.zero settingLeaves)).1 = _
  rw [decodeMembers_eq_overlay rfl settings.members_nodup]
  · apply Fields.overlay_congr
    intro name _
    exact settings.member_members name
  · rintro ⟨key, json⟩ written
    exact known key json (Settings.mem_members.mp written)

/-- The document is written back, if the struct holds all of it. -/
theorem lookup_marshal {settings : AppSettings}
    {document : String → Option Json} {written : Settings}
    (reads : settings.Reads document)
    (held : ∀ key json, document key = some json → holds key json = true)
    (marshalled : settings.marshal = some written) (key : String) :
    written.lookup key = document key := by
  obtain ⟨members, encoded, rfl⟩ := Option.map_eq_some_iff.mp marshalled
  rw [Settings.lookup_ofMembers]
  rw [reads] at encoded
  by_cases known : key ∈ fields.names
  · apply Fields.member_encode_overlay rfl rfl encoded _ known
    intro other json found _
    exact holds_fields (held other json found)
  · have absent : document key = none := by
      by_contra present
      obtain ⟨json, found⟩ := Option.ne_none_iff_exists'.mp present
      exact known (mem_names_of_holds (held key json found))
    rw [absent]
    apply member_eq_none
    intro json written
    exact known (Fields.mem_names_of_encode encoded written)

end AppSettings

namespace AppPatch

open AppSettings

theorem read_privateMode (value : Bool) :
    (GoType.leaf .bool).read settingLeaves
      (if value then some (.bool true) else none) = value := by
  cases value
  · rfl
  · rfl

theorem read_pointer (patched : Option Int64) (old : Option Json) :
    (GoType.pointer (.leaf .int64)).read settingLeaves
        ((patched.map fun value => some (integerJson value)).getD old) =
      patched.or ((GoType.pointer (.leaf .int64)).read settingLeaves old) := by
  cases patched with
  | none => rfl
  | some value => exact congrArg some (read_integerJson value)

/-- A patched struct is what the patched document is read as. -/
theorem reads_update (patch : AppPatch) {settings : AppSettings}
    {document : String → Option Json} (reads : settings.Reads document) :
    (patch.update settings).Reads fun key =>
      (patch.asked key).getD (document key) := by
  simp only [Reads, toValues, fields, Fields.overlay_zero, Prod.mk.injEq]
    at reads ⊢
  obtain ⟨privateMode, executorTimeoutSecs, gcRowsThreshold, gcTimeThresholdMs,
    globalTimeoutMs, latestVersion, -⟩ := reads
  refine ⟨?_, ?_, ?_, ?_, ?_, latestVersion, trivial⟩
  · show patch.privateMode.getD settings.privateMode =
      (GoType.leaf .bool).read settingLeaves
        ((patch.privateMode.map _).getD (document "privateMode"))
    cases patch.privateMode with
    | none => exact privateMode
    | some value => exact (read_privateMode value).symm
  · show patch.executorTimeoutSecs.getD settings.executorTimeoutSecs =
      (GoType.leaf .int64).read settingLeaves
        ((patch.executorTimeoutSecs.map _).getD
          (document "executorTimeoutSecs"))
    cases patch.executorTimeoutSecs with
    | none => exact executorTimeoutSecs
    | some value => exact (read_integerJson value).symm
  · show patch.gcRowsThreshold.or settings.gcRowsThreshold = _
    rw [gcRowsThreshold]
    exact (read_pointer patch.gcRowsThreshold _).symm
  · show patch.gcTimeThresholdMs.or settings.gcTimeThresholdMs = _
    rw [gcTimeThresholdMs]
    exact (read_pointer patch.gcTimeThresholdMs _).symm
  · show patch.globalTimeoutMs.or settings.globalTimeoutMs = _
    rw [globalTimeoutMs]
    exact (read_pointer patch.globalTimeoutMs _).symm

theorem executorTimeoutSecs_ne_zero {patch : AppPatch}
    (valid : patch.validate = .ok ()) : patch.executorTimeoutSecs ≠ some 0 := by
  intro zero
  unfold validate at valid
  rw [zero] at valid
  split_ifs at valid with _ _ _ positive
  exact positive rfl

/-- An integer is held, zero by the pointers only. -/
theorem holds_integerJson {key : String} {value : Int64}
    (named : key = "executorTimeoutSecs" ∧ value ≠ 0 ∨
      key ∈ ["gcRowsThreshold", "gcTimeThresholdMs", "globalTimeoutMs"]) :
    holds key (integerJson value) = true := by
  have nonzero : value ≠ 0 → value.toInt ≠ 0 := by
    intro different zero
    exact different (Int64.toInt_inj.mp zero)
  rw [integerJson, holds]
  simp only [value.minValue_le_toInt, value.toInt_le, decide_true,
    Bool.and_self, Bool.true_and, Bool.or_eq_true, Bool.and_eq_true,
    decide_eq_true_iff]
  rcases named with ⟨rfl, different⟩ | named
  · exact .inl (.inl (.inl ⟨rfl, nonzero different⟩))
  · simp only [List.mem_cons, List.not_mem_nil, or_false] at named
    rcases named with named | named | named
    · exact .inl (.inl (.inr named))
    · exact .inl (.inr named)
    · exact .inr named

/-- The struct holds what a valid patch asks for. -/
theorem holds_asked {patch : AppPatch}
    (timeout : patch.executorTimeoutSecs ≠ some 0) {key : String}
    {json : Json} (asks : patch.asked key = some (some json)) :
    holds key json = true := by
  unfold asked at asks
  split_ifs at asks with privateMode executorTimeout rows time global
  · obtain ⟨value, -, same⟩ := Option.map_eq_some_iff.mp asks
    split_ifs at same
    cases same
    rw [privateMode]
    rfl
  · obtain ⟨value, present, same⟩ := Option.map_eq_some_iff.mp asks
    cases same
    exact holds_integerJson
      (.inl ⟨executorTimeout, fun zero => timeout (zero ▸ present)⟩)
  · obtain ⟨value, -, same⟩ := Option.map_eq_some_iff.mp asks
    cases same
    exact holds_integerJson (.inr (by simp [rows]))
  · obtain ⟨value, -, same⟩ := Option.map_eq_some_iff.mp asks
    cases same
    exact holds_integerJson (.inr (by simp [time]))
  · obtain ⟨value, -, same⟩ := Option.map_eq_some_iff.mp asks
    cases same
    exact holds_integerJson (.inr (by simp [global]))

/-- A patch asks for keys of the struct only. -/
theorem mem_names_of_asked {patch : AppPatch} {key : String}
    (asks : patch.asked key ≠ none) : key ∈ fields.names := by
  contrapose! asks
  simp only [names_fields, List.mem_cons, not_or] at asks
  simp [asked, asks]

/-- What a patched struct is written as. -/
theorem lookup_marshal_update {patch : AppPatch}
    (timeout : patch.executorTimeoutSecs ≠ some 0) {settings : AppSettings}
    {document : String → Option Json} (reads : settings.Reads document)
    (held : ∀ key json, patch.asked key = none → document key = some json →
      holds key json = true)
    {written : Settings}
    (marshalled : (patch.update settings).marshal = some written)
    (key : String) :
    written.lookup key = (patch.asked key).getD (document key) := by
  refine lookup_marshal (patch.reads_update reads) ?_ marshalled key
  intro other json found
  cases asks : patch.asked other with
  | none =>
      rw [asks] at found
      exact held other json asks found
  | some value =>
      rw [asks] at found
      cases found
      exact holds_asked timeout asks

end AppPatch

/-! ## The operations on the keys -/

theorem updateApp_none (settings : Settings) :
    updateApp none settings = updateApp (some .empty) settings :=
  rfl

/--
`UpdateApp` changes the keys of its body only, if the struct holds every other
key.
-/
theorem lookup_updateApp {body : Option AppPatch} {settings written : Settings}
    (held : ∀ key json, (body.getD .empty).asked key = none →
      settings.lookup key = some json → AppSettings.holds key json = true)
    (updated : updateApp body settings = some written) (key : String) :
    written.lookup key =
      ((body.getD .empty).asked key).getD (settings.lookup key) := by
  have patched : updateApp (some (body.getD .empty)) settings =
      some written := by
    cases body with
    | none => exact updated
    | some patch => exact updated
  generalize body.getD .empty = patch at held patched ⊢
  rw [updateApp] at patched
  split at patched
  · cases patched
  · rename_i valid
    refine AppPatch.lookup_marshal_update
      (AppPatch.executorTimeoutSecs_ne_zero valid)
      (AppSettings.reads_unmarshal ?_) held patched key
    intro other json found
    by_cases asks : patch.asked other = none
    · exact AppSettings.mem_names_of_holds (held other json asks found)
    · exact AppPatch.mem_names_of_asked asks

/-- `SetLatestAppVersion` changes its key only, under the same condition. -/
theorem lookup_setLatestAppVersion {versionName : String}
    {settings written : Settings}
    (held : ∀ key json, askedVersion versionName key = none →
      settings.lookup key = some json → AppSettings.holds key json = true)
    (updated : setLatestAppVersion (some versionName) settings = some written)
    (key : String) :
    written.lookup key =
      (askedVersion versionName key).getD (settings.lookup key) := by
  have reads : (AppSettings.unmarshal settings).Reads settings.lookup := by
    apply AppSettings.reads_unmarshal
    intro other json found
    by_cases named : other = "latestVersion"
    · rw [named]
      decide
    · exact AppSettings.mem_names_of_holds
        (held other json (if_neg named) found)
  have readsVersion : AppSettings.Reads
      { AppSettings.unmarshal settings with latestVersion := some versionName }
      fun key =>
        (askedVersion versionName key).getD (settings.lookup key) := by
    simp only [AppSettings.Reads, AppSettings.toValues, AppSettings.fields,
      Fields.overlay_zero, Prod.mk.injEq] at reads ⊢
    obtain ⟨privateMode, executorTimeoutSecs, gcRowsThreshold,
      gcTimeThresholdMs, globalTimeoutMs, -, -⟩ := reads
    exact ⟨privateMode, executorTimeoutSecs, gcRowsThreshold,
      gcTimeThresholdMs, globalTimeoutMs, rfl, trivial⟩
  refine AppSettings.lookup_marshal readsVersion ?_ updated key
  intro other json found
  by_cases named : other = "latestVersion"
  · rw [askedVersion, if_pos named] at found
    cases found
    exact decide_eq_true named
  · rw [askedVersion, if_neg named] at found
    exact held other json (if_neg named) found

/-- `RegisterApp` writes its key and no other. -/
theorem lookup_registerApp {privateMode : Option Bool} {written : Settings}
    (registered : registerApp privateMode = some written) (key : String) :
    written.lookup key =
      (({ AppPatch.empty with privateMode } : AppPatch).asked key).getD
        none := by
  have reads : (AppSettings.ofValues
      (AppSettings.fields.zero settingLeaves)).Reads fun _ => none := rfl
  have marshalled : (AppPatch.update { AppPatch.empty with privateMode }
      (.ofValues (AppSettings.fields.zero settingLeaves))).marshal =
        some written := registered
  exact AppPatch.lookup_marshal_update (by nofun) reads (by nofun) marshalled
    key

theorem lookup_insertIf (settings : Settings) (condition : Prop)
    [Decidable condition] (key other : String) (json : Json) :
    (if condition then settings.insert key json else settings).lookup other =
      if other = key ∧ condition then some json
      else settings.lookup other := by
  by_cases holds : condition
  · rw [if_pos holds, lookup_insert_eq]
    simp only [holds, and_true]
  · rw [if_neg holds, if_neg fun both => holds both.2]

/--
`Apply` changes the keys of its manifest, and passes every other key through a
`map[string]any`.
-/
theorem lookup_appliedSettings (app : DeclaredApplication)
    (existing : Option Settings) (key : String) :
    (appliedSettings app existing).lookup key =
      (askedByManifest app key).getD
        ((existing.bind fun settings => settings.lookup key).map
          throughAny) := by
  have before : (match existing with
      | none => (∅ : Settings)
      | some settings => mapValues (fun _ => throughAny) settings).lookup key =
        (existing.bind fun settings => settings.lookup key).map throughAny := by
    cases existing with
    | none => rfl
    | some settings => exact lookup_mapValues _ settings key
  rw [← before]
  unfold appliedSettings
  rw [lookup_insertIf, lookup_insertIf, lookup_insertIf, askedByManifest]
  split_ifs
  · rfl
  · rfl
  · rfl
  · rfl

end DbosRelay.Applications
