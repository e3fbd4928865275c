import DbosRelay.Applications.Enforcement
import DbosRelay.Applications.Frame
import DbosRelay.Liveness.Manager

/-!
# The executor timeout, from its setting to a duration

`validateAppSettingsPatch` (`internal/api/apps.go`) and `Apply`
(`internal/declarative/declarative.go`) store every positive `executorTimeoutSecs`,
and `resolveTimeout` (`internal/liveness/manager.go`) reads it back through a
struct of its own and multiplies by a second.  The reading is exact; the product
is, up to the largest number of seconds whose nanoseconds a machine word holds.
-/

namespace DbosRelay.Applications

open DbosRelay.Basic
open DbosRelay.Declarative
open DbosRelay.Library.GoJson
open DbosRelay.Library.Tables
open DbosRelay.Liveness

/-! ## `resolveTimeout` -/

/-- The tag of its struct. -/
def timeoutFields : Fields SettingKind :=
  .cons "executorTimeoutSecs" false (.leaf .int64) .nil

/-- The decoded field, or `none` for settings which do not decode. -/
def decodeTimeoutSecs (settings : Settings) : Option Int :=
  let decoded :=
    (GoType.struct timeoutFields).decode settingLeaves
      (timeoutFields.zero settingLeaves) (.object settings.members)
  if decoded.2 then some (Int64.toInt decoded.1.1) else none

/-- `resolveTimeout` of the settings an application is stored with. -/
def storedTimeout (settings : Settings) : Duration :=
  resolveTimeout (decodeTimeoutSecs settings)

/-! ## The keys of stored settings -/

/-- The keys somebody writes. -/
def writtenKeys : List String :=
  AppSettings.fields.names ++ ["description", "stuck_sla_secs"]

/-- The settings have no other keys. -/
def Settings.Known (settings : Settings) : Prop :=
  ∀ key json, settings.lookup key = some json → key ∈ writtenKeys

/--
What a row can hold: nothing, the empty object of an application which the hub
has created, or what an operation has written over such a row, having read
another.
-/
inductive Stored : Option Settings → Prop where
  | absent : Stored none
  | created : Stored (some ∅)
  | written {operation : Operation} {read row : Option Settings}
      {settings : Settings} (fromRead : Stored read) (onRow : Stored row)
      (writes : operation.write read row = some settings) :
      Stored (some settings)

theorem Settings.known_marshal {settings : AppSettings} {written : Settings}
    (marshalled : settings.marshal = some written) : written.Known := by
  intro key json found
  obtain ⟨members, encoded, rfl⟩ := Option.map_eq_some_iff.mp marshalled
  rw [Settings.lookup_ofMembers] at found
  exact List.mem_append_left _
    (Fields.mem_names_of_encode encoded (mem_of_member found))

/-- `Apply` adds three keys to those it has read. -/
theorem Settings.known_appliedSettings {app : DeclaredApplication}
    {existing : Option Settings}
    (known : ∀ settings, existing = some settings → settings.Known) :
    (appliedSettings app existing).Known := by
  intro key json found
  rw [lookup_appliedSettings] at found
  cases asks : askedByManifest app key with
  | some asked =>
      unfold askedByManifest at asks
      split_ifs at asks with timeout sla description
      · rw [timeout.1]
        decide
      · rw [sla.1]
        decide
      · rw [description.1]
        decide
  | none =>
      rw [asks] at found
      obtain ⟨read, present, -⟩ := Option.map_eq_some_iff.mp found
      obtain ⟨settings, same, written⟩ := Option.bind_eq_some_iff.mp present
      exact known settings same key read written

/-- What an operation writes, it has made of what it has read. -/
theorem Operation.known_write {operation : Operation}
    {read row : Option Settings} {written : Settings}
    (known : ∀ settings, read = some settings → settings.Known)
    (writes : operation.write read row = some written) : written.Known := by
  cases operation with
  | updateApp body =>
      obtain ⟨settings, rfl, patched⟩ := exists_patched writes
      exact Settings.known_marshal (marshal_patched patched)
  | setLatestAppVersion body =>
      obtain ⟨settings, rfl, patched⟩ := exists_patched writes
      obtain ⟨versionName, -, marshalled⟩ := Option.bind_eq_some_iff.mp patched
      exact Settings.known_marshal marshalled
  | registerApp privateMode =>
      obtain ⟨_, registered, stored⟩ := Option.bind_eq_some_iff.mp writes
      cases stored
      exact Settings.known_marshal registered
  | apply app =>
      rw [Operation.eq_appliedSettings writes]
      exact Settings.known_appliedSettings known

theorem Stored.known {row : Option Settings} (stored : Stored row) :
    ∀ settings, row = some settings → settings.Known := by
  induction stored with
  | absent => exact nofun
  | created =>
      rintro settings ⟨⟩ key json found
      cases found
  | written fromRead onRow writes read row =>
      rintro settings ⟨⟩
      exact Operation.known_write read writes

/-! ## Reading the timeout -/

/-- Of the keys somebody writes only one is taken for the field. -/
theorem resolve_timeoutFields {key : String} (written : key ∈ writtenKeys) :
    (resolve timeoutFields.names key).isSome =
      decide (key = "executorTimeoutSecs") := by
  revert key
  decide +kernel

/-- A stored timeout is read as it was written. -/
theorem decodeTimeoutSecs_of_lookup {settings : Settings} {secs : Int64}
    (known : settings.Known)
    (stored : settings.lookup "executorTimeoutSecs" =
      some (integerJson secs)) :
    decodeTimeoutSecs settings = some secs.toInt := by
  have selected : (settings.members.filter fun entry =>
      (resolve timeoutFields.names entry.1).isSome) =
        [("executorTimeoutSecs", integerJson secs)] := by
    rw [← List.perm_singleton, List.perm_ext_iff_of_nodup
      ((settings.members_nodup.of_map).filter _) (List.nodup_singleton _)]
    rintro ⟨key, json⟩
    rw [List.mem_filter, Settings.mem_members, List.mem_singleton]
    constructor
    · rintro ⟨found, named⟩
      rw [resolve_timeoutFields (known key json found),
        decide_eq_true_iff] at named
      subst named
      rw [stored] at found
      cases found
      rfl
    · rintro ⟨⟩
      exact ⟨stored, rfl⟩
  have read : (GoType.struct timeoutFields).decode settingLeaves
      (timeoutFields.zero settingLeaves) (.object settings.members) =
        ((secs, ()), true) := by
    have leaf : (GoType.leaf .int64).decode settingLeaves
        ((GoType.leaf .int64).zero settingLeaves) (integerJson secs) =
          (secs, true) := by
      rw [GoType.decode, integerJson]
      simp only [int64Codec_decode_integer
        ⟨secs.minValue_le_toInt, secs.toInt_le⟩, Int64.ofInt_toInt]
    have field : timeoutFields.decodeField settingLeaves
        "executorTimeoutSecs" (integerJson secs)
          (timeoutFields.zero settingLeaves) = ((secs, ()), true) := by
      refine (Fields.decodeField_self _ _ _).trans ?_
      rw [leaf]
    have named : "executorTimeoutSecs" ∈ timeoutFields.names :=
      List.mem_cons_self ..
    rw [GoType.decode, ← decodeMembers_filter, selected]
    refine (decodeMembers_cons named _ _ _).trans ?_
    rw [field]
    rfl
  rw [decodeTimeoutSecs, read]
  rfl

/-! ## Settings which have been accepted and stored -/

/-- A timeout has been accepted and stored, by the API or by a manifest. -/
inductive StoresTimeout (secs : Int64) : Settings → Prop where
  | api {patch : AppPatch} {read written : Settings}
      (asked : patch.executorTimeoutSecs = some secs)
      (updated : updateApp (some patch) read = some written) :
      StoresTimeout secs written
  | manifest {app : DeclaredApplication} {row : Option Settings}
      (declared : app.executorTimeoutSecs = secs) (positive : 0 < secs)
      (stored : Stored row) :
      StoresTimeout secs (appliedSettings app row)

theorem AppPatch.executorTimeoutSecs_pos {patch : AppPatch} {secs : Int64}
    (asked : patch.executorTimeoutSecs = some secs)
    (valid : patch.validate = .ok ()) : 0 < secs := by
  unfold validate at valid
  rw [asked] at valid
  split_ifs at valid with _ _ _ notPositive
  rw [Option.any_some, decide_eq_true_iff] at notPositive
  exact Int64.not_le.mp notPositive

/-- The member written for a timeout which is not zero. -/
theorem lookup_marshal_executorTimeoutSecs {settings : AppSettings}
    {written : Settings} (marshalled : settings.marshal = some written)
    (nonzero : settings.executorTimeoutSecs ≠ 0) :
    written.lookup "executorTimeoutSecs" =
      some (integerJson settings.executorTimeoutSecs) := by
  obtain ⟨members, encoded, rfl⟩ := Option.map_eq_some_iff.mp marshalled
  rw [Settings.lookup_ofMembers]
  obtain ⟨others, restEncoded, elsewhere⟩ :=
    Fields.member_encode_of_ne encoded
  rw [elsewhere _ (by decide), Fields.member_encode_self (by decide) restEncoded,
    if_neg]
  · rfl
  · exact fun empty => nonzero (of_decide_eq_true empty)

namespace StoresTimeout

variable {secs : Int64} {settings : Settings}

theorem positive (stores : StoresTimeout secs settings) : 0 < secs := by
  cases stores with
  | manifest declared positive stored => exact positive
  | @api patch read written asked updated =>
      rw [updateApp] at updated
      split at updated
      · cases updated
      · rename_i valid
        exact AppPatch.executorTimeoutSecs_pos asked valid

theorem known (stores : StoresTimeout secs settings) : settings.Known := by
  cases stores with
  | manifest declared positive stored =>
      exact Settings.known_appliedSettings stored.known
  | api asked updated =>
      exact Settings.known_marshal (marshal_patched updated)

theorem lookup (stores : StoresTimeout secs settings) :
    settings.lookup "executorTimeoutSecs" = some (integerJson secs) := by
  have positive := stores.positive
  cases stores with
  | @manifest app row declared _ stored =>
      have asked : askedByManifest app "executorTimeoutSecs" =
          some (some (integerJson secs)) := by
        rw [askedByManifest, declared, if_pos ⟨rfl, positive⟩]
      rw [lookup_appliedSettings, asked]
      rfl
  | @api patch read written asked updated =>
      have given : (patched (some patch) read).executorTimeoutSecs = secs := by
        show patch.executorTimeoutSecs.getD _ = secs
        rw [asked]
        rfl
      have nonzero : (patched (some patch) read).executorTimeoutSecs ≠ 0 := by
        rw [given]
        exact (Int64.ne_of_lt positive).symm
      rw [lookup_marshal_executorTimeoutSecs (marshal_patched updated) nonzero,
        given]

/-- A stored timeout is its number of seconds, in 64 bits. -/
theorem storedTimeout_eq (stores : StoresTimeout secs settings) :
    storedTimeout settings = int64 (secs.toInt * second) := by
  have positive : 0 < secs.toInt := Int64.lt_iff_toInt_lt.mp stores.positive
  rw [storedTimeout, decodeTimeoutSecs_of_lookup stores.known stores.lookup]
  exact if_neg (not_le.mpr positive)

end StoresTimeout

/-- The timeout lasts as long as it says, and longer than smaller ones. -/
structure TimeoutKept (secs : Int64) (settings : Settings) : Prop where
  exact : storedTimeout settings = secs.toInt * second
  positive : 0 < storedTimeout settings
  monotone : ∀ {smaller others}, StoresTimeout smaller others →
    smaller ≤ secs → storedTimeout others ≤ storedTimeout settings

/-- The product fits a machine word up to 292 years. -/
theorem int64_mul_second_iff {secs : Int} (positive : 0 < secs) :
    int64 (secs * second) = secs * second ↔ secs ≤ 9223372036 := by
  rw [int64_eq_self_iff]
  unfold minInt64 maxInt64 second
  omega

/--
A timeout which has been accepted and stored is kept exactly if its nanoseconds
fit a machine word.
-/
theorem timeoutKept_iff {secs : Int64} {settings : Settings}
    (stores : StoresTimeout secs settings) :
    TimeoutKept secs settings ↔ secs.toInt ≤ 9223372036 := by
  have positive : ∀ {secs : Int64}, 0 < secs → 0 < secs.toInt :=
    Int64.lt_iff_toInt_lt.mp
  rw [← int64_mul_second_iff (positive stores.positive)]
  constructor
  · intro kept
    rw [← stores.storedTimeout_eq]
    exact kept.exact
  · intro fits
    have exact : storedTimeout settings = secs.toInt * second :=
      stores.storedTimeout_eq.trans fits
    have limit := (int64_mul_second_iff (positive stores.positive)).mp fits
    constructor
    · exact exact
    · rw [exact]
      exact Int.mul_pos (positive stores.positive) (by decide)
    · intro smaller others storesSmaller below
      have fewer : smaller.toInt ≤ secs.toInt := Int64.le_iff_toInt_le.mp below
      rw [exact, storesSmaller.storedTimeout_eq,
        (int64_mul_second_iff (positive storesSmaller.positive)).mpr
          (fewer.trans limit)]
      exact Int.mul_le_mul_of_nonneg_right fewer (by decide)

/-- A timeout is set through the API. -/
def executorTimeoutPatch (secs : Int64) : AppPatch :=
  { AppPatch.empty with executorTimeoutSecs := some secs }

theorem timeoutKept_executorTimeoutPatch :
    ∃ written, updateApp (some (executorTimeoutPatch 90)) ∅ = some written ∧
      TimeoutKept 90 written := by
  obtain ⟨written, updated⟩ := updateApp_isSome (executorTimeoutPatch 90) ∅ rfl
  refine ⟨written, updated, ?_⟩
  exact (timeoutKept_iff (.api rfl updated)).mpr (by decide)

/-- A timeout of 293 years is accepted and stored, and comes out as negative. -/
theorem executorTimeout_wraps :
    ∃ written,
      updateApp (some (executorTimeoutPatch 9223372037)) ∅ = some written ∧
        storedTimeout written = -9223372036709551616 ∧
          ¬TimeoutKept 9223372037 written := by
  obtain ⟨written, updated⟩ :=
    updateApp_isSome (executorTimeoutPatch 9223372037) ∅ rfl
  have stores : StoresTimeout 9223372037 written := .api rfl updated
  have wrapped : storedTimeout written = -9223372036709551616 :=
    stores.storedTimeout_eq.trans (by decide)
  refine ⟨written, updated, wrapped, fun kept => ?_⟩
  have positive := kept.positive
  rw [wrapped] at positive
  exact absurd positive (by decide)

end DbosRelay.Applications
