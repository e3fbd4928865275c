import DbosRelay.Applications.Settings
import DbosRelay.DataPlane.Retention

/-!
# From settings to retention

`validateAppSettingsPatch` and `UpdateApp` of `internal/api/apps.go`,
`BuildRetentionRequest` of `internal/store/retention.go` and `enforceRetention` of
`internal/dataplane/client.go` were written apart.  Both builders make the same
request of the same settings, and the data plane does what the settings say
exactly if the rows threshold is not a zero, which the validator lets through and
the data plane refuses together with the global timeout.
-/

namespace DbosRelay.Applications

open DbosRelay.Basic
open DbosRelay.DataPlane
open DbosRelay.DataPlane.Retention
open DbosRelay.Library.GoJson
open DbosRelay.Library.Tables

/-! ## The settings, written and read back -/

namespace AppSettings

/-- `Unmarshal` into a fresh struct, or its error. -/
def unmarshalStrict (settings : Settings) : Option AppSettings :=
  let decoded :=
    (GoType.struct fields).decode settingLeaves (fields.zero settingLeaves)
      (.object settings.members)
  if decoded.2 then some (.ofValues decoded.1) else none

theorem roundTrip_settingLeaves : settingLeaves.RoundTrip := by
  intro kind
  cases kind with
  | bool => exact boolCodec_roundTrip
  | int64 => exact int64Codec_roundTrip
  | string => exact stringCodec_roundTrip

/-- No field of the struct is read back as something else. -/
theorem canonical_toValues (settings : AppSettings) :
    fields.canonical settingLeaves settings.toValues = settings.toValues := by
  have pointer : ∀ (kind : SettingKind) (value : Option kind.Value),
      (if (true && (GoType.pointer (.leaf kind)).isEmpty settingLeaves
          value) = true then
        (GoType.pointer (.leaf kind)).zero settingLeaves
      else (GoType.pointer (.leaf kind)).canonical settingLeaves value) =
        value := by
    intro kind value
    cases value with
    | none => rfl
    | some value => cases kind <;> rfl
  obtain ⟨privateMode, executorTimeoutSecs, rows, time, timeout, version⟩ :=
    settings
  have mode : (if (true && (GoType.leaf .bool).isEmpty settingLeaves
        privateMode) = true then false else privateMode) = privateMode := by
    cases privateMode <;> rfl
  have seconds : (if (true && (GoType.leaf .int64).isEmpty settingLeaves
        executorTimeoutSecs) = true then 0 else executorTimeoutSecs) =
      executorTimeoutSecs := by
    split_ifs with zero
    · exact (of_decide_eq_true zero).symm
    · rfl
  simp only [fields, toValues, Fields.canonical, Prod.mk.injEq]
  exact ⟨mode, seconds, pointer .int64 rows, pointer .int64 time,
    pointer .int64 timeout, pointer .string version, trivial⟩

/-- The order of the members in the column. -/
theorem perm_members_ofMembers {entries : List (String × Json)}
    (distinct : (entries.map Prod.fst).Nodup) :
    (Settings.ofMembers entries).members.Perm entries := by
  rw [List.perm_ext_iff_of_nodup
    (Settings.members_nodup _).of_map distinct.of_map]
  rintro ⟨key, json⟩
  rw [Settings.mem_members, Settings.lookup_ofMembers]
  exact ⟨mem_of_member, member_of_mem distinct⟩

/-- Settings which have been written are read without an error. -/
theorem unmarshalStrict_marshal {settings : AppSettings} {written : Settings}
    (marshalled : settings.marshal = some written) :
    unmarshalStrict written = some settings := by
  obtain ⟨entries, encoded, rfl⟩ := Option.map_eq_some_iff.mp marshalled
  have wellFormed : fields.wellFormed = true := rfl
  have distinct := Fields.nodup_encode wellFormed encoded
  have perm := perm_members_ofMembers distinct
  obtain ⟨members, same, decoded⟩ :=
    Fields.decode_encode roundTrip_settingLeaves fields wellFormed
      settings.toValues fields.names fun _ known => known
  rw [encoded] at same
  cases same
  have known : ∀ entry ∈ (Settings.ofMembers entries).members,
      entry.1 ∈ fields.names := by
    rintro ⟨key, json⟩ member
    exact Fields.mem_names_of_encode encoded (perm.mem_iff.mp member)
  have read : (GoType.struct fields).decode settingLeaves
      (fields.zero settingLeaves)
      (.object (Settings.ofMembers entries).members) =
        (settings.toValues, true) := by
    rw [GoType.decode, decodeMembers_perm perm
      (Settings.members_nodup _) known, decoded, canonical_toValues]
  rw [unmarshalStrict, read]
  rfl

/-- Some retention policy is configured. -/
def hasPolicy (settings : AppSettings) : Bool :=
  settings.gcRowsThreshold.isSome || settings.gcTimeThresholdMs.isSome ||
    settings.globalTimeoutMs.isSome

end AppSettings

/-! ## The two builders -/

/-- The settings `UpdateApp` goes on with. -/
def patched (body : Option AppPatch) (stored : Settings) : AppSettings :=
  match body with
  | none => .unmarshal stored
  | some patch => patch.update (.unmarshal stored)

/-- `nowMs` minus a threshold, in 64 bits. -/
def cutoffEpochMs (nowMs threshold : Int64) : Int :=
  int64 (nowMs.toInt - threshold.toInt)

/-- The body of the request, built alike in both places. -/
def retentionBody (nowMs : Int64) (settings : AppSettings) :
    RetentionRequestBody where
  gcCutoffEpochMs := settings.gcTimeThresholdMs.map (cutoffEpochMs nowMs)
  gcRowsThreshold := settings.gcRowsThreshold.map Int64.toInt
  gcBatchSize :=
    if settings.gcRowsThreshold.isSome || settings.gcTimeThresholdMs.isSome then
      some 1000
    else none
  timeoutCutoffEpochMs := settings.globalTimeoutMs.map (cutoffEpochMs nowMs)

/-- The request `UpdateApp` dispatches. -/
def updateAppRetention (nowMs : Int64) (settings : AppSettings) :
    Option RetentionRequestBody :=
  if settings.hasPolicy then some (retentionBody nowMs settings) else none

/-- `BuildRetentionRequest`; the column may be empty. -/
def buildRetentionRequest (nowMs : Int64) (settingsBytes : Option Settings) :
    Option RetentionRequestBody :=
  match settingsBytes.bind AppSettings.unmarshalStrict with
  | none => none
  | some settings =>
      if settings.hasPolicy then some (retentionBody nowMs settings) else none

/-- What `UpdateApp` writes is what it goes on with. -/
theorem marshal_patched {body : Option AppPatch} {stored written : Settings}
    (updated : updateApp body stored = some written) :
    (patched body stored).marshal = some written := by
  cases body with
  | none => exact updated
  | some patch =>
      rw [updateApp] at updated
      split at updated
      · cases updated
      · exact updated

/-- A patch which is accepted is written. -/
theorem updateApp_isSome (patch : AppPatch) (stored : Settings)
    (valid : patch.validate = .ok ()) :
    ∃ written, updateApp (some patch) stored = some written := by
  obtain ⟨members, encoded, -⟩ :=
    Fields.decode_encode AppSettings.roundTrip_settingLeaves AppSettings.fields
      rfl (patch.update (.unmarshal stored)).toValues AppSettings.fields.names
      fun _ known => known
  refine ⟨.ofMembers members, ?_⟩
  simp only [updateApp, valid, AppSettings.marshal, encoded, Option.map_some]

/-- Both builders make the same request of what has been written. -/
theorem buildRetentionRequest_written {body : Option AppPatch}
    {stored written : Settings} (nowMs : Int64)
    (updated : updateApp body stored = some written) :
    buildRetentionRequest nowMs (some written) =
      updateAppRetention nowMs (patched body stored) := by
  have read := AppSettings.unmarshalStrict_marshal (marshal_patched updated)
  simp only [buildRetentionRequest, Option.bind_some, read]
  rfl

/-! ## What the data plane makes of the request -/

/-- The data plane does what the settings say at a time. -/
structure Enforces (nowMs : Int64) (settings : AppSettings)
    (body : RetentionRequestBody) : Prop where
  accepted : ∀ {client}, Faithful client → ∀ {workflows},
    InMilliseconds workflows → ∃ enough, ∀ fuel, enough ≤ fuel → ∃ after,
      enforceRetention client body fuel workflows = some (.ok (), after) ∧
        Enforced body workflows after.lookup
  gcCutoff : body.gcCutoffEpochMs =
    settings.gcTimeThresholdMs.map fun threshold =>
      nowMs.toInt - threshold.toInt
  timeoutCutoff : body.timeoutCutoffEpochMs =
    settings.globalTimeoutMs.map fun timeout => nowMs.toInt - timeout.toInt
  timesOut : ∀ {timeout}, settings.globalTimeoutMs = some timeout →
    ∀ {client}, Faithful client → ∀ {workflows}, InMilliseconds workflows →
      ∀ {id workflow}, workflows.lookup id = some workflow →
        workflow.status = .pending ∨ workflow.status = .enqueued →
          workflow.createdAt ≤ unixMilli (nowMs.toInt - timeout.toInt) →
            ∃ enough, ∀ fuel, enough ≤ fuel → ∃ answer after,
              enforceRetention client body fuel workflows =
                  some (answer, after) ∧
                after.lookup id = some { workflow with status := .cancelled }

/-- An integer a machine word holds. -/
def FitsInt64 (value : Int) : Prop :=
  minInt64 ≤ value ∧ value ≤ maxInt64

/--
The rows threshold is positive, if there is one, and the cutoffs can be computed.
-/
structure Enforceable (nowMs : Int64) (settings : AppSettings) : Prop where
  rows : ∀ {threshold}, settings.gcRowsThreshold = some threshold →
    0 < threshold.toInt
  time : ∀ {threshold}, settings.gcTimeThresholdMs = some threshold →
    FitsInt64 (nowMs.toInt - threshold.toInt)
  timeout : ∀ {timeout}, settings.globalTimeoutMs = some timeout →
    FitsInt64 (nowMs.toInt - timeout.toInt)

/-- A cutoff is exact if it can be computed. -/
theorem map_cutoffEpochMs_iff (nowMs : Int64) (threshold : Option Int64) :
    (threshold.map (cutoffEpochMs nowMs) =
        threshold.map fun threshold => nowMs.toInt - threshold.toInt) ↔
      ∀ {value}, threshold = some value →
        FitsInt64 (nowMs.toInt - value.toInt) := by
  cases threshold with
  | none => exact iff_of_true rfl nofun
  | some value =>
      rw [Option.map_some, Option.map_some, Option.some.injEq, cutoffEpochMs,
        int64_eq_self_iff]
      constructor
      · rintro fits value ⟨⟩
        exact fits
      · exact fun fits => fits rfl

/-- A request with a positive threshold, or none, is accepted and enforced. -/
theorem accepted_retentionBody {nowMs : Int64} {settings : AppSettings}
    (rows : ∀ {threshold}, settings.gcRowsThreshold = some threshold →
      0 < threshold.toInt)
    {client : WorkflowClient} (faithful : Faithful client)
    {workflows : Workflows} (whole : InMilliseconds workflows) :
    ∃ enough, ∀ fuel, enough ≤ fuel → ∃ after,
      enforceRetention client (retentionBody nowMs settings) fuel workflows =
          some (.ok (), after) ∧
        Enforced (retentionBody nowMs settings) workflows after.lookup := by
  have positive : ∀ threshold,
      (retentionBody nowMs settings).gcRowsThreshold = some threshold →
        0 < threshold := by
    intro threshold given
    obtain ⟨value, present, rfl⟩ := Option.map_eq_some_iff.mp given
    exact rows present
  have notNegative : ∀ size,
      (retentionBody nowMs settings).gcBatchSize = some size → 0 ≤ size := by
    intro size given
    simp only [retentionBody] at given
    split_ifs at given
    cases given
    decide
  obtain ⟨result, enforced, -, batches⟩ := enforceRetention_enforced faithful
    (retentionBody nowMs settings) whole
  obtain ⟨enough, answers⟩ := batches _ notNegative
  refine ⟨enough, fun fuel large => ?_⟩
  obtain ⟨answer, after, done, ok, lookup⟩ := answers fuel large
  rw [ok.mpr positive] at done
  have same : after.lookup = result := funext lookup
  exact ⟨after, done, same ▸ enforced positive⟩

/-- A threshold which is not positive is refused by every client. -/
theorem rows_of_accepted {nowMs : Int64} {settings : AppSettings}
    (accepted : ∃ enough, ∀ fuel, enough ≤ fuel → ∃ after,
      enforceRetention stableClient (retentionBody nowMs settings) fuel ∅ =
          some (.ok (), after))
    {threshold : Int64} (given : settings.gcRowsThreshold = some threshold) :
    0 < threshold.toInt := by
  by_contra notPositive
  obtain ⟨enough, answers⟩ := accepted
  obtain ⟨after, done⟩ := answers enough (le_refl enough)
  have threshold : (retentionBody nowMs settings).gcRowsThreshold =
      some threshold.toInt := by
    rw [retentionBody, given]
    rfl
  obtain ⟨error, refused⟩ := enforceRetention_refused stableClient _ threshold
    (not_lt.mp notPositive) enough ∅
  rw [done] at refused
  cases refused

theorem inMilliseconds_empty : InMilliseconds ∅ := by
  intro id workflow present
  cases present

/-- Without a policy there is nothing to enforce. -/
theorem enforceable_of_not_hasPolicy (nowMs : Int64) {settings : AppSettings}
    (none : ¬settings.hasPolicy = true) : Enforceable nowMs settings := by
  simp only [AppSettings.hasPolicy, Bool.or_eq_true, not_or,
    Option.not_isSome_iff_eq_none] at none
  obtain ⟨⟨rows, time⟩, timeout⟩ := none
  constructor
  · rw [rows]
    exact nofun
  · rw [time]
    exact nofun
  · rw [timeout]
    exact nofun

/-- The cutoffs can be computed of thresholds which are not negative. -/
theorem enforceable_of_nonneg {nowMs : Int64} (sinceEpoch : 0 ≤ nowMs.toInt)
    {settings : AppSettings}
    (rows : ∀ {threshold}, settings.gcRowsThreshold = some threshold →
      0 < threshold.toInt)
    (time : ∀ {threshold}, settings.gcTimeThresholdMs = some threshold →
      0 ≤ threshold.toInt)
    (timeout : ∀ {timeout}, settings.globalTimeoutMs = some timeout →
      0 ≤ timeout.toInt) : Enforceable nowMs settings := by
  have fits : ∀ {threshold : Int64}, 0 ≤ threshold.toInt →
      FitsInt64 (nowMs.toInt - threshold.toInt) := by
    intro threshold notNegative
    have now := nowMs.toInt_lt
    have bound := threshold.toInt_lt
    unfold FitsInt64 minInt64 maxInt64
    omega
  exact ⟨rows, fun given => fits (time given),
    fun given => fits (timeout given)⟩

/-- What the builders' request does, exactly. -/
theorem enforces_retentionBody_iff (nowMs : Int64) (settings : AppSettings) :
    Enforces nowMs settings (retentionBody nowMs settings) ↔
      Enforceable nowMs settings := by
  constructor
  · intro enforces
    refine ⟨?_, (map_cutoffEpochMs_iff nowMs _).mp enforces.gcCutoff,
      (map_cutoffEpochMs_iff nowMs _).mp enforces.timeoutCutoff⟩
    apply rows_of_accepted
    obtain ⟨enough, answers⟩ :=
      enforces.accepted faithful_stableClient inMilliseconds_empty
    refine ⟨enough, fun fuel large => ?_⟩
    obtain ⟨after, done, -⟩ := answers fuel large
    exact ⟨after, done⟩
  · intro enforceable
    have timeoutCutoff := (map_cutoffEpochMs_iff nowMs _).mpr enforceable.timeout
    constructor
    · exact accepted_retentionBody enforceable.rows
    · exact (map_cutoffEpochMs_iff nowMs _).mpr enforceable.time
    · exact timeoutCutoff
    · intro timeout configured client faithful workflows whole id workflow
        present active late
      obtain ⟨enough, answers⟩ :=
        accepted_retentionBody enforceable.rows faithful whole
      refine ⟨enough, fun fuel large => ?_⟩
      obtain ⟨after, done, enforced⟩ := answers fuel large
      have given : (retentionBody nowMs settings).timeoutCutoffEpochMs =
          some (nowMs.toInt - timeout.toInt) := by
        show settings.globalTimeoutMs.map _ = _
        rw [timeoutCutoff, configured]
        rfl
      exact ⟨.ok (), after, done,
        enforced.cancels present ⟨active, _, given, late⟩⟩

/-! ## Accepted settings -/

/-- Whatever is configured is requested by both builders, and enforced. -/
def SettingsEnforced (nowMs : Int64) (settings : AppSettings)
    (written : Settings) : Prop :=
  settings.hasPolicy = true →
    ∀ built ∈ [updateAppRetention nowMs settings,
        buildRetentionRequest nowMs (some written)],
      ∃ request, built = some request ∧ Enforces nowMs settings request

/--
What `UpdateApp` has accepted and written is enforced exactly if the resulting
rows threshold is positive and the cutoffs can be computed.
-/
theorem settingsEnforced_iff (body : Option AppPatch)
    {stored written : Settings} (nowMs : Int64)
    (updated : updateApp body stored = some written) :
    SettingsEnforced nowMs (patched body stored) written ↔
      Enforceable nowMs (patched body stored) := by
  rw [← enforces_retentionBody_iff, SettingsEnforced,
    buildRetentionRequest_written nowMs updated]
  by_cases policy : (patched body stored).hasPolicy = true
  · rw [updateAppRetention, if_pos policy]
    constructor
    · intro enforced
      obtain ⟨request, built, enforces⟩ :=
        enforced policy _ (List.mem_cons_self ..)
      cases built
      exact enforces
    · intro enforces _ built member
      simp only [List.mem_cons, List.not_mem_nil, or_false, or_self] at member
      exact ⟨_, member, enforces⟩
  · rw [enforces_retentionBody_iff]
    exact iff_of_true (fun configured => absurd configured policy)
      (enforceable_of_not_hasPolicy nowMs policy)

/-- An application times out after a minute and keeps so many rows. -/
def timeoutPatch (rows : Int64) : AppPatch :=
  { AppPatch.empty with
    gcRowsThreshold := some rows
    globalTimeoutMs := some 60000 }

theorem settingsEnforced_timeoutPatch :
    ∃ written, updateApp (some (timeoutPatch 100)) ∅ = some written ∧
      SettingsEnforced 1700000000000 (patched (some (timeoutPatch 100)) ∅)
        written := by
  obtain ⟨written, updated⟩ := updateApp_isSome (timeoutPatch 100) ∅ rfl
  refine ⟨written, updated, ?_⟩
  apply (settingsEnforced_iff _ _ updated).mpr
  apply enforceable_of_nonneg (by decide)
  · rintro threshold ⟨⟩
    decide
  · exact nofun
  · rintro timeout ⟨⟩
    decide

/-- A rows threshold of zero is accepted, and then nothing times out. -/
theorem zeroRows_notEnforced :
    (timeoutPatch 0).validate = .ok () ∧
      (∀ client fuel workflows, ∃ error,
        enforceRetention client
            (retentionBody 1700000000000 (patched (some (timeoutPatch 0)) ∅))
            fuel workflows = some (.error error, workflows)) ∧
      ∃ written, updateApp (some (timeoutPatch 0)) ∅ = some written ∧
        ¬SettingsEnforced 1700000000000 (patched (some (timeoutPatch 0)) ∅)
          written := by
  obtain ⟨written, updated⟩ := updateApp_isSome (timeoutPatch 0) ∅ rfl
  refine ⟨rfl, fun client fuel workflows => ?_, written, updated, ?_⟩
  · exact enforceRetention_refused client _ rfl (by decide) fuel workflows
  · intro enforced
    obtain ⟨request, built, enforces⟩ :=
      enforced rfl _ (List.mem_cons_self ..)
    cases built
    have enforceable :=
      (enforces_retentionBody_iff 1700000000000 _).mp enforces
    have positive : (0 : Int) < (0 : Int64).toInt := enforceable.rows rfl
    exact absurd positive (by decide)

end DbosRelay.Applications
