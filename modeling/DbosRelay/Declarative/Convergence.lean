import DbosRelay.Declarative.Plans
import DbosRelay.Library.Floats
import Mathlib.Data.List.Find

/-!
# Whether `Apply` converges

After `Apply` a second one changes nothing: every application is there, and its
settings, which have come through a `map[string]any` once, come through it again
as they are; every rule is found, and so is a key.

But what is found was not brought in line with the manifest.  A rule is stored as
the manifest has it exactly if it was so before, or if nothing was found for it and
the first rule of the manifest with its application, type and receiving application
has the same interval and metadata.
-/

namespace DbosRelay.Declarative

open DbosRelay.Applications
open DbosRelay.Basic
open DbosRelay.Library.GoJson
open DbosRelay.Library.Reconciliation
open DbosRelay.Library.Results
open DbosRelay.Library.Tables

/-! ## Convergence -/

/-- The metadata of the manifest, its secrets resolved. -/
def DeclaredRule.resolvedMetadata (rule : DeclaredRule)
    (surroundings : Surroundings) : Option Json :=
  match resolveDestinations surroundings rule.ruleType rule.metadata with
  | .error _ => none
  | .ok metadata => metadataDocument metadata

/-- The rule is stored as the manifest has it. -/
def Database.Holds (database : Database) (surroundings : Surroundings)
    (organisation : String) (rule : DeclaredRule) : Prop :=
  ∃ row ∈ database.rules,
    database.IsFor organisation rule.toAlertRule row ∧
      row.minIntervalSecs = rule.minInterval ∧
        rule.resolvedMetadata surroundings = some row.metadata

/-- The columns of an application; settings are the same if their members are. -/
def ApplicationRecord.columns (record : ApplicationRecord) :
    UUID × (String → Option Json) :=
  (record.id, record.settings.lookup)

/-- Nothing has changed. -/
structure Database.Same (before after : Database) : Prop where
  organisations : after.organisations = before.organisations
  applications : ∀ key,
    (after.applications.lookup key).map ApplicationRecord.columns =
      (before.applications.lookup key).map ApplicationRecord.columns
  rules : after.rules = before.rules
  keys : after.keys = before.keys

/-- Every rule is stored, and to apply the manifest again changes nothing. -/
def Config.Converged (config : Config) (engine : Engine)
    (surroundings : Surroundings) (store : Store) : Prop :=
  (∀ rule ∈ config.alertRules,
    store.database.Holds surroundings config.organisation rule) ∧
  ∀ surroundings draws, ∃ plan again,
    store.apply engine surroundings draws config = .ok (plan, again) ∧
      store.database.Same again.database

/--
The rule was stored before; or none of its kind was, and the first one of its kind
in the manifest is stored with the same interval and metadata.
-/
def Config.Settles (config : Config) (engine : Engine)
    (surroundings : Surroundings) (database : Database)
    (rule : DeclaredRule) : Prop :=
  database.Holds surroundings config.organisation rule ∨
  ¬database.Stores config.organisation rule.toAlertRule ∧
    ∃ first metadata,
      config.alertRules.find? (fun other => other.names = rule.names) =
          some first ∧
        first.minInterval = rule.minInterval ∧
          first.storedMetadata engine surroundings = .ok metadata ∧
            rule.resolvedMetadata surroundings = some metadata

/-! ## The rules after the run -/

variable {engine : Engine} {surroundings : Surroundings} {draws : Draws}
variable {database after : Database} {config : Config} {plan : Plan}

namespace Outcome

variable (outcome : Outcome engine surroundings draws database config plan after)

/-- A row of the result is for the rules it is found for. -/
theorem after_isFor_iff (valid : config.manifest.Valid) {rule : DeclaredRule}
    (member : rule ∈ config.alertRules) {row : RuleRow} :
    after.IsFor config.organisation rule.toAlertRule row ↔
      row.key = outcome.key rule := by
  obtain ⟨⟨app, isApp, _⟩, ⟨receiving, isReceiver, _⟩, _⟩ :=
    outcome.known valid rule member
  have organisation : after.organisations.lookup config.organisation =
      some outcome.organisationID := by
    rw [outcome.after_organisations]
    exact outcome.lookup_organisation
  have applications : ∀ name, after.applications.lookup
      (outcome.organisationID, name) = outcome.between.appMap.lookup name := by
    intro name
    rw [outcome.after_applications]
    exact (outcome.cached name).symm
  simp only [Database.IsFor, key, RuleRow.key, AlertRule.key, isApp,
    isReceiver, Option.map_some, Prod.mk.injEq, Option.some_inj]
  constructor
  · rintro ⟨id, one, other, isID, isOne, isOther, ofApp, receives, ofType⟩
    rw [organisation] at isID
    cases isID
    rw [applications, isApp] at isOne
    rw [applications, isReceiver] at isOther
    cases isOne
    cases isOther
    exact ⟨ofApp, ofType, receives⟩
  · rintro ⟨ofApp, ofType, receives⟩
    exact ⟨_, app, receiving, organisation, (applications _).trans isApp,
      (applications _).trans isReceiver, ofApp, receives, ofType⟩

/-- The new rows are those of the missing rules. -/
theorem mem_rows_iff {row : RuleRow} :
    row ∈ outcome.rows ↔
      ∃ first ∈ missing outcome.key (database.rules.map RuleRow.key)
          config.alertRules,
        makeRow engine surroundings outcome.between.appMap first =
          .ok row := by
  have made := outcome.made
  rw [outcome.opened_rules] at made
  exact mem_mapM_iff made

/-- The first rule of a kind is the same by names and by identifiers. -/
theorem find_eq (sound : database.Sound) (valid : config.manifest.Valid)
    {rule : DeclaredRule} (member : rule ∈ config.alertRules) :
    config.alertRules.find? (fun other => outcome.key other =
        outcome.key rule) =
      config.alertRules.find? fun other => other.names = rule.names := by
  apply List.find?_congr
  intro other isOther
  rw [decide_eq_decide]
  exact outcome.key_eq_iff sound valid isOther member

include outcome in
/-- What `Apply` leaves for a rule is decided by the store before it. -/
theorem holds_iff (sound : database.Sound) (valid : config.manifest.Valid)
    {rule : DeclaredRule} (member : rule ∈ config.alertRules) :
    after.Holds surroundings config.organisation rule ↔
      config.Settles engine surroundings database rule := by
  simp only [Database.Holds, outcome.after_isFor_iff valid member,
    outcome.after_rules, List.mem_append]
  constructor
  · rintro ⟨row, stored | isNew, found, interval, metadata⟩
    · left
      exact ⟨row, stored,
        (outcome.key_eq_iff_isFor sound valid member stored).mp found,
        interval, metadata⟩
    · right
      obtain ⟨first, isFirst, made⟩ := outcome.mem_rows_iff.mp isNew
      obtain ⟨isMissing, isFound⟩ := mem_missing.mp isFirst
      have isDeclared := List.mem_of_find?_eq_some isFound
      have sameKey : outcome.key first = outcome.key rule :=
        (key_of_makeRow (outcome.known valid first isDeclared) made).symm.trans
          found
      obtain ⟨document, isDocument, rfl⟩ := map_ok_iff.mp made
      rw [sameKey] at isMissing isFound
      rw [outcome.key_mem_iff sound valid member] at isMissing
      rw [outcome.find_eq sound valid member] at isFound
      exact ⟨isMissing, first, document, isFound, interval, isDocument,
        metadata⟩
  · rintro (⟨row, stored, isFor, interval, metadata⟩ |
      ⟨isMissing, first, document, isFound, interval, isDocument, metadata⟩)
    · exact ⟨row, .inl stored,
        (outcome.key_eq_iff_isFor sound valid member stored).mpr isFor,
        interval, metadata⟩
    · have isDeclared := List.mem_of_find?_eq_some isFound
      have sameNames : first.names = rule.names := by
        simpa using List.find?_some isFound
      have sameKey : outcome.key first = outcome.key rule :=
        (outcome.key_eq_iff sound valid isDeclared member).mpr sameNames
      have made : ∃ row, makeRow engine surroundings outcome.between.appMap
          first = .ok row ∧ row.minIntervalSecs = first.minInterval ∧
            row.metadata = document :=
        ⟨_, map_ok_iff.mpr ⟨document, isDocument, rfl⟩, rfl, rfl⟩
      obtain ⟨row, isRow, rowInterval, rowMetadata⟩ := made
      refine ⟨row, .inr (outcome.mem_rows_iff.mpr ⟨first, ?_, isRow⟩), ?_,
        rowInterval.trans interval, metadata.trans (rowMetadata ▸ rfl)⟩
      · rw [mem_missing, sameKey, outcome.key_mem_iff sound valid member,
          outcome.find_eq sound valid member]
        exact ⟨isMissing, isFound⟩
      · exact (key_of_makeRow (outcome.known valid first isDeclared)
          isRow).trans sameKey

end Outcome

/-! ## The second application -/

/-- Settings that have been applied once stay as they are. -/
theorem lookup_appliedSettings_twice (app : DeclaredApplication)
    (existing : Option Settings) (key : String) :
    (appliedSettings app (some (appliedSettings app existing))).lookup key =
      (appliedSettings app existing).lookup key := by
  rw [lookup_appliedSettings, Option.bind_some, lookup_appliedSettings]
  cases askedByManifest app key with
  | some value => rfl
  | none =>
      cases existing.bind fun settings => settings.lookup key with
      | none => rfl
      | some json => exact congrArg some (throughAny_throughAny json)

theorem areTextMembers_iff {members : List (String × Json)} :
    areTextMembers members = true ↔
      ∀ entry ∈ members, hasNoNul entry.1 = true ∧ isText entry.2 = true := by
  induction members with
  | nil => simp [areTextMembers]
  | cons entry members induction =>
      obtain ⟨name, json⟩ := entry
      rw [areTextMembers, Bool.and_eq_true, Bool.and_eq_true, induction,
        List.forall_mem_cons]

/-- What a column takes depends on the members alone. -/
theorem takes_congr {first second : Settings}
    (same : ∀ key, first.lookup key = second.lookup key) :
    engine.takes (Database.settingsDocument first) =
      engine.takes (Database.settingsDocument second) := by
  cases engine with
  | sqlite => rfl
  | postgres =>
      show areTextMembers first.members = areTextMembers second.members
      rw [Bool.eq_iff_iff, areTextMembers_iff, areTextMembers_iff]
      have member : ∀ entry, entry ∈ first.members ↔ entry ∈ second.members := by
        rintro ⟨key, json⟩
        rw [Settings.mem_members, Settings.mem_members, same]
      simp only [member]

namespace Outcome

variable (outcome : Outcome engine surroundings draws database config plan after)

/-- The settings of a declared application are what `Apply` would make of them. -/
theorem settled (valid : config.manifest.Valid) {app : DeclaredApplication}
    (member : app ∈ config.applications) :
    ∃ record,
      after.applications.lookup (outcome.organisationID, app.name) =
          some record ∧
        (∀ key, (appliedSettings app (some record.settings)).lookup key =
          record.settings.lookup key) ∧
        engine.takes (Database.settingsDocument record.settings) = true := by
  have cached := start_cached outcome.opened outcome.organisationID
    outcome.item
  have stored := lookup_withApplications draws cached valid.distinct
    (outcome.organisationID, app.name)
  rw [declaredAs_of_mem valid.distinct member, ← cached] at stored
  have isStored : after.applications.lookup
      (outcome.organisationID, app.name) = some (appliedRecord draws app
        ((Progress.start outcome.opened outcome.organisationID
          outcome.item).appMap.lookup app.name)) := by
    rw [outcome.after_applications]
    exact stored
  refine ⟨_, isStored, ?_, ?_⟩
  · exact lookup_appliedSettings_twice app _
  · exact (takes_of_applyApplications cached valid.distinct outcome.loop app
      member).1

/-- Every rule is found. -/
theorem key_mem_after (valid : config.manifest.Valid) {rule : DeclaredRule}
    (member : rule ∈ config.alertRules) :
    outcome.key rule ∈ after.rules.map RuleRow.key := by
  rw [outcome.after_rules, List.map_append, List.mem_append]
  rcases key_mem_missing outcome.key (database.rules.map RuleRow.key) member
    with stored | ⟨first, isMissing, sameKey⟩
  · exact .inl stored
  · right
    have made := outcome.made
    rw [outcome.opened_rules] at made
    obtain ⟨row, isRow, isMade⟩ := exists_of_mapM made isMissing
    have isDeclared := List.mem_of_find?_eq_some (mem_missing.mp isMissing).2
    rw [List.mem_map]
    exact ⟨row, isRow, (key_of_makeRow (outcome.known valid first isDeclared)
      isMade).trans sameKey⟩

theorem listAPIKeys_after :
    after.listAPIKeys outcome.organisationID ≠ [] := by
  rw [Database.listAPIKeys, outcome.after_keys, List.filter_append,
    ← outcome.opened_keys]
  rcases outcome.keysMade.some with stored | made
  · simp [stored]
  · obtain ⟨row, isRow⟩ := List.exists_mem_of_ne_nil _ made
    intro empty
    rw [List.append_eq_nil_iff, List.filter_eq_nil_iff,
      List.filter_eq_nil_iff] at empty
    exact empty.2 row isRow (decide_eq_true (outcome.keysMade.own row isRow))

/-- The applications between the loops of a second run. -/
theorem again_columns (valid : config.manifest.Valid) (draws : Draws)
    (item : DiffItem) (key : UUID × String) :
    ((config.between draws after outcome.organisationID
        item).database.applications.lookup key).map
          ApplicationRecord.columns =
      (after.applications.lookup key).map ApplicationRecord.columns := by
  have stored := lookup_withApplications draws
    (start_cached after outcome.organisationID item) valid.distinct key
  cases declared : declaredAs outcome.organisationID
      config.manifest.applications key with
  | none =>
      rw [declared] at stored
      exact congrArg (Option.map ApplicationRecord.columns) stored
  | some app =>
      obtain ⟨member, rfl⟩ := declaredAs_eq_some declared
      obtain ⟨record, isRecord, same, _⟩ := outcome.settled valid member
      have before : (Progress.start after outcome.organisationID
          item).database.applications.lookup
            (outcome.organisationID, app.name) = some record :=
        isRecord
      rw [declared, before] at stored
      refine (congrArg (Option.map ApplicationRecord.columns) stored).trans ?_
      rw [isRecord]
      exact congrArg (fun settings => some (record.id, settings))
        (funext same)

/-- The loop over the applications comes to its end again. -/
theorem again_loop (valid : config.manifest.Valid) (draws : Draws)
    (item : DiffItem) :
    config.applications.foldlM
        (applyApplication engine draws outcome.organisationID)
        (Progress.start after outcome.organisationID item) =
      .ok (config.between draws after outcome.organisationID item) := by
  have cached := start_cached after outcome.organisationID item
  have found : ∀ app ∈ config.applications, ∃ record,
      (Progress.start after outcome.organisationID item).appMap.lookup
          app.name = some record ∧
        engine.takes (Database.settingsDocument
          (appliedSettings app (some record.settings))) = true := by
    intro app member
    obtain ⟨record, isRecord, same, takes⟩ := outcome.settled valid member
    refine ⟨record, (cached app.name).trans isRecord, ?_⟩
    rwa [takes_congr same]
  apply applyApplications_of_takes cached valid.distinct
  · intro app member
    obtain ⟨record, isRecord, takes⟩ := found app member
    rw [isRecord]
    exact ⟨takes, nofun, nofun, nofun⟩
  · apply List.pairwise_of_forall_mem_list
    intro first _ second isSecond absent
    obtain ⟨record, isRecord, _⟩ := found second isSecond
    rw [isRecord] at absent
    cases absent

theorem again_key (valid : config.manifest.Valid) (draws : Draws)
    (item : DiffItem) (rule : DeclaredRule) :
    rule.key (config.between draws after outcome.organisationID item).appMap =
      outcome.key rule := by
  have same : ∀ name, ((config.between draws after outcome.organisationID
      item).appMap.lookup name).map (·.id) =
        (outcome.between.appMap.lookup name).map (·.id) := by
    intro name
    have columns := congrArg (Option.map Prod.fst)
      (outcome.again_columns valid draws item (outcome.organisationID, name))
    rw [Option.map_map, Option.map_map, outcome.after_applications,
      ← outcome.cached] at columns
    refine Eq.trans ?_ columns
    rw [config.between_cached draws after outcome.organisationID item name]
    rfl
  rw [AlertRule.key, key, AlertRule.key, same, same]

include outcome in
/-- To apply the manifest again changes nothing. -/
theorem apply_again (valid : config.manifest.Valid)
    (surroundings : Surroundings) (draws : Draws) :
    ∃ plan again, apply engine surroundings draws after config =
      .ok (plan, again) ∧ after.Same again := by
  have organisation : after.organisations.lookup config.organisation =
      some outcome.organisationID := by
    rw [outcome.after_organisations]
    exact outcome.lookup_organisation
  have opens : applyOrganisation engine draws after config.organisation =
      .ok (after, outcome.organisationID,
        ⟨.unchanged, .organisation, config.organisation, .none⟩) :=
    applyOrganisation_ok_iff.mpr
      (.inl ⟨outcome.organisationID, organisation, rfl⟩)
  generalize (⟨.unchanged, .organisation, config.organisation, .none⟩ :
    DiffItem) = item at opens
  have rest := config.between_rest draws after outcome.organisationID item
  have sameRules : (config.between draws after outcome.organisationID
      item).database.rules = after.rules := by
    rw [rest]
  have sameKeys : (config.between draws after outcome.organisationID
      item).database.keys = after.keys := by
    rw [rest]
  have none : missing (fun rule : DeclaredRule => rule.key (config.between
      draws after outcome.organisationID item).appMap)
      (after.rules.map RuleRow.key) config.alertRules = [] := by
    apply missing_eq_nil
    intro rule member
    rw [outcome.again_key valid]
    exact outcome.key_mem_after valid member
  have known : ∀ rule ∈ config.alertRules, Known (config.between draws after
      outcome.organisationID item) rule.toAlertRule :=
    known_of_valid valid (start_cached after outcome.organisationID item)
  have rules : ∃ items, config.alertRules.foldlM
      (applyRule engine surroundings)
      (config.between draws after outcome.organisationID item) =
        .ok ((config.between draws after outcome.organisationID
          item).withRules [] items) := by
    rw [applyRules_eq known, sameRules, none]
    exact ⟨_, rfl⟩
  obtain ⟨items, rules⟩ := rules
  have keys : (config.between draws after outcome.organisationID
      item).database.listAPIKeys outcome.organisationID ≠ [] := by
    rw [Database.listAPIKeys, sameKeys]
    exact outcome.listAPIKeys_after
  refine ⟨_, _, bind_ok_iff.mpr ⟨_, opens, bind_ok_iff.mpr
    ⟨_, outcome.again_loop valid draws item, bind_ok_iff.mpr
      ⟨_, rules, applyKey_of_keys keys⟩⟩⟩, ?_⟩
  have sameOrganisations : (config.between draws after outcome.organisationID
      item).database.organisations = after.organisations := by
    rw [rest]
  refine ⟨sameOrganisations, outcome.again_columns valid draws item, ?_,
    sameKeys⟩
  exact (List.append_nil _).trans sameRules

end Outcome

/-! ## Convergence -/

/--
A valid manifest converges exactly if each of its rules was stored before, or was
the first of its kind and new.
-/
theorem converged_iff (engine : Engine) (surroundings : Surroundings)
    (draws : Draws) (store after : Store) (config : Config) (plan : Plan)
    (valid : config.manifest.validate = .ok ())
    (applied : store.apply engine surroundings draws config =
      .ok (plan, after)) :
    config.Converged engine surroundings after ↔
      ∀ rule ∈ config.alertRules,
        config.Settles engine surroundings store.database rule := by
  have isValid := valid_of_validate valid
  rw [Store.apply_ok_iff] at applied
  obtain ⟨outcome⟩ := apply_ok isValid applied
  have again : ∀ surroundings draws, ∃ plan again,
      after.apply engine surroundings draws config = .ok (plan, again) ∧
        after.database.Same again.database := by
    intro surroundings draws
    obtain ⟨plan, written, applied, same⟩ :=
      outcome.apply_again isValid surroundings draws
    refine ⟨plan, ⟨written, apply_sound after.sound applied⟩,
      Store.apply_ok_iff.mpr applied, same⟩
  constructor
  · rintro ⟨holds, _⟩ rule member
    exact (outcome.holds_iff store.sound isValid member).mp
      (holds rule member)
  · intro settles
    refine ⟨?_, again⟩
    intro rule member
    exact (outcome.holds_iff store.sound isValid member).mpr
      (settles rule member)

/-! ## Samples -/

/-- A process with a secret for its destinations. -/
def hookSurroundings : Surroundings :=
  { noSurroundings with
    getenv := fun name => if name = "HOOK_SECRET" then "hush" else "" }

/-- A rule with an interval and a destination. -/
def hookConfig (ruleType : String) : Config where
  version := "1"
  organisation := "default"
  applications := [⟨"orders", "", 0, 0⟩]
  alertRules := [⟨⟨"orders", ruleType, ""⟩, 60,
    [("destinations", .sequence [.mapping [("type", .string "webhook"),
      ("secret_from", .mapping [("env", .string "HOOK_SECRET")])]])]⟩]
  dataPlanes := ∅

/-- A rule the store does not have is stored, its secret resolved. -/
theorem hookConfig_converged :
    (hookConfig "SlowQueue").manifest.validate = .ok () ∧
      ∃ plan after,
        ordersStore.apply .sqlite hookSurroundings sampleDraws
            (hookConfig "SlowQueue") = .ok (plan, after) ∧
          (hookConfig "SlowQueue").Converged .sqlite hookSurroundings
            after := by
  refine ⟨rfl, ?_⟩
  have applied : ∃ plan after, apply .sqlite hookSurroundings sampleDraws
      ordersDatabase (hookConfig "SlowQueue") = .ok (plan, after) :=
    ⟨_, _, rfl⟩
  obtain ⟨plan, written, applied⟩ := applied
  obtain ⟨after, _, stored⟩ := ordersStore.exists_apply applied
  refine ⟨plan, after, stored, ?_⟩
  apply (converged_iff .sqlite hookSurroundings sampleDraws ordersStore after
    (hookConfig "SlowQueue") plan rfl stored).mpr
  intro rule member
  rw [List.mem_singleton.mp member]
  right
  refine ⟨?_, _, _, rfl, rfl, rfl, rfl⟩
  rintro ⟨row, isRow, _, _, _, _, _, _, _, _, ofType⟩
  rw [List.mem_singleton.mp isRow] at ofType
  exact absurd ofType (by decide)

/-- A rule which is stored without interval and destination stays so. -/
theorem hookConfig_notConverged :
    (hookConfig "WorkflowFailure").manifest.validate = .ok () ∧
      ∃ plan after,
        ordersStore.apply .sqlite hookSurroundings sampleDraws
            (hookConfig "WorkflowFailure") = .ok (plan, after) ∧
          ¬(hookConfig "WorkflowFailure").Converged .sqlite hookSurroundings
            after := by
  refine ⟨rfl, ?_⟩
  have applied : ∃ plan after, apply .sqlite hookSurroundings sampleDraws
      ordersDatabase (hookConfig "WorkflowFailure") = .ok (plan, after) ∧
        after.rules = ordersDatabase.rules :=
    ⟨_, _, rfl, rfl⟩
  obtain ⟨plan, written, applied, rules⟩ := applied
  obtain ⟨after, rfl, stored⟩ := ordersStore.exists_apply applied
  refine ⟨plan, after, stored, ?_⟩
  rintro ⟨holds, _⟩
  obtain ⟨row, isRow, _, interval, _⟩ := holds _ (List.mem_singleton_self _)
  rw [rules] at isRow
  rw [List.mem_singleton.mp isRow] at interval
  exact absurd interval (by decide)

end DbosRelay.Declarative
