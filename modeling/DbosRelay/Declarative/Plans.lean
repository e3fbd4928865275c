import DbosRelay.Declarative.Outcome

/-!
# Whether `Diff` predicts `Apply`

The two plans agree on the organisation, the applications and the data planes.
They differ in two things: `Diff` has no item for the key which `Apply` makes for an
organisation without keys, and it announces every rule that is not stored, where
`Apply` creates only the first one of those it would not tell apart.
-/

namespace DbosRelay.Declarative

open DbosRelay.Applications
open DbosRelay.Basic
open DbosRelay.Library.Reconciliation
open DbosRelay.Library.Tables

/-! ## Predictions -/

/-- What an item says, its details apart. -/
def DiffItem.announced (item : DiffItem) : DiffAction × Kind × String :=
  (item.action, item.kind, item.name)

/-- The plans have the same items, each as often. -/
def Plan.Predicts (planned performed : Plan) : Prop :=
  (planned.items.map DiffItem.announced).Perm
    (performed.items.map DiffItem.announced)

/-- The organisation is there, with a key, though it be revoked. -/
def Database.HasKey (database : Database) (organisation : String) : Prop :=
  ∃ id, database.organisations.lookup organisation = some id ∧
    ∃ row ∈ database.keys, row.organisationID = id

/-- There is a row of the rule's application, type and receiving application. -/
def Database.Stores (database : Database) (organisation : String)
    (rule : AlertRule) : Prop :=
  ∃ row ∈ database.rules, database.IsFor organisation rule row

/-- Rules of one application, type and receiving application are stored. -/
def Config.RepeatsStored (config : Config) (database : Database) : Prop :=
  config.alertRules.Pairwise fun first second =>
    first.names = second.names →
      database.Stores config.organisation first.toAlertRule

/-! ## The items -/

variable {engine : Engine} {surroundings : Surroundings} {draws : Draws}
variable {database after : Database} {config : Config} {plan : Plan}

/-- A rule is stored exactly if the loop of `Diff` comes upon it. -/
theorem stores_iff {organisation : String} {rule : AlertRule} :
    database.Stores organisation rule ↔
      ∃ app receiving,
        (database.existingApps organisation).lookup rule.app = some app ∧
          (database.existingApps organisation).lookup rule.receiver =
              some receiving ∧
            database.hasRule app.id rule.ruleType receiving.id = true := by
  simp only [Database.Stores, Database.IsFor, Database.existingApps,
    Database.hasRule, Database.listAlertingRulesByApplication,
    List.any_eq_true, List.mem_filter, Bool.and_eq_true, decide_eq_true_eq]
  cases database.organisations.lookup organisation with
  | none => simp
  | some id =>
      simp only [Database.lookup_listApplicationsByOrganisation]
      constructor
      · rintro ⟨row, member, _, app, receiving, same, isApp, isReceiver, ofApp,
          receives, ofType⟩
        cases same
        exact ⟨app, receiving, isApp, isReceiver, row, ⟨member, ofApp⟩, ofType,
          receives⟩
      · rintro ⟨app, receiving, isApp, isReceiver, row, ⟨member, ofApp⟩,
          ofType, receives⟩
        exact ⟨row, member, id, app, receiving, rfl, isApp, isReceiver, ofApp,
          receives, ofType⟩

/-- `Diff` announces a rule exactly if it is not stored. -/
theorem diffRule_announced {organisation : String} {rule : AlertRule}
    {isNew : Bool} (isStored : isNew = false ↔
      database.Stores organisation rule) :
    (diffRule database (database.existingApps organisation) rule).announced =
      (rule.item isNew .none).announced := by
  rw [stores_iff] at isStored
  unfold diffRule
  cases isApp : (database.existingApps organisation).lookup rule.app with
  | none =>
      have : isNew = true := by
        rw [← Bool.not_eq_false, isStored]
        simp [isApp]
      rw [this]
      rfl
  | some app =>
      simp only
      cases isReceiver : (database.existingApps organisation).lookup
          rule.receiver with
      | none =>
          have : isNew = true := by
            rw [← Bool.not_eq_false, isStored]
            simp [isReceiver]
          rw [this]
          rfl
      | some receiving =>
          have : isNew = !database.hasRule app.id rule.ruleType receiving.id := by
            rw [Bool.eq_iff_iff, ← not_iff_not, Bool.not_eq_true, isStored]
            simp [isApp, isReceiver]
          rw [this]

/-- The items of the rules, in either plan. -/
def ruleItems (rules : List DeclaredRule) (flags : List Bool) :
    List (DiffAction × Kind × String) :=
  List.zipWith (fun rule isNew => (rule.item isNew .none).announced) rules
    flags

/-- The items that the two plans have in common. -/
def commonItems (database : Database) (config : Config) :
    List (DiffAction × Kind × String) :=
  (if (database.organisations.lookup config.organisation).isSome then
      .unchanged else .create, .organisation, config.organisation) ::
    config.applications.map fun app =>
      (app.item (database.existingApps config.organisation)).announced

namespace Outcome

variable (outcome : Outcome engine surroundings draws database config plan after)

/-- A new organisation has no applications, and no keys. -/
theorem lookup_existingApps (sound : database.Sound) (name : String) :
    (database.existingApps config.organisation).lookup name =
      database.applications.lookup (outcome.organisationID, name) := by
  unfold Database.existingApps
  rcases applyOrganisation_ok_iff.mp outcome.opens with
    ⟨id, found, same⟩ | ⟨absent, _, fresh, same⟩
  · simp only [Prod.mk.injEq] at same
    rw [found, same.2.1]
    exact database.lookup_listApplicationsByOrganisation id name
  · simp only [Prod.mk.injEq] at same
    rw [absent, same.2.1]
    symm
    by_contra present
    obtain ⟨record, found⟩ := Option.ne_none_iff_exists'.mp present
    rw [sound.ofOrganisation _ record found] at fresh
    cases fresh

theorem keys_ne_nil_iff (sound : database.Sound) :
    outcome.opened.keys.filter
        (fun row => row.organisationID = outcome.organisationID) ≠ [] ↔
      database.HasKey config.organisation := by
  rw [outcome.opened_keys, Ne, List.filter_eq_nil_iff]
  simp only [decide_eq_true_eq, not_forall, not_not, exists_prop]
  constructor
  · rintro ⟨row, member, own⟩
    have isThere := sound.keyOfOrganisation row member
    rw [own] at isThere
    exact ⟨_, outcome.found_organisation isThere, row, member, own⟩
  · rintro ⟨id, found, row, member, own⟩
    exact ⟨row, member, own.trans (outcome.organisationID_eq found).symm⟩

theorem item_announced :
    outcome.item.announced =
      (if (database.organisations.lookup config.organisation).isSome then
        .unchanged else .create, .organisation, config.organisation) := by
  rcases applyOrganisation_ok_iff.mp outcome.opens with
    ⟨id, found, same⟩ | ⟨absent, _, _, same⟩
  · simp only [Prod.mk.injEq] at same
    rw [same.2.2, found]
    rfl
  · simp only [Prod.mk.injEq] at same
    rw [same.2.2, absent]
    rfl

theorem appItems_eq (sound : database.Sound) (app : DeclaredApplication) :
    app.item (outcome.opened.listApplicationsByOrganisation
        outcome.organisationID) =
      app.item (database.existingApps config.organisation) := by
  rw [DeclaredApplication.item, DeclaredApplication.item,
    outcome.lookup_existingApps sound, outcome.opened_eq,
    Database.lookup_listApplicationsByOrganisation]

theorem planned_eq (sound : database.Sound) (valid : config.manifest.Valid) :
    (diff database config).items.map DiffItem.announced =
      commonItems database config ++
        ruleItems config.alertRules (absent outcome.key (database.rules.map RuleRow.key)
          config.alertRules) ++
          (planeItems config.dataPlanes).map DiffItem.announced := by
  have rules : (config.alertRules.map fun rule => (diffRule database
      (database.existingApps config.organisation)
        rule.toAlertRule).announced) =
          ruleItems config.alertRules (absent outcome.key
            (database.rules.map RuleRow.key) config.alertRules) := by
    rw [ruleItems, absent, List.zipWith_map_right, List.zipWith_self]
    apply List.map_congr_left
    intro rule member
    apply diffRule_announced
    rw [decide_eq_false_iff_not, not_not]
    exact outcome.key_mem_iff sound valid member
  simp only [diff, planeItems, List.map_append, List.map_map,
    Function.comp_def, commonItems, ← rules]
  rfl

theorem performed_eq (sound : database.Sound) :
    plan.items.map DiffItem.announced =
      commonItems database config ++
        ruleItems config.alertRules (isMissing outcome.key
          (database.rules.map RuleRow.key) config.alertRules) ++
          (planeItems config.dataPlanes).map DiffItem.announced ++
            outcome.keyItems.map DiffItem.announced := by
  rw [outcome.isPlan, outcome.opened_rules]
  simp only [List.map_append, List.map_cons, List.map_nil, List.map_map,
    Function.comp_def, List.map_zipWith, outcome.item_announced,
    outcome.appItems_eq sound, commonItems, ruleItems]
  rfl

end Outcome

theorem countP_ruleItems {rules : List DeclaredRule} {flags : List Bool}
    (sameLength : flags.length = rules.length) :
    ((ruleItems rules flags).countP fun item => item.1 = .create) =
      flags.count true := by
  unfold ruleItems
  induction rules generalizing flags with
  | nil =>
      rw [List.length_nil, List.length_eq_zero_iff] at sameLength
      rw [sameLength]
      rfl
  | cons rule rules induction =>
      cases flags with
      | nil => cases sameLength
      | cons isNew flags =>
          rw [List.zipWith_cons_cons, List.countP_cons, List.count_cons,
            induction (Nat.succ.inj sameLength)]
          cases isNew with
          | true => rfl
          | false => rfl

/-- The lists of the rules' items differ as soon as one flag does. -/
theorem ruleItems_perm_iff {rules : List DeclaredRule} {planned performed : List Bool}
    (below : Below performed planned)
    (sameLength : planned.length = rules.length) :
    (ruleItems rules planned).Perm (ruleItems rules performed) ↔
      performed = planned := by
  constructor
  · intro perm
    apply below.eq_of_count_eq
    rw [← countP_ruleItems sameLength, perm.countP_eq,
      countP_ruleItems (below.length_eq.trans sameLength)]
  · rintro rfl
    exact List.Perm.refl _

/--
`Diff` predicts `Apply` exactly if the organisation has a key, and of the rules the
manifest does not tell apart either the store has one or there is only one.
-/
theorem predicts_iff (engine : Engine) (surroundings : Surroundings)
    (draws : Draws) (store after : Store) (config : Config) (plan : Plan)
    (valid : config.manifest.validate = .ok ())
    (applied : store.apply engine surroundings draws config =
      .ok (plan, after)) :
    (diff store.database config).Predicts plan ↔
      store.database.HasKey config.organisation ∧
        config.RepeatsStored store.database := by
  obtain ⟨database, sound⟩ := store
  rw [Store.apply_ok_iff] at applied
  have isValid := valid_of_validate valid
  obtain ⟨outcome⟩ := apply_ok isValid applied
  have below : Below
      (isMissing outcome.key (database.rules.map RuleRow.key)
        config.alertRules)
      (absent outcome.key (database.rules.map RuleRow.key)
        config.alertRules) :=
    isMissing_le _ _ (List.Subset.refl _) _
  have planned : (absent outcome.key (database.rules.map RuleRow.key)
      config.alertRules).length = config.alertRules.length :=
    List.length_map _
  have repeats : isMissing outcome.key (database.rules.map RuleRow.key)
      config.alertRules = absent outcome.key (database.rules.map RuleRow.key)
        config.alertRules ↔ config.RepeatsStored database := by
    rw [isMissing_eq_iff _ _ (List.Subset.refl _), Config.RepeatsStored]
    simp only [imp_self, implies_true, true_and]
    apply List.Pairwise.iff_of_mem
    intro first second isFirst isSecond
    rw [outcome.key_eq_iff sound isValid isFirst isSecond,
      outcome.key_mem_iff sound isValid isFirst]
    rfl
  rw [Plan.Predicts, outcome.planned_eq sound isValid,
    outcome.performed_eq sound, ← repeats, ← outcome.keys_ne_nil_iff sound,
    ← outcome.keysMade.items_eq_nil_iff]
  constructor
  · intro perm
    have noKey : outcome.keyItems = [] := by
      have lengths := perm.length_eq
      simp only [List.length_append, List.length_map, ruleItems,
        List.length_zipWith, planned, length_isMissing] at lengths
      rw [← List.length_eq_zero_iff]
      omega
    refine ⟨noKey, ?_⟩
    rw [noKey, List.map_nil, List.append_nil, List.perm_append_right_iff,
      List.perm_append_left_iff, ruleItems_perm_iff below planned] at perm
    exact perm
  · rintro ⟨noKey, same⟩
    rw [noKey, same, List.map_nil, List.append_nil]

/-! ## Samples -/

/-- Draws for one organisation with one application. -/
def sampleDraws : Draws where
  organisationID := ⟨1⟩
  applicationID _ := ⟨7⟩
  key := some "dbos_AAAAAAAAAAAAAAAAAAAAAAAAAAAAAAAAAAAAAAAAAAA"

/-- One application with the given rules, of the given types. -/
def ordersConfig (ruleTypes : List String) : Config where
  version := "1"
  organisation := "default"
  applications := [⟨"orders", "", 0, 0⟩]
  alertRules := ruleTypes.map fun ruleType => ⟨⟨"orders", ruleType, ""⟩, 0, []⟩
  dataPlanes := ∅

/-- What is left when one rule has been applied to the empty store. -/
def ordersDatabase : Database where
  organisations := (∅ : Table String UUID).insert "default" ⟨1⟩
  applications :=
    (∅ : Table (UUID × String) ApplicationRecord).insert (⟨1⟩, "orders")
      ⟨⟨7⟩, ∅⟩
  rules := [⟨⟨7⟩, ⟨7⟩, "WorkflowFailure", .object [], none⟩]
  keys := [⟨⟨1⟩, defaultKeyName,
    keyLookup "dbos_AAAAAAAAAAAAAAAAAAAAAAAAAAAAAAAAAAAAAAAAAAA", false⟩]

theorem ordersDatabase_sound : ordersDatabase.Sound := by
  have applied : ∃ plan, apply .sqlite noSurroundings sampleDraws .empty
      (ordersConfig ["WorkflowFailure"]) = .ok (plan, ordersDatabase) :=
    ⟨_, rfl⟩
  obtain ⟨plan, applied⟩ := applied
  exact apply_sound Store.empty.sound applied

def ordersStore : Store := ⟨ordersDatabase, ordersDatabase_sound⟩

theorem repeatedStored_predicted :
    (ordersConfig ["WorkflowFailure", "WorkflowFailure",
        "SlowQueue"]).manifest.validate = .ok () ∧
      ∃ plan after,
        ordersStore.apply .sqlite noSurroundings sampleDraws (ordersConfig
            ["WorkflowFailure", "WorkflowFailure", "SlowQueue"]) =
          .ok (plan, after) ∧
        (diff ordersDatabase (ordersConfig ["WorkflowFailure",
          "WorkflowFailure", "SlowQueue"])).Predicts plan := by
  refine ⟨rfl, ?_⟩
  have applied : ∃ plan after, apply .sqlite noSurroundings sampleDraws
      ordersDatabase (ordersConfig ["WorkflowFailure", "WorkflowFailure",
        "SlowQueue"]) = .ok (plan, after) :=
    ⟨_, _, rfl⟩
  obtain ⟨plan, written, applied⟩ := applied
  obtain ⟨after, _, stored⟩ := ordersStore.exists_apply applied
  refine ⟨plan, after, stored, ?_⟩
  have isStored : ordersDatabase.Stores "default"
      ⟨"orders", "WorkflowFailure", ""⟩ :=
    ⟨_, List.mem_singleton_self _, ⟨1⟩, _, _, rfl, rfl, rfl, rfl, rfl, rfl⟩
  apply (predicts_iff .sqlite noSurroundings sampleDraws ordersStore after _
    plan rfl stored).mpr
  refine ⟨⟨⟨1⟩, rfl, _, List.mem_singleton_self _, rfl⟩, ?_⟩
  refine .cons ?_ (.cons ?_ (.cons ?_ .nil))
  · exact fun _ _ _ => isStored
  · exact fun _ _ _ => isStored
  · exact nofun

/--
On an empty store `Diff` does not announce the key, and on one with a key it
announces a repeated rule twice.
-/
theorem unpredicted :
    ((ordersConfig []).manifest.validate = .ok () ∧
      ∃ plan after,
        Store.empty.apply .sqlite noSurroundings sampleDraws
            (ordersConfig []) = .ok (plan, after) ∧
          ¬(diff Database.empty (ordersConfig [])).Predicts plan) ∧
    (ordersConfig ["SlowQueue", "SlowQueue"]).manifest.validate = .ok () ∧
      ∃ plan after,
        ordersStore.apply .sqlite noSurroundings sampleDraws
            (ordersConfig ["SlowQueue", "SlowQueue"]) = .ok (plan, after) ∧
          ¬(diff ordersDatabase
            (ordersConfig ["SlowQueue", "SlowQueue"])).Predicts plan := by
  refine ⟨⟨rfl, ?_⟩, rfl, ?_⟩
  · have applied : ∃ plan after, apply .sqlite noSurroundings sampleDraws
        .empty (ordersConfig []) = .ok (plan, after) ∧
          plan.items.map DiffItem.announced =
            [(.create, .organisation, "default"),
              (.create, .application, "orders"),
              (.create, .apiKey, "default-conductor-key")] :=
      ⟨_, _, rfl, rfl⟩
    obtain ⟨plan, written, applied, items⟩ := applied
    obtain ⟨after, _, stored⟩ := Store.empty.exists_apply applied
    refine ⟨plan, after, stored, fun predicts => ?_⟩
    rw [Plan.Predicts, items] at predicts
    exact absurd predicts.length_eq (by decide)
  · have applied : ∃ plan after, apply .sqlite noSurroundings sampleDraws
        ordersDatabase (ordersConfig ["SlowQueue", "SlowQueue"]) =
          .ok (plan, after) ∧
        plan.items.map DiffItem.announced =
          [(.unchanged, .organisation, "default"),
            (.unchanged, .application, "orders"),
            (.create, .alertRule, "orders/SlowQueue"),
            (.unchanged, .alertRule, "orders/SlowQueue")] :=
      ⟨_, _, rfl, rfl⟩
    obtain ⟨plan, written, applied, items⟩ := applied
    obtain ⟨after, _, stored⟩ := ordersStore.exists_apply applied
    refine ⟨plan, after, stored, fun predicts => ?_⟩
    rw [Plan.Predicts, items] at predicts
    have announced := predicts.count_eq
      (.unchanged, .alertRule, "orders/SlowQueue")
    exact absurd announced (by decide)

end DbosRelay.Declarative
