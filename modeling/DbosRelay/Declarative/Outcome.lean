import DbosRelay.Declarative.Apply

/-!
# What a successful `Apply` leaves behind

`Manifest.Valid` is what `Validate` establishes, `Database.Sound` what the keys and
the references of the tables keep.  A manifest that is valid finds every
application its rules name, so `Apply` is the two loops and the key (`apply_ok`),
and the tables stay sound (`apply_sound`).
-/

namespace DbosRelay.Declarative

open DbosRelay.Applications
open DbosRelay.Basic
open DbosRelay.Library.GoJson
open DbosRelay.Library.Reconciliation
open DbosRelay.Library.Results
open DbosRelay.Library.Tables

/-! ## Valid manifests -/

/-- What `Validate` establishes of applications and rules. -/
structure Manifest.Valid (manifest : Manifest) : Prop where
  names : ∀ app ∈ manifest.applications, isAppName app.name = true
  distinct : (manifest.applications.map (·.name)).Nodup
  app : ∀ rule ∈ manifest.alertRules,
    rule.app ∈ manifest.applications.map (·.name)
  receiver : ∀ rule ∈ manifest.alertRules,
    rule.receiver ∈ manifest.applications.map (·.name)
  ruleType : ∀ rule ∈ manifest.alertRules, rule.ruleType ∈ storedRuleTypes

theorem validateApplications_ok {seen names : List String}
    {apps : List DeclaredApplication}
    (valid : validateApplications seen apps = .ok names) :
    (∀ app ∈ apps, isAppName app.name = true) ∧
      (apps.map (·.name)).Nodup ∧
        (∀ app ∈ apps, app.name ∉ seen) ∧
          ∀ name, name ∈ names ↔ name ∈ seen ∨ name ∈ apps.map (·.name) := by
  induction apps generalizing seen with
  | nil =>
      cases valid
      simp
  | cons app apps induction =>
      rw [validateApplications] at valid
      split_ifs at valid with invalid duplicate
      obtain ⟨every, distinct, unseen, members⟩ := induction valid
      have fresh : app.name ∉ apps.map (·.name) := by
        rw [List.mem_map]
        rintro ⟨other, member, same⟩
        exact unseen other member (same ▸ List.mem_cons_self)
      refine ⟨?_, ?_, ?_, ?_⟩
      · rw [List.forall_mem_cons]
        exact ⟨by simpa using invalid, every⟩
      · rw [List.map_cons, List.nodup_cons]
        exact ⟨fresh, distinct⟩
      · rw [List.forall_mem_cons]
        refine ⟨duplicate, ?_⟩
        intro other member early
        exact unseen other member (List.mem_cons_of_mem _ early)
      · intro name
        rw [members, List.mem_cons, List.map_cons, List.mem_cons]
        tauto

theorem validateRule_ok {apps : List String} {rule : AlertRule}
    (valid : validateRule apps rule = .ok ()) :
    rule.app ∈ apps ∧ rule.receiver ∈ apps ∧
      rule.ruleType ∈ storedRuleTypes := by
  unfold validateRule at valid
  split_ifs at valid with empty isKnown stranger known
  refine ⟨isKnown, ?_, ?_⟩
  · unfold AlertRule.receiver
    split_ifs with other
    · by_contra absent
      exact stranger ⟨other.1, absent⟩
    · exact isKnown
  · simp only [List.mem_cons, List.not_mem_nil, or_false] at known
    rcases known with same | same | same <;> rw [same] <;> decide

theorem valid_of_validate {manifest : Manifest}
    (valid : manifest.validate = .ok ()) : manifest.Valid := by
  unfold Manifest.validate at valid
  by_cases unsupported : manifest.version ≠ "1" ∧ manifest.version ≠ "v1"
  · rw [if_pos unsupported] at valid
    cases valid
  rw [if_neg unsupported] at valid
  obtain ⟨apps, applications, valid⟩ := bind_ok_iff.mp valid
  obtain ⟨⟨⟩, rules, _⟩ := bind_ok_iff.mp valid
  obtain ⟨names, distinct, _, members⟩ := validateApplications_ok applications
  have named : ∀ name, name ∈ apps →
      name ∈ manifest.applications.map (·.name) := by
    intro name member
    rcases (members name).mp member with seen | declared
    · cases seen
    · exact declared
  have each := fun rule member => validateRule_ok (forM_ok rules rule member)
  refine ⟨names, distinct, ?_, ?_, ?_⟩
  · exact fun rule member => named _ (each rule member).1
  · exact fun rule member => named _ (each rule member).2.1
  · exact fun rule member => (each rule member).2.2

/-! ## Sound tables -/

namespace Database

variable {database : Database}

/-- Identifiers stay when a table grows. -/
theorem hasOrganisation_insert {name : String} {id other : UUID}
    (absent : database.organisations.lookup name = none)
    (isThere : database.hasOrganisation other = true) :
    ({ database with organisations := database.organisations.insert name id } :
      Database).hasOrganisation other = true := by
  obtain ⟨named, found⟩ := hasOrganisation_iff.mp isThere
  refine hasOrganisation_iff.mpr ⟨named, ?_⟩
  have differs : named ≠ name := by
    rintro rfl
    rw [absent] at found
    cases found
  rw [lookup_insert_eq, if_neg differs, found]

theorem Sound.insertOrganisation (sound : database.Sound) {name : String}
    {id : UUID} (absent : database.organisations.lookup name = none)
    (fresh : database.hasOrganisation id = false) :
    ({ database with organisations := database.organisations.insert name id } :
      Database).Sound where
  organisationKey first second found one other := by
    rw [lookup_insert_eq] at one other
    have taken : ∀ named, database.organisations.lookup named ≠ some id := by
      intro named isThere
      rw [hasOrganisation_iff.mpr ⟨named, isThere⟩] at fresh
      cases fresh
    split_ifs at one other with isFirst isSecond isSecond
    · rw [isFirst, isSecond]
    · cases one
      exact absurd other (taken second)
    · cases other
      exact absurd one (taken first)
    · exact sound.organisationKey first second found one other
  applicationKey := sound.applicationKey
  ofOrganisation key record found :=
    hasOrganisation_insert absent (sound.ofOrganisation key record found)
  ofApplications := sound.ofApplications
  keyOfOrganisation row member :=
    hasOrganisation_insert absent (sound.keyOfOrganisation row member)

/-- A row may replace one of its identifier, or be new with a new one. -/
def MayInsert (database : Database) (key : UUID × String)
    (record : ApplicationRecord) : Prop :=
  match database.applications.lookup key with
  | some old => record.id = old.id
  | none => database.hasApplication record.id = false

theorem hasApplication_insert {key : UUID × String}
    {record : ApplicationRecord} {id : UUID}
    (may : database.MayInsert key record)
    (isThere : database.hasApplication id = true) :
    ({ database with
      applications := database.applications.insert key record } :
        Database).hasApplication id = true := by
  obtain ⟨other, found, isFound, rfl⟩ := hasApplication_iff.mp isThere
  refine hasApplication_iff.mpr ?_
  by_cases same : other = key
  · subst same
    refine ⟨other, record, AList.lookup_insert _, ?_⟩
    rw [MayInsert, isFound] at may
    exact may
  · exact ⟨other, found, (AList.lookup_insert_ne same).trans isFound, rfl⟩

theorem Sound.insertApplication (sound : database.Sound)
    {key : UUID × String} {record : ApplicationRecord}
    (may : database.MayInsert key record)
    (organisation : database.hasOrganisation key.1 = true) :
    ({ database with
      applications := database.applications.insert key record } :
        Database).Sound where
  organisationKey := sound.organisationKey
  applicationKey first second one other isOne isOther same := by
    -- A row of the identifier of the new one is the row it replaces.
    have own : ∀ named found, database.applications.lookup named = some found →
        found.id = record.id → named = key := by
      intro named found isFound sameID
      unfold MayInsert at may
      cases isOld : database.applications.lookup key with
      | some old =>
          rw [isOld] at may
          exact sound.applicationKey named key found old isFound isOld
            (sameID.trans may)
      | none =>
          rw [isOld] at may
          have isThere := hasApplication_iff.mpr ⟨named, found, isFound, sameID⟩
          rw [isThere] at may
          cases may
    rw [lookup_insert_eq] at isOne isOther
    split_ifs at isOne isOther with isFirst isSecond isSecond
    · rw [isFirst, isSecond]
    · cases isOne
      rw [isFirst, own second other isOther same.symm]
    · cases isOther
      rw [isSecond, own first one isOne same]
    · exact sound.applicationKey first second one other isOne isOther same
  ofOrganisation other found isFound := by
    rw [lookup_insert_eq] at isFound
    split_ifs at isFound with isKey
    · rw [isKey]
      exact organisation
    · exact sound.ofOrganisation other found isFound
  ofApplications row member :=
    ⟨hasApplication_insert may (sound.ofApplications row member).1,
      hasApplication_insert may (sound.ofApplications row member).2⟩
  keyOfOrganisation := sound.keyOfOrganisation

end Database

/-! ## The run -/

variable {engine : Engine} {surroundings : Surroundings} {draws : Draws}
variable {organisationID : UUID} {progress : Progress}

/-- The organisation is found, or a new one is accepted. -/
theorem applyOrganisation_ok_iff {database : Database} {name : String}
    {result : Database × UUID × DiffItem} :
    applyOrganisation engine draws database name = .ok result ↔
      (∃ id, database.organisations.lookup name = some id ∧
        result = (database, id, ⟨.unchanged, .organisation, name, .none⟩)) ∨
      (database.organisations.lookup name = none ∧
        engine.isOrganisationName name = true ∧
          database.hasOrganisation draws.organisationID = false ∧
            result = ({ database with
              organisations :=
                database.organisations.insert name draws.organisationID },
              draws.organisationID,
              ⟨.create, .organisation, name, .none⟩)) := by
  unfold applyOrganisation
  cases found : database.organisations.lookup name with
  | some id =>
      constructor
      · intro same
        cases same
        exact .inl ⟨id, rfl, rfl⟩
      · rintro (⟨other, same, rfl⟩ | ⟨absent, _⟩)
        · cases same
          rfl
        · cases absent
  | none =>
      cases created : database.createOrganisation engine draws.organisationID
          name with
      | error refusal =>
          simp only [reduceCtorEq, false_and, exists_false, false_or, true_and,
            false_iff]
          rintro ⟨named, fresh, _⟩
          have done := Database.createOrganisation_ok_iff.mpr
            ⟨named, found, fresh, rfl⟩
          rw [created] at done
          cases done
      | ok after =>
          obtain ⟨named, _, fresh, rfl⟩ :=
            Database.createOrganisation_ok_iff.mp created
          constructor
          · intro same
            cases same
            exact .inr ⟨rfl, named, fresh, rfl⟩
          · rintro (⟨other, same, _⟩ | ⟨_, _, _, rfl⟩)
            · cases same
            · rfl

theorem start_cached (database : Database) (organisationID : UUID)
    (item : DiffItem) :
    (Progress.start database organisationID item).Cached organisationID :=
  database.lookup_listApplicationsByOrganisation organisationID

theorem applyOrganisation_sound {database opened : Database} {name : String}
    {item : DiffItem} (sound : database.Sound)
    (applied : applyOrganisation engine draws database name =
      .ok (opened, organisationID, item)) : opened.Sound := by
  rcases applyOrganisation_ok_iff.mp applied with
    ⟨id, _, same⟩ | ⟨absent, _, fresh, same⟩
  · cases same
    exact sound
  · cases same
    exact sound.insertOrganisation absent fresh

theorem applyApplication_sound {app : DeclaredApplication} {after : Progress}
    (cached : progress.Cached organisationID)
    (sound : progress.database.Sound)
    (applied : applyApplication engine draws organisationID progress app =
      .ok after) : after.database.Sound := by
  obtain ⟨takes, rfl⟩ := (applyApplication_ok_iff cached).mp applied
  have stored := cached app.name
  apply sound.insertApplication
  · unfold Database.MayInsert
    rw [← stored]
    cases found : progress.appMap.lookup app.name with
    | none => exact takes.fresh found
    | some record => rfl
  · cases found : progress.appMap.lookup app.name with
    | none => exact takes.organisation found
    | some record =>
        rw [found] at stored
        exact sound.ofOrganisation _ record stored.symm

/-- The loop over the applications keeps the tables sound. -/
theorem applyApplications_sound {apps : List DeclaredApplication}
    {after : Progress} (cached : progress.Cached organisationID)
    (sound : progress.database.Sound)
    (applied : apps.foldlM (applyApplication engine draws organisationID)
      progress = .ok after) : after.database.Sound := by
  have kept : after.Cached organisationID ∧ after.database.Sound := by
    refine foldlM_invariant (fun progress =>
      progress.Cached organisationID ∧ progress.database.Sound) ?_
        ⟨cached, sound⟩ applied
    rintro state app next ⟨cached, sound⟩ step
    refine ⟨?_, applyApplication_sound cached sound step⟩
    obtain ⟨_, rfl⟩ := (applyApplication_ok_iff cached).mp step
    exact cached.withApplication app
  exact kept.2

theorem applyRule_sound {rule : DeclaredRule} {next : Progress}
    (sound : progress.database.Sound)
    (applied : applyRule engine surroundings progress rule = .ok next) :
    next.database.Sound := by
  unfold applyRule at applied
  split at applied
  · cases applied
  split at applied
  · cases applied
  split_ifs at applied
  · cases applied
    exact sound
  split at applied
  · cases applied
  split at applied
  · cases applied
  · rename_i created
    cases applied
    obtain ⟨isThere, receives, document, rfl⟩ :=
      Database.createAlertingRule_ok created
    refine ⟨sound.organisationKey, sound.applicationKey, sound.ofOrganisation,
      ?_, sound.keyOfOrganisation⟩
    intro row member
    rcases List.mem_append.mp member with stored | isNew
    · exact sound.ofApplications row stored
    · rw [List.mem_singleton.mp isNew]
      exact ⟨isThere, receives⟩

theorem applyKey_sound {plan : Plan} {after : Database}
    (sound : progress.database.Sound)
    (applied : applyKey engine surroundings draws organisationID progress =
      .ok (plan, after)) : after.Sound := by
  unfold applyKey at applied
  split_ifs at applied
  · split at applied
    · cases applied
    split at applied
    · cases applied
    · rename_i created
      cases applied
      obtain ⟨_, isThere, _, _, rfl⟩ :=
        Database.createAPIKey_ok_iff.mp created
      refine ⟨sound.organisationKey, sound.applicationKey,
        sound.ofOrganisation, sound.ofApplications, ?_⟩
      intro row member
      rcases List.mem_append.mp member with stored | isNew
      · exact sound.keyOfOrganisation row stored
      · rw [List.mem_singleton.mp isNew]
        exact isThere
  · cases applied
    exact sound

/-- `Apply` keeps the keys and the references of the tables. -/
theorem apply_sound {database after : Database} {config : Config}
    {plan : Plan} (sound : database.Sound)
    (applied : apply engine surroundings draws database config =
      .ok (plan, after)) : after.Sound := by
  unfold apply at applied
  obtain ⟨⟨opened, organisationID, item⟩, opens, applied⟩ :=
    bind_ok_iff.mp applied
  obtain ⟨between, loop, applied⟩ := bind_ok_iff.mp applied
  obtain ⟨last, rules, key⟩ := bind_ok_iff.mp applied
  have betweenSound := applyApplications_sound
    (start_cached opened organisationID item)
    (applyOrganisation_sound sound opens) loop
  have lastSound := foldlM_invariant (fun progress => progress.database.Sound)
    (fun _ _ _ => applyRule_sound) betweenSound rules
  refine applyKey_sound ?_ key
  exact lastSound

/-- A state of the store: tables that keep their constraints. -/
structure Store where
  database : Database
  sound : database.Sound

/-- The store after the migrations. -/
def Store.empty : Store where
  database := .empty
  sound :=
    { organisationKey := nofun
      applicationKey := nofun
      ofOrganisation := nofun
      ofApplications := nofun
      keyOfOrganisation := nofun }

/-- `Apply` on a state of the store. -/
def Store.apply (store : Store) (engine : Engine)
    (surroundings : Surroundings) (draws : Draws) (config : Config) :
    Except ApplyError (Plan × Store) :=
  match applied : Declarative.apply engine surroundings draws store.database
      config with
  | .error error => .error error
  | .ok (plan, after) => .ok (plan, ⟨after, apply_sound store.sound applied⟩)

theorem Store.apply_ok_iff {store after : Store} {config : Config}
    {plan : Plan} :
    store.apply engine surroundings draws config = .ok (plan, after) ↔
      Declarative.apply engine surroundings draws store.database config =
        .ok (plan, after.database) := by
  unfold Store.apply
  split
  · rename_i applied
    simp [applied]
  · rename_i performed result applied
    obtain ⟨database, sound⟩ := after
    refine Iff.trans ?_ (applied.congr_left).symm
    simp

theorem Store.apply_error_iff {store : Store} {config : Config}
    {error : ApplyError} :
    store.apply engine surroundings draws config = .error error ↔
      Declarative.apply engine surroundings draws store.database config =
        .error error := by
  unfold Store.apply
  split
  · rename_i applied
    simp [applied]
  · rename_i performed result applied
    refine Iff.trans ?_ (applied.congr_left).symm
    simp

theorem Store.exists_apply (store : Store) {config : Config} {plan : Plan}
    {after : Database}
    (applied : Declarative.apply engine surroundings draws store.database
      config = .ok (plan, after)) :
    ∃ stored : Store, stored.database = after ∧
      store.apply engine surroundings draws config = .ok (plan, stored) :=
  ⟨⟨after, apply_sound store.sound applied⟩, rfl,
    Store.apply_ok_iff.mpr applied⟩

/-- A declared application is there after the loop. -/
theorem exists_record {apps : List DeclaredApplication} {name : String}
    (cached : progress.Cached organisationID)
    (distinct : (apps.map (·.name)).Nodup)
    (declared : name ∈ apps.map (·.name)) :
    ∃ record,
      (progress.withApplications draws organisationID apps).appMap.lookup
          name = some record ∧
        (progress.withApplications draws organisationID
          apps).database.hasApplication record.id = true := by
  obtain ⟨app, member, rfl⟩ := List.mem_map.mp declared
  have stored := lookup_withApplications draws cached distinct
    (organisationID, app.name)
  rw [declaredAs_of_mem distinct member] at stored
  refine ⟨_, (cached.withApplications apps app.name).trans stored, ?_⟩
  exact Database.hasApplication_iff.mpr ⟨_, _, stored, rfl⟩

/-- Validation has looked up the applications of every rule. -/
theorem known_of_valid {config : Config} (valid : config.manifest.Valid)
    (cached : progress.Cached organisationID) (rule : DeclaredRule)
    (member : rule ∈ config.alertRules) :
    Known (progress.withApplications draws organisationID config.applications)
      rule.toAlertRule := by
  have declared : rule.toAlertRule ∈ config.manifest.alertRules :=
    List.mem_map_of_mem member
  exact ⟨exists_record cached valid.distinct (valid.app _ declared),
    exists_record cached valid.distinct (valid.receiver _ declared),
    valid.ruleType _ declared⟩

/-- An organisation with keys gets no other one. -/
theorem applyKey_of_keys
    (found : progress.database.listAPIKeys organisationID ≠ []) :
    applyKey engine surroundings draws organisationID progress =
      .ok (⟨progress.items, ∅⟩, progress.database) := by
  rw [applyKey, if_neg]
  rwa [List.isEmpty_iff]

/-- The keys that are made, and their items. -/
structure KeysMade (organisationID : UUID) (before : List KeyRow)
    (keys : List KeyRow) (items : List DiffItem) : Prop where
  own : ∀ row ∈ keys, row.organisationID = organisationID
  some : before.filter (fun row => row.organisationID = organisationID) ≠ [] ∨
    keys ≠ []
  items_eq_nil_iff : items = [] ↔
    before.filter (fun row => row.organisationID = organisationID) ≠ []
  kind : ∀ item ∈ items, item.kind = .apiKey

theorem applyKey_ok {plan : Plan} {after : Database}
    (applied : applyKey engine surroundings draws organisationID progress =
      .ok (plan, after)) :
    ∃ keys items,
      KeysMade organisationID progress.database.keys keys items ∧
        after = { progress.database with
          keys := progress.database.keys ++ keys } ∧
        plan.items = progress.items ++ items := by
  unfold applyKey at applied
  split_ifs at applied with empty
  · rw [Database.listAPIKeys, List.isEmpty_iff] at empty
    cases chosen : defaultKey surroundings draws with
    | error error =>
        rw [chosen] at applied
        cases applied
    | ok key =>
        rw [chosen] at applied
        cases created : progress.database.createAPIKey engine organisationID
            defaultKeyName (keyLookup key) with
        | error refusal =>
            simp only [created] at applied
            cases applied
        | ok made =>
            simp only [created] at applied
            cases applied
            obtain ⟨_, _, _, _, rfl⟩ :=
              Database.createAPIKey_ok_iff.mp created
            refine ⟨_, _, ⟨?_, .inr ?_, ?_, ?_⟩, rfl, rfl⟩
            · simp
            · simp
            · simp [empty]
            · simp
  · rw [Database.listAPIKeys, List.isEmpty_iff] at empty
    cases applied
    exact ⟨[], [], ⟨by simp, .inl empty, by simp [empty], by simp⟩, by simp,
      by simp⟩

/-- The variables between the two loops. -/
def Config.between (config : Config) (draws : Draws) (opened : Database)
    (organisationID : UUID) (item : DiffItem) : Progress :=
  (Progress.start opened organisationID item).withApplications draws
    organisationID config.applications

theorem Config.between_cached (config : Config) (draws : Draws)
    (opened : Database) (organisationID : UUID) (item : DiffItem) :
    (config.between draws opened organisationID item).Cached organisationID :=
  (start_cached opened organisationID item).withApplications
    config.applications

/-- The applications are all that changes between the loops. -/
theorem Config.between_rest (config : Config) (draws : Draws)
    (opened : Database) (organisationID : UUID) (item : DiffItem) :
    (config.between draws opened organisationID item).database =
      { opened with
        applications := (config.between draws opened organisationID
          item).database.applications } :=
  withApplications_rest draws organisationID _ config.applications

/-- What a successful run has gone through. -/
structure Outcome (engine : Engine) (surroundings : Surroundings)
    (draws : Draws) (database : Database) (config : Config) (plan : Plan)
    (after : Database) where
  opened : Database
  organisationID : UUID
  item : DiffItem
  rows : List RuleRow
  keys : List KeyRow
  keyItems : List DiffItem
  opens : applyOrganisation engine draws database config.organisation =
    .ok (opened, organisationID, item)
  loop : config.applications.foldlM
    (applyApplication engine draws organisationID)
    (Progress.start opened organisationID item) =
      .ok (config.between draws opened organisationID item)
  made : (missing
      (fun rule : DeclaredRule =>
        rule.key (config.between draws opened organisationID item).appMap)
      (opened.rules.map RuleRow.key) config.alertRules).mapM
    (makeRow engine surroundings
      (config.between draws opened organisationID item).appMap) = .ok rows
  keysMade : KeysMade organisationID opened.keys keys keyItems
  isAfter : after = { opened with
    applications :=
      (config.between draws opened organisationID item).database.applications
    rules := opened.rules ++ rows
    keys := opened.keys ++ keys }
  isPlan : plan.items =
    [item] ++ config.applications.map (fun app =>
      app.item (opened.listApplicationsByOrganisation organisationID)) ++
    List.zipWith (fun rule isNew => rule.item isNew .none) config.alertRules
      (isMissing
        (fun rule : DeclaredRule =>
          rule.key (config.between draws opened organisationID item).appMap)
        (opened.rules.map RuleRow.key) config.alertRules) ++
    planeItems config.dataPlanes ++ keyItems

theorem apply_ok {database after : Database} {config : Config} {plan : Plan}
    (valid : config.manifest.Valid)
    (applied : apply engine surroundings draws database config =
      .ok (plan, after)) :
    Nonempty (Outcome engine surroundings draws database config plan after) := by
  unfold apply at applied
  obtain ⟨⟨opened, organisationID, item⟩, opens, applied⟩ :=
    bind_ok_iff.mp applied
  obtain ⟨progress, loop, applied⟩ := bind_ok_iff.mp applied
  obtain ⟨last, rules, key⟩ := bind_ok_iff.mp applied
  have cached := start_cached opened organisationID item
  have isBetween : progress =
      config.between draws opened organisationID item :=
    applyApplications_ok cached loop
  subst isBetween
  have rest := config.between_rest draws opened organisationID item
  have items : (config.between draws opened organisationID item).items =
      [item] ++ config.applications.map fun app =>
        app.item (opened.listApplicationsByOrganisation organisationID) :=
    items_withApplications draws organisationID _ valid.distinct
  have known : ∀ rule ∈ config.alertRules,
      Known (config.between draws opened organisationID item)
        rule.toAlertRule :=
    known_of_valid valid cached
  rw [applyRules_eq known, map_ok_iff] at rules
  obtain ⟨rows, made, rfl⟩ := rules
  obtain ⟨keys, keyItems, keysMade, isAfter, isPlan⟩ := applyKey_ok key
  have sameRules := congrArg Database.rules rest
  have sameKeys := congrArg Database.keys rest
  simp only at sameRules sameKeys
  simp only [Progress.withRules, sameRules, sameKeys, items]
    at made keysMade isAfter isPlan
  refine ⟨⟨opened, organisationID, item, rows, keys, keyItems, opens, loop,
    made, keysMade, ?_, isPlan⟩⟩
  rw [isAfter, rest]

/-! ## Names and identifiers -/

/-- What a rule is found by, in the names of the manifest. -/
def AlertRule.names (rule : AlertRule) : String × String × String :=
  (rule.app, rule.ruleType, rule.receiver)

/-- The row is of the rule's application, type and receiving application. -/
def Database.IsFor (database : Database) (organisation : String)
    (rule : AlertRule) (row : RuleRow) : Prop :=
  ∃ organisationID app receiving,
    database.organisations.lookup organisation = some organisationID ∧
      database.applications.lookup (organisationID, rule.app) = some app ∧
        database.applications.lookup (organisationID, rule.receiver) =
            some receiving ∧
          row.applicationID = app.id ∧
            row.receivingApplicationID = receiving.id ∧
              row.ruleType = rule.ruleType

/-- Different names have different identifiers. -/
theorem key_eq_iff_names (cached : progress.Cached organisationID)
    (sound : progress.database.Sound) {first second : AlertRule}
    (isKnown : Known progress first) (otherKnown : Known progress second) :
    first.key progress.appMap = second.key progress.appMap ↔
      first.names = second.names := by
  have apart : ∀ {one other : String} {record another : ApplicationRecord},
      progress.appMap.lookup one = some record →
        progress.appMap.lookup other = some another →
          record.id = another.id → one = other := by
    intro one other record another isOne isOther same
    rw [cached] at isOne isOther
    have named := sound.applicationKey _ _ record another isOne isOther same
    exact (Prod.mk.inj named).2
  obtain ⟨⟨app, isApp, _⟩, ⟨receiving, isReceiver, _⟩, _⟩ := isKnown
  obtain ⟨⟨otherApp, isOtherApp, _⟩, ⟨otherReceiving, isOtherReceiver, _⟩, _⟩ :=
    otherKnown
  simp only [AlertRule.key, AlertRule.names, isApp, isReceiver,
    isOtherApp, isOtherReceiver, Option.map_some, Prod.mk.injEq,
    Option.some_inj]
  constructor
  · rintro ⟨sameApp, sameType, sameReceiver⟩
    exact ⟨apart isApp isOtherApp sameApp, sameType,
      apart isReceiver isOtherReceiver sameReceiver⟩
  · rintro ⟨sameApp, sameType, sameReceiver⟩
    rw [sameApp, isOtherApp] at isApp
    rw [sameReceiver, isOtherReceiver] at isReceiver
    cases isApp
    cases isReceiver
    exact ⟨rfl, sameType, rfl⟩

namespace Outcome

variable {database after : Database} {config : Config} {plan : Plan}
variable (outcome : Outcome engine surroundings draws database config plan after)

/-- The variables between the loops. -/
def between : Progress :=
  config.between draws outcome.opened outcome.organisationID outcome.item

/-- What the rules are looked for by. -/
def key (rule : DeclaredRule) : Option UUID × String × Option UUID :=
  rule.toAlertRule.key outcome.between.appMap

theorem cached : outcome.between.Cached outcome.organisationID :=
  config.between_cached draws outcome.opened outcome.organisationID outcome.item

theorem between_sound (sound : database.Sound) :
    outcome.between.database.Sound :=
  applyApplications_sound (start_cached _ _ _)
    (applyOrganisation_sound sound outcome.opens) outcome.loop

theorem known (valid : config.manifest.Valid) (rule : DeclaredRule)
    (member : rule ∈ config.alertRules) :
    Known outcome.between rule.toAlertRule :=
  known_of_valid valid (start_cached _ _ _) rule member

/-- Apart from the organisations nothing is changed before the loops. -/
theorem opened_eq : outcome.opened =
    { database with organisations := outcome.opened.organisations } := by
  rcases applyOrganisation_ok_iff.mp outcome.opens with
    ⟨id, _, same⟩ | ⟨_, _, _, same⟩
  · rw [Prod.mk.injEq] at same
    rw [same.1]
  · rw [Prod.mk.injEq] at same
    rw [same.1]

theorem opened_rules : outcome.opened.rules = database.rules := by
  have same := congrArg Database.rules outcome.opened_eq
  exact same

theorem opened_keys : outcome.opened.keys = database.keys := by
  have same := congrArg Database.keys outcome.opened_eq
  exact same

theorem after_organisations :
    after.organisations = outcome.opened.organisations := by
  have same := congrArg Database.organisations outcome.isAfter
  exact same

theorem after_applications :
    after.applications = outcome.between.database.applications := by
  have same := congrArg Database.applications outcome.isAfter
  exact same

theorem after_rules : after.rules = database.rules ++ outcome.rows := by
  rw [← outcome.opened_rules]
  exact congrArg Database.rules outcome.isAfter

theorem after_keys : after.keys = database.keys ++ outcome.keys := by
  rw [← outcome.opened_keys]
  exact congrArg Database.keys outcome.isAfter

theorem lookup_organisation :
    outcome.opened.organisations.lookup config.organisation =
      some outcome.organisationID := by
  rcases applyOrganisation_ok_iff.mp outcome.opens with
    ⟨id, found, same⟩ | ⟨_, _, _, same⟩
  · simp only [Prod.mk.injEq] at same
    rw [same.1, same.2.1, found]
  · simp only [Prod.mk.injEq] at same
    rw [same.1, same.2.1]
    exact AList.lookup_insert _

/-- An organisation that was there is the one of the manifest. -/
theorem found_organisation
    (isThere : database.hasOrganisation outcome.organisationID = true) :
    database.organisations.lookup config.organisation =
      some outcome.organisationID := by
  rcases applyOrganisation_ok_iff.mp outcome.opens with
    ⟨id, found, same⟩ | ⟨_, _, fresh, same⟩
  · simp only [Prod.mk.injEq] at same
    rw [same.2.1, found]
  · simp only [Prod.mk.injEq] at same
    rw [same.2.1, fresh] at isThere
    cases isThere

theorem organisationID_eq {id : UUID}
    (found : database.organisations.lookup config.organisation = some id) :
    outcome.organisationID = id := by
  rcases applyOrganisation_ok_iff.mp outcome.opens with
    ⟨other, isOther, same⟩ | ⟨absent, _⟩
  · simp only [Prod.mk.injEq] at same
    rw [found] at isOther
    cases isOther
    exact same.2.1
  · rw [found] at absent
    cases absent

/-- A row keeps its identifier. -/
theorem kept_id (valid : config.manifest.Valid) {name : UUID × String}
    {record : ApplicationRecord}
    (found : database.applications.lookup name = some record) :
    ∃ current, outcome.between.database.applications.lookup name =
        some current ∧ current.id = record.id := by
  have opened : outcome.opened.applications.lookup name = some record := by
    rw [outcome.opened_eq]
    exact found
  have stored := lookup_withApplications draws
    (start_cached outcome.opened outcome.organisationID outcome.item)
    valid.distinct name
  rw [show (Progress.start outcome.opened outcome.organisationID
    outcome.item).database.applications.lookup name = some record from opened]
    at stored
  cases declared : declaredAs outcome.organisationID
      config.manifest.applications name with
  | some app =>
      rw [declared] at stored
      exact ⟨_, stored, rfl⟩
  | none =>
      rw [declared] at stored
      exact ⟨_, stored, rfl⟩

/-- An application that was there has the name it had. -/
theorem found_application (sound : database.Sound)
    (valid : config.manifest.Valid) {name : String}
    {record : ApplicationRecord} {id : UUID}
    (current : outcome.between.appMap.lookup name = some record)
    (isThere : database.hasApplication id = true) (same : record.id = id) :
    ∃ old, database.applications.lookup (outcome.organisationID, name) =
      some old ∧ old.id = id := by
  obtain ⟨key, old, found, isOld⟩ := Database.hasApplication_iff.mp isThere
  obtain ⟨kept, isKept, keptID⟩ := outcome.kept_id valid found
  have named : key = (outcome.organisationID, name) := by
    apply (outcome.between_sound sound).applicationKey _ _ kept record isKept
    · rw [← outcome.cached name]
      exact current
    · rw [keptID, isOld, same]
  rw [named] at found
  exact ⟨old, found, isOld⟩

theorem key_eq_iff (sound : database.Sound) (valid : config.manifest.Valid)
    {first second : DeclaredRule} (isFirst : first ∈ config.alertRules)
    (isSecond : second ∈ config.alertRules) :
    outcome.key first = outcome.key second ↔
      first.names = second.names :=
  key_eq_iff_names outcome.cached (outcome.between_sound sound)
    (outcome.known valid first isFirst) (outcome.known valid second isSecond)

/-- A row of the store is found exactly for the rules it is for. -/
theorem key_eq_iff_isFor (sound : database.Sound)
    (valid : config.manifest.Valid) {rule : DeclaredRule}
    (member : rule ∈ config.alertRules) {row : RuleRow}
    (stored : row ∈ database.rules) :
    row.key = outcome.key rule ↔
      database.IsFor config.organisation rule.toAlertRule row := by
  obtain ⟨⟨app, isApp, _⟩, ⟨receiving, isReceiver, _⟩, _⟩ :=
    outcome.known valid rule member
  simp only [key, RuleRow.key, AlertRule.key, isApp, isReceiver,
    Option.map_some, Prod.mk.injEq, Option.some_inj]
  constructor
  · rintro ⟨ofApp, ofType, receives⟩
    obtain ⟨old, isOld, oldID⟩ := outcome.found_application sound valid isApp
      (sound.ofApplications row stored).1 ofApp.symm
    obtain ⟨oldReceiver, isOldReceiver, oldReceiverID⟩ :=
      outcome.found_application sound valid isReceiver
        (sound.ofApplications row stored).2 receives.symm
    refine ⟨outcome.organisationID, old, oldReceiver, ?_, isOld, isOldReceiver,
      oldID.symm, oldReceiverID.symm, ofType⟩
    exact outcome.found_organisation (sound.ofOrganisation _ old isOld)
  · rintro ⟨id, old, oldReceiver, isID, isOld, isOldReceiver, ofApp, receives,
      ofType⟩
    have sameID := outcome.organisationID_eq isID
    subst sameID
    have current : ∀ {name : String} {record old : ApplicationRecord},
        outcome.between.appMap.lookup name = some record →
          database.applications.lookup (outcome.organisationID, name) =
              some old →
            record.id = old.id := by
      intro name record old isRecord isOld
      obtain ⟨kept, isKept, keptID⟩ := outcome.kept_id valid isOld
      rw [← outcome.cached name, isRecord] at isKept
      cases isKept
      exact keptID
    exact ⟨ofApp.trans (current isApp isOld).symm, ofType,
      receives.trans (current isReceiver isOldReceiver).symm⟩

theorem key_mem_iff (sound : database.Sound) (valid : config.manifest.Valid)
    {rule : DeclaredRule} (member : rule ∈ config.alertRules) :
    outcome.key rule ∈ database.rules.map RuleRow.key ↔
      ∃ row ∈ database.rules,
        database.IsFor config.organisation rule.toAlertRule row := by
  rw [List.mem_map]
  constructor
  · rintro ⟨row, stored, found⟩
    exact ⟨row, stored,
      (outcome.key_eq_iff_isFor sound valid member stored).mp found⟩
  · rintro ⟨row, stored, isFor⟩
    exact ⟨row, stored,
      (outcome.key_eq_iff_isFor sound valid member stored).mpr isFor⟩

end Outcome

end DbosRelay.Declarative
