import DbosRelay.Declarative.Convergence
import Mathlib.Data.List.TakeWhile

/-!
# Whether validation is sufficient

A valid manifest, applied to the store after its migrations, is refused by the
database in four cases: `Validate` does not look at the name of the organisation
at all; it allows an application a name one character longer than the schema does;
it does not look into descriptions and metadata, where PostgreSQL takes no NUL
character and no metadata that cannot be marshalled; and a key from the environment
is cut after twelve bytes, which PostgreSQL does not take where they end within a
character.
-/

namespace DbosRelay.Declarative

open DbosRelay.Applications
open DbosRelay.Basic
open DbosRelay.Library.GoJson
open DbosRelay.Library.Reconciliation
open DbosRelay.Library.Results
open DbosRelay.Library.Tables

/-! ## Refusals -/

/-- The run fails because the database refuses a statement. -/
def Refused {Result : Type} (outcome : Except ApplyError Result) : Prop :=
  ∃ error, outcome = .error error ∧ error.refusal.isSome = true

/-- Every secret of the alert rules is there. -/
def Config.SecretsResolve (config : Config) (surroundings : Surroundings) :
    Prop :=
  ∀ rule ∈ config.alertRules, ∃ metadata,
    resolveDestinations surroundings rule.ruleType rule.metadata = .ok metadata

/-- Different applications draw different identifiers. -/
def Draws.Distinct (draws : Draws) (config : Config) : Prop :=
  ∀ first ∈ config.applications, ∀ second ∈ config.applications,
    draws.applicationID first.name = draws.applicationID second.name →
      first.name = second.name

/-- The database takes the metadata of a rule. -/
def Engine.TakesMetadata (engine : Engine) (surroundings : Surroundings)
    (rule : DeclaredRule) : Prop :=
  match engine with
  | .postgres => ∃ document,
      rule.resolvedMetadata surroundings = some document ∧
        isText document = true
  | .sqlite => True

/-- What the schema asks for over and above `Validate`. -/
structure Config.Admissible (config : Config) (engine : Engine)
    (surroundings : Surroundings) (draws : Draws) : Prop where
  organisation : engine.isOrganisationName config.organisation = true
  names : ∀ app ∈ config.applications, app.name.length ≠ 256
  descriptions : engine = .postgres →
    ∀ app ∈ config.applications, hasNoNul app.description = true
  metadata : ∀ rule ∈ config.alertRules,
    config.alertRules.find? (fun other => other.names = rule.names) =
      some rule → engine.TakesMetadata surroundings rule
  key : ∀ key, defaultKey surroundings draws = .ok key →
    engine.takesText (keyLookup key) = true

/-! ## Names and settings -/

theorem length_eq_of_hasNoNul {name : String} (plain : hasNoNul name = true) :
    Engine.length name = name.length := by
  rw [hasNoNul, List.all_eq_true] at plain
  rw [Engine.length, List.takeWhile_eq_self_iff.mpr plain]
  exact String.length_toList

theorem hasNoNul_of_isAppName {name : String}
    (valid : isAppName name = true) : hasNoNul name = true := by
  rw [isAppName, Bool.and_eq_true, List.all_eq_true] at valid
  rw [hasNoNul, List.all_eq_true]
  intro char member
  have allowed := valid.2 char member
  rw [decide_eq_true_eq]
  rintro rfl
  revert allowed
  decide

/-- Of the names that are validated, the schema refuses the longest. -/
theorem isApplicationName_iff {engine : Engine} {name : String}
    (valid : isAppName name = true) :
    engine.isApplicationName name = true ↔ name.length ≠ 256 := by
  have plain := length_eq_of_hasNoNul (hasNoNul_of_isAppName valid)
  simp only [isAppName, Bool.and_eq_true, decide_eq_true_eq] at valid
  obtain ⟨⟨least, most⟩, alphabet⟩ := valid
  cases engine with
  | postgres =>
      simp only [Engine.isApplicationName, Bool.and_eq_true,
        decide_eq_true_eq]
      constructor
      · rintro ⟨⟨_, short⟩, _⟩
        omega
      · intro differs
        exact ⟨⟨least, by omega⟩, alphabet⟩
  | sqlite =>
      simp only [Engine.isApplicationName, Bool.and_eq_true,
        decide_eq_true_eq, plain]
      omega

/-- Of the settings of a new application only the description is text. -/
theorem takes_new_iff {engine : Engine} {app : DeclaredApplication} :
    engine.takes (Database.settingsDocument (appliedSettings app none)) =
        true ↔
      (engine = .postgres → hasNoNul app.description = true) := by
  cases engine with
  | sqlite => simp [Engine.takes]
  | postgres =>
      simp only [true_implies]
      show areTextMembers (appliedSettings app none).members = true ↔ _
      rw [areTextMembers_iff]
      have written : ∀ key json, (key, json) ∈ (appliedSettings app
          none).members ↔ askedByManifest app key = some (some json) := by
        intro key json
        rw [Settings.mem_members, lookup_appliedSettings]
        cases askedByManifest app key with
        | none => simp
        | some value => simp
      constructor
      · intro every
        by_cases empty : app.description = ""
        · rw [empty]
          rfl
        · have isThere : ("description", Json.string app.description) ∈
              (appliedSettings app none).members := by
            rw [written]
            simp [askedByManifest, empty]
          exact (every _ isThere).2
      · rintro plain ⟨key, json⟩ member
        rw [written, askedByManifest] at member
        split_ifs at member with timeout sla description
        · cases member
          rw [timeout.1]
          exact ⟨show hasNoNul "executorTimeoutSecs" = true by decide, rfl⟩
        · cases member
          rw [sla.1]
          exact ⟨show hasNoNul "stuck_sla_secs" = true by decide, rfl⟩
        · cases member
          rw [description.1]
          exact ⟨show hasNoNul "description" = true by decide, plain⟩

/-! ## The run on the empty store -/

variable {engine : Engine} {surroundings : Surroundings} {draws : Draws}
variable {organisationID : UUID} {progress : Progress}

/-- An application is only refused by the database. -/
theorem applyApplication_error {app : DeclaredApplication} {error : ApplyError}
    (failed : applyApplication engine draws organisationID progress app =
      .error error) : error.refusal.isSome = true := by
  unfold applyApplication at failed
  cases found : progress.appMap.lookup app.name with
  | none =>
      simp only [found] at failed
      cases written : progress.database.createApplication engine
          (draws.applicationID app.name) organisationID app.name
            (appliedSettings app none) with
      | error refusal =>
          simp only [Option.map_none, written] at failed
          cases failed
          rfl
      | ok result =>
          simp only [Option.map_none, written] at failed
          cases failed
  | some record =>
      simp only [found] at failed
      cases written : progress.database.updateApplicationSettings engine
          organisationID app.name
            (appliedSettings app (some record.settings)) with
      | error refusal =>
          simp only [Option.map_some, written] at failed
          cases failed
          rfl
      | ok result =>
          simp only [Option.map_some, written] at failed
          cases failed

/-- Where the secrets resolve, the database takes the metadata or refuses it. -/
theorem storedMetadata_cases (engine : Engine) {rule : DeclaredRule}
    (resolves : ∃ metadata, resolveDestinations surroundings rule.ruleType
      rule.metadata = .ok metadata) :
    engine.TakesMetadata surroundings rule ∧
        (∃ document, rule.storedMetadata engine surroundings = .ok document) ∨
      ¬engine.TakesMetadata surroundings rule ∧
        Refused (rule.storedMetadata engine surroundings) := by
  obtain ⟨metadata, resolved⟩ := resolves
  have document : rule.resolvedMetadata surroundings =
      metadataDocument metadata := by
    rw [DeclaredRule.resolvedMetadata, resolved]
  have column : rule.storedMetadata engine surroundings =
      (engine.metadataColumn (metadataDocument metadata)).mapError
        (ApplyError.creatingRule rule.ruleType) := by
    rw [DeclaredRule.storedMetadata, resolved]
    rfl
  rw [column]
  unfold Engine.TakesMetadata
  rw [document]
  cases metadataDocument metadata with
  | none =>
      cases engine with
      | postgres => exact .inr ⟨by simp, _, rfl, rfl⟩
      | sqlite => exact .inl ⟨trivial, _, rfl⟩
  | some json =>
      cases engine with
      | postgres =>
          by_cases plain : isText json = true
          · left
            refine ⟨⟨json, rfl, plain⟩, json, ?_⟩
            simp [Engine.metadataColumn, Engine.takes, plain, Except.mapError]
          · right
            refine ⟨?_, .creatingRule rule.ruleType (.text "rule_metadata"), ?_,
              rfl⟩
            · rintro ⟨document, same, isPlain⟩
              cases same
              exact plain isPlain
            · simp [Engine.metadataColumn, Engine.takes, plain,
                Except.mapError]
      | sqlite => exact .inl ⟨trivial, _, rfl⟩

theorem defaultKey_error {error : ApplyError}
    (failed : defaultKey surroundings draws = .error error) :
    error.refusal = none := by
  simp only [defaultKey] at failed
  split_ifs at failed
  · cases failed
    rfl
  · split at failed
    · cases failed
      rfl
    · cases failed

/-- Of a key for a store without keys only the bytes it is looked up by matter. -/
theorem not_refused_applyKey_iff (none : progress.database.keys = [])
    (isThere : progress.database.hasOrganisation organisationID = true) :
    ¬Refused (applyKey engine surroundings draws organisationID progress) ↔
      ∀ key, defaultKey surroundings draws = .ok key →
        engine.takesText (keyLookup key) = true := by
  have empty : progress.database.listAPIKeys organisationID = [] := by
    rw [Database.listAPIKeys, none]
    rfl
  rw [applyKey, empty, if_pos List.isEmpty_nil]
  cases chosen : defaultKey surroundings draws with
  | error error =>
      refine iff_of_true ?_ ?_
      · rintro ⟨_, same, isRefusal⟩
        cases same
        rw [defaultKey_error chosen] at isRefusal
        cases isRefusal
      · rintro _ ⟨⟩
  | ok key =>
      by_cases taken : engine.takesText (keyLookup key) = true
      · have created : progress.database.createAPIKey engine organisationID
            defaultKeyName (keyLookup key) = .ok { progress.database with
              keys := progress.database.keys ++
                [⟨organisationID, defaultKeyName, keyLookup key, false⟩] } := by
          rw [Database.createAPIKey_ok_iff, none]
          exact ⟨taken, isThere, rfl, rfl, rfl⟩
        simp only [created]
        refine iff_of_true ?_ ?_
        · rintro ⟨_, same, _⟩
          cases same
        · rintro _ ⟨⟩
          exact taken
      · have refused : progress.database.createAPIKey engine organisationID
            defaultKeyName (keyLookup key) = .error (.text "lookup") := by
          rw [Database.createAPIKey, if_pos (by simpa using taken)]
        simp only [refused]
        refine iff_of_false (not_not_intro ⟨_, rfl, rfl⟩) ?_
        exact fun every => taken (every key rfl)

/-- Twelve bytes may end within a character. -/
example : Engine.postgres.takesText (keyLookup "dbos_ordersé") = false := by
  decide

/-- The store with nothing but the organisation. -/
def openedStore (draws : Draws) (name : String) : Database :=
  { Database.empty with
    organisations :=
      (∅ : Table String UUID).insert name draws.organisationID }

theorem openedStore_sound (draws : Draws) (name : String) :
    (openedStore draws name).Sound :=
  Store.empty.sound.insertOrganisation rfl rfl

theorem hasOrganisation_openedStore (draws : Draws) (name : String) :
    (openedStore draws name).hasOrganisation draws.organisationID = true :=
  Database.hasOrganisation_iff.mpr ⟨name, AList.lookup_insert _⟩

/-- The loop over the applications, all of them new. -/
theorem applyApplications_new (engine : Engine) (item : DiffItem)
    {config : Config} (valid : config.manifest.Valid) (distinct : draws.Distinct config) :
    ((∀ app ∈ config.applications, app.name.length ≠ 256) ∧
      (engine = .postgres →
        ∀ app ∈ config.applications, hasNoNul app.description = true)) ∧
      config.applications.foldlM
          (applyApplication engine draws draws.organisationID)
          (Progress.start (openedStore draws config.organisation)
            draws.organisationID item) =
        .ok (config.between draws (openedStore draws config.organisation)
          draws.organisationID item) ∨
    ¬((∀ app ∈ config.applications, app.name.length ≠ 256) ∧
      (engine = .postgres →
        ∀ app ∈ config.applications, hasNoNul app.description = true)) ∧
      Refused (config.applications.foldlM
        (applyApplication engine draws draws.organisationID)
        (Progress.start (openedStore draws config.organisation)
          draws.organisationID item)) := by
  have cached := start_cached (openedStore draws config.organisation)
    draws.organisationID item
  have new : ∀ name, (Progress.start (openedStore draws config.organisation)
      draws.organisationID item).appMap.lookup name = none :=
    fun name => (cached name).trans rfl
  by_cases admissible :
      (∀ app ∈ config.applications, app.name.length ≠ 256) ∧
        (engine = .postgres →
          ∀ app ∈ config.applications, hasNoNul app.description = true)
  · refine .inl ⟨admissible, ?_⟩
    apply applyApplications_of_takes cached valid.distinct
    · intro app member
      rw [new]
      refine ⟨takes_new_iff.mpr fun isPostgres =>
        admissible.2 isPostgres app member, ?_, ?_, ?_⟩
      · exact fun _ => hasOrganisation_openedStore draws _
      · exact fun _ => (isApplicationName_iff (valid.names app member)).mpr
          (admissible.1 app member)
      · exact fun _ => rfl
    · have apart := List.pairwise_map.mp valid.distinct
      refine apart.imp_of_mem ?_
      intro first second isFirst isSecond differs _ same
      rw [new, appliedRecord] at same
      exact differs (distinct second isSecond first isFirst same).symm
  · refine .inr ⟨admissible, ?_⟩
    cases run : config.applications.foldlM
        (applyApplication engine draws draws.organisationID)
        (Progress.start (openedStore draws config.organisation)
          draws.organisationID item) with
    | error error =>
        obtain ⟨_, _, _, failed⟩ := foldlM_error run
        exact ⟨error, rfl, applyApplication_error failed⟩
    | ok after =>
        exfalso
        have each := takes_of_applyApplications cached valid.distinct run
        apply admissible
        constructor
        · intro app member
          exact (isApplicationName_iff (valid.names app member)).mp
            ((each app member).2 (new app.name))
        · intro isPostgres app member
          have takes := (each app member).1
          rw [new] at takes
          exact takes_new_iff.mp takes isPostgres

/-- The rules of which a row is made, on a store without rules. -/
theorem mem_missing_iff {config : Config} {item : DiffItem} {opened : Database}
    (valid : config.manifest.Valid)
    (sound : (config.between draws opened organisationID
      item).database.Sound) {rule : DeclaredRule}
    (member : rule ∈ config.alertRules) :
    rule ∈ missing (fun rule : DeclaredRule => rule.key (config.between draws
        opened organisationID item).appMap) [] config.alertRules ↔
      config.alertRules.find? (fun other => other.names = rule.names) =
        some rule := by
  have known : ∀ rule ∈ config.alertRules, Known (config.between draws opened
      organisationID item) rule.toAlertRule :=
    known_of_valid valid (start_cached opened organisationID item)
  have sameFind : config.alertRules.find? (fun other => other.key
      (config.between draws opened organisationID item).appMap = rule.key
        (config.between draws opened organisationID item).appMap) =
          config.alertRules.find? fun other => other.names = rule.names := by
    apply List.find?_congr
    intro other isOther
    rw [decide_eq_decide]
    exact key_eq_iff_names (config.between_cached draws opened organisationID
      item) sound (known other isOther) (known rule member)
  rw [mem_missing, sameFind]
  simp

theorem makeRow_ok {appMap : Table String ApplicationRecord}
    {rule : DeclaredRule} {document : Json}
    (stored : rule.storedMetadata engine surroundings = .ok document) :
    ∃ row, makeRow engine surroundings appMap rule = .ok row :=
  ⟨_, map_ok_iff.mpr ⟨document, stored, rfl⟩⟩

theorem refused_makeRow {appMap : Table String ApplicationRecord}
    {rule : DeclaredRule}
    (refused : Refused (rule.storedMetadata engine surroundings)) :
    Refused (makeRow engine surroundings appMap rule) := by
  obtain ⟨error, failed, isRefusal⟩ := refused
  refine ⟨error, ?_, isRefusal⟩
  rw [makeRow, failed]
  rfl

theorem refused_bind {Value Result : Type} {outcome : Except ApplyError Value}
    (next : Value → Except ApplyError Result) (refused : Refused outcome) :
    Refused (outcome >>= next) := by
  obtain ⟨error, rfl, isRefusal⟩ := refused
  exact ⟨error, rfl, isRefusal⟩

/-- The loop over the rules, on a store without rules. -/
theorem applyRules_new (engine : Engine) {config : Config} {item : DiffItem}
    {opened : Database}
    (valid : config.manifest.Valid) (resolve :
      config.SecretsResolve surroundings) (none : opened.rules = [])
    (sound : (config.between draws opened organisationID
      item).database.Sound) :
    ((∀ rule ∈ config.alertRules,
        config.alertRules.find? (fun other => other.names = rule.names) =
          some rule → engine.TakesMetadata surroundings rule) ∧
      ∃ rows items, config.alertRules.foldlM (applyRule engine surroundings)
          (config.between draws opened organisationID item) =
        .ok ((config.between draws opened organisationID item).withRules rows
          items)) ∨
    (¬(∀ rule ∈ config.alertRules,
        config.alertRules.find? (fun other => other.names = rule.names) =
          some rule → engine.TakesMetadata surroundings rule) ∧
      Refused (config.alertRules.foldlM (applyRule engine surroundings)
        (config.between draws opened organisationID item))) := by
  have known : ∀ rule ∈ config.alertRules, Known (config.between draws opened
      organisationID item) rule.toAlertRule :=
    known_of_valid valid (start_cached opened organisationID item)
  have noRules : (config.between draws opened organisationID
      item).database.rules = [] := by
    rw [config.between_rest, none]
  rw [applyRules_eq known, noRules, List.map_nil]
  have declared : ∀ rule ∈ missing (fun rule : DeclaredRule => rule.key
      (config.between draws opened organisationID item).appMap) []
        config.alertRules, rule ∈ config.alertRules :=
    fun rule member => List.mem_of_find?_eq_some (mem_missing.mp member).2
  cases run : (missing (fun rule : DeclaredRule => rule.key (config.between
      draws opened organisationID item).appMap) [] config.alertRules).mapM
        (makeRow engine surroundings (config.between draws opened
          organisationID item).appMap) with
  | ok rows =>
      refine .inl ⟨?_, rows, _, rfl⟩
      intro rule member isFirst
      obtain ⟨row, _, made⟩ := exists_of_mapM run
        ((mem_missing_iff valid sound member).mpr isFirst)
      rcases storedMetadata_cases engine (resolve rule member) with
        ⟨takes, _⟩ | ⟨_, refused⟩
      · exact takes
      · obtain ⟨error, failed, _⟩ := refused_makeRow refused
        rw [made] at failed
        cases failed
  | error error =>
      obtain ⟨rule, isMissing, failed⟩ := mapM_error run
      have member := declared rule isMissing
      rcases storedMetadata_cases engine (resolve rule member) with
        ⟨_, document, stored⟩ | ⟨refuses, refused⟩
      · obtain ⟨row, made⟩ := makeRow_ok stored
        rw [made] at failed
        cases failed
      · right
        refine ⟨fun every => refuses (every rule member
          ((mem_missing_iff valid sound member).mp isMissing)), ?_⟩
        obtain ⟨other, isOther, isRefusal⟩ := refused_makeRow refused
        rw [isOther] at failed
        cases failed
        exact ⟨error, rfl, isRefusal⟩

/-! ## Sufficiency -/

theorem refused_apply_iff {store : Store} {config : Config} :
    Refused (store.apply engine surroundings draws config) ↔
      Refused (apply engine surroundings draws store.database config) := by
  unfold Refused
  simp only [Store.apply_error_iff]

/--
A valid manifest whose secrets resolve is not refused by the empty store exactly if
it also keeps what the schema asks for beyond the validation.
-/
theorem not_refused_iff (engine : Engine) (surroundings : Surroundings)
    (draws : Draws) (config : Config)
    (valid : config.manifest.validate = .ok ())
    (resolve : config.SecretsResolve surroundings)
    (distinct : draws.Distinct config) :
    ¬Refused (Store.empty.apply engine surroundings draws config) ↔
      config.Admissible engine surroundings draws := by
  have isValid := valid_of_validate valid
  rw [refused_apply_iff]
  by_cases named : engine.isOrganisationName config.organisation = true
  · have opens : applyOrganisation engine draws .empty config.organisation =
        .ok (openedStore draws config.organisation, draws.organisationID,
          ⟨.create, .organisation, config.organisation, .none⟩) :=
      applyOrganisation_ok_iff.mpr (.inr ⟨rfl, named, rfl, rfl⟩)
    generalize (⟨.create, .organisation, config.organisation, .none⟩ :
      DiffItem) = item at opens
    have run : apply engine surroundings draws .empty config =
        (config.applications.foldlM
          (applyApplication engine draws draws.organisationID)
          (Progress.start (openedStore draws config.organisation)
            draws.organisationID item) >>= fun progress =>
          config.alertRules.foldlM (applyRule engine surroundings) progress >>=
            fun progress => applyKey engine surroundings draws
              draws.organisationID { progress with
                items := progress.items ++ planeItems config.dataPlanes }) := by
      rw [apply, opens]
      rfl
    show ¬Refused (apply engine surroundings draws .empty config) ↔ _
    rw [run]
    rcases applyApplications_new engine item isValid distinct with
      ⟨⟨names, descriptions⟩, loop⟩ | ⟨inadmissible, refused⟩
    · have sound := applyApplications_sound (start_cached _ _ item)
        (openedStore_sound draws config.organisation) loop
      have rest := config.between_rest draws
        (openedStore draws config.organisation) draws.organisationID item
      rw [loop]
      show ¬Refused (config.alertRules.foldlM _ _ >>= _) ↔ _
      rcases applyRules_new engine isValid resolve rfl sound with
        ⟨metadata, rows, items, loop⟩ | ⟨inadmissible, refused⟩
      · rw [loop]
        refine (not_refused_applyKey_iff ?_ ?_).trans
          ⟨fun key => ⟨named, names, descriptions, metadata, key⟩,
            fun admissible => admissible.key⟩
        · show (config.between draws _ _ item).database.keys = []
          rw [rest]
          rfl
        · show (config.between draws _ _ item).database.hasOrganisation _ = true
          rw [rest]
          exact hasOrganisation_openedStore draws config.organisation
      · refine iff_of_false (not_not_intro (refused_bind _ refused)) ?_
        exact fun admissible => inadmissible admissible.metadata
    · refine iff_of_false (not_not_intro (refused_bind _ refused)) ?_
      exact fun admissible =>
        inadmissible ⟨admissible.names, admissible.descriptions⟩
  · refine iff_of_false (not_not_intro ?_) (fun admissible =>
      named admissible.organisation)
    refine refused_bind _ ?_
    refine ⟨.creatingOrganisation config.organisation (.check "name"), ?_, rfl⟩
    rw [Bool.not_eq_true] at named
    have refusal : Database.empty.createOrganisation engine
        draws.organisationID config.organisation = .error (.check "name") := by
      rw [Database.createOrganisation, named]
      rfl
    show applyOrganisation engine draws .empty config.organisation = _
    rw [applyOrganisation, refusal]
    rfl

/-- An organisation of a lawful name is not refused. -/
theorem ordersConfig_notRefused :
    (ordersConfig ["WorkflowFailure"]).manifest.validate = .ok () ∧
      ¬Refused (Store.empty.apply .postgres noSurroundings sampleDraws
        (ordersConfig ["WorkflowFailure"])) := by
  refine ⟨rfl, ?_⟩
  refine (not_refused_iff .postgres noSurroundings sampleDraws
    (ordersConfig ["WorkflowFailure"]) rfl ?_ ?_).mpr ?_
  · intro rule member
    rw [List.mem_singleton.mp member]
    exact ⟨_, rfl⟩
  · intro first isFirst second isSecond _
    rw [List.mem_singleton.mp isFirst, List.mem_singleton.mp isSecond]
  · refine ⟨by decide, ?_, ?_, ?_, ?_⟩
    · intro app member
      rw [List.mem_singleton.mp member]
      decide
    · intro _ app member
      rw [List.mem_singleton.mp member]
      rfl
    · intro rule member _
      rw [List.mem_singleton.mp member]
      exact ⟨_, rfl, rfl⟩
    · rintro _ ⟨⟩
      decide

/-- A manifest of an organisation of a short name. -/
def shortConfig : Config := { ordersConfig [] with organisation := "ab" }

theorem shortConfig_refused :
    shortConfig.manifest.validate = .ok () ∧
      shortConfig.SecretsResolve noSurroundings ∧
        sampleDraws.Distinct shortConfig ∧
          ∀ engine, Refused (Store.empty.apply engine noSurroundings
            sampleDraws shortConfig) := by
  refine ⟨rfl, nofun, ?_, ?_⟩
  · intro first isFirst second isSecond _
    rw [List.mem_singleton.mp isFirst, List.mem_singleton.mp isSecond]
  · intro engine
    rw [refused_apply_iff]
    cases engine with
    | postgres => exact ⟨_, rfl, rfl⟩
    | sqlite => exact ⟨_, rfl, rfl⟩

end DbosRelay.Declarative
