import DbosRelay.Applications.Settings
import DbosRelay.Library.Runes

/-!
# The tables a manifest is applied to

`organisations`, `applications`, `alerting_rules` and `api_keys` of
`internal/store`, with the statements `Apply` executes on them and the constraints
of the two schemas.  PostgreSQL checks the alphabet of a name as well as its length,
and its columns take no NUL character and nothing but UTF-8; SQLite checks the
length, and puts an empty object for metadata that could not be marshalled.

Identifiers are drawn at random; a statement refuses one which is taken.
-/

namespace DbosRelay.Declarative

open DbosRelay.Applications
open DbosRelay.Basic
open DbosRelay.Library
open DbosRelay.Library.GoJson
open DbosRelay.Library.Tables

/-! ## The constraints -/

/-- The databases behind the store. -/
inductive Engine where
  | postgres
  | sqlite
deriving DecidableEq, Repr

/-- Why a statement is refused, and the column to blame. -/
inductive Refusal where
  | check (column : String)
  | unique (column : String)
  | foreignKey (column : String)
  | notNull (column : String)
  | text (column : String)
  | noRows
deriving DecidableEq, Repr

/-- There is no NUL character. -/
def hasNoNul (text : String) : Bool :=
  text.toList.all fun char => char ≠ '\x00'

mutual

/-- No string in the document has a NUL character. -/
def isText : Json → Bool
  | .null => true
  | .bool _ => true
  | .number _ => true
  | .string value => hasNoNul value
  | .array elements => areTexts elements
  | .object members => areTextMembers members

/-- The elements one by one. -/
def areTexts : List Json → Bool
  | [] => true
  | json :: elements => isText json && areTexts elements

/-- The members one by one. -/
def areTextMembers : List (String × Json) → Bool
  | [] => true
  | (name, json) :: members =>
      hasNoNul name && isText json && areTextMembers members

end

namespace Engine

/-- `length` of SQLite counts the characters before the first NUL. -/
def length (text : String) : Nat :=
  (text.toList.takeWhile fun char => char ≠ '\x00').length

/-- The check on `organisations.name`. -/
def isOrganisationName (engine : Engine) (name : String) : Bool :=
  match engine with
  | .postgres =>
      3 ≤ name.length && name.length ≤ 30 &&
        name.toList.all fun char =>
          ('a' ≤ char && char ≤ 'z') || ('0' ≤ char && char ≤ '9') ||
            char = '_'
  | .sqlite => 3 ≤ length name && length name ≤ 30

/-- The check on `applications.name`. -/
def isApplicationName (engine : Engine) (name : String) : Bool :=
  match engine with
  | .postgres =>
      3 ≤ name.length && name.length ≤ 255 &&
        name.toList.all fun char =>
          ('a' ≤ char && char ≤ 'z') || ('0' ≤ char && char ≤ '9') ||
            char = '-' || char = '_'
  | .sqlite => 3 ≤ length name && length name ≤ 255

/-- What a JSON column takes. -/
def takes (engine : Engine) (json : Json) : Bool :=
  match engine with
  | .postgres => isText json
  | .sqlite => true

/-- What a text column takes of a string of the program, which may be any bytes. -/
def takesText (engine : Engine) (bytes : Bytes) : Bool :=
  match engine with
  | .postgres => Runes.encode (Runes.decode bytes) = bytes && 0 ∉ bytes
  | .sqlite => true

/-- What the column `rule_metadata` holds; `none` are no bytes at all. -/
def metadataColumn (engine : Engine) :
    Option Json → Except Refusal Json
  | some json =>
      if engine.takes json then .ok json else .error (.text "rule_metadata")
  | none =>
      match engine with
      | .postgres => .error (.notNull "rule_metadata")
      | .sqlite => .ok (.object [])

end Engine

/-- The check on `alerting_rules.rule_type`. -/
def storedRuleTypes : List String :=
  ["WorkflowFailure", "SlowQueue", "UnresponsiveApplication",
    "RecoveryFlapping", "StrandedVersion"]

/-! ## The tables -/

/-- A row of `applications`, under its organisation and its name. -/
structure ApplicationRecord where
  id : UUID
  settings : Settings

/-- A row of `alerting_rules`. -/
structure RuleRow where
  applicationID : UUID
  receivingApplicationID : UUID
  ruleType : String
  metadata : Json
  minIntervalSecs : Option Int32

/-- A row of `api_keys`. -/
structure KeyRow where
  organisationID : UUID
  name : String
  lookup : Bytes
  revoked : Bool
deriving DecidableEq, Repr

/-- The tables; rules and keys are in the order of their creation. -/
structure Database where
  organisations : Table String UUID
  applications : Table (UUID × String) ApplicationRecord
  rules : List RuleRow
  keys : List KeyRow

namespace Database

/-- The tables after the migrations. -/
def empty : Database := ⟨∅, ∅, [], []⟩

/-- There is an organisation of the identifier. -/
def hasOrganisation (database : Database) (id : UUID) : Bool :=
  database.organisations.entries.any fun entry => entry.2 = id

/-- There is an application of the identifier. -/
def hasApplication (database : Database) (id : UUID) : Bool :=
  database.applications.entries.any fun entry => entry.2.id = id

theorem hasOrganisation_iff {database : Database} {id : UUID} :
    database.hasOrganisation id = true ↔
      ∃ name, database.organisations.lookup name = some id := by
  simp only [hasOrganisation, List.any_eq_true, decide_eq_true_eq]
  constructor
  · rintro ⟨⟨name, found⟩, member, rfl⟩
    exact ⟨name, mem_entries_iff.mp member⟩
  · rintro ⟨name, found⟩
    exact ⟨⟨name, id⟩, mem_entries_iff.mpr found, rfl⟩

theorem hasApplication_iff {database : Database} {id : UUID} :
    database.hasApplication id = true ↔
      ∃ key record, database.applications.lookup key = some record ∧
        record.id = id := by
  simp only [hasApplication, List.any_eq_true, decide_eq_true_eq]
  constructor
  · rintro ⟨⟨key, record⟩, member, sameID⟩
    exact ⟨key, record, mem_entries_iff.mp member, sameID⟩
  · rintro ⟨key, record, found, sameID⟩
    exact ⟨⟨key, record⟩, mem_entries_iff.mpr found, sameID⟩

/-- The keys of the tables and the references between them. -/
structure Sound (database : Database) : Prop where
  organisationKey : ∀ first second id,
    database.organisations.lookup first = some id →
      database.organisations.lookup second = some id → first = second
  applicationKey : ∀ first second record other,
    database.applications.lookup first = some record →
      database.applications.lookup second = some other →
        record.id = other.id → first = second
  ofOrganisation : ∀ key record,
    database.applications.lookup key = some record →
      database.hasOrganisation key.1 = true
  ofApplications : ∀ row ∈ database.rules,
    database.hasApplication row.applicationID = true ∧
      database.hasApplication row.receivingApplicationID = true
  keyOfOrganisation : ∀ row ∈ database.keys,
    database.hasOrganisation row.organisationID = true

/-! ## The statements -/

/-- `CreateOrganisation`. -/
def createOrganisation (engine : Engine) (database : Database) (id : UUID)
    (name : String) : Except Refusal Database :=
  if !engine.isOrganisationName name then .error (.check "name")
  else if (database.organisations.lookup name).isSome then
    .error (.unique "name")
  else if database.hasOrganisation id then .error (.unique "id")
  else
    .ok { database with organisations := database.organisations.insert name id }

/-- The bytes of `settings`, as a document. -/
def settingsDocument (settings : Settings) : Json := .object settings.members

/-- `ListApplicationsByOrganisation`, put into a map by name. -/
def listApplicationsByOrganisation (database : Database)
    (organisationID : UUID) : Table String ApplicationRecord :=
  under database.applications organisationID

/-- `CreateApplication`. -/
def createApplication (engine : Engine) (database : Database) (id : UUID)
    (organisationID : UUID) (name : String) (settings : Settings) :
    Except Refusal (Database × ApplicationRecord) :=
  if !database.hasOrganisation organisationID then
    .error (.foreignKey "organisation_id")
  else if !engine.isApplicationName name then .error (.check "name")
  else if (database.applications.lookup (organisationID, name)).isSome then
    .error (.unique "organisation_id, name")
  else if database.hasApplication id then .error (.unique "id")
  else if !engine.takes (settingsDocument settings) then
    .error (.text "settings")
  else
    .ok ({ database with
      applications :=
        database.applications.insert (organisationID, name) ⟨id, settings⟩ },
      ⟨id, settings⟩)

/-- `UpdateApplicationSettings`. -/
def updateApplicationSettings (engine : Engine) (database : Database)
    (organisationID : UUID) (name : String) (settings : Settings) :
    Except Refusal (Database × ApplicationRecord) :=
  match database.applications.lookup (organisationID, name) with
  | none => .error .noRows
  | some record =>
      if !engine.takes (settingsDocument settings) then
        .error (.text "settings")
      else
        .ok ({ database with
          applications :=
            database.applications.insert (organisationID, name)
              { record with settings := settings } },
          { record with settings := settings })

/-- `ListAlertingRulesByApplication`. -/
def listAlertingRulesByApplication (database : Database)
    (applicationID : UUID) : List RuleRow :=
  database.rules.filter fun row => row.applicationID = applicationID

/-- `CreateAlertingRule`. -/
def createAlertingRule (engine : Engine) (database : Database)
    (applicationID receivingApplicationID : UUID) (ruleType : String)
    (metadata : Option Json) (minIntervalSecs : Option Int32) :
    Except Refusal Database :=
  if !database.hasApplication applicationID then
    .error (.foreignKey "application_id")
  else if !database.hasApplication receivingApplicationID then
    .error (.foreignKey "receiving_application_id")
  else if ruleType ∉ storedRuleTypes then .error (.check "rule_type")
  else
    (engine.metadataColumn metadata).map fun document =>
      { database with
        rules := database.rules ++ [⟨applicationID, receivingApplicationID,
          ruleType, document, minIntervalSecs⟩] }

/-- `ListAPIKeys`; revoked keys are among them. -/
def listAPIKeys (database : Database) (organisationID : UUID) : List KeyRow :=
  database.keys.filter fun row => row.organisationID = organisationID

/-- `CreateAPIKey`; names are unique among the keys which are not revoked. -/
def createAPIKey (engine : Engine) (database : Database)
    (organisationID : UUID) (name : String) (lookup : Bytes) :
    Except Refusal Database :=
  if !engine.takesText lookup then .error (.text "lookup")
  else if !database.hasOrganisation organisationID then
    .error (.foreignKey "organisation_id")
  else if database.keys.any fun row => row.lookup = lookup then
    .error (.unique "lookup")
  else if database.keys.any fun row =>
      row.organisationID = organisationID && row.name = name &&
        !row.revoked then
    .error (.unique "organisation_id, name")
  else
    .ok { database with
      keys := database.keys ++ [⟨organisationID, name, lookup, false⟩] }

/-! ## What the statements do -/

variable {engine : Engine} {database : Database}

theorem lookup_listApplicationsByOrganisation (database : Database)
    (organisationID : UUID) (name : String) :
    (database.listApplicationsByOrganisation organisationID).lookup name =
      database.applications.lookup (organisationID, name) :=
  lookup_under database.applications organisationID name

/-- A result of a check is a result of what follows it. -/
theorem check_ok_iff {Result : Type} {failed : Bool} {refusal : Refusal}
    {rest : Except Refusal Result} {result : Result} :
    (if failed then .error refusal else rest) = .ok result ↔
      failed = false ∧ rest = .ok result := by
  cases failed <;> simp

theorem createOrganisation_ok_iff {id : UUID} {name : String}
    {after : Database} :
    database.createOrganisation engine id name = .ok after ↔
      engine.isOrganisationName name = true ∧
        database.organisations.lookup name = none ∧
          database.hasOrganisation id = false ∧
            after = { database with
              organisations := database.organisations.insert name id } := by
  rw [createOrganisation, check_ok_iff, check_ok_iff, check_ok_iff,
    Bool.not_eq_false', Option.isSome_eq_false_iff, Option.isNone_iff_eq_none,
    Except.ok.injEq, eq_comm (b := after)]

theorem createApplication_ok_iff {id organisationID : UUID} {name : String}
    {settings : Settings} {result : Database × ApplicationRecord} :
    database.createApplication engine id organisationID name settings =
        .ok result ↔
      database.hasOrganisation organisationID = true ∧
        engine.isApplicationName name = true ∧
          database.applications.lookup (organisationID, name) = none ∧
            database.hasApplication id = false ∧
              engine.takes (settingsDocument settings) = true ∧
                result = ({ database with
                  applications := database.applications.insert
                    (organisationID, name) ⟨id, settings⟩ },
                  ⟨id, settings⟩) := by
  rw [createApplication, check_ok_iff, check_ok_iff, check_ok_iff,
    check_ok_iff, check_ok_iff, Bool.not_eq_false', Bool.not_eq_false',
    Bool.not_eq_false', Option.isSome_eq_false_iff, Option.isNone_iff_eq_none,
    Except.ok.injEq, eq_comm (b := result)]

theorem updateApplicationSettings_ok_iff {organisationID : UUID}
    {name : String} {settings : Settings} {record : ApplicationRecord}
    {result : Database × ApplicationRecord}
    (found : database.applications.lookup (organisationID, name) =
      some record) :
    database.updateApplicationSettings engine organisationID name settings =
        .ok result ↔
      engine.takes (settingsDocument settings) = true ∧
        result = ({ database with
          applications := database.applications.insert (organisationID, name)
            ⟨record.id, settings⟩ },
          ⟨record.id, settings⟩) := by
  rw [updateApplicationSettings, found]
  show (if _ then _ else _) = _ ↔ _
  rw [check_ok_iff, Bool.not_eq_false', Except.ok.injEq,
    eq_comm (b := result)]

/-- For applications that are there only the metadata may be refused. -/
theorem createAlertingRule_eq {applicationID receivingApplicationID : UUID}
    {ruleType : String} {metadata : Option Json}
    {minIntervalSecs : Option Int32}
    (isThere : database.hasApplication applicationID = true)
    (receives : database.hasApplication receivingApplicationID = true)
    (known : ruleType ∈ storedRuleTypes) :
    database.createAlertingRule engine applicationID receivingApplicationID
        ruleType metadata minIntervalSecs =
      (engine.metadataColumn metadata).map fun document =>
        { database with
          rules := database.rules ++ [⟨applicationID, receivingApplicationID,
            ruleType, document, minIntervalSecs⟩] } := by
  rw [createAlertingRule, isThere, receives, if_neg (by simp),
    if_neg (by simp), if_neg (not_not_intro known)]

theorem createAlertingRule_ok {applicationID receivingApplicationID : UUID}
    {ruleType : String} {metadata : Option Json}
    {minIntervalSecs : Option Int32} {after : Database}
    (created : database.createAlertingRule engine applicationID
      receivingApplicationID ruleType metadata minIntervalSecs = .ok after) :
    database.hasApplication applicationID = true ∧
      database.hasApplication receivingApplicationID = true ∧
        ∃ document, after = { database with
          rules := database.rules ++ [⟨applicationID, receivingApplicationID,
            ruleType, document, minIntervalSecs⟩] } := by
  unfold createAlertingRule at created
  rw [check_ok_iff, check_ok_iff, Bool.not_eq_false', Bool.not_eq_false']
    at created
  obtain ⟨isThere, receives, created⟩ := created
  split_ifs at created
  cases column : engine.metadataColumn metadata with
  | error refusal =>
      rw [column] at created
      cases created
  | ok document =>
      rw [column] at created
      cases created
      exact ⟨isThere, receives, document, rfl⟩

theorem createAPIKey_ok_iff {organisationID : UUID} {name : String}
    {lookup : Bytes} {after : Database} :
    database.createAPIKey engine organisationID name lookup = .ok after ↔
      engine.takesText lookup = true ∧
        database.hasOrganisation organisationID = true ∧
          (database.keys.any fun row => row.lookup = lookup) = false ∧
            (database.keys.any fun row =>
              row.organisationID = organisationID && row.name = name &&
                !row.revoked) = false ∧
              after = { database with
                keys := database.keys ++
                  [⟨organisationID, name, lookup, false⟩] } := by
  rw [createAPIKey, check_ok_iff, check_ok_iff, check_ok_iff, check_ok_iff,
    Bool.not_eq_false', Bool.not_eq_false', Except.ok.injEq,
    eq_comm (b := after)]

end Database

end DbosRelay.Declarative
