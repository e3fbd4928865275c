import DbosRelay.Declarative.StartUp
import DbosRelay.Declarative.Store
import DbosRelay.Library.Reconciliation
import DbosRelay.Library.Results

/-!
# `Apply` and `Diff`

`Apply` of `internal/declarative/declarative.go` brings the store in line with a
manifest, in one transaction: the organisation, the applications with their
settings, the alert rules, and a key if the organisation has none.  An alert rule
is looked for by its application, type and receiving application; what is found is
left as it is.  `Diff` makes a plan from the store as it stands.

`applyRule_eq` and `applyApplication_eq` say what one round of the two loops does,
`applyRules_eq` and `applyApplications_ok` what the loops do.
-/

namespace DbosRelay.Declarative

open DbosRelay.Applications
open DbosRelay.Basic
open DbosRelay.DataPlane
open DbosRelay.Library.GoJson
open DbosRelay.Library.Reconciliation
open DbosRelay.Library.Results
open DbosRelay.Library.Tables

/-! ## Metadata -/

/--
What the manifest's metadata is decoded into.  A timestamp is the string it is
marshalled as; what `Marshal` refuses are a NaN, an infinity and a map some key of
which is not a string.
-/
inductive Yaml where
  | null
  | bool (value : Bool)
  | number (literal : Number)
  | string (value : String)
  | sequence (elements : List Yaml)
  | mapping (members : List (String × Yaml))
  | unencodable

/-- A mapping; the parser refuses two members of one name. -/
abbrev Metadata := List (String × Yaml)

namespace Metadata

/-- The member of a name. -/
def get (metadata : Metadata) (name : String) : Option Yaml :=
  (metadata.find? fun entry => entry.1 = name).map Prod.snd

/-- `delete`. -/
def erase (metadata : Metadata) (name : String) : Metadata :=
  metadata.filter fun entry => entry.1 ≠ name

/-- An assignment. -/
def set (metadata : Metadata) (name : String) (value : Yaml) : Metadata :=
  metadata.erase name ++ [(name, value)]

end Metadata

mutual

/-- `Marshal`; `none` is an error. -/
def Yaml.marshal : Yaml → Option Json
  | .null => some .null
  | .bool value => some (.bool value)
  | .number literal => some (.number literal)
  | .string value => some (.string value)
  | .sequence elements => (marshalElements elements).map .array
  | .mapping members =>
      (marshalMembers members).map fun members => .object (sortMembers members)
  | .unencodable => none

/-- The elements one by one. -/
def marshalElements : List Yaml → Option (List Json)
  | [] => some []
  | value :: elements =>
      value.marshal.bind fun json =>
        (marshalElements elements).map fun rest => json :: rest

/-- The members one by one. -/
def marshalMembers : List (String × Yaml) → Option (List (String × Json))
  | [] => some []
  | (name, value) :: members =>
      value.marshal.bind fun json =>
        (marshalMembers members).map fun rest => (name, json) :: rest

end

/-- What `Apply` reports, with the refusal of the statement that failed. -/
inductive ApplyError where
  | creatingOrganisation (name : String) (refusal : Refusal)
  | updatingApplication (name : String) (refusal : Refusal)
  | creatingApplication (name : String) (refusal : Refusal)
  | unknownApplication (name : String)
  | unknownReceivingApp (name : String)
  | unsetVariable (ruleType name : String)
  | unreadableFile (ruleType name : String)
  | creatingRule (ruleType : String) (refusal : Refusal)
  | invalidAPIKey
  | mintingKey
  | creatingKey (refusal : Refusal)
deriving DecidableEq, Repr

/-- The refusal of the database, if that is the reason. -/
def ApplyError.refusal : ApplyError → Option Refusal
  | .creatingOrganisation _ refusal => some refusal
  | .updatingApplication _ refusal => some refusal
  | .creatingApplication _ refusal => some refusal
  | .creatingRule _ refusal => some refusal
  | .creatingKey refusal => some refusal
  | _ => none

/-- The fields of `ConnectionSource`; it has no JSON tags. -/
def sourceFields : Fields SettingKind :=
  .cons "Env" false (.leaf .string) <| .cons "File" false (.leaf .string) .nil

/-- `Unmarshal` of the marshalled `secret_from`; `none` is an error of either. -/
def connectionSource (value : Yaml) : Option ConnectionSource :=
  value.marshal.bind fun json =>
    match (GoType.struct sourceFields).decode settingLeaves
        (sourceFields.zero settingLeaves) json with
    | ((env, file, ()), true) => some ⟨env, file⟩
    | (_, false) => none

/-- The body of the loop over the destinations. -/
def resolveDestination (surroundings : Surroundings) (ruleType : String) :
    Yaml → Except ApplyError Yaml
  | .mapping members =>
      match (Metadata.get members "secret_from").bind connectionSource with
      | none => .ok (.mapping members)
      | some source =>
          if source.env ≠ "" then
            if surroundings.getenv source.env = "" then
              .error (.unsetVariable ruleType source.env)
            else
              .ok (.mapping ((Metadata.set members "secret"
                (.string (surroundings.getenv source.env))).erase
                  "secret_from"))
          else if source.file ≠ "" then
            match surroundings.readFile source.file with
            | none => .error (.unreadableFile ruleType source.file)
            | some contents =>
                .ok (.mapping ((Metadata.set members "secret"
                  (.string contents)).erase "secret_from"))
          else .ok (.mapping (Metadata.erase members "secret_from"))
  | value => .ok value

/--
`resolveDestinations`.  Without destinations the new slice is `nil`, and it is
marshalled as `null`.
-/
def resolveDestinations (surroundings : Surroundings) (ruleType : String)
    (metadata : Metadata) : Except ApplyError Metadata :=
  match metadata.get "destinations" with
  | some (.sequence destinations) =>
      (destinations.mapM (resolveDestination surroundings ruleType)).map
        fun resolved =>
          metadata.set "destinations"
            (match resolved with
              | [] => .null
              | _ => .sequence resolved)
  | _ => .ok metadata

/-- `metaBytes`, as a document; `none` are no bytes. -/
def metadataDocument (metadata : Metadata) : Option Json :=
  match metadata with
  | [] => some (.object [])
  | _ => (Yaml.mapping metadata).marshal

/-! ## The manifest -/

/-- An alert rule with all of its fields. -/
structure DeclaredRule extends AlertRule where
  minIntervalSecs : Int32
  metadata : Metadata

/-- `Config`. -/
structure Config where
  version : String
  organisation : String
  applications : List DeclaredApplication
  alertRules : List DeclaredRule
  dataPlanes : Table String DeclaredPlane

/-- The manifest, as far as `Validate` reads it. -/
def Config.manifest (config : Config) : Manifest where
  version := config.version
  organisation := config.organisation
  applications := config.applications
  alertRules := config.alertRules.map DeclaredRule.toAlertRule
  dataPlanes := config.dataPlanes

/-- The application that is told: the rule's own, if no other one is named. -/
def AlertRule.receiver (rule : AlertRule) : String :=
  if rule.receivingApp ≠ "" ∧ rule.receivingApp ≠ rule.app then
    rule.receivingApp
  else rule.app

/-- `minInterval`. -/
def DeclaredRule.minInterval (rule : DeclaredRule) : Option Int32 :=
  if 0 < rule.minIntervalSecs then some rule.minIntervalSecs else none

/-! ## Plans -/

/-- `DiffAction`. -/
inductive DiffAction where
  | create
  | unchanged
  | delete
deriving DecidableEq, Repr

/-- The kinds of resources. -/
inductive Kind where
  | organisation
  | application
  | alertRule
  | dataPlane
  | apiKey
deriving DecidableEq, Repr

/-- The details of an item. -/
inductive Details where
  | none
  | applicationMissing
  | receivingMissing (name : String)
  | mode (mode : Mode)
  | modeAndIntegration (mode : Mode) (integration : IntegrationName)
  | mintedKey (lookup : Bytes)
deriving DecidableEq, Repr

/-- `DiffItem`. -/
structure DiffItem where
  action : DiffAction
  kind : Kind
  name : String
  details : Details
deriving DecidableEq, Repr

/-- `Plan`. -/
structure Plan where
  items : List DiffItem
  generatedKeys : Table String String

/-- The name of a rule's item. -/
def AlertRule.itemName (rule : AlertRule) : String :=
  rule.app ++ "/" ++ rule.ruleType

/-- The default of a data plane's mode. -/
def shownMode : Mode → Mode
  | .unset => .read
  | mode => mode

/-- The default of a data plane's integration. -/
def shownIntegration : IntegrationName → IntegrationName
  | .unset => .known .hybrid
  | integration => integration

/-! ## `Diff` -/

namespace Database

/-- The loop over the stored rules: one of the type for the receiver. -/
def hasRule (database : Database) (applicationID : UUID) (ruleType : String)
    (receivingApplicationID : UUID) : Bool :=
  (database.listAlertingRulesByApplication applicationID).any fun row =>
    row.ruleType = ruleType &&
      row.receivingApplicationID = receivingApplicationID

/-- `existingApps`. -/
def existingApps (database : Database) (organisation : String) :
    Table String ApplicationRecord :=
  match database.organisations.lookup organisation with
  | none => ∅
  | some id => database.listApplicationsByOrganisation id

end Database

/-- The item of a rule. -/
def AlertRule.item (rule : AlertRule) (isNew : Bool) (details : Details) :
    DiffItem :=
  ⟨if isNew then .create else .unchanged, .alertRule, rule.itemName, details⟩

/-- The body of the loop of `Diff` over the alert rules. -/
def diffRule (database : Database) (existing : Table String ApplicationRecord)
    (rule : AlertRule) : DiffItem :=
  match existing.lookup rule.app with
  | none => rule.item true .applicationMissing
  | some app =>
      match existing.lookup rule.receiver with
      | none => rule.item true (.receivingMissing rule.receivingApp)
      | some receiving =>
          rule.item (!database.hasRule app.id rule.ruleType receiving.id) .none

/-- The item of an application. -/
def DeclaredApplication.item (app : DeclaredApplication)
    (existing : Table String ApplicationRecord) : DiffItem :=
  ⟨if (existing.lookup app.name).isSome then .unchanged else .create,
    .application, app.name, .none⟩

/-- `Diff`. -/
def diff (database : Database) (config : Config) : Plan :=
  let existing := database.existingApps config.organisation
  { items :=
      [⟨if (database.organisations.lookup config.organisation).isSome then
        .unchanged else .create, .organisation, config.organisation, .none⟩] ++
      config.applications.map (fun app => app.item existing) ++
      config.alertRules.map (fun rule =>
        diffRule database existing rule.toAlertRule) ++
      config.dataPlanes.entries.map fun entry =>
        ⟨.unchanged, .dataPlane, entry.1,
          .modeAndIntegration (shownMode entry.2.mode)
            (shownIntegration entry.2.integration)⟩
    generatedKeys := ∅ }

/-! ## `Apply` -/

/-- What is drawn at random while a manifest is applied. -/
structure Draws where
  organisationID : UUID
  applicationID : String → UUID
  /-- `Mint`. -/
  key : Option String

/-- The variables of the transaction. -/
structure Progress where
  database : Database
  appMap : Table String ApplicationRecord
  items : List DiffItem

section Apply

variable (engine : Engine) (surroundings : Surroundings) (draws : Draws)

/-- The organisation, found or created, and its item. -/
def applyOrganisation (database : Database) (name : String) :
    Except ApplyError (Database × UUID × DiffItem) :=
  match database.organisations.lookup name with
  | some id => .ok (database, id, ⟨.unchanged, .organisation, name, .none⟩)
  | none =>
      match database.createOrganisation engine draws.organisationID name with
      | .error refusal => .error (.creatingOrganisation name refusal)
      | .ok created =>
          .ok (created, draws.organisationID,
            ⟨.create, .organisation, name, .none⟩)

/-- The body of the loop over the applications. -/
def applyApplication (organisationID : UUID) (progress : Progress)
    (app : DeclaredApplication) : Except ApplyError Progress :=
  let existing := progress.appMap.lookup app.name
  let settings := appliedSettings app (existing.map (·.settings))
  let written : Except ApplyError (Database × ApplicationRecord) :=
    match existing with
    | some _ =>
        (progress.database.updateApplicationSettings engine organisationID
          app.name settings).mapError (ApplyError.updatingApplication app.name)
    | none =>
        (progress.database.createApplication engine
          (draws.applicationID app.name) organisationID app.name
          settings).mapError (ApplyError.creatingApplication app.name)
  written.map fun result =>
    { database := result.1
      appMap := progress.appMap.insert app.name result.2
      items := progress.items ++ [app.item progress.appMap] }

/-- The body of the loop over the alert rules. -/
def applyRule (progress : Progress) (rule : DeclaredRule) :
    Except ApplyError Progress :=
  match progress.appMap.lookup rule.app with
  | none => .error (.unknownApplication rule.app)
  | some app =>
      match progress.appMap.lookup rule.receiver with
      | none => .error (.unknownReceivingApp rule.receivingApp)
      | some receiving =>
          if progress.database.hasRule app.id rule.ruleType receiving.id then
            .ok { progress with
              items := progress.items ++ [rule.item false .none] }
          else
            match resolveDestinations surroundings rule.ruleType
                rule.metadata with
            | .error error => .error error
            | .ok metadata =>
                match progress.database.createAlertingRule engine app.id
                    receiving.id rule.ruleType (metadataDocument metadata)
                    rule.minInterval with
                | .error refusal => .error (.creatingRule rule.ruleType refusal)
                | .ok database =>
                    .ok { progress with
                      database := database
                      items := progress.items ++ [rule.item true .none] }

/-- The first bytes of a key, by which it is looked up. -/
def keyLookup (key : String) : Bytes :=
  let bytes := key.toUTF8.data.toList
  if bytes.length < 12 then [] else bytes.take 12

/-- The name of the key which is made for an organisation without keys. -/
def defaultKeyName : String := "default-conductor-key"

/-- The key from the environment, or a minted one. -/
def defaultKey : Except ApplyError String :=
  let key := surroundings.getenv "RELAY_API_KEY"
  if key ≠ "" then
    if !key.startsWith "dbos_" || key.utf8ByteSize < 32 then
      .error .invalidAPIKey
    else .ok key
  else
    match draws.key with
    | none => .error .mintingKey
    | some key => .ok key

/-- The end of the transaction: the key. -/
def applyKey (organisationID : UUID) (progress : Progress) :
    Except ApplyError (Plan × Database) :=
  if (progress.database.listAPIKeys organisationID).isEmpty then
    match defaultKey surroundings draws with
    | .error error => .error error
    | .ok key =>
        match progress.database.createAPIKey engine organisationID
            defaultKeyName (keyLookup key) with
        | .error refusal => .error (.creatingKey refusal)
        | .ok database =>
            .ok (⟨progress.items ++ [⟨.create, .apiKey, defaultKeyName,
              .mintedKey (keyLookup key)⟩],
                (∅ : Table String String).insert defaultKeyName key⟩, database)
  else .ok (⟨progress.items, ∅⟩, progress.database)

/-- The items of the data planes. -/
def planeItems (planes : Table String DeclaredPlane) : List DiffItem :=
  planes.entries.map fun entry =>
    ⟨.unchanged, .dataPlane, entry.1, .mode (shownMode entry.2.mode)⟩

/-- The variables after the organisation. -/
def Progress.start (database : Database) (organisationID : UUID)
    (item : DiffItem) : Progress :=
  ⟨database, database.listApplicationsByOrganisation organisationID, [item]⟩

/-- `Apply`; an error leaves the store as it was. -/
def apply (database : Database) (config : Config) :
    Except ApplyError (Plan × Database) := do
  let (database, organisationID, item) ←
    applyOrganisation engine draws database config.organisation
  let progress ← config.applications.foldlM
    (applyApplication engine draws organisationID)
    (Progress.start database organisationID item)
  let progress ← config.alertRules.foldlM
    (applyRule engine surroundings) progress
  applyKey engine surroundings draws organisationID
    { progress with items := progress.items ++ planeItems config.dataPlanes }

/-! ## The loop over the applications -/

/-- The map has the applications of the organisation. -/
def Progress.Cached (organisationID : UUID) (progress : Progress) : Prop :=
  ∀ name, progress.appMap.lookup name =
    progress.database.applications.lookup (organisationID, name)

/-- The row an application is left with. -/
def appliedRecord (app : DeclaredApplication)
    (existing : Option ApplicationRecord) : ApplicationRecord where
  id := (existing.map (·.id)).getD (draws.applicationID app.name)
  settings := appliedSettings app (existing.map (·.settings))

/-- The database takes the row of an application. -/
structure Takes (organisationID : UUID) (database : Database)
    (app : DeclaredApplication) (existing : Option ApplicationRecord) :
    Prop where
  settings : engine.takes (Database.settingsDocument
    (appliedSettings app (existing.map (·.settings)))) = true
  organisation : existing = none →
    database.hasOrganisation organisationID = true
  name : existing = none → engine.isApplicationName app.name = true
  fresh : existing = none →
    database.hasApplication (draws.applicationID app.name) = false

/-- The variables after an application. -/
def Progress.withApplication (organisationID : UUID) (progress : Progress)
    (app : DeclaredApplication) : Progress :=
  let record := appliedRecord draws app (progress.appMap.lookup app.name)
  { database := { progress.database with
      applications :=
        progress.database.applications.insert (organisationID, app.name)
          record }
    appMap := progress.appMap.insert app.name record
    items := progress.items ++ [app.item progress.appMap] }

variable {engine surroundings draws}
variable {organisationID : UUID} {progress after : Progress}
variable {app : DeclaredApplication}

theorem Progress.Cached.withApplication
    (cached : progress.Cached organisationID) (app : DeclaredApplication) :
    (progress.withApplication draws organisationID app).Cached
      organisationID := by
  intro name
  simp only [Progress.withApplication, lookup_insert_eq, Prod.mk.injEq,
    true_and, cached name]

/-- One application: its row is written, or the database refuses it. -/
theorem applyApplication_ok_iff (cached : progress.Cached organisationID) :
    applyApplication engine draws organisationID progress app = .ok after ↔
      Takes engine draws organisationID progress.database app
          (progress.appMap.lookup app.name) ∧
        after = progress.withApplication draws organisationID app := by
  have stored := cached app.name
  rw [applyApplication, map_ok_iff]
  cases found : progress.appMap.lookup app.name with
  | none =>
      rw [found] at stored
      simp only [mapError_ok_iff, Database.createApplication_ok_iff]
      constructor
      · rintro ⟨_, ⟨organisation, name, _, fresh, settings, rfl⟩, rfl⟩
        refine ⟨⟨settings, fun _ => organisation, fun _ => name,
          fun _ => fresh⟩, ?_⟩
        simp [Progress.withApplication, appliedRecord, found]
      · rintro ⟨takes, rfl⟩
        refine ⟨_, ⟨takes.organisation rfl, takes.name rfl, stored.symm,
          takes.fresh rfl, takes.settings, rfl⟩, ?_⟩
        simp [Progress.withApplication, appliedRecord, found]
  | some record =>
      rw [found] at stored
      simp only [mapError_ok_iff,
        Database.updateApplicationSettings_ok_iff stored.symm]
      constructor
      · rintro ⟨_, ⟨settings, rfl⟩, rfl⟩
        refine ⟨⟨settings, nofun, nofun, nofun⟩, ?_⟩
        simp [Progress.withApplication, appliedRecord, found]
      · rintro ⟨takes, rfl⟩
        refine ⟨_, ⟨takes.settings, rfl⟩, ?_⟩
        simp [Progress.withApplication, appliedRecord, found]

/-- The variables after the loop. -/
def Progress.withApplications (draws : Draws) (organisationID : UUID)
    (progress : Progress) (apps : List DeclaredApplication) : Progress :=
  apps.foldl (Progress.withApplication draws organisationID) progress

theorem Progress.Cached.withApplications
    (cached : progress.Cached organisationID)
    (apps : List DeclaredApplication) :
    (progress.withApplications draws organisationID apps).Cached
      organisationID := by
  induction apps generalizing progress with
  | nil => exact cached
  | cons app apps induction => exact induction (cached.withApplication app)

/-- The loop, if it comes to its end. -/
theorem applyApplications_ok {apps : List DeclaredApplication}
    (cached : progress.Cached organisationID)
    (applied : apps.foldlM (applyApplication engine draws organisationID)
      progress = .ok after) :
    after = progress.withApplications draws organisationID apps := by
  induction apps generalizing progress with
  | nil =>
      cases applied
      rfl
  | cons app apps induction =>
      rw [List.foldlM_cons, bind_ok_iff] at applied
      obtain ⟨next, one, rest⟩ := applied
      obtain ⟨_, rfl⟩ := (applyApplication_ok_iff cached).mp one
      exact induction (cached.withApplication app) rest

/-- The other applications are found as they were. -/
theorem lookup_withApplication (draws : Draws) (organisationID : UUID)
    (progress : Progress) {app : DeclaredApplication} {name : String}
    (differs : name ≠ app.name) :
    (progress.withApplication draws organisationID app).appMap.lookup name =
      progress.appMap.lookup name :=
  AList.lookup_insert_ne differs

theorem hasApplication_withApplication {id : UUID}
    (isThere : (progress.withApplication draws organisationID
      app).database.hasApplication id = true) :
    progress.database.hasApplication id = true ∨
      id = (appliedRecord draws app
        (progress.appMap.lookup app.name)).id := by
  obtain ⟨key, record, found, rfl⟩ := Database.hasApplication_iff.mp isThere
  rcases lookup_insert_cases rfl found with ⟨_, isNew⟩ | ⟨_, isOld⟩
  · right
    rw [isNew]
  · left
    exact Database.hasApplication_iff.mpr ⟨key, record, isOld, rfl⟩

/-- The loop comes to its end if every application is accepted. -/
theorem applyApplications_of_takes {apps : List DeclaredApplication}
    (cached : progress.Cached organisationID)
    (distinct : (apps.map (·.name)).Nodup)
    (takes : ∀ app ∈ apps, Takes engine draws organisationID
      progress.database app (progress.appMap.lookup app.name))
    (ids : apps.Pairwise fun first second =>
      progress.appMap.lookup second.name = none →
        draws.applicationID second.name ≠ (appliedRecord draws first
          (progress.appMap.lookup first.name)).id) :
    apps.foldlM (applyApplication engine draws organisationID) progress =
      .ok (progress.withApplications draws organisationID apps) := by
  induction apps generalizing progress with
  | nil => rfl
  | cons app apps induction =>
      rw [List.map_cons, List.nodup_cons] at distinct
      rw [List.forall_mem_cons] at takes
      rw [List.pairwise_cons] at ids
      have differs : ∀ other ∈ apps, other.name ≠ app.name := by
        intro other member same
        exact distinct.1 (List.mem_map.mpr ⟨other, member, same⟩)
      have others : ∀ other ∈ apps,
          (progress.withApplication draws organisationID app).appMap.lookup
              other.name = progress.appMap.lookup other.name := by
        intro other member
        exact lookup_withApplication draws organisationID progress
          (differs other member)
      rw [List.foldlM_cons, (applyApplication_ok_iff cached).mpr
        ⟨takes.1, rfl⟩]
      refine induction (cached.withApplication app) distinct.2 ?_ ?_
      · intro other member
        rw [others other member]
        have before := takes.2 other member
        refine ⟨before.settings, before.organisation, before.name, ?_⟩
        intro isNew
        rw [← Bool.not_eq_true]
        intro isThere
        rcases hasApplication_withApplication isThere with old | same
        · rw [before.fresh isNew] at old
          cases old
        · exact ids.1 other member isNew same
      · refine ids.2.imp_of_mem ?_
        intro first second isFirst isSecond apart
        rw [others first isFirst, others second isSecond]
        exact apart

/-- If the loop comes to its end, every application was accepted. -/
theorem takes_of_applyApplications {apps : List DeclaredApplication}
    (cached : progress.Cached organisationID)
    (distinct : (apps.map (·.name)).Nodup)
    (applied : apps.foldlM (applyApplication engine draws organisationID)
      progress = .ok after) :
    ∀ app ∈ apps,
      engine.takes (Database.settingsDocument (appliedSettings app
          ((progress.appMap.lookup app.name).map (·.settings)))) = true ∧
        (progress.appMap.lookup app.name = none →
          engine.isApplicationName app.name = true) := by
  induction apps generalizing progress with
  | nil => simp
  | cons app apps induction =>
      rw [List.map_cons, List.nodup_cons] at distinct
      rw [List.foldlM_cons, bind_ok_iff] at applied
      obtain ⟨next, one, rest⟩ := applied
      obtain ⟨takes, rfl⟩ := (applyApplication_ok_iff cached).mp one
      rw [List.forall_mem_cons]
      refine ⟨⟨takes.settings, takes.name⟩, ?_⟩
      intro other member
      have differs : other.name ≠ app.name := by
        intro same
        exact distinct.1 (List.mem_map.mpr ⟨other, member, same⟩)
      rw [← lookup_withApplication draws organisationID progress differs]
      exact induction (cached.withApplication app) distinct.2 rest other member

theorem withApplications_rest (draws : Draws) (organisationID : UUID)
    (progress : Progress) (apps : List DeclaredApplication) :
    (progress.withApplications draws organisationID apps).database =
      { progress.database with
        applications := (progress.withApplications draws organisationID
          apps).database.applications } := by
  induction apps generalizing progress with
  | nil => rfl
  | cons app apps induction =>
      exact induction (progress.withApplication draws organisationID app)

/-- The application of the manifest which a row belongs to. -/
def declaredAs (organisationID : UUID) (apps : List DeclaredApplication)
    (key : UUID × String) : Option DeclaredApplication :=
  apps.find? fun app => (organisationID, app.name) = key

theorem declaredAs_of_mem {apps : List DeclaredApplication}
    (distinct : (apps.map (·.name)).Nodup) (member : app ∈ apps)
    (organisationID : UUID) :
    declaredAs organisationID apps (organisationID, app.name) = some app := by
  have found : (declaredAs organisationID apps
      (organisationID, app.name)).isSome := by
    rw [declaredAs, List.find?_isSome]
    exact ⟨app, member, by simp⟩
  obtain ⟨other, isOther⟩ := Option.isSome_iff_exists.mp found
  have sameName : other.name = app.name := by
    simpa using List.find?_some isOther
  rw [isOther, List.inj_on_of_nodup_map distinct
    (List.mem_of_find?_eq_some isOther) member sameName]

theorem declaredAs_eq_some {apps : List DeclaredApplication}
    {key : UUID × String} (declared : declaredAs organisationID apps key =
      some app) : app ∈ apps ∧ key = (organisationID, app.name) := by
  have named := List.find?_some declared
  rw [decide_eq_true_eq] at named
  exact ⟨List.mem_of_find?_eq_some declared, named.symm⟩

/-- A row of the manifest is written over, the others stay. -/
theorem lookup_withApplications (draws : Draws)
    {apps : List DeclaredApplication} (cached : progress.Cached organisationID)
    (distinct : (apps.map (·.name)).Nodup) (key : UUID × String) :
    (progress.withApplications draws organisationID
        apps).database.applications.lookup key =
      match declaredAs organisationID apps key with
      | some app =>
          some (appliedRecord draws app
            (progress.database.applications.lookup key))
      | none => progress.database.applications.lookup key := by
  induction apps generalizing progress with
  | nil => rfl
  | cons app apps induction =>
      rw [List.map_cons, List.nodup_cons] at distinct
      have next : (progress.withApplication draws organisationID app).Cached
          organisationID :=
        cached.withApplication app
      have step := induction next distinct.2
      rw [declaredAs, List.find?_cons]
      refine step.trans ?_
      simp only [Progress.withApplication, lookup_insert_eq, cached app.name]
      by_cases own : (organisationID, app.name) = key
      · subst own
        have others : declaredAs organisationID apps
            (organisationID, app.name) = none := by
          rw [declaredAs, List.find?_eq_none]
          intro other member same
          apply distinct.1
          rw [List.mem_map]
          simp only [Prod.mk.injEq, true_and, decide_eq_true_eq] at same
          exact ⟨other, member, same⟩
        rw [others]
        simp
      · simp only [own, Ne.symm own, decide_false, if_false]
        rfl

/-- An item says whether the application was there before the loop. -/
theorem items_withApplications (draws : Draws) (organisationID : UUID)
    (progress : Progress) {apps : List DeclaredApplication} (distinct : (apps.map (·.name)).Nodup) :
    (progress.withApplications draws organisationID apps).items =
      progress.items ++ apps.map fun app => app.item progress.appMap := by
  induction apps generalizing progress with
  | nil => simp [Progress.withApplications]
  | cons app apps induction =>
      rw [List.map_cons, List.nodup_cons] at distinct
      refine (induction (progress.withApplication draws organisationID app)
        distinct.2).trans ?_
      have others : (apps.map fun other => other.item
          (progress.withApplication draws organisationID app).appMap) =
            apps.map fun other => other.item progress.appMap := by
        apply List.map_congr_left
        intro other member
        have differs : other.name ≠ app.name := by
          intro same
          exact distinct.1 (List.mem_map.mpr ⟨other, member, same⟩)
        rw [DeclaredApplication.item, DeclaredApplication.item,
          Progress.withApplication, lookup_insert_eq, if_neg differs]
      rw [others]
      simp [Progress.withApplication]

/-! ## The loop over the alert rules -/

/-- What a stored rule is found by. -/
def RuleRow.key (row : RuleRow) : Option UUID × String × Option UUID :=
  (some row.applicationID, row.ruleType, some row.receivingApplicationID)

/-- What is looked for. -/
def AlertRule.key (appMap : Table String ApplicationRecord)
    (rule : AlertRule) : Option UUID × String × Option UUID :=
  ((appMap.lookup rule.app).map (·.id), rule.ruleType,
    (appMap.lookup rule.receiver).map (·.id))

/-- The metadata a rule is stored with. -/
def DeclaredRule.storedMetadata (engine : Engine) (surroundings : Surroundings)
    (rule : DeclaredRule) : Except ApplyError Json :=
  (resolveDestinations surroundings rule.ruleType rule.metadata).bind
    fun metadata =>
      (engine.metadataColumn (metadataDocument metadata)).mapError
        (ApplyError.creatingRule rule.ruleType)

/-- The row which is made for a rule. -/
def DeclaredRule.row (rule : DeclaredRule) (applicationID : UUID)
    (receivingApplicationID : UUID) (metadata : Json) : RuleRow :=
  ⟨applicationID, receivingApplicationID, rule.ruleType, metadata,
    rule.minInterval⟩

/-- Add rows and items. -/
def Progress.withRules (progress : Progress) (rows : List RuleRow)
    (items : List DiffItem) : Progress :=
  { progress with
    database := { progress.database with
      rules := progress.database.rules ++ rows }
    items := progress.items ++ items }

/-- The applications of a rule are there, and its type is one of the schema. -/
structure Known (progress : Progress) (rule : AlertRule) : Prop where
  app : ∃ record, progress.appMap.lookup rule.app = some record ∧
    progress.database.hasApplication record.id = true
  receiver : ∃ record, progress.appMap.lookup rule.receiver = some record ∧
    progress.database.hasApplication record.id = true
  ruleType : rule.ruleType ∈ storedRuleTypes

theorem Known.withRules {progress : Progress} {rule : AlertRule}
    (known : Known progress rule) (rows : List RuleRow)
    (items : List DiffItem) : Known (progress.withRules rows items) rule :=
  ⟨known.app, known.receiver, known.ruleType⟩

/-- Make the row of a rule, with the identifiers of the map. -/
def makeRow (engine : Engine) (surroundings : Surroundings)
    (appMap : Table String ApplicationRecord) (rule : DeclaredRule) :
    Except ApplyError RuleRow :=
  (rule.storedMetadata engine surroundings).map fun metadata =>
    rule.row (((appMap.lookup rule.app).map (·.id)).getD ⟨0⟩)
      (((appMap.lookup rule.receiver).map (·.id)).getD ⟨0⟩) metadata

theorem hasRule_iff (database : Database)
    {appMap : Table String ApplicationRecord} {rule : AlertRule}
    {app receiving : ApplicationRecord}
    (isApp : appMap.lookup rule.app = some app)
    (isReceiver : appMap.lookup rule.receiver = some receiving) :
    database.hasRule app.id rule.ruleType receiving.id = true ↔
      rule.key appMap ∈ database.rules.map RuleRow.key := by
  simp only [Database.hasRule, Database.listAlertingRulesByApplication,
    List.any_eq_true, List.mem_filter, Bool.and_eq_true, decide_eq_true_eq,
    List.mem_map, AlertRule.key, isApp, isReceiver, Option.map_some,
    RuleRow.key, Prod.mk.injEq, Option.some_inj]
  constructor
  · rintro ⟨row, ⟨member, ofApp⟩, ofType, receives⟩
    exact ⟨row, member, ofApp, ofType, receives⟩
  · rintro ⟨row, member, ofApp, ofType, receives⟩
    exact ⟨row, ⟨member, ofApp⟩, ofType, receives⟩

/-- One rule: it is found, or a row is made for it. -/
theorem applyRule_eq {rule : DeclaredRule}
    (known : Known progress rule.toAlertRule) :
    applyRule engine surroundings progress rule =
      if rule.key progress.appMap ∈ progress.database.rules.map RuleRow.key then
        .ok (progress.withRules [] [rule.item false .none])
      else
        (makeRow engine surroundings progress.appMap rule).map fun row =>
          progress.withRules [row] [rule.item true .none] := by
  obtain ⟨⟨app, isApp, appThere⟩, ⟨receiving, isReceiver, receiverThere⟩,
    ruleType⟩ := known
  have found := hasRule_iff progress.database isApp isReceiver
  rw [applyRule, isApp]
  simp only [isReceiver]
  by_cases present : rule.key progress.appMap ∈
      progress.database.rules.map RuleRow.key
  · rw [if_pos present, if_pos (found.mpr present)]
    simp [Progress.withRules]
  · rw [if_neg present, if_neg (fun isThere => present (found.mp isThere)),
      makeRow, DeclaredRule.storedMetadata, isApp, isReceiver]
    cases resolveDestinations surroundings rule.ruleType rule.metadata with
    | error error => rfl
    | ok metadata =>
        simp only [Database.createAlertingRule_eq appThere receiverThere
          ruleType]
        show _ = Except.map _ (Except.map _ (Except.mapError _ _))
        cases engine.metadataColumn (metadataDocument metadata) with
        | error refusal => rfl
        | ok document => rfl

theorem key_of_makeRow {progress : Progress} {rule : DeclaredRule}
    {row : RuleRow} (known : Known progress rule.toAlertRule)
    (made : makeRow engine surroundings progress.appMap rule = .ok row) :
    row.key = rule.key progress.appMap := by
  obtain ⟨⟨app, isApp, _⟩, ⟨receiving, isReceiver, _⟩, _⟩ := known
  obtain ⟨metadata, _, rfl⟩ := map_ok_iff.mp made
  simp [RuleRow.key, AlertRule.key, DeclaredRule.row, isApp, isReceiver]

/-- The loop: rows for the missing rules, and an item for every rule. -/
theorem applyRules_eq {rules : List DeclaredRule}
    (known : ∀ rule ∈ rules, Known progress rule.toAlertRule) :
    rules.foldlM (applyRule engine surroundings) progress =
      ((missing (fun rule : DeclaredRule => rule.key progress.appMap)
          (progress.database.rules.map RuleRow.key) rules).mapM
        (makeRow engine surroundings progress.appMap)).map fun rows =>
          progress.withRules rows
            (List.zipWith (fun rule isNew => rule.item isNew .none) rules
              (isMissing (fun rule : DeclaredRule =>
                rule.key progress.appMap)
                (progress.database.rules.map RuleRow.key) rules)) := by
  induction rules generalizing progress with
  | nil =>
      simp [missing, isMissing, Progress.withRules, pure, Except.pure,
        Except.map]
  | cons rule rules induction =>
      rw [List.forall_mem_cons] at known
      rw [List.foldlM_cons, applyRule_eq known.1, missing, isMissing]
      by_cases present : rule.key progress.appMap ∈
          progress.database.rules.map RuleRow.key
      · rw [if_pos present, if_pos present, if_pos present]
        show rules.foldlM _ (progress.withRules [] _) = _
        rw [induction fun other member => (known.2 other member).withRules _ _]
        simp [Progress.withRules]
      · rw [if_neg present, if_neg present, if_neg present, List.mapM_cons]
        cases made : makeRow engine surroundings progress.appMap rule with
        | error error => rfl
        | ok row =>
            show rules.foldlM _ (progress.withRules [row] _) = _
            rw [induction fun other member =>
              (known.2 other member).withRules _ _]
            have rowKey := key_of_makeRow known.1 made
            simp only [Progress.withRules, List.map_append, List.map_cons,
              List.map_nil, rowKey]
            cases (missing (fun other : DeclaredRule =>
                other.key progress.appMap)
              (progress.database.rules.map RuleRow.key ++
                [rule.key progress.appMap]) rules).mapM
                  (makeRow engine surroundings progress.appMap) with
            | error error => rfl
            | ok rows =>
                simp [Except.map, bind, Except.bind, pure, Except.pure]

end Apply

end DbosRelay.Declarative
