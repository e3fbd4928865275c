import DbosRelay.Declarative.Manifest

/-!
# The data planes of a manifest at start-up

`runServe` of `internal/cli/serve.go` lists the applications of all
organisations, puts them into a map by name, and
`registerDeclarativeDataPlanes` looks up there under which identifier to register
each data plane of the manifest.  Names are unique within an organisation only.
Of several applications of one name the map keeps the one listed last, and it
depends on the database which one that is.

So a data plane is registered for the manifest's own application exactly if, of
the applications of that name, the one listed last is the manifest's.
-/

namespace DbosRelay.Declarative

open DbosRelay.Basic
open DbosRelay.DataPlane
open DbosRelay.Library.Tables

/-! ## The store -/

/-- A row of `applications`, as far as the start-up reads it. -/
structure ApplicationRow where
  id : UUID
  organisationID : UUID
  name : String
deriving DecidableEq, Repr

/-- The two tables with their constraints. -/
structure Tenants where
  /-- The identifiers of the organisations, unique in their names. -/
  organisations : Table String UUID
  applications : List ApplicationRow
  primaryKey : ∀ first ∈ applications, ∀ second ∈ applications,
    first.id = second.id → first = second
  uniqueName : ∀ first ∈ applications, ∀ second ∈ applications,
    first.organisationID = second.organisationID →
      first.name = second.name → first = second

namespace Tenants

/-- `GetApplicationByName`. -/
def getApplicationByName (tenants : Tenants) (organisationID : UUID)
    (name : String) : Option ApplicationRow :=
  tenants.applications.find? fun row =>
    row.organisationID = organisationID ∧ row.name = name

/-- The row of an application, from the names of its organisation and its own. -/
def rowOf (tenants : Tenants) (organisation name : String) :
    Option ApplicationRow :=
  (tenants.organisations.lookup organisation).bind fun organisationID =>
    tenants.getApplicationByName organisationID name

/--
What `ListAllApplications` may return.  It orders by name alone, so rows of one
name come in any order, and an error may cut the list short.
-/
def Lists (tenants : Tenants) (listed : List ApplicationRow) : Prop :=
  ∀ row ∈ listed, row ∈ tenants.applications

theorem rowOf_eq_some {tenants : Tenants} {organisation name : String}
    {row : ApplicationRow} :
    tenants.rowOf organisation name = some row ↔
      tenants.organisations.lookup organisation = some row.organisationID ∧
        row ∈ tenants.applications ∧ row.name = name := by
  rw [rowOf, Option.bind_eq_some_iff]
  constructor
  · rintro ⟨organisationID, present, found⟩
    have same : row.organisationID = organisationID ∧ row.name = name := by
      simpa using List.find?_some found
    rw [same.1]
    exact ⟨present, List.mem_of_find?_eq_some found, same.2⟩
  · rintro ⟨present, member, rfl⟩
    refine ⟨row.organisationID, present, ?_⟩
    have found : (tenants.getApplicationByName row.organisationID
        row.name).isSome := by
      rw [getApplicationByName, List.find?_isSome]
      exact ⟨row, member, decide_eq_true ⟨rfl, rfl⟩⟩
    obtain ⟨other, isOther⟩ := Option.isSome_iff_exists.mp found
    have same : other.organisationID = row.organisationID ∧
        other.name = row.name := by
      simpa using List.find?_some isOther
    rw [isOther, tenants.uniqueName other
      (List.mem_of_find?_eq_some isOther) row member same.1 same.2]

end Tenants

/-! ## The start-up -/

/-- What the process finds outside: its environment, its files, its databases. -/
structure Surroundings where
  getenv : String → String
  /-- A file, less the white space around its contents. -/
  readFile : String → Option String
  expandEnv : String → String
  /-- What the client factory makes of a configuration. -/
  factory : AppConfig → Option Client
  now : Time

/-- `ResolveConnectionURL`. -/
def DeclaredPlane.resolveConnectionURL (plane : DeclaredPlane)
    (surroundings : Surroundings) : Option String :=
  let fromURL :=
    if plane.connectionURL ≠ "" then
      some (surroundings.expandEnv plane.connectionURL)
    else none
  match plane.connectionStringFrom with
  | none => fromURL
  | some source =>
      if source.env ≠ "" then
        if surroundings.getenv source.env = "" then none
        else some (surroundings.getenv source.env)
      else if source.file ≠ "" then surroundings.readFile source.file
      else fromURL

/-- The configuration a data plane is registered with, if it is. -/
def DeclaredPlane.config (plane : DeclaredPlane) (surroundings : Surroundings)
    (app : ApplicationRow) : Option AppConfig :=
  if plane.integration = .known .attached then none
  else
    (plane.resolveConnectionURL surroundings).map fun databaseURL =>
      { applicationID := app.id
        applicationName := app.name
        databaseURL := databaseURL
        mode := plane.mode
        integration := plane.integration
        maxConnections := plane.maxConnections
        statementTimeout := int64 (plane.statementTimeoutSecs * second) }

/-- `appMap`: of several rows of one name the last one stays. -/
def appMap (listed : List ApplicationRow) : Table String ApplicationRow :=
  listed.foldl (fun apps row => apps.insert row.name row) ∅

/-- `RegisterApp`, with nobody else about. -/
def registerApp (surroundings : Surroundings) (manager : DefaultManager)
    (cfg : AppConfig) : DefaultManager :=
  match cfg.normalise with
  | .error _ => manager
  | .ok normal =>
      let registered := manager.register normal manager.initMu.entries.length
      match surroundings.factory normal with
      | some client => registered.storeClient normal.applicationID client
      | none => registered.storeFailure normal.applicationID surroundings.now

/-- The body of `registerDeclarativeDataPlanes`. -/
def registerPlane (surroundings : Surroundings)
    (apps : Table String ApplicationRow) (manager : DefaultManager)
    (declared : (_ : String) × DeclaredPlane) : DefaultManager :=
  match apps.lookup declared.1 with
  | none => manager
  | some app =>
      match declared.2.config surroundings app with
      | none => manager
      | some cfg => registerApp surroundings manager cfg

/-- `registerDeclarativeDataPlanes`; the order is that of the map iteration. -/
def registerDeclarativeDataPlanes (surroundings : Surroundings)
    (listed : List ApplicationRow)
    (order : List ((_ : String) × DeclaredPlane)) : DefaultManager :=
  order.foldl (registerPlane surroundings (appMap listed)) newManager

/-! ## The property -/

/--
Every registered configuration belongs to the application of the organisation
whose name it carries.
-/
def Isolated (tenants : Tenants) (organisation : String)
    (manager : DefaultManager) : Prop :=
  ∀ appID cfg, manager.configs.lookup appID = some cfg →
    ∃ row, tenants.rowOf organisation cfg.applicationName = some row ∧
      row.id = appID

/-- The data plane is one to register. -/
def DeclaredPlane.Registers (plane : DeclaredPlane)
    (surroundings : Surroundings) : Prop :=
  plane.integration ≠ .known .attached ∧
    (∀ name, plane.integration ≠ .other name) ∧
      ∃ databaseURL, plane.resolveConnectionURL surroundings =
        some databaseURL ∧ databaseURL ≠ ""

/-- The application of a name which comes last. -/
def lastListed (listed : List ApplicationRow) (name : String) :
    Option ApplicationRow :=
  listed.reverse.find? fun row => row.name = name

/-! ## Registrations -/

theorem lookup_appMap (listed : List ApplicationRow) (name : String) :
    (appMap listed).lookup name = lastListed listed name := by
  induction listed using List.reverseRecOn with
  | nil => simp [appMap, lastListed]
  | append_singleton earlier row induction =>
      rw [appMap, List.foldl_append, List.foldl_cons, List.foldl_nil,
        lookup_insert_eq, lastListed, List.reverse_append]
      show _ = (row :: earlier.reverse).find? _
      rw [List.find?_cons]
      by_cases same : name = row.name
      · simp [same]
      · rw [if_neg same]
        simp only [Ne.symm same, decide_false]
        exact induction

theorem lastListed_eq_some {listed : List ApplicationRow} {name : String}
    {row : ApplicationRow} (last : lastListed listed name = some row) :
    row ∈ listed ∧ row.name = name := by
  refine ⟨List.mem_reverse.mp (List.mem_of_find?_eq_some last), ?_⟩
  simpa using List.find?_some last

/-- What a registration leaves among the configurations. -/
theorem configs_registerApp (surroundings : Surroundings)
    (manager : DefaultManager) {cfg normal : AppConfig}
    (normalised : cfg.normalise = .ok normal) :
    (registerApp surroundings manager cfg).configs =
      manager.configs.insert normal.applicationID normal := by
  simp only [registerApp, normalised]
  cases surroundings.factory normal <;> rfl

/-- A configuration is accepted unless it lacks a database or names no integration. -/
theorem normalise_isOk (cfg : AppConfig) (hasURL : cfg.databaseURL ≠ "")
    (known : ∀ name, cfg.integration ≠ .other name) :
    ∃ normal, cfg.normalise = .ok normal ∧
      normal.applicationID = cfg.applicationID ∧
        normal.applicationName = cfg.applicationName := by
  rw [AppConfig.normalise, if_neg hasURL]
  cases integration : cfg.integration with
  | unset => exact ⟨_, rfl, rfl, rfl⟩
  | known name => exact ⟨_, rfl, rfl, rfl⟩
  | other name => exact (known name integration).elim

theorem normalise_isError (cfg : AppConfig)
    (unfit : cfg.databaseURL = "" ∨ ∃ name, cfg.integration = .other name) :
    ∃ error, cfg.normalise = .error error := by
  rw [AppConfig.normalise]
  by_cases noURL : cfg.databaseURL = ""
  · rw [if_pos noURL]
    exact ⟨_, rfl⟩
  · obtain ⟨name, integration⟩ := unfit.resolve_left noURL
    rw [if_neg noURL, integration]
    exact ⟨_, rfl⟩

/-- The configuration of a data plane. -/
theorem DeclaredPlane.config_eq_some {plane : DeclaredPlane}
    {surroundings : Surroundings} {app : ApplicationRow} {cfg : AppConfig}
    (isConfig : plane.config surroundings app = some cfg) :
    plane.integration ≠ .known .attached ∧
      plane.resolveConnectionURL surroundings = some cfg.databaseURL ∧
        cfg.integration = plane.integration ∧ cfg.applicationID = app.id ∧
          cfg.applicationName = app.name := by
  rw [DeclaredPlane.config] at isConfig
  split_ifs at isConfig with attached
  obtain ⟨databaseURL, resolved, rfl⟩ := Option.map_eq_some_iff.mp isConfig
  exact ⟨attached, resolved, rfl, rfl, rfl⟩

section Steps

variable (surroundings : Surroundings) (apps : Table String ApplicationRow)

/-- A data plane which registers leaves a configuration under its application. -/
theorem configs_registerPlane (manager : DefaultManager)
    {declared : (_ : String) × DeclaredPlane} {app : ApplicationRow}
    (found : apps.lookup declared.1 = some app)
    (registers : declared.2.Registers surroundings) :
    ∃ cfg : AppConfig, cfg.applicationName = app.name ∧
      (registerPlane surroundings apps manager declared).configs =
        manager.configs.insert app.id cfg := by
  obtain ⟨notAttached, known, databaseURL, resolved, notEmpty⟩ := registers
  obtain ⟨cfg, isConfig⟩ : ∃ cfg,
      declared.2.config surroundings app = some cfg := by
    rw [DeclaredPlane.config, if_neg notAttached, resolved]
    exact ⟨_, rfl⟩
  obtain ⟨-, url, integration, sameID, sameName⟩ :=
    DeclaredPlane.config_eq_some isConfig
  cases resolved.symm.trans url
  obtain ⟨normal, normalised, normalID, normalName⟩ :=
    normalise_isOk cfg notEmpty (integration ▸ known)
  refine ⟨normal, normalName.trans sameName, ?_⟩
  simp only [registerPlane, found, isConfig]
  rw [configs_registerApp surroundings manager normalised,
    normalID.trans sameID]

/-- Any other data plane leaves the manager alone. -/
theorem registerPlane_of_not (manager : DefaultManager)
    {declared : (_ : String) × DeclaredPlane}
    (skipped : apps.lookup declared.1 = none ∨
      ¬declared.2.Registers surroundings) :
    registerPlane surroundings apps manager declared = manager := by
  rw [registerPlane]
  cases found : apps.lookup declared.1 with
  | none => rfl
  | some app =>
      have unfit := skipped.resolve_left (by rw [found]; nofun)
      cases isConfig : declared.2.config surroundings app with
      | none => simp only [isConfig]
      | some cfg =>
          obtain ⟨notAttached, url, integration, -⟩ :=
            DeclaredPlane.config_eq_some isConfig
          have refused : cfg.databaseURL = "" ∨
              ∃ name, cfg.integration = .other name := by
            by_contra fit
            rw [not_or, not_exists, integration] at fit
            exact unfit ⟨notAttached, fit.2, cfg.databaseURL, url, fit.1⟩
          obtain ⟨error, isError⟩ := normalise_isError cfg refused
          simp only [isConfig, registerApp, isError]

/-- Every configuration has been registered for some data plane. -/
theorem registered_of_lookup
    {order : List ((_ : String) × DeclaredPlane)} {manager : DefaultManager}
    {appID : UUID} {cfg : AppConfig}
    (present : (order.foldl (registerPlane surroundings apps)
      manager).configs.lookup appID = some cfg) :
    manager.configs.lookup appID = some cfg ∨
      ∃ declared ∈ order, declared.2.Registers surroundings ∧
        ∃ app, apps.lookup declared.1 = some app ∧ app.id = appID ∧
          cfg.applicationName = app.name := by
  induction order generalizing manager with
  | nil => exact .inl present
  | cons declared order induction =>
      rcases induction present with earlier | ⟨later, member, rest⟩
      · by_cases skipped : apps.lookup declared.1 = none ∨
          ¬declared.2.Registers surroundings
        · rw [registerPlane_of_not surroundings apps manager skipped] at earlier
          exact .inl earlier
        · rw [not_or, not_not] at skipped
          obtain ⟨app, found⟩ := Option.ne_none_iff_exists'.mp skipped.1
          obtain ⟨registered, sameName, configs⟩ :=
            configs_registerPlane surroundings apps manager found skipped.2
          rw [configs, lookup_insert_eq] at earlier
          split_ifs at earlier with same
          · cases earlier
            exact .inr ⟨declared, List.mem_cons_self, skipped.2, app, found,
              same.symm, sameName⟩
          · exact .inl earlier
      · exact .inr ⟨later, List.mem_cons_of_mem _ member, rest⟩

/-- What has been registered stays. -/
theorem lookup_foldl_ne_none
    {order : List ((_ : String) × DeclaredPlane)} {manager : DefaultManager}
    {appID : UUID} (present : manager.configs.lookup appID ≠ none) :
    (order.foldl (registerPlane surroundings apps) manager).configs.lookup
      appID ≠ none := by
  induction order generalizing manager with
  | nil => exact present
  | cons declared order induction =>
      apply induction
      by_cases skipped : apps.lookup declared.1 = none ∨
        ¬declared.2.Registers surroundings
      · rw [registerPlane_of_not surroundings apps manager skipped]
        exact present
      · rw [not_or, not_not] at skipped
        obtain ⟨app, found⟩ := Option.ne_none_iff_exists'.mp skipped.1
        obtain ⟨registered, -, configs⟩ :=
          configs_registerPlane surroundings apps manager found skipped.2
        rw [configs, lookup_insert_eq]
        split_ifs
        · nofun
        · exact present

theorem lookup_ne_none_of_registers
    {order : List ((_ : String) × DeclaredPlane)} {manager : DefaultManager}
    {declared : (_ : String) × DeclaredPlane} (member : declared ∈ order)
    {app : ApplicationRow} (found : apps.lookup declared.1 = some app)
    (registers : declared.2.Registers surroundings) :
    (order.foldl (registerPlane surroundings apps) manager).configs.lookup
      app.id ≠ none := by
  induction order generalizing manager with
  | nil => cases member
  | cons first order induction =>
      rcases List.mem_cons.mp member with rfl | later
      · obtain ⟨registered, -, configs⟩ :=
          configs_registerPlane surroundings apps manager found registers
        rw [List.foldl_cons]
        apply lookup_foldl_ne_none
        rw [configs, lookup_insert_eq, if_pos rfl]
        nofun
      · exact induction later

end Steps

/-! ## Isolation -/

/--
Whatever the store holds and in whatever order it lists it: the start-up
registers the data planes of a manifest for the applications of its organisation
exactly if, for each data plane it registers, the application listed last among
those of its name belongs to that organisation.
-/
theorem isolated_iff_lastListed (surroundings : Surroundings)
    (tenants : Tenants) (manifest : Manifest) (listed : List ApplicationRow)
    (order : List ((_ : String) × DeclaredPlane))
    (lists : tenants.Lists listed)
    (iterates : order.Perm manifest.dataPlanes.entries) :
    Isolated tenants manifest.organisation
        (registerDeclarativeDataPlanes surroundings listed order) ↔
      ∀ appName plane, manifest.dataPlanes.lookup appName = some plane →
        plane.Registers surroundings →
          ∀ row, lastListed listed appName = some row →
            tenants.organisations.lookup manifest.organisation =
              some row.organisationID := by
  have declares : ∀ {declared}, declared ∈ order ↔
      manifest.dataPlanes.lookup declared.1 = some declared.2 :=
    iterates.mem_iff.trans mem_entries_iff
  constructor
  · intro isolated appName plane declared registers row last
    have found : (appMap listed).lookup appName = some row :=
      (lookup_appMap listed appName).trans last
    obtain ⟨cfg, present⟩ := Option.ne_none_iff_exists'.mp
      (lookup_ne_none_of_registers surroundings (appMap listed)
        (declares.mpr declared : ⟨appName, plane⟩ ∈ order) found registers)
    obtain ⟨own, isOwn, sameID⟩ := isolated row.id cfg present
    obtain ⟨organisation, member, -⟩ := Tenants.rowOf_eq_some.mp isOwn
    -- The identifier belongs to one row only.
    have same := tenants.primaryKey own member row
      (lists row (lastListed_eq_some last).1) sameID
    rw [organisation, same]
  · intro lastIsOwn appID cfg present
    rcases registered_of_lookup surroundings (appMap listed) present with
      initially | ⟨⟨appName, plane⟩, member, registers, row, found, sameID,
        sameName⟩
    · simp [newManager] at initially
    · rw [lookup_appMap] at found
      obtain ⟨isListed, isNamed⟩ := lastListed_eq_some found
      refine ⟨row, Tenants.rowOf_eq_some.mpr ⟨?_, lists row isListed, ?_⟩,
        sameID⟩
      · exact lastIsOwn appName plane (declares.mp member) registers row found
      · exact sameName.symm

/-- The surroundings of the samples: no environment, no files, no database. -/
def noSurroundings : Surroundings where
  getenv _ := ""
  readFile _ := none
  expandEnv text := text
  factory _ := none
  now := 0

/-- Two organisations, both with an application `orders`. -/
def sharedName : Tenants where
  organisations := (∅ : Table String UUID).insert "default" ⟨1⟩ |>.insert "acme" ⟨2⟩
  applications := [⟨⟨7⟩, ⟨1⟩, "orders"⟩, ⟨⟨8⟩, ⟨2⟩, "orders"⟩]
  primaryKey := by decide
  uniqueName := by decide

/-- A manifest of `default` with a data plane for `orders`. -/
def ordersManifest : Manifest where
  version := "1"
  organisation := "default"
  applications := [⟨"orders", "", 0, 0⟩]
  alertRules := []
  dataPlanes :=
    (∅ : Table String DeclaredPlane).insert "orders"
      ⟨"postgres://db/orders", none, .read, .known .direct, 0, 0⟩

/-- The database lists the manifest's application last. -/
def ownLast : List ApplicationRow :=
  [⟨⟨8⟩, ⟨2⟩, "orders"⟩, ⟨⟨7⟩, ⟨1⟩, "orders"⟩]

theorem isolated_ownLast :
    sharedName.Lists ownLast ∧
      Isolated sharedName ordersManifest.organisation
        (registerDeclarativeDataPlanes noSurroundings ownLast
          ordersManifest.dataPlanes.entries) := by
  have lists : sharedName.Lists ownLast := by
    unfold Tenants.Lists
    decide
  refine ⟨lists, ?_⟩
  apply (isolated_iff_lastListed noSurroundings sharedName ordersManifest
    ownLast ordersManifest.dataPlanes.entries lists (List.Perm.refl _)).mpr
  intro appName plane declared registers row last
  have isOrders : appName = "orders" := by
    have member := mem_entries_iff.mpr declared
    simp [ordersManifest, AList.insert] at member
    exact member.1
  subst isOrders
  cases last
  rfl

/-- The database lists the other application last. -/
def ownFirst : List ApplicationRow :=
  [⟨⟨7⟩, ⟨1⟩, "orders"⟩, ⟨⟨8⟩, ⟨2⟩, "orders"⟩]

theorem ownFirst_notIsolated :
    ordersManifest.validate = .ok () ∧ sharedName.Lists ownFirst ∧
      ¬Isolated sharedName ordersManifest.organisation
        (registerDeclarativeDataPlanes noSurroundings ownFirst
          ordersManifest.dataPlanes.entries) := by
  refine ⟨rfl, ?_, fun isolated => ?_⟩
  · unfold Tenants.Lists
    decide
  · obtain ⟨row, own, sameID⟩ := isolated ⟨8⟩ _ rfl
    cases own
    cases sameID

end DbosRelay.Declarative
