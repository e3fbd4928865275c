import DbosRelay.Api.WorkflowsWrite

/-!
# Which application a resume is guarded for

The router lets `local` and `default` stand in for each other when the
organisation a request names does not exist; `resumeVersionBlocked` does not, and
takes an application it does not find for one without a latest version.  So a
resume is guarded for the application of the organisation named, while it reaches
the application of the one which stands in.
-/

namespace DbosRelay.Api

open DbosRelay.Applications
open DbosRelay.Basic
open DbosRelay.Library.Tables
open DbosRelay.Protocol
open DbosRelay.Router
open DbosRelay.Store

/-! ## The tables -/

/-- The rows a resume depends on. -/
structure GuardTables where
  /-- The identifiers of the organisations, unique in their names. -/
  organisations : Table String UUID
  applications : Table (UUID × String) GuardedApplication
  executors : ExecutorTable
  primaryKey : ∀ first second app other,
    applications.lookup first = some app →
      applications.lookup second = some other → app.id = other.id →
        first = second

/-- A lookup which fails only by finding no rows. -/
def foundRow {Row : Type} : Option Row → Except StoreError Row
  | none => .error .noRows
  | some row => .ok row

namespace GuardTables

variable (tables : GuardTables)

/-- The answers to the queries. -/
def store : GuardStore where
  getOrganisationByName name := foundRow (tables.organisations.lookup name)
  getApplicationByName org name :=
    foundRow (tables.applications.lookup (org, name))
  listExecutorsByApplication appID :=
    .ok (listExecutorsByApplication tables.executors appID)

/-- The same store, as the router reads it. -/
def resolver : AppResolver where
  getOrganisationByName := tables.store.getOrganisationByName
  getApplicationByName org name :=
    (tables.store.getApplicationByName org name).map GuardedApplication.id

/-- The application has a live executor of the version. -/
def HasLiveExecutor (appID : UUID) (version : String) : Prop :=
  ∃ key row, tables.executors.lookup key = some row ∧ key.appID = appID ∧
    isLiveStatus row.status = true ∧ row.applicationVersion = version

/-- The latest version, if one is recorded, has a live executor. -/
def LatestIsLive (app : GuardedApplication) : Prop :=
  ∀ latest, recordedVersion app.settings = some latest →
    tables.HasLiveExecutor app.id latest

/-- The application of a name in the organisation of that very name. -/
def named (orgName appName : String) : Option GuardedApplication :=
  (tables.organisations.lookup orgName).bind fun org =>
    tables.applications.lookup (org, appName)

/-- The organisation which stands in for one that does not exist. -/
def standIn (orgName : String) : Option String :=
  if orgName = "local" then some "default"
  else if orgName = "default" then some "local"
  else none

/-- The application reached only because another organisation stands in. -/
def ReachedByStandIn (orgName appName : String) (app : GuardedApplication) :
    Prop :=
  tables.organisations.lookup orgName = none ∧
    ∃ other, standIn orgName = some other ∧ tables.named other appName = some app

/--
Whatever the handler sends on reaches, by the router's resolution, an application
whose latest version has a live executor.
-/
def Guards {types : StandardTypes} (answer : MutationAnswer types) : Prop :=
  ∀ call, answer.dispatched = some call → ∀ key app,
    tables.applications.lookup key = some app →
      resolveApplication tables.resolver call.orgName call.appName =
          .ok app.id →
        tables.LatestIsLive app

end GuardTables

/-! ## The guard and the router -/

section Resolution

variable {tables : GuardTables} {orgName appName : String}
variable {app : GuardedApplication}

theorem any_isLiveStatus_iff {appID : UUID} {latest : String} :
    ((listExecutorsByApplication tables.executors appID).any fun exec =>
        isLiveStatus exec.status && exec.applicationVersion = latest) = true ↔
      tables.HasLiveExecutor appID latest := by
  simp only [List.any_eq_true, mem_listExecutorsByApplication, Bool.and_eq_true,
    decide_eq_true_eq]
  constructor
  · rintro ⟨row, ⟨key, present, sameApp⟩, live, sameVersion⟩
    exact ⟨key, row, present, sameApp, live, sameVersion⟩
  · rintro ⟨key, row, present, sameApp, live, sameVersion⟩
    exact ⟨row, ⟨key, present, sameApp⟩, live, sameVersion⟩

/-- The guard lets pass what is live in the organisation named. -/
theorem resumeVersionBlocked_eq_none :
    resumeVersionBlocked (some tables.store) orgName appName = none ↔
      ∀ app, tables.named orgName appName = some app →
        tables.LatestIsLive app := by
  simp only [resumeVersionBlocked, GuardTables.store, GuardTables.named]
  cases tables.organisations.lookup orgName with
  | none => simp [foundRow]
  | some org =>
      simp only [foundRow, Option.bind_some]
      cases tables.applications.lookup (org, appName) with
      | none => simp
      | some app =>
          simp only [Option.some.injEq, forall_eq', GuardTables.LatestIsLive]
          cases recordedVersion app.settings with
          | none => simp
          | some latest =>
              simp only [Option.some.injEq, forall_eq', any_isLiveStatus_iff,
                ite_eq_left_iff, reduceCtorEq, imp_false, not_not]

/-- The router has found the organisation and then the application. -/
theorem resolveApplication_eq_ok_iff {store : AppResolver} {appID : UUID} :
    resolveApplication store orgName appName = .ok appID ↔
      ∃ org, store.organisation (Identity.normalizeOrg orgName) = .ok org ∧
        store.getApplicationByName org appName = .ok appID := by
  unfold resolveApplication
  dsimp only
  rw [← Identity.normalizeOrg]
  cases store.organisation (Identity.normalizeOrg orgName) with
  | error error =>
      refine iff_of_false ?_ (by rintro ⟨org, found, -⟩; cases found)
      cases error with
      | noRows => rintro ⟨⟩
      | failed text => rintro ⟨⟩
  | ok org =>
      simp only [Except.ok.injEq, exists_eq_left']
      cases store.getApplicationByName org appName with
      | error error =>
          refine iff_of_false ?_ (by rintro ⟨⟩)
          cases error with
          | noRows => rintro ⟨⟩
          | failed text => rintro ⟨⟩
      | ok app => simp only [Except.ok.injEq]

/-- The lookup of an organisation with its stand-in. -/
theorem organisation_resolver :
    tables.resolver.organisation orgName =
      foundRow ((tables.organisations.lookup orgName).or
        ((GuardTables.standIn orgName).bind tables.organisations.lookup)) := by
  simp only [AppResolver.organisation, GuardTables.resolver, GuardTables.store,
    GuardTables.standIn]
  cases tables.organisations.lookup orgName with
  | some org => rfl
  | none =>
      simp only [foundRow, Option.none_or]
      split_ifs with isLocal isDefault
      · rfl
      · rfl
      · rfl

/-- An application is found in an organisation by its identifier. -/
theorem lookup_eq_of_id {key : UUID × String} {org : UUID}
    (present : tables.applications.lookup key = some app) :
    (tables.resolver.getApplicationByName org appName = .ok app.id) ↔
      tables.applications.lookup (org, appName) = some app := by
  simp only [GuardTables.resolver, GuardTables.store]
  cases listed : tables.applications.lookup (org, appName) with
  | none => exact iff_of_false nofun nofun
  | some other =>
      constructor
      · intro sameID
        have sameKey : (org, appName) = key :=
          tables.primaryKey _ _ _ _ listed present (Except.ok.inj sameID)
        rw [← sameKey] at present
        exact listed.symm.trans present
      · intro same
        cases same
        rfl

/-- What the router resolves the names to. -/
theorem resolveApplication_eq_ok {key : UUID × String}
    (present : tables.applications.lookup key = some app) :
    resolveApplication tables.resolver orgName appName = .ok app.id ↔
      tables.named (Identity.normalizeOrg orgName) appName = some app ∨
        tables.ReachedByStandIn (Identity.normalizeOrg orgName) appName app := by
  simp only [resolveApplication_eq_ok_iff, organisation_resolver,
    lookup_eq_of_id present]
  unfold GuardTables.named GuardTables.ReachedByStandIn
  cases tables.organisations.lookup (Identity.normalizeOrg orgName) with
  | some org => simp [foundRow]
  | none =>
      cases GuardTables.standIn (Identity.normalizeOrg orgName) with
      | none => simp [foundRow]
      | some other =>
          cases listed : tables.organisations.lookup other with
          | none => simp [foundRow, GuardTables.named, listed]
          | some org => simp [foundRow, GuardTables.named, listed]

end Resolution

/-! ## Resumes -/

section Resumes

variable {types : StandardTypes} (tables : GuardTables)

/-- The server of the tables. -/
def GuardTables.server (requestID : String)
    (routed : Except RouterError (WireMessage types)) : WorkflowServer types :=
  ⟨some tables.store, requestID, routed⟩

/-- An application reached by a stand-in has its latest version live. -/
def GuardTables.StandInIsLive (orgName appName : String) : Prop :=
  ∀ app, tables.ReachedByStandIn (Identity.normalizeOrg orgName) appName app →
    tables.LatestIsLive app

theorem normalizeOrg_normalizeOrg (orgName : String) :
    Identity.normalizeOrg (Identity.normalizeOrg orgName) =
      Identity.normalizeOrg orgName := by
  by_cases empty : orgName = ""
  · simp [Identity.normalizeOrg, empty]
  · simp [Identity.normalizeOrg, empty]

/-- The guard lets pass what it does not find. -/
theorem GuardTables.ReachedByStandIn.passes {tables : GuardTables}
    {orgName appName : String} {app : GuardedApplication}
    (reached : tables.ReachedByStandIn orgName appName app) :
    resumeVersionBlocked (some tables.store) orgName appName = none := by
  refine resumeVersionBlocked_eq_none.mpr fun other found => ?_
  rw [GuardTables.named, reached.1] at found
  cases found

/-- What is reached by a stand-in is a row. -/
theorem GuardTables.ReachedByStandIn.present {tables : GuardTables}
    {orgName appName : String} {app : GuardedApplication}
    (reached : tables.ReachedByStandIn orgName appName app) :
    ∃ key, tables.applications.lookup key = some app := by
  obtain ⟨-, other, -, found⟩ := reached
  obtain ⟨org, -, present⟩ := Option.bind_eq_some_iff.mp found
  exact ⟨(org, appName), present⟩

/-- A handler which sends on the names of its request unless they are blocked. -/
theorem guards_iff {answer : MutationAnswer types} {orgName appName : String}
    (msg : WireMessage types)
    (sends : answer.dispatched =
      if resumeVersionBlocked (some tables.store)
          (Identity.normalizeOrg orgName) appName = none then
        some ⟨Identity.normalizeOrg orgName, appName, msg⟩
      else none) :
    tables.Guards answer ↔ tables.StandInIsLive orgName appName := by
  constructor
  · intro guards app reached
    obtain ⟨key, present⟩ := reached.present
    rw [if_pos reached.passes] at sends
    refine guards _ sends key app present ?_
    rw [resolveApplication_eq_ok present, normalizeOrg_normalizeOrg]
    exact Or.inr reached
  · intro live call dispatched key app present resolves
    rw [sends] at dispatched
    split_ifs at dispatched with passes
    cases dispatched
    rw [resolveApplication_eq_ok present, normalizeOrg_normalizeOrg] at resolves
    obtain found | reached := resolves
    · exact resumeVersionBlocked_eq_none.mp passes app found
    · exact live app reached

/--
Every resume a handler sends reaches an application whose latest version is live,
exactly if no organisation stands in for the one named, or the application this
leads to has no latest version or a live executor of it.
-/
theorem resumes_guarded_iff (requestID : String)
    (routed : Except RouterError (WireMessage types)) :
    (∀ request : WorkflowRequest ResumeWorkflowInputBody,
        tables.Guards
            (resumeWorkflow (tables.server requestID routed) request) ↔
          tables.StandInIsLive request.orgName request.appName) ∧
      ∀ request : AppRequest BulkResumeInputBody,
        tables.Guards
            (bulkResumeWorkflows (tables.server requestID routed) request) ↔
          request.body = none ∨
            tables.StandInIsLive request.orgName request.appName := by
  constructor
  · intro request
    apply guards_iff tables ⟨false, .resume, (MessageType.resume.text, requestID,
      none, request.workflowID, none, request.body.bind (·.queueName), ())⟩
    unfold resumeWorkflow GuardTables.server
    dsimp only
    cases resumeVersionBlocked (some tables.store)
        (Identity.normalizeOrg request.orgName) request.appName with
    | some latest => rfl
    | none => exact answerMutation_dispatched _ _ _ _ _
  · rintro ⟨orgName, appName, body⟩
    cases body with
    | none =>
        refine iff_of_true ?_ (Or.inl rfl)
        intro call dispatched
        cases dispatched
    | some body =>
        rw [or_iff_right nofun]
        apply guards_iff tables ⟨false, .resume, (MessageType.resume.text,
          requestID, none, "", body.workflowIDs, body.queueName, ())⟩
        unfold bulkResumeWorkflows GuardTables.server
        dsimp only
        cases resumeVersionBlocked (some tables.store)
            (Identity.normalizeOrg orgName) appName with
        | some latest => rfl
        | none => exact answerMutation_dispatched _ _ _ _ _

end Resumes

/-- An application of `default` whose latest version no executor runs. -/
def undeployed : GuardTables where
  organisations := (∅ : Table String UUID).insert "default" ⟨1⟩
  applications :=
    (∅ : Table (UUID × String) GuardedApplication).insert (⟨1⟩, "orders")
      ⟨⟨2⟩, (∅ : Settings).insert "latestVersion" (.string "v2")⟩
  executors :=
    (∅ : ExecutorTable).insert ⟨⟨2⟩, "e1"⟩
      ⟨"v1", .connected, none, none, 0, 0, none⟩
  primaryKey := by
    intro first second app other present listed _
    obtain ⟨isFirst, -⟩ | ⟨-, missing⟩ := lookup_insert_cases rfl present
    · obtain ⟨isSecond, -⟩ | ⟨-, missing⟩ := lookup_insert_cases rfl listed
      · rw [isFirst, isSecond]
      · cases missing
    · cases missing

/-- A resume named for `local`, which does not exist. -/
def undeployedResume : MutationAnswer literalTypes :=
  resumeWorkflow
    (undeployed.server "req-1"
      (.ok ⟨true, .resume, ("resume", "req-1", none, true, ())⟩))
    ⟨"local", "orders", "wf-1", none⟩

/-- It is sent to the application of `default`. -/
theorem resumeWorkflow_undeployed :
    undeployedResume.dispatched.isSome ∧
      resolveApplication undeployed.resolver "local" "orders" = .ok ⟨2⟩ ∧
      (undeployed.named "default" "orders").map
          (fun app => (app.id, recordedVersion app.settings)) =
        some (⟨2⟩, some "v2") ∧
      ¬undeployed.HasLiveExecutor ⟨2⟩ "v2" ∧
      ¬undeployed.Guards undeployedResume := by
  have notLive : ¬undeployed.HasLiveExecutor ⟨2⟩ "v2" := by
    rintro ⟨key, row, present, -, -, version⟩
    obtain ⟨-, isRow⟩ | ⟨-, missing⟩ := lookup_insert_cases rfl present
    · rw [isRow] at version
      exact absurd version (by decide)
    · cases missing
  refine ⟨rfl, rfl, by decide, notLive, fun guards => notLive ?_⟩
  exact guards _ rfl (⟨1⟩, "orders") _ rfl rfl "v2" (by decide)

end DbosRelay.Api
