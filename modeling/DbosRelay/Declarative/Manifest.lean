import DbosRelay.DataPlane.Manager

/-!
# Declarative manifests

`Config` of `internal/declarative/declarative.go` and its `Validate`.  The names
of a manifest's data planes are not checked against its applications.
-/

namespace DbosRelay.Declarative

open DbosRelay.DataPlane
open DbosRelay.Library.Tables
open DbosRelay.Router

/-- An application of a manifest. -/
structure DeclaredApplication where
  name : String
  description : String
  stuckSLASecs : Int32
  executorTimeoutSecs : Int64
deriving DecidableEq

/-- An alert rule of a manifest, as far as `Validate` reads it. -/
structure AlertRule where
  app : String
  ruleType : String
  receivingApp : String
deriving DecidableEq, Repr

/-- Where a connection string comes from. -/
structure ConnectionSource where
  env : String
  file : String
deriving DecidableEq, Repr

/-- A data plane of a manifest. -/
structure DeclaredPlane where
  connectionURL : String
  connectionStringFrom : Option ConnectionSource
  mode : Mode
  integration : IntegrationName
  statementTimeoutSecs : Int
  maxConnections : Int
deriving DecidableEq, Repr

/-- `Config`; `Parse` has put `default` for a missing organisation. -/
structure Manifest where
  version : String
  organisation : String
  applications : List DeclaredApplication
  alertRules : List AlertRule
  dataPlanes : Table String DeclaredPlane

/-- The errors of `Validate`. -/
inductive ManifestError where
  | unsupportedVersion (version : String)
  | invalidApplicationName (name : String)
  | duplicateApplication (name : String)
  | ruleMissingApp
  | ruleUnknownApplication (name : String)
  | ruleUnknownReceivingApp (name : String)
  | unknownRuleType (ruleType : String)
  | planeWithoutConnection (appName : String)
  | invalidMode (mode : String) (appName : String)
  | invalidIntegration (integration : String) (appName : String)
deriving DecidableEq, Repr

/-- `appNameRegex`. -/
def isAppName (name : String) : Bool :=
  3 ≤ name.length && name.length ≤ 256 &&
    name.toList.all fun char =>
      ('a' ≤ char && char ≤ 'z') || ('0' ≤ char && char ≤ '9') ||
        char = '-' || char = '_'

/-- The loop over the applications; it collects their names. -/
def validateApplications (seen : List String) :
    List DeclaredApplication → Except ManifestError (List String)
  | [] => .ok seen
  | app :: rest =>
      if !isAppName app.name then .error (.invalidApplicationName app.name)
      else if app.name ∈ seen then .error (.duplicateApplication app.name)
      else validateApplications (app.name :: seen) rest

/-- The body of the loop over the alert rules. -/
def validateRule (apps : List String) (rule : AlertRule) :
    Except ManifestError Unit :=
  if rule.app = "" then .error .ruleMissingApp
  else if rule.app ∉ apps then .error (.ruleUnknownApplication rule.app)
  else if rule.receivingApp ≠ "" ∧ rule.receivingApp ∉ apps then
    .error (.ruleUnknownReceivingApp rule.receivingApp)
  else if rule.ruleType ∈
      ["UnresponsiveApplication", "WorkflowFailure", "SlowQueue"] then
    .ok ()
  else .error (.unknownRuleType rule.ruleType)

/-- The body of the loop over the data planes. -/
def validatePlane (appName : String) (plane : DeclaredPlane) :
    Except ManifestError Unit :=
  if plane.integration ≠ .known .attached ∧ plane.connectionURL = "" ∧
      plane.connectionStringFrom = none then
    .error (.planeWithoutConnection appName)
  else
    match plane.mode, plane.integration with
    | .other mode, _ => .error (.invalidMode mode appName)
    | _, .other integration => .error (.invalidIntegration integration appName)
    | _, _ => .ok ()

/-- `Validate`. -/
def Manifest.validate (manifest : Manifest) : Except ManifestError Unit := do
  if manifest.version ≠ "1" ∧ manifest.version ≠ "v1" then
    .error (.unsupportedVersion manifest.version)
  let apps ← validateApplications [] manifest.applications
  manifest.alertRules.forM (validateRule apps)
  manifest.dataPlanes.entries.forM fun entry =>
    validatePlane entry.1 entry.2

end DbosRelay.Declarative
