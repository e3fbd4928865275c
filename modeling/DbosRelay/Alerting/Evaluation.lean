import DbosRelay.Api.AlertMetadata
import DbosRelay.Router.Signing
import Mathlib.Algebra.Order.Floor.Ring
import Mathlib.Data.Rat.Floor
import Mathlib.Tactic.Linarith

/-!
# Evaluation of alert rules

`evaluateRule` of `internal/alerting/alerting.go`.  A rule's thresholds and periods
are numbers of its metadata, untyped JSON: a `float64`, which is converted to an
`int`, or a string, which `strconv.Atoi` reads.  What the conversion makes of a
number out of range is up to the machine.  The store, the executors and the parser
of RFC 3339 times are a parameter.
-/

namespace DbosRelay.Alerting

open DbosRelay.Api (Any AnyMap)
open DbosRelay.Basic
open DbosRelay.Router

/-! ## Numbers of the metadata -/

/-- A number without its fraction. -/
def truncate (value : ℚ) : Int :=
  if 0 ≤ value then ⌊value⌋ else ⌈value⌉

/-- The conversion of a `float64` to an `int`. -/
structure FloatConversion where
  toInt : ℚ → Int
  lower : ∀ value, minInt64 ≤ toInt value
  upper : ∀ value, toInt value ≤ maxInt64
  exact : ∀ value, minInt64 ≤ truncate value → truncate value ≤ maxInt64 →
    toInt value = truncate value

/-- The conversion of amd64. -/
def amd64 : FloatConversion where
  toInt value :=
    if minInt64 ≤ truncate value ∧ truncate value ≤ maxInt64 then
      truncate value
    else minInt64
  lower value := by
    split_ifs with fits
    · exact fits.1
    · exact le_rfl
  upper value := by
    split_ifs with fits
    · exact fits.2
    · decide
  exact value lower upper := if_pos ⟨lower, upper⟩

/-- A positive number of the metadata, or the default. -/
def positiveFloat (conversion : FloatConversion) (metadata : AnyMap)
    (key : String) (default : Int) : Int :=
  match metadata key with
  | some (.float64 value) =>
      if 0 < value then conversion.toInt value else default
  | _ => default

/-- A positive number of the metadata, a string included, or the default. -/
def positiveNumber (conversion : FloatConversion) (metadata : AnyMap)
    (key : String) (default : Int) : Int :=
  match metadata key with
  | some (.string text) => ((parseInt text).filter (0 < ·)).getD default
  | _ => positiveFloat conversion metadata key default

/-- A string of the metadata which is not empty, or the default. -/
def nonEmptyString (metadata : AnyMap) (key : String) (default : Bytes) :
    Bytes :=
  match metadata key with
  | some (.string text) => if text = [] then default else text
  | _ => default

/-! ## The collaborators -/

/-- The columns of an executor which are read. -/
structure ExecutorStatus where
  status : String
  applicationVersion : Bytes
deriving DecidableEq

/-- The fields of `ListWorkflowsRequest` which are set. -/
structure WorkflowsQuery where
  messageType : String
  startTime : Option Time := none
  status : List Bytes := []
  workflowName : List Bytes := []
  queueName : List Bytes := []
  queuesOnly : Bool := false
deriving DecidableEq

/-- The fields of `ListWorkflowsResponseBody` which are read. -/
structure WorkflowRow where
  workflowName : Option Bytes
  queueName : Option Bytes
  createdAt : Option Bytes
deriving DecidableEq

/-- `ListRecentRecoveryDispatchesParams`, less the application. -/
structure RecoveryQuery where
  dispatchedAt : Time
  limit : Nat
deriving DecidableEq

/-- The dispatcher; a message of another type is `none`. -/
abbrev WorkflowDispatcher :=
  WorkflowsQuery → Except String (Option (List WorkflowRow))

/-- The recovery history, each dispatch by its dead executor. -/
abbrev RecoveryStore := RecoveryQuery → Except String (List Bytes)

/-- What the evaluator reads besides the rule. -/
structure Environment where
  now : Time
  appName : Bytes
  executors : Except String (List ExecutorStatus)
  dispatcher : Option WorkflowDispatcher
  recoveryStore : Option RecoveryStore
  parseTime : Bytes → Option Time

/-- `map[string]string`, the metadata of a triggered alert. -/
abbrev AlertMeta := List (String × Bytes)

/-! ## The rule types -/

/-- `alerting_rules.rule_type`. -/
inductive RuleType where
  | unresponsiveApplication
  | workflowFailure
  | slowQueue
  | recoveryFlapping
  | strandedVersion
  | other (name : String)
deriving DecidableEq

/-- The wildcard of the name filters. -/
def anyName : Bytes := ascii "*"

/-- A name filter of a request. -/
def nameFilter (name : Bytes) : List Bytes :=
  if name ≠ anyName ∧ name ≠ [] then [name] else []

/-- A row which a name filter skips. -/
def skips (name : Bytes) (rowName : Option Bytes) : Bool :=
  decide (name ≠ anyName ∧ name ≠ []) && rowName.any (· ≠ name)

/-- `time.Duration(-secs) * time.Second` added to a time. -/
def secondsBefore (now : Time) (secs : Int) : Time :=
  now + int64 (int64 (-secs) * second)

/-- The case `UnresponsiveApplication`. -/
def evaluateUnresponsive (env : Environment) :
    Except String (Option AlertMeta) := do
  let execs ← env.executors
  if (execs.filter (·.status = "connected")).length = 0 then
    return some [("application_name", env.appName),
      ("connected_executor_count", ascii "0")]
  else return none

/-- The request of the case `WorkflowFailure`. -/
def workflowFailureQuery (conversion : FloatConversion) (now : Time)
    (metadata : AnyMap) : WorkflowsQuery :=
  { messageType := "list_workflows"
    startTime := some (secondsBefore now
      (positiveNumber conversion metadata "period_secs" 60))
    status := [ascii "ERROR"]
    workflowName :=
      nameFilter (nonEmptyString metadata "workflow_name" anyName) }

/-- The failed workflows which are counted. -/
def failedWorkflows (metadata : AnyMap) (rows : List WorkflowRow) :
    List WorkflowRow :=
  rows.filter fun row =>
    !skips (nonEmptyString metadata "workflow_name" anyName) row.workflowName

/-- The rows of a response; one of another type has none. -/
def rowsOf (response : Option (List WorkflowRow)) : List WorkflowRow :=
  response.getD []

/-- The case `WorkflowFailure`. -/
def evaluateWorkflowFailure (conversion : FloatConversion)
    (env : Environment) (metadata : AnyMap) : Option AlertMeta :=
  let threshold := positiveNumber conversion metadata "threshold" 1
  match env.dispatcher with
  | none => none
  | some dispatch =>
      match dispatch (workflowFailureQuery conversion env.now metadata) with
      | .error _ => none
      | .ok response =>
          let failedCount := (failedWorkflows metadata (rowsOf response)).length
          if threshold ≤ failedCount then
            some [("workflow_name",
                nonEmptyString metadata "workflow_name" anyName),
              ("failed_workflow_count", formatInt failedCount),
              ("threshold", formatInt threshold),
              ("period_secs", formatInt
                (positiveNumber conversion metadata "period_secs" 60))]
          else none

/-- When a row says it was created; a zero time does not count. -/
def createdTime (env : Environment) (row : WorkflowRow) : Option Time :=
  (row.createdAt.bind fun text =>
    match parseInt text with
    | some milliseconds => some (milliseconds * 1000000)
    | none => env.parseTime text).filter (· ≠ zeroTime)

/-- The case `SlowQueue`. -/
def evaluateSlowQueue (conversion : FloatConversion) (env : Environment)
    (metadata : AnyMap) : Option AlertMeta :=
  let name := nonEmptyString metadata "queue_name" anyName
  let threshold := positiveNumber conversion metadata "threshold_secs" 60
  match env.dispatcher with
  | none => none
  | some dispatch =>
      match dispatch
        { messageType := "list_queued_workflows"
          queueName := nameFilter name
          queuesOnly := true } with
      | .error _ => none
      | .ok response =>
          let stuck := (rowsOf response).filter fun row =>
            !skips name row.queueName &&
              (createdTime env row).any (· < secondsBefore env.now threshold)
          if 0 < stuck.length then
            some [("queue_name", name),
              ("stuck_workflow_count", formatInt stuck.length),
              ("threshold_secs", formatInt threshold)]
          else none

/-- The loop which counts the dispatches of each executor. -/
def flapping (threshold : Int) : (Bytes → Nat) → List Bytes →
    Option (Bytes × Nat)
  | _, [] => none
  | counts, dead :: dispatches =>
      let count := counts dead + 1
      if threshold ≤ count then some (dead, count)
      else flapping threshold (Function.update counts dead count) dispatches

/-- The request of the case `RecoveryFlapping`. -/
def recoveryQuery (now : Time) : RecoveryQuery where
  dispatchedAt := now + -1 * (3600 * second)
  limit := 100

/-- The case `RecoveryFlapping`. -/
def evaluateRecoveryFlapping (conversion : FloatConversion)
    (env : Environment) (metadata : AnyMap) : Option AlertMeta :=
  let threshold := positiveFloat conversion metadata "threshold" 3
  match env.recoveryStore with
  | none => none
  | some listRecent =>
      match listRecent (recoveryQuery env.now) with
      | .error _ => none
      | .ok dispatches =>
          (flapping threshold (fun _ => 0) dispatches).map fun found =>
            [("flapping_executor_id", found.1),
              ("recovery_count", formatInt found.2),
              ("threshold", formatInt threshold)]

/-- The case `StrandedVersion`. -/
def evaluateStrandedVersion (env : Environment) (metadata : AnyMap) :
    Except String (Option AlertMeta) := do
  let execs ← env.executors
  let version := nonEmptyString metadata "stranded_version" []
  let isLive := execs.any fun executor =>
    executor.status = "connected" && executor.applicationVersion = version
  if version ≠ [] ∧ isLive = false then
    return some [("stranded_version", version), ("live_executors", ascii "0")]
  else return none

/-- `evaluateRule`; without metadata to read, every member is absent. -/
def evaluateRule (conversion : FloatConversion) (env : Environment)
    (ruleType : RuleType) (metadata : AnyMap) :
    Except String (Option AlertMeta) :=
  match ruleType with
  | .unresponsiveApplication => evaluateUnresponsive env
  | .workflowFailure => .ok (evaluateWorkflowFailure conversion env metadata)
  | .slowQueue => .ok (evaluateSlowQueue conversion env metadata)
  | .recoveryFlapping => .ok (evaluateRecoveryFlapping conversion env metadata)
  | .strandedVersion => evaluateStrandedVersion env metadata
  | .other name => .error ("unknown rule type: " ++ name)

end DbosRelay.Alerting
