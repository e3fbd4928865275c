import DbosRelay.Basic

/-!
# Protocol messages

The message types of `internal/protocol/envelope.go`, and the classifications
of them on which the hub, the router and the data plane base their routing.
-/

namespace DbosRelay.Protocol

open DbosRelay.Basic

/-- `MessageType`; a string in the source, so other values exist. -/
inductive MessageType where
  | executorInfo
  | recovery
  | cancel
  | resume
  | listWorkflows
  | listQueuedWorkflows
  | listSteps
  | getWorkflow
  | forkWorkflow
  | rewindWorkflow
  | forkFromFailure
  | existPendingWorkflows
  | retention
  | getMetrics
  | exportWorkflow
  | importWorkflow
  | delete
  | alert
  | listSchedules
  | getSchedule
  | pauseSchedule
  | resumeSchedule
  | backfillSchedule
  | triggerSchedule
  | getWorkflowEvents
  | getWorkflowNotifications
  | getWorkflowStreams
  | getWorkflowAggregates
  | getStepAggregates
  | listApplicationVersions
  | setLatestApplicationVersion
  | listQueues
  | getQueue
  | other (name : String)
deriving DecidableEq, Repr

/-- The string of a message type. -/
def MessageType.text : MessageType → String
  | .executorInfo => "executor_info"
  | .recovery => "recovery"
  | .cancel => "cancel"
  | .resume => "resume"
  | .listWorkflows => "list_workflows"
  | .listQueuedWorkflows => "list_queued_workflows"
  | .listSteps => "list_steps"
  | .getWorkflow => "get_workflow"
  | .forkWorkflow => "fork_workflow"
  | .rewindWorkflow => "rewind_workflow"
  | .forkFromFailure => "fork_from_failure"
  | .existPendingWorkflows => "exist_pending_workflows"
  | .retention => "retention"
  | .getMetrics => "get_metrics"
  | .exportWorkflow => "export_workflow"
  | .importWorkflow => "import_workflow"
  | .delete => "delete"
  | .alert => "alert"
  | .listSchedules => "list_schedules"
  | .getSchedule => "get_schedule"
  | .pauseSchedule => "pause_schedule"
  | .resumeSchedule => "resume_schedule"
  | .backfillSchedule => "backfill_schedule"
  | .triggerSchedule => "trigger_schedule"
  | .getWorkflowEvents => "get_workflow_events"
  | .getWorkflowNotifications => "get_workflow_notifications"
  | .getWorkflowStreams => "get_workflow_streams"
  | .getWorkflowAggregates => "get_workflow_aggregates"
  | .getStepAggregates => "get_step_aggregates"
  | .listApplicationVersions => "list_application_versions"
  | .setLatestApplicationVersion => "set_latest_application_version"
  | .listQueues => "list_queues"
  | .getQueue => "get_queue"
  | .other name => name

/-- A message: its envelope, and whatever else its type carries. -/
structure Message where
  messageType : MessageType
  requestID : String
  content : Bytes
deriving DecidableEq, Repr

/-- `isMutatingMessage` of the data plane, exported as `IsMutating`. -/
def isMutating : MessageType → Bool
  | .cancel
  | .resume
  | .forkWorkflow
  | .rewindWorkflow
  | .delete
  | .forkFromFailure
  | .importWorkflow
  | .retention
  | .pauseSchedule
  | .resumeSchedule
  | .backfillSchedule
  | .triggerSchedule
  | .setLatestApplicationVersion => true
  | _ => false

/-- `isSafeToRetry` of the hub. -/
def isSafeToRetry : MessageType → Bool
  | .executorInfo
  | .listWorkflows
  | .listQueuedWorkflows
  | .listSteps
  | .getWorkflow
  | .existPendingWorkflows
  | .getMetrics
  | .listSchedules
  | .getSchedule
  | .getWorkflowEvents
  | .getWorkflowNotifications
  | .getWorkflowStreams
  | .getWorkflowAggregates
  | .getStepAggregates
  | .listApplicationVersions
  | .listQueues
  | .getQueue
  | .cancel
  | .resume => true
  | _ => false

/-- `isFleetAggregate` of the router. -/
def isFleetAggregate (messageType : MessageType) : Bool :=
  messageType = .getWorkflowAggregates || messageType = .getStepAggregates

/-- `NonDatabaseReason` of the data plane. -/
def nonDatabaseReason : MessageType → String
  | .getWorkflowEvents =>
      "workflow event listing requires a live executor: the MIT Go client " ++
        "reads events by key and has no event listing operation"
  | .getWorkflowNotifications =>
      "workflow notification listing requires a live executor: the MIT Go " ++
        "client has no notification listing operation"
  | .getWorkflowStreams =>
      "workflow stream listing requires a live executor: the MIT Go client " ++
        "reads streams by key and has no stream listing operation"
  | .exportWorkflow =>
      "workflow export requires a live executor: the serialized workflow " ++
        "format belongs to the executor and the MIT Go client has no export " ++
        "operation"
  | .importWorkflow =>
      "workflow import is not supported in Direct mode: the MIT Go client " ++
        "has no import operation and Direct mode does not retry a mutation " ++
        "over an executor socket"
  | _ => ""

/-- An aggregate query changes nothing. -/
theorem isFleetAggregate_of_isMutating {messageType : MessageType}
    (mutating : isMutating messageType = true) :
    isFleetAggregate messageType = false := by
  cases messageType <;> first | rfl | cases mutating

/-! ## Errors -/

/-- An error: its text, and whether it wraps `context.DeadlineExceeded`. -/
structure GoError where
  text : String
  deadlineExceeded : Bool
deriving DecidableEq, Repr

/-- `errors.New`. -/
def GoError.new (text : String) : GoError where
  text := text
  deadlineExceeded := false

/-- `fmt.Errorf` with a text followed by the wrapped error. -/
def GoError.wrap (text : String) (error : GoError) : GoError :=
  { error with text := text ++ ": " ++ error.text }

/-- A text occurs in a sequence of characters. -/
def occursIn (text : List Char) (part : String) : Bool :=
  text.tails.any fun rest => part.toList.isPrefixOf rest

/-- `strings.Contains`. -/
def contains (text part : String) : Bool :=
  occursIn text.toList part

/--
`strings.ToLower`, as far as a search for ASCII letters can see it: two
characters beyond ASCII have an ASCII lower case.
-/
def toLower (text : String) : List Char :=
  text.toList.map fun char =>
    if char = Char.ofNat 0x130 then 'i'
    else if char = Char.ofNat 0x212A then 'k'
    else char.toLower

end DbosRelay.Protocol
