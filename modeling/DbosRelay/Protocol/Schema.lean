import DbosRelay.Library.GoJson
import DbosRelay.Protocol.Messages

/-!
# The structs of the protocol

The fields of every message of `internal/protocol/messages.go` with their names
on the wire, in the order of the source.  Every message embeds the `Envelope`.

Strings, booleans, integers and `StringOrList` have their codecs here or in the
library.  Floats, times and maps are left to `encoding/json`: `StandardTypes`
stands for their values and for the way they are written and read.
-/

namespace DbosRelay.Protocol

open DbosRelay.Library.GoJson

/-! ## Field types -/

/-- The types of the fields which are not pointers, slices or structs. -/
inductive FieldKind where
  | string
  | bool
  | int
  | float64
  | time
  | anyMap
  | stringMap
  | pointerMap
  | stringOrList
deriving DecidableEq, Repr

/--
The values of the standard types which `encoding/json` can write: `float64`,
`time.Time`, `map[string]any`, `map[string]string` and `map[string]*string`.
-/
structure StandardTypes where
  Float64 : Type
  Time : Type
  AnyMap : Type
  StringMap : Type
  PointerMap : Type
  float64 : Codec Float64
  time : Codec Time
  anyMap : Codec AnyMap
  stringMap : Codec StringMap
  pointerMap : Codec PointerMap

/-- `encoding/json` reads back what it writes. -/
structure StandardTypes.RoundTrip (types : StandardTypes) : Prop where
  float64 : types.float64.RoundTrip
  time : types.time.RoundTrip
  anyMap : types.anyMap.RoundTrip
  stringMap : types.stringMap.RoundTrip
  pointerMap : types.pointerMap.RoundTrip

/-- The string of an element of a list; `null` leaves it empty. -/
def elementString : Json → Option String
  | .string value => some value
  | .null => some ""
  | _ => none

/-- The strings of the elements. -/
def elementStrings : List Json → Option (List String)
  | [] => some []
  | json :: elements =>
      (elementString json).bind fun value =>
        (elementStrings elements).map (value :: ·)

/-- `StringOrList.UnmarshalJSON`. -/
def unmarshalStringOrList : Json → Option (Option (List String))
  | .null => some none
  | .string single => some (some [single])
  | .array elements => (elementStrings elements).map some
  | _ => none

/-- `StringOrList`: written as a list, read from a string as well. -/
def stringOrListCodec : Codec (Option (List String)) where
  zero := none
  isEmpty value := (value.getD []).isEmpty
  encode
    | none => some .null
    | some values => some (.array (values.map .string))
  decode _ json := unmarshalStringOrList json

theorem elementStrings_map (values : List String) :
    elementStrings (values.map .string) = some values := by
  induction values with
  | nil => rfl
  | cons value values induction =>
      rw [List.map_cons, elementStrings, induction]
      rfl

theorem stringOrListCodec_roundTrip : stringOrListCodec.RoundTrip := by
  intro value
  cases value with
  | none => exact ⟨_, rfl, rfl⟩
  | some values =>
      refine ⟨_, rfl, ?_⟩
      show (elementStrings (values.map .string)).map some = _
      rw [elementStrings_map, Option.map_some]

/-- The values of the field types. -/
@[reducible]
def StandardTypes.Value (types : StandardTypes) : FieldKind → Type
  | .string => String
  | .bool => Bool
  | .int => Int64
  | .float64 => types.Float64
  | .time => types.Time
  | .anyMap => types.AnyMap
  | .stringMap => types.StringMap
  | .pointerMap => types.PointerMap
  | .stringOrList => Option (List String)

/-- The field types with their codecs. -/
@[reducible]
def StandardTypes.leaves (types : StandardTypes) : Leaves FieldKind where
  Value := types.Value
  codec
    | .string => stringCodec
    | .bool => boolCodec
    | .int => int64Codec
    | .float64 => types.float64
    | .time => types.time
    | .anyMap => types.anyMap
    | .stringMap => types.stringMap
    | .pointerMap => types.pointerMap
    | .stringOrList => stringOrListCodec

theorem StandardTypes.RoundTrip.leaves {types : StandardTypes}
    (roundTrip : types.RoundTrip) : types.leaves.RoundTrip
  | .string => stringCodec_roundTrip
  | .bool => boolCodec_roundTrip
  | .int => int64Codec_roundTrip
  | .float64 => roundTrip.float64
  | .time => roundTrip.time
  | .anyMap => roundTrip.anyMap
  | .stringMap => roundTrip.stringMap
  | .pointerMap => roundTrip.pointerMap
  | .stringOrList => stringOrListCodec_roundTrip

/-! ## Fields -/

/-- A field: its name on the wire, whether it is `omitempty`, and its type. -/
structure Field where
  name : String
  omitempty : Bool
  type : GoType FieldKind

/-- The fields of a struct. -/
def fieldsOf : List Field → Fields FieldKind
  | [] => .nil
  | field :: rest =>
      .cons field.name field.omitempty field.type (fieldsOf rest)

namespace Schema

/-- A field without options. -/
def field (name : String) (type : GoType FieldKind) : Field :=
  ⟨name, false, type⟩

/-- An `omitempty` field. -/
def omitempty (name : String) (type : GoType FieldKind) : Field :=
  ⟨name, true, type⟩

/-- A struct inside a message. -/
def struct (fields : List Field) : GoType FieldKind :=
  .struct (fieldsOf fields)

def string : GoType FieldKind := .leaf .string
def bool : GoType FieldKind := .leaf .bool
def int : GoType FieldKind := .leaf .int
def float64 : GoType FieldKind := .leaf .float64
def time : GoType FieldKind := .leaf .time
def anyMap : GoType FieldKind := .leaf .anyMap
def stringMap : GoType FieldKind := .leaf .stringMap
def pointerMap : GoType FieldKind := .leaf .pointerMap
def stringOrList : GoType FieldKind := .leaf .stringOrList

/-! ## Messages -/

/-- `ExecutorInfoRequest`, after its envelope. -/
def executorInfoRequest : List Field := []

/-- `ExecutorInfoResponse`, after its envelope. -/
def executorInfoResponse : List Field :=
  [field "executor_id" string, field "application_version" string,
    omitempty "hostname" (.pointer string), field "dbos_version" string,
    field "language" string, omitempty "executor_metadata" anyMap]

/-- `ListWorkflowsRequestBody`. -/
def listWorkflowsRequestBody : List Field :=
  [omitempty "workflow_uuids" (.slice string),
    omitempty "workflow_name" stringOrList,
    omitempty "authenticated_user" stringOrList,
    omitempty "start_time" (.pointer time),
    omitempty "end_time" (.pointer time),
    omitempty "completed_after" (.pointer time),
    omitempty "completed_before" (.pointer time),
    omitempty "dequeued_after" (.pointer time),
    omitempty "dequeued_before" (.pointer time),
    omitempty "status" stringOrList,
    omitempty "application_version" stringOrList,
    omitempty "forked_from" stringOrList,
    omitempty "parent_workflow_id" stringOrList,
    omitempty "was_forked_from" (.pointer bool),
    omitempty "is_fork" (.pointer bool),
    omitempty "has_parent" (.pointer bool),
    omitempty "queue_name" stringOrList, omitempty "limit" (.pointer int),
    omitempty "offset" (.pointer int), field "sort_desc" bool,
    omitempty "workflow_id_prefix" stringOrList, field "load_input" bool,
    field "load_output" bool, omitempty "executor_id" stringOrList,
    field "queues_only" bool, omitempty "attributes" anyMap,
    omitempty "schedule_name" stringOrList,
    omitempty "application_name" stringOrList]

/-- `ListWorkflowsRequest`, after its envelope. -/
def listWorkflowsRequest : List Field :=
  [field "body" (struct listWorkflowsRequestBody)]

/-- `ListWorkflowsResponseBody`. -/
def listWorkflowsResponseBody : List Field :=
  [field "WorkflowUUID" string, omitempty "Status" (.pointer string),
    omitempty "WorkflowName" (.pointer string),
    omitempty "WorkflowClassName" (.pointer string),
    omitempty "WorkflowConfigName" (.pointer string),
    omitempty "AuthenticatedUser" (.pointer string),
    omitempty "AssumedRole" (.pointer string),
    omitempty "AuthenticatedRoles" (.pointer string),
    omitempty "Input" (.pointer string), omitempty "Output" (.pointer string),
    omitempty "Error" (.pointer string),
    omitempty "CreatedAt" (.pointer string),
    omitempty "UpdatedAt" (.pointer string),
    omitempty "QueueName" (.pointer string),
    omitempty "ApplicationVersion" (.pointer string),
    omitempty "ExecutorID" (.pointer string),
    omitempty "WorkflowTimeoutMS" (.pointer string),
    omitempty "WorkflowDeadlineEpochMS" (.pointer string),
    omitempty "DeduplicationID" (.pointer string),
    omitempty "Priority" (.pointer string),
    omitempty "QueuePartitionKey" (.pointer string),
    omitempty "ForkedFrom" (.pointer string),
    omitempty "WasForkedFrom" (.pointer bool),
    omitempty "ParentWorkflowID" (.pointer string),
    omitempty "DequeuedAt" (.pointer string),
    omitempty "DelayUntilEpochMS" (.pointer string),
    omitempty "CompletedAt" (.pointer string),
    omitempty "Attributes" (.pointer string),
    omitempty "ScheduleName" (.pointer string),
    omitempty "ApplicationName" (.pointer string)]

/-- `ListWorkflowsResponse`, after its envelope. -/
def listWorkflowsResponse : List Field :=
  [field "output" (.slice (struct listWorkflowsResponseBody))]

/-- `ListStepsRequest`, after its envelope. -/
def listStepsRequest : List Field :=
  [field "workflow_id" string, field "load_output" bool,
    omitempty "limit" (.pointer int), omitempty "offset" (.pointer int)]

/-- `WorkflowStepsResponseBody`. -/
def workflowStepsResponseBody : List Field :=
  [field "function_id" int, field "function_name" string,
    omitempty "output" (.pointer string), omitempty "error" (.pointer string),
    omitempty "child_workflow_id" (.pointer string),
    omitempty "started_at_epoch_ms" (.pointer string),
    omitempty "completed_at_epoch_ms" (.pointer string)]

/-- `ListStepsResponse`, after its envelope. -/
def listStepsResponse : List Field :=
  [omitempty "output" (.pointer (.slice (struct workflowStepsResponseBody)))]

/-- `GetWorkflowRequest`, after its envelope. -/
def getWorkflowRequest : List Field :=
  [field "workflow_id" string, field "load_input" bool,
    field "load_output" bool]

/-- `GetWorkflowResponse`, after its envelope. -/
def getWorkflowResponse : List Field :=
  [omitempty "output" (.pointer (struct listWorkflowsResponseBody))]

/-- `ForkWorkflowRequestBody`. -/
def forkWorkflowRequestBody : List Field :=
  [field "workflow_id" string, field "start_step" int,
    field "application_version" (.pointer string),
    field "new_workflow_id" (.pointer string),
    omitempty "queue_name" (.pointer string),
    omitempty "queue_partition_key" (.pointer string)]

/-- `ForkWorkflowRequest`, after its envelope. -/
def forkWorkflowRequest : List Field :=
  [field "body" (struct forkWorkflowRequestBody)]

/-- `ForkWorkflowResponse`, after its envelope. -/
def forkWorkflowResponse : List Field :=
  [omitempty "new_workflow_id" (.pointer string)]

/-- `RewindWorkflowRequestBody`. -/
def rewindWorkflowRequestBody : List Field :=
  [field "workflow_id" string, omitempty "start_step" (.pointer int),
    omitempty "application_version" (.pointer string),
    omitempty "queue_name" (.pointer string),
    omitempty "queue_partition_key" (.pointer string)]

/-- `RewindWorkflowRequest`, after its envelope. -/
def rewindWorkflowRequest : List Field :=
  [field "body" (struct rewindWorkflowRequestBody)]

/-- `RewindWorkflowResponse`, after its envelope. -/
def rewindWorkflowResponse : List Field :=
  [field "success" bool]

/-- `ForkFromFailureRequestBody`. -/
def forkFromFailureRequestBody : List Field :=
  [field "workflow_ids" (.slice string),
    omitempty "application_version" (.pointer string),
    omitempty "queue_name" (.pointer string),
    omitempty "queue_partition_key" (.pointer string),
    omitempty "from_last_failure" bool, omitempty "from_last_step" bool,
    omitempty "from_step" (.pointer int),
    omitempty "from_step_name" (.pointer string)]

/-- `ForkFromFailureRequest`, after its envelope. -/
def forkFromFailureRequest : List Field :=
  [field "body" (struct forkFromFailureRequestBody)]

/-- `ForkFromFailureResponse`, after its envelope. -/
def forkFromFailureResponse : List Field :=
  [omitempty "forked_workflow_ids" (.slice string)]

/-- `CancelWorkflowRequest`, after its envelope. -/
def cancelWorkflowRequest : List Field :=
  [field "cancel_children" bool, field "workflow_id" string,
    field "workflow_ids" (.slice string)]

/-- `CancelWorkflowResponse`, after its envelope. -/
def cancelWorkflowResponse : List Field :=
  [field "success" bool]

/-- `RecoveryRequest`, after its envelope. -/
def recoveryRequest : List Field :=
  [field "executor_ids" (.slice string)]

/-- `RecoveryResponse`, after its envelope. -/
def recoveryResponse : List Field :=
  [field "success" bool]

/-- `ExistPendingWorkflowsRequest`, after its envelope. -/
def existPendingWorkflowsRequest : List Field :=
  [field "executor_id" string, field "application_version" string]

/-- `ExistPendingWorkflowsResponse`, after its envelope. -/
def existPendingWorkflowsResponse : List Field :=
  [field "exist" bool]

/-- `ResumeWorkflowRequest`, after its envelope. -/
def resumeWorkflowRequest : List Field :=
  [field "workflow_id" string, field "workflow_ids" (.slice string),
    omitempty "queue_name" (.pointer string)]

/-- `ResumeWorkflowResponse`, after its envelope. -/
def resumeWorkflowResponse : List Field :=
  [field "success" bool]

/-- `RetentionRequestBody`. -/
def retentionRequestBody : List Field :=
  [omitempty "gc_cutoff_epoch_ms" (.pointer int),
    omitempty "gc_rows_threshold" (.pointer int),
    omitempty "gc_batch_size" (.pointer int),
    omitempty "timeout_cutoff_epoch_ms" (.pointer int)]

/-- `RetentionRequest`, after its envelope. -/
def retentionRequest : List Field :=
  [field "body" (struct retentionRequestBody)]

/-- `RetentionResponse`, after its envelope. -/
def retentionResponse : List Field :=
  [field "success" bool]

/-- `GetMetricsRequest`, after its envelope. -/
def getMetricsRequest : List Field :=
  [field "start_time" string, field "end_time" string,
    field "metric_class" string, omitempty "application_name" (.slice string)]

/-- `MetricData`. -/
def metricData : List Field :=
  [field "metric_name" string, field "metric_type" string,
    field "value" float64]

/-- `GetMetricsResponse`, after its envelope. -/
def getMetricsResponse : List Field :=
  [field "metrics" (.slice (struct metricData))]

/-- `ExportWorkflowRequest`, after its envelope. -/
def exportWorkflowRequest : List Field :=
  [field "workflow_id" string, field "export_children" bool]

/-- `ExportWorkflowResponse`, after its envelope. -/
def exportWorkflowResponse : List Field :=
  [omitempty "serialized_workflow" (.pointer string)]

/-- `ImportWorkflowRequest`, after its envelope. -/
def importWorkflowRequest : List Field :=
  [field "serialized_workflow" string]

/-- `ImportWorkflowResponse`, after its envelope. -/
def importWorkflowResponse : List Field :=
  [field "success" bool]

/-- `DeleteWorkflowRequest`, after its envelope. -/
def deleteWorkflowRequest : List Field :=
  [field "workflow_id" string, field "workflow_ids" (.slice string),
    field "delete_children" bool]

/-- `DeleteWorkflowResponse`, after its envelope. -/
def deleteWorkflowResponse : List Field :=
  [field "success" bool]

/-- `AlertRequest`, after its envelope. -/
def alertRequest : List Field :=
  [field "name" string, field "message" string, field "metadata" stringMap]

/-- `AlertResponse`, after its envelope. -/
def alertResponse : List Field :=
  [field "success" bool]

/-- `ScheduleOutput`. -/
def scheduleOutput : List Field :=
  [field "schedule_id" string, field "schedule_name" string,
    field "workflow_name" string,
    field "workflow_class_name" (.pointer string), field "schedule" string,
    field "status" string, field "context" (.pointer string),
    field "last_fired_at" (.pointer string), field "automatic_backfill" bool,
    field "cron_timezone" (.pointer string),
    field "queue_name" (.pointer string),
    field "application_name" (.pointer string)]

/-- `ListSchedulesRequestBody`. -/
def listSchedulesRequestBody : List Field :=
  [omitempty "status" stringOrList, omitempty "workflow_name" stringOrList,
    omitempty "schedule_name_prefix" stringOrList,
    omitempty "application_name" stringOrList,
    omitempty "load_context" (.pointer bool)]

/-- `ListSchedulesRequest`, after its envelope. -/
def listSchedulesRequest : List Field :=
  [field "body" (struct listSchedulesRequestBody)]

/-- `ListSchedulesResponse`, after its envelope. -/
def listSchedulesResponse : List Field :=
  [field "output" (.slice (struct scheduleOutput))]

/-- `GetScheduleRequest`, after its envelope. -/
def getScheduleRequest : List Field :=
  [field "schedule_name" string, omitempty "load_context" (.pointer bool)]

/-- `GetScheduleResponse`, after its envelope. -/
def getScheduleResponse : List Field :=
  [field "output" (.pointer (struct scheduleOutput))]

/-- `PauseScheduleRequest`, after its envelope. -/
def pauseScheduleRequest : List Field :=
  [field "schedule_name" string]

/-- `PauseScheduleResponse`, after its envelope. -/
def pauseScheduleResponse : List Field :=
  [field "success" bool]

/-- `ResumeScheduleRequest`, after its envelope. -/
def resumeScheduleRequest : List Field :=
  [field "schedule_name" string]

/-- `ResumeScheduleResponse`, after its envelope. -/
def resumeScheduleResponse : List Field :=
  [field "success" bool]

/-- `BackfillScheduleRequest`, after its envelope. -/
def backfillScheduleRequest : List Field :=
  [field "schedule_name" string, field "start" string, field "end" string]

/-- `BackfillScheduleResponse`, after its envelope. -/
def backfillScheduleResponse : List Field :=
  [field "workflow_ids" (.slice string)]

/-- `TriggerScheduleRequest`, after its envelope. -/
def triggerScheduleRequest : List Field :=
  [field "schedule_name" string]

/-- `TriggerScheduleResponse`, after its envelope. -/
def triggerScheduleResponse : List Field :=
  [field "workflow_id" (.pointer string)]

/-- `QueueOutput`. -/
def queueOutput : List Field :=
  [field "name" string, field "concurrency" (.pointer int),
    field "worker_concurrency" (.pointer int),
    field "rate_limit_max" (.pointer int),
    field "rate_limit_period_sec" (.pointer float64),
    field "priority_enabled" bool, field "partition_queue" bool,
    field "polling_interval_sec" float64,
    field "application_name" (.pointer string),
    field "partition_concurrency" (.pointer int),
    field "partition_worker_concurrency" (.pointer int),
    field "partition_rate_limit_max" (.pointer int),
    field "partition_rate_limit_period_sec" (.pointer float64)]

/-- `ListQueuesRequestBody`. -/
def listQueuesRequestBody : List Field :=
  [omitempty "application_name" stringOrList]

/-- `ListQueuesRequest`, after its envelope. -/
def listQueuesRequest : List Field :=
  [omitempty "body" (struct listQueuesRequestBody)]

/-- `ListQueuesResponse`, after its envelope. -/
def listQueuesResponse : List Field :=
  [field "output" (.slice (struct queueOutput))]

/-- `GetQueueRequest`, after its envelope. -/
def getQueueRequest : List Field :=
  [field "name" string]

/-- `GetQueueResponse`, after its envelope. -/
def getQueueResponse : List Field :=
  [field "output" (.pointer (struct queueOutput))]

/-- `EventOutput`. -/
def eventOutput : List Field :=
  [field "key" string, field "value" string]

/-- `NotificationOutput`. -/
def notificationOutput : List Field :=
  [field "topic" (.pointer string), field "message" string,
    field "created_at_epoch_ms" int, field "consumed" bool]

/-- `StreamEntryOutput`. -/
def streamEntryOutput : List Field :=
  [field "key" string, field "values" (.slice string)]

/-- `GetWorkflowEventsRequest`, after its envelope. -/
def getWorkflowEventsRequest : List Field :=
  [field "workflow_id" string]

/-- `GetWorkflowEventsResponse`, after its envelope. -/
def getWorkflowEventsResponse : List Field :=
  [field "events" (.slice (struct eventOutput))]

/-- `GetWorkflowNotificationsRequest`, after its envelope. -/
def getWorkflowNotificationsRequest : List Field :=
  [field "workflow_id" string]

/-- `GetWorkflowNotificationsResponse`, after its envelope. -/
def getWorkflowNotificationsResponse : List Field :=
  [field "notifications" (.slice (struct notificationOutput))]

/-- `GetWorkflowStreamsRequest`, after its envelope. -/
def getWorkflowStreamsRequest : List Field :=
  [field "workflow_id" string]

/-- `GetWorkflowStreamsResponse`, after its envelope. -/
def getWorkflowStreamsResponse : List Field :=
  [field "streams" (.slice (struct streamEntryOutput))]

/-- `GetWorkflowAggregatesRequestBody`. -/
def getWorkflowAggregatesRequestBody : List Field :=
  [field "group_by_status" bool, field "group_by_name" bool,
    field "group_by_queue_name" bool, field "group_by_executor_id" bool,
    field "group_by_application_version" bool,
    field "group_by_application_name" bool, field "select_count" bool,
    field "select_min_created_at" bool, field "select_max_queue_wait_ms" bool,
    field "select_max_total_latency_ms" bool,
    omitempty "time_bucket_size_ms" (.pointer int),
    omitempty "status" stringOrList, omitempty "start_time" (.pointer time),
    omitempty "end_time" (.pointer time),
    omitempty "completed_after" (.pointer time),
    omitempty "completed_before" (.pointer time),
    omitempty "dequeued_after" (.pointer time),
    omitempty "dequeued_before" (.pointer time), omitempty "name" stringOrList,
    omitempty "app_version" stringOrList, omitempty "executor_id" stringOrList,
    omitempty "queue_name" stringOrList,
    omitempty "workflow_id_prefix" stringOrList,
    omitempty "workflow_ids" stringOrList,
    omitempty "forked_from" stringOrList,
    omitempty "parent_workflow_id" stringOrList, omitempty "user" stringOrList,
    omitempty "application_name" stringOrList,
    omitempty "was_forked_from" (.pointer bool),
    omitempty "is_fork" (.pointer bool),
    omitempty "has_parent" (.pointer bool), omitempty "attributes" anyMap]

/-- `GetWorkflowAggregatesRequest`, after its envelope. -/
def getWorkflowAggregatesRequest : List Field :=
  [field "body" (struct getWorkflowAggregatesRequestBody)]

/-- `WorkflowAggregateRow`. -/
def workflowAggregateRow : List Field :=
  [field "group" pointerMap, field "count" (.pointer int),
    field "min_created_at" (.pointer int),
    field "max_queue_wait_ms" (.pointer int),
    field "max_total_latency_ms" (.pointer int)]

/-- `GetWorkflowAggregatesResponse`, after its envelope. -/
def getWorkflowAggregatesResponse : List Field :=
  [field "output" (.slice (struct workflowAggregateRow))]

/-- `StepAggregateRow`. -/
def stepAggregateRow : List Field :=
  [field "group" pointerMap, field "count" (.pointer int),
    field "max_duration_ms" (.pointer int)]

/-- `GetStepAggregatesRequestBody`. -/
def getStepAggregatesRequestBody : List Field :=
  [field "group_by_function_name" bool, field "group_by_status" bool,
    field "select_count" bool, field "select_max_duration_ms" bool,
    omitempty "time_bucket_size_ms" (.pointer int),
    omitempty "status" stringOrList, omitempty "function_name" stringOrList,
    omitempty "workflow_id_prefix" stringOrList,
    omitempty "completed_after" (.pointer time),
    omitempty "completed_before" (.pointer time),
    omitempty "application_name" stringOrList]

/-- `GetStepAggregatesRequest`, after its envelope. -/
def getStepAggregatesRequest : List Field :=
  [field "body" (struct getStepAggregatesRequestBody)]

/-- `GetStepAggregatesResponse`, after its envelope. -/
def getStepAggregatesResponse : List Field :=
  [field "output" (.slice (struct stepAggregateRow))]

/-- `ApplicationVersionOutput`. -/
def applicationVersionOutput : List Field :=
  [field "version_id" string, field "version_name" string,
    field "version_timestamp" int, field "created_at" int]

/-- `ListApplicationVersionsRequest`, after its envelope. -/
def listApplicationVersionsRequest : List Field := []

/-- `ListApplicationVersionsResponse`, after its envelope. -/
def listApplicationVersionsResponse : List Field :=
  [field "output" (.slice (struct applicationVersionOutput))]

/-- `SetLatestApplicationVersionRequest`, after its envelope. -/
def setLatestApplicationVersionRequest : List Field :=
  [field "version_name" string]

/-- `SetLatestApplicationVersionResponse`, after its envelope. -/
def setLatestApplicationVersionResponse : List Field :=
  [field "success" bool]

end Schema

end DbosRelay.Protocol
