import DbosRelay.DataPlane.Manager

/-!
# The data-plane client

`SDKClient.Dispatch` of `internal/dataplane/client.go` is a switch over the Go
type of a request.  Each case calls the SDK's client for the system database;
what such a call returns is given from outside, as the list of answers the
database has left to give.  The calls are recorded.  The filters of a listing
and the bodies of responses are left out: no decision depends on them.
-/

namespace DbosRelay.DataPlane

open DbosRelay.Basic
open DbosRelay.Hub
open DbosRelay.Protocol
open DbosRelay.Router

/-! ## Requests -/

/-- `RetentionRequestBody`. -/
structure RetentionRequestBody where
  gcCutoffEpochMs : Option Int
  gcRowsThreshold : Option Int
  gcBatchSize : Option Int
  timeoutCutoffEpochMs : Option Int
deriving DecidableEq, Repr

/--
The decoded requests, one constructor per Go type, with the fields `Dispatch`
decides on.
-/
inductive RequestBody where
  | executorInfo
  | recovery (executorIDs : List String)
  | cancel (workflowID : String) (workflowIDs : List String)
      (cancelChildren : Bool)
  | resume (workflowID : String) (workflowIDs : List String)
      (queueName : Option String)
  | listWorkflows (queued : Bool)
  | listSteps (workflowID : String)
  | getWorkflow (workflowID : String)
  | forkWorkflow (workflowID : String) (startStep : Int)
      (newWorkflowID : Option String)
  | rewindWorkflow (workflowID : String) (startStep : Option Int)
  | forkFromFailure
  | existPendingWorkflows (executorID : String)
  | retention (body : RetentionRequestBody)
  | getMetrics (metricClass startTime endTime : String)
  | exportWorkflow
  | importWorkflow
  | delete (workflowID : String) (workflowIDs : List String)
      (deleteChildren : Bool)
  | alert
  | listSchedules
  | getSchedule (scheduleName : String)
  | pauseSchedule (scheduleName : String)
  | resumeSchedule (scheduleName : String)
  | backfillSchedule (scheduleName start finish : String)
  | triggerSchedule (scheduleName : String)
  | getWorkflowEvents
  | getWorkflowNotifications
  | getWorkflowStreams
  | getWorkflowAggregates
  | getStepAggregates
  | listApplicationVersions
  | setLatestApplicationVersion (versionName : String)
  | listQueues
  | getQueue (name : String)
deriving DecidableEq, Repr

/-- The type a decoded request carries in its envelope. -/
def RequestBody.messageType : RequestBody → MessageType
  | .executorInfo => .executorInfo
  | .recovery _ => .recovery
  | .cancel _ _ _ => .cancel
  | .resume _ _ _ => .resume
  | .listWorkflows queued =>
      if queued then .listQueuedWorkflows else .listWorkflows
  | .listSteps _ => .listSteps
  | .getWorkflow _ => .getWorkflow
  | .forkWorkflow _ _ _ => .forkWorkflow
  | .rewindWorkflow _ _ => .rewindWorkflow
  | .forkFromFailure => .forkFromFailure
  | .existPendingWorkflows _ => .existPendingWorkflows
  | .retention _ => .retention
  | .getMetrics _ _ _ => .getMetrics
  | .exportWorkflow => .exportWorkflow
  | .importWorkflow => .importWorkflow
  | .delete _ _ _ => .delete
  | .alert => .alert
  | .listSchedules => .listSchedules
  | .getSchedule _ => .getSchedule
  | .pauseSchedule _ => .pauseSchedule
  | .resumeSchedule _ => .resumeSchedule
  | .backfillSchedule _ _ _ => .backfillSchedule
  | .triggerSchedule _ => .triggerSchedule
  | .getWorkflowEvents => .getWorkflowEvents
  | .getWorkflowNotifications => .getWorkflowNotifications
  | .getWorkflowStreams => .getWorkflowStreams
  | .getWorkflowAggregates => .getWorkflowAggregates
  | .getStepAggregates => .getStepAggregates
  | .listApplicationVersions => .listApplicationVersions
  | .setLatestApplicationVersion _ => .setLatestApplicationVersion
  | .listQueues => .listQueues
  | .getQueue _ => .getQueue

/-- A decoded request. -/
structure Request where
  requestID : String
  body : RequestBody
deriving DecidableEq, Repr

/-- The request as the router sees it. -/
def Request.message (req : Request) : Message where
  messageType := req.body.messageType
  requestID := req.requestID
  content := []

/-! ## Calls of the database -/

/-- The operations of the SDK's client. -/
inductive DatabaseCall where
  | listWorkflows
  | getWorkflowSteps (workflowID : String)
  | cancelWorkflows (workflowIDs : List String) (cancelChildren : Bool)
  | cancelWorkflow (workflowID : String) (cancelChildren : Bool)
  | resumeWorkflows (workflowIDs : List String) (queueName : Option String)
  | resumeWorkflow (workflowID : String) (queueName : Option String)
  | forkWorkflow (workflowID : String) (startStep : Nat)
      (newWorkflowID : Option String)
  | rewindWorkflow (workflowID : String) (startStep : Option Nat)
  | deleteWorkflows (workflowIDs : List String) (deleteChildren : Bool)
  | listSchedules
  | getSchedule (scheduleName : String)
  | pauseSchedule (scheduleName : String)
  | resumeSchedule (scheduleName : String)
  | backfillSchedule (scheduleName : String) (start finish : Time)
  | triggerSchedule (scheduleName : String)
  | listQueues
  | retrieveQueue (name : String)
  | listApplicationVersions
  | setLatestApplicationVersion (versionName : String)
  | getWorkflowAggregates
  | getStepAggregates
deriving DecidableEq, Repr

/-- The operation changes the system database. -/
def DatabaseCall.writes : DatabaseCall → Bool
  | .cancelWorkflows _ _ => true
  | .cancelWorkflow _ _ => true
  | .resumeWorkflows _ _ => true
  | .resumeWorkflow _ _ => true
  | .forkWorkflow _ _ _ => true
  | .rewindWorkflow _ _ => true
  | .deleteWorkflows _ _ => true
  | .pauseSchedule _ => true
  | .resumeSchedule _ => true
  | .backfillSchedule _ _ _ => true
  | .triggerSchedule _ => true
  | .setLatestApplicationVersion _ => true
  | _ => false

/-- A workflow in a listing. -/
structure WorkflowRow where
  id : String
  createdAt : Time
deriving DecidableEq, Repr

/-- What the database answers; only a listing of workflows is looked into. -/
inductive Answer where
  | workflows (rows : List WorkflowRow)
  | done
deriving DecidableEq, Repr

/-- The listed workflows. -/
def Answer.rows : Answer → List WorkflowRow
  | .workflows rows => rows
  | .done => []

/--
The answers still to come, and the calls made, the latest first.  When the
answers have run out, so has the statement timeout.
-/
structure Session where
  answers : List (Except GoError Answer)
  calls : List DatabaseCall

/-- One call. -/
def Session.call (session : Session) (databaseCall : DatabaseCall) :
    Except GoError Answer × Session :=
  match session.answers with
  | [] =>
      (.error (contextError true),
        { session with calls := databaseCall :: session.calls })
  | answer :: answers => (answer, ⟨answers, databaseCall :: session.calls⟩)

/-- What a case of the switch ends with. -/
abbrev Outcome := Except GoError Unit × Session

/-- A call whose failure is wrapped in a text, and what follows it. -/
def Session.try (session : Session) (databaseCall : DatabaseCall)
    (failure : String) (next : Answer → Session → Outcome) : Outcome :=
  match session.call databaseCall with
  | (.error error, session) => (.error (error.wrap failure), session)
  | (.ok answer, session) => next answer session

/-- The case is over. -/
def succeed (_ : Answer) (session : Session) : Outcome :=
  (.ok (), session)

/-- The case refuses before its next call. -/
def Session.fail (session : Session) (text : String) : Outcome :=
  (.error (.new text), session)

/-! ## Retention -/

/-- `defaultRetentionBatchSize`. -/
def defaultRetentionBatchSize : Int := 1000

/-- `time.UnixMilli`. -/
def unixMilli (milliseconds : Int) : Time := milliseconds * 1000000

/--
The loops of `deleteTerminalWorkflowsBefore` and `cancelActiveWorkflowsBefore`:
list a batch, write it, until a batch is short.  Every round uses up an answer
of the database, so `fuel` may be their number.
-/
def batchLoop (batchSize : Int) (write : List String → DatabaseCall)
    (listFailure writeFailure : String) : Nat → Session → Outcome
  | 0, session => session.try .listWorkflows listFailure succeed
  | fuel + 1, session =>
      session.try .listWorkflows listFailure fun answer session =>
        if answer.rows = [] then (.ok (), session)
        else
          session.try (write (answer.rows.map WorkflowRow.id)) writeFailure
            fun _ session =>
              if (answer.rows.length : Int) < batchSize then (.ok (), session)
              else
                batchLoop batchSize write listFailure writeFailure fuel session

/-- `deleteTerminalWorkflowsBefore`. -/
def deleteTerminalWorkflowsBefore (batchSize : Int) (session : Session) :
    Outcome :=
  batchLoop batchSize (fun ids => .deleteWorkflows ids false)
    "failed to list workflows for retention"
    "failed to delete retained workflows" session.answers.length session

/-- One status of `cancelActiveWorkflowsBefore`. -/
def cancelActive (batchSize : Int) (session : Session) : Outcome :=
  batchLoop batchSize (fun ids => .cancelWorkflows ids false)
    "failed to list workflows for the global timeout"
    "failed to cancel timed-out workflows" session.answers.length session

/-- `cancelActiveWorkflowsBefore`: the pending ones, then the enqueued ones. -/
def cancelActiveWorkflowsBefore (batchSize : Int) (session : Session) :
    Outcome :=
  match cancelActive batchSize session with
  | (.error error, session) => (.error error, session)
  | (.ok (), session) => cancelActive batchSize session

/-- `retentionCutoff`. -/
def retentionCutoff (body : RetentionRequestBody) (session : Session) :
    Except GoError (Option Time) × Session :=
  let cutoff := body.gcCutoffEpochMs.map unixMilli
  match body.gcRowsThreshold with
  | none => (.ok cutoff, session)
  | some threshold =>
      if threshold ≤ 0 then
        (.error (.new "gc_rows_threshold must be positive"), session)
      else
        match session.call .listWorkflows with
        | (.error error, session) =>
            (.error (error.wrap
              "failed to resolve the retention row threshold"), session)
        | (.ok answer, session) =>
            match answer.rows, cutoff with
            | [row], some limit =>
                (.ok (some (if limit < row.createdAt then row.createdAt
                  else limit)), session)
            | [row], none => (.ok (some row.createdAt), session)
            | _, _ => (.ok cutoff, session)

/-- The batch size of a retention request. -/
def retentionBatchSize (body : RetentionRequestBody) : Except GoError Int :=
  match body.gcBatchSize with
  | none => .ok defaultRetentionBatchSize
  | some size =>
      if size < 0 then .error (.new "gc_batch_size must not be negative")
      else if 0 < size then .ok size
      else .ok defaultRetentionBatchSize

/-- `enforceRetention`. -/
def enforceRetention (body : RetentionRequestBody) (session : Session) :
    Outcome :=
  match retentionBatchSize body with
  | .error error => (.error error, session)
  | .ok batchSize =>
      match retentionCutoff body session with
      | (.error error, session) => (.error error, session)
      | (.ok cutoff, session) =>
          let collected : Outcome :=
            if cutoff.isSome then
              deleteTerminalWorkflowsBefore batchSize session
            else (.ok (), session)
          match collected with
          | (.error error, session) => (.error error, session)
          | (.ok (), session) =>
              if body.timeoutCutoffEpochMs.isSome then
                cancelActiveWorkflowsBefore batchSize session
              else (.ok (), session)

/-! ## The switch -/

/-- `time.Parse(time.RFC3339, …)`: the instant, or the text of the error. -/
abbrev ParseTime := String → Except String Time

/-- `%q`, as far as a search for plain words in the error can see it. -/
def quoted (text : String) : String := "\"" ++ text ++ "\""

/-- A time field is parsed before the next call. -/
def Session.withTime (session : Session) (parse : ParseTime)
    (failure text : String) (next : Time → Outcome) : Outcome :=
  match parse text with
  | .error cause =>
      session.fail (failure ++ " " ++ quoted text ++ ": " ++ cause)
  | .ok time => next time

/-- `getMetrics`. -/
def SDKClient.getMetrics (parse : ParseTime) (metricClass startTime endTime : String)
    (session : Session) : Outcome :=
  if metricClass ≠ "workflow_step_count" then
    session.fail ("unexpected metric class " ++ quoted metricClass)
  else
    session.withTime parse "invalid metrics start time" startTime fun _ =>
      session.withTime parse "invalid metrics end time" endTime fun _ =>
        session.try .getWorkflowAggregates "failed to aggregate workflows"
          fun _ session =>
            session.try .getStepAggregates "failed to aggregate steps" succeed

/-- The cases of the switch; `none` is its default. -/
def RequestBody.execute (parse : ParseTime) (session : Session) :
    RequestBody → Option Outcome
  | .getWorkflow workflowID =>
      some
        (session.try .listWorkflows
          ("failed to retrieve workflow " ++ workflowID)
          fun answer session =>
            if answer.rows = [] then
              session.fail ("workflow " ++ workflowID ++ " not found")
            else (.ok (), session))
  | .listWorkflows _ =>
      some (session.try .listWorkflows "failed to list workflows" succeed)
  | .listSteps workflowID =>
      some
        (session.try (.getWorkflowSteps workflowID)
          ("failed to get workflow steps for " ++ workflowID) succeed)
  | .cancel workflowID workflowIDs cancelChildren =>
      some
        (if workflowIDs ≠ [] then
          session.try (.cancelWorkflows workflowIDs cancelChildren)
            "failed to cancel workflows" succeed
        else if workflowID ≠ "" then
          session.try (.cancelWorkflow workflowID cancelChildren)
            ("failed to cancel workflow " ++ workflowID) succeed
        else session.fail "missing workflow ID(s) in cancel request")
  | .resume workflowID workflowIDs queueName =>
      some
        (if workflowIDs ≠ [] then
          session.try (.resumeWorkflows workflowIDs queueName)
            "failed to resume workflows" succeed
        else if workflowID ≠ "" then
          session.try (.resumeWorkflow workflowID queueName)
            ("failed to resume workflow " ++ workflowID) succeed
        else session.fail "missing workflow ID(s) in resume request")
  | .forkWorkflow workflowID startStep newWorkflowID =>
      some
        (session.try (.forkWorkflow workflowID startStep.toNat newWorkflowID)
          ("failed to fork workflow " ++ workflowID) succeed)
  | .rewindWorkflow workflowID startStep =>
      some
        (session.try
          (.rewindWorkflow workflowID
            ((startStep.filter (0 < ·)).map Int.toNat))
          ("failed to rewind workflow " ++ workflowID) succeed)
  | .delete workflowID workflowIDs deleteChildren =>
      let ids :=
        if workflowIDs = [] ∧ workflowID ≠ "" then [workflowID]
        else workflowIDs
      some
        (if ids = [] then
          session.fail "missing workflow ID(s) in delete request"
        else
          session.try (.deleteWorkflows ids deleteChildren)
            "failed to delete workflows" succeed)
  | .existPendingWorkflows executorID =>
      some
        (session.try .listWorkflows
          ("failed to check pending workflows for executor " ++ executorID)
          succeed)
  | .listSchedules =>
      some (session.try .listSchedules "failed to list schedules" succeed)
  | .getSchedule scheduleName =>
      some
        (session.try (.getSchedule scheduleName)
          ("failed to get schedule " ++ scheduleName) succeed)
  | .pauseSchedule scheduleName =>
      some
        (session.try (.pauseSchedule scheduleName)
          ("failed to pause schedule " ++ scheduleName) succeed)
  | .resumeSchedule scheduleName =>
      some
        (session.try (.resumeSchedule scheduleName)
          ("failed to resume schedule " ++ scheduleName) succeed)
  | .backfillSchedule scheduleName start finish =>
      some
        (session.withTime parse "invalid backfill start time" start
          fun startTime =>
            session.withTime parse "invalid backfill end time" finish
              fun endTime =>
                session.try (.backfillSchedule scheduleName startTime endTime)
                  ("failed to backfill schedule " ++ scheduleName) succeed)
  | .triggerSchedule scheduleName =>
      some
        (session.try (.triggerSchedule scheduleName)
          ("failed to trigger schedule " ++ scheduleName) succeed)
  | .listQueues =>
      some (session.try .listQueues "failed to list queues" succeed)
  | .getQueue name =>
      some
        (session.try (.retrieveQueue name) ("failed to get queue " ++ name)
          succeed)
  | .listApplicationVersions =>
      some
        (session.try .listApplicationVersions
          "failed to list application versions" succeed)
  | .setLatestApplicationVersion versionName =>
      some
        (session.try (.setLatestApplicationVersion versionName)
          ("failed to set latest application version " ++ versionName) succeed)
  | .getWorkflowAggregates =>
      some
        (session.try .getWorkflowAggregates
          "failed to get workflow aggregates" succeed)
  | .getStepAggregates =>
      some
        (session.try .getStepAggregates "failed to get step aggregates"
          succeed)
  | .getMetrics metricClass startTime endTime =>
      some (SDKClient.getMetrics parse metricClass startTime endTime session)
  | .retention body =>
      some
        (match enforceRetention body session with
        | (.error error, session) =>
            (.error (error.wrap "failed to enforce retention policy"), session)
        | finished => finished)
  | .executorInfo
  | .recovery _
  | .forkFromFailure
  | .exportWorkflow
  | .importWorkflow
  | .alert
  | .getWorkflowEvents
  | .getWorkflowNotifications
  | .getWorkflowStreams => none

/-! ## Calls which write -/

/-- No call made so far has changed the database. -/
def Session.ReadOnly (session : Session) : Prop :=
  ∀ databaseCall ∈ session.calls, databaseCall.writes = false

namespace Session

variable {session : Session} {databaseCall : DatabaseCall}

theorem ReadOnly.call (readOnly : session.ReadOnly)
    (reads : databaseCall.writes = false) :
    (session.call databaseCall).2.ReadOnly := by
  have extended : ∀ other ∈ databaseCall :: session.calls,
      other.writes = false := by
    intro other member
    rcases List.mem_cons.mp member with rfl | before
    · exact reads
    · exact readOnly other before
  unfold Session.call
  split <;> exact extended

/-- A case which reads, and goes on reading. -/
theorem ReadOnly.try (readOnly : session.ReadOnly)
    (reads : databaseCall.writes = false) {failure : String}
    {next : Answer → Session → Outcome}
    (goesOn : ∀ answer later, later.ReadOnly →
      (next answer later).2.ReadOnly) :
    (session.try databaseCall failure next).2.ReadOnly := by
  have called := readOnly.call reads
  unfold Session.try
  split
  · rename_i error later result
    rw [result] at called
    exact called
  · rename_i answer later result
    rw [result] at called
    exact goesOn answer later called

theorem ReadOnly.succeed {answer : Answer} (readOnly : session.ReadOnly) :
    (succeed answer session).2.ReadOnly :=
  readOnly

theorem ReadOnly.withTime (readOnly : session.ReadOnly) {parse : ParseTime}
    {failure text : String} {next : Time → Outcome}
    (goesOn : ∀ time, (next time).2.ReadOnly) :
    (session.withTime parse failure text next).2.ReadOnly := by
  unfold Session.withTime
  split
  · exact readOnly
  · exact goesOn _

end Session

/-- A request which is not listed as mutating reads and nothing else. -/
theorem RequestBody.readOnly_execute {body : RequestBody} {parse : ParseTime}
    {session : Session} {outcome : Outcome}
    (reads : isMutating body.messageType = false)
    (readOnly : session.ReadOnly)
    (executed : body.execute parse session = some outcome) :
    outcome.2.ReadOnly := by
  have single : ∀ {databaseCall : DatabaseCall} {failure : String},
      databaseCall.writes = false →
        (session.try databaseCall failure succeed).2.ReadOnly :=
    fun pure => readOnly.try pure fun _ _ later => later.succeed
  cases body with
  | getWorkflow workflowID =>
      cases executed
      refine readOnly.try rfl fun answer later laterReads => ?_
      split_ifs
      · exact laterReads
      · exact laterReads
  | getMetrics metricClass startTime endTime =>
      cases executed
      unfold SDKClient.getMetrics
      split_ifs
      · exact readOnly
      · refine readOnly.withTime fun _ => readOnly.withTime fun _ => ?_
        refine readOnly.try rfl fun _ _ middle => ?_
        exact middle.try rfl fun _ _ later => later.succeed
  | _ =>
      first
      | (cases reads; done)
      | (cases executed; done)
      | (cases executed; exact single rfl)

end DbosRelay.DataPlane
