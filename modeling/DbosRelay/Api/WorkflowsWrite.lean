import DbosRelay.Api.LatestVersion
import DbosRelay.Protocol.Codec

/-!
# Mutations of workflows

The handlers of `internal/api/workflows_write.go` which cancel, resume, delete
and import workflows, one by one or in bulk, and which rewind one.  Each sends a
message through the router, checks the response, and records its outcome in the
audit log.  All of them read the error message of the response; only
`RewindWorkflow` reads whether it reports success.
-/

namespace DbosRelay.Api

open DbosRelay.Applications
open DbosRelay.Basic
open DbosRelay.Protocol
open DbosRelay.Router
open DbosRelay.Store

variable {types : StandardTypes}

/-! ## What the handlers use -/

/-- The columns of an application the guard reads. -/
structure GuardedApplication where
  id : UUID
  settings : Settings

/-- The queries of the guard. -/
structure GuardStore where
  getOrganisationByName : String → Except StoreError UUID
  getApplicationByName : UUID → String → Except StoreError GuardedApplication
  listExecutorsByApplication : UUID → Except StoreError (List Executor)

/-- A server, during one request; the router is asked at most once. -/
structure WorkflowServer (types : StandardTypes) where
  store : Option GuardStore
  /-- `uuid.NewString()`. -/
  requestID : String
  /-- What `Dispatch` returns. -/
  routed : Except RouterError (WireMessage types)

/-- The arguments of `Dispatch`. -/
structure RouterCall (types : StandardTypes) where
  orgName : String
  appName : String
  msg : WireMessage types

inductive AuditStatus where
  | success
  | failure
deriving DecidableEq, Repr

/-- The arguments of `auditOperation`; of the fields, the `workflow_ids`. -/
structure AuditOperation where
  orgName : String
  appName : String
  operation : String
  status : AuditStatus
  targetType : String
  targetID : String
  workflowIDs : Option (List String)
deriving DecidableEq, Repr

/-- What a handler sends, answers and records. -/
structure MutationAnswer (types : StandardTypes) where
  dispatched : Option (RouterCall types)
  /-- The status of the answer, or the problem. -/
  response : Except ErrorModel Nat
  audit : AuditOperation

/-! ## The guard of a resume -/

/-- `IsLiveStatus`. -/
def isLiveStatus (status : ExecutorStatus) : Bool :=
  status = .connected

/-- `resumeVersionBlocked`, with the version which blocks. -/
def resumeVersionBlocked (store : Option GuardStore)
    (orgName appName : String) : Option String :=
  match store with
  | none => none
  | some store =>
      match store.getOrganisationByName orgName with
      | .error _ => none
      | .ok org =>
          match store.getApplicationByName org appName with
          | .error _ => none
          | .ok app =>
              match recordedVersion app.settings with
              | none => none
              | some latest =>
                  match store.listExecutorsByApplication app.id with
                  | .error _ => none
                  | .ok execs =>
                      if execs.any fun exec => isLiveStatus exec.status &&
                          exec.applicationVersion = latest then
                        none
                      else some latest

/-- The problem of a resume which is blocked. -/
def versionUnavailable (latest : String) : ErrorModel :=
  makeErrorModel 503 "Service Unavailable"
    ("no executor running latest application version " ++ latest ++
      " is connected")

/-! ## The responses -/

/-- The kinds of responses the handlers expect. -/
inductive WorkflowMutation where
  | cancel
  | resume
  | delete
  | importWorkflow
  | rewindWorkflow
deriving DecidableEq, Repr

/-- The two fields of a response which the handlers can read. -/
structure MutationResponse where
  errorMessage : Option String
  success : Bool
deriving DecidableEq, Repr

/-- The assertion that what the router returns is the response expected. -/
def WorkflowMutation.response (mutation : WorkflowMutation)
    (res : WireMessage types) : Option MutationResponse :=
  match mutation, res with
  | .cancel, ⟨true, .cancel, (_, _, errorMessage, success, ())⟩ =>
      some ⟨errorMessage, success⟩
  | .resume, ⟨true, .resume, (_, _, errorMessage, success, ())⟩ =>
      some ⟨errorMessage, success⟩
  | .delete, ⟨true, .delete, (_, _, errorMessage, success, ())⟩ =>
      some ⟨errorMessage, success⟩
  | .importWorkflow, ⟨true, .importWorkflow, (_, _, errorMessage, success, ())⟩ =>
      some ⟨errorMessage, success⟩
  | .rewindWorkflow, ⟨true, .rewindWorkflow, (_, _, errorMessage, success, ())⟩ =>
      some ⟨errorMessage, success⟩
  | _, _ => none

/-- The error message, if it says something. -/
def MutationResponse.error (response : MutationResponse) : Option String :=
  response.errorMessage.filter (· ≠ "")

/-! ## Answers -/

/-- The audit entry of a handler for one workflow. -/
def auditWorkflow (orgName appName workflowID operation : String)
    (status : AuditStatus) : AuditOperation :=
  ⟨orgName, appName, operation, status, "workflow", workflowID, none⟩

/-- The audit entry of a handler for several workflows. -/
def auditBulk (orgName appName : String) (bulkIDs : Option (List String))
    (operation : String) (status : AuditStatus) : AuditOperation :=
  ⟨orgName, appName, operation, status, "", "", some (bulkIDs.getD [])⟩

/-- The audit entry of an import. -/
def auditImport (orgName appName : String) (status : AuditStatus) :
    AuditOperation :=
  ⟨orgName, appName, "workflow.import", status, "", "", none⟩

/-- A request which is refused before anything is sent. -/
def refuseMutation (audit : AuditStatus → AuditOperation)
    (problem : ErrorModel) : MutationAnswer types :=
  ⟨none, .error problem, audit .failure⟩

def missingRequestBody : ErrorModel :=
  makeErrorModel 400 "Bad Request" "Missing request body"

def unexpectedResponseType : ErrorModel :=
  makeErrorModel 500 "Internal Server Error"
    "unexpected response type from router"

/-- The checks all handlers make on the response but `RewindWorkflow`. -/
def answerMutation (server : WorkflowServer types)
    (mutation : WorkflowMutation) (call : RouterCall types)
    (audit : AuditStatus → AuditOperation) (status : Nat) :
    MutationAnswer types :=
  match server.routed with
  | .error err => ⟨some call, .error (routerErrorToModel err), audit .failure⟩
  | .ok res =>
      match mutation.response res with
      | none => ⟨some call, .error unexpectedResponseType, audit .failure⟩
      | some response =>
          match response.error with
          | some message =>
              ⟨some call, .error (makeErrorModel 400 "Bad Request" message),
                audit .failure⟩
          | none => ⟨some call, .ok status, audit .success⟩

theorem answerMutation_dispatched (server : WorkflowServer types)
    (mutation : WorkflowMutation) (call : RouterCall types)
    (audit : AuditStatus → AuditOperation) (status : Nat) :
    (answerMutation server mutation call audit status).dispatched =
      some call := by
  unfold answerMutation
  split
  · rfl
  · split
    · rfl
    · split <;> rfl

/-! ## Requests -/

/-- A request for one workflow. -/
structure WorkflowRequest (Body : Type) where
  orgName : String
  appName : String
  workflowID : String
  body : Option Body

/-- A request for several workflows, or for a new one. -/
structure AppRequest (Body : Type) where
  orgName : String
  appName : String
  body : Option Body

/-- `CancelWorkflowInputBody`. -/
structure CancelWorkflowInputBody where
  cancelChildren : Option Bool

/-- `BulkCancelInputBody`. -/
structure BulkCancelInputBody where
  cancelChildren : Option Bool
  workflowIDs : Option (List String)

/-- `ResumeWorkflowInputBody`. -/
structure ResumeWorkflowInputBody where
  queueName : Option String

/-- `BulkResumeInputBody`. -/
structure BulkResumeInputBody where
  queueName : Option String
  workflowIDs : Option (List String)

/-- `DeleteWorkflowRequestObject`, whose option is a parameter. -/
structure DeleteWorkflowRequest where
  orgName : String
  appName : String
  workflowID : String
  deleteChildren : Option Bool

/-- `BulkDeleteInputBody`. -/
structure BulkDeleteInputBody where
  deleteChildren : Option Bool
  workflowIDs : Option (List String)

/-- `ImportWorkflowInputBody`. -/
structure ImportWorkflowInputBody where
  serializedWorkflow : String

/-- `RewindWorkflowInputBody`. -/
structure RewindWorkflowInputBody where
  appVersion : Option String
  queueName : Option String
  queuePartitionKey : Option String
  startStep : Option Int32

/-! ## The handlers -/

section Handlers

variable (server : WorkflowServer types)

/-- `CancelWorkflow`. -/
def cancelWorkflow (request : WorkflowRequest CancelWorkflowInputBody) :
    MutationAnswer types :=
  let cancelChildren := (request.body.bind (·.cancelChildren)).getD false
  answerMutation server .cancel
    ⟨Identity.normalizeOrg request.orgName, request.appName,
      ⟨false, .cancel, (MessageType.cancel.text, server.requestID, none,
        cancelChildren, request.workflowID, none, ())⟩⟩
    (auditWorkflow request.orgName request.appName request.workflowID
      "workflow.cancel")
    204

/-- `BulkCancelWorkflows`. -/
def bulkCancelWorkflows (request : AppRequest BulkCancelInputBody) :
    MutationAnswer types :=
  let audit := auditBulk request.orgName request.appName
    (request.body.bind (·.workflowIDs)) "workflow.bulk_cancel"
  match request.body with
  | none => refuseMutation audit missingRequestBody
  | some body =>
      answerMutation server .cancel
        ⟨Identity.normalizeOrg request.orgName, request.appName,
          ⟨false, .cancel, (MessageType.cancel.text, server.requestID, none,
            body.cancelChildren.getD false, "", body.workflowIDs, ())⟩⟩
        audit 204

/-- `ResumeWorkflow`. -/
def resumeWorkflow (request : WorkflowRequest ResumeWorkflowInputBody) :
    MutationAnswer types :=
  let orgName := Identity.normalizeOrg request.orgName
  let audit := auditWorkflow request.orgName request.appName request.workflowID
    "workflow.resume"
  match resumeVersionBlocked server.store orgName request.appName with
  | some latest => refuseMutation audit (versionUnavailable latest)
  | none =>
      answerMutation server .resume
        ⟨orgName, request.appName,
          ⟨false, .resume, (MessageType.resume.text, server.requestID, none,
            request.workflowID, none, request.body.bind (·.queueName), ())⟩⟩
        audit 204

/-- `BulkResumeWorkflows`. -/
def bulkResumeWorkflows (request : AppRequest BulkResumeInputBody) :
    MutationAnswer types :=
  let orgName := Identity.normalizeOrg request.orgName
  let audit := auditBulk request.orgName request.appName
    (request.body.bind (·.workflowIDs)) "workflow.bulk_resume"
  match request.body with
  | none => refuseMutation audit missingRequestBody
  | some body =>
      match resumeVersionBlocked server.store orgName request.appName with
      | some latest => refuseMutation audit (versionUnavailable latest)
      | none =>
          answerMutation server .resume
            ⟨orgName, request.appName,
              ⟨false, .resume, (MessageType.resume.text, server.requestID, none,
                "", body.workflowIDs, body.queueName, ())⟩⟩
            audit 204

/-- `DeleteWorkflow`. -/
def deleteWorkflow (request : DeleteWorkflowRequest) : MutationAnswer types :=
  answerMutation server .delete
    ⟨Identity.normalizeOrg request.orgName, request.appName,
      ⟨false, .delete, (MessageType.delete.text, server.requestID, none,
        request.workflowID, none, request.deleteChildren.getD false, ())⟩⟩
    (auditWorkflow request.orgName request.appName request.workflowID
      "workflow.delete")
    204

/-- `BulkDeleteWorkflows`. -/
def bulkDeleteWorkflows (request : AppRequest BulkDeleteInputBody) :
    MutationAnswer types :=
  let audit := auditBulk request.orgName request.appName
    (request.body.bind (·.workflowIDs)) "workflow.bulk_delete"
  match request.body with
  | none => refuseMutation audit missingRequestBody
  | some body =>
      answerMutation server .delete
        ⟨Identity.normalizeOrg request.orgName, request.appName,
          ⟨false, .delete, (MessageType.delete.text, server.requestID, none, "",
            body.workflowIDs, body.deleteChildren.getD false, ())⟩⟩
        audit 204

/-- `ImportWorkflow`. -/
def importWorkflow (request : AppRequest ImportWorkflowInputBody) :
    MutationAnswer types :=
  let audit := auditImport request.orgName request.appName
  match request.body with
  | none => refuseMutation audit missingRequestBody
  | some body =>
      answerMutation server .importWorkflow
        ⟨Identity.normalizeOrg request.orgName, request.appName,
          ⟨false, .importWorkflow, (MessageType.importWorkflow.text,
            server.requestID, none, body.serializedWorkflow, ())⟩⟩
        audit 201

/-- `RewindWorkflow`; the only handler which reads `Success`. -/
def rewindWorkflow (request : WorkflowRequest RewindWorkflowInputBody) :
    MutationAnswer types :=
  let audit := auditWorkflow request.orgName request.appName request.workflowID
    "workflow.rewind"
  let call : RouterCall types :=
    ⟨Identity.normalizeOrg request.orgName, request.appName,
      ⟨false, .rewindWorkflow, (MessageType.rewindWorkflow.text,
        server.requestID, none,
        (request.workflowID,
          (request.body.bind (·.startStep)).map Int32.toInt64,
          request.body.bind (·.appVersion), request.body.bind (·.queueName),
          request.body.bind (·.queuePartitionKey), ()), ())⟩⟩
  match server.routed with
  | .error err => ⟨some call, .error (routerErrorToModel err), audit .failure⟩
  | .ok res =>
      match WorkflowMutation.rewindWorkflow.response res with
      | none => ⟨some call, .error unexpectedResponseType, audit .failure⟩
      | some response =>
          match response.error with
          | some message =>
              ⟨some call, .error (makeErrorModel 400 "Bad Request" message),
                audit .failure⟩
          | none =>
              if response.success then ⟨some call, .ok 204, audit .success⟩
              else
                ⟨some call,
                  .error
                    (makeErrorModel 400 "Bad Request" "workflow rewind failed"),
                  audit .failure⟩

end Handlers

/-- A request to one of the handlers. -/
inductive MutationRequest where
  | cancelWorkflow (request : WorkflowRequest CancelWorkflowInputBody)
  | bulkCancelWorkflows (request : AppRequest BulkCancelInputBody)
  | resumeWorkflow (request : WorkflowRequest ResumeWorkflowInputBody)
  | bulkResumeWorkflows (request : AppRequest BulkResumeInputBody)
  | deleteWorkflow (request : DeleteWorkflowRequest)
  | bulkDeleteWorkflows (request : AppRequest BulkDeleteInputBody)
  | importWorkflow (request : AppRequest ImportWorkflowInputBody)
  | rewindWorkflow (request : WorkflowRequest RewindWorkflowInputBody)

/-- The answer of its handler. -/
def MutationRequest.serve (server : WorkflowServer types) :
    MutationRequest → MutationAnswer types
  | .cancelWorkflow request => Api.cancelWorkflow server request
  | .bulkCancelWorkflows request => Api.bulkCancelWorkflows server request
  | .resumeWorkflow request => Api.resumeWorkflow server request
  | .bulkResumeWorkflows request => Api.bulkResumeWorkflows server request
  | .deleteWorkflow request => Api.deleteWorkflow server request
  | .bulkDeleteWorkflows request => Api.bulkDeleteWorkflows server request
  | .importWorkflow request => Api.importWorkflow server request
  | .rewindWorkflow request => Api.rewindWorkflow server request

/-- The response its handler expects. -/
def MutationRequest.mutation : MutationRequest → WorkflowMutation
  | .cancelWorkflow _ | .bulkCancelWorkflows _ => .cancel
  | .resumeWorkflow _ | .bulkResumeWorkflows _ => .resume
  | .deleteWorkflow _ | .bulkDeleteWorkflows _ => .delete
  | .importWorkflow _ => .importWorkflow
  | .rewindWorkflow _ => .rewindWorkflow

end DbosRelay.Api
