import DbosRelay.Api.AuditDenials
import DbosRelay.Identity.Middleware

/-!
# Where outcomes are recorded

`AuthMiddleware` with its calls of `recordMiddlewareDenial`, and the calls of
`auditOperation` in the handlers of `internal/api/workflows_write.go`.  The
middleware records exactly the requests on an organisation which it answers with
403.  What it records of a mutation of workflows is what the handler of its route
records when the mutation fails.
-/

namespace DbosRelay.Api

open DbosRelay.Identity
open DbosRelay.Identity.Segment
open DbosRelay.Library.Programs
open DbosRelay.Library.Paths

/-! ## The middleware with its entries -/

/-- A problem, and the entry which is recorded before the problem is written. -/
structure Denial where
  problem : Problem
  recorded : Option AuditRequest

/-- A problem which is written only. -/
def writeProblem {Value : Type} (problem : Problem) :
    StoreProgram (Except Denial Value) :=
  .done (.error ⟨problem, none⟩)

/-- A problem which is written after `recordMiddlewareDenial`. -/
def recordDenial {Value : Type} (request : HTTPRequest)
    (identity : UserIdentity) (problem : Problem) :
    StoreProgram (Except Denial Value) :=
  .done (.error ⟨problem, middlewareDenial request (some identity)⟩)

/-- The problems of a program are written only. -/
def unrecorded {Value : Type} (program : StoreProgram (Except Problem Value)) :
    StoreProgram (Except Denial Value) :=
  program >>= fun answer => .done (answer.mapError fun problem => ⟨problem, none⟩)

namespace Recording

/-- `finishAuthorisation` with its entries. -/
def finishAuthorisation (request : HTTPRequest) (identity : UserIdentity) :
    StoreProgram (Except Denial UserIdentity) :=
  match accessRefusal request identity with
  | some problem => recordDenial request identity problem
  | none => .done (.ok identity)

/-- `authoriseMember` with its entries. -/
def authoriseMember (request : HTTPRequest) (identity : UserIdentity)
    (org : Organisation) : StoreProgram (Except Denial UserIdentity) := do
  match ← issue (.getMember org.id identity.username) with
  | .error _ =>
      recordDenial request identity
        (forbidden "User is not a member of this organisation")
  | .ok member => do
      let role ← issue (.getRole org.id member.roleName)
      finishAuthorisation request { identity with
        orgName := org.name
        orgID := org.id
        role := member.roleName
        permissions := (role.toOption.map Role.permissions).getD [] }

/-- `authoriseOrganisation` with its entries. -/
def authoriseOrganisation (request : HTTPRequest) (identity : UserIdentity) :
    StoreProgram (Except Denial UserIdentity) := do
  match ← issue (.getOrganisationByName request.orgName) with
  | .error error => writeProblem (unresolvedOrganisation error)
  | .ok org =>
      if isJoin request then
        if identity.isAPIKey then
          recordDenial request identity
            (forbidden "API keys cannot join organisations")
        else return .ok { identity with orgName := org.name }
      else if identity.isAPIKey then
        if org.id ≠ identity.orgID then
          recordDenial request identity
            (forbidden "API key does not belong to this organisation")
        else if identity.applicationNames ≠ [] ∧ request.appName = "" then
          recordDenial request { identity with orgName := org.name }
            (forbidden "API key is scoped to specific applications and cannot access organization-level resources")
        else finishAuthorisation request { identity with orgName := org.name }
      else authoriseMember request identity org

/-- `authorise` with its entries; there are none without an organisation. -/
def authorise (server : Server) (request : HTTPRequest)
    (identity : UserIdentity) : StoreProgram (Except Denial UserIdentity) :=
  if request.orgName = "" then
    unrecorded (Identity.authorise server request identity)
  else authoriseOrganisation request identity

/-- `AuthMiddleware` with its entries. -/
def authMiddleware (server : Server) (request : HTTPRequest) :
    StoreProgram (Except Denial (Option UserIdentity)) :=
  if server.authEnabled = false ∧ request.path ≠ "/v1/metrics" then
    .done (.ok (some localIdentity))
  else if isPublic request.path then .done (.ok none)
  else
    match bearerToken request with
    | .error problem => writeProblem problem
    | .ok token => do
        match ← authenticate server token with
        | .error problem => writeProblem problem
        | .ok identity =>
            match ← authorise server request identity with
            | .error denial => .done (.error denial)
            | .ok identity => return .ok (some identity)

end Recording

/-! ## Without the entries -/

/-- The program with the problems alone. -/
def forget {Value : Type} (program : StoreProgram (Except Denial Value)) :
    StoreProgram (Except Problem Value) :=
  program >>= fun answer => .done (answer.mapError Denial.problem)

section Forget

variable {Value : Type} {request : HTTPRequest} {identity : UserIdentity}

@[simp]
theorem forget_bind {Middle : Type} (program : StoreProgram Middle)
    (next : Middle → StoreProgram (Except Denial Value)) :
    forget (program >>= next) = program >>= fun value => forget (next value) :=
  Program.bind_assoc program next _

@[simp]
theorem forget_unrecorded (program : StoreProgram (Except Problem Value)) :
    forget (unrecorded program) = program := by
  induction program with
  | done answer =>
      cases answer with
      | error problem => rfl
      | ok value => rfl
  | call statement next induction =>
      exact congrArg (Program.call statement) (funext induction)

theorem forget_finishAuthorisation :
    forget (Recording.finishAuthorisation request identity) =
      finishAuthorisation request identity := by
  unfold Recording.finishAuthorisation finishAuthorisation
  cases accessRefusal request identity with
  | none => rfl
  | some problem => rfl

theorem forget_authoriseMember (org : Organisation) :
    forget (Recording.authoriseMember request identity org) =
      authoriseMember request identity org := by
  unfold Recording.authoriseMember authoriseMember
  rw [forget_bind]
  refine congrArg (Program.bind _) (funext fun answer => ?_)
  cases answer with
  | error error => rfl
  | ok member =>
      simp only [forget_bind, forget_finishAuthorisation]

theorem forget_authoriseOrganisation :
    forget (Recording.authoriseOrganisation request identity) =
      authoriseOrganisation request identity := by
  unfold Recording.authoriseOrganisation authoriseOrganisation
  rw [forget_bind]
  refine congrArg (Program.bind _) (funext fun answer => ?_)
  cases answer with
  | error error => rfl
  | ok org =>
      simp only
      split_ifs
      · rfl
      · rfl
      · rfl
      · rfl
      · exact forget_finishAuthorisation
      · exact forget_authoriseMember org

theorem forget_authorise (server : Server) :
    forget (Recording.authorise server request identity) =
      authorise server request identity := by
  unfold Recording.authorise
  split_ifs with noOrganisation
  · exact forget_unrecorded _
  · rw [authorise, if_neg noOrganisation, forget_authoriseOrganisation]

/-- Recording changes nothing of what the middleware does. -/
theorem forget_authMiddleware (server : Server) (request : HTTPRequest) :
    forget (Recording.authMiddleware server request) =
      authMiddleware server request := by
  unfold Recording.authMiddleware authMiddleware
  split_ifs
  · rfl
  · rfl
  · cases bearerToken request with
    | error problem => rfl
    | ok token =>
        simp only [forget_bind]
        refine congrArg (Program.bind _) (funext fun answer => ?_)
        cases answer with
        | error problem => rfl
        | ok identity =>
            have same : forget (Recording.authorise server request identity) =
                authorise server request identity :=
              forget_authorise server
            rw [forget] at same
            simp only [forget_bind, ← same, Program.bind_assoc]
            refine congrArg (Program.bind _) (funext fun answer => ?_)
            cases answer with
            | error denial => rfl
            | ok identity => rfl

end Forget

/-! ## What is recorded -/

/-- A request which is answered with 403 is recorded for the caller, no other is. -/
def Denial.Recorded (denial : Denial) (request : HTTPRequest)
    (identity : UserIdentity) : Prop :=
  if denial.problem.status = 403 then
    ∃ caller, auditSubject (some caller) = auditSubject (some identity) ∧
      denial.recorded = middlewareDenial request (some caller)
  else denial.recorded = none

/-- An answer which is a denial is recorded. -/
def RecordsDenial {Value : Type} (request : HTTPRequest)
    (identity : UserIdentity) : Except Denial Value → Prop
  | .ok _ => True
  | .error denial => denial.Recorded request identity

section Recorded

variable {request : HTTPRequest} {identity caller : UserIdentity}

/-- The problem is a 403, and the caller is the one who was identified. -/
theorem recordDenial_records {Value : Type} {problem : Problem}
    (forbidden : problem.status = 403)
    (same : auditSubject (some caller) = auditSubject (some identity)) :
    (recordDenial request caller problem :
        StoreProgram (Except Denial Value)).Yields
      (RecordsDenial request identity) := by
  show Denial.Recorded ⟨problem, _⟩ request identity
  rw [Denial.Recorded, if_pos forbidden]
  exact ⟨caller, same, rfl⟩

theorem writeProblem_records {Value : Type} {problem : Problem}
    (other : problem.status ≠ 403) :
    (writeProblem problem : StoreProgram (Except Denial Value)).Yields
      (RecordsDenial request identity) := by
  show Denial.Recorded ⟨problem, none⟩ request identity
  rw [Denial.Recorded, if_neg other]

theorem status_accessRefusal {problem : Problem}
    (refused : accessRefusal request identity = some problem) :
    problem.status = 403 := by
  unfold accessRefusal at refused
  simp only at refused
  split_ifs at refused <;> cases refused <;> rfl

theorem status_unresolvedOrganisation (error : Identity.StoreError) :
    (unresolvedOrganisation error).status ≠ 403 := by
  unfold unresolvedOrganisation
  split_ifs <;> decide

theorem finishAuthorisation_records
    (same : auditSubject (some caller) = auditSubject (some identity)) :
    (Recording.finishAuthorisation request caller).Yields
      (RecordsDenial request identity) := by
  unfold Recording.finishAuthorisation
  cases refused : accessRefusal request caller with
  | none => trivial
  | some problem => exact recordDenial_records (status_accessRefusal refused) same

theorem authoriseMember_records (org : Organisation) :
    (Recording.authoriseMember request identity org).Yields
      (RecordsDenial request identity) := by
  refine yields_issue fun answer => ?_
  cases answer with
  | error error => exact recordDenial_records rfl rfl
  | ok member => exact yields_issue fun role => finishAuthorisation_records rfl

theorem authoriseOrganisation_records :
    (Recording.authoriseOrganisation request identity).Yields
      (RecordsDenial request identity) := by
  refine yields_issue fun answer => ?_
  cases answer with
  | error error =>
      exact writeProblem_records (status_unresolvedOrganisation error)
  | ok org =>
      simp only
      split_ifs
      · exact recordDenial_records rfl rfl
      · trivial
      · exact recordDenial_records rfl rfl
      · exact recordDenial_records rfl rfl
      · exact finishAuthorisation_records rfl
      · exact authoriseMember_records org

theorem status_bearerToken {problem : Problem}
    (failed : bearerToken request = .error problem) : problem.status = 401 := by
  unfold bearerToken at failed
  generalize (if request.authorization = "" ∧ request.tokenParameter ≠ "" then
    "Bearer " ++ request.tokenParameter else request.authorization) = header
    at failed
  simp only at failed
  split at failed
  · cases failed
    rfl
  · split at failed
    · split at failed
      · cases failed
      · cases failed
        rfl
    · cases failed
      rfl

theorem status_authenticate (server : Server) (token : String) :
    (authenticate server token).Yields fun answer =>
      ∀ problem, answer = .error problem → problem.status = 401 := by
  unfold authenticate
  split_ifs
  · refine yields_issue fun answer => ?_
    cases answer with
    | error error =>
        rintro problem ⟨⟩
        rfl
    | ok key =>
        simp only
        split_ifs
        · rintro problem ⟨⟩
          rfl
        · exact yields_issue fun touched => yields_issue fun org => nofun
  · split
    · rintro problem ⟨⟩
      rfl
    · split
      · rintro problem ⟨⟩
        rfl
      · exact (Program.yields_true _).bind fun identity _ => nofun

/--
The middleware records a request on an organisation exactly if it answers it with
403.
-/
theorem authMiddleware_records (server : Server)
    (onOrganisation : request.orgName ≠ "") :
    (Recording.authMiddleware server request).Yields fun answer =>
      ∀ denial, answer = .error denial →
        ∃ identity, denial.Recorded request identity := by
  have written : ∀ problem : Problem, problem.status = 401 →
      Denial.Recorded ⟨problem, none⟩ request localIdentity := by
    intro problem status
    rw [Denial.Recorded, if_neg (by rw [status]; decide)]
  unfold Recording.authMiddleware
  split_ifs
  · exact nofun
  · exact nofun
  · cases bearer : bearerToken request with
    | error problem =>
        rintro denial ⟨⟩
        exact ⟨_, written problem (status_bearerToken bearer)⟩
    | ok token =>
        refine (status_authenticate server token).bind fun answer unauthorized => ?_
        cases answer with
        | error problem =>
            rintro denial ⟨⟩
            exact ⟨_, written problem (unauthorized problem rfl)⟩
        | ok identity =>
            simp only [Recording.authorise, if_neg onOrganisation]
            refine authoriseOrganisation_records.bind fun answer records => ?_
            cases answer with
            | error denial =>
                rintro _ ⟨⟩
                exact ⟨identity, records⟩
            | ok identity => exact nofun

/--
A request on a route which the middleware answers with 403 is recorded as the
operation which the route's handler records, and not at all if it records nothing.
-/
theorem forbidden_recorded {server : Server} {route : OrgRoute}
    (member : route ∈ orgRoutes) {values : String → String}
    (receives : route.Receives values request) (named : values "orgName" ≠ "")
    (clean : ∀ segment ∈ route.segments, Clean '/' (segment.value values))
    (unlike : values "workflowId" ∉ workflowOperations)
    {store after : Identity.Store} {denial : Denial}
    (ends : (Recording.authMiddleware server request).Ends perform store
      (.error denial) after)
    (forbidden : denial.problem.status = 403) :
    ∃ caller, denial.recorded =
      (handlerAudit route).map fun audit =>
        { sourceIP := ""
          ident := some caller
          orgName := values "orgName"
          appName := if route.namesApp then values "appName" else ""
          operation := audit.operation
          status := .failure
          targetType := audit.targetType
          targetID := audit.target.denied values (some caller)
          fields := ∅ } := by
  have onOrganisation : request.orgName ≠ "" := by
    rw [receives.orgName]
    exact named
  obtain ⟨identity, recorded⟩ :=
    (authMiddleware_records server onOrganisation).ends ends denial rfl
  rw [Denial.Recorded, if_pos forbidden] at recorded
  obtain ⟨caller, -, recorded⟩ := recorded
  exact ⟨caller, recorded.trans (middlewareDenial_eq_handler member values request
    receives clean unlike caller)⟩

end Recorded

/-! ## The handlers of workflows -/

namespace MutationRequest

/-- The route of the handler. -/
def route : MutationRequest → OrgRoute
  | .cancelWorkflow _ =>
      inApp "POST" [literal "workflows", wildcard "workflowId", literal "cancel"]
  | .bulkCancelWorkflows _ =>
      inApp "POST" [literal "workflows", literal "bulk-cancel"]
  | .resumeWorkflow _ =>
      inApp "POST" [literal "workflows", wildcard "workflowId", literal "resume"]
  | .bulkResumeWorkflows _ =>
      inApp "POST" [literal "workflows", literal "bulk-resume"]
  | .deleteWorkflow _ =>
      inApp "DELETE" [literal "workflows", wildcard "workflowId"]
  | .bulkDeleteWorkflows _ =>
      inApp "POST" [literal "workflows", literal "bulk-delete"]
  | .importWorkflow _ => inApp "POST" [literal "workflows", literal "import"]
  | .rewindWorkflow _ =>
      inApp "POST" [literal "workflows", wildcard "workflowId", literal "rewind"]

/-- The organisation, the application and the workflow in the path. -/
def path : MutationRequest → String × String × String
  | .cancelWorkflow request =>
      (request.orgName, request.appName, request.workflowID)
  | .bulkCancelWorkflows request => (request.orgName, request.appName, "")
  | .resumeWorkflow request =>
      (request.orgName, request.appName, request.workflowID)
  | .bulkResumeWorkflows request => (request.orgName, request.appName, "")
  | .deleteWorkflow request =>
      (request.orgName, request.appName, request.workflowID)
  | .bulkDeleteWorkflows request => (request.orgName, request.appName, "")
  | .importWorkflow request => (request.orgName, request.appName, "")
  | .rewindWorkflow request =>
      (request.orgName, request.appName, request.workflowID)

/-- The values of the route's wildcards. -/
def values (request : MutationRequest) (name : String) : String :=
  if name = "orgName" then request.path.1
  else if name = "appName" then request.path.2.1
  else request.path.2.2

end MutationRequest

section Handlers

open Protocol (StandardTypes)

variable {types : StandardTypes}

/-- The answer was recorded with the entry of the handler. -/
def MutationAnswer.RecordedBy (answer : MutationAnswer types)
    (audit : AuditStatus → AuditOperation) : Prop :=
  ∃ status, answer.audit = audit status

section Answers

variable {server : WorkflowServer types} {audit : AuditStatus → AuditOperation}

theorem refuseMutation_recordedBy (problem : ErrorModel) :
    (refuseMutation audit problem : MutationAnswer types).RecordedBy audit :=
  ⟨_, rfl⟩

theorem answerMutation_recordedBy (mutation : WorkflowMutation)
    (call : RouterCall types) (code : Nat) :
    (answerMutation server mutation call audit code).RecordedBy audit := by
  unfold answerMutation
  split
  · exact ⟨_, rfl⟩
  · split
    · exact ⟨_, rfl⟩
    · split
      · exact ⟨_, rfl⟩
      · exact ⟨_, rfl⟩

theorem rewindWorkflow_recordedBy
    (request : WorkflowRequest RewindWorkflowInputBody) :
    (rewindWorkflow server request).RecordedBy
      (auditWorkflow request.orgName request.appName request.workflowID
        "workflow.rewind") := by
  unfold rewindWorkflow
  simp only
  split
  · exact ⟨_, rfl⟩
  · split
    · exact ⟨_, rfl⟩
    · split
      · exact ⟨_, rfl⟩
      · split_ifs
        · exact ⟨_, rfl⟩
        · exact ⟨_, rfl⟩

end Answers

/-- The entry of the handler of a request. -/
def MutationRequest.audit : MutationRequest → AuditStatus → AuditOperation
  | .cancelWorkflow request =>
      auditWorkflow request.orgName request.appName request.workflowID
        "workflow.cancel"
  | .bulkCancelWorkflows request =>
      auditBulk request.orgName request.appName
        (request.body.bind (·.workflowIDs)) "workflow.bulk_cancel"
  | .resumeWorkflow request =>
      auditWorkflow request.orgName request.appName request.workflowID
        "workflow.resume"
  | .bulkResumeWorkflows request =>
      auditBulk request.orgName request.appName
        (request.body.bind (·.workflowIDs)) "workflow.bulk_resume"
  | .deleteWorkflow request =>
      auditWorkflow request.orgName request.appName request.workflowID
        "workflow.delete"
  | .bulkDeleteWorkflows request =>
      auditBulk request.orgName request.appName
        (request.body.bind (·.workflowIDs)) "workflow.bulk_delete"
  | .importWorkflow request => auditImport request.orgName request.appName
  | .rewindWorkflow request =>
      auditWorkflow request.orgName request.appName request.workflowID
        "workflow.rewind"

/-- Whatever a handler answers, it has recorded its entry. -/
theorem serve_recordedBy (request : MutationRequest)
    (server : WorkflowServer types) :
    (request.serve server).RecordedBy request.audit := by
  cases request with
  | cancelWorkflow request => exact answerMutation_recordedBy _ _ _
  | deleteWorkflow request => exact answerMutation_recordedBy _ _ _
  | rewindWorkflow request => exact rewindWorkflow_recordedBy request
  | resumeWorkflow request =>
      show (resumeWorkflow server request).RecordedBy _
      unfold resumeWorkflow
      simp only
      split
      · exact refuseMutation_recordedBy _
      · exact answerMutation_recordedBy _ _ _
  | bulkResumeWorkflows request =>
      show (bulkResumeWorkflows server request).RecordedBy _
      unfold bulkResumeWorkflows
      simp only
      split
      · exact refuseMutation_recordedBy _
      · split
        · exact refuseMutation_recordedBy _
        · exact answerMutation_recordedBy _ _ _
  | bulkCancelWorkflows request =>
      show (bulkCancelWorkflows server request).RecordedBy _
      unfold bulkCancelWorkflows
      simp only
      split
      · exact refuseMutation_recordedBy _
      · exact answerMutation_recordedBy _ _ _
  | bulkDeleteWorkflows request =>
      show (bulkDeleteWorkflows server request).RecordedBy _
      unfold bulkDeleteWorkflows
      simp only
      split
      · exact refuseMutation_recordedBy _
      · exact answerMutation_recordedBy _ _ _
  | importWorkflow request =>
      show (importWorkflow server request).RecordedBy _
      unfold importWorkflow
      simp only
      split
      · exact refuseMutation_recordedBy _
      · exact answerMutation_recordedBy _ _ _

/-- The entry of every handler is the one its route is listed with. -/
theorem handlerAudit_route (request : MutationRequest) :
    request.route ∈ orgRoutes ∧ request.route.namesApp = true ∧
      ∃ audit, handlerAudit request.route = some audit ∧
        ∀ status identity, request.audit status =
          ⟨request.values "orgName", request.values "appName", audit.operation,
            status, audit.targetType, audit.target.denied request.values identity,
            (request.audit status).workflowIDs⟩ := by
  cases request
  all_goals
    exact ⟨by dsimp only [MutationRequest.route]; decide, rfl, _, rfl,
      fun _ _ => rfl⟩

/--
What the middleware records when it denies a mutation of workflows is the entry
which the handler records when the mutation fails, less its `workflow_ids`.
-/
theorem forbidden_recorded_as_failure (request : MutationRequest)
    {server : Server} {received : HTTPRequest}
    (receives : request.route.Receives request.values received)
    (named : request.values "orgName" ≠ "")
    (clean : ∀ segment ∈ request.route.segments,
      Clean '/' (segment.value request.values))
    (unlike : request.values "workflowId" ∉ workflowOperations)
    {store after : Identity.Store} {denial : Denial}
    (ends : (Recording.authMiddleware server received).Ends perform store
      (.error denial) after)
    (forbidden : denial.problem.status = 403) :
    ∃ entry, denial.recorded = some entry ∧
      request.audit .failure =
        ⟨entry.orgName, entry.appName, entry.operation, entry.status,
          entry.targetType, entry.targetID,
          (request.audit .failure).workflowIDs⟩ := by
  obtain ⟨member, namesApp, audit, listed, entry⟩ := handlerAudit_route request
  obtain ⟨caller, recorded⟩ :=
    forbidden_recorded member receives named clean unlike ends forbidden
  rw [listed, Option.map_some, if_pos namesApp] at recorded
  exact ⟨_, recorded, entry .failure (some caller)⟩

end Handlers

end DbosRelay.Api
