import DbosRelay.Api.Audit
import DbosRelay.Identity.Routes

/-!
# Denials in the audit log

`auditDeniedOp` and `recordMiddlewareDenial` of `internal/api/audit.go`.  When the
middleware denies a request, the handler which would have recorded its outcome is not
reached; the middleware finds the operation in the path instead.  It finds the one
the handler records, for every route, unless the value of a wildcard holds a slash
or a workflow has the name of an operation on all workflows.
-/

namespace DbosRelay.Api

open DbosRelay.Identity
open DbosRelay.Identity.Segment
open DbosRelay.Library.Paths

/-! ## The operation in a path -/

/-- What `auditDeniedOp` finds. -/
structure AuditDenial where
  operation : String
  appName : String
  targetType : String
  targetID : String
deriving DecidableEq, Repr

/-- `strings.Split` of the path without the slashes at its ends. -/
def auditSegments (path : String) : List String :=
  ((trim '/' path.toList).splitOn '/').map String.ofList

/-- `auditDeniedWorkflowOp`. -/
def auditDeniedWorkflowOp (method app : String) :
    List String → Option AuditDenial
  | [] => none
  | first :: rest =>
      if first = "bulk-cancel" ∧ method = "POST" then
        some ⟨"workflow.bulk_cancel", app, "", ""⟩
      else if first = "bulk-resume" ∧ method = "POST" then
        some ⟨"workflow.bulk_resume", app, "", ""⟩
      else if first = "bulk-delete" ∧ method = "POST" then
        some ⟨"workflow.bulk_delete", app, "", ""⟩
      else if first = "bulk-fork-from-failure" ∧ method = "POST" then
        some ⟨"workflow.fork_from_failure", app, "", ""⟩
      else if first = "import" ∧ method = "POST" then
        some ⟨"workflow.import", app, "", ""⟩
      else
        match rest with
        | [] =>
            if method = "DELETE" then
              some ⟨"workflow.delete", app, "workflow", first⟩
            else none
        | [verb] =>
            if method ≠ "POST" then none
            else if verb = "cancel" then
              some ⟨"workflow.cancel", app, "workflow", first⟩
            else if verb = "resume" then
              some ⟨"workflow.resume", app, "workflow", first⟩
            else if verb = "fork" then
              some ⟨"workflow.fork", app, "workflow", first⟩
            else if verb = "rewind" then
              some ⟨"workflow.rewind", app, "workflow", first⟩
            else none
        | _ :: _ :: _ => none

/-- The operation on a schedule. -/
def auditDeniedScheduleOp (method app : String) :
    List String → Option AuditDenial
  | [schedule, verb] =>
      if method ≠ "POST" then none
      else if verb = "pause" then
        some ⟨"schedule.pause", app, "schedule", schedule⟩
      else if verb = "resume" then
        some ⟨"schedule.resume", app, "schedule", schedule⟩
      else if verb = "trigger" then
        some ⟨"schedule.trigger", app, "schedule", schedule⟩
      else if verb = "backfill" then
        some ⟨"schedule.backfill", app, "schedule", schedule⟩
      else none
  | _ => none

/-- The operation on an alerting rule. -/
def auditDeniedRuleOp (method app : String) :
    List String → Option AuditDenial
  | [] =>
      if method = "POST" then
        some ⟨"alerting_rule.create", app, "alerting_rule", ""⟩
      else none
  | [rule] =>
      if method = "DELETE" then
        some ⟨"alerting_rule.delete", app, "alerting_rule", rule⟩
      else none
  | _ => none

/-- The operation on an application, after its name. -/
def auditDeniedAppOp (method app : String) :
    List String → Option AuditDenial
  | [] =>
      if method = "PUT" then
        some ⟨"application.create", app, "application", app⟩
      else if method = "PATCH" then
        some ⟨"application.update", app, "application", app⟩
      else if method = "DELETE" then
        some ⟨"application.delete", app, "application", app⟩
      else none
  | first :: rest =>
      if first = "versions" then
        if rest = ["latest"] ∧ method = "PATCH" then
          some ⟨"application.set_latest_version", app, "application", app⟩
        else none
      else if first = "workflows" then auditDeniedWorkflowOp method app rest
      else if first = "schedules" then auditDeniedScheduleOp method app rest
      else if first = "alerting-rules" then auditDeniedRuleOp method app rest
      else if first = "autoscaling-policy" then
        if rest = [] ∧ method = "PUT" then
          some ⟨"autoscaling_policy.set", app, "application", app⟩
        else if rest = [] ∧ method = "DELETE" then
          some ⟨"autoscaling_policy.delete", app, "application", app⟩
        else none
      else none

/-- The operation on a member. -/
def auditDeniedMemberOp (method : String) : List String → Option AuditDenial
  | [username] =>
      if method = "DELETE" then some ⟨"user.remove", "", "user", username⟩
      else none
  | [username, roles, _] =>
      if roles = "roles" ∧ method = "PUT" then
        some ⟨"role.grant", "", "user", username⟩
      else none
  | _ => none

/-- The operation on a role. -/
def auditDeniedRoleOp (method : String) : List String → Option AuditDenial
  | [] =>
      if method = "POST" then some ⟨"role.create", "", "role", ""⟩ else none
  | [role] =>
      if method = "DELETE" then some ⟨"role.delete", "", "role", role⟩
      else none
  | _ => none

/-- The operation on a token. -/
def auditDeniedTokenOp (method : String) : List String → Option AuditDenial
  | [token] =>
      if method = "POST" then some ⟨"token.create", "", "token", token⟩
      else if method = "PATCH" then some ⟨"token.update", "", "token", token⟩
      else if method = "DELETE" then some ⟨"token.revoke", "", "token", token⟩
      else none
  | _ => none

/-- The operation on a domain claim. -/
def auditDeniedClaimOp (method : String) : List String → Option AuditDenial
  | [] =>
      if method = "POST" then
        some ⟨"domain_claim.create", "", "domain_claim", ""⟩
      else none
  | [domain] =>
      if method = "DELETE" then
        some ⟨"domain_claim.delete", "", "domain_claim", domain⟩
      else none
  | _ => none

/-- The operation on an application. -/
def auditDeniedAppsOp (method : String) : List String → Option AuditDenial
  | [] => none
  | app :: rest => auditDeniedAppOp method app rest

/-- The operation on an organisation, after its name. -/
def auditDeniedOrgOp (method org : String) (identity : Option UserIdentity) :
    List String → Option AuditDenial
  | [] =>
      if method = "PATCH" then
        some ⟨"organization.update", "", "organization", org⟩
      else none
  | first :: rest =>
      if first = "join" then
        if method = "POST" then
          some ⟨"user.join", "", "user",
            (identity.map UserIdentity.username).getD ""⟩
        else none
      else if first = "secrets" then
        if rest = [] ∧ method = "POST" then
          some ⟨"secret.generate", "", "organization", org⟩
        else none
      else if first = "members" then auditDeniedMemberOp method rest
      else if first = "roles" then auditDeniedRoleOp method rest
      else if first = "tokens" then auditDeniedTokenOp method rest
      else if first = "domain-claims" then auditDeniedClaimOp method rest
      else if first = "apps" then auditDeniedAppsOp method rest
      else none

/-- `auditDeniedOp`. -/
def auditDeniedOp (method path : String) (identity : Option UserIdentity) :
    Option AuditDenial :=
  if method = "POST" ∨ method = "PUT" ∨ method = "PATCH" ∨
      method = "DELETE" then
    match auditSegments path with
    | version :: collection :: org :: rest =>
        if version = "v2" ∧ collection = "orgs" then
          auditDeniedOrgOp method org identity rest
        else none
    | _ => none
  else none

/--
`recordMiddlewareDenial`.  The address of the caller is not in the context yet.
-/
def middlewareDenial (request : HTTPRequest)
    (identity : Option UserIdentity) : Option AuditRequest :=
  identity.bind fun _ =>
    (auditDeniedOp request.method request.path identity).map fun denial =>
      { sourceIP := ""
        ident := identity
        orgName := request.orgName
        appName := denial.appName
        operation := denial.operation
        status := .failure
        targetType := denial.targetType
        targetID := denial.targetID
        fields := ∅ }

/-! ## What the handlers record -/

/-- What a handler names as the target of its operation. -/
inductive HandlerTarget where
  | parameter (name : String)
  | caller
  /-- Found in the body or the answer, or not named at all. -/
  | unknown
deriving DecidableEq, Repr

/-- The operation and the target type a handler calls `auditOperation` with. -/
structure HandlerAudit where
  operation : String
  targetType : String
  target : HandlerTarget
deriving DecidableEq, Repr

open HandlerTarget in
/-- The calls of `auditOperation` in the handlers of the organisation's routes. -/
def organisationAudits : List (OrgRoute × HandlerAudit) :=
  [(⟨"PATCH", []⟩,
      ⟨"organization.update", "organization", parameter "orgName"⟩),
    (⟨"POST", [literal "domain-claims"]⟩,
      ⟨"domain_claim.create", "domain_claim", unknown⟩),
    (⟨"DELETE", [literal "domain-claims", wildcard "domain"]⟩,
      ⟨"domain_claim.delete", "domain_claim", parameter "domain"⟩),
    (⟨"POST", [literal "join"]⟩, ⟨"user.join", "user", caller⟩),
    (⟨"DELETE", [literal "members", wildcard "username"]⟩,
      ⟨"user.remove", "user", parameter "username"⟩),
    (⟨"PUT", [literal "members", wildcard "username", literal "roles",
        wildcard "roleName"]⟩,
      ⟨"role.grant", "user", parameter "username"⟩),
    (⟨"POST", [literal "roles"]⟩, ⟨"role.create", "role", unknown⟩),
    (⟨"DELETE", [literal "roles", wildcard "roleName"]⟩,
      ⟨"role.delete", "role", parameter "roleName"⟩),
    (⟨"POST", [literal "secrets"]⟩,
      ⟨"secret.generate", "organization", parameter "orgName"⟩),
    (⟨"DELETE", [literal "tokens", wildcard "tokenName"]⟩,
      ⟨"token.revoke", "token", parameter "tokenName"⟩),
    (⟨"PATCH", [literal "tokens", wildcard "tokenName"]⟩,
      ⟨"token.update", "token", parameter "tokenName"⟩),
    (⟨"POST", [literal "tokens", wildcard "tokenName"]⟩,
      ⟨"token.create", "token", parameter "tokenName"⟩)]

open HandlerTarget in
/-- The calls of `auditOperation` in the handlers of an application's routes. -/
def applicationAudits : List (OrgRoute × HandlerAudit) :=
  [(inApp "DELETE" [],
      ⟨"application.delete", "application", parameter "appName"⟩),
    (inApp "PATCH" [],
      ⟨"application.update", "application", parameter "appName"⟩),
    (inApp "PUT" [],
      ⟨"application.create", "application", parameter "appName"⟩),
    (inApp "POST" [literal "alerting-rules"],
      ⟨"alerting_rule.create", "alerting_rule", unknown⟩),
    (inApp "DELETE" [literal "alerting-rules", wildcard "ruleId"],
      ⟨"alerting_rule.delete", "alerting_rule", parameter "ruleId"⟩),
    (inApp "DELETE" [literal "autoscaling-policy"],
      ⟨"autoscaling_policy.delete", "application", parameter "appName"⟩),
    (inApp "PUT" [literal "autoscaling-policy"],
      ⟨"autoscaling_policy.set", "application", parameter "appName"⟩),
    (inApp "POST" [literal "schedules", wildcard "scheduleName",
        literal "backfill"],
      ⟨"schedule.backfill", "schedule", parameter "scheduleName"⟩),
    (inApp "POST" [literal "schedules", wildcard "scheduleName",
        literal "pause"],
      ⟨"schedule.pause", "schedule", parameter "scheduleName"⟩),
    (inApp "POST" [literal "schedules", wildcard "scheduleName",
        literal "resume"],
      ⟨"schedule.resume", "schedule", parameter "scheduleName"⟩),
    (inApp "POST" [literal "schedules", wildcard "scheduleName",
        literal "trigger"],
      ⟨"schedule.trigger", "schedule", parameter "scheduleName"⟩),
    (inApp "PATCH" [literal "versions", literal "latest"],
      ⟨"application.set_latest_version", "application",
        parameter "appName"⟩),
    (inApp "POST" [literal "workflows", literal "bulk-cancel"],
      ⟨"workflow.bulk_cancel", "", unknown⟩),
    (inApp "POST" [literal "workflows", literal "bulk-delete"],
      ⟨"workflow.bulk_delete", "", unknown⟩),
    (inApp "POST" [literal "workflows", literal "bulk-fork-from-failure"],
      ⟨"workflow.fork_from_failure", "", unknown⟩),
    (inApp "POST" [literal "workflows", literal "bulk-resume"],
      ⟨"workflow.bulk_resume", "", unknown⟩),
    (inApp "POST" [literal "workflows", literal "import"],
      ⟨"workflow.import", "", unknown⟩),
    (inApp "DELETE" [literal "workflows", wildcard "workflowId"],
      ⟨"workflow.delete", "workflow", parameter "workflowId"⟩),
    (inApp "POST" [literal "workflows", wildcard "workflowId",
        literal "cancel"],
      ⟨"workflow.cancel", "workflow", parameter "workflowId"⟩),
    (inApp "POST" [literal "workflows", wildcard "workflowId",
        literal "fork"],
      ⟨"workflow.fork", "workflow", parameter "workflowId"⟩),
    (inApp "POST" [literal "workflows", wildcard "workflowId",
        literal "resume"],
      ⟨"workflow.resume", "workflow", parameter "workflowId"⟩),
    (inApp "POST" [literal "workflows", wildcard "workflowId",
        literal "rewind"],
      ⟨"workflow.rewind", "workflow", parameter "workflowId"⟩)]

/-- What the handler of a route records; the other handlers record nothing. -/
def handlerAudit (route : OrgRoute) : Option HandlerAudit :=
  (organisationAudits ++ applicationAudits).lookup route

/-- The target as far as the middleware knows it. -/
def HandlerTarget.denied (target : HandlerTarget) (values : String → String)
    (identity : Option UserIdentity) : String :=
  match target with
  | .parameter name => values name
  | .caller => (identity.map UserIdentity.username).getD ""
  | .unknown => ""

/-- The names of operations on all workflows, where a workflow's could stand. -/
def workflowOperations : List String :=
  ["bulk-cancel", "bulk-resume", "bulk-delete", "bulk-fork-from-failure",
    "import"]

/-! ## The middleware and the handlers agree -/

/-- The text of a segment in a path. -/
def segmentText (values : String → String) : Segment → String
  | literal text => text
  | wildcard name => values name

/-- What the middleware finds in the segments of a route. -/
def deniedInRoute (values : String → String) (identity : Option UserIdentity)
    (route : OrgRoute) : Option AuditDenial :=
  if route.method = "POST" ∨ route.method = "PUT" ∨ route.method = "PATCH" ∨
      route.method = "DELETE" then
    auditDeniedOrgOp route.method (values "orgName") identity
      (route.rest.map (segmentText values))
  else none

/-- The denial as the handler would have it recorded. -/
def HandlerAudit.denial (audit : HandlerAudit) (values : String → String)
    (identity : Option UserIdentity) (route : OrgRoute) : AuditDenial where
  operation := audit.operation
  appName := if route.namesApp then values "appName" else ""
  targetType := audit.targetType
  targetID := audit.target.denied values identity

section Agreement

variable {values : String → String} {identity : Option UserIdentity}

theorem deniedInRoute_organisation :
    ∀ entry ∈ organisationAudits,
      deniedInRoute values identity entry.1 =
        some (entry.2.denial values identity entry.1) := by
  simp [organisationAudits, deniedInRoute, segmentText, auditDeniedOrgOp,
    auditDeniedMemberOp, auditDeniedRoleOp, auditDeniedTokenOp,
    auditDeniedClaimOp, HandlerAudit.denial, HandlerTarget.denied,
    OrgRoute.namesApp, OrgRoute.segments]

theorem deniedInRoute_application
    (unlike : values "workflowId" ∉ workflowOperations) :
    ∀ entry ∈ applicationAudits,
      deniedInRoute values identity entry.1 =
        some (entry.2.denial values identity entry.1) := by
  simp only [workflowOperations, List.mem_cons, List.not_mem_nil, or_false,
    not_or] at unlike
  simp [applicationAudits, deniedInRoute, segmentText, auditDeniedOrgOp,
    auditDeniedAppsOp, auditDeniedAppOp, auditDeniedWorkflowOp,
    auditDeniedScheduleOp, auditDeniedRuleOp, HandlerAudit.denial,
    HandlerTarget.denied, inApp, OrgRoute.namesApp, OrgRoute.segments, unlike]

/-- The routes of other methods whose handlers record nothing. -/
def unauditedRoutes : List OrgRoute :=
  [inApp "POST" [literal "steps", literal "aggregates"],
    inApp "POST" [literal "workflows", literal "aggregates"],
    inApp "POST" [literal "workflows", literal "search"],
    inApp "POST" [literal "workflows", literal "enqueue"],
    inApp "POST" [literal "workflows", wildcard "workflowId", literal "send"]]

theorem unaudited_of_handlerAudit {route : OrgRoute}
    (member : route ∈ orgRoutes) (unaudited : handlerAudit route = none) :
    route.method = "GET" ∨ route ∈ unauditedRoutes := by
  have all : ∀ route ∈ orgRoutes, handlerAudit route = none →
      route.method = "GET" ∨ route ∈ unauditedRoutes := by
    decide
  exact all route member unaudited

theorem deniedInRoute_unaudited
    (unlike : values "workflowId" ∉ workflowOperations) :
    ∀ route ∈ unauditedRoutes, deniedInRoute values identity route = none := by
  simp only [workflowOperations, List.mem_cons, List.not_mem_nil, or_false,
    not_or] at unlike
  simp [unauditedRoutes, deniedInRoute, segmentText, auditDeniedOrgOp,
    auditDeniedAppsOp, auditDeniedAppOp, auditDeniedWorkflowOp, inApp, unlike]

/-- The middleware finds in a route what its handler records. -/
theorem deniedInRoute_eq {route : OrgRoute} (member : route ∈ orgRoutes)
    (unlike : values "workflowId" ∉ workflowOperations) :
    deniedInRoute values identity route =
      (handlerAudit route).map fun audit =>
        audit.denial values identity route := by
  cases recorded : handlerAudit route with
  | none =>
      rcases unaudited_of_handlerAudit member recorded with isGet | isOther
      · simp [deniedInRoute, isGet]
      · exact deniedInRoute_unaudited unlike route isOther
  | some audit =>
      have listed : (route, audit) ∈ organisationAudits ++ applicationAudits := by
        rcases List.lookup_eq_some_iff.mp recorded with ⟨_, _, whole, -⟩
        rw [whole]
        exact List.mem_append_right _ List.mem_cons_self
      rcases List.mem_append.mp listed with inOrganisation | inApplication
      · exact deniedInRoute_organisation _ inOrganisation
      · exact deniedInRoute_application unlike _ inApplication

/-- The segments of a path whose values have no slash. -/
theorem auditSegments_path {route : OrgRoute}
    (clean : ∀ segment ∈ route.segments, Clean '/' (segment.value values)) :
    auditSegments (route.path values) =
      "v2" :: "orgs" :: values "orgName" ::
        route.rest.map (segmentText values) := by
  have split : route.segments = route.segments ++ [] := by simp
  rcases pathSegments_path split clean (List.cons_ne_nil _ _) with
    ⟨others, found, none⟩
  rw [none rfl, List.append_nil, pathSegments, segments,
    trim_trimSuffix] at found
  have text : ∀ segment : Segment,
      String.ofList (segment.value values) = segmentText values segment := by
    intro segment
    cases segment with
    | literal text => exact String.ofList_toList
    | wildcard name => exact String.ofList_toList
  rw [auditSegments, found, List.map_map]
  have whole : (String.ofList ∘ Segment.value values) = segmentText values :=
    funext text
  rw [whole]
  rfl

/--
A denied request is recorded as a failure of the operation which the handler of its
route records, for the same application, type of target and, where the path names
it, target; and it is not recorded if the handler records nothing.  The values of
the wildcards have no slash, and no workflow is named like an operation.
-/
theorem middlewareDenial_eq_handler {route : OrgRoute}
    (member : route ∈ orgRoutes) (values : String → String)
    (request : HTTPRequest) (receives : route.Receives values request)
    (clean : ∀ segment ∈ route.segments, Clean '/' (segment.value values))
    (unlike : values "workflowId" ∉ workflowOperations)
    (identity : UserIdentity) :
    middlewareDenial request (some identity) =
      (handlerAudit route).map fun audit =>
        { sourceIP := ""
          ident := some identity
          orgName := values "orgName"
          appName := if route.namesApp then values "appName" else ""
          operation := audit.operation
          status := .failure
          targetType := audit.targetType
          targetID := audit.target.denied values (some identity)
          fields := ∅ } := by
  have denied : auditDeniedOp request.method request.path (some identity) =
      deniedInRoute values (some identity) route := by
    rw [auditDeniedOp, receives.path, auditSegments_path clean, deniedInRoute]
    rcases receives.method with same | ⟨isGet, isHead⟩
    · simp [same]
    · simp [isGet, isHead, methodGet]
  rw [middlewareDenial, Option.bind_some, denied,
    deniedInRoute_eq member unlike, receives.orgName, Option.map_map]
  rfl

end Agreement

/-! ## A denied cancellation -/

/-- The values of the route's wildcards. -/
def cancelValues (name : String) : String :=
  if name = "orgName" then "local"
  else if name = "appName" then "shop"
  else "w1"

/-- The route to cancel a workflow. -/
def cancelRoute : OrgRoute :=
  inApp "POST" [literal "workflows", wildcard "workflowId", literal "cancel"]

/-- A caller who may only read. -/
def viewerIdentity : UserIdentity where
  subject := "u1"
  username := "viewer"
  email := "viewer@example.org"
  isAdmin := false
  isAPIKey := false
  orgID := 1
  orgName := "local"
  role := "viewer"
  applicationNames := []
  permissions := ["application.read"]

theorem middlewareDenial_eq_handler_cancel :
    middlewareDenial (cancelRoute.request cancelValues "" "")
        (some viewerIdentity) =
      some
        { sourceIP := ""
          ident := some viewerIdentity
          orgName := "local"
          appName := "shop"
          operation := "workflow.cancel"
          status := .failure
          targetType := "workflow"
          targetID := "w1"
          fields := ∅ } := by
  have receives : cancelRoute.Receives cancelValues
      (cancelRoute.request cancelValues "" "") :=
    ⟨.inl rfl, rfl, rfl, rfl, rfl, by decide, fun _ => by decide⟩
  have clean : ∀ segment ∈ cancelRoute.segments,
      Clean '/' (segment.value cancelValues) := by
    simp [cancelRoute, inApp, OrgRoute.segments, Segment.value, Clean,
      cancelValues]
  exact middlewareDenial_eq_handler (by decide) cancelValues _ receives clean
    (by decide) viewerIdentity

end DbosRelay.Api
