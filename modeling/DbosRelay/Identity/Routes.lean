import DbosRelay.Identity.Middleware

/-!
# The routes of an organisation

The patterns under `/v2/orgs/{orgName}` which `internal/api/gen/api.gen.go` and
`internal/api/service.go` register, and what the middleware makes of the paths
they match.  A segment of a path is decoded before the path is looked at, so
that the value of a wildcard may itself contain slashes.
-/

namespace DbosRelay.Identity

open DbosRelay.Library.Paths

/-! ## Patterns -/

/-- A segment of a pattern. -/
inductive Segment where
  | literal (text : String)
  | wildcard (name : String)
deriving DecidableEq, Repr

open Segment

/-- A pattern which begins with the wildcard of the organisation. -/
structure OrgRoute where
  method : String
  rest : List Segment
deriving DecidableEq, Repr

/-- A pattern which names an application. -/
def inApp (method : String) (rest : List Segment) : OrgRoute :=
  ⟨method, literal "apps" :: wildcard "appName" :: rest⟩

/-- The routes of the organisation itself. -/
def organisationRoutes : List OrgRoute :=
  [.mk "GET" [],
    .mk "PATCH" [],
    .mk "GET" [literal "apps"],
    .mk "GET" [literal "audit-logs"],
    .mk "GET" [literal "domain-claims"],
    .mk "POST" [literal "domain-claims"],
    .mk "DELETE" [literal "domain-claims", wildcard "domain"],
    .mk "POST" [literal "join"],
    .mk "GET" [literal "members"],
    .mk "DELETE" [literal "members", wildcard "username"],
    .mk "PUT" [literal "members", wildcard "username", literal "roles",
      wildcard "roleName"],
    .mk "GET" [literal "permissions"],
    .mk "GET" [literal "roles"],
    .mk "POST" [literal "roles"],
    .mk "DELETE" [literal "roles", wildcard "roleName"],
    .mk "POST" [literal "secrets"],
    .mk "GET" [literal "tokens"],
    .mk "DELETE" [literal "tokens", wildcard "tokenName"],
    .mk "PATCH" [literal "tokens", wildcard "tokenName"],
    .mk "POST" [literal "tokens", wildcard "tokenName"],
    .mk "GET" [literal "events"]]

/-- The routes of an application. -/
def applicationRoutes : List OrgRoute :=
  [inApp "DELETE" [],
    inApp "GET" [],
    inApp "PATCH" [],
    inApp "PUT" [],
    inApp "GET" [literal "alerting-rules"],
    inApp "POST" [literal "alerting-rules"],
    inApp "DELETE" [literal "alerting-rules", wildcard "ruleId"],
    inApp "GET" [literal "autoscale"],
    inApp "GET" [literal "autoscale", literal "versions", wildcard "version"],
    inApp "DELETE" [literal "autoscaling-policy"],
    inApp "GET" [literal "autoscaling-policy"],
    inApp "PUT" [literal "autoscaling-policy"],
    inApp "GET" [literal "executors"],
    inApp "GET" [literal "metrics"],
    inApp "GET" [literal "queues"],
    inApp "GET" [literal "queues", wildcard "queueName"],
    inApp "GET" [literal "schedules"],
    inApp "GET" [literal "schedules", wildcard "scheduleName"],
    inApp "POST" [literal "schedules", wildcard "scheduleName",
      literal "backfill"],
    inApp "POST" [literal "schedules", wildcard "scheduleName",
      literal "pause"],
    inApp "POST" [literal "schedules", wildcard "scheduleName",
      literal "resume"],
    inApp "POST" [literal "schedules", wildcard "scheduleName",
      literal "trigger"],
    inApp "POST" [literal "steps", literal "aggregates"],
    inApp "GET" [literal "versions"],
    inApp "PATCH" [literal "versions", literal "latest"],
    inApp "GET" [literal "workflows"],
    inApp "POST" [literal "workflows", literal "aggregates"],
    inApp "POST" [literal "workflows", literal "bulk-cancel"],
    inApp "POST" [literal "workflows", literal "bulk-delete"],
    inApp "POST" [literal "workflows", literal "bulk-fork-from-failure"],
    inApp "POST" [literal "workflows", literal "bulk-resume"],
    inApp "POST" [literal "workflows", literal "import"],
    inApp "POST" [literal "workflows", literal "search"],
    inApp "DELETE" [literal "workflows", wildcard "workflowId"],
    inApp "GET" [literal "workflows", wildcard "workflowId"],
    inApp "POST" [literal "workflows", wildcard "workflowId", literal "cancel"],
    inApp "GET" [literal "workflows", wildcard "workflowId", literal "events"],
    inApp "GET" [literal "workflows", wildcard "workflowId", literal "export"],
    inApp "POST" [literal "workflows", wildcard "workflowId", literal "fork"],
    inApp "GET" [literal "workflows", wildcard "workflowId",
      literal "notifications"],
    inApp "POST" [literal "workflows", wildcard "workflowId", literal "resume"],
    inApp "POST" [literal "workflows", wildcard "workflowId", literal "rewind"],
    inApp "GET" [literal "workflows", wildcard "workflowId", literal "steps"],
    inApp "GET" [literal "workflows", wildcard "workflowId", literal "streams"],
    inApp "GET" [literal "needs-attention"],
    inApp "GET" [literal "events"],
    inApp "POST" [literal "workflows", literal "enqueue"],
    inApp "POST" [literal "workflows", wildcard "workflowId", literal "send"],
    inApp "GET" [literal "workflows", wildcard "workflowId", literal "event"]]

/-- The routes of an organisation. -/
def orgRoutes : List OrgRoute :=
  organisationRoutes ++ applicationRoutes

namespace OrgRoute

/-- The segments of the pattern. -/
def segments (route : OrgRoute) : List Segment :=
  literal "v2" :: literal "orgs" :: wildcard "orgName" :: route.rest

/-- The pattern names an application. -/
def namesApp (route : OrgRoute) : Bool :=
  route.segments.contains (wildcard "appName")

/-- The route to join an organisation. -/
def joinOrg : OrgRoute := ⟨"POST", [literal "join"]⟩

/-- The route of the metrics of an application. -/
def metrics : OrgRoute := inApp "GET" [literal "metrics"]

/-- The routes any caller may use who may use the organisation. -/
def isOpen (route : OrgRoute) : Bool :=
  route.rest.head? = some (literal "permissions") ||
    route.rest.head? = some (literal "secrets")

/-- The permissions of which a caller of the route needs one. -/
def permissions (route : OrgRoute) (method : String) : List String :=
  if route = metrics ∧ method = methodGet then
    [permMetricRead, permApplicationRead]
  else if route.rest.head? = some (literal "apps") then
    [byMethod method permApplicationRead permApplicationWrite]
  else if route.rest.head? = some (literal "tokens") then
    [byMethod method permTokenRead permTokenWrite]
  else [byMethod method permOrgRead permOrgWrite]

end OrgRoute

/-! ## Matched requests -/

/-- The characters of an application's name. -/
def isAppNameLetter (letter : Char) : Bool :=
  isOrgNameLetter letter || letter = '-'

/-- `validateAppName`. -/
def validAppName (name : String) : Bool :=
  3 ≤ name.length && name.length ≤ 30 && name.toList.all isAppNameLetter

/-- The text of a segment in a pattern. -/
def Segment.shown : Segment → List Char
  | literal text => text.toList
  | wildcard name => '\x7b' :: (name.toList ++ ['\x7d'])

/-- The text of a segment in a path. -/
def Segment.value (values : String → String) : Segment → List Char
  | literal text => text.toList
  | wildcard name => (values name).toList

/-- The pattern as it is registered. -/
def OrgRoute.pattern (route : OrgRoute) : String :=
  route.method ++ " " ++
    String.ofList (join '/' (route.segments.map Segment.shown))

/-- The path which matches the pattern with the values. -/
def OrgRoute.path (route : OrgRoute) (values : String → String) : String :=
  String.ofList (join '/' (route.segments.map (Segment.value values)))

/-- A request to the route, with the method of the pattern. -/
def OrgRoute.request (route : OrgRoute) (values : String → String)
    (authorization tokenParameter : String) : HTTPRequest where
  method := route.method
  path := route.path values
  pattern := route.pattern
  orgName := values "orgName"
  appName := if route.namesApp then values "appName" else ""
  authorization := authorization
  tokenParameter := tokenParameter

/--
The request is handed to the route with the values of its wildcards; a pattern
for `GET` is matched by `HEAD` also.
-/
structure OrgRoute.Receives (route : OrgRoute) (values : String → String)
    (request : HTTPRequest) : Prop where
  method : request.method = route.method ∨
    route.method = methodGet ∧ request.method = "HEAD"
  pattern : request.pattern = route.pattern
  path : request.path = route.path values
  orgName : request.orgName = values "orgName"
  appName : request.appName = if route.namesApp then values "appName" else ""
  validOrg : validOrgName (values "orgName") = true
  validApp : route.namesApp = true → validAppName (values "appName") = true

/-! ## The segments of a matched path -/

/-- The first segment, if there is one, is a literal which splits off cleanly. -/
def startsClean : List Segment → Bool
  | [] => true
  | literal text :: _ => text ≠ "" && '/' ∉ text.toList
  | wildcard _ :: _ => false

/-- Where the literals and the wildcard of the application stand in a pattern. -/
def OrgRoute.shaped (route : OrgRoute) : Bool :=
  startsClean route.rest &&
    (!route.namesApp ||
      route = inApp route.method (route.rest.drop 2) &&
        startsClean (route.rest.drop 2) &&
        ((route.rest.drop 2).head? ≠ some (literal "metrics") ||
          route = OrgRoute.metrics))

theorem shaped_of_mem {route : OrgRoute} (member : route ∈ orgRoutes) :
    route.shaped = true := by
  have all : ∀ route ∈ orgRoutes, route.shaped = true := by decide
  exact all route member

theorem clean_of_all {text : String} {accepts : Char → Bool}
    (slash : accepts '/' = false)
    (valid : (3 ≤ text.length && text.length ≤ 30 &&
      text.toList.all accepts) = true) :
    Clean '/' text.toList := by
  simp only [Bool.and_eq_true, decide_eq_true_eq] at valid
  obtain ⟨⟨long, -⟩, all⟩ := valid
  constructor
  · intro empty
    rw [← String.length_toList, empty] at long
    exact absurd long (by decide)
  · intro member
    rw [List.all_eq_true.mp all '/' member] at slash
    cases slash

theorem clean_orgName {name : String} (valid : validOrgName name = true) :
    Clean '/' name.toList :=
  clean_of_all (by decide) valid

theorem clean_appName {name : String} (valid : validAppName name = true) :
    Clean '/' name.toList :=
  clean_of_all (by decide) valid

theorem clean_literal {text : String} {rest : List Segment}
    (starts : startsClean (literal text :: rest) = true) :
    Clean '/' text.toList := by
  simp only [startsClean, Bool.and_eq_true, decide_eq_true_eq] at starts
  refine ⟨fun empty => starts.1 ?_, starts.2⟩
  exact String.toList_eq_nil_iff.mp empty

/-- The segments of a path begin with the values of clean segments. -/
theorem pathSegments_path {route : OrgRoute} {values : String → String}
    {first more : List Segment} (split : route.segments = first ++ more)
    (clean : ∀ segment ∈ first, Clean '/' (segment.value values))
    (some : first ≠ []) :
    ∃ others, pathSegments (route.path values) =
      first.map (Segment.value values) ++ others ∧
        (more = [] → others = []) := by
  unfold pathSegments OrgRoute.path
  rw [String.toList_ofList, split, List.map_append]
  have cleanTexts : ∀ text ∈ first.map (Segment.value values),
      Clean '/' text := by
    intro text member
    obtain ⟨segment, present, rfl⟩ := List.mem_map.mp member
    exact clean segment present
  obtain ⟨others, found, none⟩ := segments_join
    (more.map (Segment.value values)) cleanTexts (by simpa using some)
  refine ⟨others, found, fun empty => none ?_⟩
  rw [empty, List.map_nil]

theorem clean_first {values : String → String} {more : List Segment}
    (validOrg : validOrgName (values "orgName") = true)
    (clean : ∀ segment ∈ more, Clean '/' (segment.value values)) :
    ∀ segment ∈ literal "v2" :: literal "orgs" :: wildcard "orgName" :: more,
      Clean '/' (segment.value values) := by
  have version : Clean '/' "v2".toList := ⟨by decide, by decide⟩
  have orgs : Clean '/' "orgs".toList := ⟨by decide, by decide⟩
  intro segment member
  simp only [List.mem_cons] at member
  rcases member with rfl | rfl | rfl | member
  · exact version
  · exact orgs
  · exact clean_orgName validOrg
  · exact clean segment member

theorem path_starts (route : OrgRoute) (values : String → String) :
    ∃ rest, (route.path values).toList = '/' :: 'v' :: '2' :: rest := by
  unfold OrgRoute.path
  rw [String.toList_ofList]
  exact ⟨_, rfl⟩

theorem path_ne {route : OrgRoute} {values : String → String} {other : String}
    (different : ¬['/', 'v', '2'] <+: other.toList) :
    route.path values ≠ other := by
  rintro rfl
  obtain ⟨rest, text⟩ := path_starts route values
  exact different (text ▸ ⟨rest, rfl⟩)

/-- The path of an organisation's route needs credentials. -/
theorem isPublic_path (route : OrgRoute) (values : String → String) :
    isPublic (route.path values) = false := by
  obtain ⟨rest, text⟩ := path_starts route values
  have health : route.path values ≠ "/healthz" := path_ne (by decide)
  have json : route.path values ≠ "/openapi.json" := path_ne (by decide)
  have older : route.path values ≠ "/openapi-3.0.json" := path_ne (by decide)
  have yaml : route.path values ≠ "/openapi.yaml" := path_ne (by decide)
  unfold isPublic
  rw [text]
  simp [health, json, older, yaml, List.isPrefixOf]

/-! ## What the middleware requires -/

/-- The permission of a route without an application, if it is not open. -/
theorem orgLevelRequiredPerm_path {route : OrgRoute}
    {values : String → String} (method : String)
    (member : route ∈ orgRoutes) (noApp : route.namesApp = false)
    (validOrg : validOrgName (values "orgName") = true) :
    orgLevelRequiredPerm method (route.path values) =
      if route.isOpen ∨ route.rest.head? = some (literal "join") then ""
      else (route.permissions method).headD "" := by
  have shaped := shaped_of_mem member
  have permissions : route.permissions method =
      if route.rest.head? = some (literal "apps") then
        [byMethod method permApplicationRead permApplicationWrite]
      else if route.rest.head? = some (literal "tokens") then
        [byMethod method permTokenRead permTokenWrite]
      else [byMethod method permOrgRead permOrgWrite] := by
    have notMetrics : route ≠ OrgRoute.metrics := by
      rintro rfl
      cases noApp
    rw [OrgRoute.permissions, if_neg fun both => notMetrics both.1]
  rw [permissions]
  unfold orgLevelRequiredPerm OrgRoute.isOpen
  cases rest : route.rest with
  | nil =>
      have split : route.segments =
          [literal "v2", literal "orgs", wildcard "orgName"] ++ [] := by
        rw [OrgRoute.segments, rest, List.append_nil]
      obtain ⟨others, found, none⟩ := pathSegments_path split
        (clean_first validOrg nofun) (List.cons_ne_nil _ _)
      rw [found, none rfl]
      simp [Segment.value]
  | cons segment more =>
      rw [OrgRoute.shaped, rest] at shaped
      cases segment with
      | wildcard name => cases shaped
      | literal text =>
          have clean := clean_literal (Bool.and_eq_true_iff.mp shaped).1
          have split : route.segments =
              [literal "v2", literal "orgs", wildcard "orgName",
                literal text] ++ more := by
            rw [OrgRoute.segments, rest]
            rfl
          obtain ⟨others, found, -⟩ := pathSegments_path split
            (clean_first validOrg (List.forall_mem_singleton.mpr clean))
            (List.cons_ne_nil _ _)
          rw [found]
          simp only [Segment.value, List.map_cons, List.map_nil,
            List.cons_append, List.nil_append, List.head?_cons,
            Option.some.injEq, literal.injEq, String.toList_inj, ne_eq,
            not_true_eq_false, or_self, if_false]
          by_cases apps : text = "apps"
          · simp [apps]
          · by_cases tokens : text = "tokens"
            · simp [tokens]
            · simp only [apps, tokens, if_false, List.headD_cons]
              by_cases opened : text = "permissions"
              · simp [opened]
              · by_cases joins : text = "join"
                · simp [joins]
                · by_cases secrets : text = "secrets"
                  · simp [secrets]
                  · simp [opened, joins, secrets]

/-- Only the path of the metrics route ends as the path of metrics. -/
theorem metrics_of_hasMetricsSuffix {route : OrgRoute}
    {values : String → String} (member : route ∈ orgRoutes)
    (namesApp : route.namesApp = true)
    (validOrg : validOrgName (values "orgName") = true)
    (validApp : validAppName (values "appName") = true)
    (suffix : hasMetricsSuffix (route.path values) = true) :
    route = OrgRoute.metrics := by
  have shaped := shaped_of_mem member
  rw [OrgRoute.shaped, namesApp] at shaped
  simp only [Bool.not_true, Bool.false_or, Bool.and_eq_true, Bool.or_eq_true,
    decide_eq_true_eq] at shaped
  obtain ⟨-, ⟨inApplication, starts⟩, onlyMetrics⟩ := shaped
  have app := clean_appName validApp
  have apps : Clean '/' "apps".toList := ⟨by decide, by decide⟩
  unfold hasMetricsSuffix at suffix
  cases rest : route.rest.drop 2 with
  | nil =>
      have split : route.segments =
          [literal "v2", literal "orgs", wildcard "orgName", literal "apps",
            wildcard "appName"] ++ [] := by
        rw [inApplication, rest]
        rfl
      obtain ⟨others, found, none⟩ := pathSegments_path split
        (clean_first validOrg (List.forall_mem_cons.mpr
          ⟨apps, List.forall_mem_singleton.mpr app⟩))
        (List.cons_ne_nil _ _)
      rw [found, none rfl] at suffix
      cases suffix
  | cons segment more =>
      rw [rest] at starts
      cases segment with
      | wildcard name => cases starts
      | literal text =>
          have clean := clean_literal starts
          have split : route.segments =
              [literal "v2", literal "orgs", wildcard "orgName", literal "apps",
                wildcard "appName", literal text] ++ more := by
            rw [inApplication, rest]
            rfl
          obtain ⟨others, found, -⟩ := pathSegments_path split
            (clean_first validOrg (List.forall_mem_cons.mpr
              ⟨apps, List.forall_mem_cons.mpr
                ⟨app, List.forall_mem_singleton.mpr clean⟩⟩))
            (List.cons_ne_nil _ _)
          rw [found] at suffix
          cases others with
          | cons other others => cases suffix
          | nil =>
              simp only [Segment.value, List.map_cons, List.map_nil,
                List.append_nil, Bool.and_eq_true, decide_eq_true_eq,
                String.toList_inj] at suffix
              refine onlyMetrics.resolve_left fun different => different ?_
              rw [rest, suffix.2]
              rfl

/-- The text by which the middleware knows the request to join. -/
theorem joinPattern_eq :
    "/v2/orgs/\x7borgName\x7d/join".toList =
      join '/' (OrgRoute.joinOrg.segments.map Segment.shown) := by
  decide

theorem shown_suffix_iff {route : OrgRoute} (member : route ∈ orgRoutes) :
    join '/' (OrgRoute.joinOrg.segments.map Segment.shown) <:+
        join '/' (route.segments.map Segment.shown) ↔
      route = OrgRoute.joinOrg := by
  have all : ∀ route ∈ orgRoutes,
      join '/' (OrgRoute.joinOrg.segments.map Segment.shown) <:+
          join '/' (route.segments.map Segment.shown) ↔
        route = OrgRoute.joinOrg := by decide +kernel
  exact all route member

/-- The request to join is the one the route to join receives. -/
theorem isJoin_iff {route : OrgRoute} {request : HTTPRequest}
    (member : route ∈ orgRoutes)
    (method : request.method = route.method ∨
      route.method = methodGet ∧ request.method = "HEAD")
    (pattern : request.pattern = route.pattern) :
    isJoin request = true ↔ route = OrgRoute.joinOrg := by
  have shown : route.pattern.toList = route.method.toList ++ ' ' ::
      join '/' (route.segments.map Segment.shown) := by
    rw [OrgRoute.pattern, String.toList_append, String.toList_append,
      String.toList_ofList]
    simp
  have notEmpty : request.pattern ≠ "" := by
    intro empty
    rw [← pattern, empty] at shown
    simp at shown
  unfold isJoin
  rw [if_pos notEmpty, pattern, joinPattern_eq, shown,
    Bool.and_eq_true, decide_eq_true_eq, List.isSuffixOf_iff_suffix]
  constructor
  · rintro ⟨-, suffix⟩
    refine (shown_suffix_iff member).mp ?_
    have noBlank :
        ' ' ∉ join '/' (OrgRoute.joinOrg.segments.map Segment.shown) := by
      decide
    rcases List.suffix_or_suffix_of_suffix suffix (List.suffix_append _ _) with
      within | beyond
    · rcases List.suffix_cons_iff.mp within with same | within
      · rw [same] at noBlank
        exact absurd List.mem_cons_self noBlank
      · exact within
    · exact absurd (beyond.subset List.mem_cons_self) noBlank
  · rintro rfl
    refine ⟨?_, ?_⟩
    · rcases method with same | ⟨isGet, -⟩
      · exact same
      · exact absurd isGet (by decide)
    · exact ((shown_suffix_iff member).mpr rfl).trans
        ((List.suffix_cons ' ' _).trans (List.suffix_append _ _))

theorem joinOrg_of_resource {route : OrgRoute} (member : route ∈ orgRoutes)
    (resource : route.rest.head? = some (literal "join")) :
    route = OrgRoute.joinOrg := by
  have all : ∀ route ∈ orgRoutes, route.rest.head? = some (literal "join") →
      route = OrgRoute.joinOrg := by decide
  exact all route member resource

theorem headD_permissions (route : OrgRoute) (method : String) :
    (route.permissions method).headD "" ∈ route.permissions method ∧
      (route.permissions method).headD "" ≠ "" := by
  unfold OrgRoute.permissions byMethod
  split_ifs <;> exact ⟨List.mem_cons_self, by decide⟩

/-- What a caller has who is not refused on a route without an application. -/
theorem permission_of_orgLevel {route : OrgRoute} {values : String → String}
    {method : String} {granted : List String} (member : route ∈ orgRoutes)
    (notJoin : route ≠ OrgRoute.joinOrg) (noApp : route.namesApp = false)
    (validOrg : validOrgName (values "orgName") = true)
    (holds : orgLevelRequiredPerm method (route.path values) ≠ "" →
      hasPermission granted
        (orgLevelRequiredPerm method (route.path values)) = true) :
    route.isOpen = true ∨ ∃ permission ∈ route.permissions method,
      permission ∈ granted := by
  rw [orgLevelRequiredPerm_path method member noApp validOrg] at holds
  by_cases isOpen : route.isOpen = true
  · exact Or.inl isOpen
  · have closed : ¬(route.isOpen = true ∨
        route.rest.head? = some (literal "join")) := by
      rintro (isOpen' | joins)
      · exact isOpen isOpen'
      · exact notJoin (joinOrg_of_resource member joins)
    rw [if_neg closed] at holds
    obtain ⟨listed, notEmpty⟩ := headD_permissions route method
    exact Or.inr ⟨_, listed, hasPermission_iff.mp (holds notEmpty)⟩

/-- What a caller has who is not refused on a route of an application. -/
theorem permission_of_app {route : OrgRoute} {values : String → String}
    {request : HTTPRequest} {granted : List String} (member : route ∈ orgRoutes)
    (received : route.Receives values request) (namesApp : route.namesApp = true)
    (holds : hasAppPermission request granted = true) :
    ∃ permission ∈ route.permissions request.method, permission ∈ granted := by
  unfold hasAppPermission appRequiredPerm at holds
  simp only [Bool.or_eq_true, Bool.and_eq_true, decide_eq_true_eq,
    hasPermission_iff] at holds
  by_cases reads : request.method = methodGet ∧
      hasMetricsSuffix request.path = true
  · have isMetrics : route = OrgRoute.metrics := by
      rw [received.path] at reads
      exact metrics_of_hasMetricsSuffix member namesApp received.validOrg
        (received.validApp namesApp) reads.2
    rw [OrgRoute.permissions, if_pos ⟨isMetrics, reads.1⟩]
    rw [if_pos reads] at holds
    simp only [List.mem_cons, List.not_mem_nil, or_false, exists_eq_or_imp,
      exists_eq_left]
    rcases holds with ⟨-, either⟩ | metric
    · exact either
    · exact Or.inl metric
  · rw [if_neg reads] at holds
    have granted := holds.resolve_left fun both => reads both.1
    have shaped := shaped_of_mem member
    rw [OrgRoute.shaped, namesApp] at shaped
    simp only [Bool.not_true, Bool.false_or, Bool.and_eq_true,
      decide_eq_true_eq] at shaped
    have resource : route.rest.head? = some (literal "apps") := by
      rw [shaped.2.1.1]
      rfl
    rw [OrgRoute.permissions]
    split_ifs with isMetrics
    · refine ⟨permApplicationRead, by simp, ?_⟩
      rwa [byMethod, if_pos isMetrics.2] at granted
    · exact ⟨_, List.mem_singleton_self _, granted⟩

end DbosRelay.Identity
