import DbosRelay.Identity.Handlers
import DbosRelay.Library.Paths
import Mathlib.Data.List.Infix

/-!
# The authentication middleware

`AuthMiddleware`, `resolvePersonalOrg` and `slugOrgName` of
`internal/api/auth_middleware.go`.  The middleware is a program over the store
which ends with the identity the next handler is called with, or with the
problem it reports.  The entries of the audit log are left out.
-/

namespace DbosRelay.Identity

open DbosRelay.Library.Paths
open DbosRelay.Library.Programs

/-! ## Requests and the server -/

/-- What the middleware reads of a request. -/
structure HTTPRequest where
  method : String
  path : String
  pattern : String
  orgName : String
  appName : String
  authorization : String
  tokenParameter : String
deriving DecidableEq, Repr

/-- The claims of a token the middleware reads. -/
structure Claims where
  subject : String
  preferredUsername : String
  email : String
deriving DecidableEq, Repr

/--
The server: the digest of a key, the hexadecimal digest of a user, and the
validator of tokens if one is configured.
-/
structure Server where
  authEnabled : Bool
  hash : String → String
  userDigest : String → ID → String
  validator : Option (String → Except String Claims)

/-- `http.MethodGet`. -/
def methodGet : String := "GET"

/-- `http.MethodPost`. -/
def methodPost : String := "POST"

/-! ## The permission of a path -/

/-- The segments of a path, without the slashes around it. -/
def pathSegments (path : String) : List (List Char) :=
  segments '/' path.toList

/-- `hasMetricsSuffix`. -/
def hasMetricsSuffix (path : String) : Bool :=
  match pathSegments path with
  | [version, orgs, _, apps, _, metrics] =>
      version = "v2".toList && orgs = "orgs".toList && apps = "apps".toList &&
        metrics = "metrics".toList
  | _ => false

/-- The permission to read for `GET`, to write for every other method. -/
def byMethod (method read write : String) : String :=
  if method = methodGet then read else write

/-- `orgLevelRequiredPerm`; the empty text is no permission. -/
def orgLevelRequiredPerm (method path : String) : String :=
  match pathSegments path with
  | version :: orgs :: _ :: rest =>
      if version ≠ "v2".toList ∨ orgs ≠ "orgs".toList then ""
      else
        match rest with
        | [] => byMethod method permOrgRead permOrgWrite
        | resource :: _ =>
            if resource = "apps".toList then
              byMethod method permApplicationRead permApplicationWrite
            else if resource = "tokens".toList then
              byMethod method permTokenRead permTokenWrite
            else if resource = "permissions".toList then ""
            else if resource = "join".toList then ""
            else if resource = "secrets".toList then ""
            else byMethod method permOrgRead permOrgWrite
  | _ => ""

/-! ## Personal organisations -/

/--
`unicode.ToLower` where it leads to an ASCII letter; what it does to the other
characters does not matter, because the slug leaves them out.
-/
def lowerRune (rune : Char) : Char :=
  if rune = Char.ofNat 0x130 then 'i'
  else if rune = Char.ofNat 0x212A then 'k'
  else rune.toLower

/-- The character of a slug for a lower-case character. -/
def slugRune (rune : Char) : Option Char :=
  if isOrgNameLetter rune then some rune
  else if rune = '.' ∨ rune = '-' then some '_'
  else none

/-- `slugOrgName`. -/
def slugOrgName (name : String) : String :=
  let kept := (name.toList.map lowerRune).filterMap slugRune
  let padded := kept ++ List.replicate (3 - kept.length) '_'
  String.ofList (padded.take 30)

/-- The name with the digest of the user, for a slug which is taken. -/
def disambiguated (server : Server) (user : User) : String :=
  String.ofList ((slugOrgName user.username).toList.take 21) ++ "_" ++
    String.ofList ((server.userDigest user.username user.id).toList.take 8)

/-- The organisation is upserted and the user becomes its admin. -/
def adoptOrganisation (user : User) (name : String) :
    StoreProgram (Except StoreError String) := do
  match ← issue (.upsertOrganisation name) with
  | .error error => return .error error
  | .ok org =>
      let _ ← issue (.upsertMemberRole org.id user.id roleAdmin)
      return .ok org.name

/-- `resolvePersonalOrg`. -/
def resolvePersonalOrg (server : Server) (user : User) :
    StoreProgram (Except StoreError String) := do
  match ← issue (.getOrganisationByName (slugOrgName user.username)) with
  | .error _ => adoptOrganisation user (slugOrgName user.username)
  | .ok org =>
      let member ← issue (.getMember org.id user.username)
      if (member.toOption.map MemberRow.userID) = some user.id then
        return .ok org.name
      else adoptOrganisation user (disambiguated server user)

/-- The organisation a user has first joined, or the personal one, and the role. -/
def homeOrganisation (server : Server) (user : User) :
    StoreProgram (Option (String × String)) := do
  let primary ← issue (.getUserPrimaryOrganisation user.id)
  match primary.toOption.filter fun row => row.name ≠ "" with
  | some row => return some (row.name, row.roleName)
  | none =>
      match ← resolvePersonalOrg server user with
      | .ok name => return some (name, roleAdmin)
      | .error _ => return none

/-! ## Authentication -/

/-- The problem of a request without valid credentials. -/
def unauthorized (detail : String) : Problem :=
  ⟨401, "Unauthorized", detail⟩

/-- The problem of a request which is not allowed. -/
def forbidden (detail : String) : Problem :=
  ⟨403, "Forbidden", detail⟩

/-- `KeyPrefix`. -/
def keyPrefix : String := "dbos_"

/-- The characters which fit into the first bytes of a text. -/
def firstBytes : Nat → List Char → List Char
  | _, [] => []
  | limit, letter :: rest =>
      if letter.utf8Size ≤ limit then
        letter :: firstBytes (limit - letter.utf8Size) rest
      else []

/-- `Lookup`. -/
def lookupOf (key : String) : String :=
  if key.utf8ByteSize < 12 then "" else String.ofList (firstBytes 12 key.toList)

/-- The pieces of an address. -/
def addressPieces (email : String) : List String :=
  (email.toList.splitOn '@').map String.ofList

/-- The username of the claims: preferred, of the address, or the subject. -/
def claimedUsername (claims : Claims) : String :=
  let username :=
    if claims.preferredUsername = "" ∧ claims.email ≠ "" then
      (addressPieces claims.email).headD ""
    else claims.preferredUsername
  if username = "" then claims.subject else username

/-- The domain of the claims, if there is an address with one. -/
def claimedDomain (claims : Claims) : Option String :=
  (addressPieces claims.email)[1]?

/-- The token of a request, from its header or its query. -/
def bearerToken (request : HTTPRequest) : Except Problem String :=
  let header :=
    if request.authorization = "" ∧ request.tokenParameter ≠ "" then
      "Bearer " ++ request.tokenParameter
    else request.authorization
  if header = "" then .error (unauthorized "Authorization header required")
  else
    match header.toList.splitOn ' ' with
    | scheme :: piece :: pieces =>
        if scheme.map Char.toLower = "bearer".toList then
          .ok (String.ofList ([' '].intercalate (piece :: pieces)))
        else .error (unauthorized "Bearer token format required")
    | _ => .error (unauthorized "Bearer token format required")

/-- An API key is looked up and compared. -/
def authenticateKey (server : Server) (token : String) :
    StoreProgram (Except Problem UserIdentity) := do
  match ← issue (.getAPIKeyByLookup (lookupOf token)) with
  | .error _ => fail (unauthorized "Invalid API key")
  | .ok key =>
      if server.hash token ≠ key.keyHash then
        fail (unauthorized "Invalid API key")
      else do
        let _ ← issue (.touchAPIKeyLastUsed key.id)
        let org ← issue (.getOrganisationByID key.organisationID)
        return .ok {
          subject := lookupOf token
          username := key.name
          email := ""
          isAdmin := false
          isAPIKey := true
          orgID := key.organisationID
          orgName := (org.toOption.map Organisation.name).getD ""
          role := ""
          applicationNames := key.applicationNames
          permissions := key.permissions }

/-- The user of the claims is upserted; a failure leaves what is stored. -/
def resolveUser (claims : Claims) : StoreProgram (Bool × User) := do
  let existing ← issue (.getUserBySubject claims.subject)
  match ← issue (.upsertUser claims.subject (claimedUsername claims)
    claims.email false) with
  | .ok user => return (existing.toOption.isNone, user)
  | .error _ => do
      let stored ← issue (.getUserBySubject claims.subject)
      return (existing.toOption.isNone, stored.toOption.getD zeroUser)

/-- A new user becomes a viewer of the organisation which claims the domain. -/
def joinClaimedDomain (claims : Claims) (isNewUser : Bool) (user : User) :
    StoreProgram Unit :=
  match claimedDomain claims with
  | none => .done ()
  | some domain =>
      if isNewUser then do
        match ← issue (.getDomainClaim domain) with
        | .error _ => return ()
        | .ok organisationID => do
            let _ ← issue (.upsertMemberRole organisationID user.id roleViewer)
            return ()
      else .done ()

/-- The identity of validated claims. -/
def authenticateClaims (server : Server) (claims : Claims) :
    StoreProgram UserIdentity := do
  let (isNewUser, user) ← resolveUser claims
  joinClaimedDomain claims isNewUser user
  let home ← homeOrganisation server user
  return {
    subject := claims.subject
    username := user.username
    email := user.email
    isAdmin := user.isAdmin
    isAPIKey := false
    orgID := 0
    orgName := (home.map Prod.fst).getD ""
    role := (home.map Prod.snd).getD ""
    applicationNames := []
    permissions := [] }

/-- The caller is identified by an API key or by the identity provider. -/
def authenticate (server : Server) (token : String) :
    StoreProgram (Except Problem UserIdentity) :=
  if keyPrefix.toList.isPrefixOf token.toList then authenticateKey server token
  else
    match server.validator with
    | none => fail (unauthorized "OIDC validator not configured")
    | some validate =>
        match validate token with
        | .error _ => fail (unauthorized "invalid token")
        | .ok claims => do return .ok (← authenticateClaims server claims)

/-! ## Authorisation -/

/-- The request is the one to join an organisation. -/
def isJoin (request : HTTPRequest) : Bool :=
  request.method = methodPost &&
    if request.pattern ≠ "" then
      "/v2/orgs/\x7borgName\x7d/join".toList.isSuffixOf request.pattern.toList
    else
      ("/v2/orgs/" ++ request.orgName ++ "/join").toList.isSuffixOf
        request.path.toList

/-- The permission a route of an application requires. -/
def appRequiredPerm (request : HTTPRequest) : String :=
  if request.method = methodGet ∧ hasMetricsSuffix request.path = true then
    permMetricRead
  else byMethod request.method permApplicationRead permApplicationWrite

/-- The caller has the permission a route of an application requires. -/
def hasAppPermission (request : HTTPRequest) (granted : List String) : Bool :=
  (request.method = methodGet && hasMetricsSuffix request.path &&
      (hasPermission granted permMetricRead ||
        hasPermission granted permApplicationRead)) ||
    hasPermission granted (appRequiredPerm request)

/-- Why a caller may not use a route of the organisation. -/
def accessRefusal (request : HTTPRequest) (identity : UserIdentity) :
    Option Problem :=
  if request.appName ≠ "" ∧ identity.isAPIKey = true ∧
      identity.applicationNames ≠ [] ∧
        request.appName ∉ identity.applicationNames then
    some (forbidden "API key does not have access to this application")
  else if request.appName = "" then
    let required := orgLevelRequiredPerm request.method request.path
    if identity.isAdmin = false ∧ identity.role ≠ roleAdmin ∧ required ≠ "" ∧
        hasPermission identity.permissions required = false then
      some (missingPermission required)
    else none
  else if hasAppPermission request identity.permissions = false ∧
      identity.isAdmin = false ∧ identity.role ≠ roleAdmin then
    some (missingPermission (appRequiredPerm request))
  else none

/-- The identity is allowed, or refused. -/
def finishAuthorisation (request : HTTPRequest) (identity : UserIdentity) :
    StoreProgram (Except Problem UserIdentity) :=
  match accessRefusal request identity with
  | some problem => fail problem
  | none => .done (.ok identity)

/-- A member of the organisation has the permissions of the role. -/
def authoriseMember (request : HTTPRequest) (identity : UserIdentity)
    (org : Organisation) : StoreProgram (Except Problem UserIdentity) := do
  match ← issue (.getMember org.id identity.username) with
  | .error _ => fail (forbidden "User is not a member of this organisation")
  | .ok member => do
      let role ← issue (.getRole org.id member.roleName)
      finishAuthorisation request { identity with
        orgName := org.name
        orgID := org.id
        role := member.roleName
        permissions := (role.toOption.map Role.permissions).getD [] }

/-- The problem of a name under which no organisation was found. -/
def unresolvedOrganisation (error : StoreError) : Problem :=
  if error = .noRows ∨ "not found".toList <:+: error.text.toList then
    ⟨404, "Not Found", "Organisation not found"⟩
  else ⟨500, "Internal Error", "Failed to resolve organisation"⟩

/-- A route with an organisation. -/
def authoriseOrganisation (request : HTTPRequest) (identity : UserIdentity) :
    StoreProgram (Except Problem UserIdentity) := do
  match ← issue (.getOrganisationByName request.orgName) with
  | .error error => fail (unresolvedOrganisation error)
  | .ok org =>
      if isJoin request then
        if identity.isAPIKey then
          fail (forbidden "API keys cannot join organisations")
        else return .ok { identity with orgName := org.name }
      else if identity.isAPIKey then
        if org.id ≠ identity.orgID then
          fail (forbidden "API key does not belong to this organisation")
        else if identity.applicationNames ≠ [] ∧ request.appName = "" then
          fail (forbidden "API key is scoped to specific applications and cannot access organization-level resources")
        else finishAuthorisation request { identity with orgName := org.name }
      else authoriseMember request identity org

/-- The paths without an organisation which any caller may read. -/
def openToCallers (path : String) : Bool :=
  path = "/v2/users/me" || path = "/v2/orgs" || path = "/v1/metrics"

/-- A route without an organisation. -/
def authoriseGlobal (server : Server) (request : HTTPRequest)
    (identity : UserIdentity) : StoreProgram (Except Problem UserIdentity) :=
  if openToCallers request.path = false ∧ identity.isAdmin = false then
    fail (forbidden "Global endpoints require admin privileges")
  else if identity.isAPIKey then .done (.ok identity)
  else do
    match ← issue (.getUserBySubject identity.subject) with
    | .error _ => return .ok identity
    | .ok user =>
        match ← homeOrganisation server user with
        | none => return .ok identity
        | some (name, role) =>
            return .ok { identity with orgName := name, role := role }

/-- The checks the path of a request calls for. -/
def authorise (server : Server) (request : HTTPRequest)
    (identity : UserIdentity) : StoreProgram (Except Problem UserIdentity) :=
  if request.orgName = "" then
    if request.path = "/v2/users/me" then .done (.ok identity)
    else authoriseGlobal server request identity
  else authoriseOrganisation request identity

/-- The paths which need no credentials. -/
def isPublic (path : String) : Bool :=
  path = "/healthz" || path = "/openapi.json" || path = "/openapi-3.0.json" ||
    path = "/openapi.yaml" || "/docs".toList.isPrefixOf path.toList ||
      "/schemas/".toList.isPrefixOf path.toList

/-- The identity the next handler is called with; public paths have none. -/
def authMiddleware (server : Server) (request : HTTPRequest) :
    StoreProgram (Except Problem (Option UserIdentity)) :=
  if server.authEnabled = false ∧ request.path ≠ "/v1/metrics" then
    .done (.ok (some localIdentity))
  else if isPublic request.path then .done (.ok none)
  else
    match bearerToken request with
    | .error problem => fail problem
    | .ok token => do
        match ← authenticate server token with
        | .error problem => fail problem
        | .ok identity =>
            match ← authorise server request identity with
            | .error problem => fail problem
            | .ok identity => return .ok (some identity)

end DbosRelay.Identity
