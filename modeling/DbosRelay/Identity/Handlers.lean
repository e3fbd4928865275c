import DbosRelay.Basic
import DbosRelay.Identity.Store

/-!
# The identity handlers

Roles, memberships, join secrets and tokens, from `internal/api/identity.go`,
`internal/api/tokens.go` and `internal/auth/permissions.go`.  A handler is a
program over the store; it ends with the body of its response or with the
problem it reports.  The entries of the audit log are left out: nothing here
reads them.
-/

namespace DbosRelay.Identity

open DbosRelay.Basic
open DbosRelay.Library.Programs
open DbosRelay.Library.Tables

/-! ## Permissions -/

def permApplicationRead : String := "application.read"

def permApplicationWrite : String := "application.write"

def permWebsocketConnect : String := "websocket.connect"

def permMetricRead : String := "metric.read"

def permOrgRead : String := "organization.read"

def permOrgWrite : String := "organization.write"

def permTokenRead : String := "token.read"

def permTokenWrite : String := "token.write"

def roleAdmin : String := "admin"

def roleOperator : String := "operator"

def roleViewer : String := "viewer"

/-- `CatalogPermissions`. -/
def catalogPermissions : List String :=
  [permApplicationRead, permApplicationWrite, permWebsocketConnect,
    permMetricRead, permOrgRead, permOrgWrite, permTokenRead, permTokenWrite]

/-- `RolePermissions`. -/
def rolePermissions (role : String) : List String :=
  if role = roleAdmin ∨ role = roleOperator then catalogPermissions
  else if role = roleViewer then
    [permApplicationRead, permMetricRead, permOrgRead, permTokenRead]
  else [permApplicationRead]

/-- `HasPermission`. -/
def hasPermission (granted : List String) (required : String) : Bool :=
  granted.any fun permission => permission = required

@[simp]
theorem hasPermission_iff {granted : List String} {required : String} :
    hasPermission granted required = true ↔ required ∈ granted := by
  simp [hasPermission]

/-! ## Identities -/

/-- `UserIdentity`. -/
structure UserIdentity where
  subject : String
  username : String
  email : String
  isAdmin : Bool
  isAPIKey : Bool
  orgID : ID
  orgName : String
  role : String
  applicationNames : List String
  permissions : List String
deriving DecidableEq, Repr

/-- The identity without authentication. -/
def localIdentity : UserIdentity where
  subject := "local"
  username := "local"
  email := "local@local"
  isAdmin := true
  isAPIKey := false
  orgID := 0
  orgName := "local"
  role := roleAdmin
  applicationNames := []
  permissions := []

/-- `isAdmin` of the identity in the context. -/
def isAdmin (identity : Option UserIdentity) : Bool :=
  match identity with
  | none => false
  | some identity => identity.isAdmin || identity.role = roleAdmin

/-- `requireOrgWrite`. -/
def requireOrgWrite (identity : Option UserIdentity) : Bool :=
  isAdmin identity ||
    match identity with
    | none => false
    | some identity => hasPermission identity.permissions permOrgWrite

/-- `isGlobalRole`. -/
def isGlobalRole (name : String) : Bool :=
  name = roleAdmin || name = roleOperator || name = roleViewer

/-! ## Problems -/

/-- The status, title and detail of a problem response. -/
structure Problem where
  status : Nat
  title : String
  detail : String
deriving DecidableEq, Repr

/-- `err.Error()`. -/
def StoreError.text : StoreError → String
  | .noRows => "no rows in result set"
  | .uniqueViolation => "UNIQUE constraint failed"
  | .failed message => message

/-- The problem of a caller without a permission. -/
def missingPermission (permission : String) : Problem :=
  ⟨403, "Forbidden", "Missing required permission: " ++ permission⟩

/-- The problem of a name without an organisation. -/
def organisationNotFound (title name : String) : Problem :=
  ⟨404, title, "organisation " ++ name.quote ++ " not found"⟩

/-- The problem of a name without a user. -/
def userNotFound (username : String) : Problem :=
  ⟨404, "Not Found", "user " ++ username.quote ++ " not found"⟩

/-- The end of a request with a problem. -/
def fail {Body : Type} (problem : Problem) : StoreProgram (Except Problem Body) :=
  .done (.error problem)

theorem not_ends_fail {Body : Type} {problem : Problem} {store after : Store}
    {body : Body} :
    ¬(fail problem : StoreProgram (Except Problem Body)).Ends perform store
      (.ok body) after := by
  intro ends
  cases (Program.ends_done.mp ends).1

/-- A request which succeeds passed the check. -/
theorem ends_unless {Body : Type} {refused : Prop} [Decidable refused]
    {problem : Problem} {program : StoreProgram (Except Problem Body)}
    {store after : Store} {body : Body}
    (ends : (if refused then fail problem else program).Ends perform store
      (.ok body) after) :
    ¬refused ∧ program.Ends perform store (.ok body) after := by
  by_cases isRefused : refused
  · rw [if_pos isRefused] at ends
    exact (not_ends_fail ends).elim
  · rw [if_neg isRefused] at ends
    exact ⟨isRefused, ends⟩

/-- A request which is refused leaves the store as it is. -/
theorem unchanged_of_fail {Body : Type} {problem : Problem}
    {store after : Store} {answer : Except Problem Body}
    (ends : (fail problem).Ends perform store answer after) : after = store :=
  (Program.ends_done.mp ends).2

theorem unchanged_or_ends {Body : Type} {refused : Prop} [Decidable refused]
    {problem : Problem} {program : StoreProgram (Except Problem Body)}
    {store after : Store} {answer : Except Problem Body}
    (ends : (if refused then fail problem else program).Ends perform store
      answer after) :
    after = store ∨ ¬refused ∧ program.Ends perform store answer after := by
  by_cases isRefused : refused
  · rw [if_pos isRefused] at ends
    exact Or.inl (unchanged_of_fail ends)
  · rw [if_neg isRefused] at ends
    exact Or.inr ⟨isRefused, ends⟩

/-- Who is not refused passed the check and all later ones. -/
theorem refusal_eq_none {refused : Prop} [Decidable refused] {Reason : Type}
    {reason : Reason} {later : Option Reason}
    (allowed : (if refused then some reason else later) = none) :
    ¬refused ∧ later = none := by
  by_cases isRefused : refused
  · rw [if_pos isRefused] at allowed
    cases allowed
  · rw [if_neg isRefused] at allowed
    exact ⟨isRefused, allowed⟩

/-- A request which is refused issues no statement. -/
theorem only_unless {Body : Type} {refused : Prop} [Decidable refused]
    {problem : Problem} {program : StoreProgram (Except Problem Body)}
    {allowed : Statement → Prop} (only : program.Only allowed) :
    (if refused then fail problem else program).Only allowed := by
  by_cases isRefused : refused
  · rw [if_pos isRefused]
    trivial
  · rw [if_neg isRefused]
    exact only

/-! ## Roles -/

/-- The body of a `CreateRole` request. -/
structure CreateRoleBody where
  name : String
  permissions : Option (List String)
deriving DecidableEq, Repr

/-- `CreateRoleRequestObject`. -/
structure CreateRoleRequest where
  orgName : String
  body : Option CreateRoleBody
deriving DecidableEq, Repr

/-- `CreateRoleOutputBody`. -/
structure CreateRoleOutput where
  name : String
  permissions : List String
deriving DecidableEq, Repr

/-- `handleCreateRole`. -/
def handleCreateRole (identity : Option UserIdentity)
    (request : CreateRoleRequest) :
    StoreProgram (Except Problem CreateRoleOutput) :=
  if requireOrgWrite identity = false then fail (missingPermission permOrgWrite)
  else do
    match ← issue (.getOrganisationByName request.orgName) with
    | .error _ => fail (organisationNotFound "Not Found" request.orgName)
    | .ok org =>
        match request.body with
        | none => fail ⟨400, "Bad Request", "Role name is required"⟩
        | some body =>
            if body.name = "" then
              fail ⟨400, "Bad Request", "Role name is required"⟩
            else if body.name.utf8ByteSize < 3 ∨ 30 < body.name.utf8ByteSize then
              fail ⟨400, "Bad Request",
                "Role name must be between 3 and 30 characters"⟩
            else
              match ← issue (.createRole org.id body.name
                (body.permissions.getD [])) with
              | .error error => fail ⟨400, "Bad Request", error.text⟩
              | .ok role => return .ok ⟨body.name, role.permissions⟩

/-- `DeleteRoleRequestObject`. -/
structure DeleteRoleRequest where
  orgName : String
  roleName : String
deriving DecidableEq, Repr

/-- `handleDeleteRole`. -/
def handleDeleteRole (identity : Option UserIdentity)
    (request : DeleteRoleRequest) : StoreProgram (Except Problem Unit) :=
  if requireOrgWrite identity = false then fail (missingPermission permOrgWrite)
  else do
    match ← issue (.getOrganisationByName request.orgName) with
    | .error _ => fail (organisationNotFound "Not Found" request.orgName)
    | .ok org =>
        if isGlobalRole request.roleName then
          fail ⟨403, "Forbidden", "Cannot delete built-in global role"⟩
        else
          match ← issue (.deleteRole org.id request.roleName) with
          | .error error => fail ⟨500, "Internal Server Error", error.text⟩
          | .ok _ => return .ok ()

/-- `GrantRoleRequestObject`. -/
structure GrantRoleRequest where
  orgName : String
  username : String
  roleName : String
deriving DecidableEq, Repr

/-- `handleGrantRole`. -/
def handleGrantRole (identity : Option UserIdentity)
    (request : GrantRoleRequest) : StoreProgram (Except Problem Unit) :=
  if requireOrgWrite identity = false then fail (missingPermission permOrgWrite)
  else do
    match ← issue (.getOrganisationByName request.orgName) with
    | .error _ => fail (organisationNotFound "Not Found" request.orgName)
    | .ok org =>
        match ← issue (.getUserByUsername request.username) with
        | .error _ => fail (userNotFound request.username)
        | .ok user =>
            match ← issue (.upsertMemberRole org.id user.id
              request.roleName) with
            | .error error => fail ⟨500, "Internal Server Error", error.text⟩
            | .ok _ => return .ok ()

/-! ## Join secrets -/

/-- `orgSecretEntry`. -/
structure OrgSecretEntry where
  secret : String
  expiresAt : Time
deriving DecidableEq, Repr

/-- `joinSecretTTL`. -/
def joinSecretTTL : Duration := 3600 * second

/-- `orgSecrets`, by the name of the organisation. -/
abbrev OrgSecrets := Table String OrgSecretEntry

/--
`handleGenerateSecret`, at a time and with the secret the random bytes make;
`none` when there are none.
-/
def handleGenerateSecret (identity : Option UserIdentity) (orgName : String)
    (now : Time) (random : Option String) (secrets : OrgSecrets) :
    StoreProgram (Except Problem String × OrgSecrets) :=
  if requireOrgWrite identity = false then
    .done (.error (missingPermission permOrgWrite), secrets)
  else do
    match ← issue (.getOrganisationByName orgName) with
    | .error _ =>
        return (.error (organisationNotFound "Not Found" orgName), secrets)
    | .ok org =>
        match random with
        | none =>
            return (.error ⟨500, "Internal Server Error", "Generating secret"⟩,
              secrets)
        | some secret =>
            return (.ok secret,
              secrets.insert org.name ⟨secret, now + joinSecretTTL⟩)

/-- The letters of an organisation's name. -/
def isOrgNameLetter (letter : Char) : Bool :=
  letter.isLower || letter.isDigit || letter = '_'

/-- `validateOrgName`. -/
def validOrgName (name : String) : Bool :=
  3 ≤ name.length && name.length ≤ 30 && name.toList.all isOrgNameLetter

/-- The limits of `audit_log_retention_days`. -/
def minAuditLogRetentionDays : Int := 7

def maxAuditLogRetentionDays : Int := 3650

/-- `UpdateOrgRequestObject`. -/
structure UpdateOrgRequest where
  orgName : String
  newName : Option String
  auditLogRetentionDays : Option Int
deriving DecidableEq, Repr

/-- The new name an `UpdateOrg` request gives, if it is one. -/
def UpdateOrgRequest.renames (request : UpdateOrgRequest)
    (name : String) : Option String :=
  request.newName.filter fun newName => newName ≠ "" && newName ≠ name

/-- The retention days are checked, then the row is updated. -/
def finishUpdateOrg (request : UpdateOrgRequest) (id : ID)
    (newName : Option String) : StoreProgram (Except Problem Unit) :=
  if request.auditLogRetentionDays.any fun days =>
      days < minAuditLogRetentionDays || maxAuditLogRetentionDays < days then
    fail ⟨422, "Validation Error",
      "audit log retention must be between 7 and 3650 days"⟩
  else if newName = none ∧ request.auditLogRetentionDays = none then
    .done (.ok ())
  else do
    match ← issue (.updateOrganisation id newName) with
    | .error error => fail ⟨500, "Internal Server Error", error.text⟩
    | .ok _ => return .ok ()

/-- `handleUpdateOrg`. -/
def handleUpdateOrg (identity : Option UserIdentity)
    (request : UpdateOrgRequest) : StoreProgram (Except Problem Unit) := do
  match ← issue (.getOrganisationByName request.orgName) with
  | .error _ =>
      fail (organisationNotFound "Organisation not found" request.orgName)
  | .ok org =>
      if requireOrgWrite identity = false then
        fail (missingPermission permOrgWrite)
      else
        match request.renames org.name with
        | none => finishUpdateOrg request org.id none
        | some newName =>
            if validOrgName newName = false then
              fail ⟨422, "Validation Error", "organization name must be 3-30 characters and contain only lowercase alphanumeric characters and underscores"⟩
            else
              match ← issue (.getOrganisationByName newName) with
              | .ok _ =>
                  fail ⟨409, "Conflict",
                    "organisation " ++ newName.quote ++ " already exists"⟩
              | .error _ => finishUpdateOrg request org.id (some newName)

/-- `JoinOrgRequestObject`; an empty secret is an absent one. -/
structure JoinOrgRequest where
  orgName : String
  secret : String
deriving DecidableEq, Repr

/-- The membership a join writes, unless the user is an admin already. -/
def finishJoinOrg (username : String) (org : Organisation) :
    StoreProgram (Except Problem Unit) := do
  let existing ← issue (.getMember org.id username)
  if (existing.toOption.map MemberRow.roleName) = some roleAdmin then
    return .ok ()
  else
    match ← issue (.getUserByUsername username) with
    | .error _ => fail ⟨404, "Not Found", "User not found"⟩
    | .ok user =>
        match ← issue (.upsertMemberRole org.id user.id roleViewer) with
        | .error error => fail ⟨500, "Internal Server Error", error.text⟩
        | .ok _ => return .ok ()

/-- `handleJoinOrg`, at a time. -/
def handleJoinOrg (identity : Option UserIdentity) (request : JoinOrgRequest)
    (now : Time) (secrets : OrgSecrets) :
    StoreProgram (Except Problem Unit) := do
  match ← issue (.getOrganisationByName request.orgName) with
  | .error _ =>
      fail (organisationNotFound "Organisation not found" request.orgName)
  | .ok org =>
      let username := match identity with
        | none => "user"
        | some identity =>
            if identity.username = "" then "user" else identity.username
      if request.secret = "" then
        fail ⟨400, "Bad Request", "Secret is required"⟩
      else
        match secrets.lookup org.name with
        | none => fail ⟨403, "Forbidden", "Invalid join secret"⟩
        | some entry =>
            if entry.secret ≠ request.secret then
              fail ⟨403, "Forbidden", "Invalid join secret"⟩
            else if entry.expiresAt < now then
              fail ⟨403, "Forbidden", "Join secret has expired"⟩
            else finishJoinOrg username org

/-! ## Tokens -/

/-- `CreateTokenRequestObject`. -/
structure CreateTokenRequest where
  orgName : String
  tokenName : String
  appNames : Option (List String)
  permissions : Option (List String)
deriving DecidableEq, Repr

/-- The lookup and the hash `Mint` makes of its random bytes. -/
structure MintedKey where
  lookup : String
  hash : String
deriving DecidableEq, Repr

/-- `normalizeOrg`. -/
def normalizeOrg (orgName : String) : String :=
  if orgName = "" then "local" else orgName

/-- What a caller who is no admin may not put in a token. -/
def tokenRefusal (caller : UserIdentity)
    (appNames permissions : List String) : Option Problem :=
  if hasPermission caller.permissions permTokenWrite = false then
    some (missingPermission permTokenWrite)
  else if caller.applicationNames ≠ [] ∧ appNames = [] then
    some ⟨403, "Forbidden", "App-scoped caller cannot mint unscoped tokens"⟩
  else
    match if caller.applicationNames = [] then none
        else appNames.find? fun app => app ∉ caller.applicationNames with
    | some app =>
        some ⟨403, "Forbidden",
          "Cannot grant app " ++ app.quote ++ " outside caller scope"⟩
    | none =>
        match permissions.find? fun permission =>
            hasPermission caller.permissions permission = false with
        | some permission =>
            some ⟨403, "Forbidden",
              "Cannot grant permission " ++ permission.quote ++
                " outside caller scope"⟩
        | none => none

/-- The permissions of a new token: those asked for, or the caller's. -/
def tokenPermissions (identity : Option UserIdentity)
    (permissions : List String) : List String :=
  if permissions = [] then
    match identity with
    | some caller =>
        if isAdmin identity then catalogPermissions else caller.permissions
    | none => catalogPermissions
  else permissions

/-- `CreateToken`, with the key `Mint` makes or the error it fails with. -/
def createToken (identity : Option UserIdentity) (request : CreateTokenRequest)
    (minted : Except String MintedKey) : StoreProgram (Except Problem Unit) := do
  match ← issue (.getOrganisationByName (normalizeOrg request.orgName)) with
  | .error .noRows =>
      fail (organisationNotFound "Organisation not found"
        (normalizeOrg request.orgName))
  | .error _ =>
      fail ⟨503, "Service Unavailable", "database store is unavailable"⟩
  | .ok org =>
      match minted with
      | .error message => fail ⟨500, "Internal Server Error", message⟩
      | .ok key =>
          let appNames := request.appNames.getD []
          let permissions := request.permissions.getD []
          let refusal := match identity with
            | some caller =>
                if isAdmin identity then none
                else tokenRefusal caller appNames permissions
            | none => none
          match refusal with
          | some problem => fail problem
          | none =>
              match ← issue (.createAPIKey org.id request.tokenName key.lookup
                key.hash appNames (tokenPermissions identity permissions)) with
              | .error .uniqueViolation =>
                  fail ⟨409, "Conflict", "an active token named " ++
                    request.tokenName.quote ++ " already exists"⟩
              | .error error => fail ⟨500, "Internal Server Error", error.text⟩
              | .ok _ => return .ok ()

end DbosRelay.Identity
